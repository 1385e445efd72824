import SuiteAudit.Text.Width

/-!
# Tables in a frame

Columns are as wide as their widest cell, with a blank on each side. A double line stands below the
header and a dashed one between rows. A cell may have several lines.
-/

namespace SuiteAudit.Table

def cellLines (cell : Text) : List Text := Text.split '\n' cell

def cellWidth (cell : Text) : Nat := ((cellLines cell).map Text.width).foldl max 0

def columnWidths (rows : List (List Text)) : List Nat :=
  rows.foldl (fun widths row =>
    let cells := row.map cellWidth
    let count := max widths.length cells.length
    (List.range count).map fun i => max (widths.getD i 0) (cells.getD i 0)) []

def rule (left line cross right : Char) (widths : List Nat) : Text :=
  left :: (Text.join [cross] (widths.map fun w => List.replicate (w + 2) line) ++ [right])

def rowLine (widths : List Nat) (cells : List Text) : Text :=
  let padded := (widths.zip cells).map fun (w, c) => ' ' :: (Text.fill w c ++ [' '])
  '│' :: (Text.join ['┆'] padded ++ ['│'])

def rowLines (widths : List Nat) (row : List Text) : List Text :=
  let cells := row.map cellLines
  let height := (cells.map List.length).foldl max 0
  (List.range height).map fun i => rowLine widths (cells.map fun c => c.getD i [])

def render (header : List Text) (rows : List (List Text)) : List Text :=
  let widths := columnWidths (header :: rows)
  let dashes := rule '├' '╌' '┼' '┤' widths
  let body := (rows.map (rowLines widths)).intersperse [dashes]
  rule '┌' '─' '┬' '┐' widths :: rowLines widths header ++
    rule '╞' '═' '╪' '╡' widths :: body.flatten ++ [rule '└' '─' '┴' '┘' widths]

end SuiteAudit.Table
