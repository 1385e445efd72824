import SuiteAudit.Proofs.Layout

/-!
# Blocks read back

Blocks that are written one below the other, each with the line that ends it and blank lines below that, are
read back with their bodies (`split_flatMap_blockLines`). A body may hold lines that look like the end of its
block: the last one before the next declaration ends it.
-/

namespace SuiteAudit

open Text

theorem Declaration.read?_of_blank {line : Text} (oneLine : '\n' ∉ line) (blank : allBlank line = true) :
    Declaration.read? line = none := by
  have empty : trim line = [] := by rwa [← List.isEmpty_iff, ← Line.allBlank_eq_isEmpty_trim]
  rw [← read?_trim oneLine, empty]
  decide

/-- The lines of a block that does not end on the line of its declaration: the declaration, the body, the line
that ends the block, and blank lines. -/
structure BlockLines where
  first : Text
  declaration : Declaration
  body : List Text
  /-- The white space before a closing parenthesis, if one follows the terminator. -/
  gap : Option Text
  blanks : List Text
  oneLine : '\n' ∉ first
  declared : Declaration.read? first = some declaration
  continued : declaration.block.closed = false
  bodyLine : ∀ line ∈ body, '\n' ∉ line ∧ trim line = line ∧ Declaration.read? line = none
  gapBlank : ∀ space ∈ gap, '\n' ∉ space ∧ allBlank space = true
  blankLine : ∀ line ∈ blanks, '\n' ∉ line ∧ allBlank line = true

namespace BlockLines

variable (b : BlockLines)

/-- What follows the terminator on the last line of the block. -/
def closing : Text := (b.gap.map (· ++ [')'])).getD []

def last : Text := Block.terminator b.declaration.block.opener ++ b.closing

def below : List Text := b.body ++ b.last :: b.blanks

def lines : List Text := b.first :: b.below

def block (n : Nat) : Block := ⟨b.declaration, n, b.body⟩

theorem closing_cases : b.closing = [] ∨
    ∃ space, '\n' ∉ space ∧ allBlank space = true ∧ b.closing = space ++ [')'] := by
  cases found : b.gap with
  | none => exact .inl (by simp [closing, found])
  | some space =>
      obtain ⟨oneLine, blank⟩ := b.gapBlank space found
      exact .inr ⟨space, oneLine, blank, by simp [closing, found]⟩

theorem last_oneLine : '\n' ∉ b.last := by
  have word : '\n' ∉ Block.terminator b.declaration.block.opener := by
    cases b.declaration.block.opener <;> decide
  rcases b.closing_cases with none | ⟨space, oneLine, -, closed⟩
  · simpa [last, none] using word
  · simp [last, closed, word, oneLine]

theorem read?_last : Declaration.read? b.last = none := by
  rw [last]
  cases b.declaration.block.opener <;> rfl

theorem trim_last : trim b.last = b.last := by
  have solid : b.last.getLast?.any isBlank = false := by
    rcases b.closing_cases with none | ⟨space, -, -, closed⟩
    · rw [last, none, List.append_nil]
      cases b.declaration.block.opener <;> decide
    · rw [last, closed, ← List.append_assoc, List.getLast?_concat]
      rfl
  have start : trimStart b.last = b.last := by
    rw [last]
    cases b.declaration.block.opener <;> rfl
  rw [trim, start, trimEnd_eq_self solid]

theorem isTerminator_last : Block.isTerminator b.declaration.block.opener b.last = true := by
  rw [Block.isTerminator, Bool.or_eq_true, decide_eq_true_eq, decide_eq_true_eq]
  rcases b.closing_cases with none | ⟨space, -, blank, closed⟩
  · exact .inl (by rw [last, none, List.append_nil])
  · refine .inr ?_
    have cut : before? ")" b.last = some (Block.terminator b.declaration.block.opener ++ space) :=
      before?_eq_some.mpr (by rw [last, closed, List.append_assoc]; rfl)
    rw [cut, Option.map_some, trimEnd_append_of_blank _ (List.all_eq_true.mp blank)]
    cases b.declaration.block.opener <;> decide

theorem below_plain {line : Text} (member : line ∈ b.below) :
    '\n' ∉ line ∧ Declaration.read? line = none := by
  rcases List.mem_append.mp member with body | rest
  · exact ⟨(b.bodyLine line body).1, (b.bodyLine line body).2.2⟩
  · rcases List.mem_cons.mp rest with rfl | blank
    · exact ⟨b.last_oneLine, b.read?_last⟩
    · obtain ⟨oneLine, blank⟩ := b.blankLine line blank
      exact ⟨oneLine, Declaration.read?_of_blank oneLine blank⟩

theorem lines_oneLine {line : Text} (member : line ∈ b.lines) : '\n' ∉ line := by
  rcases List.mem_cons.mp member with rfl | below
  · exact b.oneLine
  · exact (b.below_plain below).1

end BlockLines

namespace Block

theorem beforeLast?_append {test : Text → Bool} {line : Text} (passes : test line = true)
    {rest : List Text} (fails : ∀ line ∈ rest, test line = false) (lines : List Text) :
    beforeLast? test (lines ++ line :: rest) = some lines := by
  have skipped : ∀ line ∈ rest.reverse, (!test line) = true := by
    intro line member
    rw [fails line (List.mem_reverse.mp member), Bool.not_false]
  rw [beforeLast?, List.reverse_append, List.reverse_cons, List.append_assoc,
    List.dropWhile_append_of_pos skipped]
  simp [passes]

theorem bodyBelow_below (b : BlockLines) : bodyBelow b.declaration.block b.below = b.body := by
  have body : b.body.map trim = b.body := by
    conv_rhs => rw [← List.map_id b.body]
    exact List.map_congr_left fun line member => (b.bodyLine line member).2.1
  have blanks : ∀ line ∈ b.blanks.map trim, isTerminator b.declaration.block.opener line = false := by
    intro line member
    obtain ⟨blank, found, rfl⟩ := List.mem_map.mp member
    have empty := (b.blankLine blank found).2
    rw [Line.allBlank_eq_isEmpty_trim, List.isEmpty_iff] at empty
    rw [empty]
    cases b.declaration.block.opener <;> decide
  have cut : beforeLast? (isTerminator b.declaration.block.opener) (b.below.map trim) = some b.body := by
    rw [BlockLines.below, List.map_append, List.map_cons, body, b.trim_last]
    exact beforeLast?_append b.isTerminator_last blanks b.body
  simp only [bodyBelow, b.continued, Bool.false_eq_true, if_false, bodyOf, cut]

theorem split_append_plain {lines : List Text} (plain : ∀ line ∈ lines, Declaration.read? line = none)
    (n : Nat) (rest : List Text) : split n (lines ++ rest) = split (n + lines.length) rest := by
  induction lines generalizing n with
  | nil => rfl
  | cons line lines ih =>
      obtain ⟨first, later⟩ := List.forall_mem_cons.mp plain
      simp only [List.cons_append, split, first, ih later, List.length_cons]
      congr 1
      omega

theorem split_blockLines (b : BlockLines) (n : Nat) {rest : List Text}
    (next : ∀ line ∈ rest.head?, (Declaration.read? line).isNone = false) :
    split n (b.lines ++ rest) = b.block n :: split (n + b.lines.length) rest := by
  -- The lines for the block end where the next declaration stands, so they are its own.
  have plain : ∀ line ∈ b.below, Declaration.read? line = none := fun line member => (b.below_plain member).2
  have below : ((b.below ++ rest).takeWhile fun line => (Declaration.read? line).isNone) = b.below := by
    rw [List.takeWhile_append_of_pos fun line member => Option.isNone_iff_eq_none.mpr (plain line member)]
    cases rest with
    | nil => simp
    | cons line rest => simp [next line rfl]
  rw [BlockLines.lines, List.cons_append, split, b.declared]
  simp only [below, bodyBelow_below, split_append_plain plain, List.length_cons]
  rw [BlockLines.block, Nat.add_assoc, Nat.add_comm 1]

theorem split_flatMap_blockLines (bs : List BlockLines) (n : Nat) :
    split n (bs.flatMap BlockLines.lines) =
      bs.mapIdx fun i b => b.block (n + ((bs.take i).flatMap BlockLines.lines).length) := by
  induction bs generalizing n with
  | nil => rfl
  | cons b bs ih =>
      have next : ∀ line ∈ (bs.flatMap BlockLines.lines).head?, (Declaration.read? line).isNone = false := by
        cases bs with
        | nil => simp
        | cons b bs => simp [BlockLines.lines, b.declared]
      rw [List.flatMap_cons, split_blockLines b n next, ih, List.mapIdx_cons]
      simp [Nat.add_assoc]

theorem ofText_join {ls : List Text} (oneLine : ∀ line ∈ ls, '\n' ∉ line) :
    ofText (join ['\n'] ls) = split 1 ls :=
  read_join (split 1) (fun _ => split_trim 1) (split_concat_nil 1) oneLine

/-- Below lines that declare nothing, blocks are read back one by one: the declaration of each, the line where
it is written, and its body. -/
theorem ofText_blockLines (above : List Text)
    (plain : ∀ line ∈ above, '\n' ∉ line ∧ Declaration.read? line = none) (bs : List BlockLines) :
    ofText (join ['\n'] (above ++ bs.flatMap BlockLines.lines)) =
      bs.mapIdx fun i b =>
        ⟨b.declaration, (above ++ (bs.take i).flatMap BlockLines.lines).length + 1, b.body⟩ := by
  have oneLine : ∀ line ∈ above ++ bs.flatMap BlockLines.lines, '\n' ∉ line := by
    refine List.forall_mem_append.mpr ⟨fun line member => (plain line member).1, fun line member => ?_⟩
    obtain ⟨b, -, inside⟩ := List.mem_flatMap.mp member
    exact b.lines_oneLine inside
  rw [ofText_join oneLine, split_append_plain fun line member => (plain line member).2,
    split_flatMap_blockLines]
  refine congrArg (bs.mapIdx ·) (funext fun i => funext fun b => ?_)
  rw [BlockLines.block, List.length_append]
  congr 1
  omega

/-- A definition whose body has ends of its own and a blank line. -/
def nestedEnds : BlockLines where
  first := "  Given /^a$/ do |x| # see"
  declaration := .step ⟨"Given", .regex "^a$" [], ⟨.word, some "x", false, none⟩⟩
  body := ["if x", "end", "", "end)", "\x7d"]
  gap := some " "
  blanks := ["", "\t"]
  oneLine := by decide
  declared := by decide +kernel
  continued := rfl
  bodyLine := by decide +kernel
  gapBlank := by decide
  blankLine := by decide

def bracedHook : BlockLines where
  first := "Before('@a') \x7b"
  declaration := .hook ⟨.before, .parenthesized "'@a'", ⟨.brace, none, false, none⟩⟩
  body := ["\x7d", "end"]
  gap := none
  blanks := []
  oneLine := by decide
  declared := by decide +kernel
  continued := rfl
  bodyLine := by decide +kernel
  gapBlank := by decide
  blankLine := by decide

def methodEnd : List Text := ["end", ""]

theorem ofText_blockLines_nestedEnds :
    (∀ line ∈ methodEnd, '\n' ∉ line ∧ Declaration.read? line = none) ∧
      ofText (join ['\n'] (methodEnd ++ [nestedEnds, bracedHook].flatMap BlockLines.lines)) =
        [⟨nestedEnds.declaration, 3, nestedEnds.body⟩, ⟨bracedHook.declaration, 12, bracedHook.body⟩] := by
  have plain : ∀ line ∈ methodEnd, '\n' ∉ line ∧ Declaration.read? line = none := by decide +kernel
  exact ⟨plain, ofText_blockLines methodEnd plain [nestedEnds, bracedHook]⟩

end Block

end SuiteAudit
