import SuiteAudit.Text.CharWidth

/-!
# Display width

How many columns a text takes on a terminal. That is the sum of the widths of its characters, except
where characters join: pictures with their selectors, skin tones and joiners are one picture, the
ligatures that a script requires are one letter, and a line break is one character.

A text is measured from its end. What stands to the right of a character decides whether the
character joins it.
-/

namespace SuiteAudit.Text

/-- How what stands to the right can join the character before it. -/
inductive Joint
  | none
  | lineFeed
  | skinTone
  | region
  | regions
  | picture
  | joinedPicture
  | joinedKey
  | joinedRegion
  | joinedRegions (even : Bool)
  /-- The end of the tags of a flag with the tags so far, a joiner and a picture. -/
  | joinedTags (letters digits : Nat)
  /-- A vowel sign of Kirat Rai that may be the second half of another one. -/
  | kiratE
  | kiratAi
  | alef
  | lamed (joined : Bool)
  | ya (joined : Bool)
  | vowelYa
  | tifinagh (joined : Bool)
  /-- A consonant of Tifinagh after the joiner of that script. -/
  | tifinaghJoined
  | tone
  | orkhonI (joined : Bool)
  /-- A Khmer letter that can be written below another one. -/
  | subscript
deriving DecidableEq

namespace Joint

/-- Whether the joint belongs to a ligature of a script, which selectors do not break. -/
def isLigature : Joint → Bool
  | alef | lamed _ | ya _ | vowelYa | tifinagh _ | tifinaghJoined | tone | orkhonI _
  | subscript => true
  | _ => false

/-- Whether joiners and marks that are not shown do not break the joint. -/
def isTransparent (j : Joint) : Bool := j.isLigature && j != alef

/-- Whether a joiner before a picture waits for another picture. -/
def isJoined : Joint → Bool
  | joinedPicture | joinedKey => true
  | _ => false

def joined : Joint → Joint
  | lamed _ => lamed true
  | ya _ => ya true
  | tifinagh _ => tifinagh true
  | orkhonI _ => orkhonI true
  | j => j

end Joint

inductive Selector
  | picture
  | plain
  | full
deriving DecidableEq

structure Right where
  joint : Joint := .none
  selector : Option Selector := Option.none
deriving DecidableEq

namespace Right

def select (r : Right) (s : Selector) : Right :=
  let kept := r.joint.isLigature || (s = .picture && r.joint.isJoined)
  { joint := if kept then r.joint else .none, selector := some s }

/-- What stands to the right of a character that the selector does not concern. -/
def unselect (r : Right) : Right :=
  { joint := if r.joint.isLigature then r.joint else .none }

end Right

/-! ## Kinds of characters -/

def hasPlainForm : Char → Bool :=
  within
    [(0x231A, 0x231B), (0x23E9, 0x23EC), (0x23F0, 0x23F0), (0x23F3, 0x23F3), (0x25FD, 0x25FE),
     (0x2614, 0x2615), (0x2648, 0x2653), (0x267F, 0x267F), (0x2693, 0x2693), (0x26A1, 0x26A1),
     (0x26AA, 0x26AB), (0x26BD, 0x26BE), (0x26C4, 0x26C5), (0x26CE, 0x26CE), (0x26D4, 0x26D4),
     (0x26EA, 0x26EA), (0x26F2, 0x26F3), (0x26F5, 0x26F5), (0x26FA, 0x26FA), (0x26FD, 0x26FD),
     (0x2705, 0x2705), (0x270A, 0x270B), (0x2728, 0x2728), (0x274C, 0x274C), (0x274E, 0x274E),
     (0x2753, 0x2755), (0x2757, 0x2757), (0x2795, 0x2797), (0x27B0, 0x27B0), (0x27BF, 0x27BF),
     (0x2B1B, 0x2B1C), (0x2B50, 0x2B50), (0x2B55, 0x2B55), (0x1F004, 0x1F004), (0x1F21A, 0x1F21A),
     (0x1F22F, 0x1F22F), (0x1F30D, 0x1F30F), (0x1F315, 0x1F315), (0x1F31C, 0x1F31C),
     (0x1F378, 0x1F378), (0x1F393, 0x1F393), (0x1F3A7, 0x1F3A7), (0x1F3AC, 0x1F3AE),
     (0x1F3C2, 0x1F3C2), (0x1F3C4, 0x1F3C4), (0x1F3C6, 0x1F3C6), (0x1F3CA, 0x1F3CA),
     (0x1F3E0, 0x1F3E0), (0x1F3ED, 0x1F3ED), (0x1F408, 0x1F408), (0x1F415, 0x1F415),
     (0x1F41F, 0x1F41F), (0x1F426, 0x1F426), (0x1F442, 0x1F442), (0x1F446, 0x1F449),
     (0x1F44D, 0x1F44E), (0x1F453, 0x1F453), (0x1F46A, 0x1F46A), (0x1F47D, 0x1F47D),
     (0x1F4A3, 0x1F4A3), (0x1F4B0, 0x1F4B0), (0x1F4B3, 0x1F4B3), (0x1F4BB, 0x1F4BB),
     (0x1F4BF, 0x1F4BF), (0x1F4CB, 0x1F4CB), (0x1F4DA, 0x1F4DA), (0x1F4DF, 0x1F4DF),
     (0x1F4E4, 0x1F4E6), (0x1F4EA, 0x1F4ED), (0x1F4F7, 0x1F4F7), (0x1F4F9, 0x1F4FB),
     (0x1F508, 0x1F508), (0x1F50D, 0x1F50D), (0x1F512, 0x1F513), (0x1F550, 0x1F567),
     (0x1F610, 0x1F610), (0x1F687, 0x1F687), (0x1F68D, 0x1F68D), (0x1F691, 0x1F691),
     (0x1F694, 0x1F694), (0x1F698, 0x1F698), (0x1F6AD, 0x1F6AD), (0x1F6B2, 0x1F6B2),
     (0x1F6B9, 0x1F6BA), (0x1F6BC, 0x1F6BC)]

def hasPictureForm (c : Char) : Bool := (isEmoji c && !isEmojiPresentation c) || hasPlainForm c

def isHiddenMark : Char → Bool :=
  within
    [(0x34F, 0x34F), (0x17B4, 0x17B5), (0x180B, 0x180D), (0x180F, 0x180F), (0x200D, 0x200D),
     (0xFE00, 0xFE0F), (0xE0100, 0xE01EF)]

def isJoiningMark (c : Char) : Bool :=
  isZeroWidth c && (inCategory ["Mn", "Me", "Cf"] c || isRecentMark c) &&
    !within [(0x605, 0x605), (0x890, 0x891), (0x8E2, 0x8E2), (0x180E, 0x180E), (0x200C, 0x200D),
      (0x2066, 0x2069)] c

def isAlef : Char → Bool :=
  within
    [(0x622, 0x623), (0x625, 0x625), (0x627, 0x627), (0x671, 0x673), (0x675, 0x675),
     (0x773, 0x774), (0x870, 0x882)]

def isLam : Char → Bool :=
  within [(0x644, 0x644), (0x6B5, 0x6B8), (0x76A, 0x76A), (0x8A6, 0x8A6), (0x8C7, 0x8C7)]

/-- Khmer letters that take no column below another one. -/
def isKhmerSubscript : Char → Bool :=
  within
    [(0x1780, 0x1782), (0x1784, 0x1787), (0x1789, 0x178C), (0x178E, 0x1793), (0x1795, 0x1798),
     (0x179B, 0x179D), (0x17A0, 0x17A0), (0x17A2, 0x17A2), (0x17A7, 0x17A7), (0x17AB, 0x17AC),
     (0x17AF, 0x17AF)]

def isTifinagh : Char → Bool := within [(0x2D31, 0x2D65), (0x2D6F, 0x2D6F)]

def isRegion : Char → Bool := within [(0x1F1E6, 0x1F1FF)]

def isSkinTone : Char → Bool := within [(0x1F3FB, 0x1F3FF)]

/-! ## Measuring -/

def alone (c : Char) : Right :=
  match c.toNat with
  | 0x5DC => { joint := .lamed false }
  | 0x1A10 => { joint := .ya false }
  | 0xA4FC | 0xA4FD => { joint := .tone }
  | 0xFE01 => { selector := some .full }
  | 0xFE0E => { selector := some .plain }
  | 0xFE0F => { selector := some .picture }
  | 0x10C03 => { joint := .orkhonI false }
  | 0x16D67 => { joint := .kiratE }
  | 0x16D68 => { joint := .kiratAi }
  | _ =>
    if isAlef c then { joint := .alef }
    else if isKhmerSubscript c then { joint := .subscript }
    else if isTifinagh c then { joint := .tifinagh false }
    else if isRegion c then { joint := .region }
    else if isSkinTone c then { joint := .skinTone }
    else if isPicture c then { joint := .picture }
    else {}

/-- The columns that a character adds where it joins what stands to its right, and the joint that
results, if it joins. -/
def join? (c : Char) (j : Joint) : Option (Int × Joint) :=
  let n := c.toNat
  match j with
  | .alef =>
    if isLam c then some (0, .none) else if isJoiningMark c then some (0, .alef) else Option.none
  | .lamed true => if n = 0x5D0 then some (0, .none) else Option.none
  | .subscript => if n = 0x17D2 then some (-1, .none) else Option.none
  | .ya true => if n = 0x1A17 then some (0, .vowelYa) else Option.none
  | .vowelYa => if n = 0x1A15 then some (0, .none) else Option.none
  | .tifinagh joined =>
    if n = 0x2D7F then some (1, .tifinaghJoined)
    else if joined && isTifinagh c then some (0, .none) else Option.none
  | .tifinaghJoined => if isTifinagh c then some (-1, .none) else Option.none
  | .tone => if within [(0xA4F8, 0xA4FB)] c then some (0, .none) else Option.none
  | .orkhonI true => if n = 0x10C32 then some (0, .none) else Option.none
  | .skinTone =>
    if isEmojiModifierBase c then some (0, .picture)
    else if n = 0x200D then some (0, .joinedPicture) else Option.none
  | .region => if isRegion c then some (1, .regions) else Option.none
  | .regions =>
    if isRegion c then some (1, .regions)
    else if n = 0x200D then some (0, .joinedPicture) else Option.none
  | .picture => if n = 0x200D then some (0, .joinedPicture) else Option.none
  | .joinedRegion => if isRegion c then some (-1, .joinedRegions true) else Option.none
  | .joinedRegions even =>
    if isRegion c then some (if even then 3 else -1, .joinedRegions !even)
    else if n = 0x200D then some (0, .joinedPicture) else Option.none
  | .joinedPicture =>
    if n = 0x20E3 then some (0, .joinedKey)
    else if isRegion c then some (1, .joinedRegion)
    else if isSkinTone c then some (0, .skinTone)
    else if n = 0xE007F then some (0, .joinedTags 0 0)
    else if (alone c).joint = .picture then some (0, .picture) else Option.none
  | .joinedTags letters digits =>
    if within [(0xE0061, 0xE007A)] c && digits = 0 && letters < 6 then
      some (0, .joinedTags (letters + 1) 0)
    else if within [(0xE0030, 0xE0039)] c && letters < 5 && digits < 3 then
      some (0, .joinedTags 0 (digits + 1))
    else if n = 0x1F3F4 && (3 ≤ letters || digits = 3) then some (0, .picture) else Option.none
  | .kiratE =>
    match n with
    | 0x16D63 | 0x16D69 => some (0, .none)
    | 0x16D67 => some (0, .kiratAi)
    | 0x16D68 => some (1, .kiratE)
    | _ => Option.none
  | .kiratAi => if n = 0x16D63 then some (0, .none) else Option.none
  | _ => Option.none

/-- The columns that a character adds to what stands to its right, and what stands there after
it. -/
def measure (c : Char) (r : Right) : Int × Right :=
  if r.selector = some .picture && hasPictureForm c then
    (if r.joint.isJoined then 0 else 2, { joint := .picture })
  else
    let r := if r.selector = some .picture then r.unselect else r
    let n := c.toNat
    if n ≤ 0xA0 then
      if c = '\n' then (1, { joint := .lineFeed })
      else if c = '\r' && r = { joint := .lineFeed } then (0, {})
      else (1, {})
    else if r = {} then (charWidth c, alone c)
    else if n = 0xFE0F then (0, r.select .picture)
    else if n = 0xFE0E then (0, r.select .plain)
    else if n = 0xFE01 then (0, r.select .full)
    else if r.selector = some .plain && hasPlainForm c && !within [(0x1F200, 0x1F2FF)] c then (1, {})
    else if r.selector = some .full && within [(0x2018, 0x2019), (0x201C, 0x201D)] c then (2, {})
    else
      let j := if r.selector.isSome then r.unselect.joint else r.joint
      if j.isTransparent && n = 0x200D then (0, { joint := j.joined })
      else if j.isTransparent && isHiddenMark c then (0, { joint := j })
      else match join? c j with
        | some (columns, j) => (columns, { joint := j })
        | Option.none => (charWidth c, alone c)

def width (t : Text) : Nat :=
  (t.foldr (fun c (p : Int × Right) =>
    let (columns, r) := measure c p.2
    (p.1 + columns, r)) (0, {})).1.toNat

def fill (columns : Nat) (t : Text) : Text := t ++ List.replicate (columns - width t) ' '

end SuiteAudit.Text
