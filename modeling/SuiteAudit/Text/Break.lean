import SuiteAudit.Text.Property
import SuiteAudit.Text.Script

/-!
# Breaks in text

The classes of characters by which text is divided into what a reader takes for one character, into
words and into sentences.
-/

namespace SuiteAudit.Text

abbrev BreakClasses := List (List String × (Char → Bool))

namespace BreakClasses

def ofName? (classes : BreakClasses) (name : Text) : Option (Char → Bool) :=
  (classes.find? fun p => p.1.contains (String.ofList name)).map Prod.snd

end BreakClasses

namespace Break

def isTag : Char → Bool := within [(0xE0020, 0xE007F)]

def isRegional : Char → Bool := within [(0x1F1E6, 0x1F1FF)]

def isCode (n : Nat) (c : Char) : Bool := c.toNat == n

/-- Marks that span a number after them. -/
def isNumberMark (c : Char) : Bool := isConcatenationMark c && !isCode 0x70F c

/-! ## Characters as a reader sees them -/

def isExtend (c : Char) : Bool := isGraphemeExtend c || within [(0x1F3FB, 0x1F3FF)] c

def isControl (c : Char) : Bool :=
  (inCategory ["Zl", "Zp", "Cc", "Cf"] c || (inCategory ["Cn"] c && isDefaultIgnorable c)) &&
    !within [(0xA, 0xA), (0xD, 0xD), (0x200C, 0x200D)] c && !isConcatenationMark c && !isTag c

def isSpacingMark (c : Char) : Bool :=
  within [(0xE33, 0xE33), (0xEB3, 0xEB3)] c ||
    (inCategory ["Mc"] c && !isExtend c &&
      !within
        [(0x102B, 0x102C), (0x1038, 0x1038), (0x1062, 0x1064), (0x1067, 0x106D), (0x1083, 0x1083),
         (0x1087, 0x108C), (0x108F, 0x108F), (0x109A, 0x109C), (0x1A61, 0x1A61), (0x1A63, 0x1A64),
         (0xAA7B, 0xAA7B), (0xAA7D, 0xAA7D), (0x11720, 0x11721)] c)

/-- Characters that the next one extends. -/
def isPrepend (c : Char) : Bool :=
  isConcatenationMark c ||
    within
      [(0xD4E, 0xD4E), (0x111C2, 0x111C3), (0x113D1, 0x113D1), (0x1193F, 0x1193F),
       (0x11941, 0x11941), (0x11A3A, 0x11A3A), (0x11A84, 0x11A89), (0x11D46, 0x11D46),
       (0x11F02, 0x11F02)] c

def isSyllable (final : Bool) (c : Char) : Bool :=
  within [(0xAC00, 0xD7A3)] c && ((c.toNat - 0xAC00) % 28 != 0) == final

def grapheme : BreakClasses :=
  [(["cr"], isCode 0xD), (["lf"], isCode 0xA), (["control", "cn"], isControl),
   (["extend", "ex"], isExtend), (["zwj"], isCode 0x200D), (["spacingmark", "sm"], isSpacingMark),
   (["prepend", "pp"], isPrepend), (["regionalindicator", "ri"], isRegional),
   (["l"], within [(0x1100, 0x115F), (0xA960, 0xA97C)]),
   (["v"], within [(0x1160, 0x11A7), (0xD7B0, 0xD7C6), (0x16D63, 0x16D63), (0x16D67, 0x16D6A)]),
   (["t"], within [(0x11A8, 0x11FF), (0xD7CB, 0xD7FB)]),
   (["lv"], isSyllable false), (["lvt"], isSyllable true)]

/-! ## Words -/

def isWordExtend (c : Char) : Bool := isExtend c || inCategory ["Mc"] c

def isKatakana (c : Char) : Bool :=
  Script.ofChar c = "Kana" ||
    within
      [(0x3031, 0x3035), (0x309B, 0x309C), (0x30A0, 0x30A0), (0x30FC, 0x30FC), (0xFF70, 0xFF70)] c

def isHebrewLetter (c : Char) : Bool := Script.ofChar c = "Hebr" && inCategory ["Lo"] c

def undivided : List Text :=
  ["Hira", "Thai", "Laoo", "Mymr", "Khmr", "Tale", "Talu", "Lana", "Tavt", "Ahom"].map String.toList

def isWordLetter (c : Char) : Bool :=
  (isAlphabetic c && !isIdeographic c && !isKatakana c && !isHebrewLetter c && !isWordExtend c &&
    !undivided.contains (Script.ofChar c)) ||
    within
      [(0x2C2, 0x2C5), (0x2D2, 0x2D7), (0x2DE, 0x2DF), (0x2E5, 0x2EB), (0x2ED, 0x2ED),
       (0x2EF, 0x2FF), (0x55A, 0x55C), (0x55E, 0x55E), (0x58A, 0x58A), (0x5F3, 0x5F3),
       (0x70F, 0x70F), (0xA708, 0xA716), (0xA720, 0xA721), (0xA789, 0xA78A), (0xAB5B, 0xAB5B)] c

def word : BreakClasses :=
  [(["cr"], isCode 0xD), (["lf"], isCode 0xA),
   (["newline", "nl"], within [(0xB, 0xC), (0x85, 0x85), (0x2028, 0x2029)]),
   (["doublequote", "dq"], isCode 0x22), (["singlequote", "sq"], isCode 0x27),
   (["zwj"], isCode 0x200D), (["extend"], isWordExtend),
   (["regionalindicator", "ri"], isRegional),
   (["format", "fo"], fun c => inCategory ["Cf"] c && !isConcatenationMark c && !isTag c &&
      !within [(0x200B, 0x200D)] c),
   (["katakana", "ka"], isKatakana), (["hebrewletter", "hl"], isHebrewLetter),
   (["aletter", "le"], isWordLetter),
   (["midletter", "ml"],
      within
        [(0x3A, 0x3A), (0xB7, 0xB7), (0x387, 0x387), (0x55F, 0x55F), (0x5F4, 0x5F4),
         (0x2027, 0x2027), (0xFE13, 0xFE13), (0xFE55, 0xFE55), (0xFF1A, 0xFF1A)]),
   (["midnum", "mn"],
      within
        [(0x2C, 0x2C), (0x3B, 0x3B), (0x37E, 0x37E), (0x589, 0x589), (0x60C, 0x60D),
         (0x66C, 0x66C), (0x7F8, 0x7F8), (0x2044, 0x2044), (0xFE50, 0xFE50), (0xFE54, 0xFE54),
         (0xFF0C, 0xFF0C), (0xFF1B, 0xFF1B)]),
   (["midnumlet", "mb"],
      within
        [(0x2E, 0x2E), (0x2018, 0x2019), (0x2024, 0x2024), (0xFE52, 0xFE52), (0xFF07, 0xFF07),
         (0xFF0E, 0xFF0E)]),
   (["numeric", "nu"], fun c => inCategory ["Nd"] c || isNumberMark c ||
      within [(0x66B, 0x66B), (0x19DA, 0x19DA)] c),
   (["extendnumlet", "ex"], fun c => inCategory ["Pc"] c || isCode 0x202F c),
   (["wsegspace"],
      within
        [(0x20, 0x20), (0x1680, 0x1680), (0x2000, 0x2006), (0x2008, 0x200A), (0x205F, 0x205F),
         (0x3000, 0x3000)])]

/-! ## Sentences -/

def isSentenceExtend (c : Char) : Bool :=
  isGraphemeExtend c || inCategory ["Mc"] c || isCode 0x200D c

def isSentenceLower (c : Char) : Bool :=
  isLowercase c && !isSentenceExtend c && !within [(0x10D0, 0x10FA), (0x10FD, 0x10FF)] c

def isSentenceUpper (c : Char) : Bool :=
  (isUppercase c || inCategory ["Lt"] c) && !within [(0x1C90, 0x1CBA), (0x1CBD, 0x1CBF)] c

/-- Full stops that may also stand inside a sentence. -/
def isFullStop : Char → Bool :=
  within
    [(0x2E, 0x2E), (0x2024, 0x2024), (0xFE52, 0xFE52), (0xFF0E, 0xFF0E)]

def sentence : BreakClasses :=
  [(["cr"], isCode 0xD), (["lf"], isCode 0xA),
   (["sep", "se"], within [(0x85, 0x85), (0x2028, 0x2029)]),
   (["extend", "ex"], isSentenceExtend),
   (["format", "fo"], fun c => inCategory ["Cf"] c && !isNumberMark c && !isTag c &&
      !within [(0x200C, 0x200D)] c),
   (["sp"], fun c => isBlank c &&
      !within [(0xA, 0xA), (0xD, 0xD), (0x85, 0x85), (0x2028, 0x2029)] c),
   (["lower", "lo"], isSentenceLower), (["upper", "up"], isSentenceUpper),
   (["oletter", "le"], fun c => isCode 0x5F3 c || (isAlphabetic c && !isSentenceLower c &&
      !isSentenceUpper c && !isSentenceExtend c)),
   (["numeric", "nu"], fun c => inCategory ["Nd"] c || isNumberMark c ||
      within [(0x66B, 0x66C), (0x19DA, 0x19DA)] c),
   (["aterm", "at"], isFullStop),
   (["sterm", "st"], fun c => isSentenceTerminal c && !isFullStop c),
   (["scontinue", "sc"],
      within
        [(0x2C, 0x2D), (0x3A, 0x3B), (0x37E, 0x37E), (0x55D, 0x55D), (0x60C, 0x60D),
         (0x7F8, 0x7F8), (0x1802, 0x1802), (0x1808, 0x1808), (0x2013, 0x2014), (0x3001, 0x3001),
         (0xFE10, 0xFE11), (0xFE13, 0xFE14), (0xFE31, 0xFE32), (0xFE50, 0xFE51), (0xFE54, 0xFE55),
         (0xFE58, 0xFE58), (0xFE63, 0xFE63), (0xFF0C, 0xFF0D), (0xFF1A, 0xFF1B), (0xFF64, 0xFF64)]),
   (["close", "cl"], fun c =>
      ((inCategory ["Ps", "Pe", "Pi", "Pf"] c || isQuotationMark c) &&
        !within [(0xFF02, 0xFF02), (0xFF07, 0xFF07)] c) ||
      within
        [(0x275B, 0x2760), (0x2E00, 0x2E01), (0x2E06, 0x2E08), (0x2E0B, 0x2E0B),
         (0x1F676, 0x1F678)] c)]

end Break

end SuiteAudit.Text
