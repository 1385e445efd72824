import SuiteAudit.Text.Category

/-!
# Properties of characters

The properties that a character has or has not. Some are given by a table; the others follow from
those and from the general category.
-/

namespace SuiteAudit.Text

/-! ## Tables -/

def isDash : Char → Bool :=
  within
    [(0x2D, 0x2D), (0x58A, 0x58A), (0x5BE, 0x5BE), (0x1400, 0x1400), (0x1806, 0x1806),
     (0x2010, 0x2015), (0x2053, 0x2053), (0x207B, 0x207B), (0x208B, 0x208B), (0x2212, 0x2212),
     (0x2E17, 0x2E17), (0x2E1A, 0x2E1A), (0x2E3A, 0x2E3B), (0x2E40, 0x2E40), (0x2E5D, 0x2E5D),
     (0x301C, 0x301C), (0x3030, 0x3030), (0x30A0, 0x30A0), (0xFE31, 0xFE32), (0xFE58, 0xFE58),
     (0xFE63, 0xFE63), (0xFF0D, 0xFF0D), (0x10D6E, 0x10D6E), (0x10EAD, 0x10EAD)]

/-- Hyphens, and the middle dot that serves as one. -/
def isHyphen : Char → Bool :=
  within
    [(0x2D, 0x2D), (0xAD, 0xAD), (0x58A, 0x58A), (0x1806, 0x1806), (0x2010, 0x2011),
     (0x2E17, 0x2E17), (0x30FB, 0x30FB), (0xFE63, 0xFE63), (0xFF0D, 0xFF0D), (0xFF65, 0xFF65)]

def isQuotationMark : Char → Bool :=
  within
    [(0x22, 0x22), (0x27, 0x27), (0xAB, 0xAB), (0xBB, 0xBB), (0x2018, 0x201F), (0x2039, 0x203A),
     (0x2E42, 0x2E42), (0x300C, 0x300F), (0x301D, 0x301F), (0xFE41, 0xFE44), (0xFF02, 0xFF02),
     (0xFF07, 0xFF07), (0xFF62, 0xFF63)]

def terminalPunctuationTable : List (Run Bool) :=
  Run.members
    ["21N1YaN1Y1N1YbN2Y3N1Y33eN1Y8N1Y201N1Y39N1Y48N1YeN1Y1N3Yb4N1Y2bNbY1N1YebN2Y36N6Y1N8Y1fN1Y105N2Y",
     "4f4N2YacN1Y4N6Y137N2Y315N8Y305N1Y7cN3Y47N2Y9dN3Y3N1Y27N4Y2N2Y13aN2Y162N4Ya2N2YaN2Y1N3Y1dN3YbbN",
     "5Y3eN2Y3a4N1Y17N2Y9N3YcafN3Y132N1YdN1Y4N1YaN1Y1N2Y3N2Y1acN2Y74fbN2Y10dN3Ye3N5Y17eN2Y56N2Y5fN1Y",
     "97N3Y93N3Y7fN1Y10N2Yf9N1Y5226N1Y2N2Y39N3Y1N4Ya9N1YaN1Y1N1YbN2Y3N1Y41N1Y2N1Y43aN1Y30N1Y486N1Y",
     "c7N1Y136N2Y98N6Y44N6Y59N4Y3b8N5Y2cN4YbdN7Y70N4Y7fN3Y81N2Y6N1Y10N2Y58N5Y6cN1Y12aN2Y75N3YcN2Y",
     "166N4Y3NfY69N2Yf9N3Y205N1Y1N1YfbN2Y57N2Y4N2Y19eN3Y2dN1Y285N2Y4aN2Y52bN5Y45f9N2Y85N1Y41N3YaN1Y",
     "229N2Y127N2Y4e06N1Y1de7N4Y"]

def isTerminalPunctuation (c : Char) : Bool := Run.holds terminalPunctuationTable c

def sentenceTerminalTable : List (Run Bool) :=
  Run.members
    ["21N1YcN1Y10N1Y549N1Y93N3Yb4N1Y2bN3Yf6N1Y3dN1Y1N1Y3N2Y125N2Y6e4N2Y316N1Y4N2Y305N1Yc6N2Y9dN2Y2dN",
     "1Y5N1Y13aN2Y162N4Ya2N2YaN2Y2N2Y1dN3YbbN2Y41N2Y3a4N1Y17N2Y9N3YcafN3Y132N1YdN1Y16N2Y1adN1Y74fcN",
     "1Y10eN2Ye3N1Y3N1Y17eN2Y56N2Y5fN1Y98N2Y93N3Y90N2Yf9N1Y5226N1Y2N2Y3bN1Y3N2Ya9N1YcN1Y10N1Y41N1Y",
     "af4N2Y4fdN5Y2cN4YbdN2Y75N4Y7fN3Y81N2Y6N1Y10N2Y58N2Y1N2Y6cN1Y12aN2Y75N2Y175N2Y5NfY69N2Yf9N3Y",
     "205N1Y1N1YfbN2Y57N2Y1a4N2Y2b4N2Y4aN2Y4b29N2Y85N1Y41N2YbN1Y229N2Y128N1Y4e06N1Y1de8N1Y"]

def isSentenceTerminal (c : Char) : Bool := Run.holds sentenceTerminalTable c

def isBidiControl : Char → Bool :=
  within
    [(0x61C, 0x61C), (0x200E, 0x200F), (0x202A, 0x202E), (0x2066, 0x2069)]

def bidiMirroredTable : List (Run Bool) :=
  Run.members
    ["28N2Y12N1Y1N1Y1cN1Y1N1Y1dN1Y1N1Y2dN1YfN1Ye7eN4Y75dN2Y99cN2YaN2Y36N2YeN2Yb1N1Yc0N4Y3N6Y3N1Y3N2Y",
     "3N4Y1N4Y1N1Y1N1Y4N9Y5N1Y1N12Y5N4Y9N2Y1N1Y1N8Y1N20Y2N4Y5N1Y9N2Y2N13Y5N2Y9N5Y2N2Y4N18Y2N10Y8N4Y",
     "14N2Y7N2Y43dNeY4aN1Y2N4Y1N2Y1N3Y5N4Y5N3Y3NeY193N16Y2N6Y1NeY8N1Y7N6Y3N1Y4N5Y1N2Y2N5Y4N1Y1N3Y2N",
     "2YaN6Y2N2YcN13Y1N4Y2N1Y1N1Y2N1Y1N4Y5N2Y6N3Y18N2YbN2Y4N4Y1N2Y2N2Y4N2bY2N8Y1N28Y5N1Y1N1Y3N5Y5N3Y",
     "4N1Y3N5Y1N1Y100N1Y203N4Y3N2Y1N2YeN2Y2NaY2bN8Y1abNaY2N8Yce3dN6Y5N2Ya2N2Y12N1Y1N1Y1cN1Y1N1Y1dN1Y",
     "1N1Y1N2Y1N2Yd777N1Y39N1Y39N1Y39N1Y39N1Y"]

def isBidiMirrored (c : Char) : Bool := Run.holds bidiMirroredTable c

def isHexDigit : Char → Bool :=
  within
    [(0x30, 0x39), (0x41, 0x46), (0x61, 0x66), (0xFF10, 0xFF19), (0xFF21, 0xFF26),
     (0xFF41, 0xFF46)]

def isDeprecated : Char → Bool :=
  within
    [(0x149, 0x149), (0x673, 0x673), (0xF77, 0xF77), (0xF79, 0xF79), (0x17A3, 0x17A4),
     (0x206A, 0x206F), (0x2329, 0x232A), (0xE0001, 0xE0001)]

def diacriticTable : List (Run Bool) :=
  Run.members
    ["5eN1Y1N1Y47N1Y6N1Y4N1Y2N2Y1f7N9fY1N8Y5N6Y11N2Y4N1Y9N2YfdN5Yd1N1Y37N11Y1N1bY1N1Y1N2Y1N1Y86N8Y4N",
     "2Y86N2Y4N2Y3N3Y43N1bY5bNbY3aNbY22N2Y7eN8Y29NaY10N1cY3dN1Y10N1Y3N4Y1cN1Y4aN1Y10N1Y6eN1Y10N1Y6eN",
     "1Y10N1Y2fN3Y3cN1Y10N1Y7N1Y77N1Y6eN1Y10N1Y6eN1Y10N1Y6dN2Y10N1Y7cN1Y6fN1YcN6Y1N1Y6bN1YdN5Y4bN2Y",
     "1bN1Y1N1Y1N1Y4N2Y42N3Y1N2Y3eN1Y70N1Y1N2Y28N2Y4N5Y19N7Y1N1YaN2Y2c1N3Y3b4N2Y1eN1Y94NbY9N1Y15bN3Y",
     "124N1Y14N8Y2N1Y30NfY2NbY68N1YfN1Y26N9Y36N2Y3aN1YbN2Y42N2Y40N6Y52N19Y4N1Y6N1Y2N3Y32N3fY59NcY25N",
     "bY1bdN1Y1N3YbN3YdN3YdN3YdN2Ycf0N3Y13dN1Y1faN6Y69N4Y5fN1Y7572N1YcN2Y1N1Y1cN2Y52N2YeN22Y66N3Y6dN",
     "2YcN1Y25N1Y97N1Y1bN12Y39N4Y24N1Y5fN1YcN1Y24N1Y95N3Y41N4Y33N1Y64N5Y9N3Y80N2Y4f30N1Y301N10Y10eN",
     "1Y1N1Y2fN1Y2dN2Y43N1Y2fcN1Y49fN6Y1N2aY1N9Y27dN3Y4N1Ya5N2Y23bN6Y26N1Y1aN5Y18fN3Y46NbY31N4Yc0N1Y",
     "29N1Y48N2Y78N2Y3eN1Y4cN1Y9N3Y68N2Yb2N2Y50N2Y10N1Y18N7Y3N5Y59N3Y1N2YdN2Y5fN1Y3N1Y7bN2YfbN2Y7eN",
     "1Y76N2Y73N1Y10dN2Y102N2Y4N1Y9cN1Y53N1Y12N1Y51N1Y1a5N1Y102N1Y1N2Y51N1Y1a9N2Y17N1Y14ecNfY2cd9N1Y",
     "9c0N5Y3bN7Y234N2Y222N11Y50N2Y3ffeN4Y1N7Y1N2Y1f01N2eY2N17Y220N3Y3N6Y8N8Y2N7Y1eN4Ye82N3eYc2N7Y",
     "177N1Y3dN4Y2feN2Y2e0N7Y6dN3Y1N3Y"]

def isDiacritic (c : Char) : Bool := Run.holds diacriticTable c

def extenderTable : List (Run Bool) :=
  Run.members
    ["b7N1Y218N2Y36eN1Y1b9N1Y276N1Y89N1Y59N1Y2f0N1Y7fN1Y943N1Y38N1Y263N1Y18eN1Y44N1Y1389N1Y2bN5Y67N",
     "2Y5dN3Y6f16N1Y5f6N1Y3c2N1Y16N1Y89N1Y6cN1Y15N2Y547bN1Y810N2Y5cbN1Y1bN1Y4N1Y4c7N1Y125N1Y74N2Y",
     "1f2N3Y4cfN1Y50a9N2Y49cN2Y1N1Y7158N2Y4b1N1Y354N3Y"]

def isExtender (c : Char) : Bool := Run.holds extenderTable c

def graphemeLinkTable : List (Run Bool) :=
  Run.members
    ["94dN1Y7fN1Y7fN1Y7fN1Y7fN1Y7fN1Y7fN1Y7fN1Y6dN2Y10N1Y7cN1Y6fN1Y7fN1Yc9N1Yb4N2Y6d9N2Y1eN1Y9dN1Y",
     "28dN1Ye3N1Y65N2Y46N2Y118bN1Y7a86N1Y25N1Y97N1Y8eN1Y6cN1Y135N1Yf6N1Y5e51N1Y606N1Y29N1YeN1Y39N1Y",
     "79N2Y8bN1Y74N1Yb4N1Y62N1Y80N3Y71N1Y7fN1YfcN1Y7fN1Y76N1Y74N1Y10dN1Y103N2Ya1N1Y53N1Y12N1Y51N1Y",
     "1a5N1Y104N2Y51N1Y1a9N2Y41ecN1Y"]

def isGraphemeLink (c : Char) : Bool := Run.holds graphemeLinkTable c

/-- Descriptions of an ideograph that have two parts. -/
def isBinaryDescription : Char → Bool :=
  within
    [(0x2FF0, 0x2FF1), (0x2FF4, 0x2FFD), (0x31EF, 0x31EF)]

def isIdeographic : Char → Bool :=
  within
    [(0x3006, 0x3007), (0x3021, 0x3029), (0x3038, 0x303A), (0x3400, 0x4DBF), (0x4E00, 0x9FFF),
     (0xF900, 0xFA6D), (0xFA70, 0xFAD9), (0x16FE4, 0x16FE4), (0x17000, 0x187F7),
     (0x18800, 0x18CD5), (0x18CFF, 0x18D08), (0x1B170, 0x1B2FB), (0x20000, 0x2A6DF),
     (0x2A700, 0x2B739), (0x2B740, 0x2B81D), (0x2B820, 0x2CEA1), (0x2CEB0, 0x2EBE0),
     (0x2EBF0, 0x2EE5D), (0x2F800, 0x2FA1D), (0x30000, 0x3134A), (0x31350, 0x323AF)]

def isRadical : Char → Bool :=
  within
    [(0x2E80, 0x2E99), (0x2E9B, 0x2EF3), (0x2F00, 0x2FD5)]

def isUnifiedIdeograph : Char → Bool :=
  within
    [(0x3400, 0x4DBF), (0x4E00, 0x9FFF), (0xFA0E, 0xFA0F), (0xFA11, 0xFA11), (0xFA13, 0xFA14),
     (0xFA1F, 0xFA1F), (0xFA21, 0xFA21), (0xFA23, 0xFA24), (0xFA27, 0xFA29), (0x20000, 0x2A6DF),
     (0x2A700, 0x2B739), (0x2B740, 0x2B81D), (0x2B820, 0x2CEA1), (0x2CEB0, 0x2EBE0),
     (0x2EBF0, 0x2EE5D), (0x30000, 0x3134A), (0x31350, 0x323AF)]

/-- Vowels that are written before the consonant that they follow. -/
def isLogicalOrderException : Char → Bool :=
  within
    [(0xE40, 0xE44), (0xEC0, 0xEC4), (0x19B5, 0x19B7), (0x19BA, 0x19BA), (0xAAB5, 0xAAB6),
     (0xAAB9, 0xAAB9), (0xAABB, 0xAABC)]

def isModifierCombiningMark : Char → Bool :=
  within
    [(0x654, 0x655), (0x658, 0x658), (0x6DC, 0x6DC), (0x6E3, 0x6E3), (0x6E7, 0x6E8),
     (0x8CA, 0x8CB), (0x8CD, 0x8CF), (0x8D3, 0x8D3), (0x8F3, 0x8F3)]

def isNoncharacter : Char → Bool :=
  within
    [(0xFDD0, 0xFDEF), (0xFFFE, 0xFFFF), (0x1FFFE, 0x1FFFF), (0x2FFFE, 0x2FFFF),
     (0x3FFFE, 0x3FFFF), (0x4FFFE, 0x4FFFF), (0x5FFFE, 0x5FFFF), (0x6FFFE, 0x6FFFF),
     (0x7FFFE, 0x7FFFF), (0x8FFFE, 0x8FFFF), (0x9FFFE, 0x9FFFF), (0xAFFFE, 0xAFFFF),
     (0xBFFFE, 0xBFFFF), (0xCFFFE, 0xCFFFF), (0xDFFFE, 0xDFFFF), (0xEFFFE, 0xEFFFF),
     (0xFFFFE, 0xFFFFF), (0x10FFFE, 0x10FFFF)]

def isPatternSyntax : Char → Bool :=
  within
    [(0x21, 0x2F), (0x3A, 0x40), (0x5B, 0x5E), (0x60, 0x60), (0x7B, 0x7E), (0xA1, 0xA7),
     (0xA9, 0xA9), (0xAB, 0xAC), (0xAE, 0xAE), (0xB0, 0xB1), (0xB6, 0xB6), (0xBB, 0xBB),
     (0xBF, 0xBF), (0xD7, 0xD7), (0xF7, 0xF7), (0x2010, 0x2027), (0x2030, 0x203E),
     (0x2041, 0x2053), (0x2055, 0x205E), (0x2190, 0x245F), (0x2500, 0x2775), (0x2794, 0x2BFF),
     (0x2E00, 0x2E7F), (0x3001, 0x3003), (0x3008, 0x3020), (0x3030, 0x3030), (0xFD3E, 0xFD3F),
     (0xFE45, 0xFE46)]

def isPatternBlank : Char → Bool :=
  within
    [(0x9, 0xD), (0x20, 0x20), (0x85, 0x85), (0x200E, 0x200F), (0x2028, 0x2029)]

def isConcatenationMark : Char → Bool :=
  within
    [(0x600, 0x605), (0x6DD, 0x6DD), (0x70F, 0x70F), (0x890, 0x891), (0x8E2, 0x8E2),
     (0x110BD, 0x110BD), (0x110CD, 0x110CD)]

/-- Letters whose dot a mark above replaces. -/
def isSoftDotted : Char → Bool :=
  within
    [(0x69, 0x6A), (0x12F, 0x12F), (0x249, 0x249), (0x268, 0x268), (0x29D, 0x29D), (0x2B2, 0x2B2),
     (0x3F3, 0x3F3), (0x456, 0x456), (0x458, 0x458), (0x1D62, 0x1D62), (0x1D96, 0x1D96),
     (0x1DA4, 0x1DA4), (0x1DA8, 0x1DA8), (0x1E2D, 0x1E2D), (0x1ECB, 0x1ECB), (0x2071, 0x2071),
     (0x2148, 0x2149), (0x2C7C, 0x2C7C), (0x1D422, 0x1D423), (0x1D456, 0x1D457),
     (0x1D48A, 0x1D48B), (0x1D4BE, 0x1D4BF), (0x1D4F2, 0x1D4F3), (0x1D526, 0x1D527),
     (0x1D55A, 0x1D55B), (0x1D58E, 0x1D58F), (0x1D5C2, 0x1D5C3), (0x1D5F6, 0x1D5F7),
     (0x1D62A, 0x1D62B), (0x1D65E, 0x1D65F), (0x1D692, 0x1D693), (0x1DF1A, 0x1DF1A),
     (0x1E04C, 0x1E04D), (0x1E068, 0x1E068)]

def isVariationSelector : Char → Bool :=
  within
    [(0x180B, 0x180D), (0x180F, 0x180F), (0xFE00, 0xFE0F), (0xE0100, 0xE01EF)]

def isMathStart : Char → Bool :=
  within
    [(0x2202, 0x2202), (0x2207, 0x2207), (0x221E, 0x221E), (0x1D6C1, 0x1D6C1), (0x1D6DB, 0x1D6DB),
     (0x1D6FB, 0x1D6FB), (0x1D715, 0x1D715), (0x1D735, 0x1D735), (0x1D74F, 0x1D74F),
     (0x1D76F, 0x1D76F), (0x1D789, 0x1D789), (0x1D7A9, 0x1D7A9), (0x1D7C3, 0x1D7C3)]

def isMathContinue : Char → Bool :=
  within
    [(0xB2, 0xB3), (0xB9, 0xB9), (0x2070, 0x2070), (0x2074, 0x207E), (0x2080, 0x208E),
     (0x2202, 0x2202), (0x2207, 0x2207), (0x221E, 0x221E), (0x1D6C1, 0x1D6C1), (0x1D6DB, 0x1D6DB),
     (0x1D6FB, 0x1D6FB), (0x1D715, 0x1D715), (0x1D735, 0x1D735), (0x1D74F, 0x1D74F),
     (0x1D76F, 0x1D76F), (0x1D789, 0x1D789), (0x1D7A9, 0x1D7A9), (0x1D7C3, 0x1D7C3)]

def emojiTable : List (Run Bool) :=
  Run.members
    ["23N1Y6N1Y5NaY6fN1Y4N1Y1f8dN1YcN1Yd8N1Y16N1Y5aN6YfN2Y16fN2YcN1Ya6N1Y19NbY4N3Yc7N1Ye7N2YaN1Y9N1Y",
     "3aN4Y1N5Y9N1Y2N1Y2N2Y2N1Y4N1Y2N1Y1N2Y2N1Y3N1Y3N2Y8N3Y5N1Y1N1Y5NcYbN2Y2N1Y1N2Y1N1Y12N1Y2N2Y12N",
     "6Y1N1Y1N2Y3N2Y5N1Y2N2Y4N2YbN2Y5N2Y2N1Y5N2Y1N1Y1N2Y14N2Y5N6Y1N4Y2N1Y4N1Y2N1Y2N6Y1N1Y2N1Y1N1Y1N",
     "1Y6N1Y3N1Y6N1YaN2YfN1Y2N1Y4N1Y1N1Y4N3Y1N1YbN2Y30N3Y9N1YeN1YeN1Y174N2Y1cfN3Y13N2Y33N1Y4N1Y4daN",
     "1YcN1Y259N1Y1N1Y1bd6aN1YcaN1Ya0N2YcN2YeN1Y2NaY4bN1aY1N2Y17N1Y14N1Y2N9Y15N2YaeN22Y2N70Y2N2Y1N3Y",
     "2N53Y2N3Y1N107Y1N3fYbN6Y1N18Y7N2Y2N8YcN1Y2N4Y2N1Y4N2YdN2Y2N1Y8N2Y9N1Y5N3YcN3Y8N3Y2N1Y1N1Y4N1Y",
     "6N1Y3N1Y6N56Y30N46Y5N8Y2N3Y4NaY3N1Y1N2Y3N1Y2NaYe3NcY4N1Y11bN2fY1NaY1Nb9Y70NdY3NaY5N38Y7NfY2NbY",
     "6N9Y"]

def isEmoji (c : Char) : Bool := Run.holds emojiTable c

def isEmojiComponent : Char → Bool :=
  within
    [(0x23, 0x23), (0x2A, 0x2A), (0x30, 0x39), (0x200D, 0x200D), (0x20E3, 0x20E3),
     (0xFE0F, 0xFE0F), (0x1F1E6, 0x1F1FF), (0x1F3FB, 0x1F3FF), (0x1F9B0, 0x1F9B3),
     (0xE0020, 0xE007F)]

def isEmojiModifierBase : Char → Bool :=
  within
    [(0x261D, 0x261D), (0x26F9, 0x26F9), (0x270A, 0x270D), (0x1F385, 0x1F385), (0x1F3C2, 0x1F3C4),
     (0x1F3C7, 0x1F3C7), (0x1F3CA, 0x1F3CC), (0x1F442, 0x1F443), (0x1F446, 0x1F450),
     (0x1F466, 0x1F478), (0x1F47C, 0x1F47C), (0x1F481, 0x1F483), (0x1F485, 0x1F487),
     (0x1F48F, 0x1F48F), (0x1F491, 0x1F491), (0x1F4AA, 0x1F4AA), (0x1F574, 0x1F575),
     (0x1F57A, 0x1F57A), (0x1F590, 0x1F590), (0x1F595, 0x1F596), (0x1F645, 0x1F647),
     (0x1F64B, 0x1F64F), (0x1F6A3, 0x1F6A3), (0x1F6B4, 0x1F6B6), (0x1F6C0, 0x1F6C0),
     (0x1F6CC, 0x1F6CC), (0x1F90C, 0x1F90C), (0x1F90F, 0x1F90F), (0x1F918, 0x1F91F),
     (0x1F926, 0x1F926), (0x1F930, 0x1F939), (0x1F93C, 0x1F93E), (0x1F977, 0x1F977),
     (0x1F9B5, 0x1F9B6), (0x1F9B8, 0x1F9B9), (0x1F9BB, 0x1F9BB), (0x1F9CD, 0x1F9CF),
     (0x1F9D1, 0x1F9DD), (0x1FAC3, 0x1FAC5), (0x1FAF0, 0x1FAF8)]

def emojiPresentationTable : List (Run Bool) :=
  Run.members
    ["231aN2YcdN4Y3N1Y2N1Y209N2Y15N2Y32NcY2bN1Y13N1YdN1Y8N2Y11N2Y5N2Y8N1Y5N1Y15N1Y7N2Y1N1Y4N1Y2N1Y7N",
     "1Y4N2Y1cN1Y23N1Y1N1Y4N3Y1N1Y3dN3Y18N1YeN1Y35bN2Y33N1Y4N1Y1c4aeN1YcaN1YbeN1Y2NaY4bN1aY1N1Y18N1Y",
     "14N1Y2N5Y1N3Y15N2YaeN21YcN9Y1N46Y1N16YcN2bY4N5YcN11Y3N1Y3N47Y1N1Y1NbbY2N3fYdN4Y1N18Y12N1Y1aN2Y",
     "dN1Y56N55Y30N46Y6N1Y3N3Y2N3Y4N4YbN2Y7N9Ye3NcY4N1Y11bN2fY1NaY1Nb9Y70NdY3NaY5N38Y7NfY2NbY6N9Y"]

def isEmojiPresentation (c : Char) : Bool := Run.holds emojiPresentationTable c

def pictographicTable : List (Run Bool) :=
  Run.members
    ["a9N1Y4N1Y1f8dN1YcN1Yd8N1Y16N1Y5aN6YfN2Y16fN2YcN1Y5fN1Y46N1Y19NbY4N3Yc7N1Ye7N2YaN1Y9N1Y3aN4Y1N",
     "6Y1NcY1N72YaN76Y2NbY1N1Y1N1Y6N1Y3N1Y6N1YaN2YfN1Y2N1Y4N1Y1N1Y4N3Y1N1YbN5Y2dN3Y9N1YeN1YeN1Y174N",
     "2Y1cfN3Y13N2Y33N1Y4N1Y4daN1YcN1Y259N1Y1N1Y1bd66N100YdN3Y1fN1Y3cN6YcN2YeN1Y2NaY12N39Y1bNfYaN1Y",
     "14N1Y2N9Y1N4Y9N1b2Y5N13eY8N10aY30N80Y74NcY55N2bYcN4Y38N8YaN6Y28N8Y1eN52YcN2fY1NaY1N1b9Y100N",
     "3feY"]

def isPictographic (c : Char) : Bool := Run.holds pictographicTable c

/-! ## What the general category leaves out -/

/-- Modifiers, numerals and enclosed letters that count as lower case. -/
def isOtherLowercase : Char → Bool :=
  within
    [(0xAA, 0xAA), (0xBA, 0xBA), (0x2B0, 0x2B8), (0x2C0, 0x2C1), (0x2E0, 0x2E4), (0x345, 0x345),
     (0x37A, 0x37A), (0x10FC, 0x10FC), (0x1D2C, 0x1D6A), (0x1D78, 0x1D78), (0x1D9B, 0x1DBF),
     (0x2071, 0x2071), (0x207F, 0x207F), (0x2090, 0x209C), (0x2170, 0x217F), (0x24D0, 0x24E9),
     (0x2C7C, 0x2C7D), (0xA69C, 0xA69D), (0xA770, 0xA770), (0xA7F2, 0xA7F4), (0xA7F8, 0xA7F9),
     (0xAB5C, 0xAB5F), (0xAB69, 0xAB69), (0x10780, 0x10780), (0x10783, 0x10785),
     (0x10787, 0x107B0), (0x107B2, 0x107BA), (0x1E030, 0x1E06D)]

/-- Numerals and enclosed letters that count as upper case. -/
def isOtherUppercase : Char → Bool :=
  within
    [(0x2160, 0x216F), (0x24B6, 0x24CF), (0x1F130, 0x1F149), (0x1F150, 0x1F169),
     (0x1F170, 0x1F189)]

def otherAlphabeticTable : List (Run Bool) :=
  Run.members
    ["345N1Y1dNdY240NeY1N1Y1N2Y1N2Y1N1Y48NbY30NdY1N7Y10N1Y65N7Y4N4Y2N2Y4N1Y23N1Y1eN10Y66NbY65N2Y3N9Y",
     "1N3Y1N4Y6aN1Y3cNcY3N7Y6N14Y36N2Y2NfY1N2Y5N3YaN2Y1dN3Y3aN7Y2N2Y2N2YaN1YaN2Y1dN3Y3aN5Y4N2Y2N2Y4N",
     "1Y1eN2Y3N1YbN3Y3aN8Y1N3Y1N2Y15N2Y16N3Y4N3Y3aN7Y2N2Y2N2Y9N2YaN2Y1eN1Y3bN5Y3N3Y1N3YaN1Y28N5Y39N",
     "7Y1N3Y1N3Y8N2YbN2Y1dN3Y3aN7Y1N3Y1N3Y8N2YbN2YfN1YcN4Y3aN7Y1N3Y1N3YaN1YaN2Y1dN3Y4bN6Y1N1Y1N8Y12N",
     "2Y3dN1Y2N7Y12N1Y63N1Y2N6Y1N2Y10N1Ya3N13Y9NbY1N24Y6eNcY1N1Y2N4Y17N4Y4N3Y1N3Y2N7Y3N4YdNcY1N1YaN",
     "4Y674N2Y1eN2Y1eN2Y1eN2Y42N13YbcN2Y22N1Y76NcY4N9YdeN5Y39NaY2N14Y4aN2YbN3Y31N5Y30NfY3cN3Y1eN9Y2N",
     "2Y39NbY32N13Y19cN22Y6c1N34Y8f6N20Y7874N8Y22N2Y162N1Y8N1Y17N5Y58N2Y32N10Y1N1Y39N1Y26N5Y1cNcY2dN",
     "4Y30NcY25N1Y43NeYcN1Y8N2Y2dN3Y32N1Y1N3Y2N2Y5N1Y2cN5Y5N1YedN8Y4f33N1Y857N5Y686N3Y1N2Y5N4Y314N4Y",
     "41N1Y141N2Y4fN1Y103N3Y35NeY2dN2YbN3Y2dN9Y9N1Y3dN3Y24NcY12N2Y39N3Y30NdYeN2Y5cN9Y2N1Y6N1Y2N1Y9dN",
     "aY17N4Y3aN7Y2N2Y2N2YaN1YaN2Y54N9Y1N1Y2N1Y1N4Y1N2Y67NdY1N3Y6aN12YedN7Y2N7Y1dN2Y52NfY1N1Y6aNbY",
     "67NeY101NdYf7N6Y1N2Y2N2Y3N1Y1N1Y8eN7Y2N6Y4N1Y1cNaY2aN5Y1N4Y12NbY2eNeY197N8Y1N7Y53N16Y1NeY7aN6Y",
     "3N1Y1N2Y1N3Y1N1Y3N1Y42N5Y1N2Y1N4Y15cN4Y9N2Y1N1Y30N7Y3N3Y41ddN11Ye20N1Y1N37Y7N4Y5dN2Y4cacN1Y",
     "2361N7Y1N11Y2N7Y1N2Y1N5Y64N1Y8b7N1Y7e8N1aY6N1aY6N1aY"]

def isOtherAlphabetic (c : Char) : Bool := Run.holds otherAlphabeticTable c

def otherMathTable : List (Run Bool) :=
  Run.members
    ["5eN1Y371N3Y2N1Y1aN2Y2N2Y1c20N1Y1bN3YbN1Y20N4Y18N2YeN2Y41NdY4N1Y3N2Y4N5Y12N1Y4N1Y2NaY1N1Y3N5Y6N",
     "1Y3N2Y2N2Y1N3Y1N6Y3N4Y5N5Y4bN5Y2N4Y1N2Y1N2Y1N1Y1N5Y2N2Y4N2Y4N12Y2N2Y1N1Y1N7Y1N1Y6N2Y122N4Ya8N",
     "2Y1N1Y18N1Y11N1Y1bdN2YcN9Y5N5Y5N2Y2N2Y3N5YeN1Y1N1Y2N6Y18N2Y39N1Y1N1Y1dN4Y9N2Y156N2Y1fNaY193N",
     "16Y3fN4Y20N2Yd463N1Y1N1Y4N1Yd3N1Y1N1Yd4c1N55Y1N47Y1N2Y2N1Y2N2Y2N4Y1NcY1N1Y1N7Y1N41Y1N4Y2N8Y1N",
     "7Y1N1cY1N4Y1N5Y1N1Y3N7Y1N154Y2N19Y1N19Y1N1fY1N19Y1N1fY1N19Y1N1fY1N19Y1N1fY1N19Y1N8Y2N32Y1600N",
     "4Y1N1bY1N2Y1N1Y2N1Y1NaY1N4Y1N1Y1N1Y6N1Y4N1Y1N1Y1N1Y1N3Y1N2Y1N1Y2N1Y1N1Y1N1Y1N1Y1N1Y1N2Y1N1Y2N",
     "4Y1N7Y1N4Y1N4Y1N1Y1NaY1N11Y5N3Y1N5Y1N11Y"]

def isOtherMath (c : Char) : Bool := Run.holds otherMathTable c

/-- Code points that are not shown, apart from format characters. -/
def isOtherIgnorable : Char → Bool :=
  within
    [(0x34F, 0x34F), (0x115F, 0x1160), (0x17B4, 0x17B5), (0x2065, 0x2065), (0x3164, 0x3164),
     (0xFFA0, 0xFFA0), (0xFFF0, 0xFFF8), (0xE0000, 0xE0000), (0xE0002, 0xE001F),
     (0xE0080, 0xE00FF), (0xE01F0, 0xE0FFF)]

def otherExtendTable : List (Run Bool) :=
  Run.members
    ["9beN1Y18N1Y166N1Y18N1Y66N1Y18N1Ye8N1Y1N1Y4N2Y1N2Y9N2Y67N1Y18N1Y77N1YfN1Y935N1Y1eN1Y400N1Y5N1Y",
     "1N1Y5N2Y65N1Y47N2Y418N1Y1021N2Y7923N1Y6cN1Y55ddN2Y1220N1Y74N1Y108N1YeN1Y9N1Y60N1Y9N1Y2N1Y1N3Y",
     "5N1Ye0N1YcN1Yf1N1Y106N1Y279N1YcN1Y603N1Y50aeN2Y6173N2Y6N6Yc2eadN60Y"]

/-- Characters that extend the one before although they are not nonspacing marks. -/
def isOtherExtend (c : Char) : Bool := Run.holds otherExtendTable c

def isOtherIdStart : Char → Bool :=
  within
    [(0x1885, 0x1886), (0x2118, 0x2118), (0x212E, 0x212E), (0x309B, 0x309C)]

def isOtherIdContinue : Char → Bool :=
  within
    [(0xB7, 0xB7), (0x387, 0x387), (0x1369, 0x1371), (0x19DA, 0x19DA), (0x200C, 0x200D),
     (0x30FB, 0x30FB), (0xFF65, 0xFF65)]

/-! ## Letters and case -/

def isLowercase (c : Char) : Bool := inCategory ["Ll"] c || isOtherLowercase c

def isUppercase (c : Char) : Bool := inCategory ["Lu"] c || isOtherUppercase c

def isCased (c : Char) : Bool := isLowercase c || isUppercase c || inCategory ["Lt"] c

def isAlphabetic (c : Char) : Bool :=
  if c.toNat < 0x80 then c.isAlpha
  else inCategory ["Lu", "Ll", "Lt", "Lm", "Lo", "Nl"] c || isOtherLowercase c ||
    isOtherUppercase c || isOtherAlphabetic c

def isJoinControl : Char → Bool := within [(0x200C, 0x200D)]

/-- Whether the character can be part of a word: a letter, a mark, a decimal digit, a connector or a
joiner. -/
def isWordChar (c : Char) : Bool :=
  if c.toNat < 0x80 then c.isAlphanum || c = '_'
  else isAlphabetic c || inCategory ["Mn", "Mc", "Me", "Nd", "Pc"] c || isJoinControl c

/-- Characters that do not decide where case changes: marks, modifiers, format characters, and
punctuation inside words. -/
def isCaseIgnorable (c : Char) : Bool :=
  inCategory ["Mn", "Me", "Cf", "Lm", "Sk"] c ||
    within
      [(0x27, 0x27), (0x2E, 0x2E), (0x3A, 0x3A), (0xB7, 0xB7), (0x387, 0x387), (0x55F, 0x55F),
       (0x5F4, 0x5F4), (0x2018, 0x2019), (0x2024, 0x2024), (0x2027, 0x2027), (0xFE13, 0xFE13),
       (0xFE52, 0xFE52), (0xFE55, 0xFE55), (0xFF07, 0xFF07), (0xFF0E, 0xFF0E), (0xFF1A, 0xFF1A)] c

def uppercaseOnlyTable : List (Run Bool) :=
  Run.members
    ["3d2N3Y1d2dN1Y4N1Y3N3Y2N3Y2N1Y3N5Y6N1Y3N1Y3N2Y2N2Y1N1YaN2Y5N1Y1b2baN1aY1aN1aY1aN1aY1aN1Y1N2Y2N",
     "1Y2N2Y2N4Y1N8Y1aN1aY1aN2Y1N4Y2N8Y1N7Y1bN2Y1N4Y1N5Y1N1Y3N7Y1bN1aY1aN1aY1aN1aY1aN1aY1aN1aY1aN1aY",
     "1eN19Y21N19Y21N19Y21N19Y21N19Y21N1Y1965N1aY6N1aY6N1aY"]

def isUppercaseOnly (c : Char) : Bool := Run.holds uppercaseOnlyTable c

def lowercaseOnlyTable : List (Run Bool) :=
  Run.members
    ["aaN1YfN1Y7dN1Y54N1Y1cN2YeN1Y3N1Y62N1Y12N6Y1bN1Y2N1Y1N1Y2N3Y2N1Y4N1Y5N2Y1N1Y2N2Y1N7Y1N2Y1N1Y2N",
     "3Y6N5Y1N1Y1N8Y2N1aY7N2Y1eN5Y95N1Y81N1Y163N1Y27N1Yb73N1Yc03N79Y1N3Y1N10Y1N31YdcN2Y1N1Y1d1N1YdN",
     "1Y10NdY6dN1Y3N2Y3N1Y1bN1Y4N1Y4N1Y2N2Y8N4Yb27N1Y2N1Y2N7Y66N1Y79b7N2Y92N2Y3eN9Y15N1Y6N1Y19N1Y23N",
     "1Y1N1Y1cN3Y3N3Y335N23Y1N7Y1NeY5c16N1Y2N3Y1N2aY1N9Ycc5fN1aY1aN7Y1N12Y1aN1aY1aN4Y1N1Y1N7Y1NbY1aN",
     "1aY1aN1aY1aN1aY1aN1aY1aN1aY1aN1aY1aN1aY1aN1aY1aN1cY1cN19Y1N6Y1aN19Y1N6Y1aN19Y1N6Y1aN19Y1N6Y1aN",
     "19Y1N6Y1N1Y734NaY1N14Y6N6Y105N3eY"]

def isLowercaseOnly (c : Char) : Bool := Run.holds lowercaseOnlyTable c

def changesWhenLowercased (c : Char) : Bool :=
  (isUppercase c || inCategory ["Lt"] c) && !isUppercaseOnly c

def changesWhenUppercased (c : Char) : Bool :=
  (isLowercase c || inCategory ["Lt"] c) && !isLowercaseOnly c

/-- Characters that differ from their form at the start of a title: those that differ from their
upper-case form, apart from letters that are in that form already and Georgian ones, which keep
their form there, and the capitals of digraphs. -/
def changesWhenTitlecased (c : Char) : Bool :=
  (changesWhenUppercased c && !inCategory ["Lt"] c &&
    !within [(0x10D0, 0x10FA), (0x10FD, 0x10FF)] c) ||
    within [(0x1C4, 0x1C4), (0x1C7, 0x1C7), (0x1CA, 0x1CA), (0x1F1, 0x1F1)] c

def changesWhenCasemapped (c : Char) : Bool :=
  changesWhenLowercased c || changesWhenUppercased c || changesWhenTitlecased c

/-- Characters that case folding changes: those that differ from their lower-case form, apart from
Cherokee ones, which fold to upper case, and some lower-case variants. -/
def changesWhenCasefolded (c : Char) : Bool :=
  (changesWhenLowercased c && !within [(0x13A0, 0x13F5)] c) ||
    within
      [(0xB5, 0xB5), (0xDF, 0xDF), (0x149, 0x149), (0x17F, 0x17F), (0x345, 0x345), (0x3C2, 0x3C2),
       (0x3D0, 0x3D1), (0x3D5, 0x3D6), (0x3F0, 0x3F1), (0x3F5, 0x3F5), (0x587, 0x587),
       (0x13F8, 0x13FD), (0x1C80, 0x1C88), (0x1E9A, 0x1E9B), (0x1F80, 0x1F87), (0x1F90, 0x1F97),
       (0x1FA0, 0x1FA7), (0x1FB2, 0x1FB4), (0x1FB7, 0x1FB7), (0x1FC2, 0x1FC4), (0x1FC7, 0x1FC7),
       (0x1FF2, 0x1FF4), (0x1FF7, 0x1FF7), (0xAB70, 0xABBF), (0xFB00, 0xFB06), (0xFB13, 0xFB17)] c

/-! ## Marks and what is not shown -/

def isGraphemeExtend (c : Char) : Bool := inCategory ["Mn", "Me"] c || isOtherExtend c

def isGraphemeBase (c : Char) : Bool :=
  !inCategory ["Cc", "Cf", "Cs", "Co", "Cn", "Zl", "Zp"] c && !isGraphemeExtend c

def isDefaultIgnorable (c : Char) : Bool :=
  (isOtherIgnorable c || inCategory ["Cf"] c || isVariationSelector c) && !isBlank c &&
    !within [(0xFFF9, 0xFFFB), (0x13430, 0x13440)] c && !isConcatenationMark c

/-! ## Notations -/

def isMath (c : Char) : Bool := inCategory ["Sm"] c || isOtherMath c

def isPattern (c : Char) : Bool := isPatternSyntax c || isPatternBlank c

def isIdStart (c : Char) : Bool :=
  (inCategory ["Lu", "Ll", "Lt", "Lm", "Lo", "Nl"] c || isOtherIdStart c) && !isPattern c

def isIdContinue (c : Char) : Bool :=
  (inCategory ["Lu", "Ll", "Lt", "Lm", "Lo", "Nl", "Mn", "Mc", "Nd", "Pc"] c || isOtherIdStart c ||
    isOtherIdContinue c) && !isPattern c

/-- Characters that may stand in an identifier, and not in its compatible normal form. -/
def breaksIdContinue : Char → Bool :=
  within
    [(0x37A, 0x37A), (0x309B, 0x309C), (0xFC5E, 0xFC63), (0xFDFA, 0xFDFB), (0xFE70, 0xFE70),
     (0xFE72, 0xFE72), (0xFE74, 0xFE74), (0xFE76, 0xFE76), (0xFE78, 0xFE78), (0xFE7A, 0xFE7A),
     (0xFE7C, 0xFE7C), (0xFE7E, 0xFE7E)]

/-- Characters that may start an identifier, and not in its compatible normal form. -/
def breaksIdStart (c : Char) : Bool :=
  breaksIdContinue c || within [(0xE33, 0xE33), (0xEB3, 0xEB3), (0xFF9E, 0xFF9F)] c

/-! ## Names -/

def properties : List (List String × (Char → Bool)) :=
  [(["whitespace", "wspace", "space"], isBlank),
   (["alphabetic", "alpha"], isAlphabetic),
   (["lowercase", "lower"], isLowercase),
   (["uppercase", "upper"], isUppercase),
   (["cased"], isCased),
   (["caseignorable", "ci"], isCaseIgnorable),
   (["changeswhenlowercased", "cwl"], changesWhenLowercased),
   (["changeswhenuppercased", "cwu"], changesWhenUppercased),
   (["changeswhentitlecased", "cwt"], changesWhenTitlecased),
   (["changeswhencasemapped", "cwcm"], changesWhenCasemapped),
   (["changeswhencasefolded", "cwcf"], changesWhenCasefolded),
   (["softdotted", "sd"], isSoftDotted),
   (["asciihexdigit", "ahex"], within [(0x30, 0x39), (0x41, 0x46), (0x61, 0x66)]),
   (["hexdigit", "hex"], isHexDigit),
   (["dash"], isDash),
   (["hyphen"], isHyphen),
   (["quotationmark", "qmark"], isQuotationMark),
   (["terminalpunctuation", "term"], isTerminalPunctuation),
   (["sentenceterminal", "sterm"], isSentenceTerminal),
   (["bidicontrol", "bidic"], isBidiControl),
   (["bidimirrored", "bidim"], isBidiMirrored),
   (["joincontrol", "joinc"], isJoinControl),
   (["deprecated", "dep"], isDeprecated),
   (["diacritic", "dia"], isDiacritic),
   (["extender", "ext"], isExtender),
   (["graphemebase", "grbase"], isGraphemeBase),
   (["graphemeextend", "grext"], isGraphemeExtend),
   (["graphemelink", "grlink"], isGraphemeLink),
   (["defaultignorablecodepoint", "di"], isDefaultIgnorable),
   (["noncharactercodepoint", "nchar"], isNoncharacter),
   (["logicalorderexception", "loe"], isLogicalOrderException),
   (["modifiercombiningmark", "mcm"], isModifierCombiningMark),
   (["prependedconcatenationmark", "pcm"], isConcatenationMark),
   (["variationselector", "vs"], isVariationSelector),
   (["ideographic", "ideo"], isIdeographic),
   (["unifiedideograph", "uideo"], isUnifiedIdeograph),
   (["radical"], isRadical),
   (["idsbinaryoperator", "idsb"], isBinaryDescription),
   (["idstrinaryoperator", "idst"], within [(0x2FF2, 0x2FF3)]),
   (["idsunaryoperator", "idsu"], within [(0x2FFE, 0x2FFF)]),
   (["math"], isMath),
   (["idcompatmathstart"], isMathStart),
   (["idcompatmathcontinue"], isMathContinue),
   (["idstart", "ids"], isIdStart),
   (["idcontinue", "idc"], isIdContinue),
   (["xidstart", "xids"], fun c => isIdStart c && !breaksIdStart c),
   (["xidcontinue", "xidc"], fun c => isIdContinue c && !breaksIdContinue c),
   (["patternsyntax", "patsyn"], isPatternSyntax),
   (["patternwhitespace", "patws"], isPatternBlank),
   (["emoji"], isEmoji),
   (["emojicomponent", "ecomp"], isEmojiComponent),
   (["emojimodifier", "emod"], within [(0x1F3FB, 0x1F3FF)]),
   (["emojimodifierbase", "ebase"], isEmojiModifierBase),
   (["emojipresentation", "epres"], isEmojiPresentation),
   (["extendedpictographic", "extpict"], isPictographic),
   (["regionalindicator", "ri"], within [(0x1F1E6, 0x1F1FF)]),
   (["otheralphabetic", "oalpha"], isOtherAlphabetic),
   (["otherlowercase", "olower"], isOtherLowercase),
   (["otheruppercase", "oupper"], isOtherUppercase),
   (["othermath", "omath"], isOtherMath),
   (["otherdefaultignorablecodepoint", "odi"], isOtherIgnorable),
   (["othergraphemeextend", "ogrext"], isOtherExtend),
   (["otheridstart", "oids"], isOtherIdStart),
   (["otheridcontinue", "oidc"], isOtherIdContinue)]

def propertyOfName? (name : Text) : Option (Char → Bool) :=
  (properties.find? fun p => p.1.contains (String.ofList name)).map Prod.snd

end SuiteAudit.Text
