import SuiteAudit.Text.Basic

/-!
# Bytes

The bytes of a text in UTF-8. A byte is kept as the character with its code, so that what is defined
on texts is defined on bytes too.
-/

namespace SuiteAudit.Text

def charBytes (c : Char) : Text :=
  let n := c.toNat
  let tail (unit : Nat) : Nat := 0x80 + n / unit % 0x40
  let codes :=
    if n < 0x80 then [n]
    else if n < 0x800 then [0xC0 + n / 0x40, tail 1]
    else if n < 0x10000 then [0xE0 + n / 0x1000, tail 0x40, tail 1]
    else [0xF0 + n / 0x40000, tail 0x1000, tail 0x40, tail 1]
  codes.map Char.ofNat

def bytes (t : Text) : Text := t.flatMap charBytes

def ofBytes? (bs : List UInt8) : Option Text :=
  (String.fromUTF8? ⟨bs.toArray⟩).map String.toList

end SuiteAudit.Text
