import Mathlib.Data.List.Basic

namespace Coderd.Foundation

/-! ## Properties of characters -/

/-- The property `White_Space`, which `char::is_whitespace` tests. -/
def isWhiteSpace (c : Char) : Bool :=
  let n := c.toNat
  (0x9 ≤ n && n ≤ 0xd) || n = 0x20 || n = 0x85 || n = 0xa0 || n = 0x1680 ||
    (0x2000 ≤ n && n ≤ 0x200a) || n = 0x2028 || n = 0x2029 || n = 0x202f || n = 0x205f || n = 0x3000

/-! ## UTF-8 -/

/-- `str::as_bytes`. -/
def utf8Bytes (s : String) : List UInt8 := s.toUTF8.data.toList

/-- `str::from_utf8`. -/
def fromUtf8 (bytes : List UInt8) : Option String := String.fromUTF8? ⟨bytes.toArray⟩

/-- The text of the `Utf8Error` for bytes that are refused. -/
class Utf8Refusal where
  text : List UInt8 → String

theorem fromUtf8_utf8Bytes (text : String) : fromUtf8 (utf8Bytes text) = some text := by
  have hbytes : (⟨(utf8Bytes text).toArray⟩ : ByteArray) = text.toByteArray := by
    simp [utf8Bytes]
  rw [fromUtf8, hbytes, String.fromUTF8?, dif_pos text.isValidUTF8]
  rfl

end Coderd.Foundation
