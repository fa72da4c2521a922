/-!
# Text and bytes

UTF-8 bytes of a text, and bytes written in hexadecimal.
-/

set_option autoImplicit false

namespace SheetCompiler.Text

/-- The UTF-8 bytes of a text. -/
def utf8 (text : String) : List UInt8 := text.toUTF8.data.toList

/-- The text of well-formed UTF-8 bytes. -/
def ofUtf8? (bytes : List UInt8) : Option String := String.fromUTF8? ⟨bytes.toArray⟩

theorem ofUtf8?_utf8 (text : String) : ofUtf8? (utf8 text) = some text := by
  have same : (⟨(utf8 text).toArray⟩ : ByteArray) = text.toUTF8 := by simp [utf8]
  simp only [ofUtf8?, String.fromUTF8?, same, String.toUTF8_eq_toByteArray,
    dif_pos text.isValidUTF8]
  rfl

/-- Bytes as pairs of lower case hexadecimal digits. -/
def hex (bytes : List UInt8) : String :=
  String.ofList (bytes.flatMap fun byte =>
    [Nat.digitChar (byte.toNat / 16), Nat.digitChar (byte.toNat % 16)])

end SheetCompiler.Text
