/-! Texts as bytes.

Programs exchange bytes, and not all bytes are text. A byte is held as the character of its number,
so that ASCII text can be written down as it is. -/
namespace PassTuner.Text

/-- The byte of a number below 256. -/
def byte (n : Nat) : Char := Char.ofNat (n % 256)

/-- The bytes of a text in UTF-8. -/
def bytes (text : String) : List Char := text.toUTF8.data.toList.map fun b => Char.ofNat b.toNat

/-- The text of bytes, if they are UTF-8. -/
def ofBytes? (bs : List Char) : Option String :=
  String.fromUTF8? ⟨(bs.map fun c => UInt8.ofNat c.toNat).toArray⟩

theorem byte_of_char (b : UInt8) : UInt8.ofNat (Char.ofNat b.toNat).toNat = b := by
  have small : b.toNat < 256 := b.toNat_lt
  have valid : b.toNat.isValidChar := Or.inl (by omega)
  have number : (Char.ofNat b.toNat).toNat = b.toNat := by
    rw [Char.ofNat, dif_pos valid]
    rfl
  rw [number, UInt8.ofNat_toNat]

/-- Bytes read back as the text that they come from. -/
theorem ofBytes?_bytes (text : String) : ofBytes? (bytes text) = some text := by
  have back : ofBytes? (bytes text) = String.fromUTF8? text.toByteArray := by
    simp [ofBytes?, bytes, Function.comp_def, byte_of_char]
  rw [back, String.fromUTF8?, dif_pos text.isValidUTF8]
  rfl

end PassTuner.Text
