set_option autoImplicit false

namespace Horoscope

abbrev Text := List Char

abbrev Bytes := List UInt8

namespace Text

def bytes (text : Text) : Bytes := text.flatMap String.utf8EncodeChar

def byteLength : Text → Nat
  | [] => 0
  | c :: rest => c.utf8Size + byteLength rest

theorem byte_length_append (a b : Text) : byteLength (a ++ b) = byteLength a + byteLength b := by
  induction a with
  | nil => simp [byteLength]
  | cons c rest ih => simp [byteLength, ih, Nat.add_assoc]

theorem length_bytes (text : Text) : text.bytes.length = text.byteLength := by
  induction text with
  | nil => rfl
  | cons c rest ih => simpa [bytes, byteLength] using ih

def ofBytes? (bytes : Bytes) : Option Text := (String.fromUTF8? ⟨bytes.toArray⟩).map String.toList

theorem utf8_encode_bytes (text : Text) : text.utf8Encode = ⟨text.bytes.toArray⟩ :=
  ByteArray.ext List.data_toByteArray

theorem of_bytes_some_iff (bytes : Bytes) (text : Text) : ofBytes? bytes = some text ↔ bytes = text.bytes := by
  rw [ofBytes?, Option.map_eq_some_iff]
  apply Iff.intro
  · intro form
    obtain ⟨s, found, rfl⟩ := form
    rw [String.fromUTF8?] at found
    split at found
    · cases found
      have encoded := utf8_encode_bytes (String.fromUTF8 ⟨bytes.toArray⟩ ‹_›).toList
      rw [String.utf8Encode_toList] at encoded
      exact congrArg Array.toList (congrArg ByteArray.data encoded)
    · cases found
  · rintro rfl
    have valid : ByteArray.IsValidUTF8 ⟨text.bytes.toArray⟩ := ⟨text, (utf8_encode_bytes text).symm⟩
    refine ⟨String.ofList text, ?_, String.toList_ofList⟩
    rw [String.fromUTF8?, dif_pos valid, Option.some.injEq, ← String.toByteArray_inj, String.toByteArray_ofList,
      utf8_encode_bytes]
    rfl

def sameLetters (a b : Text) : Bool := a.map Char.toLower == b.map Char.toLower

end Text

def Bytes.ofString (s : String) : Bytes := Text.bytes s.toList

end Horoscope
