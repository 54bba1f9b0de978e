import Prospectus.Text.Utf8

/-!
# Texts and their bytes

The UTF-8 bytes of a text are those of its characters (`encodeUtf8_eq_flatMap`),
and decoding reads exactly what encoding writes (`decodeUtf8?_eq_some_iff`).
-/

namespace Prospectus.Text

/-- The bytes that are yet to be listed follow those that have been. -/
theorem toList_loop (bytes : ByteArray) (i : Nat) (done : List UInt8) :
    ByteArray.toList.loop bytes i done =
      done.reverse ++ bytes.data.toList.drop i := by
  fun_induction ByteArray.toList.loop bytes i done with
  | case1 i done hlt ih =>
      have hi : i < bytes.data.size := hlt
      have hbyte : bytes.get! i = bytes.data[i] := getElem!_pos bytes.data i hi
      have hdrop : bytes.data.toList.drop i =
          bytes.data[i] :: bytes.data.toList.drop (i + 1) := by
        rw [List.drop_eq_getElem_cons (by simpa using hlt), Array.getElem_toList]
      rw [ih, hdrop, hbyte, List.reverse_cons, List.append_assoc,
        List.singleton_append]
  | case2 i done hle =>
      have hi : bytes.data.toList.length ≤ i := Nat.le_of_not_lt hle
      rw [List.drop_eq_nil_of_le hi, List.append_nil]

theorem encodeUtf8_eq_data (s : String) :
    encodeUtf8 s = s.toByteArray.data.toList := by
  rw [encodeUtf8, ByteArray.toList, toList_loop]
  rfl

/-- The bytes of a text are those of its characters. -/
theorem encodeUtf8_eq_flatMap (s : String) :
    encodeUtf8 s = s.toList.flatMap String.utf8EncodeChar := by
  rw [encodeUtf8_eq_data, ← String.utf8Encode_toList, List.utf8Encode,
    List.data_toByteArray]

/-- A text can be read off its bytes. -/
theorem decodeUtf8?_encodeUtf8 (s : String) :
    decodeUtf8? (encodeUtf8 s) = some s := by
  have hvalid : s.toUTF8.IsValidUTF8 := s.isValidUTF8
  rw [decodeUtf8?, encodeUtf8_eq_data, String.fromUTF8?]
  exact dif_pos hvalid

/-- Decoding reads exactly the bytes of texts. -/
theorem decodeUtf8?_eq_some_iff {bytes : List UInt8} {s : String} :
    decodeUtf8? bytes = some s ↔ encodeUtf8 s = bytes := by
  constructor
  · intro h
    rw [decodeUtf8?, String.fromUTF8?] at h
    split at h
    · cases h
      exact encodeUtf8_eq_data _
    · cases h
  · rintro rfl
    exact decodeUtf8?_encodeUtf8 s

end Prospectus.Text
