import Prospectus.Pdf.Encoding
import Prospectus.Proofs.TextEncoding

/-!
# Strings that tell their own encoding

A string without a known encoding is told by its bytes alone: UTF-16 after its
mark, else UTF-8 if it can be that, else one character a byte.  UTF-16 is read
back with pairs of surrogates and with a byte too many
(`decodeUnits_encodeUnits`, `unitsBigEndian_bytesBigEndian`).  UTF-8 is never
taken for UTF-16, since no byte of it is as large as those of the mark
(`lt_mark_of_mem_encodeUtf8`).
-/

namespace Prospectus.Text

/-! ## UTF-16 -/

theorem isHighSurrogate_iff (u : UInt16) :
    isHighSurrogate u = true ↔ 0xD800 ≤ u.toNat ∧ u.toNat ≤ 0xDBFF := by
  rw [isHighSurrogate, Bool.and_eq_true, decide_eq_true_eq, decide_eq_true_eq]
  exact Iff.rfl

theorem isLowSurrogate_iff (u : UInt16) :
    isLowSurrogate u = true ↔ 0xDC00 ≤ u.toNat ∧ u.toNat ≤ 0xDFFF := by
  rw [isLowSurrogate, Bool.and_eq_true, decide_eq_true_eq, decide_eq_true_eq]
  exact Iff.rfl

theorem toNat_toUInt16 {n : Nat} (h : n < 0x10000) : n.toUInt16.toNat = n :=
  UInt16.toNat_ofNat_of_lt' h

/-- A unit that begins no pair stands alone. -/
theorem decodeUnits_cons {u : UInt16} (hhigh : ¬ isHighSurrogate u = true)
    (rest : List UInt16) :
    decodeUnits (u :: rest) = charOfUnit u :: decodeUnits rest := by
  cases rest with
  | nil => rfl
  | cons v rest => exact if_neg fun hpair => hhigh (Bool.and_eq_true_iff.mp hpair).1

/-- The units of a character are read as the character, whatever follows. -/
theorem decodeUnits_unitsOfChar (c : Char) (rest : List UInt16) :
    decodeUnits (unitsOfChar c ++ rest) = c :: decodeUnits rest := by
  -- no character has the number of a surrogate
  have hvalid : c.toNat < 0xD800 ∨ 0xDFFF < c.toNat ∧ c.toNat < 0x110000 := c.valid
  unfold unitsOfChar
  by_cases hone : c.toNat < 0x10000
  · have hunit := toNat_toUInt16 hone
    have hhigh : ¬ isHighSurrogate c.toNat.toUInt16 = true := by
      rw [isHighSurrogate_iff]
      omega
    have hlow : ¬ isLowSurrogate c.toNat.toUInt16 = true := by
      rw [isLowSurrogate_iff]
      omega
    rw [if_pos hone, List.singleton_append, decodeUnits_cons hhigh, charOfUnit,
      if_neg (by rw [Bool.or_eq_true]; exact not_or_intro hhigh hlow), hunit,
      Char.ofNat_toNat]
  · obtain ⟨n, hn⟩ : ∃ n, c.toNat = 0x10000 + n := ⟨c.toNat - 0x10000, by omega⟩
    have hfirst : (0xD800 + n / 0x400).toUInt16.toNat = 0xD800 + n / 0x400 :=
      toNat_toUInt16 (by omega)
    have hsecond : (0xDC00 + n % 0x400).toUInt16.toNat = 0xDC00 + n % 0x400 :=
      toNat_toUInt16 (by omega)
    have hpair : (isHighSurrogate (0xD800 + n / 0x400).toUInt16 &&
        isLowSurrogate (0xDC00 + n % 0x400).toUInt16) = true := by
      rw [Bool.and_eq_true, isHighSurrogate_iff, isLowSurrogate_iff]
      omega
    have hsum : 0x10000 + (0xD800 + n / 0x400 - 0xD800) * 0x400 +
        (0xDC00 + n % 0x400 - 0xDC00) = c.toNat := by omega
    have hchar : pairSurrogates (0xD800 + n / 0x400).toUInt16 (0xDC00 +
        n % 0x400).toUInt16 = c := by
      rw [pairSurrogates, hfirst, hsecond, hsum, Char.ofNat_toNat]
    rw [if_neg hone, hn, Nat.add_sub_cancel_left]
    dsimp only
    rw [List.cons_append, List.singleton_append, decodeUnits, if_pos hpair, hchar]

theorem decodeUnits_encodeUnits (s : String) :
    decodeUnits (encodeUnits s) = s.toList := by
  unfold encodeUnits
  induction s.toList with
  | nil => rfl
  | cons c cs ih => rw [List.flatMap_cons, decodeUnits_unitsOfChar, ih]

/-- A unit is made of its two bytes. -/
theorem unit_of_bytes (u : UInt16) :
    (u / 256).toUInt8.toUInt16 * 256 + u.toUInt8.toUInt16 = u := by
  have hu := u.toNat_lt
  have hhigh : (u / 256).toUInt8.toUInt16.toNat = u.toNat / 256 := by
    rw [UInt8.toNat_toUInt16, UInt16.toNat_toUInt8, UInt16.toNat_div]
    change u.toNat / 256 % 2 ^ 8 = _
    omega
  have hlow : u.toUInt8.toUInt16.toNat = u.toNat % 256 := by
    rw [UInt8.toNat_toUInt16, UInt16.toNat_toUInt8]
  apply UInt16.toNat_inj.mp
  rw [UInt16.toNat_add, UInt16.toNat_mul, hhigh, hlow]
  change (u.toNat / 256 * 256 % 2 ^ 16 + u.toNat % 256) % 2 ^ 16 = _
  omega

/-- Units are read back from their bytes, with or without a byte after them. -/
theorem unitsBigEndian_bytesBigEndian (units : List UInt16) {stray : List UInt8}
    (hstray : stray.length ≤ 1) :
    unitsBigEndian (bytesBigEndian units ++ stray) = units := by
  induction units with
  | nil =>
      cases stray with
      | nil => rfl
      | cons b more =>
          cases more with
          | nil => rfl
          | cons _ _ => simp at hstray
  | cons u units ih =>
      have hbytes : bytesBigEndian (u :: units) ++ stray =
          (u / 256).toUInt8 :: u.toUInt8 :: (bytesBigEndian units ++ stray) := rfl
      rw [hbytes, unitsBigEndian, unit_of_bytes, ih]

/-! ## UTF-8 -/

/-- No byte of a text is as large as those of the mark of UTF-16. -/
theorem lt_mark_of_mem_encodeUtf8 {s : String} {b : UInt8}
    (hb : b ∈ encodeUtf8 s) : b.toNat < 0xFE := by
  rw [encodeUtf8_eq_flatMap, List.mem_flatMap] at hb
  obtain ⟨c, -, hb⟩ := hb
  have hlead : ∀ n < 0xFE, (UInt8.ofNat n).toNat < 0xFE := by
    intro n hn
    rw [UInt8.toNat_ofNat_of_lt' (by change _ < 256; omega)]
    exact hn
  unfold String.utf8EncodeChar at hb
  dsimp only at hb
  split at hb
  · obtain rfl := List.mem_singleton.mp hb
    exact hlead _ (by omega)
  split at hb
  · simp only [List.mem_cons, List.not_mem_nil, or_false] at hb
    rcases hb with rfl | rfl <;> exact hlead _ (by omega)
  split at hb
  · simp only [List.mem_cons, List.not_mem_nil, or_false] at hb
    rcases hb with rfl | rfl | rfl <;> exact hlead _ (by omega)
  · simp only [List.mem_cons, List.not_mem_nil, or_false] at hb
    rcases hb with rfl | rfl | rfl | rfl <;> exact hlead _ (by omega)

end Prospectus.Text

namespace Prospectus.Pdf

open Text

/-- A string that is not marked as UTF-16 is UTF-8 if it can be, and one
character a byte otherwise. -/
theorem textOfBytes_unmarked {bytes : Bytes} (h : ¬ [0xFE, 0xFF] <+: bytes) :
    textOfBytes bytes = (decodeUtf8? bytes).getD
      (String.ofList (bytes.map fun b => Char.ofNat b.toNat)) := by
  unfold textOfBytes
  split
  · rename_i rest
    exact absurd ⟨rest, rfl⟩ h
  · cases decodeUtf8? bytes <;> rfl

theorem unmarked_encodeUtf8 (s : String) : ¬ [0xFE, 0xFF] <+: encodeUtf8 s := by
  intro hmark
  have hlt := lt_mark_of_mem_encodeUtf8 (hmark.subset List.mem_cons_self)
  exact absurd hlt (by decide)

/-- A byte is the number of a character. -/
theorem toNat_ofNat_byte (b : UInt8) : (Char.ofNat b.toNat).toNat = b.toNat := by
  have hb := b.toNat_lt
  have hvalid : b.toNat.isValidChar := Or.inl (by omega)
  rw [Char.ofNat, dif_pos hvalid]
  rfl

/-- **A string tells its encoding.**  A text in UTF-16 after its mark is read
back, also with a byte too many after it.  A text in UTF-8 is read back.  Bytes
that are neither marked nor the UTF-8 of any text are each read as the character
with the number of the byte. -/
theorem textOfBytes_tells_encoding (s : String) (stray : UInt8) (bytes : Bytes) :
    textOfBytes (0xFE :: 0xFF :: bytesBigEndian (encodeUnits s)) = s ∧
    textOfBytes (0xFE :: 0xFF :: (bytesBigEndian (encodeUnits s) ++ [stray])) = s ∧
    textOfBytes (encodeUtf8 s) = s ∧
    (¬ [0xFE, 0xFF] <+: bytes → (¬ ∃ t, encodeUtf8 t = bytes) →
      (textOfBytes bytes).toList.map Char.toNat = bytes.map UInt8.toNat) := by
  have hmarked : ∀ rest : Bytes, rest.length ≤ 1 →
      textOfBytes (0xFE :: 0xFF :: (bytesBigEndian (encodeUnits s) ++ rest)) =
        s := by
    intro rest hrest
    change String.ofList (decodeUnits
      (unitsBigEndian (bytesBigEndian (encodeUnits s) ++ rest))) = s
    rw [unitsBigEndian_bytesBigEndian _ hrest, decodeUnits_encodeUnits,
      String.ofList_toList]
  refine ⟨?_, hmarked [stray] (Nat.le_refl 1), ?_, ?_⟩
  · simpa using hmarked [] (Nat.zero_le 1)
  · rw [textOfBytes_unmarked (unmarked_encodeUtf8 s), decodeUtf8?_encodeUtf8,
      Option.getD_some]
  · intro hunmarked hforeign
    have hnone : decodeUtf8? bytes = none :=
      Option.eq_none_iff_forall_ne_some.mpr fun t ht =>
        hforeign ⟨t, decodeUtf8?_eq_some_iff.mp ht⟩
    rw [textOfBytes_unmarked hunmarked, hnone, Option.getD_none,
      String.toList_ofList, List.map_map]
    exact List.map_congr_left fun b _ => toNat_ofNat_byte b

/-- Half of the mark, and then a byte that continues nothing. -/
theorem halfMark_tells_encoding :
    (¬ [0xFE, 0xFF] <+: ([0xFE, 0xE9] : Bytes)) ∧
    (¬ ∃ t, encodeUtf8 t = [0xFE, 0xE9]) ∧
      (textOfBytes [0xFE, 0xE9]).toList.map Char.toNat = [0xFE, 0xE9] := by
  have hunmarked : ¬ [0xFE, 0xFF] <+: ([0xFE, 0xE9] : Bytes) := by decide
  have hforeign : ¬ ∃ t, encodeUtf8 t = [0xFE, 0xE9] := by
    rintro ⟨t, ht⟩
    have hlt := @lt_mark_of_mem_encodeUtf8 t 0xFE (ht ▸ List.mem_cons_self)
    exact absurd hlt (by decide)
  exact ⟨hunmarked, hforeign,
    (textOfBytes_tells_encoding "" 0 [0xFE, 0xE9]).2.2.2 hunmarked hforeign⟩

end Prospectus.Pdf
