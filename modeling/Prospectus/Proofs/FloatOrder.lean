import Prospectus.Proofs.FloatArithmetic

/-!
# The order of 32-bit floats

The bits of a float that is a number are a sign and a magnitude
(`signedMagnitude`).  Changing the sign of the float keeps the magnitude, and
floats that are not negative are ordered as their magnitudes are, infinity
included.
-/

namespace Prospectus.Number

open Float.Model.UnpackedFloat

/-- The number that a sign and the bits of a magnitude stand for, infinity being
the last. -/
def signedMagnitude (s : Sign) (k : Nat) : Float.Model.UnpackedFloat :=
  if hk : k = 0 then .zero s
  else if k < binary32.infinity then
    .finite s (binary32.parts k).1 (binary32.parts k).2
      (binary32.parts_spec (Nat.pos_of_ne_zero hk)).2.1
  else .infinity s

/-- A magnitude is zero, finite or that of infinity. -/
theorem signedMagnitude_cases (k : Nat) :
    (k = 0 ∧ ∀ s, signedMagnitude s k = .zero s) ∨
    (∃ h : 0 < k, k < binary32.infinity ∧
      ∀ s, signedMagnitude s k = .finite s (binary32.parts k).1
        (binary32.parts k).2 (binary32.parts_spec h).2.1) ∨
    (binary32.infinity ≤ k ∧ ∀ s, signedMagnitude s k = .infinity s) := by
  unfold signedMagnitude
  by_cases hzero : k = 0
  · exact .inl ⟨hzero, fun s => dif_pos hzero⟩
  · refine .inr ?_
    by_cases hlt : k < binary32.infinity
    · exact .inl ⟨Nat.pos_of_ne_zero hzero, hlt,
        fun s => by rw [dif_neg hzero, if_pos hlt]⟩
    · exact .inr ⟨Nat.le_of_not_lt hlt, fun s => by rw [dif_neg hzero, if_neg hlt]⟩

theorem neg_signedMagnitude (s : Sign) (k : Nat) :
    neg (signedMagnitude s k) = signedMagnitude (-s) k := by
  rcases signedMagnitude_cases k with ⟨-, h⟩ | ⟨_, -, h⟩ | ⟨-, h⟩ <;>
    rw [h, h] <;> rfl

/-- The three fields of a bit pattern, from its sign and its magnitude. -/
theorem fields_eq {bits : BitVec 32} (s : Sign) {k : Nat}
    (hk : k ≤ binary32.infinity)
    (hbits : bits.toNat = s.toBitVec.toNat * 0x80000000 + k) :
    (@unpackExponent Float.Model.Format.binary32 bits).toNat = k / 2 ^ 23 ∧
      (@unpackMantissa Float.Model.Format.binary32 bits).toNat = k % 2 ^ 23 ∧
      Sign.ofBitVec (@unpackSign Float.Model.Format.binary32 bits) = s := by
  have hinf : binary32.infinity = 0x7F800000 := rfl
  refine ⟨?_, ?_, ?_⟩
  · change (bits.toNat >>> 23) % 2 ^ 8 = _
    rw [Nat.shiftRight_eq_div_pow]
    omega
  · change (bits.toNat >>> 0) % 2 ^ 23 = _
    rw [Nat.shiftRight_zero]
    omega
  · have hsign : @unpackSign Float.Model.Format.binary32 bits = s.toBitVec := by
      apply BitVec.eq_of_toNat_eq
      change (bits.toNat >>> 31) % 2 ^ 1 = s.toBitVec.toNat
      have hbit : s.toBitVec.toNat < 2 ^ 1 := s.toBitVec.isLt
      rw [Nat.shiftRight_eq_div_pow]
      omega
    rw [hsign]
    cases s <;> rfl

/-- A bit pattern is taken apart into its sign and its magnitude. -/
theorem unpack_eq_signedMagnitude {bits : BitVec 32} (s : Sign) {k : Nat}
    (hk : k ≤ binary32.infinity)
    (hbits : bits.toNat = s.toBitVec.toNat * 0x80000000 + k) :
    unpack Float.Model.Format.binary32 bits = signedMagnitude s k := by
  have hinf : binary32.infinity = 0x7F800000 := rfl
  obtain ⟨hexp, hmant, hsign⟩ := fields_eq s hk hbits
  have hlast : @unpackExponent Float.Model.Format.binary32 bits = -1#_ ↔
      k = binary32.infinity := by
    rw [← BitVec.toNat_inj, hexp]
    change k / 2 ^ 23 = 255 ↔ _
    omega
  have hfirst : @unpackExponent Float.Model.Format.binary32 bits = 0#_ ↔
      k / 2 ^ 23 = 0 := by
    rw [← BitVec.toNat_inj, hexp]
    rfl
  have hnone : @unpackMantissa Float.Model.Format.binary32 bits = 0#_ ↔
      k % 2 ^ 23 = 0 := by
    rw [← BitVec.toNat_inj, hmant]
    rfl
  unfold unpack
  dsimp only
  rw [hsign]
  by_cases hinfinite : k = binary32.infinity
  · rw [if_pos (hlast.mpr hinfinite), if_pos (hnone.mpr (by omega)),
      signedMagnitude, dif_neg (by omega), if_neg (by omega)]
  rw [if_neg (mt hlast.mp hinfinite)]
  -- below the normal numbers the exponent field is zero, and no bit is implied
  by_cases hsmall : k / 2 ^ 23 = 0
  · rw [if_pos (hfirst.mpr hsmall)]
    by_cases hzero : k = 0
    · rw [dif_pos (hnone.mpr (by omega)), signedMagnitude, dif_pos hzero]
    · have hparts : binary32.parts k = (k, -149) := if_pos hsmall
      rw [dif_neg (mt hnone.mp (by omega)), signedMagnitude, dif_neg hzero,
        if_pos (by omega)]
      apply finite_eq_finite
      · rw [hmant, hparts]
        omega
      · rw [hexp, hparts, hsmall]
        rfl
  · have hparts : binary32.parts k =
        (2 ^ 23 + k % 2 ^ 23, ((k / 2 ^ 23 : Nat) : ℤ) - 1 - (149 : Nat)) :=
      if_neg hsmall
    rw [if_neg (mt hfirst.mp hsmall), signedMagnitude, dif_neg (by omega),
      if_pos (by omega)]
    apply finite_eq_finite
    · rw [toNat_implicit, hmant, hparts]
    · rw [hexp, hparts]
      change _ - ((127 : Nat) + (23 : Nat) : ℤ) = _
      omega

/-- Putting a sign and a magnitude together. -/
theorem toNat_pack_signedMagnitude (s : Sign) {k : Nat}
    (hk : k ≤ binary32.infinity) :
    (pack Float.Model.Format.binary32 (signedMagnitude s k)).toNat =
      s.toBitVec.toNat * 0x80000000 + k := by
  have hinf : binary32.infinity = 0x7F800000 := rfl
  have hbit : s.toBitVec.toNat < 2 ^ 1 := s.toBitVec.isLt
  have hword : (BitVec.ofNat 32 (s.toBitVec.toNat * 0x80000000 + k)).toNat =
      s.toBitVec.toNat * 0x80000000 + k := by
    rw [BitVec.toNat_ofNat]
    omega
  rcases Nat.lt_or_eq_of_le hk with hlt | rfl
  · have hunpack := unpack_eq_signedMagnitude s hk hword
    have hfinite := (unpackExponent_ne_iff
      ⟨BitVec.ofNat 32 (s.toBitVec.toNat * 0x80000000 + k)⟩).mpr (by
      change (BitVec.ofNat 32 (s.toBitVec.toNat * 0x80000000 + k)).toNat % _ < _
      omega)
    rw [← hunpack, pack_unpack Float.Model.Format.binary32 (by decide) _
      hfinite, hword]
  · cases s <;> rfl

/-- Putting together and taking apart changes nothing. -/
theorem unpack_pack_signedMagnitude (s : Sign) {k : Nat}
    (hk : k ≤ binary32.infinity) :
    unpack Float.Model.Format.binary32 (pack Float.Model.Format.binary32
      (signedMagnitude s k)) = signedMagnitude s k :=
  unpack_eq_signedMagnitude s hk (toNat_pack_signedMagnitude s hk)

/-- Positive numbers with a last bit are ordered by its place, then by their
significands. -/
theorem compare_parts {j k : Nat} (hj : 0 < j) (hk : 0 < k) :
    ((compare (binary32.parts j).2 (binary32.parts k).2).then
      (compare (binary32.parts j).1 (binary32.parts k).1) =
      .lt) ↔ j < k := by
  obtain ⟨hj, -, hjhigh, hjleast, hjnormal⟩ := binary32.parts_spec hj
  obtain ⟨hk, -, hkhigh, hkleast, hknormal⟩ := binary32.parts_spec hk
  have hunit : binary32.unit = 2 ^ 23 := rfl
  have hleast : (binary32.least : ℤ) = 149 := rfl
  rw [hunit] at hj hk hjhigh hkhigh hjnormal hknormal
  rw [Ordering.then_eq_lt, compare_lt_iff_lt, compare_eq_iff_eq, compare_lt_iff_lt]
  omega

/-- Numbers that are not negative are ordered as their magnitudes are. -/
theorem lt_signedMagnitude_positive {j k : Nat} (hj : j ≤ binary32.infinity)
    (hk : k ≤ binary32.infinity) :
    (signedMagnitude .positive j).lt (signedMagnitude .positive k) = true ↔
    j < k := by
  have hinf : 0 < binary32.infinity := by decide
  rcases signedMagnitude_cases j with ⟨hjzero, hleft⟩ | ⟨hjpos, hjlt, hleft⟩ |
    ⟨hjinf, hleft⟩
  · rw [hleft]
    rcases signedMagnitude_cases k with ⟨hkzero, hright⟩ |
      ⟨hkpos, hklt, hright⟩ | ⟨hkinf, hright⟩
    · rw [hright]
      exact iff_of_false Bool.false_ne_true (by omega)
    · rw [hright]
      exact iff_of_true rfl (by omega)
    · rw [hright]
      exact iff_of_true rfl (by omega)
  · rw [hleft]
    rcases signedMagnitude_cases k with ⟨hkzero, hright⟩ |
      ⟨hkpos, hklt, hright⟩ | ⟨hkinf, hright⟩
    · rw [hright]
      exact iff_of_false Bool.false_ne_true (by omega)
    · rw [hright, ← compare_parts hjpos hkpos, Float.Model.UnpackedFloat.lt,
        beq_iff_eq]
      exact Option.some_inj
    · rw [hright]
      exact iff_of_true rfl (by omega)
  · rw [hleft]
    refine iff_of_false ?_ (by omega)
    rcases signedMagnitude_cases k with ⟨-, hright⟩ | ⟨_, -, hright⟩ |
      ⟨-, hright⟩ <;>
      rw [hright] <;> exact Bool.false_ne_true

/-- No number that is not negative is below one that is not positive. -/
theorem lt_signedMagnitude_negative (j k : Nat) :
    (signedMagnitude .positive j).lt (signedMagnitude .negative k) = false := by
  rcases signedMagnitude_cases j with ⟨-, hleft⟩ | ⟨_, -, hleft⟩ | ⟨-, hleft⟩ <;>
    rcases signedMagnitude_cases k with ⟨-, hright⟩ | ⟨_, -, hright⟩ |
      ⟨-, hright⟩ <;>
    rw [hleft, hright] <;> rfl

/-! ## Floats -/

/-- A float is the number of a sign and a magnitude. -/
structure Shows (x : Float32) (s : Sign) (k : Nat) : Prop where
  le : k ≤ binary32.infinity
  unpack_eq : x.toModel.unpack = signedMagnitude s k

namespace Shows

variable {x y : Float32} {s : Sign} {j k : Nat}

theorem of_toBits (hk : k ≤ binary32.infinity)
    (hx : x.toBits.toNat = s.toBitVec.toNat * 0x80000000 + k) : Shows x s k :=
  ⟨hk, unpack_eq_signedMagnitude s hk hx⟩

theorem of_ofBits {bits : UInt32} (hk : k ≤ binary32.infinity)
    (hbits : bits.toNat = s.toBitVec.toNat * 0x80000000 + k) :
    Shows (Float32.ofBits bits) s k := by
  refine ⟨hk, ?_⟩
  change unpack Float.Model.Format.binary32 (pack Float.Model.Format.binary32
    (unpack Float.Model.Format.binary32 bits.toBitVec)) = _
  rw [unpack_eq_signedMagnitude s hk hbits, unpack_pack_signedMagnitude s hk]

/-- Changing the sign keeps the magnitude. -/
theorem neg (h : Shows x s k) : Shows (-x) (-s) k := by
  refine ⟨h.le, ?_⟩
  change unpack Float.Model.Format.binary32 (pack Float.Model.Format.binary32
    (Float.Model.UnpackedFloat.neg x.toModel.unpack)) = _
  rw [h.unpack_eq, neg_signedMagnitude, unpack_pack_signedMagnitude (-s) h.le]

theorem lt_iff (hx : Shows x .positive j) (hy : Shows y .positive k) :
    x < y ↔ j < k := by
  rw [← lt_signedMagnitude_positive hx.le hy.le, ← hx.unpack_eq, ← hy.unpack_eq]
  exact decide_eq_true_iff

theorem not_lt (hx : Shows x .positive j) (hy : Shows y .negative k) : ¬ x < y := by
  intro h
  have hlt : x.toModel.unpack.lt y.toModel.unpack = true := decide_eq_true_iff.mp h
  rw [hx.unpack_eq, hy.unpack_eq, lt_signedMagnitude_negative] at hlt
  exact Bool.false_ne_true hlt

end Shows

/-- The float nearest to an integer has its sign. -/
theorem shows_float32OfInt (i : Int) :
    Shows (float32OfInt i) (if i < 0 then .negative
      else .positive) (binary32.round i.natAbs 1) := by
  have hround : binary32.round i.natAbs 1 ≤ binary32.infinity := by
    unfold Format.round
    split
    · exact Nat.zero_le _
    · exact Nat.min_le_right _ _
  have hinf : binary32.infinity = 0x7F800000 := rfl
  have hword : (binary32.round i.natAbs 1).toUInt32.toNat =
      binary32.round i.natAbs 1 :=
    UInt32.toNat_ofNat_of_lt' (by change _ < 2 ^ 32; omega)
  refine Shows.of_ofBits hround ?_
  rw [UInt32.toNat_add, hword]
  by_cases hneg : i < 0
  · rw [if_pos (decide_eq_true hneg), if_pos hneg]
    change (2147483648 + _) % 2 ^ 32 = 1 * 0x80000000 + _
    omega
  · rw [if_neg (by simpa using hneg), if_neg hneg]
    change (0 + _) % 2 ^ 32 = 0 * 0x80000000 + _
    omega

end Prospectus.Number
