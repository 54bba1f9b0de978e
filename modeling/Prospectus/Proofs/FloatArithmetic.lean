import Mathlib.Algebra.Order.Field.Power
import Mathlib.Tactic.FieldSimp
import Mathlib.Tactic.Linarith
import Mathlib.Tactic.Positivity
import Mathlib.Tactic.Ring
import Prospectus.Number.Numeral
import Prospectus.Proofs.Rounding

/-!
# Arithmetic of 64-bit floats

A positive normal float is `m · 2 ^ e` with a significand of 53 bits, which
`Normal` says of its bit pattern.  Products, quotients and conversions of such
floats are again normal, unless they are very large or very small, and at most
half a last bit away from the exact result.  The exact result is followed
through the shifts of the float model as a rational number of which a mantissa,
a round bit and a sticky bit are known (`Cuts`).
-/

namespace Prospectus.Number

open Float.Model.UnpackedFloat

/-! ## Bit patterns -/

/-- A bit pattern is put together from its three fields. -/
theorem packComponents_unpack (spec : Float.Model.Format)
    (b : BitVec spec.numBits) :
    packComponents spec (Sign.ofBitVec (unpackSign b)) (unpackExponent b)
      (unpackMantissa b) = b := by
  have hsign : (Sign.ofBitVec (unpackSign b)).toBitVec = unpackSign b := by
    generalize unpackSign b = s
    revert s
    decide
  have hm := spec.hm
  have he := spec.he
  have hsignBit : unpackSign b =
      (b.extractLsb (spec.mantissaBitsWithoutImplicit + spec.exponentBits)
      (spec.mantissaBitsWithoutImplicit + spec.exponentBits)).cast (by omega) := rfl
  rw [packComponents, hsign, hsignBit]
  ext i hi
  simp only [unpackExponent, unpackMantissa, BitVec.getElem_append,
    BitVec.getElem_cast, BitVec.extractLsb, BitVec.getElem_extractLsb']
  split
  · simp [BitVec.getLsbD_eq_getElem, hi]
  · split
    · rename_i h h'
      have hplace : spec.mantissaBitsWithoutImplicit +
          (i - spec.mantissaBitsWithoutImplicit) = i := by omega
      simp [BitVec.getLsbD_eq_getElem, hi, hplace]
    · rename_i h h'
      have hplace : spec.mantissaBitsWithoutImplicit + spec.exponentBits +
          (i - spec.mantissaBitsWithoutImplicit - spec.exponentBits) = i := by omega
      simp [BitVec.getLsbD_eq_getElem, hi, hplace]

/-- The number of a bit pattern, from its three fields. -/
theorem toNat_packComponents (spec : Float.Model.Format) (s : Sign)
    (e : BitVec spec.exponentBits)
    (m : BitVec spec.mantissaBitsWithoutImplicit) :
    (packComponents spec s e m).toNat =
      (s.toBitVec.toNat * 2 ^ spec.exponentBits + e.toNat) *
        2 ^ spec.mantissaBitsWithoutImplicit +
        m.toNat := by
  rw [packComponents, BitVec.toNat_append,
    ← Nat.shiftLeft_add_eq_or_of_lt m.isLt, BitVec.toNat_append,
    ← Nat.shiftLeft_add_eq_or_of_lt e.isLt, Nat.shiftLeft_eq, Nat.shiftLeft_eq]

theorem toNat_implicit {n : Nat} (m : BitVec n) :
    (1#1 ++ m).toNat = 2 ^ n + m.toNat := by
  rw [BitVec.toNat_append, ← Nat.shiftLeft_add_eq_or_of_lt m.isLt]
  simp [Nat.shiftLeft_eq]

theorem log2_implicit {n k : Nat} (hk : k < 2 ^ n) : (2 ^ n + k).log2 = n := by
  rw [Nat.log2_eq_iff (by have := Nat.two_pow_pos n; omega), Nat.pow_succ]
  omega

/-- Packing puts a finite float back together. -/
theorem pack_unpack (spec : Float.Model.Format) (hspec : 1 < spec.exponentBits)
    (b : BitVec spec.numBits)
    (hfinite : unpackExponent b ≠ -1#_) : pack spec (unpack spec b) = b := by
  have hb := packComponents_unpack spec b
  have hcapacity : 2 ^ 2 ≤ 2 ^ spec.exponentBits :=
    Nat.pow_le_pow_right (by decide) hspec
  have hm := (unpackMantissa b).isLt
  have he := (unpackExponent b).isLt
  have hmax : (unpackExponent b).toNat + 1 ≠ 2 ^ spec.exponentBits := by
    intro h
    apply hfinite
    rw [BitVec.neg_one_eq_allOnes, ← BitVec.toNat_inj, BitVec.toNat_allOnes]
    omega
  unfold unpack
  dsimp only
  rw [if_neg hfinite]
  by_cases hzero : unpackExponent b = 0#_
  · rw [if_pos hzero]
    by_cases hmzero : unpackMantissa b = 0#_
    · rw [dif_pos hmzero]
      rw [hzero, hmzero] at hb
      exact hb
    · rw [dif_neg hmzero]
      have hlog : (unpackMantissa b).toNat.log2 <
          spec.mantissaBitsWithoutImplicit :=
        (Nat.log2_lt (by simpa [← BitVec.toNat_inj] using hmzero)).mpr hm
      have hexp : (((unpackExponent b).toNat : ℤ) -
          (spec.exponentBias + spec.mantissaBitsWithoutImplicit) + 1 +
          spec.exponentBias + spec.mantissaBitsWithoutImplicit).toNat = 1 := by
        rw [hzero, BitVec.toNat_zero]
        omega
      unfold pack
      dsimp only
      rw [hexp, if_neg (by omega),
        if_neg (by unfold Float.Model.Format.mantissaBits; omega),
        BitVec.ofNat_toNat, BitVec.setWidth_eq]
      rwa [hzero] at hb
  · rw [if_neg hzero]
    have hexp : (((unpackExponent b).toNat : ℤ) -
        (spec.exponentBias + spec.mantissaBitsWithoutImplicit) +
        spec.exponentBias + spec.mantissaBitsWithoutImplicit).toNat =
          (unpackExponent b).toNat := by
      omega
    have hmant : BitVec.ofNat spec.mantissaBitsWithoutImplicit
        (1#1 ++ unpackMantissa b).toNat = unpackMantissa b := by
      rw [← BitVec.toNat_inj, BitVec.toNat_ofNat, toNat_implicit,
        Nat.add_mod_left, Nat.mod_eq_of_lt hm]
    unfold pack
    dsimp only
    rw [hexp, hmant, toNat_implicit, log2_implicit hm, if_neg (by omega),
      if_pos (by unfold Float.Model.Format.mantissaBits; omega),
      BitVec.ofNat_toNat, BitVec.setWidth_eq]
    exact hb

/-- The exponent of a 32-bit float has a zero exactly below infinity. -/
theorem unpackExponent_ne_iff (bits : UInt32) :
    @unpackExponent Float.Model.Format.binary32 bits.toBitVec ≠ -1#_ ↔
      bits.toNat % 0x80000000 < 0x7F800000 := by
  have hlt := bits.toNat_lt
  have hexponent : @unpackExponent Float.Model.Format.binary32 bits.toBitVec =
      -1#_ ↔
      bits.toNat / 2 ^ 23 % 2 ^ 8 = 255 := by
    rw [← BitVec.toNat_inj, ← Nat.shiftRight_eq_div_pow]
    exact Iff.rfl
  rw [Ne, hexponent]
  omega

/-- A float that is a number is below infinity, but for its sign. -/
theorem toBits_lt_infinity {x : Float32} (hx : x.isFinite) :
    x.toBits.toNat % 0x80000000 < binary32.infinity := by
  rcases x with ⟨⟨bits, valid⟩⟩
  change (unpack Float.Model.Format.binary32 bits.toBitVec).isFinite = true at hx
  refine (unpackExponent_ne_iff bits).mp fun h => ?_
  unfold unpack at hx
  dsimp only at hx
  rw [if_pos h] at hx
  split at hx <;> exact Bool.false_ne_true hx

/-- The bits of a finite 32-bit float give it back. -/
theorem float32_ofBits_toBits (x : Float32)
    (hx : x.toBits.toNat % 0x80000000 < 0x7F800000) :
    Float32.ofBits x.toBits = x := by
  rcases x with ⟨⟨bits, valid⟩⟩
  have hfinite := (unpackExponent_ne_iff bits).mpr hx
  have hpack :=
    pack_unpack Float.Model.Format.binary32 (by decide) bits.toBitVec hfinite
  change Float32.ofModel ⟨UInt32.ofBitVec (pack Float.Model.Format.binary32
    (unpack Float.Model.Format.binary32 bits.toBitVec)), _⟩ = _
  congr 2
  rw [hpack]

/-- A finite 64-bit float keeps the bits that it is made from. -/
theorem float_toBits_ofBits (bits : UInt64)
    (hbits : bits.toNat % 0x8000000000000000 < 0x7FF0000000000000) :
    (Float.ofBits bits).toBits = bits := by
  have hfinite : @unpackExponent Float.Model.Format.binary64 bits.toBitVec ≠
      -1#_ := by
    intro h
    have hnat := congrArg BitVec.toNat h
    change (bits.toNat >>> 52) % 2 ^ 11 = 2047 at hnat
    rw [Nat.shiftRight_eq_div_pow] at hnat
    omega
  have hpack :=
    pack_unpack Float.Model.Format.binary64 (by decide) bits.toBitVec hfinite
  change UInt64.ofBitVec (pack Float.Model.Format.binary64
    (unpack Float.Model.Format.binary64 bits.toBitVec)) = _
  rw [hpack]

/-! ## Normal floats -/

/-- A float is the positive normal number `m · 2 ^ e`. -/
structure Normal (x : Float) (m : Nat) (e : ℤ) : Prop where
  low : 2 ^ 52 ≤ m
  high : m < 2 ^ 53
  least : -1074 ≤ e
  most : e ≤ 971
  bits : x.toBits.toNat = (e + 1074).toNat * 2 ^ 52 + m

theorem finite_eq_finite {s : Sign} {m n : Nat} {e d : ℤ} {hm : 0 < m}
    {hn : 0 < n} (hmn : m = n)
    (hed : e = d) : finite s m e hm = finite s n d hn := by
  subst hmn hed
  rfl

namespace Normal

variable {x y : Float} {m n : Nat} {e d : ℤ}

theorem pos (h : Normal x m e) : 0 < m := by have := h.low; omega

theorem unpack_eq (h : Normal x m e) :
    x.toModel.unpack = .finite .positive m e h.pos := by
  obtain ⟨hlow, hhigh, hleast, hmost, hbits⟩ := h
  rcases x with ⟨⟨bits, valid⟩⟩
  change bits.toNat = _ at hbits
  have hexp : (@unpackExponent Float.Model.Format.binary64
      bits.toBitVec).toNat = (e + 1075).toNat := by
    change (bits.toNat >>> 52) % 2 ^ 11 = _
    rw [Nat.shiftRight_eq_div_pow]
    omega
  have hmant : (@unpackMantissa Float.Model.Format.binary64
      bits.toBitVec).toNat = m - 2 ^ 52 := by
    change (bits.toNat >>> 0) % 2 ^ 52 = _
    rw [Nat.shiftRight_zero]
    omega
  have hsign : @unpackSign Float.Model.Format.binary64 bits.toBitVec = 0#1 := by
    apply BitVec.eq_of_toNat_eq
    change (bits.toNat >>> 63) % 2 ^ 1 = 0
    rw [Nat.shiftRight_eq_div_pow]
    omega
  change unpack Float.Model.Format.binary64 bits.toBitVec = _
  unfold unpack
  dsimp only
  rw [if_neg, if_neg, hsign]
  · apply finite_eq_finite
    · rw [toNat_implicit, hmant]
      change 2 ^ 52 + _ = _
      omega
    · rw [hexp]
      change _ - ((1023 : Nat) + (52 : Nat) : ℤ) = _
      omega
  · intro h
    rw [h] at hexp
    change 0 = _ at hexp
    omega
  · intro h
    rw [h] at hexp
    change 2047 = _ at hexp
    omega

/-- The bits of a normal number of either sign. -/
theorem toNat_pack (s : Sign) (hlow : 2 ^ 52 ≤ m) (hhigh : m < 2 ^ 53)
    (hleast : -1074 ≤ e) (hmost : e ≤ 971)
    (hm : 0 < m) : (pack Float.Model.Format.binary64 (.finite s m e hm)).toNat =
      s.toBitVec.toNat * 2 ^ 63 + ((e + 1074).toNat * 2 ^ 52 + m) := by
  have hlog : m.log2 + 1 = Float.Model.Format.binary64.mantissaBits := by
    rw [(Nat.log2_eq_iff hm.ne').mpr ⟨hlow, hhigh⟩]
    rfl
  have hbiased : (e + Float.Model.Format.binary64.exponentBias +
      (52 : Nat)).toNat = (e + 1075).toNat := by
    change (e + (1023 : Nat) + (52 : Nat)).toNat = _
    omega
  unfold pack
  dsimp only
  rw [hbiased, if_neg (by omega), if_pos hlog, toNat_packComponents,
    BitVec.toNat_ofNat, BitVec.toNat_ofNat]
  change (_ * 2 ^ 11 + _ % 2 ^ 11) * 2 ^ 52 + m % 2 ^ 52 = _
  omega

theorem of_finite (hlow : 2 ^ 52 ≤ m) (hhigh : m < 2 ^ 53) (hleast : -1074 ≤ e)
    (hmost : e ≤ 971) (hm : 0 < m) :
    Normal (.ofModel (.pack (.finite .positive m e hm))) m e := by
  refine ⟨hlow, hhigh, hleast, hmost, ?_⟩
  change (pack Float.Model.Format.binary64 (.finite .positive m e hm)).toNat = _
  rw [toNat_pack .positive hlow hhigh hleast hmost]
  exact Nat.zero_add _

theorem neg_toBits (h : Normal x m e) :
    (-x).toBits.toNat = 0x8000000000000000 + x.toBits.toNat := by
  change (pack Float.Model.Format.binary64 (neg x.toModel.unpack)).toNat = _
  rw [h.unpack_eq, h.bits]
  exact toNat_pack .negative h.low h.high h.least h.most h.pos

end Normal

/-! ## Rounding -/

/-- What a mantissa with its two further bits says of a number: the mantissa and
the next bit are those of the number, and the last bit tells whether anything
follows. -/
structure Cuts (em : ExtendedMantissa) (y : ℚ) : Prop where
  low : em.mantissa + em.roundBit.toNat / 2 ≤ y
  high : y < em.mantissa + em.roundBit.toNat / 2 + 1 / 2
  sticky : em.stickyBit = false ↔ y = em.mantissa + em.roundBit.toNat / 2

namespace Cuts

variable {em : ExtendedMantissa} {y : ℚ}

theorem mantissa_le (h : Cuts em y) : em.mantissa ≤ y := by
  have hlow := h.low
  have hround : (0 : ℚ) ≤ em.roundBit.toNat := by positivity
  linarith

theorem lt_mantissa_add_one (h : Cuts em y) : y < em.mantissa + 1 := by
  have hhigh := h.high
  have hround : (em.roundBit.toNat : ℚ) ≤ 1 := by
    exact_mod_cast Bool.toNat_le em.roundBit
  linarith

/-- Shifting by one bit halves the number. -/
theorem shiftRightOne (h : Cuts em y) : Cuts em.shiftRightOne (y / 2) := by
  have hdiv : ((2 * (em.mantissa / 2) + em.mantissa % 2 : Nat) : ℚ) =
      em.mantissa := by rw [Nat.div_add_mod]
  have hbit : (em.mantissa % 2 != 0).toNat = em.mantissa % 2 := by
    rcases Nat.mod_two_eq_zero_or_one em.mantissa with hm | hm <;> rw [hm] <;> rfl
  push_cast at hdiv
  refine ⟨?_, ?_, ?_⟩ <;> dsimp only [ExtendedMantissa.shiftRightOne] <;> rw [hbit]
  · linarith [h.mantissa_le]
  · linarith [h.lt_mantissa_add_one]
  · -- Nothing follows the last bit exactly when both further bits are unset.
    have hboth : (em.roundBit || em.stickyBit) = false ↔ y = em.mantissa := by
      have hlow := h.low
      have hsticky := h.sticky
      cases hround : em.roundBit
      · rw [hround] at hsticky
        simpa using hsticky
      · rw [hround] at hlow
        simp only [Bool.true_or, Bool.toNat_true, Nat.cast_one, reduceCtorEq,
          false_iff] at hlow ⊢
        intro heq
        linarith
    rw [hboth]
    constructor <;> intro heq <;> linarith

theorem shiftRight (h : Cuts em y) (k : Nat) : Cuts (em >>> k) (y / 2 ^ k) := by
  induction k with
  | zero =>
    rw [pow_zero, div_one]
    exact h
  | succ k ih =>
    rw [pow_succ, ← div_div]
    exact ih.shiftRightOne

/-- The rounded mantissa is nearest to the number. -/
theorem near (h : Cuts em y) : |y - em.roundedMantissa| ≤ 1 / 2 := by
  obtain ⟨hlow, hhigh, hsticky⟩ := h
  rcases em with ⟨m, r, s⟩
  rw [abs_le]
  cases r <;> cases s <;>
    simp only [ExtendedMantissa.roundedMantissa, ExtendedMantissa.accuracy,
      Accuracy.roundToNearestEven, Bool.toNat_false, Bool.toNat_true,
      Nat.cast_zero, Nat.cast_one, Nat.cast_add] at hlow hhigh hsticky ⊢
  case true.false =>
    have hbit : ((m % 2 : Nat) : ℚ) ≤ 1 := by exact_mod_cast (by omega : m % 2 ≤ 1)
    have hnonneg : (0 : ℚ) ≤ (m % 2 : Nat) := by positivity
    have heq := hsticky.mp trivial
    constructor <;> linarith
  all_goals constructor <;> linarith

end Cuts

/-- A remainder gives the bits that follow a quotient. -/
theorem cuts_div (a : Nat) {b : Nat} (hb : 0 < b) :
    Cuts (ExtendedMantissa.ofMantissaAndAccuracy (a / b)
    (accuracyOfFraction (a % b) b)) ((a : ℚ) / b) := by
  have hbq : (0 : ℚ) < b := by exact_mod_cast hb
  have hlt : ((a % b : Nat) : ℚ) / b < 1 := by
    rw [div_lt_one hbq]
    exact_mod_cast Nat.mod_lt a hb
  have hhalf : (2 * (a % b : Nat) : ℚ) / b = 2 * ((a % b : Nat) / b) := by ring
  rw [fraction_eq a hb]
  unfold accuracyOfFraction
  by_cases hzero : a % b = 0
  · rw [if_pos hzero, hzero]
    refine ⟨?_, ?_, ?_⟩ <;> simp [ExtendedMantissa.ofMantissaAndAccuracy]
  have hpos : (0 : ℚ) < (a % b : Nat) / (b : ℚ) := by
    have : (0 : ℚ) < (a % b : Nat) := by exact_mod_cast Nat.pos_of_ne_zero hzero
    positivity
  rw [if_neg hzero]
  rcases Nat.lt_trichotomy (2 * (a % b)) b with hless | htie | hmore
  · have hless' : (2 * (a % b : Nat) : ℚ) / b < 1 := by
      rw [div_lt_one hbq]
      exact_mod_cast hless
    rw [Nat.compare_eq_lt.mpr hless]
    refine ⟨?_, ?_, ?_⟩ <;>
      simp only [ExtendedMantissa.ofMantissaAndAccuracy, Bool.toNat_false,
        Nat.cast_zero, zero_div, add_zero, Bool.true_eq_false, false_iff]
    · linarith
    · linarith
    · linarith
  · have htie' : (2 * (a % b : Nat) : ℚ) / b = 1 := by
      rw [div_eq_one_iff_eq hbq.ne']
      exact_mod_cast htie
    rw [Nat.compare_eq_eq.mpr htie]
    refine ⟨?_, ?_, ?_⟩ <;>
      simp only [ExtendedMantissa.ofMantissaAndAccuracy, Bool.toNat_true,
        Nat.cast_one, true_iff]
    · linarith
    · linarith
    · linarith
  · have hmore' : 1 < (2 * (a % b : Nat) : ℚ) / b := by
      rw [one_lt_div hbq]
      exact_mod_cast hmore
    rw [Nat.compare_eq_gt.mpr hmore]
    refine ⟨?_, ?_, ?_⟩ <;>
      simp only [ExtendedMantissa.ofMantissaAndAccuracy, Bool.toNat_true,
        Nat.cast_one, Bool.true_eq_false, false_iff]
    · linarith
    · linarith
    · intro h
      linarith

/-- The exponent to which a mantissa of at least 53 bits is shifted. -/
theorem shiftToTargetExponent_eq {m : Nat} {e : ℤ} (acc : Accuracy) (k : Nat)
    (hm : m.log2 = 52 + k) (he : -1074 ≤ e + k) :
    shiftToTargetExponent Float.Model.Format.binary64 m e acc =
      (ExtendedMantissa.ofMantissaAndAccuracy m acc >>> k, e + k) := by
  have htarget : Float.Model.Format.binary64.targetExponent
      (Float.Model.totalExponent m e) = e + k := by
    change max ((m.log2 : ℤ) + 1 + e - (1 + 52 : Nat)) (3 - 2 ^ 10 -
        (1 + 52 : Nat)) = _
    omega
  have hshift : (e + k - e).toNat = k := by omega
  unfold shiftToTargetExponent shiftToExponent
  dsimp only
  rw [htarget, hshift]

/-- The second shift takes out a carry, and changes nothing without one. -/
theorem shiftToTargetExponent_carried {m n c : Nat} {e : ℤ} (hlow : 2 ^ 52 ≤ m)
    (hhigh : m < 2 * 2 ^ 52) (hc : c ≤ 1) (hsum : n = m + c * 2 ^ 52)
    (hcarry : c = 1 → n = 2 * 2 ^ 52) (he : -1074 ≤ e) :
    shiftToTargetExponent Float.Model.Format.binary64 n e .exact =
      (⟨m, false, false⟩, e + c) := by
  obtain rfl | rfl : c = 0 ∨ c = 1 := by omega
  · obtain rfl : n = m := by omega
    rw [shiftToTargetExponent_eq .exact 0
      ((Nat.log2_eq_iff (by omega)).mpr ⟨hlow, by omega⟩) (by omega)]
    rfl
  · obtain rfl : m = 2 ^ 52 := by omega
    obtain rfl : n = 2 ^ 53 := by omega
    rw [shiftToTargetExponent_eq .exact 1 Nat.log2_two_pow (by omega)]
    rfl

/-- A number cut off after at least 53 bits is rounded to a normal float, at
most half a last bit away. -/
theorem exists_normal_round {mant : Nat} {e : ℤ} {acc : Accuracy} {x : ℚ}
    (hcuts : Cuts (ExtendedMantissa.ofMantissaAndAccuracy mant acc) (x / 2 ^ e))
    (hmant : 2 ^ 52 ≤ mant)
    (hlow : (2 : ℚ) ^ (-1022 : ℤ) ≤ x) (hhigh : x < 2 ^ (1000 : ℤ)) :
    ∃ (m : Nat) (q : ℤ),
      Normal
        (.ofModel (.pack (roundWithAccuracy Float.Model.Format.binary64
          .positive mant e acc))) m q ∧
        |x - m * 2 ^ q| ≤ 2 ^ q / 2 := by
  have hpos : 0 < mant := by omega
  have hfields : (ExtendedMantissa.ofMantissaAndAccuracy mant acc).mantissa =
      mant := by
    rcases acc with _ | (_ | _ | _) <;> rfl
  obtain ⟨k, hk⟩ : ∃ k, mant.log2 = 52 + k :=
    Nat.exists_eq_add_of_le ((Nat.le_log2 hpos.ne').mpr hmant)
  have hscale : (0 : ℚ) < 2 ^ e := by positivity
  -- The number has as many bits as its mantissa.
  have hbinade : (2 ^ 52 : Nat) * (2 : ℚ) ^ (e + k) ≤ x ∧
      x < 2 * (2 ^ 52 : Nat) * 2 ^ (e + k) := by
    have hle := hcuts.mantissa_le
    have hlt := hcuts.lt_mantissa_add_one
    rw [hfields] at hle hlt
    have hfloor : ((2 ^ 52 * 2 ^ k : Nat) : ℚ) ≤ mant := by
      rw [← Nat.pow_add, ← hk]
      exact_mod_cast Nat.log2_self_le hpos.ne'
    have hceil : (mant : ℚ) + 1 ≤ (2 * 2 ^ 52 * 2 ^ k : Nat) := by
      rw [mul_assoc, ← Nat.pow_add, ← hk, Nat.mul_comm, ← Nat.pow_succ]
      exact_mod_cast Nat.lt_log2_self
    rw [le_div_iff₀ hscale] at hle
    rw [div_lt_iff₀ hscale] at hlt
    rw [zpow_add₀ two_ne_zero, zpow_natCast]
    push_cast at hfloor hceil ⊢
    constructor <;> nlinarith
  have hexp : -1074 ≤ e + k := by
    have hlt := hlow.trans_lt hbinade.2
    rw [show (2 * (2 ^ 52 : Nat) : ℚ) = 2 ^ (53 : ℤ) by norm_num,
      ← zpow_add₀ two_ne_zero, zpow_lt_zpow_iff_right₀ one_lt_two] at hlt
    omega
  have hmost : e + k < 948 := by
    have hlt := hbinade.1.trans_lt hhigh
    rw [show ((2 ^ 52 : Nat) : ℚ) = 2 ^ (52 : ℤ) by norm_num,
      ← zpow_add₀ two_ne_zero, zpow_lt_zpow_iff_right₀ one_lt_two] at hlt
    omega
  have hcut := hcuts.shiftRight k
  rw [div_div, ← zpow_natCast, ← zpow_add₀ two_ne_zero] at hcut
  obtain ⟨m, c, hc, hum, hmu, hsum, hcarry, hdist⟩ :=
    Format.exists_carried hbinade.1 hbinade.2 (by positivity) hcut.near
  refine ⟨m, e + k + c, ?_, hdist⟩
  have hround : roundWithAccuracy Float.Model.Format.binary64 .positive mant e acc =
      .finite .positive m (e + k + c) (by omega) := by
    unfold roundWithAccuracy
    rw [shiftToTargetExponent_eq acc k hk hexp]
    dsimp only
    rw [shiftToTargetExponent_carried hum hmu hc hsum hcarry hexp,
      dif_neg (by dsimp only; omega)]
  rw [hround]
  exact Normal.of_finite hum (by omega) (by omega) (by omega) (by omega)

/-! ## Operations -/

namespace Normal

variable {x y : Float} {m n : Nat} {e d : ℤ}

/-- The product of two floats is nearest to the product of their numbers. -/
theorem exists_mul (hx : Normal x m e) (hy : Normal y n d)
    (hlow : (2 : ℚ) ^ (-1022 : ℤ) ≤ m * 2 ^ e * (n * 2 ^ d))
    (hhigh : (m : ℚ) * 2 ^ e * (n * 2 ^ d) < 2 ^ (1000 : ℤ)) :
    ∃ (k : Nat) (q : ℤ), Normal (x * y) k q ∧
      |(m : ℚ) * 2 ^ e * (n * 2 ^ d) - k * 2 ^ q| ≤ 2 ^ q / 2 := by
  have hproduct : x * y =
      .ofModel (.pack (roundWithAccuracy Float.Model.Format.binary64 .positive
        (m * n) (e + d) .exact)) := by
    change Float.ofModel
      (.pack (mul Float.Model.Format.binary64 x.toModel.unpack
        y.toModel.unpack)) = _
    rw [hx.unpack_eq, hy.unpack_eq]
    rfl
  have hexact : (m : ℚ) * 2 ^ e * (n * 2 ^ d) / 2 ^ (e + d) = (m * n : Nat) := by
    rw [zpow_add₀ two_ne_zero]
    push_cast
    field_simp
  rw [hproduct]
  apply exists_normal_round _ _ hlow hhigh
  · rw [hexact]
    refine ⟨?_, ?_, ?_⟩ <;> simp [ExtendedMantissa.ofMantissaAndAccuracy]
  · calc 2 ^ 52 ≤ m := hx.low
      _ ≤ m * n := Nat.le_mul_of_pos_right m hy.pos

/-- The quotient of two floats is nearest to the quotient of their numbers. -/
theorem exists_div (hx : Normal x m e) (hy : Normal y n d)
    (hlow : (2 : ℚ) ^ (-1020 : ℤ) ≤ m * 2 ^ e / (n * 2 ^ d))
    (hhigh : (m : ℚ) * 2 ^ e / (n * 2 ^ d) < 2 ^ (1000 : ℤ)) :
    ∃ (k : Nat) (q : ℤ), Normal (x / y) k q ∧
      |(m : ℚ) * 2 ^ e / (n * 2 ^ d) - k * 2 ^ q| ≤ 2 ^ q / 2 := by
  have hm₁ := hx.low
  have hm₂ := hx.high
  have hn₁ := hy.low
  have hn₂ := hy.high
  have hnq : (0 : ℚ) < n := by exact_mod_cast hy.pos
  -- The quotient of the significands lies between a half and two.
  have hexp : -1021 < e - d := by
    have hratio : (m : ℚ) * 2 ^ e / (n * 2 ^ d) < 2 ^ (e - d + 1) := by
      rw [zpow_add_one₀ two_ne_zero, zpow_sub₀ two_ne_zero,
        div_lt_iff₀ (by positivity)]
      field_simp
      exact_mod_cast (by omega : m < 2 * n)
    have hlt := hlow.trans_lt hratio
    rw [zpow_lt_zpow_iff_right₀ one_lt_two] at hlt
    omega
  have hcore : divCore Float.Model.Format.binary64 m e n d =
      ((m * 2 ^ 53) / n, e - d - 53, accuracyOfFraction ((m * 2 ^ 53) % n) n) := by
    have hmlog : m.log2 = 52 := (Nat.log2_eq_iff hx.pos.ne').mpr ⟨hm₁, hm₂⟩
    have hnlog : n.log2 = 52 := (Nat.log2_eq_iff hy.pos.ne').mpr ⟨hn₁, hn₂⟩
    have htarget : min (e - d) (Float.Model.Format.binary64.targetExponent
        (Float.Model.totalExponent m e - Float.Model.totalExponent n d)) =
          e - d - 53 := by
      change min _ (max ((m.log2 : ℤ) + 1 + e - ((n.log2 : ℤ) + 1 + d) -
          (1 + 52 : Nat))
        (3 - 2 ^ 10 - (1 + 52 : Nat))) = _
      omega
    have hshift : (e - d - (e - d - 53)).toNat = 53 := by omega
    unfold divCore
    rw [htarget]
    dsimp only
    rw [hshift, Nat.shiftLeft_eq]
  have hquotient : x / y =
      .ofModel (.pack (roundWithAccuracy Float.Model.Format.binary64 .positive
      ((m * 2 ^ 53) / n) (e - d - 53)
      (accuracyOfFraction ((m * 2 ^ 53) % n) n))) := by
    change Float.ofModel
      (.pack (div Float.Model.Format.binary64 x.toModel.unpack
        y.toModel.unpack)) = _
    rw [hx.unpack_eq, hy.unpack_eq]
    unfold div
    dsimp only
    rw [hcore]
    rfl
  have hexact : (m : ℚ) * 2 ^ e / (n * 2 ^ d) / 2 ^ (e - d - 53) =
      ((m * 2 ^ 53 : Nat) : ℚ) / n := by
    rw [zpow_sub₀ two_ne_zero, zpow_sub₀ two_ne_zero]
    push_cast
    field_simp
  rw [hquotient]
  apply exists_normal_round _ _ _ hhigh
  · rw [hexact]
    exact cuts_div _ hy.pos
  · rw [Nat.le_div_iff_mul_le hy.pos]
    omega
  · exact (zpow_le_zpow_right₀ one_le_two (by omega)).trans hlow

/-- The float of a natural number is nearest to it. -/
theorem exists_floatOfNat (hn : 0 < n) (hhigh : n < 2 ^ 200) :
    ∃ (m : Nat) (e : ℤ), Normal (floatOfNat n) m e ∧
      |(n : ℚ) - m * 2 ^ e| ≤ 2 ^ e / 2 := by
  have hunit : binary64.unit = 2 ^ 52 := rfl
  have hone : (1 : ℚ) ≤ n := by exact_mod_cast hn
  have hlow : (binary64.unit : ℚ) * 2 ^ (-(binary64.least : ℤ)) ≤
      (n : ℚ) / (1 : Nat) := by
    have hsmall : (binary64.unit : ℚ) * 2 ^ (-(binary64.least : ℤ)) ≤ 1 := by
      rw [Format.unit_eq_zpow, ← zpow_add₀ two_ne_zero]
      exact zpow_le_one_of_nonpos₀ one_le_two (by decide)
    simpa using hsmall.trans hone
  obtain ⟨m, q, hum, hmu, hleast, hdist, hround⟩ :=
    binary64.round_normal hn one_pos hlow
  rw [hunit] at hum hmu hround
  change -((1074 : Nat) : ℤ) ≤ q at hleast
  change _ = min ((q + (1074 : Nat)).toNat * 2 ^ 52 + m)
      0x7FF0000000000000 at hround
  rw [Nat.cast_one, div_one] at hdist
  have hmost : q < 200 := by
    have hpos : (0 : ℚ) < 2 ^ q := by positivity
    have hone : (1 : ℚ) + 1 / 2 ≤ m := by
      have : (2 : ℚ) ≤ m := by exact_mod_cast (by omega : 2 ≤ m)
      linarith
    have hle : (2 : ℚ) ^ q ≤ n := by
      have := (abs_le.mp hdist).1
      nlinarith
    have hlt : (n : ℚ) < 2 ^ (200 : ℤ) := by exact_mod_cast hhigh
    exact (zpow_lt_zpow_iff_right₀ one_lt_two).mp (hle.trans_lt hlt)
  refine ⟨m, q, ⟨hum, by omega, by omega, by omega, ?_⟩, hdist⟩
  have hbits : binary64.round n 1 = (q + 1074).toNat * 2 ^ 52 + m := by omega
  have hword : ((0 : UInt64) + (binary64.round n 1).toUInt64).toNat =
      binary64.round n 1 := by
    rw [UInt64.zero_add]
    exact UInt64.toNat_ofNat_of_lt' (by rw [hbits]; change _ < 2 ^ 64; omega)
  change (Float.ofBits (0 + (binary64.round n 1).toUInt64)).toBits.toNat = _
  rw [float_toBits_ofBits _ (by rw [hword, hbits]; omega), hword, hbits]

/-- The number of a normal float as a fraction. -/
theorem exists_fraction (h : Normal x m e) : ∃ a b :
    Nat, 0 < a ∧ 0 < b ∧ (a : ℚ) / b = m * 2 ^ e ∧
    ∀ y : Float, y.toBits.toNat % 0x8000000000000000 = x.toBits.toNat →
      narrow y = float32OfRatio (0x8000000000000000 ≤ y.toBits.toNat) a b := by
  have hm := h.pos
  have hlow := h.low
  have hhigh := h.high
  have hleast := h.least
  have hmost := h.most
  have hbits := h.bits
  have hparts : binary64.parts x.toBits.toNat = (m, e) := by
    have hdiv : x.toBits.toNat / 2 ^ 52 = (e + 1075).toNat := by omega
    have hmod : 2 ^ 52 + x.toBits.toNat % 2 ^ 52 = m := by omega
    change (if x.toBits.toNat / 2 ^ 52 = 0 then _ else
      (2 ^ 52 + x.toBits.toNat % 2 ^ 52, ((x.toBits.toNat / 2 ^ 52 : Nat) : ℤ) -
        1 - (1074 : Nat))) = _
    rw [hdiv, hmod, if_neg (by omega)]
    congr 1
    omega
  have hinfinity : binary64.infinity = 0x7FF0000000000000 := rfl
  cases e with
  | ofNat q =>
    refine ⟨m * 2 ^ q, 1, by positivity, one_pos, ?_, ?_⟩
    · push_cast
      rw [div_one, Int.ofNat_eq_natCast, zpow_natCast]
    · intro y hy
      unfold narrow
      dsimp only
      rw [hy, if_neg (by omega), if_neg (by omega), hparts]
      rfl
  | negSucc q =>
    refine ⟨m, 2 ^ (q + 1), hm, by positivity, ?_, ?_⟩
    · push_cast
      rw [zpow_negSucc, div_eq_mul_inv]
    · intro y hy
      unfold narrow
      dsimp only
      rw [hy, if_neg (by omega), if_neg (by omega), hparts]
      rfl

end Normal

/-- A finite 32-bit float from its sign and the bits of its magnitude. -/
theorem float32_ofBits_signed {x : Float32}
    (hfinite : x.toBits.toNat % 0x80000000 < binary32.infinity) :
    Float32.ofBits ((if decide (0x80000000 ≤ x.toBits.toNat) then 0x80000000
      else 0) +
      (x.toBits.toNat % 0x80000000).toUInt32) = x := by
  have hword : x.toBits.toNat < 2 ^ 32 := x.toBits.toNat_lt
  have hmagnitude : (x.toBits.toNat % 0x80000000).toUInt32.toNat =
      x.toBits.toNat % 0x80000000 :=
    UInt32.toNat_ofNat_of_lt' (by change _ < 2 ^ 32; omega)
  have hbits : (if decide (0x80000000 ≤ x.toBits.toNat) then 0x80000000 else 0) +
      (x.toBits.toNat % 0x80000000).toUInt32 = x.toBits := by
    apply UInt32.toNat_inj.mp
    rw [UInt32.toNat_add, hmagnitude]
    by_cases hnegative : 0x80000000 ≤ x.toBits.toNat
    · rw [if_pos (decide_eq_true hnegative)]
      change (2147483648 + _) % 2 ^ 32 = _
      omega
    · rw [if_neg (by simpa using hnegative)]
      change (0 + _) % 2 ^ 32 = _
      omega
  rw [hbits]
  exact float32_ofBits_toBits x hfinite

/-- A 64-bit float whose number rounds to the magnitude of a 32-bit one is
narrowed to that one, with either sign. -/
theorem narrow_eq_of_encloses {x : Float32} {y : Float} {m : Nat} {e : ℤ}
    (hy : Normal y m e) (hpos : 0 < x.toBits.toNat % 0x80000000)
    (hfinite : x.toBits.toNat % 0x80000000 < binary32.infinity)
    (hin : binary32.Encloses (x.toBits.toNat % 0x80000000) (m * 2 ^ e)) :
    narrow (if 0x80000000 ≤ x.toBits.toNat then -y else y) = x := by
  obtain ⟨a, b, ha, hb, hab, hnarrow⟩ := hy.exists_fraction
  have hround : binary32.round a b = x.toBits.toNat % 0x80000000 := by
    apply binary32.round_of_encloses hpos hfinite ha hb
    rwa [hab]
  have hsigned : ∀ z : Float, z.toBits.toNat % 0x8000000000000000 = y.toBits.toNat →
      (0x8000000000000000 ≤ z.toBits.toNat ↔ 0x80000000 ≤ x.toBits.toNat) →
      narrow z = x := by
    intro z hmagnitude hsign
    rw [hnarrow z hmagnitude, float32OfRatio, hround, decide_eq_decide.mpr hsign]
    exact float32_ofBits_signed hfinite
  have hybits : y.toBits.toNat < 0x7FF0000000000000 := by
    have hbits := hy.bits
    have hhigh := hy.high
    have hmost := hy.most
    omega
  by_cases hnegative : 0x80000000 ≤ x.toBits.toNat
  · have hneg := hy.neg_toBits
    rw [if_pos hnegative]
    exact hsigned (-y) (by omega) (by omega)
  · rw [if_neg hnegative]
    exact hsigned y (by omega) (by omega)

end Prospectus.Number
