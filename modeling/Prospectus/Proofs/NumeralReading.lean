import Prospectus.Proofs.DecimalSeparation
import Prospectus.Proofs.FloatArithmetic

/-!
# Decimals of floats read back

A numeral is read by scaling its significand with a power of ten in 64-bit
floats, which makes two errors of half a last bit, and then narrowing the
result.  The shortest decimal of a 32-bit float lies in the interval of that
float; it stays there after such errors unless it is close to an end of the
interval.  The ends are binary fractions with short significands, and decimals
that are close to them are equal to them, with an exponent for which there are
no errors.  The four floats that this leaves are read in the kernel
(`exceptional`).
-/

namespace Prospectus.Number

/-! ## Errors of single operations -/

namespace Normal

variable {x y : Float} {m n : Nat} {e d : ℤ}

/-- Half a last bit is a small part of a normal number. -/
theorem relative (h : Normal x m e) {r : ℚ} (hr : |r - m * 2 ^ e| ≤ 2 ^ e / 2) :
    |r - m * 2 ^ e| ≤ 1 / 2 ^ 53 * (m * 2 ^ e) := by
  have hm : (2 ^ 52 : ℚ) ≤ m := by exact_mod_cast h.low
  have hpos : (0 : ℚ) < 2 ^ e := by positivity
  calc |r - m * 2 ^ e| ≤ 2 ^ e / 2 := hr
    _ = 1 / 2 ^ 53 * (2 ^ 52 * 2 ^ e) := by ring
    _ ≤ 1 / 2 ^ 53 * (m * 2 ^ e) := by gcongr

/-- A binary fraction with at most 52 bits is rounded to itself. -/
theorem exact (h : Normal x m e) {n : Nat} {k : ℤ} (hn : n ≤ 2 ^ 52)
    (hnear : |(n : ℚ) * 2 ^ k - m * 2 ^ e| ≤ 2 ^ e / 2) :
    (n : ℚ) * 2 ^ k = m * 2 ^ e := by
  have hm := h.low
  have hpos : (0 : ℚ) < 2 ^ e := by positivity
  rcases le_or_gt e k with hle | hlt
  · obtain ⟨j, rfl⟩ : ∃ j : Nat, k = j + e := ⟨(k - e).toNat, by omega⟩
    have hscale : (n : ℚ) * 2 ^ (j + e : ℤ) = (n * 2 ^ j : Nat) * 2 ^ e := by
      rw [zpow_add₀ two_ne_zero, zpow_natCast]
      push_cast
      ring
    rw [hscale] at hnear ⊢
    rw [← sub_mul, abs_mul, abs_of_pos hpos] at hnear
    have hclose : |((n * 2 ^ j : Nat) : ℚ) - m| ≤ 1 / 2 := by nlinarith
    obtain ⟨hlow, hhigh⟩ := abs_le.mp hclose
    have hless : ((n * 2 ^ j : Nat) : ℚ) < m + 1 := by linarith
    have hmore : (m : ℚ) < (n * 2 ^ j : Nat) + 1 := by linarith
    have hless' : n * 2 ^ j < m + 1 := by exact_mod_cast hless
    have hmore' : m < n * 2 ^ j + 1 := by exact_mod_cast hmore
    rw [show n * 2 ^ j = m by omega]
  · -- The number is too small to be rounded to a multiple of this last bit.
    have hk : (2 : ℚ) ^ k ≤ 2 ^ e / 2 := by
      rw [div_eq_mul_inv, ← zpow_sub_one₀ two_ne_zero]
      exact zpow_le_zpow_right₀ one_le_two (by omega)
    have hnq : (n : ℚ) ≤ 2 ^ 52 := by exact_mod_cast hn
    have hmq : (2 ^ 52 : ℚ) ≤ m := by exact_mod_cast hm
    have := (abs_le.mp hnear).1
    have : (0 : ℚ) < 2 ^ k := by positivity
    nlinarith

end Normal

/-- A natural number of at most 52 bits is a float. -/
theorem exists_floatOfNat_exact {n : Nat} (hn : 0 < n) (hn' : n ≤ 2 ^ 52) :
    ∃ (m : Nat) (e : ℤ), Normal (floatOfNat n) m e ∧ (m : ℚ) * 2 ^ e = n := by
  obtain ⟨m, e, hnormal, hnear⟩ := Normal.exists_floatOfNat hn (by omega)
  refine ⟨m, e, hnormal, ?_⟩
  have hexact := hnormal.exact (k := 0) hn' (by rwa [zpow_zero, mul_one])
  rw [← hexact, zpow_zero, mul_one]

/-- A power of ten as a float. -/
theorem exists_tenTo {k : Nat} (hk : k ≤ 60) :
    ∃ (m : Nat) (e : ℤ), Normal (Numeral.tenTo k) m e ∧
      |(10 : ℚ) ^ k - m * 2 ^ e| ≤ 1 / 2 ^ 53 * (m * 2 ^ e) ∧
      (k ≤ 10 → (m : ℚ) * 2 ^ e = 10 ^ k) := by
  have hlt : Nat.pow 10 k < 2 ^ 200 := by
    calc Nat.pow 10 k ≤ Nat.pow 10 60 := Nat.pow_le_pow_right (by decide) hk
      _ < 2 ^ 200 := by decide +kernel
  obtain ⟨m, e, hnormal, hnear⟩ :=
    Normal.exists_floatOfNat (Nat.pow_pos (by decide)) hlt
  push_cast at hnear
  refine ⟨m, e, hnormal, hnormal.relative hnear, ?_⟩
  intro hsmall
  have hle : 10 ^ k ≤ 2 ^ 52 := by
    calc 10 ^ k ≤ 10 ^ 10 := Nat.pow_le_pow_right (by decide) hsmall
      _ ≤ 2 ^ 52 := by decide
  have hexact :=
    hnormal.exact (n := 10 ^ k) (k := 0) hle (by push_cast; rwa [mul_one])
  rw [← hexact, zpow_zero, mul_one]
  push_cast
  rfl

/-! ## Scaling by a power of ten -/

/-- Two roundings of a product. -/
theorem abs_sub_le_of_mul {a t y z : ℚ} (ha : 0 < a) (ht : 0 < t)
    (hy : |t - y| ≤ 1 / 2 ^ 53 * y) (hz : |a * y - z| ≤ 1 / 2 ^ 53 * z) :
    |z - a * t| ≤ Format.readingError * (a * t) := by
  obtain ⟨hy₁, hy₂⟩ := abs_le.mp hy
  obtain ⟨hz₁, hz₂⟩ := abs_le.mp hz
  -- Everything in units of the exact product.
  have hlow : a * t ≤ a * y * (1 + 1 / 2 ^ 53) := by nlinarith
  have hhigh : a * y * (1 - 1 / 2 ^ 53) ≤ a * t := by nlinarith
  have hpos : 0 < a * t := mul_pos ha ht
  rw [abs_le, Format.readingError]
  norm_num at hlow hhigh hz₁ hz₂ ⊢
  constructor <;> linarith

/-- Two roundings of a quotient. -/
theorem abs_sub_le_of_div {a t y z : ℚ} (ha : 0 < a) (ht : 0 < t) (hy₀ : 0 < y)
    (hy : |t - y| ≤ 1 / 2 ^ 53 * y) (hz : |a / y - z| ≤ 1 / 2 ^ 53 * z) :
    |z - a / t| ≤ Format.readingError * (a / t) := by
  obtain ⟨hy₁, hy₂⟩ := abs_le.mp hy
  obtain ⟨hz₁, hz₂⟩ := abs_le.mp hz
  have hlow : a / t * (1 - 1 / 2 ^ 53) ≤ a / y := by
    rw [div_mul_eq_mul_div, div_le_div_iff₀ ht hy₀]
    nlinarith
  have hhigh : a / y ≤ a / t * (1 + 1 / 2 ^ 53) := by
    rw [div_mul_eq_mul_div, div_le_div_iff₀ hy₀ ht]
    nlinarith
  have hpos : 0 < a / t := div_pos ha ht
  rw [abs_le, Format.readingError]
  norm_num at hlow hhigh hz₁ hz₂ ⊢
  constructor <;> linarith

/-- A power of ten and a float near to it are of the same size. -/
theorem tenTo_bounds {k : Nat} (hk : k ≤ 60) {y : ℚ}
    (hy : |(10 : ℚ) ^ k - y| ≤ 1 / 2 ^ 53 * y) :
    1 / 2 ≤ y ∧ y < 2 ^ (201 : ℤ) := by
  obtain ⟨hlow, hhigh⟩ := abs_le.mp hy
  have hone : (1 : ℚ) ≤ 10 ^ k := one_le_pow₀ (by norm_num)
  have hlarge : (10 : ℚ) ^ k ≤ 10 ^ 60 := pow_le_pow_right₀ (by norm_num) hk
  norm_num at hlow hhigh hlarge ⊢
  constructor <;> linarith

/-- A number between these bounds is in the range of the normal floats. -/
theorem in_range {x : ℚ} (hlow : (2 : ℚ) ^ (-210 : ℤ) ≤ x)
    (hhigh : x < 2 ^ (253 : ℤ)) :
    (2 : ℚ) ^ (-1020 : ℤ) ≤ x ∧ x < 2 ^ (1000 : ℤ) :=
  ⟨(zpow_le_zpow_right₀ one_le_two (by decide)).trans hlow,
    hhigh.trans_le (zpow_le_zpow_right₀ one_le_two (by decide))⟩

/-- **Scaling a natural number by a power of ten** has a small error, and none
if the exponent is small and the result is a short binary fraction. -/
theorem exists_scale {n : Nat} {e : ℤ} (hn : 0 < n) (hn' : n ≤ 2 ^ 52)
    (he : e.natAbs ≤ 60) :
    ∃ (y : Float) (m : Nat) (q : ℤ),
      Numeral.scale (floatOfNat n) 20 e = some y ∧ Normal y m q ∧
      |(m : ℚ) * 2 ^ q - n * 10 ^ e| ≤ Format.readingError * (n * 10 ^ e) ∧
      (e.natAbs ≤ 10 → ∀ (k : Nat) (j : ℤ), k ≤ 2 ^ 52 →
        (k : ℚ) * 2 ^ j = n * 10 ^ e →
        (m : ℚ) * 2 ^ q = n * 10 ^ e) := by
  obtain ⟨m₁, e₁, hfirst, hvalue⟩ := exists_floatOfNat_exact hn hn'
  obtain ⟨m₂, e₂, hsecond, hnear, hexact⟩ := exists_tenTo he
  obtain ⟨hten₁, hten₂⟩ := tenTo_bounds he hnear
  have hone : (1 : ℚ) ≤ n := by exact_mod_cast hn
  have hlarge : (n : ℚ) ≤ 2 ^ 52 := by exact_mod_cast hn'
  have hopen : Numeral.scale (floatOfNat n) 20 e =
      if 0 ≤ e then
        if (floatOfNat n * Numeral.tenTo e.natAbs).toBits = 0x7FF0000000000000
          then none
        else some (floatOfNat n * Numeral.tenTo e.natAbs)
      else some (floatOfNat n / Numeral.tenTo e.natAbs) := by
    rw [Numeral.scale, if_pos (by omega)]
  rw [hopen]
  by_cases hsign : 0 ≤ e
  · have hpower : (10 : ℚ) ^ e = 10 ^ e.natAbs := by
      rw [← zpow_natCast, Int.natAbs_of_nonneg hsign]
    have hrange : (2 : ℚ) ^ (-1020 : ℤ) ≤ m₁ * 2 ^ e₁ * (m₂ * 2 ^ e₂) ∧
        (m₁ : ℚ) * 2 ^ e₁ * (m₂ * 2 ^ e₂) < 2 ^ (1000 : ℤ) := by
      rw [hvalue]
      apply in_range
      · norm_num at hten₁ ⊢
        nlinarith
      · norm_num at hten₂ ⊢
        nlinarith
    obtain ⟨m, q, hproduct, hround⟩ := hfirst.exists_mul hsecond
      ((zpow_le_zpow_right₀ one_le_two (by decide)).trans hrange.1) hrange.2
    rw [hvalue] at hround
    refine ⟨_, m, q, ?_, hproduct, ?_, ?_⟩
    · rw [if_pos hsign, if_neg]
      intro hinfinite
      have hbits := hproduct.bits
      rw [hinfinite] at hbits
      have := hproduct.most
      have := hproduct.high
      change 0x7FF0000000000000 = _ at hbits
      omega
    · rw [hpower]
      exact abs_sub_le_of_mul (by linarith) (by positivity) hnear
        (hproduct.relative hround)
    · intro hsmall k j hk heq
      rw [hpower] at heq ⊢
      rw [hexact hsmall, ← heq] at hround
      rw [← heq]
      exact (hproduct.exact hk hround).symm
  · have hpower : (n : ℚ) * 10 ^ e = n / 10 ^ e.natAbs := by
      obtain ⟨l, rfl⟩ : ∃ l : Nat, e = -l := ⟨e.natAbs, by omega⟩
      rw [zpow_neg, zpow_natCast, Int.natAbs_neg, Int.natAbs_natCast,
        div_eq_mul_inv]
    have hrange : (2 : ℚ) ^ (-1020 : ℤ) ≤ m₁ * 2 ^ e₁ / (m₂ * 2 ^ e₂) ∧
        (m₁ : ℚ) * 2 ^ e₁ / (m₂ * 2 ^ e₂) < 2 ^ (1000 : ℤ) := by
      rw [hvalue]
      apply in_range
      · rw [le_div_iff₀ (by linarith)]
        norm_num at hten₂ ⊢
        linarith
      · rw [div_lt_iff₀ (by linarith)]
        norm_num
        linarith
    obtain ⟨m, q, hquotient, hround⟩ := hfirst.exists_div hsecond hrange.1 hrange.2
    rw [hvalue] at hround
    refine ⟨_, m, q, if_neg hsign, hquotient, ?_, ?_⟩
    · rw [hpower]
      exact abs_sub_le_of_div (by linarith) (by positivity) (by linarith) hnear
        (hquotient.relative hround)
    · intro hsmall k j hk heq
      rw [hpower] at heq ⊢
      rw [hexact hsmall, ← heq] at hround
      rw [← heq]
      exact (hquotient.exact hk hround).symm

/-! ## Shortest decimals read back -/

/-- The floats with an end of their interval so near to a short decimal that the
error bound does not tell them apart. -/
def exceptional : List Nat := [0x15AE43FD, 0x15AE43FE, 0x162E43FD, 0x162E43FE]

theorem narrow_scale_exceptional : ∀ bits ∈ exceptional, ∀ negative : Bool,
    (Numeral.scale (floatOfNat (binary32.shortest bits).digits) 20
      (binary32.shortest bits).exponent).map
        (fun y => narrow (if negative then -y else y)) =
      some (Float32.ofBits ((if negative then 0x80000000
        else 0) + bits.toUInt32)) := by
  decide +kernel

namespace Format

variable {bits : Nat}

/-- The upper end of an interval is a short binary fraction. -/
theorem exists_highEnd (hbits : 0 < bits) :
    ∃ (m : Nat) (k : ℤ), m < 2 ^ 25 ∧ binary32.highEnd bits = m * 2 ^ k ∧
      (m = 22841339 → k = -107 ∨ k = -108 → bits ∈ exceptional) := by
  obtain ⟨hsum, -, hmax, hleast, -⟩ := binary32.parts_spec hbits
  rw [highEnd_eq hbits, value_eq, lastBit]
  generalize (binary32.parts bits).1 = m at *
  generalize (binary32.parts bits).2 = q at *
  change m < 2 * 2 ^ 23 at hmax
  change bits = (q + (149 : Nat)).toNat * 2 ^ 23 + m at hsum
  refine ⟨2 * m + 1, q - 1, by omega, ?_, ?_⟩
  · rw [zpow_sub_one₀ two_ne_zero]
    push_cast
    ring
  · intro hm hk
    simp only [exceptional, List.mem_cons, List.not_mem_nil, or_false]
    omega

/-- So is the lower one. -/
theorem exists_lowEnd (hbits : 0 < bits) :
    ∃ (m : Nat) (k : ℤ), m < 2 ^ 25 ∧ binary32.lowEnd bits = m * 2 ^ k ∧
    (m = 22841339 → k = -107 ∨ k = -108 → bits ∈ exceptional) := by
  obtain ⟨hsum, hpos, hmax, hleast, -⟩ := binary32.parts_spec hbits
  have hcases := below_cases hbits
  rw [lowEnd_eq hbits, value_eq, lastBit]
  generalize (binary32.parts bits).1 = m at *
  generalize (binary32.parts bits).2 = q at *
  change m < 2 * 2 ^ 23 at hmax
  change bits = (q + (149 : Nat)).toNat * 2 ^ 23 + m at hsum
  rcases hcases with ⟨hbelow, -⟩ | ⟨hbelow, hm⟩
  · refine ⟨2 * m - 1, q - 1, by omega, ?_, ?_⟩
    · rw [hbelow, zpow_sub_one₀ two_ne_zero]
      push_cast [Nat.cast_sub (by omega : 1 ≤ 2 * m)]
      ring
    · intro hm hk
      simp only [exceptional, List.mem_cons, List.not_mem_nil, or_false]
      omega
  · refine ⟨2 ^ 25 - 1, q - 2, by omega, ?_, by omega⟩
    rw [hbelow, hm, zpow_sub₀ two_ne_zero]
    push_cast
    norm_num
    ring

/-- Finite floats are neither very small nor very large. -/
theorem interval_bounds (hbits : 0 < bits) (hfinite : bits < binary32.infinity) :
    (2 : ℚ) ^ (-150 : ℤ) ≤ binary32.lowEnd bits ∧
    binary32.highEnd bits ≤ 2 ^ (128 : ℤ) := by
  have hlast := le_lastBit hbits
  have hvalue := binary32.lastBit_le_value hbits
  have hbelow := binary32.below_le bits
  have hupos := binary32.lastBit_pos bits
  constructor
  · rw [lowEnd_eq hbits]
    norm_num at hlast ⊢
    nlinarith
  · obtain ⟨hsum, -, hmax, -, hnormal⟩ := binary32.parts_spec hbits
    change bits < 0x7F800000 at hfinite
    change _ < 2 * 2 ^ 23 at hmax
    change bits = ((binary32.parts bits).2 + (149 : Nat)).toNat * 2 ^ 23 +
        (binary32.parts bits).1 at hsum
    change 2 ^ 23 ≤ _ ∨ _ = -((149 : Nat) : ℤ) at hnormal
    have hq : binary32.lastBit bits ≤ 2 ^ (104 : ℤ) :=
      zpow_le_zpow_right₀ one_le_two (by omega)
    have hm : ((binary32.parts bits).1 : ℚ) + 1 ≤ 2 ^ 24 := by
      exact_mod_cast (by omega)
    rw [highEnd_eq hbits, value_eq]
    norm_num at hq ⊢
    nlinarith

/-- The exponent of the shortest decimal of a finite float. -/
theorem exponent_shortest (hbits : 0 < bits) (hfinite : bits < binary32.infinity) :
    -56 ≤ (binary32.shortest bits).exponent ∧
    (binary32.shortest bits).exponent ≤ 39 := by
  obtain ⟨hlow, hhigh⟩ := interval_bounds hbits hfinite
  obtain ⟨hpos, hfew, hin, -⟩ := shortest_spec hbits
  have hlow' := hlow.trans hin.lowEnd_le
  have hhigh' := hin.le_highEnd.trans hhigh
  rw [Decimal.value] at hlow' hhigh'
  have hone : (1 : ℚ) ≤ (binary32.shortest bits).digits := by exact_mod_cast hpos
  have hfewq : ((binary32.shortest bits).digits : ℚ) < 2 ^ 29 := by
    exact_mod_cast hfew
  have hgrid : (0 : ℚ) < 10 ^ (binary32.shortest bits).exponent := by positivity
  constructor
  · by_contra hlt
    have hsmall : (10 : ℚ) ^ (binary32.shortest bits).exponent ≤ 10 ^ (-57 : ℤ) :=
      zpow_le_zpow_right₀ (by norm_num) (by omega)
    norm_num at hsmall hlow'
    nlinarith
  · by_contra hlt
    have hlarge : (10 : ℚ) ^ (40 : ℤ) ≤ 10 ^ (binary32.shortest bits).exponent :=
      zpow_le_zpow_right₀ (by norm_num) (by omega)
    norm_num at hlarge hhigh'
    nlinarith

/-- A short decimal in the interval of an ordinary float that a reading error
may lead out of it is an end of the interval, with a small exponent. -/
theorem exists_end_of_not_tolerates (hbits : 0 < bits)
    (hfinite : bits < binary32.infinity) (hordinary : bits ∉ exceptional)
    (hshort : (binary32.shortest bits).digits ≤ 2 ^ 24)
    (hclose : ¬binary32.Tolerates bits (binary32.shortest bits).value) :
    (binary32.shortest bits).exponent.natAbs ≤ 10 ∧
      ∃ (m : Nat) (k : ℤ), m < 2 ^ 25 ∧
        (m : ℚ) * 2 ^ k = (binary32.shortest bits).value := by
  obtain ⟨hpos, -, hin, -⟩ := shortest_spec hbits
  obtain ⟨hmin, hmax⟩ := exponent_shortest hbits hfinite
  -- One end is as near as the error.
  have hend : ∃ (m : Nat) (k : ℤ), m < 2 ^ 25 ∧
      |(m : ℚ) * 2 ^ k - (binary32.shortest bits).value| ≤
        readingError * (binary32.shortest bits).value ∧
      (m = 22841339 → k = -107 ∨ k = -108 → bits ∈ exceptional) := by
    obtain ⟨m₁, k₁, hm₁, hlowEnd, hexcept₁⟩ := exists_lowEnd hbits
    obtain ⟨m₂, k₂, hm₂, hhighEnd, hexcept₂⟩ := exists_highEnd hbits
    have hlow := hin.lowEnd_le
    have hhigh := hin.le_highEnd
    rcases not_and_or.mp hclose with hnear | hnear
    · refine ⟨m₁, k₁, hm₁, ?_, hexcept₁⟩
      rw [← hlowEnd, abs_le]
      constructor <;> nlinarith
    · refine ⟨m₂, k₂, hm₂, ?_, hexcept₂⟩
      rw [← hhighEnd, abs_le]
      constructor <;> nlinarith
  obtain ⟨m, k, hm, hnear, hexcept⟩ := hend
  rcases eq_or_exceptional_of_near hpos hshort hm hmin hmax hnear with ⟨heq,
    hsmall⟩ | ⟨hm', hk⟩
  · exact ⟨hsmall, m, k, hm, heq⟩
  · exact absurd (hexcept hm' hk) hordinary

end Format

/-- **The shortest decimal of a float reads back as the float**, also with the
sign changed on both sides. -/
theorem exists_reading {x : Float32} (hpos : 0 < x.toBits.toNat % 0x80000000)
    (hfinite : x.toBits.toNat % 0x80000000 < binary32.infinity) :
    ∃ y,
      Numeral.scale
        (floatOfNat (binary32.shortest (x.toBits.toNat % 0x80000000)).digits) 20
        (binary32.shortest (x.toBits.toNat % 0x80000000)).exponent = some y ∧
      narrow (if 0x80000000 ≤ x.toBits.toNat then -y else y) = x := by
  by_cases hexcept : x.toBits.toNat % 0x80000000 ∈ exceptional
  · have hread :=
      narrow_scale_exceptional _ hexcept (decide (0x80000000 ≤ x.toBits.toNat))
    rw [float32_ofBits_signed hfinite, Option.map_eq_some_iff] at hread
    simpa only [decide_eq_true_eq] using hread
  obtain ⟨hdigits, hfew, hin, hshort⟩ := Format.shortest_spec hpos
  obtain ⟨hmin, hmax⟩ := Format.exponent_shortest hpos hfinite
  obtain ⟨y, m, q, hscale, hnormal, herror, hexact⟩ :=
    exists_scale hdigits (by omega)
    (by omega : (binary32.shortest (x.toBits.toNat %
      0x80000000)).exponent.natAbs ≤ 60)
  refine ⟨y, hscale, narrow_eq_of_encloses hnormal hpos hfinite ?_⟩
  by_cases htolerates : binary32.Tolerates (x.toBits.toNat % 0x80000000)
      (binary32.shortest (x.toBits.toNat % 0x80000000)).value
  · left
    obtain ⟨hlow, hhigh⟩ := htolerates
    obtain ⟨herror₁, herror₂⟩ := abs_le.mp herror
    rw [Decimal.value] at hlow hhigh
    constructor <;> linarith
  · obtain ⟨hsmall, k, j, hk, heq⟩ :=
      Format.exists_end_of_not_tolerates hpos hfinite hexcept
      (hshort.resolve_right htolerates) htolerates
    rw [hexact hsmall k j (by omega) heq]
    exact hin

/-- A decimal that is a whole number may also be read from more digits. -/
theorem exists_reading_whole {x : Float32} (hpos : 0 < x.toBits.toNat % 0x80000000)
    (hfinite : x.toBits.toNat % 0x80000000 < binary32.infinity) {n k : Nat}
    {e : ℤ} (hn : 0 < n) (hn' : n ≤ 2 ^ 52) (he : e.natAbs ≤ 10)
    (hk : k ≤ 2 ^ 52) (hvalue : (n : ℚ) * 10 ^ e = k)
    (hwhole : (k : ℚ) = (binary32.shortest (x.toBits.toNat % 0x80000000)).value) :
    ∃ y, Numeral.scale (floatOfNat n) 20 e = some y ∧
      narrow (if 0x80000000 ≤ x.toBits.toNat then -y else y) = x := by
  obtain ⟨-, -, hin, -⟩ := Format.shortest_spec hpos
  obtain ⟨y, m, q, hscale, hnormal, -, hexact⟩ :=
    exists_scale hn hn' (he.trans (by decide))
  refine ⟨y, hscale, narrow_eq_of_encloses hnormal hpos hfinite ?_⟩
  rw [hexact he k 0 hk (by rw [zpow_zero, mul_one, hvalue]), hvalue, hwhole]
  exact hin

end Prospectus.Number
