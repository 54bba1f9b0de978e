import Mathlib.Algebra.Order.Floor.Semifield
import Mathlib.Data.Nat.Size
import Mathlib.Data.Rat.Floor
import Prospectus.Contents.PageNumber
import Prospectus.Proofs.Rounding

/-!
# Integer parts of rounded numbers

A number with a fraction is rounded to a 64-bit float before its fraction is cut
off, so that what is left is the integer part of the float and not always that
of the number.  This file says exactly when the two are the same.

Let `k` be the number of bits of the integer part `w`.  The last bit of the
floats just below `w + 1` is worth `2 ^ (k - 53)`.  If that is at most one, the
floats between `w` and `w + 1` include both, and the integer part is kept unless
the number is nearer to `w + 1` than half that bit; if it is more than one,
floats are integers, and the integer part is kept exactly if it is a float
itself (`integerPart_eq_div_iff`).
-/

namespace Prospectus.Number.Format

/-! ## The value of a rounded number -/

/-- A significand with its exponent is the number that their bits stand for,
also if it has carried into the next binade. -/
theorem value_significand (f : Format) {q : ℤ} {n : Nat} (hq : -(f.least : ℤ) ≤ q)
    (hn : f.unit ≤ n ∧ n ≤ 2 * f.unit ∨ q = -(f.least : ℤ) ∧ n < f.unit) :
    f.value ((q + f.least).toNat * f.unit + n) = n * 2 ^ q := by
  obtain ⟨k, rfl⟩ : ∃ k : Nat, q = k - f.least := ⟨(q + f.least).toNat, by omega⟩
  have hk : ((k : ℤ) - f.least + f.least).toNat = k := by omega
  have hunit := f.unit_pos
  have hparts (bits : Nat) : f.parts bits = if bits / f.unit = 0
    then (bits, -(f.least : ℤ)) else
      (f.unit + bits % f.unit, ((bits / f.unit : Nat) : ℤ) - 1 - f.least) := rfl
  rw [hk, value, hparts]
  rcases hn with ⟨hlow, hhigh⟩ | ⟨hleast, hlow⟩
  · obtain ⟨r, rfl⟩ : ∃ r, n = f.unit + r := ⟨n - f.unit, by omega⟩
    rcases Nat.lt_or_eq_of_le hhigh with hlt | heq
    · have hdiv : (k * f.unit + (f.unit + r)) / f.unit = k + 1 := by
        rw [← Nat.add_assoc, ← Nat.succ_mul, Nat.mul_comm,
          Nat.mul_add_div hunit, Nat.div_eq_of_lt (by omega)]
      have hmod : (k * f.unit + (f.unit + r)) % f.unit = r := by
        rw [← Nat.add_assoc, ← Nat.succ_mul, Nat.mul_comm, Nat.mul_add_mod,
          Nat.mod_eq_of_lt (by omega)]
      rw [hdiv, hmod, if_neg (by omega)]
      congr 2
      push_cast
      ring
    · obtain rfl : r = f.unit := by omega
      have hsum : k * f.unit + (f.unit + f.unit) = f.unit * (k + 2) := by ring
      have hdiv : (k * f.unit + (f.unit + f.unit)) / f.unit = k + 2 := by
        rw [hsum, Nat.mul_div_cancel_left _ hunit]
      have hmod : (k * f.unit + (f.unit + f.unit)) % f.unit = 0 := by
        rw [hsum, Nat.mul_mod_right]
      have hexp : ((k + 2 : Nat) : ℤ) - 1 - f.least = (k - f.least) + 1 := by omega
      rw [hdiv, hmod, if_neg (by omega)]
      dsimp only
      rw [hexp, zpow_add_one₀ two_ne_zero]
      push_cast
      ring
  · obtain rfl : k = 0 := by omega
    rw [Nat.zero_mul, Nat.zero_add, if_pos (Nat.div_eq_of_lt hlow)]
    simp

/-- The last bit of a positive number: its exponent is the format's least one,
or the number has its leading bit where the format has it. -/
theorem quantum_cases (f : Format) {a b : Nat} (ha : 0 < a) (hb : 0 < b) :
    -(f.least : ℤ) ≤ f.quantum a b ∧ (a : ℚ) / b < 2 * f.unit * 2 ^ f.quantum a b ∧
      (f.unit * (2 : ℚ) ^ f.quantum a b ≤ a / b ∨
        f.quantum a b = -(f.least : ℤ)) := by
  by_cases hlow : f.unit * (2 : ℚ) ^ (-(f.least : ℤ)) ≤ a / b
  · obtain ⟨q, hq, hqlow, hqhigh⟩ := f.exists_leading ha hb hlow
    rw [f.quantum_eq ha hb hq hqlow hqhigh]
    exact ⟨hq, hqhigh, .inl hqlow⟩
  · have hlt := lt_of_not_ge hlow
    have hpos : (0 : ℚ) < f.unit * 2 ^ (-(f.least : ℤ)) :=
      mul_pos (by exact_mod_cast f.unit_pos) (by positivity)
    rw [f.quantum_eq_least ha hb hlt]
    exact ⟨le_rfl, by linarith, .inr rfl⟩

/-- A number is to be rounded to an integer: the integer is nearer than a half,
or as near as a half and even. -/
def RoundsTo (y : ℚ) (n : Nat) : Prop :=
  |y - n| < 1 / 2 ∨ |y - n| ≤ 1 / 2 ∧ n % 2 = 0

/-- **Rounding in units of the last bit.**  The significand is the integer to
which the number, in units of its last bit, is to be rounded; with it go the
exponent and, unless they are beyond all finite numbers, the value. -/
theorem exists_significand (f : Format) {a b : Nat} (ha : 0 < a) (hb : 0 < b) :
    ∃ n : Nat, |(a : ℚ) / b / 2 ^ f.quantum a b - n| ≤ 1 / 2 ∧
      (∀ m, RoundsTo ((a : ℚ) / b / 2 ^ f.quantum a b) m → n = m) ∧
      ((f.quantum a b + f.least).toNat * f.unit + n < f.infinity →
        f.value (f.round a b) = n * 2 ^ f.quantum a b) := by
  obtain ⟨num, den, hden, heq, hround⟩ := f.exists_round ha hb
  have hnear := divideToEven_near num hden
  rw [heq] at hnear
  refine ⟨divideToEven num den, hnear, ?_, ?_⟩
  · intro m hm
    exact divideToEven_eq hden (by rwa [heq])
  · intro hfinite
    rw [hround, min_eq_left hfinite.le]
    obtain ⟨hleast, hhigh, hlow⟩ := f.quantum_cases ha hb
    have hpos : (0 : ℚ) < 2 ^ f.quantum a b := by positivity
    obtain ⟨hn₁, hn₂⟩ := abs_le.mp hnear
    have hy : (a : ℚ) / b / 2 ^ f.quantum a b < 2 * f.unit :=
      (div_lt_iff₀ hpos).mpr hhigh
    apply f.value_significand hleast
    by_cases hunit : (f.unit : ℚ) ≤ a / b / 2 ^ f.quantum a b
    · exact .inl (nearest_mem_binade hunit hy hnear)
    · have hless := lt_of_not_ge hunit
      have hq : f.quantum a b = -(f.least : ℤ) :=
        hlow.resolve_left fun h => hunit ((le_div_iff₀ hpos).mpr h)
      have hle : divideToEven num den ≤ f.unit := by
        have hcast : (divideToEven num den : ℚ) < f.unit + 1 := by linarith
        exact Nat.lt_succ_iff.mp (by exact_mod_cast hcast)
      rcases Nat.lt_or_eq_of_le hle with hlt | heq
      · exact .inr ⟨hq, hlt⟩
      · exact .inl ⟨heq.ge, by omega⟩

end Prospectus.Number.Format

namespace Prospectus.Contents

open Number

/-- Cutting off the fraction of a float leaves the integer part of its value. -/
theorem integerPart_eq_floor (a b : Nat) :
    integerPart a b = ⌊binary64.value (binary64.round a b)⌋₊ := by
  unfold integerPart Format.value
  rcases binary64.parts (binary64.round a b) with ⟨m, q⟩
  cases q with
  | ofNat k =>
      rw [Int.ofNat_eq_natCast, zpow_natCast]
      exact_mod_cast (Nat.floor_natCast (R := ℚ) (m * 2 ^ k)).symm
  | negSucc k =>
      have hvalue : (m : ℚ) * 2 ^ Int.negSucc k = m / (2 ^ (k + 1) : Nat) := by
        rw [zpow_negSucc]
        push_cast
        rfl
      dsimp only
      rw [hvalue, Nat.floor_div_eq_div]
      rfl

/-- A fraction lies between its integer part and the next integer. -/
theorem div_bounds (a : Nat) {b : Nat} (hb : 0 < b) :
    ((a / b : Nat) : ℚ) ≤ a / b ∧ (a : ℚ) / b < (a / b : Nat) + 1 := by
  have hbq : (0 : ℚ) < b := by exact_mod_cast hb
  have hmod : ((a % b : Nat) : ℚ) / b < 1 :=
    (div_lt_one hbq).mpr (by exact_mod_cast Nat.mod_lt a hb)
  have hnonneg : (0 : ℚ) ≤ ((a % b : Nat) : ℚ) / b := by positivity
  rw [fraction_eq a hb]
  constructor <;> linarith

/-- Numbers up to `2 ^ 63` are rounded to finite ones. -/
theorem exists_significand64 {a b : Nat} (ha : 0 < a) (hb : 0 < b)
    (hd : a / b < 2 ^ 63) :
    ∃ n : Nat, |(a : ℚ) / b / 2 ^ binary64.quantum a b - n| ≤ 1 / 2 ∧
      (∀ m, Format.RoundsTo ((a : ℚ) / b / 2 ^ binary64.quantum a b) m → n = m) ∧
      binary64.value (binary64.round a b) = n * 2 ^ binary64.quantum a b := by
  obtain ⟨n, hnear, hunique, hvalue⟩ := binary64.exists_significand ha hb
  refine ⟨n, hnear, hunique, hvalue ?_⟩
  obtain ⟨hleast, hhigh, hlow⟩ := binary64.quantum_cases ha hb
  have hunit : binary64.unit = 2 ^ 52 := rfl
  have hx : (a : ℚ) / b < 2 ^ (63 : ℤ) := by
    have hcast : ((a / b : Nat) : ℚ) + 1 ≤ 2 ^ (63 : ℤ) := by exact_mod_cast hd
    exact (div_bounds a hb).2.trans_le hcast
  have hq : binary64.quantum a b < 12 := by
    rcases hlow with hlow | hq
    · have hlt := hlow.trans_lt hx
      rw [Format.unit_eq_zpow, ← zpow_add₀ two_ne_zero,
        zpow_lt_zpow_iff_right₀ one_lt_two] at hlt
      have hprecision : ((binary64.precision - 1 : Nat) : ℤ) = 52 := rfl
      omega
    · rw [hq]
      decide
  have hn : n ≤ 2 * binary64.unit := by
    have hpos : (0 : ℚ) < 2 ^ binary64.quantum a b := by positivity
    have hy : (a : ℚ) / b / 2 ^ binary64.quantum a b < 2 * binary64.unit :=
      (div_lt_iff₀ hpos).mpr hhigh
    have hcast : (n : ℚ) < 2 * binary64.unit + 1 := by
      linarith [(abs_le.mp hnear).1]
    exact Nat.lt_succ_iff.mp (by exact_mod_cast hcast)
  have hinfinity : binary64.infinity = 2047 * 2 ^ 52 := by decide
  have hexp : (binary64.quantum a b + binary64.least).toNat ≤ 1085 := by
    have : (binary64.least : ℤ) = 1074 := rfl
    omega
  rw [hunit] at hn ⊢
  rw [hinfinity]
  omega

/-! ## Integer parts below `2 ^ 53` -/

/-- A number below an integer is rounded to it or to something less. -/
theorem eq_or_lt_of_roundsTo {y : ℚ} {n top : Nat} (hy : y < top)
    (hnear : |y - n| ≤ 1 / 2) (hunique : ∀ m, Format.RoundsTo y m → n = m) :
    n = top ∧ Format.RoundsTo y top ∨ n < top ∧ ¬ Format.RoundsTo y top := by
  by_cases hup : Format.RoundsTo y top
  · exact .inl ⟨hunique top hup, hup⟩
  · refine .inr ⟨?_, hup⟩
    obtain ⟨hlow, hhigh⟩ := abs_le.mp hnear
    have hle : n ≤ top := by
      have hcast : (n : ℚ) < top + 1 := by linarith
      exact Nat.lt_succ_iff.mp (by exact_mod_cast hcast)
    refine Nat.lt_of_le_of_ne hle ?_
    rintro rfl
    -- A tie that does not go up to `n` goes down from it.
    obtain ⟨hnot, hodd⟩ := not_or.mp hup
    have hparity : n % 2 = 1 := by
      have := not_and.mp hodd hnear
      omega
    obtain ⟨m, rfl⟩ : ∃ m, n = m + 1 := ⟨n - 1, by omega⟩
    have htie : y = m + 1 / 2 := by
      rw [abs_of_nonpos (by linarith)] at hnot hnear
      push_cast at hnot hnear
      linarith
    have hdown : Format.RoundsTo y m := by
      right
      refine ⟨?_, by omega⟩
      rw [htie, add_sub_cancel_left, abs_of_pos (by norm_num)]
    have := hunique m hdown
    omega

/-- The last bit of a number from one on follows from the bits of its integer
part. -/
theorem quantum_eq_size_sub {a b : Nat} (hb : 0 < b) (hd : 0 < a / b) :
    binary64.quantum a b = (a / b).size - 53 := by
  have ha : 0 < a := Nat.pos_of_div_pos hd
  obtain ⟨hlow, hhigh⟩ := div_bounds a hb
  have hsize : 0 < (a / b).size := Nat.size_pos.mpr hd
  have hprecision : ((binary64.precision - 1 : Nat) : ℤ) = 52 := rfl
  refine binary64.quantum_eq ha hb ?_ ?_ ?_
  · have hleast : (binary64.least : ℤ) = 1074 := rfl
    omega
  · have hpow : 2 ^ ((a / b).size - 1) ≤ a / b := Nat.lt_size.mp (by omega)
    have hexp : ((binary64.precision - 1 : Nat) : ℤ) + ((a / b).size - 53) =
        ((a / b).size - 1 : Nat) := by omega
    rw [Format.unit_eq_zpow, ← zpow_add₀ two_ne_zero, hexp, zpow_natCast]
    exact le_trans (by exact_mod_cast hpow) hlow
  · have hpow : a / b + 1 ≤ 2 ^ (a / b).size := Nat.lt_size_self _
    have hexp : 1 + (((binary64.precision - 1 : Nat) : ℤ) +
        ((a / b).size - 53)) = (a / b).size := by omega
    rw [Format.unit_eq_zpow, mul_assoc, ← zpow_add₀ two_ne_zero,
      ← zpow_one_add₀ two_ne_zero, hexp, zpow_natCast]
    exact lt_of_lt_of_le hhigh (by exact_mod_cast hpow)

/-- The last bit of a number whose integer part has at most 53 bits is worth
`2 ^ -r`, where `r` is what is missing from 53 bits; for a number below one half
it may be worth even less. -/
theorem exists_quantum_eq_neg {a b : Nat} (ha : 0 < a) (hb : 0 < b)
    (hd : a / b < 2 ^ 53) :
    ∃ r : Nat, binary64.quantum a b = -(r : ℤ) ∧
      (r + (a / b).size = 53 ∨ a / b = 0 ∧ 53 ≤ r ∧ 2 * (a % b) < b) := by
  rcases Nat.eq_zero_or_pos (a / b) with hzero | hpos
  · have hlt : a < b := (Nat.div_eq_zero_iff_lt hb).mp hzero
    have hbq : (0 : ℚ) < b := by exact_mod_cast hb
    have hprecision : ((binary64.precision - 1 : Nat) : ℤ) = 52 := rfl
    have hleast : (binary64.least : ℤ) = 1074 := rfl
    by_cases hhalf : b ≤ 2 * a
    · refine ⟨53, ?_, .inl (by rw [hzero]; rfl)⟩
      refine binary64.quantum_eq ha hb (by omega) ?_ ?_
      · rw [Format.unit_eq_zpow, ← zpow_add₀ two_ne_zero, hprecision,
          le_div_iff₀ hbq]
        have hcast : (b : ℚ) ≤ 2 * a := by exact_mod_cast hhalf
        norm_num
        linarith
      · rw [Format.unit_eq_zpow, mul_assoc, ← zpow_add₀ two_ne_zero, hprecision,
          div_lt_iff₀ hbq]
        have hcast : (a : ℚ) < b := by exact_mod_cast hlt
        norm_num
        linarith
    · obtain ⟨hlow, -⟩ := exponentOf_bounds ha hb
      have hone : (2 : ℚ) ^ exponentOf a b < 2 ^ (0 : ℤ) := by
        rw [zpow_zero]
        exact hlow.trans_lt ((div_lt_one hbq).mpr (by exact_mod_cast hlt))
      have hexp : exponentOf a b < 0 := (zpow_lt_zpow_iff_right₀ one_lt_two).mp hone
      have hq : binary64.quantum a b ≤ -53 := by
        rw [Format.quantum]
        omega
      refine ⟨(-binary64.quantum a b).toNat, by omega, .inr ⟨hzero, by omega, ?_⟩⟩
      rw [Nat.mod_eq_of_lt hlt]
      omega
  · have hsize : (a / b).size ≤ 53 := Nat.size_le.mpr hd
    refine ⟨53 - (a / b).size, ?_, .inl (by omega)⟩
    rw [quantum_eq_size_sub hb hpos]
    omega

/-- Whether the integer part of `whole + fraction / scale` is still the same
after rounding to a 64-bit float. -/
def KeepsWhole (whole fraction scale : Nat) : Prop :=
  if whole < 2 ^ 53 then
    scale < (scale - fraction) * 2 ^ (54 - whole.size) ∨
      scale = (scale - fraction) * 2 ^ (54 - whole.size) ∧ whole.size = 53 ∧
      whole % 2 = 0
  else 2 ^ (whole.size - 53) ∣ whole

/-- A number is rounded up to the next integer if what is missing from it is
less than half a last bit, or as much and the integer is even. -/
theorem roundsTo_succ_iff {a b : Nat} (hb : 0 < b) (r : Nat) :
    Format.RoundsTo ((a : ℚ) / b * 2 ^ r) ((a / b + 1) * 2 ^ r) ↔
      (b - a % b) * 2 ^ (r + 1) < b ∨ (b - a % b) * 2 ^ (r + 1) = b ∧
      (a / b + 1) * 2 ^ r % 2 = 0 := by
  have hbq : (0 : ℚ) < b := by exact_mod_cast hb
  have hmod : a % b < b := Nat.mod_lt a hb
  have hgap : |(a : ℚ) / b * 2 ^ r - ((a / b + 1) * 2 ^ r : Nat)| =
      ((b - a % b) * 2 ^ (r + 1) : Nat) / b / 2 := by
    have hmissing : ((a / b + 1) * 2 ^ r : Nat) - (a : ℚ) / b * 2 ^ r =
        ((b - a % b) * 2 ^ (r + 1) : Nat) / b / 2 := by
      rw [fraction_eq a hb]
      push_cast [Nat.cast_sub hmod.le]
      field_simp
      ring
    rw [abs_sub_comm, hmissing, abs_of_nonneg (by positivity)]
  have hlt : ((b - a % b) * 2 ^ (r + 1) : Nat) / (b : ℚ) / 2 < 1 / 2 ↔
      (b - a % b) * 2 ^ (r + 1) < b := by
    rw [div_lt_div_iff_of_pos_right two_pos, div_lt_one hbq, Nat.cast_lt]
  have hle : ((b - a % b) * 2 ^ (r + 1) : Nat) / (b : ℚ) / 2 ≤ 1 / 2 ↔
      (b - a % b) * 2 ^ (r + 1) ≤ b := by
    rw [div_le_div_iff_of_pos_right two_pos, div_le_one hbq, Nat.cast_le]
  rw [Format.RoundsTo, hgap, hlt, hle]
  constructor
  · rintro (hless | ⟨hless, heven⟩)
    · exact .inl hless
    · exact (Nat.lt_or_eq_of_le hless).imp_right fun heq => ⟨heq, heven⟩
  · rintro (hless | ⟨heq, heven⟩)
    · exact .inl hless
    · exact .inr ⟨heq.le, heven⟩

/-- The integer part is kept exactly if the number is not rounded up to the next
integer. -/
theorem keepsWhole_iff_not_roundsTo {a b r : Nat} (hb : 0 < b) (hd : a / b < 2 ^ 53)
    (hr : r + (a / b).size = 53 ∨ a / b = 0 ∧ 53 ≤ r ∧ 2 * (a % b) < b) :
    KeepsWhole (a / b) (a % b) b ↔
      ¬ Format.RoundsTo ((a : ℚ) / b * 2 ^ r) ((a / b + 1) * 2 ^ r) := by
  rw [KeepsWhole, if_pos hd, roundsTo_succ_iff hb]
  rcases hr with hr | ⟨hzero, hr, hhalf⟩
  · have hexp : 54 - (a / b).size = r + 1 := by omega
    have hodd : (a / b + 1) * 2 ^ r % 2 = 0 ↔ ¬ ((a / b).size = 53 ∧
        a / b % 2 = 0) := by
      cases r with
      | zero =>
          rw [Nat.pow_zero, Nat.mul_one]
          omega
      | succ r =>
          rw [Nat.pow_succ, ← Nat.mul_assoc, Nat.mul_mod_left]
          omega
    rw [hexp, hodd]
    omega
  · have hmissing (k : Nat) : b < (b - a % b) * 2 ^ (k + 1) := by
      have hpow : 1 ≤ 2 ^ k := Nat.one_le_two_pow
      calc b < (b - a % b) * 2 := by omega
        _ ≤ (b - a % b) * (2 ^ k * 2) := Nat.mul_le_mul_left _ (by omega)
        _ = (b - a % b) * 2 ^ (k + 1) := by rw [Nat.pow_succ]
    have hkeeps : b < (b - a % b) * 2 ^ (54 - (a / b).size) := by
      rw [hzero]
      exact hmissing 53
    have hlarge := hmissing r
    exact iff_of_true (.inl hkeeps) (by omega)

/-- **Integer parts below `2 ^ 53`** are kept or grow by one. -/
theorem integerPart_of_lt {a b : Nat} (hb : 0 < b) (hd : a / b < 2 ^ 53) :
    integerPart a b = a / b ∧ KeepsWhole (a / b) (a % b) b ∨
      integerPart a b = a / b + 1 ∧ ¬ KeepsWhole (a / b) (a % b) b := by
  rcases Nat.eq_zero_or_pos a with rfl | ha
  · have hround : binary64.round 0 b = 0 := if_pos rfl
    have hvalue : binary64.value 0 = 0 := by simp [Format.value, Format.parts]
    rw [integerPart_eq_floor, hround, hvalue, Nat.floor_zero, KeepsWhole,
      if_pos hd, Nat.zero_div, Nat.zero_mod]
    exact .inl ⟨rfl, .inl (by rw [Nat.size_zero]; omega)⟩
  · obtain ⟨hlow, hhigh⟩ := div_bounds a hb
    obtain ⟨r, hq, hr⟩ := exists_quantum_eq_neg ha hb hd
    obtain ⟨n, hnear, hunique, hvalue⟩ := exists_significand64 ha hb (by omega)
    have hscale : (a : ℚ) / b / 2 ^ binary64.quantum a b = a / b * 2 ^ r := by
      rw [hq, zpow_neg, zpow_natCast, div_inv_eq_mul]
    have hpart : integerPart a b = n / 2 ^ r := by
      have hquotient : (n : ℚ) * 2 ^ binary64.quantum a b = n / (2 ^ r : Nat) := by
        rw [hq, zpow_neg, zpow_natCast]
        push_cast
        rfl
      rw [integerPart_eq_floor, hvalue, hquotient, Nat.floor_div_eq_div]
    rw [hscale] at hnear hunique
    have hpos : (0 : ℚ) < 2 ^ r := by positivity
    have hbelow : (a : ℚ) / b * 2 ^ r < ((a / b + 1) * 2 ^ r : Nat) := by
      push_cast
      gcongr
    have hat : (a / b) * 2 ^ r ≤ n := by
      have hcast : ((a / b : Nat) : ℚ) * 2 ^ r ≤ a / b * 2 ^ r := by gcongr
      have hstep : (((a / b) * 2 ^ r : Nat) : ℚ) < n + 1 := by
        push_cast
        linarith [(abs_le.mp hnear).2]
      exact Nat.lt_succ_iff.mp (by exact_mod_cast hstep)
    have hpow : 0 < 2 ^ r := Nat.two_pow_pos r
    rw [hpart, keepsWhole_iff_not_roundsTo hb hd hr, not_not]
    rcases eq_or_lt_of_roundsTo hbelow hnear hunique with ⟨rfl, hup⟩ | ⟨hlt, hnot⟩
    · exact .inr ⟨Nat.mul_div_cancel _ hpow, hup⟩
    · refine .inl ⟨Nat.div_eq_of_lt_le hat hlt, hnot⟩

/-! ## Integer parts from `2 ^ 53` on -/

/-- **Integer parts from `2 ^ 53` to `2 ^ 63`** are kept if they are floats. -/
theorem integerPart_eq_iff_of_le {a b : Nat} (hb : 0 < b)
    (hlow : 2 ^ 53 ≤ a / b) (hhigh : a / b < 2 ^ 63) :
    integerPart a b = a / b ↔ KeepsWhole (a / b) (a % b) b := by
  have hd : 0 < a / b := by omega
  have ha : 0 < a := Nat.pos_of_div_pos hd
  obtain ⟨hfrom, hto⟩ := div_bounds a hb
  have hsize : 53 < (a / b).size := Nat.lt_size.mpr hlow
  obtain ⟨k, hk⟩ : ∃ k, (a / b).size = 53 + (k + 1) := ⟨(a / b).size - 54, by omega⟩
  have hq : binary64.quantum a b = (k + 1 : Nat) := by
    rw [quantum_eq_size_sub hb hd]
    omega
  obtain ⟨n, hnear, hunique, hvalue⟩ := exists_significand64 ha hb hhigh
  have hpart : integerPart a b = n * 2 ^ (k + 1) := by
    rw [integerPart_eq_floor, hvalue, hq, zpow_natCast]
    exact_mod_cast Nat.floor_natCast (R := ℚ) (n * 2 ^ (k + 1))
  rw [KeepsWhole, if_neg (by omega), hk, Nat.add_sub_cancel_left, hpart]
  constructor
  · intro heq
    exact ⟨n, by rw [← heq, Nat.mul_comm]⟩
  · rintro ⟨m, hm⟩
    -- the fraction is less than half a last bit, which is worth at least two
    have hpos : (0 : ℚ) < 2 ^ (k + 1) := by positivity
    have htwo : (2 : ℚ) ≤ 2 ^ (k + 1) := by
      rw [pow_succ]
      linarith [one_le_pow₀ (n := k) (one_le_two (α := ℚ))]
    have hmq : ((a / b : Nat) : ℚ) = 2 ^ (k + 1) * m := by exact_mod_cast hm
    have hrounds : Format.RoundsTo ((a : ℚ) / b / 2 ^ binary64.quantum a b) m := by
      left
      rw [hq, zpow_natCast, div_sub' hpos.ne',
        abs_of_nonneg (div_nonneg (by linarith) hpos.le),
        div_lt_div_iff₀ hpos two_pos]
      linarith
    rw [hunique m hrounds, hm, Nat.mul_comm]

/-- Numbers from `2 ^ 63 - 1` on do not get below `2 ^ 63`. -/
theorem le_integerPart {a b : Nat} (hb : 0 < b) (h : 2 ^ 63 - 1 ≤ a / b) :
    2 ^ 63 ≤ integerPart a b := by
  have ha : 0 < a := Nat.pos_of_div_pos (by omega : 0 < a / b)
  have hx : (2 : ℚ) ^ 63 - 1 ≤ a / b := by
    have hcast : ((2 ^ 63 - 1 : Nat) : ℚ) ≤ (a / b : Nat) := by exact_mod_cast h
    refine le_trans ?_ (hcast.trans (div_bounds a hb).1)
    norm_num
  have hunit : (binary64.unit : ℚ) = 2 ^ 52 := by exact_mod_cast rfl
  have hnormal : binary64.unit * (2 : ℚ) ^ (-(binary64.least : ℤ)) ≤ a / b := by
    have hle : (2 : ℚ) ^ (-(binary64.least : ℤ)) ≤ 1 :=
      zpow_le_one_of_nonpos₀ one_le_two (by omega)
    rw [hunit]
    linarith
  obtain ⟨m, q, hm, hmax, hq, hnear, hround⟩ := binary64.round_normal ha hb hnormal
  have hmq : (2 : ℚ) ^ 52 ≤ m := by rw [← hunit]; exact_mod_cast hm
  have hmaxq : (m : ℚ) + 1 ≤ 2 * 2 ^ 52 := by rw [← hunit]; exact_mod_cast hmax
  -- the last bit is worth at least `2 ^ 11`: otherwise the number would be too
  -- small
  have heleven : 11 ≤ q := by
    by_contra hsmall
    have hpow : (2 : ℚ) ^ q ≤ 2 ^ (10 : ℤ) :=
      zpow_le_zpow_right₀ one_le_two (by omega)
    have hpos : (0 : ℚ) < 2 ^ q := by positivity
    have hbound : (m : ℚ) * 2 ^ q + 2 ^ q / 2 ≤
        (2 * 2 ^ 52 - 1 / 2) * 2 ^ (10 : ℤ) := by nlinarith
    have hten : (2 : ℚ) ^ (10 : ℤ) = 1024 := by norm_num
    rw [hten] at hbound
    linarith [(abs_le.mp hnear).2]
  have hlarge (c : ℚ) (e : ℤ) (hc : 2 ^ 52 ≤ c) (he : 11 ≤ e) : (2 : ℚ) ^ 63 ≤
      c * 2 ^ e := by
    have hpow : (2 : ℚ) ^ (11 : ℤ) ≤ 2 ^ e := zpow_le_zpow_right₀ one_le_two he
    have heleven : (2 : ℚ) ^ (11 : ℤ) = 2048 := by norm_num
    rw [heleven] at hpow
    nlinarith
  have hvalue : (2 : ℚ) ^ 63 ≤ binary64.value (binary64.round a b) := by
    rw [hround]
    rcases Nat.lt_or_ge ((q + binary64.least).toNat * binary64.unit + m)
      binary64.infinity with hfinite | hinfinite
    · rw [min_eq_left hfinite.le,
        binary64.value_significand hq (.inl ⟨hm, hmax.le⟩)]
      exact hlarge m q hmq heleven
    · have hparts : binary64.parts binary64.infinity = (2 ^ 52, 972) := by decide
      rw [min_eq_right hinfinite, Format.value, hparts]
      exact hlarge _ 972 (by norm_num) (by norm_num)
  rw [integerPart_eq_floor]
  exact Nat.le_floor (by exact_mod_cast hvalue)

/-- **When the integer part is kept.** -/
theorem integerPart_eq_div_iff {a b : Nat} (hb : 0 < b) (hd : a / b < 2 ^ 63) :
    integerPart a b = a / b ↔ KeepsWhole (a / b) (a % b) b := by
  rcases Nat.lt_or_ge (a / b) (2 ^ 53) with hlt | hge
  · rcases integerPart_of_lt hb hlt with ⟨heq, hkeeps⟩ | ⟨heq, hnot⟩
    · exact iff_of_true heq hkeeps
    · exact iff_of_false (by omega) hnot
  · exact integerPart_eq_iff_of_le hb hge hd

end Prospectus.Contents
