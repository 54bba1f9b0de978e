import Mathlib.Algebra.Order.Field.Power
import Mathlib.Tactic.FieldSimp
import Mathlib.Tactic.Linarith
import Mathlib.Tactic.Positivity
import Mathlib.Tactic.Ring
import Prospectus.Number.Shortest

/-!
# Rounding is to the nearest

`Format.round` is defined on natural numbers.  Here it is read as rounding of
rational numbers: a fraction above the subnormal numbers goes to a significand
at most half a last bit away (`round_normal`), and the fractions that go to one
float are those of its interval (`round_of_encloses`).
-/

namespace Prospectus.Number

/-! ## Quotients -/

/-- A fraction is its whole part and what the remainder adds. -/
theorem fraction_eq (a : Nat) {b : Nat} (hb : 0 < b) :
    (a : ℚ) / b = (a / b : Nat) + (a % b : Nat) / b := by
  have hbq : (0 : ℚ) < b := by exact_mod_cast hb
  have hdiv : ((b * (a / b) + a % b : Nat) : ℚ) = a := by rw [Nat.div_add_mod]
  push_cast at hdiv
  field_simp
  linarith

/-- The quotient to the nearest integer is off by at most a half. -/
theorem divideToEven_near (a : Nat) {b : Nat} (hb : 0 < b) :
    |(a : ℚ) / b - divideToEven a b| ≤ 1 / 2 := by
  have hbq : (0 : ℚ) < b := by exact_mod_cast hb
  have hlt : a % b < b := Nat.mod_lt a hb
  have hrest : (0 : ℚ) ≤ (a % b : Nat) / (b : ℚ) := by positivity
  rw [fraction_eq a hb]
  unfold divideToEven
  dsimp only
  split
  · rename_i hless
    have hhalf : ((a % b : Nat) : ℚ) / b < 1 / 2 := by
      rw [div_lt_div_iff₀ hbq two_pos]
      exact_mod_cast (by omega : a % b * 2 < 1 * b)
    rw [abs_le]
    constructor <;> linarith
  · split
    · rename_i hmore
      have hhalf : 1 / 2 < ((a % b : Nat) : ℚ) / b := by
        rw [div_lt_div_iff₀ two_pos hbq]
        exact_mod_cast (by omega : 1 * b < a % b * 2)
      have hone : ((a % b : Nat) : ℚ) / b < 1 := by
        rw [div_lt_one hbq]
        exact_mod_cast hlt
      push_cast
      rw [abs_le]
      constructor <;> linarith
    · have htie : ((a % b : Nat) : ℚ) / b = 1 / 2 := by
        rw [div_eq_div_iff hbq.ne' two_ne_zero]
        exact_mod_cast (by omega : a % b * 2 = 1 * b)
      have hparity : a / b % 2 = 0 ∨ a / b % 2 = 1 := by omega
      rw [htie]
      rcases hparity with heven | hodd
      · rw [heven, abs_le]
        constructor <;> push_cast <;> linarith
      · rw [hodd, abs_le]
        constructor <;> push_cast <;> linarith

/-- An integer that is nearer than a half, or as near as a half and even, is the
quotient. -/
theorem divideToEven_eq {a b n : Nat} (hb : 0 < b)
    (h : |(a : ℚ) / b - n| < 1 / 2 ∨ |(a : ℚ) / b - n| ≤ 1 / 2 ∧ n % 2 = 0) :
    divideToEven a b = n := by
  have hbq : (0 : ℚ) < b := by exact_mod_cast hb
  have hlt : a % b < b := Nat.mod_lt a hb
  have hdiv : b * (a / b) + a % b = a := Nat.div_add_mod a b
  -- The distance in units of `1 / (2 * b)`, as natural numbers.
  have hnear : 2 * a < 2 * (b * n) + b ∧ 2 * (b * n) < 2 * a + b ∨
      2 * a ≤ 2 * (b * n) + b ∧ 2 * (b * n) ≤ 2 * a + b ∧ n % 2 = 0 := by
    have hscaled : (a : ℚ) = b * (a / b) := by field_simp
    rcases h with h | ⟨h, heven⟩
    · obtain ⟨hlow, hhigh⟩ := abs_lt.mp h
      left
      constructor
      · have : (2 * a : ℚ) < 2 * (b * n) + b := by nlinarith
        exact_mod_cast this
      · have : (2 * (b * n) : ℚ) < 2 * a + b := by nlinarith
        exact_mod_cast this
    · obtain ⟨hlow, hhigh⟩ := abs_le.mp h
      right
      refine ⟨?_, ?_, heven⟩
      · have : (2 * a : ℚ) ≤ 2 * (b * n) + b := by nlinarith
        exact_mod_cast this
      · have : (2 * (b * n) : ℚ) ≤ 2 * a + b := by nlinarith
        exact_mod_cast this
  have hcases : n = a / b ∨ n = a / b + 1 := by
    by_contra hneither
    rcases Nat.lt_or_ge n (a / b) with hless | hmore
    · have hstep : b * (n + 1) ≤ b * (a / b) := Nat.mul_le_mul_left b hless
      rw [Nat.mul_add] at hstep
      omega
    · have hstep : b * (a / b + 2) ≤ b * n := Nat.mul_le_mul_left b (by omega)
      rw [Nat.mul_add] at hstep
      omega
  unfold divideToEven
  dsimp only
  rcases hcases with rfl | rfl
  · split <;> [rfl; (split <;> omega)]
  · rw [Nat.mul_add] at hnear
    split <;> [omega; (split <;> omega)]

/-! ## The exponent of a fraction -/

/-- A natural number lies between two powers of two. -/
theorem log2_bounds {a : Nat} (ha : 0 < a) :
    (2 : ℚ) ^ (a.log2 : ℤ) ≤ a ∧ (a : ℚ) < 2 ^ ((a.log2 : ℤ) + 1) := by
  constructor
  · rw [zpow_natCast]
    exact_mod_cast Nat.log2_self_le ha.ne'
  · have hlt : a < 2 ^ (a.log2 + 1) := Nat.lt_log2_self
    rw [← Nat.cast_succ, zpow_natCast]
    exact_mod_cast hlt

/-- The exponent of a fraction is the one of the power of two just below it. -/
theorem exponentOf_bounds {a b : Nat} (ha : 0 < a) (hb : 0 < b) :
    (2 : ℚ) ^ exponentOf a b ≤ a / b ∧ (a : ℚ) / b < 2 ^ (exponentOf a b + 1) := by
  have hbq : (0 : ℚ) < b := by exact_mod_cast hb
  obtain ⟨halow, hahigh⟩ := log2_bounds ha
  obtain ⟨hblow, hbhigh⟩ := log2_bounds hb
  -- The difference of the logarithms is right or one too large.
  have hupper : (a : ℚ) / b < 2 ^ ((a.log2 : ℤ) - b.log2 + 1) := by
    rw [div_lt_iff₀ hbq]
    calc (a : ℚ) < 2 ^ ((a.log2 : ℤ) + 1) := hahigh
      _ = 2 ^ ((a.log2 : ℤ) - b.log2 + 1) * 2 ^ (b.log2 : ℤ) := by
        rw [← zpow_add₀ two_ne_zero]; congr 1; ring
      _ ≤ 2 ^ ((a.log2 : ℤ) - b.log2 + 1) * b := by gcongr
  have hlower : (2 : ℚ) ^ ((a.log2 : ℤ) - b.log2 - 1) ≤ a / b := by
    rw [le_div_iff₀ hbq]
    calc (2 : ℚ) ^ ((a.log2 : ℤ) - b.log2 - 1) * b
        ≤ 2 ^ ((a.log2 : ℤ) - b.log2 - 1) * 2 ^ ((b.log2 : ℤ) + 1) := by gcongr
      _ = 2 ^ (a.log2 : ℤ) := by rw [← zpow_add₀ two_ne_zero]; congr 1; ring
      _ ≤ a := halow
  have hfits : (if 0 ≤ (a.log2 : ℤ) - b.log2
    then b * Nat.pow 2 ((a.log2 : ℤ) - b.log2).toNat ≤ a
      else b ≤ a * Nat.pow 2 (-((a.log2 : ℤ) - b.log2)).toNat) ↔
      (2 : ℚ) ^ ((a.log2 : ℤ) - b.log2) ≤ a / b := by
    generalize (a.log2 : ℤ) - b.log2 = e
    rw [le_div_iff₀ hbq]
    split
    · rename_i hnonneg
      obtain ⟨k, rfl⟩ := Int.eq_ofNat_of_zero_le hnonneg
      rw [zpow_natCast, Int.toNat_natCast, mul_comm]
      exact_mod_cast Iff.rfl
    · rename_i hneg
      obtain ⟨k, rfl⟩ : ∃ k : ℕ, e = -k := ⟨(-e).toNat, by omega⟩
      rw [zpow_neg, zpow_natCast, neg_neg, Int.toNat_natCast,
        inv_mul_le_iff₀ (by positivity), mul_comm]
      exact_mod_cast Iff.rfl
  by_cases h : (2 : ℚ) ^ ((a.log2 : ℤ) - b.log2) ≤ a / b
  · have he : exponentOf a b = (a.log2 : ℤ) - b.log2 := if_pos (hfits.mpr h)
    rw [he]
    exact ⟨h, hupper⟩
  · have he : exponentOf a b = (a.log2 : ℤ) - b.log2 - 1 := if_neg (mt hfits.mp h)
    rw [he, sub_add_cancel]
    exact ⟨hlower, lt_of_not_ge h⟩

/-- A fraction between two successive powers of two has the lower one's
exponent. -/
theorem exponentOf_eq {a b : Nat} (ha : 0 < a) (hb : 0 < b) {e : ℤ}
    (hlow : (2 : ℚ) ^ e ≤ a / b)
    (hhigh : (a : ℚ) / b < 2 ^ (e + 1)) : exponentOf a b = e := by
  obtain ⟨hlow', hhigh'⟩ := exponentOf_bounds ha hb
  have h₁ : exponentOf a b < e + 1 :=
    (zpow_lt_zpow_iff_right₀ one_lt_two).mp (hlow'.trans_lt hhigh)
  have h₂ : e < exponentOf a b + 1 :=
    (zpow_lt_zpow_iff_right₀ one_lt_two).mp (hlow.trans_lt hhigh')
  omega

/-! ## Rounding -/

namespace Format

/-- The smallest significand of a normal number. -/
def unit (f : Format) : Nat := 2 ^ (f.precision - 1)

theorem unit_pos (f : Format) : 0 < f.unit := Nat.two_pow_pos _

/-- The exponent of the last bit to which a fraction is rounded. -/
def quantum (f : Format) (a b : Nat) : ℤ :=
  max (exponentOf a b - (f.precision - 1 : Nat)) (-(f.least : ℤ))

/-- Rounding divides by the last bit and takes the quotient to the nearest
integer. -/
theorem exists_round (f : Format) {a b : Nat} (ha : 0 < a) (hb : 0 < b) :
    ∃ n d : Nat, 0 < d ∧ (n : ℚ) / d = a / b / 2 ^ f.quantum a b ∧
      f.round a b =
        min ((f.quantum a b + f.least).toNat * f.unit + divideToEven n d)
          f.infinity := by
  have hbq : (b : ℚ) ≠ 0 := by exact_mod_cast hb.ne'
  unfold round
  rw [if_neg ha.ne']
  change ∃ n d : Nat, _ ∧ _ ∧
      min ((f.quantum a b + f.least).toNat * Nat.pow 2 (f.precision - 1) +
    if 0 ≤ f.quantum a b then divideToEven a (b * Nat.pow 2 (f.quantum a b).toNat)
    else divideToEven (a * Nat.pow 2 (-f.quantum a b).toNat) b) f.infinity = _
  generalize f.quantum a b = q
  by_cases hq : 0 ≤ q
  · obtain ⟨k, rfl⟩ := Int.eq_ofNat_of_zero_le hq
    refine ⟨a, b * 2 ^ k, by positivity, ?_, ?_⟩
    · push_cast
      rw [zpow_natCast]
      field_simp
    · rw [if_pos hq, Int.toNat_natCast]
      rfl
  · obtain ⟨k, rfl⟩ : ∃ k : ℕ, q = -k := ⟨(-q).toNat, by omega⟩
    refine ⟨a * 2 ^ k, b, hb, ?_, ?_⟩
    · push_cast
      rw [zpow_neg, zpow_natCast]
      field_simp
    · rw [if_neg hq, neg_neg, Int.toNat_natCast]
      rfl

/-- The result of rounding, from the last bit and the nearest multiple of it. -/
theorem round_eq (f : Format) {a b : Nat} (ha : 0 < a) (hb : 0 < b) {q : ℤ}
    {n : Nat} (hq : f.quantum a b = q)
    (hn : |(a : ℚ) / b / 2 ^ q - n| < 1 / 2 ∨ |(a : ℚ) / b / 2 ^ q - n| ≤
      1 / 2 ∧ n % 2 = 0) :
    f.round a b = min ((q + f.least).toNat * f.unit + n) f.infinity := by
  obtain ⟨n', d, hd, heq, hround⟩ := f.exists_round ha hb
  rw [hq] at heq hround
  rw [hround, divideToEven_eq hd (by rwa [heq])]

theorem unit_eq_zpow (f : Format) :
    (f.unit : ℚ) = 2 ^ ((f.precision - 1 : Nat) : ℤ) := by
  rw [zpow_natCast, unit]
  push_cast
  rfl

/-- The last bit of a fraction whose leading bit is the format's. -/
theorem quantum_eq (f : Format) {a b : Nat} (ha : 0 < a) (hb : 0 < b) {q : ℤ}
    (hq : -(f.least : ℤ) ≤ q) (hlow : f.unit * (2 : ℚ) ^ q ≤ a / b)
    (hhigh : (a : ℚ) / b < 2 * f.unit * 2 ^ q) : f.quantum a b = q := by
  have hexponent : exponentOf a b = (f.precision - 1 : Nat) + q := by
    apply exponentOf_eq ha hb
    · rwa [zpow_add₀ two_ne_zero, ← unit_eq_zpow]
    · rwa [zpow_add_one₀ two_ne_zero, zpow_add₀ two_ne_zero, ← unit_eq_zpow,
        mul_comm, ← mul_assoc]
  rw [quantum, hexponent]
  omega

/-- The last bit of a fraction below the normal numbers. -/
theorem quantum_eq_least (f : Format) {a b : Nat} (ha : 0 < a) (hb : 0 < b)
    (hhigh : (a : ℚ) / b < f.unit * 2 ^ (-(f.least : ℤ))) :
    f.quantum a b = -(f.least : ℤ) := by
  have hlt : exponentOf a b < (f.precision - 1 : Nat) + -(f.least : ℤ) := by
    rw [← zpow_lt_zpow_iff_right₀ (one_lt_two (α := ℚ)), zpow_add₀ two_ne_zero,
      ← unit_eq_zpow]
    exact (exponentOf_bounds ha hb).1.trans_lt hhigh
  rw [quantum]
  omega

/-- A fraction above the subnormal numbers has its leading bit where the format
has it. -/
theorem exists_leading (f : Format) {a b : Nat} (ha : 0 < a) (hb : 0 < b)
    (hlow : f.unit * (2 : ℚ) ^ (-(f.least : ℤ)) ≤ a / b) :
    ∃ q : ℤ, -(f.least : ℤ) ≤ q ∧ f.unit * (2 : ℚ) ^ q ≤ a / b ∧
      (a : ℚ) / b < 2 * f.unit * 2 ^ q := by
  obtain ⟨helow, hehigh⟩ := exponentOf_bounds ha hb
  have hsplit : ∀ e : ℤ,
      (2 : ℚ) ^ e = f.unit * 2 ^ (e - (f.precision - 1 : Nat)) := by
    intro e
    rw [unit_eq_zpow, ← zpow_add₀ two_ne_zero]
    congr 1
    ring
  refine ⟨exponentOf a b - (f.precision - 1 : Nat), ?_, ?_, ?_⟩
  · have hlt := hlow.trans_lt hehigh
    rw [unit_eq_zpow, ← zpow_add₀ two_ne_zero,
      zpow_lt_zpow_iff_right₀ one_lt_two] at hlt
    omega
  · rwa [← hsplit]
  · rwa [mul_assoc, ← hsplit, mul_comm, ← zpow_add_one₀ two_ne_zero]

/-- Rounding a significand stays in its binade or reaches the next one. -/
theorem nearest_mem_binade {y : ℚ} {u n : Nat} (hlow : (u : ℚ) ≤ y)
    (hhigh : y < 2 * u)
    (hn : |y - n| ≤ 1 / 2) : u ≤ n ∧ n ≤ 2 * u := by
  obtain ⟨hn₁, hn₂⟩ := abs_le.mp hn
  constructor
  · have : (u : ℚ) < n + 1 := by linarith
    exact Nat.lt_succ_iff.mp (by exact_mod_cast this)
  · have : (n : ℚ) < 2 * u + 1 := by linarith
    exact Nat.lt_succ_iff.mp (by exact_mod_cast this)

/-- A significand to the nearest integer, with a carry into the next binade
taken out. -/
theorem exists_carried {x : ℚ} {q : ℤ} {u n : Nat} (hlow : u * (2 : ℚ) ^ q ≤ x)
    (hhigh : x < 2 * u * 2 ^ q) (hu : 0 < u) (hn : |x / 2 ^ q - n| ≤ 1 / 2) :
    ∃ (m : Nat) (c : Nat), c ≤ 1 ∧ u ≤ m ∧ m < 2 * u ∧ n = m + c * u ∧
      (c = 1 → n = 2 * u) ∧
      |x - m * 2 ^ (q + c)| ≤ 2 ^ (q + c) / 2 := by
  have hpos : (0 : ℚ) < 2 ^ q := by positivity
  obtain ⟨hun, hnu⟩ := nearest_mem_binade ((le_div_iff₀ hpos).mpr hlow)
    ((div_lt_iff₀ hpos).mpr hhigh) hn
  have hdist : |x - n * 2 ^ q| ≤ 2 ^ q / 2 := by
    have hscale : x - n * 2 ^ q = (x / 2 ^ q - n) * 2 ^ q := by field_simp
    rw [hscale, abs_mul, abs_of_pos hpos]
    nlinarith
  rcases Nat.lt_or_eq_of_le hnu with hlt | rfl
  · exact ⟨n, 0, by omega, hun, hlt, by omega, by omega, by simpa using hdist⟩
  · refine ⟨u, 1, le_rfl, le_rfl, by omega, by omega, fun _ => rfl, ?_⟩
    have hcarry : (u : ℚ) * 2 ^ (q + (1 : Nat)) = (2 * u : Nat) * 2 ^ q := by
      push_cast
      rw [zpow_add_one₀ two_ne_zero]
      ring
    rw [hcarry]
    push_cast at hdist ⊢
    rw [zpow_add_one₀ two_ne_zero]
    linarith

/-- A fraction in the range of the normal numbers is rounded to a normal number
that is at most half a last bit away. -/
theorem round_normal (f : Format) {a b : Nat} (ha : 0 < a) (hb : 0 < b)
    (hlow : f.unit * (2 : ℚ) ^ (-(f.least : ℤ)) ≤ a / b) :
    ∃ (m : Nat) (q : ℤ), f.unit ≤ m ∧ m < 2 * f.unit ∧ -(f.least : ℤ) ≤ q ∧
      |(a : ℚ) / b - m * 2 ^ q| ≤ 2 ^ q / 2 ∧
      f.round a b = min ((q + f.least).toNat * f.unit + m) f.infinity := by
  obtain ⟨q, hq, hqlow, hqhigh⟩ := f.exists_leading ha hb hlow
  obtain ⟨n, d, hd, heq, hround⟩ := f.exists_round ha hb
  rw [f.quantum_eq ha hb hq hqlow hqhigh] at heq hround
  have hnear := divideToEven_near n hd
  rw [heq] at hnear
  obtain ⟨m, c, hc, hum, hmu, hsum, -, hdist⟩ :=
    exists_carried hqlow hqhigh f.unit_pos hnear
  refine ⟨m, q + c, hum, hmu, by omega, hdist, ?_⟩
  have hexp : (q + c + f.least).toNat = (q + f.least).toNat + c := by omega
  rw [hround, hsum, hexp, Nat.add_mul]
  congr 1
  omega

/-! ## The numbers that round to one float -/

/-- What bits stand for, taken apart and put together again. -/
theorem parts_spec (f : Format) {bits : Nat} (hbits : 0 < bits) :
    bits = ((f.parts bits).2 + f.least).toNat * f.unit + (f.parts bits).1 ∧
      0 < (f.parts bits).1 ∧ (f.parts bits).1 < 2 * f.unit ∧
        -(f.least : ℤ) ≤ (f.parts bits).2 ∧
      (f.unit ≤ (f.parts bits).1 ∨ (f.parts bits).2 = -(f.least : ℤ)) := by
  have hdiv : f.unit * (bits / f.unit) + bits % f.unit = bits :=
    Nat.div_add_mod bits f.unit
  have hmod : bits % f.unit < f.unit := Nat.mod_lt bits f.unit_pos
  by_cases he : bits / f.unit = 0
  · have hparts : f.parts bits = (bits, -(f.least : ℤ)) := if_pos he
    rw [he, Nat.mul_zero] at hdiv
    rw [hparts]
    dsimp only
    refine ⟨by simp, hbits, by omega, le_rfl, Or.inr rfl⟩
  · have hparts : f.parts bits =
        (f.unit + bits % f.unit, ((bits / f.unit : Nat) : ℤ) - 1 - f.least) :=
      if_neg he
    obtain ⟨k, hk⟩ : ∃ k, bits / f.unit = k + 1 :=
      Nat.exists_eq_add_one_of_ne_zero he
    rw [hk, Nat.mul_add] at hdiv
    rw [hparts, hk]
    dsimp only
    refine ⟨?_, by omega, by omega, by omega, Or.inl (by omega)⟩
    have hexp : (((k + 1 : Nat) : ℤ) - 1 - f.least + f.least).toNat = k := by omega
    rw [hexp, Nat.mul_comm]
    omega

/-- The end of the interval of the numbers that round to the float with the
given bits, below. -/
def lowEnd (f : Format) (bits : Nat) : ℚ :=
  (f.interval bits).low / (f.interval bits).scale

/-- The end above. -/
def highEnd (f : Format) (bits : Nat) : ℚ :=
  (f.interval bits).high / (f.interval bits).scale

/-- The number that bits stand for. -/
def value (f : Format) (bits : Nat) : ℚ := (f.parts bits).1 * 2 ^ (f.parts bits).2

/-- By how many quarters of the last bit the interval reaches down. -/
def below (f : Format) (bits : Nat) : Nat :=
  if (f.parts bits).1 = Nat.pow 2 (f.precision - 1) ∧
      -(f.least : Int) < (f.parts bits).2 then 1 else 2

/-- The interval over its denominator. -/
theorem interval_spec (f : Format) {bits : Nat} (hbits : 0 < bits) :
    0 < (f.interval bits).scale ∧
      f.lowEnd bits = ((f.parts bits).1 - f.below bits / 4) * 2 ^ (f.parts bits).2 ∧
      ((f.interval bits).value : ℚ) / (f.interval bits).scale = f.value bits ∧
      f.highEnd bits = ((f.parts bits).1 + 1 / 2) * 2 ^ (f.parts bits).2 ∧
      (f.interval bits).closed = decide ((f.parts bits).1 % 2 = 0) := by
  obtain ⟨-, hm, -⟩ := f.parts_spec hbits
  have hbelow : f.below bits ≤ 4 * (f.parts bits).1 := by
    unfold below
    split <;> omega
  rcases hparts : f.parts bits with ⟨m, q⟩
  rw [hparts] at hm hbelow
  dsimp only at hm hbelow
  unfold lowEnd highEnd value
  cases q with
  | ofNat k =>
    have hinterval : f.interval bits =
        ⟨(4 * m - f.below bits) * 2 ^ k, 4 * m * 2 ^ k, (4 * m + 2) * 2 ^ k, 4,
          m % 2 = 0⟩ := by
      simp only [interval, below, hparts, Nat.pow_eq]
    rw [hinterval, hparts]
    dsimp only
    rw [Int.ofNat_eq_natCast, zpow_natCast]
    push_cast [Nat.cast_sub hbelow]
    refine ⟨by norm_num, ?_, ?_, ?_, rfl⟩ <;> ring
  | negSucc k =>
    have hinterval : f.interval bits =
        ⟨4 * m - f.below bits, 4 * m, 4 * m + 2, 4 * 2 ^ (k + 1), m % 2 = 0⟩ := by
      simp only [interval, below, hparts, Nat.pow_eq]
    rw [hinterval, hparts]
    dsimp only
    rw [zpow_negSucc]
    push_cast [Nat.cast_sub hbelow]
    refine ⟨by positivity, ?_, ?_, ?_, rfl⟩
    · field_simp
    · field_simp
    · field_simp
      ring

/-- A number lies in the interval of the numbers that round to a float: between
its ends, or on one of them when the significand is even. -/
def Encloses (f : Format) (bits : Nat) (x : ℚ) : Prop :=
  f.lowEnd bits < x ∧ x < f.highEnd bits ∨
    (f.parts bits).1 % 2 = 0 ∧ f.lowEnd bits ≤ x ∧ x ≤ f.highEnd bits

theorem Encloses.lowEnd_le {f : Format} {bits : Nat} {x : ℚ}
    (h : f.Encloses bits x) : f.lowEnd bits ≤ x :=
  h.elim (fun h => h.1.le) (fun h => h.2.1)

theorem Encloses.le_highEnd {f : Format} {bits : Nat} {x : ℚ}
    (h : f.Encloses bits x) : x ≤ f.highEnd bits :=
  h.elim (fun h => h.2.le) (fun h => h.2.2)

/-- The comparisons of the interval decide which fractions lie in it. -/
theorem holds_iff (f : Format) {bits : Nat} (hbits : 0 < bits) (n : Nat)
    {d : Nat} (hd : 0 < d) :
    (f.interval bits).holds n d ↔ f.Encloses bits (n / d) := by
  obtain ⟨hscale, -, -, -, hclosed⟩ := f.interval_spec hbits
  have hdq : (0 : ℚ) < d := by exact_mod_cast hd
  have hscaleq : (0 : ℚ) < (f.interval bits).scale := by exact_mod_cast hscale
  unfold Encloses lowEnd highEnd Interval.holds
  rw [hclosed, div_lt_div_iff₀ hscaleq hdq, div_lt_div_iff₀ hdq hscaleq,
    div_le_div_iff₀ hscaleq hdq, div_le_div_iff₀ hdq hscaleq]
  norm_cast
  by_cases heven : (f.parts bits).1 % 2 = 0
  · simp only [heven, decide_true, if_true, Bool.and_eq_true,
      decide_eq_true_eq, true_and]
    constructor
    · exact Or.inr
    · rintro (⟨hlow, hhigh⟩ | h)
      · exact ⟨hlow.le, hhigh.le⟩
      · exact h
  · simp [heven]

theorem below_le (f : Format) (bits : Nat) : (f.below bits : ℚ) ≤ 2 := by
  unfold below
  split <;> norm_num

/-- The numbers of the interval round to the float. -/
theorem round_of_encloses (f : Format) {bits a b : Nat} (hbits : 0 < bits)
    (hinf : bits < f.infinity)
    (ha : 0 < a) (hb : 0 < b) (h : f.Encloses bits (a / b)) :
    f.round a b = bits := by
  obtain ⟨hsum, hm, hmax, hleast, hnormal⟩ := f.parts_spec hbits
  obtain ⟨-, hlowEnd, -, hhighEnd, -⟩ := f.interval_spec hbits
  rw [Encloses, hlowEnd, hhighEnd] at h
  have hbelow := f.below_le bits
  have hedge : (f.parts bits).1 = f.unit → -(f.least : ℤ) < (f.parts bits).2 →
      f.below bits = 1 :=
    fun h₁ h₂ => if_pos ⟨h₁, h₂⟩
  generalize (f.parts bits).1 = m at *
  generalize (f.parts bits).2 = q at *
  have hpos : (0 : ℚ) < 2 ^ q := by positivity
  -- All in units of the last bit.
  obtain ⟨y, hy⟩ : ∃ y : ℚ, (a : ℚ) / b = y * 2 ^ q :=
    ⟨a / b / 2 ^ q, by field_simp⟩
  rw [hy, mul_lt_mul_iff_left₀ hpos, mul_lt_mul_iff_left₀ hpos,
    mul_le_mul_iff_left₀ hpos, mul_le_mul_iff_left₀ hpos] at h
  have hquot : (a : ℚ) / b / 2 ^ q = y := by rw [hy]; field_simp
  have hylow : (m : ℚ) - f.below bits / 4 ≤ y :=
    h.elim (fun h => h.1.le) (fun h => h.2.1)
  have hyhigh : y ≤ m + 1 / 2 := h.elim (fun h => h.2.le) (fun h => h.2.2)
  have hmaxq : (m : ℚ) + 1 ≤ 2 * f.unit := by exact_mod_cast hmax
  by_cases hplain : (f.unit : ℚ) ≤ y ∨ q = -(f.least : ℤ)
  · have hq : f.quantum a b = q := by
      by_cases hunit : (f.unit : ℚ) ≤ y
      · apply f.quantum_eq ha hb hleast
        · rw [hy]
          gcongr
        · rw [hy]
          gcongr
          linarith
      · obtain rfl := hplain.resolve_left hunit
        apply f.quantum_eq_least ha hb
        rw [hy]
        gcongr
        exact lt_of_not_ge hunit
    rw [f.round_eq ha hb hq (n := m), ← hsum, min_eq_left hinf.le]
    rw [hquot, abs_lt, abs_le]
    rcases h with h | h
    · left
      constructor <;> linarith
    · right
      exact ⟨by constructor <;> linarith, h.1⟩
  · -- Just below a power of two the last bit is half as long, and there is a carry.
    obtain ⟨hless, hne⟩ := not_or.mp hplain
    have hlt : -(f.least : ℤ) < q := by omega
    have hmunit : m = f.unit := by
      have hcast : (m : ℚ) < f.unit + 1 := by linarith
      have hm' : m < f.unit + 1 := by exact_mod_cast hcast
      have := hnormal.resolve_right hne
      omega
    rw [hedge hmunit hlt, hmunit] at hylow
    have hhalf : (2 : ℚ) ^ q = 2 * 2 ^ (q - 1) := by
      rw [zpow_sub_one₀ two_ne_zero]
      field_simp
    have hunit : (1 : ℚ) ≤ f.unit := by exact_mod_cast f.unit_pos
    have hq : f.quantum a b = q - 1 := by
      apply f.quantum_eq ha hb (by omega)
      · rw [hy, hhalf, ← mul_assoc]
        gcongr
        push_cast at hylow
        linarith
      · rw [hy, hhalf, ← mul_assoc, mul_comm y 2]
        gcongr
        exact lt_of_not_ge hless
    have hquot' : (a : ℚ) / b / 2 ^ (q - 1) = 2 * y := by rw [hy, hhalf]; field_simp
    rw [f.round_eq ha hb hq (n := 2 * f.unit)]
    · have hexp : (q + f.least).toNat = (q - 1 + f.least).toNat + 1 := by omega
      rw [hexp, hmunit, Nat.add_mul] at hsum
      omega
    · right
      rw [hquot', abs_le]
      push_cast at hylow ⊢
      refine ⟨⟨by linarith, ?_⟩, by omega⟩
      linarith [lt_of_not_ge hless]

end Format

end Prospectus.Number
