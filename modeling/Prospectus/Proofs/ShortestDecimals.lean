import Prospectus.Proofs.Rounding

/-!
# The shortest decimal of a float

`Format.shortest` looks for a multiple of a power of ten in the interval of a
float, from coarse grids to fine ones.  The decimal that it finds lies in the
interval and has at most nine digits.
-/

namespace Prospectus.Number

/-- The number of a decimal. -/
def Decimal.value (d : Decimal) : ℚ := d.digits * 10 ^ d.exponent

/-! ## One grid -/

/-- A power of ten is the fraction of its two parts. -/
theorem powerOfTen_spec (e : ℤ) :
    0 < (powerOfTen e).1 ∧ 0 < (powerOfTen e).2 ∧
      ((powerOfTen e).1 : ℚ) / (powerOfTen e).2 = 10 ^ e := by
  cases e with
  | ofNat k =>
    refine ⟨Nat.pow_pos (by decide), one_pos, ?_⟩
    change ((10 ^ k : Nat) : ℚ) / (1 : Nat) = 10 ^ (Int.ofNat k)
    rw [Int.ofNat_eq_natCast, zpow_natCast]
    push_cast
    rw [div_one]
  | negSucc k =>
    refine ⟨one_pos, Nat.pow_pos (by decide), ?_⟩
    change ((1 : Nat) : ℚ) / (10 ^ (k + 1) : Nat) = _
    rw [zpow_negSucc]
    push_cast
    rw [one_div]

namespace Format

variable {f : Format} {bits : Nat}

/-- What the search on one grid finds.  The number of the float lies between the
multiples `n` and `n + 1`.  A decimal that is found is one of the two that lies
in the interval, and the nearer one if both do; if none is found, neither does. -/
theorem onGrid?_cases (hbits : 0 < bits) (e : ℤ) :
    ∃ (n : Nat) (t : ℚ), 0 ≤ t ∧ t < 1 ∧ f.value bits = (n + t) * 10 ^ e ∧
      ((∃ k : Nat, (f.interval bits).onGrid? e = some ⟨k, e⟩ ∧ 0 < k ∧
          f.Encloses bits (k * 10 ^ e) ∧
          (k = n ∧ (t ≤ 1 / 2 ∨ ¬f.Encloses bits ((n + 1 : Nat) * 10 ^ e)) ∨
            k = n + 1 ∧ (1 / 2 ≤ t ∨ ¬(f.Encloses bits (n * 10 ^ e) ∧ 0 < n)))) ∨
        (f.interval bits).onGrid? e = none ∧
          ¬f.Encloses bits ((n + 1 : Nat) * 10 ^ e) ∧
          ¬(f.Encloses bits (n * 10 ^ e) ∧ 0 < n)) := by
  obtain ⟨hscale, -, hvalue, -, -⟩ := f.interval_spec hbits
  obtain ⟨hp, hr, hten⟩ := powerOfTen_spec e
  rcases hpower : powerOfTen e with ⟨p, r⟩
  rw [hpower] at hp hr hten
  dsimp only at hp hr hten
  have hdecide : ∀ n : Nat, (f.interval bits).holds (n * p) r = true ↔
      f.Encloses bits (n * 10 ^ e) := by
    intro n
    rw [f.holds_iff hbits _ hr, ← hten]
    push_cast
    rw [mul_div_assoc]
  have hunit : 0 < (f.interval bits).scale * p := Nat.mul_pos hscale hp
  have hlt : (f.interval bits).value * r % ((f.interval bits).scale * p) <
      (f.interval bits).scale * p :=
    Nat.mod_lt _ hunit
  have hmiddle : f.value bits =
      (((f.interval bits).value * r / ((f.interval bits).scale * p) : Nat) +
      (((f.interval bits).value * r % ((f.interval bits).scale * p) : Nat) : ℚ) /
        ((f.interval bits).scale * p : Nat)) * 10 ^ e := by
    rw [← fraction_eq _ hunit, ← hvalue, ← hten]
    push_cast
    field_simp
  unfold Interval.onGrid?
  rw [hpower]
  dsimp only
  generalize (f.interval bits).value * r % ((f.interval bits).scale * p) = rest at *
  generalize (f.interval bits).value * r / ((f.interval bits).scale * p) = n at *
  generalize (f.interval bits).scale * p = unit at *
  have hunitq : (0 : ℚ) < unit := by exact_mod_cast hunit
  have hlower : ((f.interval bits).holds (n * p) r && decide (0 < n)) = true ↔
      f.Encloses bits (n * 10 ^ e) ∧ 0 < n := by
    rw [Bool.and_eq_true, hdecide, decide_eq_true_eq]
  have hupper := hdecide (n + 1)
  refine ⟨n, rest / unit, by positivity, ?_, hmiddle, ?_⟩
  · rw [div_lt_one hunitq]
    exact_mod_cast hlt
  by_cases hlow : f.Encloses bits (n * 10 ^ e) ∧ 0 < n <;>
    by_cases hup : f.Encloses bits ((n + 1 : Nat) * 10 ^ e)
  · rw [if_pos (by rw [Bool.and_eq_true, hlower, hupper]; exact ⟨hlow, hup⟩)]
    left
    split
    · rename_i hmore
      simp only [Bool.or_eq_true, Bool.and_eq_true, decide_eq_true_eq] at hmore
      refine ⟨n + 1, rfl, Nat.succ_pos n, hup, Or.inr ⟨rfl, Or.inl ?_⟩⟩
      rw [div_le_div_iff₀ two_pos hunitq]
      exact_mod_cast (by omega : 1 * unit ≤ rest * 2)
    · rename_i hless
      simp only [Bool.or_eq_true, Bool.and_eq_true, decide_eq_true_eq] at hless
      refine ⟨n, rfl, hlow.2, hlow.1, Or.inl ⟨rfl, Or.inl ?_⟩⟩
      rw [div_le_div_iff₀ hunitq two_pos]
      exact_mod_cast (by omega : rest * 2 ≤ 1 * unit)
  · rw [if_neg (by rw [Bool.and_eq_true, hlower, hupper]; exact fun h => hup h.2),
      if_pos (hlower.mpr hlow)]
    exact Or.inl ⟨n, rfl, hlow.2, hlow.1, Or.inl ⟨rfl, Or.inr hup⟩⟩
  · rw [if_neg (by rw [Bool.and_eq_true, hlower, hupper]; exact fun h => hlow h.1),
      if_neg (mt hlower.mp hlow), if_pos (hupper.mpr hup)]
    exact Or.inl ⟨n + 1, rfl, Nat.succ_pos n, hup, Or.inr ⟨rfl, Or.inr hlow⟩⟩
  · rw [if_neg (by rw [Bool.and_eq_true, hlower, hupper]; exact fun h => hlow h.1),
      if_neg (mt hlower.mp hlow), if_neg (mt hupper.mp hup)]
    exact Or.inr ⟨rfl, hup, hlow⟩

/-- The last bit of a float as a number. -/
def lastBit (f : Format) (bits : Nat) : ℚ := 2 ^ (f.parts bits).2

theorem lastBit_pos (f : Format) (bits : Nat) : 0 < f.lastBit bits := by
  unfold lastBit
  positivity

theorem value_eq : f.value bits = (f.parts bits).1 * f.lastBit bits := rfl

theorem lastBit_le_value (hbits : 0 < bits) : f.lastBit bits ≤ f.value bits := by
  obtain ⟨-, hm, -⟩ := f.parts_spec hbits
  have hone : (1 : ℚ) ≤ (f.parts bits).1 := by exact_mod_cast hm
  have hpos := f.lastBit_pos bits
  rw [value_eq]
  nlinarith

theorem lowEnd_eq (hbits : 0 < bits) :
    f.lowEnd bits = f.value bits - f.below bits / 4 * f.lastBit bits := by
  rw [(f.interval_spec hbits).2.1, value_eq, lastBit]
  ring

theorem highEnd_eq (hbits : 0 < bits) :
    f.highEnd bits = f.value bits + f.lastBit bits / 2 := by
  rw [(f.interval_spec hbits).2.2.2.1, value_eq, lastBit]
  ring

/-- A grid is fine for a float if each number that is as near to it as a grid
point can be rounds to it. -/
def FineGrid (f : Format) (bits : Nat) (g : ℚ) : Prop :=
  g < f.below bits / 2 * f.lastBit bits ∨ (f.parts bits).1 % 2 = 0 ∧
  g ≤ f.below bits / 2 * f.lastBit bits

theorem FineGrid.le {g : ℚ} (h : f.FineGrid bits g) :
    g ≤ f.below bits / 2 * f.lastBit bits :=
  h.elim le_of_lt And.right

theorem FineGrid.le_value {g : ℚ} (h : f.FineGrid bits g) (hbits : 0 < bits) :
    g ≤ f.value bits := by
  have hle := h.le
  have hbelow := f.below_le bits
  have hpos := f.lastBit_pos bits
  have hvalue := f.lastBit_le_value hbits
  nlinarith

theorem FineGrid.encloses {g x : ℚ} (h : f.FineGrid bits g) (hbits : 0 < bits)
    (hx : |x - f.value bits| ≤ g / 2) : f.Encloses bits x := by
  have hbelow := f.below_le bits
  have hpos := f.lastBit_pos bits
  obtain ⟨hlow, hhigh⟩ := abs_le.mp hx
  rw [Encloses, lowEnd_eq hbits, highEnd_eq hbits]
  rcases h with hlt | ⟨heven, hle⟩
  · left
    constructor <;> nlinarith
  · right
    refine ⟨heven, ?_, ?_⟩ <;> nlinarith

/-- A decimal found on a grid is positive and in the interval. -/
theorem encloses_of_onGrid? (hbits : 0 < bits) {e : ℤ} {d : Decimal}
    (hd : (f.interval bits).onGrid? e = some d) :
    d.exponent = e ∧ 0 < d.digits ∧ f.Encloses bits d.value := by
  obtain ⟨n, t, -, -, -, ⟨k, hk, hpos, hin, -⟩ | ⟨hnone, -⟩⟩ :=
    f.onGrid?_cases hbits e
  · rw [hk] at hd
    cases hd
    exact ⟨rfl, hpos, hin⟩
  · rw [hnone] at hd
    cases hd

/-- On a fine grid the nearest point to the number of the float is found. -/
theorem FineGrid.near {e : ℤ} (h : f.FineGrid bits (10 ^ e)) (hbits : 0 < bits) :
    ∃ d, (f.interval bits).onGrid? e = some d ∧
      |d.value - f.value bits| ≤ 10 ^ e / 2 := by
  obtain ⟨n, t, ht₀, ht₁, hvalue, hcases⟩ := f.onGrid?_cases hbits e
  have hgrid : (0 : ℚ) < 10 ^ e := by positivity
  -- The nearer of the two neighbours lies in the interval.
  have hdown : t ≤ 1 / 2 → |(n : ℚ) * 10 ^ e - f.value bits| ≤ 10 ^ e / 2 := by
    intro ht
    rw [hvalue, abs_le]
    constructor <;> nlinarith
  have hup : 1 / 2 ≤ t →
      |((n + 1 : Nat) : ℚ) * 10 ^ e - f.value bits| ≤ 10 ^ e / 2 := by
    intro ht
    rw [hvalue, abs_le]
    push_cast
    constructor <;> nlinarith
  have hn : 0 < n := by
    by_contra hzero
    obtain rfl : n = 0 := by omega
    have hle := h.le_value hbits
    rw [hvalue] at hle
    push_cast at hle
    nlinarith
  rcases hcases with ⟨k, hk, -, -, hchoice⟩ | ⟨-, hnotUp, hnotDown⟩
  · refine ⟨⟨k, e⟩, hk, ?_⟩
    rcases hchoice with ⟨rfl, hside⟩ | ⟨rfl, hside⟩
    · apply hdown
      rcases hside with ht | hnotUp
      · exact ht
      · by_contra hlt
        exact hnotUp (h.encloses hbits (hup (by linarith)))
    · apply hup
      rcases hside with ht | hnotDown
      · exact ht
      · by_contra hlt
        exact hnotDown ⟨h.encloses hbits (hdown (by linarith)), hn⟩
  · exfalso
    rcases le_total t (1 / 2) with ht | ht
    · exact hnotDown ⟨h.encloses hbits (hdown ht), hn⟩
    · exact hnotUp (h.encloses hbits (hup ht))

end Format

/-! ## From grid to grid -/

/-- The search ends on a grid that meets the interval while the grid before it
did not. -/
theorem Interval.coarsest_spec (i : Interval) (fuel : Nat) (e : ℤ)
    (hnone : i.onGrid? e = none)
    (hsome : ∃ j : Nat, j < fuel ∧ (i.onGrid? (e - j)).isSome) :
    ∃ e', i.onGrid? e' = some (i.coarsest fuel e) ∧ i.onGrid? (e' + 1) = none := by
  induction fuel generalizing e with
  | zero =>
    obtain ⟨j, hj, -⟩ := hsome
    omega
  | succ fuel ih =>
    have hstep : i.coarsest (fuel + 1) e = i.coarsest fuel (e - 1) := by
      rw [coarsest, hnone, Option.getD_none]
    obtain ⟨j, hj, hat⟩ := hsome
    have hlater : 1 ≤ j := by
      by_contra hzero
      obtain rfl : j = 0 := by omega
      rw [Nat.cast_zero, sub_zero, hnone] at hat
      cases hat
    rw [hstep]
    cases hnext : i.onGrid? (e - 1) with
    | some d =>
      obtain ⟨fuel, rfl⟩ : ∃ k, fuel = k + 1 := ⟨fuel - 1, by omega⟩
      refine ⟨e - 1, ?_, by rwa [sub_add_cancel]⟩
      rw [coarsest, hnext, Option.getD_some]
    | none =>
      apply ih (e - 1) hnext
      refine ⟨j - 1, by omega, ?_⟩
      have hsame : e - 1 - ((j - 1 : Nat) : ℤ) = e - j := by omega
      rwa [hsame]

/-- Taking zeros off the end does not change the number. -/
theorem Decimal.stripZeros_spec (fuel : Nat) (d : Decimal) (hd : 0 < d.digits) :
    (d.stripZeros fuel).value = d.value ∧ 0 < (d.stripZeros fuel).digits ∧
      (d.stripZeros fuel).digits ≤ d.digits := by
  induction fuel generalizing d with
  | zero => exact ⟨rfl, hd, le_rfl⟩
  | succ fuel ih =>
    rw [stripZeros]
    split
    · rename_i hzero
      obtain ⟨hvalue, hpos, hle⟩ :=
        ih ⟨d.digits / 10, d.exponent + 1⟩ (by dsimp only; omega)
      dsimp only at hle
      refine ⟨?_, hpos, by omega⟩
      have hten : ((d.digits / 10 * 10 : Nat) : ℚ) = d.digits := by
        exact_mod_cast (by omega : d.digits / 10 * 10 = d.digits)
      rw [hvalue, value, value, zpow_add_one₀ (by norm_num), ← hten]
      push_cast
      ring
    · exact ⟨rfl, hd, le_rfl⟩

/-! ## The 32-bit format -/

namespace Format

variable {bits : Nat}

/-- The relative error that reading a decimal stays below. -/
def readingError : ℚ := 5 / 2 ^ 54

/-- A number lies so far inside of the interval that a reading error does not
lead out of it. -/
def Tolerates (f : Format) (bits : Nat) (x : ℚ) : Prop :=
  f.lowEnd bits < x * (1 - readingError) ∧ x * (1 + readingError) < f.highEnd bits

/-- The interval reaches down by half a last bit, and by a quarter below a power
of two. -/
theorem below_cases (hbits : 0 < bits) :
    binary32.below bits = 2 ∧ (binary32.parts bits).1 + 1 ≤ 2 ^ 24 ∨
      binary32.below bits = 1 ∧ (binary32.parts bits).1 = 2 ^ 23 := by
  obtain ⟨-, -, hmax, -⟩ := binary32.parts_spec hbits
  change _ < 2 * 2 ^ 23 at hmax
  unfold below
  split
  · rename_i hedge
    exact Or.inr ⟨rfl, hedge.1⟩
  · exact Or.inl ⟨rfl, by omega⟩

/-- No 32-bit float has a last bit below the format's. -/
theorem le_lastBit (hbits : 0 < bits) :
    (2 : ℚ) ^ (-149 : ℤ) ≤ binary32.lastBit bits := by
  obtain ⟨-, -, -, hleast, -⟩ := binary32.parts_spec hbits
  exact zpow_le_zpow_right₀ one_le_two hleast

/-- The grid from which the search starts is too coarse. -/
theorem onGrid?_top (hbits : 0 < bits) :
    (binary32.interval bits).onGrid?
      (((binary32.interval bits).high / (binary32.interval bits).scale +
        1).log2 / 3 + 1 : Nat) = none := by
  obtain ⟨hscale, -⟩ := binary32.interval_spec hbits
  have hhigh : binary32.highEnd bits <
      ((binary32.interval bits).high / (binary32.interval bits).scale +
        1 : Nat) := by
    unfold highEnd
    rw [div_lt_iff₀ (by exact_mod_cast hscale)]
    exact_mod_cast Nat.lt_mul_of_div_lt (Nat.lt_succ_self _) hscale
  generalize (binary32.interval bits).high / (binary32.interval bits).scale +
    1 = h at *
  have hpower : h < 10 ^ (h.log2 / 3 + 1) := by
    calc h < 2 ^ (h.log2 + 1) := Nat.lt_log2_self
      _ ≤ 2 ^ (3 * (h.log2 / 3 + 1)) := Nat.pow_le_pow_right (by decide) (by omega)
      _ = 8 ^ (h.log2 / 3 + 1) := Nat.pow_mul 2 3 _
      _ ≤ 10 ^ (h.log2 / 3 + 1) := Nat.pow_le_pow_left (by decide) _
  cases hfound : (binary32.interval bits).onGrid? ((h.log2 / 3 + 1 : Nat) : ℤ) with
  | none => rfl
  | some d =>
    obtain ⟨hexp, hpos, hin⟩ := binary32.encloses_of_onGrid? hbits hfound
    have hle := hin.le_highEnd
    rw [Decimal.value, hexp, zpow_natCast] at hle
    have hone : (1 : ℚ) ≤ d.digits := by exact_mod_cast hpos
    have hpowerq : (h : ℚ) < 10 ^ (h.log2 / 3 + 1) := by exact_mod_cast hpower
    nlinarith

/-- A grid that is not fine is coarser than half of the last bit. -/
theorem lastBit_le_of_not_fineGrid (hbits : 0 < bits) {g : ℚ}
    (h : ¬binary32.FineGrid bits g) :
    binary32.lastBit bits ≤ 2 * g := by
  have hge := le_of_not_gt fun hlt => h (Or.inl hlt)
  have hpos := binary32.lastBit_pos bits
  rcases below_cases hbits with ⟨hbelow, -⟩ | ⟨hbelow, -⟩
  · rw [hbelow] at hge
    push_cast at hge
    linarith
  · rw [hbelow] at hge
    push_cast at hge
    linarith

/-- The search finds a decimal on a grid that is not much finer than the last
bit. -/
theorem exists_coarsest (hbits : 0 < bits) :
    ∃ d : Decimal, binary32.shortest bits = d.stripZeros 400 ∧ 0 < d.digits ∧
      binary32.Encloses bits d.value ∧
      binary32.lastBit bits ≤ 20 * 10 ^ d.exponent ∧
      (binary32.FineGrid bits (10 ^ d.exponent) →
        |d.value - binary32.value bits| ≤ 10 ^ d.exponent / 2) := by
  have htop := onGrid?_top hbits
  unfold shortest
  dsimp only
  generalize ((binary32.interval bits).high / (binary32.interval bits).scale +
    1).log2 / 3 + 1 = top at *
  have hfine : binary32.FineGrid bits (10 ^ (-60 : ℤ)) := by
    by_contra hcoarse
    have hle := lastBit_le_of_not_fineGrid hbits hcoarse
    have hleast := le_lastBit hbits
    norm_num at hle hleast
    linarith
  have hend : ∃ j : Nat, j < top + 400 ∧
      ((binary32.interval bits).onGrid? (top - j)).isSome := by
    refine ⟨top + 60, by omega, ?_⟩
    obtain ⟨d, hd, -⟩ := hfine.near hbits
    have hsame : (top : ℤ) - (top + 60 : Nat) = -60 := by omega
    rw [hsame, hd]
    rfl
  obtain ⟨e, hfound, hbefore⟩ :=
    (binary32.interval bits).coarsest_spec (top + 400) top htop hend
  generalize (binary32.interval bits).coarsest (top + 400) top = d at *
  obtain ⟨hexp, hpos, hin⟩ := encloses_of_onGrid? hbits hfound
  refine ⟨d, rfl, hpos, hin, ?_, ?_⟩
  · have hcoarse : ¬binary32.FineGrid bits (10 ^ (e + 1)) := by
      intro hfine
      obtain ⟨d', hd', -⟩ := hfine.near hbits
      rw [hbefore] at hd'
      cases hd'
    have hle := lastBit_le_of_not_fineGrid hbits hcoarse
    rw [zpow_add_one₀ (by norm_num)] at hle
    rw [hexp]
    linarith
  · rw [hexp]
    intro hfine
    obtain ⟨d', hd', hnear⟩ := hfine.near hbits
    rw [hfound] at hd'
    cases hd'
    exact hnear

/-- A decimal with more digits than the float's significand is nearest to the
float, and far from the ends of the interval. -/
theorem tolerates_of_many_digits (hbits : 0 < bits) {d : Decimal}
    (hdigits : 2 ^ 24 < d.digits) (hin : binary32.Encloses bits d.value)
    (hnear : binary32.FineGrid bits (10 ^ d.exponent) →
      |d.value - binary32.value bits| ≤ 10 ^ d.exponent / 2) :
        binary32.Tolerates bits d.value := by
  have hpos := binary32.lastBit_pos bits
  have hgrid : (0 : ℚ) < 10 ^ d.exponent := by positivity
  have hmany : (2 ^ 24 + 1 : ℚ) ≤ d.digits := by exact_mod_cast hdigits
  have hhigh := hin.le_highEnd
  rw [highEnd_eq hbits, value_eq, Decimal.value] at hhigh
  have hfine : binary32.FineGrid bits (10 ^ d.exponent) := by
    rcases below_cases hbits with ⟨hbelow, hm⟩ | ⟨hbelow, hm⟩
    · left
      have hmq : ((binary32.parts bits).1 : ℚ) + 1 ≤ 2 ^ 24 := by exact_mod_cast hm
      rw [hbelow]
      push_cast
      nlinarith
    · right
      rw [hm, hbelow]
      rw [hm] at hhigh
      push_cast at hhigh ⊢
      refine ⟨by norm_num, ?_⟩
      nlinarith
  obtain ⟨hlow, hup⟩ := abs_le.mp (hnear hfine)
  have hbelow := binary32.below_le bits
  obtain ⟨w, hw⟩ : ∃ w : ℚ, w = binary32.below bits * binary32.lastBit bits :=
    ⟨_, rfl⟩
  have hwidth : w ≤ 2 * binary32.lastBit bits := by
    rw [hw]
    nlinarith
  have hvalue : binary32.value bits ≤ 2 ^ 23 * w := by
    have hm : ((binary32.parts bits).1 : ℚ) ≤ 2 ^ 23 * binary32.below bits := by
      rcases below_cases hbits with ⟨hbelow, hm⟩ | ⟨hbelow, hm⟩
      · rw [hbelow]
        exact_mod_cast (by omega : (binary32.parts bits).1 ≤ 2 ^ 23 * 2)
      · rw [hbelow, hm]
        norm_num
    rw [hw, value_eq]
    nlinarith
  -- With so many digits, the grid is finer than the last bit by more than the
  -- error.
  have hmargin : (2 ^ 24 + 1 / 2 : ℚ) * 10 ^ d.exponent ≤ 2 ^ 23 * w := by
    rw [Decimal.value] at hup
    nlinarith
  rw [Tolerates, lowEnd_eq hbits, highEnd_eq hbits, readingError]
  have hlowEnd : (binary32.below bits : ℚ) / 4 * binary32.lastBit bits = w / 4 := by
    rw [hw]
    ring
  rw [hlowEnd]
  constructor <;> linarith

/-- The shortest decimal of a float. -/
theorem shortest_spec (hbits : 0 < bits) :
    0 < (binary32.shortest bits).digits ∧ (binary32.shortest bits).digits < 2 ^ 29 ∧
      binary32.Encloses bits (binary32.shortest bits).value ∧
      ((binary32.shortest bits).digits ≤ 2 ^ 24 ∨
        binary32.Tolerates bits (binary32.shortest bits).value) := by
  obtain ⟨d, hshortest, hpos, hin, hcoarse, hnear⟩ := exists_coarsest hbits
  obtain ⟨hvalue, hpos', hle⟩ := d.stripZeros_spec 400 hpos
  rw [hshortest, hvalue]
  have hfew : d.digits < 2 ^ 29 := by
    have hgrid : (0 : ℚ) < 10 ^ d.exponent := by positivity
    have hhigh := hin.le_highEnd
    have hm : ((binary32.parts bits).1 : ℚ) + 1 ≤ 2 ^ 24 := by
      rcases below_cases hbits with ⟨-, hm⟩ | ⟨-, hm⟩
      · exact_mod_cast hm
      · rw [hm]
        norm_num
    rw [highEnd_eq hbits, value_eq, Decimal.value] at hhigh
    have hlt : (d.digits : ℚ) * 10 ^ d.exponent < 2 ^ 29 * 10 ^ d.exponent := by
      nlinarith
    exact_mod_cast (mul_lt_mul_iff_left₀ hgrid).mp hlt
  refine ⟨hpos', by omega, hin, ?_⟩
  rcases Nat.lt_or_ge (2 ^ 24) d.digits with hmany | hless
  · exact Or.inr (tolerates_of_many_digits hbits hmany hin hnear)
  · exact Or.inl (hle.trans hless)

end Format

end Prospectus.Number
