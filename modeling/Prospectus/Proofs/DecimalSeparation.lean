import Mathlib.Tactic.LinearCombination
import Prospectus.Proofs.ShortestDecimals

/-!
# Decimals keep away from binary fractions

A decimal `n · 10 ^ e` with a significand of at most 24 bits and a fraction
`m · 2 ^ k` with one of at most 25 bits are equal or farther apart than reading
errors go, but for multiples of one power of ten (`eq_or_exceptional_of_near`).

If they were near, then `m / n` or its inverse would be near to a power of five,
but for a power of two.  For every power that matters, a walk along mediants
leads to two adjacent fractions around it: any fraction between them has larger
parts than both, and they are found to be far enough away.  The walks are run in
the kernel.  Where the exponent is small, both numbers have few bits over a
common unit, and are equal if they are near.
-/

namespace Prospectus.Number

/-! ## Neighbouring fractions -/

/-- Two fractions `p / q` and `r / s`, with a number between them. -/
structure Bracket where
  p : Nat
  q : Nat
  r : Nat
  s : Nat

namespace Bracket

/-- The fractions are so near that all fractions between them have larger parts
than both. -/
def Adjacent (x : Bracket) : Prop := x.r * x.q = x.p * x.s + 1

instance (x : Bracket) : Decidable x.Adjacent := inferInstanceAs (Decidable (_ = _))

theorem Adjacent.add_le {x : Bracket} (h : x.Adjacent) {m n : Nat}
    (hlow : x.p * n < m * x.q)
    (hhigh : m * x.s < x.r * n) : x.q + x.s ≤ n ∧ x.p + x.r ≤ m := by
  have hdet : (x.r : ℤ) * x.q = x.p * x.s + 1 := by exact_mod_cast h
  have hlow' : (x.p : ℤ) * n + 1 ≤ m * x.q := by exact_mod_cast hlow
  have hhigh' : (m : ℤ) * x.s + 1 ≤ x.r * n := by exact_mod_cast hhigh
  constructor
  · have hn : (n : ℤ) = x.s * (m * x.q - x.p * n) + x.q * (x.r * n - m * x.s) := by
      linear_combination (-n : ℤ) * hdet
    have : (x.q : ℤ) + x.s ≤ n := by nlinarith
    exact_mod_cast this
  · have hm : (m : ℤ) = x.r * (m * x.q - x.p * n) + x.p * (x.r * n - m * x.s) := by
      linear_combination (-m : ℤ) * hdet
    have : (x.p : ℤ) + x.r ≤ m := by nlinarith
    exact_mod_cast this

/-- Halves the bracket around `a / b` by the mediant of its ends until it is
small enough. -/
def refine (a b : Nat) (stop : Bracket → Bool) : Nat → Bracket → Bracket
  | 0, x => x
  | fuel + 1, x =>
    if stop x then x
    else if (x.p + x.r) * b < (x.q + x.s) * a
      then refine a b stop fuel ⟨x.p + x.r, x.q + x.s, x.r, x.s⟩
    else refine a b stop fuel ⟨x.p, x.q, x.p + x.r, x.q + x.s⟩

end Bracket

/-- The fraction `m / n` is as near to `a / b` as a reading error. -/
def Near (a b m n : Nat) : Prop :=
  (Nat.pow 2 54 - 5) * (n * a) ≤ Nat.pow 2 54 * (m * b) ∧
  Nat.pow 2 54 * (m * b) ≤ (Nat.pow 2 54 + 5) * (n * a)

/-- The ends of the bracket are adjacent, and not near to `a / b`. -/
def Bracket.Separates (x : Bracket) (a b : Nat) : Prop :=
  x.Adjacent ∧ Nat.pow 2 54 * (x.p * b) < (Nat.pow 2 54 - 5) * (x.q * a) ∧
    (Nat.pow 2 54 + 5) * (x.s * a) < Nat.pow 2 54 * (x.r * b)

instance (x : Bracket) (a b : Nat) : Decidable (x.Separates a b) :=
  inferInstanceAs (Decidable (_ ∧ _ ∧ _))

theorem near_of_abs_le {a b m n : Nat} (hb : 0 < b)
    (h : |(m : ℚ) - n * (a / b)| ≤ Format.readingError * (n * (a / b))) :
    Near a b m n := by
  have hbq : (0 : ℚ) < b := by exact_mod_cast hb
  obtain ⟨hlow, hhigh⟩ := abs_le.mp h
  have hscale : (n : ℚ) * a = n * (a / b) * b := by field_simp
  rw [Format.readingError] at hlow hhigh
  constructor
  · have : ((2 ^ 54 - 5 : Nat) : ℚ) * (n * a) ≤ 2 ^ 54 * (m * b) := by
      rw [hscale]
      norm_num at hlow ⊢
      nlinarith
    exact_mod_cast this
  · have : (2 ^ 54 : ℚ) * (m * b) ≤ (2 ^ 54 + 5) * (n * a) := by
      rw [hscale]
      norm_num at hhigh ⊢
      nlinarith
    exact_mod_cast this

/-- A fraction near to `a / b` lies above fractions that are too small to be
near. -/
theorem Near.lt_of_far_below {a b m n p q : Nat} (h : Near a b m n) (hn : 0 < n)
    (hfar : Nat.pow 2 54 * (p * b) < (Nat.pow 2 54 - 5) * (q * a)) :
    p * n < m * q := by
  apply Nat.lt_of_mul_lt_mul_left (a := Nat.pow 2 54 * b)
  calc Nat.pow 2 54 * b * (p * n) = Nat.pow 2 54 * (p * b) * n := by ring
    _ < (Nat.pow 2 54 - 5) * (q * a) * n := Nat.mul_lt_mul_of_pos_right hfar hn
    _ = (Nat.pow 2 54 - 5) * (n * a) * q := by ring
    _ ≤ Nat.pow 2 54 * (m * b) * q := Nat.mul_le_mul_right q h.1
    _ = Nat.pow 2 54 * b * (m * q) := by ring

theorem Near.lt_of_far_above {a b m n r s : Nat} (h : Near a b m n) (hn : 0 < n)
    (hfar : (Nat.pow 2 54 + 5) * (s * a) < Nat.pow 2 54 * (r * b)) :
    m * s < r * n := by
  apply Nat.lt_of_mul_lt_mul_left (a := Nat.pow 2 54 * b)
  calc Nat.pow 2 54 * b * (m * s) = Nat.pow 2 54 * (m * b) * s := by ring
    _ ≤ (Nat.pow 2 54 + 5) * (n * a) * s := Nat.mul_le_mul_right s h.2
    _ = (Nat.pow 2 54 + 5) * (s * a) * n := by ring
    _ < Nat.pow 2 54 * (r * b) * n := Nat.mul_lt_mul_of_pos_right hfar hn
    _ = Nat.pow 2 54 * b * (r * n) := by ring

theorem Bracket.Separates.not_near {x : Bracket} {a b m n : Nat}
    (h : x.Separates a b) (hn : 0 < n)
    (hsmall : n < x.q + x.s ∨ m < x.p + x.r) : ¬Near a b m n := by
  intro hnear
  obtain ⟨hadjacent, hbelow, habove⟩ := h
  obtain ⟨hden, hnum⟩ := hadjacent.add_le (hnear.lt_of_far_below hn hbelow)
    (hnear.lt_of_far_above hn habove)
  omega

/-! ## Powers of five -/

/-- A power of five or its inverse as a fraction, between one and two but for a
power of two. -/
def scaledFive (e : ℤ) : Nat × Nat :=
  if e < 0 then (Nat.pow 2 ((Nat.pow 5 e.natAbs).log2 + 1), Nat.pow 5 e.natAbs)
  else (Nat.pow 5 e.natAbs, Nat.pow 2 (Nat.pow 5 e.natAbs).log2)

/-- The exponent of the power of two that is left out. -/
def scaleOfFive (e : ℤ) : ℤ :=
  if e < 0 then -((Nat.pow 5 e.natAbs).log2 + 1 : Nat)
    else ((Nat.pow 5 e.natAbs).log2 : Nat)

theorem scaledFive_spec (e : ℤ) :
    0 < (scaledFive e).2 ∧
      (10 : ℚ) ^ e = 2 ^ (e + scaleOfFive e) *
        ((scaledFive e).1 / (scaledFive e).2) := by
  have hten : (10 : ℚ) ^ e = 2 ^ e * 5 ^ e := by
    rw [← mul_zpow]
    norm_num
  unfold scaledFive scaleOfFive
  split
  · rename_i hneg
    obtain ⟨n, rfl⟩ : ∃ n : Nat, e = -n := ⟨e.natAbs, by omega⟩
    rw [Int.natAbs_neg, Int.natAbs_natCast]
    refine ⟨Nat.pow_pos (by decide), ?_⟩
    rw [hten, zpow_add₀ two_ne_zero, zpow_neg 5, zpow_natCast]
    generalize (Nat.pow 5 n).log2 + 1 = l
    change _ = _ * (((2 ^ l : Nat) : ℚ) / (5 ^ n : Nat))
    rw [zpow_neg _ (l : ℤ), zpow_natCast]
    push_cast
    field_simp
  · rename_i hnonneg
    obtain ⟨n, rfl⟩ : ∃ n : Nat, e = n := ⟨e.natAbs, by omega⟩
    rw [Int.natAbs_natCast]
    refine ⟨Nat.pow_pos (by decide), ?_⟩
    rw [hten, zpow_add₀ two_ne_zero, zpow_natCast 5]
    generalize (Nat.pow 5 n).log2 = l
    change _ = _ * (((5 ^ n : Nat) : ℚ) / (2 ^ l : Nat))
    rw [zpow_natCast _ l]
    push_cast
    field_simp

/-- The walks down to the fractions around `a / b` with small parts find them
far away. -/
def Separated (a b : Nat) : Prop :=
  let x := Bracket.refine a b (fun x => Nat.pow 2 24 < x.q + x.s) 1500 ⟨0, 1, 1, 0⟩
  let y := Bracket.refine (2 * a) b (fun y => Nat.pow 2 25 ≤ y.p + y.r) 1500
    ⟨0, 1, 1, 0⟩
  x.Separates a b ∧ Nat.pow 2 24 < x.q + x.s ∧ y.Separates (2 * a) b ∧
  Nat.pow 2 25 ≤ y.p + y.r

instance (a b : Nat) : Decidable (Separated a b) :=
  inferInstanceAs (Decidable (_ ∧ _ ∧ _ ∧ _))

theorem separated_scaledFive_pos :
    ∀ n ∈ List.range' 11 29,
      Separated (scaledFive (.ofNat n)).1 (scaledFive (.ofNat n)).2 := by
  decide +kernel

theorem separated_scaledFive_neg : ∀ n ∈ List.range' 10 46, n ≠ 31 →
    Separated (scaledFive (.negSucc n)).1 (scaledFive (.negSucc n)).2 := by
  decide +kernel

/-- A power of ten that is neither small nor the exceptional one is far from all
binary fractions with short parts. -/
theorem separated_scaledFive {e : ℤ} (hlow : -56 ≤ e) (hhigh : e ≤ 39)
    (hsmall : 10 < e.natAbs)
    (hne : e ≠ -32) : Separated (scaledFive e).1 (scaledFive e).2 := by
  cases e with
  | ofNat n =>
    apply separated_scaledFive_pos
    rw [List.mem_range'_1]
    rw [Int.ofNat_eq_natCast] at hhigh hsmall
    omega
  | negSucc n =>
    apply separated_scaledFive_neg
    · rw [List.mem_range'_1]
      omega
    · omega

/-- A number with a short numerator over a power of two, as a fraction with one
short part. -/
theorem near_or_near {a b m n : Nat} (hb : 0 < b) {s : ℤ}
    (h : |(m : ℚ) * 2 ^ s - n * (a / b)| ≤ Format.readingError * (n * (a / b))) :
    (∃ j : Nat, s = j ∧ Near a b (m * 2 ^ j) n) ∨ ∃ j :
    Nat, s = -1 - j ∧ Near (2 * a) b m (n * 2 ^ j) := by
  rcases le_or_gt 0 s with hs | hs
  · obtain ⟨j, rfl⟩ := Int.eq_ofNat_of_zero_le hs
    left
    refine ⟨j, rfl, near_of_abs_le hb ?_⟩
    push_cast
    rwa [zpow_natCast] at h
  · obtain ⟨j, rfl⟩ : ∃ j : Nat, s = -1 - j := ⟨(-1 - s).toNat, by omega⟩
    right
    refine ⟨j, rfl, near_of_abs_le hb ?_⟩
    have hpos : (0 : ℚ) < 2 ^ (j + 1) := by positivity
    have hscale : (m : ℚ) * 2 ^ (-1 - j : ℤ) * 2 ^ (j + 1) = m := by
      rw [mul_assoc, ← zpow_natCast, ← zpow_add₀ two_ne_zero]
      have hzero : (-1 - j : ℤ) + (j + 1 : Nat) = 0 := by omega
      rw [hzero, zpow_zero, mul_one]
    have hscaled := mul_le_mul_of_nonneg_right h hpos.le
    rw [← abs_of_pos hpos, ← abs_mul, abs_of_pos hpos, sub_mul, hscale] at hscaled
    have hproduct : (n : ℚ) * 2 ^ j * (2 * a / b) =
        n * (a / b) * 2 ^ (j + 1) := by ring
    push_cast
    rwa [hproduct, ← mul_assoc]

/-- A separated fraction is not near to a binary fraction with short parts. -/
theorem Separated.not_near {a b m n : Nat} (h : Separated a b) (hb : 0 < b)
    (hn : 0 < n) (hn' : n ≤ 2 ^ 24) (hm : m < 2 ^ 25) (s : ℤ) :
    ¬|(m : ℚ) * 2 ^ s - n * (a / b)| ≤ Format.readingError * (n * (a / b)) := by
  intro habs
  obtain ⟨hx, hxden, hy, hynum⟩ := h
  rcases near_or_near hb habs with ⟨j, -, hnear⟩ | ⟨j, -, hnear⟩
  · exact hx.not_near hn (Or.inl (hn'.trans_lt hxden)) hnear
  · exact hy.not_near (by positivity) (Or.inr (hm.trans_le hynum)) hnear

/-- Equal fractions are multiples of the one that is adjacent to another. -/
theorem Bracket.Adjacent.exists_multiple {x : Bracket} (h : x.Adjacent)
    {m n : Nat} (hlow : x.p * n < m * x.q)
    (heq : m * x.s = x.r * n) : ∃ c : Nat, 0 < c ∧ m = x.r * c ∧ n = x.s * c := by
  have hdet : (x.r : ℤ) * x.q = x.p * x.s + 1 := by exact_mod_cast h
  have heq' : (m : ℤ) * x.s = x.r * n := by exact_mod_cast heq
  have hc : ((m * x.q - x.p * n : Nat) : ℤ) = m * x.q - x.p * n := by
    rw [Nat.cast_sub hlow.le]
    push_cast
    rfl
  refine ⟨m * x.q - x.p * n, Nat.sub_pos_of_lt hlow, ?_, ?_⟩
  · have : (m : ℤ) = x.r * (m * x.q - x.p * n : Nat) := by
      rw [hc]
      linear_combination (-m : ℤ) * hdet - (x.p : ℤ) * heq'
    exact_mod_cast this
  · have : (n : ℤ) = x.s * (m * x.q - x.p * n : Nat) := by
      rw [hc]
      linear_combination (-n : ℤ) * hdet - (x.q : ℤ) * heq'
    exact_mod_cast this

/-- Between the first and the last of three successive fractions, only the
middle one has short parts. -/
theorem exists_multiple_of_near {x : Bracket} {a b m n t u : Nat} (hx : x.Adjacent)
    (hy : (Bracket.mk x.r x.s t u).Adjacent) (hn : 0 < n) (hnear : Near a b m n)
    (hbelow : Nat.pow 2 54 * (x.p * b) < (Nat.pow 2 54 - 5) * (x.q * a))
    (habove : (Nat.pow 2 54 + 5) * (u * a) < Nat.pow 2 54 * (t * b))
    (hsmall : n < x.q + x.s ∧ n < x.s + u ∨ m < x.p + x.r ∧ m < x.r + t) :
    ∃ c : Nat, 0 < c ∧ m = x.r * c ∧ n = x.s * c := by
  have hlow := hnear.lt_of_far_below hn hbelow
  have hhigh := hnear.lt_of_far_above hn habove
  rcases Nat.lt_trichotomy (m * x.s) (x.r * n) with hless | heq | hmore
  · obtain ⟨hden, hnum⟩ := hx.add_le hlow hless
    omega
  · exact hx.exists_multiple hlow heq
  · obtain ⟨hden, hnum⟩ := hy.add_le hmore hhigh
    dsimp only at hden hnum
    omega

/-- The one power of ten with a binary fraction near to a short multiple of it. -/
theorem exceptional_of_near {m n : Nat} {s : ℤ} (hn : 0 < n) (hn' : n ≤ 2 ^ 24)
    (hm : m < 2 ^ 25)
    (h : |(m : ℚ) * 2 ^ s - n * ((scaledFive (-32)).1 / (scaledFive (-32)).2)| ≤
      Format.readingError * (n * ((scaledFive (-32)).1 / (scaledFive (-32)).2))) :
    m = 22841339 ∧ (s = 0 ∨ s = -1) := by
  rcases near_or_near (scaledFive_spec (-32)).1 h with ⟨j, rfl, hnear⟩ |
    ⟨j, rfl, hnear⟩
  · obtain ⟨c, hc, hnum, hden⟩ :=
      exists_multiple_of_near (x := ⟨7247799, 4466801, 22841339, 14077062⟩)
      (t := 15593540) (u := 9610261) (by decide)
      (by decide) hn hnear (by decide +kernel) (by decide +kernel)
      (Or.inl (by dsimp only; omega))
    dsimp only at hnum hden
    obtain rfl : c = 1 := by omega
    -- The numerator is odd, so there is no power of two in it.
    cases j with
    | zero => exact ⟨by omega, Or.inl rfl⟩
    | succ j =>
      rw [Nat.pow_succ, ← Nat.mul_assoc] at hnum
      omega
  · obtain ⟨c, hc, hnum, hden⟩ :=
      exists_multiple_of_near (x := ⟨14495598, 4466801, 22841339, 7038531⟩)
      (t := 31187080) (u := 9610261) (by decide) (by decide)
      (by positivity) hnear (by decide +kernel)
      (by decide +kernel) (Or.inr (by dsimp only; omega))
    dsimp only at hnum hden
    obtain rfl : c = 1 := by omega
    cases j with
    | zero => exact ⟨by omega, Or.inr rfl⟩
    | succ j =>
      rw [Nat.pow_succ, ← Nat.mul_assoc] at hden
      omega

/-! ## Short powers of ten -/

/-- Being near does not depend on the unit. -/
theorem abs_sub_le_of_scaled {x y c : ℚ} (hc : 0 < c)
    (h : |x * c - y * c| ≤ Format.readingError * (y * c)) :
    |x - y| ≤ Format.readingError * y := by
  rw [← sub_mul, abs_mul, abs_of_pos hc, ← mul_assoc] at h
  exact le_of_mul_le_mul_right h hc

/-- Two natural numbers that are near are equal if one has at most 49 bits. -/
theorem nat_eq_of_near {x y : Nat} (hsmall : x < 2 ^ 49 ∨ y < 2 ^ 49)
    (h : |(x : ℚ) - y| ≤ Format.readingError * y) : x = y := by
  obtain ⟨hlow, hhigh⟩ := abs_le.mp h
  rw [Format.readingError] at hlow hhigh
  have hy : (y : ℚ) < 2 ^ 50 := by
    rcases hsmall with hx | hy
    · have hxq : (x : ℚ) < 2 ^ 49 := by exact_mod_cast hx
      linarith
    · have hyq : (y : ℚ) < 2 ^ 49 := by exact_mod_cast hy
      linarith
  have hless : (x : ℚ) < y + 1 := by linarith
  have hmore : (y : ℚ) < x + 1 := by linarith
  have hless' : x < y + 1 := by exact_mod_cast hless
  have hmore' : y < x + 1 := by exact_mod_cast hmore
  omega

/-- Two binary fractions with numerators of 49 bits that are near are equal. -/
theorem dyadic_eq_of_near {x y : Nat} {i j : ℤ} (hx : x < 2 ^ 49) (hy : y < 2 ^ 49)
    (h : |(x : ℚ) * 2 ^ i - y * 2 ^ j| ≤ Format.readingError * (y * 2 ^ j)) :
    (x : ℚ) * 2 ^ i = y * 2 ^ j := by
  rcases le_total j i with hle | hle
  · obtain ⟨d, rfl⟩ : ∃ d : Nat, i = d + j := ⟨(i - j).toNat, by omega⟩
    have hx' : (x : ℚ) * 2 ^ (d + j : ℤ) = (x * 2 ^ d : Nat) * 2 ^ j := by
      rw [zpow_add₀ two_ne_zero, zpow_natCast]
      push_cast
      ring
    rw [hx'] at h ⊢
    rw [nat_eq_of_near (Or.inr hy) (abs_sub_le_of_scaled (by positivity) h)]
  · obtain ⟨d, rfl⟩ : ∃ d : Nat, j = d + i := ⟨(j - i).toNat, by omega⟩
    have hy' : (y : ℚ) * 2 ^ (d + i : ℤ) = (y * 2 ^ d : Nat) * 2 ^ i := by
      rw [zpow_add₀ two_ne_zero, zpow_natCast]
      push_cast
      ring
    rw [hy'] at h ⊢
    rw [← nat_eq_of_near (Or.inl hx) (abs_sub_le_of_scaled (by positivity) h)]

/-- A short decimal with a small exponent is equal to a binary fraction near to
it. -/
theorem eq_of_near_of_small {m n : Nat} {k e : ℤ} (hn : n ≤ 2 ^ 24)
    (hm : m < 2 ^ 25) (he : e.natAbs ≤ 10)
    (h : |(m : ℚ) * 2 ^ k - n * 10 ^ e| ≤ Format.readingError * (n * 10 ^ e)) :
    (m : ℚ) * 2 ^ k = n * 10 ^ e := by
  have hten : (10 : ℚ) ^ e = 2 ^ e * 5 ^ e := by
    rw [← mul_zpow]
    norm_num
  have hfive : 5 ^ e.natAbs < 2 ^ 24 := by
    calc 5 ^ e.natAbs ≤ 5 ^ 10 := Nat.pow_le_pow_right (by decide) he
      _ < 2 ^ 24 := by decide
  rcases le_total 0 e with hsign | hsign
  · obtain ⟨l, rfl⟩ := Int.eq_ofNat_of_zero_le hsign
    rw [Int.natAbs_natCast] at hfive
    have hdecimal : (n : ℚ) * 10 ^ (l : ℤ) = (n * 5 ^ l : Nat) * 2 ^ (l : ℤ) := by
      rw [hten, zpow_natCast 5]
      push_cast
      ring
    rw [hdecimal] at h ⊢
    exact dyadic_eq_of_near (by omega) (by nlinarith) h
  · obtain ⟨l, rfl⟩ : ∃ l : Nat, e = -l := ⟨e.natAbs, by omega⟩
    rw [Int.natAbs_neg, Int.natAbs_natCast] at hfive
    have hpos : (0 : ℚ) < 5 ^ (-l : ℤ) := by positivity
    have hbinary : (m : ℚ) * 2 ^ k = (m * 5 ^ l : Nat) * 2 ^ k * 5 ^ (-l : ℤ) := by
      rw [zpow_neg, zpow_natCast]
      push_cast
      field_simp
    have hdecimal : (n : ℚ) * 10 ^ (-l : ℤ) = n * 2 ^ (-l : ℤ) * 5 ^ (-l : ℤ) := by
      rw [hten]
      ring
    rw [hbinary, hdecimal] at h ⊢
    rw [dyadic_eq_of_near (by nlinarith) (by omega) (abs_sub_le_of_scaled hpos h)]

/-- **A decimal with a short significand is far from a binary fraction with a
short significand**, unless both are equal, or the binary fraction is one of two
exceptional ones. -/
theorem eq_or_exceptional_of_near {m n : Nat} {k e : ℤ} (hn : 0 < n)
    (hn' : n ≤ 2 ^ 24) (hm : m < 2 ^ 25) (hlow : -56 ≤ e) (hhigh : e ≤ 39)
    (h : |(m : ℚ) * 2 ^ k - n * 10 ^ e| ≤ Format.readingError * (n * 10 ^ e)) :
    (m : ℚ) * 2 ^ k = n * 10 ^ e ∧ e.natAbs ≤ 10 ∨ m = 22841339 ∧
    (k = -107 ∨ k = -108) := by
  by_cases hsmall : e.natAbs ≤ 10
  · exact Or.inl ⟨eq_of_near_of_small hn' hm hsmall h, hsmall⟩
  obtain ⟨hb, hten⟩ := scaledFive_spec e
  have hscaled : |(m : ℚ) * 2 ^ (k - (e + scaleOfFive e)) - n *
      ((scaledFive e).1 / (scaledFive e).2)| ≤
      Format.readingError * (n * ((scaledFive e).1 / (scaledFive e).2)) := by
    have hpos : (0 : ℚ) < 2 ^ (e + scaleOfFive e) := by positivity
    apply abs_sub_le_of_scaled hpos
    rw [mul_assoc, ← zpow_add₀ two_ne_zero, sub_add_cancel, mul_assoc,
      mul_comm (_ / _), ← hten]
    exact h
  by_cases hexcept : e = -32
  · subst hexcept
    obtain ⟨hm, hs⟩ := exceptional_of_near hn hn' hm hscaled
    have hscale : scaleOfFive (-32) = -75 := by decide +kernel
    rw [hscale] at hs
    exact Or.inr ⟨hm, by omega⟩
  · exact absurd hscaled
      ((separated_scaledFive hlow hhigh (by omega) hexcept).not_near hb hn hn' hm _)

end Prospectus.Number
