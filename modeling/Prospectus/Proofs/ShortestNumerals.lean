import Prospectus.Proofs.JsonReading
import Prospectus.Proofs.NumeralReading

/-!
# Numerals of floats

The numeral of a finite float is written from its shortest decimal in one of
four layouts, each of which spells the same significand and exponent.  It is
well formed, and it reads back as the same float, zeros of either sign included
(`exists_ofFloat32?`).
-/

namespace Prospectus.Number

/-! ## Digits -/

/-- Digits never make a number smaller. -/
theorem le_ofDigitChars (cs : List Char) (n : Nat) :
    n ≤ Nat.ofDigitChars 10 cs n := by
  rw [Nat.ofDigitChars_eq_ofDigitChars_zero]
  have hpos : 0 < 10 ^ cs.length := Nat.pow_pos (by decide)
  nlinarith

namespace Numeral

/-- No digit is dropped as long as the whole significand is in range. -/
theorem accumulate_eq {cs : List Char} {n : Nat}
    (h : Nat.ofDigitChars 10 cs n ≤ maxSignificand) :
    accumulate n cs = (Nat.ofDigitChars 10 cs n, 0) := by
  induction cs generalizing n with
  | nil => rfl
  | cons c rest ih =>
    rw [Nat.ofDigitChars_cons] at h ⊢
    rw [accumulate, if_pos ((le_ofDigitChars rest _).trans h), ih h]

/-- The significand of a numeral: all its digits. -/
def significand (n : Numeral) : Nat := Nat.ofDigitChars 10 (n.whole ++ n.fraction) 0

/-- The exponent that a numeral writes, zero if it writes none. -/
def writtenExponent (n : Numeral) : ℤ :=
  match n.exponent with
  | none => 0
  | some (negative, digits) =>
    if negative then -(digitsNat digits : ℤ) else digitsNat digits

/-- A numeral is read by scaling its significand. -/
theorem toFloat?_eq {n : Numeral} (hfits : n.significand ≤ maxSignificand)
    (hexponent : n.writtenExponent.natAbs ≤ 1000)
    (hfraction : n.fraction.length ≤ 1000) :
    n.toFloat? = (scale (floatOfNat n.significand) 20 (n.writtenExponent -
        n.fraction.length)).map
      fun y => if n.negative then -y else y := by
  have hsplit : n.significand =
      Nat.ofDigitChars 10 n.fraction (Nat.ofDigitChars 10 n.whole 0) :=
    Nat.ofDigitChars_append 0
  have hwhole : accumulate 0 n.whole = (Nat.ofDigitChars 10 n.whole 0, 0) :=
    accumulate_eq ((le_ofDigitChars n.fraction _).trans (hsplit ▸ hfits))
  have hall : accumulate (Nat.ofDigitChars 10 n.whole 0) n.fraction =
      (n.significand, 0) := by
    rw [hsplit]
    exact accumulate_eq (hsplit ▸ hfits)
  unfold toFloat?
  rw [hwhole]
  dsimp only
  rw [hall]
  dsimp only
  rcases hexp : n.exponent with _ | ⟨negative, digits⟩
  · have hwritten : n.writtenExponent = 0 := by
      unfold writtenExponent
      rw [hexp]
    rw [hwritten, Nat.sub_zero, Nat.cast_zero]
    dsimp only
    cases scale (floatOfNat n.significand) 20 (0 - n.fraction.length) <;> rfl
  · have hwritten : n.writtenExponent = if negative then -(digitsNat digits : ℤ)
      else digitsNat digits := by
      unfold writtenExponent
      rw [hexp]
    have hsmall : digitsNat digits ≤ 1000 := by
      rw [hwritten] at hexponent
      split at hexponent <;> omega
    have hlimit : maxExponent = 0x7FFFFFFF := rfl
    have hclamp : max (-0x80000000) (min 0x7FFFFFFF (if negative = true then
        ((0 : Nat) : ℤ) - (n.fraction.length - 0 : Nat) - digitsNat digits
        else ((0 : Nat) : ℤ) - (n.fraction.length - 0 : Nat) + digitsNat digits)) =
        n.writtenExponent - n.fraction.length := by
      rw [hwritten]
      split <;> omega
    dsimp only
    rw [if_neg (by omega), hclamp]
    cases scale (floatOfNat n.significand) 20
      (n.writtenExponent - n.fraction.length) <;> rfl

/-- A numeral that is not an integer spells the decimal of its significand and
its exponent. -/
structure Spells (n : Numeral) (negative : Bool) (digits : Nat) (e : ℤ) : Prop where
  wellFormed : n.WellFormed
  negative_eq : n.negative = negative
  not_integer : n.isInteger = false
  significand_eq : n.significand = digits
  exponent_eq : n.writtenExponent - n.fraction.length = e
  exponent_le : n.writtenExponent.natAbs ≤ 1000
  fraction_le : n.fraction.length ≤ 1000

/-- A numeral without an exponent. -/
theorem spells_positional (negative : Bool) (whole fraction : List Char)
    (hne : whole ≠ []) (hwhole : ∀ c ∈ whole, c.isDigit)
    (hlead : whole.head? = some '0' → whole.length = 1)
    (hfraction : ∀ c ∈ fraction, c.isDigit) (hpoint : fraction ≠ [])
    (hlength : fraction.length ≤ 1000) :
    Spells { negative, whole, fraction } negative
      (Nat.ofDigitChars 10 (whole ++ fraction) 0)
      (-(fraction.length : ℤ)) where
  wellFormed := ⟨hne, hwhole, hlead, hfraction, by simp⟩
  negative_eq := rfl
  not_integer := by simp [isInteger, hpoint]
  significand_eq := rfl
  exponent_eq := Int.zero_sub _
  exponent_le := Nat.zero_le _
  fraction_le := hlength

/-- A numeral with one digit before its point and an exponent. -/
theorem spells_scientific (negative : Bool) (whole fraction : List Char) {e : ℤ}
    (hone : whole.length = 1) (hwhole : ∀ c ∈ whole, c.isDigit)
    (hfraction : ∀ c ∈ fraction, c.isDigit) (hexponent : e.natAbs ≤ 1000)
    (hlength : fraction.length ≤ 1000) :
    Spells { negative, whole, fraction,
             exponent := some (e < 0, Nat.toDigits 10 e.natAbs) } negative
      (Nat.ofDigitChars 10 (whole ++ fraction) 0) (e - fraction.length) := by
  have hwritten : writtenExponent
      { negative, whole, fraction,
        exponent := some (e < 0, Nat.toDigits 10 e.natAbs) } = e := by
    have hdigits : digitsNat (Nat.toDigits 10 e.natAbs) = e.natAbs :=
      Nat.ofDigitChars_ten_toDigits
    unfold writtenExponent
    dsimp only
    rw [hdigits]
    split
    · rename_i hneg
      rw [decide_eq_true_eq] at hneg
      omega
    · rename_i hnonneg
      rw [decide_eq_true_eq] at hnonneg
      omega
  refine ⟨⟨?_, hwhole, fun _ => hone, hfraction, ?_⟩, rfl, ?_, rfl, ?_, ?_, hlength⟩
  · exact List.ne_nil_of_length_pos (by dsimp only; omega)
  · intro e' he'
    cases he'
    exact ⟨Nat.toDigits_ne_nil, isDigit_of_mem_toDigits⟩
  · simp [isInteger]
  · rw [hwritten]
  · rwa [hwritten]

theorem isDigit_of_mem_zero : ∀ c ∈ ['0'], c.isDigit := @isDigit_of_mem_replicate 1

section Layouts

variable (negative : Bool) {digits : List Char} (hne : digits ≠ [])
  (hchars : ∀ c ∈ digits, c.isDigit) (hhead : digits.head? ≠ some '0')
  (hlength : digits.length ≤ 9)

include hne hchars hhead in
/-- A whole number has one zero after its point. -/
theorem spells_whole (k : Nat) :
    Spells { negative, whole := digits ++ List.replicate k '0',
             fraction := ['0'] } negative
      (Nat.ofDigitChars 10 digits 0 * 10 ^ k * 10) (-1) := by
  have hvalue : Nat.ofDigitChars 10 (digits ++ List.replicate k '0' ++ ['0']) 0 =
      Nat.ofDigitChars 10 digits 0 * 10 ^ k * 10 := by
    rw [Nat.ofDigitChars_append, Nat.ofDigitChars_append,
      Nat.ofDigitChars_replicate_zero, Nat.mul_comm (10 ^ k)]
    exact Nat.mul_comm 10 _
  rw [← hvalue]
  apply spells_positional negative _ ['0'] (by simp [hne]) _ _
    isDigit_of_mem_zero (by decide) (by decide)
  · intro c hc
    rcases List.mem_append.mp hc with hc | hc
    · exact hchars c hc
    · exact isDigit_of_mem_replicate c hc
  · intro hzero
    rw [List.head?_append_of_ne_nil _ hne] at hzero
    exact absurd hzero hhead

include hchars hhead hlength in
/-- The point stands among the digits. -/
theorem spells_split {k : Nat} (hk : 0 < k) (hk' : k < digits.length) :
    Spells { negative, whole := digits.take k, fraction := digits.drop k } negative
      (Nat.ofDigitChars 10 digits 0) (-(digits.length - k : Nat) : ℤ) := by
  have hlead : (digits.take k).head? = some '0' → (digits.take k).length = 1 := by
    rw [List.head?_take, if_neg (by omega)]
    exact fun h => absurd h hhead
  have hspells := spells_positional negative (digits.take k) (digits.drop k)
    (List.ne_nil_of_length_pos (by rw [List.length_take]; omega))
    (fun c hc => hchars c (List.mem_of_mem_take hc)) hlead
    (fun c hc => hchars c (List.mem_of_mem_drop hc))
    (List.ne_nil_of_length_pos (by rw [List.length_drop]; omega))
    (by rw [List.length_drop]; omega)
  rwa [List.take_append_drop, List.length_drop] at hspells

include hne hchars hlength in
/-- Zeros stand between the point and the digits. -/
theorem spells_small {k : Nat} (hk : k ≤ 9) :
    Spells
      { negative, whole := ['0'], fraction := List.replicate k '0' ++ digits }
      negative (Nat.ofDigitChars 10 digits 0) (-(k + digits.length : Nat) : ℤ) := by
  have hspells := spells_positional negative ['0']
    (List.replicate k '0' ++ digits) (by decide)
    isDigit_of_mem_zero (fun _ => rfl) (by
      intro c hc
      rcases List.mem_append.mp hc with hc | hc
      · exact isDigit_of_mem_replicate c hc
      · exact hchars c hc) (by simp [hne])
          (by rw [List.length_append, List.length_replicate]; omega)
  have hvalue : Nat.ofDigitChars 10 (['0'] ++ (List.replicate k '0' ++ digits)) 0 =
      Nat.ofDigitChars 10 digits 0 := by
    rw [Nat.ofDigitChars_append, Nat.ofDigitChars_append,
      Nat.ofDigitChars_replicate_zero]
    rfl
  rwa [hvalue, List.length_append, List.length_replicate] at hspells

include hne hchars hlength in
/-- The point stands after the first digit, and an exponent follows. -/
theorem spells_exponent {e : ℤ} (he : e.natAbs ≤ 1000) :
    Spells ⟨negative, digits.take 1, digits.drop 1,
      some (e < 0, Nat.toDigits 10 e.natAbs)⟩ negative
      (Nat.ofDigitChars 10 digits 0) (e - (digits.length - 1 : Nat)) := by
  have hpos := List.length_pos_iff.mpr hne
  have hspells := spells_scientific negative (digits.take 1) (digits.drop 1)
    (by rw [List.length_take]; omega)
    (fun c hc => hchars c (List.mem_of_mem_take hc))
    (fun c hc => hchars c (List.mem_of_mem_drop hc)) he
    (by rw [List.length_drop]; omega)
  rwa [List.take_append_drop, List.length_drop] at hspells

end Layouts

/-- What is written for a decimal: its digits and its exponent, or a whole
number with one more digit. -/
theorem spells_ofDecimal (negative : Bool) {d : Decimal} (hd : 0 < d.digits)
    (hfew : d.digits < 10 ^ 9) (hexponent : d.exponent.natAbs ≤ 60) :
    Spells (ofDecimal float32Layout negative d) negative d.digits d.exponent ∨
      ∃ k : Nat, d.exponent = k ∧ d.digits * 10 ^ k < 10 ^ 13 ∧
        Spells (ofDecimal float32Layout negative d) negative
          (d.digits * 10 ^ k * 10) (-1) := by
  have hvalue : Nat.ofDigitChars 10 (Nat.toDigits 10 d.digits) 0 = d.digits :=
    Nat.ofDigitChars_ten_toDigits
  have hchars : ∀ c ∈ Nat.toDigits 10 d.digits, c.isDigit := isDigit_of_mem_toDigits
  have hhead := head?_toDigits hd
  have hlength : (Nat.toDigits 10 d.digits).length ≤ 9 :=
    (Nat.length_toDigits_le_iff (by decide) (by decide)).mpr hfew
  have hpos : 0 < (Nat.toDigits 10 d.digits).length := Nat.length_toDigits_pos
  have hbound : d.digits < 10 ^ (Nat.toDigits 10 d.digits).length :=
    (Nat.length_toDigits_le_iff (by decide) hpos).mp le_rfl
  have hne : Nat.toDigits 10 d.digits ≠ [] := Nat.toDigits_ne_nil
  have hhigh : float32Layout.high = 13 := rfl
  have hlow : float32Layout.low = -6 := rfl
  unfold ofDecimal
  dsimp only
  generalize Nat.toDigits 10 d.digits = digits at *
  by_cases hwhole : 0 ≤ d.exponent ∧
      (digits.length : ℤ) + d.exponent ≤ float32Layout.high
  · -- A whole number.
    rw [if_pos hwhole]
    right
    obtain ⟨k, hk⟩ := Int.eq_ofNat_of_zero_le hwhole.1
    refine ⟨k, hk, ?_, ?_⟩
    · calc d.digits * 10 ^ k < 10 ^ digits.length * 10 ^ k :=
        Nat.mul_lt_mul_of_pos_right hbound (by positivity)
        _ = 10 ^ (digits.length + k) := (Nat.pow_add 10 _ _).symm
        _ ≤ 10 ^ 13 := Nat.pow_le_pow_right (by decide) (by omega)
    · rw [hk, Int.toNat_natCast, ← hvalue]
      exact spells_whole negative hne hchars hhead k
  rw [if_neg hwhole]
  left
  by_cases hsplit : 0 < (digits.length : ℤ) + d.exponent ∧
      (digits.length : ℤ) + d.exponent ≤ float32Layout.high
  · rw [if_pos hsplit]
    obtain ⟨k, hk⟩ := Int.eq_ofNat_of_zero_le hsplit.1.le
    have he : d.exponent = -((digits.length - k : Nat) : ℤ) := by omega
    rw [hk, Int.toNat_natCast, he, ← hvalue]
    exact spells_split negative hchars hhead hlength (by omega) (by omega)
  rw [if_neg hsplit]
  by_cases hsmall : float32Layout.low < (digits.length : ℤ) + d.exponent ∧
      (digits.length : ℤ) + d.exponent ≤ 0
  · rw [if_pos hsmall]
    obtain ⟨k, hk⟩ : ∃ k : Nat, (digits.length : ℤ) + d.exponent = -k :=
      ⟨(-(digits.length + d.exponent)).toNat, by omega⟩
    have he : d.exponent = -((k + digits.length : Nat) : ℤ) := by omega
    rw [hk, neg_neg, Int.toNat_natCast, he, ← hvalue]
    exact spells_small negative hne hchars hlength (by omega)
  · rw [if_neg hsmall]
    have he : d.exponent = (digits.length + d.exponent - 1) -
        ((digits.length - 1 : Nat) : ℤ) := by omega
    conv =>
      enter [4]
      rw [he]
    rw [← hvalue]
    exact spells_exponent negative hne hchars hlength (by omega)

/-- A numeral is read as the float that its decimal is. -/
theorem Spells.toFloat32?_eq {n : Numeral} {negative : Bool} {digits : Nat} {e : ℤ}
    (h : Spells n negative digits e) (hfits : digits ≤ maxSignificand) {y : Float}
    (hscale : scale (floatOfNat digits) 20 e = some y) :
    n.toFloat32? = some (narrow (if negative then -y else y)) := by
  have hint : n.toInt? = none := by
    unfold toInt?
    rw [h.not_integer]
    rfl
  unfold toFloat32?
  rw [hint, toFloat?_eq (h.significand_eq ▸ hfits) h.exponent_le h.fraction_le,
    h.significand_eq, h.exponent_eq, hscale, h.negative_eq]
  rfl

theorem toFloat32?_zero : ∀ negative :
    Bool, toFloat32? { negative, whole := ['0'], fraction := ['0'] } =
    some (Float32.ofBits ((if negative then 0x80000000
    else 0) + (0 : Nat).toUInt32)) := by
  decide +kernel

/-- **The numeral of a finite float reads back as the same float**, bit for bit. -/
theorem exists_ofFloat32? {x : Float32}
    (hfinite : x.toBits.toNat % 0x80000000 < binary32.infinity) :
    ∃ n, ofFloat32? x = some n ∧ n.WellFormed ∧ n.toFloat32? = some x := by
  by_cases hzero : x.toBits.toNat % 0x80000000 = 0
  · refine ⟨{ negative := 0x80000000 ≤ x.toBits.toNat, whole := ['0'],
              fraction := ['0'] }, ?_, ?_, ?_⟩
    · unfold ofFloat32?
      dsimp only
      rw [if_neg (by omega), if_pos hzero]
    · exact (spells_positional _ ['0'] ['0'] (by decide) isDigit_of_mem_zero
        (fun _ => rfl)
        isDigit_of_mem_zero (by decide) (by decide)).wellFormed
    · rw [toFloat32?_zero, ← hzero, float32_ofBits_signed hfinite]
  have hpos : 0 < x.toBits.toNat % 0x80000000 := Nat.pos_of_ne_zero hzero
  obtain ⟨hdigits, hfew, hin, -⟩ := Format.shortest_spec hpos
  obtain ⟨hmin, hmax⟩ := Format.exponent_shortest hpos hfinite
  refine ⟨ofDecimal float32Layout (0x80000000 ≤ x.toBits.toNat)
    (binary32.shortest (x.toBits.toNat % 0x80000000)), ?_, ?_⟩
  · unfold ofFloat32?
    dsimp only
    rw [if_neg (by omega), if_neg hzero]
  have hmax : maxSignificand = 0xFFFFFFFFFFFFFFFF := rfl
  rcases spells_ofDecimal (0x80000000 ≤ x.toBits.toNat) hdigits (by omega)
    (by omega) with
    hspells | ⟨k, hk, hsmall, hspells⟩
  · obtain ⟨y, hscale, hread⟩ := exists_reading hpos hfinite
    refine ⟨hspells.wellFormed, ?_⟩
    rw [hspells.toFloat32?_eq (by omega) hscale]
    simpa only [decide_eq_true_eq] using congrArg some hread
  · -- the zero after the point is one more digit than the decimal has
    generalize hshortest : binary32.shortest (x.toBits.toNat % 0x80000000) = d at *
    have hvalue : ((d.digits * 10 ^ k * 10 : Nat) : ℚ) * 10 ^ (-1 : ℤ) =
        (d.digits * 10 ^ k : Nat) := by
      push_cast
      field_simp
    have hwhole : ((d.digits * 10 ^ k : Nat) : ℚ) = d.value := by
      rw [Decimal.value, hk, zpow_natCast]
      push_cast
      rfl
    obtain ⟨y, hscale, hread⟩ :=
      exists_reading_whole hpos hfinite (by positivity) (by omega) (by decide)
      (by omega) hvalue (hshortest ▸ hwhole)
    refine ⟨hspells.wellFormed, ?_⟩
    rw [hspells.toFloat32?_eq (by omega) hscale]
    simpa only [decide_eq_true_eq] using congrArg some hread

end Numeral

end Prospectus.Number
