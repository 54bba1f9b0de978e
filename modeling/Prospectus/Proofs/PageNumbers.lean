import Prospectus.Proofs.IntegerParts
import Prospectus.Proofs.MomentReading

/-!
# The numbers that tokens stand for

The first numeric token of a line begins with the leftmost block of digits
(`LeftmostBlock`), or with a minus sign right before it.
`firstToken?_of_leftmostBlock` says so.  What is behind the block decides
whether the token goes on: it does if a point and another digit follow
(`DecimalFollows`).

A token without a fraction is read as a 64-bit integer, and as a float only if
it is none.  The two ways are one clamp (`exists_page?_integer`), because floats
do not fall below the end of the range once a number has reached it.  A token
with a fraction is read as a float (`page?_decimal`), and then the integer part
is not always that of the token.
-/

namespace Prospectus.Contents

open Number

/-! ## Characters and blocks -/

/-- The digits from `0` to `9` are digits. -/
theorem isDigit_of_ascii {c : Char} (h : c.isDigit) : Text.isDigit c = true := by
  obtain ⟨hlow, hhigh⟩ := Char.isDigit_iff_toNat.mp h
  rw [Text.isDigit, Text.inRanges, List.any_eq_true]
  exact ⟨(0x30, 0x39), List.mem_cons_self, by simpa using ⟨hlow, hhigh⟩⟩

/-- The leftmost block of digits of a line, with what stands before and after
it. -/
structure LeftmostBlock (line before block after : List Char) : Prop where
  line_eq : line = before ++ (block ++ after)
  before_free : ∀ c ∈ before, Text.isDigit c = false
  nonempty : block ≠ []
  digits : ∀ c ∈ block, Text.isDigit c = true
  maximal : ∀ c ∈ after.head?, Text.isDigit c = false

instance (line before block after : List Char) :
    Decidable (LeftmostBlock line before block after) :=
  decidable_of_iff (line = before ++ (block ++ after) ∧
    before.all (!Text.isDigit ·) ∧ block ≠ [] ∧
      block.all Text.isDigit ∧ after.head?.all (!Text.isDigit ·)) <| by
    simp only [List.all_eq_true, Option.all_eq_true, Bool.not_eq_true']
    exact ⟨fun ⟨h₁, h₂, h₃, h₄, h₅⟩ => ⟨h₁, h₂, h₃, h₄, h₅⟩,
      fun h => ⟨h.1, h.2, h.3, h.4, h.5⟩⟩

/-- A point and a digit follow. -/
def DecimalFollows (after : List Char) : Prop :=
  ∃ c rest, after = '.' :: c :: rest ∧ Text.isDigit c = true

/-- A line with a digit has a leftmost block. -/
theorem exists_leftmostBlock {line : List Char}
    (h : ∃ c ∈ line, Text.isDigit c = true) :
    ∃ before block after, LeftmostBlock line before block after := by
  induction line with
  | nil => simp at h
  | cons c rest ih =>
      by_cases hc : Text.isDigit c = true
      · refine ⟨[], (c :: rest).takeWhile Text.isDigit,
          (c :: rest).dropWhile Text.isDigit, ?_⟩
        refine ⟨(List.takeWhile_append_dropWhile).symm, by simp, ?_, ?_, ?_⟩
        · rw [List.takeWhile_cons_of_pos hc]
          exact List.cons_ne_nil _ _
        · exact List.all_eq_true.mp List.all_takeWhile
        · intro d hd
          have hstop := List.head?_dropWhile_not Text.isDigit (c :: rest)
          rw [Option.mem_def.mp hd] at hstop
          exact hstop
      · obtain ⟨before, block, after, hblock⟩ := ih (by
          obtain ⟨d, hd, hdigit⟩ := h
          rcases List.mem_cons.mp hd with rfl | hrest
          · exact absurd hdigit hc
          · exact ⟨d, hrest, hdigit⟩)
        refine ⟨c :: before, block, after, ?_, ?_, hblock.nonempty,
          hblock.digits, hblock.maximal⟩
        · rw [hblock.line_eq, List.cons_append]
        · exact List.forall_mem_cons.mpr
            ⟨Bool.eq_false_iff.mpr hc, hblock.before_free⟩

/-- What comes before a digit-free rest is taken whole. -/
theorem takeWhile_block {block after : List Char}
    (hdigits : ∀ c ∈ block, Text.isDigit c = true)
    (hmaximal : ∀ c ∈ after.head?, Text.isDigit c = false) :
    (block ++ after).takeWhile Text.isDigit = block ∧
    (block ++ after).dropWhile Text.isDigit = after := by
  rw [List.takeWhile_append_of_pos hdigits, List.dropWhile_append_of_pos hdigits]
  cases after with
  | nil => simp
  | cons c rest =>
      have hc : ¬ Text.isDigit c = true := by simp [hmaximal c rfl]
      rw [List.takeWhile_cons_of_neg hc, List.dropWhile_cons_of_neg hc,
        List.append_nil]
      exact ⟨rfl, rfl⟩

/-! ## The first token -/

/-- A line without digits has no token. -/
theorem firstToken?_eq_none {line : List Char}
    (h : ∀ c ∈ line, Text.isDigit c = false) : firstToken? line = none := by
  induction line with
  | nil => rfl
  | cons c rest ih =>
      have hstart : startsWithDigit rest = false := by
        cases rest with
        | nil => rfl
        | cons d rest => exact h d (by simp)
      simp [firstToken?, hstart, h c List.mem_cons_self,
        ih fun d hd => h d (List.mem_cons_of_mem c hd)]

/-- The first token begins with the first digit, or with a minus sign right
before it. -/
theorem firstToken?_append {before rest : List Char}
    (hbefore : ∀ c ∈ before, Text.isDigit c = false)
    (hrest : startsWithDigit rest = true) :
    firstToken? (before ++ rest) =
      some (.ofDigits (decide (before.getLast? = some '-')) rest) := by
  induction before with
  | nil =>
      cases rest with
      | nil => cases hrest
      | cons c rest =>
          have hc : Text.isDigit c = true := hrest
          have hminus : c ≠ '-' := by
            rintro rfl
            exact absurd hc (by decide)
          simp [firstToken?, hminus, hc]
  | cons b before ih =>
      have ih := ih fun c hc => hbefore c (List.mem_cons_of_mem b hc)
      have hb : Text.isDigit b = false := hbefore b List.mem_cons_self
      cases before with
      | nil =>
          rw [List.nil_append] at ih
          by_cases hminus : b = '-'
          · simp [firstToken?, hminus, hrest]
          · simp [firstToken?, hminus, hb, ih]
      | cons c before =>
          have hstart : startsWithDigit (c :: before ++ rest) = false :=
            hbefore c (by simp)
          rw [List.cons_append, firstToken?, hstart, hb, List.getLast?_cons_cons]
          simpa using ih

/-- **The first token begins with the leftmost block.** -/
theorem firstToken?_of_leftmostBlock {line before block after : List Char}
    (h : LeftmostBlock line before block after) :
    firstToken? line = some (.ofDigits (decide (before.getLast? = some '-'))
      (block ++ after)) := by
  rw [h.line_eq]
  refine firstToken?_append h.before_free ?_
  obtain ⟨c, rest, hblock⟩ := List.exists_cons_of_ne_nil h.nonempty
  rw [hblock]
  exact h.digits c (by simp [hblock])

/-- Without a decimal fraction behind it, the block is all of the token. -/
theorem firstToken?_of_integer {line before block after : List Char}
    (h : LeftmostBlock line before block after) (hafter : ¬ DecimalFollows after) :
    firstToken? line = some ⟨decide (before.getLast? = some '-'), block, []⟩ := by
  obtain ⟨htake, hdrop⟩ := takeWhile_block h.digits h.maximal
  rw [firstToken?_of_leftmostBlock h, NumericToken.ofDigits, htake, hdrop]
  cases after with
  | nil => rfl
  | cons c rest =>
      by_cases hpoint : c = '.'
      · subst hpoint
        cases rest with
        | nil => rfl
        | cons d rest =>
            have hd : ¬ Text.isDigit d = true := fun hd => hafter ⟨d, rest, rfl, hd⟩
            simp [List.takeWhile_cons_of_neg hd]
      · simp [hpoint]

/-- With a decimal fraction behind it, the first token goes on to the end of the
fraction. -/
theorem firstToken?_of_decimal {line before whole fraction after : List Char}
    (h : LeftmostBlock line before whole ('.' :: (fraction ++ after)))
    (hfraction : ∀ c ∈ fraction, Text.isDigit c = true)
    (hafter : ∀ c ∈ after.head?, Text.isDigit c = false) :
    firstToken? line =
      some ⟨decide (before.getLast? = some '-'), whole, fraction⟩ := by
  obtain ⟨htake, hdrop⟩ := takeWhile_block h.digits h.maximal
  rw [firstToken?_of_leftmostBlock h, NumericToken.ofDigits, htake, hdrop]
  simp [(takeWhile_block hfraction hafter).1]

/-! ## Numbers in range -/

/-- An integer, taken to the nearer end of the range of the 64-bit integers if
it lies outside. -/
def clamped (i : Int) : Int := max (-2 ^ 63) (min (2 ^ 63 - 1) i)

/-- The 64-bit integer that is as near as possible. -/
theorem toInt_saturate (i : Int) : (saturate i).toInt = clamped i := by
  rw [saturate, Int64.toInt_minValue, Int64.toInt_maxValue]
  exact Int64.toInt_ofInt_of_le (by omega) (by omega)

/-- A number with its sign. -/
def signed (negative : Bool) (n : Nat) : Int := if negative then -(n : Int) else n

@[simp]
theorem signed_false (n : Nat) : signed false n = n := rfl

@[simp]
theorem signed_true (n : Nat) : signed true n = -n := rfl

/-- Numbers in the range stay as they are. -/
theorem clamped_signed (negative : Bool) {n : Nat} (h : n < 2 ^ 63) :
    clamped (signed negative n) = signed negative n := by
  cases negative with
  | false =>
      rw [signed_false, clamped]
      omega
  | true =>
      rw [signed_true, clamped]
      omega

/-- A number with its sign lies at an end of the range or outside. -/
def Beyond (i : Int) : Prop := i ≤ -2 ^ 63 ∨ 2 ^ 63 - 1 ≤ i

theorem le_of_beyond {negative : Bool} {n : Nat}
    (h : Beyond (signed negative n)) : 2 ^ 63 - 1 ≤ n := by
  cases negative with
  | false =>
      rw [signed_false, Beyond] at h
      omega
  | true =>
      rw [signed_true, Beyond] at h
      omega

theorem lt_of_not_beyond {negative : Bool} {n : Nat}
    (h : ¬ Beyond (signed negative n)) : n < 2 ^ 63 := by
  cases negative with
  | false =>
      rw [signed_false, Beyond] at h
      omega
  | true =>
      rw [signed_true, Beyond] at h
      omega

/-- Numbers beyond the range are not told apart. -/
theorem clamped_eq_of_beyond {negative : Bool} {m n : Nat}
    (h : Beyond (signed negative n)) (hm : 2 ^ 63 ≤ m) :
    clamped (signed negative m) = clamped (signed negative n) := by
  cases negative with
  | false =>
      rw [signed_false, Beyond] at h
      rw [signed_false, signed_false, clamped, clamped]
      omega
  | true =>
      rw [signed_true, Beyond] at h
      rw [signed_true, signed_true, clamped, clamped]
      omega

/-- Within the range, numbers are told apart from all others. -/
theorem clamped_eq_iff_of_not_beyond {negative : Bool} {m n : Nat}
    (h : ¬ Beyond (signed negative n)) :
    clamped (signed negative m) = clamped (signed negative n) ↔ m = n := by
  cases negative with
  | false =>
      rw [signed_false, Beyond] at h
      rw [signed_false, signed_false, clamped, clamped]
      omega
  | true =>
      rw [signed_true, Beyond] at h
      rw [signed_true, signed_true, clamped, clamped]
      omega

/-- **Integers are clamped.**  A token without a fraction stands for its value,
or for the end of the range that is nearer to it: floats beyond the range stay
beyond it. -/
theorem exists_page?_integer (negative : Bool) {block : List Char}
    (hne : block ≠ []) (hblock : ∀ c ∈ block, c.isDigit) :
    ∃ page, NumericToken.page? ⟨negative, block, []⟩ = some page ∧
      page.toInt = clamped (signed negative (Nat.ofDigitChars 10 block 0)) := by
  have hvalue := Time.digitsValue?_eq hne hblock
  generalize Nat.ofDigitChars 10 block 0 = n at hvalue
  have hsigned : NumericToken.signed ⟨negative, block, []⟩ n =
      signed negative n := rfl
  by_cases hrange : -2 ^ 63 ≤ signed negative n ∧ signed negative n ≤ 2 ^ 63 - 1
  · have hinteger : NumericToken.integer? ⟨negative, block, []⟩ =
        some (Int64.ofInt (signed negative n)) := by
      simpa [NumericToken.integer?, hvalue, hsigned, Int64.toInt_maxValue]
        using hrange
    refine ⟨_, by rw [NumericToken.page?, hinteger, Option.some_or], ?_⟩
    rw [Int64.toInt_ofInt_of_le hrange.1 (by omega), clamped]
    omega
  · have hinteger : NumericToken.integer? ⟨negative, block, []⟩ = none := by
      simpa [NumericToken.integer?, hvalue, hsigned, Int64.toInt_maxValue]
        using hrange
    have htruncated : NumericToken.truncated? ⟨negative, block, []⟩ =
        some (saturate (signed negative (integerPart n 1))) := by
      rw [NumericToken.truncated?, List.append_nil, hvalue]
      rfl
    have hbeyond : Beyond (signed negative n) := by
      unfold Beyond
      omega
    refine ⟨_, by rw [NumericToken.page?, hinteger, Option.none_or, htruncated], ?_⟩
    rw [toInt_saturate]
    refine clamped_eq_of_beyond hbeyond (le_integerPart Nat.one_pos ?_)
    rw [Nat.div_one]
    exact le_of_beyond hbeyond

/-! ## Tokens with a fraction -/

/-- A token with a fraction is read as a float. -/
theorem page?_decimal (negative : Bool) {whole fraction : List Char}
    (hne : whole ≠ []) (hwhole : ∀ c ∈ whole, c.isDigit)
    (hne' : fraction ≠ []) (hfraction : ∀ c ∈ fraction, c.isDigit) :
    NumericToken.page? ⟨negative, whole, fraction⟩ =
      some (saturate (signed negative (integerPart
      (Nat.ofDigitChars 10 whole 0 * 10 ^ fraction.length +
        Nat.ofDigitChars 10 fraction 0) (10 ^ fraction.length)))) := by
  have hdigits : ∀ c ∈ whole ++ fraction, c.isDigit := by
    intro c hc
    exact (List.mem_append.mp hc).elim (hwhole c) (hfraction c)
  have hvalue := Time.digitsValue?_eq
    (List.append_ne_nil_of_left_ne_nil hne fraction) hdigits
  rw [Nat.ofDigitChars_append, Nat.ofDigitChars_eq_ofDigitChars_zero,
    Nat.mul_comm] at hvalue
  have hinteger : NumericToken.integer? ⟨negative, whole, fraction⟩ = none := by
    simp [NumericToken.integer?, Time.digitsValue?_eq hne hwhole, hne']
  rw [NumericToken.page?, hinteger, NumericToken.truncated?, hvalue]
  rfl

/-- Digits write a number with at most as many digits. -/
theorem ofDigitChars_lt {digits : List Char} (h : ∀ c ∈ digits, c.isDigit) :
    Nat.ofDigitChars 10 digits 0 < 10 ^ digits.length := by
  induction digits with
  | nil => decide
  | cons c rest ih =>
      have ih := ih fun d hd => h d (List.mem_cons_of_mem c hd)
      obtain ⟨hlow, hhigh⟩ := Char.isDigit_iff_toNat.mp (h c List.mem_cons_self)
      rw [Nat.ofDigitChars_cons, Nat.ofDigitChars_eq_ofDigitChars_zero,
        List.length_cons, Nat.pow_succ]
      have hnine : '9'.toNat = 57 := rfl
      have hzero : '0'.toNat = 48 := rfl
      have hstep : 10 ^ rest.length * (10 * 0 + (c.toNat - '0'.toNat)) ≤
          10 ^ rest.length * 9 :=
        Nat.mul_le_mul_left _ (by omega)
      omega

/-- The decimal `whole.fraction` as a fraction has `whole` as its integer part. -/
theorem decimal_div_mod (whole : Nat) {fraction scale : Nat}
    (h : fraction < scale) :
    (whole * scale + fraction) / scale = whole ∧
    (whole * scale + fraction) % scale = fraction := by
  have hpos : 0 < scale := by omega
  rw [Nat.mul_comm, Nat.mul_add_div hpos, Nat.div_eq_of_lt h, Nat.mul_add_mod,
    Nat.mod_eq_of_lt h]
  exact ⟨rfl, rfl⟩

/-- **When the page is the integer part.**  The integer part of a decimal that
is read as a float gives the same page as the integer part of the decimal itself
exactly if that one is beyond the range or is kept. -/
theorem clamped_integerPart_iff (negative : Bool) {whole fraction scale : Nat}
    (h : fraction < scale) :
    clamped (signed negative (integerPart (whole * scale + fraction) scale)) =
      clamped (signed negative whole) ↔
      Beyond (signed negative whole) ∨ KeepsWhole whole fraction scale := by
  have hpos : 0 < scale := by omega
  obtain ⟨hdiv, hmod⟩ := decimal_div_mod whole h
  by_cases hbeyond : Beyond (signed negative whole)
  · have hlarge : 2 ^ 63 ≤ integerPart (whole * scale + fraction) scale :=
      le_integerPart hpos (by rw [hdiv]; exact le_of_beyond hbeyond)
    exact iff_of_true (clamped_eq_of_beyond hbeyond hlarge) (.inl hbeyond)
  · rw [clamped_eq_iff_of_not_beyond hbeyond]
    have hkeeps :=
      integerPart_eq_div_iff hpos (hdiv.symm ▸ lt_of_not_beyond hbeyond)
    rw [hdiv, hmod] at hkeeps
    rw [hkeeps]
    exact (or_iff_right hbeyond).symm

/-- Short decimals keep their integer part. -/
theorem keepsWhole_of_short {whole fraction scale : Nat} (h : fraction < scale)
    (hshort : whole * scale < 10 ^ 15)
    (hscale : scale ≤ 10 ^ 15) : KeepsWhole whole fraction scale := by
  have hwhole : whole < 2 ^ 53 := by
    have hle : whole * 1 ≤ whole * scale := Nat.mul_le_mul_left whole (by omega)
    omega
  have hsize : whole.size ≤ 53 := Nat.size_le.mpr hwhole
  have hproduct : scale * 2 ^ whole.size < 2 ^ 54 := by
    rcases Nat.eq_zero_or_pos whole with rfl | hpos
    · rw [Nat.size_zero]
      omega
    · obtain ⟨k, hk⟩ : ∃ k, whole.size = k + 1 :=
        Nat.exists_eq_add_one.mpr (Nat.size_pos.mpr hpos)
      have hpow : 2 ^ k ≤ whole := Nat.lt_size.mp (by omega)
      have hle : scale * 2 ^ k ≤ scale * whole := Nat.mul_le_mul_left scale hpow
      rw [hk, Nat.pow_succ, ← Nat.mul_assoc]
      rw [Nat.mul_comm scale whole] at hle
      omega
  have hsplit : 2 ^ 54 = 2 ^ (54 - whole.size) * 2 ^ whole.size := by
    rw [← Nat.pow_add, Nat.sub_add_cancel (by omega)]
  rw [hsplit] at hproduct
  rw [KeepsWhole, if_pos hwhole]
  left
  calc scale < 2 ^ (54 - whole.size) := Nat.lt_of_mul_lt_mul_right hproduct
    _ = 1 * 2 ^ (54 - whole.size) := (Nat.one_mul _).symm
    _ ≤ (scale - fraction) * 2 ^ (54 - whole.size) :=
      Nat.mul_le_mul_right _ (by omega)

end Prospectus.Contents
