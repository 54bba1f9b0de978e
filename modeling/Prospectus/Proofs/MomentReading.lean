import Prospectus.Proofs.JsonReading
import Prospectus.Time.Moment

/-!
# Moments read back

A date comes back from its number of days (`Date.ofDays_toDays`): years begin in
March, so that the day of a year tells its month, and an era of 400 years is cut
into centuries, spans of four years and years.

The text of a moment is read as the moment that it names
(`Moment.read?_text_eq_carried`).  Each of its numbers has a full width, so that
it ends where its digits do, whatever follows; only a year with a sign ends at
the next dash.  A moment that a clock shows is the one that its text names
(`Moment.carried_eq_self_iff`).
-/

namespace Prospectus.Time

open Number Json

/-! ## Dates from days -/

/-- The year of an era comes back from the day of the era.  An era is made of
centuries of 36524 days, these of spans of 1461 days, and these of years of 365
days; the last of each may have one day more or less. -/
theorem yearOfEra_eq {y doy doe : Nat} (hy : y < 400) (hdoy : doy ≤ 365)
    (hleap : doy = 365 → y % 4 = 3 ∧ (y % 100 ≠ 99 ∨ y = 399))
    (hdoe : doe + y / 100 = y * 365 + y / 4 + doy) :
    (doe - doe / 1460 + doe / 36524 - doe / 146096) / 365 = y := by
  obtain ⟨century, hcentury⟩ : ∃ c, y / 100 = c := ⟨_, rfl⟩
  obtain ⟨span, hspan⟩ : ∃ q, y % 100 / 4 = q := ⟨_, rfl⟩
  obtain ⟨r, hr⟩ : ∃ r, y % 4 = r := ⟨_, rfl⟩
  have hy' : y = 100 * century + 4 * span + r := by omega
  have hdoe' : doe = 36524 * century + 1461 * span + 365 * r + doy := by omega
  by_cases hlast : doe = 146096
  · subst hlast
    omega
  · have hshort : doe < 36524 * (century + 1) := by omega
    have h1 : doe / 36524 = century := by omega
    have h2 : doe / 146096 = 0 := by omega
    rw [h1, h2]
    have h3 : doe / 1460 = 25 * century + span +
        (24 * century + span + 365 * r + doy) / 1460 := by omega
    omega

theorem daysInMonth_spec {year : Int} {month day : Nat} (hpos : 1 ≤ day)
    (hday : day ≤ daysInMonth year month) :
    1 ≤ month ∧ month ≤ 12 ∧ day ≤ 31 ∧
    (month = 4 ∨ month = 6 ∨ month = 9 ∨ month = 11 → day ≤ 30) ∧
      (month = 2 → day ≤ 29 ∧ (day = 29 → isLeapYear year)) := by
  unfold daysInMonth at hday
  split at hday
  case h_12 =>
    by_cases hleap : isLeapYear year
    · rw [if_pos hleap] at hday
      exact ⟨by decide, by decide, by omega, by omega,
        fun _ => ⟨hday, fun _ => hleap⟩⟩
    · rw [if_neg hleap] at hday
      omega
  all_goals omega

/-- The day of a year that begins in March gives back the month and the day. -/
theorem dayOfYear_spec {year : Int} {month day : Nat} (hpos : 1 ≤ day)
    (hday : day ≤ daysInMonth year month) :
    ∃ march doy : Nat, ((month : Int) + 9) % 12 = march ∧
      (153 * (march : Int) + 2) / 5 + day - 1 = doy ∧
      doy ≤ 365 ∧ (doy = 365 → month = 2 ∧ day = 29) ∧ (5 * doy + 2) / 153 = march ∧
      doy - (153 * march + 2) / 5 + 1 = day ∧ (if march < 10 then march + 3
        else march - 9) = month := by
  obtain ⟨hlow, hhigh, hlong, hshort, hleap⟩ := daysInMonth_spec hpos hday
  have hfebruary : month = 2 → day ≤ 29 := fun h => (hleap h).1
  refine ⟨(month + 9) % 12, (153 * ((month + 9) % 12) + 2) / 5 + day - 1,
    by omega, by omega, ?_⟩
  have hmonth : month = 1 ∨ month = 2 ∨ month = 3 ∨ month = 4 ∨ month = 5 ∨
      month = 6 ∨ month = 7 ∨ month = 8 ∨
      month = 9 ∨ month = 10 ∨ month = 11 ∨ month = 12 := by omega
  rcases hmonth with rfl | rfl | rfl | rfl | rfl | rfl | rfl | rfl | rfl |
    rfl | rfl | rfl
  all_goals exact ⟨by omega, fun h => by omega, by omega, by omega, rfl⟩

/-- The day of a date of the calendar is one of its month. -/
theorem Date.day_of_isValid {d : Date} (hd : d.isValid) :
    1 ≤ d.day ∧ d.day ≤ daysInMonth d.year d.month := by
  simp only [Date.isValid, Bool.and_eq_true, decide_eq_true_eq] at hd
  exact ⟨hd.1.2, hd.2⟩

/-- **A date comes back from its number of days.** -/
theorem Date.ofDays_toDays {d : Date} (hd : d.isValid) :
    Date.ofDays d.toDays = d := by
  obtain ⟨hpos, hday⟩ := Date.day_of_isValid hd
  obtain ⟨year, month, day⟩ := d
  obtain ⟨march, doy, hmarch, hdoy, hle, hlast, hmonth, hday', hmonth'⟩ :=
    dayOfYear_spec hpos hday
  -- the year that begins in March
  obtain ⟨y, hy⟩ : ∃ y, (if month ≤ 2 then year - 1 else year) = y := ⟨_, rfl⟩
  obtain ⟨yoe, hyoe⟩ :=
    Int.eq_ofNat_of_zero_le (Int.emod_nonneg y (by decide : (400 : Int) ≠ 0))
  have hlt : yoe < 400 := by omega
  obtain ⟨doe, hdoe⟩ : ∃ doe : Nat, doe + yoe / 100 = yoe * 365 + yoe / 4 + doy :=
    ⟨yoe * 365 + yoe / 4 + doy - yoe / 100, by omega⟩
  have hleap : doy = 365 → yoe % 4 = 3 ∧ (yoe % 100 ≠ 99 ∨ yoe = 399) := by
    intro h
    obtain ⟨rfl, rfl⟩ := hlast h
    have hleap := ((daysInMonth_spec hpos hday).2.2.2.2 rfl).2 rfl
    simp only [isLeapYear, Bool.and_eq_true, Bool.or_eq_true,
      decide_eq_true_eq] at hleap
    rw [if_pos (by decide)] at hy
    omega
  have hyear := yearOfEra_eq hlt hle hleap hdoe
  have hdays : Date.toDays ⟨year, month, day⟩ =
      y / 400 * 146097 + doe - 719468 := by
    simp only [Date.toDays, hy, hmarch, hdoy, hyoe]
    omega
  rw [hdays]
  unfold Date.ofDays
  have hera : (y / 400 * 146097 + (doe : Int) - 719468 + 719468) / 146097 =
      y / 400 := by omega
  have hdoe' : ((y / 400 * 146097 + (doe : Int) - 719468 + 719468) %
      146097).toNat = doe := by omega
  have hdoy' : doe - (365 * yoe + yoe / 4 - yoe / 100) = doy := by omega
  simp only [hera, hdoe', hyear, hdoy', hmonth, hday', hmonth']
  congr 1
  by_cases hearly : month ≤ 2
  · rw [if_pos hearly] at hy ⊢
    omega
  · rw [if_neg hearly] at hy ⊢
    omega

/-! ## Digits -/

theorem digitValue?_eq {c : Char} (hc : c.isDigit) :
    Text.digitValue? c = some (c.toNat - '0'.toNat) :=
  if_pos (by
    obtain ⟨hlow, hhigh⟩ := Char.isDigit_iff_toNat.mp hc
    exact ⟨hlow, hhigh⟩)

/-- Digits are read as the number that they write. -/
theorem digitsValue?_eq {cs : List Char} (hne : cs ≠ [])
    (hcs : ∀ c ∈ cs, c.isDigit) :
    Text.digitsValue? cs = some (Nat.ofDigitChars 10 cs 0) := by
  have hfold (n : Nat) :
      cs.foldl (fun total c => do pure (10 * (← total) +
        (← Text.digitValue? c))) (some n) =
      some (Nat.ofDigitChars 10 cs n) := by
    clear hne
    induction cs generalizing n with
    | nil => rfl
    | cons c cs ih =>
      rw [List.foldl_cons, digitValue?_eq (hcs c List.mem_cons_self),
        Nat.ofDigitChars_cons, ← ih fun d hd => hcs d (List.mem_cons_of_mem c hd)]
      rfl
  cases cs with
  | nil => exact absurd rfl hne
  | cons c cs => exact hfold 0

theorem toList_padded (width n : Nat) : (padded width n).toList =
    List.replicate (width - (Nat.toDigits 10 n).length) '0' ++ Nat.toDigits 10 n :=
  String.toList_ofList

theorem padded_ne_nil (width n : Nat) : (padded width n).toList ≠ [] := by
  rw [toList_padded]
  exact List.append_ne_nil_of_right_ne_nil _ Nat.toDigits_ne_nil

theorem isDigit_padded {width n : Nat} :
    ∀ c ∈ (padded width n).toList, c.isDigit := by
  intro c hc
  rw [toList_padded, List.mem_append] at hc
  rcases hc with hc | hc
  · exact Numeral.isDigit_of_mem_replicate c hc
  · exact Numeral.isDigit_of_mem_toDigits c hc

theorem length_padded {width n : Nat} (hn : (Nat.toDigits 10 n).length ≤ width) :
    (padded width n).toList.length = width := by
  rw [toList_padded, List.length_append, List.length_replicate]
  omega

theorem length_toDigits_le {width bound n : Nat}
    (hbound : Nat.pow 10 width = bound) (hwidth : 0 < width)
    (hn : n < bound) : (Nat.toDigits 10 n).length ≤ width :=
  (Nat.length_toDigits_le_iff (by decide) hwidth).mpr
    (Nat.lt_of_lt_of_eq hn hbound.symm)

theorem digitsValue?_padded (width n : Nat) :
    Text.digitsValue? (padded width n).toList = some n := by
  rw [digitsValue?_eq (padded_ne_nil width n) isDigit_padded, toList_padded,
    Nat.ofDigitChars_append, Nat.ofDigitChars_replicate_zero, Nat.mul_zero,
    Nat.ofDigitChars_ten_toDigits]

theorem dropBlanks_eq {cs : List Char}
    (hcs : ∀ c ∈ cs.head?, Text.isBlank c = false) :
    Text.dropBlanks cs = cs :=
  dropWhile_eq_self hcs

theorem isBlank_digit {c : Char} (hc : c.isDigit) : Text.isBlank c = false := by
  obtain ⟨hlow, hhigh⟩ := Char.isDigit_iff_toNat.mp hc
  have hnone : ∀ n < 58, 48 ≤ n → Text.inRanges Text.blankRanges n = false := by
    decide
  exact hnone c.toNat (Nat.lt_succ_of_le hhigh) hlow

namespace Reading

theorem dropBlanks_digits {digits rest : List Char} (hne : digits ≠ [])
    (hdigits : ∀ c ∈ digits, c.isDigit) :
    Text.dropBlanks (digits ++ rest) = digits ++ rest := by
  obtain ⟨c, cs, rfl⟩ := List.exists_cons_of_ne_nil hne
  refine dropBlanks_eq ?_
  rintro _ ⟨⟩
  exact isBlank_digit (hdigits c List.mem_cons_self)

/-- A number of full width is read back, whatever follows it. -/
theorem number_padded {width n : Nat} (hn : (Nat.toDigits 10 n).length ≤ width)
    (rest : List Char) :
    number width ((padded width n).toList ++ rest) = some (n, rest) := by
  have hlength := length_padded hn
  unfold number
  dsimp only
  rw [dropBlanks_digits (padded_ne_nil width n) isDigit_padded,
    List.takeWhile_append_of_pos isDigit_padded, List.take_left' hlength,
    digitsValue?_padded, Option.map_some, List.drop_left]

/-- Digits of any number are read back up to the first other character. -/
theorem digits_padded {width n : Nat} {rest : List Char}
    (hrest : ∀ c ∈ rest.head?, ¬c.isDigit) :
    Text.digitsValue? (((padded width n).toList ++ rest).takeWhile
      Char.isDigit) = some n ∧
      ((padded width n).toList ++ rest).drop
        (((padded width n).toList ++ rest).takeWhile Char.isDigit).length =
        rest := by
  rw [takeWhile_digits isDigit_padded hrest, List.drop_left]
  exact ⟨digitsValue?_padded width n, rfl⟩

theorem year_minus {width n : Nat} {rest : List Char}
    (hrest : ∀ c ∈ rest.head?, ¬c.isDigit) :
    year ('-' :: ((padded width n).toList ++ rest)) = some (-(n : Int), rest) := by
  obtain ⟨hvalue, hdrop⟩ := @digits_padded width n rest hrest
  unfold year
  rw [dropBlanks_eq (by rintro _ ⟨⟩; decide)]
  simp only [hvalue, hdrop]
  rfl

theorem year_plus {width n : Nat} {rest : List Char}
    (hrest : ∀ c ∈ rest.head?, ¬c.isDigit) :
    year ('+' :: ((padded width n).toList ++ rest)) = some ((n : Int), rest) := by
  obtain ⟨hvalue, hdrop⟩ := @digits_padded width n rest hrest
  unfold year
  rw [dropBlanks_eq (by rintro _ ⟨⟩; decide)]
  simp only [hvalue, hdrop]
  rfl

theorem year_padded {n : Nat} (hn : (Nat.toDigits 10 n).length ≤ 4)
    (rest : List Char) :
    year ((padded 4 n).toList ++ rest) = some ((n : Int), rest) := by
  obtain ⟨c, cs, hcs⟩ := List.exists_cons_of_ne_nil (padded_ne_nil 4 n)
  have hdigit : c.isDigit := isDigit_padded c (hcs ▸ List.mem_cons_self)
  unfold year
  rw [dropBlanks_digits (padded_ne_nil 4 n) isDigit_padded]
  split
  case h_3 => rw [number_padded hn, Option.map_some]
  -- the other forms begin with a sign
  all_goals
    rename_i heq
    rw [hcs, List.cons_append, List.cons.injEq] at heq
    rw [heq.1] at hdigit
    exact absurd hdigit (by decide)

/-- A year is read back up to the dash that ends it. -/
theorem year_text (y : Int) {rest : List Char}
    (hrest : ∀ c ∈ rest.head?, ¬c.isDigit) :
    year ((yearText y).toList ++ rest) = some (y, rest) := by
  unfold yearText
  by_cases hneg : y < 0
  · rw [if_pos hneg, String.toList_append, List.append_assoc]
    simp only [String.reduceToList, List.cons_append, List.nil_append]
    rw [year_minus hrest, show -(y.natAbs : Int) = y by omega]
  rw [if_neg hneg]
  by_cases hlarge : 9999 < y
  · rw [if_pos hlarge, String.toList_append, List.append_assoc]
    simp only [String.reduceToList, List.cons_append, List.nil_append]
    rw [year_plus hrest, show (y.natAbs : Int) = y by omega]
  · have hlength := length_toDigits_le (rfl : Nat.pow 10 4 = 10000) (by decide)
      (by omega : y.natAbs < 10000)
    rw [if_neg hlarge, year_padded hlength, show (y.natAbs : Int) = y by omega]

/-- A fraction of a second is read back. -/
theorem fraction_padded {width n : Nat} (hwidth : width ≤ 9)
    (hn : (Nat.toDigits 10 n).length ≤ width)
    {rest : List Char} (hrest : ∀ c ∈ rest.head?, ¬c.isDigit) :
    fraction ('.' :: ((padded width n).toList ++ rest)) =
      some (n * Nat.pow 10 (9 - width), rest) := by
  have hlength := length_padded hn
  have hdigits := takeWhile_digits (@isDigit_padded width n) hrest
  have htake : (padded width n).toList.take 9 = (padded width n).toList :=
    List.take_of_length_le (by omega)
  unfold fraction
  simp only [hdigits, htake, digitsValue?_padded, Option.map_some, hlength]
  rw [List.drop_left' hlength]

theorem fraction_text {nanos : Nat} (hnanos : nanos < 1000000000)
    (rest : List Char) :
    fraction ((fractionText nanos).toList ++ 'Z' :: rest) =
      some (nanos, 'Z' :: rest) := by
  have hrest : ∀ c ∈ ('Z' :: rest).head?, ¬c.isDigit := by
    rintro _ ⟨⟩
    decide
  unfold fractionText
  by_cases hzero : nanos = 0
  · rw [if_pos hzero, hzero]
    rfl
  rw [if_neg hzero]
  by_cases hmilli : nanos % 1000000 = 0
  · have hlength := length_toDigits_le (rfl : Nat.pow 10 3 = 1000) (by decide)
      (by omega : nanos / 1000000 < 1000)
    have hscale : nanos / 1000000 * Nat.pow 10 (9 - 3) = nanos :=
      Nat.div_mul_cancel (Nat.dvd_of_mod_eq_zero hmilli)
    rw [if_pos hmilli, String.toList_append, List.append_assoc]
    simp only [String.reduceToList, List.cons_append, List.nil_append]
    rw [fraction_padded (by decide) hlength hrest, hscale]
  rw [if_neg hmilli]
  by_cases hmicro : nanos % 1000 = 0
  · have hlength := length_toDigits_le (rfl : Nat.pow 10 6 = 1000000) (by decide)
      (by omega : nanos / 1000 < 1000000)
    have hscale : nanos / 1000 * Nat.pow 10 (9 - 6) = nanos :=
      Nat.div_mul_cancel (Nat.dvd_of_mod_eq_zero hmicro)
    rw [if_pos hmicro, String.toList_append, List.append_assoc]
    simp only [String.reduceToList, List.cons_append, List.nil_append]
    rw [fraction_padded (by decide) hlength hrest, hscale]
  · have hlength :=
      length_toDigits_le (rfl : Nat.pow 10 9 = 1000000000) (by decide) hnanos
    have hscale : nanos * Nat.pow 10 (9 - 9) = nanos := Nat.mul_one nanos
    rw [if_neg hmicro, String.toList_append, List.append_assoc]
    simp only [String.reduceToList, List.cons_append, List.nil_append]
    rw [fraction_padded (by decide) hlength hrest, hscale]

/-- A mark is passed over. -/
theorem mark_cons {c : Char} (hc : Text.isBlank c = false) (rest : List Char) :
    mark c (c :: rest) = some rest := by
  unfold mark
  rw [dropBlanks_eq (by rintro _ ⟨⟩; exact hc)]
  exact if_pos rfl

end Reading

/-! ## Moments -/

namespace Moment

/-- Whether a moment is as a clock shows it: a leap second comes at the end of
a minute only. -/
def Regular (m : Moment) : Prop := 1000000000 ≤ m.nanos → m.second = 59

instance (m : Moment) : Decidable m.Regular := inferInstanceAs (Decidable (_ → _))

/-- The moment as its text names it: a second or more of nanoseconds within a
minute is carried into the next second. -/
def carried (m : Moment) : Moment :=
  if h : 1000000000 ≤ m.nanos ∧ m.second ≠ 59 then
    { m with
      second := m.second + 1
      nanos := m.nanos - 1000000000
      second_lt := by
        have hsecond := m.second_lt
        omega
      nanos_lt := by
        have hnanos := m.nanos_lt
        omega }
  else m

theorem carried_of_regular {m : Moment} (hm : m.Regular) : m.carried = m :=
  dif_neg fun h => h.2 (hm h.1)

/-- What is carried is shown by a clock. -/
theorem regular_carried (m : Moment) : m.carried.Regular := by
  have hnanos := m.nanos_lt
  unfold carried
  split
  case isTrue =>
    intro hleap
    change 1000000000 ≤ m.nanos - 1000000000 at hleap
    omega
  case isFalse h =>
    intro hleap
    omega

/-- Only a moment that no clock shows is changed. -/
theorem carried_eq_self_iff (m : Moment) : m.carried = m ↔ m.Regular :=
  ⟨fun h => h ▸ m.regular_carried, carried_of_regular⟩

@[simp] theorem date_carried (m : Moment) : m.carried.date = m.date := by
  unfold carried
  split <;> rfl

@[simp] theorem hour_carried (m : Moment) : m.carried.hour = m.hour := by
  unfold carried
  split <;> rfl

@[simp] theorem minute_carried (m : Moment) : m.carried.minute = m.minute := by
  unfold carried
  split <;> rfl

theorem ofFields?_eq (m : Moment) :
    ofFields? m.date.year m.date.month m.date.day m.hour
    m.minute m.second m.nanos = some m :=
  dif_pos ⟨m.isValid_date, m.hour_lt, m.minute_lt, m.second_lt, m.nanos_lt⟩

/-- Nothing taken from a moment leaves the moment. -/
theorem minusSeconds?_zero (m : Moment) : m.minusSeconds? 0 = some m := by
  have hhour := m.hour_lt
  have hminute := m.minute_lt
  have hsecond := m.second_lt
  obtain ⟨total, htotal⟩ : ∃ n, m.hour * 3600 + m.minute * 60 + m.second = n :=
    ⟨_, rfl⟩
  have hdays : (m.seconds - 0) / 86400 = m.date.toDays := by
    unfold seconds
    omega
  have hrest : ((m.seconds - 0) % 86400).toNat = total := by
    unfold seconds
    omega
  have hfields : total / 3600 = m.hour ∧ total % 3600 / 60 = m.minute ∧
      total % 60 = m.second := by
    omega
  unfold minusSeconds? ofSeconds?
  dsimp only
  rw [hdays, hrest, Date.ofDays_toDays m.isValid_date, hfields.1, hfields.2.1,
    hfields.2.2, m.ofFields?_eq]

/-- The second and the nanoseconds as they are written. -/
theorem toList_text (m : Moment) {second nanos : Nat}
    (hsplit : (if 1000000000 ≤ m.nanos then (m.second + 1, m.nanos - 1000000000)
      else (m.second, m.nanos)) = (second, nanos)) :
    m.text.toList = (yearText m.date.year).toList ++ '-' ::
      ((padded 2 m.date.month).toList ++ '-' ::
        ((padded 2 m.date.day).toList ++ 'T' ::
        ((padded 2 m.hour).toList ++ ':' :: ((padded 2 m.minute).toList ++ ':' ::
          ((padded 2 second).toList ++
            ((fractionText nanos).toList ++ ['Z'])))))) := by
  unfold text timeText Date.text
  rw [hsplit]
  simp only [String.toList_append, String.reduceToList, List.append_assoc,
    List.cons_append, List.nil_append]

/-- A leap second is shown as the sixtieth, any other second as the one that it
is carried into. -/
theorem shown (m : Moment) {second nanos : Nat}
    (hsplit : (if 1000000000 ≤ m.nanos then (m.second + 1, m.nanos - 1000000000)
      else (m.second, m.nanos)) = (second, nanos)) :
    nanos < 1000000000 ∧
      (second = 60 ∧ m.carried.second = 59 ∧ m.carried.nanos = 1000000000 + nanos ∨
        second < 60 ∧ m.carried.second = second ∧ m.carried.nanos = nanos) := by
  have hsecond := m.second_lt
  have hnanos := m.nanos_lt
  unfold carried
  by_cases hleap : 1000000000 ≤ m.nanos
  · rw [if_pos hleap, Prod.mk.injEq] at hsplit
    by_cases hlast : m.second = 59
    · rw [dif_neg fun h => h.2 hlast]
      omega
    · rw [dif_pos ⟨hleap, hlast⟩]
      dsimp only
      omega
  · rw [if_neg hleap, Prod.mk.injEq] at hsplit
    rw [dif_neg fun h => hleap h.1]
    omega

theorem bind_of_some {α β : Type} {x : Option α} {a : α} (hx : x = some a)
    (next : α → Option β) : (x >>= next) = next a := by
  rw [hx]
  rfl

/-- **The text of a moment is read as the moment that it names**, with its
fraction and in a leap second too. -/
theorem read?_text_eq_carried (m : Moment) :
    Moment.read? m.text = some m.carried := by
  obtain ⟨hpos, hday⟩ := Date.day_of_isValid m.isValid_date
  obtain ⟨-, hmonth, hlong, -⟩ := daysInMonth_spec hpos hday
  have hhour := m.hour_lt
  have hminute := m.minute_lt
  obtain ⟨second, nanos, hsplit⟩ : ∃ second nanos, (if 1000000000 ≤ m.nanos then
      (m.second + 1, m.nanos - 1000000000) else (m.second, m.nanos)) =
        (second, nanos) :=
    ⟨_, _, rfl⟩
  obtain ⟨hnanos, hshown⟩ := m.shown hsplit
  have hfields := m.carried.ofFields?_eq
  rw [date_carried, hour_carried, minute_carried] at hfields
  have htwo {n : Nat} (hn : n < 100) (rest : List Char) :
      Reading.number 2 ((padded 2 n).toList ++ rest) = some (n, rest) :=
    Reading.number_padded
      (length_toDigits_le (rfl : Nat.pow 10 2 = 100) (by decide) hn) rest
  have hdash (rest : List Char) : Reading.mark '-' ('-' :: rest) = some rest :=
    Reading.mark_cons (by decide) rest
  have hcolon (rest : List Char) : Reading.mark ':' (':' :: rest) = some rest :=
    Reading.mark_cons (by decide) rest
  have hoffset : Reading.offset ['Z'] = some (0, []) := rfl
  have hend : ¬(!(Text.dropBlanks []).isEmpty) = true := by decide
  unfold read?
  rw [m.toList_text hsplit]
  -- the date, with its dashes
  refine (bind_of_some (Reading.year_text _ (by rintro _ ⟨⟩; decide)) _).trans ?_
  refine (bind_of_some (hdash _) _).trans ?_
  refine (bind_of_some (htwo (by omega) _) _).trans ?_
  refine (bind_of_some (hdash _) _).trans ?_
  refine (bind_of_some (htwo (by omega) _) _).trans ?_
  refine (bind_of_some rfl _).trans ?_
  -- the time of day, with its colons
  refine (bind_of_some (htwo (by omega) _) _).trans ?_
  refine (bind_of_some (hcolon _) _).trans ?_
  refine (bind_of_some (htwo (by omega) _) _).trans ?_
  refine (bind_of_some (hcolon _) _).trans ?_
  refine (bind_of_some (htwo (by omega) _) _).trans ?_
  refine (bind_of_some (Reading.fraction_text hnanos _) _).trans ?_
  refine (bind_of_some hoffset _).trans ?_
  dsimp only
  rw [if_neg hend]
  rcases hshown with ⟨rfl, hlast, hleap⟩ | ⟨hlt, hsecond, hplain⟩
  · rw [hlast, hleap] at hfields
    rw [if_pos rfl, hfields]
    exact minusSeconds?_zero _
  · rw [hsecond, hplain] at hfields
    rw [if_neg (by omega), hfields]
    exact minusSeconds?_zero _

/-- A moment that a clock shows is read back from its text. -/
theorem read?_text {m : Moment} (hm : m.Regular) :
    Moment.read? m.text = some m := by
  rw [read?_text_eq_carried, carried_of_regular hm]

end Moment

end Prospectus.Time
