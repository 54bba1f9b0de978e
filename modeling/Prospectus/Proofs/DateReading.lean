import Mathlib.Data.List.Basic
import Prospectus.Pdf.Date
import Prospectus.Proofs.MomentReading
import Prospectus.Proofs.PageNumbers
import Prospectus.Proofs.TextEncoding

/-!
# Dates read from their digits

A date without an offset is digits only: four for the year and two for each
field that follows it, as many as there are (`DigitDate`).  Its bytes are the
digits one by one (`encodeUtf8_ascii`), so each field is read where it stands or
is missing altogether (`datePart_eq`), and what is left is whether the fields
are a date of the calendar (`isValid_iff`) and a time of day.
-/

namespace Prospectus

namespace Text

/-- The bytes of a text of ASCII characters are its characters. -/
theorem encodeUtf8_ascii {s : String} (h : ∀ c ∈ s.toList, c.toNat < 128) :
    encodeUtf8 s = s.toList.map Char.toUInt8 := by
  rw [encodeUtf8_eq_flatMap]
  generalize s.toList = cs at h
  induction cs with
  | nil => rfl
  | cons c cs ih =>
      obtain ⟨hc, hcs⟩ := List.forall_mem_cons.mp h
      have hsize : c.utf8Size = 1 := by
        rw [Char.utf8Size_eq_one_iff, UInt32.le_iff_toNat_le]
        exact Nat.le_of_lt_succ hc
      rw [List.flatMap_cons, String.utf8EncodeChar_eq_singleton hsize,
        List.map_cons, ih hcs]
      rfl

end Text

namespace Time

/-- The fields name a day of the Gregorian calendar. -/
def IsDay (year month day : Nat) : Prop :=
  1 ≤ day ∧ (month ∈ [1, 3, 5, 7, 8, 10, 12] ∧
    day ≤ 31 ∨ month ∈ [4, 6, 9, 11] ∧ day ≤ 30 ∨ month = 2 ∧ day ≤ 28 ∨
    month = 2 ∧ day = 29 ∧ 4 ∣ year ∧ (¬ 100 ∣ year ∨ 400 ∣ year))

instance (year month day : Nat) : Decidable (IsDay year month day) :=
  inferInstanceAs (Decidable (_ ∧ _))

theorem isLeapYear_iff (year : Nat) :
    isLeapYear year = true ↔ 4 ∣ year ∧ (¬ 100 ∣ year ∨ 400 ∣ year) := by
  simp only [isLeapYear, Bool.and_eq_true, Bool.or_eq_true, decide_eq_true_eq]
  omega

theorem isValid_iff {year month day : Nat} (hyear : year ≤ 9999) :
    Date.isValid ⟨year, month, day⟩ = true ↔ IsDay year month day := by
  have hleap := isLeapYear_iff year
  have hrange : yearRange.1 ≤ (year : Int) ∧ (year : Int) ≤ yearRange.2 := by
    change -262143 ≤ (year : Int) ∧ (year : Int) ≤ 262142
    omega
  simp only [Date.isValid, hrange, Bool.and_eq_true, decide_eq_true_eq,
    true_and, IsDay, List.mem_cons, List.not_mem_nil, or_false]
  unfold daysInMonth
  split
  case h_12 =>
    by_cases h : isLeapYear year = true
    · rw [if_pos h]
      have hyears := hleap.mp h
      omega
    · rw [if_neg h]
      have hyears := mt hleap.mpr h
      omega
  case h_13 =>
    simp only [imp_false] at *
    omega
  all_goals omega

end Time

namespace Pdf

/-! ## Numbers -/

theorem toNat_toUInt8_digit {c : Char} (hc : c.isDigit) :
    c.toUInt8.toNat = c.toNat := by
  have hhigh : c.toNat ≤ 57 := (Char.isDigit_iff_toNat.mp hc).2
  exact Nat.mod_eq_of_lt (by change c.toNat < 256; omega)

/-- The byte of a digit is between those of the first and the last digit. -/
theorem toUInt8_digit {c : Char} (hc : c.isDigit) :
    48 ≤ c.toUInt8 ∧ c.toUInt8 ≤ 57 := by
  rw [UInt8.le_iff_toNat_le, UInt8.le_iff_toNat_le, toNat_toUInt8_digit hc]
  exact Char.isDigit_iff_toNat.mp hc

/-- Digits are read as the number that they write. -/
theorem unsigned?_digits {cs : List Char} (hne : cs ≠ [])
    (hcs : ∀ c ∈ cs, c.isDigit) :
    unsigned? (cs.map Char.toUInt8) = some (Nat.ofDigitChars 10 cs 0) := by
  have hvalue : ∀ n, (cs.map Char.toUInt8).foldl (fun n b => 10 * n +
      (b.toNat - 48)) n = Nat.ofDigitChars 10 cs n := by
    clear hne
    induction cs with
    | nil => exact fun n => rfl
    | cons c cs ih =>
        obtain ⟨hc, hcs⟩ := List.forall_mem_cons.mp hcs
        intro n
        rw [List.map_cons, List.foldl_cons, toNat_toUInt8_digit hc, ih hcs,
          Nat.ofDigitChars_cons]
        rfl
  have hall : (cs.map Char.toUInt8).all (fun b => 48 ≤ b && b ≤ 57) = true := by
    rw [List.all_map, List.all_eq_true]
    intro c hc
    simp [toUInt8_digit (hcs c hc)]
  obtain ⟨c, cs, rfl⟩ := List.exists_cons_of_ne_nil hne
  unfold unsigned?
  split
  · rename_i rest heq
    obtain ⟨hplus, -⟩ := List.cons.inj heq
    have hc := toUInt8_digit (hcs c List.mem_cons_self)
    rw [hplus] at hc
    exact absurd hc (by decide)
  · dsimp only
    rw [hall, hvalue 0]
    rfl

theorem signed?_digits {cs : List Char} (hne : cs ≠ [])
    (hcs : ∀ c ∈ cs, c.isDigit) :
    signed? (cs.map Char.toUInt8) = some (Nat.ofDigitChars 10 cs 0 : Int) := by
  have hvalue := unsigned?_digits hne hcs
  obtain ⟨c, cs, rfl⟩ := List.exists_cons_of_ne_nil hne
  unfold signed?
  split
  · rename_i rest heq
    obtain ⟨hminus, -⟩ := List.cons.inj heq
    have hc := toUInt8_digit (hcs c List.mem_cons_self)
    rw [hminus] at hc
    exact absurd hc (by decide)
  · rw [hvalue]
    rfl

/-! ## Fields -/

/-- A date of digits: perhaps a mark, digits that end with a field, and perhaps
a letter for universal time after the last of them. -/
structure DigitDate (mark digits zone : String) : Prop where
  marked : mark = "" ∨ mark = "D:"
  isDigit : ∀ c ∈ digits.toList, c.isDigit
  length : digits.toList.length ∈ [4, 6, 8, 10, 12, 14]
  universal : zone = "" ∨ zone = "Z" ∧ digits.toList.length = 14

/-- The two digits at a position, as a number, or a default if there are none. -/
def fieldAt (digits : String) (position default : Nat) : Nat :=
  if position + 2 ≤ digits.toList.length then Nat.ofDigitChars 10
    ((digits.toList.drop position).take 2) 0 else default

/-- A date is read from what follows its mark. -/
theorem dateOf?_of_body {s : String} {body : List UInt8}
    (hs : Text.encodeUtf8 s = 68 :: 58 :: body ∨ Text.encodeUtf8 s = body ∧
      body.head? ≠ some 68)
    (hlength : 4 ≤ body.length) :
    dateOf? s = (signed? (body.take 4)).bind fun year =>
      Time.Moment.ofFields? year (datePart body 4 1) (datePart body 6 1)
        (datePart body 8 0)
        (datePart body 10 0) (datePart body 12 0) 0 := by
  unfold dateOf?
  dsimp only
  split
  · rename_i rest heq
    obtain rfl : rest = body := by
      rcases hs with hmark | ⟨rfl, hhead⟩
      · exact (List.cons.inj (List.cons.inj (heq.symm.trans hmark)).2).2
      · rw [heq] at hhead
        exact absurd rfl hhead
    rw [if_neg (Nat.not_lt.mpr hlength)]
    rfl
  · rename_i hother
    obtain rfl : Text.encodeUtf8 s = body := by
      rcases hs with hmark | ⟨hplain, -⟩
      · exact absurd hmark (hother body)
      · exact hplain
    rw [if_neg (Nat.not_lt.mpr hlength)]
    rfl

variable {mark digits zone : String}

namespace DigitDate

/-- The bytes after the mark. -/
def body (digits zone : String) : List UInt8 :=
  (digits.toList ++ zone.toList).map Char.toUInt8

theorem length_pos (h : DigitDate mark digits zone) : 4 ≤ digits.toList.length := by
  have hlength := h.length
  simp only [List.mem_cons, List.not_mem_nil, or_false] at hlength
  omega

theorem encodeUtf8_eq (h : DigitDate mark digits zone) :
    Text.encodeUtf8 (mark ++ digits ++ zone) =
      mark.toList.map Char.toUInt8 ++ body digits zone := by
  have hmark : ∀ c ∈ mark.toList, c.toNat < 128 := by
    rcases h.marked with rfl | rfl <;> simp
  have hdigits : ∀ c ∈ digits.toList, c.toNat < 128 := by
    intro c hc
    have hhigh : c.toNat ≤ 57 := (Char.isDigit_iff_toNat.mp (h.isDigit c hc)).2
    omega
  have hzone : ∀ c ∈ zone.toList, c.toNat < 128 := by
    rcases h.universal with rfl | ⟨rfl, -⟩ <;> simp
  have hascii : ∀ c ∈ (mark ++ digits ++ zone).toList, c.toNat < 128 := by
    simp only [String.toList_append, List.forall_mem_append]
    exact ⟨⟨hmark, hdigits⟩, hzone⟩
  rw [Text.encodeUtf8_ascii hascii, String.toList_append, String.toList_append,
    List.append_assoc, List.map_append]
  rfl

/-- A field is read where it stands, and is missing if the digits end before it. -/
theorem datePart_eq (h : DigitDate mark digits zone) {position : Nat}
    (hposition : position ∈ [4, 6, 8, 10, 12])
    (default : Nat) : datePart (body digits zone) position default =
      fieldAt digits position default := by
  unfold datePart fieldAt body
  rw [← List.map_drop, ← List.map_take]
  by_cases hthere : position + 2 ≤ digits.toList.length
  · rw [if_pos hthere, List.drop_append_of_le_length (by omega),
      List.take_append_of_le_length (by simp; omega)]
    obtain ⟨a, b, hab⟩ := List.length_eq_two.mp
      (by simp; omega : ((digits.toList.drop position).take 2).length = 2)
    have hsub : ∀ c ∈ [a, b], c.isDigit := fun c hc =>
      h.isDigit c (List.mem_of_mem_drop (List.mem_of_mem_take (hab ▸ hc)))
    have hvalue := unsigned?_digits (List.cons_ne_nil a [b]) hsub
    rw [hab]
    simp only [List.map_cons, List.map_nil] at hvalue ⊢
    rw [hvalue, Option.getD_some]
  · -- the number of digits is even, so not even half of the field is there
    have hend : digits.toList.length ≤ position ∧ digits.toList.length ≠ 14 := by
      have hlength := h.length
      simp only [List.mem_cons, List.not_mem_nil, or_false] at hlength hposition
      omega
    have hzone : zone = "" := h.universal.resolve_right fun hz => hend.2 hz.2
    rw [if_neg hthere, hzone, List.drop_eq_nil_of_le (by simpa using hend.1)]
    rfl

theorem signed?_eq (h : DigitDate mark digits zone) :
    signed? ((body digits zone).take 4) =
      some (Nat.ofDigitChars 10 (digits.toList.take 4) 0 : Int) := by
  have hlength := h.length_pos
  rw [body, ← List.map_take, List.take_append_of_le_length hlength]
  refine signed?_digits ?_ fun c hc => h.isDigit c (List.mem_of_mem_take hc)
  rw [Ne, List.take_eq_nil_iff]
  rintro (h | h)
  · omega
  · rw [h] at hlength
    exact absurd hlength (by decide)

end DigitDate

/-! ## Dates -/

/-- The numbers of a date and a time of day. -/
structure DateFields where
  year : Nat
  month : Nat
  day : Nat
  hour : Nat
  minute : Nat
  second : Nat
deriving DecidableEq

namespace DateFields

/-- The numbers that digits write; a missing month or day is the first, and a
missing part of the time is zero. -/
def ofDigits (digits : String) : DateFields where
  year := Nat.ofDigitChars 10 (digits.toList.take 4) 0
  month := fieldAt digits 4 1
  day := fieldAt digits 6 1
  hour := fieldAt digits 8 0
  minute := fieldAt digits 10 0
  second := fieldAt digits 12 0

/-- The day is in the calendar, and the clock can show the time. -/
structure Exist (f : DateFields) : Prop where
  day : Time.IsDay f.year f.month f.day
  hour : f.hour < 24
  minute : f.minute < 60
  second : f.second < 60

/-- A moment has these numbers, and no fraction of a second. -/
structure ShownBy (f : DateFields) (m : Time.Moment) : Prop where
  date : m.date = ⟨f.year, f.month, f.day⟩
  hour : m.hour = f.hour
  minute : m.minute = f.minute
  second : m.second = f.second
  nanos : m.nanos = 0

/-- The numbers of a whole second tell its moment. -/
theorem ShownBy.unique {f : DateFields} {m m' : Time.Moment} (h : f.ShownBy m)
    (h' : f.ShownBy m') :
    m = m' := by
  obtain ⟨date, hour, minute, second, nanos, _, _, _, _, _⟩ := m
  obtain ⟨date', hour', minute', second', nanos', _, _, _, _, _⟩ := m'
  obtain ⟨rfl, rfl, rfl, rfl, rfl⟩ := h
  obtain ⟨rfl, rfl, rfl, rfl, rfl⟩ := h'
  rfl

theorem ofFields?_of_exist {f : DateFields} (hyear : f.year ≤ 9999) (h : f.Exist) :
    ∃ m, Time.Moment.ofFields? f.year f.month f.day f.hour f.minute f.second 0 =
      some m ∧
      f.ShownBy m := by
  have hday := (Time.isValid_iff hyear).mpr h.day
  exact ⟨_, dif_pos ⟨hday, h.hour, h.minute, h.second, by decide⟩, rfl, rfl,
    rfl, rfl, rfl⟩

theorem ofFields?_of_not_exist {f : DateFields} (hyear : f.year ≤ 9999)
    (h : ¬ f.Exist) :
    Time.Moment.ofFields? f.year f.month f.day f.hour f.minute f.second 0 =
      none := by
  refine dif_neg fun hall => h ?_
  obtain ⟨hday, hhour, hminute, hsecond, -⟩ := hall
  exact ⟨(Time.isValid_iff hyear).mp hday, hhour, hminute, hsecond⟩

end DateFields

/-- A date of digits is read as its fields. -/
theorem DigitDate.dateOf?_eq (h : DigitDate mark digits zone) :
    dateOf? (mark ++ digits ++ zone) =
    Time.Moment.ofFields? (DateFields.ofDigits digits).year
      (DateFields.ofDigits digits).month
      (DateFields.ofDigits digits).day (DateFields.ofDigits digits).hour
      (DateFields.ofDigits digits).minute (DateFields.ofDigits digits).second
        0 := by
  have hlength : 4 ≤ (body digits zone).length := by
    have hdigits := h.length_pos
    rw [body, List.length_map, List.length_append]
    omega
  have hbytes : Text.encodeUtf8 (mark ++ digits ++ zone) =
      68 :: 58 :: body digits zone ∨
      Text.encodeUtf8 (mark ++ digits ++ zone) = body digits zone ∧
      (body digits zone).head? ≠ some 68 := by
    rw [h.encodeUtf8_eq]
    rcases h.marked with rfl | rfl
    · refine .inr ⟨rfl, ?_⟩
      -- a digit is not the first letter of the mark
      obtain ⟨c, cs, hcs⟩ := List.exists_cons_of_length_pos
        (Nat.lt_of_lt_of_le (by decide) h.length_pos)
      have hc := toUInt8_digit (h.isDigit c (hcs ▸ List.mem_cons_self))
      intro hhead
      rw [body, hcs] at hhead
      rw [Option.some.inj hhead] at hc
      exact absurd hc (by decide)
    · exact .inl rfl
  rw [dateOf?_of_body hbytes hlength, h.signed?_eq, Option.bind_some,
    h.datePart_eq (by decide), h.datePart_eq (by decide),
    h.datePart_eq (by decide), h.datePart_eq (by decide), h.datePart_eq (by decide)]
  rfl

theorem DigitDate.year_le (h : DigitDate mark digits zone) :
    (DateFields.ofDigits digits).year ≤ 9999 := by
  have hlt := Contents.ofDigitChars_lt fun c hc =>
    h.isDigit c (List.mem_of_mem_take (i := 4) hc)
  rw [List.length_take_of_le h.length_pos] at hlt
  exact Nat.le_of_lt_succ hlt

/-! ## Moments as digits -/

/-- The numbers of a moment, one after the other: four digits for the year and
two for each other. -/
def compactText (m : Time.Moment) : String :=
  Time.padded 4 m.date.year.toNat ++ Time.padded 2 m.date.month ++
    Time.padded 2 m.date.day ++ Time.padded 2 m.hour ++
    Time.padded 2 m.minute ++ Time.padded 2 m.second

theorem ofDigitChars_padded (width n : Nat) :
    Nat.ofDigitChars 10 (Time.padded width n).toList 0 = n := by
  have hvalue := Time.digitsValue?_padded width n
  rw [Time.digitsValue?_eq (Time.padded_ne_nil width n) Time.isDigit_padded]
    at hvalue
  exact Option.some.inj hvalue

theorem length_two {n : Nat} (hn : n < 100) : (Time.padded 2 n).toList.length = 2 :=
  Time.length_padded
    (Time.length_toDigits_le (rfl : Nat.pow 10 2 = 100) (by decide) hn)

/-- A number in two digits is the field at its position. -/
theorem fieldAt_padded {before after : List Char} {n position : Nat}
    (default : Nat) (hn : n < 100)
    (hdigits : digits.toList = before ++ ((Time.padded 2 n).toList ++ after))
    (hposition : before.length = position) :
    fieldAt digits position default = n := by
  have hlength := length_two hn
  unfold fieldAt
  rw [hdigits, List.drop_left' hposition, List.take_left' hlength,
    ofDigitChars_padded, if_pos]
  simp only [List.length_append]
  omega

/-- The text of a moment is fourteen digits, which write its numbers. -/
theorem compactText_spec {m : Time.Moment} (hyear : m.date.year.toNat ≤ 9999) :
    (∀ c ∈ (compactText m).toList, c.isDigit) ∧ (compactText m).toList.length = 14 ∧
      DateFields.ofDigits (compactText m) =
        ⟨m.date.year.toNat, m.date.month, m.date.day, m.hour, m.minute,
          m.second⟩ := by
  obtain ⟨hpos, hdays⟩ := Time.Date.day_of_isValid m.isValid_date
  obtain ⟨-, hmonth, hday, -⟩ := Time.daysInMonth_spec hpos hdays
  have hhour := m.hour_lt
  have hminute := m.minute_lt
  have hsecond := m.second_lt
  have hfour : (Time.padded 4 m.date.year.toNat).toList.length = 4 :=
    Time.length_padded (Time.length_toDigits_le (rfl : Nat.pow 10 4 = 10000)
      (by decide) (Nat.lt_succ_of_le hyear))
  have hlenMonth := length_two (by omega : m.date.month < 100)
  have hlenDay := length_two (by omega : m.date.day < 100)
  have hlenHour := length_two (by omega : m.hour < 100)
  have hlenMinute := length_two (by omega : m.minute < 100)
  have hlenSecond := length_two (by omega : m.second < 100)
  have htext : (compactText m).toList =
      (Time.padded 4 m.date.year.toNat).toList ++
        ((Time.padded 2 m.date.month).toList ++
      ((Time.padded 2 m.date.day).toList ++
        ((Time.padded 2 m.hour).toList ++ ((Time.padded 2 m.minute).toList ++
        (Time.padded 2 m.second).toList)))) := by
    simp only [compactText, String.toList_append, List.append_assoc]
  refine ⟨?_, ?_, ?_⟩
  · rw [htext]
    simp only [List.forall_mem_append]
    exact ⟨Time.isDigit_padded, Time.isDigit_padded, Time.isDigit_padded,
      Time.isDigit_padded, Time.isDigit_padded, Time.isDigit_padded⟩
  · rw [htext]
    simp only [List.length_append]
    omega
  · have hfirst : Nat.ofDigitChars 10 ((compactText m).toList.take 4) 0 =
        m.date.year.toNat := by
      rw [htext, List.take_left' hfour, ofDigitChars_padded]
    unfold DateFields.ofDigits
    rw [hfirst, fieldAt_padded 1 (by omega) htext hfour]
    rw [← List.append_assoc] at htext
    rw [fieldAt_padded 1 (by omega) htext
      (by simp only [List.length_append]; omega)]
    rw [← List.append_assoc] at htext
    rw [fieldAt_padded 0 (by omega) htext
      (by simp only [List.length_append]; omega)]
    rw [← List.append_assoc] at htext
    rw [fieldAt_padded 0 (by omega) htext
      (by simp only [List.length_append]; omega)]
    rw [← List.append_assoc, ← List.append_nil (Time.padded 2 m.second).toList]
      at htext
    rw [fieldAt_padded 0 (by omega) htext
      (by simp only [List.length_append]; omega)]

/-- **Dates of digits.**  A date without an offset, with or without its mark,
and with or without a letter for universal time after the seconds, names the
moment with the fields that its digits write, if there is such a day and such a
time, and nothing otherwise; a missing month or day is the first, and a missing
part of the time is zero.  So every moment of a whole second in the years from 0
to 9999 comes back from its digits. -/
theorem dateOf?_reads_digits :
    (∀ mark digits zone, DigitDate mark digits zone →
      ((DateFields.ofDigits digits).Exist →
        ∃ m, dateOf? (mark ++ digits ++ zone) = some m ∧
          (DateFields.ofDigits digits).ShownBy m) ∧
      (¬ (DateFields.ofDigits digits).Exist →
        dateOf? (mark ++ digits ++ zone) = none)) ∧
    ∀ (m : Time.Moment) (mark zone : String), m.nanos = 0 → 0 ≤ m.date.year →
      m.date.year ≤ 9999 → (mark = "" ∨ mark = "D:") →
      (zone = "" ∨ zone = "Z") →
      dateOf? (mark ++ compactText m ++ zone) = some m := by
  constructor
  · intro mark digits zone h
    rw [h.dateOf?_eq]
    exact ⟨DateFields.ofFields?_of_exist h.year_le,
      DateFields.ofFields?_of_not_exist h.year_le⟩
  · intro m mark zone hwhole hlow hhigh hmark hzone
    obtain ⟨hdigits, hlength, hfields⟩ := compactText_spec (m := m) (by omega)
    have h : DigitDate mark (compactText m) zone :=
      ⟨hmark, hdigits, by rw [hlength]; decide, hzone.imp_right fun hz =>
        ⟨hz, hlength⟩⟩
    rw [h.dateOf?_eq, hfields]
    dsimp only
    rw [Int.toNat_of_nonneg hlow, ← hwhole, m.ofFields?_eq]

/-- The last day of February, in a leap year and in another one, and the last
second of the year zero. -/
theorem lastDays_read_digits :
    dateOf? "D:20240229" = some { date := ⟨2024, 2, 29⟩ } ∧
    dateOf? "20230229" = none ∧
    dateOf? ("D:" ++ compactText
        { date := ⟨0, 12, 31⟩, hour := 23, minute := 59, second := 59 } ++ "Z") =
      some { date := ⟨0, 12, 31⟩, hour := 23, minute := 59, second := 59 } := by
  obtain ⟨hread, hback⟩ := dateOf?_reads_digits
  have hleap : DigitDate "D:" "20240229" "" :=
    ⟨.inr rfl, List.all_eq_true.mp
      (by decide : "20240229".toList.all Char.isDigit = true), by decide, .inl rfl⟩
  have hplain : DigitDate "" "20230229" "" :=
    ⟨.inl rfl, List.all_eq_true.mp
      (by decide : "20230229".toList.all Char.isDigit = true), by decide, .inl rfl⟩
  have hfields : DateFields.ofDigits "20240229" = ⟨2024, 2, 29, 0, 0, 0⟩ := by
    decide
  have hthere : (DateFields.ofDigits "20240229").Exist := by
    rw [hfields]
    exact ⟨by decide, by decide, by decide, by decide⟩
  have hmissing : ¬ (DateFields.ofDigits "20230229").Exist := by
    have hfields : DateFields.ofDigits "20230229" = ⟨2023, 2, 29, 0, 0, 0⟩ := by
      decide
    rw [hfields]
    exact fun h => absurd h.day (by decide)
  refine ⟨?_, (hread _ _ _ hplain).2 hmissing, ?_⟩
  · obtain ⟨m, hm, hshown⟩ := (hread _ _ _ hleap).1 hthere
    rw [hfields] at hshown
    have hday : DateFields.ShownBy ⟨2024, 2, 29, 0, 0, 0⟩
        { date := ⟨2024, 2, 29⟩ } :=
      ⟨rfl, rfl, rfl, rfl, rfl⟩
    rw [← hshown.unique hday]
    exact hm
  · exact hback { date := ⟨0, 12, 31⟩, hour := 23, minute := 59, second := 59 }
      "D:" "Z" rfl
      (by decide) (by decide) (.inr rfl) (.inr rfl)

end Pdf

end Prospectus
