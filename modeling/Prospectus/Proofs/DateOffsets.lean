import Prospectus.Proofs.DateReading

/-!
# Dates with an offset

A date may end with the offset of the clock that it was read from, as in
`D:20240101003000+01'00'`.  The moment that such a date means is the local time
less the offset; `Moment.minusSeconds?` gives it, over the ends of hours, days,
months and years (`Moment.exists_minusSeconds?`), because a number of days comes
back from its date (`Date.toDays_ofDays`).

The reader looks at nothing after the seconds (`dateOf?_append`), so the local
time is taken for universal time, and the moment is the one that is meant only
where the offset is zero (`dateOf?_passes_over_offset`).
-/

namespace Prospectus

namespace Time

/-! ## Days and their dates -/

/-- The day of an era tells its year and the day of that year: the era is cut
into centuries, these into spans of four years, and these into years, the last
of each being a day longer or shorter than the others. -/
theorem exists_yearOfEra {doe : Nat} (hdoe : doe < 146097) : ∃ y doy :
    Nat, y < 400 ∧ doy ≤ 365 ∧
    (doy = 365 → y % 4 = 3 ∧ (y % 100 ≠ 99 ∨ y = 399)) ∧
    doe + y / 100 = y * 365 + y / 4 + doy := by
  obtain ⟨century, hcentury⟩ : ∃ c, min (doe / 36524) 3 = c := ⟨_, rfl⟩
  obtain ⟨span, hspan⟩ : ∃ q, (doe - 36524 * century) / 1461 = q := ⟨_, rfl⟩
  obtain ⟨r, hr⟩ : ∃ r, min ((doe - 36524 * century - 1461 * span) / 365) 3 =
      r := ⟨_, rfl⟩
  have hc : century ≤ 3 ∧ 36524 * century ≤ doe ∧
      (century < 3 → doe < 36524 * century + 36524) := by omega
  have hs : span ≤ 24 ∧ 36524 * century + 1461 * span ≤ doe ∧
      doe < 36524 * century + 1461 * span + 1461 := by omega
  have hy : 100 * century + 4 * span + r < 400 := by omega
  refine ⟨100 * century + 4 * span + r, doe - 36524 * century - 1461 * span -
    365 * r, hy, by omega, by omega, ?_⟩
  have h1 : (100 * century + 4 * span + r) / 100 = century := by omega
  have h2 : (100 * century + 4 * span + r) / 4 = 25 * century + span := by omega
  rw [h1, h2]
  omega

/-- The date of a number of days, from its era, the year of the era and the day
of the year, both beginning in March. -/
theorem Date.exists_ofDays (days : Int) :
    ∃ (era : Int) (y doy march : Nat), y < 400 ∧ doy ≤ 365 ∧
    (doy = 365 → y % 4 = 3 ∧ (y % 100 ≠ 99 ∨ y = 399)) ∧
    (5 * doy + 2) / 153 = march ∧
    days = era * 146097 + (y * 365 + y / 4 - y / 100 + doy : Nat) - 719468 ∧
    Date.ofDays days = ⟨if march < 10 then y + era * 400 else y + era * 400 + 1,
      if march < 10 then march + 3
        else march - 9, doy - (153 * march + 2) / 5 + 1⟩ := by
  obtain ⟨doe, hdoe⟩ := Int.eq_ofNat_of_zero_le
    (Int.emod_nonneg (days + 719468) (by decide : (146097 : Int) ≠ 0))
  obtain ⟨y, doy, hy, hdoy, hleap, hsum⟩ :=
    exists_yearOfEra (by omega : doe < 146097)
  have hyear := yearOfEra_eq hy hdoy hleap hsum
  have hrest : doe - (365 * y + y / 4 - y / 100) = doy := by omega
  refine ⟨(days + 719468) / 146097, y, doy, _, hy, hdoy, hleap, rfl, by omega, ?_⟩
  unfold Date.ofDays
  simp only [hdoe, Int.toNat_natCast, hyear, hrest]
  by_cases hlate : (5 * doy + 2) / 153 < 10
  · simp only [if_pos hlate]
    rw [if_neg (by omega)]
  · simp only [if_neg hlate]
    rw [if_pos (by omega)]

/-- **A number of days comes back from its date.** -/
theorem Date.toDays_ofDays (days : Int) : (Date.ofDays days).toDays = days := by
  obtain ⟨era, y, doy, march, hy, hdoy, -, hmarch, hdays, hdate⟩ :=
    Date.exists_ofDays days
  have hera : ((y : Int) + era * 400) / 400 = era := by omega
  have hyear : ((y : Int) + era * 400) % 400 = y := by omega
  rw [hdate]
  unfold Date.toDays
  by_cases hlate : march < 10
  · have hmonth : ((march + 3 : Nat) + 9 : Int) % 12 = march := by omega
    simp only [if_pos hlate]
    rw [if_neg (by omega), hera, hyear, hmonth]
    omega
  · have hmonth : ((march - 9 : Nat) + 9 : Int) % 12 = march := by omega
    simp only [if_neg hlate]
    rw [if_pos (by omega), Int.add_sub_cancel, hera, hyear, hmonth]
    omega

/-- The date of a number of days is a date of the calendar, if its year is in
range. -/
theorem Date.isValid_ofDays {days : Int}
    (hlow : yearRange.1 ≤ (Date.ofDays days).year)
    (hhigh : (Date.ofDays days).year ≤ yearRange.2) :
    (Date.ofDays days).isValid = true := by
  obtain ⟨era, y, doy, march, hy, hdoy, hleap, hmarch, -, hdate⟩ :=
    Date.exists_ofDays days
  rw [hdate] at hlow hhigh ⊢
  simp only [Date.isValid, hlow, hhigh, Bool.and_eq_true,
    decide_eq_true_eq, true_and]
  have hmonth : march = 0 ∨ march = 1 ∨ march = 2 ∨ march = 3 ∨ march = 4 ∨
      march = 5 ∨ march = 6 ∨ march = 7 ∨
      march = 8 ∨ march = 9 ∨ march = 10 ∨ march = 11 := by omega
  refine ⟨by omega, ?_⟩
  rcases hmonth with rfl | rfl | rfl | rfl | rfl | rfl | rfl | rfl | rfl |
    rfl | rfl | rfl
  case inr.inr.inr.inr.inr.inr.inr.inr.inr.inr.inr =>
    -- February, which comes last, has its 29th day at the end of a leap year
    change doy - (153 * 11 + 2) / 5 + 1 ≤ if isLeapYear (y + era * 400 + 1)
      then 29 else 28
    by_cases hlast : doy = 365
    · have hyears := hleap hlast
      rw [if_pos]
      · omega
      · simp only [isLeapYear, Bool.and_eq_true, Bool.or_eq_true, decide_eq_true_eq]
        omega
    · split <;> omega
  all_goals
    simp only [daysInMonth, reduceIte, Nat.reduceLT, Nat.reduceAdd, Nat.reduceSub]
    omega

/-! ## Seconds -/

/-- The moment of a number of seconds has that number. -/
theorem Moment.seconds_of_ofSeconds? {total : Int} {nanos : Nat} {m : Moment}
    (h : ofSeconds? total nanos = some m) :
    m.seconds = total ∧ m.nanos = nanos := by
  unfold ofSeconds? ofFields? at h
  dsimp only at h
  split at h
  case isTrue =>
    cases h
    refine ⟨?_, rfl⟩
    unfold seconds
    dsimp only
    rw [Date.toDays_ofDays]
    omega
  case isFalse => cases h

/-- Dates of the years 0 to 9999 are less than four million days away. -/
theorem Date.toDays_bounds {d : Date} (hd : d.isValid) (hlow : 0 ≤ d.year)
    (hhigh : d.year ≤ 9999) :
    -1000000 < d.toDays ∧ d.toDays < 4000000 := by
  obtain ⟨hpos, hdays⟩ := Date.day_of_isValid hd
  obtain ⟨-, hmonth, hday, -⟩ := daysInMonth_spec hpos hdays
  unfold Date.toDays
  dsimp only
  split <;> omega

/-- Seconds are taken from a moment of the years 0 to 9999, less than a day of
them over the ends of hours, days, months and years. -/
theorem Moment.exists_minusSeconds? {m : Moment} (hlow : 0 ≤ m.date.year)
    (hhigh : m.date.year ≤ 9999) {seconds : Int} (hnear : seconds.natAbs < 86400) :
    ∃ meant, m.minusSeconds? seconds = some meant ∧
      meant.seconds = m.seconds - seconds ∧
      meant.nanos = m.nanos := by
  have hhour := m.hour_lt
  have hminute := m.minute_lt
  have hsecond := m.second_lt
  have hbounds := Date.toDays_bounds m.isValid_date hlow hhigh
  obtain ⟨days, hdays⟩ : ∃ days, (m.seconds - seconds) / 86400 = days := ⟨_, rfl⟩
  have hyear : yearRange.1 ≤ (Date.ofDays days).year ∧
      (Date.ofDays days).year ≤ yearRange.2 := by
    unfold Moment.seconds at hdays
    obtain ⟨era, y, doy, march, hy, hdoy, -, hmarch, hsum, hdate⟩ :=
      Date.exists_ofDays days
    rw [hdate]
    change -262143 ≤ _ ∧ _ ≤ 262142
    split
    · dsimp only
      omega
    · dsimp only
      omega
  have hvalid := Date.isValid_ofDays hyear.1 hyear.2
  have hsome : ∃ meant, m.minusSeconds? seconds = some meant := by
    unfold minusSeconds? ofSeconds?
    rw [hdays]
    exact ⟨_, dif_pos ⟨hvalid, by omega, by omega, by omega, m.nanos_lt⟩⟩
  obtain ⟨meant, hmeant⟩ := hsome
  exact ⟨meant, hmeant, seconds_of_ofSeconds? hmeant⟩

end Time

namespace Pdf

/-! ## What follows the seconds -/

/-- A part of a date is read from its own two bytes. -/
theorem datePart_append {body : List UInt8} {position : Nat}
    (hposition : position + 2 ≤ body.length)
    (after : List UInt8) (default : Nat) :
    datePart (body ++ after) position default = datePart body position default := by
  unfold datePart
  rw [List.drop_append_of_le_length (by omega),
    List.take_append_of_le_length (by rw [List.length_drop]; omega)]

/-- **Nothing after the seconds is looked at.** -/
theorem dateOf?_append {digits : String} (hdigits : ∀ c ∈ digits.toList, c.isDigit)
    (hlength : digits.toList.length = 14) (after : String) :
    dateOf? ("D:" ++ digits ++ after) = dateOf? ("D:" ++ digits) := by
  obtain ⟨body, hbody, hfourteen⟩ : ∃ body,
      Text.encodeUtf8 ("D:" ++ digits) = 68 :: 58 :: body ∧ body.length = 14 := by
    refine ⟨digits.toList.map Char.toUInt8, ?_, by rw [List.length_map, hlength]⟩
    have hmark : ∀ c ∈ "D:".toList, c.toNat < 128 := by simp
    have hbelow : ∀ c ∈ digits.toList, c.toNat < 128 := by
      intro c hc
      have hhigh : c.toNat ≤ 57 := (Char.isDigit_iff_toNat.mp (hdigits c hc)).2
      omega
    have hascii : ∀ c ∈ ("D:" ++ digits).toList, c.toNat < 128 := by
      rw [String.toList_append]
      exact List.forall_mem_append.mpr ⟨hmark, hbelow⟩
    rw [Text.encodeUtf8_ascii hascii, String.toList_append, List.map_append]
    rfl
  have hlong : Text.encodeUtf8 ("D:" ++ digits ++ after) =
      68 :: 58 :: (body ++ Text.encodeUtf8 after) := by
    rw [Text.encodeUtf8_eq_flatMap] at hbody ⊢
    rw [String.toList_append, List.flatMap_append, hbody,
      Text.encodeUtf8_eq_flatMap]
    rfl
  rw [dateOf?_of_body (.inl hlong) (by rw [List.length_append]; omega),
    dateOf?_of_body (.inl hbody) (by omega),
    List.take_append_of_le_length (by omega)]
  repeat rw [datePart_append (by omega)]

/-- A moment is read from its digits, whatever follows them. -/
theorem dateOf?_compactText {m : Time.Moment} (hwhole : m.nanos = 0)
    (hlow : 0 ≤ m.date.year) (hhigh : m.date.year ≤ 9999) (after : String) :
    dateOf? ("D:" ++ compactText m ++ after) = some m := by
  obtain ⟨hdigits, hlength, hfields⟩ := compactText_spec (m := m) (by omega)
  have hdate : DigitDate "D:" (compactText m) "" :=
    ⟨.inr rfl, hdigits, by rw [hlength]; decide, .inl rfl⟩
  have hplain := hdate.dateOf?_eq
  rw [String.append_empty] at hplain
  rw [dateOf?_append hdigits hlength, hplain, hfields]
  dsimp only
  rw [Int.toNat_of_nonneg hlow, ← hwhole, m.ofFields?_eq]

/-! ## Offsets -/

/-- How far a clock is ahead of universal time or behind it, in hours and
minutes. -/
structure Offset where
  ahead : Bool
  hours : Fin 24
  minutes : Fin 60
deriving DecidableEq

namespace Offset

/-- The offset in seconds, negative behind universal time. -/
def seconds (o : Offset) : Int :=
  if o.ahead then (o.hours.val * 3600 + o.minutes.val * 60 : Nat)
    else -(o.hours.val * 3600 + o.minutes.val * 60 : Nat)

/-- The offset as `+02'30'`. -/
def text (o : Offset) : String :=
  (if o.ahead then "+" else "-") ++ Time.padded 2 o.hours.val ++ "'" ++
    Time.padded 2 o.minutes.val ++ "'"

theorem seconds_lt_day (o : Offset) : o.seconds.natAbs < 86400 := by
  have hhours := o.hours.isLt
  have hminutes := o.minutes.isLt
  unfold seconds
  split <;> omega

end Offset

/-- **Offsets are passed over.**  A date with an offset is read as its local
time.  The moment that it means is the local time less the offset.  There is
such a moment, and it is the one that is read exactly if the offset is zero. -/
theorem dateOf?_passes_over_offset {m : Time.Moment} (hwhole : m.nanos = 0)
    (hlow : 0 ≤ m.date.year) (hhigh : m.date.year ≤ 9999) (o : Offset) :
    dateOf? ("D:" ++ compactText m ++ o.text) = some m ∧
      ∃ meant, m.minusSeconds? o.seconds = some meant ∧
        meant.seconds = m.seconds - o.seconds ∧
        meant.nanos = 0 ∧
        (dateOf? ("D:" ++ compactText m ++ o.text) = some meant ↔
          o.seconds = 0) := by
  have hread := dateOf?_compactText hwhole hlow hhigh o.text
  obtain ⟨meant, hmeant, hseconds, hnanos⟩ :=
    Time.Moment.exists_minusSeconds? hlow hhigh o.seconds_lt_day
  refine ⟨hread, meant, hmeant, hseconds, hnanos.trans hwhole, ?_⟩
  rw [hread]
  constructor
  · intro hright
    rw [← Option.some.inj hright] at hseconds
    omega
  · intro hzero
    rw [← hmeant, hzero, m.minusSeconds?_zero]

/-- Half an hour into a year, on a clock one hour ahead, is still the year
before; the date is read as if the clock showed universal time. -/
theorem newYear_passes_over_offset :
    dateOf? "D:20240101003000+01'00'" =
      some { date := ⟨2024, 1, 1⟩, minute := 30 } ∧
      Time.Moment.minusSeconds? { date := ⟨2024, 1, 1⟩, minute := 30 } 3600 =
        some { date := ⟨2023, 12, 31⟩, hour := 23, minute := 30 } := by
  have htext : "D:" ++ compactText { date := ⟨2024, 1, 1⟩, minute := 30 } ++
      Offset.text ⟨true, 1, 0⟩ = "D:20240101003000+01'00'" := by
    decide
  have h :=
    dateOf?_passes_over_offset (m := { date := ⟨2024, 1, 1⟩, minute := 30 }) rfl
    (by decide) (by decide) ⟨true, 1, 0⟩
  rw [htext] at h
  exact ⟨h.1, by decide⟩

/-- A clock five hours behind shows half past ten when universal time is half
past three in the afternoon, and the date is read as half past ten. -/
theorem westernDate_misses_moment :
    Time.Moment.minusSeconds?
      { date := ⟨2024, 1, 15⟩, hour := 10, minute := 30, second := 45 }
        (Offset.seconds ⟨false, 5, 0⟩) =
      some { date := ⟨2024, 1, 15⟩, hour := 15, minute := 30, second := 45 } ∧
      dateOf? "D:20240115103045-05'00'" ≠
        some { date := ⟨2024, 1, 15⟩, hour := 15, minute := 30, second := 45 } := by
  have hread := dateOf?_compactText
    (m := { date := ⟨2024, 1, 15⟩, hour := 10, minute := 30, second := 45 }) rfl
      (by decide)
    (by decide) "-05'00'"
  have htext : "D:" ++ compactText
      { date := ⟨2024, 1, 15⟩, hour := 10, minute := 30, second := 45 } ++
        "-05'00'" =
      "D:20240115103045-05'00'" := by
    decide
  rw [htext] at hread
  rw [hread]
  exact ⟨by decide +kernel, by decide⟩

end Pdf

end Prospectus
