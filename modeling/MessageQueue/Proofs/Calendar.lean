import MessageQueue.Calendar
import Mathlib.Data.List.Basic

/-!
# Times and their texts

Days are counted in cycles of four hundred years, and in a cycle by year and by day of the year.
The year of a day is computed by one division.  It never falls from a day to the next one, so it is
right on every day because it is right on the first day of each of the four hundred years and on the
day before (`Date.yearOfDay_spec`).  So a day is known from its date (`Date.ofDays_injective`).

The month and the day of a date are written with two digits each, so what is in front of the last
four characters is the year, however long it is.  The time of day stands behind the only `T`.  So a
second is known from its text (`Timestamp.text_injective`).
-/

namespace MessageQueue
namespace Date

/-! ## Days of a cycle -/

/-- The day of a cycle on which a year begins. -/
def yearStart (year : Nat) : Nat := 365 * year + year / 4 - year / 100

/-- The year of a cycle in which a day falls. -/
def yearOfDay (day : Nat) : Nat := (day - day / 1460 + day / 36524 - day / 146096) / 365

theorem yearOfDay_mono {day later : Nat} (le : day ≤ later) (within : later < 146097) :
    yearOfDay day ≤ yearOfDay later := by
  rw [yearOfDay, yearOfDay]
  exact Nat.div_le_div_right (by omega)

/-- The year is right on the day on which it begins, and on the day before. -/
theorem yearOfDay_yearStart :
    ∀ year < 400, yearOfDay (yearStart year) = year ∧ yearOfDay (yearStart year -
      1) = year - 1 := by
  decide +kernel

/-- The year of a day has begun by then, and not more than a leap year ago. -/
theorem yearOfDay_spec {day : Nat} (within : day < 146097) :
    yearOfDay day < 400 ∧ yearStart (yearOfDay day) ≤ day ∧
      day < yearStart (yearOfDay day) + 366 := by
  have small : yearOfDay day < 400 := by
    rw [yearOfDay]
    omega
  refine ⟨small, ?_, ?_⟩
  · by_contra before
    -- The day falls in the year before at the latest.
    have latest := (yearOfDay_yearStart _ small).2
    have bound : yearStart (yearOfDay day) ≤ 146097 := by
      rw [yearStart]
      omega
    have earlier := yearOfDay_mono (Nat.le_sub_one_of_lt (Nat.not_le.mp before)) (by omega)
    obtain zero : yearOfDay day = 0 := by omega
    rw [zero] at before
    exact before (Nat.zero_le day)
  · by_contra behind
    by_cases last : yearOfDay day = 399
    · rw [last] at behind
      exact behind within
    · -- The day falls in the next year at the earliest.
      have next : yearStart (yearOfDay day + 1) ≤ day := by
        rw [yearStart] at behind ⊢
        omega
      have begun := (yearOfDay_yearStart (yearOfDay day + 1) (by omega)).1
      have later := yearOfDay_mono next within
      omega

/-! ## Days of a year -/

/-- The month, counted from March, in which a day of the year falls. -/
def monthOfDay (day : Nat) : Nat := (5 * day + 2) / 153

/-- The date of a day of a year; both are counted from March. -/
def ofYearDay (year : Int) (day : Nat) : Date :=
  let month := if monthOfDay day < 10 then monthOfDay day + 3 else monthOfDay day - 9
  ⟨year + if month ≤ 2 then 1 else 0, month, day - (153 * monthOfDay day + 2) / 5 + 1⟩

theorem monthOfDay_spec {day : Nat} (within : day < 366) :
    monthOfDay day < 12 ∧ (153 * monthOfDay day + 2) / 5 ≤ day ∧
      day - (153 * monthOfDay day + 2) / 5 < 31 := by
  rw [monthOfDay]
  omega

/-- A day belongs to a year of a cycle, and its date is that of a day of this year. -/
theorem ofDays_eq (days : Int) :
    ∃ (era : Int) (year day : Nat), year < 400 ∧ day < 366 ∧
      days + 719468 = 146097 * era + (yearStart year + day : Nat) ∧
      ofDays days = ofYearDay (era * 400 + year) day := by
  have positive : (0 : Int) < 146097 := by decide
  have split := Int.mul_fdiv_add_fmod (days + 719468) 146097
  have nonneg := Int.fmod_nonneg_of_pos (days + 719468) positive
  have less := Int.fmod_lt_of_pos (days + 719468) positive
  have rest : days + 719468 - (days + 719468).fdiv 146097 * 146097 =
      (days + 719468).fmod 146097 := by omega
  obtain ⟨cycle, same⟩ := Int.eq_ofNat_of_zero_le nonneg
  obtain ⟨small, begun, recent⟩ := yearOfDay_spec (show cycle < 146097 by omega)
  refine ⟨(days + 719468).fdiv 146097, yearOfDay cycle, cycle - yearStart (yearOfDay cycle), small,
    by omega, ?_, ?_⟩
  · rw [Nat.add_sub_cancel' begun]
    omega
  · rw [ofDays, rest, same]
    rfl

/-- Different days have different dates. -/
theorem ofDays_injective {days others : Int} (same : ofDays days = ofDays others) :
    days = others := by
  obtain ⟨era, year, day, small, within, count, date⟩ := ofDays_eq days
  obtain ⟨era', year', day', small', within', count', date'⟩ := ofDays_eq others
  rw [date, date', ofYearDay, ofYearDay, Date.mk.injEq] at same
  obtain ⟨years, months, dates⟩ := same
  obtain ⟨low, start, -⟩ := monthOfDay_spec within
  obtain ⟨low', start', -⟩ := monthOfDay_spec within'
  have month : monthOfDay day = monthOfDay day' := by
    split at months <;> split at months <;> omega
  rw [month] at start dates years
  have sameDay : day = day' := by omega
  have sameYear : era * 400 + year = era' * 400 + year' := by omega
  obtain ⟨rfl, rfl⟩ : era = era' ∧ year = year' := by omega
  rw [sameDay] at count
  omega

/-- Months and days have at most two digits. -/
theorem ofDays_lt (days : Int) : (ofDays days).month < 100 ∧ (ofDays days).day < 100 := by
  obtain ⟨era, year, day, -, within, -, date⟩ := ofDays_eq days
  obtain ⟨low, -, short⟩ := monthOfDay_spec within
  rw [date]
  simp only [ofYearDay]
  refine ⟨?_, by omega⟩
  split <;> omega

/-! ## Written dates -/

theorem length_padded {width n : Nat} (positive : 0 < width) (small : n < Nat.pow 10 width) :
    (padded width n).length = width := by
  have fits := (Nat.length_toDigits_le_iff (by decide) positive).mpr small
  rw [padded, List.length_append, List.length_replicate]
  exact Nat.sub_add_cancel fits

/-- A number is what its digits say, with or without zeros in front. -/
theorem ofDigitChars_padded (width n : Nat) : Nat.ofDigitChars 10 (padded width n) 0 = n := by
  rw [padded, Nat.ofDigitChars_append, Nat.ofDigitChars_replicate_zero, Nat.mul_zero,
    Nat.ofDigitChars_ten_toDigits]

theorem padded_injective {width m n : Nat} (same : padded width m = padded width n) : m = n := by
  rw [← ofDigitChars_padded width m, same, ofDigitChars_padded]

/-- Padding a number with zeros leaves digits. -/
theorem isDigit_of_mem_padded {width n : Nat} {c : Char} (member : c ∈ padded width n) :
    c.isDigit := by
  rw [padded, List.mem_append, List.mem_replicate] at member
  obtain ⟨-, rfl⟩ | digit := member
  · decide
  · exact Nat.isDigit_of_mem_toDigits (by decide) (by decide) digit

/-- A year is written in digits, after a sign if it needs one. -/
theorem mem_yearText {year : Int} {c : Char} (member : c ∈ yearText year) :
    c.isDigit ∨ c = '-' ∨ c = '+' := by
  rw [yearText] at member
  split at member
  · exact .inl (isDigit_of_mem_padded member)
  · obtain sign | digit := List.mem_cons.1 member
    · split at sign
      · exact .inr (.inl sign)
      · exact .inr (.inr sign)
    · exact .inl (isDigit_of_mem_padded digit)

/-- A day is written in digits and signs. -/
theorem mem_basicText {d : Date} {c : Char} (member : c ∈ d.basicText) :
    c.isDigit ∨ c = '-' ∨ c = '+' := by
  rw [basicText, List.mem_append, List.mem_append] at member
  obtain (year | month) | day := member
  · exact mem_yearText year
  · exact .inl (isDigit_of_mem_padded month)
  · exact .inl (isDigit_of_mem_padded day)

/-- A year in digits only is none with a sign. -/
theorem padded_ne_cons {width n : Nat} {sign : Char} (noDigit : sign.isDigit = false)
    (rest : List Char) :
    padded width n ≠ sign :: rest := by
  intro same
  have digit := isDigit_of_mem_padded (same ▸ List.mem_cons_self)
  rw [noDigit] at digit
  cases digit

theorem yearText_injective {year other : Int} (same : yearText year = yearText other) :
    year = other := by
  have sign (y : Int) : (if y < 0 then '-' else '+').isDigit = false := by split <;> rfl
  unfold yearText at same
  by_cases plain : 0 ≤ year ∧ year ≤ 9999 <;> by_cases plainToo : 0 ≤ other ∧ other ≤ 9999
  · rw [if_pos plain, if_pos plainToo] at same
    have number := padded_injective same
    omega
  · rw [if_pos plain, if_neg plainToo] at same
    exact absurd same (padded_ne_cons (sign other) _)
  · rw [if_neg plain, if_pos plainToo] at same
    exact absurd same.symm (padded_ne_cons (sign year) _)
  · rw [if_neg plain, if_neg plainToo] at same
    obtain ⟨signs, digits⟩ := List.cons.inj same
    have size := padded_injective digits
    have direction : year < 0 ↔ other < 0 := by
      by_cases negative : year < 0 <;> by_cases negativeToo : other < 0 <;>
          simp [negative, negativeToo] at signs ⊢
    omega

/-- Different days are written differently. -/
theorem basicText_injective {days others : Int}
    (same : (ofDays days).basicText = (ofDays others).basicText) :
    days = others := by
  have two {n : Nat} (small : n < 100) : (padded 2 n).length = 2 := length_padded (by decide) small
  obtain ⟨month, day⟩ := ofDays_lt days
  obtain ⟨month', day'⟩ := ofDays_lt others
  obtain ⟨front, sameDay⟩ := List.append_inj' same (by rw [two day, two day'])
  obtain ⟨sameYear, sameMonth⟩ := List.append_inj' front (by rw [two month, two month'])
  refine ofDays_injective ?_
  cases date : ofDays days
  cases date' : ofDays others
  simp only [date, date'] at sameYear sameMonth sameDay
  rw [yearText_injective sameYear, padded_injective sameMonth, padded_injective sameDay]

end Date

namespace Timestamp

/-- The day is what stands before the `T` of the time, whatever the year. -/
theorem takeWhile_text (t : Timestamp) : t.text.takeWhile (· ≠ 'T') = t.dateText := by
  have before : ∀ c ∈ t.dateText, (decide (c ≠ 'T')) = true := by
    intro c member
    obtain digit | rfl | rfl := Date.mem_basicText member
    · refine decide_eq_true ?_
      rintro rfl
      exact absurd digit (by decide)
    · decide
    · decide
  rw [text, List.takeWhile_append_of_pos before]
  simp

/-- A time is written in digits, signs and two letters. -/
theorem mem_text {t : Timestamp} {c : Char} (member : c ∈ t.text) :
    c.isDigit ∨ c = '-' ∨ c = '+' ∨ c = 'T' ∨ c = 'Z' := by
  simp only [text, List.mem_append, List.mem_cons, List.not_mem_nil, or_false] at member
  rcases member with date | rfl | ((hour | minute) | second) | rfl
  · obtain digit | minus | plus := Date.mem_basicText date
    · exact .inl digit
    · exact .inr (.inl minus)
    · exact .inr (.inr (.inl plus))
  · simp
  · exact .inl (Date.isDigit_of_mem_padded hour)
  · exact .inl (Date.isDigit_of_mem_padded minute)
  · exact .inl (Date.isDigit_of_mem_padded second)
  · simp

/-- There is no space in the time. -/
theorem not_mem_text (t : Timestamp) : ' ' ∉ t.text :=
  fun member => absurd (mem_text member) (by decide)

/-- Different seconds are written differently. -/
theorem text_injective {t u : Timestamp} (same : t.text = u.text) : t = u := by
  have two {n : Nat} (small : n < 100) : (Date.padded 2 n).length = 2 :=
    Date.length_padded (by decide) small
  have date : t.dateText = u.dateText := by rw [← takeWhile_text, same, takeWhile_text]
  have days : t.seconds.fdiv 86400 = u.seconds.fdiv 86400 := Date.basicText_injective date
  have positive : (0 : Int) < 86400 := by decide
  have split := Int.mul_fdiv_add_fmod t.seconds 86400
  have split' := Int.mul_fdiv_add_fmod u.seconds 86400
  have nonneg := Int.fmod_nonneg_of_pos t.seconds positive
  have nonneg' := Int.fmod_nonneg_of_pos u.seconds positive
  have less := Int.fmod_lt_of_pos t.seconds positive
  have less' := Int.fmod_lt_of_pos u.seconds positive
  rw [text, text, date] at same
  obtain ⟨-, clock⟩ := List.cons.inj (List.append_cancel_left same)
  obtain ⟨front, -⟩ := List.append_inj' clock rfl
  obtain ⟨front, sameSecond⟩ := List.append_inj' front (by rw [two (by omega), two (by omega)])
  obtain ⟨sameHour, sameMinute⟩ := List.append_inj' front (by rw [two (by omega), two (by omega)])
  have hour := Date.padded_injective sameHour
  have minute := Date.padded_injective sameMinute
  have second := Date.padded_injective sameSecond
  have seconds : t.seconds = u.seconds := by omega
  cases t
  cases u
  exact congrArg Timestamp.mk seconds

end Timestamp
end MessageQueue
