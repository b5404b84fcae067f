import HttpExchange.Proofs.HttpDate.RoundTrip

/-!
# The older form of dates

In the older form a year is written with its last two digits. It is read as one of the years from 2000 to 2099
or, if that is more than fifty years ahead, as one of the century before. These two centuries do not depend on
the current year: up to 2049 the years that can be meant are the hundred years around the current one, and later
those from 2000 to 2099.

## Main statements

* `HttpDate.read_olderText`: what is written in the older form is read as the same day and time of the year that
  its two digits mean.
* `HttpDate.fullYear_of_window`: which year of the hundred around the current one is meant.
* `HttpDate.read_olderText_of_window`: the instants that are read back.
-/

namespace HttpExchange.HttpDate

open Text

/-! ## The text -/

/-- The names of the days of the week, from Monday. -/
def longWeekdayNames : List String :=
  ["Monday", "Tuesday", "Wednesday", "Thursday", "Friday", "Saturday", "Sunday"]

/-- The older form of a time in whole seconds. -/
def olderText (s : Seconds) : String :=
  let date := Date.ofSeconds s
  let time := TimeOfDay.ofSeconds (s % 86400).toNat
  let weekday := longWeekdayNames.getD (Date.weekday (s / 86400)) ""
  let month := monthNames.getD (date.month - 1) ""
  let year := paddedText 2 (date.year % 100).toNat
  let clock := s!"{paddedText 2 time.hour}:{paddedText 2 time.minute}:{paddedText 2 time.second}"
  s!"{weekday}, {paddedText 2 date.day}-{month}-{year} {clock} GMT"

theorem toList_olderText (s : Int) : (olderText s).toList =
    (longWeekdayNames.getD (Date.weekday (s / 86400)) "").toList ++ ',' :: ' ' ::
      (Numeral.padded 2 (Date.ofSeconds s).day ++ '-' ::
        ((monthNames.getD ((Date.ofSeconds s).month - 1) "").toList ++ '-' ::
          (Numeral.padded 2 ((Date.ofSeconds s).year % 100).toNat ++ ' ' ::
            (clockChars (TimeOfDay.ofSeconds (s % 86400).toNat) ++ ' ' :: ['G', 'M', 'T'])))) := by
  have plain (text : String) : toString text = text := rfl
  simp [olderText, paddedText, clockChars, plain]

theorem isDayName_longWeekdayName {i : Nat} (hi : i < 7) : IsDayName (longWeekdayNames.getD i "").toList := by
  refine ⟨(longWeekdayNames.getD i "").toList.take 3, (longWeekdayNames.getD i "").toList.drop 3,
    (List.take_append_drop 3 _).symm, ?_, List.all_eq_true.1 ?_⟩
  · interval_cases i <;> decide
  · interval_cases i <;> rfl

theorem hasForm_olderText (s : Int) : (fieldsOf (Numeral.padded 2 (Date.ofSeconds s).day)
    (Numeral.padded 2 ((Date.ofSeconds s).year % 100).toNat) s).HasForm .older (olderText s).toList := by
  have isYear : IsDigits 2 2 (Numeral.padded 2 ((Date.ofSeconds s).year % 100).toNat) :=
    isDigits_padded le_rfl (by decide) (by omega)
  rw [toList_olderText]
  exact inTurn_fieldsOf s ['-'] (isDayName_longWeekdayName (weekday_lt (s / 86400))) rfl isYear

/-! ## The year -/

theorem fullYear_bounds {thisYear : Int} (h : 1950 ≤ thisYear) {year : Nat} (hyear : year < 100) :
    1900 ≤ fullYear thisYear year ∧ fullYear thisYear year ≤ 2099 ∧
      fullYear thisYear year ≤ thisYear + 50 ∧
      (thisYear - 49 ≤ fullYear thisYear year ↔ thisYear ≤ 2049 + year) := by
  unfold fullYear
  dsimp only
  split <;> omega

/-- Of the hundred years around the current one, those before 2100 are meant by their last two digits. -/
theorem fullYear_of_window {thisYear year : Int} (h : 1950 ≤ thisYear)
    (hwindow : thisYear - 49 ≤ year ∧ year ≤ thisYear + 50) :
    fullYear thisYear (year % 100).toNat = if year < 2100 then year else 2000 + year % 100 := by
  unfold fullYear
  dsimp only
  split <;> split <;> omega

/-- If a year has a leap day, so does the one that its last two digits mean. -/
theorem isLeapYear_fullYear {thisYear year : Int} (h : 1950 ≤ thisYear) (hleap : Date.isLeapYear year = true) :
    Date.isLeapYear (fullYear thisYear (year % 100).toNat) = true := by
  unfold fullYear
  simp only [Date.isLeapYear, Bool.and_eq_true, Bool.or_eq_true, beq_iff_eq, bne_iff_ne] at hleap ⊢
  split <;> omega

/-! ## Reading -/

/-- What is written in the older form is read as the same day and time of the year that its digits mean. -/
theorem read_olderText {thisYear : Int} (hyear : 1950 ≤ thisYear) {forms : List DateForm}
    (hforms : .older ∈ forms) {s : Int} (h : -62135596800 ≤ s ∧ s ≤ 253402300799) :
    read thisYear forms (olderText s) = .ok (1000 * (86400 *
      ((Date.ofSeconds s).inYear (fullYear thisYear ((Date.ofSeconds s).year % 100).toNat)).dayNumber +
        s % 86400)) := by
  have supported := (Date.isSupportedYear_ofSeconds_iff s).2 h
  have short : ((Date.ofSeconds s).year % 100).toNat < 100 := by omega
  obtain ⟨hfirst, hlast, -⟩ := fullYear_bounds hyear short
  have exists_date : (Date.ofSeconds s).isValid = true := Date.isValid_ofDayNumber supported
  have valid := Date.isValid_inYear exists_date ((Date.isSupportedYear_iff _).2 ⟨by omega, by omega⟩)
    (isLeapYear_fullYear hyear)
  have year : (fieldsOf (Numeral.padded 2 (Date.ofSeconds s).day)
      (Numeral.padded 2 ((Date.ofSeconds s).year % 100).toNat) s).fullYear thisYear .older =
        fullYear thisYear ((Date.ofSeconds s).year % 100).toNat :=
    congrArg (fullYear thisYear) (Numeral.digitsValue_padded 2 _)
  exact (read_of_hasForm (hasForm_olderText s) hforms).2
    (millis?_fieldsOf (Numeral.digitsValue_padded 2 _) year valid)

/-- Of the instants of the hundred years around the current one, those before 2100 are read back from the older
form. Later ones are read as instants of the years from 2000 to 2099. No year that is read is more than fifty
years ahead, and one that is fifty years back or more is read only from 2050 on. -/
theorem read_olderText_of_window {thisYear : Int} (hyear : 1970 ≤ thisYear) {forms : List DateForm}
    (hforms : .older ∈ forms) {s : Int}
    (hwindow : thisYear - 49 ≤ (Date.ofSeconds s).year ∧ (Date.ofSeconds s).year ≤ thisYear + 50)
    (hmax : (Date.ofSeconds s).year ≤ 9999) :
    (read thisYear forms (olderText s) = .ok (1000 * s) ↔ (Date.ofSeconds s).year < 2100) ∧
    (2100 ≤ (Date.ofSeconds s).year → read thisYear forms (olderText s) = .ok (1000 * (86400 *
      ((Date.ofSeconds s).inYear (2000 + (Date.ofSeconds s).year % 100)).dayNumber + s % 86400))) ∧
    ∀ year < 100, fullYear thisYear year ≤ thisYear + 50 ∧
      (thisYear - 49 ≤ fullYear thisYear year ↔ thisYear ≤ 2049 + year) := by
  have recent : 1950 ≤ thisYear := by omega
  have supported := (Date.isSupportedYear_ofSeconds_iff s).1
    ((Date.isSupportedYear_iff _).2 ⟨by omega, hmax⟩)
  have day : (Date.ofSeconds s).dayNumber = s / 86400 := Date.dayNumber_ofDayNumber _
  have hread := read_olderText recent hforms supported
  rw [fullYear_of_window recent hwindow] at hread
  refine ⟨?_, fun later => by rw [hread, if_neg (by omega)], fun year hlt => (fullYear_bounds recent hlt).2.2⟩
  rw [hread]
  constructor
  · -- The day of a later year comes after the one that is read.
    intro heq
    by_contra hlater
    rw [if_neg hlater] at heq
    have earlier := Date.dayNumber_inYear_lt (d := Date.ofSeconds s)
      (y := 2000 + (Date.ofSeconds s).year % 100) (by omega)
    have same := Except.ok.inj heq
    omega
  · intro before
    rw [if_pos before, Date.inYear_year, day]
    exact congrArg Except.ok (by omega)

/-- The instant of a date in the last century, read in 2024. -/
theorem read_olderText_of_window_in_2024 :
    1970 ≤ (2024 : Int) ∧ .older ∈ allForms ∧
    (2024 - 49 ≤ (Date.ofSeconds 784111777).year ∧ (Date.ofSeconds 784111777).year ≤ 2024 + 50) ∧
    (Date.ofSeconds 784111777).year ≤ 9999 ∧ olderText 784111777 = "Sunday, 06-Nov-94 08:49:37 GMT" ∧
    read 2024 allForms (olderText 784111777) = .ok 784111777000 := by
  have current : 1970 ≤ (2024 : Int) := by decide
  have accepted : .older ∈ allForms := by decide
  have window : 2024 - 49 ≤ (Date.ofSeconds 784111777).year ∧ (Date.ofSeconds 784111777).year ≤ 2024 + 50 := by
    decide
  have small : (Date.ofSeconds 784111777).year ≤ 9999 := by decide
  exact ⟨current, accepted, window, small, rfl,
    (read_olderText_of_window current accepted window small).1.2 (by decide)⟩

/-- In 2101 the first day of the year is read as the one a hundred years before. -/
theorem read_olderText_in_2101 :
    1970 ≤ (2101 : Int) ∧
    (2101 - 49 ≤ (Date.ofSeconds 4133980800).year ∧ (Date.ofSeconds 4133980800).year ≤ 2101 + 50) ∧
    (Date.ofSeconds 4133980800).year ≤ 9999 ∧
    olderText 4133980800 = "Saturday, 01-Jan-01 00:00:00 GMT" ∧
    read 2101 allForms (olderText 4133980800) = .ok 978307200000 ∧
    read 2101 allForms (olderText 4133980800) ≠ .ok (1000 * 4133980800) := by
  have earlier : read 2101 allForms (olderText 4133980800) = .ok 978307200000 := rfl
  refine ⟨by decide, by decide, by decide, rfl, earlier, ?_⟩
  rw [earlier]
  intro heq
  exact absurd (Except.ok.inj heq) (by decide)

end HttpExchange.HttpDate
