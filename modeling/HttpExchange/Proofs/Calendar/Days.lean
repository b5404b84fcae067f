import HttpExchange.Calendar.DateTime
import Mathlib.Tactic.IntervalCases

/-!
# Days and dates

A count of days is split into whole spans of 400, 100, 4 and one year and a day of the last one, in years
that begin in March. What is shown here is that nothing is lost on the way and that the date that results
exists, so that its number of days is the count that it was made of.

## Main statements

* `Date.dayNumber_ofDayNumber`: the number of the date that a count of days gives is this count.
* `Date.isValid_ofDayNumber`: the date exists if its year is supported.
* `Date.isSupportedYear_ofSeconds_iff`: the times whose years are supported.
* `Date.isValid_inYear`, `Date.dayNumber_inYear_lt`: the same day of another year.
-/

namespace HttpExchange.Date

/-! ## Years that begin in March -/

/-- The days from 1 March of year 0 to 1 March of year `y`. -/
def daysBeforeMarchYear (y : Int) : Int := 365 * y + y / 4 - y / 100 + y / 400

theorem dayNumber_eq (d : Date) : d.dayNumber =
    daysBeforeMarchYear d.marchYear + daysBeforeMarchMonth d.marchMonth + d.day - 1 - epochOffset :=
  rfl

theorem daysBeforeMarchYear_split (cycle : Int) {century span year : Nat} (hcentury : century ≤ 3)
    (hspan : span ≤ 24) (hyear : year ≤ 3) :
    daysBeforeMarchYear (400 * cycle + (100 * century + 4 * span + year : Nat)) =
      146097 * cycle + 36524 * century + 1461 * span + 365 * year := by
  unfold daysBeforeMarchYear
  omega

/-- The last year of four ends with a leap day, unless it ends a century that is not the last one of
four. -/
theorem isLeapYear_split (cycle : Int) {century span : Nat} (hspan : span ≤ 24)
    (h : span < 24 ∨ century = 3) :
    isLeapYear (400 * cycle + (100 * century + 4 * span + 3 : Nat) + 1) = true := by
  simp only [isLeapYear, Bool.and_eq_true, Bool.or_eq_true, beq_iff_eq, bne_iff_ne]
  omega

/-- A count of days is a year and a day of it, a 366th day only in a year that ends with a leap day. -/
theorem exists_ofMarchDay (n : Int) : ∃ (y : Int) (day : Nat), ofDayNumber n = ofMarchDay y day ∧
    n + epochOffset = daysBeforeMarchYear y + day ∧ day < 366 ∧
    (day = 365 → isLeapYear (y + 1) = true) := by
  refine ⟨_, _, rfl, ?_⟩
  generalize n + epochOffset = days
  have whole : 146097 * (days / 146097) + (days % 146097).toNat = days := by omega
  have short : (days % 146097).toNat < 146097 := by omega
  generalize days / 146097 = cycle at *
  generalize (days % 146097).toNat = inCycle at *
  -- Each remainder is below the length of its span; only the last century and the last year are longer.
  have centuries : min (inCycle / 36524) 3 ≤ 3 ∧ 36524 * min (inCycle / 36524) 3 ≤ inCycle ∧
      inCycle - 36524 * min (inCycle / 36524) 3 < 36525 ∧
      (inCycle - 36524 * min (inCycle / 36524) 3 = 36524 → min (inCycle / 36524) 3 = 3) := by omega
  generalize min (inCycle / 36524) 3 = century at *
  obtain ⟨hcentury, hle, hlt, hlast⟩ := centuries
  have inCentury : 36524 * century + (inCycle - 36524 * century) = inCycle := by omega
  generalize inCycle - 36524 * century = rest at *
  have spans : rest / 1461 ≤ 24 ∧ 1461 * (rest / 1461) + (rest - 1461 * (rest / 1461)) = rest ∧
      rest - 1461 * (rest / 1461) < 1461 := by omega
  generalize rest / 1461 = span at *
  obtain ⟨hspan, inSpan, hfour⟩ := spans
  generalize rest - 1461 * span = left at *
  have years : min (left / 365) 3 ≤ 3 ∧ 365 * min (left / 365) 3 + (left - 365 * min (left / 365) 3) = left ∧
      left - 365 * min (left / 365) 3 < 366 ∧
      (left - 365 * min (left / 365) 3 = 365 → min (left / 365) 3 = 3) := by omega
  generalize min (left / 365) 3 = year at *
  obtain ⟨hyear, inYear, hday, hfourth⟩ := years
  generalize left - 365 * year = day at *
  refine ⟨?_, hday, fun hleap => ?_⟩
  · rw [daysBeforeMarchYear_split cycle hcentury hspan hyear]
    omega
  · obtain rfl : year = 3 := hfourth hleap
    exact isLeapYear_split cycle hspan (by omega)

theorem marchMonth_bounds {day : Nat} (hday : day < 366) :
    (5 * day + 2) / 153 < 12 ∧ daysBeforeMarchMonth ((5 * day + 2) / 153) ≤ day ∧
      5 * day + 2 < 153 * ((5 * day + 2) / 153) + 153 := by
  unfold daysBeforeMarchMonth
  omega

theorem marchYear_ofMarchDay (y : Int) {day : Nat} (hday : day < 366) :
    (ofMarchDay y day).marchYear = y ∧
      daysBeforeMarchMonth (ofMarchDay y day).marchMonth + (ofMarchDay y day).day = day + 1 := by
  obtain ⟨hmonth, hbefore, -⟩ := marchMonth_bounds hday
  unfold ofMarchDay marchYear marchMonth
  generalize (5 * day + 2) / 153 = m at *
  by_cases hm : m < 10
  · have month : ¬ m + 3 ≤ 2 := by omega
    simp only [if_pos hm, if_neg month, Nat.add_sub_cancel]
    exact ⟨trivial, by omega⟩
  · have month : m - 9 ≤ 2 := by omega
    have back : m - 9 + 9 = m := by omega
    simp only [if_neg hm, if_pos month, back]
    omega

/-- A day of a year that begins in March lies within its month, the 366th one if the year ends with a leap
day. -/
theorem day_ofMarchDay_le (y : Int) {day : Nat} (hday : day < 366)
    (hleap : day = 365 → isLeapYear (y + 1) = true) :
    (ofMarchDay y day).day ≤ daysInMonth (ofMarchDay y day).year (ofMarchDay y day).month := by
  obtain ⟨hmonth, hbefore, hupper⟩ := marchMonth_bounds hday
  unfold ofMarchDay
  generalize (5 * day + 2) / 153 = m at *
  by_cases hfeb : m = 11
  · -- The last month of such a year is February.
    subst hfeb
    have short : day - daysBeforeMarchMonth 11 + 1 ≤ 28 ∨ day = 365 := by
      unfold daysBeforeMarchMonth
      omega
    rcases short with short | last
    · have feb : 28 ≤ daysInMonth (y + 1) 2 := by
        simp only [daysInMonth, if_pos]
        split <;> omega
      exact short.trans feb
    · simp [daysInMonth, hleap last, last, daysBeforeMarchMonth]
  · unfold daysBeforeMarchMonth daysInMonth
    interval_cases m <;> simp <;> omega

theorem month_ofMarchDay (y : Int) {day : Nat} (hday : day < 366) :
    1 ≤ (ofMarchDay y day).month ∧ (ofMarchDay y day).month ≤ 12 := by
  obtain ⟨hmonth, -, -⟩ := marchMonth_bounds hday
  unfold ofMarchDay
  simp only
  split <;> omega

/-! ## Counts of days -/

/-- The number of the date that a count of days gives is this count. -/
theorem dayNumber_ofDayNumber (n : Int) : (ofDayNumber n).dayNumber = n := by
  obtain ⟨y, day, hdate, hn, hday, -⟩ := exists_ofMarchDay n
  obtain ⟨hyear, hsum⟩ := marchYear_ofMarchDay y hday
  rw [hdate, dayNumber_eq, hyear]
  omega

theorem fields_ofDayNumber (n : Int) :
    (1 ≤ (ofDayNumber n).month ∧ (ofDayNumber n).month ≤ 12) ∧ 1 ≤ (ofDayNumber n).day ∧
      (ofDayNumber n).day ≤ daysInMonth (ofDayNumber n).year (ofDayNumber n).month := by
  obtain ⟨y, day, hdate, -, hday, hleap⟩ := exists_ofMarchDay n
  rw [hdate]
  refine ⟨month_ofMarchDay y hday, ?_, day_ofMarchDay_le y hday hleap⟩
  exact Nat.le_add_left 1 _

/-- The date that a count of days gives exists if its year is supported. -/
theorem isValid_ofDayNumber {n : Int} (h : isSupportedYear (ofDayNumber n).year = true) :
    (ofDayNumber n).isValid = true := by
  obtain ⟨⟨hlow, hhigh⟩, hfirst, hlast⟩ := fields_ofDayNumber n
  simp [isValid, h, hlow, hhigh, hfirst, hlast]

theorem daysInMonth_le (year : Int) (month : Nat) : daysInMonth year month ≤ 31 := by
  unfold daysInMonth
  split
  · split <;> omega
  · split <;> omega

theorem daysBeforeMarchYear_mono {a b : Int} (h : a ≤ b) :
    daysBeforeMarchYear a ≤ daysBeforeMarchYear b := by
  unfold daysBeforeMarchYear
  omega

theorem isSupportedYear_iff (y : Int) : isSupportedYear y = true ↔ 1 ≤ y ∧ y ≤ 9999 := by
  unfold isSupportedYear
  rw [Bool.and_eq_true, decide_eq_true_iff, decide_eq_true_iff]
  rfl

/-- January and February belong to the year before if years begin in March. -/
theorem marchYear_cases (d : Date) : (d.month ≤ 2 ∧ d.marchYear = d.year - 1 ∧ d.marchMonth = d.month + 9) ∨
    (2 < d.month ∧ d.marchYear = d.year ∧ d.marchMonth = d.month - 3) := by
  unfold marchYear marchMonth
  split <;> omega

theorem dayNumber_bounds {d : Date} (hyear : 1 ≤ d.year ∧ d.year ≤ 9999)
    (hmonth : 1 ≤ d.month ∧ d.month ≤ 12) (hday : 1 ≤ d.day ∧ d.day ≤ 31) :
    -719162 ≤ d.dayNumber ∧ d.dayNumber ≤ 2932896 := by
  have hn := dayNumber_eq d
  unfold daysBeforeMarchMonth epochOffset at hn
  rcases marchYear_cases d with ⟨hm, hy, hmm⟩ | ⟨hm, hy, hmm⟩ <;> rw [hy, hmm] at hn
  · have first : daysBeforeMarchYear 0 ≤ daysBeforeMarchYear (d.year - 1) := daysBeforeMarchYear_mono (by omega)
    have last : daysBeforeMarchYear (d.year - 1) ≤ daysBeforeMarchYear 9998 :=
      daysBeforeMarchYear_mono (by omega)
    have values : daysBeforeMarchYear 0 = 0 ∧ daysBeforeMarchYear 9998 = 3651694 := ⟨rfl, rfl⟩
    omega
  · have first : daysBeforeMarchYear 1 ≤ daysBeforeMarchYear d.year := daysBeforeMarchYear_mono hyear.1
    have last : daysBeforeMarchYear d.year ≤ daysBeforeMarchYear 9999 := daysBeforeMarchYear_mono hyear.2
    have values : daysBeforeMarchYear 1 = 365 ∧ daysBeforeMarchYear 9999 = 3652059 := ⟨rfl, rfl⟩
    omega

/-- The days from 1 January of year 1 to 31 December of year 9999 are those whose years are supported. -/
theorem isSupportedYear_ofDayNumber_iff (n : Int) :
    isSupportedYear (ofDayNumber n).year = true ↔ -719162 ≤ n ∧ n ≤ 2932896 := by
  obtain ⟨hmonth, hfirst, hlast⟩ := fields_ofDayNumber n
  have hday := hlast.trans (daysInMonth_le _ _)
  have hn := dayNumber_ofDayNumber n
  generalize ofDayNumber n = d at *
  rw [isSupportedYear_iff]
  constructor
  · intro hyear
    exact hn ▸ dayNumber_bounds hyear hmonth ⟨hfirst, hday⟩
  · intro hrange
    by_contra hyear
    rw [dayNumber_eq] at hn
    unfold daysBeforeMarchMonth epochOffset at hn
    rcases marchYear_cases d with ⟨hm, hy, hmm⟩ | ⟨hm, hy, hmm⟩ <;> rw [hy, hmm] at hn
    · rcases le_or_gt d.year 0 with hzero | hpos
      · have := daysBeforeMarchYear_mono (show d.year - 1 ≤ -1 by omega)
        have before : daysBeforeMarchYear (-1) = -366 := rfl
        omega
      · have := daysBeforeMarchYear_mono (show 9999 ≤ d.year - 1 by omega)
        have last : daysBeforeMarchYear 9999 = 3652059 := rfl
        omega
    · rcases le_or_gt d.year 0 with hzero | hpos
      · have := daysBeforeMarchYear_mono hzero
        have first : daysBeforeMarchYear 0 = 0 := rfl
        omega
      · have := daysBeforeMarchYear_mono (show 10000 ≤ d.year by omega)
        have after : daysBeforeMarchYear 10000 = 3652425 := rfl
        omega

/-- The times from the beginning of year 1 to the end of year 9999 are those whose years are supported. -/
theorem isSupportedYear_ofSeconds_iff (s : Int) :
    isSupportedYear (ofSeconds s).year = true ↔ -62135596800 ≤ s ∧ s ≤ 253402300799 := by
  rw [ofSeconds, isSupportedYear_ofDayNumber_iff]
  omega

/-! ## The same day of another year -/

/-- The same day of year `y`. -/
def inYear (d : Date) (y : Int) : Date := { d with year := y }

theorem inYear_year (d : Date) : d.inYear d.year = d := rfl

/-- A day exists in another year too, unless it is a leap day. -/
theorem isValid_inYear {d : Date} {y : Int} (hd : d.isValid = true) (hy : isSupportedYear y = true)
    (hleap : isLeapYear d.year = true → isLeapYear y = true) : (d.inYear y).isValid = true := by
  have longer : daysInMonth d.year d.month ≤ daysInMonth y d.month := by
    unfold daysInMonth
    split
    · by_cases h : isLeapYear d.year = true
      · rw [if_pos h, if_pos (hleap h)]
      · rw [if_neg h]
        split <;> omega
    · exact Nat.le_refl _
  simp only [isValid, Bool.and_eq_true, decide_eq_true_iff] at hd ⊢
  obtain ⟨⟨⟨⟨-, hlow⟩, hhigh⟩, hfirst⟩, hlast⟩ := hd
  exact ⟨⟨⟨⟨hy, hlow⟩, hhigh⟩, hfirst⟩, hlast.trans longer⟩

/-- The same day of an earlier year comes first. -/
theorem dayNumber_inYear_lt {d : Date} {y : Int} (h : y < d.year) : (d.inYear y).dayNumber < d.dayNumber := by
  have longer {a b : Int} (hab : a < b) : daysBeforeMarchYear a < daysBeforeMarchYear b := by
    unfold daysBeforeMarchYear
    omega
  have month : (d.inYear y).marchMonth = d.marchMonth := rfl
  have day : (d.inYear y).day = d.day := rfl
  have year : (d.inYear y).marchYear < d.marchYear := by
    unfold marchYear inYear
    dsimp only
    split <;> omega
  have days := longer year
  rw [dayNumber_eq, dayNumber_eq, month, day]
  omega

end HttpExchange.Date
