import HttpExchange.Proofs.Headers
import HttpExchange.Proofs.HttpDate.Forms
import HttpExchange.Proofs.HttpDate.Seconds
import HttpExchange.Proofs.Response.Step

/-!
# Dates are read as they were written

What is written for a time, in the preferred form or in that of the C library, has the form, with the fields of
the time. The date that is read has the day number that it was made of.

## Main statements

* `HttpDate.hasForm_writeSeconds`, `HttpDate.hasForm_libraryText`: the forms of what is written.
* `HttpDate.read_writeSeconds`: what is written in the preferred form is read as the same second.
* `HttpDate.read_libraryText`: so is the form of the C library.
-/

namespace HttpExchange.HttpDate

open Text

/-! ## Pieces -/

/-- The characters of a time of day. -/
def clockChars (t : TimeOfDay) : List Char :=
  Numeral.padded 2 t.hour ++ ':' :: (Numeral.padded 2 t.minute ++ ':' :: Numeral.padded 2 t.second)

/-- A day of the month in two columns, with a space in place of a zero. -/
def dayColumns (day : Nat) : List Char := (Numeral.digits day).leftpad 2 ' '

theorem isDayName_weekdayName {i : Nat} (hi : i < 7) : IsDayName (weekdayNames.getD i "").toList := by
  refine ⟨_, [], (List.append_nil _).symm, ?_, List.forall_mem_nil _⟩
  interval_cases i <;> decide

theorem isMonthWord_monthName {month : Nat} (hlow : 1 ≤ month) (hhigh : month ≤ 12) :
    IsMonthWord (monthNames.getD (month - 1) "").toList := by
  refine ⟨?_, List.all_eq_true.1 ?_⟩
  · interval_cases month <;> rfl
  · interval_cases month <;> rfl

theorem monthNumber?_monthName {month : Nat} (hlow : 1 ≤ month) (hhigh : month ≤ 12) :
    monthNumber? (monthNames.getD (month - 1) "").toList = some month := by
  interval_cases month <;> rfl

theorem isDigits_padded {least width n : Nat} (hleast : least ≤ width) (hwidth : 0 < width)
    (h : n < 10 ^ width) : IsDigits least width (Numeral.padded width n) := by
  have length : (Numeral.padded width n).length = width := Numeral.length_padded hwidth h
  exact ⟨⟨hleast.trans length.ge, length.le⟩, fun c hc => isDigit_of_isDigit (Numeral.isDigit_of_mem_padded hc)⟩

theorem isDigits_digits {day : Nat} (hday : day < 100) : IsDigits 1 2 (Numeral.digits day) := by
  refine ⟨⟨Nat.length_toDigits_pos, (Nat.length_toDigits_le_iff (by decide) (by decide)).2 hday⟩, ?_⟩
  exact fun c hc => isDigit_of_isDigit (Nat.isDigit_of_mem_toDigits (by decide) (by decide) hc)

theorem inTurn_day {name day : List Char} (hname : IsDayName name) (hday : IsDigits 1 2 day) :
    InTurn (dayPieces day) (name ++ ',' :: ' ' :: day) :=
  ⟨name, _, rfl, hname, [','], _, rfl, rfl, [' '], _, rfl, isGap_spaces 0, day, [],
    (List.append_nil day).symm, ⟨rfl, hday⟩, rfl⟩

section Time

variable {t : TimeOfDay} (hhour : t.hour < 24) (hminute : t.minute < 60) (hsecond : t.second < 60)

include hhour hminute hsecond

theorem inTurn_clock : InTurn (clockPieces (Numeral.padded 2 t.hour) (Numeral.padded 2 t.minute)
    (Numeral.padded 2 t.second)) (clockChars t) := by
  have two {n : Nat} (hn : n < 100) : IsDigits 2 2 (Numeral.padded 2 n) :=
    isDigits_padded (by decide) (by decide) hn
  exact ⟨_, _, rfl, ⟨rfl, two (by omega)⟩, [':'], _, rfl, rfl, _, _, rfl, ⟨rfl, two (by omega)⟩, [':'], _, rfl,
    rfl, _, [], (List.append_nil _).symm, ⟨rfl, two (by omega)⟩, rfl⟩

theorem inTurn_time : InTurn (timePieces (Numeral.padded 2 t.hour) (Numeral.padded 2 t.minute)
    (Numeral.padded 2 t.second)) (' ' :: (clockChars t ++ ' ' :: ['G', 'M', 'T'])) :=
  ⟨[' '], _, rfl, isGap_spaces 0, inTurn_append_iff.2 ⟨clockChars t, _, rfl,
    inTurn_clock hhour hminute hsecond, [' '], _, rfl, isGap_spaces 0, ['G', 'M', 'T'], [], rfl,
    List.mem_cons_self, rfl⟩⟩

end Time

/-! ## Texts -/

/-- The form of the C library for a time in whole seconds. -/
def libraryText (s : Seconds) : String :=
  let date := Date.ofSeconds s
  let time := TimeOfDay.ofSeconds (s % 86400).toNat
  let weekday := weekdayNames.getD (Date.weekday (s / 86400)) ""
  let month := monthNames.getD (date.month - 1) ""
  let day := String.ofList (dayColumns date.day)
  let clock := s!"{paddedText 2 time.hour}:{paddedText 2 time.minute}:{paddedText 2 time.second}"
  s!"{weekday} {month} {day} {clock} {paddedText 4 date.year.toNat}"

theorem toList_writeSeconds (s : Int) : (writeSeconds s).toList =
    (weekdayNames.getD (Date.weekday (s / 86400)) "").toList ++ ',' :: ' ' ::
      (Numeral.padded 2 (Date.ofSeconds s).day ++ ' ' ::
        ((monthNames.getD ((Date.ofSeconds s).month - 1) "").toList ++ ' ' ::
          (Numeral.padded 4 (Date.ofSeconds s).year.toNat ++ ' ' ::
            (clockChars (TimeOfDay.ofSeconds (s % 86400).toNat) ++ ' ' :: ['G', 'M', 'T'])))) := by
  have plain (text : String) : toString text = text := rfl
  simp [writeSeconds, paddedText, clockChars, plain]

theorem toList_libraryText (s : Int) : (libraryText s).toList =
    (weekdayNames.getD (Date.weekday (s / 86400)) "").toList ++ ' ' ::
      ((monthNames.getD ((Date.ofSeconds s).month - 1) "").toList ++ ' ' ::
        (dayColumns (Date.ofSeconds s).day ++ ' ' ::
          (clockChars (TimeOfDay.ofSeconds (s % 86400).toNat) ++ ' ' ::
            Numeral.padded 4 (Date.ofSeconds s).year.toNat))) := by
  have plain (text : String) : toString text = text := rfl
  simp [libraryText, paddedText, clockChars, plain]

theorem weekday_lt (n : Int) : Date.weekday n < 7 := by
  unfold Date.weekday
  omega

theorem date_bounds (s : Int) : 1 ≤ (Date.ofSeconds s).month ∧ (Date.ofSeconds s).month ≤ 12 ∧
    (Date.ofSeconds s).day < 100 := by
  obtain ⟨⟨hlow, hhigh⟩, -, hday⟩ := Date.fields_ofDayNumber (s / 86400)
  have short := hday.trans (Date.daysInMonth_le _ _)
  exact ⟨hlow, hhigh, Nat.lt_of_le_of_lt short (by decide)⟩

theorem ofSeconds_bounds {n : Nat} (h : n < 86400) : (TimeOfDay.ofSeconds n).hour < 24 ∧
    (TimeOfDay.ofSeconds n).minute < 60 ∧ (TimeOfDay.ofSeconds n).second < 60 ∧
    (TimeOfDay.ofSeconds n).seconds = n := by
  simp only [TimeOfDay.ofSeconds, TimeOfDay.seconds]
  omega

/-- A date that exists and a second of the day give their milliseconds. -/
theorem epochMillis_of_isValid {d : Date} (hd : d.isValid = true) {n : Nat} (hn : n < 86400) :
    ∃ moment, DateTime.ofFields? d (TimeOfDay.ofSeconds n) (some 0) = some moment ∧
      moment.epochMillis = 1000 * (86400 * d.dayNumber + n) := by
  obtain ⟨hhour, hminute, hsecond, hsum⟩ := ofSeconds_bounds hn
  have micro : (TimeOfDay.ofSeconds n).micro = 0 := rfl
  have exists_time : (TimeOfDay.ofSeconds n).isValid = true := by
    simp [TimeOfDay.isValid, hhour, hminute, hsecond, micro]
  have valid : (d.isValid && (TimeOfDay.ofSeconds n).isValid &&
      ((some (0 : Int)).getD 0).natAbs < 86400) = true := by
    simp [hd, exists_time]
  refine ⟨_, dif_pos valid, ?_⟩
  simp only [DateTime.epochMillis, DateTime.seconds, hsum, micro, Option.getD_some]
  show 1000 * (86400 * d.dayNumber + (n : Int) - 0) + ((0 / 1000 : Nat) : Int) =
    1000 * (86400 * d.dayNumber + n)
  omega

theorem year_bounds {s : Int} (h : -62135596800 ≤ s ∧ s ≤ 253402300799) :
    (Date.ofSeconds s).year.toNat < 10 ^ 4 ∧ ((Date.ofSeconds s).year.toNat : Int) = (Date.ofSeconds s).year := by
  have supported := (Date.isSupportedYear_iff _).1 ((Date.isSupportedYear_ofSeconds_iff s).2 h)
  omega

/-! ## Reading -/

/-- The fields of a time, with the day of the month and the year as they are written. -/
def fieldsOf (day year : List Char) (s : Seconds) : WrittenDate :=
  let time := TimeOfDay.ofSeconds (s % 86400).toNat
  ⟨day, (monthNames.getD ((Date.ofSeconds s).month - 1) "").toList, year, Numeral.padded 2 time.hour,
    Numeral.padded 2 time.minute, Numeral.padded 2 time.second⟩

/-- The fields of a time are read as its day and time of day, in the year that is written. -/
theorem millis?_fieldsOf {thisYear year : Int} {form : DateForm} {day digits : List Char} {s : Int}
    (hday : digitsValue day = (Date.ofSeconds s).day)
    (hyear : (fieldsOf day digits s).fullYear thisYear form = year)
    (hvalid : ((Date.ofSeconds s).inYear year).isValid = true) :
    (fieldsOf day digits s).millis? thisYear form =
      some (1000 * (86400 * ((Date.ofSeconds s).inYear year).dayNumber + s % 86400)) := by
  obtain ⟨hlow, hhigh, -⟩ := date_bounds s
  obtain ⟨moment, hmoment, hmillis⟩ := epochMillis_of_isValid hvalid (n := (s % 86400).toNat) (by omega)
  have month : monthNumber? (fieldsOf day digits s).month = some (Date.ofSeconds s).month :=
    monthNumber?_monthName hlow hhigh
  have time : (fieldsOf day digits s).time = TimeOfDay.ofSeconds (s % 86400).toNat := by
    simp only [WrittenDate.time, fieldsOf, Numeral.digitsValue_padded]
    rfl
  have written : digitsValue (fieldsOf day digits s).day = (Date.ofSeconds s).day := hday
  have fields : (fieldsOf day digits s).fields? thisYear form =
      some ((Date.ofSeconds s).inYear year, TimeOfDay.ofSeconds (s % 86400).toNat) := by
    unfold WrittenDate.fields?
    rw [month, hyear, time, written]
    rfl
  rw [Int.toNat_of_nonneg (by omega)] at hmillis
  rw [WrittenDate.millis?, fields, ← hmillis]
  exact Option.map_eq_some_iff.2 ⟨moment, hmoment, rfl⟩

/-- With all digits of the year, the fields of a time are read as this time. -/
theorem millis?_fourDigits (thisYear : Int) {form : DateForm} (hform : form ≠ .older) {day : List Char} {s : Int}
    (hday : digitsValue day = (Date.ofSeconds s).day) (h : -62135596800 ≤ s ∧ s ≤ 253402300799) :
    (fieldsOf day (Numeral.padded 4 (Date.ofSeconds s).year.toNat) s).millis? thisYear form =
      some (1000 * s) := by
  have year : (fieldsOf day (Numeral.padded 4 (Date.ofSeconds s).year.toNat) s).fullYear thisYear form =
      (Date.ofSeconds s).year := by
    have value := Numeral.digitsValue_padded 4 (Date.ofSeconds s).year.toNat
    cases form with
    | older => exact absurd rfl hform
    | preferred | library => exact (congrArg Nat.cast value).trans (year_bounds h).2
  have valid : (Date.ofSeconds s).isValid = true :=
    Date.isValid_ofDayNumber ((Date.isSupportedYear_ofSeconds_iff s).2 h)
  have number : (Date.ofSeconds s).dayNumber = s / 86400 := Date.dayNumber_ofDayNumber _
  rw [millis?_fieldsOf hday year valid, Date.inYear_year, number]
  exact congrArg some (by omega)

/-- The pieces of a time. What stands between day and month, be it white space or a hyphen, stands between month and
year as well. -/
theorem inTurn_fieldsOf (s : Int) (between : List Char) {weekday year : List Char} {IsBetween : List Char → Prop}
    {width : Nat} (hweekday : IsDayName weekday) (hbetween : IsBetween between) (hyear : IsDigits width width year) :
    let w := fieldsOf (Numeral.padded 2 (Date.ofSeconds s).day) year s
    InTurn (dayPieces w.day ++ [IsBetween, fun u => u = w.month ∧ IsMonthWord u, IsBetween,
        fun u => u = w.year ∧ IsDigits width width u] ++ timePieces w.hour w.minute w.second)
      (weekday ++ ',' :: ' ' :: (w.day ++ (between ++ (w.month ++ (between ++ (w.year ++ ' ' ::
        (clockChars (TimeOfDay.ofSeconds (s % 86400).toNat) ++ ' ' :: ['G', 'M', 'T']))))))) := by
  intro w
  obtain ⟨hlow, hhigh, hday⟩ := date_bounds s
  obtain ⟨hhour, hminute, hsecond, -⟩ := ofSeconds_bounds (n := (s % 86400).toNat) (by omega)
  have isDay : InTurn (dayPieces w.day) _ :=
    inTurn_day hweekday (isDigits_padded (by decide) (by decide) hday)
  have isMonth : IsMonthWord w.month := isMonthWord_monthName hlow hhigh
  have isTime : InTurn (timePieces w.hour w.minute w.second) _ := inTurn_time hhour hminute hsecond
  have isDate : InTurn (dayPieces w.day ++ [IsBetween, fun u => u = w.month ∧ IsMonthWord u, IsBetween,
      fun u => u = w.year ∧ IsDigits width width u]) _ :=
    inTurn_append_iff.2 ⟨_, _, rfl, isDay, between, _, rfl, hbetween, w.month, _, rfl, ⟨rfl, isMonth⟩, between, _,
      rfl, hbetween, w.year, [], (List.append_nil _).symm, ⟨rfl, hyear⟩, rfl⟩
  have written := inTurn_append_iff.2 ⟨_, _, rfl, isDate, isTime⟩
  simp only [List.append_assoc, List.cons_append, List.nil_append] at written ⊢
  exact written

theorem hasForm_writeSeconds {s : Int} (h : -62135596800 ≤ s ∧ s ≤ 253402300799) :
    (fieldsOf (Numeral.padded 2 (Date.ofSeconds s).day) (Numeral.padded 4 (Date.ofSeconds s).year.toNat)
      s).HasForm .preferred (writeSeconds s).toList := by
  have isYear := isDigits_padded le_rfl (by decide) (year_bounds h).1
  rw [toList_writeSeconds]
  exact inTurn_fieldsOf s [' '] (isDayName_weekdayName (weekday_lt (s / 86400))) (isGap_spaces 0) isYear

theorem hasForm_libraryText {s : Int} (h : -62135596800 ≤ s ∧ s ≤ 253402300799) :
    (fieldsOf (Numeral.digits (Date.ofSeconds s).day) (Numeral.padded 4 (Date.ofSeconds s).year.toNat)
      s).HasForm .library (libraryText s).toList := by
  obtain ⟨hlow, hhigh, hday⟩ := date_bounds s
  obtain ⟨hhour, hminute, hsecond, -⟩ := ofSeconds_bounds (n := (s % 86400).toNat) (by omega)
  set w := fieldsOf (Numeral.digits (Date.ofSeconds s).day)
    (Numeral.padded 4 (Date.ofSeconds s).year.toNat) s
  have isName := isDayName_weekdayName (weekday_lt (s / 86400))
  have isMonth : IsMonthWord w.month := isMonthWord_monthName hlow hhigh
  have isDay : IsDigits 1 2 w.day := isDigits_digits hday
  have isClock : InTurn (clockPieces w.hour w.minute w.second) _ := inTurn_clock hhour hminute hsecond
  have isYear : IsDigits 4 4 w.year := isDigits_padded le_rfl (by decide) (year_bounds h).1
  -- The space in place of a zero belongs to the white space in front of the day.
  have isGap := isGap_spaces (2 - (Numeral.digits (Date.ofSeconds s).day).length)
  have isDate : InTurn ([IsDayName, IsGap, fun u => u = w.month ∧ IsMonthWord u, IsGap,
      fun u => u = w.day ∧ IsDigits 1 2 u, IsGap] ++ clockPieces w.hour w.minute w.second) _ :=
    ⟨_, _, rfl, isName, [' '], _, rfl, isGap_spaces 0, w.month, _, rfl, ⟨rfl, isMonth⟩, _, _, rfl, isGap,
      w.day, _, rfl, ⟨rfl, isDay⟩, [' '], _, rfl, isGap_spaces 0, isClock⟩
  have written : w.HasForm .library _ := inTurn_append_iff.2 ⟨_, _, rfl, isDate, [' '], _, rfl,
    isGap_spaces 0, w.year, [], (List.append_nil _).symm, ⟨rfl, isYear⟩, rfl⟩
  simp only [List.replicate_succ, List.append_assoc, List.cons_append, List.nil_append] at written
  rw [toList_libraryText, dayColumns, List.leftpad, List.append_assoc]
  exact written

/-- What is written in the preferred form is read as the same second, whichever forms are tried behind it. -/
theorem read_writeSeconds (thisYear : Int) (forms : List DateForm) {s : Int}
    (h : -62135596800 ≤ s ∧ s ≤ 253402300799) :
    read thisYear (.preferred :: forms) (writeSeconds s) = .ok (1000 * s) :=
  (read_of_hasForm (hasForm_writeSeconds h) List.mem_cons_self).2
    (millis?_fourDigits thisYear (by decide) (Numeral.digitsValue_padded 2 _) h)

/-- The form of the C library is read as the second that it was written for, whichever forms are tried
before it. -/
theorem read_libraryText (thisYear : Int) {forms : List DateForm} (hforms : .library ∈ forms) {s : Int}
    (h : -62135596800 ≤ s ∧ s ≤ 253402300799) :
    read thisYear forms (libraryText s) = .ok (1000 * s) :=
  (read_of_hasForm (hasForm_libraryText h) hforms).2
    (millis?_fourDigits thisYear (by decide) (Numeral.digitsValue_digits _) h)

/-! ## Milliseconds -/

/-- What is written for a number of milliseconds is the second in which they fall. -/
theorem write_int_eq_ok_iff (mark : Mark) (ms : Int) (text : String) : write (.int mark ms) = .ok text ↔
    (-62135596800000 ≤ ms ∧ ms ≤ 253402300799999) ∧ writeSeconds (ms / 1000) = text := by
  rw [write, map_eq_ok_iff]
  constructor
  · rintro ⟨s, hs, htext⟩
    obtain ⟨hrange, rfl⟩ := (secondsOfInt_eq_ok_iff ms s).1 hs
    exact ⟨hrange, htext⟩
  · rintro ⟨hrange, htext⟩
    exact ⟨ms / 1000, (secondsOfInt_eq_ok_iff ms _).2 ⟨hrange, rfl⟩, htext⟩

/-- A date header that is written for a number of milliseconds has the preferred form. -/
theorem run_setDateHeader (thisYear : Int) (mark : Mark) {ms : Int}
    (h : -62135596800000 ≤ ms ∧ ms ≤ 253402300799999) (name : String) (r : Response) :
    ∃ m, (ResponseOp.setDateHeader name (.int mark ms)).run thisYear r = ⟨{ r with
      headers := r.headers.put name (.text m (writeSeconds (ms / 1000))) true }, [], .ok .none⟩ := by
  have written := (write_int_eq_ok_iff mark ms _).2 ⟨h, rfl⟩
  obtain ⟨m, hm⟩ := Value.exists_owned_ofText .header (writeSeconds (ms / 1000))
  refine ⟨m, ?_⟩
  have stored : r.writeDate name (.int mark ms) true = .ok { r with
      headers := r.headers.put name (.text m (writeSeconds (ms / 1000))) true } := by
    unfold Response.writeDate
    rw [written]
    change Except.ok (r.writeHeader name ((Value.ofText _).owned .header) true) = _
    rw [hm]
    rfl
  exact Action.update_bind_of_ok stored _

/-- A date header is read as the second that was written into it. -/
theorem headerDate_setDateHeader (thisYear : Int) (mark : Mark) {ms : Int}
    (h : -62135596800000 ≤ ms ∧ ms ≤ 253402300799999) (name : String) (r : Response) :
    ((ResponseOp.setDateHeader name (.int mark ms)).run thisYear r).result = .ok .none ∧
      ((ResponseOp.headerDate name).run thisYear
        ((ResponseOp.setDateHeader name (.int mark ms)).run thisYear r).state).result =
          .ok (.int (1000 * (ms / 1000))) := by
  obtain ⟨m, hrun⟩ := run_setDateHeader thisYear mark h name r
  rw [hrun]
  refine ⟨rfl, ?_⟩
  have found := read_writeSeconds thisYear [] (s := ms / 1000) (by omega)
  simp [ResponseOp.run, Action.query, Response.dateHeader, Headers.text?, Headers.first?_put_text,
    Value.headerText, Except.map, bind, Except.bind, pure, Except.pure, found]

/-- A time in milliseconds is written as a date if and only if its year is in the supported span, and the
date is read as the last whole second that is not after the time, whether all forms are tried or the
preferred one alone, in the form of the C library as well, and also from the header of a response. -/
theorem read_write_milliseconds (thisYear : Int) (mark : Mark) (ms : Int) :
    ((∃ text, write (.int mark ms) = .ok text) ↔ -62135596800000 ≤ ms ∧ ms ≤ 253402300799999) ∧
    ∀ text, write (.int mark ms) = .ok text →
      read thisYear allForms text = .ok (1000 * (ms / 1000)) ∧
      read thisYear [.preferred] text = .ok (1000 * (ms / 1000)) ∧
      (∀ forms, DateForm.library ∈ forms →
        read thisYear forms (libraryText (ms / 1000)) = .ok (1000 * (ms / 1000))) ∧
      ∀ (name : String) (r : Response),
        ((ResponseOp.setDateHeader name (.int mark ms)).run thisYear r).result = .ok .none ∧
        ((ResponseOp.headerDate name).run thisYear
          ((ResponseOp.setDateHeader name (.int mark ms)).run thisYear r).state).result =
            .ok (.int (1000 * (ms / 1000))) := by
  refine ⟨?_, fun text htext => ?_⟩
  · simp only [write_int_eq_ok_iff, exists_and_left, exists_eq', and_true]
  · obtain ⟨hrange, rfl⟩ := (write_int_eq_ok_iff mark ms text).1 htext
    have span : -62135596800 ≤ ms / 1000 ∧ ms / 1000 ≤ 253402300799 := by omega
    refine ⟨read_writeSeconds thisYear _ span, read_writeSeconds thisYear _ span, ?_, ?_⟩
    · exact fun forms hforms => read_libraryText thisYear hforms span
    · exact fun name r => headerDate_setDateHeader thisYear mark hrange name r

theorem read_write_last_millisecond_of_1969 :
    write (.int .none (-1)) = .ok "Wed, 31 Dec 1969 23:59:59 GMT" ∧
      read 2024 [.preferred] "Wed, 31 Dec 1969 23:59:59 GMT" = .ok (-1000) ∧
      libraryText (-1) = "Wed Dec 31 23:59:59 1969" ∧
      read 2024 allForms (libraryText (-1)) = .ok (-1000) := by
  have written : write (.int .none (-1)) = .ok "Wed, 31 Dec 1969 23:59:59 GMT" := by rfl
  obtain ⟨-, preferred, library, -⟩ := (read_write_milliseconds 2024 .none (-1)).2 _ written
  exact ⟨written, preferred, rfl, library allForms (by decide)⟩

end HttpExchange.HttpDate
