import HttpExchange.Proofs.HttpDate.RoundTrip

/-!
# Dates that are read can be written

A request reads dates in three forms, and a response writes and reads only one. Whatever the form, the date
exists in the calendar, from year 1 to year 9999, and has no fraction of a second: that is what can be
written. So a time that was read from a request is passed on to a response as it is.

## Main statements

* `HttpDate.WrittenDate.millis?_eq_some`: what is read is a whole second of a supported year.
* `HttpDate.isFixdate_writeSeconds`: what is written has the preferred form in its strict sense.
* `HttpDate.relay_headerDate`: from a header of a request to a header of a response.
-/

namespace HttpExchange.HttpDate

open Text

/-! ## What is read -/

/-- A date and time in universal time belongs to a second that can be written. -/
theorem seconds_bounds {d : DateTime} (hoffset : d.offset = some 0) :
    -62135596800 ≤ d.seconds ∧ d.seconds ≤ 253402300799 := by
  have hvalid := d.valid
  simp only [Date.isValid, TimeOfDay.isValid, Bool.and_eq_true, decide_eq_true_eq] at hvalid
  obtain ⟨⟨⟨⟨⟨⟨hyear, hlow⟩, hhigh⟩, hfirst⟩, hlast⟩, ⟨⟨hhour, hminute⟩, hsecond⟩, -⟩, -⟩ := hvalid
  have hday := hlast.trans (Date.daysInMonth_le _ _)
  have days := Date.dayNumber_bounds ((Date.isSupportedYear_iff _).1 hyear) ⟨hlow, hhigh⟩ ⟨hfirst, hday⟩
  have time : d.time.seconds < 86400 := by
    unfold TimeOfDay.seconds
    omega
  have total : d.seconds = 86400 * d.date.dayNumber + d.time.seconds := by
    simp [DateTime.seconds, hoffset]
  have range : -62135596800 ≤ 86400 * d.date.dayNumber + (d.time.seconds : Int) ∧
      86400 * d.date.dayNumber + (d.time.seconds : Int) ≤ 253402300799 := by omega
  rw [total]
  exact range

/-- A date that is written and exists is a whole second that can be written. -/
theorem WrittenDate.millis?_eq_some {w : WrittenDate} {thisYear : Int} {form : DateForm} {ms : Int}
    (h : w.millis? thisYear form = some ms) :
    ∃ s, (-62135596800 ≤ s ∧ s ≤ 253402300799) ∧ ms = 1000 * s := by
  obtain ⟨fields, hfields, h⟩ := Option.bind_eq_some_iff.1 h
  obtain ⟨moment, hmoment, rfl⟩ := Option.map_eq_some_iff.1 h
  obtain ⟨month, -, rfl⟩ := Option.map_eq_some_iff.1 hfields
  unfold DateTime.ofFields? at hmoment
  split at hmoment
  · next valid =>
    obtain rfl := Option.some.inj hmoment
    refine ⟨_, seconds_bounds (d := ⟨_, w.time, some 0, valid⟩) rfl, ?_⟩
    simp [DateTime.epochMillis, WrittenDate.time]
  · cases hmoment

/-- A text is read as a whole second that can be written, or refused. -/
theorem read_cases (thisYear : Int) (forms : List DateForm) (text : String) :
    (∃ s, (-62135596800 ≤ s ∧ s ≤ 253402300799) ∧ read thisYear forms text = .ok (1000 * s)) ∨
      read thisYear forms text = .error (.invalidDate text) := by
  cases hread : read thisYear forms text with
  | ok ms =>
    obtain ⟨form, -, w, -, hms⟩ := read_eq_ok_iff.1 hread
    obtain ⟨s, hs, rfl⟩ := w.millis?_eq_some hms
    exact .inl ⟨s, hs, rfl⟩
  | error fault => exact .inr (congrArg Except.error (read_eq_error hread))

/-! ## What is written -/

/-- A number with digits of ASCII and a fixed width. -/
def IsNumber (width : Nat) (ds : List Char) : Prop := ds.length = width ∧ ∀ c ∈ ds, c.isDigit = true

/-- The preferred form in its strict sense, `Sun, 06 Nov 1994 08:49:37 GMT`: the names as they are listed, all
numbers with their full width and single spaces. -/
def IsFixdate (text : String) : Prop :=
  ∃ weekday ∈ weekdayNames, ∃ month ∈ monthNames, ∃ day year hour minute second,
    (IsNumber 2 day ∧ IsNumber 4 year ∧ IsNumber 2 hour ∧ IsNumber 2 minute ∧ IsNumber 2 second) ∧
    text.toList = weekday.toList ++ ',' :: ' ' :: (day ++ ' ' :: (month.toList ++ ' ' :: (year ++ ' ' ::
      ((hour ++ ':' :: (minute ++ ':' :: second)) ++ ' ' :: ['G', 'M', 'T']))))

theorem isNumber_padded {width n : Nat} (hwidth : 0 < width) (h : n < 10 ^ width) :
    IsNumber width (Numeral.padded width n) :=
  ⟨Numeral.length_padded hwidth h, fun _ => Numeral.isDigit_of_mem_padded⟩

theorem getD_mem {names : List String} {i : Nat} (h : i < names.length) : names.getD i "" ∈ names := by
  rw [← List.getElem_eq_getD (h := h)]
  exact List.getElem_mem h

theorem isFixdate_writeSeconds {s : Int} (h : -62135596800 ≤ s ∧ s ≤ 253402300799) :
    IsFixdate (writeSeconds s) := by
  obtain ⟨hlow, hhigh, hday⟩ := date_bounds s
  obtain ⟨hhour, hminute, hsecond, -⟩ := ofSeconds_bounds (n := (s % 86400).toNat) (by omega)
  have hmonth : (Date.ofSeconds s).month - 1 < monthNames.length := by
    show (Date.ofSeconds s).month - 1 < 12
    omega
  have two {n : Nat} (hn : n < 100) : IsNumber 2 (Numeral.padded 2 n) := isNumber_padded (by decide) hn
  refine ⟨_, getD_mem (weekday_lt (s / 86400)), _, getD_mem hmonth, _, _, _, _, _, ⟨two hday,
    isNumber_padded (by decide) (year_bounds h).1, two ?_, two ?_, two ?_⟩, toList_writeSeconds s⟩
  · exact hhour.trans (by decide)
  · exact hminute.trans (by decide)
  · exact hsecond.trans (by decide)

/-! ## From a request to a response -/

/-- What a request says of a text that is asked for as a date. -/
theorem result_headerDate (thisYear : Int) {r : Request} {name : String} {m : Mark} {text : String}
    (h : r.headers.first? name = some (.text m text)) :
    ((RequestOp.headerDate name).run thisYear r).result =
      match read thisYear allForms text with
      | .ok ms => .ok (.int ms)
      | .error _ => .error (.headerNotDate name text) := by
  have date : r.headers.date thisYear name = Value.headerDate thisYear name (.text m text) := by
    unfold Headers.date
    rw [h]
  have mark : r.headers.integerMark name = .none := by
    unfold Headers.integerMark
    rw [h]
    rfl
  simp only [RequestOp.run, RequestOp.runHeaders, Action.within, Action.atomic, HeadersOp.run, date, mark,
    Value.headerDate]
  cases read thisYear allForms text <;> rfl

/-- A date that a request reads can be written by a response. The time is a whole second, the header that is
written has the preferred form in its strict sense, and responses and requests read the same time from it, in
whichever year. A text that is no date is refused with a fault of format. -/
theorem relay_headerDate (thisYear : Int) (r : Request) (name : String) (m : Mark) (text : String)
    (h : r.headers.first? name = some (.text m text)) :
    (∃ ms, ((RequestOp.headerDate name).run thisYear r).result = .ok (.int ms) ∧ 1000 ∣ ms ∧
      IsFixdate (writeSeconds (ms / 1000)) ∧
      ∀ (laterYear : Int) (target : String) (mark : Mark) (response : Response),
        let written := (ResponseOp.setDateHeader target (.int mark ms)).run laterYear response
        written.result = .ok .none ∧
        (∃ m', written.state.headers.values? target = some [.text m' (writeSeconds (ms / 1000))]) ∧
        ((ResponseOp.headerDate target).run laterYear written.state).result = .ok (.int ms) ∧
        ∀ (request : Request) (other : String) (copy : Mark),
          request.headers.first? other = some (.text copy (writeSeconds (ms / 1000))) →
          ((RequestOp.headerDate other).run laterYear request).result = .ok (.int ms)) ∨
    ∃ fault, ((RequestOp.headerDate name).run thisYear r).result = .error fault ∧ fault.kind = .format := by
  have asked := result_headerDate thisYear h
  rcases read_cases thisYear allForms text with ⟨s, hs, hread⟩ | hrefused
  · rw [hread] at asked
    have whole : 1000 * s / 1000 = s := by omega
    refine .inl ⟨1000 * s, asked, ⟨s, rfl⟩, whole.symm ▸ isFixdate_writeSeconds hs, ?_⟩
    intro laterYear target mark response written
    have range : -62135596800000 ≤ 1000 * s ∧ 1000 * s ≤ 253402300799999 := by omega
    have answers := headerDate_setDateHeader laterYear mark range target response
    obtain ⟨m', hrun⟩ := run_setDateHeader laterYear mark range target response
    have stored : written.state.headers.values? target = some [.text m' (writeSeconds (1000 * s / 1000))] := by
      rw [show written = _ from hrun]
      exact Headers.values?_put_text _ _ _ _
    rw [whole] at answers stored ⊢
    refine ⟨answers.1, ⟨m', stored⟩, answers.2, fun request other copy hcopy => ?_⟩
    have readAgain : read laterYear allForms (writeSeconds s) = .ok (1000 * s) :=
      read_writeSeconds laterYear _ hs
    rw [result_headerDate laterYear hcopy, readAgain]
  · rw [hrefused] at asked
    exact .inr ⟨_, asked, rfl⟩

/-- The older form in lower case, with more white space than there should be. -/
theorem relay_headerDate_older :
    ∃ r : Request, r.headers.first? "Date" = some (.text .none "sunday, 06-nov-94   08:49:37 gmt") ∧
      ((RequestOp.headerDate "Date").run 2024 r).result = .ok (.int 784111777000) ∧
      IsFixdate "Sun, 06 Nov 1994 08:49:37 GMT" ∧
      ∀ (target : String) (response : Response),
        let written := (ResponseOp.setDateHeader target (.int .none 784111777000)).run 2024 response
        written.result = .ok .none ∧
        ∃ m, written.state.headers.values? target = some [.text m "Sun, 06 Nov 1994 08:49:37 GMT"] := by
  obtain ⟨new, hnew⟩ : ∃ r, Request.new .null .null ⟨.empty⟩ = .ok r := ⟨_, rfl⟩
  let r := { new with headers := Headers.put .empty "Date" (.ofText "sunday, 06-nov-94   08:49:37 gmt") true }
  have stored : r.headers.first? "Date" = some (.text .none "sunday, 06-nov-94   08:49:37 gmt") :=
    Headers.first?_put_text _ _ _ _
  have read : ((RequestOp.headerDate "Date").run 2024 r).result = .ok (.int 784111777000) := by
    rw [result_headerDate 2024 stored]
    rfl
  refine ⟨r, stored, read, ?_⟩
  obtain ⟨ms, hms, -, strict, relayed⟩ | ⟨fault, hfault, -⟩ := relay_headerDate 2024 r "Date" _ _ stored
  · obtain rfl : ms = 784111777000 := by
      rw [read] at hms
      cases hms
      rfl
    have text : writeSeconds (784111777000 / 1000) = "Sun, 06 Nov 1994 08:49:37 GMT" := by rfl
    rw [text] at strict relayed
    refine ⟨strict, fun target response => ?_⟩
    obtain ⟨done, found, -⟩ := relayed 2024 target .none response
    exact ⟨done, found⟩
  · rw [read] at hfault
    cases hfault

end HttpExchange.HttpDate
