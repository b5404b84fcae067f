import HttpExchange.Proofs.Header.Wire
import HttpExchange.Proofs.HttpDate.RoundTrip

/-!
# Dates and times, and the milliseconds that they are

A date and time may be written as it is, by its second in universal time, or by way of the number of its
milliseconds, which is divided by a thousand in floating point. Both ways lead to the same second: the fraction
of a second does not reach the next one, and the second is refused in both cases if its year is not supported in
universal time, although for different reasons.

A header that holds a date and time is read as its milliseconds, and sent as a text that is read as the
beginning of the same second.

## Main statements

* `HttpDate.write_dateTime_eq_ok_iff`: which dates and times are written, and how.
* `Headers.exists_line_of_first?`: the first value of a header is the first one that is sent under its name.
* `HttpDate.write_dateTime_iff_write_millis`: the two ways of writing, and of reading a header.
-/

namespace HttpExchange

namespace DateTime

/-- The milliseconds of a date and time fall into its second. -/
theorem epochMillis_ediv (d : DateTime) : d.epochMillis / 1000 = d.seconds := by
  have hvalid := d.valid
  simp only [TimeOfDay.isValid, Bool.and_eq_true, decide_eq_true_eq] at hvalid
  obtain ⟨⟨-, -, hmicro⟩, -⟩ := hvalid
  unfold epochMillis
  omega

end DateTime

namespace HttpDate

variable (m mark : Mark) (d : DateTime)

/-- Written is the second in universal time, if its year is supported. -/
theorem write_dateTime_eq_ok_iff (text : String) : write (.dateTime m d) = .ok text ↔
    (-62135596800 ≤ d.seconds ∧ d.seconds ≤ 253402300799) ∧ writeSeconds d.seconds = text := by
  rw [← Date.isSupportedYear_ofSeconds_iff]
  show (secondsOfDateTime d).map writeSeconds = _ ↔ _
  rw [map_eq_ok_iff]
  unfold secondsOfDateTime
  split
  · next hyear => simp [hyear]
  · next hyear => simp [hyear]

/-- The milliseconds are written like the date and time itself. -/
theorem write_dateTime_iff (text : String) :
    write (.dateTime m d) = .ok text ↔ write (.int mark d.epochMillis) = .ok text := by
  have range {ms s : Int} (h : ms / 1000 = s) : -62135596800 ≤ s ∧ s ≤ 253402300799 ↔
      -62135596800000 ≤ ms ∧ ms ≤ 253402300799999 := by omega
  rw [write_dateTime_eq_ok_iff, write_int_eq_ok_iff, d.epochMillis_ediv, range d.epochMillis_ediv]

end HttpDate

/-! ## Headers -/

namespace Headers

variable {h : Headers} {name : String} {v : Value}

theorem texts_of_first? (hv : h.first? name = some v) {ss : List String} (hss : h.texts name = .ok ss) :
    ∃ s, v.headerText = .ok s ∧ ss.head? = some s := by
  obtain ⟨rest, hvalues⟩ : ∃ rest, h.valuesOf name = v :: rest := by
    unfold first? at hv
    exact ⟨_, (List.eq_cons_of_mem_head? hv)⟩
  unfold texts at hss
  rw [hvalues] at hss
  obtain ⟨s, ts, hs, -, rfl⟩ := List.forall₂_cons_left_iff.1 (mapM_eq_ok_iff.1 hss)
  exact ⟨s, hs, rfl⟩

/-- The first value of a header is the first one that is sent under its name. -/
theorem exists_line_of_first? (hk : h.IsKeyed) (hv : h.first? name = some v) {items : List Item}
    (hitems : h.itemThings = .ok items) :
    ∃ l, (lines items).find? (fun l => lowerCase l.1.content = lowerCase name) = some l ∧
      v.headerText = .ok l.2.content := by
  obtain ⟨s, hs, hfirst⟩ := texts_of_first? hv (hk.texts_of_lines hitems name)
  rw [List.head?_map, List.head?_filter] at hfirst
  obtain ⟨l, hl, rfl⟩ := Option.map_eq_some_iff.1 hfirst
  exact ⟨l, hl, hs⟩

end Headers

namespace HttpDate

open Headers

/-- A date and time is written as its milliseconds are: both are written if the second is in a supported year of
universal time, and then as the same text, which is read as the milliseconds without the fraction of a second. A
header that holds the date and time is read as its milliseconds, and the first text that is sent under its name
is this one. -/
theorem write_dateTime_iff_write_millis (thisYear : Int) (m mark : Mark) (d : DateTime) :
    (∀ text, write (.dateTime m d) = .ok text ↔ write (.int mark d.epochMillis) = .ok text) ∧
    ((∃ text, write (.dateTime m d) = .ok text) ↔ -62135596800 ≤ d.seconds ∧ d.seconds ≤ 253402300799) ∧
    (∀ text forms, write (.dateTime m d) = .ok text →
      read thisYear (.preferred :: forms) text = .ok (1000 * (d.epochMillis / 1000))) ∧
    ∀ (h : Headers) (name : String), h.IsReachable thisYear → h.first? name = some (.dateTime m d) →
      ((Subject.headers thisYear).run (.date name) h).result = .ok (.int d.epochMillis) ∧
      ∀ answer, ((Subject.headers thisYear).run .pairs h).result = .ok answer →
        ∃ sent l, answer = linesAnswer sent ∧
          sent.find? (fun l => lowerCase l.1.content = lowerCase name) = some l ∧
          write (.dateTime m d) = .ok l.2.content ∧
          read thisYear allForms l.2.content = .ok (1000 * (d.epochMillis / 1000)) := by
  have readBack (text : String) (forms : List DateForm) (htext : write (.dateTime m d) = .ok text) :
      read thisYear (.preferred :: forms) text = .ok (1000 * (d.epochMillis / 1000)) := by
    obtain ⟨hrange, rfl⟩ := (write_dateTime_eq_ok_iff m d text).1 htext
    rw [d.epochMillis_ediv]
    exact read_writeSeconds thisYear forms hrange
  refine ⟨write_dateTime_iff m mark d, ?_, readBack, fun h name hr hfirst => ⟨?_, fun answer hanswer => ?_⟩⟩
  · simp only [write_dateTime_eq_ok_iff, exists_and_left, exists_eq', and_true]
  · have date : h.date thisYear name = .ok d.epochMillis := by
      unfold Headers.date
      rw [hfirst]
      rfl
    have kept : h.integerMark name = .none := by
      unfold Headers.integerMark
      rw [hfirst]
      rfl
    rw [HeadersOp.result_of_read rfl, date, kept]
    rfl
  · obtain ⟨items, hitems⟩ := exists_of_result_pairs hanswer
    obtain ⟨l, hl, htext⟩ := exists_line_of_first? hr.isKeyed hfirst hitems
    have sent : answer = linesAnswer (lines items) :=
      Except.ok.inj (hanswer.symm.trans (result_pairs thisYear hitems))
    exact ⟨lines items, l, sent, hl, htext, readBack _ _ htext⟩

/-- In the first hours of 1970 in India, the last second of 1969 is not over in universal time. -/
theorem write_dateTime_east_of_epoch :
    ∃ d : DateTime, (d.date = ⟨1970, 1, 1⟩ ∧ d.time = ⟨5, 29, 59, 999999⟩ ∧ d.offset = some 19800) ∧
      d.epochMillis = -1 ∧ write (.int .none (-1)) = .ok "Wed, 31 Dec 1969 23:59:59 GMT" ∧
      read 2024 allForms "Wed, 31 Dec 1969 23:59:59 GMT" = .ok (-1000) ∧
      ∃ h, ofPairs [("Date", .dateTime .none d), ("X-Id", .ofText "a")] = .ok h ∧
        ((Subject.headers 2024).run (.date "DATE") h).result = .ok (.int (-1)) ∧
        ∃ sent l, ((Subject.headers 2024).run .pairs h).result = .ok (linesAnswer sent) ∧
          sent.find? (fun l => lowerCase l.1.content = lowerCase "DATE") = some l ∧
          read 2024 allForms l.2.content = .ok (-1000) := by
  obtain ⟨d, fields, millis, written, h, hh, first, things⟩ : ∃ d : DateTime,
      (d.date = ⟨1970, 1, 1⟩ ∧ d.time = ⟨5, 29, 59, 999999⟩ ∧ d.offset = some 19800) ∧ d.epochMillis = -1 ∧
      write (.dateTime .none d) = .ok "Wed, 31 Dec 1969 23:59:59 GMT" ∧
      ∃ h, ofPairs [("Date", .dateTime .none d), ("X-Id", .ofText "a")] = .ok h ∧
        h.first? "DATE" = some (.dateTime .none d) ∧
        h.itemThings = .ok [(⟨.own (.named "date"), "Date"⟩, [⟨.anew, "Wed, 31 Dec 1969 23:59:59 GMT"⟩]),
          (⟨.own (.named "x-id"), "X-Id"⟩, [⟨.none, "a"⟩])] :=
    ⟨⟨⟨1970, 1, 1⟩, ⟨5, 29, 59, 999999⟩, some 19800, rfl⟩, ⟨rfl, rfl, rfl⟩, rfl, rfl,
      _, rfl, rfl, rfl⟩
  obtain ⟨same, -, readBack, headers⟩ := write_dateTime_iff_write_millis 2024 .none .none d
  rw [millis] at same readBack headers
  obtain ⟨date, sent⟩ := headers h "DATE" (.ofPairs hh) first
  have pairs := result_pairs 2024 things
  obtain ⟨lines, l, hlines, hl, -, hread⟩ := sent _ pairs
  rw [hlines] at pairs
  exact ⟨d, fields, millis, (same _).1 written, readBack _ _ written, h, hh, date, lines, l, pairs, hl, hread⟩

end HttpDate

end HttpExchange
