import HttpExchange.Proofs.Calendar.Days
import HttpExchange.Proofs.Fault
import HttpExchange.Proofs.Header.History

/-!
# Headers that are read as integers and dates

A header is read as an integer or as a date by the first of its values, whatever this is. Callers who do not know
what was written rely on a read to give an integer or to fail with a fault of format, which names the header. A
text that is neither a numeral nor a date fails so, and so does each value that has nothing to do with numbers.

Numbers and dates are converted without being looked at, however, and there the read may fail for another reason:
an infinity and not-a-number are no integers; on the way over a text, an integer may have too many digits, and the
year of a date and time may not be supported in universal time.

## Main statements

* `Value.failsByFormat_headerInteger_iff`, `Value.failsByFormat_headerDate_iff`,
  `Value.failsByFormat_headerText_iff`: when the conversion of one value fails by its format only.
* `Headers.typed_reads_fail_by_format_iff`: when the reads of a header do.
-/

namespace HttpExchange

/-- Is the number neither an infinity nor not-a-number? -/
def Binary64.isFinite : Binary64 → Bool
  | .finite _ _ _ => true
  | _ => false

/-- A fault, if there is one, is one of format. -/
def FailsByFormat {α : Type} (x : Except Fault α) : Prop := ∀ fault, x = .error fault → fault.kind = .format

namespace FailsByFormat

variable {α β : Type}

theorem iff_failsIn (x : Except Fault α) : FailsByFormat x ↔ FailsIn [.format] x := by
  simp [FailsByFormat, FailsIn]

@[simp]
theorem ok_iff (a : α) : FailsByFormat (.ok a) ↔ True :=
  (iff_failsIn _).trans (FailsIn.ok_iff a)

@[simp]
theorem error_iff (fault : Fault) : FailsByFormat (.error fault : Except Fault α) ↔ fault.kind = .format := by
  rw [iff_failsIn, FailsIn.error_iff, List.mem_singleton]

@[simp]
theorem map_iff (f : α → β) (x : Except Fault α) : FailsByFormat (x.map f) ↔ FailsByFormat x := by
  rw [iff_failsIn, iff_failsIn, FailsIn.map_iff]

end FailsByFormat

/-! ## Conversion of one value -/

namespace Value

theorem failsByFormat_truncate_iff (x : Binary64) : FailsByFormat (truncate x) ↔ x.isFinite = true := by
  cases x with
  | nan => simp [truncate, Binary64.isFinite, Fault.kind]
  | infinite negative => simp [truncate, Binary64.isFinite, Fault.kind]
  | finite negative m e => simp [truncate, Binary64.isFinite]

theorem failsByFormat_headerInteger_iff (name : String) (v : Value) :
    FailsByFormat (v.headerInteger name) ↔ ∀ m x, v = .float m x → x.isFinite = true := by
  cases v with
  | float m x => simp [headerInteger, failsByFormat_truncate_iff]
  | text m s =>
    cases hread : Numeral.read (Text.trim s.toList) with
    | ok n => simp [headerInteger, hread]
    | error refusal => simp [headerInteger, hread, Fault.kind]
  | _ => simp [headerInteger, Fault.kind]

theorem failsByFormat_headerDate_iff (thisYear : Int) (name : String) (v : Value) :
    FailsByFormat (v.headerDate thisYear name) ↔ ∀ m x, v = .float m x → x.isFinite = true := by
  cases v with
  | float m x => simp [headerDate, failsByFormat_truncate_iff]
  | text m s =>
    cases hread : HttpDate.read thisYear HttpDate.allForms s with
    | ok millis => simp [headerDate, hread]
    | error fault => simp [headerDate, hread, Fault.kind]
  | _ => simp [headerDate, Fault.kind]

theorem failsByFormat_integerText_iff (n : Int) :
    FailsByFormat (integerText n) ↔ (Numeral.digits n.natAbs).length ≤ Numeral.maxDigits := by
  unfold integerText
  split
  · next hlong => simpa [Fault.kind] using hlong
  · next hshort => simpa using hshort

theorem failsByFormat_write_dateTime_iff (m : Mark) (d : DateTime) :
    FailsByFormat (HttpDate.write (.dateTime m d)) ↔ -62135596800 ≤ d.seconds ∧ d.seconds ≤ 253402300799 := by
  show FailsByFormat ((HttpDate.secondsOfDateTime d).map HttpDate.writeSeconds) ↔ _
  rw [FailsByFormat.map_iff, ← Date.isSupportedYear_ofSeconds_iff]
  unfold HttpDate.secondsOfDateTime
  split
  · next hyear => simp [hyear]
  · next hyear => simp [hyear, Fault.kind]

/-- Can the value be read by way of its text without a fault other than one of format? An integer must not be too
long for that, and the year of a date and time must be supported in universal time. -/
def IsTextual : Value → Prop
  | .int _ n => (Numeral.digits n.natAbs).length ≤ Numeral.maxDigits
  | .dateTime _ d => -62135596800 ≤ d.seconds ∧ d.seconds ≤ 253402300799
  | _ => True

theorem failsByFormat_headerText_iff (v : Value) : FailsByFormat v.headerText ↔ v.IsTextual := by
  cases v with
  | int m n => exact failsByFormat_integerText_iff n
  | dateTime m d => exact failsByFormat_write_dateTime_iff m d
  | _ => simp [headerText, IsTextual]

end Value

/-! ## Reading a header -/

namespace Headers

variable (thisYear : Int) (h : Headers) (name : String)

theorem failsByFormat_integer_iff : FailsByFormat (h.integer name) ↔
    ∀ m x, h.first? name = some (.float m x) → x.isFinite = true := by
  unfold integer
  cases hfirst : h.first? name with
  | none => simp
  | some v =>
    have each := v.failsByFormat_headerInteger_iff name
    cases v with
    | null => simp
    | _ => simpa using each

theorem failsByFormat_date_iff : FailsByFormat (h.date thisYear name) ↔
    ∀ m x, h.first? name = some (.float m x) → x.isFinite = true := by
  unfold date
  cases hfirst : h.first? name with
  | none => simp
  | some v =>
    have each := v.failsByFormat_headerDate_iff thisYear name
    cases v with
    | null => simp
    | _ => simpa using each

/-- The text of the first value is read as a date in the preferred form, which fails by its format only. -/
theorem failsByFormat_dateHeader_iff (r : Response) : FailsByFormat (r.dateHeader thisYear name) ↔
    ∀ v, r.headers.first? name = some v → v.IsTextual := by
  unfold Response.dateHeader text?
  cases hfirst : r.headers.first? name with
  | none => simp [pure, bind, Except.bind, Except.pure]
  | some v =>
    have written := v.failsByFormat_headerText_iff
    dsimp only
    cases htext : v.headerText with
    | error fault =>
      rw [htext] at written
      simpa [Except.map, bind, Except.bind] using written
    | ok s =>
      rw [htext] at written
      have textual : v.IsTextual := written.1 ((FailsByFormat.ok_iff s).2 trivial)
      refine iff_of_true ?_ fun w hw => Option.some.inj hw ▸ textual
      cases hread : HttpDate.read thisYear [.preferred] s with
      | ok millis => simp [Except.map, bind, Except.bind, pure, Except.pure, hread]
      | error fault => simp [Except.map, bind, Except.bind, hread, throw, throwThe, MonadExceptOf.throw, Fault.kind]

end Headers

/-! ## What callers get -/

/-- The operation gives an integer, or fails with a fault of format. -/
def IsIntegerOrFormat (result : Except Fault Answer) : Prop :=
  (∃ mark n, result = .ok (.value (.int mark n))) ∨ ∃ fault, result = .error fault ∧ fault.kind = .format

theorem isIntegerOrFormat_map_iff (mark : Mark) (x : Except Fault Int) :
    IsIntegerOrFormat (x.map fun n => .value (.int mark n)) ↔ FailsByFormat x := by
  cases x with
  | ok n => simp [IsIntegerOrFormat, Except.map]
  | error fault => simp [IsIntegerOrFormat, Except.map]

namespace Headers

/-- To read a header as an integer or as a date gives an integer or fails with a fault of format exactly if the
first value is no infinity and not not-a-number; to read a header of a response as a date in the preferred form
does so exactly if the first value is no integer that is too long for a text and no date and time whose year is
not supported in universal time. -/
theorem typed_reads_fail_by_format_iff (thisYear : Int) (h : Headers) (r : Response) (name : String) :
    (IsIntegerOrFormat ((Subject.headers thisYear).run (.integer name) h).result ↔
      ∀ m x, h.first? name = some (.float m x) → x.isFinite = true) ∧
    (IsIntegerOrFormat ((Subject.headers thisYear).run (.date name) h).result ↔
      ∀ m x, h.first? name = some (.float m x) → x.isFinite = true) ∧
    (IsIntegerOrFormat ((Subject.response thisYear).run (.inl (.headerDate name)) r).result ↔
      ∀ v, r.headers.first? name = some v → v.IsTextual) := by
  have preferred : ((Subject.response thisYear).run (.inl (.headerDate name)) r).result =
      (r.dateHeader thisYear name).map fun n => .value (.int .none n) := rfl
  refine ⟨?_, ?_, ?_⟩
  · rw [HeadersOp.result_of_read rfl, isIntegerOrFormat_map_iff, failsByFormat_integer_iff]
  · rw [HeadersOp.result_of_read rfl, isIntegerOrFormat_map_iff, failsByFormat_date_iff]
  · rw [preferred, isIntegerOrFormat_map_iff, failsByFormat_dateHeader_iff]

/-- An infinity, not-a-number, and the first midnight of the calendar at a place where it is an hour later than in
universal time. -/
theorem typed_reads_fail_otherwise_of_extremes :
    ∃ d : DateTime, (d.date = ⟨1, 1, 1⟩ ∧ d.time = ⟨0, 0, 0, 0⟩ ∧ d.offset = some 3600) ∧
      ∃ h, ofPairs [("X", .float .none (.infinite false)), ("Y", .ofList [.float .none .nan]),
          ("Z", .dateTime .none d)] = .ok h ∧
        ((Subject.headers 2024).run (.integer "X") h).result = .error .integerOfInfinity ∧
        ((Subject.headers 2024).run (.date "Y") h).result = .error .integerOfNan ∧
        (∀ r : Response, r.headers = h →
          ((Subject.response 2024).run (.inl (.headerDate "Z")) r).result = .error .dateOutOfRange) ∧
        ∀ fault ∈ [Fault.integerOfInfinity, .integerOfNan, .dateOutOfRange],
          ¬ IsIntegerOrFormat (.error fault) := by
  refine ⟨⟨⟨1, 1, 1⟩, ⟨0, 0, 0, 0⟩, some 3600, rfl⟩, ⟨rfl, rfl, rfl⟩, _, rfl, rfl, rfl, fun r hr => ?_, ?_⟩
  · show (r.dateHeader 2024 "Z").map Answer.int = _
    unfold Response.dateHeader
    rw [hr]
    rfl
  · simp [IsIntegerOrFormat, Fault.kind]

end Headers

end HttpExchange
