import HttpExchange.HttpDate
import HttpExchange.Proofs.Text.Pieces

/-!
# The forms of dates

Each form of a date is a sequence of pieces. A text may have a form without being a date: its month may be a
word that names none, and its fields may be out of range. In either case the next form is tried, in vain: the
character behind the name of the day and the one behind the number that follows tell the forms apart, so that no
text has two of them. What a text is read as thus depends on which forms are accepted, but not on their order.

## Main statements

* `HttpDate.scanForm_of_hasForm`, `HttpDate.exists_of_scanForm`: a scan finds the fields of the texts that have
  the form, and of no others.
* `HttpDate.WrittenDate.HasForm.unique`: no text has two forms.
* `HttpDate.read_of_hasForm`: a text that has a form is read in this one alone.
* `HttpDate.read_of_same_forms`: the order in which forms are tried does not matter.
-/

namespace HttpExchange.HttpDate

open Text Scan

/-! ## Kinds of pieces -/

/-- The short name of a day of the week in any case, perhaps with more letters. -/
def IsDayName (cs : List Char) : Prop :=
  ∃ short more, cs = short ++ more ∧ short.map foldCase ∈ lowered weekdayNames ∧
    ∀ c ∈ more, isFoldedLetter c = true

/-- Three letters, whether they name a month or not. -/
def IsMonthWord (cs : List Char) : Prop := cs.length = 3 ∧ ∀ c ∈ cs, isFoldedLetter c = true

/-- A name of universal time in any case. -/
def IsZoneName (cs : List Char) : Prop :=
  cs.map foldCase ∈ [['g', 'm', 't'], ['u', 't', 'c'], ['u', 't']]

/-- The number of the month that a word names. -/
def monthNumber? (word : List Char) : Option Nat :=
  ((lowered monthNames).idxOf? (word.map Char.toLower)).map (· + 1)

theorem isFoldedLetter_of_toLower {c : Char} (h : c.toLower.isLower = true) : isFoldedLetter c = true := by
  unfold isFoldedLetter foldCase
  split
  · rfl
  · split
    · rfl
    · split
      · rfl
      · exact h

/-- A word that names a month consists of three letters. -/
theorem isMonthWord_of_monthNumber? {word : List Char} {n : Nat} (h : monthNumber? word = some n) :
    IsMonthWord word := by
  have letters : (lowered monthNames).all fun name => name.length == 3 && name.all Char.isLower := by decide
  simp only [List.all_eq_true, Bool.and_eq_true, beq_iff_eq] at letters
  obtain ⟨i, hi, -⟩ := Option.map_eq_some_iff.1 h
  have named : word.map Char.toLower ∈ lowered monthNames := by
    by_contra hnot
    rw [List.idxOf?_eq_none_iff.2 hnot] at hi
    cases hi
  obtain ⟨length, hlower⟩ := letters _ named
  refine ⟨by rwa [List.length_map] at length, fun c hc => isFoldedLetter_of_toLower ?_⟩
  exact hlower _ (List.mem_map_of_mem hc)

theorem IsMonthWord.head {u rest : List Char} (h : IsMonthWord u) :
    ∀ c, (u ++ rest).head? = some c → isBlank c = false :=
  head_append (List.ne_nil_of_length_eq_add_one h.1) h.2 fun _ => isBlank_of_isFoldedLetter

/-- The name of a day consists of letters. -/
theorem IsDayName.letters {cs : List Char} (h : IsDayName cs) : ∀ c ∈ cs, isFoldedLetter c = true := by
  have lower : (lowered weekdayNames).all fun name => name.all Char.isLower := by decide
  simp only [List.all_eq_true] at lower
  obtain ⟨short, more, rfl, hshort, hmore⟩ := h
  intro c hc
  rcases List.mem_append.1 hc with hc | hc
  · exact lower _ hshort _ (List.mem_map_of_mem hc)
  · exact hmore c hc

theorem IsDayName.head {cs rest : List Char} (h : IsDayName cs) :
    ∀ c, (cs ++ rest).head? = some c → isBlank c = false := by
  refine head_append ?_ h.letters fun _ => isBlank_of_isFoldedLetter
  rintro rfl
  obtain ⟨short, more, heq, hshort, -⟩ := h
  obtain ⟨rfl, rfl⟩ := List.append_eq_nil_iff.1 heq.symm
  exact absurd hshort (by decide)

/-- The name of universal time consists of letters. -/
theorem IsZoneName.letters {cs : List Char} (h : IsZoneName cs) : ∀ c ∈ cs, isFoldedLetter c = true := by
  have lower : [['g', 'm', 't'], ['u', 't', 'c'], ['u', 't']].all fun name => name.all Char.isLower := by decide
  simp only [List.all_eq_true] at lower
  exact fun c hc => lower _ h _ (List.mem_map_of_mem hc)

theorem IsZoneName.last {cs rest : List Char} (h : IsZoneName cs) :
    ∀ c, (rest ++ cs).getLast? = some c → isBlank c = false := by
  refine last_append ?_ h.letters fun _ => isBlank_of_isFoldedLetter
  rintro rfl
  simp [IsZoneName] at h

/-! ## Forms -/

/-- The pieces of a day: the name of the day of the week, a comma and the day of the month. -/
def dayPieces (day : List Char) : List (List Char → Prop) :=
  [IsDayName, (· = [',']), IsGap, fun u => u = day ∧ IsDigits 1 2 u]

/-- The pieces of a time of day. -/
def clockPieces (hour minute second : List Char) : List (List Char → Prop) :=
  [fun u => u = hour ∧ IsDigits 2 2 u, (· = [':']), fun u => u = minute ∧ IsDigits 2 2 u, (· = [':']),
    fun u => u = second ∧ IsDigits 2 2 u]

/-- The pieces of a time of day in universal time, with the white space in front of it. -/
def timePieces (hour minute second : List Char) : List (List Char → Prop) :=
  IsGap :: clockPieces hour minute second ++ [IsGap, IsZoneName]

/-- The fields of a date as they are written. The year has two or four digits. -/
structure WrittenDate where
  day : List Char
  month : List Char
  year : List Char
  hour : List Char
  minute : List Char
  second : List Char

namespace WrittenDate

variable (w : WrittenDate)

/-- The pieces of a date in a form. -/
def pieces : DateForm → List (List Char → Prop)
  | .preferred => dayPieces w.day ++ [IsGap, fun u => u = w.month ∧ IsMonthWord u, IsGap,
      fun u => u = w.year ∧ IsDigits 4 4 u] ++ timePieces w.hour w.minute w.second
  | .older => dayPieces w.day ++ [(· = ['-']), fun u => u = w.month ∧ IsMonthWord u, (· = ['-']),
      fun u => u = w.year ∧ IsDigits 2 2 u] ++ timePieces w.hour w.minute w.second
  | .library => [IsDayName, IsGap, fun u => u = w.month ∧ IsMonthWord u, IsGap,
      fun u => u = w.day ∧ IsDigits 1 2 u, IsGap] ++ clockPieces w.hour w.minute w.second ++
      [IsGap, fun u => u = w.year ∧ IsDigits 4 4 u]

/-- Does a text write the date in a form? -/
def HasForm (form : DateForm) (cs : List Char) : Prop := InTurn (w.pieces form) cs

/-- The year that is written, as of `thisYear`. -/
def fullYear (thisYear : Int) : DateForm → Int
  | .older => HttpDate.fullYear thisYear (digitsValue w.year)
  | _ => digitsValue w.year

/-- The time of day that is written. It need not exist. -/
def time : TimeOfDay := ⟨digitsValue w.hour, digitsValue w.minute, digitsValue w.second, 0⟩

/-- The date and time that are written, if the month has a name. They need not exist. -/
def fields? (thisYear : Int) (form : DateForm) : Option (Date × TimeOfDay) :=
  (monthNumber? w.month).map fun month => (⟨w.fullYear thisYear form, month, digitsValue w.day⟩, w.time)

/-- The time that is written, in milliseconds, if it exists. -/
def millis? (thisYear : Int) (form : DateForm) : Option Int :=
  (w.fields? thisYear form).bind fun f => (DateTime.ofFields? f.1 f.2 (some 0)).map DateTime.epochMillis

end WrittenDate

/-! ## Scans of pieces -/

section Pieces

variable {cs rest : List Char}

theorem scanWeekday_eq_some_iff : scanWeekday cs = some ((), rest) ↔
    ∃ u, cs = u ++ rest ∧ IsDayName u ∧ ∀ c, rest.head? = some c → isFoldedLetter c = false := by
  constructor
  · intro h
    obtain ⟨i, behind, hword, hletters⟩ := bind_eq_some h
    obtain ⟨short, rfl, hshort⟩ := word_eq_some hword
    obtain rfl : behind.dropWhile isFoldedLetter = rest := (Prod.mk.inj (Option.some.inj hletters)).2
    refine ⟨short ++ behind.takeWhile isFoldedLetter, ?_, ⟨_, _, rfl, hshort, ?_⟩, ?_⟩
    · rw [List.append_assoc, List.takeWhile_append_dropWhile]
    · exact fun c hc => List.all_eq_true.1 List.all_takeWhile c hc
    · intro c hc
      have stop := List.head?_dropWhile_not isFoldedLetter behind
      rw [hc] at stop
      simpa using stop
  · rintro ⟨-, rfl, ⟨short, more, rfl, hshort, hmore⟩, hrest⟩
    have three : ∀ name ∈ lowered weekdayNames, name.length = 3 := by decide
    rw [List.append_assoc]
    obtain ⟨i, hi⟩ := word_append three hshort (more ++ rest)
    unfold scanWeekday
    rw [bind_of_some hi]
    simp only [letters, dropWhile_append_of_head? hmore hrest]

/-- What follows a word of three letters is scanned if the word names a month. -/
theorem scanMonth_bind {α : Type} {u : List Char} {f : Nat → Scan α} (hu : IsMonthWord u) :
    (scanMonth >>= f) (u ++ rest) = (monthNumber? u).bind fun n => f n rest := by
  have taken : scanMonth (u ++ rest) = (monthNumber? u).map fun n => (n, rest) := by
    unfold scanMonth monthNumber?
    rw [← hu.1, List.take_left, List.drop_left, Option.map_map]
    rfl
  cases hn : monthNumber? u with
  | none => exact bind_of_none (taken.trans (by rw [hn]; rfl))
  | some n => exact bind_of_some (taken.trans (by rw [hn]; rfl))

theorem exists_of_scanMonth {n : Nat} (h : scanMonth cs = some (n, rest)) :
    ∃ u, cs = u ++ rest ∧ IsMonthWord u ∧ monthNumber? u = some n := by
  obtain ⟨i, hi, heq⟩ := Option.map_eq_some_iff.1 h
  obtain ⟨rfl, rfl⟩ := Prod.mk.inj heq
  have named : monthNumber? (cs.take 3) = some (i + 1) := by
    unfold monthNumber?
    rw [hi]
    rfl
  exact ⟨cs.take 3, (List.take_append_drop 3 cs).symm, isMonthWord_of_monthNumber? named, named⟩

theorem exists_of_scanTime {t : TimeOfDay} (h : scanTime cs = some (t, rest)) :
    ∃ hour minute second u, cs = u ++ rest ∧ InTurn (clockPieces hour minute second) u ∧
      t = ⟨digitsValue hour, digitsValue minute, digitsValue second, 0⟩ := by
  unfold scanTime at h
  obtain ⟨_, cs₁, hhour, h⟩ := bind_eq_some h
  obtain ⟨_, cs₂, hcolon, h⟩ := bind_eq_some h
  obtain ⟨_, cs₃, hminute, h⟩ := bind_eq_some h
  obtain ⟨_, cs₄, hcolon', h⟩ := bind_eq_some h
  obtain ⟨_, cs₅, hsecond, h⟩ := bind_eq_some h
  obtain ⟨hour, rfl, twoHour, rfl, -⟩ := digits_eq_some_iff.1 hhour
  obtain rfl := char_eq_some_iff.1 hcolon
  obtain ⟨minute, rfl, twoMinute, rfl, -⟩ := digits_eq_some_iff.1 hminute
  obtain rfl := char_eq_some_iff.1 hcolon'
  obtain ⟨second, rfl, twoSecond, rfl, -⟩ := digits_eq_some_iff.1 hsecond
  cases h
  refine ⟨hour, minute, second, hour ++ ':' :: (minute ++ ':' :: second), by simp, ?_, rfl⟩
  exact ⟨_, _, rfl, ⟨rfl, twoHour⟩, [':'], _, rfl, rfl, _, _, rfl, ⟨rfl, twoMinute⟩, [':'], _, rfl, rfl,
    _, [], (List.append_nil _).symm, ⟨rfl, twoSecond⟩, rfl⟩

theorem scanTime_append {hour minute second u : List Char} (h : InTurn (clockPieces hour minute second) u) :
    scanTime (u ++ rest) = some (⟨digitsValue hour, digitsValue minute, digitsValue second, 0⟩, rest) := by
  have two {ds : List Char} (hds : IsDigits 2 2 ds) (behind : List Char) :
      Scan.digits 2 2 (ds ++ behind) = some (digitsValue ds, behind) :=
    digits_eq_some_iff.2 ⟨ds, rfl, hds, rfl, .inl (Nat.le_antisymm hds.1.2 hds.1.1)⟩
  obtain ⟨_, _, rfl, ⟨rfl, hhour⟩, _, _, rfl, rfl, _, _, rfl, ⟨rfl, hminute⟩, _, _, rfl, rfl, _, _, rfl,
    ⟨rfl, hsecond⟩, rfl⟩ := h
  unfold scanTime
  simp only [List.append_assoc, List.cons_append, List.nil_append]
  rw [bind_of_some (two hhour _), bind_of_some (char_cons ':' _), bind_of_some (two hminute _),
    bind_of_some (char_cons ':' _), bind_of_some (two hsecond _)]
  rfl

theorem scanZone_eq_some_iff : scanZone cs = some ((), rest) ↔ IsZoneName cs ∧ rest = [] := by
  constructor
  · intro h
    obtain ⟨i, behind, hword, hend⟩ := bind_eq_some h
    obtain ⟨rfl, rfl⟩ := atEnd_eq_some_iff.1 hend
    obtain ⟨u, rfl, hu⟩ := word_eq_some hword
    exact ⟨by rwa [List.append_nil], rfl⟩
  · rintro ⟨hzone, rfl⟩
    have taken : ∃ i, word [['g', 'm', 't'], ['u', 't', 'c'], ['u', 't']] cs = some (i, []) := by
      simp only [IsZoneName, List.mem_cons, List.not_mem_nil, or_false, List.map_eq_cons_iff,
        List.map_eq_nil_iff] at hzone
      rcases hzone with ⟨a, _, rfl, ha, b, _, rfl, hb, c, _, rfl, hc, rfl⟩ |
        ⟨a, _, rfl, ha, b, _, rfl, hb, c, _, rfl, hc, rfl⟩ | ⟨a, _, rfl, ha, b, _, rfl, hb, rfl⟩
      · exact ⟨0, by simp [word, dropWord?, ha, hb, hc]⟩
      · exact ⟨1, by simp [word, dropWord?, ha, hb, hc]⟩
      · exact ⟨2, by simp [word, dropWord?, ha, hb]⟩
    obtain ⟨i, hi⟩ := taken
    unfold scanZone
    rw [bind_of_some hi]
    rfl

end Pieces

/-! ## Scans of forms -/

section Forms

variable {α : Type} {cs behind rest u : List Char} {f : Nat → Scan α} {r : α × List Char} {d : Date}
  {day hour minute second : List Char} {fields : Date × TimeOfDay}

theorem exists_of_scanDay
    (h : (do scanWeekday; char ','; blanks; let day ← Scan.digits 1 2; f day : Scan α) cs = some r) :
    ∃ day u behind, cs = u ++ behind ∧ InTurn (dayPieces day) u ∧ f (digitsValue day) behind = some r := by
  obtain ⟨_, _, hname, h⟩ := bind_eq_some h
  obtain ⟨_, _, hcomma, h⟩ := bind_eq_some h
  obtain ⟨_, _, hgap, h⟩ := bind_eq_some h
  obtain ⟨_, behind, hday, h⟩ := bind_eq_some h
  obtain ⟨name, rfl, isName, -⟩ := scanWeekday_eq_some_iff.1 hname
  obtain rfl := char_eq_some_iff.1 hcomma
  obtain ⟨gap, rfl, isGap, -⟩ := blanks_eq_some_iff.1 hgap
  obtain ⟨day, rfl, isDay, rfl, -⟩ := digits_eq_some_iff.1 hday
  refine ⟨day, name ++ ',' :: (gap ++ day), behind, by simp, ?_, h⟩
  exact ⟨_, _, rfl, isName, [','], _, rfl, rfl, _, _, rfl, isGap, _, [], (List.append_nil _).symm,
    ⟨rfl, isDay⟩, rfl⟩

theorem scanDay_append (h : InTurn (dayPieces day) u)
    (hbehind : ∀ c, behind.head? = some c → isDigit c = false) :
    (do scanWeekday; char ','; blanks; let day ← Scan.digits 1 2; f day : Scan α) (u ++ behind) =
      f (digitsValue day) behind := by
  obtain ⟨name, _, rfl, isName, _, _, rfl, rfl, gap, _, rfl, isGap, _, _, rfl, ⟨rfl, isDay⟩, rfl⟩ := h
  simp only [List.append_assoc, List.cons_append, List.nil_append]
  rw [bind_of_some (scanWeekday_eq_some_iff.2 ⟨name, rfl, isName, head_cons (by decide)⟩),
    bind_of_some (char_cons ',' _),
    bind_of_some (blanks_eq_some_iff.2 ⟨gap, rfl, isGap, isDay.head (by decide)⟩),
    bind_of_some (digits_eq_some_iff.2 ⟨_, rfl, isDay, rfl, .inr hbehind⟩)]

theorem exists_of_scanZonedTime
    (h : (do blanks; let time ← scanTime; blanks; scanZone; return (d, time) : Scan (Date × TimeOfDay)) cs =
      some (fields, rest)) :
    ∃ hour minute second, InTurn (timePieces hour minute second) cs ∧
      fields = (d, ⟨digitsValue hour, digitsValue minute, digitsValue second, 0⟩) := by
  obtain ⟨_, _, hgap, h⟩ := bind_eq_some h
  obtain ⟨_, _, htime, h⟩ := bind_eq_some h
  obtain ⟨_, _, hgap', h⟩ := bind_eq_some h
  obtain ⟨_, _, hzone, h⟩ := bind_eq_some h
  cases h
  obtain ⟨gap, rfl, isGap, -⟩ := blanks_eq_some_iff.1 hgap
  obtain ⟨hour, minute, second, clock, rfl, isClock, rfl⟩ := exists_of_scanTime htime
  obtain ⟨gap', rfl, isGap', -⟩ := blanks_eq_some_iff.1 hgap'
  obtain ⟨isZone, rfl⟩ := scanZone_eq_some_iff.1 hzone
  refine ⟨hour, minute, second, ⟨gap, _, rfl, isGap, ?_⟩, rfl⟩
  exact inTurn_append_iff.2 ⟨clock, _, rfl, isClock, gap', _, rfl, isGap', _, [], (List.append_nil _).symm,
    isZone, rfl⟩

theorem head_clock (h : InTurn (clockPieces hour minute second) u) :
    ∀ c, (u ++ rest).head? = some c → isBlank c = false := by
  obtain ⟨_, _, rfl, ⟨rfl, hhour⟩, -⟩ := h
  rw [List.append_assoc]
  exact hhour.head (by decide)

theorem head_zone (h : IsZoneName u) : ∀ c, u.head? = some c → isBlank c = false := fun c hc =>
  isBlank_of_isFoldedLetter (h.letters c (List.mem_of_mem_head? hc))

theorem scanZonedTime_append (h : InTurn (timePieces hour minute second) u) :
    (do blanks; let time ← scanTime; blanks; scanZone; return (d, time) : Scan (Date × TimeOfDay)) u =
      some ((d, ⟨digitsValue hour, digitsValue minute, digitsValue second, 0⟩), []) := by
  obtain ⟨gap, _, rfl, isGap, h⟩ := h
  obtain ⟨clock, _, rfl, isClock, gap', _, rfl, isGap', zone, _, rfl, isZone, rfl⟩ := inTurn_append_iff.1 h
  rw [List.append_nil]
  rw [bind_of_some (blanks_eq_some_iff.2 ⟨gap, rfl, isGap, head_clock isClock⟩),
    bind_of_some (scanTime_append isClock),
    bind_of_some (blanks_eq_some_iff.2 ⟨gap', rfl, isGap', head_zone isZone⟩),
    bind_of_some (scanZone_eq_some_iff.2 ⟨isZone, rfl⟩)]
  rfl

end Forms

open WrittenDate

/-- What is scanned has the form, and its fields are those that are written. -/
theorem exists_of_scanForm {thisYear : Int} {form : DateForm} {cs rest : List Char} {fields : Date × TimeOfDay}
    (h : scanForm thisYear form cs = some (fields, rest)) :
    ∃ w : WrittenDate, w.HasForm form cs ∧ w.fields? thisYear form = some fields := by
  cases form with
  | preferred =>
    obtain ⟨day, first, _, rfl, isDay, h⟩ := exists_of_scanDay h
    obtain ⟨_, _, hgap, h⟩ := bind_eq_some h
    obtain ⟨_, _, hmonth, h⟩ := bind_eq_some h
    obtain ⟨_, _, hgap', h⟩ := bind_eq_some h
    obtain ⟨_, _, hyear, h⟩ := bind_eq_some h
    obtain ⟨hour, minute, second, isTime, rfl⟩ := exists_of_scanZonedTime h
    obtain ⟨gap, rfl, isGap, -⟩ := blanks_eq_some_iff.1 hgap
    obtain ⟨month, rfl, isMonth, named⟩ := exists_of_scanMonth hmonth
    obtain ⟨gap', rfl, isGap', -⟩ := blanks_eq_some_iff.1 hgap'
    obtain ⟨year, rfl, isYear, rfl, -⟩ := digits_eq_some_iff.1 hyear
    refine ⟨⟨day, month, year, hour, minute, second⟩, ?_, by unfold fields?; rw [named]; rfl⟩
    refine inTurn_append_iff.2 ⟨first ++ (gap ++ (month ++ (gap' ++ year))), _, by simp, ?_, isTime⟩
    exact inTurn_append_iff.2 ⟨first, _, rfl, isDay, gap, _, rfl, isGap, _, _, rfl, ⟨rfl, isMonth⟩, gap', _,
      rfl, isGap', _, [], (List.append_nil _).symm, ⟨rfl, isYear⟩, rfl⟩
  | older =>
    obtain ⟨day, first, _, rfl, isDay, h⟩ := exists_of_scanDay h
    obtain ⟨_, _, hhyphen, h⟩ := bind_eq_some h
    obtain ⟨_, _, hmonth, h⟩ := bind_eq_some h
    obtain ⟨_, _, hhyphen', h⟩ := bind_eq_some h
    obtain ⟨_, _, hyear, h⟩ := bind_eq_some h
    obtain ⟨hour, minute, second, isTime, rfl⟩ := exists_of_scanZonedTime h
    obtain rfl := char_eq_some_iff.1 hhyphen
    obtain ⟨month, rfl, isMonth, named⟩ := exists_of_scanMonth hmonth
    obtain rfl := char_eq_some_iff.1 hhyphen'
    obtain ⟨year, rfl, isYear, rfl, -⟩ := digits_eq_some_iff.1 hyear
    refine ⟨⟨day, month, year, hour, minute, second⟩, ?_, by unfold fields?; rw [named]; rfl⟩
    refine inTurn_append_iff.2 ⟨first ++ ('-' :: (month ++ ('-' :: year))), _, by simp, ?_, isTime⟩
    exact inTurn_append_iff.2 ⟨first, _, rfl, isDay, ['-'], _, rfl, rfl, _, _, rfl, ⟨rfl, isMonth⟩, ['-'], _,
      rfl, rfl, _, [], (List.append_nil _).symm, ⟨rfl, isYear⟩, rfl⟩
  | library =>
    unfold scanForm at h
    dsimp only at h
    obtain ⟨_, _, hname, h⟩ := bind_eq_some h
    obtain ⟨_, _, hgap₁, h⟩ := bind_eq_some h
    obtain ⟨_, _, hmonth, h⟩ := bind_eq_some h
    obtain ⟨_, _, hgap₂, h⟩ := bind_eq_some h
    obtain ⟨_, _, hday, h⟩ := bind_eq_some h
    obtain ⟨_, _, hgap₃, h⟩ := bind_eq_some h
    obtain ⟨_, _, htime, h⟩ := bind_eq_some h
    obtain ⟨_, _, hgap₄, h⟩ := bind_eq_some h
    obtain ⟨_, _, hyear, h⟩ := bind_eq_some h
    obtain ⟨_, _, hend, h⟩ := bind_eq_some h
    cases h
    obtain ⟨name, rfl, isName, -⟩ := scanWeekday_eq_some_iff.1 hname
    obtain ⟨gap₁, rfl, isGap₁, -⟩ := blanks_eq_some_iff.1 hgap₁
    obtain ⟨month, rfl, isMonth, named⟩ := exists_of_scanMonth hmonth
    obtain ⟨gap₂, rfl, isGap₂, -⟩ := blanks_eq_some_iff.1 hgap₂
    obtain ⟨day, rfl, isDay, rfl, -⟩ := digits_eq_some_iff.1 hday
    obtain ⟨gap₃, rfl, isGap₃, -⟩ := blanks_eq_some_iff.1 hgap₃
    obtain ⟨hour, minute, second, clock, rfl, isClock, rfl⟩ := exists_of_scanTime htime
    obtain ⟨gap₄, rfl, isGap₄, -⟩ := blanks_eq_some_iff.1 hgap₄
    obtain ⟨year, rfl, isYear, rfl, -⟩ := digits_eq_some_iff.1 hyear
    obtain ⟨rfl, rfl⟩ := atEnd_eq_some_iff.1 hend
    refine ⟨⟨day, month, year, hour, minute, second⟩, ?_, by unfold fields?; rw [named]; rfl⟩
    refine inTurn_append_iff.2 ⟨name ++ (gap₁ ++ (month ++ (gap₂ ++ (day ++ (gap₃ ++ clock))))), gap₄ ++ year,
      by simp, ?_, gap₄, _, rfl, isGap₄, _, [], (List.append_nil _).symm, ⟨rfl, isYear⟩, rfl⟩
    exact ⟨name, _, rfl, isName, gap₁, _, rfl, isGap₁, _, _, rfl, ⟨rfl, isMonth⟩, gap₂, _, rfl, isGap₂, _, _,
      rfl, ⟨rfl, isDay⟩, gap₃, _, rfl, isGap₃, isClock⟩

/-- What has the form is scanned to its end, unless its month has no name. -/
theorem scanForm_of_hasForm {thisYear : Int} {form : DateForm} {w : WrittenDate} {cs : List Char}
    (h : w.HasForm form cs) : scanForm thisYear form cs = (w.fields? thisYear form).map fun f => (f, []) := by
  -- Each piece is taken whole, since the next one begins with a character that does not belong to it.
  unfold fields?
  cases form with
  | preferred =>
    obtain ⟨_, _, rfl, hdate, isTime⟩ := inTurn_append_iff.1 h
    obtain ⟨first, _, rfl, isDay, gap, _, rfl, isGap, _, _, rfl, ⟨rfl, isMonth⟩, gap', _, rfl, isGap', _, _,
      rfl, ⟨rfl, isYear⟩, rfl⟩ := inTurn_append_iff.1 hdate
    simp only [List.append_assoc, List.append_nil]
    unfold scanForm
    dsimp only
    rw [scanDay_append isDay (isGap.head fun _ => isDigit_of_isBlank),
      bind_of_some (blanks_eq_some_iff.2 ⟨gap, rfl, isGap, isMonth.head⟩), scanMonth_bind isMonth]
    cases monthNumber? w.month with
    | none => rfl
    | some n =>
      dsimp only [Option.bind_some]
      rw [bind_of_some (blanks_eq_some_iff.2 ⟨gap', rfl, isGap', isYear.head (by decide)⟩),
        bind_of_some (digits_eq_some_iff.2 ⟨_, rfl, isYear, rfl, .inl isYear.length_eq⟩),
        scanZonedTime_append isTime]
      rfl
  | older =>
    obtain ⟨_, _, rfl, hdate, isTime⟩ := inTurn_append_iff.1 h
    obtain ⟨first, _, rfl, isDay, _, _, rfl, rfl, _, _, rfl, ⟨rfl, isMonth⟩, _, _, rfl, rfl, _, _, rfl,
      ⟨rfl, isYear⟩, rfl⟩ := inTurn_append_iff.1 hdate
    simp only [List.append_assoc, List.cons_append, List.nil_append, List.append_nil]
    unfold scanForm
    dsimp only
    rw [scanDay_append isDay (head_cons (by decide)), bind_of_some (char_cons '-' _), scanMonth_bind isMonth]
    cases monthNumber? w.month with
    | none => rfl
    | some n =>
      dsimp only [Option.bind_some]
      rw [bind_of_some (char_cons '-' _),
        bind_of_some (digits_eq_some_iff.2 ⟨_, rfl, isYear, rfl, .inl isYear.length_eq⟩),
        scanZonedTime_append isTime]
      rfl
  | library =>
    obtain ⟨_, _, rfl, hdate, gap₄, _, rfl, isGap₄, _, _, rfl, ⟨rfl, isYear⟩, rfl⟩ := inTurn_append_iff.1 h
    obtain ⟨name, _, rfl, isName, gap₁, _, rfl, isGap₁, _, _, rfl, ⟨rfl, isMonth⟩, gap₂, _, rfl, isGap₂, _, _,
      rfl, ⟨rfl, isDay⟩, gap₃, _, rfl, isGap₃, isClock⟩ := hdate
    simp only [List.append_assoc]
    unfold scanForm
    dsimp only
    rw [bind_of_some (scanWeekday_eq_some_iff.2
        ⟨name, rfl, isName, isGap₁.head fun _ => isFoldedLetter_of_isBlank⟩),
      bind_of_some (blanks_eq_some_iff.2 ⟨gap₁, rfl, isGap₁, isMonth.head⟩), scanMonth_bind isMonth]
    cases monthNumber? w.month with
    | none => rfl
    | some n =>
      dsimp only [Option.bind_some]
      rw [bind_of_some (blanks_eq_some_iff.2 ⟨gap₂, rfl, isGap₂, isDay.head (by decide)⟩),
        bind_of_some (digits_eq_some_iff.2
          ⟨_, rfl, isDay, rfl, .inr (isGap₃.head fun _ => isDigit_of_isBlank)⟩),
        bind_of_some (blanks_eq_some_iff.2 ⟨gap₃, rfl, isGap₃, head_clock isClock⟩),
        bind_of_some (scanTime_append isClock),
        bind_of_some (blanks_eq_some_iff.2 ⟨gap₄, rfl, isGap₄, isYear.head (by decide)⟩),
        bind_of_some (digits_eq_some_iff.2 ⟨_, rfl, isYear, rfl, .inl isYear.length_eq⟩)]
      rfl

/-- There is no white space around a form: it begins with a name, and ends with a name or a number. -/
theorem WrittenDate.HasForm.trim_eq {w : WrittenDate} {form : DateForm} {cs : List Char}
    (h : w.HasForm form cs) : trim cs = cs := by
  obtain ⟨name, behind, hcs, isName⟩ : ∃ name behind, cs = name ++ behind ∧ IsDayName name := by
    cases form with
    | preferred | older | library =>
      obtain ⟨name, behind, hcs, isName, -⟩ := h
      exact ⟨name, behind, hcs, isName⟩
  refine trim_of_ends (hcs ▸ isName.head) ?_
  cases form with
  | preferred | older =>
    obtain ⟨date, _, rfl, -, isTime⟩ := inTurn_append_iff.1 h
    obtain ⟨clock, _, rfl, -, gap, _, rfl, -, zone, _, rfl, isZone, rfl⟩ := inTurn_append_iff.1 isTime
    rw [List.append_nil, ← List.append_assoc, ← List.append_assoc]
    exact isZone.last
  | library =>
    obtain ⟨date, _, rfl, -, gap, _, rfl, -, _, _, rfl, ⟨rfl, isYear⟩, rfl⟩ := inTurn_append_iff.1 h
    rw [List.append_nil, ← List.append_assoc]
    exact last_append (isYear.ne_nil (by decide)) isYear.2 fun _ => isBlank_of_isDigit

/-! ## No text has two forms -/

/-- The only form that a text can have. A comma behind the name of the day stands in all forms but that of the
C library, and a hyphen behind the number only in the older one. -/
def formOf (cs : List Char) : DateForm :=
  let rest := cs.dropWhile isFoldedLetter
  if rest.head? = some ',' then
    if ((trimLeft rest.tail).dropWhile isDigit).head? = some '-' then .older else .preferred
  else .library

theorem formOf_day {day u behind : List Char} (h : InTurn (dayPieces day) u)
    (hbehind : ∀ c, behind.head? = some c → isDigit c = false) :
    formOf (u ++ behind) = if behind.head? = some '-' then .older else .preferred := by
  obtain ⟨name, _, rfl, isName, _, _, rfl, rfl, gap, _, rfl, isGap, ds, _, rfl, ⟨rfl, isDay⟩, rfl⟩ := h
  have afterName : (name ++ ',' :: (gap ++ (ds ++ behind))).dropWhile isFoldedLetter =
      ',' :: (gap ++ (ds ++ behind)) := dropWhile_append_of_head? isName.letters (head_cons (by decide))
  have afterGap : trimLeft (gap ++ (ds ++ behind)) = ds ++ behind :=
    dropWhile_append_of_head? isGap.2 (isDay.head (by decide))
  have afterDay := dropWhile_append_of_head? isDay.2 hbehind
  simp only [formOf, List.append_assoc, List.cons_append, List.nil_append, List.append_nil, afterName,
    List.head?_cons, if_true, List.tail_cons, afterGap, afterDay]

theorem WrittenDate.HasForm.formOf_eq {w : WrittenDate} {form : DateForm} {cs : List Char}
    (h : w.HasForm form cs) : formOf cs = form := by
  cases form with
  | preferred =>
    obtain ⟨_, time, rfl, hdate, -⟩ := inTurn_append_iff.1 h
    obtain ⟨first, _, rfl, isDay, gap, more, rfl, isGap, -⟩ := inTurn_append_iff.1 hdate
    rw [List.append_assoc, List.append_assoc, formOf_day isDay (isGap.head fun _ => isDigit_of_isBlank),
      if_neg (isGap.head?_ne (by decide))]
  | older =>
    obtain ⟨_, time, rfl, hdate, -⟩ := inTurn_append_iff.1 h
    obtain ⟨first, _, rfl, isDay, _, more, rfl, rfl, -⟩ := inTurn_append_iff.1 hdate
    rw [List.append_assoc, List.append_assoc, List.cons_append, formOf_day isDay (head_cons (by decide))]
    rfl
  | library =>
    obtain ⟨name, _, rfl, isName, gap, more, rfl, isGap, -⟩ := h
    have afterName : (name ++ (gap ++ more)).dropWhile isFoldedLetter = gap ++ more :=
      dropWhile_append_of_head? isName.letters (isGap.head fun _ => isFoldedLetter_of_isBlank)
    have noComma : (gap ++ more).head? ≠ some ',' := isGap.head?_ne (by decide)
    unfold formOf
    simp only [afterName, if_neg noComma]

/-- No text has two forms, whatever the fields are. -/
theorem WrittenDate.HasForm.unique {w w' : WrittenDate} {form form' : DateForm} {cs : List Char}
    (h : w.HasForm form cs) (h' : w'.HasForm form' cs) : form = form' :=
  h.formOf_eq.symm.trans h'.formOf_eq

/-! ## Reading -/

section Reading

variable {thisYear : Int} {form : DateForm} {w : WrittenDate} {cs : List Char} {ms : Int}
  {forms forms' : List DateForm} {text : String}

theorem readForm_of_hasForm (h : w.HasForm form cs) : readForm thisYear form cs = w.millis? thisYear form := by
  unfold readForm millis?
  rw [scanForm_of_hasForm h]
  cases w.fields? thisYear form with
  | none => rfl
  | some fields => cases hmoment : DateTime.ofFields? fields.1 fields.2 (some 0) <;> simp [hmoment]

theorem readForm_eq_some_iff : readForm thisYear form cs = some ms ↔
    ∃ w : WrittenDate, w.HasForm form cs ∧ w.millis? thisYear form = some ms := by
  constructor
  · intro h
    obtain ⟨⟨fields, rest⟩, hscan, -⟩ := Option.bind_eq_some_iff.1 h
    obtain ⟨w, hw, -⟩ := exists_of_scanForm hscan
    exact ⟨w, hw, readForm_of_hasForm hw ▸ h⟩
  · rintro ⟨w, hw, hms⟩
    rw [readForm_of_hasForm hw, hms]

/-- What a text is read as is written in one of the forms. The form is the only one that the text has, and so
the forms that are tried before it do not matter. -/
theorem read_eq_ok_iff : read thisYear forms text = .ok ms ↔
    ∃ form ∈ forms, ∃ w : WrittenDate, w.HasForm form (trim text.toList) ∧
      w.millis? thisYear form = some ms := by
  constructor
  · intro h
    unfold read at h
    split at h
    · next found =>
      obtain ⟨form, hform, hread⟩ := List.exists_of_findSome?_eq_some found
      cases h
      exact ⟨form, hform, readForm_eq_some_iff.1 hread⟩
    · cases h
  · rintro ⟨form, hform, w, hw, hms⟩
    unfold read
    split
    · next found =>
      obtain ⟨form', -, hread⟩ := List.exists_of_findSome?_eq_some found
      -- The form that was found first is the only one that the text has.
      obtain ⟨w', hw', hms'⟩ := readForm_eq_some_iff.1 hread
      obtain rfl := hw.unique hw'
      rw [← readForm_of_hasForm hw', readForm_of_hasForm hw, hms] at hms'
      cases hms'
      rfl
    · next none =>
      have hread := List.findSome?_eq_none_iff.1 none form hform
      rw [readForm_of_hasForm hw, hms] at hread
      cases hread

/-- A text that has a form is read in this one alone. -/
theorem read_of_hasForm (h : w.HasForm form text.toList) (hform : form ∈ forms) :
    read thisYear forms text = .ok ms ↔ w.millis? thisYear form = some ms := by
  rw [read_eq_ok_iff, h.trim_eq]
  constructor
  · rintro ⟨form', -, w', hw', hms⟩
    obtain rfl := h.unique hw'
    rw [← readForm_of_hasForm h, readForm_of_hasForm hw', hms]
  · intro hms
    exact ⟨form, hform, w, h, hms⟩

/-- Where no date is found, the fault names the text. -/
theorem read_eq_error {fault : Fault} (h : read thisYear forms text = .error fault) :
    fault = .invalidDate text := by
  unfold read at h
  split at h
  · cases h
  · cases h
    rfl

/-- It does not matter in which order the forms are tried, nor how often: every text is read as the same time or
refused as no date. No text has two forms, and so what comes of the one that it has, be it no month or a field
out of range, leaves nothing to the forms that are tried afterwards. -/
theorem read_of_same_forms (thisYear : Int) (text : String) (h : ∀ form, form ∈ forms ↔ form ∈ forms') :
    ((∃ ms, read thisYear forms text = .ok ms ∧ read thisYear forms' text = .ok ms) ∨
      ∃ fault, fault.kind = .format ∧ read thisYear forms text = .error fault ∧
        read thisYear forms' text = .error fault) ∧
    (∀ cs (w w' : WrittenDate) form form', w.HasForm form cs → w'.HasForm form' cs → form = form') ∧
    ∀ ms, read thisYear forms text = .ok ms ↔
      ∃ form ∈ forms, ∃ w : WrittenDate, w.HasForm form (trim text.toList) ∧
        w.millis? thisYear form = some ms := by
  have same (ms : Int) : read thisYear forms text = .ok ms ↔ read thisYear forms' text = .ok ms := by
    simp only [read_eq_ok_iff, h]
  refine ⟨?_, fun _ _ _ _ _ => HasForm.unique, fun _ => read_eq_ok_iff⟩
  cases hread : read thisYear forms text with
  | ok ms => exact .inl ⟨ms, rfl, (same ms).1 hread⟩
  | error fault =>
    refine .inr ⟨fault, by rw [read_eq_error hread]; rfl, rfl, ?_⟩
    cases hread' : read thisYear forms' text with
    | ok ms =>
      rw [(same ms).2 hread'] at hread
      cases hread
    | error fault' => rw [read_eq_error hread, read_eq_error hread']

/-- A date in the older form, which is tried last and first. -/
theorem read_of_same_forms_of_older :
    (∀ form, form ∈ [DateForm.library, .older] ↔ form ∈ [DateForm.older, .library, .older]) ∧
    read 2024 [.older, .library, .older] "Sunday, 06-Nov-94 08:49:37 GMT" = .ok 784111777000 := by
  have listed : ∀ form, form ∈ [DateForm.library, .older] ↔ form ∈ [DateForm.older, .library, .older] := by
    intro form
    cases form <;> decide
  refine ⟨listed, ?_⟩
  have first : read 2024 [.library, .older] "Sunday, 06-Nov-94 08:49:37 GMT" = .ok 784111777000 := rfl
  rcases (read_of_same_forms 2024 "Sunday, 06-Nov-94 08:49:37 GMT" listed).1 with
    ⟨ms, hread, hread'⟩ | ⟨fault, -, hread, -⟩
  · rw [hread] at first
    rw [hread', first]
  · rw [hread] at first
    cases first

end Reading

end HttpExchange.HttpDate
