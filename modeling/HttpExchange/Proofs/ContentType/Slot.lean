import HttpExchange.ContentType
import HttpExchange.Proofs.MediaType

/-!
# Where a charset is written

A charset is written between two parts of a content type that stay as they are: what stands before the
value of its first charset parameter and what stands behind it. What stands before it does not depend on
the value, so that a second charset is written to the place of the first one.

## Main statements

* `ContentType.toList_withCharset`: a content type with a charset written into it.
* `ContentType.slotOf_withCharset`: where the next charset is written.
-/

namespace HttpExchange.ContentType

open Text MediaType

/-! ## What introduces a value -/

/-- The name of a charset parameter, in any case, and white space behind it. -/
def IsKey (u : List Char) : Prop :=
  ∃ name gap, u = name ++ gap ∧ name.map foldCase = charsetName ∧ ∀ c ∈ gap, isBlank c = true

/-- The name of a charset parameter and the equals sign with white space around it. -/
def IsIntro (u : List Char) : Prop :=
  ∃ key gap, u = key ++ '=' :: gap ∧ IsKey key ∧ ∀ c ∈ gap, isBlank c = true

theorem IsKey.not_mem {u : List Char} {d : Char} (h : IsKey u) (hblank : isBlank d = false)
    (hletter : foldCase d ∉ charsetName) : d ∉ u := by
  obtain ⟨name, gap, rfl, hname, hgap⟩ := h
  intro hd
  rcases List.mem_append.1 hd with hd | hd
  · exact hletter (hname ▸ List.mem_map_of_mem hd)
  · exact not_mem_blanks hgap hblank hd

/-- More white space may stand behind the equals sign. -/
theorem IsIntro.append {u more : List Char} (h : IsIntro u) (hmore : ∀ c ∈ more, isBlank c = true) :
    IsIntro (u ++ more) := by
  obtain ⟨key, gap, rfl, hkey, hgap⟩ := h
  refine ⟨key, gap ++ more, by simp, hkey, fun c hc => ?_⟩
  rcases List.mem_append.1 hc with hc | hc
  · exact hgap c hc
  · exact hmore c hc

theorem IsIntro.ne_nil {u : List Char} (h : IsIntro u) : u ≠ [] := by
  obtain ⟨key, gap, rfl, -, -⟩ := h
  simp

theorem charsetIntro?_append {u v : List Char} (hu : IsIntro u)
    (hv : ∀ c, v.head? = some c → isBlank c = false) : charsetIntro? (u ++ v) = some u.length := by
  obtain ⟨key, gap, rfl, ⟨name, gap', rfl, hname, hgap'⟩, hgap⟩ := hu
  have word : dropWord? charsetName ((name ++ gap' ++ '=' :: gap) ++ v) =
      some (gap' ++ ('=' :: (gap ++ v))) :=
    dropWord?_eq_some_iff.2 ⟨name, by simp, hname⟩
  have sign : trimLeft (gap' ++ ('=' :: (gap ++ v))) = '=' :: (gap ++ v) :=
    dropWhile_append_of_head? hgap' fun c hc => by cases hc; rfl
  have value : trimLeft (gap ++ v) = v := dropWhile_append_of_head? hgap hv
  unfold charsetIntro?
  simp only [word, sign, value, List.length_append, Option.some.injEq]
  omega

theorem exists_of_charsetIntro? {cs : List Char} {n : Nat} (h : charsetIntro? cs = some n) :
    ∃ u v, cs = u ++ v ∧ u.length = n ∧ IsIntro u ∧ ∀ c, v.head? = some c → isBlank c = false := by
  unfold charsetIntro? at h
  cases hword : dropWord? charsetName cs with
  | none => rw [hword] at h; cases h
  | some rest =>
    obtain ⟨name, rfl, hname⟩ := dropWord?_eq_some_iff.1 hword
    rw [hword] at h
    obtain ⟨gap', hrest, hgap'⟩ := exists_eq_append_trimLeft rest
    simp only at h
    split at h
    · next value hsign =>
      obtain ⟨gap, hvalue, hgap⟩ := exists_eq_append_trimLeft value
      have whole : name ++ rest = (name ++ gap' ++ '=' :: gap) ++ trimLeft value := by
        rw [hrest, hsign]
        simp [← hvalue]
      refine ⟨_, _, whole, ?_, ⟨_, gap, rfl, ⟨name, gap', rfl, hname, hgap'⟩, hgap⟩, head?_trimLeft value⟩
      rw [whole, List.length_append, Option.some.injEq] at h
      omega
    · cases h

/-- Whether a value is introduced is told by what stands before the first equals sign. -/
theorem isSome_charsetIntro?_iff (cs : List Char) :
    (charsetIntro? cs).isSome ↔ ∃ key rest, cs = key ++ '=' :: rest ∧ IsKey key := by
  constructor
  · intro h
    obtain ⟨n, hn⟩ := Option.isSome_iff_exists.1 h
    obtain ⟨u, v, rfl, -, ⟨key, gap, rfl, hkey, -⟩, -⟩ := exists_of_charsetIntro? hn
    exact ⟨key, gap ++ v, by simp, hkey⟩
  · rintro ⟨key, rest, rfl, hkey⟩
    obtain ⟨gap, hrest, hgap⟩ := exists_eq_append_trimLeft rest
    have intro_key : IsIntro (key ++ '=' :: gap) := ⟨key, gap, rfl, hkey, hgap⟩
    have found := charsetIntro?_append intro_key (head?_trimLeft rest)
    have whole : (key ++ '=' :: gap) ++ trimLeft rest = key ++ '=' :: rest := by
      rw [List.append_assoc, List.cons_append, ← hrest]
    rw [whole] at found
    rw [found]
    rfl

/-- What stands behind a character that is neither white space nor belongs to the name does not matter. -/
theorem isSome_charsetIntro?_append (u t : List Char) {d : Char} (hblank : isBlank d = false)
    (hletter : foldCase d ∉ charsetName) :
    (charsetIntro? (u ++ d :: t)).isSome ↔ (charsetIntro? u).isSome ∨ (d = '=' ∧ IsKey u) := by
  rw [isSome_charsetIntro?_iff, isSome_charsetIntro?_iff]
  constructor
  · rintro ⟨key, rest, heq, hkey⟩
    rcases List.append_eq_append_iff.1 heq with ⟨mid, rfl, hd⟩ | ⟨mid, rfl, hd⟩
    · cases mid with
      | nil => exact .inr ⟨(List.cons.inj hd).1, by rwa [List.append_nil] at hkey⟩
      | cons e mid =>
        obtain ⟨rfl, -⟩ := List.cons.inj hd
        exact absurd (List.mem_append_right _ List.mem_cons_self) (hkey.not_mem hblank hletter)
    · cases mid with
      | nil => exact .inr ⟨(List.cons.inj hd).1.symm, by rwa [List.append_nil]⟩
      | cons e mid =>
        obtain ⟨rfl, -⟩ := List.cons.inj hd
        exact .inl ⟨key, mid, rfl, hkey⟩
  · rintro (⟨key, rest, rfl, hkey⟩ | ⟨rfl, hkey⟩)
    · exact ⟨key, rest ++ d :: t, by simp, hkey⟩
    · exact ⟨u, t, rfl, hkey⟩

/-! ## Slots -/

/-- A place for a value: what stands before it and what stands behind it. -/
structure Slot where
  before : List Char
  after : List Char

/-- The text with a value in its place. -/
def Slot.fill (s : Slot) (value : List Char) : List Char := s.before ++ value ++ s.after

/-- The place of the value of the first charset parameter of a text, if it has one; `atStart` tells whether
a parameter may begin here. -/
def slot? (atStart : Bool) : List Char → Option Slot
  | [] => none
  | c :: rest =>
    match if atStart then charsetIntro? (c :: rest) else none with
    | some n => some ⟨(c :: rest).take n, dropParameterValue ((c :: rest).drop n)⟩
    | none => (slot? (endsName c) rest).map fun s => ⟨c :: s.before, s.after⟩

theorem replaceCharset?_eq (charset : List Char) (atStart : Bool) (cs : List Char) :
    replaceCharset? charset atStart cs = (slot? atStart cs).map fun s => s.fill charset := by
  induction cs generalizing atStart with
  | nil => rfl
  | cons c rest ih =>
    unfold replaceCharset? slot?
    cases (if atStart then charsetIntro? (c :: rest) else none) with
    | some n => rfl
    | none =>
      simp only [ih, Option.map_map]
      rfl

/-- What stands before a charset that is added at the end. -/
def added (cs : List Char) : List Char := cs ++ ';' :: charsetKey

theorem split_added (cs : List Char) : split ';' (added cs) = split ';' cs ++ [charsetKey] := by
  obtain ⟨front, last, hcs⟩ := exists_split_eq_append ';' cs
  have key : split ';' (';' :: charsetKey) = [] :: [charsetKey] := by decide +kernel
  rw [added, split_append hcs key, hcs]
  simp

/-- The place of the charset in a content type: that of its first charset parameter, or one at the end. -/
def slotOf (ct : String) : Slot := (slot? true ct.toList).getD ⟨added ct.toList, []⟩

/-- The content type with a charset is the charset in its place. -/
theorem toList_withCharset (ct : String) {charset : String} (h : charset ≠ "") :
    (withCharset ct (some charset)).toList = (slotOf ct).fill charset.toList := by
  unfold withCharset slotOf
  simp only [if_neg h, replaceCharset?_eq]
  cases slot? true ct.toList with
  | none => simp [added, Slot.fill, charsetKey]
  | some s => simp

/-! ## Slots of texts in which the value changes -/

/-- Where a value is introduced, it is replaced there. -/
theorem slot?_of_intro {u v : List Char} (hu : IsIntro u)
    (hv : ∀ c, v.head? = some c → isBlank c = false) :
    slot? true (u ++ v) = some ⟨u, dropParameterValue v⟩ := by
  have found := charsetIntro?_append hu hv
  cases u with
  | nil => exact absurd rfl hu.ne_nil
  | cons c u =>
    rw [List.cons_append] at found ⊢
    simp [slot?, found]

/-- Where none is introduced, it is looked for behind the first character. -/
theorem slot?_cons {atStart : Bool} {c : Char} {rest : List Char}
    (h : atStart = true → charsetIntro? (c :: rest) = none) :
    slot? atStart (c :: rest) = (slot? (endsName c) rest).map fun s => ⟨c :: s.before, s.after⟩ := by
  cases atStart with
  | false => simp [slot?]
  | true => simp [slot?, h rfl]

/-- The text has a value that begins behind the first part of the place and ends before the second one. -/
def Slot.IsIn (s : Slot) (cs : List Char) : Prop :=
  ∃ v, cs = s.before ++ v ∧ s.after = dropParameterValue v ∧ ∀ c, v.head? = some c → isBlank c = false

/-- These are the two ways in which a value is found. -/
theorem slot?_cases {atStart : Bool} {cs : List Char} {s : Slot} (h : slot? atStart cs = some s) :
    (atStart = true ∧ s.IsIn cs ∧ IsIntro s.before) ∨
      ∃ c rest s', cs = c :: rest ∧ (atStart = true → charsetIntro? (c :: rest) = none) ∧
        slot? (endsName c) rest = some s' ∧ s = ⟨c :: s'.before, s'.after⟩ := by
  cases cs with
  | nil => cases h
  | cons c rest =>
    cases hn : (if atStart then charsetIntro? (c :: rest) else none) with
    | some n =>
      simp only [slot?, hn, Option.some.injEq] at h
      obtain ⟨rfl, found⟩ : atStart = true ∧ charsetIntro? (c :: rest) = some n := by
        cases atStart with
        | false => cases hn
        | true => exact ⟨rfl, hn⟩
      obtain ⟨u, v, hcs, rfl, hu, hv⟩ := exists_of_charsetIntro? found
      rw [hcs, List.take_left, List.drop_left] at h
      rw [← h, hcs]
      exact .inl ⟨rfl, ⟨v, rfl, rfl, hv⟩, hu⟩
    | none =>
      simp only [slot?, hn] at h
      obtain ⟨s', hs', rfl⟩ := Option.map_eq_some_iff.1 h
      refine .inr ⟨c, rest, s', rfl, fun hstart => ?_, hs', rfl⟩
      rw [if_pos hstart] at hn
      exact hn

theorem before_of_slot? {atStart : Bool} {cs : List Char} {s : Slot} (h : slot? atStart cs = some s) :
    s.IsIn cs ∧ ∃ u v, s.before = u ++ v ∧ IsIntro v := by
  induction cs generalizing atStart s with
  | nil => cases h
  | cons c rest ih =>
    rcases slot?_cases h with ⟨-, hin, hintro⟩ | ⟨c, rest, s', hcs, -, hs', rfl⟩
    · exact ⟨hin, [], s.before, rfl, hintro⟩
    · obtain ⟨rfl, rfl⟩ := List.cons.inj hcs
      obtain ⟨⟨v, hrest, hafter⟩, u, w, hbefore, hw⟩ := ih hs'
      exact ⟨⟨v, by rw [hrest]; rfl, hafter⟩, _ :: u, w, by rw [hbefore]; rfl, hw⟩

/-- Another value is found in the same place, behind the white space that it begins with. -/
theorem slot?_before {atStart : Bool} {cs gap t : List Char} {s : Slot} (h : slot? atStart cs = some s)
    (hgap : ∀ c ∈ gap, isBlank c = true) (ht : ∀ c, t.head? = some c → isBlank c = false) :
    slot? atStart (s.before ++ (gap ++ t)) = some ⟨s.before ++ gap, dropParameterValue t⟩ := by
  induction cs generalizing atStart s with
  | nil => cases h
  | cons c rest ih =>
    rcases slot?_cases h with ⟨rfl, -, hintro⟩ | ⟨c, rest, s', hcs, hnone, hs', rfl⟩
    · rw [← List.append_assoc]
      exact slot?_of_intro (hintro.append hgap) ht
    · obtain ⟨rfl, rfl⟩ := List.cons.inj hcs
      -- The equals sign before the value decides that no value is introduced further in front.
      obtain ⟨⟨v, hrest, -⟩, u, w, hbefore, key, sign, rfl, -, -⟩ := before_of_slot? hs'
      have same (x : List Char) : (charsetIntro? (c :: (s'.before ++ x))).isSome ↔
          (charsetIntro? (c :: (u ++ key))).isSome ∨ IsKey (c :: (u ++ key)) := by
        have apart : c :: (s'.before ++ x) = (c :: (u ++ key)) ++ '=' :: (sign ++ x) := by
          simp [hbefore]
        rw [apart, isSome_charsetIntro?_append _ _ rfl (by decide)]
        simp
      have still : atStart = true → charsetIntro? (c :: (s'.before ++ (gap ++ t))) = none := by
        intro hstart
        rw [← Option.not_isSome_iff_eq_none, same (gap ++ t), ← same v, ← hrest, hnone hstart]
        simp
      show slot? atStart (c :: (s'.before ++ (gap ++ t))) = _
      rw [slot?_cons still, ih hs']
      rfl

theorem slot?_added {atStart : Bool} {cs gap t : List Char} (h : slot? atStart cs = none)
    (hgap : ∀ c ∈ gap, isBlank c = true) (ht : ∀ c, t.head? = some c → isBlank c = false) :
    slot? atStart (added cs ++ (gap ++ t)) = some ⟨added cs ++ gap, dropParameterValue t⟩ := by
  induction cs generalizing atStart with
  | nil =>
    have key : IsIntro charsetKey := ⟨charsetName, [], rfl, ⟨charsetName, [], rfl, rfl, by simp⟩, by simp⟩
    have none_here : atStart = true → charsetIntro? (';' :: (charsetKey ++ (gap ++ t))) = none := fun _ => rfl
    show slot? atStart (';' :: (charsetKey ++ (gap ++ t))) = _
    rw [slot?_cons none_here]
    have start : endsName ';' = true := by decide +kernel
    rw [start, ← List.append_assoc, slot?_of_intro (key.append hgap) ht]
    rfl
  | cons c rest ih =>
    have hnone : atStart = true → charsetIntro? (c :: rest) = none := by
      intro hstart
      subst hstart
      cases hn : charsetIntro? (c :: rest) with
      | none => rfl
      | some n => simp [slot?, hn] at h
    rw [slot?_cons hnone, Option.map_eq_none_iff] at h
    have still : atStart = true → charsetIntro? (c :: (added rest ++ (gap ++ t))) = none := by
      intro hstart
      have apart : c :: (added rest ++ (gap ++ t)) = (c :: rest) ++ ';' :: (charsetKey ++ (gap ++ t)) := by
        simp [added]
      rw [← Option.not_isSome_iff_eq_none, apart, isSome_charsetIntro?_append _ _ rfl (by decide),
        hnone hstart]
      simp
    show slot? atStart (c :: (added rest ++ (gap ++ t))) = _
    rw [slot?_cons still, ih h]
    rfl

/-- Another value is found in the place of the charset, behind the white space that it begins with. -/
theorem slotOf_before (ct : String) {gap t : List Char} (hgap : ∀ c ∈ gap, isBlank c = true)
    (ht : ∀ c, t.head? = some c → isBlank c = false) :
    slotOf (String.ofList ((slotOf ct).before ++ (gap ++ t))) =
      ⟨(slotOf ct).before ++ gap, dropParameterValue t⟩ := by
  unfold slotOf
  cases h : slot? true ct.toList with
  | none =>
    rw [Option.getD_none, String.toList_ofList, slot?_added h hgap ht]
    rfl
  | some s =>
    rw [Option.getD_some, String.toList_ofList, slot?_before h hgap ht]
    rfl

/-! ## Tokens as values -/

/-- Does a value that is no quoted string end where it is followed by the rest? -/
def Slot.IsClosed (s : Slot) : Prop := ∀ c, s.after.head? = some c → c = ';' ∨ isBlank c = true

theorem dropParameterValue_token {e rest : List Char} (he : isToken e = true)
    (hrest : ∀ c, rest.head? = some c → c = ';' ∨ isBlank c = true) :
    dropParameterValue (e ++ rest) = rest := by
  have unquoted : (e ++ rest).dropWhile (fun c => !(c = ';' || isBlank c)) = rest := by
    refine dropWhile_append_of_head? (fun c hc => ?_) fun c hc => ?_
    · have hchar := (isToken_iff.1 he).2 c hc
      simp [(ne_of_isTokenChar hchar).2.1, isBlank_of_isTokenChar hchar]
    · rcases hrest c hc with h | h <;> simp [h]
  have first := head?_token he rest
  unfold dropParameterValue
  cases hcs : e ++ rest with
  | nil => exact (List.append_eq_nil_iff.1 hcs).2.symm
  | cons c cs =>
    have hchar : isTokenChar c = true := first c (by rw [hcs]; rfl)
    simp only [if_neg (ne_of_isTokenChar hchar).2.2]
    rw [← hcs, unquoted]

theorem ne_empty_of_isToken {e : String} (h : isToken e.toList = true) : e ≠ "" := by
  rintro rfl
  cases h

/-- A token that is written into a content type stands in its place. -/
theorem withCharset_token (ct : String) {e : String} (he : isToken e.toList = true) :
    withCharset ct (some e) = String.ofList ((slotOf ct).fill e.toList) := by
  rw [← toList_withCharset ct (ne_empty_of_isToken he), String.ofList_toList]

theorem slotOf_withCharset {ct e : String} (he : isToken e.toList = true)
    (hct : (slotOf ct).IsClosed) : slotOf (withCharset ct (some e)) = slotOf ct := by
  have first : ∀ c, (e.toList ++ (slotOf ct).after).head? = some c → isBlank c = false := fun c hc =>
    isBlank_of_isTokenChar (head?_token he _ c hc)
  have found := slotOf_before ct (List.forall_mem_nil _) first
  rw [List.nil_append, List.append_nil, dropParameterValue_token he hct] at found
  rw [withCharset_token ct he, Slot.fill, List.append_assoc]
  exact found

/-- A second token takes the place of the first one. -/
theorem withCharset_withCharset {ct e e' : String} (he : isToken e.toList = true)
    (he' : isToken e'.toList = true) (hct : (slotOf ct).IsClosed) :
    withCharset (withCharset ct (some e)) (some e') = withCharset ct (some e') := by
  rw [withCharset_token _ he', withCharset_token _ he', slotOf_withCharset he hct]

end HttpExchange.ContentType
