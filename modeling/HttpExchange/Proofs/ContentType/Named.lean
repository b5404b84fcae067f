import HttpExchange.Proofs.ContentType.Reading

/-!
# Charset parameters that stay

A charset is written to the first place of a content type that looks like the value of a charset parameter,
and this place need not be one: it may lie inside of the value of another parameter. If it is one, it stays
one whatever is written there, and the content type has a charset parameter from then on, even if it is no
well-formed media type any more.

## Main statements

* `ContentType.isSome_charset?_withCharset`: what is written to the place of a charset parameter leaves one.
* `ContentType.namesCharset_withCharset`: the next charset is written to a charset parameter again.
* `ContentType.namesCharset_of_slot?_eq_none`: a charset that is added at the end is a charset parameter.
-/

namespace HttpExchange

namespace MediaType

open Text

/-- The name of a parameter is what stands in front of the first equals sign. -/
theorem name_of_start {name found v : String} {start rest : List Char} (h : IsParameterStart name start)
    (hp : parameter? (trim (start ++ rest)) = some (found, v)) : found = name := by
  obtain ⟨u, gap, rfl, hu, htoken, rfl, -⟩ := isParameterStart_iff.1 h
  rw [List.append_assoc, List.cons_append, parameter?_trim hu, if_pos htoken] at hp
  obtain ⟨val, -, heq⟩ := Option.map_eq_some_iff.1 hp
  exact (Prod.mk.inj heq).1.symm

theorem isParameterStart_append {name : String} {start more : List Char} (h : IsParameterStart name start)
    (hmore : ∀ c ∈ more, isBlank c = true) : IsParameterStart name (start ++ more) := by
  obtain ⟨lead, word, gap, gap', rfl, hword, hname, hlead, hgap, hgap'⟩ := h
  refine ⟨lead, word, gap, gap' ++ more, by simp, hword, hname, hlead, hgap, fun c hc => ?_⟩
  rcases List.mem_append.1 hc with hc | hc
  · exact hgap' c hc
  · exact hmore c hc

/-- A piece that begins like a parameter is either this parameter or none at all. -/
theorem isSome_valueIn?_of_start {name : String} {start rest : List Char} (h : IsParameterStart name start)
    (hpiece : IsPiece (start ++ rest)) : (valueIn? name (start ++ rest)).isSome := by
  have sign : '=' ∈ start ++ rest := by
    obtain ⟨lead, word, gap, gap', rfl, -⟩ := h
    simp
  obtain ⟨found, v, hp⟩ := hpiece.exists_parameter? sign
  obtain rfl : found = name := name_of_start h hp
  unfold valueIn?
  rw [hp]
  simp

end MediaType

namespace ContentType

open Text MediaType

/-- The value in the place is that of a charset parameter, and the charset key stands in front of it. -/
structure Slot.IsNamed (s : Slot) : Prop where
  start : ∃ front start, split ';' s.before = front ++ [start] ∧ IsParameterStart "charset" start
  key : (indexOf? charsetKey (lower s.before)).isSome

/-- Does a content type have its charset, or the one that is added to it, as a charset parameter? -/
def NamesCharset (ct : String) : Prop := (slotOf ct).IsNamed

variable {s : Slot}

theorem exists_intro_slotOf (ct : String) : ∃ u v, (slotOf ct).before = u ++ v ∧ IsIntro v := by
  unfold slotOf
  cases h : slot? true ct.toList with
  | none =>
    have key : IsIntro charsetKey := ⟨charsetName, [], rfl, ⟨charsetName, [], rfl, rfl, by simp⟩, by simp⟩
    exact ⟨ct.toList ++ [';'], charsetKey, by simp [added], key⟩
  | some s => exact (before_of_slot? h).2

theorem Slot.IsNamed.lenient (h : s.IsNamed) (hs : s.FollowsSign) (more : List Char) :
    (indexOf? charsetKey (lower (s.before ++ more))).isSome := by
  obtain ⟨i, hi⟩ := Option.isSome_iff_exists.1 h.key
  obtain ⟨u, gap, hu, hgap⟩ := hs
  obtain ⟨w, hw⟩ := lower_append (u := u) hgap more
  rw [hu, hw, ← hu, indexOf?_append hi w]
  rfl

/-- Whatever stands in the place, there is a charset parameter. -/
theorem Slot.IsNamed.isSome_charset? (h : s.IsNamed) (hs : s.FollowsSign) (value : List Char) :
    (charset? (String.ofList (s.fill value))).isSome := by
  by_cases hwell : IsWellFormed (s.fill value)
  · obtain ⟨head, pieces, hsplit, htypes, hpieces⟩ := hwell
    obtain ⟨front, start, hbefore, hstart⟩ := h.start
    obtain ⟨first, back, hbehind⟩ := exists_split_eq_cons ';' (value ++ s.after)
    have whole : split ';' (s.fill value) = front ++ (start ++ first) :: back := by
      rw [Slot.fill, List.append_assoc]
      exact split_append hbefore hbehind
    rw [hsplit] at whole
    cases front with
    | nil =>
      -- The first piece would be the types, but there is an equals sign in it.
      obtain ⟨u, gap, rfl, -⟩ := hs.of_split hbefore
      obtain ⟨rfl, -⟩ := List.cons.inj whole
      exact absurd (by simp) (equals_not_mem_of_types? htypes)
    | cons head' front =>
      rw [List.cons_append] at whole
      obtain ⟨rfl, rfl⟩ := List.cons.inj whole
      have own : (valueIn? "charset" (start ++ first)).isSome :=
        isSome_valueIn?_of_start hstart (hpieces _ (List.mem_append_right _ List.mem_cons_self))
      rw [charset?_of_pieces (by rw [String.toList_ofList]; exact hsplit) htypes hpieces, lastValue?_append,
        lastValue?_cons]
      simp [own]
  · have found := h.lenient hs (value ++ s.after)
    rw [charset?_of_malformed (by rwa [String.toList_ofList]), lenientCharset?, String.toList_ofList, Slot.fill,
      List.append_assoc, Option.isSome_map]
    exact found

theorem isSome_charset?_withCharset {ct e : String} (h : NamesCharset ct) (he : e ≠ "") :
    (charset? (withCharset ct (some e))).isSome := by
  have read := h.isSome_charset? (followsSign_slotOf ct) e.toList
  rwa [← toList_withCharset ct he, String.ofList_toList] at read

/-- White space that is written there belongs to the equals sign in front of it. -/
theorem Slot.IsNamed.append (h : s.IsNamed) (hs : s.FollowsSign) {gap : List Char}
    (hgap : ∀ c ∈ gap, isBlank c = true) (after : List Char) : (Slot.mk (s.before ++ gap) after).IsNamed := by
  obtain ⟨front, start, hbefore, hstart⟩ := h.start
  have single : split ';' gap = gap :: [] := split_of_not_mem (not_mem_blanks hgap rfl)
  exact ⟨⟨front, start ++ gap, split_append hbefore single, isParameterStart_append hstart hgap⟩,
    h.lenient hs gap⟩

theorem namesCharset_withCharset {ct : String} (h : NamesCharset ct) (e : Option String) :
    NamesCharset (withCharset ct e) := by
  cases e with
  | none => exact h
  | some e =>
    by_cases he : e = ""
    · rw [withCharset, if_pos he]
      exact h
    · obtain ⟨gap, hvalue, hgap⟩ := exists_eq_append_trimLeft (e.toList ++ (slotOf ct).after)
      have written : withCharset ct (some e) =
          String.ofList ((slotOf ct).before ++ (gap ++ trimLeft (e.toList ++ (slotOf ct).after))) := by
        rw [← hvalue, ← List.append_assoc]
        exact String.toList_inj.1 ((toList_withCharset ct he).trans String.toList_ofList.symm)
      unfold NamesCharset
      rw [written, slotOf_before ct hgap (head?_trimLeft _)]
      exact h.append (followsSign_slotOf ct) hgap _

/-- Where no charset is written yet, one is added as a parameter. -/
theorem namesCharset_of_slot?_eq_none {ct : String} (h : slot? true ct.toList = none) : NamesCharset ct := by
  have place : slotOf ct = ⟨added ct.toList, []⟩ := by
    unfold slotOf
    rw [h]
    rfl
  unfold NamesCharset
  rw [place]
  refine ⟨?_, ?_⟩
  · exact ⟨split ';' ct.toList, charsetKey, split_added ct.toList, [], charsetName, [], [], rfl,
      by decide +kernel, by decide +kernel, by simp, by simp, by simp⟩
  · obtain ⟨w, hw⟩ := lowerAfter_append [] ct.toList (';' :: charsetKey)
    have key (before : List Char) : lowerAfter before (';' :: charsetKey) = ';' :: charsetKey := by rfl
    rw [isSome_indexOf?_iff]
    refine ⟨w ++ [';'], [], ?_⟩
    show (w ++ [';']) ++ charsetKey ++ [] = lowerAfter [] (ct.toList ++ ';' :: charsetKey)
    rw [hw, key]
    simp

/-- The case of the name does not matter, nor do other parameters. -/
example : NamesCharset "text/plain; format=flowed; CHARSET=utf-8; x=y" :=
  ⟨⟨["text/plain".toList, " format=flowed".toList], " CHARSET=".toList, by decide +kernel,
    [' '], "CHARSET".toList, [], [], by decide +kernel, by decide +kernel, by decide +kernel,
    by simp [show isBlank ' ' = true from rfl], by simp, by simp⟩, by decide +kernel⟩

end ContentType

end HttpExchange
