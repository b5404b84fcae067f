import HttpExchange.Proofs.ContentType.Slot

/-!
# Which charsets are read back

A charset that is written into a content type is read back from it or not. For tokens this is a property of
the place to which they are written: it has to be the value of the last charset parameter of a well-formed
media type, or else the end of a malformed one, directly behind the first occurrence of the charset key.

## Main statements

* `ContentType.isFirm_iff`: the content types from which every token is read back.
-/

namespace HttpExchange.ContentType

open Text MediaType

/-! ## Reading -/

/-- The charset of a well-formed media type is that of its pieces. -/
theorem charset?_of_pieces {ct : String} {head : List Char} {pieces : List (List Char)}
    (hsplit : split ';' ct.toList = head :: pieces) (htypes : (types? (trim head)).isSome)
    (hpieces : ∀ p ∈ pieces, IsPiece p) : charset? ct = lastValue? "charset" pieces := by
  obtain ⟨m, hm, -, hget⟩ := parse_of_pieces hsplit htypes hpieces
  unfold charset?
  rw [hm]
  exact hget "charset"

/-- The charset of a malformed media type is what follows the charset key. -/
theorem charset?_of_malformed {ct : String} (h : ¬ IsWellFormed ct.toList) :
    charset? ct = lenientCharset? ct := by
  obtain ⟨fault, hfault⟩ := parse_of_malformed h
  unfold charset?
  rw [hfault]

/-! ## Pieces around a value -/

namespace Slot

variable {s : Slot} {front back : List (List Char)} {start rest e : List Char}

/-- Does an equals sign stand in front of the value, with white space between them at most? -/
def FollowsSign (s : Slot) : Prop := ∃ u gap, s.before = u ++ '=' :: gap ∧ ∀ c ∈ gap, isBlank c = true

theorem split_fill (hbefore : split ';' s.before = front ++ [start])
    (hafter : split ';' s.after = rest :: back) (he : isToken e = true) :
    split ';' (s.fill e) = front ++ (start ++ (e ++ rest)) :: back := by
  have value : split ';' e = [] ++ [e] := split_of_not_mem (not_mem_token he).2
  have behind : split ';' (e ++ s.after) = (e ++ rest) :: back := split_append value hafter
  rw [fill, List.append_assoc]
  exact split_append hbefore behind

theorem FollowsSign.of_split (h : s.FollowsSign) (hbefore : split ';' s.before = front ++ [start]) :
    ∃ u gap, start = u ++ '=' :: gap ∧ ∀ c ∈ gap, isBlank c = true := by
  obtain ⟨u, gap, hu, hgap⟩ := h
  obtain ⟨front', last, hlast⟩ := exists_split_eq_append ';' u
  have sign : split ';' ('=' :: gap) = ('=' :: gap) :: [] := by
    refine split_of_not_mem fun hmem => ?_
    rcases List.mem_cons.1 hmem with heq | hmem
    · cases heq
    · exact not_mem_blanks hgap rfl hmem
  rw [hu, split_append hlast sign] at hbefore
  have same := (List.append_inj' hbefore rfl).2
  obtain rfl := (List.cons.inj same).1
  exact ⟨last, gap, rfl, hgap⟩

theorem isWellFormed_fill_iff (hs : s.FollowsSign) (hbefore : split ';' s.before = front ++ [start])
    (hafter : split ';' s.after = rest :: back) (he : isToken e = true) :
    IsWellFormed (s.fill e) ↔ ∃ head others, front = head :: others ∧ (types? (trim head)).isSome ∧
      ∀ p ∈ others ++ (start ++ (e ++ rest)) :: back, IsPiece p := by
  have pieces := split_fill hbefore hafter he
  constructor
  · rintro ⟨head, others, hsplit, htypes, hothers⟩
    rw [pieces] at hsplit
    cases front with
    | nil =>
      -- The first piece would be the types, but there is an equals sign in it.
      obtain ⟨u, gap, rfl, -⟩ := hs.of_split hbefore
      obtain ⟨rfl, -⟩ := List.cons.inj hsplit
      exact absurd (by simp) (equals_not_mem_of_types? htypes)
    | cons head' front =>
      obtain ⟨rfl, rfl⟩ := List.cons.inj hsplit
      exact ⟨head', front, rfl, htypes, hothers⟩
  · rintro ⟨head, others, rfl, htypes, hothers⟩
    exact ⟨head, _, pieces, htypes, hothers⟩

/-! ## Firm places -/

/-- The value is that of the last charset parameter of a well-formed media type. -/
def IsParameter (s : Slot) : Prop :=
  ∃ head others start rest back, split ';' s.before = head :: others ++ [start] ∧
    split ';' s.after = rest :: back ∧ (types? (trim head)).isSome ∧
    (∀ p ∈ others ++ back, IsPiece p) ∧ IsParameterStart "charset" start ∧
    (∀ c ∈ rest, isBlank c = true) ∧ lastValue? "charset" back = none

/-- The value ends a malformed media type, and the first charset key stands directly in front of it. -/
def IsEnd (s : Slot) : Prop :=
  s.after = [] ∧
    (indexOf? charsetKey (lower s.before)).map (· + charsetKey.length) = some s.before.length ∧
    ¬ ∃ head others start name, split ';' s.before = head :: others ++ [start] ∧
      (types? (trim head)).isSome ∧ (∀ p ∈ others, IsPiece p) ∧ IsParameterStart name start

/-- The places from which tokens are read back. -/
def IsFirm (s : Slot) : Prop := s.IsParameter ∨ s.IsEnd

/-- A token in the place of the last charset parameter is the charset. -/
theorem IsParameter.charset? (h : s.IsParameter) {value : String} (he : isToken value.toList = true) :
    charset? (String.ofList (s.fill value.toList)) = some value := by
  obtain ⟨head, others, start, rest, back, hbefore, hafter, htypes, hpieces, hstart, hrest, hback⟩ := h
  have found := parameter?_of_start hstart (valueOf?_token he) hrest
  have pieces := split_fill hbefore hafter he
  have allPieces : ∀ p ∈ others ++ (start ++ (value.toList ++ rest)) :: back, IsPiece p := by
    intro p hp
    rcases List.mem_append.1 hp with hp | hp
    · exact hpieces p (List.mem_append_left _ hp)
    · rcases List.mem_cons.1 hp with rfl | hp
      · exact .inr (by rw [found]; rfl)
      · exact hpieces p (List.mem_append_right _ hp)
  have read : valueIn? "charset" (start ++ (value.toList ++ rest)) = some value := by
    unfold valueIn?
    rw [found]
    simp
  rw [charset?_of_pieces (by rw [String.toList_ofList, pieces]; rfl) htypes allPieces, lastValue?_append,
    lastValue?_cons, hback, read]
  rfl

/-- A token at the end of a malformed media type stays at the end of one. -/
theorem IsEnd.charset? (h : s.IsEnd) (hs : s.FollowsSign) {value : String}
    (he : isToken value.toList = true) : charset? (String.ofList (s.fill value.toList)) = some value := by
  obtain ⟨hafter, hkey, hmalformed⟩ := h
  obtain ⟨front, start, hbefore⟩ := exists_split_eq_append ';' s.before
  have none_behind : split ';' s.after = [] :: [] := by rw [hafter]; rfl
  have malformed : ¬ IsWellFormed (s.fill value.toList) := by
    intro hwell
    obtain ⟨head, others, rfl, htypes, hpieces⟩ :=
      (isWellFormed_fill_iff hs hbefore none_behind he).1 hwell
    have piece := hpieces _ (List.mem_append_right _ List.mem_cons_self)
    obtain ⟨u, gap, rfl, hgap⟩ := hs.of_split hbefore
    obtain ⟨name, hstart⟩ := start_of_isPiece he hgap piece
    exact hmalformed ⟨head, others, _, name, hbefore, htypes,
      fun p hp => hpieces p (List.mem_append_left _ hp), hstart⟩
  obtain ⟨i, hi, hlength⟩ := Option.map_eq_some_iff.1 hkey
  obtain ⟨u, gap, hu, hgap⟩ := hs
  obtain ⟨w, hw⟩ := lower_append (u := u) hgap value.toList
  have whole : s.fill value.toList = s.before ++ value.toList := by rw [fill, hafter, List.append_nil]
  rw [charset?_of_malformed (by rwa [String.toList_ofList]), lenientCharset?, String.toList_ofList, whole,
    hu, hw, ← hu, indexOf?_append hi w, Option.map_some, hlength, List.drop_left, String.ofList_toList]

theorem isToken_singleton {c : Char} (h : isTokenChar c = true) : isToken [c] = true :=
  isToken_iff.2 ⟨List.cons_ne_nil _ _, by simpa using h⟩

/-- If two letters are read back from well-formed media types, they are values of the last charset
parameter. -/
theorem isParameter_of_two (hs : s.FollowsSign) {x y : Char} (hx : isTokenChar x = true)
    (hy : isTokenChar y = true) (hne : x ≠ y) (hwell : IsWellFormed (s.fill [x]))
    (hwell' : IsWellFormed (s.fill [y]))
    (hread : ContentType.charset? (String.ofList (s.fill [x])) = some (String.ofList [x]))
    (hread' : ContentType.charset? (String.ofList (s.fill [y])) = some (String.ofList [y])) :
    s.IsParameter := by
  obtain ⟨front, start, hbefore⟩ := exists_split_eq_append ';' s.before
  obtain ⟨rest, back, hafter⟩ := exists_split_eq_cons ';' s.after
  obtain ⟨u, gap, hstart, hgap⟩ := hs.of_split hbefore
  obtain ⟨head, others, rfl, htypes, hpieces⟩ :=
    (isWellFormed_fill_iff hs hbefore hafter (isToken_singleton hx)).1 hwell
  obtain ⟨head', others', heq, -, hpieces'⟩ :=
    (isWellFormed_fill_iff hs hbefore hafter (isToken_singleton hy)).1 hwell'
  obtain ⟨rfl, rfl⟩ := List.cons.inj heq
  have pieces : ∀ p ∈ others ++ back, IsPiece p := by
    intro p hp
    rcases List.mem_append.1 hp with hp | hp
    · exact hpieces p (List.mem_append_left _ hp)
    · exact hpieces p (List.mem_append_right _ (List.mem_cons_of_mem _ hp))
  -- What is read comes from the pieces behind the token, else from its own piece, else from those in front.
  have last {c : Char} (hc : isTokenChar c = true)
      (hall : ∀ p ∈ others ++ (start ++ ([c] ++ rest)) :: back, IsPiece p)
      (h : ContentType.charset? (String.ofList (s.fill [c])) = some (String.ofList [c])) :
      ((lastValue? "charset" back).or (valueIn? "charset" (start ++ ([c] ++ rest)))).or
        (lastValue? "charset" others) = some (String.ofList [c]) := by
    have pieces := split_fill hbefore hafter (isToken_singleton hc)
    rw [charset?_of_pieces (by rw [String.toList_ofList, pieces]; rfl) htypes hall, lastValue?_append,
      lastValue?_cons] at h
    exact h
  have own {c : Char} (hc : isTokenChar c = true)
      (h : valueIn? "charset" (start ++ ([c] ++ rest)) = some (String.ofList [c])) :
      IsParameterStart "charset" start ∧ ∀ c ∈ rest, isBlank c = true := by
    rw [hstart] at h ⊢
    exact start_of_valueIn? (isToken_singleton hc) hgap h
  have differ : String.ofList [x] ≠ String.ofList [y] := by
    intro heq
    exact hne (List.cons.inj (String.ofList_inj.1 heq)).1
  have hlast := last hx hpieces hread
  have hlast' := last hy hpieces' hread'
  have hback : lastValue? "charset" back = none := by
    cases hb : lastValue? "charset" back with
    | none => rfl
    | some v =>
      rw [hb, Option.some_or, Option.some_or] at hlast hlast'
      exact absurd (Option.some.inj (hlast.symm.trans hlast')) differ
  rw [hback, Option.none_or] at hlast hlast'
  have found : IsParameterStart "charset" start ∧ ∀ c ∈ rest, isBlank c = true := by
    cases hv : valueIn? "charset" (start ++ ([x] ++ rest)) with
    | some v =>
      rw [hv, Option.some_or] at hlast
      exact own hx (hv.trans hlast)
    | none =>
      cases hv' : valueIn? "charset" (start ++ ([y] ++ rest)) with
      | some v =>
        rw [hv', Option.some_or] at hlast'
        exact own hy (hv'.trans hlast')
      | none =>
        rw [hv, Option.none_or] at hlast
        rw [hv', Option.none_or] at hlast'
        exact absurd (Option.some.inj (hlast.symm.trans hlast')) differ
  exact ⟨head, others, start, rest, back, hbefore, hafter, htypes, pieces, found.1, found.2, hback⟩

/-- If two letters are read back from malformed media types, they end them. -/
theorem isEnd_of_two (hs : s.FollowsSign) {x y : Char} (hx : isTokenChar x = true) (hne : x ≠ y)
    (hmalformed : ¬ IsWellFormed (s.fill [x])) (hmalformed' : ¬ IsWellFormed (s.fill [y]))
    (hread : ContentType.charset? (String.ofList (s.fill [x])) = some (String.ofList [x]))
    (hread' : ContentType.charset? (String.ofList (s.fill [y])) = some (String.ofList [y])) : s.IsEnd := by
  have last {c : Char} (hbad : ¬ IsWellFormed (s.fill [c]))
      (h : ContentType.charset? (String.ofList (s.fill [c])) = some (String.ofList [c])) :
      ∃ i, indexOf? charsetKey (lower (s.fill [c])) = some i ∧
        (s.fill [c]).drop (i + charsetKey.length) = [c] := by
    rw [charset?_of_malformed (by rwa [String.toList_ofList]), lenientCharset?, String.toList_ofList] at h
    obtain ⟨i, hi, hdrop⟩ := Option.map_eq_some_iff.1 h
    exact ⟨i, hi, String.ofList_inj.1 hdrop⟩
  obtain ⟨i, hi, hdrop⟩ := last hmalformed hread
  obtain ⟨j, -, hdrop'⟩ := last hmalformed' hread'
  have hafter : s.after = [] := by
    have ends {c : Char} {k : Nat} (h : (s.fill [c]).drop k = [c]) : (s.fill [c]).getLast? = some c := by
      rw [← List.take_append_drop k (s.fill [c]), h]
      exact List.getLast?_concat
    have hlast := ends hdrop
    have hlast' := ends hdrop'
    by_contra hnil
    rw [fill, List.getLast?_append, List.getLast?_eq_some_getLast hnil, Option.some_or] at hlast hlast'
    exact hne (Option.some.inj (hlast.symm.trans hlast'))
  have whole : s.fill [x] = s.before ++ [x] := by rw [fill, hafter, List.append_nil]
  have hlength : i + charsetKey.length = s.before.length := by
    have lengths := congrArg List.length hdrop
    rw [whole, List.length_drop, List.length_append, List.length_singleton] at lengths
    omega
  refine ⟨hafter, ?_, ?_⟩
  · obtain ⟨u, gap, hu, hgap⟩ := hs
    obtain ⟨w, hw⟩ := lower_append (u := u) hgap [x]
    rw [whole, hu, hw, ← hu] at hi
    have fits : s.before.length ≤ (lower s.before).length := length_le_length_lowerAfter [] s.before
    rw [indexOf?_of_append hi (by omega), Option.map_some, hlength]
  · rintro ⟨head, others, start, name, hbefore, htypes, hpieces, hstart⟩
    have none_behind : split ';' s.after = [] :: [] := by rw [hafter]; rfl
    have token : isToken [x] = true := isToken_singleton hx
    refine hmalformed ((isWellFormed_fill_iff hs hbefore none_behind token).2
      ⟨head, others, rfl, htypes, fun p hp => ?_⟩)
    rcases List.mem_append.1 hp with hp | hp
    · exact hpieces p hp
    · obtain rfl := List.mem_singleton.1 hp
      exact .inr (by rw [parameter?_of_start hstart (valueOf?_token token) fun c hc => by cases hc]; rfl)

/-- Every token is read back from the firm places, and only from them. Three letters tell: two of them are
alike in whether they make a well-formed media type. -/
theorem isFirm_iff (hs : s.FollowsSign) : s.IsFirm ↔ ∀ value : String, isToken value.toList = true →
    ContentType.charset? (String.ofList (s.fill value.toList)) = some value := by
  constructor
  · rintro (h | h) value he
    · exact h.charset? he
    · exact h.charset? hs he
  · intro h
    have read {c : Char} (hc : isTokenChar c = true) :
        ContentType.charset? (String.ofList (s.fill [c])) = some (String.ofList [c]) := by
      have := h (String.ofList [c]) (by rw [String.toList_ofList]; exact isToken_singleton hc)
      rwa [String.toList_ofList] at this
    have two {x y : Char} (hx : isTokenChar x = true) (hy : isTokenChar y = true) (hne : x ≠ y)
        (same : IsWellFormed (s.fill [x]) ↔ IsWellFormed (s.fill [y])) : s.IsFirm := by
      by_cases hwell : IsWellFormed (s.fill [x])
      · exact .inl (isParameter_of_two hs hx hy hne hwell (same.1 hwell) (read hx) (read hy))
      · exact .inr (isEnd_of_two hs hx hne hwell (mt same.2 hwell) (read hx) (read hy))
    have alike (p q r : Prop) : (p ↔ q) ∨ (p ↔ r) ∨ (q ↔ r) := by
      by_cases p <;> by_cases q <;> by_cases r <;> simp_all
    rcases alike (IsWellFormed (s.fill ['a'])) (IsWellFormed (s.fill ['b'])) (IsWellFormed (s.fill ['c']))
      with same | same | same
    · exact two rfl rfl (by decide) same
    · exact two rfl rfl (by decide) same
    · exact two rfl rfl (by decide) same

/-- In a firm place, a value that is no quoted string ends where it is followed by the rest. -/
theorem IsFirm.isClosed (h : s.IsFirm) : s.IsClosed := by
  intro c hc
  rcases h with ⟨_, _, _, rest, back, -, hafter, -, -, -, hrest, -⟩ | ⟨hafter, -⟩
  · have joined := join_split ';' s.after
    rw [hafter] at joined
    cases rest with
    | nil =>
      cases back with
      | nil =>
        rw [← joined] at hc
        cases hc
      | cons piece back =>
        rw [← joined] at hc
        exact .inl (Option.some.inj hc).symm
    | cons d rest =>
      have first : s.after.head? = some d := by
        rw [← joined]
        cases back <;> rfl
      rw [first] at hc
      obtain rfl := Option.some.inj hc
      exact .inr (hrest _ List.mem_cons_self)
  · rw [hafter] at hc
    cases hc

end Slot

/-! ## Content types -/

theorem followsSign_slotOf (ct : String) : (slotOf ct).FollowsSign := by
  unfold slotOf
  cases h : slot? true ct.toList with
  | none => exact ⟨ct.toList ++ ';' :: charsetName, [], by simp [added, charsetKey, charsetName], by simp⟩
  | some s =>
    obtain ⟨-, u, v, hbefore, key, gap, rfl, -, hgap⟩ := before_of_slot? h
    exact ⟨u ++ key, gap, by simp [hbefore], hgap⟩

/-- The content types into which tokens can be written and read back: their first charset parameter, or the
one that is added, is the last one of a well-formed media type, or ends a malformed one. -/
def IsFirm (ct : String) : Prop := (slotOf ct).IsFirm

/-- From these content types, and from no others, every token that is written is read back. -/
theorem isFirm_iff (ct : String) : IsFirm ct ↔
    ∀ e : String, isToken e.toList = true → charset? (withCharset ct (some e)) = some e := by
  unfold IsFirm
  rw [Slot.isFirm_iff (followsSign_slotOf ct)]
  constructor
  · intro h e he
    rw [withCharset_token ct he]
    exact h e he
  · intro h e he
    rw [← withCharset_token ct he]
    exact h e he

/-- Other parameters may follow the charset. -/
example : IsFirm "text/plain; charset=utf-8; format=flowed" := by
  refine .inl ⟨"text/plain".toList, [], " charset=".toList, [], [" format=flowed".toList], ?_⟩
  refine ⟨by decide +kernel, by decide +kernel, by decide +kernel, ?_, ?_, by simp, by decide +kernel⟩
  · simp only [List.nil_append, List.mem_singleton, forall_eq]
    exact .inr (by decide +kernel)
  · exact ⟨[' '], charsetName, [], [], by decide +kernel, by decide +kernel, by decide +kernel,
      by simp [show isBlank ' ' = true from rfl], by simp, by simp⟩

end HttpExchange.ContentType
