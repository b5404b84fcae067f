import HttpExchange.ContentType
import HttpExchange.Proofs.Text.Append

/-!
# The charset of a malformed content type

The charset key is searched for in the lower case of a malformed content type, and what follows this place is
taken from the content type itself. The characters of the key are the lower case of single characters only, so
that the first key of the content type is found. The place where it is found is that of the lower case, though:
each capital `i` with a dot in front of the key, whose lower case is two characters, moves it by one.

## Main statements

* `Text.indexOf?_lowerAfter`: where a word is found in the lower case of a text.
* `ContentType.charset?_of_rejected`: the charset of a malformed content type is what follows the first key,
  without as many characters as there are capital `i`s with a dot in front of the key.
-/

namespace HttpExchange.Text

/-! ## Words in lower case -/

/-- Is each character of `cs`, on its own, brought to lower case as that of `word`? -/
def LowersTo (word cs : List Char) : Prop := cs.map (fun c => lower [c]) = word.map fun d => [d]

instance (word cs : List Char) : Decidable (LowersTo word cs) := inferInstanceAs (Decidable (_ = _))

theorem LowersTo.length_eq {word cs : List Char} (h : LowersTo word cs) : cs.length = word.length := by
  simpa using congrArg List.length h

/-- Is a character none of those that a capital `i` with a dot and a capital sigma become? Then it is the lower
case of single characters only, wherever they stand. -/
def IsLoneLower (d : Char) : Prop := d ∉ ['i', '\u0307', '\u03c2', '\u03c3']

theorem lower_singleton (c : Char) : lower [c] = lowerAt [] c [] := by
  rw [lower, lowerAfter, lowerAfter, List.append_nil]

/-- A lone lower case is found wherever the character stands that it belongs to. -/
theorem lowerAt_eq_singleton_iff {c d : Char} (hd : IsLoneLower d) (before rest : List Char) :
    lowerAt before c rest = [d] ↔ lower [c] = [d] := by
  have sigma : d ≠ '\u03c2' ∧ d ≠ '\u03c3' := by
    constructor <;> rintro rfl <;> exact hd (by decide)
  rw [lower_singleton]
  by_cases hc : c = '\u03a3'
  · subst hc
    have other (b : Bool) : (if b then '\u03c2' else '\u03c3') ≠ d := by
      cases b
      · exact sigma.2.symm
      · exact sigma.1.symm
    exact iff_of_false (fun h => other _ (List.cons.inj h).1) fun h => other _ (List.cons.inj h).1
  · rw [lowerAt_of_ne hc before [] rest []]

/-- A lone lower case begins what a character becomes only if it is all of it. -/
theorem lowerAt_append_eq_cons {c d : Char} (hd : IsLoneLower d) {before rest t t' : List Char}
    (h : lowerAt before c rest ++ t = d :: t') : lowerAt before c rest = [d] ∧ t = t' := by
  have dotless : d ≠ 'i' := by
    rintro rfl
    exact hd (by decide)
  by_cases hc : c = '\u0130'
  · rw [hc, lowerAt, if_pos rfl] at h
    exact absurd (List.cons.inj h).1.symm dotless
  · have single : ∃ e, lowerAt before c rest = [e] := by
      unfold lowerAt
      rw [if_neg hc]
      split
      · exact ⟨_, rfl⟩
      · exact ⟨_, rfl⟩
    obtain ⟨e, he⟩ := single
    rw [he] at h ⊢
    obtain ⟨rfl, rfl⟩ := List.cons.inj h
    exact ⟨rfl, rfl⟩

/-- Lower case begins with a word if the text begins with characters that are brought to it. -/
theorem prefix_lowerAfter_iff {word : List Char} (hword : ∀ d ∈ word, IsLoneLower d) (before cs : List Char) :
    word <+: lowerAfter before cs ↔ ∃ k v, cs = k ++ v ∧ LowersTo word k := by
  induction word generalizing before cs with
  | nil => exact iff_of_true (List.nil_prefix) ⟨[], cs, rfl, rfl⟩
  | cons d word ih =>
    have hd := hword d List.mem_cons_self
    have hrest := fun e he => hword e (List.mem_cons_of_mem d he)
    cases cs with
    | nil =>
      refine iff_of_false (fun h => ?_) ?_
      · exact absurd (List.prefix_nil.1 h) (List.cons_ne_nil d word)
      · rintro ⟨k, v, heq, hk⟩
        obtain ⟨rfl, -⟩ := List.append_eq_nil_iff.1 heq.symm
        cases hk
    | cons c cs =>
      constructor
      · rintro ⟨t, ht⟩
        obtain ⟨hc, hbehind⟩ := lowerAt_append_eq_cons hd ht.symm
        obtain ⟨k, v, rfl, hk⟩ := (ih hrest (c :: before) cs).1 ⟨t, hbehind.symm⟩
        exact ⟨c :: k, v, rfl, congrArg₂ List.cons ((lowerAt_eq_singleton_iff hd _ _).1 hc) hk⟩
      · rintro ⟨k, v, heq, hk⟩
        cases k with
        | nil => cases hk
        | cons c' k =>
          obtain ⟨rfl, rfl⟩ := List.cons.inj heq
          obtain ⟨hc, hk⟩ := List.cons.inj hk
          rw [lowerAfter, (lowerAt_eq_singleton_iff hd _ _).2 hc]
          exact List.prefix_cons_inj d |>.2 ((ih hrest (c :: before) _).2 ⟨k, v, rfl, hk⟩)

/-! ## The first occurrence -/

/-- A text in which characters that are brought to `word` stand between `u` and `v`, and no such characters
further ahead. -/
structure IsFirstOf (word u v cs : List Char) : Prop where
  occurs : ∃ k, cs = u ++ (k ++ v) ∧ LowersTo word k
  first : ∀ u' k' v', cs = u' ++ (k' ++ v') → LowersTo word k' → u.length ≤ u'.length

/-- To know that a word does not occur before, it is enough to look at as many characters from each place. -/
theorem first_of_take {word cs : List Char} {n : Nat}
    (h : ∀ i < n, ¬ LowersTo word ((cs.drop i).take word.length)) (u k v : List Char)
    (hcs : cs = u ++ (k ++ v)) (hk : LowersTo word k) : n ≤ u.length := by
  by_contra hlt
  refine h u.length (Nat.lt_of_not_le hlt) ?_
  rwa [hcs, List.drop_left, ← hk.length_eq, List.take_left]

/-- What does not begin the text occurs first where it occurs first in the rest. -/
theorem IsFirstOf.cons {word u v cs : List Char} {c : Char} (h : IsFirstOf word u v cs)
    (hc : ¬ ∃ k v, c :: cs = k ++ v ∧ LowersTo word k) : IsFirstOf word (c :: u) v (c :: cs) := by
  obtain ⟨⟨k, rfl, hk⟩, first⟩ := h
  refine ⟨⟨k, rfl, hk⟩, fun u' k' v' heq hk' => ?_⟩
  cases u' with
  | nil => exact absurd ⟨k', v', heq, hk'⟩ hc
  | cons c' u' => exact Nat.succ_le_succ (first u' k' v' (List.cons.inj heq).2 hk')

/-- Only a capital `i` with a dot becomes more than one character. -/
theorem length_lowerAt (before : List Char) (c : Char) (rest : List Char) :
    (lowerAt before c rest).length = 1 + [c].count '\u0130' := by
  unfold lowerAt
  by_cases hc : c = '\u0130'
  · simp [hc]
  · rw [if_neg hc, List.count_singleton, beq_eq_false_iff_ne.2 hc]
    split <;> rfl

/-- What a character becomes is passed over if no word begins there. -/
theorem indexOf?_lowerAt_append {d : Char} {word : List Char} (hd : IsLoneLower d) {before rest t : List Char}
    {c : Char} (h : ¬ d :: word <+: lowerAt before c rest ++ t) :
    indexOf? (d :: word) (lowerAt before c rest ++ t) =
      (indexOf? (d :: word) t).map (· + (lowerAt before c rest).length) := by
  have passed {e : Char} {t : List Char} (h : ¬ d :: word <+: e :: t) :
      indexOf? (d :: word) (e :: t) = (indexOf? (d :: word) t).map (· + 1) := by
    rw [indexOf?, if_neg (mt List.isPrefixOf_iff_prefix.1 h)]
  by_cases hc : c = '\u0130'
  · have dot : ¬ d :: word <+: '\u0307' :: t := by
      rintro ⟨t', ht⟩
      obtain rfl := (List.cons.inj ht).1
      exact hd (by decide)
    have both : lowerAt before c rest = ['i', '\u0307'] := by rw [hc, lowerAt, if_pos rfl]
    rw [both, List.cons_append, List.cons_append, List.nil_append] at h ⊢
    rw [passed h, passed dot, Option.map_map]
    rfl
  · have length := length_lowerAt before c rest
    rw [List.count_singleton, beq_eq_false_iff_ne.2 hc] at length
    obtain ⟨e, he⟩ := List.length_eq_one_iff.1 length
    rw [he, List.cons_append, List.nil_append] at h ⊢
    exact passed h

/-- In lower case a word is found at its first occurrence, moved by one for each capital `i` with a dot in front
of it. -/
theorem indexOf?_lowerAfter {word : List Char} (hne : word ≠ []) (hword : ∀ d ∈ word, IsLoneLower d)
    (before cs : List Char) :
    (indexOf? word (lowerAfter before cs) = none ∧ ∀ u k v, cs = u ++ (k ++ v) → ¬ LowersTo word k) ∨
    ∃ u v, IsFirstOf word u v cs ∧
      indexOf? word (lowerAfter before cs) = some (u.length + u.count '\u0130') := by
  obtain ⟨d, word, rfl⟩ := List.exists_cons_of_ne_nil hne
  induction cs generalizing before with
  | nil =>
    refine .inl ⟨rfl, fun u k v heq hk => ?_⟩
    obtain ⟨-, heq⟩ := List.append_eq_nil_iff.1 heq.symm
    obtain ⟨rfl, -⟩ := List.append_eq_nil_iff.1 heq
    cases hk
  | cons c rest ih =>
    have begins := prefix_lowerAfter_iff hword before (c :: rest)
    by_cases hhere : ∃ k v, c :: rest = k ++ v ∧ LowersTo (d :: word) k
    · obtain ⟨k, v, heq, hk⟩ := hhere
      refine .inr ⟨[], v, ⟨⟨k, heq, hk⟩, fun _ _ _ _ _ => Nat.zero_le _⟩, ?_⟩
      obtain ⟨t, ht⟩ := begins.2 ⟨k, v, heq, hk⟩
      rw [← ht]
      exact if_pos (List.isPrefixOf_iff_prefix.2 (List.prefix_append _ t))
    · -- The place in the rest moves by as many characters as the first one becomes.
      have passed := indexOf?_lowerAt_append (hword d List.mem_cons_self) (mt begins.1 hhere)
      rw [lowerAfter, passed]
      rcases ih (c :: before) with ⟨hnone, hno⟩ | ⟨u, v, hfirst, hsome⟩
      · refine .inl ⟨by rw [hnone]; rfl, fun u k v heq hk => ?_⟩
        cases u with
        | nil => exact hhere ⟨k, v, heq, hk⟩
        | cons c' u => exact hno u k v (List.cons.inj heq).2 hk
      · refine .inr ⟨c :: u, v, hfirst.cons hhere, ?_⟩
        have counted : (c :: u).count '\u0130' = [c].count '\u0130' + u.count '\u0130' := by
          rw [← List.count_append, List.singleton_append]
        rw [hsome, Option.map_some, length_lowerAt, counted, List.length_cons]
        exact congrArg some (by omega)

end HttpExchange.Text

namespace HttpExchange.ContentType

open Text

/-! ## The lenient charset -/

theorem charsetKey_ne_nil : charsetKey ≠ [] := List.cons_ne_nil _ _

theorem isLoneLower_charsetKey : ∀ d ∈ charsetKey, IsLoneLower d := by
  simp [charsetKey, IsLoneLower]

/-- The charset of a content type that is rejected: none if no eight characters are those of the key in lower
case. Otherwise it is what follows the first such characters, without as many characters at its beginning as
there are capital `i`s with a dot in front of them; so it is all of it if there is none, or nothing to take
away. -/
theorem charset?_of_rejected {ct : String} (h : ∃ fault, MediaType.parse ct = .error fault) :
    (charset? ct = none ∧ ∀ u k v, ct.toList = u ++ (k ++ v) → ¬ LowersTo charsetKey k) ∨
    ∃ u v, IsFirstOf charsetKey u v ct.toList ∧
      charset? ct = some (String.ofList (v.drop (u.count '\u0130'))) ∧
      (charset? ct = some (String.ofList v) ↔ '\u0130' ∉ u ∨ v = []) := by
  obtain ⟨fault, hfault⟩ := h
  have lenient : charset? ct = lenientCharset? ct := by
    unfold charset?
    rw [hfault]
  rw [lenient]
  unfold lenientCharset?
  rcases indexOf?_lowerAfter charsetKey_ne_nil isLoneLower_charsetKey [] ct.toList with
    ⟨hnone, hno⟩ | ⟨u, v, hfirst, hsome⟩
  · exact .inl ⟨by rw [lower, hnone]; rfl, hno⟩
  · obtain ⟨k, hct, hk⟩ := hfirst.occurs
    have place : u.length + u.count '\u0130' + charsetKey.length = (u ++ k).length + u.count '\u0130' := by
      rw [List.length_append, hk.length_eq, Nat.add_right_comm]
    have whole : ct.toList.drop (u.length + u.count '\u0130' + charsetKey.length) =
        v.drop (u.count '\u0130') := by
      rw [place, hct, ← List.append_assoc, List.drop_length_add_append]
    have found : indexOf? charsetKey (lower ct.toList) = some (u.length + u.count '\u0130') := hsome
    refine .inr ⟨u, v, hfirst, by rw [found, Option.map_some, whole], ?_⟩
    rw [found, Option.map_some, whole, Option.some_inj, String.ofList_inj, ← List.count_eq_zero]
    constructor
    · intro same
      have shorter := congrArg List.length same
      rw [List.length_drop] at shorter
      rw [← List.length_eq_zero_iff]
      omega
    · rintro (none | rfl)
      · rw [none, List.drop_zero]
      · rw [List.drop_nil]

/-- A piece that is no parameter, in front of a charset. -/
theorem charset?_of_rejected_of_broken :
    (∃ fault, MediaType.parse "text/plain; broken; CharSet=UTF-8" = .error fault) ∧
    ∃ u v, IsFirstOf charsetKey u v "text/plain; broken; CharSet=UTF-8".toList ∧
      charset? "text/plain; broken; CharSet=UTF-8" = some (String.ofList v) ∧ String.ofList v = "UTF-8" := by
  have rejected : ∃ fault, MediaType.parse "text/plain; broken; CharSet=UTF-8" = .error fault := ⟨_, rfl⟩
  have read : charset? "text/plain; broken; CharSet=UTF-8" = some "UTF-8" := rfl
  have dotless : '\u0130' ∉ "text/plain; broken; CharSet=UTF-8".toList := by decide
  refine ⟨rejected, ?_⟩
  rcases charset?_of_rejected rejected with ⟨hnone, -⟩ | ⟨u, v, hfirst, -, hall⟩
  · rw [read] at hnone
    cases hnone
  · obtain ⟨k, hct, -⟩ := hfirst.occurs
    have all := hall.2 (.inl fun hmem => dotless (hct ▸ List.mem_append_left _ hmem))
    exact ⟨u, v, hfirst, all, Option.some.inj (all.symm.trans read)⟩

/-- The lower case of the subtype is one character longer than the subtype, and so the first character of the
charset is lost. -/
theorem charset?_of_dotted_i :
    (∃ fault, MediaType.parse "text/\u0130; charset=UTF-8" = .error fault) ∧
    IsFirstOf charsetKey "text/\u0130; ".toList "UTF-8".toList "text/\u0130; charset=UTF-8".toList ∧
    charset? "text/\u0130; charset=UTF-8" = some "TF-8" ∧
    charset? "text/\u0130; charset=UTF-8" ≠ some "UTF-8" := by
  have read : charset? "text/\u0130; charset=UTF-8" = some "TF-8" := rfl
  refine ⟨⟨_, rfl⟩, ⟨⟨charsetKey, rfl, rfl⟩, first_of_take (by decide +kernel)⟩, read, ?_⟩
  rw [read]
  decide

end HttpExchange.ContentType
