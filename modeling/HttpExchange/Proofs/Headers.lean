import HttpExchange.Header.Operation

/-!
# Headers after a write

What is found under a name after a value was written there.

## Main statements

* `Headers.first?_put_text`: a text that is written over the present values is the first value.
* `Headers.values?_put_of_ne`, `Headers.first?_put_behind`: what a write does not change.
* `Headers.ofPairs_induction`: headers that are made of pairs are those that the writes give.
-/

namespace HttpExchange

theorem Value.exists_owned_text (place : Place) (m : Mark) (s : String) :
    ∃ m', (Value.text m s).owned place = .text m' s := by
  unfold Value.owned
  split
  · exact ⟨_, rfl⟩
  · exact ⟨_, rfl⟩

theorem Value.exists_owned_ofText (place : Place) (s : String) :
    ∃ m, (Value.ofText s).owned place = .text m s := Value.exists_owned_text place _ s

namespace Headers

theorem values?_congr (h : Headers) {n name : String} (hname : lowerCase n = lowerCase name) :
    h.values? n = h.values? name := by
  unfold values?
  rw [hname]

/-- A text that is written over the present values of a header is the only one. -/
theorem values?_putAs_text (h : Headers) (name : Thing String) (m : Mark) (s : String) :
    (h.putAs name (.text m s) true).values? name.content = some [.text m s] := by
  unfold putAs values?
  dsimp only
  cases h.get? (lowerCase name.content) <;> simp [combine, Value.flatten]

/-- Headers of other names keep their values. -/
theorem values?_putAs_of_ne (h : Headers) (name : Thing String) {other : String}
    (hne : lowerCase name.content ≠ lowerCase other) (v : Value) (replace : Bool) :
    (h.putAs name v replace).values? other = h.values? other := by
  unfold putAs values?
  dsimp only
  cases h.get? (lowerCase name.content) <;> simp [hne]

theorem values?_put_text (h : Headers) (name : String) (m : Mark) (s : String) :
    (h.put name (.text m s) true).values? name = some [.text m s] := by
  unfold put
  exact values?_putAs_text h (.ofText (.named (lowerCase name)) name) m s

theorem values?_put_of_ne (h : Headers) {name other : String} (hne : lowerCase name ≠ lowerCase other)
    (v : Value) (replace : Bool) : (h.put name v replace).values? other = h.values? other := by
  unfold put
  exact values?_putAs_of_ne h (.ofText (.named (lowerCase name)) name) hne v replace

theorem has_eq_isSome (h : Headers) (name : String) : h.has name = (h.values? name).isSome := by
  simp [has, OrderedMap.contains, values?]

theorem has_of_first? {h : Headers} {name : String} {v : Value} (hv : h.first? name = some v) :
    h.has name = true := by
  rw [has_eq_isSome]
  unfold first? valuesOf at hv
  cases hvs : h.values? name with
  | none =>
    rw [hvs] at hv
    cases hv
  | some vs => rfl

theorem first?_congr (h : Headers) {n name : String} (hname : lowerCase n = lowerCase name) :
    h.first? n = h.first? name := by
  unfold first? valuesOf
  rw [values?_congr h hname]

theorem first?_putAs_text (h : Headers) (name : Thing String) (m : Mark) (s : String) :
    (h.putAs name (.text m s) true).first? name.content = some (.text m s) := by
  unfold first? valuesOf
  rw [values?_putAs_text]
  rfl

theorem first?_putAs_of_ne (h : Headers) (name : Thing String) {other : String}
    (hne : lowerCase name.content ≠ lowerCase other) (v : Value) (replace : Bool) :
    (h.putAs name v replace).first? other = h.first? other := by
  unfold first? valuesOf
  rw [values?_putAs_of_ne h name hne]

theorem first?_put_of_ne (h : Headers) {name other : String} (hne : lowerCase name ≠ lowerCase other)
    (v : Value) (replace : Bool) : (h.put name v replace).first? other = h.first? other :=
  first?_putAs_of_ne h (.ofText (.named (lowerCase name)) name) hne v replace

theorem first?_remove (h : Headers) (name other : String) : (h.remove name).first? other =
    if lowerCase name = lowerCase other then none else h.first? other := by
  unfold first? valuesOf values? remove
  rw [OrderedMap.get?_erase]
  by_cases hname : lowerCase name = lowerCase other
  · simp [hname]
  · simp [hname]

theorem first?_setValues_of_ne (h : Headers) {name other : String} (hne : lowerCase name ≠ lowerCase other)
    (vs : List Value) : (h.setValues name vs).first? other = h.first? other := by
  unfold first? valuesOf values? setValues
  cases h.get? (lowerCase name) with
  | none => rfl
  | some header => simp [hne]

/-- A header whose values are replaced by themselves stays as it is. -/
theorem first?_setValues_valuesOf (h : Headers) (name other : String) :
    (h.setValues name (h.valuesOf name)).first? other = h.first? other := by
  by_cases hname : lowerCase name = lowerCase other
  · unfold first? valuesOf values? setValues
    cases hf : h.get? (lowerCase name) with
    | none => rfl
    | some header => simp [← hname, hf]
  · exact first?_setValues_of_ne h hname _

/-- What is written behind the present values does not change the first one. -/
theorem first?_put_behind {h : Headers} {name : String} {v : Value} (hv : h.first? name = some v)
    (w : Value) : (h.put name w false).first? name = some v := by
  unfold first? valuesOf values? at hv
  cases hf : h.get? (lowerCase name) with
  | none =>
    rw [hf] at hv
    cases hv
  | some header =>
    rw [hf] at hv
    have first : header.values.head? = some v := hv
    have written : (h.put name w false).get? (lowerCase name) =
        some ⟨header.name, header.values ++ w.flatten⟩ := by
      unfold put putAs
      dsimp only [Thing.ofText]
      rw [hf]
      simp [combine]
    unfold first? valuesOf values?
    rw [written]
    show (header.values ++ w.flatten).head? = some v
    rw [List.head?_append, first]
    rfl

theorem first?_put_text (h : Headers) (name : String) (m : Mark) (s : String) :
    (h.put name (.text m s) true).first? name = some (.text m s) := by
  unfold first? valuesOf
  rw [values?_put_text]
  rfl

/-- A value is written unless it is missing. -/
theorem add_eq_ok_iff {h g : Headers} {name : String} {v : Value} :
    h.add name v = .ok g ↔ v ≠ .null ∧ h.put name v false = g := by
  cases v with
  | null => simp [add, set]
  | _ => simp [add, set]

/-- Headers that are made of pairs result from writing one value after another, none of which is missing. -/
theorem ofPairs_induction {R : Headers → Prop} {pairs : List (String × Value)} {made : Headers}
    (hmade : ofPairs pairs = .ok made) (empty : R .empty)
    (put : ∀ p ∈ pairs, p.2 ≠ .null → ∀ g, R g → R (g.put p.1 p.2 false)) : R made := by
  unfold ofPairs at hmade
  generalize (OrderedMap.empty : Headers) = g at hmade empty
  induction pairs generalizing g with
  | nil => exact Except.ok.inj hmade ▸ empty
  | cons p rest ih =>
    rw [List.foldlM_cons] at hmade
    cases hadd : add g p.1 p.2 with
    | error fault =>
      rw [hadd] at hmade
      cases hmade
    | ok next =>
      rw [hadd] at hmade
      obtain ⟨hne, rfl⟩ := add_eq_ok_iff.1 hadd
      exact ih (fun q hq => put q (List.mem_cons_of_mem p hq)) _ hmade (put p List.mem_cons_self hne g empty)

/-- The text of the first value is what is answered when a header is asked for. -/
theorem run_get_of_first? {h : Headers} {name : String} {m : Mark} {text : String}
    (hv : h.first? name = some (.text m text)) (thisYear : Int) :
    HeadersOp.run thisYear (.get name none) h = .ok (.value (.text m text), h) := by
  have read : h.textValue? name = .ok (some (.text m text)) := by
    unfold textValue?
    rw [hv]
    rfl
  simp [HeadersOp.run, read, Except.map]

/-- A header that is not there is answered by nothing. -/
theorem run_get_of_first?_eq_none {h : Headers} {name : String} (hv : h.first? name = none) (thisYear : Int) :
    HeadersOp.run thisYear (.get name none) h = .ok (.value .null, h) := by
  have read : h.textValue? name = .ok none := by
    unfold textValue?
    rw [hv]
  simp [HeadersOp.run, read, Except.map, Value.ofText?]

end Headers

end HttpExchange
