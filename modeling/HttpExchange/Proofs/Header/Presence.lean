import HttpExchange.Proofs.Header.Wire

/-!
# Whether a header is there

Whether a header is there can be seen in many ways: callers ask for its name, for its first value, as it was
written or as a text, for all its texts, or look for it in the list that is sent. Some of these look for the name
and others for the values. They agree on a name exactly if the header, if there is one, has a first value and this
is not missing.

A write refuses a value that is missing. It does not look into a list: an empty one leaves a header without values
behind, and items that are missing are stored. All views agree after any run exactly if no such list is written.

## Main statements

* `Headers.viewsAgree_iff`: when the views agree on a name.
* `Headers.allPresent_run`, `Headers.allPresent_after`: what is written decides what is there.
* `Headers.views_agree_iff_written_present`: the values with which all views agree after any run.
-/

namespace HttpExchange

/-- The value that an operation writes to a header. -/
def HeadersOp.written? : HeadersOp → Option Value
  | .set _ v _ | .add _ v => some v
  | _ => none

theorem HeadersOp.exists_written_of_event? {op : HeadersOp} {name : String} {vs : List Value} {replace : Bool}
    (he : op.event? = some (.write name vs replace)) : ∃ v, op.written? = some v ∧ v ≠ .null ∧ v.flatten = vs := by
  cases op with
  | set n v | add n v =>
    cases v with
    | null => cases he
    | _ =>
      cases he
      exact ⟨_, rfl, Value.noConfusion, rfl⟩
  | _ => cases he

theorem Value.kind_of_headerText {v : Value} {fault : Fault} (h : v.headerText = .error fault) :
    fault.kind ≠ .key := by
  cases v with
  | int m n =>
    change integerText n = .error fault at h
    unfold integerText at h
    split at h
    · cases h
      decide
    · cases h
  | dateTime m d =>
    change (HttpDate.secondsOfDateTime d).map HttpDate.writeSeconds = .error fault at h
    unfold HttpDate.secondsOfDateTime at h
    split at h
    · cases h
    · cases h
      decide
  | _ => cases h

namespace Headers

/-! ## The views of one name -/

/-- All views tell alike whether there is a header of this name: to take its text does not fail for want of it,
the text of its first value and this value itself are not missing, there are texts, and there is one in the list
that is sent. -/
structure ViewsAgree (thisYear : Int) (h : Headers) (name : String) : Prop where
  item : h.has name = true ↔ ∀ fault,
    ((Subject.headers thisYear).run (.item name) h).result = .error fault → fault.kind ≠ .key
  text : h.has name = true ↔ ((Subject.headers thisYear).run (.get name none) h).result ≠ .ok (.value .null)
  value : h.has name = true ↔ ((Subject.headers thisYear).run (.first name) h).result ≠ .ok (.value .null)
  texts : h.has name = true ↔ ((Subject.headers thisYear).run (.texts name) h).result ≠ .ok (.list [])
  sent : ∀ answer, ((Subject.headers thisYear).run .pairs h).result = .ok answer →
    ∃ ls, answer = linesAnswer ls ∧ (h.has name = true ↔ ∃ l ∈ ls, lowerCase l.1.content = lowerCase name)

variable (thisYear : Int) {h : Headers} {name : String}

theorem first?_eq_none_iff : h.first? name = none ↔ h.valuesOf name = [] := List.head?_eq_none_iff

theorem item_view_iff : (∀ fault, ((Subject.headers thisYear).run (.item name) h).result = .error fault →
    fault.kind ≠ .key) ↔ h.valuesOf name ≠ [] := by
  rw [HeadersOp.result_of_read rfl, ne_eq, ← first?_eq_none_iff]
  cases hfirst : h.first? name with
  | none =>
    have absent : h.item name = .error (.missing (.ofText name)) := by
      unfold item text?
      rw [hfirst]
      rfl
    simp [absent, Except.map, Fault.kind]
  | some v =>
    have found : h.item name = v.headerText := by
      unfold item text?
      rw [hfirst]
      cases htext : v.headerText <;> simp [htext, Except.map, bind, Except.bind, pure, Except.pure]
    refine iff_of_true (fun fault hfault => v.kind_of_headerText ?_) (by simp)
    rw [found] at hfault
    cases htext : v.headerText with
    | ok s => simp [htext, Except.map] at hfault
    | error other => simpa [htext, Except.map] using hfault

theorem text_view_iff : ((Subject.headers thisYear).run (.get name none) h).result ≠ .ok (.value .null) ↔
    h.valuesOf name ≠ [] := by
  rw [HeadersOp.result_of_read rfl, ne_eq, ne_eq, ← first?_eq_none_iff, not_iff_not]
  unfold textValue?
  cases h.first? name with
  | none => simp [Except.map, Value.ofText?]
  | some v => cases htext : v.headerText <;> simp [Value.headerTextValue, htext, Except.map]

theorem value_view_iff : ((Subject.headers thisYear).run (.first name) h).result ≠ .ok (.value .null) ↔
    ∃ v, h.first? name = some v ∧ v ≠ .null := by
  have result : ((Subject.headers thisYear).run (.first name) h).result =
      .ok (.value ((h.first? name).getD .null)) := rfl
  rw [result]
  cases h.first? name <;> simp

theorem texts_view_iff : ((Subject.headers thisYear).run (.texts name) h).result ≠ .ok (.list []) ↔
    h.valuesOf name ≠ [] := by
  rw [HeadersOp.result_of_read rfl, ne_eq, ne_eq, not_iff_not, map_eq_ok_iff]
  constructor
  · rintro ⟨ss, hss, hempty⟩
    obtain rfl : ss = [] := (Value.list.inj (Answer.value.inj hempty)).2
    exact List.forall₂_nil_right_iff.1 (mapM_eq_ok_iff.1 hss)
  · intro hvalues
    rw [hvalues]
    exact ⟨[], rfl, rfl⟩

theorem sent_view_iff (hk : h.IsKeyed) {items : List Item} (hitems : h.itemThings = .ok items) :
    (∃ l ∈ lines items, lowerCase l.1.content = lowerCase name) ↔ h.valuesOf name ≠ [] := by
  have each := mapM_eq_ok_iff.1 (hk.texts_of_lines hitems name)
  have alike : h.valuesOf name = [] ↔
      (lines items).filter (fun l => lowerCase l.1.content = lowerCase name) = [] := by
    constructor
    · intro hvalues
      rw [hvalues, List.forall₂_nil_left_iff, List.map_eq_nil_iff] at each
      exact each
    · intro hlines
      rw [hlines, List.map_nil, List.forall₂_nil_right_iff] at each
      exact each
  rw [ne_eq, alike, List.filter_eq_nil_iff]
  simp

theorem has_of_valuesOf (hvalues : h.valuesOf name ≠ []) : h.has name = true := by
  obtain ⟨v, hv⟩ := Option.ne_none_iff_exists'.1 (mt first?_eq_none_iff.1 hvalues)
  exact has_of_first? hv

/-- The views agree on a name exactly if the header, if there is one, has a first value that is not missing. -/
theorem viewsAgree_iff (hk : h.IsKeyed) : h.ViewsAgree thisYear name ↔
    (h.has name = true → ∃ v, h.first? name = some v ∧ v ≠ .null) := by
  constructor
  · intro agree hhas
    exact (value_view_iff thisYear).1 (agree.value.1 hhas)
  · intro hfirst
    have present : h.has name = true ↔ h.valuesOf name ≠ [] := by
      refine ⟨fun hhas => ?_, has_of_valuesOf⟩
      obtain ⟨v, hv, -⟩ := hfirst hhas
      rw [ne_eq, ← first?_eq_none_iff, hv]
      exact Option.some_ne_none v
    refine ⟨?_, ?_, ?_, ?_, fun answer hanswer => ?_⟩
    · rw [item_view_iff, present]
    · rw [text_view_iff, present]
    · rw [value_view_iff]
      refine ⟨hfirst, ?_⟩
      rintro ⟨v, hv, -⟩
      exact has_of_first? hv
    · rw [texts_view_iff, present]
    · obtain ⟨items, hitems⟩ := exists_of_result_pairs hanswer
      refine ⟨lines items, Except.ok.inj (hanswer.symm.trans (result_pairs thisYear hitems)), ?_⟩
      rw [sent_view_iff hk hitems, present]

/-! ## What is written -/

/-- There are values, and none of them is missing. -/
def ArePresent (vs : List Value) : Prop := vs ≠ [] ∧ .null ∉ vs

/-- The values of each header are present. -/
def AllPresent (h : Headers) : Prop := ∀ e ∈ h.entries, ArePresent e.2.values

theorem ArePresent.append {us vs : List Value} (hu : ArePresent us) (hv : ArePresent vs) :
    ArePresent (us ++ vs) :=
  ⟨List.append_ne_nil_of_left_ne_nil hu.1 vs, fun hmem => (List.mem_append.1 hmem).elim hu.2 hv.2⟩

theorem allPresent_empty : AllPresent .empty := fun _ he => absurd he List.not_mem_nil

theorem allPresent_put (hh : h.AllPresent) (name : String) {v : Value} (hv : ArePresent v.flatten)
    (replace : Bool) : (h.put name v replace).AllPresent := by
  intro e he
  cases hf : h.get? (lowerCase name) with
  | none =>
    rw [entries_put_of_none hf] at he
    rcases List.mem_append.1 he with he | he
    · exact hh e he
    · rw [List.mem_singleton.1 he]
      exact hv
  | some x =>
    rw [entries_put_of_some hf] at he
    obtain ⟨d, hd, rfl⟩ := List.mem_map.1 he
    split
    · cases replace with
      | true => exact hv
      | false => exact (hh d hd).append hv
    · exact hh d hd

theorem allPresent_remove (hh : h.AllPresent) (name : String) : (h.remove name).AllPresent :=
  fun e he => hh e (List.mem_filter.1 he).1

/-- An operation that writes present values only keeps the values of all headers present. -/
theorem allPresent_run {op : HeadersOp} (hop : op.isOnValues = false)
    (hw : ∀ v, op.written? = some v → v ≠ .null → ArePresent v.flatten) (hh : h.AllPresent) :
    ((Subject.headers thisYear).run op h).state.AllPresent := by
  cases he : op.event? with
  | none =>
    rw [HeadersOp.state_of_event?_eq_none thisYear hop he]
    exact hh
  | some e =>
    obtain ⟨name, v, replace, rfl, hs⟩ | ⟨name, -, hs⟩ | ⟨-, hs⟩ := HeadersOp.state_of_event? thisYear he h
    · obtain ⟨w, hwritten, hne, hflat⟩ := HeadersOp.exists_written_of_event? he
      rw [hs]
      exact allPresent_put hh name (hflat ▸ hw w hwritten hne) replace
    · rw [hs]
      exact allPresent_remove hh name
    · rw [hs]
      exact allPresent_empty

theorem allPresent_after {ops : List HeadersOp} (hops : ∀ op ∈ ops, op.isOnValues = false)
    (hw : ∀ op ∈ ops, ∀ v, op.written? = some v → v ≠ .null → ArePresent v.flatten) (hh : h.AllPresent) :
    ((Subject.headers thisYear).after ops h).AllPresent := by
  refine Subject.after_induction (R := fun g g' => g.AllPresent → g'.AllPresent) (fun _ => id)
    (fun _ _ _ hst htu => htu ∘ hst) (fun op hop g hg => ?_) h hh
  exact allPresent_run thisYear (hops op hop) (hw op hop) hg

theorem allPresent_ofPairs {pairs : List (String × Value)} {made : Headers}
    (hw : ∀ p ∈ pairs, p.2 ≠ .null → ArePresent p.2.flatten) (hmade : ofPairs pairs = .ok made) :
    made.AllPresent :=
  ofPairs_induction hmade allPresent_empty fun p hp hne _ hg => allPresent_put hg p.1 (hw p hp hne) false

/-! ## All views -/

theorem AllPresent.arePresent (hh : h.AllPresent) {vs : List Value} (hvs : h.values? name = some vs) :
    ArePresent vs := by
  obtain ⟨x, hx, rfl⟩ := Option.map_eq_some_iff.1 hvs
  obtain ⟨e, he, -, rfl⟩ := (OrderedMap.find?_eq_some_iff h.distinct).1 hx
  exact hh e he

theorem AllPresent.viewsAgree (hh : h.AllPresent) (hk : h.IsKeyed) (name : String) :
    h.ViewsAgree thisYear name := by
  refine (viewsAgree_iff thisYear hk).2 fun hhas => ?_
  rw [has_eq_isSome, Option.isSome_iff_exists] at hhas
  obtain ⟨vs, hvs⟩ := hhas
  obtain ⟨hne, hnull⟩ := hh.arePresent hvs
  have values : h.valuesOf name = vs := by
    rw [valuesOf, hvs]
    rfl
  obtain ⟨v, rest, rfl⟩ := List.exists_cons_of_ne_nil hne
  refine ⟨v, by rw [first?, values]; rfl, ?_⟩
  rintro rfl
  exact hnull List.mem_cons_self

theorem AllPresent.null_notMem_valuesOf (hh : h.AllPresent) (name : String) : .null ∉ h.valuesOf name := by
  unfold valuesOf
  cases hvs : h.values? name with
  | none => exact List.not_mem_nil
  | some vs => exact (hh.arePresent hvs).2

theorem IsKeyed.has_of_mem (hk : h.IsKeyed) {x : Header} (hx : x ∈ h.values) : h.has x.name.content = true := by
  obtain ⟨e, he, rfl⟩ := List.mem_map.1 hx
  have found : h.get? (lowerCase e.2.name.content) = some e.2 := hk.get?_eq_some_iff.2 ⟨⟨e, he, rfl⟩, rfl⟩
  exact Option.isSome_iff_exists.2 ⟨e.2, found⟩

/-- Headers are made of pairs, and any operations are done on them, those that fail included, in which only values
of which `P` holds are written: all views agree on all names, no value that is kept is missing, and to take the
text of a name that is listed does not fail for want of it. This is so for all such runs exactly if each value of
which `P` holds and that is not missing is neither an empty list nor one with a missing item. -/
theorem views_agree_iff_written_present (thisYear : Int) (P : Value → Prop) :
    (∀ pairs ops made, (∀ p ∈ pairs, P p.2) →
      (∀ op ∈ ops, op.isOnValues = false ∧ ∀ v, op.written? = some v → P v) → ofPairs pairs = .ok made →
        let h := (Subject.headers thisYear).after ops made
        (∀ name, h.ViewsAgree thisYear name) ∧ (∀ name, .null ∉ h.valuesOf name) ∧
        ∀ x ∈ h.values, ∀ fault,
          ((Subject.headers thisYear).run (.item x.name.content) h).result = .error fault → fault.kind ≠ .key) ↔
    ∀ v, P v → v ≠ .null → v.flatten ≠ [] ∧ .null ∉ v.flatten := by
  constructor
  · intro all v hv hne
    -- The header that is made of the value alone has its items as values.
    have made : ofPairs [("X", v)] = .ok (put .empty "X" v false) := by
      rw [ofPairs, List.foldlM_cons, add_eq_ok_iff.2 ⟨hne, rfl⟩]
      rfl
    obtain ⟨agree, null, -⟩ := all [("X", v)] [] _ (by simpa using hv) (by simp) made
    have values : values? (put .empty "X" v false) "X" = some v.flatten := by
      simp [values?, put, putAs, Thing.ofText]
    have listed : valuesOf (put .empty "X" v false) "X" = v.flatten := by
      rw [valuesOf, values]
      rfl
    have there : has (put .empty "X" v false) "X" = true := by
      rw [has_eq_isSome, values]
      rfl
    refine ⟨listed ▸ (texts_view_iff thisYear).1 ((agree "X").texts.1 there), listed ▸ null "X"⟩
  · intro present pairs ops made hpairs hops hmade h
    have reachable : h.IsReachable thisYear := (IsReachable.ofPairs hmade).after ops
    have keyed := reachable.isKeyed
    have allPresent : h.AllPresent :=
      allPresent_after thisYear (fun op hop => (hops op hop).1)
        (fun op hop v hv => present v ((hops op hop).2 v hv))
        (allPresent_ofPairs (fun p hp => present p.2 (hpairs p hp)) hmade)
    have agree (name : String) : h.ViewsAgree thisYear name := allPresent.viewsAgree thisYear keyed name
    exact ⟨agree, allPresent.null_notMem_valuesOf, fun x hx => (agree _).item.1 (keyed.has_of_mem hx)⟩

/-- A list with a missing item leaves a header whose value is missing although it has a text, an empty list one that
is listed and cannot be taken. -/
theorem views_disagree_after_lists :
    let h := (Subject.headers 2024).after [.set "X" (.ofList [.null]) true, .set "Y" (.ofList []) true] .empty
    (h.has "X" = true ∧ ((Subject.headers 2024).run (.first "X") h).result = .ok (.value .null) ∧
      ((Subject.headers 2024).run (.get "X" none) h).result = .ok (.value (.text .anew "None")) ∧
      .null ∈ h.valuesOf "X") ∧
    (h.has "Y" = true ∧ h.names = ["X", "Y"] ∧
      ((Subject.headers 2024).run (.item "Y") h).result = .error (.missing (.ofText "Y"))) ∧
    ¬ h.ViewsAgree 2024 "X" ∧ ¬ h.ViewsAgree 2024 "Y" := by
  intro h
  have first : ((Subject.headers 2024).run (.first "X") h).result = .ok (.value .null) := rfl
  have item : ((Subject.headers 2024).run (.item "Y") h).result = .error (.missing (.ofText "Y")) := rfl
  refine ⟨⟨rfl, first, rfl, List.mem_cons_self⟩, ⟨rfl, rfl, item⟩, fun agree => ?_, fun agree => ?_⟩
  · exact agree.value.1 rfl first
  · exact agree.item.1 rfl _ item rfl

end Headers

end HttpExchange
