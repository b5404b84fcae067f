import HttpExchange.Proofs.Header.Reachable

/-!
# Headers from what is sent

Headers are sent as a list of names and texts, one for each value. Whoever receives the list and makes headers
of it adds one text after another, so that texts of names that differ in case only come to one header. In the
list they stand together and under one spelling, since each header is found by its name, and therefore nothing
is lost, merged or moved: the list determines the headers but for those without values.

## Main statements

* `StoreLog.foldl_rowsAfter_writes`: rows come back when their values are written one by one.
* `Headers.IsKeyed.texts_of_items`: the texts of a name among those of all names.
* `Headers.IsKeyed.rebuilt`: the headers that are made of what is sent.
* `Headers.rebuilt_from_pairs`: how reachable headers and those made of their list agree.
-/

namespace HttpExchange

/-! ## Rows and writes -/

namespace StoreLog

variable {ι κ α : Type} [DecidableEq κ] {key : ι → κ}

theorem rowsAfter_last (rows : List (ι × List α)) {name : ι} (hnew : ∀ row ∈ rows, key row.1 ≠ key name)
    (present vs : List α) : rowsAfter key (rows ++ [(name, present)]) (.write name vs false) =
      rows ++ [(name, present ++ vs)] := by
  have others : rows.map (fun row => if key row.1 = key name then (row.1, row.2 ++ vs) else row) = rows := by
    refine List.map_congr_left (fun row hrow => ?_) |>.trans (List.map_id rows)
    rw [if_neg (hnew row hrow)]
    rfl
  simpa [rowsAfter] using others

/-- Values that are written one by one under a new name make one row. -/
theorem foldl_rowsAfter_row (rows : List (ι × List α)) {name : ι}
    (hnew : ∀ row ∈ rows, key row.1 ≠ key name) (vs : List α) :
    (vs.map fun v => StoreEvent.write name [v] false).foldl (rowsAfter key) rows =
      rows ++ [(name, vs)].filter fun row => !row.2.isEmpty := by
  -- The first value opens the row; it is the last one from then on, and the others go behind.
  have behind (vs present : List α) :
      (vs.map fun v => StoreEvent.write name [v] false).foldl (rowsAfter key) (rows ++ [(name, present)]) =
        rows ++ [(name, present ++ vs)] := by
    induction vs generalizing present with
    | nil => simp
    | cons v rest ih =>
      rw [List.map_cons, List.foldl_cons, rowsAfter_last rows hnew, ih]
      simp
  cases vs with
  | nil => simp
  | cons v rest =>
    have first : rowsAfter key rows (.write name [v] false) = rows ++ [(name, [v])] := by
      have absent : (rows.any fun row => key row.1 = key name) = false := by simpa using hnew
      rw [rowsAfter, absent]
      rfl
    rw [List.map_cons, List.foldl_cons, first, behind]
    rfl

/-- Rows of different names come back when their values are written one by one, except those without any. -/
theorem foldl_rowsAfter_writes (rows more : List (ι × List α))
    (hnodup : ((rows ++ more).map fun row => key row.1).Nodup) :
    (more.flatMap fun row => row.2.map fun v => StoreEvent.write row.1 [v] false).foldl (rowsAfter key) rows =
      rows ++ more.filter fun row => !row.2.isEmpty := by
  induction more generalizing rows with
  | nil => simp
  | cons row rest ih =>
    rw [List.flatMap_cons, List.foldl_append]
    have hnew : ∀ r ∈ rows, key r.1 ≠ key row.1 := by
      intro r hr heq
      rw [List.map_append, List.nodup_append] at hnodup
      exact hnodup.2.2 _ (List.mem_map_of_mem hr) _ (List.mem_map_of_mem List.mem_cons_self) heq
    rw [foldl_rowsAfter_row rows hnew, ih]
    · simp [List.filter_cons]
      split <;> simp
    · refine hnodup.sublist (List.Sublist.map _ ?_)
      rw [List.append_assoc]
      refine (List.Sublist.refl rows).append ?_
      have one : ([(row.1, row.2)].filter fun row => !row.2.isEmpty).Sublist [row] := List.filter_sublist
      exact one.append (List.Sublist.refl rest)

end StoreLog

/-! ## Texts of values -/

theorem mapM_map {ε α β γ : Type} (f : α → Except ε β) (g : β → γ) (xs : List α) :
    xs.mapM (fun x => (f x).map g) = (xs.mapM f).map (List.map g) := by
  induction xs with
  | nil => rfl
  | cons x rest ih =>
    rw [List.mapM_cons, List.mapM_cons, ih]
    cases f x with
    | error e => rfl
    | ok y => cases rest.mapM f <;> rfl

namespace Value

/-- The text of a header value, which is the value itself if this is a text. -/
def headerThing (v : Value) : Except Fault (Thing String) := v.headerText.map fun s => ⟨v.displayMark, s⟩

theorem headerTexts_eq (vs : List Value) :
    headerTexts vs = (vs.mapM headerThing).map (List.map Thing.content) := by
  have each : headerText = fun v => (headerThing v).map Thing.content := by
    funext v
    unfold headerThing
    cases v.headerText <;> rfl
  rw [headerTexts, each, mapM_map]

theorem headerTextValues_eq (vs : List Value) :
    headerTextValues vs = (vs.mapM headerThing).map (List.map Thing.text) := by
  have each : headerTextValue = fun v => (headerThing v).map Thing.text := by
    funext v
    unfold headerTextValue headerThing
    cases v.headerText <;> rfl
  rw [headerTextValues, each, mapM_map]

theorem headerTexts_map_text (ts : List (Thing String)) :
    headerTexts (ts.map Thing.text) = .ok (ts.map Thing.content) := by
  have each : headerText ∘ Thing.text = fun t => .ok t.content := rfl
  rw [headerTexts, List.mapM_map, each]
  exact List.mapM_pure

theorem headerTexts_append {us vs : List Value} {ss ts : List String} (hu : headerTexts us = .ok ss)
    (hv : headerTexts vs = .ok ts) : headerTexts (us ++ vs) = .ok (ss ++ ts) := by
  unfold headerTexts at *
  rw [List.mapM_append, hu, hv]
  rfl

end Value

namespace Headers

open OrderedMap

/-- A name with the texts of its values. -/
abbrev Item := Thing String × List (Thing String)

namespace Item

def contents (i : Item) : String × List String := (i.1.content, i.2.map Thing.content)

/-- The item as values are kept for it. -/
def row (i : Item) : String × List Value := (i.1.content, i.2.map Thing.text)

end Item

/-- What is sent: the name and the text of each value. -/
def lines (items : List Item) : List (Thing String × Thing String) :=
  items.flatMap fun i => i.2.map fun t => (i.1, t)

variable {h : Headers} {items : List Item}

/-! ## Items -/

/-- The items of the headers, if all values have texts. -/
def itemThings (h : Headers) : Except Fault (List Item) :=
  h.values.mapM fun header => (header.values.mapM Value.headerThing).map fun ts => (header.name, ts)

theorem items_eq_things (h : Headers) : h.items = h.itemThings.map (List.map Item.contents) := by
  unfold items itemThings
  rw [← mapM_map]
  congr 1
  funext header
  rw [Value.headerTexts_eq]
  cases header.values.mapM Value.headerThing <;> rfl

theorem itemValues_eq_things (h : Headers) :
    h.itemValues = h.itemThings.map (List.map fun i => (i.1.text, i.2.map Thing.text)) := by
  unfold itemValues itemThings
  rw [← mapM_map]
  congr 1
  funext header
  rw [Value.headerTextValues_eq]
  cases header.values.mapM Value.headerThing <;> rfl

theorem items_eq_rows (h : Headers) :
    h.items = h.rows.mapM fun row => (Value.headerTexts row.2).map fun ts => (row.1, ts) := by
  unfold items rows OrderedMap.values
  rw [List.mapM_map, List.mapM_map]
  rfl

theorem names_of_items (hitems : h.itemThings = .ok items) : items.map (·.1) = h.values.map (·.name) := by
  have each := mapM_eq_ok_iff.1 hitems
  clear hitems
  generalize h.values = headers at each
  induction each with
  | nil => rfl
  | cons hi _ ih =>
    obtain ⟨ts, -, rfl⟩ := map_eq_ok_iff.1 hi
    rw [List.map_cons, List.map_cons, ih]

/-- The values of a name are those of the rows with this name, of which there is at most one. -/
theorem IsKeyed.valuesOf_eq_rows (hk : h.IsKeyed) (name : String) :
    h.valuesOf name = (h.rows.filter fun row => lowerCase row.1 = lowerCase name).flatMap (·.2) := by
  have same : h.rows.filter (fun row => lowerCase row.1 = lowerCase name) =
      (h.entries.filter fun e => e.1 == lowerCase name).map fun e => (e.2.name.content, e.2.values) := by
    unfold rows
    rw [List.filter_map]
    congr 1
    refine List.filter_congr fun e he => ?_
    simp [hk e he, beq_eq_decide]
  have found := map_filter_eq_toList (k := lowerCase name) h.distinct
  rw [same, List.flatMap_map]
  have values : (h.entries.filter fun e => e.1 == lowerCase name).flatMap (fun e => e.2.values) =
      (h.get? (lowerCase name)).toList.flatMap Header.values := by
    unfold get?
    rw [← found, List.flatMap_map]
  refine Eq.trans ?_ values.symm
  unfold valuesOf values?
  cases h.get? (lowerCase name) <;> simp

/-- The texts of a name are those of the items with this name. -/
theorem IsKeyed.texts_of_items (hk : h.IsKeyed) {its : List (String × List String)} (hitems : h.items = .ok its)
    (name : String) :
    h.texts name = .ok ((its.filter fun i => lowerCase i.1 = lowerCase name).flatMap (·.2)) := by
  unfold texts
  rw [hk.valuesOf_eq_rows]
  rw [items_eq_rows] at hitems
  have each := mapM_eq_ok_iff.1 hitems
  clear hitems
  generalize h.rows = rows at each
  induction each with
  | nil => rfl
  | @cons row i rows its hrow _ ih =>
    obtain ⟨ts, hts, rfl⟩ := map_eq_ok_iff.1 hrow
    by_cases hname : lowerCase row.1 = lowerCase name
    · simpa [hname] using Value.headerTexts_append hts ih
    · simpa [hname] using ih

/-- So they are among the lines that are sent. -/
theorem IsKeyed.texts_of_lines (hk : h.IsKeyed) (hitems : h.itemThings = .ok items) (name : String) :
    h.texts name =
      .ok (((lines items).filter fun l => lowerCase l.1.content = lowerCase name).map (·.2.content)) := by
  have its : h.items = .ok (items.map Item.contents) := by
    rw [items_eq_things, hitems]
    rfl
  rw [hk.texts_of_items its name]
  congr 1
  clear hitems its
  induction items with
  | nil => rfl
  | cons i rest ih =>
    have whole : lines (i :: rest) = (i.2.map fun t => (i.1, t)) ++ lines rest := rfl
    rw [whole, List.filter_append, List.map_append, ← ih, List.map_cons, List.filter_cons]
    by_cases hname : lowerCase i.1.content = lowerCase name
    · simp [hname, Item.contents, List.filter_map, Function.comp_def]
    · simp [hname, Item.contents, List.filter_map, Function.comp_def]

/-! ## Headers that are made of what is sent -/

/-- What is sent, as it is given to make headers. -/
def given (items : List Item) : List (String × Value) := (lines items).map fun l => (l.1.content, l.2.text)

theorem given_ne_null : ∀ p ∈ given items, p.2 ≠ .null := by
  intro p hp
  obtain ⟨l, -, rfl⟩ := List.mem_map.1 hp
  exact Value.noConfusion

/-- What is sent is written value by value. -/
theorem events_of_given (items : List Item) :
    ((given items).map fun p => HeadersOp.add p.1 p.2).filterMap HeadersOp.event? =
      (items.map Item.row).flatMap fun row => row.2.map fun v => StoreEvent.write row.1 [v] false := by
  have one (p : Thing String × Thing String) : (HeadersOp.add p.1.content p.2.text).event? =
      some (.write p.1.content [p.2.text] false) := rfl
  unfold given lines
  rw [List.map_map, List.filterMap_map, List.flatMap_map]
  show (items.flatMap fun i => i.2.map fun t => (i.1, t)).filterMap
    (fun p => (HeadersOp.add p.1.content p.2.text).event?) = _
  simp only [one, List.filterMap_eq_map', List.map_flatMap, List.map_map, Item.row]
  rfl

theorem IsKeyed.rebuilt (thisYear : Int) (hk : h.IsKeyed) (hitems : h.itemThings = .ok items) :
    ∃ g, ofPairs (given items) = .ok g ∧ g.IsKeyed ∧
      g.items = .ok ((items.map Item.contents).filter fun i => !i.2.isEmpty) := by
  refine ⟨_, ofPairs_eq thisYear given_ne_null, ?_⟩
  have added : ∀ op ∈ (given items).map fun p => HeadersOp.add p.1 p.2, op.isOnValues = false := by
    intro op hop
    obtain ⟨p, -, rfl⟩ := List.mem_map.1 hop
    rfl
  -- What the new headers are is told by the log of what was added.
  have told := isTold_empty.after thisYear added
  rw [List.nil_append, events_of_given] at told
  refine ⟨told.keyed, ?_⟩
  have names : ((items.map Item.row).map fun row => lowerCase row.1) = h.keys := calc
    _ = (items.map (·.1)).map fun n => lowerCase n.content := by
      rw [List.map_map, List.map_map]
      rfl
    _ = h.names.map lowerCase := by
      rw [names_of_items hitems, Headers.names, List.map_map, List.map_map]
      rfl
    _ = h.keys := hk.keys_eq.symm
  have rows := told.rows_eq.trans (StoreLog.foldl_rowsAfter _).symm
  rw [StoreLog.foldl_rowsAfter_writes [] _ (by rw [List.nil_append, names]; exact nodup_keys h),
    List.nil_append, List.filter_map] at rows
  have each : (fun row : String × List Value => (Value.headerTexts row.2).map fun ts => (row.1, ts)) ∘ Item.row =
      fun i => .ok i.contents := by
    funext i
    show (Value.headerTexts (i.2.map Thing.text)).map (fun ts => (i.1.content, ts)) = _
    rw [Value.headerTexts_map_text]
    rfl
  rw [items_eq_rows, rows, List.mapM_map, each, List.filter_map]
  have nonempty : (fun i : String × List String => !i.2.isEmpty) ∘ Item.contents =
      (fun row : String × List Value => !row.2.isEmpty) ∘ Item.row := by
    funext i
    simp [Item.contents, Item.row]
  rw [nonempty]
  exact List.mapM_pure

/-- Items without texts are not sent. -/
theorem contents_of_lines (items : List Item) : (lines items).map (Prod.map Thing.content Thing.content) =
    ((items.map Item.contents).filter fun i => !i.2.isEmpty).flatMap fun i => i.2.map fun s => (i.1, s) := by
  induction items with
  | nil => rfl
  | cons i rest ih =>
    have whole : lines (i :: rest) = (i.2.map fun t => (i.1, t)) ++ lines rest := rfl
    have first : (i.2.map fun t => (i.1, t)).map (Prod.map Thing.content Thing.content) =
        i.contents.2.map fun s => (i.contents.1, s) := by
      simp [Item.contents]
    rw [whole, List.map_append, ih, first, List.map_cons, List.filter_cons]
    split
    · rfl
    · next hempty =>
      have none : i.contents.2 = [] := by simpa using hempty
      rw [none]
      rfl

/-- Nor do they matter when the texts of a name are looked for. -/
theorem flatMap_filter_nonempty (p : String × List String → Bool) (its : List (String × List String)) :
    ((its.filter fun i => !i.2.isEmpty).filter p).flatMap (·.2) = (its.filter p).flatMap (·.2) := by
  induction its with
  | nil => rfl
  | cons i rest ih =>
    obtain ⟨name, ts⟩ := i
    cases ts with
    | nil =>
      have dropped : ((name, ([] : List String)) :: rest).filter (fun i => !i.2.isEmpty) =
          rest.filter fun i => !i.2.isEmpty := rfl
      rw [dropped, ih, List.filter_cons]
      split <;> rfl
    | cons t ts =>
      have kept : ((name, t :: ts) :: rest).filter (fun i => !i.2.isEmpty) =
          (name, t :: ts) :: rest.filter fun i => !i.2.isEmpty := rfl
      rw [kept, List.filter_cons, List.filter_cons]
      split
      · rw [List.flatMap_cons, List.flatMap_cons, ih]
      · exact ih

/-! ## Answers -/

/-- Texts as they are answered. -/
def textsAnswer (ts : List (Thing String)) : Answer := .list (ts.map Thing.text)

def linesAnswer (ls : List (Thing String × Thing String)) : Answer :=
  .list (ls.map fun l => .ofTuple [l.1.text, l.2.text])

def itemsAnswer (items : List Item) : Answer :=
  .list (items.map fun i => .ofTuple [i.1.text, .ofList (i.2.map Thing.text)])

section Answers

variable (thisYear : Int)

theorem result_pairs (hitems : h.itemThings = .ok items) :
    ((Subject.headers thisYear).run .pairs h).result = .ok (linesAnswer (lines items)) := by
  have answer : (items.map fun i => (i.1.text, i.2.map Thing.text)).flatMap
      (fun i => i.2.map fun s => Value.ofTuple [i.1, s]) =
        (lines items).map fun l => .ofTuple [l.1.text, l.2.text] := by
    unfold lines
    rw [List.flatMap_map, List.map_flatMap]
    simp [Function.comp_def]
  rw [HeadersOp.result_of_read rfl, itemValues_eq_things, hitems]
  exact congrArg (fun ls => Except.ok (Answer.list ls)) answer

theorem exists_of_result_pairs {thisYear : Int} {answer : Answer}
    (hsent : ((Subject.headers thisYear).run .pairs h).result = .ok answer) :
    ∃ items, h.itemThings = .ok items := by
  rw [HeadersOp.result_of_read rfl, itemValues_eq_things] at hsent
  obtain ⟨_, hvalues, -⟩ := map_eq_ok_iff.1 hsent
  obtain ⟨items, hitems, -⟩ := map_eq_ok_iff.1 hvalues
  exact ⟨items, hitems⟩

theorem result_items (hitems : h.itemThings = .ok items) :
    ((Subject.headers thisYear).run .items h).result = .ok (itemsAnswer items) := by
  rw [HeadersOp.result_of_read rfl, itemValues_eq_things, hitems]
  simp [Except.map, itemsAnswer, Function.comp_def]

theorem result_names (hitems : h.itemThings = .ok items) :
    ((Subject.headers thisYear).run .names h).result = .ok (textsAnswer (items.map (·.1))) := by
  rw [names_of_items hitems]
  simp [Subject.headers, HeadersOp.run, Action.atomic, textsAnswer, Function.comp_def]

/-- What is answered to a question for the texts of a name. -/
theorem exists_of_texts {name : String} {ss : List String} (hs : h.texts name = .ok ss) :
    ∃ ts, ((Subject.headers thisYear).run (.texts name) h).result = .ok (textsAnswer ts) ∧
      ts.map Thing.content = ss := by
  unfold texts at hs
  rw [Value.headerTexts_eq] at hs
  obtain ⟨ts, hts, rfl⟩ := map_eq_ok_iff.1 hs
  refine ⟨ts, ?_, rfl⟩
  rw [HeadersOp.result_of_read rfl, Value.headerTextValues_eq, hts]
  rfl

end Answers

/-- Reachable headers whose list of names and texts is answered: the list has the texts of the items one after
another; headers can be made of it, and they answer the same list again, the same texts for each name, however
it is written, and the same names in the same order and spelling, but for headers without values. -/
theorem rebuilt_from_pairs (thisYear : Int) {h : Headers} (hr : h.IsReachable thisYear) {answer : Answer}
    (hsent : ((Subject.headers thisYear).run .pairs h).result = .ok answer) :
    ∃ items : List Item, answer = linesAnswer (lines items) ∧
      ((Subject.headers thisYear).run .items h).result = .ok (itemsAnswer items) ∧
      ∃ made, ofPairs ((lines items).map fun l => (l.1.content, l.2.text)) = .ok made ∧
        (∃ again, ((Subject.headers thisYear).run .pairs made).result = .ok (linesAnswer again) ∧
          again.map (Prod.map Thing.content Thing.content) =
            (lines items).map (Prod.map Thing.content Thing.content)) ∧
        (∀ name, ∃ ts ts', ((Subject.headers thisYear).run (.texts name) h).result = .ok (textsAnswer ts) ∧
          ((Subject.headers thisYear).run (.texts name) made).result = .ok (textsAnswer ts') ∧
          ts'.map Thing.content = ts.map Thing.content) ∧
        ∃ names, ((Subject.headers thisYear).run .names made).result = .ok (textsAnswer names) ∧
          names.map Thing.content = (items.filter fun i => !i.2.isEmpty).map (·.1.content) := by
  have keyed := hr.isKeyed
  obtain ⟨items, hitems⟩ := exists_of_result_pairs hsent
  have sent : answer = linesAnswer (lines items) :=
    Except.ok.inj (hsent.symm.trans (result_pairs thisYear hitems))
  obtain ⟨made, hmade, made_keyed, hmade_items⟩ := keyed.rebuilt thisYear hitems
  have made_things := hmade_items
  rw [items_eq_things] at made_things
  obtain ⟨again, hagain, contents⟩ := map_eq_ok_iff.1 made_things
  refine ⟨items, sent, result_items thisYear hitems, made, hmade,
    ⟨lines again, result_pairs thisYear hagain, ?_⟩, fun name => ?_,
    again.map (·.1), result_names thisYear hagain, ?_⟩
  · rw [contents_of_lines, contents_of_lines items, contents, List.filter_filter]
    simp
  · have its : h.items = .ok (items.map Item.contents) := by
      rw [items_eq_things, hitems]
      rfl
    obtain ⟨ts, hts, before⟩ := exists_of_texts thisYear (keyed.texts_of_items its name)
    obtain ⟨ts', hts', after⟩ := exists_of_texts thisYear (made_keyed.texts_of_items hmade_items name)
    refine ⟨ts, ts', hts, hts', ?_⟩
    rw [before, after, flatMap_filter_nonempty]
  · calc (again.map (·.1)).map Thing.content
      _ = (again.map Item.contents).map Prod.fst := by
        rw [List.map_map, List.map_map]
        rfl
      _ = (items.filter fun i => !i.2.isEmpty).map (·.1.content) := by
        rw [contents, List.filter_map, List.map_map]
        simp [Function.comp_def, Item.contents]

theorem itemsAnswer_injective : Function.Injective itemsAnswer := by
  intro is js h
  have lists := (Value.list.inj (Answer.value.inj h)).2
  refine List.map_injective_iff.2 (fun i j hij => ?_) lists
  obtain ⟨hname, hrest⟩ := List.cons.inj (Value.tuple.inj hij).2
  have texts := (Value.list.inj (List.cons.inj hrest).1).2
  have inj : Function.Injective Thing.text := by
    rintro ⟨m, s⟩ ⟨m', s'⟩ hab
    obtain ⟨rfl, rfl⟩ := Value.text.inj hab
    rfl
  exact Prod.ext (inj hname) (List.map_injective_iff.2 inj texts)

/-- A header without values is not sent, and values that were added in another case are sent with the others. -/
theorem rebuilt_from_pairs_without_values :
    let pairs : List (String × Value) :=
      [("Via", .ofText "a"), ("X-None", .ofList []), ("X-Count", .ofInt 2), ("VIA", .ofText "b")]
    let sent : List (String × Value) := [("Via", .ofText "a"), ("Via", .ofText "b"), ("X-Count", .text .anew "2")]
    ∃ h, ofPairs pairs = .ok h ∧
      ∃ made, ofPairs sent = .ok made ∧
        ∃ names, ((Subject.headers 2024).run .names made).result = .ok (textsAnswer names) ∧
          names.map Thing.content = ["Via", "X-Count"] := by
  intro pairs sent
  obtain ⟨h, hh⟩ : ∃ h, ofPairs pairs = .ok h := ⟨_, rfl⟩
  have things : h.itemThings = .ok [(⟨.own (.named "via"), "Via"⟩, [⟨.none, "a"⟩, ⟨.none, "b"⟩]),
      (⟨.own (.named "x-none"), "X-None"⟩, []), (⟨.own (.named "x-count"), "X-Count"⟩, [⟨.anew, "2"⟩])] := by
    obtain rfl := Except.ok.inj hh
    rfl
  obtain ⟨items, -, hitems, made, hmade, -, -, names⟩ :=
    rebuilt_from_pairs 2024 (.ofPairs hh) (result_pairs 2024 things)
  refine ⟨h, hh, ?_⟩
  obtain rfl := itemsAnswer_injective (Except.ok.inj (hitems.symm.trans (result_items 2024 things)))
  exact ⟨made, hmade, names⟩

end Headers

end HttpExchange
