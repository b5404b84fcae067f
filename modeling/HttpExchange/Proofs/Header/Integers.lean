import HttpExchange.Proofs.Header.Wire
import HttpExchange.Proofs.Number.Exact

/-!
# Integers in headers

Integers are written to a header as integers or as floating-point numbers, each call over the present values or
behind them. They are read from the header as they are, and from what is sent by way of their decimal forms. Both
ways give the same integers.

## Main statements

* `Subject.holdsIntegers_after`: the integers that a header holds after some calls.
* `Headers.HoldsIntegers.answersIntegers`: what is read from headers, and from those that are made of what is sent.
* `Subject.integers_written_are_read`: both for headers by themselves and for those of a response.
-/

namespace HttpExchange

namespace Headers

variable {h : Headers} {name : String} {ns : List Int}

/-- What is found under a name after a write. -/
theorem valuesOf_put (h : Headers) (n name : String) (v : Value) (replace : Bool) :
    (h.put n v replace).valuesOf name =
      if lowerCase n = lowerCase name then combine replace (h.valuesOf name) v else h.valuesOf name := by
  split
  · next hname =>
    unfold valuesOf values? put putAs
    rw [← hname]
    dsimp only [Thing.ofText]
    cases h.get? (lowerCase n) with
    | none => cases replace <;> simp [combine]
    | some header => simp
  · next hname =>
    unfold valuesOf
    rw [values?_put_of_ne h hname]

/-- The values of the header are these integers. -/
def HoldsIntegers (h : Headers) (name : String) (ns : List Int) : Prop :=
  List.Forall₂ Value.IsInteger (h.valuesOf name) ns

/-! ## Calls that write integers -/

/-- The integers that are there after some were written over or behind those before. -/
def integersAfter (before : List Int) (written : Bool × List Int) : List Int :=
  if written.1 then written.2 else before ++ written.2

theorem holdsIntegers_put {n : String} {v : Value} {more : List Int} {replace : Bool}
    (hh : h.HoldsIntegers name ns ∨ replace = true) (hname : lowerCase n = lowerCase name)
    (hv : List.Forall₂ Value.IsInteger v.flatten more) :
    (h.put n v replace).HoldsIntegers name (integersAfter ns (replace, more)) := by
  unfold HoldsIntegers integersAfter
  rw [valuesOf_put, if_pos hname]
  cases replace with
  | false => exact List.rel_append (hh.resolve_right Bool.false_ne_true) hv
  | true => exact hv

end Headers

/-- The operation writes integers to the header, over the present values or behind them. -/
inductive HeadersOp.WritesIntegers (name : String) : HeadersOp → Bool × List Int → Prop where
  | set {n : String} {v : Value} {ns : List Int} (same : lowerCase n = lowerCase name)
      (each : List.Forall₂ Value.IsInteger v.flatten ns) (replace : Bool) :
      WritesIntegers name (.set n v replace) (replace, ns)
  | add {n : String} {v : Value} {ns : List Int} (same : lowerCase n = lowerCase name)
      (each : List.Forall₂ Value.IsInteger v.flatten ns) : WritesIntegers name (.add n v) (false, ns)

/-- The operation writes one integer, or it writes to the headers themselves. -/
inductive ResponseOp.WritesIntegers (name : String) : ResponseOp → Bool × List Int → Prop where
  | setInt {n : String} {v : Value} {k : Int} (same : lowerCase n = lowerCase name) (exact : v.IsInteger k) :
      WritesIntegers name (.setIntHeader n v) (true, [k])
  | addInt {n : String} {v : Value} {k : Int} (same : lowerCase n = lowerCase name) (exact : v.IsInteger k) :
      WritesIntegers name (.addIntHeader n v) (false, [k])
  | headers {op : HeadersOp} {written : Bool × List Int} (h : op.WritesIntegers name written) :
      WritesIntegers name (.headers op) written

/-- One integer is kept as an integer. -/
theorem Response.writeInteger_eq {v : Value} {k : Int} (exact : v.IsInteger k) (n : String) (replace : Bool) :
    ∃ m, ∀ r : Response, r.writeInteger n v replace = .ok { r with headers := r.headers.put n (.int m k) replace } := by
  obtain ⟨m, hm⟩ : ∃ m, (Value.int v.integerMark k).owned .header = .int m k := by
    unfold Value.owned
    split
    · exact ⟨_, rfl⟩
    · exact ⟨_, rfl⟩
  refine ⟨m, fun r => ?_⟩
  rw [writeInteger, exact.toInteger_eq, Except.map, hm]
  rfl

namespace Subject

open Headers

def ResponseStep.WritesIntegers (name : String) (step : ResponseStep) (written : Bool × List Int) : Prop :=
  ∃ op, step.op? = some op ∧ op.WritesIntegers name written

variable {σ ω : Type} {subject : Subject σ ω} {headersOf : σ → Headers} {name : String}

/-- The operation succeeds and puts integers to the header of that name. -/
def PutsIntegers (subject : Subject σ ω) (headersOf : σ → Headers) (name : String) (op : ω)
    (written : Bool × List Int) : Prop :=
  ∃ n v, lowerCase n = lowerCase name ∧ List.Forall₂ Value.IsInteger v.flatten written.2 ∧
    ∀ s, (subject.run op s).result = .ok .none ∧
      headersOf (subject.run op s).state = (headersOf s).put n v written.1

theorem putsIntegers_headers (thisYear : Int) {op : HeadersOp} {written : Bool × List Int}
    (h : op.WritesIntegers name written) : (headers thisYear).PutsIntegers id name op written := by
  cases h with
  | @set n v ns same each replace =>
    refine ⟨n, v, same, each, fun h => ?_⟩
    cases v with
    | null => cases each with | cons h _ => cases h
    | _ => exact ⟨rfl, rfl⟩
  | @add n v ns same each =>
    refine ⟨n, v, same, each, fun h => ?_⟩
    cases v with
    | null => cases each with | cons h _ => cases h
    | _ => exact ⟨rfl, rfl⟩

theorem putsIntegers_response (thisYear : Int) {step : ResponseStep} {written : Bool × List Int}
    (h : step.WritesIntegers name written) :
    (response thisYear).PutsIntegers Response.headers name step written := by
  obtain ⟨op, hop, hwrites⟩ := h
  unfold PutsIntegers
  rw [ResponseStep.performs.run_of_op hop]
  cases hwrites with
  | @setInt n v k same exact =>
    obtain ⟨m, written⟩ := Response.writeInteger_eq exact n true
    refine ⟨n, .int m k, same, .cons (.int m k exact.short) .nil, fun r => ?_⟩
    rw [ResponseOp.run, Action.silently, Action.update_bind_of_ok (written r)]
    exact ⟨rfl, rfl⟩
  | @addInt n v k same exact =>
    obtain ⟨m, written⟩ := Response.writeInteger_eq exact n false
    refine ⟨n, .int m k, same, .cons (.int m k exact.short) .nil, fun r => ?_⟩
    rw [ResponseOp.run, Action.silently, Action.update_bind_of_ok (written r)]
    exact ⟨rfl, rfl⟩
  | headers h =>
    obtain ⟨n, v, same, each, puts⟩ := putsIntegers_headers thisYear h
    exact ⟨n, v, same, each, fun r => puts r.headers⟩

/-- After some of these calls the header holds the integers that were written, if it held integers before or the
first call replaces what was there. -/
theorem holdsIntegers_after {ops : List ω} {ws : List (Bool × List Int)}
    (h : List.Forall₂ (subject.PutsIntegers headersOf name) ops ws) {s : σ} {before : List Int}
    (hs : (headersOf s).HoldsIntegers name before ∨ ∃ w ∈ ws.head?, w.1 = true) :
    (headersOf (subject.after ops s)).HoldsIntegers name (ws.foldl integersAfter before) := by
  induction h generalizing s before with
  | nil => exact hs.resolve_right fun ⟨w, hw, _⟩ => absurd hw (by simp)
  | @cons op w ops ws first _ ih =>
    obtain ⟨n, v, same, each, puts⟩ := first
    have start : (headersOf s).HoldsIntegers name before ∨ w.1 = true :=
      hs.imp_right fun ⟨w', hw', replaces⟩ => Option.some.inj hw' ▸ replaces
    have written := holdsIntegers_put start same each
    rw [← (puts s).2] at written
    exact ih (.inl written)

theorem result_of_puts {ops : List ω} {ws : List (Bool × List Int)}
    (h : List.Forall₂ (subject.PutsIntegers headersOf name) ops ws) (s : σ) :
    ∀ o ∈ subject.outcomes ops s, o.result = .ok .none := by
  induction h generalizing s with
  | nil => simp [outcomes]
  | @cons op w ops ws first _ ih =>
    obtain ⟨n, v, -, -, puts⟩ := first
    exact List.forall_mem_cons.2 ⟨(puts s).1, ih _⟩

end Subject

/-! ## Integers that are read -/

namespace Headers

variable {h : Headers} {name : String} {ns : List Int}

theorem integer_of_first? {v : Value} (hv : h.first? name = some v) (hne : v ≠ .null) :
    h.integer name = v.headerInteger name := by
  unfold integer
  rw [hv]
  cases v with
  | null => exact absurd rfl hne
  | _ => rfl

theorem HoldsIntegers.texts_eq (hh : h.HoldsIntegers name ns) : h.texts name = .ok (ns.map toString) := by
  refine mapM_eq_ok_iff.2 ?_
  rw [List.forall₂_map_right_iff]
  exact hh.imp fun _ _ hv => hv.headerText_eq

theorem HoldsIntegers.integer_eq (hh : h.HoldsIntegers name ns) : h.integer name = .ok (ns.headD (-1)) := by
  unfold HoldsIntegers at hh
  generalize hvalues : h.valuesOf name = vs at hh
  cases hh with
  | nil =>
    have absent : h.first? name = none := by rw [first?, hvalues]; rfl
    rw [integer, absent]
    rfl
  | @cons v n vs ns hv _ =>
    have first : h.first? name = some v := by rw [first?, hvalues]; rfl
    rw [integer_of_first? first hv.ne_null, hv.headerInteger_eq]
    rfl

/-- All that is needed of the values is that they are the decimal forms. -/
theorem integer_of_texts (hvalues : ∀ v ∈ h.valuesOf name, ∃ t : Thing String, v = t.text)
    (htexts : h.texts name = .ok (ns.map toString))
    (short : ∀ n ∈ ns, (Numeral.digits n.natAbs).length ≤ Numeral.maxDigits) :
    h.integer name = .ok (ns.headD (-1)) := by
  have each := mapM_eq_ok_iff.1 htexts
  rw [List.forall₂_map_right_iff] at each
  generalize hvs : h.valuesOf name = vs at each hvalues
  cases each with
  | nil =>
    have absent : h.first? name = none := by rw [first?, hvs]; rfl
    rw [integer, absent]
    rfl
  | @cons v n vs ns hv _ =>
    have first : h.first? name = some v := by rw [first?, hvs]; rfl
    obtain ⟨t, rfl⟩ := hvalues v List.mem_cons_self
    have content : t.content = toString n := Except.ok.inj hv
    rw [integer_of_first? first Value.noConfusion, Thing.text, content,
      Value.headerInteger_toString (short n List.mem_cons_self)]
    rfl

theorem HoldsIntegers.short (hh : h.HoldsIntegers name ns) :
    ∀ n ∈ ns, (Numeral.digits n.natAbs).length ≤ Numeral.maxDigits := by
  unfold HoldsIntegers at hh
  generalize h.valuesOf name = vs at hh
  induction hh with
  | nil => exact List.forall_mem_nil _
  | cons hv _ ih => exact List.forall_mem_cons.2 ⟨hv.short, ih⟩

/-! ## Headers that are made of what is sent -/

/-- Headers that are made of texts hold texts only. -/
theorem exists_text_of_ofPairs {pairs : List (String × Value)} {made : Headers} (hmade : ofPairs pairs = .ok made)
    (hpairs : ∀ p ∈ pairs, ∃ t : Thing String, p.2 = t.text) (name : String) :
    ∀ v ∈ made.valuesOf name, ∃ t : Thing String, v = t.text := by
  refine ofPairs_induction (R := fun g => ∀ v ∈ g.valuesOf name, ∃ t : Thing String, v = t.text) hmade
    (fun v hv => absurd hv List.not_mem_nil) fun p hp _ g hg v hv => ?_
  obtain ⟨t, ht⟩ := hpairs p hp
  rw [valuesOf_put, ht] at hv
  split at hv
  · rcases List.mem_append.1 hv with hv | hv
    · exact hg v hv
    · exact ⟨t, List.mem_singleton.1 hv⟩
  · exact hg v hv

/-- Each name has the same texts as before. -/
theorem IsKeyed.exists_rebuilt (hk : h.IsKeyed) {items : List Item} (hitems : h.itemThings = .ok items) :
    ∃ made, ofPairs (given items) = .ok made ∧ ∀ name, made.texts name = h.texts name := by
  obtain ⟨made, hmade, made_keyed, made_items⟩ := hk.rebuilt 0 hitems
  have its : h.items = .ok (items.map Item.contents) := by
    rw [items_eq_things, hitems]
    rfl
  refine ⟨made, hmade, fun name => ?_⟩
  rw [made_keyed.texts_of_items made_items name, hk.texts_of_items its name, flatMap_filter_nonempty]

/-- If the values of all other headers have texts, then so do all. -/
theorem HoldsIntegers.exists_items (hh : h.HoldsIntegers name ns) (hk : h.IsKeyed)
    (hothers : ∀ x ∈ h.others name, ∃ ss, Value.headerTexts x.values = .ok ss) :
    ∃ items, h.itemThings = .ok items := by
  refine exists_mapM_eq_ok fun x hx => ?_
  have texts : ∃ ss, Value.headerTexts x.values = .ok ss := by
    by_cases hname : lowerCase x.name.content = lowerCase name
    · obtain ⟨e, he, rfl⟩ := List.mem_map.1 hx
      have found : h.get? (lowerCase name) = some e.2 := hk.get?_eq_some_iff.2 ⟨⟨e, he, rfl⟩, hname⟩
      have values : h.valuesOf name = e.2.values := by rw [valuesOf, values?, found]; rfl
      have known : Value.headerTexts (h.valuesOf name) = .ok (ns.map toString) := hh.texts_eq
      rw [values] at known
      exact ⟨_, known⟩
    · exact hothers x (List.mem_filter.2 ⟨hx, by simpa using hname⟩)
  obtain ⟨ss, hss⟩ := texts
  rw [Value.headerTexts_eq] at hss
  obtain ⟨ts, hts, -⟩ := map_eq_ok_iff.1 hss
  exact ⟨_, map_eq_ok_iff.2 ⟨ts, hts, rfl⟩⟩

/-! ## Answers -/

/-- What callers are told of a header with these integers: the first of them, or minus one if there is none; the
decimal forms of all; and the first one again by headers that are made of what is sent, if all other headers can
be sent. -/
structure AnswersIntegers (thisYear : Int) (h : Headers) (name : String) (ns : List Int) : Prop where
  first : ∃ mark, ((Subject.headers thisYear).run (.integer name) h).result =
    .ok (.value (.int mark (ns.headD (-1))))
  texts : ∃ ts, ((Subject.headers thisYear).run (.texts name) h).result = .ok (textsAnswer ts) ∧
    ts.map Thing.content = ns.map toString
  again : (∀ x ∈ h.others name, ∃ ss, Value.headerTexts x.values = .ok ss) →
    ∃ sent made mark, ((Subject.headers thisYear).run .pairs h).result = .ok (linesAnswer sent) ∧
      ofPairs (sent.map fun l => (l.1.content, l.2.text)) = .ok made ∧
      ((Subject.headers thisYear).run (.integer name) made).result = .ok (.value (.int mark (ns.headD (-1))))

theorem result_integer (thisYear : Int) {n : Int} (hn : h.integer name = .ok n) :
    ∃ mark, ((Subject.headers thisYear).run (.integer name) h).result = .ok (.value (.int mark n)) := by
  refine ⟨h.integerMark name, ?_⟩
  rw [HeadersOp.result_of_read rfl, hn]
  rfl

theorem HoldsIntegers.answersIntegers (hh : h.HoldsIntegers name ns) (thisYear : Int) (hk : h.IsKeyed) :
    h.AnswersIntegers thisYear name ns where
  first := result_integer thisYear hh.integer_eq
  texts := exists_of_texts thisYear hh.texts_eq
  again hothers := by
    obtain ⟨items, hitems⟩ := hh.exists_items hk hothers
    obtain ⟨made, hmade, made_texts⟩ := hk.exists_rebuilt hitems
    have made_values := exists_text_of_ofPairs hmade
      (fun p hp => by obtain ⟨l, -, rfl⟩ := List.mem_map.1 hp; exact ⟨l.2, rfl⟩) name
    have read := integer_of_texts made_values ((made_texts name).trans hh.texts_eq) hh.short
    obtain ⟨mark, hmark⟩ := result_integer thisYear read
    exact ⟨lines items, made, mark, result_pairs thisYear hitems, hmade, hmark⟩

end Headers

namespace Subject

open Headers

/-- Integers that are written to a header, as integers or as floating-point numbers, are read from it, and from
headers that are made of what is sent, and their texts are the decimal forms. The header is one of headers by
themselves or of a response; it held integers before, or the first call replaces what was there. -/
theorem integers_written_are_read (thisYear : Int) (name : String) (ws : List (Bool × List Int)) (before : List Int) :
    (∀ h : Headers, h.IsReachable thisYear → h.HoldsIntegers name before ∨ (∃ w ∈ ws.head?, w.1 = true) →
      ∀ ops, List.Forall₂ (HeadersOp.WritesIntegers name) ops ws →
        (∀ o ∈ (headers thisYear).outcomes ops h, o.result = .ok .none) ∧
          ((headers thisYear).after ops h).AnswersIntegers thisYear name (ws.foldl integersAfter before)) ∧
    ∀ r : Response, Response.Reachable thisYear r →
      r.headers.HoldsIntegers name before ∨ (∃ w ∈ ws.head?, w.1 = true) →
      ∀ steps, List.Forall₂ (ResponseStep.WritesIntegers name) steps ws →
        (∀ o ∈ (response thisYear).outcomes steps r, o.result = .ok .none) ∧
          ((response thisYear).after steps r).headers.AnswersIntegers thisYear name
            (ws.foldl integersAfter before) := by
  constructor
  · intro h hr hstart ops hops
    have puts := hops.imp fun _ _ => putsIntegers_headers thisYear
    have held := holdsIntegers_after puts hstart
    exact ⟨result_of_puts puts h, held.answersIntegers thisYear (hr.after ops).isKeyed⟩
  · intro r hr hstart steps hsteps
    have puts := hsteps.imp fun _ _ => putsIntegers_response thisYear
    have held := holdsIntegers_after puts hstart
    have reachable := IsReachable.ofResponse (Subject.Reachable.after hr steps)
    exact ⟨result_of_puts puts r, held.answersIntegers thisYear reachable.isKeyed⟩

/-- A number that a floating-point text has in exponent form, behind a negative integer, with other spellings of the
name. -/
theorem integers_written_are_read_of_float :
    ∃ fresh, Response.new ⟨.empty⟩ = .ok fresh ∧
      let ten22 : Value := .float .none (.finite false 4768371582031250 21)
      let steps : List ResponseStep := [.inl (.setIntHeader "X-N" (.ofInt (-7))),
        .inl (.headers (.add "x-n" (.ofList [ten22, .ofInt 0])))]
      let h := ((response 2024).after steps fresh).headers
      h.AnswersIntegers 2024 "X-n" [-7, 10000000000000000000000, 0] ∧
        ∀ x ∈ h.others "X-n", ∃ ss, Value.headerTexts x.values = .ok ss := by
  obtain ⟨fresh, hfresh⟩ : ∃ r, Response.new ⟨.empty⟩ = .ok r := ⟨_, rfl⟩
  refine ⟨fresh, hfresh, ?_⟩
  intro ten22 steps h
  have exact22 : ten22.IsInteger 10000000000000000000000 :=
    .float _ ⟨by decide, by decide, by decide⟩ (congrArg some (by norm_num))
  have writes : List.Forall₂ (ResponseStep.WritesIntegers "X-n") steps
      [(true, [-7]), (false, [10000000000000000000000, 0])] := by
    have values : List.Forall₂ Value.IsInteger [ten22, .ofInt 0] [10000000000000000000000, 0] :=
      .cons exact22 (.cons (.int _ _ (by decide)) .nil)
    exact .cons ⟨_, rfl, .setInt (by decide) (.int _ _ (by decide))⟩
      (.cons ⟨_, rfl, .headers (.add (by decide) values)⟩ .nil)
  have answers := ((integers_written_are_read 2024 "X-n" _ []).2 fresh
    (.start ⟨_, hfresh⟩) (.inr ⟨_, rfl, rfl⟩) steps writes).2
  have alone : h.others "X-n" = [] := by
    cases hfresh
    decide +kernel
  exact ⟨answers, alone ▸ List.forall_mem_nil _⟩

end Subject

end HttpExchange
