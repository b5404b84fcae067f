import HttpExchange.Session
import Mathlib.Data.List.Forall2

/-!
# What actions do to the state

Two properties of an action that follow from those of its steps: which relation holds between the state
before it and the state after it, and whether it changes nothing when it fails. Runs of many operations
are related in the same way as their steps.

## Main statements

* `Action.Keeps.bind`, `Action.IsAtomic.bind_of_total`, `Action.IsAtomic.bind_of_still`: two steps one
  after the other.
* `Subject.Performs.keeps_of_op`: a step keeps what the operation keeps that it is.
* `Subject.after_induction`: what every operation keeps, a run keeps.
* `Subject.Reachable.after`: runs lead from reachable objects to reachable ones.
-/

namespace HttpExchange

theorem map_eq_ok_iff {ε α β : Type} {x : Except ε α} {f : α → β} {b : β} :
    x.map f = .ok b ↔ ∃ a, x = .ok a ∧ f a = b := by
  cases x <;> simp [Except.map]

theorem mapM_eq_ok_iff {ε α β : Type} {f : α → Except ε β} {xs : List α} {ys : List β} :
    xs.mapM f = .ok ys ↔ List.Forall₂ (fun x y => f x = .ok y) xs ys := by
  induction xs generalizing ys with
  | nil =>
    rw [List.forall₂_nil_left_iff]
    exact ⟨fun h => (Except.ok.inj h).symm, fun h => h ▸ rfl⟩
  | cons x rest ih =>
    rw [List.mapM_cons, List.forall₂_cons_left_iff]
    constructor
    · intro h
      cases hx : f x with
      | error e =>
        rw [hx] at h
        cases h
      | ok y =>
        cases hrest : rest.mapM f with
        | error e =>
          rw [hx, hrest] at h
          cases h
        | ok zs =>
          rw [hx, hrest] at h
          exact ⟨y, zs, rfl, ih.1 hrest, (Except.ok.inj h).symm⟩
    · rintro ⟨y, zs, hx, hrest, rfl⟩
      rw [hx, ih.2 hrest]
      rfl

theorem exists_mapM_eq_ok {ε α β : Type} {f : α → Except ε β} {xs : List α} (h : ∀ x ∈ xs, ∃ y, f x = .ok y) :
    ∃ ys, xs.mapM f = .ok ys := by
  induction xs with
  | nil => exact ⟨[], rfl⟩
  | cons x rest ih =>
    obtain ⟨⟨y, hy⟩, hrest⟩ := List.forall_mem_cons.1 h
    obtain ⟨ys, hys⟩ := ih hrest
    exact ⟨y :: ys, mapM_eq_ok_iff.2 (.cons hy (mapM_eq_ok_iff.1 hys))⟩

namespace Action

variable {σ τ ε δ α β : Type}

/-! ## Two steps -/

theorem bind_of_error {x : Action σ ε α} {f : α → Action σ ε β} {s : σ} {fault : Fault}
    (h : (x s).result = .error fault) :
    (x >>= f) s = ⟨(x s).state, (x s).events, .error fault⟩ := by
  change Action.bind x f s = _
  unfold Action.bind
  rcases hx : x s with ⟨t, events, cause | a⟩ <;> rw [hx] at h <;> cases h
  rfl

theorem bind_of_ok {x : Action σ ε α} {f : α → Action σ ε β} {s : σ} {a : α}
    (h : (x s).result = .ok a) :
    (x >>= f) s = ⟨(f a (x s).state).state, (x s).events ++ (f a (x s).state).events,
      (f a (x s).state).result⟩ := by
  change Action.bind x f s = _
  unfold Action.bind
  rcases hx : x s with ⟨t, events, cause | a⟩ <;> rw [hx] at h <;> cases h
  rfl

/-- Of the first of two steps only matters what it does in the state at hand. -/
theorem bind_congr {x y : Action σ ε α} {s : σ} (h : x s = y s) (f : α → Action σ ε β) :
    (x >>= f) s = (y >>= f) s := by
  change Action.bind x f s = Action.bind y f s
  unfold Action.bind
  rw [h]

theorem result_bind_eq_ok_iff {x : Action σ ε α} {f : α → Action σ ε β} {s : σ} {b : β} :
    ((x >>= f) s).result = .ok b ↔ ∃ a, (x s).result = .ok a ∧ (f a (x s).state).result = .ok b := by
  cases h : (x s).result with
  | error fault => simp [bind_of_error h]
  | ok a => simp [bind_of_ok h]

theorem update_bind_of_ok {f : σ → Except Fault σ} {s t : σ} (h : f s = .ok t)
    (g : Unit → Action σ ε β) : (update f >>= g) s = g () t := by
  have updated : (update f s : Outcome σ ε Unit) = ⟨t, [], .ok ()⟩ := by
    simp [update, atomic, h, Except.map]
  rw [bind_of_ok (by rw [updated]), updated]
  rfl

/-- What is made of the result of an action. -/
theorem bind_pure_of_eq {x : Action σ ε α} {s t : σ} {events : List ε} {o : Except Fault α}
    (h : x s = ⟨t, events, o⟩) (f : α → β) :
    (x >>= fun a => pure (f a) : Action σ ε β) s = ⟨t, events, o.map f⟩ := by
  cases o with
  | error fault =>
    rw [bind_of_error (by rw [h]), h]
    rfl
  | ok a =>
    rw [bind_of_ok (by rw [h]), h]
    simp [pure, Action.pure, Except.map]

theorem state_silently (x : Action σ ε Unit) (s : σ) : (silently x s).state = (x s).state := by
  unfold silently
  cases h : (x s).result with
  | error fault => rw [bind_of_error h]
  | ok a =>
    rw [bind_of_ok h]
    rfl

theorem result_silently {x : Action σ ε Unit} {s : σ} (h : (x s).result = .ok ()) :
    (silently x s).result = .ok .none := by
  unfold silently
  rw [bind_of_ok h]
  rfl

/-! ## Parts -/

theorem result_within_atomic {part : σ → τ} {replace : σ → τ → σ} {event : δ → ε}
    {f : τ → Except Fault (α × τ)} {s : σ} {a : α} {t : τ} (h : f (part s) = .ok (a, t)) :
    (within part replace event (atomic f) s).result = .ok a := by
  simp [within, atomic, h]

/-- What leaves a part as it is leaves the whole as it is. -/
theorem state_within {part : σ → τ} {replace : σ → τ → σ} {event : δ → ε} {x : Action τ δ α} {s : σ}
    (hx : (x (part s)).state = part s) (same : replace s (part s) = s) :
    (within part replace event x s).state = s := by
  change replace s (x (part s)).state = s
  rw [hx, same]

/-! ## Relations between states -/

/-- The states before and after an action stand in the relation `R`, whether it fails or not. -/
def Keeps (R : σ → σ → Prop) (x : Action σ ε α) : Prop := ∀ s, R s (x s).state

section Keeps

variable {R : σ → σ → Prop}

theorem keeps_modify {f : σ → σ} (h : ∀ s, R s (f s)) : Keeps R (modify f : Action σ ε Unit) := h

theorem keeps_pure (refl : ∀ s, R s s) (a : α) : Keeps R (pure a : Action σ ε α) := refl

theorem keeps_query (refl : ∀ s, R s s) (f : σ → Except Fault α) :
    Keeps R (query f : Action σ ε α) := refl

/-- A change that may be refused keeps what it keeps when it is made. -/
theorem keeps_atomic (refl : ∀ s, R s s) {f : σ → Except Fault (α × σ)}
    (h : ∀ s a s', f s = .ok (a, s') → R s s') : Keeps R (atomic f : Action σ ε α) := by
  intro s
  unfold atomic
  cases hf : f s with
  | error fault => exact refl s
  | ok r => exact h s r.1 r.2 hf

theorem keeps_update (refl : ∀ s, R s s) {f : σ → Except Fault σ} (h : ∀ s s', f s = .ok s' → R s s') :
    Keeps R (update f : Action σ ε Unit) := by
  refine keeps_atomic refl fun s a s' hs => ?_
  obtain ⟨t, ht, hst⟩ := map_eq_ok_iff.1 hs
  cases hst
  exact h s s' ht

theorem Keeps.bind (trans : ∀ s t u, R s t → R t u → R s u) {x : Action σ ε α}
    {f : α → Action σ ε β} (hx : Keeps R x) (hf : ∀ a, Keeps R (f a)) : Keeps R (x >>= f) := by
  intro s
  cases h : (x s).result with
  | error fault => rw [bind_of_error h]; exact hx s
  | ok a => rw [bind_of_ok h]; exact trans s _ _ (hx s) (hf a _)

theorem Keeps.silently {x : Action σ ε Unit} (hx : Keeps R x) : Keeps R x.silently := by
  intro s
  rw [state_silently]
  exact hx s

/-- An action on a part keeps what replacing the part keeps. -/
theorem keeps_within {part : σ → τ} {replace : σ → τ → σ} {event : δ → ε} {x : Action τ δ α}
    (h : ∀ s, R s (replace s (x (part s)).state)) : Keeps R (within part replace event x) := h

theorem Keeps.ensuring (trans : ∀ s t u, R s t → R t u → R s u) {x : Action σ ε α}
    {last : Action σ ε Unit} (hx : Keeps R x) (hlast : Keeps R last) : Keeps R (ensuring x last) :=
  fun s => trans s _ _ (hx s) (hlast _)

end Keeps

/-- What the second of two steps does to the state after the first one. -/
theorem state_bind {R : σ → σ → Prop} (refl : ∀ s, R s s) {x : Action σ ε α} {f : α → Action σ ε β} {s : σ}
    (hf : ∀ a, (x s).result = .ok a → R (x s).state (f a (x s).state).state) :
    R (x s).state ((x >>= f) s).state := by
  cases h : (x s).result with
  | error fault =>
    rw [bind_of_error h]
    exact refl _
  | ok a =>
    rw [bind_of_ok h]
    exact hf a h

/-! ## Events -/

/-- All events that an action reports have the property `P`. -/
def Emits (P : ε → Prop) (x : Action σ ε α) : Prop := ∀ s, ∀ e ∈ (x s).events, P e

theorem Emits.bind {P : ε → Prop} {x : Action σ ε α} {f : α → Action σ ε β} (hx : Emits P x)
    (hf : ∀ a, Emits P (f a)) : Emits P (x >>= f) := by
  intro s e he
  cases h : (x s).result with
  | error fault => rw [bind_of_error h] at he; exact hx s e he
  | ok a =>
    rw [bind_of_ok h] at he
    rcases List.mem_append.mp he with he | he
    · exact hx s e he
    · exact hf a _ e he

/-! ## Failures -/

/-- An action that changes nothing when it fails. -/
def IsAtomic (x : Action σ ε α) : Prop :=
  ∀ s fault, (x s).result = .error fault → (x s).state = s

theorem isAtomic_of_total {x : Action σ ε α} (h : ∀ s, ∃ a, (x s).result = .ok a) : IsAtomic x := by
  intro s fault hs
  obtain ⟨a, ha⟩ := h s
  rw [ha] at hs
  cases hs

theorem isAtomic_of_still {x : Action σ ε α} (h : ∀ s, (x s).state = s) : IsAtomic x :=
  fun s _ _ => h s

theorem isAtomic_pure (a : α) : IsAtomic (pure a : Action σ ε α) := fun _ _ _ => rfl

theorem isAtomic_fail (fault : Fault) : IsAtomic (fail fault : Action σ ε α) := fun _ _ _ => rfl

theorem isAtomic_query (f : σ → Except Fault α) : IsAtomic (query f : Action σ ε α) := fun _ _ _ => rfl

theorem isAtomic_modify (f : σ → σ) : IsAtomic (modify f : Action σ ε Unit) := by
  intro s fault h
  cases h

theorem isAtomic_atomic (f : σ → Except Fault (α × σ)) : IsAtomic (atomic f : Action σ ε α) :=
  fun _ _ => atomic_state_of_error

theorem isAtomic_update (f : σ → Except Fault σ) : IsAtomic (update f : Action σ ε Unit) :=
  isAtomic_atomic _

/-- A first step that changes nothing when it fails, and a second one that cannot fail. -/
theorem IsAtomic.bind_of_total {x : Action σ ε α} {f : α → Action σ ε β} (hx : IsAtomic x)
    (hf : ∀ a s, ∃ b, (f a s).result = .ok b) : IsAtomic (x >>= f) := by
  intro s fault h
  cases hs : (x s).result with
  | error cause => rw [bind_of_error hs]; exact hx s cause hs
  | ok a =>
    obtain ⟨b, hb⟩ := hf a (x s).state
    rw [bind_of_ok hs, hb] at h
    cases h

theorem IsAtomic.silently {x : Action σ ε Unit} (hx : IsAtomic x) : IsAtomic x.silently :=
  hx.bind_of_total fun _ _ => ⟨.none, rfl⟩

/-- A first step that never changes the state, and a second one that changes nothing when it fails. -/
theorem IsAtomic.bind_of_still {x : Action σ ε α} {f : α → Action σ ε β}
    (hx : ∀ s, (x s).state = s) (hf : ∀ a, IsAtomic (f a)) : IsAtomic (x >>= f) := by
  intro s fault h
  cases hs : (x s).result with
  | error cause => rw [bind_of_error hs]; exact hx s
  | ok a =>
    rw [bind_of_ok hs, hx] at h ⊢
    exact hf a s fault h

theorem IsAtomic.within {part : σ → τ} {replace : σ → τ → σ} {event : δ → ε} {x : Action τ δ α}
    (hx : IsAtomic x) (same : ∀ s, replace s (part s) = s) :
    IsAtomic (within part replace event x) := by
  intro s fault h
  change replace s (x (part s)).state = s
  rw [hx (part s) fault h, same]

end Action

/-! ## Runs -/

namespace Subject

variable {σ ω : Type}

/-- The object after some operations, whether they fail or not. -/
def after (subject : Subject σ ω) (ops : List ω) (s : σ) : σ :=
  ops.foldl (fun s op => (subject.run op s).state) s

theorem after_append (subject : Subject σ ω) (ops more : List ω) (s : σ) :
    subject.after (ops ++ more) s = subject.after more (subject.after ops s) :=
  List.foldl_append ..

/-- What the operations of a run leave behind, one after another. -/
def outcomes (subject : Subject σ ω) : List ω → σ → List (Outcome σ LogRecord Answer)
  | [], _ => []
  | op :: rest, s => subject.run op s :: subject.outcomes rest (subject.run op s).state

/-- What happens in a run, if each operation is an event or none. -/
def log {ε : Type} (subject : Subject σ ω) (event? : ω → σ → Option ε) : List ω → σ → List ε
  | [], _ => []
  | op :: rest, s => (event? op s).toList ++ subject.log event? rest (subject.run op s).state

/-- What each operation carries on from the events before it to those with its own, a run carries on. -/
theorem after_log_induction {ε : Type} {subject : Subject σ ω} {event? : ω → σ → Option ε}
    {P : List ε → σ → Prop} {ops : List ω}
    (h : ∀ op ∈ ops, ∀ log s, P log s → P (log ++ (event? op s).toList) (subject.run op s).state)
    {log : List ε} {s : σ} (hs : P log s) :
    P (log ++ subject.log event? ops s) (subject.after ops s) := by
  induction ops generalizing log s with
  | nil =>
    rw [Subject.log, List.append_nil]
    exact hs
  | cons op rest ih =>
    have next := ih (fun later hlater => h later (List.mem_cons_of_mem _ hlater))
      (h op List.mem_cons_self log s hs)
    rw [List.append_assoc] at next
    exact next

/-- The event of an operation is among those of the run, if it is one in every state. -/
theorem exists_mem_log {ε : Type} {subject : Subject σ ω} {event? : ω → σ → Option ε} {P : ε → Prop}
    {op : ω} (h : ∀ s, ∃ e, event? op s = some e ∧ P e) {ops : List ω} (hop : op ∈ ops) (s : σ) :
    ∃ e ∈ subject.log event? ops s, P e := by
  induction ops generalizing s with
  | nil => cases hop
  | cons first rest ih =>
    rw [Subject.log]
    rcases List.mem_cons.1 hop with rfl | hrest
    · obtain ⟨e, he, hP⟩ := h s
      exact ⟨e, List.mem_append_left _ (by simp [he]), hP⟩
    · obtain ⟨e, he, hP⟩ := ih hrest (subject.run first s).state
      exact ⟨e, List.mem_append_right _ he, hP⟩

/-- Each step does an operation, which is run as `run` says, or changes nothing. -/
structure Performs {ο : Type} (subject : Subject σ ω) (op? : ω → Option ο)
    (run : ο → Action σ LogRecord Answer) : Prop where
  run_of_op : ∀ {step op}, op? step = some op → subject.run step = run op
  state_of_op : ∀ {step}, op? step = none → ∀ s, (subject.run step s).state = s

/-- Operations are done directly or passed on by a view. -/
theorem Performs.of_passedOn {ο : Type} {subject : Subject σ (ο ⊕ ω)} {run : ο → Action σ LogRecord Answer}
    {op? : ο ⊕ ω → Option ο} (direct : ∀ op, op? (.inl op) = some op ∧ subject.run (.inl op) = run op)
    (run_of_passedOn : ∀ {step op}, op? (.inr step) = some op → subject.run (.inr step) = run op)
    (state_of_passedOn : ∀ {step}, op? (.inr step) = none → ∀ s, (subject.run (.inr step) s).state = s) :
    subject.Performs op? run where
  run_of_op {step op} h := by
    cases step with
    | inl o =>
      obtain rfl := Option.some.inj ((direct o).1.symm.trans h)
      exact (direct o).2
    | inr o => exact run_of_passedOn h
  state_of_op {step} h := by
    cases step with
    | inl o => cases (direct o).1.symm.trans h
    | inr o => exact state_of_passedOn h

/-- A step keeps what the operation keeps that it is. -/
theorem Performs.keeps_of_op {ο : Type} {subject : Subject σ ω} {op? : ω → Option ο}
    {run : ο → Action σ LogRecord Answer} (performs : subject.Performs op? run) {R : σ → σ → Prop}
    (refl : ∀ s, R s s) {step : ω} (h : ∀ op, op? step = some op → (run op).Keeps R) :
    (subject.run step).Keeps R := by
  cases hop : op? step with
  | none =>
    intro s
    rw [performs.state_of_op hop]
    exact refl s
  | some op =>
    rw [performs.run_of_op hop]
    exact h op hop

/-- What every operation of a run keeps, the run keeps. -/
theorem after_induction {subject : Subject σ ω} {R : σ → σ → Prop} (refl : ∀ s, R s s)
    (trans : ∀ s t u, R s t → R t u → R s u) {ops : List ω}
    (h : ∀ op ∈ ops, (subject.run op).Keeps R) (s : σ) : R s (subject.after ops s) := by
  induction ops generalizing s with
  | nil => exact refl s
  | cons op rest ih =>
    have first := h op List.mem_cons_self s
    exact trans s _ _ first (ih (fun op hop => h op (List.mem_cons_of_mem _ hop)) _)

/-- The objects that operations reach from those that are allowed as a start, whether they fail or not. -/
inductive Reachable (subject : Subject σ ω) (allowed : σ → Prop) : σ → Prop where
  | start {s : σ} (h : allowed s) : Reachable subject allowed s
  | step {s : σ} (op : ω) (h : Reachable subject allowed s) :
      Reachable subject allowed (subject.run op s).state

/-- What is reached by one operation is reached by many. -/
theorem Reachable.after {subject : Subject σ ω} {allowed : σ → Prop} {s : σ}
    (h : subject.Reachable allowed s) (ops : List ω) :
    subject.Reachable allowed (subject.after ops s) := by
  induction ops generalizing s with
  | nil => exact h
  | cons op rest ih => exact ih (h.step op)

end Subject

end HttpExchange
