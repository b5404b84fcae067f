import HttpExchange.Fault

/-!
# Actions

An action is an operation on a state. It gives a result or a fault, it may report events, and it leaves a
state behind in either case: an action that consists of several steps keeps the effects of those that
came before the fault. An *atomic* action is one that changes nothing when it fails.

## Main statements

* `atomic_state_of_error`: an atomic action that fails leaves the state as it was.
-/

namespace HttpExchange

/-- What an action leaves behind. -/
structure Outcome (σ ε α : Type) where
  /-- The state afterwards. -/
  state : σ
  /-- The events that were reported, in order. -/
  events : List ε
  /-- The result, or why there is none. -/
  result : Except Fault α

/-- An operation on states `σ` that reports events `ε` and gives a result `α`. -/
def Action (σ ε α : Type) : Type := σ → Outcome σ ε α

namespace Action

variable {σ τ ε δ α β : Type}

/-- The action that does nothing and gives `a`. -/
protected def pure (a : α) : Action σ ε α := fun s => ⟨s, [], .ok a⟩

/-- The action that does `x` and then, unless `x` fails, what `f` says. -/
protected def bind (x : Action σ ε α) (f : α → Action σ ε β) : Action σ ε β := fun s =>
  match x s with
  | ⟨s', events, .error fault⟩ => ⟨s', events, .error fault⟩
  | ⟨s', events, .ok a⟩ =>
    let o := f a s'
    ⟨o.state, events ++ o.events, o.result⟩

instance : Monad (Action σ ε) where
  pure := Action.pure
  bind := Action.bind

/-- Fails. -/
def fail (fault : Fault) : Action σ ε α := fun s => ⟨s, [], .error fault⟩

/-- Gives the state. -/
def get : Action σ ε σ := fun s => ⟨s, [], .ok s⟩

/-- Changes the state. -/
def modify (f : σ → σ) : Action σ ε Unit := fun s => ⟨f s, [], .ok ()⟩

/-- Reports an event. -/
def emit (event : ε) : Action σ ε Unit := fun s => ⟨s, [event], .ok ()⟩

/-- Gives what is read from the state; nothing changes. -/
def query (f : σ → Except Fault α) : Action σ ε α := fun s => ⟨s, [], f s⟩

/-- Changes the state unless `f` fails. -/
def atomic (f : σ → Except Fault (α × σ)) : Action σ ε α := fun s =>
  match f s with
  | .ok (a, s') => ⟨s', [], .ok a⟩
  | .error fault => ⟨s, [], .error fault⟩

/-- Changes the state unless `f` fails; there is no result. -/
def update (f : σ → Except Fault σ) : Action σ ε Unit := atomic fun s => (f s).map ((), ·)

/-- Does an action on a part of the state; `event` turns its events into events of the whole. -/
def within (part : σ → τ) (replace : σ → τ → σ) (event : δ → ε) (x : Action τ δ α) : Action σ ε α :=
  fun s =>
    let o := x (part s)
    ⟨replace s o.state, o.events.map event, o.result⟩

/-- Does an action and then another one even if the first fails; the fault of the first is kept. -/
def ensuring (x : Action σ ε α) (last : Action σ ε Unit) : Action σ ε α := fun s =>
  let o := x s
  let o' := last o.state
  ⟨o'.state, o.events ++ o'.events, match o.result, o'.result with
    | .error fault, _ => .error fault
    | .ok _, .error fault => .error fault
    | .ok a, .ok _ => .ok a⟩

/-- An atomic action that fails leaves the state as it was. -/
theorem atomic_state_of_error {f : σ → Except Fault (α × σ)} {s : σ} {fault : Fault}
    (h : (atomic f s : Outcome σ ε α).result = .error fault) :
    (atomic f s : Outcome σ ε α).state = s := by
  unfold atomic at h ⊢
  cases hf : f s with
  | ok r => simp [hf] at h
  | error e => simp

end Action

end HttpExchange
