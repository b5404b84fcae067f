import HttpExchange.Fault

/-!
# Kinds of faults

What fails may fail for many reasons, and callers rely on some of them only. That all faults are of expected kinds
is carried from the parts of a computation to the whole.

## Main statements

* `FailsIn.bind_iff`: of two steps, the second one counts where the first one succeeds.
-/

namespace HttpExchange

/-- A fault, if there is one, is of one of the given kinds. -/
def FailsIn {α : Type} (kinds : List FaultKind) (x : Except Fault α) : Prop :=
  ∀ fault, x = .error fault → fault.kind ∈ kinds

namespace FailsIn

variable {α β : Type} {kinds : List FaultKind}

@[simp]
theorem ok_iff (a : α) : FailsIn kinds (.ok a) ↔ True :=
  iff_true_intro fun _ h => by cases h

@[simp]
theorem error_iff (fault : Fault) : FailsIn kinds (.error fault : Except Fault α) ↔ fault.kind ∈ kinds := by
  constructor
  · intro h
    exact h fault rfl
  · intro hkind other hother
    cases hother
    exact hkind

@[simp]
theorem map_iff (f : α → β) (x : Except Fault α) : FailsIn kinds (x.map f) ↔ FailsIn kinds x := by
  cases x with
  | ok a => simp [Except.map]
  | error fault => simp [Except.map]

theorem bind_iff (x : Except Fault α) (f : α → Except Fault β) :
    FailsIn kinds (x >>= f) ↔ FailsIn kinds x ∧ ∀ a, x = .ok a → FailsIn kinds (f a) := by
  cases x with
  | error fault =>
    rw [error_iff]
    exact (error_iff fault).trans ⟨fun h => ⟨h, fun _ ha => by cases ha⟩, And.left⟩
  | ok a =>
    refine ⟨fun h => ⟨(ok_iff a).2 trivial, fun a' ha => ?_⟩, fun h => h.2 a rfl⟩
    cases ha
    exact h

end FailsIn

end HttpExchange
