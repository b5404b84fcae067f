import HttpExchange.Proofs.Effect

/-!
# Operations leave the configuration alone

Of all operations on a configuration in its environment, those that write change the environment or which
configuration is shared. The configuration that a request or a response was made of is therefore the one
that it has for good.

## Main statements

* `ConfigOp.keeps_sameConfig`: no operation changes the configuration.
* `ConfigOp.state_within`: nor whatever has it.
-/

namespace HttpExchange

def ConfigScene.SameConfig (s s' : ConfigScene) : Prop := s'.config = s.config

theorem ConfigScene.keeps_getShared {ε : Type} :
    (getShared : Action ConfigScene ε SharedConfig).Keeps SameConfig := by
  have refl (s : ConfigScene) : s.SameConfig s := rfl
  refine Action.keeps_atomic refl fun s c s' h => ?_
  split at h
  · cases h
    rfl
  · obtain ⟨built, -, hbuilt⟩ := map_eq_ok_iff.1 h
    cases hbuilt
    rfl

/-- Operations change what surrounds a configuration, never the configuration itself. -/
theorem ConfigOp.keeps_sameConfig {ε : Type} (op : ConfigOp) :
    (op.run : Action ConfigScene ε Answer).Keeps ConfigScene.SameConfig := by
  have trans (s t u : ConfigScene) (h : s.SameConfig t) (h' : t.SameConfig u) : s.SameConfig u :=
    Eq.trans h' h
  cases op with
  | isShared => exact ConfigScene.keeps_getShared.bind trans fun c => by cases c <;> exact fun _ => rfl
  | sharedLiteral =>
    exact ConfigScene.keeps_getShared.bind trans fun c => by cases c <;> exact fun _ => rfl
  | _ => exact fun _ => rfl

/-- So they leave whatever has the configuration as it is. -/
theorem ConfigOp.state_within {σ δ ε : Type} {config : σ → Config} {replace : σ → ConfigScene → σ}
    {event : δ → ε} {s : σ} (same : ∀ scene : ConfigScene, scene.config = config s → replace s scene = s)
    (op : ConfigOp) :
    (Action.within (fun s => ⟨.empty, config s, none⟩) replace event op.run s : Outcome σ ε Answer).state = s :=
  same _ (op.keeps_sameConfig _)

end HttpExchange
