/-!
# Loops

A loop that nothing bounds beforehand, as a relation between where it starts and what it ends with.
That it ends is that there is such a result. A round that would read beyond what there is has no
outcome, so a loop that ends has never done that.

* `Loop.Round`: a round goes on, or the loop is done;
* `Loop.Ends`, `Loop.Ends.iff`: the loop ends with a result, and with no other.
-/

namespace ModerationGateway.Loop

/-- What a round of a loop comes to. -/
inductive Round (σ ρ : Type) where
  | again (s : σ)
  | done (r : ρ)

/-- A loop ends with a result. -/
inductive Ends {σ ρ : Type} (round : σ → Option (Round σ ρ)) : σ → ρ → Prop where
  | done {s : σ} {r : ρ} (now : round s = some (.done r)) : Ends round s r
  | again {s s' : σ} {r : ρ} (now : round s = some (.again s')) (later : Ends round s' r) :
      Ends round s r

variable {σ ρ : Type} {round : σ → Option (Round σ ρ)} {s : σ} {r r' : ρ}

theorem Ends.unique (h : Ends round s r) (h' : Ends round s r') : r = r' := by
  induction h with
  | done now =>
    cases h' with
    | done now' => cases now.symm.trans now'; rfl
    | again now' _ => cases now.symm.trans now'
  | again now _ ih =>
    cases h' with
    | done now' => cases now.symm.trans now'
    | again now' later' => cases now.symm.trans now'; exact ih later'

theorem Ends.iff (h : Ends round s r) : Ends round s r' ↔ r' = r :=
  ⟨fun h' => h'.unique h, fun heq => heq ▸ h⟩

end ModerationGateway.Loop
