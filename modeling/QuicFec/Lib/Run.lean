import QuicFec.Lib.Go

/-! # Runs of a component

A component whose methods are `Call`s on its state, driven from outside by
events: `step e` is what event `e` does, and `enabled s e` says when `e` can
happen in state `s`.  A run is a sequence of enabled steps each of which ends
with a state, returning a value or an error; a step that panics ends the
program, and the run with it.

An invariant that holds at the start and that every enabled step keeps holds
all along the run (`Reaches.invariant`). -/
set_option autoImplicit false

namespace Go

variable {σ ε : Type} (step : ε → Call σ Unit) (enabled : σ → ε → Prop)

/-- The states a run of enabled steps goes through from a state. -/
inductive Reaches : σ → σ → Prop
  | refl (s : σ) : Reaches s s
  | step {s s' s'' : σ} (e : ε) (isEnabled : enabled s e) (returns : (step e s).state? = some s')
      (rest : Reaches s' s'') : Reaches s s''

namespace Reaches

variable {step enabled}

theorem invariant {inv : σ → Prop}
    (preserved : ∀ {s s' : σ} {e : ε}, inv s → enabled s e → (step e s).state? = some s' → inv s')
    {s s' : σ} (run : Reaches step enabled s s') (initial : inv s) : inv s' := by
  induction run with
  | refl => exact initial
  | step e isEnabled returns _ ih => exact ih (preserved initial isEnabled returns)

end Reaches

end Go
