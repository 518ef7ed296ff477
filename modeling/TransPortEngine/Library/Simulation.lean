import TransPortEngine.Library.Transition

/-!
# Simulations

A system simulates another one if each of its steps can be matched by some
steps of the other, starting from any state that represents it. Every run is
then matched by a run, and what holds of all states the upper system can reach
holds of what the lower system reaches.
-/

namespace Transition

/-- The steps of a system that meet a condition are matched by runs of a system
above it. A step may be matched by several steps, or by none. -/
structure Simulates
    (step : σ → ℓ → Option σ)
    (condition : σ → ℓ → Prop)
    (above : τ → κ → Option τ)
    (represents : σ → τ → Prop) : Prop where
  matched : ∀ state label next upper, represents state upper →
    condition state label → step state label = some next →
      ∃ moves upperNext, run above upper moves = some upperNext ∧
        represents next upperNext

namespace Simulates

variable {step : σ → ℓ → Option σ} {condition : σ → ℓ → Prop}
  {above : τ → κ → Option τ} {represents : σ → τ → Prop}

/-- A whole run is matched by a run of the system above. -/
theorem run_matched
    (simulates : Simulates step condition above represents)
    {labels : List ℓ}
    {state last : σ}
    {upper : τ}
    (represented : represents state upper)
    (throughout : Throughout step condition state labels)
    (reached : run step state labels = some last) :
    ∃ moves upperLast, run above upper moves = some upperLast ∧
      represents last upperLast := by
  induction labels generalizing state upper with
  | nil =>
      rw [run_nil, Option.some.injEq] at reached
      exact ⟨[], upper, rfl, reached ▸ represented⟩
  | cons label labels inductionHypothesis =>
      obtain ⟨next, stepped, reachedLater⟩ := run_cons reached
      obtain ⟨moves, upperNext, moved, representedNext⟩ :=
        simulates.matched state label next upper represented throughout.1 stepped
      obtain ⟨later, upperLast, movedLater, representedLast⟩ :=
        inductionHypothesis representedNext (throughout.2 next stepped)
          reachedLater
      refine ⟨moves ++ later, upperLast, ?_, representedLast⟩
      rw [run_append, moved]
      exact movedLater

/-- An invariant of the system above holds of a state that represents what has
been reached. -/
theorem invariant_of_run
    (simulates : Simulates step condition above represents)
    (invariant : τ → Prop)
    (preserved : ∀ upper move next, invariant upper →
      above upper move = some next → invariant next)
    {labels : List ℓ}
    {state last : σ}
    {upper : τ}
    (represented : represents state upper)
    (start : invariant upper)
    (throughout : Throughout step condition state labels)
    (reached : run step state labels = some last) :
    ∃ upperLast, invariant upperLast ∧ represents last upperLast := by
  obtain ⟨moves, upperLast, moved, representedLast⟩ :=
    simulates.run_matched represented throughout reached
  refine ⟨upperLast, ?_, representedLast⟩
  exact holds_of_run preserved start moved

end Simulates

end Transition
