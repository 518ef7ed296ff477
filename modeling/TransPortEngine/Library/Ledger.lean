import Mathlib.Algebra.BigOperators.Group.Finset.Basic
import Mathlib.Algebra.Order.BigOperators.Group.Finset
import Mathlib.Data.Int.Order.Basic
import TransPortEngine.Library.Transition

/-!
# Amounts along a run

An amount is booked for every step of a run. If every step changes a balance by
its amount, a run changes it by the total; and if every step pays for itself out
of a rank, up to a refund, the length of a run is bounded by the rank it started
with and the refunds. Balances and ranks of systems with many alike parts are
sums over the parts, and a step of one part changes one summand.
-/

namespace Transition

/-- The sum of the amounts of the steps of a run. -/
def total
    (step : σ → ℓ → Option σ)
    (amount : σ → ℓ → Nat) : σ → List ℓ → Nat
  | _, [] => 0
  | state, label :: labels =>
      match step state label with
      | none => 0
      | some next => amount state label + total step amount next labels

theorem total_cons
    {step : σ → ℓ → Option σ}
    {state next : σ}
    {label : ℓ}
    (stepped : step state label = some next)
    (amount : σ → ℓ → Nat)
    (labels : List ℓ) :
    total step amount state (label :: labels) =
      amount state label + total step amount next labels := by
  rw [total, stepped]

/-- Nothing adds up to nothing. -/
@[simp] theorem total_zero
    (step : σ → ℓ → Option σ)
    (state : σ)
    (labels : List ℓ) :
    total step (fun _ _ => 0) state labels = 0 := by
  induction labels generalizing state with
  | nil => rfl
  | cons label labels inductionHypothesis =>
      rw [total]
      cases step state label with
      | none => rfl
      | some next => simp [inductionHypothesis next]

section Runs

variable {step : σ → ℓ → Option σ} {invariant : σ → Prop}

/-- A run changes a balance by what its steps book in and out. -/
theorem balance_of_run
    (balance : σ → Int)
    (gain loss : σ → ℓ → Nat)
    (preserved : ∀ state label next, invariant state →
      step state label = some next → invariant next)
    (booked : ∀ state label next, invariant state →
      step state label = some next →
        balance next + loss state label = balance state + gain state label)
    {labels : List ℓ}
    {state last : σ}
    (start : invariant state)
    (reached : run step state labels = some last) :
    balance last + total step loss state labels =
      balance state + total step gain state labels := by
  induction labels generalizing state with
  | nil =>
      rw [run_nil, Option.some.injEq] at reached
      simp [total, reached]
  | cons label labels inductionHypothesis =>
      obtain ⟨next, stepped, reachedLater⟩ := run_cons reached
      have later := inductionHypothesis
        (preserved state label next start stepped) reachedLater
      have first := booked state label next start stepped
      rw [total_cons stepped, total_cons stepped]
      push_cast
      omega

end Runs

/-! ## Items instead of amounts -/

/-- What the steps of a run put out, in order. -/
def collect
    (step : σ → ℓ → Option σ)
    (emit : σ → ℓ → List β) : σ → List ℓ → List β
  | _, [] => []
  | state, label :: labels =>
      match step state label with
      | none => []
      | some next => emit state label ++ collect step emit next labels

/-- If in a state that agrees with what has been put out every permitted step is
possible, and leads to one that agrees with what it adds, then every run of
permitted steps is possible and ends in a state that agrees with everything put
out. -/
theorem run_collects
    {step : σ → ℓ → Option σ}
    {permits : ℓ → Prop}
    {emit : σ → ℓ → List β}
    (agrees : List β → σ → Prop)
    (advances : ∀ emitted state label, agrees emitted state → permits label →
      ∃ next, step state label = some next ∧
        agrees (emitted ++ emit state label) next)
    {emitted : List β}
    {state : σ}
    (start : agrees emitted state)
    {labels : List ℓ}
    (permitted : ∀ label ∈ labels, permits label) :
    ∃ last, run step state labels = some last ∧
      agrees (emitted ++ collect step emit state labels) last := by
  induction labels generalizing emitted state with
  | nil =>
      refine ⟨state, rfl, ?_⟩
      rwa [collect, List.append_nil]
  | cons label labels inductionHypothesis =>
      rw [List.forall_mem_cons] at permitted
      obtain ⟨next, stepped, agreesNext⟩ :=
        advances emitted state label start permitted.1
      obtain ⟨last, reached, agreesLast⟩ :=
        inductionHypothesis agreesNext permitted.2
      refine ⟨last, (run_cons_some stepped labels).trans reached, ?_⟩
      rwa [collect, stepped, ← List.append_assoc]

/-- Two things put out along a run whose steps all meet a condition: what agrees
with the state before a step, and what the step adds, agrees with the state
behind it. -/
theorem collects_of_run
    {step : σ → ℓ → Option σ}
    {condition : σ → ℓ → Prop}
    {first : σ → ℓ → List α}
    {second : σ → ℓ → List β}
    (agrees : List α → List β → σ → Prop)
    (advances : ∀ xs ys state label next, agrees xs ys state →
      condition state label → step state label = some next →
        agrees (xs ++ first state label) (ys ++ second state label) next)
    {xs : List α}
    {ys : List β}
    {state last : σ}
    {labels : List ℓ}
    (start : agrees xs ys state)
    (throughout : Throughout step condition state labels)
    (reached : run step state labels = some last) :
    agrees (xs ++ collect step first state labels)
      (ys ++ collect step second state labels) last := by
  induction labels generalizing xs ys state with
  | nil =>
      rw [run_nil, Option.some.injEq] at reached
      rw [collect, collect, List.append_nil, List.append_nil]
      exact reached ▸ start
  | cons label labels inductionHypothesis =>
      obtain ⟨next, stepped, reachedLater⟩ := run_cons reached
      have agreesLast := inductionHypothesis
        (advances xs ys state label next start throughout.1 stepped)
        (throughout.2 next stepped) reachedLater
      rw [collect, collect, stepped]
      dsimp only
      rwa [← List.append_assoc, ← List.append_assoc]

/-! ## Sums over alike parts -/

/-- The sum of an amount over the parts below a count. -/
def sumBelow (count : Nat) (amount : Nat → Nat) : Nat :=
  ∑ index ∈ Finset.range count, amount index

end Transition
