import TransPortEngine.Library.Ledger
import TransPortEngine.Library.SessionWords

/-!
# The life of one session

What a single session does is opened once, carries items and is closed once at
most. One monitor sees to it that the opening comes first and once, another one
that nothing comes behind the closing. They read what the steps of a run put out,
as long as an invariant lets them follow.
-/

namespace Transition

variable {step : σ → ℓ → Option σ} {emit : σ → ℓ → List ε}
  {condition : σ → ℓ → Prop} {watch : τ → ε → Option τ}

/-- If a monitor can follow every step that meets a condition, it accepts what a
run puts out whose steps all meet the condition. -/
theorem collect_monitored
    {invariant : τ → σ → Prop}
    (follows : ∀ view state label next, invariant view state →
      condition state label → step state label = some next →
      ∃ later, run watch view (emit state label) = some later ∧
        invariant later next)
    {view : τ}
    {state : σ}
    {labels : List ℓ}
    (start : invariant view state)
    (throughout : Throughout step condition state labels) :
    ∃ final, run watch view (collect step emit state labels) = some final := by
  induction labels generalizing view state with
  | nil => exact ⟨view, rfl⟩
  | cons label labels inductionHypothesis =>
      rw [collect]
      cases stepped : step state label with
      | none => exact ⟨view, rfl⟩
      | some next =>
          obtain ⟨later, followed, startLater⟩ :=
            follows view state label next start throughout.1 stepped
          obtain ⟨final, accepted⟩ :=
            inductionHypothesis startLater (throughout.2 next stepped)
          refine ⟨final, ?_⟩
          dsimp only
          rw [run_append, followed]
          exact accepted

end Transition

namespace SessionWords

open Transition

/-- Nothing happens, or the session is opened first, and only once. -/
inductive OpenedOnce : List Token → Prop
  | nil : OpenedOnce []
  | opened {word : List Token} (later : .opens ∉ word) :
      OpenedOnce (.opens :: word)

/-- The monitor knows whether the session has been opened. -/
def introduce : Bool → Token → Option Bool
  | false, .opens => some true
  | true, .item => some true
  | true, .closes => some true
  | _, _ => none

theorem not_mem_opens_of_run
    {word : List Token}
    {final : Bool}
    (accepted : run introduce true word = some final) :
    .opens ∉ word := by
  induction word with
  | nil => exact List.not_mem_nil
  | cons token word inductionHypothesis =>
      cases token with
      | opens => contradiction
      | item | closes =>
          intro member
          rcases List.mem_cons.mp member with impossible | later
          · contradiction
          · exact inductionHypothesis accepted later

/-- What the monitor accepts is opened once. -/
theorem openedOnce_of_run
    {word : List Token}
    {final : Bool}
    (accepted : run introduce false word = some final) :
    OpenedOnce word := by
  cases word with
  | nil => exact .nil
  | cons token word =>
      cases token with
      | opens => exact .opened (not_mem_opens_of_run accepted)
      | item | closes => contradiction

/-- What a session does from its beginning, as far as it has got. -/
inductive Life : List Token → Prop
  | unopened : Life []
  | opened (items : Nat) : Life (.opens :: List.replicate items .item)
  | closed (items : Nat) :
      Life (.opens :: (List.replicate items .item ++ [.closes]))

/-- The monitor knows whether the session has been closed. -/
def conclude : Bool → Token → Option Bool
  | false, .opens => some false
  | false, .item => some false
  | false, .closes => some true
  | true, _ => none

/-- Items behind the opening, and perhaps the closing. -/
theorem items_of_run
    {word : List Token}
    {final : Bool}
    (noOpens : .opens ∉ word)
    (accepted : run conclude false word = some final) :
    ∃ items, word = List.replicate items .item ∨
      word = List.replicate items .item ++ [.closes] := by
  induction word with
  | nil => exact ⟨0, Or.inl rfl⟩
  | cons token word inductionHypothesis =>
      have later : .opens ∉ word := fun member =>
        noOpens (List.mem_cons_of_mem _ member)
      cases token with
      | opens => exact absurd List.mem_cons_self noOpens
      | item =>
          obtain ⟨items, rfl | rfl⟩ := inductionHypothesis later accepted
          · exact ⟨items + 1, Or.inl rfl⟩
          · exact ⟨items + 1, Or.inr rfl⟩
      | closes =>
          cases word with
          | nil => exact ⟨0, Or.inr rfl⟩
          | cons token word => contradiction

/-- What is opened once and has nothing behind its closing is a life. -/
theorem life_of_run
    {word : List Token}
    {final : Bool}
    (once : OpenedOnce word)
    (accepted : run conclude false word = some final) :
    Life word := by
  cases once with
  | nil => exact .unopened
  | opened later =>
      obtain ⟨items, rfl | rfl⟩ := items_of_run later accepted
      · exact .opened items
      · exact .closed items

end SessionWords
