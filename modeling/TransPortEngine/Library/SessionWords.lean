import TransPortEngine.Library.Transition

/-!
# Words of sessions

A word of sessions opens a session, carries items in it and closes it, any
number of times. A monitor reads words from left to right. When a system writes
a trace, and a monitor can follow each of its steps as long as the step meets a
condition, the monitor accepts the trace exactly of the runs that meet the
condition throughout.
-/

namespace Transition

section Monitors

variable {step : σ → ℓ → Option σ} {condition : σ → ℓ → Prop}
  {invariant : σ → Prop} {watch : τ → ε → Option τ} {view : σ → τ}

/-- A monitor that has followed the trace of a system so far, and follows the
steps that meet a condition and no others, gets to a state at the end of a run
exactly when the run meets the condition throughout and ends in that state. -/
theorem monitor_iff
    (trace : σ → List ε)
    (preserved : ∀ state label next, invariant state →
      step state label = some next → invariant next)
    (follows : ∀ state label next, invariant state →
      step state label = some next →
      ∃ written, trace next = trace state ++ written ∧
        (condition state label →
          run watch (view state) written = some (view next)) ∧
        (¬condition state label → run watch (view state) written = none))
    {labels : List ℓ}
    {state last : σ}
    {first final : τ}
    (start : invariant state)
    (followed : run watch first (trace state) = some (view state))
    (reached : run step state labels = some last) :
    run watch first (trace last) = some final ↔
      Throughout step condition state labels ∧ view last = final := by
  -- Once the monitor is stuck it stays stuck.
  have stuck : ∀ {labels : List ℓ} {state last : σ}, invariant state →
      run watch first (trace state) = none →
      run step state labels = some last →
      run watch first (trace last) = none := by
    intro labels
    induction labels with
    | nil =>
        intro state last _ isStuck reached
        exact Option.some.inj reached ▸ isStuck
    | cons label labels inductionHypothesis =>
        intro state last start isStuck reached
        obtain ⟨next, stepped, reachedLater⟩ := run_cons reached
        obtain ⟨written, traceEq, -, -⟩ := follows state label next start stepped
        refine inductionHypothesis (preserved state label next start stepped) ?_
          reachedLater
        rw [traceEq, run_append, isStuck]
        rfl
  induction labels generalizing state with
  | nil =>
      obtain rfl := Option.some.inj reached
      rw [followed, Option.some.injEq]
      exact (and_iff_right trivial).symm
  | cons label labels inductionHypothesis =>
      obtain ⟨next, stepped, reachedLater⟩ := run_cons reached
      obtain ⟨written, traceEq, follow, refuse⟩ :=
        follows state label next start stepped
      have startLater := preserved state label next start stepped
      have traced : run watch first (trace next) =
          run watch (view state) written := by
        rw [traceEq, run_append, followed]
        rfl
      by_cases meets : condition state label
      · have later := inductionHypothesis startLater
          (traced.trans (follow meets)) reachedLater
        exact later.trans (and_congr_left'
          ⟨fun others => throughout_cons stepped meets others,
            fun whole => whole.2 next stepped⟩)
      · have isStuck := stuck startLater (traced.trans (refuse meets)) reachedLater
        rw [isStuck]
        refine ⟨fun impossible => by contradiction, ?_⟩
        rintro ⟨whole, -⟩
        exact absurd whole.1 meets

end Monitors

end Transition

namespace SessionWords

open Transition

/-- What can happen to a session. -/
inductive Token
  | opens
  | item
  | closes
  deriving DecidableEq, Repr

/-- Words of complete sessions. -/
inductive Sessions : List Token → Prop
  | nil : Sessions []
  | session
      (items : Nat)
      {word : List Token}
      (later : Sessions word) :
      Sessions (.opens :: (List.replicate items .item ++ .closes :: word))

/-- The monitor knows whether a session is open. -/
def watch : Bool → Token → Option Bool
  | false, .opens => some true
  | true, .item => some true
  | true, .closes => some false
  | _, _ => none

/-- Items do not change the state of an open session. -/
theorem run_watch_items (items : Nat) (word : List Token) :
    run watch true (List.replicate items .item ++ word) =
      run watch true word := by
  induction items with
  | zero => rfl
  | succ items inductionHypothesis => exact inductionHypothesis

/-- What the monitor accepts is made of complete sessions, behind the rest of
the session that is open. -/
theorem sessions_of_run
    (word : List Token) :
    (run watch false word = some false → Sessions word) ∧
      (run watch true word = some false →
        ∃ items later, word = List.replicate items .item ++ .closes :: later ∧
          Sessions later) := by
  induction word with
  | nil => exact ⟨fun _ => .nil, fun impossible => by contradiction⟩
  | cons token word inductionHypothesis =>
      obtain ⟨closed, opened⟩ := inductionHypothesis
      cases token with
      | opens =>
          refine ⟨fun accepted => ?_, fun impossible => by contradiction⟩
          obtain ⟨items, later, rfl, sessions⟩ := opened accepted
          exact .session items sessions
      | item =>
          refine ⟨fun impossible => by contradiction, fun accepted => ?_⟩
          obtain ⟨items, later, rfl, sessions⟩ := opened accepted
          exact ⟨items + 1, later, rfl, sessions⟩
      | closes =>
          refine ⟨fun impossible => by contradiction, fun accepted => ?_⟩
          exact ⟨0, word, rfl, closed accepted⟩

/-- The monitor accepts the words of complete sessions. -/
theorem sessions_iff (word : List Token) :
    Sessions word ↔ run watch false word = some false := by
  refine ⟨fun sessions => ?_, (sessions_of_run word).1⟩
  induction sessions with
  | nil => rfl
  | session items later inductionHypothesis =>
      exact (run_watch_items items _).trans inductionHypothesis

end SessionWords
