import Mathlib.Logic.Function.Basic

/-!
# Runs of transition systems

A system is a partial step function on states and labels. A run follows a list
of labels. Conditions on steps can be required throughout a run, and an
invariant that is kept by the steps meeting a condition holds at the end of
every run that meets it throughout.
-/

namespace Transition

/-- Follow a list of labels; none when a step is not possible. -/
def run (step : σ → ℓ → Option σ) : σ → List ℓ → Option σ
  | state, [] => some state
  | state, label :: labels =>
      match step state label with
      | none => none
      | some next => run step next labels

/-- A condition on every step of a run. Nothing is asked after a step that is
not possible. -/
def Throughout
    (step : σ → ℓ → Option σ)
    (condition : σ → ℓ → Prop) : σ → List ℓ → Prop
  | _, [] => True
  | state, label :: labels =>
      condition state label ∧
        ∀ next, step state label = some next →
          Throughout step condition next labels

@[simp] theorem run_nil (step : σ → ℓ → Option σ) (state : σ) :
    run step state [] = some state := rfl

theorem run_cons_some
    {step : σ → ℓ → Option σ}
    {state next : σ}
    {label : ℓ}
    (stepped : step state label = some next)
    (labels : List ℓ) :
    run step state (label :: labels) = run step next labels := by
  rw [run, stepped]

/-- A condition throughout a run whose first step is known. -/
theorem throughout_cons
    {step : σ → ℓ → Option σ}
    {condition : σ → ℓ → Prop}
    {state next : σ}
    {label : ℓ}
    {labels : List ℓ}
    (stepped : step state label = some next)
    (holds : condition state label)
    (later : Throughout step condition next labels) :
    Throughout step condition state (label :: labels) := by
  refine ⟨holds, ?_⟩
  intro other steppedOther
  rw [stepped, Option.some.injEq] at steppedOther
  exact steppedOther ▸ later

/-- A condition that can be decided at every step can be decided throughout a
run. -/
instance decidableThroughout
    (step : σ → ℓ → Option σ)
    (condition : σ → ℓ → Prop)
    [∀ state label, Decidable (condition state label)] :
    ∀ (state : σ) (labels : List ℓ),
      Decidable (Throughout step condition state labels)
  | _, [] => isTrue trivial
  | state, label :: labels =>
      match stepped : step state label with
      | none =>
          decidable_of_iff (condition state label)
            ⟨fun holds => ⟨holds, fun _ other => by simp [stepped] at other⟩,
              fun throughout => throughout.1⟩
      | some next =>
          have := decidableThroughout step condition next labels
          decidable_of_iff
            (condition state label ∧ Throughout step condition next labels)
            ⟨fun holds => throughout_cons stepped holds.1 holds.2,
              fun throughout => ⟨throughout.1, throughout.2 next stepped⟩⟩

/-- A condition that holds of the labels in every state. -/
theorem throughout_of_forall
    {step : σ → ℓ → Option σ}
    {condition : σ → ℓ → Prop}
    {labels : List ℓ}
    {state : σ}
    (holds : ∀ state, ∀ label ∈ labels, condition state label) :
    Throughout step condition state labels := by
  induction labels generalizing state with
  | nil => trivial
  | cons label labels inductionHypothesis =>
      refine ⟨holds state label List.mem_cons_self, fun next _ => ?_⟩
      exact inductionHypothesis fun state other member =>
        holds state other (List.mem_cons_of_mem label member)

/-- Conditions that agree on every step agree on every run. -/
theorem throughout_congr
    {step : σ → ℓ → Option σ}
    {first second : σ → ℓ → Prop}
    (agree : ∀ state label, first state label ↔ second state label)
    (state : σ)
    (labels : List ℓ) :
    Throughout step first state labels ↔ Throughout step second state labels := by
  induction labels generalizing state with
  | nil => exact Iff.rfl
  | cons label labels inductionHypothesis =>
      exact and_congr (agree state label)
        (forall₂_congr fun next _ => inductionHypothesis next)

/-- Two conditions throughout a run. -/
theorem throughout_and
    {step : σ → ℓ → Option σ}
    {first second : σ → ℓ → Prop}
    {state : σ}
    {labels : List ℓ}
    (holdsFirst : Throughout step first state labels)
    (holdsSecond : Throughout step second state labels) :
    Throughout step (fun state label => first state label ∧ second state label)
      state labels := by
  induction labels generalizing state with
  | nil => trivial
  | cons label labels inductionHypothesis =>
      refine ⟨⟨holdsFirst.1, holdsSecond.1⟩, fun next stepped => ?_⟩
      exact inductionHypothesis (holdsFirst.2 next stepped)
        (holdsSecond.2 next stepped)

/-- A condition throughout two runs, one after the other. -/
theorem throughout_append
    {step : σ → ℓ → Option σ}
    {condition : σ → ℓ → Prop}
    {first second : List ℓ}
    {state : σ}
    (before : Throughout step condition state first)
    (after : ∀ last, run step state first = some last →
      Throughout step condition last second) :
    Throughout step condition state (first ++ second) := by
  induction first generalizing state with
  | nil => exact after state rfl
  | cons label labels inductionHypothesis =>
      refine ⟨before.1, fun next stepped => ?_⟩
      refine inductionHypothesis (before.2 next stepped) fun last reached => ?_
      exact after last ((run_cons_some stepped labels).trans reached)

/-- The first step of a run that reaches a state. -/
theorem run_cons
    {step : σ → ℓ → Option σ}
    {state last : σ}
    {label : ℓ}
    {labels : List ℓ}
    (reached : run step state (label :: labels) = some last) :
    ∃ next, step state label = some next ∧ run step next labels = some last := by
  rw [run] at reached
  split at reached
  · contradiction
  · rename_i next stepped
    exact ⟨next, stepped, reached⟩

theorem run_append
    (step : σ → ℓ → Option σ)
    (state : σ)
    (first second : List ℓ) :
    run step state (first ++ second) =
      (run step state first).bind fun middle => run step middle second := by
  induction first generalizing state with
  | nil => rfl
  | cons label labels inductionHypothesis =>
      rw [List.cons_append, run, run]
      cases step state label with
      | none => rfl
      | some next => exact inductionHypothesis next

/-- A condition throughout a run holds of the step behind any part of it. -/
theorem Throughout.last
    {step : σ → ℓ → Option σ}
    {condition : σ → ℓ → Prop}
    {state last : σ}
    {label : ℓ}
    (labels : List ℓ)
    (throughout : Throughout step condition state (labels ++ [label]))
    (reached : run step state labels = some last) :
    condition last label := by
  induction labels generalizing state with
  | nil =>
      rw [run_nil, Option.some.injEq] at reached
      exact reached ▸ throughout.1
  | cons first labels inductionHypothesis =>
      obtain ⟨next, stepped, reachedLater⟩ := run_cons reached
      exact inductionHypothesis (throughout.2 next stepped) reachedLater

/-- A state can be reached by steps that all meet a condition. -/
def Reaches
    (step : σ → ℓ → Option σ)
    (condition : σ → ℓ → Prop)
    (state last : σ) : Prop :=
  ∃ labels, Throughout step condition state labels ∧
    run step state labels = some last

section Reaches

variable {step : σ → ℓ → Option σ} {condition : σ → ℓ → Prop}

theorem Reaches.refl (state : σ) : Reaches step condition state state :=
  ⟨[], trivial, rfl⟩

/-- A first step. -/
theorem Reaches.head
    {state next last : σ}
    {label : ℓ}
    (stepped : step state label = some next)
    (holds : condition state label)
    (later : Reaches step condition next last) :
    Reaches step condition state last := by
  obtain ⟨labels, throughout, reached⟩ := later
  exact ⟨label :: labels, throughout_cons stepped holds throughout,
    (run_cons_some stepped labels).trans reached⟩

theorem Reaches.trans
    {state middle last : σ}
    (before : Reaches step condition state middle)
    (after : Reaches step condition middle last) :
    Reaches step condition state last := by
  obtain ⟨first, throughoutFirst, reachedMiddle⟩ := before
  obtain ⟨second, throughoutSecond, reachedLast⟩ := after
  refine ⟨first ++ second, throughout_append throughoutFirst ?_, ?_⟩
  · intro other reachedOther
    rw [reachedMiddle, Option.some.injEq] at reachedOther
    exact reachedOther ▸ throughoutSecond
  · rw [run_append, reachedMiddle]
    exact reachedLast

end Reaches

section Invariants

variable {step : σ → ℓ → Option σ} {condition : σ → ℓ → Prop}
  {invariant : σ → Prop}

/-- An invariant of the steps that meet a condition holds after every run whose
steps all meet it. -/
theorem invariant_of_run
    (preserved : ∀ state label next, invariant state → condition state label →
      step state label = some next → invariant next)
    {labels : List ℓ}
    {state last : σ}
    (start : invariant state)
    (throughout : Throughout step condition state labels)
    (reached : run step state labels = some last) :
    invariant last := by
  induction labels generalizing state with
  | nil =>
      rw [run_nil, Option.some.injEq] at reached
      exact reached ▸ start
  | cons label labels inductionHypothesis =>
      obtain ⟨next, stepped, reachedLater⟩ := run_cons reached
      exact inductionHypothesis
        (preserved state label next start throughout.1 stepped)
        (throughout.2 next stepped) reachedLater

/-- An invariant of all steps holds after every run. -/
theorem holds_of_run
    (preserved : ∀ state label next, invariant state →
      step state label = some next → invariant next)
    {labels : List ℓ}
    {state last : σ}
    (start : invariant state)
    (reached : run step state labels = some last) :
    invariant last := by
  have anywhere : Throughout step (fun _ _ => True) state labels :=
    throughout_of_forall fun _ _ _ => trivial
  apply invariant_of_run _ start anywhere reached
  intro state label next holds _ stepped
  exact preserved state label next holds stepped

/-- If an invariant makes every step safe that meets a condition, all steps of a
run that meets the condition are safe. -/
theorem throughout_of_invariant
    {safe : σ → ℓ → Prop}
    (preserved : ∀ state label next, invariant state → condition state label →
      step state label = some next → invariant next)
    (allows : ∀ state label, invariant state → condition state label →
      safe state label)
    {labels : List ℓ}
    {state : σ}
    (start : invariant state)
    (throughout : Throughout step condition state labels) :
    Throughout step safe state labels := by
  induction labels generalizing state with
  | nil => trivial
  | cons label labels inductionHypothesis =>
      refine ⟨allows state label start throughout.1, ?_⟩
      intro next stepped
      exact inductionHypothesis
        (preserved state label next start throughout.1 stepped)
        (throughout.2 next stepped)

/-- Where a step leads, a property holds. -/
def Leads
    (step : σ → ℓ → Option σ)
    (good : σ → Prop)
    (state : σ)
    (label : ℓ) : Prop :=
  ∀ next, step state label = some next → good next

/-- A step that is possible meets a condition. -/
def Meets
    (step : σ → ℓ → Option σ)
    (condition : σ → ℓ → Prop)
    (state : σ)
    (label : ℓ) : Prop :=
  ∀ next, step state label = some next → condition state label

/-- If the steps that keep a property are those that meet a condition, the
property holds after every step of a run exactly when all its steps meet the
condition. The invariant is needed only where the property holds. -/
theorem leads_throughout_iff
    {good : σ → Prop}
    (exact : ∀ state label next, invariant state → good state →
      step state label = some next → (good next ↔ condition state label))
    (preserved : ∀ state label next, invariant state → good state →
      step state label = some next → good next → invariant next)
    {state : σ}
    (start : invariant state)
    (holds : good state)
    (labels : List ℓ) :
    Throughout step (Leads step good) state labels ↔
      Throughout step (Meets step condition) state labels := by
  induction labels generalizing state with
  | nil => exact Iff.rfl
  | cons label labels inductionHypothesis =>
      have agree : Leads step good state label ↔
          Meets step condition state label :=
        forall₂_congr fun next stepped =>
          exact state label next start holds stepped
      have later : ∀ next, step state label = some next → good next →
          (Throughout step (Leads step good) next labels ↔
            Throughout step (Meets step condition) next labels) :=
        fun next stepped good => inductionHypothesis
          (preserved state label next start holds stepped good) good
      constructor
      · rintro ⟨leads, throughout⟩
        refine ⟨agree.mp leads, fun next stepped => ?_⟩
        exact (later next stepped (leads next stepped)).mp
          (throughout next stepped)
      · rintro ⟨meets, throughout⟩
        have leads := agree.mpr meets
        refine ⟨leads, fun next stepped => ?_⟩
        exact (later next stepped (leads next stepped)).mpr
          (throughout next stepped)

end Invariants

end Transition
