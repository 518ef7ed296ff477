import Mathlib.Logic.Function.Basic
import Mathlib.Logic.Relation

/-!
# Locks, joins and waiting

Threads take and release locks in a nested way and wait for each other to end. A
table of owners agrees with what the threads hold as long as every step follows
its action on the locks. When waiting goes down in some rank there is no cycle
of waiting threads, and from every thread that is waited for a chain leads to
one that does not wait.
-/

namespace Locks

variable {κ τ : Type}

/-- What a step does to the locks. -/
inductive LockAct (κ : Type)
  | keep
  | acquire (lock : κ)
  | release (lock : κ)

/-- The owners after an action of a thread. A lock that has an owner cannot be
acquired, not even by that owner. -/
def LockAct.apply
    [DecidableEq κ]
    (owners : κ → Option τ)
    (thread : τ) : LockAct κ → Option (κ → Option τ)
  | .keep => some owners
  | .acquire lock =>
      if (owners lock).isNone then
        some (Function.update owners lock (some thread))
      else none
  | .release lock => some (Function.update owners lock none)

/-- How the locks a thread holds change with an action. The lock acquired last
is released first. -/
def LockAct.Follows : LockAct κ → List κ → List κ → Prop
  | .keep, before, after => after = before
  | .acquire lock, before, after => after = lock :: before
  | .release lock, before, after => before = lock :: after ∧ lock ∉ after

/-- The owner of a lock is the thread that holds it. -/
def Owned (owners : κ → Option τ) (held : τ → List κ) : Prop :=
  ∀ lock thread, owners lock = some thread ↔ lock ∈ held thread

/-- No two threads hold a lock. -/
theorem Owned.unique
    {owners : κ → Option τ}
    {held : τ → List κ}
    (owned : Owned owners held)
    {lock : κ}
    {first second : τ}
    (inFirst : lock ∈ held first)
    (inSecond : lock ∈ held second) :
    first = second := by
  have ownsFirst := (owned lock first).mpr inFirst
  have ownsSecond := (owned lock second).mpr inSecond
  rw [ownsFirst] at ownsSecond
  exact Option.some.inj ownsSecond

/-- A step of one thread that follows its action keeps the table of owners. -/
theorem Owned.apply
    [DecidableEq κ]
    {owners owners' : κ → Option τ}
    {held held' : τ → List κ}
    {thread : τ}
    {act : LockAct κ}
    (owned : Owned owners held)
    (applied : act.apply owners thread = some owners')
    (follows : act.Follows (held thread) (held' thread))
    (others : ∀ other, other ≠ thread → held' other = held other) :
    Owned owners' held' := by
  intro lock other
  cases act with
  | keep =>
      rw [← Option.some.inj applied, owned lock other]
      by_cases same : other = thread
      · rw [same, show held' thread = held thread from follows]
      · rw [others other same]
  | acquire taken =>
      simp only [LockAct.apply, Option.isNone_iff_eq_none] at applied
      split at applied
      · rename_i free
        rw [← Option.some.inj applied]
        have after : held' thread = taken :: held thread := follows
        by_cases isTaken : lock = taken
        · subst isTaken
          rw [Function.update_self, Option.some.injEq]
          constructor
          · rintro rfl
            rw [after]
            exact List.mem_cons_self
          · intro holds
            by_contra different
            rw [others other (Ne.symm different)] at holds
            have owner := (owned lock other).mpr holds
            rw [free] at owner
            contradiction
        · rw [Function.update_of_ne isTaken, owned lock other]
          by_cases same : other = thread
          · rw [same, after, List.mem_cons]
            exact ⟨Or.inr, fun member => member.resolve_left isTaken⟩
          · rw [others other same]
      · contradiction
  | release given =>
      rw [← Option.some.inj applied]
      obtain ⟨before, gone⟩ := follows
      by_cases isGiven : lock = given
      · subst isGiven
        rw [Function.update_self]
        refine ⟨fun impossible => by contradiction, fun holds => ?_⟩
        by_cases same : other = thread
        · rw [same] at holds
          exact absurd holds gone
        · rw [others other same] at holds
          have inThread : lock ∈ held thread := by
            rw [before]
            exact List.mem_cons_self
          exact absurd (owned.unique holds inThread) same
      · rw [Function.update_of_ne isGiven, owned lock other]
        by_cases same : other = thread
        · rw [same, before, List.mem_cons]
          exact ⟨fun member => member.resolve_left isGiven, Or.inr⟩
        · rw [others other same]

/-! ## Waiting -/

/-- What a thread needs for its next step. -/
inductive Want (κ τ : Type)
  | lock (lock : κ)
  | join (thread : τ)

/-- The locks, what every thread wants, and the threads that have ended. -/
structure Waiting (κ τ : Type) where
  owners : κ → Option τ
  wants : τ → Option (Want κ τ)
  Stopped : τ → Prop

namespace Waiting

/-- A thread wants a lock of another, or waits for its end. -/
def WaitsFor (waiting : Waiting κ τ) (thread other : τ) : Prop :=
  (∃ lock, waiting.wants thread = some (.lock lock) ∧
      waiting.owners lock = some other) ∨
    waiting.wants thread = some (.join other) ∧ ¬waiting.Stopped other

/-- A thread that holds a lock, or is being joined. -/
def Engaged (waiting : Waiting κ τ) (thread : τ) : Prop :=
  (∃ lock, waiting.owners lock = some thread) ∨
    ∃ other, waiting.wants other = some (.join thread) ∧ ¬waiting.Stopped thread

/-- No thread waits for itself, through however many others. -/
def Acyclic (waiting : Waiting κ τ) : Prop :=
  ∀ thread, ¬Relation.TransGen waiting.WaitsFor thread thread

variable {waiting : Waiting κ τ} {rank : τ → Nat}

/-- A thread that wants nothing waits for nobody. -/
theorem not_waitsFor_of_none
    {thread : τ}
    (none : waiting.wants thread = none)
    (other : τ) :
    ¬waiting.WaitsFor thread other := by
  rintro (⟨lock, wants, -⟩ | ⟨wants, -⟩)
  · exact absurd (none.symm.trans wants) (by simp)
  · exact absurd (none.symm.trans wants) (by simp)

/-- A thread that is waited for is engaged. -/
theorem WaitsFor.engaged
    {thread other : τ}
    (waits : waiting.WaitsFor thread other) :
    waiting.Engaged other := by
  rcases waits with ⟨lock, -, owner⟩ | ⟨wants, runs⟩
  · exact Or.inl ⟨lock, owner⟩
  · exact Or.inr ⟨thread, wants, runs⟩

/-- Waiting that goes down has no cycle. -/
theorem acyclic_of_rank
    (down : ∀ thread other, waiting.WaitsFor thread other →
      rank other < rank thread) :
    waiting.Acyclic := by
  intro thread cycle
  have below : ∀ other, Relation.TransGen waiting.WaitsFor thread other →
      rank other < rank thread := by
    intro other path
    induction path with
    | single waits => exact down _ _ waits
    | tail _ waits inductionHypothesis =>
        exact Nat.lt_trans (down _ _ waits) inductionHypothesis
  exact Nat.lt_irrefl _ (below thread cycle)

/-- Waiting that goes down ends at an engaged thread that waits for nobody. -/
theorem exists_engaged_unblocked
    (down : ∀ thread other, waiting.WaitsFor thread other →
      rank other < rank thread)
    {thread : τ}
    (engaged : waiting.Engaged thread) :
    ∃ other, waiting.Engaged other ∧ ∀ next, ¬waiting.WaitsFor other next := by
  induction least : rank thread using Nat.strongRecOn generalizing thread with
  | ind bound inductionHypothesis =>
      by_cases blocked : ∃ next, waiting.WaitsFor thread next
      · obtain ⟨next, waits⟩ := blocked
        exact inductionHypothesis _ (least ▸ down _ _ waits) waits.engaged rfl
      · exact ⟨thread, engaged, fun next waits => blocked ⟨next, waits⟩⟩

end Waiting

end Locks
