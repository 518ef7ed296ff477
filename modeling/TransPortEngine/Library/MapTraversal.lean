import Mathlib.Data.List.Sort
import Mathlib.Order.MinMax

/-!
# Loops over an ordered map that erase elements

An iterator of an ordered map is the key of an element, or the end. The body of a
loop gets the element its iterator denotes and returns the iterator it goes on
with, which it looks up before it erases anything. A body that goes on with the
next element and erases no other element than its own visits every key once, in
order, whatever it erases.
-/

namespace MapTraversal

variable {κ σ : Type*} [LinearOrder κ]

/-- The iterator to the first element. -/
def first (keys : List κ) : Option κ :=
  keys.min?

/-- The iterator behind an element. -/
def next (keys : List κ) (key : κ) : Option κ :=
  (keys.filter (key < ·)).min?

/-- A loop until its iterator is at the end, for a number of rounds; none when
the body faults. -/
def loop (body : σ → κ → Option (σ × Option κ)) :
    Nat → σ × Option κ → Option (σ × Option κ)
  | 0, place => some place
  | _ + 1, (state, none) => some (state, none)
  | fuel + 1, (state, some key) =>
      match body state key with
      | none => none
      | some place => loop body fuel place

omit [LinearOrder κ] in
theorem loop_end
    (body : σ → κ → Option (σ × Option κ))
    (fuel : Nat)
    (state : σ) :
    loop body fuel (state, none) = some (state, none) := by
  cases fuel <;> rfl

/-- The keys in the order of the map. -/
def sorted (keys : List κ) : List κ :=
  keys.insertionSort (· ≤ ·)

theorem length_sorted (keys : List κ) :
    (sorted keys).length = keys.length :=
  (keys.perm_insertionSort (· ≤ ·)).length_eq

@[simp] theorem mem_sorted {keys : List κ} {key : κ} :
    key ∈ sorted keys ↔ key ∈ keys :=
  (keys.perm_insertionSort (· ≤ ·)).mem_iff

theorem nodup_sorted {keys : List κ} (nodup : keys.Nodup) :
    (sorted keys).Nodup :=
  (keys.perm_insertionSort (· ≤ ·)).nodup_iff.mpr nodup

theorem pairwise_sorted {keys : List κ} (nodup : keys.Nodup) :
    (sorted keys).Pairwise (· < ·) := by
  have le := keys.pairwise_insertionSort (· ≤ ·)
  have ne := nodup_sorted nodup
  exact (le.and ne).imp fun both => lt_of_le_of_ne both.1 both.2

/-- The least of some keys is the first of an ordered list of them. -/
theorem min?_eq_head?
    {keys ordered : List κ}
    (pairwise : ordered.Pairwise (· < ·))
    (same : ∀ key, key ∈ keys ↔ key ∈ ordered) :
    keys.min? = ordered.head? := by
  cases ordered with
  | nil =>
      have empty : keys = [] :=
        List.eq_nil_iff_forall_not_mem.mpr fun key member =>
          List.not_mem_nil ((same key).mp member)
      rw [empty]
      rfl
  | cons least rest =>
      rw [List.head?_cons, List.min?_eq_some_iff]
      refine ⟨(same least).mpr List.mem_cons_self, ?_⟩
      intro key member
      rcases List.mem_cons.mp ((same key).mp member) with equal | later
      · exact equal.ge
      · exact (List.rel_of_pairwise_cons pairwise later).le

/-- The iterator moves along an ordered list of the keys that are left. -/
theorem next_eq_head?
    {keys rest : List κ}
    {key : κ}
    (pairwise : rest.Pairwise (· < ·))
    (left : ∀ other, other ∈ keys ∧ key < other ↔ other ∈ rest) :
    next keys key = rest.head? := by
  apply min?_eq_head? pairwise
  intro other
  rw [← left other, List.mem_filter, decide_eq_true_iff]

section Rule

variable {body : σ → κ → Option (σ × Option κ)}

/-- What a body keeps: from the keys visited and the keys left it moves on by one
key, goes on with the next element, and erases at most its own. -/
def Keeps
    (keys : σ → List κ)
    (body : σ → κ → Option (σ × Option κ))
    (invariant : List κ → List κ → σ → Prop) : Prop :=
  ∀ visited key rest state,
    invariant visited (key :: rest) state → key ∈ keys state →
      ∃ after, body state key = some (after, next (keys state) key) ∧
        invariant (visited ++ [key]) rest after ∧
        ∀ other, other ≠ key → (other ∈ keys after ↔ other ∈ keys state)

/-- The loop from a key on. -/
theorem loop_from
    {keys : σ → List κ}
    {invariant : List κ → List κ → σ → Prop}
    (keeps : Keeps keys body invariant)
    {visited left : List κ}
    {state : σ}
    {fuel : Nat}
    (pairwise : left.Pairwise (· < ·))
    (members : ∀ key ∈ left, key ∈ keys state)
    (behind : ∀ key rest, left = key :: rest →
      ∀ other, other ∈ keys state ∧ key < other ↔ other ∈ rest)
    (start : invariant visited left state)
    (enough : left.length ≤ fuel) :
    ∃ last, loop body fuel (state, left.head?) = some (last, none) ∧
      invariant (visited ++ left) [] last := by
  induction left generalizing visited state fuel with
  | nil =>
      refine ⟨state, loop_end body fuel state, ?_⟩
      rw [List.append_nil]
      exact start
  | cons key rest inductionHypothesis =>
      obtain ⟨after, isBody, moved, others⟩ :=
        keeps visited key rest state start (members key List.mem_cons_self)
      have later := List.pairwise_cons.mp pairwise
      have goesOn : next (keys state) key = rest.head? :=
        next_eq_head? later.2 (behind key rest rfl)
      have ne : ∀ other ∈ rest, other ≠ key :=
        fun other member => (later.1 other member).ne'
      have membersAfter : ∀ other ∈ rest, other ∈ keys after := by
        intro other member
        rw [others other (ne other member)]
        exact members other (List.mem_cons_of_mem key member)
      have behindAfter : ∀ second tail, rest = second :: tail →
          ∀ other, other ∈ keys after ∧ second < other ↔ other ∈ tail := by
        intro second tail isRest other
        subst isRest
        have secondLater := later.1 second List.mem_cons_self
        have old := behind key (second :: tail) rfl other
        constructor
        · rintro ⟨member, above⟩
          have different := (secondLater.trans above).ne'
          rw [others other different] at member
          have inRest := old.mp ⟨member, secondLater.trans above⟩
          exact (List.mem_cons.mp inRest).resolve_left above.ne'
        · intro member
          have inRest := List.mem_cons_of_mem second member
          exact ⟨membersAfter other inRest,
            List.rel_of_pairwise_cons later.2 member⟩
      obtain ⟨rounds, rfl⟩ := Nat.exists_eq_add_one_of_ne_zero
        (Nat.ne_of_gt (Nat.lt_of_lt_of_le (Nat.succ_pos rest.length) enough))
      obtain ⟨last, ended, holds⟩ := inductionHypothesis later.2 membersAfter
        behindAfter moved (Nat.le_of_succ_le_succ enough)
      refine ⟨last, ?_, ?_⟩
      · rw [List.head?_cons, loop, isBody]
        simp only
        rw [goesOn]
        exact ended
      · rw [List.append_assoc] at holds
        exact holds

/-- The loop from the first element visits the keys of the start in order and
comes to the end. -/
theorem loop_first
    {keys : σ → List κ}
    {invariant : List κ → List κ → σ → Prop}
    (keeps : Keeps keys body invariant)
    (state : σ)
    {fuel : Nat}
    (nodup : (keys state).Nodup)
    (start : invariant [] (sorted (keys state)) state)
    (enough : (keys state).length ≤ fuel) :
    ∃ last, loop body fuel (state, first (keys state)) = some (last, none) ∧
      invariant (sorted (keys state)) [] last := by
  have pairwise := pairwise_sorted nodup
  have isFirst : first (keys state) = (sorted (keys state)).head? :=
    min?_eq_head? pairwise fun key => mem_sorted.symm
  rw [isFirst]
  apply loop_from keeps pairwise (fun key => mem_sorted.mp) ?_ start
    ((length_sorted _).trans_le enough)
  intro key rest isSorted other
  have member : other ∈ sorted (keys state) ↔ other ∈ keys state := mem_sorted
  rw [isSorted] at member pairwise
  rw [← member, List.mem_cons]
  constructor
  · rintro ⟨equal | later, above⟩
    · exact absurd equal above.ne'
    · exact later
  · intro later
    exact ⟨Or.inr later, List.rel_of_pairwise_cons pairwise later⟩

end Rule

end MapTraversal
