import Mathlib.Data.List.Nodup
import Mathlib.Data.List.Perm.Basic

/-!
# Allocated memory

A heap is the list of its allocated blocks. A new block has an address that was
never given out before, and only an allocated block can be deleted, so that
whoever deletes a block twice is caught. What a heap holds is stated up to the
order of the blocks: the owners of the blocks are then the parts of a list, and
an owner deletes its part without a look at the others.
-/

namespace Memory

/-- An allocated piece of memory. -/
structure Block where
  address : Nat
  size : Nat
  deriving DecidableEq, Repr

/-- The allocated blocks, and the next address to be given out. -/
structure Heap where
  live : List Block
  next : Nat
  below : ∀ block ∈ live, block.address < next
  distinct : (live.map Block.address).Nodup

namespace Heap

/-- Nothing is allocated. -/
def empty : Heap where
  live := []
  next := 0
  below _ impossible := absurd impossible List.not_mem_nil
  distinct := List.nodup_nil

/-- Allocate a block. -/
def new (heap : Heap) (size : Nat) : Block × Heap :=
  (⟨heap.next, size⟩, {
    live := ⟨heap.next, size⟩ :: heap.live
    next := heap.next + 1
    below := by
      intro block member
      rcases List.mem_cons.mp member with rfl | earlier
      · exact Nat.lt_succ_self heap.next
      · exact Nat.lt_succ_of_lt (heap.below block earlier)
    distinct := by
      rw [List.map_cons, List.nodup_cons]
      refine ⟨fun used => ?_, heap.distinct⟩
      obtain ⟨block, member, same⟩ := List.mem_map.mp used
      exact absurd (heap.below block member) (same ▸ Nat.lt_irrefl _) })

/-- Delete a block, if it is allocated. -/
def delete (heap : Heap) (block : Block) : Option Heap :=
  if block ∈ heap.live then
    some {
      live := heap.live.erase block
      next := heap.next
      below := fun other member =>
        heap.below other (List.mem_of_mem_erase member)
      distinct := heap.distinct.sublist (List.erase_sublist.map _) }
  else none

/-- Delete several blocks, one after the other. -/
def deleteAll (heap : Heap) : List Block → Option Heap
  | [] => some heap
  | block :: blocks =>
      match heap.delete block with
      | none => none
      | some next => next.deleteAll blocks

/-! ## The owners of the blocks -/

/-- The allocated blocks are the given ones. -/
def Holds (heap : Heap) (blocks : List Block) : Prop :=
  heap.live.Perm blocks

variable {heap : Heap} {block : Block} {blocks rest : List Block}

theorem Holds.perm
    (holds : heap.Holds blocks)
    (same : blocks.Perm rest) :
    heap.Holds rest :=
  List.Perm.trans holds same

/-- A new block belongs to whoever has allocated it. -/
theorem Holds.new (holds : heap.Holds blocks) (size : Nat) :
    (heap.new size).2.Holds ((heap.new size).1 :: blocks) :=
  List.Perm.cons _ holds

/-- An owner can delete its block. -/
theorem Holds.delete (holds : heap.Holds (block :: blocks)) :
    ∃ next, heap.delete block = some next ∧ next.Holds blocks := by
  have allocated : block ∈ heap.live :=
    holds.mem_iff.mpr List.mem_cons_self
  refine ⟨_, if_pos allocated, ?_⟩
  have erased := List.Perm.erase block holds
  rwa [List.erase_cons_head] at erased

/-- An owner can delete all of its blocks. -/
theorem Holds.deleteAll (holds : heap.Holds (blocks ++ rest)) :
    ∃ next, heap.deleteAll blocks = some next ∧ next.Holds rest := by
  induction blocks generalizing heap with
  | nil => exact ⟨heap, rfl, holds⟩
  | cons block blocks inductionHypothesis =>
      obtain ⟨middle, deleted, holdsMiddle⟩ := Holds.delete holds
      obtain ⟨next, deletedAll, holdsRest⟩ := inductionHypothesis holdsMiddle
      refine ⟨next, ?_, holdsRest⟩
      rw [Heap.deleteAll, deleted]
      exact deletedAll

end Heap

end Memory
