import TransPortEngine.Library.Heap
import TransPortEngine.Library.Ledger
import TransPortEngine.RecvCache

/-!
# The memory of a cache

What the entries of `m_RecvBufs` and the buffers around them do to the heap, for
sessions and clients alike. A piece that is kept has two blocks, its `BUFINFO_T`
and its bytes. When a header or body is complete the pieces are deleted, and the
buffer it was put together in is deleted as well or else forgotten.
-/

namespace TransPortEngine

open Memory

/-- `sizeof(BUFINFO_T)`. -/
def sizeofBufInfo : Nat := 16

/-- The blocks of an entry of `m_RecvBufs`. -/
structure BufBlocks where
  bufInfo : Block
  szBuf : Block
  deriving DecidableEq, Repr

/-- The blocks of a cache, in the order in which they are deleted. -/
def cacheBlocks (entries : List BufBlocks) : List Block :=
  entries.flatMap fun entry => [entry.szBuf, entry.bufInfo]

@[simp] theorem cacheBlocks_nil : cacheBlocks [] = [] := rfl

@[simp] theorem cacheBlocks_push
    (entries : List BufBlocks)
    (entry : BufBlocks) :
    cacheBlocks (entries ++ [entry]) =
      cacheBlocks entries ++ [entry.szBuf, entry.bufInfo] := by
  simp [cacheBlocks]

/-- The entries of `m_RecvBufs` and the heap they are allocated on. -/
structure CacheHeap where
  entries : List BufBlocks
  heap : Heap

namespace CacheHeap

/-- Keep a piece, with a NUL behind it. -/
def push (cache : CacheHeap) (nRet : Nat) : CacheHeap :=
  let pBufInfo := cache.heap.new sizeofBufInfo
  let szBuf := pBufInfo.2.new (nRet + 1)
  ⟨cache.entries ++ [⟨pBufInfo.1, szBuf.1⟩], szBuf.2⟩

/-- Delete some blocks, and the pieces. -/
def clear (cache : CacheHeap) (blocks : List Block) : Option CacheHeap :=
  (cache.heap.deleteAll (blocks ++ cacheBlocks cache.entries)).map fun heap =>
    ⟨[], heap⟩

/-- Allocate a buffer, and delete the pieces. -/
def assemble (cache : CacheHeap) (size : Nat) : Option CacheHeap :=
  let szBuf := cache.heap.new size
  (szBuf.2.deleteAll (cacheBlocks cache.entries)).map fun heap => ⟨[], heap⟩

/-- Allocate a buffer, delete the pieces and then the buffer. -/
def parse (cache : CacheHeap) (size : Nat) : Option CacheHeap :=
  let szBuf := cache.heap.new size
  (szBuf.2.deleteAll (cacheBlocks cache.entries ++ [szBuf.1])).map fun heap =>
    ⟨[], heap⟩

/-- Allocate a buffer and forget it. -/
def forget (cache : CacheHeap) (size : Nat) : CacheHeap :=
  { cache with heap := (cache.heap.new size).2 }

/-- Allocate a buffer and delete it, with no look at the pieces. -/
def borrow (cache : CacheHeap) (size : Nat) : Option CacheHeap :=
  let szBuf := cache.heap.new size
  (szBuf.2.delete szBuf.1).map fun heap => { cache with heap := heap }

/-- Allocated are the blocks of a cache with a buffer for each piece, the forgotten
blocks, which have the given sizes, and those of others. -/
structure Accounts
    (others : List Block)
    (sizes : List Nat)
    (recvBufs : List BufInfo)
    (cache : CacheHeap) : Prop where
  blocks : ∃ forgotten : List Block, forgotten.map Block.size = sizes ∧
    cache.heap.Holds (cacheBlocks cache.entries ++ (forgotten ++ others))
  pieces : cache.entries.map (fun entry => entry.szBuf.size) =
    recvBufs.map fun bufInfo => bufInfo.szBuf.length + 1

variable {others : List Block} {sizes : List Nat} {recvBufs : List BufInfo}
  {cache : CacheHeap}

/-- The same blocks in another order. -/
theorem holds_of_count
    {heap : Heap}
    {blocks rest : List Block}
    (holds : heap.Holds blocks)
    (same : ∀ block, blocks.count block = rest.count block) :
    heap.Holds rest :=
  holds.perm (List.perm_iff_count.mpr same)

theorem Accounts.push
    (accounts : cache.Accounts others sizes recvBufs)
    (szRecvBuf : List UInt8) :
    (cache.push szRecvBuf.length).Accounts others sizes
      (recvBufs ++ [⟨szRecvBuf⟩]) := by
  obtain ⟨⟨forgotten, isForgotten, holds⟩, pieces⟩ := accounts
  refine ⟨⟨forgotten, isForgotten, ?_⟩, ?_⟩
  · apply holds_of_count
      ((holds.new sizeofBufInfo).new (szRecvBuf.length + 1))
    intro block
    simp only [CacheHeap.push, cacheBlocks_push, List.count_append,
      List.count_cons, List.count_nil]
    omega
  · rw [CacheHeap.push, List.map_append, List.map_append, pieces]
    rfl

/-- Blocks of another owner are deleted together with the pieces. -/
theorem Accounts.clear
    {blocks rest : List Block}
    (accounts : cache.Accounts (blocks ++ rest) sizes recvBufs) :
    ∃ next, cache.clear blocks = some next ∧ next.Accounts rest sizes [] := by
  obtain ⟨⟨forgotten, isForgotten, holds⟩, -⟩ := accounts
  have arranged : cache.heap.Holds
      (blocks ++ cacheBlocks cache.entries ++ (forgotten ++ rest)) := by
    apply holds_of_count holds
    intro block
    simp only [List.count_append]
    omega
  obtain ⟨heap, deleted, left⟩ := arranged.deleteAll
  refine ⟨⟨[], heap⟩, congrArg (Option.map _) deleted, ?_, rfl⟩
  exact ⟨forgotten, isForgotten, left⟩

/-- The buffer of a complete body is forgotten. -/
theorem Accounts.assemble
    (accounts : cache.Accounts others sizes recvBufs)
    (size : Nat) :
    ∃ next, cache.assemble size = some next ∧
      next.Accounts others (sizes ++ [size]) [] := by
  obtain ⟨⟨forgotten, isForgotten, holds⟩, -⟩ := accounts
  let szBuf := (cache.heap.new size).1
  have arranged : (cache.heap.new size).2.Holds
      (cacheBlocks cache.entries ++ (forgotten ++ [szBuf] ++ others)) := by
    apply holds_of_count (holds.new size)
    intro block
    simp only [List.count_append, List.count_cons, List.count_nil, szBuf]
    omega
  obtain ⟨heap, deleted, left⟩ := arranged.deleteAll
  refine ⟨⟨[], heap⟩, congrArg (Option.map _) deleted, ?_, rfl⟩
  refine ⟨forgotten ++ [szBuf], ?_, left⟩
  rw [List.map_append, isForgotten]
  rfl

/-- The buffer of a complete header is deleted. -/
theorem Accounts.parse
    (accounts : cache.Accounts others sizes recvBufs)
    (size : Nat) :
    ∃ next, cache.parse size = some next ∧ next.Accounts others sizes [] := by
  obtain ⟨⟨forgotten, isForgotten, holds⟩, -⟩ := accounts
  let szBuf := (cache.heap.new size).1
  have arranged : (cache.heap.new size).2.Holds
      (cacheBlocks cache.entries ++ [szBuf] ++ (forgotten ++ others)) := by
    apply holds_of_count (holds.new size)
    intro block
    simp only [List.count_append, List.count_cons, List.count_nil, szBuf]
    omega
  obtain ⟨heap, deleted, left⟩ := arranged.deleteAll
  refine ⟨⟨[], heap⟩, congrArg (Option.map _) deleted, ?_, rfl⟩
  exact ⟨forgotten, isForgotten, left⟩

theorem Accounts.forget
    (accounts : cache.Accounts others sizes recvBufs)
    (size : Nat) :
    (cache.forget size).Accounts others (sizes ++ [size]) recvBufs := by
  obtain ⟨⟨forgotten, isForgotten, holds⟩, pieces⟩ := accounts
  let szBuf := (cache.heap.new size).1
  refine ⟨⟨forgotten ++ [szBuf], ?_, ?_⟩, pieces⟩
  · rw [List.map_append, isForgotten]
    rfl
  · apply holds_of_count (holds.new size)
    intro block
    simp only [CacheHeap.forget, List.count_append, List.count_cons,
      List.count_nil, szBuf]
    omega

theorem Accounts.borrow
    (accounts : cache.Accounts others sizes recvBufs)
    (size : Nat) :
    ∃ next, cache.borrow size = some next ∧
      next.Accounts others sizes recvBufs := by
  obtain ⟨⟨forgotten, isForgotten, holds⟩, pieces⟩ := accounts
  obtain ⟨heap, deleted, left⟩ := (holds.new size).delete
  refine ⟨{ cache with heap := heap }, congrArg (Option.map _) deleted, ?_, pieces⟩
  exact ⟨forgotten, isForgotten, left⟩

end CacheHeap

end TransPortEngine
