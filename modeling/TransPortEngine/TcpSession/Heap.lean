import TransPortEngine.CacheHeap
import TransPortEngine.TcpSession.Delivery
import TransPortEngine.TcpSession.Effects

/-!
# The memory of a session

What the functions of `CTcpSession` allocate and delete on Linux: the pieces of a
header or body that is not complete, the buffer in which it is put together, the
frame of a send, and the record of the five elements. Everything that is deleted
was allocated, and is deleted once. The buffers of complete bodies and those of
framed sends are never deleted.
-/

namespace TransPortEngine

open Memory Transition

/-- A session with the blocks its pointers point at. -/
structure SessionHeap where
  session : TcpSession
  cache : CacheHeap
  netFiveElement : Option Block

/-- A call of a function of a session. The length of a send is not negative: the
copy of the payload would take it for a huge one. -/
inductive SessionTurn
  | receive (turn : RecvTurn)
  | send (szData : List UInt8) (nDataLen : Nat) (outcomes : SendOutcomes)
  | fini
  | destruct

namespace SessionHeap

/-- Data read while a body is expected. The assembled body is not deleted. -/
def receiveBody (memory : SessionHeap) (nRet : Nat) : Option CacheHeap :=
  let core := memory.session.toSessionCore
  if core.missingBody = nRet then memory.cache.assemble core.bodyBufLen
  else if core.missingBody < nRet then some (memory.cache.push nRet)
  else some memory.cache

/-- Data read while a header is expected. -/
def receiveHead (memory : SessionHeap) (nRet : Nat) : Option CacheHeap :=
  let core := memory.session.toSessionCore
  if core.missingHead < nRet then some memory.cache
  else if nRet < core.missingHead then some (memory.cache.push nRet)
  else memory.cache.parse sizeofHeadMsg

/-- What one iteration of `TcpSession_IORecv()` does to the cache. -/
def receiveCache (memory : SessionHeap) (turn : RecvTurn) : Option CacheHeap :=
  match turn.read with
  | .data chunk =>
      if memory.session.bIsHaveHead then
        if memory.session.bIsRecvHead then memory.receiveBody chunk.bytes.length
        else memory.receiveHead chunk.bytes.length
      else some memory.cache
  | _ => some memory.cache

/-- One iteration of `TcpSession_IORecv()`. -/
def receive (memory : SessionHeap) (turn : RecvTurn) : Option SessionHeap :=
  (memory.receiveCache turn).map fun cache =>
    { memory with
      session := (memory.session.ioRecvPass turn).session
      cache := cache }

/-- `TcpSession_SendData`. The frame is not deleted. -/
def send
    (memory : SessionHeap)
    (szData : List UInt8)
    (nDataLen : Nat)
    (outcomes : SendOutcomes) : SessionHeap :=
  { memory with
    session := (memory.session.sendData szData nDataLen outcomes).session
    cache :=
      if memory.session.bIsHaveHead then
        memory.cache.forget (nDataLen + sizeofHeadMsg)
      else memory.cache }

/-- What `TcpSession_Fini` and the destructor delete. -/
def release
    (memory : SessionHeap)
    (session : TcpSession) : Option SessionHeap :=
  (memory.cache.clear memory.netFiveElement.toList).map fun cache =>
    ⟨session, cache, none⟩

/-- A call of a function of a session. -/
def step (memory : SessionHeap) : SessionTurn → Option SessionHeap
  | .receive turn => memory.receive turn
  | .send szData nDataLen outcomes =>
      some (memory.send szData nDataLen outcomes)
  | .fini => memory.release memory.session.fini.1
  | .destruct => memory.release memory.session.delete.1

/-- The sizes of the blocks a call allocates and forgets. -/
def forgets (memory : SessionHeap) : SessionTurn → List Nat
  | .receive turn =>
      if memory.session.bIsHaveHead ∧ memory.session.bIsRecvHead ∧
          turn.bytes ≠ [] ∧
            memory.session.toSessionCore.missingBody = turn.bytes.length then
        [memory.session.toSessionCore.bodyBufLen]
      else []
  | .send _ nDataLen _ =>
      if memory.session.bIsHaveHead then [nDataLen + sizeofHeadMsg] else []
  | .fini => []
  | .destruct => []

/-! ## What is held -/

/-- Allocated are the blocks the session points at, the forgotten ones, which have
the given sizes, and those of others. -/
def Accounts
    (others : List Block)
    (sizes : List Nat)
    (memory : SessionHeap) : Prop :=
  memory.cache.Accounts (memory.netFiveElement.toList ++ others) sizes
    memory.session.recvBufs

variable {others : List Block} {sizes : List Nat} {memory : SessionHeap}

/-- A complete body empties the cache. -/
theorem recvBufs_finishBody (core : SessionCore) (now : Int) :
    (core.finishBody now).recvBufs = [] := by
  unfold SessionCore.finishBody
  dsimp only
  split <;> rfl

/-- A complete header empties the cache. -/
theorem recvBufs_finishHead
    (core : SessionCore)
    (headMsg : List UInt8)
    (now : Int) :
    (core.finishHead headMsg now).recvBufs = [] := by
  unfold SessionCore.finishHead
  dsimp only
  split
  · split <;> rfl
  · split <;> rfl

/-- Data read while a body is expected. -/
theorem Accounts.receiveBody
    (accounts : memory.Accounts others sizes)
    (szRecvBuf : List UInt8)
    (now : Int) :
    ∃ cache, memory.receiveBody szRecvBuf.length = some cache ∧
      cache.Accounts (memory.netFiveElement.toList ++ others)
        (sizes ++
          if memory.session.toSessionCore.missingBody = szRecvBuf.length then
            [memory.session.toSessionCore.bodyBufLen]
          else [])
        (memory.session.ioRecvBody szRecvBuf now).session.recvBufs := by
  unfold SessionHeap.receiveBody TcpSession.ioRecvBody
  dsimp only
  split
  · rw [TcpSession.toSessionCore_setCore, recvBufs_finishBody]
    exact CacheHeap.Accounts.assemble accounts _
  · rw [List.append_nil]
    split
    · exact ⟨_, rfl, CacheHeap.Accounts.push accounts szRecvBuf⟩
    · exact ⟨_, rfl, accounts⟩

/-- Data read while a header is expected. -/
theorem Accounts.receiveHead
    (accounts : memory.Accounts others sizes)
    (szRecvBuf : List UInt8)
    (now : Int)
    (echo : EchoOutcomes) :
    ∃ cache, memory.receiveHead szRecvBuf.length = some cache ∧
      cache.Accounts (memory.netFiveElement.toList ++ others) sizes
        (memory.session.ioRecvHead szRecvBuf now echo).session.recvBufs := by
  unfold SessionHeap.receiveHead TcpSession.ioRecvHead
  dsimp only
  split
  · exact ⟨_, rfl, accounts⟩
  · split
    · exact ⟨_, rfl, CacheHeap.Accounts.push accounts szRecvBuf⟩
    · rw [TcpSession.toSessionCore_setCore, recvBufs_finishHead]
      exact CacheHeap.Accounts.parse accounts _

/-- One iteration of `TcpSession_IORecv()`. -/
theorem Accounts.receiveCache
    (accounts : memory.Accounts others sizes)
    (turn : RecvTurn) :
    ∃ cache, memory.receiveCache turn = some cache ∧
      cache.Accounts (memory.netFiveElement.toList ++ others)
        (sizes ++ memory.forgets (.receive turn))
        (memory.session.ioRecvPass turn).session.recvBufs := by
  unfold SessionHeap.receiveCache TcpSession.ioRecvPass
  cases read : turn.read with
  | data chunk =>
      have bytes : turn.bytes = chunk.bytes := by
        rw [RecvTurn.bytes, read]
      have nonempty : chunk.bytes ≠ [] := List.ne_nil_of_length_pos chunk.nonempty
      simp only [forgets, TcpSession.ioRecvData, bytes]
      by_cases framed : memory.session.bIsHaveHead = true
      · by_cases body : memory.session.bIsRecvHead = true
        · simpa [framed, body, nonempty] using
            accounts.receiveBody chunk.bytes turn.now
        · simpa [framed, body] using
            accounts.receiveHead chunk.bytes turn.now turn.echo
      · refine ⟨memory.cache, by simp [framed], ?_⟩
        simp only [framed]
        exact (List.append_nil sizes).symm ▸ accounts
  | closed | again | interrupted | failed =>
      have bytes : turn.bytes = [] := by
        rw [RecvTurn.bytes, read]
      refine ⟨memory.cache, rfl, ?_⟩
      have none : memory.forgets (.receive turn) = [] := by
        simp [forgets, bytes]
      rw [none, List.append_nil]
      exact accounts

/-- A send leaves the session as it is. -/
theorem session_sendData
    (session : TcpSession)
    (szData : List UInt8)
    (nDataLen : Int)
    (outcomes : SendOutcomes) :
    (session.sendData szData nDataLen outcomes).session = session := by
  unfold TcpSession.sendData
  split
  · split
    · rfl
    · exact (session.ioSend_writes _ _ outcomes).1
  · exact (session.ioSend_writes _ _ outcomes).1

/-- `TcpSession_SendData`. -/
theorem Accounts.send
    (accounts : memory.Accounts others sizes)
    (szData : List UInt8)
    (nDataLen : Nat)
    (outcomes : SendOutcomes) :
    Accounts others (sizes ++ memory.forgets (.send szData nDataLen outcomes))
      (memory.send szData nDataLen outcomes) := by
  simp only [Accounts, SessionHeap.send, forgets, session_sendData]
  split
  · exact CacheHeap.Accounts.forget accounts _
  · rw [List.append_nil]
    exact accounts

/-- What the session points at is deleted. -/
theorem Accounts.release
    (accounts : memory.Accounts others sizes)
    (session : TcpSession)
    (cleared : session.recvBufs = []) :
    ∃ next, memory.release session = some next ∧ next.Accounts others sizes ∧
      next.netFiveElement = none ∧ next.cache.entries = [] := by
  obtain ⟨cache, deleted, kept⟩ := CacheHeap.Accounts.clear accounts
  refine ⟨⟨session, cache, none⟩, ?_, ?_, rfl, ?_⟩
  · exact congrArg (Option.map _) deleted
  · rw [Accounts, cleared]
    exact kept
  · exact List.map_eq_nil_iff.mp kept.pieces

/-- Every call is possible, and forgets what it is said to forget. -/
theorem Accounts.step
    (accounts : memory.Accounts others sizes)
    (call : SessionTurn) :
    ∃ next, memory.step call = some next ∧
      next.Accounts others (sizes ++ memory.forgets call) := by
  cases call with
  | receive turn =>
      obtain ⟨cache, received, kept⟩ := accounts.receiveCache turn
      exact ⟨_, congrArg (Option.map _) received, kept⟩
  | send szData nDataLen outcomes =>
      exact ⟨_, rfl, accounts.send szData nDataLen outcomes⟩
  | fini =>
      obtain ⟨next, released, kept, -⟩ :=
        accounts.release memory.session.fini.1 rfl
      exact ⟨next, released, (List.append_nil sizes).symm ▸ kept⟩
  | destruct =>
      obtain ⟨next, released, kept, -⟩ :=
        accounts.release memory.session.delete.1 rfl
      exact ⟨next, released, (List.append_nil sizes).symm ▸ kept⟩

/-- A session that has just been initialised. -/
def start
    (session : TcpSession)
    (pNetFiveElement : Block)
    (heap : Heap) : SessionHeap :=
  ⟨session, ⟨[], heap⟩, some pNetFiveElement⟩

/-- Whatever is received and sent on a session, and however often it is finalised
meanwhile, nothing is deleted that is not allocated. The destructor leaves what
others have allocated, and one block for each complete body and each framed send,
of the sizes they have had. -/
theorem leaks_exactly
    (session : TcpSession)
    (noCache : session.recvBufs = [])
    (pNetFiveElement : Block)
    (others : List Block)
    (heap : Heap)
    (holds : heap.Holds (pNetFiveElement :: others))
    (calls : List SessionTurn) :
    ∃ last destructed forgotten,
      run step (start session pNetFiveElement heap) calls = some last ∧
        last.step .destruct = some destructed ∧
        forgotten.map Block.size =
          collect step forgets (start session pNetFiveElement heap) calls ∧
        destructed.cache.heap.Holds (forgotten ++ others) := by
  have begun : Accounts others [] (start session pNetFiveElement heap) := by
    refine ⟨⟨[], rfl, holds⟩, ?_⟩
    exact (congrArg (List.map _) noCache).symm
  obtain ⟨last, reached, accounts⟩ := run_collects (Accounts others)
    (fun _ _ call accounts _ => accounts.step call) begun
    (fun _ _ => trivial : ∀ call ∈ calls, True)
  obtain ⟨destructed, released, kept, noRecord, noEntries⟩ :=
    accounts.release last.session.delete.1 rfl
  obtain ⟨⟨forgotten, isForgotten, left⟩, -⟩ := kept
  rw [noRecord, noEntries] at left
  exact ⟨last, destructed, forgotten, reached, released, isForgotten, left⟩

/-- A letter comes and one is sent. -/
def letterEachWay : List SessionTurn :=
  TcpSession.headThenBody.map .receive ++
    [.send letterA.bytes 1 ⟨[.accepted 9], true⟩]

theorem leaks_exactly_letterEachWay :
    ∃ last destructed forgotten,
      run step (start TcpSession.framedSession (Heap.empty.new 80).1
          (Heap.empty.new 80).2) letterEachWay = some last ∧
        last.step .destruct = some destructed ∧
        forgotten.map Block.size = [2, 9] ∧
        destructed.cache.heap.Holds (forgotten ++ []) :=
  leaks_exactly TcpSession.framedSession rfl (Heap.empty.new 80).1 []
    (Heap.empty.new 80).2 (List.Perm.refl _) letterEachWay

end SessionHeap

end TransPortEngine
