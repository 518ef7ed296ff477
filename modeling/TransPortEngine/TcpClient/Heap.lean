import TransPortEngine.CacheHeap
import TransPortEngine.TcpClient.Delivery

/-!
# The memory of a client

What the functions of `CTcpClient` allocate and delete on Linux. The buffer of a
complete body is deleted here, unlike on a session, but the destructor is empty:
the pieces of what has not been completed are left behind, and so are the frames
of all sends. A `recv` that brings more than `szRecvBuf` holds writes over other
memory, so that nothing can be said about what comes behind it.
-/

namespace TransPortEngine

open MachineInt Memory Transition

/-- A client with the blocks its cache points at. -/
structure ClientHeap where
  client : TcpClient
  cache : CacheHeap

/-- A call of a function of a client, or one iteration of a loop of its threads.
The length of a send is not negative, as on a session. -/
inductive ClientTurn
  | receive (turn : RecvfromTurn)
  | send (szSendBuf : List UInt8) (nBufLen : Nat)
  | heartbeat

/-- What a call receives fits `szRecvBuf`. -/
def ClientTurn.FitsRecvBuf : ClientTurn → Prop
  | .receive turn => turn.bytes.length ≤ maxBufferLen
  | .send _ _ => True
  | .heartbeat => True

instance : DecidablePred ClientTurn.FitsRecvBuf
  | .receive _ => inferInstanceAs (Decidable (_ ≤ _))
  | .send _ _ => inferInstanceAs (Decidable True)
  | .heartbeat => inferInstanceAs (Decidable True)

namespace ClientHeap

/-- Data received while a body is expected. `new` throws when the length of the
body is negative. -/
def receiveBody (memory : ClientHeap) (nRet : Nat) : Option CacheHeap :=
  let client := memory.client
  if nRet = client.missingBody then
    if client.nNeedRecvDataLen < 0 then none
    else memory.cache.parse client.nNeedRecvDataLen.toNat
  else if client.missingBody < nRet then some memory.cache
  else some (memory.cache.push nRet)

/-- Data received while a header is expected. -/
def receiveHead (memory : ClientHeap) (nRet : Nat) : Option CacheHeap :=
  let missing := signed32 memory.client.missingHead
  if nRet = missing then memory.cache.parse (sizeofHeadMsg + 1)
  else if missing < nRet then some memory.cache
  else some (memory.cache.push nRet)

/-- What one iteration of `TcpClient_Recvfrom` does to the cache. -/
def receiveCache (memory : ClientHeap) (turn : RecvfromTurn) : Option CacheHeap :=
  match turn.recv with
  | .data szRecvBuf _ =>
      if memory.client.bIsHaveHead then
        if memory.client.bIsRecvHead then memory.receiveBody szRecvBuf.length
        else memory.receiveHead szRecvBuf.length
      else some memory.cache
  | .closed => some memory.cache
  | .failed => some memory.cache

/-- One iteration of `TcpClient_Recvfrom`. -/
def receive (memory : ClientHeap) (turn : RecvfromTurn) : Option ClientHeap :=
  (memory.receiveCache turn).map fun cache =>
    ⟨(memory.client.recvfromPass turn).client, cache⟩

/-- `TcpClient_SendData`. The frame is not deleted. -/
def send (memory : ClientHeap) (nBufLen : Nat) : ClientHeap :=
  { memory with
    cache :=
      if memory.client.bIsHaveHead then
        memory.cache.forget (nBufLen + sizeofHeadMsg)
      else memory.cache }

/-- One call. What is received has to fit `szRecvBuf`. The buffer of a heartbeat is
deleted after the send. -/
def step (memory : ClientHeap) : ClientTurn → Option ClientHeap
  | .receive turn =>
      if turn.bytes.length ≤ maxBufferLen then memory.receive turn else none
  | .send _ nBufLen => some (memory.send nBufLen)
  | .heartbeat =>
      (memory.cache.borrow (sizeofHeadMsg + 0)).map fun cache =>
        { memory with cache := cache }

/-- The sizes of the blocks a call allocates and forgets. -/
def forgets (memory : ClientHeap) : ClientTurn → List Nat
  | .receive _ => []
  | .send _ nBufLen =>
      if memory.client.bIsHaveHead then [nBufLen + sizeofHeadMsg] else []
  | .heartbeat => []

/-! ## What is held -/

/-- A body of a negative length has no pieces. -/
structure Unpieced (client : TcpClient) : Prop where
  inRange : -2147483648 ≤ client.nNeedRecvDataLen
  noPieces : client.bIsRecvHead = true → client.nNeedRecvDataLen < 0 →
    client.recvBufs = []

/-- Nothing that is received completes a body of a negative length. -/
theorem Unpieced.missingBody_neg
    {client : TcpClient}
    (unpieced : Unpieced client)
    (body : client.bIsRecvHead = true)
    (negative : client.nNeedRecvDataLen < 0) :
    client.missingBody < 0 := by
  have empty := unpieced.noPieces body negative
  have inRange := unpieced.inRange
  have nothing : clientRecvCacheLen [] = 0 := rfl
  rw [TcpClient.missingBody, empty, nothing, signed32_of_range] <;> omega

/-- Allocated are the blocks of the cache, the forgotten ones, which have the
given sizes, and those of others. -/
structure Accounts
    (others : List Block)
    (sizes : List Nat)
    (memory : ClientHeap) : Prop where
  cache : memory.cache.Accounts others sizes memory.client.recvBufs
  unpieced : Unpieced memory.client

variable {others : List Block} {sizes : List Nat} {memory : ClientHeap}

/-- A complete header stores a length of 32 bits and empties the cache. -/
theorem finishHead_members
    (client : TcpClient)
    (headMsg : List UInt8)
    (now : Int) :
    (client.finishHead headMsg now).1.recvBufs = [] ∧
      (client.finishHead headMsg now).1.nNeedRecvDataLen =
        signed32 (headDataLen headMsg) := by
  unfold TcpClient.finishHead
  dsimp only
  split
  · split <;> exact ⟨rfl, rfl⟩
  · split
    · split <;> exact ⟨rfl, rfl⟩
    · exact ⟨rfl, rfl⟩

/-- Data received while a body is expected. -/
theorem Accounts.receiveBody
    (accounts : memory.Accounts others sizes)
    (body : memory.client.bIsRecvHead = true)
    (szRecvBuf : List UInt8)
    (now : Int) :
    ∃ cache, memory.receiveBody szRecvBuf.length = some cache ∧
      Accounts others sizes
        ⟨(memory.client.recvBody szRecvBuf now).client, cache⟩ := by
  obtain ⟨ledger, unpieced⟩ := accounts
  unfold ClientHeap.receiveBody TcpClient.recvBody
  dsimp only
  split
  · rename_i complete
    have size : ¬ memory.client.nNeedRecvDataLen < 0 := by
      intro negative
      have missing := unpieced.missingBody_neg body negative
      omega
    rw [if_neg size]
    obtain ⟨cache, parsed, kept⟩ :=
      ledger.parse memory.client.nNeedRecvDataLen.toNat
    refine ⟨cache, parsed, ?_, ?_⟩
    · split
      · exact kept
      · split <;> exact kept
    · refine ⟨?_, fun stillBody => ?_⟩
      · split
        · exact unpieced.inRange
        · split <;> exact unpieced.inRange
      · contradiction
  · split
    · refine ⟨_, rfl, ledger, unpieced.inRange, fun stillBody => ?_⟩
      contradiction
    · rename_i notComplete notMore
      refine ⟨_, rfl, ledger.push szRecvBuf, unpieced.inRange, fun _ negative => ?_⟩
      have missing := unpieced.missingBody_neg body negative
      omega

/-- Data received while a header is expected. -/
theorem Accounts.receiveHead
    (accounts : memory.Accounts others sizes)
    (noBody : memory.client.bIsRecvHead ≠ true)
    (szRecvBuf : List UInt8)
    (now : Int) :
    ∃ cache, memory.receiveHead szRecvBuf.length = some cache ∧
      Accounts others sizes
        ⟨(memory.client.recvHead szRecvBuf now).client, cache⟩ := by
  obtain ⟨ledger, unpieced⟩ := accounts
  simp only [ClientHeap.receiveHead, TcpClient.recvHead]
  split
  · obtain ⟨cache, parsed, kept⟩ := ledger.parse (sizeofHeadMsg + 1)
    obtain ⟨cleared, length⟩ := finishHead_members memory.client
      ((memory.client.headBuf szRecvBuf).take sizeofHeadMsg) now
    refine ⟨cache, parsed, ?_, ?_, fun _ _ => cleared⟩
    · dsimp only
      rw [cleared]
      exact kept
    · dsimp only
      rw [length]
      exact signed32_lower _
  · split
    · exact ⟨_, rfl, ledger, unpieced⟩
    · exact ⟨_, rfl, ledger.push szRecvBuf, unpieced.inRange,
        fun body => absurd body noBody⟩

/-- One iteration of `TcpClient_Recvfrom`. -/
theorem Accounts.receive
    (accounts : memory.Accounts others sizes)
    (turn : RecvfromTurn) :
    ∃ next, memory.receive turn = some next ∧ next.Accounts others sizes := by
  unfold ClientHeap.receive ClientHeap.receiveCache TcpClient.recvfromPass
  cases turn.recv with
  | closed => exact ⟨_, rfl, accounts⟩
  | failed => exact ⟨_, rfl, accounts⟩
  | data szRecvBuf nonempty =>
      dsimp only
      unfold TcpClient.recvDataPass
      split
      · split
        · rename_i body
          obtain ⟨cache, received, kept⟩ :=
            accounts.receiveBody body szRecvBuf turn.now
          exact ⟨_, congrArg (Option.map _) received, kept⟩
        · rename_i noBody
          obtain ⟨cache, received, kept⟩ :=
            accounts.receiveHead noBody szRecvBuf turn.now
          exact ⟨_, congrArg (Option.map _) received, kept⟩
      · exact ⟨_, rfl, accounts⟩

/-- Every call that receives no more than fits is possible, and forgets what it is
said to forget. -/
theorem Accounts.step
    (accounts : memory.Accounts others sizes)
    {call : ClientTurn}
    (fits : call.FitsRecvBuf) :
    ∃ next, memory.step call = some next ∧
      next.Accounts others (sizes ++ memory.forgets call) := by
  cases call with
  | receive turn =>
      have fitsBuf : turn.bytes.length ≤ maxBufferLen := fits
      rw [forgets, List.append_nil, ClientHeap.step, if_pos fitsBuf]
      exact accounts.receive turn
  | send szSendBuf nBufLen =>
      refine ⟨_, rfl, ?_, accounts.unpieced⟩
      simp only [ClientHeap.send, forgets]
      split
      · exact accounts.cache.forget _
      · rw [List.append_nil]
        exact accounts.cache
  | heartbeat =>
      rw [forgets, List.append_nil]
      obtain ⟨cache, borrowed, kept⟩ := accounts.cache.borrow (sizeofHeadMsg + 0)
      exact ⟨_, congrArg (Option.map _) borrowed, kept, accounts.unpieced⟩

/-- Whatever a client receives, as long as it fits `szRecvBuf`, and whatever it
sends, no negative size is allocated and nothing is deleted that is not allocated.
What is left behind are the pieces of the last header or body, and one block for
each framed send. -/
theorem leaves_exactly
    (garbage : ClientGarbage)
    (bIsHaveHead bIsHaveHB : Bool)
    (nHeartBeatInterval : Int)
    (heap : Heap)
    (calls : List ClientTurn)
    (fits : ∀ call ∈ calls, call.FitsRecvBuf) :
    let first : ClientHeap := ⟨(TcpClient.construct garbage).configure bIsHaveHead
      bIsHaveHB nHeartBeatInterval, ⟨[], heap⟩⟩
    ∃ last forgotten, run step first calls = some last ∧
      forgotten.map Block.size = collect step forgets first calls ∧
      last.cache.entries.map (fun entry => entry.szBuf.size) =
        last.client.recvBufs.map (fun bufInfo => bufInfo.szBuf.length + 1) ∧
      last.cache.heap.Holds
        (cacheBlocks last.cache.entries ++ (forgotten ++ heap.live)) := by
  intro first
  have begun : first.Accounts heap.live [] := by
    refine ⟨⟨⟨[], rfl, List.Perm.refl _⟩, rfl⟩, ?_, fun body => ?_⟩
    · exact (by decide : (-2147483648 : Int) ≤ 0)
    · contradiction
  obtain ⟨last, reached, accounts⟩ :=
    @run_collects _ _ _ step ClientTurn.FitsRecvBuf forgets (Accounts heap.live)
      (fun _ _ _ accounts fits => accounts.step fits) _ _ begun _ fits
  obtain ⟨⟨forgotten, isForgotten, holds⟩, pieces⟩ := accounts.cache
  exact ⟨last, forgotten, reached, isForgotten, pieces, holds⟩

/-- A letter and an echo come, and then a letter is sent. -/
def letterAndEchoCalls : List ClientTurn :=
  TcpClient.letterAndEchoTurns.map .receive ++ [.send letterA.bytes 1]

theorem leaves_exactly_letterAndEcho :
    ∃ last forgotten,
      run step ⟨TcpClient.framedClient, ⟨[], Heap.empty⟩⟩ letterAndEchoCalls =
          some last ∧
        forgotten.map Block.size = [9] ∧
        last.cache.entries.map (fun entry => entry.szBuf.size) =
          last.client.recvBufs.map (fun bufInfo => bufInfo.szBuf.length + 1) ∧
        last.cache.heap.Holds
          (cacheBlocks last.cache.entries ++ (forgotten ++ [])) :=
  leaves_exactly ⟨3, 0, 0⟩ true true 5 Heap.empty letterAndEchoCalls (by decide)

end ClientHeap

end TransPortEngine
