import TransPortEngine.Library.Framing
import TransPortEngine.TcpSession.Recv

/-!
# What one read does to a framed session

One lemma for each way a read can lie relative to the header or body the
session collects. A header is collected as it should be. In the body branch the
comparisons are the wrong way round: a read that stops inside the body ends the
connection, and one that runs past it is kept as if the body went on.
-/

namespace TransPortEngine

open Framing MachineInt

namespace SessionCore

variable {session : SessionCore}

/-- What a header still lacks. -/
theorem missingHead_eq
    (short : (cachedBytes session.recvBufs).length < sizeofHeadMsg) :
    session.missingHead =
      sizeofHeadMsg - ((cachedBytes session.recvBufs).length : Int) := by
  have small : (cachedBytes session.recvBufs).length < 8 := short
  rw [missingHead, sessionRecvCacheLen_eq]
  unfold signed32 sizeofHeadMsg
  omega

/-- What a body lacks before its first byte. -/
theorem missingBody_eq
    (empty : session.recvBufs = [])
    (small : session.nNeedRecvDataLen < 2147483648) :
    session.missingBody = session.nNeedRecvDataLen := by
  rw [missingBody, sessionRecvCacheLen_eq, empty]
  unfold signed32
  simp only [cachedBytes_nil, List.length_nil]
  omega

/-- The assembled header is the cache followed by the last read. -/
theorem headBuf_eq
    {szRecvBuf : List UInt8}
    (full : (cachedBytes session.recvBufs).length + szRecvBuf.length =
      sizeofHeadMsg) :
    session.headBuf szRecvBuf = cachedBytes session.recvBufs ++ szRecvBuf := by
  apply assembleBuf_eq
  · rw [full, List.length_replicate]
  · simp [sizeofHeadMsg]

/-- A body that comes in one read is assembled as it is. -/
theorem take_bodyBuf
    {szRecvBuf : List UInt8}
    (empty : session.recvBufs = [])
    (full : szRecvBuf.length = session.nNeedRecvDataLen)
    (small : session.nNeedRecvDataLen < 2147483648) :
    (session.bodyBuf szRecvBuf).take session.nNeedRecvDataLen = szRecvBuf := by
  have size : session.bodyBufLen = session.nNeedRecvDataLen + 1 := by
    unfold bodyBufLen unsigned32
    omega
  have cacheEmpty : cachedBytes session.recvBufs = [] := by
    rw [empty, cachedBytes_nil]
  have filled : (cachedBytes session.recvBufs).length + szRecvBuf.length =
      session.nNeedRecvDataLen := by
    simpa [cacheEmpty] using full
  have room : session.nNeedRecvDataLen ≤
      (List.replicate session.bodyBufLen (0 : UInt8)).length := by
    rw [List.length_replicate, size]
    omega
  rw [bodyBuf, take_assembleBuf filled room small, cacheEmpty, List.nil_append]

/-- The cache holds more than the body the session waits for. The excess stays
near the point where the `int` difference changes its sign. -/
structure Overrun (session : SessionCore) : Prop where
  framed : session.bIsHaveHead = true
  hasHead : session.bIsRecvHead = true
  exceeds : session.nNeedRecvDataLen < (cachedBytes session.recvBufs).length
  bounded : (cachedBytes session.recvBufs).length ≤
    session.nNeedRecvDataLen + (2147483648 + 1024)

/-- One more read keeps the excess. -/
theorem Overrun.push
    {szRecvBuf : List UInt8}
    (overrun : session.Overrun)
    (fits : szRecvBuf.length ≤ 1024)
    (small : (cachedBytes session.recvBufs).length ≤
      session.nNeedRecvDataLen + 2147483648) :
    (session.pushRecvBuf szRecvBuf).Overrun where
  framed := overrun.framed
  hasHead := overrun.hasHead
  exceeds := by
    have exceeds := overrun.exceeds
    rw [cachedBytes_pushRecvBuf, List.length_append]
    change session.nNeedRecvDataLen < _
    omega
  bounded := by
    rw [cachedBytes_pushRecvBuf, List.length_append]
    change _ ≤ session.nNeedRecvDataLen + _
    omega

/-! ## The position in a stream -/

/-- The session is in the same position of a stream as the decoder. A body has
not begun: it is received in one piece or not at all. -/
def Follows (session : SessionCore) : State UInt8 HeadKind → Prop
  | .head seen =>
      session.bIsHaveHead = true ∧ session.hasTransPortEngineRecv = true ∧
        session.bIsRecvHead = false ∧ cachedBytes session.recvBufs = seen ∧
          seen.length < sizeofHeadMsg
  | .body kind need seen =>
      session.bIsHaveHead = true ∧ session.hasTransPortEngineRecv = true ∧
        session.bIsRecvHead = true ∧ session.recvBufs = [] ∧ seen = [] ∧
          kind = .data ∧ session.nRecvDataType = 1 ∧
            session.nNeedRecvDataLen = need ∧ 0 < need ∧ need < 2147483648

/-- A session at the start of a frame is where the decoder starts. -/
theorem AtFrameStart.follows (start : session.AtFrameStart) :
    session.Follows (.head []) := by
  refine ⟨start.framed, start.receives, start.noHead, ?_, by decide⟩
  rw [start.noCache]
  rfl

/-- The session after the header of a data frame waits for its body. -/
theorem follows_dataHead
    {headMsg : List UInt8}
    (framed : session.bIsHaveHead = true)
    (receives : session.hasTransPortEngineRecv = true)
    (isData : headKind headMsg = .data)
    (positive : 0 < headDataLen headMsg)
    (small : headDataLen headMsg < 2147483648)
    (now : Int) :
    (session.finishHead headMsg now).Follows
      (.body .data (headDataLen headMsg) []) := by
  have types := headTypeIs_of_headKind_data isData
  have core : session.finishHead headMsg now = session.storeHead 1 headMsg := by
    simp [finishHead, types]
  rw [core]
  exact ⟨framed, receives, by simp [storeHead, positive], rfl, rfl, rfl, rfl,
    rfl, positive, small⟩

/-- The session after an empty heartbeat waits for the next header. -/
theorem follows_heartbeatHead
    {headMsg : List UInt8}
    (framed : session.bIsHaveHead = true)
    (receives : session.hasTransPortEngineRecv = true)
    (noHead : session.bIsRecvHead = false)
    (isHeartbeat : headKind headMsg = .heartbeat)
    (empty : headDataLen headMsg = 0)
    (now : Int) :
    (session.finishHead headMsg now).Follows (.head []) := by
  have type := headTypeIs_of_headKind_heartbeat isHeartbeat
  have core : session.finishHead headMsg now =
      (session.storeHead 0 headMsg).headleHB now := by
    simp [finishHead, type, storeHead, empty]
  rw [core]
  exact ⟨framed, receives, by simp [headleHB, storeHead, empty, noHead], rfl,
    by decide⟩

/-- The session follows the decoder over the end of a valid header, which
delivers nothing. -/
theorem follows_afterHead
    (framed : session.bIsHaveHead = true)
    (receives : session.hasTransPortEngineRecv = true)
    (noHead : session.bIsRecvHead = false)
    (frame : Frame frameFormat)
    (now : Int) :
    (session.finishHead frame.head now).Follows
        (frameFormat.afterHead frame.head).1 ∧
      (frameFormat.afterHead frame.head).2.filterMap deliverData = [] := by
  rcases frame.head_valid with ⟨isData, positive, small⟩ | ⟨isHeartbeat, empty⟩
  · have after := frameFormat.afterHead_of_pos positive
    have parsed : frameFormat.parse frame.head =
        (.data, headDataLen frame.head) := by
      rw [← isData]
      rfl
    rw [after, parsed]
    exact ⟨follows_dataHead framed receives isData positive small now, rfl⟩
  · have after := frameFormat.afterHead_of_zero empty
    have parsed : frameFormat.parse frame.head =
        (.heartbeat, headDataLen frame.head) := by
      rw [← isHeartbeat]
      rfl
    rw [after, parsed]
    exact ⟨follows_heartbeatHead framed receives noHead isHeartbeat empty now,
      rfl⟩

/-- After a body of type 1 the session waits for the next header. -/
theorem follows_finishBody
    (framed : session.bIsHaveHead = true)
    (receives : session.hasTransPortEngineRecv = true)
    (isData : session.nRecvDataType = 1)
    (now : Int) :
    (session.finishBody now).Follows (.head []) := by
  have core : session.finishBody now =
      { session with
        recvBufs := []
        bIsRecvHead := false
        nNeedRecvDataLen := 0 } := by
    simp [finishBody, isData]
  rw [core]
  exact ⟨framed, receives, rfl, rfl, by decide⟩

/-- While a body is collected there is a payload still to be delivered. -/
theorem Follows.undelivered
    {kind : HeadKind}
    {need : Nat}
    {seen rest : List UInt8}
    {frames : List (Frame frameFormat)}
    (follows : session.Follows (.body kind need seen))
    (pending : frameFormat.Pending (.body kind need seen) rest frames) :
    frames.filterMap (fun frame => deliverData frame.output) ≠ [] := by
  obtain ⟨-, -, -, -, -, isData, -⟩ := follows
  obtain ⟨frame, later, rfl, kindEq, -⟩ := pending
  have delivered : deliverData frame.output = some frame.body := by
    rw [Frame.output, ← kindEq, isData]
    rfl
  simp [delivered]

end SessionCore

namespace TcpSession

@[simp] theorem deliveries_recvBufLocked_nil :
    deliveries (recvBufLocked []) = [] := rfl

@[simp] theorem deliveries_ioSendWrites
    (nSocket : Int)
    (szData : List UInt8)
    (nWriteLen : Nat)
    (results : List WriteResult) :
    deliveries (ioSendWrites nSocket szData nWriteLen results) = [] := by
  apply List.filterMap_eq_nil_iff.mpr
  apply forall_ioSendWrites
  intro bytes
  rfl

/-- Sending delivers nothing. -/
@[simp] theorem deliveries_ioSend
    (session : TcpSession)
    (szData : Option (List UInt8))
    (nDataLen : Int)
    (outcomes : SendOutcomes) :
    deliveries (session.ioSend szData nDataLen outcomes).events = [] := by
  cases szData with
  | none => rfl
  | some szData =>
      simp only [ioSend]
      split
      · rfl
      · split
        · simp
        · simp
        · rw [deliveries_append, deliveries_ioSendWrites, ioSendRest]
          split <;> rfl

/-- A read that stays inside the header is kept. -/
theorem ioRecvHead_short
    {session : TcpSession}
    {szRecvBuf : List UInt8}
    (short : (cachedBytes session.recvBufs).length + szRecvBuf.length <
      sizeofHeadMsg)
    (now : Int)
    (echo : EchoOutcomes) :
    let pass := session.ioRecvHead szRecvBuf now echo
    pass.session =
        session.setCore (session.toSessionCore.pushRecvBuf szRecvBuf) ∧
      deliveries pass.events = [] ∧ pass.ending = .loop := by
  have missing := session.toSessionCore.missingHead_eq (by omega)
  simp only [ioRecvHead]
  rw [if_neg (by omega), if_pos (by omega)]
  simp

/-- A read that completes the header acts on it and goes on. -/
theorem ioRecvHead_full
    {session : TcpSession}
    {szRecvBuf : List UInt8}
    (opened : (cachedBytes session.recvBufs).length < sizeofHeadMsg)
    (full : (cachedBytes session.recvBufs).length + szRecvBuf.length =
      sizeofHeadMsg)
    (now : Int)
    (echo : EchoOutcomes) :
    let pass := session.ioRecvHead szRecvBuf now echo
    pass.session =
        session.setCore (session.toSessionCore.finishHead
          (cachedBytes session.recvBufs ++ szRecvBuf) now) ∧
      deliveries pass.events = [] ∧ pass.ending = .loop := by
  have missing := session.toSessionCore.missingHead_eq opened
  have assembled := session.toSessionCore.headBuf_eq full
  simp only [ioRecvHead]
  rw [if_neg (by omega), if_neg (by omega), assembled]
  refine ⟨rfl, ?_, rfl⟩
  simp only [headEvents, deliveries_append, deliveries_recvBufLocked_nil,
    deliveries_assembleCopies]
  split
  · rw [deliveries_append, deliveries_ioSend]
    split <;> rfl
  · rfl

/-- A read that runs past the header ends the connection. -/
theorem ioRecvHead_long
    {session : TcpSession}
    {szRecvBuf : List UInt8}
    (opened : (cachedBytes session.recvBufs).length < sizeofHeadMsg)
    (long : sizeofHeadMsg <
      (cachedBytes session.recvBufs).length + szRecvBuf.length)
    (now : Int)
    (echo : EchoOutcomes) :
    (session.ioRecvHead szRecvBuf now echo).ending = .leave (-1) := by
  have missing := session.toSessionCore.missingHead_eq opened
  simp only [ioRecvHead]
  rw [if_pos (by omega)]

/-- A body of type 1 that comes in one read is delivered. -/
theorem ioRecvBody_full
    {session : TcpSession}
    {szRecvBuf : List UInt8}
    (receives : session.hasTransPortEngineRecv = true)
    (isData : session.nRecvDataType = 1)
    (empty : session.recvBufs = [])
    (full : szRecvBuf.length = session.nNeedRecvDataLen)
    (small : session.nNeedRecvDataLen < 2147483648)
    (now : Int) :
    let pass := session.ioRecvBody szRecvBuf now
    pass.session = session.setCore (session.toSessionCore.finishBody now) ∧
      deliveries pass.events = [szRecvBuf] ∧ pass.ending = .loop := by
  have missing := session.toSessionCore.missingBody_eq empty small
  have body := session.toSessionCore.take_bodyBuf empty full small
  simp only [ioRecvBody]
  rw [if_pos (by omega)]
  refine ⟨rfl, ?_, rfl⟩
  simp only [bodyEvents, isData, receives, body, deliveries_append,
    deliveries_recvBufLocked_nil, deliveries_assembleCopies]
  rfl

/-- A read that stops inside the body ends the connection. -/
theorem ioRecvBody_short
    {session : TcpSession}
    {szRecvBuf : List UInt8}
    (empty : session.recvBufs = [])
    (short : szRecvBuf.length < session.nNeedRecvDataLen)
    (small : session.nNeedRecvDataLen < 2147483648)
    (now : Int) :
    (session.ioRecvBody szRecvBuf now).ending = .leave (-1) := by
  have missing := session.toSessionCore.missingBody_eq empty small
  simp only [ioRecvBody]
  rw [if_neg (by omega), if_neg (by omega)]

/-! ## Running past a body -/

/-- A session that has run past a body keeps everything it reads, until the
excess is too large for an `int` and the connection ends. -/
theorem ioRecvBody_overrun
    {session : TcpSession}
    (overrun : session.toSessionCore.Overrun)
    (chunk : Chunk 1024)
    (now : Int) :
    let pass := session.ioRecvBody chunk.bytes now
    pass.ending = .leave (-1) ∨
      pass.ending = .loop ∧ deliveries pass.events = [] ∧
        pass.session.toSessionCore.Overrun := by
  have nonempty := chunk.nonempty
  have fits := chunk.fits
  have exceeds := overrun.exceeds
  have bounded := overrun.bounded
  have missing : session.missingBody =
      signed32 ((session.nNeedRecvDataLen : Int) -
        ((cachedBytes session.recvBufs).length % 4294967296 : Nat)) := by
    rw [SessionCore.missingBody, sessionRecvCacheLen_eq]
  simp only [TcpSession.ioRecvBody]
  by_cases small : (cachedBytes session.recvBufs).length ≤
      session.nNeedRecvDataLen + 2147483648
  · right
    have negative : session.missingBody < 0 := by
      rw [missing]
      unfold signed32
      omega
    rw [if_neg (by omega), if_pos (by omega)]
    exact ⟨rfl, rfl, overrun.push fits small⟩
  · left
    have large : 1024 < session.missingBody := by
      rw [missing]
      unfold signed32
      omega
    rw [if_neg (by omega), if_neg (by omega)]

/-- The first read that runs past a body. -/
theorem ioRecvBody_long
    {session : TcpSession}
    {chunk : Chunk 1024}
    (framed : session.bIsHaveHead = true)
    (hasHead : session.bIsRecvHead = true)
    (empty : session.recvBufs = [])
    (long : session.nNeedRecvDataLen < chunk.bytes.length)
    (now : Int) :
    let pass := session.ioRecvBody chunk.bytes now
    pass.ending = .loop ∧ deliveries pass.events = [] ∧
      pass.session.toSessionCore.Overrun := by
  have fits := chunk.fits
  have missing := session.toSessionCore.missingBody_eq empty (by omega)
  have cached : (cachedBytes
      (session.toSessionCore.pushRecvBuf chunk.bytes).recvBufs).length =
        chunk.bytes.length := by
    rw [SessionCore.cachedBytes_pushRecvBuf, empty]
    rfl
  simp only [ioRecvBody]
  rw [if_neg (by omega), if_pos (by omega)]
  refine ⟨rfl, rfl, framed, hasHead, ?_, ?_⟩
  · rw [toSessionCore_setCore, cached]
    exact long
  · rw [toSessionCore_setCore, cached]
    omega

end TcpSession

end TransPortEngine
