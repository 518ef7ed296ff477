import TransPortEngine.TcpSession.AnyStream
import TransPortEngine.TcpSession.IocpDelivery

/-!
# What a session on Windows asks for

Every call that handles a completed receive either refuses the data or posts
exactly one new receive. As long as the session reads headers as a format does,
that receive asks for what the decoder of the format lacks.
-/

namespace TransPortEngine

open Framing MachineInt

/-- The length a posted receive asks for. -/
def EngineEvent.wsaRecvLen : EngineEvent → Option Nat
  | .wsaRecv _ len _ => some len
  | _ => none

/-- The lengths posted receives ask for, in order. -/
def wsaRecvLens (events : List EngineEvent) : List Nat :=
  events.filterMap EngineEvent.wsaRecvLen

@[simp] theorem wsaRecvLens_nil : wsaRecvLens [] = [] := rfl

@[simp] theorem wsaRecvLens_append (first second : List EngineEvent) :
    wsaRecvLens (first ++ second) = wsaRecvLens first ++ wsaRecvLens second := by
  simp [wsaRecvLens]

@[simp] theorem wsaRecvLens_recvBufLocked_nil :
    wsaRecvLens (recvBufLocked []) = [] := rfl

@[simp] theorem wsaRecvLens_assembleCopies
    (capacity : Nat)
    (recvBufs : List BufInfo)
    (szRecvBuf : List UInt8) :
    wsaRecvLens (assembleCopies capacity recvBufs szRecvBuf) = [] := by
  apply List.filterMap_eq_nil_iff.mpr
  apply forall_assembleCopies
  · rfl
  · rfl
  · intro capacity offset count
    rfl

namespace IocpSession

/-- Looking at received bytes posts no receive. -/
theorem wsaRecvLens_ioRecvData
    (session : IocpSession)
    (szRecvBuf : List UInt8)
    (now : Int)
    (echoPosted : Bool) :
    wsaRecvLens (session.ioRecvData szRecvBuf now echoPosted).2 = [] := by
  have body : ∀ szBuf, wsaRecvLens (session.bodyEvents szBuf) = [] := by
    intro szBuf
    unfold bodyEvents
    split
    · rfl
    · split <;> rfl
  have send : ∀ (next : IocpSession) (bytes : List UInt8) (length : Int),
      wsaRecvLens (next.ioSend bytes length echoPosted).2.1 = [] := by
    intro next bytes length
    simp only [ioSend]
    split
    · rfl
    · split
      · rfl
      · split <;> rfl
  unfold ioRecvData
  split
  · split
    · unfold ioRecvBody
      simp only
      split
      · simp [body]
      · split <;> simp
    · unfold ioRecvHead
      simp only
      split
      · rfl
      · split
        · rfl
        · split
          · simp only [wsaRecvLens_append, wsaRecvLens_recvBufLocked_nil,
              wsaRecvLens_assembleCopies, send]
            split <;> rfl
          · simp
  · split <;> rfl

@[simp] theorem wsaRecvLens_nextWsaBufLen (session : IocpSession) :
    wsaRecvLens session.nextWsaBufLen.2 = [] := by
  unfold nextWsaBufLen
  split
  · split <;> rfl
  · rfl

/-- The session is where the decoder is, and its receive asks for what the
decoder lacks. -/
structure Waits
    (format : Format UInt8 HeadKind)
    (state : State UInt8 HeadKind)
    (session : IocpSession) : Prop where
  collects : session.toSessionCore.Collects state
  remains : session.bIsToBeClose = false
  requested : session.perIoContextRecv.wsaBufLen = format.request state

variable {format : Format UInt8 HeadKind} {state : State UInt8 HeadKind}
  {session : IocpSession}

/-- The next receive asks for what the decoder lacks. -/
theorem nextWsaBufLen_of_collects
    (collects : session.toSessionCore.Collects state)
    (size : format.headLength = sizeofHeadMsg) :
    session.nextWsaBufLen.1 = format.request state := by
  cases state with
  | head seen =>
      obtain ⟨framed, noHead, rfl, opened⟩ := collects
      have missing := session.missingHead_eq opened
      have small : session.missingHead < 4294967296 := by
        rw [missing, sizeofHeadMsg]
        omega
      simp only [nextWsaBufLen, framed, noHead, if_true, Format.request, size]
      exact (unsigned32_natCast small).trans missing
  | body kind need seen =>
      obtain ⟨framed, hasHead, empty, rfl, rfl, -, bounded⟩ := collects
      have missing : session.missingBody = session.nNeedRecvDataLen := by
        rw [missingBody, sessionRecvCacheLen_eq, empty]
        unfold unsigned32
        simp only [cachedBytes_nil, List.length_nil]
        omega
      simp [nextWsaBufLen, framed, hasHead, missing, Format.request]

/-- A receive posted on a session that is not being closed, whether the post
succeeds or not. -/
theorem post_remains
    (remains : session.bIsToBeClose = false)
    (posted : Bool) :
    session.post posted =
      ({ session with perIoContextRecv := { session.perIoContextRecv with
          wsaBufLen := session.nextWsaBufLen.1 } },
        session.nextWsaBufLen.2 ++
          [.wsaRecv session.socket session.nextWsaBufLen.1 posted],
        if posted then 0 else -1) := by
  simp [post, remains]

/-- What a post asks for, and where it leaves the session. -/
theorem waits_post
    (collects : session.toSessionCore.Collects state)
    (remains : session.bIsToBeClose = false)
    (size : format.headLength = sizeofHeadMsg)
    (posted : Bool) :
    (session.post posted).1.Waits format state ∧
      wsaRecvLens (session.post posted).2.1 = [format.request state] ∧
        (session.post posted).2.2 = if posted then 0 else -1 := by
  have next : session.nextWsaBufLen.1 = format.request state :=
    nextWsaBufLen_of_collects collects size
  rw [post_remains remains]
  refine ⟨⟨collects, remains, next⟩, ?_, rfl⟩
  simp only
  rw [wsaRecvLens_append, wsaRecvLens_nextWsaBufLen, next]
  rfl

/-- Received data are accepted, and the session moves with the decoder, unless
they stop inside a body. -/
theorem ioRecvData_of_collects
    {szRecvBuf : List UInt8}
    (collects : session.toSessionCore.Collects state)
    (size : format.headLength = sizeofHeadMsg)
    (granted : szRecvBuf.length ≤ format.request state)
    (nonempty : 0 < szRecvBuf.length)
    (reads : ∀ seen, state = .head seen →
      seen.length + szRecvBuf.length = sizeofHeadMsg →
        ReadsHead format (seen ++ szRecvBuf))
    (now : Int)
    (echoPosted : Bool) :
    let handled := session.ioRecvData szRecvBuf now echoPosted
    handled.1 = none ∧ ¬format.WholeBody state szRecvBuf ∨
      ∃ next, handled.1 = some next ∧
        next.toSessionCore.Collects (format.feed state szRecvBuf).1 ∧
          next.bIsToBeClose = session.bIsToBeClose := by
  cases state with
  | head seen =>
      obtain ⟨framed, noHead, rfl, opened⟩ := collects
      have data : session.ioRecvData szRecvBuf now echoPosted =
          session.ioRecvHead szRecvBuf now echoPosted := by
        simp [ioRecvData, framed, noHead]
      rw [Format.request, size] at granted
      have within : (cachedBytes session.recvBufs).length + szRecvBuf.length ≤
          sizeofHeadMsg := by omega
      rw [data]
      right
      rcases Nat.lt_or_eq_of_le within with short | full
      · refine ⟨_, (ioRecvHead_short short now echoPosted).1, ?_, rfl⟩
        rw [format.feed_head_short (short.trans_eq size.symm)]
        refine ⟨framed, noHead, cachedBytes_push _ _, ?_⟩
        rw [List.length_append]
        exact short
      · obtain ⟨next, handled, core, remains, -⟩ :=
          ioRecvHead_full opened full now echoPosted
        refine ⟨next, handled, ?_, remains⟩
        rw [core, format.feed_head_full (opened.trans_eq size.symm)
          (full.trans size.symm)]
        exact SessionCore.collects_finishHead framed noHead (reads _ rfl full) now
  | body kind need seen =>
      obtain ⟨framed, hasHead, empty, rfl, rfl, positive, bounded⟩ := collects
      have data : session.ioRecvData szRecvBuf now echoPosted =
          session.ioRecvBody szRecvBuf now := by
        simp [ioRecvData, framed, hasHead]
      have missing : session.missingBody = session.nNeedRecvDataLen := by
        rw [missingBody, sessionRecvCacheLen_eq, empty]
        unfold unsigned32
        simp only [cachedBytes_nil, List.length_nil]
        omega
      simp only [Format.request, List.length_nil, Nat.sub_zero] at granted
      rw [data]
      unfold ioRecvBody
      simp only [missing]
      rcases Nat.lt_or_eq_of_le granted with short | full
      · left
        rw [if_neg (by omega), if_neg (by omega)]
        refine ⟨rfl, ?_⟩
        rintro (none | whole)
        · rw [none] at nonempty
          contradiction
        · simp only [List.length_nil, Nat.zero_add] at whole
          omega
      · right
        rw [if_pos full.symm]
        refine ⟨_, rfl, ?_, rfl⟩
        rw [format.feed_body_full (by simpa using positive) (by simpa using full)]
        exact SessionCore.collects_finishBody framed now

/-- A completed receive is refused, or one receive is posted for what the
decoder then lacks. It is refused only when it stops inside a body. -/
theorem Waits.complete
    {turn : IocpTurn}
    (waits : session.Waits format state)
    (size : format.headLength = sizeofHeadMsg)
    (granted : turn.bytes.length ≤ session.perIoContextRecv.wsaBufLen)
    (reads : ∀ seen, state = .head seen →
      seen.length + turn.bytes.length = sizeofHeadMsg →
        ReadsHead format (seen ++ turn.bytes)) :
    let call := session.complete turn
    ¬format.WholeBody state turn.bytes ∧ wsaRecvLens call.2.1 = [] ∧
        call.2.2 = -1 ∨
      wsaRecvLens call.2.1 =
          [format.request (format.feed state turn.bytes).1] ∧
        (call.2.2 = if turn.recvPosted then 0 else -1) ∧
          call.1.Waits format (format.feed state turn.bytes).1 := by
  rw [waits.requested] at granted
  have collects : (session.received turn.bytes).toSessionCore.Collects state :=
    waits.collects
  have silent := wsaRecvLens_ioRecvData (session.received turn.bytes) turn.bytes
    turn.now turn.echoPosted
  rw [complete_eq]
  rcases ioRecvData_of_collects collects size granted turn.chunk.nonempty reads
      turn.now turn.echoPosted with ⟨refused, stops⟩ | ⟨next, handled, moved, keeps⟩
  · left
    simp only [ioRecvPost, refused]
    exact ⟨stops, silent, trivial⟩
  · right
    have remains : next.clearBuffer.bIsToBeClose = false :=
      keeps.trans waits.remains
    have posted := @waits_post format _ next.clearBuffer moved remains size
      turn.recvPosted
    simp only [ioRecvPost, handled]
    rw [wsaRecvLens_append, silent, List.nil_append]
    exact ⟨posted.2.1, posted.2.2, posted.1⟩

/-- An accepted framed session asks for a header. -/
theorem waits_postRecv
    (garbage : SessionGarbage)
    (now : Int)
    {arguments : IocpArguments}
    (framed : arguments.bIsHaveHead = true)
    (size : format.headLength = sizeofHeadMsg) :
    let posted := (accepted garbage now arguments).postRecv true
    posted.1.Waits format (.head []) ∧
      wsaRecvLens posted.2.1 = [format.request (.head [])] := by
  have collects : (accepted garbage now arguments).toSessionCore.Collects
      (.head []) := ⟨framed, rfl, rfl, by decide⟩
  have posted := waits_post collects rfl size true
  exact ⟨posted.1, posted.2.1⟩

end IocpSession

end TransPortEngine
