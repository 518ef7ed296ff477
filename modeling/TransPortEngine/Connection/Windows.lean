import TransPortEngine.Connection.Linux

/-!
# Connections to a server on Windows

A session on Windows asks only for what the current header or body lacks, so it
never reads past either. A body that does not come as a whole ends the
connection; everything else is decoded and answered as on Linux.
-/

namespace TransPortEngine

open Framing MachineInt Exchange Transition

@[simp] theorem overlappedBytes_append (first second : List EngineEvent) :
    overlappedBytes (first ++ second) =
      overlappedBytes first ++ overlappedBytes second :=
  List.flatMap_append

@[simp] theorem overlappedBytes_recvBufLocked_nil :
    overlappedBytes (recvBufLocked []) = [] := rfl

/-- Copies send nothing. -/
@[simp] theorem overlappedBytes_assembleCopies
    (capacity : Nat)
    (recvBufs : List BufInfo)
    (szRecvBuf : List UInt8) :
    overlappedBytes (assembleCopies capacity recvBufs szRecvBuf) = [] := by
  apply List.flatMap_eq_nil_iff.mpr
  apply forall_assembleCopies
  · rfl
  · rfl
  · intro capacity offset count
    rfl

namespace IocpSession

section Passes

variable {session next : IocpSession} {turn : IocpTurn}
  {state : State UInt8 HeadKind}

/-- The next receive is neither a message nor output. -/
theorem silent_post (session : IocpSession) (posted : Bool) :
    messages (session.post posted).2.1 = [] ∧
      overlappedBytes (session.post posted).2.1 = [] := by
  have requested : messages session.nextWsaBufLen.2 = [] ∧
      overlappedBytes session.nextWsaBufLen.2 = [] := by
    unfold nextWsaBufLen
    split
    · split <;> exact ⟨rfl, rfl⟩
    · exact ⟨rfl, rfl⟩
  simp only [post]
  split
  · exact requested
  · simp only [messages_append, overlappedBytes_append, requested]
    exact ⟨rfl, rfl⟩

/-- A session that has posted its next receive awaits what the decoder lacks,
whether or not `WSARecv` has failed. -/
theorem awaits_post
    (follows : session.toSessionCore.Follows state)
    (remains : session.bIsToBeClose = false)
    (posted : Bool) :
    (session.post posted).1.Awaits state := by
  have requested := nextWsaBufLen_eq follows
  unfold post
  rw [if_neg (by simp [remains])]
  exact ⟨follows, remains, requested⟩

/-- Data that are accepted are understood if they are handed on and answered as
the decoder would. -/
theorem understood_of_some
    {handled : Option IocpSession × List EngineEvent}
    {bytes : List UInt8}
    (data : (session.received turn.bytes).ioRecvData turn.bytes turn.now
      turn.echoPosted = handled)
    (accepted : handled.1 = some next)
    (follows : next.toSessionCore.Follows (frameFormat.feed state bytes).1)
    (remains : next.bIsToBeClose = false)
    (handed : messages handled.2 =
      (frameFormat.feed state bytes).2.filterMap frameMessage)
    (answered : ∃ echoes : List (Frame frameFormat),
      overlappedBytes handled.2 = wire echoes ∧
        frameMessages echoes =
          (messages handled.2).flatMap (answers .far)) :
    Decoded (fun state (session : kind.Session) => session.Awaits state)
      state bytes (kind.receive session turn) := by
  have silent := silent_post next.clearBuffer turn.recvPosted
  have call : session.complete turn =
      ((next.clearBuffer.post turn.recvPosted).1,
        handled.2 ++ (next.clearBuffer.post turn.recvPosted).2.1,
        (next.clearBuffer.post turn.recvPosted).2.2) := by
    rw [complete_eq, data, ioRecvPost, accepted]
  have events : messages (session.complete turn).2.1 = messages handled.2 ∧
      overlappedBytes (session.complete turn).2.1 =
        overlappedBytes handled.2 := by
    simp only [call, messages_append, overlappedBytes_append, silent,
      List.append_nil, and_self]
  obtain ⟨echoes, output, echoed⟩ := answered
  refine ⟨?_, events.1.trans handed, echoes, events.2.trans output, ?_⟩
  · change (session.complete turn).1.Awaits _
    rw [call]
    exact @awaits_post next.clearBuffer _ follows remains turn.recvPosted
  · change frameMessages echoes =
      (messages (session.complete turn).2.1).flatMap _
    rw [events.1]
    exact echoed

/-- A piece that stays inside the header is kept without an effect. -/
theorem silent_head_short
    {szRecvBuf : List UInt8}
    (short : (cachedBytes session.recvBufs).length + szRecvBuf.length <
      sizeofHeadMsg)
    (now : Int)
    (echoPosted : Bool) :
    messages (session.ioRecvHead szRecvBuf now echoPosted).2 = [] ∧
      overlappedBytes (session.ioRecvHead szRecvBuf now echoPosted).2 = [] := by
  have missing := session.missingHead_eq (by omega)
  simp only [ioRecvHead]
  rw [if_neg (by omega), if_pos (by omega)]
  exact ⟨rfl, rfl⟩

/-- An accepted echo is on its way as a whole. -/
theorem ioSend_posted
    {szData : List UInt8}
    {nDataLen : Int}
    (positive : 0 < nDataLen)
    (lengthEq : nDataLen = szData.length)
    (remains : session.bIsToBeClose = false) :
    messages (session.ioSend szData nDataLen true).2.1 = [] ∧
      overlappedBytes (session.ioSend szData nDataLen true).2.1 = szData := by
  have whole : szData.take nDataLen.toNat = szData :=
    List.take_of_length_le (by omega)
  unfold ioSend
  rw [if_neg (by omega), if_neg (by simp [remains]), whole]
  refine ⟨rfl, ?_⟩
  simp [overlappedBytes, EngineEvent.overlapped]

/-- A piece that completes a header hands on and answers an empty heartbeat. -/
theorem answer_head_full
    {szRecvBuf : List UInt8}
    {frame : Frame frameFormat}
    (opened : (cachedBytes session.recvBufs).length < sizeofHeadMsg)
    (full : (cachedBytes session.recvBufs).length + szRecvBuf.length =
      sizeofHeadMsg)
    (headEq : cachedBytes session.recvBufs ++ szRecvBuf = frame.head)
    (remains : session.bIsToBeClose = false)
    (now : Int) :
    messages (session.ioRecvHead szRecvBuf now true).2 =
        (if frame.kind = .heartbeat then [.heartbeat] else []) ∧
      ∃ echoes : List (Frame frameFormat),
        overlappedBytes (session.ioRecvHead szRecvBuf now true).2 =
            wire echoes ∧
          frameMessages echoes =
            (if frame.kind = .heartbeat then [Message.heartbeat]
              else []).flatMap (answers .far) := by
  have missing := session.missingHead_eq opened
  have assembled := session.toSessionCore.headBuf_eq full
  have size : ((sizeofHeadMsg : Nat) : Int) = frame.head.length :=
    congrArg Nat.cast frame.head_length.symm
  simp only [ioRecvHead]
  rw [if_neg (by omega), if_neg (by omega), assembled, headEq]
  by_cases isHeartbeat : frame.kind = .heartbeat
  · have type := headTypeIs_of_headKind_heartbeat isHeartbeat
    obtain ⟨symbols, empty⟩ := symbols_of_heartbeat isHeartbeat
    obtain ⟨silent, sent⟩ := @ioSend_posted
      (session.setCore (session.toSessionCore.finishHead frame.head now))
      frame.head sizeofHeadMsg (by decide) size remains
    have message : frameMessage frame.output = some .heartbeat := by
      rw [Frame.output, isHeartbeat]
      rfl
    rw [if_pos type, if_pos isHeartbeat, empty]
    refine ⟨?_, [frame], ?_, ?_⟩
    · simp only [messages_append, messages_assembleCopies, silent]
      rfl
    · have single : wire [frame] = frame.symbols := List.flatMap_singleton ..
      simp only [overlappedBytes_append, overlappedBytes_assembleCopies, sent,
        single, symbols]
      rfl
    · rw [frameMessages, List.filterMap_cons, message]
      rfl
  · have type := headTypeIs_of_other isHeartbeat
    rw [if_neg (by simp [type]), if_neg isHeartbeat]
    refine ⟨?_, [], ?_, rfl⟩
    · simp only [messages_append, messages_assembleCopies]
      rfl
    · simp only [overlappedBytes_append, overlappedBytes_assembleCopies]
      rfl

/-- A body that comes as a whole is handed on. -/
theorem handed_body_full
    {szRecvBuf : List UInt8}
    (receives : session.hasTransPortEngineRecv = true)
    (isData : session.nRecvDataType = 1)
    (empty : session.recvBufs = [])
    (full : szRecvBuf.length = session.nNeedRecvDataLen)
    (small : session.nNeedRecvDataLen < 2147483648)
    (now : Int) :
    messages (session.ioRecvBody szRecvBuf now).2 = [.payload szRecvBuf] ∧
      overlappedBytes (session.ioRecvBody szRecvBuf now).2 = [] := by
  have missing := session.missingBody_eq empty small
  have body := session.toSessionCore.take_bodyBuf empty full small
  have events : session.bodyEvents (session.toSessionCore.bodyBuf szRecvBuf) =
      [.onTransPortEngineRecv session.socket szRecvBuf] := by
    simp [bodyEvents, isData, receives, body]
  simp only [ioRecvBody]
  rw [if_pos (by omega), events]
  constructor
  · simp only [messages_append, messages_assembleCopies]
    rfl
  · simp only [overlappedBytes_append, overlappedBytes_assembleCopies]
    rfl

/-- Data that are refused are dropped with the session. -/
theorem dropped_of_none
    (refused : ((session.received turn.bytes).ioRecvData turn.bytes turn.now
      turn.echoPosted).1 = none)
    (silent : messages ((session.received turn.bytes).ioRecvData turn.bytes
      turn.now turn.echoPosted).2 = [])
    (quiet : overlappedBytes ((session.received turn.bytes).ioRecvData
      turn.bytes turn.now turn.echoPosted).2 = []) :
    Dropped (fun _ : kind.Session => False) (kind.receive session turn) := by
  have call : session.complete turn = (session.received turn.bytes,
      ((session.received turn.bytes).ioRecvData turn.bytes turn.now
        turn.echoPosted).2, -1) := by
    rw [complete_eq, ioRecvPost, refused]
  refine ⟨?_, ?_, ?_⟩
  · change messages (session.complete turn).2.1 = []
    rw [call]
    exact silent
  · change overlappedBytes (session.complete turn).2.1 = []
    rw [call]
    exact quiet
  · change decide (0 ≤ (session.complete turn).2.2) = true → _
    rw [call]
    exact fun stays => by contradiction

/-- A completion is understood, or it ends the connection. -/
theorem receive_follows
    {rest : List UInt8}
    {waiting : List Message}
    (awaits : session.Awaits state)
    (granted : turn.bytes.length ≤ session.perIoContextRecv.wsaBufLen)
    (whole : turn.echoPosted = true)
    (carries : Carries state (turn.bytes ++ rest) waiting) :
    Decoded (fun state (session : kind.Session) => session.Awaits state)
        state turn.bytes (kind.receive session turn) ∨
      Dropped (fun _ : kind.Session => False) (kind.receive session turn) := by
  have nonempty : 0 < turn.bytes.length := turn.chunk.nonempty
  have follows : (session.received turn.bytes).toSessionCore.Follows state :=
    awaits.follows
  have remains : (session.received turn.bytes).bIsToBeClose = false :=
    awaits.remains
  rw [awaits.requested] at granted
  obtain ⟨frames, pending, -⟩ := carries
  cases state with
  | head seen =>
      obtain ⟨framed, receives, noHead, rfl, opened⟩ := follows
      have data : (session.received turn.bytes).ioRecvData turn.bytes turn.now
          turn.echoPosted = (session.received turn.bytes).ioRecvHead turn.bytes
            turn.now true := by
        simp [ioRecvData, framed, noHead, whole]
      have fits : (cachedBytes (session.received turn.bytes).recvBufs).length +
          turn.bytes.length ≤ sizeofHeadMsg := by
        simp only [Format.request, frameFormat_headLength] at granted
        omega
      left
      rcases Nat.lt_or_eq_of_le fits with short | full
      · obtain ⟨accepted, -⟩ := ioRecvHead_short short turn.now true
        have silent := silent_head_short short turn.now true
        have fed := frameFormat.feed_head_short short
        refine understood_of_some data accepted ?_ remains ?_ ⟨[], ?_, ?_⟩
        · rw [fed]
          refine ⟨framed, receives, noHead,
            SessionCore.cachedBytes_pushRecvBuf _ _, ?_⟩
          rw [List.length_append]
          exact short
        · rw [fed]
          exact silent.1
        · exact silent.2
        · rw [silent.1]
          rfl
      · obtain ⟨next, accepted, core, keeps, -⟩ :=
          ioRecvHead_full opened full turn.now true
        obtain ⟨frame, later, -, headEq, -⟩ := pending.headComplete full
        have answer := answer_head_full opened full headEq remains turn.now
        have after := SessionCore.follows_afterHead framed receives noHead frame
          turn.now
        have fed := frameFormat.feed_head_full opened full
        rw [headEq] at core fed
        refine understood_of_some data accepted ?_ (keeps.trans remains) ?_ ?_
        · rw [fed, core]
          exact after.1
        · rw [fed, frameMessages_afterHead]
          exact answer.1
        · rw [answer.1]
          exact answer.2
  | body headKind need seen =>
      obtain ⟨framed, receives, hasHead, empty, rfl, rfl, isData, needEq,
        positive, small⟩ := follows
      have data : (session.received turn.bytes).ioRecvData turn.bytes turn.now
          turn.echoPosted =
            (session.received turn.bytes).ioRecvBody turn.bytes turn.now := by
        simp [ioRecvData, framed, hasHead]
      have within : turn.bytes.length ≤ need := granted
      rcases Nat.lt_or_eq_of_le within with short | full
      · have refused := ioRecvBody_short empty (needEq ▸ short)
          (needEq ▸ small) turn.now
        have missing := (session.received turn.bytes).missingBody_eq empty
          (needEq ▸ small)
        have silent : messages ((session.received turn.bytes).ioRecvBody
              turn.bytes turn.now).2 = [] ∧
            overlappedBytes ((session.received turn.bytes).ioRecvBody
              turn.bytes turn.now).2 = [] := by
          simp only [ioRecvBody]
          rw [if_neg (by omega), if_neg (by omega)]
          exact ⟨rfl, rfl⟩
        right
        rw [← data] at refused silent
        exact dropped_of_none refused silent.1 silent.2
      · obtain ⟨accepted, -⟩ := ioRecvBody_full receives isData empty
          (full.trans needEq.symm) (needEq ▸ small) turn.now
        have handed := handed_body_full receives isData empty
          (full.trans needEq.symm) (needEq ▸ small) turn.now
        have fed : frameFormat.feed (.body .data need []) turn.bytes =
            (.head [], [(.data, [] ++ turn.bytes)]) :=
          frameFormat.feed_body_full (by simpa using positive)
            (by simpa using full)
        left
        refine understood_of_some data accepted ?_ remains ?_ ⟨[], ?_, ?_⟩
        · rw [fed]
          exact SessionCore.follows_finishBody framed receives isData turn.now
        · rw [fed]
          exact handed.1
        · exact handed.2
        · rw [handed.1]
          rfl

end Passes

/-- A session that awaits data is in framed mode. -/
theorem Awaits.framed
    {session : IocpSession}
    {state : State UInt8 HeadKind}
    (awaits : session.Awaits state) :
    session.bIsHaveHead = true := by
  cases state with
  | head seen => exact awaits.follows.1
  | body kind need seen => exact awaits.follows.1

/-- A send leaves the session waiting for what it has asked for. -/
theorem Awaits.ioSend
    {session : IocpSession}
    {state : State UInt8 HeadKind}
    (awaits : session.Awaits state)
    (szData : List UInt8)
    (nDataLen : Int)
    (posted : Bool) :
    (session.ioSend szData nDataLen posted).1.Awaits state := by
  unfold IocpSession.ioSend
  split
  · exact awaits
  · split
    · exact awaits
    · dsimp only
      split
      · exact ⟨awaits.follows, awaits.remains, awaits.requested⟩
      · exact ⟨awaits.follows, awaits.remains, awaits.requested⟩

/-- A payload leaves it waiting as well. -/
theorem Awaits.sendData
    {session : IocpSession}
    {state : State UInt8 HeadKind}
    (awaits : session.Awaits state)
    (payload : Payload)
    (posted : Bool) :
    (session.sendData payload posted).1.Awaits state := by
  rw [IocpSession.sendData, if_pos awaits.framed]
  exact awaits.ioSend _ _ posted

/-- A payload sent in framed mode is one overlapped send of its frame. -/
theorem sendData_posted
    {session : IocpSession}
    {state : State UInt8 HeadKind}
    (awaits : session.Awaits state)
    (payload : Payload) :
    messages (session.sendData payload true).2.1 = [] ∧
      overlappedBytes (session.sendData payload true).2.1 =
        (dataFrame payload).symbols := by
  have small := payload.fitsInt
  have frame : frameBuf payload.bytes payload.bytes.length =
      (dataFrame payload).symbols := frameBuf_eq rfl
  have length : ((payload.bytes.length : Int) + sizeofHeadMsg) =
      (dataFrame payload).symbols.length := by
    simp [Frame.symbols, dataFrame, Int.add_comm]
  have positive := payload.nonempty
  rw [sendData, if_pos awaits.framed, frame,
    signed32_of_range (by omega) (by omega)]
  exact ioSend_posted (by omega) length awaits.remains

/-- Sessions on Windows decode, and none of them goes deaf. -/
def decodes : kind.Decodes where
  follows := fun state session => session.Awaits state
  deaf := fun _ => False
  receive_follows := fun awaits granted whole carries =>
    receive_follows awaits (of_decide_eq_true granted) whole carries
  receive_deaf := fun _ deaf => deaf.elim
  send_output := by
    intro session payload posted listens whole
    obtain ⟨state, awaits⟩ := listens.resolve_left id
    have sent := sendData_posted awaits payload
    rw [show posted = true from whole]
    exact ⟨sent.2, sent.1⟩
  send_follows := by
    intro state session payload posted awaits
    exact Awaits.sendData awaits payload posted
  send_deaf := fun _ _ deaf => deaf.elim

end IocpSession

/-! ## Connections -/

namespace FramedConnection

/-- However sends, completions and heartbeats alternate, each end of a framed
connection to a server on Windows has handed on the first messages of what the
other end sent; and all of them once nothing is on its way. Both ends ask for no
more than their buffers hold. -/
theorem delivers_both_ways_iocp
    (client : TcpClient)
    (session : IocpSession)
    (labels : List (ConnectionLabel IocpSession.kind))
    (last : FramedConnection IocpSession.kind)
    (clientStart : client.AtFrameStart)
    (sessionStart : session.Awaits (.head []))
    (throughout : Throughout step SendsWhole (start client session) labels)
    (reached : run step (start client session) labels = some last)
    (fitsClient : last.ServerPayloadsFit)
    (fitsSession : last.ClientPayloadsFit) :
    last.client.recvRequest ≤ maxBufferLen ∧
      (last.serves = true →
        (last.session : IocpSession).perIoContextRecv.wsaBufLen ≤
          maxBufferLen) ∧
      Delivers (fun _ : IocpSession => False) last := by
  obtain ⟨exchange, fair, represents⟩ := run_represents IocpSession.decodes
    clientStart sessionStart throughout reached
  refine ⟨recvRequest_le represents fair fitsClient, ?_,
    delivers_of_represents represents fair⟩
  intro serves
  obtain ⟨state, awaits, bounded⟩ :=
    (request_le represents fair fitsSession serves).resolve_left id
  exact awaits.requested.trans_le bounded

/-- A turn that completes a receive with some bytes. -/
def completion (chunk : Chunk maxBufferLen) : IocpTurn :=
  ⟨chunk, 1, true, true⟩

/-- A heartbeat comes in two parts and is answered, with a letter of the session
before it. -/
def letterAndAnswer : List (ConnectionLabel IocpSession.kind) :=
  [.serverSend letterA true,
    .clientSend .heartbeat 8,
    .serverRecv (completion ⟨[0x48, 0x42, 0, 0], by decide, by decide⟩),
    .clientRecv (headRecv (dataFrame letterA) 3),
    .serverRecv (completion ⟨[0, 0, 0, 0], by decide, by decide⟩),
    .clientRecv ⟨.data letterA.bytes letterA.nonempty, 4⟩,
    .clientRecv (headRecv ClientSend.heartbeat.frame 5)]

theorem delivers_letterAndAnswer :
    ∃ last, run step (start TcpClient.framedClient
        IocpSession.framedIocpSession) letterAndAnswer = some last ∧
      messages last.serverEvents = [.heartbeat] ∧
      messages last.clientEvents = [.payload [0x41], .heartbeat] ∧
      Delivers (fun _ : IocpSession => False) last := by
  refine ⟨_, rfl, by decide, by decide, ?_⟩
  refine (delivers_both_ways_iocp TcpClient.framedClient
    IocpSession.framedIocpSession letterAndAnswer _
    (TcpClient.atFrameStart_configure _ _ _) (IocpSession.awaits_postRecv rfl rfl)
    (by decide) rfl ?_ ?_).2.2
  · exact List.forall_mem_singleton.mpr (by decide)
  · intro payload sent
    have isHeartbeat := List.mem_singleton.mp sent
    contradiction

end FramedConnection

end TransPortEngine
