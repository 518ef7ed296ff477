import TransPortEngine.Connection.Refinement

/-!
# Connections to a server on Linux

A session on Linux does what the decoder does as long as its reads stop where
headers and bodies end. Any other read ends the connection, or leaves the session
collecting for good. Either way what has been handed on is the first part of what
was sent.
-/

namespace TransPortEngine

open Framing MachineInt Exchange Transition

/-! ## What the passes hand on and send -/

/-- The writes of a send are no messages. -/
@[simp] theorem messages_ioSendWrites
    (nSocket : Int)
    (szData : List UInt8)
    (nWriteLen : Nat)
    (results : List WriteResult) :
    messages (ioSendWrites nSocket szData nWriteLen results) = [] := by
  apply List.filterMap_eq_nil_iff.mpr
  apply forall_ioSendWrites
  intro bytes
  rfl

/-- The outputs of a decoder behind a header, as messages: an empty heartbeat is
complete, and a data frame is not. -/
theorem frameMessages_afterHead (frame : Frame frameFormat) :
    (frameFormat.afterHead frame.head).2.filterMap frameMessage =
      if frame.kind = .heartbeat then [.heartbeat] else [] := by
  rcases frame.head_valid with ⟨isData, positive, -⟩ | ⟨isHeartbeat, empty⟩
  · have kind : frame.kind = .data := isData
    rw [frameFormat.afterHead_of_pos positive, kind]
    rfl
  · have kind : frame.kind = .heartbeat := isHeartbeat
    have parsed : (frameFormat.parse frame.head).1 = .heartbeat := isHeartbeat
    rw [frameFormat.afterHead_of_zero empty, parsed, kind]
    rfl

/-- A heartbeat is its header. -/
theorem symbols_of_heartbeat
    {frame : Frame frameFormat}
    (isHeartbeat : frame.kind = .heartbeat) :
    frame.symbols = frame.head ∧ headDataLen frame.head = 0 := by
  have kind : headKind frame.head = .heartbeat := isHeartbeat
  rcases frame.head_valid with ⟨isData, -⟩ | ⟨-, empty⟩
  · rw [isData] at kind
    contradiction
  · have noBody : frame.body = [] :=
      List.eq_nil_of_length_eq_zero (frame.body_length.trans empty)
    rw [Frame.symbols, noBody, List.append_nil]
    exact ⟨rfl, empty⟩

/-- The header of any other frame is not taken for a heartbeat. -/
theorem headTypeIs_of_other
    {frame : Frame frameFormat}
    (other : ¬frame.kind = .heartbeat) :
    headTypeIs heartBeat frame.head = false := by
  by_contra type
  apply other
  change headKind frame.head = .heartbeat
  rw [headKind, if_pos (Bool.not_eq_false _ ▸ type)]

namespace TcpSession

/-- The answer to a header that carries no message of its own. -/
theorem messages_headEvents
    (session : TcpSession)
    {frame : Frame frameFormat}
    (echo : EchoOutcomes) :
    messages (session.headEvents frame.head echo) =
      if frame.kind = .heartbeat then [.heartbeat] else [] := by
  have size : ((sizeofHeadMsg : Nat) : Int) = frame.head.length :=
    congrArg Nat.cast frame.head_length.symm
  have silent : messages (session.ioSend (some frame.head) sizeofHeadMsg
      echo.outcomes).events = [] := by
    rw [session.ioSend_eq echo.outcomes (by decide) size]
    exact messages_ioSendWrites ..
  by_cases isHeartbeat : frame.kind = .heartbeat
  · have type := headTypeIs_of_headKind_heartbeat isHeartbeat
    have empty := (symbols_of_heartbeat isHeartbeat).2
    rw [headEvents, if_pos type, empty, messages_append, silent,
      if_pos isHeartbeat]
    rfl
  · have type := headTypeIs_of_other isHeartbeat
    rw [headEvents, if_neg (by simp [type]), if_neg isHeartbeat]
    rfl

/-- What the session sends in answer to a header is an echo of a heartbeat. -/
theorem written_headEvents_whole
    (session : TcpSession)
    {frame : Frame frameFormat}
    {echo : EchoOutcomes}
    (whole : acceptsAll echo.outcomes.writes sizeofHeadMsg = true) :
    ∃ echoes : List (Frame frameFormat),
      written (session.headEvents frame.head echo) = wire echoes ∧
        frameMessages echoes =
          (if frame.kind = .heartbeat then [Message.heartbeat]
            else []).flatMap (answers .far) := by
  by_cases isHeartbeat : frame.kind = .heartbeat
  · have type := headTypeIs_of_headKind_heartbeat isHeartbeat
    have size : frame.head.length = sizeofHeadMsg := frame.head_length
    have reached := ioSendLoop_of_acceptsAll (Nat.zero_le sizeofHeadMsg) whole
    refine ⟨[frame], ?_, ?_⟩
    · rw [session.written_headEvents size type, reached,
        List.take_of_length_le size.le]
      have single : wire [frame] = frame.symbols := List.flatMap_singleton ..
      rw [single, (symbols_of_heartbeat isHeartbeat).1]
    · have message : frameMessage frame.output = some .heartbeat := by
        rw [Frame.output, isHeartbeat]
        rfl
      rw [if_pos isHeartbeat, frameMessages, List.filterMap_cons, message]
      rfl
  · have type := headTypeIs_of_other isHeartbeat
    refine ⟨[], ?_, ?_⟩
    · rw [headEvents, if_neg (by simp [type])]
      rfl
    · rw [if_neg isHeartbeat]
      rfl

section Passes

variable {session : TcpSession} {turn : RecvTurn} {chunk : Chunk 1024}

/-- A turn with data reacts as its pass does. -/
theorem react_data
    (read : turn.read = .data chunk) :
    session.react turn =
      let pass := session.ioRecvData chunk.bytes turn.now turn.echo
      ⟨pass.session, .read session.nSocket :: pass.events,
        pass.ending.stays⟩ := by
  simp only [react, ioRecvPass, read]

/-- The event of the `read` itself is neither a message nor output. -/
theorem messages_read_cons (nSocket : Int) (events : List EngineEvent) :
    messages (.read nSocket :: events) = messages events := rfl

/-- Reads that stay inside a header. -/
theorem understood_head_short
    {seen : List UInt8}
    (read : turn.read = .data chunk)
    (follows : session.toSessionCore.Follows (.head seen))
    (short : seen.length + chunk.bytes.length < sizeofHeadMsg) :
    Decoded (fun state (session : kind.Session) =>
        session.toSessionCore.Follows state)
      (.head seen) chunk.bytes (session.react turn) := by
  obtain ⟨framed, receives, noHead, rfl, opened⟩ := follows
  have data : session.ioRecvData chunk.bytes turn.now turn.echo =
      session.ioRecvHead chunk.bytes turn.now turn.echo := by
    simp [ioRecvData, framed, noHead]
  obtain ⟨sessionEq, -, -⟩ := ioRecvHead_short short turn.now turn.echo
  have quiet := written_ioRecvHead_short short turn.now turn.echo
  have silent : messages
      (session.ioRecvHead chunk.bytes turn.now turn.echo).events = [] := by
    have missing := session.toSessionCore.missingHead_eq opened
    simp only [ioRecvHead]
    rw [if_neg (by omega), if_pos (by omega)]
    rfl
  rw [react_data read, data]
  refine ⟨?_, ?_, [], ?_, ?_⟩
  · rw [frameFormat.feed_head_short short]
    dsimp only
    rw [sessionEq]
    refine ⟨framed, receives, noHead, SessionCore.cachedBytes_pushRecvBuf _ _,
      ?_⟩
    rw [List.length_append]
    exact short
  · rw [frameFormat.feed_head_short short]
    exact silent
  · exact quiet
  · dsimp only
    rw [messages_read_cons, silent]
    rfl

/-- A read that completes a header. -/
theorem understood_head_full
    {seen rest : List UInt8}
    {frames : List (Frame frameFormat)}
    (read : turn.read = .data chunk)
    (whole : acceptsAll turn.echo.outcomes.writes sizeofHeadMsg = true)
    (follows : session.toSessionCore.Follows (.head seen))
    (pending : frameFormat.Pending (.head seen) (chunk.bytes ++ rest) frames)
    (full : seen.length + chunk.bytes.length = sizeofHeadMsg) :
    Decoded (fun state (session : kind.Session) =>
        session.toSessionCore.Follows state)
      (.head seen) chunk.bytes (session.react turn) := by
  obtain ⟨framed, receives, noHead, rfl, opened⟩ := follows
  have data : session.ioRecvData chunk.bytes turn.now turn.echo =
      session.ioRecvHead chunk.bytes turn.now turn.echo := by
    simp [ioRecvData, framed, noHead]
  obtain ⟨sessionEq, -, -⟩ := ioRecvHead_full opened full turn.now turn.echo
  have answer := written_ioRecvHead_full opened full turn.now turn.echo
  obtain ⟨frame, later, -, headEq, -⟩ := pending.headComplete full
  have handed : messages
      (session.ioRecvHead chunk.bytes turn.now turn.echo).events =
        if frame.kind = .heartbeat then [.heartbeat] else [] := by
    have missing := session.toSessionCore.missingHead_eq opened
    have assembled := session.toSessionCore.headBuf_eq full
    simp only [ioRecvHead]
    rw [if_neg (by omega), if_neg (by omega), assembled, headEq]
    simp only [messages_append, messages_recvBufLocked_nil,
      messages_assembleCopies, messages_headEvents, List.nil_append]
  obtain ⟨echoes, output, echoed⟩ :=
    (session.behindHead frame.head turn.now).written_headEvents_whole whole
  have after := SessionCore.follows_afterHead framed receives noHead frame
    turn.now
  rw [react_data read, data]
  refine ⟨?_, ?_, echoes, ?_, ?_⟩
  · rw [frameFormat.feed_head_full opened full, headEq]
    dsimp only
    rw [sessionEq, headEq]
    exact after.1
  · rw [frameFormat.feed_head_full opened full, headEq, frameMessages_afterHead]
    exact handed
  · rw [headEq] at answer
    exact answer.trans output
  · dsimp only
    rw [messages_read_cons, handed]
    exact echoed

/-- A body that comes in one read. -/
theorem understood_body
    {kind : HeadKind}
    {need : Nat}
    {seen : List UInt8}
    (read : turn.read = .data chunk)
    (follows : session.toSessionCore.Follows (.body kind need seen))
    (full : chunk.bytes.length = need) :
    Decoded (fun state (session : TcpSession.kind.Session) =>
        session.toSessionCore.Follows state)
      (.body kind need seen) chunk.bytes (session.react turn) := by
  obtain ⟨framed, receives, hasHead, empty, rfl, rfl, isData, needEq, positive,
    small⟩ := follows
  have data : session.ioRecvData chunk.bytes turn.now turn.echo =
      session.ioRecvBody chunk.bytes turn.now := by
    simp [ioRecvData, framed, hasHead]
  obtain ⟨sessionEq, -, -⟩ := ioRecvBody_full receives isData empty
    (full.trans needEq.symm) (needEq ▸ small) turn.now
  have quiet := session.written_ioRecvBody chunk.bytes turn.now
  have handed : messages (session.ioRecvBody chunk.bytes turn.now).events =
      [.payload chunk.bytes] := by
    have missing := session.toSessionCore.missingBody_eq empty (needEq ▸ small)
    have body := session.toSessionCore.take_bodyBuf empty
      (full.trans needEq.symm) (needEq ▸ small)
    simp only [ioRecvBody]
    rw [if_pos (by omega)]
    simp only [bodyEvents, isData, receives, body, messages_append,
      messages_recvBufLocked_nil, messages_assembleCopies]
    rfl
  rw [react_data read, data]
  refine ⟨?_, ?_, [], ?_, ?_⟩
  · rw [frameFormat.feed_body_full (by simpa using positive)
      (by simpa using full)]
    dsimp only
    rw [sessionEq]
    exact SessionCore.follows_finishBody framed receives isData turn.now
  · rw [frameFormat.feed_body_full (by simpa using positive)
      (by simpa using full)]
    exact handed
  · exact quiet
  · dsimp only
    rw [messages_read_cons, handed]
    rfl

/-- The passes of the body branch that hand nothing on. -/
theorem silent_ioRecvBody
    (unfit : session.missingBody ≠ chunk.bytes.length) :
    messages (session.ioRecvBody chunk.bytes turn.now).events = [] := by
  simp only [ioRecvBody]
  rw [if_neg unfit]
  split <;> rfl

/-- A read that does not fit ends the connection or is kept for good. -/
theorem dropped_unfit
    {state : State UInt8 HeadKind}
    (read : turn.read = .data chunk)
    (follows : session.toSessionCore.Follows state)
    (unfit : ¬frameFormat.WholeBody state chunk.bytes) :
    Dropped (fun session : kind.Session => session.toSessionCore.Overrun)
      (session.react turn) := by
  rw [react_data read]
  cases state with
  | head seen =>
      obtain ⟨framed, receives, noHead, rfl, opened⟩ := follows
      have long := not_le.mp unfit
      have data : session.ioRecvData chunk.bytes turn.now turn.echo =
          session.ioRecvHead chunk.bytes turn.now turn.echo := by
        simp [ioRecvData, framed, noHead]
      have missing := session.toSessionCore.missingHead_eq opened
      simp only [data, ioRecvHead]
      rw [frameFormat_headLength] at long
      rw [if_pos (by omega)]
      exact ⟨rfl, rfl, fun stays => by contradiction⟩
  | body headKind need seen =>
      obtain ⟨framed, receives, hasHead, empty, rfl, rfl, isData, needEq,
        positive, small⟩ := follows
      have data : session.ioRecvData chunk.bytes turn.now turn.echo =
          session.ioRecvBody chunk.bytes turn.now := by
        simp [ioRecvData, framed, hasHead]
      have missing := session.toSessionCore.missingBody_eq empty
        (needEq ▸ small)
      have lengths : chunk.bytes.length ≠ need := by
        intro full
        exact unfit (Or.inr (by simpa using full))
      have silent : messages
          (session.ioRecvBody chunk.bytes turn.now).events = [] :=
        silent_ioRecvBody (by omega)
      rw [data]
      refine ⟨silent, session.written_ioRecvBody chunk.bytes turn.now, ?_⟩
      rcases Nat.lt_or_gt_of_ne lengths with short | long
      · have leaves := ioRecvBody_short empty (needEq ▸ short)
          (needEq ▸ small) turn.now
        dsimp only
        rw [leaves]
        exact fun stays => by contradiction
      · exact fun _ => (ioRecvBody_long framed hasHead empty (needEq ▸ long)
          turn.now).2.2

/-- What lacks to a body that has been run past is never the length of a read:
it is negative, or larger than a read can be. -/
theorem missingBody_ne_of_overrun
    (overrun : session.toSessionCore.Overrun)
    (chunk : Chunk 1024) :
    session.missingBody ≠ chunk.bytes.length := by
  have fits := chunk.fits
  have exceeds := overrun.exceeds
  have bounded := overrun.bounded
  rw [SessionCore.missingBody, sessionRecvCacheLen_eq]
  unfold signed32
  omega

/-- A session that has run past a body keeps on collecting or ends. -/
theorem dropped_overrun
    (overrun : session.toSessionCore.Overrun)
    (turn : RecvTurn) :
    Dropped (fun session : kind.Session => session.toSessionCore.Overrun)
      (session.react turn) := by
  cases read : turn.read with
  | data chunk =>
      have data : session.ioRecvData chunk.bytes turn.now turn.echo =
          session.ioRecvBody chunk.bytes turn.now := by
        simp [ioRecvData, overrun.framed, overrun.hasHead]
      have cases := ioRecvBody_overrun overrun chunk turn.now
      rw [react_data read, data]
      refine ⟨?_, session.written_ioRecvBody chunk.bytes turn.now, ?_⟩
      · exact silent_ioRecvBody (missingBody_ne_of_overrun overrun chunk)
      · intro stays
        rcases cases with leaves | ⟨-, -, overrunNext⟩
        · dsimp only at stays
          rw [leaves] at stays
          contradiction
        · exact overrunNext
  | closed | failed | interrupted =>
      simp only [react, ioRecvPass, read]
      exact ⟨rfl, rfl, fun _ => overrun⟩
  | again =>
      simp only [react, ioRecvPass, read]
      exact ⟨rfl, rfl, fun _ => overrun⟩

/-- Turns without data. -/
theorem understood_quiet
    {state : State UInt8 HeadKind}
    (follows : session.toSessionCore.Follows state)
    (silent : messages (session.react turn).events = [])
    (quiet : written (session.react turn).events = [])
    (same : (session.react turn).session = session) :
    Decoded (fun state (session : kind.Session) =>
        session.toSessionCore.Follows state)
      state [] (session.react turn) := by
  refine ⟨?_, silent, [], quiet, ?_⟩
  · rw [same]
    exact follows
  · rw [silent]
    rfl

/-- Whatever a session receives that is where the decoder is, it does what the
decoder does or drops it. -/
theorem receive_follows
    {state : State UInt8 HeadKind}
    {rest : List UInt8}
    {waiting : List Message}
    (follows : session.toSessionCore.Follows state)
    (whole : acceptsAll turn.echo.outcomes.writes sizeofHeadMsg = true)
    (carries : Carries state (turn.bytes ++ rest) waiting) :
    Decoded (fun state (session : kind.Session) =>
          session.toSessionCore.Follows state)
        state turn.bytes (session.react turn) ∨
      Dropped (fun session : kind.Session => session.toSessionCore.Overrun)
        (session.react turn) := by
  cases read : turn.read with
  | data chunk =>
      have bytes : turn.bytes = chunk.bytes := by
        rw [RecvTurn.bytes, read]
      rw [bytes] at carries ⊢
      obtain ⟨frames, pending, -⟩ := carries
      by_cases fits : frameFormat.WholeBody state chunk.bytes
      · left
        cases state with
        | head seen =>
            rcases Nat.lt_or_eq_of_le fits with short | full
            · exact understood_head_short read follows short
            · exact understood_head_full read whole follows pending full
        | body kind need seen =>
            have full : chunk.bytes.length = need := by
              obtain ⟨-, -, -, -, rfl, -⟩ := follows
              have nonempty := chunk.nonempty
              rcases fits with none | full
              · rw [none] at nonempty
                simp at nonempty
              · simpa using full
            exact understood_body read follows full
      · exact Or.inr (dropped_unfit read follows fits)
  | interrupted | again =>
      have bytes : turn.bytes = [] := by
        rw [RecvTurn.bytes, read]
      rw [bytes]
      left
      apply understood_quiet follows <;> simp only [react, ioRecvPass, read] <;>
        rfl
  | closed | failed =>
      right
      simp only [react, ioRecvPass, read]
      exact ⟨rfl, rfl, fun stays => by contradiction⟩

/-- A session that listens or has gone deaf is in framed mode. -/
theorem framed_of_listens
    (listens : session.toSessionCore.Overrun ∨
      ∃ state, session.toSessionCore.Follows state) :
    session.bIsHaveHead = true := by
  rcases listens with overrun | ⟨state, follows⟩
  · exact overrun.framed
  · cases state with
    | head seen => exact follows.1
    | body kind need seen => exact follows.1

/-- A payload sent in framed mode is a send of its whole frame. -/
theorem sendData_frame
    (framed : session.bIsHaveHead = true)
    (payload : Payload)
    (outcomes : SendOutcomes) :
    session.sendData payload.bytes payload.bytes.length outcomes =
      ⟨session, ioSendWrites session.nSocket (dataFrame payload).symbols 0
          outcomes.writes,
        (ioSendLoop (dataFrame payload).symbols.length 0
          outcomes.writes).1.result⟩ := by
  have length : ((payload.bytes.length : Int) + sizeofHeadMsg) =
      (dataFrame payload).symbols.length := by
    simp [Frame.symbols, dataFrame, Int.add_comm]
  have positive := payload.nonempty
  rw [sendData_framed framed, session.ioSend_eq outcomes (by omega) length]

end Passes

/-- Sessions on Linux decode. They go deaf by running past a body. -/
def decodes : kind.Decodes where
  follows := fun state session => session.toSessionCore.Follows state
  deaf := fun session => session.toSessionCore.Overrun
  receive_follows := fun follows _ whole carries =>
    receive_follows follows whole carries
  receive_deaf := fun turn overrun => dropped_overrun overrun turn
  send_output := by
    intro session payload outcomes listens whole
    have framed := framed_of_listens listens
    have completed : ∀ send ∈ [ServerSend.data payload outcomes],
        (send.run session).result = .returned 0 := by
      intro send member
      rw [List.mem_singleton.mp member]
      exact of_decide_eq_true whole
    have sent := stream_eq_wire framed completed
    constructor
    · change written (session.sendData payload.bytes payload.bytes.length
        outcomes).events = _
      simpa [stream, wire, ServerSend.run, ServerSend.frame] using sent
    · simp only [kind, sendData_frame framed payload outcomes]
      exact messages_ioSendWrites ..
  send_follows := by
    intro state session payload outcomes follows
    have same := sendData_frame
      (framed_of_listens (Or.inr ⟨state, follows⟩)) payload outcomes
    simp only [kind, same]
    exact follows
  send_deaf := by
    intro session payload outcomes overrun
    have same := sendData_frame overrun.framed payload outcomes
    simp only [kind, same]
    exact overrun

end TcpSession

/-! ## Connections -/

namespace FramedConnection

/-- A framed connection to a server on Linux stands for an exchange of messages,
in every run in which no send is cut short and the session sends nothing the
client has no room for; the client asks for no more than its buffer holds. -/
theorem refines_exchange
    (client : TcpClient)
    (session : TcpSession)
    (labels : List (ConnectionLabel TcpSession.kind))
    (last : FramedConnection TcpSession.kind)
    (clientStart : client.AtFrameStart)
    (sessionStart : session.toSessionCore.AtFrameStart)
    (throughout : Throughout step SendsWhole (start client session) labels)
    (reached : run step (start client session) labels = some last)
    (fits : last.ServerPayloadsFit) :
    last.client.recvRequest ≤ maxBufferLen ∧
      ∃ moves exchange,
        run (Exchange.step answers) .empty moves = some exchange ∧
          Represents TcpSession.decodes last exchange := by
  obtain ⟨moves, exchange, moved, represents⟩ :=
    (simulates TcpSession.decodes).run_matched
      (represents_start clientStart sessionStart.follows) throughout reached
  have fair : Fair answers exchange := holds_of_run
    (fun _ move _ fair moved => fair_step move fair moved) (fair_empty answers)
    moved
  exact ⟨recvRequest_le represents fair fits, moves, exchange, moved, represents⟩

/-- However sends, reads and heartbeats of both ends alternate and however the
reads cut the bytes, each end of a framed connection to a server on Linux has
handed on the first messages of what the other end sent; and all of them once
nothing is on its way and the session is not inside a frame. The client asks for
no more than its buffer holds. -/
theorem delivers_both_ways
    (client : TcpClient)
    (session : TcpSession)
    (labels : List (ConnectionLabel TcpSession.kind))
    (last : FramedConnection TcpSession.kind)
    (clientStart : client.AtFrameStart)
    (sessionStart : session.toSessionCore.AtFrameStart)
    (throughout : Throughout step SendsWhole (start client session) labels)
    (reached : run step (start client session) labels = some last)
    (fits : last.ServerPayloadsFit) :
    last.client.recvRequest ≤ maxBufferLen ∧
      Delivers (fun session : TcpSession => session.bIsRecvHead = true) last := by
  obtain ⟨exchange, fair, represents⟩ := run_represents TcpSession.decodes
    clientStart sessionStart.follows throughout reached
  have delivers := delivers_of_represents represents fair
  exact ⟨recvRequest_le represents fair fits,
    delivers.weaken fun overrun => overrun.hasHead⟩

/-! ### A letter against a heartbeat -/

theorem letterA_fits : letterA.bytes.length ≤ 1024 := by
  decide

/-- A turn that reads the header of a frame. -/
def headTurn (frame : Frame frameFormat) : RecvTurn :=
  echoTurn ⟨frame.head, by rw [frame.head_length]; decide,
    by rw [frame.head_length]; decide⟩

/-- The client receives the header of a frame. -/
def headRecv (frame : Frame frameFormat) (now : Int) : RecvfromTurn :=
  ⟨.data frame.head (by rw [frame.head_length]; decide), now⟩

/-- The client sends a heartbeat and a letter. The session answers the heartbeat
and sends a letter of its own while the letter of the client is on its way. -/
def heartbeatAndLetters : List (ConnectionLabel TcpSession.kind) :=
  [.clientSend .heartbeat 8,
    .clientSend (.data letterA) 9,
    .serverRecv (headTurn ClientSend.heartbeat.frame),
    .serverSend letterA ⟨[.accepted 4, .again, .accepted 5], true⟩,
    .clientRecv (headRecv ClientSend.heartbeat.frame 3),
    .serverRecv (headTurn (dataFrame letterA)),
    .clientRecv (headRecv (dataFrame letterA) 4),
    .serverRecv (echoTurn ⟨letterA.bytes, letterA.nonempty, letterA_fits⟩),
    .clientRecv ⟨.data letterA.bytes letterA.nonempty, 5⟩]

theorem refines_exchange_heartbeatAndLetters :
    ∃ last, run step (start TcpClient.framedClient TcpSession.framedSession)
        heartbeatAndLetters = some last ∧
      ∃ moves exchange, run (Exchange.step answers) .empty moves =
          some exchange ∧
        Represents TcpSession.decodes last exchange := by
  refine ⟨_, rfl, ?_⟩
  refine (refines_exchange TcpClient.framedClient TcpSession.framedSession
    heartbeatAndLetters _ (TcpClient.atFrameStart_configure _ _ _)
    ⟨rfl, rfl, rfl, rfl⟩ (by decide) rfl ?_).2
  exact List.forall_mem_singleton.mpr (by decide)

theorem delivers_heartbeatAndLetters :
    ∃ last, run step (start TcpClient.framedClient TcpSession.framedSession)
        heartbeatAndLetters = some last ∧
      messages last.serverEvents = [.heartbeat, .payload [0x41]] ∧
      messages last.clientEvents = [.heartbeat, .payload [0x41]] ∧
      Delivers (fun session : TcpSession => session.bIsRecvHead = true) last := by
  refine ⟨_, rfl, by decide, by decide, ?_⟩
  refine (delivers_both_ways TcpClient.framedClient TcpSession.framedSession
    heartbeatAndLetters _ (TcpClient.atFrameStart_configure _ _ _)
    ⟨rfl, rfl, rfl, rfl⟩ (by decide) rfl ?_).2
  exact List.forall_mem_singleton.mpr (by decide)

end FramedConnection

end TransPortEngine
