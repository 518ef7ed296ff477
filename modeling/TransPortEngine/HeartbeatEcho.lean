import TransPortEngine.SaltedHeaders
import TransPortEngine.WireFormats

/-!
# The answer to a heartbeat

A session answers a heartbeat with the header it has received, before any body
has come. The header still announces the body, and no body follows: for the peer
the answer is a complete frame only if the heartbeat had no body.
-/

namespace TransPortEngine

open Framing MachineInt

/-- The results of `write` take some bytes before one of them is an error. -/
def acceptsAll : List WriteResult → Nat → Bool
  | [], length => length == 0
  | result :: results, length =>
      length == 0 ||
        match result with
        | .accepted count => acceptsAll results (length - count)
        | .again => acceptsAll results length
        | .interrupted => false
        | .failed => false

/-- The socket takes the echo that is sent in the turn that completes the
header. -/
def EchoTaken (turns : List RecvTurn) : Prop :=
  ∃ turn, completingTurn sizeofHeadMsg turns = some turn ∧
    acceptsAll turn.echo.outcomes.writes sizeofHeadMsg = true

/-- An answer that is one complete frame: a client that has read it is back at
the start of a frame, and delivers the frame that comes next. -/
structure WellFormedAnswer (answer : List UInt8) : Prop where
  frame : ∃ frame : Frame anyFormat, answer = frame.symbols
  consumed : ∀ (client : TcpClient) (turns : List RecvfromTurn),
    client.AtFrameStart →
    (∀ turn ∈ turns, turn.OfStream) →
    client.Granted turns →
    turns.flatMap RecvfromTurn.bytes = answer →
      (client.recvfrom turns).client.AtFrameStart
  next : ∀ (client : TcpClient) (turns : List RecvfromTurn)
      (payload : Payload),
    client.AtFrameStart →
    (∀ turn ∈ turns, turn.OfStream) →
    client.Granted turns →
    turns.flatMap RecvfromTurn.bytes = answer ++ (dataFrame payload).symbols →
      deliveries (client.recvfrom turns).events = [payload.bytes]

/-! ## What is sent -/

/-- The loop of a send runs to its end if everything is taken. -/
theorem ioSendLoop_of_acceptsAll
    {results : List WriteResult}
    {nDataLen nWriteLen : Nat}
    (inside : nWriteLen ≤ nDataLen)
    (accepts : acceptsAll results (nDataLen - nWriteLen) = true) :
    (ioSendLoop nDataLen nWriteLen results).2 = nDataLen := by
  induction results generalizing nWriteLen with
  | nil =>
      have none : nDataLen - nWriteLen = 0 := by simpa [acceptsAll] using accepts
      simp only [ioSendLoop]
      omega
  | cons result results inductionHypothesis =>
      rw [ioSendLoop]
      split
      · rename_i short
        have some : (nDataLen - nWriteLen == 0) = false := by
          simp only [beq_eq_false_iff_ne]
          omega
        unfold acceptsAll at accepts
        rw [some, Bool.false_or] at accepts
        cases result with
        | interrupted => contradiction
        | failed => contradiction
        | again => exact inductionHypothesis inside accepts
        | accepted count =>
            apply inductionHypothesis (by omega)
            have left : nDataLen - (nWriteLen + min count (nDataLen - nWriteLen)) =
                nDataLen - nWriteLen - count := by omega
            rw [left]
            exact accepts
      · simp only
        omega

/-- The loop of a send that returns stops short if not everything is taken. -/
theorem ioSendLoop_of_not_acceptsAll
    {results : List WriteResult}
    {nDataLen nWriteLen : Nat}
    (inside : nWriteLen ≤ nDataLen)
    (refuses : acceptsAll results (nDataLen - nWriteLen) = false) :
    (ioSendLoop nDataLen nWriteLen results).2 < nDataLen := by
  induction results generalizing nWriteLen with
  | nil =>
      have some : nDataLen - nWriteLen ≠ 0 := by simpa [acceptsAll] using refuses
      simp only [ioSendLoop]
      omega
  | cons result results inductionHypothesis =>
      unfold acceptsAll at refuses
      rw [Bool.or_eq_false_iff, beq_eq_false_iff_ne] at refuses
      have short : nWriteLen < nDataLen := by omega
      rw [ioSendLoop, if_pos short]
      cases result with
      | interrupted => exact short
      | failed => exact short
      | again => exact inductionHypothesis inside refuses.2
      | accepted count =>
          apply inductionHypothesis (by omega)
          have left : nDataLen - (nWriteLen + min count (nDataLen - nWriteLen)) =
              nDataLen - nWriteLen - count := by omega
          rw [left]
          exact refuses.2

namespace TcpSession

/-- The answer to a heartbeat is the part of its header the socket takes. -/
theorem written_headEvents
    (session : TcpSession)
    {headMsg : List UInt8}
    (size : headMsg.length = sizeofHeadMsg)
    (isHeartbeat : headTypeIs heartBeat headMsg = true)
    (echo : EchoOutcomes) :
    written (session.headEvents headMsg echo) =
      headMsg.take (ioSendLoop sizeofHeadMsg 0 echo.outcomes.writes).2 := by
  have positive : (0 : Int) < sizeofHeadMsg := by decide
  have sent := session.written_ioSend echo.outcomes positive
    (congrArg Nat.cast size.symm)
  have handled : written
      (if 0 < headDataLen headMsg then [] else [EngineEvent.handleHB]) = [] := by
    split <;> rfl
  rw [headEvents, if_pos isHeartbeat, written_append, handled, List.nil_append,
    sent, size]

/-- A body completes the stream or is kept, and is not answered. -/
theorem written_ioRecvBody
    (session : TcpSession)
    (szRecvBuf : List UInt8)
    (now : Int) :
    written (session.ioRecvBody szRecvBuf now).events = [] := by
  have body : ∀ szBuf, written (session.bodyEvents szBuf) = [] := by
    intro szBuf
    unfold bodyEvents
    split
    · rfl
    · split <;> rfl
  simp only [ioRecvBody]
  split
  · simp only [written_append, written_recvBufLocked_nil,
      written_assembleCopies, body, List.nil_append]
  · split <;> rfl

/-- The body of a heartbeat is not answered. -/
theorem written_ioRecvCalls_body
    {session : TcpSession}
    {turns : List RecvTurn}
    (framed : session.bIsHaveHead = true)
    (hasHead : session.bIsRecvHead = true)
    (small : session.nNeedRecvDataLen < 4294967296)
    (remains : (cachedBytes session.recvBufs).length +
      (turns.flatMap RecvTurn.bytes).length = session.nNeedRecvDataLen)
    (ofStream : ∀ turn ∈ turns, turn.OfStream)
    (accepted : (session.ioRecvCalls turns).Accepted) :
    written (session.ioRecvCalls turns).events = [] := by
  induction turns generalizing session with
  | nil => rfl
  | cons turn turns inductionHypothesis =>
      rw [List.flatMap_cons, List.length_append] at remains
      have ofStreamLater : ∀ other ∈ turns, other.OfStream :=
        fun other member => ofStream other (List.mem_cons_of_mem turn member)
      by_cases quiet : ∀ chunk, turn.read ≠ .data chunk
      · obtain ⟨goesOn, noBytes⟩ :=
          session.goesOn_quiet (ofStream turn List.mem_cons_self) quiet turns
        rw [noBytes, List.length_nil, Nat.zero_add] at remains
        exact goesOn.written_eq.trans (inductionHypothesis framed hasHead small
          remains ofStreamLater (goesOn.accepted.mp accepted))
      · push Not at quiet
        obtain ⟨chunk, read⟩ := quiet
        have nonempty := chunk.nonempty
        have fits := chunk.fits
        have bytesEq : turn.bytes = chunk.bytes := by rw [RecvTurn.bytes, read]
        rw [bytesEq] at remains
        have missing : session.missingBody = signed32
            ((session.nNeedRecvDataLen : Int) -
              (cachedBytes session.recvBufs).length) := by
          rw [SessionCore.missingBody, sessionRecvCacheLen_eq,
            Nat.mod_eq_of_lt (by omega)]
        have silent := session.written_ioRecvBody chunk.bytes turn.now
        have pass : session.ioRecvPass turn =
            { session.ioRecvBody chunk.bytes turn.now with
              events := .read session.nSocket ::
                (session.ioRecvBody chunk.bytes turn.now).events } := by
          simp only [ioRecvPass, read, ioRecvData, framed, hasHead, if_true]
        have nothing : written (session.ioRecvPass turn).events = [] := by
          rw [pass]
          exact silent
        rcases lt_trichotomy session.missingBody chunk.bytes.length with
          beyond | complete | short
        · have loops : (session.ioRecvPass turn).ending = .loop := by
            rw [pass]
            simp only [ioRecvBody]
            rw [if_neg (by omega), if_pos beyond]
          have sessionEq : (session.ioRecvPass turn).session =
              session.setCore
                (session.toSessionCore.pushRecvBuf chunk.bytes) := by
            rw [pass]
            simp only [ioRecvBody]
            rw [if_neg (by omega), if_pos beyond]
          have goesOn := goesOn_loop loops turns
          rw [nothing, sessionEq] at goesOn
          refine goesOn.written_eq.trans (@inductionHypothesis
            (session.setCore (session.toSessionCore.pushRecvBuf chunk.bytes))
            framed hasHead small ?_ ofStreamLater (goesOn.accepted.mp accepted))
          rw [show cachedBytes (session.setCore
              (session.toSessionCore.pushRecvBuf chunk.bytes)).recvBufs =
                cachedBytes session.recvBufs ++ chunk.bytes from
              SessionCore.cachedBytes_pushRecvBuf _ _, List.length_append]
          change _ = session.nNeedRecvDataLen
          omega
        · -- the difference is that of the bytes to come, which are no more
          have ended : turns.flatMap RecvTurn.bytes = [] := by
            rw [← List.length_eq_zero_iff]
            rw [missing] at complete
            unfold signed32 at complete
            omega
          have loops : (session.ioRecvPass turn).ending = .loop := by
            rw [pass]
            simp only [ioRecvBody]
            rw [if_pos complete]
          have goesOn := goesOn_loop loops turns
          rw [nothing] at goesOn
          exact goesOn.written_eq.trans
            (ioRecvCalls_quiet _ ofStreamLater ended).2.1
        · have leaves : (session.ioRecvPass turn).ending = .leave (-1) := by
            rw [pass]
            simp only [ioRecvBody]
            rw [if_neg (by omega), if_neg (by omega)]
          exact absurd accepted (not_accepted_of_leave leaves (by decide) turns)

/-- What a session sends in answer to a heartbeat, in any accepted cut, is the
part of the header the socket takes. -/
theorem answer_eq
    {session : TcpSession}
    {turns : List RecvTurn}
    {frame : Frame anyFormat}
    (waits : session.toSessionCore.WaitsForHead)
    (isHeartbeat : headTypeIs heartBeat frame.head = true)
    (ofStream : ∀ turn ∈ turns, turn.OfStream)
    (cut : turns.flatMap RecvTurn.bytes = frame.symbols)
    (accepted : (session.ioRecvCalls turns).Accepted) :
    ∃ turn, completingTurn sizeofHeadMsg turns = some turn ∧
      written (session.ioRecvCalls turns).events =
        frame.head.take (ioSendLoop sizeofHeadMsg 0
          turn.echo.outcomes.writes).2 := by
  have size : frame.head.length = sizeofHeadMsg := frame.head_length
  have bodyLength : frame.body.length = headDataLen frame.head :=
    frame.body_length
  have small := headDataLen_lt frame.head
  have cached : cachedBytes session.recvBufs = [] := by
    rw [waits.noCache]
    rfl
  obtain ⟨turn, later, handled⟩ := headHandled_of_cut waits.framed waits.noHead
    (by rw [cached, List.nil_append]) size
    (List.ne_nil_of_length_pos (size ▸ sizeofHeadMsg_pos)) ofStream cut
    (Or.inr accepted)
  have acceptedLater := handled.accepted.mp accepted
  have ofStreamLater : ∀ other ∈ later, other.OfStream :=
    fun other member => ofStream other (handled.among other member)
  have silent : written ((session.behindHead frame.head
      turn.now).ioRecvCalls later).events = [] := by
    by_cases empty : headDataLen frame.head = 0
    · have none : later.flatMap RecvTurn.bytes = [] := by
        rw [handled.bytes]
        exact List.eq_nil_of_length_eq_zero (bodyLength.trans empty)
      exact (ioRecvCalls_quiet _ ofStreamLater none).2.1
    · have positive : 0 < headDataLen frame.head := Nat.pos_of_ne_zero empty
      have core : session.toSessionCore.finishHead frame.head turn.now =
          session.toSessionCore.storeHead 0 frame.head := by
        simp [SessionCore.finishHead, isHeartbeat, SessionCore.storeHead,
          positive]
      have behind : session.behindHead frame.head turn.now =
          session.setCore (session.toSessionCore.storeHead 0 frame.head) := by
        rw [behindHead, core]
      rw [behind] at acceptedLater ⊢
      refine written_ioRecvCalls_body waits.framed ?_ small ?_ ofStreamLater
        acceptedLater
      · change (decide (0 < headDataLen frame.head) || _) = true
        rw [decide_eq_true positive, Bool.true_or]
      · rw [handled.bytes, bodyLength]
        exact Nat.zero_add _
  refine ⟨turn, ?_, ?_⟩
  · rw [← size]
    exact handled.completes
  · rw [handled.written_eq, silent, List.append_nil]
    exact written_headEvents _ size isHeartbeat turn.echo

end TcpSession

/-! ## What the peer makes of it -/

/-- A frame is as long as its header says. -/
theorem length_symbols (frame : Frame anyFormat) :
    frame.symbols.length = sizeofHeadMsg + headDataLen frame.head := by
  have size : frame.head.length = sizeofHeadMsg := frame.head_length
  have bodyLength : frame.body.length = headDataLen frame.head :=
    frame.body_length
  rw [Frame.symbols, List.length_append, size, bodyLength]

/-- A part of a header is a frame only if it is a header without a body. -/
theorem eq_of_take_eq_symbols
    {headMsg : List UInt8}
    {count : Nat}
    {frame : Frame anyFormat}
    (size : headMsg.length = sizeofHeadMsg)
    (taken : headMsg.take count = frame.symbols) :
    sizeofHeadMsg ≤ count ∧ headDataLen headMsg = 0 := by
  have length := congrArg List.length taken
  have long := length_symbols frame
  rw [long, List.length_take, size] at length
  have whole : sizeofHeadMsg ≤ count := by omega
  have empty : headDataLen frame.head = 0 := by omega
  have headEq : headMsg = frame.head := by
    have none : frame.body = [] :=
      List.eq_nil_of_length_eq_zero (frame.body_length.trans empty)
    rw [List.take_of_length_le (size ▸ whole), Frame.symbols, none,
      List.append_nil] at taken
    exact taken
  exact ⟨whole, headEq ▸ empty⟩

/-- A heartbeat header without a body is an answer the peer can go on behind. -/
theorem wellFormedAnswer_of_empty
    {headMsg : List UInt8}
    (size : headMsg.length = sizeofHeadMsg)
    (isHeartbeat : headTypeIs heartBeat headMsg = true)
    (empty : headDataLen headMsg = 0) :
    WellFormedAnswer headMsg := by
  refine ⟨?_, ?_, ?_⟩
  · exact ⟨⟨headMsg, [], size, trivial, empty.symm⟩, (List.append_nil _).symm⟩
  · intro client turns start ofStream granted cut
    have cached : cachedBytes client.recvBufs = [] := by
      rw [start.noCache]
      rfl
    obtain ⟨-, now, clientEq⟩ := TcpClient.recvfrom_headMsg start.framed
      start.running start.noHead (by rw [cached, List.nil_append]) size
      (List.ne_nil_of_length_pos (size ▸ sizeofHeadMsg_pos)) ofStream cut
    have zero : signed32 ((0 : Nat) : Int) = 0 := by decide
    have finished : (client.finishHead headMsg now).1 =
        { client with
          recvBufs := []
          nNeedRecvDataLen := 0
          nMsgType := 0
          tHeartbeatTimeStamp := now } := by
      simp only [TcpClient.finishHead, isHeartbeat, empty, zero, if_true,
        TcpClient.handleHB]
    rw [clientEq, finished]
    exact ⟨start.framed, start.receives, start.running, start.noHead, rfl⟩
  · intro client turns payload start ofStream granted cut
    have wire : turns.flatMap RecvfromTurn.bytes =
        wire [heartbeatFrame ⟨headMsg, size, isHeartbeat, empty⟩,
          dataFrame payload] := by
      rw [cut, wire_cons, wire_cons, wire_nil, List.append_nil]
      rfl
    rw [deliveries_eq_messages,
      TcpClient.messages_recvfrom_wire start ofStream granted wire]
    simp only [List.filterMap_cons, output_heartbeatFrame, output_dataFrame,
      frameMessage, List.filterMap_nil]
    rfl

/-- The answer to a heartbeat is a complete frame exactly if the heartbeat had
no body and the socket takes the whole header. -/
theorem wellFormedAnswer_iff
    (session : TcpSession)
    (frame : Frame anyFormat)
    (turns : List RecvTurn)
    (waits : session.toSessionCore.WaitsForHead)
    (isHeartbeat : frame.kind = .heartbeat)
    (ofStream : ∀ turn ∈ turns, turn.OfStream)
    (cut : turns.flatMap RecvTurn.bytes = frame.symbols)
    (accepted : (session.ioRecvCalls turns).Accepted) :
    WellFormedAnswer (written (session.ioRecvCalls turns).events) ↔
      frame.body = [] ∧ EchoTaken turns := by
  have size : frame.head.length = sizeofHeadMsg := frame.head_length
  have bodyLength : frame.body.length = headDataLen frame.head :=
    frame.body_length
  have isType := headTypeIs_of_headKind_heartbeat isHeartbeat
  obtain ⟨turn, completes, answer⟩ :=
    TcpSession.answer_eq waits isType ofStream cut accepted
  rw [answer]
  constructor
  · intro wellFormed
    obtain ⟨whole, taken⟩ := wellFormed.frame
    obtain ⟨reached, empty⟩ := eq_of_take_eq_symbols size taken
    refine ⟨List.eq_nil_of_length_eq_zero (bodyLength.trans empty), turn,
      completes, ?_⟩
    by_contra refused
    have stops := ioSendLoop_of_not_acceptsAll (Nat.zero_le sizeofHeadMsg)
      (Bool.eq_false_iff.mpr refused)
    omega
  · rintro ⟨noBody, other, completesOther, taken⟩
    rw [completes, Option.some.injEq] at completesOther
    subst completesOther
    have reached := ioSendLoop_of_acceptsAll (Nat.zero_le sizeofHeadMsg) taken
    rw [reached, List.take_of_length_le size.le]
    apply wellFormedAnswer_of_empty size isType
    rw [← bodyLength, noBody]
    rfl

/-! ### Heartbeats with and without a body -/

/-- An echo the socket takes in two parts. -/
def echoInParts : EchoOutcomes where
  outcomes := ⟨[.accepted 5, .again, .accepted 3], true⟩
  returns := by decide

/-- A turn that reads some bytes, with an echo that is taken. -/
def echoTurn (chunk : Chunk 1024) : RecvTurn :=
  ⟨.data chunk, 1, echoInParts, true⟩

/-- A heartbeat with a body of one byte. -/
def fullHeartbeat : Frame anyFormat where
  head := [0x48, 0x42, 0, 0, 0, 0, 0, 1]
  body := [0x2a]
  head_length := by decide
  head_valid := trivial
  body_length := by decide

/-- A heartbeat without a body. -/
def emptyHeartbeat : Frame anyFormat where
  head := [0x48, 0x42, 0, 7, 0, 0, 0, 0]
  body := []
  head_length := by decide
  head_valid := trivial
  body_length := by decide

/-- An empty heartbeat that is read in two parts. -/
def emptyHeartbeatTurns : List RecvTurn :=
  [echoTurn ⟨[0x48, 0x42, 0], by decide, by decide⟩,
    echoTurn ⟨[7, 0, 0, 0, 0], by decide, by decide⟩]

/-- A header, and behind it a body of one byte. -/
def fullHeartbeatTurns : List RecvTurn :=
  [echoTurn ⟨fullHeartbeat.head, by decide, by decide⟩,
    echoTurn ⟨fullHeartbeat.body, by decide, by decide⟩]

theorem wellFormedAnswer_emptyHeartbeat :
    WellFormedAnswer (written
      (TcpSession.framedSession.ioRecvCalls emptyHeartbeatTurns).events) := by
  refine (wellFormedAnswer_iff TcpSession.framedSession emptyHeartbeat
    emptyHeartbeatTurns ⟨rfl, rfl, rfl⟩ rfl ?_ rfl ?_).mpr ⟨rfl, ?_⟩
  · simp [emptyHeartbeatTurns, echoTurn, RecvTurn.OfStream]
  · decide
  · exact ⟨_, rfl, by decide⟩

/-- The answer to a heartbeat with a body announces a byte that does not
follow. -/
theorem not_wellFormedAnswer_fullHeartbeat :
    ¬∀ (session : TcpSession) (frame : Frame anyFormat) (turns : List RecvTurn),
      session.toSessionCore.WaitsForHead → frame.kind = .heartbeat →
        (∀ turn ∈ turns, turn.OfStream) →
          turns.flatMap RecvTurn.bytes = frame.symbols →
            (session.ioRecvCalls turns).Accepted → EchoTaken turns →
              WellFormedAnswer (written (session.ioRecvCalls turns).events) := by
  intro always
  have ofStream : ∀ turn ∈ fullHeartbeatTurns, turn.OfStream := by
    simp [fullHeartbeatTurns, echoTurn, RecvTurn.OfStream]
  have answered := always TcpSession.framedSession fullHeartbeat
    fullHeartbeatTurns ⟨rfl, rfl, rfl⟩ rfl ofStream rfl (by decide)
    ⟨_, rfl, by decide⟩
  obtain ⟨whole, taken⟩ := answered.frame
  have same : written
      (TcpSession.framedSession.ioRecvCalls fullHeartbeatTurns).events =
        fullHeartbeat.head.take 8 := by decide
  rw [same] at taken
  have empty := (eq_of_take_eq_symbols rfl taken).2
  exact absurd empty (by decide)

end TransPortEngine
