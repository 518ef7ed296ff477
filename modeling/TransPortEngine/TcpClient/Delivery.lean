import TransPortEngine.Library.FrameReceiver
import TransPortEngine.TcpClient.Recv
import TransPortEngine.TcpClient.Stream
import TransPortEngine.TcpSession.Stream

/-!
# Delivery from a framed session to a client

A client asks for no more than its current header or body lacks, so every piece
it receives fits. Its receive loop then does what the decoder of the framing
does, for every cut of the stream.
-/

namespace TransPortEngine

open Framing MachineInt

/-- What a decoded frame means for a client. -/
def frameMessage : HeadKind × List UInt8 → Option Message
  | (.data, body) => some (.payload body)
  | (.heartbeat, _) => some .heartbeat
  | (.unknown, _) => none

theorem frameMessage_frame (send : ServerSend) :
    frameMessage send.frame.output = some send.message := by
  cases send with
  | data payload outcomes =>
      rw [ServerSend.frame, output_dataFrame]
      rfl
  | echo heartbeat outcomes =>
      rw [ServerSend.frame, output_heartbeatFrame]
      rfl

/-- A turn in which `recv` returns some of the next bytes. -/
def RecvfromTurn.OfStream (turn : RecvfromTurn) : Prop :=
  match turn.recv with
  | .data _ _ => True
  | _ => False

namespace TcpClient

/-- A client that receives framed data and waits for the first byte of a
header. -/
structure AtFrameStart (client : TcpClient) : Prop where
  framed : client.bIsHaveHead = true
  receives : client.hasTransPortEngineRecv = true
  running : client.bRecvFlag = true
  noHead : client.bIsRecvHead = false
  noCache : client.recvBufs = []

/-- A constructed and configured client waits for a header. -/
theorem atFrameStart_configure
    (garbage : ClientGarbage)
    (bIsHaveHB : Bool)
    (nHeartBeatInterval : Int) :
    ((construct garbage).configure true bIsHaveHB
      nHeartBeatInterval).AtFrameStart :=
  ⟨rfl, rfl, rfl, rfl, rfl⟩

/-- Every `recv` returns at most what was asked for. -/
def Granted : TcpClient → List RecvfromTurn → Prop
  | _, [] => True
  | client, turn :: turns =>
      turn.bytes.length ≤ client.recvRequest ∧
        Granted (client.recvfromPass turn).client turns

/-- One turn of the loop as a step of a receiver. -/
def recvStep
    (client : TcpClient)
    (turn : RecvfromTurn) : Option (TcpClient × List Message) :=
  let pass := client.recvfromPass turn
  if pass.leaves then none else some (pass.client, messages pass.events)

/-! ## Single passes -/

section Passes

variable {client : TcpClient} {szRecvBuf : List UInt8}

/-- What a header still lacks. -/
theorem missingHead_eq
    (short : (cachedBytes client.recvBufs).length < sizeofHeadMsg) :
    client.missingHead =
      sizeofHeadMsg - (cachedBytes client.recvBufs).length := by
  have small : (cachedBytes client.recvBufs).length < 8 := short
  rw [missingHead, clientRecvCacheLen_eq (by omega)]
  unfold unsigned64 sizeofHeadMsg
  omega

/-- What a body still lacks. -/
theorem missingBody_eq
    {need : Nat}
    (needEq : client.nNeedRecvDataLen = need)
    (small : need < 2147483648)
    (short : (cachedBytes client.recvBufs).length < need) :
    client.missingBody =
      ((need - (cachedBytes client.recvBufs).length : Nat) : Int) := by
  rw [missingBody, clientRecvCacheLen_eq (by omega), needEq,
    signed32_of_range (by omega) (by omega)]
  omega

/-- A piece that stays inside the header is kept. -/
theorem recvHead_short
    (short : (cachedBytes client.recvBufs).length + szRecvBuf.length <
      sizeofHeadMsg)
    (now : Int) :
    let pass := client.recvHead szRecvBuf now
    pass.client = client.pushRecvBuf szRecvBuf ∧ messages pass.events = [] ∧
      pass.leaves = false := by
  have small : (cachedBytes client.recvBufs).length + szRecvBuf.length < 8 :=
    short
  have missing := client.missingHead_eq (by omega)
  have missingInt : signed32 client.missingHead =
      8 - ((cachedBytes client.recvBufs).length : Int) := by
    rw [missing, signed32_of_range (by omega) (by simp [sizeofHeadMsg]; omega)]
    simp [sizeofHeadMsg]
    omega
  simp only [recvHead]
  rw [if_neg (by omega), if_neg (by omega)]
  simp

/-- A piece that completes the header acts on it. -/
theorem recvHead_full
    (opened : (cachedBytes client.recvBufs).length < sizeofHeadMsg)
    (full : (cachedBytes client.recvBufs).length + szRecvBuf.length =
      sizeofHeadMsg)
    (now : Int) :
    let pass := client.recvHead szRecvBuf now
    let finished :=
      client.finishHead (cachedBytes client.recvBufs ++ szRecvBuf) now
    pass.client = finished.1 ∧
      messages pass.events = (if finished.2 then [.heartbeat] else []) ∧
        pass.leaves = false := by
  have missing := client.missingHead_eq opened
  have small : (cachedBytes client.recvBufs).length + szRecvBuf.length = 8 :=
    full
  have missingInt : signed32 client.missingHead = szRecvBuf.length := by
    rw [missing, signed32_of_range (by omega) (by simp [sizeofHeadMsg]; omega)]
    simp [sizeofHeadMsg]
    omega
  have room : sizeofHeadMsg ≤
      (List.replicate (sizeofHeadMsg + 1) (0 : UInt8)).length := by
    simp
  have assembled : (client.headBuf szRecvBuf).take sizeofHeadMsg =
      cachedBytes client.recvBufs ++ szRecvBuf :=
    take_assembleBuf full room (by decide)
  simp only [recvHead]
  rw [if_pos missingInt.symm, assembled]
  refine ⟨rfl, ?_, rfl⟩
  simp only [messages_append, messages_recvBufLocked_nil,
    messages_assembleCopies, List.nil_append]
  split <;> rfl

/-- A piece that stays inside the body is kept. -/
theorem recvBody_short
    {need : Nat}
    (needEq : client.nNeedRecvDataLen = need)
    (small : need < 2147483648)
    (short : (cachedBytes client.recvBufs).length + szRecvBuf.length < need)
    (now : Int) :
    let pass := client.recvBody szRecvBuf now
    pass.client = client.pushRecvBuf szRecvBuf ∧ messages pass.events = [] ∧
      pass.leaves = false := by
  have missing := missingBody_eq needEq small (by omega)
  simp only [recvBody]
  rw [if_neg (by omega), if_neg (by omega)]
  simp

/-- A piece that completes a body of type 1 delivers it. -/
theorem recvBody_full
    {need : Nat}
    (receives : client.hasTransPortEngineRecv = true)
    (isData : client.nMsgType = 1)
    (needEq : client.nNeedRecvDataLen = need)
    (small : need < 2147483648)
    (opened : (cachedBytes client.recvBufs).length < need)
    (full : (cachedBytes client.recvBufs).length + szRecvBuf.length = need)
    (now : Int) :
    let pass := client.recvBody szRecvBuf now
    pass.client = { client with recvBufs := [], bIsRecvHead := false } ∧
      messages pass.events =
        [.payload (cachedBytes client.recvBufs ++ szRecvBuf)] ∧
        pass.leaves = false := by
  have missing := missingBody_eq needEq small opened
  have size : client.nNeedRecvDataLen.toNat = need := by omega
  have room : need ≤
      (List.replicate client.nNeedRecvDataLen.toNat (0 : UInt8)).length := by
    rw [List.length_replicate, size]
  have assembled : (client.bodyBuf szRecvBuf).take client.nNeedRecvDataLen.toNat
      = cachedBytes client.recvBufs ++ szRecvBuf := by
    rw [size]
    exact take_assembleBuf full room small
  simp only [recvBody]
  rw [if_pos (by omega)]
  simp only [isData, receives, assembled, one_ne_zero, if_false, and_self,
    if_true, messages_append, messages_recvBufLocked_nil,
    messages_assembleCopies]
  exact ⟨trivial, rfl, trivial⟩

end Passes

/-! ## The decoder and the client -/

/-- The client is in the same position of the stream as the decoder. -/
def Follows : State UInt8 HeadKind → TcpClient → Prop
  | .head seen, client =>
      client.bIsHaveHead = true ∧ client.hasTransPortEngineRecv = true ∧
        client.bRecvFlag = true ∧ client.bIsRecvHead = false ∧
          cachedBytes client.recvBufs = seen ∧ seen.length < sizeofHeadMsg
  | .body kind need seen, client =>
      client.bIsHaveHead = true ∧ client.hasTransPortEngineRecv = true ∧
        client.bRecvFlag = true ∧ client.bIsRecvHead = true ∧
          cachedBytes client.recvBufs = seen ∧ kind = .data ∧
            client.nMsgType = 1 ∧ client.nNeedRecvDataLen = need ∧
              seen.length < need ∧ need < 2147483648

/-- The client requests exactly what completes the header or body. -/
theorem recvRequest_eq
    {state : State UInt8 HeadKind}
    {client : TcpClient}
    (follows : Follows state client) :
    client.recvRequest = frameFormat.request state := by
  cases state with
  | head seen =>
      obtain ⟨framed, -, -, noHead, rfl, opened⟩ := follows
      simp [recvRequest, framed, noHead, client.missingHead_eq opened,
        Format.request]
  | body kind need seen =>
      obtain ⟨framed, -, -, hasHead, rfl, -, -, needEq, opened, small⟩ :=
        follows
      have missing := missingBody_eq needEq small opened
      rw [recvRequest, if_pos framed, if_pos hasHead, missing,
        unsigned64_natCast (by omega)]
      rfl

/-- A turn with data goes on as its pass does. -/
theorem recvStep_data
    {client : TcpClient}
    {turn : RecvfromTurn}
    {szRecvBuf : List UInt8}
    {nonempty : 0 < szRecvBuf.length}
    (recv : turn.recv = .data szRecvBuf nonempty)
    (stays : (client.recvDataPass szRecvBuf turn.now).leaves = false) :
    client.recvStep turn =
      some ((client.recvDataPass szRecvBuf turn.now).client,
        messages (client.recvDataPass szRecvBuf turn.now).events) := by
  have requested : messages
      ((if client.bIsHaveHead then recvBufLocked [] else []) ++
        [EngineEvent.read client.nSocket]) = [] := by
    split <;> rfl
  simp only [recvStep, recvfromPass, recv, stays]
  rw [messages_append, requested]
  rfl

/-- The client follows the decoder over the end of a valid header. -/
theorem follows_afterHead
    {client : TcpClient}
    (framed : client.bIsHaveHead = true)
    (receives : client.hasTransPortEngineRecv = true)
    (running : client.bRecvFlag = true)
    (noHead : client.bIsRecvHead = false)
    (frame : Frame frameFormat)
    (now : Int) :
    Follows (frameFormat.afterHead frame.head).1
        (client.finishHead frame.head now).1 ∧
      (frameFormat.afterHead frame.head).2.filterMap frameMessage =
        if (client.finishHead frame.head now).2 then [.heartbeat] else [] := by
  rcases frame.head_valid with ⟨isData, positive, small⟩ | ⟨isHeartbeat, empty⟩
  · have types := headTypeIs_of_headKind_data isData
    have after := frameFormat.afterHead_of_pos positive
    have parsed : frameFormat.parse frame.head =
        (.data, headDataLen frame.head) := by
      rw [← isData]
      rfl
    have need : signed32 (headDataLen frame.head) = headDataLen frame.head :=
      signed32_of_range (by omega) (by omega)
    have finished : client.finishHead frame.head now =
        ({ client with
          recvBufs := []
          nNeedRecvDataLen := headDataLen frame.head
          nMsgType := 1
          bIsRecvHead := true }, false) := by
      simp [finishHead, types, need, positive]
    rw [after, parsed, finished]
    exact ⟨⟨framed, receives, running, rfl, rfl, rfl, rfl, rfl,
      by simpa using positive, small⟩, rfl⟩
  · have type := headTypeIs_of_headKind_heartbeat isHeartbeat
    have after := frameFormat.afterHead_of_zero empty
    have parsed : frameFormat.parse frame.head =
        (.heartbeat, headDataLen frame.head) := by
      rw [← isHeartbeat]
      rfl
    have none : headDataLen frame.head = 0 := empty
    have need : signed32 0 = 0 := by decide
    have finished : client.finishHead frame.head now =
        ({ client with
          recvBufs := []
          nNeedRecvDataLen := 0
          nMsgType := 0
          tHeartbeatTimeStamp := now }, true) := by
      simp [finishHead, type, none, need, handleHB]
    rw [after, parsed, finished]
    exact ⟨⟨framed, receives, running, noHead, rfl, by decide⟩, rfl⟩

/-- On a piece that was asked for, the client does what the decoder does. -/
theorem recvStep_simulates
    (state : State UInt8 HeadKind)
    (client : TcpClient)
    (turn : RecvfromTurn)
    (rest : List UInt8)
    (frames : List (Frame frameFormat))
    (follows : Follows state client)
    (allowed : turn.OfStream ∧ turn.bytes.length ≤ client.recvRequest)
    (pending : frameFormat.Pending state (turn.bytes ++ rest) frames) :
    ∃ next, client.recvStep turn =
        some (next,
          (frameFormat.feed state turn.bytes).2.filterMap frameMessage) ∧
      Follows (frameFormat.feed state turn.bytes).1 next := by
  obtain ⟨ofStream, granted⟩ := allowed
  rw [recvRequest_eq follows] at granted
  cases recv : turn.recv with
  | closed => simp [RecvfromTurn.OfStream, recv] at ofStream
  | failed => simp [RecvfromTurn.OfStream, recv] at ofStream
  | data szRecvBuf nonempty =>
      have bytes : turn.bytes = szRecvBuf := by
        rw [RecvfromTurn.bytes, recv]
      rw [bytes] at pending granted ⊢
      cases state with
      | head seen =>
          obtain ⟨framed, receives, running, noHead, rfl, opened⟩ := follows
          have data : client.recvDataPass szRecvBuf turn.now =
              client.recvHead szRecvBuf turn.now := by
            simp [recvDataPass, framed, noHead]
          have within : (cachedBytes client.recvBufs).length +
              szRecvBuf.length ≤ sizeofHeadMsg := by
            simp only [Format.request, frameFormat_headLength] at granted
            omega
          rcases Nat.lt_or_eq_of_le within with short | full
          · obtain ⟨clientEq, silent, stays⟩ := recvHead_short short turn.now
            rw [← data] at clientEq silent stays
            rw [recvStep_data recv stays, clientEq, silent,
              frameFormat.feed_head_short short]
            refine ⟨_, rfl, framed, receives, running, noHead, ?_, ?_⟩
            · exact cachedBytes_push _ _
            · rw [List.length_append]
              exact short
          · obtain ⟨clientEq, emitted, stays⟩ :=
              recvHead_full opened full turn.now
            rw [← data] at clientEq emitted stays
            obtain ⟨frame, later, rfl, headEq, -⟩ := pending.headComplete full
            rw [headEq] at clientEq emitted
            have after := follows_afterHead framed receives running noHead
              frame turn.now
            rw [recvStep_data recv stays, clientEq, emitted,
              frameFormat.feed_head_full opened full, headEq, after.2]
            exact ⟨_, rfl, after.1⟩
      | body kind need seen =>
          obtain ⟨framed, receives, running, hasHead, rfl, rfl, isData, needEq,
            opened, small⟩ := follows
          have data : client.recvDataPass szRecvBuf turn.now =
              client.recvBody szRecvBuf turn.now := by
            simp [recvDataPass, framed, hasHead]
          have within : (cachedBytes client.recvBufs).length +
              szRecvBuf.length ≤ need := by
            simp only [Format.request] at granted
            omega
          rcases Nat.lt_or_eq_of_le within with short | full
          · obtain ⟨clientEq, silent, stays⟩ :=
              recvBody_short needEq small short turn.now
            rw [← data] at clientEq silent stays
            rw [recvStep_data recv stays, clientEq, silent,
              frameFormat.feed_body_short short]
            refine ⟨_, rfl, framed, receives, running, hasHead, ?_, rfl, isData,
              needEq, ?_, small⟩
            · exact cachedBytes_push _ _
            · rw [List.length_append]
              exact short
          · obtain ⟨clientEq, emitted, stays⟩ :=
              recvBody_full receives isData needEq small opened full turn.now
            rw [← data] at clientEq emitted stays
            rw [recvStep_data recv stays, clientEq, emitted,
              frameFormat.feed_body_full opened full]
            exact ⟨_, rfl, framed, receives, running, rfl, rfl, by decide⟩

/-! ## Whole runs -/

/-- The members that receiving does not change. -/
def linkMembers (client : TcpClient) :
    Int × MsgType × Bool × Bool × Bool × Bool × Bool × Int :=
  (client.nSocket, client.nLinkStatus, client.bRecvFlag, client.bHeartbeatFlag,
    client.hasTransPortEngineRecv, client.bIsHaveHB, client.bIsHaveHead,
    client.nHeartBeatInterval)

theorem linkMembers_finishHead
    (client : TcpClient)
    (headMsg : List UInt8)
    (now : Int) :
    (client.finishHead headMsg now).1.linkMembers = client.linkMembers := by
  simp only [finishHead, apply_ite Prod.fst, handleHB, apply_ite linkMembers]
  simp only [linkMembers, ite_self]

theorem linkMembers_recvBody
    (client : TcpClient)
    (szRecvBuf : List UInt8)
    (now : Int) :
    (client.recvBody szRecvBuf now).client.linkMembers =
      client.linkMembers := by
  unfold recvBody
  dsimp only
  split
  · by_cases heartbeat : client.nMsgType = 0
    · simp only [if_pos heartbeat]
      rfl
    · simp only [if_neg heartbeat]
      split <;> rfl
  · split <;> rfl

theorem linkMembers_recvfromPass (client : TcpClient) (turn : RecvfromTurn) :
    (client.recvfromPass turn).client.linkMembers = client.linkMembers := by
  unfold recvfromPass
  cases turn.recv with
  | closed => rfl
  | failed => rfl
  | data szRecvBuf nonempty =>
      dsimp only [recvDataPass]
      split
      · split
        · exact client.linkMembers_recvBody szRecvBuf turn.now
        · simp only [recvHead, pushRecvBuf, apply_ite RecvfromPass.client,
            apply_ite linkMembers, linkMembers_finishHead]
          simp only [linkMembers, ite_self]
      · rfl

/-- Receiving leaves the flag that keeps the loop going. -/
theorem bRecvFlag_recvfromPass (client : TcpClient) (turn : RecvfromTurn) :
    (client.recvfromPass turn).client.bRecvFlag = client.bRecvFlag :=
  congrArg (·.2.2.1) (client.linkMembers_recvfromPass turn)

/-- Only the end of the connection leaves the loop, without a message. -/
theorem messages_of_leaves
    {client : TcpClient}
    {turn : RecvfromTurn}
    (leaves : (client.recvfromPass turn).leaves = true) :
    messages (client.recvfromPass turn).events = [] := by
  have requested : messages
      ((if client.bIsHaveHead then recvBufLocked [] else []) ++
        [EngineEvent.read client.nSocket]) = [] := by
    split <;> rfl
  cases recv : turn.recv with
  | closed => simpa [recvfromPass, recv] using requested
  | failed => simpa [recvfromPass, recv] using requested
  | data szRecvBuf nonempty =>
      have stays : (client.recvDataPass szRecvBuf turn.now).leaves = false := by
        simp only [recvDataPass, recvBody, recvHead, recvRaw,
          apply_ite RecvfromPass.leaves, ite_self]
      simp [recvfromPass, recv, stays] at leaves

/-- What the loop hands on is what the receiver made of its turns does. -/
theorem receive_recvStep
    {client : TcpClient}
    (running : client.bRecvFlag = true)
    (turns : List RecvfromTurn) :
    (receive recvStep client turns).1 =
      messages (client.recvfrom turns).events := by
  induction turns generalizing client with
  | nil => rfl
  | cons turn turns inductionHypothesis =>
      rw [recvfrom, if_pos running]
      cases leaves : (client.recvfromPass turn).leaves with
      | false =>
          have running' :
              (client.recvfromPass turn).client.bRecvFlag = true := by
            rw [bRecvFlag_recvfromPass, running]
          have stepped : client.recvStep turn =
              some ((client.recvfromPass turn).client,
                messages (client.recvfromPass turn).events) := by
            simp [recvStep, leaves]
          rw [receive_cons_some stepped, inductionHypothesis running']
          simp [leaves]
      | true =>
          have stepped : client.recvStep turn = none := by
            simp [recvStep, leaves]
          rw [receive_cons_none stepped]
          simp [leaves, messages_of_leaves leaves]

/-- Granted requests are what the environment of the receiver permits. -/
theorem permitted_of_granted
    {client : TcpClient}
    {turns : List RecvfromTurn}
    (granted : client.Granted turns)
    (ofStream : ∀ turn ∈ turns, turn.OfStream) :
    Permitted recvStep
      (fun client turn =>
        turn.OfStream ∧ turn.bytes.length ≤ client.recvRequest)
      client turns := by
  induction turns generalizing client with
  | nil => trivial
  | cons turn turns inductionHypothesis =>
      refine ⟨⟨ofStream turn List.mem_cons_self, granted.1⟩, ?_⟩
      intro next delivered stepped
      have nextEq : next = (client.recvfromPass turn).client := by
        simp only [recvStep] at stepped
        split at stepped
        · contradiction
        · simp only [Option.some.injEq, Prod.mk.injEq] at stepped
          exact stepped.1.symm
      rw [nextEq]
      apply inductionHypothesis granted.2
      intro later member
      exact ofStream later (List.mem_cons_of_mem _ member)

/-- Every frame of a stream reaches the client, in order. -/
theorem messages_recvfrom_wire
    {client : TcpClient}
    {frames : List (Frame frameFormat)}
    {turns : List RecvfromTurn}
    (start : client.AtFrameStart)
    (ofStream : ∀ turn ∈ turns, turn.OfStream)
    (granted : client.Granted turns)
    (cut : turns.flatMap RecvfromTurn.bytes = wire frames) :
    messages (client.recvfrom turns).events =
      frames.filterMap fun frame => frameMessage frame.output := by
  have follows : Follows (.head []) client := by
    refine ⟨start.framed, start.receives, start.running, start.noHead, ?_,
      by decide⟩
    rw [start.noCache]
    rfl
  have pending : frameFormat.Pending (.head [])
      (turns.flatMap RecvfromTurn.bytes) frames := by
    rw [cut]
    exact Format.pending_wire _
  have always : frameFormat.Along (fun _ _ => True) (.head [])
      (turns.map RecvfromTurn.bytes) := by
    have any : ∀ state pieces,
        frameFormat.Along (fun _ _ => True) state pieces := by
      intro state pieces
      induction pieces generalizing state with
      | nil => trivial
      | cons piece pieces inductionHypothesis =>
          exact ⟨trivial, inductionHypothesis _⟩
    exact any _ _
  have received := Format.receive_of_along
    (fun state client turn rest frames follows allowed pending _ =>
      recvStep_simulates state client turn rest frames follows allowed pending)
    turns follows pending (permitted_of_granted granted ofStream) always
  rw [← receive_recvStep start.running, received]

/-- Every message of a stream reaches the client, in order. -/
theorem messages_recvfrom
    {client : TcpClient}
    {session : TcpSession}
    {sends : List ServerSend}
    {turns : List RecvfromTurn}
    (framed : session.bIsHaveHead = true)
    (start : client.AtFrameStart)
    (done : ∀ send ∈ sends, (send.run session).result = .returned 0)
    (ofStream : ∀ turn ∈ turns, turn.OfStream)
    (granted : client.Granted turns)
    (cut : turns.flatMap RecvfromTurn.bytes = session.stream sends) :
    messages (client.recvfrom turns).events =
      sends.map ServerSend.message := by
  rw [TcpSession.stream_eq_wire framed done] at cut
  rw [messages_recvfrom_wire start ofStream granted cut, List.filterMap_map,
    ← List.filterMap_eq_map]
  congr 1
  funext send
  exact frameMessage_frame send

/-- A client delivers the payloads of a framed session, each once and in order,
and handles every heartbeat once, however the stream is cut. -/
theorem recvfrom_delivers
    (client : TcpClient)
    (session : TcpSession)
    (sends : List ServerSend)
    (turns : List RecvfromTurn)
    (framed : session.bIsHaveHead = true)
    (start : client.AtFrameStart)
    (done : ∀ send ∈ sends, (send.run session).result = .returned 0)
    (ofStream : ∀ turn ∈ turns, turn.OfStream)
    (granted : client.Granted turns)
    (cut : turns.flatMap RecvfromTurn.bytes = session.stream sends) :
    deliveries (client.recvfrom turns).events =
        (sends.map ServerSend.message).filterMap Message.payload? ∧
      heartbeatCount (client.recvfrom turns).events =
        (sends.map ServerSend.message).count .heartbeat := by
  have received := messages_recvfrom framed start done ofStream granted cut
  rw [deliveries_eq_messages, heartbeatCount_eq_messages, received]
  exact ⟨rfl, rfl⟩

/-! ### A letter and an echo -/

/-- A data frame written in two parts, then the echo of a heartbeat. -/
def letterAndEcho : List ServerSend :=
  [.data letterA ⟨[.accepted 4, .again, .accepted 5], true⟩,
    .echo clientHeartbeat ⟨[.accepted 8], true⟩]

/-- The two frames, cut inside the first header. -/
def letterAndEchoTurns : List RecvfromTurn :=
  [⟨.data recvData (by decide), 1⟩,
    ⟨.data [0, 0, 0, 0, 1] (by decide), 1⟩,
    ⟨.data letterA.bytes letterA.nonempty, 2⟩,
    ⟨.data heartbeatHeadMsg (by decide), 3⟩]

theorem recvfrom_delivers_letterAndEcho :
    deliveries (framedClient.recvfrom letterAndEchoTurns).events = [[0x41]] ∧
      heartbeatCount (framedClient.recvfrom letterAndEchoTurns).events = 1 :=
  recvfrom_delivers framedClient TcpSession.framedSession letterAndEcho
    letterAndEchoTurns rfl (atFrameStart_configure _ _ _) (by decide)
    (by simp [letterAndEchoTurns, RecvfromTurn.OfStream])
    (by refine ⟨?_, ?_, ?_, ?_, trivial⟩ <;> decide) (by decide)

end TcpClient

end TransPortEngine
