import TransPortEngine.Connection.Linux
import TransPortEngine.HeartbeatEviction
import TransPortEngine.Library.Pace
import TransPortEngine.TcpClient.Timed

/-!
# Heartbeats keep a connection alive

A framed connection with a clock. The client beats, the session stamps each
heartbeat it handles and sends it back, and the client stamps what comes back.
Neither end takes the other for dead as long as the beats come regularly and their
delay is short enough, whatever else is sent meanwhile.
-/

namespace TransPortEngine

open Framing Exchange Transition Pace

/-! ## Time stamps -/

/-- The events of a send are no messages. -/
theorem TcpSession.messages_ioSend
    (session : TcpSession)
    (szData : Option (List UInt8))
    (nDataLen : Int)
    (outcomes : SendOutcomes) :
    messages (session.ioSend szData nDataLen outcomes).events = [] := by
  rcases (session.ioSend_writes szData nDataLen outcomes).2 with
    nothing | ⟨bytes, writes⟩
  · rw [nothing]
    rfl
  · rw [writes]
    exact messages_ioSendWrites ..

namespace TcpSession

variable {session : TcpSession} {szRecvBuf : List UInt8} {now : Int}

/-- A body that is handled as a heartbeat sets the time stamp. -/
theorem stamped_ioRecvBody
    (heard : Message.heartbeat ∈
      messages (session.ioRecvBody szRecvBuf now).events) :
    (session.ioRecvBody szRecvBuf now).session.tHeartbeatTimeStamp = now := by
  unfold ioRecvBody at heard ⊢
  dsimp only at heard ⊢
  split at heard
  · rename_i full
    rw [if_pos full]
    rw [messages_append, messages_append, messages_assembleCopies] at heard
    by_cases heartbeat : session.nRecvDataType = 0
    · simp [setCore, SessionCore.finishBody, heartbeat, SessionCore.headleHB]
    · simp only [bodyEvents, if_neg heartbeat] at heard
      split at heard
      · contradiction
      · contradiction
  · split at heard
    · contradiction
    · contradiction

/-- Only the header of an empty heartbeat is handled as a heartbeat. -/
theorem empty_of_headEvents
    {headMsg : List UInt8}
    {echo : EchoOutcomes}
    (heard : Message.heartbeat ∈
      messages (session.headEvents headMsg echo)) :
    headTypeIs heartBeat headMsg = true ∧ ¬0 < headDataLen headMsg := by
  unfold headEvents at heard
  split at heard
  · rename_i type
    rw [messages_append, messages_ioSend, List.append_nil] at heard
    split at heard
    · contradiction
    · rename_i empty
      exact ⟨type, empty⟩
  · contradiction

/-- A header that is handled as a heartbeat sets the time stamp. -/
theorem stamped_ioRecvHead
    {echo : EchoOutcomes}
    (heard : Message.heartbeat ∈
      messages (session.ioRecvHead szRecvBuf now echo).events) :
    (session.ioRecvHead szRecvBuf now echo).session.tHeartbeatTimeStamp =
      now := by
  unfold ioRecvHead at heard ⊢
  dsimp only at heard ⊢
  split at heard
  · contradiction
  · rename_i fits
    rw [if_neg fits]
    split at heard
    · contradiction
    · rename_i full
      rw [if_neg full]
      simp only [messages_append, messages_assembleCopies,
        messages_recvBufLocked_nil, List.nil_append] at heard
      obtain ⟨type, empty⟩ := empty_of_headEvents heard
      simp only [setCore, SessionCore.finishHead, if_pos type]
      exact congrArg SessionCore.tHeartbeatTimeStamp (if_neg empty)

/-- A pass that handles a heartbeat sets the time stamp. -/
theorem stamped_ioRecvPass
    {turn : RecvTurn}
    (heard : Message.heartbeat ∈ messages (session.ioRecvPass turn).events) :
    (session.ioRecvPass turn).session.tHeartbeatTimeStamp = turn.now := by
  obtain ⟨read, now, echo, epollCtl⟩ := turn
  cases read with
  | closed | failed | interrupted | again => contradiction
  | data chunk =>
      simp only [ioRecvPass, messages_read_cons] at heard ⊢
      unfold ioRecvData at heard ⊢
      split at heard
      · rename_i framed
        rw [if_pos framed]
        split at heard
        · rename_i hasHead
          rw [if_pos hasHead]
          exact stamped_ioRecvBody heard
        · rename_i noHead
          rw [if_neg noHead]
          exact stamped_ioRecvHead heard
      · rw [ioRecvRaw] at heard
        split at heard
        · simp [messages, EngineEvent.message] at heard
        · contradiction

/-- What a session sends leaves its time stamp, and is no message. -/
theorem stamp_sendData
    (session : TcpSession)
    (payload : Payload)
    (outcomes : SendOutcomes) :
    let run := session.sendData payload.bytes payload.bytes.length outcomes
    run.session.tHeartbeatTimeStamp = session.tHeartbeatTimeStamp ∧
      messages run.events = [] := by
  unfold sendData
  dsimp only
  split
  · split
    · exact ⟨rfl, rfl⟩
    · exact ⟨by rw [(session.ioSend_writes _ _ _).1], messages_ioSend ..⟩
  · exact ⟨by rw [(session.ioSend_writes _ _ _).1], messages_ioSend ..⟩

end TcpSession

/-! ## A connection with a clock -/

/-- A connection, the clock in seconds, and when the client has sent its
heartbeats. -/
structure TimedConnection where
  connection : FramedConnection TcpSession.kind
  clock : Int
  beats : List Int

/-- A step of either end, or time that passes. -/
inductive TimedConnectionLabel
  | traffic (label : ConnectionLabel TcpSession.kind)
  | wait (seconds : Nat)

namespace TimedConnection

/-- Two ends between which nothing has been sent. -/
def start
    (client : TcpClient)
    (session : TcpSession)
    (clock : Int) : TimedConnection where
  connection := .start client session
  clock := clock
  beats := []

/-- What is received is handled at the time the clock shows. -/
def OnTime (clock : Int) : ConnectionLabel TcpSession.kind → Prop
  | .clientRecv turn => turn.now = clock
  | .serverRecv turn => RecvTurn.now turn = clock
  | _ => True

instance (clock : Int) (label : ConnectionLabel TcpSession.kind) :
    Decidable (OnTime clock label) :=
  match label with
  | .clientRecv _ => inferInstanceAs (Decidable (_ = _))
  | .serverRecv _ => inferInstanceAs (Decidable (_ = _))
  | .clientSend _ _ | .serverSend _ _ => isTrue trivial

/-- The beats of a step. -/
def newBeats (clock : Int) : ConnectionLabel TcpSession.kind → List Int
  | .clientSend .heartbeat _ => [clock]
  | _ => []

/-- One step. -/
def step (timed : TimedConnection) : TimedConnectionLabel → Option TimedConnection
  | .traffic label =>
      if OnTime timed.clock label then
        (timed.connection.step label).map fun connection =>
          ⟨connection, timed.clock,
            timed.beats ++ newBeats timed.clock label⟩
      else none
  | .wait seconds => some { timed with clock := timed.clock + seconds }

/-- The client has sent a heartbeat within the last period. -/
def Beaten (start period : Int) (timed : TimedConnection) : Prop :=
  timed.clock ≤ last start timed.beats + period

/-- No send of a step is cut short. -/
def SendsWhole (timed : TimedConnection) : TimedConnectionLabel → Prop
  | .traffic label => timed.connection.SendsWhole label
  | .wait _ => True

/-- The client beats regularly, and no send is cut short. -/
def Regular
    (start period : Int)
    (timed : TimedConnection)
    (label : TimedConnectionLabel) : Prop :=
  timed.Beaten start period ∧ timed.SendsWhole label

instance (start period : Int) (timed : TimedConnection) :
    Decidable (timed.Beaten start period) :=
  inferInstanceAs (Decidable (_ ≤ _))

instance (timed : TimedConnection) (label : TimedConnectionLabel) :
    Decidable (timed.SendsWhole label) :=
  match label with
  | .traffic label => inferInstanceAs (Decidable (timed.connection.SendsWhole label))
  | .wait _ => isTrue trivial

instance
    (start period : Int)
    (timed : TimedConnection)
    (label : TimedConnectionLabel) :
    Decidable (timed.Regular start period label) :=
  inferInstanceAs (Decidable (_ ∧ _))

/-- The session has handled each heartbeat that was sent more than the delay ago. -/
def Heard (delay : Int) (timed : TimedConnection) : Prop :=
  Prompt timed.beats (heartbeatCount timed.connection.serverEvents) delay
    timed.clock

/-- Each heartbeat that was sent more than the delay ago has come back. -/
def Echoed (delay : Int) (timed : TimedConnection) : Prop :=
  Prompt timed.beats (heartbeatCount timed.connection.clientEvents) delay
    timed.clock

/-! ## What both ends have heard -/

/-- The beats are paced, and each end stamps what it has heard of them. -/
structure Alive (start period : Int) (timed : TimedConnection) : Prop where
  paced : Paced period start timed.beats
  past : last start timed.beats ≤ timed.clock
  sent : timed.beats.length =
    (timed.connection.clientSends.map ClientSend.message).count .heartbeat
  exchange : ∃ exchange, Fair answers exchange ∧
    FramedConnection.Represents TcpSession.decodes timed.connection exchange
  server : Stamped start timed.beats
    (heartbeatCount timed.connection.serverEvents)
    timed.connection.session.tHeartbeatTimeStamp
  client : Stamped start timed.beats
    (heartbeatCount timed.connection.clientEvents)
    timed.connection.client.tHeartbeatTimeStamp

variable {origin period : Int} {timed next : TimedConnection}

/-- No end has handled more heartbeats than the client has sent. -/
theorem Alive.heard_le (alive : Alive origin period timed) :
    heartbeatCount timed.connection.serverEvents ≤ timed.beats.length ∧
      heartbeatCount timed.connection.clientEvents ≤
        heartbeatCount timed.connection.serverEvents := by
  obtain ⟨exchange, fair, represents⟩ := alive.exchange
  have delivers := FramedConnection.delivers_of_represents represents fair
  constructor
  · rw [alive.sent, heartbeatCount_eq_messages]
    exact delivers.server.sublist.count_le _
  · obtain ⟨both, merges, handedOn, -⟩ := delivers.client
    have payloads : (timed.connection.serverSends.map fun payload =>
        Message.payload payload.bytes).count .heartbeat = 0 := by
      apply List.count_eq_zero.mpr
      intro member
      obtain ⟨payload, -, impossible⟩ := List.mem_map.mp member
      contradiction
    have counted := merges.count_eq .heartbeat
    rw [payloads, List.count_replicate_self, Nat.zero_add] at counted
    rw [heartbeatCount_eq_messages, ← counted]
    exact handedOn.sublist.count_le _

/-- A connection at the time both ends begin. -/
theorem alive_start
    {client : TcpClient}
    {session : TcpSession}
    (clientStart : client.AtFrameStart)
    (sessionStart : session.toSessionCore.AtFrameStart)
    (clientStamp : origin ≤ client.tHeartbeatTimeStamp)
    (sessionStamp : origin ≤ session.tHeartbeatTimeStamp) :
    Alive origin period (start client session origin) where
  paced := trivial
  past := le_rfl
  sent := rfl
  exchange := ⟨.empty, fair_empty answers,
    FramedConnection.represents_start clientStart sessionStart.follows⟩
  server := ⟨sessionStamp, fun _ _ _ impossible => by contradiction⟩
  client := ⟨clientStamp, fun _ _ _ impossible => by contradiction⟩

/-- Time passes. -/
theorem Alive.wait
    (alive : Alive origin period timed)
    (seconds : Nat) :
    Alive origin period { timed with clock := timed.clock + seconds } where
  paced := alive.paced
  past := by
    have past := alive.past
    dsimp only
    omega
  sent := alive.sent
  exchange := alive.exchange
  server := alive.server
  client := alive.client

/-- A stamp after a read: as it was, if no heartbeat was handled, or now. -/
theorem Alive.stamped
    {heard handled : Nat}
    {stamp after : Int}
    (alive : Alive origin period timed)
    (stamped : Stamped origin timed.beats heard stamp)
    (changes : after = stamp ∨ after = timed.clock)
    (sets : handled ≠ 0 → after = timed.clock) :
    Stamped origin timed.beats (heard + handled) after := by
  by_cases nothing : handled = 0
  · rcases changes with rfl | rfl
    · rw [nothing]
      exact stamped
    · exact stamped_now alive.paced alive.past _
  · rw [sets nothing]
    exact stamped_now alive.paced alive.past _

theorem heartbeatCount_append (first second : List EngineEvent) :
    heartbeatCount (first ++ second) =
      heartbeatCount first + heartbeatCount second :=
  List.count_append

/-- Events among which a heartbeat has been counted. -/
theorem heard_of_count
    {events : List EngineEvent}
    (some : heartbeatCount events ≠ 0) :
    Message.heartbeat ∈ messages events := by
  rw [heartbeatCount_eq_messages] at some
  exact List.count_pos_iff.mp (Nat.pos_of_ne_zero some)

/-- The connection goes on in a step without a beat. -/
theorem Alive.unbeaten
    {connection : FramedConnection TcpSession.kind}
    (alive : Alive origin period timed)
    (sends : (connection.clientSends.map ClientSend.message).count .heartbeat =
      (timed.connection.clientSends.map ClientSend.message).count .heartbeat)
    (exchange : ∃ exchange, Fair answers exchange ∧
      FramedConnection.Represents TcpSession.decodes connection exchange)
    (server : Stamped origin timed.beats
      (heartbeatCount connection.serverEvents)
      connection.session.tHeartbeatTimeStamp)
    (client : Stamped origin timed.beats
      (heartbeatCount connection.clientEvents)
      connection.client.tHeartbeatTimeStamp) :
    Alive origin period ⟨connection, timed.clock, timed.beats ++ []⟩ := by
  rw [List.append_nil]
  exact ⟨alive.paced, alive.past, alive.sent.trans sends.symm, exchange, server,
    client⟩

/-- The client sends a heartbeat. -/
theorem Alive.beat
    {connection : FramedConnection TcpSession.kind}
    (alive : Alive origin period timed)
    (beaten : timed.Beaten origin period)
    (sends : connection.clientSends =
      timed.connection.clientSends ++ [.heartbeat])
    (exchange : ∃ exchange, Fair answers exchange ∧
      FramedConnection.Represents TcpSession.decodes connection exchange)
    (server : connection.serverEvents = timed.connection.serverEvents ∧
      connection.session = timed.connection.session)
    (client : connection.clientEvents = timed.connection.clientEvents ∧
      connection.client = timed.connection.client) :
    Alive origin period
      ⟨connection, timed.clock, timed.beats ++ [timed.clock]⟩ where
  paced := alive.paced.append alive.past beaten
  past := (last_append ..).le
  sent := by
    rw [sends, List.length_append, List.map_append, List.count_append,
      alive.sent]
    rfl
  exchange := exchange
  server := by
    rw [server.1, server.2]
    exact alive.server.append alive.heard_le.1
  client := by
    rw [client.1, client.2]
    exact alive.client.append (alive.heard_le.2.trans alive.heard_le.1)

/-- A step of one of the two ends. -/
theorem Alive.traffic
    {label : ConnectionLabel TcpSession.kind}
    (alive : Alive origin period timed)
    (beaten : timed.Beaten origin period)
    (whole : timed.connection.SendsWhole label)
    (stepped : timed.step (.traffic label) = some next) :
    Alive origin period next := by
  rw [TimedConnection.step] at stepped
  split at stepped
  · rename_i onTime
    obtain ⟨connection, moved, rfl⟩ := Option.map_eq_some_iff.mp stepped
    have exchange : ∃ exchange, Fair answers exchange ∧
        FramedConnection.Represents TcpSession.decodes connection exchange := by
      obtain ⟨exchange, fair, represents⟩ := alive.exchange
      obtain ⟨moves, later, ran, representsLater⟩ :=
        (FramedConnection.simulates TcpSession.decodes).matched _ _ _ _ represents
          whole moved
      exact ⟨later, holds_of_run (fun _ move _ => fair_step move) fair ran,
        representsLater⟩
    cases label with
    | clientSend send nSent =>
        rw [FramedConnection.step, Option.some.injEq] at moved
        subst moved
        cases send with
        | heartbeat =>
            exact alive.beat beaten rfl exchange ⟨rfl, rfl⟩ ⟨rfl, rfl⟩
        | data payload =>
            refine alive.unbeaten ?_ exchange alive.server alive.client
            rw [List.map_append, List.count_append]
            rfl
    | clientRecv turn =>
        rw [FramedConnection.step] at moved
        split at moved
        · rw [Option.some.injEq] at moved
          subst moved
          refine alive.unbeaten rfl exchange alive.server ?_
          have isStamp :=
            timed.connection.client.tHeartbeatTimeStamp_recvfromPass turn
          have isNow : turn.now = timed.clock := onTime
          rw [heartbeatCount_append]
          apply alive.stamped alive.client
          · rw [isStamp, isNow]
            split
            · exact Or.inr rfl
            · exact Or.inl rfl
          · intro some
            rw [isStamp, if_pos (heard_of_count some), isNow]
        · contradiction
    | serverSend payload outcomes =>
        rw [FramedConnection.step] at moved
        split at moved
        · rw [Option.some.injEq] at moved
          subst moved
          have sent := TcpSession.stamp_sendData timed.connection.session payload
            outcomes
          refine alive.unbeaten rfl exchange ?_ alive.client
          rw [heartbeatCount_append]
          apply alive.stamped alive.server (Or.inl sent.1)
          intro some
          exact absurd sent.2 (List.ne_nil_of_mem (heard_of_count some))
        · contradiction
    | serverRecv turn =>
        rw [FramedConnection.step] at moved
        split at moved
        · rw [Option.some.injEq] at moved
          subst moved
          have isNow : RecvTurn.now turn = timed.clock := onTime
          refine alive.unbeaten rfl exchange ?_ alive.client
          rw [heartbeatCount_append]
          apply alive.stamped alive.server
          · rw [← isNow]
            exact TcpSession.tHeartbeatTimeStamp_ioRecvPass _ turn
          · intro some
            rw [← isNow]
            exact TcpSession.stamped_ioRecvPass (heard_of_count some)
        · contradiction
  · contradiction

/-- Every step of a connection with a regular client. -/
theorem Alive.step
    {label : TimedConnectionLabel}
    (alive : Alive origin period timed)
    (regular : timed.Regular origin period label)
    (stepped : timed.step label = some next) :
    Alive origin period next := by
  cases label with
  | traffic label => exact alive.traffic regular.1 regular.2 stepped
  | wait seconds =>
      rw [← Option.some.inj stepped]
      exact alive.wait seconds

/-- In every run of a connection whose client beats regularly, whatever both ends
send meanwhile and however the bytes are cut: a session that handles each heartbeat
within some delay does not time out as long as the period and the delay do not
exceed `HEARTBEAT_TIMEOUT`, and a client to which each heartbeat comes back within
some delay does not time out as long as both stay below it. -/
theorem keeps_alive
    (client : TcpClient)
    (session : TcpSession)
    (origin period : Int)
    (positive : 0 ≤ period)
    (clientStart : client.AtFrameStart)
    (sessionStart : session.toSessionCore.AtFrameStart)
    (clientStamp : origin ≤ client.tHeartbeatTimeStamp)
    (sessionStamp : origin ≤ session.tHeartbeatTimeStamp)
    (labels : List TimedConnectionLabel)
    (regular : Throughout step (Regular origin period)
      (start client session origin) labels)
    (last : TimedConnection)
    (reached : run step (start client session origin) labels = some last)
    (beaten : last.Beaten origin period) :
    (∀ delay, 0 ≤ delay → last.Heard delay →
      period + delay ≤ heartbeatTimeout →
        last.connection.session.isHeartbeatTimeOut last.clock = false) ∧
    (∀ delay, 0 ≤ delay → last.Echoed delay →
      period + delay < heartbeatTimeout →
        last.connection.client.sessionTimeout last.clock = false) := by
  have alive : Alive origin period last :=
    invariant_of_run
      (fun _ _ _ alive regular stepped => Alive.step alive regular stepped)
      (alive_start clientStart sessionStart clientStamp sessionStamp)
      regular reached
  constructor
  · intro delay nonnegative heard short
    have recent := alive.server.recent alive.paced beaten heard nonnegative
      positive
    exact decide_eq_false (not_lt.mpr (recent.trans short))
  · intro delay nonnegative echoed short
    have recent := alive.client.recent alive.paced beaten echoed nonnegative
      positive
    exact decide_eq_false (not_le.mpr (recent.trans_lt short))

/-! ### Two heartbeats -/

/-- A heartbeat that is handled a second later, and comes back after another
one. -/
def beatSteps (now : Int) : List TimedConnectionLabel :=
  [.traffic (.clientSend .heartbeat 8),
    .wait 1,
    .traffic (.serverRecv
      { FramedConnection.headTurn ClientSend.heartbeat.frame with now := now + 1 }),
    .wait 1,
    .traffic (.clientRecv
      (FramedConnection.headRecv ClientSend.heartbeat.frame (now + 2))),
    .wait 3]

/-- Every five seconds a heartbeat. -/
theorem keeps_alive_twoBeats :
    ∃ last, run step
        (start TcpClient.framedClient TcpSession.framedSession 0)
        (beatSteps 0 ++ beatSteps 5) = some last ∧
      last.connection.session.isHeartbeatTimeOut last.clock = false ∧
      last.connection.client.sessionTimeout last.clock = false := by
  have regular : Throughout step (Regular 0 5)
      (start TcpClient.framedClient TcpSession.framedSession 0)
      (beatSteps 0 ++ beatSteps 5) := by decide
  obtain ⟨last, reached, clock, beats, handled, cameBack⟩ : ∃ last, run step
        (start TcpClient.framedClient TcpSession.framedSession 0)
        (beatSteps 0 ++ beatSteps 5) = some last ∧
      last.clock = 10 ∧ last.beats = [0, 5] ∧
      heartbeatCount last.connection.serverEvents = 2 ∧
      heartbeatCount last.connection.clientEvents = 2 :=
    ⟨_, rfl, rfl, rfl, rfl, rfl⟩
  have beaten : last.Beaten 0 5 := by
    rw [Beaten, clock, beats]
    decide
  obtain ⟨server, client⟩ := keeps_alive TcpClient.framedClient
    TcpSession.framedSession 0 5 (by decide)
    (TcpClient.atFrameStart_configure _ _ _) ⟨rfl, rfl, rfl, rfl⟩ (by decide)
    (by decide) (beatSteps 0 ++ beatSteps 5) regular last reached beaten
  refine ⟨last, reached, ?_, ?_⟩
  · exact server 1 (by decide) (prompt_of_all (by rw [beats, handled]; decide) _ _)
      (by decide)
  · exact client 2 (by decide) (prompt_of_all (by rw [beats, cameBack]; decide) _ _)
      (by decide)

end TimedConnection

end TransPortEngine
