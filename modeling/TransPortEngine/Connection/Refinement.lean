import TransPortEngine.Connection.Defs
import TransPortEngine.Library.Exchange
import TransPortEngine.Library.Simulation

/-!
# A connection is an exchange of messages

As long as no send is cut short, a framed connection does what two parties do
that post messages to each other, whatever the order of the steps and however
the reads cut the bytes: the client is the near party, the session the far one,
and the session answers a heartbeat with a heartbeat. This holds for every kind
of session that decodes what it receives or else stops listening.
-/

namespace TransPortEngine

open Framing Exchange Transition

/-- The message a client sends. -/
def ClientSend.message : ClientSend → Message
  | .data payload => .payload payload.bytes
  | .heartbeat => .heartbeat

/-- The session, which is the far party, sends heartbeats back. -/
def answers : Party → Message → List Message
  | .far, .heartbeat => [.heartbeat]
  | _, _ => []

@[simp] theorem flatMap_answers_near (messages : List Message) :
    messages.flatMap (answers .near) = [] := by
  simp [answers]

/-- The messages of some frames. -/
def frameMessages (frames : List (Frame frameFormat)) : List Message :=
  frames.filterMap fun frame => frameMessage frame.output

@[simp] theorem frameMessages_append (first second : List (Frame frameFormat)) :
    frameMessages (first ++ second) =
      frameMessages first ++ frameMessages second :=
  List.filterMap_append

theorem frameMessages_dataFrame (payload : Payload) :
    frameMessages [dataFrame payload] = [.payload payload.bytes] := by
  simp [frameMessages, frameMessage]

theorem frameMessages_clientSend (send : ClientSend) :
    frameMessages [send.frame] = [send.message] := by
  cases send with
  | data payload => exact frameMessages_dataFrame payload
  | heartbeat => simp [frameMessages, ClientSend.frame, ClientSend.message,
      frameMessage]

/-! ## Bytes that carry messages -/

/-- From where the decoder is, the bytes on their way complete frames with the
given messages. -/
def Carries
    (state : State UInt8 HeadKind)
    (bytes : List UInt8)
    (waiting : List Message) : Prop :=
  ∃ frames, frameFormat.Pending state bytes frames ∧
    frameMessages frames = waiting

namespace Carries

variable {state : State UInt8 HeadKind} {bytes rest : List UInt8}
  {waiting : List Message}

theorem start : Carries (.head []) [] [] :=
  ⟨[], Format.pending_wire [], rfl⟩

/-- Bytes behind which nothing is to come carry no message. -/
theorem eq_nil (carries : Carries state [] waiting) : waiting = [] := by
  obtain ⟨frames, pending, rfl⟩ := carries
  obtain ⟨-, rfl⟩ := pending.nil
  rfl

/-- More frames behind those on their way. -/
theorem append
    (carries : Carries state bytes waiting)
    (later : List (Frame frameFormat)) :
    Carries state (bytes ++ wire later) (waiting ++ frameMessages later) := by
  obtain ⟨frames, pending, rfl⟩ := carries
  exact ⟨frames ++ later, pending.append later, frameMessages_append ..⟩

/-- One more frame. -/
theorem append_frame
    (carries : Carries state bytes waiting)
    (frame : Frame frameFormat) :
    Carries state (bytes ++ frame.symbols)
      (waiting ++ frameMessages [frame]) := by
  have one : wire [frame] = frame.symbols := List.flatMap_singleton ..
  exact one ▸ carries.append [frame]

/-- The decoder hands on the first messages and leaves the others. -/
theorem feed (carries : Carries state (bytes ++ rest) waiting) :
    ∃ left, waiting =
        (frameFormat.feed state bytes).2.filterMap frameMessage ++ left ∧
      Carries (frameFormat.feed state bytes).1 rest left := by
  obtain ⟨frames, pending, rfl⟩ := carries
  obtain ⟨done, left, rfl, emitted, pendingLeft⟩ := pending.feed
  refine ⟨frameMessages left, ?_, left, pendingLeft, rfl⟩
  rw [emitted, List.filterMap_map, frameMessages_append]
  rfl

/-- What the decoder lacks is bounded if the payloads on their way are. -/
theorem request_le
    {bound : Nat}
    (carries : Carries state bytes waiting)
    (header : sizeofHeadMsg ≤ bound)
    (fits : ∀ szRecvData, .payload szRecvData ∈ waiting →
      szRecvData.length ≤ bound) :
    frameFormat.request state ≤ bound := by
  obtain ⟨frames, pending, rfl⟩ := carries
  cases state with
  | head seen => exact (Nat.sub_le _ _).trans header
  | body kind need seen =>
      obtain ⟨frame, later, rfl, -, rfl, opened, -⟩ := pending
      rcases frame.head_valid with ⟨isData, -⟩ | ⟨-, empty⟩
      · have message : frameMessage frame.output = some (.payload frame.body) := by
          have kind : frame.kind = .data := isData
          rw [Frame.output, kind]
          rfl
        refine (Nat.sub_le _ _).trans (fits frame.body ?_)
        rw [frameMessages, List.filterMap_cons, message]
        exact List.mem_cons_self
      · -- a heartbeat has no body
        have noBody : frame.body.length = 0 := frame.body_length.trans empty
        omega

end Carries

/-- A client at the start of a frame is where the decoder starts. -/
theorem TcpClient.AtFrameStart.follows
    {client : TcpClient}
    (start : client.AtFrameStart) :
    TcpClient.Follows (.head []) client := by
  refine ⟨start.framed, start.receives, start.running, start.noHead, ?_,
    sizeofHeadMsg_pos⟩
  rw [start.noCache]
  rfl

/-- A client that follows the decoder is in framed mode. -/
theorem TcpClient.framed_of_follows
    {state : State UInt8 HeadKind}
    {client : TcpClient}
    (follows : TcpClient.Follows state client) :
    client.bIsHaveHead = true := by
  cases state with
  | head seen => exact follows.1
  | body kind need seen => exact follows.1

/-- The bytes a framed client offers are a frame. -/
theorem ClientSend.bytes_eq
    {client : TcpClient}
    (framed : client.bIsHaveHead = true)
    (send : ClientSend) :
    send.bytes client = send.frame.symbols := by
  have single := TcpClient.stream_eq_wire framed [send]
  simpa [TcpClient.stream, wire] using single

/-- What a receive of the client does to the messages on their way to it. -/
theorem TcpClient.recvfromPass_carries
    {client : TcpClient}
    {turn : RecvfromTurn}
    {state : State UInt8 HeadKind}
    {rest : List UInt8}
    {waiting : List Message}
    (follows : TcpClient.Follows state client)
    (granted : turn.bytes.length ≤ client.recvRequest)
    (carries : Carries state (turn.bytes ++ rest) waiting) :
    ∃ next left, waiting = messages (client.recvfromPass turn).events ++ left ∧
      TcpClient.Follows next (client.recvfromPass turn).client ∧
        Carries next rest left := by
  by_cases ofStream : turn.OfStream
  · obtain ⟨frames, pending, messagesEq⟩ := carries
    obtain ⟨next, stepped, followsNext⟩ := client.recvStep_simulates state turn
      rest frames follows ⟨ofStream, granted⟩ pending
    obtain ⟨left, split, carriesLeft⟩ :=
      Carries.feed ⟨frames, pending, messagesEq⟩
    simp only [TcpClient.recvStep] at stepped
    split at stepped
    · contradiction
    · simp only [Option.some.injEq, Prod.mk.injEq] at stepped
      obtain ⟨rfl, handed⟩ := stepped
      exact ⟨_, left, handed ▸ split, followsNext, carriesLeft⟩
  · -- the end of the connection: the client stays as it is
    have quiet : turn.bytes = [] ∧ (client.recvfromPass turn).client = client ∧
        (client.recvfromPass turn).leaves = true := by
      unfold RecvfromTurn.OfStream at ofStream
      unfold RecvfromTurn.bytes TcpClient.recvfromPass
      cases recv : turn.recv with
      | data szRecvBuf nonempty => simp [recv] at ofStream
      | closed => exact ⟨rfl, rfl, rfl⟩
      | failed => exact ⟨rfl, rfl, rfl⟩
    obtain ⟨noBytes, clientEq, leaves⟩ := quiet
    rw [noBytes, List.nil_append] at carries
    rw [clientEq, TcpClient.messages_of_leaves leaves]
    exact ⟨state, waiting, rfl, follows, carries⟩

/-! ## What a session has to do -/

variable {kind : SessionKind}

/-- The session does to the bytes what the decoder does, and answers. -/
structure Decoded
    (follows : State UInt8 HeadKind → kind.Session → Prop)
    (state : State UInt8 HeadKind)
    (bytes : List UInt8)
    (reaction : Reaction kind.Session) : Prop where
  follows : follows (frameFormat.feed state bytes).1 reaction.session
  handed : messages reaction.events =
    (frameFormat.feed state bytes).2.filterMap frameMessage
  answered : ∃ echoes : List (Frame frameFormat),
    kind.output reaction.events = wire echoes ∧
      frameMessages echoes =
        (messages reaction.events).flatMap (answers .far)

/-- The session neither hands on nor sends anything, and it does not listen any
more. -/
structure Dropped
    (deaf : kind.Session → Prop)
    (reaction : Reaction kind.Session) : Prop where
  silent : messages reaction.events = []
  quiet : kind.output reaction.events = []
  lost : reaction.stays = true → deaf reaction.session

/-- A kind of session that understands what it receives or drops it for good,
and sends whole frames. -/
structure SessionKind.Decodes (kind : SessionKind) where
  follows : State UInt8 HeadKind → kind.Session → Prop
  deaf : kind.Session → Prop
  receive_follows : ∀ {state session turn rest waiting},
    follows state session → kind.grants session turn = true →
      kind.answersWhole turn = true → Carries state (kind.bytes turn ++ rest) waiting →
        Decoded follows state (kind.bytes turn) (kind.receive session turn) ∨
          Dropped deaf (kind.receive session turn)
  receive_deaf : ∀ {session} turn, deaf session →
    Dropped deaf (kind.receive session turn)
  send_output : ∀ {session payload outcomes},
    (deaf session ∨ ∃ state, follows state session) →
      kind.sendsWhole session payload outcomes = true →
        kind.output (kind.send session payload outcomes).events =
            (dataFrame payload).symbols ∧
          messages (kind.send session payload outcomes).events = []
  send_follows : ∀ {state session} payload outcomes, follows state session →
    follows state (kind.send session payload outcomes).session
  send_deaf : ∀ {session} payload outcomes, deaf session →
    deaf (kind.send session payload outcomes).session

/-- What a receive of a session does to the messages on their way to it: it takes
the first ones and answers them, or the session does not listen any more. -/
theorem SessionKind.Decodes.receive_listening
    (decodes : kind.Decodes)
    {session : kind.Session}
    {turn : kind.Turn}
    {bytes rest : List UInt8}
    {waiting : List Message}
    (listens : decodes.deaf session ∨
      ∃ state, decodes.follows state session ∧ Carries state bytes waiting)
    (granted : kind.grants session turn = true)
    (whole : kind.answersWhole turn = true)
    (arrived : kind.bytes turn ++ rest = bytes) :
    (∃ left state, waiting =
        messages (kind.receive session turn).events ++ left ∧
      decodes.follows state (kind.receive session turn).session ∧
      Carries state rest left ∧ ∃ echoes : List (Frame frameFormat),
        kind.output (kind.receive session turn).events = wire echoes ∧
        frameMessages echoes =
          (messages (kind.receive session turn).events).flatMap (answers .far)) ∨
      Dropped decodes.deaf (kind.receive session turn) := by
  rcases listens with deaf | ⟨state, follows, carries⟩
  · exact Or.inr (decodes.receive_deaf turn deaf)
  · rw [← arrived] at carries
    rcases decodes.receive_follows follows granted whole carries with
      understood | dropped
    · obtain ⟨left, split, carriesLeft⟩ := carries.feed
      rw [← understood.handed] at split
      exact Or.inl ⟨left, _, split, understood.follows, carriesLeft,
        understood.answered⟩
    · exact Or.inr dropped

namespace FramedConnection

variable (decodes : kind.Decodes)

/-- The exchange of messages a connection stands for. -/
structure Represents
    (connection : FramedConnection kind)
    (exchange : Exchange.State Message) : Prop where
  client : ∃ state, TcpClient.Follows state connection.client ∧
    Carries state connection.toClient (exchange.inbox .near).waiting
  server : connection.serves = true → decodes.deaf connection.session ∨
    ∃ state, decodes.follows state connection.session ∧
      Carries state connection.toServer (exchange.inbox .far).waiting
  clientTook : (exchange.inbox .near).taken = messages connection.clientEvents
  serverTook : (exchange.inbox .far).taken = messages connection.serverEvents
  clientAsked : exchange.asked .near =
    connection.clientSends.map ClientSend.message
  serverAsked : exchange.asked .far =
    connection.serverSends.map fun payload => .payload payload.bytes

variable {decodes}

/-- A connection without traffic stands for empty mailboxes. -/
theorem represents_start
    {client : TcpClient}
    {session : kind.Session}
    (clientStart : client.AtFrameStart)
    (serverStart : decodes.follows (.head []) session) :
    Represents decodes (start client session) .empty where
  client := ⟨.head [], clientStart.follows, .start⟩
  server := fun _ => Or.inr ⟨.head [], serverStart, .start⟩
  clientTook := rfl
  serverTook := rfl
  clientAsked := rfl
  serverAsked := rfl

/-! ## One step -/

variable {connection next : FramedConnection kind}
  {exchange : Exchange.State Message}

/-- The client sends a frame: the near party posts its message. -/
theorem matched_clientSend
    {send : ClientSend}
    {nSent : Nat}
    (represents : Represents decodes connection exchange)
    (whole : connection.SendsWhole (.clientSend send nSent))
    (stepped : connection.step (.clientSend send nSent) = some next) :
    ∃ moves upper, run (Exchange.step answers) exchange moves = some upper ∧
      Represents decodes next upper := by
  rw [step, Option.some.injEq] at stepped
  subst stepped
  obtain ⟨state, follows, carries⟩ := represents.client
  have bytes : (send.bytes connection.client).take nSent =
      send.frame.symbols := by
    rw [List.take_of_length_le whole,
      send.bytes_eq (TcpClient.framed_of_follows follows)]
  refine ⟨[.ask .near send.message], _, rfl, ?_⟩
  refine ⟨⟨state, follows, carries⟩, ?_, represents.clientTook,
    represents.serverTook, ?_, represents.serverAsked⟩
  · intro serves
    rcases represents.server serves with deaf | ⟨state, follows, carries⟩
    · exact Or.inl deaf
    · refine Or.inr ⟨state, follows, ?_⟩
      have more := carries.append_frame send.frame
      rw [frameMessages_clientSend] at more
      rw [bytes]
      exact more
  · simp only [Function.update_self, represents.clientAsked, List.map_append]
    rfl

/-- The client receives: the near party takes what it hands on. -/
theorem matched_clientRecv
    {turn : RecvfromTurn}
    (represents : Represents decodes connection exchange)
    (stepped : connection.step (.clientRecv turn) = some next) :
    ∃ moves upper, run (Exchange.step answers) exchange moves = some upper ∧
      Represents decodes next upper := by
  rw [step] at stepped
  split at stepped
  · rename_i ready
    obtain ⟨-, -, arrived, granted⟩ := ready
    obtain ⟨rest, bytes⟩ := arrived
    rw [Option.some.injEq] at stepped
    subst stepped
    obtain ⟨state, follows, carries⟩ := represents.client
    rw [← bytes] at carries
    obtain ⟨state, left, split, followsNext, carriesLeft⟩ :=
      TcpClient.recvfromPass_carries follows granted carries
    obtain ⟨upper, moved, own, others, asked⟩ := run_takes answers split
    rw [flatMap_answers_near] at others
    refine ⟨_, upper, moved, ?_⟩
    refine ⟨⟨state, followsNext, ?_⟩, ?_, ?_, ?_, ?_, ?_⟩
    · rw [own, ← bytes, List.drop_left]
      exact carriesLeft
    · intro serves
      have far : upper.inbox .far = exchange.inbox .far := by
        apply others.trans
        simp [Mailbox.post, Party.other]
      rw [far]
      exact represents.server serves
    · rw [own, represents.clientTook, messages_append]
    · have far : upper.inbox .far = exchange.inbox .far := by
        apply others.trans
        simp [Mailbox.post, Party.other]
      rw [far]
      exact represents.serverTook
    · rw [asked]
      exact represents.clientAsked
    · rw [asked]
      exact represents.serverAsked
  · contradiction

/-- The session sends a frame: the far party posts its message. -/
theorem matched_serverSend
    {payload : Payload}
    {outcomes : kind.Outcomes}
    (represents : Represents decodes connection exchange)
    (whole : connection.SendsWhole (.serverSend payload outcomes))
    (stepped : connection.step (.serverSend payload outcomes) = some next) :
    ∃ moves upper, run (Exchange.step answers) exchange moves = some upper ∧
      Represents decodes next upper := by
  rw [step] at stepped
  split at stepped
  · rename_i serves
    rw [Option.some.injEq] at stepped
    subst stepped
    have listens := represents.server serves
    have sent := decodes.send_output
      (listens.imp_right fun ⟨state, follows, _⟩ => ⟨state, follows⟩) whole
    obtain ⟨state, follows, carries⟩ := represents.client
    refine ⟨[.ask .far (.payload payload.bytes)], _, rfl, ?_⟩
    refine ⟨⟨state, follows, ?_⟩, ?_, represents.clientTook, ?_,
      represents.clientAsked, ?_⟩
    · have more := carries.append_frame (dataFrame payload)
      rw [frameMessages_dataFrame] at more
      rw [sent.1]
      exact more
    · intro _
      rcases listens with deaf | ⟨state, follows, carries⟩
      · exact Or.inl (decodes.send_deaf payload outcomes deaf)
      · exact Or.inr ⟨state, decodes.send_follows payload outcomes follows,
          carries⟩
    · rw [messages_append, sent.2, List.append_nil]
      exact represents.serverTook
    · simp only [Function.update_self, represents.serverAsked, List.map_append]
      rfl
  · contradiction

/-- The session receives: the far party takes what it hands on and posts its
answers, or nothing happens. -/
theorem matched_serverRecv
    {turn : kind.Turn}
    (represents : Represents decodes connection exchange)
    (whole : connection.SendsWhole (.serverRecv turn))
    (stepped : connection.step (.serverRecv turn) = some next) :
    ∃ moves upper, run (Exchange.step answers) exchange moves = some upper ∧
      Represents decodes next upper := by
  rw [step] at stepped
  split at stepped
  · rename_i ready
    obtain ⟨serves, granted, rest, bytes⟩ := ready
    rw [Option.some.injEq] at stepped
    subst stepped
    obtain ⟨state, follows, carries⟩ := represents.client
    have reaction := decodes.receive_listening (represents.server serves) granted
      whole bytes
    rcases reaction with
      ⟨left, stateNext, split, followsNext, carriesLeft, echoes, output,
        echoed⟩ | dropped
    · obtain ⟨upper, moved, own, others, asked⟩ := run_takes answers split
      have near : upper.inbox .near =
          (exchange.inbox .near).post (frameMessages echoes) :=
        others.trans (by rw [echoed]; rfl)
      refine ⟨_, upper, moved, ?_⟩
      refine ⟨⟨state, follows, ?_⟩, ?_, ?_, ?_, ?_, ?_⟩
      · rw [near, output]
        exact carries.append echoes
      · intro _
        refine Or.inr ⟨stateNext, followsNext, ?_⟩
        rw [own, ← bytes, List.drop_left]
        exact carriesLeft
      · rw [near]
        exact represents.clientTook
      · rw [own, represents.serverTook, messages_append]
      · rw [asked]
        exact represents.clientAsked
      · rw [asked]
        exact represents.serverAsked
    · refine ⟨[], exchange, rfl, ?_⟩
      refine ⟨⟨state, follows, ?_⟩, ?_, represents.clientTook, ?_,
        represents.clientAsked, represents.serverAsked⟩
      · rw [dropped.quiet, List.append_nil]
        exact carries
      · exact fun stays => Or.inl (dropped.lost stays)
      · rw [messages_append, dropped.silent, List.append_nil]
        exact represents.serverTook
  · contradiction

/-- A connection whose frames are sent as wholes is simulated by an exchange of
messages. -/
theorem simulates (decodes : kind.Decodes) :
    Simulates step SendsWhole (Exchange.step answers) (Represents decodes) where
  matched := by
    intro connection label next exchange represents whole stepped
    cases label with
    | clientSend send nSent => exact matched_clientSend represents whole stepped
    | clientRecv turn => exact matched_clientRecv represents stepped
    | serverSend payload outcomes =>
        exact matched_serverSend represents whole stepped
    | serverRecv turn => exact matched_serverRecv represents whole stepped

/-! ## Whole runs -/

/-- What a connection owes to both applications. The session has handed on the
first messages of the client, in order; the client has handed on the first
messages of a merge of the payloads the session was asked to send with one
heartbeat for each it has handled. Nothing is missing once nothing is on its
way to an end that listens. -/
structure Delivers
    (deaf : kind.Session → Prop)
    (connection : FramedConnection kind) : Prop where
  server : messages connection.serverEvents <+:
    connection.clientSends.map ClientSend.message
  serverAll : connection.serves = true → ¬deaf connection.session →
    connection.toServer = [] → messages connection.serverEvents =
      connection.clientSends.map ClientSend.message
  client : ∃ both, Merges
      (connection.serverSends.map fun payload => .payload payload.bytes)
      (List.replicate (heartbeatCount connection.serverEvents) .heartbeat)
      both ∧
    messages connection.clientEvents <+: both ∧
      (connection.toClient = [] → messages connection.clientEvents = both)

/-- What is owed to sessions that may be deaf is owed if fewer are. -/
theorem Delivers.weaken
    {deaf other : kind.Session → Prop}
    {connection : FramedConnection kind}
    (delivers : Delivers deaf connection)
    (fewer : deaf connection.session → other connection.session) :
    Delivers other connection where
  server := delivers.server
  serverAll := fun serves listens nothing =>
    delivers.serverAll serves (fun isDeaf => listens (fewer isDeaf)) nothing
  client := delivers.client

/-- The session answers each heartbeat once. -/
theorem flatMap_answers_far (events : List EngineEvent) :
    (messages events).flatMap (answers .far) =
      List.replicate (heartbeatCount events) .heartbeat := by
  rw [heartbeatCount_eq_messages]
  induction messages events with
  | nil => rfl
  | cons message messages inductionHypothesis =>
      cases message with
      | payload szRecvData =>
          simp [answers, inductionHypothesis]
      | heartbeat =>
          simp [answers, inductionHypothesis, List.replicate_succ]

/-- A connection that stands for a fair exchange delivers. -/
theorem delivers_of_represents
    (represents : Represents decodes connection exchange)
    (fair : Fair answers exchange) :
    Delivers decodes.deaf connection := by
  have toServer : (exchange.inbox .far).posted =
      connection.clientSends.map ClientSend.message := by
    have merges := fair .near
    rw [flatMap_answers_near] at merges
    exact merges.eq_first.trans represents.clientAsked
  have toClient := fair .far
  rw [represents.serverAsked, represents.serverTook, flatMap_answers_far]
    at toClient
  refine ⟨?_, ?_, (exchange.inbox .near).posted, toClient, ?_, ?_⟩
  · rw [← represents.serverTook, ← toServer]
    exact Mailbox.taken_prefix_posted _
  · intro serves listens nothing
    rcases represents.server serves with deaf | ⟨state, -, carries⟩
    · contradiction
    · rw [nothing] at carries
      rw [← represents.serverTook, ← toServer, Mailbox.posted, carries.eq_nil,
        List.append_nil]
  · rw [← represents.clientTook]
    exact Mailbox.taken_prefix_posted _
  · intro nothing
    obtain ⟨state, -, carries⟩ := represents.client
    rw [nothing] at carries
    rw [← represents.clientTook, Mailbox.posted, carries.eq_nil,
      List.append_nil]

/-! ## What the ends ask for -/

/-- A client to which only payloads that fit are sent asks for no more than its
buffer holds. -/
theorem recvRequest_le
    (represents : Represents decodes connection exchange)
    (fair : Fair answers exchange)
    (fits : connection.ServerPayloadsFit) :
    connection.client.recvRequest ≤ maxBufferLen := by
  obtain ⟨state, follows, carries⟩ := represents.client
  rw [TcpClient.recvRequest_eq follows]
  apply carries.request_le (by decide)
  intro szRecvData member
  rcases @Fair.waiting _ _ _ .far _ fair member with asked | answered
  · rw [represents.serverAsked] at asked
    obtain ⟨payload, sent, isPayload⟩ := List.mem_map.mp asked
    injection isPayload with same
    exact same ▸ fits payload sent
  · obtain ⟨message, -, answer⟩ := List.mem_flatMap.mp answered
    cases message with
    | payload => contradiction
    | heartbeat => simp [answers] at answer

/-- A session to which only payloads that fit are sent lacks no more than its
buffer holds. -/
theorem request_le
    (represents : Represents decodes connection exchange)
    (fair : Fair answers exchange)
    (fits : connection.ClientPayloadsFit)
    (serves : connection.serves = true) :
    decodes.deaf connection.session ∨
      ∃ state, decodes.follows state connection.session ∧
        frameFormat.request state ≤ maxBufferLen := by
  refine (represents.server serves).imp_right ?_
  rintro ⟨state, follows, carries⟩
  refine ⟨state, follows, carries.request_le (by decide) ?_⟩
  intro szRecvData member
  have posted := @Fair.waiting _ _ _ .near _ fair member
  rw [flatMap_answers_near, represents.clientAsked] at posted
  obtain ⟨send, sent, isMessage⟩ :=
    List.mem_map.mp (posted.resolve_right List.not_mem_nil)
  cases send with
  | data payload =>
      injection isMessage with same
      exact same ▸ fits payload sent
  | heartbeat => contradiction

/-- Every run of a connection whose frames are sent as wholes is matched by a
run of the exchange. -/
theorem run_represents
    (decodes : kind.Decodes)
    {client : TcpClient}
    {session : kind.Session}
    {labels : List (ConnectionLabel kind)}
    {last : FramedConnection kind}
    (clientStart : client.AtFrameStart)
    (serverStart : decodes.follows (.head []) session)
    (throughout : Throughout step SendsWhole (start client session) labels)
    (reached : run step (start client session) labels = some last) :
    ∃ exchange, Fair answers exchange ∧ Represents decodes last exchange :=
  (simulates decodes).invariant_of_run (Fair answers)
    (fun _ move _ fair moved => fair_step move fair moved)
    (represents_start clientStart serverStart) (fair_empty answers) throughout
    reached

end FramedConnection

end TransPortEngine
