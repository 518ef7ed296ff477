import Mathlib.Data.List.Flatten
import TransPortEngine.Connection.Linux
import TransPortEngine.TcpClient.Control

/-!
# A client that reconnects

A client in heartbeat mode drops its connection after a timeout and makes a new
one, for which the server has a new session. Its application goes on sending
meanwhile, on the descriptor the client has at that time. What the sessions hand
on of this, one connection after the other, was sent in this order, and nothing
is handed on twice.
-/

namespace TransPortEngine

open Framing Transition

/-! ## Calls on sockets -/

/-- A call of `send` with the bytes it took, or of `close`. -/
inductive SocketCall
  | send (nSocket : Int) (accepted : List UInt8)
  | close (nSocket : Int)
  deriving DecidableEq, Repr

/-- The call an event stands for. -/
def EngineEvent.socketCall : EngineEvent → Option SocketCall
  | .write nSocket accepted => some (.send nSocket accepted)
  | .close nSocket => some (.close nSocket)
  | _ => none

/-- The calls on sockets, in order. -/
def socketCalls (events : List EngineEvent) : List SocketCall :=
  events.filterMap EngineEvent.socketCall

/-! ## The connections of a client -/

/-- A connection as seen by the server: its session, the bytes on their way to it,
what it has done, and what the client has put on the connection. -/
structure Uplink (kind : SessionKind) where
  session : kind.Session
  serves : Bool
  toServer : List UInt8
  serverEvents : List EngineEvent
  clientSends : List ClientSend

/-- The client puts something on a connection. -/
def Uplink.append
    {kind : SessionKind}
    (uplink : Uplink kind)
    (accepted : List UInt8)
    (send : ClientSend) : Uplink kind :=
  { uplink with
    toServer := uplink.toServer ++ accepted
    clientSends := uplink.clientSends ++ [send] }

/-- What the client receives in a step fits `szRecvBuf`. -/
def LinkLabel.fitsRecvBuf : LinkLabel → Bool
  | .recv turn => decide (turn.bytes.length ≤ maxBufferLen)
  | _ => true

/-- A client, the connections it has made, the connection behind each descriptor
and what the application was asked to send. -/
structure Uplinks (kind : SessionKind) where
  link : Link
  connected : Nat
  uplink : Nat → Uplink kind
  route : Int → Option Nat
  asked : List Payload

/-- A step of a thread of the client, of its application, or of a session. -/
inductive UplinkLabel (kind : SessionKind)
  | client (label : LinkLabel)
  | sendData (payload : Payload) (nSent : Nat)
  | serverSend (index : Nat) (payload : Payload) (outcomes : kind.Outcomes)
  | serverRecv (index : Nat) (turn : kind.Turn)

namespace Uplinks

variable {kind : SessionKind}

/-- A client that has not connected yet, and the sessions its connections will
have. -/
def start
    (garbage : ClientGarbage)
    (nHeartBeatInterval : Int)
    (sessions : Nat → kind.Session) : Uplinks kind where
  link := Link.initial garbage nHeartBeatInterval
  connected := 0
  uplink := fun index => ⟨sessions index, true, [], [], []⟩
  route := fun _ => none
  asked := []

/-- Replace a connection. -/
def store (uplinks : Uplinks kind) (index : Nat) (uplink : Uplink kind) :
    Uplinks kind :=
  { uplinks with uplink := Function.update uplinks.uplink index uplink }

@[simp] theorem uplink_store_self
    (uplinks : Uplinks kind)
    (index : Nat)
    (uplink : Uplink kind) :
    (uplinks.store index uplink).uplink index = uplink :=
  Function.update_self ..

theorem uplink_store_of_ne
    {index other : Nat}
    (different : other ≠ index)
    (uplinks : Uplinks kind)
    (uplink : Uplink kind) :
    (uplinks.store index uplink).uplink other = uplinks.uplink other :=
  Function.update_of_ne different ..

/-- Bytes that `send` takes are on their way, if the descriptor is connected. -/
def put
    (uplinks : Uplinks kind)
    (nSocket : Int)
    (accepted : List UInt8)
    (send : ClientSend) : Uplinks kind :=
  match uplinks.route nSocket with
  | none => uplinks
  | some index =>
      uplinks.store index ((uplinks.uplink index).append accepted send)

/-- Nothing that is sent on a descriptor arrives any more. -/
def disconnect (uplinks : Uplinks kind) (nSocket : Int) : Uplinks kind :=
  { uplinks with route := Function.update uplinks.route nSocket none }

/-- A descriptor with a connection is another one, and had it before. -/
theorem route_of_disconnect
    {uplinks : Uplinks kind}
    {nSocket other : Int}
    {index : Nat}
    (routed : (uplinks.disconnect nSocket).route other = some index) :
    other ≠ nSocket ∧ uplinks.route other = some index := by
  change Function.update uplinks.route nSocket none other = some index at routed
  by_cases same : other = nSocket
  · rw [same, Function.update_self] at routed
    contradiction
  · rw [Function.update_of_ne same] at routed
    exact ⟨same, routed⟩

/-- A call of a thread of the client. These threads send heartbeats only. -/
def perform (uplinks : Uplinks kind) : SocketCall → Uplinks kind
  | .send nSocket accepted => uplinks.put nSocket accepted .heartbeat
  | .close nSocket => uplinks.disconnect nSocket

/-- A new socket is not connected, and `connect` gives it a connection of its
own. -/
def connect (uplinks : Uplinks kind) : LinkLabel → Uplinks kind
  | .keepAlive (.socket nSocket) => uplinks.disconnect nSocket
  | .keepAlive (.connect nRet) =>
      if nRet = 0 then
        { uplinks with
          connected := uplinks.connected + 1
          route := Function.update uplinks.route uplinks.link.client.nSocket
            (some uplinks.connected) }
      else uplinks
  | _ => uplinks

/-- One step. The bytes on a connection can still be read when the client has
closed its end. A `recv` that overruns `szRecvBuf` is no step: what the client is
like behind it is not said. -/
def step (uplinks : Uplinks kind) : UplinkLabel kind → Option (Uplinks kind)
  | .client label =>
      if label.fitsRecvBuf then
        (linkStep uplinks.link label).map fun link =>
          (socketCalls (link.events.drop uplinks.link.events.length)).foldl perform
            { uplinks.connect label with link := link }
      else none
  | .sendData payload nSent =>
      let client := uplinks.link.client
      let bytes := (ClientSend.data payload).bytes client
      some (put { uplinks with asked := uplinks.asked ++ [payload] }
        client.nSocket (bytes.take nSent) (.data payload))
  | .serverSend index payload outcomes =>
      let uplink := uplinks.uplink index
      if index < uplinks.connected ∧ uplink.serves then
        let reaction := kind.send uplink.session payload outcomes
        some (uplinks.store index
          { uplink with
            session := reaction.session
            serverEvents := uplink.serverEvents ++ reaction.events })
      else none
  | .serverRecv index turn =>
      let uplink := uplinks.uplink index
      if index < uplinks.connected ∧ uplink.serves ∧
          kind.grants uplink.session turn ∧
            kind.bytes turn <+: uplink.toServer then
        let reaction := kind.receive uplink.session turn
        some (uplinks.store index
          { uplink with
            session := reaction.session
            serves := reaction.stays
            toServer := uplink.toServer.drop (kind.bytes turn).length
            serverEvents := uplink.serverEvents ++ reaction.events })
      else none

/-- No send is cut short. -/
def SendsWhole (uplinks : Uplinks kind) : UplinkLabel kind → Prop
  | .client (.keepAlive (.beat _ nSent)) => sizeofHeadMsg ≤ nSent
  | .client _ => True
  | .sendData payload nSent =>
      ((ClientSend.data payload).bytes uplinks.link.client).length ≤ nSent
  | .serverSend index payload outcomes =>
      kind.sendsWhole (uplinks.uplink index).session payload outcomes = true
  | .serverRecv _ turn => kind.answersWhole turn = true

instance (uplinks : Uplinks kind) (label : UplinkLabel kind) :
    Decidable (uplinks.SendsWhole label) := by
  unfold SendsWhole
  split <;> infer_instance

/-- What the sessions have handed on, one connection after the other. -/
def handedOn (uplinks : Uplinks kind) : List (List UInt8) :=
  (List.range uplinks.connected).flatMap fun index =>
    deliveries (uplinks.uplink index).serverEvents

end Uplinks

/-! ## Receiving makes no call on a socket -/

namespace TcpClient

/-- A pass of the receive loop neither sends nor closes. -/
theorem socketCalls_recvfromPass (client : TcpClient) (turn : RecvfromTurn) :
    socketCalls (client.recvfromPass turn).events = [] := by
  have ofRecv := List.all_eq_true.mp (client.ofRecv_recvfromPass turn)
  apply List.filterMap_eq_nil_iff.mpr
  intro event member
  have isOfRecv := ofRecv event member
  cases event with
  | write | close => contradiction
  | _ => rfl

theorem socketCalls_notify (client : TcpClient) (nMsgType : MsgType) :
    socketCalls (client.notify nMsgType) = [] := by
  unfold notify
  split <;> rfl

end TcpClient

/-! ## What a step of the client does to its sockets -/

/-- The socket of the client before and behind a step, and the calls on sockets
the step makes. -/
inductive SocketUse (link next : Link) : LinkLabel → List SocketCall → Prop
  | socket
      (nSocket : Int)
      (made : next.client.nSocket = nSocket) :
      SocketUse link next (.keepAlive (.socket nSocket)) []
  | quiet
      (label : LinkLabel)
      (same : next.client.nSocket = link.client.nSocket) :
      SocketUse link next label []
  | beat
      (now : Int)
      (nSent : Nat)
      (same : next.client.nSocket = link.client.nSocket) :
      SocketUse link next (.keepAlive (.beat now nSent))
        [.send link.client.nSocket (TcpClient.sendHeartbeat.take nSent)]
  | close
      (label : LinkLabel)
      (same : next.client.nSocket = link.client.nSocket) :
      SocketUse link next label [.close link.client.nSocket]

/-- A step of the client with the events it adds. -/
structure SocketStep (link next : Link) (label : LinkLabel) : Prop where
  framed : next.client.bIsHaveHead = link.client.bIsHaveHead
  use : ∃ written, next.events = link.events ++ written ∧
    SocketUse link next label (socketCalls written)

namespace Link

variable {link next : Link}

/-- A step without events. -/
theorem socketStep_quiet
    {label : LinkLabel}
    (framed : next.client.bIsHaveHead = link.client.bIsHaveHead)
    (same : next.client.nSocket = link.client.nSocket)
    (events : next.events = link.events) :
    SocketStep link next label :=
  ⟨framed, [], by rw [events, List.append_nil], .quiet label same⟩

theorem socketStep_keepAlive
    {input : KeepAliveInput}
    (stepped : link.keepAliveStep input = some next) :
    SocketStep link next (.keepAlive input) := by
  cases keepAliveStep_cases stepped with
  | wakes | returns | refused | joins => exact socketStep_quiet rfl rfl rfl
  | noSocket | socket =>
      exact ⟨rfl, [], (List.append_nil _).symm, .socket _ rfl⟩
  | creates =>
      unfold createRecvThread
      dsimp only
      split
      · exact socketStep_quiet rfl rfl rfl
      · exact socketStep_quiet rfl rfl rfl
  | connected =>
      refine ⟨rfl, _, rfl, ?_⟩
      rw [TcpClient.socketCalls_notify]
      exact .quiet _ rfl
  | timesOut =>
      refine ⟨rfl, _, rfl, ?_⟩
      rw [TcpClient.socketCalls_notify]
      exact .quiet _ rfl
  | greets | beats => exact ⟨rfl, _, rfl, .beat _ _ rfl⟩
  | drops => exact ⟨rfl, _, rfl, .close _ rfl⟩

theorem socketStep_closeSocket (link : Link) :
    SocketStep link link.closeSocket .socketUnit := by
  refine ⟨rfl, _, rfl, ?_⟩
  split
  · exact .quiet _ rfl
  · exact .close _ rfl

theorem socketStep_linkStep
    {label : LinkLabel}
    (stepped : linkStep link label = some next) :
    SocketStep link next label := by
  cases label with
  | keepAlive input => exact socketStep_keepAlive stepped
  | look =>
      obtain ⟨-, rfl⟩ := lookStep_cases stepped
      exact socketStep_quiet rfl rfl rfl
  | recv turn =>
      obtain ⟨-, -, rfl⟩ := recvStep_eq_some stepped
      have members := link.client.linkMembers_recvfromPass turn
      simp only [TcpClient.linkMembers, Prod.mk.injEq] at members
      obtain ⟨nSocket, -, -, -, -, -, framed, -⟩ := members
      refine ⟨framed, _, rfl, ?_⟩
      rw [TcpClient.socketCalls_recvfromPass]
      exact .quiet _ nSocket
  | socketUnit =>
      cases socketUnitStep_cases stepped with
      | stopsHeartbeat | noHeartbeat | joinsHeartbeat | stopsReceiver =>
          exact socketStep_quiet rfl rfl rfl
      | noReceiver | joinsReceiver => exact socketStep_closeSocket link

end Link

/-! ## One connection -/

variable {kind : SessionKind}

/-- What the client has put on a connection is what the session has handed on and
what is still on its way. -/
def Uplink.Sound (decodes : kind.Decodes) (uplink : Uplink kind) : Prop :=
  ∃ waiting, messages uplink.serverEvents ++ waiting =
      uplink.clientSends.map ClientSend.message ∧
    (uplink.serves = true → decodes.deaf uplink.session ∨
      ∃ state, decodes.follows state uplink.session ∧
        Carries state uplink.toServer waiting)

namespace Uplink

variable {decodes : kind.Decodes} {uplink : Uplink kind}

/-- A new connection. -/
theorem sound_start
    {session : kind.Session}
    (start : decodes.follows (.head []) session) :
    Sound decodes ⟨session, true, [], [], []⟩ :=
  ⟨[], rfl, fun _ => Or.inr ⟨.head [], start, .start⟩⟩

/-- The client puts a frame on the connection. -/
theorem Sound.put
    (sound : uplink.Sound decodes)
    (send : ClientSend) :
    (uplink.append send.frame.symbols send).Sound decodes := by
  obtain ⟨waiting, whole, listens⟩ := sound
  refine ⟨waiting ++ [send.message], ?_, ?_⟩
  · rw [Uplink.append, ← List.append_assoc, whole, List.map_append]
    rfl
  · intro serves
    apply (listens serves).imp_right
    rintro ⟨state, follows, carries⟩
    have more := carries.append_frame send.frame
    rw [frameMessages_clientSend] at more
    exact ⟨state, follows, more⟩

/-- The application of the server sends through the session. -/
theorem Sound.send
    {payload : Payload}
    {outcomes : kind.Outcomes}
    (sound : uplink.Sound decodes)
    (serves : uplink.serves = true)
    (whole : kind.sendsWhole uplink.session payload outcomes = true) :
    Sound decodes
      { uplink with
        session := (kind.send uplink.session payload outcomes).session
        serverEvents := uplink.serverEvents ++
          (kind.send uplink.session payload outcomes).events } := by
  obtain ⟨waiting, complete, listens⟩ := sound
  have silent := (decodes.send_output ((listens serves).imp_right
    fun ⟨state, follows, _⟩ => ⟨state, follows⟩) whole).2
  refine ⟨waiting, ?_, fun _ => ?_⟩
  · rw [messages_append, silent, List.append_nil]
    exact complete
  · rcases listens serves with deaf | ⟨state, follows, carries⟩
    · exact Or.inl (decodes.send_deaf payload outcomes deaf)
    · exact Or.inr ⟨state, decodes.send_follows payload outcomes follows, carries⟩

/-- The session receives. -/
theorem Sound.receive
    {turn : kind.Turn}
    (sound : uplink.Sound decodes)
    (serves : uplink.serves = true)
    (granted : kind.grants uplink.session turn = true)
    (whole : kind.answersWhole turn = true)
    (arrived : kind.bytes turn <+: uplink.toServer) :
    Sound decodes
      { uplink with
        session := (kind.receive uplink.session turn).session
        serves := (kind.receive uplink.session turn).stays
        toServer := uplink.toServer.drop (kind.bytes turn).length
        serverEvents := uplink.serverEvents ++
          (kind.receive uplink.session turn).events } := by
  obtain ⟨waiting, complete, listens⟩ := sound
  obtain ⟨rest, bytes⟩ := arrived
  rcases decodes.receive_listening (listens serves) granted whole bytes with
    ⟨left, state, split, follows, carries, -⟩ | dropped
  · refine ⟨left, ?_, fun _ => Or.inr ⟨state, follows, ?_⟩⟩
    · rw [messages_append, List.append_assoc, ← split]
      exact complete
    · rw [← bytes, List.drop_left]
      exact carries
  · refine ⟨waiting, ?_, fun stays => Or.inl (dropped.lost stays)⟩
    rw [messages_append, dropped.silent, List.append_nil]
    exact complete

/-- What the session has handed on is the first part of what was put on the
connection. -/
theorem Sound.handed (sound : uplink.Sound decodes) :
    messages uplink.serverEvents <+:
      uplink.clientSends.map ClientSend.message := by
  obtain ⟨waiting, whole, -⟩ := sound
  exact ⟨waiting, whole⟩

/-- Nothing is missing once nothing is on its way. -/
theorem Sound.all
    (sound : uplink.Sound decodes)
    (serves : uplink.serves = true)
    (hears : ¬decodes.deaf uplink.session)
    (nothing : uplink.toServer = []) :
    messages uplink.serverEvents =
      uplink.clientSends.map ClientSend.message := by
  obtain ⟨waiting, whole, listens⟩ := sound
  obtain ⟨state, -, carries⟩ := (listens serves).resolve_left hears
  rw [nothing] at carries
  rw [← whole, carries.eq_nil, List.append_nil]

/-- The payloads among what was put on a connection. -/
theorem payloads_messages (sends : List ClientSend) :
    (sends.map ClientSend.message).filterMap Message.payload? =
      sentPayloads sends := by
  rw [List.filterMap_map]
  apply List.filterMap_congr
  intro send _
  cases send with
  | data | heartbeat => rfl

/-- The session has delivered the first of the payloads on the connection. -/
theorem Sound.delivered (sound : uplink.Sound decodes) :
    (deliveries uplink.serverEvents).Sublist (sentPayloads uplink.clientSends) := by
  rw [deliveries_eq_messages, ← payloads_messages]
  exact sound.handed.sublist.filterMap _

end Uplink

/-! ## All connections -/

namespace Uplinks

/-- The payloads put on the connections, one connection after the other. -/
def posted (uplinks : Uplinks kind) : List (List UInt8) :=
  (List.range uplinks.connected).flatMap fun index =>
    sentPayloads (uplinks.uplink index).clientSends

/-- Every connection is sound. The descriptor of the client leads to the last
connection or to none, so that what is put on the connections comes in the order
in which it was sent. -/
structure Ordered (decodes : kind.Decodes) (uplinks : Uplinks kind) : Prop where
  framed : uplinks.link.client.bIsHaveHead = true
  route : ∀ index, uplinks.route uplinks.link.client.nSocket = some index →
    index + 1 = uplinks.connected
  sound : ∀ index, (uplinks.uplink index).Sound decodes
  unused : ∀ index, uplinks.connected ≤ index →
    (uplinks.uplink index).clientSends = []
  order : uplinks.posted.Sublist (uplinks.asked.map Payload.bytes)

variable {decodes : kind.Decodes} {uplinks next : Uplinks kind}

theorem ordered_start
    {sessions : Nat → kind.Session}
    (starts : ∀ index, decodes.follows (.head []) (sessions index))
    (garbage : ClientGarbage)
    (nHeartBeatInterval : Int) :
    Ordered decodes (start garbage nHeartBeatInterval sessions) where
  framed := rfl
  route _ impossible := by contradiction
  sound index := Uplink.sound_start (starts index)
  unused _ _ := rfl
  order := List.Sublist.slnil

/-- A connection of which the client does not hear. -/
theorem Ordered.store
    {index : Nat}
    {uplink : Uplink kind}
    (ordered : Ordered decodes uplinks)
    (sound : uplink.Sound decodes)
    (sends : uplink.clientSends = (uplinks.uplink index).clientSends) :
    Ordered decodes (uplinks.store index uplink) := by
  have same : ∀ other, ((uplinks.store index uplink).uplink other).clientSends =
      (uplinks.uplink other).clientSends := by
    intro other
    by_cases isIndex : other = index
    · rw [isIndex, uplink_store_self, sends]
    · rw [uplink_store_of_ne isIndex]
  have posted : (uplinks.store index uplink).posted = uplinks.posted := by
    apply List.flatMap_congr
    intro other _
    rw [same]
  refine ⟨ordered.framed, ordered.route, ?_, ?_, ?_⟩
  · intro other
    by_cases isIndex : other = index
    · rw [isIndex, uplink_store_self]
      exact sound
    · rw [uplink_store_of_ne isIndex]
      exact ordered.sound other
  · intro other unused
    rw [same]
    exact ordered.unused other unused
  · rw [posted]
    exact ordered.order

/-- What is posted, with the last connection apart. -/
theorem posted_eq_append
    (uplinks : Uplinks kind)
    {index : Nat}
    (last : index + 1 = uplinks.connected) :
    uplinks.posted =
      ((List.range index).flatMap fun other =>
        sentPayloads (uplinks.uplink other).clientSends) ++
          sentPayloads (uplinks.uplink index).clientSends := by
  rw [posted, ← last, List.range_succ, List.flatMap_append,
    List.flatMap_singleton]

/-- One more message on the last connection. -/
theorem posted_append
    {index : Nat}
    (last : index + 1 = uplinks.connected)
    (accepted : List UInt8)
    (send : ClientSend) :
    (uplinks.store index
        ((uplinks.uplink index).append accepted send)).posted =
      uplinks.posted ++ send.payload?.toList := by
  have earlier : ∀ other ∈ List.range index,
      sentPayloads ((uplinks.store index
          ((uplinks.uplink index).append accepted send)).uplink
            other).clientSends =
        sentPayloads (uplinks.uplink other).clientSends := by
    intro other member
    rw [uplink_store_of_ne (List.mem_range.mp member).ne]
  have more : sentPayloads ((uplinks.uplink index).clientSends ++ [send]) =
      sentPayloads (uplinks.uplink index).clientSends ++
        send.payload?.toList := by
    rw [sentPayloads, List.filterMap_append]
    cases send with
    | data | heartbeat => rfl
  rw [uplinks.posted_eq_append last, (uplinks.store _ _).posted_eq_append last,
    List.flatMap_congr earlier, uplink_store_self, List.append_assoc, ← more]
  rfl

/-- The client puts a frame on the connection of its descriptor, and what the
application was asked to send has room for it. -/
theorem Ordered.put
    {send : ClientSend}
    (ordered : Ordered decodes uplinks)
    (room : (uplinks.posted ++ send.payload?.toList).Sublist
      (uplinks.asked.map Payload.bytes)) :
    Ordered decodes
      (uplinks.put uplinks.link.client.nSocket send.frame.symbols send) := by
  unfold Uplinks.put
  cases routed : uplinks.route uplinks.link.client.nSocket with
  | none => exact ordered
  | some index =>
      have last := ordered.route index routed
      refine ⟨ordered.framed, ordered.route, ?_, ?_, ?_⟩
      · intro other
        by_cases isIndex : other = index
        · rw [isIndex, uplink_store_self]
          exact (ordered.sound index).put send
        · rw [uplink_store_of_ne isIndex]
          exact ordered.sound other
      · intro other unused
        change uplinks.connected ≤ other at unused
        have different : other ≠ index := by omega
        rw [uplink_store_of_ne different]
        exact ordered.unused other unused
      · rw [posted_append last]
        exact room

/-- A descriptor is closed, or a new one takes its number. -/
theorem Ordered.disconnect
    (ordered : Ordered decodes uplinks)
    (nSocket : Int) :
    Ordered decodes (uplinks.disconnect nSocket) where
  framed := ordered.framed
  route index routed := ordered.route index (route_of_disconnect routed).2
  sound := ordered.sound
  unused := ordered.unused
  order := ordered.order

/-- The socket of the client gets a connection, on which there is nothing yet. -/
theorem Ordered.connected
    (ordered : Ordered decodes uplinks) :
    Ordered decodes { uplinks with
      connected := uplinks.connected + 1
      route := Function.update uplinks.route uplinks.link.client.nSocket
        (some uplinks.connected) } := by
  refine ⟨ordered.framed, ?_, ordered.sound, ?_, ?_⟩
  · intro index routed
    dsimp only at routed ⊢
    rw [Function.update_self, Option.some.injEq] at routed
    rw [routed]
  · intro index later
    exact ordered.unused index (Nat.le_of_succ_le later)
  · rw [posted, List.range_succ, List.flatMap_append, List.flatMap_singleton,
      ordered.unused _ le_rfl]
    change (uplinks.posted ++ []).Sublist _
    rw [List.append_nil]
    exact ordered.order

/-- The members of the client change, but for what its sockets go by. -/
theorem Ordered.withLink
    {link : Link}
    (ordered : Ordered decodes uplinks)
    (framed : link.client.bIsHaveHead = uplinks.link.client.bIsHaveHead)
    (route : ∀ index, uplinks.route link.client.nSocket = some index →
      uplinks.route uplinks.link.client.nSocket = some index) :
    Ordered decodes { uplinks with link := link } where
  framed := framed.trans ordered.framed
  route index routed := ordered.route index (route index routed)
  sound := ordered.sound
  unused := ordered.unused
  order := ordered.order

/-- A step of the client before its calls of `send` and `close`. -/
theorem Ordered.connect
    {label : LinkLabel}
    {link : Link}
    (ordered : Ordered decodes uplinks)
    (framed : link.client.bIsHaveHead = uplinks.link.client.bIsHaveHead)
    (same : link.client.nSocket = uplinks.link.client.nSocket ∨
      label = .keepAlive (.socket link.client.nSocket)) :
    Ordered decodes { uplinks.connect label with link := link } := by
  have still : ∀ other : Uplinks kind, Ordered decodes other →
      other.link = uplinks.link →
        link.client.nSocket = uplinks.link.client.nSocket →
          Ordered decodes { other with link := link } := by
    intro other orderedOther isLink sameSocket
    refine orderedOther.withLink (isLink ▸ framed) fun index routed => ?_
    rw [isLink, ← sameSocket]
    exact routed
  cases label with
  | keepAlive input =>
      cases input with
      | socket nSocket =>
          refine (ordered.disconnect nSocket).withLink framed fun index routed => ?_
          rcases same with same | made
          · exact same ▸ routed
          · have isSocket : nSocket = link.client.nSocket := by simpa using made
            exact absurd isSocket.symm (route_of_disconnect routed).1
      | connect nRet =>
          have sameSocket := same.resolve_right (by simp)
          rw [Uplinks.connect]
          split
          · exact still _ ordered.connected rfl sameSocket
          · exact still _ ordered rfl sameSocket
      | next | create | beat =>
          exact still _ ordered rfl (same.resolve_right (by simp))
  | look | recv | socketUnit =>
      exact still _ ordered rfl (same.resolve_right (by simp))

/-- A step of a thread of the client. -/
theorem Ordered.client
    {label : LinkLabel}
    (ordered : Ordered decodes uplinks)
    (whole : uplinks.SendsWhole (.client label))
    (stepped : uplinks.step (.client label) = some next) :
    Ordered decodes next := by
  obtain ⟨-, performed⟩ := Option.ite_none_right_eq_some.mp stepped
  obtain ⟨link, linkStepped, rfl⟩ := Option.map_eq_some_iff.mp performed
  obtain ⟨framed, written, events, use⟩ := Link.socketStep_linkStep linkStepped
  rw [events, List.drop_left]
  generalize socketCalls written = calls at use
  cases use with
  | socket nSocket made =>
      exact ordered.connect framed (Or.inr (by rw [made]))
  | quiet _ same => exact ordered.connect framed (Or.inl same)
  | beat now nSent same =>
      have beaten : Ordered decodes
          { uplinks.connect (.keepAlive (.beat now nSent)) with link := link } :=
        ordered.connect framed (Or.inl same)
      have isWhole : TcpClient.sendHeartbeat.take nSent =
          ClientSend.heartbeat.frame.symbols :=
        (List.take_of_length_le whole).trans TcpClient.sendHeartbeat_eq
      rw [isWhole, ← same]
      apply beaten.put
      rw [ClientSend.payload?, Option.toList_none, List.append_nil]
      exact beaten.order
  | close _ same =>
      exact (ordered.connect framed (Or.inl same)).disconnect _

/-- Every step that cuts no send short keeps the connections in order. -/
theorem Ordered.step
    {label : UplinkLabel kind}
    (ordered : Ordered decodes uplinks)
    (whole : uplinks.SendsWhole label)
    (stepped : uplinks.step label = some next) :
    Ordered decodes next := by
  cases label with
  | client label => exact ordered.client whole stepped
  | sendData payload nSent =>
      have asked : Ordered decodes
          { uplinks with asked := uplinks.asked ++ [payload] } := by
        refine ⟨ordered.framed, ordered.route, ordered.sound, ordered.unused, ?_⟩
        rw [List.map_append]
        exact ordered.order.trans (List.sublist_append_left _ _)
      have bytes := (ClientSend.data payload).bytes_eq ordered.framed
      rw [← Option.some.inj stepped, List.take_of_length_le whole, bytes]
      apply asked.put
      rw [List.map_append]
      exact ordered.order.append (List.Sublist.refl _)
  | serverSend index payload outcomes =>
      rw [Uplinks.step] at stepped
      split at stepped
      · rename_i ready
        rw [← Option.some.inj stepped]
        exact ordered.store ((ordered.sound index).send ready.2 whole) rfl
      · contradiction
  | serverRecv index turn =>
      rw [Uplinks.step] at stepped
      split at stepped
      · rename_i ready
        obtain ⟨-, serves, granted, arrived⟩ := ready
        rw [← Option.some.inj stepped]
        exact ordered.store
          ((ordered.sound index).receive serves granted whole arrived) rfl
      · contradiction

/-- What the server owes to a client that reconnects. On each connection the
session has handed on the first messages put there, and all of them once nothing
is on its way to it. Over all connections, what has been handed on was sent, in
this order, and each payload at most once. -/
structure Delivers
    (deaf : kind.Session → Prop)
    (uplinks : Uplinks kind) : Prop where
  each : ∀ index, messages (uplinks.uplink index).serverEvents <+:
    (uplinks.uplink index).clientSends.map ClientSend.message
  all : ∀ index, (uplinks.uplink index).serves = true →
    ¬deaf (uplinks.uplink index).session →
      (uplinks.uplink index).toServer = [] →
        messages (uplinks.uplink index).serverEvents =
          (uplinks.uplink index).clientSends.map ClientSend.message
  order : uplinks.handedOn.Sublist (uplinks.asked.map Payload.bytes)

theorem Ordered.delivers (ordered : Ordered decodes uplinks) :
    Delivers decodes.deaf uplinks where
  each index := (ordered.sound index).handed
  all index := (ordered.sound index).all
  order := (List.Sublist.flatMap_right _ fun index _ =>
    (ordered.sound index).delivered).trans ordered.order

/-- What is put on a connection was sent by the application, or is a heartbeat. -/
theorem Ordered.asked
    {index : Nat}
    {payload : Payload}
    (ordered : Ordered decodes uplinks)
    (sent : .data payload ∈ (uplinks.uplink index).clientSends) :
    payload.bytes ∈ uplinks.asked.map Payload.bytes := by
  apply ordered.order.subset
  rcases Nat.lt_or_ge index uplinks.connected with used | unused
  · exact List.mem_flatMap.mpr ⟨index, List.mem_range.mpr used,
      List.mem_filterMap.mpr ⟨.data payload, sent, rfl⟩⟩
  · rw [ordered.unused index unused] at sent
    contradiction

/-- A session that listens lacks no more than its buffer holds, if the application
sends nothing larger. -/
theorem Ordered.request_le
    (ordered : Ordered decodes uplinks)
    (fits : ∀ payload ∈ uplinks.asked, payload.bytes.length ≤ maxBufferLen)
    {index : Nat}
    (serves : (uplinks.uplink index).serves = true) :
    decodes.deaf (uplinks.uplink index).session ∨
      ∃ state, decodes.follows state (uplinks.uplink index).session ∧
        frameFormat.request state ≤ maxBufferLen := by
  obtain ⟨waiting, whole, listens⟩ := ordered.sound index
  refine (listens serves).imp_right ?_
  rintro ⟨state, follows, carries⟩
  refine ⟨state, follows, carries.request_le (by decide) ?_⟩
  intro szRecvData member
  have posted : .payload szRecvData ∈
      (uplinks.uplink index).clientSends.map ClientSend.message :=
    whole ▸ List.mem_append_right _ member
  obtain ⟨send, sent, isMessage⟩ := List.mem_map.mp posted
  cases send with
  | data payload =>
      injection isMessage with isPayload
      obtain ⟨asked, isAsked, same⟩ := List.mem_map.mp (ordered.asked sent)
      rw [← isPayload, ← same]
      exact fits asked isAsked
  | heartbeat => contradiction

/-- Every run of a client that reconnects delivers, whatever it receives meanwhile
and however its threads, its application and the sessions take turns, as long as
no send is cut short and no payload is larger than the receive buffer of a session:
then no session asks for more than its buffer holds. The sessions are those of
Linux or of Windows, or any others that decode. -/
theorem delivers_across_reconnects
    (decodes : kind.Decodes)
    (sessions : Nat → kind.Session)
    (starts : ∀ index, decodes.follows (.head []) (sessions index))
    (garbage : ClientGarbage)
    (nHeartBeatInterval : Int)
    (labels : List (UplinkLabel kind))
    (throughout : Throughout step SendsWhole
      (start garbage nHeartBeatInterval sessions) labels)
    (last : Uplinks kind)
    (reached : run step (start garbage nHeartBeatInterval sessions) labels =
      some last)
    (fits : ∀ payload ∈ last.asked, payload.bytes.length ≤ maxBufferLen) :
    (∀ index, (last.uplink index).serves = true →
        decodes.deaf (last.uplink index).session ∨
          ∃ state, decodes.follows state (last.uplink index).session ∧
            frameFormat.request state ≤ maxBufferLen) ∧
      Delivers decodes.deaf last := by
  have ordered : Ordered decodes last :=
    invariant_of_run
      (fun _ _ _ ordered whole stepped => Ordered.step ordered whole stepped)
      (ordered_start starts garbage nHeartBeatInterval) throughout reached
  exact ⟨fun _ serves => ordered.request_le fits serves, ordered.delivers⟩

/-! ### A letter that is lost -/

/-- The client connects, and its first heartbeat is read by the session. -/
def connectSteps (index : Nat) : List (UplinkLabel TcpSession.kind) :=
  [.client (.keepAlive .next),
    .client (.keepAlive (.socket 5)),
    .client (.keepAlive (.connect 0)),
    .client (.keepAlive (.create 0)),
    .client (.keepAlive (.beat 0 8)),
    .serverRecv index (FramedConnection.headTurn ClientSend.heartbeat.frame)]

/-- A letter of the client is read by the session. -/
def letterSteps (index : Nat) : List (UplinkLabel TcpSession.kind) :=
  [.sendData letterA 9,
    .serverRecv index (FramedConnection.headTurn (dataFrame letterA)),
    .serverRecv index
      (echoTurn ⟨letterA.bytes, letterA.nonempty, FramedConnection.letterA_fits⟩)]

/-- The heartbeat thread drops the connection after a timeout, and the receive
thread returns. Another letter is sent meanwhile. -/
def dropSteps : List (UplinkLabel TcpSession.kind) :=
  [.client (.keepAlive .next),
    .client (.keepAlive (.beat heartbeatTimeout 8)),
    .client (.keepAlive .next),
    .sendData lettersAB 10,
    .client .look,
    .client (.keepAlive .next)]

/-- A letter on each of two connections, and one between them. -/
def reconnectSteps : List (UplinkLabel TcpSession.kind) :=
  connectSteps 0 ++ letterSteps 0 ++ dropSteps ++ connectSteps 1 ++ letterSteps 1

theorem delivers_across_reconnects_letters :
    ∃ last, run step (start ⟨3, 0, 0⟩ 5 fun _ => TcpSession.framedSession)
        reconnectSteps = some last ∧
      last.handedOn = [[0x41], [0x41]] ∧
      Delivers TcpSession.decodes.deaf last := by
  have starts : ∀ _ : Nat,
      TcpSession.decodes.follows (.head []) TcpSession.framedSession := by
    intro _
    exact SessionCore.AtFrameStart.follows ⟨rfl, rfl, rfl, rfl⟩
  refine ⟨_, rfl, by decide, ?_⟩
  refine (delivers_across_reconnects TcpSession.decodes _ starts ⟨3, 0, 0⟩ 5
    reconnectSteps (by decide) _ rfl ?_).2
  exact (by decide : ∀ payload ∈ [letterA, lettersAB, letterA],
    payload.bytes.length ≤ maxBufferLen)

end Uplinks

end TransPortEngine
