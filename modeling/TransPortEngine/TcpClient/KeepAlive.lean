import TransPortEngine.TcpClient.Decoder

/-!
# The threads of a client

A client in heartbeat mode on Linux: the heartbeat thread in
`TcpClient_KeepSessionAlive`, which connects, starts the receive thread and drops
the connection after a timeout, the receive thread in `TcpClient_Recvfrom`, and
an application thread in `TcpClient_SocketUnit`. A step is one system call or one
look at a flag, with the assignments that follow it.
-/

namespace TransPortEngine

/-- Where the heartbeat thread is. -/
inductive KeepAliveStage
  | loop
  | woken
  | connecting
  | starting
  | greeting
  | dropping
  | joining
  | returned
  deriving DecidableEq, Repr

/-- Where the receive thread is. There is none before the first connection. -/
inductive ReceiverStage
  | absent
  | loop
  | receiving
  | returned
  deriving DecidableEq, Repr

/-- A thread that can be joined has not returned yet. -/
def ReceiverStage.running : ReceiverStage → Bool
  | .loop | .receiving => true
  | _ => false

/-- Where the thread in `TcpClient_SocketUnit` is. -/
inductive SocketUnitStage
  | idle
  | joiningHeartbeat
  | stopping
  | joiningReceiver
  | returned
  deriving DecidableEq, Repr

/-- What a receive thread has got from `recv`, and what it has delivered. -/
structure Connection where
  turns : List RecvfromTurn
  payloads : List (List UInt8)

/-- The bytes received on a connection. -/
def Connection.bytes (connection : Connection) : List UInt8 :=
  connection.turns.flatMap RecvfromTurn.bytes

/-- A client with its threads, what it has done to its environment and, for the
record, its connections, the last one first. -/
structure Link where
  client : TcpClient
  keepAlive : KeepAliveStage
  receiver : ReceiverStage
  socketUnit : SocketUnitStage
  events : List EngineEvent
  connections : List Connection

/-- The results of the system calls of the heartbeat thread. -/
inductive KeepAliveInput
  | next
  | socket (nSocket : Int)
  | connect (nRet : Int)
  | create (nRet : Int)
  | beat (now : Int) (nSent : Nat)

/-- A step of one of the threads. -/
inductive LinkLabel
  | keepAlive (input : KeepAliveInput)
  | look
  | recv (turn : RecvfromTurn)
  | socketUnit

namespace Link

/-- The start of a framed client in heartbeat mode: `TcpClient_SocketInit` has
started the heartbeat thread. -/
def initial (garbage : ClientGarbage) (nHeartBeatInterval : Int) : Link where
  client := (TcpClient.construct garbage).configure true true nHeartBeatInterval
  keepAlive := .loop
  receiver := .absent
  socketUnit := .idle
  events := []
  connections := []

/-- The heartbeat thread sends a heartbeat and goes back to its loop. -/
def sendHeartbeat (link : Link) (nSent : Nat) : Link :=
  { link with
    events := link.events ++
      [.write link.client.nSocket (TcpClient.sendHeartbeat.take nSent)]
    keepAlive := .loop }

/-- The heartbeat thread starts a receive thread. An error number of
`pthread_create` is positive, and only a negative result is an error for the
client. -/
def createRecvThread (link : Link) (nRet : Int) : Link :=
  let link := { link with
    client := { link.client with bRecvFlag := true }
    keepAlive := if nRet < 0 then .loop else .greeting }
  if nRet = 0 then
    { link with
      receiver := .loop
      connections := ⟨[], []⟩ :: link.connections }
  else link

/-- `TcpClient_KeepSessionAlive`. The stores of the status come with their
notifications here; `ClientCalls` takes them apart. -/
def keepAliveStep (link : Link) (input : KeepAliveInput) : Option Link :=
  let client := link.client
  match link.keepAlive, input with
  | .loop, .next =>
      some { link with
        keepAlive := if client.bHeartbeatFlag then .woken else .returned }
  | .woken, .socket nSocket =>
      if client.nLinkStatus = .disconnect then
        some { link with
          client := { client with nSocket := nSocket }
          keepAlive := if nSocket ≤ 0 then .loop else .connecting }
      else none
  | .connecting, .connect nRet =>
      if nRet ≠ 0 then some { link with keepAlive := .loop }
      else
        some { link with
          client := { client with nLinkStatus := .connect }
          events := link.events ++ client.notify .connect
          keepAlive := .starting }
  | .starting, .create nRet => some (link.createRecvThread nRet)
  | .greeting, .beat now nSent =>
      let link := { link with
        client := { client with tHeartbeatTimeStamp := now } }
      some (link.sendHeartbeat nSent)
  | .woken, .beat now nSent =>
      if client.nLinkStatus = .connect then
        if client.sessionTimeout now then
          some { link with
            client := { client with nLinkStatus := .disconnect }
            events := link.events ++ client.notify .disconnect
            keepAlive := .dropping }
        else some (link.sendHeartbeat nSent)
      else none
  | .dropping, .next =>
      some { link with
        client := { client with bRecvFlag := false }
        events := link.events ++ [.close client.nSocket]
        keepAlive := .joining }
  | .joining, .next =>
      if link.receiver.running then none
      else some { link with keepAlive := .loop }
  | _, _ => none

/-- The receive thread looks at its flag. -/
def lookStep (link : Link) : Option Link :=
  match link.receiver with
  | .loop =>
      some { link with
        receiver := if link.client.bRecvFlag then .receiving else .returned }
  | _ => none

/-- Write down a turn of the last connection. -/
def record
    (turn : RecvfromTurn)
    (payloads : List (List UInt8)) : List Connection → List Connection
  | [] => []
  | connection :: connections =>
      ⟨connection.turns ++ [turn], connection.payloads ++ payloads⟩ ::
        connections

/-- `recv` returns, and the receive thread handles the result. `ClientCalls` takes
the two apart. -/
def recvStep (link : Link) (turn : RecvfromTurn) : Option Link :=
  match link.receiver with
  | .receiving =>
      if turn.bytes.length ≤ link.client.recvRequest then
        let pass := link.client.recvfromPass turn
        some { link with
          client := pass.client
          receiver := if pass.leaves then .returned else .loop
          events := link.events ++ pass.events
          connections := record turn (deliveries pass.events) link.connections }
      else none
  | _ => none

/-- The end of `TcpClient_SocketUnit`. -/
def closeSocket (link : Link) : Link :=
  { link with
    events := link.events ++
      if link.client.nSocket = 0 then [] else [.close link.client.nSocket]
    socketUnit := .returned }

/-- `TcpClient_SocketUnit`. A join returns when the thread does not run; whether the
member holds a thread at all is a matter of `ClientThreads`. -/
def socketUnitStep (link : Link) : Option Link :=
  let client := link.client
  match link.socketUnit with
  | .idle =>
      if client.bHeartbeatFlag then
        some { link with
          client := { client with bHeartbeatFlag := false }
          socketUnit := .joiningHeartbeat }
      else some { link with socketUnit := .stopping }
  | .joiningHeartbeat =>
      if link.keepAlive = .returned then
        some { link with socketUnit := .stopping }
      else none
  | .stopping =>
      if client.bRecvFlag then
        some { link with
          client := { client with bRecvFlag := false }
          socketUnit := .joiningReceiver }
      else some link.closeSocket
  | .joiningReceiver =>
      if link.receiver.running then none else some link.closeSocket
  | .returned => none

end Link

/-- One step of one thread. -/
def linkStep (link : Link) : LinkLabel → Option Link
  | .keepAlive input => link.keepAliveStep input
  | .look => link.lookStep
  | .recv turn => link.recvStep turn
  | .socketUnit => link.socketUnitStep

end TransPortEngine
