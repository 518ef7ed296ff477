import TransPortEngine.HeartbeatEcho
import TransPortEngine.TcpClient.Delivery
import TransPortEngine.TcpSession.Delivery
import TransPortEngine.TcpSession.IocpDelivery

/-!
# A framed connection

A client and the session that serves it, with the bytes on their way in each
direction. Both ends send whenever they are asked to, a read takes any part of
the bytes that have arrived, and a heartbeat is answered by the session while it
receives. The steps of the two ends are taken in any order. The two platforms of
the server differ in the session and in what its system calls return.
-/

namespace TransPortEngine

open Framing

/-- What one receive or send of a session does, and whether the session is still
served afterwards. -/
structure Reaction (σ : Type) where
  session : σ
  events : List EngineEvent
  stays : Bool

/-- The session of one platform: what it is handed when it receives, what the
kernel may hand over, and what its functions do. -/
structure SessionKind where
  Session : Type
  Turn : Type
  Outcomes : Type
  bytes : Turn → List UInt8
  grants : Session → Turn → Bool
  receive : Session → Turn → Reaction Session
  send : Session → Payload → Outcomes → Reaction Session
  output : List EngineEvent → List UInt8
  answersWhole : Turn → Bool
  sendsWhole : Session → Payload → Outcomes → Bool

/-- A worker drops the session on a negative result. -/
def PassEnd.stays : PassEnd → Bool
  | .loop => true
  | .leave nRet => decide (0 ≤ nRet)

namespace TcpSession

/-- One iteration of `TcpSession_IORecv()`. -/
def react (session : TcpSession) (turn : RecvTurn) : Reaction TcpSession :=
  let pass := session.ioRecvPass turn
  ⟨pass.session, pass.events, pass.ending.stays⟩

/-- Sessions on Linux. What is accepted by `write` is on its way. -/
def kind : SessionKind where
  Session := TcpSession
  Turn := RecvTurn
  Outcomes := SendOutcomes
  bytes := RecvTurn.bytes
  grants := fun _ _ => true
  receive := react
  send := fun session payload outcomes =>
    let run := session.sendData payload.bytes payload.bytes.length outcomes
    ⟨run.session, run.events, true⟩
  output := written
  answersWhole := fun turn =>
    acceptsAll turn.echo.outcomes.writes sizeofHeadMsg
  sendsWhole := fun session payload outcomes =>
    decide ((session.sendData payload.bytes payload.bytes.length
      outcomes).result = .returned 0)

end TcpSession

/-- The buffer of a `WSASend` that was accepted. -/
def EngineEvent.overlapped : EngineEvent → List UInt8
  | .wsaSend _ wsaBuf true => wsaBuf
  | _ => []

/-- The bytes of the overlapped sends that were accepted, in order. -/
def overlappedBytes (events : List EngineEvent) : List UInt8 :=
  events.flatMap EngineEvent.overlapped

namespace IocpSession

/-- `TcpSession_SendData` on Windows, for a payload. -/
def sendData
    (session : IocpSession)
    (payload : Payload)
    (posted : Bool) : IocpSession × List EngineEvent × Int :=
  if session.bIsHaveHead then
    session.ioSend (frameBuf payload.bytes payload.bytes.length)
      (MachineInt.signed32 (payload.bytes.length + sizeofHeadMsg)) posted
  else session.ioSend payload.bytes payload.bytes.length posted

/-- Sessions on Windows. A completed receive brings at most what was asked for,
and the bytes of an accepted `WSASend` are on their way. -/
def kind : SessionKind where
  Session := IocpSession
  Turn := IocpTurn
  Outcomes := Bool
  bytes := IocpTurn.bytes
  grants := fun session turn =>
    decide (turn.bytes.length ≤ session.perIoContextRecv.wsaBufLen)
  receive := fun session turn =>
    let call := session.complete turn
    ⟨call.1, call.2.1, decide (0 ≤ call.2.2)⟩
  send := fun session payload posted =>
    let sent := session.sendData payload posted
    ⟨sent.1, sent.2.1, true⟩
  output := overlappedBytes
  answersWhole := fun turn => turn.echoPosted
  sendsWhole := fun _ _ posted => posted

end IocpSession

/-- A connection: both ends, the bytes on their way, what each end has done and
what each was asked to send. -/
structure FramedConnection (kind : SessionKind) where
  client : TcpClient
  clientReads : Bool
  session : kind.Session
  serves : Bool
  toServer : List UInt8
  toClient : List UInt8
  clientEvents : List EngineEvent
  serverEvents : List EngineEvent
  clientSends : List ClientSend
  serverSends : List Payload

/-- A step of either end. A `send` of the client reports how much it took. -/
inductive ConnectionLabel (kind : SessionKind)
  | clientSend (send : ClientSend) (nSent : Nat)
  | clientRecv (turn : RecvfromTurn)
  | serverSend (payload : Payload) (outcomes : kind.Outcomes)
  | serverRecv (turn : kind.Turn)

namespace FramedConnection

variable {kind : SessionKind}

/-- Two ends between which nothing has been sent. -/
def start (client : TcpClient) (session : kind.Session) : FramedConnection kind where
  client := client
  clientReads := true
  session := session
  serves := true
  toServer := []
  toClient := []
  clientEvents := []
  serverEvents := []
  clientSends := []
  serverSends := []

/-- One step. A read takes the first of the bytes that have arrived, as many as
its end has asked for at most. A send is a step as a whole, and so are a read and
the answer it gives rise to: the frames of one end do not mix. That a read fits the
buffer it goes to is a matter of the lengths that are sent. -/
def step (connection : FramedConnection kind) :
    ConnectionLabel kind → Option (FramedConnection kind)
  | .clientSend send nSent =>
      some { connection with
        toServer := connection.toServer ++
          (send.bytes connection.client).take nSent
        clientSends := connection.clientSends ++ [send] }
  | .clientRecv turn =>
      if connection.clientReads ∧ connection.client.bRecvFlag ∧
          turn.bytes <+: connection.toClient ∧
            turn.bytes.length ≤ connection.client.recvRequest then
        let pass := connection.client.recvfromPass turn
        some { connection with
          client := pass.client
          clientReads := !pass.leaves
          toClient := connection.toClient.drop turn.bytes.length
          clientEvents := connection.clientEvents ++ pass.events }
      else none
  | .serverSend payload outcomes =>
      if connection.serves then
        let reaction := kind.send connection.session payload outcomes
        some { connection with
          session := reaction.session
          toClient := connection.toClient ++ kind.output reaction.events
          serverEvents := connection.serverEvents ++ reaction.events
          serverSends := connection.serverSends ++ [payload] }
      else none
  | .serverRecv turn =>
      if connection.serves ∧ kind.grants connection.session turn ∧
          kind.bytes turn <+: connection.toServer then
        let reaction := kind.receive connection.session turn
        some { connection with
          session := reaction.session
          serves := reaction.stays
          toServer := connection.toServer.drop (kind.bytes turn).length
          toClient := connection.toClient ++ kind.output reaction.events
          serverEvents := connection.serverEvents ++ reaction.events }
      else none

/-- No send is cut short: the kernel takes every frame as a whole. -/
def SendsWhole (connection : FramedConnection kind) : ConnectionLabel kind → Prop
  | .clientSend send nSent => (send.bytes connection.client).length ≤ nSent
  | .clientRecv _ => True
  | .serverSend payload outcomes =>
      kind.sendsWhole connection.session payload outcomes = true
  | .serverRecv turn => kind.answersWhole turn = true

/-- The payloads sent through the session fit the receive buffer of the client. -/
def ServerPayloadsFit (connection : FramedConnection kind) : Prop :=
  ∀ payload ∈ connection.serverSends, payload.bytes.length ≤ maxBufferLen

/-- The payloads sent by the client fit the receive buffer of a session. -/
def ClientPayloadsFit (connection : FramedConnection kind) : Prop :=
  ∀ payload, .data payload ∈ connection.clientSends →
    payload.bytes.length ≤ maxBufferLen

instance (connection : FramedConnection kind) (label : ConnectionLabel kind) :
    Decidable (connection.SendsWhole label) :=
  match label with
  | .clientSend _ _ => inferInstanceAs (Decidable (_ ≤ _))
  | .clientRecv _ => inferInstanceAs (Decidable True)
  | .serverSend _ _ => inferInstanceAs (Decidable (_ = true))
  | .serverRecv _ => inferInstanceAs (Decidable (_ = true))

end FramedConnection

end TransPortEngine
