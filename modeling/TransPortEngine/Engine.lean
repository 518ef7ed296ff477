import Mathlib.Data.List.Basic
import TransPortEngine.Library.MachineInt

/-!
# What the engine does to its environment

The functions of the engine are pure functions of the state they change; what
they do to the kernel, the application and the locks is recorded as a trace of
events. System calls take their results as arguments.
-/

namespace TransPortEngine

open MachineInt

/-- `HEARTBEAT_TIMEOUT`, in seconds. -/
def heartbeatTimeout : Int := 20

/-- `MAX_BUFFER_LEN`. -/
def maxBufferLen : Nat := 4096

/-- Codes passed to `OnTransPortEngineNotify`. -/
inductive MsgType
  | connect
  | disconnect
  deriving DecidableEq, Repr

/-- The `CCritSec` objects of a server on either platform. -/
inductive CritSec
  | sendBufLock
  | recvBufLock
  | epollEventLock
  | tcpSessionMgrLock
  | netEventModleLock
  | workThreadLock
  | perIoContextSendLock
  | iocpEventLock
  deriving DecidableEq, Repr

/-- Operations of `epoll_ctl`. -/
inductive EpollOp
  | add
  | mod
  | del
  deriving DecidableEq, Repr

/-- An event mask of the epoll interface. -/
structure EpollEvents where
  epollIn : Bool
  epollOut : Bool
  epollPri : Bool
  epollErr : Bool
  epollHup : Bool
  epollRdHup : Bool
  epollOneShot : Bool
  epollEt : Bool
  deriving DecidableEq, Repr

/-- `struct epoll_event`. The member `data` is a union: `fd` names the lower
half of the word that `ptr` names. -/
structure EpollEvent where
  events : EpollEvents
  data : Nat
  deriving DecidableEq, Repr

namespace EpollEvent

/-- An event cleared with `memset`. -/
def zero : EpollEvent :=
  ⟨⟨false, false, false, false, false, false, false, false⟩, 0⟩

/-- Store to `data.fd`. -/
def setFd (event : EpollEvent) (nSocket : Int) : EpollEvent :=
  { event with
    data := event.data / 4294967296 * 4294967296 + unsigned32 nSocket }

/-- Store to `data.ptr`. -/
def setPtr (event : EpollEvent) (address : Nat) : EpollEvent :=
  { event with data := address }

/-- Load of `data.fd`. -/
def fd (event : EpollEvent) : Int :=
  signed32 event.data

/-- Load of `data.ptr`. -/
def ptr (event : EpollEvent) : Nat :=
  event.data

end EpollEvent

/-- One observable action of an engine function. -/
inductive EngineEvent
  | lock (critSec : CritSec)
  | unlock (critSec : CritSec)
  | onTransPortEngineRecv (nSessionId : Int) (szRecvData : List UInt8)
  | onTransPortEngineNotify (nSessionId : Int) (nMsgType : MsgType)
  | handleHB
  | memcpy (capacity : Nat) (offset : Int) (length : Nat)
  | read (nSocket : Int)
  | write (nSocket : Int) (accepted : List UInt8)
  | epollCtl (op : EpollOp) (nSocket : Int) (event : EpollEvent) (done : Bool)
  | close (nSocket : Int)
  | delete (address : Nat)
  | wsaSend (socket : Int) (wsaBuf : List UInt8) (posted : Bool)
  | wsaRecv (socket : Int) (len : Nat) (posted : Bool)
  deriving DecidableEq, Repr

namespace EngineEvent

/-- The payload of a receive callback. -/
def delivery : EngineEvent → Option (List UInt8)
  | .onTransPortEngineRecv _ szRecvData => some szRecvData
  | _ => none

/-- The bytes the kernel took from a `write`. -/
def output : EngineEvent → List UInt8
  | .write _ accepted => accepted
  | _ => []

/-- The descriptor a `close` of a session names. -/
def closed : EngineEvent → Option Int
  | .close nSocket => some nSocket
  | _ => none

end EngineEvent

/-- The payloads passed to `OnTransPortEngineRecv`, in order. -/
def deliveries (events : List EngineEvent) : List (List UInt8) :=
  events.filterMap EngineEvent.delivery

/-- The bytes put on the socket, in order. -/
def written (events : List EngineEvent) : List UInt8 :=
  events.flatMap EngineEvent.output

/-- The descriptors that are closed, in order. -/
def closedSockets (events : List EngineEvent) : List Int :=
  events.filterMap EngineEvent.closed

@[simp] theorem closedSockets_append (first second : List EngineEvent) :
    closedSockets (first ++ second) =
      closedSockets first ++ closedSockets second :=
  List.filterMap_append

/-- What a framed stream carries to the application side: a payload for the
receive callback, or a call of the heartbeat handler. -/
inductive Message
  | payload (szRecvData : List UInt8)
  | heartbeat
  deriving DecidableEq, Repr

namespace Message

/-- The payload of a message. -/
def payload? : Message → Option (List UInt8)
  | .payload szRecvData => some szRecvData
  | .heartbeat => none

end Message

/-- The message an event stands for. -/
def EngineEvent.message : EngineEvent → Option Message
  | .onTransPortEngineRecv _ szRecvData => some (.payload szRecvData)
  | .handleHB => some .heartbeat
  | _ => none

/-- Receive callbacks and handled heartbeats, in order. -/
def messages (events : List EngineEvent) : List Message :=
  events.filterMap EngineEvent.message

/-- Number of calls of a heartbeat handler. -/
def heartbeatCount (events : List EngineEvent) : Nat :=
  events.count .handleHB

@[simp] theorem deliveries_nil : deliveries [] = [] := rfl

@[simp] theorem deliveries_append (first second : List EngineEvent) :
    deliveries (first ++ second) = deliveries first ++ deliveries second := by
  simp [deliveries]

@[simp] theorem messages_nil : messages [] = [] := rfl

@[simp] theorem messages_append (first second : List EngineEvent) :
    messages (first ++ second) = messages first ++ messages second := by
  simp [messages]

theorem deliveries_eq_messages (events : List EngineEvent) :
    deliveries events = (messages events).filterMap Message.payload? := by
  rw [deliveries, messages, List.filterMap_filterMap]
  congr 1
  funext event
  cases event <;> rfl

theorem heartbeatCount_eq_messages (events : List EngineEvent) :
    heartbeatCount events = (messages events).count .heartbeat := by
  induction events with
  | nil => rfl
  | cons event events inductionHypothesis =>
      rw [heartbeatCount, messages] at inductionHypothesis ⊢
      cases event <;>
        simp [List.filterMap_cons, EngineEvent.message, inductionHypothesis]

@[simp] theorem written_nil : written [] = [] := rfl

@[simp] theorem written_append (first second : List EngineEvent) :
    written (first ++ second) = written first ++ written second := by
  simp [written]

/-- A nonempty piece of a byte stream that fits a buffer. -/
structure Chunk (capacity : Nat) where
  bytes : List UInt8
  nonempty : 0 < bytes.length
  fits : bytes.length ≤ capacity

/-- What a call has come to: it returned, it still waits for the result of a
system call, or it copied outside of the memory it had allocated. -/
inductive CallResult
  | returned (nRet : Int)
  | pending
  | fault
  deriving DecidableEq, Repr

end TransPortEngine
