import Mathlib.Logic.Function.Basic
import TransPortEngine.TcpSession.Recv
import TransPortEngine.TcpSessionMgr

/-!
# The state of a server

The session objects of a Linux server, its session manager, and what the kernel
keeps for it: the open sockets and the descriptors added to the epoll instances
of the net event modules. The functions of the server run the functions of
`CTcpSession` on an object of this state.
-/

namespace TransPortEngine

open MachineInt

/-- A session object, by the order of construction. The address of an object can
be that of one deleted before, its number cannot. -/
abbrev SessionId := Nat

/-- What an epoll instance keeps for a descriptor. The address in the event is
that of `session`; a one-shot registration is armed until it is reported. -/
structure Registration where
  session : SessionId
  event : EpollEvent
  armed : Bool
  deriving DecidableEq, Repr

/-- The sockets of the sessions, and the registrations with the epoll instance
of each net event module. -/
structure Kernel where
  openSockets : List Int
  registrations : Nat → Int → Option Registration

namespace Kernel

/-- No session has been accepted. -/
def initial : Kernel :=
  ⟨[], fun _ _ => none⟩

/-- A new connection. -/
def accept (kernel : Kernel) (nAcceptSock : Int) : Kernel :=
  { kernel with openSockets := nAcceptSock :: kernel.openSockets }

/-- Set what one epoll instance keeps for a descriptor. -/
def register
    (kernel : Kernel)
    (modle : Nat)
    (nSocket : Int)
    (registration : Option Registration) : Kernel :=
  { kernel with
    registrations := fun index descriptor =>
      if index = modle ∧ descriptor = nSocket then registration
      else kernel.registrations index descriptor }

/-- A closed descriptor leaves every epoll instance. -/
def close (kernel : Kernel) (nSocket : Int) : Kernel where
  openSockets := kernel.openSockets.filter (· ≠ nSocket)
  registrations index descriptor :=
    if descriptor = nSocket then none
    else kernel.registrations index descriptor

/-- Whether the kernel can report the result an event carries. -/
def allows (kernel : Kernel) (modle : Nat) : EngineEvent → Bool
  | .epollCtl .add nSocket _ true =>
      decide (nSocket ∈ kernel.openSockets) &&
        (kernel.registrations modle nSocket).isNone
  | .epollCtl _ nSocket _ true =>
      (kernel.registrations modle nSocket).isSome
  | _ => true

/-- The effect of an event of a session bound to a net event module. Adding and
modifying arm the descriptor. -/
def perform
    (kernel : Kernel)
    (modle : Nat)
    (session : SessionId) : EngineEvent → Kernel
  | .epollCtl .del nSocket _ true => kernel.register modle nSocket none
  | .epollCtl _ nSocket event true =>
      kernel.register modle nSocket (some ⟨session, event, true⟩)
  | .close nSocket => kernel.close nSocket
  | _ => kernel

/-- The effect of several events, one after another. -/
def performAll
    (kernel : Kernel)
    (modle : Nat)
    (session : SessionId)
    (events : List EngineEvent) : Kernel :=
  events.foldl (fun kernel event => kernel.perform modle session event) kernel

/-- An event mask the kernel can report for the events asked for: error and
hangup are always reported. -/
def reports (interest mask : EpollEvents) : Bool :=
  (!mask.epollIn || interest.epollIn) &&
    (!mask.epollOut || interest.epollOut) &&
    (!mask.epollPri || interest.epollPri) &&
    (!mask.epollRdHup || interest.epollRdHup)

/-- `epoll_wait` hands an event of an armed descriptor to a worker, and disarms
the descriptor when it is registered for one shot. -/
def fetch
    (kernel : Kernel)
    (modle : Nat)
    (nSocket : Int)
    (mask : EpollEvents) : Option (SessionId × EpollEvent × Kernel) :=
  match kernel.registrations modle nSocket with
  | none => none
  | some registration =>
      if registration.armed ∧ reports registration.event.events mask then
        some (registration.session,
          { registration.event with events := mask },
          kernel.register modle nSocket (some { registration with
            armed := !registration.event.events.epollOneShot }))
      else none

/-- A fetched event is that of an armed registration. -/
theorem fetch_eq_some
    {kernel next : Kernel}
    {modle : Nat}
    {nSocket : Int}
    {mask : EpollEvents}
    {session : SessionId}
    {event : EpollEvent}
    (fetched : kernel.fetch modle nSocket mask = some (session, event, next)) :
    ∃ registration, kernel.registrations modle nSocket = some registration ∧
      registration.armed = true ∧ registration.session = session ∧
        event = { registration.event with events := mask } ∧
          next = kernel.register modle nSocket (some { registration with
            armed := !registration.event.events.epollOneShot }) := by
  unfold fetch at fetched
  split at fetched
  · contradiction
  · rename_i registration registered
    split at fetched
    · rename_i allowed
      simp only [Option.some.injEq, Prod.mk.injEq] at fetched
      obtain ⟨isSession, isEvent, isNext⟩ := fetched
      exact ⟨registration, registered, allowed.1, isSession, isEvent.symm,
        isNext.symm⟩
    · contradiction

/-- Reporting an event changes only whether its descriptor is armed. -/
theorem registered_of_fetch
    {kernel next : Kernel}
    {modle : Nat}
    {nSocket : Int}
    {mask : EpollEvents}
    {session : SessionId}
    {event : EpollEvent}
    (fetched : kernel.fetch modle nSocket mask = some (session, event, next))
    {index : Nat}
    {descriptor : Int}
    {other : Registration}
    (found : next.registrations index descriptor = some other) :
    ∃ before, kernel.registrations index descriptor = some before ∧
      before.session = other.session ∧ before.event = other.event ∧
        (before.event.events.epollOneShot = true → other.armed = true →
          before = other ∧ ¬(index = modle ∧ descriptor = nSocket)) := by
  obtain ⟨registration, registered, -, -, -, rfl⟩ := fetch_eq_some fetched
  simp only [register] at found
  split at found
  · rename_i same
    rw [← Option.some.inj found, same.1, same.2]
    refine ⟨registration, registered, rfl, rfl, fun oneShot => ?_⟩
    simp only [oneShot, Bool.not_true]
    exact fun impossible => absurd impossible Bool.false_ne_true
  · rename_i different
    exact ⟨other, found, rfl, rfl, fun _ _ => ⟨rfl, different⟩⟩

end Kernel

/-- The members of `CAcceptSession` the accept loop reads. -/
structure AcceptSession where
  nEventModleCount : Int
  hasTransPortEngineRecv : Bool
  bIsHaveHead : Bool
  nEventModleCount_ne_zero : nEventModleCount ≠ 0

/-- `NetEventModleMgr_FindModle`: the modules have the indices below their number,
which are those of the modules that `NetEventModleMgr_Init` makes
(`findModle_eq`). -/
def AcceptSession.findModle
    (acceptSession : AcceptSession)
    (nNetEventModleIndex : Int) : Option Nat :=
  if 0 ≤ nNetEventModleIndex ∧
      nNetEventModleIndex < acceptSession.nEventModleCount then
    some nNetEventModleIndex.toNat
  else none

/-- The state the threads of a server share. A session is bound to the net event
module `m_pINetEventModleEpoll` points at. The memory keeps apart objects that have
had one address after the other: whoever uses a deleted object meets that one here,
and not the object that has been given its address. -/
structure ServerState where
  memory : SessionId → TcpSession
  bound : SessionId → Nat
  constructed : Nat
  nAcceptIndex : Int
  mgr : TcpSessionMgr
  kernel : Kernel

namespace ServerState

/-- A server before its first connection, in a memory of arbitrary content. -/
def initial
    (memory : SessionId → TcpSession)
    (bIsHeartbeat : Bool) : ServerState where
  memory := memory
  bound := fun _ => 0
  constructed := 0
  nAcceptIndex := 0
  mgr := ⟨bIsHeartbeat, ∅⟩
  kernel := .initial

/-- Store a session object. -/
def store
    (state : ServerState)
    (session : SessionId)
    (object : TcpSession) : ServerState :=
  { state with memory := Function.update state.memory session object }

/-- A function of `CTcpSession` has changed the object and done something to its
environment. -/
def act
    (state : ServerState)
    (modle : Nat)
    (session : SessionId)
    (object : TcpSession)
    (events : List EngineEvent) : ServerState :=
  { state.store session object with
    kernel := state.kernel.performAll modle session events }

end ServerState

/-- What the threads do to get rid of a session, in different orders. -/
inductive Teardown
  | delSession (nSocket : Int)
  | delEvent
  | fini
  | delete
  deriving DecidableEq, Repr

/-- One such call, given the module whose `NetEventModleEpoll_DelEvent` is called
and the success of its `epoll_ctl`. -/
def ServerState.teardown
    (state : ServerState)
    (modle : Nat)
    (session : SessionId)
    (done : Bool) : Teardown → ServerState × List EngineEvent
  | .delSession nSocket =>
      ({ state with mgr := (state.mgr.delSession nSocket).1 },
        tcpSessionMgrLocked [])
  | .delEvent =>
      let object := state.memory session
      let events := (object.delEvent done).1
      (state.act modle session object events, events)
  | .fini =>
      let finished := (state.memory session).fini
      (state.act modle session finished.1 finished.2.1, finished.2.1)
  | .delete =>
      let deleted := (state.memory session).delete
      (state.act modle session deleted.1 deleted.2, deleted.2)

/-- A framed server with one net event module. -/
def oneModle : AcceptSession where
  nEventModleCount := 1
  hasTransPortEngineRecv := true
  bIsHaveHead := true
  nEventModleCount_ne_zero := by decide

/-- A framed server with a negative number of net event modules: it has none. -/
def noModles : AcceptSession where
  nEventModleCount := -1
  hasTransPortEngineRecv := true
  bIsHaveHead := true
  nEventModleCount_ne_zero := by decide

/-- A memory in which nothing has been constructed. -/
def blankMemory : SessionId → TcpSession :=
  fun _ => TcpSession.construct ⟨false, false, 0, 0⟩ 0 0

end TransPortEngine
