import TransPortEngine.Library.Locks
import TransPortEngine.Library.Transition
import TransPortEngine.Server.Handlers
import TransPortEngine.Server.Threads

/-!
# Stopping a server

`AcceptSession_Fini` runs while the accept thread, the workers of the net event
modules and the heartbeat thread go on. A step is an acquisition or a release of
`m_NetEventModleLock` or `m_TcpSessionMgrLock` with the code around it, the end
of a join, or what lies between two of these. The order in which the threads
take turns is open.
-/

namespace TransPortEngine

open Locks MachineInt

/-- Where the accept thread is in `AcceptSession_Accept`, with the number of
reported connections it has still to accept. -/
inductive AcceptStage
  | loop
  | waiting
  | events (count : Nat)
  | findModle (nAcceptSock : Int) (session : SessionId) (count : Nat)
  | inFindModle (nAcceptSock : Int) (session : SessionId) (count : Nat)
  | addSession (modle : Nat) (nAcceptSock : Int) (session : SessionId)
      (count : Nat)
  | inAddSession (modle : Nat) (nAcceptSock : Int) (session : SessionId)
      (count : Nat)
  | register (modle : Nat) (nAcceptSock : Int) (session : SessionId)
      (count : Nat)
  | delSession (modle : Nat) (nAcceptSock : Int) (session : SessionId)
      (count : Nat)
  | inDelSession (modle : Nat) (nAcceptSock : Int) (session : SessionId)
      (count : Nat)
  | stopped
  deriving DecidableEq

/-- Where a worker is in `NetEventModleEpoll_HandleData`. -/
inductive WorkerStage
  | loop
  | waiting
  | events
  | receive (session : SessionId) (event : EpollEvent)
  | delSession (session : SessionId) (nSock : Int)
  | inDelSession (session : SessionId) (nSock : Int)
  | tearDown (session : SessionId) (calls : List Teardown)
  | stopped
  deriving DecidableEq

/-- A worker with its local variables: `bFlag`, and the events it has fetched
and not handled. -/
structure Worker where
  stage : WorkerStage
  bFlag : Bool
  batch : List (SessionId × EpollEvent)

/-- Where the heartbeat thread is in `TcpSessionMgr_HeartbeatDetection`, with
the sockets the sweep has still to visit. -/
inductive HeartbeatStage
  | loop
  | sleeping
  | enterSection
  | sweep (sockets : List Int)
  | findModle (session : SessionId) (sockets : List Int)
  | inFindModle (session : SessionId) (sockets : List Int)
  | delEvent (session : SessionId) (found : Option Nat) (sockets : List Int)
  | finiSession (session : SessionId) (sockets : List Int)
  | stopped
  deriving DecidableEq

/-- Where `AcceptSession_Fini` is, with the modules and workers, or the sessions,
it has still to finish. -/
inductive FiniStage
  | running
  | joinAccept
  | enterModleMgr
  | finiModles (modles : List Nat)
  | finiWorkers (modle number : Nat) (modles : List Nat)
  | joinWorker (modle number : Nat) (modles : List Nat)
  | deleteModleMgr
  | inDeleteModleMgr
  | finiSessionMgr
  | joinHeartbeat
  | enterSessionMgr
  | finiSessions (sockets : List Int)
  | deleteSessionMgr
  | done

/-- A server that is being stopped. `netEventModles` is the map of the module
manager, `modles` are the modules that have not been deleted. -/
structure Shutdown where
  state : ServerState
  netEventModles : List Nat
  modles : List Nat
  hasNetEventModleMgr : Bool
  bAcceptThreadFlag : Bool
  bWorkThreadFlag : Nat × Nat → Bool
  owners : CritSec → Option Thread
  accept : AcceptStage
  workers : Nat × Nat → Worker
  heartbeat : HeartbeatStage
  fini : FiniStage

/-- What happens in a step, with the results of the system calls in it. -/
inductive ShutdownInput
  | next
  | wait (count : Nat)
  | accept
      (nAcceptSock : Int)
      (garbage : SessionGarbage)
      (address : Nat)
      (now : Int)
  | fetch (reports : List (Int × EpollEvents))
  | handle (write : WriteResult) (sendCtl : Bool)
  | receive (turns : List RecvTurn)
  | visit (now : Int)
  | done (addCtl modCtl delCtl : Bool)

/-- The modules a module manager is initialised with. -/
def AcceptSession.modles (acceptSession : AcceptSession) : List Nat :=
  List.range acceptSession.nEventModleCount.toNat

/-- A server before its first connection. -/
def Shutdown.initial
    (acceptSession : AcceptSession)
    (nThreadCount : Nat)
    (memory : SessionId → TcpSession)
    (bIsHeartbeat : Bool) : Shutdown where
  state := .initial memory bIsHeartbeat
  netEventModles := acceptSession.modles
  modles := acceptSession.modles
  hasNetEventModleMgr := true
  bAcceptThreadFlag := true
  bWorkThreadFlag := fun _ => true
  owners := fun _ => none
  accept := .loop
  workers := fun worker =>
    { stage :=
        if worker.1 ∈ acceptSession.modles ∧ worker.2 < nThreadCount then .loop
        else .stopped
      bFlag := false
      batch := [] }
  heartbeat := .loop
  fini := .running

namespace Shutdown

/-- `NetEventModleMgr_FindModle` under its lock. -/
def lookup
    (shutdown : Shutdown)
    (nNetEventModleIndex : Int) : Option Nat :=
  shutdown.netEventModles.find? fun modle =>
    decide ((modle : Int) = nNetEventModleIndex)

/-- Change the session manager. -/
def setMgr (shutdown : Shutdown) (mgr : TcpSessionMgr) : Shutdown :=
  { shutdown with state := { shutdown.state with mgr := mgr } }

/-- Some calls to get rid of a session. -/
def tearDown
    (shutdown : Shutdown)
    (modle : Nat)
    (session : SessionId)
    (delCtl : Bool)
    (calls : List Teardown) : Shutdown :=
  { shutdown with
    state := (shutdown.state.teardownAll modle session delCtl calls).1 }

/-! ## The accept thread -/

/-- `accept` has returned a socket. -/
def acceptedSocket
    (shutdown : Shutdown)
    (nAcceptSock : Int)
    (object : TcpSession)
    (count : Nat) : Shutdown :=
  if nAcceptSock ≤ 0 then { shutdown with accept := .events count }
  else
    { shutdown with
      state := shutdown.state.construct nAcceptSock object
      accept := .findModle nAcceptSock shutdown.state.constructed count }

/-- A module has been looked for. -/
def boundSession
    (acceptSession : AcceptSession)
    (shutdown : Shutdown)
    (nAcceptSock : Int)
    (session : SessionId)
    (count : Nat) : Shutdown :=
  match shutdown.lookup (acceptSession.netEventModleIndex shutdown.state) with
  | none =>
      { shutdown.tearDown 0 session false [.delete] with
        accept := .events count }
  | some modle =>
      let initialised := (shutdown.state.memory session).init
        (acceptSession.arguments nAcceptSock)
      let state := (shutdown.state.bind session modle).act modle session
        initialised.1 initialised.2.1
      if initialised.2.2 < 0 then
        { { shutdown with state := state }.tearDown modle session false
            [.delete] with
          accept := .events count }
      else
        { shutdown with
          state := state
          accept := .addSession modle nAcceptSock session count }

/-- `NetEventModleEpoll_AddEvent` and `TcpSession_IORecv` for a new session. -/
def registerSession
    (shutdown : Shutdown)
    (modle : Nat)
    (nAcceptSock : Int)
    (session : SessionId)
    (count : Nat)
    (addCtl modCtl delCtl : Bool) : Shutdown :=
  let object := shutdown.state.memory session
  let added := object.addEvent addCtl
  let state := shutdown.state.act modle session object added.1
  if added.2 < 0 then
    { shutdown with
      state := state
      accept := .delSession modle nAcceptSock session count }
  else
    let posted := object.postRecv modCtl
    let state := state.act modle session object posted.1
    if posted.2 < 0 then
      { { shutdown with state := state }.tearDown modle session delCtl
          [.delEvent] with
        accept := .delSession modle nAcceptSock session count }
    else
      { shutdown with state := state, accept := .events count }

/-- A step of the accept thread. -/
def acceptMove
    (acceptSession : AcceptSession)
    (shutdown : Shutdown) :
    AcceptStage → ShutdownInput → Option (Shutdown × LockAct CritSec)
  | .loop, .next =>
      some ({ shutdown with
        accept :=
          if shutdown.bAcceptThreadFlag then .waiting else .stopped }, .keep)
  | .waiting, .wait count =>
      some ({ shutdown with accept := .events count }, .keep)
  | .events 0, .next => some ({ shutdown with accept := .loop }, .keep)
  | .events (count + 1), .accept nAcceptSock garbage address now =>
      some (shutdown.acceptedSocket nAcceptSock
        (TcpSession.construct garbage address now) count, .keep)
  | .findModle nAcceptSock session count, .next =>
      some ({ shutdown with
        accept := .inFindModle nAcceptSock session count },
        .acquire .netEventModleLock)
  | .inFindModle nAcceptSock session count, .next =>
      some (boundSession acceptSession shutdown nAcceptSock session count,
        .release .netEventModleLock)
  | .addSession modle nAcceptSock session count, .next =>
      some ({ shutdown with
        accept := .inAddSession modle nAcceptSock session count },
        .acquire .tcpSessionMgrLock)
  | .inAddSession modle nAcceptSock session count, .next =>
      some ({ shutdown with
        state := shutdown.state.addSession session
        accept := .register modle nAcceptSock session count },
        .release .tcpSessionMgrLock)
  | .register modle nAcceptSock session count, .done addCtl modCtl delCtl =>
      some (shutdown.registerSession modle nAcceptSock session count addCtl
        modCtl delCtl, .keep)
  | .delSession modle nAcceptSock session count, .next =>
      some ({ shutdown with
        accept := .inDelSession modle nAcceptSock session count },
        .acquire .tcpSessionMgrLock)
  | .inDelSession modle nAcceptSock session count, .next =>
      some ({ shutdown.tearDown modle session false
          [.delSession nAcceptSock, .fini, .delete] with
        accept := .events count }, .release .tcpSessionMgrLock)
  | _, _ => none

/-! ## The workers -/

/-- Change a worker. -/
def setWorker
    (shutdown : Shutdown)
    (worker : Nat × Nat)
    (own : Worker) : Shutdown :=
  { shutdown with workers := Function.update shutdown.workers worker own }

/-- `epoll_wait` fetches events one after another. -/
def fetchAll
    (modle : Nat) :
    Kernel → List (Int × EpollEvents) →
      Option (Kernel × List (SessionId × EpollEvent))
  | kernel, [] => some (kernel, [])
  | kernel, (nSocket, mask) :: reports =>
      match kernel.fetch modle nSocket mask with
      | none => none
      | some (session, event, kernel) =>
          (fetchAll modle kernel reports).map fun fetched =>
            (fetched.1, (session, event) :: fetched.2)

/-- What a worker does first with an event. -/
def handled
    (shutdown : Shutdown)
    (worker : Nat × Nat)
    (own : Worker)
    (session : SessionId)
    (event : EpollEvent)
    (batch : List (SessionId × EpollEvent))
    (write : WriteResult)
    (sendCtl : Bool) : Shutdown :=
  let own := { own with batch := batch }
  if event.events.skipped then shutdown.setWorker worker own
  else if event.events.epollOut then
    let own := { own with bFlag := false }
    if event.ptr = 0 then shutdown.setWorker worker own
    else
      let sent :=
        (shutdown.state.memory session).ioSendQueued write sendCtl
      let state := shutdown.state.act (shutdown.state.bound session) session
        sent.1 sent.2.1
      let stage : WorkerStage :=
        if sent.2.2 < 0 then .delSession session event.fd
        else if event.events.epollIn then .receive session event
        else .events
      { shutdown with state := state }.setWorker worker
        { own with stage := stage }
  else if event.events.epollIn = false ∨ event.ptr = 0 then
    shutdown.setWorker worker own
  else
    shutdown.setWorker worker { own with stage := .receive session event }

/-- `TcpSession_IORecv` has returned. -/
def received
    (shutdown : Shutdown)
    (worker : Nat × Nat)
    (own : Worker)
    (session : SessionId)
    (event : EpollEvent)
    (turns : List RecvTurn) : Option Shutdown :=
  let call := (shutdown.state.memory session).ioRecv turns
  let state := shutdown.state.act (shutdown.state.bound session) session
    call.session call.events
  match call.result with
  | .returned nRet =>
      let stage : WorkerStage :=
        if nRet < 0 then .delSession session event.fd else .events
      some ({ shutdown with state := state }.setWorker worker
        { own with stage := stage })
  | _ => none

/-- `TcpSessionMgr_DelSession` by a worker, and what follows from its result. -/
def delFailed
    (shutdown : Shutdown)
    (worker : Nat × Nat)
    (own : Worker)
    (session : SessionId)
    (nSock : Int) : Shutdown :=
  let removed := shutdown.state.mgr.delSession nSock
  let calls : List Teardown :=
    if removed.2 < 0 then if own.bFlag then [.delete] else []
    else [.delEvent, .fini, .delete]
  (shutdown.setMgr removed.1).setWorker worker
    { own with
      stage := .tearDown session calls
      bFlag := if removed.2 < 0 then own.bFlag else true }

/-- A step of a worker. -/
def workerMove
    (shutdown : Shutdown)
    (worker : Nat × Nat)
    (own : Worker) :
    WorkerStage → ShutdownInput → Option (Shutdown × LockAct CritSec)
  | .loop, .next =>
      let stage : WorkerStage :=
        if shutdown.bWorkThreadFlag worker then .waiting else .stopped
      some (shutdown.setWorker worker { own with stage := stage }, .keep)
  | .waiting, .fetch reports =>
      match fetchAll worker.1 shutdown.state.kernel reports with
      | none => none
      | some (kernel, batch) =>
          some ({ shutdown with
              state := { shutdown.state with kernel := kernel } }.setWorker
            worker { own with stage := .events, batch := batch }, .keep)
  | .events, .handle write sendCtl =>
      match own.batch with
      | [] => some (shutdown.setWorker worker { own with stage := .loop }, .keep)
      | (session, event) :: batch =>
          some (shutdown.handled worker own session event batch write sendCtl,
            .keep)
  | .receive session event, .receive turns =>
      (shutdown.received worker own session event turns).map fun shutdown =>
        (shutdown, .keep)
  | .delSession session nSock, .next =>
      some (shutdown.setWorker worker
        { own with stage := .inDelSession session nSock },
        .acquire .tcpSessionMgrLock)
  | .inDelSession session nSock, .next =>
      some (shutdown.delFailed worker own session nSock,
        .release .tcpSessionMgrLock)
  | .tearDown session calls, .done _ _ delCtl =>
      some ((shutdown.tearDown worker.1 session delCtl calls).setWorker worker
        { own with stage := .events }, .keep)
  | _, _ => none

/-! ## The heartbeat thread -/

/-- The sweep looks at a session. -/
def visited
    (shutdown : Shutdown)
    (nSocket : Int)
    (sockets : List Int)
    (now : Int) : Shutdown :=
  match shutdown.state.mgr.findSession nSocket with
  | none => { shutdown with heartbeat := .sweep sockets }
  | some session =>
      if (shutdown.state.memory session).isHeartbeatTimeOut now then
        { shutdown.setMgr (shutdown.state.mgr.delSession nSocket).1 with
          heartbeat := .findModle session sockets }
      else { shutdown with heartbeat := .sweep sockets }

/-- A step of the heartbeat thread. A call through a null pointer or on a
deleted module is taken to change nothing. -/
def heartbeatMove
    (shutdown : Shutdown) :
    HeartbeatStage → ShutdownInput → Option (Shutdown × LockAct CritSec)
  | .loop, .next =>
      some ({ shutdown with
        heartbeat :=
          if shutdown.state.mgr.bIsHeartbeat then .sleeping else .stopped },
        .keep)
  | .sleeping, .next =>
      some ({ shutdown with heartbeat := .enterSection }, .keep)
  | .enterSection, .next =>
      some ({ shutdown with heartbeat := .sweep shutdown.state.mgr.sockets },
        .acquire .tcpSessionMgrLock)
  | .sweep [], .next =>
      some ({ shutdown with heartbeat := .loop }, .release .tcpSessionMgrLock)
  | .sweep (nSocket :: sockets), .visit now =>
      some (shutdown.visited nSocket sockets now, .keep)
  | .findModle session sockets, .next =>
      some ({ shutdown with heartbeat := .inFindModle session sockets },
        .acquire .netEventModleLock)
  | .inFindModle session sockets, .next =>
      let found :=
        shutdown.lookup (shutdown.state.memory session).nEventModleIndex
      some ({ shutdown with heartbeat := .delEvent session found sockets },
        .release .netEventModleLock)
  | .delEvent session found sockets, .done _ _ delCtl =>
      let shutdown :=
        match found with
        | none => shutdown
        | some modle =>
            if modle ∈ shutdown.modles then
              shutdown.tearDown modle session delCtl [.delEvent]
            else shutdown
      some ({ shutdown with heartbeat := .finiSession session sockets }, .keep)
  | .finiSession session sockets, .next =>
      some ({ shutdown.tearDown 0 session false [.fini, .delete] with
        heartbeat := .sweep sockets }, .keep)
  | _, _ => none

/-! ## `AcceptSession_Fini` -/

/-- The loop of `NetEventModleEpoll_Fini` over its threads, and behind it the end
of the module. -/
def finiWorker
    (nThreadCount : Nat)
    (shutdown : Shutdown)
    (modle number : Nat)
    (modles : List Nat) : Shutdown :=
  if number < nThreadCount then
    if shutdown.bWorkThreadFlag (modle, number) then
      { shutdown with
        bWorkThreadFlag :=
          Function.update shutdown.bWorkThreadFlag (modle, number) false
        fini := .joinWorker modle number modles }
    else { shutdown with fini := .finiWorkers modle (number + 1) modles }
  else
    { shutdown with
      modles := shutdown.modles.erase modle
      fini := .finiModles modles }

/-- A thread has ended. -/
def Stopped (shutdown : Shutdown) (thread : Thread) : Prop :=
  match thread with
  | .accept => shutdown.accept = .stopped
  | .worker modle number => (shutdown.workers (modle, number)).stage = .stopped
  | .heartbeat => shutdown.heartbeat = .stopped
  | .application _ | .stop => False

instance (shutdown : Shutdown) (thread : Thread) :
    Decidable (shutdown.Stopped thread) :=
  match thread with
  | .accept => inferInstanceAs (Decidable (shutdown.accept = .stopped))
  | .worker modle number => inferInstanceAs
      (Decidable ((shutdown.workers (modle, number)).stage = .stopped))
  | .heartbeat => inferInstanceAs (Decidable (shutdown.heartbeat = .stopped))
  | .application _ | .stop => inferInstanceAs (Decidable False)

/-- `pthread_join` returns when the thread has ended. -/
def joined
    (shutdown : Shutdown)
    (thread : Thread)
    (next : FiniStage) : Option (Shutdown × LockAct CritSec) :=
  if shutdown.Stopped thread then
    some ({ shutdown with fini := next }, .keep)
  else none

/-- The loop of `TcpSessionMgr_Fini` over the sessions. -/
def finiSession
    (shutdown : Shutdown)
    (nSocket : Int)
    (sockets : List Int) : Shutdown :=
  match shutdown.state.mgr.findSession nSocket with
  | none => { shutdown with fini := .finiSessions sockets }
  | some session =>
      { shutdown.tearDown 0 session false [.fini, .delete] with
        fini := .finiSessions sockets }

/-- A step of the thread that stops the server. -/
def finiMove
    (nThreadCount : Nat)
    (shutdown : Shutdown) :
    FiniStage → ShutdownInput → Option (Shutdown × LockAct CritSec)
  | .running, .next =>
      some ({ shutdown with bAcceptThreadFlag := false, fini := .joinAccept },
        .keep)
  | .joinAccept, .next => shutdown.joined .accept .enterModleMgr
  | .enterModleMgr, .next =>
      some ({ shutdown with fini := .finiModles shutdown.netEventModles },
        .acquire .netEventModleLock)
  | .finiModles (modle :: modles), .next =>
      some ({ shutdown with fini := .finiWorkers modle 0 modles }, .keep)
  | .finiWorkers modle number modles, .next =>
      some (finiWorker nThreadCount shutdown modle number modles, .keep)
  | .joinWorker modle number modles, .next =>
      shutdown.joined (.worker modle number)
        (.finiWorkers modle (number + 1) modles)
  | .finiModles [], .next =>
      some ({ shutdown with netEventModles := [], fini := .deleteModleMgr },
        .release .netEventModleLock)
  | .deleteModleMgr, .next =>
      some ({ shutdown with fini := .inDeleteModleMgr },
        .acquire .netEventModleLock)
  | .inDeleteModleMgr, .next =>
      some ({ shutdown with
        hasNetEventModleMgr := false
        fini := .finiSessionMgr }, .release .netEventModleLock)
  | .finiSessionMgr, .next =>
      let fini : FiniStage :=
        if shutdown.state.mgr.bIsHeartbeat then .joinHeartbeat
        else .enterSessionMgr
      some ({ shutdown.setMgr
          { shutdown.state.mgr with bIsHeartbeat := false } with
        fini := fini }, .keep)
  | .joinHeartbeat, .next => shutdown.joined .heartbeat .enterSessionMgr
  | .enterSessionMgr, .next =>
      some ({ shutdown with
        fini := .finiSessions shutdown.state.mgr.sockets },
        .acquire .tcpSessionMgrLock)
  | .finiSessions (nSocket :: sockets), .next =>
      some (shutdown.finiSession nSocket sockets, .keep)
  | .finiSessions [], .next =>
      some ({ shutdown.setMgr { shutdown.state.mgr with tcpSessions := ∅ } with
        fini := .deleteSessionMgr }, .release .tcpSessionMgrLock)
  | .deleteSessionMgr, .next => some ({ shutdown with fini := .done }, .keep)
  | _, _ => none

/-! ## All threads -/

/-- What a thread does next, and its action on the locks. -/
def move
    (acceptSession : AcceptSession)
    (nThreadCount : Nat)
    (shutdown : Shutdown)
    (thread : Thread)
    (input : ShutdownInput) : Option (Shutdown × LockAct CritSec) :=
  match thread with
  | .accept => acceptMove acceptSession shutdown shutdown.accept input
  | .worker modle number =>
      let own := shutdown.workers (modle, number)
      shutdown.workerMove (modle, number) own own.stage input
  | .heartbeat => shutdown.heartbeatMove shutdown.heartbeat input
  | .application _ => none
  | .stop => finiMove nThreadCount shutdown shutdown.fini input

/-- One step of one thread. -/
def step
    (acceptSession : AcceptSession)
    (nThreadCount : Nat)
    (shutdown : Shutdown)
    (label : Thread × ShutdownInput) : Option Shutdown :=
  match move acceptSession nThreadCount shutdown label.1 label.2 with
  | none => none
  | some (next, act) =>
      (act.apply shutdown.owners label.1).map fun owners =>
        { next with owners := owners }

end Shutdown

/-! ## What the threads hold and want -/

/-- The locks the accept thread holds. -/
def AcceptStage.held : AcceptStage → List CritSec
  | .inFindModle _ _ _ => [.netEventModleLock]
  | .inAddSession _ _ _ _ | .inDelSession _ _ _ _ => [.tcpSessionMgrLock]
  | _ => []

/-- The lock the accept thread needs for its next step. -/
def AcceptStage.wants : AcceptStage → Option (Want CritSec Thread)
  | .findModle _ _ _ => some (.lock .netEventModleLock)
  | .addSession _ _ _ _ | .delSession _ _ _ _ =>
      some (.lock .tcpSessionMgrLock)
  | _ => none

/-- The locks a worker holds. -/
def WorkerStage.held : WorkerStage → List CritSec
  | .inDelSession _ _ => [.tcpSessionMgrLock]
  | _ => []

/-- The lock a worker needs for its next step. -/
def WorkerStage.wants : WorkerStage → Option (Want CritSec Thread)
  | .delSession _ _ => some (.lock .tcpSessionMgrLock)
  | _ => none

/-- The locks the heartbeat thread holds: a sweep holds the lock of the session
manager to its end. -/
def HeartbeatStage.held : HeartbeatStage → List CritSec
  | .sweep _ | .findModle _ _ | .delEvent _ _ _ | .finiSession _ _ =>
      [.tcpSessionMgrLock]
  | .inFindModle _ _ => [.netEventModleLock, .tcpSessionMgrLock]
  | _ => []

/-- The lock the heartbeat thread needs for its next step. -/
def HeartbeatStage.wants : HeartbeatStage → Option (Want CritSec Thread)
  | .enterSection => some (.lock .tcpSessionMgrLock)
  | .findModle _ _ => some (.lock .netEventModleLock)
  | _ => none

/-- The locks `AcceptSession_Fini` holds: `NetEventModleMgr_Fini` holds that of
the module manager to its end, and so does the destructor of the manager. -/
def FiniStage.held : FiniStage → List CritSec
  | .finiModles _ | .finiWorkers _ _ _ | .joinWorker _ _ _
  | .inDeleteModleMgr =>
      [.netEventModleLock]
  | .finiSessions _ => [.tcpSessionMgrLock]
  | _ => []

/-- The lock or the end of a thread `AcceptSession_Fini` needs for its next
step. -/
def FiniStage.wants : FiniStage → Option (Want CritSec Thread)
  | .joinAccept => some (.join .accept)
  | .enterModleMgr | .deleteModleMgr => some (.lock .netEventModleLock)
  | .joinWorker modle number _ => some (.join (.worker modle number))
  | .joinHeartbeat => some (.join .heartbeat)
  | .enterSessionMgr => some (.lock .tcpSessionMgrLock)
  | _ => none

namespace Shutdown

/-- The locks a thread holds. -/
def held (shutdown : Shutdown) (thread : Thread) : List CritSec :=
  match thread with
  | .accept => shutdown.accept.held
  | .worker modle number => (shutdown.workers (modle, number)).stage.held
  | .heartbeat => shutdown.heartbeat.held
  | .application _ => []
  | .stop => shutdown.fini.held

/-- What a thread needs for its next step. -/
def wants (shutdown : Shutdown) (thread : Thread) :
    Option (Want CritSec Thread) :=
  match thread with
  | .accept => shutdown.accept.wants
  | .worker modle number => (shutdown.workers (modle, number)).stage.wants
  | .heartbeat => shutdown.heartbeat.wants
  | .application _ => none
  | .stop => shutdown.fini.wants

/-- Who waits for whom. -/
def waiting (shutdown : Shutdown) : Waiting CritSec Thread where
  owners := shutdown.owners
  wants := shutdown.wants
  Stopped := shutdown.Stopped

/-- A connection is accepted. -/
def connectRun : List (Thread × ShutdownInput) :=
  [(.accept, .next), (.accept, .wait 1),
    (.accept, .accept 7 ⟨false, false, 0, 0⟩ 4096 0), (.accept, .next),
    (.accept, .next), (.accept, .next), (.accept, .next),
    (.accept, .done true true true), (.accept, .next)]

end Shutdown

end TransPortEngine
