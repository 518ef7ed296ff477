import TransPortEngine.Server.Shutdown

/-!
# The moves of a stopping server, case by case

What the accept thread, a worker, the heartbeat thread and `AcceptSession_Fini`
can do from where they are, with what the code has checked before it does it.
-/

namespace TransPortEngine

open Locks MachineInt

namespace Shutdown

variable {shutdown next : Shutdown} {input : ShutdownInput} {act : LockAct CritSec}

/-- What the accept thread can do. -/
inductive AcceptMove
    (acceptSession : AcceptSession)
    (shutdown : Shutdown) :
    AcceptStage → ShutdownInput → Shutdown → LockAct CritSec → Prop
  | looks :
      AcceptMove acceptSession shutdown .loop .next
        { shutdown with
          accept := if shutdown.bAcceptThreadFlag then .waiting else .stopped }
        .keep
  | wakes (count : Nat) :
      AcceptMove acceptSession shutdown .waiting (.wait count)
        { shutdown with accept := .events count } .keep
  | endsEvents :
      AcceptMove acceptSession shutdown (.events 0) .next
        { shutdown with accept := .loop } .keep
  | accepts
      (count : Nat)
      (nAcceptSock : Int)
      (garbage : SessionGarbage)
      (address : Nat)
      (now : Int) :
      AcceptMove acceptSession shutdown (.events (count + 1))
        (.accept nAcceptSock garbage address now)
        (shutdown.acceptedSocket nAcceptSock
          (TcpSession.construct garbage address now) count)
        .keep
  | entersModles (nAcceptSock : Int) (session : SessionId) (count : Nat) :
      AcceptMove acceptSession shutdown (.findModle nAcceptSock session count)
        .next
        { shutdown with accept := .inFindModle nAcceptSock session count }
        (.acquire .netEventModleLock)
  | binds (nAcceptSock : Int) (session : SessionId) (count : Nat) :
      AcceptMove acceptSession shutdown (.inFindModle nAcceptSock session count)
        .next
        (boundSession acceptSession shutdown nAcceptSock session count)
        (.release .netEventModleLock)
  | entersSessions
      (modle : Nat)
      (nAcceptSock : Int)
      (session : SessionId)
      (count : Nat) :
      AcceptMove acceptSession shutdown
        (.addSession modle nAcceptSock session count) .next
        { shutdown with accept := .inAddSession modle nAcceptSock session count }
        (.acquire .tcpSessionMgrLock)
  | adds
      (modle : Nat)
      (nAcceptSock : Int)
      (session : SessionId)
      (count : Nat) :
      AcceptMove acceptSession shutdown
        (.inAddSession modle nAcceptSock session count) .next
        { shutdown with
          state := shutdown.state.addSession session
          accept := .register modle nAcceptSock session count }
        (.release .tcpSessionMgrLock)
  | registers
      (modle : Nat)
      (nAcceptSock : Int)
      (session : SessionId)
      (count : Nat)
      (addCtl modCtl delCtl : Bool) :
      AcceptMove acceptSession shutdown
        (.register modle nAcceptSock session count) (.done addCtl modCtl delCtl)
        (shutdown.registerSession modle nAcceptSock session count addCtl modCtl
          delCtl)
        .keep
  | entersRemoval
      (modle : Nat)
      (nAcceptSock : Int)
      (session : SessionId)
      (count : Nat) :
      AcceptMove acceptSession shutdown
        (.delSession modle nAcceptSock session count) .next
        { shutdown with accept := .inDelSession modle nAcceptSock session count }
        (.acquire .tcpSessionMgrLock)
  | removes
      (modle : Nat)
      (nAcceptSock : Int)
      (session : SessionId)
      (count : Nat) :
      AcceptMove acceptSession shutdown
        (.inDelSession modle nAcceptSock session count) .next
        { shutdown.tearDown modle session false
            [.delSession nAcceptSock, .fini, .delete] with
          accept := .events count }
        (.release .tcpSessionMgrLock)

theorem acceptMove_cases
    {acceptSession : AcceptSession}
    {stage : AcceptStage}
    (moved : acceptMove acceptSession shutdown stage input = some (next, act)) :
    AcceptMove acceptSession shutdown stage input next act := by
  unfold acceptMove at moved
  split at moved
  case h_12 => contradiction
  all_goals
    obtain ⟨rfl, rfl⟩ := Prod.mk.inj (Option.some.inj moved)
    constructor

/-- A worker goes on at once, or sends from the queue of the session. -/
theorem handled_cases
    (shutdown : Shutdown)
    (worker : Nat × Nat)
    (own : Worker)
    (session : SessionId)
    (event : EpollEvent)
    (batch : List (SessionId × EpollEvent))
    (write : WriteResult)
    (sendCtl : Bool) :
    let sent := (shutdown.state.memory session).ioSendQueued write sendCtl
    let sends := event.events.skipped = false ∧
      event.events.epollOut = true ∧ event.ptr ≠ 0
    (¬sends ∧ ∃ next,
      shutdown.handled worker own session event batch write sendCtl =
          shutdown.setWorker worker next ∧
        (next.stage = own.stage ∨ next.stage = .receive session event)) ∨
      (sends ∧ ∃ next,
        shutdown.handled worker own session event batch write sendCtl =
            { shutdown with
              state := shutdown.state.act (shutdown.state.bound session)
                session sent.1 sent.2.1 }.setWorker worker next ∧
          next.stage =
            if sent.2.2 < 0 then .delSession session event.fd
            else if event.events.epollIn then .receive session event
            else .events) := by
  intro sent sends
  unfold handled
  dsimp only
  split
  · rename_i skipped
    refine Or.inl ⟨fun handles => ?_, _, rfl, Or.inl rfl⟩
    exact absurd (handles.1.symm.trans skipped) (by decide)
  · rename_i handles
    split
    · rename_i output
      split
      · rename_i null
        exact Or.inl ⟨fun pointed => pointed.2.2 null, _, rfl, Or.inl rfl⟩
      · rename_i pointed
        exact Or.inr ⟨⟨Bool.eq_false_iff.mpr handles, output, pointed⟩, _, rfl,
          rfl⟩
    · rename_i noOutput
      split
      · exact Or.inl ⟨fun writes => noOutput writes.2.1, _, rfl, Or.inl rfl⟩
      · exact Or.inl ⟨fun writes => noOutput writes.2.1, _, rfl, Or.inr rfl⟩

/-- A worker goes on by the result of `TcpSession_IORecv`. -/
theorem received_eq_some
    {shutdown next : Shutdown}
    {worker : Nat × Nat}
    {own : Worker}
    {session : SessionId}
    {event : EpollEvent}
    {turns : List RecvTurn}
    (moved : shutdown.received worker own session event turns = some next) :
    ∃ nRet,
      ((shutdown.state.memory session).ioRecv turns).result = .returned nRet ∧
        next = { shutdown with
            state := shutdown.state.act (shutdown.state.bound session) session
              ((shutdown.state.memory session).ioRecv turns).session
              ((shutdown.state.memory session).ioRecv turns).events }.setWorker
          worker { own with
            stage :=
              if nRet < 0 then .delSession session event.fd else .events } := by
  simp only [received] at moved
  split at moved
  · rename_i nRet result
    exact ⟨nRet, result, (Option.some.inj moved).symm⟩
  · contradiction

/-- What a worker can do. -/
inductive WorkerMove
    (shutdown : Shutdown)
    (worker : Nat × Nat)
    (own : Worker) :
    WorkerStage → ShutdownInput → Shutdown → LockAct CritSec → Prop
  | looks :
      WorkerMove shutdown worker own .loop .next
        (shutdown.setWorker worker
          { own with
            stage :=
              if shutdown.bWorkThreadFlag worker then .waiting else .stopped })
        .keep
  | fetches
      (reports : List (Int × EpollEvents))
      (kernel : Kernel)
      (batch : List (SessionId × EpollEvent))
      (fetched : fetchAll worker.1 shutdown.state.kernel reports =
        some (kernel, batch)) :
      WorkerMove shutdown worker own .waiting (.fetch reports)
        ({ shutdown with
          state := { shutdown.state with kernel := kernel } }.setWorker worker
            { own with stage := .events, batch := batch })
        .keep
  | endsEvents
      (write : WriteResult)
      (sendCtl : Bool)
      (isEmpty : own.batch = []) :
      WorkerMove shutdown worker own .events (.handle write sendCtl)
        (shutdown.setWorker worker { own with stage := .loop }) .keep
  | handles
      (session : SessionId)
      (event : EpollEvent)
      (batch : List (SessionId × EpollEvent))
      (write : WriteResult)
      (sendCtl : Bool)
      (isFirst : own.batch = (session, event) :: batch) :
      WorkerMove shutdown worker own .events (.handle write sendCtl)
        (shutdown.handled worker own session event batch write sendCtl) .keep
  | receives
      (session : SessionId)
      (event : EpollEvent)
      (turns : List RecvTurn)
      (next : Shutdown)
      (received : shutdown.received worker own session event turns = some next) :
      WorkerMove shutdown worker own (.receive session event) (.receive turns)
        next .keep
  | entersRemoval (session : SessionId) (nSock : Int) :
      WorkerMove shutdown worker own (.delSession session nSock) .next
        (shutdown.setWorker worker
          { own with stage := .inDelSession session nSock })
        (.acquire .tcpSessionMgrLock)
  | removes (session : SessionId) (nSock : Int) :
      WorkerMove shutdown worker own (.inDelSession session nSock) .next
        (shutdown.delFailed worker own session nSock)
        (.release .tcpSessionMgrLock)
  | tearsDown
      (session : SessionId)
      (calls : List Teardown)
      (addCtl modCtl delCtl : Bool) :
      WorkerMove shutdown worker own (.tearDown session calls)
        (.done addCtl modCtl delCtl)
        ((shutdown.tearDown worker.1 session delCtl calls).setWorker worker
          { own with stage := .events })
        .keep

theorem workerMove_cases
    {worker : Nat × Nat}
    {own : Worker}
    {stage : WorkerStage}
    (moved : shutdown.workerMove worker own stage input = some (next, act)) :
    WorkerMove shutdown worker own stage input next act := by
  unfold workerMove at moved
  split at moved
  case h_8 => contradiction
  case h_2 reports =>
    split at moved
    · contradiction
    · rename_i kernel batch fetched
      obtain ⟨rfl, rfl⟩ := Prod.mk.inj (Option.some.inj moved)
      exact .fetches reports kernel batch fetched
  case h_3 write sendCtl =>
    split at moved
    · rename_i isEmpty
      obtain ⟨rfl, rfl⟩ := Prod.mk.inj (Option.some.inj moved)
      exact .endsEvents write sendCtl isEmpty
    · rename_i session event batch isFirst
      obtain ⟨rfl, rfl⟩ := Prod.mk.inj (Option.some.inj moved)
      exact .handles session event batch write sendCtl isFirst
  case h_4 session event turns =>
    obtain ⟨received, isReceived, same⟩ := Option.map_eq_some_iff.mp moved
    obtain ⟨rfl, rfl⟩ := Prod.mk.inj same
    exact .receives session event turns received isReceived
  all_goals
    obtain ⟨rfl, rfl⟩ := Prod.mk.inj (Option.some.inj moved)
    constructor

/-- A visit goes on with the sweep, or evicts a session that has timed out. -/
theorem visited_cases
    (shutdown : Shutdown)
    (nSocket : Int)
    (sockets : List Int)
    (now : Int) :
    shutdown.visited nSocket sockets now =
        { shutdown with heartbeat := .sweep sockets } ∨
      ∃ session, shutdown.state.mgr.findSession nSocket = some session ∧
        (shutdown.state.memory session).isHeartbeatTimeOut now = true ∧
          shutdown.visited nSocket sockets now =
            { shutdown.setMgr (shutdown.state.mgr.delSession nSocket).1 with
              heartbeat := .findModle session sockets } := by
  unfold visited
  split
  · exact Or.inl rfl
  · rename_i session found
    split
    · rename_i timedOut
      exact Or.inr ⟨session, found, timedOut, rfl⟩
    · exact Or.inl rfl

/-- What the heartbeat thread can do. -/
inductive HeartbeatMove (shutdown : Shutdown) :
    HeartbeatStage → ShutdownInput → Shutdown → LockAct CritSec → Prop
  | looks :
      HeartbeatMove shutdown .loop .next
        { shutdown with
          heartbeat :=
            if shutdown.state.mgr.bIsHeartbeat then .sleeping else .stopped }
        .keep
  | wakes :
      HeartbeatMove shutdown .sleeping .next
        { shutdown with heartbeat := .enterSection } .keep
  | entersSessions :
      HeartbeatMove shutdown .enterSection .next
        { shutdown with heartbeat := .sweep shutdown.state.mgr.sockets }
        (.acquire .tcpSessionMgrLock)
  | leavesSessions :
      HeartbeatMove shutdown (.sweep []) .next
        { shutdown with heartbeat := .loop } (.release .tcpSessionMgrLock)
  | visits (nSocket : Int) (sockets : List Int) (now : Int) :
      HeartbeatMove shutdown (.sweep (nSocket :: sockets)) (.visit now)
        (shutdown.visited nSocket sockets now) .keep
  | entersModles (session : SessionId) (sockets : List Int) :
      HeartbeatMove shutdown (.findModle session sockets) .next
        { shutdown with heartbeat := .inFindModle session sockets }
        (.acquire .netEventModleLock)
  | findsModle (session : SessionId) (sockets : List Int) :
      HeartbeatMove shutdown (.inFindModle session sockets) .next
        { shutdown with
          heartbeat := .delEvent session
            (shutdown.lookup (shutdown.state.memory session).nEventModleIndex)
            sockets }
        (.release .netEventModleLock)
  | delsNoEvent
      (session : SessionId)
      (found : Option Nat)
      (sockets : List Int)
      (addCtl modCtl delCtl : Bool)
      (isGone : ∀ modle, found = some modle → modle ∉ shutdown.modles) :
      HeartbeatMove shutdown (.delEvent session found sockets)
        (.done addCtl modCtl delCtl)
        { shutdown with heartbeat := .finiSession session sockets } .keep
  | delsEvent
      (session : SessionId)
      (modle : Nat)
      (sockets : List Int)
      (addCtl modCtl delCtl : Bool)
      (isThere : modle ∈ shutdown.modles) :
      HeartbeatMove shutdown (.delEvent session (some modle) sockets)
        (.done addCtl modCtl delCtl)
        { shutdown.tearDown modle session delCtl [.delEvent] with
          heartbeat := .finiSession session sockets }
        .keep
  | finalises (session : SessionId) (sockets : List Int) :
      HeartbeatMove shutdown (.finiSession session sockets) .next
        { shutdown.tearDown 0 session false [.fini, .delete] with
          heartbeat := .sweep sockets }
        .keep

theorem heartbeatMove_cases
    {stage : HeartbeatStage}
    (moved : shutdown.heartbeatMove stage input = some (next, act)) :
    HeartbeatMove shutdown stage input next act := by
  unfold heartbeatMove at moved
  split at moved
  case h_10 => contradiction
  all_goals obtain ⟨rfl, rfl⟩ := Prod.mk.inj (Option.some.inj moved)
  case h_8 session found sockets addCtl modCtl delCtl =>
    cases found with
    | none =>
        exact .delsNoEvent session none sockets addCtl modCtl delCtl
          fun _ impossible => by contradiction
    | some modle =>
        by_cases isThere : modle ∈ shutdown.modles
        · simp only [isThere, if_true]
          exact .delsEvent session modle sockets addCtl modCtl delCtl isThere
        · simp only [isThere, if_false]
          exact .delsNoEvent session (some modle) sockets addCtl modCtl delCtl
            fun other same => Option.some.inj same ▸ isThere
  all_goals constructor

/-- Only a thread that has ended is joined. -/
theorem joined_eq_some
    {shutdown next : Shutdown}
    {thread : Thread}
    {stage : FiniStage}
    {act : LockAct CritSec}
    (moved : shutdown.joined thread stage = some (next, act)) :
    shutdown.Stopped thread ∧ next = { shutdown with fini := stage } ∧
      act = .keep := by
  unfold joined at moved
  split at moved
  · rename_i stopped
    obtain ⟨rfl, rfl⟩ := Prod.mk.inj (Option.some.inj moved)
    exact ⟨stopped, rfl, rfl⟩
  · contradiction

/-- What `AcceptSession_Fini` can do. -/
inductive FiniMove (nThreadCount : Nat) (shutdown : Shutdown) :
    FiniStage → ShutdownInput → Shutdown → LockAct CritSec → Prop
  | stopsAccept :
      FiniMove nThreadCount shutdown .running .next
        { shutdown with bAcceptThreadFlag := false, fini := .joinAccept } .keep
  | joinsAccept (stopped : shutdown.Stopped .accept) :
      FiniMove nThreadCount shutdown .joinAccept .next
        { shutdown with fini := .enterModleMgr } .keep
  | entersModles :
      FiniMove nThreadCount shutdown .enterModleMgr .next
        { shutdown with fini := .finiModles shutdown.netEventModles }
        (.acquire .netEventModleLock)
  | beginsModle (modle : Nat) (modles : List Nat) :
      FiniMove nThreadCount shutdown (.finiModles (modle :: modles)) .next
        { shutdown with fini := .finiWorkers modle 0 modles } .keep
  | stopsWorker
      (modle number : Nat)
      (modles : List Nat)
      (another : number < nThreadCount)
      (flag : shutdown.bWorkThreadFlag (modle, number) = true) :
      FiniMove nThreadCount shutdown (.finiWorkers modle number modles) .next
        { shutdown with
          bWorkThreadFlag :=
            Function.update shutdown.bWorkThreadFlag (modle, number) false
          fini := .joinWorker modle number modles }
        .keep
  | skipsWorker
      (modle number : Nat)
      (modles : List Nat)
      (another : number < nThreadCount)
      (flag : shutdown.bWorkThreadFlag (modle, number) = false) :
      FiniMove nThreadCount shutdown (.finiWorkers modle number modles) .next
        { shutdown with fini := .finiWorkers modle (number + 1) modles } .keep
  | endsModle
      (modle number : Nat)
      (modles : List Nat)
      (behind : nThreadCount ≤ number) :
      FiniMove nThreadCount shutdown (.finiWorkers modle number modles) .next
        { shutdown with
          modles := shutdown.modles.erase modle
          fini := .finiModles modles }
        .keep
  | joinsWorker
      (modle number : Nat)
      (modles : List Nat)
      (stopped : shutdown.Stopped (.worker modle number)) :
      FiniMove nThreadCount shutdown (.joinWorker modle number modles) .next
        { shutdown with fini := .finiWorkers modle (number + 1) modles } .keep
  | leavesModles :
      FiniMove nThreadCount shutdown (.finiModles []) .next
        { shutdown with netEventModles := [], fini := .deleteModleMgr }
        (.release .netEventModleLock)
  | entersModleMgr :
      FiniMove nThreadCount shutdown .deleteModleMgr .next
        { shutdown with fini := .inDeleteModleMgr } (.acquire .netEventModleLock)
  | deletesModleMgr :
      FiniMove nThreadCount shutdown .inDeleteModleMgr .next
        { shutdown with hasNetEventModleMgr := false, fini := .finiSessionMgr }
        (.release .netEventModleLock)
  | stopsHeartbeat (flag : shutdown.state.mgr.bIsHeartbeat = true) :
      FiniMove nThreadCount shutdown .finiSessionMgr .next
        { shutdown.setMgr { shutdown.state.mgr with bIsHeartbeat := false } with
          fini := .joinHeartbeat }
        .keep
  | noHeartbeat (flag : shutdown.state.mgr.bIsHeartbeat = false) :
      FiniMove nThreadCount shutdown .finiSessionMgr .next
        { shutdown.setMgr { shutdown.state.mgr with bIsHeartbeat := false } with
          fini := .enterSessionMgr }
        .keep
  | joinsHeartbeat (stopped : shutdown.Stopped .heartbeat) :
      FiniMove nThreadCount shutdown .joinHeartbeat .next
        { shutdown with fini := .enterSessionMgr } .keep
  | entersSessions :
      FiniMove nThreadCount shutdown .enterSessionMgr .next
        { shutdown with fini := .finiSessions shutdown.state.mgr.sockets }
        (.acquire .tcpSessionMgrLock)
  | finalises (nSocket : Int) (sockets : List Int) :
      FiniMove nThreadCount shutdown (.finiSessions (nSocket :: sockets)) .next
        (shutdown.finiSession nSocket sockets) .keep
  | leavesSessions :
      FiniMove nThreadCount shutdown (.finiSessions []) .next
        { shutdown.setMgr { shutdown.state.mgr with tcpSessions := ∅ } with
          fini := .deleteSessionMgr }
        (.release .tcpSessionMgrLock)
  | ends :
      FiniMove nThreadCount shutdown .deleteSessionMgr .next
        { shutdown with fini := .done } .keep

theorem finiMove_cases
    {nThreadCount : Nat}
    {stage : FiniStage}
    (moved : finiMove nThreadCount shutdown stage input = some (next, act)) :
    FiniMove nThreadCount shutdown stage input next act := by
  unfold finiMove at moved
  split at moved
  case h_16 => contradiction
  case h_2 =>
    obtain ⟨stopped, rfl, rfl⟩ := joined_eq_some moved
    exact .joinsAccept stopped
  case h_6 modle number modles =>
    obtain ⟨stopped, rfl, rfl⟩ := joined_eq_some moved
    exact .joinsWorker modle number modles stopped
  case h_11 =>
    obtain ⟨stopped, rfl, rfl⟩ := joined_eq_some moved
    exact .joinsHeartbeat stopped
  all_goals obtain ⟨rfl, rfl⟩ := Prod.mk.inj (Option.some.inj moved)
  case h_5 modle number modles =>
    unfold finiWorker
    split
    · rename_i another
      split
      · rename_i flag
        exact .stopsWorker modle number modles another flag
      · rename_i flag
        exact .skipsWorker modle number modles another
          (Bool.eq_false_iff.mpr flag)
    · rename_i behind
      exact .endsModle modle number modles (Nat.le_of_not_lt behind)
  case h_10 =>
    cases flag : shutdown.state.mgr.bIsHeartbeat with
    | true => exact .stopsHeartbeat flag
    | false => exact .noHeartbeat flag
  all_goals constructor

end Shutdown

end TransPortEngine
