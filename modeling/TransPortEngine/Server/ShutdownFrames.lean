import TransPortEngine.Server.ShutdownMoves

/-!
# What a step of a stopping server leaves alone

Every thread moves itself only, follows its action on the locks, and comes to
the places where threads wait for each other in one way.
-/

namespace TransPortEngine

open Locks MachineInt

/-- The accept thread has been joined. -/
def FiniStage.pastAccept : FiniStage → Bool
  | .running | .joinAccept => false
  | _ => true

/-- `NetEventModleMgr_Fini` has taken `m_NetEventModleLock`. -/
def FiniStage.finisModles : FiniStage → Bool
  | .finiModles _ | .finiWorkers _ _ _ | .joinWorker _ _ _ => true
  | _ => false

namespace Shutdown

/-- The modules, their manager and the owners of the locks are as before. -/
structure SameModles (shutdown next : Shutdown) : Prop where
  netEventModles : next.netEventModles = shutdown.netEventModles
  modles : next.modles = shutdown.modles
  hasNetEventModleMgr :
    next.hasNetEventModleMgr = shutdown.hasNetEventModleMgr
  owners : next.owners = shutdown.owners

/-! ## The accept thread -/

/-- Only the accept thread has moved. -/
structure OnlyAccept (shutdown next : Shutdown) : Prop
    extends SameModles shutdown next where
  workers : next.workers = shutdown.workers
  heartbeat : next.heartbeat = shutdown.heartbeat
  fini : next.fini = shutdown.fini

theorem onlyAccept
    (shutdown : Shutdown)
    (state : ServerState)
    (stage : AcceptStage) :
    OnlyAccept shutdown { shutdown with state := state, accept := stage } :=
  ⟨⟨rfl, rfl, rfl, rfl⟩, rfl, rfl, rfl⟩

theorem acceptedSocket_frame
    (shutdown : Shutdown)
    (nAcceptSock : Int)
    (object : TcpSession)
    (count : Nat) :
    let next := shutdown.acceptedSocket nAcceptSock object count
    next.accept.held = [] ∧ OnlyAccept shutdown next := by
  unfold acceptedSocket
  split
  · exact ⟨rfl, shutdown.onlyAccept _ _⟩
  · exact ⟨rfl, shutdown.onlyAccept _ _⟩

theorem boundSession_frame
    (acceptSession : AcceptSession)
    (shutdown : Shutdown)
    (nAcceptSock : Int)
    (session : SessionId)
    (count : Nat) :
    let next := boundSession acceptSession shutdown nAcceptSock session count
    next.accept.held = [] ∧ OnlyAccept shutdown next := by
  unfold boundSession
  split
  · exact ⟨rfl, shutdown.onlyAccept _ _⟩
  · dsimp only
    split
    · exact ⟨rfl, shutdown.onlyAccept _ _⟩
    · exact ⟨rfl, shutdown.onlyAccept _ _⟩

theorem registerSession_frame
    (shutdown : Shutdown)
    (modle : Nat)
    (nAcceptSock : Int)
    (session : SessionId)
    (count : Nat)
    (addCtl modCtl delCtl : Bool) :
    let next := shutdown.registerSession modle nAcceptSock session count addCtl
      modCtl delCtl
    next.accept.held = [] ∧ OnlyAccept shutdown next := by
  unfold registerSession
  dsimp only
  split
  · exact ⟨rfl, shutdown.onlyAccept _ _⟩
  · split
    · exact ⟨rfl, shutdown.onlyAccept _ _⟩
    · exact ⟨rfl, shutdown.onlyAccept _ _⟩

theorem acceptMove_frame
    {acceptSession : AcceptSession}
    {shutdown next : Shutdown}
    {stage : AcceptStage}
    {input : ShutdownInput}
    {act : LockAct CritSec}
    (moved : acceptMove acceptSession shutdown stage input = some (next, act)) :
    act.Follows stage.held next.accept.held ∧ OnlyAccept shutdown next ∧
      stage ≠ .stopped := by
  cases acceptMove_cases moved with
  | looks =>
      refine ⟨?_, shutdown.onlyAccept _ _, AcceptStage.noConfusion⟩
      dsimp only
      split
      · rfl
      · rfl
  | accepts count nAcceptSock garbage address now =>
      have frame := shutdown.acceptedSocket_frame nAcceptSock
        (TcpSession.construct garbage address now) count
      exact ⟨frame.1, frame.2, AcceptStage.noConfusion⟩
  | binds nAcceptSock session count =>
      obtain ⟨held, frame⟩ :=
        boundSession_frame acceptSession shutdown nAcceptSock session count
      exact ⟨⟨by rw [held]; rfl, by rw [held]; exact List.not_mem_nil⟩, frame,
        AcceptStage.noConfusion⟩
  | registers modle nAcceptSock session count addCtl modCtl delCtl =>
      have frame := shutdown.registerSession_frame modle nAcceptSock session count
        addCtl modCtl delCtl
      exact ⟨frame.1, frame.2, AcceptStage.noConfusion⟩
  | adds | removes =>
      exact ⟨⟨rfl, List.not_mem_nil⟩, shutdown.onlyAccept _ _,
        AcceptStage.noConfusion⟩
  | wakes | endsEvents | entersModles | entersSessions | entersRemoval =>
      exact ⟨rfl, shutdown.onlyAccept _ _, AcceptStage.noConfusion⟩

/-! ## The workers -/

/-- Only a worker has moved. -/
structure OnlyWorker (worker : Nat × Nat) (shutdown next : Shutdown) : Prop
    extends SameModles shutdown next where
  accept : next.accept = shutdown.accept
  others : ∀ other, other ≠ worker →
    next.workers other = shutdown.workers other
  heartbeat : next.heartbeat = shutdown.heartbeat
  fini : next.fini = shutdown.fini

theorem onlyWorker
    (shutdown : Shutdown)
    (state : ServerState)
    (worker : Nat × Nat)
    (own : Worker) :
    OnlyWorker worker shutdown
      ({ shutdown with state := state }.setWorker worker own) :=
  ⟨⟨rfl, rfl, rfl, rfl⟩, rfl, fun _ other => Function.update_of_ne other _ _,
    rfl, rfl⟩

/-- A call of a worker on a session fails in a step, so that the worker will
call `TcpSessionMgr_DelSession`. -/
def CallFails (shutdown : Shutdown) (own : Worker) : ShutdownInput → Prop
  | .handle write sendCtl =>
      ∃ session event batch, own.batch = (session, event) :: batch ∧
        event.events.epollOut = true ∧
          ((shutdown.state.memory session).ioSendQueued write sendCtl).2.2 < 0
  | .receive turns =>
      ∃ session event nRet, own.stage = .receive session event ∧
        ((shutdown.state.memory session).ioRecv turns).result =
          .returned nRet ∧ nRet < 0
  | _ => False

/-- A worker that has moved to a place. -/
def WorkerAt
    (worker : Nat × Nat)
    (shutdown next : Shutdown)
    (stage : WorkerStage) : Prop :=
  (next.workers worker).stage = stage ∧ OnlyWorker worker shutdown next

theorem workerAt
    (shutdown : Shutdown)
    (state : ServerState)
    (worker : Nat × Nat)
    (own : Worker) :
    WorkerAt worker shutdown
      ({ shutdown with state := state }.setWorker worker own) own.stage := by
  have moved : Function.update shutdown.workers worker own worker = own :=
    Function.update_self worker own shutdown.workers
  exact ⟨congrArg Worker.stage moved, shutdown.onlyWorker state worker own⟩

/-- Where the treatment of an event leaves a worker. -/
theorem handled_frame
    (shutdown : Shutdown)
    (worker : Nat × Nat)
    {own : Worker}
    (atEvents : own.stage = .events)
    {session : SessionId}
    {event : EpollEvent}
    {batch : List (SessionId × EpollEvent)}
    (isFirst : own.batch = (session, event) :: batch)
    (write : WriteResult)
    (sendCtl : Bool) :
    ∃ stage, stage.held = [] ∧
      WorkerAt worker shutdown
        (shutdown.handled worker own session event batch write sendCtl) stage ∧
      (stage.wants ≠ none → shutdown.CallFails own (.handle write sendCtl)) := by
  have quiet : own.stage.held = [] ∧ own.stage.wants = none := by
    rw [atEvents]
    exact ⟨rfl, rfl⟩
  rcases shutdown.handled_cases worker own session event batch write sendCtl with
    ⟨-, other, isHandled, isStage⟩ | ⟨sends, other, isHandled, isStage⟩
  · have silent : other.stage.held = [] ∧ other.stage.wants = none := by
      rcases isStage with same | receives
      · rw [same]
        exact quiet
      · rw [receives]
        exact ⟨rfl, rfl⟩
    rw [isHandled]
    exact ⟨other.stage, silent.1, shutdown.workerAt _ worker other,
      fun wants => absurd silent.2 wants⟩
  · rw [isHandled]
    refine ⟨other.stage, ?_, shutdown.workerAt _ worker other, ?_⟩
    · rw [isStage]
      split
      · rfl
      · split
        · rfl
        · rfl
    · rw [isStage]
      split
      · rename_i failed
        exact fun _ => ⟨session, event, batch, isFirst, sends.2.1, failed⟩
      · split
        · exact fun wants => absurd rfl wants
        · exact fun wants => absurd rfl wants

/-- Where a received event leaves a worker. -/
theorem received_frame
    {shutdown next : Shutdown}
    {worker : Nat × Nat}
    {own : Worker}
    {session : SessionId}
    {event : EpollEvent}
    {turns : List RecvTurn}
    (atReceive : own.stage = .receive session event)
    (moved : shutdown.received worker own session event turns = some next) :
    ∃ stage, stage.held = [] ∧ WorkerAt worker shutdown next stage ∧
      (stage.wants ≠ none → shutdown.CallFails own (.receive turns)) := by
  obtain ⟨nRet, result, rfl⟩ := received_eq_some moved
  refine ⟨_, ?_, shutdown.workerAt _ worker _, ?_⟩
  · dsimp only
    split
    · rfl
    · rfl
  · dsimp only
    split
    · rename_i negative
      exact fun _ => ⟨session, event, nRet, atReceive, result, negative⟩
    · exact fun wants => absurd rfl wants

/-- A worker follows its action on the locks. It comes to a place where it waits
only when a call has failed. -/
theorem workerMove_frame
    {shutdown next : Shutdown}
    {worker : Nat × Nat}
    {own : Worker}
    {input : ShutdownInput}
    {act : LockAct CritSec}
    (moved : shutdown.workerMove worker own own.stage input = some (next, act)) :
    ∃ stage, act.Follows own.stage.held stage.held ∧
      WorkerAt worker shutdown next stage ∧
      (stage.wants ≠ none → shutdown.CallFails own input) := by
  generalize stageEq : own.stage = stage at moved
  cases workerMove_cases moved with
  | looks =>
      refine ⟨_, ?_, shutdown.workerAt shutdown.state worker _, ?_⟩
      · dsimp only
        split
        · rfl
        · rfl
      · dsimp only
        split
        · exact fun wants => absurd rfl wants
        · exact fun wants => absurd rfl wants
  | fetches =>
      exact ⟨.events, rfl, shutdown.workerAt _ worker _,
        fun wants => absurd rfl wants⟩
  | endsEvents =>
      exact ⟨.loop, rfl, shutdown.workerAt shutdown.state worker _,
        fun wants => absurd rfl wants⟩
  | handles session event batch write sendCtl isFirst =>
      obtain ⟨stage, held, isAt, waits⟩ := shutdown.handled_frame worker stageEq
        isFirst write sendCtl
      exact ⟨stage, held, isAt, waits⟩
  | receives session event turns next received =>
      obtain ⟨stage, held, isAt, waits⟩ := received_frame stageEq received
      exact ⟨stage, held, isAt, waits⟩
  | entersRemoval session nSock =>
      exact ⟨.inDelSession session nSock, rfl,
        shutdown.workerAt shutdown.state worker _, fun wants => absurd rfl wants⟩
  | removes session nSock =>
      refine ⟨_, ?_, shutdown.workerAt _ worker _, fun wants => absurd rfl wants⟩
      exact ⟨rfl, List.not_mem_nil⟩
  | tearsDown session calls addCtl modCtl delCtl =>
      exact ⟨.events, rfl, shutdown.workerAt _ worker _,
        fun wants => absurd rfl wants⟩

/-! ## The heartbeat thread -/

/-- Only the heartbeat thread has moved. -/
structure OnlyHeartbeat (shutdown next : Shutdown) : Prop
    extends SameModles shutdown next where
  accept : next.accept = shutdown.accept
  workers : next.workers = shutdown.workers
  fini : next.fini = shutdown.fini

theorem onlyHeartbeat
    (shutdown : Shutdown)
    (state : ServerState)
    (stage : HeartbeatStage) :
    OnlyHeartbeat shutdown
      { shutdown with state := state, heartbeat := stage } :=
  ⟨⟨rfl, rfl, rfl, rfl⟩, rfl, rfl, rfl⟩

/-- The sweep finds that the session of the next socket has timed out. -/
def VisitsTimedOut (shutdown : Shutdown) (now : Int) : Prop :=
  ∃ nSocket sockets session,
    shutdown.heartbeat = .sweep (nSocket :: sockets) ∧
      shutdown.state.mgr.findSession nSocket = some session ∧
        (shutdown.state.memory session).isHeartbeatTimeOut now = true

/-- The heartbeat thread follows its action on the locks. It looks for a module
only when a session has timed out. -/
theorem heartbeatMove_frame
    {shutdown next : Shutdown}
    {input : ShutdownInput}
    {act : LockAct CritSec}
    (moved : shutdown.heartbeatMove shutdown.heartbeat input =
      some (next, act)) :
    act.Follows shutdown.heartbeat.held next.heartbeat.held ∧
      OnlyHeartbeat shutdown next ∧
      (next.heartbeat.wants = some (.lock .netEventModleLock) →
        ∃ now, input = .visit now ∧ shutdown.VisitsTimedOut now) := by
  generalize stageEq : shutdown.heartbeat = stage at moved ⊢
  have quiet : ∀ other : HeartbeatStage, other.wants = none →
      other.wants = some (.lock .netEventModleLock) →
        ∃ now, input = .visit now ∧ shutdown.VisitsTimedOut now := by
    intro other none wants
    rw [none] at wants
    contradiction
  cases heartbeatMove_cases moved with
  | looks =>
      refine ⟨?_, shutdown.onlyHeartbeat _ _, ?_⟩
      · dsimp only
        split
        · rfl
        · rfl
      · dsimp only
        split
        · exact quiet _ rfl
        · exact quiet _ rfl
  | wakes =>
      refine ⟨rfl, shutdown.onlyHeartbeat _ _, fun wants => ?_⟩
      simp [HeartbeatStage.wants] at wants
  | leavesSessions =>
      exact ⟨⟨rfl, List.not_mem_nil⟩, shutdown.onlyHeartbeat _ _, quiet _ rfl⟩
  | findsModle =>
      refine ⟨⟨rfl, ?_⟩, shutdown.onlyHeartbeat _ _, quiet _ rfl⟩
      simp [HeartbeatStage.held]
  | visits nSocket sockets now =>
      rcases shutdown.visited_cases nSocket sockets now with
        goesOn | ⟨session, found, timedOut, evicts⟩
      · rw [goesOn]
        exact ⟨rfl, shutdown.onlyHeartbeat _ _, quiet _ rfl⟩
      · rw [evicts]
        exact ⟨rfl, shutdown.onlyHeartbeat _ _, fun _ =>
          ⟨now, rfl, nSocket, sockets, session, stageEq, found, timedOut⟩⟩
  | entersSessions | entersModles | delsNoEvent | delsEvent | finalises =>
      exact ⟨rfl, shutdown.onlyHeartbeat _ _, quiet _ rfl⟩

/-! ## `AcceptSession_Fini` -/

/-- Only the thread that stops the server has moved. -/
structure OnlyFini (shutdown next : Shutdown) : Prop where
  owners : next.owners = shutdown.owners
  accept : next.accept = shutdown.accept
  workers : next.workers = shutdown.workers
  heartbeat : next.heartbeat = shutdown.heartbeat

theorem onlyFini
    (shutdown : Shutdown)
    (state : ServerState)
    (stage : FiniStage) :
    OnlyFini shutdown { shutdown with state := state, fini := stage } :=
  ⟨rfl, rfl, rfl, rfl⟩

theorem finiSession_frame
    (shutdown : Shutdown)
    (nSocket : Int)
    (sockets : List Int) :
    let next := shutdown.finiSession nSocket sockets
    next.fini = .finiSessions sockets ∧ OnlyFini shutdown next := by
  unfold finiSession
  split
  · exact ⟨rfl, shutdown.onlyFini _ _⟩
  · exact ⟨rfl, shutdown.onlyFini _ _⟩

/-- `AcceptSession_Fini` follows its action on the locks, and it comes to
`NetEventModleMgr_Fini` when the accept thread has ended. -/
theorem finiMove_frame
    {nThreadCount : Nat}
    {shutdown next : Shutdown}
    {stage : FiniStage}
    {input : ShutdownInput}
    {act : LockAct CritSec}
    (moved : finiMove nThreadCount shutdown stage input = some (next, act)) :
    act.Follows stage.held next.fini.held ∧ OnlyFini shutdown next ∧
      (next.fini.pastAccept = true →
        stage.pastAccept = true ∨ shutdown.accept = .stopped) ∧
      (next.fini.finisModles = true →
        stage.finisModles = true ∨ stage = .enterModleMgr) := by
  have free : ∀ {other : FiniStage}, other.finisModles = false →
      other.finisModles = true →
        stage.finisModles = true ∨ stage = .enterModleMgr := by
    intro other none finis
    rw [none] at finis
    contradiction
  cases finiMove_cases moved with
  | stopsAccept =>
      exact ⟨rfl, ⟨rfl, rfl, rfl, rfl⟩, fun impossible => by contradiction,
        free rfl⟩
  | joinsAccept stopped =>
      exact ⟨rfl, shutdown.onlyFini _ _, fun _ => Or.inr stopped, free rfl⟩
  | entersModles =>
      exact ⟨rfl, shutdown.onlyFini _ _, fun _ => Or.inl rfl, fun _ => Or.inr rfl⟩
  | beginsModle | stopsWorker | skipsWorker | endsModle | joinsWorker =>
      exact ⟨rfl, ⟨rfl, rfl, rfl, rfl⟩, fun _ => Or.inl rfl,
        fun _ => Or.inl rfl⟩
  | leavesModles | deletesModleMgr | leavesSessions =>
      exact ⟨⟨rfl, List.not_mem_nil⟩, ⟨rfl, rfl, rfl, rfl⟩, fun _ => Or.inl rfl,
        free rfl⟩
  | entersModleMgr | entersSessions =>
      exact ⟨rfl, shutdown.onlyFini _ _, fun _ => Or.inl rfl, free rfl⟩
  | finalises nSocket sockets =>
      obtain ⟨fini, frame⟩ := shutdown.finiSession_frame nSocket sockets
      rw [fini]
      exact ⟨rfl, frame, fun _ => Or.inl rfl, Or.inl⟩
  | stopsHeartbeat | noHeartbeat | joinsHeartbeat | ends =>
      exact ⟨rfl, ⟨rfl, rfl, rfl, rfl⟩, fun _ => Or.inl rfl, free rfl⟩

/-! ## Any thread -/

/-- What a step is made of. -/
theorem step_eq_some
    {acceptSession : AcceptSession}
    {nThreadCount : Nat}
    {shutdown next : Shutdown}
    {label : Thread × ShutdownInput}
    (stepped : step acceptSession nThreadCount shutdown label = some next) :
    ∃ middle act owners,
      move acceptSession nThreadCount shutdown label.1 label.2 =
          some (middle, act) ∧
        act.apply shutdown.owners label.1 = some owners ∧
          next = { middle with owners := owners } := by
  unfold step at stepped
  split at stepped
  · contradiction
  · rename_i middle act moved
    obtain ⟨owners, applied, same⟩ := Option.map_eq_some_iff.mp stepped
    exact ⟨middle, act, owners, moved, applied, same.symm⟩

/-- A thread follows its action on the locks, and the others hold what they
held. -/
theorem move_held
    {acceptSession : AcceptSession}
    {nThreadCount : Nat}
    {shutdown next : Shutdown}
    {thread : Thread}
    {input : ShutdownInput}
    {act : LockAct CritSec}
    (moved : move acceptSession nThreadCount shutdown thread input =
      some (next, act)) :
    act.Follows (shutdown.held thread) (next.held thread) ∧
      ∀ other, other ≠ thread → next.held other = shutdown.held other := by
  cases thread with
  | accept =>
      obtain ⟨follows, frame, -⟩ := acceptMove_frame moved
      refine ⟨follows, fun other different => ?_⟩
      cases other with
      | accept => exact absurd rfl different
      | worker modle number =>
          exact congrArg (fun own : Worker => own.stage.held)
            (congrFun frame.workers (modle, number))
      | heartbeat => exact congrArg HeartbeatStage.held frame.heartbeat
      | application number => rfl
      | stop => exact congrArg FiniStage.held frame.fini
  | worker modle number =>
      obtain ⟨stage, follows, ⟨isAt, frame⟩, -⟩ := workerMove_frame moved
      refine ⟨?_, fun other different => ?_⟩
      · have after : next.held (.worker modle number) = stage.held :=
          congrArg WorkerStage.held isAt
        rw [after]
        exact follows
      · cases other with
        | accept => exact congrArg AcceptStage.held frame.accept
        | worker modle' number' =>
            have others := frame.others (modle', number') (by
              rintro same
              obtain ⟨rfl, rfl⟩ := Prod.mk.inj same
              exact different rfl)
            exact congrArg (fun own : Worker => own.stage.held) others
        | heartbeat => exact congrArg HeartbeatStage.held frame.heartbeat
        | application number => rfl
        | stop => exact congrArg FiniStage.held frame.fini
  | heartbeat =>
      obtain ⟨follows, frame, -⟩ := heartbeatMove_frame moved
      refine ⟨follows, fun other different => ?_⟩
      cases other with
      | accept => exact congrArg AcceptStage.held frame.accept
      | worker modle number =>
          exact congrArg (fun own : Worker => own.stage.held)
            (congrFun frame.workers (modle, number))
      | heartbeat => exact absurd rfl different
      | application number => rfl
      | stop => exact congrArg FiniStage.held frame.fini
  | application number => contradiction
  | stop =>
      obtain ⟨follows, frame, -, -⟩ := finiMove_frame moved
      refine ⟨follows, fun other different => ?_⟩
      cases other with
      | accept => exact congrArg AcceptStage.held frame.accept
      | worker modle number =>
          exact congrArg (fun own : Worker => own.stage.held)
            (congrFun frame.workers (modle, number))
      | heartbeat => exact congrArg HeartbeatStage.held frame.heartbeat
      | application number => rfl
      | stop => exact absurd rfl different

end Shutdown

end TransPortEngine
