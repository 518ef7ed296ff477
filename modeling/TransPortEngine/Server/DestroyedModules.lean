import TransPortEngine.Server.ShutdownFrames

/-!
# Modules that are no longer there

The sweep goes to a net event module through the module manager, and both are
deleted before the heartbeat thread is joined. A sweep that finds a session timed
out meets a module as long as none has been deleted, and as long as none is
deleted before `NetEventModleEpoll_DelEvent` has returned.
-/

namespace TransPortEngine

open Locks MachineInt Transition

/-! ## The index of a module in a session -/

namespace SessionCore

variable (session : SessionCore) (now : Int)

theorem nEventModleIndex_finishBody :
    (session.finishBody now).nEventModleIndex = session.nEventModleIndex := by
  unfold finishBody headleHB
  dsimp only
  split
  · rfl
  · rfl

theorem nEventModleIndex_finishHead (headMsg : List UInt8) :
    (session.finishHead headMsg now).nEventModleIndex =
      session.nEventModleIndex := by
  unfold finishHead
  split
  · dsimp only
    split
    · rfl
    · rfl
  · split
    · rfl
    · rfl

end SessionCore

namespace TcpSession

theorem nEventModleIndex_ioRecvPass (session : TcpSession) (turn : RecvTurn) :
    (session.ioRecvPass turn).session.nEventModleIndex =
      session.nEventModleIndex := by
  obtain ⟨read, now, echo, epollCtl⟩ := turn
  cases read with
  | closed | failed | interrupted | again => rfl
  | data chunk =>
      simp only [ioRecvPass, ioRecvData]
      split
      · split
        · unfold ioRecvBody
          dsimp only
          split
          · exact session.toSessionCore.nEventModleIndex_finishBody now
          · split
            · rfl
            · rfl
        · unfold ioRecvHead
          dsimp only
          split
          · rfl
          · split
            · rfl
            · exact session.toSessionCore.nEventModleIndex_finishHead now _
      · rfl

theorem nEventModleIndex_ioRecv
    (session : TcpSession)
    (turns : List RecvTurn) :
    (session.ioRecv turns).session.nEventModleIndex =
      session.nEventModleIndex := by
  induction turns generalizing session with
  | nil => rfl
  | cons turn turns inductionHypothesis =>
      have pass := session.nEventModleIndex_ioRecvPass turn
      simp only [ioRecv]
      split
      · exact pass
      · exact (inductionHypothesis _).trans pass

theorem nEventModleIndex_init
    (session : TcpSession)
    (arguments : SessionArguments) :
    (session.init arguments).1.nEventModleIndex = session.nEventModleIndex := by
  unfold init
  split
  · rfl
  · rfl

end TcpSession

namespace ServerState

/-- No session names another module than the first, and a session is registered
only if there are modules. -/
structure Indexed (acceptSession : AcceptSession) (state : ServerState) :
    Prop where
  index : ∀ session < state.constructed,
    (state.memory session).nEventModleIndex = 0
  registered : ∀ nSocket session,
    state.mgr.findSession nSocket = some session →
      session < state.constructed ∧ 0 ∈ acceptSession.modles

variable {acceptSession : AcceptSession} {state : ServerState}

theorem indexed_initial
    (acceptSession : AcceptSession)
    (memory : SessionId → TcpSession)
    (bIsHeartbeat : Bool) :
    (initial memory bIsHeartbeat).Indexed acceptSession where
  index := fun session impossible => absurd impossible (Nat.not_lt_zero session)
  registered := fun nSocket session impossible => by contradiction

/-- An object with the same index in its place, whatever the kernel does. -/
theorem Indexed.act
    (indexed : state.Indexed acceptSession)
    {object : TcpSession}
    {session : SessionId}
    (same : object.nEventModleIndex =
      (state.memory session).nEventModleIndex)
    (modle : Nat)
    (events : List EngineEvent) :
    (state.act modle session object events).Indexed acceptSession := by
  refine ⟨fun other constructed => ?_, indexed.registered⟩
  change (Function.update state.memory session object other).nEventModleIndex = 0
  by_cases isSession : other = session
  · rw [isSession, Function.update_self, same]
    exact indexed.index session (isSession ▸ constructed)
  · rw [Function.update_of_ne isSession]
    exact indexed.index other constructed

/-- A manager with fewer sessions. -/
theorem Indexed.mgr
    (indexed : state.Indexed acceptSession)
    {mgr : TcpSessionMgr}
    (fewer : ∀ nSocket session, mgr.findSession nSocket = some session →
      state.mgr.findSession nSocket = some session) :
    { state with mgr := mgr }.Indexed acceptSession :=
  ⟨indexed.index, fun nSocket session found =>
    indexed.registered nSocket session (fewer nSocket session found)⟩

theorem Indexed.delSession
    (indexed : state.Indexed acceptSession)
    (nSocket : Int) :
    { state with mgr := (state.mgr.delSession nSocket).1 }.Indexed
      acceptSession := by
  refine indexed.mgr fun other session found => ?_
  by_cases same : other = nSocket
  · rw [same, state.mgr.findSession_delSession] at found
    contradiction
  · rw [state.mgr.findSession_delSession_ne same] at found
    exact found

theorem Indexed.teardown
    (indexed : state.Indexed acceptSession)
    (modle : Nat)
    (session : SessionId)
    (done : Bool)
    (call : Teardown) :
    (state.teardown modle session done call).1.Indexed acceptSession := by
  cases call with
  | delSession nSocket => exact indexed.delSession nSocket
  | delEvent =>
      have same : (state.memory session).nEventModleIndex =
          (state.memory session).nEventModleIndex := rfl
      exact indexed.act same modle _
  | fini =>
      have same : (state.memory session).fini.1.nEventModleIndex =
          (state.memory session).nEventModleIndex := rfl
      exact indexed.act same modle _
  | delete =>
      have same : (state.memory session).delete.1.nEventModleIndex =
          (state.memory session).nEventModleIndex := rfl
      exact indexed.act same modle _

theorem Indexed.teardownAll
    (indexed : state.Indexed acceptSession)
    (modle : Nat)
    (session : SessionId)
    (done : Bool)
    (calls : List Teardown) :
    (state.teardownAll modle session done calls).1.Indexed acceptSession := by
  induction calls generalizing state with
  | nil => exact indexed
  | cons call calls inductionHypothesis =>
      exact inductionHypothesis (indexed.teardown modle session done call)

/-- A new object names the first module. -/
theorem Indexed.construct
    (indexed : state.Indexed acceptSession)
    (nAcceptSock : Int)
    (garbage : SessionGarbage)
    (address : Nat)
    (now : Int) :
    (state.construct nAcceptSock
      (TcpSession.construct garbage address now)).Indexed acceptSession := by
  constructor
  · intro session constructed
    change (Function.update state.memory state.constructed
      (TcpSession.construct garbage address now)
      session).nEventModleIndex = 0
    by_cases isNew : session = state.constructed
    · rw [isNew, Function.update_self]
      rfl
    · rw [Function.update_of_ne isNew]
      have before : session < state.constructed + 1 := constructed
      exact indexed.index session (by omega)
  · intro nSocket session found
    obtain ⟨constructed, modles⟩ := indexed.registered nSocket session found
    exact ⟨Nat.lt_succ_of_lt constructed, modles⟩

theorem Indexed.addSession
    (indexed : state.Indexed acceptSession)
    {session : SessionId}
    (constructed : session < state.constructed)
    (modles : 0 ∈ acceptSession.modles) :
    (state.addSession session).Indexed acceptSession := by
  refine ⟨indexed.index, fun nSocket other found => ?_⟩
  have cases : state.mgr.findSession nSocket = some other ∨ other = session := by
    by_cases present : (state.memory session).nSocket ∈ state.mgr.tcpSessions
    · left
      have same : (state.addSession session).mgr = state.mgr := by
        simp [ServerState.addSession, TcpSessionMgr.addSession, present]
      rw [same] at found
      exact found
    · by_cases own : nSocket = (state.memory session).nSocket
      · right
        rw [own] at found
        exact Option.some.inj (found.symm.trans
          (TcpSessionMgr.findSession_addSession present session))
      · left
        exact (state.mgr.findSession_addSession_ne own session).symm.trans found
  rcases cases with before | rfl
  · exact indexed.registered nSocket other before
  · exact ⟨constructed, modles⟩

theorem memory_act
    (state : ServerState)
    (modle : Nat)
    (session : SessionId)
    (object : TcpSession)
    (events : List EngineEvent) :
    (state.act modle session object events).memory session = object := by
  have stored : Function.update state.memory session object session = object :=
    Function.update_self session object state.memory
  exact stored

theorem constructed_teardownAll
    (state : ServerState)
    (modle : Nat)
    (session : SessionId)
    (done : Bool)
    (calls : List Teardown) :
    (state.teardownAll modle session done calls).1.constructed =
      state.constructed := by
  induction calls generalizing state with
  | nil => rfl
  | cons call calls inductionHypothesis =>
      have first : (state.teardown modle session done call).1.constructed =
          state.constructed := by
        cases call <;> rfl
      exact (inductionHypothesis _).trans first

end ServerState

/-- If there is any module there is the first. -/
theorem AcceptSession.zero_mem_modles
    {acceptSession : AcceptSession}
    {modle : Nat}
    (member : modle ∈ acceptSession.modles) :
    0 ∈ acceptSession.modles := by
  have bound := List.mem_range.mp member
  exact List.mem_range.mpr (Nat.zero_lt_of_lt bound)

namespace Shutdown

/-! ## Sweeps that meet their modules -/

/-- Nothing of the modules has been deleted. -/
def Intact (acceptSession : AcceptSession) (shutdown : Shutdown) : Prop :=
  shutdown.netEventModles = acceptSession.modles ∧
    shutdown.modles = acceptSession.modles ∧
      shutdown.hasNetEventModleMgr = true

/-- The sweep evicts a session, and has not left
`NetEventModleEpoll_DelEvent`. -/
def Evicts (shutdown : Shutdown) : Prop :=
  ∃ session sockets, shutdown.heartbeat = .findModle session sockets ∨
    shutdown.heartbeat = .inFindModle session sockets ∨
      ∃ found, shutdown.heartbeat = .delEvent session found sockets

/-- The next step of `AcceptSession_Fini` deletes a module, empties the map of the
module manager or deletes the manager. -/
def Dismantles (nThreadCount : Nat) (shutdown : Shutdown) : Prop :=
  (∃ modle number modles, shutdown.fini = .finiWorkers modle number modles ∧
      nThreadCount ≤ number) ∨
    shutdown.fini = .finiModles [] ∨ shutdown.fini = .inDeleteModleMgr

/-- A step of the heartbeat thread in `NetEventModleMgr_FindModle` of a deleted
manager, or the call of `NetEventModleEpoll_DelEvent` through a null pointer or
on a deleted module. -/
def UsesDestroyed
    (shutdown : Shutdown)
    (label : Thread × ShutdownInput) : Prop :=
  label.1 = .heartbeat ∧ ∃ session sockets,
    (shutdown.heartbeat = .findModle session sockets ∨
        shutdown.heartbeat = .inFindModle session sockets) ∧
      shutdown.hasNetEventModleMgr = false ∨
    ∃ found, shutdown.heartbeat = .delEvent session found sockets ∧
      ∀ modle, found = some modle → modle ∉ shutdown.modles

/-- A step that does not let a sweep evict a session after something of the
modules has been deleted, and deletes nothing of them while a sweep evicts a
session. -/
structure KeepsModles
    (acceptSession : AcceptSession)
    (nThreadCount : Nat)
    (shutdown : Shutdown)
    (label : Thread × ShutdownInput) : Prop where
  visit : ∀ now, label = (.heartbeat, .visit now) →
    shutdown.VisitsTimedOut now → Intact acceptSession shutdown
  dismantle : label.1 = .stop → Dismantles nThreadCount shutdown →
    ¬shutdown.Evicts

/-- What holds of the session the accept thread deals with. -/
def AcceptIndexed
    (acceptSession : AcceptSession)
    (constructed : Nat) : AcceptStage → Prop
  | .findModle _ session _ | .inFindModle _ session _ => session < constructed
  | .addSession _ _ session _ | .inAddSession _ _ session _ =>
      session < constructed ∧ 0 ∈ acceptSession.modles
  | _ => True

/-- What holds of the session the sweep evicts: nothing of the modules has been
deleted, and the module found is one of them. -/
def SweepIndexed
    (acceptSession : AcceptSession)
    (shutdown : Shutdown) : Prop :=
  match shutdown.heartbeat with
  | .findModle session _ | .inFindModle session _ =>
      Intact acceptSession shutdown ∧
        session < shutdown.state.constructed ∧ 0 ∈ acceptSession.modles
  | .delEvent _ found _ =>
      Intact acceptSession shutdown ∧
        ∃ modle ∈ acceptSession.modles, found = some modle
  | _ => True

/-- The invariant of runs whose steps keep the modules a sweep needs. -/
structure Indexed (acceptSession : AcceptSession) (shutdown : Shutdown) :
    Prop where
  state : shutdown.state.Indexed acceptSession
  map : ∀ modle ∈ shutdown.netEventModles, modle ∈ acceptSession.modles
  accept : AcceptIndexed acceptSession shutdown.state.constructed shutdown.accept
  sweep : SweepIndexed acceptSession shutdown

variable {acceptSession : AcceptSession} {nThreadCount : Nat}
  {shutdown next : Shutdown} {input : ShutdownInput} {act : LockAct CritSec}

theorem acceptMove_indexed
    (indexed : shutdown.state.Indexed acceptSession)
    (map : ∀ modle ∈ shutdown.netEventModles, modle ∈ acceptSession.modles)
    {stage : AcceptStage}
    (accept : AcceptIndexed acceptSession shutdown.state.constructed stage)
    (moved : acceptMove acceptSession shutdown stage input = some (next, act)) :
    next.state.Indexed acceptSession ∧
      AcceptIndexed acceptSession next.state.constructed next.accept ∧
        shutdown.state.constructed ≤ next.state.constructed := by
  cases acceptMove_cases moved with
  | looks =>
      refine ⟨indexed, ?_, le_rfl⟩
      dsimp only
      split
      · trivial
      · trivial
  | accepts count nAcceptSock garbage address now =>
      unfold acceptedSocket
      split
      · exact ⟨indexed, trivial, le_rfl⟩
      · exact ⟨indexed.construct nAcceptSock garbage address now,
          Nat.lt_succ_self _, Nat.le_succ _⟩
  | binds nAcceptSock session count =>
      unfold boundSession
      split
      · exact ⟨indexed.teardownAll _ _ _ _, trivial,
          (ServerState.constructed_teardownAll _ _ _ _ _).ge⟩
      · rename_i modle found
        have inMap : modle ∈ shutdown.netEventModles := List.mem_of_find?_eq_some found
        have bound : (shutdown.state.bind session modle).Indexed acceptSession :=
          ⟨indexed.index, indexed.registered⟩
        have index := (shutdown.state.memory session).nEventModleIndex_init
          (acceptSession.arguments nAcceptSock)
        have initialised := @ServerState.Indexed.act _ _ bound _ session index
          modle
        dsimp only
        split
        · exact ⟨(initialised _).teardownAll _ _ _ _, trivial,
            (ServerState.constructed_teardownAll
              ((shutdown.state.bind session modle).act modle session _ _)
              _ _ _ _).ge⟩
        · exact ⟨initialised _,
            ⟨accept, AcceptSession.zero_mem_modles (map modle inMap)⟩, le_rfl⟩
  | adds modle nAcceptSock session count =>
      exact ⟨indexed.addSession accept.1 accept.2, trivial, le_rfl⟩
  | registers modle nAcceptSock session count addCtl modCtl delCtl =>
      have acts : ∀ events later,
          ((shutdown.state.act modle session (shutdown.state.memory session)
              events).act modle session (shutdown.state.memory session)
              later).Indexed acceptSession := by
        intro events later
        refine (indexed.act rfl modle events).act ?_ modle later
        rw [ServerState.memory_act]
      unfold registerSession
      dsimp only
      split
      · exact ⟨indexed.act rfl _ _, trivial, le_rfl⟩
      · split
        · exact ⟨(acts _ _).teardownAll _ _ _ _, trivial,
            (ServerState.constructed_teardownAll
              ((shutdown.state.act modle session _ _).act modle session _ _)
              _ _ _ _).ge⟩
        · exact ⟨acts _ _, trivial, le_rfl⟩
  | removes =>
      exact ⟨indexed.teardownAll _ _ _ _, trivial,
        (ServerState.constructed_teardownAll _ _ _ _ _).ge⟩
  | entersModles | entersSessions => exact ⟨indexed, accept, le_rfl⟩
  | wakes | endsEvents | entersRemoval => exact ⟨indexed, trivial, le_rfl⟩

/-- A module of the map is found under its index. -/
theorem lookup_of_mem
    {modle : Nat}
    (member : modle ∈ shutdown.netEventModles) :
    shutdown.lookup modle = some modle := by
  have found : (shutdown.lookup modle).isSome :=
    List.find?_isSome.mpr ⟨modle, member, decide_eq_true rfl⟩
  obtain ⟨other, isOther⟩ := Option.isSome_iff_exists.mp found
  have holds := isOther
  unfold lookup at holds
  have decided := List.find?_some holds
  have same : (other : Int) = modle := of_decide_eq_true decided
  rw [isOther, Int.ofNat.inj same]

/-- A worker changes sessions, but no index of a module. -/
theorem workerMove_indexed
    (indexed : shutdown.state.Indexed acceptSession)
    {worker : Nat × Nat}
    {own : Worker}
    {stage : WorkerStage}
    (moved : shutdown.workerMove worker own stage input = some (next, act)) :
    next.state.Indexed acceptSession ∧
      next.state.constructed = shutdown.state.constructed := by
  cases workerMove_cases moved with
  | fetches => exact ⟨⟨indexed.index, indexed.registered⟩, rfl⟩
  | handles session event batch write sendCtl =>
      have same : ((shutdown.state.memory session).ioSendQueued write
          sendCtl).1.nEventModleIndex =
            (shutdown.state.memory session).nEventModleIndex := by
        rw [TcpSession.session_ioSendQueued]
      have sent := fun events =>
        indexed.act same (shutdown.state.bound session) events
      rcases shutdown.handled_cases worker own session event batch write
        sendCtl with ⟨-, other, isHandled, -⟩ | ⟨-, other, isHandled, -⟩
      · rw [isHandled]
        exact ⟨indexed, rfl⟩
      · rw [isHandled]
        exact ⟨sent _, rfl⟩
  | receives session event turns next received =>
      obtain ⟨-, -, rfl⟩ := received_eq_some received
      exact ⟨indexed.act
        ((shutdown.state.memory session).nEventModleIndex_ioRecv turns) _ _, rfl⟩
  | removes session nSock => exact ⟨indexed.delSession nSock, rfl⟩
  | tearsDown =>
      exact ⟨indexed.teardownAll _ _ _ _,
        ServerState.constructed_teardownAll _ _ _ _ _⟩
  | looks | endsEvents | entersRemoval => exact ⟨indexed, rfl⟩

/-- A sweep finds the module of the session that it evicts. -/
theorem heartbeatMove_indexed
    (indexed : Indexed acceptSession shutdown)
    (visits : ∀ now, input = .visit now → shutdown.VisitsTimedOut now →
      Intact acceptSession shutdown)
    (moved : shutdown.heartbeatMove shutdown.heartbeat input =
      some (next, act)) :
    next.state.Indexed acceptSession ∧
      next.state.constructed = shutdown.state.constructed ∧
        SweepIndexed acceptSession next := by
  have sweep := indexed.sweep
  unfold SweepIndexed at sweep
  generalize stageEq : shutdown.heartbeat = stage at moved sweep
  cases heartbeatMove_cases moved with
  | looks =>
      refine ⟨indexed.state, rfl, ?_⟩
      by_cases goesOn : shutdown.state.mgr.bIsHeartbeat = true
      · simp [SweepIndexed, goesOn]
      · simp [SweepIndexed, goesOn]
  | visits nSocket sockets now =>
      rcases shutdown.visited_cases nSocket sockets now with
        goesOn | ⟨session, found, timedOut, evicts⟩
      · rw [goesOn]
        exact ⟨indexed.state, rfl, trivial⟩
      · rw [evicts]
        refine ⟨indexed.state.delSession nSocket, rfl, ?_⟩
        exact ⟨visits now rfl ⟨nSocket, sockets, session, stageEq, found,
          timedOut⟩, indexed.state.registered nSocket session found⟩
  | entersModles session sockets => exact ⟨indexed.state, rfl, sweep⟩
  | findsModle session sockets =>
      obtain ⟨intact, constructed, modles⟩ := sweep
      refine ⟨indexed.state, rfl, intact, 0, modles, ?_⟩
      have index := indexed.state.index session constructed
      have inMap : 0 ∈ shutdown.netEventModles := by
        rw [intact.1]
        exact modles
      rw [index]
      exact lookup_of_mem inMap
  | delsEvent | finalises =>
      exact ⟨indexed.state.teardownAll _ _ _ _,
        ServerState.constructed_teardownAll _ _ _ _ _, trivial⟩
  | wakes | entersSessions | leavesSessions | delsNoEvent =>
      exact ⟨indexed.state, rfl, trivial⟩

/-- `AcceptSession_Fini` changes no index, and it changes nothing of the modules
unless it dismantles. -/
theorem finiMove_indexed
    (indexed : shutdown.state.Indexed acceptSession)
    (moved : finiMove nThreadCount shutdown shutdown.fini input =
      some (next, act)) :
    next.state.Indexed acceptSession ∧
      next.state.constructed = shutdown.state.constructed ∧
      (∀ modle ∈ next.netEventModles, modle ∈ shutdown.netEventModles) ∧
      (SameModles shutdown next ∨ Dismantles nThreadCount shutdown) := by
  generalize stageEq : shutdown.fini = stage at moved
  cases finiMove_cases moved with
  | endsModle modle number modles behind =>
      exact ⟨indexed, rfl, fun _ => id, Or.inr (Or.inl
        ⟨modle, number, modles, stageEq, behind⟩)⟩
  | leavesModles =>
      exact ⟨indexed, rfl, fun _ impossible => by contradiction,
        Or.inr (Or.inr (Or.inl stageEq))⟩
  | deletesModleMgr =>
      exact ⟨indexed, rfl, fun _ => id, Or.inr (Or.inr (Or.inr stageEq))⟩
  | stopsHeartbeat | noHeartbeat =>
      exact ⟨indexed.mgr fun _ _ => id, rfl, fun _ => id,
        Or.inl ⟨rfl, rfl, rfl, rfl⟩⟩
  | finalises nSocket sockets =>
      unfold finiSession
      split
      · exact ⟨indexed, rfl, fun _ => id, Or.inl ⟨rfl, rfl, rfl, rfl⟩⟩
      · exact ⟨indexed.teardownAll _ _ _ _,
          ServerState.constructed_teardownAll _ _ _ _ _, fun _ => id,
          Or.inl ⟨rfl, rfl, rfl, rfl⟩⟩
  | leavesSessions =>
      exact ⟨indexed.mgr fun _ _ impossible => by contradiction, rfl, fun _ => id,
        Or.inl ⟨rfl, rfl, rfl, rfl⟩⟩
  | stopsAccept | joinsAccept | entersModles | beginsModle | stopsWorker
  | skipsWorker | joinsWorker | entersModleMgr | joinsHeartbeat
  | entersSessions | ends =>
      exact ⟨indexed, rfl, fun _ => id, Or.inl ⟨rfl, rfl, rfl, rfl⟩⟩

/-! ## Runs -/

theorem indexed_initial
    (acceptSession : AcceptSession)
    (nThreadCount : Nat)
    (memory : SessionId → TcpSession)
    (bIsHeartbeat : Bool) :
    Indexed acceptSession
      (initial acceptSession nThreadCount memory bIsHeartbeat) where
  state := ServerState.indexed_initial acceptSession memory bIsHeartbeat
  map := fun _ => id
  accept := trivial
  sweep := trivial

/-- What the sweep knows stays true when others move and the modules stay. -/
theorem SweepIndexed.keep
    (sweep : SweepIndexed acceptSession shutdown)
    (heartbeat : next.heartbeat = shutdown.heartbeat)
    (constructed : shutdown.state.constructed ≤ next.state.constructed)
    (modles : SameModles shutdown next ∨ ¬shutdown.Evicts) :
    SweepIndexed acceptSession next := by
  have intact : Intact acceptSession shutdown → shutdown.Evicts →
      Intact acceptSession next := by
    intro before evicts
    obtain same := modles.resolve_right (not_not_intro evicts)
    exact ⟨same.netEventModles.trans before.1, same.modles.trans before.2.1,
      same.hasNetEventModleMgr.trans before.2.2⟩
  unfold SweepIndexed at sweep ⊢
  rw [heartbeat]
  split at sweep
  · rename_i session sockets stage
    exact ⟨intact sweep.1 ⟨session, sockets, Or.inl stage⟩,
      sweep.2.1.trans_le constructed, sweep.2.2⟩
  · rename_i session sockets stage
    exact ⟨intact sweep.1 ⟨session, sockets, Or.inr (Or.inl stage)⟩,
      sweep.2.1.trans_le constructed, sweep.2.2⟩
  · rename_i session found sockets stage
    exact ⟨intact sweep.1 ⟨session, sockets, Or.inr (Or.inr ⟨found, stage⟩)⟩,
      sweep.2⟩
  · trivial

/-- A step that keeps the modules a sweep needs keeps the invariant. -/
theorem Indexed.step
    {label : Thread × ShutdownInput}
    (indexed : Indexed acceptSession shutdown)
    (keeps : KeepsModles acceptSession nThreadCount shutdown label)
    (stepped : step acceptSession nThreadCount shutdown label = some next) :
    Indexed acceptSession next := by
  obtain ⟨thread, input⟩ := label
  obtain ⟨middle, act, owners, moved, -, rfl⟩ := step_eq_some stepped
  suffices after : Indexed acceptSession middle from
    ⟨after.state, after.map, after.accept, after.sweep⟩
  cases thread with
  | accept =>
      obtain ⟨-, frame, -⟩ := acceptMove_frame moved
      obtain ⟨state, accept, constructed⟩ :=
        acceptMove_indexed indexed.state indexed.map indexed.accept moved
      refine ⟨state, ?_, accept, indexed.sweep.keep frame.heartbeat constructed
        (Or.inl frame.toSameModles)⟩
      rw [frame.netEventModles]
      exact indexed.map
  | worker modle number =>
      obtain ⟨-, -, ⟨-, frame⟩, -⟩ := workerMove_frame moved
      obtain ⟨state, constructed⟩ := workerMove_indexed indexed.state moved
      refine ⟨state, ?_, ?_, indexed.sweep.keep frame.heartbeat constructed.ge
        (Or.inl frame.toSameModles)⟩
      · rw [frame.netEventModles]
        exact indexed.map
      · rw [frame.accept, constructed]
        exact indexed.accept
  | heartbeat =>
      obtain ⟨-, frame, -⟩ := heartbeatMove_frame moved
      obtain ⟨state, constructed, sweep⟩ := heartbeatMove_indexed indexed
        (fun now same => keeps.visit now (congrArg _ same)) moved
      refine ⟨state, ?_, ?_, sweep⟩
      · rw [frame.netEventModles]
        exact indexed.map
      · rw [frame.accept, constructed]
        exact indexed.accept
  | application number => contradiction
  | stop =>
      obtain ⟨-, frame, -, -⟩ := finiMove_frame moved
      obtain ⟨state, constructed, map, modles⟩ :=
        finiMove_indexed indexed.state moved
      refine ⟨state, fun modle member => indexed.map modle (map modle member),
        ?_, indexed.sweep.keep frame.heartbeat constructed.ge
          (modles.imp_right (keeps.dismantle rfl))⟩
      rw [frame.accept, constructed]
      exact indexed.accept

/-- A sweep that evicts a session has its manager and its module. -/
theorem Indexed.not_usesDestroyed
    (indexed : Indexed acceptSession shutdown)
    (label : Thread × ShutdownInput) :
    ¬shutdown.UsesDestroyed label := by
  have sweep := indexed.sweep
  unfold SweepIndexed at sweep
  rintro ⟨-, session, sockets, ⟨searches, noManager⟩ | ⟨found, atModle, gone⟩⟩
  · have manager : shutdown.hasNetEventModleMgr = true := by
      rcases searches with stage | stage
      · rw [stage] at sweep
        exact sweep.1.2.2
      · rw [stage] at sweep
        exact sweep.1.2.2
    exact absurd (manager.symm.trans noManager) (by decide)
  · rw [atModle] at sweep
    obtain ⟨intact, modle, member, isFound⟩ := sweep
    apply gone modle isFound
    rw [intact.2.1]
    exact member

/-- As long as nothing of the modules is deleted before a sweep is through with
a session that has timed out, no sweep uses what has been deleted. -/
theorem not_usesDestroyed_of_keepsModles
    (acceptSession : AcceptSession)
    (nThreadCount : Nat)
    (memory : SessionId → TcpSession)
    (bIsHeartbeat : Bool)
    (labels : List (Thread × ShutdownInput))
    (condition : Throughout (step acceptSession nThreadCount)
      (KeepsModles acceptSession nThreadCount)
      (initial acceptSession nThreadCount memory bIsHeartbeat) labels) :
    Throughout (step acceptSession nThreadCount)
      (fun shutdown label => ¬shutdown.UsesDestroyed label)
      (initial acceptSession nThreadCount memory bIsHeartbeat) labels :=
  @throughout_of_invariant _ _ (step acceptSession nThreadCount)
    (KeepsModles acceptSession nThreadCount) (Indexed acceptSession) _
    (fun _ _ _ indexed keeps stepped => indexed.step keeps stepped)
    (fun _ label indexed _ => indexed.not_usesDestroyed label) labels _
    (indexed_initial acceptSession nThreadCount memory bIsHeartbeat) condition

/-! ### Two runs -/

/-- A step of another thread, and no visit. -/
theorem keepsModles_of_other
    {label : Thread × ShutdownInput}
    (other : label.1 ≠ .stop)
    (noVisit : ∀ now, label ≠ (.heartbeat, .visit now)) :
    KeepsModles acceptSession nThreadCount shutdown label where
  visit := fun now isVisit => absurd isVisit (noVisit now)
  dismantle := fun isStop => absurd isStop other

/-- A sweep evicts a session that has timed out. -/
def evictRun : List (Thread × ShutdownInput) :=
  [(.heartbeat, .next), (.heartbeat, .next), (.heartbeat, .next),
    (.heartbeat, .visit 30), (.heartbeat, .next), (.heartbeat, .next),
    (.heartbeat, .done true true true), (.heartbeat, .next)]

/-- A sweep before the server is stopped. -/
theorem not_usesDestroyed_evictRun :
    Throughout (step oneModle 1)
      (fun shutdown label => ¬shutdown.UsesDestroyed label)
      (initial oneModle 1 blankMemory true) (connectRun ++ evictRun) := by
  refine not_usesDestroyed_of_keepsModles oneModle 1 blankMemory true
    (connectRun ++ evictRun) (throughout_append ?_ ?_)
  · refine throughout_of_forall fun shutdown label member => ?_
    have byAccept : ∀ label ∈ connectRun, label.1 = .accept := by decide
    refine keepsModles_of_other ?_ ?_
    · rw [byAccept label member]
      decide
    · rintro now rfl
      have impossible := byAccept _ member
      contradiction
  · intro last reached
    obtain rfl := Option.some.inj reached
    have next : ∀ {shutdown : Shutdown},
        KeepsModles oneModle 1 shutdown (.heartbeat, .next) := by
      intro shutdown
      refine keepsModles_of_other (by decide) fun now same => ?_
      have input := (Prod.mk.inj same).2
      contradiction
    apply throughout_cons rfl next
    apply throughout_cons rfl next
    apply throughout_cons rfl next
    refine throughout_cons rfl
      ⟨fun _ _ _ => ⟨rfl, rfl, rfl⟩, fun impossible => by contradiction⟩ ?_
    apply throughout_cons rfl next
    apply throughout_cons rfl next
    refine throughout_cons rfl ?_ ?_
    · refine keepsModles_of_other (by decide) fun now same => ?_
      have input := (Prod.mk.inj same).2
      contradiction
    · exact throughout_cons rfl next trivial

/-- `AcceptSession_Fini` up to the deletion of the module manager. -/
def dismantleRun : List (Thread × ShutdownInput) :=
  [(.stop, .next), (.accept, .next), (.stop, .next), (.stop, .next),
    (.stop, .next), (.stop, .next), (.worker 0 0, .next), (.stop, .next),
    (.stop, .next), (.stop, .next), (.stop, .next), (.stop, .next)]

/-- A sweep evicts a session after the module manager has been deleted. -/
theorem usesDestroyed_dismantleRun :
    ¬∀ (acceptSession : AcceptSession) (nThreadCount : Nat)
        (memory : SessionId → TcpSession) (bIsHeartbeat : Bool)
        (labels : List (Thread × ShutdownInput)),
      Throughout (step acceptSession nThreadCount)
        (fun shutdown label => ¬shutdown.UsesDestroyed label)
        (initial acceptSession nThreadCount memory bIsHeartbeat) labels := by
  intro always
  have kept := always oneModle 1 blankMemory true
    (connectRun ++ dismantleRun ++ evictRun.take 4 ++ [(.heartbeat, .next)])
  obtain ⟨last, reached, searches, noManager⟩ : ∃ last,
      run (step oneModle 1) (initial oneModle 1 blankMemory true)
          (connectRun ++ dismantleRun ++ evictRun.take 4) = some last ∧
        last.heartbeat = .findModle 0 [] ∧
        last.hasNetEventModleMgr = false :=
    ⟨_, rfl, rfl, rfl⟩
  exact kept.last _ reached ⟨rfl, 0, [], Or.inl ⟨Or.inl searches, noManager⟩⟩

end Shutdown

end TransPortEngine
