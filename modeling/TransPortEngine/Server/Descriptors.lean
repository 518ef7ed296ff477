import TransPortEngine.Server.Creation
import TransPortEngine.Server.ShutdownFrames
import TransPortEngine.TcpSession.Effects

/-!
# The descriptors of a server

`AcceptSession_Init` opens the listening socket, an epoll instance for the accept
thread and one for each module, and the accept thread a socket for each session.
`NetEventModleEpoll_Fini` closes the epoll instance of its module, and
`TcpSession_Fini` and the destructor of a session close its socket. Nothing closes
the other two descriptors, so that the port of a destroyed server stays in use.
-/

namespace TransPortEngine

open Locks Transition

/-- A server `TransPortEngine_CreateServer` has returned complete. -/
structure CreatedServer where
  acceptSession : AcceptSession
  nListenPort : Int
  nThreadCount : Int
  calls : ServerCalls
  ledger : Ledger
  handles : ServerHandles
  created : createServer nListenPort acceptSession.nEventModleCount nThreadCount
    calls = (ledger, some handles)
  complete : Complete acceptSession.nEventModleCount nThreadCount ledger handles

/-! ## What a step does to sessions -/

namespace Shutdown

/-- What the functions of a session do in a step of the accept thread. -/
def acceptEvents
    (acceptSession : AcceptSession)
    (shutdown : Shutdown) :
    AcceptStage → ShutdownInput → List EngineEvent
  | .inFindModle nAcceptSock session _, .next =>
      match shutdown.lookup (acceptSession.netEventModleIndex shutdown.state) with
      | none => (shutdown.state.teardownAll 0 session false [.delete]).2
      | some modle =>
          let initialised := (shutdown.state.memory session).init
            (acceptSession.arguments nAcceptSock)
          let state := (shutdown.state.bind session modle).act modle session
            initialised.1 initialised.2.1
          initialised.2.1 ++
            if initialised.2.2 < 0 then
              (state.teardownAll modle session false [.delete]).2
            else []
  | .register _ _ session _, .done addCtl modCtl delCtl =>
      let object := shutdown.state.memory session
      let added := object.addEvent addCtl
      let posted := object.postRecv modCtl
      added.1 ++
        if added.2 < 0 then []
        else posted.1 ++
          if posted.2 < 0 then (object.delEvent delCtl).1 else []
  | .inDelSession modle nAcceptSock session _, .next =>
      (shutdown.state.teardownAll modle session false
        [.delSession nAcceptSock, .fini, .delete]).2
  | _, _ => []

/-- What the functions of a session do in a step of a worker. -/
def workerEvents
    (shutdown : Shutdown)
    (worker : Nat × Nat)
    (own : Worker) : WorkerStage → ShutdownInput → List EngineEvent
  | .events, .handle write sendCtl =>
      match own.batch with
      | [] => []
      | (session, event) :: _ =>
          if event.events.skipped ∨ event.events.epollOut = false ∨
              event.ptr = 0 then []
          else ((shutdown.state.memory session).ioSendQueued write sendCtl).2.1
  | .receive session _, .receive turns =>
      ((shutdown.state.memory session).ioRecv turns).events
  | .tearDown session calls, .done _ _ delCtl =>
      (shutdown.state.teardownAll worker.1 session delCtl calls).2
  | _, _ => []

/-- What the functions of a session do in a step of the heartbeat thread. -/
def heartbeatEvents
    (shutdown : Shutdown) :
    HeartbeatStage → ShutdownInput → List EngineEvent
  | .delEvent session (some modle) _, .done _ _ delCtl =>
      if modle ∈ shutdown.modles then
        (shutdown.state.teardownAll modle session delCtl [.delEvent]).2
      else []
  | .finiSession session _, .next =>
      (shutdown.state.teardownAll 0 session false [.fini, .delete]).2
  | _, _ => []

/-- What the functions of a session do in a step of `AcceptSession_Fini`. -/
def finiEvents
    (shutdown : Shutdown) :
    FiniStage → ShutdownInput → List EngineEvent
  | .finiSessions (nSocket :: _), .next =>
      match shutdown.state.mgr.findSession nSocket with
      | none => []
      | some session =>
          (shutdown.state.teardownAll 0 session false [.fini, .delete]).2
  | _, _ => []

/-- What the functions of a session do in a step. The sockets of the kernel behind
the step are those it says (`openSockets_step`). -/
def events
    (acceptSession : AcceptSession)
    (shutdown : Shutdown)
    (label : Thread × ShutdownInput) : List EngineEvent :=
  match label.1 with
  | .accept =>
      acceptEvents acceptSession shutdown shutdown.accept label.2
  | .worker modle number =>
      let own := shutdown.workers (modle, number)
      shutdown.workerEvents (modle, number) own own.stage label.2
  | .heartbeat => shutdown.heartbeatEvents shutdown.heartbeat label.2
  | .application _ => []
  | .stop => shutdown.finiEvents shutdown.fini label.2

end Shutdown

/-! ## Opening and closing -/

/-- The end of `NetEventModleEpoll_Fini`: the epoll instance of the module is
closed unless it is zero. -/
def ServerHandles.closeEpoll (handles : ServerHandles) (modle : Nat) : List Int :=
  match handles.netEventModles.find? fun netEventModle =>
      decide (netEventModle.nNetEventModleIndex = modle) with
  | none => []
  | some netEventModle =>
      if netEventModle.nHandleDataEpoll = 0 then []
      else [netEventModle.nHandleDataEpoll]

/-- A server in use or being stopped, with its descriptors: those that are open
and, for the record, all it has opened and all it has closed. -/
structure ServerRun where
  shutdown : Shutdown
  current : List Int
  opened : List Int
  closed : List Int

namespace ServerRun

/-- The server when `TransPortEngine_CreateServer` returns. A session that has
not been constructed has no socket. -/
def initial
    (created : CreatedServer)
    (memory : SessionId → TcpSession)
    (bIsHaveHB : Bool) : ServerRun where
  shutdown := .initial created.acceptSession created.nThreadCount.toNat
    (fun session => { memory session with nSocket := -1 }) bIsHaveHB
  current := created.ledger.sockets ++ created.ledger.epolls
  opened := created.ledger.sockets ++ created.ledger.epolls
  closed := []

/-- The descriptor a step opens. -/
def opens (label : Thread × ShutdownInput) : List Int :=
  match label with
  | (.accept, .accept nAcceptSock _ _ _) =>
      if 0 ≤ nAcceptSock then [nAcceptSock] else []
  | _ => []

/-- The descriptors a step closes. -/
def closes
    (created : CreatedServer)
    (shutdown : Shutdown)
    (label : Thread × ShutdownInput) : List Int :=
  (shutdown.events created.acceptSession label).filterMap EngineEvent.closed ++
    match label.1, shutdown.fini with
    | .stop, .finiWorkers modle number _ =>
        if number < created.nThreadCount.toNat then []
        else created.handles.closeEpoll modle
    | _, _ => []

/-- One step of one thread. The kernel returns no descriptor that is open. -/
def step
    (created : CreatedServer)
    (server : ServerRun)
    (label : Thread × ShutdownInput) : Option ServerRun :=
  if ∃ descriptor ∈ opens label, descriptor ∈ server.current then none
  else
    (server.shutdown.step created.acceptSession created.nThreadCount.toNat
        label).map fun shutdown =>
      let closing := closes created server.shutdown label
      { shutdown := shutdown
        current := opens label ++ server.current.filter (· ∉ closing)
        opened := server.opened ++ opens label
        closed := server.closed ++ closing }

/-- Every descriptor has been closed as often as it has been opened, and every
thread has ended. -/
structure Balanced (created : CreatedServer) (server : ServerRun) : Prop where
  closed : ∀ descriptor ∈ server.opened,
    server.closed.count descriptor = server.opened.count descriptor
  ended : ∀ thread ∈ created.ledger.threads, server.shutdown.Stopped thread

/-- `TransPortEngine_DestroyServer` has returned zero. -/
def Destroyed (server : ServerRun) : Prop :=
  server.shutdown.fini = .done

end ServerRun

/-! ## A descriptor no session has -/

namespace TcpSession

theorem close_not_mem_fini
    {session : TcpSession}
    {descriptor : Int}
    (other : session.nSocket ≠ descriptor) :
    .close descriptor ∉ session.fini.2.1 ∧
      .close descriptor ∉ session.delete.2 := by
  have closes : .close descriptor ∉ session.closeSocket := by
    unfold closeSocket
    split
    · exact List.not_mem_nil
    · simpa using other.symm
  have notifies : .close descriptor ∉ session.notify .disconnect := by
    unfold notify
    split
    · simp
    · exact List.not_mem_nil
  constructor
  · simp [fini, closes, notifies]
  · simp [delete, closes]

/-- Initialising a session closes nothing, and gives it the socket at most. -/
theorem init_keeps
    (session : TcpSession)
    (arguments : SessionArguments)
    (descriptor : Int) :
    .close descriptor ∉ (session.init arguments).2.1 ∧
      (session.nSocket ≠ descriptor → arguments.nSocket ≠ descriptor →
        (session.init arguments).1.nSocket ≠ descriptor) := by
  unfold init
  split
  · exact ⟨List.not_mem_nil, fun other _ => other⟩
  · refine ⟨?_, fun _ other => other⟩
    dsimp only [notify]
    split
    · simp
    · exact List.not_mem_nil

/-- Sending from the queue closes nothing, and the session keeps its socket. -/
theorem ioSendQueued_keeps
    (session : TcpSession)
    (result : WriteResult)
    (epollCtl : Bool)
    (descriptor : Int) :
    .close descriptor ∉ (session.ioSendQueued result epollCtl).2.1 ∧
      (session.ioSendQueued result epollCtl).1.nSocket = session.nSocket := by
  constructor
  · have sends := session.events_ioSendQueued result epollCtl
    generalize (session.ioSendQueued result epollCtl).2.1 = events at sends ⊢
    cases sends with
    | nothing | writes => simp
    | registers => simp [modEvent]
  · rw [session_ioSendQueued]

/-- Receiving closes nothing, and the session keeps its socket. -/
theorem ioRecv_keeps
    (session : TcpSession)
    (turns : List RecvTurn)
    (descriptor : Int) :
    .close descriptor ∉ (session.ioRecv turns).events ∧
      (session.ioRecv turns).session.nSocket = session.nSocket := by
  obtain ⟨same, own⟩ := session.ioRecv_effects turns
  refine ⟨fun member => ?_, same.nSocket⟩
  rcases own _ member with plain | ⟨op, done, -, impossible⟩
  · exact plain
  · contradiction

end TcpSession

namespace ServerState

/-- No session has the descriptor. -/
def Avoids (descriptor : Int) (state : ServerState) : Prop :=
  ∀ session, (state.memory session).nSocket ≠ descriptor

variable {descriptor : Int} {state : ServerState}

theorem Avoids.act
    (avoids : state.Avoids descriptor)
    {object : TcpSession}
    (other : object.nSocket ≠ descriptor)
    (modle : Nat)
    (session : SessionId)
    (events : List EngineEvent) :
    (state.act modle session object events).Avoids descriptor := by
  intro known
  change (Function.update state.memory session object known).nSocket ≠ descriptor
  by_cases same : known = session
  · rw [same, Function.update_self]
    exact other
  · rw [Function.update_of_ne same]
    exact avoids known

/-- What the functions of sessions close leaves the open sockets. -/
def Closes (state next : ServerState) (events : List EngineEvent) : Prop :=
  next.kernel.openSockets = state.kernel.openSockets.filter
    (· ∉ events.filterMap EngineEvent.closed)

/-- What functions of sessions do: they close what their events say, and a
descriptor no session has stays such a descriptor. -/
structure Acts (state next : ServerState) (events : List EngineEvent) : Prop where
  closes : state.Closes next events
  avoids : ∀ descriptor, -1 ≠ descriptor → state.Avoids descriptor →
    next.Avoids descriptor ∧ .close descriptor ∉ events

variable {middle next : ServerState}

theorem closes_nil
    (same : next.kernel.openSockets = state.kernel.openSockets) :
    state.Closes next [] := by
  rw [Closes, same]
  exact (List.filter_eq_self.mpr fun _ _ => by simp).symm

theorem Closes.append
    {first second : List EngineEvent}
    (before : state.Closes middle first)
    (after : middle.Closes next second) :
    state.Closes next (first ++ second) := by
  rw [Closes, after, before, List.filter_filter]
  refine List.filter_congr fun nSocket _ => ?_
  simp [List.filterMap_append, Bool.and_comm]

theorem openSockets_perform
    (kernel : Kernel)
    (modle : Nat)
    (session : SessionId)
    (event : EngineEvent) :
    (kernel.perform modle session event).openSockets =
      kernel.openSockets.filter (event.closed ≠ some ·) := by
  unfold Kernel.perform
  split
  · simp [Kernel.register, EngineEvent.closed]
  · simp [Kernel.register, EngineEvent.closed]
  · simp only [Kernel.close, EngineEvent.closed]
    refine List.filter_congr fun nSocket _ => ?_
    simp [eq_comm]
  · rename_i notClose
    cases event with
    | close nSocket => exact (notClose nSocket rfl).elim
    | _ => simp [EngineEvent.closed]

theorem closes_act
    (state : ServerState)
    (modle : Nat)
    (session : SessionId)
    (object : TcpSession)
    (events : List EngineEvent) :
    state.Closes (state.act modle session object events) events := by
  have performed : ∀ kernel : Kernel,
      (kernel.performAll modle session events).openSockets =
        kernel.openSockets.filter
          (· ∉ events.filterMap EngineEvent.closed) := by
    induction events with
    | nil => exact fun kernel => by simp [Kernel.performAll]
    | cons event events inductionHypothesis =>
        intro kernel
        apply (inductionHypothesis (kernel.perform modle session event)).trans
        rw [openSockets_perform, List.filter_filter]
        refine List.filter_congr fun nSocket _ => ?_
        cases closed : event.closed with
        | none => simp [closed]
        | some other => simp [closed, eq_comm, Bool.and_comm]
  exact performed state.kernel

theorem Acts.idle
    (memory : next.memory = state.memory)
    (openSockets : next.kernel.openSockets = state.kernel.openSockets) :
    state.Acts next [] := by
  refine ⟨closes_nil openSockets, fun descriptor _ avoids => ⟨?_, ?_⟩⟩
  · rw [Avoids, memory]
    exact avoids
  · exact List.not_mem_nil

theorem Acts.append
    {first second : List EngineEvent}
    (before : state.Acts middle first)
    (after : middle.Acts next second) :
    state.Acts next (first ++ second) := by
  refine ⟨before.closes.append after.closes, fun descriptor valid avoids => ?_⟩
  have between := before.avoids descriptor valid avoids
  have rest := after.avoids descriptor valid between.1
  exact ⟨rest.1, List.not_mem_append between.2 rest.2⟩

/-- A function of one session that gives it no other socket. -/
theorem acts_act
    (state : ServerState)
    (modle : Nat)
    (session : SessionId)
    {object : TcpSession}
    {events : List EngineEvent}
    (keeps : ∀ descriptor, -1 ≠ descriptor →
      (state.memory session).nSocket ≠ descriptor →
        object.nSocket ≠ descriptor ∧ .close descriptor ∉ events) :
    state.Acts (state.act modle session object events) events := by
  refine ⟨state.closes_act modle session object events, ?_⟩
  intro descriptor valid avoids
  obtain ⟨other, spares⟩ := keeps descriptor valid (avoids session)
  exact ⟨avoids.act other modle session events, spares⟩

theorem acts_teardown
    (state : ServerState)
    (modle : Nat)
    (session : SessionId)
    (done : Bool)
    (call : Teardown) :
    state.Acts (state.teardown modle session done call).1
      (state.teardown modle session done call).2 := by
  cases call with
  | delSession nSocket =>
      refine ⟨?_, fun descriptor _ avoids => ⟨avoids, ?_⟩⟩
      · exact closes_nil rfl
      · simp [teardown, tcpSessionMgrLocked]
  | delEvent =>
      refine state.acts_act modle session fun descriptor _ other => ⟨other, ?_⟩
      simp [TcpSession.delEvent]
  | fini =>
      exact state.acts_act modle session fun descriptor valid other =>
        ⟨valid, (TcpSession.close_not_mem_fini other).1⟩
  | delete =>
      exact state.acts_act modle session fun descriptor valid other =>
        ⟨valid, (TcpSession.close_not_mem_fini other).2⟩

/-- Getting rid of a session closes at most its socket. -/
theorem acts_teardownAll
    (state : ServerState)
    (modle : Nat)
    (session : SessionId)
    (done : Bool)
    (calls : List Teardown) :
    state.Acts (state.teardownAll modle session done calls).1
      (state.teardownAll modle session done calls).2 := by
  induction calls generalizing state with
  | nil => exact Acts.idle rfl rfl
  | cons call calls inductionHypothesis =>
      exact (state.acts_teardown modle session done call).append
        (inductionHypothesis _)

/-- A new object has no socket. -/
theorem Avoids.construct
    (avoids : state.Avoids descriptor)
    (valid : -1 ≠ descriptor)
    (nAcceptSock : Int)
    (garbage : SessionGarbage)
    (address : Nat)
    (now : Int) :
    (state.construct nAcceptSock
      (TcpSession.construct garbage address now)).Avoids descriptor := by
  have noSocket : (TcpSession.construct garbage address now).nSocket ≠
      descriptor := valid
  have stored := avoids.act noSocket 0 state.constructed []
  exact stored

end ServerState

namespace Shutdown

/-- The socket of a connection for which the accept thread looks for a module is
not the descriptor. -/
def AcceptAvoids (descriptor : Int) : AcceptStage → Prop
  | .findModle nAcceptSock _ _ | .inFindModle nAcceptSock _ _ =>
      nAcceptSock ≠ descriptor
  | _ => True

variable {acceptSession : AcceptSession} {nThreadCount : Nat}
  {shutdown next : Shutdown} {input : ShutdownInput} {act : LockAct CritSec}
  {descriptor : Int}

/-- The accept thread gives a session the socket that `accept` has returned. -/
theorem acceptMove_avoids
    (valid : -1 ≠ descriptor)
    (avoids : shutdown.state.Avoids descriptor)
    {stage : AcceptStage}
    (accepting : AcceptAvoids descriptor stage)
    (fresh : ∀ nAcceptSock garbage address now,
      input = .accept nAcceptSock garbage address now →
        nAcceptSock ≠ descriptor)
    (moved : acceptMove acceptSession shutdown stage input = some (next, act)) :
    next.state.Avoids descriptor ∧ AcceptAvoids descriptor next.accept ∧
      .close descriptor ∉ acceptEvents acceptSession shutdown stage input := by
  cases acceptMove_cases moved with
  | looks =>
      refine ⟨avoids, ?_, List.not_mem_nil⟩
      dsimp only
      split
      · trivial
      · trivial
  | accepts count nAcceptSock garbage address now =>
      unfold acceptedSocket
      split
      · exact ⟨avoids, trivial, List.not_mem_nil⟩
      · exact ⟨avoids.construct valid nAcceptSock garbage address now,
          fresh _ _ _ _ rfl, List.not_mem_nil⟩
  | binds nAcceptSock session count =>
      cases found :
          shutdown.lookup (acceptSession.netEventModleIndex shutdown.state) with
      | none =>
          simp only [boundSession, acceptEvents, found]
          obtain ⟨torn, closes⟩ := (shutdown.state.acts_teardownAll 0 session
            false [.delete]).avoids descriptor valid avoids
          exact ⟨torn, trivial, closes⟩
      | some modle =>
          simp only [boundSession, acceptEvents, found]
          obtain ⟨closes, nSocket⟩ := (shutdown.state.memory session).init_keeps
            (acceptSession.arguments nAcceptSock) descriptor
          have bound : (shutdown.state.bind session modle).Avoids descriptor :=
            avoids
          have initialised := bound.act (nSocket (avoids session) accepting) modle
            session ((shutdown.state.memory session).init
              (acceptSession.arguments nAcceptSock)).2.1
          split
          · obtain ⟨torn, closesTorn⟩ := (ServerState.acts_teardownAll _ modle
              session false [.delete]).avoids descriptor valid initialised
            exact ⟨torn, trivial, List.not_mem_append closes closesTorn⟩
          · exact ⟨initialised, trivial,
              List.not_mem_append closes List.not_mem_nil⟩
  | registers modle nAcceptSock session count addCtl modCtl delCtl =>
      have acts : ∀ events, (shutdown.state.act modle session
          (shutdown.state.memory session) events).Avoids descriptor :=
        fun events => avoids.act (avoids session) modle session events
      simp only [registerSession, acceptEvents]
      split
      · exact ⟨acts _, trivial, by simp [TcpSession.addEvent]⟩
      · have posts := (acts ((shutdown.state.memory session).addEvent addCtl).1).act
          (avoids session) modle session
            ((shutdown.state.memory session).postRecv modCtl).1
        split
        · obtain ⟨torn, -⟩ := (ServerState.acts_teardownAll _ modle session delCtl
            [.delEvent]).avoids descriptor valid posts
          exact ⟨torn, trivial, by simp [TcpSession.addEvent, TcpSession.postRecv,
            TcpSession.modEvent, TcpSession.delEvent]⟩
        · exact ⟨posts, trivial, by simp [TcpSession.addEvent,
            TcpSession.postRecv, TcpSession.modEvent]⟩
  | removes modle nAcceptSock session count =>
      obtain ⟨torn, closes⟩ := (shutdown.state.acts_teardownAll modle session false
        [.delSession nAcceptSock, .fini, .delete]).avoids descriptor valid avoids
      exact ⟨torn, trivial, closes⟩
  | entersModles | entersSessions => exact ⟨avoids, accepting, List.not_mem_nil⟩
  | wakes | endsEvents | adds | entersRemoval =>
      exact ⟨avoids, trivial, List.not_mem_nil⟩

/-- Fetching events closes nothing. -/
theorem openSockets_fetchAll
    {modle : Nat}
    {kernel next : Kernel}
    {reports : List (Int × EpollEvents)}
    {batch : List (SessionId × EpollEvent)}
    (fetched : fetchAll modle kernel reports = some (next, batch)) :
    next.openSockets = kernel.openSockets := by
  induction reports generalizing kernel batch with
  | nil =>
      rw [fetchAll, Option.some.injEq, Prod.mk.injEq] at fetched
      rw [fetched.1]
  | cons report reports inductionHypothesis =>
      rw [fetchAll] at fetched
      split at fetched
      · contradiction
      · rename_i session event middle first
        obtain ⟨rest, fetchedRest, same⟩ := Option.map_eq_some_iff.mp fetched
        obtain ⟨rfl, rfl⟩ := Prod.mk.inj same
        obtain ⟨registration, -, -, -, -, rfl⟩ := Kernel.fetch_eq_some first
        have later := inductionHypothesis fetchedRest
        exact later

theorem workerMove_acts
    {worker : Nat × Nat}
    {own : Worker}
    {stage : WorkerStage}
    (moved : shutdown.workerMove worker own stage input = some (next, act)) :
    shutdown.state.Acts next.state
      (shutdown.workerEvents worker own stage input) := by
  cases workerMove_cases moved with
  | fetches reports kernel batch fetched =>
      exact .idle rfl (openSockets_fetchAll fetched)
  | endsEvents write sendCtl isEmpty =>
      simp only [workerEvents, isEmpty]
      exact .idle rfl rfl
  | handles session event batch write sendCtl isFirst =>
      simp only [workerEvents, isFirst]
      have sent : shutdown.state.Acts _
          ((shutdown.state.memory session).ioSendQueued write sendCtl).2.1 :=
        shutdown.state.acts_act (shutdown.state.bound session) session
          fun descriptor _ other =>
            have keeps := (shutdown.state.memory session).ioSendQueued_keeps
              write sendCtl descriptor
            ⟨keeps.2.trans_ne other, keeps.1⟩
      rcases shutdown.handled_cases worker own session event batch write
        sendCtl with ⟨silent, other, isHandled, -⟩ |
          ⟨⟨handles, writes, notNull⟩, other, isHandled, -⟩
      · rw [isHandled, if_pos]
        · exact .idle rfl rfl
        · by_contra queued
          simp only [not_or, Bool.not_eq_true, Bool.not_eq_false] at queued
          exact silent queued
      · rw [isHandled, if_neg]
        · exact sent
        · simp [handles, writes, notNull]
  | receives session event turns next received =>
      obtain ⟨-, -, rfl⟩ := received_eq_some received
      refine shutdown.state.acts_act _ session fun descriptor _ other => ?_
      obtain ⟨spares, same⟩ :=
        (shutdown.state.memory session).ioRecv_keeps turns descriptor
      exact ⟨same.trans_ne other, spares⟩
  | tearsDown session calls addCtl modCtl delCtl =>
      exact shutdown.state.acts_teardownAll worker.1 session delCtl calls
  | looks | entersRemoval | removes => exact .idle rfl rfl

theorem heartbeatMove_acts
    {stage : HeartbeatStage}
    (moved : shutdown.heartbeatMove stage input = some (next, act)) :
    shutdown.state.Acts next.state (shutdown.heartbeatEvents stage input) := by
  cases heartbeatMove_cases moved with
  | visits nSocket sockets now =>
      rcases shutdown.visited_cases nSocket sockets now with
        goesOn | ⟨session, found, timedOut, evicts⟩
      · rw [goesOn]
        exact .idle rfl rfl
      · rw [evicts]
        exact .idle rfl rfl
  | delsNoEvent session found sockets addCtl modCtl delCtl isGone =>
      cases found with
      | none => exact .idle rfl rfl
      | some modle =>
          dsimp only [heartbeatEvents]
          rw [if_neg (isGone modle rfl)]
          exact .idle rfl rfl
  | delsEvent session modle sockets addCtl modCtl delCtl isThere =>
      dsimp only [heartbeatEvents]
      rw [if_pos isThere]
      exact shutdown.state.acts_teardownAll modle session delCtl [.delEvent]
  | finalises session sockets =>
      exact shutdown.state.acts_teardownAll 0 session false [.fini, .delete]
  | looks | wakes | entersSessions | leavesSessions | entersModles | findsModle =>
      exact .idle rfl rfl

theorem finiMove_acts
    {stage : FiniStage}
    (moved : finiMove nThreadCount shutdown stage input = some (next, act)) :
    shutdown.state.Acts next.state (shutdown.finiEvents stage input) := by
  cases finiMove_cases moved with
  | finalises nSocket sockets =>
      cases found : shutdown.state.mgr.findSession nSocket with
      | none =>
          simp only [finiSession, finiEvents, found]
          exact .idle rfl rfl
      | some session =>
          simp only [finiSession, finiEvents, found]
          exact shutdown.state.acts_teardownAll 0 session false [.fini, .delete]
  | stopsAccept | joinsAccept | entersModles | beginsModle | stopsWorker
  | skipsWorker | endsModle | joinsWorker | leavesModles | entersModleMgr
  | deletesModleMgr | stopsHeartbeat | noHeartbeat | joinsHeartbeat | entersSessions
  | leavesSessions | ends =>
      exact .idle rfl rfl

/-- The socket of a session the accept thread constructs in a step. -/
def accepted (label : Thread × ShutdownInput) : List Int :=
  match label with
  | (.accept, .accept nAcceptSock _ _ _) =>
      if nAcceptSock ≤ 0 then [] else [nAcceptSock]
  | _ => []

theorem acceptMove_closes
    {stage : AcceptStage}
    (moved : acceptMove acceptSession shutdown stage input = some (next, act)) :
    next.state.kernel.openSockets = accepted (.accept, input) ++
      shutdown.state.kernel.openSockets.filter
        (· ∉ (acceptEvents acceptSession shutdown stage input).filterMap
          EngineEvent.closed) := by
  cases acceptMove_cases moved with
  | accepts count nAcceptSock garbage address now =>
      have unclosed : shutdown.state.Closes shutdown.state [] :=
        ServerState.closes_nil rfl
      unfold acceptedSocket
      dsimp only [accepted]
      split
      · exact unclosed
      · exact congrArg (nAcceptSock :: ·) unclosed
  | binds nAcceptSock session count =>
      cases found :
          shutdown.lookup (acceptSession.netEventModleIndex shutdown.state) with
      | none =>
          simp only [boundSession, acceptEvents, found]
          exact (shutdown.state.acts_teardownAll 0 session false [.delete]).closes
      | some modle =>
          simp only [boundSession, acceptEvents, found]
          have initialised := (shutdown.state.bind session modle).closes_act modle
            session ((shutdown.state.memory session).init
              (acceptSession.arguments nAcceptSock)).1
            ((shutdown.state.memory session).init
              (acceptSession.arguments nAcceptSock)).2.1
          split
          · exact initialised.append (ServerState.acts_teardownAll _ modle session
              false [.delete]).closes
          · exact initialised.append (ServerState.closes_nil rfl)
  | registers modle nAcceptSock session count addCtl modCtl delCtl =>
      have added := shutdown.state.closes_act modle session
        (shutdown.state.memory session)
        ((shutdown.state.memory session).addEvent addCtl).1
      simp only [registerSession, acceptEvents]
      split
      · exact added.append (ServerState.closes_nil rfl)
      · have posted := ServerState.closes_act (shutdown.state.act modle session
          (shutdown.state.memory session)
          ((shutdown.state.memory session).addEvent addCtl).1) modle session
          (shutdown.state.memory session)
          ((shutdown.state.memory session).postRecv modCtl).1
        split
        · exact added.append (posted.append (ServerState.closes_act _ modle
            session _ _))
        · exact added.append (posted.append (ServerState.closes_nil rfl))
  | removes modle nAcceptSock session count =>
      exact (shutdown.state.acts_teardownAll modle session false
        [.delSession nAcceptSock, .fini, .delete]).closes
  | looks | wakes | endsEvents | entersModles | entersSessions | adds
  | entersRemoval =>
      exact ServerState.closes_nil rfl

/-- The sockets of the kernel after a step: the functions of sessions have closed
what their events say, and the accept thread has added the socket it accepted. -/
theorem openSockets_step
    {label : Thread × ShutdownInput}
    (stepped : shutdown.step acceptSession nThreadCount label = some next) :
    next.state.kernel.openSockets = accepted label ++
      shutdown.state.kernel.openSockets.filter
        (· ∉ (shutdown.events acceptSession label).filterMap
          EngineEvent.closed) := by
  obtain ⟨middle, act, owners, moved, -, rfl⟩ := step_eq_some stepped
  obtain ⟨thread, input⟩ := label
  cases thread with
  | accept =>
      have closes := acceptMove_closes moved
      exact closes
  | worker modle number => exact (workerMove_acts moved).closes
  | heartbeat => exact (heartbeatMove_acts moved).closes
  | application number => contradiction
  | stop => exact (finiMove_acts moved).closes

end Shutdown

/-! ## The listening socket -/

namespace CreatedServer

variable (created : CreatedServer)

/-- The listening socket of a created server is a descriptor, and open. -/
theorem nSocket_open :
    0 ≤ created.handles.nSocket ∧
      created.handles.nSocket ∈ created.ledger.sockets := by
  obtain ⟨descriptor, -, isLedger, isHandles⟩ := createServer_some
    created.acceptSession.nEventModleCount_ne_zero created.created
  rw [isLedger, isHandles]
  refine ⟨Int.natCast_nonneg descriptor, ?_⟩
  · simp only [ServerCalls.ledger, epollCtlAdd_eq, ServerCalls.handles,
      List.mem_singleton]

/-- It is not the epoll instance of a module. -/
theorem nSocket_not_mem_closeEpoll (modle : Nat) :
    created.handles.nSocket ∉ created.handles.closeEpoll modle := by
  obtain ⟨descriptor, socket, -, isHandles⟩ := createServer_some
    created.acceptSession.nEventModleCount_ne_zero created.created
  rw [isHandles]
  intro member
  unfold ServerHandles.closeEpoll at member
  split at member
  · contradiction
  · rename_i netEventModle found
    split at member
    · contradiction
    · obtain ⟨i, -, rfl⟩ := List.mem_map.mp (List.mem_of_find?_eq_some found)
      have same : (descriptor : Int) =
          newDescriptor (created.calls.modles i).epollCreate :=
        List.mem_singleton.mp member
      cases epoll : (created.calls.modles i).epollCreate with
      | none =>
          rw [epoll, newDescriptor] at same
          have nonnegative := Int.natCast_nonneg descriptor
          omega
      | some other =>
          rw [epoll, newDescriptor, Nat.cast_inj] at same
          exact created.calls.modle_fresh descriptor socket i (same ▸ epoll)

end CreatedServer

namespace ServerRun

/-- A descriptor has been opened and not closed, and nothing will close it. -/
structure Keeps (descriptor : Int) (server : ServerRun) : Prop where
  current : descriptor ∈ server.current
  opened : descriptor ∈ server.opened
  unclosed : descriptor ∉ server.closed
  avoids : server.shutdown.state.Avoids descriptor
  accepting : Shutdown.AcceptAvoids descriptor server.shutdown.accept

variable {created : CreatedServer} {server next : ServerRun}
  {label : Thread × ShutdownInput} {descriptor : Int}

/-- The functions of a session do not close the descriptor in a step, and no
session gets it. -/
theorem Keeps.shutdown
    {shutdown : Shutdown}
    (keeps : server.Keeps descriptor)
    (nonnegative : 0 ≤ descriptor)
    (fresh : ∀ other ∈ opens label, other ∉ server.current)
    (stepped : server.shutdown.step created.acceptSession
      created.nThreadCount.toNat label = some shutdown) :
    shutdown.state.Avoids descriptor ∧
      Shutdown.AcceptAvoids descriptor shutdown.accept ∧
        .close descriptor ∉
          server.shutdown.events created.acceptSession label := by
  have valid : -1 ≠ descriptor := by omega
  obtain ⟨middle, act, owners, moved, -, rfl⟩ := Shutdown.step_eq_some stepped
  obtain ⟨thread, input⟩ := label
  cases thread with
  | accept =>
      have accepted : ∀ nAcceptSock garbage address now,
          input = .accept nAcceptSock garbage address now →
            nAcceptSock ≠ descriptor := by
        rintro nAcceptSock garbage address now rfl rfl
        refine fresh nAcceptSock ?_ keeps.current
        rw [opens, if_pos nonnegative]
        exact List.mem_singleton_self _
      have avoids := Shutdown.acceptMove_avoids valid keeps.avoids
        keeps.accepting accepted moved
      exact avoids
  | worker modle number =>
      have avoids := (Shutdown.workerMove_acts moved).avoids descriptor valid
        keeps.avoids
      obtain ⟨stage, -, isAt, -⟩ := Shutdown.workerMove_frame moved
      exact ⟨avoids.1, isAt.2.accept ▸ keeps.accepting, avoids.2⟩
  | heartbeat =>
      have avoids := (Shutdown.heartbeatMove_acts moved).avoids descriptor valid
        keeps.avoids
      have same := (Shutdown.heartbeatMove_frame moved).2.1.accept
      exact ⟨avoids.1, same ▸ keeps.accepting, avoids.2⟩
  | application number => contradiction
  | stop =>
      have avoids := (Shutdown.finiMove_acts moved).avoids descriptor valid
        keeps.avoids
      have same := (Shutdown.finiMove_frame moved).2.1.accept
      exact ⟨avoids.1, same ▸ keeps.accepting, avoids.2⟩

/-- A step closes the descriptor only when the functions of a session do, or when
it is the epoll instance of a module. -/
theorem not_mem_closes
    {shutdown : Shutdown}
    (sessions : .close descriptor ∉ shutdown.events created.acceptSession label)
    (modles : ∀ modle, descriptor ∉ created.handles.closeEpoll modle) :
    descriptor ∉ closes created shutdown label := by
  refine List.not_mem_append ?_ ?_
  · intro member
    obtain ⟨event, isEvent, closed⟩ := List.mem_filterMap.mp member
    cases event with
    | close nSocket =>
        rw [← Option.some.inj closed] at sessions
        exact sessions isEvent
    | _ => contradiction
  · split
    · split
      · exact List.not_mem_nil
      · exact modles _
    · exact List.not_mem_nil

theorem Keeps.step
    (keeps : server.Keeps descriptor)
    (nonnegative : 0 ≤ descriptor)
    (modles : ∀ modle, descriptor ∉ created.handles.closeEpoll modle)
    (stepped : ServerRun.step created server label = some next) :
    next.Keeps descriptor := by
  unfold ServerRun.step at stepped
  split at stepped
  · contradiction
  · rename_i isFresh
    obtain ⟨shutdown, shutdownStepped, rfl⟩ := Option.map_eq_some_iff.mp stepped
    have fresh : ∀ other ∈ opens label, other ∉ server.current :=
      fun other member isOpen => isFresh ⟨other, member, isOpen⟩
    obtain ⟨avoids, accepting, sessions⟩ :=
      keeps.shutdown nonnegative fresh shutdownStepped
    have unclosed := not_mem_closes sessions modles
    refine ⟨?_, List.mem_append_left _ keeps.opened,
      List.not_mem_append keeps.unclosed unclosed, avoids, accepting⟩
    refine List.mem_append_right _ (List.mem_filter.mpr ⟨keeps.current, ?_⟩)
    exact decide_eq_true unclosed

/-- In every run of a created server the listening socket stays open. -/
theorem keeps_nSocket
    (created : CreatedServer)
    (memory : SessionId → TcpSession)
    (bIsHaveHB : Bool)
    {labels : List (Thread × ShutdownInput)}
    {last : ServerRun}
    (reached : run (ServerRun.step created)
      (initial created memory bIsHaveHB) labels = some last) :
    last.Keeps created.handles.nSocket := by
  obtain ⟨nonnegative, isOpen⟩ := created.nSocket_open
  have start : (initial created memory bIsHaveHB).Keeps
      created.handles.nSocket := by
    refine ⟨List.mem_append_left _ isOpen, List.mem_append_left _ isOpen,
      List.not_mem_nil, ?_, trivial⟩
    intro session noSocket
    have negative : (-1 : Int) = created.handles.nSocket := noSocket
    omega
  have throughout : Throughout (ServerRun.step created) (fun _ _ => True)
      (initial created memory bIsHaveHB) labels :=
    throughout_of_forall fun _ _ _ => trivial
  refine invariant_of_run ?_ start throughout reached
  intro server label next keeps _ stepped
  exact keeps.step nonnegative created.nSocket_not_mem_closeEpoll stepped

end ServerRun

/-- When `TransPortEngine_DestroyServer` has returned, the listening socket is
open, and not every descriptor has been closed. -/
theorem not_balanced_of_destroyed
    (created : CreatedServer)
    (memory : SessionId → TcpSession)
    (bIsHaveHB : Bool)
    (labels : List (Thread × ShutdownInput))
    (last : ServerRun)
    (reached : run (ServerRun.step created)
      (.initial created memory bIsHaveHB) labels = some last) :
    last.Destroyed →
      created.handles.nSocket ∈ last.current ∧ ¬last.Balanced created := by
  intro _
  have keeps := ServerRun.keeps_nSocket created memory bIsHaveHB reached
  refine ⟨keeps.current, fun balanced => ?_⟩
  have counts := balanced.closed created.handles.nSocket keeps.opened
  rw [List.count_eq_zero.mpr keeps.unclosed] at counts
  exact absurd keeps.opened (List.count_eq_zero.mp counts.symm)

/-- The system calls of a server with one module and one worker. -/
def oneServerCalls : ServerCalls where
  socket := some 3
  setsockopt := true
  bind := true
  listen := true
  heartbeatThread := 0
  modles _ := ⟨some 4, fun _ => 0⟩
  acceptEpoll := some 5
  epollCtl := true
  acceptThread := 0
  modle_fresh := by simp
  accept_fresh := by simp

/-- A server with one module and one worker. -/
def oneServer : CreatedServer where
  acceptSession := oneModle
  nListenPort := 9000
  nThreadCount := 1
  calls := oneServerCalls
  ledger := ⟨[3], [3], [4, 5], [(5, 3)], [.heartbeat, .worker 0 0, .accept], [0]⟩
  handles := ⟨3, 5, [⟨0, 4, [.worker 0 0]⟩]⟩
  created := rfl
  complete := ⟨by decide, by decide, by decide, by decide, by decide, by decide⟩

/-- `AcceptSession_Fini` of a server without connections. -/
def destroyRun : List (Thread × ShutdownInput) :=
  [.stop, .accept, .stop, .stop, .stop, .stop, .worker 0 0, .stop, .stop, .stop,
    .stop, .stop, .stop, .heartbeat, .stop, .stop, .stop, .stop].map
    fun thread => (thread, .next)

/-- The listening socket of a destroyed server. -/
theorem not_balanced_oneServer :
    ∃ last, run (ServerRun.step oneServer)
        (.initial oneServer blankMemory true) destroyRun = some last ∧
      last.Destroyed ∧ ¬last.Balanced oneServer :=
  ⟨_, rfl, rfl, (not_balanced_of_destroyed oneServer blankMemory true destroyRun
    _ rfl rfl).2⟩

/-- The epoll instance of the module is closed, the listening socket and the
epoll instance of the accept thread are not. -/
theorem exists_unbalanced :
    ¬∀ (created : CreatedServer) (memory : SessionId → TcpSession)
        (bIsHaveHB : Bool) (labels : List (Thread × ShutdownInput))
        (last : ServerRun),
      run (ServerRun.step created) (.initial created memory bIsHaveHB) labels =
          some last →
        last.Destroyed → last.Balanced created := by
  intro always
  obtain ⟨last, reached, destroyed, opened, closed⟩ : ∃ last,
      run (ServerRun.step oneServer)
          (.initial oneServer blankMemory true) destroyRun = some last ∧
        last.Destroyed ∧ last.opened = [3, 4, 5] ∧ last.closed = [4] :=
    ⟨_, rfl, rfl, rfl, rfl⟩
  have counts := (always oneServer blankMemory true destroyRun last reached
    destroyed).closed 3
  rw [opened, closed] at counts
  exact absurd (counts (by decide)) (by decide)

end TransPortEngine
