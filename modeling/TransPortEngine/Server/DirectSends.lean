import TransPortEngine.Server.Lifetime
import TransPortEngine.Server.Steps
import TransPortEngine.TcpSession.DirectSend

/-!
# The sends of a server

However the threads of a server take turns, the deferred send queue of every
session stays empty. No epoll instance is ever asked for `EPOLLOUT`, so that no
worker is told of it, and `TcpSession_IOSend(int)` is never called.
-/

namespace TransPortEngine

open Transition

/-- Every constructed session sends directly, and no epoll instance has been
asked for `EPOLLOUT`. -/
structure Shared.Direct (shared : Shared) : Prop where
  empty : ∀ session < shared.state.constructed,
    (shared.state.memory session).sendBufs = []
  registration : ∀ modle nSocket registration,
    shared.state.kernel.registrations modle nSocket = some registration →
      registration.event.events.epollOut = false

/-- A thread is not about to ask for `EPOLLOUT`, and has fetched no event with
it. -/
structure Local.Direct (own : Local) : Prop where
  call : ∀ call, own.call = some call → NoEpollOut call.events
  batch : ∀ entry ∈ own.batch, entry.2.events.epollOut = false

theorem noEpollOut_nil : NoEpollOut [] := by
  intro event impossible
  contradiction

theorem noEpollOut_netEventModleLocked : NoEpollOut (netEventModleLocked []) := by
  simp [NoEpollOut, netEventModleLocked, EngineEvent.RequestsEpollOut]

theorem PlainEvents.noEpollOut
    {events : List EngineEvent}
    (plain : PlainEvents events) :
    NoEpollOut events := by
  intro event member requests
  cases event with
  | epollCtl op nSocket added done => exact plain _ member
  | _ => exact requests

section Steps

variable {shared : Shared} {thread : Thread} {own : Local} {call : Call}
  {after : Shared × Local}

/-- A session object with an empty queue is stored. -/
theorem Shared.Direct.store
    (direct : shared.Direct)
    {object : TcpSession}
    (empty : object.sendBufs = [])
    (session : SessionId)
    (destroyers : List (SessionId × Thread)) :
    Shared.Direct { shared.store session object with
      destroyers := destroyers } := by
  refine ⟨fun other below => ?_, direct.registration⟩
  by_cases same : other = session
  · subst same
    simpa [Shared.store, ServerState.store] using empty
  · simpa [Shared.store, ServerState.store, Function.update_of_ne same] using
      direct.empty other below

/-- A thread goes on with a call. -/
theorem Local.Direct.goOn
    (direct : own.Direct)
    {bFlag fetching : Bool}
    {sweep : Option (List Int)}
    {next : Call}
    (quiet : NoEpollOut next.events) :
    Local.Direct ⟨bFlag, fetching, own.batch, sweep, some next⟩ := by
  refine ⟨fun call inCall => ?_, direct.batch⟩
  rw [← Option.some.inj inCall]
  exact quiet

/-- A thread has returned from its call. -/
theorem Local.Direct.goBack
    (direct : own.Direct)
    {bFlag fetching : Bool}
    {sweep : Option (List Int)} :
    Local.Direct ⟨bFlag, fetching, own.batch, sweep, none⟩ :=
  ⟨fun call impossible => by contradiction, direct.batch⟩

/-- A step keeps the shared state and its thread direct. -/
def KeepsDirect (after : Shared × Local) : Prop :=
  after.1.Direct ∧ after.2.Direct

theorem keepsDirect_dropFailed
    {modle : Nat}
    {session : SessionId}
    {nSock : Int}
    (sharedDirect : shared.Direct)
    (ownDirect : own.Direct)
    (dropped : dropFailed shared own modle session nSock = some after) :
    KeepsDirect after := by
  obtain ⟨-, bFlag, calls, rfl⟩ := dropFailed_eq_some dropped
  refine ⟨⟨sharedDirect.empty, sharedDirect.registration⟩, ?_, ownDirect.batch⟩
  intro call inCall
  obtain ⟨calls, -, rfl⟩ := Option.map_eq_some_iff.mp inCall
  exact noEpollOut_nil

theorem keepsDirect_nextTeardown
    {done : Bool}
    {first : Teardown}
    {calls : List Teardown}
    (sharedDirect : shared.Direct)
    (ownDirect : own.Direct)
    (quiet : NoEpollOut call.events)
    (empty : (shared.state.memory call.session).sendBufs = [])
    (advanced : nextTeardown shared thread own call done calls first =
      some after) :
    KeepsDirect after := by
  cases first with
  | delSession nSocket =>
      obtain ⟨-, rfl⟩ := nextTeardown_delSession advanced
      exact ⟨⟨sharedDirect.empty, sharedDirect.registration⟩,
        ownDirect.goOn quiet⟩
  | delEvent =>
      have deleted := SessionCall.effect_empty empty (.delEvent done)
      rw [← Option.some.inj advanced]
      exact ⟨sharedDirect, ownDirect.goOn deleted.2⟩
  | fini =>
      have finished := SessionCall.effect_empty empty .fini
      rw [← Option.some.inj advanced]
      exact ⟨sharedDirect.store finished.1 _ _, ownDirect.goOn finished.2⟩
  | delete =>
      have deleted := SessionCall.effect_empty empty .delete
      rw [← Option.some.inj advanced]
      exact ⟨sharedDirect.store deleted.1 _ _, ownDirect.goOn deleted.2⟩

theorem keepsDirect_afterCall
    {done : Bool}
    (sharedDirect : shared.Direct)
    (ownDirect : own.Direct)
    (quiet : NoEpollOut call.events)
    (empty : (shared.state.memory call.session).sendBufs = [])
    (advanced : afterCall shared thread own call done = some after) :
    KeepsDirect after := by
  cases afterCall_cases advanced with
  | giveUp | receive => exact ⟨sharedDirect, ownDirect.goOn quiet⟩
  | addSession =>
      exact ⟨⟨sharedDirect.empty, sharedDirect.registration⟩,
        ownDirect.goOn quiet⟩
  | addEvent =>
      have added := SessionCall.effect_empty empty (.addEvent done)
      exact ⟨sharedDirect, ownDirect.goOn added.2⟩
  | postRecv =>
      have posted := SessionCall.effect_empty empty (.postRecv done)
      exact ⟨sharedDirect, ownDirect.goOn posted.2⟩
  | drop _ _ dropped =>
      exact keepsDirect_dropFailed sharedDirect ownDirect dropped
  | teardown _ advanced =>
      exact keepsDirect_nextTeardown sharedDirect ownDirect quiet empty advanced
  | returned => exact ⟨sharedDirect, ownDirect.goBack⟩

/-- An event is fetched with `EPOLLOUT` only when it has been asked for. -/
theorem Kernel.epollOut_of_fetch
    {kernel next : Kernel}
    {modle : Nat}
    {nSocket : Int}
    {mask : EpollEvents}
    {session : SessionId}
    {event : EpollEvent}
    (fetched : kernel.fetch modle nSocket mask = some (session, event, next))
    (direct : ∀ registration,
      kernel.registrations modle nSocket = some registration →
        registration.event.events.epollOut = false) :
    event.events.epollOut = false := by
  unfold Kernel.fetch at fetched
  split at fetched
  · contradiction
  · rename_i registration registered
    have noOutput := direct registration registered
    split at fetched
    · rename_i allowed
      simp only [Option.some.injEq, Prod.mk.injEq] at fetched
      rw [← fetched.2.1]
      have reported := allowed.2
      simp only [reports, noOutput, Bool.and_eq_true] at reported
      simpa using reported.1.1.2
    · contradiction

/-- An event that does not ask for `EPOLLOUT` leaves no registration that does. -/
theorem direct_perform
    {next : Shared}
    {session : SessionId}
    {modle : Nat}
    {event : EngineEvent}
    (direct : shared.Direct)
    (quiet : ¬event.RequestsEpollOut)
    (performed : shared.perform thread session modle event = some next) :
    next.Direct := by
  cases performStep_of_perform performed with
  | lock | unlock => exact ⟨direct.empty, direct.registration⟩
  | kernel =>
      refine ⟨direct.empty, ?_⟩
      intro index nSocket registration registered
      rcases Kernel.registration_perform registered with old |
        ⟨op, added, rfl, -, -, rfl⟩
      · exact direct.registration index nSocket registration old
      · exact Bool.eq_false_iff.mpr quiet

theorem keepsDirect_callStep
    {input : Input}
    (sharedDirect : shared.Direct)
    (ownDirect : own.Direct)
    (inCall : own.call = some call)
    (empty : (shared.state.memory call.session).sendBufs = [])
    (advanced : callStep shared thread own call input = some after) :
    KeepsDirect after := by
  have quiet := ownDirect.call call inCall
  cases callStep_cases advanced with
  | perform first performed =>
      rw [first] at quiet
      exact ⟨direct_perform sharedDirect (quiet _ List.mem_cons_self) performed,
        ownDirect.goOn fun later member =>
          quiet later (List.mem_cons_of_mem _ member)⟩
  | goOn _ advanced =>
      exact keepsDirect_afterCall sharedDirect ownDirect quiet empty advanced
  | @receive event turn =>
      have received := SessionCall.effect_empty empty (.ioRecvPass turn)
      exact ⟨sharedDirect.store received.1 _ _, ownDirect.goOn received.2⟩
  | send _ _ _ isSent =>
      subst isSent
      refine ⟨sharedDirect.store ?_ _ _, ownDirect.goOn
        (TcpSession.plainEvents_ioSend _ _ _ _).noEpollOut⟩
      rw [(TcpSession.ioSend_writes _ _ _ _).1]
      exact empty

/-- A worker that has fetched no `EPOLLOUT` sends nothing from a queue. -/
theorem keepsDirect_handleFetched
    {session : SessionId}
    {event : EpollEvent}
    {batch : List (SessionId × EpollEvent)}
    {write : WriteResult}
    {sendCtl : Bool}
    (sharedDirect : shared.Direct)
    (ownDirect : own.Direct)
    (fetched : own.batch = (session, event) :: batch)
    (handled : handleFetched shared own session event batch write sendCtl =
      after) :
    KeepsDirect after := by
  have noOutput : event.events.epollOut = false :=
    ownDirect.batch (session, event) (by rw [fetched]; exact List.mem_cons_self)
  have later : ∀ entry ∈ batch, entry.2.events.epollOut = false := by
    intro entry member
    apply ownDirect.batch
    rw [fetched]
    exact List.mem_cons_of_mem _ member
  cases handleFetched_cases handled with
  | ignore => exact ⟨sharedDirect, ownDirect.call, later⟩
  | pointless output | send output =>
      rw [noOutput] at output
      contradiction
  | receive =>
      refine ⟨sharedDirect, fun call inCall => ?_, later⟩
      rw [← Option.some.inj inCall]
      exact noEpollOut_nil

theorem direct_construct
    {state : ServerState}
    {object : TcpSession}
    {locks : List (Lock × Thread)}
    {destroyers : List (SessionId × Thread)}
    (nAcceptSock : Int)
    (direct : Shared.Direct ⟨state, locks, destroyers⟩)
    (empty : object.sendBufs = []) :
    Shared.Direct ⟨state.construct nAcceptSock object, locks, destroyers⟩ := by
  refine ⟨fun session below => ?_, direct.registration⟩
  by_cases new : session = state.constructed
  · subst new
    simpa [ServerState.construct, ServerState.store] using empty
  · have old : session < state.constructed :=
      lt_of_le_of_ne (Nat.lt_succ_iff.mp below) new
    simpa [ServerState.construct, ServerState.store, Function.update_of_ne new]
      using direct.empty session old

/-- A new session has nothing to send, and its announcement registers nothing. -/
theorem keepsDirect_acceptConnection
    (acceptSession : AcceptSession)
    {object : TcpSession}
    (nAcceptSock : Int)
    (sharedDirect : shared.Direct)
    (ownDirect : own.Direct)
    (empty : object.sendBufs = []) :
    KeepsDirect (acceptConnection acceptSession shared own nAcceptSock
      object) := by
  have constructed := direct_construct nAcceptSock sharedDirect empty
  unfold acceptConnection
  dsimp only
  split
  · exact ⟨constructed, ownDirect.goOn noEpollOut_netEventModleLocked⟩
  · rename_i modle _
    have initialised := SessionCall.effect_empty empty
      (.init (acceptSession.arguments nAcceptSock))
    have bound : Shared.Direct { shared with
        state := (shared.state.construct nAcceptSock object).bind
          shared.state.constructed modle } :=
      ⟨constructed.empty, constructed.registration⟩
    exact ⟨bound.store initialised.1 _ _, ownDirect.goOn
      (noEpollOut_netEventModleLocked.append initialised.2)⟩

/-- A worker fetches no event with `EPOLLOUT` from an epoll instance that has not
been asked for it. -/
theorem direct_fetch
    {modle : Nat}
    {nSocket : Int}
    {mask : EpollEvents}
    {session : SessionId}
    {event : EpollEvent}
    {kernel : Kernel}
    (direct : shared.Direct)
    (fetched : shared.state.kernel.fetch modle nSocket mask =
      some (session, event, kernel)) :
    event.events.epollOut = false ∧
      Shared.Direct { shared with
        state := { shared.state with kernel := kernel } } := by
  refine ⟨Kernel.epollOut_of_fetch fetched fun registration registered =>
    direct.registration _ _ registration registered, direct.empty, ?_⟩
  intro index descriptor other found
  obtain ⟨before, registered, -, same, -⟩ :=
    Kernel.registered_of_fetch fetched found
  rw [← same]
  exact direct.registration index descriptor before registered

theorem keepsDirect_idleStep
    {acceptSession : AcceptSession}
    {input : Input}
    (sharedDirect : shared.Direct)
    (ownDirect : own.Direct)
    (advanced : idleStep acceptSession shared thread own input = some after) :
    KeepsDirect after := by
  have rest : ∀ (next : Shared) (sweep : Option (List Int)),
      next.state.constructed = shared.state.constructed →
        next.state.memory = shared.state.memory →
          next.state.kernel = shared.state.kernel →
            KeepsDirect (next, { own with sweep := sweep }) := by
    intro next sweep constructed memory kernel
    refine ⟨⟨?_, ?_⟩, ownDirect.call, ownDirect.batch⟩
    · rw [constructed, memory]
      exact sharedDirect.empty
    · rw [kernel]
      exact sharedDirect.registration
  cases idleStep_cases advanced with
  | accept =>
      exact keepsDirect_acceptConnection acceptSession _ sharedDirect ownDirect
        rfl
  | fetch _ _ fetched =>
      obtain ⟨noOutput, direct⟩ := direct_fetch sharedDirect fetched
      refine ⟨direct, ownDirect.call, fun entry member => ?_⟩
      rcases List.mem_append.mp member with before | last
      · exact ownDirect.batch entry before
      · rw [List.mem_singleton.mp last]
        exact noOutput
  | handle _ fetched handled =>
      exact keepsDirect_handleFetched sharedDirect ownDirect fetched handled
  | find =>
      refine ⟨sharedDirect, fun call inCall => ?_, ownDirect.batch⟩
      obtain ⟨session, -, rfl⟩ := Option.map_eq_some_iff.mp inCall
      exact noEpollOut_nil
  | enterHeartbeat _ _ entered | enterStop _ entered =>
      obtain ⟨-, rfl⟩ := enterSweep_eq_some entered
      exact rest _ _ rfl rfl rfl
  | leaveHeartbeat | leaveStop | passOver => exact rest _ _ rfl rfl rfl
  | evict =>
      exact ⟨⟨sharedDirect.empty, sharedDirect.registration⟩,
        ownDirect.goOn noEpollOut_netEventModleLocked⟩
  | finish => exact ⟨sharedDirect, ownDirect.goOn noEpollOut_nil⟩

/-- A step of a thread that is in a call on a constructed session only. -/
theorem keepsDirect_threadStep
    {acceptSession : AcceptSession}
    {input : Input}
    (sharedDirect : shared.Direct)
    (ownDirect : own.Direct)
    (pointers : ∀ session ∈ own.pointers, session < shared.state.constructed)
    (advanced : threadStep acceptSession shared thread own input = some after) :
    KeepsDirect after := by
  unfold threadStep at advanced
  split at advanced
  · rename_i call inCall
    have empty := sharedDirect.empty call.session
      (pointers call.session (session_mem_pointers inCall))
    exact keepsDirect_callStep sharedDirect ownDirect inCall empty advanced
  · exact keepsDirect_idleStep sharedDirect ownDirect advanced

end Steps

/-- A server whose threads have only constructed sessions, all of them sending
directly. -/
structure SendsDirectly (server : Server) : Prop where
  constructed : Constructed server
  shared : server.shared.Direct
  locals : ∀ thread, (server.locals thread).Direct

theorem sendsDirectly_initial
    (memory : SessionId → TcpSession)
    (bIsHeartbeat : Bool) :
    SendsDirectly (Server.initial memory bIsHeartbeat) := by
  refine ⟨constructed_initial memory bIsHeartbeat, ⟨?_, ?_⟩, ?_⟩
  · intro session impossible
    contradiction
  · intro modle nSocket registration impossible
    contradiction
  · intro thread
    refine ⟨?_, ?_⟩
    · intro call impossible
      contradiction
    · intro entry impossible
      contradiction

/-- One step of one thread keeps the sessions of a server sending directly. -/
theorem sendsDirectly_serverStep
    {acceptSession : AcceptSession}
    {server next : Server}
    {label : Thread × Input}
    (direct : SendsDirectly server)
    (stepped : serverStep acceptSession server label = some next) :
    SendsDirectly next := by
  obtain ⟨own, advanced, locals⟩ := serverStep_eq_some stepped
  have kept := keepsDirect_threadStep direct.shared (direct.locals label.1)
    (direct.constructed.pointer label.1) advanced
  refine ⟨constructed_serverStep direct.constructed stepped, kept.1, ?_⟩
  intro thread
  rw [locals]
  by_cases same : thread = label.1
  · subst same
    rw [Function.update_self]
    exact kept.2
  · rw [Function.update_of_ne same]
    exact direct.locals thread

/-! ## The queue is never worked off -/

/-- A thread is not behind `TcpSession_IOSend(int)`. -/
def Local.NeverSent (own : Local) : Prop :=
  ∀ call, own.call = some call → ∀ event nRet, call.stage ≠ .sent event nRet

section NeverSent

variable {acceptSession : AcceptSession} {shared : Shared} {thread : Thread}
  {own : Local} {call : Call} {after : Shared × Local}

theorem Local.neverSent_of_none (quiet : own.call = none) : own.NeverSent := by
  intro call inCall
  rw [quiet] at inCall
  contradiction

theorem Local.neverSent_of_stage
    (inCall : own.call = some call)
    (stage : ∀ event nRet, call.stage ≠ .sent event nRet) :
    own.NeverSent := by
  intro other isOther
  rw [inCall] at isOther
  rw [← Option.some.inj isOther]
  exact stage

theorem neverSent_dropFailed
    {modle : Nat}
    {session : SessionId}
    {nSock : Int}
    (dropped : dropFailed shared own modle session nSock = some after) :
    after.2.NeverSent := by
  obtain ⟨-, bFlag, calls, rfl⟩ := dropFailed_eq_some dropped
  cases calls with
  | none => exact Local.neverSent_of_none rfl
  | some calls => exact Local.neverSent_of_stage rfl fun _ _ => by simp

theorem neverSent_nextTeardown
    {done : Bool}
    {first : Teardown}
    {calls : List Teardown}
    (advanced : nextTeardown shared thread own call done calls first =
      some after) :
    after.2.NeverSent := by
  cases first with
  | delSession nSocket =>
      obtain ⟨-, rfl⟩ := nextTeardown_delSession advanced
      exact Local.neverSent_of_stage rfl fun _ _ => by simp
  | delEvent | fini | delete =>
      rw [← Option.some.inj advanced]
      exact Local.neverSent_of_stage rfl fun _ _ => by simp

theorem neverSent_afterCall
    {done : Bool}
    (advanced : afterCall shared thread own call done = some after) :
    after.2.NeverSent := by
  cases afterCall_cases advanced with
  | giveUp | addSession | addEvent | postRecv | receive =>
      exact Local.neverSent_of_stage rfl fun _ _ => by simp
  | drop stage negative dropped => exact neverSent_dropFailed dropped
  | teardown stage advanced => exact neverSent_nextTeardown advanced
  | returned ended => exact Local.neverSent_of_none rfl

theorem neverSent_callStep
    {input : Input}
    (never : own.NeverSent)
    (inCall : own.call = some call)
    (advanced : callStep shared thread own call input = some after) :
    after.2.NeverSent := by
  cases callStep_cases advanced with
  | perform first performed =>
      exact Local.neverSent_of_stage rfl (never call inCall)
  | goOn quiet advanced => exact neverSent_afterCall advanced
  | receive | send => exact Local.neverSent_of_stage rfl fun _ _ => by simp

theorem neverSent_acceptConnection
    (own : Local)
    (nAcceptSock : Int)
    (object : TcpSession) :
    (acceptConnection acceptSession shared own nAcceptSock
      object).2.NeverSent := by
  unfold acceptConnection
  dsimp only
  split
  · exact Local.neverSent_of_stage rfl fun _ _ => by simp
  · exact Local.neverSent_of_stage rfl fun _ _ => by simp

/-- As no event with `EPOLLOUT` is fetched, none is handled. -/
theorem neverSent_idleStep
    {input : Input}
    (direct : own.Direct)
    (quiet : own.call = none)
    (advanced : idleStep acceptSession shared thread own input = some after) :
    after.2.NeverSent := by
  cases idleStep_cases advanced with
  | accept => exact neverSent_acceptConnection own _ _
  | handle noSweep fetched handled =>
      have noOutput := direct.batch _ (fetched ▸ List.mem_cons_self)
      cases handleFetched_cases handled with
      | ignore | pointless => exact Local.neverSent_of_none quiet
      | send output =>
          rw [noOutput] at output
          contradiction
      | receive => exact Local.neverSent_of_stage rfl fun _ _ => by simp
  | @find number nSendDataLen nSessionId szSendData noSweep free =>
      cases found : shared.state.mgr.findSession nSessionId with
      | none => exact Local.neverSent_of_none rfl
      | some session => exact Local.neverSent_of_stage rfl fun _ _ => by simp
  | enterHeartbeat noSweep running entered =>
      obtain ⟨-, rfl⟩ := enterSweep_eq_some entered
      exact Local.neverSent_of_none quiet
  | enterStop noSweep entered =>
      obtain ⟨-, rfl⟩ := enterSweep_eq_some entered
      exact Local.neverSent_of_none quiet
  | fetch | leaveHeartbeat | leaveStop | passOver =>
      exact Local.neverSent_of_none quiet
  | evict | finish => exact Local.neverSent_of_stage rfl fun _ _ => by simp

end NeverSent

/-- A server that sends directly and has never called `TcpSession_IOSend(int)`. -/
structure DefersNothing (server : Server) : Prop where
  direct : SendsDirectly server
  never : ∀ thread, (server.locals thread).NeverSent

/-- One step of one thread. -/
theorem DefersNothing.step
    {acceptSession : AcceptSession}
    {server next : Server}
    {label : Thread × Input}
    (defers : DefersNothing server)
    (stepped : serverStep acceptSession server label = some next) :
    DefersNothing next := by
  obtain ⟨direct, never⟩ := defers
  refine ⟨sendsDirectly_serverStep direct stepped, fun thread => ?_⟩
  obtain ⟨own, advanced, locals⟩ := serverStep_eq_some stepped
  rw [locals]
  by_cases same : thread = label.1
  · subst same
    rw [Function.update_self]
    unfold threadStep at advanced
    split at advanced
    · rename_i inCall
      exact neverSent_callStep (never label.1) inCall advanced
    · rename_i quiet
      exact neverSent_idleStep (direct.locals label.1) quiet advanced
  · rw [Function.update_of_ne same]
    exact never thread

/-- In every run of a server, however its threads take turns: the deferred send
queues of all sessions are empty, no epoll instance waits for `EPOLLOUT`, and no
worker has called `TcpSession_IOSend(int)`. -/
theorem defers_nothing
    (acceptSession : AcceptSession)
    (memory : SessionId → TcpSession)
    (bIsHeartbeat : Bool)
    (labels : List (Thread × Input))
    (last : Server)
    (reached : run (serverStep acceptSession)
      (.initial memory bIsHeartbeat) labels = some last) :
    (∀ session < last.shared.state.constructed,
        (last.shared.state.memory session).sendBufs = []) ∧
      (∀ modle nSocket registration,
        last.shared.state.kernel.registrations modle nSocket =
            some registration →
          registration.event.events.epollOut = false) ∧
      ∀ thread call, (last.locals thread).call = some call →
        ∀ event nRet, call.stage ≠ .sent event nRet := by
  have start : DefersNothing (.initial memory bIsHeartbeat) :=
    ⟨sendsDirectly_initial memory bIsHeartbeat,
      fun _ => Local.neverSent_of_none rfl⟩
  have defers := holds_of_run (fun _ _ _ => DefersNothing.step) start reached
  exact ⟨defers.direct.shared.empty, defers.direct.shared.registration,
    defers.never⟩

/-- A session is accepted, and the application sends on it. -/
def acceptSend : List (Thread × Input) :=
  acceptSteps 0x7f0000001010 ++ [(.application 0, .find 16 1 [0x41]),
    (.application 0, .send ⟨[.again, .accepted 1], true⟩)]

theorem defers_nothing_acceptSend :
    ∃ last, run (serverStep oneModle) (.initial blankMemory true) acceptSend =
        some last ∧
      last.shared.state.constructed = 1 ∧
      (last.shared.state.memory 0).sendBufs = [] := by
  refine ⟨_, rfl, rfl, ?_⟩
  exact (defers_nothing oneModle blankMemory true acceptSend _ rfl).1 0
    Nat.zero_lt_one

end TransPortEngine
