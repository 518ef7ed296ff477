import TransPortEngine.Server.Lifetime
import TransPortEngine.TcpSession.Notifications

/-!
# Session ids and notifications

The id in a notification is the socket of the session. `TcpSession_Init` announces
a session before `TcpSessionMgr_AddSession` enters it, so that the id cannot be
found yet while the application is told about it. As long as nothing has been
announced, all sessions that can be found are sessions without a receiver for
callbacks, and nobody says goodbye.
-/

namespace TransPortEngine

open Transition

/-- The session, the id and the code of the notification a step makes. -/
def Server.notified
    (server : Server)
    (label : Thread × Input) : Option (SessionId × Int × MsgType) :=
  match (server.locals label.1).call, label.2 with
  | some ⟨session, _, event :: _, _⟩, .perform =>
      event.notification.map fun notification => (session, notification)
  | _, _ => none

/-- A server with the sessions it has announced, under their ids, and whose end
it has not announced. -/
structure AnnouncedServer where
  server : Server
  announced : List (SessionId × Int)

namespace AnnouncedServer

/-- Write down a notification. -/
def record
    (announced : List (SessionId × Int)) :
    Option (SessionId × Int × MsgType) → List (SessionId × Int)
  | none => announced
  | some (session, nSessionId, .connect) => (session, nSessionId) :: announced
  | some (session, nSessionId, .disconnect) =>
      announced.erase (session, nSessionId)

/-- One step of one thread. -/
def step
    (acceptSession : AcceptSession)
    (state : AnnouncedServer)
    (label : Thread × Input) : Option AnnouncedServer :=
  (serverStep acceptSession state.server label).map fun next =>
    ⟨next, record state.announced (state.server.notified label)⟩

/-- The start of a server. -/
def initial
    (memory : SessionId → TcpSession)
    (bIsHeartbeat : Bool) : AnnouncedServer :=
  ⟨.initial memory bIsHeartbeat, []⟩

/-- `TcpSessionMgr_FindSession` returns every announced session for its id. -/
def IdsFound (state : AnnouncedServer) : Prop :=
  ∀ entry ∈ state.announced,
    state.server.shared.state.mgr.findSession entry.2 = some entry.1

/-- A session is announced under an id no announced session has, and the end of a
session under the id of one announced session, which is the session itself. -/
def NotifiesRight (state : AnnouncedServer) (label : Thread × Input) : Prop :=
  match state.server.notified label with
  | none => True
  | some (_, nSessionId, .connect) =>
      ∀ entry ∈ state.announced, entry.2 ≠ nSessionId
  | some (session, nSessionId, .disconnect) =>
      state.announced.filter (fun entry => entry.2 = nSessionId) =
        [(session, nSessionId)]

/-- Ids are right in every state of a run, and in every notification. -/
def KeepsIds
    (acceptSession : AcceptSession)
    (state : AnnouncedServer)
    (labels : List (Thread × Input)) : Prop :=
  Throughout (step acceptSession)
      (fun state label => state.IdsFound ∧ state.NotifiesRight label) state
      labels ∧
    ∀ last, run (step acceptSession) state labels = some last → last.IdsFound

/-- A step announces a session. -/
def Announces (state : AnnouncedServer) (label : Thread × Input) : Prop :=
  ∃ session nSessionId,
    state.server.notified label = some (session, nSessionId, .connect)

end AnnouncedServer

/-! ## Steps that notify nobody -/

/-- A session without a receiver for callbacks. -/
structure Shared.Silent (shared : Shared) (session : SessionId) : Prop where
  constructed : session < shared.state.constructed
  receiver : (shared.state.memory session).hasTransPortEngineRecv = false

/-- A step that constructs nothing, leaves the receivers of all sessions, and
leaves nobody to be notified. -/
structure QuietStep (shared : Shared) (after : Shared × Local) : Prop where
  constructed : after.1.state.constructed = shared.state.constructed
  receiver : ∀ session,
    (after.1.state.memory session).hasTransPortEngineRecv =
      (shared.state.memory session).hasTransPortEngineRecv
  call : ∀ call, after.2.call = some call → notifications call.events = []

section Quiet

variable {shared : Shared} {thread : Thread} {own : Local} {call : Call}
  {after : Shared × Local}

/-- A call goes on with events that notify nobody. -/
theorem quietStep_call
    {next : Shared}
    {own : Local}
    {call : Call}
    (constructed : next.state.constructed = shared.state.constructed)
    (memory : next.state.memory = shared.state.memory)
    (inCall : own.call = some call)
    (quiet : notifications call.events = []) :
    QuietStep shared (next, own) := by
  refine ⟨constructed, fun session => by rw [memory], ?_⟩
  intro other isCall
  rw [inCall] at isCall
  rw [← Option.some.inj isCall]
  exact quiet

/-- A thread is not in a call any more. -/
theorem quietStep_none
    {next : Shared}
    {own : Local}
    (constructed : next.state.constructed = shared.state.constructed)
    (memory : next.state.memory = shared.state.memory)
    (idle : own.call = none) :
    QuietStep shared (next, own) := by
  refine ⟨constructed, fun session => by rw [memory], ?_⟩
  intro other isCall
  rw [idle] at isCall
  contradiction

/-- A session object is stored with its receiver. -/
theorem quietStep_store
    {object : TcpSession}
    {session : SessionId}
    {own : Local}
    {next : Call}
    {destroyers : List (SessionId × Thread)}
    (receiver : object.hasTransPortEngineRecv =
      (shared.state.memory session).hasTransPortEngineRecv)
    (inCall : own.call = some next)
    (quiet : notifications next.events = []) :
    QuietStep shared
      ({ shared.store session object with destroyers := destroyers }, own) := by
  refine ⟨rfl, fun other => ?_, ?_⟩
  · by_cases same : other = session
    · subst same
      simp [Shared.store, ServerState.store, receiver]
    · simp [Shared.store, ServerState.store, Function.update_of_ne same]
  · intro other isCall
    rw [inCall] at isCall
    rw [← Option.some.inj isCall]
    exact quiet

theorem quietStep_dropFailed
    {modle : Nat}
    {session : SessionId}
    {nSock : Int}
    (dropped : dropFailed shared own modle session nSock = some after) :
    QuietStep shared after := by
  obtain ⟨-, bFlag, calls, rfl⟩ := dropFailed_eq_some dropped
  refine ⟨rfl, fun _ => rfl, ?_⟩
  intro other isCall
  obtain ⟨calls, -, rfl⟩ := Option.map_eq_some_iff.mp isCall
  rfl

theorem quietStep_nextTeardown
    {done : Bool}
    {first : Teardown}
    {calls : List Teardown}
    (silent : first = .fini → shared.Silent call.session)
    (advanced : nextTeardown shared thread own call done calls first =
      some after)
    (quiet : call.events = []) :
    QuietStep shared after := by
  cases first with
  | delSession nSocket =>
      obtain ⟨-, rfl⟩ := nextTeardown_delSession advanced
      exact quietStep_call rfl rfl rfl (by rw [quiet]; rfl)
  | delEvent =>
      obtain rfl := Option.some.inj advanced
      exact quietStep_call rfl rfl rfl rfl
  | fini =>
      obtain rfl := Option.some.inj advanced
      refine quietStep_store rfl rfl ?_
      dsimp only
      rw [TcpSession.notifications_fini, (silent rfl).receiver]
      rfl
  | delete =>
      obtain rfl := Option.some.inj advanced
      exact quietStep_store rfl rfl (TcpSession.notifications_delete _)

theorem quietStep_afterCall
    {done : Bool}
    (silent : shared.Silent call.session)
    (quiet : call.events = [])
    (advanced : afterCall shared thread own call done = some after) :
    QuietStep shared after := by
  cases afterCall_cases advanced with
  | giveUp | addSession | receive =>
      exact quietStep_call rfl rfl rfl (by rw [quiet]; rfl)
  | addEvent | postRecv => exact quietStep_call rfl rfl rfl rfl
  | drop _ _ dropped => exact quietStep_dropFailed dropped
  | teardown _ advanced =>
      exact quietStep_nextTeardown (fun _ => silent) advanced quiet
  | returned => exact quietStep_none rfl rfl rfl

/-- Events none of which is an `epoll_ctl`. -/
def KeepsEpolls (events : List EngineEvent) : Prop :=
  ∀ event ∈ events, ∀ op nSocket epollEvent done,
    event ≠ .epollCtl op nSocket epollEvent done

/-- What an event of a call leaves. -/
structure Performed (shared next : Shared) (event : EngineEvent) : Prop where
  constructed : next.state.constructed = shared.state.constructed
  memory : next.state.memory = shared.state.memory
  mgr : next.state.mgr = shared.state.mgr
  registration : KeepsEpolls [event] → ∀ modle nSocket registration,
    next.state.kernel.registrations modle nSocket = some registration →
      shared.state.kernel.registrations modle nSocket = some registration

theorem performed_of_perform
    {next : Shared}
    {session : SessionId}
    {modle : Nat}
    {event : EngineEvent}
    (performed : shared.perform thread session modle event = some next) :
    Performed shared next event := by
  cases performStep_of_perform performed with
  | lock | unlock =>
      exact ⟨rfl, rfl, rfl, fun _ _ _ _ registered => registered⟩
  | kernel =>
      refine ⟨rfl, rfl, rfl, ?_⟩
      intro keeps index nSocket registration registered
      rcases Kernel.registration_perform registered with old |
        ⟨op, added, rfl, -, -, -⟩
      · exact old
      · exact absurd rfl (keeps _ (List.mem_singleton_self _) _ _ _ _)

theorem quietStep_callStep
    {input : Input}
    (silent : shared.Silent call.session)
    (quiet : notifications call.events = [])
    (advanced : callStep shared thread own call input = some after) :
    QuietStep shared after := by
  cases callStep_cases advanced with
  | perform first performed =>
      rw [first] at quiet
      have leaves := performed_of_perform performed
      exact quietStep_call leaves.constructed leaves.memory rfl
        (notifications_tail quiet)
  | goOn isQuiet advanced => exact quietStep_afterCall silent isQuiet advanced
  | receive =>
      exact quietStep_store (TcpSession.silentPass_ioRecvPass _ _).2 rfl
        (TcpSession.silentPass_ioRecvPass _ _).1
  | send _ _ _ isSent =>
      subst isSent
      refine quietStep_store ?_ rfl (TcpSession.notifications_ioSend _ _ _ _)
      rw [(TcpSession.ioSend_writes _ _ _ _).1]

theorem quietStep_handleFetched
    {session : SessionId}
    {event : EpollEvent}
    {batch : List (SessionId × EpollEvent)}
    {write : WriteResult}
    {sendCtl : Bool}
    (idle : own.call = none)
    (handled : handleFetched shared own session event batch write sendCtl =
      after) :
    QuietStep shared after := by
  cases handleFetched_cases handled with
  | ignore | pointless => exact quietStep_none rfl rfl idle
  | send =>
      have sent :=
        (shared.state.memory session).silent_ioSendQueued write sendCtl
      exact quietStep_store sent.2 rfl sent.1
  | receive => exact quietStep_call rfl rfl rfl rfl

/-- A thread between two calls accepts a connection, or notifies nobody. -/
theorem quietStep_idleStep
    {acceptSession : AcceptSession}
    {input : Input}
    (idle : own.call = none)
    (advanced : idleStep acceptSession shared thread own input = some after) :
    QuietStep shared after ∨
      ∃ nAcceptSock garbage address now, 0 < nAcceptSock ∧ thread = .accept ∧
        after = acceptConnection acceptSession shared own nAcceptSock
          (TcpSession.construct garbage address now) := by
  cases idleStep_cases advanced with
  | accept _ positive => exact Or.inr ⟨_, _, _, _, positive, rfl, rfl⟩
  | fetch => exact Or.inl (quietStep_none rfl rfl idle)
  | handle _ _ handled => exact Or.inl (quietStep_handleFetched idle handled)
  | find =>
      refine Or.inl ⟨rfl, fun _ => rfl, fun call isCall => ?_⟩
      obtain ⟨session, -, rfl⟩ := Option.map_eq_some_iff.mp isCall
      rfl
  | enterHeartbeat _ _ entered | enterStop _ entered =>
      obtain ⟨-, rfl⟩ := enterSweep_eq_some entered
      exact Or.inl (quietStep_none rfl rfl idle)
  | leaveHeartbeat | leaveStop | passOver =>
      exact Or.inl (quietStep_none rfl rfl idle)
  | evict | finish => exact Or.inl (quietStep_call rfl rfl rfl rfl)

end Quiet

/-! ## Before the first announcement -/

/-- A call of the accept thread that has still to announce its session. -/
structure Announcing (shared : Shared) (call : Call) : Prop where
  constructed : call.session < shared.state.constructed
  receives :
    (shared.state.memory call.session).hasTransPortEngineRecv = true
  announces : ∃ nSessionId, notifications call.events = [(nSessionId, .connect)]
  keepsEpolls : KeepsEpolls call.events

/-- A call of the accept thread on a session for which there is no module. -/
structure Homeless (shared : Shared) (call : Call) : Prop where
  constructed : call.session < shared.state.constructed
  quiet : notifications call.events = []
  keepsEpolls : KeepsEpolls call.events
  stage : call.stage = .teardown [.delete] ∨ call.stage = .teardown []

/-- A call on a session nobody hears of, or of the accept thread before the
announcement. -/
def CallUnannounced (shared : Shared) (thread : Thread) (call : Call) : Prop :=
  shared.Silent call.session ∧ notifications call.events = [] ∨
    thread = .accept ∧ (Announcing shared call ∨ Homeless shared call)

/-- Nothing has been announced: what can be found has no receiver. -/
structure Unannounced (server : Server) : Prop where
  entry : ∀ nSocket session,
    server.shared.state.mgr.findSession nSocket = some session →
      server.shared.Silent session
  registration : ∀ modle nSocket registration,
    server.shared.state.kernel.registrations modle nSocket =
      some registration → server.shared.Silent registration.session
  batch : ∀ thread, ∀ session ∈ (server.locals thread).batch.map Prod.fst,
    server.shared.Silent session
  call : ∀ thread call, (server.locals thread).call = some call →
    CallUnannounced server.shared thread call

/-- The sessions constructed so far keep their receivers. -/
structure KeepsReceivers (shared next : Shared) : Prop where
  constructed : shared.state.constructed ≤ next.state.constructed
  receiver : ∀ session < shared.state.constructed,
    (next.state.memory session).hasTransPortEngineRecv =
      (shared.state.memory session).hasTransPortEngineRecv

section Unannounced

variable {acceptSession : AcceptSession} {server next : Server}
  {shared after : Shared} {label : Thread × Input} {own : Local}

theorem unannounced_initial
    (memory : SessionId → TcpSession)
    (bIsHeartbeat : Bool) :
    Unannounced (Server.initial memory bIsHeartbeat) := by
  refine ⟨?_, ?_, ?_, ?_⟩
  · intro nSocket session found
    simp [Server.initial, ServerState.initial, TcpSessionMgr.findSession] at found
  · intro modle nSocket registration registered
    contradiction
  · intro thread session impossible
    contradiction
  · intro thread call impossible
    contradiction

theorem QuietStep.keepsReceivers
    {after : Shared × Local}
    (quiet : QuietStep shared after) :
    KeepsReceivers shared after.1 :=
  ⟨quiet.constructed.ge, fun session _ => quiet.receiver session⟩

theorem Shared.Silent.kept
    {session : SessionId}
    (silent : shared.Silent session)
    (keeps : KeepsReceivers shared after) :
    after.Silent session :=
  ⟨silent.constructed.trans_le keeps.constructed,
    (keeps.receiver session silent.constructed).trans silent.receiver⟩

theorem CallUnannounced.kept
    {thread : Thread}
    {call : Call}
    (unannounced : CallUnannounced shared thread call)
    (keeps : KeepsReceivers shared after) :
    CallUnannounced after thread call := by
  rcases unannounced with ⟨silent, quiet⟩ | ⟨isAccept, announcing | homeless⟩
  · exact Or.inl ⟨silent.kept keeps, quiet⟩
  · exact Or.inr ⟨isAccept, Or.inl
      ⟨announcing.constructed.trans_le keeps.constructed,
        (keeps.receiver _ announcing.constructed).trans announcing.receives,
        announcing.announces, announcing.keepsEpolls⟩⟩
  · exact Or.inr ⟨isAccept, Or.inr
      ⟨homeless.constructed.trans_le keeps.constructed, homeless.quiet,
        homeless.keepsEpolls, homeless.stage⟩⟩

/-- A step after which nobody has heard of what can be found, and after which its
thread is in an unannounced call. -/
theorem Unannounced.step
    (unannounced : Unannounced server)
    (keeps : KeepsReceivers server.shared next.shared)
    (locals : next.locals = Function.update server.locals label.1 own)
    (entry : ∀ nSocket session,
      next.shared.state.mgr.findSession nSocket = some session →
        server.shared.Silent session)
    (registration : ∀ modle nSocket registration,
      next.shared.state.kernel.registrations modle nSocket =
        some registration → server.shared.Silent registration.session)
    (batch : ∀ session ∈ own.batch.map Prod.fst, server.shared.Silent session)
    (call : ∀ call, own.call = some call →
      CallUnannounced next.shared label.1 call) :
    Unannounced next := by
  refine ⟨?_, ?_, ?_, ?_⟩
  · exact fun nSocket session found => (entry nSocket session found).kept keeps
  · exact fun modle nSocket kept registered =>
      (registration modle nSocket kept registered).kept keeps
  · intro thread session member
    rw [locals] at member
    by_cases same : thread = label.1
    · subst same
      rw [Function.update_self] at member
      exact (batch session member).kept keeps
    · rw [Function.update_of_ne same] at member
      exact (unannounced.batch thread session member).kept keeps
  · intro thread other inCall
    rw [locals] at inCall
    by_cases same : thread = label.1
    · subst same
      rw [Function.update_self] at inCall
      exact call other inCall
    · rw [Function.update_of_ne same] at inCall
      exact (unannounced.call thread other inCall).kept keeps

/-- A thread takes only sessions nobody hears of. -/
theorem Unannounced.taken
    (unannounced : Unannounced server)
    {thread : Thread}
    {input : Input}
    {session : SessionId}
    (taken : server.shared.taken thread own input = some session) :
    server.shared.Silent session := by
  unfold Shared.taken at taken
  split at taken
  · obtain ⟨registration, registered, rfl⟩ := Option.map_eq_some_iff.mp taken
    exact unannounced.registration _ _ registration registered
  · exact unannounced.entry _ _ taken
  · exact unannounced.entry _ _ taken
  · exact unannounced.entry _ _ taken
  · contradiction

/-- A quiet step of a thread that knows only sessions nobody hears of. -/
theorem Unannounced.quietStep
    (unannounced : Unannounced server)
    (silent : ∀ session ∈ (server.locals label.1).pointers,
      server.shared.Silent session)
    (advanced : threadStep acceptSession server.shared label.1
      (server.locals label.1) label.2 = some (next.shared, own))
    (locals : next.locals = Function.update server.locals label.1 own)
    (quiet : QuietStep server.shared (next.shared, own)) :
    Unannounced next := by
  have sourced := sourced_threadStep advanced
  have pointed : ∀ session ∈ own.pointers, server.shared.Silent session := by
    intro session member
    rcases sourced.pointer session member with old | taken | ⟨new, below⟩
    · exact silent session old
    · exact unannounced.taken taken
    · -- nothing has been constructed
      rw [quiet.constructed, new] at below
      exact absurd below (lt_irrefl _)
  refine unannounced.step quiet.keepsReceivers locals ?_ ?_ ?_ ?_
  · intro nSocket session found
    rcases sourced.entry nSocket session found with old | known
    · exact unannounced.entry nSocket session old
    · exact silent session known
  · intro modle nSocket registration registered
    rcases sourced.registration modle nSocket registration registered with
      ⟨before, old, same⟩ | known
    · exact same ▸ unannounced.registration modle nSocket before old
    · exact silent _ known
  · exact fun session member => pointed session (List.mem_append_left _ member)
  · intro call inCall
    exact Or.inl ⟨(pointed call.session (session_mem_pointers inCall)).kept
      quiet.keepsReceivers, quiet.call call inCall⟩

/-- Finding a module calls no epoll instance. -/
theorem keepsEpolls_netEventModleLocked :
    KeepsEpolls (netEventModleLocked []) := by
  intro event member op nSocket epollEvent done isCtl
  subst isCtl
  simp [netEventModleLocked] at member

theorem keepsEpolls_notify (object : TcpSession) (nMsgType : MsgType) :
    KeepsEpolls (object.notify nMsgType) := by
  intro event member op nSocket epollEvent done isCtl
  subst isCtl
  unfold TcpSession.notify at member
  split at member
  · simp at member
  · contradiction

theorem KeepsEpolls.append
    {first second : List EngineEvent}
    (keepsFirst : KeepsEpolls first)
    (keepsSecond : KeepsEpolls second) :
    KeepsEpolls (first ++ second) := by
  intro event member
  rcases List.mem_append.mp member with before | after
  · exact keepsFirst event before
  · exact keepsSecond event after

/-- `TcpSession_Init` finds nothing wrong with what the accept loop gives it. -/
theorem arguments_accepted
    {nAcceptSock : Int}
    (positive : 0 < nAcceptSock) :
    ¬((acceptSession.arguments nAcceptSock).nSocket = -1 ∨
      (acceptSession.arguments nAcceptSock).hasNetEventModleEpoll = false ∨
        (acceptSession.arguments nAcceptSock).hasNetFiveElement = false ∨
          (acceptSession.arguments nAcceptSock).hasUser = false) := by
  simp only [AcceptSession.arguments, Bool.true_eq_false, or_false]
  omega

/-- Initialising a new session announces it when there is a receiver. -/
theorem callUnannounced_initialised
    {call : Call}
    {object : TcpSession}
    {nAcceptSock : Int}
    (positive : 0 < nAcceptSock)
    (constructed : call.session < shared.state.constructed)
    (memory : shared.state.memory call.session =
      (object.init (acceptSession.arguments nAcceptSock)).1)
    (events : call.events = netEventModleLocked [] ++
      (object.init (acceptSession.arguments nAcceptSock)).2.1) :
    CallUnannounced shared .accept call := by
  rw [TcpSession.init, if_neg (arguments_accepted positive)] at memory events
  dsimp only at memory events
  cases receives : acceptSession.hasTransPortEngineRecv with
  | false =>
      refine Or.inl ⟨⟨constructed, ?_⟩, ?_⟩
      · rw [memory]
        exact receives
      · rw [events, notifications_append, TcpSession.notifications_notify,
          AcceptSession.arguments, receives]
        rfl
  | true =>
      refine Or.inr ⟨rfl, Or.inl ⟨constructed, ?_, ⟨nAcceptSock, ?_⟩, ?_⟩⟩
      · rw [memory]
        exact receives
      · rw [events, notifications_append, TcpSession.notifications_notify,
          AcceptSession.arguments, receives]
        rfl
      · rw [events]
        exact keepsEpolls_netEventModleLocked.append (keepsEpolls_notify _ _)

/-- Accepting a connection leaves the other sessions, what can be found, and the
events of the accept thread. -/
theorem acceptConnection_frame
    (acceptSession : AcceptSession)
    (shared : Shared)
    (own : Local)
    (nAcceptSock : Int)
    (object : TcpSession) :
    let after := acceptConnection acceptSession shared own nAcceptSock object
    KeepsReceivers shared after.1 ∧
      after.1.state.mgr = shared.state.mgr ∧
        after.1.state.kernel.registrations =
            shared.state.kernel.registrations ∧
          after.2.batch = own.batch := by
  have others : ∀ (memory : SessionId → TcpSession) object,
      ∀ session < shared.state.constructed,
        (Function.update memory shared.state.constructed object
            session).hasTransPortEngineRecv =
          (memory session).hasTransPortEngineRecv := by
    intro memory object session below
    rw [Function.update_of_ne below.ne]
  unfold acceptConnection
  dsimp only
  split
  · refine ⟨⟨Nat.le_succ _, ?_⟩, rfl, rfl, rfl⟩
    exact fun session below => others _ _ session below
  · refine ⟨⟨Nat.le_succ _, fun session below => ?_⟩, rfl, rfl, rfl⟩
    exact (others _ _ session below).trans (others _ _ session below)

/-- The call on a new session announces it, or nobody will hear of it. -/
theorem callUnannounced_acceptConnection
    {garbage : SessionGarbage}
    {address : Nat}
    {nAcceptSock now : Int}
    {call : Call}
    (positive : 0 < nAcceptSock)
    (inCall : (acceptConnection acceptSession shared own nAcceptSock
      (TcpSession.construct garbage address now)).2.call = some call) :
    CallUnannounced (acceptConnection acceptSession shared own nAcceptSock
      (TcpSession.construct garbage address now)).1 .accept call := by
  cases found : acceptSession.findModle (acceptSession.netEventModleIndex
      (shared.state.construct nAcceptSock
        (TcpSession.construct garbage address now))) with
  | none =>
      simp only [acceptConnection, found] at inCall ⊢
      rw [← Option.some.inj inCall]
      exact Or.inr ⟨rfl, Or.inr ⟨Nat.lt_succ_self _, rfl,
        keepsEpolls_netEventModleLocked, Or.inl rfl⟩⟩
  | some modle =>
      simp only [acceptConnection, found] at inCall ⊢
      rw [← Option.some.inj inCall]
      exact callUnannounced_initialised positive (Nat.lt_succ_self _)
        (Function.update_self ..) rfl

/-- The accept thread constructs a session. -/
theorem Unannounced.accepted
    {garbage : SessionGarbage}
    {address : Nat}
    {nAcceptSock now : Int}
    (unannounced : Unannounced server)
    (isAccept : label.1 = .accept)
    (positive : 0 < nAcceptSock)
    (locals : next.locals = Function.update server.locals label.1 own)
    (accepts : (next.shared, own) =
      acceptConnection acceptSession server.shared (server.locals label.1)
        nAcceptSock (TcpSession.construct garbage address now)) :
    Unannounced next := by
  obtain ⟨keeps, mgr, registrations, batch⟩ := acceptConnection_frame
    acceptSession server.shared (server.locals label.1) nAcceptSock
    (TcpSession.construct garbage address now)
  have isShared : next.shared = (acceptConnection acceptSession server.shared
      (server.locals label.1) nAcceptSock
      (TcpSession.construct garbage address now)).1 := congrArg Prod.fst accepts
  have isOwn : own = (acceptConnection acceptSession server.shared
      (server.locals label.1) nAcceptSock
      (TcpSession.construct garbage address now)).2 := congrArg Prod.snd accepts
  rw [← isShared] at keeps mgr registrations
  refine unannounced.step keeps locals ?_ ?_ ?_ ?_
  · rw [mgr]
    exact unannounced.entry
  · rw [registrations]
    exact unannounced.registration
  · rw [isOwn, batch]
    exact unannounced.batch label.1
  · intro call inCall
    rw [isOwn] at inCall
    rw [isAccept, isShared]
    exact callUnannounced_acceptConnection positive inCall

theorem KeepsEpolls.tail
    {event : EngineEvent}
    {events : List EngineEvent}
    (keeps : KeepsEpolls (event :: events)) :
    KeepsEpolls events :=
  fun other member => keeps other (List.mem_cons_of_mem _ member)

theorem keepsEpolls_delete (object : TcpSession) :
    KeepsEpolls object.delete.2 := by
  intro event member op nSocket epollEvent done isCtl
  subst isCtl
  unfold TcpSession.delete TcpSession.closeSocket at member
  split at member
  · simp at member
  · simp at member

/-- A thread in a call performs an event that is no `epoll_ctl`. -/
theorem Unannounced.performed
    {session : SessionId}
    {modle : Nat}
    {event : EngineEvent}
    {events : List EngineEvent}
    {stage : Stage}
    (unannounced : Unannounced server)
    (keeps : KeepsEpolls (event :: events))
    (performs : server.shared.perform label.1 session modle event =
      some next.shared)
    (locals : next.locals = Function.update server.locals label.1
      { server.locals label.1 with
        call := some ⟨session, modle, events, stage⟩ })
    (rest : CallUnannounced server.shared label.1
      ⟨session, modle, events, stage⟩) :
    Unannounced next := by
  have leaves := performed_of_perform performs
  have keepsReceivers : KeepsReceivers server.shared next.shared :=
    ⟨leaves.constructed.ge, fun session _ => by rw [leaves.memory]⟩
  refine unannounced.step keepsReceivers locals ?_ ?_ ?_ ?_
  · rw [leaves.mgr]
    exact unannounced.entry
  · intro modle nSocket registration registered
    apply unannounced.registration modle nSocket registration
    refine leaves.registration ?_ modle nSocket registration registered
    intro other member
    rw [List.mem_singleton.mp member]
    exact keeps event (List.mem_cons_self ..)
  · exact unannounced.batch label.1
  · intro other inCall
    rw [← Option.some.inj inCall]
    exact rest.kept keepsReceivers

/-- A thread whose call has events left performs the first of them. -/
theorem callStep_cons
    {thread : Thread}
    {session : SessionId}
    {modle : Nat}
    {event : EngineEvent}
    {events : List EngineEvent}
    {stage : Stage}
    {input : Input}
    {after : Shared × Local}
    (advanced : callStep shared thread own ⟨session, modle, event :: events, stage⟩
      input = some after) :
    input = .perform ∧
      shared.perform thread session modle event = some after.1 ∧
        after.2 = { own with call := some ⟨session, modle, events, stage⟩ } := by
  cases callStep_cases advanced with
  | perform first performed =>
      obtain ⟨rfl, rfl⟩ := List.cons.inj first
      exact ⟨rfl, performed, rfl⟩
  | goOn quiet | receive quiet | send quiet => contradiction

/-- A thread goes on with a teardown. -/
theorem callStep_teardown
    {thread : Thread}
    {session : SessionId}
    {modle : Nat}
    {calls : List Teardown}
    {input : Input}
    {after : Shared × Local}
    (advanced : callStep shared thread own ⟨session, modle, [], .teardown calls⟩
      input = some after) :
    ∃ done, afterCall shared thread own ⟨session, modle, [], .teardown calls⟩
      done = some after := by
  cases callStep_cases advanced with
  | perform first => contradiction
  | goOn _ advanced => exact ⟨_, advanced⟩
  | receive _ stage | send _ stage => contradiction

/-- The accept thread goes on, and does not announce its session yet. -/
theorem Unannounced.waits
    {call : Call}
    (unannounced : Unannounced server)
    (inCall : (server.locals label.1).call = some call)
    (isAccept : label.1 = .accept)
    (announcing : Announcing server.shared call)
    (unheard : ∀ session nSessionId,
      server.notified label ≠ some (session, nSessionId, .connect))
    (advanced : callStep server.shared label.1 (server.locals label.1) call
      label.2 = some (next.shared, own))
    (locals : next.locals = Function.update server.locals label.1 own) :
    Unannounced next := by
  obtain ⟨session, modle, events, stage⟩ := call
  obtain ⟨nSessionId, announces⟩ := announcing.announces
  cases events with
  | nil => contradiction
  | cons event events =>
      obtain ⟨isPerform, performs, rfl⟩ := callStep_cons advanced
      cases isNotification : event.notification with
      | some notification =>
          rw [notifications, List.filterMap_cons_some isNotification,
            List.cons.injEq] at announces
          refine absurd ?_ (unheard session nSessionId)
          rw [Server.notified, inCall, isPerform]
          simp only [isNotification, announces.1, Option.map_some]
      | none =>
          rw [notifications, List.filterMap_cons_none isNotification] at announces
          apply unannounced.performed announcing.keepsEpolls performs locals
          exact Or.inr ⟨isAccept, Or.inl ⟨announcing.constructed,
            announcing.receives, ⟨nSessionId, announces⟩,
            announcing.keepsEpolls.tail⟩⟩

/-- The accept thread gets rid of a session for which there is no module. -/
theorem Unannounced.discards
    {call : Call}
    (unannounced : Unannounced server)
    (isAccept : label.1 = .accept)
    (homeless : Homeless server.shared call)
    (advanced : callStep server.shared label.1 (server.locals label.1) call
      label.2 = some (next.shared, own))
    (locals : next.locals = Function.update server.locals label.1 own) :
    Unannounced next := by
  obtain ⟨session, modle, events, stage⟩ := call
  have quiet := homeless.quiet
  cases events with
  | cons event events =>
      obtain ⟨-, performs, rfl⟩ := callStep_cons advanced
      apply unannounced.performed homeless.keepsEpolls performs locals
      exact Or.inr ⟨isAccept, Or.inr ⟨homeless.constructed,
        notifications_tail quiet, homeless.keepsEpolls.tail, homeless.stage⟩⟩
  | nil =>
      rcases homeless.stage with isDelete | isEmpty
      · dsimp only at isDelete
        subst isDelete
        obtain ⟨done, deleted⟩ := callStep_teardown advanced
        change nextTeardown _ _ _ _ done [] .delete = _ at deleted
        have quietStep : QuietStep server.shared (next.shared, own) := by
          refine quietStep_nextTeardown ?_ deleted rfl
          exact nofun
        have keeps := quietStep.keepsReceivers
        obtain ⟨isShared, rfl⟩ := Prod.mk.inj (Option.some.inj deleted)
        refine unannounced.step keeps locals ?_ ?_
          (unannounced.batch label.1) ?_
        · rw [← isShared]
          exact unannounced.entry
        · rw [← isShared]
          exact unannounced.registration
        · intro call inCall
          rw [← Option.some.inj inCall]
          refine Or.inr ⟨isAccept, Or.inr ⟨?_, ?_, ?_, Or.inr rfl⟩⟩
          · exact homeless.constructed.trans_le keeps.constructed
          · exact TcpSession.notifications_delete _
          · exact keepsEpolls_delete _
      · dsimp only at isEmpty
        subst isEmpty
        obtain ⟨done, returned⟩ := callStep_teardown advanced
        obtain ⟨isShared, rfl⟩ := Prod.mk.inj (Option.some.inj returned)
        refine unannounced.step ?_ locals ?_ ?_ (unannounced.batch label.1) ?_
        · rw [← isShared]
          exact ⟨le_rfl, fun _ _ => rfl⟩
        · rw [← isShared]
          exact unannounced.entry
        · rw [← isShared]
          exact unannounced.registration
        · intro call impossible
          contradiction

/-- A step that announces nothing leaves nothing announced. -/
theorem unannounced_serverStep
    (unannounced : Unannounced server)
    (unheard : ∀ session nSessionId,
      server.notified label ≠ some (session, nSessionId, .connect))
    (stepped : serverStep acceptSession server label = some next) :
    Unannounced next := by
  obtain ⟨own, advanced, locals⟩ := serverStep_eq_some stepped
  have batch := unannounced.batch label.1
  have whole := advanced
  unfold threadStep at advanced
  split at advanced
  · rename_i call inCall
    rcases unannounced.call label.1 call inCall with
      ⟨silent, quiet⟩ | ⟨isAccept, announcing | homeless⟩
    · refine unannounced.quietStep ?_ whole locals
        (quietStep_callStep silent quiet advanced)
      intro session member
      rcases List.mem_append.mp member with fetched | called
      · exact batch session fetched
      · rw [inCall] at called
        rw [List.mem_singleton.mp called]
        exact silent
    · exact unannounced.waits inCall isAccept announcing unheard advanced locals
    · exact unannounced.discards isAccept homeless advanced locals
  · rename_i idle
    rcases quietStep_idleStep idle advanced with quiet | ⟨nAcceptSock, garbage,
      address, now, positive, isAccept, accepts⟩
    · refine unannounced.quietStep ?_ whole locals quiet
      intro session member
      rw [Local.pointers, idle] at member
      exact batch session ((List.mem_append.mp member).resolve_right
        List.not_mem_nil)
    · exact unannounced.accepted isAccept positive locals accepts

/-- A notification is the next event of the call of its thread. -/
theorem notified_eq_some
    {session : SessionId}
    {nSessionId : Int}
    {nMsgType : MsgType}
    (notifies : server.notified label = some (session, nSessionId, nMsgType)) :
    label.2 = .perform ∧ ∃ modle events stage,
      (server.locals label.1).call = some ⟨session, modle,
        .onTransPortEngineNotify nSessionId nMsgType :: events, stage⟩ := by
  unfold Server.notified at notifies
  split at notifies
  · rename_i modle event events stage inCall isPerform
    obtain ⟨notification, isNotification, same⟩ :=
      Option.map_eq_some_iff.mp notifies
    obtain ⟨rfl, rfl⟩ := Prod.mk.inj same
    refine ⟨isPerform, modle, events, stage, ?_⟩
    unfold EngineEvent.notification at isNotification
    split at isNotification
    · rw [Option.some.injEq, Prod.mk.injEq] at isNotification
      rw [inCall, isNotification.1, isNotification.2]
    · contradiction
  · contradiction

/-- As long as nothing has been announced, all a thread can notify of is a new
session that cannot be found. -/
theorem Unannounced.notified
    {session : SessionId}
    {nSessionId : Int}
    {nMsgType : MsgType}
    (unannounced : Unannounced server)
    (notifies : server.notified label = some (session, nSessionId, nMsgType)) :
    nMsgType = .connect ∧
      server.shared.state.mgr.findSession nSessionId ≠ some session := by
  obtain ⟨-, modle, events, stage, inCall⟩ := notified_eq_some notifies
  rcases unannounced.call label.1 _ inCall with
    ⟨-, quiet⟩ | ⟨-, announcing | homeless⟩
  · contradiction
  · obtain ⟨announcedId, announces⟩ := announcing.announces
    have first : (nSessionId, nMsgType) = (announcedId, .connect) :=
      List.head_eq_of_cons_eq announces
    refine ⟨(Prod.mk.inj first).2, fun found => ?_⟩
    have silent := (unannounced.entry nSessionId session found).receiver
    rw [announcing.receives] at silent
    contradiction
  · exact absurd homeless.quiet nofun

end Unannounced

/-! ## Ids are right until the first announcement -/

namespace AnnouncedServer

variable {acceptSession : AcceptSession} {state next : AnnouncedServer}
  {label : Thread × Input} {labels : List (Thread × Input)}

theorem KeepsIds.start
    (keeps : KeepsIds acceptSession state labels) : state.IdsFound := by
  cases labels with
  | nil => exact keeps.2 state rfl
  | cons label labels => exact keeps.1.1.1

theorem KeepsIds.tail
    (keeps : KeepsIds acceptSession state (label :: labels))
    (stepped : step acceptSession state label = some next) :
    KeepsIds acceptSession next labels :=
  ⟨keeps.1.2 next stepped, fun last reached =>
    keeps.2 last ((run_cons_some stepped labels).trans reached)⟩

/-- A notification can always be made, and the session manager knows nothing of
it. -/
theorem step_announces
    (acceptSession : AcceptSession)
    {session : SessionId}
    {nSessionId : Int}
    (notifies : state.server.notified label =
      some (session, nSessionId, .connect)) :
    ∃ next, step acceptSession state label = some next ∧
      (session, nSessionId) ∈ next.announced ∧
        next.server.shared.state.mgr = state.server.shared.state.mgr := by
  obtain ⟨isPerform, modle, events, stage, inCall⟩ := notified_eq_some notifies
  have stepped : ∃ server, serverStep acceptSession state.server label =
      some server ∧ server.shared.state.mgr = state.server.shared.state.mgr := by
    rw [serverStep, threadStep, inCall, isPerform]
    exact ⟨_, rfl, rfl⟩
  obtain ⟨server, serverStepped, sameMgr⟩ := stepped
  refine ⟨⟨server, record state.announced (state.server.notified label)⟩, ?_, ?_,
    sameMgr⟩
  · rw [step, serverStepped]
    rfl
  · rw [notifies]
    exact List.mem_cons_self ..

/-- Nothing has been announced. -/
structure Unheard (state : AnnouncedServer) : Prop where
  server : Unannounced state.server
  announced : state.announced = []

theorem Unheard.idsFound (unheard : state.Unheard) : state.IdsFound := by
  intro entry member
  rw [unheard.announced] at member
  contradiction

/-- The first announcement is of a session that cannot be found. -/
theorem Unheard.not_announces
    (unheard : state.Unheard)
    (keeps : KeepsIds acceptSession state (label :: labels)) :
    ¬state.Announces label := by
  rintro ⟨session, nSessionId, notifies⟩
  obtain ⟨next, stepped, announced, sameMgr⟩ :=
    step_announces acceptSession notifies
  have found := (keeps.tail stepped).start _ announced
  rw [sameMgr] at found
  exact (unheard.server.notified notifies).2 found

theorem Unheard.notifiesRight
    (unheard : state.Unheard)
    (quiet : ¬state.Announces label) :
    state.NotifiesRight label := by
  unfold NotifiesRight
  split
  · trivial
  · rename_i session nSessionId notifies
    exact absurd ⟨session, nSessionId, notifies⟩ quiet
  · rename_i session nSessionId notifies
    have isConnect := (unheard.server.notified notifies).1
    contradiction

theorem Unheard.step
    (unheard : state.Unheard)
    (quiet : ¬state.Announces label)
    (stepped : AnnouncedServer.step acceptSession state label = some next) :
    next.Unheard := by
  obtain ⟨server, serverStepped, rfl⟩ := Option.map_eq_some_iff.mp stepped
  refine ⟨unannounced_serverStep unheard.server ?_ serverStepped, ?_⟩
  · intro session nSessionId notifies
    exact quiet ⟨session, nSessionId, notifies⟩
  · dsimp only
    rw [unheard.announced]
    cases notifies : state.server.notified label with
    | none => rfl
    | some notification =>
        obtain ⟨session, nSessionId, nMsgType⟩ := notification
        obtain rfl := (unheard.server.notified notifies).1
        exact absurd ⟨session, nSessionId, notifies⟩ quiet

theorem Unheard.keepsIds_iff_quiet
    (unheard : state.Unheard) :
    KeepsIds acceptSession state labels ↔
      Throughout (AnnouncedServer.step acceptSession)
        (fun state label => ¬state.Announces label) state labels := by
  constructor
  · intro keeps
    induction labels generalizing state with
    | nil => trivial
    | cons label labels inductionHypothesis =>
        have quiet := unheard.not_announces keeps
        exact ⟨quiet, fun next stepped =>
          inductionHypothesis (unheard.step quiet stepped) (keeps.tail stepped)⟩
  · intro throughout
    have preserved : ∀ state label next, Unheard state → ¬state.Announces label →
        AnnouncedServer.step acceptSession state label = some next →
          Unheard next :=
      fun _ _ _ unheard quiet stepped => unheard.step quiet stepped
    constructor
    · refine throughout_of_invariant preserved ?_ unheard throughout
      exact fun _ _ unheard quiet => ⟨unheard.idsFound, unheard.notifiesRight quiet⟩
    · intro last reached
      exact (invariant_of_run preserved unheard throughout reached).idsFound

end AnnouncedServer

/-- Ids are valid between the notifications exactly in the runs in which nothing
is announced. -/
theorem keepsIds_iff
    (acceptSession : AcceptSession)
    (memory : SessionId → TcpSession)
    (bIsHeartbeat : Bool)
    (labels : List (Thread × Input)) :
    AnnouncedServer.KeepsIds acceptSession
        (.initial memory bIsHeartbeat) labels ↔
      Throughout (AnnouncedServer.step acceptSession)
        (fun state label => ¬state.Announces label)
        (.initial memory bIsHeartbeat) labels :=
  AnnouncedServer.Unheard.keepsIds_iff_quiet
    ⟨unannounced_initial memory bIsHeartbeat, rfl⟩

/-- The first session is announced under its socket, and the session manager
cannot find it. -/
theorem not_keepsIds_firstSession :
    ¬∀ (acceptSession : AcceptSession) (memory : SessionId → TcpSession)
        (bIsHeartbeat : Bool) (labels : List (Thread × Input)),
      AnnouncedServer.KeepsIds acceptSession
        (.initial memory bIsHeartbeat) labels := by
  intro always
  have found := (always oneModle blankMemory true
    ((acceptSteps 0x7f0000001010).take 4)).2 _ rfl (0, 16)
    (List.mem_cons_self ..)
  contradiction

end TransPortEngine
