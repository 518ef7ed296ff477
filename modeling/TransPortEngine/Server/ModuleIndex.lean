import TransPortEngine.Server.ListedSessions

/-!
# The module a session names

The accept loop registers a session with the net event module whose turn it is,
and the heartbeat detection takes it from the module its `m_nEventModleIndex`
names. `TcpSession_Init` sets that index on Windows only; on Linux it stays 0.
Map and epoll instances agree as long as only the first module gets sessions and
the sessions of the map stay registered. Between `TcpSessionMgr_AddSession` and
`NetEventModleEpoll_AddEvent` a session is in the map only.
-/

namespace TransPortEngine

open MachineInt Transition

/-- A session is registered with the epoll instance of the module
`NetEventModleMgr_FindModle` returns for its index. -/
def ModuleAgrees
    (acceptSession : AcceptSession)
    (state : ServerState)
    (session : SessionId) : Prop :=
  ∃ modle registration,
    acceptSession.findModle (state.memory session).nEventModleIndex =
        some modle ∧
      state.kernel.registrations modle (state.memory session).nSocket =
          some registration ∧
        registration.session = session

/-- The conditions on a step of the server. -/
def Server.KeepsFirstModle (server : Server) (label : Thread × Input) : Prop :=
  TransPortEngine.KeepsFirstModle server.shared label.1 (server.locals label.1)
    label.2

/-! ## A session that is not yet in the map -/

/-- A session the accept loop has initialised and nobody else knows. -/
structure Fresh (server : Server) (thread : Thread) (call : Call) : Prop where
  accepts : thread = .accept
  pointer : ∀ other, other ≠ thread →
    call.session ∉ (server.locals other).pointers
  entry : ∀ nSocket,
    server.shared.state.mgr.findSession nSocket ≠ some call.session
  registration : ∀ modle nSocket registration,
    server.shared.state.kernel.registrations modle nSocket =
        some registration →
      registration.session ≠ call.session
  plain : PlainEvents call.events
  object : ∀ nAcceptSock nRet, call.stage = .initialised nAcceptSock nRet →
    0 ≤ nRet → Listed nAcceptSock (server.shared.state.memory call.session)

section Initialised

variable {acceptSession : AcceptSession} {shared : Shared} {thread : Thread}
  {own : Local} {input : Input} {new : Call} {nAcceptSock now nRet : Int}
  {garbage : SessionGarbage} {address : Nat} {after : Shared × Local}

/-- What `TcpSession_Init` makes of a new object. -/
theorem setUp_acceptConnection
    {nSocket : Int}
    (begins : (acceptConnection acceptSession shared own nAcceptSock
      (TcpSession.construct garbage address now)).2.call = some new)
    (stage : new.stage = .initialised nSocket nRet) :
    new.session = shared.state.constructed ∧ PlainEvents new.events ∧
      (0 ≤ nRet → Listed nSocket ((acceptConnection acceptSession shared own
        nAcceptSock (TcpSession.construct garbage address now)).1.state.memory
          shared.state.constructed)) := by
  have locks : PlainEvents (netEventModleLocked []) :=
    .cons trivial (.cons trivial plainEvents_nil)
  revert begins
  unfold acceptConnection
  dsimp only
  split
  · intro begins
    obtain rfl := Option.some.inj begins
    contradiction
  · intro begins
    obtain rfl := Option.some.inj begins
    injection stage with isSocket isRet
    subst isSocket isRet
    rw [ServerState.store]
    dsimp only
    rw [Function.update_self]
    unfold TcpSession.init
    split
    · exact ⟨rfl, locks.append plainEvents_nil, fun impossible =>
        absurd impossible neg_one_lt_zero.not_ge⟩
    · exact ⟨rfl, locks.append (Kernel.plainEvents_notify _ _),
        fun _ => ⟨rfl, rfl⟩⟩

/-- A thread that has initialised a session had done so before, or it has just
accepted the connection. -/
inductive Initialises
    (acceptSession : AcceptSession)
    (shared : Shared)
    (own : Local)
    (new : Call) : Thread → Shared × Local → Prop
  | before
      {thread : Thread}
      {call : Call}
      {event : EngineEvent}
      {after : Shared × Local}
      (inCall : own.call = some call)
      (first : call.events = event :: new.events)
      (session : new.session = call.session)
      (stage : new.stage = call.stage)
      (state : after.1.state = { shared.state with
        kernel := shared.state.kernel.perform call.modle call.session event }) :
      Initialises acceptSession shared own new thread after
  | accepts
      {nAcceptSock now : Int}
      {garbage : SessionGarbage}
      {address : Nat} :
      Initialises acceptSession shared own new .accept
        (acceptConnection acceptSession shared own nAcceptSock
          (TcpSession.construct garbage address now))

theorem initialises_threadStep
    (advanced : threadStep acceptSession shared thread own input = some after)
    (goesOn : after.2.call = some new)
    (stage : new.stage = .initialised nAcceptSock nRet) :
    Initialises acceptSession shared own new thread after := by
  unfold threadStep at advanced
  split at advanced
  · rename_i call inCall
    cases callStep_cases advanced with
    | perform first performed =>
        obtain rfl := Option.some.inj goesOn
        exact .before inCall first rfl rfl (state_of_perform performed)
    | receive | send =>
        obtain rfl := Option.some.inj goesOn
        contradiction
    | goOn _ advanced =>
        cases afterCall_cases advanced with
        | giveUp | addSession | addEvent | postRecv | receive =>
            obtain rfl := Option.some.inj goesOn
            contradiction
        | drop _ _ dropped =>
            obtain ⟨-, _, _, rfl⟩ := dropFailed_eq_some dropped
            obtain ⟨_, -, rfl⟩ := Option.map_eq_some_iff.mp goesOn
            contradiction
        | @teardown first _ _ _ advanced =>
            cases first with
            | delSession =>
                obtain ⟨-, rfl⟩ := nextTeardown_delSession advanced
                obtain rfl := Option.some.inj goesOn
                contradiction
            | delEvent | fini | delete =>
                obtain rfl := Option.some.inj advanced
                obtain rfl := Option.some.inj goesOn
                contradiction
        | returned => contradiction
  · rename_i idle
    have none : own.call ≠ some new := by
      rw [idle]
      nofun
    cases idleStep_cases advanced with
    | accept => exact .accepts
    | handle _ _ handled =>
        cases handleFetched_cases handled with
        | ignore | pointless => exact absurd goesOn none
        | send | receive =>
            obtain rfl := Option.some.inj goesOn
            contradiction
    | find =>
        obtain ⟨_, -, rfl⟩ := Option.map_eq_some_iff.mp goesOn
        contradiction
    | enterHeartbeat _ _ entered | enterStop _ entered =>
        obtain ⟨-, rfl⟩ := enterSweep_eq_some entered
        exact absurd goesOn none
    | evict | finish =>
        obtain rfl := Option.some.inj goesOn
        contradiction
    | fetch | leaveHeartbeat | leaveStop | passOver => exact absurd goesOn none

/-- What a thread takes can be found. -/
theorem found_of_taken
    {session : SessionId}
    (taken : shared.taken thread own input = some session) :
    (∃ nSocket, shared.state.mgr.findSession nSocket = some session) ∨
      ∃ modle nSocket registration,
        shared.state.kernel.registrations modle nSocket = some registration ∧
          registration.session = session := by
  unfold Shared.taken at taken
  split at taken
  · obtain ⟨registration, registered, isSession⟩ :=
      Option.map_eq_some_iff.mp taken
    exact Or.inr ⟨_, _, registration, registered, isSession⟩
  · exact Or.inl ⟨_, taken⟩
  · exact Or.inl ⟨_, taken⟩
  · exact Or.inl ⟨_, taken⟩
  · contradiction

end Initialised

/-! ## The server -/

/-- Every session of the map is in its place, the calls on it leave it there, and
it is registered with the first module unless the accept loop has it in its
hands. -/
structure Housed (server : Server) : Prop where
  constructed : Constructed server
  listed : ∀ nSocket session,
    server.shared.state.mgr.findSession nSocket = some session →
      Listed nSocket (server.shared.state.memory session)
  call : ∀ nSocket session,
    server.shared.state.mgr.findSession nSocket = some session →
      ∀ thread call, (server.locals thread).call = some call →
        call.session = session → call.LeavesListed nSocket thread
  registered : ∀ nSocket session,
    server.shared.state.mgr.findSession nSocket = some session →
      server.shared.state.kernel.Holds nSocket session ∨
        (server.locals .accept).HasUnregistered session
  fresh : ∀ thread call nAcceptSock nRet,
    (server.locals thread).call = some call →
      call.stage = .initialised nAcceptSock nRet → Fresh server thread call

section Runs

variable {acceptSession : AcceptSession} {server next : Server}
  {label : Thread × Input} {own : Local}

theorem housed_initial
    (memory : SessionId → TcpSession)
    (bIsHeartbeat : Bool) :
    Housed (Server.initial memory bIsHeartbeat) := by
  refine ⟨constructed_initial memory bIsHeartbeat, ?_, ?_, ?_, ?_⟩
  · intro nSocket session impossible
    contradiction
  · intro nSocket session impossible
    contradiction
  · intro nSocket session impossible
    contradiction
  · intro thread call nAcceptSock nRet impossible
    contradiction

/-- A session only the accept loop knows stays so while another thread is at
work. -/
theorem Fresh.other
    {thread : Thread}
    {call : Call}
    (fresh : Fresh server thread call)
    (constructed : Constructed server)
    (inCall : (server.locals thread).call = some call)
    (different : label.1 ≠ thread)
    (advanced : threadStep acceptSession server.shared label.1
      (server.locals label.1) label.2 = some (next.shared, own))
    (locals : next.locals = Function.update server.locals label.1 own) :
    Fresh next thread call := by
  have sourced := sourced_threadStep advanced
  have known := constructed.pointer thread _ (session_mem_pointers inCall)
  have unknown := fresh.pointer label.1 different
  refine ⟨fresh.accepts, ?_, ?_, ?_, fresh.plain, ?_⟩
  · intro other notSelf
    rw [locals]
    by_cases same : other = label.1
    · subst same
      rw [Function.update_self]
      intro member
      rcases sourced.pointer _ member with old | taken | ⟨new, -⟩
      · exact unknown old
      · rcases found_of_taken taken with ⟨nSocket, found⟩ |
          ⟨modle, nSocket, registration, registered, isSession⟩
        · exact fresh.entry nSocket found
        · exact fresh.registration modle nSocket registration registered
            isSession
      · exact known.ne new
    · rw [Function.update_of_ne same]
      exact fresh.pointer other notSelf
  · intro nSocket found
    rcases sourced.entry nSocket _ found with old | pointed
    · exact fresh.entry nSocket old
    · exact unknown pointed
  · intro modle nSocket registration registered isSession
    rcases sourced.registration modle nSocket registration registered with
      ⟨before, old, same⟩ | pointed
    · exact fresh.registration modle nSocket before old (same.trans isSession)
    · exact unknown (isSession ▸ pointed)
  · intro nAcceptSock nRet stage nonneg
    exact listed_threadStep (fresh.object nAcceptSock nRet stage nonneg) known
      unknown advanced

/-- The thread that has initialised a session notifies the application, or it has
just accepted the connection. -/
theorem Housed.fresh_self
    {new : Call}
    {nAcceptSock nRet : Int}
    (housed : Housed server)
    (advanced : threadStep acceptSession server.shared label.1
      (server.locals label.1) label.2 = some (next.shared, own))
    (locals : next.locals = Function.update server.locals label.1 own)
    (inCall : own.call = some new)
    (stage : new.stage = .initialised nAcceptSock nRet) :
    Fresh next label.1 new := by
  have others : ∀ other, other ≠ label.1 →
      next.locals other = server.locals other := by
    intro other different
    rw [locals, Function.update_of_ne different]
  have initialises := initialises_threadStep advanced inCall stage
  generalize isAfter : (next.shared, own) = after at initialises
  generalize isThread : label.1 = thread at initialises others ⊢
  cases initialises with
  | @before _ call event _ wasCall first isSession sameStage state =>
      subst isAfter isThread
      have fresh := housed.fresh label.1 call _ _ wasCall (sameStage ▸ stage)
      dsimp only at state
      refine ⟨fresh.accepts, ?_, ?_, ?_, ?_, ?_⟩
      · intro other different
        rw [others other different, isSession]
        exact fresh.pointer other different
      · rw [state, isSession]
        exact fresh.entry
      · intro modle nSocket registration registered
        rw [isSession]
        rw [state] at registered
        rcases Kernel.registration_perform registered with old |
          ⟨op, added, isCtl, -⟩
        · exact fresh.registration modle nSocket registration old
        · have plain := fresh.plain event (first ▸ List.mem_cons_self)
          rw [isCtl] at plain
          exact plain.elim
      · intro each member
        exact fresh.plain each (first ▸ List.mem_cons_of_mem _ member)
      · intro nSocket nRet' stage' nonneg
        rw [state, isSession]
        exact fresh.object nSocket nRet' (sameStage ▸ stage') nonneg
  | @accepts nSock now garbage address =>
      have isShared := congrArg Prod.fst isAfter
      have isOwn := congrArg Prod.snd isAfter
      dsimp only at isShared isOwn
      have begins := inCall
      rw [isOwn] at begins
      obtain ⟨isSession, plain, -⟩ := setUp_acceptConnection begins stage
      obtain ⟨-, mgr, registrations, -⟩ := acceptConnection_frame acceptSession
        server.shared (server.locals .accept) nSock
        (TcpSession.construct garbage address now)
      refine ⟨rfl, ?_, ?_, ?_, plain, ?_⟩
      · intro other different member
        rw [others other different, isSession] at member
        exact absurd (housed.constructed.pointer other _ member) (lt_irrefl _)
      · intro nSocket found
        rw [isShared, mgr, isSession] at found
        exact absurd (housed.constructed.entry nSocket _ found) (lt_irrefl _)
      · intro modle nSocket registration registered same
        rw [isShared, registrations] at registered
        have known := housed.constructed.registration modle nSocket registration
          registered
        rw [same, isSession] at known
        exact lt_irrefl _ known
      · intro nSocket nRet' stage' nonneg
        rw [isShared, isSession]
        exact (setUp_acceptConnection begins stage').2.2 nonneg

/-- A step that meets the conditions keeps the sessions of the map where they
are. -/
theorem housed_serverStep
    (housed : Housed server)
    (keeps : server.KeepsFirstModle label)
    (stepped : serverStep acceptSession server label = some next) :
    Housed next := by
  obtain ⟨own, advanced, locals⟩ := serverStep_eq_some stepped
  have self : next.locals label.1 = own := by
    rw [locals, Function.update_self]
  have others : ∀ thread, thread ≠ label.1 →
      next.locals thread = server.locals thread := by
    intro thread different
    rw [locals, Function.update_of_ne different]
  have kept : ∀ nSocket session,
      server.shared.state.mgr.findSession nSocket = some session →
        next.shared.state.mgr.findSession nSocket = some session →
          ListedStep server.shared label.1 (server.locals label.1) nSocket
            session (next.shared, own) := by
    intro nSocket session entry found
    have listed := housed.listed nSocket session entry
    refine listedStep_threadStep listed
      (housed.constructed.entry nSocket session entry) ?_ entry
      (housed.call nSocket session entry label.1) keeps advanced found
    intro other isOther
    exact (housed.listed other session isOther).nSocket.symm.trans listed.nSocket
  refine ⟨constructed_serverStep housed.constructed stepped, ?_, ?_, ?_, ?_⟩
  · intro nSocket session found
    rcases entry_threadStep advanced found with entry | ⟨nAcceptSock, adds⟩
    · exact (kept nSocket session entry found).object
    · obtain ⟨⟨call, nRet, inCall, rfl, stage, nonneg, -⟩, rfl, memory⟩ := adds
      have object := (housed.fresh label.1 call _ _ inCall stage).object _ _ stage
        nonneg
      dsimp only at memory
      rw [memory, object.nSocket]
      exact object
  · intro nSocket session found thread other isOther isSession
    rcases entry_threadStep advanced found with entry | ⟨nAcceptSock, adds⟩
    · by_cases same : thread = label.1
      · subst same
        exact (kept nSocket session entry found).call other (self ▸ isOther)
          isSession
      · rw [others thread same] at isOther
        exact housed.call nSocket session entry thread other isOther isSession
    · obtain ⟨⟨call, nRet, inCall, rfl, stage, nonneg, goesOn⟩, rfl, -⟩ := adds
      have fresh := housed.fresh label.1 call _ _ inCall stage
      by_cases same : thread = label.1
      · subst same
        rw [self] at isOther
        obtain rfl := Option.some.inj (goesOn.symm.trans isOther)
        exact ⟨fresh.accepts, (fresh.object _ _ stage nonneg).nSocket.symm⟩
      · rw [others thread same] at isOther
        exact absurd (isSession ▸ session_mem_pointers isOther)
          (fresh.pointer thread same)
  · intro nSocket session found
    rcases entry_threadStep advanced found with entry | ⟨nAcceptSock, adds⟩
    · have step := kept nSocket session entry found
      have before := housed.registered nSocket session entry
      by_cases accepts : label.1 = .accept
      · rw [← accepts] at before ⊢
        rw [self]
        exact step.registered before
      · -- only the accept loop has unregistered sessions
        rw [others .accept (Ne.symm accepts)]
        rcases before with holds | unregistered
        · left
          refine (step.registered (Or.inl holds)).resolve_right ?_
          rintro ⟨call, inCall, isSession, unregistered⟩
          exact accepts ((step.call call inCall isSession).accepts unregistered)
        · exact Or.inr unregistered
    · obtain ⟨⟨call, nRet, inCall, rfl, stage, nonneg, goesOn⟩, -, -⟩ := adds
      right
      rw [← (housed.fresh label.1 call _ _ inCall stage).accepts, self]
      exact ⟨_, goesOn, rfl, trivial⟩
  · intro thread call nAcceptSock nRet inCall stage
    by_cases same : thread = label.1
    · subst same
      exact housed.fresh_self advanced locals (self ▸ inCall) stage
    · rw [others thread same] at inCall
      exact (housed.fresh thread call _ _ inCall stage).other housed.constructed
        inCall (Ne.symm same) advanced locals

end Runs

/-- In every run whose steps meet the conditions, every session of the map is
registered with the module its index names, whatever the number of modules, unless
the accept loop is about to add its descriptor or to remove its entry. -/
theorem moduleAgrees_of_firstModle
    (acceptSession : AcceptSession)
    (modles : 0 < acceptSession.nEventModleCount)
    (memory : SessionId → TcpSession)
    (bIsHeartbeat : Bool)
    (labels : List (Thread × Input))
    (server : Server)
    (keeps : Throughout (serverStep acceptSession) Server.KeepsFirstModle
      (Server.initial memory bIsHeartbeat) labels)
    (reached : run (serverStep acceptSession)
      (Server.initial memory bIsHeartbeat) labels = some server)
    (nSocket : Int)
    (session : SessionId)
    (found : server.shared.state.mgr.findSession nSocket = some session)
    (registered : ¬(server.locals .accept).HasUnregistered session) :
    ModuleAgrees acceptSession server.shared.state session := by
  have housed : Housed server := invariant_of_run
    (fun _ _ _ kept condition stepped => housed_serverStep kept condition stepped)
    (housed_initial memory bIsHeartbeat) keeps reached
  have listed := housed.listed nSocket session found
  obtain ⟨registration, isRegistered, isSession⟩ :=
    (housed.registered nSocket session found).resolve_right registered
  refine ⟨0, registration, ?_, ?_, isSession⟩
  · rw [listed.index, AcceptSession.findModle, if_pos ⟨le_refl 0, modles⟩]
    rfl
  · rw [listed.nSocket]
    exact isRegistered

/-! ## One module and two -/

/-- The accept loop works on the only session, which is of the first module. -/
structure AcceptsOnly (server : Server) (label : Thread × Input) : Prop where
  accept : label.1 = .accept
  only : server.shared.state.constructed ≤ 1
  call : ∀ call, (server.locals .accept).call = some call →
    call.session = 0 ∧ call.modle = 0 ∧ call.Accepting

theorem AcceptsOnly.keepsFirstModle
    {server : Server}
    {label : Thread × Input}
    (accepts : AcceptsOnly server label)
    (constructed : Constructed server) :
    server.KeepsFirstModle label := by
  obtain ⟨thread, input⟩ := label
  obtain ⟨isAccept, only, isCall⟩ := accepts
  dsimp only at isAccept
  subst isAccept
  refine ⟨?_, ?_, ?_, nofun⟩
  · intro call nAcceptSock inCall _ _
    exact (isCall call inCall).2.1
  · intro call event nRet inCall stage
    have accepting := (isCall call inCall).2.2
    rw [Call.Accepting] at accepting
    rcases stage with sent | received
    · rw [sent] at accepting
      exact accepting.elim
    · rw [received] at accepting
      exact accepting.elim
  · intro call event events nSocket session inCall _ _ found
    have known := constructed.entry nSocket session found
    rw [(isCall call inCall).1]
    omega

theorem moduleAgrees_oneModle :
    ∃ server, run (serverStep oneModle) (Server.initial blankMemory true)
        (acceptSteps 0x7f0000001010) = some server ∧
      ModuleAgrees oneModle server.shared.state 0 := by
  have accepts : Throughout (serverStep oneModle) AcceptsOnly
      (Server.initial blankMemory true) (acceptSteps 0x7f0000001010) := by
    simp only [acceptSteps, List.map_cons, List.map_nil]
    iterate 10 refine throughout_cons rfl ⟨rfl, by decide, by
      rintro _ ⟨⟩
      all_goals exact ⟨rfl, rfl, trivial⟩⟩ ?_
    trivial
  refine ⟨_, rfl, ?_⟩
  refine moduleAgrees_of_firstModle oneModle (by decide) blankMemory true
    (acceptSteps 0x7f0000001010) _ ?_ rfl 16 0 rfl ?_
  · exact throughout_of_invariant
      (fun _ _ _ kept _ stepped => constructed_serverStep kept stepped)
      (fun _ _ kept accepts => accepts.keepsFirstModle kept)
      (constructed_initial blankMemory true) accepts
  · apply not_hasUnregistered
    intro call impossible
    contradiction

/-- A session that has just come into the map is in no epoll instance. -/
example :
    ∃ server, run (serverStep oneModle) (Server.initial blankMemory true)
        ((acceptSteps 0x7f0000001010).take 5) = some server ∧
      server.shared.state.mgr.findSession 16 = some 0 ∧
        ¬ModuleAgrees oneModle server.shared.state 0 := by
  refine ⟨_, rfl, rfl, ?_⟩
  rintro ⟨modle, registration, -, registered, -⟩
  contradiction

/-- A framed server with two net event modules. -/
def twoModles : AcceptSession where
  nEventModleCount := 2
  hasTransPortEngineRecv := true
  bIsHaveHead := true
  nEventModleCount_ne_zero := by decide

/-- The first connection goes to the second module, and its session names the
first. -/
theorem not_moduleAgrees_twoModles :
    ¬∀ (acceptSession : AcceptSession) (memory : SessionId → TcpSession)
        (bIsHeartbeat : Bool) (labels : List (Thread × Input)) (server : Server),
      0 < acceptSession.nEventModleCount →
        run (serverStep acceptSession) (Server.initial memory bIsHeartbeat)
            labels = some server →
          ∀ nSocket session,
            server.shared.state.mgr.findSession nSocket = some session →
              ModuleAgrees acceptSession server.shared.state session := by
  intro always
  obtain ⟨modle, registration, found, registered, -⟩ :=
    always twoModles blankMemory true (acceptSteps 0x7f0000001010) _ (by decide)
      rfl 16 0 rfl
  have isFirst : modle = 0 := (Option.some.inj found).symm
  subst isFirst
  contradiction

end TransPortEngine
