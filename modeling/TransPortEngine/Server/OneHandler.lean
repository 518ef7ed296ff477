import TransPortEngine.Server.Arming

/-!
# One worker for a session

A one-shot descriptor is handed to one worker and is disarmed until it is armed
again. As long as the accept thread arms a session that it has added only when
no worker has an event of the session, at most one worker handles events of a
session at a time.
-/

namespace TransPortEngine

open Transition

/-- No two threads handle events of one session. -/
def HandledByOne (server : Server) : Prop :=
  ∀ session first second, session ∈ (server.locals first).handling →
    session ∈ (server.locals second).handling → first = second

/-- At most one thread handles events of a session, and a thread that reads for a
session changes its framing state while no other thread handles its events. -/
def OneAtATime
    (acceptSession : AcceptSession)
    (server : Server)
    (label : Thread × Input) : Prop :=
  HandledByOne server ∧
    ∀ turn next session, label.2 = .receive turn →
      serverStep acceptSession server label = some next →
        (next.shared.state.memory session).toSessionCore ≠
            (server.shared.state.memory session).toSessionCore →
          ∀ other, session ∈ (server.locals other).handling → other = label.1

/-- When the accept thread arms a session that it has added, no thread has an
event of the session. -/
def PostsUnhandled (server : Server) (label : Thread × Input) : Prop :=
  ∀ call nAcceptSock nRet, label.2 = .perform →
    (server.locals label.1).call = some call →
      call.stage = .posted nAcceptSock nRet →
        ∀ other, call.session ∉ (server.locals other).tokens

/-- What holds of a server at any time: the descriptors are registered under the
sockets the sessions were accepted with, and of all the workers and the epoll
instances at most one has an event of a session or is ready to report one. -/
structure OneHandler
    (socketOf : SessionId → Int)
    (server : Server) : Prop where
  constructed : Constructed server
  valid : ∀ session < server.shared.state.constructed, socketOf session ≠ -1
  opened : -1 ∉ server.shared.state.kernel.openSockets
  object : ∀ session < server.shared.state.constructed,
    ObjectOk (socketOf session) (server.shared.state.memory session)
  call : ∀ thread call, (server.locals thread).call = some call →
    CallOk socketOf server.shared.state.bound thread call
  registration : ∀ modle nSocket registration,
    server.shared.state.kernel.registrations modle nSocket =
        some registration →
      nSocket = socketOf registration.session ∧
        modle = server.shared.state.bound registration.session ∧
        registration.event.events.epollOneShot = true
  nodup : ∀ thread, (server.locals thread).tokens.Nodup
  unique : ∀ first second session,
    session ∈ (server.locals first).tokens →
      session ∈ (server.locals second).tokens → first = second
  disarmed : ∀ modle nSocket registration,
    server.shared.state.kernel.registrations modle nSocket =
        some registration →
      registration.armed = true →
        ∀ thread, registration.session ∉ (server.locals thread).tokens
  fresh : ∀ thread call, (server.locals thread).call = some call →
    call.BeforeAdd →
      (∀ other, call.session ∉ (server.locals other).tokens) ∧
        ∀ modle nSocket registration,
          server.shared.state.kernel.registrations modle nSocket =
              some registration →
            registration.session ≠ call.session

section Global

variable {acceptSession : AcceptSession} {socketOf : SessionId → Int}
  {server next : Server} {label : Thread × Input}

/-- The invariant, for one thread. -/
theorem OneHandler.localOk
    (one : OneHandler socketOf server)
    (thread : Thread) :
    LocalOk socketOf server.shared thread (server.locals thread) where
  valid := one.valid
  opened := one.opened
  object := one.object
  registration modle nSocket registration registered :=
    ⟨one.constructed.registration modle nSocket registration registered,
      (one.registration modle nSocket registration registered).1⟩
  pointer := one.constructed.pointer thread
  call := one.call thread
  nodup := one.nodup thread

/-- After a step, nobody has an event of a session the step has armed. -/
theorem Arming.unhandled
    {own : Local}
    {modle : Nat}
    {nSocket : Int}
    {registration : Registration}
    {call : Call}
    (one : OneHandler socketOf server)
    (posts : PostsUnhandled server label)
    (isPerform : label.2 = .perform)
    (arming : Arming socketOf server.shared (server.locals label.1) own modle
      nSocket registration call)
    (self : next.locals label.1 = own)
    (fewer : ∀ thread, (next.locals thread).tokens.Sublist
      (server.locals thread).tokens)
    (thread : Thread) :
    call.session ∉ (next.locals thread).tokens := by
  intro token
  have before := (fewer thread).subset token
  rcases arming.source with ⟨nAcceptSock, nRet, posted⟩ | adds | ⟨had, released⟩
  · exact posts call nAcceptSock nRet isPerform arming.inCall posted thread before
  · exact (one.fresh label.1 call arming.inCall adds).1 thread before
  · have same := one.unique thread label.1 call.session before had
    subst same
    exact released (self ▸ token)

/-- An accepted session is worked on by the accept thread only. -/
theorem OneHandler.accepts_alone
    {first second : Thread}
    {one other : Call}
    (kept : OneHandler socketOf server)
    (inFirst : (server.locals first).call = some one)
    (inSecond : (server.locals second).call = some other)
    (accepts : one.Accepting)
    (acceptsToo : other.Accepting) :
    first = second :=
  ((kept.call first one inFirst).acceptor accepts).trans
    ((kept.call second other inSecond).acceptor acceptsToo).symm

/-- A step that accepts nothing and fetches nothing keeps the invariant. -/
theorem Keeps.oneHandler
    {own : Local}
    (one : OneHandler socketOf server)
    (posts : PostsUnhandled server label)
    (constructed : Constructed next)
    (keeps : Keeps socketOf server.shared label.1 (server.locals label.1)
      label.2 (next.shared, own))
    (locals : next.locals = Function.update server.locals label.1 own) :
    OneHandler socketOf next := by
  have sameCount := keeps.constructed
  have sameBound := keeps.bound
  have opened := keeps.opened
  have objects := keeps.object
  have registrations := keeps.registration
  simp only at sameCount sameBound opened objects registrations
  have self : next.locals label.1 = own := by
    rw [locals, Function.update_self]
  have others : ∀ thread, thread ≠ label.1 →
      next.locals thread = server.locals thread := by
    intro thread different
    rw [locals, Function.update_of_ne different]
  have fewer : ∀ thread, (next.locals thread).tokens.Sublist
      (server.locals thread).tokens := by
    intro thread
    by_cases same : thread = label.1
    · subst same
      exact self ▸ keeps.tokens
    · rw [others thread same]
  refine ⟨constructed, ?_, ?_, ?_, ?_, ?_, ?_, ?_, ?_, ?_⟩
  · rw [sameCount]
    exact one.valid
  · exact fun invalid => one.opened (opened _ invalid)
  · rw [sameCount]
    exact objects
  · intro thread call inCall
    rw [sameBound]
    by_cases same : thread = label.1
    · subst same
      exact keeps.call call (self ▸ inCall)
    · rw [others thread same] at inCall
      exact one.call thread call inCall
  · intro modle nSocket registration registered
    rw [sameBound]
    rcases registrations modle nSocket registration registered with
      old | ⟨-, call, arming⟩
    · exact one.registration modle nSocket registration old
    · rw [arming.session]
      exact ⟨arming.nSocket, arming.modle, arming.oneShot⟩
  · exact fun thread => (one.nodup thread).sublist (fewer thread)
  · intro first second session inFirst inSecond
    exact one.unique first second session ((fewer first).subset inFirst)
      ((fewer second).subset inSecond)
  · intro modle nSocket registration registered armed thread token
    have before := (fewer thread).subset token
    rcases registrations modle nSocket registration registered with
      old | ⟨isPerform, call, arming⟩
    · exact one.disarmed modle nSocket registration old armed thread before
    · rw [arming.session] at token before
      exact arming.unhandled one posts isPerform self fewer thread token
  · intro thread call inCall before
    have known : ∃ earlier, (server.locals thread).call = some earlier ∧
        earlier.session = call.session ∧ earlier.BeforeAdd := by
      by_cases same : thread = label.1
      · subst same
        exact keeps.fresh call (self ▸ inCall) before
      · rw [others thread same] at inCall
        exact ⟨call, inCall, rfl, before⟩
    obtain ⟨earlier, inEarlier, sameSession, beforeEarlier⟩ := known
    have unknown := one.fresh thread earlier inEarlier beforeEarlier
    rw [sameSession] at unknown
    refine ⟨fun other token => unknown.1 other ((fewer other).subset token), ?_⟩
    intro modle nSocket registration registered sessionEq
    rcases registrations modle nSocket registration registered with
      old | ⟨-, arms, arming⟩
    · exact unknown.2 modle nSocket registration old sessionEq
    · -- only the accept thread arms such a session, and then it is added
      have armsSession : arms.session = call.session :=
        arming.session.symm.trans sessionEq
      have same : arms.Accepting → thread = label.1 := fun accepts =>
        one.accepts_alone inEarlier arming.inCall beforeEarlier.accepting accepts
      have notSame : thread ≠ label.1 := by
        rintro rfl
        exact arming.added call (self ▸ inCall) before
      rcases arming.source with ⟨nAcceptSock, nRet, posted⟩ | adds | token
      · apply notSame
        apply same
        rw [Call.Accepting, posted]
        trivial
      · exact notSame (same adds.accepting)
      · exact unknown.1 label.1 (armsSession ▸ token.1)

end Global

section Runs

variable {acceptSession : AcceptSession} {socketOf : SessionId → Int}
  {server next : Server}

/-- A call on a session constructed before is the same for the server after. -/
theorem CallOk.later
    {socketLater : SessionId → Int}
    {bound boundLater : SessionId → Nat}
    {thread : Thread}
    {call : Call}
    (ok : CallOk socketOf bound thread call)
    (sameSocket : socketLater call.session = socketOf call.session)
    (sameBound : boundLater call.session = bound call.session) :
    CallOk socketLater boundLater thread call := by
  refine ⟨?_, ok.acceptor, ok.last, ?_⟩
  · rw [sameBound]
    exact ok.modle
  · rw [sameSocket]
    exact ok.arming

/-- A thread has events only of sessions it has a pointer to. -/
theorem tokens_subset_pointers
    {own : Local}
    {session : SessionId}
    (token : session ∈ own.tokens) :
    session ∈ own.pointers := by
  rcases List.mem_append.mp token with handled | fetched
  · cases inCall : own.call with
    | none =>
        rw [Local.handling, inCall] at handled
        contradiction
    | some call =>
        rw [Local.handling, inCall] at handled
        simp only [Option.map_some, Option.getD_some, Call.handled] at handled
        have same : session = call.session := by
          split at handled
          · exact List.mem_singleton.mp handled
          · exact List.mem_singleton.mp handled
          · exact List.mem_singleton.mp handled
          · contradiction
        rw [same]
        exact session_mem_pointers inCall
  · exact List.mem_append_left _ fetched

/-- A fetched event is one more the thread has. -/
theorem Local.tokens_fetch
    (own : Local)
    (session : SessionId)
    (event : EpollEvent) :
    ({ own with
        fetching := true
        batch := own.batch ++ [(session, event)] } : Local).tokens =
      own.tokens ++ [session] := by
  simp [Local.tokens, Local.handling]

/-- A worker that fetches an event disarms the descriptor. -/
theorem OneHandler.fetch
    {modle number : Nat}
    {nSocket : Int}
    {mask : EpollEvents}
    {session : SessionId}
    {event : EpollEvent}
    {kernel : Kernel}
    (one : OneHandler socketOf server)
    (constructed : Constructed next)
    (fetched : server.shared.state.kernel.fetch modle nSocket mask =
      some (session, event, kernel))
    (shared : next.shared = { server.shared with
      state := { server.shared.state with kernel := kernel } })
    (locals : next.locals = Function.update server.locals (.worker modle number)
      { server.locals (.worker modle number) with
        fetching := true
        batch := (server.locals (.worker modle number)).batch ++
          [(session, event)] }) :
    OneHandler socketOf next := by
  obtain ⟨registration, registered, armed, rfl, -, isKernel⟩ :=
    Kernel.fetch_eq_some fetched
  have place := one.registration modle nSocket registration registered
  have free := one.disarmed modle nSocket registration registered armed
  have call : ∀ thread, (next.locals thread).call =
      (server.locals thread).call := by
    intro thread
    by_cases same : thread = .worker modle number
    · subst same
      rw [locals, Function.update_self]
    · rw [locals, Function.update_of_ne same]
  have token : ∀ thread, ∀ known ∈ (next.locals thread).tokens,
      known ∈ (server.locals thread).tokens ∨
        known = registration.session ∧ thread = .worker modle number := by
    intro thread known member
    by_cases same : thread = .worker modle number
    · subst same
      rw [locals, Function.update_self, Local.tokens_fetch] at member
      rcases List.mem_append.mp member with old | new
      · exact Or.inl old
      · exact Or.inr ⟨List.mem_singleton.mp new, rfl⟩
    · rw [locals, Function.update_of_ne same] at member
      exact Or.inl member
  have after : next.shared.state.kernel = kernel := by rw [shared]
  refine ⟨constructed, ?_, ?_, ?_, ?_, ?_, ?_, ?_, ?_, ?_⟩
  · rw [shared]
    exact one.valid
  · rw [shared, isKernel]
    exact one.opened
  · rw [shared]
    exact one.object
  · intro thread known inCall
    rw [shared]
    rw [call thread] at inCall
    exact one.call thread known inCall
  · intro index descriptor other found
    obtain ⟨before, old, sameSession, sameEvent, -⟩ :=
      Kernel.registered_of_fetch fetched (after ▸ found)
    have kept := one.registration index descriptor before old
    rw [sameSession, sameEvent] at kept
    rw [shared]
    exact kept
  · intro thread
    by_cases same : thread = .worker modle number
    · subst same
      rw [locals, Function.update_self, Local.tokens_fetch]
      refine List.nodup_append.mpr ⟨one.nodup _, List.nodup_singleton _, ?_⟩
      intro known member other isOther same
      rw [List.mem_singleton.mp isOther] at same
      exact free _ (same ▸ member)
    · rw [locals, Function.update_of_ne same]
      exact one.nodup thread
  · intro first second known inFirst inSecond
    rcases token first known inFirst with oldFirst | ⟨isNew, isFirst⟩
    · rcases token second known inSecond with oldSecond | ⟨isNew, -⟩
      · exact one.unique first second known oldFirst oldSecond
      · exact absurd (isNew ▸ oldFirst) (free first)
    · rcases token second known inSecond with oldSecond | ⟨-, isSecond⟩
      · exact absurd (isNew ▸ oldSecond) (free second)
      · exact isFirst.trans isSecond.symm
  · intro index descriptor other found isArmed thread member
    obtain ⟨before, old, -, -, stays⟩ :=
      Kernel.registered_of_fetch fetched (after ▸ found)
    have kept := one.registration index descriptor before old
    obtain ⟨rfl, elsewhere⟩ := stays kept.2.2 isArmed
    rcases token thread _ member with had | ⟨isNew, -⟩
    · exact one.disarmed index descriptor before old isArmed thread had
    · apply elsewhere
      rw [kept.1, kept.2.1, place.1, place.2.1, isNew]
      exact ⟨rfl, rfl⟩
  · intro thread known inCall before
    rw [call thread] at inCall
    have unknown := one.fresh thread known inCall before
    refine ⟨?_, ?_⟩
    · intro other member
      rcases token other _ member with had | ⟨isNew, -⟩
      · exact unknown.1 other had
      · exact unknown.2 modle nSocket registration registered isNew.symm
    · intro index descriptor other found
      obtain ⟨earlier, old, sameSession, -, -⟩ :=
        Kernel.registered_of_fetch fetched (after ▸ found)
      rw [← sameSession]
      exact unknown.2 index descriptor earlier old

/-- A thread that accepts a connection has no event of it. -/
theorem AcceptEffect.tokens
    {shared : Shared}
    {own : Local}
    {nAcceptSock : Int}
    {after : Shared × Local}
    (effect : AcceptEffect shared own nAcceptSock after)
    (idle : own.call = none) :
    after.2.tokens = own.tokens := by
  obtain ⟨call, inCall, -, handled, -, -⟩ := effect.call
  simp only [Local.tokens, Local.handling, inCall, idle, effect.batch,
    Option.map_some, Option.map_none, Option.getD_some, Option.getD_none,
    handled]

/-- Nobody has an event of a session that is still to be constructed, and no
descriptor is registered for it. -/
theorem OneHandler.unknown_constructed (one : OneHandler socketOf server) :
    (∀ thread,
        server.shared.state.constructed ∉ (server.locals thread).tokens) ∧
      ∀ modle nSocket registration,
        server.shared.state.kernel.registrations modle nSocket =
            some registration →
          registration.session ≠ server.shared.state.constructed := by
  refine ⟨?_, ?_⟩
  · intro thread token
    exact lt_irrefl _
      (one.constructed.pointer thread _ (tokens_subset_pointers token))
  · intro modle nSocket registration registered
    exact (one.constructed.registration modle nSocket registration
      registered).ne

/-- A new connection has a socket of its own. -/
theorem OneHandler.accept
    {nAcceptSock : Int}
    {own : Local}
    (one : OneHandler socketOf server)
    (constructed : Constructed next)
    (positive : 0 < nAcceptSock)
    (idle : (server.locals .accept).call = none)
    (effect : AcceptEffect server.shared (server.locals .accept) nAcceptSock
      (next.shared, own))
    (locals : next.locals = Function.update server.locals .accept own) :
    OneHandler
      (Function.update socketOf server.shared.state.constructed nAcceptSock)
      next := by
  obtain ⟨call, inCall, isNew, -, modle, none⟩ := effect.call
  have self : next.locals .accept = own := by
    rw [locals, Function.update_self]
  have others : ∀ thread, thread ≠ .accept →
      next.locals thread = server.locals thread := by
    intro thread different
    rw [locals, Function.update_of_ne different]
  have old : ∀ session < server.shared.state.constructed,
      Function.update socketOf server.shared.state.constructed nAcceptSock
        session = socketOf session := by
    intro session known
    exact Function.update_of_ne known.ne nAcceptSock socketOf
  have tokens : ∀ thread, (next.locals thread).tokens =
      (server.locals thread).tokens := by
    intro thread
    by_cases same : thread = .accept
    · subst same
      rw [self]
      exact effect.tokens idle
    · rw [others thread same]
  have registrations : next.shared.state.kernel.registrations =
      server.shared.state.kernel.registrations := by
    have kernel := effect.kernel
    simp only at kernel
    rw [kernel]
    rfl
  have pointed := one.constructed.pointer
  have sameBound := effect.bound
  have count := effect.constructed
  simp only at sameBound count
  have split : ∀ session < next.shared.state.constructed,
      session < server.shared.state.constructed ∨
        session = server.shared.state.constructed := by
    intro session known
    omega
  refine ⟨constructed, ?_, ?_, ?_, ?_, ?_, ?_, ?_, ?_, ?_⟩
  · intro session known
    rcases split session known with before | new
    · rw [old session before]
      exact one.valid session before
    · rw [new, Function.update_self]
      omega
  · have kernel := effect.kernel
    simp only at kernel
    rw [kernel]
    intro invalid
    rcases List.mem_cons.mp invalid with new | before
    · omega
    · exact one.opened before
  · intro session known
    rcases split session known with before | new
    · have sameMemory := effect.memory session before.ne
      simp only at sameMemory
      rw [old session before, sameMemory]
      exact one.object session before
    · rw [new, Function.update_self]
      exact effect.object
  · intro thread known inKnown
    by_cases same : thread = .accept
    · subst same
      rw [self] at inKnown
      have isCall : call = known := Option.some.inj (inCall.symm.trans inKnown)
      rw [← isCall]
      exact callOk_of_none modle (fun _ => rfl) none
    · rw [others thread same] at inKnown
      have before := pointed thread _ (session_mem_pointers inKnown)
      exact (one.call thread known inKnown).later (old _ before)
        (sameBound _ before.ne)
  · intro index descriptor registration found
    rw [registrations] at found
    have before := one.constructed.registration index descriptor registration
      found
    rw [old _ before, sameBound _ before.ne]
    exact one.registration index descriptor registration found
  · intro thread
    rw [tokens thread]
    exact one.nodup thread
  · intro first second session inFirst inSecond
    rw [tokens] at inFirst inSecond
    exact one.unique first second session inFirst inSecond
  · intro index descriptor registration found armed thread
    rw [registrations] at found
    rw [tokens thread]
    exact one.disarmed index descriptor registration found armed thread
  · intro thread known inKnown before
    simp only [tokens, registrations]
    by_cases same : thread = .accept
    · subst same
      rw [self] at inKnown
      have isCall : call = known := Option.some.inj (inCall.symm.trans inKnown)
      rw [← isCall, isNew]
      exact one.unknown_constructed
    · rw [others thread same] at inKnown
      exact one.fresh thread known inKnown before

/-- Every step keeps the invariant, if the accept thread arms a session only
when nobody has an event of it. -/
theorem OneHandler.serverStep
    {label : Thread × Input}
    (one : OneHandler socketOf server)
    (posts : PostsUnhandled server label)
    (stepped : serverStep acceptSession server label = some next) :
    ∃ socketLater, OneHandler socketLater next := by
  have constructed := constructed_serverStep one.constructed stepped
  obtain ⟨own, advanced, locals⟩ := serverStep_eq_some stepped
  obtain ⟨thread, input⟩ := label
  have ok := one.localOk thread
  have keeps : Keeps socketOf server.shared thread (server.locals thread) input
      (next.shared, own) → ∃ socketLater, OneHandler socketLater next := by
    intro keeps
    exact ⟨socketOf, keeps.oneHandler one posts constructed locals⟩
  unfold threadStep at advanced
  simp only at advanced locals
  split at advanced
  · rename_i inCall
    exact keeps (keeps_callStep ok inCall advanced)
  · rename_i idle
    have rest := keeps_idleStep ok idle advanced
    generalize isNext : (next.shared, own) = after at advanced
    cases idleStep_cases advanced with
    | @accept nAcceptSock now garbage address _ positive =>
        have effect : AcceptEffect server.shared (server.locals .accept)
            nAcceptSock _ :=
          acceptEffect_acceptConnection acceptSession nAcceptSock garbage
            address now
        rw [← isNext] at effect
        exact ⟨_, one.accept constructed positive idle effect locals⟩
    | fetch _ _ fetched =>
        obtain ⟨shared, rfl⟩ := Prod.mk.inj isNext
        exact ⟨socketOf, one.fetch constructed fetched shared locals⟩
    | _ =>
        exact keeps (rest (fun _ _ _ _ => Input.noConfusion)
          fun _ _ => Input.noConfusion)

/-- A thread that reads changes the framing state of the session it handles. -/
theorem mem_handling_of_receive
    {thread : Thread}
    {turn : RecvTurn}
    {session : SessionId}
    (stepped : TransPortEngine.serverStep acceptSession server
      (thread, .receive turn) = some next)
    (changed : (next.shared.state.memory session).toSessionCore ≠
      (server.shared.state.memory session).toSessionCore) :
    session ∈ (server.locals thread).handling := by
  obtain ⟨own, advanced, locals⟩ := serverStep_eq_some stepped
  unfold threadStep at advanced
  simp only at advanced
  split at advanced
  · rename_i call inCall
    generalize isNext : (next.shared, own) = after at advanced
    cases callStep_cases advanced with
    | receive _ stage =>
        rw [Local.handling, inCall, Option.map_some, Option.getD_some,
          Call.handled, stage]
        by_cases same : session = call.session
        · exact List.mem_singleton.mpr same
        · rw [(Prod.mk.inj isNext).1] at changed
          simp only [Shared.store, ServerState.store,
            Function.update_of_ne same] at changed
          exact absurd rfl changed
  · cases idleStep_cases advanced

theorem oneHandler_initial
    (memory : SessionId → TcpSession)
    (bIsHeartbeat : Bool) :
    OneHandler (fun _ => 0) (Server.initial memory bIsHeartbeat) := by
  refine ⟨constructed_initial memory bIsHeartbeat, ?_, List.not_mem_nil, ?_, ?_,
    ?_, ?_, ?_, ?_, ?_⟩
  · intro session impossible
    exact absurd impossible (Nat.not_lt_zero session)
  · intro session impossible
    exact absurd impossible (Nat.not_lt_zero session)
  · intro thread call impossible
    contradiction
  · intro modle nSocket registration impossible
    contradiction
  · exact fun thread => List.nodup_nil
  · intro first second session impossible
    contradiction
  · intro modle nSocket registration impossible
    contradiction
  · intro thread call impossible
    contradiction

end Runs

/-- In every run in which the accept thread arms a session it has added only
when no worker has an event of the session, no two threads handle events of one
session. -/
theorem oneAtATime_of_postsUnhandled
    (acceptSession : AcceptSession)
    (memory : SessionId → TcpSession)
    (bIsHeartbeat : Bool)
    (labels : List (Thread × Input))
    (posts : Throughout (serverStep acceptSession) PostsUnhandled
      (Server.initial memory bIsHeartbeat) labels) :
    Throughout (serverStep acceptSession) (OneAtATime acceptSession)
      (Server.initial memory bIsHeartbeat) labels := by
  refine @throughout_of_invariant _ _ _ _
    (fun server => ∃ socketOf, OneHandler socketOf server) _ ?_ ?_ _ _
    ⟨_, oneHandler_initial memory bIsHeartbeat⟩ posts
  · rintro server label next ⟨socketOf, one⟩ condition stepped
    exact one.serverStep condition stepped
  · rintro server ⟨thread, input⟩ ⟨socketOf, one⟩ condition
    have byOne : HandledByOne server := by
      intro session first second inFirst inSecond
      exact one.unique first second session (List.mem_append_left _ inFirst)
        (List.mem_append_left _ inSecond)
    refine ⟨byOne, ?_⟩
    rintro turn next session rfl stepped changed other handled
    exact byOne session other thread handled
      (mem_handling_of_receive stepped changed)

/-! ## A session that is armed twice -/

/-- Data to read. -/
def epollInOnly : EpollEvents :=
  { EpollEvent.zero.events with epollIn := true }

/-- A worker gets an event of the socket 16 and begins to handle it. -/
def handleSteps (number : Nat) : List (Thread × Input) :=
  [(.worker 0 number, .fetch 16 epollInOnly),
    (.worker 0 number, .handle .again true)]

/-- A read that finds the socket drained. -/
def drainedTurn : RecvTurn where
  read := .again
  now := 0
  echo := .failed
  epollCtl := true

/-- A worker finds the socket drained and arms it. -/
def drainSteps (number : Nat) : List (Thread × Input) :=
  [.receive drainedTurn, .perform, .perform, .next true].map
    fun input => (.worker 0 number, input)

/-- A step in which the accept thread arms nothing a second time. -/
theorem postsUnhandled_of_stage
    {server : Server}
    {label : Thread × Input}
    {call : Call}
    (inCall : (server.locals label.1).call = some call)
    (other : ∀ nAcceptSock nRet, call.stage ≠ .posted nAcceptSock nRet) :
    PostsUnhandled server label := by
  intro known nAcceptSock nRet _ isKnown posted
  have same : call = known := Option.some.inj (inCall.symm.trans isKnown)
  exact absurd (same ▸ posted) (other nAcceptSock nRet)

/-- A step that does nothing of a call. -/
theorem postsUnhandled_of_input
    {server : Server}
    {label : Thread × Input}
    (other : label.2 ≠ .perform) :
    PostsUnhandled server label := by
  intro call nAcceptSock nRet isPerform
  exact absurd isPerform other

/-- A session is accepted, and then handled by one worker after the other. -/
theorem oneAtATime_acceptHandle :
    Throughout (serverStep oneModle) (OneAtATime oneModle)
      (Server.initial blankMemory true)
      (acceptSteps 0x7f0000001010 ++ (handleSteps 0 ++ drainSteps 0) ++
        handleSteps 1) := by
  apply oneAtATime_of_postsUnhandled
  simp only [acceptSteps, handleSteps, drainSteps, List.map_cons, List.map_nil,
    List.cons_append, List.nil_append]
  apply throughout_cons rfl (postsUnhandled_of_input Input.noConfusion)
  iterate 3
    refine throughout_cons rfl (postsUnhandled_of_stage rfl
      fun _ _ => Stage.noConfusion) ?_
  iterate 2
    apply throughout_cons rfl (postsUnhandled_of_input Input.noConfusion)
  refine throughout_cons rfl (postsUnhandled_of_stage rfl
    fun _ _ => Stage.noConfusion) ?_
  apply throughout_cons rfl (postsUnhandled_of_input Input.noConfusion)
  refine throughout_cons rfl ?_ ?_
  · intro call _ _ _ isCall _ other
    cases other with
    | accept => exact List.not_mem_nil
    | _ => exact List.not_mem_nil
  iterate 4
    apply throughout_cons rfl (postsUnhandled_of_input Input.noConfusion)
  iterate 2
    refine throughout_cons rfl (postsUnhandled_of_stage rfl
      fun _ _ => Stage.noConfusion) ?_
  iterate 3
    apply throughout_cons rfl (postsUnhandled_of_input Input.noConfusion)
  trivial

/-- One worker has got the event of a session that was added, the accept thread
arms the session again, and a second worker gets the next event. -/
theorem not_oneAtATime_armedTwice :
    ¬∀ (acceptSession : AcceptSession) (memory : SessionId → TcpSession)
        (bIsHeartbeat : Bool) (labels : List (Thread × Input)),
      Throughout (serverStep acceptSession) (OneAtATime acceptSession)
        (Server.initial memory bIsHeartbeat) labels := by
  intro always
  have handled := Throughout.last
    ((acceptSteps 0x7f0000001010).take 7 ++ handleSteps 0 ++
      ((acceptSteps 0x7f0000001010).drop 7).take 2 ++ handleSteps 1)
    (always oneModle blankMemory true (_ ++ [(.accept, .next true)])) rfl
  have same := handled.1 0 (.worker 0 0) (.worker 0 1) (List.mem_cons_self ..)
    (List.mem_cons_self ..)
  contradiction

end TransPortEngine
