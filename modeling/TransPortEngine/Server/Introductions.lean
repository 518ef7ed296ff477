import TransPortEngine.Library.LifeWords
import TransPortEngine.Server.SessionIds
import TransPortEngine.TcpSession.CallbackWords

/-!
# A session is introduced first

The callbacks on one session in a run of a server, whatever the threads do and
in whatever order. `TcpSession_Init` has called `CONNECT` before anybody but the
accept thread can find the session, so that this callback comes first, and
nothing calls it again.
-/

namespace TransPortEngine

open SessionWords Transition

/-- The callback a thread makes on a session. -/
def Local.callback
    (own : Local)
    (session : SessionId)
    (input : Input) : List Token :=
  match own.call, input with
  | some ⟨other, _, event :: _, _⟩, .perform =>
      if other = session then event.token.toList else []
  | _, _ => []

/-- A thread makes no callback on a session, or performs the first event of a call
on it. -/
theorem callback_cases
    (own : Local)
    (session : SessionId)
    (input : Input) :
    own.callback session input = [] ∨
      ∃ modle event events stage,
        own.call = some ⟨session, modle, event :: events, stage⟩ ∧
          input = .perform ∧
            own.callback session input = event.token.toList := by
  unfold Local.callback
  split
  · rename_i other modle event events stage inCall
    by_cases same : other = session
    · subst same
      exact Or.inr ⟨modle, event, events, stage, inCall, rfl, if_pos rfl⟩
    · exact Or.inl (if_neg same)
  · exact Or.inl rfl

/-- A thread in a call makes no callback on any other session. -/
theorem callback_other
    {own : Local}
    {call : Call}
    {session : SessionId}
    (inCall : own.call = some call)
    (other : call.session ≠ session)
    (input : Input) :
    own.callback session input = [] := by
  rcases callback_cases own session input with none |
    ⟨modle, event, events, stage, isCall, -, -⟩
  · exact none
  · exact absurd (congrArg Call.session
      (Option.some.inj (inCall.symm.trans isCall))) other

theorem callback_perform
    {own : Local}
    {session : SessionId}
    {modle : Nat}
    {event : EngineEvent}
    {events : List EngineEvent}
    {stage : Stage}
    (inCall : own.call = some ⟨session, modle, event :: events, stage⟩) :
    own.callback session .perform = event.token.toList := by
  unfold Local.callback
  rw [inCall]
  exact if_pos rfl

/-- A thread between two calls makes no callback. -/
theorem callback_idle
    {own : Local}
    (idle : own.call = none)
    (session : SessionId)
    (input : Input) :
    own.callback session input = [] := by
  unfold Local.callback
  rw [idle]

/-- A thread in a call makes callbacks when it performs something. -/
theorem callback_of_ne
    {own : Local}
    {input : Input}
    (notPerform : input ≠ .perform)
    (session : SessionId) :
    own.callback session input = [] := by
  unfold Local.callback
  split
  · contradiction
  · rfl

/-- The callback on a session in a step. -/
def Server.callback
    (session : SessionId)
    (server : Server)
    (label : Thread × Input) : List Token :=
  (server.locals label.1).callback session label.2

/-- The callbacks on a session in a run. -/
def Server.callbackWord
    (acceptSession : AcceptSession)
    (session : SessionId) : Server → List (Thread × Input) → List Token :=
  collect (serverStep acceptSession) (Server.callback session)

/-! ## What a step leaves -/

/-- A step that constructs nothing and leaves the receivers of all sessions. -/
structure SteadyStep (shared next : Shared) : Prop where
  constructed : next.state.constructed = shared.state.constructed
  receiver : ∀ session,
    (next.state.memory session).hasTransPortEngineRecv =
      (shared.state.memory session).hasTransPortEngineRecv

theorem SteadyStep.refl (shared : Shared) : SteadyStep shared shared :=
  ⟨rfl, fun _ => rfl⟩

theorem SteadyStep.keepsReceivers
    {shared next : Shared}
    (steady : SteadyStep shared next) :
    KeepsReceivers shared next :=
  ⟨steady.constructed.ge, fun session _ => steady.receiver session⟩

section Steady

variable {shared : Shared} {thread : Thread} {own : Local} {call : Call}
  {after : Shared × Local}

/-- A session object is stored with its receiver. -/
theorem steadyStep_store
    {object : TcpSession}
    {session : SessionId}
    {destroyers : List (SessionId × Thread)}
    (receiver : object.hasTransPortEngineRecv =
      (shared.state.memory session).hasTransPortEngineRecv) :
    SteadyStep shared
      { shared.store session object with destroyers := destroyers } := by
  refine ⟨rfl, fun other => ?_⟩
  by_cases same : other = session
  · subst same
    simp [Shared.store, ServerState.store, receiver]
  · simp [Shared.store, ServerState.store, Function.update_of_ne same]

theorem steadyStep_nextTeardown
    {done : Bool}
    {first : Teardown}
    {calls : List Teardown}
    (advanced : nextTeardown shared thread own call done calls first =
      some after) :
    SteadyStep shared after.1 := by
  cases first with
  | delSession nSocket =>
      obtain ⟨-, rfl⟩ := nextTeardown_delSession advanced
      exact ⟨rfl, fun _ => rfl⟩
  | delEvent =>
      obtain rfl := Option.some.inj advanced
      exact .refl _
  | fini =>
      obtain rfl := Option.some.inj advanced
      exact steadyStep_store rfl
  | delete =>
      obtain rfl := Option.some.inj advanced
      exact steadyStep_store rfl

theorem steadyStep_afterCall
    {done : Bool}
    (advanced : afterCall shared thread own call done = some after) :
    SteadyStep shared after.1 := by
  cases afterCall_cases advanced with
  | giveUp | addEvent | postRecv | receive | returned => exact .refl _
  | addSession => exact ⟨rfl, fun _ => rfl⟩
  | drop _ _ dropped =>
      obtain ⟨-, _, _, rfl⟩ := dropFailed_eq_some dropped
      exact ⟨rfl, fun _ => rfl⟩
  | teardown _ advanced => exact steadyStep_nextTeardown advanced

theorem steadyStep_callStep
    {input : Input}
    (advanced : callStep shared thread own call input = some after) :
    SteadyStep shared after.1 := by
  cases callStep_cases advanced with
  | perform _ performed =>
      have leaves := performed_of_perform performed
      exact ⟨leaves.constructed, fun _ => by rw [leaves.memory]⟩
  | goOn _ advanced => exact steadyStep_afterCall advanced
  | receive => exact steadyStep_store (TcpSession.silentPass_ioRecvPass _ _).2
  | send _ _ _ isSent =>
      subst isSent
      apply steadyStep_store
      rw [(TcpSession.ioSend_writes _ _ _ _).1]

/-- A thread between two calls accepts a connection, or constructs nothing and
begins a call without callbacks. -/
theorem steadyStep_idleStep
    {acceptSession : AcceptSession}
    {input : Input}
    (idle : own.call = none)
    (advanced : idleStep acceptSession shared thread own input = some after) :
    SteadyStep shared after.1 ∧
        (∀ new, after.2.call = some new → callbacks new.events = []) ∨
      ∃ nAcceptSock garbage address now, 0 < nAcceptSock ∧ thread = .accept ∧
        after = acceptConnection acceptSession shared own nAcceptSock
          (TcpSession.construct garbage address now) := by
  have none : ∀ new, own.call = some new → callbacks new.events = [] := by
    intro new impossible
    rw [idle] at impossible
    contradiction
  cases idleStep_cases advanced with
  | accept _ positive => exact Or.inr ⟨_, _, _, _, positive, rfl, rfl⟩
  | handle _ _ handled =>
      left
      cases handleFetched_cases handled with
      | ignore | pointless => exact ⟨.refl _, none⟩
      | send =>
          refine ⟨steadyStep_store (TcpSession.silent_ioSendQueued _ _ _).2, ?_⟩
          intro new begins
          rw [← Option.some.inj begins]
          exact TcpSession.callbacks_ioSendQueued _ _ _
      | receive =>
          refine ⟨.refl _, fun new begins => ?_⟩
          rw [← Option.some.inj begins]
          rfl
  | find =>
      refine Or.inl ⟨.refl _, fun new begins => ?_⟩
      obtain ⟨session, -, rfl⟩ := Option.map_eq_some_iff.mp begins
      rfl
  | enterHeartbeat _ _ entered | enterStop _ entered =>
      obtain ⟨-, rfl⟩ := enterSweep_eq_some entered
      exact Or.inl ⟨⟨rfl, fun _ => rfl⟩, none⟩
  | evict | finish =>
      refine Or.inl ⟨⟨rfl, fun _ => rfl⟩, fun new begins => ?_⟩
      rw [← Option.some.inj begins]
      rfl
  | fetch | leaveHeartbeat | leaveStop | passOver =>
      exact Or.inl ⟨⟨rfl, fun _ => rfl⟩, none⟩

end Steady

/-! ## Who has heard of a session -/

/-- The session has been announced, or nobody will be told anything about it. -/
def Shared.Heard
    (shared : Shared)
    (session : SessionId)
    (announced : Bool) : Prop :=
  announced = true ∨ shared.Silent session

/-- A call of the accept thread that has still to announce its session. -/
structure Introducing (shared : Shared) (call : Call) : Prop where
  constructed : call.session < shared.state.constructed
  announces : callbacks call.events = [.opens]
  keepsEpolls : KeepsEpolls call.events

/-- A call of the accept thread on a session for which there is no module. -/
structure Dismissing (shared : Shared) (call : Call) : Prop where
  constructed : call.session < shared.state.constructed
  quiet : callbacks call.events = []
  keepsEpolls : KeepsEpolls call.events
  stage : call.stage = .teardown [.delete] ∨ call.stage = .teardown []

/-- A call that announces nothing, and makes no other callback before the session
has been announced. -/
structure Continuing (announced : Bool) (call : Call) : Prop where
  noOpens : .opens ∉ callbacks call.events
  late : callbacks call.events ≠ [] → announced = true

/-- A call on a session that has been announced or not. -/
inductive CallFits
    (shared : Shared)
    (thread : Thread)
    (announced : Bool)
    (call : Call) : Prop
  | introducing
      (isAccept : thread = .accept)
      (before : announced = false)
      (introducing : Introducing shared call)
  | dismissing
      (isAccept : thread = .accept)
      (before : announced = false)
      (dismissing : Dismissing shared call)
  | continuing
      (heard : shared.Heard call.session announced)
      (continuing : Continuing announced call)

/-- Whoever can find a session finds one that has been announced, or that nobody
will be told anything about. -/
structure Introduced
    (session : SessionId)
    (announced : Bool)
    (server : Server) : Prop where
  born : announced = true → session < server.shared.state.constructed
  entry : ∀ nSocket,
    server.shared.state.mgr.findSession nSocket = some session →
      server.shared.Heard session announced
  registration : ∀ modle nSocket registration,
    server.shared.state.kernel.registrations modle nSocket =
      some registration → registration.session = session →
      server.shared.Heard session announced
  batch : ∀ thread, session ∈ (server.locals thread).batch.map Prod.fst →
    server.shared.Heard session announced
  call : ∀ thread call, (server.locals thread).call = some call →
    call.session = session → CallFits server.shared thread announced call

section Introduced

variable {acceptSession : AcceptSession} {server next : Server}
  {shared after : Shared} {label : Thread × Input} {own : Local}
  {session : SessionId} {announced later : Bool}

theorem introduced_initial
    (session : SessionId)
    (memory : SessionId → TcpSession)
    (bIsHeartbeat : Bool) :
    Introduced session false (Server.initial memory bIsHeartbeat) := by
  refine ⟨?_, ?_, ?_, ?_, ?_⟩
  · intro impossible
    contradiction
  · intro nSocket found
    simp [Server.initial, ServerState.initial, TcpSessionMgr.findSession] at found
  · intro modle nSocket registration registered
    contradiction
  · intro thread impossible
    contradiction
  · intro thread call impossible
    contradiction

theorem Shared.Heard.kept
    (heard : shared.Heard session announced)
    (keeps : KeepsReceivers shared after)
    (onward : announced = true → later = true) :
    after.Heard session later := by
  rcases heard with told | silent
  · exact Or.inl (onward told)
  · exact Or.inr (silent.kept keeps)

/-- A session with a receiver that somebody has heard of has been announced. -/
theorem Shared.Heard.told
    (heard : shared.Heard session announced)
    (receives :
      (shared.state.memory session).hasTransPortEngineRecv = true) :
    announced = true := by
  rcases heard with told | silent
  · exact told
  · rw [silent.receiver] at receives
    contradiction

theorem Continuing.onward
    {call : Call}
    (continuing : Continuing announced call)
    (onward : announced = true → later = true) :
    Continuing later call :=
  ⟨continuing.noOpens, fun some => onward (continuing.late some)⟩

theorem continuing_of_nil
    {call : Call}
    (none : callbacks call.events = []) :
    Continuing announced call := by
  refine ⟨?_, fun some => absurd none some⟩
  rw [none]
  exact List.not_mem_nil

/-- The calls of the other threads are not affected by a step. -/
theorem CallFits.kept
    {thread : Thread}
    {call : Call}
    (fits : CallFits shared thread announced call)
    (keeps : KeepsReceivers shared after)
    (onward : announced = true → later = true)
    (same : thread = .accept → later = announced) :
    CallFits after thread later call := by
  cases fits with
  | introducing isAccept before introducing =>
      refine .introducing isAccept ((same isAccept).trans before) ?_
      exact ⟨introducing.constructed.trans_le keeps.constructed,
        introducing.announces, introducing.keepsEpolls⟩
  | dismissing isAccept before dismissing =>
      refine .dismissing isAccept ((same isAccept).trans before) ?_
      exact ⟨dismissing.constructed.trans_le keeps.constructed,
        dismissing.quiet, dismissing.keepsEpolls, dismissing.stage⟩
  | continuing heard continuing =>
      exact .continuing (heard.kept keeps onward) (continuing.onward onward)

/-- A step after which whoever can find the session has heard of it. -/
theorem Introduced.step
    (introduced : Introduced session announced server)
    (keeps : KeepsReceivers server.shared next.shared)
    (locals : next.locals = Function.update server.locals label.1 own)
    (onward : announced = true → later = true)
    (same : label.1 ≠ .accept → later = announced)
    (born : later = true → session < next.shared.state.constructed)
    (entry : ∀ nSocket,
      next.shared.state.mgr.findSession nSocket = some session →
        server.shared.Heard session later)
    (registration : ∀ modle nSocket registration,
      next.shared.state.kernel.registrations modle nSocket =
        some registration → registration.session = session →
        server.shared.Heard session later)
    (batch : session ∈ own.batch.map Prod.fst →
      server.shared.Heard session later)
    (call : ∀ call, own.call = some call → call.session = session →
      CallFits next.shared label.1 later call) :
    Introduced session later next := by
  refine ⟨born, ?_, ?_, ?_, ?_⟩
  · exact fun nSocket found => (entry nSocket found).kept keeps id
  · exact fun modle nSocket kept registered isSession =>
      (registration modle nSocket kept registered isSession).kept keeps id
  · intro thread member
    rw [locals] at member
    by_cases isSelf : thread = label.1
    · subst isSelf
      rw [Function.update_self] at member
      exact (batch member).kept keeps id
    · rw [Function.update_of_ne isSelf] at member
      exact (introduced.batch thread member).kept keeps onward
  · intro thread other inCall isSession
    rw [locals] at inCall
    by_cases isSelf : thread = label.1
    · subst isSelf
      rw [Function.update_self] at inCall
      exact call other inCall isSession
    · rw [Function.update_of_ne isSelf] at inCall
      apply (introduced.call thread other inCall isSession).kept keeps onward
      intro isAccept
      exact same fun selfAccepts => isSelf (isAccept.trans selfAccepts.symm)

/-- A thread takes only sessions it is told about. -/
theorem Introduced.taken
    (introduced : Introduced session announced server)
    {thread : Thread}
    {input : Input}
    (taken : server.shared.taken thread own input = some session) :
    server.shared.Heard session announced := by
  unfold Shared.taken at taken
  split at taken
  · obtain ⟨registration, registered, isSession⟩ :=
      Option.map_eq_some_iff.mp taken
    exact introduced.registration _ _ registration registered isSession
  · exact introduced.entry _ taken
  · exact introduced.entry _ taken
  · exact introduced.entry _ taken
  · contradiction

/-- A step of a thread that has heard of the session if it knows it. -/
theorem Introduced.steadyStep
    (introduced : Introduced session announced server)
    (heard : session ∈ (server.locals label.1).pointers →
      server.shared.Heard session announced)
    (advanced : threadStep acceptSession server.shared label.1
      (server.locals label.1) label.2 = some (next.shared, own))
    (locals : next.locals = Function.update server.locals label.1 own)
    (steady : SteadyStep server.shared next.shared)
    (call : ∀ call, own.call = some call → call.session = session →
      Continuing announced call) :
    Introduced session announced next := by
  have sourced := sourced_threadStep advanced
  have keeps := steady.keepsReceivers
  have pointed : session ∈ own.pointers →
      server.shared.Heard session announced := by
    intro member
    rcases sourced.pointer session member with old | taken | ⟨new, below⟩
    · exact heard old
    · exact introduced.taken taken
    · -- nothing has been constructed
      rw [steady.constructed, new] at below
      exact absurd below (lt_irrefl _)
  refine introduced.step keeps locals id (fun _ => rfl) ?_ ?_ ?_ ?_ ?_
  · intro told
    rw [steady.constructed]
    exact introduced.born told
  · intro nSocket found
    rcases sourced.entry nSocket session found with old | known
    · exact introduced.entry nSocket old
    · exact heard known
  · intro modle nSocket registration registered isSession
    rcases sourced.registration modle nSocket registration registered with
      ⟨before, old, same⟩ | known
    · exact introduced.registration modle nSocket before old
        (same.trans isSession)
    · exact heard (isSession ▸ known)
  · exact fun member => pointed (List.mem_append_left _ member)
  · intro call' inCall isSession
    refine .continuing ?_ (call call' inCall isSession)
    rw [isSession]
    exact (pointed (isSession ▸ session_mem_pointers inCall)).kept keeps id

end Introduced

/-! ## Calls that go on -/

section Calls

variable {shared : Shared} {thread : Thread} {own : Local} {call new : Call}
  {after : Shared × Local} {announced : Bool}

theorem session_nextTeardown
    {done : Bool}
    {first : Teardown}
    {calls : List Teardown}
    (advanced : nextTeardown shared thread own call done calls first =
      some after)
    (goesOn : after.2.call = some new) :
    new.session = call.session := by
  cases first with
  | delSession nSocket =>
      obtain ⟨-, rfl⟩ := nextTeardown_delSession advanced
      exact Option.some.inj goesOn ▸ rfl
  | delEvent | fini | delete =>
      obtain rfl := Option.some.inj advanced
      exact Option.some.inj goesOn ▸ rfl

theorem session_afterCall
    {done : Bool}
    (advanced : afterCall shared thread own call done = some after)
    (goesOn : after.2.call = some new) :
    new.session = call.session := by
  cases afterCall_cases advanced with
  | giveUp | addSession | addEvent | postRecv | receive =>
      exact Option.some.inj goesOn ▸ rfl
  | drop _ _ dropped =>
      obtain ⟨-, _, calls, rfl⟩ := dropFailed_eq_some dropped
      obtain ⟨_, -, rfl⟩ := Option.map_eq_some_iff.mp goesOn
      rfl
  | teardown _ advanced => exact session_nextTeardown advanced goesOn
  | returned => contradiction

/-- A call stays on its session. -/
theorem session_callStep
    {input : Input}
    (advanced : callStep shared thread own call input = some after)
    (goesOn : after.2.call = some new) :
    new.session = call.session := by
  cases callStep_cases advanced with
  | perform | receive | send => exact Option.some.inj goesOn ▸ rfl
  | goOn _ advanced => exact session_afterCall advanced goesOn

/-- A teardown announces nothing, and the end of a session only behind its
beginning. -/
theorem continuing_nextTeardown
    {done : Bool}
    {first : Teardown}
    {calls : List Teardown}
    (heard : shared.Heard call.session announced)
    (quiet : call.events = [])
    (advanced : nextTeardown shared thread own call done calls first =
      some after)
    (goesOn : after.2.call = some new) :
    Continuing announced new := by
  cases first with
  | delSession nSocket =>
      obtain ⟨-, rfl⟩ := nextTeardown_delSession advanced
      obtain rfl := Option.some.inj goesOn
      exact continuing_of_nil (by rw [quiet]; rfl)
  | delEvent =>
      obtain rfl := Option.some.inj advanced
      obtain rfl := Option.some.inj goesOn
      exact continuing_of_nil rfl
  | fini =>
      obtain rfl := Option.some.inj advanced
      obtain rfl := Option.some.inj goesOn
      have closes := (shared.state.memory call.session).callbacks_fini
      by_cases receives :
          (shared.state.memory call.session).hasTransPortEngineRecv = true
      · rw [if_pos receives] at closes
        refine ⟨?_, fun _ => heard.told receives⟩
        dsimp only
        rw [closes]
        decide
      · rw [if_neg receives] at closes
        exact continuing_of_nil closes
  | delete =>
      obtain rfl := Option.some.inj advanced
      obtain rfl := Option.some.inj goesOn
      exact continuing_of_nil (TcpSession.callbacks_delete _)

theorem continuing_afterCall
    {done : Bool}
    (heard : shared.Heard call.session announced)
    (quiet : call.events = [])
    (advanced : afterCall shared thread own call done = some after)
    (goesOn : after.2.call = some new) :
    Continuing announced new := by
  cases afterCall_cases advanced with
  | giveUp | addSession | receive =>
      obtain rfl := Option.some.inj goesOn
      exact continuing_of_nil (by rw [quiet]; rfl)
  | addEvent | postRecv =>
      obtain rfl := Option.some.inj goesOn
      exact continuing_of_nil rfl
  | drop _ _ dropped =>
      obtain ⟨-, _, calls, rfl⟩ := dropFailed_eq_some dropped
      obtain ⟨_, -, rfl⟩ := Option.map_eq_some_iff.mp goesOn
      exact continuing_of_nil rfl
  | teardown _ advanced =>
      exact continuing_nextTeardown heard quiet advanced goesOn
  | returned => contradiction

/-- What comes behind the first event of a call that goes on. -/
theorem Continuing.tail
    {session : SessionId}
    {modle : Nat}
    {event : EngineEvent}
    {events : List EngineEvent}
    {stage : Stage}
    (continuing : Continuing announced ⟨session, modle, event :: events, stage⟩) :
    run introduce announced event.token.toList = some announced ∧
      Continuing announced ⟨session, modle, events, stage⟩ := by
  obtain ⟨noOpens, late⟩ := continuing
  rw [callbacks_cons] at noOpens late
  refine ⟨?_, ?_, fun some => late (List.append_ne_nil_of_right_ne_nil _ some)⟩
  · cases isToken : event.token with
    | none => rfl
    | some token =>
        rw [isToken] at noOpens late
        rw [late (List.cons_ne_nil _ _)]
        cases token with
        | opens => exact absurd List.mem_cons_self noOpens
        | item | closes => rfl
  · exact fun member => noOpens (List.mem_append_right _ member)

theorem continuing_callStep
    {input : Input}
    (heard : shared.Heard call.session announced)
    (continuing : Continuing announced call)
    (advanced : callStep shared thread own call input = some after)
    (goesOn : after.2.call = some new) :
    Continuing announced new := by
  cases callStep_cases advanced with
  | perform first =>
      obtain rfl := Option.some.inj goesOn
      obtain ⟨session, modle, events, stage⟩ := call
      dsimp only at first
      subst first
      exact continuing.tail.2
  | goOn quiet advanced =>
      exact continuing_afterCall heard quiet advanced goesOn
  | receive =>
      obtain rfl := Option.some.inj goesOn
      rcases TcpSession.handsOn_ioRecvPass _ _ with none | ⟨receives, one⟩
      · exact continuing_of_nil none
      · refine ⟨?_, fun _ => heard.told receives⟩
        dsimp only
        rw [one]
        decide
  | send _ _ _ isSent =>
      subst isSent
      obtain rfl := Option.some.inj goesOn
      exact continuing_of_nil (TcpSession.callbacks_ioSend _ _ _ _)

end Calls

/-! ## The accept thread -/

section Accept

variable {acceptSession : AcceptSession} {server next : Server}
  {shared : Shared} {label : Thread × Input} {own : Local}
  {session : SessionId} {announced later : Bool}

/-- Initialising a new session introduces it when there is a receiver. -/
theorem fits_initialised
    {call : Call}
    {object : TcpSession}
    {nAcceptSock : Int}
    (positive : 0 < nAcceptSock)
    (constructed : call.session < shared.state.constructed)
    (memory : shared.state.memory call.session =
      (object.init (acceptSession.arguments nAcceptSock)).1)
    (events : call.events = netEventModleLocked [] ++
      (object.init (acceptSession.arguments nAcceptSock)).2.1) :
    CallFits shared .accept false call := by
  rw [TcpSession.init, if_neg (arguments_accepted positive)] at memory events
  dsimp only at memory events
  have announces : callbacks call.events =
      if acceptSession.hasTransPortEngineRecv then [.opens] else [] := by
    rw [events, callbacks_append, TcpSession.callbacks_notify]
    rfl
  cases receives : acceptSession.hasTransPortEngineRecv with
  | false =>
      rw [receives] at announces
      refine .continuing (Or.inr ⟨constructed, ?_⟩) (continuing_of_nil announces)
      rw [memory]
      exact receives
  | true =>
      rw [receives] at announces
      refine .introducing rfl rfl ⟨constructed, announces, ?_⟩
      rw [events]
      exact keepsEpolls_netEventModleLocked.append (keepsEpolls_notify _ _)

/-- The call on a new session introduces it, or nobody will be told anything
about it. -/
theorem fits_acceptConnection
    {garbage : SessionGarbage}
    {address : Nat}
    {nAcceptSock now : Int}
    {call : Call}
    (positive : 0 < nAcceptSock)
    (inCall : (acceptConnection acceptSession shared own nAcceptSock
      (TcpSession.construct garbage address now)).2.call = some call) :
    call.session = shared.state.constructed ∧
      CallFits (acceptConnection acceptSession shared own nAcceptSock
        (TcpSession.construct garbage address now)).1 .accept false call := by
  cases found : acceptSession.findModle (acceptSession.netEventModleIndex
      (shared.state.construct nAcceptSock
        (TcpSession.construct garbage address now))) with
  | none =>
      simp only [acceptConnection, found] at inCall ⊢
      rw [← Option.some.inj inCall]
      exact ⟨rfl, .dismissing rfl rfl ⟨Nat.lt_succ_self _, rfl,
        keepsEpolls_netEventModleLocked, Or.inl rfl⟩⟩
  | some modle =>
      simp only [acceptConnection, found] at inCall ⊢
      rw [← Option.some.inj inCall]
      exact ⟨rfl, fits_initialised positive (Nat.lt_succ_self _)
        (Function.update_self ..) rfl⟩

/-- A connection is accepted: its session is new. -/
theorem Introduced.accepts
    {garbage : SessionGarbage}
    {address : Nat}
    {nAcceptSock now : Int}
    (introduced : Introduced session announced server)
    (isAccept : label.1 = .accept)
    (positive : 0 < nAcceptSock)
    (locals : next.locals = Function.update server.locals label.1 own)
    (accepts : (next.shared, own) =
      acceptConnection acceptSession server.shared (server.locals label.1)
        nAcceptSock (TcpSession.construct garbage address now)) :
    Introduced session announced next := by
  obtain ⟨keeps, mgr, registrations, batch⟩ := acceptConnection_frame
    acceptSession server.shared (server.locals label.1) nAcceptSock
    (TcpSession.construct garbage address now)
  have isShared : next.shared = (acceptConnection acceptSession server.shared
      (server.locals label.1) nAcceptSock
      (TcpSession.construct garbage address now)).1 := congrArg Prod.fst accepts
  have isOwn : own = (acceptConnection acceptSession server.shared
      (server.locals label.1) nAcceptSock
      (TcpSession.construct garbage address now)).2 := congrArg Prod.snd accepts
  rw [← isShared] at keeps mgr registrations
  refine introduced.step keeps locals id (fun _ => rfl) ?_ ?_ ?_ ?_ ?_
  · exact fun told => (introduced.born told).trans_le keeps.constructed
  · rw [mgr]
    exact introduced.entry
  · rw [registrations]
    exact introduced.registration
  · rw [isOwn, batch]
    exact introduced.batch label.1
  · intro call inCall isSession
    rw [isOwn] at inCall
    obtain ⟨isNew, fits⟩ := fits_acceptConnection positive inCall
    have unheard : announced = false := by
      by_contra told
      have born := introduced.born (Bool.eq_true_of_not_eq_false told)
      rw [← isSession, isNew] at born
      exact absurd born (lt_irrefl _)
    rw [isAccept, isShared, unheard]
    exact fits

/-- The accept thread performs an event of a session nobody can find yet. -/
theorem Introduced.performs
    {other : SessionId}
    {modle : Nat}
    {event : EngineEvent}
    {events : List EngineEvent}
    {stage : Stage}
    (introduced : Introduced session announced server)
    (isAccept : label.1 = .accept)
    (keeps : KeepsEpolls (event :: events))
    (performs : server.shared.perform label.1 other modle event =
      some next.shared)
    (locals : next.locals = Function.update server.locals label.1
      { server.locals label.1 with
        call := some ⟨other, modle, events, stage⟩ })
    (onward : announced = true → later = true)
    (born : later = true → session < server.shared.state.constructed)
    (fits : CallFits server.shared .accept later
      ⟨other, modle, events, stage⟩) :
    Introduced session later next := by
  have leaves := performed_of_perform performs
  have keepsReceivers : KeepsReceivers server.shared next.shared :=
    ⟨leaves.constructed.ge, fun session _ => by rw [leaves.memory]⟩
  refine introduced.step keepsReceivers locals onward
    (fun notAccept => absurd isAccept notAccept) ?_ ?_ ?_ ?_ ?_
  · exact fun told => (born told).trans_le keepsReceivers.constructed
  · rw [leaves.mgr]
    exact fun nSocket found =>
      (introduced.entry nSocket found).kept ⟨le_rfl, fun _ _ => rfl⟩ onward
  · intro modle nSocket registration registered isSession
    refine (introduced.registration modle nSocket registration ?_ isSession).kept
      ⟨le_rfl, fun _ _ => rfl⟩ onward
    refine leaves.registration ?_ modle nSocket registration registered
    intro other member
    rw [List.mem_singleton.mp member]
    exact keeps event (List.mem_cons_self ..)
  · exact fun member =>
      (introduced.batch label.1 member).kept ⟨le_rfl, fun _ _ => rfl⟩ onward
  · intro call inCall _
    rw [← Option.some.inj inCall, isAccept]
    exact fits.kept keepsReceivers id fun _ => rfl

/-- The accept thread goes on with a session it has still to introduce. -/
theorem Introduced.introduces
    {call : Call}
    (introduced : Introduced session announced server)
    (inCall : (server.locals label.1).call = some call)
    (isSession : call.session = session)
    (isAccept : label.1 = .accept)
    (before : announced = false)
    (introducing : Introducing server.shared call)
    (advanced : callStep server.shared label.1 (server.locals label.1) call
      label.2 = some (next.shared, own))
    (locals : next.locals = Function.update server.locals label.1 own) :
    ∃ later, run introduce announced (server.callback session label) =
        some later ∧ Introduced session later next := by
  obtain ⟨other, modle, events, stage⟩ := call
  have announces := introducing.announces
  have constructed := introducing.constructed
  dsimp only at isSession announces constructed
  subst isSession before
  cases events with
  | nil => contradiction
  | cons event events =>
      obtain ⟨isPerform, performs, rfl⟩ := callStep_cons advanced
      have emitted : server.callback other label = event.token.toList := by
        rw [Server.callback, isPerform, callback_perform inCall]
      rw [emitted]
      rw [callbacks_cons] at announces
      cases isToken : event.token with
      | none =>
          rw [isToken] at announces
          refine ⟨false, rfl, introduced.performs isAccept introducing.keepsEpolls
            performs locals id nofun ?_⟩
          exact .introducing rfl rfl
            ⟨constructed, announces, introducing.keepsEpolls.tail⟩
      | some token =>
          rw [isToken] at announces
          obtain ⟨rfl, nothing⟩ := List.cons.inj announces
          refine ⟨true, rfl, introduced.performs isAccept introducing.keepsEpolls
            performs locals nofun (fun _ => constructed) ?_⟩
          exact .continuing (Or.inl rfl) (continuing_of_nil nothing)

/-- The accept thread goes on with a session for which there is no module. -/
theorem Introduced.dismisses
    {call : Call}
    (introduced : Introduced session announced server)
    (isAccept : label.1 = .accept)
    (before : announced = false)
    (dismissing : Dismissing server.shared call)
    (advanced : callStep server.shared label.1 (server.locals label.1) call
      label.2 = some (next.shared, own))
    (locals : next.locals = Function.update server.locals label.1 own) :
    Introduced session announced next := by
  have steady := steadyStep_callStep advanced
  obtain ⟨other, modle, events, stage⟩ := call
  obtain ⟨constructed, quiet, keepsEpolls, isStage⟩ := dismissing
  dsimp only at constructed quiet keepsEpolls isStage
  subst before
  cases events with
  | cons event events =>
      obtain ⟨-, performs, rfl⟩ := callStep_cons advanced
      rw [callbacks_cons, List.append_eq_nil_iff] at quiet
      apply introduced.performs isAccept keepsEpolls performs locals id nofun
      exact .dismissing rfl rfl ⟨constructed, quiet.2, keepsEpolls.tail, isStage⟩
  | nil =>
      have frame : ∀ {call : Option Call},
          next.shared.state.mgr = server.shared.state.mgr →
          next.shared.state.kernel = server.shared.state.kernel →
          own = { server.locals label.1 with call := call } →
          (∀ new, call = some new →
            CallFits next.shared label.1 false new) →
          Introduced session false next := by
        rintro call mgr kernel rfl fits
        refine introduced.step steady.keepsReceivers locals id (fun _ => rfl)
          nofun ?_ ?_ (introduced.batch label.1) fun new inCall _ => fits new inCall
        · rw [mgr]
          exact introduced.entry
        · rw [kernel]
          exact introduced.registration
      rcases isStage with rfl | rfl
      · obtain ⟨done, deleted⟩ := callStep_teardown advanced
        change nextTeardown _ _ _ _ done [] .delete = _ at deleted
        obtain ⟨isShared, isOwn⟩ := Prod.mk.inj (Option.some.inj deleted)
        refine frame (by rw [← isShared]; rfl) (by rw [← isShared]; rfl)
          isOwn.symm ?_
        intro new inCall
        rw [← Option.some.inj inCall]
        refine .dismissing isAccept rfl ⟨?_, ?_, ?_, Or.inr rfl⟩
        · exact constructed.trans_le steady.keepsReceivers.constructed
        · exact TcpSession.callbacks_delete _
        · exact keepsEpolls_delete _
      · obtain ⟨done, returned⟩ := callStep_teardown advanced
        obtain ⟨isShared, isOwn⟩ := Prod.mk.inj (Option.some.inj returned)
        apply frame (by rw [← isShared]) (by rw [← isShared]) isOwn.symm
        intro new impossible
        contradiction

end Accept

/-! ## Runs -/

section Runs

variable {acceptSession : AcceptSession} {server next : Server}
  {label : Thread × Input} {session : SessionId} {announced : Bool}

/-- The monitor follows a step of a thread in a call. -/
theorem Introduced.callStep
    {call : Call}
    {own : Local}
    (introduced : Introduced session announced server)
    (inCall : (server.locals label.1).call = some call)
    (whole : threadStep acceptSession server.shared label.1
      (server.locals label.1) label.2 = some (next.shared, own))
    (advanced : callStep server.shared label.1 (server.locals label.1) call
      label.2 = some (next.shared, own))
    (locals : next.locals = Function.update server.locals label.1 own) :
    ∃ later, run introduce announced (server.callback session label) =
        some later ∧ Introduced session later next := by
  have steady := steadyStep_callStep advanced
  have members : session ∈ (server.locals label.1).pointers →
      session ∈ (server.locals label.1).batch.map Prod.fst ∨
        call.session = session := by
    intro member
    rcases List.mem_append.mp member with fetched | called
    · exact Or.inl fetched
    · rw [inCall] at called
      exact Or.inr (List.mem_singleton.mp called).symm
  by_cases isSession : call.session = session
  · cases introduced.call label.1 call inCall isSession with
    | introducing isAccept before introducing =>
        exact introduced.introduces inCall isSession isAccept before introducing
          advanced locals
    | dismissing isAccept before dismissing =>
        refine ⟨announced, ?_, introduced.dismisses isAccept before dismissing
          advanced locals⟩
        rcases callback_cases (server.locals label.1) session label.2 with none |
          ⟨modle, event, events, stage, isCall, -, emits⟩
        · rw [Server.callback, none]
          rfl
        · obtain rfl := Option.some.inj (inCall.symm.trans isCall)
          have quiet := dismissing.quiet
          rw [callbacks_cons, List.append_eq_nil_iff] at quiet
          rw [Server.callback, emits, quiet.1]
          rfl
    | continuing heard continuing =>
        refine ⟨announced, ?_, introduced.steadyStep ?_ whole locals steady ?_⟩
        · rcases callback_cases (server.locals label.1) session label.2 with none |
            ⟨modle, event, events, stage, isCall, -, emits⟩
          · rw [Server.callback, none]
            rfl
          · obtain rfl := Option.some.inj (inCall.symm.trans isCall)
            rw [Server.callback, emits]
            exact continuing.tail.1
        · exact fun _ => isSession ▸ heard
        · intro new goesOn _
          exact continuing_callStep heard continuing advanced goesOn
  · refine ⟨announced, ?_, introduced.steadyStep ?_ whole locals steady ?_⟩
    · rw [Server.callback, callback_other inCall isSession]
      rfl
    · intro member
      exact introduced.batch label.1 ((members member).resolve_right isSession)
    · intro new goesOn isSame
      exact absurd ((session_callStep advanced goesOn).symm.trans isSame) isSession

/-- The monitor follows every step. -/
theorem Introduced.serverStep
    (introduced : Introduced session announced server)
    (stepped : serverStep acceptSession server label = some next) :
    ∃ later, run introduce announced (server.callback session label) =
        some later ∧ Introduced session later next := by
  obtain ⟨own, advanced, locals⟩ := serverStep_eq_some stepped
  have whole := advanced
  unfold threadStep at advanced
  split at advanced
  · rename_i call inCall
    exact introduced.callStep inCall whole advanced locals
  · rename_i idle
    rw [Server.callback, callback_idle idle]
    refine ⟨announced, rfl, ?_⟩
    rcases steadyStep_idleStep idle advanced with ⟨steady, silent⟩ |
      ⟨nAcceptSock, garbage, address, now, positive, isAccept, accepts⟩
    · refine introduced.steadyStep ?_ whole locals steady ?_
      · intro member
        rw [Local.pointers, idle] at member
        exact introduced.batch label.1 ((List.mem_append.mp member).resolve_right
          List.not_mem_nil)
      · exact fun new begins _ => continuing_of_nil (silent new begins)
    · exact introduced.accepts isAccept positive locals accepts

/-- Whatever the threads of a server do, and in whatever order: the first callback
on a session is `CONNECT`, and there is no other `CONNECT` on it. -/
theorem opened_first
    (acceptSession : AcceptSession)
    (memory : SessionId → TcpSession)
    (bIsHeartbeat : Bool)
    (session : SessionId)
    (labels : List (Thread × Input)) :
    OpenedOnce (Server.callbackWord acceptSession session
      (Server.initial memory bIsHeartbeat) labels) := by
  have anyStep : Throughout (TransPortEngine.serverStep acceptSession)
      (fun _ _ => True) (Server.initial memory bIsHeartbeat) labels :=
    throughout_of_forall fun _ _ _ => trivial
  obtain ⟨final, accepted⟩ := collect_monitored
    (fun _ _ _ _ introduced _ stepped => Introduced.serverStep introduced stepped)
    (introduced_initial session memory bIsHeartbeat) anyStep
  exact openedOnce_of_run accepted

end Runs

end TransPortEngine
