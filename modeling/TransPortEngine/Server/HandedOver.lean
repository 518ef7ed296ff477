import TransPortEngine.Library.Ledger
import TransPortEngine.Server.OneHandler
import TransPortEngine.Server.SessionLives
import TransPortEngine.TcpSession.Delivery
import TransPortEngine.TcpSession.Hostile

/-!
# What is handed over on a session of a server

The workers of a server read for all its sessions, and whoever has read a message
still has to call the application. Whatever the peers send and the threads do
meanwhile, what the application is handed on a session stands in the bytes that
have been read on this session, in order and once, as long as one worker at a
time handles the session, none of its reads has failed and nobody has begun to get
rid of it. Threads with pointers to deleted sessions are left out: the address may
have been given to the session by then, and what such a thread does would change
its state.
-/

namespace TransPortEngine

open Transition

/-! ## Reading and handing over -/

/-- The bytes a thread reads on a session. -/
def Local.reads
    (own : Local)
    (session : SessionId)
    (input : Input) : List UInt8 :=
  match own.call, input with
  | some call, .receive turn =>
      if call.session = session then turn.bytes else []
  | _, _ => []

/-- The payload a thread hands over on a session. -/
def Local.handsOver
    (own : Local)
    (session : SessionId)
    (input : Input) : List (List UInt8) :=
  match own.call, input with
  | some ⟨other, _, event :: _, _⟩, .perform =>
      if other = session then event.delivery.toList else []
  | _, _ => []

/-- The payloads a thread has read on a session and has still to hand over. -/
def Local.waiting (own : Local) (session : SessionId) : List (List UInt8) :=
  match own.call with
  | some call => if call.session = session then deliveries call.events else []
  | none => []

/-- A stage behind a read that has failed, or on the way to get rid of a
session. -/
def Stage.givesUp : Stage → Bool
  | .teardown _ => true
  | .receiving _ (.leave nRet) => decide (nRet < 0)
  | _ => false

/-- A thread has found a read on a session to have failed, or gets rid of it. -/
def Local.givesUp (own : Local) (session : SessionId) : Bool :=
  match own.call with
  | some call => decide (call.session = session) && call.stage.givesUp
  | none => false

/-- A step with which no thread gives up a session. -/
def KeepsReading
    (acceptSession : AcceptSession)
    (session : SessionId)
    (server : Server)
    (label : Thread × Input) : Prop :=
  ∀ next, serverStep acceptSession server label = some next →
    (next.locals label.1).givesUp session = false

/-- The bytes read on a session in a run. -/
def Server.bytesRead
    (acceptSession : AcceptSession)
    (session : SessionId) : Server → List (Thread × Input) → List UInt8 :=
  collect (serverStep acceptSession) fun server label =>
    (server.locals label.1).reads session label.2

/-- The payloads the application is handed on a session in a run. -/
def Server.handedOver
    (acceptSession : AcceptSession)
    (session : SessionId) : Server → List (Thread × Input) → List (List UInt8) :=
  collect (serverStep acceptSession) fun server label =>
    (server.locals label.1).handsOver session label.2

/-! ## Threads that hand over nothing -/

/-- Events without callbacks hand over nothing. -/
theorem deliveries_of_callbacks
    {events : List EngineEvent}
    (none : callbacks events = []) :
    deliveries events = [] := by
  apply List.filterMap_eq_nil_iff.mpr
  intro event member
  have noToken := List.filterMap_eq_nil_iff.mp none event member
  cases event with
  | onTransPortEngineRecv => contradiction
  | _ => rfl

section Local

variable {own : Local} {session : SessionId} {call : Call}

theorem reads_of_ne
    {input : Input}
    (notReceive : ∀ turn, input ≠ .receive turn) :
    own.reads session input = [] := by
  unfold Local.reads
  split
  · exact absurd rfl (notReceive _)
  · rfl

theorem reads_of_idle
    (idle : own.call = none)
    (input : Input) :
    own.reads session input = [] := by
  unfold Local.reads
  rw [idle]

theorem handsOver_of_ne
    {input : Input}
    (notPerform : input ≠ .perform) :
    own.handsOver session input = [] := by
  unfold Local.handsOver
  split
  · contradiction
  · rfl

/-- The first event of a call is performed. -/
theorem handsOver_perform
    {other : SessionId}
    {modle : Nat}
    {event : EngineEvent}
    {events : List EngineEvent}
    {stage : Stage}
    (inCall : own.call = some ⟨other, modle, event :: events, stage⟩) :
    own.handsOver session .perform =
      if other = session then event.delivery.toList else [] := by
  unfold Local.handsOver
  rw [inCall]

theorem handsOver_of_idle
    (idle : own.call = none)
    (input : Input) :
    own.handsOver session input = [] := by
  unfold Local.handsOver
  rw [idle]

theorem waiting_of_call (inCall : own.call = some call) :
    own.waiting session =
      if call.session = session then deliveries call.events else [] := by
  unfold Local.waiting
  rw [inCall]

theorem waiting_of_idle (idle : own.call = none) :
    own.waiting session = [] := by
  unfold Local.waiting
  rw [idle]

/-- A call that hands over nothing. -/
theorem waiting_of_silent
    (inCall : own.call = some call)
    (silent : deliveries call.events = []) :
    own.waiting session = [] := by
  rw [waiting_of_call inCall, silent, ite_self]

theorem waiting_of_quiet
    (inCall : own.call = some call)
    (quiet : call.events = []) :
    own.waiting session = [] := by
  apply waiting_of_silent inCall
  rw [quiet]
  rfl

theorem givesUp_of_call
    (inCall : own.call = some call)
    (same : call.session = session) :
    own.givesUp session = call.stage.givesUp := by
  unfold Local.givesUp
  rw [inCall]
  simp [same]

/-- Nobody gives up a session in a call that is at the start of a teardown. -/
theorem not_givesUp_teardown
    {calls : List Teardown}
    (kept : own.givesUp session = false)
    (inCall : own.call = some call)
    (stage : call.stage = .teardown calls) :
    call.session ≠ session := by
  intro same
  rw [givesUp_of_call inCall same, stage] at kept
  contradiction

end Local

/-- As long as there is something left to do, the same sessions are handled. -/
theorem Call.handled_of_ne
    {events : List EngineEvent}
    (left : events ≠ [])
    (session : SessionId)
    (modle : Nat)
    (event : EngineEvent)
    (stage : Stage) :
    (Call.mk session modle events stage).handled =
      (Call.mk session modle (event :: events) stage).handled := by
  cases events with
  | nil => contradiction
  | cons second events =>
      cases stage with
      | receiving fetched ending =>
          cases ending with
          | loop => rfl
          | leave nRet => rfl
      | _ => rfl

/-- A call that has read and has something left to do handles its session. -/
theorem Call.handled_receiving
    {events : List EngineEvent}
    (left : events ≠ [])
    (session : SessionId)
    (modle : Nat)
    (event : EpollEvent)
    (ending : PassEnd) :
    (Call.mk session modle events (.receiving event ending)).handled =
      [session] := by
  cases events with
  | nil => contradiction
  | cons first events =>
      cases ending with
      | loop => rfl
      | leave nRet => rfl

/-! ## What a step means for a session -/

/-- A step that reads nothing on a session, and hands over no more than the first
of what waits. -/
structure UnreadStep
    (session : SessionId)
    (shared : Shared)
    (own : Local)
    (input : Input)
    (after : Shared × Local) : Prop where
  noRead : own.reads session input = []
  known : session < after.1.state.constructed ↔ session < shared.state.constructed
  core : (after.1.state.memory session).toSessionCore =
    (shared.state.memory session).toSessionCore
  waiting : own.waiting session =
    own.handsOver session input ++ after.2.waiting session
  handled : after.2.waiting session ≠ [] → session ∈ own.handling →
    session ∈ after.2.handling

/-- A read on a session that is handled and on which nothing waits. -/
structure ReadStep
    (session : SessionId)
    (shared : Shared)
    (own : Local)
    (input : Input)
    (turn : RecvTurn)
    (after : Shared × Local) : Prop where
  reads : own.reads session input = turn.bytes
  handsNothing : own.handsOver session input = []
  silent : own.waiting session = []
  handling : session ∈ own.handling
  constructed : after.1.state.constructed = shared.state.constructed
  core : (after.1.state.memory session).toSessionCore =
    ((shared.state.memory session).ioRecvPass turn).session.toSessionCore
  waiting : after.2.waiting session =
    deliveries ((shared.state.memory session).ioRecvPass turn).events
  handled : after.2.waiting session ≠ [] → session ∈ after.2.handling
  succeeds : after.2.givesUp session = false →
    ¬∃ nRet < 0, ((shared.state.memory session).ioRecvPass turn).ending =
      .leave nRet

/-- A session is constructed. -/
structure BirthStep
    (acceptSession : AcceptSession)
    (session : SessionId)
    (shared : Shared)
    (own : Local)
    (input : Input)
    (after : Shared × Local) : Prop where
  isNew : session = shared.state.constructed
  constructed : after.1.state.constructed = shared.state.constructed + 1
  noRead : own.reads session input = []
  handsNothing : own.handsOver session input = []
  silent : after.2.waiting session = []
  initialised : after.2.givesUp session = false →
    ∃ garbage address now nAcceptSock, 0 < nAcceptSock ∧
      after.1.state.memory session = ((TcpSession.construct garbage address
        now).init (acceptSession.arguments nAcceptSock)).1

/-- What a step of a thread means for a session. -/
inductive ReadingStep
    (acceptSession : AcceptSession)
    (session : SessionId)
    (shared : Shared)
    (own : Local)
    (input : Input)
    (after : Shared × Local) : Prop
  | unread (unread : UnreadStep session shared own input after)
  | read
      (turn : RecvTurn)
      (read : ReadStep session shared own input turn after)
  | born (born : BirthStep acceptSession session shared own input after)

section Steps

variable {acceptSession : AcceptSession} {session : SessionId} {shared : Shared}
  {thread : Thread} {own : Local} {call : Call} {input : Input}
  {after : Shared × Local}

/-- A step before and behind which nothing waits. -/
theorem unreadStep_of_silent
    (noRead : own.reads session input = [])
    (handsNothing : own.handsOver session input = [])
    (silent : own.waiting session = [])
    (silentLater : after.2.waiting session = [])
    (constructed : after.1.state.constructed = shared.state.constructed)
    (core : (after.1.state.memory session).toSessionCore =
      (shared.state.memory session).toSessionCore) :
    UnreadStep session shared own input after where
  noRead := noRead
  known := by rw [constructed]
  core := core
  waiting := by rw [silent, handsNothing, silentLater, List.append_nil]
  handled waits := absurd silentLater waits

/-- A thread goes on, and nothing waits before and behind that. -/
theorem unreadStep_next
    {done : Bool}
    (silent : own.waiting session = [])
    (silentLater : after.2.waiting session = [])
    (constructed : after.1.state.constructed = shared.state.constructed)
    (core : (after.1.state.memory session).toSessionCore =
      (shared.state.memory session).toSessionCore) :
    UnreadStep session shared own (.next done) after :=
  unreadStep_of_silent (reads_of_ne nofun) (handsOver_of_ne nofun) silent
    silentLater constructed core

/-- A thread does the next thing of a call. -/
theorem unreadStep_perform
    {event : EngineEvent}
    {events : List EngineEvent}
    {next : Shared}
    (inCall : own.call = some call)
    (first : call.events = event :: events)
    (performed : shared.perform thread call.session call.modle event =
      some next) :
    UnreadStep session shared own .perform
      (next, { own with call := some { call with events := events } }) := by
  have leaves := performed_of_perform performed
  obtain ⟨other, modle, _, stage⟩ := call
  dsimp only at first
  subst first
  have waitsLater : Local.waiting
      { own with call := some ⟨other, modle, events, stage⟩ } session =
        if other = session then deliveries events else [] := rfl
  refine ⟨reads_of_ne nofun, ?_, ?_, ?_, ?_⟩
  · rw [leaves.constructed]
  · rw [leaves.memory]
  · dsimp only
    rw [waiting_of_call inCall, waitsLater, handsOver_perform inCall]
    by_cases same : other = session
    · rw [if_pos same, if_pos same, if_pos same]
      cases isDelivery : event.delivery with
      | none => exact List.filterMap_cons_none isDelivery
      | some payload => exact List.filterMap_cons_some isDelivery
    · rw [if_neg same, if_neg same, if_neg same]
      rfl
  · intro waits handles
    have left : events ≠ [] := by
      rintro rfl
      exact waits (waitsLater.trans (ite_self _))
    rw [Local.handling, inCall] at handles
    change session ∈ (Call.mk other modle events stage).handled
    rw [Call.handled_of_ne left other modle event stage]
    exact handles

/-- A call to get rid of another session. -/
theorem unreadStep_nextTeardown
    {done : Bool}
    {first : Teardown}
    {calls : List Teardown}
    (inCall : own.call = some call)
    (other : call.session ≠ session)
    (advanced : nextTeardown shared thread own call done calls first =
      some after) :
    UnreadStep session shared own (.next done) after := by
  have silent : own.waiting session = [] := by
    rw [waiting_of_call inCall, if_neg other]
  have stored : ∀ object,
      ((shared.store call.session object).state.memory session) =
        shared.state.memory session := by
    intro object
    simp only [Shared.store, ServerState.store,
      Function.update_of_ne (Ne.symm other)]
  apply unreadStep_next silent
  · cases first with
    | delSession nSocket =>
        obtain ⟨-, rfl⟩ := nextTeardown_delSession advanced
        rw [waiting_of_call rfl]
        exact if_neg other
    | delEvent | fini | delete =>
        obtain rfl := Option.some.inj advanced
        rw [waiting_of_call rfl]
        exact if_neg other
  · cases first with
    | delSession nSocket =>
        obtain ⟨-, rfl⟩ := nextTeardown_delSession advanced
        rfl
    | delEvent | fini | delete =>
        obtain rfl := Option.some.inj advanced
        rfl
  · cases first with
    | delSession nSocket =>
        obtain ⟨-, rfl⟩ := nextTeardown_delSession advanced
        rfl
    | delEvent =>
        obtain rfl := Option.some.inj advanced
        rfl
    | fini | delete =>
        obtain rfl := Option.some.inj advanced
        exact congrArg TcpSession.toSessionCore (stored _)

/-- A thread goes on behind a call. -/
theorem unreadStep_afterCall
    {done : Bool}
    (kept : own.givesUp session = false)
    (inCall : own.call = some call)
    (quiet : call.events = [])
    (advanced : afterCall shared thread own call done = some after) :
    UnreadStep session shared own (.next done) after := by
  have silent : own.waiting session = [] := waiting_of_quiet inCall quiet
  have still : ∀ (other : Shared) (new : Call),
      other.state.constructed = shared.state.constructed →
        other.state.memory = shared.state.memory →
          deliveries new.events = [] →
            UnreadStep session shared own (.next done)
              (other, { own with call := some new }) := by
    intro other new constructed memory none
    apply unreadStep_next silent
    · exact waiting_of_silent rfl none
    · exact constructed
    · dsimp only
      rw [memory]
  have nothing : deliveries call.events = [] := by
    rw [quiet]
    rfl
  cases afterCall_cases advanced with
  | giveUp | receive => exact still _ _ rfl rfl nothing
  | addSession => exact still _ _ rfl rfl nothing
  | addEvent | postRecv => exact still _ _ rfl rfl rfl
  | drop _ _ dropped =>
      obtain ⟨-, _, calls, rfl⟩ := dropFailed_eq_some dropped
      refine unreadStep_next silent ?_ rfl rfl
      cases calls with
      | none => rfl
      | some calls => exact waiting_of_silent rfl rfl
  | teardown stage advanced =>
      exact unreadStep_nextTeardown inCall
        (not_givesUp_teardown kept inCall stage) advanced
  | returned =>
      exact unreadStep_next silent rfl rfl rfl

/-- An object is stored that differs at most in what only Linux has. -/
theorem core_store
    (other : SessionId)
    (object : TcpSession)
    (same : object.toSessionCore =
      (shared.state.memory other).toSessionCore) :
    ((shared.store other object).state.memory session).toSessionCore =
      (shared.state.memory session).toSessionCore := by
  by_cases isOther : session = other
  · subst isOther
    simp only [Shared.store, ServerState.store, Function.update_self, same]
  · simp only [Shared.store, ServerState.store, Function.update_of_ne isOther]

/-- A read, on the session or on another one. -/
theorem readingStep_receive
    {event : EpollEvent}
    {turn : RecvTurn}
    (inCall : own.call = some call)
    (quiet : call.events = [])
    (stage : call.stage = .receiving event .loop) :
    ReadingStep acceptSession session shared own (.receive turn)
      (shared.store call.session
          ((shared.state.memory call.session).ioRecvPass turn).session,
        { own with call := some { call with
          events := ((shared.state.memory call.session).ioRecvPass turn).events
          stage := .receiving event
            ((shared.state.memory call.session).ioRecvPass turn).ending } }) := by
  have reads : own.reads session (.receive turn) =
      if call.session = session then turn.bytes else [] := by
    unfold Local.reads
    rw [inCall]
  have silent : own.waiting session = [] := waiting_of_quiet inCall quiet
  by_cases same : call.session = session
  · subst same
    generalize isPass : (shared.state.memory call.session).ioRecvPass turn = pass
    have waitsLater : Local.waiting { own with call := some { call with
        events := pass.events, stage := .receiving event pass.ending } }
          call.session = deliveries pass.events := if_pos rfl
    refine .read turn ⟨reads.trans (if_pos rfl), handsOver_of_ne nofun, silent, ?_,
      rfl, ?_, ?_, ?_, ?_⟩
    · rw [Local.handling, inCall, Option.map_some, Option.getD_some, Call.handled,
        stage]
      exact List.mem_singleton_self _
    · rw [isPass]
      simp only [Shared.store, ServerState.store, Function.update_self]
    · rw [isPass]
      exact waitsLater
    · intro waits
      have left : pass.events ≠ [] := by
        intro none
        exact waits (waitsLater.trans (congrArg deliveries none))
      change call.session ∈ (Call.mk call.session call.modle pass.events
        (.receiving event pass.ending)).handled
      rw [Call.handled_receiving left]
      exact List.mem_singleton_self _
    · rw [isPass]
      rintro succeeds ⟨nRet, negative, leaves⟩
      simp only [Local.givesUp, leaves, Stage.givesUp, decide_true, Bool.true_and,
        decide_eq_false_iff_not] at succeeds
      exact succeeds negative
  · refine .unread (unreadStep_of_silent (reads.trans (if_neg same))
      (handsOver_of_ne nofun) silent (if_neg same) rfl ?_)
    simp only [Shared.store, ServerState.store,
      Function.update_of_ne (Ne.symm same)]

/-- A notification hands over nothing. -/
theorem deliveries_notify (object : TcpSession) (nMsgType : MsgType) :
    deliveries (object.notify nMsgType) = [] := by
  unfold TcpSession.notify
  split
  · rfl
  · rfl

/-- The call that sets up a new session hands over nothing. -/
theorem waiting_acceptConnection (nAcceptSock : Int) (object : TcpSession) :
    (acceptConnection acceptSession shared own nAcceptSock object).2.waiting
      session = [] := by
  have told : ∀ arguments, deliveries (object.init arguments).2.1 = [] := by
    intro arguments
    unfold TcpSession.init
    split
    · rfl
    · exact deliveries_notify _ _
  unfold acceptConnection
  dsimp only
  split
  · exact waiting_of_silent rfl rfl
  · apply waiting_of_silent rfl
    dsimp only
    rw [deliveries_append, told]
    rfl

/-- A new session that is kept has been initialised. -/
theorem initialised_acceptConnection
    {nAcceptSock : Int}
    {garbage : SessionGarbage}
    {address : Nat}
    {now : Int}
    (isNew : session = shared.state.constructed)
    (positive : 0 < nAcceptSock)
    (kept : (acceptConnection acceptSession shared own nAcceptSock
      (TcpSession.construct garbage address now)).2.givesUp session = false) :
    ∃ garbage' address' now' nAcceptSock', 0 < nAcceptSock' ∧
      (acceptConnection acceptSession shared own nAcceptSock
          (TcpSession.construct garbage address now)).1.state.memory session =
        ((TcpSession.construct garbage' address' now').init
          (acceptSession.arguments nAcceptSock')).1 := by
  refine ⟨garbage, address, now, nAcceptSock, positive, ?_⟩
  subst isNew
  unfold acceptConnection at kept ⊢
  dsimp only at kept ⊢
  split at kept
  · simp [Local.givesUp, Stage.givesUp] at kept
  · simp only [ServerState.store, Function.update_self]

/-- A connection is accepted, of the session or of another one. -/
theorem readingStep_accept
    {nAcceptSock : Int}
    (idle : own.call = none)
    (positive : 0 < nAcceptSock)
    (garbage : SessionGarbage)
    (address : Nat)
    (now : Int) :
    ReadingStep acceptSession session shared own
      (.accept nAcceptSock garbage address now)
      (acceptConnection acceptSession shared own nAcceptSock
        (TcpSession.construct garbage address now)) := by
  have effect : AcceptEffect shared own nAcceptSock
      (acceptConnection acceptSession shared own nAcceptSock
        (TcpSession.construct garbage address now)) :=
    acceptEffect_acceptConnection acceptSession nAcceptSock garbage address now
  have noRead : own.reads session (.accept nAcceptSock garbage address now) = [] :=
    reads_of_ne nofun
  have handsNothing :
      own.handsOver session (.accept nAcceptSock garbage address now) = [] :=
    handsOver_of_ne nofun
  by_cases isNew : session = shared.state.constructed
  · exact .born ⟨isNew, effect.constructed, noRead, handsNothing,
      waiting_acceptConnection _ _, initialised_acceptConnection isNew positive⟩
  · refine .unread ⟨noRead, ?_, ?_, ?_, ?_⟩
    · rw [effect.constructed, Nat.lt_succ_iff_lt_or_eq]
      exact or_iff_left isNew
    · exact congrArg TcpSession.toSessionCore (effect.memory session isNew)
    · rw [waiting_of_idle idle, handsNothing, waiting_acceptConnection]
      rfl
    · exact fun waits => absurd (waiting_acceptConnection _ _) waits

/-- A thread in a call. -/
theorem readingStep_callStep
    (kept : own.givesUp session = false)
    (inCall : own.call = some call)
    (advanced : callStep shared thread own call input = some after) :
    ReadingStep acceptSession session shared own input after := by
  cases callStep_cases advanced with
  | perform first performed =>
      exact .unread (unreadStep_perform inCall first performed)
  | goOn quiet advanced =>
      exact .unread (unreadStep_afterCall kept inCall quiet advanced)
  | receive quiet stage => exact readingStep_receive inCall quiet stage
  | send quiet stage isLength isSent =>
      have silent : own.waiting session = [] := waiting_of_quiet inCall quiet
      subst isSent
      refine .unread (unreadStep_of_silent (reads_of_ne nofun)
        (handsOver_of_ne nofun) silent ?_ rfl ?_)
      · exact waiting_of_silent rfl (TcpSession.deliveries_ioSend _ _ _ _)
      · apply core_store
        rw [(TcpSession.ioSend_writes _ _ _ _).1]

/-- A thread between two calls. -/
theorem readingStep_idleStep
    (idle : own.call = none)
    (advanced : idleStep acceptSession shared thread own input = some after) :
    ReadingStep acceptSession session shared own input after := by
  have noRead : own.reads session input = [] := reads_of_idle idle input
  have handsNothing : own.handsOver session input = [] :=
    handsOver_of_idle idle input
  have silent : own.waiting session = [] := waiting_of_idle idle
  have still : ∀ other : Shared × Local,
      other.2.waiting session = [] →
        other.1.state.constructed = shared.state.constructed →
          other.1.state.memory = shared.state.memory →
            ReadingStep acceptSession session shared own input other := by
    intro other silentLater constructed memory
    refine .unread (unreadStep_of_silent noRead handsNothing silent silentLater
      constructed ?_)
    rw [memory]
  have idler : ∀ other : Shared × Local, other.2.call = none →
      other.1.state.constructed = shared.state.constructed →
        other.1.state.memory = shared.state.memory →
          ReadingStep acceptSession session shared own input other := by
    intro other idleLater
    exact still other (waiting_of_idle idleLater)
  cases idleStep_cases advanced with
  | accept _ positive => exact readingStep_accept idle positive _ _ _
  | handle _ _ handled =>
      cases handleFetched_cases handled with
      | ignore | pointless => exact idler _ idle rfl rfl
      | send =>
          refine .unread (unreadStep_of_silent noRead handsNothing silent ?_ rfl ?_)
          · exact waiting_of_silent rfl
              (deliveries_of_callbacks (TcpSession.callbacks_ioSendQueued _ _ _))
          · apply core_store
            rw [TcpSession.session_ioSendQueued]
      | receive => exact still _ (waiting_of_silent rfl rfl) rfl rfl
  | @find _ nSendDataLen nSessionId =>
      refine still _ ?_ rfl rfl
      cases found : shared.state.mgr.findSession nSessionId with
      | none => rfl
      | some other => exact waiting_of_silent rfl rfl
  | enterHeartbeat _ _ entered | enterStop _ entered =>
      obtain ⟨-, rfl⟩ := enterSweep_eq_some entered
      exact idler _ idle rfl rfl
  | evict | finish => exact still _ (waiting_of_silent rfl rfl) rfl rfl
  | fetch | leaveHeartbeat | leaveStop | passOver => exact idler _ idle rfl rfl

/-- Any step of a thread. -/
theorem readingStep_threadStep
    (kept : own.givesUp session = false)
    (advanced : threadStep acceptSession shared thread own input = some after) :
    ReadingStep acceptSession session shared own input after := by
  unfold threadStep at advanced
  split at advanced
  · rename_i call inCall
    exact readingStep_callStep kept inCall advanced
  · rename_i idle
    exact readingStep_idleStep idle advanced

end Steps

/-! ## Runs -/

/-- The payloads read on a session are those handed over and those the thread that
has read them still has to hand over. -/
structure Accounted
    (session : SessionId)
    (handed produced : List (List UInt8))
    (server : Server) : Prop where
  waiting : ∀ thread, (server.locals thread).waiting session ≠ [] →
    produced = handed ++ (server.locals thread).waiting session
  done : (∀ thread, (server.locals thread).waiting session = []) →
    produced = handed

/-- What has been read on a session is where it stands in a frame, and what has
been made of it stands in what has been read. -/
structure DecodedOn
    (session : SessionId)
    (read : List UInt8)
    (handed : List (List UInt8))
    (server : Server) : Prop where
  kept : ∀ thread, (server.locals thread).givesUp session = false
  handling : ∀ thread, (server.locals thread).waiting session ≠ [] →
    session ∈ (server.locals thread).handling
  unborn : server.shared.state.constructed ≤ session → read = [] ∧ handed = []
  born : session < server.shared.state.constructed →
    ∃ produced start, Accounted session handed produced server ∧
      (server.shared.state.memory session).toSessionCore.Framed read start ∧
      ∀ more payloads, StandIn (read ++ more) start payloads →
        StandIn (read ++ more) 0 (produced ++ payloads)

section Runs

variable {acceptSession : AcceptSession} {session : SessionId}
  {server next : Server} {label : Thread × Input} {own : Local}
  {bytes : List UInt8} {handed produced : List (List UInt8)}

/-- The payloads are those handed over and some that wait. -/
theorem Accounted.begins
    (accounted : Accounted session handed produced server) :
    ∃ rest, produced = handed ++ rest := by
  by_cases none : ∀ thread, (server.locals thread).waiting session = []
  · exact ⟨[], (accounted.done none).trans (List.append_nil handed).symm⟩
  · obtain ⟨thread, some⟩ := not_forall.mp none
    exact ⟨_, accounted.waiting thread some⟩

/-- What is known of a step for the payloads of a session: one thread has changed,
and only one thread can have something to hand over. -/
structure TurnOf
    (session : SessionId)
    (server next : Server)
    (label : Thread × Input)
    (own : Local) : Prop where
  self : next.locals label.1 = own
  others : ∀ thread, thread ≠ label.1 →
    next.locals thread = server.locals thread
  alone : session ∈ (server.locals label.1).handling →
    ∀ thread, thread ≠ label.1 → (server.locals thread).waiting session = []

theorem Accounted.unread
    {shared : Shared}
    (accounted : Accounted session handed produced server)
    (turn : TurnOf session server next label own)
    (handling : (server.locals label.1).waiting session ≠ [] →
      session ∈ (server.locals label.1).handling)
    (unread : UnreadStep session shared (server.locals label.1) label.2
      (next.shared, own)) :
    Accounted session
      (handed ++ (server.locals label.1).handsOver session label.2) produced
      next := by
  have waits := unread.waiting
  dsimp only at waits
  by_cases silent : (server.locals label.1).waiting session = []
  · have nothing := List.append_eq_nil_iff.mp (waits.symm.trans silent)
    have same : ∀ thread, (next.locals thread).waiting session =
        (server.locals thread).waiting session := by
      intro thread
      by_cases isSelf : thread = label.1
      · subst isSelf
        rw [turn.self, nothing.2, silent]
      · rw [turn.others thread isSelf]
    rw [nothing.1, List.append_nil]
    refine ⟨?_, ?_⟩
    · intro thread some
      rw [same] at some ⊢
      exact accounted.waiting thread some
    · intro none
      exact accounted.done fun thread => (same thread).symm.trans (none thread)
  · have isProduced := accounted.waiting label.1 silent
    rw [waits, ← List.append_assoc] at isProduced
    refine ⟨?_, ?_⟩
    · intro thread some
      by_cases isSelf : thread = label.1
      · subst isSelf
        rw [turn.self]
        exact isProduced
      · rw [turn.others thread isSelf,
          turn.alone (handling silent) thread isSelf] at some
        contradiction
    · intro none
      have last := none label.1
      rw [turn.self] at last
      rw [isProduced, last, List.append_nil]

theorem Accounted.read
    {shared : Shared}
    {turn : RecvTurn}
    (accounted : Accounted session handed produced server)
    (isTurn : TurnOf session server next label own)
    (read : ReadStep session shared (server.locals label.1) label.2 turn
      (next.shared, own)) :
    Accounted session
      (handed ++ (server.locals label.1).handsOver session label.2)
      (produced ++
        deliveries ((shared.state.memory session).ioRecvPass turn).events)
      next := by
  have alone := isTurn.alone read.handling
  have isProduced : produced = handed := by
    apply accounted.done
    intro thread
    by_cases isSelf : thread = label.1
    · rw [isSelf, read.silent]
    · exact alone thread isSelf
  have waits := read.waiting
  dsimp only at waits
  rw [read.handsNothing, List.append_nil, isProduced, ← waits]
  refine ⟨?_, ?_⟩
  · intro thread some
    by_cases isSelf : thread = label.1
    · rw [isSelf, isTurn.self]
    · rw [isTurn.others thread isSelf, alone thread isSelf] at some
      contradiction
  · intro none
    have last := none label.1
    rw [isTurn.self] at last
    rw [last, List.append_nil]

/-- A server before its first connection. -/
theorem decodedOn_initial
    (session : SessionId)
    (memory : SessionId → TcpSession)
    (bIsHeartbeat : Bool) :
    DecodedOn session [] [] (Server.initial memory bIsHeartbeat) := by
  refine ⟨fun _ => rfl, ?_, fun _ => ⟨rfl, rfl⟩, ?_⟩
  · intro thread waits
    exact absurd rfl waits
  · intro impossible
    exact absurd impossible (Nat.not_lt_zero session)

/-- A new session of a framed server waits for a header. -/
theorem framed_init
    {nAcceptSock : Int}
    (framed : acceptSession.bIsHaveHead = true)
    (positive : 0 < nAcceptSock)
    (garbage : SessionGarbage)
    (address : Nat)
    (now : Int) :
    ((TcpSession.construct garbage address now).init
      (acceptSession.arguments nAcceptSock)).1.toSessionCore.Framed [] 0 := by
  have valid : nAcceptSock ≠ -1 := by omega
  refine ⟨?_, Or.inl ⟨?_, ?_, [], ?_, le_rfl⟩⟩
  · simp [TcpSession.init, AcceptSession.arguments, valid, framed]
  · simp [TcpSession.init, AcceptSession.arguments, valid, TcpSession.construct,
      SessionCore.construct]
  · simp [TcpSession.init, AcceptSession.arguments, valid, TcpSession.construct,
      SessionCore.construct, cachedBytes, sizeofHeadMsg]
  · simp [TcpSession.init, AcceptSession.arguments, valid, TcpSession.construct,
      SessionCore.construct, cachedBytes]

/-- Every step that does not give up the session keeps the account of what has been
read on it. -/
theorem DecodedOn.serverStep
    {socketOf : SessionId → Int}
    (framed : acceptSession.bIsHaveHead = true)
    (one : OneHandler socketOf server)
    (decoded : DecodedOn session bytes handed server)
    (keeps : KeepsReading acceptSession session server label)
    (stepped : serverStep acceptSession server label = some next) :
    DecodedOn session
      (bytes ++ (server.locals label.1).reads session label.2)
      (handed ++ (server.locals label.1).handsOver session label.2) next := by
  have keptLater := keeps next stepped
  obtain ⟨own, advanced, locals⟩ := serverStep_eq_some stepped
  have turn : TurnOf session server next label own := by
    refine ⟨?_, ?_, ?_⟩
    · rw [locals, Function.update_self]
    · intro thread different
      rw [locals, Function.update_of_ne different]
    · intro handles thread different
      by_contra waits
      exact different (one.unique thread label.1 session
        (List.mem_append_left _ (decoded.handling thread waits))
        (List.mem_append_left _ handles))
  rw [turn.self] at keptLater
  have kept : ∀ thread, (next.locals thread).givesUp session = false := by
    intro thread
    by_cases isSelf : thread = label.1
    · rw [isSelf, turn.self]
      exact keptLater
    · rw [turn.others thread isSelf]
      exact decoded.kept thread
  have handling : ∀ handlesLater : own.waiting session ≠ [] →
      session ∈ own.handling,
      ∀ thread, (next.locals thread).waiting session ≠ [] →
        session ∈ (next.locals thread).handling := by
    intro handlesLater thread
    by_cases isSelf : thread = label.1
    · rw [isSelf, turn.self]
      exact handlesLater
    · rw [turn.others thread isSelf]
      exact decoded.handling thread
  have pointed : session ∈ (server.locals label.1).handling →
      session < server.shared.state.constructed := by
    intro handles
    exact one.constructed.pointer label.1 session
      (tokens_subset_pointers (List.mem_append_left _ handles))
  cases readingStep_threadStep (decoded.kept label.1) advanced with
  | unread unread =>
      have waits := unread.waiting
      rw [unread.noRead, List.append_nil]
      refine ⟨kept, handling ?_, ?_, ?_⟩
      · intro waitsLater
        refine unread.handled waitsLater (decoded.handling label.1 ?_)
        rw [waits]
        exact List.append_ne_nil_of_right_ne_nil _ waitsLater
      · intro unborn
        have unbornBefore := not_lt.mp (mt unread.known.mpr (not_lt.mpr unborn))
        have silent : (server.locals label.1).waiting session = [] := by
          by_contra some
          exact absurd (pointed (decoded.handling label.1 some))
            (not_lt.mpr unbornBefore)
        obtain ⟨noBytes, noPayloads⟩ := decoded.unborn unbornBefore
        refine ⟨noBytes, ?_⟩
        rw [noPayloads, (List.append_eq_nil_iff.mp (waits.symm.trans silent)).1]
        rfl
      · intro born
        obtain ⟨produced, start, accounted, isFramed, lift⟩ :=
          decoded.born (unread.known.mp born)
        refine ⟨produced, start,
          accounted.unread turn (decoded.handling label.1) unread, ?_, lift⟩
        exact unread.core ▸ isFramed
  | read recvTurn read =>
      have born := pointed read.handling
      obtain ⟨produced, start, accounted, isFramed, lift⟩ := decoded.born born
      obtain ⟨-, later, liftLater, place⟩ :=
        TcpSession.soundPass_ioRecvPass isFramed recvTurn
      have isFramedLater := place.resolve_left (read.succeeds keptLater)
      rw [read.reads]
      refine ⟨kept, handling read.handled, ?_, fun _ => ?_⟩
      · intro unborn
        rw [read.constructed] at unborn
        exact absurd born (not_lt.mpr unborn)
      · refine ⟨_, later, accounted.read turn read, ?_, ?_⟩
        · exact read.core ▸ isFramedLater
        · intro more payloads standIn
          rw [List.append_assoc]
          have whole := liftLater more payloads standIn
          rw [List.append_assoc] at whole ⊢
          exact lift _ _ whole
  | born born =>
      obtain ⟨garbage, address, now, nAcceptSock, positive, isObject⟩ :=
        born.initialised keptLater
      obtain ⟨noBytes, noPayloads⟩ := decoded.unborn born.isNew.ge
      rw [born.noRead, born.handsNothing, noBytes, noPayloads]
      have silent : ∀ thread, (next.locals thread).waiting session = [] := by
        intro thread
        by_cases isSelf : thread = label.1
        · rw [isSelf, turn.self]
          exact born.silent
        · rw [turn.others thread isSelf]
          by_contra some
          have below := one.constructed.pointer thread session
            (tokens_subset_pointers
              (List.mem_append_left _ (decoded.handling thread some)))
          exact absurd below (not_lt.mpr born.isNew.ge)
      refine ⟨kept, ?_, fun _ => ⟨rfl, rfl⟩, fun _ => ?_⟩
      · exact fun thread waits => absurd (silent thread) waits
      · refine ⟨[], 0, ⟨?_, fun _ => rfl⟩, ?_, fun _ _ => id⟩
        · exact fun thread waits => absurd (silent thread) waits
        · have isFramed := framed_init framed positive garbage address now
          exact (congrArg TcpSession.toSessionCore isObject) ▸ isFramed

end Runs

/-- In every run of a framed server in which sessions are got rid of only by
threads that are the only ones to know them, whatever the peers send and however
the threads take turns: no thread uses a session another one has begun to get rid
of, and as long as the accept thread arms no session a worker has an event of, no
read on a session has failed and nobody has begun to get rid of it, what the
application has been handed on it stands in the bytes that have been read on it,
each payload behind its header, in order and once. -/
theorem handedOver_standIn
    (acceptSession : AcceptSession)
    (framed : acceptSession.bIsHaveHead = true)
    (memory : SessionId → TcpSession)
    (bIsHeartbeat : Bool)
    (session : SessionId)
    (labels : List (Thread × Input))
    (sole : Throughout (serverStep acceptSession) Sole
      (Server.initial memory bIsHeartbeat) labels)
    (posts : Throughout (serverStep acceptSession) PostsUnhandled
      (Server.initial memory bIsHeartbeat) labels)
    (keeps : Throughout (serverStep acceptSession)
      (KeepsReading acceptSession session)
      (Server.initial memory bIsHeartbeat) labels)
    (last : Server)
    (reached : run (serverStep acceptSession)
      (Server.initial memory bIsHeartbeat) labels = some last) :
    Throughout (serverStep acceptSession) UsesAlive
        (Server.initial memory bIsHeartbeat) labels ∧
      StandIn
        (Server.bytesRead acceptSession session
          (Server.initial memory bIsHeartbeat) labels) 0
        (Server.handedOver acceptSession session
          (Server.initial memory bIsHeartbeat) labels) := by
  refine ⟨usesAlive_of_sole sole, ?_⟩
  obtain ⟨-, decoded⟩ := collects_of_run
    (fun read handed server => (∃ socketOf, OneHandler socketOf server) ∧
      DecodedOn session read handed server)
    (by
      rintro read handed server label next ⟨⟨socketOf, one⟩, decoded⟩ ⟨posts, keeps⟩
        stepped
      exact ⟨one.serverStep posts stepped,
        decoded.serverStep framed one keeps stepped⟩)
    ⟨⟨_, oneHandler_initial memory bIsHeartbeat⟩,
      decodedOn_initial session memory bIsHeartbeat⟩
    (throughout_and posts keeps) reached
  rw [List.nil_append, List.nil_append] at decoded
  by_cases born : session < last.shared.state.constructed
  · obtain ⟨produced, start, accounted, -, lift⟩ := decoded.born born
    obtain ⟨rest, isProduced⟩ := accounted.begins
    have whole := lift [] [] trivial
    rw [List.append_nil, List.append_nil, isProduced] at whole
    exact whole.of_append
  · have nothing := (decoded.unborn (not_lt.mp born)).2
    change StandIn _ 0 (collect _ _ _ _)
    rw [nothing]
    trivial

/-! ## A letter on a session -/

/-- A worker reads the header of a letter and the letter, and hands it over. -/
def letterSteps : List (Thread × Input) :=
  ([Input.receive (TcpSession.headThenBody.getD 0 drainedTurn)] ++
    List.replicate 10 Input.perform ++
    [Input.receive (TcpSession.headThenBody.getD 1 drainedTurn)] ++
    List.replicate 7 Input.perform).map fun input => (.worker 0 0, input)

/-- A step with which the session is not given up. -/
theorem keepsReading_of_step
    {acceptSession : AcceptSession}
    {session : SessionId}
    {server next : Server}
    {label : Thread × Input}
    (stepped : serverStep acceptSession server label = some next)
    (kept : (next.locals label.1).givesUp session = false) :
    KeepsReading acceptSession session server label := by
  intro other steppedOther
  rw [stepped, Option.some.injEq] at steppedOther
  exact steppedOther ▸ kept

theorem handedOver_standIn_letter :
    Throughout (serverStep oneModle) UsesAlive (Server.initial blankMemory true)
        (acceptSteps 0x7f0000001010 ++ handleSteps 0 ++ letterSteps) ∧
      StandIn
        (Server.bytesRead oneModle 0 (Server.initial blankMemory true)
          (acceptSteps 0x7f0000001010 ++ handleSteps 0 ++ letterSteps)) 0
        (Server.handedOver oneModle 0 (Server.initial blankMemory true)
          (acceptSteps 0x7f0000001010 ++ handleSteps 0 ++ letterSteps)) := by
  refine handedOver_standIn oneModle rfl blankMemory true 0 _ ?_ ?_ ?_ _ rfl
  · simp only [acceptSteps, handleSteps, letterSteps, List.replicate,
      List.map_cons, List.map_nil, List.cons_append, List.nil_append]
    iterate 31
      apply throughout_cons rfl (sole_of_undestroyed rfl rfl)
    trivial
  · simp only [acceptSteps, handleSteps, letterSteps, List.replicate,
      List.map_cons, List.map_nil, List.cons_append, List.nil_append]
    apply throughout_cons rfl (postsUnhandled_of_input Input.noConfusion)
    iterate 3
      refine throughout_cons rfl (postsUnhandled_of_stage rfl
        fun _ _ => Stage.noConfusion) ?_
    iterate 2
      apply throughout_cons rfl (postsUnhandled_of_input Input.noConfusion)
    refine throughout_cons rfl (postsUnhandled_of_stage rfl
      fun _ _ => Stage.noConfusion) ?_
    apply throughout_cons rfl (postsUnhandled_of_input Input.noConfusion)
    refine throughout_cons rfl ?_ ?_
    · intro call _ _ _ isCall _ other
      cases other with
      | accept => exact List.not_mem_nil
      | _ => exact List.not_mem_nil
    iterate 4
      apply throughout_cons rfl (postsUnhandled_of_input Input.noConfusion)
    iterate 10
      refine throughout_cons rfl (postsUnhandled_of_stage rfl
        fun _ _ => Stage.noConfusion) ?_
    apply throughout_cons rfl (postsUnhandled_of_input Input.noConfusion)
    iterate 7
      refine throughout_cons rfl (postsUnhandled_of_stage rfl
        fun _ _ => Stage.noConfusion) ?_
    trivial
  · simp only [acceptSteps, handleSteps, letterSteps, List.replicate,
      List.map_cons, List.map_nil, List.cons_append, List.nil_append]
    iterate 31
      apply throughout_cons rfl (keepsReading_of_step rfl rfl)
    trivial

/-- The application is handed the letter. -/
example : Server.handedOver oneModle 0 (Server.initial blankMemory true)
    (acceptSteps 0x7f0000001010 ++ handleSteps 0 ++ letterSteps) = [[0x41]] := by
  rfl

end TransPortEngine
