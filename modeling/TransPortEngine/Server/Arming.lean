import TransPortEngine.Server.Lifetime

/-!
# Arming the descriptors of sessions

A worker arms the descriptor of a session at the very end of handling an event
for it. The accept thread arms it when it is added, and a second time right
after that. No other step of a thread arms anything.
-/

namespace TransPortEngine

open MachineInt

/-- Adding and modifying arm a descriptor. -/
def EngineEvent.Arms : EngineEvent → Prop
  | .epollCtl .add _ _ _ => True
  | .epollCtl .mod _ _ _ => True
  | _ => False

/-- At most the last event arms a descriptor. -/
def ArmsLast : List EngineEvent → Prop
  | [] => True
  | event :: events => (event.Arms → events = []) ∧ ArmsLast events

namespace Call

/-- The session whose event a call handles: from the first call on the session
until the last one has done its last thing. -/
def handled (call : Call) : List SessionId :=
  match call.stage, call.events with
  | .sent _ _, _ => [call.session]
  | .receiving _ .loop, _ => [call.session]
  | .receiving _ (.leave _), _ :: _ => [call.session]
  | _, _ => []

/-- A session that has not been added to an epoll instance yet. -/
def BeforeAdd (call : Call) : Prop :=
  match call.stage with
  | .initialised _ _ => True
  | .known _ => True
  | .added _ _ => call.events ≠ []
  | _ => False

/-- A call of the accept loop. -/
def Accepting (call : Call) : Prop :=
  match call.stage with
  | .initialised _ _ => True
  | .known _ => True
  | .added _ _ => True
  | .posted _ _ => True
  | _ => False

/-- A call that may arm the descriptor of its session. -/
def MayArm (call : Call) : Prop :=
  match call.stage with
  | .added _ _ => True
  | .posted _ _ => True
  | .receiving _ (.leave _) => True
  | _ => False

/-- A call that is about to get rid of its session and arms nothing. -/
structure Removing (call : Call) : Prop where
  stage : ∃ calls, call.stage = .teardown calls
  events : ∀ event ∈ call.events, ¬event.Arms

theorem BeforeAdd.accepting {call : Call} (before : call.BeforeAdd) :
    call.Accepting := by
  obtain ⟨session, modle, events, stage⟩ := call
  cases stage with
  | initialised | known | added => trivial
  | _ => exact False.elim before

/-- The rest of what a call has to do handles nothing else. -/
theorem handled_tail
    (session : SessionId)
    (modle : Nat)
    (event : EngineEvent)
    (events : List EngineEvent)
    (stage : Stage) :
    (Call.mk session modle events stage).handled.Sublist
      (Call.mk session modle (event :: events) stage).handled := by
  cases stage with
  | receiving fetched ending =>
      cases ending with
      | loop => exact .refl _
      | leave nRet =>
          cases events with
          | nil => exact List.nil_sublist _
          | cons second events => exact .refl _
  | _ => exact .refl _

end Call

/-- The sessions whose events a thread is handling. -/
def Local.handling (own : Local) : List SessionId :=
  (own.call.map Call.handled).getD []

/-- The sessions a thread has events of, being handled or fetched. -/
def Local.tokens (own : Local) : List SessionId :=
  own.handling ++ own.batch.map Prod.fst

/-- A call that arms only the descriptor its session was accepted with. -/
structure CallOk
    (socketOf : SessionId → Int)
    (bound : SessionId → Nat)
    (thread : Thread)
    (call : Call) : Prop where
  modle : (∃ calls, call.stage = .teardown calls) ∨
    call.modle = bound call.session
  acceptor : call.Accepting → thread = .accept
  last : ArmsLast call.events
  arming : ∀ event ∈ call.events, event.Arms → call.MayArm ∧
    ∃ op nSocket added done, event = .epollCtl op nSocket added done ∧
      (nSocket = socketOf call.session ∨ nSocket = -1) ∧
        added.events.epollOneShot = true

/-- An object that sends directly and has its socket or none. -/
def ObjectOk (nAcceptSock : Int) (object : TcpSession) : Prop :=
  object.sendBufs = [] ∧
    (object.nSocket = nAcceptSock ∨ object.nSocket = -1)

/-- What the invariant says of one thread. -/
structure LocalOk
    (socketOf : SessionId → Int)
    (shared : Shared)
    (thread : Thread)
    (own : Local) : Prop where
  valid : ∀ session < shared.state.constructed, socketOf session ≠ -1
  opened : -1 ∉ shared.state.kernel.openSockets
  object : ∀ session < shared.state.constructed,
    ObjectOk (socketOf session) (shared.state.memory session)
  registration : ∀ modle nSocket registration,
    shared.state.kernel.registrations modle nSocket = some registration →
      registration.session < shared.state.constructed ∧
        nSocket = socketOf registration.session
  pointer : ∀ session ∈ own.pointers, session < shared.state.constructed
  call : ∀ call, own.call = some call →
    CallOk socketOf shared.state.bound thread call
  nodup : own.tokens.Nodup

/-- A registration that a step has armed: that of a session which is not yet
added, which the accept thread arms again, or which has been handled. -/
structure Arming
    (socketOf : SessionId → Int)
    (shared : Shared)
    (own : Local)
    (after : Local)
    (modle : Nat)
    (nSocket : Int)
    (registration : Registration)
    (call : Call) : Prop where
  inCall : own.call = some call
  session : registration.session = call.session
  nSocket : nSocket = socketOf call.session
  modle : modle = shared.state.bound call.session
  oneShot : registration.event.events.epollOneShot = true
  added : ∀ next, after.call = some next → ¬next.BeforeAdd
  source : (∃ nAcceptSock nRet, call.stage = .posted nAcceptSock nRet) ∨
    call.BeforeAdd ∨ call.session ∈ own.tokens ∧ call.session ∉ after.tokens

/-- What a step that accepts nothing and fetches nothing may change. -/
structure Keeps
    (socketOf : SessionId → Int)
    (shared : Shared)
    (thread : Thread)
    (own : Local)
    (input : Input)
    (after : Shared × Local) : Prop where
  constructed : after.1.state.constructed = shared.state.constructed
  bound : after.1.state.bound = shared.state.bound
  opened : ∀ nSocket ∈ after.1.state.kernel.openSockets,
    nSocket ∈ shared.state.kernel.openSockets
  object : ∀ session < shared.state.constructed,
    ObjectOk (socketOf session) (after.1.state.memory session)
  call : ∀ next, after.2.call = some next →
    CallOk socketOf shared.state.bound thread next
  registration : ∀ modle nSocket registration,
    after.1.state.kernel.registrations modle nSocket = some registration →
      shared.state.kernel.registrations modle nSocket = some registration ∨
        input = .perform ∧ ∃ call, Arming socketOf shared own after.2 modle
          nSocket registration call
  tokens : after.2.tokens.Sublist own.tokens
  fresh : ∀ next, after.2.call = some next → next.BeforeAdd →
    ∃ call, own.call = some call ∧ call.session = next.session ∧ call.BeforeAdd

section Steps

variable {socketOf : SessionId → Int} {shared : Shared} {thread : Thread}
  {own : Local} {input : Input}

/-- Events that arm nothing. -/
theorem armsLast_of_none
    {events : List EngineEvent}
    (none : ∀ event ∈ events, ¬event.Arms) :
    ArmsLast events := by
  induction events with
  | nil => trivial
  | cons event events inductionHypothesis =>
      refine ⟨fun arms => absurd arms (none event (List.mem_cons_self ..)), ?_⟩
      apply inductionHypothesis
      intro later member
      exact none later (List.mem_cons_of_mem _ member)

theorem PlainEvents.arms_none
    {events : List EngineEvent}
    (plain : PlainEvents events) :
    ∀ event ∈ events, ¬event.Arms := by
  intro event member arms
  cases event with
  | epollCtl op nSocket added done => exact plain _ member
  | _ => exact arms

/-- A call that arms nothing, for a session of a known module. -/
theorem callOk_of_none
    {bound : SessionId → Nat}
    {call : Call}
    (modle : (∃ calls, call.stage = .teardown calls) ∨
      call.modle = bound call.session)
    (acceptor : call.Accepting → thread = .accept)
    (none : ∀ event ∈ call.events, ¬event.Arms) :
    CallOk socketOf bound thread call :=
  ⟨modle, acceptor, armsLast_of_none none,
    fun event member arms => absurd arms (none event member)⟩

theorem Call.Removing.callOk
    {bound : SessionId → Nat}
    {call : Call}
    (removing : call.Removing) :
    CallOk socketOf bound thread call := by
  obtain ⟨calls, stage⟩ := removing.stage
  refine callOk_of_none (Or.inl ⟨calls, stage⟩) ?_ removing.events
  intro accepts
  rw [Call.Accepting, stage] at accepts
  exact False.elim accepts

theorem Call.Removing.handled {call : Call} (removing : call.Removing) :
    call.handled = [] := by
  obtain ⟨calls, stage⟩ := removing.stage
  rw [Call.handled, stage]

theorem Call.Removing.not_beforeAdd {call : Call} (removing : call.Removing) :
    ¬call.BeforeAdd := by
  obtain ⟨calls, stage⟩ := removing.stage
  rw [Call.BeforeAdd, stage]
  exact id

/-- A step that leaves the kernel alone. -/
theorem keeps_of_kernel
    {after : Shared × Local}
    (constructed : after.1.state.constructed = shared.state.constructed)
    (bound : after.1.state.bound = shared.state.bound)
    (kernel : after.1.state.kernel = shared.state.kernel)
    (object : ∀ session < shared.state.constructed,
      ObjectOk (socketOf session) (after.1.state.memory session))
    (call : ∀ next, after.2.call = some next →
      CallOk socketOf shared.state.bound thread next)
    (tokens : after.2.tokens.Sublist own.tokens)
    (fresh : ∀ next, after.2.call = some next → next.BeforeAdd →
      ∃ call, own.call = some call ∧ call.session = next.session ∧
        call.BeforeAdd) :
    Keeps socketOf shared thread own input after := by
  refine ⟨constructed, bound, ?_, object, call, ?_, tokens, fresh⟩
  · rw [kernel]
    exact fun nSocket member => member
  · intro modle nSocket registration registered
    rw [kernel] at registered
    exact Or.inl registered

/-- The thread has no call, or only gets rid of a session. -/
theorem keeps_of_removing
    {after : Shared}
    {bFlag fetching : Bool}
    {sweep : Option (List Int)}
    {call : Option Call}
    (constructed : after.state.constructed = shared.state.constructed)
    (bound : after.state.bound = shared.state.bound)
    (kernel : after.state.kernel = shared.state.kernel)
    (object : ∀ session < shared.state.constructed,
      ObjectOk (socketOf session) (after.state.memory session))
    (removing : ∀ next, call = some next → next.Removing) :
    Keeps socketOf shared thread own input
      (after, ⟨bFlag, fetching, own.batch, sweep, call⟩) := by
  refine keeps_of_kernel constructed bound kernel object ?_ ?_ ?_
  · exact fun next isNext => (removing next isNext).callOk
  · cases call with
    | none => exact List.sublist_append_right _ _
    | some next =>
        simp only [Local.tokens, Local.handling, Option.map_some,
          Option.getD_some, (removing next rfl).handled, List.nil_append]
        exact List.sublist_append_right _ _
  · intro next isNext before
    exact absurd before (removing next isNext).not_beforeAdd

/-- A session object is replaced by a good one. -/
theorem objectOk_store
    {session : SessionId}
    {object : TcpSession}
    (objects : ∀ session < shared.state.constructed,
      ObjectOk (socketOf session) (shared.state.memory session))
    (good : ObjectOk (socketOf session) object)
    (known : SessionId)
    (bounded : known < shared.state.constructed) :
    ObjectOk (socketOf known)
      ((shared.store session object).state.memory known) := by
  by_cases same : known = session
  · subst same
    simp only [Shared.store, ServerState.store, Function.update_self]
    exact good
  · simp only [Shared.store, ServerState.store, Function.update_of_ne same]
    exact objects known bounded

/-- A call goes on with the same session, which it handles if it has done so
before. -/
theorem tokens_sublist
    {call next : Call}
    (inCall : own.call = some call)
    (handled : next.handled.Sublist call.handled) :
    ({ own with call := some next } : Local).tokens.Sublist own.tokens := by
  simp only [Local.tokens, Local.handling, inCall, Option.map_some,
    Option.getD_some]
  exact handled.append_right _

/-- `epoll_ctl` succeeds for open sockets only. -/
theorem LocalOk.ne_of_allows
    {modle : Nat}
    {op : EpollOp}
    {nSocket : Int}
    {event : EpollEvent}
    (ok : LocalOk socketOf shared thread own)
    (allowed : shared.state.kernel.allows modle
      (.epollCtl op nSocket event true) = true) :
    nSocket ≠ -1 := by
  have registered : (shared.state.kernel.registrations modle nSocket).isSome →
      nSocket ≠ -1 := by
    intro known
    obtain ⟨registration, isRegistered⟩ := Option.isSome_iff_exists.mp known
    have valid := ok.registration modle nSocket registration isRegistered
    rw [valid.2]
    exact ok.valid _ valid.1
  cases op with
  | add =>
      simp only [Kernel.allows, Bool.and_eq_true, decide_eq_true_eq] at allowed
      rintro rfl
      exact ok.opened allowed.1
  | mod => exact registered allowed
  | del => exact registered allowed

/-- A call that arms its session with its last event has handled it, or is one
of the accept thread. -/
theorem LocalOk.source
    {session : SessionId}
    {modle : Nat}
    {event : EngineEvent}
    {stage : Stage}
    (ok : LocalOk socketOf shared thread own)
    (inCall : own.call = some ⟨session, modle, [event], stage⟩)
    (mayArm : (Call.mk session modle [event] stage).MayArm) :
    (∃ nAcceptSock nRet, stage = .posted nAcceptSock nRet) ∨
      (Call.mk session modle [event] stage).BeforeAdd ∨
        session ∈ own.tokens ∧
          session ∉ ({ own with
            call := some ⟨session, modle, [], stage⟩ } : Local).tokens := by
  have nodup := ok.nodup
  simp only [Local.tokens, Local.handling, inCall, Option.map_some,
    Option.getD_some] at nodup ⊢
  cases stage with
  | posted nAcceptSock nRet => exact Or.inl ⟨nAcceptSock, nRet, rfl⟩
  | added nAcceptSock nRet => exact Or.inr (Or.inl (List.cons_ne_nil _ _))
  | receiving fetched ending =>
      cases ending with
      | loop => exact False.elim mayArm
      | leave nRet =>
          refine Or.inr (Or.inr ⟨List.mem_cons_self .., ?_⟩)
          exact (List.nodup_cons.mp nodup).1
  | _ => exact False.elim mayArm

/-- What `epoll_ctl` arms is the session of the call. -/
theorem LocalOk.arming
    {call : Call}
    {op : EpollOp}
    {nSocket : Int}
    {event : EpollEvent}
    {events : List EngineEvent}
    (ok : LocalOk socketOf shared thread own)
    (inCall : own.call = some call)
    (first : call.events = .epollCtl op nSocket event true :: events)
    (allowed : shared.state.kernel.allows call.modle
      (.epollCtl op nSocket event true) = true)
    (arms : (EngineEvent.epollCtl op nSocket event true).Arms) :
    Arming socketOf shared own
      { own with call := some { call with events := events } }
      call.modle nSocket ⟨call.session, event, true⟩ call := by
  have callOk := ok.call call inCall
  obtain ⟨session, modle, _, stage⟩ := call
  simp only at first allowed ⊢
  subst first
  have last : events = [] := callOk.last.1 arms
  subst last
  obtain ⟨mayArm, op', nSocket', event', done', same, socket, oneShot⟩ :=
    callOk.arming _ (List.mem_cons_self ..) arms
  obtain ⟨rfl, rfl, rfl, rfl⟩ := EngineEvent.epollCtl.inj same
  refine ⟨inCall, rfl, ?_, ?_, oneShot, ?_, ok.source inCall mayArm⟩
  · exact socket.resolve_right (ok.ne_of_allows allowed)
  · rcases callOk.modle with ⟨calls, removing⟩ | bound
    · simp only at removing
      subst removing
      exact False.elim mayArm
    · exact bound
  · intro next isNext before
    rw [← Option.some.inj isNext] at before
    cases stage with
    | added nAcceptSock nRet => exact before rfl
    | posted | receiving => exact before
    | _ => exact mayArm

/-- Doing the next thing of a call. -/
theorem keeps_perform
    {call : Call}
    {event : EngineEvent}
    {events : List EngineEvent}
    {after : Shared}
    (ok : LocalOk socketOf shared thread own)
    (inCall : own.call = some call)
    (first : call.events = event :: events)
    (performed : shared.perform thread call.session call.modle event =
      some after) :
    Keeps socketOf shared thread own .perform
      (after, { own with call := some { call with events := events } }) := by
  have callOk := ok.call call inCall
  have nextOk : ∀ next, some { call with events := events } = some next →
      CallOk socketOf shared.state.bound thread next := by
    intro next isNext
    rw [← Option.some.inj isNext]
    have last := callOk.last
    rw [first] at last
    refine ⟨callOk.modle, callOk.acceptor, last.2, ?_⟩
    intro later member arms
    have known : later ∈ call.events := first ▸ List.mem_cons_of_mem _ member
    have armed := callOk.arming later known arms
    refine ⟨?_, armed.2⟩
    exact armed.1
  have tokens : ({ own with call := some { call with
      events := events } } : Local).tokens.Sublist own.tokens := by
    apply tokens_sublist inCall
    obtain ⟨session, modle, _, stage⟩ := call
    simp only at first
    subst first
    exact Call.handled_tail session modle event events stage
  have fresh : ∀ next, some { call with events := events } = some next →
      next.BeforeAdd → ∃ call, own.call = some call ∧
        call.session = next.session ∧ call.BeforeAdd := by
    intro next isNext before
    rw [← Option.some.inj isNext] at before ⊢
    refine ⟨call, inCall, rfl, ?_⟩
    obtain ⟨session, modle, _, stage⟩ := call
    cases stage with
    | initialised | known => trivial
    | added nAcceptSock nRet =>
        rw [Call.BeforeAdd]
        simp only at first ⊢
        exact first ▸ List.cons_ne_nil _ _
    | _ => exact False.elim before
  cases performStep_of_perform performed with
  | lock | unlock =>
      exact keeps_of_kernel rfl rfl rfl ok.object nextOk tokens fresh
  | kernel allowed =>
      refine ⟨rfl, rfl, fun nSocket => Kernel.mem_openSockets_of_perform,
        ok.object, nextOk, ?_, tokens, fresh⟩
      intro modle nSocket registration registered
      rcases Kernel.registration_perform registered with old |
        ⟨op, added, rfl, notDel, rfl, rfl⟩
      · exact Or.inl old
      · have arms : (EngineEvent.epollCtl op nSocket added true).Arms := by
          cases op with
          | add | mod => trivial
          | del => exact notDel rfl
        exact Or.inr ⟨rfl, call, ok.arming inCall first allowed arms⟩

/-- Whatever a session arms is its own descriptor, for one shot. -/
theorem arming_of_ownEvent
    {nAcceptSock : Int}
    {object : TcpSession}
    {event : EngineEvent}
    (good : ObjectOk nAcceptSock object)
    (ownEvent : object.OwnEvent event)
    (arms : event.Arms) :
    ∃ op nSocket added done, event = .epollCtl op nSocket added done ∧
      (nSocket = nAcceptSock ∨ nSocket = -1) ∧
        added.events.epollOneShot = true := by
  have oneShot : object.eventAdd.events.epollOneShot = true := by
    unfold TcpSession.eventAdd
    split
    · rfl
    · rfl
  rcases ownEvent with plain | ⟨op, done, -, armed⟩
  · exact absurd arms (PlainEvents.arms_none
      (.cons plain plainEvents_nil) event (List.mem_cons_self ..))
  · exact ⟨op, object.nSocket, object.eventAdd, done, armed, good.2, oneShot⟩

/-- A session that is not being removed belongs to the module of its object. -/
theorem CallOk.modle_eq
    {bound : SessionId → Nat}
    {call : Call}
    {stage : Stage}
    (ok : CallOk socketOf bound thread call)
    (isStage : call.stage = stage)
    (stays : ∀ calls, stage ≠ .teardown calls) :
    call.modle = bound call.session := by
  apply ok.modle.resolve_left
  rintro ⟨calls, removing⟩
  exact stays calls (isStage.symm.trans removing)

/-- The branches for a negative result. -/
theorem keeps_dropFailed
    {session : SessionId}
    {modle : Nat}
    {nSock : Int}
    {after : Shared × Local}
    (ok : LocalOk socketOf shared thread own)
    (dropped : dropFailed shared own modle session nSock = some after) :
    Keeps socketOf shared thread own input after := by
  obtain ⟨-, bFlag, calls, rfl⟩ := dropFailed_eq_some dropped
  refine keeps_of_removing rfl rfl rfl ok.object ?_
  intro next isNext
  obtain ⟨calls, -, rfl⟩ := Option.map_eq_some_iff.mp isNext
  exact ⟨⟨calls, rfl⟩, plainEvents_nil.arms_none⟩

theorem closeSocket_arms_none (object : TcpSession) :
    ∀ event ∈ object.closeSocket, ¬event.Arms := by
  intro event member
  unfold TcpSession.closeSocket at member
  split at member
  · contradiction
  · rw [List.mem_singleton.mp member]
    exact id

theorem notify_arms_none (object : TcpSession) (nMsgType : MsgType) :
    ∀ event ∈ object.notify nMsgType, ¬event.Arms := by
  intro event member
  unfold TcpSession.notify at member
  split at member
  · rw [List.mem_singleton.mp member]
    exact id
  · contradiction

theorem fini_arms_none (object : TcpSession) :
    ∀ event ∈ object.fini.2.1, ¬event.Arms := by
  intro event member
  rcases List.mem_append.mp member with before | locks
  · rcases List.mem_append.mp before with told | closed
    · exact notify_arms_none object _ event told
    · exact closeSocket_arms_none object event closed
  · exact plainEvents_nil.recvBufLocked.arms_none event locks

theorem delete_arms_none (object : TcpSession) :
    ∀ event ∈ object.delete.2, ¬event.Arms := by
  intro event member
  rcases List.mem_append.mp member with closed | rest
  · exact closeSocket_arms_none object event closed
  · have plain : PlainEvents [.lock .recvBufLock, .unlock .recvBufLock,
        .delete object.address] :=
      .cons trivial (.cons trivial (.cons trivial plainEvents_nil))
    exact plain.arms_none event rest

/-- The next call to get rid of a session. -/
theorem keeps_nextTeardown
    {call : Call}
    {done : Bool}
    {first : Teardown}
    {calls : List Teardown}
    {after : Shared × Local}
    (ok : LocalOk socketOf shared thread own)
    (inCall : own.call = some call)
    (quiet : call.events = [])
    (advanced : nextTeardown shared thread own call done calls first =
      some after) :
    Keeps socketOf shared thread own input after := by
  have good := ok.object call.session
    (ok.pointer _ (session_mem_pointers inCall))
  have removing : ∀ (events : List EngineEvent) (next : Call),
      (∀ event ∈ events, ¬event.Arms) →
        some { call with events := events, stage := .teardown calls } =
            some next →
          next.Removing := by
    intro events next none isNext
    rw [← Option.some.inj isNext]
    exact ⟨⟨calls, rfl⟩, none⟩
  cases first with
  | delSession nSocket =>
      obtain ⟨-, rfl⟩ := nextTeardown_delSession advanced
      refine keeps_of_removing rfl rfl rfl ok.object ?_
      intro next isNext
      rw [← Option.some.inj isNext]
      exact ⟨⟨calls, rfl⟩, quiet ▸ plainEvents_nil.arms_none⟩
  | delEvent =>
      simp only [nextTeardown, Option.some.injEq] at advanced
      rw [← advanced]
      refine keeps_of_removing rfl rfl rfl ok.object
        fun next => removing _ next ?_
      intro event member
      rw [List.mem_singleton.mp member]
      exact id
  | fini =>
      simp only [nextTeardown, Option.some.injEq] at advanced
      rw [← advanced]
      exact keeps_of_removing rfl rfl rfl
        (objectOk_store ok.object ⟨good.1, Or.inr rfl⟩)
        fun next => removing _ next (fini_arms_none _)
  | delete =>
      simp only [nextTeardown, Option.some.injEq] at advanced
      rw [← advanced]
      exact keeps_of_removing rfl rfl rfl
        (objectOk_store ok.object ⟨good.1, Or.inr rfl⟩)
        fun next => removing _ next (delete_arms_none _)

/-- A call that goes on to arm its session. -/
theorem callOk_of_ownEvents
    {bound : SessionId → Nat}
    {nAcceptSock : Int}
    {object : TcpSession}
    {next : Call}
    (modle : next.modle = bound next.session)
    (acceptor : next.Accepting → thread = .accept)
    (mayArm : next.MayArm)
    (good : ObjectOk nAcceptSock object)
    (isSocket : nAcceptSock = socketOf next.session)
    (last : ArmsLast next.events)
    (own : ∀ event ∈ next.events, object.OwnEvent event) :
    CallOk socketOf bound thread next := by
  subst isSocket
  refine ⟨Or.inr modle, acceptor, last, ?_⟩
  intro event member arms
  exact ⟨mayArm, arming_of_ownEvent good (own event member) arms⟩

/-- Going on behind a call. -/
theorem keeps_afterCall
    {call : Call}
    {done : Bool}
    {after : Shared × Local}
    (ok : LocalOk socketOf shared thread own)
    (inCall : own.call = some call)
    (quiet : call.events = [])
    (advanced : afterCall shared thread own call done = some after) :
    Keeps socketOf shared thread own input after := by
  have callOk := ok.call call inCall
  have good := ok.object call.session
    (ok.pointer _ (session_mem_pointers inCall))
  have teardown : ∀ calls, Keeps socketOf shared thread own input (shared,
      { own with call := some { call with stage := .teardown calls } }) := by
    intro calls
    apply keeps_of_removing rfl rfl rfl ok.object
    intro next isNext
    rw [← Option.some.inj isNext]
    exact ⟨⟨calls, rfl⟩, quiet ▸ plainEvents_nil.arms_none⟩
  have returned : Keeps socketOf shared thread own input
      (shared, { own with call := none }) := by
    apply keeps_of_removing rfl rfl rfl ok.object
    intro next isNext
    contradiction
  have goesOn : ∀ (state : Shared) (next : Call), state.state.constructed =
      shared.state.constructed → state.state.bound = shared.state.bound →
      state.state.kernel = shared.state.kernel →
      state.state.memory = shared.state.memory →
      CallOk socketOf shared.state.bound thread next →
      next.handled.Sublist call.handled →
      (next.BeforeAdd → call.session = next.session ∧ call.BeforeAdd) →
        Keeps socketOf shared thread own input
          (state, { own with call := some next }) := by
    intro state next constructed bound kernel memory nextOk handled before
    refine keeps_of_kernel constructed bound kernel ?_ ?_
      (tokens_sublist inCall handled) ?_
    · rw [memory]
      exact ok.object
    · intro following isNext
      exact Option.some.inj isNext ▸ nextOk
    · intro following isNext adds
      rw [← Option.some.inj isNext] at adds ⊢
      exact ⟨call, inCall, before adds⟩
  have before : ∀ {stage}, call.stage = stage →
      Call.BeforeAdd { call with stage := stage } → call.BeforeAdd := by
    intro stage isStage adds
    rw [Call.BeforeAdd, isStage]
    exact adds
  cases afterCall_cases advanced with
  | giveUp => exact teardown _
  | addSession stage =>
      have notYet := before stage trivial
      refine goesOn _ _ rfl rfl rfl rfl ?_ (List.nil_sublist _)
        fun _ => ⟨rfl, notYet⟩
      exact callOk_of_none
        (Or.inr (callOk.modle_eq stage fun calls => Stage.noConfusion))
        (fun _ => callOk.acceptor notYet.accepting)
        (quiet ▸ plainEvents_nil.arms_none)
  | addEvent stage =>
      have notYet := before stage trivial
      refine goesOn _ _ rfl rfl rfl rfl ?_ (List.nil_sublist _)
        fun _ => ⟨rfl, notYet⟩
      exact callOk_of_ownEvents
        (callOk.modle_eq stage fun calls => Stage.noConfusion)
        (fun _ => callOk.acceptor notYet.accepting) trivial good rfl
        ⟨fun _ => rfl, trivial⟩ (fun event => TcpSession.ownEvent_addEvent)
  | postRecv stage =>
      have accepts : call.Accepting := by
        rw [Call.Accepting, stage]
        trivial
      refine goesOn _ _ rfl rfl rfl rfl ?_ (List.nil_sublist _)
        fun impossible => False.elim impossible
      exact callOk_of_ownEvents
        (callOk.modle_eq stage fun calls => Stage.noConfusion)
        (fun _ => callOk.acceptor accepts) trivial good rfl
        ⟨fun _ => rfl, trivial⟩ (fun event => TcpSession.ownEvent_modEvent)
  | receive stage =>
      refine goesOn _ _ rfl rfl rfl rfl ?_ ?_
        fun impossible => False.elim impossible
      · exact callOk_of_none
          (Or.inr (callOk.modle_eq stage fun calls => Stage.noConfusion))
          (fun impossible => False.elim impossible)
          (quiet ▸ plainEvents_nil.arms_none)
      · -- the event is still being handled
        rw [Call.handled, Call.handled, stage]
  | drop _ _ dropped => exact keeps_dropFailed ok dropped
  | teardown _ advanced => exact keeps_nextTeardown ok inCall quiet advanced
  | returned => exact returned

/-- A call whose session has been stored goes on. -/
theorem keeps_store
    {call next : Call}
    {object : TcpSession}
    (ok : LocalOk socketOf shared thread own)
    (inCall : own.call = some call)
    (good : ObjectOk (socketOf call.session) object)
    (nextOk : CallOk socketOf shared.state.bound thread next)
    (handled : next.handled.Sublist call.handled)
    (notBefore : ¬next.BeforeAdd) :
    Keeps socketOf shared thread own input
      (shared.store call.session object, { own with call := some next }) := by
  refine keeps_of_kernel rfl rfl rfl (objectOk_store ok.object good) ?_
    (tokens_sublist inCall handled) ?_
  · intro following isNext
    exact Option.some.inj isNext ▸ nextOk
  · intro following isNext adds
    exact absurd (Option.some.inj isNext ▸ adds) notBefore

/-- An object with the identity of a good one is good. -/
theorem ObjectOk.of_same
    {nAcceptSock : Int}
    {before after : TcpSession}
    (good : ObjectOk nAcceptSock before)
    (same : TcpSession.SameIdentity before after) :
    ObjectOk nAcceptSock after := by
  refine ⟨same.sendBufs.trans good.1, ?_⟩
  rw [same.nSocket]
  exact good.2

/-- A pass of the receive loop arms the descriptor when it leaves the loop with
the socket drained, and only then. -/
theorem keeps_receive
    {call : Call}
    {event : EpollEvent}
    (ok : LocalOk socketOf shared thread own)
    (inCall : own.call = some call)
    (stage : call.stage = .receiving event .loop)
    (turn : RecvTurn) :
    let pass := (shared.state.memory call.session).ioRecvPass turn
    Keeps socketOf shared thread own input
      (shared.store call.session pass.session,
        { own with call := some { call with
          events := pass.events, stage := .receiving event pass.ending } }) := by
  intro pass
  have good := ok.object call.session
    (ok.pointer _ (session_mem_pointers inCall))
  have modle := (ok.call call inCall).modle_eq stage
    (fun calls => Stage.noConfusion)
  have effects := (shared.state.memory call.session).ioRecvPass_effects turn
  have handled : call.handled = [call.session] := by
    rw [Call.handled, stage]
  refine keeps_store ok inCall (good.of_same effects.1) ?_ ?_ id
  · rcases (shared.state.memory call.session).ioRecvPass_cases turn with
      drained | quiet
    · refine callOk_of_ownEvents modle False.elim ?_ good rfl ?_ effects.2
      · simp only [pass, drained]
        trivial
      · simp only [pass, drained]
        exact ⟨False.elim, fun _ => rfl, trivial⟩
    · exact callOk_of_none (Or.inr modle) False.elim quiet.plain.arms_none
  · rw [handled]
    cases ending : pass.ending with
    | loop => exact .refl _
    | leave nRet =>
        cases events : pass.events with
        | nil =>
            simp only [Call.handled]
            exact List.nil_sublist _
        | cons first later =>
            simp only [Call.handled]
            exact .refl _

/-- Sending by session id arms nothing. -/
theorem keeps_send
    {call : Call}
    {nSendDataLen : Nat}
    {szSendData : List UInt8}
    (ok : LocalOk socketOf shared thread own)
    (inCall : own.call = some call)
    (stage : call.stage = .found nSendDataLen szSendData)
    (sent : SendRun)
    (unchanged : sent.session = shared.state.memory call.session)
    (plain : PlainEvents sent.events) :
    Keeps socketOf shared thread own input
      (shared.store call.session sent.session,
        { own with call := some { call with
          events := sent.events, stage := .sending sent.result } }) := by
  have good := ok.object call.session
    (ok.pointer _ (session_mem_pointers inCall))
  have modle := (ok.call call inCall).modle_eq stage
    (fun calls => Stage.noConfusion)
  exact keeps_store ok inCall (unchanged ▸ good)
    (callOk_of_none (Or.inr modle) False.elim plain.arms_none)
    (List.nil_sublist _) id

/-- A thread in the middle of a call. -/
theorem keeps_callStep
    {call : Call}
    {after : Shared × Local}
    (ok : LocalOk socketOf shared thread own)
    (inCall : own.call = some call)
    (advanced : callStep shared thread own call input = some after) :
    Keeps socketOf shared thread own input after := by
  cases callStep_cases advanced with
  | perform first performed => exact keeps_perform ok inCall first performed
  | goOn quiet advanced => exact keeps_afterCall ok inCall quiet advanced
  | receive _ stage => exact keeps_receive ok inCall stage _
  | send _ stage _ isSent =>
      subst isSent
      exact keeps_send ok inCall stage _ (TcpSession.ioSend_writes _ _ _ _).1
        (TcpSession.plainEvents_ioSend _ _ _ _)

/-- The first fetched event is handled. A session that sends directly has
nothing to send when its socket is ready for that. -/
theorem keeps_handleFetched
    {session : SessionId}
    {event : EpollEvent}
    {batch : List (SessionId × EpollEvent)}
    {write : WriteResult}
    {sendCtl : Bool}
    {after : Shared × Local}
    (ok : LocalOk socketOf shared thread own)
    (fetched : own.batch = (session, event) :: batch)
    (idle : own.call = none)
    (handled : handleFetched shared own session event batch write sendCtl =
      after) :
    Keeps socketOf shared thread own input after := by
  have good : ObjectOk (socketOf session) (shared.state.memory session) := by
    apply ok.object
    apply ok.pointer
    apply pointers_of_idle idle
    rw [fetched, List.map_cons]
    exact List.mem_cons_self ..
  have had : own.tokens = session :: batch.map Prod.fst := by
    simp [Local.tokens, Local.handling, idle, fetched]
  have skips : ∀ bFlag fetching, Keeps socketOf shared thread own input
      (shared, ⟨bFlag, fetching, batch, own.sweep, none⟩) := by
    intro bFlag fetching
    refine keeps_of_kernel rfl rfl rfl ok.object ?_ ?_ ?_
    · exact fun next impossible => by contradiction
    · rw [had]
      exact List.sublist_cons_self _ _
    · exact fun next impossible => by contradiction
  have handles : ∀ (bFlag fetching : Bool) (object : TcpSession) (next : Call),
      ObjectOk (socketOf session) object →
      CallOk socketOf shared.state.bound thread next →
      next.handled = [session] → ¬next.BeforeAdd →
        Keeps socketOf shared thread own input
          (shared.store session object,
            ⟨bFlag, fetching, batch, own.sweep, some next⟩) := by
    intro bFlag fetching object next goodNext nextOk handled notBefore
    refine keeps_of_kernel rfl rfl rfl (objectOk_store ok.object goodNext) ?_ ?_
      ?_
    · intro following isNext
      exact Option.some.inj isNext ▸ nextOk
    · rw [had]
      simp only [Local.tokens, Local.handling, Option.map_some,
        Option.getD_some, handled]
      exact .refl _
    · intro following isNext adds
      exact absurd (Option.some.inj isNext ▸ adds) notBefore
  cases handleFetched_cases handled with
  | ignore | pointless =>
      rw [idle]
      exact skips _ _
  | send =>
      rw [TcpSession.ioSendQueued_of_empty good.1]
      refine handles _ _ _ _ good ?_ rfl id
      apply callOk_of_none (Or.inr rfl) False.elim
      have plain : PlainEvents [.lock .sendBufLock, .unlock .sendBufLock] :=
        .cons trivial (.cons trivial plainEvents_nil)
      exact plain.arms_none
  | receive =>
      have same : shared =
          shared.store session (shared.state.memory session) := by
        simp only [Shared.store, ServerState.store, Function.update_eq_self]
      have received := handles own.bFlag false (shared.state.memory session)
        ⟨session, shared.state.bound session, [], .receiving event .loop⟩ good
        (callOk_of_none (Or.inr rfl) False.elim plainEvents_nil.arms_none) rfl
        id
      rw [← same] at received
      exact received

/-- An application thread looks for a session. -/
theorem keeps_find
    {nSendDataLen : Nat}
    {szSendData : List UInt8}
    (ok : LocalOk socketOf shared thread own)
    (found : Option SessionId) :
    Keeps socketOf shared thread own input
      (shared, { own with call := found.map fun session =>
        ⟨session, shared.state.bound session, [],
          .found nSendDataLen szSendData⟩ }) := by
  refine keeps_of_kernel rfl rfl rfl ok.object ?_ ?_ ?_
  · intro next isNext
    obtain ⟨session, -, rfl⟩ := Option.map_eq_some_iff.mp isNext
    exact callOk_of_none (Or.inr rfl) False.elim plainEvents_nil.arms_none
  · cases found with
    | none => exact List.sublist_append_right _ _
    | some session => exact List.sublist_append_right _ _
  · intro next isNext adds
    obtain ⟨session, -, rfl⟩ := Option.map_eq_some_iff.mp isNext
    exact False.elim adds

/-- A thread between two calls that accepts nothing and fetches nothing. -/
theorem keeps_idleStep
    {acceptSession : AcceptSession}
    {after : Shared × Local}
    (ok : LocalOk socketOf shared thread own)
    (idle : own.call = none)
    (advanced : idleStep acceptSession shared thread own input = some after)
    (notAccept : ∀ nAcceptSock garbage address now,
      input ≠ .accept nAcceptSock garbage address now)
    (notFetch : ∀ nSocket mask, input ≠ .fetch nSocket mask) :
    Keeps socketOf shared thread own input after := by
  have sweeps : ∀ (locks : List (Lock × Thread)) (mgr : TcpSessionMgr)
      (sweep : Option (List Int)),
      Keeps socketOf shared thread own input
        ({ shared.setMgr mgr with locks := locks },
          { own with sweep := sweep }) := by
    intro locks mgr sweep
    refine keeps_of_removing rfl rfl rfl ok.object ?_
    intro next isNext
    rw [idle] at isNext
    contradiction
  have removes : ∀ (mgr : TcpSessionMgr) (sweep : Option (List Int))
      (session modle : Nat) (events : List EngineEvent) (calls : List Teardown),
      PlainEvents events →
        Keeps socketOf shared thread own input
          (shared.setMgr mgr, { own with
            sweep := sweep
            call := some ⟨session, modle, events, .teardown calls⟩ }) := by
    intro mgr sweep session modle events calls plain
    refine keeps_of_removing rfl rfl rfl ok.object ?_
    intro next isNext
    rw [← Option.some.inj isNext]
    exact ⟨⟨calls, rfl⟩, plain.arms_none⟩
  cases idleStep_cases advanced with
  | accept => exact absurd rfl (notAccept _ _ _ _)
  | fetch => exact absurd rfl (notFetch _ _)
  | handle _ fetched handled =>
      exact keeps_handleFetched ok fetched idle handled
  | find => exact keeps_find ok _
  | enterHeartbeat _ _ entered =>
      obtain ⟨-, rfl⟩ := enterSweep_eq_some entered
      exact sweeps _ shared.state.mgr _
  | enterStop _ entered =>
      obtain ⟨-, rfl⟩ := enterSweep_eq_some entered
      exact sweeps _ _ _
  | leaveHeartbeat | passOver => exact sweeps _ shared.state.mgr _
  | leaveStop => exact sweeps _ _ _
  | evict =>
      exact removes _ _ _ _ _ _ (.cons trivial (.cons trivial plainEvents_nil))
  | finish => exact removes shared.state.mgr _ _ _ _ _ plainEvents_nil

/-- What accepting a connection changes. -/
structure AcceptEffect
    (shared : Shared)
    (own : Local)
    (nAcceptSock : Int)
    (after : Shared × Local) : Prop where
  constructed : after.1.state.constructed = shared.state.constructed + 1
  kernel : after.1.state.kernel = shared.state.kernel.accept nAcceptSock
  memory : ∀ session, session ≠ shared.state.constructed →
    after.1.state.memory session = shared.state.memory session
  bound : ∀ session, session ≠ shared.state.constructed →
    after.1.state.bound session = shared.state.bound session
  object : ObjectOk nAcceptSock
    (after.1.state.memory shared.state.constructed)
  batch : after.2.batch = own.batch
  call : ∃ next, after.2.call = some next ∧
    next.session = shared.state.constructed ∧ next.handled = [] ∧
      ((∃ calls, next.stage = .teardown calls) ∨
        next.modle = after.1.state.bound next.session) ∧
      ∀ event ∈ next.events, ¬event.Arms

/-- A new object has the socket it is initialised with, or none. -/
theorem objectOk_init
    (garbage : SessionGarbage)
    (address : Nat)
    (now : Int)
    (arguments : SessionArguments) :
    ObjectOk arguments.nSocket
      ((TcpSession.construct garbage address now).init arguments).1 := by
  unfold TcpSession.init
  split
  · exact ⟨rfl, Or.inr rfl⟩
  · exact ⟨rfl, Or.inl rfl⟩

theorem init_arms_none (object : TcpSession) (arguments : SessionArguments) :
    ∀ event ∈ (object.init arguments).2.1, ¬event.Arms := by
  intro event member
  unfold TcpSession.init at member
  split at member
  · contradiction
  · exact notify_arms_none _ _ event member

theorem acceptEffect_acceptConnection
    (acceptSession : AcceptSession)
    (nAcceptSock : Int)
    (garbage : SessionGarbage)
    (address : Nat)
    (now : Int) :
    AcceptEffect shared own nAcceptSock
      (acceptConnection acceptSession shared own nAcceptSock
        (TcpSession.construct garbage address now)) := by
  have found : PlainEvents (netEventModleLocked []) :=
    .cons trivial (.cons trivial plainEvents_nil)
  have elsewhere : ∀ (object : TcpSession) (session : SessionId),
      session ≠ shared.state.constructed →
        Function.update shared.state.memory shared.state.constructed object
          session = shared.state.memory session := by
    intro object session different
    exact Function.update_of_ne different object shared.state.memory
  unfold acceptConnection
  simp only
  split
  · refine ⟨rfl, rfl, elsewhere _, fun _ _ => rfl, ?_, rfl, _, rfl, rfl, rfl,
      Or.inl ⟨_, rfl⟩, found.arms_none⟩
    simp only [ServerState.construct, ServerState.store, Function.update_self]
    exact ⟨rfl, Or.inr rfl⟩
  · rename_i modle isModle
    refine ⟨rfl, rfl, ?_, ?_, ?_, rfl, _, rfl, rfl, rfl, Or.inr ?_, ?_⟩
    · intro session different
      simp only [ServerState.store, ServerState.bind, ServerState.construct,
        Function.update_of_ne different]
    · intro session different
      simp only [ServerState.store, ServerState.bind, ServerState.construct,
        Function.update_of_ne different]
    · simp only [ServerState.store, Function.update_self]
      exact objectOk_init garbage address now
        (acceptSession.arguments nAcceptSock)
    · simp only [ServerState.store, ServerState.bind, Function.update_self]
    · intro event member
      rcases List.mem_append.mp member with locks | told
      · exact found.arms_none event locks
      · exact init_arms_none _ _ event told

end Steps

end TransPortEngine
