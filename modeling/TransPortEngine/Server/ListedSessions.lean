import TransPortEngine.Server.Arming
import TransPortEngine.Server.DestroyedModules
import TransPortEngine.Server.Introductions

/-!
# Sessions in the map and their registrations

A session that is in the map is registered with the epoll instance of the first
module, or the accept thread has it in its hands: it has still to add the
descriptor, or gives the session up. A step of any thread leaves it so, as long as
only the first module gets sessions, a session is given up together with its own
entry, and no thread works on a descriptor that belongs to another session by now.
-/

namespace TransPortEngine

open MachineInt Transition

/-! ## The conditions -/

/-- The accept loop has put the session into the map and has not added its
descriptor to the epoll instance yet, or it has failed to, or it has taken the
descriptor out again and is about to remove the entry. -/
def Call.Unregistered (call : Call) : Prop :=
  match call.stage with
  | .known _ => True
  | .added _ nRet => nRet < 0 ∨ call.events ≠ []
  | .teardown (.delSession _ :: _) => True
  | _ => False

/-- A thread has an unregistered session in its hands. -/
def Local.HasUnregistered (own : Local) (session : SessionId) : Prop :=
  ∃ call, own.call = some call ∧ call.session = session ∧ call.Unregistered

/-- The descriptor an `epoll_ctl` or a `close` is about. -/
def EngineEvent.descriptor : EngineEvent → Option Int
  | .epollCtl _ nSocket _ _ => some nSocket
  | .close nSocket => some nSocket
  | _ => none

/-- The session that is given up has no other entry than the one that is deleted,
or nothing is removed: no entry has the key, and no deletion is left over from
the event before. -/
def RemovesOwnOrNothing
    (mgr : TcpSessionMgr)
    (bFlag : Bool)
    (session : SessionId)
    (key : Int) : Prop :=
  (∀ nSocket, mgr.findSession nSocket = some session → nSocket = key) ∨
    mgr.findSession key = none ∧ bFlag = false

/-- The conditions on a step of a thread: `EPOLL_CTL_ADD` succeeds for sessions of
the first module only; a worker that fails removes its own session or nothing; an
`epoll_ctl` or a `close` is about no descriptor that is another session's in the
map; and the session manager is stopped when it has no sessions left. -/
structure KeepsFirstModle
    (shared : Shared)
    (thread : Thread)
    (own : Local)
    (input : Input) : Prop where
  first : ∀ call nAcceptSock, own.call = some call →
    call.stage = .known nAcceptSock → input = .next true → call.modle = 0
  removes : ∀ call event nRet, own.call = some call →
    call.stage = .sent event nRet ∨
        call.stage = .receiving event (.leave nRet) →
      nRet < 0 → call.events = [] →
        RemovesOwnOrNothing shared.state.mgr own.bFlag call.session event.fd
  owns : ∀ call event events nSocket session, own.call = some call →
    call.events = event :: events → event.descriptor = some nSocket →
      shared.state.mgr.findSession nSocket = some session →
        session = call.session
  stops : thread = .stop → ∀ nSocket sockets,
    own.sweep = some (nSocket :: sockets) →
      shared.state.mgr.findSession nSocket = none

/-! ## What keeps a session registered -/

/-- An event that leaves a descriptor registered. -/
def EngineEvent.Leaves : EngineEvent → Prop
  | .epollCtl .del _ _ _ => False
  | .close _ => False
  | _ => True

namespace Kernel

/-- A session is registered with the first module. -/
def Holds (kernel : Kernel) (nSocket : Int) (session : SessionId) : Prop :=
  ∃ registration, kernel.registrations 0 nSocket = some registration ∧
    registration.session = session

variable {kernel : Kernel} {nSocket : Int} {session : SessionId}

/-- Registering the session itself, or another descriptor. -/
theorem Holds.register
    (holds : kernel.Holds nSocket session)
    (modle : Nat)
    {descriptor : Int}
    {registration : Option Registration}
    (own : descriptor = nSocket →
      ∃ new, registration = some new ∧ new.session = session) :
    (kernel.register modle descriptor registration).Holds nSocket session := by
  obtain ⟨before, registered, isSession⟩ := holds
  by_cases same : 0 = modle ∧ nSocket = descriptor
  · obtain ⟨new, isNew, isOwn⟩ := own same.2.symm
    refine ⟨new, ?_, isOwn⟩
    rw [Kernel.register]
    dsimp only
    rw [if_pos same, isNew]
  · refine ⟨before, ?_, isSession⟩
    rw [Kernel.register]
    dsimp only
    rw [if_neg same]
    exact registered

/-- An event that is about another descriptor, or that arms the session again. -/
theorem Holds.perform
    {known : SessionId}
    {event : EngineEvent}
    (holds : kernel.Holds nSocket session)
    (modle : Nat)
    (own : event.descriptor = some nSocket → known = session ∧ event.Leaves) :
    (kernel.perform modle known event).Holds nSocket session := by
  cases event with
  | epollCtl op descriptor added done =>
      cases done with
      | false => cases op <;> exact holds
      | true =>
          cases op with
          | del =>
              apply holds.register
              intro same
              exact (own (congrArg some same)).2.elim
          | add | mod =>
              apply holds.register
              intro same
              exact ⟨_, rfl, (own (congrArg some same)).1⟩
  | close descriptor =>
      obtain ⟨registration, registered, isSession⟩ := holds
      have different : nSocket ≠ descriptor := by
        intro same
        exact (own (congrArg some same.symm)).2
      refine ⟨registration, ?_, isSession⟩
      rw [Kernel.perform, close]
      dsimp only
      rw [if_neg different]
      exact registered
  | _ => exact holds

/-- `epoll_wait` changes nothing about who is registered. -/
theorem Holds.fetch
    {next : Kernel}
    {modle : Nat}
    {descriptor : Int}
    {mask : EpollEvents}
    {known : SessionId}
    {event : EpollEvent}
    (holds : kernel.Holds nSocket session)
    (fetched : kernel.fetch modle descriptor mask = some (known, event, next)) :
    next.Holds nSocket session := by
  obtain ⟨registration, registered, -, -, -, rfl⟩ := fetch_eq_some fetched
  obtain ⟨before, isBefore, isSession⟩ := holds
  by_cases same : 0 = modle ∧ nSocket = descriptor
  · refine ⟨{ registration with
      armed := !registration.event.events.epollOneShot }, ?_, ?_⟩
    · rw [Kernel.register]
      dsimp only
      rw [if_pos same]
    · rw [← same.1, ← same.2, isBefore] at registered
      rw [← Option.some.inj registered]
      exact isSession
  · refine ⟨before, ?_, isSession⟩
    rw [Kernel.register]
    dsimp only
    rw [if_neg same]
    exact isBefore

/-- Adding the descriptor registers the session. -/
theorem holds_add (kernel : Kernel) (event : EpollEvent) :
    (kernel.perform 0 session (.epollCtl .add nSocket event true)).Holds nSocket
      session := by
  refine ⟨⟨session, event, true⟩, ?_, rfl⟩
  simp [perform, Kernel.register]

end Kernel

/-! ## A session in the map -/

/-- The object of a session that is in the map under a socket. -/
structure Listed (nSocket : Int) (object : TcpSession) : Prop where
  nSocket : object.nSocket = nSocket
  index : object.nEventModleIndex = 0

/-- What a call on a session that is in the map under a socket can be. It leaves
the descriptor registered, or it is that of the accept loop, which has still to
add the descriptor or is about to remove the entry. -/
def Call.LeavesListed
    (nSocket : Int)
    (thread : Thread)
    (call : Call) : Prop :=
  match call.stage with
  | .initialised _ _ => False
  | .known nAcceptSock => thread = .accept ∧ nAcceptSock = nSocket
  | .added nAcceptSock nRet =>
      thread = .accept ∧ nAcceptSock = nSocket ∧
        (nRet < 0 ∨ call.events = [] ∨
          call.modle = 0 ∧
            ∃ event, call.events = [.epollCtl .add nSocket event true])
  | .posted nAcceptSock _ =>
      thread = .accept ∧ nAcceptSock = nSocket ∧
        ∀ event ∈ call.events, event.Leaves
  | .teardown calls =>
      thread = .accept ∧
        (calls = [.delSession nSocket, .fini, .delete] ∨
          call.events = [] ∧
            calls = [.delEvent, .delSession nSocket, .fini, .delete])
  | _ => ∀ event ∈ call.events, event.Leaves

/-- Only the accept loop has unregistered sessions. -/
theorem Call.LeavesListed.accepts
    {nSocket : Int}
    {thread : Thread}
    {call : Call}
    (leaves : call.LeavesListed nSocket thread)
    (unregistered : call.Unregistered) :
    thread = .accept := by
  obtain ⟨session, modle, events, stage⟩ := call
  cases stage with
  | known | added | posted | teardown => exact leaves.1
  | _ => exact unregistered.elim

/-- What a step leaves of a session that is still in the map behind it. -/
structure ListedStep
    (shared : Shared)
    (thread : Thread)
    (own : Local)
    (nSocket : Int)
    (session : SessionId)
    (after : Shared × Local) : Prop where
  object : Listed nSocket (after.1.state.memory session)
  call : ∀ new, after.2.call = some new → new.session = session →
    new.LeavesListed nSocket thread
  registered : shared.state.kernel.Holds nSocket session ∨
      own.HasUnregistered session →
    after.1.state.kernel.Holds nSocket session ∨
      after.2.HasUnregistered session

section Steps

variable {shared : Shared} {thread : Thread} {own : Local} {input : Input}
  {nSocket : Int} {session : SessionId} {call : Call} {after : Shared × Local}

theorem hasUnregistered_iff (inCall : own.call = some call) :
    own.HasUnregistered call.session ↔ call.Unregistered := by
  refine ⟨?_, fun unregistered => ⟨call, inCall, rfl, unregistered⟩⟩
  rintro ⟨other, isOther, -, unregistered⟩
  exact Option.some.inj (isOther.symm.trans inCall) ▸ unregistered

theorem not_hasUnregistered
    (noCall : ∀ call, own.call = some call → call.session ≠ session) :
    ¬own.HasUnregistered session := by
  rintro ⟨call, inCall, isSession, -⟩
  exact noCall call inCall isSession

/-- A step after which the call on the session is another one, or there is
none. -/
theorem listedStep_of_none
    (listed : Listed nSocket (after.1.state.memory session))
    (holds : shared.state.kernel.Holds nSocket session →
      after.1.state.kernel.Holds nSocket session)
    (registered : ¬own.HasUnregistered session)
    (none : ∀ new, after.2.call = some new → new.session ≠ session) :
    ListedStep shared thread own nSocket session after :=
  ⟨listed, fun new inCall isSession => absurd isSession (none new inCall),
    fun before => Or.inl (holds (before.resolve_right registered))⟩

/-- The call goes on, and nothing it has done concerns the session. -/
theorem listedStep_of_call
    {new : Call}
    (listed : Listed nSocket (after.1.state.memory call.session))
    (holds : shared.state.kernel.Holds nSocket call.session →
      after.1.state.kernel.Holds nSocket call.session)
    (inCall : own.call = some call)
    (goesOn : after.2.call = some new)
    (same : new.session = call.session)
    (leaves : new.LeavesListed nSocket thread)
    (registered : call.Unregistered → new.Unregistered) :
    ListedStep shared thread own nSocket call.session after := by
  refine ⟨listed, ?_, ?_⟩
  · intro other isOther _
    exact Option.some.inj (goesOn.symm.trans isOther) ▸ leaves
  · rintro (before | unregistered)
    · exact Or.inl (holds before)
    · exact Or.inr ⟨new, goesOn, same,
        registered ((hasUnregistered_iff inCall).mp unregistered)⟩

/-- Doing the next thing of a call changes nothing but the kernel. -/
theorem state_of_perform
    {modle : Nat}
    {event : EngineEvent}
    {next : Shared}
    (performed : shared.perform thread session modle event = some next) :
    next.state = { shared.state with
      kernel := shared.state.kernel.perform modle session event } := by
  cases performStep_of_perform performed with
  | lock | unlock | kernel => rfl

/-- The thread that has the session in a call does the next thing. -/
theorem listedStep_perform
    {event : EngineEvent}
    {events : List EngineEvent}
    {next : Shared}
    (listed : Listed nSocket (shared.state.memory call.session))
    (leaves : call.LeavesListed nSocket thread)
    (inCall : own.call = some call)
    (first : call.events = event :: events)
    (performed : shared.perform thread call.session call.modle event =
      some next) :
    ListedStep shared thread own nSocket call.session
      (next, { own with call := some { call with events := events } }) := by
  have isState := state_of_perform performed
  have keptObject : Listed nSocket (next.state.memory call.session) := by
    rw [isState]
    exact listed
  have arms : event.Leaves → shared.state.kernel.Holds nSocket call.session →
      next.state.kernel.Holds nSocket call.session := by
    intro leaves holds
    rw [isState]
    exact holds.perform _ fun _ => ⟨rfl, leaves⟩
  obtain ⟨session, modle, all, stage⟩ := call
  dsimp only at first
  subst first
  have unregistered : ∀ new : Call, new.session = session →
      new.LeavesListed nSocket thread → new.Unregistered →
        ListedStep shared thread own nSocket session
          (next, { own with call := some new }) := by
    intro new same leaves unregistered
    refine ⟨keptObject, ?_, fun _ => Or.inr ⟨new, rfl, same, unregistered⟩⟩
    intro other isOther _
    exact Option.some.inj isOther ▸ leaves
  cases stage with
  | initialised => exact leaves.elim
  | known => exact unregistered _ rfl leaves trivial
  | added nAcceptSock nRet =>
      obtain ⟨isAccept, isSocket, negative | none | ⟨isFirst, added, isEvents⟩⟩ :=
        leaves
      · exact unregistered _ rfl ⟨isAccept, isSocket, Or.inl negative⟩
          (Or.inl negative)
      · contradiction
      · -- the descriptor is added
        dsimp only at isFirst isEvents
        injection isEvents with isEvent isRest
        subst isFirst isEvent isRest
        refine ⟨keptObject, ?_, fun _ => Or.inl ?_⟩
        · intro other isOther _
          exact Option.some.inj isOther ▸
            ⟨isAccept, isSocket, Or.inr (Or.inl rfl)⟩
        · rw [isState]
          exact shared.state.kernel.holds_add added
  | posted =>
      exact listedStep_of_call keptObject (arms (leaves.2.2 _ List.mem_cons_self))
        inCall rfl rfl ⟨leaves.1, leaves.2.1, fun other member =>
          leaves.2.2 other (List.mem_cons_of_mem _ member)⟩ id
  | teardown =>
      obtain ⟨isAccept, delSession | ⟨none, -⟩⟩ := leaves
      · exact unregistered _ rfl ⟨isAccept, Or.inl delSession⟩
          (by rw [delSession]; trivial)
      · contradiction
  | sent | receiving | found | sending =>
      exact listedStep_of_call keptObject (arms (leaves _ List.mem_cons_self))
        inCall rfl rfl
        (fun other member => leaves other (List.mem_cons_of_mem _ member)) id

/-- What the accept loop does to give up a session that is in the map. -/
theorem leavesListed_giveUp
    {calls : List Teardown}
    (leaves : call.LeavesListed nSocket thread)
    (quiet : call.events = [])
    (failed : call.GivesUp calls) :
    Call.LeavesListed nSocket thread { call with stage := .teardown calls } ∧
      (call.Unregistered →
        Call.Unregistered { call with stage := .teardown calls }) := by
  obtain ⟨session, modle, events, stage⟩ := call
  cases stage with
  | initialised => exact leaves.elim
  | added nAcceptSock nRet =>
      obtain ⟨-, rfl⟩ := failed
      obtain ⟨isAccept, rfl, -⟩ := leaves
      exact ⟨⟨isAccept, Or.inl rfl⟩, fun _ => trivial⟩
  | posted nAcceptSock nRet =>
      obtain ⟨-, rfl⟩ := failed
      obtain ⟨isAccept, rfl, -⟩ := leaves
      exact ⟨⟨isAccept, Or.inr ⟨quiet, rfl⟩⟩, fun unregistered =>
        unregistered.elim⟩
  | _ => exact failed.elim

/-- A worker that fails takes the session out of the map, or leaves it. -/
theorem listedStep_dropFailed
    {modle : Nat}
    {key : Int}
    (listed : Listed nSocket (shared.state.memory session))
    (registered : ¬own.HasUnregistered session)
    (entry : shared.state.mgr.findSession nSocket = some session)
    (removes : RemovesOwnOrNothing shared.state.mgr own.bFlag session key)
    (dropped : dropFailed shared own modle session key = some after)
    (found : after.1.state.mgr.findSession nSocket = some session) :
    ListedStep shared thread own nSocket session after := by
  unfold dropFailed at dropped
  split at dropped
  · obtain rfl := Option.some.inj dropped
    rcases removes with ownEntry | ⟨absent, noFlag⟩
    · obtain rfl := ownEntry nSocket entry
      dsimp only [Shared.setMgr] at found
      rw [TcpSessionMgr.findSession_delSession] at found
      contradiction
    · refine listedStep_of_none listed id registered ?_
      have refused : (shared.state.mgr.delSession key).2 < 0 := by
        rw [TcpSessionMgr.delSession, if_neg (AList.lookup_eq_none.mp absent)]
        exact neg_one_lt_zero
      dsimp only
      rw [if_pos refused, if_neg (by rw [noFlag]; exact Bool.false_ne_true)]
      intro new impossible
      contradiction
  · contradiction

/-- The accept loop goes on to get rid of a session that is in the map. -/
theorem listedStep_nextTeardown
    {done : Bool}
    {first : Teardown}
    {calls : List Teardown}
    (listed : Listed nSocket (shared.state.memory call.session))
    (leaves : call.LeavesListed nSocket thread)
    (stage : call.stage = .teardown (first :: calls))
    (advanced : nextTeardown shared thread own call done calls first =
      some after)
    (found : after.1.state.mgr.findSession nSocket = some call.session) :
    ListedStep shared thread own nSocket call.session after := by
  rw [Call.LeavesListed, stage] at leaves
  obtain ⟨isAccept, isCalls | ⟨-, isCalls⟩⟩ := leaves
  · injection isCalls with isFirst isRest
    subst isFirst
    obtain ⟨-, rfl⟩ := nextTeardown_delSession advanced
    dsimp only [Shared.setMgr] at found
    rw [TcpSessionMgr.findSession_delSession] at found
    contradiction
  · injection isCalls with isFirst isRest
    subst isFirst isRest
    obtain rfl := Option.some.inj advanced
    refine ⟨listed, ?_, fun _ => Or.inr ⟨_, rfl, rfl, trivial⟩⟩
    intro new isNew _
    exact Option.some.inj isNew ▸ ⟨isAccept, Or.inl rfl⟩

/-- The thread that has the session in a call goes on behind it. -/
theorem listedStep_afterCall
    {done : Bool}
    (listed : Listed nSocket (shared.state.memory call.session))
    (leaves : call.LeavesListed nSocket thread)
    (entry : shared.state.mgr.findSession nSocket = some call.session)
    (keeps : KeepsFirstModle shared thread own (.next done))
    (inCall : own.call = some call)
    (quiet : call.events = [])
    (advanced : afterCall shared thread own call done = some after)
    (found : after.1.state.mgr.findSession nSocket = some call.session) :
    ListedStep shared thread own nSocket call.session after := by
  have settled : ∀ {stage}, call.stage = stage →
      ¬Call.Unregistered { call with stage := stage } →
        ¬call.Unregistered := by
    rintro _ rfl
    exact id
  cases afterCall_cases advanced with
  | giveUp failed =>
      obtain ⟨leavesNext, unregistered⟩ :=
        leavesListed_giveUp leaves quiet failed
      exact listedStep_of_call listed id inCall rfl rfl leavesNext unregistered
  | addSession stage =>
      rw [Call.LeavesListed, stage] at leaves
      exact leaves.elim
  | @addEvent nAcceptSock stage =>
      have isKnown := leaves
      rw [Call.LeavesListed, stage] at isKnown
      refine listedStep_of_call listed id inCall rfl rfl ?_ ?_
      · refine ⟨isKnown.1, isKnown.2, ?_⟩
        cases done with
        | false => exact Or.inl neg_one_lt_zero
        | true =>
            refine Or.inr (Or.inr ⟨keeps.first call _ inCall stage rfl, ?_⟩)
            dsimp only
            rw [TcpSession.addEvent, listed.nSocket]
            exact ⟨_, rfl⟩
      · exact fun _ => Or.inr (List.cons_ne_nil _ _)
  | postRecv stage nonneg =>
      have isAdded := leaves
      rw [Call.LeavesListed, stage] at isAdded
      refine listedStep_of_call listed id inCall rfl rfl
        ⟨isAdded.1, isAdded.2.1, ?_⟩ ?_
      · intro event member
        rw [List.mem_singleton.mp member]
        trivial
      · intro unregistered
        rw [Call.Unregistered, stage] at unregistered
        exact unregistered.elim (absurd · (not_lt.mpr nonneg))
          (absurd quiet)
  | receive stage =>
      refine listedStep_of_call listed id inCall rfl rfl ?_ ?_
      · rw [Call.LeavesListed]
        dsimp only
        rw [quiet]
        exact fun event impossible => absurd impossible List.not_mem_nil
      · exact fun unregistered => absurd unregistered (settled stage id)
  | drop stage negative dropped =>
      refine listedStep_dropFailed listed ?_ entry
        (keeps.removes call _ _ inCall stage negative quiet) dropped found
      rw [hasUnregistered_iff inCall]
      rcases stage with sent | received
      · exact settled sent id
      · exact settled received id
  | teardown stage advanced =>
      exact listedStep_nextTeardown listed leaves stage advanced found
  | returned ended =>
      refine listedStep_of_none listed id ?_ fun new impossible => by contradiction
      rw [hasUnregistered_iff inCall]
      intro unregistered
      obtain ⟨session, modle, events, stage⟩ := call
      cases stage with
      | known => exact ended
      | added => exact ended
      | teardown calls =>
          rw [Call.Returns] at ended
          rw [Call.Unregistered] at unregistered
          dsimp only at ended unregistered
          rw [ended] at unregistered
          exact unregistered
      | _ => exact unregistered

/-- Behind a call, at most the object of its session has changed. -/
theorem frame_afterCall
    {done : Bool}
    (advanced : afterCall shared thread own call done = some after) :
    after.1.state.kernel = shared.state.kernel ∧
      ∀ other, other ≠ call.session →
        after.1.state.memory other = shared.state.memory other := by
  have same : ∀ mgr, (shared.setMgr mgr).state.kernel = shared.state.kernel ∧
      ∀ other, other ≠ call.session →
        (shared.setMgr mgr).state.memory other = shared.state.memory other :=
    fun _ => ⟨rfl, fun _ _ => rfl⟩
  cases afterCall_cases advanced with
  | giveUp | addEvent | postRecv | receive | returned =>
      exact ⟨rfl, fun _ _ => rfl⟩
  | addSession => exact same _
  | drop _ _ dropped =>
      obtain ⟨-, _, _, rfl⟩ := dropFailed_eq_some dropped
      exact same _
  | @teardown first _ _ _ advanced =>
      cases first with
      | delSession =>
          obtain ⟨-, rfl⟩ := nextTeardown_delSession advanced
          exact same _
      | delEvent =>
          obtain rfl := Option.some.inj advanced
          exact ⟨rfl, fun _ _ => rfl⟩
      | fini | delete =>
          obtain rfl := Option.some.inj advanced
          exact ⟨rfl, fun other different => Function.update_of_ne different _ _⟩

/-- A thread in a call on another session. -/
theorem listedStep_otherCall
    (other : call.session ≠ session)
    (listed : Listed nSocket (shared.state.memory session))
    (entry : shared.state.mgr.findSession nSocket = some session)
    (keeps : KeepsFirstModle shared thread own input)
    (inCall : own.call = some call)
    (advanced : callStep shared thread own call input = some after) :
    ListedStep shared thread own nSocket session after := by
  have registered : ¬own.HasUnregistered session := by
    apply not_hasUnregistered
    intro known isKnown
    exact Option.some.inj (inCall.symm.trans isKnown) ▸ other
  have none : ∀ new, after.2.call = some new → new.session ≠ session := by
    intro new goesOn isSession
    exact other ((session_callStep advanced goesOn).symm.trans isSession)
  have elsewhere : ∀ object, Listed nSocket
      ((shared.store call.session object).state.memory session) := by
    intro object
    rw [Shared.store, ServerState.store]
    dsimp only
    rw [Function.update_of_ne (Ne.symm other)]
    exact listed
  cases callStep_cases advanced with
  | perform first performed =>
      have isState := state_of_perform performed
      refine listedStep_of_none ?_ ?_ registered none
      · rw [isState]
        exact listed
      · intro holds
        rw [isState]
        apply holds.perform
        intro isDescriptor
        exact absurd (keeps.owns call _ _ nSocket session inCall first
          isDescriptor entry).symm other
  | goOn _ advanced =>
      obtain ⟨kernel, memory⟩ := frame_afterCall advanced
      refine listedStep_of_none ?_ ?_ registered none
      · rw [memory session (Ne.symm other)]
        exact listed
      · rw [kernel]
        exact id
  | receive | send => exact listedStep_of_none (elsewhere _) id registered none

/-- A thread in a call. -/
theorem listedStep_callStep
    (listed : Listed nSocket (shared.state.memory session))
    (entry : shared.state.mgr.findSession nSocket = some session)
    (leaves : call.session = session → call.LeavesListed nSocket thread)
    (keeps : KeepsFirstModle shared thread own input)
    (inCall : own.call = some call)
    (advanced : callStep shared thread own call input = some after)
    (found : after.1.state.mgr.findSession nSocket = some session) :
    ListedStep shared thread own nSocket session after := by
  by_cases same : call.session = session
  · subst same
    have settled : ∀ {stage}, call.stage = stage →
        ¬Call.Unregistered { call with stage := stage } →
          ¬call.Unregistered := by
      rintro _ rfl
      exact id
    have stored : ∀ {object}, Listed nSocket object → Listed nSocket
        ((shared.store call.session object).state.memory call.session) := by
      intro object isListed
      rw [Shared.store, ServerState.store]
      dsimp only
      rw [Function.update_self]
      exact isListed
    cases callStep_cases advanced with
    | perform first performed =>
        exact listedStep_perform listed (leaves rfl) inCall first performed
    | goOn quiet advanced =>
        exact listedStep_afterCall listed (leaves rfl) entry keeps inCall quiet
          advanced found
    | @receive _ turn _ stage =>
        have effects := (shared.state.memory call.session).ioRecvPass_effects turn
        refine listedStep_of_call (stored ⟨?_, ?_⟩) id inCall rfl rfl ?_
          fun unregistered => absurd unregistered (settled stage id)
        · exact effects.1.nSocket.trans listed.nSocket
        · exact (TcpSession.nEventModleIndex_ioRecvPass _ turn).trans listed.index
        · intro event member
          rcases effects.2 event member with plain | ⟨op, _, notDel, rfl⟩
          · cases event with
            | epollCtl | close => exact plain.elim
            | _ => trivial
          · cases op with
            | del => exact absurd rfl notDel
            | add | mod => trivial
    | send _ stage _ isSent =>
        subst isSent
        refine listedStep_of_call (stored ?_) id inCall rfl rfl ?_
          fun unregistered => absurd unregistered (settled stage id)
        · rw [(TcpSession.ioSend_writes _ _ _ _).1]
          exact listed
        · intro event member
          have plain := TcpSession.plainEvents_ioSend _ _ _ _ event member
          cases event with
          | epollCtl | close => exact plain.elim
          | _ => trivial
  · exact listedStep_otherCall same listed entry keeps inCall advanced

/-- Sending from the queue leaves the descriptor registered. -/
theorem leaves_ioSendQueued
    (object : TcpSession)
    (write : WriteResult)
    (sendCtl : Bool) :
    ∀ event ∈ (object.ioSendQueued write sendCtl).2.1, event.Leaves := by
  have sends := object.events_ioSendQueued write sendCtl
  generalize (object.ioSendQueued write sendCtl).2.1 = events at sends
  have taken : ∀ event ∈ [EngineEvent.lock .sendBufLock, .unlock .sendBufLock],
      event.Leaves :=
    List.forall_mem_cons.mpr ⟨trivial, List.forall_mem_singleton.mpr trivial⟩
  cases sends with
  | nothing => exact taken
  | writes bytes =>
      exact List.forall_mem_append.mpr
        ⟨taken, List.forall_mem_singleton.mpr trivial⟩
  | registers bytes =>
      refine List.forall_mem_append.mpr
        ⟨List.forall_mem_append.mpr ⟨taken, ?_⟩, ?_⟩
      · exact List.forall_mem_singleton.mpr trivial
      · exact List.forall_mem_singleton.mpr trivial

/-- Handling the first fetched event leaves the object of a session in its
place. -/
theorem listed_handleFetched
    {known : SessionId}
    {event : EpollEvent}
    {batch : List (SessionId × EpollEvent)}
    {write : WriteResult}
    {sendCtl : Bool}
    (listed : Listed nSocket (shared.state.memory session))
    (handled : handleFetched shared own known event batch write sendCtl = after) :
    Listed nSocket (after.1.state.memory session) := by
  cases handleFetched_cases handled with
  | ignore | pointless | receive => exact listed
  | send =>
      rw [Shared.store, ServerState.store]
      dsimp only
      by_cases same : session = known
      · subst same
        rw [Function.update_self, TcpSession.session_ioSendQueued]
        exact ⟨listed.nSocket, listed.index⟩
      · rw [Function.update_of_ne same]
        exact listed

/-- The first fetched event is handled, maybe on the session. -/
theorem listedStep_handleFetched
    {known : SessionId}
    {event : EpollEvent}
    {batch : List (SessionId × EpollEvent)}
    {write : WriteResult}
    {sendCtl : Bool}
    (listed : Listed nSocket (shared.state.memory session))
    (idle : own.call = none)
    (handled : handleFetched shared own known event batch write sendCtl = after) :
    ListedStep shared thread own nSocket session after := by
  have keptObject := listed_handleFetched listed handled
  have none : ∀ new, own.call = some new → new.session ≠ session := by
    intro new inCall
    rw [idle] at inCall
    contradiction
  have settled : ¬own.HasUnregistered session := not_hasUnregistered none
  cases handleFetched_cases handled with
  | ignore | pointless => exact listedStep_of_none keptObject id settled none
  | send =>
      refine ⟨keptObject, ?_, fun before => Or.inl (before.resolve_right settled)⟩
      intro new isNew _
      rw [← Option.some.inj isNew]
      exact leaves_ioSendQueued _ write sendCtl
  | receive =>
      refine ⟨keptObject, ?_, fun before => Or.inl (before.resolve_right settled)⟩
      intro new isNew _
      rw [← Option.some.inj isNew]
      exact fun each impossible => absurd impossible List.not_mem_nil

/-- A thread between two calls. -/
theorem listedStep_idleStep
    {acceptSession : AcceptSession}
    (listed : Listed nSocket (shared.state.memory session))
    (known : session < shared.state.constructed)
    (unique : ∀ other, shared.state.mgr.findSession other = some session →
      other = nSocket)
    (keeps : KeepsFirstModle shared thread own input)
    (idle : own.call = none)
    (advanced : idleStep acceptSession shared thread own input = some after)
    (found : after.1.state.mgr.findSession nSocket = some session) :
    ListedStep shared thread own nSocket session after := by
  have none : ∀ new, own.call = some new → new.session ≠ session := by
    intro new inCall
    rw [idle] at inCall
    contradiction
  have registered : ¬own.HasUnregistered session := not_hasUnregistered none
  cases idleStep_cases advanced with
  | @accept nAcceptSock now garbage address =>
      have effect : AcceptEffect shared own nAcceptSock (acceptConnection
          acceptSession shared own nAcceptSock
            (TcpSession.construct garbage address now)) :=
        acceptEffect_acceptConnection ..
      obtain ⟨next, isNext, isSession, -⟩ := effect.call
      refine listedStep_of_none ?_ ?_ registered ?_
      · rw [effect.memory session known.ne]
        exact listed
      · rw [effect.kernel]
        exact id
      · intro new isNew same
        obtain rfl := Option.some.inj (isNext.symm.trans isNew)
        exact known.ne (same.symm.trans isSession)
  | fetch _ _ fetched =>
      exact listedStep_of_none listed (fun holds => holds.fetch fetched)
        registered none
  | handle _ _ handled => exact listedStep_handleFetched listed idle handled
  | find =>
      refine ⟨listed, ?_, fun before => Or.inl (before.resolve_right registered)⟩
      intro new isNew _
      obtain ⟨_, -, rfl⟩ := Option.map_eq_some_iff.mp isNew
      exact fun event impossible => absurd impossible List.not_mem_nil
  | enterHeartbeat _ _ entered | enterStop _ entered =>
      obtain ⟨-, rfl⟩ := enterSweep_eq_some entered
      exact listedStep_of_none listed id registered none
  | leaveHeartbeat | leaveStop | passOver =>
      exact listedStep_of_none listed id registered none
  | evict _ isEvicted =>
      refine listedStep_of_none listed id registered ?_
      intro new isNew same
      obtain rfl := Option.some.inj isNew
      dsimp only at same
      subst same
      obtain rfl := unique _ isEvicted
      dsimp only [Shared.setMgr] at found
      rw [TcpSessionMgr.findSession_delSession] at found
      contradiction
  | finish sweeping isFound =>
      rw [keeps.stops rfl _ _ sweeping] at isFound
      contradiction

/-- What a step of a thread leaves of a session in the map. -/
theorem listedStep_threadStep
    {acceptSession : AcceptSession}
    (listed : Listed nSocket (shared.state.memory session))
    (known : session < shared.state.constructed)
    (unique : ∀ other, shared.state.mgr.findSession other = some session →
      other = nSocket)
    (entry : shared.state.mgr.findSession nSocket = some session)
    (leaves : ∀ call, own.call = some call → call.session = session →
      call.LeavesListed nSocket thread)
    (keeps : KeepsFirstModle shared thread own input)
    (advanced : threadStep acceptSession shared thread own input = some after)
    (found : after.1.state.mgr.findSession nSocket = some session) :
    ListedStep shared thread own nSocket session after := by
  unfold threadStep at advanced
  split at advanced
  · rename_i call inCall
    exact listedStep_callStep listed entry (leaves call inCall) keeps inCall
      advanced found
  · rename_i idle
    exact listedStep_idleStep listed known unique keeps idle advanced found

/-! ## A session that comes into the map -/

/-- The accept loop puts a session into the map. -/
structure AddsSession
    (shared : Shared)
    (own : Local)
    (nSocket : Int)
    (session : SessionId)
    (nAcceptSock : Int)
    (after : Shared × Local) : Prop where
  initialised : ∃ call nRet, own.call = some call ∧ call.session = session ∧
    call.stage = .initialised nAcceptSock nRet ∧ 0 ≤ nRet ∧
      after.2.call = some { call with stage := .known nAcceptSock }
  nSocket : nSocket = (shared.state.memory session).nSocket
  memory : after.1.state.memory = shared.state.memory

/-- An entry that is in the map after a step was there, or the accept loop has
put it there. -/
theorem entry_afterCall
    {done : Bool}
    (inCall : own.call = some call)
    (advanced : afterCall shared thread own call done = some after)
    (found : after.1.state.mgr.findSession nSocket = some session) :
    shared.state.mgr.findSession nSocket = some session ∨
      ∃ nAcceptSock, AddsSession shared own nSocket session nAcceptSock after := by
  cases afterCall_cases advanced with
  | giveUp | addEvent | postRecv | receive | returned => exact Or.inl found
  | drop _ _ dropped =>
      obtain ⟨-, _, _, rfl⟩ := dropFailed_eq_some dropped
      exact Or.inl (entries_delSession _ _ _ _ found)
  | @teardown first _ _ _ advanced =>
      cases first with
      | delSession =>
          obtain ⟨-, rfl⟩ := nextTeardown_delSession advanced
          exact Or.inl (entries_delSession _ _ _ _ found)
      | delEvent | fini | delete =>
          obtain rfl := Option.some.inj advanced
          exact Or.inl found
  | @addSession nAcceptSock nRet stage nonneg =>
      by_cases same : nSocket = (shared.state.memory call.session).nSocket
      · dsimp only [Shared.setMgr] at found
        rw [TcpSessionMgr.addSession] at found
        split at found
        · exact Or.inl found
        · right
          rw [same, TcpSessionMgr.findSession, AList.lookup_insert,
            Option.some.injEq] at found
          subst found
          exact ⟨nAcceptSock, ⟨call, nRet, inCall, rfl, stage, nonneg, rfl⟩,
            same, rfl⟩
      · rw [Shared.setMgr, TcpSessionMgr.findSession_addSession_ne _ same]
          at found
        exact Or.inl found

theorem entry_threadStep
    {acceptSession : AcceptSession}
    (advanced : threadStep acceptSession shared thread own input = some after)
    (found : after.1.state.mgr.findSession nSocket = some session) :
    shared.state.mgr.findSession nSocket = some session ∨
      ∃ nAcceptSock, AddsSession shared own nSocket session nAcceptSock after := by
  unfold threadStep at advanced
  split at advanced
  · rename_i call inCall
    cases callStep_cases advanced with
    | perform _ performed =>
        have isState := state_of_perform performed
        dsimp only at found
        rw [isState] at found
        exact Or.inl found
    | goOn _ advanced => exact entry_afterCall inCall advanced found
    | receive | send => exact Or.inl found
  · left
    cases idleStep_cases advanced with
    | accept =>
        rw [(acceptConnection_frame _ _ _ _ _).2.1] at found
        exact found
    | handle _ _ handled =>
        cases handleFetched_cases handled with
        | ignore | pointless | send | receive => exact found
    | enterHeartbeat _ _ entered | enterStop _ entered =>
        obtain ⟨-, rfl⟩ := enterSweep_eq_some entered
        exact found
    | evict => exact entries_delSession _ _ _ _ found
    | leaveStop => contradiction
    | fetch | find | leaveHeartbeat | passOver | finish => exact found

/-- The objects of sessions a thread has no pointer to keep their places. -/
theorem listed_threadStep
    {acceptSession : AcceptSession}
    (listed : Listed nSocket (shared.state.memory session))
    (known : session < shared.state.constructed)
    (unknown : session ∉ own.pointers)
    (advanced : threadStep acceptSession shared thread own input = some after) :
    Listed nSocket (after.1.state.memory session) := by
  unfold threadStep at advanced
  split at advanced
  · rename_i call inCall
    have other : session ≠ call.session := fun same =>
      unknown (same ▸ session_mem_pointers inCall)
    cases callStep_cases advanced with
    | perform _ performed =>
        dsimp only
        rw [state_of_perform performed]
        exact listed
    | goOn _ advanced =>
        rw [(frame_afterCall advanced).2 session other]
        exact listed
    | receive | send =>
        rw [Shared.store, ServerState.store]
        dsimp only
        rw [Function.update_of_ne other]
        exact listed
  · rename_i idle
    cases idleStep_cases advanced with
    | @accept nAcceptSock now garbage address =>
        have effect : AcceptEffect shared own nAcceptSock (acceptConnection
            acceptSession shared own nAcceptSock
              (TcpSession.construct garbage address now)) :=
          acceptEffect_acceptConnection ..
        rw [effect.memory session known.ne]
        exact listed
    | handle _ _ handled =>
        exact listed_handleFetched listed handled
    | enterHeartbeat _ _ entered | enterStop _ entered =>
        obtain ⟨-, rfl⟩ := enterSweep_eq_some entered
        exact listed
    | fetch | find | leaveHeartbeat | leaveStop | passOver | evict | finish =>
        exact listed

end Steps

end TransPortEngine
