import TransPortEngine.Server.Registry
import TransPortEngine.Server.Steps

/-!
# Who has a pointer to a session

A thread has a pointer to the session of its call and to the sessions of the
events it has fetched. It gets a pointer from `new`, from an epoll instance or
from the session manager, and the last two have theirs from a thread that had
one.
-/

namespace TransPortEngine

/-- The sessions a thread has a pointer to. -/
def Local.pointers (own : Local) : List SessionId :=
  own.batch.map Prod.fst ++ (own.call.map Call.session).toList

/-- The session a thread gets a pointer to from an epoll instance or from the
session manager. -/
def Shared.taken
    (shared : Shared)
    (thread : Thread)
    (own : Local)
    (input : Input) : Option SessionId :=
  match thread, own.sweep, input with
  | .worker modle _, _, .fetch nSocket _ =>
      (shared.state.kernel.registrations modle nSocket).map
        Registration.session
  | .application _, _, .find nSessionId _ _ =>
      shared.state.mgr.findSession nSessionId
  | .heartbeat, some (nSocket :: _), .visit _ =>
      shared.state.mgr.findSession nSocket
  | .stop, some (nSocket :: _), .visit _ =>
      shared.state.mgr.findSession nSocket
  | _, _, _ => none

/-- The session on which a thread calls `TcpSession_Fini` or which it
deletes. -/
def Local.destroyed (own : Local) (input : Input) : Option SessionId :=
  match own.call, input with
  | some ⟨session, _, [], .teardown (.fini :: _)⟩, .next _ => some session
  | some ⟨session, _, [], .teardown (.delete :: _)⟩, .next _ => some session
  | _, _ => none

/-- Nothing that can be found has another session than before, except from a
thread that had a pointer to it. -/
structure Sourced
    (shared : Shared)
    (thread : Thread)
    (own : Local)
    (input : Input)
    (after : Shared × Local) : Prop where
  constructed : shared.state.constructed ≤ after.1.state.constructed
  pointer : ∀ session ∈ after.2.pointers, session ∈ own.pointers ∨
    shared.taken thread own input = some session ∨
      session = shared.state.constructed ∧
        session < after.1.state.constructed
  entry : ∀ nSocket session,
    after.1.state.mgr.findSession nSocket = some session →
      shared.state.mgr.findSession nSocket = some session ∨
        session ∈ own.pointers
  registration : ∀ modle nSocket registration,
    after.1.state.kernel.registrations modle nSocket = some registration →
      (∃ before, shared.state.kernel.registrations modle nSocket =
          some before ∧ before.session = registration.session) ∨
        registration.session ∈ own.pointers
  destroyer : ∀ entry ∈ after.1.destroyers, entry ∈ shared.destroyers ∨
    entry.2 = thread ∧ own.destroyed input = some entry.1

section Steps

variable {shared : Shared} {thread : Thread} {own : Local} {input : Input}

/-- A step that changes at most objects, locks and local variables, and keeps no
more pointers than there were. -/
theorem sourced_of_same
    {after : Shared × Local}
    (constructed : after.1.state.constructed = shared.state.constructed)
    (mgr : after.1.state.mgr = shared.state.mgr)
    (kernel : after.1.state.kernel = shared.state.kernel)
    (destroyers : after.1.destroyers = shared.destroyers)
    (pointers : ∀ session ∈ after.2.pointers, session ∈ own.pointers) :
    Sourced shared thread own input after := by
  refine ⟨constructed.ge, fun session member => Or.inl (pointers session member),
    ?_, ?_, ?_⟩
  · intro nSocket session found
    rw [mgr] at found
    exact Or.inl found
  · intro modle nSocket registration registered
    rw [kernel] at registered
    exact Or.inl ⟨registration, registered, rfl⟩
  · intro entry member
    rw [destroyers] at member
    exact Or.inl member

/-- The thread writes down that it destroys a session. -/
theorem sourced_of_destroyed
    {session : SessionId}
    {after : Shared × Local}
    (constructed : after.1.state.constructed = shared.state.constructed)
    (mgr : after.1.state.mgr = shared.state.mgr)
    (kernel : after.1.state.kernel = shared.state.kernel)
    (destroyers : after.1.destroyers = (session, thread) :: shared.destroyers)
    (destroys : own.destroyed input = some session)
    (pointers : ∀ session ∈ after.2.pointers, session ∈ own.pointers) :
    Sourced shared thread own input after := by
  have others : Sourced shared thread own input
      ({ after.1 with destroyers := shared.destroyers }, after.2) :=
    sourced_of_same constructed mgr kernel rfl pointers
  refine ⟨others.constructed, others.pointer, others.entry, others.registration, ?_⟩
  intro entry member
  rw [destroyers] at member
  rcases List.mem_cons.mp member with new | old
  · rw [new]
    exact Or.inr ⟨rfl, destroys⟩
  · exact Or.inl old

/-- The session of the call in progress is one the thread has a pointer to. -/
theorem session_mem_pointers {call : Call} (inCall : own.call = some call) :
    call.session ∈ own.pointers := by
  simp [Local.pointers, inCall]

/-- A call on the same session adds no pointer. -/
theorem pointers_sameSession
    {call : Call}
    (inCall : own.call = some call)
    (next : Call)
    (same : next.session = call.session)
    (bFlag : Bool)
    (session : SessionId)
    (member : session ∈
      ({ own with bFlag := bFlag, call := some next } : Local).pointers) :
    session ∈ own.pointers := by
  simp only [Local.pointers, inCall, Option.map_some, same] at member ⊢
  exact member

/-- Doing the next thing of a call. -/
theorem sourced_perform
    {call : Call}
    {event : EngineEvent}
    {events : List EngineEvent}
    {after : Shared}
    (inCall : own.call = some call)
    (performed : shared.perform thread call.session call.modle event =
      some after) :
    Sourced shared thread own input
      (after, { own with call := some { call with events := events } }) := by
  have pointers := pointers_sameSession inCall { call with events := events } rfl
    own.bFlag
  cases performStep_of_perform performed with
  | lock | unlock => exact sourced_of_same rfl rfl rfl rfl pointers
  | kernel =>
      refine ⟨le_rfl, fun session member => Or.inl (pointers session member),
        fun _ _ found => Or.inl found, ?_, fun entry member => Or.inl member⟩
      intro modle nSocket registration registered
      rcases Kernel.registration_perform registered with old |
        ⟨op, added, -, -, -, rfl⟩
      · exact Or.inl ⟨registration, old, rfl⟩
      · exact Or.inr (session_mem_pointers inCall)

/-- A step that only changes the entries of the session manager, and finds no
new ones. -/
theorem sourced_of_mgr
    {mgr : TcpSessionMgr}
    {next : Local}
    (entries : ∀ nSocket session, mgr.findSession nSocket = some session →
      shared.state.mgr.findSession nSocket = some session ∨
        session ∈ own.pointers)
    (pointers : ∀ session ∈ next.pointers, session ∈ own.pointers) :
    Sourced shared thread own input (shared.setMgr mgr, next) :=
  ⟨le_rfl, fun session member => Or.inl (pointers session member), entries,
    fun _ _ registration registered =>
      Or.inl ⟨registration, registered, rfl⟩,
    fun _ member => Or.inl member⟩

/-- Removing an entry finds no new one. -/
theorem entries_delSession
    (mgr : TcpSessionMgr)
    (key nSocket : Int)
    (session : SessionId)
    (found : (mgr.delSession key).1.findSession nSocket = some session) :
    mgr.findSession nSocket = some session := by
  rw [findSession_delSession_eq] at found
  split at found
  · contradiction
  · exact found

/-- Giving up a session after a failure. -/
theorem sourced_dropFailed
    {call : Call}
    {nSock : Int}
    {modle : Nat}
    {after : Shared × Local}
    (inCall : own.call = some call)
    (dropped : dropFailed shared own modle call.session nSock = some after) :
    Sourced shared thread own input after := by
  obtain ⟨-, bFlag, calls, rfl⟩ := dropFailed_eq_some dropped
  apply sourced_of_mgr
  · intro nSocket session found
    exact Or.inl (entries_delSession _ _ _ _ found)
  · intro session member
    cases calls with
    | none =>
        simp only [Local.pointers, Option.map_none, Option.toList_none,
          List.append_nil] at member
        exact List.mem_append_left _ member
    | some calls =>
        exact pointers_sameSession inCall
          ⟨call.session, modle, [], .teardown calls⟩ rfl _ session member

/-- One call to get rid of a session. -/
theorem sourced_nextTeardown
    {call : Call}
    {done : Bool}
    {first : Teardown}
    {calls : List Teardown}
    {after : Shared × Local}
    (inCall : own.call = some call)
    (quiet : call.events = [])
    (stage : call.stage = .teardown (first :: calls))
    (advanced : nextTeardown shared thread own call done calls first =
      some after) :
    Sourced shared thread own (.next done) after := by
  have destroys : first = .fini ∨ first = .delete →
      own.destroyed (.next done) = some call.session := by
    obtain ⟨session, modle, events, callStage⟩ := call
    simp only at quiet stage
    rintro (rfl | rfl)
    · simp [Local.destroyed, inCall, quiet, stage]
    · simp [Local.destroyed, inCall, quiet, stage]
  have keeps : ∀ next : Call, next.session = call.session →
      ∀ session ∈ ({ own with call := some next } : Local).pointers,
        session ∈ own.pointers := by
    intro next same
    exact pointers_sameSession inCall next same own.bFlag
  cases first with
  | delSession nSocket =>
      obtain ⟨-, rfl⟩ := nextTeardown_delSession advanced
      apply sourced_of_mgr
      · intro key session found
        exact Or.inl (entries_delSession _ _ _ _ found)
      · exact keeps _ rfl
  | delEvent =>
      simp only [nextTeardown, Option.some.injEq] at advanced
      rw [← advanced]
      exact sourced_of_same rfl rfl rfl rfl (keeps _ rfl)
  | fini =>
      simp only [nextTeardown, Option.some.injEq] at advanced
      rw [← advanced]
      exact sourced_of_destroyed rfl rfl rfl rfl (destroys (Or.inl rfl))
        (keeps _ rfl)
  | delete =>
      simp only [nextTeardown, Option.some.injEq] at advanced
      rw [← advanced]
      exact sourced_of_destroyed rfl rfl rfl rfl (destroys (Or.inr rfl))
        (keeps _ rfl)

/-- Going on behind a call. -/
theorem sourced_afterCall
    {call : Call}
    {done : Bool}
    {after : Shared × Local}
    (inCall : own.call = some call)
    (quiet : call.events = [])
    (advanced : afterCall shared thread own call done = some after) :
    Sourced shared thread own (.next done) after := by
  have keeps : ∀ next : Call, next.session = call.session →
      Sourced shared thread own (.next done)
        (shared, { own with call := some next }) := by
    intro next same
    exact sourced_of_same rfl rfl rfl rfl
      (pointers_sameSession inCall next same own.bFlag)
  have returned : Sourced shared thread own (.next done)
      (shared, { own with call := none }) := by
    refine sourced_of_same rfl rfl rfl rfl ?_
    intro session member
    simp only [Local.pointers, Option.map_none, Option.toList_none,
      List.append_nil] at member
    exact List.mem_append_left _ member
  cases afterCall_cases advanced with
  | giveUp | addEvent | postRecv | receive => exact keeps _ rfl
  | addSession =>
      apply sourced_of_mgr
      · intro nSocket session found
        by_cases same : nSocket = (shared.state.memory call.session).nSocket
        · subst same
          unfold TcpSessionMgr.addSession at found
          split at found
          · exact Or.inl found
          · rw [TcpSessionMgr.findSession, AList.lookup_insert,
              Option.some.injEq] at found
            exact Or.inr (found ▸ session_mem_pointers inCall)
        · rw [TcpSessionMgr.findSession_addSession_ne _ same] at found
          exact Or.inl found
      · exact pointers_sameSession inCall _ rfl own.bFlag
  | drop _ _ dropped => exact sourced_dropFailed inCall dropped
  | teardown stage advanced =>
      exact sourced_nextTeardown inCall quiet stage advanced
  | returned => exact returned

/-- A thread in the middle of a call. -/
theorem sourced_callStep
    {call : Call}
    {after : Shared × Local}
    (inCall : own.call = some call)
    (advanced : callStep shared thread own call input = some after) :
    Sourced shared thread own input after := by
  have keeps : ∀ (object : TcpSession) (next : Call),
      next.session = call.session →
        Sourced shared thread own input
          (shared.store call.session object,
            { own with call := some next }) := by
    intro object next same
    exact sourced_of_same rfl rfl rfl rfl
      (pointers_sameSession inCall next same own.bFlag)
  cases callStep_cases advanced with
  | perform _ performed => exact sourced_perform inCall performed
  | goOn quiet advanced => exact sourced_afterCall inCall quiet advanced
  | receive | send => exact keeps _ _ rfl

/-- A thread between two calls has pointers from its batch only. -/
theorem pointers_of_idle
    (idle : own.call = none)
    (session : SessionId)
    (member : session ∈ own.batch.map Prod.fst) :
    session ∈ own.pointers := by
  rw [Local.pointers, idle]
  exact List.mem_append_left _ member

/-- A new connection. -/
theorem sourced_acceptConnection
    (acceptSession : AcceptSession)
    (nAcceptSock : Int)
    (object : TcpSession) :
    Sourced shared thread own input
      (acceptConnection acceptSession shared own nAcceptSock object) := by
  have opens : ∀ (state : ServerState) (next : Call),
      state.constructed = shared.state.constructed + 1 →
        state.mgr = shared.state.mgr →
          state.kernel = shared.state.kernel.accept nAcceptSock →
            next.session = shared.state.constructed →
              Sourced shared thread own input
                ({ shared with state := state }, { own with call := some next }) := by
    intro state next constructed mgr kernel same
    have later : shared.state.constructed < state.constructed := by
      rw [constructed]
      exact Nat.lt_succ_self _
    refine ⟨later.le, ?_, ?_, ?_, fun _ member => Or.inl member⟩
    · intro session member
      simp only [Local.pointers, Option.map_some, Option.toList_some,
        List.mem_append, List.mem_singleton, same] at member ⊢
      rcases member with old | new
      · exact Or.inl (Or.inl old)
      · subst new
        exact Or.inr (Or.inr ⟨rfl, later⟩)
    · intro nSocket session found
      dsimp only at found
      rw [mgr] at found
      exact Or.inl found
    · intro modle nSocket registration registered
      dsimp only at registered
      rw [kernel] at registered
      exact Or.inl ⟨registration, registered, rfl⟩
  unfold acceptConnection
  simp only
  split
  · exact opens _ _ rfl rfl rfl rfl
  · exact opens _ _ rfl rfl rfl rfl

/-- The first fetched event is handled. -/
theorem sourced_handleFetched
    {session : SessionId}
    {event : EpollEvent}
    {batch : List (SessionId × EpollEvent)}
    {write : WriteResult}
    {sendCtl : Bool}
    {after : Shared × Local}
    (fetched : own.batch = (session, event) :: batch)
    (idle : own.call = none)
    (handled : handleFetched shared own session event batch write sendCtl =
      after) :
    Sourced shared thread own input after := by
  have pointers : ∀ (bFlag fetching : Bool) (call : Option Call),
      (∀ next, call = some next → next.session = session) →
        ∀ member ∈ (Local.mk bFlag fetching batch own.sweep call).pointers,
          member ∈ own.pointers := by
    intro bFlag fetching call same member inPointers
    apply pointers_of_idle idle
    rw [fetched, List.map_cons]
    rcases List.mem_append.mp inPointers with inBatch | inCall
    · exact List.mem_cons_of_mem _ inBatch
    · cases call with
      | none => contradiction
      | some next =>
          simp only [Option.map_some, Option.toList_some, List.mem_singleton,
            same next rfl] at inCall
          exact inCall ▸ List.mem_cons_self ..
  cases handleFetched_cases handled with
  | ignore | pointless =>
      refine sourced_of_same rfl rfl rfl rfl (pointers _ _ _ ?_)
      intro next impossible
      rw [idle] at impossible
      contradiction
  | send | receive =>
      refine sourced_of_same rfl rfl rfl rfl (pointers _ _ _ ?_)
      intro next isNext
      rw [← Option.some.inj isNext]

/-- A worker fetches an event. -/
theorem sourced_fetch
    {modle number : Nat}
    {nSocket : Int}
    {mask : EpollEvents}
    {session : SessionId}
    {event : EpollEvent}
    {kernel : Kernel}
    (fetched : shared.state.kernel.fetch modle nSocket mask =
      some (session, event, kernel)) :
    Sourced shared (.worker modle number) own (.fetch nSocket mask)
      ({ shared with state := { shared.state with kernel := kernel } },
        { own with
          fetching := true
          batch := own.batch ++ [(session, event)] }) := by
  obtain ⟨registration, registered, -, rfl, -, -⟩ :=
    Kernel.fetch_eq_some fetched
  refine ⟨le_rfl, ?_, fun _ _ found => Or.inl found, ?_,
    fun _ member => Or.inl member⟩
  · intro session member
    simp only [Local.pointers, List.map_append, List.map_cons, List.map_nil,
      List.mem_append, List.mem_singleton] at member ⊢
    rcases member with (old | new) | called
    · exact Or.inl (Or.inl old)
    · refine Or.inr (Or.inl ?_)
      simp [Shared.taken, registered, new]
    · exact Or.inl (Or.inr called)
  · intro index descriptor other found
    obtain ⟨before, old, sameSession, -, -⟩ :=
      Kernel.registered_of_fetch fetched found
    exact Or.inl ⟨before, old, sameSession⟩

/-- A thread looks at a session it has found. -/
theorem pointers_found
    {session : SessionId}
    (next : Call)
    (same : next.session = session)
    (sweep : Option (List Int))
    (known : SessionId)
    (member : known ∈ ({ own with
      sweep := sweep, call := some next } : Local).pointers) :
    known ∈ own.pointers ∨ known = session := by
  simp only [Local.pointers, Option.map_some, Option.toList_some,
    List.mem_append, List.mem_singleton, same] at member ⊢
  exact member.elim (fun old => Or.inl (Or.inl old)) Or.inr

/-- A thread goes on with a session it takes. -/
theorem sourced_taken
    {next : Call}
    (mgr : TcpSessionMgr)
    (taken : shared.taken thread own input = some next.session)
    (entries : ∀ nSocket session, mgr.findSession nSocket = some session →
      shared.state.mgr.findSession nSocket = some session)
    (sweep : Option (List Int)) :
    Sourced shared thread own input
      (shared.setMgr mgr, { own with sweep := sweep, call := some next }) := by
  refine ⟨le_rfl, ?_, fun nSocket session found =>
      Or.inl (entries nSocket session found),
    fun _ _ registration registered => Or.inl ⟨registration, registered, rfl⟩,
    fun _ member => Or.inl member⟩
  intro known member
  rcases pointers_found next rfl sweep known member with old | new
  · exact Or.inl old
  · exact Or.inr (Or.inl (new ▸ taken))

/-- A thread between two calls. -/
theorem sourced_idleStep
    {acceptSession : AcceptSession}
    {after : Shared × Local}
    (idle : own.call = none)
    (advanced : idleStep acceptSession shared thread own input = some after) :
    Sourced shared thread own input after := by
  have sweeps : ∀ (state : Shared) (sweep : Option (List Int)),
      state.state = shared.state → state.destroyers = shared.destroyers →
        Sourced shared thread own input (state, { own with sweep := sweep }) := by
    intro state sweep sameState sameDestroyers
    refine sourced_of_same ?_ ?_ ?_ sameDestroyers fun session member => member
    · rw [sameState]
    · rw [sameState]
    · rw [sameState]
  have entries : ∀ (locks : List (Lock × Thread)) (mgr : TcpSessionMgr)
      (sweep : Option (List Int)),
      (∀ nSocket session, mgr.findSession nSocket = some session →
        shared.state.mgr.findSession nSocket = some session) →
        Sourced shared thread own input
          ({ shared.setMgr mgr with locks := locks },
            { own with sweep := sweep }) := by
    intro locks mgr sweep fewer
    exact ⟨le_rfl, fun session member => Or.inl member,
      fun nSocket session found => Or.inl (fewer nSocket session found),
      fun _ _ registration registered => Or.inl ⟨registration, registered, rfl⟩,
      fun _ member => Or.inl member⟩
  cases idleStep_cases advanced with
  | accept => exact sourced_acceptConnection _ _ _
  | fetch _ _ fetched => exact sourced_fetch fetched
  | handle _ fetched handled => exact sourced_handleFetched fetched idle handled
  | @find number nSendDataLen nSessionId =>
      cases found : shared.state.mgr.findSession nSessionId with
      | none =>
          refine sourced_of_same rfl rfl rfl rfl fun known member => ?_
          simp only [Local.pointers, Option.map_none, Option.toList_none,
            List.append_nil] at member
          exact List.mem_append_left _ member
      | some session =>
          refine sourced_taken shared.state.mgr ?_ (fun _ _ found => found) _
          exact found
  | enterHeartbeat _ _ entered =>
      obtain ⟨-, rfl⟩ := enterSweep_eq_some entered
      exact sweeps _ _ rfl rfl
  | enterStop _ entered =>
      obtain ⟨-, rfl⟩ := enterSweep_eq_some entered
      exact entries _ _ _ fun _ _ found => found
  | leaveHeartbeat | passOver => exact sweeps _ _ rfl rfl
  | leaveStop =>
      apply entries
      intro nSocket session found
      simp [TcpSessionMgr.findSession] at found
  | evict sweeping found =>
      refine sourced_taken _ ?_ (entries_delSession _ _) _
      simp only [Shared.taken, sweeping, found]
  | finish sweeping found =>
      refine sourced_taken shared.state.mgr ?_ (fun _ _ found => found) _
      simp only [Shared.taken, sweeping, found]

/-- Whatever a thread does, what can be found comes from where it could be found
before. -/
theorem sourced_threadStep
    {acceptSession : AcceptSession}
    {after : Shared × Local}
    (advanced : threadStep acceptSession shared thread own input =
      some after) :
    Sourced shared thread own input after := by
  unfold threadStep at advanced
  split at advanced
  · rename_i inCall
    exact sourced_callStep inCall advanced
  · rename_i idle
    exact sourced_idleStep idle advanced

end Steps

end TransPortEngine
