import TransPortEngine.Server.Arming
import TransPortEngine.Server.FailureDispatch

/-!
# What becomes of a session whose event was handled

A one-shot descriptor is disarmed when its event is reported. Afterwards its
session has to be armed again or to be gone. The events a worker skips, and
those it handles without reading, leave the session behind disarmed; so does a
failure on a session whose address does not read back as its socket.
-/

namespace TransPortEngine

open MachineInt Transition

/-- The descriptor of the session was armed again with `EPOLL_CTL_MOD`. -/
def Rearmed
    (before : ServerState)
    (session : SessionId)
    (handled : Handled) : Prop :=
  ∃ modle event,
    .epollCtl .mod (before.memory session).nSocket event true ∈
        handled.events ∧
      handled.state.kernel.registrations modle
          (before.memory session).nSocket =
        some ⟨session, event, true⟩

/-- The session was removed from the session map, finalised and deleted. -/
structure Gone
    (before : ServerState)
    (session : SessionId)
    (handled : Handled) : Prop where
  registered : before.mgr.findSession (before.memory session).nSocket =
    some session
  removed : ∀ nSocket, handled.state.mgr.findSession nSocket ≠ some session
  finalised : .fini ∈ handled.calls
  deleted : .delete ∈ handled.calls

/-- The session is armed again or gone. -/
def Settled
    (before : ServerState)
    (session : SessionId)
    (handled : Handled) : Prop :=
  Rearmed before session handled ∨ Gone before session handled

/-- An event with which a worker gets as far as reading. -/
def EpollEvents.ReadsOn (mask : EpollEvents) : Prop :=
  mask.epollIn = true ∧ mask.skipped = false

/-! ## Open sockets -/

/-- The sockets `accept` has returned are positive. -/
def PositiveSockets (state : ServerState) : Prop :=
  ∀ nSocket ∈ state.kernel.openSockets, 0 < nSocket

/-- No socket is opened. -/
def OpensNone (before after : Kernel) : Prop :=
  ∀ nSocket ∈ after.openSockets, nSocket ∈ before.openSockets

theorem OpensNone.refl (kernel : Kernel) : OpensNone kernel kernel :=
  fun _ member => member

theorem OpensNone.trans
    {first second third : Kernel}
    (before : OpensNone first second)
    (after : OpensNone second third) :
    OpensNone first third :=
  fun nSocket member => before nSocket (after nSocket member)

theorem opensNone_perform
    (kernel : Kernel)
    (modle : Nat)
    (session : SessionId)
    (event : EngineEvent) :
    OpensNone kernel (kernel.perform modle session event) := by
  unfold Kernel.perform
  split
  · exact .refl kernel
  · exact .refl kernel
  · intro nSocket member
    exact List.mem_of_mem_filter member
  · exact .refl kernel

theorem opensNone_performAll
    (kernel : Kernel)
    (modle : Nat)
    (session : SessionId)
    (events : List EngineEvent) :
    OpensNone kernel (kernel.performAll modle session events) := by
  induction events generalizing kernel with
  | nil => exact .refl kernel
  | cons event events inductionHypothesis =>
      exact (opensNone_perform kernel modle session event).trans
        (inductionHypothesis (kernel.perform modle session event))

section Handlers

variable (state : ServerState) (modle : Nat) (session : SessionId)

theorem opensNone_teardownAll
    (done : Bool)
    (calls : List Teardown) :
    OpensNone state.kernel
      (state.teardownAll modle session done calls).1.kernel := by
  induction calls generalizing state with
  | nil => exact .refl state.kernel
  | cons call calls inductionHypothesis =>
      refine OpensNone.trans ?_ (inductionHypothesis _)
      cases call with
      | delSession nSocket => exact .refl state.kernel
      | delEvent | fini | delete => exact opensNone_performAll _ _ _ _

theorem opensNone_handleIn
    (bFlag : Bool)
    (event : EpollEvent)
    (turn : EventTurn) :
    OpensNone state.kernel
      (handleIn state modle bFlag session event turn).state.kernel := by
  have acted := opensNone_performAll state.kernel (state.bound session) session
    ((state.memory session).ioRecv turn.turns).events
  unfold handleIn
  simp only
  split
  · exact .refl state.kernel
  · split
    · split
      · exact acted.trans (opensNone_teardownAll _ modle session turn.delCtl _)
      · exact acted
    · exact acted

theorem opensNone_handleEvent
    (bFlag : Bool)
    (event : EpollEvent)
    (turn : EventTurn) :
    OpensNone state.kernel
      (handleEvent state modle bFlag session event turn).state.kernel := by
  have acted := opensNone_performAll state.kernel (state.bound session) session
    ((state.memory session).ioSendQueued turn.write turn.sendCtl).2.1
  unfold handleEvent
  split
  · exact .refl state.kernel
  · split
    · split
      · exact .refl state.kernel
      · simp only
        split
        · exact acted.trans (opensNone_teardownAll _ modle session turn.delCtl _)
        · exact acted.trans (opensNone_handleIn _ modle session false event turn)
    · exact opensNone_handleIn state modle session bFlag event turn

theorem opensNone_acceptInitialised (turn : AcceptTurn) :
    OpensNone state.kernel
      (acceptInitialised state modle session turn).1.kernel := by
  unfold acceptInitialised
  simp only
  have added := opensNone_performAll state.kernel modle session
    ((((state.addSession session).memory session)).addEvent turn.addCtl).1
  split
  · exact added.trans (opensNone_teardownAll _ modle session turn.delCtl _)
  · have posted := added.trans (opensNone_performAll _ modle session
      (((state.addSession session).memory session).postRecv turn.modCtl).1)
    split
    · exact posted.trans (opensNone_teardownAll _ modle session turn.delCtl _)
    · exact posted

theorem opensNone_visitSessions
    (acceptSession : AcceptSession)
    (visits : Int → Visit)
    (sockets : List Int) :
    OpensNone state.kernel
      (visitSessions acceptSession visits state sockets).1.kernel := by
  induction sockets generalizing state with
  | nil => exact .refl state.kernel
  | cons nSocket sockets inductionHypothesis =>
      rw [visitSessions]
      split
      · exact inductionHypothesis state
      · refine OpensNone.trans ?_ (inductionHypothesis _)
        unfold visitSession
        simp only
        split
        · split
          · exact .refl state.kernel
          · exact opensNone_teardownAll
              { state with mgr := (state.mgr.delSession nSocket).1 } _ _ _ _
        · exact .refl state.kernel

end Handlers

/-- A new connection opens its socket only. -/
theorem positiveSockets_acceptOne
    {state : ServerState}
    (acceptSession : AcceptSession)
    (turn : AcceptTurn)
    (positive : PositiveSockets state) :
    PositiveSockets (acceptOne acceptSession state turn).1 := by
  unfold acceptOne
  split
  · exact positive
  · rename_i accepted
    have constructed : ∀ object : TcpSession,
        PositiveSockets (state.construct turn.nAcceptSock object) := by
      intro object nSocket member
      rcases List.mem_cons.mp member with new | old
      · omega
      · exact positive nSocket old
    simp only
    split
    · intro nSocket member
      exact constructed _ nSocket (opensNone_teardownAll _ _ _ _ _ _ member)
    · intro nSocket member
      apply constructed
        (TcpSession.construct turn.garbage turn.address turn.now) nSocket
      split at member
      · exact opensNone_performAll _ _ _ _ nSocket
          (opensNone_teardownAll _ _ _ _ _ nSocket member)
      · exact opensNone_performAll _ _ _ _ nSocket
          (opensNone_acceptInitialised _ _ _ _ nSocket member)

/-- Every handler keeps the sockets positive. -/
theorem positiveSockets_dispatchStep
    {acceptSession : AcceptSession}
    {state next : DispatchState}
    {label : DispatchLabel}
    (positive : PositiveSockets state.server)
    (stepped : dispatchStep acceptSession state label = some next) :
    PositiveSockets next.server := by
  cases dispatchStep_cases stepped with
  | accept => exact positiveSockets_acceptOne acceptSession _ positive
  | event handling =>
      obtain ⟨event, kernel, fetched, rfl, -⟩ :=
        ServerState.handle_eq_some handling
      have opensNone : OpensNone state.server.kernel kernel := by
        obtain ⟨_, -, -, -, -, isKernel⟩ := Kernel.fetch_eq_some fetched
        rw [isKernel]
        exact .refl state.server.kernel
      intro known member
      exact positive known (opensNone known
        (opensNone_handleEvent _ _ _ _ _ _ known member))
  | heartbeat =>
      intro nSocket member
      exact positive nSocket
        (opensNone_visitSessions _ acceptSession _ _ nSocket member)

/-! ## Handlers that leave the session behind -/

section Left

variable {before : ServerState} {session : SessionId} {handled : Handled}

/-- A handler that arms nothing and leaves the entry has not settled the
session. -/
theorem not_settled
    (quiet : ∀ event ∈ handled.events, ¬event.Arms)
    (stays : handled.state.mgr.findSession
      (before.memory session).nSocket = some session) :
    ¬Settled before session handled := by
  rintro (⟨modle, event, armed, -⟩ | gone)
  · exact quiet _ armed trivial
  · exact gone.removed _ stays

theorem teardownAll_arms_none
    (state : ServerState)
    (modle : Nat)
    (session : SessionId)
    (done : Bool)
    (calls : List Teardown) :
    ∀ event ∈ (state.teardownAll modle session done calls).2, ¬event.Arms := by
  induction calls generalizing state with
  | nil => exact plainEvents_nil.arms_none
  | cons call calls inductionHypothesis =>
      intro event member
      rcases List.mem_append.mp member with first | later
      · cases call with
        | delSession nSocket =>
            have plain : PlainEvents (tcpSessionMgrLocked []) :=
              .cons trivial (.cons trivial plainEvents_nil)
            exact plain.arms_none event first
        | delEvent =>
            rw [List.mem_singleton.mp first]
            exact id
        | fini => exact fini_arms_none _ event first
        | delete => exact delete_arms_none _ event first
      · exact inductionHypothesis _ event later

/-- A handler that does not get as far as reading. -/
theorem not_settled_unread
    {state : ServerState}
    {modle : Nat}
    {bFlag : Bool}
    {event : EpollEvent}
    {turn : EventTurn}
    (empty : (state.memory session).sendBufs = [])
    (found : state.mgr.findSession (before.memory session).nSocket =
      some session)
    (unread : event.ptr = 0 ∨ ¬event.events.ReadsOn) :
    ¬Settled before session
      (handleEvent state modle bFlag session event turn) := by
  have skips : ∀ flag returned failed,
      ¬Settled before session ⟨state, flag, [], returned, failed, []⟩ := by
    intro flag returned failed
    exact not_settled plainEvents_nil.arms_none found
  unfold handleEvent
  cases skipped : event.events.skipped with
  | true => exact skips _ _ _
  | false =>
      have notIn : event.events.epollIn = false ∨ event.ptr = 0 := by
        rcases unread with noPtr | notOn
        · exact Or.inr noPtr
        · refine Or.inl (Bool.eq_false_iff.mpr ?_)
          exact fun isIn => notOn ⟨isIn, skipped⟩
      rw [if_neg Bool.false_ne_true]
      split
      · split
        · exact skips _ _ _
        · rw [TcpSession.ioSendQueued_of_empty empty]
          simp only [lt_irrefl, if_false]
          rw [handleIn, if_pos notIn]
          have plain : PlainEvents ([.lock .sendBufLock, .unlock .sendBufLock] ++
              ([] : List EngineEvent)) :=
            .cons trivial (.cons trivial plainEvents_nil)
          exact not_settled plain.arms_none found
      · rw [handleIn, if_pos notIn]
        exact skips _ _ _

/-- A worker that finds the connection closed does not arm the session. -/
theorem handleEvent_closed_arms_none
    (state : ServerState)
    (modle : Nat)
    (bFlag : Bool)
    (event : EpollEvent)
    (empty : (state.memory session).sendBufs = []) :
    ∀ done ∈ (handleEvent state modle bFlag session event closedTurn).events,
      ¬done.Arms := by
  have handlesIn : ∀ (state : ServerState) (bFlag : Bool),
      ∀ done ∈ (handleIn state modle bFlag session event closedTurn).events,
        ¬done.Arms := by
    intro state bFlag done member
    unfold handleIn at member
    split at member
    · contradiction
    · rcases List.mem_append.mp member with isRead | given
      · rw [List.mem_singleton.mp isRead]
        exact id
      · exact teardownAll_arms_none _ _ _ _ _ done given
  intro done member
  unfold handleEvent at member
  split at member
  · contradiction
  · split at member
    · split at member
      · contradiction
      · rw [TcpSession.ioSendQueued_of_empty empty] at member
        simp only [lt_irrefl, if_false] at member
        rcases List.mem_append.mp member with locks | read
        · have plain : PlainEvents [.lock .sendBufLock, .unlock .sendBufLock] :=
            .cons trivial (.cons trivial plainEvents_nil)
          exact plain.arms_none done locks
        · exact handlesIn _ _ done read
    · exact handlesIn _ _ done member

end Left

/-- A worker that finds the connection closed handles the event to its end, and
removes at most the entry for `data.fd`. -/
theorem handleEvent_closed
    (state : ServerState)
    (modle : Nat)
    (bFlag : Bool)
    (session : SessionId)
    (event : EpollEvent)
    (empty : (state.memory session).sendBufs = []) :
    let handled := handleEvent state modle bFlag session event closedTurn
    handled.returned = true ∧
      (handled.state.mgr = state.mgr ∨
        handled.state.mgr = (state.mgr.delSession event.fd).1) := by
  have handlesIn : ∀ (state : ServerState) (bFlag : Bool),
      let handled := handleIn state modle bFlag session event closedTurn
      handled.returned = true ∧
        (handled.state.mgr = state.mgr ∨
          handled.state.mgr = (state.mgr.delSession event.fd).1) := by
    intro state bFlag
    unfold handleIn
    simp only
    split
    · exact ⟨rfl, Or.inl rfl⟩
    · exact ⟨rfl, Or.inr (mgr_handleFailure _ session modle bFlag _ _)⟩
  unfold handleEvent
  simp only
  split
  · exact ⟨rfl, Or.inl rfl⟩
  · split
    · split
      · exact ⟨rfl, Or.inl rfl⟩
      · rw [TcpSession.ioSendQueued_of_empty empty]
        simp only [lt_irrefl, if_false]
        exact handlesIn _ false
    · exact handlesIn state bFlag

/-! ## Handlers that settle the session -/

/-- A call of `TcpSession_IORecv()` that succeeds ends with arming the
descriptor. -/
theorem TcpSession.ioRecv_rearms
    {session : TcpSession}
    {turns : List RecvTurn}
    {nRet : Int}
    (returned : (session.ioRecv turns).result = .returned nRet)
    (succeeded : ¬nRet < 0) :
    ∃ events, (session.ioRecv turns).events =
      events ++ [.epollCtl .mod session.nSocket session.eventAdd true] := by
  induction turns generalizing session with
  | nil => contradiction
  | cons turn turns inductionHypothesis =>
      rw [ioRecv] at returned ⊢
      rcases session.ioRecvPass_cases turn with drained | quiet
      · simp only [drained] at returned ⊢
        have isRet := CallResult.returned.inj returned
        cases done : turn.epollCtl with
        | true => exact ⟨[.read session.nSocket], rfl⟩
        | false =>
            rw [done] at isRet
            have failed : -1 = nRet := isRet
            omega
      · rcases quiet.ending with isLoop | ⟨left, negative, isLeave⟩
        · rw [isLoop] at returned ⊢
          obtain ⟨events, later⟩ := inductionHypothesis returned
          simp only at later ⊢
          rw [later, quiet.same.nSocket, quiet.same.eventAdd_eq,
            ← List.append_assoc]
          exact ⟨_, rfl⟩
        · rw [isLeave] at returned
          have isRet := CallResult.returned.inj returned
          exact absurd (isRet ▸ negative) succeeded

section Settling

variable {state : ServerState} {session : SessionId}

/-- The branch for `EPOLLIN`, when it succeeds. -/
theorem rearmed_handleIn
    {before : ServerState}
    {modle : Nat}
    {bFlag : Bool}
    {event : EpollEvent}
    {turn : EventTurn}
    (sameSocket :
      (before.memory session).nSocket = (state.memory session).nSocket)
    (isIn : event.events.epollIn = true)
    (isPtr : event.ptr ≠ 0)
    (returned :
      (handleIn state modle bFlag session event turn).returned = true)
    (succeeded :
      (handleIn state modle bFlag session event turn).failed = false) :
    Rearmed before session (handleIn state modle bFlag session event turn) := by
  have reads : ¬(event.events.epollIn = false ∨ event.ptr = 0) := by
    rintro (notIn | noPtr)
    · rw [isIn] at notIn
      contradiction
    · exact isPtr noPtr
  unfold handleIn at returned succeeded ⊢
  rw [if_neg reads] at returned succeeded ⊢
  simp only at returned succeeded ⊢
  cases result : ((state.memory session).ioRecv turn.turns).result with
  | returned nRet =>
      simp only [result] at succeeded ⊢
      by_cases negative : nRet < 0
      · rw [if_pos negative] at succeeded
        contradiction
      · rw [if_neg negative]
        obtain ⟨events, isEvents⟩ := TcpSession.ioRecv_rearms result negative
        refine ⟨state.bound session, (state.memory session).eventAdd, ?_, ?_⟩
        · rw [isEvents, sameSocket]
          exact List.mem_append_right _ (List.mem_singleton_self _)
        · rw [isEvents, sameSocket]
          simp [ServerState.act, Kernel.performAll, Kernel.perform,
            Kernel.register]
  | pending =>
      simp only [result] at returned
      contradiction
  | fault =>
      simp only [result] at returned
      contradiction

/-- An event with which a worker reads, when it is handled without a
failure. -/
theorem rearmed_handleEvent
    {before : ServerState}
    {modle : Nat}
    {bFlag : Bool}
    {event : EpollEvent}
    {turn : EventTurn}
    (sameSocket :
      (before.memory session).nSocket = (state.memory session).nSocket)
    (empty : (state.memory session).sendBufs = [])
    (readsOn : event.events.ReadsOn)
    (isPtr : event.ptr ≠ 0)
    (returned :
      (handleEvent state modle bFlag session event turn).returned = true)
    (succeeded :
      (handleEvent state modle bFlag session event turn).failed = false) :
    Rearmed before session
      (handleEvent state modle bFlag session event turn) := by
  unfold handleEvent at returned succeeded ⊢
  rw [readsOn.2, if_neg Bool.false_ne_true] at returned succeeded ⊢
  by_cases isOut : event.events.epollOut = true
  · have nothing := TcpSession.ioSendQueued_of_empty empty turn.write turn.sendCtl
    rw [if_pos isOut, if_neg isPtr, nothing] at returned succeeded ⊢
    simp only [lt_irrefl, if_false] at returned succeeded ⊢
    have rearmed : Rearmed before session _ :=
      rearmed_handleIn (by rw [memory_act, sameSocket]) readsOn.1 isPtr returned
        succeeded
    obtain ⟨index, armed, isMember, isArmed⟩ := rearmed
    exact ⟨index, armed, List.mem_append_right _ isMember, isArmed⟩
  · rw [if_neg isOut] at returned succeeded ⊢
    exact rearmed_handleIn sameSocket readsOn.1 isPtr returned succeeded

end Settling

/-- A session that was given up as it should be is gone. -/
theorem RemovesExactly.gone
    {before : ServerState}
    {session : SessionId}
    {handled : Handled}
    (registry : Registry before)
    (removes : RemovesExactly before session handled) :
    Gone before session handled := by
  refine ⟨removes.registered, ?_, ?_, ?_⟩
  · intro nSocket found
    by_cases same : nSocket = (before.memory session).nSocket
    · rw [same, removes.removed] at found
      contradiction
    · rw [removes.others nSocket same] at found
      exact same (registry.entry nSocket session found).2.1.symm
  · exact List.count_pos_iff.mp (by rw [removes.finalised]; omega)
  · exact List.count_pos_iff.mp (by rw [removes.deleted]; omega)

/-- As long as every failure so far was on a session whose address reads back as
its socket, an event settles its session whatever the calls of the handler
return, exactly when the worker reads on the event and the address of the
session reads back as its socket. -/
theorem settled_iff_readsOn
    (acceptSession : AcceptSession)
    (memory : SessionId → TcpSession)
    (bIsHeartbeat : Bool)
    (labels : List DispatchLabel)
    (state : DispatchState)
    (onMatch : Throughout (dispatchStep acceptSession) FailsOnMatch
      (DispatchState.initial memory bIsHeartbeat) labels)
    (reached : run (dispatchStep acceptSession)
      (DispatchState.initial memory bIsHeartbeat) labels = some state)
    (worker : Nat × Nat)
    (nSocket : Int)
    (mask : EpollEvents)
    (session : SessionId)
    (event : EpollEvent)
    (kernel : Kernel)
    (fetched : state.server.kernel.fetch worker.1 nSocket mask =
      some (session, event, kernel)) :
    (∀ turn handled,
      state.server.handle worker.1 (state.bFlags worker) nSocket mask turn =
          some (session, handled) →
        Settled state.server session handled) ↔
      mask.ReadsOn ∧ AddressIsSocket (state.server.memory session) := by
  have registry := invariant_of_run
    (fun _ _ _ kept condition stepped =>
      registry_dispatchStep kept condition stepped)
    (registry_initial memory bIsHeartbeat) onMatch reached
  have start : PositiveSockets (DispatchState.initial memory bIsHeartbeat).server :=
    fun nSocket impossible => absurd impossible List.not_mem_nil
  have positive := invariant_of_run
    (fun _ _ _ kept _ stepped => positiveSockets_dispatchStep kept stepped)
    start onMatch reached
  obtain ⟨kept, found, pointer⟩ := registry.fetch fetched
  have entry := registry.entry nSocket session found
  have isMask : event.events = mask := by
    obtain ⟨_, -, -, -, isEvent, -⟩ := Kernel.fetch_eq_some fetched
    rw [isEvent]
  have isFd : event.fd = signed32 (state.server.memory session).address :=
    congrArg signed32 (congrArg Nat.cast pointer)
  have handle_eq : ∀ turn, state.server.handle worker.1 (state.bFlags worker)
      nSocket mask turn =
        let handled := handleEvent { state.server with kernel := kernel }
          worker.1 (state.bFlags worker) session event turn
        if handled.returned then some (session, handled) else none := by
    intro turn
    rw [ServerState.handle, fetched]
  rw [← entry.2.1] at found
  constructor
  · intro settles
    have closed := handleEvent_closed { state.server with kernel := kernel }
      worker.1 (state.bFlags worker) session event entry.2.2.1
    have handling := handle_eq closedTurn
    simp only at closed handling
    rw [if_pos closed.1] at handling
    have settled := settles closedTurn _ handling
    have readsOn : mask.ReadsOn := by
      by_contra notOn
      rw [← isMask] at notOn
      have unread : ¬Settled state.server session (handleEvent
          { state.server with kernel := kernel } worker.1 (state.bFlags worker)
          session event closedTurn) :=
        not_settled_unread entry.2.2.1 found (Or.inr notOn)
      exact unread settled
    refine ⟨readsOn, ?_⟩
    by_contra mismatch
    rw [AddressIsSocket, ← isFd] at mismatch
    have quiet := handleEvent_closed_arms_none
      { state.server with kernel := kernel } worker.1 (state.bFlags worker) event
      entry.2.2.1
    refine not_settled quiet ?_ settled
    rcases closed.2 with same | removed
    · rw [same]
      exact found
    · rw [removed, TcpSessionMgr.findSession_delSession_ne _ (Ne.symm mismatch)]
      exact found
  · rintro ⟨readsOn, matched⟩ turn handled handling
    have cases := handle_cases registry handling
    rw [AddressIsSocket] at matched
    rcases cases.2 with ⟨succeeded, -⟩ | ⟨-, gives⟩
    · have isPtr : event.ptr ≠ 0 := by
        rw [pointer]
        intro isZero
        have valid := positive nSocket entry.2.2.2.1
        rw [isZero, entry.2.1] at matched
        have zero : signed32 ((0 : Nat) : Int) = 0 := by decide
        omega
      have isHandling := (handle_eq turn).symm.trans handling
      simp only at isHandling
      split at isHandling
      · rename_i returned
        obtain ⟨-, rfl⟩ := Prod.mk.inj (Option.some.inj isHandling)
        rw [← isMask] at readsOn
        exact Or.inl (rearmed_handleEvent rfl entry.2.2.1 readsOn isPtr returned
          succeeded)
      · exact absurd isHandling.symm (Option.some_ne_none _)
    · refine Or.inr (RemovesExactly.gone registry ?_)
      exact (gives.removesExactly_iff found).mpr matched

/-! ## A connection on which data or a hangup is reported -/

/-- The mask of an event that announces data and a hangup. -/
def inAndHup : EpollEvents :=
  { onlyIn with epollHup := true }

theorem settled_lowAddress :
    ∃ state session event kernel, acceptedAt 0x500000010 = some state ∧
      state.server.kernel.fetch 0 16 onlyIn = some (session, event, kernel) ∧
        ∀ turn handled, state.server.handle 0 false 16 onlyIn turn =
            some (session, handled) →
          Settled state.server session handled := by
  have low : signed32 (0x500000010 : Nat) = 16 := by decide
  exact ⟨_, _, _, _, rfl, rfl,
    (settled_iff_readsOn oneModle blankMemory true
      [.accept (acceptAt 0x500000010)] _
      (throughout_cons rfl trivial trivial) rfl (0, 0) 16 onlyIn _ _ _
      rfl).mpr ⟨⟨rfl, rfl⟩, low⟩⟩

/-- When the peer hangs up, the session stays disarmed and in the map. -/
theorem not_settled_hangup :
    ¬∀ (acceptSession : AcceptSession) (memory : SessionId → TcpSession)
        (bIsHeartbeat : Bool) (labels : List DispatchLabel)
        (state : DispatchState) (worker : Nat × Nat) (nSocket : Int)
        (mask : EpollEvents) (turn : EventTurn) (session : SessionId)
        (handled : Handled),
      run (dispatchStep acceptSession)
          (DispatchState.initial memory bIsHeartbeat) labels = some state →
        state.server.handle worker.1 (state.bFlags worker) nSocket mask turn =
            some (session, handled) →
          Settled state.server session handled := by
  intro always
  have settled := always oneModle blankMemory true
    [.accept (acceptAt 0x7f0000001010)] _ (0, 0) 16 inAndHup closedTurn _ _ rfl
    rfl
  rcases settled with ⟨modle, event, armed, -⟩ | gone
  · exact absurd armed List.not_mem_nil
  · exact absurd gone.finalised List.not_mem_nil

end TransPortEngine
