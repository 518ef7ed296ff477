import TransPortEngine.Library.Transition
import TransPortEngine.Server.Registry

/-!
# Giving up a session after a failure

When a call on a session fails, the worker removes the session from the manager
by `data.fd` of the event. The union holds the address of the session at that
time, so the right entry is removed exactly when the lower half of the address
happens to be the socket.
-/

namespace TransPortEngine

open MachineInt Transition

/-- A worker of a net event module fetches an event and handles it. -/
def ServerState.handle
    (state : ServerState)
    (modle : Nat)
    (bFlag : Bool)
    (nSocket : Int)
    (mask : EpollEvents)
    (turn : EventTurn) : Option (SessionId × Handled) :=
  match state.kernel.fetch modle nSocket mask with
  | none => none
  | some (session, event, kernel) =>
      let handled := handleEvent { state with kernel := kernel } modle bFlag
        session event turn
      if handled.returned then some (session, handled) else none

/-- A server between two handlers. Each worker keeps its `bFlag` from one event
to the next; a worker is named by its module and its number there. -/
structure DispatchState where
  server : ServerState
  bFlags : Nat × Nat → Bool

/-- The start of a server. -/
def DispatchState.initial
    (memory : SessionId → TcpSession)
    (bIsHeartbeat : Bool) : DispatchState :=
  ⟨.initial memory bIsHeartbeat, fun _ => false⟩

/-- What happens next. -/
inductive DispatchLabel
  | accept (turn : AcceptTurn)
  | event
      (worker : Nat × Nat)
      (nSocket : Int)
      (mask : EpollEvents)
      (turn : EventTurn)
  | heartbeat (visits : Int → Visit)

/-- One handler runs. A new connection has a descriptor that is not open, and
`new` never returns a null pointer. -/
def dispatchStep
    (acceptSession : AcceptSession)
    (state : DispatchState)
    (label : DispatchLabel) : Option DispatchState :=
  match label with
  | .accept turn =>
      if turn.nAcceptSock ∈ state.server.kernel.openSockets ∨
          turn.address = 0 then none
      else
        some { state with
          server := (acceptOne acceptSession state.server turn).1 }
  | .event worker nSocket mask turn =>
      match state.server.handle worker.1 (state.bFlags worker) nSocket mask
          turn with
      | none => none
      | some (_, handled) =>
          some ⟨handled.state,
            Function.update state.bFlags worker handled.bFlag⟩
  | .heartbeat visits =>
      if state.server.mgr.bIsHeartbeat then
        some { state with
          server := (heartbeatDetection acceptSession state.server visits).1 }
      else none

/-- What a worker handles is an event it has fetched. -/
theorem ServerState.handle_eq_some
    {state : ServerState}
    {modle : Nat}
    {bFlag : Bool}
    {nSocket : Int}
    {mask : EpollEvents}
    {turn : EventTurn}
    {session : SessionId}
    {handled : Handled}
    (handling : state.handle modle bFlag nSocket mask turn =
      some (session, handled)) :
    ∃ event kernel,
      state.kernel.fetch modle nSocket mask = some (session, event, kernel) ∧
        handled = handleEvent { state with kernel := kernel } modle bFlag
          session event turn ∧
        handled.returned = true := by
  unfold ServerState.handle at handling
  split at handling
  · contradiction
  · rename_i fetchedSession event kernel fetched
    dsimp only at handling
    split at handling
    · rename_i returned
      simp only [Option.some.injEq, Prod.mk.injEq] at handling
      obtain ⟨rfl, rfl⟩ := handling
      exact ⟨event, kernel, fetched, rfl, returned⟩
    · contradiction

/-- What a handler does, with what has been checked before it runs. -/
inductive DispatchStep
    (acceptSession : AcceptSession)
    (state : DispatchState) : DispatchLabel → DispatchState → Prop
  | accept
      {turn : AcceptTurn}
      (new : turn.nAcceptSock ∉ state.server.kernel.openSockets)
      (allocated : turn.address ≠ 0) :
      DispatchStep acceptSession state (.accept turn)
        { state with server := (acceptOne acceptSession state.server turn).1 }
  | event
      {worker : Nat × Nat}
      {nSocket : Int}
      {mask : EpollEvents}
      {turn : EventTurn}
      {session : SessionId}
      {handled : Handled}
      (handling : state.server.handle worker.1 (state.bFlags worker) nSocket
        mask turn = some (session, handled)) :
      DispatchStep acceptSession state (.event worker nSocket mask turn)
        ⟨handled.state, Function.update state.bFlags worker handled.bFlag⟩
  | heartbeat
      {visits : Int → Visit}
      (running : state.server.mgr.bIsHeartbeat = true) :
      DispatchStep acceptSession state (.heartbeat visits)
        { state with
          server := (heartbeatDetection acceptSession state.server visits).1 }

theorem dispatchStep_cases
    {acceptSession : AcceptSession}
    {state next : DispatchState}
    {label : DispatchLabel}
    (stepped : dispatchStep acceptSession state label = some next) :
    DispatchStep acceptSession state label next := by
  unfold dispatchStep at stepped
  split at stepped
  · split at stepped
    · contradiction
    · rename_i possible
      push Not at possible
      exact Option.some.inj stepped ▸ .accept possible.1 possible.2
  · split at stepped
    · contradiction
    · rename_i handling
      exact Option.some.inj stepped ▸ .event handling
  · split at stepped
    · rename_i running
      exact Option.some.inj stepped ▸ .heartbeat running
    · contradiction

/-- A failure on a session has been handled as it should: its entry is gone and
no other, its descriptor is not registered, and it was finalised and deleted
once. -/
structure RemovesExactly
    (before : ServerState)
    (session : SessionId)
    (handled : Handled) : Prop where
  registered : before.mgr.findSession (before.memory session).nSocket =
    some session
  removed :
    handled.state.mgr.findSession (before.memory session).nSocket = none
  others : ∀ nSocket, nSocket ≠ (before.memory session).nSocket →
    handled.state.mgr.findSession nSocket = before.mgr.findSession nSocket
  deregistered : ∀ modle, handled.state.kernel.registrations modle
    (before.memory session).nSocket = none
  finalised : handled.calls.count .fini = 1
  deleted : handled.calls.count .delete = 1

/-- What `data.fd` of an event for the session reads back (`fd_eventAdd`) is its
socket. -/
def AddressIsSocket (object : TcpSession) : Prop :=
  signed32 object.address = object.nSocket

/-- If the handler that runs next fails on a session, `data.fd` is its
socket. -/
def FailsOnMatch (state : DispatchState) (label : DispatchLabel) : Prop :=
  match label with
  | .event worker nSocket mask turn =>
      ∀ session handled,
        state.server.handle worker.1 (state.bFlags worker) nSocket mask turn =
            some (session, handled) →
          handled.failed = true →
            AddressIsSocket (state.server.memory session)
  | _ => True

/-! ## What the handlers preserve -/

section Handlers

variable {state : ServerState} {session : SessionId}

/-- Fetching an event changes only whether the descriptor is armed. -/
theorem Registry.fetch
    {modle : Nat}
    {nSocket : Int}
    {mask : EpollEvents}
    {event : EpollEvent}
    {kernel : Kernel}
    (registry : Registry state)
    (fetched : state.kernel.fetch modle nSocket mask =
      some (session, event, kernel)) :
    Registry { state with kernel := kernel } ∧
      state.mgr.findSession nSocket = some session ∧
      event.ptr = (state.memory session).address := by
  obtain ⟨registration, registered, -, rfl, rfl, isKernel⟩ :=
    Kernel.fetch_eq_some fetched
  have known := registry.registration modle nSocket registration registered
  have entry := registry.entry
  have sockets : kernel.openSockets = state.kernel.openSockets := by
    rw [isKernel]
    rfl
  rw [← sockets] at entry
  refine ⟨⟨entry, ?_⟩, known.1, known.2⟩
  intro index descriptor other found
  obtain ⟨before, old, sameSession, sameEvent, -⟩ :=
    Kernel.registered_of_fetch fetched found
  rw [← sameSession, ← sameEvent]
  exact registry.registration index descriptor before old

/-- The manager after the calls of a failed handler. -/
theorem mgr_handleFailure
    (state : ServerState)
    (session : SessionId)
    (modle : Nat)
    (bFlag : Bool)
    (nSock : Int)
    (delCtl : Bool) :
    (handleFailure state modle bFlag session nSock delCtl).state.mgr =
      (state.mgr.delSession nSock).1 := by
  unfold handleFailure
  simp only
  split
  · split
    · rfl
    · rfl
  · rfl

/-- A failure on a known session is handled as it should exactly when it is
removed by its own socket. -/
theorem removesExactly_handleFailure_iff
    {before : ServerState}
    {modle : Nat}
    {bFlag : Bool}
    {nSock : Int}
    {delCtl : Bool}
    {handled : Handled}
    (registry : Registry state)
    (found : state.mgr.findSession (state.memory session).nSocket = some session)
    (sameMgr : before.mgr = state.mgr)
    (sameSocket :
      (before.memory session).nSocket = (state.memory session).nSocket)
    (sameState : handled.state =
      (handleFailure state modle bFlag session nSock delCtl).state)
    (sameCalls : handled.calls =
      (handleFailure state modle bFlag session nSock delCtl).calls) :
    RemovesExactly before session handled ↔
      nSock = (state.memory session).nSocket := by
  have mgr := mgr_handleFailure state session modle bFlag nSock delCtl
  constructor
  · intro removes
    by_contra different
    have removed := removes.removed
    rw [sameState, mgr, sameSocket,
      state.mgr.findSession_delSession_ne (Ne.symm different), found] at removed
    contradiction
  · rintro rfl
    have deletable :
        ¬(state.mgr.delSession (state.memory session).nSocket).2 < 0 := by
      have zero := (state.mgr.delSession_eq_zero_iff
        (state.memory session).nSocket).mpr (by rw [found]; rfl)
      omega
    have valid := (registry.entry _ session found).2.2.2.2
    have drops := drops_handleFailure state modle session delCtl valid rfl
    have stateEq : handled.state = (state.teardownAll modle session delCtl
        [.delSession (state.memory session).nSocket, .delEvent, .fini,
          .delete]).1 := by
      rw [sameState]
      simp only [handleFailure, if_neg deletable]
    have callsEq : handled.calls =
        [.delSession (state.memory session).nSocket, .delEvent, .fini,
          .delete] := by
      rw [sameCalls]
      simp only [handleFailure, if_neg deletable]
    refine ⟨?_, ?_, ?_, ?_, ?_, ?_⟩
    · rw [sameMgr, sameSocket, found]
    · rw [stateEq, drops.find, sameSocket, if_pos rfl]
    · intro nSocket different
      rw [sameSocket] at different
      rw [stateEq, drops.find, if_neg different, sameMgr]
    · intro index
      rw [stateEq, drops.registrations, sameSocket, if_pos rfl]
    · rw [callsEq]
      rfl
    · rw [callsEq]
      rfl

/-- A handler gives up the session it was called for, at a state in which the
manager is still as before. -/
def GivesUp
    (before : ServerState)
    (session : SessionId)
    (nSock : Int)
    (handled : Handled) : Prop :=
  ∃ state modle bFlag delCtl,
    Registry state ∧ state.mgr = before.mgr ∧
      (before.memory session).SameIdentity (state.memory session) ∧
      handled.state =
        (handleFailure state modle bFlag session nSock delCtl).state ∧
      handled.calls =
        (handleFailure state modle bFlag session nSock delCtl).calls

/-- What a function has made of a session is stored. -/
theorem memory_act
    (state : ServerState)
    (modle : Nat)
    (session : SessionId)
    (object : TcpSession)
    (events : List EngineEvent) :
    (state.act modle session object events).memory session = object :=
  Function.update_self ..

/-- The branch for `EPOLLIN` either succeeds or gives up the session. -/
theorem handleIn_cases
    (registry : Registry state)
    (found : state.mgr.findSession (state.memory session).nSocket = some session)
    (modle : Nat)
    (bFlag : Bool)
    (event : EpollEvent)
    (turn : EventTurn) :
    let handled := handleIn state modle bFlag session event turn
    handled.failed = false ∧ Registry handled.state ∨
      handled.failed = true ∧ GivesUp state session event.fd handled := by
  have effects := (state.memory session).ioRecv_effects turn.turns
  have kept := registry.act found effects.1 effects.2 (state.bound session)
  unfold handleIn
  simp only
  split
  · exact Or.inl ⟨rfl, registry⟩
  · split
    · split
      · refine Or.inr ⟨rfl, _, modle, bFlag, turn.delCtl, kept, rfl, ?_, rfl, rfl⟩
        rw [memory_act]
        exact effects.1
      · exact Or.inl ⟨rfl, kept⟩
    · exact Or.inl ⟨rfl, kept⟩

/-- A handler for one event either succeeds or gives up the session. -/
theorem handleEvent_cases
    (registry : Registry state)
    (found : state.mgr.findSession (state.memory session).nSocket = some session)
    (modle : Nat)
    (bFlag : Bool)
    (event : EpollEvent)
    (turn : EventTurn) :
    let handled := handleEvent state modle bFlag session event turn
    handled.failed = false ∧ Registry handled.state ∨
      handled.failed = true ∧ GivesUp state session event.fd handled := by
  have empty := (registry.entry _ session found).2.2.1
  unfold handleEvent
  simp only
  split
  · exact Or.inl ⟨rfl, registry⟩
  · split
    · split
      · exact Or.inl ⟨rfl, registry⟩
      · rw [TcpSession.ioSendQueued_of_empty empty]
        simp only [lt_irrefl, if_false]
        -- the queue is empty: only the lock was taken
        have same : ((state.act (state.bound session) session
            (state.memory session)
            [.lock .sendBufLock, .unlock .sendBufLock])) = state := by
          simp only [ServerState.act, ServerState.store, Function.update_eq_self]
          rfl
        rw [same]
        exact handleIn_cases registry found modle false event turn
    · exact handleIn_cases registry found modle bFlag event turn

/-- The event a worker handles is one of a session the manager knows, and
`data.fd` is the lower half of its address. -/
theorem handle_cases
    {modle : Nat}
    {bFlag : Bool}
    {nSocket : Int}
    {mask : EpollEvents}
    {turn : EventTurn}
    {handled : Handled}
    (registry : Registry state)
    (handling : state.handle modle bFlag nSocket mask turn =
      some (session, handled)) :
    state.mgr.findSession (state.memory session).nSocket = some session ∧
      (handled.failed = false ∧ Registry handled.state ∨
        handled.failed = true ∧
          GivesUp state session (signed32 (state.memory session).address)
            handled) := by
  obtain ⟨event, kernel, fetched, rfl, -⟩ := ServerState.handle_eq_some handling
  obtain ⟨kept, found, pointer⟩ := registry.fetch fetched
  have socket := (registry.entry nSocket session found).2.1
  rw [← socket] at found
  refine ⟨found, ?_⟩
  have cases := handleEvent_cases kept found modle bFlag event turn
  have descriptor : event.fd = signed32 (state.memory session).address :=
    congrArg signed32 (congrArg Nat.cast pointer)
  rw [← descriptor]
  exact cases

/-- The key of a session that is given up is its socket exactly when it is
removed as it should be. -/
theorem GivesUp.removesExactly_iff
    {nSock : Int}
    {handled : Handled}
    (gives : GivesUp state session nSock handled)
    (found : state.mgr.findSession (state.memory session).nSocket =
      some session) :
    RemovesExactly state session handled ↔
      nSock = (state.memory session).nSocket := by
  obtain ⟨middle, modle, bFlag, delCtl, kept, mgr, same, stateEq, callsEq⟩ := gives
  rw [← same.nSocket]
  apply removesExactly_handleFailure_iff kept ?_ mgr.symm same.nSocket.symm
    stateEq callsEq
  rw [mgr, same.nSocket]
  exact found

/-- A session given up by its own socket leaves the others in agreement. -/
theorem GivesUp.registry
    {handled : Handled}
    (gives : GivesUp state session (state.memory session).nSocket handled)
    (found : state.mgr.findSession (state.memory session).nSocket =
      some session) :
    Registry handled.state := by
  obtain ⟨middle, modle, bFlag, delCtl, kept, mgr, same, stateEq, -⟩ := gives
  rw [← mgr, ← same.nSocket] at found
  have deletable :
      ¬(middle.mgr.delSession (middle.memory session).nSocket).2 < 0 := by
    have zero := (middle.mgr.delSession_eq_zero_iff
      (middle.memory session).nSocket).mpr (by rw [found]; rfl)
    omega
  have valid := (kept.entry _ session found).2.2.2.2
  rw [stateEq, ← same.nSocket]
  simp only [handleFailure, if_neg deletable]
  exact kept.drops rfl (drops_handleFailure middle modle session delCtl valid rfl)

/-- Two functions of a session that leave the same object, one after the
other. -/
theorem act_act
    (state : ServerState)
    (modle : Nat)
    (session : SessionId)
    (object : TcpSession)
    (first second : List EngineEvent) :
    (state.act modle session object first).act modle session object second =
      state.act modle session object (first ++ second) := by
  simp only [ServerState.act, ServerState.store, Function.update_idem,
    Kernel.performAll_append]

/-- Adding an initialised session and arming it: the session is kept when the
kernel does both, and given up otherwise. -/
theorem acceptInitialised_cases
    {turn : AcceptTurn}
    (socket : (state.memory session).nSocket = turn.nAcceptSock)
    (valid : turn.nAcceptSock ≠ -1)
    (modle : Nat) :
    ∃ events,
      (∀ event ∈ events, (state.memory session).OwnEvent event) ∧
      ((turn.addCtl = false ∨ turn.modCtl = false) ∧
          Drops
            ((state.addSession session).act modle session
              (state.memory session) events)
            (acceptInitialised state modle session turn).1 session
            turn.nAcceptSock ∨
        turn.addCtl = true ∧ turn.modCtl = true ∧
          events = ((state.memory session).addEvent true).1 ++
            ((state.memory session).modEvent true).1 ∧
          (acceptInitialised state modle session turn).1 =
            (state.addSession session).act modle session
              (state.memory session) events) := by
  have sameSocket : ∀ events, (((state.addSession session).act modle session
      (state.memory session) events).memory session).nSocket =
        turn.nAcceptSock := by
    intro events
    rw [memory_act]
    exact socket
  have ownAdd : ∀ event ∈ ((state.memory session).addEvent turn.addCtl).1,
      (state.memory session).OwnEvent event :=
    fun event => TcpSession.ownEvent_addEvent
  have ownBoth : ∀ event ∈ ((state.memory session).addEvent turn.addCtl).1 ++
      ((state.memory session).modEvent turn.modCtl).1,
        (state.memory session).OwnEvent event := by
    intro event member
    rcases List.mem_append.mp member with before | after
    · exact ownAdd event before
    · exact TcpSession.ownEvent_modEvent after
  have sameObject : (state.addSession session).memory session =
      state.memory session := rfl
  have addRefused : ((state.memory session).addEvent false).2 < 0 :=
    neg_one_lt_zero
  have addDone : ¬((state.memory session).addEvent true).2 < 0 := lt_irrefl _
  have modRefused : ((state.memory session).modEvent false).2 < 0 :=
    neg_one_lt_zero
  have modDone : ¬((state.memory session).modEvent true).2 < 0 := lt_irrefl _
  unfold acceptInitialised
  simp only [TcpSession.postRecv, act_act, sameObject]
  cases addCtl : turn.addCtl with
  | false =>
      rw [addCtl] at ownAdd
      rw [if_pos addRefused]
      refine ⟨_, ownAdd, Or.inl ⟨Or.inl rfl, ?_⟩⟩
      dsimp only
      exact drops_acceptAdded _ modle session turn.delCtl valid (sameSocket _)
  | true =>
      rw [if_neg addDone]
      cases modCtl : turn.modCtl with
      | false =>
          rw [addCtl, modCtl] at ownBoth
          rw [if_pos modRefused]
          refine ⟨_, ownBoth, Or.inl ⟨Or.inr rfl, ?_⟩⟩
          dsimp only
          exact drops_acceptPosted _ modle session turn.delCtl valid
            (sameSocket _)
      | true =>
          rw [addCtl, modCtl] at ownBoth
          rw [if_neg modDone]
          exact ⟨_, ownBoth, Or.inr ⟨rfl, rfl, rfl, rfl⟩⟩

/-- Plain events of a function of a session only store the object. -/
theorem act_plain
    (state : ServerState)
    (modle : Nat)
    (session : SessionId)
    (object : TcpSession)
    {events : List EngineEvent}
    (plain : PlainEvents events) :
    state.act modle session object events = state.store session object := by
  rw [ServerState.act, Kernel.performAll_plain _ _ _ plain]
  rfl

/-- The object the accept loop constructs. -/
def AcceptTurn.object (turn : AcceptTurn) : TcpSession :=
  TcpSession.construct turn.garbage turn.address turn.now

/-- The module the accept loop finds for the next connection. -/
def AcceptSession.nextModle
    (acceptSession : AcceptSession)
    (state : ServerState) : Option Nat :=
  acceptSession.findModle
    ((signed32 (state.nAcceptIndex + 1)).tmod acceptSession.nEventModleCount)

/-- The object after `TcpSession_Init`. -/
def AcceptTurn.initialised
    (acceptSession : AcceptSession)
    (turn : AcceptTurn) : TcpSession :=
  (turn.object.init (acceptSession.arguments turn.nAcceptSock)).1

/-- A new session, bound to its module and initialised. -/
def initialisedFor
    (acceptSession : AcceptSession)
    (state : ServerState)
    (modle : Nat)
    (turn : AcceptTurn) : ServerState :=
  ((state.construct turn.nAcceptSock turn.object).bind state.constructed
    modle).store state.constructed (turn.initialised acceptSession)

/-- A new session that has been added and has done something with its
descriptor. -/
def addedFor
    (acceptSession : AcceptSession)
    (state : ServerState)
    (modle : Nat)
    (turn : AcceptTurn)
    (events : List EngineEvent) : ServerState :=
  ((initialisedFor acceptSession state modle turn).addSession
    state.constructed).act modle state.constructed
      (turn.initialised acceptSession) events

section AcceptOne

variable {acceptSession : AcceptSession} {turn : AcceptTurn}

/-- `accept` has returned no socket the loop looks at. -/
theorem acceptOne_refused (refused : turn.nAcceptSock ≤ 0) :
    (acceptOne acceptSession state turn).1 = state := by
  rw [acceptOne, if_pos refused]

/-- No module has the index: the object is deleted again. -/
theorem acceptOne_none
    (accepted : 0 < turn.nAcceptSock)
    (none : acceptSession.nextModle state = none) :
    (acceptOne acceptSession state turn).1 =
      (state.construct turn.nAcceptSock turn.object).store state.constructed
        turn.object.delete.1 := by
  have notFound : acceptSession.findModle (acceptSession.netEventModleIndex
      (state.construct turn.nAcceptSock (TcpSession.construct turn.garbage
        turn.address turn.now))) = Option.none := none
  have object : (state.construct turn.nAcceptSock (TcpSession.construct
      turn.garbage turn.address turn.now)).memory state.constructed =
        turn.object := Function.update_self ..
  have notOpen : turn.object.closeSocket = [] := rfl
  rw [acceptOne, if_neg (by omega)]
  simp only [notFound, ServerState.teardownAll, ServerState.teardown, object]
  rw [act_plain]
  · rfl
  · rw [TcpSession.delete, notOpen]
    exact .cons trivial (.cons trivial (.cons trivial plainEvents_nil))

/-- A new session is initialised and goes on to be added. -/
theorem acceptOne_some
    {modle : Nat}
    (accepted : 0 < turn.nAcceptSock)
    (found : acceptSession.nextModle state = some modle) :
    (acceptOne acceptSession state turn).1 =
      (acceptInitialised (initialisedFor acceptSession state modle turn) modle
        state.constructed turn).1 := by
  have valid : turn.nAcceptSock ≠ -1 := by omega
  have isFound : acceptSession.findModle (acceptSession.netEventModleIndex
      (state.construct turn.nAcceptSock (TcpSession.construct turn.garbage
        turn.address turn.now))) = some modle := found
  have initialised : (TcpSession.construct turn.garbage turn.address
      turn.now).init (acceptSession.arguments turn.nAcceptSock) =
        (((TcpSession.construct turn.garbage turn.address turn.now).init
            (acceptSession.arguments turn.nAcceptSock)).1,
          ((TcpSession.construct turn.garbage turn.address turn.now).init
            (acceptSession.arguments turn.nAcceptSock)).1.notify .connect,
          0) := by
    simp [TcpSession.init, AcceptSession.arguments, valid]
  rw [acceptOne, if_neg (by omega)]
  simp only [isFound]
  rw [initialised]
  simp only [lt_irrefl, if_false]
  rw [act_plain _ _ _ _ (Kernel.plainEvents_notify _ _)]
  rfl

/-- An initialised session has its socket and nothing to send. -/
theorem initialised_object
    (acceptSession : AcceptSession)
    (valid : turn.nAcceptSock ≠ -1) :
    (turn.initialised acceptSession).nSocket = turn.nAcceptSock ∧
      (turn.initialised acceptSession).sendBufs = [] := by
  simp [AcceptTurn.initialised, TcpSession.init, AcceptSession.arguments, valid,
    AcceptTurn.object, TcpSession.construct]

theorem memory_initialisedFor
    (acceptSession : AcceptSession)
    (state : ServerState)
    (modle : Nat)
    (turn : AcceptTurn) :
    (initialisedFor acceptSession state modle turn).memory state.constructed =
      turn.initialised acceptSession :=
  Function.update_self ..

theorem nSocket_addedFor
    (acceptSession : AcceptSession)
    (state : ServerState)
    (valid : turn.nAcceptSock ≠ -1)
    (modle : Nat)
    (events : List EngineEvent) :
    ((addedFor acceptSession state modle turn events).memory
      state.constructed).nSocket = turn.nAcceptSock := by
  rw [addedFor, memory_act]
  exact (initialised_object acceptSession valid).1

/-- A session that has been added and armed is registered with its module. -/
theorem registered_addedFor
    (acceptSession : AcceptSession)
    (state : ServerState)
    (valid : turn.nAcceptSock ≠ -1)
    (modle : Nat) :
    (addedFor acceptSession state modle turn
      (((turn.initialised acceptSession).addEvent true).1 ++
        ((turn.initialised acceptSession).modEvent true).1)).kernel.registrations
          modle turn.nAcceptSock =
      some ⟨state.constructed, (turn.initialised acceptSession).eventAdd,
        true⟩ := by
  rw [addedFor, ServerState.act]
  simp only [Kernel.performAll, TcpSession.addEvent, TcpSession.modEvent,
    List.singleton_append, List.foldl_cons, List.foldl_nil, Kernel.perform,
    Kernel.register, (initialised_object acceptSession valid).1, and_self,
    if_true]

/-- A session the manager does not know yet. -/
theorem Registry.unknown
    (registry : Registry state)
    (nSocket : Int) :
    state.mgr.findSession nSocket ≠ some state.constructed := by
  intro found
  exact absurd (registry.entry nSocket _ found).1 (lt_irrefl _)

theorem Registry.fresh
    {nSocket : Int}
    (registry : Registry state)
    (notOpen : nSocket ∉ state.kernel.openSockets) :
    nSocket ∉ state.mgr.tcpSessions := by
  intro known
  obtain ⟨session, found⟩ :=
    Option.isSome_iff_exists.mp (AList.lookup_isSome.mpr known)
  exact notOpen (registry.entry _ session found).2.2.2.1

theorem Registry.initialisedFor
    (registry : Registry state)
    (modle : Nat) :
    Registry (initialisedFor acceptSession state modle turn) := by
  have constructed := registry.construct turn.nAcceptSock turn.object
  have bound : Registry ((state.construct turn.nAcceptSock turn.object).bind
      state.constructed modle) :=
    ⟨constructed.entry, constructed.registration⟩
  exact bound.store registry.unknown _

/-- An added session is one the manager knows by its socket. -/
theorem Registry.addedFor
    {events : List EngineEvent}
    (registry : Registry state)
    (fresh : turn.nAcceptSock ∉ state.kernel.openSockets)
    (valid : turn.nAcceptSock ≠ -1)
    (own : ∀ event ∈ events, (turn.initialised acceptSession).OwnEvent event)
    (modle : Nat) :
    Registry (addedFor acceptSession state modle turn events) := by
  have object := initialised_object acceptSession valid
  have same := memory_initialisedFor acceptSession state modle turn
  have constructed : state.constructed <
      (TransPortEngine.initialisedFor acceptSession state modle
        turn).constructed :=
    Nat.lt_succ_self _
  have opened : turn.nAcceptSock ∈ (TransPortEngine.initialisedFor acceptSession
      state modle turn).kernel.openSockets :=
    List.mem_cons_self ..
  have unknown : turn.nAcceptSock ∉ (TransPortEngine.initialisedFor acceptSession
      state modle turn).mgr.tcpSessions := registry.fresh fresh
  have added := (registry.initialisedFor modle).addSession unknown constructed
    (same ▸ object.1) (same ▸ object.2) opened valid
  have found : ((TransPortEngine.initialisedFor acceptSession state modle
      turn).addSession state.constructed).mgr.findSession turn.nAcceptSock =
        some state.constructed := by
    simp only [ServerState.addSession, same, object.1]
    exact TcpSessionMgr.findSession_addSession unknown state.constructed
  have sameAdded : ((TransPortEngine.initialisedFor acceptSession state modle
      turn).addSession state.constructed).memory state.constructed =
        turn.initialised acceptSession := same
  rw [TransPortEngine.addedFor]
  apply added.act
  · rw [sameAdded, object.1]
    exact found
  · rw [sameAdded]
    exact .refl _
  · rw [sameAdded]
    exact own

/-- What adding and arming make of a new session. -/
theorem acceptOne_cases
    {modle : Nat}
    (accepted : 0 < turn.nAcceptSock)
    (found : acceptSession.nextModle state = some modle) :
    ∃ events,
      (∀ event ∈ events, (turn.initialised acceptSession).OwnEvent event) ∧
      ((turn.addCtl = false ∨ turn.modCtl = false) ∧
          Drops (addedFor acceptSession state modle turn events)
            (acceptOne acceptSession state turn).1 state.constructed
            turn.nAcceptSock ∨
        turn.addCtl = true ∧ turn.modCtl = true ∧
          events = ((turn.initialised acceptSession).addEvent true).1 ++
            ((turn.initialised acceptSession).modEvent true).1 ∧
          (acceptOne acceptSession state turn).1 =
            addedFor acceptSession state modle turn events) := by
  have valid : turn.nAcceptSock ≠ -1 := by omega
  have same := memory_initialisedFor acceptSession state modle turn
  have cases := acceptInitialised_cases
    (same ▸ (initialised_object acceptSession valid).1) valid modle
  rw [same] at cases
  rw [acceptOne_some accepted found]
  exact cases

end AcceptOne

/-- A round of the accept loop keeps the agreement, whatever the calls in it
return. -/
theorem registry_acceptOne
    (acceptSession : AcceptSession)
    {turn : AcceptTurn}
    (registry : Registry state)
    (fresh : turn.nAcceptSock ∉ state.kernel.openSockets) :
    Registry (acceptOne acceptSession state turn).1 := by
  rcases le_or_gt turn.nAcceptSock 0 with refused | accepted
  · rw [acceptOne_refused refused]
    exact registry
  · cases found : acceptSession.nextModle state with
    | none =>
        rw [acceptOne_none accepted found]
        exact (registry.construct turn.nAcceptSock turn.object).store
          registry.unknown _
    | some modle =>
        have valid : turn.nAcceptSock ≠ -1 := by omega
        obtain ⟨events, own, ⟨-, drops⟩ | ⟨-, -, -, same⟩⟩ :=
          acceptOne_cases accepted found
        · exact (registry.addedFor fresh valid own modle).drops
            (nSocket_addedFor acceptSession state valid modle events) drops
        · rw [same]
          exact registry.addedFor fresh valid own modle

/-- A round of the heartbeat detection keeps the agreement. -/
theorem registry_visitSessions
    (acceptSession : AcceptSession)
    (visits : Int → Visit)
    (sockets : List Int)
    (registry : Registry state) :
    Registry (visitSessions acceptSession visits state sockets).1 := by
  induction sockets generalizing state with
  | nil => exact registry
  | cons nSocket sockets inductionHypothesis =>
      rw [visitSessions]
      split
      · exact inductionHypothesis registry
      · rename_i session found
        apply inductionHypothesis
        unfold visitSession
        simp only
        split
        · split
          · exact registry
          · rename_i modle _
            have entry := registry.entry nSocket session found
            exact registry.drops entry.2.1 (drops_handleFailure state modle session
              (visits nSocket).delCtl entry.2.2.2.2 entry.2.1)
        · exact registry

end Handlers

/-- A handler that does not fail on a session whose address is not its socket
keeps the agreement. -/
theorem registry_dispatchStep
    {acceptSession : AcceptSession}
    {state next : DispatchState}
    {label : DispatchLabel}
    (registry : Registry state.server)
    (onMatch : FailsOnMatch state label)
    (stepped : dispatchStep acceptSession state label = some next) :
    Registry next.server := by
  cases dispatchStep_cases stepped with
  | accept new => exact registry_acceptOne acceptSession registry new
  | @event worker nSocket mask turn session handled handling =>
      obtain ⟨found, succeeds | ⟨failed, gives⟩⟩ := handle_cases registry handling
      · exact succeeds.2
      · have matched := onMatch session handled handling failed
        rw [AddressIsSocket] at matched
        rw [matched] at gives
        exact gives.registry found
  | heartbeat =>
      exact registry_visitSessions acceptSession _ _ registry

/-- As long as every failure so far was on a session whose address reads back as
its socket, a failure is handled as it should exactly when that is so of its
session. -/
theorem removesExactly_iff_addressIsSocket
    (acceptSession : AcceptSession)
    (memory : SessionId → TcpSession)
    (bIsHeartbeat : Bool)
    (labels : List DispatchLabel)
    (state : DispatchState)
    (onMatch : Throughout (dispatchStep acceptSession) FailsOnMatch
      (DispatchState.initial memory bIsHeartbeat) labels)
    (reached : run (dispatchStep acceptSession)
      (DispatchState.initial memory bIsHeartbeat) labels = some state)
    (worker : Nat × Nat)
    (nSocket : Int)
    (mask : EpollEvents)
    (turn : EventTurn)
    (session : SessionId)
    (handled : Handled)
    (handling : state.server.handle worker.1 (state.bFlags worker) nSocket mask
      turn = some (session, handled))
    (failed : handled.failed = true) :
    RemovesExactly state.server session handled ↔
      AddressIsSocket (state.server.memory session) := by
  have registry := invariant_of_run
    (fun _ _ _ kept condition stepped =>
      registry_dispatchStep kept condition stepped)
    (registry_initial memory bIsHeartbeat) onMatch reached
  obtain ⟨found, ⟨succeeded, -⟩ | ⟨-, gives⟩⟩ := handle_cases registry handling
  · rw [succeeded] at failed
    contradiction
  · exact gives.removesExactly_iff found

/-! ## A connection the peer closes at once -/

/-- The socket 16 is accepted for a session object at an address. -/
def acceptAt (address : Nat) : AcceptTurn where
  nAcceptSock := 16
  garbage := ⟨false, false, 0, 0⟩
  address := address
  now := 0
  addCtl := true
  modCtl := true
  delCtl := true

/-- The mask of an event that announces data. -/
def onlyIn : EpollEvents :=
  { EpollEvent.zero.events with epollIn := true }

/-- The first `read` finds the connection closed. -/
def closedTurn : EventTurn where
  write := .again
  sendCtl := true
  turns := [⟨.closed, 1, .failed, true⟩]
  delCtl := true

/-- The server after the connection was accepted. -/
def acceptedAt (address : Nat) : Option DispatchState :=
  run (dispatchStep oneModle)
    (DispatchState.initial blankMemory true)
    [.accept (acceptAt address)]

theorem removesExactly_lowAddress :
    ∃ state session handled, acceptedAt 0x500000010 = some state ∧
      state.server.handle 0 false 16 onlyIn closedTurn =
          some (session, handled) ∧
        RemovesExactly state.server session handled := by
  have low : signed32 (0x500000010 : Nat) = 16 := by decide
  exact ⟨_, _, _, rfl, rfl,
    (removesExactly_iff_addressIsSocket oneModle blankMemory true
      [.accept (acceptAt 0x500000010)] _
      (throughout_cons rfl trivial trivial) rfl (0, 0) 16 onlyIn closedTurn _ _
      rfl rfl).mpr low⟩

/-- With an address as the heap has them, the entry of the session stays. -/
theorem not_removesExactly_heapAddress :
    ¬∀ (acceptSession : AcceptSession) (memory : SessionId → TcpSession)
        (bIsHeartbeat : Bool) (labels : List DispatchLabel)
        (state : DispatchState) (worker : Nat × Nat) (nSocket : Int)
        (mask : EpollEvents) (turn : EventTurn) (session : SessionId)
        (handled : Handled),
      run (dispatchStep acceptSession)
          (DispatchState.initial memory bIsHeartbeat) labels = some state →
        state.server.handle worker.1 (state.bFlags worker) nSocket mask turn =
            some (session, handled) →
          handled.failed = true →
            RemovesExactly state.server session handled := by
  intro always
  have removes := always oneModle blankMemory true
    [.accept (acceptAt 0x7f0000001010)] _ (0, 0) 16 onlyIn closedTurn _ _ rfl rfl
    rfl
  have stays := removes.removed
  contradiction

end TransPortEngine
