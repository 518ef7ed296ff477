import TransPortEngine.Server.Handlers
import TransPortEngine.TcpSession.Effects

/-!
# Agreement of map, objects and registrations

As long as the right entry is removed when a session is given up, the session
manager knows every open session by its socket, and every registration with an
epoll instance carries the address of the session the manager has for that
socket.
-/

namespace TransPortEngine

namespace Kernel

/-- Plain events leave the kernel as it is. -/
theorem performAll_plain
    (kernel : Kernel)
    (modle : Nat)
    (session : SessionId)
    {events : List EngineEvent}
    (plain : PlainEvents events) :
    kernel.performAll modle session events = kernel := by
  induction events with
  | nil => rfl
  | cons event events inductionHypothesis =>
      have first : kernel.perform modle session event = kernel := by
        have plainEvent := plain event (List.mem_cons_self ..)
        cases event with
        | epollCtl op nSocket event done => exact plainEvent.elim
        | close nSocket => exact plainEvent.elim
        | _ => rfl
      rw [performAll, List.foldl_cons, first]
      exact inductionHypothesis fun later member =>
        plain later (List.mem_cons_of_mem _ member)

theorem performAll_append
    (kernel : Kernel)
    (modle : Nat)
    (session : SessionId)
    (first second : List EngineEvent) :
    kernel.performAll modle session (first ++ second) =
      (kernel.performAll modle session first).performAll modle session second :=
  List.foldl_append

theorem plainEvents_notify (object : TcpSession) (nMsgType : MsgType) :
    PlainEvents (object.notify nMsgType) := by
  unfold TcpSession.notify
  split
  · exact .cons trivial plainEvents_nil
  · exact plainEvents_nil

/-- Finalising a session closes its socket. -/
theorem performAll_fini
    (kernel : Kernel)
    (modle : Nat)
    (session : SessionId)
    {object : TcpSession}
    (opened : object.nSocket ≠ -1) :
    kernel.performAll modle session object.fini.2.1 =
      kernel.close object.nSocket := by
  rw [TcpSession.fini, performAll_append, performAll_append,
    performAll_plain _ _ _ (plainEvents_notify object _), TcpSession.closeSocket,
    if_neg opened]
  rfl

/-- Deleting a finalised session closes nothing. -/
theorem performAll_delete
    (kernel : Kernel)
    (modle : Nat)
    (session : SessionId)
    {object : TcpSession}
    (closed : object.nSocket = -1) :
    kernel.performAll modle session object.delete.2 = kernel := by
  rw [TcpSession.delete, TcpSession.closeSocket, if_pos closed]
  rfl

/-- Whatever a module is asked to forget about a socket, closing it is as
good. -/
theorem close_performAll_delEvent
    (kernel : Kernel)
    (modle : Nat)
    (session : SessionId)
    (object : TcpSession)
    (done : Bool) :
    (kernel.performAll modle session (object.delEvent done).1).close
        object.nSocket =
      kernel.close object.nSocket := by
  cases done with
  | false => rfl
  | true =>
      have deregistered :
          kernel.performAll modle session (object.delEvent true).1 =
            kernel.register modle object.nSocket none := rfl
      rw [deregistered, register, close, close]
      congr 1
      funext index descriptor
      by_cases same : descriptor = object.nSocket
      · simp [same]
      · simp [same]

/-- The own events of a session open and close nothing, and every registration
they leave is an old one or one of the session. -/
theorem performAll_own
    (kernel : Kernel)
    (modle : Nat)
    (session : SessionId)
    {object : TcpSession}
    {events : List EngineEvent}
    (own : ∀ event ∈ events, object.OwnEvent event) :
    (kernel.performAll modle session events).openSockets =
        kernel.openSockets ∧
      ∀ index descriptor registration,
        (kernel.performAll modle session events).registrations index
            descriptor = some registration →
          kernel.registrations index descriptor = some registration ∨
            descriptor = object.nSocket ∧ registration.session = session ∧
              registration.event = object.eventAdd := by
  induction events generalizing kernel with
  | nil => exact ⟨rfl, fun _ _ _ found => Or.inl found⟩
  | cons event events inductionHypothesis =>
      have later := inductionHypothesis (kernel.perform modle session event)
        fun event member => own event (List.mem_cons_of_mem _ member)
      rw [performAll, List.foldl_cons]
      rcases own event (List.mem_cons_self ..) with
        plain | ⟨op, done, arms, armed⟩
      · have first := kernel.performAll_plain modle session
          (PlainEvents.cons plain plainEvents_nil)
        rw [performAll, List.foldl_cons, List.foldl_nil] at first
        rw [first] at later ⊢
        exact later
      · subst armed
        cases done with
        | false =>
            have failed : kernel.perform modle session
                (.epollCtl op object.nSocket object.eventAdd false) = kernel := by
              cases op with
              | _ => rfl
            rw [failed] at later ⊢
            exact later
        | true =>
            have armed : kernel.perform modle session
                (.epollCtl op object.nSocket object.eventAdd true) =
                  kernel.register modle object.nSocket
                    (some ⟨session, object.eventAdd, true⟩) := by
              cases op with
              | add => rfl
              | mod => rfl
              | del => exact (arms rfl).elim
            rw [armed] at later ⊢
            refine ⟨later.1, ?_⟩
            intro index descriptor registration found
            rcases later.2 index descriptor registration found with old | new
            · rw [register] at old
              simp only at old
              split at old
              · rename_i same
                refine Or.inr ⟨same.2, ?_⟩
                rw [← Option.some.inj old]
                exact ⟨rfl, rfl⟩
              · exact Or.inl old
            · exact Or.inr new

end Kernel

/-- The manager knows open sessions by their sockets, and registrations are of
sessions it knows. -/
structure Registry (state : ServerState) : Prop where
  entry : ∀ nSocket session,
    state.mgr.findSession nSocket = some session →
      session < state.constructed ∧
        (state.memory session).nSocket = nSocket ∧
        (state.memory session).sendBufs = [] ∧
        nSocket ∈ state.kernel.openSockets ∧ nSocket ≠ -1
  registration : ∀ modle nSocket registration,
    state.kernel.registrations modle nSocket = some registration →
      state.mgr.findSession nSocket = some registration.session ∧
        registration.event.ptr =
          (state.memory registration.session).address

/-- A session is given up: its entry, its registrations and its socket are gone,
and the other sessions are as they were. -/
structure Drops
    (before after : ServerState)
    (session : SessionId)
    (nSocket : Int) : Prop where
  find : ∀ other, after.mgr.findSession other =
    if other = nSocket then none else before.mgr.findSession other
  registrations : ∀ modle other, after.kernel.registrations modle other =
    if other = nSocket then none else before.kernel.registrations modle other
  openSockets : ∀ other, other ∈ after.kernel.openSockets ↔
    other ≠ nSocket ∧ other ∈ before.kernel.openSockets
  memory : ∀ other, other ≠ session →
    after.memory other = before.memory other
  constructed : after.constructed = before.constructed

/-- Removing an entry, as a function. -/
theorem findSession_delSession_eq
    (mgr : TcpSessionMgr)
    (nSocket other : Int) :
    (mgr.delSession nSocket).1.findSession other =
      if other = nSocket then none else mgr.findSession other := by
  split
  · rename_i same
    rw [same]
    exact mgr.findSession_delSession nSocket
  · rename_i different
    exact mgr.findSession_delSession_ne different

section Teardown

variable (state : ServerState) (modle : Nat) (session : SessionId) (done : Bool)

/-- Finalising and deleting what is left of a session whose entry is gone. -/
theorem drops_fini_delete
    {before : ServerState}
    {nSocket : Int}
    (opened : nSocket ≠ -1)
    (socket : (state.memory session).nSocket = nSocket)
    (find : ∀ other, state.mgr.findSession other =
      if other = nSocket then none else before.mgr.findSession other)
    (closed : state.kernel.close nSocket = before.kernel.close nSocket)
    (memory : ∀ other, other ≠ session →
      state.memory other = before.memory other)
    (constructed : state.constructed = before.constructed) :
    Drops before (state.teardownAll modle session done [.fini, .delete]).1
      session nSocket := by
  have kernel : (state.teardownAll modle session done
      [.fini, .delete]).1.kernel = before.kernel.close nSocket := by
    simp only [ServerState.teardownAll, ServerState.teardown, ServerState.act]
    rw [Kernel.performAll_delete, Kernel.performAll_fini, socket, closed]
    · rw [socket]
      exact opened
    · simp [ServerState.store, TcpSession.fini]
  refine ⟨find, ?_, ?_, ?_, constructed⟩
  · intro index other
    rw [kernel]
    rfl
  · intro other
    rw [kernel]
    simp [Kernel.close, and_comm]
  · intro other different
    rw [← memory other different]
    simp [ServerState.teardownAll, ServerState.teardown, ServerState.act,
      ServerState.store, Function.update_of_ne different]

/-- The calls of a worker after a failure whose key is the socket. -/
theorem drops_handleFailure
    {nSocket : Int}
    (opened : nSocket ≠ -1)
    (socket : (state.memory session).nSocket = nSocket) :
    Drops state
      (state.teardownAll modle session done
        [.delSession nSocket, .delEvent, .fini, .delete]).1
      session nSocket := by
  apply drops_fini_delete (ServerState.act
    { state with mgr := (state.mgr.delSession nSocket).1 } modle session
      (state.memory session) ((state.memory session).delEvent done).1)
  · exact opened
  · simp [ServerState.act, ServerState.store, socket]
  · exact findSession_delSession_eq state.mgr nSocket
  · rw [← socket]
    exact state.kernel.close_performAll_delEvent modle session _ done
  · intro other different
    simp [ServerState.act, ServerState.store]
  · rfl

/-- The same calls with the two removals in the other order. -/
theorem drops_acceptPosted
    {nSocket : Int}
    (opened : nSocket ≠ -1)
    (socket : (state.memory session).nSocket = nSocket) :
    Drops state
      (state.teardownAll modle session done
        [.delEvent, .delSession nSocket, .fini, .delete]).1
      session nSocket :=
  drops_handleFailure state modle session done opened socket

/-- The calls of the accept loop when the socket could not be added. -/
theorem drops_acceptAdded
    {nSocket : Int}
    (opened : nSocket ≠ -1)
    (socket : (state.memory session).nSocket = nSocket) :
    Drops state
      (state.teardownAll modle session done
        [.delSession nSocket, .fini, .delete]).1
      session nSocket := by
  apply drops_fini_delete
    { state with mgr := (state.mgr.delSession nSocket).1 }
  · exact opened
  · exact socket
  · exact findSession_delSession_eq state.mgr nSocket
  · rfl
  · intro other different
    rfl
  · rfl

end Teardown

section Preservation

variable {state : ServerState}

theorem registry_initial
    (memory : SessionId → TcpSession)
    (bIsHeartbeat : Bool) :
    Registry (ServerState.initial memory bIsHeartbeat) := by
  refine ⟨?_, ?_⟩
  · intro nSocket session found
    simp [ServerState.initial, TcpSessionMgr.findSession] at found
  · intro modle nSocket registration found
    simp [ServerState.initial, Kernel.initial] at found

/-- A session that has been given up leaves the others in agreement. -/
theorem Registry.drops
    {after : ServerState}
    {session : SessionId}
    {nSocket : Int}
    (registry : Registry state)
    (socket : (state.memory session).nSocket = nSocket)
    (drops : Drops state after session nSocket) :
    Registry after := by
  have kept : ∀ other known, after.mgr.findSession other = some known →
      other ≠ nSocket ∧ state.mgr.findSession other = some known ∧
        known ≠ session := by
    intro other known found
    rw [drops.find] at found
    split at found
    · contradiction
    · rename_i different
      refine ⟨different, found, ?_⟩
      intro same
      rw [same] at found
      exact different ((registry.entry other session found).2.1.symm.trans socket)
  refine ⟨?_, ?_⟩
  · intro other known found
    obtain ⟨different, before, notDropped⟩ := kept other known found
    have entry := registry.entry other known before
    rw [drops.constructed, drops.memory known notDropped, drops.openSockets]
    exact ⟨entry.1, entry.2.1, entry.2.2.1, ⟨different, entry.2.2.2.1⟩,
      entry.2.2.2.2⟩
  · intro modle other registration registered
    rw [drops.registrations] at registered
    split at registered
    · contradiction
    · rename_i different
      have before := registry.registration modle other registration registered
      have found : after.mgr.findSession other = some registration.session := by
        rw [drops.find, if_neg different]
        exact before.1
      rw [drops.memory _ (kept other _ found).2.2]
      exact ⟨found, before.2⟩

/-- A function of a registered session keeps the agreement. -/
theorem Registry.act
    {session : SessionId}
    {object : TcpSession}
    {events : List EngineEvent}
    (registry : Registry state)
    (found : state.mgr.findSession (state.memory session).nSocket = some session)
    (same : (state.memory session).SameIdentity object)
    (own : ∀ event ∈ events, (state.memory session).OwnEvent event)
    (modle : Nat) :
    Registry (state.act modle session object events) := by
  have kernel := state.kernel.performAll_own modle session own
  have object_of : ∀ known,
      ((state.act modle session object events).memory known).nSocket =
          (state.memory known).nSocket ∧
        ((state.act modle session object events).memory known).sendBufs =
          (state.memory known).sendBufs ∧
        ((state.act modle session object events).memory known).address =
          (state.memory known).address := by
    intro known
    by_cases this : known = session
    · subst this
      simp [ServerState.act, ServerState.store, same.nSocket, same.sendBufs,
        same.address]
    · simp [ServerState.act, ServerState.store, Function.update_of_ne this]
  refine ⟨?_, ?_⟩
  · intro nSocket known foundKnown
    have entry := registry.entry nSocket known foundKnown
    have objectEq := object_of known
    rw [objectEq.1, objectEq.2.1]
    refine ⟨entry.1, entry.2.1, entry.2.2.1, ?_, entry.2.2.2.2⟩
    have opened := entry.2.2.2.1
    rw [← kernel.1] at opened
    exact opened
  · intro index nSocket registration registered
    rw [(object_of _).2.2]
    rcases kernel.2 index nSocket registration registered with old | new
    · exact registry.registration index nSocket registration old
    · rw [new.1, new.2.1, new.2.2]
      exact ⟨found, TcpSession.ptr_eventAdd _⟩

/-- An object the manager does not know can change at will. -/
theorem Registry.store
    {session : SessionId}
    (registry : Registry state)
    (unknown : ∀ nSocket, state.mgr.findSession nSocket ≠ some session)
    (object : TcpSession) :
    Registry (state.store session object) := by
  have other_of : ∀ nSocket known,
      state.mgr.findSession nSocket = some known →
        (state.store session object).memory known = state.memory known := by
    intro nSocket known found
    have different : known ≠ session := by
      intro same
      exact unknown nSocket (same ▸ found)
    exact Function.update_of_ne different ..
  refine ⟨?_, ?_⟩
  · intro nSocket known found
    rw [other_of nSocket known found]
    exact registry.entry nSocket known found
  · intro modle nSocket registration registered
    have before := registry.registration modle nSocket registration registered
    rw [other_of nSocket _ before.1]
    exact before

/-- A new connection is a session the manager does not know yet. -/
theorem Registry.construct
    (registry : Registry state)
    (nAcceptSock : Int)
    (object : TcpSession) :
    Registry (state.construct nAcceptSock object) := by
  have unknown : ∀ nSocket,
      state.mgr.findSession nSocket ≠ some state.constructed := by
    intro nSocket found
    exact absurd (registry.entry nSocket _ found).1 (lt_irrefl _)
  have stored := registry.store unknown object
  refine ⟨?_, stored.registration⟩
  intro nSocket known found
  have entry := stored.entry nSocket known found
  exact ⟨Nat.lt_succ_of_lt entry.1, entry.2.1, entry.2.2.1,
    List.mem_cons_of_mem _ entry.2.2.2.1, entry.2.2.2.2⟩

/-- An initialised session can be added. -/
theorem Registry.addSession
    {session : SessionId}
    {nSocket : Int}
    (registry : Registry state)
    (fresh : nSocket ∉ state.mgr.tcpSessions)
    (constructed : session < state.constructed)
    (socket : (state.memory session).nSocket = nSocket)
    (sendBufs : (state.memory session).sendBufs = [])
    (opened : nSocket ∈ state.kernel.openSockets)
    (valid : nSocket ≠ -1) :
    Registry (state.addSession session) := by
  have findOther : ∀ other, other ≠ nSocket →
      (state.addSession session).mgr.findSession other =
        state.mgr.findSession other := by
    intro other different
    simp only [ServerState.addSession, socket]
    exact state.mgr.findSession_addSession_ne different session
  refine ⟨?_, ?_⟩
  · intro other known found
    by_cases same : other = nSocket
    · subst same
      simp only [ServerState.addSession, socket,
        TcpSessionMgr.findSession_addSession fresh, Option.some.injEq] at found
      subst found
      exact ⟨constructed, socket, sendBufs, opened, valid⟩
    · rw [findOther other same] at found
      exact registry.entry other known found
  · intro modle other registration registered
    have before := registry.registration modle other registration registered
    have different : other ≠ nSocket := by
      intro same
      rw [same, TcpSessionMgr.findSession, AList.lookup_eq_none.mpr fresh]
        at before
      exact absurd before.1 (by simp)
    rw [findOther other different]
    exact before

end Preservation

end TransPortEngine
