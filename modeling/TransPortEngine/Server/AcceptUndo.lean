import TransPortEngine.Server.FailureDispatch

/-!
# What a failed connection leaves behind

One round of the accept loop with its heap: the session object and the record of
the addresses are allocated before a module is looked for, and the session owns
socket and record only after `TcpSession_Init`. The exits behind it give back what
there is. The one that finds no module deletes the session only, `new` throws where
the code looks for `NULL`, and descriptor 0 is passed over.
-/

namespace TransPortEngine

open MachineInt

/-- What happens on the heap for one connection. -/
inductive HeapCall
  | newSession
  | newNetFiveElement
  | deleteNetFiveElement
  | deleteSession
  deriving DecidableEq, Repr

/-- Which of the two objects `new` returns. Where it does not it throws
`std::bad_alloc`, which nothing catches, so that the branches for `NULL` are never
taken. -/
structure Allocations where
  session : Bool
  netFiveElement : Bool
  deriving DecidableEq, Repr

/-- A round: the state it leaves, when it ends or when an exception leaves it, what
it does to the environment, and what it does on the heap. -/
structure AcceptRound where
  state : ServerState
  events : List EngineEvent
  heap : List HeapCall

/-- What a call to get rid of a session does on the heap. The record is deleted
unless the pointer to it is `NULL`. -/
def TcpSession.heapCalls (object : TcpSession) : Teardown → List HeapCall
  | .delSession _ => []
  | .delEvent => []
  | .fini => if object.hasNetFiveElement then [.deleteNetFiveElement] else []
  | .delete =>
      (if object.hasNetFiveElement then [.deleteNetFiveElement] else []) ++
        [.deleteSession]

namespace ServerState

/-- Several such calls, one after another. -/
def teardownHeap
    (state : ServerState)
    (modle : Nat)
    (session : SessionId)
    (done : Bool) : List Teardown → List HeapCall
  | [] => []
  | call :: calls =>
      (state.memory session).heapCalls call ++
        teardownHeap (state.teardown modle session done call).1 modle session done
          calls

end ServerState

/-- What `acceptInitialised` does on the heap. -/
def acceptInitialisedHeap
    (state : ServerState)
    (modle : Nat)
    (session : SessionId)
    (turn : AcceptTurn) : List HeapCall :=
  let state := state.addSession session
  let object := state.memory session
  let added := object.addEvent turn.addCtl
  let state := state.act modle session object added.1
  if added.2 < 0 then
    state.teardownHeap modle session turn.delCtl
      [.delSession turn.nAcceptSock, .fini, .delete]
  else
    let posted := object.postRecv turn.modCtl
    let state := state.act modle session object posted.1
    if posted.2 < 0 then
      state.teardownHeap modle session turn.delCtl
        [.delEvent, .delSession turn.nAcceptSock, .fini, .delete]
    else []

/-- What `acceptOne` does on the heap behind the two allocations. -/
def acceptHeap
    (acceptSession : AcceptSession)
    (state : ServerState)
    (turn : AcceptTurn) : List HeapCall :=
  let session := state.constructed
  let object := turn.object
  let state := state.construct turn.nAcceptSock object
  match acceptSession.findModle (acceptSession.netEventModleIndex state) with
  | none => state.teardownHeap 0 session turn.delCtl [.delete]
  | some modle =>
      let initialised := object.init (acceptSession.arguments turn.nAcceptSock)
      let state := (state.bind session modle).act modle session initialised.1
        initialised.2.1
      if initialised.2.2 < 0 then
        state.teardownHeap modle session turn.delCtl [.delete]
      else acceptInitialisedHeap state modle session turn

/-- One round of `AcceptSession_Accept` with the allocations, from the return of
`accept` on. -/
def acceptRound
    (acceptSession : AcceptSession)
    (state : ServerState)
    (turn : AcceptTurn)
    (allocations : Allocations) : AcceptRound :=
  if turn.nAcceptSock < 0 then ⟨state, [], []⟩
  else if turn.nAcceptSock = 0 then
    ⟨{ state with kernel := state.kernel.accept turn.nAcceptSock }, [], []⟩
  else if allocations.session = false then
    ⟨{ state with
        nAcceptIndex := signed32 (state.nAcceptIndex + 1)
        kernel := state.kernel.accept turn.nAcceptSock }, [], []⟩
  else if allocations.netFiveElement = false then
    ⟨state.construct turn.nAcceptSock turn.object, [], [.newSession]⟩
  else
    let after := acceptOne acceptSession state turn
    ⟨after.1, after.2,
      [.newSession, .newNetFiveElement] ++ acceptHeap acceptSession state turn⟩

/-! ## The two ways a round may end -/

/-- The socket is that of a session of the map, which has its record and is
registered with its module. -/
structure AcceptRound.Owned
    (round : AcceptRound)
    (nAcceptSock : Int)
    (session : SessionId) : Prop where
  found : round.state.mgr.findSession nAcceptSock = some session
  socket : (round.state.memory session).nSocket = nAcceptSock
  record : (round.state.memory session).hasNetFiveElement = true
  opened : nAcceptSock ∈ round.state.kernel.openSockets
  registered : ∃ registration,
    round.state.kernel.registrations (round.state.bound session) nAcceptSock =
        some registration ∧
      registration.session = session
  heap : round.heap = [.newSession, .newNetFiveElement]

/-- The socket is closed, what was allocated has been deleted, and map and
registrations are those of before. -/
structure AcceptRound.Undone
    (before : ServerState)
    (round : AcceptRound)
    (nAcceptSock : Int) : Prop where
  closed : nAcceptSock ∉ round.state.kernel.openSockets
  others : ∀ other, other ≠ nAcceptSock →
    (other ∈ round.state.kernel.openSockets ↔
      other ∈ before.kernel.openSockets)
  session : round.heap.count .newSession = round.heap.count .deleteSession
  record : round.heap.count .newNetFiveElement =
    round.heap.count .deleteNetFiveElement
  map : ∀ other,
    round.state.mgr.findSession other = before.mgr.findSession other
  registrations :
    round.state.kernel.registrations = before.kernel.registrations

/-- A round that leaves no trace unless it has made a session. -/
def AcceptRound.OwnedOrUndone
    (before : ServerState)
    (round : AcceptRound)
    (nAcceptSock : Int) : Prop :=
  (∃ session, round.Owned nAcceptSock session) ∨ round.Undone before nAcceptSock

/-- What the kernel and the numbering promise of a new connection: the descriptor
is not in use, and the sessions of the map are older. -/
structure FreshSocket (state : ServerState) (nAcceptSock : Int) : Prop where
  notOpen : nAcceptSock ∉ state.kernel.openSockets
  notRegistered : ∀ modle, state.kernel.registrations modle nAcceptSock = none
  older : ∀ nSocket session,
    state.mgr.findSession nSocket = some session → session < state.constructed

/-- Where map, objects and registrations agree, a descriptor that is not open is
fresh. -/
theorem Registry.freshSocket
    {state : ServerState}
    {nAcceptSock : Int}
    (registry : Registry state)
    (notOpen : nAcceptSock ∉ state.kernel.openSockets) :
    FreshSocket state nAcceptSock where
  notOpen := notOpen
  notRegistered modle := by
    by_contra registered
    obtain ⟨registration, found⟩ := Option.ne_none_iff_exists'.mp registered
    have known := registry.registration modle nAcceptSock registration found
    exact notOpen (registry.entry nAcceptSock _ known.1).2.2.2.1
  older nSocket session found := (registry.entry nSocket session found).1

/-! ## The heap -/

section Heap

variable {state : ServerState} {modle : Nat} {session : SessionId} {done : Bool}

/-- `TcpSession_Fini` deletes the record, `delete` the object. -/
theorem teardownHeap_fini_delete
    (record : (state.memory session).hasNetFiveElement = true) :
    state.teardownHeap modle session done [.fini, .delete] =
      [.deleteNetFiveElement, .deleteSession] := by
  simp [ServerState.teardownHeap, TcpSession.heapCalls, record,
    ServerState.teardown, memory_act, TcpSession.fini]

theorem teardownHeap_delSession
    (nSocket : Int)
    (calls : List Teardown) :
    state.teardownHeap modle session done (.delSession nSocket :: calls) =
      ServerState.teardownHeap
        { state with mgr := (state.mgr.delSession nSocket).1 } modle session done
        calls :=
  List.nil_append _

/-- The three calls when the socket could not be added. -/
theorem teardownHeap_added
    (record : (state.memory session).hasNetFiveElement = true)
    (nSocket : Int) :
    state.teardownHeap modle session done [.delSession nSocket, .fini, .delete] =
      [.deleteNetFiveElement, .deleteSession] := by
  rw [teardownHeap_delSession]
  exact teardownHeap_fini_delete record

/-- The four calls when the receive could not be posted. -/
theorem teardownHeap_posted
    (record : (state.memory session).hasNetFiveElement = true)
    (nSocket : Int) :
    state.teardownHeap modle session done
        [.delEvent, .delSession nSocket, .fini, .delete] =
      [.deleteNetFiveElement, .deleteSession] := by
  rw [ServerState.teardownHeap]
  simp only [TcpSession.heapCalls, List.nil_append]
  apply teardownHeap_added
  simp only [ServerState.teardown, memory_act]
  exact record

theorem acceptInitialisedHeap_eq
    {turn : AcceptTurn}
    (record : (state.memory session).hasNetFiveElement = true) :
    acceptInitialisedHeap state modle session turn =
      if turn.addCtl = true ∧ turn.modCtl = true then []
      else [.deleteNetFiveElement, .deleteSession] := by
  have recordAfter : ∀ events, ((((state.addSession session).act modle session
      (state.memory session) events)).memory session).hasNetFiveElement =
        true := by
    intro events
    rw [memory_act]
    exact record
  have sameObject : (state.addSession session).memory session =
      state.memory session := rfl
  have addRefused : ((state.memory session).addEvent false).2 < 0 :=
    neg_one_lt_zero
  have addDone : ¬((state.memory session).addEvent true).2 < 0 := lt_irrefl _
  have modRefused : ((state.memory session).modEvent false).2 < 0 :=
    neg_one_lt_zero
  have modDone : ¬((state.memory session).modEvent true).2 < 0 := lt_irrefl _
  unfold acceptInitialisedHeap
  simp only [TcpSession.postRecv, act_act, sameObject]
  cases addCtl : turn.addCtl with
  | false =>
      rw [if_pos addRefused, teardownHeap_added (recordAfter _)]
      simp
  | true =>
      rw [if_neg addDone]
      cases modCtl : turn.modCtl with
      | false =>
          rw [if_pos modRefused, teardownHeap_posted (recordAfter _)]
          simp
      | true =>
          rw [if_neg modDone]
          simp

variable {acceptSession : AcceptSession} {turn : AcceptTurn}

theorem acceptHeap_some
    (accepted : 0 < turn.nAcceptSock)
    (found : acceptSession.nextModle state = some modle) :
    acceptHeap acceptSession state turn =
      if turn.addCtl = true ∧ turn.modCtl = true then []
      else [.deleteNetFiveElement, .deleteSession] := by
  have valid : turn.nAcceptSock ≠ -1 := by omega
  have isFound : acceptSession.findModle (acceptSession.netEventModleIndex
      (state.construct turn.nAcceptSock turn.object)) = some modle := found
  have initialised :
      ¬(turn.object.init (acceptSession.arguments turn.nAcceptSock)).2.2 < 0 := by
    simp [TcpSession.init, AcceptSession.arguments, valid]
  simp only [acceptHeap, isFound, if_neg initialised]
  apply acceptInitialisedHeap_eq
  rw [memory_act]
  simp [TcpSession.init, AcceptSession.arguments, valid]

end Heap

/-! ## Every exit -/

/-- The own events of a session touch the registrations of no other
descriptor. -/
theorem Kernel.registrations_performAll_own
    (kernel : Kernel)
    (modle : Nat)
    (session : SessionId)
    {object : TcpSession}
    {events : List EngineEvent}
    {descriptor : Int}
    (own : ∀ event ∈ events, object.OwnEvent event)
    (other : descriptor ≠ object.nSocket)
    (index : Nat) :
    (kernel.performAll modle session events).registrations index descriptor =
      kernel.registrations index descriptor := by
  induction events generalizing kernel with
  | nil => rfl
  | cons event events inductionHypothesis =>
      rw [performAll, List.foldl_cons]
      refine (inductionHypothesis _ fun later member =>
        own later (List.mem_cons_of_mem _ member)).trans ?_
      have apart : ¬(index = modle ∧ descriptor = object.nSocket) :=
        fun both => other both.2
      rcases own event (List.mem_cons_self ..) with
        plain | ⟨op, done, arms, armed⟩
      · have same := kernel.performAll_plain modle session
          (PlainEvents.cons plain plainEvents_nil)
        rw [performAll, List.foldl_cons, List.foldl_nil] at same
        rw [same]
      · subst armed
        cases done with
        | false =>
            cases op with
            | _ => rfl
        | true =>
            cases op with
            | _ => exact if_neg apart

section Exits

variable {acceptSession : AcceptSession} {state : ServerState}
  {turn : AcceptTurn} {modle : Nat} {events : List EngineEvent}

/-- A round that leaves the socket open, and has registered nothing. -/
theorem not_ownedOrUndone_open
    {round : AcceptRound}
    (fresh : FreshSocket state turn.nAcceptSock)
    (kernel : round.state.kernel = state.kernel.accept turn.nAcceptSock) :
    ¬round.OwnedOrUndone state turn.nAcceptSock := by
  rintro (⟨session, owned⟩ | undone)
  · obtain ⟨registration, registered, -⟩ := owned.registered
    rw [kernel] at registered
    exact Option.some_ne_none registration
      (registered.symm.trans (fresh.notRegistered _))
  · apply undone.closed
    rw [kernel]
    exact List.mem_cons_self ..

/-- A round that has both objects is that of `acceptOne`. -/
theorem acceptRound_allocated
    (accepted : 0 < turn.nAcceptSock) :
    acceptRound acceptSession state turn ⟨true, true⟩ =
      ⟨(acceptOne acceptSession state turn).1,
        (acceptOne acceptSession state turn).2,
        [.newSession, .newNetFiveElement] ++
          acceptHeap acceptSession state turn⟩ := by
  rw [acceptRound, if_neg (by omega), if_neg (by omega)]
  rfl

/-- The entry of the new session, unless there was one under its socket. -/
theorem findSession_addedFor
    (valid : turn.nAcceptSock ≠ -1)
    (other : Int) :
    (addedFor acceptSession state modle turn events).mgr.findSession other =
      if other = turn.nAcceptSock ∧ turn.nAcceptSock ∉ state.mgr.tcpSessions then
        some state.constructed
      else state.mgr.findSession other := by
  have socket : ((initialisedFor acceptSession state modle turn).memory
      state.constructed).nSocket = turn.nAcceptSock := by
    rw [memory_initialisedFor]
    exact (initialised_object acceptSession valid).1
  have mgr : (addedFor acceptSession state modle turn events).mgr =
      state.mgr.addSession turn.nAcceptSock state.constructed := by
    rw [← socket]
    rfl
  rw [mgr]
  by_cases same : other = turn.nAcceptSock
  · subst same
    by_cases known : turn.nAcceptSock ∈ state.mgr.tcpSessions
    · simp [TcpSessionMgr.addSession, known]
    · simp [TcpSessionMgr.findSession_addSession known, known]
  · rw [TcpSessionMgr.findSession_addSession_ne _ same, if_neg (by simp [same])]

/-- Arming the new session touches no other descriptor. -/
theorem registrations_addedFor
    {descriptor : Int}
    (valid : turn.nAcceptSock ≠ -1)
    (own : ∀ event ∈ events, (turn.initialised acceptSession).OwnEvent event)
    (other : descriptor ≠ turn.nAcceptSock)
    (index : Nat) :
    (addedFor acceptSession state modle turn events).kernel.registrations index
        descriptor =
      state.kernel.registrations index descriptor := by
  apply Kernel.registrations_performAll_own _ _ _ own
  rw [(initialised_object acceptSession valid).1]
  exact other

theorem openSockets_addedFor
    (own : ∀ event ∈ events, (turn.initialised acceptSession).OwnEvent event) :
    (addedFor acceptSession state modle turn events).kernel.openSockets =
      turn.nAcceptSock :: state.kernel.openSockets :=
  ((initialisedFor acceptSession state modle turn).kernel.performAll_own modle
    state.constructed own).1

/-- A session that is given up leaves everything as it was, but for an entry that
was under its socket before. -/
theorem undone_drops
    {round : AcceptRound}
    (valid : turn.nAcceptSock ≠ -1)
    (fresh : FreshSocket state turn.nAcceptSock)
    (unknown : turn.nAcceptSock ∉ state.mgr.tcpSessions)
    (own : ∀ event ∈ events, (turn.initialised acceptSession).OwnEvent event)
    (drops : Drops (addedFor acceptSession state modle turn events) round.state
      state.constructed turn.nAcceptSock)
    (heap : round.heap =
      [.newSession, .newNetFiveElement, .deleteNetFiveElement,
        .deleteSession]) :
    round.Undone state turn.nAcceptSock := by
  refine ⟨?_, ?_, ?_, ?_, ?_, ?_⟩
  · rw [drops.openSockets]
    exact fun impossible => impossible.1 rfl
  · intro other different
    rw [drops.openSockets, openSockets_addedFor own, List.mem_cons]
    simp [different]
  · rw [heap]
    rfl
  · rw [heap]
    rfl
  · intro other
    rw [drops.find, findSession_addedFor valid]
    by_cases same : other = turn.nAcceptSock
    · rw [if_pos same, same]
      exact (AList.lookup_eq_none.mpr unknown).symm
    · rw [if_neg same, if_neg (by simp [same])]
  · funext index descriptor
    rw [drops.registrations]
    by_cases same : descriptor = turn.nAcceptSock
    · rw [if_pos same, same, fresh.notRegistered]
    · rw [if_neg same]
      exact registrations_addedFor valid own same index

/-- A session that is kept owns the socket. -/
theorem owned_addedFor
    {round : AcceptRound}
    (valid : turn.nAcceptSock ≠ -1)
    (unknown : turn.nAcceptSock ∉ state.mgr.tcpSessions)
    (own : ∀ event ∈ events, (turn.initialised acceptSession).OwnEvent event)
    (both : events = ((turn.initialised acceptSession).addEvent true).1 ++
      ((turn.initialised acceptSession).modEvent true).1)
    (kept : round.state = addedFor acceptSession state modle turn events)
    (heap : round.heap = [.newSession, .newNetFiveElement]) :
    round.Owned turn.nAcceptSock state.constructed := by
  have object : (addedFor acceptSession state modle turn events).memory
      state.constructed = turn.initialised acceptSession := memory_act ..
  have bound : (addedFor acceptSession state modle turn events).bound
      state.constructed = modle := Function.update_self ..
  refine ⟨?_, ?_, ?_, ?_, ?_, heap⟩
  · rw [kept, findSession_addedFor valid, if_pos ⟨rfl, unknown⟩]
  · rw [kept, object]
    exact (initialised_object acceptSession valid).1
  · rw [kept, object]
    simp [AcceptTurn.initialised, TcpSession.init, AcceptSession.arguments, valid]
  · rw [kept, openSockets_addedFor own]
    exact List.mem_cons_self ..
  · rw [kept, bound, both]
    exact ⟨_, registered_addedFor acceptSession state valid modle, rfl⟩

/-- An entry that was under the socket before is kept in place of the new
session, or removed with it. -/
theorem not_ownedOrUndone_known
    (accepted : 0 < turn.nAcceptSock)
    (fresh : FreshSocket state turn.nAcceptSock)
    (found : acceptSession.nextModle state = some modle)
    (known : turn.nAcceptSock ∈ state.mgr.tcpSessions) :
    ¬(acceptRound acceptSession state turn ⟨true, true⟩).OwnedOrUndone state
      turn.nAcceptSock := by
  have valid : turn.nAcceptSock ≠ -1 := by omega
  obtain ⟨old, isOld⟩ :=
    Option.isSome_iff_exists.mp (AList.lookup_isSome.mpr known)
  have older : old < state.constructed := fresh.older turn.nAcceptSock old isOld
  have stays : (addedFor acceptSession state modle turn []).mgr.findSession
      turn.nAcceptSock = some old := by
    rw [findSession_addedFor valid, if_neg (by simp [known])]
    exact isOld
  rw [acceptRound_allocated accepted]
  obtain ⟨events, own, ⟨-, drops⟩ | ⟨-, -, both, kept⟩⟩ :=
    acceptOne_cases accepted found
  · have gone : (acceptOne acceptSession state turn).1.mgr.findSession
        turn.nAcceptSock = none := by
      rw [drops.find, if_pos rfl]
    rintro (⟨session, owned⟩ | undone)
    · have impossible := gone.symm.trans owned.found
      contradiction
    · have same := (gone.symm.trans (undone.map turn.nAcceptSock)).trans isOld
      contradiction
  · rintro (⟨session, owned⟩ | undone)
    · have isSession : old = session := by
        have here : (acceptOne acceptSession state turn).1.mgr.findSession
            turn.nAcceptSock = some session := owned.found
        rw [kept] at here
        exact Option.some.inj (stays.symm.trans here)
      obtain ⟨registration, registered, same⟩ := owned.registered
      have isRegistered : (acceptOne acceptSession state
          turn).1.kernel.registrations
            ((acceptOne acceptSession state turn).1.bound session)
            turn.nAcceptSock = some registration := registered
      rw [kept] at isRegistered
      rcases ((initialisedFor acceptSession state modle turn).kernel.performAll_own
        modle state.constructed own).2 _ _ _ isRegistered with before | new
      · have none := fresh.notRegistered
          ((addedFor acceptSession state modle turn events).bound session)
        have absent : state.kernel.registrations
            ((addedFor acceptSession state modle turn events).bound session)
            turn.nAcceptSock = some registration := before
        rw [none] at absent
        contradiction
      · have isNew := new.2.1
        rw [same, ← isSession] at isNew
        exact older.ne isNew
    · have opened : turn.nAcceptSock ∈
          (acceptOne acceptSession state turn).1.kernel.openSockets := by
        rw [kept, openSockets_addedFor own]
        exact List.mem_cons_self ..
      exact undone.closed opened

/-- Otherwise the session owns the socket, or is given up again. -/
theorem ownedOrUndone_unknown
    (accepted : 0 < turn.nAcceptSock)
    (fresh : FreshSocket state turn.nAcceptSock)
    (found : acceptSession.nextModle state = some modle)
    (unknown : turn.nAcceptSock ∉ state.mgr.tcpSessions) :
    (acceptRound acceptSession state turn ⟨true, true⟩).OwnedOrUndone state
      turn.nAcceptSock := by
  have valid : turn.nAcceptSock ≠ -1 := by omega
  rw [acceptRound_allocated accepted, acceptHeap_some accepted found]
  obtain ⟨events, own, ⟨refused, drops⟩ | ⟨addCtl, modCtl, armed, kept⟩⟩ :=
    acceptOne_cases accepted found
  · refine Or.inr (undone_drops valid fresh unknown own drops ?_)
    have notBoth : ¬(turn.addCtl = true ∧ turn.modCtl = true) := by
      rcases refused with add | mod
      · simp [add]
      · simp [mod]
    rw [if_neg notBoth]
    rfl
  · refine Or.inl ⟨state.constructed,
      owned_addedFor valid unknown own armed kept ?_⟩
    rw [if_pos ⟨addCtl, modCtl⟩]
    rfl

end Exits

/-- A round of the accept loop leaves its socket with a session or leaves no
trace of it exactly if both objects can be allocated, the descriptor is not 0, a
module is found, and no entry is left under the descriptor from an earlier
connection. -/
theorem ownedOrUndone_iff
    (acceptSession : AcceptSession)
    (state : ServerState)
    (turn : AcceptTurn)
    (allocations : Allocations)
    (accepted : 0 ≤ turn.nAcceptSock)
    (fresh : FreshSocket state turn.nAcceptSock) :
    (acceptRound acceptSession state turn allocations).OwnedOrUndone state
        turn.nAcceptSock ↔
      (allocations.session = true ∧ allocations.netFiveElement = true) ∧
        turn.nAcceptSock ≠ 0 ∧ (acceptSession.nextModle state).isSome ∧
          turn.nAcceptSock ∉ state.mgr.tcpSessions := by
  by_cases zero : turn.nAcceptSock = 0
  · refine iff_of_false (not_ownedOrUndone_open fresh ?_) fun all => all.2.1 zero
    rw [acceptRound, if_neg (by omega), if_pos zero]
  · have positive : 0 < turn.nAcceptSock := by omega
    obtain ⟨hasSession, hasRecord⟩ := allocations
    cases hasSession with
    | false =>
        refine iff_of_false (not_ownedOrUndone_open fresh ?_)
          fun all => absurd all.1.1 Bool.false_ne_true
        rw [acceptRound, if_neg (by omega), if_neg zero, if_pos rfl]
    | true =>
        cases hasRecord with
        | false =>
            refine iff_of_false (not_ownedOrUndone_open fresh ?_)
              fun all => absurd all.1.2 Bool.false_ne_true
            rw [acceptRound, if_neg (by omega), if_neg zero, if_neg (by decide),
              if_pos rfl]
            rfl
        | true =>
            rw [and_iff_right (And.intro rfl rfl), and_iff_right zero]
            cases found : acceptSession.nextModle state with
            | none =>
                refine iff_of_false (not_ownedOrUndone_open fresh ?_)
                  fun some => absurd some.1 Bool.false_ne_true
                rw [acceptRound_allocated positive, acceptOne_none positive found]
                rfl
            | some modle =>
                by_cases known : turn.nAcceptSock ∈ state.mgr.tcpSessions
                · exact iff_of_false
                    (not_ownedOrUndone_known positive fresh found known)
                    fun unknown => unknown.2 known
                · exact iff_of_true (ownedOrUndone_unknown positive fresh found known)
                    ⟨rfl, known⟩

theorem ownedOrUndone_accepted :
    (acceptRound oneModle (.initial blankMemory true)
      (acceptAt 0x7f0000001010) ⟨true, true⟩).OwnedOrUndone
        (.initial blankMemory true) 16 := by
  have fresh : FreshSocket (.initial blankMemory true) 16 :=
    (registry_initial blankMemory true).freshSocket (by decide)
  exact (ownedOrUndone_iff oneModle _ (acceptAt 0x7f0000001010) ⟨true, true⟩
    (by decide) fresh).mpr ⟨⟨rfl, rfl⟩, by decide, rfl, by decide⟩

/-- The exit for a module that is not found closes nothing. -/
theorem not_ownedOrUndone_noModles :
    ¬∀ (acceptSession : AcceptSession) (state : ServerState) (turn : AcceptTurn)
        (allocations : Allocations),
      0 ≤ turn.nAcceptSock → FreshSocket state turn.nAcceptSock →
        (acceptRound acceptSession state turn allocations).OwnedOrUndone state
          turn.nAcceptSock := by
  intro always
  have fresh : FreshSocket (.initial blankMemory true)
      (acceptAt 0x7f0000001010).nAcceptSock :=
    (registry_initial blankMemory true).freshSocket (by decide)
  rcases always noModles _ (acceptAt 0x7f0000001010) ⟨true, true⟩ (by decide)
    fresh with ⟨session, owned⟩ | undone
  · obtain ⟨registration, registered, -⟩ := owned.registered
    contradiction
  · exact undone.closed (List.mem_cons_self ..)

end TransPortEngine
