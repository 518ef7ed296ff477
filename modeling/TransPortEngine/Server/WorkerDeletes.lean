import TransPortEngine.Library.Transition
import TransPortEngine.Server.Handlers

/-!
# What a worker deletes

A worker keeps `bFlag` outside its loop over the events. Only the branch for
`EPOLLOUT` resets it, so that the branch for `EPOLLIN` can find it set by an
earlier event and delete a session that another thread has removed.
-/

namespace TransPortEngine

open Transition

/-- An event that a worker handles: the server it finds, the session and the
event it has fetched, and what the calls return. Between two events the other
threads can do anything. -/
structure WorkerEvent where
  state : ServerState
  session : SessionId
  event : EpollEvent
  turn : EventTurn

namespace WorkerEvent

/-- The event as a worker of a module handles it. -/
def handled (label : WorkerEvent) (modle : Nat) (bFlag : Bool) : Handled :=
  handleEvent label.state modle bFlag label.session label.event label.turn

/-- `TcpSessionMgr_DelSession` finds no entry for the event. -/
def Unlisted (label : WorkerEvent) : Prop :=
  label.state.mgr.findSession label.event.fd = none

/-- The event is looked at, and has room for data. -/
def Writes (label : WorkerEvent) : Prop :=
  label.event.events.skipped = false ∧ label.event.events.epollOut = true

/-- The event has data only, and `TcpSession_IORecv()` fails on it. -/
def ReceiveFails (label : WorkerEvent) : Prop :=
  label.event.events.skipped = false ∧ label.event.events.epollOut = false ∧
    label.event.events.epollIn = true ∧ label.event.ptr ≠ 0 ∧
      ∃ nRet < 0, ((label.state.memory label.session).ioRecv
        label.turn.turns).result = .returned nRet

end WorkerEvent

/-- A worker goes on to its next event when the call on a session has
returned. -/
def workerStep
    (modle : Nat)
    (bFlag : Bool)
    (label : WorkerEvent) : Option Bool :=
  let handled := label.handled modle bFlag
  if handled.returned then some handled.bFlag else none

/-- The session is deleted only behind a successful
`TcpSessionMgr_DelSession` and `TcpSession_Fini` for the same event. -/
def DeletesRemoved (modle : Nat) (bFlag : Bool) (label : WorkerEvent) : Prop :=
  .delete ∈ (label.handled modle bFlag).calls →
    (label.state.mgr.delSession label.event.fd).2 = 0 ∧
      (label.state.memory label.session).fini.2.2 = 0 ∧
        (label.handled modle bFlag).calls =
          [.delSession label.event.fd, .delEvent, .fini, .delete]

/-- The flag is left from an earlier event when a call fails whose session
another thread has removed. -/
def LeftoverFlag (bFlag : Bool) (label : WorkerEvent) : Prop :=
  bFlag = true ∧ label.ReceiveFails ∧ label.Unlisted

/-! ## One event -/

section Event

variable (modle : Nat) (bFlag : Bool)

/-- The result of `TcpSessionMgr_DelSession` tells whether there was an
entry. -/
theorem delSession_neg_iff (mgr : TcpSessionMgr) (nSocket : Int) :
    (mgr.delSession nSocket).2 < 0 ↔ mgr.findSession nSocket = none := by
  rw [TcpSessionMgr.findSession, AList.lookup_eq_none, TcpSessionMgr.delSession]
  split
  · rename_i listed
    simp [listed]
  · rename_i unlisted
    simp [unlisted]

/-- What is called after a failure. -/
theorem calls_handleFailure
    (state : ServerState)
    (session : SessionId)
    (nSock : Int)
    (delCtl : Bool) :
    (handleFailure state modle bFlag session nSock delCtl).calls =
      if state.mgr.findSession nSock = none then
        if bFlag then [.delSession nSock, .delete] else [.delSession nSock]
      else [.delSession nSock, .delEvent, .fini, .delete] := by
  simp only [handleFailure, delSession_neg_iff]

/-- After a failure the session is deleted if it was removed, or if the flag was
set. -/
theorem deletes_handleFailure
    (state : ServerState)
    (session : SessionId)
    (nSock : Int)
    (delCtl : Bool) :
    (.delete ∈ (handleFailure state modle bFlag session nSock delCtl).calls →
        (state.mgr.delSession nSock).2 = 0 ∧
          (handleFailure state modle bFlag session nSock delCtl).calls =
            [.delSession nSock, .delEvent, .fini, .delete]) ↔
      ¬(bFlag = true ∧ state.mgr.findSession nSock = none) := by
  rw [calls_handleFailure, TcpSessionMgr.delSession_eq_zero_iff,
    Option.isSome_iff_ne_none]
  by_cases unlisted : state.mgr.findSession nSock = none
  · cases bFlag <;> simp [unlisted]
  · simp [unlisted]

/-- The branch for `EPOLLIN` deletes a session that was not removed exactly if
the flag is set when the receive call fails. -/
theorem deletes_handleIn
    (state : ServerState)
    (session : SessionId)
    (event : EpollEvent)
    (turn : EventTurn) :
    let handled := handleIn state modle bFlag session event turn
    (.delete ∈ handled.calls →
        (state.mgr.delSession event.fd).2 = 0 ∧
          handled.calls = [.delSession event.fd, .delEvent, .fini, .delete]) ↔
      ¬(bFlag = true ∧
        (event.events.epollIn = true ∧ event.ptr ≠ 0 ∧
          ∃ nRet < 0, ((state.memory session).ioRecv turn.turns).result =
            .returned nRet) ∧
        state.mgr.findSession event.fd = none) := by
  have quiet : ∀ handled : Handled, handled.calls = [] →
      (.delete ∈ handled.calls →
        (state.mgr.delSession event.fd).2 = 0 ∧
          handled.calls =
            [.delSession event.fd, .delEvent, .fini, .delete]) := by
    intro handled none impossible
    rw [none] at impossible
    contradiction
  dsimp only
  unfold handleIn
  split
  · rename_i ignored
    apply iff_of_true (quiet _ rfl)
    rintro ⟨-, ⟨isIn, pointer, -⟩, -⟩
    rcases ignored with noIn | noPointer
    · rw [isIn] at noIn
      contradiction
    · exact pointer noPointer
  · rename_i regarded
    rw [not_or, Bool.not_eq_false] at regarded
    dsimp only
    split
    · rename_i nRet returned
      by_cases negative : nRet < 0
      · rw [if_pos negative]
        refine (deletes_handleFailure modle bFlag _ session event.fd
          turn.delCtl).trans
          (not_congr ?_)
        exact ⟨fun both => ⟨both.1,
            ⟨regarded.1, regarded.2, nRet, negative, returned⟩, both.2⟩,
          fun both => ⟨both.1, both.2.2⟩⟩
      · rw [if_neg negative]
        apply iff_of_true (quiet _ rfl)
        rintro ⟨-, ⟨-, -, other, below, same⟩, -⟩
        rw [returned, CallResult.returned.injEq] at same
        exact negative (same ▸ below)
    · rename_i other
      apply iff_of_true (quiet _ rfl)
      rintro ⟨-, ⟨-, -, nRet, -, same⟩, -⟩
      exact other nRet same

/-- A worker deletes only what it has removed, unless the flag is left from an
earlier event. -/
theorem deletesRemoved_iff_not_leftover (label : WorkerEvent) :
    DeletesRemoved modle bFlag label ↔ ¬LeftoverFlag bFlag label := by
  have finished : (label.state.memory label.session).fini.2.2 = 0 := rfl
  have drop : DeletesRemoved modle bFlag label ↔
      (.delete ∈ (label.handled modle bFlag).calls →
        (label.state.mgr.delSession label.event.fd).2 = 0 ∧
          (label.handled modle bFlag).calls =
            [.delSession label.event.fd, .delEvent, .fini, .delete]) := by
    simp only [DeletesRemoved, finished, true_and]
  rw [drop]
  unfold WorkerEvent.handled handleEvent LeftoverFlag WorkerEvent.ReceiveFails
    WorkerEvent.Unlisted
  cases skipped : label.event.events.skipped with
  | true => simp
  | false =>
      cases out : label.event.events.epollOut with
      | false =>
          have inBranch := deletes_handleIn modle bFlag label.state label.session
            label.event label.turn
          simpa using inBranch
      | true =>
          refine iff_of_true ?_ ?_
          · rw [if_neg Bool.false_ne_true, if_pos rfl]
            split
            · intro impossible
              contradiction
            · dsimp only
              split
              · exact (deletes_handleFailure modle false _ label.session
                  label.event.fd label.turn.delCtl).mpr fun both =>
                    absurd both.1 Bool.false_ne_true
              · exact (deletes_handleIn modle false _ label.session label.event
                  label.turn).mpr fun both => absurd both.1 Bool.false_ne_true
          · rintro ⟨-, ⟨-, noOut, -⟩, -⟩
            contradiction

/-- After a failure the flag is set if the session was removed, or before. -/
theorem bFlag_handleFailure
    (state : ServerState)
    (session : SessionId)
    (nSock : Int)
    (delCtl : Bool) :
    let handled := handleFailure state modle bFlag session nSock delCtl
    handled.bFlag = true ↔ .fini ∈ handled.calls ∨ bFlag = true := by
  dsimp only
  rw [calls_handleFailure]
  simp only [handleFailure, delSession_neg_iff]
  by_cases unlisted : state.mgr.findSession nSock = none
  · cases bFlag <;> simp [unlisted]
  · simp [unlisted]

/-- The branch for `EPOLLIN` sets the flag if it removes the session, and never
resets it. -/
theorem bFlag_handleIn
    (state : ServerState)
    (session : SessionId)
    (event : EpollEvent)
    (turn : EventTurn) :
    let handled := handleIn state modle bFlag session event turn
    handled.bFlag = true ↔ .fini ∈ handled.calls ∨ bFlag = true := by
  have kept : bFlag = true ↔ .fini ∈ ([] : List Teardown) ∨ bFlag = true := by
    simp
  dsimp only
  unfold handleIn
  split
  · exact kept
  · dsimp only
    split
    · split
      · exact bFlag_handleFailure modle bFlag _ session event.fd turn.delCtl
      · exact kept
    · exact kept

/-- An event leaves the flag set if the worker removes the session, or if it was
set before and the event has no room for data. -/
theorem bFlag_handled (label : WorkerEvent) :
    (label.handled modle bFlag).bFlag = true ↔
      .fini ∈ (label.handled modle bFlag).calls ∨
        bFlag = true ∧ ¬label.Writes := by
  unfold WorkerEvent.handled handleEvent WorkerEvent.Writes
  cases skipped : label.event.events.skipped with
  | true => simp
  | false =>
      cases out : label.event.events.epollOut with
      | false =>
          have inBranch := bFlag_handleIn modle bFlag label.state label.session
            label.event label.turn
          simpa using inBranch
      | true =>
          have noneKept : ∀ calls : List Teardown,
              (.fini ∈ calls ∨ false = true) ↔
                .fini ∈ calls ∨ bFlag = true ∧
                  ¬(false = false ∧ true = true) := by
            intro calls
            simp
          rw [if_neg Bool.false_ne_true, if_pos rfl]
          split
          · exact (iff_of_false Bool.false_ne_true (by simp)).trans
              (noneKept [])
          · dsimp only
            split
            · exact (bFlag_handleFailure modle false _ label.session
                label.event.fd label.turn.delCtl).trans (noneKept _)
            · exact (bFlag_handleIn modle false _ label.session label.event
                label.turn).trans (noneKept _)

end Event

/-! ## All events of a worker -/

/-- The flag is set behind events of which one has removed its session and none
since then had room for data. -/
theorem bFlag_of_run
    {modle : Nat}
    {labels : List WorkerEvent}
    {bFlag : Bool}
    (reached : run (workerStep modle) false labels = some bFlag) :
    bFlag = true ↔
      ∃ before label after middle, labels = before ++ label :: after ∧
        run (workerStep modle) false before = some middle ∧
          .fini ∈ (label.handled modle middle).calls ∧
            ∀ other ∈ after, ¬other.Writes := by
  induction labels using List.reverseRecOn generalizing bFlag with
  | nil =>
      rw [run_nil, Option.some.injEq] at reached
      subst reached
      simp
  | append_singleton labels last inductionHypothesis =>
      rw [run_append, Option.bind_eq_some_iff] at reached
      obtain ⟨flag, reachedLabels, lastStep⟩ := reached
      obtain ⟨next, stepped, isNext⟩ := run_cons lastStep
      rw [run_nil, Option.some.injEq] at isNext
      have nextEq : next = (last.handled modle flag).bFlag := by
        simp only [workerStep] at stepped
        split at stepped
        · exact (Option.some.inj stepped).symm
        · contradiction
      rw [← isNext, nextEq, bFlag_handled]
      constructor
      · rintro (removed | ⟨set, noRoom⟩)
        · exact ⟨labels, last, [], flag, rfl, reachedLabels, removed,
            fun other impossible => by contradiction⟩
        · obtain ⟨before, label, after, middle, rfl, reachedBefore, removed,
            quiet⟩ := (inductionHypothesis reachedLabels).mp set
          refine ⟨before, label, after ++ [last], middle, by simp,
            reachedBefore, removed, fun other member => ?_⟩
          rcases List.mem_append.mp member with early | isLast
          · exact quiet other early
          · rw [List.mem_singleton.mp isLast]
            exact noRoom
      · rintro ⟨before, label, after, middle, split, reachedBefore, removed,
          quiet⟩
        rcases List.eq_nil_or_concat after with rfl | ⟨rest, final, rfl⟩
        · obtain ⟨rfl, isLast⟩ := List.append_inj' split rfl
          rw [List.cons.injEq] at isLast
          rw [reachedLabels, Option.some.injEq] at reachedBefore
          rw [isLast.1, reachedBefore]
          exact Or.inl removed
        · rw [List.concat_eq_append, ← List.cons_append, ← List.append_assoc]
            at split
          obtain ⟨rfl, isLast⟩ := List.append_inj' split rfl
          rw [List.cons.injEq] at isLast
          rw [isLast.1]
          refine Or.inr ⟨(inductionHypothesis reachedLabels).mpr
            ⟨before, label, rest, middle, rfl, reachedBefore, removed,
              fun other member => quiet other (by simp [member])⟩,
            quiet final (by simp)⟩

/-- A worker deletes only what it has removed in the same event, throughout its
events, exactly if the flag is never left from an earlier event when a receive
call fails whose session another thread has removed. Which events leave it set is
the matter of `bFlag_of_run`. -/
theorem deletesRemoved_throughout_iff
    (modle : Nat)
    (labels : List WorkerEvent) :
    Throughout (workerStep modle) (DeletesRemoved modle) false labels ↔
      Throughout (workerStep modle)
        (fun bFlag label => ¬LeftoverFlag bFlag label) false labels :=
  throughout_congr (deletesRemoved_iff_not_leftover modle) false labels

/-! ### A flag that is left -/

/-- A session with a small address, whose connection is closed by the peer. -/
def closedEvent (mgr : TcpSessionMgr) : WorkerEvent where
  state := { ServerState.initial blankMemory false with mgr := mgr }
  session := 0
  event := ⟨⟨true, false, false, false, false, false, true, true⟩, 16⟩
  turn := ⟨.again, true, [⟨.closed, 0, .failed, true⟩], true⟩

/-- The worker removes one session, and then deletes another that the heartbeat
thread has removed. -/
theorem not_deletesRemoved_leftover :
    ¬∀ (modle : Nat) (labels : List WorkerEvent),
      Throughout (workerStep modle) (DeletesRemoved modle) false labels := by
  intro always
  have safe := Throughout.last
    [closedEvent ⟨false, AList.singleton 16 0⟩]
    (always 0 [closedEvent ⟨false, AList.singleton 16 0⟩,
      closedEvent ⟨false, ∅⟩]) rfl
  have removed := (safe (by decide)).1
  exact absurd removed (by decide)

end TransPortEngine
