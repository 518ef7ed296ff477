import TransPortEngine.Server.Creation
import TransPortEngine.Server.FailureDispatch

/-!
# Finding a module for a connection

The accept loop counts its connections in a signed word and takes the remainder
by the number of modules. `AcceptSession_Init` rejects a number of 0 only: with a
negative one it creates no module, and when the counter has wrapped the remainder
is negative unless it is 0. The workers of a module may be missing as well, since
`pthread_create` never returns a negative value.
-/

namespace TransPortEngine

open MachineInt Transition

/-! ## The counter -/

namespace ServerState

variable (state : ServerState) (modle : Nat) (session : SessionId)

theorem nAcceptIndex_teardown (done : Bool) (call : Teardown) :
    (state.teardown modle session done call).1.nAcceptIndex =
      state.nAcceptIndex := by
  cases call with
  | _ => rfl

theorem nAcceptIndex_teardownAll (done : Bool) (calls : List Teardown) :
    (state.teardownAll modle session done calls).1.nAcceptIndex =
      state.nAcceptIndex := by
  induction calls generalizing state with
  | nil => rfl
  | cons call calls inductionHypothesis =>
      exact (inductionHypothesis _).trans
        (state.nAcceptIndex_teardown modle session done call)

end ServerState

section Counter

variable {acceptSession : AcceptSession} {state : ServerState}

theorem nAcceptIndex_acceptInitialised
    (modle : Nat)
    (session : SessionId)
    (turn : AcceptTurn) :
    (acceptInitialised state modle session turn).1.nAcceptIndex =
      state.nAcceptIndex := by
  unfold acceptInitialised
  dsimp only
  split
  · exact ServerState.nAcceptIndex_teardownAll ..
  · split
    · exact ServerState.nAcceptIndex_teardownAll ..
    · rfl

/-- A connection is counted before anything is done for it. -/
theorem nAcceptIndex_acceptOne
    {turn : AcceptTurn}
    (accepted : 0 < turn.nAcceptSock) :
    (acceptOne acceptSession state turn).1.nAcceptIndex =
      signed32 (state.nAcceptIndex + 1) := by
  cases found : acceptSession.nextModle state with
  | none =>
      rw [acceptOne_none accepted found]
      rfl
  | some modle =>
      rw [acceptOne_some accepted found, nAcceptIndex_acceptInitialised]
      rfl

theorem nAcceptIndex_handleIn
    (modle : Nat)
    (bFlag : Bool)
    (session : SessionId)
    (event : EpollEvent)
    (turn : EventTurn) :
    (handleIn state modle bFlag session event turn).state.nAcceptIndex =
      state.nAcceptIndex := by
  unfold handleIn
  dsimp only
  split
  · rfl
  · split
    · split
      · exact ServerState.nAcceptIndex_teardownAll ..
      · rfl
    · rfl

theorem nAcceptIndex_handleEvent
    (modle : Nat)
    (bFlag : Bool)
    (session : SessionId)
    (event : EpollEvent)
    (turn : EventTurn) :
    (handleEvent state modle bFlag session event turn).state.nAcceptIndex =
      state.nAcceptIndex := by
  unfold handleEvent
  dsimp only
  split
  · rfl
  · split
    · split
      · rfl
      · split
        · exact ServerState.nAcceptIndex_teardownAll ..
        · exact nAcceptIndex_handleIn ..
    · exact nAcceptIndex_handleIn ..

theorem nAcceptIndex_handle
    {modle : Nat}
    {bFlag : Bool}
    {nSocket : Int}
    {mask : EpollEvents}
    {turn : EventTurn}
    {session : SessionId}
    {handled : Handled}
    (handling : state.handle modle bFlag nSocket mask turn =
      some (session, handled)) :
    handled.state.nAcceptIndex = state.nAcceptIndex := by
  obtain ⟨event, kernel, -, rfl, -⟩ := ServerState.handle_eq_some handling
  exact nAcceptIndex_handleEvent ..

theorem nAcceptIndex_visitSessions
    (visits : Int → Visit)
    (sockets : List Int) :
    (visitSessions acceptSession visits state sockets).1.nAcceptIndex =
      state.nAcceptIndex := by
  induction sockets generalizing state with
  | nil => rfl
  | cons nSocket sockets inductionHypothesis =>
      rw [visitSessions]
      split
      · exact inductionHypothesis
      · apply inductionHypothesis.trans
        unfold visitSession
        dsimp only
        split
        · split
          · rfl
          · exact ServerState.nAcceptIndex_teardownAll ..
        · rfl

end Counter

/-- A connection is accepted. -/
def DispatchLabel.accepts : DispatchLabel → Bool
  | .accept turn => decide (0 < turn.nAcceptSock)
  | _ => false

/-- Number of connections accepted in a run. -/
def connections (labels : List DispatchLabel) : Nat :=
  labels.countP DispatchLabel.accepts

/-- Every accepted connection counts one. -/
theorem nAcceptIndex_dispatchStep
    {acceptSession : AcceptSession}
    {state next : DispatchState}
    {label : DispatchLabel}
    (stepped : dispatchStep acceptSession state label = some next) :
    next.server.nAcceptIndex =
      if label.accepts then signed32 (state.server.nAcceptIndex + 1)
      else state.server.nAcceptIndex := by
  cases dispatchStep_cases stepped with
  | @accept turn =>
      rcases le_or_gt turn.nAcceptSock 0 with refused | accepted
      · have noConnection : ¬0 < turn.nAcceptSock := by omega
        simp only [acceptOne_refused refused, DispatchLabel.accepts,
          noConnection, decide_false, Bool.false_eq_true, if_false]
      · simp only [nAcceptIndex_acceptOne accepted, DispatchLabel.accepts,
          accepted, decide_true, if_true]
  | event handling => exact nAcceptIndex_handle handling
  | heartbeat => exact nAcceptIndex_visitSessions _ _

/-- The counter is the number of connections, wrapped. -/
theorem nAcceptIndex_run
    {acceptSession : AcceptSession}
    {labels : List DispatchLabel}
    {state last : DispatchState}
    {counted : Nat}
    (start : state.server.nAcceptIndex = signed32 counted)
    (reached : run (dispatchStep acceptSession) state labels = some last) :
    last.server.nAcceptIndex =
      signed32 ((counted + connections labels : Nat) : Int) := by
  induction labels generalizing state counted with
  | nil =>
      rw [run_nil, Option.some.injEq] at reached
      rw [← reached]
      exact start
  | cons label labels inductionHypothesis =>
      obtain ⟨next, stepped, reachedLater⟩ := run_cons reached
      have index := nAcceptIndex_dispatchStep stepped
      rw [start] at index
      rw [connections, List.countP_cons, ← connections]
      cases accepts : label.accepts with
      | false =>
          rw [accepts, if_neg Bool.false_ne_true] at index
          rw [if_neg Bool.false_ne_true, Nat.add_zero]
          exact inductionHypothesis index reachedLater
      | true =>
          rw [accepts, if_pos rfl, signed32_add_signed32, ← Nat.cast_succ]
            at index
          rw [if_pos rfl, ← Nat.add_assoc, Nat.add_right_comm]
          exact inductionHypothesis index reachedLater

/-! ## The modules -/

/-- `NetEventModleMgr_FindModle` in the map `NetEventModleMgr_Init` has filled. -/
def ServerHandles.findModle
    (handles : ServerHandles)
    (nNetEventModleIndex : Int) : Option NetEventModleEpoll :=
  handles.netEventModles.find?
    fun modle => (modle.nNetEventModleIndex : Int) = nNetEventModleIndex

/-- The index `AcceptSession_Accept` computes for the next connection. -/
def AcceptSession.nextIndex
    (acceptSession : AcceptSession)
    (state : ServerState) : Int :=
  (signed32 (state.nAcceptIndex + 1)).tmod acceptSession.nEventModleCount

/-- The next connection finds a module, with at least one worker. -/
def FindsWorkers
    (ledger : Ledger)
    (handles : ServerHandles)
    (nNetEventModleIndex : Int) : Prop :=
  ∃ modle, handles.findModle nNetEventModleIndex = some modle ∧
    modle.runningWorkers ledger ≠ []

section Modules

variable {nListenPort nNetEventModleCount nNetEventModleThreadCount : Int}
  {calls : ServerCalls}

/-- The modules that were created are those of the indices below their number. -/
theorem findModle_handles
    (nSocket index : Int) :
    (calls.handles nNetEventModleCount nNetEventModleThreadCount
        nSocket).findModle index =
      if 0 ≤ index ∧ index < nNetEventModleCount then
        some ((calls.modles index.toNat).modle nNetEventModleThreadCount
          index.toNat)
      else none := by
  rw [ServerHandles.findModle]
  split
  · rename_i inside
    obtain ⟨i, rfl⟩ := Int.eq_ofNat_of_zero_le inside.1
    rw [ServerCalls.handles, List.find?_map, Int.toNat_natCast]
    have found : (List.range nNetEventModleCount.toNat).find?
        ((fun modle : NetEventModleEpoll =>
          decide ((modle.nNetEventModleIndex : Int) = i)) ∘ fun i =>
            (calls.modles i).modle nNetEventModleThreadCount i) = some i := by
      rw [List.find?_range_eq_some]
      refine ⟨by simp [ModleCalls.modle], List.mem_range.mpr (by omega), ?_⟩
      intro other below
      simp only [ModleCalls.modle, Function.comp_apply, Bool.not_eq_true',
        decide_eq_false_iff_not, Nat.cast_inj]
      omega
    rw [found]
    rfl
  · rename_i outside
    rw [List.find?_eq_none]
    intro modle member
    simp only [ServerCalls.handles, List.mem_map, List.mem_range] at member
    obtain ⟨i, below, rfl⟩ := member
    rw [decide_eq_true_iff]
    intro same
    exact outside ⟨same ▸ Int.natCast_nonneg i, by
      rw [← same]
      exact Int.lt_of_toNat_lt below⟩

/-- A module has a worker when `pthread_create` has returned 0 for one. -/
theorem runningWorkers_ne_nil_iff
    {ledger : Ledger}
    {handles : ServerHandles}
    {i : Nat}
    (noThreads : ledger.threads = [])
    (below : i < nNetEventModleCount.toNat) :
    ((calls.modles i).modle nNetEventModleThreadCount i).runningWorkers
        (calls.ledger nNetEventModleCount nNetEventModleThreadCount ledger
          handles) ≠ [] ↔
      ∃ number < nNetEventModleThreadCount.toNat,
        (calls.modles i).workThread number = 0 := by
  rw [NetEventModleEpoll.runningWorkers, ne_eq, List.filter_eq_nil_iff]
  simp only [ModleCalls.modle, List.mem_map, List.mem_range, decide_eq_true_eq]
  push Not
  constructor
  · rintro ⟨thread, ⟨number, started, rfl⟩, runs⟩
    exact ⟨number, started, ((worker_mem_ledger noThreads i number).mp runs).2.2⟩
  · rintro ⟨number, started, runs⟩
    exact ⟨_, ⟨number, started, rfl⟩,
      (worker_mem_ledger noThreads i number).mpr ⟨below, started, runs⟩⟩

/-- What there is when `AcceptSession_Init` returns 0. -/
theorem acceptSessionInit_zero
    {ledger : Ledger}
    {handles : ServerHandles}
    (initialised : acceptSessionInit nListenPort nNetEventModleCount
      nNetEventModleThreadCount calls = (ledger, handles, 0)) :
    ∃ descriptor : Nat,
      ledger = calls.ledger nNetEventModleCount nNetEventModleThreadCount
        ⟨[(descriptor : Int)], [(descriptor : Int)], [], [], [], []⟩
        ⟨descriptor, 0, []⟩ ∧
      handles = calls.handles nNetEventModleCount nNetEventModleThreadCount
        descriptor := by
  have modleCount : nNetEventModleCount ≠ 0 := by
    intro zero
    have failed : (acceptSessionInit nListenPort nNetEventModleCount
        nNetEventModleThreadCount calls).2.2 < 0 :=
      (acceptSessionInit_noSocket _ (Or.inr (Or.inl zero))).2
    rw [initialised] at failed
    exact lt_irrefl 0 failed
  have created : createServer nListenPort nNetEventModleCount
      nNetEventModleThreadCount calls = (ledger, some handles) := by
    rw [createServer, initialised]
    exact if_neg (lt_irrefl 0)
  obtain ⟨descriptor, -, isLedger, isHandles⟩ :=
    createServer_some modleCount created
  exact ⟨descriptor, isLedger, isHandles⟩

/-- The modules the accept loop looks among are those that were created. -/
theorem findModle_eq
    {acceptSession : AcceptSession}
    (sameCount : acceptSession.nEventModleCount = nNetEventModleCount)
    (nSocket index : Int) :
    ((calls.handles nNetEventModleCount nNetEventModleThreadCount
        nSocket).findModle index).map NetEventModleEpoll.nNetEventModleIndex =
      acceptSession.findModle index := by
  rw [findModle_handles, AcceptSession.findModle, sameCount]
  split
  · rfl
  · rfl

end Modules

/-- The next connection of a server finds a module with a worker exactly if the
number of modules is positive, the counter is not negative or a multiple of it,
and `pthread_create` has returned 0 for a worker of that module. -/
theorem findsWorkers_iff
    {nListenPort nNetEventModleCount nNetEventModleThreadCount : Int}
    {calls : ServerCalls}
    {ledger : Ledger}
    {handles : ServerHandles}
    (initialised : acceptSessionInit nListenPort nNetEventModleCount
      nNetEventModleThreadCount calls = (ledger, handles, 0))
    (acceptSession : AcceptSession)
    (sameCount : acceptSession.nEventModleCount = nNetEventModleCount)
    (memory : SessionId → TcpSession)
    (bIsHeartbeat : Bool)
    (labels : List DispatchLabel)
    (state : DispatchState)
    (reached : run (dispatchStep acceptSession)
      (DispatchState.initial memory bIsHeartbeat) labels = some state) :
    FindsWorkers ledger handles (acceptSession.nextIndex state.server) ↔
      0 < nNetEventModleCount ∧
        (0 ≤ signed32 (connections labels + 1) ∨
          nNetEventModleCount ∣ signed32 (connections labels + 1)) ∧
        ∃ number < nNetEventModleThreadCount.toNat,
          (calls.modles ((signed32 (connections labels + 1)).tmod
            nNetEventModleCount).toNat).workThread number = 0 := by
  obtain ⟨descriptor, rfl, rfl⟩ := acceptSessionInit_zero initialised
  have counter : state.server.nAcceptIndex =
      signed32 ((0 + connections labels : Nat) : Int) :=
    nAcceptIndex_run rfl reached
  rw [Nat.zero_add] at counter
  have index : acceptSession.nextIndex state.server =
      (signed32 (connections labels + 1)).tmod nNetEventModleCount := by
    rw [AcceptSession.nextIndex, counter, signed32_add_signed32, sameCount]
  rw [index, FindsWorkers, findModle_handles]
  constructor
  · rintro ⟨modle, found, runs⟩
    split at found
    · rename_i inside
      have positive : 0 < nNetEventModleCount := inside.1.trans_lt inside.2
      rw [← Option.some.inj found] at runs
      exact ⟨positive, (tmod_nonneg_iff _ _).mp inside.1,
        (runningWorkers_ne_nil_iff rfl (by omega)).mp runs⟩
    · contradiction
  · rintro ⟨positive, nonneg, worker⟩
    have lower := (tmod_nonneg_iff _ _).mpr nonneg
    have upper := Int.tmod_lt_of_pos (signed32 (connections labels + 1)) positive
    rw [if_pos ⟨lower, upper⟩]
    exact ⟨_, rfl, (runningWorkers_ne_nil_iff rfl (by omega)).mpr worker⟩

/-- Every system call of the creation of a server succeeds. -/
def everyCall : ServerCalls where
  socket := some 3
  setsockopt := true
  bind := true
  listen := true
  heartbeatThread := 0
  modles i := ⟨some (i + 5), fun _ => 0⟩
  acceptEpoll := some 4
  epollCtl := true
  acceptThread := 0
  modle_fresh descriptor isSocket i := by
    have three := Option.some.inj isSocket
    simp only [ne_eq, Option.some.injEq]
    omega
  accept_fresh descriptor isSocket := by
    have three := Option.some.inj isSocket
    simp only [ne_eq, Option.some.injEq]
    omega

theorem findsWorkers_oneModle :
    FindsWorkers (acceptSessionInit 9000 1 1 everyCall).1
      (acceptSessionInit 9000 1 1 everyCall).2.1
      (oneModle.nextIndex (.initial blankMemory true)) := by
  have initialised : acceptSessionInit 9000 1 1 everyCall =
      ((acceptSessionInit 9000 1 1 everyCall).1,
        (acceptSessionInit 9000 1 1 everyCall).2.1, 0) := rfl
  exact (findsWorkers_iff initialised oneModle rfl blankMemory true [] _ rfl).mpr
    ⟨by decide, Or.inl (by decide), 0, by decide, rfl⟩

/-- `AcceptSession_Init` returns 0, and there is no module for the first
connection. -/
theorem not_findsWorkers_negativeModles :
    ¬∀ (nListenPort nNetEventModleCount nNetEventModleThreadCount : Int)
        (calls : ServerCalls) (ledger : Ledger) (handles : ServerHandles)
        (acceptSession : AcceptSession) (memory : SessionId → TcpSession)
        (bIsHeartbeat : Bool) (labels : List DispatchLabel)
        (state : DispatchState),
      acceptSessionInit nListenPort nNetEventModleCount
          nNetEventModleThreadCount calls = (ledger, handles, 0) →
        acceptSession.nEventModleCount = nNetEventModleCount →
          run (dispatchStep acceptSession)
              (DispatchState.initial memory bIsHeartbeat) labels = some state →
            FindsWorkers ledger handles
              (acceptSession.nextIndex state.server) := by
  intro always
  obtain ⟨modle, found, -⟩ := always 9000 (-1) 1 everyCall _ _ noModles
    blankMemory true [] _ rfl rfl rfl
  contradiction

end TransPortEngine
