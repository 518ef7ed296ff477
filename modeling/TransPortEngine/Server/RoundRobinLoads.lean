import TransPortEngine.Server.ModuleIndex
import TransPortEngine.Server.RoundRobin

/-!
# The sessions of a module

The accept loop gives the first connection to the module 1, the next one to the
module behind it, and so on in turn. Whatever the workers and the heartbeat thread
do with the sessions meanwhile, and whatever fails while one is set up, the
modules have been given equally many, as long as the counter has not wrapped.
-/

namespace TransPortEngine

open MachineInt Transition

/-- No session has been constructed, and none has moved to another module. -/
structure ServerState.KeepsModles (state next : ServerState) : Prop where
  bound : next.bound = state.bound
  constructed : next.constructed = state.constructed

namespace ServerState

theorem KeepsModles.refl (state : ServerState) : state.KeepsModles state :=
  ⟨rfl, rfl⟩

theorem KeepsModles.trans
    {first second third : ServerState}
    (before : first.KeepsModles second)
    (after : second.KeepsModles third) :
    first.KeepsModles third :=
  ⟨after.bound.trans before.bound,
    after.constructed.trans before.constructed⟩

variable (state : ServerState) (modle : Nat) (session : SessionId)

theorem keepsModles_teardown (done : Bool) (call : Teardown) :
    state.KeepsModles (state.teardown modle session done call).1 := by
  cases call <;> exact ⟨rfl, rfl⟩

theorem keepsModles_teardownAll (done : Bool) (calls : List Teardown) :
    state.KeepsModles (state.teardownAll modle session done calls).1 := by
  induction calls generalizing state with
  | nil => exact .refl state
  | cons call calls inductionHypothesis =>
      exact (state.keepsModles_teardown modle session done call).trans
        (inductionHypothesis _)

end ServerState

section Handlers

variable {acceptSession : AcceptSession} {state : ServerState}

theorem keepsModles_acceptInitialised
    (modle : Nat)
    (session : SessionId)
    (turn : AcceptTurn) :
    state.KeepsModles (acceptInitialised state modle session turn).1 := by
  have same : ∀ (mgr : TcpSessionMgr) (memory : SessionId → TcpSession)
      (kernel : Kernel), state.KeepsModles
        { state with mgr := mgr, memory := memory, kernel := kernel } :=
    fun _ _ _ => ⟨rfl, rfl⟩
  unfold acceptInitialised
  dsimp only
  split
  · apply (same _ _ _).trans
    exact ServerState.keepsModles_teardownAll ..
  · split
    · apply (same _ _ _).trans
      exact ServerState.keepsModles_teardownAll ..
    · exact same _ _ _

theorem keepsModles_handleFailure
    (modle : Nat)
    (bFlag : Bool)
    (session : SessionId)
    (nSock : Int)
    (delCtl : Bool) :
    state.KeepsModles
      (handleFailure state modle bFlag session nSock delCtl).state := by
  unfold handleFailure
  exact ServerState.keepsModles_teardownAll ..

theorem keepsModles_handleIn
    (modle : Nat)
    (bFlag : Bool)
    (session : SessionId)
    (event : EpollEvent)
    (turn : EventTurn) :
    state.KeepsModles
      (handleIn state modle bFlag session event turn).state := by
  have acts : ∀ (object : TcpSession) (events : List EngineEvent),
      state.KeepsModles
        (state.act (state.bound session) session object events) :=
    fun _ _ => ⟨rfl, rfl⟩
  unfold handleIn
  dsimp only
  split
  · exact .refl state
  · split
    · split
      · exact (acts _ _).trans (keepsModles_handleFailure ..)
      · exact acts _ _
    · exact acts _ _

theorem keepsModles_handleEvent
    (modle : Nat)
    (bFlag : Bool)
    (session : SessionId)
    (event : EpollEvent)
    (turn : EventTurn) :
    state.KeepsModles
      (handleEvent state modle bFlag session event turn).state := by
  have acts : ∀ (object : TcpSession) (events : List EngineEvent),
      state.KeepsModles
        (state.act (state.bound session) session object events) :=
    fun _ _ => ⟨rfl, rfl⟩
  unfold handleEvent
  dsimp only
  split
  · exact .refl state
  · split
    · split
      · exact .refl state
      · split
        · exact (acts _ _).trans (keepsModles_handleFailure ..)
        · exact (acts _ _).trans (keepsModles_handleIn ..)
    · exact keepsModles_handleIn ..

theorem keepsModles_visitSessions
    (visits : Int → Visit)
    (sockets : List Int) :
    state.KeepsModles
      (visitSessions acceptSession visits state sockets).1 := by
  induction sockets generalizing state with
  | nil => exact .refl state
  | cons nSocket sockets inductionHypothesis =>
      rw [visitSessions]
      split
      · exact inductionHypothesis
      · rename_i session found
        have visited : state.KeepsModles (visitSession acceptSession state
            nSocket session (visits nSocket)).1 := by
          unfold visitSession
          dsimp only
          split
          · split
            · exact .refl state
            · have erased : state.KeepsModles { state with
                  mgr := (state.mgr.delSession nSocket).1 } := ⟨rfl, rfl⟩
              exact erased.trans (ServerState.keepsModles_teardownAll ..)
          · exact .refl state
        exact visited.trans inductionHypothesis

end Handlers

/-! ## The turn of a module -/

/-- All connections so far have been given to the modules in turn. -/
structure InTurn
    (nEventModleCount counted : Nat)
    (state : ServerState) : Prop where
  index : state.nAcceptIndex = signed32 counted
  constructed : state.constructed = counted
  bound : ∀ session < counted,
    state.bound session = (session + 1) % nEventModleCount

theorem ServerState.KeepsModles.inTurn
    {nEventModleCount counted : Nat}
    {state next : ServerState}
    (keeps : state.KeepsModles next)
    (index : next.nAcceptIndex = state.nAcceptIndex)
    (inTurn : InTurn nEventModleCount counted state) :
    InTurn nEventModleCount counted next where
  index := index.trans inTurn.index
  constructed := keeps.constructed.trans inTurn.constructed
  bound session below := by
    rw [keeps.bound]
    exact inTurn.bound session below

section Turns

variable {acceptSession : AcceptSession} {nEventModleCount counted : Nat}
  (isCount : acceptSession.nEventModleCount = nEventModleCount)
  (positive : 0 < nEventModleCount)

include isCount positive

/-- The module the next connection is given to. -/
theorem nextModle_inTurn
    {state : ServerState}
    (inTurn : InTurn nEventModleCount counted state)
    (few : counted + 1 < 2147483648) :
    acceptSession.nextModle state = some ((counted + 1) % nEventModleCount) := by
  have counts : signed32 (state.nAcceptIndex + 1) = ((counted + 1 : Nat) : Int) := by
    rw [inTurn.index, signed32_add_signed32, ← Nat.cast_succ]
    exact signed32_of_range (by omega) (by omega)
  have remainder : ((counted + 1 : Nat) : Int).tmod nEventModleCount =
      (((counted + 1) % nEventModleCount : Nat) : Int) := by
    rw [Int.tmod_eq_emod_of_nonneg (Int.natCast_nonneg _), Int.natCast_mod]
  have below := Nat.mod_lt (counted + 1) positive
  rw [AcceptSession.nextModle, counts, isCount, remainder,
    AcceptSession.findModle, isCount, if_pos (by omega), Int.toNat_natCast]

/-- A connection is given to the next module. -/
theorem inTurn_acceptOne
    {state : ServerState}
    {turn : AcceptTurn}
    (accepted : 0 < turn.nAcceptSock)
    (inTurn : InTurn nEventModleCount counted state)
    (few : counted + 1 < 2147483648) :
    InTurn nEventModleCount (counted + 1)
      (acceptOne acceptSession state turn).1 := by
  have found := nextModle_inTurn isCount positive inTurn few
  rw [acceptOne_some accepted found]
  apply (keepsModles_acceptInitialised ..).inTurn
    (nAcceptIndex_acceptInitialised ..)
  refine ⟨?_, ?_, ?_⟩
  · change signed32 (state.nAcceptIndex + 1) = _
    rw [inTurn.index, signed32_add_signed32, ← Nat.cast_succ]
  · exact congrArg Nat.succ inTurn.constructed
  · intro session below
    change Function.update state.bound state.constructed _ session = _
    by_cases last : session = counted
    · rw [last, inTurn.constructed, Function.update_self]
    · rw [inTurn.constructed, Function.update_of_ne last]
      exact inTurn.bound session (by omega)

/-- One handler runs. -/
theorem inTurn_dispatchStep
    {state next : DispatchState}
    {label : DispatchLabel}
    (inTurn : InTurn nEventModleCount counted state.server)
    (few : counted + connections [label] < 2147483648)
    (stepped : dispatchStep acceptSession state label = some next) :
    InTurn nEventModleCount (counted + connections [label]) next.server := by
  have index := nAcceptIndex_dispatchStep stepped
  cases dispatchStep_cases stepped with
  | @accept turn =>
      rcases le_or_gt turn.nAcceptSock 0 with refused | accepted
      · have noConnection : ¬0 < turn.nAcceptSock := by omega
        rw [acceptOne_refused refused]
        simpa [connections, DispatchLabel.accepts, noConnection] using inTurn
      · have counts : connections [.accept turn] = 1 := by
          simp [connections, DispatchLabel.accepts, accepted]
        rw [counts] at few ⊢
        exact inTurn_acceptOne isCount positive accepted inTurn few
  | event handling =>
      obtain ⟨event, kernel, -, rfl, -⟩ := ServerState.handle_eq_some handling
      have fetched : state.server.KeepsModles
        { state.server with kernel := kernel } := ⟨rfl, rfl⟩
      exact (fetched.trans (keepsModles_handleEvent ..)).inTurn index inTurn
  | heartbeat running =>
      exact (keepsModles_visitSessions ..).inTurn index inTurn

/-- A whole run. -/
theorem inTurn_run
    {labels : List DispatchLabel}
    {state last : DispatchState}
    (inTurn : InTurn nEventModleCount counted state.server)
    (few : counted + connections labels < 2147483648)
    (reached : run (dispatchStep acceptSession) state labels = some last) :
    InTurn nEventModleCount (counted + connections labels) last.server := by
  induction labels generalizing state counted with
  | nil =>
      rw [run_nil, Option.some.injEq] at reached
      exact reached ▸ inTurn
  | cons label labels inductionHypothesis =>
      obtain ⟨next, stepped, reachedLater⟩ := run_cons reached
      have split : connections (label :: labels) =
          connections [label] + connections labels := by
        simp only [connections, List.countP_cons, List.countP_nil]
        omega
      rw [split] at few ⊢
      rw [← Nat.add_assoc] at few ⊢
      exact inductionHypothesis
        (inTurn_dispatchStep isCount positive inTurn (by omega) stepped) few
        reachedLater

end Turns

/-! ## Equal loads -/

/-- The number of sessions that have been given to a module. -/
def ServerState.load (state : ServerState) (modle : Nat) : Nat :=
  (List.range state.constructed).countP fun session =>
    state.bound session = modle

/-- Numbers up to a bound that leave a given remainder. -/
theorem countP_turns
    {count modle : Nat}
    (positive : 0 < count)
    (inside : modle < count)
    (bound : Nat) :
    ((List.range bound).countP fun session => (session + 1) % count = modle) =
      bound / count + if 0 < modle ∧ modle ≤ bound % count then 1 else 0 := by
  induction bound with
  | zero =>
      rw [List.range_zero, List.countP_nil, Nat.zero_div, Nat.zero_add]
      split
      · rename_i reached
        rw [Nat.zero_mod] at reached
        omega
      · rfl
  | succ bound inductionHypothesis =>
      have whole := Nat.div_add_mod bound count
      have below := Nat.mod_lt bound positive
      rw [List.range_succ, List.countP_append, inductionHypothesis,
        List.countP_singleton]
      generalize bound / count = turns at whole ⊢
      generalize bound % count = begun at whole below ⊢
      by_cases last : begun + 1 = count
      · have next : bound + 1 = count * (turns + 1) := by
          rw [Nat.mul_succ]
          omega
        rw [next, Nat.mul_div_cancel_left _ positive, Nat.mul_mod_right]
        simp only [decide_eq_true_eq]
        split <;> split <;> split <;> omega
      · have next : bound + 1 = count * turns + (begun + 1) := by omega
        have small : begun + 1 < count := by omega
        rw [next, Nat.mul_add_div positive, Nat.mul_add_mod,
          Nat.div_eq_of_lt small, Nat.mod_eq_of_lt small]
        simp only [decide_eq_true_eq]
        split <;> split <;> split <;> omega

/-- After fewer than 2^31 connections, whatever the threads have done with them,
every connection has got a session, and each module has been given its share: the
number of connections divided by that of the modules, and one more if it is among
the modules the last turn has reached. -/
theorem loads_balanced
    (acceptSession : AcceptSession)
    (nEventModleCount : Nat)
    (isCount : acceptSession.nEventModleCount = nEventModleCount)
    (memory : SessionId → TcpSession)
    (bIsHeartbeat : Bool)
    (labels : List DispatchLabel)
    (last : DispatchState)
    (reached : run (dispatchStep acceptSession) (.initial memory bIsHeartbeat)
      labels = some last)
    (few : connections labels < 2147483648)
    (modle : Nat)
    (inside : modle < nEventModleCount) :
    last.server.constructed = connections labels ∧
      last.server.load modle = connections labels / nEventModleCount +
        if 0 < modle ∧ modle ≤ connections labels % nEventModleCount then 1
        else 0 := by
  have positive : 0 < nEventModleCount := by omega
  have start : InTurn nEventModleCount 0
      (DispatchState.initial memory bIsHeartbeat).server :=
    ⟨rfl, rfl, fun _ impossible => by contradiction⟩
  have inTurn := inTurn_run isCount positive start (by omega) reached
  rw [Nat.zero_add] at inTurn
  refine ⟨inTurn.constructed, ?_⟩
  rw [← countP_turns positive inside, ServerState.load, inTurn.constructed]
  apply List.countP_congr
  intro session member
  rw [inTurn.bound session (List.mem_range.mp member)]

/-- Three connections to a server with two modules. -/
def threeConnections : List DispatchLabel :=
  [16, 17, 18].map fun nAcceptSock =>
    .accept { acceptAt 0x7f0000001010 with nAcceptSock := nAcceptSock }

theorem loads_balanced_threeConnections :
    ∃ last, run (dispatchStep twoModles) (.initial blankMemory true)
        threeConnections = some last ∧
      last.server.load 0 = 1 ∧ last.server.load 1 = 2 := by
  refine ⟨_, rfl, ?_, ?_⟩
  · exact (loads_balanced twoModles 2 rfl blankMemory true threeConnections _
      rfl (by decide) 0 (by decide)).2
  · exact (loads_balanced twoModles 2 rfl blankMemory true threeConnections _
      rfl (by decide) 1 (by decide)).2

end TransPortEngine
