import TransPortEngine.Server.ShutdownFrames

/-!
# Waiting in a circle

`NetEventModleMgr_Fini` joins the workers while it holds `m_NetEventModleLock`,
and the sweep looks for a module while it holds `m_TcpSessionMgrLock`. With a
worker that waits for the second lock these make a cycle. There is no other: as
long as the three do not come together, waiting ends at a thread that goes on.
-/

namespace TransPortEngine

open Locks Transition

/-! ## What the places tell -/

theorem AcceptStage.wants_of_held
    {stage : AcceptStage}
    {lock : CritSec}
    (holds : lock ∈ stage.held) :
    stage.wants = none := by
  cases stage <;> first | rfl | contradiction

theorem AcceptStage.wants_cases (stage : AcceptStage) :
    stage.wants = none ∨ stage.wants = some (.lock .netEventModleLock) ∨
      stage.wants = some (.lock .tcpSessionMgrLock) := by
  cases stage <;> simp [wants]

theorem WorkerStage.wants_of_held
    {stage : WorkerStage}
    {lock : CritSec}
    (holds : lock ∈ stage.held) :
    stage.wants = none := by
  cases stage <;> first | rfl | contradiction

theorem WorkerStage.wants_cases (stage : WorkerStage) :
    stage.wants = none ∨ stage.wants = some (.lock .tcpSessionMgrLock) := by
  cases stage <;> simp [wants]

/-- The heartbeat thread waits for a lock only while it holds that of the session
manager, and only for the other one. -/
theorem HeartbeatStage.wants_of_held
    {stage : HeartbeatStage}
    {lock : CritSec}
    (holds : lock ∈ stage.held) :
    stage.wants = none ∨ stage.wants = some (.lock .netEventModleLock) ∧
      lock = .tcpSessionMgrLock := by
  cases stage <;> simp_all [held, wants]

theorem HeartbeatStage.wants_cases (stage : HeartbeatStage) :
    stage.wants = none ∨ stage.wants = some (.lock .netEventModleLock) ∨
      stage.wants = some (.lock .tcpSessionMgrLock) := by
  cases stage <;> simp [wants]

/-- `AcceptSession_Fini` waits with a lock only for the end of a worker. -/
theorem FiniStage.wants_of_held
    {stage : FiniStage}
    {lock : CritSec}
    (holds : lock ∈ stage.held) :
    stage.wants = none ∨ lock = .netEventModleLock ∧ stage.finisModles = true ∧
      ∃ modle number, stage.wants = some (.join (.worker modle number)) := by
  cases stage <;> simp_all [held, wants, finisModles]

theorem FiniStage.held_of_finisModles
    {stage : FiniStage}
    (finis : stage.finisModles = true) :
    .netEventModleLock ∈ stage.held := by
  cases stage <;> first | exact List.mem_cons_self | contradiction

theorem FiniStage.pastAccept_of_held
    {stage : FiniStage}
    {lock : CritSec}
    (holds : lock ∈ stage.held) :
    stage.pastAccept = true := by
  cases stage <;> first | rfl | contradiction

/-- Nobody waits for the end of the thread that stops the server. -/
theorem FiniStage.wants_cases
    {stage : FiniStage}
    {want : Want CritSec Thread}
    (wants : stage.wants = some want) :
    want = .lock .netEventModleLock ∨ want = .lock .tcpSessionMgrLock ∨
      ∃ other, want = .join other ∧ other ≠ .stop ∧
        ∀ number, other ≠ .application number := by
  cases stage <;> simp_all [FiniStage.wants]
  all_goals simp [← wants]

namespace Shutdown

/-- `NetEventModleMgr_Fini` holds `m_NetEventModleLock`. -/
def ModlesLocked (shutdown : Shutdown) : Prop :=
  shutdown.fini.finisModles = true

/-- The sweep waits in `NetEventModleMgr_FindModle`. -/
def SweepSearches (shutdown : Shutdown) : Prop :=
  shutdown.heartbeat.wants = some (.lock .netEventModleLock)

/-- A worker waits in `TcpSessionMgr_DelSession`. -/
def WorkerDeletes (shutdown : Shutdown) : Prop :=
  ∃ worker, (shutdown.workers worker).stage.wants ≠ none

/-- All three at a time. -/
def Entangled (shutdown : Shutdown) : Prop :=
  shutdown.ModlesLocked ∧ shutdown.SweepSearches ∧ shutdown.WorkerDeletes

/-- A step that does not add the third of the three: a visit of a session that
has timed out, a call of a worker that fails, or the start of
`NetEventModleMgr_Fini`. -/
structure StaysUntangled
    (shutdown : Shutdown)
    (label : Thread × ShutdownInput) : Prop where
  visit : ∀ now, label = (.heartbeat, .visit now) →
    shutdown.VisitsTimedOut now →
      ¬(shutdown.ModlesLocked ∧ shutdown.WorkerDeletes)
  fails : ∀ modle number input, label = (.worker modle number, input) →
    shutdown.CallFails (shutdown.workers (modle, number)) input →
      ¬(shutdown.ModlesLocked ∧ shutdown.SweepSearches)
  enter : label.1 = .stop → shutdown.fini = .enterModleMgr →
    ¬(shutdown.SweepSearches ∧ shutdown.WorkerDeletes)

/-- A thread has a next step. -/
def CanStep
    (acceptSession : AcceptSession)
    (nThreadCount : Nat)
    (shutdown : Shutdown)
    (thread : Thread) : Prop :=
  ∃ input next, step acceptSession nThreadCount shutdown (thread, input) =
    some next

/-- No threads wait in a cycle, and if some thread holds a lock or is being
joined then one of these can go on. -/
def NoWaitingCycle
    (acceptSession : AcceptSession)
    (nThreadCount : Nat)
    (shutdown : Shutdown) : Prop :=
  shutdown.waiting.Acyclic ∧
    ((∃ thread, shutdown.waiting.Engaged thread) →
      ∃ thread, shutdown.waiting.Engaged thread ∧
        CanStep acceptSession nThreadCount shutdown thread)

/-- The owners hold their locks, and `NetEventModleMgr_Fini` runs without the
accept thread. -/
structure Orderly (shutdown : Shutdown) : Prop where
  owned : Locks.Owned shutdown.owners shutdown.held
  joined : shutdown.fini.pastAccept = true → shutdown.accept = .stopped

/-! ## What a run keeps -/

theorem orderly_initial
    (acceptSession : AcceptSession)
    (nThreadCount : Nat)
    (memory : SessionId → TcpSession)
    (bIsHeartbeat : Bool) :
    (initial acceptSession nThreadCount memory bIsHeartbeat).Orderly := by
  refine ⟨fun lock thread => ⟨fun impossible => by contradiction, ?_⟩,
    fun impossible => by contradiction⟩
  intro holds
  cases thread with
  | worker modle number =>
      simp only [held, initial] at holds
      split at holds <;> contradiction
  | accept | heartbeat | application number | stop => contradiction

variable {acceptSession : AcceptSession} {nThreadCount : Nat}
  {shutdown next : Shutdown} {label : Thread × ShutdownInput}

theorem Orderly.step
    (orderly : shutdown.Orderly)
    (stepped : step acceptSession nThreadCount shutdown label = some next) :
    next.Orderly := by
  obtain ⟨thread, input⟩ := label
  obtain ⟨middle, act, owners, moved, applied, rfl⟩ := step_eq_some stepped
  obtain ⟨follows, others⟩ := move_held moved
  refine ⟨orderly.owned.apply applied follows others, ?_⟩
  change middle.fini.pastAccept = true → middle.accept = .stopped
  cases thread with
  | accept =>
      obtain ⟨-, frame, runs⟩ := acceptMove_frame moved
      intro past
      rw [frame.fini] at past
      exact absurd (orderly.joined past) runs
  | worker modle number =>
      obtain ⟨-, -, ⟨-, frame⟩, -⟩ := workerMove_frame moved
      rw [frame.fini, frame.accept]
      exact orderly.joined
  | heartbeat =>
      obtain ⟨-, frame, -⟩ := heartbeatMove_frame moved
      rw [frame.fini, frame.accept]
      exact orderly.joined
  | application number => contradiction
  | stop =>
      obtain ⟨-, frame, past, -⟩ := finiMove_frame moved
      intro isPast
      rw [frame.accept]
      exact (past isPast).elim orderly.joined id

/-- A step that does not add the third keeps the three apart. -/
theorem not_entangled_step
    (apart : ¬shutdown.Entangled)
    (stays : shutdown.StaysUntangled label)
    (stepped : step acceptSession nThreadCount shutdown label = some next) :
    ¬next.Entangled := by
  obtain ⟨thread, input⟩ := label
  obtain ⟨middle, act, owners, moved, -, rfl⟩ := step_eq_some stepped
  change ¬middle.Entangled
  rintro ⟨locked, searches, worker, waits⟩
  cases thread with
  | accept =>
      obtain ⟨-, frame, -⟩ := acceptMove_frame moved
      rw [ModlesLocked, frame.fini] at locked
      rw [SweepSearches, frame.heartbeat] at searches
      rw [frame.workers] at waits
      exact apart ⟨locked, searches, worker, waits⟩
  | worker modle number =>
      obtain ⟨stage, -, ⟨isAt, frame⟩, failed⟩ := workerMove_frame moved
      rw [ModlesLocked, frame.fini] at locked
      rw [SweepSearches, frame.heartbeat] at searches
      by_cases same : worker = (modle, number)
      · rw [same, isAt] at waits
        exact stays.fails modle number input rfl (failed waits)
          ⟨locked, searches⟩
      · rw [frame.others worker same] at waits
        exact apart ⟨locked, searches, worker, waits⟩
  | heartbeat =>
      obtain ⟨-, frame, timedOut⟩ := heartbeatMove_frame moved
      rw [ModlesLocked, frame.fini] at locked
      rw [frame.workers] at waits
      obtain ⟨now, rfl, visits⟩ := timedOut searches
      exact stays.visit now rfl visits ⟨locked, worker, waits⟩
  | application number => contradiction
  | stop =>
      obtain ⟨-, frame, -, enters⟩ := finiMove_frame moved
      rw [SweepSearches, frame.heartbeat] at searches
      rw [frame.workers] at waits
      rcases enters locked with before | entering
      · exact apart ⟨before, searches, worker, waits⟩
      · exact stays.enter rfl entering ⟨searches, worker, waits⟩

/-! ## No cycle -/

/-- A rank for a server whose sweep waits for `NetEventModleMgr_Fini`. -/
def searchingRank : Thread → Nat
  | .heartbeat => 2
  | .stop => 1
  | _ => 0

/-- A rank for any other server: those that wait for the lock of the session
manager are above those that hold it. -/
def waitingRank (shutdown : Shutdown) (thread : Thread) : Nat :=
  match shutdown.wants thread with
  | none => 0
  | some want =>
      match thread, want with
      | .stop, _ => 3
      | .heartbeat, .lock .netEventModleLock => 1
      | _, _ => 2

theorem waitingRank_of_none
    {thread : Thread}
    (none : shutdown.wants thread = none) :
    shutdown.waitingRank thread = 0 := by
  rw [waitingRank, none]

theorem waitingRank_le
    {thread : Thread}
    (other : thread ≠ .stop) :
    shutdown.waitingRank thread ≤ 2 := by
  unfold waitingRank
  split
  · exact Nat.zero_le 2
  · split
    · exact absurd rfl other
    · exact Nat.le_succ 1
    · exact le_rfl

/-- The stopping thread holds `m_NetEventModleLock` only if nobody else wants it,
unless the sweep does. -/
theorem wants_of_owner
    (orderly : shutdown.Orderly)
    (apart : ¬(shutdown.ModlesLocked ∧ shutdown.SweepSearches))
    {thread other : Thread}
    (wants : shutdown.wants thread = some (.lock .netEventModleLock))
    (owner : shutdown.owners .netEventModleLock = some other) :
    shutdown.wants other = none := by
  have holds := (orderly.owned _ _).mp owner
  cases other with
  | accept => exact AcceptStage.wants_of_held holds
  | worker modle number => exact WorkerStage.wants_of_held holds
  | heartbeat =>
      rcases HeartbeatStage.wants_of_held holds with none | ⟨-, impossible⟩
      · exact none
      · contradiction
  | application number => contradiction
  | stop =>
      have past := FiniStage.pastAccept_of_held holds
      cases thread with
      | accept =>
          change shutdown.accept.wants = _ at wants
          rw [orderly.joined past] at wants
          contradiction
      | worker modle number =>
          rcases WorkerStage.wants_cases (shutdown.workers (modle, number)).stage
            with none | some
          · exact absurd (none.symm.trans wants) (by simp)
          · exact absurd (some.symm.trans wants) (by simp)
      | heartbeat =>
          rcases FiniStage.wants_of_held holds with none | ⟨-, locked, -⟩
          · exact none
          · exact absurd ⟨locked, wants⟩ apart
      | application number => contradiction
      | stop =>
          rcases FiniStage.wants_of_held holds with none | ⟨-, -, _, _, joins⟩
          · exact none
          · exact absurd (joins.symm.trans wants) (by simp)

theorem waitingRank_pos
    {thread : Thread}
    {want : Want CritSec Thread}
    (wants : shutdown.wants thread = some want) :
    0 < shutdown.waitingRank thread := by
  unfold waitingRank
  rw [wants]
  dsimp only
  split
  · exact Nat.succ_pos 2
  · exact Nat.one_pos
  · exact Nat.two_pos

/-- The locks in question, and who joins. -/
theorem wants_cases
    {thread : Thread}
    {want : Want CritSec Thread}
    (wants : shutdown.wants thread = some want) :
    want = .lock .netEventModleLock ∨ want = .lock .tcpSessionMgrLock ∨
      thread = .stop ∧ ∃ other, want = .join other ∧ other ≠ .stop ∧
        ∀ number, other ≠ .application number := by
  cases thread with
  | accept =>
      rcases shutdown.accept.wants_cases with same | same | same <;>
        simp_all [Shutdown.wants]
  | worker modle number =>
      rcases (shutdown.workers (modle, number)).stage.wants_cases with
        same | same <;> simp_all [Shutdown.wants]
  | heartbeat =>
      rcases shutdown.heartbeat.wants_cases with same | same | same <;>
        simp_all [Shutdown.wants]
  | application number => contradiction
  | stop =>
      rcases FiniStage.wants_cases wants with isLock | isLock | joins
      · exact Or.inl isLock
      · exact Or.inr (Or.inl isLock)
      · exact Or.inr (Or.inr ⟨rfl, joins⟩)

/-- Those that hold the lock of the session manager are low. -/
theorem waitingRank_holder
    {thread : Thread}
    (holds : .tcpSessionMgrLock ∈ shutdown.held thread) :
    shutdown.waitingRank thread ≤ 1 := by
  have low : shutdown.wants thread = none → shutdown.waitingRank thread ≤ 1 :=
    fun none => (waitingRank_of_none none).trans_le (Nat.zero_le 1)
  cases thread with
  | accept => exact low (AcceptStage.wants_of_held holds)
  | worker modle number => exact low (WorkerStage.wants_of_held holds)
  | heartbeat =>
      rcases HeartbeatStage.wants_of_held holds with none | ⟨searches, -⟩
      · exact low none
      · have wants : shutdown.wants .heartbeat =
            some (.lock .netEventModleLock) := searches
        rw [waitingRank, wants]
  | application number => contradiction
  | stop =>
      rcases FiniStage.wants_of_held holds with none | ⟨impossible, -⟩
      · exact low none
      · contradiction

/-- Those that want it are high. -/
theorem waitingRank_wants
    {thread : Thread}
    (wants : shutdown.wants thread = some (.lock .tcpSessionMgrLock)) :
    1 < shutdown.waitingRank thread := by
  rw [waitingRank, wants]
  dsimp only
  split
  · exact Nat.succ_lt_succ (Nat.succ_pos 1)
  · rename_i same
    exact absurd (Want.lock.inj same) (by decide)
  · exact Nat.one_lt_two

theorem waitingRank_down
    (orderly : shutdown.Orderly)
    (apart : ¬(shutdown.ModlesLocked ∧ shutdown.SweepSearches))
    (thread other : Thread)
    (waits : shutdown.waiting.WaitsFor thread other) :
    shutdown.waitingRank other < shutdown.waitingRank thread := by
  rcases waits with ⟨lock, wants, owner⟩ | ⟨wants, -⟩
  · rcases wants_cases wants with same | same | ⟨-, _, impossible, -⟩
    · obtain rfl := Want.lock.inj same
      rw [waitingRank_of_none (wants_of_owner orderly apart wants owner)]
      exact waitingRank_pos wants
    · obtain rfl := Want.lock.inj same
      have holds := (orderly.owned _ _).mp owner
      exact (waitingRank_holder holds).trans_lt (waitingRank_wants wants)
    · contradiction
  · rcases wants_cases wants with impossible | impossible |
      ⟨rfl, _, same, isOther, -⟩
    · contradiction
    · contradiction
    · obtain rfl := Want.join.inj same
      have high : shutdown.waitingRank .stop = 3 := by
        have wantsJoin : shutdown.wants .stop = some (.join other) := wants
        rw [waitingRank, wantsJoin]
      rw [high]
      exact Nat.lt_succ_of_le (waitingRank_le isOther)

/-- While the sweep waits for `NetEventModleMgr_Fini`, only workers are waited
for besides these two, and they wait for nobody. -/
theorem searchingRank_down
    (orderly : shutdown.Orderly)
    (locked : shutdown.ModlesLocked)
    (searches : shutdown.SweepSearches)
    (noDelete : ¬shutdown.WorkerDeletes)
    (thread other : Thread)
    (waits : shutdown.waiting.WaitsFor thread other) :
    searchingRank other < searchingRank thread := by
  have holds := FiniStage.held_of_finisModles locked
  have owns := (orderly.owned .netEventModleLock .stop).mpr holds
  cases thread with
  | accept =>
      have stopped := orderly.joined (FiniStage.pastAccept_of_held holds)
      have none : shutdown.wants .accept = none := by
        change shutdown.accept.wants = none
        rw [stopped]
        rfl
      exact absurd waits (Waiting.not_waitsFor_of_none none other)
  | worker modle number =>
      have none : shutdown.wants (.worker modle number) = none := by
        by_contra some
        exact noDelete ⟨(modle, number), some⟩
      exact absurd waits (Waiting.not_waitsFor_of_none none other)
  | heartbeat =>
      rcases waits with ⟨lock, wants, owner⟩ | ⟨wants, -⟩
      · have same : lock = .netEventModleLock :=
          Want.lock.inj (Option.some.inj (wants.symm.trans searches))
        rw [same] at owner
        have isStop : Thread.stop = other :=
          Option.some.inj (owns.symm.trans owner)
        rw [← isStop]
        exact Nat.one_lt_two
      · have impossible := wants.symm.trans searches
        simp at impossible
  | application number =>
      exact absurd waits (Waiting.not_waitsFor_of_none rfl other)
  | stop =>
      rcases FiniStage.wants_of_held holds with none |
        ⟨-, -, modle, number, joins⟩
      · exact absurd waits (Waiting.not_waitsFor_of_none none other)
      · rcases waits with ⟨lock, wants, -⟩ | ⟨wants, -⟩
        · have impossible := wants.symm.trans joins
          simp at impossible
        · have same : other = .worker modle number :=
            Want.join.inj (Option.some.inj (wants.symm.trans joins))
          rw [same]
          exact Nat.one_pos

/-- A server in which the three do not come together has a rank. -/
theorem exists_rank
    (orderly : shutdown.Orderly)
    (apart : ¬shutdown.Entangled) :
    ∃ rank : Thread → Nat, ∀ thread other,
      shutdown.waiting.WaitsFor thread other → rank other < rank thread := by
  by_cases both : shutdown.ModlesLocked ∧ shutdown.SweepSearches
  · exact ⟨searchingRank, searchingRank_down orderly both.1 both.2
      fun deletes => apart ⟨both.1, both.2, deletes⟩⟩
  · exact ⟨shutdown.waitingRank, waitingRank_down orderly both⟩

/-! ## Going on -/

/-- A thread that wants a lock acquires it next. -/
theorem move_of_lock
    {thread : Thread}
    {lock : CritSec}
    (wants : shutdown.wants thread = some (.lock lock)) :
    ∃ next, move acceptSession nThreadCount shutdown thread .next =
      some (next, .acquire lock) := by
  cases thread with
  | accept =>
      simp only [Shutdown.wants, move] at wants ⊢
      generalize shutdown.accept = stage at wants ⊢
      cases stage with
      | findModle | addSession | delSession =>
          cases wants
          exact ⟨_, rfl⟩
      | _ => contradiction
  | worker modle number =>
      simp only [Shutdown.wants, move] at wants ⊢
      generalize (shutdown.workers (modle, number)).stage = stage at wants ⊢
      cases stage with
      | delSession =>
          cases wants
          exact ⟨_, rfl⟩
      | _ => contradiction
  | heartbeat =>
      simp only [Shutdown.wants, move] at wants ⊢
      generalize shutdown.heartbeat = stage at wants ⊢
      cases stage with
      | enterSection | findModle =>
          cases wants
          exact ⟨_, rfl⟩
      | _ => contradiction
  | application number => contradiction
  | stop =>
      simp only [Shutdown.wants, move] at wants ⊢
      generalize shutdown.fini = stage at wants ⊢
      cases stage with
      | enterModleMgr | deleteModleMgr | enterSessionMgr =>
          cases wants
          exact ⟨_, rfl⟩
      | _ => exact nomatch wants

/-- A join of a thread that has ended returns. -/
theorem move_of_join
    {thread : Thread}
    (wants : shutdown.fini.wants = some (.join thread))
    (stopped : shutdown.Stopped thread) :
    ∃ next, move acceptSession nThreadCount shutdown .stop .next =
      some (next, .keep) := by
  simp only [move]
  generalize shutdown.fini = stage at wants ⊢
  cases stage with
  | joinAccept | joinWorker | joinHeartbeat =>
      cases wants
      exact ⟨_, if_pos stopped⟩
  | _ => exact nomatch wants

/-- A step that needs no lock. -/
def Unhindered (moves : ShutdownInput → Option (Shutdown × LockAct CritSec)) :
    Prop :=
  ∃ input next act, moves input = some (next, act) ∧
    ∀ lock, act ≠ .acquire lock

theorem unhindered_keep
    {moves : ShutdownInput → Option (Shutdown × LockAct CritSec)}
    {input : ShutdownInput}
    (moved : moves input = some (next, .keep)) :
    Unhindered moves :=
  ⟨input, next, .keep, moved, fun _ impossible => by contradiction⟩

theorem unhindered_release
    {moves : ShutdownInput → Option (Shutdown × LockAct CritSec)}
    {input : ShutdownInput}
    {lock : CritSec}
    (moved : moves input = some (next, .release lock)) :
    Unhindered moves :=
  ⟨input, next, .release lock, moved, fun _ impossible => by contradiction⟩

theorem acceptMove_unhindered
    (acceptSession : AcceptSession)
    (shutdown : Shutdown)
    {stage : AcceptStage}
    (none : stage.wants = none)
    (runs : stage ≠ .stopped) :
    Unhindered (acceptMove acceptSession shutdown stage) := by
  cases stage with
  | loop => exact @unhindered_keep _ _ .next rfl
  | waiting => exact @unhindered_keep _ _ (.wait 0) rfl
  | events count =>
      cases count with
      | zero => exact @unhindered_keep _ _ .next rfl
      | succ count =>
          exact @unhindered_keep _ _ (.accept 0 ⟨false, false, 0, 0⟩ 0 0) rfl
  | inFindModle nAcceptSock session count =>
      exact @unhindered_release _ _ .next _ rfl
  | inAddSession modle nAcceptSock session count =>
      exact @unhindered_release _ _ .next _ rfl
  | register modle nAcceptSock session count =>
      exact @unhindered_keep _ _ (.done true true true) rfl
  | inDelSession modle nAcceptSock session count =>
      exact @unhindered_release _ _ .next _ rfl
  | findModle | addSession | delSession => contradiction
  | stopped => contradiction

/-- A read that finds the connection closed. -/
def closedTurn : RecvTurn :=
  ⟨.closed, 0, .failed, true⟩

theorem workerMove_unhindered
    (shutdown : Shutdown)
    (worker : Nat × Nat)
    (own : Worker)
    {stage : WorkerStage}
    (none : stage.wants = none)
    (runs : stage ≠ .stopped) :
    Unhindered (shutdown.workerMove worker own stage) := by
  cases stage with
  | loop => exact @unhindered_keep _ _ .next rfl
  | waiting => exact @unhindered_keep _ _ (.fetch []) rfl
  | events =>
      cases batch : own.batch with
      | nil =>
          have moved : shutdown.workerMove worker own .events
              (.handle .failed false) =
                some (shutdown.setWorker worker { own with stage := .loop },
                  .keep) := by
            simp only [workerMove, batch]
          exact unhindered_keep moved
      | cons first later =>
          have moved : shutdown.workerMove worker own .events
              (.handle .failed false) =
                some (shutdown.handled worker own first.1 first.2 later .failed
                  false, .keep) := by
            simp only [workerMove, batch]
          exact unhindered_keep moved
  | receive session event =>
      exact @unhindered_keep _ _ (.receive [closedTurn]) rfl
  | delSession => contradiction
  | inDelSession session nSock => exact @unhindered_release _ _ .next _ rfl
  | tearDown session calls =>
      exact @unhindered_keep _ _ (.done true true true) rfl
  | stopped => contradiction

theorem heartbeatMove_unhindered
    (shutdown : Shutdown)
    {stage : HeartbeatStage}
    (none : stage.wants = none)
    (runs : stage ≠ .stopped) :
    Unhindered (shutdown.heartbeatMove stage) := by
  cases stage with
  | loop => exact @unhindered_keep _ _ .next rfl
  | sleeping => exact @unhindered_keep _ _ .next rfl
  | enterSection => contradiction
  | sweep sockets =>
      cases sockets with
      | nil => exact @unhindered_release _ _ .next _ rfl
      | cons nSocket sockets => exact @unhindered_keep _ _ (.visit 0) rfl
  | findModle => contradiction
  | inFindModle session sockets => exact @unhindered_release _ _ .next _ rfl
  | delEvent session found sockets =>
      exact @unhindered_keep _ _ (.done true true true) rfl
  | finiSession session sockets => exact @unhindered_keep _ _ .next rfl
  | stopped => contradiction

/-- The stopping thread goes on with a lock that it holds. -/
theorem finiMove_unhindered
    (nThreadCount : Nat)
    (shutdown : Shutdown)
    {stage : FiniStage}
    {lock : CritSec}
    (holds : lock ∈ stage.held)
    (none : stage.wants = none) :
    Unhindered (finiMove nThreadCount shutdown stage) := by
  cases stage with
  | finiModles modles =>
      cases modles with
      | nil => exact @unhindered_release _ _ .next _ rfl
      | cons modle modles => exact @unhindered_keep _ _ .next rfl
  | finiWorkers modle number modles => exact @unhindered_keep _ _ .next rfl
  | joinWorker => contradiction
  | inDeleteModleMgr => exact @unhindered_release _ _ .next _ rfl
  | finiSessions sockets =>
      cases sockets with
      | nil => exact @unhindered_release _ _ .next _ rfl
      | cons nSocket sockets => exact @unhindered_keep _ _ .next rfl
  | _ => contradiction

/-- A thread that holds a lock has not ended. -/
theorem not_stopped_of_held
    {thread : Thread}
    {lock : CritSec}
    (holds : lock ∈ shutdown.held thread) :
    ¬shutdown.Stopped thread := by
  intro stopped
  cases thread with
  | accept =>
      simp only [held, show shutdown.accept = .stopped from stopped] at holds
      contradiction
  | worker modle number =>
      simp only [held, show (shutdown.workers (modle, number)).stage = .stopped
        from stopped] at holds
      contradiction
  | heartbeat =>
      simp only [held, show shutdown.heartbeat = .stopped from stopped] at holds
      contradiction
  | application number | stop => exact stopped

/-- A thread that holds a lock, or has not ended while it is being joined, and
waits for nobody, can go on. -/
theorem canStep_of_engaged
    (orderly : shutdown.Orderly)
    {thread : Thread}
    (engaged : shutdown.waiting.Engaged thread)
    (free : ∀ other, ¬shutdown.waiting.WaitsFor thread other) :
    CanStep acceptSession nThreadCount shutdown thread := by
  have unhindered : Unhindered
      (move acceptSession nThreadCount shutdown thread) →
        CanStep acceptSession nThreadCount shutdown thread := by
    rintro ⟨input, next, act, moved, noLock⟩
    refine ⟨input, ?_⟩
    unfold step
    cases act with
    | keep => exact ⟨_, by rw [moved]; rfl⟩
    | acquire lock => exact absurd rfl (noLock lock)
    | release lock => exact ⟨_, by rw [moved]; rfl⟩
  cases wants : shutdown.wants thread with
  | some want =>
      cases want with
      | lock lock =>
          have unowned : shutdown.owners lock = none := by
            cases owner : shutdown.owners lock with
            | none => rfl
            | some other => exact absurd (Or.inl ⟨lock, wants, owner⟩) (free other)
          obtain ⟨next, moved⟩ :=
            @move_of_lock acceptSession nThreadCount _ _ _ wants
          refine ⟨.next, ?_⟩
          unfold step
          rw [moved]
          simp [LockAct.apply, unowned]
      | join other =>
          have stopped : shutdown.Stopped other := by
            by_contra runs
            exact free other (Or.inr ⟨wants, runs⟩)
          rcases wants_cases wants with impossible | impossible | ⟨rfl, -⟩
          · contradiction
          · contradiction
          · obtain ⟨next, moved⟩ :=
              @move_of_join acceptSession nThreadCount _ _ wants stopped
            exact unhindered (unhindered_keep moved)
  | none =>
      have runs : ¬shutdown.Stopped thread := by
        rcases engaged with ⟨lock, owner⟩ | ⟨other, -, runs⟩
        · exact not_stopped_of_held ((orderly.owned _ _).mp owner)
        · exact runs
      have joinable : ∀ {other}, shutdown.waiting.wants other =
          some (.join thread) → thread ≠ .stop ∧
            ∀ number, thread ≠ .application number := by
        intro other joins
        rcases wants_cases joins with impossible | impossible |
          ⟨-, _, same, isOther⟩
        · contradiction
        · contradiction
        · exact Want.join.inj same ▸ isOther
      cases thread with
      | accept => exact unhindered (acceptMove_unhindered _ _ wants runs)
      | worker modle number =>
          exact unhindered (workerMove_unhindered _ _ _ wants runs)
      | heartbeat => exact unhindered (heartbeatMove_unhindered _ wants runs)
      | application number =>
          rcases engaged with ⟨lock, owner⟩ | ⟨other, joins, -⟩
          · have holds := (orderly.owned _ _).mp owner
            contradiction
          · exact absurd rfl ((joinable joins).2 number)
      | stop =>
          rcases engaged with ⟨lock, owner⟩ | ⟨other, joins, -⟩
          · exact unhindered (finiMove_unhindered _ _
              ((orderly.owned _ _).mp owner) wants)
          · exact absurd rfl (joinable joins).1

/-- A server in which the three do not come together has no waiting cycle. -/
theorem noWaitingCycle_of_apart
    (orderly : shutdown.Orderly)
    (apart : ¬shutdown.Entangled) :
    NoWaitingCycle acceptSession nThreadCount shutdown := by
  obtain ⟨rank, down⟩ := exists_rank orderly apart
  refine ⟨Waiting.acyclic_of_rank down, ?_⟩
  rintro ⟨thread, engaged⟩
  obtain ⟨other, engagedOther, free⟩ :=
    Waiting.exists_engaged_unblocked down engaged
  exact ⟨other, engagedOther, canStep_of_engaged orderly engagedOther free⟩

/-- As long as no step brings the three together, no threads wait in a cycle. -/
theorem noWaitingCycle_of_staysUntangled
    (acceptSession : AcceptSession)
    (nThreadCount : Nat)
    (memory : SessionId → TcpSession)
    (bIsHeartbeat : Bool)
    (labels : List (Thread × ShutdownInput))
    (last : Shutdown)
    (reached : run (step acceptSession nThreadCount)
      (initial acceptSession nThreadCount memory bIsHeartbeat) labels =
        some last)
    (condition : Throughout (step acceptSession nThreadCount) StaysUntangled
      (initial acceptSession nThreadCount memory bIsHeartbeat) labels) :
    NoWaitingCycle acceptSession nThreadCount last := by
  have invariant := @invariant_of_run _ _ (step acceptSession nThreadCount)
    StaysUntangled (fun shutdown => shutdown.Orderly ∧ ¬shutdown.Entangled)
    (fun _ _ _ ⟨orderly, apart⟩ stays stepped =>
      ⟨orderly.step stepped, not_entangled_step apart stays stepped⟩)
    labels _ last
    ⟨orderly_initial acceptSession nThreadCount memory bIsHeartbeat,
      fun ⟨locked, _⟩ => by contradiction⟩
    condition reached
  exact noWaitingCycle_of_apart invariant.1 invariant.2

/-! ### Two runs -/

/-- A step while the sweep does not search, which visits no session. -/
theorem staysUntangled_of_quiet
    (quiet : shutdown.heartbeat.wants ≠ some (.lock .netEventModleLock))
    (noVisit : ∀ now, label ≠ (.heartbeat, .visit now)) :
    shutdown.StaysUntangled label where
  visit := fun now isVisit => absurd isVisit (noVisit now)
  fails := fun _ _ _ _ _ both => quiet both.2
  enter := fun _ _ both => quiet both.1

/-- `AcceptSession_Fini` up to the end of the only worker and its module. -/
def stopRun : List (Thread × ShutdownInput) :=
  [(.stop, .next), (.accept, .next), (.stop, .next), (.stop, .next),
    (.stop, .next), (.stop, .next), (.worker 0 0, .next), (.stop, .next),
    (.stop, .next)]

/-- A server without connections stops. -/
theorem noWaitingCycle_stopRun :
    ∃ last, run (step oneModle 1) (initial oneModle 1 blankMemory true)
        stopRun = some last ∧
      last.fini = .finiModles [] ∧ NoWaitingCycle oneModle 1 last := by
  refine ⟨_, rfl, rfl, noWaitingCycle_of_staysUntangled oneModle 1 blankMemory
    true stopRun _ rfl ?_⟩
  have quiet : ∀ {shutdown : Shutdown} {thread : Thread},
      shutdown.heartbeat = .loop → shutdown.StaysUntangled (thread, .next) := by
    intro shutdown thread atLoop
    refine staysUntangled_of_quiet ?_ ?_
    · rw [atLoop]
      exact fun impossible => by contradiction
    · intro now same
      have input := (Prod.mk.inj same).2
      contradiction
  apply throughout_cons rfl (quiet rfl)
  apply throughout_cons rfl (quiet rfl)
  apply throughout_cons rfl (quiet rfl)
  apply throughout_cons rfl (quiet rfl)
  apply throughout_cons rfl (quiet rfl)
  apply throughout_cons rfl (quiet rfl)
  apply throughout_cons rfl (quiet rfl)
  apply throughout_cons rfl (quiet rfl)
  exact throughout_cons rfl (quiet rfl) trivial

/-- Data to read. -/
def dataToRead : EpollEvents :=
  { EpollEvent.zero.events with epollIn := true }

/-- The peer closes the connection of a session that has timed out, while the
server is stopped. -/
def entangledRun : List (Thread × ShutdownInput) :=
  connectRun ++
    [(.worker 0 0, .next), (.worker 0 0, .fetch [(7, dataToRead)]),
      (.worker 0 0, .handle .failed false),
      (.worker 0 0, .receive [closedTurn]), (.heartbeat, .next),
      (.heartbeat, .next), (.heartbeat, .next), (.heartbeat, .visit 30),
      (.stop, .next), (.accept, .next), (.stop, .next), (.stop, .next),
      (.stop, .next), (.stop, .next)]

/-- `AcceptSession_Fini` waits for the worker, the worker for the sweep, and the
sweep for `AcceptSession_Fini`. -/
theorem exists_waitingCycle :
    ¬∀ (acceptSession : AcceptSession) (nThreadCount : Nat)
        (memory : SessionId → TcpSession) (bIsHeartbeat : Bool)
        (labels : List (Thread × ShutdownInput)) (last : Shutdown),
      run (step acceptSession nThreadCount)
          (initial acceptSession nThreadCount memory bIsHeartbeat) labels =
            some last →
        NoWaitingCycle acceptSession nThreadCount last := by
  intro always
  obtain ⟨last, reached, joins, deletes, searches, modlesOwner, mgrOwner,
      runs⟩ : ∃ last,
      run (step oneModle 1) (initial oneModle 1 blankMemory true)
          entangledRun = some last ∧
        last.wants .stop = some (.join (.worker 0 0)) ∧
        last.wants (.worker 0 0) = some (.lock .tcpSessionMgrLock) ∧
        last.wants .heartbeat = some (.lock .netEventModleLock) ∧
        last.owners .netEventModleLock = some .stop ∧
        last.owners .tcpSessionMgrLock = some .heartbeat ∧
        ¬last.Stopped (.worker 0 0) :=
    ⟨_, rfl, rfl, rfl, rfl, rfl, rfl, WorkerStage.noConfusion⟩
  have first : last.waiting.WaitsFor .stop (.worker 0 0) := Or.inr ⟨joins, runs⟩
  have second : last.waiting.WaitsFor (.worker 0 0) .heartbeat :=
    Or.inl ⟨_, deletes, mgrOwner⟩
  have third : last.waiting.WaitsFor .heartbeat .stop :=
    Or.inl ⟨_, searches, modlesOwner⟩
  exact (always oneModle 1 blankMemory true entangledRun last reached).1 .stop
    (((Relation.TransGen.single first).tail second).tail third)

end Shutdown

end TransPortEngine
