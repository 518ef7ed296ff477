import Mathlib.Logic.Function.Basic
import TransPortEngine.NetEventModleIocp.HandleData

/-!
# Who destroys a session

Any number of workers dequeue completions of one session while the heartbeat
sweep visits it. A step is one section under the lock of the session manager,
one call on the session, or one acquisition or release of a lock; what a call
returns is part of the label. The record keeps which threads removed, finalised
and deleted the session.
-/

namespace TransPortEngine

open Transition

/-- The threads. -/
inductive IocpThread
  | worker (number : Nat)
  | heartbeat
  deriving DecidableEq, Repr

/-- A completion, as far as the branches of `NetEventModleIOCP_HandleData` look
at it. -/
inductive Dequeued
  | transferred (opType : IocpOp)
  | closed (opType : IocpOp)
  | failed (opType : IocpOp) (dwErrno : Nat)
  deriving DecidableEq, Repr

/-- The operation that has completed. -/
def Dequeued.opType : Dequeued → IocpOp
  | .transferred opType => opType
  | .closed opType => opType
  | .failed opType _ => opType

/-- How far a thread is with the destruction of the session. -/
inductive Progress
  | idle
  | beforeFini
  | beforeDelete
  deriving DecidableEq, Repr

/-- Where a worker is. The branch for zero bytes ignores the result of
`TcpSessionMgr_DelSession`; it also takes no lock. -/
inductive WorkerPhase
  | waiting
  | finding (completion : Dequeued)
  | handling (completion : Dequeued)
  | removing (ignoresResult : Bool)
  | locking
  | finalising (locked : Bool)
  | unlocking
  | deleting
  deriving DecidableEq, Repr

/-- Where the sweep is with the session. -/
inductive SweepPhase
  | sleeping
  | visiting
  | checking
  | finalising
  | unlocking (bFlag : Bool)
  | deleting
  | leaving

def WorkerPhase.progress : WorkerPhase → Progress
  | .locking | .finalising _ => .beforeFini
  | .unlocking | .deleting => .beforeDelete
  | _ => .idle

def SweepPhase.progress : SweepPhase → Progress
  | .finalising => .beforeFini
  | .unlocking bFlag => if bFlag then .beforeDelete else .idle
  | .deleting => .beforeDelete
  | _ => .idle

/-- A session shared by the workers and the sweep: its entry in `m_TcpSessions`,
what the kernel still has to complete, the two locks, the threads, and the
record. -/
structure ContestedSession where
  registered : Bool
  recv : Bool
  sends : Nat
  mgrLocked : Bool
  eventLock : Option IocpThread
  workers : Nat → WorkerPhase
  sweep : SweepPhase
  removals : List IocpThread
  finis : List IocpThread
  deletes : List IocpThread

/-- What happens in a step. -/
inductive ContestLabel
  | post
  | dequeue (number : Nat) (completion : Dequeued)
  | worker (number : Nat) (result : Bool)
  | sweep (isHeartbeatTimeOut : Bool)

namespace ContestedSession

/-- How far a thread is. -/
def progress (contest : ContestedSession) : IocpThread → Progress
  | .worker number => (contest.workers number).progress
  | .heartbeat => contest.sweep.progress

/-- A worker goes on elsewhere. -/
def goto
    (contest : ContestedSession)
    (number : Nat)
    (phase : WorkerPhase) : ContestedSession :=
  { contest with workers := Function.update contest.workers number phase }

/-- The kernel hands a completion to a worker. -/
def dequeue
    (contest : ContestedSession)
    (number : Nat)
    (completion : Dequeued) : Option ContestedSession :=
  match contest.workers number, completion.opType with
  | .waiting, .ioRecv =>
      if contest.recv then
        some ({ contest with recv := false }.goto number (.finding completion))
      else none
  | .waiting, .ioSend =>
      if 0 < contest.sends then
        some ({ contest with sends := contest.sends - 1 }.goto number
          (.finding completion))
      else none
  | _, _ => none

/-- A worker that has found the session looks at the completion. The result is
that of `TcpSession_IORecv`, `TcpSession_IOSend` or
`AcceptSession_IsSocketAlive`. -/
def handle
    (contest : ContestedSession)
    (number : Nat)
    (result : Bool) : Dequeued → ContestedSession
  | .closed _ => contest.goto number (.removing true)
  | .transferred .ioRecv =>
      if result then { contest with recv := true }.goto number .waiting
      else contest.goto number (.removing false)
  | .transferred .ioSend =>
      if result then contest.goto number .waiting
      else contest.goto number (.removing false)
  | .failed _ dwErrno =>
      if dwErrno = waitTimeout then
        if result then contest.goto number .waiting
        else contest.goto number (.removing false)
      else if dwErrno = errorNetnameDeleted then
        contest.goto number (.removing false)
      else contest.goto number .waiting

/-- The next step of a worker. -/
def workerStep
    (contest : ContestedSession)
    (number : Nat)
    (result : Bool) : Option ContestedSession :=
  let thread := IocpThread.worker number
  match contest.workers number with
  | .waiting => none
  | .finding completion =>
      if contest.mgrLocked then none
      else if contest.registered then
        some (contest.goto number (.handling completion))
      else some (contest.goto number .waiting)
  | .handling completion => some (contest.handle number result completion)
  | .removing ignoresResult =>
      if contest.mgrLocked then none
      else if contest.registered then
        some ({ contest with
          registered := false
          removals := thread :: contest.removals }.goto number
            (if ignoresResult then .finalising false else .locking))
      else
        some (contest.goto number
          (if ignoresResult then .finalising false else .waiting))
  | .locking =>
      if contest.eventLock = none then
        some ({ contest with eventLock := some thread }.goto number
          (.finalising true))
      else none
  | .finalising locked =>
      some ({ contest with finis := thread :: contest.finis }.goto number
        (if locked then .unlocking else .deleting))
  | .unlocking =>
      some ({ contest with eventLock := none }.goto number .deleting)
  | .deleting =>
      some ({ contest with deletes := thread :: contest.deletes }.goto number
        .waiting)

/-- The next step of the sweep. -/
def sweepStep
    (contest : ContestedSession)
    (isHeartbeatTimeOut : Bool) : Option ContestedSession :=
  match contest.sweep with
  | .sleeping => some { contest with mgrLocked := true, sweep := .visiting }
  | .visiting =>
      if contest.registered then
        if contest.eventLock = none then
          some { contest with
            eventLock := some .heartbeat
            sweep := .checking }
        else none
      else some { contest with sweep := .leaving }
  | .checking =>
      if isHeartbeatTimeOut then
        some { contest with
          registered := false
          removals := .heartbeat :: contest.removals
          sweep := .finalising }
      else some { contest with sweep := .unlocking false }
  | .finalising =>
      some { contest with
        finis := .heartbeat :: contest.finis
        sweep := .unlocking true }
  | .unlocking bFlag =>
      some { contest with
        eventLock := none
        sweep := if bFlag then .deleting else .leaving }
  | .deleting =>
      some { contest with
        deletes := .heartbeat :: contest.deletes
        sweep := .leaving }
  | .leaving => some { contest with mgrLocked := false, sweep := .sleeping }

/-- One step of a run. A send can be posted at any time, by the application, by
an echo or by a partial send. -/
def step (contest : ContestedSession) : ContestLabel → Option ContestedSession
  | .post => some { contest with sends := contest.sends + 1 }
  | .dequeue number completion => contest.dequeue number completion
  | .worker number result => contest.workerStep number result
  | .sweep isHeartbeatTimeOut => contest.sweepStep isHeartbeatTimeOut

/-- A registered session with its receive and some sends outstanding. -/
def start (sends : Nat) : ContestedSession where
  registered := true
  recv := true
  sends := sends
  mgrLocked := false
  eventLock := none
  workers := fun _ => .waiting
  sweep := .sleeping
  removals := []
  finis := []
  deletes := []

/-- `TcpSession_Fini` and `delete` have been executed at most once, and only by a
thread that has removed the session. -/
structure AtMostOnce (contest : ContestedSession) : Prop where
  fini : contest.finis.length ≤ 1
  delete : contest.deletes.length ≤ 1
  removed : ∀ thread ∈ contest.finis ++ contest.deletes,
    thread ∈ contest.removals

/-- A worker that handles a zero-byte completion and calls
`TcpSessionMgr_DelSession` finds the session still registered. -/
def StillRegistered (contest : ContestedSession) (label : ContestLabel) : Prop :=
  ∀ number result, label = .worker number result →
    contest.workers number = .removing true → contest.registered = true

/-! ## What a step can do -/

/-- The record and the entry of the session are as before. -/
structure SameRecord (contest next : ContestedSession) : Prop where
  registered : next.registered = contest.registered
  removals : next.removals = contest.removals
  finis : next.finis = contest.finis
  deletes : next.deletes = contest.deletes

/-- A thread moves; the others stay where they are. -/
structure Moves
    (contest next : ContestedSession)
    (thread : IocpThread)
    (before after : Progress) : Prop where
  moved : contest.progress thread = before ∧ next.progress thread = after
  others : ∀ other, other ≠ thread → next.progress other = contest.progress other

/-- What a step means for the destruction of the session. A thread usurps when
it goes on to finalise a session that it has not removed. -/
inductive Effect
    (contest : ContestedSession)
    (label : ContestLabel)
    (next : ContestedSession) : Prop
  | neutral
      (same : contest.SameRecord next)
      (still : ∀ thread, next.progress thread = contest.progress thread)
  | removes
      (thread : IocpThread)
      (registered : contest.registered = true ∧ next.registered = false)
      (record : next.removals = thread :: contest.removals ∧
        next.finis = contest.finis ∧ next.deletes = contest.deletes)
      (moves : contest.Moves next thread .idle .beforeFini)
  | finalises
      (thread : IocpThread)
      (registered : next.registered = contest.registered)
      (record : next.removals = contest.removals ∧
        next.finis = thread :: contest.finis ∧ next.deletes = contest.deletes)
      (moves : contest.Moves next thread .beforeFini .beforeDelete)
  | deletes
      (thread : IocpThread)
      (registered : next.registered = contest.registered)
      (record : next.removals = contest.removals ∧
        next.finis = contest.finis ∧ next.deletes = thread :: contest.deletes)
      (moves : contest.Moves next thread .beforeDelete .idle)
  | usurps
      (number : Nat)
      (result : Bool)
      (isWorker : label = .worker number result)
      (phase : contest.workers number = .removing true)
      (gone : contest.registered = false)

/-- The sweep holds the lock of the session manager except while it sleeps, and
what it checks is registered. -/
structure SweepLocks (contest : ContestedSession) : Prop where
  locked : contest.sweep = .sleeping ∨ contest.mgrLocked = true
  checks : contest.sweep = .checking → contest.registered = true

section Steps

variable {contest next : ContestedSession}

theorem dequeue_cases
    {number : Nat}
    {completion : Dequeued}
    (dequeued : contest.dequeue number completion = some next) :
    contest.workers number = .waiting ∧
      ∃ recv sends,
        next = { contest with recv := recv, sends := sends }.goto number
          (.finding completion) := by
  unfold dequeue at dequeued
  split at dequeued
  · rename_i waits _
    split at dequeued
    · exact ⟨waits, _, _, (Option.some.inj dequeued).symm⟩
    · contradiction
  · rename_i waits _
    split at dequeued
    · exact ⟨waits, _, _, (Option.some.inj dequeued).symm⟩
    · contradiction
  · contradiction

/-- What a worker can do. -/
inductive WorkerStep
    (contest : ContestedSession)
    (number : Nat)
    (result : Bool) : ContestedSession → Prop
  | finds
      {completion : Dequeued}
      (phase : contest.workers number = .finding completion)
      (unlocked : contest.mgrLocked = false)
      (registered : contest.registered = true) :
      WorkerStep contest number result
        (contest.goto number (.handling completion))
  | misses
      {completion : Dequeued}
      (phase : contest.workers number = .finding completion)
      (unlocked : contest.mgrLocked = false)
      (gone : contest.registered = false) :
      WorkerStep contest number result (contest.goto number .waiting)
  | handles
      {completion : Dequeued}
      (phase : contest.workers number = .handling completion) :
      WorkerStep contest number result (contest.handle number result completion)
  | removes
      {ignoresResult : Bool}
      (phase : contest.workers number = .removing ignoresResult)
      (unlocked : contest.mgrLocked = false)
      (registered : contest.registered = true) :
      WorkerStep contest number result
        ({ contest with
          registered := false
          removals := .worker number :: contest.removals }.goto number
            (if ignoresResult then .finalising false else .locking))
  | removesNothing
      {ignoresResult : Bool}
      (phase : contest.workers number = .removing ignoresResult)
      (unlocked : contest.mgrLocked = false)
      (gone : contest.registered = false) :
      WorkerStep contest number result
        (contest.goto number
          (if ignoresResult then .finalising false else .waiting))
  | locks
      (phase : contest.workers number = .locking)
      (free : contest.eventLock = none) :
      WorkerStep contest number result
        ({ contest with eventLock := some (.worker number) }.goto number
          (.finalising true))
  | finalises
      {locked : Bool}
      (phase : contest.workers number = .finalising locked) :
      WorkerStep contest number result
        ({ contest with finis := .worker number :: contest.finis }.goto number
          (if locked then .unlocking else .deleting))
  | unlocks (phase : contest.workers number = .unlocking) :
      WorkerStep contest number result
        ({ contest with eventLock := none }.goto number .deleting)
  | deletes (phase : contest.workers number = .deleting) :
      WorkerStep contest number result
        ({ contest with deletes := .worker number :: contest.deletes }.goto number
          .waiting)

theorem workerStep_cases
    {number : Nat}
    {result : Bool}
    (stepped : contest.workerStep number result = some next) :
    WorkerStep contest number result next := by
  unfold workerStep at stepped
  dsimp only at stepped
  split at stepped
  · contradiction
  · rename_i completion phase
    split at stepped
    · contradiction
    · rename_i unlocked
      have isUnlocked := Bool.eq_false_iff.mpr unlocked
      split at stepped
      · rename_i registered
        exact Option.some.inj stepped ▸ .finds phase isUnlocked registered
      · rename_i gone
        exact Option.some.inj stepped ▸
          .misses phase isUnlocked (Bool.eq_false_iff.mpr gone)
  · rename_i completion phase
    exact Option.some.inj stepped ▸ .handles phase
  · rename_i ignoresResult phase
    split at stepped
    · contradiction
    · rename_i unlocked
      have isUnlocked := Bool.eq_false_iff.mpr unlocked
      split at stepped
      · rename_i registered
        exact Option.some.inj stepped ▸ .removes phase isUnlocked registered
      · rename_i gone
        exact Option.some.inj stepped ▸
          .removesNothing phase isUnlocked (Bool.eq_false_iff.mpr gone)
  · rename_i phase
    split at stepped
    · rename_i free
      exact Option.some.inj stepped ▸ .locks phase free
    · contradiction
  · rename_i locked phase
    exact Option.some.inj stepped ▸ .finalises phase
  · rename_i phase
    exact Option.some.inj stepped ▸ .unlocks phase
  · rename_i phase
    exact Option.some.inj stepped ▸ .deletes phase

/-- What the sweep can do. -/
inductive SweepStep
    (contest : ContestedSession)
    (isHeartbeatTimeOut : Bool) : ContestedSession → Prop
  | begins (phase : contest.sweep = .sleeping) :
      SweepStep contest isHeartbeatTimeOut
        { contest with mgrLocked := true, sweep := .visiting }
  | locks
      (phase : contest.sweep = .visiting)
      (registered : contest.registered = true)
      (free : contest.eventLock = none) :
      SweepStep contest isHeartbeatTimeOut
        { contest with eventLock := some .heartbeat, sweep := .checking }
  | passes
      (phase : contest.sweep = .visiting)
      (gone : contest.registered = false) :
      SweepStep contest isHeartbeatTimeOut { contest with sweep := .leaving }
  | removes
      (phase : contest.sweep = .checking)
      (expired : isHeartbeatTimeOut = true) :
      SweepStep contest isHeartbeatTimeOut
        { contest with
          registered := false
          removals := .heartbeat :: contest.removals
          sweep := .finalising }
  | keeps
      (phase : contest.sweep = .checking)
      (inTime : isHeartbeatTimeOut = false) :
      SweepStep contest isHeartbeatTimeOut
        { contest with sweep := .unlocking false }
  | finalises (phase : contest.sweep = .finalising) :
      SweepStep contest isHeartbeatTimeOut
        { contest with
          finis := .heartbeat :: contest.finis
          sweep := .unlocking true }
  | unlocks
      {bFlag : Bool}
      (phase : contest.sweep = .unlocking bFlag) :
      SweepStep contest isHeartbeatTimeOut
        { contest with
          eventLock := none
          sweep := if bFlag then .deleting else .leaving }
  | deletes (phase : contest.sweep = .deleting) :
      SweepStep contest isHeartbeatTimeOut
        { contest with
          deletes := .heartbeat :: contest.deletes
          sweep := .leaving }
  | ends (phase : contest.sweep = .leaving) :
      SweepStep contest isHeartbeatTimeOut
        { contest with mgrLocked := false, sweep := .sleeping }

theorem sweepStep_cases
    {isHeartbeatTimeOut : Bool}
    (stepped : contest.sweepStep isHeartbeatTimeOut = some next) :
    SweepStep contest isHeartbeatTimeOut next := by
  unfold sweepStep at stepped
  split at stepped
  · rename_i phase
    exact Option.some.inj stepped ▸ .begins phase
  · rename_i phase
    split at stepped
    · rename_i registered
      split at stepped
      · rename_i free
        exact Option.some.inj stepped ▸ .locks phase registered free
      · contradiction
    · rename_i gone
      exact Option.some.inj stepped ▸ .passes phase (Bool.eq_false_iff.mpr gone)
  · rename_i phase
    split at stepped
    · rename_i expired
      exact Option.some.inj stepped ▸ .removes phase expired
    · rename_i inTime
      exact Option.some.inj stepped ▸ .keeps phase (Bool.eq_false_iff.mpr inTime)
  · rename_i phase
    exact Option.some.inj stepped ▸ .finalises phase
  · rename_i bFlag phase
    exact Option.some.inj stepped ▸ .unlocks phase
  · rename_i phase
    exact Option.some.inj stepped ▸ .deletes phase
  · rename_i phase
    exact Option.some.inj stepped ▸ .ends phase

/-- A worker that moves, perhaps with other members changed that no progress
depends on. -/
theorem moves_goto
    {base : ContestedSession}
    {number : Nat}
    (phase : WorkerPhase)
    (workers : base.workers = contest.workers)
    (sweep : base.sweep = contest.sweep) :
    contest.Moves (base.goto number phase) (.worker number)
      (contest.workers number).progress phase.progress := by
  refine ⟨⟨rfl, ?_⟩, ?_⟩
  · simp [progress, goto]
  · intro other different
    cases other with
    | heartbeat =>
        change base.sweep.progress = _
        rw [sweep]
        rfl
    | worker otherNumber =>
        have distinct : otherNumber ≠ number := by
          intro same
          exact different (congrArg IocpThread.worker same)
        simp [progress, goto, distinct, workers]

/-- A thread that moves without getting further. -/
theorem Moves.still
    {thread : IocpThread}
    {stage : Progress}
    (moves : contest.Moves next thread stage stage) :
    ∀ other, next.progress other = contest.progress other := by
  intro other
  by_cases same : other = thread
  · rw [same, moves.moved.1, moves.moved.2]
  · exact moves.others other same

/-- A worker that moves without getting further. -/
theorem neutral_goto
    {label : ContestLabel}
    {base : ContestedSession}
    {number : Nat}
    (phase : WorkerPhase)
    (same : contest.SameRecord base)
    (workers : base.workers = contest.workers)
    (sweep : base.sweep = contest.sweep)
    (still : (contest.workers number).progress = phase.progress) :
    contest.Effect label (base.goto number phase) := by
  have moves : contest.Moves (base.goto number phase) (.worker number)
      (contest.workers number).progress phase.progress :=
    moves_goto phase workers sweep
  rw [still] at moves
  exact .neutral ⟨same.registered, same.removals, same.finis, same.deletes⟩
    moves.still

/-- The kernel's part leaves the destruction alone. -/
theorem effect_dequeue
    {number : Nat}
    {completion : Dequeued}
    (dequeued : contest.dequeue number completion = some next) :
    contest.Effect (.dequeue number completion) next := by
  obtain ⟨waits, recv, sends, rfl⟩ := dequeue_cases dequeued
  exact neutral_goto _ ⟨rfl, rfl, rfl, rfl⟩ rfl rfl (by rw [waits]; rfl)

/-- Looking at a completion leaves the destruction alone. -/
theorem effect_handle
    {label : ContestLabel}
    {number : Nat}
    {completion : Dequeued}
    (handles : contest.workers number = .handling completion)
    (result : Bool) :
    contest.Effect label (contest.handle number result completion) := by
  have idle : ∀ phase : WorkerPhase, phase.progress = .idle →
      ∀ base : ContestedSession, contest.SameRecord base →
        base.workers = contest.workers → base.sweep = contest.sweep →
          contest.Effect label (base.goto number phase) := by
    intro phase isIdle base same workers sweep
    exact neutral_goto phase same workers sweep (by rw [handles, isIdle]; rfl)
  have stays : ∀ phase : WorkerPhase, phase.progress = .idle →
      contest.Effect label (contest.goto number phase) :=
    fun phase isIdle => idle phase isIdle contest ⟨rfl, rfl, rfl, rfl⟩ rfl rfl
  cases completion with
  | closed opType => exact stays _ rfl
  | transferred opType =>
      cases opType with
      | ioRecv =>
          simp only [handle]
          split
          · exact idle _ rfl _ ⟨rfl, rfl, rfl, rfl⟩ rfl rfl
          · exact stays _ rfl
      | ioSend =>
          simp only [handle]
          split
          · exact stays _ rfl
          · exact stays _ rfl
  | failed opType dwErrno =>
      simp only [handle]
      split
      · split
        · exact stays _ rfl
        · exact stays _ rfl
      · split
        · exact stays _ rfl
        · exact stays _ rfl

/-- A step of a worker. -/
theorem effect_workerStep
    {number : Nat}
    {result : Bool}
    (stepped : contest.workerStep number result = some next) :
    contest.Effect (.worker number result) next := by
  have moves : ∀ (base : ContestedSession) (phase : WorkerPhase),
      base.workers = contest.workers → base.sweep = contest.sweep →
        contest.Moves (base.goto number phase) (.worker number)
          (contest.workers number).progress phase.progress :=
    fun base phase workers sweep => moves_goto phase workers sweep
  have neutral : ∀ phase : WorkerPhase,
      (contest.workers number).progress = phase.progress →
        contest.Effect (.worker number result) (contest.goto number phase) :=
    fun phase still => neutral_goto phase ⟨rfl, rfl, rfl, rfl⟩ rfl rfl still
  cases workerStep_cases stepped with
  | finds phase | misses phase => exact neutral _ (by rw [phase]; rfl)
  | handles phase => exact effect_handle phase result
  | removes phase unlocked registered =>
      rename_i ignoresResult
      rw [phase] at moves
      refine .removes (.worker number) ⟨registered, rfl⟩ ⟨rfl, rfl, rfl⟩ ?_
      cases ignoresResult with
      | false => exact moves _ _ rfl rfl
      | true => exact moves _ _ rfl rfl
  | removesNothing phase unlocked gone =>
      rename_i ignoresResult
      cases ignoresResult with
      | false => exact neutral _ (by rw [phase]; rfl)
      | true => exact .usurps number result rfl phase gone
  | locks phase | unlocks phase =>
      exact neutral_goto _ ⟨rfl, rfl, rfl, rfl⟩ rfl rfl (by rw [phase]; rfl)
  | finalises phase =>
      rename_i locked
      rw [phase] at moves
      refine .finalises (.worker number) rfl ⟨rfl, rfl, rfl⟩ ?_
      cases locked with
      | false => exact moves _ _ rfl rfl
      | true => exact moves _ _ rfl rfl
  | deletes phase =>
      rw [phase] at moves
      exact .deletes (.worker number) rfl ⟨rfl, rfl, rfl⟩ (moves _ _ rfl rfl)

/-- The sweep moves. -/
theorem moves_sweep
    {base : ContestedSession}
    (workers : base.workers = contest.workers) :
    contest.Moves base .heartbeat contest.sweep.progress base.sweep.progress := by
  refine ⟨⟨rfl, rfl⟩, ?_⟩
  intro other different
  cases other with
  | heartbeat => exact absurd rfl different
  | worker number =>
      change (base.workers number).progress = _
      rw [workers]
      rfl

/-- A step of the sweep. -/
theorem effect_sweepStep
    {isHeartbeatTimeOut : Bool}
    (locks : contest.SweepLocks)
    (stepped : contest.sweepStep isHeartbeatTimeOut = some next) :
    contest.Effect (.sweep isHeartbeatTimeOut) next := by
  have moves : ∀ base : ContestedSession, base.workers = contest.workers →
      contest.Moves base .heartbeat contest.sweep.progress
        base.sweep.progress :=
    fun base workers => moves_sweep workers
  have neutral : ∀ base : ContestedSession, contest.SameRecord base →
      base.workers = contest.workers →
        contest.sweep.progress = base.sweep.progress →
          contest.Effect (.sweep isHeartbeatTimeOut) base := by
    intro base same workers still
    have moved := moves base workers
    rw [still] at moved
    exact .neutral same moved.still
  cases sweepStep_cases stepped with
  | begins phase | locks phase | passes phase | keeps phase | ends phase =>
      exact neutral _ ⟨rfl, rfl, rfl, rfl⟩ rfl (by rw [phase]; rfl)
  | removes phase =>
      rw [phase] at moves
      exact .removes .heartbeat ⟨locks.checks phase, rfl⟩ ⟨rfl, rfl, rfl⟩
        (moves _ rfl)
  | finalises phase =>
      rw [phase] at moves
      exact .finalises .heartbeat rfl ⟨rfl, rfl, rfl⟩ (moves _ rfl)
  | unlocks phase =>
      rename_i bFlag
      refine neutral _ ⟨rfl, rfl, rfl, rfl⟩ rfl ?_
      rw [phase]
      cases bFlag <;> rfl
  | deletes phase =>
      rw [phase] at moves
      exact .deletes .heartbeat rfl ⟨rfl, rfl, rfl⟩ (moves _ rfl)

/-- What any step means for the destruction. -/
theorem effect_step
    {label : ContestLabel}
    (locks : contest.SweepLocks)
    (stepped : contest.step label = some next) :
    contest.Effect label next := by
  cases label with
  | post =>
      rw [← Option.some.inj stepped]
      refine .neutral ⟨rfl, rfl, rfl, rfl⟩ ?_
      intro thread
      cases thread <;> rfl
  | dequeue number completion => exact effect_dequeue stepped
  | worker number result => exact effect_workerStep stepped
  | sweep isHeartbeatTimeOut => exact effect_sweepStep locks stepped

/-- Workers leave the sweep and its lock alone, and change the entry of the
session only while the sweep does not hold the lock. -/
theorem frame_workerStep
    {number : Nat}
    {result : Bool}
    (stepped : contest.workerStep number result = some next) :
    next.sweep = contest.sweep ∧ next.mgrLocked = contest.mgrLocked ∧
      (next.registered = contest.registered ∨ contest.mgrLocked = false) := by
  cases workerStep_cases stepped with
  | removes phase unlocked => exact ⟨rfl, rfl, Or.inr unlocked⟩
  | handles phase =>
      rename_i completion
      cases completion with
      | closed opType => exact ⟨rfl, rfl, Or.inl rfl⟩
      | transferred opType =>
          cases opType <;> cases result <;> exact ⟨rfl, rfl, Or.inl rfl⟩
      | failed opType dwErrno =>
          simp only [handle]
          split
          · split <;> exact ⟨rfl, rfl, Or.inl rfl⟩
          · split <;> exact ⟨rfl, rfl, Or.inl rfl⟩
  | finds | misses | removesNothing | locks | finalises | unlocks | deletes =>
      exact ⟨rfl, rfl, Or.inl rfl⟩

/-- The locks of the sweep through a step. -/
theorem sweepLocks_step
    {label : ContestLabel}
    (locks : contest.SweepLocks)
    (stepped : contest.step label = some next) :
    next.SweepLocks := by
  cases label with
  | post =>
      rw [← Option.some.inj stepped]
      exact ⟨locks.locked, locks.checks⟩
  | dequeue number completion =>
      obtain ⟨-, recv, sends, rfl⟩ := dequeue_cases stepped
      exact ⟨locks.locked, locks.checks⟩
  | worker number result =>
      obtain ⟨sweep, mgrLocked, registered⟩ := frame_workerStep stepped
      refine ⟨?_, ?_⟩
      · rw [sweep, mgrLocked]
        exact locks.locked
      · intro checking
        rw [sweep] at checking
        rcases registered with same | unlocked
        · exact same.trans (locks.checks checking)
        · rcases locks.locked with sleeping | locked
          · rw [checking] at sleeping
            contradiction
          · rw [locked] at unlocked
            contradiction
  | sweep isHeartbeatTimeOut =>
      have held : contest.sweep ≠ .sleeping → contest.mgrLocked = true :=
        locks.locked.resolve_left
      cases sweepStep_cases stepped with
      | begins => exact ⟨Or.inr rfl, fun impossible => by contradiction⟩
      | locks phase registered =>
          exact ⟨Or.inr (held (by rw [phase]; simp)), fun _ => registered⟩
      | passes phase | removes phase | keeps phase | finalises phase
      | deletes phase =>
          exact ⟨Or.inr (held (by rw [phase]; simp)),
            fun impossible => by contradiction⟩
      | unlocks phase =>
          rename_i bFlag
          refine ⟨Or.inr (held (by rw [phase]; simp)), ?_⟩
          cases bFlag <;> exact fun impossible => by contradiction
      | ends => exact ⟨Or.inl rfl, fun impossible => by contradiction⟩

end Steps

/-! ## One owner -/

/-- What the record says when the owner of the destruction is at a point. -/
def RecordAt (contest : ContestedSession) (owner : IocpThread) : Progress → Prop
  | .beforeFini => contest.finis = [] ∧ contest.deletes = []
  | .beforeDelete => contest.finis = [owner] ∧ contest.deletes = []
  | .idle => contest.finis = [owner] ∧ contest.deletes = [owner]

/-- Nobody has begun to destroy a registered session; a removed one is destroyed
by the thread that has removed it. -/
structure Exclusive (contest : ContestedSession) : Prop where
  locks : contest.SweepLocks
  fresh : contest.registered = true →
    (contest.removals = [] ∧ contest.finis = [] ∧ contest.deletes = []) ∧
      ∀ thread, contest.progress thread = .idle
  owned : contest.registered = false →
    ∃ owner, contest.removals = [owner] ∧
      (∀ other, other ≠ owner → contest.progress other = .idle) ∧
        contest.RecordAt owner (contest.progress owner)

theorem exclusive_start (sends : Nat) : (start sends).Exclusive where
  locks := ⟨Or.inl rfl, fun impossible => by contradiction⟩
  fresh := fun _ => ⟨⟨rfl, rfl, rfl⟩, fun thread => by cases thread <;> rfl⟩
  owned := fun impossible => by contradiction

variable {contest next : ContestedSession}

/-- A thread that has begun to destroy is the owner. -/
theorem Exclusive.owner
    {thread : IocpThread}
    (exclusive : contest.Exclusive)
    (busy : contest.progress thread ≠ .idle) :
    contest.registered = false ∧ contest.removals = [thread] ∧
      (∀ other, other ≠ thread → contest.progress other = .idle) ∧
        contest.RecordAt thread (contest.progress thread) := by
  cases registered : contest.registered with
  | true => exact absurd ((exclusive.fresh registered).2 thread) busy
  | false =>
      obtain ⟨owner, removals, others, record⟩ := exclusive.owned registered
      by_cases same : thread = owner
      · subst same
        exact ⟨rfl, removals, others, record⟩
      · exact absurd (others thread same) busy

/-- The owner goes on with the destruction. -/
theorem Exclusive.advance
    {thread : IocpThread}
    {before after : Progress}
    (exclusive : contest.Exclusive)
    (locks : next.SweepLocks)
    (moves : contest.Moves next thread before after)
    (busy : before ≠ .idle)
    (registered : next.registered = contest.registered)
    (removals : next.removals = contest.removals)
    (record : contest.RecordAt thread before → next.RecordAt thread after) :
    next.Exclusive := by
  obtain ⟨removed, owns, others, known⟩ :=
    exclusive.owner (moves.moved.1 ▸ busy)
  rw [moves.moved.1] at known
  refine ⟨locks, fun impossible => ?_, fun _ => ⟨thread, ?_, ?_, ?_⟩⟩
  · rw [registered, removed] at impossible
    contradiction
  · rw [removals, owns]
  · intro other different
    exact (moves.others other different).trans (others other different)
  · rw [moves.moved.2]
    exact record known

/-- One step. -/
theorem exclusive_step
    {label : ContestLabel}
    (exclusive : contest.Exclusive)
    (still : contest.StillRegistered label)
    (stepped : contest.step label = some next) :
    next.Exclusive := by
  have locks := sweepLocks_step exclusive.locks stepped
  rcases effect_step exclusive.locks stepped with
    ⟨same, progress⟩ | ⟨thread, registered, record, moves⟩ |
    ⟨thread, registered, record, moves⟩ | ⟨thread, registered, record, moves⟩ |
    ⟨number, result, isWorker, phase, gone⟩
  · refine ⟨locks, ?_, ?_⟩
    · intro isRegistered
      rw [same.registered] at isRegistered
      obtain ⟨record, idle⟩ := exclusive.fresh isRegistered
      rw [same.removals, same.finis, same.deletes]
      exact ⟨record, fun thread => (progress thread).trans (idle thread)⟩
    · intro removed
      rw [same.registered] at removed
      obtain ⟨owner, removals, others, record⟩ := exclusive.owned removed
      refine ⟨owner, same.removals.trans removals, ?_, ?_⟩
      · intro other different
        exact (progress other).trans (others other different)
      · rw [progress owner]
        cases stage : contest.progress owner <;>
          simpa only [RecordAt, stage, same.finis, same.deletes] using record
  · -- the thread becomes the owner
    obtain ⟨⟨removals, finis, deletes⟩, idle⟩ := exclusive.fresh registered.1
    refine ⟨locks, fun impossible => ?_, fun _ => ⟨thread, ?_, ?_, ?_⟩⟩
    · rw [registered.2] at impossible
      contradiction
    · rw [record.1, removals]
    · intro other different
      exact (moves.others other different).trans (idle other)
    · rw [moves.moved.2]
      exact ⟨record.2.1.trans finis, record.2.2.trans deletes⟩
  · -- the owner finalises
    apply exclusive.advance locks moves (by decide) registered record.1
    exact fun before => ⟨by rw [record.2.1, before.1], record.2.2.trans before.2⟩
  · -- the owner deletes
    apply exclusive.advance locks moves (by decide) registered record.1
    exact fun before => ⟨record.2.1.trans before.1, by rw [record.2.2, before.2]⟩
  · have registered := still number result isWorker phase
    rw [gone] at registered
    contradiction

/-- The record of a session with one owner. -/
theorem Exclusive.atMostOnce (exclusive : contest.Exclusive) :
    contest.AtMostOnce := by
  cases registered : contest.registered with
  | true =>
      obtain ⟨⟨-, finis, deletes⟩, -⟩ := exclusive.fresh registered
      refine ⟨?_, ?_, ?_⟩ <;> simp [finis, deletes]
  | false =>
      obtain ⟨owner, removals, -, record⟩ := exclusive.owned registered
      cases stage : contest.progress owner with
      | beforeFini =>
          rw [stage] at record
          refine ⟨?_, ?_, ?_⟩ <;> simp [record.1, record.2]
      | beforeDelete =>
          rw [stage] at record
          refine ⟨?_, ?_, ?_⟩ <;> simp [record.1, record.2, removals]
      | idle =>
          rw [stage] at record
          refine ⟨?_, ?_, ?_⟩ <;> simp [record.1, record.2, removals]

/-- In every run in which each worker with a zero-byte completion still finds
the session registered when it removes it, the session is finalised and deleted
at most once, by the thread that has removed it. -/
theorem atMostOnce_of_stillRegistered
    (sends : Nat)
    (labels : List ContestLabel)
    (last : ContestedSession)
    (still : Throughout step StillRegistered (start sends) labels)
    (reached : run step (start sends) labels = some last) :
    last.AtMostOnce :=
  (invariant_of_run
    (fun _ _ _ exclusive still stepped => exclusive_step exclusive still stepped)
    (exclusive_start sends) still reached).atMostOnce

/-! ### A worker and the sweep -/

/-- A worker handles the zero-byte completion of the receive, up to
`TcpSessionMgr_DelSession`. -/
def peerCloses : List ContestLabel :=
  [.dequeue 0 (.closed .ioRecv), .worker 0 true, .worker 0 true]

/-- The worker goes on to the end. -/
def workerDestroys : List ContestLabel :=
  List.replicate 3 (.worker 0 true)

/-- The sweep evicts the session. -/
def sweepEvicts : List ContestLabel :=
  List.replicate 7 (.sweep true)

theorem atMostOnce_peerCloses :
    ∃ last, run step (start 0) (peerCloses ++ workerDestroys) = some last ∧
      last.AtMostOnce := by
  have early : ∀ (contest : ContestedSession) (label : ContestLabel),
      contest.registered = true → contest.StillRegistered label :=
    fun _ _ registered _ _ _ _ => registered
  have still : Throughout step StillRegistered (start 0)
      (peerCloses ++ workerDestroys) := by
    refine throughout_cons rfl (early _ _ rfl) (throughout_cons rfl
      (early _ _ rfl) (throughout_cons rfl (early _ _ rfl) (throughout_cons rfl
      (early _ _ rfl) (throughout_cons rfl ?_ (throughout_cons rfl ?_ trivial)))))
    · rintro number result same phase
      cases same
      exact absurd phase (by decide)
    · rintro number result same phase
      cases same
      exact absurd phase (by decide)
  exact ⟨_, rfl, atMostOnce_of_stillRegistered 0 _ _ still rfl⟩

/-- The sweep comes between the search for the session and its removal: the
worker finalises and deletes it once more. -/
theorem not_atMostOnce_evicted :
    ¬∀ (sends : Nat) (labels : List ContestLabel) (last : ContestedSession),
      run step (start sends) labels = some last → last.AtMostOnce := by
  intro always
  have once := always 0 (peerCloses ++ sweepEvicts ++ workerDestroys) _ rfl
  exact absurd once.fini (by decide)

end ContestedSession

end TransPortEngine
