import TransPortEngine.TcpClient.Control
import TransPortEngine.TcpClient.Timed

/-!
# The threads a client joins

The creation of the threads in `m_tHeartbeatThread` and `m_tRecvThread` (on Windows
`m_hHeartbeatThread` and `m_hRecvThread`), and the waits for their end. Whether a
thread is joined depends on two flags the constructor sets, and not on a thread
having been created: every join is one of a thread of the client exactly when the
last creation for that member has succeeded, and, on Windows, the thread has not
returned yet, because its handle is closed then.
-/

namespace TransPortEngine

open Transition

/-! ## The platforms -/

/-- The result of `pthread_create` behind which the code goes on as it does behind a
result on the platform. `_beginthread` returns the handle, or −1 on an error; the
code takes 0 for an error, and −1 for a handle. -/
def Platform.createResult : Platform → Int → Int
  | .linux, nRet => nRet
  | .windows, nRet => if nRet = 0 then -1 else if nRet = -1 then 1 else 0

/-- The result of `socket` behind which the code goes on as it does behind a result
on the platform, where −1 is `INVALID_SOCKET`. Which socket it is does not matter to
the threads. -/
def Platform.socketResult : Platform → Int → Int
  | .linux, nSocket => nSocket
  | .windows, nSocket => if nSocket = -1 then -1 else 1

/-- The results of `TcpClient_SocketInit`. -/
def Platform.results
    (platform : Platform)
    (results : SocketInitResults) : SocketInitResults where
  createHeartbeatThread := platform.createResult results.createHeartbeatThread
  nSocket := platform.socketResult results.nSocket
  connect := results.connect
  createRecvThread := platform.createResult results.createRecvThread

/-- The results of the heartbeat thread. -/
def Platform.label (platform : Platform) : LinkLabel → LinkLabel
  | .keepAlive (.socket nSocket) =>
      .keepAlive (.socket (platform.socketResult nSocket))
  | .keepAlive (.create nRet) => .keepAlive (.create (platform.createResult nRet))
  | label => label

/-- The Linux calls are the ones that are modelled. -/
@[simp] theorem Platform.label_linux (label : LinkLabel) :
    Platform.linux.label label = label := by
  cases label with
  | keepAlive input =>
      cases input with
      | next | socket | connect | create | beat => rfl
  | look | recv | socketUnit => rfl

/-! ## The ledger -/

/-- A thread of a client, by the order of creation. -/
abbrev ClientThread := Nat

/-- The thread members of a client, none while they do not denote a thread, the
results of the last creations for them, the joins whose flag has been cleared and
that have not been called, and the targets of the joins in order. -/
structure ThreadLedger where
  nThreads : Nat
  tHeartbeatThread : Option ClientThread
  tRecvThread : Option ClientThread
  heartbeatResult : Option Int
  recvResult : Option Int
  heartbeatJoin : Bool
  recvJoin : Bool
  joins : List (Option ClientThread)

namespace ThreadLedger

/-- Behind the constructor, which leaves both members uninitialised. -/
def initial : ThreadLedger :=
  ⟨0, none, none, none, none, false, false, []⟩

/-- The creation of the heartbeat thread. -/
def createHeartbeat (ledger : ThreadLedger) (nRet : Int) : ThreadLedger :=
  { ledger with
    nThreads := if nRet = 0 then ledger.nThreads + 1 else ledger.nThreads
    tHeartbeatThread := if nRet = 0 then some ledger.nThreads else none
    heartbeatResult := some nRet }

/-- The creation of a receive thread. What a failing `pthread_create` leaves in the
member is not defined; −1 is not the handle of a thread. -/
def createRecv (ledger : ThreadLedger) (nRet : Int) : ThreadLedger :=
  { ledger with
    nThreads := if nRet = 0 then ledger.nThreads + 1 else ledger.nThreads
    tRecvThread := if nRet = 0 then some ledger.nThreads else none
    recvResult := some nRet }

/-- `pthread_join`, or `WaitForSingleObject`. -/
def join
    (ledger : ThreadLedger)
    (target : Option ClientThread) : ThreadLedger :=
  { ledger with joins := ledger.joins ++ [target] }

/-- The heartbeat thread is joined, when its handle denotes it. -/
def joinHeartbeat (ledger : ThreadLedger) (denotes : Bool) : ThreadLedger :=
  { ledger.join (if denotes then ledger.tHeartbeatThread else none) with
    heartbeatJoin := false }

/-- The receive thread is joined, when its handle denotes it. -/
def joinRecv (ledger : ThreadLedger) (denotes : Bool) : ThreadLedger :=
  { ledger.join (if denotes then ledger.tRecvThread else none) with
    recvJoin := false }

/-- What `TcpClient_SocketInit` does. -/
def socketInit
    (arguments : ClientArguments)
    (results : SocketInitResults) : ThreadLedger :=
  if arguments.hasTransPortEngineRecv then
    if arguments.bIsHaveHB then
      initial.createHeartbeat results.createHeartbeatThread
    else if results.nSocket ≤ 0 ∨ results.connect ≠ 0 then initial
    else initial.createRecv results.createRecvThread
  else initial

/-- What a step of a client does, which reads its flags before the step. -/
def note (ledger : ThreadLedger) (control : Control) : LinkLabel → ThreadLedger
  | .keepAlive (.create nRet) => ledger.createRecv nRet
  | .keepAlive .next =>
      if control.keepAlive = .dropping then { ledger with recvJoin := true }
      else ledger
  | .socketUnit =>
      if control.socketUnit = .idle ∧ control.bHeartbeatFlag then
        { ledger with heartbeatJoin := true }
      else if control.socketUnit = .stopping ∧ control.bRecvFlag then
        { ledger with recvJoin := true }
      else ledger
  | _ => ledger

/-- A thread that is about to call a join does nothing else. -/
def Free (ledger : ThreadLedger) (control : Control) : LinkLabel → Prop
  | .keepAlive _ => ledger.recvJoin = true → control.keepAlive ≠ .joining
  | .socketUnit => ledger.heartbeatJoin = false ∧
      (ledger.recvJoin = true → control.socketUnit ≠ .joiningReceiver)
  | _ => True

instance (ledger : ThreadLedger) (control : Control) (label : LinkLabel) :
    Decidable (ledger.Free control label) :=
  match label with
  | .keepAlive _ => inferInstanceAs (Decidable (_ → _))
  | .socketUnit => inferInstanceAs (Decidable (_ ∧ (_ → _)))
  | .look | .recv _ => isTrue trivial

/-- Every join is one of a thread of the client, and no thread is joined
twice. -/
structure Sound (ledger : ThreadLedger) : Prop where
  targets : ∀ target ∈ ledger.joins, ∃ thread < ledger.nThreads,
    target = some thread
  once : ledger.joins.Nodup

/-- A join is sound exactly when its target is a thread that has not been
joined. -/
theorem sound_join_iff
    {ledger : ThreadLedger}
    (sound : ledger.Sound)
    (target : Option ClientThread) :
    (ledger.join target).Sound ↔
      ∃ thread < ledger.nThreads, target = some thread ∧
        some thread ∉ ledger.joins := by
  constructor
  · rintro ⟨targets, once⟩
    obtain ⟨thread, created, isThread⟩ := targets target
      (List.mem_append_right _ List.mem_cons_self)
    refine ⟨thread, created, isThread, fun joined => ?_⟩
    have apart := (List.nodup_append.mp once).2.2
    exact apart (some thread) joined target List.mem_cons_self isThread.symm
  · rintro ⟨thread, created, rfl, notJoined⟩
    refine ⟨fun target member => ?_, ?_⟩
    · rcases List.mem_append.mp member with before | last
      · exact sound.targets target before
      · exact ⟨thread, created, List.mem_singleton.mp last⟩
    · refine List.nodup_append.mpr ⟨sound.once, by simp, ?_⟩
      intro first memberFirst second memberSecond same
      rw [List.mem_singleton.mp memberSecond] at same
      exact notJoined (same ▸ memberFirst)

/-- A new thread leaves the joins sound. -/
theorem Sound.createRecv
    {ledger : ThreadLedger}
    (sound : ledger.Sound)
    (nRet : Int) :
    (ledger.createRecv nRet).Sound := by
  refine ⟨fun target member => ?_, sound.once⟩
  obtain ⟨thread, created, isThread⟩ := sound.targets target member
  refine ⟨thread, lt_of_lt_of_le created ?_, isThread⟩
  simp only [ThreadLedger.createRecv]
  split <;> omega

/-- The joins and the number of threads are all that soundness is about. -/
theorem Sound.congr
    {ledger other : ThreadLedger}
    (sound : ledger.Sound)
    (joins : other.joins = ledger.joins)
    (nThreads : other.nThreads = ledger.nThreads) :
    other.Sound := by
  obtain ⟨targets, once⟩ := sound
  rw [← joins, ← nThreads] at targets
  exact ⟨targets, joins ▸ once⟩

/-- A step of the client itself joins nothing. -/
theorem Sound.note
    {ledger : ThreadLedger}
    (sound : ledger.Sound)
    (control : Control)
    (label : LinkLabel) :
    (ledger.note control label).Sound := by
  unfold ThreadLedger.note
  split
  · exact sound.createRecv _
  · split
    · exact sound.congr rfl rfl
    · exact sound
  · split
    · exact sound.congr rfl rfl
    · split
      · exact sound.congr rfl rfl
      · exact sound
  · exact sound

end ThreadLedger

/-- A client and its threads. -/
structure ClientThreads where
  link : Link
  ledger : ThreadLedger

/-- A step of the client, or one of its joins. -/
inductive ThreadLabel
  | thread (label : LinkLabel)
  | joinHeartbeat
  | joinRecv

namespace ClientThreads

/-- `TransPortEngine_CreateClient`. -/
def start
    (platform : Platform)
    (garbage : ClientGarbage)
    (arguments : ClientArguments)
    (results : SocketInitResults) : ClientThreads where
  link := Link.createClient garbage arguments (platform.results results)
  ledger := ThreadLedger.socketInit arguments (platform.results results)

/-- The heartbeat member denotes a thread that has not been joined. A thread that
returns closes its handle on Windows. -/
def heartbeatDenotes (platform : Platform) (threads : ClientThreads) : Bool :=
  decide (platform = .linux) || decide (threads.link.keepAlive ≠ .returned)

/-- The same of the member of the receive thread. -/
def recvDenotes (platform : Platform) (threads : ClientThreads) : Bool :=
  decide (platform = .linux) || threads.link.receiver.running

/-- A step of the client. -/
def step
    (platform : Platform)
    (threads : ClientThreads) : ThreadLabel → Option ClientThreads
  | .thread label =>
      if threads.ledger.Free threads.link.control (platform.label label) then
        (linkStep threads.link (platform.label label)).map fun link =>
          ⟨link, threads.ledger.note threads.link.control (platform.label label)⟩
      else none
  | .joinHeartbeat =>
      if threads.ledger.heartbeatJoin then
        some { threads with
          ledger := threads.ledger.joinHeartbeat (threads.heartbeatDenotes platform) }
      else none
  | .joinRecv =>
      if threads.ledger.recvJoin then
        some { threads with
          ledger := threads.ledger.joinRecv (threads.recvDenotes platform) }
      else none

/-- Every join is sound, and when `TcpClient_SocketUnit` has returned every
thread has been joined. -/
structure Disciplined (threads : ClientThreads) : Prop where
  sound : threads.ledger.Sound
  all : threads.link.socketUnit = .returned →
    ∀ thread < threads.ledger.nThreads, some thread ∈ threads.ledger.joins

/-- The condition on a step of a client: before a join the last creation for the
member has been called and has succeeded, and on Windows the thread has not
returned. -/
def JoinsCreated
    (platform : Platform)
    (threads : ClientThreads) : ThreadLabel → Prop
  | .thread _ => True
  | .joinHeartbeat => threads.ledger.heartbeatResult = some 0 ∧
      (platform = .windows → threads.link.keepAlive ≠ .returned)
  | .joinRecv => threads.ledger.recvResult = some 0 ∧
      (platform = .windows → threads.link.receiver.running = true)

instance (platform : Platform) (threads : ClientThreads) (label : ThreadLabel) :
    Decidable (threads.JoinsCreated platform label) :=
  match label with
  | .thread _ => isTrue trivial
  | .joinHeartbeat | .joinRecv => inferInstanceAs (Decidable (_ ∧ (_ → _)))

end ClientThreads

/-! ## Which threads have not been joined -/

/-- There is no receive thread to be joined, or there may be one. -/
def KeepAliveStage.Receiver
    (nLinkStatus : MsgType)
    (bRecvFlag : Bool)
    (recvResult : Option Int) : KeepAliveStage → Prop
  | .connecting | .joining | .starting => bRecvFlag = true → recvResult = none
  | .greeting | .dropping => bRecvFlag = true ∧ recvResult ≠ none
  | .loop | .woken =>
      (nLinkStatus = .disconnect → bRecvFlag = true → recvResult = none) ∧
      (nLinkStatus = .connect → bRecvFlag = true ∧ recvResult ≠ none)
  | .returned => True

/-- The threads that have not been joined are the heartbeat thread, until
`TcpClient_SocketUnit` joins it, and the last receive thread until the join behind
the clearing of the flag. -/
structure Tracked (control : Control) (ledger : ThreadLedger) : Prop where
  ordered : control.Ordered
  heartbeat : ∀ thread, ledger.tHeartbeatThread = some thread →
    thread < ledger.nThreads ∧ (some thread ∈ ledger.joins ↔
      control.socketUnit ≠ .idle ∧ ledger.heartbeatJoin = false)
  heartbeatResult : ledger.heartbeatResult = some 0 ↔
    ledger.tHeartbeatThread.isSome
  heartbeatJoin : ledger.heartbeatJoin = true →
    control.socketUnit = .joiningHeartbeat
  receiver : ∀ thread, ledger.tRecvThread = some thread →
    thread < ledger.nThreads ∧ ledger.tHeartbeatThread ≠ some thread ∧
      (some thread ∈ ledger.joins ↔
        control.bRecvFlag = false ∧ ledger.recvJoin = false)
  recvResult : ledger.recvResult = some 0 ↔ ledger.tRecvThread.isSome
  recvJoin : ledger.recvJoin = true → control.bRecvFlag = false ∧
    (control.keepAlive = .joining ∨ control.socketUnit = .joiningReceiver)
  known : ∀ thread < ledger.nThreads, some thread ∈ ledger.joins ∨
    ledger.tHeartbeatThread = some thread ∨ ledger.tRecvThread = some thread
  stage : control.keepAlive.Receiver control.nLinkStatus control.bRecvFlag
    ledger.recvResult
  done : control.socketUnit = .joiningReceiver ∨ control.socketUnit = .returned →
    control.bRecvFlag = false ∨ ledger.nThreads = 0

namespace Tracked

variable {control next : Control} {ledger : ThreadLedger}

/-- While the heartbeat thread is not at its join, and `TcpClient_SocketUnit` has not
come to the receive thread, nobody is about to join it. -/
theorem recvJoin_eq_false
    (tracked : Tracked control ledger)
    (notJoining : control.keepAlive ≠ .joining)
    (notStopping : control.socketUnit ≠ .joiningReceiver) :
    ledger.recvJoin = false := by
  by_contra pending
  rcases (tracked.recvJoin (Bool.not_eq_false _ ▸ pending)).2 with joining | stopping
  · exact notJoining joining
  · exact notStopping stopping

/-- When `TcpClient_SocketUnit` has returned no thread is left. -/
theorem all_joined
    (tracked : Tracked control ledger)
    (returned : control.socketUnit = .returned)
    (thread : ClientThread)
    (created : thread < ledger.nThreads) :
    some thread ∈ ledger.joins := by
  have keepAlive := tracked.ordered.returned (by simp [returned]) (by simp [returned])
  rcases tracked.known thread created with joined | isHeartbeat | isReceiver
  · exact joined
  · apply (tracked.heartbeat thread isHeartbeat).2.mpr
    refine ⟨by simp [returned], ?_⟩
    by_contra pending
    have joining := tracked.heartbeatJoin (Bool.not_eq_false _ ▸ pending)
    rw [returned] at joining
    contradiction
  · apply (tracked.receiver thread isReceiver).2.2.mpr
    refine ⟨?_, tracked.recvJoin_eq_false (by simp [keepAlive]) (by simp [returned])⟩
    rcases tracked.done (Or.inr returned) with cleared | noThread
    · exact cleared
    · rw [noThread] at created
      exact absurd created (Nat.not_lt_zero thread)

/-- A step that joins and creates nothing. -/
theorem of_quiet
    (tracked : Tracked control ledger)
    (ordered : next.Ordered)
    (sameUnit : next.socketUnit = control.socketUnit)
    (sameFlag : next.bRecvFlag = control.bRecvFlag)
    (free : ledger.recvJoin = true → control.keepAlive ≠ .joining)
    (stage : next.keepAlive.Receiver next.nLinkStatus control.bRecvFlag
      ledger.recvResult) :
    Tracked next ledger where
  ordered := ordered
  heartbeat := by
    rw [sameUnit]
    exact tracked.heartbeat
  heartbeatResult := tracked.heartbeatResult
  heartbeatJoin := by
    rw [sameUnit]
    exact tracked.heartbeatJoin
  receiver := by
    rw [sameFlag]
    exact tracked.receiver
  recvResult := tracked.recvResult
  recvJoin pending := by
    obtain ⟨cleared, place⟩ := tracked.recvJoin pending
    rw [sameFlag, sameUnit]
    exact ⟨cleared, Or.inr (place.resolve_left (free pending))⟩
  known := tracked.known
  stage := by
    rw [sameFlag]
    exact stage
  done := by
    rw [sameUnit, sameFlag]
    exact tracked.done

/-- `TcpClient_SocketUnit` goes on, and clears no flag. -/
theorem of_socketUnit
    (tracked : Tracked control ledger)
    (ordered : next.Ordered)
    (notIdle : next.socketUnit ≠ .idle ∧ control.socketUnit ≠ .idle)
    (sameStage : next.keepAlive = control.keepAlive)
    (sameStatus : next.nLinkStatus = control.nLinkStatus)
    (sameFlag : next.bRecvFlag = control.bRecvFlag)
    (free : ledger.heartbeatJoin = false ∧
      (ledger.recvJoin = true → control.socketUnit ≠ .joiningReceiver))
    (done : next.socketUnit = .returned →
      control.bRecvFlag = false ∨ ledger.nThreads = 0)
    (notJoining : next.socketUnit ≠ .joiningReceiver) :
    Tracked next ledger where
  ordered := ordered
  heartbeat thread isThread := by
    obtain ⟨created, joined⟩ := tracked.heartbeat thread isThread
    exact ⟨created, joined.trans
      (and_congr_left' (iff_of_true notIdle.2 notIdle.1))⟩
  heartbeatResult := tracked.heartbeatResult
  heartbeatJoin pending := by
    rw [free.1] at pending
    contradiction
  receiver := by
    rw [sameFlag]
    exact tracked.receiver
  recvResult := tracked.recvResult
  recvJoin pending := by
    obtain ⟨cleared, place⟩ := tracked.recvJoin pending
    rw [sameFlag, sameStage]
    exact ⟨cleared, Or.inl (place.resolve_right (free.2 pending))⟩
  known := tracked.known
  stage := by
    rw [sameStage, sameStatus, sameFlag]
    exact tracked.stage
  done stopped := by
    rw [sameFlag]
    exact done (stopped.resolve_left notJoining)

/-! ## The joins -/

/-- The heartbeat thread can be joined exactly when it has been created, and its
handle still denotes it. -/
theorem sound_joinHeartbeat
    (tracked : Tracked control ledger)
    (sound : ledger.Sound)
    (pending : ledger.heartbeatJoin = true)
    (denotes : Bool) :
    (ledger.joinHeartbeat denotes).Sound ↔
      ledger.heartbeatResult = some 0 ∧ denotes = true := by
  have onlyJoin : (ledger.joinHeartbeat denotes).Sound ↔
      (ledger.join (if denotes then ledger.tHeartbeatThread else none)).Sound :=
    ⟨fun sound => sound.congr rfl rfl, fun sound => sound.congr rfl rfl⟩
  rw [onlyJoin, ThreadLedger.sound_join_iff sound, tracked.heartbeatResult,
    Option.isSome_iff_exists]
  constructor
  · rintro ⟨thread, -, isThread, -⟩
    cases denotes with
    | true => exact ⟨⟨thread, isThread⟩, rfl⟩
    | false => contradiction
  · rintro ⟨⟨thread, isThread⟩, rfl⟩
    obtain ⟨created, joined⟩ := tracked.heartbeat thread isThread
    refine ⟨thread, created, isThread, fun isJoined => ?_⟩
    rw [(joined.mp isJoined).2] at pending
    contradiction

/-- The receive thread can be joined exactly when it has been created, and its handle
still denotes it. -/
theorem sound_joinRecv
    (tracked : Tracked control ledger)
    (sound : ledger.Sound)
    (pending : ledger.recvJoin = true)
    (denotes : Bool) :
    (ledger.joinRecv denotes).Sound ↔
      ledger.recvResult = some 0 ∧ denotes = true := by
  have onlyJoin : (ledger.joinRecv denotes).Sound ↔
      (ledger.join (if denotes then ledger.tRecvThread else none)).Sound :=
    ⟨fun sound => sound.congr rfl rfl, fun sound => sound.congr rfl rfl⟩
  rw [onlyJoin, ThreadLedger.sound_join_iff sound, tracked.recvResult,
    Option.isSome_iff_exists]
  constructor
  · rintro ⟨thread, -, isThread, -⟩
    cases denotes with
    | true => exact ⟨⟨thread, isThread⟩, rfl⟩
    | false => contradiction
  · rintro ⟨⟨thread, isThread⟩, rfl⟩
    obtain ⟨created, -, joined⟩ := tracked.receiver thread isThread
    refine ⟨thread, created, isThread, fun isJoined => ?_⟩
    rw [(joined.mp isJoined).2] at pending
    contradiction

/-- The heartbeat thread has been joined. -/
theorem of_joinHeartbeat
    (tracked : Tracked control ledger)
    (pending : ledger.heartbeatJoin = true) :
    Tracked control (ledger.joinHeartbeat true) where
  ordered := tracked.ordered
  heartbeat thread isThread := by
    refine ⟨(tracked.heartbeat thread isThread).1, ?_⟩
    have isTarget : ledger.tHeartbeatThread = some thread := isThread
    have place := tracked.heartbeatJoin pending
    simp [ThreadLedger.joinHeartbeat, ThreadLedger.join, isTarget, place]
  heartbeatResult := tracked.heartbeatResult
  heartbeatJoin impossible := by contradiction
  receiver thread isThread := by
    obtain ⟨created, apart, joined⟩ := tracked.receiver thread isThread
    refine ⟨created, apart, Iff.trans ?_ joined⟩
    simp [ThreadLedger.joinHeartbeat, ThreadLedger.join, Ne.symm apart]
  recvResult := tracked.recvResult
  recvJoin := tracked.recvJoin
  known thread created :=
    (tracked.known thread created).imp_left (List.mem_append_left _)
  stage := tracked.stage
  done := tracked.done

/-- The receive thread has been joined. -/
theorem of_joinRecv
    (tracked : Tracked control ledger)
    (pending : ledger.recvJoin = true) :
    Tracked control (ledger.joinRecv true) where
  ordered := tracked.ordered
  heartbeat thread isThread := by
    obtain ⟨created, joined⟩ := tracked.heartbeat thread isThread
    refine ⟨created, Iff.trans ?_ joined⟩
    have apart : some thread ≠ ledger.tRecvThread := fun same =>
      (tracked.receiver thread same.symm).2.1 isThread
    simp [ThreadLedger.joinRecv, ThreadLedger.join, apart]
  heartbeatResult := tracked.heartbeatResult
  heartbeatJoin := tracked.heartbeatJoin
  receiver thread isThread := by
    obtain ⟨created, apart, -⟩ := tracked.receiver thread isThread
    refine ⟨created, apart, ?_⟩
    have isTarget : ledger.tRecvThread = some thread := isThread
    have cleared := (tracked.recvJoin pending).1
    simp [ThreadLedger.joinRecv, ThreadLedger.join, isTarget, cleared]
  recvResult := tracked.recvResult
  recvJoin impossible := by contradiction
  known thread created :=
    (tracked.known thread created).imp_left (List.mem_append_left _)
  stage := tracked.stage
  done := tracked.done

/-! ## The steps of the client -/

/-- The flag of the heartbeat thread has been cleared, and the join comes next. -/
theorem of_stopsHeartbeat
    (tracked : Tracked control ledger)
    (idle : control.socketUnit = .idle)
    (ordered : next.Ordered)
    (atJoin : next.socketUnit = .joiningHeartbeat)
    (sameStage : next.keepAlive = control.keepAlive)
    (sameStatus : next.nLinkStatus = control.nLinkStatus)
    (sameFlag : next.bRecvFlag = control.bRecvFlag) :
    Tracked next { ledger with heartbeatJoin := true } where
  ordered := ordered
  heartbeat thread isThread := by
    obtain ⟨created, joined⟩ := tracked.heartbeat thread isThread
    exact ⟨created, joined.trans
      (iff_of_false (fun both => both.1 idle) fun both => by simp at both)⟩
  heartbeatResult := tracked.heartbeatResult
  heartbeatJoin _ := atJoin
  receiver := by
    rw [sameFlag]
    exact tracked.receiver
  recvResult := tracked.recvResult
  recvJoin pending := by
    obtain ⟨cleared, place⟩ := tracked.recvJoin pending
    rw [sameFlag, sameStage]
    exact ⟨cleared, Or.inl (place.resolve_right (by simp [idle]))⟩
  known := tracked.known
  stage := by
    rw [sameStage, sameStatus, sameFlag]
    exact tracked.stage
  done stopped := by
    rw [atJoin] at stopped
    rcases stopped with impossible | impossible
    · contradiction
    · contradiction

/-- The flag of the receive thread has been cleared, and the join comes next. -/
theorem of_clears
    (tracked : Tracked control ledger)
    (flag : control.bRecvFlag = true)
    (ordered : next.Ordered)
    (sameIdle : next.socketUnit = .idle ↔ control.socketUnit = .idle)
    (sameJoin : ledger.heartbeatJoin = true → next.socketUnit = .joiningHeartbeat)
    (cleared : next.bRecvFlag = false)
    (place : next.keepAlive = .joining ∨
      next.keepAlive = .returned ∧ next.socketUnit = .joiningReceiver) :
    Tracked next { ledger with recvJoin := true } where
  ordered := ordered
  heartbeat thread isThread := by
    obtain ⟨created, joined⟩ := tracked.heartbeat thread isThread
    exact ⟨created, joined.trans (and_congr_left' (not_congr sameIdle.symm))⟩
  heartbeatResult := tracked.heartbeatResult
  heartbeatJoin := sameJoin
  receiver thread isThread := by
    obtain ⟨created, apart, joined⟩ := tracked.receiver thread isThread
    refine ⟨created, apart, joined.trans (iff_of_false ?_ fun both => by simp at both)⟩
    rw [flag]
    exact fun both => Bool.noConfusion both.1
  recvResult := tracked.recvResult
  recvJoin _ := ⟨cleared, place.imp_right And.right⟩
  known := tracked.known
  stage := by
    rcases place with joining | ⟨returned, -⟩
    · rw [joining, cleared]
      exact fun impossible => by contradiction
    · rw [returned]
      trivial
  done _ := Or.inl cleared

/-- A receive thread is created while there is none to be joined. -/
theorem of_createRecv
    (tracked : Tracked control ledger)
    (sound : ledger.Sound)
    (starting : control.keepAlive = .starting)
    (nRet : Int)
    (ordered : next.Ordered)
    (sameStage : next.socketUnit = control.socketUnit)
    (flag : next.bRecvFlag = true)
    (connected : next.nLinkStatus = .connect)
    (stage : next.keepAlive = .loop ∨ next.keepAlive = .greeting) :
    Tracked next (ledger.createRecv nRet) := by
  have fresh : some ledger.nThreads ∉ ledger.joins := fun joined => by
    obtain ⟨thread, created, isThread⟩ := sound.targets _ joined
    rw [Option.some.inj isThread] at created
    exact created.false
  have running : control.keepAlive ≠ .returned := by simp [starting]
  have notStopping : control.socketUnit ≠ .joiningReceiver := by
    intro stopping
    exact running (tracked.ordered.returned (by simp [stopping]) (by simp [stopping]))
  have noJoin := tracked.recvJoin_eq_false (by simp [starting]) notStopping
  have noneLeft : ∀ thread, ledger.tRecvThread = some thread →
      some thread ∈ ledger.joins := by
    intro thread isThread
    have idle : control.bRecvFlag = true → ledger.recvResult = none := by
      have atStage := tracked.stage
      rw [starting] at atStage
      exact atStage
    refine (tracked.receiver thread isThread).2.2.mpr ⟨?_, noJoin⟩
    cases isFlag : control.bRecvFlag with
    | false => rfl
    | true =>
        have created := tracked.recvResult.mpr (by simp [isThread])
        rw [idle isFlag] at created
        contradiction
  have more : ledger.nThreads ≤ (ledger.createRecv nRet).nThreads := by
    simp only [ThreadLedger.createRecv]
    split <;> omega
  constructor
  · exact ordered
  · intro thread isThread
    obtain ⟨created, joined⟩ := tracked.heartbeat thread isThread
    rw [sameStage]
    exact ⟨lt_of_lt_of_le created more, joined⟩
  · exact tracked.heartbeatResult
  · rw [sameStage]
    exact tracked.heartbeatJoin
  · intro thread isThread
    simp only [ThreadLedger.createRecv] at isThread ⊢
    split at isThread
    · rename_i success
      rw [← Option.some.inj isThread, if_pos success, flag]
      refine ⟨Nat.lt_succ_self _, fun isHeartbeat => ?_, iff_of_false fresh ?_⟩
      · exact (tracked.heartbeat _ isHeartbeat).1.false
      · simp
    · contradiction
  · simp only [ThreadLedger.createRecv]
    by_cases success : nRet = 0
    · simp [success]
    · simp [success]
  · intro pending
    exact absurd (noJoin.symm.trans pending) (by decide)
  · intro thread created
    simp only [ThreadLedger.createRecv] at created ⊢
    by_cases before : thread < ledger.nThreads
    · rcases tracked.known thread before with joined | isHeartbeat | isReceiver
      · exact Or.inl joined
      · exact Or.inr (Or.inl isHeartbeat)
      · exact Or.inl (noneLeft thread isReceiver)
    · split at created
      · rename_i success
        have isNew : ledger.nThreads = thread := by omega
        rw [if_pos success, isNew]
        exact Or.inr (Or.inr rfl)
      · exact absurd created before
  · have held : (ledger.createRecv nRet).recvResult ≠ none :=
      Option.some_ne_none nRet
    rcases stage with atLoop | greeting
    · rw [atLoop, connected]
      exact ⟨fun impossible => by contradiction, fun _ => ⟨flag, held⟩⟩
    · rw [greeting]
      exact ⟨flag, held⟩
  · intro stopped
    rw [sameStage] at stopped
    refine absurd (tracked.ordered.returned ?_ ?_) running
    · rcases stopped with atStage | atStage <;> simp [atStage]
    · rcases stopped with atStage | atStage <;> simp [atStage]

/-- What has not been joined stays known. -/
theorem tracked_note
    {label : LinkLabel}
    (tracked : Tracked control ledger)
    (sound : ledger.Sound)
    (free : ledger.Free control label)
    (stepped : ControlStep control label next) :
    Tracked next (ledger.note control label) := by
  have ordered := Control.ordered_step tracked.ordered stepped
  have atStage := tracked.stage
  cases stepped with
  | look => exact tracked
  | recv turn => exact tracked
  | wakes stage goesOn =>
      rw [stage] at atStage
      simpa [ThreadLedger.note, stage] using
        tracked.of_quiet ordered rfl rfl free atStage
  | returns stage stopped =>
      simpa [ThreadLedger.note, stage] using
        tracked.of_quiet ordered rfl rfl free trivial
  | noSocket nSocket stage disconnected refused =>
      rw [stage] at atStage
      exact tracked.of_quiet ordered rfl rfl free atStage
  | socket nSocket stage disconnected positive =>
      rw [stage] at atStage
      exact tracked.of_quiet ordered rfl rfl free (atStage.1 disconnected)
  | refused nRet stage =>
      rw [stage] at atStage
      have disconnected := tracked.ordered.disconnected (Or.inl stage)
      refine tracked.of_quiet ordered rfl rfl free
        ⟨fun _ => atStage, fun connected => ?_⟩
      rw [disconnected] at connected
      contradiction
  | connected nRet stage =>
      rw [stage] at atStage
      exact tracked.of_quiet ordered rfl rfl free atStage
  | created nRet stage =>
      refine tracked.of_createRecv sound stage nRet ordered rfl rfl
        (tracked.ordered.connected (Or.inl stage)) ?_
      dsimp only
      split
      · exact Or.inl rfl
      · exact Or.inr rfl
  | greets now nSent stage =>
      rw [stage] at atStage
      have connected := tracked.ordered.connected (Or.inr stage)
      refine tracked.of_quiet ordered rfl rfl free
        ⟨fun disconnected => ?_, fun _ => atStage⟩
      rw [connected] at disconnected
      contradiction
  | beats now nSent stage connected =>
      rw [stage] at atStage
      exact tracked.of_quiet ordered rfl rfl free atStage
  | timesOut now nSent stage connected =>
      rw [stage] at atStage
      exact tracked.of_quiet ordered rfl rfl free (atStage.2 connected)
  | drops stage =>
      rw [stage] at atStage
      simpa [ThreadLedger.note, stage] using
        tracked.of_clears atStage.1 ordered Iff.rfl tracked.heartbeatJoin rfl
          (Or.inl rfl)
  | joins stage =>
      rw [stage] at atStage
      have disconnected :=
        tracked.ordered.disconnected (Or.inr (Or.inr stage))
      have quiet := tracked.of_quiet ordered rfl rfl free
        ⟨fun _ => atStage, fun connected => by
          rw [disconnected] at connected
          contradiction⟩
      simpa [ThreadLedger.note, stage] using quiet
  | stopsHeartbeat stage flag =>
      simpa [ThreadLedger.note, stage, flag] using
        tracked.of_stopsHeartbeat stage ordered rfl rfl rfl rfl
  | noHeartbeat stage flag =>
      exact absurd ((tracked.ordered.flag stage).symm.trans flag) (by decide)
  | joinsHeartbeat stage returned =>
      simpa [ThreadLedger.note, stage] using
        tracked.of_socketUnit ordered ⟨by simp, by simp [stage]⟩ rfl rfl rfl free
          (by simp) (by simp)
  | stopsReceiver stage flag =>
      have returned := tracked.ordered.returned (by simp [stage]) (by simp [stage])
      have notPending : ledger.heartbeatJoin = true →
          SocketUnitStage.joiningReceiver = .joiningHeartbeat := fun pending =>
        absurd ((tracked.heartbeatJoin pending).symm.trans stage) (by decide)
      simpa [ThreadLedger.note, stage, flag] using
        tracked.of_clears flag ordered (by simp [stage]) notPending rfl
          (Or.inr ⟨returned, rfl⟩)
  | noReceiver stage flag =>
      simpa [ThreadLedger.note, stage, flag] using
        tracked.of_socketUnit ordered ⟨by simp, by simp [stage]⟩ rfl rfl rfl free
          (fun _ => Or.inl flag) (by simp)
  | joinsReceiver stage =>
      simpa [ThreadLedger.note, stage] using
        tracked.of_socketUnit ordered ⟨by simp, by simp [stage]⟩ rfl rfl rfl free
          (fun _ => tracked.done (Or.inl stage)) (by simp)

end Tracked

/-! ## Whole lives -/

namespace ClientThreads

/-- A client without threads. -/
theorem tracked_noThread
    {control : Control}
    {ledger : ThreadLedger}
    (returned : control.keepAlive = .returned)
    (flag : control.bHeartbeatFlag = true)
    (noThread : ledger.nThreads = 0)
    (members : ledger.tHeartbeatThread = none ∧ ledger.tRecvThread = none)
    (results : ledger.heartbeatResult ≠ some 0 ∧ ledger.recvResult ≠ some 0)
    (noJoins : ledger.heartbeatJoin = false ∧ ledger.recvJoin = false) :
    Tracked control ledger where
  ordered := ⟨fun _ => flag, fun _ _ => returned, by simp [returned],
    by simp [returned]⟩
  heartbeat thread isThread := by
    rw [members.1] at isThread
    contradiction
  heartbeatResult := by simp [members.1, results.1]
  heartbeatJoin pending := by
    rw [noJoins.1] at pending
    contradiction
  receiver thread isThread := by
    rw [members.2] at isThread
    contradiction
  recvResult := by simp [members.2, results.2]
  recvJoin pending := by
    rw [noJoins.2] at pending
    contradiction
  known thread created := by
    rw [noThread] at created
    exact absurd created (Nat.not_lt_zero thread)
  stage := by
    rw [returned]
    trivial
  done _ := Or.inr noThread

/-- A client whose heartbeat thread has been created. -/
theorem tracked_heartbeat (nSocket : Int) :
    Tracked { Control.idle nSocket with keepAlive := .loop }
      (ThreadLedger.initial.createHeartbeat 0) where
  ordered := ⟨fun _ => rfl, fun notIdle => absurd rfl notIdle, by simp, by simp⟩
  heartbeat thread isThread := by
    rw [← Option.some.inj isThread]
    exact ⟨Nat.zero_lt_one, by simp [ThreadLedger.createHeartbeat,
      ThreadLedger.initial, Control.idle]⟩
  heartbeatResult := iff_of_true rfl rfl
  heartbeatJoin impossible := by contradiction
  receiver _ impossible := by contradiction
  recvResult := by simp [ThreadLedger.createHeartbeat, ThreadLedger.initial]
  recvJoin impossible := by contradiction
  known thread created := by
    rw [Nat.lt_one_iff.mp created]
    exact Or.inr (Or.inl rfl)
  stage := ⟨fun _ _ => rfl, fun impossible => by contradiction⟩
  done stopped := by
    rcases stopped with impossible | impossible <;> contradiction

/-- A client that has connected and created its receive thread. -/
theorem tracked_connection (nSocket : Int) :
    Tracked { Control.idle nSocket with nLinkStatus := .connect }
      (ThreadLedger.initial.createRecv 0) where
  ordered := ⟨fun _ => rfl, fun _ _ => rfl, by simp [Control.idle],
    by simp [Control.idle]⟩
  heartbeat _ impossible := by contradiction
  heartbeatResult := by simp [ThreadLedger.createRecv, ThreadLedger.initial]
  heartbeatJoin impossible := by contradiction
  receiver thread isThread := by
    rw [← Option.some.inj isThread]
    exact ⟨Nat.zero_lt_one, by decide, by simp [ThreadLedger.createRecv,
      ThreadLedger.initial, Control.idle]⟩
  recvResult := iff_of_true rfl rfl
  recvJoin impossible := by contradiction
  known thread created := by
    rw [Nat.lt_one_iff.mp created]
    exact Or.inr (Or.inr rfl)
  stage := trivial
  done stopped := by
    rcases stopped with impossible | impossible <;> contradiction

/-- `TransPortEngine_CreateClient` starts what it has created. -/
theorem tracked_start
    (platform : Platform)
    (garbage : ClientGarbage)
    (arguments : ClientArguments)
    (results : SocketInitResults) :
    Tracked (start platform garbage arguments results).link.control
      (start platform garbage arguments results).ledger := by
  have notCreated : (none : Option Int) ≠ some 0 := by decide
  unfold start ThreadLedger.socketInit
  generalize platform.results results = results
  cases receives : arguments.hasTransPortEngineRecv with
  | false =>
      rw [Link.control_createClient_noReceiver receives]
      exact tracked_noThread rfl rfl rfl ⟨rfl, rfl⟩ ⟨notCreated, notCreated⟩ ⟨rfl, rfl⟩
  | true =>
      cases heartbeats : arguments.bIsHaveHB with
      | true =>
          rw [Link.control_createClient_heartbeat receives heartbeats]
          simp only [if_true]
          by_cases created : results.createHeartbeatThread = 0
          · simp only [created, lt_irrefl, if_false, if_true]
            exact tracked_heartbeat garbage.nSocket
          · have result : some results.createHeartbeatThread ≠ some 0 := by
              simpa using created
            simp only [created, if_false]
            split
            · exact tracked_noThread rfl rfl (if_neg created)
                ⟨if_neg created, rfl⟩ ⟨result, notCreated⟩ ⟨rfl, rfl⟩
            · exact tracked_noThread rfl rfl (if_neg created)
                ⟨if_neg created, rfl⟩ ⟨result, notCreated⟩ ⟨rfl, rfl⟩
      | false =>
          rw [Link.control_createClient_connection receives heartbeats]
          simp only [if_true, Bool.false_eq_true, if_false]
          by_cases opened : results.nSocket ≤ 0
          · simp only [opened, if_true, true_or]
            exact tracked_noThread rfl rfl rfl ⟨rfl, rfl⟩ ⟨notCreated, notCreated⟩ ⟨rfl, rfl⟩
          · by_cases accepted : results.connect = 0
            · simp only [opened, accepted, ne_eq, not_true_eq_false, if_false,
                or_self]
              by_cases created : results.createRecvThread = 0
              · simp only [created, lt_irrefl, if_false]
                exact tracked_connection results.nSocket
              · have result : some results.createRecvThread ≠ some 0 := by
                  simpa using created
                split
                · exact tracked_noThread rfl rfl (if_neg created)
                    ⟨rfl, if_neg created⟩ ⟨notCreated, result⟩ ⟨rfl, rfl⟩
                · exact tracked_noThread rfl rfl (if_neg created)
                    ⟨rfl, if_neg created⟩ ⟨notCreated, result⟩ ⟨rfl, rfl⟩
            · simp only [opened, accepted, ne_eq, not_false_eq_true, if_true,
                if_false, or_true]
              exact tracked_noThread rfl rfl rfl ⟨rfl, rfl⟩
                ⟨notCreated, notCreated⟩ ⟨rfl, rfl⟩

theorem sound_start
    (platform : Platform)
    (garbage : ClientGarbage)
    (arguments : ClientArguments)
    (results : SocketInitResults) :
    (start platform garbage arguments results).ledger.Sound := by
  have noJoins : (start platform garbage arguments results).ledger.joins = [] := by
    simp only [start, ThreadLedger.socketInit]
    split
    · split
      · rfl
      · split <;> rfl
    · rfl
  constructor
  · rw [noJoins]
    exact fun _ impossible => absurd impossible List.not_mem_nil
  · rw [noJoins]
    exact List.nodup_nil

/-- The joins of a client that is where it should be are sound exactly when each
meets the condition, and what has not been joined stays known. -/
theorem sound_step_iff
    {platform : Platform}
    {threads next : ClientThreads}
    {label : ThreadLabel}
    (tracked : Tracked threads.link.control threads.ledger)
    (sound : threads.ledger.Sound)
    (stepped : threads.step platform label = some next) :
    (next.ledger.Sound ↔ threads.JoinsCreated platform label) ∧
      (next.ledger.Sound → Tracked next.link.control next.ledger) := by
  cases label with
  | thread label =>
      rw [step] at stepped
      split at stepped
      · rename_i free
        obtain ⟨link, linkStepped, rfl⟩ := Option.map_eq_some_iff.mp stepped
        have noted := sound.note threads.link.control (platform.label label)
        exact ⟨iff_of_true noted trivial, fun _ =>
          tracked.tracked_note sound free (Link.controlStep_linkStep linkStepped)⟩
      · contradiction
  | joinHeartbeat =>
      rw [step] at stepped
      split at stepped
      · rename_i pending
        obtain rfl := Option.some.inj stepped
        have created := tracked.sound_joinHeartbeat sound pending
          (threads.heartbeatDenotes platform)
        refine ⟨created.trans (and_congr_right' ?_), fun soundNext => ?_⟩
        · cases platform with
          | linux => simp [heartbeatDenotes]
          | windows => simp [heartbeatDenotes]
        · have denotes := (created.mp soundNext).2
          dsimp only
          rw [denotes]
          exact tracked.of_joinHeartbeat pending
      · contradiction
  | joinRecv =>
      rw [step] at stepped
      split at stepped
      · rename_i pending
        obtain rfl := Option.some.inj stepped
        have created := tracked.sound_joinRecv sound pending
          (threads.recvDenotes platform)
        refine ⟨created.trans (and_congr_right' ?_), fun soundNext => ?_⟩
        · cases platform with
          | linux => simp [recvDenotes]
          | windows => simp [recvDenotes]
        · have denotes := (created.mp soundNext).2
          dsimp only
          rw [denotes]
          exact tracked.of_joinRecv pending
      · contradiction

/-- Every join of a client is one of a thread it has created and not yet joined,
and none is left in the end, exactly when each join follows a creation for its member
that has succeeded, and on Windows comes before the end of the thread. -/
theorem disciplined_iff
    (platform : Platform)
    (garbage : ClientGarbage)
    (arguments : ClientArguments)
    (results : SocketInitResults)
    (labels : List ThreadLabel) :
    Throughout (step platform) (Leads (step platform) Disciplined)
        (start platform garbage arguments results) labels ↔
      Throughout (step platform) (Meets (step platform) (JoinsCreated platform))
        (start platform garbage arguments results) labels := by
  apply leads_throughout_iff
  · intro threads label next tracked disciplined stepped
    obtain ⟨soundIff, kept⟩ := sound_step_iff tracked disciplined.sound stepped
    exact ⟨fun next => soundIff.mp next.sound, fun created =>
      ⟨soundIff.mpr created, (kept (soundIff.mpr created)).all_joined⟩⟩
  · intro threads label next tracked disciplined stepped disciplinedNext
    exact (sound_step_iff tracked disciplined.sound stepped).2 disciplinedNext.sound
  · exact tracked_start platform garbage arguments results
  · exact ⟨sound_start platform garbage arguments results,
      (tracked_start platform garbage arguments results).all_joined⟩

/-- Without heartbeats there is no heartbeat thread, and it is joined all the
same. -/
theorem not_disciplined_withoutHeartbeats :
    ¬∀ (platform : Platform) (garbage : ClientGarbage) (arguments : ClientArguments)
        (results : SocketInitResults) (labels : List ThreadLabel),
      Throughout (step platform) (Leads (step platform) Disciplined)
        (start platform garbage arguments results) labels := by
  intro always
  have throughout := always .linux ⟨0, 0, 0⟩ ⟨true, true, false, 5⟩ ⟨0, 7, 0, 0⟩
    [.thread .socketUnit, .joinHeartbeat]
  have joined := (throughout.2 _ rfl).1 _ rfl
  obtain ⟨thread, -, isThread⟩ := joined.sound.targets none List.mem_cons_self
  contradiction

end ClientThreads

end TransPortEngine
