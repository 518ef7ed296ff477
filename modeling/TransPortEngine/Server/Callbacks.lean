import TransPortEngine.Server.Lifetime

/-!
# Locks around callbacks

The functions of a session take its locks in scopes that end before they call
the application. A thread that calls them holds what it held before, and that is
nothing except inside a sweep: the heartbeat detection and `TcpSessionMgr_Fini`
finalise sessions under the lock of the session manager.
-/

namespace TransPortEngine

open MachineInt Transition

/-- A call of `OnTransPortEngineRecv` or `OnTransPortEngineNotify`. -/
def EngineEvent.isCallback : EngineEvent → Bool
  | .onTransPortEngineRecv _ _ | .onTransPortEngineNotify _ _ => true
  | _ => false

/-! ## Lists of events -/

/-- The locks a thread holds after an event of a call. -/
def lockEffect
    (session : SessionId)
    (held : List Lock) : EngineEvent → List Lock
  | .lock critSec => critSec.lock session :: held
  | .unlock critSec => held.erase (critSec.lock session)
  | _ => held

/-- Events that lead from the locks held back to those of the caller, with no
callback in between while a lock is held. -/
def Guarded (base : List Lock) (session : SessionId) :
    List Lock → List EngineEvent → Prop
  | held, [] => held = base
  | held, event :: events =>
      (event.isCallback = true → held = []) ∧
        Guarded base session (lockEffect session held event) events

/-- An event that is no callback and has nothing to do with locks. -/
def EngineEvent.Bare : EngineEvent → Prop
  | .lock _ | .unlock _ => False
  | .onTransPortEngineRecv _ _ | .onTransPortEngineNotify _ _ => False
  | _ => True

section Guarded

variable {base held : List Lock} {session : SessionId}

theorem Guarded.append
    {first second : List EngineEvent}
    (before : Guarded base session held first)
    (after : Guarded base session base second) :
    Guarded base session held (first ++ second) := by
  induction first generalizing held with
  | nil =>
      rw [show held = base from before]
      exact after
  | cons event events inductionHypothesis =>
      exact ⟨before.1, inductionHypothesis before.2⟩

/-- Bare events before others. -/
theorem Guarded.bare_append
    {first second : List EngineEvent}
    (bare : ∀ event ∈ first, event.Bare)
    (after : Guarded base session held second) :
    Guarded base session held (first ++ second) := by
  induction first with
  | nil => exact after
  | cons event events inductionHypothesis =>
      have rest := inductionHypothesis fun other member =>
        bare other (List.mem_cons_of_mem event member)
      have isBare := bare event List.mem_cons_self
      cases event with
      | lock | unlock => contradiction
      | onTransPortEngineRecv | onTransPortEngineNotify => contradiction
      | _ => exact ⟨fun impossible => by contradiction, rest⟩

theorem guarded_of_bare
    {events : List EngineEvent}
    (bare : ∀ event ∈ events, event.Bare) :
    Guarded base session base events := by
  have nothing : Guarded base session base [] := rfl
  rw [← List.append_nil events]
  exact nothing.bare_append bare

/-- A scope that holds a lock, with bare events inside. -/
theorem guarded_scope
    (critSec : CritSec)
    {events : List EngineEvent}
    (bare : ∀ event ∈ events, event.Bare) :
    Guarded base session base
      ([.lock critSec] ++ events ++ [.unlock critSec]) := by
  have released : Guarded base session (critSec.lock session :: base)
      [.unlock critSec] :=
    ⟨fun impossible => by contradiction, List.erase_cons_head _ _⟩
  have inside := released.bare_append bare
  rw [List.append_assoc]
  exact ⟨fun impossible => by contradiction, inside⟩

/-- A callback of a thread without locks. -/
theorem guarded_callback
    {event : EngineEvent}
    (isCallback : event.isCallback = true) :
    Guarded [] session [] [event] := by
  cases event with
  | onTransPortEngineRecv | onTransPortEngineNotify => exact ⟨fun _ => rfl, rfl⟩
  | _ => contradiction

end Guarded

/-! ## The functions of a session -/

section Functions

variable {base : List Lock} {session : SessionId}

theorem bare_nil (event : EngineEvent) (member : event ∈ []) : event.Bare := by
  contradiction

theorem bare_copies
    (capacity : Nat)
    (recvBufs : List BufInfo)
    (nTotalLen : Int) :
    ∀ event ∈ getRecvCacheBufCopies capacity nTotalLen recvBufs,
      event.Bare :=
  forall_getRecvCacheBufCopies (fun _ _ _ => trivial) _ _ _

theorem bare_writes
    (nSocket : Int)
    (szData : List UInt8)
    (nWriteLen : Nat)
    (results : List WriteResult) :
    ∀ event ∈ ioSendWrites nSocket szData nWriteLen results, event.Bare :=
  forall_ioSendWrites (fun _ => trivial) _ _ _

theorem guarded_recvBufLocked
    {events : List EngineEvent}
    (bare : ∀ event ∈ events, event.Bare) :
    Guarded base session base (recvBufLocked events) :=
  guarded_scope .recvBufLock bare

theorem guarded_assembleCopies
    (capacity : Nat)
    (recvBufs : List BufInfo)
    (szRecvBuf : List UInt8) :
    Guarded base session base
      (assembleCopies capacity recvBufs szRecvBuf) := by
  apply (guarded_recvBufLocked (bare_copies capacity recvBufs 0)).append
  exact guarded_of_bare fun event member => by
    rw [List.mem_singleton.mp member]
    trivial

namespace TcpSession

variable (object : TcpSession)

theorem guarded_closeSocket :
    Guarded base session base object.closeSocket := by
  unfold closeSocket
  split
  · rfl
  · exact ⟨fun impossible => by contradiction, rfl⟩

theorem guarded_notify (nMsgType : MsgType) :
    Guarded [] session [] (object.notify nMsgType) := by
  unfold notify
  split
  · exact guarded_callback rfl
  · rfl

theorem guarded_init (arguments : SessionArguments) :
    Guarded [] session [] (object.init arguments).2.1 := by
  unfold init
  split
  · rfl
  · exact guarded_notify _ _

/-- `TcpSession_Fini` calls the application first. -/
theorem guarded_fini
    (quiet : object.hasTransPortEngineRecv = true → base = []) :
    Guarded base session base object.fini.2.1 := by
  have notified : Guarded base session base (object.notify .disconnect) := by
    by_cases silent : object.hasTransPortEngineRecv = true
    · rw [quiet silent]
      exact object.guarded_notify _
    · simp only [notify, silent]
      rfl
  exact (notified.append object.guarded_closeSocket).append
    (guarded_scope .recvBufLock bare_nil)

theorem guarded_delete :
    Guarded base session base object.delete.2 := by
  apply object.guarded_closeSocket.append
  apply (guarded_scope .recvBufLock bare_nil).append
  exact ⟨fun impossible => by contradiction, rfl⟩

/-- An `epoll_ctl`. -/
theorem guarded_epollCtl
    (op : EpollOp)
    (nSocket : Int)
    (event : EpollEvent)
    (done : Bool) :
    Guarded base session base [.epollCtl op nSocket event done] :=
  ⟨fun impossible => by contradiction, rfl⟩

theorem guarded_ioSendRest
    (szData : List UInt8)
    (nWriteLen : Nat)
    (epollCtl : Bool) :
    Guarded base session base
      (object.ioSendRest szData nWriteLen epollCtl).2.1 := by
  unfold ioSendRest
  split
  · refine guarded_scope .sendBufLock fun event member => ?_
    rw [List.mem_singleton.mp member]
    trivial
  · rfl

theorem guarded_ioSend
    (szData : Option (List UInt8))
    (nDataLen : Int)
    (outcomes : SendOutcomes) :
    Guarded base session base (object.ioSend szData nDataLen outcomes).events := by
  cases szData with
  | none => rfl
  | some szData =>
      simp only [ioSend]
      split
      · rfl
      · have writes := @bare_writes object.nSocket
          (szData.take nDataLen.toNat) 0 outcomes.writes
        split
        · exact guarded_of_bare writes
        · exact guarded_of_bare writes
        · exact (object.guarded_ioSendRest _ _ _).bare_append writes

theorem guarded_ioSendQueued (result : WriteResult) (epollCtl : Bool) :
    Guarded base session base (object.ioSendQueued result epollCtl).2.1 := by
  have taken := @guarded_scope base session .sendBufLock [] bare_nil
  have wrote : ∀ bytes, Guarded base session base
      ([.lock .sendBufLock, .unlock .sendBufLock] ++
        [.write object.nSocket bytes]) := fun bytes =>
    taken.append ⟨fun impossible => by contradiction, rfl⟩
  have sends := object.events_ioSendQueued result epollCtl
  generalize (object.ioSendQueued result epollCtl).2.1 = events at sends ⊢
  cases sends with
  | nothing => exact taken
  | writes bytes => exact wrote bytes
  | registers bytes => exact (wrote bytes).append (guarded_epollCtl _ _ _ _)

theorem guarded_ioRecvBody (szRecvBuf : List UInt8) (now : Int) :
    Guarded [] session [] (object.ioRecvBody szRecvBuf now).events := by
  have lens := @guarded_recvBufLocked [] session [] bare_nil
  have body : Guarded [] session [] (object.bodyEvents
      (object.toSessionCore.bodyBuf szRecvBuf)) := by
    unfold bodyEvents
    split
    · exact ⟨fun impossible => by contradiction, rfl⟩
    · split
      · exact guarded_callback rfl
      · rfl
  unfold ioRecvBody
  dsimp only
  split
  · exact (lens.append (guarded_assembleCopies _ _ _)).append body
  · split
    · exact (lens.append lens).append lens
    · exact (lens.append lens).append lens

theorem guarded_ioRecvHead
    (szRecvBuf : List UInt8)
    (now : Int)
    (echo : EchoOutcomes) :
    Guarded [] session [] (object.ioRecvHead szRecvBuf now echo).events := by
  have lens := @guarded_recvBufLocked [] session [] bare_nil
  have answer : ∀ (other : TcpSession) (headMsg : List UInt8),
      Guarded [] session [] (other.headEvents headMsg echo) := by
    intro other headMsg
    unfold headEvents
    split
    · refine Guarded.append ?_ (other.guarded_ioSend _ _ _)
      split
      · rfl
      · exact ⟨fun impossible => by contradiction, rfl⟩
    · rfl
  unfold ioRecvHead
  dsimp only
  split
  · exact lens
  · split
    · exact (lens.append lens).append lens
    · exact (((lens.append lens).append lens).append
        (guarded_assembleCopies _ _ _)).append (answer _ _)

theorem guarded_ioRecvPass (turn : RecvTurn) :
    Guarded [] session [] (object.ioRecvPass turn).events := by
  refine ⟨fun impossible => by contradiction, ?_⟩
  change Guarded [] session [] _
  cases turn.read with
  | closed | interrupted | failed => rfl
  | again => exact guarded_epollCtl _ _ _ _
  | data chunk =>
      dsimp only
      unfold ioRecvData
      split
      · split
        · exact object.guarded_ioRecvBody _ _
        · exact object.guarded_ioRecvHead _ _ _
      · unfold ioRecvRaw
        dsimp only
        split
        · exact guarded_callback rfl
        · rfl

end TcpSession

end Functions

/-! ## The locks of a thread -/

/-- The locks a thread owns. -/
def Shared.locksOf (shared : Shared) (thread : Thread) : List Lock :=
  (shared.locks.filter fun entry => entry.2 = thread).map Prod.fst

/-- The locks a thread holds around its calls: a sweep holds that of the session
manager. -/
def Local.base (own : Local) : List Lock :=
  if own.sweep.isSome then [mgrLock] else []

/-- A thread holds its locks as the rest of its call needs them. Inside a sweep
sessions are only finalised and deleted. -/
structure LocksOk (own : Local) (held : List Lock) : Prop where
  idle : own.call = none → held = own.base
  call : ∀ call, own.call = some call →
    Guarded own.base call.session held call.events
  sweep : ∀ call, own.call = some call → own.sweep.isSome = true →
    ∃ calls, call.stage = .teardown calls

namespace Shared

variable {shared next : Shared} {thread : Thread}

theorem locksOf_acquire (lock : Lock) :
    ({ shared with locks := (lock, thread) :: shared.locks } :
        Shared).locksOf thread = lock :: shared.locksOf thread := by
  simp [locksOf]

theorem locksOf_acquire_ne
    (lock : Lock)
    {other : Thread}
    (different : other ≠ thread) :
    ({ shared with locks := (lock, thread) :: shared.locks } :
        Shared).locksOf other = shared.locksOf other := by
  simp [locksOf, Ne.symm different]

theorem locksOf_release (lock : Lock) :
    ({ shared with locks := shared.locks.erase (lock, thread) } :
        Shared).locksOf thread = (shared.locksOf thread).erase lock := by
  simp only [locksOf]
  induction shared.locks with
  | nil => rfl
  | cons entry locks inductionHypothesis =>
      obtain ⟨other, owner⟩ := entry
      by_cases same : (other, owner) = (lock, thread)
      · obtain ⟨rfl, rfl⟩ := Prod.mk.inj same
        simp
      · rw [List.erase_cons_tail (by simpa using same)]
        by_cases owns : owner = thread
        · have different : other ≠ lock := fun isLock =>
            same (Prod.ext isLock owns)
          simp [owns, inductionHypothesis, different]
        · simp [owns, inductionHypothesis]

theorem locksOf_release_ne
    (lock : Lock)
    {other : Thread}
    (different : other ≠ thread) :
    ({ shared with locks := shared.locks.erase (lock, thread) } :
        Shared).locksOf other = shared.locksOf other := by
  simp only [locksOf]
  induction shared.locks with
  | nil => rfl
  | cons entry locks inductionHypothesis =>
      by_cases same : entry = (lock, thread)
      · subst same
        simp [Ne.symm different]
      · rw [List.erase_cons_tail (by simpa using same)]
        by_cases owns : entry.2 = other
        · simp [owns, inductionHypothesis]
        · simp [owns, inductionHypothesis]

/-- Doing the next thing of a call changes the locks of the thread by the
event, and no others. -/
theorem locksOf_perform
    {session : SessionId}
    {modle : Nat}
    {event : EngineEvent}
    (performed : shared.perform thread session modle event = some next) :
    next.locksOf thread = lockEffect session (shared.locksOf thread) event ∧
      ∀ other, other ≠ thread → next.locksOf other = shared.locksOf other := by
  cases event with
  | lock critSec =>
      simp only [perform] at performed
      split at performed
      · rw [← Option.some.inj performed]
        exact ⟨locksOf_acquire _, fun _ different =>
          locksOf_acquire_ne _ different⟩
      · contradiction
  | unlock critSec =>
      rw [← Option.some.inj performed]
      exact ⟨locksOf_release _, fun _ different =>
        locksOf_release_ne _ different⟩
  | _ =>
      simp only [perform] at performed
      split at performed
      · rw [← Option.some.inj performed]
        exact ⟨rfl, fun _ _ => rfl⟩
      · contradiction

end Shared

section Steps

variable {shared : Shared} {thread : Thread} {own : Local} {held : List Lock}

/-- Between the events of a call the locks are those around it. -/
theorem LocksOk.held_eq
    (ok : LocksOk own held)
    {call : Call}
    (inCall : own.call = some call)
    (quiet : call.events = []) :
    held = own.base := by
  have guarded := ok.call call inCall
  rw [quiet] at guarded
  exact guarded

/-- The thread has something new to do, or continues. -/
theorem locksOk_call
    (around : held = own.base)
    {own' : Local}
    {call : Call}
    (inCall : own'.call = some call)
    (sweep : own'.sweep.isSome = own.sweep.isSome)
    (guarded : Guarded own.base call.session own.base call.events)
    (stage : own.sweep.isSome = true → ∃ calls, call.stage = .teardown calls) :
    LocksOk own' held := by
  have base : own'.base = own.base := by rw [Local.base, sweep, Local.base]
  refine ⟨fun none => ?_, fun other isCall => ?_, fun other isCall isSweep => ?_⟩
  · rw [none] at inCall
    contradiction
  · obtain rfl := Option.some.inj (inCall.symm.trans isCall)
    rw [base, around]
    exact guarded
  · obtain rfl := Option.some.inj (inCall.symm.trans isCall)
    exact stage (sweep ▸ isSweep)

/-- Outside a sweep the thread goes on with a call of any kind. -/
theorem locksOk_events
    (around : held = own.base)
    (noSweep : own.sweep.isSome = true → False)
    {call : Call}
    {events : List EngineEvent}
    {stage : Stage}
    (guarded : Guarded own.base call.session own.base events) :
    LocksOk { own with
      call := some { call with events := events, stage := stage } } held :=
  locksOk_call around rfl rfl guarded fun isSweep => (noSweep isSweep).elim

/-- The thread has no call any more. -/
theorem locksOk_idle
    (around : held = own.base)
    {own' : Local}
    (idle : own'.call = none)
    (sweep : own'.sweep.isSome = own.sweep.isSome) :
    LocksOk own' held := by
  have base : own'.base = own.base := by rw [Local.base, sweep, Local.base]
  refine ⟨fun _ => around.trans base.symm, fun _ isCall => ?_,
    fun _ isCall => ?_⟩
  · rw [idle] at isCall
    contradiction
  · rw [idle] at isCall
    contradiction

theorem locksOk_dropFailed
    (around : held = own.base)
    {modle : Nat}
    {session : SessionId}
    {nSock : Int}
    {after : Shared × Local}
    (advanced : dropFailed shared own modle session nSock = some after) :
    after.1.locks = shared.locks ∧ LocksOk after.2 held := by
  obtain ⟨-, bFlag, calls, rfl⟩ := dropFailed_eq_some advanced
  refine ⟨rfl, ?_⟩
  cases calls with
  | none => exact locksOk_idle around rfl rfl
  | some calls => exact locksOk_call around rfl rfl rfl fun _ => ⟨_, rfl⟩

/-- The next call to get rid of a session. Inside a sweep `TcpSession_Fini` must
have no application to call. -/
theorem locksOk_nextTeardown
    (around : held = own.base)
    {call : Call}
    (quiet : call.events = [])
    {done : Bool}
    {first : Teardown}
    {calls : List Teardown}
    (silent : own.sweep.isSome = true → first = .fini →
      (shared.state.memory call.session).hasTransPortEngineRecv = false)
    {after : Shared × Local}
    (advanced : nextTeardown shared thread own call done calls first =
      some after) :
    after.1.locks = shared.locks ∧ LocksOk after.2 held := by
  cases first with
  | delSession nSocket =>
      obtain ⟨-, rfl⟩ := nextTeardown_delSession advanced
      refine ⟨rfl, locksOk_call around rfl rfl ?_ fun _ => ⟨_, rfl⟩⟩
      rw [quiet]
      rfl
  | delEvent =>
      rw [← Option.some.inj advanced]
      exact ⟨rfl, locksOk_call around rfl rfl
        (TcpSession.guarded_epollCtl _ _ _ _) fun _ => ⟨_, rfl⟩⟩
  | fini =>
      rw [← Option.some.inj advanced]
      refine ⟨rfl, locksOk_call around rfl rfl ?_ fun _ => ⟨_, rfl⟩⟩
      refine TcpSession.guarded_fini _ fun hasRecv => ?_
      unfold Local.base
      split
      · rename_i sweeps
        exact absurd ((silent sweeps rfl).symm.trans hasRecv) (by decide)
      · rfl
  | delete =>
      rw [← Option.some.inj advanced]
      exact ⟨rfl, locksOk_call around rfl rfl (TcpSession.guarded_delete _)
        fun _ => ⟨_, rfl⟩⟩

/-- A thread goes on behind a call that has returned. -/
theorem locksOk_afterCall
    (ok : LocksOk own held)
    {call : Call}
    (inCall : own.call = some call)
    (quiet : call.events = [])
    {done : Bool}
    (silent : own.sweep.isSome = true → ∀ calls,
      call.stage = .teardown (.fini :: calls) →
        (shared.state.memory call.session).hasTransPortEngineRecv = false)
    {after : Shared × Local}
    (advanced : afterCall shared thread own call done = some after) :
    after.1.locks = shared.locks ∧ LocksOk after.2 held := by
  have around := ok.held_eq inCall quiet
  have sweep := ok.sweep call inCall
  have goesOn : ∀ stage, (own.sweep.isSome = true →
      ∃ calls, stage = Stage.teardown calls) →
        LocksOk { own with call := some { call with stage := stage } } held := by
    intro stage isTeardown
    refine locksOk_call around rfl rfl ?_ isTeardown
    dsimp only
    rw [quiet]
    rfl
  have outside : ∀ {stage}, call.stage = stage →
      (∀ calls, stage ≠ .teardown calls) → own.sweep.isSome = true → False := by
    intro stage isStage other isSweep
    obtain ⟨calls, same⟩ := sweep isSweep
    exact other calls (isStage.symm.trans same)
  cases afterCall_cases advanced with
  | giveUp => exact ⟨rfl, goesOn _ fun _ => ⟨_, rfl⟩⟩
  | addSession stage =>
      have noSweep := outside stage fun calls => Stage.noConfusion
      exact ⟨rfl, goesOn _ fun isSweep => (noSweep isSweep).elim⟩
  | addEvent stage | postRecv stage =>
      have noSweep := outside stage fun calls => Stage.noConfusion
      exact ⟨rfl, locksOk_call around rfl rfl
        (TcpSession.guarded_epollCtl _ _ _ _)
        fun isSweep => (noSweep isSweep).elim⟩
  | receive stage =>
      have noSweep := outside stage fun calls => Stage.noConfusion
      exact ⟨rfl, goesOn _ fun isSweep => (noSweep isSweep).elim⟩
  | drop _ _ dropped => exact locksOk_dropFailed around dropped
  | @teardown first calls _ stage advanced =>
      refine locksOk_nextTeardown around quiet (fun isSweep isFini => ?_)
        advanced
      exact silent isSweep calls (isFini ▸ stage)
  | returned => exact ⟨rfl, locksOk_idle around rfl rfl⟩

/-- Outside a sweep a thread holds nothing around its calls. -/
theorem base_of_noSweep (noSweep : own.sweep.isSome = true → False) :
    own.base = [] := by
  unfold Local.base
  split
  · rename_i isSweep
    exact (noSweep isSweep).elim
  · rfl

/-- A step that takes and releases no lock. -/
theorem locksOk_of_locks
    {next : Shared}
    (kept : next.locks = shared.locks ∧ LocksOk own (shared.locksOf thread)) :
    LocksOk own (next.locksOf thread) ∧
      ∀ other, other ≠ thread →
        next.locksOf other = shared.locksOf other := by
  have locksOf : ∀ other, next.locksOf other = shared.locksOf other := by
    intro other
    rw [Shared.locksOf, kept.1, Shared.locksOf]
  exact ⟨(locksOf thread).symm ▸ kept.2, fun other _ => locksOf other⟩

/-- A step of a thread in the middle of a call. -/
theorem locksOk_callStep
    (ok : LocksOk own (shared.locksOf thread))
    {call : Call}
    (inCall : own.call = some call)
    {input : Input}
    (silent : own.sweep.isSome = true → call.events = [] → ∀ calls,
      call.stage = .teardown (.fini :: calls) →
        (shared.state.memory call.session).hasTransPortEngineRecv = false)
    {after : Shared × Local}
    (advanced : callStep shared thread own call input = some after) :
    LocksOk after.2 (after.1.locksOf thread) ∧
      ∀ other, other ≠ thread →
        after.1.locksOf other = shared.locksOf other := by
  have sweep := ok.sweep call inCall
  have outside : ∀ {stage}, call.stage = stage →
      (∀ calls, stage ≠ .teardown calls) → own.sweep.isSome = true → False := by
    intro stage isStage other isSweep
    obtain ⟨calls, same⟩ := sweep isSweep
    exact other calls (isStage.symm.trans same)
  cases callStep_cases advanced with
  | perform first performed =>
      obtain ⟨locks, others⟩ := Shared.locksOf_perform performed
      have guarded := ok.call call inCall
      rw [first] at guarded
      refine ⟨⟨fun impossible => by contradiction, ?_, ?_⟩, others⟩
      · intro other isCall
        obtain rfl := Option.some.inj isCall
        rw [locks]
        exact guarded.2
      · intro other isCall isSweep
        obtain rfl := Option.some.inj isCall
        exact sweep isSweep
  | goOn quiet advanced =>
      obtain ⟨locks, ok'⟩ := locksOk_afterCall ok inCall quiet
        (fun isSweep => silent isSweep quiet) advanced
      exact locksOk_of_locks ⟨locks, ok'⟩
  | receive quiet stage =>
      have noSweep := outside stage fun calls => Stage.noConfusion
      have around := ok.held_eq inCall quiet
      refine locksOk_of_locks ⟨rfl, locksOk_events around noSweep ?_⟩
      rw [base_of_noSweep noSweep]
      exact TcpSession.guarded_ioRecvPass _ _
  | send quiet stage _ isSent =>
      have noSweep := outside stage fun calls => Stage.noConfusion
      have around := ok.held_eq inCall quiet
      refine locksOk_of_locks ⟨rfl, locksOk_events around noSweep ?_⟩
      rw [isSent]
      exact TcpSession.guarded_ioSend _ _ _ _

/-- The accept thread gets a connection. -/
theorem locksOk_acceptConnection
    (around : held = own.base)
    (noSweep : own.sweep.isSome = true → False)
    (acceptSession : AcceptSession)
    (nAcceptSock : Int)
    (object : TcpSession) :
    let after := acceptConnection acceptSession shared own nAcceptSock object
    after.1.locks = shared.locks ∧ LocksOk after.2 held := by
  have found : ∀ session, Guarded own.base session own.base
      (netEventModleLocked []) := fun session =>
    guarded_scope .netEventModleLock bare_nil
  unfold acceptConnection
  dsimp only
  split
  · exact ⟨rfl, locksOk_call around rfl rfl (found _) fun _ => ⟨_, rfl⟩⟩
  · refine ⟨rfl, locksOk_call around rfl rfl ((found _).append ?_)
      fun isSweep => (noSweep isSweep).elim⟩
    rw [base_of_noSweep noSweep]
    exact TcpSession.guarded_init _ _

/-- A worker looks at an event. -/
theorem locksOk_handleFetched
    (around : held = own.base)
    (idle : own.call = none)
    (noSweep : own.sweep.isSome = true → False)
    {session : SessionId}
    {event : EpollEvent}
    {batch : List (SessionId × EpollEvent)}
    {write : WriteResult}
    {sendCtl : Bool}
    {after : Shared × Local}
    (handled : handleFetched shared own session event batch write sendCtl =
      after) :
    after.1.locks = shared.locks ∧ LocksOk after.2 held := by
  cases handleFetched_cases handled with
  | ignore | pointless => exact ⟨rfl, locksOk_idle around idle rfl⟩
  | send =>
      exact ⟨rfl, locksOk_call around rfl rfl
        (TcpSession.guarded_ioSendQueued _ _ _)
        fun isSweep => (noSweep isSweep).elim⟩
  | receive =>
      exact ⟨rfl, locksOk_call around rfl rfl rfl
        fun isSweep => (noSweep isSweep).elim⟩

/-- A thread enters a sweep. -/
theorem locksOk_enterSweep
    (idle : own.call = none)
    (around : shared.locksOf thread = [])
    {after : Shared × Local}
    (advanced : enterSweep shared thread own = some after) :
    LocksOk after.2 (after.1.locksOf thread) ∧
      ∀ other, other ≠ thread →
        after.1.locksOf other = shared.locksOf other := by
  obtain ⟨-, rfl⟩ := enterSweep_eq_some advanced
  refine ⟨⟨fun _ => ?_, fun _ isCall => ?_, fun _ isCall => ?_⟩,
    fun other different => Shared.locksOf_acquire_ne _ different⟩
  · rw [Shared.locksOf_acquire, around]
    rfl
  · exact absurd (idle.symm.trans isCall) (by simp)
  · exact absurd (idle.symm.trans isCall) (by simp)

/-- A thread leaves a sweep. -/
theorem locksOk_leaveSweep
    (idle : own.call = none)
    (around : shared.locksOf thread = [mgrLock]) :
    let after := leaveSweep shared thread own
    LocksOk after.2 (after.1.locksOf thread) ∧
      ∀ other, other ≠ thread →
        after.1.locksOf other = shared.locksOf other := by
  refine ⟨⟨fun _ => ?_, fun _ isCall => ?_, fun _ isCall => ?_⟩,
    fun other different => Shared.locksOf_release_ne _ different⟩
  · rw [leaveSweep, Shared.locksOf_release, around]
    rfl
  · exact absurd (idle.symm.trans isCall) (by simp)
  · exact absurd (idle.symm.trans isCall) (by simp)

/-- A step of a thread between two calls. -/
theorem locksOk_idleStep
    (ok : LocksOk own (shared.locksOf thread))
    (idle : own.call = none)
    {acceptSession : AcceptSession}
    {input : Input}
    {after : Shared × Local}
    (advanced : idleStep acceptSession shared thread own input = some after) :
    LocksOk after.2 (after.1.locksOf thread) ∧
      ∀ other, other ≠ thread →
        after.1.locksOf other = shared.locksOf other := by
  have around := ok.idle idle
  have outside : own.sweep = none → own.sweep.isSome = true → False := by
    intro none isSweep
    rw [none] at isSweep
    contradiction
  have leaves : own.sweep = some [] → own.base = [mgrLock] := by
    intro isSweep
    rw [Local.base, isSweep]
    rfl
  have swept : ∀ {nSocket sockets}, own.sweep = some (nSocket :: sockets) →
      (some sockets).isSome = own.sweep.isSome := by
    intro nSocket sockets isSweep
    rw [isSweep]
    rfl
  cases idleStep_cases advanced with
  | accept noSweep =>
      exact locksOk_of_locks
        (locksOk_acceptConnection around (outside noSweep) _ _ _)
  | fetch => exact locksOk_of_locks ⟨rfl, locksOk_idle around idle rfl⟩
  | handle noSweep _ handled =>
      exact locksOk_of_locks
        (locksOk_handleFetched around idle (outside noSweep) handled)
  | @find number nSendDataLen nSessionId szSendData noSweep =>
      refine locksOk_of_locks ⟨rfl, ?_⟩
      cases shared.state.mgr.findSession nSessionId with
      | none => exact locksOk_idle around rfl rfl
      | some session =>
          exact locksOk_call around rfl rfl rfl
            fun isSweep => (outside noSweep isSweep).elim
  | enterHeartbeat noSweep _ entered =>
      have base := base_of_noSweep (outside noSweep)
      exact locksOk_enterSweep idle (around.trans base) entered
  | enterStop noSweep entered =>
      have base := base_of_noSweep (outside noSweep)
      exact @locksOk_enterSweep
        (shared.setMgr { shared.state.mgr with bIsHeartbeat := false }) _ _
        idle (around.trans base) _ entered
  | leaveHeartbeat sweeping | leaveStop sweeping =>
      exact locksOk_leaveSweep idle (around.trans (leaves sweeping))
  | passOver sweeping =>
      exact locksOk_of_locks ⟨rfl, locksOk_idle around idle (swept sweeping)⟩
  | evict sweeping =>
      exact locksOk_of_locks ⟨rfl, locksOk_call around rfl (swept sweeping)
        (guarded_scope .netEventModleLock bare_nil) fun _ => ⟨_, rfl⟩⟩
  | finish sweeping =>
      exact locksOk_of_locks ⟨rfl, locksOk_call around rfl (swept sweeping) rfl
        fun _ => ⟨_, rfl⟩⟩

end Steps

/-! ## Callbacks in runs -/

/-- A thread calls the application in a step. -/
def CallsBack (server : Server) (label : Thread × Input) : Prop :=
  ∃ call event events, (server.locals label.1).call = some call ∧
    call.events = event :: events ∧ event.isCallback = true ∧
      label.2 = .perform

/-- A thread that calls the application holds no lock. -/
def CallsUnlocked (server : Server) (label : Thread × Input) : Prop :=
  CallsBack server label → ∀ entry ∈ server.shared.locks, entry.2 ≠ label.1

/-- A thread does not call `TcpSession_Fini` inside a sweep, unless the session
has no application to call. -/
def SweepsQuietly (server : Server) (label : Thread × Input) : Prop :=
  (server.locals label.1).sweep.isSome = true →
    ∀ call, (server.locals label.1).call = some call → call.events = [] →
      ∀ calls, call.stage = .teardown (.fini :: calls) →
        (server.shared.state.memory call.session).hasTransPortEngineRecv = false

/-- Every thread holds its locks as its call needs them. -/
def LockDiscipline (server : Server) : Prop :=
  ∀ thread, LocksOk (server.locals thread) (server.shared.locksOf thread)

theorem lockDiscipline_initial
    (memory : SessionId → TcpSession)
    (bIsHeartbeat : Bool) :
    LockDiscipline (Server.initial memory bIsHeartbeat) := by
  intro thread
  exact ⟨fun _ => rfl, fun _ impossible => by contradiction,
    fun _ impossible => by contradiction⟩

theorem LockDiscipline.serverStep
    {acceptSession : AcceptSession}
    {server next : Server}
    {label : Thread × Input}
    (discipline : LockDiscipline server)
    (quietly : SweepsQuietly server label)
    (stepped : serverStep acceptSession server label = some next) :
    LockDiscipline next := by
  obtain ⟨own, advanced, locals⟩ := serverStep_eq_some stepped
  have ok := discipline label.1
  have moved : LocksOk own (next.shared.locksOf label.1) ∧
      ∀ other, other ≠ label.1 →
        next.shared.locksOf other = server.shared.locksOf other := by
    unfold threadStep at advanced
    split at advanced
    · rename_i call inCall
      exact locksOk_callStep ok inCall
        (fun isSweep => quietly isSweep call inCall) advanced
    · rename_i idle
      exact locksOk_idleStep ok idle advanced
  intro thread
  rw [locals]
  by_cases same : thread = label.1
  · rw [same, Function.update_self]
    exact moved.1
  · rw [Function.update_of_ne same, moved.2 thread same]
    exact discipline thread

/-- The first event of a call is a callback only when the thread has no lock. -/
theorem LockDiscipline.callsUnlocked
    {server : Server}
    (discipline : LockDiscipline server)
    (label : Thread × Input) :
    CallsUnlocked server label := by
  rintro ⟨call, event, events, inCall, isFirst, isCallback, -⟩ entry member owns
  have guarded := (discipline label.1).call call inCall
  rw [isFirst] at guarded
  have none : server.shared.locksOf label.1 = [] := guarded.1 isCallback
  have owned : entry.1 ∈ server.shared.locksOf label.1 :=
    List.mem_map.mpr ⟨entry, List.mem_filter.mpr
      ⟨member, decide_eq_true owns⟩, rfl⟩
  rw [none] at owned
  contradiction

/-- As long as sweeps finalise no session with an application, no callback comes
from a thread that holds a lock. -/
theorem callsUnlocked_of_sweepsQuietly
    (acceptSession : AcceptSession)
    (memory : SessionId → TcpSession)
    (bIsHeartbeat : Bool)
    (labels : List (Thread × Input))
    (condition : Throughout (serverStep acceptSession) SweepsQuietly
      (Server.initial memory bIsHeartbeat) labels) :
    Throughout (serverStep acceptSession) CallsUnlocked
      (Server.initial memory bIsHeartbeat) labels :=
  throughout_of_invariant
    (fun _ _ _ discipline quietly stepped =>
      discipline.serverStep quietly stepped)
    (fun _ label discipline _ => discipline.callsUnlocked label)
    (lockDiscipline_initial memory bIsHeartbeat) condition

/-- The accept thread announces a new session. -/
theorem callsUnlocked_acceptSteps :
    Throughout (serverStep oneModle) CallsUnlocked
      (Server.initial blankMemory true) (acceptSteps 0x7f0000001010) := by
  apply callsUnlocked_of_sweepsQuietly oneModle blankMemory true _
  simp only [acceptSteps, List.map_cons, List.map_nil]
  iterate 10 refine throughout_cons rfl (fun isSweep => by contradiction) ?_
  trivial

/-- The heartbeat thread evicts a session and calls the application, while it
holds the lock that `TcpSessionMgr_FindSession` takes. -/
theorem exists_callback_locked :
    ¬∀ (acceptSession : AcceptSession) (memory : SessionId → TcpSession)
        (bIsHeartbeat : Bool) (labels : List (Thread × Input)),
      Throughout (serverStep acceptSession) CallsUnlocked
        (Server.initial memory bIsHeartbeat) labels := by
  intro always
  have unlocked := Throughout.last
    (acceptSteps 0x7f0000001010 ++ evictSteps.take 7)
    (always oneModle blankMemory true (_ ++ [(.heartbeat, .perform)])) rfl
  have calls := unlocked ⟨_, _, _, rfl, rfl, rfl, rfl⟩
  exact calls (mgrLock, .heartbeat) List.mem_cons_self rfl

end TransPortEngine
