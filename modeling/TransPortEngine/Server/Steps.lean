import TransPortEngine.Server.Threads

/-!
# The steps of a thread, case by case

What a thread can do between two calls, in the middle of a call and behind it,
with what the code has checked before it does it. What a run of the threads keeps
is found by going through these cases.
-/

namespace TransPortEngine

open MachineInt

/-! ## The kernel -/

namespace Kernel

/-- A registration that is there after an event was there before, or is the one
the event makes. -/
theorem registration_perform
    {kernel : Kernel}
    {modle index : Nat}
    {session : SessionId}
    {event : EngineEvent}
    {nSocket : Int}
    {registration : Registration}
    (registered : (kernel.perform modle session event).registrations index
      nSocket = some registration) :
    kernel.registrations index nSocket = some registration ∨
      ∃ op added, event = .epollCtl op nSocket added true ∧ op ≠ .del ∧
        index = modle ∧ registration = ⟨session, added, true⟩ := by
  unfold perform at registered
  split at registered
  · simp only [register] at registered
    split at registered
    · contradiction
    · exact Or.inl registered
  · rename_i op _ added notDel
    simp only [register] at registered
    split at registered
    · rename_i same
      rw [same.2]
      exact Or.inr ⟨op, added, rfl, notDel, same.1,
        (Option.some.inj registered).symm⟩
    · exact Or.inl registered
  · simp only [close] at registered
    split at registered
    · contradiction
    · exact Or.inl registered
  · exact Or.inl registered

/-- An event of a session opens no socket. -/
theorem mem_openSockets_of_perform
    {kernel : Kernel}
    {modle : Nat}
    {session : SessionId}
    {event : EngineEvent}
    {nSocket : Int}
    (member : nSocket ∈ (kernel.perform modle session event).openSockets) :
    nSocket ∈ kernel.openSockets := by
  unfold perform at member
  split at member
  · exact member
  · exact member
  · exact List.mem_of_mem_filter member
  · exact member

end Kernel

/-! ## In the middle of a call -/

section Cases

variable {shared : Shared} {thread : Thread} {own : Local} {call : Call}

/-- What the next thing of a call does to what the threads share. -/
inductive PerformStep
    (shared : Shared)
    (thread : Thread)
    (session : SessionId)
    (modle : Nat) : EngineEvent → Shared → Prop
  | lock
      {critSec : CritSec}
      (free : shared.Free (critSec.lock session)) :
      PerformStep shared thread session modle (.lock critSec)
        { shared with
          locks := (critSec.lock session, thread) :: shared.locks }
  | unlock {critSec : CritSec} :
      PerformStep shared thread session modle (.unlock critSec)
        { shared with
          locks := shared.locks.erase (critSec.lock session, thread) }
  | kernel
      {event : EngineEvent}
      (allowed : shared.state.kernel.allows modle event = true) :
      PerformStep shared thread session modle event
        { shared with
          state := { shared.state with
            kernel := shared.state.kernel.perform modle session event } }

theorem performStep_of_perform
    {session : SessionId}
    {modle : Nat}
    {event : EngineEvent}
    {next : Shared}
    (performed : shared.perform thread session modle event = some next) :
    PerformStep shared thread session modle event next := by
  unfold Shared.perform at performed
  split at performed
  · split at performed
    · rename_i free
      exact Option.some.inj performed ▸ .lock free
    · contradiction
  · exact Option.some.inj performed ▸ .unlock
  · split at performed
    · rename_i allowed
      exact Option.some.inj performed ▸ .kernel allowed
    · contradiction

/-- What a thread in the middle of a call can do. -/
inductive CallStep
    (shared : Shared)
    (thread : Thread)
    (own : Local)
    (call : Call) : Input → Shared × Local → Prop
  | perform
      {event : EngineEvent}
      {events : List EngineEvent}
      {next : Shared}
      (first : call.events = event :: events)
      (performed : shared.perform thread call.session call.modle event =
        some next) :
      CallStep shared thread own call .perform
        (next, { own with call := some { call with events := events } })
  | goOn
      {done : Bool}
      {after : Shared × Local}
      (quiet : call.events = [])
      (advanced : afterCall shared thread own call done = some after) :
      CallStep shared thread own call (.next done) after
  | receive
      {event : EpollEvent}
      {turn : RecvTurn}
      (quiet : call.events = [])
      (stage : call.stage = .receiving event .loop) :
      CallStep shared thread own call (.receive turn)
        (shared.store call.session
            ((shared.state.memory call.session).ioRecvPass turn).session,
          { own with call := some { call with
            events := ((shared.state.memory call.session).ioRecvPass turn).events
            stage := .receiving event
              ((shared.state.memory call.session).ioRecvPass turn).ending } })
  | send
      {nSendDataLen : Nat}
      {szSendData : List UInt8}
      {outcomes : SendOutcomes}
      {nDataLen : Int}
      {sent : SendRun}
      (quiet : call.events = [])
      (stage : call.stage = .found nSendDataLen szSendData)
      (isLength : nDataLen = signed32 nSendDataLen)
      (isSent : sent = (shared.state.memory call.session).ioSend
        (some szSendData) nDataLen outcomes) :
      CallStep shared thread own call (.send outcomes)
        (shared.store call.session sent.session,
          { own with call := some { call with
            events := sent.events, stage := .sending sent.result } })

theorem callStep_cases
    {input : Input}
    {after : Shared × Local}
    (advanced : callStep shared thread own call input = some after) :
    CallStep shared thread own call input after := by
  unfold callStep at advanced
  split at advanced
  · rename_i first
    split at advanced
    · contradiction
    · rename_i performed
      exact Option.some.inj advanced ▸ .perform first performed
  · rename_i quiet
    exact .goOn quiet advanced
  · rename_i quiet
    split at advanced
    · rename_i stage
      exact Option.some.inj advanced ▸ .receive quiet stage
    · contradiction
  · rename_i quiet
    split at advanced
    · rename_i stage
      exact Option.some.inj advanced ▸ .send quiet stage rfl rfl
    · contradiction
  · contradiction

/-! ## Behind a call -/

/-- The accept loop gives up a session it has initialised: the calls that undo
what it has done. -/
def Call.GivesUp (call : Call) (calls : List Teardown) : Prop :=
  match call.stage with
  | .initialised _ nRet => nRet < 0 ∧ calls = [.delete]
  | .added nAcceptSock nRet =>
      nRet < 0 ∧ calls = [.delSession nAcceptSock, .fini, .delete]
  | .posted nAcceptSock nRet =>
      nRet < 0 ∧ calls = [.delEvent, .delSession nAcceptSock, .fini, .delete]
  | _ => False

/-- Nothing follows the call. -/
def Call.Returns (call : Call) : Prop :=
  match call.stage with
  | .posted _ nRet => 0 ≤ nRet
  | .sent event nRet =>
      0 ≤ nRet ∧ (event.events.epollIn = false ∨ event.ptr = 0)
  | .receiving _ (.leave nRet) => 0 ≤ nRet
  | .sending result => result ≠ .pending
  | .teardown calls => calls = []
  | _ => False

/-- What a thread can do behind a call. -/
inductive AfterCall
    (shared : Shared)
    (thread : Thread)
    (own : Local)
    (call : Call)
    (done : Bool) : Shared × Local → Prop
  | giveUp
      {calls : List Teardown}
      (failed : call.GivesUp calls) :
      AfterCall shared thread own call done (shared,
        { own with call := some { call with stage := .teardown calls } })
  | addSession
      {nAcceptSock nRet : Int}
      (stage : call.stage = .initialised nAcceptSock nRet)
      (nonneg : 0 ≤ nRet)
      (free : shared.Free mgrLock) :
      AfterCall shared thread own call done
        (shared.setMgr (shared.state.mgr.addSession
            (shared.state.memory call.session).nSocket call.session),
          { own with call := some { call with stage := .known nAcceptSock } })
  | addEvent
      {nAcceptSock : Int}
      (stage : call.stage = .known nAcceptSock) :
      AfterCall shared thread own call done (shared,
        { own with call := some { call with
          events := ((shared.state.memory call.session).addEvent done).1
          stage := .added nAcceptSock
            ((shared.state.memory call.session).addEvent done).2 } })
  | postRecv
      {nAcceptSock nRet : Int}
      (stage : call.stage = .added nAcceptSock nRet)
      (nonneg : 0 ≤ nRet) :
      AfterCall shared thread own call done (shared,
        { own with call := some { call with
          events := ((shared.state.memory call.session).postRecv done).1
          stage := .posted nAcceptSock
            ((shared.state.memory call.session).postRecv done).2 } })
  | receive
      {event : EpollEvent}
      {nRet : Int}
      (stage : call.stage = .sent event nRet)
      (nonneg : 0 ≤ nRet)
      (readable : ¬(event.events.epollIn = false ∨ event.ptr = 0)) :
      AfterCall shared thread own call done (shared,
        { own with call := some { call with
          stage := .receiving event .loop } })
  | drop
      {event : EpollEvent}
      {nRet : Int}
      {after : Shared × Local}
      (stage : call.stage = .sent event nRet ∨
        call.stage = .receiving event (.leave nRet))
      (negative : nRet < 0)
      (dropped : dropFailed shared own thread.modle call.session event.fd =
        some after) :
      AfterCall shared thread own call done after
  | teardown
      {first : Teardown}
      {calls : List Teardown}
      {after : Shared × Local}
      (stage : call.stage = .teardown (first :: calls))
      (advanced : nextTeardown shared thread own call done calls first =
        some after) :
      AfterCall shared thread own call done after
  | returned (ended : call.Returns) :
      AfterCall shared thread own call done (shared, { own with call := none })

theorem afterCall_cases
    {done : Bool}
    {after : Shared × Local}
    (advanced : afterCall shared thread own call done = some after) :
    AfterCall shared thread own call done after := by
  have givesUp : ∀ {stage calls}, call.stage = stage →
      Call.GivesUp { call with stage := stage } calls → call.GivesUp calls := by
    intro stage calls isStage failed
    rw [Call.GivesUp, isStage]
    exact failed
  have returns : ∀ {stage}, call.stage = stage →
      Call.Returns { call with stage := stage } → call.Returns := by
    intro stage isStage ended
    rw [Call.Returns, isStage]
    exact ended
  unfold afterCall at advanced
  dsimp only at advanced
  split at advanced
  · rename_i stage
    split at advanced
    · rename_i negative
      exact Option.some.inj advanced ▸ .giveUp (givesUp stage ⟨negative, rfl⟩)
    · rename_i nonneg
      split at advanced
      · rename_i free
        exact Option.some.inj advanced ▸
          .addSession stage (not_lt.mp nonneg) free
      · contradiction
  · rename_i stage
    exact Option.some.inj advanced ▸ .addEvent stage
  · rename_i stage
    split at advanced
    · rename_i negative
      exact Option.some.inj advanced ▸ .giveUp (givesUp stage ⟨negative, rfl⟩)
    · rename_i nonneg
      exact Option.some.inj advanced ▸ .postRecv stage (not_lt.mp nonneg)
  · rename_i stage
    split at advanced
    · rename_i negative
      exact Option.some.inj advanced ▸ .giveUp (givesUp stage ⟨negative, rfl⟩)
    · rename_i nonneg
      exact Option.some.inj advanced ▸
        .returned (returns stage (not_lt.mp nonneg))
  · rename_i stage
    split at advanced
    · rename_i negative
      exact .drop (Or.inl stage) negative advanced
    · rename_i nonneg
      split at advanced
      · rename_i unreadable
        exact Option.some.inj advanced ▸
          .returned (returns stage ⟨not_lt.mp nonneg, unreadable⟩)
      · rename_i readable
        exact Option.some.inj advanced ▸
          .receive stage (not_lt.mp nonneg) readable
  · contradiction
  · rename_i stage
    split at advanced
    · rename_i negative
      exact .drop (Or.inr stage) negative advanced
    · rename_i nonneg
      exact Option.some.inj advanced ▸
        .returned (returns stage (not_lt.mp nonneg))
  · contradiction
  · contradiction
  · rename_i result notPending stage
    exact Option.some.inj advanced ▸ .returned (returns stage notPending)
  · rename_i stage
    exact Option.some.inj advanced ▸ .returned (returns stage rfl)
  · rename_i stage
    exact .teardown stage advanced

/-- A session is dropped under the lock of the session manager. -/
theorem dropFailed_eq_some
    {modle : Nat}
    {session : SessionId}
    {nSock : Int}
    {after : Shared × Local}
    (dropped : dropFailed shared own modle session nSock = some after) :
    shared.Free mgrLock ∧ ∃ (bFlag : Bool) (calls : Option (List Teardown)),
      after = (shared.setMgr (shared.state.mgr.delSession nSock).1,
        { own with
          bFlag := bFlag
          call := calls.map fun calls =>
            ⟨session, modle, [], .teardown calls⟩ }) := by
  unfold dropFailed at dropped
  split at dropped
  · rename_i free
    exact ⟨free, _, _, (Option.some.inj dropped).symm⟩
  · contradiction

/-- So is its entry in the session manager deleted. -/
theorem nextTeardown_delSession
    {done : Bool}
    {calls : List Teardown}
    {nSocket : Int}
    {after : Shared × Local}
    (advanced : nextTeardown shared thread own call done calls
      (.delSession nSocket) = some after) :
    shared.Free mgrLock ∧
      after = (shared.setMgr (shared.state.mgr.delSession nSocket).1,
        { own with call := some { call with stage := .teardown calls } }) := by
  simp only [nextTeardown] at advanced
  split at advanced
  · rename_i free
    exact ⟨free, (Option.some.inj advanced).symm⟩
  · contradiction

/-! ## Between two calls -/

/-- What a worker can do with an event it has fetched. -/
inductive HandleStep
    (shared : Shared)
    (own : Local)
    (session : SessionId)
    (event : EpollEvent)
    (batch : List (SessionId × EpollEvent))
    (write : WriteResult)
    (sendCtl : Bool) : Shared × Local → Prop
  | ignore
      (ignored : event.events.skipped = true ∨
        event.events.epollOut = false ∧
          (event.events.epollIn = false ∨ event.ptr = 0)) :
      HandleStep shared own session event batch write sendCtl
        (shared, { own with fetching := false, batch := batch })
  | pointless
      (output : event.events.epollOut = true)
      (null : event.ptr = 0) :
      HandleStep shared own session event batch write sendCtl
        (shared, { own with bFlag := false, fetching := false, batch := batch })
  | send
      (output : event.events.epollOut = true) :
      HandleStep shared own session event batch write sendCtl
        (shared.store session
            ((shared.state.memory session).ioSendQueued write sendCtl).1,
          { own with
            bFlag := false
            fetching := false
            batch := batch
            call := some ⟨session, shared.state.bound session,
              ((shared.state.memory session).ioSendQueued write sendCtl).2.1,
              .sent event ((shared.state.memory session).ioSendQueued write
                sendCtl).2.2⟩ })
  | receive
      (readable : ¬(event.events.epollIn = false ∨ event.ptr = 0)) :
      HandleStep shared own session event batch write sendCtl
        (shared, { own with
          fetching := false
          batch := batch
          call := some ⟨session, shared.state.bound session, [],
            .receiving event .loop⟩ })

theorem handleFetched_cases
    {session : SessionId}
    {event : EpollEvent}
    {batch : List (SessionId × EpollEvent)}
    {write : WriteResult}
    {sendCtl : Bool}
    {after : Shared × Local}
    (handled : handleFetched shared own session event batch write sendCtl =
      after) :
    HandleStep shared own session event batch write sendCtl after := by
  unfold handleFetched at handled
  dsimp only at handled
  split at handled
  · rename_i skipped
    exact handled ▸ .ignore (Or.inl skipped)
  · split at handled
    · rename_i output
      split at handled
      · rename_i null
        exact handled ▸ .pointless output null
      · exact handled ▸ .send output
    · rename_i noOutput
      split at handled
      · rename_i unreadable
        exact handled ▸
          .ignore (Or.inr ⟨Bool.eq_false_iff.mpr noOutput, unreadable⟩)
      · rename_i readable
        exact handled ▸ .receive readable

/-- What a thread between two calls can do. -/
inductive IdleStep
    (acceptSession : AcceptSession)
    (shared : Shared)
    (own : Local) : Thread → Input → Shared × Local → Prop
  | accept
      {nAcceptSock now : Int}
      {garbage : SessionGarbage}
      {address : Nat}
      (noSweep : own.sweep = none)
      (positive : 0 < nAcceptSock)
      (new : nAcceptSock ∉ shared.state.kernel.openSockets)
      (allocated : address ≠ 0) :
      IdleStep acceptSession shared own .accept
        (.accept nAcceptSock garbage address now)
        (acceptConnection acceptSession shared own nAcceptSock
          (TcpSession.construct garbage address now))
  | fetch
      {modle number : Nat}
      {nSocket : Int}
      {mask : EpollEvents}
      {session : SessionId}
      {event : EpollEvent}
      {kernel : Kernel}
      (noSweep : own.sweep = none)
      (handled : own.fetching = false → own.batch = [])
      (fetched : shared.state.kernel.fetch modle nSocket mask =
        some (session, event, kernel)) :
      IdleStep acceptSession shared own (.worker modle number)
        (.fetch nSocket mask)
        ({ shared with state := { shared.state with kernel := kernel } },
          { own with
            fetching := true
            batch := own.batch ++ [(session, event)] })
  | handle
      {modle number : Nat}
      {write : WriteResult}
      {sendCtl : Bool}
      {session : SessionId}
      {event : EpollEvent}
      {batch : List (SessionId × EpollEvent)}
      {after : Shared × Local}
      (noSweep : own.sweep = none)
      (fetched : own.batch = (session, event) :: batch)
      (handled : handleFetched shared own session event batch write sendCtl =
        after) :
      IdleStep acceptSession shared own (.worker modle number)
        (.handle write sendCtl) after
  | find
      {number nSendDataLen : Nat}
      {nSessionId : Int}
      {szSendData : List UInt8}
      (noSweep : own.sweep = none)
      (free : shared.Free mgrLock) :
      IdleStep acceptSession shared own (.application number)
        (.find nSessionId nSendDataLen szSendData)
        (shared, { own with
          call := (shared.state.mgr.findSession nSessionId).map fun session =>
            ⟨session, shared.state.bound session, [],
              .found nSendDataLen szSendData⟩ })
  | enterHeartbeat
      {done : Bool}
      {after : Shared × Local}
      (noSweep : own.sweep = none)
      (running : shared.state.mgr.bIsHeartbeat = true)
      (entered : enterSweep shared .heartbeat own = some after) :
      IdleStep acceptSession shared own .heartbeat (.next done) after
  | enterStop
      {done : Bool}
      {after : Shared × Local}
      (noSweep : own.sweep = none)
      (entered : enterSweep
        (shared.setMgr { shared.state.mgr with bIsHeartbeat := false }) .stop
        own = some after) :
      IdleStep acceptSession shared own .stop (.next done) after
  | leaveHeartbeat
      {done : Bool}
      (sweeping : own.sweep = some []) :
      IdleStep acceptSession shared own .heartbeat (.next done)
        (leaveSweep shared .heartbeat own)
  | leaveStop
      {done : Bool}
      (sweeping : own.sweep = some []) :
      IdleStep acceptSession shared own .stop (.next done)
        (leaveSweep
          (shared.setMgr { shared.state.mgr with tcpSessions := ∅ }) .stop own)
  | passOver
      {thread : Thread}
      {nSocket now : Int}
      {sockets : List Int}
      (sweeping : own.sweep = some (nSocket :: sockets))
      (passed : ∀ session,
        shared.state.mgr.findSession nSocket = some session →
          thread = .heartbeat ∧
            (shared.state.memory session).isHeartbeatTimeOut now = false) :
      IdleStep acceptSession shared own thread (.visit now)
        (shared, { own with sweep := some sockets })
  | evict
      {nSocket now : Int}
      {sockets : List Int}
      {session : SessionId}
      {modle : Nat}
      (sweeping : own.sweep = some (nSocket :: sockets))
      (found : shared.state.mgr.findSession nSocket = some session)
      (timedOut :
        (shared.state.memory session).isHeartbeatTimeOut now = true)
      (isModle : acceptSession.findModle
        (shared.state.memory session).nEventModleIndex = some modle) :
      IdleStep acceptSession shared own .heartbeat (.visit now)
        (shared.setMgr (shared.state.mgr.delSession nSocket).1,
          { own with
            sweep := some sockets
            call := some ⟨session, modle, netEventModleLocked [],
              .teardown [.delEvent, .fini, .delete]⟩ })
  | finish
      {nSocket now : Int}
      {sockets : List Int}
      {session : SessionId}
      (sweeping : own.sweep = some (nSocket :: sockets))
      (found : shared.state.mgr.findSession nSocket = some session) :
      IdleStep acceptSession shared own .stop (.visit now)
        (shared, { own with
          sweep := some sockets
          call := some ⟨session, 0, [], .teardown [.fini, .delete]⟩ })

theorem idleStep_cases
    {acceptSession : AcceptSession}
    {input : Input}
    {after : Shared × Local}
    (advanced : idleStep acceptSession shared thread own input = some after) :
    IdleStep acceptSession shared own thread input after := by
  unfold idleStep at advanced
  dsimp only at advanced
  split at advanced
  · rename_i noSweep
    split at advanced
    · contradiction
    · rename_i allowed
      simp only [not_or, not_le] at allowed
      exact Option.some.inj advanced ▸
        .accept noSweep allowed.1 allowed.2.1 allowed.2.2
  · rename_i noSweep
    split at advanced
    · contradiction
    · rename_i free
      split at advanced
      · contradiction
      · rename_i fetched
        refine Option.some.inj advanced ▸ .fetch noSweep ?_ fetched
        intro handled
        by_contra waiting
        exact free ⟨handled, waiting⟩
  · rename_i noSweep
    split at advanced
    · contradiction
    · rename_i fetched
      exact .handle noSweep fetched (Option.some.inj advanced)
  · rename_i noSweep
    split at advanced
    · rename_i free
      exact Option.some.inj advanced ▸ .find noSweep free
    · contradiction
  · rename_i noSweep
    split at advanced
    · rename_i running
      exact .enterHeartbeat noSweep running advanced
    · contradiction
  · rename_i sweeping
    exact Option.some.inj advanced ▸ .leaveHeartbeat sweeping
  · rename_i sweeping
    split at advanced
    · rename_i notFound
      refine Option.some.inj advanced ▸ .passOver sweeping ?_
      intro session found
      rw [notFound] at found
      contradiction
    · rename_i session found
      unfold visitTimedOut at advanced
      dsimp only at advanced
      split at advanced
      · rename_i timedOut
        split at advanced
        · contradiction
        · rename_i isModle
          exact Option.some.inj advanced ▸
            .evict sweeping found timedOut isModle
      · rename_i inTime
        refine Option.some.inj advanced ▸ .passOver sweeping ?_
        intro other isOther
        obtain rfl := Option.some.inj (found.symm.trans isOther)
        exact ⟨rfl, Bool.eq_false_iff.mpr inTime⟩
  · rename_i noSweep
    exact .enterStop noSweep advanced
  · rename_i sweeping
    exact Option.some.inj advanced ▸ .leaveStop sweeping
  · rename_i sweeping
    split at advanced
    · rename_i notFound
      refine Option.some.inj advanced ▸ .passOver sweeping ?_
      intro session found
      rw [notFound] at found
      contradiction
    · rename_i found
      exact Option.some.inj advanced ▸ .finish sweeping found
  · contradiction

/-- A sweep is entered under the lock of the session manager. -/
theorem enterSweep_eq_some
    {after : Shared × Local}
    (entered : enterSweep shared thread own = some after) :
    shared.Free mgrLock ∧
      after = ({ shared with locks := (mgrLock, thread) :: shared.locks },
        { own with sweep := some shared.state.mgr.sockets }) := by
  unfold enterSweep at entered
  split at entered
  · rename_i free
    exact ⟨free, (Option.some.inj entered).symm⟩
  · contradiction

end Cases

end TransPortEngine
