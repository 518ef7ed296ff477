import TransPortEngine.Library.Transition
import TransPortEngine.Server.Handlers

/-!
# The threads of a server

The accept thread, the workers of the net event modules, the heartbeat thread,
application threads that send by session id, and the thread that stops the
session manager. A step is one system call, one callback, one acquisition or
release of a lock, or one section under the lock of the session manager. A call
of a function of `CTcpSession` is the queue of what it still has to do, and the
threads take turns in any order.
-/

namespace TransPortEngine

open MachineInt

/-- The threads. A worker is named by its module and its number there. -/
inductive Thread
  | accept
  | worker (modle number : Nat)
  | heartbeat
  | application (number : Nat)
  | stop
  deriving DecidableEq, Repr

/-- A lock object: that of a session, or one of the server. -/
structure Lock where
  critSec : CritSec
  session : Option SessionId
  deriving DecidableEq, Repr

/-- The lock a function of a session means. -/
def CritSec.lock (critSec : CritSec) (session : SessionId) : Lock where
  critSec := critSec
  session :=
    match critSec with
    | .tcpSessionMgrLock | .netEventModleLock | .workThreadLock => none
    | _ => some session

/-- The lock of the session manager. -/
def mgrLock : Lock :=
  ⟨.tcpSessionMgrLock, none⟩

/-- Where a thread goes on when a call has returned. -/
inductive Stage
  | initialised (nAcceptSock nRet : Int)
  | known (nAcceptSock : Int)
  | added (nAcceptSock nRet : Int)
  | posted (nAcceptSock nRet : Int)
  | sent (event : EpollEvent) (nRet : Int)
  | receiving (event : EpollEvent) (ending : PassEnd)
  | found (nSendDataLen : Nat) (szSendData : List UInt8)
  | sending (result : CallResult)
  | teardown (calls : List Teardown)

/-- A call on a session: what it still has to do, and what follows. Its
`epoll_ctl` calls go to the epoll instance of a module. -/
structure Call where
  session : SessionId
  modle : Nat
  events : List EngineEvent
  stage : Stage

/-- The local variables of a thread. The batch holds the events a worker has
fetched and not handled; `sweep` the sockets a loop under the lock of the
session manager still has to visit. -/
structure Local where
  bFlag : Bool
  fetching : Bool
  batch : List (SessionId × EpollEvent)
  sweep : Option (List Int)
  call : Option Call

/-- The local variables at the start of a thread. -/
def Local.initial : Local :=
  ⟨false, false, [], none, none⟩

/-- What the threads share, with the owners of the locks and, for the record,
the threads that have begun to finalise or delete a session. -/
structure Shared where
  state : ServerState
  locks : List (Lock × Thread)
  destroyers : List (SessionId × Thread)

namespace Shared

/-- Nobody has a lock. -/
def Free (shared : Shared) (lock : Lock) : Prop :=
  ∀ entry ∈ shared.locks, entry.1 ≠ lock

instance (shared : Shared) (lock : Lock) : Decidable (shared.Free lock) :=
  inferInstanceAs (Decidable (∀ entry ∈ shared.locks, entry.1 ≠ lock))

/-- Change the session manager. -/
def setMgr (shared : Shared) (mgr : TcpSessionMgr) : Shared :=
  { shared with state := { shared.state with mgr := mgr } }

/-- Store a session object. -/
def store
    (shared : Shared)
    (session : SessionId)
    (object : TcpSession) : Shared :=
  { shared with state := shared.state.store session object }

/-- A thread does the next thing of a call. -/
def perform
    (shared : Shared)
    (thread : Thread)
    (session : SessionId)
    (modle : Nat)
    (event : EngineEvent) : Option Shared :=
  match event with
  | .lock critSec =>
      if shared.Free (critSec.lock session) then
        some { shared with
          locks := (critSec.lock session, thread) :: shared.locks }
      else none
  | .unlock critSec =>
      some { shared with
        locks := shared.locks.erase (critSec.lock session, thread) }
  | event =>
      if shared.state.kernel.allows modle event then
        some { shared with
          state := { shared.state with
            kernel := shared.state.kernel.perform modle session event } }
      else none

end Shared

/-- What happens in a step, with the results of the system calls in it. -/
inductive Input
  | perform
  | accept
      (nAcceptSock : Int)
      (garbage : SessionGarbage)
      (address : Nat)
      (now : Int)
  | fetch (nSocket : Int) (mask : EpollEvents)
  | handle (write : WriteResult) (sendCtl : Bool)
  | receive (turn : RecvTurn)
  | find (nSessionId : Int) (nSendDataLen : Nat) (szSendData : List UInt8)
  | send (outcomes : SendOutcomes)
  | visit (now : Int)
  | next (done : Bool)

/-- A new connection: the object is constructed, bound and initialised, and what
`NetEventModleMgr_FindModle` and `TcpSession_Init` do is still to be done. -/
def acceptConnection
    (acceptSession : AcceptSession)
    (shared : Shared)
    (own : Local)
    (nAcceptSock : Int)
    (object : TcpSession) : Shared × Local :=
  let session := shared.state.constructed
  let state := shared.state.construct nAcceptSock object
  let found := netEventModleLocked []
  match acceptSession.findModle (acceptSession.netEventModleIndex state) with
  | none =>
      ({ shared with state := state },
        { own with call := some ⟨session, 0, found, .teardown [.delete]⟩ })
  | some modle =>
      let initialised := object.init (acceptSession.arguments nAcceptSock)
      let state := (state.bind session modle).store session initialised.1
      ({ shared with state := state },
        { own with call := some ⟨session, modle, found ++ initialised.2.1,
          .initialised nAcceptSock initialised.2.2⟩ })

/-- A worker looks at the first event it has fetched. -/
def handleFetched
    (shared : Shared)
    (own : Local)
    (session : SessionId)
    (event : EpollEvent)
    (batch : List (SessionId × EpollEvent))
    (write : WriteResult)
    (sendCtl : Bool) : Shared × Local :=
  let own := { own with fetching := false, batch := batch }
  if event.events.skipped then (shared, own)
  else if event.events.epollOut then
    if event.ptr = 0 then (shared, { own with bFlag := false })
    else
      let sent := (shared.state.memory session).ioSendQueued write sendCtl
      (shared.store session sent.1,
        { own with
          bFlag := false
          call := some ⟨session, shared.state.bound session, sent.2.1,
            .sent event sent.2.2⟩ })
  else if event.events.epollIn = false ∨ event.ptr = 0 then (shared, own)
  else
    (shared, { own with
      call := some ⟨session, shared.state.bound session, [],
        .receiving event .loop⟩ })

/-- The branches for a negative result: `TcpSessionMgr_DelSession`, and what
follows it. -/
def dropFailed
    (shared : Shared)
    (own : Local)
    (modle : Nat)
    (session : SessionId)
    (nSock : Int) : Option (Shared × Local) :=
  if shared.Free mgrLock then
    let removed := shared.state.mgr.delSession nSock
    let calls : Option (List Teardown) :=
      if removed.2 < 0 then if own.bFlag then some [.delete] else none
      else some [.delEvent, .fini, .delete]
    some (shared.setMgr removed.1,
      { own with
        bFlag := if removed.2 < 0 then own.bFlag else true
        call := calls.map fun calls =>
          ⟨session, modle, [], .teardown calls⟩ })
  else none

/-- The next call to get rid of a session. -/
def nextTeardown
    (shared : Shared)
    (thread : Thread)
    (own : Local)
    (call : Call)
    (done : Bool)
    (calls : List Teardown) : Teardown → Option (Shared × Local)
  | .delSession nSocket =>
      if shared.Free mgrLock then
        some (shared.setMgr (shared.state.mgr.delSession nSocket).1,
          { own with call := some { call with stage := .teardown calls } })
      else none
  | .delEvent =>
      let object := shared.state.memory call.session
      some (shared, { own with call := some { call with
        events := (object.delEvent done).1, stage := .teardown calls } })
  | .fini =>
      let finished := (shared.state.memory call.session).fini
      some ({ shared.store call.session finished.1 with
          destroyers := (call.session, thread) :: shared.destroyers },
        { own with call := some { call with
          events := finished.2.1, stage := .teardown calls } })
  | .delete =>
      let deleted := (shared.state.memory call.session).delete
      some ({ shared.store call.session deleted.1 with
          destroyers := (call.session, thread) :: shared.destroyers },
        { own with call := some { call with
          events := deleted.2, stage := .teardown calls } })

/-- The module whose epoll instance a worker waits at. -/
def Thread.modle : Thread → Nat
  | .worker modle _ => modle
  | _ => 0

/-- A thread goes on behind a call that has returned. -/
def afterCall
    (shared : Shared)
    (thread : Thread)
    (own : Local)
    (call : Call)
    (done : Bool) : Option (Shared × Local) :=
  let object := shared.state.memory call.session
  let teardown := fun calls => some (shared,
    { own with call := some { call with stage := .teardown calls } })
  let returned := some (shared, { own with call := none })
  match call.stage with
  | .initialised nAcceptSock nRet =>
      if nRet < 0 then teardown [.delete]
      else if shared.Free mgrLock then
        some (shared.setMgr
            (shared.state.mgr.addSession object.nSocket call.session),
          { own with call := some { call with stage := .known nAcceptSock } })
      else none
  | .known nAcceptSock =>
      let added := object.addEvent done
      some (shared, { own with call := some { call with
        events := added.1, stage := .added nAcceptSock added.2 } })
  | .added nAcceptSock nRet =>
      if nRet < 0 then teardown [.delSession nAcceptSock, .fini, .delete]
      else
        let posted := object.postRecv done
        some (shared, { own with call := some { call with
          events := posted.1, stage := .posted nAcceptSock posted.2 } })
  | .posted nAcceptSock nRet =>
      if nRet < 0 then
        teardown [.delEvent, .delSession nAcceptSock, .fini, .delete]
      else returned
  | .sent event nRet =>
      if nRet < 0 then
        dropFailed shared own thread.modle call.session event.fd
      else if event.events.epollIn = false ∨ event.ptr = 0 then returned
      else
        some (shared, { own with call := some { call with
          stage := .receiving event .loop } })
  | .receiving _ .loop => none
  | .receiving event (.leave nRet) =>
      if nRet < 0 then
        dropFailed shared own thread.modle call.session event.fd
      else returned
  | .found _ _ => none
  | .sending .pending => none
  | .sending _ => returned
  | .teardown [] => returned
  | .teardown (first :: calls) =>
      nextTeardown shared thread own call done calls first

/-- A thread in the middle of a call. -/
def callStep
    (shared : Shared)
    (thread : Thread)
    (own : Local)
    (call : Call)
    (input : Input) : Option (Shared × Local) :=
  match call.events, input with
  | event :: events, .perform =>
      match shared.perform thread call.session call.modle event with
      | none => none
      | some shared =>
          some (shared, { own with call := some { call with events := events } })
  | [], .next done => afterCall shared thread own call done
  | [], .receive turn =>
      match call.stage with
      | .receiving event .loop =>
          let pass := (shared.state.memory call.session).ioRecvPass turn
          some (shared.store call.session pass.session,
            { own with call := some { call with
              events := pass.events, stage := .receiving event pass.ending } })
      | _ => none
  | [], .send outcomes =>
      match call.stage with
      | .found nSendDataLen szSendData =>
          let sent := (shared.state.memory call.session).ioSend
            (some szSendData) (signed32 nSendDataLen) outcomes
          some (shared.store call.session sent.session,
            { own with call := some { call with
              events := sent.events, stage := .sending sent.result } })
      | _ => none
  | _, _ => none

/-- The heartbeat thread or the stopping thread enters the section of the
session manager. -/
def enterSweep
    (shared : Shared)
    (thread : Thread)
    (own : Local) : Option (Shared × Local) :=
  if shared.Free mgrLock then
    some ({ shared with locks := (mgrLock, thread) :: shared.locks },
      { own with sweep := some shared.state.mgr.sockets })
  else none

/-- Such a thread leaves the section. -/
def leaveSweep
    (shared : Shared)
    (thread : Thread)
    (own : Local) : Shared × Local :=
  ({ shared with locks := shared.locks.erase (mgrLock, thread) },
    { own with sweep := none })

/-- The heartbeat thread looks at a session. -/
def visitTimedOut
    (acceptSession : AcceptSession)
    (shared : Shared)
    (own : Local)
    (nSocket : Int)
    (session : SessionId)
    (now : Int) : Option (Shared × Local) :=
  let object := shared.state.memory session
  if object.isHeartbeatTimeOut now then
    match acceptSession.findModle object.nEventModleIndex with
    | none => none
    | some modle =>
        some (shared.setMgr (shared.state.mgr.delSession nSocket).1,
          { own with call := some ⟨session, modle, netEventModleLocked [],
            .teardown [.delEvent, .fini, .delete]⟩ })
  else some (shared, own)

/-- A thread between two calls. -/
def idleStep
    (acceptSession : AcceptSession)
    (shared : Shared)
    (thread : Thread)
    (own : Local)
    (input : Input) : Option (Shared × Local) :=
  match thread, own.sweep, input with
  | .accept, none, .accept nAcceptSock garbage address now =>
      if nAcceptSock ≤ 0 ∨ nAcceptSock ∈ shared.state.kernel.openSockets ∨
          address = 0 then none
      else
        some (acceptConnection acceptSession shared own nAcceptSock
          (TcpSession.construct garbage address now))
  | .worker modle _, none, .fetch nSocket mask =>
      -- one `epoll_wait` returns several events
      if own.fetching = false ∧ own.batch ≠ [] then none
      else
        match shared.state.kernel.fetch modle nSocket mask with
        | none => none
        | some (session, event, kernel) =>
            some ({ shared with state := { shared.state with kernel := kernel } },
              { own with
                fetching := true
                batch := own.batch ++ [(session, event)] })
  | .worker _ _, none, .handle write sendCtl =>
      match own.batch with
      | [] => none
      | (session, event) :: batch =>
          some (handleFetched shared own session event batch write sendCtl)
  | .application _, none, .find nSessionId nSendDataLen szSendData =>
      if shared.Free mgrLock then
        some (shared, { own with
          call := (shared.state.mgr.findSession nSessionId).map fun session =>
            ⟨session, shared.state.bound session, [],
              .found nSendDataLen szSendData⟩ })
      else none
  | .heartbeat, none, .next _ =>
      if shared.state.mgr.bIsHeartbeat then enterSweep shared .heartbeat own
      else none
  | .heartbeat, some [], .next _ => some (leaveSweep shared .heartbeat own)
  | .heartbeat, some (nSocket :: sockets), .visit now =>
      let own := { own with sweep := some sockets }
      match shared.state.mgr.findSession nSocket with
      | none => some (shared, own)
      | some session =>
          visitTimedOut acceptSession shared own nSocket session now
  | .stop, none, .next _ =>
      -- the heartbeat thread has been joined
      enterSweep
        (shared.setMgr { shared.state.mgr with bIsHeartbeat := false }) .stop own
  | .stop, some [], .next _ =>
      some (leaveSweep
        (shared.setMgr { shared.state.mgr with tcpSessions := ∅ }) .stop own)
  | .stop, some (nSocket :: sockets), .visit _ =>
      let own := { own with sweep := some sockets }
      match shared.state.mgr.findSession nSocket with
      | none => some (shared, own)
      | some session =>
          some (shared, { own with
            call := some ⟨session, 0, [], .teardown [.fini, .delete]⟩ })
  | _, _, _ => none

/-- A step of a thread on what it shares and its own variables. -/
def threadStep
    (acceptSession : AcceptSession)
    (shared : Shared)
    (thread : Thread)
    (own : Local)
    (input : Input) : Option (Shared × Local) :=
  match own.call with
  | some call => callStep shared thread own call input
  | none => idleStep acceptSession shared thread own input

/-- A server with all its threads. -/
structure Server where
  shared : Shared
  locals : Thread → Local

/-- The start of a server. -/
def Server.initial
    (memory : SessionId → TcpSession)
    (bIsHeartbeat : Bool) : Server where
  shared := ⟨.initial memory bIsHeartbeat, [], []⟩
  locals := fun _ => .initial

/-- One step of one thread. -/
def serverStep
    (acceptSession : AcceptSession)
    (server : Server)
    (label : Thread × Input) : Option Server :=
  match threadStep acceptSession server.shared label.1 (server.locals label.1)
      label.2 with
  | none => none
  | some (shared, own) =>
      some ⟨shared, Function.update server.locals label.1 own⟩

/-- What a step leaves for the other threads. -/
theorem serverStep_eq_some
    {acceptSession : AcceptSession}
    {server next : Server}
    {label : Thread × Input}
    (stepped : serverStep acceptSession server label = some next) :
    ∃ own, threadStep acceptSession server.shared label.1
        (server.locals label.1) label.2 = some (next.shared, own) ∧
      next.locals = Function.update server.locals label.1 own := by
  unfold serverStep at stepped
  split at stepped
  · contradiction
  · rename_i shared own advanced
    rw [← Option.some.inj stepped]
    exact ⟨own, advanced, rfl⟩

end TransPortEngine
