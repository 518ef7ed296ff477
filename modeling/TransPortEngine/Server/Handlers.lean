import TransPortEngine.Server.Defs

/-!
# The handlers of a server, one at a time

The body of the accept loop, the treatment of one event by a worker of a net
event module, and one round of the heartbeat detection, each from its start to
its end. What the system calls return is an argument.
-/

namespace TransPortEngine

open MachineInt

/-- Events inside a scope that holds `m_NetEventModleLock`. -/
def netEventModleLocked (events : List EngineEvent) : List EngineEvent :=
  [.lock .netEventModleLock] ++ events ++ [.unlock .netEventModleLock]

namespace ServerState

/-- Several calls to get rid of a session, one after another. -/
def teardownAll
    (state : ServerState)
    (modle : Nat)
    (session : SessionId)
    (done : Bool) : List Teardown → ServerState × List EngineEvent
  | [] => (state, [])
  | call :: calls =>
      let first := state.teardown modle session done call
      let rest := teardownAll first.1 modle session done calls
      (rest.1, first.2 ++ rest.2)

/-- `accept` has returned a socket, and a session object is constructed. -/
def construct
    (state : ServerState)
    (nAcceptSock : Int)
    (object : TcpSession) : ServerState :=
  { state.store state.constructed object with
    constructed := state.constructed + 1
    nAcceptIndex := signed32 (state.nAcceptIndex + 1)
    kernel := state.kernel.accept nAcceptSock }

/-- Set the net event module of a session. -/
def bind
    (state : ServerState)
    (session : SessionId)
    (modle : Nat) : ServerState :=
  { state with bound := Function.update state.bound session modle }

/-- `TcpSessionMgr_AddSession`. -/
def addSession (state : ServerState) (session : SessionId) : ServerState :=
  { state with
    mgr := state.mgr.addSession (state.memory session).nSocket session }

end ServerState

/-! ## The accept loop -/

/-- What the calls of one round of the accept loop return. -/
structure AcceptTurn where
  nAcceptSock : Int
  garbage : SessionGarbage
  address : Nat
  now : Int
  addCtl : Bool
  modCtl : Bool
  delCtl : Bool

/-- The arguments of `TcpSession_Init` in the accept loop. -/
def AcceptSession.arguments
    (acceptSession : AcceptSession)
    (nAcceptSock : Int) : SessionArguments where
  nSocket := nAcceptSock
  hasNetEventModleEpoll := true
  hasNetFiveElement := true
  hasTransPortEngineRecv := acceptSession.hasTransPortEngineRecv
  bIsHaveHead := acceptSession.bIsHaveHead
  hasUser := true

/-- The index of the module the next session is bound to. -/
def AcceptSession.netEventModleIndex
    (acceptSession : AcceptSession)
    (state : ServerState) : Int :=
  state.nAcceptIndex.tmod acceptSession.nEventModleCount

/-- The rounds of `AcceptSession_Accept` after a successful `TcpSession_Init`. -/
def acceptInitialised
    (state : ServerState)
    (modle : Nat)
    (session : SessionId)
    (turn : AcceptTurn) : ServerState × List EngineEvent :=
  let state := state.addSession session
  let object := state.memory session
  let added := object.addEvent turn.addCtl
  let state := state.act modle session object added.1
  let events := tcpSessionMgrLocked [] ++ added.1
  if added.2 < 0 then
    let after := state.teardownAll modle session turn.delCtl
      [.delSession turn.nAcceptSock, .fini, .delete]
    (after.1, events ++ after.2)
  else
    let posted := object.postRecv turn.modCtl
    let state := state.act modle session object posted.1
    let events := events ++ posted.1
    if posted.2 < 0 then
      let after := state.teardownAll modle session turn.delCtl
        [.delEvent, .delSession turn.nAcceptSock, .fini, .delete]
      (after.1, events ++ after.2)
    else (state, events)

/-- One round of `AcceptSession_Accept`. -/
def acceptOne
    (acceptSession : AcceptSession)
    (state : ServerState)
    (turn : AcceptTurn) : ServerState × List EngineEvent :=
  if turn.nAcceptSock ≤ 0 then (state, [])
  else
    let session := state.constructed
    let object := TcpSession.construct turn.garbage turn.address turn.now
    let state := state.construct turn.nAcceptSock object
    let found := netEventModleLocked []
    match acceptSession.findModle (acceptSession.netEventModleIndex state) with
    | none =>
        let after := state.teardownAll 0 session turn.delCtl [.delete]
        (after.1, found ++ after.2)
    | some modle =>
        let initialised :=
          object.init (acceptSession.arguments turn.nAcceptSock)
        let state :=
          (state.bind session modle).act modle session initialised.1
            initialised.2.1
        let events := found ++ initialised.2.1
        let after :=
          if initialised.2.2 < 0 then
            state.teardownAll modle session turn.delCtl [.delete]
          else acceptInitialised state modle session turn
        (after.1, events ++ after.2)

/-! ## The workers -/

/-- An event that is reported without data or room for data. -/
def EpollEvents.skipped (events : EpollEvents) : Bool :=
  events.epollRdHup || events.epollHup || events.epollErr || events.epollPri

/-- What the calls return while one event is handled. -/
structure EventTurn where
  write : WriteResult
  sendCtl : Bool
  turns : List RecvTurn
  delCtl : Bool

/-- How a worker has handled an event: whether its call on the session has
returned, whether that failed, and what was called to get rid of the session. -/
structure Handled where
  state : ServerState
  bFlag : Bool
  events : List EngineEvent
  returned : Bool
  failed : Bool
  calls : List Teardown

/-- The branches of `NetEventModleEpoll_HandleData` for a negative result. Only
the branch for `EPOLLOUT` has reset `bFlag`. -/
def handleFailure
    (state : ServerState)
    (modle : Nat)
    (bFlag : Bool)
    (session : SessionId)
    (nSock : Int)
    (delCtl : Bool) : Handled :=
  let calls :=
    if (state.mgr.delSession nSock).2 < 0 then
      if bFlag then [.delSession nSock, .delete] else [.delSession nSock]
    else [.delSession nSock, .delEvent, .fini, .delete]
  let after := state.teardownAll modle session delCtl calls
  { state := after.1
    bFlag := if (state.mgr.delSession nSock).2 < 0 then bFlag else true
    events := after.2
    returned := true
    failed := true
    calls := calls }

/-- The branch for `EPOLLIN`. -/
def handleIn
    (state : ServerState)
    (modle : Nat)
    (bFlag : Bool)
    (session : SessionId)
    (event : EpollEvent)
    (turn : EventTurn) : Handled :=
  if event.events.epollIn = false ∨ event.ptr = 0 then
    ⟨state, bFlag, [], true, false, []⟩
  else
    let call := (state.memory session).ioRecv turn.turns
    let state := state.act (state.bound session) session call.session call.events
    match call.result with
    | .returned nRet =>
        if nRet < 0 then
          let handled :=
            handleFailure state modle bFlag session event.fd turn.delCtl
          { handled with events := call.events ++ handled.events }
        else ⟨state, bFlag, call.events, true, false, []⟩
    | _ => ⟨state, bFlag, call.events, false, false, []⟩

/-- The body of the loop over the events in `NetEventModleEpoll_HandleData`, for
a worker of a net event module. -/
def handleEvent
    (state : ServerState)
    (modle : Nat)
    (bFlag : Bool)
    (session : SessionId)
    (event : EpollEvent)
    (turn : EventTurn) : Handled :=
  if event.events.skipped then ⟨state, bFlag, [], true, false, []⟩
  else if event.events.epollOut then
    if event.ptr = 0 then ⟨state, false, [], true, false, []⟩
    else
      let sent := (state.memory session).ioSendQueued turn.write turn.sendCtl
      let state := state.act (state.bound session) session sent.1 sent.2.1
      let handled :=
        if sent.2.2 < 0 then
          handleFailure state modle false session event.fd turn.delCtl
        else handleIn state modle false session event turn
      { handled with events := sent.2.1 ++ handled.events }
  else handleIn state modle bFlag session event turn

/-! ## The heartbeat detection -/

/-- The clock and the success of the `epoll_ctl` when a session is looked at. -/
structure Visit where
  now : Int
  delCtl : Bool

/-- The heartbeat detection looks at the session of a map entry. The index of
its module is that of `m_nEventModleIndex`. -/
def visitSession
    (acceptSession : AcceptSession)
    (state : ServerState)
    (nSocket : Int)
    (session : SessionId)
    (visit : Visit) : ServerState × List EngineEvent :=
  let object := state.memory session
  if object.isHeartbeatTimeOut visit.now then
    match acceptSession.findModle object.nEventModleIndex with
    -- without modules there is no session to visit
    | none => (state, [])
    | some modle =>
        let state := { state with mgr := (state.mgr.delSession nSocket).1 }
        let after := state.teardownAll modle session visit.delCtl
          [.delEvent, .fini, .delete]
        (after.1, netEventModleLocked [] ++ after.2)
  else (state, [])

/-- The loop of the heartbeat detection over the sockets that are left. -/
def visitSessions
    (acceptSession : AcceptSession)
    (visits : Int → Visit) :
    ServerState → List Int → ServerState × List EngineEvent
  | state, [] => (state, [])
  | state, nSocket :: sockets =>
      match state.mgr.findSession nSocket with
      | none => visitSessions acceptSession visits state sockets
      | some session =>
          let after := visitSession acceptSession state nSocket session
            (visits nSocket)
          let rest := visitSessions acceptSession visits after.1 sockets
          (rest.1, after.2 ++ rest.2)

/-- The sockets of the registered sessions, in the order of the map. -/
def TcpSessionMgr.sockets (mgr : TcpSessionMgr) : List Int :=
  mgr.tcpSessions.keys.insertionSort (· ≤ ·)

/-- One round of `TcpSessionMgr_HeartbeatDetection`. -/
def heartbeatDetection
    (acceptSession : AcceptSession)
    (state : ServerState)
    (visits : Int → Visit) : ServerState × List EngineEvent :=
  let after := visitSessions acceptSession visits state state.mgr.sockets
  (after.1, tcpSessionMgrLocked after.2)

end TransPortEngine
