import TransPortEngine.NetEventModleIocp.HandleData
import TransPortEngine.Server.Defs
import TransPortEngine.TcpSession.IocpLife

/-!
# The accept loop on Windows

`AcceptSession_Accept` and `AcceptSession_Fini` of `CAcceptSession` in their
`_WINDOWS` sections. Every round makes a socket, hands it to `AcceptEx` and waits
for one packet of `m_hAcceptIOCP`: the completion of that `AcceptEx`, which may
have failed, or the packet posted by `AcceptSession_Fini`, whose overlapped
pointer is `NULL`. As `AcceptEx` is asked to receive nothing, a successful
completion carries no bytes.
-/

namespace TransPortEngine

open MachineInt Transition

/-- `OPERATION_TYPE`. -/
inductive OperationType
  | ioUnknown
  | ioAccept
  | ioRecv
  | ioSend
  | ioConnect
  | ioDisconnect
  deriving DecidableEq, Repr

/-- `PER_IO_CONTEXT_ACCEPT_T`, but for the buffer the addresses are read from. -/
structure PerIoContextAccept where
  sockAccept : Int
  opType : OperationType
  deriving DecidableEq, Repr

/-- `dwReceiveDataLength`, what `AcceptEx` is asked to receive. -/
def dwReceiveDataLength : Nat := 0

/-- The results of what is called for a new connection. -/
structure ConnectionTurn where
  newSession : Bool
  newNetFiveElement : Bool
  newPerIoContextRecv : Bool
  addEvent : Bool
  recvPosted : Bool
  garbage : SessionGarbage
  now : Int

/-- Where the handling of a successful completion ends. -/
inductive AcceptExit
  | registered
  | newSession
  | newNetFiveElement
  | init
  | findModle
  | addEvent
  | ioRecv
  | zeroBytes
  | otherOperation
  deriving DecidableEq, Repr

/-- The accept thread: the members it uses, the sockets it has made that are
still open, whether it waits for a packet, and where the completions it was
handed have ended. -/
structure AcceptLoop where
  bAcceptThreadFlag : Bool
  nAcceptIndex : Int
  perIoContextAccept : PerIoContextAccept
  mgr : TcpSessionMgr
  memory : SessionId → IocpObject
  constructed : Nat
  openSockets : List Int
  waiting : Bool
  ended : Bool
  shutdownPosted : Bool
  exits : List AcceptExit
  nullRead : Bool

namespace AcceptLoop

/-- Behind `AcceptSession_Init`, in a memory of arbitrary content. The context is
cleared and gets its type before the first round. -/
def initial
    (memory : SessionId → IocpObject)
    (bIsHeartbeat : Bool) : AcceptLoop where
  bAcceptThreadFlag := true
  nAcceptIndex := 0
  perIoContextAccept := ⟨0, .ioAccept⟩
  mgr := ⟨bIsHeartbeat, ∅⟩
  memory := memory
  constructed := 0
  openSockets := []
  waiting := false
  ended := false
  shutdownPosted := false
  exits := []
  nullRead := false

/-- `closesocket`. -/
def closeSockets (loop : AcceptLoop) (sockets : List Int) : AcceptLoop :=
  { loop with openSockets := loop.openSockets.filter (· ∉ sockets) }

/-- A function of `CTcpSession` has changed the object and done something to its
environment. -/
def act
    (loop : AcceptLoop)
    (session : SessionId)
    (object : IocpObject)
    (events : List EngineEvent) : AcceptLoop :=
  { loop.closeSockets (closedSockets events) with
    memory := Function.update loop.memory session object }

/-- `delete` of a session. -/
def delete (loop : AcceptLoop) (session : SessionId) : AcceptLoop :=
  loop.act session (loop.memory session).delete.1 (loop.memory session).delete.2

/-- `TcpSession_Fini`. -/
def fini (loop : AcceptLoop) (session : SessionId) : AcceptLoop :=
  loop.act session (loop.memory session).fini.1 (loop.memory session).fini.2.1

/-- `TcpSessionMgr_DelSession`, `TcpSession_Fini` and `delete`. -/
def undo
    (loop : AcceptLoop)
    (sockAccept : Int)
    (session : SessionId) : AcceptLoop :=
  (({ loop with mgr := (loop.mgr.delSession sockAccept).1 }).fini session).delete
    session

/-- The case `IO_ACCEPT` of `AcceptSession_Accept` once the session is in the
map. `NetEventModleIOCP_DelEvent` cancels what is outstanding, and nothing is. -/
def connectAdded
    (acceptSession : AcceptSession)
    (loop : AcceptLoop)
    (sockAccept : Int)
    (session : SessionId)
    (nNetEventModleIndex : Int)
    (turn : ConnectionTurn) : AcceptLoop × AcceptExit :=
  match acceptSession.findModle nNetEventModleIndex with
  | none => (loop.undo sockAccept session, .findModle)
  | some _ =>
      if turn.addEvent = false then (loop.undo sockAccept session, .addEvent)
      else
        let object := loop.memory session
        let posted := object.toIocpSession.postRecv turn.recvPosted
        let loop := loop.act session { object with toIocpSession := posted.1 }
          posted.2.1
        if posted.2.2 < 0 then (loop.undo sockAccept session, .ioRecv)
        else (loop, .registered)

/-- The case `IO_ACCEPT` of `AcceptSession_Accept`. `TcpSessionMgr_AddSession`
returns 0. The exits for allocations that return `NULL` are there as the source
has them, although a plain `new` throws instead. No completion comes here; one that
did would not lose its socket (`connect_ownedOrClosed`). -/
def connect
    (acceptSession : AcceptSession)
    (loop : AcceptLoop)
    (sockAccept : Int)
    (turn : ConnectionTurn) : AcceptLoop × AcceptExit :=
  let nNetEventModleIndex :=
    loop.nAcceptIndex.tmod acceptSession.nEventModleCount
  if turn.newSession = false then (loop.closeSockets [sockAccept], .newSession)
  else
    let session := loop.constructed
    let loop := { loop with
      memory := Function.update loop.memory session
        (IocpObject.construct turn.garbage turn.now)
      constructed := loop.constructed + 1 }
    if turn.newNetFiveElement = false then
      ((loop.closeSockets [sockAccept]).delete session, .newNetFiveElement)
    else
      let initialised := (loop.memory session).init
        ⟨sockAccept, nNetEventModleIndex, true,
          acceptSession.hasTransPortEngineRecv, acceptSession.bIsHaveHead, true⟩
        turn.newPerIoContextRecv
      let loop := loop.act session initialised.1 initialised.2.1
      if initialised.2.2 < 0 then (loop.delete session, .init)
      else
        let loop := { loop with
          mgr := loop.mgr.addSession (loop.memory session).socket session }
        connectAdded acceptSession loop sockAccept session nNetEventModleIndex
          turn

/-- Note where the handling of a completion has ended. -/
def handled (result : AcceptLoop × AcceptExit) : AcceptLoop :=
  { result.1 with exits := result.1.exits ++ [result.2] }

/-- A packet `GetQueuedCompletionStatus` returns `TRUE` for, given the context
that belongs to the overlapped pointer. Both branches read the type of the
context, and there is none behind `NULL`. -/
def handlePacket
    (acceptSession : AcceptSession)
    (loop : AcceptLoop)
    (context : Option PerIoContextAccept)
    (dwBytesTransfered : Nat)
    (turn : ConnectionTurn) : AcceptLoop :=
  match context with
  | none => { loop with nullRead := true, ended := true }
  | some context =>
      if dwBytesTransfered = 0 ∧ (context.opType = .ioAccept ∨
          context.opType = .ioRecv ∨ context.opType = .ioSend) then
        handled (loop.closeSockets [context.sockAccept], .zeroBytes)
      else
        let loop := { loop with
          nAcceptIndex := signed32 (loop.nAcceptIndex + 1) }
        match context.opType with
        | .ioAccept =>
            handled (connect acceptSession loop context.sockAccept turn)
        | _ => handled (loop, .otherOperation)

/-- `AcceptSession_HandleAcceptError`. -/
def handleAcceptError (dwErrno : Nat) (isSocketAlive : Bool) : Bool :=
  if dwErrno = waitTimeout then if isSocketAlive then true else true
  else if dwErrno = errorNetnameDeleted then true
  else false

/-- The top of a round: a socket is made, unless that fails, and handed to
`AcceptEx`. -/
def post
    (loop : AcceptLoop)
    (sockAccept : Option Int)
    (posted : Bool) : AcceptLoop :=
  match sockAccept with
  | none =>
      { loop with
        perIoContextAccept := { loop.perIoContextAccept with
          sockAccept := invalidSocket }
        ended := true }
  | some sockAccept =>
      { loop with
        perIoContextAccept := { loop.perIoContextAccept with
          sockAccept := sockAccept }
        openSockets := sockAccept :: loop.openSockets
        waiting := posted
        ended := !posted }

end AcceptLoop

/-- What the accept thread meets, and the call of `AcceptSession_Fini`. -/
inductive AcceptInput
  | post (sockAccept : Option Int) (posted : Bool)
  | completed (dwBytesTransfered : Nat) (turn : ConnectionTurn)
  | failed (dwErrno : Nat) (isSocketAlive : Bool)
  | shutdown (turn : ConnectionTurn)
  | fini

namespace AcceptLoop

/-- A step of the accept thread, or of the thread in `AcceptSession_Fini`. A new
socket is none of the open ones, a completion carries no more than was asked
for, and the last packet is there once it has been posted. -/
def step
    (acceptSession : AcceptSession)
    (loop : AcceptLoop) : AcceptInput → Option AcceptLoop
  | .post sockAccept posted =>
      if loop.ended = true ∨ loop.waiting = true then none
      else if loop.bAcceptThreadFlag = false then
        some { loop with ended := true }
      else if ∃ socket ∈ sockAccept, socket ∈ loop.openSockets then none
      else some (loop.post sockAccept posted)
  | .completed dwBytesTransfered turn =>
      if loop.waiting = true ∧ dwBytesTransfered ≤ dwReceiveDataLength then
        some (handlePacket acceptSession { loop with waiting := false }
          (some loop.perIoContextAccept) dwBytesTransfered turn)
      else none
  | .failed dwErrno isSocketAlive =>
      if loop.waiting = true then
        some { loop with
          waiting := false
          ended := !handleAcceptError dwErrno isSocketAlive }
      else none
  | .shutdown turn =>
      if loop.waiting = true ∧ loop.shutdownPosted = true then
        some (handlePacket acceptSession
          { loop with waiting := false, shutdownPosted := false } none 0 turn)
      else none
  | .fini =>
      if loop.bAcceptThreadFlag = true then
        some { loop with bAcceptThreadFlag := false, shutdownPosted := true }
      else some loop

/-- The socket is that of a session of the map. -/
def Owned (loop : AcceptLoop) (socket : Int) : Prop :=
  ∃ session, loop.mgr.findSession socket = some session ∧
    (loop.memory session).socket = socket

end AcceptLoop

/-- A session, or one of the failure exits. Whether the branch for no bytes is
one of them is left open. -/
def AcceptExit.Allowed (zeroBytesAllowed : Bool) : AcceptExit → Prop
  | .zeroBytes => zeroBytesAllowed = true
  | .otherOperation => False
  | _ => True

/-- Every completion has ended in a session or a failure exit, every socket made
is owned by a session, closed, or the one `AcceptEx` has, and no context has been
read through `NULL`. -/
structure AcceptLoop.HandlesPackets
    (zeroBytesAllowed : Bool)
    (loop : AcceptLoop) : Prop where
  exits : ∀ exit ∈ loop.exits, exit.Allowed zeroBytesAllowed
  sockets : ∀ socket ∈ loop.openSockets,
    loop.Owned socket ∨
      loop.waiting = true ∧ loop.perIoContextAccept.sockAccept = socket
  noNullRead : loop.nullRead = false

/-- The condition on a step: no socket is refused by `AcceptEx`, no completion
has failed, the last packet is not dequeued, and a successful completion is only
there when closing its socket is allowed. -/
def AcceptInput.Clean (zeroBytesAllowed : Bool) (loop : AcceptLoop) :
    AcceptInput → Prop
  | .post sockAccept posted =>
      loop.bAcceptThreadFlag = true → sockAccept.isSome = true → posted = true
  | .completed _ _ => zeroBytesAllowed = true
  | .failed _ _ => False
  | .shutdown _ => False
  | .fini => True

/-! ## The branch for a new connection -/

namespace AcceptLoop

theorem mem_closeSockets
    {loop : AcceptLoop}
    {sockets : List Int}
    {socket : Int} :
    socket ∈ (loop.closeSockets sockets).openSockets ↔
      socket ∈ loop.openSockets ∧ socket ∉ sockets := by
  simp [closeSockets]

theorem memory_act
    (loop : AcceptLoop)
    (session : SessionId)
    (object : IocpObject)
    (events : List EngineEvent) :
    (loop.act session object events).memory session = object := by
  simp [act]

/-- The destructor closes the socket of the object. -/
theorem not_mem_delete
    {loop : AcceptLoop}
    {session : SessionId}
    {socket : Int}
    (valid : socket ≠ 0)
    (owns : (loop.memory session).socket = socket) :
    socket ∉ (loop.delete session).openSockets := by
  intro member
  have closes := (mem_closeSockets.mp member).2
  rw [IocpObject.closedSockets_delete, owns, if_neg valid] at closes
  exact closes List.mem_cons_self

/-- Nothing that is closed is opened by the destructor. -/
theorem not_mem_delete_of_closed
    {loop : AcceptLoop}
    {session : SessionId}
    {socket : Int}
    (closed : socket ∉ loop.openSockets) :
    socket ∉ (loop.delete session).openSockets :=
  fun member => closed (mem_closeSockets.mp member).1

/-- `TcpSession_Fini` closes the socket of the object. -/
theorem not_mem_undo
    {loop : AcceptLoop}
    {session : SessionId}
    {socket : Int}
    (valid : socket ≠ 0)
    (owns : (loop.memory session).socket = socket) :
    socket ∉ (loop.undo socket session).openSockets := by
  refine not_mem_delete_of_closed fun member => ?_
  have closes := (mem_closeSockets.mp member).2
  rw [IocpObject.closedSockets_fini, owns, if_neg valid] at closes
  exact closes List.mem_cons_self

/-- `TcpSession_IORecv(int)` leaves the socket of the session alone. -/
theorem socket_postRecv (session : IocpSession) (posted : Bool) :
    (session.postRecv posted).1.socket = session.socket := by
  unfold IocpSession.postRecv IocpSession.post
  simp only
  split <;> rfl

/-- A session in the map keeps its socket, or the socket is closed. -/
theorem connectAdded_ownedOrClosed
    {acceptSession : AcceptSession}
    {loop : AcceptLoop}
    {sockAccept : Int}
    {session : SessionId}
    (valid : sockAccept ≠ 0)
    (found : loop.mgr.findSession sockAccept = some session)
    (owns : (loop.memory session).socket = sockAccept)
    (nNetEventModleIndex : Int)
    (turn : ConnectionTurn) :
    let connected := connectAdded acceptSession loop sockAccept session
      nNetEventModleIndex turn
    connected.2 = .registered ∧ connected.1.Owned sockAccept ∨
      connected.2 ≠ .registered ∧ sockAccept ∉ connected.1.openSockets := by
  simp only [connectAdded]
  split
  · exact Or.inr ⟨by simp, not_mem_undo valid owns⟩
  · split
    · exact Or.inr ⟨by simp, not_mem_undo valid owns⟩
    · have keeps := (socket_postRecv (loop.memory session).toIocpSession
        turn.recvPosted).trans owns
      split
      · refine Or.inr ⟨by simp, not_mem_undo valid ?_⟩
        rw [memory_act]
        exact keeps
      · refine Or.inl ⟨rfl, session, found, ?_⟩
        rw [memory_act]
        exact keeps

/-- A completion that did reach the branch would end with a session or with its
socket closed, as long as the number of the module is not negative. -/
theorem connect_ownedOrClosed
    {acceptSession : AcceptSession}
    {loop : AcceptLoop}
    {sockAccept : Int}
    (valid : sockAccept ≠ 0 ∧ sockAccept ≠ invalidSocket)
    (fresh : loop.mgr.findSession sockAccept = none)
    (index : 0 ≤ loop.nAcceptIndex.tmod acceptSession.nEventModleCount)
    (turn : ConnectionTurn) :
    let connected := connect acceptSession loop sockAccept turn
    connected.2 = .registered ∧ connected.1.Owned sockAccept ∨
      connected.2 ≠ .registered ∧ sockAccept ∉ connected.1.openSockets := by
  have closes : ∀ loop : AcceptLoop,
      sockAccept ∉ (loop.closeSockets [sockAccept]).openSockets :=
    fun loop member => (mem_closeSockets.mp member).2 List.mem_cons_self
  unfold connect
  simp only
  split
  · exact Or.inr ⟨by simp, closes loop⟩
  · split
    · exact Or.inr ⟨by simp, not_mem_delete_of_closed (closes _)⟩
    · generalize Function.update loop.memory loop.constructed
        (IocpObject.construct turn.garbage turn.now) loop.constructed = object
      have owns := (object.init_valid
        ⟨sockAccept, loop.nAcceptIndex.tmod acceptSession.nEventModleCount, true,
          acceptSession.hasTransPortEngineRecv, acceptSession.bIsHaveHead, true⟩
        valid.2 index rfl rfl turn.newPerIoContextRecv).1
      simp only [memory_act, owns]
      split
      · refine Or.inr ⟨by simp, not_mem_delete valid.1 ?_⟩
        rw [memory_act]
        exact owns
      · refine connectAdded_ownedOrClosed valid.1 ?_ ?_ _ turn
        · exact TcpSessionMgr.findSession_addSession
            (AList.lookup_eq_none.mp fresh) loop.constructed
        · rw [memory_act]
          exact owns

/-! ## One packet -/

/-- While packets are handled: no session is in the map, and the socket `AcceptEx`
has is open. -/
structure Accepting (loop : AcceptLoop) : Prop where
  noSession : ∀ socket, loop.mgr.findSession socket = none
  opType : loop.perIoContextAccept.opType = .ioAccept
  opened : loop.waiting = true →
    loop.perIoContextAccept.sockAccept ∈ loop.openSockets

theorem accepting_initial
    (memory : SessionId → IocpObject)
    (bIsHeartbeat : Bool) :
    (initial memory bIsHeartbeat).Accepting where
  noSession _ := AList.lookup_empty _
  opType := rfl
  opened impossible := absurd impossible Bool.false_ne_true

theorem handlesPackets_initial
    (zeroBytesAllowed : Bool)
    (memory : SessionId → IocpObject)
    (bIsHeartbeat : Bool) :
    (initial memory bIsHeartbeat).HandlesPackets zeroBytesAllowed where
  exits _ impossible := absurd impossible List.not_mem_nil
  sockets _ impossible := absurd impossible List.not_mem_nil
  noNullRead := rfl

variable {acceptSession : AcceptSession} {loop next : AcceptLoop}
  {zeroBytesAllowed : Bool}

theorem not_owned (accepting : loop.Accepting) (socket : Int) :
    ¬loop.Owned socket := by
  rintro ⟨session, found, -⟩
  rw [accepting.noSession socket] at found
  contradiction

/-- A successful completion takes the branch that closes the socket. -/
theorem handlePacket_zeroBytes
    (isAccept : loop.perIoContextAccept.opType = .ioAccept)
    {dwBytesTransfered : Nat}
    (bounded : dwBytesTransfered ≤ dwReceiveDataLength)
    (turn : ConnectionTurn) :
    handlePacket acceptSession { loop with waiting := false }
        (some loop.perIoContextAccept) dwBytesTransfered turn =
      { loop with
        waiting := false
        openSockets := loop.openSockets.filter
          (· ∉ [loop.perIoContextAccept.sockAccept])
        exits := loop.exits ++ [.zeroBytes] } := by
  have none : dwBytesTransfered = 0 := Nat.le_zero.mp bounded
  simp only [handlePacket]
  rw [if_pos ⟨none, Or.inl isAccept⟩]
  rfl

/-- While the thread does not wait every socket has been closed. -/
theorem openSockets_idle
    (accepting : loop.Accepting)
    (handles : loop.HandlesPackets zeroBytesAllowed)
    (idle : loop.waiting = false)
    (socket : Int) :
    socket ∉ loop.openSockets := by
  intro member
  rcases handles.sockets socket member with isOwned | ⟨waits, -⟩
  · exact not_owned accepting socket isOwned
  · rw [idle] at waits
    contradiction

/-- A new socket that is refused stays open. -/
theorem handlesPackets_post
    (accepting : loop.Accepting)
    (handles : loop.HandlesPackets zeroBytesAllowed)
    (idle : loop.waiting = false)
    (sockAccept : Option Int)
    (posted : Bool) :
    (loop.post sockAccept posted).HandlesPackets zeroBytesAllowed ↔
      (sockAccept.isSome = true → posted = true) := by
  have empty := openSockets_idle accepting handles idle
  cases sockAccept with
  | none =>
      refine iff_of_true ⟨handles.exits, ?_, handles.noNullRead⟩ ?_
      · exact fun socket member => absurd member (empty socket)
      · exact fun impossible => absurd impossible Bool.false_ne_true
  | some sockAccept =>
      cases posted with
      | true =>
          refine iff_of_true ⟨handles.exits, ?_, handles.noNullRead⟩ fun _ => rfl
          intro socket member
          rcases List.mem_cons.mp member with rfl | member
          · exact Or.inr ⟨rfl, rfl⟩
          · exact absurd member (empty socket)
      | false =>
          refine iff_of_false ?_ fun clean =>
            absurd (clean rfl) Bool.false_ne_true
          intro leaves
          rcases leaves.sockets sockAccept List.mem_cons_self with
            isOwned | ⟨impossible, -⟩
          · exact not_owned accepting sockAccept isOwned
          · contradiction

/-- A successful completion leaves no socket open, and its exit is that for no
bytes. -/
theorem handlesPackets_completed
    (accepting : loop.Accepting)
    (handles : loop.HandlesPackets zeroBytesAllowed)
    {dwBytesTransfered : Nat}
    (bounded : dwBytesTransfered ≤ dwReceiveDataLength)
    (turn : ConnectionTurn) :
    (handlePacket acceptSession { loop with waiting := false }
        (some loop.perIoContextAccept) dwBytesTransfered
        turn).HandlesPackets zeroBytesAllowed ↔
      zeroBytesAllowed = true := by
  rw [handlePacket_zeroBytes accepting.opType bounded]
  constructor
  · intro leaves
    exact leaves.exits .zeroBytes (List.mem_append_right _ List.mem_cons_self)
  · intro allowed
    refine ⟨?_, ?_, handles.noNullRead⟩
    · intro exit member
      rcases List.mem_append.mp member with earlier | last
      · exact handles.exits exit earlier
      · rw [List.mem_singleton.mp last]
        exact allowed
    · intro socket member
      obtain ⟨opened, other⟩ := List.mem_filter.mp member
      rcases handles.sockets socket opened with isOwned | ⟨-, isAccept⟩
      · exact absurd isOwned (not_owned accepting socket)
      · simp [isAccept] at other

/-- What a step is, with what it has checked. -/
inductive AcceptStep
    (acceptSession : AcceptSession)
    (loop : AcceptLoop) : AcceptInput → AcceptLoop → Prop
  | ends
      {sockAccept : Option Int}
      {posted : Bool}
      (idle : loop.waiting = false)
      (stopped : loop.bAcceptThreadFlag = false) :
      AcceptStep acceptSession loop (.post sockAccept posted)
        { loop with ended := true }
  | posts
      {sockAccept : Option Int}
      {posted : Bool}
      (idle : loop.waiting = false)
      (running : loop.bAcceptThreadFlag = true)
      (fresh : ¬∃ socket ∈ sockAccept, socket ∈ loop.openSockets) :
      AcceptStep acceptSession loop (.post sockAccept posted)
        (loop.post sockAccept posted)
  | completes
      {dwBytesTransfered : Nat}
      {turn : ConnectionTurn}
      (waits : loop.waiting = true)
      (bounded : dwBytesTransfered ≤ dwReceiveDataLength) :
      AcceptStep acceptSession loop (.completed dwBytesTransfered turn)
        (handlePacket acceptSession { loop with waiting := false }
          (some loop.perIoContextAccept) dwBytesTransfered turn)
  | fails
      {dwErrno : Nat}
      {isSocketAlive : Bool}
      (waits : loop.waiting = true) :
      AcceptStep acceptSession loop (.failed dwErrno isSocketAlive)
        { loop with
          waiting := false
          ended := !handleAcceptError dwErrno isSocketAlive }
  | wakes
      {turn : ConnectionTurn}
      (waits : loop.waiting = true)
      (posted : loop.shutdownPosted = true) :
      AcceptStep acceptSession loop (.shutdown turn)
        (handlePacket acceptSession
          { loop with waiting := false, shutdownPosted := false } none 0 turn)
  | stops (running : loop.bAcceptThreadFlag = true) :
      AcceptStep acceptSession loop .fini
        { loop with bAcceptThreadFlag := false, shutdownPosted := true }
  | staysStopped (stopped : loop.bAcceptThreadFlag = false) :
      AcceptStep acceptSession loop .fini loop

theorem step_cases
    {input : AcceptInput}
    (stepped : loop.step acceptSession input = some next) :
    AcceptStep acceptSession loop input next := by
  unfold step at stepped
  split at stepped
  · split at stepped
    · contradiction
    · rename_i free
      have idle := Bool.eq_false_iff.mpr (not_or.mp free).2
      split at stepped
      · rename_i stopped
        exact Option.some.inj stepped ▸ .ends idle stopped
      · rename_i running
        split at stepped
        · contradiction
        · rename_i fresh
          exact Option.some.inj stepped ▸
            .posts idle (eq_true_of_ne_false running) fresh
  · split at stepped
    · rename_i allowed
      exact Option.some.inj stepped ▸ .completes allowed.1 allowed.2
    · contradiction
  · split at stepped
    · rename_i waits
      exact Option.some.inj stepped ▸ .fails waits
    · contradiction
  · split at stepped
    · rename_i allowed
      exact Option.some.inj stepped ▸ .wakes allowed.1 allowed.2
    · contradiction
  · split at stepped
    · rename_i running
      exact Option.some.inj stepped ▸ .stops running
    · rename_i stopped
      exact Option.some.inj stepped ▸
        .staysStopped (Bool.eq_false_iff.mpr stopped)

/-- A step keeps the property exactly when it meets the condition. -/
theorem handlesPackets_step
    {input : AcceptInput}
    (accepting : loop.Accepting)
    (handles : loop.HandlesPackets zeroBytesAllowed)
    (stepped : loop.step acceptSession input = some next) :
    next.HandlesPackets zeroBytesAllowed ↔
      input.Clean zeroBytesAllowed loop := by
  cases step_cases stepped with
  | ends idle stopped =>
      refine iff_of_true ⟨handles.exits, handles.sockets, handles.noNullRead⟩
        fun running => ?_
      rw [stopped] at running
      contradiction
  | posts idle running fresh =>
      rw [handlesPackets_post accepting handles idle]
      simp [AcceptInput.Clean, running]
  | completes waits bounded =>
      exact handlesPackets_completed accepting handles bounded _
  | fails waits =>
      -- whatever the error, the socket of the round is forgotten
      refine iff_of_false (fun leaves => ?_) id
      rcases leaves.sockets _ (accepting.opened waits) with
        isOwned | ⟨impossible, -⟩
      · exact not_owned accepting _ isOwned
      · contradiction
  | wakes =>
      exact iff_of_false
        (fun leaves => absurd leaves.noNullRead Bool.true_eq_false.mp) id
  | stops =>
      exact iff_of_true ⟨handles.exits, handles.sockets, handles.noNullRead⟩
        trivial
  | staysStopped => exact iff_of_true handles trivial

/-- No step puts a session into the map. -/
theorem accepting_step
    {input : AcceptInput}
    (accepting : loop.Accepting)
    (stepped : loop.step acceptSession input = some next) :
    next.Accepting := by
  have idle : false = true → loop.perIoContextAccept.sockAccept ∈
      loop.openSockets := fun impossible => absurd impossible Bool.false_ne_true
  cases step_cases stepped with
  | ends | stops =>
      exact ⟨accepting.noSession, accepting.opType, accepting.opened⟩
  | posts notWaiting running fresh =>
      rename_i sockAccept posted
      cases sockAccept with
      | none =>
          refine ⟨accepting.noSession, accepting.opType, fun waits => ?_⟩
          exact absurd (notWaiting.symm.trans waits) Bool.false_ne_true
      | some sockAccept =>
          exact ⟨accepting.noSession, accepting.opType,
            fun _ => List.mem_cons_self⟩
  | completes waits bounded =>
      rw [handlePacket_zeroBytes accepting.opType bounded]
      exact ⟨accepting.noSession, accepting.opType,
        fun impossible => absurd impossible Bool.false_ne_true⟩
  | fails | wakes => exact ⟨accepting.noSession, accepting.opType, idle⟩
  | staysStopped => exact accepting

/-! ## Whole runs -/

/-- In every run of the accept loop all packets are handled exactly when none has
failed, none is the last one, no socket is refused, and closing the sockets of
all successful completions is accepted as handling them. -/
theorem handlesPackets_iff
    (acceptSession : AcceptSession)
    (memory : SessionId → IocpObject)
    (bIsHeartbeat zeroBytesAllowed : Bool)
    (inputs : List AcceptInput) :
    Throughout (step acceptSession)
        (Leads (step acceptSession) (HandlesPackets zeroBytesAllowed))
        (initial memory bIsHeartbeat) inputs ↔
      Throughout (step acceptSession)
        (Meets (step acceptSession) fun loop input =>
          input.Clean zeroBytesAllowed loop)
        (initial memory bIsHeartbeat) inputs := by
  apply leads_throughout_iff
  · intro loop input next accepting handles stepped
    exact handlesPackets_step accepting handles stepped
  · intro loop input next accepting handles stepped leaves
    exact accepting_step accepting stepped
  · exact accepting_initial memory bIsHeartbeat
  · exact handlesPackets_initial zeroBytesAllowed memory bIsHeartbeat

/-! ### The last packet -/

/-- A connection is awaited, and `AcceptSession_Fini` posts its packet. -/
def shutdownWhileWaiting : List AcceptInput :=
  [.post (some 300) true, .fini,
    .shutdown ⟨true, true, true, true, true, ⟨false, false, 0, 0⟩, 0⟩]

/-- The packet of `AcceptSession_Fini` is taken for a completion. -/
theorem not_handlesPackets_shutdown :
    ¬∀ (acceptSession : AcceptSession) (memory : SessionId → IocpObject)
        (bIsHeartbeat : Bool) (inputs : List AcceptInput),
      Throughout (step acceptSession)
        (Leads (step acceptSession) (HandlesPackets true))
        (initial memory bIsHeartbeat) inputs := by
  intro always
  have throughout := always oneModle
    (fun _ => IocpObject.construct ⟨false, false, 0, 0⟩ 0) false
    shutdownWhileWaiting
  have atShutdown := ((throughout.2 _ rfl).2 _ rfl).1 _ rfl
  exact absurd atShutdown.noNullRead (by decide)

end AcceptLoop

end TransPortEngine
