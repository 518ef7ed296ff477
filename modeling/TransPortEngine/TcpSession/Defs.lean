import TransPortEngine.RecvCache

/-!
# Sessions

`CTcpSession` as the server uses it on Linux, with its constructor,
initialisation and finalisation. The members that both platforms share are a
structure of their own. A pointer member that is only compared with `NULL` is
represented by the outcome of that comparison, and `this` by the address of the
object.
-/

namespace TransPortEngine

/-- The members of `CTcpSession` outside its `_WINDOWS` sections. -/
structure SessionCore where
  hasNetFiveElement : Bool
  recvBufs : List BufInfo
  nEventModleIndex : Int
  tHeartbeatTimeStamp : Int
  hasTransPortEngineRecv : Bool
  bIsHaveHead : Bool
  bIsRecvHead : Bool
  nNeedRecvDataLen : Nat
  uSaltValue : Nat
  nRecvDataType : Int
  deriving DecidableEq, Repr

/-- A session on Linux. `m_SendBufs` holds pointers, which can be `NULL`. -/
structure TcpSession extends SessionCore where
  address : Nat
  nSocket : Int
  sendBufs : List (Option BufInfo)
  deriving DecidableEq, Repr

/-- The members the constructor leaves uninitialised. -/
structure SessionGarbage where
  hasTransPortEngineRecv : Bool
  bIsHaveHead : Bool
  uSaltValue : Nat
  nRecvDataType : Int
  deriving DecidableEq, Repr

namespace SessionCore

/-- The constructor, run at a given time. -/
def construct (garbage : SessionGarbage) (now : Int) : SessionCore where
  hasNetFiveElement := false
  recvBufs := []
  nEventModleIndex := 0
  tHeartbeatTimeStamp := now
  hasTransPortEngineRecv := garbage.hasTransPortEngineRecv
  bIsHaveHead := garbage.bIsHaveHead
  bIsRecvHead := false
  nNeedRecvDataLen := 0
  uSaltValue := garbage.uSaltValue
  nRecvDataType := garbage.nRecvDataType

/-- `TcpSession_IsHeartbeatTimeOut`. -/
def isHeartbeatTimeOut (session : SessionCore) (now : Int) : Bool :=
  decide (heartbeatTimeout < now - session.tHeartbeatTimeStamp)

/-- `TcpSession_HeadleHB`. -/
def headleHB (session : SessionCore) (now : Int) : SessionCore :=
  { session with tHeartbeatTimeStamp := now }

/-- A session that waits for the first byte of a header. -/
structure AtFrameStart (session : SessionCore) : Prop where
  framed : session.bIsHaveHead = true
  receives : session.hasTransPortEngineRecv = true
  noHead : session.bIsRecvHead = false
  noCache : session.recvBufs = []

end SessionCore

/-- The arguments of `TcpSession_Init` on Linux. -/
structure SessionArguments where
  nSocket : Int
  hasNetEventModleEpoll : Bool
  hasNetFiveElement : Bool
  hasTransPortEngineRecv : Bool
  bIsHaveHead : Bool
  hasUser : Bool

namespace TcpSession

/-- The constructor, run at a given time for a given address. -/
def construct
    (garbage : SessionGarbage)
    (address : Nat)
    (now : Int) : TcpSession where
  toSessionCore := SessionCore.construct garbage now
  address := address
  nSocket := -1
  sendBufs := []

/-- Replace the members both platforms share. -/
def setCore (session : TcpSession) (core : SessionCore) : TcpSession :=
  { session with toSessionCore := core }

@[simp] theorem toSessionCore_setCore
    (session : TcpSession)
    (core : SessionCore) :
    (session.setCore core).toSessionCore = core := rfl

/-- A notification, sent when there is a receiver for it. -/
def notify (session : TcpSession) (nMsgType : MsgType) : List EngineEvent :=
  if session.hasTransPortEngineRecv then
    [.onTransPortEngineNotify session.nSocket nMsgType]
  else []

/-- `TcpSession_Init`. -/
def init
    (session : TcpSession)
    (arguments : SessionArguments) : TcpSession × List EngineEvent × Int :=
  if arguments.nSocket = -1 ∨ arguments.hasNetEventModleEpoll = false ∨
      arguments.hasNetFiveElement = false ∨ arguments.hasUser = false then
    (session, [], -1)
  else
    let session := { session with
      hasNetFiveElement := arguments.hasNetFiveElement
      hasTransPortEngineRecv := arguments.hasTransPortEngineRecv
      bIsHaveHead := arguments.bIsHaveHead
      nSocket := arguments.nSocket }
    (session, session.notify .connect, 0)

/-- Close the socket unless that has been done. -/
def closeSocket (session : TcpSession) : List EngineEvent :=
  if session.nSocket = -1 then [] else [.close session.nSocket]

/-- `TcpSession_Fini`. -/
def fini (session : TcpSession) : TcpSession × List EngineEvent × Int :=
  ({ session with hasNetFiveElement := false, nSocket := -1, recvBufs := [] },
    session.notify .disconnect ++ session.closeSocket ++
      [.lock .recvBufLock, .unlock .recvBufLock], 0)

/-- `delete pTcpSession`: the destructor, and the release of the memory. -/
def delete (session : TcpSession) : TcpSession × List EngineEvent :=
  ({ session with hasNetFiveElement := false, nSocket := -1, recvBufs := [] },
    session.closeSocket ++
      [.lock .recvBufLock, .unlock .recvBufLock, .delete session.address])

/-- `TcpSession_IsSendData`. -/
def isSendData (session : TcpSession) : Bool :=
  !session.sendBufs.isEmpty

/-- The event `NetEventModleEpoll_AddEvent` and `NetEventModleEpoll_ModEvent`
fill in: first the descriptor, then the pointer. -/
def eventAdd (session : TcpSession) : EpollEvent :=
  let event := EpollEvent.zero
  let event := event.setFd session.nSocket
  let event := { event with events := { event.events with
    epollIn := true, epollEt := true, epollOneShot := true } }
  let event := event.setPtr session.address
  if session.isSendData then
    { event with events := { event.events with epollOut := true } }
  else event

/-- `NetEventModleEpoll_AddEvent`, given the success of `epoll_ctl`. -/
def addEvent (session : TcpSession) (done : Bool) : List EngineEvent × Int :=
  ([.epollCtl .add session.nSocket session.eventAdd done],
    if done then 0 else -1)

/-- `NetEventModleEpoll_ModEvent`, given the success of `epoll_ctl`. -/
def modEvent (session : TcpSession) (done : Bool) : List EngineEvent × Int :=
  ([.epollCtl .mod session.nSocket session.eventAdd done],
    if done then 0 else -1)

/-- `NetEventModleEpoll_DelEvent`, given the success of `epoll_ctl`. -/
def delEvent (session : TcpSession) (done : Bool) : List EngineEvent × Int :=
  ([.epollCtl .del session.nSocket EpollEvent.zero done],
    if done then 0 else -1)

/-- `TcpSession_IORecv(int)`, which only arms the descriptor. -/
def postRecv (session : TcpSession) (done : Bool) : List EngineEvent × Int :=
  session.modEvent done

/-- A session the accept loop has initialised for framed traffic waits for a
header. -/
theorem atFrameStart_init
    {garbage : SessionGarbage}
    {address : Nat}
    {now : Int}
    {arguments : SessionArguments}
    (framed : arguments.bIsHaveHead = true)
    (receives : arguments.hasTransPortEngineRecv = true)
    (initialised :
      ((construct garbage address now).init arguments).2.2 = 0) :
    ((construct garbage address now).init arguments).1.AtFrameStart := by
  unfold init at initialised ⊢
  split at initialised
  · simp at initialised
  · rename_i accepted
    rw [if_neg accepted]
    exact ⟨framed, receives, rfl, rfl⟩

/-- The union keeps the pointer only: what comes back as `data.fd` is the lower
half of the session's address. -/
theorem fd_eventAdd (session : TcpSession) :
    session.eventAdd.fd = MachineInt.signed32 session.address := by
  unfold eventAdd
  split <;> rfl

/-- The pointer is that of the session. -/
theorem ptr_eventAdd (session : TcpSession) :
    session.eventAdd.ptr = session.address := by
  unfold eventAdd
  split <;> rfl

end TcpSession

end TransPortEngine
