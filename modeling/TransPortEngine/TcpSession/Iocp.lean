import TransPortEngine.TcpSession.Recv

/-!
# Sessions on Windows

The `_WINDOWS` sections of `CTcpSession`: one overlapped receive at a time into
the buffer of `m_pPerIoContextRecv`, and one context for each overlapped send.
A completion stores its length in the context before `TcpSession_IORecv()` looks
at it.
-/

namespace TransPortEngine

open MachineInt

/-- `PER_IO_CONTEXT_RECV_T`: the requested length, the received length and the
received bytes. -/
structure PerIoContextRecv where
  wsaBufLen : Nat
  dwRecvLen : Nat
  szBuffer : List UInt8
  deriving DecidableEq, Repr

/-- `PER_IO_CONTEXT_SEND_T`: the buffer, the part of it `wsaBuf` denotes, the
length sent last and the sequence number. -/
structure PerIoContextSend where
  szBuffer : List UInt8
  wsaBufOffset : Nat
  wsaBufLen : Nat
  dwSendLen : Nat
  nSquence : Int
  deriving DecidableEq, Repr

/-- A session on Windows. -/
structure IocpSession extends SessionCore where
  socket : Int
  perIoContextRecv : PerIoContextRecv
  perIoContextSends : List PerIoContextSend
  nSquence : Int
  bIsToBeClose : Bool
  deriving DecidableEq, Repr

/-- The arguments of `TcpSession_Init` on Windows, without the failing ones. -/
structure IocpArguments where
  socket : Int
  nEventModleIndex : Nat
  hasTransPortEngineRecv : Bool
  bIsHaveHead : Bool

/-- What one completed receive brings, and the results of the calls made while
it is handled. More than `szBuffer` holds can only come when a longer receive has
been posted, and what is behind that is not said. -/
structure IocpTurn where
  chunk : Chunk maxBufferLen
  now : Int
  echoPosted : Bool
  recvPosted : Bool

/-- The bytes of a completion. -/
def IocpTurn.bytes (turn : IocpTurn) : List UInt8 :=
  turn.chunk.bytes

namespace IocpSession

/-- The constructor and a successful `TcpSession_Init`
(`IocpObject.toIocpSession_init`). -/
def accepted
    (garbage : SessionGarbage)
    (now : Int)
    (arguments : IocpArguments) : IocpSession where
  toSessionCore := { SessionCore.construct garbage now with
    hasNetFiveElement := true
    hasTransPortEngineRecv := arguments.hasTransPortEngineRecv
    bIsHaveHead := arguments.bIsHaveHead
    nEventModleIndex := arguments.nEventModleIndex }
  socket := arguments.socket
  perIoContextRecv := ⟨maxBufferLen, 0, []⟩
  perIoContextSends := []
  nSquence := 0
  bIsToBeClose := false

/-- Replace the members both platforms share. -/
def setCore (session : IocpSession) (core : SessionCore) : IocpSession :=
  { session with toSessionCore := core }

/-- `TcpSession_IOSend(const char*, const int)` on Windows, given the success of
`WSASend`. -/
def ioSend
    (session : IocpSession)
    (szData : List UInt8)
    (nDataLen : Int)
    (posted : Bool) : IocpSession × List EngineEvent × Int :=
  if nDataLen ≤ 0 then (session, [], -1)
  else if session.bIsToBeClose then (session, [], 0)
  else
    let szBuffer := szData.take nDataLen.toNat
    let session := { session with nSquence := signed32 (session.nSquence + 1) }
    let event := EngineEvent.wsaSend session.socket szBuffer posted
    if posted then
      ({ session with
        perIoContextSends := session.perIoContextSends ++
          [⟨szBuffer, 0, nDataLen.toNat, 0, session.nSquence⟩] },
        [event, .lock .perIoContextSendLock, .unlock .perIoContextSendLock], 0)
    else (session, [event], -2)

/-- `m_nNeedRecvDataLen - TcpSession_GetRecvCacheLen()`. -/
def missingBody (session : IocpSession) : Nat :=
  unsigned32 (session.nNeedRecvDataLen -
    (sessionRecvCacheLen session.recvBufs : Nat))

/-- `sizeof(HEAD_MSG_T) - TcpSession_GetRecvCacheLen()`, a `size_t`. -/
def missingHead (session : IocpSession) : Nat :=
  unsigned64 (sizeofHeadMsg - (sessionRecvCacheLen session.recvBufs : Nat))

/-- The length the next receive asks for, and the cache reads it takes. -/
def nextWsaBufLen (session : IocpSession) : Nat × List EngineEvent :=
  if session.bIsHaveHead then
    if session.bIsRecvHead then (session.missingBody, recvBufLocked [])
    else (unsigned32 session.missingHead, recvBufLocked [])
  else (maxBufferLen, [])

/-- Post the next receive, given the success of `WSARecv`. -/
def post
    (session : IocpSession)
    (posted : Bool) : IocpSession × List EngineEvent × Int :=
  let next := session.nextWsaBufLen
  let session := { session with
    perIoContextRecv := { session.perIoContextRecv with wsaBufLen := next.1 } }
  if session.bIsToBeClose then (session, next.2, 0)
  else
    (session, next.2 ++ [.wsaRecv session.socket next.1 posted],
      if posted then 0 else -1)

/-- `TcpSession_IORecv(int)` on Windows. -/
def postRecv
    (session : IocpSession)
    (posted : Bool) : IocpSession × List EngineEvent × Int :=
  session.post posted

/-- The callback for a complete body of type 1, or the heartbeat handler for
type 0. -/
def bodyEvents (session : IocpSession) (szBuf : List UInt8) : List EngineEvent :=
  if session.nRecvDataType = 0 then [.handleHB]
  else if session.nRecvDataType = 1 ∧ session.hasTransPortEngineRecv then
    [.onTransPortEngineRecv session.socket
      (szBuf.take session.nNeedRecvDataLen)]
  else []

/-- Data completed while a body is expected; none when the call returns -1. -/
def ioRecvBody
    (session : IocpSession)
    (szRecvBuf : List UInt8)
    (now : Int) : Option IocpSession × List EngineEvent :=
  let core := session.toSessionCore
  let lenEvents := recvBufLocked []
  if session.missingBody = szRecvBuf.length then
    let copies := assembleCopies core.bodyBufLen core.recvBufs szRecvBuf
    (some (session.setCore (core.finishBody now)),
      lenEvents ++ copies ++ session.bodyEvents (core.bodyBuf szRecvBuf))
  else if session.missingBody < szRecvBuf.length then
    (some (session.setCore (core.pushRecvBuf szRecvBuf)),
      lenEvents ++ lenEvents ++ recvBufLocked [])
  else (none, lenEvents ++ lenEvents ++ lenEvents)

/-- Data completed while a header is expected; none when the call returns
-1. -/
def ioRecvHead
    (session : IocpSession)
    (szRecvBuf : List UInt8)
    (now : Int)
    (echoPosted : Bool) : Option IocpSession × List EngineEvent :=
  let core := session.toSessionCore
  let lenEvents := recvBufLocked []
  if session.missingHead < szRecvBuf.length then (none, lenEvents)
  else if szRecvBuf.length < session.missingHead then
    (some (session.setCore (core.pushRecvBuf szRecvBuf)),
      lenEvents ++ lenEvents ++ recvBufLocked [])
  else
    let headMsg := core.headBuf szRecvBuf
    let copies := assembleCopies sizeofHeadMsg core.recvBufs szRecvBuf
    let session := session.setCore (core.finishHead headMsg now)
    let events := lenEvents ++ lenEvents ++ lenEvents ++ copies
    if headTypeIs heartBeat headMsg then
      let handled := if 0 < headDataLen headMsg then [] else [.handleHB]
      let echo := session.ioSend headMsg sizeofHeadMsg echoPosted
      (some echo.1, events ++ handled ++ echo.2.1)
    else (some session, events)

/-- The part of `TcpSession_IORecv()` that looks at the received bytes. -/
def ioRecvData
    (session : IocpSession)
    (szRecvBuf : List UInt8)
    (now : Int)
    (echoPosted : Bool) : Option IocpSession × List EngineEvent :=
  if session.bIsHaveHead then
    if session.bIsRecvHead then session.ioRecvBody szRecvBuf now
    else session.ioRecvHead szRecvBuf now echoPosted
  else
    (some session,
      if session.hasTransPortEngineRecv then
        [.onTransPortEngineRecv session.socket szRecvBuf]
      else [])

/-- Clear the receive buffer. -/
def clearBuffer (session : IocpSession) : IocpSession :=
  { session with
    perIoContextRecv := { session.perIoContextRecv with
      dwRecvLen := 0
      szBuffer := [] } }

/-- The end of `TcpSession_IORecv()`: unless the data were refused the buffer is
cleared and the next receive is posted. -/
def ioRecvPost
    (session : IocpSession)
    (handled : Option IocpSession × List EngineEvent)
    (recvPosted : Bool) : IocpSession × List EngineEvent × Int :=
  match handled.1 with
  | none => (session, handled.2, -1)
  | some next =>
      let posted := next.clearBuffer.post recvPosted
      (posted.1, handled.2 ++ posted.2.1, posted.2.2)

/-- `TcpSession_IORecv()` on Windows. -/
def ioRecv
    (session : IocpSession)
    (now : Int)
    (echoPosted recvPosted : Bool) : IocpSession × List EngineEvent × Int :=
  let recv := session.perIoContextRecv
  let handled :=
    if recv.dwRecvLen = 0 then (some session, [])
    else
      session.ioRecvData (recv.szBuffer.take recv.dwRecvLen) now echoPosted
  session.ioRecvPost handled recvPosted

/-- The kernel has filled the buffer and the worker has stored the length. -/
def received (session : IocpSession) (szRecvBuf : List UInt8) : IocpSession :=
  { session with
    perIoContextRecv := { session.perIoContextRecv with
      dwRecvLen := szRecvBuf.length
      szBuffer := szRecvBuf } }

/-- A completed receive, handled by `TcpSession_IORecv()`. -/
def complete
    (session : IocpSession)
    (turn : IocpTurn) : IocpSession × List EngineEvent × Int :=
  (session.received turn.bytes).ioRecv turn.now turn.echoPosted turn.recvPosted

/-- The completions handled as long as no call returns a negative value. -/
def completeAll (session : IocpSession) : List IocpTurn → List EngineEvent × List Int
  | [] => ([], [])
  | turn :: turns =>
      let call := session.complete turn
      if call.2.2 < 0 then (call.2.1, [call.2.2])
      else
        let later := completeAll call.1 turns
        (call.2.1 ++ later.1, call.2.2 :: later.2)

/-- Every completion carries at most the posted length, and every receive is
posted. -/
def Posted : IocpSession → List IocpTurn → Prop
  | _, [] => True
  | session, turn :: turns =>
      turn.bytes.length ≤ session.perIoContextRecv.wsaBufLen ∧
        turn.recvPosted = true ∧
          (0 ≤ (session.complete turn).2.2 →
            Posted (session.complete turn).1 turns)

end IocpSession

end TransPortEngine
