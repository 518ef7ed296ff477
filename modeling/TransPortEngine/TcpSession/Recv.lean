import TransPortEngine.TcpSession.Send

/-!
# Receiving on a session

`TcpSession_IORecv()` on Linux: a loop that reads up to 1024 bytes at a time
until the socket is drained and then arms the descriptor again. Each iteration
is one pass over the framing state, and each pass takes what its system calls
returned from a turn.
-/

namespace TransPortEngine

open MachineInt

/-- Results of `read` into `szRecvBuf`. -/
inductive ReadResult
  | data (chunk : Chunk 1024)
  | closed
  | again
  | interrupted
  | failed

/-- Results for the writes of a heartbeat echo after which its send returns. -/
structure EchoOutcomes where
  outcomes : SendOutcomes
  returns : (ioSendLoop sizeofHeadMsg 0 outcomes.writes).1 ≠ .pending

/-- An echo whose `write` fails. -/
def EchoOutcomes.failed : EchoOutcomes where
  outcomes := ⟨[.failed], true⟩
  returns := by decide

/-- What the system calls of one iteration return: the `read`, the clock, the
sends of an echo and the final `epoll_ctl`. -/
structure RecvTurn where
  read : ReadResult
  now : Int
  echo : EchoOutcomes
  epollCtl : Bool

/-- The bytes read in a turn. -/
def RecvTurn.bytes (turn : RecvTurn) : List UInt8 :=
  match turn.read with
  | .data chunk => chunk.bytes
  | _ => []

/-- How an iteration of the receive loop ends. -/
inductive PassEnd
  | loop
  | leave (nRet : Int)
  deriving DecidableEq, Repr

/-- The effect of one iteration. -/
structure RecvPass where
  session : TcpSession
  events : List EngineEvent
  ending : PassEnd

namespace SessionCore

/-- `static_cast<int>(m_nNeedRecvDataLen - TcpSession_GetRecvCacheLen())`. -/
def missingBody (session : SessionCore) : Int :=
  signed32 (session.nNeedRecvDataLen -
    (sessionRecvCacheLen session.recvBufs : Nat))

/-- `static_cast<int>(sizeof(HEAD_MSG_T) - TcpSession_GetRecvCacheLen())`. -/
def missingHead (session : SessionCore) : Int :=
  signed32 (sizeofHeadMsg - (sessionRecvCacheLen session.recvBufs : Nat))

/-- Keep a partial read. -/
def pushRecvBuf (session : SessionCore) (szRecvBuf : List UInt8) : SessionCore :=
  { session with recvBufs := session.recvBufs ++ [⟨szRecvBuf⟩] }

@[simp] theorem cachedBytes_pushRecvBuf
    (session : SessionCore)
    (szRecvBuf : List UInt8) :
    cachedBytes (session.pushRecvBuf szRecvBuf).recvBufs =
      cachedBytes session.recvBufs ++ szRecvBuf :=
  cachedBytes_push _ _

/-- Size of the buffer allocated for a body, in `unsigned int` arithmetic. -/
def bodyBufLen (session : SessionCore) : Nat :=
  unsigned32 (session.nNeedRecvDataLen + 1)

/-- The body assembled from the cache and the last read. -/
def bodyBuf (session : SessionCore) (szRecvBuf : List UInt8) : List UInt8 :=
  assembleBuf session.recvBufs (List.replicate session.bodyBufLen 0) szRecvBuf

/-- The header assembled from the cache and the last read. -/
def headBuf (session : SessionCore) (szRecvBuf : List UInt8) : List UInt8 :=
  assembleBuf session.recvBufs (List.replicate sizeofHeadMsg 0) szRecvBuf

/-- The state after a body has been handed over. -/
def finishBody (session : SessionCore) (now : Int) : SessionCore :=
  let session := { session with recvBufs := [] }
  let session :=
    if session.nRecvDataType = 0 then session.headleHB now else session
  { session with bIsRecvHead := false, nNeedRecvDataLen := 0 }

/-- The members a recognised header sets. -/
def storeHead
    (session : SessionCore)
    (nRecvDataType : Int)
    (headMsg : List UInt8) : SessionCore :=
  { session with
    recvBufs := []
    nRecvDataType := nRecvDataType
    nNeedRecvDataLen := headDataLen headMsg
    uSaltValue := headSaltValue headMsg
    bIsRecvHead := decide (0 < headDataLen headMsg) || session.bIsRecvHead }

/-- The state after a complete header. -/
def finishHead
    (session : SessionCore)
    (headMsg : List UInt8)
    (now : Int) : SessionCore :=
  if headTypeIs heartBeat headMsg then
    let session := session.storeHead 0 headMsg
    if 0 < session.nNeedRecvDataLen then session else session.headleHB now
  else if headTypeIs recvData headMsg then session.storeHead 1 headMsg
  else { session with recvBufs := [] }

end SessionCore

namespace TcpSession

/-- The callback for a complete body of type 1, or the heartbeat handler for
type 0. -/
def bodyEvents (session : TcpSession) (szBuf : List UInt8) : List EngineEvent :=
  if session.nRecvDataType = 0 then [.handleHB]
  else if session.nRecvDataType = 1 ∧ session.hasTransPortEngineRecv then
    [.onTransPortEngineRecv session.nSocket
      (szBuf.take session.nNeedRecvDataLen)]
  else []

/-- Data read while a body is expected. -/
def ioRecvBody
    (session : TcpSession)
    (szRecvBuf : List UInt8)
    (now : Int) : RecvPass :=
  let nRet : Int := szRecvBuf.length
  let core := session.toSessionCore
  -- every comparison below calls `TcpSession_GetRecvCacheLen` again
  let lenEvents := recvBufLocked []
  if core.missingBody = nRet then
    let copies := assembleCopies core.bodyBufLen core.recvBufs szRecvBuf
    ⟨session.setCore (core.finishBody now),
      lenEvents ++ copies ++
        session.bodyEvents (core.bodyBuf szRecvBuf), .loop⟩
  else if core.missingBody < nRet then
    ⟨session.setCore (core.pushRecvBuf szRecvBuf),
      lenEvents ++ lenEvents ++ recvBufLocked [], .loop⟩
  else ⟨session, lenEvents ++ lenEvents ++ lenEvents, .leave (-1)⟩

/-- The answer to a header: a heartbeat is echoed. -/
def headEvents
    (session : TcpSession)
    (headMsg : List UInt8)
    (echo : EchoOutcomes) : List EngineEvent :=
  if headTypeIs heartBeat headMsg then
    (if 0 < headDataLen headMsg then [] else [.handleHB]) ++
      (session.ioSend (some headMsg) sizeofHeadMsg echo.outcomes).events
  else []

/-- Data read while a header is expected. -/
def ioRecvHead
    (session : TcpSession)
    (szRecvBuf : List UInt8)
    (now : Int)
    (echo : EchoOutcomes) : RecvPass :=
  let nRet : Int := szRecvBuf.length
  let core := session.toSessionCore
  let lenEvents := recvBufLocked []
  if core.missingHead < nRet then ⟨session, lenEvents, .leave (-1)⟩
  else if nRet < core.missingHead then
    ⟨session.setCore (core.pushRecvBuf szRecvBuf),
      lenEvents ++ lenEvents ++ recvBufLocked [], .loop⟩
  else
    let headMsg := core.headBuf szRecvBuf
    let copies := assembleCopies sizeofHeadMsg core.recvBufs szRecvBuf
    let session := session.setCore (core.finishHead headMsg now)
    ⟨session,
      lenEvents ++ lenEvents ++ lenEvents ++ copies ++
        session.headEvents headMsg echo, .loop⟩

/-- Data read without framing. -/
def ioRecvRaw (session : TcpSession) (szRecvBuf : List UInt8) : RecvPass :=
  ⟨session,
    if session.hasTransPortEngineRecv then
      [.onTransPortEngineRecv session.nSocket szRecvBuf]
    else [], .loop⟩

/-- Data read in any mode. -/
def ioRecvData
    (session : TcpSession)
    (szRecvBuf : List UInt8)
    (now : Int)
    (echo : EchoOutcomes) : RecvPass :=
  if session.bIsHaveHead then
    if session.bIsRecvHead then session.ioRecvBody szRecvBuf now
    else session.ioRecvHead szRecvBuf now echo
  else session.ioRecvRaw szRecvBuf

/-- One iteration of the loop of `TcpSession_IORecv()`, with the code behind
the loop when it is left by `break`. -/
def ioRecvPass (session : TcpSession) (turn : RecvTurn) : RecvPass :=
  let pass :=
    match turn.read with
    | .data chunk => session.ioRecvData chunk.bytes turn.now turn.echo
    | .closed => ⟨session, [], .leave (-1)⟩
    | .interrupted => ⟨session, [], .loop⟩
    | .failed => ⟨session, [], .leave (-2)⟩
    | .again =>
        let armed := session.modEvent turn.epollCtl
        ⟨session, armed.1, .leave (if armed.2 < 0 then -1 else 0)⟩
  { pass with events := .read session.nSocket :: pass.events }

end TcpSession

/-- A call of `TcpSession_IORecv()`: where it left the session, what it did,
its result, and the turns it did not use. -/
structure RecvCall where
  session : TcpSession
  events : List EngineEvent
  result : CallResult
  unused : List RecvTurn

/-- Repeated calls of `TcpSession_IORecv()`, with the results of those that
returned. -/
structure RecvCalls where
  session : TcpSession
  events : List EngineEvent
  results : List Int

namespace TcpSession

/-- `TcpSession_IORecv()`. -/
def ioRecv (session : TcpSession) : List RecvTurn → RecvCall
  | [] => ⟨session, [], .pending, []⟩
  | turn :: turns =>
      let pass := session.ioRecvPass turn
      match pass.ending with
      | .leave nRet => ⟨pass.session, pass.events, .returned nRet, turns⟩
      | .loop =>
          let call := ioRecv pass.session turns
          { call with events := pass.events ++ call.events }

/-- The calls a worker makes as long as none returns a negative value, one
iteration after the other; `ioRecvCalls_eq` says it call by call. -/
def ioRecvCalls (session : TcpSession) : List RecvTurn → RecvCalls
  | [] => ⟨session, [], []⟩
  | turn :: turns =>
      let pass := session.ioRecvPass turn
      match pass.ending with
      | .loop =>
          let calls := ioRecvCalls pass.session turns
          { calls with events := pass.events ++ calls.events }
      | .leave nRet =>
          if nRet < 0 then ⟨pass.session, pass.events, [nRet]⟩
          else
            let calls := ioRecvCalls pass.session turns
            { calls with
              events := pass.events ++ calls.events
              results := nRet :: calls.results }

/-- The repeated calls are calls of `TcpSession_IORecv()` one after another. -/
theorem ioRecvCalls_eq
    (session : TcpSession)
    (turns : List RecvTurn) :
    session.ioRecvCalls turns =
      let call := session.ioRecv turns
      match call.result with
      | .returned nRet =>
          if nRet < 0 then ⟨call.session, call.events, [nRet]⟩
          else
            let calls := call.session.ioRecvCalls call.unused
            ⟨calls.session, call.events ++ calls.events, nRet :: calls.results⟩
      | _ => ⟨call.session, call.events, []⟩ := by
  induction turns generalizing session with
  | nil => rfl
  | cons turn turns inductionHypothesis =>
      rw [ioRecvCalls, ioRecv]
      cases ending : (session.ioRecvPass turn).ending with
      | leave nRet => rfl
      | loop =>
          simp only [inductionHypothesis]
          cases ((session.ioRecvPass turn).session.ioRecv turns).result with
          | returned nRet =>
              by_cases negative : nRet < 0
              · simp only [if_pos negative]
              · simp only [if_neg negative, List.append_assoc]
          | pending => rfl
          | fault => rfl

end TcpSession

end TransPortEngine
