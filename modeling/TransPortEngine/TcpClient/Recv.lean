import TransPortEngine.TcpClient.Defs

/-!
# Receiving on a client

`TcpClient_Recvfrom`: as long as the receive flag is set it asks the kernel for
exactly the bytes that the current header or body still lacks.
-/

namespace TransPortEngine

open MachineInt

/-- Results of `recv`. -/
inductive RecvResult
  | data (szRecvBuf : List UInt8) (nonempty : 0 < szRecvBuf.length)
  | closed
  | failed

/-- What the system calls of one iteration return: the `recv`, and the clock in
case a heartbeat is handled. -/
structure RecvfromTurn where
  recv : RecvResult
  now : Int

/-- The bytes received in a turn. -/
def RecvfromTurn.bytes (turn : RecvfromTurn) : List UInt8 :=
  match turn.recv with
  | .data szRecvBuf _ => szRecvBuf
  | _ => []

/-- The effect of one iteration, and whether it leaves the loop. -/
structure RecvfromPass where
  client : TcpClient
  events : List EngineEvent
  leaves : Bool

/-- A receive loop in progress or left. -/
structure RecvfromRun where
  client : TcpClient
  events : List EngineEvent
  left : Bool

namespace TcpClient

/-- `m_nNeedRecvDataLen - TcpClient_GetRecvCacheLen()`. -/
def missingBody (client : TcpClient) : Int :=
  signed32 (client.nNeedRecvDataLen - clientRecvCacheLen client.recvBufs)

/-- `sizeof(HEAD_MSG_T) - TcpClient_GetRecvCacheLen()`, a `size_t`. -/
def missingHead (client : TcpClient) : Nat :=
  unsigned64 (sizeofHeadMsg - clientRecvCacheLen client.recvBufs)

/-- The length passed to `recv`. -/
def recvRequest (client : TcpClient) : Nat :=
  if client.bIsHaveHead then
    if client.bIsRecvHead then unsigned64 client.missingBody
    else client.missingHead
  else maxBufferLen

/-- Keep a partial read. -/
def pushRecvBuf (client : TcpClient) (szRecvBuf : List UInt8) : TcpClient :=
  { client with recvBufs := client.recvBufs ++ [⟨szRecvBuf⟩] }

/-- The body assembled from the cache and the last read. -/
def bodyBuf (client : TcpClient) (szRecvBuf : List UInt8) : List UInt8 :=
  assembleBuf client.recvBufs
    (List.replicate client.nNeedRecvDataLen.toNat 0) szRecvBuf

/-- The header assembled from the cache and the last read. -/
def headBuf (client : TcpClient) (szRecvBuf : List UInt8) : List UInt8 :=
  assembleBuf client.recvBufs (List.replicate (sizeofHeadMsg + 1) 0) szRecvBuf

/-- Data received while a body is expected. -/
def recvBody
    (client : TcpClient)
    (szRecvBuf : List UInt8)
    (now : Int) : RecvfromPass :=
  let nRet : Int := szRecvBuf.length
  let lenEvents := recvBufLocked []
  if nRet = client.missingBody then
    let copies := assembleCopies client.nNeedRecvDataLen.toNat client.recvBufs
      szRecvBuf
    let szBuf := client.bodyBuf szRecvBuf
    let client := { client with recvBufs := [] }
    let handled :=
      if client.nMsgType = 0 then (client.handleHB now, [EngineEvent.handleHB])
      else if client.nMsgType = 1 ∧ client.hasTransPortEngineRecv then
        (client, [.onTransPortEngineRecv 0
          (szBuf.take client.nNeedRecvDataLen.toNat)])
      else (client, [])
    ⟨{ handled.1 with bIsRecvHead := false },
      lenEvents ++ copies ++ handled.2, false⟩
  else if client.missingBody < nRet then
    ⟨{ client with bIsRecvHead := false }, lenEvents ++ lenEvents, false⟩
  else
    ⟨client.pushRecvBuf szRecvBuf,
      lenEvents ++ lenEvents ++ lenEvents ++ recvBufLocked [], false⟩

/-- The state after a complete header, and whether it was an empty
heartbeat. -/
def finishHead
    (client : TcpClient)
    (headMsg : List UInt8)
    (now : Int) : TcpClient × Bool :=
  let client := { client with
    recvBufs := []
    nNeedRecvDataLen := signed32 (headDataLen headMsg) }
  if headTypeIs heartBeat headMsg then
    let client := { client with nMsgType := 0 }
    if client.nNeedRecvDataLen = 0 then (client.handleHB now, true)
    else ({ client with bIsRecvHead := true }, false)
  else if headTypeIs recvData headMsg then
    let client := { client with nMsgType := 1 }
    if 0 < client.nNeedRecvDataLen then
      ({ client with bIsRecvHead := true }, false)
    else (client, false)
  else (client, false)

/-- Data received while a header is expected. -/
def recvHead
    (client : TcpClient)
    (szRecvBuf : List UInt8)
    (now : Int) : RecvfromPass :=
  let nRet : Int := szRecvBuf.length
  let missing := signed32 client.missingHead
  let lenEvents := recvBufLocked []
  if nRet = missing then
    let copies := assembleCopies (sizeofHeadMsg + 1) client.recvBufs szRecvBuf
    let headMsg := (client.headBuf szRecvBuf).take sizeofHeadMsg
    let finished := client.finishHead headMsg now
    ⟨finished.1,
      lenEvents ++ copies ++ (if finished.2 then [.handleHB] else []), false⟩
  else if missing < nRet then ⟨client, lenEvents ++ lenEvents, false⟩
  else
    ⟨client.pushRecvBuf szRecvBuf,
      lenEvents ++ lenEvents ++ lenEvents ++ recvBufLocked [], false⟩

/-- Data received without framing. -/
def recvRaw (client : TcpClient) (szRecvBuf : List UInt8) : RecvfromPass :=
  ⟨client,
    if client.hasTransPortEngineRecv then
      [.onTransPortEngineRecv 0 szRecvBuf]
    else [], false⟩

/-- Data received in any mode. -/
def recvDataPass
    (client : TcpClient)
    (szRecvBuf : List UInt8)
    (now : Int) : RecvfromPass :=
  if client.bIsHaveHead then
    if client.bIsRecvHead then client.recvBody szRecvBuf now
    else client.recvHead szRecvBuf now
  else client.recvRaw szRecvBuf

/-- One iteration of the loop of `TcpClient_Recvfrom`. The length requested
from `recv` reads the cache first. What comes is taken to fit `szRecvBuf`, whose
size is no part of the request; when it does fit is the matter of
`ClientRequestsFit`. -/
def recvfromPass (client : TcpClient) (turn : RecvfromTurn) : RecvfromPass :=
  let requestEvents := if client.bIsHaveHead then recvBufLocked [] else []
  let pass :=
    match turn.recv with
    | .data szRecvBuf _ => client.recvDataPass szRecvBuf turn.now
    | .closed => ⟨client, [], true⟩
    | .failed => ⟨client, [], true⟩
  { pass with events :=
      requestEvents ++ [.read client.nSocket] ++ pass.events }

/-- `TcpClient_Recvfrom`. -/
def recvfrom (client : TcpClient) : List RecvfromTurn → RecvfromRun
  | [] => ⟨client, [], !client.bRecvFlag⟩
  | turn :: turns =>
      if client.bRecvFlag then
        let pass := client.recvfromPass turn
        if pass.leaves then ⟨pass.client, pass.events, true⟩
        else
          let run := recvfrom pass.client turns
          { run with events := pass.events ++ run.events }
      else ⟨client, [], true⟩

end TcpClient

end TransPortEngine
