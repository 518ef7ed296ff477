import TransPortEngine.HeadMsg
import TransPortEngine.RecvCache

/-!
# Clients

`CTcpClient` on Linux: its members, its constructor, and the functions that
send. The thread handles and the server address are left out; no modelled
function looks at them.
-/

namespace TransPortEngine

open MachineInt

/-- A client. `nLinkStatus` is a `bool` that holds one of the two message
codes. -/
structure TcpClient where
  nSocket : Int
  nLinkStatus : MsgType
  bRecvFlag : Bool
  tHeartbeatTimeStamp : Int
  nMsgType : Int
  bHeartbeatFlag : Bool
  hasTransPortEngineRecv : Bool
  bIsHaveHB : Bool
  bIsHaveHead : Bool
  bIsRecvHead : Bool
  nHeartBeatInterval : Int
  nNeedRecvDataLen : Int
  recvBufs : List BufInfo
  deriving DecidableEq, Repr

/-- The members the constructor leaves uninitialised. -/
structure ClientGarbage where
  nSocket : Int
  tHeartbeatTimeStamp : Int
  nMsgType : Int
  deriving DecidableEq, Repr

namespace TcpClient

/-- The constructor. -/
def construct (garbage : ClientGarbage) : TcpClient where
  nSocket := garbage.nSocket
  nLinkStatus := .disconnect
  bRecvFlag := true
  tHeartbeatTimeStamp := garbage.tHeartbeatTimeStamp
  nMsgType := garbage.nMsgType
  bHeartbeatFlag := true
  hasTransPortEngineRecv := false
  bIsHaveHB := false
  bIsHaveHead := false
  bIsRecvHead := false
  nHeartBeatInterval := 5000
  nNeedRecvDataLen := 0
  recvBufs := []

/-- The members `TcpClient_SocketInit` stores before it starts a thread. -/
def configure
    (client : TcpClient)
    (bIsHaveHead bIsHaveHB : Bool)
    (nHeartBeatInterval : Int) : TcpClient :=
  { client with
    hasTransPortEngineRecv := true
    bIsHaveHB := bIsHaveHB
    bIsHaveHead := bIsHaveHead
    nHeartBeatInterval := nHeartBeatInterval }

/-- `TcpClient_SessionTimeout`. -/
def sessionTimeout (client : TcpClient) (now : Int) : Bool :=
  decide (heartbeatTimeout ≤ now - client.tHeartbeatTimeStamp)

/-- `TcpClient_HandleHB`. -/
def handleHB (client : TcpClient) (now : Int) : TcpClient :=
  { client with tHeartbeatTimeStamp := now }

/-- A notification of a client, sent when there is a receiver for it. -/
def notify (client : TcpClient) (nMsgType : MsgType) : List EngineEvent :=
  if client.hasTransPortEngineRecv then
    [.onTransPortEngineNotify 0 nMsgType]
  else []

/-- The bytes `TcpClient_SocketSendMsg` offers to `send`. -/
def socketSendMsg (sendBuf : List UInt8) (nBufLen : Int) : List UInt8 :=
  sendBuf.take (unsigned64 nBufLen)

/-- The bytes `TcpClient_SendData` offers to `send`; none when a negative
length becomes a huge `size_t` in the copy of the payload. -/
def sendData
    (client : TcpClient)
    (szSendBuf : List UInt8)
    (nBufLen : Int) : Option (List UInt8) :=
  if client.bIsHaveHead then
    if nBufLen < 0 then none
    else
      some (socketSendMsg (frameBuf szSendBuf nBufLen)
        (signed32 (nBufLen + sizeofHeadMsg)))
  else some (socketSendMsg szSendBuf nBufLen)

/-- The bytes of a heartbeat of `TcpClient_KeepSessionAlive`. -/
def sendHeartbeat : List UInt8 :=
  socketSendMsg heartbeatHeadMsg (sizeofHeadMsg + 0)

/-- The bytes offered for a payload are its frame. -/
theorem sendData_payload
    {client : TcpClient}
    (framed : client.bIsHaveHead = true)
    (payload : Payload) :
    client.sendData payload.bytes payload.bytes.length =
      some (dataFrame payload).symbols := by
  have small := payload.fitsInt
  have frame : frameBuf payload.bytes payload.bytes.length =
      (dataFrame payload).symbols := frameBuf_eq rfl
  have length : (dataFrame payload).symbols.length =
      payload.bytes.length + sizeofHeadMsg := by
    simp [Framing.Frame.symbols, dataFrame, Nat.add_comm]
  have size : signed32 ((payload.bytes.length : Int) + sizeofHeadMsg) =
      ((payload.bytes.length + sizeofHeadMsg : Nat) : Int) := by
    rw [signed32_of_range (by omega) (by omega)]
    push_cast
    rfl
  rw [sendData, if_pos framed, if_neg (by omega), frame, socketSendMsg, size,
    unsigned64_natCast (by omega), ← length, List.take_length]

theorem sendHeartbeat_eq :
    sendHeartbeat = (heartbeatFrame clientHeartbeat).symbols := by decide

end TcpClient

end TransPortEngine
