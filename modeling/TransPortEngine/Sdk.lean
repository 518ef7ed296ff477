import TransPortEngine.TcpSession.Send
import TransPortEngine.TcpSessionMgr

/-!
# The send functions of the library interface

`TransPortEngine_ServerSendData` finds a session by its id and sends on it;
`TransPortEngine_ServerSendTo` takes the session itself. Both reduce the result
to 0 or -2.
-/

namespace TransPortEngine

open MachineInt

/-- A negative result becomes -2 and any other result 0. -/
def CallResult.reduce : CallResult → CallResult
  | .returned nRet => .returned (if nRet < 0 then -2 else 0)
  | .pending => .pending
  | .fault => .fault

/-- What a send through the interface did, and its result. -/
structure SendReport where
  events : List EngineEvent
  result : CallResult

/-- `CAcceptSession::AcceptSession_SendData`. -/
def acceptSessionSendData
    (mgr : TcpSessionMgr)
    (memory : SessionMemory)
    (nSessionId : Int)
    (nSendDataLen : Nat)
    (szSendData : List UInt8)
    (outcomes : SendOutcomes) : SendReport :=
  match mgr.findSession nSessionId with
  | none => ⟨tcpSessionMgrLocked [], .returned (-1)⟩
  | some address =>
      let run := (memory address).ioSend (some szSendData)
        (signed32 nSendDataLen) outcomes
      ⟨tcpSessionMgrLocked [] ++ run.events, run.result.reduce⟩

/-- `TransPortEngine_ServerSendData` on a server. -/
def serverSendData
    (mgr : TcpSessionMgr)
    (memory : SessionMemory)
    (nSessionId : Int)
    (nSendDataLen : Nat)
    (szSendData : List UInt8)
    (outcomes : SendOutcomes) : SendReport :=
  let report := acceptSessionSendData mgr memory nSessionId nSendDataLen
    szSendData outcomes
  { report with result := report.result.reduce }

/-- `TransPortEngine_ServerSendTo` on a session. -/
def serverSendTo
    (session : TcpSession)
    (nSendDataLen : Nat)
    (szSendData : List UInt8)
    (outcomes : SendOutcomes) : SendReport :=
  let run := session.sendData szSendData (signed32 nSendDataLen) outcomes
  ⟨run.events, run.result.reduce⟩

end TransPortEngine
