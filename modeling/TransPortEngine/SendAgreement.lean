import TransPortEngine.Sdk
import TransPortEngine.TcpClient.Delivery

/-!
# The two server send functions

Sending by session id leaves out the framing: `AcceptSession_SendData` hands the
payload to the raw send where `TransPortEngine_ServerSendTo` goes through
`TcpSession_SendData`. The two functions agree on unframed sessions only.
-/

namespace TransPortEngine

open MachineInt

/-- A peer that receives these bytes on a fresh framed connection, in whatever
pieces, delivers exactly this payload. -/
def PeerDecodes (wireBytes payload : List UInt8) : Prop :=
  ∀ (client : TcpClient) (turns : List RecvfromTurn),
    client.AtFrameStart → (∀ turn ∈ turns, turn.OfStream) →
      client.Granted turns → turns.flatMap RecvfromTurn.bytes = wireBytes →
        deliveries (client.recvfrom turns).events = [payload]

/-- The two entry points put the same bytes on the socket and return the same
result whatever `write` does, and in framed mode a completed send is a frame of
the payload. -/
structure SendsAgree
    (mgr : TcpSessionMgr)
    (memory : SessionMemory)
    (nSessionId : Int)
    (session : TcpSession)
    (payload : List UInt8) : Prop where
  bytes : ∀ outcomes,
    written (serverSendData mgr memory nSessionId payload.length payload
        outcomes).events =
      written (serverSendTo session payload.length payload outcomes).events
  result : ∀ outcomes,
    (serverSendData mgr memory nSessionId payload.length payload
        outcomes).result =
      (serverSendTo session payload.length payload outcomes).result
  framed : ∀ outcomes, session.bIsHaveHead = true →
    (serverSendTo session payload.length payload outcomes).result =
        .returned 0 →
      PeerDecodes
        (written
          (serverSendTo session payload.length payload outcomes).events)
        payload

/-- Reducing a result twice is reducing it once. -/
theorem CallResult.reduce_reduce (result : CallResult) :
    result.reduce.reduce = result.reduce := by
  cases result with
  | returned nRet =>
      rw [CallResult.reduce]
      by_cases negative : nRet < 0
      · simp [CallResult.reduce, negative]
      · simp [CallResult.reduce, negative]
  | pending => rfl
  | fault => rfl

/-- Sending by id is a raw send on the session that is found. -/
theorem serverSendData_of_found
    {mgr : TcpSessionMgr}
    {memory : SessionMemory}
    {nSessionId : Int}
    {address nSendDataLen : Nat}
    {szSendData : List UInt8}
    {outcomes : SendOutcomes}
    {run : SendRun}
    (found : mgr.findSession nSessionId = some address)
    (sent : (memory address).ioSend (some szSendData) (signed32 nSendDataLen)
      outcomes = run) :
    let report := serverSendData mgr memory nSessionId nSendDataLen szSendData
      outcomes
    written report.events = written run.events ∧
      report.result = run.result.reduce := by
  have report : serverSendData mgr memory nSessionId nSendDataLen szSendData
      outcomes = ⟨tcpSessionMgrLocked [] ++ run.events, run.result.reduce⟩ := by
    simp only [serverSendData, acceptSessionSendData, found, sent,
      CallResult.reduce_reduce]
  rw [report]
  exact ⟨written_append _ _, rfl⟩

/-- Sending on a session is a framing send. -/
theorem serverSendTo_eq
    {session : TcpSession}
    {nSendDataLen : Nat}
    {szSendData : List UInt8}
    {outcomes : SendOutcomes}
    {run : SendRun}
    (sent : session.sendData szSendData (signed32 nSendDataLen) outcomes =
      run) :
    let report := serverSendTo session nSendDataLen szSendData outcomes
    written report.events = written run.events ∧
      report.result = run.result.reduce := by
  subst sent
  exact ⟨rfl, rfl⟩

/-- A single write that accepts a given number of bytes. -/
def acceptOnce (count : Nat) : SendOutcomes :=
  ⟨[.accepted count], true⟩

theorem ioSendLoop_acceptOnce
    {nDataLen count : Nat}
    (nonempty : 0 < nDataLen)
    (within : count ≤ nDataLen) :
    ioSendLoop nDataLen 0 (acceptOnce count).writes =
      (if count < nDataLen then .pending else .exited, count) := by
  simp [acceptOnce, ioSendLoop, ioSendStep, nonempty, within]

/-- A raw send whose first write takes everything is complete. -/
theorem ioSend_acceptOnce
    (session : TcpSession)
    {payload : List UInt8}
    (nonempty : 0 < payload.length) :
    (session.ioSend (some payload) payload.length
      (acceptOnce payload.length)).result = .returned 0 := by
  rw [session.ioSend_eq _ (by omega) rfl,
    ioSendLoop_acceptOnce nonempty le_rfl, if_neg (lt_irrefl _)]
  rfl

/-- Under the same write result a framed send of the payload is not
complete. -/
theorem sendData_acceptOnce
    {session : TcpSession}
    (framed : session.bIsHaveHead = true)
    {payload : List UInt8}
    (nonempty : 0 < payload.length)
    (fitsInt : payload.length < 2147483648) :
    (session.sendData payload payload.length
      (acceptOnce payload.length)).result.reduce ≠ .returned 0 := by
  rw [TcpSession.sendData, if_pos framed, if_neg (by omega), frameBuf_eq rfl]
  have length : (dataHeadMsg payload.length ++ payload).length =
      payload.length + sizeofHeadMsg := by
    rw [List.length_append, length_dataHeadMsg, Nat.add_comm]
  by_cases frameFits : payload.length + sizeofHeadMsg < 2147483648
  · have size : signed32 ((payload.length : Int) + sizeofHeadMsg) =
        ((payload.length + sizeofHeadMsg : Nat) : Int) := by
      rw [signed32_of_range (by omega) (by omega)]
      push_cast
      rfl
    have headPositive : 0 < sizeofHeadMsg := by decide
    rw [size, session.ioSend_eq _ (by omega) (by rw [length]), length,
      ioSendLoop_acceptOnce (by omega) (by omega), if_pos (by omega)]
    exact CallResult.noConfusion
  · have negative : signed32 ((payload.length : Int) + sizeofHeadMsg) ≤ 0 := by
      unfold signed32 sizeofHeadMsg at *
      omega
    rw [session.ioSend_nonpos _ _ negative]
    simp [CallResult.reduce]

/-- The two entry points agree on a payload exactly when the session is not
framed. -/
theorem sendsAgree_iff_unframed
    (mgr : TcpSessionMgr)
    (memory : SessionMemory)
    (nSessionId : Int)
    (address : Nat)
    (payload : List UInt8)
    (found : mgr.findSession nSessionId = some address)
    (nonempty : 0 < payload.length)
    (fitsUnsigned : payload.length < 4294967296) :
    SendsAgree mgr memory nSessionId (memory address) payload ↔
      (memory address).bIsHaveHead = false := by
  constructor
  · intro agree
    by_contra notUnframed
    have framed : (memory address).bIsHaveHead = true := by
      simpa using notUnframed
    have sameResult := agree.result (acceptOnce payload.length)
    rw [(serverSendData_of_found found rfl).2, (serverSendTo_eq rfl).2]
      at sameResult
    by_cases fitsInt : payload.length < 2147483648
    · have size : signed32 payload.length = payload.length :=
        signed32_of_range (by omega) (by omega)
      rw [size, ioSend_acceptOnce _ nonempty] at sameResult
      exact sendData_acceptOnce framed nonempty fitsInt sameResult.symm
    · have negative : signed32 payload.length < 0 := by
        unfold signed32
        omega
      rw [TcpSession.ioSend_nonpos _ _ _ (Int.le_of_lt negative),
        TcpSession.sendData, if_pos framed, if_pos negative] at sameResult
      simp [CallResult.reduce] at sameResult
  · intro unframed
    have raw : ∀ outcomes,
        (memory address).sendData payload (signed32 payload.length) outcomes =
          (memory address).ioSend (some payload) (signed32 payload.length)
            outcomes := by
      intro outcomes
      rw [TcpSession.sendData, unframed, if_neg Bool.false_ne_true]
    refine ⟨?_, ?_, ?_⟩
    · intro outcomes
      rw [(serverSendData_of_found found rfl).1,
        (serverSendTo_eq (raw outcomes)).1]
    · intro outcomes
      rw [(serverSendData_of_found found rfl).2,
        (serverSendTo_eq (raw outcomes)).2]
    · intro outcomes framed
      rw [unframed] at framed
      contradiction

/-! ### One letter on a framed and on an unframed session -/

/-- A session of an unframed connection. -/
def rawSession : TcpSession :=
  ((TcpSession.construct ⟨false, false, 0, 0⟩ 4096 0).init
    ⟨7, true, true, true, false, true⟩).1

/-- A manager that knows one session, by the socket 7. -/
def oneSessionMgr : TcpSessionMgr :=
  (TcpSessionMgr.mk true ∅).addSession 7 4096

theorem sendsAgree_rawSession :
    SendsAgree oneSessionMgr (fun _ => rawSession) 7 rawSession [0x41] :=
  (sendsAgree_iff_unframed oneSessionMgr (fun _ => rawSession) 7 4096 [0x41]
    (by decide) (by decide) (by decide)).mpr rfl

/-- On a framed session the payload sent by id arrives without a header. -/
theorem not_sendsAgree_framedSession :
    ¬∀ (mgr : TcpSessionMgr) (memory : SessionMemory) (nSessionId : Int)
        (address : Nat) (payload : List UInt8),
      mgr.findSession nSessionId = some address → 0 < payload.length →
        payload.length < 4294967296 →
          SendsAgree mgr memory nSessionId (memory address) payload := by
  intro always
  have agree := always oneSessionMgr (fun _ => TcpSession.framedSession) 7 4096
    [0x41] (by decide) (by decide) (by decide)
  have same := agree.bytes ⟨[.accepted 9], true⟩
  have byId : written (serverSendData oneSessionMgr
      (fun _ => TcpSession.framedSession) 7 1 [0x41]
        ⟨[.accepted 9], true⟩).events = [0x41] := by
    decide
  have direct : written (serverSendTo TcpSession.framedSession 1 [0x41]
      ⟨[.accepted 9], true⟩).events = [0x44, 0x54, 0, 0, 0, 0, 0, 1, 0x41] := by
    decide
  rw [List.length_singleton, byId, direct] at same
  contradiction

end TransPortEngine
