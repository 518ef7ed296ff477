import TransPortEngine.Sdk
import TransPortEngine.TcpClient.Defs

/-!
# Short counts on a client

`TcpClient_SendData` returns what `send` returns, and
`TransPortEngine_ClientSendData` looks only at the sign. There is no loop that
sends the rest: a count below the length of the frame is a success of which the
peer has a part. The heartbeats of the client go out on the same socket between
the calls.
-/

namespace TransPortEngine

open MachineInt

/-- What `send` returns. -/
inductive SendResult
  | sent (count : Nat)
  | failed
  deriving DecidableEq, Repr

namespace SendResult

/-- The result as the `int` the client keeps. -/
def nRet : SendResult → Int
  | .sent count => signed32 count
  | .failed => -1

/-- The bytes the socket has taken of those offered. -/
def accepted (result : SendResult) (offered : List UInt8) : List UInt8 :=
  match result with
  | .sent count => offered.take count
  | .failed => []

end SendResult

namespace TcpClient

/-- `TcpClient_SocketSendMsg` on some bytes, with its result. -/
def sendMsg
    (client : TcpClient)
    (offered : List UInt8)
    (result : SendResult) : SendReport :=
  ⟨[.write client.nSocket (result.accepted offered)], .returned result.nRet⟩

/-- `TransPortEngine_ClientSendData` on a client. -/
def clientSendData
    (client : TcpClient)
    (nSendDataLen : Nat)
    (szSendData : List UInt8)
    (result : SendResult) : SendReport :=
  match client.sendData szSendData (signed32 nSendDataLen) with
  | none => ⟨[], .fault⟩
  | some offered =>
      let report := client.sendMsg offered result
      { report with result := report.result.reduce }

/-- The bytes that carry a payload: its frame, or the payload itself. -/
def payloadBytes (client : TcpClient) (szSendData : List UInt8) : List UInt8 :=
  if client.bIsHaveHead then dataHeadMsg szSendData.length ++ szSendData
  else szSendData

end TcpClient

/-- A call of the application, or a heartbeat of the heartbeat thread. -/
inductive ClientCall
  | data
      (szSendData : List UInt8)
      (fits : szSendData.length < 4294967296)
      (result : SendResult)
  | heartbeat (result : SendResult)

namespace ClientCall

/-- What a call does, and what it returns. -/
def report (client : TcpClient) : ClientCall → SendReport
  | .data szSendData _ result =>
      client.clientSendData szSendData.length szSendData result
  | .heartbeat result => client.sendMsg TcpClient.sendHeartbeat result

/-- The bytes a call puts on the socket. -/
def output (client : TcpClient) (call : ClientCall) : List UInt8 :=
  written (call.report client).events

/-- A count below the length of the frame that is not negative as an `int`, from
a call that has not run into the arithmetic of the length. -/
def Short (client : TcpClient) : ClientCall → Prop
  | .data szSendData _ result =>
      ∃ count, result = .sent count ∧ count < 2147483648 ∧
        count < (client.payloadBytes szSendData).length ∧
          (client.bIsHaveHead = true → szSendData.length < 2147483648)
  | .heartbeat _ => False

end ClientCall

/-- The bytes on the socket after some calls. -/
def clientWire (client : TcpClient) (calls : List ClientCall) : List UInt8 :=
  calls.flatMap (ClientCall.output client)

/-- Every call of the application that returns 0 has put its whole frame on the
socket, between the bytes of the calls before and behind it. -/
def SendsWhole (client : TcpClient) (calls : List ClientCall) : Prop :=
  ∀ before szSendData fits result after,
    calls = before ++ .data szSendData fits result :: after →
      (client.clientSendData szSendData.length szSendData result).result =
          .returned 0 →
        clientWire client calls =
          clientWire client before ++ client.payloadBytes szSendData ++
            clientWire client after

/-! ## One call -/

section Call

variable {client : TcpClient} {szSendData : List UInt8}

/-- A length that is no `int` reaches the socket only without framing. -/
theorem sendData_eq
    (client : TcpClient)
    (fits : szSendData.length < 4294967296) :
    client.sendData szSendData (signed32 szSendData.length) =
      if client.bIsHaveHead = true ∧ 2147483648 ≤ szSendData.length then none
      else some (client.payloadBytes szSendData) := by
  by_cases small : szSendData.length < 2147483648
  · have length : signed32 (szSendData.length : Int) = szSendData.length :=
      signed32_of_range (by omega) (by omega)
    rw [if_neg (by omega), length, TcpClient.sendData]
    by_cases framed : client.bIsHaveHead = true
    · have frame : frameBuf szSendData szSendData.length =
          dataHeadMsg szSendData.length ++ szSendData := frameBuf_eq rfl
      have long : (dataHeadMsg szSendData.length ++ szSendData).length ≤
          unsigned64 (signed32 (szSendData.length + sizeofHeadMsg)) := by
        rw [List.length_append, length_dataHeadMsg]
        unfold unsigned64 signed32 sizeofHeadMsg
        omega
      rw [if_pos framed, if_neg (by omega), frame, TcpClient.socketSendMsg,
        List.take_of_length_le long, TcpClient.payloadBytes, if_pos framed]
    · have long : szSendData.length ≤ unsigned64 szSendData.length := by
        rw [unsigned64_natCast (by omega)]
      rw [if_neg framed, TcpClient.socketSendMsg, List.take_of_length_le long,
        TcpClient.payloadBytes, if_neg framed]
  · have negative : signed32 (szSendData.length : Int) < 0 := by
      unfold signed32
      omega
    by_cases framed : client.bIsHaveHead = true
    · rw [if_pos ⟨framed, by omega⟩, TcpClient.sendData, if_pos framed,
        if_pos negative]
    · have long : szSendData.length ≤
          unsigned64 (signed32 szSendData.length) := by
        unfold unsigned64 signed32
        omega
      rw [if_neg (fun both => framed both.1), TcpClient.sendData,
        if_neg framed, TcpClient.socketSendMsg, List.take_of_length_le long,
        TcpClient.payloadBytes, if_neg framed]

/-- What a call does that has not run into the arithmetic of the length. -/
theorem clientSendData_eq
    (fits : szSendData.length < 4294967296)
    (regular : client.bIsHaveHead = true → szSendData.length < 2147483648)
    (result : SendResult) :
    client.clientSendData szSendData.length szSendData result =
      ⟨[.write client.nSocket
          (result.accepted (client.payloadBytes szSendData))],
        (CallResult.returned result.nRet).reduce⟩ := by
  have offered : client.sendData szSendData (signed32 szSendData.length) =
      some (client.payloadBytes szSendData) := by
    rw [sendData_eq client fits, if_neg]
    rintro ⟨framed, large⟩
    exact absurd (regular framed) (not_lt.mpr large)
  simp only [TcpClient.clientSendData, offered, TcpClient.sendMsg]

/-- A call that returns does not run into the arithmetic of the length. -/
theorem regular_of_returned
    {result : SendResult}
    {nRet : Int}
    (fits : szSendData.length < 4294967296)
    (returned :
      (client.clientSendData szSendData.length szSendData result).result =
        .returned nRet)
    (framed : client.bIsHaveHead = true) :
    szSendData.length < 2147483648 := by
  by_contra large
  have faulty : client.sendData szSendData (signed32 szSendData.length) =
      none := by
    rw [sendData_eq client fits, if_pos ⟨framed, not_lt.mp large⟩]
  simp only [TcpClient.clientSendData, faulty] at returned
  contradiction

theorem reduce_returned_iff (nRet : Int) :
    (CallResult.returned nRet).reduce = .returned 0 ↔ 0 ≤ nRet := by
  unfold CallResult.reduce
  split
  · rename_i other isReturned
    rw [CallResult.returned.injEq] at isReturned
    subst isReturned
    split
    · rename_i negative
      simp [negative]
    · rename_i nonnegative
      simp [not_lt.mp nonnegative]
  · contradiction
  · contradiction

/-- The bytes a returned call puts on the socket. -/
theorem output_data
    (fits : szSendData.length < 4294967296)
    (regular : client.bIsHaveHead = true → szSendData.length < 2147483648)
    (result : SendResult) :
    (ClientCall.data szSendData fits result).output client =
      result.accepted (client.payloadBytes szSendData) := by
  rw [ClientCall.output, ClientCall.report,
    clientSendData_eq fits regular result]
  exact List.append_nil _

/-- A short count is a success with a part of the frame. -/
theorem clientSendData_of_short
    {fits : szSendData.length < 4294967296}
    {result : SendResult}
    (short : (ClientCall.data szSendData fits result).Short client) :
    (client.clientSendData szSendData.length szSendData result).result =
        .returned 0 ∧
      ((ClientCall.data szSendData fits result).output client).length <
        (client.payloadBytes szSendData).length := by
  obtain ⟨count, rfl, small, below, regular⟩ := short
  rw [output_data fits regular, clientSendData_eq fits regular,
    reduce_returned_iff]
  constructor
  · rw [SendResult.nRet, signed32_of_range (by omega) (by omega)]
    omega
  · rw [SendResult.accepted, List.length_take]
    omega

/-- Any other success has put the whole frame on the socket. -/
theorem output_of_not_short
    {fits : szSendData.length < 4294967296}
    {result : SendResult}
    (long : ¬(ClientCall.data szSendData fits result).Short client)
    (succeeds :
      (client.clientSendData szSendData.length szSendData result).result =
        .returned 0) :
    (ClientCall.data szSendData fits result).output client =
      client.payloadBytes szSendData := by
  have regular := regular_of_returned fits succeeds
  rw [clientSendData_eq fits regular, reduce_returned_iff] at succeeds
  rw [output_data fits regular]
  cases result with
  | failed => contradiction
  | sent count =>
      apply List.take_of_length_le
      by_contra short
      have length : (client.payloadBytes szSendData).length < 4294967296 := by
        unfold TcpClient.payloadBytes
        split
        · rename_i framed
          have small := regular framed
          rw [List.length_append, length_dataHeadMsg]
          unfold sizeofHeadMsg
          omega
        · exact fits
      refine long ⟨count, rfl, ?_, not_le.mp short, regular⟩
      have nonnegative : 0 ≤ signed32 (count : Int) := succeeds
      unfold signed32 at nonnegative
      omega

end Call

/-! ## All calls -/

/-- Success means a whole frame exactly if no call gets a short count. -/
theorem sendsWhole_iff (client : TcpClient) (calls : List ClientCall) :
    SendsWhole client calls ↔ ∀ call ∈ calls, ¬call.Short client := by
  constructor
  · intro whole call member short
    obtain ⟨before, after, rfl⟩ := List.append_of_mem member
    cases call with
    | heartbeat result => exact short
    | data szSendData fits result =>
        obtain ⟨succeeds, below⟩ := clientSendData_of_short short
        have same := whole before szSendData fits result after rfl succeeds
        have lengths := congrArg List.length same
        simp only [clientWire, List.flatMap_append, List.flatMap_cons,
          List.length_append] at lengths
        omega
  · intro long before szSendData fits result after split succeeds
    have outputs := output_of_not_short
      (long (.data szSendData fits result) (by rw [split]; simp)) succeeds
    rw [split]
    simp only [clientWire, List.flatMap_append, List.flatMap_cons, outputs,
      List.append_assoc]

/-- A frame of nine bytes of which the socket takes four, and a heartbeat behind
it. -/
theorem not_sendsWhole_short :
    ¬∀ (client : TcpClient) (calls : List ClientCall),
      SendsWhole client calls := by
  intro always
  have same := always ((TcpClient.construct ⟨3, 0, 0⟩).configure true true 5)
    [.data [0x41] (by decide) (.sent 4), .heartbeat (.sent 8)] [] [0x41]
    (by decide) (.sent 4) [.heartbeat (.sent 8)] rfl (by decide)
  exact absurd same (by decide)

end TransPortEngine
