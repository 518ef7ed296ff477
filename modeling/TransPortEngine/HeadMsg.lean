import TransPortEngine.Library.BigEndian
import TransPortEngine.Library.Buffer
import TransPortEngine.Library.Framing
import TransPortEngine.Library.MachineInt

/-!
# The frame header

`HEAD_MSG_T` as it lies in memory: two type characters, a 16-bit salt and a
32-bit length, eight bytes without padding. The tags `HEART_BEAT` and
`RECV_DATA` are string literals, so `sizeof` counts their terminating zero:
writing a tag and comparing with a tag both touch three bytes, the third being
the first byte of the salt.
-/

namespace TransPortEngine

open MachineInt

/-- `sizeof(HEAD_MSG_T)`. -/
def sizeofHeadMsg : Nat := 8

theorem sizeofHeadMsg_pos : 0 < sizeofHeadMsg := by decide

/-- The bytes of the literal `HEART_BEAT`. -/
def heartBeat : List UInt8 := [0x48, 0x42, 0]

/-- The bytes of the literal `RECV_DATA`. -/
def recvData : List UInt8 := [0x44, 0x54, 0]

/-- Memory image of `htonl` of a 32-bit value. -/
def htonl (value : Int) : List UInt8 :=
  BigEndian.encode 4 (unsigned32 value)

/-- Memory image of `htons` of a 16-bit value. -/
def htons (value : Nat) : List UInt8 :=
  BigEndian.encode 2 value

/-- The header both `SendData` functions put before a payload. -/
def dataHeadMsg (nDataLen : Int) : List UInt8 :=
  let headMsg := List.replicate sizeofHeadMsg 0
  let headMsg := Buffer.overwrite headMsg 4 (htonl nDataLen)
  let headMsg := Buffer.overwrite headMsg 2 (htons 0)
  Buffer.overwrite headMsg 0 recvData

/-- The header `TcpClient_KeepSessionAlive` sends as a heartbeat; its length
and salt are stored without byte swapping. -/
def heartbeatHeadMsg : List UInt8 :=
  let msgHead := List.replicate sizeofHeadMsg 0
  let msgHead := Buffer.overwrite msgHead 0 heartBeat
  let msgHead := Buffer.overwrite msgHead 4 [0, 0, 0, 0]
  Buffer.overwrite msgHead 2 [0, 0]

/-- `!memcmp(pHeadMsg->szHeadType, tag, sizeof(tag))`. -/
def headTypeIs (tag headMsg : List UInt8) : Bool :=
  headMsg.take tag.length == tag

/-- `ntohl(pHeadMsg->nDataLen)`. -/
def headDataLen (headMsg : List UInt8) : Nat :=
  BigEndian.decode ((headMsg.drop 4).take 4)

/-- `ntohs(pHeadMsg->uSaltValue)`. -/
def headSaltValue (headMsg : List UInt8) : Nat :=
  BigEndian.decode ((headMsg.drop 2).take 2)

theorem headDataLen_lt (headMsg : List UInt8) :
    headDataLen headMsg < 4294967296 := by
  have bound := BigEndian.decode_lt ((headMsg.drop 4).take 4)
  have short : ((headMsg.drop 4).take 4).length ≤ 4 := by simp
  calc
    headDataLen headMsg < 256 ^ ((headMsg.drop 4).take 4).length := bound
    _ ≤ 256 ^ 4 := Nat.pow_le_pow_right (by omega) short
    _ = 4294967296 := by norm_num

/-- The data header is the tag, a zero salt byte and the big-endian length. -/
theorem dataHeadMsg_eq (nDataLen : Int) :
    dataHeadMsg nDataLen =
      [0x44, 0x54, 0, 0] ++ BigEndian.encode 4 (unsigned32 nDataLen) := by
  simp [dataHeadMsg, htonl, htons, BigEndian.encode, Buffer.overwrite,
    sizeofHeadMsg, recvData]

@[simp] theorem length_dataHeadMsg (nDataLen : Int) :
    (dataHeadMsg nDataLen).length = sizeofHeadMsg := by
  simp [dataHeadMsg_eq, sizeofHeadMsg]

@[simp] theorem headTypeIs_heartBeat_dataHeadMsg (nDataLen : Int) :
    headTypeIs heartBeat (dataHeadMsg nDataLen) = false := by
  simp [dataHeadMsg_eq, headTypeIs, heartBeat]

@[simp] theorem headTypeIs_recvData_dataHeadMsg (nDataLen : Int) :
    headTypeIs recvData (dataHeadMsg nDataLen) = true := by
  simp [dataHeadMsg_eq, headTypeIs, recvData]

/-- The length field survives the conversion to network order and back. -/
theorem headDataLen_dataHeadMsg (nDataLen : Int) :
    headDataLen (dataHeadMsg nDataLen) = unsigned32 nDataLen := by
  have upper := unsigned32_lt nDataLen
  rw [headDataLen, dataHeadMsg_eq]
  simp only [List.drop_succ_cons, List.cons_append, List.nil_append,
    List.drop_zero]
  rw [List.take_of_length_le (by simp)]
  exact BigEndian.decode_encode_of_lt (by omega)

/-- The buffer both `SendData` functions fill with header and payload. -/
def frameBuf (szData : List UInt8) (nDataLen : Int) : List UInt8 :=
  let szBuf := List.replicate (nDataLen.toNat + sizeofHeadMsg) 0
  let szBuf := Buffer.overwrite szBuf 0 (dataHeadMsg nDataLen)
  Buffer.overwrite szBuf sizeofHeadMsg (szData.take nDataLen.toNat)

/-- The buffer of a framed send is header and payload. -/
theorem frameBuf_eq
    {szData : List UInt8}
    {nDataLen : Int}
    (lengthEq : nDataLen = szData.length) :
    frameBuf szData nDataLen = dataHeadMsg nDataLen ++ szData := by
  have whole : szData.take nDataLen.toNat = szData :=
    List.take_of_length_le (by omega)
  have headLength := length_dataHeadMsg nDataLen
  rw [frameBuf, whole]
  nth_rewrite 2 [← headLength]
  rw [Buffer.overwrite_overwrite_zero, Buffer.overwrite_full]
  simp only [List.length_append, length_dataHeadMsg, List.length_replicate]
  omega

/-! ## Frames on the wire -/

/-- The three ways the header branches classify a header. -/
inductive HeadKind
  | heartbeat
  | data
  | unknown
  deriving DecidableEq, Repr

/-- Classification of a header, in the order of the comparisons. -/
def headKind (headMsg : List UInt8) : HeadKind :=
  if headTypeIs heartBeat headMsg then .heartbeat
  else if headTypeIs recvData headMsg then .data
  else .unknown

theorem headTypeIs_of_headKind_heartbeat
    {headMsg : List UInt8}
    (kind : headKind headMsg = .heartbeat) :
    headTypeIs heartBeat headMsg = true := by
  by_contra other
  rw [headKind, if_neg other] at kind
  split at kind <;> contradiction

theorem headTypeIs_of_headKind_data
    {headMsg : List UInt8}
    (kind : headKind headMsg = .data) :
    headTypeIs heartBeat headMsg = false ∧
      headTypeIs recvData headMsg = true := by
  rw [headKind] at kind
  split at kind
  · contradiction
  · rename_i other
    split at kind
    · rename_i isData
      exact ⟨Bool.eq_false_iff.mpr other, isData⟩
    · contradiction

theorem headTypeIs_of_headKind_unknown
    {headMsg : List UInt8}
    (kind : headKind headMsg = .unknown) :
    headTypeIs heartBeat headMsg = false ∧
      headTypeIs recvData headMsg = false := by
  rw [headKind] at kind
  split at kind
  · contradiction
  · rename_i noHeartbeat
    split at kind
    · contradiction
    · rename_i noData
      exact ⟨Bool.eq_false_iff.mpr noHeartbeat, Bool.eq_false_iff.mpr noData⟩

/-- The framing the two ends exchange: data frames with a nonempty body whose
length is a positive `int`, and heartbeats without a body. -/
def frameFormat : Framing.Format UInt8 HeadKind where
  headLength := sizeofHeadMsg
  headLength_pos := sizeofHeadMsg_pos
  valid := fun headMsg =>
    headKind headMsg = .data ∧ 0 < headDataLen headMsg ∧
        headDataLen headMsg < 2147483648 ∨
      headKind headMsg = .heartbeat ∧ headDataLen headMsg = 0
  parse := fun headMsg => (headKind headMsg, headDataLen headMsg)

@[simp] theorem frameFormat_headLength :
    frameFormat.headLength = sizeofHeadMsg := rfl

/-- A payload an application can hand to a framing send function: not empty,
and small enough for the length of its frame to be an `int`. -/
structure Payload where
  bytes : List UInt8
  nonempty : 0 < bytes.length
  fitsInt : bytes.length + sizeofHeadMsg < 2147483648

/-- A payload of one letter. -/
def letterA : Payload where
  bytes := [0x41]
  nonempty := by decide
  fitsInt := by decide

/-- A payload of two letters. -/
def lettersAB : Payload where
  bytes := [0x41, 0x42]
  nonempty := by decide
  fitsInt := by decide

/-- The length announced for a payload is its length. -/
theorem headDataLen_payload (payload : Payload) :
    headDataLen (dataHeadMsg payload.bytes.length) = payload.bytes.length := by
  have upper := payload.fitsInt
  rw [headDataLen_dataHeadMsg, unsigned32_natCast (by omega)]

theorem Payload.length_lt (payload : Payload) :
    payload.bytes.length < 2147483648 := by
  have upper := payload.fitsInt
  omega

@[simp] theorem headKind_dataHeadMsg (nDataLen : Int) :
    headKind (dataHeadMsg nDataLen) = .data := by
  simp [headKind]

/-- The frame that carries a payload. -/
def dataFrame (payload : Payload) : Framing.Frame frameFormat where
  head := dataHeadMsg payload.bytes.length
  body := payload.bytes
  head_length := length_dataHeadMsg _
  head_valid := Or.inl ⟨headKind_dataHeadMsg _,
    by rw [headDataLen_payload]; exact payload.nonempty,
    by rw [headDataLen_payload]; exact payload.length_lt⟩
  body_length := (headDataLen_payload payload).symm

/-- What the application is handed for a decoded frame. -/
def deliverData : HeadKind × List UInt8 → Option (List UInt8)
  | (.data, body) => some body
  | _ => none

/-- A header both ends recognise as a heartbeat without a body. -/
structure EmptyHeartbeat where
  headMsg : List UInt8
  length_eq : headMsg.length = sizeofHeadMsg
  isHeartbeat : headTypeIs heartBeat headMsg = true
  isEmpty : headDataLen headMsg = 0

/-- The heartbeat a client sends. -/
def clientHeartbeat : EmptyHeartbeat where
  headMsg := heartbeatHeadMsg
  length_eq := by decide
  isHeartbeat := by decide
  isEmpty := by decide

/-- The frame made of a heartbeat header alone. -/
def heartbeatFrame (heartbeat : EmptyHeartbeat) : Framing.Frame frameFormat where
  head := heartbeat.headMsg
  body := []
  head_length := heartbeat.length_eq
  head_valid := Or.inr ⟨by simp [headKind, heartbeat.isHeartbeat],
    heartbeat.isEmpty⟩
  body_length := heartbeat.isEmpty.symm

@[simp] theorem output_dataFrame (payload : Payload) :
    (dataFrame payload).output = (.data, payload.bytes) := by
  simp [Framing.Frame.output, Framing.Frame.kind, frameFormat, dataFrame]

@[simp] theorem output_heartbeatFrame (heartbeat : EmptyHeartbeat) :
    (heartbeatFrame heartbeat).output = (.heartbeat, []) := by
  simp [Framing.Frame.output, Framing.Frame.kind, frameFormat, heartbeatFrame,
    headKind, heartbeat.isHeartbeat]

end TransPortEngine
