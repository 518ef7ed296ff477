import TransPortEngine.TcpClient.Delivery
import TransPortEngine.TcpSession.HeadReads

/-!
# Headers with a salt

A header is two type characters, a salt and a length. Both decoders compare
three bytes with the tag of a type, so that the upper byte of the salt takes part
in the comparison, and the client keeps the length in an `int`. A header is
recognised as what it is exactly if its salt fits a byte and its length an
`int`.
-/

namespace TransPortEngine

open MachineInt

/-- The types of a message. -/
inductive HeadType
  | heartbeat
  | data
  deriving DecidableEq, Repr

namespace HeadType

/-- The two characters in `szHeadType`. -/
def szHeadType : HeadType → List UInt8
  | .heartbeat => [0x48, 0x42]
  | .data => [0x44, 0x54]

/-- The number both decoders keep for a type. -/
def number : HeadType → Int
  | .heartbeat => 0
  | .data => 1

/-- How a header of the type should be classified. -/
def kind : HeadType → HeadKind
  | .heartbeat => .heartbeat
  | .data => .data

end HeadType

/-- The header of a type with a salt and a length in network order. -/
def saltedHeadMsg
    (type : HeadType)
    (uSaltValue : UInt16)
    (nDataLen : UInt32) : List UInt8 :=
  type.szHeadType ++ htons uSaltValue.toNat ++ htonl nDataLen.toNat

/-- A framed session that waits for the first byte of a header. -/
structure SessionCore.WaitsForHead (session : SessionCore) : Prop where
  framed : session.bIsHaveHead = true
  noHead : session.bIsRecvHead = false
  noCache : session.recvBufs = []

/-- A session that has recognised a header. -/
def SessionCore.recognised
    (session : SessionCore)
    (type : HeadType)
    (uSaltValue nDataLen : Nat)
    (now : Int) : SessionCore :=
  { session with
    recvBufs := []
    nRecvDataType := type.number
    nNeedRecvDataLen := nDataLen
    uSaltValue := uSaltValue
    bIsRecvHead := decide (0 < nDataLen)
    tHeartbeatTimeStamp :=
      if type = .heartbeat ∧ nDataLen = 0 then now
      else session.tHeartbeatTimeStamp }

/-- A framed client that waits for the first byte of a header. -/
structure TcpClient.WaitsForHead (client : TcpClient) : Prop where
  framed : client.bIsHaveHead = true
  running : client.bRecvFlag = true
  noHead : client.bIsRecvHead = false
  noCache : client.recvBufs = []

/-- A client that has recognised a header. -/
def TcpClient.recognised
    (client : TcpClient)
    (type : HeadType)
    (nDataLen : Nat)
    (now : Int) : TcpClient :=
  { client with
    recvBufs := []
    nMsgType := type.number
    nNeedRecvDataLen := nDataLen
    bIsRecvHead := decide (0 < nDataLen)
    tHeartbeatTimeStamp :=
      if type = .heartbeat ∧ nDataLen = 0 then now
      else client.tHeartbeatTimeStamp }

theorem sizeofHeadMsg_le_read : sizeofHeadMsg ≤ 1024 := by decide

/-- Both ends recognise a header with its type, its length and, on the server,
its salt, in whatever pieces it comes. -/
structure HeadRecognised
    (type : HeadType)
    (uSaltValue : UInt16)
    (nDataLen : UInt32) : Prop where
  server : ∀ (session : TcpSession) (turns : List RecvTurn),
    session.toSessionCore.WaitsForHead →
    (∀ turn ∈ turns, turn.OfStream) →
    turns.flatMap RecvTurn.bytes = saltedHeadMsg type uSaltValue nDataLen →
      (session.ioRecvCalls turns).Accepted ∧
        ∃ now, (session.ioRecvCalls turns).session =
          session.setCore (session.toSessionCore.recognised type
            uSaltValue.toNat nDataLen.toNat now)
  client : ∀ (client : TcpClient) (turns : List RecvfromTurn),
    client.WaitsForHead →
    (∀ turn ∈ turns, turn.OfStream) →
    client.Granted turns →
    turns.flatMap RecvfromTurn.bytes = saltedHeadMsg type uSaltValue nDataLen →
      (client.recvfrom turns).left = false ∧
        ∃ now, (client.recvfrom turns).client =
          client.recognised type nDataLen.toNat now

/-! ## The fields of a header -/

section Fields

variable (type : HeadType) (uSaltValue : UInt16) (nDataLen : UInt32)

theorem saltedHeadMsg_eq :
    saltedHeadMsg type uSaltValue nDataLen =
      type.szHeadType ++
        ([UInt8.ofNat (uSaltValue.toNat / 256), UInt8.ofNat uSaltValue.toNat] ++
          BigEndian.encode 4 nDataLen.toNat) := by
  have length : unsigned32 (nDataLen.toNat : Int) = nDataLen.toNat :=
    unsigned32_natCast nDataLen.toNat_lt
  rw [saltedHeadMsg, htonl, length, htons, List.append_assoc]
  rfl

theorem length_saltedHeadMsg :
    (saltedHeadMsg type uSaltValue nDataLen).length = sizeofHeadMsg := by
  rw [saltedHeadMsg_eq]
  cases type <;> simp [HeadType.szHeadType, sizeofHeadMsg]

/-- The length field survives the conversion to network order and back. -/
theorem headDataLen_saltedHeadMsg :
    headDataLen (saltedHeadMsg type uSaltValue nDataLen) = nDataLen.toNat := by
  have fits : nDataLen.toNat < 256 ^ 4 := nDataLen.toNat_lt
  have field : ((saltedHeadMsg type uSaltValue nDataLen).drop 4).take 4 =
      BigEndian.encode 4 nDataLen.toNat := by
    rw [saltedHeadMsg_eq]
    cases type <;> simp [HeadType.szHeadType, List.take_of_length_le]
  rw [headDataLen, field, BigEndian.decode_encode_of_lt fits]

/-- The salt survives the conversion to network order and back. -/
theorem headSaltValue_saltedHeadMsg :
    headSaltValue (saltedHeadMsg type uSaltValue nDataLen) =
      uSaltValue.toNat := by
  have fits : uSaltValue.toNat < 256 ^ 2 := uSaltValue.toNat_lt
  have field : ((saltedHeadMsg type uSaltValue nDataLen).drop 2).take 2 =
      BigEndian.encode 2 uSaltValue.toNat := by
    rw [saltedHeadMsg_eq]
    cases type <;> rfl
  rw [headSaltValue, field, BigEndian.decode_encode_of_lt fits]

/-- The upper byte of a salt is zero if the salt fits a byte. -/
theorem saltByte_eq_zero_iff :
    UInt8.ofNat (uSaltValue.toNat / 256) = 0 ↔ uSaltValue.toNat < 256 := by
  have fits := uSaltValue.toNat_lt
  rw [← UInt8.toNat_inj, UInt8.toNat_ofNat']
  change uSaltValue.toNat / 256 % 256 = 0 ↔ _
  omega

/-- The comparisons look at the type and at the upper byte of the salt. -/
theorem headKind_saltedHeadMsg :
    headKind (saltedHeadMsg type uSaltValue nDataLen) =
      if uSaltValue.toNat < 256 then type.kind else .unknown := by
  have upper := saltByte_eq_zero_iff uSaltValue
  rw [headKind, saltedHeadMsg_eq]
  cases type <;>
    simp [headTypeIs, HeadType.szHeadType, HeadType.kind, heartBeat, recvData,
      ← upper]

end Fields

/-! ## The server -/

section Server

variable {type : HeadType} {uSaltValue : UInt16} {nDataLen : UInt32}

/-- A session recognises a header whose salt fits a byte. -/
theorem finishHead_recognised
    {session : SessionCore}
    (waits : session.WaitsForHead)
    (salt : uSaltValue.toNat < 256)
    (now : Int) :
    session.finishHead (saltedHeadMsg type uSaltValue nDataLen) now =
      session.recognised type uSaltValue.toNat nDataLen.toNat now := by
  have kind := headKind_saltedHeadMsg type uSaltValue nDataLen
  have length := headDataLen_saltedHeadMsg type uSaltValue nDataLen
  have saltEq := headSaltValue_saltedHeadMsg type uSaltValue nDataLen
  have noHead := waits.noHead
  rw [if_pos salt] at kind
  cases type with
  | heartbeat =>
      have isType := headTypeIs_of_headKind_heartbeat kind
      by_cases positive : 0 < nDataLen.toNat
      · have nonzero : nDataLen.toNat ≠ 0 := by omega
        simp [SessionCore.finishHead, SessionCore.storeHead,
          SessionCore.recognised, HeadType.number, isType, length, saltEq,
          noHead, positive, nonzero]
      · have zero : nDataLen.toNat = 0 := by omega
        simp [SessionCore.finishHead, SessionCore.storeHead,
          SessionCore.recognised, SessionCore.headleHB, HeadType.number, isType,
          length, saltEq, noHead, zero]
  | data =>
      have isType := headTypeIs_of_headKind_data kind
      simp [SessionCore.finishHead, SessionCore.storeHead,
        SessionCore.recognised, HeadType.number, isType, length, saltEq, noHead]

/-- A session takes a header with a larger salt for one of no known type. -/
theorem finishHead_unrecognised
    {session : SessionCore}
    (salt : ¬uSaltValue.toNat < 256)
    (now : Int) :
    session.finishHead (saltedHeadMsg type uSaltValue nDataLen) now =
      { session with recvBufs := [] } := by
  have kind := headKind_saltedHeadMsg type uSaltValue nDataLen
  rw [if_neg salt] at kind
  have other := headTypeIs_of_headKind_unknown kind
  simp [SessionCore.finishHead, other]

/-- A header alone leaves the session behind it. -/
theorem ioRecvCalls_headMsg
    {session : TcpSession}
    {turns : List RecvTurn}
    {headMsg : List UInt8}
    (waits : session.toSessionCore.WaitsForHead)
    (size : headMsg.length = sizeofHeadMsg)
    (ofStream : ∀ turn ∈ turns, turn.OfStream)
    (cut : turns.flatMap RecvTurn.bytes = headMsg) :
    (session.ioRecvCalls turns).Accepted ∧
      ∃ now, (session.ioRecvCalls turns).session =
        session.behindHead headMsg now := by
  have cached : cachedBytes session.recvBufs = [] := by
    rw [waits.noCache]
    rfl
  have nonempty : headMsg ≠ [] :=
    List.ne_nil_of_length_pos (size ▸ sizeofHeadMsg_pos)
  have cutEnd : turns.flatMap RecvTurn.bytes = headMsg ++ [] := by
    rw [cut, List.append_nil]
  obtain ⟨turn, later, handled⟩ := TcpSession.headHandled_of_cut waits.framed
    waits.noHead (by rw [cached, List.nil_append]) size nonempty ofStream cutEnd
    (Or.inl rfl)
  obtain ⟨sessionEq, -, accepted⟩ := TcpSession.ioRecvCalls_quiet
    (session.behindHead headMsg turn.now)
    (fun other member => ofStream other (handled.among other member))
    handled.bytes
  exact ⟨handled.accepted.mpr accepted, turn.now,
    handled.session_eq.trans sessionEq⟩

end Server

/-! ## The client -/

namespace TcpClient

/-- What has been collected does not matter behind the header. -/
theorem finishHead_pushRecvBuf
    (client : TcpClient)
    (szRecvBuf headMsg : List UInt8)
    (now : Int) :
    ((client.pushRecvBuf szRecvBuf).finishHead headMsg now).1 =
      (client.finishHead headMsg now).1 := by
  simp only [finishHead, pushRecvBuf]

/-- A turn with data goes on behind its pass. -/
theorem recvfrom_data
    {client : TcpClient}
    {turn : RecvfromTurn}
    (running : client.bRecvFlag = true)
    (ofStream : turn.OfStream)
    (turns : List RecvfromTurn) :
    0 < turn.bytes.length ∧
      (client.recvfromPass turn).client =
        (client.recvDataPass turn.bytes turn.now).client ∧
      (client.recvfrom (turn :: turns)).client =
        ((client.recvfromPass turn).client.recvfrom turns).client ∧
      (client.recvfrom (turn :: turns)).left =
        ((client.recvfromPass turn).client.recvfrom turns).left := by
  obtain ⟨recv, now⟩ := turn
  cases recv with
  | closed => contradiction
  | failed => contradiction
  | data szRecvBuf nonempty =>
      have stays : (client.recvDataPass szRecvBuf now).leaves = false := by
        simp only [recvDataPass, recvBody, recvHead, recvRaw,
          apply_ite RecvfromPass.leaves, ite_self]
      have leaves :
          (client.recvfromPass ⟨.data szRecvBuf nonempty, now⟩).leaves =
            false := stays
      refine ⟨nonempty, rfl, ?_, ?_⟩
      · rw [recvfrom, if_pos running]
        simp only [leaves, Bool.false_eq_true, if_false]
      · rw [recvfrom, if_pos running]
        simp only [leaves, Bool.false_eq_true, if_false]

/-- A header alone leaves the client behind it. -/
theorem recvfrom_headMsg
    {client : TcpClient}
    {turns : List RecvfromTurn}
    {missing headMsg : List UInt8}
    (framed : client.bIsHaveHead = true)
    (running : client.bRecvFlag = true)
    (noHead : client.bIsRecvHead = false)
    (headEq : cachedBytes client.recvBufs ++ missing = headMsg)
    (size : headMsg.length = sizeofHeadMsg)
    (opened : missing ≠ [])
    (ofStream : ∀ turn ∈ turns, turn.OfStream)
    (cut : turns.flatMap RecvfromTurn.bytes = missing) :
    (client.recvfrom turns).left = false ∧
      ∃ now, (client.recvfrom turns).client =
        (client.finishHead headMsg now).1 := by
  induction turns generalizing client missing with
  | nil => exact absurd cut.symm opened
  | cons turn turns inductionHypothesis =>
      have ofStreamLater : ∀ other ∈ turns, other.OfStream :=
        fun other member => ofStream other (List.mem_cons_of_mem turn member)
      obtain ⟨nonempty, passEq, clientEq, leftEq⟩ :=
        recvfrom_data running (ofStream turn List.mem_cons_self) turns
      have runs : (client.recvfromPass turn).client.bRecvFlag = true := by
        rw [bRecvFlag_recvfromPass, running]
      have data : client.recvDataPass turn.bytes turn.now =
          client.recvHead turn.bytes turn.now := by
        simp only [recvDataPass, framed, noHead, if_true, Bool.false_eq_true,
          if_false]
      rw [clientEq, leftEq]
      rw [data] at passEq
      subst cut
      rw [List.flatMap_cons] at headEq
      have sizes := size
      rw [← headEq, List.length_append, List.length_append] at sizes
      rw [← List.append_assoc] at headEq
      by_cases rest : turns.flatMap RecvfromTurn.bytes = []
      · have last : turns = [] := by
          cases turns with
          | nil => rfl
          | cons other turns =>
              rw [List.flatMap_cons, List.append_eq_nil_iff] at rest
              obtain ⟨positive, -⟩ := recvfrom_data running
                (ofStreamLater other List.mem_cons_self) turns
              rw [rest.1] at positive
              exact absurd positive (lt_irrefl 0)
        rw [rest, List.length_nil, Nat.add_zero] at sizes
        rw [rest, List.append_nil] at headEq
        have full := recvHead_full (by omega) sizes turn.now
        rw [headEq] at full
        rw [last]
        refine ⟨?_, turn.now, passEq.trans full.1⟩
        rw [recvfrom, runs]
        rfl
      · have positive := List.length_pos_iff.mpr rest
        have within : (cachedBytes client.recvBufs).length +
            turn.bytes.length < sizeofHeadMsg := by omega
        have short := recvHead_short within turn.now
        rw [passEq.trans short.1] at runs ⊢
        have headNext : cachedBytes (client.pushRecvBuf turn.bytes).recvBufs ++
            turns.flatMap RecvfromTurn.bytes = headMsg := by
          rw [← headEq]
          exact congrArg (· ++ _) (cachedBytes_push _ _)
        obtain ⟨stays, now, laterEq⟩ := @inductionHypothesis
          (client.pushRecvBuf turn.bytes) _ framed runs noHead headNext rest
          ofStreamLater rfl
        rw [finishHead_pushRecvBuf] at laterEq
        exact ⟨stays, now, laterEq⟩

/-- A client recognises a header whose salt fits a byte and whose length fits
an `int`. -/
theorem finishHead_recognised
    {client : TcpClient}
    {type : HeadType}
    {uSaltValue : UInt16}
    {nDataLen : UInt32}
    (waits : client.WaitsForHead)
    (salt : uSaltValue.toNat < 256)
    (fits : nDataLen.toNat < 2147483648)
    (now : Int) :
    (client.finishHead (saltedHeadMsg type uSaltValue nDataLen) now).1 =
      client.recognised type nDataLen.toNat now := by
  have kind := headKind_saltedHeadMsg type uSaltValue nDataLen
  have length : signed32
      (headDataLen (saltedHeadMsg type uSaltValue nDataLen)) =
        nDataLen.toNat := by
    rw [headDataLen_saltedHeadMsg]
    exact signed32_of_range (by omega) (by omega)
  have noHead := waits.noHead
  rw [if_pos salt] at kind
  cases type with
  | heartbeat =>
      have isType := headTypeIs_of_headKind_heartbeat kind
      by_cases zero : nDataLen.toNat = 0
      · simp [finishHead, recognised, handleHB, HeadType.number, isType, length,
          zero, noHead]
      · have positive : 0 < nDataLen.toNat := Nat.pos_of_ne_zero zero
        simp [finishHead, recognised, HeadType.number, isType, length, zero,
          positive]
  | data =>
      have isType := headTypeIs_of_headKind_data kind
      by_cases positive : 0 < nDataLen.toNat
      · simp [finishHead, recognised, HeadType.number, isType, length, positive]
      · simp [finishHead, recognised, HeadType.number, isType, length, positive,
          noHead]

/-- The length a client keeps for a header. -/
theorem nNeedRecvDataLen_finishHead
    (client : TcpClient)
    (headMsg : List UInt8)
    (now : Int) :
    (client.finishHead headMsg now).1.nNeedRecvDataLen =
      signed32 (headDataLen headMsg) := by
  simp only [finishHead, apply_ite Prod.fst, apply_ite nNeedRecvDataLen,
    handleHB, ite_self]

end TcpClient

/-! ## Both ends -/

/-- A header in one piece, on either side. -/
def saltedTurn
    (type : HeadType)
    (uSaltValue : UInt16)
    (nDataLen : UInt32) : RecvTurn where
  read := .data ⟨saltedHeadMsg type uSaltValue nDataLen,
    by rw [length_saltedHeadMsg]; exact sizeofHeadMsg_pos,
    by rw [length_saltedHeadMsg]; exact sizeofHeadMsg_le_read⟩
  now := 0
  echo := .failed
  epollCtl := true

/-- A framed session whose last header was of no known type. -/
def saltedSession : TcpSession :=
  { TcpSession.framedSession with nRecvDataType := 7 }

/-- The same header for a client. -/
def saltedRecvfromTurn
    (type : HeadType)
    (uSaltValue : UInt16)
    (nDataLen : UInt32) : RecvfromTurn where
  recv := .data (saltedHeadMsg type uSaltValue nDataLen)
    (by rw [length_saltedHeadMsg]; exact sizeofHeadMsg_pos)
  now := 0

section Recognised

variable {type : HeadType} {uSaltValue : UInt16} {nDataLen : UInt32}

/-- A salt that does not fit a byte makes the session ignore the header. -/
theorem salt_of_headRecognised
    (recognised : HeadRecognised type uSaltValue nDataLen) :
    uSaltValue.toNat < 256 := by
  by_contra salt
  have size := length_saltedHeadMsg type uSaltValue nDataLen
  have waits : saltedSession.toSessionCore.WaitsForHead := ⟨rfl, rfl, rfl⟩
  have ofStream : ∀ turn ∈ [saltedTurn type uSaltValue nDataLen],
      turn.OfStream := by
    intro turn member
    rw [List.mem_singleton.mp member]
    trivial
  have cut : [saltedTurn type uSaltValue nDataLen].flatMap RecvTurn.bytes =
      saltedHeadMsg type uSaltValue nDataLen := List.append_nil _
  obtain ⟨-, now, sessionEq⟩ :=
    recognised.server saltedSession _ waits ofStream cut
  obtain ⟨-, later, behind⟩ := ioRecvCalls_headMsg waits size ofStream cut
  rw [behind, TcpSession.behindHead, finishHead_unrecognised salt] at sessionEq
  have number : 7 = type.number :=
    congrArg (fun session => session.nRecvDataType) sessionEq
  cases type <;> exact absurd number (by decide)

/-- A length that does not fit an `int` is negative for the client. -/
theorem length_of_headRecognised
    (recognised : HeadRecognised type uSaltValue nDataLen) :
    nDataLen.toNat < 2147483648 := by
  by_contra large
  have size := length_saltedHeadMsg type uSaltValue nDataLen
  have waits : TcpClient.framedClient.WaitsForHead := ⟨rfl, rfl, rfl, rfl⟩
  have ofStream : ∀ turn ∈ [saltedRecvfromTurn type uSaltValue nDataLen],
      turn.OfStream := by
    intro turn member
    rw [List.mem_singleton.mp member]
    trivial
  have cut : [saltedRecvfromTurn type uSaltValue nDataLen].flatMap
      RecvfromTurn.bytes = saltedHeadMsg type uSaltValue nDataLen :=
    List.append_nil _
  have granted : TcpClient.framedClient.Granted
      [saltedRecvfromTurn type uSaltValue nDataLen] := ⟨size.le, trivial⟩
  obtain ⟨-, now, clientEq⟩ :=
    recognised.client TcpClient.framedClient _ waits ofStream granted cut
  obtain ⟨-, later, behind⟩ := TcpClient.recvfrom_headMsg waits.framed
    waits.running waits.noHead (List.nil_append _) size
    (List.ne_nil_of_length_pos (size ▸ sizeofHeadMsg_pos)) ofStream cut
  have length := congrArg TcpClient.nNeedRecvDataLen
    (behind.symm.trans clientEq)
  rw [TcpClient.nNeedRecvDataLen_finishHead, headDataLen_saltedHeadMsg] at length
  have upper := signed32_upper nDataLen.toNat
  change _ = (nDataLen.toNat : Int) at length
  omega

/-- Both ends recognise a header whose fields fit. -/
theorem headRecognised_of_fits
    (salt : uSaltValue.toNat < 256)
    (length : nDataLen.toNat < 2147483648) :
    HeadRecognised type uSaltValue nDataLen := by
  have size := length_saltedHeadMsg type uSaltValue nDataLen
  constructor
  · intro session turns waits ofStream cut
    obtain ⟨accepted, now, sessionEq⟩ :=
      ioRecvCalls_headMsg waits size ofStream cut
    refine ⟨accepted, now, ?_⟩
    rw [sessionEq, TcpSession.behindHead, finishHead_recognised waits salt]
  · intro client turns waits ofStream granted cut
    have cached : cachedBytes client.recvBufs = [] := by
      rw [waits.noCache]
      rfl
    obtain ⟨stays, now, clientEq⟩ := TcpClient.recvfrom_headMsg waits.framed
      waits.running waits.noHead (by rw [cached, List.nil_append]) size
      (List.ne_nil_of_length_pos (size ▸ sizeofHeadMsg_pos)) ofStream cut
    refine ⟨stays, now, ?_⟩
    rw [clientEq, TcpClient.finishHead_recognised waits salt length]

end Recognised

/-- A header is recognised on both ends, in every cut, exactly if its salt fits a
byte and its length an `int`. -/
theorem headRecognised_iff
    (type : HeadType)
    (uSaltValue : UInt16)
    (nDataLen : UInt32) :
    HeadRecognised type uSaltValue nDataLen ↔
      uSaltValue.toNat < 256 ∧ nDataLen.toNat < 2147483648 :=
  ⟨fun recognised => ⟨salt_of_headRecognised recognised,
      length_of_headRecognised recognised⟩,
    fun fits => headRecognised_of_fits fits.1 fits.2⟩

/-- A data header with the salt 256 is not recognised. -/
theorem not_headRecognised_largeSalt :
    ¬∀ (type : HeadType) (uSaltValue : UInt16) (nDataLen : UInt32),
      HeadRecognised type uSaltValue nDataLen := by
  intro always
  have salt := salt_of_headRecognised (always .data 256 1)
  exact absurd salt (by decide)

end TransPortEngine
