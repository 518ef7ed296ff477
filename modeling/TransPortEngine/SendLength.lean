import TransPortEngine.Sdk
import TransPortEngine.TcpClient.Defs
import TransPortEngine.TcpSession.Hostile

/-!
# The length of a framed send

A length is handed over as an `unsigned int`, becomes an `int`, is extended to a
`size_t` when the size of the header is added, and becomes an `int` again for
the function that sends. Both framing send functions do the same with it. The
values just below 2^31 come out negative, and those just below 2^32 wrap around
to a buffer of a few bytes.
-/

namespace TransPortEngine

open MachineInt

/-- `operator new[]` of the bytes of a buffer. No object has more bytes than the
largest `ptrdiff_t`; below that a request can fail for want of memory. -/
structure Allocator where
  grants : Nat → Bool
  bounded : ∀ size, 9223372036854775808 ≤ size → grants size = false

/-- An allocator that refuses nothing but what is too large for an object. -/
def Allocator.generous : Allocator where
  grants := fun size => decide (size < 9223372036854775808)
  bounded := fun size large => decide_eq_false (by omega)

/-- What a framed send has done when it calls the function that sends: `new` has
thrown, or the buffer has been filled and a length is passed on. -/
inductive PreparedSend
  | refused
  | prepared (szBufLen : Nat) (copies : List EngineEvent) (nDataLen : Int)

/-- `nDataLen + sizeof(HEAD_MSG_T)`, a `size_t`. -/
def frameBufLen (nDataLen : Int) : Nat :=
  unsigned64 (nDataLen + sizeofHeadMsg)

/-- The buffer of a framed send, the copies of header and payload into it, and
the length passed on. -/
def prepareSend (allocator : Allocator) (nDataLen : Int) : PreparedSend :=
  if allocator.grants (frameBufLen nDataLen) then
    .prepared (frameBufLen nDataLen)
      [.memcpy (frameBufLen nDataLen) 0 sizeofHeadMsg,
        .memcpy (frameBufLen nDataLen) sizeofHeadMsg (unsigned64 nDataLen)]
      (signed32 (frameBufLen nDataLen))
  else .refused

/-- The start of `TcpSession_SendData` in framed mode
(`TcpSession.sendData_of_prepared`). -/
def TcpSession.prepareSendData
    (allocator : Allocator)
    (nDataLen : Int) : PreparedSend :=
  prepareSend allocator nDataLen

/-- The start of `TcpClient_SendData` in framed mode
(`TcpClient.sendData_of_prepared`). -/
def TcpClient.prepareSendData
    (allocator : Allocator)
    (nBufLen : Int) : PreparedSend :=
  prepareSend allocator nBufLen

/-- `TransPortEngine_ServerSendTo` on a framed session. -/
def prepareServerSendTo
    (allocator : Allocator)
    (nSendDataLen : UInt32) : PreparedSend :=
  TcpSession.prepareSendData allocator (signed32 nSendDataLen.toNat)

/-- `TransPortEngine_ClientSendData` on a framed client. -/
def prepareClientSendData
    (allocator : Allocator)
    (nSendDataLen : UInt32) : PreparedSend :=
  TcpClient.prepareSendData allocator (signed32 nSendDataLen.toNat)

/-- Nothing has been copied, or everything has been copied inside the buffer and
the whole frame is passed on. -/
def PreparedSend.Safe (nSendDataLen : Nat) : PreparedSend → Prop
  | .refused => True
  | .prepared _ copies nDataLen =>
      InBoundsEvents copies ∧ nDataLen = nSendDataLen + sizeofHeadMsg

/-! ## The three kinds of lengths -/

section Lengths

variable {allocator : Allocator}

/-- A length whose frame fits an `int` is passed on as it is. -/
theorem safe_of_small
    {nDataLen : Nat}
    (small : nDataLen + sizeofHeadMsg < 2147483648) :
    (prepareSend allocator nDataLen).Safe nDataLen := by
  have size : frameBufLen nDataLen = nDataLen + sizeofHeadMsg := by
    unfold frameBufLen
    rw [← Nat.cast_add, unsigned64_natCast (by omega)]
  have payload : unsigned64 (nDataLen : Int) = nDataLen :=
    unsigned64_natCast (by omega)
  unfold prepareSend
  split
  · rw [size, payload]
    refine ⟨?_, ?_⟩
    · refine InBoundsEvents.cons ?_ (inBoundsEvents_singleton ?_)
      · exact ⟨le_rfl, by omega⟩
      · exact ⟨by omega, by omega⟩
    · rw [signed32_of_range (by omega) (by omega)]
      push_cast
      rfl
  · trivial

/-- A length whose frame does not fit an `int` any more is passed on as a
negative number. -/
theorem not_safe_of_large
    {nDataLen : Nat}
    (large : 2147483648 ≤ nDataLen + sizeofHeadMsg)
    (granted : allocator.grants (frameBufLen nDataLen) = true) :
    ¬(prepareSend allocator nDataLen).Safe nDataLen := by
  rw [prepareSend, if_pos granted]
  rintro ⟨-, passed⟩
  have below := signed32_upper (frameBufLen nDataLen)
  omega

/-- A negative length asks for more than any object has, or for a buffer that
is smaller than the header. -/
theorem frameBufLen_of_negative
    {nDataLen : Int}
    (lower : -2147483648 ≤ nDataLen)
    (negative : nDataLen < 0) :
    (nDataLen + sizeofHeadMsg < 0 → 9223372036854775808 ≤ frameBufLen nDataLen) ∧
      (0 ≤ nDataLen + sizeofHeadMsg → frameBufLen nDataLen < sizeofHeadMsg) := by
  unfold frameBufLen unsigned64 sizeofHeadMsg
  constructor <;> intro sign <;> omega

/-- A send that is refused has copied nothing. -/
theorem safe_of_refused
    {nDataLen : Int}
    {nSendDataLen : Nat}
    (refused : allocator.grants (frameBufLen nDataLen) = false) :
    (prepareSend allocator nDataLen).Safe nSendDataLen := by
  rw [prepareSend, refused]
  trivial

/-- The copies of a prepared send are inside the buffer exactly if the length is
not negative. -/
theorem inBounds_prepareSend_iff
    {nDataLen : Int}
    {szBufLen : Nat}
    {copies : List EngineEvent}
    {passed : Int}
    (lower : -2147483648 ≤ nDataLen)
    (upper : nDataLen < 2147483648)
    (prepared : prepareSend allocator nDataLen =
      .prepared szBufLen copies passed) :
    (InBoundsEvents copies ↔ 0 ≤ nDataLen) ∧
      passed = signed32 (nDataLen + sizeofHeadMsg) := by
  unfold prepareSend at prepared
  split at prepared
  · rename_i granted
    simp only [PreparedSend.prepared.injEq] at prepared
    obtain ⟨-, rfl, rfl⟩ := prepared
    constructor
    · constructor
      · intro inBounds
        by_contra negative
        have sizes := frameBufLen_of_negative lower (not_le.mp negative)
        by_cases wraps : 0 ≤ nDataLen + sizeofHeadMsg
        · have tiny := sizes.2 wraps
          have head := inBounds _ List.mem_cons_self
          have fits := head.2
          omega
        · have refused := allocator.bounded _ (sizes.1 (not_le.mp wraps))
          rw [granted] at refused
          contradiction
      · intro nonnegative
        have size : (frameBufLen nDataLen : Int) = nDataLen + sizeofHeadMsg := by
          unfold frameBufLen unsigned64 sizeofHeadMsg
          omega
        have payload : (unsigned64 nDataLen : Int) = nDataLen := by
          unfold unsigned64
          omega
        refine InBoundsEvents.cons ?_ (inBoundsEvents_singleton ?_)
        · exact ⟨le_rfl, by omega⟩
        · exact ⟨by omega, by omega⟩
    · unfold frameBufLen unsigned64 signed32 sizeofHeadMsg
      omega
  · contradiction

/-- A negative length for which there is a buffer is copied far beyond it. -/
theorem not_safe_of_negative
    {nDataLen : Int}
    {nSendDataLen : Nat}
    (lower : -2147483648 ≤ nDataLen)
    (negative : nDataLen < 0)
    (granted : allocator.grants (frameBufLen nDataLen) = true) :
    ¬(prepareSend allocator nDataLen).Safe nSendDataLen := by
  have prepared : prepareSend allocator nDataLen = .prepared _ _ _ :=
    if_pos granted
  have inBounds := inBounds_prepareSend_iff lower (by omega) prepared
  rw [prepared]
  intro safe
  exact absurd (inBounds.1.mp safe.1) (not_le.mpr negative)

end Lengths

/-- A session sends what it has prepared, unless it has copied out of bounds. -/
theorem TcpSession.sendData_of_prepared
    {allocator : Allocator}
    {session : TcpSession}
    {nDataLen : Int}
    {szBufLen : Nat}
    {copies : List EngineEvent}
    {passed : Int}
    (framed : session.bIsHaveHead = true)
    (lower : -2147483648 ≤ nDataLen)
    (upper : nDataLen < 2147483648)
    (prepared : prepareSendData allocator nDataLen =
      .prepared szBufLen copies passed)
    (szData : List UInt8)
    (outcomes : SendOutcomes) :
    (InBoundsEvents copies → session.sendData szData nDataLen outcomes =
        session.ioSend (some (frameBuf szData nDataLen)) passed outcomes) ∧
      (¬InBoundsEvents copies →
        (session.sendData szData nDataLen outcomes).result = .fault) := by
  obtain ⟨inBounds, passedEq⟩ := inBounds_prepareSend_iff lower upper prepared
  rw [inBounds, passedEq, sendData, if_pos framed]
  refine ⟨fun nonnegative => if_neg (not_lt.mpr nonnegative), fun negative => ?_⟩
  rw [if_pos (not_le.mp negative)]

/-- A client offers what it has prepared, unless it has copied out of bounds. -/
theorem TcpClient.sendData_of_prepared
    {allocator : Allocator}
    {client : TcpClient}
    {nBufLen : Int}
    {szBufLen : Nat}
    {copies : List EngineEvent}
    {passed : Int}
    (framed : client.bIsHaveHead = true)
    (lower : -2147483648 ≤ nBufLen)
    (upper : nBufLen < 2147483648)
    (prepared : prepareSendData allocator nBufLen =
      .prepared szBufLen copies passed)
    (szSendBuf : List UInt8) :
    (InBoundsEvents copies → client.sendData szSendBuf nBufLen =
        some (socketSendMsg (frameBuf szSendBuf nBufLen) passed)) ∧
      (¬InBoundsEvents copies → client.sendData szSendBuf nBufLen = none) := by
  obtain ⟨inBounds, passedEq⟩ := inBounds_prepareSend_iff lower upper prepared
  rw [inBounds, passedEq, sendData, if_pos framed]
  exact ⟨fun nonnegative => if_neg (not_lt.mpr nonnegative),
    fun negative => if_pos (not_le.mp negative)⟩

/-! ## Every length -/

/-- The `int` an `unsigned int` becomes. -/
theorem signed32_of_unsigned (nSendDataLen : UInt32) :
    signed32 nSendDataLen.toNat =
      if nSendDataLen.toNat < 2147483648 then (nSendDataLen.toNat : Int)
      else (nSendDataLen.toNat : Int) - 4294967296 := by
  have upper := nSendDataLen.toNat_lt
  unfold signed32
  split <;> omega

/-- A framed send of either end is safe exactly if the frame fits an `int`, the
length becomes an `int` that no buffer can be allocated for, or there is no
memory. -/
theorem prepareSend_safe_iff
    (allocator : Allocator)
    (nSendDataLen : UInt32) :
    (prepareSend allocator (signed32 nSendDataLen.toNat)).Safe
        nSendDataLen.toNat ↔
      nSendDataLen.toNat + sizeofHeadMsg < 2147483648 ∨
        2147483648 ≤ nSendDataLen.toNat ∧
            nSendDataLen.toNat + sizeofHeadMsg < 4294967296 ∨
          allocator.grants (frameBufLen (signed32 nSendDataLen.toNat)) =
            false := by
  have upper := nSendDataLen.toNat_lt
  have header : sizeofHeadMsg = 8 := rfl
  rw [signed32_of_unsigned]
  constructor
  · intro safe
    by_contra none
    push Not at none
    obtain ⟨noSmall, -, granted⟩ := none
    rw [Bool.ne_false_iff] at granted
    split at safe
    · rename_i fits
      rw [if_pos fits] at granted
      exact not_safe_of_large noSmall granted safe
    · rename_i negative
      rw [if_neg negative] at granted
      exact not_safe_of_negative (by omega) (by omega) granted safe
  · rintro (small | ⟨negative, above⟩ | refused)
    · rw [if_pos (by omega)]
      exact safe_of_small small
    · rw [if_neg (by omega)]
      refine safe_of_refused (allocator.bounded _ ?_)
      exact (frameBufLen_of_negative (by omega) (by omega)).1 (by omega)
    · exact safe_of_refused refused

/-- The arithmetic of both send functions is safe exactly if the frame fits an
`int`, or the length is from 2^31 on and so far below 2^32 that `new` refuses it,
or there is no memory for the buffer. -/
theorem sendLength_safe_iff
    (allocator : Allocator)
    (nSendDataLen : UInt32) :
    (prepareServerSendTo allocator nSendDataLen).Safe nSendDataLen.toNat ∧
        (prepareClientSendData allocator nSendDataLen).Safe
          nSendDataLen.toNat ↔
      nSendDataLen.toNat + sizeofHeadMsg < 2147483648 ∨
        2147483648 ≤ nSendDataLen.toNat ∧
            nSendDataLen.toNat + sizeofHeadMsg < 4294967296 ∨
          allocator.grants (frameBufLen (signed32 nSendDataLen.toNat)) =
            false := by
  have each := prepareSend_safe_iff allocator nSendDataLen
  exact ⟨fun safe => each.mp safe.1, fun fits => ⟨each.mpr fits, each.mpr fits⟩⟩

/-- The largest length is copied far beyond a buffer of seven bytes. -/
theorem not_sendLength_safe_wrapped :
    ¬∀ (allocator : Allocator) (nSendDataLen : UInt32),
      (prepareServerSendTo allocator nSendDataLen).Safe nSendDataLen.toNat ∧
        (prepareClientSendData allocator nSendDataLen).Safe
          nSendDataLen.toNat := by
  intro always
  have safe := (always .generous 4294967295).1
  have wrapped : signed32 ((4294967295 : UInt32).toNat : Int) = -1 := by decide
  rw [prepareServerSendTo, TcpSession.prepareSendData, wrapped] at safe
  exact not_safe_of_negative (by decide) (by decide) (by decide) safe

end TransPortEngine
