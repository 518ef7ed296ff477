import TransPortEngine.TcpSession.Hostile
import TransPortEngine.WireFormats

/-!
# A session that reads an arbitrary stream

A session of a server on Linux stays where the decoder of a format is as long as
it reads headers as the format does. A body must come in one read: any other
read makes the call fail, or leaves the session collecting a body for good.
-/

namespace TransPortEngine

open Framing MachineInt

namespace SessionCore

/-- The session holds what the decoder holds and waits for the same part. No
byte of a body has been kept. -/
def Collects : State UInt8 HeadKind → SessionCore → Prop
  | .head seen, session =>
      session.bIsHaveHead = true ∧ session.bIsRecvHead = false ∧
        cachedBytes session.recvBufs = seen ∧ seen.length < sizeofHeadMsg
  | .body _ need seen, session =>
      session.bIsHaveHead = true ∧ session.bIsRecvHead = true ∧
        session.recvBufs = [] ∧ seen = [] ∧ session.nNeedRecvDataLen = need ∧
          0 < need ∧ need < 4294967296

variable {format : Format UInt8 HeadKind} {session : SessionCore}

/-- Behind a complete header the session waits for the body it expects, or for
the next header. -/
theorem collects_finishHead
    {headMsg : List UInt8}
    (framed : session.bIsHaveHead = true)
    (noHead : session.bIsRecvHead = false)
    (reads : ReadsHead format headMsg)
    (now : Int) :
    Collects (format.afterHead headMsg).1 (session.finishHead headMsg now) := by
  have start : ∀ next : SessionCore, next.bIsHaveHead = true →
      next.bIsRecvHead = false → next.recvBufs = [] →
        Collects (.head []) next := by
    intro next isFramed isNoHead empty
    refine ⟨isFramed, isNoHead, ?_, by decide⟩
    rw [empty]
    rfl
  have announced : (format.parse headMsg).2 = headBodyLen headMsg := by
    rw [reads.parsed]
  have stored : ∀ type : Int, headBodyLen headMsg = headDataLen headMsg →
      0 < headDataLen headMsg →
        Collects (format.afterHead headMsg).1
          (session.storeHead type headMsg) := by
    intro type known positive
    rw [format.afterHead_of_pos (by omega), announced, known]
    refine ⟨framed, ?_, rfl, rfl, rfl, positive, headDataLen_lt headMsg⟩
    simp [storeHead, positive]
  have skipped : ∀ (type : Int), headBodyLen headMsg = headDataLen headMsg →
      headDataLen headMsg = 0 →
        Collects (format.afterHead headMsg).1
          (session.storeHead type headMsg) := by
    intro type known zero
    rw [format.afterHead_of_zero (announced.trans (known.trans zero))]
    refine start _ framed ?_ rfl
    simp [storeHead, zero, noHead]
  cases kind : headKind headMsg with
  | unknown =>
      have zero : (format.parse headMsg).2 = 0 :=
        announced.trans (headBodyLen_of_unknown kind)
      have other := headTypeIs_of_headKind_unknown kind
      rw [format.afterHead_of_zero zero]
      simp only [finishHead, other.1, other.2, Bool.false_eq_true, if_false]
      exact start _ framed noHead rfl
  | heartbeat =>
      have known : headBodyLen headMsg = headDataLen headMsg :=
        headBodyLen_of_known (by rw [kind]; decide)
      have type := headTypeIs_of_headKind_heartbeat kind
      have need : (session.storeHead 0 headMsg).nNeedRecvDataLen =
          headDataLen headMsg := rfl
      simp only [finishHead, type, need, if_true]
      by_cases zero : headDataLen headMsg = 0
      · rw [if_neg (by omega)]
        have next := skipped 0 known zero
        rw [format.afterHead_of_zero (announced.trans (known.trans zero))]
          at next ⊢
        exact next
      · rw [if_pos (by omega)]
        exact stored 0 known (Nat.pos_of_ne_zero zero)
  | data =>
      have known : headBodyLen headMsg = headDataLen headMsg :=
        headBodyLen_of_known (by rw [kind]; decide)
      have types := headTypeIs_of_headKind_data kind
      simp only [finishHead, types.1, types.2, Bool.false_eq_true, if_false,
        if_true]
      by_cases zero : headDataLen headMsg = 0
      · exact skipped 1 known zero
      · exact stored 1 known (Nat.pos_of_ne_zero zero)

/-- A body leaves nothing behind. -/
theorem collects_finishBody
    (framed : session.bIsHaveHead = true)
    (now : Int) :
    Collects (.head []) (session.finishBody now) := by
  have core : (session.finishBody now).bIsHaveHead = session.bIsHaveHead ∧
      (session.finishBody now).bIsRecvHead = false ∧
        (session.finishBody now).recvBufs = [] := by
    unfold finishBody headleHB
    simp only
    split
    · exact ⟨rfl, trivial, rfl⟩
    · exact ⟨rfl, trivial, rfl⟩
  refine ⟨core.1.trans framed, core.2.1, ?_, by decide⟩
  rw [core.2.2]
  rfl

/-- What a session of a body lacks, whatever the length of the body. -/
theorem missingBody_of_empty (empty : session.recvBufs = []) :
    session.missingBody = signed32 session.nNeedRecvDataLen := by
  rw [missingBody, sessionRecvCacheLen_eq, empty]
  simp

end SessionCore

namespace TcpSession

variable {format : Format UInt8 HeadKind} {session : TcpSession}

/-- An accepted framed session collects its first header. -/
theorem collects_init
    {garbage : SessionGarbage}
    {address : Nat}
    {now : Int}
    {arguments : SessionArguments}
    (framed : arguments.bIsHaveHead = true)
    (initialised :
      ((construct garbage address now).init arguments).2.2 = 0) :
    SessionCore.Collects (.head [])
      ((construct garbage address now).init arguments).1.toSessionCore := by
  unfold init at initialised ⊢
  split at initialised
  · simp at initialised
  · rename_i accepted
    rw [if_neg accepted]
    exact ⟨framed, rfl, rfl, by decide⟩

/-- Where a pass can leave a session: the call fails, or the session collects a
body for good, or it has moved with the decoder. -/
def MovesTo (state : State UInt8 HeadKind) (pass : RecvPass) : Prop :=
  (∃ nRet < 0, pass.ending = .leave nRet) ∨
    pass.session.bIsHaveHead = true ∧ pass.session.toSessionCore.Wedged ∨
      pass.session.toSessionCore.Collects state

/-- A session that collects a body for good goes on with that or fails. -/
theorem wedged_ioRecvPass
    (framed : session.bIsHaveHead = true)
    (wedged : session.toSessionCore.Wedged)
    (turn : RecvTurn)
    (state : State UInt8 HeadKind) :
    MovesTo state (session.ioRecvPass turn) := by
  obtain ⟨read, now, echo, epollCtl⟩ := turn
  cases read with
  | closed => exact Or.inl ⟨-1, by decide, rfl⟩
  | failed => exact Or.inl ⟨-2, by decide, rfl⟩
  | interrupted | again => exact Or.inr (Or.inl ⟨framed, wedged⟩)
  | data chunk =>
      have nonempty := chunk.nonempty
      have fits := chunk.fits
      have away := wedged.away
      have body : session.ioRecvData chunk.bytes now echo =
          session.ioRecvBody chunk.bytes now := by
        simp [ioRecvData, framed, wedged.hasHead]
      simp only [MovesTo, ioRecvPass, body, ioRecvBody]
      rw [if_neg (by omega)]
      split
      · rename_i less
        refine Or.inr (Or.inl ⟨framed, ?_⟩)
        exact wedged_push wedged.hasHead less (Or.inr (by omega)) nonempty fits
      · exact Or.inl ⟨-1, by decide, rfl⟩

/-- While a header is collected the session moves with the decoder, or fails. -/
theorem collects_ioRecvPass_head
    {seen : List UInt8}
    (collects : session.toSessionCore.Collects (.head seen))
    (size : format.headLength = sizeofHeadMsg)
    (turn : RecvTurn)
    (reads : seen.length + turn.bytes.length = sizeofHeadMsg →
      ReadsHead format (seen ++ turn.bytes)) :
    (∃ nRet < 0, (session.ioRecvPass turn).ending = .leave nRet) ∨
      (session.ioRecvPass turn).session.toSessionCore.Collects
        (format.feed (.head seen) turn.bytes).1 := by
  obtain ⟨read, now, echo, epollCtl⟩ := turn
  cases read with
  | closed => exact Or.inl ⟨-1, by decide, rfl⟩
  | failed => exact Or.inl ⟨-2, by decide, rfl⟩
  | interrupted | again => exact Or.inr collects
  | data chunk =>
      have bytes : RecvTurn.bytes ⟨.data chunk, now, echo, epollCtl⟩ =
          chunk.bytes := rfl
      simp only [bytes] at reads ⊢
      obtain ⟨framed, noHead, rfl, opened⟩ := collects
      have data : session.ioRecvData chunk.bytes now echo =
          session.ioRecvHead chunk.bytes now echo := by
        simp [ioRecvData, framed, noHead]
      simp only [ioRecvPass, data]
      rcases Nat.lt_trichotomy ((cachedBytes session.recvBufs).length +
          chunk.bytes.length) sizeofHeadMsg with short | full | long
      · have pass := ioRecvHead_short short now echo
        rw [pass.1, format.feed_head_short (short.trans_eq size.symm)]
        refine Or.inr ⟨framed, noHead, cachedBytes_push _ _, ?_⟩
        rw [List.length_append]
        exact short
      · have pass := ioRecvHead_full opened full now echo
        rw [pass.1, format.feed_head_full (opened.trans_eq size.symm)
          (full.trans size.symm)]
        exact Or.inr (SessionCore.collects_finishHead framed noHead
          (reads full) now)
      · exact Or.inl ⟨-1, by decide, ioRecvHead_long opened long now echo⟩

/-- While a body is collected the session moves with the decoder, or fails, or
collects the body for good. The last needs a read past its end or a negative
length. -/
theorem collects_ioRecvPass_body
    {kind : HeadKind}
    {need : Nat}
    {seen : List UInt8}
    (collects : session.toSessionCore.Collects (.body kind need seen))
    (turn : RecvTurn) :
    (∃ nRet < 0, (session.ioRecvPass turn).ending = .leave nRet) ∨
      ((session.ioRecvPass turn).session.bIsHaveHead = true ∧
        (session.ioRecvPass turn).session.toSessionCore.Wedged ∧
          (need < 2147483648 → need < turn.bytes.length)) ∨
      (session.ioRecvPass turn).session.toSessionCore.Collects
        (format.feed (.body kind need seen) turn.bytes).1 := by
  obtain ⟨read, now, echo, epollCtl⟩ := turn
  cases read with
  | closed => exact Or.inl ⟨-1, by decide, rfl⟩
  | failed => exact Or.inl ⟨-2, by decide, rfl⟩
  | interrupted | again => exact Or.inr (Or.inr collects)
  | data chunk =>
      have nonempty := chunk.nonempty
      have fits := chunk.fits
      have bytes : RecvTurn.bytes ⟨.data chunk, now, echo, epollCtl⟩ =
          chunk.bytes := rfl
      simp only [bytes]
      obtain ⟨framed, hasHead, empty, rfl, rfl, positive, bounded⟩ := collects
      have data : session.ioRecvData chunk.bytes now echo =
          session.ioRecvBody chunk.bytes now := by
        simp [ioRecvData, framed, hasHead]
      have missing := SessionCore.missingBody_of_empty empty
      simp only [ioRecvPass, data, ioRecvBody]
      split
      · rename_i equal
        have full : chunk.bytes.length = session.nNeedRecvDataLen := by
          rw [missing] at equal
          unfold signed32 at equal
          omega
        rw [format.feed_body_full (by simpa using positive)
          (by simpa using full)]
        exact Or.inr (Or.inr (SessionCore.collects_finishBody framed now))
      · split
        · rename_i less
          refine Or.inr (Or.inl ⟨framed,
            wedged_push hasHead less (Or.inl empty) nonempty fits, ?_⟩)
          intro small
          rw [missing, signed32_of_range (by omega) (by omega)] at less
          omega
        · exact Or.inl ⟨-1, by decide, rfl⟩

/-- On any read the session moves with the decoder, or fails, or collects a body
for good. -/
theorem collects_ioRecvPass
    {state : State UInt8 HeadKind}
    (collects : session.toSessionCore.Collects state)
    (size : format.headLength = sizeofHeadMsg)
    (turn : RecvTurn)
    (reads : ∀ seen, state = .head seen →
      seen.length + turn.bytes.length = sizeofHeadMsg →
        ReadsHead format (seen ++ turn.bytes)) :
    MovesTo (format.feed state turn.bytes).1 (session.ioRecvPass turn) := by
  cases state with
  | head seen =>
      rcases collects_ioRecvPass_head collects size turn (reads seen rfl) with
        fails | stays
      · exact Or.inl fails
      · exact Or.inr (Or.inr stays)
  | body kind need seen =>
      rcases @collects_ioRecvPass_body format _ _ _ _ collects turn with
        fails | wedged | stays
      · exact Or.inl fails
      · exact Or.inr (Or.inl ⟨wedged.1, wedged.2.1⟩)
      · exact Or.inr (Or.inr stays)

end TcpSession

end TransPortEngine
