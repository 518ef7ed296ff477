import TransPortEngine.TcpSession.Passes
import TransPortEngine.TcpSession.Effects

/-!
# Arbitrary bytes from a peer

Whatever a peer sends and however `read` cuts it, every block copy stays inside
its buffer, and what the application is handed are bytes of the stream that
follow a header announcing them. Once more has been cached than a body needs, or
a length is negative as an `int`, the comparisons never lead to the copying
branch again.
-/

namespace TransPortEngine

open MachineInt

/-- A block copy inside its buffer. -/
def EngineEvent.InBounds : EngineEvent → Prop
  | .memcpy capacity offset length =>
      0 ≤ offset ∧ offset + length ≤ capacity
  | _ => True

/-- Every block copy is inside its buffer. -/
def InBoundsEvents (events : List EngineEvent) : Prop :=
  ∀ event ∈ events, event.InBounds

/-- A header beginning `D`, `T`, 0 with a big-endian length. -/
structure DataHead (headMsg : List UInt8) (length : Nat) : Prop where
  size : headMsg.length = sizeofHeadMsg
  type : headMsg.take 3 = recvData
  announces : headDataLen headMsg = length

/-- Payloads that stand in a stream directly behind headers announcing them, one
after another, from a position on. -/
def StandIn (stream : List UInt8) : Nat → List (List UInt8) → Prop
  | _, [] => True
  | start, payload :: payloads =>
      ∃ before headMsg after,
        stream = before ++ headMsg ++ payload ++ after ∧
          start ≤ before.length ∧ DataHead headMsg payload.length ∧
            StandIn stream (before.length + sizeofHeadMsg + payload.length)
              payloads

/-- What stands in a stream begins with what stands in it. -/
theorem StandIn.of_append
    {stream : List UInt8}
    {start : Nat}
    {first second : List (List UInt8)}
    (standIn : StandIn stream start (first ++ second)) :
    StandIn stream start first := by
  induction first generalizing start with
  | nil => trivial
  | cons payload first inductionHypothesis =>
      obtain ⟨before, headMsg, after, isStream, starts, announces, later⟩ := standIn
      exact ⟨before, headMsg, after, isStream, starts, announces,
        inductionHypothesis later⟩

theorem inBoundsEvents_nil : InBoundsEvents [] := by
  intro event impossible
  contradiction

theorem InBoundsEvents.append
    {first second : List EngineEvent}
    (inFirst : InBoundsEvents first)
    (inSecond : InBoundsEvents second) :
    InBoundsEvents (first ++ second) := by
  intro event member
  rcases List.mem_append.mp member with before | after
  · exact inFirst event before
  · exact inSecond event after

theorem InBoundsEvents.cons
    {event : EngineEvent}
    {events : List EngineEvent}
    (inBounds : event.InBounds)
    (later : InBoundsEvents events) :
    InBoundsEvents (event :: events) := by
  intro member isMember
  rcases List.mem_cons.mp isMember with first | rest
  · exact first ▸ inBounds
  · exact later member rest

theorem inBoundsEvents_singleton
    {event : EngineEvent}
    (inBounds : event.InBounds) :
    InBoundsEvents [event] :=
  .cons inBounds inBoundsEvents_nil

theorem InBoundsEvents.recvBufLocked
    {events : List EngineEvent}
    (inBounds : InBoundsEvents events) :
    InBoundsEvents (recvBufLocked events) := by
  intro event member
  rcases List.mem_append.mp member with before | unlocked
  · rcases List.mem_append.mp before with locked | inside
    · rw [List.mem_singleton.mp locked]
      trivial
    · exact inBounds event inside
  · rw [List.mem_singleton.mp unlocked]
    trivial

/-- The copies out of the cache, when the buffer is large enough for it. -/
theorem inBounds_getRecvCacheBufCopies
    {capacity : Nat}
    {recvBufs : List BufInfo}
    {nTotalLen : Int}
    (nonneg : 0 ≤ nTotalLen)
    (fits : nTotalLen + (cachedBytes recvBufs).length ≤ capacity)
    (small : capacity < 2147483648) :
    InBoundsEvents (getRecvCacheBufCopies capacity nTotalLen recvBufs) := by
  induction recvBufs generalizing nTotalLen with
  | nil => exact inBoundsEvents_nil
  | cons bufInfo recvBufs inductionHypothesis =>
      have length : (cachedBytes (bufInfo :: recvBufs)).length =
          bufInfo.szBuf.length + (cachedBytes recvBufs).length := by
        simp [cachedBytes]
      rw [length] at fits
      push_cast at fits
      have next : signed32 (nTotalLen + bufInfo.szBuf.length) =
          nTotalLen + bufInfo.szBuf.length :=
        signed32_of_range (by omega) (by omega)
      have first : (EngineEvent.memcpy capacity nTotalLen
          bufInfo.szBuf.length).InBounds := ⟨nonneg, by omega⟩
      rw [getRecvCacheBufCopies, next]
      exact (inBoundsEvents_singleton first).append
        (inductionHypothesis (by omega) (by omega))

/-- The copies of an assembly, when the buffer is large enough for cache and
fresh bytes. -/
theorem inBounds_assembleCopies
    {capacity : Nat}
    {recvBufs : List BufInfo}
    {szRecvBuf : List UInt8}
    (fits : (cachedBytes recvBufs).length + szRecvBuf.length ≤ capacity)
    (small : capacity < 2147483648) :
    InBoundsEvents (assembleCopies capacity recvBufs szRecvBuf) := by
  have total : recvCacheTotalLen recvBufs = (cachedBytes recvBufs).length :=
    clientRecvCacheLen_eq (by omega)
  refine (InBoundsEvents.recvBufLocked ?_).append (inBoundsEvents_singleton ?_)
  · exact inBounds_getRecvCacheBufCopies le_rfl (by omega) small
  · rw [total]
    exact ⟨by omega, by omega⟩

namespace SessionCore

/-- The comparison with the missing length cannot come out equal any more. -/
structure Wedged (session : SessionCore) : Prop where
  hasHead : session.bIsRecvHead = true
  away : session.missingBody < 0 ∨ 2147483648 - 1024 ≤ session.missingBody

/-- A session that waits for the rest of a header. -/
structure AwaitsHead
    (session : SessionCore)
    (seen : List UInt8)
    (start : Nat) : Prop where
  noHead : session.bIsRecvHead = false
  short : (cachedBytes session.recvBufs).length < sizeofHeadMsg
  cut : ∃ before, seen = before ++ cachedBytes session.recvBufs ∧
    start ≤ before.length

/-- A session that waits for a body. -/
structure AwaitsBody
    (session : SessionCore)
    (seen : List UInt8)
    (start : Nat) : Prop where
  hasHead : session.bIsRecvHead = true
  empty : session.recvBufs = []
  bounded : session.nNeedRecvDataLen < 4294967296
  cut : ∃ before headMsg, seen = before ++ headMsg ∧ start ≤ before.length ∧
    headMsg.length = sizeofHeadMsg ∧
      headDataLen headMsg = session.nNeedRecvDataLen ∧
        (session.nRecvDataType = 1 → headMsg.take 3 = recvData)

/-- Where a framed session can be after it has read some bytes. -/
structure Framed
    (session : SessionCore)
    (seen : List UInt8)
    (start : Nat) : Prop where
  framed : session.bIsHaveHead = true
  place : session.AwaitsHead seen start ∨ session.AwaitsBody seen start ∨
    session.Wedged

end SessionCore

/-- A pass copies inside its buffers, hands over at most what stands in the
stream, and leaves the session framed unless it fails. -/
structure SoundPass
    (seen : List UInt8)
    (start : Nat)
    (pass : RecvPass) : Prop where
  inBounds : InBoundsEvents pass.events
  real : ∃ next, (∀ more payloads, StandIn (seen ++ more) next payloads →
      StandIn (seen ++ more) start (deliveries pass.events ++ payloads)) ∧
    ((∃ nRet < 0, pass.ending = .leave nRet) ∨
      pass.session.toSessionCore.Framed seen next)

/-- A pass that hands nothing over. -/
theorem soundPass_of_silent
    {seen : List UInt8}
    {start : Nat}
    {pass : RecvPass}
    (inBounds : InBoundsEvents pass.events)
    (silent : deliveries pass.events = [])
    (place : (∃ nRet < 0, pass.ending = .leave nRet) ∨
      pass.session.toSessionCore.Framed seen start) :
    SoundPass seen start pass := by
  refine ⟨inBounds, start, ?_, place⟩
  intro more payloads standIn
  rw [silent]
  exact standIn

namespace TcpSession

section Passes

variable {session : TcpSession} {seen : List UInt8} {start : Nat}

/-- Pushing a read when the comparison came out less keeps it from coming out
equal. -/
theorem wedged_push
    {szRecvBuf : List UInt8}
    (hasHead : session.bIsRecvHead = true)
    (less : session.toSessionCore.missingBody < szRecvBuf.length)
    (away : session.recvBufs = [] ∨ session.toSessionCore.missingBody < 0)
    (nonempty : 0 < szRecvBuf.length)
    (fits : szRecvBuf.length ≤ 1024) :
    (session.toSessionCore.pushRecvBuf szRecvBuf).Wedged := by
  refine ⟨hasHead, ?_⟩
  have pushed : (session.toSessionCore.pushRecvBuf szRecvBuf).missingBody =
      signed32 (session.nNeedRecvDataLen -
        (((cachedBytes session.recvBufs).length + szRecvBuf.length) %
          4294967296 : Nat)) := by
    rw [SessionCore.missingBody, sessionRecvCacheLen_eq,
      SessionCore.cachedBytes_pushRecvBuf, List.length_append]
    rfl
  have before : session.toSessionCore.missingBody =
      signed32 (session.nNeedRecvDataLen -
        ((cachedBytes session.recvBufs).length % 4294967296 : Nat)) := by
    rw [SessionCore.missingBody, sessionRecvCacheLen_eq]
  rw [pushed]
  rw [before] at less away
  unfold signed32 at less away ⊢
  rcases away with empty | negative
  · rw [empty, cachedBytes_nil, List.length_nil] at less ⊢
    omega
  · omega

/-- After a body the session waits for a header. -/
theorem framed_finishBody
    {next : Nat}
    (framed : session.bIsHaveHead = true)
    (bounded : next ≤ seen.length)
    (now : Int) :
    (session.toSessionCore.finishBody now).Framed seen next := by
  have core : session.toSessionCore.finishBody now =
      { session.toSessionCore with
        recvBufs := []
        bIsRecvHead := false
        nNeedRecvDataLen := 0
        tHeartbeatTimeStamp :=
          if session.nRecvDataType = 0 then now
          else session.tHeartbeatTimeStamp } := by
    unfold SessionCore.finishBody SessionCore.headleHB
    simp only
    split
    · rfl
    · rfl
  rw [core]
  exact ⟨framed, Or.inl ⟨rfl, Nat.succ_pos 7, seen, (List.append_nil seen).symm,
    bounded⟩⟩

/-- Data read while a body is expected. -/
theorem soundPass_ioRecvBody
    {szRecvBuf : List UInt8}
    (framed : session.toSessionCore.Framed seen start)
    (hasHead : session.bIsRecvHead = true)
    (nonempty : 0 < szRecvBuf.length)
    (fits : szRecvBuf.length ≤ 1024)
    (now : Int) :
    SoundPass (seen ++ szRecvBuf) start
      (session.ioRecvBody szRecvBuf now) := by
  have lens : InBoundsEvents (recvBufLocked []) :=
    inBoundsEvents_nil.recvBufLocked
  have away : session.recvBufs = [] ∨
      session.toSessionCore.missingBody < 0 ∨
        2147483648 - 1024 ≤ session.toSessionCore.missingBody := by
    rcases framed.place with head | body | wedged
    · rw [head.noHead] at hasHead
      contradiction
    · exact Or.inl body.empty
    · exact Or.inr wedged.away
  unfold ioRecvBody
  simp only
  split
  · rename_i equal
    have body : session.toSessionCore.AwaitsBody seen start := by
      rcases framed.place with head | body | wedged
      · rw [head.noHead] at hasHead
        contradiction
      · exact body
      · have away := wedged.away
        omega
    obtain ⟨before, headMsg, cut, later, size, announces, type⟩ := body.cut
    have need : szRecvBuf.length = session.nNeedRecvDataLen := by
      have bounded := body.bounded
      rw [SessionCore.missingBody, sessionRecvCacheLen_eq, body.empty,
        cachedBytes_nil, List.length_nil] at equal
      unfold signed32 at equal
      omega
    have whole := SessionCore.take_bodyBuf body.empty need (by omega)
    have size' : session.toSessionCore.bodyBufLen =
        session.nNeedRecvDataLen + 1 := by
      unfold SessionCore.bodyBufLen unsigned32
      omega
    have copies : InBoundsEvents (assembleCopies
        session.toSessionCore.bodyBufLen session.recvBufs szRecvBuf) := by
      refine inBounds_assembleCopies ?_ (by omega)
      rw [body.empty, cachedBytes_nil, List.length_nil]
      omega
    have position : (seen ++ szRecvBuf).length =
        before.length + sizeofHeadMsg + szRecvBuf.length := by
      rw [cut, List.length_append, List.length_append, size]
    have silent : ∀ events, InBoundsEvents events → deliveries events = [] →
        SoundPass (seen ++ szRecvBuf) start
          ⟨session.setCore (session.toSessionCore.finishBody now),
            recvBufLocked [] ++ assembleCopies session.toSessionCore.bodyBufLen
              session.recvBufs szRecvBuf ++ events, .loop⟩ := by
      intro events inBounds none
      refine soundPass_of_silent ((lens.append copies).append inBounds) ?_
        (Or.inr (framed_finishBody framed.framed (by omega) now))
      rw [deliveries_append, deliveries_append, deliveries_assembleCopies, none]
      rfl
    unfold bodyEvents
    split
    · exact silent _ (inBoundsEvents_singleton trivial) rfl
    · split
      · rename_i isData
        refine ⟨(lens.append copies).append (inBoundsEvents_singleton trivial),
          before.length + sizeofHeadMsg + szRecvBuf.length, ?_, Or.inr ?_⟩
        · intro more payloads standIn
          rw [deliveries_append, deliveries_append, deliveries_assembleCopies,
            whole]
          refine ⟨before, headMsg, more, ?_, later, ?_, standIn⟩
          · rw [cut]
          · exact ⟨size, type isData.1, announces.trans need.symm⟩
        · exact framed_finishBody framed.framed position.ge now
      · exact silent _ inBoundsEvents_nil rfl
  · split
    · rename_i notEqual less
      refine soundPass_of_silent ((lens.append lens).append lens) rfl (Or.inr ?_)
      refine ⟨framed.framed, Or.inr (Or.inr ?_)⟩
      refine wedged_push hasHead less ?_ nonempty fits
      rcases away with empty | negative | large
      · exact Or.inl empty
      · exact Or.inr negative
      · omega
    · exact soundPass_of_silent ((lens.append lens).append lens) rfl
        (Or.inl ⟨-1, by decide, rfl⟩)

theorem inBounds_ioSend
    (szData : Option (List UInt8))
    (nDataLen : Int)
    (outcomes : SendOutcomes) :
    InBoundsEvents (session.ioSend szData nDataLen outcomes).events := by
  have writes : ∀ (bytes : List UInt8) (nWriteLen : Nat)
      (results : List WriteResult),
      InBoundsEvents
        (ioSendWrites session.nSocket bytes nWriteLen results) := by
    intro bytes nWriteLen results
    induction results generalizing nWriteLen with
    | nil => exact inBoundsEvents_nil
    | cons result results inductionHypothesis =>
        rw [ioSendWrites]
        split
        · split
          · exact inBoundsEvents_singleton trivial
          · exact .cons trivial (inductionHypothesis _)
        · exact inBoundsEvents_nil
  rcases (session.ioSend_writes szData nDataLen outcomes).2 with none | ⟨_, some⟩
  · rw [none]
    exact inBoundsEvents_nil
  · rw [some]
    exact writes _ _ _

/-- The answer to a header hands nothing over. -/
theorem headEvents_silent (headMsg : List UInt8) (echo : EchoOutcomes) :
    InBoundsEvents (session.headEvents headMsg echo) ∧
      deliveries (session.headEvents headMsg echo) = [] := by
  unfold headEvents
  split
  · rw [deliveries_append, deliveries_ioSend, List.append_nil]
    split
    · exact ⟨inBoundsEvents_nil.append (inBounds_ioSend _ _ _), rfl⟩
    · exact ⟨.cons trivial (inBounds_ioSend _ _ _), rfl⟩
  · exact ⟨inBoundsEvents_nil, rfl⟩

/-- Behind a complete header the session waits for the body it announces, or for
the next header. -/
theorem framed_finishHead
    {before headMsg : List UInt8}
    (framed : session.bIsHaveHead = true)
    (noHead : session.bIsRecvHead = false)
    (cut : seen = before ++ headMsg)
    (size : headMsg.length = sizeofHeadMsg)
    (later : start ≤ before.length)
    (now : Int) :
    (session.toSessionCore.finishHead headMsg now).Framed seen start := by
  have position : seen.length = before.length + sizeofHeadMsg := by
    rw [cut, List.length_append, size]
  have again : ∀ core : SessionCore, core.bIsHaveHead = true →
      core.bIsRecvHead = false → core.recvBufs = [] →
        core.Framed seen start := by
    intro core isFramed isNoHead empty
    refine ⟨isFramed, Or.inl ⟨isNoHead, ?_, seen, ?_, by omega⟩⟩
    · rw [empty]
      exact Nat.succ_pos 7
    · rw [empty, cachedBytes_nil, List.append_nil]
  have stored : ∀ type : Int, (type = 1 → headMsg.take 3 = recvData) →
      0 < headDataLen headMsg →
        (session.toSessionCore.storeHead type headMsg).Framed seen start := by
    intro type isType positive
    refine ⟨framed, Or.inr (Or.inl ⟨?_, rfl, headDataLen_lt headMsg, before,
      headMsg, cut, later, size, rfl, isType⟩)⟩
    simp [SessionCore.storeHead, positive]
  unfold SessionCore.finishHead
  split
  · simp only
    split
    · rename_i positive
      refine stored 0 ?_ positive
      intro impossible
      contradiction
    · rename_i empty
      have none : ¬0 < headDataLen headMsg := empty
      refine again _ framed ?_ rfl
      simp [SessionCore.storeHead, SessionCore.headleHB, none, noHead]
  · split
    · rename_i isData
      by_cases positive : 0 < headDataLen headMsg
      · refine stored 1 ?_ positive
        intro _
        exact eq_of_beq isData
      · refine again _ framed ?_ rfl
        simp [SessionCore.storeHead, positive, noHead]
    · exact again _ framed noHead rfl

/-- Data read while a header is expected. -/
theorem soundPass_ioRecvHead
    {szRecvBuf : List UInt8}
    (framed : session.bIsHaveHead = true)
    (head : session.toSessionCore.AwaitsHead seen start)
    (now : Int)
    (echo : EchoOutcomes) :
    SoundPass (seen ++ szRecvBuf) start
      (session.ioRecvHead szRecvBuf now echo) := by
  have lens : InBoundsEvents (recvBufLocked []) :=
    inBoundsEvents_nil.recvBufLocked
  obtain ⟨before, cut, later⟩ := head.cut
  have short := head.short
  have missing := session.toSessionCore.missingHead_eq short
  unfold ioRecvHead
  simp only [missing]
  split
  · exact soundPass_of_silent lens rfl (Or.inl ⟨-1, by decide, rfl⟩)
  · split
    · rename_i less
      refine soundPass_of_silent ((lens.append lens).append lens) rfl (Or.inr ?_)
      refine ⟨framed, Or.inl ⟨head.noHead, ?_, before, ?_, later⟩⟩
      · simp only [toSessionCore_setCore, SessionCore.cachedBytes_pushRecvBuf,
          List.length_append]
        omega
      · simp only [toSessionCore_setCore, SessionCore.cachedBytes_pushRecvBuf]
        rw [cut, List.append_assoc]
    · have full : (cachedBytes session.recvBufs).length + szRecvBuf.length =
          sizeofHeadMsg := by
        omega
      have assembled := SessionCore.headBuf_eq full
      have copies : InBoundsEvents
          (assembleCopies sizeofHeadMsg session.recvBufs szRecvBuf) :=
        inBounds_assembleCopies full.le (by decide)
      have core := framed_finishHead framed head.noHead
        (cut ▸ List.append_assoc before _ szRecvBuf)
        (List.length_append.trans full) later now
      rw [← assembled] at core
      have answer : ∀ object : TcpSession,
          InBoundsEvents (object.headEvents (session.headBuf szRecvBuf) echo) ∧
            deliveries
              (object.headEvents (session.headBuf szRecvBuf) echo) = [] :=
        fun object => headEvents_silent _ echo
      refine soundPass_of_silent
        ((((lens.append lens).append lens).append copies).append (answer _).1) ?_
        (Or.inr core)
      rw [deliveries_append, deliveries_append, deliveries_assembleCopies,
        (answer _).2]
      rfl

/-- One iteration of the receive loop. -/
theorem soundPass_ioRecvPass
    (framed : session.toSessionCore.Framed seen start)
    (turn : RecvTurn) :
    SoundPass (seen ++ turn.bytes) start (session.ioRecvPass turn) := by
  have reads : ∀ pass : RecvPass, SoundPass (seen ++ turn.bytes) start pass →
      SoundPass (seen ++ turn.bytes) start
        { pass with events := .read session.nSocket :: pass.events } := by
    intro pass sound
    exact ⟨.cons trivial sound.inBounds, sound.real⟩
  have stays : ∀ (events : List EngineEvent) (ending : PassEnd),
      InBoundsEvents events → deliveries events = [] →
        SoundPass (seen ++ []) start ⟨session, events, ending⟩ := by
    intro events ending inBounds silent
    refine soundPass_of_silent inBounds silent (Or.inr ?_)
    rw [List.append_nil]
    exact framed
  unfold ioRecvPass
  apply reads
  obtain ⟨read, now, echo, epollCtl⟩ := turn
  cases read with
  | closed | interrupted | failed => exact stays [] _ inBoundsEvents_nil rfl
  | again =>
      exact stays (session.modEvent epollCtl).1 _
        (.cons trivial inBoundsEvents_nil) rfl
  | data chunk =>
      simp only [ioRecvData, framed.framed, if_true]
      split
      · rename_i hasHead
        exact soundPass_ioRecvBody framed hasHead chunk.nonempty chunk.fits _
      · rename_i noHead
        rcases framed.place with head | body | wedged
        · exact soundPass_ioRecvHead framed.framed head _ _
        · exact absurd body.hasHead noHead
        · exact absurd wedged.hasHead noHead

/-- All calls up to the first that fails. -/
theorem sound_ioRecvCalls
    (framed : session.toSessionCore.Framed seen start)
    (turns : List RecvTurn) :
    InBoundsEvents (session.ioRecvCalls turns).events ∧
      StandIn (seen ++ turns.flatMap RecvTurn.bytes) start
        (deliveries (session.ioRecvCalls turns).events) := by
  induction turns generalizing session seen start with
  | nil => exact ⟨inBoundsEvents_nil, trivial⟩
  | cons turn turns inductionHypothesis =>
      obtain ⟨inBounds, next, lift, place⟩ := soundPass_ioRecvPass framed turn
      rw [ioRecvCalls, List.flatMap_cons, ← List.append_assoc]
      have goesOn : (session.ioRecvPass turn).session.toSessionCore.Framed
          (seen ++ turn.bytes) next →
            InBoundsEvents ((session.ioRecvPass turn).events ++
                ((session.ioRecvPass turn).session.ioRecvCalls turns).events) ∧
              StandIn (seen ++ turn.bytes ++ turns.flatMap RecvTurn.bytes) start
                (deliveries ((session.ioRecvPass turn).events ++
                  ((session.ioRecvPass turn).session.ioRecvCalls
                    turns).events)) := by
        intro continues
        have later := inductionHypothesis continues
        rw [deliveries_append]
        exact ⟨inBounds.append later.1, lift _ _ later.2⟩
      simp only
      cases ending : (session.ioRecvPass turn).ending with
      | loop =>
          rw [ending] at place
          rcases place with ⟨nRet, -, impossible⟩ | continues
          · contradiction
          · exact goesOn continues
      | leave nRet =>
          simp only
          split
          · refine ⟨inBounds, ?_⟩
            rw [← List.append_nil (deliveries (session.ioRecvPass turn).events)]
            exact lift _ [] trivial
          · rename_i succeeded
            rw [ending] at place
            rcases place with ⟨left, negative, same⟩ | continues
            · exact absurd (PassEnd.leave.inj same ▸ negative) succeeded
            · exact goesOn continues

end Passes

end TcpSession

/-- Whatever bytes a session of a framed server reads and however they are cut,
up to the first call that fails every block copy is inside its buffer, and the
payloads handed over stand in the stream behind their headers, one after
another. -/
theorem sound_of_anyStream
    (garbage : SessionGarbage)
    (address : Nat)
    (now : Int)
    (arguments : SessionArguments)
    (framed : arguments.bIsHaveHead = true)
    (initialised :
      ((TcpSession.construct garbage address now).init arguments).2.2 = 0)
    (turns : List RecvTurn) :
    let session := ((TcpSession.construct garbage address now).init arguments).1
    InBoundsEvents (session.ioRecvCalls turns).events ∧
      StandIn (turns.flatMap RecvTurn.bytes) 0
        (deliveries (session.ioRecvCalls turns).events) := by
  intro session
  have start : session.toSessionCore.Framed [] 0 := by
    unfold TcpSession.init at initialised
    simp only [session]
    unfold TcpSession.init
    split at initialised
    · simp only at initialised
      contradiction
    · rename_i accepted
      rw [if_neg accepted]
      exact ⟨framed, Or.inl ⟨rfl, Nat.succ_pos 7, [], rfl, le_rfl⟩⟩
  exact TcpSession.sound_ioRecvCalls start turns

/-- A header that announces four gigabytes, and a few bytes more. -/
def hugeLength : List RecvTurn :=
  [⟨.data ⟨[0x44, 0x54, 0, 0, 0xff, 0xff, 0xff, 0xff], by decide, by decide⟩, 0,
      .failed, true⟩,
    ⟨.data ⟨[0x44, 0x54, 0, 0], by decide, by decide⟩, 0, .failed, true⟩]

/-- The session of an accepted connection with the socket 16. -/
def acceptedSession : TcpSession :=
  ((TcpSession.construct ⟨false, false, 0, 0⟩ 0x7f0000001010 0).init
    ⟨16, true, true, true, true, true⟩).1

theorem sound_hugeLength :
    InBoundsEvents (acceptedSession.ioRecvCalls hugeLength).events ∧
      StandIn (hugeLength.flatMap RecvTurn.bytes) 0
        (deliveries (acceptedSession.ioRecvCalls hugeLength).events) :=
  sound_of_anyStream ⟨false, false, 0, 0⟩ 0x7f0000001010 0
    ⟨16, true, true, true, true, true⟩ rfl rfl hugeLength

end TransPortEngine
