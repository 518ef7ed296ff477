import TransPortEngine.Library.FrameReceiver
import TransPortEngine.TcpClient.Stream
import TransPortEngine.TcpSession.Iocp
import TransPortEngine.TcpSession.Passes

/-!
# Delivery from a framed client to a session on Windows

Here a receive asks only for what the current header or body lacks. Headers can
therefore be cut anywhere, but the body branch has the same inverted comparisons
as on Linux: a body is delivered only when a single completion brings all of it.
-/

namespace TransPortEngine

open Framing MachineInt

namespace IocpSession

/-- One completion as a step of a receiver. -/
def recvStep
    (session : IocpSession)
    (turn : IocpTurn) : Option (IocpSession × List (List UInt8)) :=
  let call := session.complete turn
  if call.2.2 < 0 then none else some (call.1, deliveries call.2.1)

/-- The session is where the decoder is, and has asked for what the decoder
lacks. -/
structure Awaits (state : State UInt8 HeadKind) (session : IocpSession) :
    Prop where
  follows : session.toSessionCore.Follows state
  remains : session.bIsToBeClose = false
  requested : session.perIoContextRecv.wsaBufLen = frameFormat.request state

section Passes

variable {session : IocpSession}

/-- What a header still lacks. -/
theorem missingHead_eq
    (short : (cachedBytes session.recvBufs).length < sizeofHeadMsg) :
    session.missingHead =
      sizeofHeadMsg - (cachedBytes session.recvBufs).length := by
  have small : (cachedBytes session.recvBufs).length < 8 := short
  rw [missingHead, sessionRecvCacheLen_eq]
  unfold unsigned64 sizeofHeadMsg
  omega

/-- What a body lacks before its first byte. -/
theorem missingBody_eq
    (empty : session.recvBufs = [])
    (small : session.nNeedRecvDataLen < 2147483648) :
    session.missingBody = session.nNeedRecvDataLen := by
  rw [missingBody, sessionRecvCacheLen_eq, empty]
  unfold unsigned32
  simp only [cachedBytes_nil, List.length_nil]
  omega

/-- A session asks for what the decoder lacks. -/
theorem nextWsaBufLen_eq
    {state : State UInt8 HeadKind}
    (follows : session.toSessionCore.Follows state) :
    session.nextWsaBufLen.1 = frameFormat.request state := by
  cases state with
  | head seen =>
      obtain ⟨framed, -, noHead, rfl, opened⟩ := follows
      have missing := session.missingHead_eq opened
      have small : session.missingHead < 4294967296 := by
        rw [missing, sizeofHeadMsg]
        omega
      simp only [nextWsaBufLen, framed, noHead, if_true]
      exact (unsigned32_natCast small).trans missing
  | body kind need seen =>
      obtain ⟨framed, -, hasHead, empty, rfl, -, -, needEq, -, small⟩ := follows
      have missing := session.missingBody_eq empty (needEq ▸ small)
      simp [nextWsaBufLen, framed, hasHead, missing, needEq, Format.request]

@[simp] theorem deliveries_nextWsaBufLen (session : IocpSession) :
    deliveries session.nextWsaBufLen.2 = [] := by
  unfold nextWsaBufLen
  split
  · split <;> rfl
  · rfl

/-- A receive posted on a session that is not being closed. -/
theorem post_eq
    (session : IocpSession)
    (remains : session.bIsToBeClose = false) :
    session.post true =
      ({ session with perIoContextRecv := { session.perIoContextRecv with
          wsaBufLen := session.nextWsaBufLen.1 } },
        session.nextWsaBufLen.2 ++
          [.wsaRecv session.socket session.nextWsaBufLen.1 true], 0) := by
  simp [post, remains]

/-- A completion is handled by the framing code and followed by the next
post. -/
theorem complete_eq (session : IocpSession) (turn : IocpTurn) :
    session.complete turn =
      (session.received turn.bytes).ioRecvPost
        ((session.received turn.bytes).ioRecvData turn.bytes turn.now
          turn.echoPosted) turn.recvPosted := by
  have nonempty : turn.bytes.length ≠ 0 :=
    Nat.ne_of_gt turn.chunk.nonempty
  have recvLen : (session.received turn.bytes).perIoContextRecv.dwRecvLen =
      turn.bytes.length := rfl
  have buffer : (session.received turn.bytes).perIoContextRecv.szBuffer =
      turn.bytes := rfl
  rw [complete, ioRecv]
  simp only [recvLen, buffer, if_neg nonempty, List.take_length]

/-- Data that are accepted leave the session waiting for more. -/
theorem recvStep_of_some
    {state : State UInt8 HeadKind}
    {next : IocpSession}
    {turn : IocpTurn}
    (handled : ((session.received turn.bytes).ioRecvData turn.bytes turn.now
      turn.echoPosted).1 = some next)
    (follows : next.toSessionCore.Follows state)
    (remains : next.bIsToBeClose = false)
    (posted : turn.recvPosted = true) :
    ∃ armed, session.recvStep turn =
        some (armed, deliveries ((session.received turn.bytes).ioRecvData
          turn.bytes turn.now turn.echoPosted).2) ∧
      armed.Awaits state := by
  have armed := next.clearBuffer.post_eq remains
  have requested : next.clearBuffer.nextWsaBufLen.1 =
      frameFormat.request state := nextWsaBufLen_eq follows
  refine ⟨(next.clearBuffer.post true).1, ?_, ?_⟩
  · simp only [recvStep, complete_eq, ioRecvPost, handled, posted, armed]
    rw [if_neg (lt_irrefl 0), deliveries_append, deliveries_append,
      deliveries_nextWsaBufLen, List.nil_append]
    simp [deliveries, EngineEvent.delivery]
  · rw [armed]
    exact ⟨follows, remains, requested⟩

/-- Data that are refused end the connection. -/
theorem recvStep_of_none
    {turn : IocpTurn}
    (handled : ((session.received turn.bytes).ioRecvData turn.bytes turn.now
      turn.echoPosted).1 = none) :
    session.recvStep turn = none := by
  simp [recvStep, complete_eq, ioRecvPost, handled]

/-- The echo of a heartbeat leaves the framing state and the receive alone. -/
theorem ioSend_frame
    (session : IocpSession)
    (szData : List UInt8)
    (nDataLen : Int)
    (posted : Bool) :
    let sent := session.ioSend szData nDataLen posted
    sent.1.toSessionCore = session.toSessionCore ∧
      sent.1.bIsToBeClose = session.bIsToBeClose ∧ deliveries sent.2.1 = [] := by
  simp only [ioSend]
  split
  · exact ⟨rfl, rfl, rfl⟩
  · split
    · exact ⟨rfl, rfl, rfl⟩
    · split
      · exact ⟨rfl, rfl, rfl⟩
      · exact ⟨rfl, rfl, rfl⟩

/-- A piece that stays inside the header is kept. -/
theorem ioRecvHead_short
    {szRecvBuf : List UInt8}
    (short : (cachedBytes session.recvBufs).length + szRecvBuf.length <
      sizeofHeadMsg)
    (now : Int)
    (echoPosted : Bool) :
    let pass := session.ioRecvHead szRecvBuf now echoPosted
    pass.1 = some (session.setCore
        (session.toSessionCore.pushRecvBuf szRecvBuf)) ∧
      deliveries pass.2 = [] := by
  have missing := session.missingHead_eq (by omega)
  simp only [ioRecvHead]
  rw [if_neg (by omega), if_pos (by omega)]
  exact ⟨rfl, rfl⟩

/-- A piece that completes the header acts on it. -/
theorem ioRecvHead_full
    {szRecvBuf : List UInt8}
    (opened : (cachedBytes session.recvBufs).length < sizeofHeadMsg)
    (full : (cachedBytes session.recvBufs).length + szRecvBuf.length =
      sizeofHeadMsg)
    (now : Int)
    (echoPosted : Bool) :
    let pass := session.ioRecvHead szRecvBuf now echoPosted
    ∃ next, pass.1 = some next ∧
      next.toSessionCore = session.toSessionCore.finishHead
        (cachedBytes session.recvBufs ++ szRecvBuf) now ∧
      next.bIsToBeClose = session.bIsToBeClose ∧ deliveries pass.2 = [] := by
  have missing := session.missingHead_eq opened
  have assembled := session.toSessionCore.headBuf_eq full
  simp only [ioRecvHead]
  rw [if_neg (by omega), if_neg (by omega), assembled]
  split
  · have echo := ioSend_frame
      (session.setCore (session.toSessionCore.finishHead
        (cachedBytes session.recvBufs ++ szRecvBuf) now))
      (cachedBytes session.recvBufs ++ szRecvBuf) sizeofHeadMsg echoPosted
    refine ⟨_, rfl, echo.1, echo.2.1, ?_⟩
    rw [deliveries_append, deliveries_append, echo.2.2]
    simp only [deliveries_append, deliveries_assembleCopies]
    split <;> rfl
  · refine ⟨_, rfl, rfl, rfl, ?_⟩
    simp only [deliveries_append, deliveries_assembleCopies]
    rfl

/-- A body of type 1 that comes in one completion is delivered. -/
theorem ioRecvBody_full
    {szRecvBuf : List UInt8}
    (receives : session.hasTransPortEngineRecv = true)
    (isData : session.nRecvDataType = 1)
    (empty : session.recvBufs = [])
    (full : szRecvBuf.length = session.nNeedRecvDataLen)
    (small : session.nNeedRecvDataLen < 2147483648)
    (now : Int) :
    let pass := session.ioRecvBody szRecvBuf now
    pass.1 = some (session.setCore (session.toSessionCore.finishBody now)) ∧
      deliveries pass.2 = [szRecvBuf] := by
  have missing := session.missingBody_eq empty small
  have body := session.toSessionCore.take_bodyBuf empty full small
  simp only [ioRecvBody]
  rw [if_pos (by omega)]
  refine ⟨rfl, ?_⟩
  simp only [bodyEvents, isData, receives, body, deliveries_append,
    deliveries_assembleCopies]
  rfl

/-- A piece that stops inside the body ends the connection. -/
theorem ioRecvBody_short
    {szRecvBuf : List UInt8}
    (empty : session.recvBufs = [])
    (short : szRecvBuf.length < session.nNeedRecvDataLen)
    (small : session.nNeedRecvDataLen < 2147483648)
    (now : Int) :
    (session.ioRecvBody szRecvBuf now).1 = none := by
  have missing := session.missingBody_eq empty small
  simp only [ioRecvBody]
  rw [if_neg (by omega), if_neg (by omega)]

end Passes

/-- What the environment of a session may do: complete at most what was posted,
and accept the next post. -/
def Allowed (session : IocpSession) (turn : IocpTurn) : Prop :=
  turn.bytes.length ≤ session.perIoContextRecv.wsaBufLen ∧
    turn.recvPosted = true

/-- On a completion that fits, the session does what the decoder does. -/
theorem recvStep_simulates
    (state : State UInt8 HeadKind)
    (session : IocpSession)
    (turn : IocpTurn)
    (rest : List UInt8)
    (frames : List (Frame frameFormat))
    (awaits : session.Awaits state)
    (allowed : session.Allowed turn)
    (pending : frameFormat.Pending state (turn.bytes ++ rest) frames)
    (fits : frameFormat.WholeBody state turn.bytes) :
    ∃ next, session.recvStep turn =
        some (next,
          (frameFormat.feed state turn.bytes).2.filterMap deliverData) ∧
      next.Awaits (frameFormat.feed state turn.bytes).1 := by
  have nonempty := turn.chunk.nonempty
  have follows : (session.received turn.bytes).toSessionCore.Follows state :=
    awaits.follows
  have remains : (session.received turn.bytes).bIsToBeClose = false :=
    awaits.remains
  cases state with
  | head seen =>
      obtain ⟨framed, receives, noHead, rfl, opened⟩ := follows
      have data : (session.received turn.bytes).ioRecvData turn.bytes turn.now
          turn.echoPosted = (session.received turn.bytes).ioRecvHead turn.bytes
            turn.now turn.echoPosted := by
        simp [ioRecvData, framed, noHead]
      rcases Nat.lt_or_eq_of_le fits with short | full
      · obtain ⟨handled, silent⟩ :=
          ioRecvHead_short short turn.now turn.echoPosted
        rw [← data] at handled silent
        rw [frameFormat.feed_head_short short]
        have followsNext :
            ((session.received turn.bytes).toSessionCore.pushRecvBuf
              turn.bytes).Follows (.head (cachedBytes
                (session.received turn.bytes).recvBufs ++ turn.bytes)) := by
          refine ⟨framed, receives, noHead,
            SessionCore.cachedBytes_pushRecvBuf _ _, ?_⟩
          rw [List.length_append]
          exact short
        have kept := recvStep_of_some handled followsNext remains allowed.2
        rw [silent] at kept
        exact kept
      · obtain ⟨next, handled, core, keeps, silent⟩ :=
          ioRecvHead_full opened full turn.now turn.echoPosted
        rw [← data] at handled silent
        obtain ⟨frame, later, rfl, headEq, -⟩ := pending.headComplete full
        rw [headEq] at core
        have after := SessionCore.follows_afterHead framed receives noHead
          frame turn.now
        rw [← core] at after
        rw [frameFormat.feed_head_full opened full, headEq, after.2]
        have acted := recvStep_of_some handled after.1 (keeps.trans remains)
          allowed.2
        rw [silent] at acted
        exact acted
  | body kind need seen =>
      obtain ⟨framed, receives, hasHead, empty, rfl, rfl, isData, needEq,
        positive, small⟩ := follows
      have data : (session.received turn.bytes).ioRecvData turn.bytes turn.now
          turn.echoPosted =
            (session.received turn.bytes).ioRecvBody turn.bytes turn.now := by
        simp [ioRecvData, framed, hasHead]
      have full : turn.bytes.length = need := by
        rcases fits with none | full
        · rw [IocpTurn.bytes] at none
          rw [none] at nonempty
          simp at nonempty
        · simpa using full
      obtain ⟨handled, delivered⟩ :=
        ioRecvBody_full receives isData empty (full.trans needEq.symm)
          (needEq ▸ small) turn.now
      rw [← data] at handled delivered
      rw [frameFormat.feed_body_full (by simpa using positive)
        (by simpa using full)]
      have finished := recvStep_of_some handled
        (SessionCore.follows_finishBody framed receives isData turn.now)
        remains allowed.2
      rw [delivered] at finished
      exact finished

/-- On any other completion the connection ends. -/
theorem recvStep_loses
    (state : State UInt8 HeadKind)
    (session : IocpSession)
    (turn : IocpTurn)
    (awaits : session.Awaits state)
    (allowed : session.Allowed turn)
    (unfit : ¬frameFormat.WholeBody state turn.bytes) :
    session.recvStep turn = none := by
  have granted := allowed.1
  rw [awaits.requested] at granted
  have follows : (session.received turn.bytes).toSessionCore.Follows state :=
    awaits.follows
  cases state with
  | head seen =>
      exfalso
      apply unfit
      obtain ⟨-, -, -, -, opened⟩ := follows
      simp only [Format.request, frameFormat_headLength] at granted
      change seen.length + turn.bytes.length ≤ sizeofHeadMsg
      omega
  | body kind need seen =>
      obtain ⟨framed, receives, hasHead, empty, rfl, rfl, isData, needEq,
        positive, small⟩ := follows
      have data : (session.received turn.bytes).ioRecvData turn.bytes turn.now
          turn.echoPosted =
            (session.received turn.bytes).ioRecvBody turn.bytes turn.now := by
        simp [ioRecvData, framed, hasHead]
      have short : turn.bytes.length <
          (session.received turn.bytes).nNeedRecvDataLen := by
        rw [needEq]
        apply Nat.lt_of_le_of_ne
        · simpa [Format.request] using granted
        · intro full
          exact unfit (Or.inr (by simpa using full))
      have handled := ioRecvBody_short empty short (needEq ▸ small) turn.now
      rw [← data] at handled
      exact recvStep_of_none handled

/-! ## Whole runs -/

/-- Data that are refused deliver nothing. -/
theorem deliveries_of_refused
    {session : IocpSession}
    {szRecvBuf : List UInt8}
    {now : Int}
    {echoPosted : Bool}
    (refused : (session.ioRecvData szRecvBuf now echoPosted).1 = none) :
    deliveries (session.ioRecvData szRecvBuf now echoPosted).2 = [] := by
  unfold ioRecvData at refused ⊢
  split
  · rename_i framed
    rw [if_pos framed] at refused
    split
    · rename_i hasHead
      rw [if_pos hasHead] at refused
      simp only [ioRecvBody] at refused ⊢
      split at refused
      · contradiction
      · split at refused
        · contradiction
        · rename_i unequal notLess
          rw [if_neg unequal, if_neg notLess]
          rfl
    · rename_i noHead
      rw [if_neg noHead] at refused
      simp only [ioRecvHead] at refused ⊢
      split at refused
      · rename_i long
        rw [if_pos long]
        rfl
      · split at refused
        · contradiction
        · split at refused <;> contradiction
  · rename_i unframed
    rw [if_neg unframed] at refused
    contradiction

/-- With a successful post, a negative result means that the data were
refused. -/
theorem deliveries_of_negative
    {session : IocpSession}
    {turn : IocpTurn}
    (posted : turn.recvPosted = true)
    (negative : (session.complete turn).2.2 < 0) :
    deliveries (session.complete turn).2.1 = [] := by
  rw [complete_eq] at negative ⊢
  cases handled : ((session.received turn.bytes).ioRecvData turn.bytes
      turn.now turn.echoPosted).1 with
  | none =>
      simp only [ioRecvPost, handled]
      exact deliveries_of_refused handled
  | some next =>
      exfalso
      simp only [ioRecvPost, handled, post, posted] at negative
      split at negative <;> simp at negative

/-- What the handled completions deliver, and whether none of them fails, is
what the receiver made of them does. -/
theorem receive_recvStep
    {session : IocpSession}
    {turns : List IocpTurn}
    (posted : session.Posted turns) :
    (receive recvStep session turns).1 =
        deliveries (session.completeAll turns).1 ∧
      ((receive recvStep session turns).2 = true ↔
        ∀ nRet ∈ (session.completeAll turns).2, 0 ≤ nRet) := by
  induction turns generalizing session with
  | nil => simp [completeAll]
  | cons turn turns inductionHypothesis =>
      obtain ⟨-, recvPosted, postedLater⟩ := posted
      rw [completeAll]
      by_cases negative : (session.complete turn).2.2 < 0
      · have stepped : session.recvStep turn = none := by
          simp [recvStep, negative]
        have silent := deliveries_of_negative recvPosted negative
        rw [receive_cons_none stepped]
        simp [negative, silent]
      · have nonnegative := not_lt.mp negative
        have stepped : session.recvStep turn =
            some ((session.complete turn).1,
              deliveries (session.complete turn).2.1) := by
          simp [recvStep, negative]
        have later := inductionHypothesis (postedLater nonnegative)
        rw [receive_cons_some stepped]
        simp only [if_neg negative, deliveries_append, List.mem_cons,
          forall_eq_or_imp]
        refine ⟨by rw [later.1], ?_⟩
        rw [later.2]
        simp [nonnegative]

/-- Completions of posted receives are what the environment of the receiver
permits. -/
theorem permitted_of_posted
    {session : IocpSession}
    {turns : List IocpTurn}
    (posted : session.Posted turns) :
    Permitted recvStep Allowed session turns := by
  induction turns generalizing session with
  | nil => trivial
  | cons turn turns inductionHypothesis =>
      obtain ⟨granted, recvPosted, postedLater⟩ := posted
      refine ⟨⟨granted, recvPosted⟩, ?_⟩
      intro next delivered stepped
      simp only [recvStep] at stepped
      split at stepped
      · contradiction
      · rename_i nonnegative
        simp only [Option.some.injEq, Prod.mk.injEq] at stepped
        rw [← stepped.1]
        exact inductionHypothesis (postedLater (not_lt.mp nonnegative))

/-- A framed session whose first receive is posted waits for a header. -/
theorem awaits_postRecv
    {garbage : SessionGarbage}
    {now : Int}
    {arguments : IocpArguments}
    (framed : arguments.bIsHaveHead = true)
    (receives : arguments.hasTransPortEngineRecv = true) :
    ((accepted garbage now arguments).postRecv true).1.Awaits (.head []) := by
  have follows : (accepted garbage now arguments).toSessionCore.Follows
      (.head []) := ⟨framed, receives, rfl, rfl, by decide⟩
  have armed := (accepted garbage now arguments).post_eq rfl
  rw [postRecv, armed]
  exact ⟨follows, rfl, nextWsaBufLen_eq follows⟩

/-- A session delivers the payloads of a framed client without failing exactly
when every body comes in one completion of its own. -/
theorem completeAll_delivers_iff_wholeBody
    (client : TcpClient)
    (session : IocpSession)
    (sends : List ClientSend)
    (turns : List IocpTurn)
    (framed : client.bIsHaveHead = true)
    (start : session.Awaits (.head []))
    (posted : session.Posted turns)
    (cut : turns.flatMap IocpTurn.bytes = client.stream sends) :
    (deliveries (session.completeAll turns).1 = sentPayloads sends ∧
        ∀ nRet ∈ (session.completeAll turns).2, 0 ≤ nRet) ↔
      frameFormat.Along frameFormat.WholeBody (.head [])
        (turns.map IocpTurn.bytes) := by
  have pending : frameFormat.Pending (.head [])
      (turns.flatMap IocpTurn.bytes) (sends.map ClientSend.frame) := by
    rw [cut, TcpClient.stream_eq_wire framed]
    exact Format.pending_wire _
  have received := Format.receive_iff_along recvStep_simulates
    (fun state session turn _ _ awaits allowed _ unfit =>
      Or.inl (recvStep_loses state session turn awaits allowed unfit))
    (fun _ _ (impossible : False) => impossible.elim) turns start pending
    (permitted_of_posted posted)
  have calls := receive_recvStep posted
  rw [← received, deliverData_frames, Prod.ext_iff, calls.1, calls.2]

/-! ### Two letters in three completions -/

/-- A session of a framed connection with its first receive posted. -/
def framedIocpSession : IocpSession :=
  ((accepted ⟨false, false, 0, 0⟩ 0 ⟨7, 0, true, true⟩).postRecv true).1

/-- The header of a two-byte payload in two completions, its body in one. -/
def cutHead : List IocpTurn :=
  [⟨⟨[0x44, 0x54, 0], by decide, by decide⟩, 0, true, true⟩,
    ⟨⟨[0, 0, 0, 0, 2], by decide, by decide⟩, 0, true, true⟩,
    ⟨⟨lettersAB.bytes, lettersAB.nonempty, by decide⟩, 0, true, true⟩]

/-- The same frame with the body in two completions. -/
def cutBody : List IocpTurn :=
  [⟨⟨[0x44, 0x54, 0, 0, 0, 0, 0, 2], by decide, by decide⟩, 0, true, true⟩,
    ⟨⟨letterA.bytes, letterA.nonempty, by decide⟩, 0, true, true⟩,
    ⟨⟨[0x42], by decide, by decide⟩, 0, true, true⟩]

theorem completeAll_delivers_cutHead :
    deliveries (framedIocpSession.completeAll cutHead).1 = [[0x41, 0x42]] ∧
      ∀ nRet ∈ (framedIocpSession.completeAll cutHead).2, 0 ≤ nRet :=
  (completeAll_delivers_iff_wholeBody TcpClient.framedClient framedIocpSession
    [.data lettersAB] cutHead rfl (awaits_postRecv rfl rfl)
    ⟨by decide, rfl, fun _ => ⟨by decide, rfl, fun _ => ⟨by decide, rfl,
      fun _ => trivial⟩⟩⟩
    (by decide)).mpr (by decide)

/-- A body that arrives in two completions is lost, and with it the
connection. -/
theorem not_completeAll_delivers_cutBody :
    ¬∀ (client : TcpClient) (session : IocpSession)
        (sends : List ClientSend) (turns : List IocpTurn),
      client.bIsHaveHead = true → session.Awaits (.head []) →
        (∀ payload ∈ sentPayloads sends, payload.length ≤ maxBufferLen) →
        session.Posted turns →
          turns.flatMap IocpTurn.bytes = client.stream sends →
            deliveries (session.completeAll turns).1 = sentPayloads sends ∧
              ∀ nRet ∈ (session.completeAll turns).2, 0 ≤ nRet := by
  intro always
  have received := always TcpClient.framedClient framedIocpSession
    [.data lettersAB] cutBody rfl (awaits_postRecv rfl rfl) (by decide)
    ⟨by decide, rfl, fun _ => ⟨by decide, rfl, fun _ => ⟨by decide, rfl,
      fun _ => trivial⟩⟩⟩
    (by decide)
  have failed : (framedIocpSession.completeAll cutBody).2 = [0, -1] := by
    decide
  have nonnegative := received.2 (-1) (by rw [failed]; simp)
  contradiction

end IocpSession

end TransPortEngine
