import TransPortEngine.Library.FrameReceiver
import TransPortEngine.TcpClient.Stream
import TransPortEngine.TcpSession.Passes
import TransPortEngine.TcpSession.Stream

/-!
# Delivery from a framed client to a session

The receive loop of a session is compared with the decoder of the framing. It
agrees with the decoder on a read that stays inside a header and on a body that
comes in one read. Any other read ends the connection or makes the session go
silent, so these are the only cuts of a stream that are delivered.
-/

namespace TransPortEngine

open Framing MachineInt

/-- A turn in which the kernel hands over part of the stream, reports that
nothing is available and lets the descriptor be armed, or is interrupted. -/
def RecvTurn.OfStream (turn : RecvTurn) : Prop :=
  match turn.read with
  | .data _ => True
  | .again => turn.epollCtl = true
  | .interrupted => True
  | .closed => False
  | .failed => False

namespace TcpSession

/-- One turn of the loop as a step of a receiver. -/
def recvStep
    (session : TcpSession)
    (turn : RecvTurn) : Option (TcpSession × List (List UInt8)) :=
  let pass := session.ioRecvPass turn
  match pass.ending with
  | .loop => some (pass.session, deliveries pass.events)
  | .leave nRet =>
      if nRet < 0 then none else some (pass.session, deliveries pass.events)

/-- A turn that hands over nothing changes nothing. -/
theorem recvStep_quiet
    {turn : RecvTurn}
    (session : TcpSession)
    (ofStream : turn.OfStream)
    (quiet : ∀ chunk, turn.read ≠ .data chunk) :
    session.recvStep turn = some (session, []) ∧ turn.bytes = [] := by
  unfold RecvTurn.OfStream at ofStream
  unfold recvStep ioRecvPass RecvTurn.bytes
  cases read : turn.read with
  | data chunk => exact absurd read (quiet chunk)
  | closed => simp [read] at ofStream
  | again =>
      rw [read] at ofStream
      simp [modEvent, ofStream, deliveries, EngineEvent.delivery]
  | interrupted => simp [deliveries, EngineEvent.delivery]
  | failed => simp [read] at ofStream

/-- A turn with data goes on as its pass does. -/
theorem recvStep_loop
    {session : TcpSession}
    {turn : RecvTurn}
    {chunk : Chunk 1024}
    (read : turn.read = .data chunk)
    (loops : (session.ioRecvData chunk.bytes turn.now turn.echo).ending =
      .loop) :
    session.recvStep turn =
      some ((session.ioRecvData chunk.bytes turn.now turn.echo).session,
        deliveries
          (session.ioRecvData chunk.bytes turn.now turn.echo).events) := by
  simp only [recvStep, ioRecvPass, read, loops]
  rfl

/-- A turn whose pass leaves with an error fails. -/
theorem recvStep_leave
    {session : TcpSession}
    {turn : RecvTurn}
    {chunk : Chunk 1024}
    (read : turn.read = .data chunk)
    (leaves : (session.ioRecvData chunk.bytes turn.now turn.echo).ending =
      .leave (-1)) :
    session.recvStep turn = none := by
  simp [recvStep, ioRecvPass, read, leaves]

/-! ## Reads that fit -/

/-- On a read that fits, the session does what the decoder does. -/
theorem recvStep_simulates
    (state : State UInt8 HeadKind)
    (session : TcpSession)
    (turn : RecvTurn)
    (rest : List UInt8)
    (frames : List (Frame frameFormat))
    (follows : session.toSessionCore.Follows state)
    (ofStream : turn.OfStream)
    (pending : frameFormat.Pending state (turn.bytes ++ rest) frames)
    (fits : frameFormat.WholeBody state turn.bytes) :
    ∃ next, session.recvStep turn =
        some (next,
          (frameFormat.feed state turn.bytes).2.filterMap deliverData) ∧
      next.toSessionCore.Follows (frameFormat.feed state turn.bytes).1 := by
  by_cases quiet : ∀ chunk, turn.read ≠ .data chunk
  · obtain ⟨stepped, noBytes⟩ := recvStep_quiet session ofStream quiet
    rw [noBytes]
    exact ⟨session, stepped, follows⟩
  · push Not at quiet
    obtain ⟨chunk, read⟩ := quiet
    have bytes : turn.bytes = chunk.bytes := by
      rw [RecvTurn.bytes, read]
    rw [bytes] at pending fits ⊢
    have nonempty := chunk.nonempty
    cases state with
    | head seen =>
        obtain ⟨framed, receives, noHead, rfl, opened⟩ := follows
        have data : session.ioRecvData chunk.bytes turn.now turn.echo =
            session.ioRecvHead chunk.bytes turn.now turn.echo := by
          simp [ioRecvData, framed, noHead]
        rcases Nat.lt_or_eq_of_le fits with short | full
        · obtain ⟨sessionEq, silent, loops⟩ :=
            ioRecvHead_short short turn.now turn.echo
          rw [← data] at sessionEq silent loops
          rw [recvStep_loop read loops, sessionEq, silent,
            frameFormat.feed_head_short short]
          refine ⟨_, rfl, framed, receives, noHead, ?_, ?_⟩
          · exact SessionCore.cachedBytes_pushRecvBuf _ _
          · rw [List.length_append]
            exact short
        · obtain ⟨sessionEq, silent, loops⟩ :=
            ioRecvHead_full opened full turn.now turn.echo
          rw [← data] at sessionEq silent loops
          obtain ⟨frame, later, rfl, headEq, -⟩ := pending.headComplete full
          rw [headEq] at sessionEq
          have after := SessionCore.follows_afterHead framed receives noHead
            frame turn.now
          rw [recvStep_loop read loops, sessionEq, silent,
            frameFormat.feed_head_full opened full, headEq, after.2]
          exact ⟨_, rfl, after.1⟩
    | body kind need seen =>
        obtain ⟨framed, receives, hasHead, empty, rfl, rfl, isData, needEq,
          positive, small⟩ := follows
        have data : session.ioRecvData chunk.bytes turn.now turn.echo =
            session.ioRecvBody chunk.bytes turn.now := by
          simp [ioRecvData, framed, hasHead]
        have full : chunk.bytes.length = need := by
          rcases fits with none | full
          · rw [none] at nonempty
            simp at nonempty
          · simpa using full
        obtain ⟨sessionEq, delivered, loops⟩ :=
          ioRecvBody_full receives isData empty (full.trans needEq.symm)
            (needEq ▸ small) turn.now
        rw [← data] at sessionEq delivered loops
        rw [recvStep_loop read loops, sessionEq, delivered,
          frameFormat.feed_body_full (by simpa using positive)
            (by simpa using full)]
        exact ⟨_, rfl,
          SessionCore.follows_finishBody framed receives isData turn.now⟩

/-! ## Reads that do not fit -/

/-- A session that has run past a body fails or delivers nothing more. -/
theorem recvStep_overrun
    (session : TcpSession)
    (turn : RecvTurn)
    (overrun : session.toSessionCore.Overrun) :
    session.recvStep turn = none ∨
      ∃ next, session.recvStep turn = some (next, []) ∧
        next.toSessionCore.Overrun := by
  cases read : turn.read with
  | data chunk =>
      have data : session.ioRecvData chunk.bytes turn.now turn.echo =
          session.ioRecvBody chunk.bytes turn.now := by
        simp [ioRecvData, overrun.framed, overrun.hasHead]
      rcases ioRecvBody_overrun overrun chunk turn.now with
        leaves | ⟨loops, silent, overrun'⟩
      · left
        rw [← data] at leaves
        exact recvStep_leave read leaves
      · right
        rw [← data] at loops silent overrun'
        rw [recvStep_loop read loops, silent]
        exact ⟨_, rfl, overrun'⟩
  | closed => simp [recvStep, ioRecvPass, read]
  | again =>
      cases done : turn.epollCtl with
      | true =>
          right
          refine ⟨session, ?_, overrun⟩
          simp [recvStep, ioRecvPass, read, modEvent, done, deliveries,
            EngineEvent.delivery]
      | false => simp [recvStep, ioRecvPass, read, modEvent, done]
  | interrupted =>
      right
      refine ⟨session, ?_, overrun⟩
      simp [recvStep, ioRecvPass, read, deliveries, EngineEvent.delivery]
  | failed => simp [recvStep, ioRecvPass, read]

/-- On any other read the session fails, or goes silent with a payload still to
be delivered. -/
theorem recvStep_loses
    (state : State UInt8 HeadKind)
    (session : TcpSession)
    (turn : RecvTurn)
    (rest : List UInt8)
    (frames : List (Frame frameFormat))
    (follows : session.toSessionCore.Follows state)
    (pending : frameFormat.Pending state (turn.bytes ++ rest) frames)
    (unfit : ¬frameFormat.WholeBody state turn.bytes) :
    session.recvStep turn = none ∨
      ∃ next, session.recvStep turn = some (next, []) ∧
        next.toSessionCore.Overrun ∧
          frames.filterMap (fun frame => deliverData frame.output) ≠ [] := by
  cases read : turn.read with
  | data chunk =>
      have bytes : turn.bytes = chunk.bytes := by
        rw [RecvTurn.bytes, read]
      rw [bytes] at pending unfit
      cases state with
      | head seen =>
          obtain ⟨framed, receives, noHead, rfl, opened⟩ := follows
          have data : session.ioRecvData chunk.bytes turn.now turn.echo =
              session.ioRecvHead chunk.bytes turn.now turn.echo := by
            simp [ioRecvData, framed, noHead]
          have leaves := ioRecvHead_long opened (not_le.mp unfit) turn.now
            turn.echo
          rw [← data] at leaves
          exact Or.inl (recvStep_leave read leaves)
      | body kind need seen =>
          have undelivered := follows.undelivered pending
          obtain ⟨framed, receives, hasHead, empty, rfl, rfl, isData, needEq,
            positive, small⟩ := follows
          have data : session.ioRecvData chunk.bytes turn.now turn.echo =
              session.ioRecvBody chunk.bytes turn.now := by
            simp [ioRecvData, framed, hasHead]
          have lengths : chunk.bytes.length ≠ session.nNeedRecvDataLen := by
            intro full
            apply unfit
            right
            simpa [needEq] using full
          rcases Nat.lt_or_gt_of_ne lengths with short | long
          · have leaves := ioRecvBody_short empty short (needEq ▸ small)
              turn.now
            rw [← data] at leaves
            exact Or.inl (recvStep_leave read leaves)
          · obtain ⟨loops, silent, overrun⟩ :=
              ioRecvBody_long framed hasHead empty long turn.now
            rw [← data] at loops silent overrun
            right
            rw [recvStep_loop read loops, silent]
            exact ⟨_, rfl, overrun, undelivered⟩
  | closed | again | interrupted | failed =>
      exfalso
      apply unfit
      have noBytes : turn.bytes = [] := by
        rw [RecvTurn.bytes, read]
      rw [noBytes]
      cases state with
      | head seen =>
          obtain ⟨-, -, -, -, opened⟩ := follows
          exact Nat.le_of_lt opened
      | body kind need seen => exact Or.inl rfl

/-! ## Whole runs -/

/-- A pass that leaves the loop delivers nothing. -/
theorem deliveries_of_leave
    {session : TcpSession}
    {turn : RecvTurn}
    {nRet : Int}
    (leaves : (session.ioRecvPass turn).ending = .leave nRet) :
    deliveries (session.ioRecvPass turn).events = [] := by
  unfold ioRecvPass at leaves ⊢
  cases read : turn.read with
  | data chunk =>
      simp only [read] at leaves ⊢
      simp only [ioRecvData] at leaves ⊢
      split
      · rename_i framed
        rw [if_pos framed] at leaves
        split
        · rename_i hasHead
          rw [if_pos hasHead] at leaves
          simp only [ioRecvBody] at leaves ⊢
          split at leaves
          · contradiction
          · split at leaves
            · contradiction
            · rename_i unequal notLess
              rw [if_neg unequal, if_neg notLess]
              rfl
        · rename_i noHead
          rw [if_neg noHead] at leaves
          simp only [ioRecvHead] at leaves ⊢
          split at leaves
          · rename_i long
            rw [if_pos long]
            rfl
          · split at leaves <;> contradiction
      · rename_i unframed
        rw [if_neg unframed] at leaves
        contradiction
  | closed => rfl
  | again => rfl
  | interrupted => rfl
  | failed => rfl

/-- What the repeated calls deliver, and whether none of them fails, is what
the receiver made of the single turns does. -/
theorem receive_recvStep
    (session : TcpSession)
    (turns : List RecvTurn) :
    (receive recvStep session turns).1 =
        deliveries (session.ioRecvCalls turns).events ∧
      ((receive recvStep session turns).2 = true ↔
        ∀ nRet ∈ (session.ioRecvCalls turns).results, 0 ≤ nRet) := by
  induction turns generalizing session with
  | nil => simp [ioRecvCalls]
  | cons turn turns inductionHypothesis =>
      have later := inductionHypothesis (session.ioRecvPass turn).session
      rw [ioRecvCalls]
      cases ending : (session.ioRecvPass turn).ending with
      | loop =>
          have stepped : session.recvStep turn =
              some ((session.ioRecvPass turn).session,
                deliveries (session.ioRecvPass turn).events) := by
            simp only [recvStep, ending]
          rw [receive_cons_some stepped]
          simpa using later
      | leave nRet =>
          by_cases negative : nRet < 0
          · have stepped : session.recvStep turn = none := by
              simp only [recvStep, ending, if_pos negative]
            have silent := deliveries_of_leave ending
            rw [receive_cons_none stepped]
            simp [negative, silent]
          · have stepped : session.recvStep turn =
                some ((session.ioRecvPass turn).session,
                  deliveries (session.ioRecvPass turn).events) := by
              simp only [recvStep, ending, if_neg negative]
            rw [receive_cons_some stepped]
            simp only [if_neg negative, deliveries_append, List.mem_cons,
              forall_eq_or_imp]
            refine ⟨by rw [later.1], ?_⟩
            rw [later.2]
            simp [not_lt.mp negative]

/-- The application got exactly the payloads sent, and no call failed. -/
def ReceivesExactly
    (session : TcpSession)
    (sends : List ClientSend)
    (turns : List RecvTurn) : Prop :=
  deliveries (session.ioRecvCalls turns).events = sentPayloads sends ∧
    ∀ nRet ∈ (session.ioRecvCalls turns).results, 0 ≤ nRet

/-- A session delivers the payloads of a framed client without failing exactly
when no read runs past the end of a header and every body comes in one read of
its own. It starts the way `TcpSession_Init` leaves a session for framed traffic
with a receiver (`atFrameStart_init`). -/
theorem receivesExactly_iff_wholeBody
    (client : TcpClient)
    (session : TcpSession)
    (sends : List ClientSend)
    (turns : List RecvTurn)
    (framed : client.bIsHaveHead = true)
    (start : session.toSessionCore.AtFrameStart)
    (ofStream : ∀ turn ∈ turns, turn.OfStream)
    (cut : turns.flatMap RecvTurn.bytes = client.stream sends) :
    session.ReceivesExactly sends turns ↔
      frameFormat.Along frameFormat.WholeBody (.head [])
        (turns.map RecvTurn.bytes) := by
  have follows := start.follows
  have pending : frameFormat.Pending (.head [])
      (turns.flatMap RecvTurn.bytes) (sends.map ClientSend.frame) := by
    rw [cut, TcpClient.stream_eq_wire framed]
    exact Format.pending_wire _
  have received := Format.receive_iff_along recvStep_simulates
    (fun state session turn rest frames follows _ pending unfit =>
      recvStep_loses state session turn rest frames follows pending unfit)
    recvStep_overrun turns follows pending
    (permitted_of_forall turns session ofStream)
  have calls := receive_recvStep session turns
  rw [← received, deliverData_frames, Prod.ext_iff, calls.1, calls.2]
  rfl

/-! ### One letter in one frame -/

/-- An echo whose first write takes everything. -/
def plainEcho : EchoOutcomes where
  outcomes := ⟨[.accepted 8], true⟩
  returns := by decide

/-- Reads of header and body of the letter, then an empty socket. -/
def headThenBody : List RecvTurn :=
  [⟨.data ⟨dataHeadMsg 1, by decide, by decide⟩, 0, plainEcho, true⟩,
    ⟨.data ⟨letterA.bytes, letterA.nonempty, by decide⟩, 0, plainEcho, true⟩,
    ⟨.again, 0, plainEcho, true⟩]

/-- The same bytes in one read. -/
def headAndBody : List RecvTurn :=
  [⟨.data ⟨dataHeadMsg 1 ++ [0x41], by decide, by decide⟩, 0, plainEcho, true⟩]

theorem receivesExactly_headThenBody :
    framedSession.ReceivesExactly [.data letterA] headThenBody :=
  (receivesExactly_iff_wholeBody TcpClient.framedClient framedSession _ _ rfl
    ⟨rfl, rfl, rfl, rfl⟩ (by simp [headThenBody, RecvTurn.OfStream])
    (by decide)).mpr (by decide)

/-- A frame that arrives in one read is lost, and with it the connection. -/
theorem not_receivesExactly_headAndBody :
    ¬∀ (client : TcpClient) (session : TcpSession)
        (sends : List ClientSend) (turns : List RecvTurn),
      client.bIsHaveHead = true → session.toSessionCore.AtFrameStart →
        (∀ turn ∈ turns, turn.OfStream) →
          turns.flatMap RecvTurn.bytes = client.stream sends →
            session.ReceivesExactly sends turns := by
  intro always
  have received := always TcpClient.framedClient framedSession [.data letterA]
    headAndBody rfl ⟨rfl, rfl, rfl, rfl⟩
    (by simp [headAndBody, RecvTurn.OfStream]) (by decide)
  have failed : (framedSession.ioRecvCalls headAndBody).results = [-1] := by
    decide
  have nonnegative := received.2 (-1) (by rw [failed]; simp)
  contradiction

end TcpSession

end TransPortEngine
