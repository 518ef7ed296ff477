import TransPortEngine.HeaderPlaces

/-!
# Heartbeats and eviction

A timed run of one session: reads of its stream, each at the time the clock shows
while it is handled, and visits of the sweep. Next to the code's time stamp the
run keeps a record of when a heartbeat of the stream was last complete. The two
agree for a framed session that never reads past a body; a session without
framing never looks at what it receives.
-/

namespace TransPortEngine

open Framing MachineInt Transition

/-- A part of what a peer sends: a frame, or bytes without framing. -/
inductive Segment
  | frame (frame : Frame anyFormat)
  | raw (bytes : List UInt8)

namespace Segment

/-- The bytes of a segment. -/
def bytes : Segment → List UInt8
  | .frame unit => unit.symbols
  | .raw content => content

/-- An empty heartbeat. -/
def isHeartbeat : Segment → Bool
  | .frame unit => headKind unit.head = .heartbeat ∧ unit.body = []
  | .raw _ => false

end Segment

/-- The bytes of a stream. -/
def streamOf (segments : List Segment) : List UInt8 :=
  segments.flatMap Segment.bytes

/-- Where the heartbeats of a stream end that begins at a position. -/
def heartbeatEnds : Nat → List Segment → List Nat
  | _, [] => []
  | start, segment :: segments =>
      let next := start + segment.bytes.length
      if segment.isHeartbeat then next :: heartbeatEnds next segments
      else heartbeatEnds next segments

/-- A read completes a heartbeat of the stream. -/
def completesHeartbeat
    (segments : List Segment)
    (position length : Nat) : Bool :=
  (heartbeatEnds 0 segments).any fun heartbeatEnd =>
    position < heartbeatEnd ∧ heartbeatEnd ≤ position + length

/-- A session in a timed run: the number of bytes it has read, the clock, and
when a heartbeat of the stream was last complete. -/
structure TimedSession where
  session : TcpSession
  position : Nat
  clock : Int
  heartbeat : Int

/-- What happens in a timed run. -/
inductive TimedInput
  | read (turn : RecvTurn)
  | sweep (now : Int)

/-- The bytes a step reads. -/
def TimedInput.bytes : TimedInput → List UInt8
  | .read turn => turn.bytes
  | .sweep _ => []

namespace TimedSession

/-- One step of a timed run. The clock does not go back, and a read that fails
ends the session. -/
def step
    (segments : List Segment)
    (timed : TimedSession) : TimedInput → Option TimedSession
  | .read turn =>
      if turn.now < timed.clock then none
      else
        (TcpSession.readStep (timed.session, timed.position) turn).map
          fun place =>
            ⟨place.1, place.2, turn.now,
              if completesHeartbeat segments timed.position turn.bytes.length
              then turn.now else timed.heartbeat⟩
  | .sweep now =>
      if now < timed.clock then none else some { timed with clock := now }

/-- A session that has just been accepted. -/
def accepted
    (garbage : SessionGarbage)
    (address : Nat)
    (now : Int)
    (arguments : SessionArguments) : TimedSession where
  session := ((TcpSession.construct garbage address now).init arguments).1
  position := 0
  clock := now
  heartbeat := now

theorem step_sweep
    {segments : List Segment}
    {timed next : TimedSession}
    {now : Int}
    (stepped : step segments timed (.sweep now) = some next) :
    timed.clock ≤ now ∧ next = { timed with clock := now } := by
  simp only [step] at stepped
  split at stepped
  · contradiction
  · exact ⟨by omega, (Option.some.inj stepped).symm⟩

theorem step_read
    {segments : List Segment}
    {timed next : TimedSession}
    {turn : RecvTurn}
    (stepped : step segments timed (.read turn) = some next) :
    timed.clock ≤ turn.now ∧
      (∀ nRet < 0, (timed.session.ioRecvPass turn).ending ≠ .leave nRet) ∧
        next = ⟨(timed.session.ioRecvPass turn).session,
          timed.position + turn.bytes.length, turn.now,
          if completesHeartbeat segments timed.position turn.bytes.length
          then turn.now else timed.heartbeat⟩ := by
  simp only [step] at stepped
  split at stepped
  · contradiction
  · obtain ⟨place, placeStep, rfl⟩ := Option.map_eq_some_iff.mp stepped
    obtain ⟨rfl, succeeds⟩ := TcpSession.readStep_cases placeStep
    exact ⟨by omega, succeeds, rfl⟩

/-- `TcpSessionMgr_HeartbeatDetection` evicts the session in a step. Without
heartbeats its loop ends at once. -/
def Evicts
    (bIsHaveHB : Bool)
    (timed : TimedSession)
    (input : TimedInput) : Prop :=
  ∃ now, input = .sweep now ∧ bIsHaveHB = true ∧
    timed.session.isHeartbeatTimeOut now = true

/-- Whenever the sweep comes, the session has received a heartbeat, or been
created, in the last `HEARTBEAT_TIMEOUT` seconds. -/
def Fed (timed : TimedSession) (input : TimedInput) : Prop :=
  ∀ now, input = .sweep now → now - timed.heartbeat ≤ heartbeatTimeout

/-- A read that begins in a body does not run past its end. -/
def StaysInBody (timed : TimedSession) (input : TimedInput) : Prop :=
  ∀ turn, input = .read turn → timed.session.bIsRecvHead = true →
    turn.bytes.length ≤ timed.session.nNeedRecvDataLen

end TimedSession

/-- A stream of frames that both ends understand. -/
def UnderstoodStream (segments : List Segment) : Prop :=
  ∀ segment ∈ segments, ∃ frame, segment = .frame frame ∧ Understood frame

/-! ## Where heartbeats end -/

/-- A heartbeat that ends somewhere is one of the segments. -/
theorem exists_of_mem_heartbeatEnds
    {segments : List Segment}
    {start heartbeatEnd : Nat}
    (member : heartbeatEnd ∈ heartbeatEnds start segments) :
    ∃ earlier segment later, segments = earlier ++ segment :: later ∧
      segment.isHeartbeat = true ∧
        heartbeatEnd = start + (streamOf earlier).length + segment.bytes.length := by
  induction segments generalizing start with
  | nil => contradiction
  | cons first segments inductionHypothesis =>
      have later : heartbeatEnd ∈
          heartbeatEnds (start + first.bytes.length) segments →
          ∃ earlier segment later, first :: segments =
              earlier ++ segment :: later ∧ segment.isHeartbeat = true ∧
            heartbeatEnd =
              start + (streamOf earlier).length + segment.bytes.length := by
        intro isLater
        obtain ⟨earlier, segment, later, rfl, isHeartbeat, endEq⟩ :=
          inductionHypothesis isLater
        refine ⟨first :: earlier, segment, later, rfl, isHeartbeat, ?_⟩
        rw [endEq, streamOf, streamOf, List.flatMap_cons, List.length_append]
        omega
      simp only [heartbeatEnds] at member
      split at member
      · rename_i isHeartbeat
        rcases List.mem_cons.mp member with isFirst | isLater
        · exact ⟨[], first, segments, rfl, isHeartbeat, by rw [isFirst]; rfl⟩
        · exact later isLater
      · exact later member

/-- The frames of an understood stream. -/
theorem UnderstoodStream.frames
    {segments : List Segment}
    (understood : UnderstoodStream segments) :
    ∃ frames : List (Frame anyFormat), segments = frames.map Segment.frame ∧
      ∀ frame ∈ frames, Understood frame := by
  induction segments with
  | nil => exact ⟨[], rfl, fun _ impossible => by contradiction⟩
  | cons segment segments inductionHypothesis =>
      obtain ⟨frame, rfl, known⟩ := understood segment List.mem_cons_self
      obtain ⟨frames, rfl, knownLater⟩ := inductionHypothesis
        fun later member => understood later (List.mem_cons_of_mem _ member)
      refine ⟨frame :: frames, rfl, ?_⟩
      intro other member
      rcases List.mem_cons.mp member with rfl | isLater
      · exact known
      · exact knownLater other isLater

theorem streamOf_frames (frames : List (Frame anyFormat)) :
    streamOf (frames.map Segment.frame) = wire frames := by
  simp [streamOf, wire, List.flatMap_map, Segment.bytes]

/-! ## The time stamp -/

namespace SessionCore

variable (session : SessionCore) (now : Int)

theorem tHeartbeatTimeStamp_finishBody :
    (session.finishBody now).tHeartbeatTimeStamp =
        session.tHeartbeatTimeStamp ∨
      (session.finishBody now).tHeartbeatTimeStamp = now := by
  unfold finishBody headleHB
  simp only
  split
  · exact Or.inr rfl
  · exact Or.inl rfl

theorem tHeartbeatTimeStamp_finishHead (headMsg : List UInt8) :
    (session.finishHead headMsg now).tHeartbeatTimeStamp =
        session.tHeartbeatTimeStamp ∨
      (session.finishHead headMsg now).tHeartbeatTimeStamp = now := by
  unfold finishHead
  split
  · dsimp only
    split
    · exact Or.inl rfl
    · exact Or.inr rfl
  · split
    · exact Or.inl rfl
    · exact Or.inl rfl

/-- The header of an empty heartbeat sets the time stamp. -/
theorem tHeartbeatTimeStamp_heartbeat
    {headMsg : List UInt8}
    (isHeartbeat : headKind headMsg = .heartbeat)
    (empty : headDataLen headMsg = 0) :
    (session.finishHead headMsg now).tHeartbeatTimeStamp = now := by
  have type := headTypeIs_of_headKind_heartbeat isHeartbeat
  have core : session.finishHead headMsg now =
      (session.storeHead 0 headMsg).headleHB now := by
    simp [finishHead, type, storeHead, empty]
  rw [core]
  rfl

end SessionCore

namespace TcpSession

/-- A read leaves the time stamp or sets it. -/
theorem tHeartbeatTimeStamp_ioRecvPass
    (session : TcpSession)
    (turn : RecvTurn) :
    (session.ioRecvPass turn).session.tHeartbeatTimeStamp =
        session.tHeartbeatTimeStamp ∨
      (session.ioRecvPass turn).session.tHeartbeatTimeStamp = turn.now := by
  obtain ⟨read, now, echo, epollCtl⟩ := turn
  cases read with
  | closed | failed | interrupted | again => exact Or.inl rfl
  | data chunk =>
      simp only [ioRecvPass, ioRecvData]
      split
      · split
        · unfold ioRecvBody
          dsimp only
          split
          · exact session.toSessionCore.tHeartbeatTimeStamp_finishBody now
          · split
            · exact Or.inl rfl
            · exact Or.inl rfl
        · unfold ioRecvHead
          dsimp only
          split
          · exact Or.inl rfl
          · split
            · exact Or.inl rfl
            · exact session.toSessionCore.tHeartbeatTimeStamp_finishHead now _
      · exact Or.inl rfl

/-- A read that completes the header of an empty heartbeat sets the time
stamp. -/
theorem tHeartbeatTimeStamp_heartbeatRead
    {session : TcpSession}
    {seen : List UInt8}
    (collects : session.toSessionCore.Collects (.head seen))
    {turn : RecvTurn}
    (full : seen.length + turn.bytes.length = sizeofHeadMsg)
    (isHeartbeat : headKind (seen ++ turn.bytes) = .heartbeat)
    (empty : headDataLen (seen ++ turn.bytes) = 0) :
    (session.ioRecvPass turn).session.tHeartbeatTimeStamp = turn.now := by
  obtain ⟨framed, noHead, rfl, opened⟩ := collects
  obtain ⟨read, now, echo, epollCtl⟩ := turn
  cases read with
  | closed | failed | interrupted | again =>
      change (cachedBytes session.recvBufs).length + 0 = sizeofHeadMsg at full
      omega
  | data chunk =>
      have data : session.ioRecvData chunk.bytes now echo =
          session.ioRecvHead chunk.bytes now echo := by
        simp [ioRecvData, framed, noHead]
      have bytes : RecvTurn.bytes ⟨.data chunk, now, echo, epollCtl⟩ =
          chunk.bytes := rfl
      rw [bytes] at full isHeartbeat empty
      have pass := ioRecvHead_full opened full now echo
      simp only [ioRecvPass, data]
      rw [pass.1]
      exact session.toSessionCore.tHeartbeatTimeStamp_heartbeat now isHeartbeat
        empty

/-- A read that overruns a header fails. -/
theorem fails_of_long
    {session : TcpSession}
    {seen : List UInt8}
    (collects : session.toSessionCore.Collects (.head seen))
    {turn : RecvTurn}
    (long : sizeofHeadMsg < seen.length + turn.bytes.length) :
    (session.ioRecvPass turn).ending = .leave (-1) := by
  obtain ⟨framed, noHead, rfl, opened⟩ := collects
  obtain ⟨read, now, echo, epollCtl⟩ := turn
  cases read with
  | closed | failed | interrupted | again =>
      change sizeofHeadMsg < (cachedBytes session.recvBufs).length + 0 at long
      omega
  | data chunk =>
      have data : session.ioRecvData chunk.bytes now echo =
          session.ioRecvHead chunk.bytes now echo := by
        simp [ioRecvData, framed, noHead]
      simp only [ioRecvPass, data]
      exact ioRecvHead_long opened long now echo

end TcpSession

/-! ## Framed sessions -/

section Framed

variable {done left : List (Frame anyFormat)} {state : State UInt8 HeadKind}
  {rest : List UInt8} {session : TcpSession} {position : Nat}

/-- A read that does not fail, and does not run past a body, moves the session
with the decoder of an understood stream. -/
theorem collects_of_staysInBody
    (understood : ∀ frame ∈ done ++ left, Understood frame)
    {turn : RecvTurn}
    (pending : anyFormat.Pending state (turn.bytes ++ rest) left)
    (collects : session.toSessionCore.Collects state)
    (inBody : session.bIsRecvHead = true →
      turn.bytes.length ≤ session.nNeedRecvDataLen)
    (succeeds : ∀ nRet < 0, (session.ioRecvPass turn).ending ≠ .leave nRet) :
    (session.ioRecvPass turn).session.toSessionCore.Collects
      (anyFormat.feed state turn.bytes).1 := by
  cases state with
  | head seen =>
      rcases TcpSession.collects_ioRecvPass_head collects rfl turn
        (fun full => (reads_of_pending understood rfl pending full).1) with
        ⟨nRet, negative, failed⟩ | moved
      · exact absurd failed (succeeds nRet negative)
      · exact moved
  | body kind need seen =>
      rcases TcpSession.collects_ioRecvPass_body collects turn with
        ⟨nRet, negative, failed⟩ | ⟨-, -, past⟩ | moved
      · exact absurd failed (succeeds nRet negative)
      · obtain ⟨frame, later, rfl, -, length, -⟩ := pending
        have known := understood frame (by simp)
        have within := inBody collects.2.1
        rw [collects.2.2.2.2.1] at within
        have overrun := past (length ▸ known.2)
        omega
      · exact moved

/-- A read that completes a heartbeat of the stream completes its header, and
sets the time stamp. -/
theorem stamped_of_completesHeartbeat
    {frames : List (Frame anyFormat)}
    {turn : RecvTurn}
    (cut : frames = done ++ left)
    (pending : anyFormat.Pending state (turn.bytes ++ rest) left)
    (remains : position + (turn.bytes ++ rest).length = (wire frames).length)
    (collects : session.toSessionCore.Collects state)
    (inBody : session.bIsRecvHead = true →
      turn.bytes.length ≤ session.nNeedRecvDataLen)
    (succeeds : ∀ nRet < 0, (session.ioRecvPass turn).ending ≠ .leave nRet)
    (completes : completesHeartbeat (frames.map Segment.frame) position
      turn.bytes.length = true) :
    (session.ioRecvPass turn).session.tHeartbeatTimeStamp = turn.now := by
  obtain ⟨heartbeatEnd, member, isCompleted⟩ := List.any_eq_true.mp completes
  obtain ⟨before, atEnd⟩ := of_decide_eq_true isCompleted
  obtain ⟨earlier, segment, later, streamEq, isHeartbeat, endEq⟩ :=
    exists_of_mem_heartbeatEnds member
  obtain ⟨earlier, others, rfl, rfl, othersEq⟩ :=
    List.map_eq_append_iff.mp streamEq
  obtain ⟨frame, later, rfl, rfl, rfl⟩ := List.map_eq_cons_iff.mp othersEq
  obtain ⟨kind, noBody⟩ := of_decide_eq_true isHeartbeat
  rw [streamOf_frames] at endEq
  have size : frame.symbols.length = sizeofHeadMsg := by
    rw [Frame.symbols, noBody, List.append_nil, frame.head_length]
    rfl
  have place : position = (wire done).length + anyFormat.consumed state := by
    have lengths := pending.length
    rw [cut, wire_append] at remains
    simp only [List.length_append] at lengths remains
    omega
  have symbols : (Segment.frame frame).bytes.length = sizeofHeadMsg := size
  have sizes : ∀ current : Frame anyFormat,
      current.symbols.length = sizeofHeadMsg + current.body.length := by
    intro current
    rw [Frame.symbols, List.length_append, current.head_length]
    rfl
  cases state with
  | head seen =>
      have noOverrun : seen.length + turn.bytes.length ≤ sizeofHeadMsg := by
        by_contra long
        exact succeeds (-1) (by decide)
          (TcpSession.fails_of_long collects (by omega))
      have consumed : anyFormat.consumed (.head seen) = seen.length := rfl
      obtain ⟨⟨_, rfl⟩, same⟩ := current_of_end cut (by omega)
        (fun current _ _ => by have := sizes current; omega)
      have full : seen.length + turn.bytes.length = sizeofHeadMsg := by omega
      obtain ⟨current, _, sameFrame, headEq, -⟩ := pending.headComplete full
      obtain ⟨rfl, -⟩ := List.cons.inj sameFrame
      have empty : headDataLen frame.head = 0 := by
        have length : frame.body.length = headDataLen frame.head :=
          frame.body_length
        rw [← length, noBody, List.length_nil]
      refine TcpSession.tHeartbeatTimeStamp_heartbeatRead collects full ?_ ?_
      · rw [headEq]
        exact kind
      · rw [headEq]
        exact empty
  | body kind need seen =>
      -- a heartbeat has no body in which it could end
      obtain ⟨current, _, rfl, -, length, opened, -⟩ := pending
      have within := inBody collects.2.1
      rw [collects.2.2.2.2.1, length] at within
      have noneSeen : seen = [] := collects.2.2.2.1
      have consumed : anyFormat.consumed (.body kind need seen) =
          sizeofHeadMsg := by
        rw [noneSeen]
        rfl
      obtain ⟨⟨_, same⟩, -⟩ := current_of_end cut (by omega)
        (fun other _ isCurrent => by
          obtain ⟨rfl, -⟩ := List.cons.inj isCurrent
          have := sizes current
          omega)
      obtain ⟨rfl, -⟩ := List.cons.inj same
      rw [noBody, List.length_nil] at length
      omega

theorem framed_throughout
    {frames : List (Frame anyFormat)}
    (understood : ∀ frame ∈ frames, Understood frame)
    (bIsHaveHB : Bool)
    {inputs : List TimedInput}
    {timed : TimedSession}
    (cut : frames = done ++ left)
    (pending : anyFormat.Pending state
      (inputs.flatMap TimedInput.bytes ++ rest) left)
    (remains : timed.position +
      (inputs.flatMap TimedInput.bytes ++ rest).length = (wire frames).length)
    (collects : timed.session.toSessionCore.Collects state)
    (recent : timed.heartbeat ≤ timed.session.tHeartbeatTimeStamp)
    (past : timed.session.tHeartbeatTimeStamp ≤ timed.clock)
    (fed : Throughout (TimedSession.step (frames.map Segment.frame))
      TimedSession.Fed timed inputs)
    (stays : Throughout (TimedSession.step (frames.map Segment.frame))
      TimedSession.StaysInBody timed inputs) :
    Throughout (TimedSession.step (frames.map Segment.frame))
      (fun timed input => ¬timed.Evicts bIsHaveHB input) timed inputs := by
  induction inputs generalizing timed state done left with
  | nil => trivial
  | cons input inputs inductionHypothesis =>
      rw [List.flatMap_cons, List.append_assoc] at pending remains
      constructor
      · rintro ⟨now, rfl, -, timedOut⟩
        have late := of_decide_eq_true timedOut
        have soon := fed.1 now rfl
        omega
      · intro next stepped
        cases input with
        | sweep now =>
            obtain ⟨forward, rfl⟩ := TimedSession.step_sweep stepped
            exact inductionHypothesis cut pending remains collects recent
              (past.trans forward) (fed.2 _ stepped) (stays.2 _ stepped)
        | read turn =>
            obtain ⟨forward, succeeds, rfl⟩ := TimedSession.step_read stepped
            have inBody := stays.1 turn rfl
            obtain ⟨done', left', cut', pending', remains'⟩ :=
              pending_after cut pending remains
            refine inductionHypothesis cut' pending' remains' ?_ ?_ ?_
              (fed.2 _ stepped) (stays.2 _ stepped)
            · exact collects_of_staysInBody (cut ▸ understood) pending collects
                inBody succeeds
            · dsimp only
              split
              · rename_i completes
                exact (stamped_of_completesHeartbeat cut pending remains
                  collects inBody succeeds completes).ge
              · rcases timed.session.tHeartbeatTimeStamp_ioRecvPass turn with
                  same | set
                · exact recent.trans_eq same.symm
                · exact (recent.trans (past.trans forward)).trans_eq set.symm
            · rcases timed.session.tHeartbeatTimeStamp_ioRecvPass turn with
                same | set
              · exact same.trans_le (past.trans forward)
              · exact set.le

end Framed

/-! ## No session is evicted that receives its heartbeats -/

namespace TimedSession

/-- With understood frames, and reads that do not run past a body, the sweep
does not evict a session that receives a heartbeat every `HEARTBEAT_TIMEOUT`
seconds. A server without heartbeats evicts nothing. -/
theorem not_evicts_of_understood
    (garbage : SessionGarbage)
    (address : Nat)
    (now : Int)
    (arguments : SessionArguments)
    (bIsHaveHB : Bool)
    (segments : List Segment)
    (inputs : List TimedInput)
    (initialised :
      ((TcpSession.construct garbage address now).init arguments).2.2 = 0)
    (receives :
      inputs.flatMap TimedInput.bytes <+: streamOf segments)
    (fed : Throughout (step segments) Fed
      (accepted garbage address now arguments) inputs)
    (condition : bIsHaveHB = false ∨
      arguments.bIsHaveHead = true ∧ UnderstoodStream segments ∧
        Throughout (step segments) StaysInBody
          (accepted garbage address now arguments) inputs) :
    Throughout (step segments) (fun timed input => ¬timed.Evicts bIsHaveHB input)
      (accepted garbage address now arguments) inputs := by
  rcases condition with noHeartbeats | ⟨framed, understood, stays⟩
  · refine @throughout_of_invariant _ _ _ _ (fun _ => True) _
      (fun _ _ _ _ _ _ => trivial) ?_ _ _ trivial fed
    rintro timed input - - ⟨_, -, hasHeartbeats, -⟩
    exact absurd (noHeartbeats.symm.trans hasHeartbeats) (by decide)
  · obtain ⟨frames, rfl, known⟩ := understood.frames
    rw [streamOf_frames] at receives
    obtain ⟨rest, equal⟩ := receives
    have pending : anyFormat.Pending (.head [])
        (inputs.flatMap TimedInput.bytes ++ rest) frames :=
      equal ▸ Format.pending_wire frames
    have stamp : (accepted garbage address now
        arguments).session.tHeartbeatTimeStamp = now := by
      simp only [accepted, TcpSession.init]
      split
      · rfl
      · rfl
    exact framed_throughout known bIsHaveHB (List.nil_append _).symm pending
      (by rw [equal]; exact Nat.zero_add _)
      (TcpSession.collects_init framed initialised) stamp.ge stamp.le fed stays

/-- The frame `TcpClient_KeepSessionAlive` sends. -/
def heartbeatFrame : Frame anyFormat where
  head := [0x48, 0x42, 0, 0, 0, 0, 0, 0]
  body := []
  head_length := rfl
  head_valid := trivial
  body_length := by decide

/-- A read of the heartbeat at a given time. -/
def heartbeatRead (now : Int) : TimedInput :=
  .read ⟨.data ⟨heartbeatFrame.head, by decide, by decide⟩, now, .failed, true⟩

/-- A new framed session. -/
def acceptedFramed : TimedSession :=
  accepted ⟨false, false, 0, 0⟩ 4096 0 ⟨7, true, true, true, true, true⟩

/-- The stream of two heartbeats. -/
def twoHeartbeats : List Segment :=
  [.frame heartbeatFrame, .frame heartbeatFrame]

/-- Two heartbeats, each followed by a sweep 15 seconds after it at the
latest. -/
def fedInputs : List TimedInput :=
  [heartbeatRead 10, .sweep 20, heartbeatRead 25, .sweep 40]

theorem throughout_fedInputs
    {condition : TimedSession → TimedInput → Prop}
    (reads : ∀ timed now, timed.session.bIsRecvHead = false →
      condition timed (heartbeatRead now))
    (sweeps : ∀ timed now, now - timed.heartbeat ≤ heartbeatTimeout →
      condition timed (.sweep now)) :
    Throughout (step twoHeartbeats) condition acceptedFramed fedInputs := by
  apply throughout_cons rfl (reads _ _ rfl)
  apply throughout_cons rfl (sweeps _ _ (by decide))
  apply throughout_cons rfl (reads _ _ rfl)
  exact throughout_cons rfl (sweeps _ _ (by decide)) trivial

/-- A framed session with two heartbeats and two sweeps. -/
theorem not_evicts_twoHeartbeats :
    Throughout (step twoHeartbeats)
      (fun timed input => ¬timed.Evicts true input) acceptedFramed
      fedInputs := by
  refine not_evicts_of_understood ⟨false, false, 0, 0⟩ 4096 0
    ⟨7, true, true, true, true, true⟩ true twoHeartbeats fedInputs rfl
    ⟨[], by decide⟩ ?_ (Or.inr ⟨rfl, ?_, ?_⟩)
  · refine throughout_fedInputs ?_ ?_
    · intro timed now _ other impossible
      contradiction
    · intro timed now soon other same
      exact TimedInput.sweep.inj same ▸ soon
  · intro segment member
    have same : segment = .frame heartbeatFrame := by
      simpa [twoHeartbeats] using member
    exact ⟨heartbeatFrame, same, by decide, by decide⟩
  · refine throughout_fedInputs ?_ ?_
    · intro timed now noHead turn _ hasHead
      exact absurd (noHead.symm.trans hasHead) (by decide)
    · intro timed now _ turn impossible
      contradiction

/-- Without framing heartbeats do not count: the session is evicted 10 seconds
after the last one. -/
theorem evicts_withoutFraming :
    ¬∀ (garbage : SessionGarbage) (address : Nat) (now : Int)
        (arguments : SessionArguments) (bIsHaveHB : Bool)
        (segments : List Segment) (inputs : List TimedInput),
      ((TcpSession.construct garbage address now).init arguments).2.2 = 0 →
        inputs.flatMap TimedInput.bytes <+: streamOf segments →
          Throughout (step segments) Fed
            (accepted garbage address now arguments) inputs →
            Throughout (step segments)
              (fun timed input => ¬timed.Evicts bIsHaveHB input)
              (accepted garbage address now arguments) inputs := by
  intro always
  have kept := always ⟨false, false, 0, 0⟩ 4096 0
    ⟨7, true, true, true, false, true⟩ true twoHeartbeats
    [heartbeatRead 10, heartbeatRead 20, .sweep 30] rfl ⟨[], by decide⟩ ?_
  · have last := kept.2 _ rfl |>.2 _ rfl |>.1
    exact last ⟨30, rfl, rfl, by decide⟩
  · apply throughout_cons rfl (fun _ impossible => by contradiction)
    apply throughout_cons rfl (fun _ impossible => by contradiction)
    refine throughout_cons rfl ?_ trivial
    intro now same
    rw [← TimedInput.sweep.inj same]
    decide

end TimedSession

end TransPortEngine
