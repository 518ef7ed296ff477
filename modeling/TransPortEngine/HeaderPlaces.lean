import Mathlib.Data.List.Infix
import TransPortEngine.Library.Transition
import TransPortEngine.TcpClient.AnyStream
import TransPortEngine.TcpSession.AnyStream

/-!
# Where headers are parsed

The header branches of both receive loops run on whatever bytes come while no
header is stored. They stay with the frames of a stream as long as every header
is understood: its type is known unless nothing follows it, and its length is a
nonnegative `int`. Behind any other header the bytes of the body are parsed as
headers.
-/

namespace TransPortEngine

open Framing MachineInt Transition

/-- Bytes that go to a header branch belong to a header that was begun at the
start of a frame. -/
def ParsesAtStart
    (frames : List (Frame anyFormat))
    (bIsRecvHead : Bool)
    (recvBufs : List BufInfo)
    (position : Nat)
    (bytes : List UInt8) : Prop :=
  bytes ≠ [] → bIsRecvHead = false →
    ∃ start, BeginsAt frames start ∧
      position = start + (cachedBytes recvBufs).length

/-- A header both ends understand. -/
def Understood (frame : Frame anyFormat) : Prop :=
  (frame.kind = .unknown → frame.body = []) ∧ frame.body.length < 2147483648

namespace TcpSession

/-- One iteration of the receive loop as a step of a session and the number of
bytes it has read. The connection ends with a negative result. -/
def readStep
    (place : TcpSession × Nat)
    (turn : RecvTurn) : Option (TcpSession × Nat) :=
  let pass := place.1.ioRecvPass turn
  match pass.ending with
  | .loop => some (pass.session, place.2 + turn.bytes.length)
  | .leave nRet =>
      if nRet < 0 then none
      else some (pass.session, place.2 + turn.bytes.length)

/-- A step that is possible is a pass that does not fail. -/
theorem readStep_cases
    {place next : TcpSession × Nat}
    {turn : RecvTurn}
    (stepped : readStep place turn = some next) :
    next = ((place.1.ioRecvPass turn).session, place.2 + turn.bytes.length) ∧
      ∀ nRet < 0, (place.1.ioRecvPass turn).ending ≠ .leave nRet := by
  simp only [readStep] at stepped
  split at stepped
  · rename_i ending
    refine ⟨(Option.some.inj stepped).symm, ?_⟩
    intro nRet _ impossible
    rw [ending] at impossible
    contradiction
  · rename_i nRet ending
    split at stepped
    · contradiction
    · rename_i nonnegative
      refine ⟨(Option.some.inj stepped).symm, ?_⟩
      intro other negative same
      rw [ending] at same
      exact nonnegative (PassEnd.leave.inj same ▸ negative)

end TcpSession

namespace TcpClient

/-- One iteration of the receive loop as a step of a client and the number of
bytes it has received. -/
def readStep
    (place : TcpClient × Nat)
    (turn : RecvfromTurn) : Option (TcpClient × Nat) :=
  let pass := place.1.recvfromPass turn
  if pass.leaves then none
  else some (pass.client, place.2 + turn.bytes.length)

/-- A step that is possible is a pass that stays in the loop. -/
theorem readStep_cases
    {place next : TcpClient × Nat}
    {turn : RecvfromTurn}
    (stepped : readStep place turn = some next) :
    next = ((place.1.recvfromPass turn).client, place.2 + turn.bytes.length) ∧
      (place.1.recvfromPass turn).leaves = false := by
  simp only [readStep] at stepped
  split at stepped
  · contradiction
  · rename_i stays
    exact ⟨(Option.some.inj stepped).symm, Bool.eq_false_iff.mpr stays⟩

end TcpClient

/-- However the stream of the frames is cut, an accepted session parses headers
only where frames begin. -/
def ServerParsesAtStarts (frames : List (Frame anyFormat)) : Prop :=
  ∀ (garbage : SessionGarbage) (address : Nat) (now : Int)
      (arguments : SessionArguments),
    arguments.bIsHaveHead = true →
      ((TcpSession.construct garbage address now).init arguments).2.2 = 0 →
        ∀ turns : List RecvTurn,
          turns.flatMap RecvTurn.bytes <+: wire frames →
            Throughout TcpSession.readStep
              (fun place turn => ParsesAtStart frames place.1.bIsRecvHead
                place.1.recvBufs place.2 turn.bytes)
              (((TcpSession.construct garbage address now).init arguments).1, 0)
              turns

/-- However the stream of the frames is cut, a configured client parses headers
only where frames begin. -/
def ClientParsesAtStarts (frames : List (Frame anyFormat)) : Prop :=
  ∀ (garbage : ClientGarbage) (bIsHaveHB : Bool) (nHeartBeatInterval : Int)
      (turns : List RecvfromTurn),
    let client :=
      (TcpClient.construct garbage).configure true bIsHaveHB nHeartBeatInterval
    turns.flatMap RecvfromTurn.bytes <+: wire frames →
      client.Granted turns →
        Throughout TcpClient.readStep
          (fun place turn => ParsesAtStart frames place.1.bIsRecvHead
            place.1.recvBufs place.2 turn.bytes)
          (client, 0) turns

/-! ## Understood streams -/

section Understood

variable {frames done left : List (Frame anyFormat)}
  {state : State UInt8 HeadKind} {position : Nat}

/-- A receiver that holds what the decoder holds parses at the start of a
frame. -/
theorem parsesAtStart_of_pending
    {bIsRecvHead : Bool}
    {recvBufs : List BufInfo}
    {bytes rest : List UInt8}
    (cut : frames = done ++ left)
    (pending : anyFormat.Pending state (bytes ++ rest) left)
    (remains : position + (bytes ++ rest).length = (wire frames).length)
    (holds : bIsRecvHead = false → state = .head (cachedBytes recvBufs)) :
    ParsesAtStart frames bIsRecvHead recvBufs position bytes := by
  intro nonempty noHead
  subst cut
  rw [holds noHead] at pending
  refine pending.beginsAt ?_ remains
  intro none
  exact nonempty (List.append_eq_nil_iff.mp none).1

/-- The header that bytes of a pending stream complete is that of a frame. -/
theorem reads_of_pending
    {seen bytes rest : List UInt8}
    (understood : ∀ frame ∈ frames, Understood frame)
    (cut : frames = done ++ left)
    (pending : anyFormat.Pending (.head seen) (bytes ++ rest) left)
    (full : seen.length + bytes.length = sizeofHeadMsg) :
    ReadsHead anyFormat (seen ++ bytes) ∧
      headBodyLen (seen ++ bytes) < 2147483648 := by
  obtain ⟨frame, later, rfl, headEq, -⟩ := pending.headComplete full
  have known := understood frame (by rw [cut]; simp)
  have reads := readsHead_of_understood known.1
  have length : headBodyLen frame.head = frame.body.length :=
    (congrArg Prod.snd reads.parsed).symm.trans frame.body_length.symm
  rw [headEq, length]
  exact ⟨reads, known.2⟩

/-- What is left of a stream after some bytes of it. -/
theorem pending_after
    {bytes rest : List UInt8}
    (cut : frames = done ++ left)
    (pending : anyFormat.Pending state (bytes ++ rest) left)
    (remains : position + (bytes ++ rest).length = (wire frames).length) :
    ∃ done' left', frames = done' ++ left' ∧
      anyFormat.Pending (anyFormat.feed state bytes).1 rest left' ∧
        position + bytes.length + rest.length = (wire frames).length := by
  obtain ⟨more, left', rfl, -, pending'⟩ := pending.feed
  refine ⟨done ++ more, left', ?_, pending', ?_⟩
  · rw [cut, List.append_assoc]
  · rw [List.length_append] at remains
    omega

theorem server_throughout
    (understood : ∀ frame ∈ frames, Understood frame)
    {turns : List RecvTurn}
    {session : TcpSession}
    {rest : List UInt8}
    (cut : frames = done ++ left)
    (pending : anyFormat.Pending state
      (turns.flatMap RecvTurn.bytes ++ rest) left)
    (remains : position + (turns.flatMap RecvTurn.bytes ++ rest).length =
      (wire frames).length)
    (place : session.bIsHaveHead = true ∧ session.toSessionCore.Wedged ∨
      session.toSessionCore.Collects state) :
    Throughout TcpSession.readStep
      (fun place turn => ParsesAtStart frames place.1.bIsRecvHead
        place.1.recvBufs place.2 turn.bytes) (session, position) turns := by
  induction turns generalizing session position state done left with
  | nil => trivial
  | cons turn turns inductionHypothesis =>
      rw [List.flatMap_cons, List.append_assoc] at pending remains
      constructor
      · rcases place with ⟨-, wedged⟩ | collects
        · intro _ noHead
          exact absurd (wedged.hasHead.symm.trans noHead) (by decide)
        · apply parsesAtStart_of_pending cut pending remains
          intro noHead
          cases state with
          | head seen => rw [collects.2.2.1]
          | body kind need seen =>
              exact absurd (collects.2.1.symm.trans noHead) (by decide)
      · intro next stepped
        obtain ⟨rfl, succeeds⟩ := TcpSession.readStep_cases stepped
        obtain ⟨done', left', cut', pending', remains'⟩ :=
          pending_after cut pending remains
        have moves : TcpSession.MovesTo (anyFormat.feed state turn.bytes).1
            (session.ioRecvPass turn) := by
          rcases place with ⟨framed, wedged⟩ | collects
          · exact TcpSession.wedged_ioRecvPass framed wedged turn _
          · apply TcpSession.collects_ioRecvPass collects rfl turn
            intro seen isHead full
            rw [isHead] at pending
            exact (reads_of_pending understood cut pending full).1
        rcases moves with ⟨nRet, negative, failed⟩ | stays
        · exact absurd failed (succeeds nRet negative)
        · exact inductionHypothesis cut' pending' remains' stays

theorem client_throughout
    (understood : ∀ frame ∈ frames, Understood frame)
    {turns : List RecvfromTurn}
    {client : TcpClient}
    {rest : List UInt8}
    (cut : frames = done ++ left)
    (pending : anyFormat.Pending state
      (turns.flatMap RecvfromTurn.bytes ++ rest) left)
    (remains : position + (turns.flatMap RecvfromTurn.bytes ++ rest).length =
      (wire frames).length)
    (collects : TcpClient.Collects state client)
    (granted : client.Granted turns) :
    Throughout TcpClient.readStep
      (fun place turn => ParsesAtStart frames place.1.bIsRecvHead
        place.1.recvBufs place.2 turn.bytes) (client, position) turns := by
  induction turns generalizing client position state done left with
  | nil => trivial
  | cons turn turns inductionHypothesis =>
      rw [List.flatMap_cons, List.append_assoc] at pending remains
      constructor
      · apply parsesAtStart_of_pending cut pending remains
        intro noHead
        cases state with
        | head seen => rw [collects.2.2.1]
        | body kind need seen =>
            exact absurd (collects.2.1.symm.trans noHead) (by decide)
      · intro next stepped
        obtain ⟨rfl, stays⟩ := TcpClient.readStep_cases stepped
        obtain ⟨done', left', cut', pending', remains'⟩ :=
          pending_after cut pending remains
        refine inductionHypothesis cut' pending' remains' ?_ granted.2
        refine collects.recvfromPass rfl granted.1 ?_ stays
        intro seen isHead full
        rw [isHead] at pending
        exact reads_of_pending understood cut pending full

end Understood

/-! ## A header that is not understood -/

namespace TcpClient

/-- A turn that brings some bytes. -/
def dataTurn (szRecvBuf : List UInt8) (nonempty : 0 < szRecvBuf.length) :
    RecvfromTurn :=
  ⟨.data szRecvBuf nonempty, 0⟩

/-- A turn that brings a single byte. -/
def byteTurn (byte : UInt8) : RecvfromTurn :=
  dataTurn [byte] Nat.one_pos

theorem bytes_byteTurns (bytes : List UInt8) :
    (bytes.map byteTurn).flatMap RecvfromTurn.bytes = bytes := by
  induction bytes with
  | nil => rfl
  | cons byte bytes inductionHypothesis =>
      rw [List.map_cons, List.flatMap_cons, inductionHypothesis]
      rfl

/-- A data turn is always a step. -/
theorem readStep_dataTurn
    (client : TcpClient)
    (position : Nat)
    (szRecvBuf : List UInt8)
    (nonempty : 0 < szRecvBuf.length) :
    readStep (client, position) (dataTurn szRecvBuf nonempty) =
        some ((client.recvDataPass szRecvBuf 0).client,
          position + szRecvBuf.length) ∧
      (client.recvfromPass (dataTurn szRecvBuf nonempty)).leaves = false := by
  have stays : (client.recvDataPass szRecvBuf 0).leaves = false := by
    simp only [recvDataPass, recvBody, recvHead, recvRaw,
      apply_ite RecvfromPass.leaves, ite_self]
  have leaves : (client.recvfromPass (dataTurn szRecvBuf nonempty)).leaves =
      false := stays
  refine ⟨?_, leaves⟩
  simp only [readStep, leaves]
  rfl

/-- Understood frames can be received byte by byte. -/
theorem run_byteTurns
    {frames : List (Frame anyFormat)}
    (understood : ∀ frame ∈ frames, Understood frame)
    {done left : List (Frame anyFormat)}
    {state : State UInt8 HeadKind}
    {bytes : List UInt8}
    {client : TcpClient}
    (position : Nat)
    (cut : frames = done ++ left)
    (pending : anyFormat.Pending state bytes left)
    (collects : Collects state client) :
    ∃ next, run readStep (client, position) (bytes.map byteTurn) =
        some (next, position + bytes.length) ∧
      Collects (anyFormat.feed state bytes).1 next ∧
        ∀ turns, next.Granted turns →
          client.Granted (bytes.map byteTurn ++ turns) := by
  induction bytes generalizing client position state done left with
  | nil => exact ⟨client, rfl, collects, fun turns granted => granted⟩
  | cons byte bytes inductionHypothesis =>
      have pendingByte : anyFormat.Pending state ([byte] ++ bytes) left :=
        pending
      have request : client.recvRequest = anyFormat.request state :=
        collects.recvRequest_eq rfl
      have positive : 0 < anyFormat.request state := collects.request_pos rfl
      have granted : (byteTurn byte).bytes.length ≤ client.recvRequest := by
        rw [request]
        exact positive
      obtain ⟨stepped, stays⟩ :=
        client.readStep_dataTurn position [byte] Nat.one_pos
      have steppedByte : readStep (client, position) (byteTurn byte) =
          some ((client.recvfromPass (byteTurn byte)).client, position + 1) :=
        stepped
      have moved : Collects (anyFormat.feed state [byte]).1
          (client.recvfromPass (byteTurn byte)).client := by
        refine collects.recvfromPass rfl granted ?_ stays
        intro seen isHead full
        rw [isHead] at pendingByte
        exact reads_of_pending understood cut pendingByte full
      obtain ⟨more, left', rfl, -, pending'⟩ := pendingByte.feed
      obtain ⟨next, reached, collects', grants⟩ := inductionHypothesis
        (position + 1) (cut.trans (List.append_assoc _ _ _).symm) pending' moved
      refine ⟨next, ?_, collects', ?_⟩
      · rw [List.map_cons, List.length_cons, run_cons_some steppedByte]
        rw [Nat.add_assoc, Nat.add_comm 1] at reached
        exact reached
      · intro turns grantedLater
        exact ⟨granted, grants turns grantedLater⟩

/-- A header that is not understood leaves the client at the start of a header
although a body follows, or waiting for a body of negative length. -/
theorem finishHead_misread
    {frame : Frame anyFormat}
    {client : TcpClient}
    (misread : ¬Understood frame)
    (framed : client.bIsHaveHead = true)
    (noHead : client.bIsRecvHead = false) :
    let next := (client.finishHead frame.head 0).1
    next.bIsHaveHead = true ∧ next.recvBufs = [] ∧
      (next.bIsRecvHead = false ∧ 0 < frame.body.length ∨
        next.bIsRecvHead = true ∧ 1 < frame.body.length ∧
          -2147483648 ≤ next.nNeedRecvDataLen ∧ next.nNeedRecvDataLen < 0) := by
  have length : frame.body.length = headDataLen frame.head := frame.body_length
  have bound := headDataLen_lt frame.head
  by_cases unknown : headKind frame.head = .unknown
  · have other := headTypeIs_of_headKind_unknown unknown
    have follows : 0 < frame.body.length := by
      apply List.length_pos_of_ne_nil
      intro empty
      exact misread ⟨fun _ => empty, by rw [empty]; decide⟩
    simp only [finishHead, other.1, other.2, Bool.false_eq_true, if_false]
    exact ⟨framed, trivial, Or.inl ⟨noHead, follows⟩⟩
  · have long : 2147483648 ≤ headDataLen frame.head := by
      by_contra short
      refine misread ⟨fun isUnknown => absurd isUnknown unknown, ?_⟩
      omega
    have need : -2147483648 ≤ signed32 (headDataLen frame.head) ∧
        signed32 (headDataLen frame.head) < 0 := by
      unfold signed32
      omega
    cases kind : headKind frame.head with
    | unknown => exact absurd kind unknown
    | heartbeat =>
        have type := headTypeIs_of_headKind_heartbeat kind
        simp only [finishHead, type, if_true]
        rw [if_neg (by omega)]
        exact ⟨framed, rfl, Or.inr ⟨rfl, by omega, need⟩⟩
    | data =>
        have types := headTypeIs_of_headKind_data kind
        simp only [finishHead, types.1, types.2, Bool.false_eq_true, if_false,
          if_true]
        rw [if_neg (by omega)]
        exact ⟨framed, rfl, Or.inl ⟨noHead, by omega⟩⟩

/-- Waiting for a body of negative length, the client drops a byte and goes back
to headers. -/
theorem recvDataPass_negative
    {client : TcpClient}
    (framed : client.bIsHaveHead = true)
    (hasHead : client.bIsRecvHead = true)
    (empty : client.recvBufs = [])
    (bounded : -2147483648 ≤ client.nNeedRecvDataLen)
    (negative : client.nNeedRecvDataLen < 0)
    (byte : UInt8) :
    (client.recvDataPass [byte] 0).client = { client with bIsRecvHead := false } ∧
      0 < client.recvRequest := by
  have missing : client.missingBody = client.nNeedRecvDataLen := by
    have none : clientRecvCacheLen client.recvBufs = 0 := by
      rw [empty]
      rfl
    rw [missingBody, none, sub_zero]
    exact signed32_of_range (by omega) (by omega)
  have length : (([byte] : List UInt8).length : Int) = 1 := rfl
  constructor
  · simp only [recvDataPass, framed, hasHead, if_true, recvBody, length, missing]
    rw [if_neg (by omega), if_pos (by omega)]
  · rw [recvRequest, if_pos framed, if_pos hasHead, missing]
    unfold unsigned64
    omega

/-- A client that has no header although its position is inside a frame parses
the next byte where no frame begins. -/
theorem not_throughout_of_inside
    {frames : List (Frame anyFormat)}
    {turns : List RecvfromTurn}
    {client last : TcpClient}
    {position : Nat}
    (reached : run readStep (client, 0) turns = some (last, position))
    (noHead : last.bIsRecvHead = false)
    (empty : last.recvBufs = [])
    (inside : ¬BeginsAt frames position)
    (byte : UInt8) :
    ¬Throughout readStep
      (fun place turn => ParsesAtStart frames place.1.bIsRecvHead
        place.1.recvBufs place.2 turn.bytes)
      (client, 0) (turns ++ [byteTurn byte]) := by
  intro throughout
  obtain ⟨start, begins, position'⟩ :=
    throughout.last turns reached (List.cons_ne_nil byte []) noHead
  simp only [empty, cachedBytes_nil, List.length_nil, add_zero] at position'
  exact inside (position' ▸ begins)

/-- The client behind a header that is not understood. -/
theorem exists_cut_to_misread
    {earlier : List (Frame anyFormat)}
    {bad : Frame anyFormat}
    {client : TcpClient}
    (understood : ∀ frame ∈ earlier, Understood frame)
    (misread : ¬Understood bad)
    (start : Collects (.head []) client) :
    ∃ turns last,
      turns.flatMap RecvfromTurn.bytes = wire earlier ++ bad.head ∧
        run readStep (client, 0) turns =
          some (last, (wire earlier).length + sizeofHeadMsg) ∧
        (∀ more, last.Granted more → client.Granted (turns ++ more)) ∧
        last.bIsHaveHead = true ∧ last.recvBufs = [] ∧
          (last.bIsRecvHead = false ∧ 0 < bad.body.length ∨
            last.bIsRecvHead = true ∧ 1 < bad.body.length ∧
              -2147483648 ≤ last.nNeedRecvDataLen ∧
                last.nNeedRecvDataLen < 0) := by
  have pending : anyFormat.Pending (.head []) (wire earlier) earlier :=
    Format.pending_wire earlier
  obtain ⟨atHead, reached, collects, grants⟩ :=
    run_byteTurns understood 0 (List.nil_append _).symm pending start
  rw [Format.feed_wire] at collects
  have headPositive : 0 < bad.head.length := by
    rw [bad.head_length]
    decide
  have request : atHead.recvRequest = sizeofHeadMsg :=
    collects.recvRequest_eq anyFormat_headLength
  obtain ⟨framed, noHead, empty, -⟩ := collects
  have data : atHead.recvDataPass bad.head 0 = atHead.recvHead bad.head 0 := by
    simp [recvDataPass, framed, noHead]
  have whole : (cachedBytes atHead.recvBufs).length + bad.head.length =
      sizeofHeadMsg := by
    rw [empty, bad.head_length]
    rfl
  have handled := (recvHead_full (by rw [empty]; decide) whole 0).1
  rw [← data, empty, List.nil_append] at handled
  have after := finishHead_misread misread framed noHead
  rw [← handled] at after
  obtain ⟨stepped, -⟩ := atHead.readStep_dataTurn (0 + (wire earlier).length)
    bad.head headPositive
  refine ⟨(wire earlier).map byteTurn ++ [dataTurn bad.head headPositive],
    _, ?_, ?_, ?_, after⟩
  · rw [List.flatMap_append, bytes_byteTurns]
    simp [RecvfromTurn.bytes, dataTurn]
  · rw [run_append, reached, Option.bind_some, run_cons_some stepped, run_nil,
      bad.head_length, Nat.zero_add]
    rfl
  · intro more granted
    rw [List.append_assoc]
    refine grants _ ⟨?_, granted⟩
    rw [request]
    exact bad.head_length.le

/-- A stream with a header that is not understood has a cut that takes bytes of
its body for a header. -/
theorem exists_misread_cut
    (earlier later : List (Frame anyFormat))
    {bad : Frame anyFormat}
    {client : TcpClient}
    (understood : ∀ frame ∈ earlier, Understood frame)
    (misread : ¬Understood bad)
    (start : Collects (.head []) client) :
    ∃ turns : List RecvfromTurn,
      turns.flatMap RecvfromTurn.bytes <+: wire (earlier ++ bad :: later) ∧
        client.Granted turns ∧
          ¬Throughout readStep
            (fun place turn => ParsesAtStart (earlier ++ bad :: later)
              place.1.bIsRecvHead place.1.recvBufs place.2 turn.bytes)
            (client, 0) turns := by
  obtain ⟨turns, last, bytes, reached, grants, framed, empty, place⟩ :=
    exists_cut_to_misread understood misread start
  have symbols : bad.symbols.length = sizeofHeadMsg + bad.body.length := by
    rw [Frame.symbols, List.length_append, bad.head_length]
    rfl
  have stream : wire (earlier ++ bad :: later) =
      wire earlier ++ bad.head ++ (bad.body ++ wire later) := by
    rw [wire_append, wire_cons, List.append_assoc]
  rcases place with ⟨noHead, follows⟩ | ⟨hasHead, follows, bounded, negative⟩
  · -- the first byte of the body goes to the header branch
    obtain ⟨byte, body, bodyEq⟩ := List.exists_cons_of_length_pos follows
    refine ⟨turns ++ [byteTurn byte], ?_, grants _ ⟨?_, trivial⟩,
      not_throughout_of_inside reached noHead empty ?_ byte⟩
    · refine ⟨body ++ wire later, ?_⟩
      rw [List.flatMap_append, bytes, stream, bodyEq]
      simp [RecvfromTurn.bytes, dataTurn, byteTurn]
    · have collects : Collects (.head []) last :=
        ⟨framed, noHead, by rw [empty]; rfl, by decide⟩
      rw [collects.recvRequest_eq anyFormat_headLength]
      exact show 1 ≤ sizeofHeadMsg by decide
    · exact not_beginsAt_inside earlier later (by decide) (by omega)
  · -- the first byte ends the body, the second goes to the header branch
    obtain ⟨first, rest, restEq⟩ :=
      List.exists_cons_of_length_pos (Nat.zero_lt_of_lt follows)
    obtain ⟨second, body, bodyRest⟩ :=
      List.exists_cons_of_length_pos (show 0 < rest.length by
        rw [restEq, List.length_cons] at follows
        omega)
    have bodyEq : bad.body = first :: second :: body := by
      rw [restEq, bodyRest]
    have dropped :=
      recvDataPass_negative framed hasHead empty bounded negative first
    obtain ⟨stepped, -⟩ := last.readStep_dataTurn
      ((wire earlier).length + sizeofHeadMsg) [first] Nat.one_pos
    rw [dropped.1] at stepped
    have reached' : run readStep (client, 0) (turns ++ [byteTurn first]) =
        some ({ last with bIsRecvHead := false },
          (wire earlier).length + (sizeofHeadMsg + 1)) := by
      rw [run_append, reached]
      exact run_cons_some stepped []
    have clientEq : (last.recvfromPass (byteTurn first)).client =
        { last with bIsRecvHead := false } := dropped.1
    refine ⟨turns ++ [byteTurn first] ++ [byteTurn second], ?_, ?_,
      not_throughout_of_inside reached' rfl empty ?_ second⟩
    · refine ⟨body ++ wire later, ?_⟩
      rw [List.flatMap_append, List.flatMap_append, bytes, stream, bodyEq]
      simp [RecvfromTurn.bytes, dataTurn, byteTurn]
    · rw [List.append_assoc]
      refine grants _ ⟨dropped.2, ?_, trivial⟩
      have collects : Collects (.head [])
          { last with bIsRecvHead := false } :=
        ⟨framed, rfl, congrArg cachedBytes empty, by decide⟩
      rw [clientEq, collects.recvRequest_eq anyFormat_headLength]
      exact show 1 ≤ sizeofHeadMsg by decide
    · apply not_beginsAt_inside earlier later (by omega)
      omega

end TcpClient

/-! ## The exact condition -/

/-- Headers are parsed at frame starts only, on both ends and for every cut of
the stream, exactly when every header is understood. -/
theorem parsesAtStarts_iff_understood (frames : List (Frame anyFormat)) :
    ServerParsesAtStarts frames ∧ ClientParsesAtStarts frames ↔
      ∀ frame ∈ frames, (frame.kind = .unknown → frame.body = []) ∧
        frame.body.length < 2147483648 := by
  constructor
  · rintro ⟨-, clientParses⟩
    by_contra failed
    obtain ⟨bad, member, misread⟩ : ∃ frame ∈ frames, ¬Understood frame := by
      simpa only [Understood, not_forall, exists_prop] using failed
    classical
    have exists_first :
        (frames.find? fun frame => decide (¬Understood frame)).isSome :=
      List.find?_isSome.mpr ⟨bad, member, decide_eq_true misread⟩
    obtain ⟨first, found⟩ := Option.isSome_iff_exists.mp exists_first
    obtain ⟨isBad, earlier, later, rfl, understood⟩ :=
      List.find?_eq_some_iff_append.mp found
    have before : ∀ frame ∈ earlier, Understood frame := by
      intro frame isEarlier
      simpa using understood frame isEarlier
    obtain ⟨turns, cut, granted, violated⟩ :=
      TcpClient.exists_misread_cut earlier later before
        (of_decide_eq_true isBad) (TcpClient.collects_configure ⟨0, 0, 0⟩ true 5)
    exact violated (clientParses ⟨0, 0, 0⟩ true 5 turns cut granted)
  · intro understood
    constructor
    · intro garbage address now arguments framed initialised turns cut
      obtain ⟨rest, equal⟩ := cut
      have pending : anyFormat.Pending (.head [])
          (turns.flatMap RecvTurn.bytes ++ rest) frames :=
        equal ▸ Format.pending_wire frames
      exact server_throughout understood (List.nil_append _).symm pending
        (by rw [equal, Nat.zero_add])
        (Or.inr (TcpSession.collects_init framed initialised))
    · intro garbage bIsHaveHB nHeartBeatInterval turns client cut granted
      obtain ⟨rest, equal⟩ := cut
      have pending : anyFormat.Pending (.head [])
          (turns.flatMap RecvfromTurn.bytes ++ rest) frames :=
        equal ▸ Format.pending_wire frames
      exact client_throughout understood (List.nil_append _).symm pending
        (by rw [equal, Nat.zero_add]) (TcpClient.collects_configure _ _ _)
        granted

/-! ### A forged message -/

/-- A frame of type `XX` whose body is the header of a data frame. -/
def forgedFrame : Frame anyFormat where
  head := [0x58, 0x58, 0, 0, 0, 0, 0, 8]
  body := [0x44, 0x54, 0, 0, 0, 0, 0, 1]
  head_length := rfl
  head_valid := trivial
  body_length := by decide

/-- A server that reads the frame in two parts. -/
def forgedTurns : List RecvTurn :=
  [⟨.data ⟨[0x58, 0x58, 0, 0, 0, 0, 0, 8], by decide, by decide⟩, 0,
      .failed, true⟩,
    ⟨.data ⟨[0x44, 0x54, 0, 0, 0, 0, 0, 1], by decide, by decide⟩, 0,
      .failed, true⟩]

/-- The body of a frame of unknown type is parsed as a header. -/
theorem not_parsesAtStarts_forged :
    ¬∀ frames : List (Frame anyFormat),
      ServerParsesAtStarts frames ∧ ClientParsesAtStarts frames := by
  intro always
  have parses := (always [forgedFrame]).1 ⟨false, false, 0, 0⟩ 4096 0
    ⟨7, true, true, true, true, true⟩ rfl rfl forgedTurns
    ⟨[], by decide⟩
  have reached : run TcpSession.readStep
      (((TcpSession.construct ⟨false, false, 0, 0⟩ 4096 0).init
        ⟨7, true, true, true, true, true⟩).1, 0) (forgedTurns.take 1) =
          some (((TcpSession.construct ⟨false, false, 0, 0⟩ 4096 0).init
            ⟨7, true, true, true, true, true⟩).1, 8) := rfl
  obtain ⟨start, begins, position⟩ := parses.last (forgedTurns.take 1) reached
    (List.cons_ne_nil _ _) rfl
  have inside : ¬BeginsAt ([] ++ [forgedFrame]) (0 + 8) :=
    not_beginsAt_inside [] [] (by decide) (by decide)
  have same : start = 8 := position.symm
  subst same
  exact inside begins

end TransPortEngine
