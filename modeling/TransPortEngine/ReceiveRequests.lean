import TransPortEngine.HeaderPlaces
import TransPortEngine.TcpSession.IocpRequests

/-!
# Receive requests and the receive buffer

A client and a session on Windows ask the kernel for exactly the bytes the
current header or body lacks, into a buffer of `MAX_BUFFER_LEN` bytes. Nothing
bounds the length a header announces, so the requests stay inside the buffer
exactly when no header of the stream announces a longer body.
-/

namespace TransPortEngine

open Framing MachineInt Transition

/-- A length that fits the receive buffer. -/
def FitsBuffer (length : Nat) : Prop :=
  1 ≤ length ∧ length ≤ maxBufferLen

instance (length : Nat) : Decidable (FitsBuffer length) :=
  inferInstanceAs (Decidable (_ ∧ _))

namespace IocpSession

/-- One completed receive as a step of a session. The connection ends with a
negative result. -/
def completeStep (session : IocpSession) (turn : IocpTurn) : Option IocpSession :=
  if (session.complete turn).2.2 < 0 then none
  else some (session.complete turn).1

/-- Every completion carries at most the posted length. -/
def Filled (session : IocpSession) (turns : List IocpTurn) : Prop :=
  Throughout completeStep
    (fun session turn =>
      turn.bytes.length ≤ session.perIoContextRecv.wsaBufLen) session turns

end IocpSession

/-- However the stream is cut, every receive of an accepted framed session on
Windows asks for a length that fits the buffer. -/
def SessionRequestsFit (stream : List UInt8) : Prop :=
  ∀ (garbage : SessionGarbage) (now : Int) (arguments : IocpArguments),
    arguments.bIsHaveHead = true →
      ∀ turns : List IocpTurn,
        let posted := (IocpSession.accepted garbage now arguments).postRecv true
        turns.flatMap IocpTurn.bytes <+: stream →
          posted.1.Filled turns →
            ∀ len ∈ wsaRecvLens
                (posted.2.1 ++ (posted.1.completeAll turns).1),
              FitsBuffer len

/-- However the stream is cut, every `recv` of a configured framed client asks
for a length that fits the buffer. -/
def ClientRequestsFit (stream : List UInt8) : Prop :=
  ∀ (garbage : ClientGarbage) (bIsHaveHB : Bool) (nHeartBeatInterval : Int)
      (turns : List RecvfromTurn),
    let client :=
      (TcpClient.construct garbage).configure true bIsHaveHB nHeartBeatInterval
    turns.flatMap RecvfromTurn.bytes <+: stream →
      client.Granted turns →
        Throughout TcpClient.readStep
          (fun place _ => FitsBuffer place.1.recvRequest) (client, 0) turns

/-! ## Short bodies -/

section Short

variable {stream : List UInt8}

/-- What the decoder lacks fits the buffer. -/
theorem fitsBuffer_request
    {state : State UInt8 HeadKind}
    {seen rest : List UInt8}
    (short : ∀ headMsg, HeadIn readFormat stream headMsg →
      headBodyLen headMsg ≤ maxBufferLen)
    (reached : readFormat.Reached state seen)
    (cut : stream = seen ++ rest) :
    FitsBuffer (readFormat.request state) := by
  cases state with
  | head held =>
      obtain ⟨frames, -, opened⟩ := reached
      simp only [readFormat_headLength, sizeofHeadMsg] at opened
      simp only [FitsBuffer, Format.request, readFormat_headLength,
        sizeofHeadMsg, maxBufferLen]
      omega
  | body kind need held =>
      obtain ⟨frames, headMsg, rfl, size, announces, opened⟩ := reached
      have stands : HeadIn readFormat stream headMsg :=
        ⟨frames, held ++ rest, size, by rw [cut]; simp⟩
      have bounded := short headMsg stands
      have length : headBodyLen headMsg = need := congrArg Prod.snd announces
      simp only [FitsBuffer, Format.request]
      omega

theorem client_requestsFit
    (short : ∀ headMsg, HeadIn readFormat stream headMsg →
      headBodyLen headMsg ≤ maxBufferLen)
    {turns : List RecvfromTurn}
    {client : TcpClient}
    {state : State UInt8 HeadKind}
    {seen rest : List UInt8}
    {position : Nat}
    (reached : readFormat.Reached state seen)
    (cut : stream = seen ++ (turns.flatMap RecvfromTurn.bytes ++ rest))
    (collects : TcpClient.Collects state client)
    (granted : client.Granted turns) :
    Throughout TcpClient.readStep
      (fun place _ => FitsBuffer place.1.recvRequest) (client, position)
      turns := by
  induction turns generalizing client state seen position with
  | nil => trivial
  | cons turn turns inductionHypothesis =>
      rw [List.flatMap_cons, List.append_assoc] at cut
      constructor
      · have fits := fitsBuffer_request short reached cut
        rw [← collects.recvRequest_eq readFormat_headLength] at fits
        exact fits
      · intro next stepped
        obtain ⟨rfl, stays⟩ := TcpClient.readStep_cases stepped
        refine inductionHypothesis
          (reached.feed (fun _ => trivial) turn.bytes) ?_ ?_ granted.2
        · rw [cut, List.append_assoc]
        · refine collects.recvfromPass readFormat_headLength granted.1 ?_ stays
          intro held isHead full
          rw [isHead] at reached
          have stands := (reached.headIn full).append
            (turns.flatMap RecvfromTurn.bytes ++ rest)
          rw [List.append_assoc, ← cut] at stands
          have bounded := short _ stands
          rw [maxBufferLen] at bounded
          exact ⟨readsHead_readFormat _, by omega⟩

theorem session_requestsFit
    (short : ∀ headMsg, HeadIn readFormat stream headMsg →
      headBodyLen headMsg ≤ maxBufferLen)
    {turns : List IocpTurn}
    {session : IocpSession}
    {state : State UInt8 HeadKind}
    {seen rest : List UInt8}
    (reached : readFormat.Reached state seen)
    (cut : stream = seen ++ (turns.flatMap IocpTurn.bytes ++ rest))
    (waits : session.Waits readFormat state)
    (filled : session.Filled turns) :
    ∀ len ∈ wsaRecvLens (session.completeAll turns).1, FitsBuffer len := by
  induction turns generalizing session state seen with
  | nil =>
      intro len impossible
      contradiction
  | cons turn turns inductionHypothesis =>
      rw [List.flatMap_cons, List.append_assoc] at cut
      have cut' := cut
      rw [← List.append_assoc] at cut'
      have reached' := reached.feed (fun _ => trivial) turn.bytes
      have fits := fitsBuffer_request short reached' cut'
      have handled := waits.complete readFormat_headLength filled.1
        (fun _ _ _ => readsHead_readFormat _)
      rw [IocpSession.completeAll]
      rcases handled with ⟨-, silent, failed⟩ | ⟨asks, result, waits'⟩
      · simp only [failed]
        rw [if_pos (by decide), silent]
        intro len impossible
        contradiction
      · have first : ∀ len ∈ wsaRecvLens (session.complete turn).2.1,
            FitsBuffer len := by
          rw [asks]
          intro len member
          rw [List.mem_singleton.mp member]
          exact fits
        simp only
        split
        · exact first
        · rename_i nonnegative
          have stepped : session.completeStep turn =
              some (session.complete turn).1 := by
            rw [IocpSession.completeStep, if_neg nonnegative]
          have later := inductionHypothesis reached' cut' waits'
            (filled.2 _ stepped)
          intro len member
          rw [wsaRecvLens_append] at member
          rcases List.mem_append.mp member with now | after
          · exact first len now
          · exact later len after

end Short

/-! ## A header that announces more than the buffer holds -/

namespace IocpSession

/-- A completion that brings some bytes, with every post successful. -/
def pieceTurn
    (bytes : List UInt8)
    (nonempty : 0 < bytes.length)
    (fits : bytes.length ≤ maxBufferLen) : IocpTurn :=
  ⟨⟨bytes, nonempty, fits⟩, 0, true, true⟩

/-- The session after some completions: it waits for a part of the stream, and
further completions are handled as they are by the session before them. -/
structure HandsOver
    (session : IocpSession)
    (turns : List IocpTurn)
    (next : IocpSession)
    (state : State UInt8 HeadKind) : Prop where
  waits : next.Waits readFormat state
  filled : ∀ more, next.Filled more → session.Filled (turns ++ more)
  asks : ∀ more, ∀ len ∈ wsaRecvLens (next.completeAll more).1,
    len ∈ wsaRecvLens (session.completeAll (turns ++ more)).1

/-- Completions one after another. -/
theorem HandsOver.append
    {session middle last : IocpSession}
    {first second : List IocpTurn}
    {state state' : State UInt8 HeadKind}
    (before : session.HandsOver first middle state)
    (after : middle.HandsOver second last state') :
    session.HandsOver (first ++ second) last state' := by
  refine ⟨after.waits, ?_, ?_⟩
  · intro more filled
    rw [List.append_assoc]
    exact before.filled _ (after.filled more filled)
  · intro more len member
    rw [List.append_assoc]
    exact before.asks _ len (after.asks more len member)

/-- A piece that completes what the session waits for, and the receive posted
behind it. -/
theorem handsOver_piece
    {session : IocpSession}
    {state : State UInt8 HeadKind}
    {bytes : List UInt8}
    (waits : session.Waits readFormat state)
    (nonempty : 0 < bytes.length)
    (fits : bytes.length ≤ maxBufferLen)
    (granted : bytes.length ≤ readFormat.request state)
    (whole : readFormat.WholeBody state bytes) :
    session.HandsOver [pieceTurn bytes nonempty fits]
        (session.complete (pieceTurn bytes nonempty fits)).1
        (readFormat.feed state bytes).1 ∧
      readFormat.request (readFormat.feed state bytes).1 ∈ wsaRecvLens
        (session.completeAll [pieceTurn bytes nonempty fits]).1 := by
  have allowed : (pieceTurn bytes nonempty fits).bytes.length ≤
      session.perIoContextRecv.wsaBufLen := by
    rw [waits.requested]
    exact granted
  rcases waits.complete readFormat_headLength allowed
      (fun _ _ _ => readsHead_readFormat _) with ⟨stops, -⟩ | ⟨asks, result, moved⟩
  · exact absurd whole stops
  · have succeeds : ¬(session.complete (pieceTurn bytes nonempty fits)).2.2 <
        0 := by
      rw [result]
      exact lt_irrefl (0 : Int)
    have stepped : session.completeStep (pieceTurn bytes nonempty fits) =
        some (session.complete (pieceTurn bytes nonempty fits)).1 := by
      rw [completeStep, if_neg succeeds]
    have calls : ∀ more,
        (session.completeAll (pieceTurn bytes nonempty fits :: more)).1 =
          (session.complete (pieceTurn bytes nonempty fits)).2.1 ++
            ((session.complete (pieceTurn bytes nonempty fits)).1.completeAll
              more).1 := by
      intro more
      rw [completeAll]
      simp only [if_neg succeeds]
    refine ⟨⟨moved, ?_, ?_⟩, ?_⟩
    · intro more filled
      exact throughout_cons stepped allowed filled
    · intro more len member
      rw [List.singleton_append, calls, wsaRecvLens_append]
      exact List.mem_append_right _ member
    · rw [calls, wsaRecvLens_append, asks]
      exact List.mem_append_left _ List.mem_cons_self

/-- Frames with short bodies are handled one after another when each header and
each body comes in one piece. -/
theorem exists_handsOver_frames
    {frames : List (Frame readFormat)}
    (short : ∀ frame ∈ frames, frame.body.length ≤ maxBufferLen)
    {session : IocpSession}
    (waits : session.Waits readFormat (.head [])) :
    ∃ turns next, turns.flatMap IocpTurn.bytes = wire frames ∧
      session.HandsOver turns next (.head []) := by
  induction frames generalizing session with
  | nil =>
      exact ⟨[], session, rfl, waits, fun _ filled => filled,
        fun _ _ member => member⟩
  | cons frame frames inductionHypothesis =>
      have size := frame.head_length
      have positive : 0 < frame.head.length := by
        rw [size]
        decide
      have fits : frame.head.length ≤ maxBufferLen := by
        rw [size]
        decide
      have head := (handsOver_piece waits positive fits size.le
        (by simpa [Format.WholeBody] using size.le)).1
      rw [Format.feed_head_whole size] at head
      have shortLater := fun later member =>
        short later (List.mem_cons_of_mem frame member)
      by_cases empty : frame.body = []
      · have zero : (readFormat.parse frame.head).2 = 0 := by
          rw [← frame.body_length, empty]
          rfl
        rw [readFormat.afterHead_of_zero zero] at head
        obtain ⟨turns, next, bytes, handsOver⟩ :=
          inductionHypothesis shortLater head.waits
        refine ⟨_, next, ?_, head.append handsOver⟩
        rw [List.flatMap_append, bytes, wire_cons, empty]
        simp [pieceTurn, IocpTurn.bytes]
      · have bodyPositive : 0 < frame.body.length :=
          List.length_pos_of_ne_nil empty
        have announced := frame.body_length
        rw [readFormat.afterHead_of_pos (announced ▸ bodyPositive), ← announced]
          at head
        have body := (handsOver_piece head.waits bodyPositive
          (short frame List.mem_cons_self) le_rfl
          (Or.inr (Nat.zero_add _))).1
        rw [Format.feed_body_whole bodyPositive] at body
        obtain ⟨turns, next, bytes, handsOver⟩ :=
          inductionHypothesis shortLater body.waits
        refine ⟨_, next, ?_, (head.append body).append handsOver⟩
        rw [List.flatMap_append, List.flatMap_append, bytes, wire_cons]
        simp [pieceTurn, IocpTurn.bytes]

end IocpSession

/-- If some header of a stream announces a long body, so does one behind frames
with short bodies. -/
theorem exists_first_long
    {stream headMsg : List UInt8}
    (stands : HeadIn readFormat stream headMsg)
    (long : maxBufferLen < headBodyLen headMsg) :
    ∃ (frames : List (Frame readFormat)) (first tail : List UInt8),
      (∀ frame ∈ frames, frame.body.length ≤ maxBufferLen) ∧
        first.length = sizeofHeadMsg ∧
          stream = wire frames ++ (first ++ tail) ∧
            maxBufferLen < headBodyLen first := by
  obtain ⟨frames, tail, size, cut⟩ := stands
  cases found : frames.find? fun frame =>
      decide (maxBufferLen < frame.body.length) with
  | none =>
      refine ⟨frames, headMsg, tail, ?_, size, cut, long⟩
      intro frame member
      have none := List.find?_eq_none.mp found frame member
      simpa using none
  | some bad =>
      obtain ⟨isLong, earlier, later, rfl, shorter⟩ :=
        List.find?_eq_some_iff_append.mp found
      refine ⟨earlier, bad.head, bad.body ++ wire later ++ (headMsg ++ tail), ?_,
        bad.head_length, ?_, ?_⟩
      · intro frame member
        simpa using shorter frame member
      · rw [cut, wire_append, wire_cons]
        simp only [List.append_assoc]
      · have announced : bad.body.length = headBodyLen bad.head :=
          bad.body_length
        rw [← announced]
        simpa using isLong

/-! ## The exact condition -/

/-- The requests of clients and of sessions on Windows stay inside the receive
buffer, for every cut of a stream, exactly when no header of the stream
announces more than the buffer holds. -/
theorem requestsFit_iff (stream : List UInt8) :
    ClientRequestsFit stream ∧ SessionRequestsFit stream ↔
      ∀ headMsg, HeadIn readFormat stream headMsg →
        headBodyLen headMsg ≤ maxBufferLen := by
  constructor
  · rintro ⟨-, requestsFit⟩ headMsg stands
    by_contra long
    obtain ⟨frames, first, tail, short, size, cut, isLong⟩ :=
      exists_first_long stands (not_le.mp long)
    have positive : 0 < first.length := by
      rw [size]
      decide
    have fits : first.length ≤ maxBufferLen := by
      rw [size]
      decide
    have start : (((IocpSession.accepted ⟨false, false, 0, 0⟩ 0
        ⟨7, 0, true, true⟩).postRecv true).1).Waits readFormat (.head []) :=
      (IocpSession.waits_postRecv _ _ rfl readFormat_headLength).1
    obtain ⟨turns, next, bytes, handsOver⟩ :=
      IocpSession.exists_handsOver_frames short start
    obtain ⟨head, posted⟩ := IocpSession.handsOver_piece handsOver.waits positive
      fits size.le (by simpa [Format.WholeBody] using size.le)
    have announced : (readFormat.parse first).2 = headBodyLen first := rfl
    have request : readFormat.request
        (readFormat.feed (.head []) first).1 = headBodyLen first := by
      rw [Format.feed_head_whole size, readFormat.afterHead_of_pos (by omega),
        announced]
      rfl
    rw [request] at posted
    have filled := handsOver.filled _ (head.filled [] trivial)
    have asked := handsOver.asks _ _ posted
    have bounded := (requestsFit ⟨false, false, 0, 0⟩ 0 ⟨7, 0, true, true⟩ rfl
      (turns ++ [IocpSession.pieceTurn first positive fits]) ?_ filled _
      (by rw [wsaRecvLens_append]; exact List.mem_append_right _ asked)).2
    · omega
    · refine ⟨tail, ?_⟩
      rw [List.flatMap_append, bytes, cut]
      simp [IocpSession.pieceTurn, IocpTurn.bytes]
  · intro short
    constructor
    · intro garbage bIsHaveHB nHeartBeatInterval turns client cut granted
      obtain ⟨rest, equal⟩ := cut
      exact client_requestsFit short Format.reached_nil equal.symm
        (TcpClient.collects_configure _ _ _) granted
    · intro garbage now arguments framed turns posted cut filled
      obtain ⟨rest, equal⟩ := cut
      obtain ⟨waits, asks⟩ := IocpSession.waits_postRecv garbage now
        framed readFormat_headLength
      have later := session_requestsFit short Format.reached_nil equal.symm waits
        filled
      intro len member
      rw [wsaRecvLens_append] at member
      rcases List.mem_append.mp member with first | after
      · rw [asks] at first
        rw [List.mem_singleton.mp first]
        decide
      · exact later len after

/-! ### A header for five thousand bytes -/

/-- A data header that announces 5000 bytes. -/
def longHead : List UInt8 := [0x44, 0x54, 0, 0, 0, 0, 0x13, 0x88]

/-- The receive posted behind the header runs past the buffer. -/
theorem not_requestsFit_longHead :
    ¬∀ stream : List UInt8,
      ClientRequestsFit stream ∧ SessionRequestsFit stream := by
  intro always
  have fits := (always longHead).2 ⟨false, false, 0, 0⟩ 0 ⟨7, 0, true, true⟩ rfl
    [IocpSession.pieceTurn longHead (by decide) (by decide)] ⟨[], by decide⟩
    (throughout_cons rfl (by decide) trivial) 5000 (by decide)
  exact absurd fits (by decide)

end TransPortEngine
