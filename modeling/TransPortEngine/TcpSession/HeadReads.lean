import TransPortEngine.TcpSession.Delivery

/-!
# A header that comes in several reads

A framed session collects a header over any number of reads and calls of
`TcpSession_IORecv()` and acts on it when its last byte has come. What the
session does then depends on the header alone, not on its cut.
-/

namespace TransPortEngine

open MachineInt

/-- The turn that brings the last of some missing bytes. -/
def completingTurn : Nat → List RecvTurn → Option RecvTurn
  | _, [] => none
  | missing, turn :: turns =>
      if turn.bytes.length < missing then
        completingTurn (missing - turn.bytes.length) turns
      else some turn

/-- No call has failed. -/
def RecvCalls.Accepted (calls : RecvCalls) : Prop :=
  ∀ nRet ∈ calls.results, 0 ≤ nRet

instance (calls : RecvCalls) : Decidable calls.Accepted :=
  inferInstanceAs (Decidable (∀ nRet ∈ calls.results, 0 ≤ nRet))

@[simp] theorem written_recvBufLocked_nil :
    written (recvBufLocked []) = [] := rfl

@[simp] theorem written_assembleCopies
    (capacity : Nat)
    (recvBufs : List BufInfo)
    (szRecvBuf : List UInt8) :
    written (assembleCopies capacity recvBufs szRecvBuf) = [] := by
  apply List.flatMap_eq_nil_iff.mpr
  apply forall_assembleCopies
  · rfl
  · rfl
  · intro capacity offset count
    rfl

namespace TcpSession

/-- A turn leads from one session to another and puts some bytes on the socket,
and the calls go on behind it. -/
structure GoesOn
    (session : TcpSession)
    (turn : RecvTurn)
    (turns : List RecvTurn)
    (next : TcpSession)
    (output : List UInt8) : Prop where
  session_eq : (session.ioRecvCalls (turn :: turns)).session =
    (next.ioRecvCalls turns).session
  written_eq : written (session.ioRecvCalls (turn :: turns)).events =
    output ++ written (next.ioRecvCalls turns).events
  accepted : (session.ioRecvCalls (turn :: turns)).Accepted ↔
    (next.ioRecvCalls turns).Accepted

section Turns

variable {session : TcpSession} {turn : RecvTurn}

/-- A pass that stays in the loop. -/
theorem goesOn_loop
    (loops : (session.ioRecvPass turn).ending = .loop)
    (turns : List RecvTurn) :
    session.GoesOn turn turns (session.ioRecvPass turn).session
      (written (session.ioRecvPass turn).events) := by
  refine ⟨?_, ?_, ?_⟩
  · simp only [ioRecvCalls, loops]
  · simp only [ioRecvCalls, loops, written_append]
  · simp only [RecvCalls.Accepted, ioRecvCalls, loops]

/-- A turn that brings nothing changes nothing. -/
theorem goesOn_quiet
    (session : TcpSession)
    (ofStream : turn.OfStream)
    (quiet : ∀ chunk, turn.read ≠ .data chunk)
    (turns : List RecvTurn) :
    session.GoesOn turn turns session [] ∧ turn.bytes = [] := by
  obtain ⟨read, now, echo, epollCtl⟩ := turn
  cases read with
  | data chunk => exact absurd rfl (quiet chunk)
  | closed => contradiction
  | failed => contradiction
  | interrupted => exact ⟨⟨rfl, rfl, Iff.rfl⟩, rfl⟩
  | again =>
      have armed : epollCtl = true := ofStream
      subst armed
      exact ⟨⟨rfl, rfl, List.forall_mem_cons.trans (and_iff_right le_rfl)⟩, rfl⟩

/-- A pass that fails is not accepted. -/
theorem not_accepted_of_leave
    {nRet : Int}
    (leaves : (session.ioRecvPass turn).ending = .leave nRet)
    (negative : nRet < 0)
    (turns : List RecvTurn) :
    ¬(session.ioRecvCalls (turn :: turns)).Accepted := by
  intro accepted
  have nonnegative := accepted nRet (by simp [ioRecvCalls, leaves, negative])
  omega

/-- Turns that bring nothing change nothing. -/
theorem ioRecvCalls_quiet
    (session : TcpSession)
    {turns : List RecvTurn}
    (ofStream : ∀ turn ∈ turns, turn.OfStream)
    (nothing : turns.flatMap RecvTurn.bytes = []) :
    (session.ioRecvCalls turns).session = session ∧
      written (session.ioRecvCalls turns).events = [] ∧
        (session.ioRecvCalls turns).Accepted := by
  induction turns with
  | nil => exact ⟨rfl, rfl, fun nRet impossible => by contradiction⟩
  | cons turn turns inductionHypothesis =>
      rw [List.flatMap_cons, List.append_eq_nil_iff] at nothing
      have quiet : ∀ chunk, turn.read ≠ .data chunk := by
        intro chunk read
        have nonempty := chunk.nonempty
        have bytes : turn.bytes = chunk.bytes := by rw [RecvTurn.bytes, read]
        rw [← bytes, nothing.1] at nonempty
        exact absurd nonempty (lt_irrefl 0)
      obtain ⟨goesOn, -⟩ :=
        session.goesOn_quiet (ofStream turn List.mem_cons_self) quiet turns
      have rest := inductionHypothesis
        (fun later member => ofStream later (List.mem_cons_of_mem turn member))
        nothing.2
      exact ⟨goesOn.session_eq.trans rest.1,
        goesOn.written_eq.trans ((List.nil_append _).trans rest.2.1),
        goesOn.accepted.mpr rest.2.2⟩

end Turns

/-! ## Collecting the header -/

/-- The session a complete header leaves, handled at a given time. -/
def behindHead
    (session : TcpSession)
    (headMsg : List UInt8)
    (now : Int) : TcpSession :=
  session.setCore (session.toSessionCore.finishHead headMsg now)

/-- What has been collected does not matter behind the header. -/
theorem behindHead_pushRecvBuf
    (session : TcpSession)
    (szRecvBuf headMsg : List UInt8)
    (now : Int) :
    (session.setCore
        (session.toSessionCore.pushRecvBuf szRecvBuf)).behindHead headMsg now =
      session.behindHead headMsg now := by
  unfold behindHead SessionCore.finishHead
  split
  · rfl
  · split <;> rfl

section Collecting

variable {session : TcpSession} {szRecvBuf : List UInt8}

/-- A read that stays inside the header puts nothing on the socket. -/
theorem written_ioRecvHead_short
    (short : (cachedBytes session.recvBufs).length + szRecvBuf.length <
      sizeofHeadMsg)
    (now : Int)
    (echo : EchoOutcomes) :
    written (session.ioRecvHead szRecvBuf now echo).events = [] := by
  have missing := session.toSessionCore.missingHead_eq (by omega)
  simp only [ioRecvHead]
  rw [if_neg (by omega), if_pos (by omega)]
  rfl

/-- A read that completes the header puts the answer on the socket. -/
theorem written_ioRecvHead_full
    (opened : (cachedBytes session.recvBufs).length < sizeofHeadMsg)
    (full : (cachedBytes session.recvBufs).length + szRecvBuf.length =
      sizeofHeadMsg)
    (now : Int)
    (echo : EchoOutcomes) :
    let headMsg := cachedBytes session.recvBufs ++ szRecvBuf
    written (session.ioRecvHead szRecvBuf now echo).events =
      written ((session.behindHead headMsg now).headEvents headMsg echo) := by
  have missing := session.toSessionCore.missingHead_eq opened
  have assembled := session.toSessionCore.headBuf_eq full
  simp only [ioRecvHead]
  rw [if_neg (by omega), if_neg (by omega), assembled]
  simp only [written_append, written_recvBufLocked_nil, written_assembleCopies,
    List.nil_append]
  rfl

/-- The header is handled in a turn, and the rest of the stream in the turns
behind it. -/
structure HeadHandled
    (session : TcpSession)
    (headMsg body : List UInt8)
    (missing : Nat)
    (turns : List RecvTurn)
    (turn : RecvTurn)
    (later : List RecvTurn) : Prop where
  completes : completingTurn missing turns = some turn
  among : ∀ other ∈ later, other ∈ turns
  bytes : later.flatMap RecvTurn.bytes = body
  session_eq : (session.ioRecvCalls turns).session =
    ((session.behindHead headMsg turn.now).ioRecvCalls later).session
  written_eq : written (session.ioRecvCalls turns).events =
    written ((session.behindHead headMsg turn.now).headEvents headMsg
        turn.echo) ++
      written ((session.behindHead headMsg turn.now).ioRecvCalls later).events
  accepted : (session.ioRecvCalls turns).Accepted ↔
    ((session.behindHead headMsg turn.now).ioRecvCalls later).Accepted

/-- A turn before the one that completes the header. -/
theorem HeadHandled.before
    {session next : TcpSession}
    {headMsg body : List UInt8}
    {missing : Nat}
    {turn last : RecvTurn}
    {turns later : List RecvTurn}
    (handled : next.HeadHandled headMsg body (missing - turn.bytes.length) turns
      last later)
    (goesOn : session.GoesOn turn turns next [])
    (same : next.behindHead headMsg last.now =
      session.behindHead headMsg last.now)
    (short : turn.bytes.length < missing) :
    session.HeadHandled headMsg body missing (turn :: turns) last later := by
  obtain ⟨completes, among, bytes, sessionEq, writtenEq, accepted⟩ := handled
  rw [same] at sessionEq writtenEq accepted
  refine ⟨?_, fun other member => List.mem_cons_of_mem turn (among other member),
    bytes, goesOn.session_eq.trans sessionEq,
    goesOn.written_eq.trans ((List.nil_append _).trans writtenEq),
    goesOn.accepted.trans accepted⟩
  rw [completingTurn, if_pos short]
  exact completes

/-- A pass of a session that waits for a header. -/
theorem ioRecvPass_head
    {session : TcpSession}
    {turn : RecvTurn}
    {chunk : Chunk 1024}
    (framed : session.bIsHaveHead = true)
    (noHead : session.bIsRecvHead = false)
    (read : turn.read = .data chunk) :
    session.ioRecvPass turn =
      { session.ioRecvHead chunk.bytes turn.now turn.echo with
        events := .read session.nSocket ::
          (session.ioRecvHead chunk.bytes turn.now turn.echo).events } := by
  simp only [ioRecvPass, read, ioRecvData, framed, noHead, if_true,
    Bool.false_eq_true, if_false]

/-- A read inside the header goes on with what it has brought. -/
theorem goesOn_short
    {session : TcpSession}
    {turn : RecvTurn}
    {chunk : Chunk 1024}
    (framed : session.bIsHaveHead = true)
    (noHead : session.bIsRecvHead = false)
    (read : turn.read = .data chunk)
    (short : (cachedBytes session.recvBufs).length + chunk.bytes.length <
      sizeofHeadMsg)
    (turns : List RecvTurn) :
    session.GoesOn turn turns
      (session.setCore (session.toSessionCore.pushRecvBuf chunk.bytes)) [] := by
  have pass := ioRecvPass_head framed noHead read
  have stays := ioRecvHead_short short turn.now turn.echo
  have silent : written (session.ioRecvPass turn).events = [] := by
    rw [pass]
    exact written_ioRecvHead_short short turn.now turn.echo
  have loops : (session.ioRecvPass turn).ending = .loop := by
    rw [pass]
    exact stays.2.2
  have goesOn := goesOn_loop loops turns
  rw [silent, pass, stays.1] at goesOn
  exact goesOn

/-- The read that completes the header answers it and goes on behind it. -/
theorem goesOn_full
    {session : TcpSession}
    {turn : RecvTurn}
    {chunk : Chunk 1024}
    {headMsg : List UInt8}
    (framed : session.bIsHaveHead = true)
    (noHead : session.bIsRecvHead = false)
    (read : turn.read = .data chunk)
    (headEq : cachedBytes session.recvBufs ++ chunk.bytes = headMsg)
    (size : headMsg.length = sizeofHeadMsg)
    (turns : List RecvTurn) :
    session.GoesOn turn turns (session.behindHead headMsg turn.now)
      (written ((session.behindHead headMsg turn.now).headEvents headMsg
        turn.echo)) := by
  subst headEq
  rw [List.length_append] at size
  have nonempty := chunk.nonempty
  have opened : (cachedBytes session.recvBufs).length < sizeofHeadMsg := by omega
  have pass := ioRecvPass_head framed noHead read
  have stays := ioRecvHead_full opened size turn.now turn.echo
  have answer := written_ioRecvHead_full opened size turn.now turn.echo
  have events : written (session.ioRecvPass turn).events =
      written (session.ioRecvHead chunk.bytes turn.now turn.echo).events := by
    rw [pass]
    rfl
  have loops : (session.ioRecvPass turn).ending = .loop := by
    rw [pass]
    exact stays.2.2
  have goesOn := goesOn_loop loops turns
  rw [events, answer, pass, stays.1] at goesOn
  exact goesOn

/-- A header is handled in the turn that completes it, if the stream ends with it
or the calls are accepted. -/
theorem headHandled_of_cut
    {session : TcpSession}
    {turns : List RecvTurn}
    {missing body headMsg : List UInt8}
    (framed : session.bIsHaveHead = true)
    (noHead : session.bIsRecvHead = false)
    (headEq : cachedBytes session.recvBufs ++ missing = headMsg)
    (size : headMsg.length = sizeofHeadMsg)
    (opened : missing ≠ [])
    (ofStream : ∀ turn ∈ turns, turn.OfStream)
    (cut : turns.flatMap RecvTurn.bytes = missing ++ body)
    (fits : body = [] ∨ (session.ioRecvCalls turns).Accepted) :
    ∃ turn later,
      session.HeadHandled headMsg body missing.length turns turn later := by
  induction turns generalizing session missing with
  | nil =>
      have empty := (List.append_eq_nil_iff.mp cut.symm).1
      exact absurd empty opened
  | cons turn turns inductionHypothesis =>
      rw [List.flatMap_cons] at cut
      have ofStreamLater : ∀ other ∈ turns, other.OfStream :=
        fun other member => ofStream other (List.mem_cons_of_mem turn member)
      have positive := List.length_pos_iff.mpr opened
      have sizes : (cachedBytes session.recvBufs).length + missing.length =
          sizeofHeadMsg := by
        rw [← size, ← headEq, List.length_append]
      by_cases quiet : ∀ chunk, turn.read ≠ .data chunk
      · obtain ⟨goesOn, noBytes⟩ :=
          session.goesOn_quiet (ofStream turn List.mem_cons_self) quiet turns
        rw [noBytes, List.nil_append] at cut
        obtain ⟨last, later, handled⟩ := inductionHypothesis framed noHead headEq
          opened ofStreamLater cut (fits.imp_right goesOn.accepted.mp)
        refine ⟨last, later, HeadHandled.before ?_ goesOn rfl ?_⟩
        · rw [noBytes]
          exact handled
        · rw [noBytes]
          exact positive
      · push Not at quiet
        obtain ⟨chunk, read⟩ := quiet
        have bytesEq : turn.bytes = chunk.bytes := by rw [RecvTurn.bytes, read]
        have nonempty := chunk.nonempty
        rw [bytesEq] at cut
        rcases Nat.lt_trichotomy chunk.bytes.length missing.length with
          short | full | long
        · have goesOn := goesOn_short framed noHead read (by omega) turns
          have within : chunk.bytes <+: missing ++ body := by
            rw [← cut]
            exact List.prefix_append _ _
          obtain ⟨rest, missingEq⟩ : chunk.bytes <+: missing :=
            List.prefix_of_prefix_length_le within (List.prefix_append _ _)
              short.le
          have lengths := congrArg List.length missingEq
          rw [List.length_append] at lengths
          have headRest : cachedBytes session.recvBufs ++ chunk.bytes ++ rest =
              headMsg := by
            rw [List.append_assoc, missingEq, headEq]
          have cutLater : turns.flatMap RecvTurn.bytes = rest ++ body := by
            rw [← missingEq, List.append_assoc] at cut
            exact List.append_cancel_left cut
          have headNext : cachedBytes (session.setCore
              (session.toSessionCore.pushRecvBuf chunk.bytes)).recvBufs ++ rest =
                headMsg := by
            rw [← headRest]
            exact congrArg (· ++ rest) (SessionCore.cachedBytes_pushRecvBuf _ _)
          obtain ⟨last, later, handled⟩ := @inductionHypothesis
            (session.setCore (session.toSessionCore.pushRecvBuf chunk.bytes)) _
            framed noHead headNext (List.ne_nil_of_length_pos (by omega)) ofStreamLater cutLater
            (fits.imp_right goesOn.accepted.mp)
          refine ⟨last, later, HeadHandled.before ?_ goesOn
            (session.behindHead_pushRecvBuf _ _ _) (by rw [bytesEq]; exact short)⟩
          rw [bytesEq, ← lengths, Nat.add_sub_cancel_left]
          exact handled
        · obtain ⟨missingEq, cutLater⟩ := List.append_inj cut full
          rw [← missingEq] at headEq
          have goesOn := goesOn_full framed noHead read headEq size turns
          refine ⟨turn, turns, ?_,
            fun other member => List.mem_cons_of_mem turn member, cutLater,
            goesOn.session_eq, goesOn.written_eq, goesOn.accepted⟩
          rw [completingTurn, bytesEq, if_neg (by omega)]
        · have leaves : (session.ioRecvPass turn).ending = .leave (-1) := by
            rw [ioRecvPass_head framed noHead read]
            exact ioRecvHead_long (by omega) (by omega) turn.now turn.echo
          rcases fits with ended | accepted
          · have lengths := congrArg List.length cut
            simp only [ended, List.append_nil, List.length_append] at lengths
            omega
          · exact absurd accepted
              (not_accepted_of_leave leaves (by decide) turns)

end Collecting

end TcpSession

end TransPortEngine
