import TransPortEngine.TcpSession.Recv

/-!
# Draining a socket without framing

A call of `TcpSession_IORecv()` on a session without framing reads until the
socket has nothing more to give. Data and `EINTR` lead to the next `read`; every
other result ends the call, and only `EAGAIN` arms the descriptor again, behind
everything else the call does. What was read goes to the application piece by
piece if there is a receiver for it.
-/

namespace TransPortEngine

/-- The loop reads on after data and after `EINTR`. -/
def ReadResult.ReadsOn : ReadResult → Prop
  | .data _ => True
  | .interrupted => True
  | _ => False

/-- The bytes read in some turns, in order. -/
def bytesRead (turns : List RecvTurn) : List UInt8 :=
  turns.flatMap RecvTurn.bytes

@[simp] theorem bytesRead_cons (turn : RecvTurn) (turns : List RecvTurn) :
    bytesRead (turn :: turns) = turn.bytes ++ bytesRead turns := rfl

/-- The success of an `EPOLL_CTL_MOD`. -/
def EngineEvent.modEvent : EngineEvent → Option Bool
  | .epollCtl .mod _ _ done => some done
  | _ => none

/-- The results of the calls of `NetEventModleEpoll_ModEvent`, in order. -/
def modEvents (events : List EngineEvent) : List Bool :=
  events.filterMap EngineEvent.modEvent

@[simp] theorem modEvents_append (first second : List EngineEvent) :
    modEvents (first ++ second) = modEvents first ++ modEvents second :=
  List.filterMap_append

/-- The turns a call has used. -/
def RecvCall.used (call : RecvCall) (turns : List RecvTurn) : List RecvTurn :=
  turns.take (turns.length - call.unused.length)

namespace TcpSession

/-- What a turn that does not end the call does. -/
def rawEvents (session : TcpSession) (turn : RecvTurn) : List EngineEvent :=
  match turn.read with
  | .data chunk => .read session.nSocket :: (session.ioRecvRaw chunk.bytes).events
  | _ => [.read session.nSocket]

/-- The result and the events of a turn that ends the call. -/
def lastEvents (session : TcpSession) (turn : RecvTurn) : List EngineEvent × Int :=
  match turn.read with
  | .again =>
      (.read session.nSocket :: (session.modEvent turn.epollCtl).1,
        if turn.epollCtl then 0 else -1)
  | .failed => ([.read session.nSocket], -2)
  | _ => ([.read session.nSocket], -1)

variable {session : TcpSession} {turn : RecvTurn}

theorem ioRecvPass_readsOn
    (raw : session.bIsHaveHead = false)
    (readsOn : turn.read.ReadsOn) :
    session.ioRecvPass turn = ⟨session, session.rawEvents turn, .loop⟩ := by
  unfold ioRecvPass rawEvents
  cases result : turn.read with
  | data chunk => simp [ioRecvData, raw, ioRecvRaw]
  | interrupted => rfl
  | closed => simp [result, ReadResult.ReadsOn] at readsOn
  | again => simp [result, ReadResult.ReadsOn] at readsOn
  | failed => simp [result, ReadResult.ReadsOn] at readsOn

theorem ioRecvPass_last (ends : ¬turn.read.ReadsOn) :
    session.ioRecvPass turn =
      ⟨session, (session.lastEvents turn).1,
        .leave (session.lastEvents turn).2⟩ := by
  unfold ioRecvPass lastEvents
  cases result : turn.read with
  | data chunk => exact absurd (result ▸ trivial) ends
  | interrupted => exact absurd (result ▸ trivial) ends
  | closed => rfl
  | again => cases turn.epollCtl <;> rfl
  | failed => rfl

/-- Data and `EINTR` are followed by the next `read`. -/
theorem ioRecv_readsOn
    (raw : session.bIsHaveHead = false)
    (readsOn : turn.read.ReadsOn)
    (turns : List RecvTurn) :
    session.ioRecv (turn :: turns) =
      { session.ioRecv turns with
        events := session.rawEvents turn ++ (session.ioRecv turns).events } := by
  rw [ioRecv, ioRecvPass_readsOn raw readsOn]

/-- Any other result ends the call. -/
theorem ioRecv_last (ends : ¬turn.read.ReadsOn) (turns : List RecvTurn) :
    session.ioRecv (turn :: turns) =
      ⟨session, (session.lastEvents turn).1,
        .returned (session.lastEvents turn).2, turns⟩ := by
  rw [ioRecv, ioRecvPass_last ends]

/-- A call on a session without framing: either every turn so far was followed by
another `read`, or the first one that was not has ended the call. -/
theorem ioRecv_cases
    (raw : session.bIsHaveHead = false)
    (turns : List RecvTurn) :
    (∀ turn ∈ turns, turn.read.ReadsOn) ∧
        session.ioRecv turns =
          ⟨session, turns.flatMap session.rawEvents, .pending, []⟩ ∨
      ∃ before last rest, turns = before ++ last :: rest ∧
        (∀ turn ∈ before, turn.read.ReadsOn) ∧ ¬last.read.ReadsOn ∧
          session.ioRecv turns =
            ⟨session,
              before.flatMap session.rawEvents ++ (session.lastEvents last).1,
              .returned (session.lastEvents last).2, rest⟩ := by
  induction turns with
  | nil => exact Or.inl ⟨nofun, rfl⟩
  | cons turn turns inductionHypothesis =>
      by_cases readsOn : turn.read.ReadsOn
      · rw [ioRecv_readsOn raw readsOn]
        rcases inductionHypothesis with ⟨all, pending⟩ |
          ⟨before, last, rest, rfl, all, ends, returned⟩
        · rw [pending]
          exact Or.inl ⟨List.forall_mem_cons.mpr ⟨readsOn, all⟩, rfl⟩
        · rw [returned]
          refine Or.inr ⟨turn :: before, last, rest, rfl,
            List.forall_mem_cons.mpr ⟨readsOn, all⟩, ends, ?_⟩
          simp
      · exact Or.inr ⟨[], turn, turns, rfl, nofun, readsOn, ioRecv_last readsOn _⟩

/-! ## What the turns do -/

/-- Turns that do not end the call read once each, and arm nothing. -/
theorem rawEvents_reads (session : TcpSession) (turns : List RecvTurn) :
    (turns.flatMap session.rawEvents).count (.read session.nSocket) =
        turns.length ∧
      modEvents (turns.flatMap session.rawEvents) = [] := by
  induction turns with
  | nil => exact ⟨rfl, rfl⟩
  | cons turn turns inductionHypothesis =>
      obtain ⟨reads, arms⟩ := inductionHypothesis
      have first : (session.rawEvents turn).count (.read session.nSocket) = 1 ∧
          modEvents (session.rawEvents turn) = [] := by
        unfold rawEvents ioRecvRaw
        cases turn.read with
        | data chunk =>
            cases session.hasTransPortEngineRecv <;>
              simp [modEvents, EngineEvent.modEvent]
        | closed => simp [modEvents, EngineEvent.modEvent]
        | again => simp [modEvents, EngineEvent.modEvent]
        | interrupted => simp [modEvents, EngineEvent.modEvent]
        | failed => simp [modEvents, EngineEvent.modEvent]
      rw [List.flatMap_cons, List.count_append, modEvents_append, first.1,
        first.2, reads, arms, List.length_cons]
      exact ⟨Nat.add_comm .., rfl⟩

/-- They hand on what they have read, if there is a receiver. -/
theorem deliveries_rawEvents
    (session : TcpSession)
    {turns : List RecvTurn}
    (readsOn : ∀ turn ∈ turns, turn.read.ReadsOn) :
    (deliveries (turns.flatMap session.rawEvents)).flatten =
      if session.hasTransPortEngineRecv then bytesRead turns else [] := by
  induction turns with
  | nil => cases session.hasTransPortEngineRecv <;> rfl
  | cons turn turns inductionHypothesis =>
      obtain ⟨first, later⟩ := List.forall_mem_cons.mp readsOn
      have handedOn : (deliveries (session.rawEvents turn)).flatten =
          if session.hasTransPortEngineRecv then turn.bytes else [] := by
        unfold rawEvents RecvTurn.bytes ioRecvRaw
        cases result : turn.read with
        | data chunk =>
            cases session.hasTransPortEngineRecv <;>
              simp [deliveries, EngineEvent.delivery, List.filterMap_cons]
        | interrupted =>
            cases session.hasTransPortEngineRecv <;> rfl
        | closed => simp [result, ReadResult.ReadsOn] at first
        | again => simp [result, ReadResult.ReadsOn] at first
        | failed => simp [result, ReadResult.ReadsOn] at first
      rw [List.flatMap_cons, deliveries_append, List.flatten_append, handedOn,
        inductionHypothesis later, bytesRead_cons]
      split
      · rfl
      · rfl

/-- The turn that ends the call reads once and hands on nothing. -/
theorem lastEvents_reads (session : TcpSession) (turn : RecvTurn) :
    (session.lastEvents turn).1.count (.read session.nSocket) = 1 ∧
      deliveries (session.lastEvents turn).1 = [] := by
  unfold lastEvents modEvent
  cases turn.read with
  | again => simp [deliveries, EngineEvent.delivery]
  | data chunk => simp [deliveries, EngineEvent.delivery]
  | closed => simp [deliveries, EngineEvent.delivery]
  | interrupted => simp [deliveries, EngineEvent.delivery]
  | failed => simp [deliveries, EngineEvent.delivery]

/-! ## A whole call -/

/-- The socket was read until it had nothing more to give. -/
def Drained (turns : List RecvTurn) : Prop :=
  ∃ before last, turns = before ++ [last] ∧
    (∀ turn ∈ before, turn.read.ReadsOn) ∧ last.read = .again

/-- What a call does with its results of `read`: it reads again after `EINTR`, it
returns zero only behind one successful `NetEventModleEpoll_ModEvent`, and it
calls that function only as the last thing, when the socket has been drained. -/
structure ArmsDrained (session : TcpSession) (turns : List RecvTurn) : Prop where
  reads : (session.ioRecv turns).events.count (.read session.nSocket) =
    ((session.ioRecv turns).used turns).length
  retries : ∀ last, ((session.ioRecv turns).used turns).getLast? = some last →
    last.read = .interrupted → (session.ioRecv turns).result = .pending
  zero : (session.ioRecv turns).result = .returned 0 →
    Drained ((session.ioRecv turns).used turns) ∧
      modEvents (session.ioRecv turns).events = [true]
  arms : modEvents (session.ioRecv turns).events ≠ [] →
    Drained ((session.ioRecv turns).used turns) ∧
      ∃ before done, (session.ioRecv turns).events =
          before ++ (session.modEvent done).1 ∧
        modEvents before = [] ∧
          before.count (.read session.nSocket) =
            ((session.ioRecv turns).used turns).length

/-- The buffers handed to the application are what was read. -/
def HandsOnAll (session : TcpSession) (turns : List RecvTurn) : Prop :=
  (deliveries (session.ioRecv turns).events).flatten =
    bytesRead ((session.ioRecv turns).used turns)

/-- A call that has returned has used the turns up to the one that ended it. -/
theorem used_returned
    (session : TcpSession)
    (before rest : List RecvTurn)
    (last : RecvTurn)
    (events : List EngineEvent)
    (result : CallResult) :
    (RecvCall.mk session events result rest).used (before ++ last :: rest) =
      before ++ [last] := by
  have split : before ++ last :: rest = (before ++ [last]) ++ rest := by simp
  rw [RecvCall.used, split, List.length_append, Nat.add_sub_cancel]
  exact List.take_left

/-- Only `EAGAIN` arms the descriptor, and only a successful call of
`NetEventModleEpoll_ModEvent` makes the result zero. -/
theorem lastEvents_cases
    (session : TcpSession)
    (ends : ¬turn.read.ReadsOn) :
    (turn.read = .again ∧
        (session.lastEvents turn).1 =
          .read session.nSocket :: (session.modEvent turn.epollCtl).1 ∧
        ((session.lastEvents turn).2 = 0 → turn.epollCtl = true)) ∨
      (turn.read ≠ .again ∧ turn.read ≠ .interrupted ∧
        modEvents (session.lastEvents turn).1 = [] ∧
        (session.lastEvents turn).2 ≠ 0) := by
  unfold lastEvents
  cases result : turn.read with
  | data chunk => exact absurd (result ▸ trivial) ends
  | interrupted => exact absurd (result ▸ trivial) ends
  | again =>
      refine Or.inl ⟨rfl, rfl, ?_⟩
      cases turn.epollCtl with
      | true => exact fun _ => rfl
      | false => exact nofun
  | closed => exact Or.inr ⟨nofun, nofun, rfl, nofun⟩
  | failed => exact Or.inr ⟨nofun, nofun, rfl, nofun⟩

theorem armsDrained_ioRecv
    (raw : session.bIsHaveHead = false)
    (turns : List RecvTurn) :
    session.ArmsDrained turns := by
  rcases ioRecv_cases raw turns with ⟨-, pending⟩ |
    ⟨before, last, rest, rfl, all, ends, returned⟩
  · obtain ⟨reads, arms⟩ := session.rawEvents_reads turns
    constructor
    · rw [pending]
      simpa [RecvCall.used] using reads
    · rw [pending]
      exact fun _ _ _ => rfl
    · rw [pending]
      exact nofun
    · rw [pending]
      exact absurd arms
  · obtain ⟨reads, arms⟩ := session.rawEvents_reads before
    have lastReads := (session.lastEvents_reads last).1
    have used := used_returned session before rest last
      (before.flatMap session.rawEvents ++ (session.lastEvents last).1)
      (.returned (session.lastEvents last).2)
    constructor
    · rw [returned, used, List.count_append, reads, lastReads]
      simp
    · rw [returned, used]
      intro turn isLast interrupted
      rw [List.getLast?_concat, Option.some.injEq] at isLast
      rw [isLast, interrupted] at ends
      exact absurd trivial ends
    · rw [returned, used]
      intro zero
      rcases session.lastEvents_cases ends with
        ⟨again, events, armed⟩ | ⟨-, -, -, nonzero⟩
      · refine ⟨⟨before, last, rfl, all, again⟩, ?_⟩
        rw [modEvents_append, arms, events, armed (CallResult.returned.inj zero)]
        rfl
      · exact absurd (CallResult.returned.inj zero) nonzero
    · rw [returned, used]
      intro some
      rcases session.lastEvents_cases ends with
        ⟨again, events, -⟩ | ⟨-, -, none, -⟩
      · refine ⟨⟨before, last, rfl, all, again⟩,
          before.flatMap session.rawEvents ++ [.read session.nSocket],
          last.epollCtl, ?_, ?_, ?_⟩
        · rw [events, List.append_assoc]
          rfl
        · rw [modEvents_append, arms]
          rfl
        · simp [reads]
      · rw [modEvents_append, arms, none] at some
        exact absurd rfl some

theorem deliveries_ioRecv_raw
    (raw : session.bIsHaveHead = false)
    (turns : List RecvTurn) :
    (deliveries (session.ioRecv turns).events).flatten =
      if session.hasTransPortEngineRecv then
        bytesRead ((session.ioRecv turns).used turns)
      else [] := by
  rcases ioRecv_cases raw turns with ⟨all, pending⟩ |
    ⟨before, last, rest, rfl, all, ends, returned⟩
  · rw [pending, session.deliveries_rawEvents all]
    simp [RecvCall.used]
  · have nothing : last.bytes = [] := by
      unfold RecvTurn.bytes
      cases result : last.read with
      | data chunk => exact absurd (result ▸ trivial) ends
      | _ => rfl
    have read : bytesRead (before ++ [last]) = bytesRead before := by
      simp [bytesRead, nothing]
    rw [returned, used_returned, deliveries_append,
      (session.lastEvents_reads last).2, List.append_nil,
      session.deliveries_rawEvents all, read]

/-- A call on a session without framing hands on what it reads if there is a
receiver, retries after `EINTR`, and arms the descriptor exactly when it has
drained the socket. -/
theorem ioRecv_drains
    (session : TcpSession)
    (raw : session.bIsHaveHead = false)
    (turns : List RecvTurn) :
    (deliveries (session.ioRecv turns).events).flatten =
        (if session.hasTransPortEngineRecv then
          bytesRead ((session.ioRecv turns).used turns)
        else []) ∧
      session.ArmsDrained turns :=
  ⟨deliveries_ioRecv_raw raw turns, armsDrained_ioRecv raw turns⟩

/-- A letter, then `EINTR`, then nothing more. -/
def letterTurns : List RecvTurn :=
  [⟨.data ⟨[90], by decide, by decide⟩, 0, .failed, true⟩,
    ⟨.interrupted, 0, .failed, true⟩, ⟨.again, 0, .failed, true⟩]

/-- A session without framing that was accepted on socket 16. -/
def rawSession (hasTransPortEngineRecv : Bool) : TcpSession :=
  ((construct ⟨false, false, 0, 0⟩ 0x7f0000001010 0).init
    ⟨16, true, true, hasTransPortEngineRecv, false, true⟩).1

theorem ioRecv_drains_letter :
    (deliveries ((rawSession true).ioRecv letterTurns).events).flatten = [90] ∧
      (rawSession true).ArmsDrained letterTurns :=
  ioRecv_drains (rawSession true) rfl letterTurns

/-- Without a receiver what is read is dropped. -/
theorem not_handsOnAll_noReceiver :
    ¬∀ (session : TcpSession) (turns : List RecvTurn),
      session.bIsHaveHead = false →
        session.HandsOnAll turns ∧ session.ArmsDrained turns := by
  intro always
  have handsOn := (always (rawSession false) letterTurns rfl).1
  contradiction

end TcpSession

end TransPortEngine
