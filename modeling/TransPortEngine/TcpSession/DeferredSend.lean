import TransPortEngine.Library.Transition
import TransPortEngine.TcpSession.Effects

/-!
# The deferred send queue

`TcpSession_IOSend(int)` unlinks the first entry of `m_SendBufs` before it
writes it, and does not put it back. A call that returns 0 keeps all bytes and
arms the session for the rest, unless the `write` accepted nothing for
`EAGAIN` or `EINTR`, or the entry was `NULL`.
-/

namespace TransPortEngine

open Transition

/-- The bytes of an entry of `m_SendBufs`. -/
def entryBytes : Option BufInfo → List UInt8
  | none => []
  | some bufInfo => bufInfo.szBuf

/-- The concatenation of the buffers in `m_SendBufs`. -/
def deferredBytes (sendBufs : List (Option BufInfo)) : List UInt8 :=
  sendBufs.flatMap entryBytes

@[simp] theorem deferredBytes_nil : deferredBytes [] = [] := rfl

@[simp] theorem deferredBytes_cons
    (bufInfo : Option BufInfo)
    (sendBufs : List (Option BufInfo)) :
    deferredBytes (bufInfo :: sendBufs) =
      entryBytes bufInfo ++ deferredBytes sendBufs := rfl

/-- The descriptor of a session has been armed for `EPOLLOUT`. -/
def ArmedForOutput (nSocket : Int) (events : List EngineEvent) : Prop :=
  ∃ event, .epollCtl .mod nSocket event true ∈ events ∧
    event.events.epollOut = true

/-- A call on the queue has put on the socket what it has taken out of the
queue, and the rest is armed for. -/
structure LosesNothing
    (session : TcpSession)
    (sent : TcpSession × List EngineEvent × Int) : Prop where
  bytes : written sent.2.1 ++ deferredBytes sent.1.sendBufs =
    deferredBytes session.sendBufs
  armed : sent.1.sendBufs ≠ [] → ArmedForOutput session.nSocket sent.2.1

/-- A call of `TcpSession_IOSend(int)` that returns 0 loses nothing. -/
def Conserves
    (session : TcpSession)
    (result : WriteResult)
    (epollCtl : Bool) : Prop :=
  (session.ioSendQueued result epollCtl).2.2 = 0 →
    LosesNothing session (session.ioSendQueued result epollCtl)

/-- The first buffer has bytes and none of them is accepted, without an error
being returned; or the first entry is `NULL` and not the last. -/
def DropsFirst
    (sendBufs : List (Option BufInfo))
    (result : WriteResult)
    (epollCtl : Bool) : Prop :=
  match sendBufs with
  | [] => False
  | none :: later => later ≠ []
  | some bufInfo :: _ =>
      bufInfo.szBuf ≠ [] ∧ (result = .again ∨ result = .interrupted) ∧
        epollCtl = true

/-- An armed session with entries left asks for `EPOLLOUT`. -/
theorem TcpSession.armedForOutput_modEvent
    {session : TcpSession}
    (remaining : session.sendBufs ≠ [])
    (before : List EngineEvent) :
    ArmedForOutput session.nSocket (before ++ (session.modEvent true).1) := by
  refine ⟨session.eventAdd, by simp [modEvent], ?_⟩
  have sending : session.isSendData = true := by
    simpa [isSendData] using remaining
  simp [eventAdd, sending]

namespace TcpSession

/-- The session without the first entry of its queue. -/
def unlinked (session : TcpSession) : TcpSession :=
  { session with sendBufs := session.sendBufs.tail }

/-- What a call does that has written bytes of the first buffer and arms the
session again. -/
def sentAndArmed
    (session : TcpSession)
    (bytes : List UInt8) : TcpSession × List EngineEvent × Int :=
  (session.unlinked,
    [.lock .sendBufLock, .unlock .sendBufLock, .write session.nSocket bytes] ++
      (session.unlinked.modEvent true).1, 0)

@[simp] theorem sendBufs_sentAndArmed
    (session : TcpSession)
    (bytes : List UInt8) :
    (session.sentAndArmed bytes).1.sendBufs = session.sendBufs.tail := rfl

@[simp] theorem written_sentAndArmed
    (session : TcpSession)
    (bytes : List UInt8) :
    written (session.sentAndArmed bytes).2.1 = bytes := by
  simp [sentAndArmed, modEvent, written, EngineEvent.output]

/-- A `write` that would block or is interrupted counts as one that has taken
the buffer. -/
theorem ioSendQueued_blocked
    {session : TcpSession}
    {bufInfo : BufInfo}
    {later : List (Option BufInfo)}
    {result : WriteResult}
    (queue : session.sendBufs = some bufInfo :: later)
    (blocked : result = .again ∨ result = .interrupted) :
    session.ioSendQueued result true = session.sentAndArmed [] := by
  rcases blocked with rfl | rfl <;>
    simp [ioSendQueued, queue, sentAndArmed, unlinked, modEvent]

/-- A call that takes a buffer and returns 0 has armed the session, and has
written all of the buffer or, for `EAGAIN` and `EINTR`, nothing. -/
theorem ioSendQueued_zero
    {session : TcpSession}
    {bufInfo : BufInfo}
    {later : List (Option BufInfo)}
    {result : WriteResult}
    {epollCtl : Bool}
    (queue : session.sendBufs = some bufInfo :: later)
    (returned : (session.ioSendQueued result epollCtl).2.2 = 0) :
    epollCtl = true ∧
      ((result = .again ∨ result = .interrupted) ∧
          session.ioSendQueued result epollCtl = session.sentAndArmed [] ∨
        (¬(result = .again ∨ result = .interrupted)) ∧
          session.ioSendQueued result epollCtl =
            session.sentAndArmed bufInfo.szBuf) := by
  have armed : epollCtl = true := by
    cases epollCtl with
    | true => rfl
    | false =>
        cases result with
        | accepted count =>
            simp only [ioSendQueued, queue, modEvent] at returned
            split at returned <;> simp at returned
        | _ => simp [ioSendQueued, queue, modEvent] at returned
  subst armed
  refine ⟨rfl, ?_⟩
  cases result with
  | again => exact Or.inl ⟨Or.inl rfl, ioSendQueued_blocked queue (Or.inl rfl)⟩
  | interrupted =>
      exact Or.inl ⟨Or.inr rfl, ioSendQueued_blocked queue (Or.inr rfl)⟩
  | failed => simp [ioSendQueued, queue] at returned
  | accepted count =>
      refine Or.inr ⟨by simp, ?_⟩
      simp only [ioSendQueued, queue] at returned ⊢
      split at returned
      · rename_i full
        have whole : bufInfo.szBuf.take count = bufInfo.szBuf :=
          List.take_of_length_le (by rw [← full, List.length_take]; omega)
        rw [if_pos full, whole]
        simp [sentAndArmed, unlinked, queue, modEvent]
      · simp at returned

/-- Bytes of the first buffer and then the queue. -/
theorem losesNothing_sentAndArmed
    {session : TcpSession}
    {bytes : List UInt8}
    (sent : bytes ++ deferredBytes session.sendBufs.tail =
      deferredBytes session.sendBufs) :
    LosesNothing session (session.sentAndArmed bytes) := by
  constructor
  · rw [written_sentAndArmed, sendBufs_sentAndArmed, sent]
  · exact fun remaining => session.unlinked.armedForOutput_modEvent remaining _

end TcpSession

/-- A call conserves the bytes exactly when it does not drop the first entry. -/
theorem conserves_iff
    (session : TcpSession)
    (result : WriteResult)
    (epollCtl : Bool) :
    Conserves session result epollCtl ↔
      ¬DropsFirst session.sendBufs result epollCtl := by
  unfold Conserves
  cases queue : session.sendBufs with
  | nil =>
      rw [TcpSession.ioSendQueued_of_empty queue]
      refine iff_of_true (fun _ => ⟨?_, fun remaining => ?_⟩) id
      · simp [written, EngineEvent.output]
      · exact absurd queue remaining
  | cons first later =>
      cases first with
      | none =>
          simp only [TcpSession.ioSendQueued, queue, DropsFirst, not_not]
          constructor
          · intro conserves
            by_contra remaining
            obtain ⟨event, member, -⟩ := (conserves trivial).armed remaining
            simp at member
          · intro last _
            refine ⟨?_, fun remaining => absurd last remaining⟩
            simp [written, EngineEvent.output, queue, entryBytes]
      | some bufInfo =>
          constructor
          · rintro conserves ⟨nonempty, blocked, armed⟩
            subst armed
            have sent := TcpSession.ioSendQueued_blocked queue blocked
            rw [sent] at conserves
            have kept := (conserves rfl).bytes
            have dropped : bufInfo.szBuf = [] := by
              simpa [queue, entryBytes] using kept
            exact nonempty dropped
          · intro keeps returned
            obtain ⟨armed, ⟨blocked, sent⟩ | ⟨-, sent⟩⟩ :=
              TcpSession.ioSendQueued_zero queue returned
            · have empty : bufInfo.szBuf = [] := by
                by_contra nonempty
                exact keeps ⟨nonempty, blocked, armed⟩
              rw [sent]
              apply TcpSession.losesNothing_sentAndArmed
              simp [queue, entryBytes, empty]
            · rw [sent]
              apply TcpSession.losesNothing_sentAndArmed
              simp [queue, entryBytes]

/-! ## Several calls -/

/-- A call that returns 0, given the results of its system calls: the session,
and everything that has been done. -/
def queuedStep
    (state : TcpSession × List EngineEvent)
    (label : WriteResult × Bool) : Option (TcpSession × List EngineEvent) :=
  let sent := state.1.ioSendQueued label.1 label.2
  if sent.2.2 = 0 then some (sent.1, state.2 ++ sent.2.1) else none

/-- A call that keeps the first entry. -/
def KeepsFirst
    (state : TcpSession × List EngineEvent)
    (label : WriteResult × Bool) : Prop :=
  ¬DropsFirst state.1.sendBufs label.1 label.2

/-- What is written and what is deferred, one after the other, is the same after
a call that keeps the first entry. -/
theorem bytes_queuedStep
    {state next : TcpSession × List EngineEvent}
    {label : WriteResult × Bool}
    (keeps : KeepsFirst state label)
    (stepped : queuedStep state label = some next) :
    written next.2 ++ deferredBytes next.1.sendBufs =
      written state.2 ++ deferredBytes state.1.sendBufs := by
  simp only [queuedStep] at stepped
  split at stepped
  · rename_i returned
    have kept := ((conserves_iff _ _ _).mpr keeps returned).bytes
    rw [← Option.some.inj stepped]
    simp only [written, List.flatMap_append, List.append_assoc] at kept ⊢
    rw [kept]
  · contradiction

/-- Calls that keep the first entry put the deferred bytes on the socket in
order, and what they have not written is still deferred. -/
theorem bytes_run
    {session : TcpSession}
    {calls : List (WriteResult × Bool)}
    {last : TcpSession × List EngineEvent}
    (keeps : Throughout queuedStep KeepsFirst (session, []) calls)
    (reached : run queuedStep (session, []) calls = some last) :
    written last.2 ++ deferredBytes last.1.sendBufs =
      deferredBytes session.sendBufs := by
  let Kept := fun state : TcpSession × List EngineEvent =>
    written state.2 ++ deferredBytes state.1.sendBufs =
      deferredBytes session.sendBufs
  have start : Kept (session, []) := rfl
  exact invariant_of_run
    (fun _ _ _ kept keeps stepped =>
      (bytes_queuedStep keeps stepped).trans kept)
    start keeps reached

/-- A call on the queue that returns 0 keeps all bytes and arms the session for
the rest exactly when it does not drop the first entry, and over a run of such
calls nothing is lost or put in another order. -/
theorem queued_conserves_iff
    (session : TcpSession)
    (result : WriteResult)
    (epollCtl : Bool) :
    (Conserves session result epollCtl ↔
      ¬DropsFirst session.sendBufs result epollCtl) ∧
      ∀ (calls : List (WriteResult × Bool))
        (last : TcpSession × List EngineEvent),
      Throughout queuedStep KeepsFirst (session, []) calls →
      run queuedStep (session, []) calls = some last →
      written last.2 ++ deferredBytes last.1.sendBufs =
        deferredBytes session.sendBufs :=
  ⟨conserves_iff session result epollCtl,
    fun _ _ keeps reached => bytes_run keeps reached⟩

/-- A session with two buffers in its queue. -/
def twoDeferred : TcpSession :=
  { TcpSession.construct ⟨true, true, 0, 0⟩ 8 0 with
    sendBufs := [some ⟨[1, 2]⟩, some ⟨[3]⟩] }

/-- The two buffers are written in two calls. -/
theorem queued_conserves_iff_twoDeferred :
    Conserves twoDeferred (.accepted 2) true ∧
      ∀ last, run queuedStep (twoDeferred, [])
          [(.accepted 2, true), (.accepted 1, true)] = some last →
        written last.2 ++ deferredBytes last.1.sendBufs = [1, 2, 3] := by
  have both := queued_conserves_iff twoDeferred (.accepted 2) true
  refine ⟨both.1.mpr (by simp [twoDeferred, DropsFirst]),
    fun last reached => ?_⟩
  have keeps : Throughout queuedStep KeepsFirst (twoDeferred, [])
      [(.accepted 2, true), (.accepted 1, true)] := by
    refine ⟨?_, fun next stepped => ⟨?_, fun _ _ => trivial⟩⟩
    · simp [KeepsFirst, twoDeferred, DropsFirst]
    · rw [← Option.some.inj stepped]
      simp [KeepsFirst, DropsFirst, TcpSession.ioSendQueued, twoDeferred]
  exact both.2 _ last keeps reached

/-- With one byte deferred, an `EAGAIN` loses it: the call returns 0 and the
queue is empty. -/
theorem queued_loses_byte :
    ¬∀ (session : TcpSession) (result : WriteResult) (epollCtl : Bool),
      Conserves session result epollCtl := by
  intro conserves
  have kept := (conserves { twoDeferred with sendBufs := [some ⟨[65]⟩] }
    .again true rfl).bytes
  revert kept
  decide

end TransPortEngine
