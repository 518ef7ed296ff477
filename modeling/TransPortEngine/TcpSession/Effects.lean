import TransPortEngine.TcpSession.Recv

/-!
# What the functions of a session leave alone

Sending and receiving keep the address and the socket of a session and leave
nothing in its send queue. They close nothing. The only registration they touch
is that of their own descriptor, and they touch it once, at the end of a call of
`TcpSession_IORecv()` that has drained the socket.
-/

namespace TransPortEngine

/-- An event that does not change what the kernel keeps for a descriptor. -/
def EngineEvent.Plain : EngineEvent → Prop
  | .epollCtl _ _ _ _ => False
  | .close _ => False
  | _ => True

/-- Events none of which changes what the kernel keeps for a descriptor. -/
def PlainEvents (events : List EngineEvent) : Prop :=
  ∀ event ∈ events, event.Plain

theorem plainEvents_nil : PlainEvents [] := by
  intro event impossible
  contradiction

theorem PlainEvents.cons
    {event : EngineEvent}
    {events : List EngineEvent}
    (plain : event.Plain)
    (later : PlainEvents events) :
    PlainEvents (event :: events) := by
  intro member mem
  rcases List.mem_cons.mp mem with first | rest
  · exact first ▸ plain
  · exact later member rest

theorem PlainEvents.append
    {first second : List EngineEvent}
    (plainFirst : PlainEvents first)
    (plainSecond : PlainEvents second) :
    PlainEvents (first ++ second) := by
  intro event member
  rcases List.mem_append.mp member with before | after
  · exact plainFirst event before
  · exact plainSecond event after

theorem PlainEvents.recvBufLocked
    {events : List EngineEvent}
    (plain : PlainEvents events) :
    PlainEvents (recvBufLocked events) :=
  .cons trivial (plain.append (.cons trivial plainEvents_nil))

theorem plainEvents_assembleCopies
    (capacity : Nat)
    (recvBufs : List BufInfo)
    (szRecvBuf : List UInt8) :
    PlainEvents (assembleCopies capacity recvBufs szRecvBuf) :=
  forall_assembleCopies trivial trivial (fun _ _ _ => trivial) _ _ _

theorem plainEvents_ioSendWrites
    (nSocket : Int)
    (szData : List UInt8)
    (nWriteLen : Nat)
    (results : List WriteResult) :
    PlainEvents (ioSendWrites nSocket szData nWriteLen results) :=
  forall_ioSendWrites (fun _ => trivial) _ _ _

namespace TcpSession

/-- The object is still at its address, has its socket, and nothing in its send
queue that was not there. -/
structure SameIdentity (before after : TcpSession) : Prop where
  address : after.address = before.address
  nSocket : after.nSocket = before.nSocket
  sendBufs : after.sendBufs = before.sendBufs

theorem SameIdentity.refl (session : TcpSession) :
    SameIdentity session session :=
  ⟨rfl, rfl, rfl⟩

theorem SameIdentity.trans
    {first second third : TcpSession}
    (before : SameIdentity first second)
    (after : SameIdentity second third) :
    SameIdentity first third :=
  ⟨after.address.trans before.address, after.nSocket.trans before.nSocket,
    after.sendBufs.trans before.sendBufs⟩

theorem sameIdentity_setCore (session : TcpSession) (core : SessionCore) :
    SameIdentity session (session.setCore core) :=
  ⟨rfl, rfl, rfl⟩

/-- A raw send never reaches the code that defers data: when its loop is left
without an error, nothing is left to write. -/
theorem ioSend_writes
    (session : TcpSession)
    (szData : Option (List UInt8))
    (nDataLen : Int)
    (outcomes : SendOutcomes) :
    (session.ioSend szData nDataLen outcomes).session = session ∧
      ((session.ioSend szData nDataLen outcomes).events = [] ∨
        ∃ bytes, (session.ioSend szData nDataLen outcomes).events =
          ioSendWrites session.nSocket bytes 0 outcomes.writes) := by
  cases szData with
  | none => exact ⟨rfl, Or.inl rfl⟩
  | some szData =>
      by_cases nonpos : nDataLen ≤ 0
      · rw [session.ioSend_nonpos _ _ nonpos]
        exact ⟨rfl, Or.inl rfl⟩
      · simp only [ioSend, if_neg nonpos]
        have full := @ioSendLoop_exited (szData.take nDataLen.toNat).length 0
          outcomes.writes
        cases loop : ioSendLoop (szData.take nDataLen.toNat).length 0
            outcomes.writes with
        | mk ending nWriteLen =>
            rw [loop] at full
            cases ending with
            | pending => exact ⟨rfl, Or.inr ⟨_, rfl⟩⟩
            | failed => exact ⟨rfl, Or.inr ⟨_, rfl⟩⟩
            | exited =>
                have done : ¬nWriteLen < (szData.take nDataLen.toNat).length :=
                  not_lt.mpr (full rfl)
                simp only [ioSendRest, if_neg done, List.append_nil]
                exact ⟨trivial, Or.inr ⟨_, rfl⟩⟩

theorem plainEvents_ioSend
    (session : TcpSession)
    (szData : Option (List UInt8))
    (nDataLen : Int)
    (outcomes : SendOutcomes) :
    PlainEvents (session.ioSend szData nDataLen outcomes).events := by
  rcases (session.ioSend_writes szData nDataLen outcomes).2 with none | ⟨_, some⟩
  · rw [none]
    exact plainEvents_nil
  · rw [some]
    exact plainEvents_ioSendWrites _ _ _ _

/-- A pass that changes nothing the kernel keeps, and ends with another pass or
with an error. -/
structure QuietPass (session : TcpSession) (pass : RecvPass) : Prop where
  same : SameIdentity session pass.session
  plain : PlainEvents pass.events
  ending : pass.ending = .loop ∨ ∃ nRet < 0, pass.ending = .leave nRet

theorem quietPass_ioRecvBody
    (session : TcpSession)
    (szRecvBuf : List UInt8)
    (now : Int) :
    QuietPass session (session.ioRecvBody szRecvBuf now) := by
  have lens : PlainEvents (recvBufLocked []) := plainEvents_nil.recvBufLocked
  have callback : PlainEvents (session.bodyEvents
      (session.toSessionCore.bodyBuf szRecvBuf)) := by
    unfold bodyEvents
    split
    · exact .cons trivial plainEvents_nil
    · split
      · exact .cons trivial plainEvents_nil
      · exact plainEvents_nil
  unfold ioRecvBody
  simp only
  split
  · exact ⟨session.sameIdentity_setCore _,
      (lens.append (plainEvents_assembleCopies _ _ _)).append callback,
      Or.inl rfl⟩
  · split
    · exact ⟨session.sameIdentity_setCore _, (lens.append lens).append lens,
        Or.inl rfl⟩
    · exact ⟨.refl session, (lens.append lens).append lens,
        Or.inr ⟨-1, by decide, rfl⟩⟩

theorem quietPass_ioRecvHead
    (session : TcpSession)
    (szRecvBuf : List UInt8)
    (now : Int)
    (echo : EchoOutcomes) :
    QuietPass session (session.ioRecvHead szRecvBuf now echo) := by
  have lens : PlainEvents (recvBufLocked []) := plainEvents_nil.recvBufLocked
  have answer : ∀ (object : TcpSession) (headMsg : List UInt8),
      PlainEvents (object.headEvents headMsg echo) := by
    intro object headMsg
    unfold headEvents
    split
    · refine PlainEvents.append ?_ (object.plainEvents_ioSend _ _ _)
      split
      · exact plainEvents_nil
      · exact .cons trivial plainEvents_nil
    · exact plainEvents_nil
  unfold ioRecvHead
  simp only
  split
  · exact ⟨.refl session, lens, Or.inr ⟨-1, by decide, rfl⟩⟩
  · split
    · exact ⟨session.sameIdentity_setCore _, (lens.append lens).append lens,
        Or.inl rfl⟩
    · exact ⟨session.sameIdentity_setCore _,
        (((lens.append lens).append lens).append
          (plainEvents_assembleCopies _ _ _)).append (answer _ _),
        Or.inl rfl⟩

theorem quietPass_ioRecvRaw (session : TcpSession) (szRecvBuf : List UInt8) :
    QuietPass session (session.ioRecvRaw szRecvBuf) := by
  refine ⟨.refl session, ?_, Or.inl rfl⟩
  unfold ioRecvRaw
  simp only
  split
  · exact .cons trivial plainEvents_nil
  · exact plainEvents_nil

theorem quietPass_ioRecvData
    (session : TcpSession)
    (szRecvBuf : List UInt8)
    (now : Int)
    (echo : EchoOutcomes) :
    QuietPass session (session.ioRecvData szRecvBuf now echo) := by
  unfold ioRecvData
  split
  · split
    · exact session.quietPass_ioRecvBody _ _
    · exact session.quietPass_ioRecvHead _ _ _
  · exact session.quietPass_ioRecvRaw _

/-- A pass that finds the socket drained arms the descriptor; any other pass is
quiet. -/
theorem ioRecvPass_cases (session : TcpSession) (turn : RecvTurn) :
    session.ioRecvPass turn =
        ⟨session,
          .read session.nSocket :: (session.modEvent turn.epollCtl).1,
          .leave (if (session.modEvent turn.epollCtl).2 < 0 then -1 else 0)⟩ ∨
      QuietPass session (session.ioRecvPass turn) := by
  have quiet : ∀ pass : RecvPass, QuietPass session pass →
      QuietPass session
        { pass with events := .read session.nSocket :: pass.events } := by
    intro pass before
    exact ⟨before.same, .cons trivial before.plain, before.ending⟩
  unfold ioRecvPass
  cases turn.read with
  | data chunk => exact Or.inr (quiet _ (session.quietPass_ioRecvData _ _ _))
  | closed =>
      exact Or.inr (quiet _ ⟨.refl session, plainEvents_nil,
        Or.inr ⟨-1, by decide, rfl⟩⟩)
  | again => exact Or.inl rfl
  | interrupted =>
      exact Or.inr (quiet _ ⟨.refl session, plainEvents_nil, Or.inl rfl⟩)
  | failed =>
      exact Or.inr (quiet _ ⟨.refl session, plainEvents_nil,
        Or.inr ⟨-2, by decide, rfl⟩⟩)

/-- The descriptor of an object of the same identity is armed with the same
event. -/
theorem SameIdentity.eventAdd_eq
    {before after : TcpSession}
    (same : SameIdentity before after) :
    after.eventAdd = before.eventAdd := by
  unfold eventAdd isSendData
  rw [same.address, same.nSocket, same.sendBufs]

/-- An event that changes nothing the kernel keeps, or arms the descriptor of
the session. -/
def OwnEvent (session : TcpSession) (event : EngineEvent) : Prop :=
  event.Plain ∨ ∃ op done, op ≠ .del ∧
    event = .epollCtl op session.nSocket session.eventAdd done

theorem SameIdentity.ownEvent
    {before after : TcpSession}
    {event : EngineEvent}
    (same : SameIdentity before after)
    (own : after.OwnEvent event) :
    before.OwnEvent event := by
  rcases own with plain | ⟨op, done, arms, armed⟩
  · exact Or.inl plain
  · rw [same.eventAdd_eq, same.nSocket] at armed
    exact Or.inr ⟨op, done, arms, armed⟩

theorem ownEvent_addEvent
    {session : TcpSession}
    {done : Bool}
    {event : EngineEvent}
    (member : event ∈ (session.addEvent done).1) :
    session.OwnEvent event :=
  Or.inr ⟨.add, done, by decide, List.mem_singleton.mp member⟩

theorem ownEvent_modEvent
    {session : TcpSession}
    {done : Bool}
    {event : EngineEvent}
    (member : event ∈ (session.modEvent done).1) :
    session.OwnEvent event :=
  Or.inr ⟨.mod, done, by decide, List.mem_singleton.mp member⟩

theorem ioRecvPass_effects (session : TcpSession) (turn : RecvTurn) :
    SameIdentity session (session.ioRecvPass turn).session ∧
      ∀ event ∈ (session.ioRecvPass turn).events, session.OwnEvent event := by
  rcases session.ioRecvPass_cases turn with drained | quiet
  · rw [drained]
    refine ⟨.refl session, ?_⟩
    intro event member
    rcases List.mem_cons.mp member with isRead | armed
    · rw [isRead]
      exact Or.inl trivial
    · exact ownEvent_modEvent armed
  · exact ⟨quiet.same, fun event member => Or.inl (quiet.plain event member)⟩

/-- A call of `TcpSession_IORecv()` keeps the identity of the session and
touches no registration but its own. -/
theorem ioRecv_effects (session : TcpSession) (turns : List RecvTurn) :
    SameIdentity session (session.ioRecv turns).session ∧
      ∀ event ∈ (session.ioRecv turns).events, session.OwnEvent event := by
  induction turns generalizing session with
  | nil =>
      refine ⟨.refl session, ?_⟩
      intro event impossible
      contradiction
  | cons turn turns inductionHypothesis =>
      have pass := session.ioRecvPass_effects turn
      rw [ioRecv]
      cases (session.ioRecvPass turn).ending with
      | leave nRet => exact pass
      | loop =>
          have later := inductionHypothesis (session.ioRecvPass turn).session
          refine ⟨pass.1.trans later.1, ?_⟩
          intro event member
          rcases List.mem_append.mp member with first | rest
          · exact pass.2 event first
          · exact pass.1.ownEvent (later.2 event rest)

/-- With an empty send queue there is nothing to send. -/
theorem ioSendQueued_of_empty
    {session : TcpSession}
    (empty : session.sendBufs = [])
    (result : WriteResult)
    (epollCtl : Bool) :
    session.ioSendQueued result epollCtl =
      (session, [.lock .sendBufLock, .unlock .sendBufLock], 0) := by
  unfold ioSendQueued
  rw [empty]

end TcpSession

end TransPortEngine
