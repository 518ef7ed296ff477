import TransPortEngine.TcpSession.Effects

/-!
# Which functions of a session notify

Only `TcpSession_Init` and `TcpSession_Fini` call `OnTransPortEngineNotify`, when
there is a receiver for callbacks, and only `TcpSession_Init` sets the receiver.
-/

namespace TransPortEngine

/-- The id and the code of a notification. -/
def EngineEvent.notification : EngineEvent → Option (Int × MsgType)
  | .onTransPortEngineNotify nSessionId nMsgType => some (nSessionId, nMsgType)
  | _ => none

/-- The notifications among events, in order. -/
def notifications (events : List EngineEvent) : List (Int × MsgType) :=
  events.filterMap EngineEvent.notification

@[simp] theorem notifications_nil : notifications [] = [] := rfl

@[simp] theorem notifications_append (first second : List EngineEvent) :
    notifications (first ++ second) =
      notifications first ++ notifications second :=
  List.filterMap_append

theorem notifications_tail
    {event : EngineEvent}
    {events : List EngineEvent}
    (quiet : notifications (event :: events) = []) :
    notifications events = [] := by
  rw [notifications, List.filterMap_cons] at quiet
  split at quiet
  · exact quiet
  · contradiction

theorem notifications_assembleCopies
    (capacity : Nat)
    (recvBufs : List BufInfo)
    (szRecvBuf : List UInt8) :
    notifications (assembleCopies capacity recvBufs szRecvBuf) = [] := by
  apply List.filterMap_eq_nil_iff.mpr
  apply forall_assembleCopies
  · rfl
  · rfl
  · intro capacity offset count
    rfl

theorem notifications_ioSendWrites
    (nSocket : Int)
    (szData : List UInt8)
    (nWriteLen : Nat)
    (results : List WriteResult) :
    notifications (ioSendWrites nSocket szData nWriteLen results) = [] := by
  apply List.filterMap_eq_nil_iff.mpr
  apply forall_ioSendWrites
  intro bytes
  rfl

namespace TcpSession

variable (session : TcpSession)

theorem notifications_ioSend
    (szData : Option (List UInt8))
    (nDataLen : Int)
    (outcomes : SendOutcomes) :
    notifications (session.ioSend szData nDataLen outcomes).events = [] := by
  rcases (session.ioSend_writes szData nDataLen outcomes).2 with none | ⟨_, some⟩
  · rw [none]
    rfl
  · rw [some]
    exact notifications_ioSendWrites _ _ _ _

/-- Sending from the queue calls nobody, and leaves the receiver. -/
theorem silent_ioSendQueued (result : WriteResult) (epollCtl : Bool) :
    notifications (session.ioSendQueued result epollCtl).2.1 = [] ∧
      (session.ioSendQueued result epollCtl).1.hasTransPortEngineRecv =
        session.hasTransPortEngineRecv := by
  constructor
  · have sends := session.events_ioSendQueued result epollCtl
    generalize (session.ioSendQueued result epollCtl).2.1 = events at sends ⊢
    cases sends with
    | nothing | writes | registers => rfl
  · rw [session_ioSendQueued]

theorem hasTransPortEngineRecv_finishBody (core : SessionCore) (now : Int) :
    (core.finishBody now).hasTransPortEngineRecv =
      core.hasTransPortEngineRecv := by
  simp only [SessionCore.finishBody, SessionCore.headleHB,
    apply_ite SessionCore.hasTransPortEngineRecv, ite_self]

theorem hasTransPortEngineRecv_finishHead
    (core : SessionCore)
    (headMsg : List UInt8)
    (now : Int) :
    (core.finishHead headMsg now).hasTransPortEngineRecv =
      core.hasTransPortEngineRecv := by
  unfold SessionCore.finishHead
  split
  · dsimp only
    split
    · rfl
    · rfl
  · split
    · rfl
    · rfl

/-- A pass that notifies nobody and leaves the receiver. -/
def SilentPass (pass : RecvPass) : Prop :=
  notifications pass.events = [] ∧
    pass.session.hasTransPortEngineRecv = session.hasTransPortEngineRecv

theorem silentPass_ioRecvBody (szRecvBuf : List UInt8) (now : Int) :
    session.SilentPass (session.ioRecvBody szRecvBuf now) := by
  have callback : notifications (session.bodyEvents
      (session.toSessionCore.bodyBuf szRecvBuf)) = [] := by
    unfold bodyEvents
    split
    · rfl
    · split
      · rfl
      · rfl
  simp only [ioRecvBody]
  split
  · refine ⟨?_, hasTransPortEngineRecv_finishBody _ _⟩
    rw [notifications_append, notifications_append, notifications_assembleCopies,
      callback]
    rfl
  · split
    · exact ⟨rfl, rfl⟩
    · exact ⟨rfl, rfl⟩

theorem silentPass_ioRecvHead
    (szRecvBuf : List UInt8)
    (now : Int)
    (echo : EchoOutcomes) :
    session.SilentPass (session.ioRecvHead szRecvBuf now echo) := by
  have answer : ∀ (object : TcpSession) (headMsg : List UInt8),
      notifications (object.headEvents headMsg echo) = [] := by
    intro object headMsg
    unfold headEvents
    split
    · rw [notifications_append, notifications_ioSend]
      split
      · rfl
      · rfl
    · rfl
  simp only [ioRecvHead]
  split
  · exact ⟨rfl, rfl⟩
  · split
    · exact ⟨rfl, rfl⟩
    · refine ⟨?_, hasTransPortEngineRecv_finishHead _ _ _⟩
      rw [notifications_append, notifications_append, notifications_assembleCopies,
        answer]
      rfl

theorem silentPass_ioRecvPass (turn : RecvTurn) :
    session.SilentPass (session.ioRecvPass turn) := by
  unfold ioRecvPass
  cases turn.read with
  | closed => exact ⟨rfl, rfl⟩
  | again => exact ⟨rfl, rfl⟩
  | interrupted => exact ⟨rfl, rfl⟩
  | failed => exact ⟨rfl, rfl⟩
  | data chunk =>
      dsimp only [ioRecvData]
      split
      · split
        · exact session.silentPass_ioRecvBody _ _
        · exact session.silentPass_ioRecvHead _ _ _
      · refine ⟨?_, rfl⟩
        unfold ioRecvRaw
        dsimp only
        split
        · rfl
        · rfl

theorem notifications_notify (nMsgType : MsgType) :
    notifications (session.notify nMsgType) =
      if session.hasTransPortEngineRecv then [(session.nSocket, nMsgType)]
      else [] := by
  unfold notify
  split
  · rfl
  · rfl

theorem notifications_closeSocket : notifications session.closeSocket = [] := by
  unfold closeSocket
  split
  · rfl
  · rfl

/-- Finalising a session announces its end. -/
theorem notifications_fini :
    notifications session.fini.2.1 =
      if session.hasTransPortEngineRecv then [(session.nSocket, .disconnect)]
      else [] := by
  rw [fini, notifications_append, notifications_append, notifications_notify,
    notifications_closeSocket, List.append_nil]
  exact List.append_nil _

theorem notifications_delete : notifications session.delete.2 = [] := by
  rw [delete, notifications_append, notifications_closeSocket]
  rfl

end TcpSession

end TransPortEngine
