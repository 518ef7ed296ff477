import TransPortEngine.Server.Callbacks
import TransPortEngine.TcpClient.CallbackWords

/-!
# The callbacks of a session

What the functions of a session call of the application. A read hands on one
message at most, and only when there is a receiver for it.
-/

namespace TransPortEngine

open SessionWords

/-- Events that have nothing to do with callbacks. -/
theorem callbacks_of_bare
    {events : List EngineEvent}
    (bare : ∀ event ∈ events, event.Bare) :
    callbacks events = [] := by
  apply List.filterMap_eq_nil_iff.mpr
  intro event member
  have isBare := bare event member
  cases event with
  | onTransPortEngineRecv | onTransPortEngineNotify => contradiction
  | _ => rfl

/-- The callback of the first event, and those of the others. -/
theorem callbacks_cons (event : EngineEvent) (events : List EngineEvent) :
    callbacks (event :: events) = event.token.toList ++ callbacks events := by
  unfold callbacks
  cases isToken : event.token with
  | none => exact List.filterMap_cons_none isToken
  | some token => exact List.filterMap_cons_some isToken

namespace TcpSession

variable (session : TcpSession)

theorem callbacks_ioSend
    (szData : Option (List UInt8))
    (nDataLen : Int)
    (outcomes : SendOutcomes) :
    callbacks (session.ioSend szData nDataLen outcomes).events = [] := by
  rcases (session.ioSend_writes szData nDataLen outcomes).2 with none | ⟨_, some⟩
  · rw [none]
    rfl
  · rw [some]
    exact callbacks_of_bare (bare_writes _ _ _ _)

theorem callbacks_ioSendQueued (result : WriteResult) (epollCtl : Bool) :
    callbacks (session.ioSendQueued result epollCtl).2.1 = [] := by
  have sends := session.events_ioSendQueued result epollCtl
  generalize (session.ioSendQueued result epollCtl).2.1 = events at sends ⊢
  cases sends with
  | nothing | writes | registers => rfl

theorem callbacks_notify (nMsgType : MsgType) :
    callbacks (session.notify nMsgType) =
      if session.hasTransPortEngineRecv then
        (EngineEvent.onTransPortEngineNotify 0 nMsgType).token.toList
      else [] := by
  unfold notify
  split
  · cases nMsgType with
    | connect => rfl
    | disconnect => rfl
  · rfl

theorem callbacks_closeSocket : callbacks session.closeSocket = [] := by
  unfold closeSocket
  split
  · rfl
  · rfl

/-- `TcpSession_Fini` announces the end of the session. -/
theorem callbacks_fini :
    callbacks session.fini.2.1 =
      if session.hasTransPortEngineRecv then [.closes] else [] := by
  rw [fini, callbacks_append, callbacks_append, callbacks_notify,
    callbacks_closeSocket, List.append_nil]
  exact List.append_nil _

theorem callbacks_delete : callbacks session.delete.2 = [] := by
  rw [delete, callbacks_append, callbacks_closeSocket]
  rfl

/-- Events that hand on one message at most, to a receiver. -/
def HandsOn (events : List EngineEvent) : Prop :=
  callbacks events = [] ∨
    session.hasTransPortEngineRecv = true ∧ callbacks events = [.item]

theorem handsOn_ioRecvBody (szRecvBuf : List UInt8) (now : Int) :
    session.HandsOn (session.ioRecvBody szRecvBuf now).events := by
  unfold ioRecvBody
  dsimp only
  split
  · have body : session.HandsOn (session.bodyEvents
        (session.toSessionCore.bodyBuf szRecvBuf)) := by
      unfold bodyEvents
      split
      · exact Or.inl rfl
      · split
        · rename_i data
          exact Or.inr ⟨data.2, rfl⟩
        · exact Or.inl rfl
    rw [HandsOn, callbacks_append, callbacks_append, callbacks_assembleCopies]
    exact body
  · split
    · exact Or.inl rfl
    · exact Or.inl rfl

theorem callbacks_ioRecvHead
    (szRecvBuf : List UInt8)
    (now : Int)
    (echo : EchoOutcomes) :
    callbacks (session.ioRecvHead szRecvBuf now echo).events = [] := by
  have answer : ∀ (object : TcpSession) (headMsg : List UInt8),
      callbacks (object.headEvents headMsg echo) = [] := by
    intro object headMsg
    unfold headEvents
    split
    · rw [callbacks_append, callbacks_ioSend]
      split
      · rfl
      · rfl
    · rfl
  simp only [ioRecvHead]
  split
  · rfl
  · split
    · rfl
    · rw [callbacks_append, callbacks_append, callbacks_assembleCopies, answer]
      rfl

/-- One iteration of `TcpSession_IORecv()`. -/
theorem handsOn_ioRecvPass (turn : RecvTurn) :
    session.HandsOn (session.ioRecvPass turn).events := by
  unfold ioRecvPass
  cases turn.read with
  | closed | again | interrupted | failed => exact Or.inl rfl
  | data chunk =>
      dsimp only [ioRecvData]
      split
      · split
        · exact session.handsOn_ioRecvBody _ _
        · exact Or.inl (session.callbacks_ioRecvHead _ _ _)
      · unfold ioRecvRaw
        dsimp only
        split
        · rename_i receives
          exact Or.inr ⟨receives, rfl⟩
        · exact Or.inl rfl

end TcpSession

end TransPortEngine
