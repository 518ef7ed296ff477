import TransPortEngine.TcpClient.Reconnect
import TransPortEngine.TcpClient.SocketInit

/-!
# The control flow of a client

Where the heartbeat thread and `TcpClient_SocketUnit` are, and the members they
and `TcpClient_SocketInit` share. Every step of a client is one of the steps
below on these; the receive thread changes none of them.
-/

namespace TransPortEngine

open Transition

/-- The stages of the two threads, the members they go by, and the descriptors
the client has closed. -/
structure Control where
  keepAlive : KeepAliveStage
  socketUnit : SocketUnitStage
  nLinkStatus : MsgType
  bHeartbeatFlag : Bool
  bRecvFlag : Bool
  nSocket : Int
  closes : List Int

/-- The control state of a client. -/
def Link.control (link : Link) : Control where
  keepAlive := link.keepAlive
  socketUnit := link.socketUnit
  nLinkStatus := link.client.nLinkStatus
  bHeartbeatFlag := link.client.bHeartbeatFlag
  bRecvFlag := link.client.bRecvFlag
  nSocket := link.client.nSocket
  closes := closedSockets link.events

/-- What `TcpClient_SocketUnit` closes in the end: the socket, unless the member
is zero. -/
def Control.lastCloses (control : Control) : List Int :=
  if control.nSocket = 0 then [] else [control.nSocket]

/-- What a step of a client does to its control state. -/
inductive ControlStep (control : Control) : LinkLabel → Control → Prop
  | look : ControlStep control .look control
  | recv (turn : RecvfromTurn) : ControlStep control (.recv turn) control
  | wakes
      (stage : control.keepAlive = .loop)
      (goesOn : control.bHeartbeatFlag = true) :
      ControlStep control (.keepAlive .next) { control with keepAlive := .woken }
  | returns
      (stage : control.keepAlive = .loop)
      (stopped : control.bHeartbeatFlag = false) :
      ControlStep control (.keepAlive .next)
        { control with keepAlive := .returned }
  | noSocket
      (nSocket : Int)
      (stage : control.keepAlive = .woken)
      (disconnected : control.nLinkStatus = .disconnect)
      (refused : nSocket ≤ 0) :
      ControlStep control (.keepAlive (.socket nSocket))
        { control with keepAlive := .loop, nSocket := nSocket }
  | socket
      (nSocket : Int)
      (stage : control.keepAlive = .woken)
      (disconnected : control.nLinkStatus = .disconnect)
      (positive : 0 < nSocket) :
      ControlStep control (.keepAlive (.socket nSocket))
        { control with keepAlive := .connecting, nSocket := nSocket }
  | refused
      (nRet : Int)
      (stage : control.keepAlive = .connecting) :
      ControlStep control (.keepAlive (.connect nRet))
        { control with keepAlive := .loop }
  | connected
      (nRet : Int)
      (stage : control.keepAlive = .connecting) :
      ControlStep control (.keepAlive (.connect nRet))
        { control with keepAlive := .starting, nLinkStatus := .connect }
  | created
      (nRet : Int)
      (stage : control.keepAlive = .starting) :
      ControlStep control (.keepAlive (.create nRet))
        { control with
          keepAlive := if nRet < 0 then .loop else .greeting
          bRecvFlag := true }
  | greets
      (now : Int)
      (nSent : Nat)
      (stage : control.keepAlive = .greeting) :
      ControlStep control (.keepAlive (.beat now nSent))
        { control with keepAlive := .loop }
  | beats
      (now : Int)
      (nSent : Nat)
      (stage : control.keepAlive = .woken)
      (connected : control.nLinkStatus = .connect) :
      ControlStep control (.keepAlive (.beat now nSent))
        { control with keepAlive := .loop }
  | timesOut
      (now : Int)
      (nSent : Nat)
      (stage : control.keepAlive = .woken)
      (connected : control.nLinkStatus = .connect) :
      ControlStep control (.keepAlive (.beat now nSent))
        { control with keepAlive := .dropping, nLinkStatus := .disconnect }
  | drops (stage : control.keepAlive = .dropping) :
      ControlStep control (.keepAlive .next)
        { control with
          keepAlive := .joining
          bRecvFlag := false
          closes := control.closes ++ [control.nSocket] }
  | joins (stage : control.keepAlive = .joining) :
      ControlStep control (.keepAlive .next) { control with keepAlive := .loop }
  | stopsHeartbeat
      (stage : control.socketUnit = .idle)
      (flag : control.bHeartbeatFlag = true) :
      ControlStep control .socketUnit
        { control with bHeartbeatFlag := false, socketUnit := .joiningHeartbeat }
  | noHeartbeat
      (stage : control.socketUnit = .idle)
      (flag : control.bHeartbeatFlag = false) :
      ControlStep control .socketUnit { control with socketUnit := .stopping }
  | joinsHeartbeat
      (stage : control.socketUnit = .joiningHeartbeat)
      (returned : control.keepAlive = .returned) :
      ControlStep control .socketUnit { control with socketUnit := .stopping }
  | stopsReceiver
      (stage : control.socketUnit = .stopping)
      (flag : control.bRecvFlag = true) :
      ControlStep control .socketUnit
        { control with bRecvFlag := false, socketUnit := .joiningReceiver }
  | noReceiver
      (stage : control.socketUnit = .stopping)
      (flag : control.bRecvFlag = false) :
      ControlStep control .socketUnit
        { control with
          socketUnit := .returned
          closes := control.closes ++ control.lastCloses }
  | joinsReceiver (stage : control.socketUnit = .joiningReceiver) :
      ControlStep control .socketUnit
        { control with
          socketUnit := .returned
          closes := control.closes ++ control.lastCloses }

/-! ## What is received closes nothing -/

/-- The events of a pass of the receive loop. -/
def EngineEvent.ofRecv : EngineEvent → Bool
  | .lock _ | .unlock _ | .memcpy _ _ _ | .read _ | .handleHB
  | .onTransPortEngineRecv _ _ => true
  | _ => false

theorem ofRecv_assembleCopies
    (capacity : Nat)
    (recvBufs : List BufInfo)
    (szRecvBuf : List UInt8) :
    (assembleCopies capacity recvBufs szRecvBuf).all EngineEvent.ofRecv := by
  apply List.all_eq_true.mpr
  apply forall_assembleCopies
  · rfl
  · rfl
  · intro capacity offset count
    rfl

namespace TcpClient

theorem ofRecv_recvBody
    (client : TcpClient)
    (szRecvBuf : List UInt8)
    (now : Int) :
    (client.recvBody szRecvBuf now).events.all EngineEvent.ofRecv := by
  unfold recvBody
  dsimp only
  split
  · rw [List.all_append, List.all_append, ofRecv_assembleCopies]
    split
    · rfl
    · split <;> rfl
  · split <;> rfl

theorem ofRecv_recvHead
    (client : TcpClient)
    (szRecvBuf : List UInt8)
    (now : Int) :
    (client.recvHead szRecvBuf now).events.all EngineEvent.ofRecv := by
  simp only [recvHead, apply_ite RecvfromPass.events]
  split
  · rw [List.all_append, List.all_append, ofRecv_assembleCopies]
    split <;> rfl
  · split <;> rfl

theorem ofRecv_recvfromPass (client : TcpClient) (turn : RecvfromTurn) :
    (client.recvfromPass turn).events.all EngineEvent.ofRecv := by
  have requested : ((if client.bIsHaveHead then recvBufLocked [] else []) ++
      [EngineEvent.read client.nSocket]).all EngineEvent.ofRecv := by
    split <;> rfl
  apply (List.all_append).trans
  rw [requested, Bool.true_and]
  cases turn.recv with
  | closed => rfl
  | failed => rfl
  | data szRecvBuf nonempty =>
      dsimp only [recvDataPass]
      split
      · split
        · exact client.ofRecv_recvBody szRecvBuf turn.now
        · exact client.ofRecv_recvHead szRecvBuf turn.now
      · rw [recvRaw]
        split <;> rfl

/-- A pass of the receive loop closes no socket. -/
theorem closedSockets_recvfromPass (client : TcpClient) (turn : RecvfromTurn) :
    closedSockets (client.recvfromPass turn).events = [] := by
  have ofRecv := List.all_eq_true.mp (client.ofRecv_recvfromPass turn)
  apply List.filterMap_eq_nil_iff.mpr
  intro event member
  have isOfRecv := ofRecv event member
  cases event with
  | close => contradiction
  | _ => rfl

theorem closedSockets_notify (client : TcpClient) (nMsgType : MsgType) :
    closedSockets (client.notify nMsgType) = [] := by
  unfold notify
  split <;> rfl

end TcpClient

/-! ## Each step -/

namespace Link

variable {link next : Link}

/-- The descriptors closed so far, when none is closed. -/
theorem closes_silent
    {written : List EngineEvent}
    (silent : closedSockets written = [])
    (events : List EngineEvent) :
    closedSockets (events ++ written) = closedSockets events := by
  rw [closedSockets_append, silent, List.append_nil]

theorem control_sendHeartbeat (link : Link) (nSent : Nat) :
    (link.sendHeartbeat nSent).control =
      { link.control with keepAlive := .loop } := by
  have silent : ∀ szData : List UInt8,
      closedSockets [.write link.client.nSocket szData] = [] := fun _ => rfl
  simp only [sendHeartbeat, control, closedSockets_append, silent,
    List.append_nil]

/-- The end of `TcpClient_SocketUnit`. -/
theorem control_closeSocket (link : Link) :
    link.closeSocket.control =
      { link.control with
        socketUnit := .returned
        closes := link.control.closes ++ link.control.lastCloses } := by
  simp only [closeSocket, control, closedSockets_append, Control.lastCloses]
  by_cases none : link.client.nSocket = 0
  · simp only [none, if_true]
    rfl
  · simp only [none, if_false]
    rfl

theorem controlStep_keepAlive
    {input : KeepAliveInput}
    (stepped : link.keepAliveStep input = some next) :
    ControlStep link.control (.keepAlive input) next.control := by
  cases keepAliveStep_cases stepped with
  | wakes stage flag => exact .wakes stage flag
  | returns stage flag => exact .returns stage flag
  | noSocket stage disconnected failed =>
      exact .noSocket _ stage disconnected failed
  | socket stage disconnected positive =>
      exact .socket _ stage disconnected positive
  | refused stage => exact .refused _ stage
  | connected stage =>
      simp only [control, closes_silent (link.client.closedSockets_notify .connect)]
      exact .connected 0 stage
  | creates stage =>
      unfold createRecvThread
      dsimp only
      split
      · exact .created _ stage
      · exact .created _ stage
  | greets stage =>
      rw [control_sendHeartbeat]
      exact .greets _ _ stage
  | timesOut stage connected =>
      simp only [control,
        closes_silent (link.client.closedSockets_notify .disconnect)]
      exact .timesOut _ _ stage connected
  | beats stage connected =>
      rw [control_sendHeartbeat]
      exact .beats _ _ stage connected
  | drops stage =>
      simp only [control, closedSockets_append]
      exact .drops stage
  | joins stage => exact .joins stage

theorem controlStep_socketUnit (stepped : link.socketUnitStep = some next) :
    ControlStep link.control .socketUnit next.control := by
  cases socketUnitStep_cases stepped with
  | stopsHeartbeat stage flag => exact .stopsHeartbeat stage flag
  | noHeartbeat stage flag => exact .noHeartbeat stage flag
  | joinsHeartbeat stage returned => exact .joinsHeartbeat stage returned
  | stopsReceiver stage flag => exact .stopsReceiver stage flag
  | noReceiver stage flag =>
      rw [control_closeSocket]
      exact .noReceiver stage flag
  | joinsReceiver stage =>
      rw [control_closeSocket]
      exact .joinsReceiver stage

/-- The receive thread leaves the members the other threads go by. -/
theorem control_recvStep
    {turn : RecvfromTurn}
    (stepped : link.recvStep turn = some next) :
    next.control = link.control := by
  obtain ⟨-, -, rfl⟩ := recvStep_eq_some stepped
  have members := link.client.linkMembers_recvfromPass turn
  simp only [TcpClient.linkMembers, Prod.mk.injEq] at members
  obtain ⟨nSocket, nLinkStatus, bRecvFlag, bHeartbeatFlag, -⟩ := members
  simp only [control, nSocket, nLinkStatus, bRecvFlag, bHeartbeatFlag,
    closes_silent (link.client.closedSockets_recvfromPass turn)]

/-- Every step of a client is a step of its control state. -/
theorem controlStep_linkStep
    {label : LinkLabel}
    (stepped : linkStep link label = some next) :
    ControlStep link.control label next.control := by
  cases label with
  | keepAlive input => exact controlStep_keepAlive stepped
  | look =>
      obtain ⟨-, rfl⟩ := lookStep_cases stepped
      exact .look
  | recv turn =>
      rw [control_recvStep stepped]
      exact .recv turn
  | socketUnit => exact controlStep_socketUnit stepped

end Link

/-! ## The start -/

/-- A client without threads, in no function. -/
def Control.idle (nSocket : Int) : Control where
  keepAlive := .returned
  socketUnit := .idle
  nLinkStatus := .disconnect
  bHeartbeatFlag := true
  bRecvFlag := true
  nSocket := nSocket
  closes := []

namespace Link

variable {arguments : ClientArguments}

theorem control_createClient_noReceiver
    (receives : arguments.hasTransPortEngineRecv = false)
    (garbage : ClientGarbage)
    (results : SocketInitResults) :
    (createClient garbage arguments results).control =
      { Control.idle garbage.nSocket with socketUnit := .returned } := by
  simp only [createClient, socketInit, receives, Bool.false_eq_true, if_false]
  rfl

theorem control_createClient_heartbeat
    (receives : arguments.hasTransPortEngineRecv = true)
    (heartbeats : arguments.bIsHaveHB = true)
    (garbage : ClientGarbage)
    (results : SocketInitResults) :
    (createClient garbage arguments results).control =
      if results.createHeartbeatThread < 0 then
        { Control.idle garbage.nSocket with socketUnit := .returned }
      else
        { Control.idle garbage.nSocket with
          keepAlive := if results.createHeartbeatThread = 0 then .loop
            else .returned } := by
  simp only [createClient, socketInit, receives, heartbeats, if_true,
    startHeartbeat]
  split <;> rfl

/-- `TcpClient_SocketInit` connects itself without heartbeats. -/
theorem control_createClient_connection
    (receives : arguments.hasTransPortEngineRecv = true)
    (heartbeats : arguments.bIsHaveHB = false)
    (garbage : ClientGarbage)
    (results : SocketInitResults) :
    (createClient garbage arguments results).control =
      if results.nSocket ≤ 0 then
        { Control.idle results.nSocket with socketUnit := .returned }
      else if results.connect ≠ 0 then
        { Control.idle results.nSocket with
          socketUnit := .returned
          closes := [results.nSocket] }
      else if results.createRecvThread < 0 then
        { Control.idle results.nSocket with
          nLinkStatus := .connect
          socketUnit := .returned
          closes := [results.nSocket] }
      else { Control.idle results.nSocket with nLinkStatus := .connect } := by
  simp only [createClient, socketInit, receives, heartbeats, if_true,
    startConnection, TcpClient.configure, TcpClient.construct,
    Bool.false_eq_true, if_false]
  by_cases opened : results.nSocket ≤ 0
  · simp only [opened, if_true]
    rfl
  · have close : results.nSocket ≠ 0 := by omega
    simp only [opened, close, if_false]
    split
    · rfl
    · split
      · rfl
      · split <;> rfl

end Link

/-! ## The order of the stages -/

/-- `TcpClient_SocketUnit` waits for the heartbeat thread before it goes on, and
the link status is that of the stage of the heartbeat thread. -/
structure Control.Ordered (control : Control) : Prop where
  flag : control.socketUnit = .idle → control.bHeartbeatFlag = true
  returned : control.socketUnit ≠ .idle → control.socketUnit ≠ .joiningHeartbeat →
    control.keepAlive = .returned
  disconnected : control.keepAlive = .connecting ∨ control.keepAlive = .dropping ∨
    control.keepAlive = .joining → control.nLinkStatus = .disconnect
  connected : control.keepAlive = .starting ∨ control.keepAlive = .greeting →
    control.nLinkStatus = .connect

namespace Control

variable {control next : Control}

/-- The heartbeat thread goes from one stage to another, and leaves
`TcpClient_SocketUnit` where it is. -/
theorem Ordered.of_keepAlive
    (ordered : control.Ordered)
    (running : control.keepAlive ≠ .returned)
    (sameStage : next.socketUnit = control.socketUnit)
    (sameFlag : next.bHeartbeatFlag = control.bHeartbeatFlag)
    (disconnected : next.keepAlive = .connecting ∨ next.keepAlive = .dropping ∨
      next.keepAlive = .joining → next.nLinkStatus = .disconnect)
    (connected : next.keepAlive = .starting ∨ next.keepAlive = .greeting →
      next.nLinkStatus = .connect) :
    next.Ordered where
  flag idle := sameFlag.trans (ordered.flag (sameStage ▸ idle))
  returned notIdle notJoining :=
    absurd (ordered.returned (sameStage ▸ notIdle) (sameStage ▸ notJoining))
      running
  disconnected := disconnected
  connected := connected

/-- `TcpClient_SocketUnit` goes on, and leaves the heartbeat thread where it
is. -/
theorem Ordered.of_socketUnit
    (ordered : control.Ordered)
    (notIdle : next.socketUnit ≠ .idle)
    (sameStage : next.keepAlive = control.keepAlive)
    (sameStatus : next.nLinkStatus = control.nLinkStatus)
    (returned : next.socketUnit ≠ .joiningHeartbeat →
      control.keepAlive = .returned) :
    next.Ordered where
  flag idle := absurd idle notIdle
  returned _ notJoining := sameStage.trans (returned notJoining)
  disconnected := by
    rw [sameStage, sameStatus]
    exact ordered.disconnected
  connected := by
    rw [sameStage, sameStatus]
    exact ordered.connected

theorem ordered_step
    {label : LinkLabel}
    (ordered : control.Ordered)
    (stepped : ControlStep control label next) :
    next.Ordered := by
  cases stepped with
  | look => exact ordered
  | recv turn => exact ordered
  | wakes stage goesOn =>
      exact ordered.of_keepAlive (by simp [stage]) rfl rfl (by simp) (by simp)
  | returns stage stopped =>
      exact ordered.of_keepAlive (by simp [stage]) rfl rfl (by simp) (by simp)
  | noSocket nSocket stage disconnected refused =>
      exact ordered.of_keepAlive (by simp [stage]) rfl rfl (by simp) (by simp)
  | socket nSocket stage disconnected positive =>
      exact ordered.of_keepAlive (by simp [stage]) rfl rfl
        (fun _ => disconnected) (by simp)
  | refused nRet stage =>
      exact ordered.of_keepAlive (by simp [stage]) rfl rfl (by simp) (by simp)
  | connected nRet stage =>
      exact ordered.of_keepAlive (by simp [stage]) rfl rfl (by simp)
        (fun _ => rfl)
  | created nRet stage =>
      refine ordered.of_keepAlive (by simp [stage]) rfl rfl ?_
        (fun _ => ordered.connected (Or.inl stage))
      dsimp only
      split <;> simp
  | greets now nSent stage =>
      exact ordered.of_keepAlive (by simp [stage]) rfl rfl (by simp) (by simp)
  | beats now nSent stage connected =>
      exact ordered.of_keepAlive (by simp [stage]) rfl rfl (by simp) (by simp)
  | timesOut now nSent stage connected =>
      exact ordered.of_keepAlive (by simp [stage]) rfl rfl (fun _ => rfl)
        (by simp)
  | drops stage =>
      exact ordered.of_keepAlive (by simp [stage]) rfl rfl
        (fun _ => ordered.disconnected (Or.inr (Or.inl stage))) (by simp)
  | joins stage =>
      exact ordered.of_keepAlive (by simp [stage]) rfl rfl (by simp) (by simp)
  | stopsHeartbeat stage flag =>
      exact ordered.of_socketUnit (by simp) rfl rfl (by simp)
  | noHeartbeat stage flag =>
      exact absurd ((ordered.flag stage).symm.trans flag) (by decide)
  | joinsHeartbeat stage returned =>
      exact ordered.of_socketUnit (by simp) rfl rfl (fun _ => returned)
  | stopsReceiver stage flag =>
      exact ordered.of_socketUnit (by simp) rfl rfl
        (fun _ => ordered.returned (by simp [stage]) (by simp [stage]))
  | noReceiver stage flag =>
      exact ordered.of_socketUnit (by simp) rfl rfl
        (fun _ => ordered.returned (by simp [stage]) (by simp [stage]))
  | joinsReceiver stage =>
      exact ordered.of_socketUnit (by simp) rfl rfl
        (fun _ => ordered.returned (by simp [stage]) (by simp [stage]))

end Control

namespace Link

/-- `TransPortEngine_CreateClient` leaves a client whose stages are in order. -/
theorem ordered_createClient
    (garbage : ClientGarbage)
    (arguments : ClientArguments)
    (results : SocketInitResults) :
    (createClient garbage arguments results).control.Ordered := by
  have returned : ∀ {control : Control}, control.keepAlive = .returned →
      control.bHeartbeatFlag = true → control.Ordered := by
    intro control stage flag
    exact ⟨fun _ => flag, fun _ _ => stage, by simp [stage], by simp [stage]⟩
  cases receives : arguments.hasTransPortEngineRecv with
  | false =>
      rw [control_createClient_noReceiver receives]
      exact returned rfl rfl
  | true =>
      cases heartbeats : arguments.bIsHaveHB with
      | true =>
          rw [control_createClient_heartbeat receives heartbeats]
          split
          · exact returned rfl rfl
          · split
            · exact ⟨fun _ => rfl, fun notIdle => absurd rfl notIdle, by simp,
                by simp⟩
            · exact returned rfl rfl
      | false =>
          rw [control_createClient_connection receives heartbeats]
          split
          · exact returned rfl rfl
          · split
            · exact returned rfl rfl
            · split
              · exact returned rfl rfl
              · exact returned rfl rfl

/-- A client with a receiver has no receive thread before the heartbeat thread
connects. -/
theorem createClient_alone
    {arguments : ClientArguments}
    (receives : arguments.hasTransPortEngineRecv = true)
    (garbage : ClientGarbage)
    (results : SocketInitResults) :
    (createClient garbage arguments results).client.hasTransPortEngineRecv = true ∧
      (createClient garbage arguments results).OneReceiver := by
  have init : ∀ link : Link, link = (socketInit garbage arguments results).1 →
      link.client.hasTransPortEngineRecv = true ∧ link.OneReceiver := by
    rintro link rfl
    simp only [socketInit, receives, if_true]
    split
    · unfold startHeartbeat
      split
      · exact ⟨rfl, trivial⟩
      · refine ⟨rfl, ?_⟩
        unfold OneReceiver
        dsimp only
        split
        · exact fun _ => rfl
        · trivial
    · simp only [startConnection, TcpClient.configure, TcpClient.construct, if_true]
      repeat' split
      all_goals exact ⟨rfl, trivial⟩
  have started := init _ rfl
  unfold createClient
  dsimp only
  split
  · exact started
  · exact started

end Link

end TransPortEngine
