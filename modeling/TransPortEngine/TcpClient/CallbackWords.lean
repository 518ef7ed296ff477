import TransPortEngine.Library.SessionWords
import TransPortEngine.TcpClient.Calls

/-!
# The callbacks of a client

The notifications of a client follow its link status: the heartbeat thread
announces what it has stored there. The callbacks of a deleted client are a word of
sessions exactly when the receive thread has handed on nothing once `DISCONNECT`
was announced, and the client was not deleted while the status was `CONNECT`.
Without heartbeats nothing ever stores `DISCONNECT`.
-/

namespace TransPortEngine

open SessionWords Transition

/-- What a callback means for the session of a client. -/
def EngineEvent.token : EngineEvent → Option Token
  | .onTransPortEngineNotify _ .connect => some .opens
  | .onTransPortEngineNotify _ .disconnect => some .closes
  | .onTransPortEngineRecv _ _ => some .item
  | _ => none

/-- The callbacks among events, in order. -/
def callbacks (events : List EngineEvent) : List Token :=
  events.filterMap EngineEvent.token

@[simp] theorem callbacks_append (first second : List EngineEvent) :
    callbacks (first ++ second) = callbacks first ++ callbacks second :=
  List.filterMap_append

theorem callbacks_assembleCopies
    (capacity : Nat)
    (recvBufs : List BufInfo)
    (szRecvBuf : List UInt8) :
    callbacks (assembleCopies capacity recvBufs szRecvBuf) = [] := by
  apply List.filterMap_eq_nil_iff.mpr
  apply forall_assembleCopies
  · rfl
  · rfl
  · intro capacity offset count
    rfl

namespace TcpClient

/-- What `recv` returns is handed to the application: it comes without framing,
or completes the body of a data frame. -/
def HandsOn (client : TcpClient) (turn : RecvfromTurn) : Prop :=
  turn.bytes ≠ [] ∧ (client.bIsHaveHead = true →
    client.bIsRecvHead = true ∧ client.nMsgType = 1 ∧
      (turn.bytes.length : Int) = client.missingBody)

instance (client : TcpClient) (turn : RecvfromTurn) :
    Decidable (client.HandsOn turn) :=
  inferInstanceAs (Decidable (_ ∧ (_ → _)))

theorem callbacks_recvBody
    {client : TcpClient}
    (receives : client.hasTransPortEngineRecv = true)
    (szRecvBuf : List UInt8)
    (now : Int) :
    callbacks (client.recvBody szRecvBuf now).events =
      if client.nMsgType = 1 ∧ (szRecvBuf.length : Int) = client.missingBody
      then [.item] else [] := by
  unfold recvBody
  dsimp only
  by_cases full : (szRecvBuf.length : Int) = client.missingBody
  · rw [if_pos full, callbacks_append, callbacks_append,
      callbacks_assembleCopies]
    by_cases heartbeat : client.nMsgType = 0
    · rw [if_pos heartbeat, if_neg (by omega)]
      rfl
    · rw [if_neg heartbeat]
      by_cases data : client.nMsgType = 1
      · rw [if_pos ⟨data, receives⟩, if_pos ⟨data, full⟩]
        rfl
      · rw [if_neg fun both => data both.1, if_neg fun both => data both.1]
        rfl
  · have silent : ¬(client.nMsgType = 1 ∧
        (szRecvBuf.length : Int) = client.missingBody) := fun both => full both.2
    rw [if_neg full, if_neg silent]
    split <;> rfl

theorem callbacks_recvHead
    (client : TcpClient)
    (szRecvBuf : List UInt8)
    (now : Int) :
    callbacks (client.recvHead szRecvBuf now).events = [] := by
  simp only [recvHead, apply_ite RecvfromPass.events, apply_ite callbacks,
    callbacks_append, callbacks_assembleCopies]
  split
  · split <;> rfl
  · split <;> rfl

/-- A pass of the receive loop calls the application once, or not at all. -/
theorem callbacks_recvfromPass
    {client : TcpClient}
    (receives : client.hasTransPortEngineRecv = true)
    (turn : RecvfromTurn) :
    callbacks (client.recvfromPass turn).events =
      if client.HandsOn turn then [.item] else [] := by
  have requested : callbacks
      ((if client.bIsHaveHead then recvBufLocked [] else []) ++
        [EngineEvent.read client.nSocket]) = [] := by
    split <;> rfl
  obtain ⟨recv, now⟩ := turn
  cases recv with
  | closed =>
      rw [if_neg fun handsOn => handsOn.1 rfl]
      exact (callbacks_append _ _).trans (by rw [requested]; rfl)
  | failed =>
      rw [if_neg fun handsOn => handsOn.1 rfl]
      exact (callbacks_append _ _).trans (by rw [requested]; rfl)
  | data szRecvBuf nonempty =>
      apply (callbacks_append _ _).trans
      rw [requested, List.nil_append]
      have some : szRecvBuf ≠ [] := List.ne_nil_of_length_pos nonempty
      unfold HandsOn
      dsimp only [recvDataPass, RecvfromTurn.bytes]
      by_cases framed : client.bIsHaveHead = true
      · rw [if_pos framed]
        by_cases hasHead : client.bIsRecvHead = true
        · rw [if_pos hasHead, callbacks_recvBody receives]
          simp only [some, framed, hasHead, ne_eq, not_false_eq_true, true_and,
            true_implies]
        · rw [if_neg hasHead, callbacks_recvHead]
          simp only [framed, hasHead, Bool.false_eq_true, true_implies, false_and,
            and_false, if_false]
      · rw [if_neg framed, recvRaw, if_pos receives]
        simp only [some, framed, ne_eq, not_false_eq_true, Bool.false_eq_true,
          false_implies, and_true, if_true]
        rfl

end TcpClient

namespace ClientCalls

variable {calls next : ClientCalls}

/-- The link status, as the application knows it: a status that has been stored and
not been announced yet is not it. -/
def announced (calls : ClientCalls) : Bool :=
  decide (calls.link.client.nLinkStatus = .connect) != calls.notice.isSome

theorem announced_congr
    (status : next.link.client.nLinkStatus = calls.link.client.nLinkStatus)
    (notice : next.notice = calls.notice) :
    next.announced = calls.announced := by
  simp only [announced, status, notice]

/-- A step hands data to the application while the link status is `DISCONNECT`, and
the heartbeat thread is not on its way to announce that. -/
def HandsOnLate (calls : ClientCalls) : CallLabel → Prop
  | .handle => calls.link.client.nLinkStatus = .disconnect ∧ calls.notice = none ∧
      ∃ turn, calls.received = some turn ∧ calls.link.client.HandsOn turn
  | _ => False

/-- What a step has written, and how the monitor reads it. -/
def Follows (calls next : ClientCalls) : Prop :=
  ∃ written, callbacks next.link.events = callbacks calls.link.events ++ written ∧
    run watch calls.announced written = some next.announced

/-- A step that writes no callback and leaves what has been announced. -/
theorem follows_silent
    {written : List EngineEvent}
    (events : next.link.events = calls.link.events ++ written)
    (silent : callbacks written = [])
    (same : next.announced = calls.announced) :
    calls.Follows next := by
  refine ⟨[], ?_, congrArg some same.symm⟩
  rw [events, callbacks_append, silent]

/-- The heartbeat thread stores a status, and leaves it to its notification. -/
theorem follows_keepAliveStep
    {input : KeepAliveInput}
    (placed : calls.Placed)
    (stepped : calls.keepAliveStep input = some next) :
    calls.Follows next := by
  obtain ⟨noNotice, link, linkStepped, rfl⟩ := keepAliveStep_cases stepped
  have announced : calls.announced =
      decide (calls.link.client.nLinkStatus = .connect) := by
    rw [ClientCalls.announced, noNotice]
    exact Bool.xor_false _
  cases Link.keepAliveStep_cases linkStepped with
  | connected stage =>
      have disconnected : calls.link.client.nLinkStatus = .disconnect :=
        placed.ordered.disconnected (Or.inl stage)
      refine follows_silent (List.append_nil _).symm rfl (Eq.trans ?_ announced.symm)
      rw [disconnected]
      rfl
  | timesOut stage isConnected =>
      refine follows_silent (List.append_nil _).symm rfl (Eq.trans ?_ announced.symm)
      rw [isConnected]
      rfl
  | creates =>
      rename_i nRet stage
      have created : (calls.link.createRecvThread nRet).events = calls.link.events ∧
          (calls.link.createRecvThread nRet).client.nLinkStatus =
            calls.link.client.nLinkStatus := by
        unfold Link.createRecvThread
        dsimp only
        split
        · exact ⟨rfl, rfl⟩
        · exact ⟨rfl, rfl⟩
      rw [notice_createRecvThread]
      refine follows_silent (created.1.trans (List.append_nil _).symm) rfl
        (Eq.trans ?_ announced.symm)
      rw [ClientCalls.announced]
      dsimp only
      rw [created.2]
      exact Bool.xor_false _
  | greets | beats | drops =>
      exact follows_silent rfl rfl ((Bool.xor_false _).trans announced.symm)
  | wakes | returns | noSocket | socket | refused | joins =>
      exact follows_silent (List.append_nil _).symm rfl
        ((Bool.xor_false _).trans announced.symm)

/-- The notification tells the application what has been stored. -/
theorem follows_notifyStep
    (placed : calls.Placed)
    (stepped : calls.notifyStep = some next) :
    calls.Follows next := by
  obtain ⟨nMsgType, pending, rfl⟩ := notifyStep_cases stepped
  have status := placed.nLinkStatus pending
  refine ⟨callbacks (calls.link.client.notify nMsgType), callbacks_append _ _, ?_⟩
  rw [TcpClient.notify, if_pos placed.receives, announced, announced, status, pending]
  cases nMsgType with
  | connect => rfl
  | disconnect => rfl

theorem follows_socketUnitStep
    {link : Link}
    (stepped : calls.link.socketUnitStep = some link) :
    calls.Follows { calls with link := link } := by
  have same : ClientCalls.announced { calls with link := link } =
      calls.announced :=
    announced_congr (Link.socketUnitStep_frame stepped).2.1 rfl
  have closes : callbacks (if calls.link.client.nSocket = 0 then []
      else [.close calls.link.client.nSocket]) = [] := by
    split <;> rfl
  cases Link.socketUnitStep_cases stepped with
  | stopsHeartbeat | noHeartbeat | joinsHeartbeat | stopsReceiver =>
      exact follows_silent (List.append_nil _).symm rfl same
  | noReceiver | joinsReceiver => exact follows_silent rfl closes same

/-- The monitor follows every step but a late delivery. -/
theorem monitored_step
    {label : CallLabel}
    (placed : calls.Placed)
    (stepped : calls.step label = some next) :
    ∃ written,
      callbacks next.link.events = callbacks calls.link.events ++ written ∧
      (¬calls.HandsOnLate label →
        run watch calls.announced written = some next.announced) ∧
      (¬¬calls.HandsOnLate label → run watch calls.announced written = none) := by
  have onTime : calls.Follows next → ¬calls.HandsOnLate label →
      ∃ written,
        callbacks next.link.events = callbacks calls.link.events ++ written ∧
        (¬calls.HandsOnLate label →
          run watch calls.announced written = some next.announced) ∧
        (¬¬calls.HandsOnLate label →
          run watch calls.announced written = none) := by
    rintro ⟨written, events, read⟩ punctual
    exact ⟨written, events, fun _ => read, fun late => absurd punctual late⟩
  cases label with
  | keepAlive input => exact onTime (follows_keepAliveStep placed stepped) id
  | notify => exact onTime (follows_notifyStep placed stepped) id
  | look =>
      obtain ⟨link, looked, rfl⟩ := Option.map_eq_some_iff.mp stepped
      obtain ⟨-, rfl⟩ := Link.lookStep_cases looked
      exact onTime (follows_silent (List.append_nil _).symm rfl rfl) id
  | recv turn =>
      obtain ⟨-, -, -, rfl⟩ := recvStep_cases stepped
      exact onTime (follows_silent (List.append_nil _).symm rfl rfl) id
  | socketUnit =>
      obtain ⟨link, goesOn, rfl⟩ := Option.map_eq_some_iff.mp stepped
      exact onTime (follows_socketUnitStep goesOn) id
  | handle =>
      obtain ⟨turn, isReceived, rfl⟩ := handleStep_cases stepped
      have read := TcpClient.callbacks_recvfromPass placed.receives turn
      have same : ClientCalls.announced
          { calls with link := calls.link.handleTurn turn, received := none } =
            calls.announced :=
        announced_congr (TcpClient.nLinkStatus_recvfromPass _ turn) rfl
      refine ⟨callbacks (calls.link.client.recvfromPass turn).events,
        callbacks_append _ _, ?_, ?_⟩
      · intro punctual
        rw [read, same]
        split
        · rename_i handsOn
          have isConnected : calls.announced = true := by
            cases status : calls.link.client.nLinkStatus with
            | connect =>
                cases pending : calls.notice with
                | none =>
                    rw [announced, status, pending]
                    rfl
                | some nMsgType =>
                    -- a connection is announced before its receive thread is created
                    have isConnect := status.symm.trans (placed.nLinkStatus pending)
                    have stage := placed.notice (by simp [pending])
                    rw [pending, ← isConnect] at stage
                    exact absurd (KeepAliveStage.starting_of_notice stage.symm)
                      (placed.not_starting isReceived)
            | disconnect =>
                cases pending : calls.notice with
                | none =>
                    have late : calls.HandsOnLate .handle :=
                      ⟨status, pending, turn, isReceived, handsOn⟩
                    exact absurd late punctual
                | some nMsgType =>
                    rw [announced, status, pending]
                    rfl
          rw [isConnected]
          rfl
        · rfl
      · intro late
        obtain ⟨status, pending, other, isOther, handsOn⟩ := not_not.mp late
        obtain rfl := Option.some.inj (isReceived.symm.trans isOther)
        rw [read, if_pos handsOn, announced, status, pending]
        rfl

/-! ## Whole lives -/

/-- `TransPortEngine_CreateClient` announces what it stores as the status. -/
theorem followed_start
    {arguments : ClientArguments}
    (receives : arguments.hasTransPortEngineRecv = true)
    (garbage : ClientGarbage)
    (results : SocketInitResults) :
    run watch false (callbacks (start garbage arguments results).link.events) =
      some (start garbage arguments results).announced := by
  have init : ∀ link : Link, link = (Link.socketInit garbage arguments results).1 →
      run watch false (callbacks link.events) =
        some (decide (link.client.nLinkStatus = .connect)) := by
    rintro link rfl
    simp only [Link.socketInit, receives, if_true]
    split
    · unfold Link.startHeartbeat
      split
      · rfl
      · rfl
    · simp only [Link.startConnection, TcpClient.configure, TcpClient.construct,
        if_true]
      split
      · rfl
      · rename_i opened
        have close : results.nSocket ≠ 0 := by omega
        simp only [if_neg close]
        split
        · rfl
        · split
          · rfl
          · split
            · rfl
            · rfl
  have read := init _ rfl
  have announced : (start garbage arguments results).announced =
      decide ((start garbage arguments results).link.client.nLinkStatus =
        .connect) := Bool.xor_false _
  rw [announced]
  unfold start Link.createClient
  dsimp only
  split
  · exact read
  · exact read

/-- Nothing happens to a client without a receiver for callbacks. -/
theorem run_start_noReceiver
    {garbage : ClientGarbage}
    {arguments : ClientArguments}
    {results : SocketInitResults}
    (receives : arguments.hasTransPortEngineRecv = false)
    {labels : List CallLabel}
    {last : ClientCalls}
    (reached : run step (start garbage arguments results) labels = some last) :
    labels = [] ∧ last.link.events = [] ∧
      last.link.client.nLinkStatus = .disconnect := by
  have isStart : start garbage arguments results =
      ⟨{ Link.idle (TcpClient.construct garbage) with socketUnit := .returned },
        none, none⟩ := by
    simp [start, Link.createClient, Link.socketInit, receives]
  rw [isStart] at reached
  cases labels with
  | nil =>
      obtain rfl := Option.some.inj reached
      exact ⟨rfl, rfl, rfl⟩
  | cons label labels =>
      obtain ⟨next, stepped, -⟩ := run_cons reached
      cases label with
      | keepAlive | notify | look | recv | handle | socketUnit => contradiction

/-- Once the client is deleted, its callbacks have been a word of sessions. -/
def KeepsCallbackProtocol (calls : ClientCalls) : Prop :=
  calls.link.Destroyed → Sessions (callbacks calls.link.events)

/-- The callbacks of a deleted client are a word of sessions if and only if it
was deleted in status `DISCONNECT`, and the receive thread has handed on nothing
in that status, once it was announced. -/
theorem keepsCallbackProtocol_iff
    (garbage : ClientGarbage)
    (arguments : ClientArguments)
    (results : SocketInitResults)
    (labels : List CallLabel)
    {last : ClientCalls}
    (reached : run step (start garbage arguments results) labels = some last) :
    last.KeepsCallbackProtocol ↔
      (last.link.Destroyed →
        Throughout step (fun calls label => ¬calls.HandsOnLate label)
            (start garbage arguments results) labels ∧
          last.link.client.nLinkStatus = .disconnect) := by
  refine forall_congr' fun destroyed => ?_
  cases receives : arguments.hasTransPortEngineRecv with
  | false =>
      obtain ⟨rfl, events, status⟩ := run_start_noReceiver receives reached
      rw [events]
      exact ⟨fun _ => ⟨trivial, status⟩, fun _ => .nil⟩
  | true =>
      have placed := holds_of_run (fun _ _ _ placed stepped =>
        placed_step placed stepped) (placed_start receives garbage results) reached
      -- the heartbeat thread has returned before the client is deleted
      have returned : last.link.keepAlive = .returned := by
        have isReturned : last.link.socketUnit = .returned := destroyed
        exact placed.ordered.returned (by simp [Link.control, isReturned])
          (by simp [Link.control, isReturned])
      have noNotice : last.notice = none := by
        by_contra pending
        have isNotice := placed.notice pending
        rw [returned] at isNotice
        exact pending isNotice
      have status : last.announced = false ↔
          last.link.client.nLinkStatus = .disconnect := by
        rw [announced, noNotice]
        cases last.link.client.nLinkStatus with
        | connect => decide
        | disconnect => decide
      rw [sessions_iff, ← status]
      exact monitor_iff (fun calls => callbacks calls.link.events)
        (fun _ _ _ placed stepped => placed_step placed stepped)
        (fun _ _ _ placed stepped => monitored_step placed stepped)
        (placed_start receives garbage results)
        (followed_start receives garbage results) reached

/-- A framed or unframed client in heartbeat mode that receives a byte, times
out and is deleted. -/
def timeoutLabels : List CallLabel :=
  [.keepAlive .next, .keepAlive (.socket 7), .keepAlive (.connect 0), .notify,
    .keepAlive (.create 0), .keepAlive (.beat 0 8), .look,
    .recv ⟨.data [1] (by decide), 0⟩, .handle, .keepAlive .next,
    .keepAlive (.beat 20 8), .notify, .keepAlive .next, .look, .keepAlive .next,
    .socketUnit, .keepAlive .next, .socketUnit, .socketUnit]

theorem keepsCallbackProtocol_timeout :
    ∃ last, run step (start ⟨0, 0, 0⟩ ⟨true, false, true, 5⟩ ⟨0, 0, 0, 0⟩)
        timeoutLabels = some last ∧ last.link.Destroyed ∧
      (last.KeepsCallbackProtocol ↔
        (last.link.Destroyed →
          Throughout step (fun calls label => ¬calls.HandsOnLate label)
              (start ⟨0, 0, 0⟩ ⟨true, false, true, 5⟩ ⟨0, 0, 0, 0⟩)
              timeoutLabels ∧
            last.link.client.nLinkStatus = .disconnect)) :=
  ⟨_, rfl, rfl, keepsCallbackProtocol_iff _ _ _ _ rfl⟩

/-- A client in heartbeat mode that connects and is deleted: nobody announces the
end of its connection. -/
theorem not_keepsCallbackProtocol_destroyed :
    ¬∀ (garbage : ClientGarbage) (arguments : ClientArguments)
        (results : SocketInitResults) (labels : List CallLabel) (last : ClientCalls),
      run step (start garbage arguments results) labels = some last →
        last.KeepsCallbackProtocol := by
  intro always
  have protocol := always ⟨0, 0, 0⟩ ⟨true, false, true, 5⟩ ⟨0, 0, 0, 0⟩
    [.keepAlive .next, .keepAlive (.socket 7), .keepAlive (.connect 0), .notify,
      .keepAlive (.create 0), .keepAlive (.beat 0 8), .socketUnit, .keepAlive .next,
      .socketUnit, .socketUnit, .look, .socketUnit] _ rfl
  have sessions := (sessions_iff _).mp (protocol rfl)
  exact absurd sessions (by decide)

/-! ## Without heartbeats -/

/-- Without a heartbeat thread the status stays. -/
theorem without_heartbeatThread
    {label : CallLabel}
    (stage : calls.link.keepAlive = .returned)
    (status : calls.link.client.nLinkStatus = .connect)
    (stepped : calls.step label = some next) :
    next.link.keepAlive = .returned ∧ next.link.client.nLinkStatus = .connect := by
  cases label with
  | keepAlive input =>
      obtain ⟨-, link, linkStepped, -⟩ := keepAliveStep_cases stepped
      have stuck : calls.link.keepAliveStep input = none := by
        simp [Link.keepAliveStep, stage]
      exact absurd (stuck.symm.trans linkStepped) (Option.some_ne_none link).symm
  | notify =>
      obtain ⟨nMsgType, -, rfl⟩ := notifyStep_cases stepped
      exact ⟨stage, status⟩
  | look =>
      obtain ⟨link, looked, rfl⟩ := Option.map_eq_some_iff.mp stepped
      obtain ⟨-, rfl⟩ := Link.lookStep_cases looked
      exact ⟨stage, status⟩
  | recv turn =>
      obtain ⟨-, -, -, rfl⟩ := recvStep_cases stepped
      exact ⟨stage, status⟩
  | handle =>
      obtain ⟨turn, -, rfl⟩ := handleStep_cases stepped
      exact ⟨stage, (TcpClient.nLinkStatus_recvfromPass _ turn).trans status⟩
  | socketUnit =>
      obtain ⟨link, goesOn, rfl⟩ := Option.map_eq_some_iff.mp stepped
      obtain ⟨-, statusEq, stageEq, -⟩ := Link.socketUnitStep_frame goesOn
      exact ⟨stageEq.trans stage, statusEq.trans status⟩

/-- Nothing stores `DISCONNECT` when there is no heartbeat thread. -/
theorem nLinkStatus_withoutHeartbeats
    {garbage : ClientGarbage}
    {arguments : ClientArguments}
    {results : SocketInitResults}
    (receives : arguments.hasTransPortEngineRecv = true)
    (noHeartbeats : arguments.bIsHaveHB = false)
    (succeeds : 0 ≤ (Link.socketInit garbage arguments results).2)
    {labels : List CallLabel}
    {last : ClientCalls}
    (reached : run step (start garbage arguments results) labels = some last) :
    last.link.client.nLinkStatus = .connect := by
  have connected : (start garbage arguments results).link.keepAlive = .returned ∧
      (start garbage arguments results).link.client.nLinkStatus = .connect := by
    rw [start, Link.createClient, if_neg (by omega)]
    revert succeeds
    simp only [Link.socketInit, receives, noHeartbeats, Link.startConnection,
      TcpClient.configure, TcpClient.construct, Bool.false_eq_true, if_true,
      if_false]
    split
    · intro impossible
      exact absurd (show (0 : Int) ≤ -2 from impossible) (by decide)
    · split
      · intro impossible
        exact absurd (show (0 : Int) ≤ -3 from impossible) (by decide)
      · split
        · intro impossible
          exact absurd (show (0 : Int) ≤ -4 from impossible) (by decide)
        · split
          · exact fun _ => ⟨rfl, rfl⟩
          · exact fun _ => ⟨rfl, rfl⟩
  exact (holds_of_run (fun _ _ _ both stepped =>
    without_heartbeatThread both.1 both.2 stepped) connected reached).2

end ClientCalls

end TransPortEngine
