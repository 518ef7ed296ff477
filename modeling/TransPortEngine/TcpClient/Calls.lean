import TransPortEngine.TcpClient.Control

/-!
# The calls of a client

No lock joins what a thread of the client does and the call into the application
that follows. The heartbeat thread stores the link status, and then calls
`OnTransPortEngineNotify`; `recv` returns, and then the receive thread handles
what it has got and calls `OnTransPortEngineRecv`. Other threads take steps in
between.
-/

namespace TransPortEngine

open Transition

/-- The notification the heartbeat thread makes on its way to a stage. -/
def KeepAliveStage.notice : KeepAliveStage → Option MsgType
  | .starting => some .connect
  | .dropping => some .disconnect
  | _ => none

/-- Only a new connection is announced on the way to the receive thread. -/
theorem KeepAliveStage.starting_of_notice
    {stage : KeepAliveStage}
    (connects : stage.notice = some .connect) :
    stage = .starting := by
  cases stage with
  | starting => rfl
  | loop | woken | connecting | greeting | dropping | joining | returned =>
      contradiction

/-- A client, the notification its heartbeat thread has still to make, and what
`recv` has returned to its receive thread. -/
structure ClientCalls where
  link : Link
  notice : Option MsgType
  received : Option RecvfromTurn

/-- A step of one of the threads. -/
inductive CallLabel
  | keepAlive (input : KeepAliveInput)
  | notify
  | look
  | recv (turn : RecvfromTurn)
  | handle
  | socketUnit

/-- The receive thread handles what `recv` has returned. -/
def Link.handleTurn (link : Link) (turn : RecvfromTurn) : Link :=
  let pass := link.client.recvfromPass turn
  { link with
    client := pass.client
    receiver := if pass.leaves then .returned else .loop
    events := link.events ++ pass.events
    connections := record turn (deliveries pass.events) link.connections }

namespace ClientCalls

/-- `TransPortEngine_CreateClient`. -/
def start
    (garbage : ClientGarbage)
    (arguments : ClientArguments)
    (results : SocketInitResults) : ClientCalls :=
  ⟨Link.createClient garbage arguments results, none, none⟩

/-- `TcpClient_KeepSessionAlive`, without the notification a step ends with. -/
def keepAliveStep
    (calls : ClientCalls)
    (input : KeepAliveInput) : Option ClientCalls :=
  if calls.notice.isSome then none
  else
    (calls.link.keepAliveStep input).map fun next =>
      { calls with
        link := { next with
          events := if next.keepAlive.notice.isSome then calls.link.events
            else next.events }
        notice := next.keepAlive.notice }

/-- `OnTransPortEngineNotify`. -/
def notifyStep (calls : ClientCalls) : Option ClientCalls :=
  calls.notice.map fun nMsgType =>
    { calls with
      link := { calls.link with
        events := calls.link.events ++ calls.link.client.notify nMsgType }
      notice := none }

/-- `recv` returns. -/
def recvStep (calls : ClientCalls) (turn : RecvfromTurn) : Option ClientCalls :=
  if calls.link.receiver = .receiving ∧ calls.received.isNone ∧
      turn.bytes.length ≤ calls.link.client.recvRequest then
    some { calls with received := some turn }
  else none

/-- The receive thread handles the result, and calls the application. -/
def handleStep (calls : ClientCalls) : Option ClientCalls :=
  calls.received.map fun turn =>
    { calls with link := calls.link.handleTurn turn, received := none }

/-- One step of one thread. -/
def step (calls : ClientCalls) : CallLabel → Option ClientCalls
  | .keepAlive input => calls.keepAliveStep input
  | .notify => calls.notifyStep
  | .look => calls.link.lookStep.map fun link => { calls with link := link }
  | .recv turn => calls.recvStep turn
  | .handle => calls.handleStep
  | .socketUnit =>
      calls.link.socketUnitStep.map fun link => { calls with link := link }

variable {calls next : ClientCalls}

/-! ## Each step -/

/-- What the heartbeat thread does up to a notification. -/
theorem keepAliveStep_cases
    {input : KeepAliveInput}
    (stepped : calls.keepAliveStep input = some next) :
    calls.notice = none ∧ ∃ link, calls.link.keepAliveStep input = some link ∧
      next = { calls with
        link := { link with
          events := if link.keepAlive.notice.isSome then calls.link.events
            else link.events }
        notice := link.keepAlive.notice } := by
  unfold keepAliveStep at stepped
  split at stepped
  · contradiction
  · rename_i silent
    obtain ⟨link, linkStepped, isNext⟩ := Option.map_eq_some_iff.mp stepped
    exact ⟨Option.not_isSome_iff_eq_none.mp silent, link, linkStepped, isNext.symm⟩

theorem notifyStep_cases (stepped : calls.notifyStep = some next) :
    ∃ nMsgType, calls.notice = some nMsgType ∧
      next = { calls with
        link := { calls.link with
          events := calls.link.events ++ calls.link.client.notify nMsgType }
        notice := none } := by
  obtain ⟨nMsgType, pending, isNext⟩ := Option.map_eq_some_iff.mp stepped
  exact ⟨nMsgType, pending, isNext.symm⟩

theorem recvStep_cases
    {turn : RecvfromTurn}
    (stepped : calls.recvStep turn = some next) :
    calls.link.receiver = .receiving ∧ calls.received = none ∧
      turn.bytes.length ≤ calls.link.client.recvRequest ∧
        next = { calls with received := some turn } := by
  unfold recvStep at stepped
  split at stepped
  · rename_i granted
    exact ⟨granted.1, Option.isNone_iff_eq_none.mp granted.2.1, granted.2.2,
      (Option.some.inj stepped).symm⟩
  · contradiction

theorem handleStep_cases (stepped : calls.handleStep = some next) :
    ∃ turn, calls.received = some turn ∧
      next = { calls with link := calls.link.handleTurn turn, received := none } := by
  obtain ⟨turn, isReceived, isNext⟩ := Option.map_eq_some_iff.mp stepped
  exact ⟨turn, isReceived, isNext.symm⟩

/-- No notification follows the creation of a receive thread. -/
theorem notice_createRecvThread (link : Link) (nRet : Int) :
    (link.createRecvThread nRet).keepAlive.notice = none := by
  have stage : (link.createRecvThread nRet).keepAlive = .loop ∨
      (link.createRecvThread nRet).keepAlive = .greeting := by
    unfold Link.createRecvThread
    dsimp only
    by_cases failed : nRet < 0
    · rw [if_neg (by omega), if_pos failed]
      exact Or.inl rfl
    · rw [if_neg failed]
      split
      · exact Or.inr rfl
      · exact Or.inr rfl
  rcases stage with loop | greeting
  · rw [loop]
    rfl
  · rw [greeting]
    rfl

/-! ## Calls at once -/

/-- When every call is made at once, the steps are those of `linkStep`. -/
theorem reaches_linkStep
    {link next : Link}
    {label : LinkLabel}
    (stepped : linkStep link label = some next) :
    Reaches step (fun _ _ => True) ⟨link, none, none⟩ ⟨next, none, none⟩ := by
  cases label with
  | keepAlive input =>
      change link.keepAliveStep input = some next at stepped
      have held : step ⟨link, none, none⟩ (.keepAlive input) =
          some ⟨{ next with
            events := if next.keepAlive.notice.isSome then link.events
              else next.events }, next.keepAlive.notice, none⟩ := by
        simp [step, keepAliveStep, stepped]
      refine Reaches.head held trivial ?_
      cases Link.keepAliveStep_cases stepped with
      | connected | timesOut =>
          exact Reaches.head (show step _ .notify = some _ from rfl) trivial
            (Reaches.refl _)
      | creates =>
          rw [notice_createRecvThread]
          exact Reaches.refl _
      | wakes | returns | noSocket | socket | refused | greets | beats | drops
      | joins =>
          exact Reaches.refl _
  | look =>
      change link.lookStep = some next at stepped
      have looked : step ⟨link, none, none⟩ .look = some ⟨next, none, none⟩ := by
        simp [step, stepped]
      exact Reaches.head looked trivial (Reaches.refl _)
  | recv turn =>
      obtain ⟨receiving, granted, rfl⟩ := Link.recvStep_eq_some stepped
      have received : step ⟨link, none, none⟩ (.recv turn) =
          some ⟨link, none, some turn⟩ := by
        simp [step, recvStep, receiving, granted]
      exact Reaches.head received trivial
        (Reaches.head (show step _ .handle = some _ from rfl) trivial
          (Reaches.refl _))
  | socketUnit =>
      change link.socketUnitStep = some next at stepped
      have goesOn : step ⟨link, none, none⟩ .socketUnit =
          some ⟨next, none, none⟩ := by
        simp [step, stepped]
      exact Reaches.head goesOn trivial (Reaches.refl _)

/-- Every run of a client whose calls are made at once is a run of the client. -/
theorem reaches_of_run
    {link last : Link}
    {labels : List LinkLabel}
    (reached : run linkStep link labels = some last) :
    Reaches step (fun _ _ => True) ⟨link, none, none⟩ ⟨last, none, none⟩ := by
  induction labels generalizing link with
  | nil =>
      obtain rfl := Option.some.inj reached
      exact Reaches.refl _
  | cons label labels inductionHypothesis =>
      obtain ⟨next, stepped, reachedLater⟩ := run_cons reached
      exact (reaches_linkStep stepped).trans (inductionHypothesis reachedLater)

/-! ## Which thread is before its call -/

/-- What `recv` asks for is up to the decoder. -/
theorem recvRequest_congr
    {client other : TcpClient}
    (same : other.decoderMembers = client.decoderMembers) :
    other.recvRequest = client.recvRequest := by
  simp only [TcpClient.decoderMembers, Prod.mk.injEq] at same
  obtain ⟨framed, -, hasHead, cache, -, need⟩ := same
  simp only [TcpClient.recvRequest, TcpClient.missingBody, TcpClient.missingHead,
    framed, hasHead, cache, need]

/-- A notification belongs to the stage of the heartbeat thread, and what has been
received to a receive thread that is still at the `recv` that has asked for it. -/
structure Placed (calls : ClientCalls) : Prop where
  receives : calls.link.client.hasTransPortEngineRecv = true
  ordered : calls.link.control.Ordered
  one : calls.link.OneReceiver
  notice : calls.notice ≠ none → calls.notice = calls.link.keepAlive.notice
  received : ∀ turn, calls.received = some turn →
    calls.link.recvStep turn = some (calls.link.handleTurn turn)

/-- A pending notification is that of the link status. -/
theorem Placed.nLinkStatus
    (placed : calls.Placed)
    {nMsgType : MsgType}
    (pending : calls.notice = some nMsgType) :
    calls.link.client.nLinkStatus = nMsgType := by
  have isNotice := placed.notice (by simp [pending])
  rw [pending] at isNotice
  cases stage : calls.link.keepAlive with
  | starting =>
      rw [stage] at isNotice
      rw [Option.some.inj isNotice]
      exact placed.ordered.connected (Or.inl stage)
  | dropping =>
      rw [stage] at isNotice
      rw [Option.some.inj isNotice]
      exact placed.ordered.disconnected (Or.inr (Or.inl stage))
  | loop | woken | connecting | greeting | joining | returned =>
      rw [stage] at isNotice
      contradiction

/-- While a connection is being set up nothing has been received. -/
theorem Placed.not_starting
    (placed : calls.Placed)
    {turn : RecvfromTurn}
    (isReceived : calls.received = some turn) :
    calls.link.keepAlive ≠ .starting := by
  intro starting
  obtain ⟨receiving, -⟩ := Link.recvStep_eq_some (placed.received turn isReceived)
  have alone := placed.one
  rw [Link.OneReceiver, starting, receiving] at alone
  exact absurd alone.2 (by decide)

/-- What the decoder does not see does not matter to what has been received. -/
theorem Placed.received_of_frame
    (placed : calls.Placed)
    {link : Link}
    (members : link.client.decoderMembers = calls.link.client.decoderMembers)
    (receiver : link.receiver = calls.link.receiver)
    (turn : RecvfromTurn)
    (isReceived : calls.received = some turn) :
    link.recvStep turn = some (link.handleTurn turn) := by
  obtain ⟨receiving, granted, -⟩ :=
    Link.recvStep_eq_some (placed.received turn isReceived)
  unfold Link.recvStep
  rw [receiver.trans receiving]
  dsimp only
  rw [recvRequest_congr members, if_pos granted]
  rfl

theorem placed_start
    {arguments : ClientArguments}
    (receives : arguments.hasTransPortEngineRecv = true)
    (garbage : ClientGarbage)
    (results : SocketInitResults) :
    (start garbage arguments results).Placed := by
  obtain ⟨hasRecv, alone⟩ :=
    Link.createClient_alone receives garbage results
  exact ⟨hasRecv, Link.ordered_createClient garbage arguments results, alone,
    fun impossible => absurd rfl impossible, fun turn impossible => by contradiction⟩

theorem placed_keepAliveStep
    {input : KeepAliveInput}
    (placed : calls.Placed)
    (stepped : calls.keepAliveStep input = some next) :
    next.Placed := by
  obtain ⟨-, link, linkStepped, rfl⟩ := keepAliveStep_cases stepped
  have ordered := Control.ordered_step placed.ordered
    (Link.controlStep_keepAlive linkStepped)
  have one := Link.oneReceiver_keepAliveStep placed.one linkStepped
  have sameNotice : ∀ events, Placed ⟨{ link with events := events },
      link.keepAlive.notice, calls.received⟩ := by
    intro events
    have placedOrdered : (Link.control { link with events := events }).Ordered :=
      ⟨ordered.flag, ordered.returned, ordered.disconnected, ordered.connected⟩
    rcases Link.keepAliveStep_frame linkStepped with ⟨members, receiver, -⟩ | creates
    · exact ⟨(congrArg (·.2.1) members).trans placed.receives, placedOrdered, one,
        fun _ => rfl, placed.received_of_frame members receiver⟩
    · obtain ⟨nRet, rfl, rfl⟩ := creates
      have receives : (calls.link.createRecvThread nRet).client.hasTransPortEngineRecv =
          calls.link.client.hasTransPortEngineRecv := by
        unfold Link.createRecvThread
        dsimp only
        split
        · rfl
        · rfl
      refine ⟨receives.trans placed.receives, placedOrdered, one, fun _ => rfl, ?_⟩
      intro turn isReceived
      cases Link.keepAliveStep_cases linkStepped with
      | creates stage => exact absurd stage (placed.not_starting isReceived)
  exact sameNotice _

theorem placed_step
    {label : CallLabel}
    (placed : calls.Placed)
    (stepped : calls.step label = some next) :
    next.Placed := by
  cases label with
  | keepAlive input => exact placed_keepAliveStep placed stepped
  | notify =>
      obtain ⟨nMsgType, -, rfl⟩ := notifyStep_cases stepped
      obtain ⟨receives, ordered, one, -, -⟩ := id placed
      exact ⟨receives, ⟨ordered.flag, ordered.returned, ordered.disconnected,
        ordered.connected⟩, one, fun pending => absurd rfl pending,
        placed.received_of_frame rfl rfl⟩
  | look =>
      obtain ⟨link, looked, rfl⟩ := Option.map_eq_some_iff.mp stepped
      have one := Link.oneReceiver_linkStep placed.one
        (show linkStep calls.link .look = some link from looked)
      obtain ⟨atLoop, rfl⟩ := Link.lookStep_cases looked
      refine ⟨placed.receives, placed.ordered, one, placed.notice, ?_⟩
      intro turn isReceived
      obtain ⟨receiving, -⟩ := Link.recvStep_eq_some (placed.received turn isReceived)
      rw [receiving] at atLoop
      contradiction
  | recv turn =>
      obtain ⟨receiving, -, granted, rfl⟩ := recvStep_cases stepped
      refine ⟨placed.receives, placed.ordered, placed.one, placed.notice, ?_⟩
      intro other isOther
      obtain rfl := Option.some.inj isOther
      dsimp only
      unfold Link.recvStep
      rw [receiving]
      dsimp only
      rw [if_pos granted]
      rfl
  | handle =>
      obtain ⟨turn, isReceived, rfl⟩ := handleStep_cases stepped
      have handled := placed.received turn isReceived
      have members := calls.link.client.linkMembers_recvfromPass turn
      refine ⟨(congrArg (·.2.2.2.2.1) members).trans placed.receives, ?_,
        Link.oneReceiver_linkStep placed.one
          (show linkStep calls.link (.recv turn) = some _ from handled),
        placed.notice, fun other impossible => by contradiction⟩
      dsimp only
      rw [Link.control_recvStep handled]
      exact placed.ordered
  | socketUnit =>
      obtain ⟨link, goesOn, rfl⟩ := Option.map_eq_some_iff.mp stepped
      obtain ⟨members, -, stage, receiver, -⟩ := Link.socketUnitStep_frame goesOn
      refine ⟨(congrArg (·.2.1) members).trans placed.receives,
        Control.ordered_step placed.ordered (Link.controlStep_socketUnit goesOn),
        Link.oneReceiver_linkStep placed.one
          (show linkStep calls.link .socketUnit = some link from goesOn), ?_,
        placed.received_of_frame members receiver⟩
      dsimp only
      rw [stage]
      exact placed.notice

end ClientCalls

end TransPortEngine
