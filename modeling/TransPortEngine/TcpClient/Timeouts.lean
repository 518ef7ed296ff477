import TransPortEngine.TcpClient.Timed

/-!
# Timeouts of a client

In a timed run the time stamp is the second of the last heartbeat, provided that
heartbeats are recognised at all. An undisturbed client then times out exactly if
it has no framing, or if its sleep can take 20 steps of `time()`.
-/

namespace TransPortEngine

open Framing MachineInt Transition

namespace TimedLink

variable {platform : Platform} {timed next : TimedLink} {period : Nat}
  {frames : List (Frame frameFormat)}

/-! ## Framed clients with short sleeps -/

/-- The time stamp is at least the second of a heartbeat, or the heartbeat has
just been sent and its echo is still to be read. -/
def Answered
    (timed : TimedLink)
    (frames : List (Frame frameFormat))
    (beat : Nat) : Prop :=
  ((beat / 1000 : Nat) : Int) ≤ timed.link.client.tHeartbeatTimeStamp ∨
    timed.clock = beat ∧ heartbeatFrame clientHeartbeat ∈ frames

/-- Where there is a connection there is a receive thread, and the heartbeat
before the current sleep is answered. -/
def Beaten
    (timed : TimedLink)
    (frames : List (Frame frameFormat))
    (beat : Nat) : Prop :=
  timed.link.client.nLinkStatus = .connect →
    timed.link.receiver.running = true ∧ timed.Answered frames beat

/-- What holds while the heartbeat thread is in a stage. -/
def InStage
    (timed : TimedLink)
    (period : Nat)
    (frames : List (Frame frameFormat)) : KeepAliveStage → Prop
  | .loop => timed.Beaten frames timed.clock
  | .woken =>
      ∃ beat ≤ timed.clock, timed.wakes = beat + period ∧
        timed.Beaten frames beat
  | .connecting => timed.link.client.nLinkStatus = .disconnect
  | .starting => timed.link.client.nLinkStatus = .connect
  | .greeting =>
      timed.link.client.nLinkStatus = .connect ∧
        timed.link.receiver.running = true
  | .dropping | .joining => False
  | .returned => True

/-- A client that follows the frames the server has sent, and has not been told
to stop its receive thread. -/
structure Healthy
    (platform : Platform)
    (period : Nat)
    (timed : TimedLink)
    (frames : List (Frame frameFormat)) : Prop where
  unit : timed.link.socketUnit = .idle ∧ timed.link.client.bHeartbeatFlag = true ∨
    timed.link.socketUnit = .joiningHeartbeat
  interval : platform.sleepTime timed.link.client.nHeartBeatInterval = period
  follows : ∃ state, TcpClient.Follows state timed.link.client ∧
    frameFormat.Pending state timed.arrived frames
  silent : timed.link.client.nLinkStatus = .disconnect → timed.arrived = []
  stage : timed.InStage period frames timed.link.keepAlive

/-- The heartbeat thread has returned, or all is well. -/
def Steady (platform : Platform) (period : Nat) (timed : TimedLink) : Prop :=
  timed.link.keepAlive = .returned ∨
    ∃ frames, Healthy platform period timed frames

/-- A frame behind those that are pending. -/
theorem Answered.append
    {beat : Nat}
    (answered : timed.Answered frames beat)
    (later : List (Frame frameFormat)) :
    timed.Answered (frames ++ later) beat :=
  answered.imp_right fun ⟨now, member⟩ =>
    ⟨now, List.mem_append_left later member⟩

/-- A step of another thread, or time that passes, keeps what holds in a
stage. -/
theorem InStage.mono
    {stage : KeepAliveStage}
    {framesAfter : List (Frame frameFormat)}
    (inStage : timed.InStage period frames stage)
    (status : next.link.client.nLinkStatus = timed.link.client.nLinkStatus)
    (runs : timed.link.receiver.running = true →
      next.link.receiver.running = true)
    (wakes : next.wakes = timed.wakes)
    (later : timed.clock ≤ next.clock)
    (atOnce : stage = .loop → next.clock = timed.clock)
    (answers : timed.link.receiver.running = true → ∀ beat ≤ timed.clock,
      timed.Answered frames beat → next.Answered framesAfter beat) :
    next.InStage period framesAfter stage := by
  have beaten : ∀ beat ≤ timed.clock, timed.Beaten frames beat →
      next.Beaten framesAfter beat := by
    intro beat past before connected
    obtain ⟨running, answered⟩ := before (status ▸ connected)
    exact ⟨runs running, answers running beat past answered⟩
  cases stage with
  | loop =>
      rw [InStage, atOnce rfl]
      exact beaten _ le_rfl inStage
  | woken =>
      obtain ⟨beat, past, wakesEq, before⟩ := inStage
      exact ⟨beat, past.trans later, wakes.trans wakesEq, beaten beat past before⟩
  | connecting => exact status.trans inStage
  | starting => exact status.trans inStage
  | greeting => exact ⟨status.trans inStage.1, runs inStage.2⟩
  | dropping => exact inStage
  | joining => exact inStage
  | returned => trivial

/-- A step of a thread is one at the right time. -/
theorem step_thread
    {label : LinkLabel}
    (stepped : step platform timed (.thread label) = some next) :
    timed.OnTime label ∧ ∃ link, linkStep timed.link label = some link ∧
      next = timed.after platform label link := by
  simp only [step] at stepped
  split at stepped
  · rename_i onTime
    obtain ⟨link, linked, rfl⟩ := Option.map_eq_some_iff.mp stepped
    exact ⟨onTime, link, linked, rfl⟩
  · contradiction

theorem step_thread_some
    (platform : Platform)
    {link : Link}
    {label : LinkLabel}
    (onTime : timed.OnTime label)
    (linked : linkStep timed.link label = some link) :
    step platform timed (.thread label) =
      some (timed.after platform label link) := by
  rw [step, if_pos onTime, linked]
  rfl

theorem healthy_wait
    {millis : Nat}
    (healthy : Healthy platform period timed frames)
    (stepped : step platform timed (.wait millis) = some next) :
    Healthy platform period next frames := by
  simp only [step] at stepped
  split at stepped
  · rename_i idle
    obtain rfl := Option.some.inj stepped
    obtain ⟨state, follows, pending⟩ := healthy.follows
    refine ⟨healthy.unit, healthy.interval, ⟨state, follows, pending⟩,
      healthy.silent, ?_⟩
    refine healthy.stage.mono rfl id rfl (Nat.le_add_right _ _)
      (fun isLoop => absurd isLoop idle.1) fun running beat _ answered => ?_
    rcases answered with stamped | ⟨-, unread⟩
    · exact Or.inl stamped
    · rw [idle.2 running] at pending
      rw [pending.nil.2] at unread
      contradiction
  · contradiction

theorem healthy_serve
    {payload : Payload}
    (healthy : Healthy platform period timed frames)
    (stepped : step platform timed (.serve payload) = some next) :
    Healthy platform period next (frames ++ [dataFrame payload]) := by
  simp only [step] at stepped
  split at stepped
  · rename_i connected
    obtain rfl := Option.some.inj stepped
    obtain ⟨state, follows, pending⟩ := healthy.follows
    refine ⟨healthy.unit, healthy.interval, ⟨state, follows, ?_⟩, ?_, ?_⟩
    · rw [servedBytes, if_pos follows.members.1]
      exact pending.append_frame (dataFrame payload)
    · intro disconnected
      exact absurd (connected.symm.trans disconnected) (by decide)
    · exact healthy.stage.mono rfl id rfl le_rfl (fun _ => rfl)
        fun _ _ _ answered => answered.append _
  · contradiction

theorem healthy_look
    (healthy : Healthy platform period timed frames)
    (stepped : step platform timed (.thread .look) = some next) :
    Healthy platform period next frames := by
  obtain ⟨-, link, linked, rfl⟩ := step_thread stepped
  obtain ⟨-, rfl⟩ := Link.lookStep_cases linked
  obtain ⟨state, follows, pending⟩ := healthy.follows
  refine ⟨healthy.unit, healthy.interval, ⟨state, follows, pending⟩,
    healthy.silent, ?_⟩
  refine healthy.stage.mono rfl ?_ rfl le_rfl (fun _ => rfl)
    fun _ _ _ answered => answered
  intro _
  simp only [after, follows.members.2, if_true]
  rfl

/-- What `recv` returns is handled: a heartbeat of the frames it completes sets
the time stamp. -/
theorem healthy_recv
    {turn : RecvfromTurn}
    (healthy : Healthy platform period timed frames)
    (ofStream : turn.OfStream)
    (stepped : step platform timed (.thread (.recv turn)) = some next) :
    ∃ left, Healthy platform period next left := by
  obtain ⟨⟨now, rest, arrived⟩, link, linked, rfl⟩ := step_thread stepped
  obtain ⟨receiving, granted, rfl⟩ := Link.recvStep_eq_some linked
  obtain ⟨state, follows, pending⟩ := healthy.follows
  rw [← arrived] at pending
  obtain ⟨done, left, rfl, emitted, pendingLeft⟩ := pending.feed
  obtain ⟨after, moved, followsAfter⟩ := TcpClient.recvStep_simulates state
    timed.link.client turn rest (done ++ left) follows ⟨ofStream, granted⟩ pending
  have stays := timed.link.client.leaves_recvfromPass ofStream
  simp only [TcpClient.recvStep, stays, Bool.false_eq_true, if_false,
    Option.some.injEq, Prod.mk.injEq] at moved
  obtain ⟨rfl, messagesEq⟩ := moved
  have members := timed.link.client.linkMembers_recvfromPass turn
  have stamp := timed.link.client.tHeartbeatTimeStamp_recvfromPass turn
  rw [messagesEq, emitted] at stamp
  have status : (timed.link.client.recvfromPass turn).client.nLinkStatus =
      timed.link.client.nLinkStatus := congrArg (·.2.1) members
  refine ⟨left, ?_, ?_, ⟨_, followsAfter, ?_⟩, ?_, ?_⟩
  · exact healthy.unit.imp_left fun idle =>
      ⟨idle.1, (congrArg (·.2.2.2.1) members).trans idle.2⟩
  · exact (congrArg (fun members => platform.sleepTime members.2.2.2.2.2.2.2)
      members).trans healthy.interval
  · rw [TimedLink.after, arrivedAfter, ← arrived, List.drop_left]
    exact pendingLeft
  · intro disconnected
    have nothing := healthy.silent (status.symm.trans disconnected)
    rw [TimedLink.after, arrivedAfter, nothing, List.drop_nil]
  · refine healthy.stage.mono status ?_ rfl le_rfl (fun _ => rfl) ?_
    · intro _
      simp only [TimedLink.after, stays, Bool.false_eq_true, if_false]
      rfl
    · intro _ beat past answered
      have seconds : ((beat / 1000 : Nat) : Int) ≤ turn.now := by
        rw [now, time]
        omega
      unfold Answered
      simp only [TimedLink.after, stamp]
      split
      · exact Or.inl seconds
      · rename_i silent
        refine answered.imp_right fun pending => ⟨pending.1, ?_⟩
        refine (List.mem_append.mp pending.2).resolve_left fun completed => ?_
        refine silent (List.mem_filterMap.mpr
          ⟨_, List.mem_map_of_mem completed, ?_⟩)
        rw [output_heartbeatFrame]
        rfl

/-- `TcpClient_SocketUnit` stops the receive thread only when the heartbeat
thread has returned. -/
theorem steady_socketUnit
    (healthy : Healthy platform period timed frames)
    (stepped : step platform timed (.thread .socketUnit) = some next) :
    Steady platform period next := by
  obtain ⟨-, link, linked, rfl⟩ := step_thread stepped
  obtain ⟨state, follows, pending⟩ := healthy.follows
  have kept : timed.InStage period frames timed.link.keepAlive := healthy.stage
  cases Link.socketUnitStep_cases linked with
  | stopsHeartbeat stage flag =>
      refine Or.inr ⟨frames, Or.inr rfl, healthy.interval,
        ⟨state, follows.congr rfl rfl, pending⟩, healthy.silent, ?_⟩
      exact kept.mono rfl id rfl le_rfl (fun _ => rfl) fun _ _ _ answered => answered
  | noHeartbeat stage flag =>
      rcases healthy.unit with ⟨-, running⟩ | joining
      · exact absurd (flag.symm.trans running) (by decide)
      · exact absurd (stage.symm.trans joining) (by decide)
  | joinsHeartbeat stage returned => exact Or.inl returned
  | stopsReceiver stage | noReceiver stage | joinsReceiver stage =>
      rcases healthy.unit with ⟨idle, -⟩ | joining
      · exact absurd (stage.symm.trans idle) (by decide)
      · exact absurd (stage.symm.trans joining) (by decide)

/-- A step of the heartbeat thread that leaves the connection as it is. -/
theorem Healthy.of_keepAlive
    {link : Link}
    {label : LinkLabel}
    (healthy : Healthy platform period timed frames)
    (unit : link.socketUnit = timed.link.socketUnit)
    (flag : link.client.bHeartbeatFlag = timed.link.client.bHeartbeatFlag)
    (interval : link.client.nHeartBeatInterval =
      timed.link.client.nHeartBeatInterval)
    (members : link.client.decoderMembers = timed.link.client.decoderMembers)
    (running : link.client.bRecvFlag = timed.link.client.bRecvFlag)
    (status : link.client.nLinkStatus = timed.link.client.nLinkStatus)
    (arrived : timed.arrivedAfter link label = timed.arrived)
    (stage : (timed.after platform label link).InStage period frames
      link.keepAlive) :
    Healthy platform period (timed.after platform label link) frames := by
  obtain ⟨state, follows, pending⟩ := healthy.follows
  refine ⟨?_, ?_, ⟨state, follows.congr members running, ?_⟩, ?_, stage⟩
  · rw [after, unit, flag]
    exact healthy.unit
  · rw [after, interval]
    exact healthy.interval
  · rw [after, arrived]
    exact pending
  · intro disconnected
    rw [after, arrived]
    exact healthy.silent (status.symm.trans disconnected)

/-- A heartbeat that is sent comes back as one more frame. -/
theorem Healthy.of_beat
    {link : Link}
    {now : Int}
    {nSent : Nat}
    (healthy : Healthy platform period timed frames)
    (unit : link.socketUnit = timed.link.socketUnit)
    (flag : link.client.bHeartbeatFlag = timed.link.client.bHeartbeatFlag)
    (interval : link.client.nHeartBeatInterval =
      timed.link.client.nHeartBeatInterval)
    (members : link.client.decoderMembers = timed.link.client.decoderMembers)
    (running : link.client.bRecvFlag = timed.link.client.bRecvFlag)
    (connected : link.client.nLinkStatus = .connect)
    (atLoop : link.keepAlive = .loop)
    (receives : link.receiver.running = true)
    (answered : (timed.after platform (.keepAlive (.beat now nSent)) link).Answered
      (frames ++ [heartbeatFrame clientHeartbeat]) timed.clock) :
    Healthy platform period (timed.after platform (.keepAlive (.beat now nSent)) link)
      (frames ++ [heartbeatFrame clientHeartbeat]) := by
  obtain ⟨state, follows, pending⟩ := healthy.follows
  refine ⟨?_, ?_, ⟨state, follows.congr members running, ?_⟩, ?_, ?_⟩
  · rw [after, unit, flag]
    exact healthy.unit
  · rw [after, interval]
    exact healthy.interval
  · rw [after, arrivedAfter, if_pos atLoop, TcpClient.sendHeartbeat_eq]
    exact pending.append_frame _
  · intro disconnected
    exact absurd (connected.symm.trans disconnected) (by decide)
  · rw [after, atLoop]
    exact fun _ => ⟨receives, answered⟩

/-- At the end of a short sleep an answered heartbeat is not too old. -/
theorem not_sessionTimeout
    {beat : Nat}
    (positive : 0 < period)
    (short : period ≤ 19000)
    (awake : timed.clock = beat + period)
    (answered : timed.Answered frames beat) :
    timed.link.client.sessionTimeout timed.time = false := by
  have stamped : ((beat / 1000 : Nat) : Int) ≤
      timed.link.client.tHeartbeatTimeStamp := by
    apply answered.resolve_right
    rintro ⟨same, -⟩
    omega
  rw [TcpClient.sessionTimeout, decide_eq_false_iff_not, heartbeatTimeout, time,
    awake]
  omega

/-- The heartbeat thread does not find a timeout. -/
theorem steady_keepAlive
    {input : KeepAliveInput}
    (positive : 0 < period)
    (short : period ≤ 19000)
    (healthy : Healthy platform period timed frames)
    (created : ∀ nRet, input = .create nRet → nRet = 0)
    (stepped : step platform timed (.thread (.keepAlive input)) = some next) :
    Steady platform period next := by
  obtain ⟨onTime, link, linked, rfl⟩ := step_thread stepped
  have inStage := healthy.stage
  cases Link.keepAliveStep_cases linked with
  | wakes stage =>
      rw [stage] at inStage
      refine Or.inr ⟨frames, healthy.of_keepAlive rfl rfl rfl rfl rfl rfl rfl ?_⟩
      refine ⟨timed.clock, le_rfl, ?_, inStage⟩
      rw [after, wakesAfter, if_pos stage, healthy.interval]
  | returns => exact Or.inl rfl
  | noSocket stage disconnected =>
      refine Or.inr ⟨frames, healthy.of_keepAlive rfl rfl rfl rfl rfl rfl rfl ?_⟩
      intro connected
      exact absurd (disconnected.symm.trans connected) (by decide)
  | socket stage disconnected =>
      exact Or.inr ⟨frames,
        healthy.of_keepAlive rfl rfl rfl rfl rfl rfl rfl disconnected⟩
  | refused stage =>
      rw [stage] at inStage
      have disconnected : timed.link.client.nLinkStatus = .disconnect := inStage
      refine Or.inr ⟨frames, healthy.of_keepAlive rfl rfl rfl rfl rfl rfl
        (healthy.silent disconnected).symm ?_⟩
      intro connected
      exact absurd (disconnected.symm.trans connected) (by decide)
  | connected stage =>
      rw [stage] at inStage
      obtain ⟨state, follows, pending⟩ := healthy.follows
      rw [healthy.silent inStage] at pending
      exact Or.inr ⟨frames, healthy.unit, healthy.interval,
        ⟨state, follows.congr rfl rfl, pending⟩,
        fun impossible => by contradiction, rfl⟩
  | creates stage =>
      rw [stage] at inStage
      obtain rfl := created _ rfl
      obtain ⟨state, follows, pending⟩ := healthy.follows
      exact Or.inr ⟨frames, healthy.unit, healthy.interval,
        ⟨state, follows.congr rfl follows.members.2.symm, pending⟩, healthy.silent,
        inStage, rfl⟩
  | greets stage =>
      rw [stage] at inStage
      refine Or.inr ⟨_, healthy.of_beat rfl rfl rfl rfl rfl inStage.1 rfl inStage.2
        (Or.inl ?_)⟩
      exact onTime.2.1.ge
  | timesOut stage connected expired =>
      rw [stage] at inStage
      obtain ⟨beat, past, wakes, before⟩ := inStage
      have recent := not_sessionTimeout positive short
        ((onTime.1 stage).trans wakes) (before connected).2
      rw [onTime.2.1, recent] at expired
      contradiction
  | beats stage connected =>
      rw [stage] at inStage
      obtain ⟨beat, past, wakes, before⟩ := inStage
      exact Or.inr ⟨_, healthy.of_beat rfl rfl rfl rfl rfl connected rfl
        (before connected).1
        (Or.inr ⟨rfl, List.mem_append_right _ (List.mem_singleton_self _)⟩)⟩
  | drops stage =>
      rw [stage] at inStage
      exact inStage.elim
  | joins stage =>
      rw [stage] at inStage
      exact inStage.elim

/-- The heartbeat thread stays where it has returned. -/
theorem returned_linkStep
    {link : Link}
    {label : LinkLabel}
    (returned : timed.link.keepAlive = .returned)
    (linked : linkStep timed.link label = some link) :
    link.keepAlive = .returned := by
  cases label with
  | keepAlive input =>
      simp [linkStep, Link.keepAliveStep, returned] at linked
  | look =>
      obtain ⟨-, rfl⟩ := Link.lookStep_cases linked
      exact returned
  | recv turn =>
      obtain ⟨-, -, rfl⟩ := Link.recvStep_eq_some linked
      exact returned
  | socketUnit =>
      exact (Link.socketUnitStep_frame linked).2.2.1.trans returned

theorem steady_step
    {label : TimedLabel}
    (positive : 0 < period)
    (short : period ≤ 19000)
    (steady : Steady platform period timed)
    (undisturbed : timed.Undisturbed label)
    (stepped : step platform timed label = some next) :
    Steady platform period next := by
  rcases steady with returned | ⟨frames, healthy⟩
  · apply Or.inl
    cases label with
    | thread label =>
        obtain ⟨-, link, linked, rfl⟩ := step_thread stepped
        exact returned_linkStep returned linked
    | serve payload =>
        simp only [step] at stepped
        split at stepped
        · obtain rfl := Option.some.inj stepped
          exact returned
        · contradiction
    | wait millis =>
        simp only [step] at stepped
        split at stepped
        · obtain rfl := Option.some.inj stepped
          exact returned
        · contradiction
  · cases label with
    | serve payload => exact Or.inr ⟨_, healthy_serve healthy stepped⟩
    | wait millis => exact Or.inr ⟨_, healthy_wait healthy stepped⟩
    | thread label =>
        cases label with
        | look => exact Or.inr ⟨_, healthy_look healthy stepped⟩
        | recv turn => exact Or.inr (healthy_recv healthy undisturbed stepped)
        | socketUnit => exact steady_socketUnit healthy stepped
        | keepAlive input =>
            refine steady_keepAlive positive short healthy ?_ stepped
            rintro nRet rfl
            exact undisturbed

/-- A framed client whose sleep takes at most 19 seconds does not time out. -/
theorem neverDrops_of_short
    {nHeartBeatInterval : Int}
    (positive : 0 < platform.sleepTime nHeartBeatInterval)
    (short : platform.sleepTime nHeartBeatInterval ≤ 19000) :
    NeverDrops platform true nHeartBeatInterval := by
  rintro garbage clock last ⟨labels, undisturbed, reached⟩ dropping
  have begins : Steady platform (platform.sleepTime nHeartBeatInterval)
      (start garbage true nHeartBeatInterval clock) := by
    refine Or.inr ⟨[], Or.inl ⟨rfl, rfl⟩, rfl, ⟨.head [], ?_, ?_⟩, fun _ => rfl,
      ?_⟩
    · exact ⟨rfl, rfl, rfl, rfl, rfl, sizeofHeadMsg_pos⟩
    · exact Format.pending_wire []
    · exact fun impossible => by contradiction
  have steady := invariant_of_run
    (fun _ _ _ steady undisturbed stepped =>
      steady_step positive short steady undisturbed stepped)
    begins undisturbed reached
  rcases steady with returned | ⟨frames, healthy⟩
  · exact absurd (returned.symm.trans dropping) (by decide)
  · have impossible := healthy.stage
    rw [dropping] at impossible
    exact impossible.elim

/-! ## Long sleeps, and clients without framing -/

/-- The heartbeat thread of a connected client is about to sleep, and some bytes
are still to be read. -/
structure AtLoop
    (platform : Platform)
    (period : Nat)
    (arrived : List UInt8)
    (timed : TimedLink) : Prop where
  flags : timed.link.client.bHeartbeatFlag = true ∧
    timed.link.client.bRecvFlag = true
  interval : platform.sleepTime timed.link.client.nHeartBeatInterval = period
  connected : timed.link.client.nLinkStatus = .connect
  stage : timed.link.keepAlive = .loop
  receiver : timed.link.receiver = .loop
  arrived : timed.arrived = arrived

theorem length_sendHeartbeat : TcpClient.sendHeartbeat.length = sizeofHeadMsg := by
  decide

theorem sendHeartbeat_nonempty : 0 < TcpClient.sendHeartbeat.length := by
  rw [length_sendHeartbeat]
  exact sizeofHeadMsg_pos

/-- The heartbeat that comes back in one piece. -/
def echoTurn (timed : TimedLink) : RecvfromTurn :=
  ⟨.data TcpClient.sendHeartbeat sendHeartbeat_nonempty, timed.time⟩

/-- A heartbeat that comes back is read. -/
theorem reaches_echo
    (atLoop : AtLoop platform period TcpClient.sendHeartbeat timed)
    (granted : sizeofHeadMsg ≤ timed.link.client.recvRequest) :
    ∃ later, Reaches (step platform) Undisturbed timed later ∧
      AtLoop platform period [] later ∧ later.clock = timed.clock ∧
        later.link.client =
          (timed.link.client.recvfromPass timed.echoTurn).client := by
  obtain ⟨flags, interval, connected, stage, receiver, arrived⟩ := atLoop
  have members := timed.link.client.linkMembers_recvfromPass timed.echoTurn
  have stays := timed.link.client.leaves_recvfromPass
    (show timed.echoTurn.OfStream from trivial)
  let looking : Link := { timed.link with receiver := .receiving }
  let pass := timed.link.client.recvfromPass timed.echoTurn
  let read : Link := { looking with
    client := pass.client
    receiver := if pass.leaves then .returned else .loop
    events := timed.link.events ++ pass.events
    connections := Link.record timed.echoTurn (deliveries pass.events)
      timed.link.connections }
  have looked : linkStep timed.link .look = some looking := by
    simp [linkStep, Link.lookStep, receiver, flags.2, looking]
  have onTime : (timed.after platform .look looking).OnTime
      (.recv timed.echoTurn) := by
    refine ⟨rfl, ?_⟩
    change TcpClient.sendHeartbeat <+: timed.arrived
    exact arrived ▸ List.prefix_rfl
  have linked : linkStep looking (.recv timed.echoTurn) = some read :=
    if_pos (length_sendHeartbeat.symm ▸ granted)
  have lookOnTime : timed.OnTime .look := trivial
  have reads : Reaches (step platform) Undisturbed _ _ :=
    (Reaches.refl _).head (step_thread_some platform onTime linked) trivial
  refine ⟨_, reads.head (step_thread_some platform lookOnTime looked) trivial, ?_,
    rfl, rfl⟩
  refine ⟨⟨?_, ?_⟩, ?_, ?_, stage, ?_, ?_⟩
  · exact (congrArg (·.2.2.2.1) members).trans flags.1
  · exact (congrArg (·.2.2.1) members).trans flags.2
  · exact (congrArg (fun members => platform.sleepTime members.2.2.2.2.2.2.2)
      members).trans interval
  · exact (congrArg (·.2.1) members).trans connected
  · exact if_neg (by rw [stays]; decide)
  · change timed.arrived.drop TcpClient.sendHeartbeat.length = []
    rw [arrived]
    exact List.drop_length

/-- The heartbeat thread sleeps. -/
theorem reaches_woken
    (atLoop : AtLoop platform period [] timed) :
    ∃ later, Reaches (step platform) Undisturbed timed later ∧
      later.link = { timed.link with keepAlive := .woken } ∧
        later.clock = timed.clock + period ∧ later.wakes = later.clock ∧
          later.arrived = [] := by
  obtain ⟨flags, interval, connected, stage, receiver, arrived⟩ := atLoop
  let asleep : Link := { timed.link with keepAlive := .woken }
  have sleeps : linkStep timed.link (.keepAlive .next) = some asleep := by
    simp [linkStep, Link.keepAliveStep, stage, flags.1, asleep]
  have onTime : timed.OnTime (.keepAlive .next) := fun isWoken =>
    absurd (stage.symm.trans isWoken) (by decide)
  have waits : step platform (timed.after platform (.keepAlive .next) asleep)
      (.wait period) =
        some { timed.after platform (.keepAlive .next) asleep with
          clock := timed.clock + period } :=
    if_pos ⟨fun impossible => by contradiction, fun _ => arrived⟩
  refine ⟨_, (Reaches.refl _).head waits trivial |>.head
    (step_thread_some platform onTime sleeps) trivial, rfl, rfl, ?_, arrived⟩
  simp only [after, wakesAfter, if_pos stage, interval]

/-- The client runs into a timeout. -/
def Drops (platform : Platform) (timed : TimedLink) : Prop :=
  ∃ last, Reaches (step platform) Undisturbed timed last ∧
    last.link.keepAlive = .dropping

/-- The time stamp is 20 seconds old when the heartbeat thread wakes up. -/
def Expires (period : Nat) (timed : TimedLink) : Prop :=
  heartbeatTimeout ≤
    ((timed.clock + period) / 1000 : Nat) - timed.link.client.tHeartbeatTimeStamp

/-- The heartbeat thread has slept, and looks at the time stamp. -/
theorem drops_of_expires
    (atLoop : AtLoop platform period [] timed)
    (expires : timed.Expires period) :
    Drops platform timed := by
  obtain ⟨later, reached, link, clock, wakes, -⟩ := reaches_woken atLoop
  have connected := atLoop.connected
  have expired : timed.link.client.sessionTimeout later.time = true := by
    rw [TcpClient.sessionTimeout, decide_eq_true_eq, time, clock]
    exact expires
  let dropped : Link := { timed.link with
    client := { timed.link.client with nLinkStatus := .disconnect }
    events := timed.link.events ++ timed.link.client.notify .disconnect
    keepAlive := .dropping }
  have linked : linkStep later.link (.keepAlive (.beat later.time sizeofHeadMsg)) =
      some dropped := by
    rw [link]
    simp [linkStep, Link.keepAliveStep, connected, expired, dropped]
  have onTime : later.OnTime (.keepAlive (.beat later.time sizeofHeadMsg)) :=
    ⟨fun _ => wakes.symm, rfl, rfl⟩
  have beats := step_thread_some platform onTime linked
  exact ⟨_, reached.trans ((Reaches.refl _).head beats trivial), rfl⟩

/-- The heartbeat thread has slept, and sends a heartbeat. -/
theorem reaches_beat
    (atLoop : AtLoop platform period [] timed)
    (recent : ¬timed.Expires period) :
    ∃ later, Reaches (step platform) Undisturbed timed later ∧
      AtLoop platform period TcpClient.sendHeartbeat later ∧
        later.clock = timed.clock + period ∧
          later.link.client = timed.link.client := by
  obtain ⟨later, reached, link, clock, wakes, arrived⟩ := reaches_woken atLoop
  have connected := atLoop.connected
  have inTime : timed.link.client.sessionTimeout later.time = false := by
    rw [TcpClient.sessionTimeout, decide_eq_false_iff_not, time, clock]
    exact recent
  let sent : Link := { timed.link with keepAlive := .woken }.sendHeartbeat
    sizeofHeadMsg
  have linked : linkStep later.link (.keepAlive (.beat later.time sizeofHeadMsg)) =
      some sent := by
    rw [link]
    simp [linkStep, Link.keepAliveStep, connected, inTime, sent]
  have onTime : later.OnTime (.keepAlive (.beat later.time sizeofHeadMsg)) :=
    ⟨fun _ => wakes.symm, rfl, rfl⟩
  have beats := step_thread_some platform onTime linked
  refine ⟨_, reached.trans ((Reaches.refl _).head beats trivial), ?_, clock, rfl⟩
  refine ⟨atLoop.flags, atLoop.interval, connected, rfl, atLoop.receiver, ?_⟩
  change later.arrived ++ TcpClient.sendHeartbeat = _
  rw [arrived]
  rfl

/-- A client without framing leaves its time stamp. -/
theorem recvfromPass_raw
    {client : TcpClient}
    (raw : client.bIsHaveHead = false)
    (turn : RecvfromTurn) :
    (client.recvfromPass turn).client = client := by
  unfold TcpClient.recvfromPass
  cases turn.recv with
  | closed => rfl
  | failed => rfl
  | data szRecvBuf nonempty =>
      simp only [TcpClient.recvDataPass, raw, Bool.false_eq_true, if_false]
      rfl

/-- Without framing a client gets through any number of periods with the same
time stamp, or runs into a timeout. -/
theorem drops_or_reaches
    (periods : Nat)
    (raw : timed.link.client.bIsHaveHead = false)
    (atLoop : AtLoop platform period [] timed) :
    Drops platform timed ∨
      ∃ later, Reaches (step platform) Undisturbed timed later ∧
        AtLoop platform period [] later ∧
          later.clock = timed.clock + periods * period ∧
            later.link.client = timed.link.client := by
  induction periods generalizing timed with
  | zero => exact Or.inr ⟨timed, .refl timed, atLoop, by omega, rfl⟩
  | succ periods inductionHypothesis =>
      by_cases expires : timed.Expires period
      · exact Or.inl (drops_of_expires atLoop expires)
      · obtain ⟨sent, reachedSent, atSent, clockSent, clientSent⟩ :=
          reaches_beat atLoop expires
        have granted : sizeofHeadMsg ≤ sent.link.client.recvRequest := by
          rw [clientSent, TcpClient.recvRequest, if_neg (by rw [raw]; decide)]
          decide
        obtain ⟨read, reachedRead, atRead, clockRead, clientRead⟩ :=
          reaches_echo atSent granted
        have same : read.link.client = timed.link.client := by
          rw [clientRead, clientSent, recvfromPass_raw raw]
        have reached := reachedSent.trans reachedRead
        rcases inductionHypothesis (same ▸ raw) atRead with
          ⟨last, reachedLast, dropping⟩ |
            ⟨last, reachedLast, atLast, clock, client⟩
        · exact Or.inl ⟨last, reached.trans reachedLast, dropping⟩
        · refine Or.inr ⟨last, reached.trans reachedLast, atLast, ?_,
            client.trans same⟩
          rw [clock, clockRead, clockSent, Nat.succ_mul]
          omega

/-- The first connection: the heartbeat thread sleeps, connects, starts the
receive thread and sends a heartbeat. -/
theorem reaches_connected
    (platform : Platform)
    (garbage : ClientGarbage)
    (bIsHaveHead : Bool)
    (nHeartBeatInterval : Int)
    (clock : Nat) :
    ∃ later, Reaches (step platform) Undisturbed
        (start garbage bIsHaveHead nHeartBeatInterval clock) later ∧
      AtLoop platform (platform.sleepTime nHeartBeatInterval)
        TcpClient.sendHeartbeat later ∧
      later.clock = clock + platform.sleepTime nHeartBeatInterval ∧
      later.link.client.tHeartbeatTimeStamp = later.time ∧
      later.link.client.bIsHaveHead = bIsHaveHead ∧
      later.link.client.bIsRecvHead = false ∧ later.link.client.recvBufs = [] := by
  let period := platform.sleepTime nHeartBeatInterval
  let created := start garbage bIsHaveHead nHeartBeatInterval clock
  let client := created.link.client
  let woken : TimedLink :=
    ⟨{ created.link with keepAlive := .woken }, clock + period, clock + period, []⟩
  let connecting : Link := { woken.link with
    client := { client with nSocket := 7 }
    keepAlive := .connecting }
  let starting : Link := { connecting with
    client := { connecting.client with nLinkStatus := .connect }
    events := connecting.client.notify .connect
    keepAlive := .starting }
  let greeting : Link := starting.createRecvThread 0
  let stamped : Link := { greeting with
    client := { greeting.client with tHeartbeatTimeStamp := woken.time } }
  have sleeps : step platform created (.thread (.keepAlive .next)) =
      some { woken with clock := clock } :=
    rfl
  have waits : step platform { woken with clock := clock } (.wait period) =
      some { woken with clock := clock + period } := by
    rw [step, if_pos ⟨fun impossible => by contradiction, fun _ => rfl⟩]
  have opens := step_thread_some platform
    (show woken.OnTime (.keepAlive (.socket 7)) from fun _ => rfl)
    (show linkStep woken.link (.keepAlive (.socket 7)) = some connecting from rfl)
  let opened := woken.after platform (.keepAlive (.socket 7)) connecting
  have connects := step_thread_some platform
    (show opened.OnTime (.keepAlive (.connect 0)) from
      fun impossible => by contradiction)
    (show linkStep opened.link (.keepAlive (.connect 0)) = some starting from rfl)
  let connected := opened.after platform (.keepAlive (.connect 0)) starting
  have creates := step_thread_some platform
    (show connected.OnTime (.keepAlive (.create 0)) from
      fun impossible => by contradiction)
    (show linkStep connected.link (.keepAlive (.create 0)) = some greeting from rfl)
  let received := connected.after platform (.keepAlive (.create 0)) greeting
  have beats := step_thread_some platform
    (show received.OnTime (.keepAlive (.beat woken.time sizeofHeadMsg)) from
      ⟨fun impossible => by contradiction, rfl, rfl⟩)
    (show linkStep received.link (.keepAlive (.beat woken.time sizeofHeadMsg)) =
      some (stamped.sendHeartbeat sizeofHeadMsg) from rfl)
  refine ⟨_, .head sleeps trivial (.head waits trivial (.head opens trivial
    (.head connects trivial (.head creates rfl (.head beats trivial (.refl _)))))),
    ?_, rfl, rfl, rfl, rfl, rfl⟩
  exact ⟨⟨rfl, rfl⟩, rfl, rfl, rfl, rfl, rfl⟩

/-- A client that waits for a header, or has no framing, takes a heartbeat in one
piece. -/
theorem sizeofHeadMsg_le_recvRequest
    {client : TcpClient}
    (noHead : client.bIsRecvHead = false)
    (noCache : client.recvBufs = []) :
    sizeofHeadMsg ≤ client.recvRequest := by
  have missing : client.missingHead = sizeofHeadMsg := by
    rw [client.missingHead_eq (by rw [noCache]; exact sizeofHeadMsg_pos), noCache]
    rfl
  unfold TcpClient.recvRequest
  split
  · rw [if_neg (by rw [noHead]; decide), missing]
  · decide

/-- The first heartbeat of a client is sent and read in the second its time stamp
shows. -/
theorem reaches_firstHeartbeat
    (platform : Platform)
    (bIsHaveHead : Bool)
    (nHeartBeatInterval : Int)
    (garbage : ClientGarbage)
    (clock : Nat) :
    ∃ later, Reaches (step platform) Undisturbed
        (start garbage bIsHaveHead nHeartBeatInterval clock) later ∧
      AtLoop platform (platform.sleepTime nHeartBeatInterval) [] later ∧
      later.clock = clock + platform.sleepTime nHeartBeatInterval ∧
      later.link.client.tHeartbeatTimeStamp = later.time ∧
      later.link.client.bIsHaveHead = bIsHaveHead := by
  obtain ⟨sent, reachedSent, atSent, clockSent, stampSent, framing, noHead,
      noCache⟩ :=
    reaches_connected platform garbage bIsHaveHead nHeartBeatInterval clock
  obtain ⟨read, reachedRead, atRead, clockRead, clientRead⟩ :=
    reaches_echo atSent (sizeofHeadMsg_le_recvRequest noHead noCache)
  have members := sent.link.client.linkMembers_recvfromPass sent.echoTurn
  refine ⟨read, reachedSent.trans reachedRead, atRead, clockRead.trans clockSent,
    ?_, ?_⟩
  · rw [clientRead, TcpClient.tHeartbeatTimeStamp_recvfromPass, stampSent]
    have now : sent.echoTurn.now = sent.time := rfl
    rw [now, ite_self, time, time, clockRead]
  · rw [clientRead]
    exact (congrArg (·.2.2.2.2.2.2.1) members).trans framing

/-- Without framing the time stamp is never renewed. -/
theorem not_neverDrops_raw
    {nHeartBeatInterval : Int}
    (positive : 0 < platform.sleepTime nHeartBeatInterval) :
    ¬NeverDrops platform false nHeartBeatInterval := by
  intro never
  obtain ⟨first, reachedFirst, atFirst, -, stamp, raw⟩ :=
    reaches_firstHeartbeat platform false nHeartBeatInterval ⟨0, 0, 0⟩ 0
  have drops : Drops platform first := by
    rcases drops_or_reaches 21000 raw atFirst with
      dropped | ⟨later, reached, atLater, clock, client⟩
    · exact dropped
    · obtain ⟨last, reachedLast, dropping⟩ := drops_of_expires atLater (by
        rw [Expires, client, stamp, clock, heartbeatTimeout, time]
        omega)
      exact ⟨last, reached.trans reachedLast, dropping⟩
  obtain ⟨last, reached, dropping⟩ := drops
  exact never ⟨0, 0, 0⟩ 0 last (reachedFirst.trans reached) dropping

/-- A sleep of more than 19 seconds can take 20 steps of `time()`. -/
theorem not_neverDrops_long
    {bIsHaveHead : Bool}
    {nHeartBeatInterval : Int}
    (long : 19000 < platform.sleepTime nHeartBeatInterval) :
    ¬NeverDrops platform bIsHaveHead nHeartBeatInterval := by
  intro never
  -- The first heartbeat is sent in the last millisecond of a second.
  obtain ⟨first, reachedFirst, atFirst, clock, stamp, -⟩ :=
    reaches_firstHeartbeat platform bIsHaveHead nHeartBeatInterval ⟨0, 0, 0⟩
      (999 + 999 * platform.sleepTime nHeartBeatInterval)
  obtain ⟨last, reached, dropping⟩ := drops_of_expires atFirst (by
    rw [Expires, stamp, heartbeatTimeout, time, clock]
    omega)
  exact never _ _ last (reachedFirst.trans reached) dropping

theorem sleepTime_pos
    (platform : Platform)
    {nHeartBeatInterval : Int}
    (positive : 0 < nHeartBeatInterval)
    (isInt : nHeartBeatInterval < 2147483648) :
    0 < platform.sleepTime nHeartBeatInterval := by
  have seconds : 0 < unsigned32 nHeartBeatInterval := by
    unfold unsigned32
    omega
  cases platform with
  | linux => exact Nat.mul_pos (by decide) seconds
  | windows => exact seconds

/-- With a positive interval, the timeout branch is never taken if and only if
the client is framed and its sleep is at most 19 seconds. -/
theorem neverDrops_iff
    (platform : Platform)
    (bIsHaveHead : Bool)
    {nHeartBeatInterval : Int}
    (positive : 0 < nHeartBeatInterval)
    (isInt : nHeartBeatInterval < 2147483648) :
    NeverDrops platform bIsHaveHead nHeartBeatInterval ↔
      bIsHaveHead = true ∧ platform.sleepTime nHeartBeatInterval ≤ 19000 := by
  have sleeps := sleepTime_pos platform positive isInt
  constructor
  · intro never
    constructor
    · by_contra noFraming
      obtain rfl := Bool.eq_false_of_not_eq_true noFraming
      exact not_neverDrops_raw sleeps never
    · by_contra long
      exact not_neverDrops_long (not_le.mp long) never
  · rintro ⟨rfl, short⟩
    exact neverDrops_of_short sleeps short

/-- A framed client that sends a heartbeat every 5 seconds. -/
theorem neverDrops_fiveSeconds :
    NeverDrops .linux true 5 ↔ true = true ∧ Platform.linux.sleepTime 5 ≤ 19000 :=
  neverDrops_iff .linux true (by decide) (by decide)

/-- With an interval of 5000, the value of the constructor, `sleep` takes more than
an hour. -/
theorem not_neverDrops_default :
    ¬∀ (platform : Platform) (bIsHaveHead : Bool) (nHeartBeatInterval : Int),
      0 < nHeartBeatInterval → nHeartBeatInterval < 2147483648 →
        NeverDrops platform bIsHaveHead nHeartBeatInterval := by
  intro always
  have sleeps : 19000 < Platform.linux.sleepTime 5000 := by decide
  exact not_neverDrops_long sleeps (always .linux true 5000 (by decide) (by decide))

end TimedLink

end TransPortEngine
