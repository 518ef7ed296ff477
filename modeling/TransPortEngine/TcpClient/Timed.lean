import TransPortEngine.TcpClient.Reconnect
import TransPortEngine.TcpClient.SocketInit

/-!
# Timed runs of a client

A client in heartbeat mode with a clock. The server sends each heartbeat back at
once, and what it sends is read before the clock goes on; the heartbeat thread
takes no time but in its sleep and while it connects.
-/

namespace TransPortEngine

open Framing MachineInt Transition

/-- The platforms differ in the unit of the sleep. The results of the Windows
calls are read as those of the Linux calls they stand in for. -/
inductive Platform
  | linux
  | windows
  deriving DecidableEq, Repr

/-- The sleep of the heartbeat thread in milliseconds: `sleep` counts seconds,
and `Sleep` milliseconds. -/
def Platform.sleepTime : Platform → Int → Nat
  | .linux, nHeartBeatInterval => 1000 * unsigned32 nHeartBeatInterval
  | .windows, nHeartBeatInterval => unsigned32 nHeartBeatInterval

/-- A client with a clock in milliseconds, the end of the last sleep of its
heartbeat thread, and what the server has sent and the client has not read. -/
structure TimedLink where
  link : Link
  clock : Nat
  wakes : Nat
  arrived : List UInt8

/-- A step of a thread, a payload of the server, or time that passes. -/
inductive TimedLabel
  | thread (label : LinkLabel)
  | serve (payload : Payload)
  | wait (millis : Nat)

namespace TimedLink

/-- `time(NULL)`. -/
def time (timed : TimedLink) : Int :=
  (timed.clock / 1000 : Nat)

/-- The heartbeat thread goes on exactly at the end of its sleep, heartbeats are
sent whole, and `recv` returns some of what has arrived. -/
def OnTime (timed : TimedLink) : LinkLabel → Prop
  | .keepAlive (.beat now nSent) =>
      (timed.link.keepAlive = .woken → timed.clock = timed.wakes) ∧
        now = timed.time ∧ nSent = sizeofHeadMsg
  | .keepAlive _ => timed.link.keepAlive = .woken → timed.clock = timed.wakes
  | .recv turn => turn.now = timed.time ∧ turn.bytes <+: timed.arrived
  | _ => True

instance (timed : TimedLink) (label : LinkLabel) :
    Decidable (timed.OnTime label) :=
  match label with
  | .keepAlive (.beat _ _) => inferInstanceAs (Decidable (_ ∧ _ ∧ _))
  | .keepAlive .next | .keepAlive (.socket _) | .keepAlive (.connect _)
  | .keepAlive (.create _) => inferInstanceAs (Decidable (_ → _))
  | .recv _ => inferInstanceAs (Decidable (_ ∧ _))
  | .look | .socketUnit => isTrue trivial

/-- A heartbeat that is sent comes back; a new connection begins empty. -/
def arrivedAfter (timed : TimedLink) (next : Link) : LinkLabel → List UInt8
  | .keepAlive (.beat _ _) =>
      if next.keepAlive = .loop then timed.arrived ++ TcpClient.sendHeartbeat
      else timed.arrived
  | .keepAlive (.connect _) => []
  | .recv turn => timed.arrived.drop turn.bytes.length
  | _ => timed.arrived

/-- The end of the sleep that may begin in a step. -/
def wakesAfter (platform : Platform) (timed : TimedLink) : LinkLabel → Nat
  | .keepAlive .next =>
      if timed.link.keepAlive = .loop then
        timed.clock + platform.sleepTime timed.link.client.nHeartBeatInterval
      else timed.wakes
  | _ => timed.wakes

/-- A thread has made a step. -/
def after
    (platform : Platform)
    (timed : TimedLink)
    (label : LinkLabel)
    (next : Link) : TimedLink where
  link := next
  clock := timed.clock
  wakes := timed.wakesAfter platform label
  arrived := timed.arrivedAfter next label

/-- The bytes of a payload of the server. -/
def servedBytes (timed : TimedLink) (payload : Payload) : List UInt8 :=
  if timed.link.client.bIsHaveHead then (dataFrame payload).symbols
  else payload.bytes

/-- One step of a timed run. -/
def step (platform : Platform) (timed : TimedLink) : TimedLabel → Option TimedLink
  | .thread label =>
      if timed.OnTime label then
        (linkStep timed.link label).map (timed.after platform label)
      else none
  | .serve payload =>
      if timed.link.client.nLinkStatus = .connect then
        some { timed with arrived := timed.arrived ++ timed.servedBytes payload }
      else none
  | .wait millis =>
      if timed.link.keepAlive ≠ .loop ∧
          (timed.link.receiver.running = true → timed.arrived = []) then
        some { timed with clock := timed.clock + millis }
      else none

/-- A client in heartbeat mode that has just been created. -/
def start
    (garbage : ClientGarbage)
    (bIsHaveHead : Bool)
    (nHeartBeatInterval : Int)
    (clock : Nat) : TimedLink where
  link := Link.createClient garbage ⟨true, bIsHaveHead, true, nHeartBeatInterval⟩
    ⟨0, 0, 0, 0⟩
  clock := clock
  wakes := clock
  arrived := []

/-- Receive threads are started, and `recv` neither fails nor ends. -/
def Undisturbed (_ : TimedLink) : TimedLabel → Prop
  | .thread (.keepAlive (.create nRet)) => nRet = 0
  | .thread (.recv turn) => turn.OfStream
  | _ => True

/-- The timeout branch of `TcpClient_KeepSessionAlive` is not taken in an
undisturbed run. -/
def NeverDrops
    (platform : Platform)
    (bIsHaveHead : Bool)
    (nHeartBeatInterval : Int) : Prop :=
  ∀ (garbage : ClientGarbage) (clock : Nat) (last : TimedLink),
    Reaches (step platform) Undisturbed
        (start garbage bIsHaveHead nHeartBeatInterval clock) last →
      last.link.keepAlive ≠ .dropping

end TimedLink

/-! ## The time stamp -/

namespace TcpClient

/-- A complete header that is that of an empty heartbeat sets the time stamp. -/
theorem tHeartbeatTimeStamp_finishHead
    (client : TcpClient)
    (headMsg : List UInt8)
    (now : Int) :
    (client.finishHead headMsg now).1.tHeartbeatTimeStamp =
      if (client.finishHead headMsg now).2 then now
      else client.tHeartbeatTimeStamp := by
  simp only [finishHead]
  split
  · split
    · rfl
    · rfl
  · split
    · split
      · rfl
      · rfl
    · rfl

theorem tHeartbeatTimeStamp_recvBody
    (client : TcpClient)
    (szRecvBuf : List UInt8)
    (now : Int) :
    let pass := client.recvBody szRecvBuf now
    pass.client.tHeartbeatTimeStamp =
      if Message.heartbeat ∈ messages pass.events then now
      else client.tHeartbeatTimeStamp := by
  unfold recvBody
  dsimp only
  generalize client.missingBody = missing
  split
  · rw [messages_append, messages_append, messages_assembleCopies]
    by_cases heartbeat : client.nMsgType = 0
    · rw [if_pos heartbeat]
      rfl
    · rw [if_neg heartbeat]
      split
      · rfl
      · rfl
  · split
    · rfl
    · rfl

theorem tHeartbeatTimeStamp_recvHead
    (client : TcpClient)
    (szRecvBuf : List UInt8)
    (now : Int) :
    let pass := client.recvHead szRecvBuf now
    pass.client.tHeartbeatTimeStamp =
      if Message.heartbeat ∈ messages pass.events then now
      else client.tHeartbeatTimeStamp := by
  simp only [recvHead]
  generalize signed32 client.missingHead = missing
  generalize (client.headBuf szRecvBuf).take sizeofHeadMsg = headMsg
  split
  · rw [messages_append, messages_append, messages_assembleCopies,
      tHeartbeatTimeStamp_finishHead]
    by_cases empty : (client.finishHead headMsg now).2 = true
    · rw [if_pos empty, if_pos empty]
      rfl
    · rw [if_neg empty, if_neg empty]
      rfl
  · split
    · rfl
    · rfl

/-- Data sets the time stamp when it completes a heartbeat. -/
theorem tHeartbeatTimeStamp_recvDataPass
    (client : TcpClient)
    (szRecvBuf : List UInt8)
    (now : Int) :
    let pass := client.recvDataPass szRecvBuf now
    pass.client.tHeartbeatTimeStamp =
      if Message.heartbeat ∈ messages pass.events then now
      else client.tHeartbeatTimeStamp := by
  dsimp only [recvDataPass]
  split
  · split
    · exact client.tHeartbeatTimeStamp_recvBody szRecvBuf now
    · exact client.tHeartbeatTimeStamp_recvHead szRecvBuf now
  · rw [recvRaw]
    split
    · rfl
    · rfl

theorem tHeartbeatTimeStamp_recvfromPass
    (client : TcpClient)
    (turn : RecvfromTurn) :
    (client.recvfromPass turn).client.tHeartbeatTimeStamp =
      if Message.heartbeat ∈ messages (client.recvfromPass turn).events
      then turn.now else client.tHeartbeatTimeStamp := by
  have requested : messages
      ((if client.bIsHaveHead then recvBufLocked [] else []) ++
        [EngineEvent.read client.nSocket]) = [] := by
    split <;> rfl
  unfold recvfromPass
  rw [messages_append, requested, List.nil_append]
  cases turn.recv with
  | closed => rfl
  | failed => rfl
  | data szRecvBuf nonempty =>
      exact client.tHeartbeatTimeStamp_recvDataPass szRecvBuf turn.now

/-- Data keeps the receive thread in its loop. -/
theorem leaves_recvfromPass
    (client : TcpClient)
    {turn : RecvfromTurn}
    (ofStream : turn.OfStream) :
    (client.recvfromPass turn).leaves = false := by
  unfold RecvfromTurn.OfStream at ofStream
  unfold recvfromPass
  cases recv : turn.recv with
  | closed =>
      rw [recv] at ofStream
      contradiction
  | failed =>
      rw [recv] at ofStream
      contradiction
  | data szRecvBuf nonempty =>
      simp only [recvDataPass, recvBody, recvHead, recvRaw,
        apply_ite RecvfromPass.leaves, ite_self]

/-- The decoder looks at a few members only. -/
theorem Follows.congr
    {state : State UInt8 HeadKind}
    {client other : TcpClient}
    (follows : Follows state client)
    (same : other.decoderMembers = client.decoderMembers)
    (running : other.bRecvFlag = client.bRecvFlag) :
    Follows state other := by
  simp only [decoderMembers, Prod.mk.injEq] at same
  obtain ⟨framed, receives, hasHead, cache, type, need⟩ := same
  cases state with
  | head seen =>
      simpa only [Follows, framed, receives, hasHead, cache, running]
        using follows
  | body head length seen =>
      simpa only [Follows, framed, receives, hasHead, cache, type, need, running]
        using follows

theorem Follows.members
    {state : State UInt8 HeadKind}
    {client : TcpClient}
    (follows : Follows state client) :
    client.bIsHaveHead = true ∧ client.bRecvFlag = true := by
  cases state with
  | head seen => exact ⟨follows.1, follows.2.2.1⟩
  | body head length seen => exact ⟨follows.1, follows.2.2.1⟩

end TcpClient

end TransPortEngine
