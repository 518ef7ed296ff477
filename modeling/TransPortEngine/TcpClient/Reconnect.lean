import TransPortEngine.Library.Transition
import TransPortEngine.TcpClient.KeepAlive

/-!
# Reconnecting

A new receive thread goes on with the header flag, the announced length and the
cache that the one before it has left. The payloads of a connection depend on
its own bytes alone as long as every connection is dropped between two frames,
and no header announces a heartbeat of negative length.
-/

namespace TransPortEngine

open Framing Transition

namespace TcpClient

/-- The members the decoder position consists of. -/
def decoderMembers (client : TcpClient) :
    Bool × Bool × Bool × List BufInfo × Int × Int :=
  (client.bIsHaveHead, client.hasTransPortEngineRecv, client.bIsRecvHead,
    client.recvBufs, client.nMsgType, client.nNeedRecvDataLen)

/-- Other members do not matter to the decoder. -/
theorem Decodes.congr
    {state : State UInt8 ClientHead}
    {client other : TcpClient}
    (decodes : Decodes state client)
    (same : other.decoderMembers = client.decoderMembers) :
    Decodes state other := by
  simp only [decoderMembers, Prod.mk.injEq] at same
  obtain ⟨framed, receives, hasHead, cache, type, need⟩ := same
  cases state with
  | head seen => simpa only [Decodes, framed, receives, hasHead, cache] using decodes
  | body head length seen =>
      simpa only [Decodes, framed, receives, hasHead, cache, type, need]
        using decodes

theorem Decodes.framed
    {state : State UInt8 ClientHead}
    {client : TcpClient}
    (decodes : Decodes state client) :
    client.bIsHaveHead = true ∧ client.hasTransPortEngineRecv = true := by
  cases state with
  | head seen => exact ⟨decodes.1, decodes.2.1⟩
  | body head need seen => exact ⟨decodes.1, decodes.2.1⟩

/-- Receiving leaves the link status. -/
theorem nLinkStatus_recvfromPass (client : TcpClient) (turn : RecvfromTurn) :
    (client.recvfromPass turn).client.nLinkStatus = client.nLinkStatus :=
  congrArg (·.2.1) (client.linkMembers_recvfromPass turn)

end TcpClient

namespace Link

variable {link next : Link}

/-! ## Steps -/

/-- What the heartbeat thread can do. -/
inductive KeepAliveStep (link : Link) : KeepAliveInput → Link → Prop
  | wakes
      (stage : link.keepAlive = .loop)
      (flag : link.client.bHeartbeatFlag = true) :
      KeepAliveStep link .next { link with keepAlive := .woken }
  | returns
      (stage : link.keepAlive = .loop)
      (flag : link.client.bHeartbeatFlag = false) :
      KeepAliveStep link .next { link with keepAlive := .returned }
  | noSocket
      {nSocket : Int}
      (stage : link.keepAlive = .woken)
      (disconnected : link.client.nLinkStatus = .disconnect)
      (failed : nSocket ≤ 0) :
      KeepAliveStep link (.socket nSocket)
        { link with
          client := { link.client with nSocket := nSocket }
          keepAlive := .loop }
  | socket
      {nSocket : Int}
      (stage : link.keepAlive = .woken)
      (disconnected : link.client.nLinkStatus = .disconnect)
      (positive : 0 < nSocket) :
      KeepAliveStep link (.socket nSocket)
        { link with
          client := { link.client with nSocket := nSocket }
          keepAlive := .connecting }
  | refused
      {nRet : Int}
      (stage : link.keepAlive = .connecting)
      (failed : nRet ≠ 0) :
      KeepAliveStep link (.connect nRet) { link with keepAlive := .loop }
  | connected
      (stage : link.keepAlive = .connecting) :
      KeepAliveStep link (.connect 0)
        { link with
          client := { link.client with nLinkStatus := .connect }
          events := link.events ++ link.client.notify .connect
          keepAlive := .starting }
  | creates
      {nRet : Int}
      (stage : link.keepAlive = .starting) :
      KeepAliveStep link (.create nRet) (link.createRecvThread nRet)
  | greets
      {now : Int}
      {nSent : Nat}
      (stage : link.keepAlive = .greeting) :
      KeepAliveStep link (.beat now nSent)
        (sendHeartbeat
          { link with client := { link.client with tHeartbeatTimeStamp := now } }
          nSent)
  | timesOut
      {now : Int}
      {nSent : Nat}
      (stage : link.keepAlive = .woken)
      (connected : link.client.nLinkStatus = .connect)
      (expired : link.client.sessionTimeout now = true) :
      KeepAliveStep link (.beat now nSent)
        { link with
          client := { link.client with nLinkStatus := .disconnect }
          events := link.events ++ link.client.notify .disconnect
          keepAlive := .dropping }
  | beats
      {now : Int}
      {nSent : Nat}
      (stage : link.keepAlive = .woken)
      (connected : link.client.nLinkStatus = .connect)
      (inTime : link.client.sessionTimeout now = false) :
      KeepAliveStep link (.beat now nSent) (link.sendHeartbeat nSent)
  | drops
      (stage : link.keepAlive = .dropping) :
      KeepAliveStep link .next
        { link with
          client := { link.client with bRecvFlag := false }
          events := link.events ++ [.close link.client.nSocket]
          keepAlive := .joining }
  | joins
      (stage : link.keepAlive = .joining)
      (joined : link.receiver.running = false) :
      KeepAliveStep link .next { link with keepAlive := .loop }

theorem keepAliveStep_cases
    {input : KeepAliveInput}
    (stepped : link.keepAliveStep input = some next) :
    KeepAliveStep link input next := by
  unfold keepAliveStep at stepped
  dsimp only at stepped
  split at stepped
  · rename_i stage
    split at stepped
    · rename_i flag
      exact Option.some.inj stepped ▸ .wakes stage flag
    · rename_i flag
      exact Option.some.inj stepped ▸
        .returns stage (Bool.eq_false_iff.mpr flag)
  · rename_i nSocket stage
    split at stepped
    · rename_i disconnected
      split at stepped
      · rename_i failed
        exact Option.some.inj stepped ▸ .noSocket stage disconnected failed
      · rename_i failed
        exact Option.some.inj stepped ▸
          .socket stage disconnected (not_le.mp failed)
    · contradiction
  · rename_i nRet stage
    split at stepped
    · rename_i failed
      exact Option.some.inj stepped ▸ .refused stage failed
    · rename_i success
      obtain rfl := not_not.mp success
      exact Option.some.inj stepped ▸ .connected stage
  · rename_i nRet stage
    exact Option.some.inj stepped ▸ .creates stage
  · rename_i now nSent stage
    exact Option.some.inj stepped ▸ .greets stage
  · rename_i now nSent stage
    split at stepped
    · rename_i connected
      split at stepped
      · rename_i expired
        exact Option.some.inj stepped ▸ .timesOut stage connected expired
      · rename_i inTime
        exact Option.some.inj stepped ▸
          .beats stage connected (Bool.eq_false_iff.mpr inTime)
    · contradiction
  · rename_i stage
    exact Option.some.inj stepped ▸ .drops stage
  · rename_i stage
    split at stepped
    · contradiction
    · rename_i joined
      exact Option.some.inj stepped ▸
        .joins stage (Bool.eq_false_iff.mpr joined)
  · contradiction

/-- What `TcpClient_SocketUnit` can do. -/
inductive SocketUnitStep (link : Link) : Link → Prop
  | stopsHeartbeat
      (stage : link.socketUnit = .idle)
      (flag : link.client.bHeartbeatFlag = true) :
      SocketUnitStep link
        { link with
          client := { link.client with bHeartbeatFlag := false }
          socketUnit := .joiningHeartbeat }
  | noHeartbeat
      (stage : link.socketUnit = .idle)
      (flag : link.client.bHeartbeatFlag = false) :
      SocketUnitStep link { link with socketUnit := .stopping }
  | joinsHeartbeat
      (stage : link.socketUnit = .joiningHeartbeat)
      (returned : link.keepAlive = .returned) :
      SocketUnitStep link { link with socketUnit := .stopping }
  | stopsReceiver
      (stage : link.socketUnit = .stopping)
      (flag : link.client.bRecvFlag = true) :
      SocketUnitStep link
        { link with
          client := { link.client with bRecvFlag := false }
          socketUnit := .joiningReceiver }
  | noReceiver
      (stage : link.socketUnit = .stopping)
      (flag : link.client.bRecvFlag = false) :
      SocketUnitStep link link.closeSocket
  | joinsReceiver
      (stage : link.socketUnit = .joiningReceiver)
      (joined : link.receiver.running = false) :
      SocketUnitStep link link.closeSocket

theorem socketUnitStep_cases (stepped : link.socketUnitStep = some next) :
    SocketUnitStep link next := by
  unfold socketUnitStep at stepped
  dsimp only at stepped
  split at stepped
  · rename_i stage
    split at stepped
    · rename_i flag
      exact Option.some.inj stepped ▸ .stopsHeartbeat stage flag
    · rename_i flag
      exact Option.some.inj stepped ▸
        .noHeartbeat stage (Bool.eq_false_iff.mpr flag)
  · rename_i stage
    split at stepped
    · rename_i returned
      exact Option.some.inj stepped ▸ .joinsHeartbeat stage returned
    · contradiction
  · rename_i stage
    split at stepped
    · rename_i flag
      exact Option.some.inj stepped ▸ .stopsReceiver stage flag
    · rename_i flag
      exact Option.some.inj stepped ▸
        .noReceiver stage (Bool.eq_false_iff.mpr flag)
  · rename_i stage
    split at stepped
    · contradiction
    · rename_i joined
      exact Option.some.inj stepped ▸
        .joinsReceiver stage (Bool.eq_false_iff.mpr joined)
  · contradiction

/-- The heartbeat thread starts a receive thread, or does nothing that matters
to the receive thread. -/
theorem keepAliveStep_frame
    {input : KeepAliveInput}
    (stepped : link.keepAliveStep input = some next) :
    (next.client.decoderMembers = link.client.decoderMembers ∧
        next.receiver = link.receiver ∧ next.connections = link.connections) ∨
      ∃ nRet, input = .create nRet ∧ next = link.createRecvThread nRet := by
  cases keepAliveStep_cases stepped with
  | creates => exact Or.inr ⟨_, rfl, rfl⟩
  | wakes | returns | noSocket | socket | refused | connected | greets | timesOut
  | beats | drops | joins =>
      exact Or.inl ⟨rfl, rfl, rfl⟩

/-- `TcpClient_SocketUnit` changes two flags only. -/
theorem socketUnitStep_frame (stepped : link.socketUnitStep = some next) :
    next.client.decoderMembers = link.client.decoderMembers ∧
      next.client.nLinkStatus = link.client.nLinkStatus ∧
        next.keepAlive = link.keepAlive ∧ next.receiver = link.receiver ∧
          next.connections = link.connections := by
  cases socketUnitStep_cases stepped with
  | stopsHeartbeat | noHeartbeat | joinsHeartbeat | stopsReceiver | noReceiver
  | joinsReceiver =>
      exact ⟨rfl, rfl, rfl, rfl, rfl⟩

/-- A look at the flag is one of a running thread, and changes nothing else. -/
theorem lookStep_cases (stepped : link.lookStep = some next) :
    link.receiver = .loop ∧ next = { link with
      receiver := if link.client.bRecvFlag then .receiving else .returned } := by
  unfold lookStep at stepped
  split at stepped
  · rename_i atLoop
    exact ⟨atLoop, (Option.some.inj stepped).symm⟩
  · contradiction

/-- What `recv` returns was asked for, and is handled in one pass. -/
theorem recvStep_eq_some
    {turn : RecvfromTurn}
    (stepped : link.recvStep turn = some next) :
    let pass := link.client.recvfromPass turn
    link.receiver = .receiving ∧
      turn.bytes.length ≤ link.client.recvRequest ∧
        next = { link with
          client := pass.client
          receiver := if pass.leaves then .returned else .loop
          events := link.events ++ pass.events
          connections := record turn (deliveries pass.events)
            link.connections } := by
  unfold recvStep at stepped
  split at stepped
  · rename_i receiving
    split at stepped
    · rename_i granted
      exact ⟨receiving, granted, (Option.some.inj stepped).symm⟩
    · contradiction
  · contradiction

theorem recvStep_cases
    {turn : RecvfromTurn}
    (stepped : link.recvStep turn = some next) :
    link.receiver = .receiving ∧
      turn.bytes.length ≤ link.client.recvRequest ∧
        next.client = (link.client.recvfromPass turn).client ∧
          next.keepAlive = link.keepAlive ∧
            next.connections = record turn
              (deliveries (link.client.recvfromPass turn).events)
              link.connections := by
  obtain ⟨receiving, granted, rfl⟩ := recvStep_eq_some stepped
  exact ⟨receiving, granted, rfl, rfl, rfl⟩

/-! ## One receive thread -/

/-- As long as the client is not connected there is no running receive thread,
except while the heartbeat thread waits for its end. -/
def Alone (nLinkStatus : MsgType) (running : Bool) : KeepAliveStage → Prop
  | .loop | .woken => nLinkStatus = .disconnect → running = false
  | .connecting => running = false
  | .starting => nLinkStatus = .connect ∧ running = false
  | .greeting => nLinkStatus = .connect
  | _ => True

/-- A receive thread is started only when none is running. -/
def OneReceiver (link : Link) : Prop :=
  Alone link.client.nLinkStatus link.receiver.running link.keepAlive

theorem Alone.of_running
    {nLinkStatus : MsgType}
    {running : Bool}
    {stage : KeepAliveStage}
    (alone : Alone nLinkStatus true stage) :
    Alone nLinkStatus running stage := by
  cases stage with
  | loop | woken =>
      intro disconnected
      exact absurd (alone disconnected) (by decide)
  | connecting =>
      have impossible : true = false := alone
      contradiction
  | starting =>
      have impossible : true = false := alone.2
      contradiction
  | greeting => exact alone
  | dropping | joining | returned => trivial

theorem oneReceiver_keepAliveStep
    {input : KeepAliveInput}
    (one : link.OneReceiver)
    (stepped : link.keepAliveStep input = some next) :
    next.OneReceiver := by
  -- a connected client may have a running receive thread
  have atLoop : link.client.nLinkStatus = .connect →
      Alone link.client.nLinkStatus link.receiver.running .loop :=
    fun connected disconnected =>
      absurd (connected.symm.trans disconnected) (by decide)
  unfold OneReceiver at one
  cases keepAliveStep_cases stepped with
  | wakes stage =>
      rw [stage] at one
      exact one
  | noSocket stage =>
      rw [stage] at one
      exact one
  | socket stage disconnected =>
      rw [stage] at one
      exact one disconnected
  | refused stage =>
      rw [stage] at one
      exact fun _ => one
  | connected stage =>
      rw [stage] at one
      exact ⟨rfl, one⟩
  | creates stage =>
      rename_i nRet
      rw [stage] at one
      have connected : link.client.nLinkStatus = .connect := one.1
      unfold OneReceiver createRecvThread
      dsimp only
      split
      · rename_i success
        rw [if_neg (by omega)]
        exact connected
      · dsimp only
        split
        · exact atLoop connected
        · exact connected
  | greets stage =>
      rw [stage] at one
      exact atLoop one
  | beats stage connected => exact atLoop connected
  | joins stage joined => exact fun _ => joined
  | returns | timesOut | drops => trivial

theorem oneReceiver_linkStep
    {label : LinkLabel}
    (one : link.OneReceiver)
    (stepped : linkStep link label = some next) :
    next.OneReceiver := by
  cases label with
  | keepAlive input => exact oneReceiver_keepAliveStep one stepped
  | look =>
      obtain ⟨atLoop, nextEq⟩ := lookStep_cases stepped
      rw [OneReceiver, atLoop] at one
      rw [nextEq]
      exact one.of_running
  | recv turn =>
      obtain ⟨receiving, -, client, stage, -⟩ := recvStep_cases stepped
      rw [OneReceiver, receiving] at one
      rw [OneReceiver, client, stage, TcpClient.nLinkStatus_recvfromPass]
      exact one.of_running
  | socketUnit =>
      obtain ⟨-, status, stage, running, -⟩ := socketUnitStep_frame stepped
      rw [OneReceiver, status, stage, running]
      exact one

/-- Whenever the heartbeat thread starts a receive thread, the one before it has
returned. -/
theorem not_running_of_starting
    (garbage : ClientGarbage)
    (nHeartBeatInterval : Int)
    (labels : List LinkLabel)
    {last : Link}
    (reached : run linkStep (initial garbage nHeartBeatInterval) labels =
      some last)
    (starting : last.keepAlive = .starting) :
    last.receiver.running = false := by
  have start : (initial garbage nHeartBeatInterval).OneReceiver := fun _ => rfl
  have one : last.OneReceiver := invariant_of_run
    (fun _ _ _ one _ stepped => oneReceiver_linkStep one stepped) start
    (throughout_of_forall fun _ _ _ => trivial) reached
  rw [OneReceiver, starting] at one
  exact one.2

/-! ## What connections deliver -/

/-- A receive thread starts between two frames, when the one before it has returned
(`not_running_of_starting`), and no header announces a heartbeat of negative
length. -/
def StartsClean (link : Link) : LinkLabel → Prop
  | .keepAlive (.create _) =>
      link.client.bIsRecvHead = false ∧ link.client.recvBufs = []
  | .recv turn => ¬link.client.CompletesNegative turn.bytes
  | _ => True

instance (link : Link) (label : LinkLabel) :
    Decidable (link.StartsClean label) :=
  match label with
  | .keepAlive (.create _) => inferInstanceAs (Decidable (_ ∧ _))
  | .recv _ => inferInstanceAs (Decidable (¬_))
  | .keepAlive .next | .keepAlive (.socket _) | .keepAlive (.connect _)
  | .keepAlive (.beat _ _) | .look | .socketUnit => isTrue trivial

/-- Every connection delivers what a new client delivers for its bytes, in
whatever pieces the new client gets them. -/
def DecodesAlone (link : Link) : Prop :=
  ∀ connection ∈ link.connections,
    ∀ (garbage : ClientGarbage) (nHeartBeatInterval : Int)
      (turns : List RecvfromTurn),
    let client :=
      (TcpClient.construct garbage).configure true true nHeartBeatInterval
    (∀ turn ∈ turns, turn.OfStream) → client.Granted turns →
      turns.flatMap RecvfromTurn.bytes = connection.bytes →
        connection.payloads = deliveries (client.recvfrom turns).events

/-- A connection has delivered what its bytes decode to. -/
def Decoded (connection : Connection) : Prop :=
  Sane (.head []) connection.bytes ∧
    connection.payloads = decodedPayloads (.head []) connection.bytes

/-- All connections have, and a running receive thread is where the decoder is
on the bytes of its own connection. -/
structure Faithful (link : Link) : Prop where
  framed : link.client.bIsHaveHead = true
  receives : link.client.hasTransPortEngineRecv = true
  decoded : ∀ connection ∈ link.connections, Decoded connection
  follows : link.receiver.running = true →
    ∃ connection connections, link.connections = connection :: connections ∧
      TcpClient.Decodes (clientFormat.feed (.head []) connection.bytes).1
        link.client

theorem faithful_initial (garbage : ClientGarbage) (nHeartBeatInterval : Int) :
    (initial garbage nHeartBeatInterval).Faithful := by
  refine ⟨rfl, rfl, fun connection none => ?_, fun impossible => ?_⟩
  · contradiction
  · contradiction

/-- The steps of other threads do not matter. -/
theorem Faithful.congr
    (faithful : link.Faithful)
    (members : next.client.decoderMembers = link.client.decoderMembers)
    (running : next.receiver.running = true → link.receiver.running = true)
    (connections : next.connections = link.connections) :
    next.Faithful := by
  have same := members
  simp only [TcpClient.decoderMembers, Prod.mk.injEq] at same
  refine ⟨same.1.trans faithful.framed, same.2.1.trans faithful.receives,
    ?_, fun runs => ?_⟩
  · rw [connections]
    exact faithful.decoded
  · obtain ⟨connection, others, first, decodes⟩ := faithful.follows (running runs)
    exact ⟨connection, others, connections.trans first, decodes.congr members⟩

/-- A receive thread that starts between two frames starts with the decoder. -/
theorem Faithful.createRecvThread
    (faithful : link.Faithful)
    (clean : link.client.bIsRecvHead = false ∧ link.client.recvBufs = [])
    (nRet : Int) :
    (link.createRecvThread nRet).Faithful := by
  unfold Link.createRecvThread
  dsimp only
  split
  · refine ⟨faithful.framed, faithful.receives, ?_, fun _ => ?_⟩
    · intro connection member
      rcases List.mem_cons.mp member with rfl | earlier
      · exact ⟨fun output none => by contradiction, rfl⟩
      · exact faithful.decoded connection earlier
    · exact ⟨⟨[], []⟩, _, rfl, TcpClient.decodes_start faithful.framed
        faithful.receives clean.1 clean.2⟩
  · exact faithful.congr rfl id rfl

/-- The receive thread moves with the decoder. -/
theorem Faithful.recvStep
    {turn : RecvfromTurn}
    (faithful : link.Faithful)
    (nonnegative : ¬link.client.CompletesNegative turn.bytes)
    (stepped : link.recvStep turn = some next) :
    next.Faithful := by
  obtain ⟨receiving, granted, clientEq, -, connectionsEq⟩ :=
    recvStep_cases stepped
  have runs : link.receiver.running = true := by rw [receiving]; rfl
  obtain ⟨connection, others, first, decodes⟩ := faithful.follows runs
  have sane := decodes.sane granted nonnegative
  obtain ⟨decodes', emitted, -⟩ := decodes.recvfromPass granted sane
  have bytes : (⟨connection.turns ++ [turn], connection.payloads ++ deliveries
      (link.client.recvfromPass turn).events⟩ : Connection).bytes =
        connection.bytes ++ turn.bytes := by
    simp [Connection.bytes]
  rw [first] at connectionsEq
  rw [← clientEq] at decodes'
  have members := decodes'.framed
  refine ⟨members.1, members.2, ?_, fun _ => ?_⟩
  · rw [connectionsEq]
    intro other member
    rcases List.mem_cons.mp member with rfl | earlier
    · obtain ⟨saneBefore, payloads⟩ :=
        faithful.decoded connection (first ▸ List.mem_cons_self)
      refine ⟨?_, ?_⟩
      · rw [bytes]
        exact sane_append.mpr ⟨saneBefore, sane⟩
      · rw [bytes, decodedPayloads_append, ← payloads, ← emitted]
    · exact faithful.decoded other (first ▸ List.mem_cons_of_mem _ earlier)
  · refine ⟨_, others, connectionsEq, ?_⟩
    rw [bytes, Format.feed_append]
    exact decodes'

theorem Faithful.linkStep
    {label : LinkLabel}
    (faithful : link.Faithful)
    (clean : link.StartsClean label)
    (stepped : TransPortEngine.linkStep link label = some next) :
    next.Faithful := by
  cases label with
  | keepAlive input =>
      rcases keepAliveStep_frame stepped with
        ⟨members, receiver, connections⟩ | ⟨nRet, rfl, rfl⟩
      · exact faithful.congr members (fun runs => receiver ▸ runs) connections
      · exact faithful.createRecvThread clean nRet
  | look =>
      obtain ⟨atLoop, rfl⟩ := lookStep_cases stepped
      exact faithful.congr rfl (fun _ => by rw [atLoop]; rfl) rfl
  | recv turn => exact faithful.recvStep clean stepped
  | socketUnit =>
      obtain ⟨members, -, -, receiver, connections⟩ :=
        socketUnitStep_frame stepped
      exact faithful.congr members (fun runs => receiver ▸ runs) connections

theorem Faithful.decodesAlone (faithful : link.Faithful) :
    link.DecodesAlone := by
  intro connection member garbage nHeartBeatInterval turns client ofStream
    granted bytes
  obtain ⟨sane, payloads⟩ := faithful.decoded connection member
  have start := TcpClient.decodes_configure garbage true nHeartBeatInterval
  rw [payloads, ← bytes]
  exact (start.recvfrom rfl granted ofStream (bytes ▸ sane)).symm

/-- When every receive thread starts between two frames, each connection
delivers what a new client delivers for its bytes. -/
theorem decodesAlone_of_startsClean
    (garbage : ClientGarbage)
    (nHeartBeatInterval : Int)
    (labels : List LinkLabel)
    (condition : Throughout TransPortEngine.linkStep StartsClean
      (initial garbage nHeartBeatInterval) labels)
    {last : Link}
    (reached : run TransPortEngine.linkStep
      (initial garbage nHeartBeatInterval) labels = some last) :
    last.DecodesAlone := by
  have faithful : last.Faithful := invariant_of_run
    (fun _ _ _ faithful clean stepped => faithful.linkStep clean stepped)
    (faithful_initial garbage nHeartBeatInterval) condition reached
  exact faithful.decodesAlone

/-! ### A connection lost in the middle of a header -/

/-- The heartbeat thread connects and starts a receive thread. -/
def connectLabels : List LinkLabel :=
  [.keepAlive .next, .keepAlive (.socket 3), .keepAlive (.connect 0),
    .keepAlive (.create 0), .keepAlive (.beat 0 8)]

/-- The receive thread gets some bytes. -/
def recvLabels
    (szRecvBuf : List UInt8)
    (nonempty : 0 < szRecvBuf.length) : List LinkLabel :=
  [.look, .recv ⟨.data szRecvBuf nonempty, 0⟩]

/-- The connection is lost, and the heartbeat thread drops it after the
timeout. -/
def dropLabels : List LinkLabel :=
  [.look, .recv ⟨.failed, 0⟩, .keepAlive .next, .keepAlive (.beat 20 8),
    .keepAlive .next, .keepAlive .next]

/-- The header of a payload of one byte. -/
def oneByteHead : List UInt8 :=
  [0x44, 0x54, 0, 0, 0, 0, 0, 1]

/-- Two connections with a payload each, the first one dropped behind it. -/
def cleanLabels : List LinkLabel :=
  connectLabels ++ recvLabels oneByteHead (by decide) ++
    recvLabels letterA.bytes letterA.nonempty ++ dropLabels ++
    connectLabels ++ recvLabels oneByteHead (by decide) ++
    recvLabels letterA.bytes letterA.nonempty

/-- The first connection is lost behind one byte of a header. -/
def cutHeaderLabels : List LinkLabel :=
  connectLabels ++ recvLabels [0x44] (by decide) ++ dropLabels ++
    connectLabels ++ recvLabels (oneByteHead.take 7) (by decide) ++
    recvLabels (oneByteHead.drop 7) (by decide) ++
    recvLabels letterA.bytes letterA.nonempty

theorem decodesAlone_cleanLabels :
    ∃ last, run TransPortEngine.linkStep (initial ⟨0, 0, 0⟩ 5) cleanLabels =
        some last ∧ last.connections.length = 2 ∧ last.DecodesAlone := by
  refine ⟨_, rfl, rfl, decodesAlone_of_startsClean ⟨0, 0, 0⟩ 5 cleanLabels ?_ rfl⟩
  simp only [cleanLabels, connectLabels, recvLabels, dropLabels,
    List.cons_append, List.nil_append]
  -- until the first receive thread starts
  iterate 3 refine throughout_cons rfl trivial ?_
  refine throughout_cons rfl ⟨rfl, rfl⟩ ?_
  apply throughout_cons rfl trivial
  iterate 3
    apply throughout_cons rfl trivial
    apply throughout_cons rfl (by decide)
  -- until the second one starts
  iterate 7 refine throughout_cons rfl trivial ?_
  refine throughout_cons rfl ⟨rfl, rfl⟩ ?_
  apply throughout_cons rfl trivial
  iterate 2
    apply throughout_cons rfl trivial
    apply throughout_cons rfl (by decide)
  trivial

/-- The byte left over from the first connection is put before the header of the
payload on the second. -/
theorem not_decodesAlone_cutHeader :
    ¬∀ (garbage : ClientGarbage) (nHeartBeatInterval : Int)
        (labels : List LinkLabel) (last : Link),
      run TransPortEngine.linkStep (initial garbage nHeartBeatInterval) labels =
          some last →
        last.DecodesAlone := by
  intro always
  have alone := always ⟨0, 0, 0⟩ 5 cutHeaderLabels _ rfl
  have same := alone _ List.mem_cons_self ⟨0, 0, 0⟩ 5
    [⟨.data (oneByteHead.take 7) (by decide), 0⟩,
      ⟨.data (oneByteHead.drop 7) (by decide), 0⟩,
      ⟨.data letterA.bytes letterA.nonempty, 0⟩]
    (by simp [RecvfromTurn.OfStream])
    ⟨by decide, by decide, by decide, trivial⟩ rfl
  exact absurd same (by decide)

end Link

end TransPortEngine
