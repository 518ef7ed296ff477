import TransPortEngine.Library.Ledger
import TransPortEngine.TcpClient.Threads

/-!
# How long the deletion of a client takes

`TcpClient_SocketUnit` waits for the heartbeat thread and then for the receive
thread before it closes the socket. Neither a flag nor a `close` by another
thread ends a `recv`, so that `TransPortEngine_DestroyClient` returns at once
when no thread is in `recv`, and otherwise only after the server has sent
something or has ended the connection.
-/

namespace TransPortEngine

open Transition

/-- A return of `recv`, which is up to the server. -/
def LinkLabel.isRecv : LinkLabel → Bool
  | .recv _ => true
  | _ => false

/-- How many steps a stage of the heartbeat thread is from its end, once its flag
has been cleared. -/
def KeepAliveStage.rank : KeepAliveStage → Nat
  | .returned => 0
  | .loop => 1
  | .joining => 2
  | .greeting => 2
  | .dropping => 3
  | .starting => 4
  | .connecting => 5
  | .woken => 6

/-- How many looks at its flag the receive thread still has to take. -/
def ReceiverStage.rank : ReceiverStage → Nat
  | .loop => 1
  | _ => 0

/-- How many steps `TcpClient_SocketUnit` still has to do. -/
def SocketUnitStage.rank : SocketUnitStage → Nat
  | .idle => 4
  | .joiningHeartbeat => 3
  | .stopping => 2
  | .joiningReceiver => 1
  | .returned => 0

namespace Link

/-- All the steps the client itself has still to do. -/
def rank (link : Link) : Nat :=
  link.keepAlive.rank + link.receiver.rank + link.socketUnit.rank

/-- No thread of the client can go on without the server. -/
def AtRest (link : Link) : Prop :=
  ∀ label, label.isRecv = false → linkStep link label = none

/-- Which thread has cleared which flag, and which one has returned. -/
structure Unwinding (link : Link) : Prop where
  begun : link.socketUnit ≠ .idle →
    link.client.bHeartbeatFlag = false ∨ link.keepAlive = .returned
  beating : link.socketUnit = .idle → link.client.bHeartbeatFlag = true
  returned : link.socketUnit ≠ .idle → link.socketUnit ≠ .joiningHeartbeat →
    link.keepAlive = .returned
  silenced : link.client.bRecvFlag = false → link.receiver.running = false ∨
    link.keepAlive = .joining ∨ link.socketUnit = .joiningReceiver
  dropped : link.keepAlive = .joining → link.client.bRecvFlag = false
  stopped : link.socketUnit = .joiningReceiver → link.client.bRecvFlag = false
  gone : link.socketUnit = .returned → link.receiver.running = false

variable {link next : Link}

/-- The heartbeat thread goes on: `TcpClient_SocketUnit` has not come past it. -/
theorem Unwinding.of_keepAlive
    (unwinding : link.Unwinding)
    (running : link.keepAlive ≠ .returned)
    (sameUnit : next.socketUnit = link.socketUnit)
    (sameFlag : next.client.bHeartbeatFlag = link.client.bHeartbeatFlag)
    (silenced : next.client.bRecvFlag = false →
      next.receiver.running = false ∨ next.keepAlive = .joining)
    (dropped : next.keepAlive = .joining → next.client.bRecvFlag = false) :
    next.Unwinding := by
  have early : link.socketUnit = .idle ∨ link.socketUnit = .joiningHeartbeat := by
    by_contra late
    rw [not_or] at late
    exact running (unwinding.returned late.1 late.2)
  refine ⟨?_, ?_, ?_, ?_, dropped, ?_, ?_⟩
  · intro begun
    rw [sameUnit] at begun
    exact Or.inl (sameFlag.trans ((unwinding.begun begun).resolve_right running))
  · exact fun idle => sameFlag.trans (unwinding.beating (sameUnit ▸ idle))
  · intro notIdle notJoining
    rw [sameUnit] at notIdle notJoining
    exact absurd early (not_or.mpr ⟨notIdle, notJoining⟩)
  · intro cleared
    rcases silenced cleared with stopped | joining
    · exact Or.inl stopped
    · exact Or.inr (Or.inl joining)
  · intro impossible
    rw [← sameUnit, impossible] at early
    rcases early with impossible | impossible
    · contradiction
    · contradiction
  · intro impossible
    rw [← sameUnit, impossible] at early
    rcases early with impossible | impossible
    · contradiction
    · contradiction

/-- It goes on, and has nothing to do with the receive thread. -/
theorem Unwinding.of_quiet
    (unwinding : link.Unwinding)
    (running : link.keepAlive ≠ .returned)
    (notJoining : link.keepAlive ≠ .joining)
    (sameUnit : next.socketUnit = link.socketUnit)
    (sameFlags : next.client.bHeartbeatFlag = link.client.bHeartbeatFlag ∧
      next.client.bRecvFlag = link.client.bRecvFlag)
    (sameReceiver : next.receiver = link.receiver)
    (notJoiningNext : next.keepAlive ≠ .joining) :
    next.Unwinding := by
  apply unwinding.of_keepAlive running sameUnit sameFlags.1
  · intro cleared
    rw [sameFlags.2] at cleared
    rcases unwinding.silenced cleared with stopped | joining | joining
    · exact Or.inl (sameReceiver ▸ stopped)
    · exact absurd joining notJoining
    · exact absurd (unwinding.returned (by simp [joining]) (by simp [joining]))
        running
  · exact fun joining => absurd joining notJoiningNext

/-- At rest the heartbeat thread has returned, or waits for the receive thread. -/
theorem AtRest.keepAlive (rest : link.AtRest) :
    link.keepAlive = .returned ∨
      link.keepAlive = .joining ∧ link.receiver.running = true := by
  have blocked : ∀ input, link.keepAliveStep input = none := fun input =>
    rest (.keepAlive input) rfl
  unfold keepAliveStep at blocked
  cases stage : link.keepAlive with
  | returned => exact Or.inl rfl
  | joining =>
      right
      have waits := blocked .next
      simp only [stage] at waits
      split at waits
      · rename_i running
        exact ⟨rfl, running⟩
      · contradiction
  | loop | dropping =>
      have goesOn := blocked .next
      simp only [stage] at goesOn
      contradiction
  | connecting =>
      have goesOn := blocked (.connect 1)
      simp only [stage] at goesOn
      contradiction
  | starting =>
      have goesOn := blocked (.create 0)
      simp only [stage] at goesOn
      contradiction
  | greeting =>
      have goesOn := blocked (.beat 0 0)
      simp only [stage] at goesOn
      contradiction
  | woken =>
      cases status : link.client.nLinkStatus with
      | disconnect =>
          have goesOn := blocked (.socket 0)
          simp only [stage, status] at goesOn
          contradiction
      | connect =>
          have goesOn := blocked (.beat 0 0)
          simp only [stage, status, if_true] at goesOn
          split at goesOn
          · contradiction
          · contradiction

/-- At rest the receive thread does not look at its flag. -/
theorem AtRest.receiver (rest : link.AtRest) : link.receiver ≠ .loop := by
  intro atLoop
  have goesOn : link.lookStep = none := rest .look rfl
  unfold lookStep at goesOn
  rw [atLoop] at goesOn
  contradiction

/-- At rest `TcpClient_SocketUnit` has returned, or waits for a thread. -/
theorem AtRest.socketUnit
    (rest : link.AtRest)
    (begun : link.socketUnit ≠ .idle) :
    link.socketUnit = .returned ∨
      link.socketUnit = .joiningHeartbeat ∧ link.keepAlive ≠ .returned ∨
        link.socketUnit = .joiningReceiver ∧ link.receiver.running = true := by
  have blocked : link.socketUnitStep = none := rest .socketUnit rfl
  unfold socketUnitStep at blocked
  dsimp only at blocked
  cases stage : link.socketUnit with
  | idle => exact absurd stage begun
  | returned => exact Or.inl rfl
  | joiningHeartbeat =>
      simp only [stage] at blocked
      split at blocked
      · contradiction
      · rename_i notReturned
        exact Or.inr (Or.inl ⟨rfl, notReturned⟩)
  | stopping =>
      simp only [stage] at blocked
      split at blocked
      · contradiction
      · contradiction
  | joiningReceiver =>
      simp only [stage] at blocked
      split at blocked
      · rename_i running
        exact Or.inr (Or.inr ⟨rfl, running⟩)
      · contradiction

/-- At rest a thread that runs is in `recv`. -/
theorem AtRest.running (rest : link.AtRest) :
    link.receiver.running = true ↔ link.receiver = .receiving := by
  have notLooking := rest.receiver
  cases stage : link.receiver with
  | loop => exact absurd stage notLooking
  | absent | returned => exact ⟨nofun, nofun⟩
  | receiving => exact ⟨fun _ => rfl, fun _ => rfl⟩

/-- Nothing starts a receive thread any more, and one that is not in `recv` does not
come back to it. -/
structure Ending (link : Link) : Prop where
  stopped : link.client.bRecvFlag = false
  keepAlive : link.keepAlive = .joining ∨ link.keepAlive = .loop ∨
    link.keepAlive = .returned
  beating : link.client.bHeartbeatFlag = false ∨ link.keepAlive = .returned

/-- At rest in `recv` the flag of the receive thread has been cleared. -/
theorem AtRest.ending
    (rest : link.AtRest)
    (begun : link.socketUnit ≠ .idle)
    (unwinding : link.Unwinding)
    (receiving : link.receiver = .receiving) :
    link.Ending := by
  have running := rest.running.mpr receiving
  rcases rest.keepAlive with returned | ⟨joining, -⟩
  · rcases rest.socketUnit begun with gone | ⟨-, notReturned⟩ | ⟨stopped, -⟩
    · rw [unwinding.gone gone] at running
      contradiction
    · exact absurd returned notReturned
    · exact ⟨unwinding.stopped stopped, Or.inr (Or.inr returned), Or.inr returned⟩
  · exact ⟨unwinding.dropped joining, Or.inl joining, unwinding.begun begun⟩

end Link

/-! ## With the joins -/

/-- A return of `recv`, which is up to the server. -/
def ThreadLabel.isRecv : ThreadLabel → Bool
  | .thread label => label.isRecv
  | _ => false

namespace ClientThreads

/-- No thread of the client can go on without the server. -/
def AtRest (threads : ClientThreads) : Prop :=
  ∀ label, label.isRecv = false → threads.step .linux label = none

variable {threads next : ClientThreads}

/-- At rest every join has been called, and the client itself is at rest. -/
theorem AtRest.link (rest : threads.AtRest) : threads.link.AtRest := by
  have called : threads.ledger.heartbeatJoin = false ∧
      threads.ledger.recvJoin = false := by
    constructor
    · by_contra pending
      have joins := rest .joinHeartbeat rfl
      rw [step, if_pos (Bool.not_eq_false _ ▸ pending)] at joins
      contradiction
    · by_contra pending
      have joins := rest .joinRecv rfl
      rw [step, if_pos (Bool.not_eq_false _ ▸ pending)] at joins
      contradiction
  intro label notRecv
  have free : threads.ledger.Free threads.link.control (Platform.linux.label label) := by
    unfold ThreadLedger.Free
    split
    · exact fun pending => absurd (called.2.symm.trans pending) (by decide)
    · exact ⟨called.1, fun pending => absurd (called.2.symm.trans pending) (by decide)⟩
    · trivial
  have blocked := rest (.thread label) notRecv
  rw [step, if_pos free, Option.map_eq_none_iff, Platform.label_linux] at blocked
  exact blocked

end ClientThreads

end TransPortEngine
