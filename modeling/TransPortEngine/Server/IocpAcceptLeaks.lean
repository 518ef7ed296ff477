import TransPortEngine.Library.Ledger
import TransPortEngine.Server.IocpAccept

/-!
# What the Windows accept loop leaves behind

`AcceptEx` is asked to receive nothing, so that a connection always comes with no
bytes, and the loop closes its socket. The other sockets the loop has made stay
open: those that `AcceptEx` refused, and those whose packet has failed or was
taken for another one.
-/

namespace TransPortEngine

open Transition

namespace AcceptLoop

/-- A socket is forgotten while it is open. -/
def forgets (loop : AcceptLoop) : AcceptInput → Nat
  | .post sockAccept posted =>
      if loop.bAcceptThreadFlag ∧ sockAccept.isSome ∧ posted = false then 1
      else 0
  | .completed _ _ => 0
  | .failed _ _ => 1
  | .shutdown _ => 1
  | .fini => 0

/-- One for the socket `AcceptEx` has. -/
def pending (loop : AcceptLoop) : Nat :=
  if loop.waiting then 1 else 0

/-- A loop that has made no session and closed every connection. -/
structure TurnsAway (bIsHeartbeat : Bool) (loop : AcceptLoop) : Prop where
  accepting : loop.Accepting
  mgr : loop.mgr = ⟨bIsHeartbeat, ∅⟩
  constructed : loop.constructed = 0
  exits : ∀ exit ∈ loop.exits, exit = .zeroBytes
  distinct : loop.openSockets.Nodup

theorem turnsAway_initial
    (memory : SessionId → IocpObject)
    (bIsHeartbeat : Bool) :
    (initial memory bIsHeartbeat).TurnsAway bIsHeartbeat where
  accepting := accepting_initial memory bIsHeartbeat
  mgr := rfl
  constructed := rfl
  exits _ impossible := absurd impossible List.not_mem_nil
  distinct := List.nodup_nil

variable {acceptSession : AcceptSession} {bIsHeartbeat : Bool}
  {loop next : AcceptLoop} {input : AcceptInput}

/-- Every step turns connections away. -/
theorem turnsAway_step
    (turnsAway : loop.TurnsAway bIsHeartbeat)
    (stepped : loop.step acceptSession input = some next) :
    next.TurnsAway bIsHeartbeat := by
  obtain ⟨accepting, mgr, constructed, exits, distinct⟩ := turnsAway
  have kept := accepting_step accepting stepped
  cases step_cases stepped with
  | ends | fails | wakes | stops | staysStopped =>
      exact ⟨kept, mgr, constructed, exits, distinct⟩
  | posts idle running fresh =>
      rename_i sockAccept posted
      cases sockAccept with
      | none => exact ⟨kept, mgr, constructed, exits, distinct⟩
      | some sockAccept =>
          refine ⟨kept, mgr, constructed, exits, ?_⟩
          apply List.nodup_cons.mpr
          exact ⟨fun opened => fresh ⟨sockAccept, rfl, opened⟩, distinct⟩
  | completes waits bounded =>
      rw [handlePacket_zeroBytes accepting.opType bounded] at kept ⊢
      refine ⟨kept, mgr, constructed, ?_, distinct.filter _⟩
      intro exit member
      rcases List.mem_append.mp member with earlier | last
      · exact exits exit earlier
      · exact List.mem_singleton.mp last

/-- Closing one of several distinct sockets. -/
theorem length_filter_closed
    {sockets : List Int}
    {socket : Int}
    (distinct : sockets.Nodup)
    (opened : socket ∈ sockets) :
    (sockets.filter (· ∉ [socket])).length + 1 = sockets.length := by
  have erased : sockets.filter (· ∉ [socket]) = sockets.erase socket := by
    rw [distinct.erase_eq_filter]
    apply List.filter_congr
    intro other _
    by_cases same : other = socket <;> simp [same]
  rw [erased]
  exact List.length_erase_add_one opened

/-- The open sockets `AcceptEx` does not have are the forgotten ones. -/
theorem openSockets_step
    (turnsAway : loop.TurnsAway bIsHeartbeat)
    (stepped : loop.step acceptSession input = some next) :
    ((next.openSockets.length : Int) - next.pending) + 0 =
      ((loop.openSockets.length : Int) - loop.pending) + loop.forgets input := by
  cases step_cases stepped with
  | ends idle stopped => simp [pending, forgets, stopped]
  | posts idle running fresh =>
      rename_i sockAccept posted
      cases sockAccept with
      | none => simp [post, pending, forgets, idle]
      | some sockAccept =>
          cases posted <;> simp [post, pending, forgets, idle, running]
  | completes waits bounded =>
      have closes := length_filter_closed turnsAway.distinct
        (turnsAway.accepting.opened waits)
      rw [handlePacket_zeroBytes turnsAway.accepting.opType bounded]
      simp only [pending, forgets, waits, if_true, Bool.false_eq_true, if_false]
      omega
  | fails waits => simp [pending, forgets, waits]
  | wakes waits => simp [handlePacket, pending, forgets, waits]
  | stops => simp [pending, forgets]
  | staysStopped => simp [forgets]

/-- In no run does the accept loop make a session: every connection it is told of
is closed. The sockets that stay open are the one `AcceptEx` has and one for each
socket that was refused and each packet that failed or came from
`AcceptSession_Fini`. -/
theorem accepts_nothing
    (acceptSession : AcceptSession)
    (memory : SessionId → IocpObject)
    (bIsHeartbeat : Bool)
    (inputs : List AcceptInput)
    (last : AcceptLoop)
    (reached : run (step acceptSession) (initial memory bIsHeartbeat) inputs =
      some last) :
    last.mgr = ⟨bIsHeartbeat, ∅⟩ ∧ last.constructed = 0 ∧
      (∀ exit ∈ last.exits, exit = .zeroBytes) ∧
      last.openSockets.Nodup ∧
      last.openSockets.length = last.pending +
        total (step acceptSession) forgets (initial memory bIsHeartbeat)
          inputs := by
  have start := turnsAway_initial memory bIsHeartbeat
  have kept : ∀ state input next, TurnsAway bIsHeartbeat state →
      step acceptSession state input = some next →
        TurnsAway bIsHeartbeat next :=
    fun _ _ _ turnsAway stepped => turnsAway_step turnsAway stepped
  have turnsAway := holds_of_run kept start reached
  have booked := balance_of_run
    (fun loop : AcceptLoop => (loop.openSockets.length : Int) - loop.pending)
    forgets (fun _ _ => 0) kept
    (fun _ _ _ turnsAway stepped => openSockets_step turnsAway stepped)
    start reached
  refine ⟨turnsAway.mgr, turnsAway.constructed, turnsAway.exits,
    turnsAway.distinct, ?_⟩
  have nothing : (initial memory bIsHeartbeat).openSockets.length = 0 ∧
      (initial memory bIsHeartbeat).pending = 0 := ⟨rfl, rfl⟩
  simp only [total_zero] at booked
  omega

/-- One connection is closed, one packet fails, and a third socket waits. -/
def closedFailedWaiting : List AcceptInput :=
  [.post (some 300) true,
    .completed 0 ⟨true, true, true, true, true, ⟨false, false, 0, 0⟩, 0⟩,
    .post (some 304) true,
    .failed errorNetnameDeleted false,
    .post (some 308) true]

theorem accepts_nothing_closedFailedWaiting :
    ∃ last, run (step oneModle)
        (initial (fun _ => IocpObject.construct ⟨false, false, 0, 0⟩ 0) false)
        closedFailedWaiting = some last ∧
      last.openSockets = [308, 304] ∧ last.constructed = 0 ∧
      last.openSockets.length = last.pending + 1 := by
  refine ⟨_, rfl, rfl, ?_⟩
  obtain ⟨-, constructed, -, -, opened⟩ := accepts_nothing oneModle
    (fun _ => IocpObject.construct ⟨false, false, 0, 0⟩ 0) false
    closedFailedWaiting _ rfl
  exact ⟨constructed, opened⟩

end AcceptLoop

end TransPortEngine
