import TransPortEngine.Library.Ledger

/-!
# Stopping a module on Windows

`NetEventModleIOCP_Fini` clears the flag of one worker after the other and posts a
packet for each, then it waits for the workers in turn. A packet is not addressed:
whichever worker dequeues it finds no session for socket 0 and goes back to the
head of its loop, and ends there only if its own flag has been cleared by then.
A worker whose flag is still set has used up the packet of another one.

The module is one without registered sessions: what completes belongs to sessions
that are gone. `TcpSessionMgr_HeartbeatDetection` has then nothing to delete and
gives `m_TcpSessionMgrLock` back without asking for `m_NetEventModleLock`, so that
`TcpSessionMgr_FindSession` always returns. With a session that has timed out the
two locks and the join of a worker can form a circle, which is left out here.
-/

namespace TransPortEngine

open Transition

/-- Where a worker is in `NetEventModleIOCP_HandleData`: about to test its flag, in
`GetQueuedCompletionStatus`, with a completion of a session, or behind the
loop. -/
inductive IocpStage
  | loop
  | waiting
  | handling
  | ended
  deriving DecidableEq, Repr

/-- Where `NetEventModleIOCP_Fini` is. It has not begun as long as it has to clear
the first flag. -/
inductive IocpFiniStage
  | clear (index : Nat)
  | post (index : Nat)
  | wait (index : Nat)
  | returned
  deriving DecidableEq, Repr

/-- A module with its workers and the content of `m_hHandleDataIOCP`: the packets
of `PostQueuedCompletionStatus` and the completions of sessions. -/
structure IocpModle where
  nNetEventModleThreadCount : Nat
  bWorkThreadFlag : Nat → Bool
  stage : Nat → IocpStage
  packets : Nat
  completions : Nat
  fini : IocpFiniStage

/-- A step of the module. -/
inductive IocpModleLabel
  | arrive
  | look (worker : Nat)
  | takePacket (worker : Nat)
  | takeCompletion (worker : Nat)
  | handled (worker : Nat)
  | fini
  deriving DecidableEq, Repr

namespace IocpModle

/-- Put a worker to another stage. -/
def setStage (modle : IocpModle) (worker : Nat) (stage : IocpStage) : IocpModle :=
  { modle with stage := Function.update modle.stage worker stage }

/-- The next step of `NetEventModleIOCP_Fini`; none while it waits for a worker. -/
def finiStep (modle : IocpModle) : Option IocpModle :=
  match modle.fini with
  | .clear index =>
      if index < modle.nNetEventModleThreadCount then
        some { modle with
          bWorkThreadFlag := Function.update modle.bWorkThreadFlag index false
          fini := .post index }
      else some { modle with fini := .wait 0 }
  | .post index =>
      some { modle with
        packets := modle.packets + 1
        fini := .clear (index + 1) }
  | .wait index =>
      if index < modle.nNetEventModleThreadCount then
        if modle.stage index = .ended then
          some { modle with fini := .wait (index + 1) }
        else none
      else some { modle with fini := .returned }
  | .returned => none

/-- One step. A worker that takes a packet finds no session and continues; as no
session is registered, nobody keeps it waiting for `m_TcpSessionMgrLock`. -/
def step (modle : IocpModle) : IocpModleLabel → Option IocpModle
  | .arrive => some { modle with completions := modle.completions + 1 }
  | .look worker =>
      if worker < modle.nNetEventModleThreadCount ∧
          modle.stage worker = .loop then
        some (modle.setStage worker
          (if modle.bWorkThreadFlag worker then .waiting else .ended))
      else none
  | .takePacket worker =>
      if worker < modle.nNetEventModleThreadCount ∧
          modle.stage worker = .waiting ∧ 0 < modle.packets then
        some { modle.setStage worker .loop with packets := modle.packets - 1 }
      else none
  | .takeCompletion worker =>
      if worker < modle.nNetEventModleThreadCount ∧
          modle.stage worker = .waiting ∧ 0 < modle.completions then
        some { modle.setStage worker .handling with
          completions := modle.completions - 1 }
      else none
  | .handled worker =>
      if worker < modle.nNetEventModleThreadCount ∧
          modle.stage worker = .handling then
        some (modle.setStage worker .loop)
      else none
  | .fini => modle.finiStep

/-- What a step can be, with what it has found. -/
inductive Moved (modle : IocpModle) : IocpModleLabel → IocpModle → Prop
  | arrives :
      Moved modle .arrive { modle with completions := modle.completions + 1 }
  | looks
      (worker : Nat)
      (inside : worker < modle.nNetEventModleThreadCount)
      (stage : modle.stage worker = .loop) :
      Moved modle (.look worker) (modle.setStage worker
        (if modle.bWorkThreadFlag worker then .waiting else .ended))
  | takesPacket
      (worker : Nat)
      (inside : worker < modle.nNetEventModleThreadCount)
      (stage : modle.stage worker = .waiting)
      (some : 0 < modle.packets) :
      Moved modle (.takePacket worker)
        { modle.setStage worker .loop with packets := modle.packets - 1 }
  | takesCompletion
      (worker : Nat)
      (inside : worker < modle.nNetEventModleThreadCount)
      (stage : modle.stage worker = .waiting)
      (some : 0 < modle.completions) :
      Moved modle (.takeCompletion worker)
        { modle.setStage worker .handling with
          completions := modle.completions - 1 }
  | handles
      (worker : Nat)
      (inside : worker < modle.nNetEventModleThreadCount)
      (stage : modle.stage worker = .handling) :
      Moved modle (.handled worker) (modle.setStage worker .loop)
  | clears
      (index : Nat)
      (inside : index < modle.nNetEventModleThreadCount)
      (stage : modle.fini = .clear index) :
      Moved modle .fini { modle with
        bWorkThreadFlag := Function.update modle.bWorkThreadFlag index false
        fini := .post index }
  | hasCleared
      (index : Nat)
      (outside : ¬index < modle.nNetEventModleThreadCount)
      (stage : modle.fini = .clear index) :
      Moved modle .fini { modle with fini := .wait 0 }
  | posts
      (index : Nat)
      (stage : modle.fini = .post index) :
      Moved modle .fini { modle with
        packets := modle.packets + 1
        fini := .clear (index + 1) }
  | joins
      (index : Nat)
      (inside : index < modle.nNetEventModleThreadCount)
      (stage : modle.fini = .wait index)
      (ended : modle.stage index = .ended) :
      Moved modle .fini { modle with fini := .wait (index + 1) }
  | returns
      (index : Nat)
      (outside : ¬index < modle.nNetEventModleThreadCount)
      (stage : modle.fini = .wait index) :
      Moved modle .fini { modle with fini := .returned }

theorem step_cases
    {modle next : IocpModle}
    {label : IocpModleLabel}
    (stepped : modle.step label = some next) :
    Moved modle label next := by
  cases label with
  | arrive =>
      rw [← Option.some.inj stepped]
      exact .arrives
  | look worker =>
      simp only [step] at stepped
      split at stepped
      · rename_i ready
        rw [← Option.some.inj stepped]
        exact .looks worker ready.1 ready.2
      · contradiction
  | takePacket worker =>
      simp only [step] at stepped
      split at stepped
      · rename_i ready
        rw [← Option.some.inj stepped]
        exact .takesPacket worker ready.1 ready.2.1 ready.2.2
      · contradiction
  | takeCompletion worker =>
      simp only [step] at stepped
      split at stepped
      · rename_i ready
        rw [← Option.some.inj stepped]
        exact .takesCompletion worker ready.1 ready.2.1 ready.2.2
      · contradiction
  | handled worker =>
      simp only [step] at stepped
      split at stepped
      · rename_i ready
        rw [← Option.some.inj stepped]
        exact .handles worker ready.1 ready.2
      · contradiction
  | fini =>
      simp only [step, finiStep] at stepped
      split at stepped
      · rename_i index stage
        split at stepped
        · rename_i inside
          rw [← Option.some.inj stepped]
          exact .clears index inside stage
        · rename_i outside
          rw [← Option.some.inj stepped]
          exact .hasCleared index outside stage
      · rename_i index stage
        rw [← Option.some.inj stepped]
        exact .posts index stage
      · rename_i index stage
        split at stepped
        · rename_i inside
          split at stepped
          · rename_i ended
            rw [← Option.some.inj stepped]
            exact .joins index inside stage ended
          · contradiction
        · rename_i outside
          rw [← Option.some.inj stepped]
          exact .returns index outside stage
      · contradiction

/-- A module that `NetEventModleIOCP_Init` has started: every flag is set, no worker
has ended, and no packet has been posted. -/
structure Started (modle : IocpModle) : Prop where
  flagged : ∀ worker, modle.bWorkThreadFlag worker = true
  running : ∀ worker, modle.stage worker ≠ .ended
  noPackets : modle.packets = 0
  notBegun : modle.fini = .clear 0

/-- Nothing can happen any more unless a completion arrives. -/
def AtRest (modle : IocpModle) : Prop :=
  ∀ label, label ≠ .arrive → modle.step label = none

/-- All workers wait for completions, and there are none. -/
def idle (count : Nat) : IocpModle where
  nNetEventModleThreadCount := count
  bWorkThreadFlag := fun _ => true
  stage := fun _ => .waiting
  packets := 0
  completions := 0
  fini := .clear 0

/-- A worker is told to stop while it does not wait, or after that it takes a
completion: it ends without a packet. -/
def spares (modle : IocpModle) : IocpModleLabel → Nat
  | .takeCompletion worker => if modle.bWorkThreadFlag worker then 0 else 1
  | .fini =>
      match modle.fini with
      | .clear index =>
          if index < modle.nNetEventModleThreadCount ∧
              modle.stage index ≠ .waiting then 1
          else 0
      | _ => 0
  | _ => 0

/-! ## What holds in every run -/

/-- The first flag that is still set. -/
def firstFlagged (modle : IocpModle) : Nat :=
  match modle.fini with
  | .clear index => index
  | .post index => index + 1
  | .wait _ => modle.nNetEventModleThreadCount
  | .returned => modle.nNetEventModleThreadCount

/-- The workers `NetEventModleIOCP_Fini` has waited for. -/
def waitedFor (modle : IocpModle) : Nat :=
  match modle.fini with
  | .clear _ => 0
  | .post _ => 0
  | .wait index => index
  | .returned => modle.nNetEventModleThreadCount

/-- The flags are cleared in order, and a worker that has been waited for has
ended. -/
structure InOrder (modle : IocpModle) : Prop where
  flags : ∀ worker < modle.nNetEventModleThreadCount,
    (modle.bWorkThreadFlag worker = true ↔ modle.firstFlagged ≤ worker)
  waited : ∀ worker < modle.waitedFor, modle.stage worker = .ended
  inside : modle.firstFlagged ≤ modle.nNetEventModleThreadCount

theorem Started.inOrder {modle : IocpModle} (started : modle.Started) :
    modle.InOrder where
  flags := fun worker _ => by
    simp [started.flagged, firstFlagged, started.notBegun]
  waited := fun worker below => by
    simp [waitedFor, started.notBegun] at below
  inside := by
    simp [firstFlagged, started.notBegun]

/-- One for a worker that waits although it has been told to stop. -/
def strandedShare (stage : IocpStage) (bWorkThreadFlag : Bool) : Nat :=
  if stage = .waiting ∧ bWorkThreadFlag = false then 1 else 0

/-- The number of workers that wait although they have been told to stop. -/
def stranded (modle : IocpModle) : Nat :=
  sumBelow modle.nNetEventModleThreadCount fun worker =>
    strandedShare (modle.stage worker) (modle.bWorkThreadFlag worker)

/-- The packet that is due for the flag cleared last. -/
def due (modle : IocpModle) : Nat :=
  match modle.fini with
  | .post _ => 1
  | _ => 0

/-- What the packets in the port, or about to be there, exceed the stranded
workers by. -/
def balance (modle : IocpModle) : Int :=
  modle.packets + modle.due - modle.stranded

/-- Work a worker can still do on its own. -/
def cost : IocpStage → Nat
  | .loop => 2
  | .waiting => 1
  | .handling => 3
  | .ended => 0

/-- Work the workers can still do on their own. -/
def workLeft (modle : IocpModle) : Nat :=
  sumBelow modle.nNetEventModleThreadCount fun worker =>
    cost (modle.stage worker)

/-- Work left for `NetEventModleIOCP_Fini`, and for the workers that take the
packets it has not posted yet. -/
def finiRank (modle : IocpModle) : Nat :=
  let count := modle.nNetEventModleThreadCount
  match modle.fini with
  | .clear index => 4 * (count - index) + count + 2
  | .post index => 4 * (count - (index + 1)) + 3 + count + 2
  | .wait index => count - index + 1
  | .returned => 0

/-- A bound of the steps that are possible without further arrivals. -/
def rank (modle : IocpModle) : Nat :=
  modle.workLeft + 3 * modle.completions + 2 * modle.packets + modle.finiRank

section Steps

variable {modle next : IocpModle}

/-- A worker that has not been waited for may move. -/
theorem InOrder.setStage
    {worker : Nat}
    {stage : IocpStage}
    (inOrder : modle.InOrder)
    (running : modle.stage worker ≠ .ended) :
    (modle.setStage worker stage).InOrder where
  flags := inOrder.flags
  waited := by
    intro other below
    have ended := inOrder.waited other below
    have different : other ≠ worker := by
      rintro rfl
      exact running ended
    simpa only [IocpModle.setStage, Function.update_of_ne different] using ended
  inside := inOrder.inside

/-- Every step keeps the order. -/
theorem inOrder_step
    (label : IocpModleLabel)
    (inOrder : modle.InOrder)
    (stepped : modle.step label = some next) :
    next.InOrder := by
  cases step_cases stepped with
  | arrives => exact ⟨inOrder.flags, inOrder.waited, inOrder.inside⟩
  | looks worker inside stage => exact inOrder.setStage (by simp [stage])
  | takesPacket worker inside stage some =>
      have kept : (modle.setStage worker .loop).InOrder :=
        inOrder.setStage (by simp [stage])
      exact ⟨kept.flags, kept.waited, kept.inside⟩
  | takesCompletion worker inside stage some =>
      have kept : (modle.setStage worker .handling).InOrder :=
        inOrder.setStage (by simp [stage])
      exact ⟨kept.flags, kept.waited, kept.inside⟩
  | handles worker inside stage => exact inOrder.setStage (by simp [stage])
  | clears index inside stage =>
      have flags := inOrder.flags
      simp only [firstFlagged, stage] at flags
      refine ⟨?_, ?_, inside⟩
      · intro worker below
        by_cases same : worker = index
        · subst same
          simp [firstFlagged]
        · have before := flags worker below
          simp only [Function.update_of_ne same, firstFlagged, before]
          omega
      · exact fun worker below => absurd below (Nat.not_lt_zero worker)
  | hasCleared index outside stage =>
      have flags := inOrder.flags
      have within := inOrder.inside
      simp only [firstFlagged, stage] at flags within
      refine ⟨?_, fun worker below => absurd below (Nat.not_lt_zero worker),
        le_rfl⟩
      intro worker below
      rw [flags worker below]
      change index ≤ worker ↔ modle.nNetEventModleThreadCount ≤ worker
      omega
  | posts index stage =>
      have flags := inOrder.flags
      have within := inOrder.inside
      simp only [firstFlagged, stage] at flags within
      exact ⟨flags, fun worker below => absurd below (Nat.not_lt_zero worker),
        within⟩
  | joins index inside stage ended =>
      have flags := inOrder.flags
      have waited := inOrder.waited
      simp only [firstFlagged, waitedFor, stage] at flags waited
      refine ⟨flags, ?_, le_rfl⟩
      intro worker below
      rcases Nat.lt_succ_iff_lt_or_eq.mp below with earlier | rfl
      · exact waited worker earlier
      · exact ended
  | returns index outside stage =>
      have flags := inOrder.flags
      have waited := inOrder.waited
      simp only [firstFlagged, waitedFor, stage] at flags waited
      refine ⟨flags, ?_, le_rfl⟩
      intro worker below
      exact waited worker (lt_of_lt_of_le below (not_lt.mp outside))

end Steps

/-! ## At rest -/

section Rest

variable {modle last : IocpModle}

/-- A worker at rest has ended, or waits while the port is empty. -/
theorem AtRest.worker
    (rest : modle.AtRest)
    {worker : Nat}
    (inside : worker < modle.nNetEventModleThreadCount) :
    modle.stage worker = .ended ∨
      modle.stage worker = .waiting ∧ modle.packets = 0 := by
  cases stage : modle.stage worker with
  | ended => exact Or.inl rfl
  | loop =>
      have looks := rest (.look worker) (by simp)
      simp [step, inside, stage] at looks
  | handling =>
      have handles := rest (.handled worker) (by simp)
      simp [step, inside, stage] at handles
  | waiting =>
      refine Or.inr ⟨rfl, ?_⟩
      have takes := rest (.takePacket worker) (by simp)
      simpa [step, inside, stage] using takes

/-- At rest `NetEventModleIOCP_Fini` has returned, or it waits for a worker that has
not ended. -/
theorem AtRest.fini
    (rest : modle.AtRest) :
    modle.fini = .returned ∨ ∃ index < modle.nNetEventModleThreadCount,
      modle.fini = .wait index ∧ modle.stage index ≠ .ended := by
  have stops := rest .fini (by simp)
  simp only [step, finiStep] at stops
  cases stage : modle.fini with
  | returned => exact Or.inl rfl
  | clear index =>
      simp only [stage] at stops
      split at stops <;> contradiction
  | post index =>
      simp only [stage] at stops
      contradiction
  | wait index =>
      simp only [stage] at stops
      split at stops
      · rename_i inside
        split at stops
        · contradiction
        · rename_i running
          exact Or.inr ⟨index, inside, rfl, running⟩
      · contradiction

end Rest

end IocpModle

end TransPortEngine
