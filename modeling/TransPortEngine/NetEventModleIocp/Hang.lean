import TransPortEngine.NetEventModleIocp.Fini

/-!
# A module that never stops

With at least two workers `NetEventModleIOCP_Fini` can wait for ever: the second
worker takes the packet meant for the first one while its own flag is still set,
and the packets that follow are one too few. With a single worker there is nobody
to take the packet away.
-/

namespace TransPortEngine

open Transition

namespace IocpModle

/-! ## At least two workers -/

/-- The first flags have been cleared, every worker waits, and some packets are in
the port. -/
def asked (count cleared packets : Nat) : IocpModle :=
  { idle count with
    bWorkThreadFlag := fun worker => decide (cleared ≤ worker)
    packets := packets
    fini := .clear cleared }

/-- All flags have been cleared, and the workers between the first one and a given
one have ended. -/
def leaving (count nextWorker : Nat) : IocpModle :=
  { idle count with
    bWorkThreadFlag := fun worker => decide (count ≤ worker)
    stage := fun worker =>
      if 1 ≤ worker ∧ worker < nextWorker then .ended else .waiting
    packets := count - nextWorker
    fini := .wait 0 }

/-- No more packets have been posted than flags cleared. -/
theorem packets_le_step
    {modle next : IocpModle}
    (label : IocpModleLabel)
    (few : modle.packets + modle.due ≤ modle.firstFlagged)
    (inOrder : modle.InOrder)
    (stepped : modle.step label = some next) :
    next.packets + next.due ≤ next.firstFlagged := by
  have within := inOrder.inside
  cases step_cases stepped with
  | arrives => exact few
  | looks worker inside stage => exact few
  | takesPacket worker inside stage posted =>
      change modle.packets - 1 + modle.due ≤ modle.firstFlagged
      omega
  | takesCompletion worker inside stage posted => exact few
  | handles worker inside stage => exact few
  | clears index inside stage =>
      simp only [due, firstFlagged, stage] at few ⊢
      omega
  | hasCleared index outside stage =>
      simp only [due, firstFlagged, stage] at few within ⊢
      omega
  | posts index stage =>
      simp only [due, firstFlagged, stage] at few ⊢
      omega
  | joins index inside stage ended =>
      simp only [due, firstFlagged, stage] at few ⊢
      omega
  | returns index outside stage =>
      simp only [due, firstFlagged, stage] at few ⊢
      omega

/-- A module with at most one worker, and no more packets in it than flags have been
cleared. -/
structure Lone (modle : IocpModle) : Prop where
  single : modle.nNetEventModleThreadCount ≤ 1
  few : modle.packets + modle.due ≤ modle.firstFlagged
  inOrder : modle.InOrder

/-- The number of workers stays. -/
theorem count_step
    {modle next : IocpModle}
    {label : IocpModleLabel}
    (stepped : modle.step label = some next) :
    next.nNetEventModleThreadCount = modle.nNetEventModleThreadCount := by
  cases step_cases stepped <;> rfl

theorem Lone.step
    {modle next : IocpModle}
    {label : IocpModleLabel}
    (lone : modle.Lone)
    (stepped : modle.step label = some next) :
    next.Lone where
  single := (count_step stepped).le.trans lone.single
  few := packets_le_step label lone.few lone.inOrder stepped
  inOrder := inOrder_step label lone.inOrder stepped

theorem Started.lone
    {modle : IocpModle}
    (started : modle.Started)
    (single : modle.nNetEventModleThreadCount ≤ 1) :
    modle.Lone where
  single := single
  few := by
    simp [started.noPackets, due, started.notBegun]
  inOrder := started.inOrder

end IocpModle

end TransPortEngine
