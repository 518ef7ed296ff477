import TransPortEngine.Library.PartialTransfer
import TransPortEngine.NetEventModleIocp.OverlappedSends

/-!
# Accounting for overlapped sends

Several sends are outstanding, their contexts are in `m_PerIoContextSends`, and
they complete in parts and in any order. What has become of each send follows
from the lengths of its own completions.
-/

namespace TransPortEngine

open MachineInt Transition PartialTransfer

/-- A context behind its first bytes. -/
def PerIoContextSend.behind
    (context : PerIoContextSend)
    (length : Nat) : PerIoContextSend :=
  if length = 0 then context else (context.sent length).advance

theorem PerIoContextSend.behind_add
    (context : PerIoContextSend)
    {first second : Nat}
    (positive : 0 < second) :
    ((context.behind first).sent second).advance =
      context.behind (first + second) := by
  unfold behind
  split
  · rename_i none
    simp [none, positive.ne']
  · rw [if_neg (by omega)]
    simp [sent, advance, Nat.add_assoc, Nat.sub_sub]

namespace OverlappedSends

/-- The number of bytes the completions of a context carried. -/
def sum (sends : OverlappedSends) (address : Nat) : Nat :=
  (sends.completions address).sum

/-- The contexts in the vector have different numbers, and of each of them the
kernel has the rest of the buffer. -/
structure Ongoing (sends : OverlappedSends) : Prop where
  remains : sends.contexts.bIsToBeClose = false
  distinct : sends.contexts.perIoContextSends.Nodup
  numbers : ∀ first ∈ sends.contexts.perIoContextSends,
    ∀ second ∈ sends.contexts.perIoContextSends,
      (sends.contexts.memory first).nSquence =
        (sends.contexts.memory second).nSquence → first = second
  posted : ∀ address ∈ sends.contexts.perIoContextSends, sends.Posted address
  others : ∀ address, address ∉ sends.contexts.perIoContextSends →
    sends.outstanding address = []

/-- Any set of outstanding sends, before their first completions. -/
structure Started (sends : OverlappedSends) : Prop extends sends.Ongoing where
  live : sends.live = true
  completions : ∀ address, sends.completions address = []
  notFreed : ∀ address ∈ sends.contexts.perIoContextSends,
    address ∉ sends.contexts.freed

/-- What the completions so far have left: of each context the first bytes are
gone, the rest of its buffer has been given to `WSASend` as often as there was
one, and it has been removed and deleted when there was none. -/
structure Accounted (start last : OverlappedSends) : Prop where
  perIoContextSends : last.contexts.perIoContextSends =
    start.contexts.perIoContextSends.filter fun address =>
      last.sum address < (start.contexts.memory address).wsaBufLen
  bounded : ∀ address ∈ start.contexts.perIoContextSends,
    last.sum address ≤ (start.contexts.memory address).wsaBufLen
  context : ∀ address ∈ last.contexts.perIoContextSends,
    last.contexts.memory address =
      (start.contexts.memory address).behind (last.sum address)
  carried : ∀ address ∈ start.contexts.perIoContextSends,
    last.carried address = start.carried address ++
      (start.contexts.memory address).wsaBuf.take (last.sum address)
  handed : ∀ address ∈ start.contexts.perIoContextSends,
    last.handed address = start.handed address ++
      rests (start.contexts.memory address).wsaBuf (last.completions address)
  freed : ∀ address ∈ start.contexts.perIoContextSends,
    (last.contexts.freed.count address =
      if last.sum address = (start.contexts.memory address).wsaBufLen then 1
      else 0)
  others : ∀ address, address ∉ start.contexts.perIoContextSends →
    last.contexts.memory address = start.contexts.memory address ∧
      last.completions address = [] ∧
        last.handed address = start.handed address ∧
          last.carried address = start.carried address ∧
            last.contexts.freed.count address =
              start.contexts.freed.count address

/-- A completion, with the success of the call of `WSASend` it may lead to. -/
structure SendCompletion where
  address : Nat
  dwBytesTransfered : Nat
  posted : Bool

/-- A worker handles a completion. -/
def SendCompletion.input (completion : SendCompletion) : SendInput :=
  .completed completion.address completion.dwBytesTransfered completion.posted

/-! ## One completion -/

variable {start sends next : OverlappedSends} {address dwBytesTransfered : Nat}
  {posted : Bool}

/-- A context in the vector is found by its number. -/
theorem Ongoing.found
    (ongoing : sends.Ongoing)
    (member : address ∈ sends.contexts.perIoContextSends) :
    sends.contexts.findSquence (sends.contexts.memory address).nSquence =
      some address := by
  unfold SendContexts.findSquence
  cases found : sends.contexts.perIoContextSends.find? fun other =>
      (sends.contexts.memory other).nSquence =
        (sends.contexts.memory address).nSquence with
  | none =>
      have different := List.find?_eq_none.mp found address member
      simp at different
  | some other =>
      have sameNumber := List.find?_some found
      rw [ongoing.numbers other (List.mem_of_find?_eq_some found) address member
        (by simpa using sameNumber)]

/-- Only a context in the vector has a send that can complete. -/
theorem Ongoing.completed
    (ongoing : sends.Ongoing)
    (stepped : sends.step (.completed address dwBytesTransfered posted) =
      some next) :
    address ∈ sends.contexts.perIoContextSends ∧
      sends.Completed address dwBytesTransfered posted next := by
  have member : address ∈ sends.contexts.perIoContextSends := by
    by_contra absent
    simp [step, ongoing.others address absent] at stepped
  exact ⟨member, completed_of_step (ongoing.posted address member)
    ongoing.remains (ongoing.found member) stepped⟩

/-- The sends that are left are outstanding again. -/
theorem Ongoing.ofCompleted
    (ongoing : sends.Ongoing)
    (member : address ∈ sends.contexts.perIoContextSends)
    (completed : sends.Completed address dwBytesTransfered posted next)
    (live : next.live = true) :
    next.Ongoing := by
  have kept := mem_completed ongoing.distinct completed
  constructor
  · rw [completed.frame.2.2.2.1]
    exact ongoing.remains
  · rw [completed.perIoContextSends]
    split
    · exact ongoing.distinct
    · exact ongoing.distinct.erase address
  · intro first memberFirst second memberSecond sameNumber
    rw [completed.nSquence_memory, completed.nSquence_memory] at sameNumber
    exact ongoing.numbers first ((kept first).mp memberFirst).1 second
      ((kept second).mp memberSecond).1 sameNumber
  · intro other memberOther
    obtain ⟨before, isPart⟩ := (kept other).mp memberOther
    by_cases same : other = address
    · rw [same] at before isPart ⊢
      exact completed.posted_self (ongoing.posted address before) (isPart rfl)
        live
    · exact completed.posted_other same (ongoing.posted other before)
  · intro other absent
    rw [completed.outstanding]
    by_cases same : other = address
    · rw [same, Function.update_self, if_neg]
      rintro ⟨isPart, -⟩
      exact absent ((kept other).mpr ⟨same ▸ member, fun _ => isPart⟩)
    · rw [Function.update_of_ne same]
      refine ongoing.others other fun before => absent ?_
      exact (kept other).mpr ⟨before, fun isSame => absurd isSame same⟩

/-! ## What a completion adds to the account -/

theorem sum_self
    (completed : sends.Completed address dwBytesTransfered posted next) :
    next.sum address = sends.sum address + dwBytesTransfered := by
  simp [sum, completed.completions]

theorem sum_other
    (completed : sends.Completed address dwBytesTransfered posted next)
    {other : Nat}
    (different : other ≠ address) :
    next.sum other = sends.sum other := by
  simp [sum, completed.completions, different]

/-- A context in the vector has the bytes left that have not been carried. -/
theorem Accounted.wsaBufLen
    (accounted : Accounted start sends)
    (member : address ∈ sends.contexts.perIoContextSends) :
    (sends.contexts.memory address).wsaBufLen + sends.sum address =
      (start.contexts.memory address).wsaBufLen := by
  have inStart : address ∈ start.contexts.perIoContextSends := by
    rw [accounted.perIoContextSends] at member
    exact (List.mem_filter.mp member).1
  have bounded := accounted.bounded address inStart
  rw [accounted.context address member, PerIoContextSend.behind]
  split
  · omega
  · simp only [PerIoContextSend.advance, PerIoContextSend.sent]
    omega

/-- And its buffer begins behind them. -/
theorem Accounted.wsaBuf
    (accounted : Accounted start sends)
    (member : address ∈ sends.contexts.perIoContextSends) :
    (sends.contexts.memory address).wsaBuf =
      (start.contexts.memory address).wsaBuf.drop (sends.sum address) := by
  rw [accounted.context address member, PerIoContextSend.behind]
  split
  · rename_i none
    rw [none, List.drop_zero]
  · exact PerIoContextSend.wsaBuf_advance _ _

/-- The bytes a completion leaves are those its context has not carried. -/
theorem Accounted.isPart_iff
    (accounted : Accounted start sends)
    (member : address ∈ sends.contexts.perIoContextSends)
    (completed : sends.Completed address dwBytesTransfered posted next) :
    dwBytesTransfered < (sends.contexts.memory address).wsaBufLen ↔
      next.sum address < (start.contexts.memory address).wsaBufLen := by
  have left := accounted.wsaBufLen member
  have isSum := sum_self completed
  omega

/-- The vector after one more completion. -/
theorem Accounted.perIoContextSends_completed
    (accounted : Accounted start sends)
    (ongoing : sends.Ongoing)
    (member : address ∈ sends.contexts.perIoContextSends)
    (completed : sends.Completed address dwBytesTransfered posted next) :
    next.contexts.perIoContextSends =
      start.contexts.perIoContextSends.filter fun other =>
        next.sum other < (start.contexts.memory other).wsaBufLen := by
  have isPart := accounted.isPart_iff member completed
  have before := accounted.perIoContextSends
  have wasPart : sends.sum address <
      (start.contexts.memory address).wsaBufLen := by
    rw [before] at member
    simpa using (List.mem_filter.mp member).2
  rw [completed.perIoContextSends]
  split
  · rename_i stays
    rw [before]
    refine List.filter_congr fun other _ => ?_
    by_cases same : other = address
    · subst same
      simp [wasPart, isPart.mp stays]
    · rw [sum_other completed same]
  · rename_i leaves
    rw [ongoing.distinct.erase_eq_filter, before, List.filter_filter]
    refine List.filter_congr fun other _ => ?_
    by_cases same : other = address
    · subst same
      have isLast := fun less => leaves (isPart.mpr less)
      simpa using isLast
    · simp [same, sum_other completed same]

/-- The account after one more completion. -/
theorem Accounted.ofCompleted
    (started : start.Started)
    (accounted : Accounted start sends)
    (ongoing : sends.Ongoing)
    (member : address ∈ sends.contexts.perIoContextSends)
    (completed : sends.Completed address dwBytesTransfered posted next) :
    Accounted start next := by
  have isPart := accounted.isPart_iff member completed
  have left := accounted.wsaBufLen member
  have buffer := accounted.wsaBuf member
  have isSum := sum_self completed
  have inStart : address ∈ start.contexts.perIoContextSends := by
    rw [accounted.perIoContextSends] at member
    exact (List.mem_filter.mp member).1
  constructor
  · exact accounted.perIoContextSends_completed ongoing member completed
  · intro other inVector
    by_cases same : other = address
    · subst same
      have bounded := completed.bounded
      omega
    · rw [sum_other completed same]
      exact accounted.bounded other inVector
  · intro other inVector
    obtain ⟨before, stays⟩ :=
      (mem_completed ongoing.distinct completed other).mp inVector
    rw [completed.memory]
    by_cases same : other = address
    · subst same
      rw [Function.update_self, if_pos (stays rfl),
        accounted.context other before, isSum]
      exact PerIoContextSend.behind_add _ completed.positive
    · rw [Function.update_of_ne same, sum_other completed same]
      exact accounted.context other before
  · intro other inVector
    rw [completed.carried]
    by_cases same : other = address
    · subst same
      rw [Function.update_self, accounted.carried other inVector, buffer, isSum,
        List.take_add, List.append_assoc]
    · rw [Function.update_of_ne same, sum_other completed same]
      exact accounted.carried other inVector
  · intro other inVector
    rw [completed.handed, completed.completions]
    by_cases same : other = address
    · subst same
      have length :=
        PerIoContextSend.length_wsaBuf (started.posted other inVector).whole
      rw [Function.update_self, Function.update_self,
        accounted.handed other inVector, buffer, List.drop_drop, rests_concat,
        length, List.append_assoc]
      simp only [isPart, isSum]
      rfl
    · rw [Function.update_of_ne same, Function.update_of_ne same]
      exact accounted.handed other inVector
  · intro other inVector
    have before := accounted.freed other inVector
    rw [completed.freed]
    by_cases same : other = address
    · subst same
      have positive := completed.positive
      have bounded := completed.bounded
      rw [if_neg (by omega)] at before
      split
      · rw [before, if_neg (by omega)]
      · rw [List.count_append, before, if_pos (by omega)]
        simp
    · rw [sum_other completed same, ← before]
      split
      · rfl
      · simp [List.count_append, Ne.symm same]
  · intro other absent
    have different : other ≠ address := by
      rintro rfl
      exact absent inStart
    have before := accounted.others other absent
    rw [completed.memory, completed.completions, completed.handed,
      completed.carried, completed.freed]
    simp only [Function.update_of_ne different]
    refine ⟨before.1, before.2.1, before.2.2.1, before.2.2.2.1, ?_⟩
    rw [← before.2.2.2.2]
    split
    · rfl
    · simp [List.count_append, different.symm]

/-! ## Whole runs -/

/-- Before the first completion. -/
theorem Started.accounted (started : start.Started) : Accounted start start := by
  have none : ∀ address, start.sum address = 0 := by
    simp [sum, started.completions]
  constructor
  · refine (List.filter_eq_self.mpr fun address member => ?_).symm
    simpa [none] using (started.posted address member).remains
  · intro address member
    simp [none]
  · intro address member
    simp [none, PerIoContextSend.behind]
  · intro address member
    simp [none]
  · intro address member
    simp [started.completions, rests]
  · intro address member
    have remains := (started.posted address member).remains
    rw [none, if_neg remains.ne, List.count_eq_zero]
    exact started.notFreed address member
  · intro address absent
    exact ⟨rfl, started.completions address, rfl, rfl, rfl⟩

/-- Sends are outstanding and have been accounted for, until the session is
removed. -/
def Accounting (start sends : OverlappedSends) : Prop :=
  Accounted start sends ∧ (sends.live = true → sends.Ongoing)

theorem accounting_step
    (started : start.Started)
    (accounting : Accounting start sends)
    (completion : SendCompletion)
    (stepped : sends.step completion.input = some next) :
    Accounting start next := by
  have ongoing := accounting.2 (live_of_step stepped)
  obtain ⟨member, completed⟩ := ongoing.completed stepped
  exact ⟨accounting.1.ofCompleted started ongoing member completed,
    ongoing.ofCompleted member completed⟩

/-- However outstanding sends complete, each is accounted for. -/
theorem accounted_of_run
    {last : OverlappedSends}
    (started : start.Started)
    (completions : List SendCompletion)
    (reached : run step start (completions.map SendCompletion.input) =
      some last) :
    Accounted start last := by
  have onlyCompletions : Throughout step
      (fun _ input => ∃ completion : SendCompletion, completion.input = input)
      start (completions.map SendCompletion.input) := by
    refine throughout_of_forall fun _ input member => ?_
    obtain ⟨completion, -, isInput⟩ := List.mem_map.mp member
    exact ⟨completion, isInput⟩
  have preserved : ∀ sends input next, Accounting start sends →
      (∃ completion : SendCompletion, completion.input = input) →
        step sends input = some next → Accounting start next := by
    rintro sends _ next accounting ⟨completion, rfl⟩ stepped
    exact accounting_step started accounting completion stepped
  exact (invariant_of_run preserved
    ⟨started.accounted, fun _ => started.toOngoing⟩ onlyCompletions reached).1

/-- Two sends, of two bytes and of one. -/
def twoSends : OverlappedSends where
  contexts := ⟨7, false, 2,
    fun address => if address = 0 then ⟨[1, 2], 0, 2, 0, 1⟩ else ⟨[3], 0, 1, 0, 2⟩,
    2, [0, 1], []⟩
  live := true
  pending := []
  szData address := if address = 0 then [1, 2] else if address = 1 then [3] else []
  handed address :=
    if address = 0 then [[1, 2]] else if address = 1 then [[3]] else []
  outstanding address :=
    if address = 0 then [[1, 2]] else if address = 1 then [[3]] else []
  completions _ := []
  carried _ := []

theorem started_twoSends : twoSends.Started where
  remains := rfl
  distinct := by decide
  numbers := by decide
  posted := by
    intro address member
    rcases List.mem_pair.mp member with rfl | rfl
    · exact ⟨rfl, rfl, by decide⟩
    · exact ⟨rfl, rfl, by decide⟩
  others := by
    intro address absent
    have notFirst : address ≠ 0 := fun same => absent (by simp [twoSends, same])
    have notSecond : address ≠ 1 := fun same => absent (by simp [twoSends, same])
    simp [twoSends, notFirst, notSecond]
  live := rfl
  completions _ := rfl
  notFreed := by decide

/-- The first send completes in two parts, the second between them. -/
theorem accounted_twoSends :
    ∃ last,
      run step twoSends ([⟨0, 1, true⟩, ⟨1, 1, true⟩, ⟨0, 1, true⟩].map
        SendCompletion.input) = some last ∧
      Accounted twoSends last ∧
      last.contexts.perIoContextSends = [] ∧
      last.contexts.freed = [1, 0] ∧
      last.handed 0 = [[1, 2], [2]] :=
  ⟨_, rfl, accounted_of_run started_twoSends
    [⟨0, 1, true⟩, ⟨1, 1, true⟩, ⟨0, 1, true⟩] rfl, by decide, by decide,
    by decide⟩

end OverlappedSends

end TransPortEngine
