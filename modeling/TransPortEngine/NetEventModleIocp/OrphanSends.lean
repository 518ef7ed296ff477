import TransPortEngine.NetEventModleIocp.OverlappedSends

/-!
# Send contexts without a send

A context gets into `m_PerIoContextSends` only after `WSASend` has posted its
buffer, and by then the completion may have been handled: `TcpSession_IOSend(int)`
finds no context and returns 0. The context is put into the vector all the same,
and nothing takes it out again; a part that was left is never posted. As long as
a completion is handled behind the `push_back` of its context, and its number is
that of no other context, no context is without a send.
-/

namespace TransPortEngine

open MachineInt Transition

namespace OverlappedSends

/-- A send that has not carried all its data is outstanding, and when all have,
and every completion has been handled, the vector is empty. -/
structure NoOrphans (sends : OverlappedSends) : Prop where
  reposted : ∀ address, sends.carried address ≠ sends.szData address →
    sends.outstanding address ≠ []
  empty : (∀ address, sends.carried address = sends.szData address ∧
    sends.outstanding address = []) → sends.contexts.perIoContextSends = []

/-- The contexts that have not been deleted. -/
def alive (sends : OverlappedSends) : List Nat :=
  sends.contexts.perIoContextSends ++ sends.pending

/-- The contexts that have not been deleted are those whose sends are
outstanding, each with the data it has not carried. -/
structure Tidy (sends : OverlappedSends) : Prop where
  remains : sends.contexts.bIsToBeClose = false
  distinct : sends.alive.Nodup
  allocated : ∀ address ∈ sends.alive, address < sends.contexts.allocated
  posted : ∀ address ∈ sends.alive, sends.Posted address
  carried : ∀ address ∈ sends.alive,
    sends.carried address ++ (sends.contexts.memory address).wsaBuf =
      sends.szData address
  done : ∀ address, address ∉ sends.alive →
    sends.outstanding address = [] ∧
      sends.carried address = sends.szData address
  fresh : ∀ address, sends.contexts.allocated ≤ address →
    sends.carried address = []

variable {sends next : OverlappedSends}

theorem tidy_accepted (memory : Nat → PerIoContextSend) (socket : Int) :
    (accepted memory socket).Tidy where
  remains := rfl
  distinct := List.nodup_nil
  allocated _ member := absurd member List.not_mem_nil
  posted _ member := absurd member List.not_mem_nil
  carried _ member := absurd member List.not_mem_nil
  done _ _ := ⟨rfl, rfl⟩
  fresh _ _ := rfl

/-- No context is without a send. -/
theorem Tidy.noOrphans (tidy : sends.Tidy) : sends.NoOrphans := by
  have outstanding : ∀ address ∈ sends.alive,
      sends.outstanding address ≠ [] := by
    intro address member
    rw [(tidy.posted address member).outstanding]
    exact List.cons_ne_nil _ _
  constructor
  · intro address incomplete
    apply outstanding address
    by_contra absent
    exact incomplete (tidy.done address absent).2
  · intro settled
    refine List.eq_nil_iff_forall_not_mem.mpr fun address member => ?_
    exact outstanding address (List.mem_append_left _ member)
      (settled address).2

/-! ## Each step -/

/-- The state behind a call of `WSASend` that has taken the data. -/
theorem tidy_sent
    (tidy : sends.Tidy)
    {szData : List UInt8}
    (notEmpty : szData ≠ [])
    (nSquence : Int) :
    let address := sends.contexts.allocated
    Tidy { sends with
      contexts := { sends.contexts.store address
          ⟨szData, 0, szData.length, 0, nSquence⟩ with
        nSquence := nSquence
        allocated := address + 1 }
      pending := sends.pending ++ [address]
      szData := Function.update sends.szData address szData
      handed := Function.update sends.handed address
        (sends.handed address ++ [szData])
      outstanding := Function.update sends.outstanding address
        (sends.outstanding address ++ [szData]) } := by
  intro address
  have absent : address ∉ sends.alive := fun member =>
    (tidy.allocated address member).false
  have buffer : PerIoContextSend.wsaBuf ⟨szData, 0, szData.length, 0, nSquence⟩ =
      szData := List.take_length
  have members : ∀ other, other ∈ sends.contexts.perIoContextSends ++
      (sends.pending ++ [address]) ↔ other ∈ sends.alive ∨ other = address := by
    intro other
    rw [← List.append_assoc, List.mem_append, List.mem_singleton]
    rfl
  have different : ∀ other ∈ sends.alive, other ≠ address := by
    rintro other member rfl
    exact absent member
  have unspent := tidy.done address absent
  constructor
  · exact tidy.remains
  · simp only [alive, ← List.append_assoc]
    refine List.nodup_append.mpr ⟨tidy.distinct, by simp, ?_⟩
    intro first memberFirst second memberSecond
    rw [List.mem_singleton.mp memberSecond]
    exact different first memberFirst
  · intro other member
    rcases (members other).mp member with before | rfl
    · exact Nat.lt_succ_of_lt (tidy.allocated other before)
    · exact Nat.lt_succ_self _
  · intro other member
    rcases (members other).mp member with before | rfl
    · have isPosted := tidy.posted other before
      constructor
      · simpa [SendContexts.store, different other before] using
          isPosted.outstanding
      · simpa [SendContexts.store, different other before] using isPosted.whole
      · simpa [SendContexts.store, different other before] using isPosted.remains
    · constructor
      · simp [SendContexts.store, unspent.1, buffer]
      · simp [SendContexts.store, PerIoContextSend.Whole]
      · simpa [SendContexts.store] using List.length_pos_iff.mpr notEmpty
  · intro other member
    rcases (members other).mp member with before | rfl
    · simpa [SendContexts.store, different other before] using
        tidy.carried other before
    · simp [SendContexts.store, tidy.fresh address le_rfl, buffer]
  · intro other absentOther
    have notBefore := fun before => absentOther ((members other).mpr (Or.inl before))
    have other_ne : other ≠ address :=
      fun same => absentOther ((members other).mpr (Or.inr same))
    simpa [other_ne] using tidy.done other notBefore
  · intro other beyond
    exact tidy.fresh other (Nat.le_of_succ_le beyond)

/-- The state behind a call of `WSASend` that has failed. -/
theorem tidy_refused
    (tidy : sends.Tidy)
    (szData : List UInt8)
    (context : PerIoContextSend)
    (nSquence : Int) :
    let address := sends.contexts.allocated
    Tidy { sends with
      contexts := { sends.contexts.store address context with
        nSquence := nSquence
        allocated := address + 1
        freed := sends.contexts.freed ++ [address] }
      szData := Function.update sends.szData address []
      handed := Function.update sends.handed address
        (sends.handed address ++ [szData])
      outstanding := Function.update sends.outstanding address
        (sends.outstanding address ++ []) } := by
  intro address
  have absent : address ∉ sends.alive := fun member =>
    (tidy.allocated address member).false
  have different : ∀ other ∈ sends.alive, other ≠ address := by
    rintro other member rfl
    exact absent member
  have unspent := tidy.done address absent
  constructor
  · exact tidy.remains
  · exact tidy.distinct
  · exact fun other member => Nat.lt_succ_of_lt (tidy.allocated other member)
  · intro other member
    have isPosted := tidy.posted other member
    have other_ne := different other member
    constructor
    · simpa [SendContexts.store, other_ne] using isPosted.outstanding
    · simpa [SendContexts.store, other_ne] using isPosted.whole
    · simpa [SendContexts.store, other_ne] using isPosted.remains
  · intro other member
    simpa [SendContexts.store, different other member] using
      tidy.carried other member
  · intro other absentOther
    by_cases same : other = address
    · rw [same]
      simp [unspent.1, tidy.fresh address le_rfl]
    · simpa [same] using tidy.done other absentOther
  · intro other beyond
    exact tidy.fresh other (Nat.le_of_succ_le beyond)

/-- A sender runs up to `WSASend`. -/
theorem Tidy.send
    (tidy : sends.Tidy)
    {szData : List UInt8}
    {posted : Bool}
    (stepped : sends.step (.send szData posted) = some next) :
    next.Tidy := by
  simp only [step] at stepped
  split at stepped
  · contradiction
  · rename_i allowed
    have notEmpty : szData ≠ [] := fun empty => allowed (Or.inr empty)
    rw [if_neg (by simp [tidy.remains])] at stepped
    rw [← Option.some.inj stepped]
    have buffer : szData.take (szData.length : Int).toNat = szData := by simp
    cases posted with
    | true =>
        have sent := tidy_sent tidy notEmpty
          (signed32 (sends.contexts.nSquence + 1))
        simp only [SendContexts.startSend, buffer]
        exact sent
    | false =>
        have refused := tidy_refused tidy szData
          ⟨szData, 0, szData.length, 0, signed32 (sends.contexts.nSquence + 1)⟩
          (signed32 (sends.contexts.nSquence + 1))
        simp only [SendContexts.startSend, buffer]
        exact refused

/-- A context gets into the vector. -/
theorem Tidy.pushBack
    (tidy : sends.Tidy)
    {address : Nat}
    (stepped : sends.step (.pushBack address) = some next) :
    next.Tidy := by
  simp only [step] at stepped
  split at stepped
  · rename_i allowed
    have sameContexts : next.alive.Perm sends.alive := by
      rw [← Option.some.inj stepped]
      simp only [alive, SendContexts.pushBack, List.append_assoc]
      exact (List.perm_cons_erase allowed.2).symm.append_left _
    have sameMember := fun other => sameContexts.mem_iff (a := other)
    have distinct := sameContexts.nodup_iff.mpr tidy.distinct
    rw [← Option.some.inj stepped] at sameMember distinct ⊢
    exact {
      remains := tidy.remains
      distinct := distinct
      allocated := fun other member =>
        tidy.allocated other ((sameMember other).mp member)
      posted := fun other member =>
        let isPosted := tidy.posted other ((sameMember other).mp member)
        ⟨isPosted.outstanding, isPosted.whole, isPosted.remains⟩
      carried := fun other member =>
        tidy.carried other ((sameMember other).mp member)
      done := fun other absent =>
        tidy.done other fun member => absent ((sameMember other).mpr member)
      fresh := tidy.fresh }
  · contradiction

/-- A completion finds its own context. -/
theorem Tidy.completed
    (tidy : sends.Tidy)
    {address dwBytesTransfered : Nat}
    {posted : Bool}
    (findsOwn : sends.contexts.findSquence
      (sends.contexts.memory address).nSquence = some address)
    (stepped : sends.step (.completed address dwBytesTransfered posted) =
      some next)
    (live : next.live = true) :
    next.Tidy := by
  have inVector : address ∈ sends.contexts.perIoContextSends :=
    List.mem_of_find?_eq_some findsOwn
  have member : address ∈ sends.alive := List.mem_append_left _ inVector
  have completed := completed_of_step (tidy.posted address member) tidy.remains
    findsOwn stepped
  obtain ⟨distinctVector, distinctPending, apart⟩ :=
    List.nodup_append.mp tidy.distinct
  have kept : ∀ other, other ∈ next.alive ↔ other ∈ sends.alive ∧
      (other = address →
        dwBytesTransfered < (sends.contexts.memory address).wsaBufLen) := by
    intro other
    simp only [alive, List.mem_append, mem_completed distinctVector completed,
      completed.frame.1]
    constructor
    · rintro (⟨inOther, isPart⟩ | isPending)
      · exact ⟨Or.inl inOther, isPart⟩
      · exact ⟨Or.inr isPending, fun same =>
          absurd same.symm (apart address inVector other isPending)⟩
    · rintro ⟨inOther | isPending, isPart⟩
      · exact Or.inl ⟨inOther, isPart⟩
      · exact Or.inr isPending
  constructor
  · rw [completed.frame.2.2.2.1]
    exact tidy.remains
  · simp only [alive, completed.perIoContextSends, completed.frame.1]
    split
    · exact tidy.distinct
    · exact tidy.distinct.sublist
        ((List.erase_sublist).append_right sends.pending)
  · intro other isAlive
    rw [completed.frame.2.2.2.2.2]
    exact tidy.allocated other ((kept other).mp isAlive).1
  · intro other isAlive
    obtain ⟨before, isPart⟩ := (kept other).mp isAlive
    by_cases same : other = address
    · rw [same]
      exact completed.posted_self (tidy.posted address member) (isPart same) live
    · exact completed.posted_other same (tidy.posted other before)
  · intro other isAlive
    obtain ⟨before, isPart⟩ := (kept other).mp isAlive
    rw [completed.carried, completed.memory, completed.frame.2.1]
    by_cases same : other = address
    · subst same
      rw [Function.update_self, Function.update_self, if_pos (isPart rfl),
        PerIoContextSend.wsaBuf_advance, List.append_assoc, List.take_append_drop]
      exact tidy.carried other before
    · rw [Function.update_of_ne same, Function.update_of_ne same]
      exact tidy.carried other before
  · intro other gone
    rw [completed.outstanding, completed.carried, completed.frame.2.1]
    by_cases same : other = address
    · subst same
      have last : ¬dwBytesTransfered <
          (sends.contexts.memory other).wsaBufLen :=
        fun isPart => gone ((kept other).mpr ⟨member, fun _ => isPart⟩)
      have length :=
        PerIoContextSend.length_wsaBuf (tidy.posted other member).whole
      rw [Function.update_self, Function.update_self,
        if_neg fun isPart => last isPart.1,
        List.take_of_length_le (length ▸ not_lt.mp last)]
      exact ⟨rfl, tidy.carried other member⟩
    · rw [Function.update_of_ne same, Function.update_of_ne same]
      refine tidy.done other fun before => gone ?_
      exact (kept other).mpr ⟨before, fun isSame => absurd isSame same⟩
  · intro other beyond
    rw [completed.frame.2.2.2.2.2] at beyond
    have different : other ≠ address := by
      rintro rfl
      exact (tidy.allocated other member).not_ge beyond
    rw [completed.carried, Function.update_of_ne different]
    exact tidy.fresh other beyond

/-- A step after which the session is live. -/
theorem Tidy.step
    (tidy : sends.Tidy)
    {input : SendInput}
    (findsOwn : input.FindsOwn sends)
    (stepped : sends.step input = some next)
    (live : next.live = true) :
    next.Tidy := by
  cases input with
  | send szData posted => exact tidy.send stepped
  | pushBack address => exact tidy.pushBack stepped
  | completed address dwBytesTransfered posted =>
      exact tidy.completed findsOwn stepped live

/-- A completion that finds no context leaves its own without a send, before it
has got into the vector. -/
theorem Tidy.overtaken
    (tidy : sends.Tidy)
    {address dwBytesTransfered : Nat}
    {posted : Bool}
    (findsNone : sends.contexts.findSquence
      (sends.contexts.memory address).nSquence = none)
    (stepped : sends.step (.completed address dwBytesTransfered posted) =
      some next) :
    address ∈ next.pending ∧ next.outstanding address = [] ∧
      next.live = true := by
  have isAlive : address ∈ sends.alive := by
    by_contra gone
    simp [OverlappedSends.step, (tidy.done address gone).1] at stepped
  have notInVector : address ∉ sends.contexts.perIoContextSends := by
    intro inVector
    have different := List.find?_eq_none.mp findsNone address inVector
    simp at different
  have isPending : address ∈ sends.pending :=
    (List.mem_append.mp isAlive).resolve_left notInVector
  have sameNumber : ((sends.contexts.memory address).sent
      dwBytesTransfered).nSquence = (sends.contexts.memory address).nSquence := rfl
  have findsNoneStored := (SendContexts.findSquence_store sameNumber
    (sends.contexts.memory address).nSquence).trans findsNone
  simp only [OverlappedSends.step, (tidy.posted address isAlive).outstanding]
    at stepped
  split at stepped
  · rw [← Option.some.inj stepped]
    simp [handleSent, transfer, SendContexts.ioSendNext, findsNoneStored,
      isPending]
  · contradiction

/-! ## Whole runs -/

/-- As long as every completion finds its own context, no context of a live
session is without a send. -/
theorem noOrphans_of_findsOwn
    (memory : Nat → PerIoContextSend)
    (socket : Int)
    {inputs : List SendInput}
    (findsOwn : Throughout OverlappedSends.step
      (fun sends input => input.FindsOwn sends) (accepted memory socket)
      inputs) :
    Throughout OverlappedSends.step
      (Leads OverlappedSends.step fun sends =>
        sends.live = true → sends.NoOrphans)
      (accepted memory socket) inputs := by
  have preserved : ∀ sends input next, (sends.live = true → sends.Tidy) →
      SendInput.FindsOwn sends input →
        OverlappedSends.step sends input = some next →
          next.live = true → next.Tidy :=
    fun sends input next tidy finds stepped =>
      (tidy (live_of_step stepped)).step finds stepped
  refine throughout_of_invariant preserved ?_ ?_ findsOwn
  · intro sends input tidy finds next stepped live
    exact (preserved sends input next tidy finds stepped live).noOrphans
  · exact fun _ => tidy_accepted memory socket

/-- A send of two bytes completes in two parts. -/
theorem noOrphans_twoParts :
    Throughout OverlappedSends.step
      (Leads OverlappedSends.step fun sends =>
        sends.live = true → sends.NoOrphans)
      (accepted (fun _ => ⟨[], 0, 0, 0, 0⟩) 7)
      [.send [1, 2] true, .pushBack 0, .completed 0 1 true,
        .completed 0 1 true] :=
  noOrphans_of_findsOwn _ 7
    (throughout_cons rfl trivial
      (throughout_cons rfl trivial
        (throughout_cons rfl rfl
          (throughout_cons rfl rfl trivial))))

/-- The completion is handled between `WSASend` and `push_back`. -/
theorem not_noOrphans_overtaken :
    ¬∀ (memory : Nat → PerIoContextSend) (socket : Int)
        (inputs : List SendInput),
      Throughout OverlappedSends.step
        (Leads OverlappedSends.step fun sends =>
          sends.live = true → sends.NoOrphans)
        (accepted memory socket) inputs := by
  intro always
  have throughout := always (fun _ => ⟨[], 0, 0, 0, 0⟩) 7
    [.send [1, 2] true, .completed 0 2 true, .pushBack 0]
  have orphan := ((throughout.2 _ rfl).2 _ rfl).1 _ rfl rfl
  have isEmpty := orphan.empty fun address => by
    cases address with
    | zero => exact ⟨rfl, rfl⟩
    | succ address => exact ⟨rfl, rfl⟩
  exact absurd isEmpty (by decide)

end OverlappedSends

end TransPortEngine
