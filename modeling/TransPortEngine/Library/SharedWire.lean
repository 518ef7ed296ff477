import Mathlib.Logic.Function.Basic

/-!
# Several writers on one wire

Writers put jobs on a shared wire piece by piece. Each job has a list of symbols
to be written; a writer begins a job, advances in it, and the job is done with
its last symbol, or it is abandoned. If nobody advances while another writer is
in the middle of a job, the wire is at any time the concatenation of the jobs
done and of the part of the one job that is in progress.
-/

namespace SharedWire

/-- The jobs in progress with the numbers of symbols written, the jobs done and
the jobs abandoned, in order, and the wire. -/
structure State (ι τ α : Type) where
  running : ι → Option (τ × Nat)
  done : List τ
  abandoned : List τ
  wire : List α

/-- What a writer does next. -/
inductive Action (τ : Type)
  | begin (job : τ)
  | advance (count : Nat)
  | abandon

variable {ι τ α : Type}

namespace State

/-- Nothing has begun. -/
def initial : State ι τ α :=
  ⟨fun _ => none, [], [], []⟩

/-- A writer has written a part of its job that is not empty. -/
def Midway (state : State ι τ α) (writer : ι) : Prop :=
  ∃ job sent, state.running writer = some (job, sent) ∧ 0 < sent

/-- The part of its job a writer has written. -/
def part (symbols : τ → List α) (state : State ι τ α) (writer : ι) : List α :=
  match state.running writer with
  | none => []
  | some (job, sent) => (symbols job).take sent

/-- Unless a job was abandoned, the wire consists of the jobs done and of the
part written by a writer besides whom nobody is in the middle of a job. -/
def Separate (symbols : τ → List α) (state : State ι τ α) : Prop :=
  state.abandoned = [] →
    ∃ writer, (∀ other, other ≠ writer → ¬state.Midway other) ∧
      state.wire = state.done.flatMap symbols ++ state.part symbols writer

end State

variable [DecidableEq ι]

/-- One action of one writer. -/
def step
    (symbols : τ → List α)
    (state : State ι τ α)
    (label : ι × Action τ) : Option (State ι τ α) :=
  match state.running label.1, label.2 with
  | none, .begin job =>
      some { state with
        running := Function.update state.running label.1 (some (job, 0)) }
  | some (job, sent), .advance count =>
      let wire := state.wire ++ ((symbols job).drop sent).take count
      if count = 0 ∨ (symbols job).length < sent + count then none
      else if sent + count < (symbols job).length then
        some { state with
          running :=
            Function.update state.running label.1 (some (job, sent + count))
          wire := wire }
      else
        some { state with
          running := Function.update state.running label.1 none
          done := state.done ++ [job]
          wire := wire }
  | some (job, _), .abandon =>
      some { state with
        running := Function.update state.running label.1 none
        abandoned := state.abandoned ++ [job] }
  | _, _ => none

/-- A writer advances only while no other writer is in the middle of a job. -/
def Alone (state : State ι τ α) (label : ι × Action τ) : Prop :=
  ∀ count, label.2 = .advance count →
    ∀ other, other ≠ label.1 → ¬state.Midway other

section Rules

variable {symbols : τ → List α} {state : State ι τ α}

omit [DecidableEq ι] in
/-- A writer that is not in the middle of a job has written nothing of it. -/
theorem State.part_of_not_midway
    {writer : ι}
    (outside : ¬state.Midway writer) :
    state.part symbols writer = [] := by
  unfold State.part
  cases running : state.running writer with
  | none => rfl
  | some progress =>
      obtain ⟨job, sent⟩ := progress
      have nothing : sent = 0 := by
        by_contra positive
        exact outside ⟨job, sent, running, Nat.pos_of_ne_zero positive⟩
      simp [nothing]

omit [DecidableEq ι] in
/-- Any writer besides whom nobody is in the middle of a job will do. -/
theorem State.Separate.focus
    (separate : state.Separate symbols)
    (complete : state.abandoned = [])
    {writer : ι}
    (alone : ∀ other, other ≠ writer → ¬state.Midway other) :
    state.wire = state.done.flatMap symbols ++ state.part symbols writer := by
  obtain ⟨focus, others, wireEq⟩ := separate complete
  by_cases same : writer = focus
  · rw [same, wireEq]
  · rw [wireEq, State.part_of_not_midway (alone focus (Ne.symm same)),
      State.part_of_not_midway (others writer same)]

/-- Whether another writer is in the middle of a job does not depend on what a
writer does. -/
theorem midway_update
    {writer other : ι}
    (different : other ≠ writer)
    (progress : Option (τ × Nat))
    (done abandoned : List τ)
    (wire : List α) :
    State.Midway
        ⟨Function.update state.running writer progress, done, abandoned, wire⟩
        other ↔ state.Midway other := by
  unfold State.Midway
  simp only [Function.update_of_ne different]

/-- Beginning a job changes nothing on the wire. -/
theorem separate_begin
    {writer : ι}
    (separate : state.Separate symbols)
    (idle : state.running writer = none)
    (job : τ) :
    State.Separate symbols { state with
      running := Function.update state.running writer (some (job, 0)) } := by
  intro complete
  obtain ⟨focus, others, wireEq⟩ := separate complete
  have partEq : State.part symbols { state with
      running := Function.update state.running writer (some (job, 0)) } focus =
        state.part symbols focus := by
    by_cases same : focus = writer
    · subst same
      simp [State.part, idle]
    · simp [State.part, Function.update_of_ne same]
  refine ⟨focus, ?_, by rw [partEq]; exact wireEq⟩
  intro other different
  by_cases same : other = writer
  · subst same
    rintro ⟨job', sent, running, positive⟩
    simp only [Function.update_self, Option.some.injEq, Prod.mk.injEq] at running
    omega
  · rw [midway_update same]
    exact others other different

/-- Advancing alone puts the next symbols of the job behind what is there. -/
theorem separate_advance
    {writer : ι}
    {job : τ}
    {sent count : Nat}
    (separate : state.Separate symbols)
    (alone : ∀ other, other ≠ writer → ¬state.Midway other)
    (running : state.running writer = some (job, sent)) :
    State.Separate symbols { state with
      running := Function.update state.running writer (some (job, sent + count))
      wire := state.wire ++ ((symbols job).drop sent).take count } := by
  intro complete
  have wireEq := separate.focus complete alone
  refine ⟨writer, ?_, ?_⟩
  · intro other different
    rw [midway_update different]
    exact alone other different
  · simp only [State.part, Function.update_self]
    rw [wireEq, State.part, running, List.append_assoc, ← List.take_add]

/-- The last symbols of a job complete it on the wire. -/
theorem separate_finish
    {writer : ι}
    {job : τ}
    {sent count : Nat}
    (separate : state.Separate symbols)
    (alone : ∀ other, other ≠ writer → ¬state.Midway other)
    (running : state.running writer = some (job, sent))
    (last : sent + count = (symbols job).length) :
    State.Separate symbols { state with
      running := Function.update state.running writer none
      done := state.done ++ [job]
      wire := state.wire ++ ((symbols job).drop sent).take count } := by
  intro complete
  have wireEq := separate.focus complete alone
  refine ⟨writer, ?_, ?_⟩
  · intro other different
    rw [midway_update different]
    exact alone other different
  · simp only [State.part, Function.update_self, List.append_nil]
    rw [wireEq, State.part, running, List.append_assoc, ← List.take_add, last,
      List.take_length, List.flatMap_append]
    simp

/-- One step of a writer that advances alone. -/
theorem separate_step
    {next : State ι τ α}
    {label : ι × Action τ}
    (separate : state.Separate symbols)
    (alone : Alone state label)
    (stepped : step symbols state label = some next) :
    next.Separate symbols := by
  obtain ⟨writer, action⟩ := label
  cases action with
  | begin job =>
      cases running : state.running writer with
      | none =>
          simp only [step, running, Option.some.injEq] at stepped
          rw [← stepped]
          exact separate_begin separate running job
      | some progress => simp [step, running] at stepped
  | advance count =>
      have others := alone count rfl
      cases running : state.running writer with
      | none => simp [step, running] at stepped
      | some progress =>
          obtain ⟨job, sent⟩ := progress
          simp only [step, running] at stepped
          split at stepped
          · contradiction
          · split at stepped
            · rw [← Option.some.inj stepped]
              exact separate_advance separate others running
            · rename_i possible full
              rw [← Option.some.inj stepped]
              exact separate_finish separate others running (by omega)
  | abandon =>
      cases running : state.running writer with
      | none => simp [step, running] at stepped
      | some progress =>
          simp only [step, running, Option.some.injEq] at stepped
          rw [← stepped]
          intro complete
          simp at complete

omit [DecidableEq ι] in
/-- At the start nothing is on the wire. -/
theorem separate_initial [Nonempty ι] :
    (State.initial : State ι τ α).Separate symbols := by
  intro _
  refine ⟨Classical.arbitrary ι, ?_, rfl⟩
  rintro other _ ⟨job, sent, running, _⟩
  contradiction

omit [DecidableEq ι] in
/-- When no job is in progress or abandoned, the wire is the concatenation of
the jobs done. -/
theorem State.Separate.wire_eq_done
    (separate : state.Separate symbols)
    (quiet : ∀ writer, state.running writer = none)
    (complete : state.abandoned = []) :
    state.wire = state.done.flatMap symbols := by
  obtain ⟨writer, -, wireEq⟩ := separate complete
  rw [wireEq, State.part, quiet writer, List.append_nil]

end Rules

end SharedWire
