import TransPortEngine.Library.Framing

/-!
# Receivers of framed streams

A receiver is a step function over the inputs its environment hands it, each
carrying some of the next symbols of a framed stream. A step either fails or
delivers some messages. Two rules relate a receiver to the decoder of
`Framing`:

* if every input is one the receiver handles as the decoder does, a run over a
  complete stream delivers the messages of its frames and does not fail;
* if in addition every other input makes the receiver fail or go silent for
  good, handling all inputs is also necessary.

What the environment may hand to a receiver can depend on the receiver's state,
for instance on how much it has asked for.
-/

namespace Framing

/-- Run a receiver: the messages delivered and whether it never failed. -/
def receive (step : σ → ι → Option (σ × List β)) :
    σ → List ι → List β × Bool
  | _, [] => ([], true)
  | state, input :: inputs =>
      match step state input with
      | none => ([], false)
      | some (next, delivered) =>
          (delivered ++ (receive step next inputs).1,
            (receive step next inputs).2)

@[simp] theorem receive_nil
    (step : σ → ι → Option (σ × List β))
    (state : σ) :
    receive step state [] = ([], true) := rfl

theorem receive_cons_some
    {step : σ → ι → Option (σ × List β)}
    {state next : σ}
    {input : ι}
    {delivered : List β}
    (stepped : step state input = some (next, delivered))
    (inputs : List ι) :
    receive step state (input :: inputs) =
      (delivered ++ (receive step next inputs).1,
        (receive step next inputs).2) := by
  rw [receive, stepped]

theorem receive_cons_none
    {step : σ → ι → Option (σ × List β)}
    {state : σ}
    {input : ι}
    (stepped : step state input = none)
    (inputs : List ι) :
    receive step state (input :: inputs) = ([], false) := by
  rw [receive, stepped]

/-- Every input is one the environment may hand over in the state the receiver
has then reached. -/
def Permitted
    (step : σ → ι → Option (σ × List β))
    (allowed : σ → ι → Prop) : σ → List ι → Prop
  | _, [] => True
  | state, input :: inputs =>
      allowed state input ∧ ∀ next delivered,
        step state input = some (next, delivered) →
          Permitted step allowed next inputs

/-- A condition that does not mention the state can be checked input by
input. -/
theorem permitted_of_forall
    {step : σ → ι → Option (σ × List β)}
    {allowed : ι → Prop}
    (inputs : List ι)
    (state : σ)
    (each : ∀ input ∈ inputs, allowed input) :
    Permitted step (fun _ input => allowed input) state inputs := by
  induction inputs generalizing state with
  | nil => trivial
  | cons input inputs inductionHypothesis =>
      refine ⟨each input List.mem_cons_self, ?_⟩
      intro next delivered stepped
      apply inductionHypothesis
      intro later member
      exact each later (List.mem_cons_of_mem _ member)

namespace Format

variable (format : Format α κ)

/-- A condition on each piece of a stream, given the decoder state in which
the piece arrives. -/
def Along (fits : State α κ → List α → Prop) :
    State α κ → List (List α) → Prop
  | _, [] => True
  | state, piece :: pieces =>
      fits state piece ∧ Along fits (format.feed state piece).1 pieces

/-- The piece does not run past the head or body being collected. -/
def WithinPart (state : State α κ) (piece : List α) : Prop :=
  piece.length ≤ format.request state

/-- The piece does not run past the head being collected, and a body comes in
one piece. Empty pieces are allowed anywhere. -/
def WholeBody : State α κ → List α → Prop
  | .head seen, piece => seen.length + piece.length ≤ format.headLength
  | .body _ need seen, piece => piece = [] ∨ seen.length + piece.length = need

instance (state : State α κ) (piece : List α) :
    Decidable (format.WithinPart state piece) :=
  inferInstanceAs (Decidable (_ ≤ _))

instance [DecidableEq α] (state : State α κ) (piece : List α) :
    Decidable (format.WholeBody state piece) :=
  match state with
  | .head _ => inferInstanceAs (Decidable (_ ≤ _))
  | .body _ _ _ => inferInstanceAs (Decidable (_ ∨ _))

instance decidableAlong
    (fits : State α κ → List α → Prop)
    [∀ state piece, Decidable (fits state piece)] :
    (state : State α κ) → (pieces : List (List α)) →
      Decidable (format.Along fits state pieces)
  | _, [] => isTrue trivial
  | state, piece :: pieces =>
      have := decidableAlong fits (format.feed state piece).1 pieces
      inferInstanceAs (Decidable (_ ∧ _))

variable {format}
variable {σ ι β : Type}

/-- If every fitting input is handled as the decoder does, a run whose inputs
all fit delivers exactly the messages of the stream's frames. -/
theorem receive_of_along
    {step : σ → ι → Option (σ × List β)}
    {symbols : ι → List α}
    {deliver : κ × List α → Option β}
    {related : State α κ → σ → Prop}
    {fits : State α κ → List α → Prop}
    {allowed : σ → ι → Prop}
    (simulates : ∀ state receiver input rest
        (frames : List (Frame format)),
      related state receiver →
      allowed receiver input →
      format.Pending state (symbols input ++ rest) frames →
      fits state (symbols input) →
      ∃ next, step receiver input =
          some (next, (format.feed state (symbols input)).2.filterMap deliver) ∧
        related (format.feed state (symbols input)).1 next)
    (inputs : List ι)
    {state : State α κ}
    {receiver : σ}
    {frames : List (Frame format)}
    (start : related state receiver)
    (pending : format.Pending state (inputs.flatMap symbols) frames)
    (permitted : Permitted step allowed receiver inputs)
    (along : format.Along fits state (inputs.map symbols)) :
    receive step receiver inputs =
      (frames.filterMap fun frame => deliver frame.output, true) := by
  induction inputs generalizing state receiver frames with
  | nil =>
      obtain ⟨-, rfl⟩ := pending.nil
      rfl
  | cons input inputs inductionHypothesis =>
      obtain ⟨next, stepped, related'⟩ :=
        simulates state receiver input _ frames start permitted.1 pending
          along.1
      obtain ⟨done, left, rfl, emitted, pending'⟩ := Pending.feed pending
      rw [receive_cons_some stepped,
        inductionHypothesis related' pending' (permitted.2 _ _ stepped) along.2,
        emitted]
      rw [List.filterMap_map, List.filterMap_append]
      rfl

/-- A receiver that has gone silent delivers nothing more. -/
theorem receive_of_silent
    {step : σ → ι → Option (σ × List β)}
    {silent : σ → Prop}
    (stays : ∀ receiver input, silent receiver →
      step receiver input = none ∨
        ∃ next, step receiver input = some (next, []) ∧ silent next)
    (inputs : List ι)
    {receiver : σ}
    (start : silent receiver) :
    (receive step receiver inputs).1 = [] := by
  induction inputs generalizing receiver with
  | nil => rfl
  | cons input inputs inductionHypothesis =>
      rcases stays receiver input start with failed | ⟨next, stepped, silent'⟩
      · rw [receive_cons_none failed]
      · rw [receive_cons_some stepped, inductionHypothesis silent']
        rfl

/-- If every fitting input is handled as the decoder does, and any other input
makes the receiver fail or lose a message for good, then a run delivers the
messages of the stream without failing exactly when all its inputs fit. -/
theorem receive_iff_along
    {step : σ → ι → Option (σ × List β)}
    {symbols : ι → List α}
    {deliver : κ × List α → Option β}
    {related : State α κ → σ → Prop}
    {silent : σ → Prop}
    {fits : State α κ → List α → Prop}
    {allowed : σ → ι → Prop}
    (simulates : ∀ state receiver input rest
        (frames : List (Frame format)),
      related state receiver →
      allowed receiver input →
      format.Pending state (symbols input ++ rest) frames →
      fits state (symbols input) →
      ∃ next, step receiver input =
          some (next, (format.feed state (symbols input)).2.filterMap deliver) ∧
        related (format.feed state (symbols input)).1 next)
    (loses : ∀ state receiver input rest
        (frames : List (Frame format)),
      related state receiver →
      allowed receiver input →
      format.Pending state (symbols input ++ rest) frames →
      ¬fits state (symbols input) →
      step receiver input = none ∨
        ∃ next, step receiver input = some (next, []) ∧ silent next ∧
          (frames.filterMap fun frame => deliver frame.output) ≠ [])
    (stays : ∀ receiver input, silent receiver →
      step receiver input = none ∨
        ∃ next, step receiver input = some (next, []) ∧ silent next)
    (inputs : List ι)
    {state : State α κ}
    {receiver : σ}
    {frames : List (Frame format)}
    (start : related state receiver)
    (pending : format.Pending state (inputs.flatMap symbols) frames)
    (permitted : Permitted step allowed receiver inputs) :
    receive step receiver inputs =
        (frames.filterMap fun frame => deliver frame.output, true) ↔
      format.Along fits state (inputs.map symbols) := by
  refine ⟨fun received => ?_,
    receive_of_along simulates inputs start pending permitted⟩
  induction inputs generalizing state receiver frames with
  | nil => trivial
  | cons input inputs inductionHypothesis =>
      by_cases fit : fits state (symbols input)
      · refine ⟨fit, ?_⟩
        obtain ⟨next, stepped, related'⟩ :=
          simulates state receiver input _ frames start permitted.1 pending fit
        obtain ⟨done, left, rfl, emitted, pending'⟩ := Pending.feed pending
        apply inductionHypothesis related' pending' (permitted.2 _ _ stepped)
        rw [receive_cons_some stepped, emitted, List.filterMap_map,
          Prod.mk.injEq, List.filterMap_append] at received
        exact Prod.ext (List.append_cancel_left received.1) received.2
      · exfalso
        rcases loses state receiver input _ frames start permitted.1 pending
          fit with failed | ⟨next, stepped, silent', lost⟩
        · rw [receive_cons_none failed, Prod.mk.injEq] at received
          exact Bool.false_ne_true received.2
        · rw [receive_cons_some stepped, receive_of_silent stays _ silent',
            Prod.mk.injEq] at received
          exact lost received.1.symm

end Format

end Framing
