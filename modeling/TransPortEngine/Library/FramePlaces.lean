import TransPortEngine.Library.Framing

/-!
# Places in a framed stream

Where the frames of a stream begin, and which heads stand behind complete
frames. A decoder of the stream collects heads only where frames begin, and
every head it completes stands behind complete frames.
-/

namespace Framing

variable {format : Format α κ}

theorem wire_append (first second : List (Frame format)) :
    wire (first ++ second) = wire first ++ wire second := by
  simp [wire]

/-- A frame of the stream begins at a position. -/
def BeginsAt (frames : List (Frame format)) (position : Nat) : Prop :=
  ∃ earlier frame later, frames = earlier ++ frame :: later ∧
    position = (wire earlier).length

/-- No frame begins inside another one. -/
theorem not_beginsAt_inside
    {frame : Frame format}
    {offset : Nat}
    (earlier later : List (Frame format))
    (positive : 0 < offset)
    (inside : offset < frame.symbols.length) :
    ¬BeginsAt (earlier ++ frame :: later) ((wire earlier).length + offset) := by
  rintro ⟨before, other, after, cut, position⟩
  rcases List.append_eq_append_iff.mp cut with
    ⟨between, beforeEq, laterEq⟩ | ⟨between, earlierEq, otherEq⟩
  · -- the other frame stands at or behind this one
    cases between with
    | nil =>
        rw [List.append_nil] at beforeEq
        rw [beforeEq] at position
        omega
    | cons first between =>
        obtain ⟨rfl, -⟩ := List.cons.inj laterEq
        rw [beforeEq, wire_append, List.length_append, wire_cons,
          ← List.append_assoc, List.length_append] at position
        simp only [Frame.symbols] at inside
        omega
  · -- the other frame stands before this one
    rw [earlierEq, wire_append, List.length_append] at position
    omega

/-- A frame that ends behind the complete frames of a stream, and not behind the
current one, is the current one. -/
theorem current_of_end
    {frame : Frame format}
    {earlier later done left : List (Frame format)}
    (cut : earlier ++ frame :: later = done ++ left)
    (behind : (wire done).length <
      (wire earlier).length + frame.symbols.length)
    (within : ∀ current rest, left = current :: rest →
      (wire earlier).length + frame.symbols.length ≤
        (wire done).length + current.symbols.length) :
    (∃ rest, left = frame :: rest) ∧
      (wire earlier).length = (wire done).length := by
  have symbols : ∀ (other : Frame format) (others : List (Frame format)),
      (wire (other :: others)).length =
        other.symbols.length + (wire others).length := by
    intro other others
    rw [wire_cons, ← List.append_assoc, List.length_append]
    rfl
  rcases List.append_eq_append_iff.mp cut with
    ⟨between, doneEq, laterEq⟩ | ⟨between, earlierEq, leftEq⟩
  · cases between with
    | nil =>
        rw [List.append_nil] at doneEq
        exact ⟨⟨later, laterEq.symm⟩, by rw [doneEq]⟩
    | cons first between =>
        -- the frame is complete already
        obtain ⟨rfl, -⟩ := List.cons.inj laterEq
        rw [doneEq, wire_append, List.length_append, symbols] at behind
        omega
  · cases between with
    | nil =>
        rw [List.append_nil] at earlierEq
        exact ⟨⟨later, leftEq⟩, by rw [earlierEq]⟩
    | cons current between =>
        -- the current frame comes before the frame
        have reaches := within current _ leftEq
        rw [earlierEq, wire_append, List.length_append, symbols] at reaches
        have positive := format.headLength_pos
        have size : frame.symbols.length =
            format.headLength + frame.body.length := by
          rw [Frame.symbols, List.length_append, frame.head_length]
        omega

/-- A head stands in a stream behind complete frames. -/
def HeadIn (format : Format α κ) (stream head : List α) : Prop :=
  ∃ (frames : List (Frame format)) (tail : List α),
    head.length = format.headLength ∧ stream = wire frames ++ (head ++ tail)

/-- A head of a stream stands in every continuation of the stream. -/
theorem HeadIn.append
    {stream head : List α}
    (stands : HeadIn format stream head)
    (more : List α) :
    HeadIn format (stream ++ more) head := by
  obtain ⟨frames, tail, size, cut⟩ := stands
  refine ⟨frames, tail ++ more, size, ?_⟩
  rw [cut]
  simp only [List.append_assoc]

namespace Format

/-- Number of symbols of the current frame that a decoder has consumed. -/
def consumed (format : Format α κ) : State α κ → Nat
  | .head seen => seen.length
  | .body _ _ seen => format.headLength + seen.length

/-- What is pending is what the frames still lack. -/
theorem Pending.length
    {state : State α κ}
    {symbols : List α}
    {frames : List (Frame format)}
    (pending : format.Pending state symbols frames) :
    (wire frames).length = format.consumed state + symbols.length := by
  cases state with
  | head seen =>
      rw [← pending.2, List.length_append]
      rfl
  | body kind need seen =>
      obtain ⟨frame, later, rfl, -, -, -, equal⟩ := pending
      have lengths := congrArg List.length equal
      simp only [List.length_append] at lengths
      rw [wire_cons, List.length_append, frame.head_length, consumed,
        List.length_append]
      omega

/-- A decoder that collects a head does so from the beginning of a frame. -/
theorem Pending.beginsAt
    {seen symbols : List α}
    {done left : List (Frame format)}
    {position : Nat}
    (pending : format.Pending (.head seen) symbols left)
    (nonempty : symbols ≠ [])
    (remains : position + symbols.length = (wire (done ++ left)).length) :
    ∃ start, BeginsAt (done ++ left) start ∧ position = start + seen.length := by
  have size := pending.length
  rw [wire_append, List.length_append, size, consumed] at remains
  cases left with
  | nil =>
      have equal := pending.2
      rw [wire_nil, List.append_eq_nil_iff] at equal
      exact absurd equal.2 nonempty
  | cons frame later =>
      exact ⟨(wire done).length, ⟨done, frame, later, rfl, rfl⟩, by omega⟩

/-- A head that comes in one piece. -/
theorem feed_head_whole
    {head : List α}
    (size : head.length = format.headLength) :
    format.feed (.head []) head = format.afterHead head := by
  have opened : ([] : List α).length < format.headLength :=
    format.headLength_pos
  have full : ([] : List α).length + head.length = format.headLength := by
    simpa using size
  rw [format.feed_head_full opened full, List.nil_append]

/-- A body that comes in one piece. -/
theorem feed_body_whole
    {kind : κ}
    {body : List α}
    (positive : 0 < body.length) :
    format.feed (.body kind body.length []) body =
      (.head [], [(kind, body)]) := by
  have opened : ([] : List α).length < body.length := positive
  have full : ([] : List α).length + body.length = body.length := by simp
  rw [format.feed_body_full opened full, List.nil_append]

/-- Where a decoder is after some symbols: behind complete frames and the part
of a frame that it holds. -/
def Reached (format : Format α κ) : State α κ → List α → Prop
  | .head seen, symbols =>
      ∃ frames : List (Frame format), symbols = wire frames ++ seen ∧
        seen.length < format.headLength
  | .body kind need seen, symbols =>
      ∃ (frames : List (Frame format)) (head : List α),
        symbols = wire frames ++ (head ++ seen) ∧
          head.length = format.headLength ∧
            format.parse head = (kind, need) ∧ seen.length < need

theorem reached_nil : format.Reached (.head []) [] :=
  ⟨[], rfl, format.headLength_pos⟩

/-- The head that a decoder completes stands in the stream. -/
theorem Reached.headIn
    {seen symbols more : List α}
    (reached : format.Reached (.head seen) symbols)
    (full : seen.length + more.length = format.headLength) :
    HeadIn format (symbols ++ more) (seen ++ more) := by
  obtain ⟨frames, cut, -⟩ := reached
  refine ⟨frames, [], ?_, ?_⟩
  · rw [List.length_append, full]
  · rw [cut, List.append_nil, List.append_assoc]

/-- Where a decoder is behind a complete head. -/
theorem reached_afterHead
    {head symbols : List α}
    {frames : List (Frame format)}
    (allValid : ∀ head, format.valid head)
    (size : head.length = format.headLength)
    (cut : symbols = wire frames ++ head) :
    format.Reached (format.afterHead head).1 symbols := by
  by_cases zero : (format.parse head).2 = 0
  · rw [format.afterHead_of_zero zero]
    refine ⟨frames ++ [⟨head, [], size, allValid head, zero.symm⟩], ?_,
      format.headLength_pos⟩
    rw [cut, wire_append]
    simp
  · have positive : 0 < (format.parse head).2 := by omega
    rw [format.afterHead_of_pos positive]
    refine ⟨frames, head, ?_, size, rfl, positive⟩
    rw [cut, List.append_nil]

/-- One more symbol. -/
theorem Reached.step
    {state : State α κ}
    {symbols : List α}
    (allValid : ∀ head, format.valid head)
    (reached : format.Reached state symbols)
    (symbol : α) :
    format.Reached (format.step state symbol).1 (symbols ++ [symbol]) := by
  cases state with
  | head seen =>
      obtain ⟨frames, rfl, opened⟩ := reached
      by_cases short : seen.length + 1 < format.headLength
      · simp only [Format.step, if_pos short]
        refine ⟨frames, List.append_assoc _ _ _, ?_⟩
        simpa using short
      · simp only [Format.step, if_neg short]
        refine reached_afterHead allValid ?_ (List.append_assoc _ _ _)
        rw [List.length_append, List.length_singleton]
        omega
  | body kind need seen =>
      obtain ⟨frames, head, rfl, size, announces, opened⟩ := reached
      by_cases short : seen.length + 1 < need
      · simp only [Format.step, if_pos short]
        refine ⟨frames, head, ?_, size, announces, ?_⟩
        · simp only [List.append_assoc]
        · simpa using short
      · simp only [Format.step, if_neg short]
        have full : (seen ++ [symbol]).length = (format.parse head).2 := by
          rw [announces, List.length_append, List.length_singleton]
          change _ = need
          omega
        refine ⟨frames ++ [⟨head, seen ++ [symbol], size, allValid head, full⟩],
          ?_, format.headLength_pos⟩
        rw [wire_append]
        simp

/-- More symbols. -/
theorem Reached.feed
    {state : State α κ}
    {symbols : List α}
    (allValid : ∀ head, format.valid head)
    (reached : format.Reached state symbols)
    (more : List α) :
    format.Reached (format.feed state more).1 (symbols ++ more) := by
  induction more generalizing state symbols with
  | nil =>
      rw [List.append_nil]
      exact reached
  | cons symbol more inductionHypothesis =>
      have stepped := inductionHypothesis (reached.step allValid symbol)
      rw [List.append_assoc, List.singleton_append] at stepped
      exact stepped

end Format

end Framing
