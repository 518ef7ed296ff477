/-!
# Length-prefixed framing

A stream of symbols is cut into frames. A frame is a head of fixed length
followed by a body whose length the head announces. The incremental decoder
consumes one symbol at a time and emits each frame's kind and body when the
frame is complete. Feeding a stream in pieces and feeding it at once agree, so
a decoder's output depends on the symbols alone.
-/

namespace Framing

/-- A framing format: the length of a head, the heads that may be sent, and
the kind and body length a head announces. -/
structure Format (α κ : Type) where
  headLength : Nat
  headLength_pos : 0 < headLength
  valid : List α → Prop
  parse : List α → κ × Nat

/-- A well-formed frame of a format. -/
structure Frame (format : Format α κ) where
  head : List α
  body : List α
  head_length : head.length = format.headLength
  head_valid : format.valid head
  body_length : body.length = (format.parse head).2

namespace Frame

/-- The kind announced by the head. -/
def kind {format : Format α κ} (frame : Frame format) : κ :=
  (format.parse frame.head).1

/-- What a decoder emits for the frame. -/
def output {format : Format α κ} (frame : Frame format) : κ × List α :=
  (frame.kind, frame.body)

/-- The symbols the frame occupies in a stream. -/
def symbols {format : Format α κ} (frame : Frame format) : List α :=
  frame.head ++ frame.body

end Frame

/-- The stream made of a list of frames. -/
def wire {format : Format α κ} (frames : List (Frame format)) : List α :=
  frames.flatMap Frame.symbols

@[simp] theorem wire_nil {format : Format α κ} :
    wire ([] : List (Frame format)) = [] := rfl

@[simp] theorem wire_cons
    {format : Format α κ}
    (frame : Frame format)
    (frames : List (Frame format)) :
    wire (frame :: frames) = frame.head ++ (frame.body ++ wire frames) := by
  simp [wire, Frame.symbols]

/-- Position of a decoder inside a stream: symbols of an incomplete head, or
symbols of an incomplete body of a known kind and length. -/
inductive State (α κ : Type)
  | head (seen : List α)
  | body (kind : κ) (need : Nat) (seen : List α)

namespace Format

variable (format : Format α κ)

/-- State and output after a complete head. An empty body completes the frame
at once. -/
def afterHead (head : List α) : State α κ × List (κ × List α) :=
  match (format.parse head).2 with
  | 0 => (.head [], [((format.parse head).1, [])])
  | need + 1 => (.body (format.parse head).1 (need + 1) [], [])

/-- Consume one symbol. -/
def step : State α κ → α → State α κ × List (κ × List α)
  | .head seen, symbol =>
      if seen.length + 1 < format.headLength then
        (.head (seen ++ [symbol]), [])
      else format.afterHead (seen ++ [symbol])
  | .body kind need seen, symbol =>
      if seen.length + 1 < need then
        (.body kind need (seen ++ [symbol]), [])
      else (.head [], [(kind, seen ++ [symbol])])

/-- Consume a list of symbols, collecting the frames completed on the way. -/
def feed : State α κ → List α → State α κ × List (κ × List α)
  | state, [] => (state, [])
  | state, symbol :: symbols =>
      ((feed (format.step state symbol).1 symbols).1,
        (format.step state symbol).2 ++
          (feed (format.step state symbol).1 symbols).2)

@[simp] theorem feed_nil (state : State α κ) :
    format.feed state [] = (state, []) := rfl

/-- Number of symbols that complete the current head or body. -/
def request : State α κ → Nat
  | .head seen => format.headLength - seen.length
  | .body _ need seen => need - seen.length

/-- A decoder state whose head or body is still incomplete. -/
def Open : State α κ → Prop
  | .head seen => seen.length < format.headLength
  | .body _ need seen => seen.length < need

theorem feed_append
    (state : State α κ)
    (first second : List α) :
    format.feed state (first ++ second) =
      ((format.feed (format.feed state first).1 second).1,
        (format.feed state first).2 ++
          (format.feed (format.feed state first).1 second).2) := by
  induction first generalizing state with
  | nil => simp
  | cons symbol symbols inductionHypothesis =>
      simp [feed, inductionHypothesis]

private theorem exists_last_of_pos
    {symbols : List α}
    (positive : 0 < symbols.length) :
    ∃ first last, symbols = first ++ [last] :=
  ⟨symbols.dropLast, symbols.getLast (List.ne_nil_of_length_pos positive),
    (List.dropLast_concat_getLast _).symm⟩

/-- Symbols that do not complete the head are collected. -/
theorem feed_head_short
    {seen symbols : List α}
    (short : seen.length + symbols.length < format.headLength) :
    format.feed (.head seen) symbols = (.head (seen ++ symbols), []) := by
  induction symbols generalizing seen with
  | nil => simp
  | cons symbol symbols inductionHypothesis =>
      simp only [List.length_cons] at short
      rw [feed, step, if_pos (by omega),
        inductionHypothesis (by simp only [List.length_append,
          List.length_singleton]; omega)]
      simp

/-- Symbols that exactly complete the head lead to the state it announces. -/
theorem feed_head_full
    {seen symbols : List α}
    (opened : seen.length < format.headLength)
    (full : seen.length + symbols.length = format.headLength) :
    format.feed (.head seen) symbols = format.afterHead (seen ++ symbols) := by
  have positive : 0 < symbols.length := by omega
  obtain ⟨first, last, rfl⟩ := exists_last_of_pos positive
  simp only [List.length_append, List.length_singleton] at full
  rw [feed_append, feed_head_short format (by omega)]
  rw [feed, step, if_neg (by simp only [List.length_append]; omega)]
  simp

/-- Symbols that do not complete the body are collected. -/
theorem feed_body_short
    {kind : κ}
    {need : Nat}
    {seen symbols : List α}
    (short : seen.length + symbols.length < need) :
    format.feed (.body kind need seen) symbols =
      (.body kind need (seen ++ symbols), []) := by
  induction symbols generalizing seen with
  | nil => simp
  | cons symbol symbols inductionHypothesis =>
      simp only [List.length_cons] at short
      rw [feed, step, if_pos (by omega),
        inductionHypothesis (by simp only [List.length_append,
          List.length_singleton]; omega)]
      simp

/-- Symbols that exactly complete the body emit the frame. -/
theorem feed_body_full
    {kind : κ}
    {need : Nat}
    {seen symbols : List α}
    (opened : seen.length < need)
    (full : seen.length + symbols.length = need) :
    format.feed (.body kind need seen) symbols =
      (.head [], [(kind, seen ++ symbols)]) := by
  have positive : 0 < symbols.length := by omega
  obtain ⟨first, last, rfl⟩ := exists_last_of_pos positive
  simp only [List.length_append, List.length_singleton] at full
  rw [feed_append, feed_body_short format (by omega)]
  rw [feed, step, if_neg (by simp only [List.length_append]; omega)]
  simp

/-- Head-completion output of a head that announces a nonempty body. -/
theorem afterHead_of_pos
    {head : List α}
    (positive : 0 < (format.parse head).2) :
    format.afterHead head =
      (.body (format.parse head).1 (format.parse head).2 [], []) := by
  unfold afterHead
  split
  · rename_i zero
    omega
  · rename_i need announced
    rw [announced]

/-- Head-completion output of a head that announces an empty body. -/
theorem afterHead_of_zero
    {head : List α}
    (zero : (format.parse head).2 = 0) :
    format.afterHead head = (.head [], [((format.parse head).1, [])]) := by
  unfold afterHead
  rw [zero]

/-! ## Streams of frames -/

/-- The symbols still to come complete exactly the given frames, the first of
which may already be partly consumed. -/
def Pending : State α κ → List α → List (Frame format) → Prop
  | .head seen, symbols, frames =>
      seen.length < format.headLength ∧ seen ++ symbols = wire frames
  | .body kind need seen, symbols, frames =>
      ∃ frame later, frames = frame :: later ∧ kind = frame.kind ∧
        need = frame.body.length ∧ seen.length < need ∧
          seen ++ symbols = frame.body ++ wire later

variable {format}

/-- A whole stream of frames is pending at the start. -/
theorem pending_wire (frames : List (Frame format)) :
    format.Pending (.head []) (wire frames) frames :=
  ⟨format.headLength_pos, by simp⟩

/-- At the end of the stream no head or body is left open. -/
theorem Pending.nil
    {state : State α κ}
    {frames : List (Frame format)}
    (pending : format.Pending state [] frames) :
    state = .head [] ∧ frames = [] := by
  cases state with
  | head seen =>
      obtain ⟨short, equal⟩ := pending
      cases frames with
      | nil => simpa using equal
      | cons frame later =>
          have lengths := congrArg List.length equal
          have headLength := frame.head_length
          simp only [wire_cons, List.length_append, List.length_nil] at lengths
          omega
  | body kind need seen =>
      obtain ⟨frame, later, rfl, rfl, rfl, short, equal⟩ := pending
      have lengths := congrArg List.length equal
      simp only [List.length_append, List.length_nil] at lengths
      omega

/-- A pending head that is now complete belongs to the first frame. -/
theorem Pending.headComplete
    {seen symbols rest : List α}
    {frames : List (Frame format)}
    (pending : format.Pending (.head seen) (symbols ++ rest) frames)
    (full : seen.length + symbols.length = format.headLength) :
    ∃ frame later, frames = frame :: later ∧ seen ++ symbols = frame.head ∧
      rest = frame.body ++ wire later := by
  obtain ⟨short, equal⟩ := pending
  rw [← List.append_assoc] at equal
  cases frames with
  | nil =>
      have lengths := congrArg List.length equal
      simp only [List.length_append, wire_nil, List.length_nil] at lengths
      have positive := format.headLength_pos
      omega
  | cons frame later =>
      rw [wire_cons] at equal
      obtain ⟨headEqual, restEqual⟩ := List.append_inj equal (by
        rw [frame.head_length, List.length_append]
        exact full)
      exact ⟨frame, later, rfl, headEqual, restEqual⟩

/-- After the head of the first frame its body is pending. -/
theorem pending_afterHead
    (frame : Frame format)
    (later : List (Frame format)) :
    ∃ done left, frame :: later = done ++ left ∧
      (format.afterHead frame.head).2 = done.map Frame.output ∧
        format.Pending (format.afterHead frame.head).1
          (frame.body ++ wire later) left := by
  have bodyLength := frame.body_length
  by_cases zero : (format.parse frame.head).2 = 0
  · have empty : frame.body = [] := List.eq_nil_of_length_eq_zero (by omega)
    refine ⟨[frame], later, rfl, ?_, ?_⟩
    · simp [format.afterHead_of_zero zero, Frame.output, Frame.kind, empty]
    · rw [format.afterHead_of_zero zero, empty]
      exact pending_wire later
  · have positive : 0 < (format.parse frame.head).2 := by omega
    refine ⟨[], frame :: later, rfl, ?_, ?_⟩
    · simp [format.afterHead_of_pos positive]
    · rw [format.afterHead_of_pos positive]
      exact ⟨frame, later, rfl, rfl, bodyLength.symm, by simpa using by omega,
        rfl⟩

/-- One symbol of a pending stream. -/
theorem Pending.step
    {state : State α κ}
    {symbol : α}
    {rest : List α}
    {frames : List (Frame format)}
    (pending : format.Pending state (symbol :: rest) frames) :
    ∃ done left, frames = done ++ left ∧
      (format.step state symbol).2 = done.map Frame.output ∧
        format.Pending (format.step state symbol).1 rest left := by
  cases state with
  | head seen =>
      by_cases short : seen.length + 1 < format.headLength
      · refine ⟨[], frames, rfl, by simp [Format.step, short], ?_⟩
        simp only [Format.step, if_pos short]
        exact ⟨by simpa using short, by simpa using pending.2⟩
      · have full : seen.length + [symbol].length = format.headLength := by
          have opened := pending.1
          simp only [List.length_singleton]
          omega
        have pendingHead :
            format.Pending (.head seen) ([symbol] ++ rest) frames := pending
        obtain ⟨frame, later, rfl, headEqual, rfl⟩ :=
          pendingHead.headComplete full
        simp only [Format.step, if_neg short, headEqual]
        exact pending_afterHead frame later
  | body kind need seen =>
      obtain ⟨frame, later, rfl, rfl, rfl, opened, equal⟩ := pending
      by_cases short : seen.length + 1 < frame.body.length
      · refine ⟨[], frame :: later, rfl, by simp [Format.step, short], ?_⟩
        simp only [Format.step, if_pos short]
        exact ⟨frame, later, rfl, rfl, rfl, by simpa using short,
          by simpa using equal⟩
      · have equal' : (seen ++ [symbol]) ++ rest = frame.body ++ wire later := by
          simpa using equal
        obtain ⟨bodyEqual, restEqual⟩ := List.append_inj equal' (by
          simp only [List.length_append, List.length_singleton]
          omega)
        refine ⟨[frame], later, rfl, ?_, ?_⟩
        · simp [Format.step, short, Frame.output, bodyEqual]
        · simp only [Format.step, if_neg short, restEqual]
          exact pending_wire later

/-- Feeding part of a pending stream emits the frames it completes and leaves
the others pending. -/
theorem Pending.feed
    {state : State α κ}
    {symbols rest : List α}
    {frames : List (Frame format)}
    (pending : format.Pending state (symbols ++ rest) frames) :
    ∃ done left, frames = done ++ left ∧
      (format.feed state symbols).2 = done.map Frame.output ∧
        format.Pending (format.feed state symbols).1 rest left := by
  induction symbols generalizing state frames with
  | nil => exact ⟨[], frames, rfl, rfl, pending⟩
  | cons symbol symbols inductionHypothesis =>
      obtain ⟨done, left, rfl, emitted, stepped⟩ := Pending.step pending
      obtain ⟨doneLater, leftLater, rfl, emittedLater, fed⟩ :=
        inductionHypothesis stepped
      refine ⟨done ++ doneLater, leftLater, by simp, ?_, fed⟩
      simp [Format.feed, emitted, emittedLater]

/-- More frames behind those that are pending. -/
theorem Pending.append
    {state : State α κ}
    {symbols : List α}
    {frames : List (Frame format)}
    (pending : format.Pending state symbols frames)
    (later : List (Frame format)) :
    format.Pending state (symbols ++ wire later) (frames ++ later) := by
  have both : ∀ first : List (Frame format),
      wire (first ++ later) = wire first ++ wire later :=
    fun first => List.flatMap_append
  cases state with
  | head seen =>
      obtain ⟨short, equal⟩ := pending
      exact ⟨short, by rw [← List.append_assoc, equal, both]⟩
  | body kind need seen =>
      obtain ⟨frame, others, rfl, kindEq, needEq, opened, equal⟩ := pending
      refine ⟨frame, others ++ later, rfl, kindEq, needEq, opened, ?_⟩
      rw [← List.append_assoc, equal, List.append_assoc, both]

/-- One more frame. -/
theorem Pending.append_frame
    {state : State α κ}
    {symbols : List α}
    {frames : List (Frame format)}
    (pending : format.Pending state symbols frames)
    (frame : Frame format) :
    format.Pending state (symbols ++ frame.symbols) (frames ++ [frame]) := by
  have one : wire [frame] = frame.symbols := List.flatMap_singleton ..
  exact one ▸ pending.append [frame]

/-- Decoding a stream of frames yields exactly these frames. -/
theorem feed_wire (frames : List (Frame format)) :
    format.feed (.head []) (wire frames) =
      (.head [], frames.map Frame.output) := by
  have start : format.Pending (.head []) (wire frames ++ []) frames := by
    simpa using pending_wire frames
  obtain ⟨done, left, equal, emitted, pending⟩ := start.feed
  obtain ⟨stateEqual, rfl⟩ := pending.nil
  rw [List.append_nil] at equal
  subst equal
  exact Prod.ext stateEqual emitted

end Format

end Framing
