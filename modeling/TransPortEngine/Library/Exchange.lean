import Mathlib.Data.List.Basic
import Mathlib.Logic.Function.Basic
import TransPortEngine.Library.Transition

/-!
# Two parties that exchange messages

Each of two parties has a mailbox the other one posts to. A party posts what it
is asked to post, and whenever it takes a message it posts its answers to it.
Messages are taken in the order in which they were posted: what has been posted
to a party is a merge of what the other one was asked to post and of its
answers, and what has been taken is the first part of it.
-/

namespace Exchange

/-! ## Merges of two lists -/

/-- A list made of two others, each of which keeps its order. -/
inductive Merges : List μ → List μ → List μ → Prop
  | nil : Merges [] [] []
  | left (message : μ) :
      Merges first second both → Merges (first ++ [message]) second (both ++ [message])
  | right (message : μ) :
      Merges first second both → Merges first (second ++ [message]) (both ++ [message])

namespace Merges

variable {first second both : List μ}

/-- Several more on the right. -/
theorem append_right
    (merges : Merges first second both)
    (later : List μ) :
    Merges first (second ++ later) (both ++ later) := by
  induction later generalizing second both with
  | nil => simpa using merges
  | cons message later inductionHypothesis =>
      have more := inductionHypothesis (merges.right message)
      simpa using more

/-- Without a second list there is only the first one. -/
theorem eq_first (merges : Merges first [] both) : both = first := by
  generalize none : ([] : List μ) = second at merges
  induction merges with
  | nil => rfl
  | left message merges inductionHypothesis =>
      rw [inductionHypothesis none]
  | right message merges inductionHypothesis => simp at none

/-- Everything in a merge is in one of the two lists. -/
theorem mem
    {message : μ}
    (merges : Merges first second both)
    (member : message ∈ both) :
    message ∈ first ∨ message ∈ second := by
  induction merges with
  | nil => contradiction
  | left last merges inductionHypothesis =>
      rcases List.mem_append.mp member with earlier | isLast
      · exact (inductionHypothesis earlier).imp_left (List.mem_append_left _)
      · exact Or.inl (List.mem_append_right _ isLast)
  | right last merges inductionHypothesis =>
      rcases List.mem_append.mp member with earlier | isLast
      · exact (inductionHypothesis earlier).imp_right (List.mem_append_left _)
      · exact Or.inr (List.mem_append_right _ isLast)

/-- Occurrences add up. -/
theorem count_eq
    [DecidableEq μ]
    (merges : Merges first second both)
    (message : μ) :
    both.count message = first.count message + second.count message := by
  induction merges with
  | nil => rfl
  | left _ _ inductionHypothesis =>
      simp only [List.count_append, inductionHypothesis]
      omega
  | right _ _ inductionHypothesis =>
      simp only [List.count_append, inductionHypothesis]
      omega

end Merges

/-! ## Mailboxes -/

/-- Messages on their way to a party, oldest first, and those it has taken. -/
structure Mailbox (μ : Type) where
  taken : List μ
  waiting : List μ

namespace Mailbox

/-- Everything that has been posted. -/
def posted (mailbox : Mailbox μ) : List μ :=
  mailbox.taken ++ mailbox.waiting

/-- Some more messages. -/
def post (mailbox : Mailbox μ) (messages : List μ) : Mailbox μ :=
  { mailbox with waiting := mailbox.waiting ++ messages }

@[simp] theorem posted_post (mailbox : Mailbox μ) (messages : List μ) :
    (mailbox.post messages).posted = mailbox.posted ++ messages :=
  (List.append_assoc ..).symm

@[simp] theorem taken_post (mailbox : Mailbox μ) (messages : List μ) :
    (mailbox.post messages).taken = mailbox.taken := rfl

/-- What has been taken is the first part of what has been posted. -/
theorem taken_prefix_posted (mailbox : Mailbox μ) :
    mailbox.taken <+: mailbox.posted :=
  List.prefix_append ..

end Mailbox

/-! ## The exchange -/

/-- The two parties. -/
inductive Party
  | near
  | far
  deriving DecidableEq, Repr

/-- The other party. -/
def Party.other : Party → Party
  | .near => .far
  | .far => .near

@[simp] theorem Party.other_other (party : Party) :
    party.other.other = party := by
  cases party <;> rfl

theorem Party.other_ne (party : Party) : party.other ≠ party := by
  cases party <;> simp [Party.other]

/-- There are two parties. -/
theorem Party.eq_other
    {first second : Party}
    (different : ¬first = second) :
    first = second.other := by
  cases first <;> cases second <;> first | rfl | contradiction

/-- The mailboxes of the parties, and what each was asked to post. -/
structure State (μ : Type) where
  inbox : Party → Mailbox μ
  asked : Party → List μ

/-- Nothing has been posted. -/
def State.empty : State μ where
  inbox := fun _ => ⟨[], []⟩
  asked := fun _ => []

/-- A party is asked to post a message, or takes its oldest one. -/
inductive Move (μ : Type)
  | ask (party : Party) (message : μ)
  | take (party : Party)

/-- One move, given what each party answers to a message. -/
def step (answers : Party → μ → List μ) (state : State μ) :
    Move μ → Option (State μ)
  | .ask party message =>
      some {
        inbox := Function.update state.inbox party.other
          ((state.inbox party.other).post [message])
        asked := Function.update state.asked party
          (state.asked party ++ [message]) }
  | .take party =>
      match (state.inbox party).waiting with
      | [] => none
      | message :: waiting =>
          some { state with
            inbox := Function.update
              (Function.update state.inbox party
                ⟨(state.inbox party).taken ++ [message], waiting⟩)
              party.other
              ((state.inbox party.other).post (answers party message)) }

/-- What has been posted to a party merges what the other one was asked to post
with its answers to what it has taken. -/
def Fair (answers : Party → μ → List μ) (state : State μ) : Prop :=
  ∀ party, Merges (state.asked party)
    ((state.inbox party).taken.flatMap (answers party))
    (state.inbox party.other).posted

theorem fair_empty (answers : Party → μ → List μ) : Fair answers .empty :=
  fun _ => .nil

/-- Every move keeps the mailboxes fair. -/
theorem fair_step
    {answers : Party → μ → List μ}
    {state next : State μ}
    (move : Move μ)
    (fair : Fair answers state)
    (stepped : step answers state move = some next) :
    Fair answers next := by
  intro side
  have before := fair side
  cases move with
  | ask party message =>
      rw [step, Option.some.injEq] at stepped
      subst stepped
      by_cases same : side = party
      · subst same
        simp only [Function.update_self, Function.update_of_ne side.other_ne.symm,
          Mailbox.posted_post]
        exact before.left message
      · obtain rfl := Party.eq_other same
        simp only [Function.update_of_ne party.other_ne, Party.other_other,
          Function.update_of_ne party.other_ne.symm, Function.update_self,
          Mailbox.taken_post] at before ⊢
        exact before
  | take party =>
      rw [step] at stepped
      split at stepped
      · contradiction
      · rename_i message waiting first
        rw [Option.some.injEq] at stepped
        subst stepped
        by_cases same : side = party
        · subst same
          simp only [Function.update_self,
            Function.update_of_ne side.other_ne.symm, Mailbox.posted_post,
            List.flatMap_append, List.flatMap_singleton]
          exact before.append_right _
        · obtain rfl := Party.eq_other same
          simp only [Party.other_other, Function.update_of_ne
            party.other_ne.symm, Function.update_self, Mailbox.taken_post]
            at before ⊢
          have unchanged : (⟨(state.inbox party).taken ++ [message], waiting⟩ :
              Mailbox μ).posted = (state.inbox party).posted := by
            simp [Mailbox.posted, first]
          rw [unchanged]
          exact before

/-- What is on its way to a party is something the other one was asked to post, or
its answer to something it has taken. -/
theorem Fair.waiting
    {answers : Party → μ → List μ}
    {state : State μ}
    {party : Party}
    {message : μ}
    (fair : Fair answers state)
    (member : message ∈ (state.inbox party.other).waiting) :
    message ∈ state.asked party ∨
      message ∈ (state.inbox party).taken.flatMap (answers party) :=
  (fair party).mem (List.mem_append_right _ member)

/-- A party takes its oldest message. -/
theorem step_take
    (answers : Party → μ → List μ)
    {state : State μ}
    {party : Party}
    {message : μ}
    {rest : List μ}
    (waits : (state.inbox party).waiting = message :: rest) :
    ∃ next, step answers state (.take party) = some next ∧
      next.inbox party = ⟨(state.inbox party).taken ++ [message], rest⟩ ∧
      next.inbox party.other =
        (state.inbox party.other).post (answers party message) ∧
      next.asked = state.asked := by
  rw [step, waits]
  refine ⟨_, rfl, ?_, ?_, rfl⟩
  · simp only [Function.update_of_ne party.other_ne.symm, Function.update_self]
  · simp only [Function.update_self]

/-- A party takes its oldest messages one after the other, and answers each. -/
theorem run_takes
    (answers : Party → μ → List μ)
    {state : State μ}
    {party : Party}
    {messages rest : List μ}
    (waits : (state.inbox party).waiting = messages ++ rest) :
    ∃ next, Transition.run (step answers) state
        (List.replicate messages.length (.take party)) = some next ∧
      next.inbox party = ⟨(state.inbox party).taken ++ messages, rest⟩ ∧
      next.inbox party.other = (state.inbox party.other).post
        (messages.flatMap (answers party)) ∧
      next.asked = state.asked := by
  induction messages generalizing state with
  | nil =>
      refine ⟨state, rfl, ?_, ?_, rfl⟩
      · rw [List.append_nil]
        rw [List.nil_append] at waits
        exact waits ▸ rfl
      · simp [Mailbox.post]
  | cons message messages inductionHypothesis =>
      obtain ⟨middle, taken, ownMiddle, othersMiddle, askedMiddle⟩ :=
        step_take answers waits
      have waitsMiddle : (middle.inbox party).waiting = messages ++ rest := by
        rw [ownMiddle]
        rfl
      obtain ⟨next, reached, own, others, asked⟩ :=
        inductionHypothesis waitsMiddle
      refine ⟨next, ?_, ?_, ?_, asked.trans askedMiddle⟩
      · rw [List.length_cons, List.replicate_succ,
          Transition.run_cons_some taken]
        exact reached
      · rw [own, ownMiddle]
        simp
      · rw [others, othersMiddle]
        simp [Mailbox.post]

end Exchange
