import Mathlib.Data.List.GetD
import Mathlib.Order.Basic
import Mathlib.Tactic.Linarith

/-!
# Beats and the stamps they leave

Beats come at certain times, each within a period of the one before. Somebody who
hears the beats one after the other keeps a stamp, which is never earlier than any
beat it has heard. If each beat is heard within a delay, then the stamp is never
older than the period and the delay together.
-/

namespace Pace

/-- The time of the last beat, or of the start if there was none. -/
def last (start : Int) (beats : List Int) : Int :=
  beats.getLastD start

@[simp] theorem last_nil (start : Int) : last start [] = start := rfl

@[simp] theorem last_cons (start beat : Int) (beats : List Int) :
    last start (beat :: beats) = last beat beats :=
  List.getLastD_cons ..

@[simp] theorem last_append (start beat : Int) (beats : List Int) :
    last start (beats ++ [beat]) = beat :=
  List.getLastD_concat ..

/-- The first beat follows the start within a period, and each later one the beat
before it. -/
def Paced (period : Int) : Int → List Int → Prop
  | _, [] => True
  | start, beat :: beats =>
      start ≤ beat ∧ beat ≤ start + period ∧ Paced period beat beats

/-- A stamp that is no earlier than the start and than the beats heard so far. -/
structure Stamped
    (start : Int)
    (beats : List Int)
    (heard : Nat)
    (stamp : Int) : Prop where
  start : start ≤ stamp
  heard : ∀ index < heard, ∀ beat, beats[index]? = some beat → beat ≤ stamp

/-- A beat that lies back by more than the delay has been heard. -/
def Prompt (beats : List Int) (heard : Nat) (delay now : Int) : Prop :=
  ∀ index beat, beats[index]? = some beat → beat + delay < now → index < heard

/-- Whoever has heard all beats has heard each of them in time. -/
theorem prompt_of_all
    {beats : List Int}
    {heard : Nat}
    (all : beats.length ≤ heard)
    (delay now : Int) :
    Prompt beats heard delay now := by
  intro index beat isBeat _
  exact (List.getElem?_eq_some_iff.mp isBeat).1.trans_le all

section Paced

variable {period start now beat : Int} {beats : List Int}

/-- One more beat. -/
theorem Paced.append
    (paced : Paced period start beats)
    (later : last start beats ≤ beat)
    (inTime : beat ≤ last start beats + period) :
    Paced period start (beats ++ [beat]) := by
  induction beats generalizing start with
  | nil => exact ⟨later, inTime, trivial⟩
  | cons first beats inductionHypothesis =>
      obtain ⟨after, within, paced⟩ := paced
      rw [last_cons] at later inTime
      exact ⟨after, within, inductionHypothesis paced later inTime⟩

/-- No beat comes before the start. -/
theorem Paced.start_le_last (paced : Paced period start beats) :
    start ≤ last start beats := by
  induction beats generalizing start with
  | nil => exact le_rfl
  | cons first beats inductionHypothesis =>
      obtain ⟨after, -, paced⟩ := paced
      rw [last_cons]
      exact after.trans (inductionHypothesis paced)

/-- No beat comes behind the last one. -/
theorem Paced.le_last
    (paced : Paced period start beats)
    (member : beat ∈ beats) :
    beat ≤ last start beats := by
  induction beats generalizing start with
  | nil => contradiction
  | cons first beats inductionHypothesis =>
      obtain ⟨-, -, paced⟩ := paced
      rw [last_cons]
      cases member with
      | head => exact paced.start_le_last
      | tail _ member => exact inductionHypothesis paced member

/-- At any time between the start and now, the beat before lies back by a period at
most. -/
theorem Paced.exists_before
    {time : Int}
    (paced : Paced period start beats)
    (started : start < time)
    (past : time ≤ now)
    (beaten : now ≤ last start beats + period) :
    ∃ beat, beat < time ∧ time ≤ beat + period ∧
      (beat = start ∨ beat ∈ beats) := by
  induction beats generalizing start with
  | nil => exact ⟨start, started, past.trans beaten, Or.inl rfl⟩
  | cons first beats inductionHypothesis =>
      obtain ⟨-, within, paced⟩ := paced
      by_cases earlier : first < time
      · rw [last_cons] at beaten
        obtain ⟨beat, before, recent, isBeat⟩ :=
          inductionHypothesis paced earlier beaten
        refine ⟨beat, before, recent, Or.inr ?_⟩
        rcases isBeat with rfl | member
        · exact List.mem_cons_self
        · exact List.mem_cons_of_mem _ member
      · exact ⟨start, started, (not_lt.mp earlier).trans within, Or.inl rfl⟩

end Paced

section Stamped

variable {start now stamp beat : Int} {beats : List Int} {heard : Nat}

/-- A later beat has not been heard yet. -/
theorem Stamped.append
    (stamped : Stamped start beats heard stamp)
    (earlier : heard ≤ beats.length) :
    Stamped start (beats ++ [beat]) heard stamp where
  start := stamped.start
  heard index isHeard other isBeat := by
    rw [List.getElem?_append_left (isHeard.trans_le earlier)] at isBeat
    exact stamped.heard index isHeard other isBeat

/-- A stamp that is set now is later than any beat. -/
theorem stamped_now
    {period : Int}
    (paced : Paced period start beats)
    (past : last start beats ≤ now)
    (heard : Nat) :
    Stamped start beats heard now where
  start := paced.start_le_last.trans past
  heard _ _ _ isBeat :=
    (paced.le_last (List.mem_of_getElem? isBeat)).trans past

/-- A stamp is not older than the period and the delay together. -/
theorem Stamped.recent
    {period delay : Int}
    (stamped : Stamped start beats heard stamp)
    (paced : Paced period start beats)
    (beaten : now ≤ last start beats + period)
    (prompt : Prompt beats heard delay now)
    (nonnegative : 0 ≤ delay)
    (positive : 0 ≤ period) :
    now - stamp ≤ period + delay := by
  have afterStart := stamped.start
  by_cases started : start < now - delay
  · obtain ⟨beat, before, recent, isBeat⟩ :=
      paced.exists_before started (by linarith) beaten
    have notLater : beat ≤ stamp := by
      rcases isBeat with rfl | member
      · exact afterStart
      · obtain ⟨index, isBeat⟩ := List.mem_iff_getElem?.mp member
        have isHeard := prompt index beat isBeat (by linarith)
        exact stamped.heard index isHeard beat isBeat
    linarith
  · linarith

end Stamped

end Pace
