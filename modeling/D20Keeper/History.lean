/-
This file is a small library about state that is computed from a sequence of events, one event at a
time. What such a state says of the whole sequence is proved by looking at the last event: a
relation between sequences and states that each event keeps holds after every sequence.
-/

import Mathlib.Data.List.Induction

namespace History

variable {Event State : Type} {step : State → Event → State} {start : State}

/-- The state after a sequence of events. -/
def after (step : State → Event → State) (start : State) (events : List Event) : State :=
  events.foldl step start

/-- The last event is the last step. -/
theorem after_append_singleton (events : List Event) (event : Event) :
    after step start (events ++ [event]) = step (after step start events) event :=
  List.foldl_append ..

/-- What follows a sequence goes on from the state after it. -/
theorem after_append (first second : List Event) :
    after step start (first ++ second) = after step (after step start first) second :=
  List.foldl_append ..

/-- A relation between a sequence and its state holds after every sequence that is valid, if it
holds at the start and each event of a valid sequence keeps it. -/
theorem relates {Valid : List Event → Prop} {Relates : List Event → State → Prop}
    (shorter : ∀ events event, Valid (events ++ [event]) → Valid events)
    (first : Relates [] start)
    (next : ∀ events event state, Valid (events ++ [event]) → Relates events state →
      Relates (events ++ [event]) (step state event))
    (events : List Event) (valid : Valid events) : Relates events (after step start events) := by
  induction events using List.reverseRecOn with
  | nil => exact first
  | append_singleton events event inductionHypothesis =>
    rw [after_append_singleton]
    exact next events event _ valid (inductionHypothesis (shorter events event valid))

/-- A sequence that ends with an element is split before it, or the element is the last. -/
theorem append_singleton_eq_append_cons {events before later : List Event} {event middle : Event}
    (split : events ++ [event] = before ++ middle :: later) :
    (later = [] ∧ events = before ∧ event = middle) ∨
      ∃ rest, later = rest ++ [event] ∧ events = before ++ middle :: rest := by
  rcases List.eq_nil_or_concat later with rfl | ⟨rest, last, rfl⟩
  · obtain ⟨same, final⟩ := List.append_inj' split rfl
    exact .inl ⟨rfl, same, List.singleton_inj.mp final⟩
  · rw [List.concat_eq_append, ← List.cons_append, ← List.append_assoc] at split
    obtain ⟨same, final⟩ := List.append_inj' split rfl
    refine .inr ⟨rest, ?_, same⟩
    rw [List.concat_eq_append, final]

end History
