/-
This file is about schedules that are read by time and amended ahead of it.

A timeline lists entries with a start, oldest first; the entry in force at a time
is the last one that has started. Amending a timeline at a horizon drops what has
not started by then and appends a new entry that starts later. The one fact that
every user of a timeline needs is `inForce_amend`: an amendment changes nothing
at or before its horizon. Ascending starts are preserved, so that the entry in
force is always the one with the greatest start.
-/

import Mathlib.Data.List.Induction
import Mathlib.Order.Nat

namespace Timeline

variable {Entry : Type} (start : Entry → Nat)

/-! ### The entry in force -/

/-- The entry in force at a time: the last one that has started. -/
def inForce (entries : List Entry) (time : Nat) : Option Entry :=
  entries.reverse.find? fun entry => decide (start entry ≤ time)

/-- The entry in force, or the first one before any has started. -/
def inForceOrFirst (entries : List Entry) (time : Nat) : Option Entry :=
  (inForce start entries time).or entries.head?

variable {start}

variable {time horizon : Nat} {entries : List Entry} {entry : Entry}

theorem inForce_append_of_le (started : start entry ≤ time) :
    inForce start (entries ++ [entry]) time = some entry := by
  unfold inForce
  rw [List.reverse_append, List.reverse_singleton, List.singleton_append,
    List.find?_cons_of_pos (by simpa using started)]

/-- Entries that start later do not matter. -/
theorem inForce_append_of_forall_lt {later : List Entry}
    (ahead : ∀ entry ∈ later, time < start entry) :
    inForce start (entries ++ later) time = inForce start entries time := by
  unfold inForce
  rw [List.reverse_append, List.find?_append, List.find?_eq_none.mpr, Option.none_or]
  intro entry member
  simpa using ahead entry (List.mem_reverse.mp member)

theorem inForce_append_of_lt (later : time < start entry) :
    inForce start (entries ++ [entry]) time = inForce start entries time :=
  inForce_append_of_forall_lt (by simpa using later)

theorem inForce_mem (found : inForce start entries time = some entry) :
    entry ∈ entries ∧ start entry ≤ time := by
  unfold inForce at found
  refine ⟨List.mem_reverse.mp (List.mem_of_find?_eq_some found), ?_⟩
  simpa using List.find?_some found

theorem inForce_eq_none :
    inForce start entries time = none ↔ ∀ entry ∈ entries, time < start entry := by
  unfold inForce
  simp [List.find?_eq_none]

/-- A time resolves to an entry as soon as there is one. -/
theorem exists_inForceOrFirst (nonempty : entries ≠ []) :
    ∃ entry ∈ entries, inForceOrFirst start entries time = some entry := by
  unfold inForceOrFirst
  cases found : inForce start entries time with
  | none => exact ⟨entries.head nonempty, List.head_mem _, List.head?_eq_some_head nonempty⟩
  | some entry => exact ⟨entry, (inForce_mem found).1, rfl⟩

/-- What has not started by a horizon does not matter at or before it. -/
theorem inForce_filter (within : time ≤ horizon) :
    inForce start (entries.filter fun entry => decide (start entry ≤ horizon)) time =
      inForce start entries time := by
  unfold inForce
  rw [← List.filter_reverse, List.find?_filter]
  congr 1
  funext entry
  by_cases started : start entry ≤ time
  · simp [started, started.trans within]
  · simp [started]

/-- On an ascending timeline the entry in force has the greatest start at or before the time. -/
theorem inForce_greatest
    (ascending : entries.Pairwise fun earlier later => start earlier < start later)
    (found : inForce start entries time = some entry) (other : Entry) (member : other ∈ entries)
    (started : start other ≤ time) : start other ≤ start entry := by
  induction entries using List.reverseRecOn with
  | nil => cases member
  | append_singleton rest last inductionHypothesis =>
    obtain ⟨restAscending, -, below⟩ := List.pairwise_append.mp ascending
    by_cases lastStarted : start last ≤ time
    · rw [inForce_append_of_le lastStarted] at found
      rw [← Option.some.inj found]
      rcases List.mem_append.mp member with earlier | same
      · exact (below other earlier last (List.mem_singleton_self last)).le
      · rw [List.mem_singleton.mp same]
    · rw [inForce_append_of_lt (Nat.lt_of_not_le lastStarted)] at found
      rcases List.mem_append.mp member with earlier | same
      · exact inductionHypothesis restAscending found earlier
      · rw [List.mem_singleton.mp same] at started
        exact absurd started lastStarted

/-! ### Amending a timeline -/

variable (start) in
/-- Drop what has not started by the horizon. -/
def cut (horizon : Nat) (entries : List Entry) : List Entry :=
  entries.filter fun entry => decide (start entry ≤ horizon)

variable (start) in
/-- Drop what has not started by the horizon and append a new entry. -/
def amend (horizon : Nat) (entries : List Entry) (entry : Entry) : List Entry :=
  cut start horizon entries ++ [entry]

theorem inForce_cut (within : time ≤ horizon) :
    inForce start (cut start horizon entries) time = inForce start entries time :=
  inForce_filter within

/-- An amendment changes nothing at or before its horizon. -/
theorem inForce_amend (within : time ≤ horizon) (ahead : horizon < start entry) :
    inForce start (amend start horizon entries entry) time = inForce start entries time := by
  unfold amend
  rw [inForce_append_of_lt (within.trans_lt ahead), inForce_cut within]

theorem ascending_cut
    (ascending : entries.Pairwise fun earlier later => start earlier < start later) :
    (cut start horizon entries).Pairwise fun earlier later => start earlier < start later :=
  ascending.filter _

theorem ascending_amend
    (ascending : entries.Pairwise fun earlier later => start earlier < start later)
    (ahead : horizon < start entry) :
    (amend start horizon entries entry).Pairwise fun earlier later =>
      start earlier < start later := by
  refine List.pairwise_append.mpr ⟨ascending_cut ascending, List.pairwise_singleton _ _, ?_⟩
  intro earlier kept later last
  rw [List.mem_singleton.mp last]
  have started : start earlier ≤ horizon := by simpa using (List.mem_filter.mp kept).2
  exact started.trans_lt ahead

/-- A timeline of which only the last entry can lie beyond the horizon is cut by dropping that
entry. -/
theorem cut_append_of_lt (started : ∀ earlier ∈ entries, start earlier ≤ horizon)
    (ahead : horizon < start entry) : cut start horizon (entries ++ [entry]) = entries := by
  unfold cut
  rw [List.filter_append, List.filter_eq_self.mpr (by simpa using started)]
  simp [Nat.not_le.mpr ahead]

theorem cut_eq_self (started : ∀ earlier ∈ entries, start earlier ≤ horizon) :
    cut start horizon entries = entries :=
  List.filter_eq_self.mpr (by simpa using started)

end Timeline
