/-
This file is a small library of plurality votes. The votes of a list are tallied by what they are
cast for, the leader is the entry with the greatest count, and a leader whose count another entry
shares is tied. A leader that is not tied is exactly what more votes are cast for than for anything
else, so that it does not depend on the order of the votes or on how equal counts are ordered.
-/

import Mathlib.Data.List.Dedup
import Mathlib.Order.Lattice

namespace Plurality

variable {Vote : Type} [LinearOrder Vote]

/-- The number of votes for everything that got one. -/
def tally (votes : List Vote) : List (ℕ × Vote) :=
  votes.dedup.map fun vote => (votes.count vote, vote)

/-- The greatest entry of a tally, by count and then by what it is for. -/
def leader : List (ℕ × Vote) → Option (ℕ × Vote)
  | [] => none
  | entry :: rest =>
    match leader rest with
    | none => some entry
    | some other =>
      if other.1 < entry.1 ∨ other.1 = entry.1 ∧ other.2 < entry.2 then some entry else some other

/-- Whether several entries of a tally have a count. -/
def tied (entries : List (ℕ × Vote)) (count : ℕ) : Bool :=
  1 < entries.countP fun entry => entry.1 == count

variable {votes : List Vote} {vote : Vote}

theorem mem_tally {entry : ℕ × Vote} :
    entry ∈ tally votes ↔ entry.2 ∈ votes ∧ entry.1 = votes.count entry.2 := by
  unfold tally
  rw [List.mem_map]
  constructor
  · rintro ⟨vote, member, rfl⟩
    exact ⟨List.mem_dedup.mp member, rfl⟩
  · rintro ⟨member, count⟩
    exact ⟨entry.2, List.mem_dedup.mpr member, Prod.ext count.symm rfl⟩

theorem leader_eq_none {entries : List (ℕ × Vote)} : leader entries = none ↔ entries = [] := by
  cases entries with
  | nil => exact ⟨fun _ => rfl, fun _ => rfl⟩
  | cons =>
    refine ⟨fun absent => ?_, nofun⟩
    rw [leader] at absent
    split at absent
    · exact nomatch absent
    · split at absent <;> exact nomatch absent

/-- The leader is an entry, and no entry has a greater count. -/
theorem leader_spec {entries : List (ℕ × Vote)} {best : ℕ × Vote}
    (leads : leader entries = some best) :
    best ∈ entries ∧ ∀ entry ∈ entries, entry.1 ≤ best.1 := by
  induction entries generalizing best with
  | nil => exact nomatch leads
  | cons entry rest inductionHypothesis =>
    rw [leader] at leads
    cases found : leader rest with
    | none =>
      rw [found] at leads
      cases leads
      rw [leader_eq_none.mp found]
      refine ⟨List.mem_cons_self, fun other member => ?_⟩
      obtain rfl := List.mem_singleton.mp member
      exact Nat.le_refl _
    | some =>
      rw [found] at leads
      obtain ⟨otherMem, most⟩ := inductionHypothesis found
      dsimp only at leads
      split at leads
      case isTrue beats =>
        cases leads
        refine ⟨List.mem_cons_self, fun another member => ?_⟩
        rcases List.mem_cons.mp member with rfl | later
        · exact Nat.le_refl _
        · have bound := most another later
          omega
      case isFalse loses =>
        cases leads
        refine ⟨List.mem_cons_of_mem _ otherMem, fun another member => ?_⟩
        rcases List.mem_cons.mp member with rfl | later
        · omega
        · exact most another later

/-- The leader of a vote has a vote, its count is the number of its votes, and nothing has more. -/
theorem leader_tally {count : ℕ} (leads : leader (tally votes) = some (count, vote)) :
    vote ∈ votes ∧ count = votes.count vote ∧ ∀ other, votes.count other ≤ count := by
  obtain ⟨member, most⟩ := leader_spec leads
  obtain ⟨voted, counted⟩ := mem_tally.mp member
  refine ⟨voted, counted, fun other => ?_⟩
  by_cases otherVoted : other ∈ votes
  · exact most (votes.count other, other) (mem_tally.mpr ⟨otherVoted, rfl⟩)
  · rw [List.count_eq_zero_of_not_mem otherVoted]
    exact Nat.zero_le _

/-- A vote is tied if something else has as many votes. -/
theorem tied_tally (voted : vote ∈ votes) :
    tied (tally votes) (votes.count vote) = true ↔
      ∃ other ∈ votes, other ≠ vote ∧ votes.count other = votes.count vote := by
  have counted : (tally votes).countP (fun entry => entry.1 == votes.count vote) =
      votes.dedup.countP fun other => votes.count other == votes.count vote := by
    unfold tally
    rw [List.countP_map]
    rfl
  have split : votes.dedup.countP (fun other => votes.count other == votes.count vote) =
      (votes.dedup.erase vote).countP (fun other => votes.count other == votes.count vote) + 1 := by
    rw [(List.perm_cons_erase (List.mem_dedup.mpr voted)).countP_eq, List.countP_cons,
      if_pos (beq_self_eq_true _)]
  unfold tied
  rw [counted, split, decide_eq_true_eq, Nat.lt_add_left_iff_pos, List.countP_pos_iff]
  constructor
  · rintro ⟨other, member, same⟩
    obtain ⟨different, dedup⟩ := (List.nodup_dedup votes).mem_erase_iff.mp member
    exact ⟨other, List.mem_dedup.mp dedup, different, beq_iff_eq.mp same⟩
  · rintro ⟨other, member, different, same⟩
    exact ⟨other, (List.nodup_dedup votes).mem_erase_iff.mpr
      ⟨different, List.mem_dedup.mpr member⟩, beq_iff_eq.mpr same⟩

/-- What wins: more votes than anything else. -/
def Wins (votes : List Vote) (vote : Vote) : Prop :=
  vote ∈ votes ∧ ∀ other, other ≠ vote → votes.count other < votes.count vote

theorem Wins.unique {first second : Vote} (firstWins : Wins votes first)
    (secondWins : Wins votes second) : first = second := by
  by_contra different
  exact Nat.lt_asymm (firstWins.2 second (Ne.symm different)) (secondWins.2 first different)

/-- What leads without a tie is what wins. -/
theorem leads_untied_iff {count : ℕ} :
    (leader (tally votes) = some (count, vote) ∧ tied (tally votes) count = false) ↔
      Wins votes vote ∧ count = votes.count vote := by
  constructor
  · rintro ⟨leads, untied⟩
    obtain ⟨voted, counted, most⟩ := leader_tally leads
    refine ⟨⟨voted, fun other different => ?_⟩, counted⟩
    subst counted
    refine Nat.lt_of_le_of_ne (most other) fun same => ?_
    have otherVoted : other ∈ votes := by
      rw [← List.count_pos_iff, same]
      exact List.count_pos_iff.mpr voted
    rw [(tied_tally voted).mpr ⟨other, otherVoted, different, same⟩] at untied
    exact nomatch untied
  · rintro ⟨⟨voted, most⟩, rfl⟩
    have untied : tied (tally votes) (votes.count vote) = false := by
      rw [← Bool.not_eq_true, tied_tally voted]
      rintro ⟨other, -, different, same⟩
      exact Nat.ne_of_lt (most other different) same
    refine ⟨?_, untied⟩
    cases found : leader (tally votes) with
    | none =>
      have empty := leader_eq_none.mp found
      have member : (votes.count vote, vote) ∈ tally votes := mem_tally.mpr ⟨voted, rfl⟩
      rw [empty] at member
      exact nomatch member
    | some best =>
      obtain ⟨count, other⟩ := best
      obtain ⟨-, counted, atMost⟩ := leader_tally found
      have bound := atMost vote
      by_cases same : other = vote
      · rw [counted, same]
      · exact absurd (most other same) (Nat.not_lt.mpr (counted ▸ bound))

end Plurality
