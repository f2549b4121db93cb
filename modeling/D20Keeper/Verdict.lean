/-
This file models the vote of the endpoints on one block. One of them showed the block with another
hash than the journal's; all of them are asked, and the verdict is a plurality vote: the chain
changed if at least two endpoints agree on another hash and more of them than show the journal's or
any other; the journal's block stands if more endpoints show it than any other; and otherwise
nothing is settled.
-/

import Mathlib.Data.String.Basic
import D20Keeper.Plurality

namespace D20.Finality

/-! ### Hashes and views -/

/-- A block hash as its text, which is written in lower case. -/
structure BlockHash where
  text : String
  lower : (text.toList.all fun char => char.toLower == char) = true
  deriving DecidableEq

@[ext]
theorem BlockHash.ext {first second : BlockHash} (texts : first.text = second.text) :
    first = second := by
  cases first
  cases second
  cases texts
  rfl

/-- `eq_ignore_ascii_case`. -/
def eqIgnoreAsciiCase (first second : String) : Bool :=
  first.toList.map Char.toLower == second.toList.map Char.toLower

/-- What one endpoint says of a block: the hash it has for it, and its finalized number. -/
structure BlockView where
  endpoint : ℕ
  hash : BlockHash
  finalized : Option ℕ
  deriving DecidableEq

/-- The hash of a block that an endpoint does not have. -/
def absent : BlockHash where
  text := "0x0000000000000000000000000000000000000000000000000000000000000000"
  lower := by decide +kernel

/-! ### The verdict -/

/-- What the endpoints say of a block one of them showed with another hash than the journal's. -/
inductive Verdict
  | changed (hash : String) (agreeing : ℕ) (odd : List ℕ)
  | unchanged (agreeing : ℕ) (odd : List ℕ)
  | unresolved
  deriving DecidableEq, Repr

variable (expected : String)

/-- A view that shows the hash the journal holds. -/
def BlockView.same (view : BlockView) : Bool :=
  eqIgnoreAsciiCase view.hash.text expected

variable (views : List BlockView)

/-- The views that show the journal's hash. -/
def agreeing : ℕ :=
  views.countP (BlockView.same expected)

/-- The other hashes that are shown, once for each view that shows them. -/
def otherVotes : List String :=
  (views.filter fun view => !view.same expected).map fun view => view.hash.text

/-- The endpoints whose view is not a kept one. -/
def oddOnes (kept : BlockView → Bool) : List ℕ :=
  (views.filter fun view => !kept view).map BlockView.endpoint

/-- The verdict of some views on a block for which the journal holds a hash. -/
def verdict : Verdict :=
  let agree := agreeing expected views
  let others := Plurality.tally (otherVotes expected views)
  match Plurality.leader others with
  | some (count, hash) =>
    if 2 ≤ count ∧ agree < count ∧ Plurality.tied others count = false then
      .changed hash count (oddOnes views fun view => view.hash.text == hash)
    else if 1 ≤ agree ∧ count < agree then
      .unchanged agree (oddOnes views (BlockView.same expected))
    else .unresolved
  | none =>
    if 1 ≤ agree then .unchanged agree (oddOnes views (BlockView.same expected)) else .unresolved

/-! ### What the verdict says -/

/-- The views that show a hash. -/
def shown (hash : String) : ℕ :=
  views.countP fun view => view.hash.text == hash

/-- The votes for a hash that is not the journal's are the views that show it. -/
theorem count_otherVotes {expected hash : String} (views : List BlockView)
    (other : eqIgnoreAsciiCase hash expected = false) :
    (otherVotes expected views).count hash = shown views hash := by
  unfold otherVotes shown
  rw [List.count, List.countP_map, List.countP_filter]
  refine List.countP_congr fun view _ => ?_
  simp only [Function.comp_apply, Bool.and_eq_true, beq_iff_eq, Bool.not_eq_true']
  constructor
  · exact fun both => both.1
  · intro same
    refine ⟨same, ?_⟩
    unfold BlockView.same
    rw [same]
    exact other

variable {views : List BlockView}

theorem not_mem_otherVotes {expected hash : String} (member : hash ∈ otherVotes expected views) :
    eqIgnoreAsciiCase hash expected = false := by
  obtain ⟨view, viewMem, rfl⟩ := List.mem_map.mp member
  have other := (List.mem_filter.mp viewMem).2
  rw [Bool.not_eq_true'] at other
  exact other

/-- The views of the journal's hash, under any of its spellings, are among those that agree. -/
theorem shown_le_agreeing {expected hash : String} (views : List BlockView)
    (same : eqIgnoreAsciiCase hash expected = true) : shown views hash ≤ agreeing expected views := by
  unfold shown agreeing
  refine List.countP_mono_left fun view _ shows => ?_
  unfold BlockView.same
  rw [beq_iff_eq.mp shows]
  exact same

/-- A hash changed the block: it is not the journal's, at least two views show it, and more than
show any other hash or the journal's. -/
structure Replaces (expected : String) (views : List BlockView) (hash : String) : Prop where
  other : eqIgnoreAsciiCase hash expected = false
  two : 2 ≤ shown views hash
  most : ∀ another, another ≠ hash → shown views another < shown views hash
  beats : agreeing expected views < shown views hash

/-- The journal's block stands: some view shows it, and more than show any other hash. -/
structure Stands (expected : String) (views : List BlockView) : Prop where
  one : 1 ≤ agreeing expected views
  most : ∀ another, eqIgnoreAsciiCase another expected = false →
    shown views another < agreeing expected views

/-- A hash wins the vote of the others, and beats the journal's with two votes, exactly when it
changed the block. -/
theorem replaces_iff {expected hash : String} :
    Replaces expected views hash ↔ Plurality.Wins (otherVotes expected views) hash ∧
      2 ≤ (otherVotes expected views).count hash ∧
      agreeing expected views < (otherVotes expected views).count hash := by
  constructor
  · intro replaces
    have counted := count_otherVotes views replaces.other
    rw [counted]
    refine ⟨⟨?_, fun another different => ?_⟩, replaces.two, replaces.beats⟩
    · rw [← List.count_pos_iff, counted]
      exact Nat.lt_of_lt_of_le Nat.two_pos replaces.two
    · rw [counted]
      cases same : eqIgnoreAsciiCase another expected with
      | false =>
        rw [count_otherVotes views same]
        exact replaces.most another different
      | true =>
        have none : another ∉ otherVotes expected views := by
          intro member
          rw [not_mem_otherVotes member] at same
          exact nomatch same
        rw [List.count_eq_zero_of_not_mem none]
        exact Nat.lt_of_lt_of_le Nat.two_pos replaces.two
  · rintro ⟨⟨voted, most⟩, two, beats⟩
    have other := not_mem_otherVotes voted
    have counted := count_otherVotes views other
    rw [counted] at two beats most
    refine ⟨other, two, fun another different => ?_, beats⟩
    cases same : eqIgnoreAsciiCase another expected with
    | false =>
      rw [← count_otherVotes views same]
      exact most another different
    | true => exact Nat.lt_of_le_of_lt (shown_le_agreeing views same) beats

/-- The journal's block stands exactly when some view shows it and every vote for another hash has
fewer. -/
theorem stands_iff {expected : String} :
    Stands expected views ↔ 1 ≤ agreeing expected views ∧
      ∀ hash, (otherVotes expected views).count hash < agreeing expected views := by
  constructor
  · rintro ⟨one, most⟩
    refine ⟨one, fun hash => ?_⟩
    by_cases voted : hash ∈ otherVotes expected views
    · have other := not_mem_otherVotes voted
      rw [count_otherVotes views other]
      exact most hash other
    · rw [List.count_eq_zero_of_not_mem voted]
      exact one
  · rintro ⟨one, most⟩
    refine ⟨one, fun hash other => ?_⟩
    rw [← count_otherVotes views other]
    exact most hash

theorem Stands.not_replaces {expected hash : String} (stands : Stands expected views) :
    ¬Replaces expected views hash := by
  intro replaces
  exact Nat.lt_asymm replaces.beats (stands.most hash replaces.other)

/-- The verdict, by what the views show. -/
theorem verdict_eq (views : List BlockView) :
    (∃ hash, Replaces expected views hash ∧ verdict expected views =
        .changed hash (shown views hash) (oddOnes views fun view => view.hash.text == hash)) ∨
      (Stands expected views ∧ verdict expected views =
        .unchanged (agreeing expected views) (oddOnes views (BlockView.same expected))) ∨
      ((∀ hash, ¬Replaces expected views hash) ∧ ¬Stands expected views ∧
        verdict expected views = .unresolved) := by
  unfold verdict
  dsimp only
  cases found : Plurality.leader (Plurality.tally (otherVotes expected views)) with
  | none =>
    have unvoted : ∀ hash, (otherVotes expected views).count hash = 0 := by
      intro hash
      refine List.count_eq_zero_of_not_mem fun voted => ?_
      have entry := Plurality.mem_tally.mpr
        (show ((otherVotes expected views).count hash, hash).2 ∈ otherVotes expected views ∧ _ from
          ⟨voted, rfl⟩)
      rw [Plurality.leader_eq_none.mp found] at entry
      exact nomatch entry
    have unreplaced : ∀ hash, ¬Replaces expected views hash := by
      intro hash replaces
      have two := (replaces_iff.mp replaces).2.1
      rw [unvoted] at two
      exact nomatch two
    dsimp only
    split
    case isTrue one =>
      refine .inr (.inl ⟨stands_iff.mpr ⟨one, fun hash => ?_⟩, rfl⟩)
      rw [unvoted]
      exact one
    case isFalse none => exact .inr (.inr ⟨unreplaced, fun stands => none stands.one, rfl⟩)
  | some best =>
    obtain ⟨count, hash⟩ := best
    obtain ⟨voted, counted, most⟩ := Plurality.leader_tally found
    dsimp only
    split
    case isTrue decided =>
      obtain ⟨two, beats, untied⟩ := decided
      have wins := (Plurality.leads_untied_iff.mp ⟨found, untied⟩).1
      refine .inl ⟨hash, replaces_iff.mpr ⟨wins, counted ▸ two, counted ▸ beats⟩, ?_⟩
      rw [counted, count_otherVotes views (not_mem_otherVotes voted)]
    case isFalse undecided =>
      have unreplaced : ∀ another, ¬Replaces expected views another := by
        intro another replaces
        obtain ⟨wins, two, beats⟩ := replaces_iff.mp replaces
        obtain ⟨leads, untied⟩ := Plurality.leads_untied_iff.mpr ⟨wins, rfl⟩
        rw [found, Option.some.injEq, Prod.mk.injEq] at leads
        rw [← leads.1] at two beats untied
        exact undecided ⟨two, beats, untied⟩
      split
      case isTrue stands =>
        refine .inr (.inl ⟨stands_iff.mpr ⟨stands.1, fun another => ?_⟩, rfl⟩)
        exact Nat.lt_of_le_of_lt (most another) stands.2
      case isFalse falls =>
        refine .inr (.inr ⟨unreplaced, fun stands => falls ?_, rfl⟩)
        obtain ⟨one, beaten⟩ := stands_iff.mp stands
        exact ⟨one, counted ▸ beaten hash⟩

theorem Replaces.unique {expected first second : String}
    (firstReplaces : Replaces expected views first)
    (secondReplaces : Replaces expected views second) : first = second :=
  (replaces_iff.mp firstReplaces).1.unique (replaces_iff.mp secondReplaces).1

/-- The verdict on a block that changed. -/
theorem Replaces.verdict_eq {expected hash : String} (replaces : Replaces expected views hash) :
    verdict expected views =
      .changed hash (shown views hash) (oddOnes views fun view => view.hash.text == hash) := by
  rcases Finality.verdict_eq expected views with ⟨other, also, same⟩ | ⟨stands, -⟩ | ⟨none, -, -⟩
  · rw [same, also.unique replaces]
  · exact absurd replaces stands.not_replaces
  · exact absurd replaces (none hash)

/-- The verdict on a block that stands. -/
theorem Stands.verdict_eq {expected : String} (stands : Stands expected views) :
    verdict expected views =
      .unchanged (agreeing expected views) (oddOnes views (BlockView.same expected)) := by
  rcases Finality.verdict_eq expected views with ⟨other, replaces, -⟩ | ⟨-, same⟩ | ⟨-, none, -⟩
  · exact absurd replaces stands.not_replaces
  · exact same
  · exact absurd stands none

/-- The block changed to a hash exactly when the views say so. -/
theorem verdict_changed_iff {expected hash : String} :
    (∃ agree odd, verdict expected views = .changed hash agree odd) ↔
      Replaces expected views hash := by
  refine ⟨?_, fun replaces => ⟨_, _, replaces.verdict_eq⟩⟩
  rintro ⟨agree, odd, changed⟩
  rcases verdict_eq expected views with ⟨other, replaces, same⟩ | ⟨-, same⟩ | ⟨-, -, same⟩
  · rw [same] at changed
    cases changed
    exact replaces
  · rw [same] at changed
    exact nomatch changed
  · rw [same] at changed
    exact nomatch changed

/-- The journal's block stands exactly when the views say so. -/
theorem verdict_unchanged_iff {expected : String} :
    (∃ agree odd, verdict expected views = .unchanged agree odd) ↔ Stands expected views := by
  refine ⟨?_, fun stands => ⟨_, _, stands.verdict_eq⟩⟩
  rintro ⟨agree, odd, unchanged⟩
  rcases verdict_eq expected views with ⟨other, -, same⟩ | ⟨stands, -⟩ | ⟨-, -, same⟩
  · rw [same] at unchanged
    exact nomatch unchanged
  · exact stands
  · rw [same] at unchanged
    exact nomatch unchanged

/-- The endpoints that are reported as odd are those that do not show the winning hash. -/
theorem mem_oddOnes {kept : BlockView → Bool} (distinct : (views.map BlockView.endpoint).Nodup)
    {view : BlockView} (member : view ∈ views) :
    view.endpoint ∈ oddOnes views kept ↔ kept view = false := by
  unfold oddOnes
  rw [List.mem_map]
  constructor
  · rintro ⟨other, otherMem, same⟩
    obtain ⟨otherMem, odd⟩ := List.mem_filter.mp otherMem
    rw [← List.inj_on_of_nodup_map distinct otherMem member same]
    exact Bool.not_eq_true' _ ▸ odd
  · intro odd
    exact ⟨view, List.mem_filter.mpr ⟨member, by rw [odd]; rfl⟩, rfl⟩

theorem oddOnes_subset (views : List BlockView) (kept : BlockView → Bool) :
    oddOnes views kept ⊆ views.map BlockView.endpoint :=
  List.map_subset _ (List.filter_subset_self _)

/-! ### The order of the views -/

/-- Two verdicts that say the same, with the odd endpoints in any order. -/
inductive Verdict.Agrees : Verdict → Verdict → Prop
  | changed (hash : String) (agree : ℕ) {first second : List ℕ} (odd : first.Perm second) :
      Agrees (.changed hash agree first) (.changed hash agree second)
  | unchanged (agree : ℕ) {first second : List ℕ} (odd : first.Perm second) :
      Agrees (.unchanged agree first) (.unchanged agree second)
  | unresolved : Agrees .unresolved .unresolved

section Order

variable {expected hash : String} {first second : List BlockView} (order : first.Perm second)

include order

theorem shown_perm : shown first hash = shown second hash := order.countP_eq _

theorem agreeing_perm : agreeing expected first = agreeing expected second := order.countP_eq _

theorem oddOnes_perm (kept : BlockView → Bool) : (oddOnes first kept).Perm (oddOnes second kept) :=
  (order.filter _).map _

theorem Replaces.perm (replaces : Replaces expected first hash) :
    Replaces expected second hash := by
  refine ⟨replaces.other, ?_, fun another different => ?_, ?_⟩
  · rw [← shown_perm order]
    exact replaces.two
  · rw [← shown_perm order, ← shown_perm order]
    exact replaces.most another different
  · rw [← shown_perm order, ← agreeing_perm order]
    exact replaces.beats

theorem Stands.perm (stands : Stands expected first) : Stands expected second := by
  refine ⟨?_, fun another other => ?_⟩
  · rw [← agreeing_perm order]
    exact stands.one
  · rw [← agreeing_perm order, ← shown_perm order]
    exact stands.most another other

/-- The verdict does not depend on the order of the views. -/
theorem verdict_perm : (verdict expected first).Agrees (verdict expected second) := by
  rcases verdict_eq expected first with ⟨hash, replaces, same⟩ | ⟨stands, same⟩ | ⟨none, falls, same⟩
  · rw [same, (replaces.perm order).verdict_eq, shown_perm order]
    exact .changed hash _ (oddOnes_perm order _)
  · rw [same, (stands.perm order).verdict_eq, agreeing_perm order]
    exact .unchanged _ (oddOnes_perm order _)
  · rcases verdict_eq expected second with ⟨hash, replaces, -⟩ | ⟨stands, -⟩ | ⟨-, -, other⟩
    · exact absurd (replaces.perm order.symm) (none hash)
    · exact absurd (stands.perm order.symm) falls
    · rw [same, other]
      exact .unresolved

end Order

end D20.Finality
