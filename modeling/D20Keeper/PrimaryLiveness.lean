/-
This file models a follower's view of the primary keeper, from the confirmed nonce of the committer
and the work this node can see waiting. The follower keeps a few numbers; the verdict they give is
shown to be a statement about the whole sequence of observations: the primary is dead when some
observation is a window old, and at it and ever since the same committer had work waiting and its
nonce did not advance.
-/

import D20Keeper.Evm

namespace D20

open Evm (Address)

/-! ### The follower's state -/

/-- What a follower keeps of the committer it observes, in chain seconds: the highest nonce, when it
was first observed, when the nonce was last seen to advance, and since when work has been waiting
without an advance. -/
structure Observation where
  committer : Address
  nonce : ℕ
  since : ℕ
  advancedAt : Option ℕ
  waitingSince : Option ℕ
deriving DecidableEq, Repr

/-- `PrimaryLiveness`: a process that has just started has observed nothing. -/
structure PrimaryLiveness where
  observed : Option Observation := none
deriving DecidableEq, Repr

namespace PrimaryLiveness

/-- `work_waiting.then_some(now)`. -/
def waitingFrom (workWaiting : Bool) (now : ℕ) : Option ℕ := if workWaiting then some now else none

/-- `observe`: a different committer starts a new observation, and a nonce that is not higher only
tells whether work is still waiting. -/
def observe (liveness : PrimaryLiveness) (committer : Address) (nonce now : ℕ)
    (workWaiting : Bool) : PrimaryLiveness :=
  match liveness.observed with
  | some observed =>
    if observed.committer = committer then
      if observed.nonce < nonce then
        ⟨some ⟨observed.committer, nonce, observed.since, some now, waitingFrom workWaiting now⟩⟩
      else if workWaiting then
        ⟨some { observed with waitingSince := some (observed.waitingSince.getD now) }⟩
      else ⟨some { observed with waitingSince := none }⟩
    else ⟨some ⟨committer, nonce, now, none, waitingFrom workWaiting now⟩⟩
  | none => ⟨some ⟨committer, nonce, now, none, waitingFrom workWaiting now⟩⟩

/-- `dead`, with the saturating subtractions of the source. -/
def dead (liveness : PrimaryLiveness) (now window : ℕ) : Bool :=
  liveness.observed.any fun observed =>
    decide (window ≤ now - observed.since) &&
      (observed.waitingSince.any fun since => decide (window ≤ now - since)) &&
      observed.advancedAt.all fun time => decide (window ≤ now - time)

/-- A nonce that is not higher than the one kept, as a lagging node shows it, is ignored. -/
theorem observe_of_le {observed : Observation} {nonce : ℕ} (lagging : nonce ≤ observed.nonce)
    (now : ℕ) (workWaiting : Bool) :
    (⟨some observed⟩ : PrimaryLiveness).observe observed.committer nonce now workWaiting =
      (⟨some observed⟩ : PrimaryLiveness).observe observed.committer observed.nonce now
        workWaiting := by
  simp only [observe, Nat.not_lt.mpr lagging, lt_irrefl, if_true, if_false]

end PrimaryLiveness

/-! ### The sequence of observations -/

/-- One observation of the primary, as the worker makes it. -/
structure Sighting where
  committer : Address
  nonce : ℕ
  time : ℕ
  workWaiting : Bool
deriving DecidableEq, Repr

/-- The follower's state after a sequence of observations. -/
def PrimaryLiveness.after (history : List Sighting) : PrimaryLiveness :=
  history.foldl (fun liveness sighting =>
    liveness.observe sighting.committer sighting.nonce sighting.time sighting.workWaiting) {}

namespace Sighting

/-- The sightings of a committer since it was last first observed: the end of the history that names
no other. -/
def stint (committer : Address) (history : List Sighting) : List Sighting :=
  history.reverse.takeWhile fun sighting => decide (sighting.committer = committer)

/-- A sighting shows a nonce higher than all that were seen of its committer since it was last first
observed. -/
def Advances (history : List Sighting) (sighting : Sighting) : Prop :=
  ∀ seen ∈ stint sighting.committer history, seen.nonce < sighting.nonce

/-- Some sighting was early enough, and it and every later one name the same committer and have work
waiting, and no later one advances. -/
def Stalled (early : ℕ → Prop) (history : List Sighting) : Prop :=
  ∃ before start later, history = before ++ start :: later ∧ early start.time ∧
    start.workWaiting = true ∧
    ∀ between sighting rest, later = between ++ sighting :: rest →
      sighting.committer = start.committer ∧ sighting.workWaiting = true ∧
        ¬ Advances (before ++ start :: between) sighting

/-- The last sighting of a history names this committer. -/
def LastOf (committer : Address) (history : List Sighting) : Prop :=
  ∃ front final, history = front ++ [final] ∧ final.committer = committer

theorem lastOf_append_singleton {committer : Address} {history : List Sighting}
    {sighting : Sighting} :
    LastOf committer (history ++ [sighting]) ↔ sighting.committer = committer := by
  constructor
  · rintro ⟨front, final, equal, same⟩
    obtain ⟨-, last⟩ := List.append_inj' equal rfl
    rwa [List.singleton_inj.mp last]
  · intro same
    exact ⟨history, sighting, rfl, same⟩

theorem stint_append_singleton_same (history : List Sighting) (sighting : Sighting) :
    stint sighting.committer (history ++ [sighting]) =
      sighting :: stint sighting.committer history := by
  simp [stint]

theorem stint_of_not_lastOf {committer : Address} {history : List Sighting}
    (other : ¬ LastOf committer history) : stint committer history = [] := by
  rcases List.eq_nil_or_concat history with rfl | ⟨front, final, rfl⟩
  · rfl
  · rw [List.concat_eq_append, lastOf_append_singleton] at other
    simp [stint, other]

theorem lastOf_of_stalled {before later : List Sighting} {start : Sighting}
    (same : ∀ between sighting rest, later = between ++ sighting :: rest →
      sighting.committer = start.committer) :
    LastOf start.committer (before ++ start :: later) := by
  rcases List.eq_nil_or_concat later with rfl | ⟨front, final, rfl⟩
  · exact lastOf_append_singleton.mpr rfl
  · rw [List.concat_eq_append] at same ⊢
    rw [← List.cons_append, ← List.append_assoc]
    exact lastOf_append_singleton.mpr (same front final [] rfl)

/-- How a stalled history grows: with a sighting that has work waiting, which is itself early enough
or goes on with the committer without an advance. -/
theorem stalled_append_singleton {early : ℕ → Prop} {history : List Sighting}
    {sighting : Sighting} :
    Stalled early (history ++ [sighting]) ↔ sighting.workWaiting = true ∧
      (early sighting.time ∨
        (Stalled early history ∧ LastOf sighting.committer history ∧
          ¬ Advances history sighting)) := by
  constructor
  · rintro ⟨before, start, later, equal, old, waiting, goesOn⟩
    rcases List.eq_nil_or_concat later with rfl | ⟨front, final, rfl⟩
    · obtain ⟨-, last⟩ := List.append_inj' equal rfl
      rw [List.singleton_inj.mp last]
      exact ⟨waiting, .inl old⟩
    · rw [List.concat_eq_append] at equal goesOn
      rw [← List.cons_append, ← List.append_assoc] at equal
      obtain ⟨rfl, last⟩ := List.append_inj' equal rfl
      obtain rfl := List.singleton_inj.mp last
      obtain ⟨same, stillWaiting, quiet⟩ := goesOn front sighting [] rfl
      have shorter : ∀ between other rest, front = between ++ other :: rest →
          other.committer = start.committer ∧ other.workWaiting = true ∧
            ¬ Advances (before ++ start :: between) other := by
        rintro between other rest rfl
        exact goesOn between other (rest ++ [sighting])
          (by rw [List.append_assoc, List.cons_append])
      refine ⟨stillWaiting, .inr ⟨⟨before, start, front, rfl, old, waiting, shorter⟩, ?_, quiet⟩⟩
      rw [same]
      exact lastOf_of_stalled fun between other rest split => (shorter between other rest split).1
  · rintro ⟨waiting, old | ⟨⟨before, start, later, rfl, old, startWaiting, goesOn⟩, last, quiet⟩⟩
    · refine ⟨history, sighting, [], rfl, old, waiting, fun between other rest split => ?_⟩
      exact absurd split.symm (List.append_ne_nil_of_right_ne_nil _ (List.cons_ne_nil _ _))
    · have startLast : LastOf start.committer (before ++ start :: later) :=
        lastOf_of_stalled fun between other rest split => (goesOn between other rest split).1
      have same : sighting.committer = start.committer := by
        obtain ⟨front, final, equal, ofStart⟩ := startLast
        rw [equal, lastOf_append_singleton] at last
        exact last.symm.trans ofStart
      refine ⟨before, start, later ++ [sighting], by rw [List.append_assoc, List.cons_append], old,
        startWaiting, fun between other rest split => ?_⟩
      rcases List.eq_nil_or_concat rest with rfl | ⟨front, final, rfl⟩
      · obtain ⟨rfl, equal⟩ := List.append_inj' split rfl
        obtain rfl := List.singleton_inj.mp equal
        exact ⟨same, waiting, quiet⟩
      · rw [List.concat_eq_append, ← List.cons_append, ← List.append_assoc] at split
        obtain ⟨rfl, -⟩ := List.append_inj' split rfl
        exact goesOn between other front rfl

end Sighting

/-! ### What the state keeps of the sequence -/

open Sighting

/-- The times a verdict looks at are early enough. -/
def Observation.Expired (early : ℕ → Prop) (observed : Observation) : Prop :=
  early observed.since ∧ (∃ time, observed.waitingSince = some time ∧ early time) ∧
    ∀ time, observed.advancedAt = some time → early time

/-- What an observation says of the sightings it was made from: whom it is about, which nonces count
as an advance, that its times are times of sightings, and that it has expired when the sightings
have stalled. -/
structure Observation.Describes (early : ℕ → Prop) (history : List Sighting)
    (observed : Observation) : Prop where
  last : LastOf observed.committer history
  nonce : ∀ nonce, (∀ seen ∈ stint observed.committer history, seen.nonce < nonce) ↔
    observed.nonce < nonce
  since : ∀ bound, (∀ seen ∈ history, seen.time ≤ bound) → observed.since ≤ bound
  advanced : ∀ bound, (∀ seen ∈ history, seen.time ≤ bound) →
    ∀ time, observed.advancedAt = some time → time ≤ bound
  waiting : ∀ bound, (∀ seen ∈ history, seen.time ≤ bound) →
    ∀ time, observed.waitingSince = some time → time ≤ bound
  expired : observed.Expired early ↔ Stalled early history

namespace Observation.Describes

variable {early : ℕ → Prop} {history : List Sighting} {observed : Observation}
  {sighting : Sighting}

theorem le_of_mem_append {bound : ℕ} (bounded : ∀ seen ∈ history ++ [sighting], seen.time ≤ bound) :
    (∀ seen ∈ history, seen.time ≤ bound) ∧ sighting.time ≤ bound :=
  ⟨fun seen member => bounded seen (List.mem_append_left _ member),
    bounded sighting (List.mem_append_right _ List.mem_cons_self)⟩

theorem waitingFrom_eq_some {workWaiting : Bool} {now time : ℕ} :
    PrimaryLiveness.waitingFrom workWaiting now = some time ↔ workWaiting = true ∧ now = time := by
  cases workWaiting <;> simp [PrimaryLiveness.waitingFrom]

/-- A new committer starts a new observation. -/
theorem start (other : ¬ LastOf sighting.committer history) :
    Describes early (history ++ [sighting]) ⟨sighting.committer, sighting.nonce, sighting.time, none,
      PrimaryLiveness.waitingFrom sighting.workWaiting sighting.time⟩ where
  last := lastOf_append_singleton.mpr rfl
  nonce nonce := by
    rw [stint_append_singleton_same, stint_of_not_lastOf other]
    simp
  since bound bounded := (le_of_mem_append bounded).2
  advanced bound bounded time advancedAt := nomatch advancedAt
  waiting bound bounded time since := by
    rw [← (waitingFrom_eq_some.mp since).2]
    exact (le_of_mem_append bounded).2
  expired := by
    rw [stalled_append_singleton]
    simp [Expired, waitingFrom_eq_some, other]

variable (describes : Describes early history observed)
  (same : observed.committer = sighting.committer)

include describes same

theorem nonce_of_le (notHigher : ¬ observed.nonce < sighting.nonce) (nonce : ℕ) :
    (∀ seen ∈ stint observed.committer (history ++ [sighting]), seen.nonce < nonce) ↔
      observed.nonce < nonce := by
  have earlier := describes.nonce nonce
  rw [same] at earlier ⊢
  rw [stint_append_singleton_same, List.forall_mem_cons, earlier]
  exact ⟨fun both => both.2, fun below => ⟨(Nat.not_lt.mp notHigher).trans_lt below, below⟩⟩

theorem rest (notHigher : ¬ observed.nonce < sighting.nonce) (idle : ¬ sighting.workWaiting = true) :
    Describes early (history ++ [sighting]) { observed with waitingSince := none } where
  last := lastOf_append_singleton.mpr same.symm
  nonce := describes.nonce_of_le same notHigher
  since bound bounded := describes.since bound (le_of_mem_append bounded).1
  advanced bound bounded := describes.advanced bound (le_of_mem_append bounded).1
  waiting bound bounded time since := nomatch since
  expired := by
    rw [stalled_append_singleton]
    simp [Expired, idle]

variable (sorted : ∀ seen ∈ history, seen.time ≤ sighting.time)
  (antitone : ∀ first second, first ≤ second → early second → early first)

include sorted antitone

/-- A higher nonce restarts the wait. -/
theorem advance (higher : observed.nonce < sighting.nonce) :
    Describes early (history ++ [sighting]) ⟨observed.committer, sighting.nonce, observed.since,
      some sighting.time,
      PrimaryLiveness.waitingFrom sighting.workWaiting sighting.time⟩ where
  last := lastOf_append_singleton.mpr same.symm
  nonce nonce := by
    have earlier := describes.nonce nonce
    rw [same] at earlier
    rw [show (⟨observed.committer, sighting.nonce, observed.since, some sighting.time,
      PrimaryLiveness.waitingFrom sighting.workWaiting sighting.time⟩ : Observation).committer =
        sighting.committer from same, stint_append_singleton_same, List.forall_mem_cons, earlier]
    exact ⟨fun both => both.1, fun below => ⟨below, higher.trans below⟩⟩
  since bound bounded := describes.since bound (le_of_mem_append bounded).1
  advanced bound bounded time advancedAt := by
    rw [← Option.some.inj advancedAt]
    exact (le_of_mem_append bounded).2
  waiting bound bounded time since := by
    rw [← (waitingFrom_eq_some.mp since).2]
    exact (le_of_mem_append bounded).2
  expired := by
    have advances : Advances history sighting := by
      unfold Advances
      rw [← same]
      exact (describes.nonce _).mpr higher
    have earlier : early sighting.time → early observed.since :=
      antitone _ _ (describes.since _ sorted)
    rw [stalled_append_singleton]
    simp only [Expired, waitingFrom_eq_some, Option.some.injEq, forall_eq', advances, not_true,
      and_false, or_false]
    constructor
    · rintro ⟨-, ⟨time, ⟨waiting, rfl⟩, old⟩, -⟩
      exact ⟨waiting, old⟩
    · rintro ⟨waiting, old⟩
      exact ⟨earlier old, ⟨_, ⟨waiting, rfl⟩, old⟩, old⟩

/-- A sighting with work waiting goes on with the wait, or starts it. -/
theorem wait (notHigher : ¬ observed.nonce < sighting.nonce) (waiting : sighting.workWaiting = true) :
    Describes early (history ++ [sighting])
      { observed with waitingSince := some (observed.waitingSince.getD sighting.time) } where
  last := lastOf_append_singleton.mpr same.symm
  nonce := describes.nonce_of_le same notHigher
  since bound bounded := describes.since bound (le_of_mem_append bounded).1
  advanced bound bounded := describes.advanced bound (le_of_mem_append bounded).1
  waiting bound bounded time since := by
    rw [← Option.some.inj since]
    cases stored : observed.waitingSince with
    | none => exact (le_of_mem_append bounded).2
    | some time => exact describes.waiting bound (le_of_mem_append bounded).1 time stored
  expired := by
    have quiet : ¬ Advances history sighting := by
      unfold Advances
      rw [← same, describes.nonce]
      exact notHigher
    have last : LastOf sighting.committer history := same ▸ describes.last
    have past : early sighting.time → early observed.since ∧
        ∀ time, observed.advancedAt = some time → early time := fun old =>
      ⟨antitone _ _ (describes.since _ sorted) old,
        fun time at_ => antitone _ _ (describes.advanced _ sorted time at_) old⟩
    rw [stalled_append_singleton, ← describes.expired]
    simp only [Expired, Option.some.injEq, exists_eq_left', waiting, last, quiet, true_and,
      not_false_eq_true, and_true]
    cases stored : observed.waitingSince with
    | none =>
      simp only [Option.getD_none, reduceCtorEq, false_and, exists_false, and_false, or_false]
      exact ⟨fun expired => expired.2.1, fun old => ⟨(past old).1, old, (past old).2⟩⟩
    | some time =>
      have waited : early sighting.time → early time :=
        antitone _ _ (describes.waiting _ sorted time stored)
      simp only [Option.getD_some, Option.some.injEq, exists_eq_left']
      exact ⟨.inr, fun cases => cases.elim
        (fun old => ⟨(past old).1, waited old, (past old).2⟩) id⟩

end Observation.Describes

/-- What one more sighting does to the state: it describes the longer history. -/
theorem PrimaryLiveness.observe_describes {early : ℕ → Prop} {history : List Sighting}
    {observed : Observation} (describes : observed.Describes early history) (sighting : Sighting)
    (sorted : ∀ seen ∈ history, seen.time ≤ sighting.time)
    (antitone : ∀ first second, first ≤ second → early second → early first) :
    ∃ next, (⟨some observed⟩ : PrimaryLiveness).observe sighting.committer sighting.nonce
        sighting.time sighting.workWaiting = ⟨some next⟩ ∧
      next.Describes early (history ++ [sighting]) := by
  unfold PrimaryLiveness.observe
  dsimp only
  by_cases same : observed.committer = sighting.committer
  · rw [if_pos same]
    by_cases higher : observed.nonce < sighting.nonce
    · rw [if_pos higher]
      exact ⟨_, rfl, describes.advance same sorted antitone higher⟩
    · rw [if_neg higher]
      by_cases waiting : sighting.workWaiting = true
      · rw [if_pos waiting]
        exact ⟨_, rfl, describes.wait same sorted antitone higher waiting⟩
      · rw [if_neg waiting]
        exact ⟨_, rfl, describes.rest same higher waiting⟩
  · rw [if_neg same]
    refine ⟨_, rfl, .start fun last => same ?_⟩
    obtain ⟨front, final, equal, ofSighting⟩ := last
    have ofObserved := describes.last
    rw [equal, lastOf_append_singleton] at ofObserved
    exact ofObserved.symm.trans ofSighting

/-- The state after a sequence of sightings at nondecreasing times describes it. -/
theorem PrimaryLiveness.after_describes {early : ℕ → Prop}
    (antitone : ∀ first second, first ≤ second → early second → early first)
    (history : List Sighting)
    (sorted : history.Pairwise fun first second => first.time ≤ second.time) :
    (after history = {} ∧ history = []) ∨
      ∃ observed, after history = ⟨some observed⟩ ∧ observed.Describes early history := by
  induction history using List.reverseRecOn with
  | nil => exact .inl ⟨rfl, rfl⟩
  | append_singleton history sighting inductionHypothesis =>
    obtain ⟨before, -, bounded⟩ := List.pairwise_append.mp sorted
    have earlier : ∀ seen ∈ history, seen.time ≤ sighting.time := fun seen member =>
      bounded seen member sighting List.mem_cons_self
    have step : after (history ++ [sighting]) = (after history).observe sighting.committer
        sighting.nonce sighting.time sighting.workWaiting := List.foldl_concat ..
    rw [step]
    rcases inductionHypothesis before with ⟨fresh, rfl⟩ | ⟨observed, kept, describes⟩
    · rw [fresh]
      exact .inr ⟨_, rfl, @Observation.Describes.start early [] sighting fun ⟨front, final, equal, _⟩ =>
        List.append_ne_nil_of_right_ne_nil _ (List.cons_ne_nil _ _) equal.symm⟩
    · rw [kept]
      exact .inr (observe_describes describes sighting earlier antitone)

/-- A sighting that does not advance changes the state in the same way whatever its nonce. -/
theorem PrimaryLiveness.after_lagging {history : List Sighting}
    (sorted : history.Pairwise fun first second => first.time ≤ second.time)
    {sighting seen : Sighting} (member : seen ∈ stint sighting.committer history) {nonce : ℕ}
    (notHigher : sighting.nonce ≤ seen.nonce) (lower : nonce ≤ seen.nonce) :
    after (history ++ [sighting]) = after (history ++ [{ sighting with nonce := nonce }]) := by
  have step : ∀ other : Sighting, after (history ++ [other]) = (after history).observe
      other.committer other.nonce other.time other.workWaiting := fun other => List.foldl_concat ..
  rw [step, step]
  rcases @after_describes (fun _ => True) (fun _ _ _ _ => trivial) history sorted with
    ⟨-, rfl⟩ | ⟨observed, kept, describes⟩
  · exact absurd member List.not_mem_nil
  · have same : observed.committer = sighting.committer := by
      by_contra different
      have other : ¬ LastOf sighting.committer history := by
        obtain ⟨front, final, equal, ofObserved⟩ := describes.last
        rw [equal, lastOf_append_singleton, ofObserved]
        exact different
      rw [stint_of_not_lastOf other] at member
      exact absurd member List.not_mem_nil
    have highest : seen.nonce ≤ observed.nonce := by
      have bounded := (describes.nonce (observed.nonce + 1)).mpr (Nat.lt_succ_self _)
      exact Nat.le_of_lt_succ (bounded seen (same ▸ member))
    rw [kept, ← same, observe_of_le (notHigher.trans highest), observe_of_le (lower.trans highest)]

/-! ### The verdict -/

/-- The verdict looks at whether the times of the observation have expired. -/
theorem PrimaryLiveness.dead_iff_expired {observed : Observation} {now window : ℕ}
    (since : observed.since ≤ now)
    (advanced : ∀ time, observed.advancedAt = some time → time ≤ now)
    (waiting : ∀ time, observed.waitingSince = some time → time ≤ now) :
    (⟨some observed⟩ : PrimaryLiveness).dead now window = true ↔
      observed.Expired fun time => time + window ≤ now := by
  have old : ∀ time ≤ now, window ≤ now - time ↔ time + window ≤ now := fun time past => by omega
  unfold dead Observation.Expired
  simp only [Option.any_some, Bool.and_eq_true, decide_eq_true_eq, Option.any_eq_true,
    Option.all_eq_true, old _ since, and_assoc]
  refine and_congr Iff.rfl (and_congr (exists_congr fun time => and_congr_right fun stored => ?_)
    (forall_congr' fun time => forall_congr' fun stored => ?_))
  · exact old time (waiting time stored)
  · exact old time (advanced time stored)

/-- The verdict on the primary at a time at or after the last sighting: it is dead exactly when some
sighting is at least a window old, and it and every later one name the same committer and have work
waiting, and no later one advances. The nonces of lagging nodes change nothing: a nonce that is not
higher than one already seen may be replaced by any other such nonce. -/
theorem PrimaryLiveness.dead_iff_stalled (history : List Sighting)
    (sorted : history.Pairwise fun first second => first.time ≤ second.time) (now window : ℕ)
    (current : ∀ seen ∈ history, seen.time ≤ now) :
    ((after history).dead now window = true ↔
      Stalled (fun time => time + window ≤ now) history) ∧
    ∀ before sighting later seen nonce, history = before ++ sighting :: later →
      seen ∈ stint sighting.committer before → sighting.nonce ≤ seen.nonce → nonce ≤ seen.nonce →
      after history = after (before ++ { sighting with nonce := nonce } :: later) := by
  constructor
  · have antitone : ∀ first second, first ≤ second → second + window ≤ now →
        first + window ≤ now := fun first second earlier old => by omega
    rcases after_describes antitone history sorted with ⟨fresh, rfl⟩ | ⟨observed, kept, describes⟩
    · refine ⟨fun isDead => absurd isDead Bool.false_ne_true, ?_⟩
      rintro ⟨before, start, later, equal, -⟩
      exact absurd equal.symm (List.append_ne_nil_of_right_ne_nil _ (List.cons_ne_nil _ _))
    · rw [kept, ← describes.expired]
      exact dead_iff_expired (describes.since now current) (describes.advanced now current)
        (describes.waiting now current)
  · rintro before sighting later seen nonce rfl member notHigher lower
    have step := after_lagging (List.pairwise_append.mp sorted).1 member notHigher lower
    have resume : ∀ other : Sighting, after (before ++ other :: later) =
        later.foldl (fun liveness next => liveness.observe next.committer next.nonce next.time
          next.workWaiting) (after (before ++ [other])) := fun other => by
      rw [← List.singleton_append, ← List.append_assoc]
      exact List.foldl_append ..
    rw [resume, resume, step]

/-- Two sightings of one committer ten seconds apart, the second by a lagging node. -/
def waitingPrimary : List Sighting := [⟨0, 7, 100, true⟩, ⟨0, 6, 110, true⟩]

theorem PrimaryLiveness.dead_iff_stalled_lagging :
    (after waitingPrimary).dead 110 10 = true ∧
      Stalled (fun time => time + 10 ≤ 110) waitingPrimary ∧
      after waitingPrimary = after [⟨0, 7, 100, true⟩, ⟨0, 5, 110, true⟩] := by
  have verdict := dead_iff_stalled waitingPrimary (by decide) 110 10 (by decide)
  have isDead : (after waitingPrimary).dead 110 10 = true := by decide
  exact ⟨isDead, verdict.1.mp isDead,
    verdict.2 [⟨0, 7, 100, true⟩] ⟨0, 6, 110, true⟩ [] ⟨0, 7, 100, true⟩ 5 rfl (by decide)
      (by decide) (by decide)⟩

end D20
