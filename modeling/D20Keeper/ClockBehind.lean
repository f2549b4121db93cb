/-
This file models the clock of the round lane. The lane compares the time of the decision head with
the wall clock: a head that is far ahead raises a fault, and while the fault stands rounds are taken
due by the chain's time; the fault clears after a period in which every new block was close to the
wall clock. The period is kept in memory, so a restart begins it again. Times are in milliseconds
where the source has them so, and the time of a head is cut off at the largest 64-bit number.
-/

import D20Keeper.History
import D20Keeper.RoundNumber

namespace D20.RoundLane

open Worker (Head)

/-! ### The clock -/

/-- `CLOCK_BEHIND_SECONDS`. -/
def clockBehindSeconds : ℕ := 15

/-- `CLOCK_RIGHT_SECONDS`. -/
def clockRightSeconds : ℕ := 600

/-- The health record `clock_behind` of the journal and, in memory, since when every new block has
shown the clock right, with the last block seen. -/
structure Clock where
  clockBehind : Option String
  clockRight : Option (ℕ × ℕ)
  deriving DecidableEq, Repr

/-- The time of a head in milliseconds. -/
def chainMs (head : Head) : ℕ := saturating 64 (head.timestamp * 1000)

/-- How far a head is ahead of the wall clock. -/
def ahead (head : Head) (nowMs : ℕ) : ℕ := chainMs head - nowMs

/-- What a head says of a clock that counts as behind: a head that is not new says nothing, and a
new one within half the threshold is evidence that the clock is right. -/
def seeBlock (right : Option (ℕ × ℕ)) (head : Head) (nowMs : ℕ) : Option (ℕ × ℕ) :=
  match right with
  | some (since, last) =>
    if head.number ≤ last then some (since, last)
    else if clockBehindSeconds * 1000 < ahead head nowMs * 2 then none
    else some (since, head.number)
  | none =>
    if clockBehindSeconds * 1000 < ahead head nowMs * 2 then none else some (nowMs, head.number)

/-- The blocks have shown the clock right for long enough. -/
def rightLongEnough (right : Option (ℕ × ℕ)) (nowMs : ℕ) : Bool :=
  right.any fun period => decide (clockRightSeconds * 1000 ≤ nowMs - period.1)

/-- `observe_clock`: the clock after a head is observed, and the time rounds are taken due by. -/
def observeClock (clock : Clock) (head : Head) (nowMs : ℕ) : Clock × ℕ :=
  if clockBehindSeconds * 1000 < ahead head nowMs then
    (⟨some (clock.clockBehind.getD (toString (ahead head nowMs))), none⟩, chainMs head)
  else if clock.clockBehind = none then (clock, nowMs)
  else if rightLongEnough (seeBlock clock.clockRight head nowMs) nowMs then (⟨none, none⟩, nowMs)
  else (⟨clock.clockBehind, seeBlock clock.clockRight head nowMs⟩, max nowMs (chainMs head))

/-! ### The fetches of a tick -/

/-- The most fetches at once. -/
def maxFetches : ℕ := 2

/-- A demanded round as a tick finds it when its turn comes: the fetches in flight, whether one of
them is of this round, the time its row may be retried at if it has one that is pending, its network
if that can be read, and a live job that waits on it. -/
structure Demanded where
  beacon : ℕ
  round : ℕ
  inFlight : ℕ
  fetching : Bool
  retryAt : Option ℤ
  network : Option Network
  firstJob : Option ℕ

/-- The loop that starts fetches: the rounds it starts one for. -/
def startFetches (nowMs dueMs : ℕ) : List Demanded → List (Network × ℕ)
  | [] => []
  | demanded :: rest =>
    if maxFetches ≤ demanded.inFlight then []
    else if demanded.fetching then startFetches nowMs dueMs rest
    else
      match demanded.retryAt, demanded.network, demanded.firstJob with
      | some retryAt, some network, some _ =>
        if ((nowMs / 1000 : ℕ) : ℤ) < retryAt ∨ dueMs < network.roundTime demanded.round * 1000 then
          startFetches nowMs dueMs rest
        else (network, demanded.round) :: startFetches nowMs dueMs rest
      | _, _, _ => startFetches nowMs dueMs rest

theorem due_of_mem_startFetches {nowMs dueMs : ℕ} {demand : List Demanded}
    {started : Network × ℕ} (member : started ∈ startFetches nowMs dueMs demand) :
    started.1.roundTime started.2 * 1000 ≤ dueMs := by
  induction demand with
  | nil => exact absurd member List.not_mem_nil
  | cons demanded rest inductionHypothesis =>
    unfold startFetches at member
    split at member
    · exact absurd member List.not_mem_nil
    split at member
    · exact inductionHypothesis member
    split at member
    · split at member
      case isTrue => exact inductionHypothesis member
      case isFalse due =>
        rcases List.mem_cons.mp member with rfl | later
        · exact Nat.le_of_not_lt fun early => due (.inr early)
        · exact inductionHypothesis later
    · exact inductionHypothesis member

/-! ### Runs -/

/-- What a tick of the lane sees: the decision head, the wall clock and the demand. -/
structure Tick where
  head : Head
  nowMs : ℕ
  demand : List Demanded

/-- What happens to a lane: it ticks, or its process starts again. -/
inductive Event
  | tick (tick : Tick)
  | restart

/-- The clock after an event. A restart loses what is in memory. -/
def step (clock : Clock) : Event → Clock
  | .tick tick => (observeClock clock tick.head tick.nowMs).1
  | .restart => { clock with clockRight := none }

/-- The clock after a sequence of events, from a journal without the fault. -/
def clockAfter (events : List Event) : Clock := History.after step ⟨none, none⟩ events

/-- The fetches a tick starts. -/
def Tick.starts (tick : Tick) (clock : Clock) : List (Network × ℕ) :=
  startFetches tick.nowMs (observeClock clock tick.head tick.nowMs).2 tick.demand

/-- The fault stands. -/
def Clock.Behind (clock : Clock) : Prop := clock.clockBehind.isSome

instance (clock : Clock) : Decidable clock.Behind := inferInstanceAs (Decidable (_ = true))

/-- The head of a tick is ahead of the wall clock by more than so many milliseconds. -/
def Tick.AheadBy (tick : Tick) (bound : ℕ) : Prop :=
  tick.nowMs + bound < tick.head.timestamp * 1000

/-- The times of a tick are 64-bit numbers, and so is the head's time in milliseconds unless the
wall clock leaves room for the threshold. -/
structure Tick.Fits (tick : Tick) : Prop where
  nowMs : tick.nowMs < 2 ^ 64
  exact : tick.head.timestamp * 1000 < 2 ^ 64 ∨
    tick.nowMs + clockBehindSeconds * 1000 < largest 64

/-- The threshold in milliseconds. -/
def thresholdMs : ℕ := clockBehindSeconds * 1000

/-- For times that fit, the fault is raised by the heads that are ahead by more than the threshold.
-/
theorem Tick.Fits.ahead_iff {tick : Tick} (fits : tick.Fits) :
    clockBehindSeconds * 1000 < ahead tick.head tick.nowMs ↔ tick.AheadBy thresholdMs := by
  have exact := fits.exact
  unfold Tick.AheadBy thresholdMs ahead chainMs saturating
  unfold largest at *
  omega

theorem Tick.Fits.half_iff {tick : Tick} (fits : tick.Fits) (small : ¬ tick.AheadBy thresholdMs) :
    clockBehindSeconds * 1000 < ahead tick.head tick.nowMs * 2 ↔
      tick.AheadBy (thresholdMs / 2) := by
  have exact := fits.exact
  have threshold : clockBehindSeconds = 15 := rfl
  unfold Tick.AheadBy thresholdMs at *
  unfold ahead chainMs saturating
  unfold largest at *
  omega

/-- Every head that was higher than all before it was ahead by at most half the threshold, and none
was ahead by more than the threshold. -/
structure Quiet (ticks : List Tick) : Prop where
  fresh : ∀ front tick back, ticks = front ++ tick :: back →
    (∀ earlier ∈ front, earlier.head.number < tick.head.number) →
    ¬ tick.AheadBy (thresholdMs / 2)
  all : ∀ tick ∈ ticks, ¬ tick.AheadBy thresholdMs

/-- A period of quiet ticks without a restart, which began at a time and counted heads up to a
number, ends a sequence of events. -/
def QuietSince (since last : ℕ) (events : List Event) : Prop :=
  ∃ before start ticks, events = before ++ (start :: ticks).map Event.tick ∧
    start.nowMs = since ∧ Quiet (start :: ticks) ∧
    (∀ tick ∈ start :: ticks, tick.head.number ≤ last) ∧
    ∃ tick ∈ start :: ticks, tick.head.number = last

/-- What the clock in memory says of the events: the fault stands, and a quiet period ends them. -/
def Remembers (events : List Event) (clock : Clock) : Prop :=
  ∀ since last, clock.clockRight = some (since, last) →
    clock.Behind ∧ QuietSince since last events

section

variable {events : List Event} {tick : Tick} {since last : ℕ}

theorem quiet_singleton (near : ¬ tick.AheadBy (thresholdMs / 2)) :
    Quiet [tick] where
  fresh front other back split _ := by
    obtain ⟨rfl, rest⟩ := List.singleton_eq_append_iff.mp split |>.resolve_right fun wrong =>
      List.cons_ne_nil _ _ wrong.2
    rw [(List.cons.inj rest).1]
    exact near
  all other member := by
    rw [List.mem_singleton.mp member]
    unfold Tick.AheadBy at *
    omega

/-- A quiet period goes on with a tick that is not far ahead and, if its head is new, is close. -/
theorem Quiet.append {ticks : List Tick} (quiet : Quiet ticks) (small : ¬ tick.AheadBy thresholdMs)
    (near : (∀ earlier ∈ ticks, earlier.head.number < tick.head.number) →
      ¬ tick.AheadBy (thresholdMs / 2)) :
    Quiet (ticks ++ [tick]) where
  fresh front other back split new := by
    rcases History.append_singleton_eq_append_cons split with
      ⟨-, rfl, rfl⟩ | ⟨rest, -, shorter⟩
    · exact near new
    · exact quiet.fresh front other rest shorter new
  all other member := by
    rcases List.mem_append.mp member with earlier | final
    · exact quiet.all other earlier
    · rw [List.mem_singleton.mp final]
      exact small

theorem QuietSince.start (near : ¬ tick.AheadBy (thresholdMs / 2)) :
    QuietSince tick.nowMs tick.head.number (events ++ [.tick tick]) :=
  ⟨events, tick, [], rfl, rfl, quiet_singleton near,
    fun _ member => (List.mem_singleton.mp member ▸ le_rfl), tick, List.mem_cons_self, rfl⟩

/-- A quiet period goes on. The heads it has counted are those up to the last number and the new
one. -/
theorem QuietSince.append (period : QuietSince since last events)
    (small : ¬ tick.AheadBy thresholdMs)
    (near : last < tick.head.number →
      ¬ tick.AheadBy (thresholdMs / 2)) :
    QuietSince since (max last tick.head.number) (events ++ [.tick tick]) := by
  obtain ⟨before, start, ticks, rfl, began, quiet, bounded, highest, member, reached⟩ := period
  refine ⟨before, start, ticks ++ [tick], ?_, began, ?_, ?_, ?_⟩
  · rw [List.append_assoc, ← List.cons_append, List.map_append]
    rfl
  · rw [← List.cons_append]
    exact quiet.append small fun new => near (reached ▸ new highest member)
  · rw [← List.cons_append]
    intro other inside
    rcases List.mem_append.mp inside with earlier | final
    · exact (bounded other earlier).trans (Nat.le_max_left _ _)
    · rw [List.mem_singleton.mp final]
      exact Nat.le_max_right _ _
  · rcases Nat.le_total last tick.head.number with below | above
    · exact ⟨tick, by simp, (Nat.max_eq_right below).symm⟩
    · refine ⟨highest, ?_, reached.trans (Nat.max_eq_left above).symm⟩
      rw [← List.cons_append]
      exact List.mem_append_left _ member

/-- What a head seen while the fault stands leaves in memory is the end of a quiet period. -/
theorem quietSince_of_seeBlock {right : Option (ℕ × ℕ)} (fits : tick.Fits)
    (small : ¬ tick.AheadBy thresholdMs)
    (remembered : ∀ since last, right = some (since, last) → QuietSince since last events)
    (seen : seeBlock right tick.head tick.nowMs = some (since, last)) :
    QuietSince since last (events ++ [.tick tick]) := by
  unfold seeBlock at seen
  split at seen
  case h_1 began highest =>
    have period := remembered began highest rfl
    split at seen
    case isTrue old =>
      obtain ⟨rfl, rfl⟩ := Prod.mk.inj (Option.some.inj seen)
      have longer := period.append small fun new => absurd old (Nat.not_le.mpr new)
      rwa [Nat.max_eq_left old] at longer
    case isFalse new =>
      split at seen
      case isTrue => exact nomatch seen
      case isFalse near =>
        obtain ⟨rfl, rfl⟩ := Prod.mk.inj (Option.some.inj seen)
        have longer := period.append small fun _ => mt (fits.half_iff small).mpr near
        rwa [Nat.max_eq_right (Nat.le_of_not_le new)] at longer
  case h_2 =>
    split at seen
    case isTrue => exact nomatch seen
    case isFalse near =>
      obtain ⟨rfl, rfl⟩ := Prod.mk.inj (Option.some.inj seen)
      exact .start (mt (fits.half_iff small).mpr near)

end

/-- The times of all ticks fit. -/
def Fit (events : List Event) : Prop := ∀ tick, .tick tick ∈ events → tick.Fits

/-- The clock of every run remembers a quiet period. -/
theorem remembers_clockAfter (events : List Event) (fit : Fit events) :
    Remembers events (clockAfter events) := by
  refine @History.relates _ _ step ⟨none, none⟩ Fit Remembers ?_ ?_ ?_ events fit
  · exact fun events event fit tick member => fit tick (List.mem_append_left _ member)
  · exact fun since last right => nomatch right
  · intro events event clock fit remembers since last right
    cases event with
    | restart => exact nomatch right
    | tick tick =>
      have fits : tick.Fits := fit tick (List.mem_append_right _ List.mem_cons_self)
      unfold step observeClock at *
      dsimp only at *
      split at right
      case isTrue => exact nomatch right
      case isFalse small =>
        split at right
        case isTrue fine =>
          have stands := (remembers since last right).1
          rw [Clock.Behind, fine] at stands
          exact absurd stands Bool.false_ne_true
        case isFalse stands =>
          split at right
          case isTrue => exact nomatch right
          case isFalse waiting =>
            rw [if_neg small, if_neg stands, if_neg waiting]
            exact ⟨Option.isSome_iff_ne_none.mpr stands,
              quietSince_of_seeBlock fits (mt fits.ahead_iff.mpr small)
                (fun began highest known => (remembers began highest known).2) right⟩

/-! ### What an observation does to the fault -/

section

variable {clock : Clock} {tick : Tick}

theorem behind_of_aheadBy (fits : tick.Fits) (far : tick.AheadBy thresholdMs) :
    (step clock (.tick tick)).Behind := by
  unfold step observeClock
  dsimp only
  rw [if_pos (fits.ahead_iff.mpr far)]
  rfl

theorem not_behind_of_not_aheadBy (fits : tick.Fits) (near : ¬ tick.AheadBy thresholdMs)
    (fine : ¬ clock.Behind) : ¬ (step clock (.tick tick)).Behind := by
  have none : clock.clockBehind = none := Option.not_isSome_iff_eq_none.mp fine
  unfold step observeClock
  dsimp only
  rw [if_neg (mt fits.ahead_iff.mp near), if_pos none]
  exact fine

/-- A fault that stood clears at the end of a long enough period, which the observation is a part
of. -/
theorem seeBlock_of_cleared (stood : clock.Behind) (cleared : ¬ (step clock (.tick tick)).Behind) :
    ¬ clockBehindSeconds * 1000 < ahead tick.head tick.nowMs ∧
      ∃ since last, seeBlock clock.clockRight tick.head tick.nowMs = some (since, last) ∧
        since + clockRightSeconds * 1000 ≤ tick.nowMs := by
  have known : clock.clockBehind ≠ none := Option.isSome_iff_ne_none.mp stood
  unfold step observeClock at cleared
  dsimp only at cleared
  rw [if_neg known] at cleared
  split at cleared
  case isTrue => exact absurd rfl cleared
  case isFalse small =>
    refine ⟨small, ?_⟩
    split at cleared
    case isFalse => exact absurd stood cleared
    case isTrue enough =>
      obtain ⟨⟨since, last⟩, seen, long⟩ := (Option.any_eq_true ..).mp enough
      have period : clockRightSeconds * 1000 ≤ tick.nowMs - since := of_decide_eq_true long
      have positive : 0 < clockRightSeconds * 1000 := by decide
      have began : since ≤ tick.nowMs := (Nat.lt_of_sub_pos (positive.trans_le period)).le
      exact ⟨since, last, seen, Nat.add_le_of_le_sub' began period⟩

/-- The time rounds are taken due by is the wall clock's, or the head's while the fault stands. -/
theorem due_le (clock : Clock) (tick : Tick) :
    (observeClock clock tick.head tick.nowMs).2 = tick.nowMs ∨
      ((step clock (.tick tick)).Behind ∧
        (observeClock clock tick.head tick.nowMs).2 ≤ max tick.nowMs (chainMs tick.head)) := by
  unfold step observeClock
  dsimp only
  split
  case isTrue => exact .inr ⟨rfl, Nat.le_max_right _ _⟩
  case isFalse =>
    split
    case isTrue => exact .inl rfl
    case isFalse stands =>
      split
      case isTrue => exact .inl rfl
      case isFalse => exact .inr ⟨Option.isSome_iff_ne_none.mpr stands, le_rfl⟩

theorem scheduled_le {network : Network} {round dueMs : ℕ} (small : dueMs < 2 ^ 64)
    (due : network.roundTime round * 1000 ≤ dueMs) :
    scheduledTime network.genesis network.period round * 1000 ≤ dueMs := by
  rw [Network.roundTime_eq_min] at due
  rcases Nat.le_total (scheduledTime network.genesis network.period round) (largest 64) with
    fits | cut
  · rwa [Nat.min_eq_left fits] at due
  · rw [Nat.min_eq_right cut] at due
    exact absurd (due.trans_lt small) (by decide)

/-- A fetch is started at or after the scheduled time of its round. -/
theorem scheduled_of_mem_starts (fits : tick.Fits) {started : Network × ℕ}
    (member : started ∈ tick.starts clock) :
    scheduledTime started.1.genesis started.1.period started.2 * 1000 ≤ tick.nowMs ∨
      ((step clock (.tick tick)).Behind ∧
        scheduledTime started.1.genesis started.1.period started.2 ≤ tick.head.timestamp) := by
  have now := fits.nowMs
  have chain : chainMs tick.head ≤ tick.head.timestamp * 1000 := Nat.min_le_left _ _
  have chainFits : chainMs tick.head < 2 ^ 64 :=
    (Nat.min_le_right _ _).trans_lt (show largest 64 < 2 ^ 64 by decide)
  have due := due_of_mem_startFetches member
  rcases due_le clock tick with wall | ⟨stands, either⟩
  · rw [wall] at due
    exact .inl (scheduled_le now due)
  · have scheduled := (scheduled_le (either.trans_lt (max_lt now chainFits)) due).trans either
    rcases Nat.le_total tick.nowMs (chainMs tick.head) with below | above
    · rw [Nat.max_eq_right below] at scheduled
      exact .inr ⟨stands, Nat.le_of_mul_le_mul_right (scheduled.trans chain) (by decide)⟩
    · rw [Nat.max_eq_left above] at scheduled
      exact .inl scheduled

end

/-! ### The clock in every run -/

/-- The clock in every run, where the times of each tick fit. The fault is raised exactly at a tick
whose head is ahead of the wall clock by more than the threshold. It clears only at the end of a
period of ticks of one process, at least 600 seconds long by the wall clock, in which every head
higher than all before it was ahead by at most half the threshold and none by more than the
threshold. A fetch is started only at or after the scheduled time of its round by the wall clock, or
by the decision head's time while the fault stands. -/
theorem clock_fault (events : List Event) (event : Event) (fit : Fit (events ++ [event])) :
    (¬ (clockAfter events).Behind → ((clockAfter (events ++ [event])).Behind ↔
      ∃ tick, event = .tick tick ∧ tick.AheadBy thresholdMs)) ∧
    ((clockAfter events).Behind → ¬ (clockAfter (events ++ [event])).Behind →
      ∃ before start ticks tick, event = .tick tick ∧
        events ++ [event] = before ++ (start :: (ticks ++ [tick])).map Event.tick ∧
        start.nowMs + clockRightSeconds * 1000 ≤ tick.nowMs ∧ Quiet (start :: (ticks ++ [tick]))) ∧
    ∀ tick, event = .tick tick → ∀ started ∈ tick.starts (clockAfter events),
      scheduledTime started.1.genesis started.1.period started.2 * 1000 ≤ tick.nowMs ∨
        ((clockAfter (events ++ [event])).Behind ∧
          scheduledTime started.1.genesis started.1.period started.2 ≤ tick.head.timestamp) := by
  have last : clockAfter (events ++ [event]) = step (clockAfter events) event :=
    History.after_append_singleton ..
  have past : Fit events := fun tick member => fit tick (List.mem_append_left _ member)
  have remembers := remembers_clockAfter events past
  rw [last]
  refine ⟨fun fine => ?_, fun stood cleared => ?_, ?_⟩
  · cases event with
    | restart => exact ⟨fun stands => absurd stands fine, fun ⟨_, wrong, _⟩ => nomatch wrong⟩
    | tick tick =>
      have fits : tick.Fits := fit tick (List.mem_append_right _ List.mem_cons_self)
      constructor
      · intro stands
        by_contra none
        exact not_behind_of_not_aheadBy fits (fun far => none ⟨tick, rfl, far⟩) fine stands
      · rintro ⟨other, same, far⟩
        exact behind_of_aheadBy fits (Event.tick.inj same ▸ far)
  · cases event with
    | restart => exact absurd stood cleared
    | tick tick =>
      have fits : tick.Fits := fit tick (List.mem_append_right _ List.mem_cons_self)
      obtain ⟨small, since, highest, seen, long⟩ := seeBlock_of_cleared stood cleared
      obtain ⟨before, start, ticks, split, began, quiet, -, -⟩ := quietSince_of_seeBlock fits
        (mt fits.ahead_iff.mpr small)
        (fun began highest known => (remembers began highest known).2) seen
      rcases List.eq_nil_or_concat ticks with rfl | ⟨front, final, rfl⟩
      · obtain ⟨-, same⟩ := List.append_inj' split rfl
        obtain rfl := Event.tick.inj (List.singleton_inj.mp same)
        have positive : 0 < clockRightSeconds * 1000 := by decide
        omega
      · rw [List.concat_eq_append] at split quiet
        have ending : events ++ [.tick tick] =
            (before ++ (start :: front).map Event.tick) ++ [.tick final] := by
          rw [split, ← List.cons_append, List.map_append, List.append_assoc]
          rfl
        obtain ⟨-, same⟩ := List.append_inj' ending rfl
        obtain rfl := Event.tick.inj (List.singleton_inj.mp same)
        exact ⟨before, start, front, tick, rfl, split, began ▸ long, quiet⟩
  · rintro tick rfl started member
    exact scheduled_of_mem_starts (fit tick (List.mem_append_right _ List.mem_cons_self)) member

/-- A tick whose head is ten seconds ahead while a round is demanded that is due in five. -/
def dueTick : Tick :=
  ⟨⟨2, "", 120⟩, 110000, [⟨0, 1, 0, false, some 0, some ⟨default, 115, 3⟩, some 1⟩]⟩

/-- The ticks of a run: a head sixteen seconds ahead, the demand, and two heads that are 600 seconds
apart and as late as the wall clock. -/
def farTicks : List Tick :=
  [⟨⟨1, "", 116⟩, 100000, []⟩, dueTick, ⟨⟨3, "", 130⟩, 130000, []⟩, ⟨⟨4, "", 730⟩, 730000, []⟩]

theorem fit_farTicks (count : ℕ) : Fit ((farTicks.take count).map Event.tick) := by
  have fits : ∀ tick ∈ farTicks, tick.nowMs < 2 ^ 64 ∧ tick.head.timestamp * 1000 < 2 ^ 64 := by
    decide
  intro tick member
  obtain ⟨other, inside, same⟩ := List.mem_map.mp member
  obtain rfl := Event.tick.inj same
  obtain ⟨now, chain⟩ := fits other (List.mem_of_mem_take inside)
  exact ⟨now, .inl chain⟩

/-- The first head raises the fault, which starts a fetch that would not be due by the wall clock.
The fault clears at the last head, at the end of a quiet period. -/
theorem clock_fault_raised_and_cleared :
    (clockAfter ((farTicks.take 1).map .tick)).Behind ∧
      dueTick.starts (clockAfter []) = [] ∧
      (∃ started ∈ dueTick.starts (clockAfter ((farTicks.take 1).map .tick)),
        (clockAfter ((farTicks.take 2).map .tick)).Behind ∧
        scheduledTime started.1.genesis started.1.period started.2 ≤ dueTick.head.timestamp) ∧
      ¬ (clockAfter (farTicks.map .tick)).Behind ∧
      ∃ before start ticks tick, farTicks.map Event.tick =
          before ++ (start :: (ticks ++ [tick])).map Event.tick ∧
        start.nowMs + clockRightSeconds * 1000 ≤ tick.nowMs ∧ Quiet (start :: (ticks ++ [tick])) := by
  have raised := (clock_fault [] _ (fit_farTicks 1)).1 (by decide)
  have starts : (⟨default, 115, 3⟩, 1) ∈
      dueTick.starts (clockAfter ((farTicks.take 1).map .tick)) := by
    decide +kernel
  have gated := (clock_fault ((farTicks.take 1).map .tick) _ (fit_farTicks 2)).2.2 dueTick rfl _
    starts
  have cleared := (clock_fault ((farTicks.take 3).map .tick) _ (fit_farTicks 4)).2.1 (by decide)
    (by decide)
  obtain ⟨before, start, ticks, tick, -, split, long, quiet⟩ := cleared
  refine ⟨raised.mpr ⟨_, rfl, by unfold Tick.AheadBy; decide⟩, by decide, ?_, by decide,
    before, start, ticks, tick, split, long, quiet⟩
  exact ⟨_, starts, gated.resolve_left (by decide)⟩

/-- A head at the end of the 64-bit seconds, seen when the wall clock is at the end of the 64-bit
milliseconds, is far ahead and raises no fault, because its time is cut off. -/
theorem clock_fault_cut_off :
    let tick : Tick := ⟨⟨1, "", 2 ^ 64 - 1⟩, 2 ^ 64 - 1, []⟩
    tick.AheadBy thresholdMs ∧ ¬ (clockAfter [.tick tick]).Behind := by
  refine ⟨?_, by decide⟩
  unfold Tick.AheadBy
  decide

end D20.RoundLane
