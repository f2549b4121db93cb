/-
This file models how a keeper asks the relays of a public randomness network for a round. Each relay
has a circuit that counts its failures in a row; three of them open it for a while, and a valid
answer closes it. A fetch asks every relay whose circuit is closed and, of the open ones, the one
that closes first. It takes the first answer the verifier accepts.
-/

import Mathlib.Data.List.DropRight
import D20Keeper.History
import D20Keeper.RoundNumber

namespace D20.Relays

open Evm

/-! ### The circuits -/

/-- `BREAKER_FAILURES`. -/
def breakerFailures : ℕ := 3

/-- `BREAKER_COOLDOWN_SECONDS`. -/
def breakerCooldownSeconds : ℕ := 120

/-- A row of the table of circuits: the failures in a row, and the end of the cooldown once it is
open. -/
structure Circuit where
  failures : ℕ
  openUntil : ℕ
  deriving DecidableEq, Repr

/-- The table of circuits. A relay without a row has not failed since it last served. -/
abbrev Circuits := String → Option Circuit

variable (circuits : Circuits)

/-- `Breaker::open`: the failures in a row and the rest of the cooldown of a relay whose circuit is
open. -/
def isOpen (relay : String) (now : ℕ) : Option (ℕ × ℕ) :=
  (circuits relay).bind fun circuit =>
    if breakerFailures ≤ circuit.failures ∧ now < circuit.openUntil then
      some (circuit.failures, circuit.openUntil - now)
    else none

/-- The row of a relay after one more failure, with the end a cooldown would have. -/
def failed (circuit : Option Circuit) (cooldownEnd : ℕ) : Circuit :=
  match circuit with
  | none => ⟨1, if breakerFailures ≤ 1 then cooldownEnd else 0⟩
  | some circuit =>
    ⟨circuit.failures + 1,
      if breakerFailures ≤ circuit.failures + 1 then cooldownEnd else circuit.openUntil⟩

/-- The end of a cooldown that starts now. -/
def cooldownEnd (now : ℕ) : ℕ := saturating 64 (now + breakerCooldownSeconds)

/-- `Breaker::record`: a relay's outcome. A cooldown whose end the column cannot hold is an error.
-/
def record (relay : String) (isFailure : Bool) (now : ℕ) :
    Except String Circuits :=
  if isFailure then
    if cooldownEnd now ≤ largest 63 then
      .ok (Function.update circuits relay (some (failed (circuits relay) (cooldownEnd now))))
    else .error "out of range integral type conversion attempted"
  else .ok (Function.update circuits relay none)

/-! ### The relays that are asked -/

/-- The sooner of the best wait so far and another one; of equal ones the first stays. -/
def sooner (best : Option (ℕ × String)) (other : ℕ × String) : Option (ℕ × String) :=
  if best.all fun least => decide (other.1 < least.1) then some other else best

/-- The loop of `askable`: the relays whose circuit is closed, and the one of the others that closes
first. -/
def askLoop (circuits : Circuits) (now : ℕ) :
    List String → List String → Option (ℕ × String) → List String × Option (ℕ × String)
  | [], asked, soonest => (asked, soonest)
  | relay :: rest, asked, soonest =>
    match isOpen circuits relay now with
    | none => askLoop circuits now rest (asked ++ [relay]) soonest
    | some (_, wait) => askLoop circuits now rest asked (sooner soonest (wait, relay))

/-- `askable`: the relays worth asking. -/
def askable (relays : List String) (now : ℕ) : List String :=
  match askLoop circuits now relays [] none with
  | (asked, some (_, relay)) => asked ++ [relay]
  | (asked, none) => asked

/-- The open circuits of a list of relays, with the rest of their cooldowns. -/
def waits (now : ℕ) (relays : List String) : List (ℕ × String) :=
  relays.filterMap fun relay => (isOpen circuits relay now).map fun state => (state.2, relay)

theorem askLoop_eq (now : ℕ) (relays asked : List String) (soonest : Option (ℕ × String)) :
    askLoop circuits now relays asked soonest =
      (asked ++ relays.filter fun relay => (isOpen circuits relay now).isNone,
        (waits circuits now relays).foldl sooner soonest) := by
  induction relays generalizing asked soonest with
  | nil => simp [askLoop, waits]
  | cons relay rest inductionHypothesis =>
    unfold askLoop waits
    cases circuit : isOpen circuits relay now with
    | none =>
      dsimp only
      rw [inductionHypothesis, List.filterMap_cons_none (by rw [circuit]; rfl),
        List.filter_cons_of_pos (by rw [circuit]; rfl), List.append_assoc, List.singleton_append]
      rfl
    | some state =>
      obtain ⟨failures, wait⟩ := state
      dsimp only
      rw [inductionHypothesis, List.filterMap_cons_some (by rw [circuit]; rfl),
        List.filter_cons_of_neg (by rw [circuit]; exact Bool.false_ne_true)]
      rfl

/-- The scan for the soonest finds an element that is as soon as every other, unless there is none.
-/
theorem foldl_sooner (others : List (ℕ × String)) (best : Option (ℕ × String)) :
    match others.foldl sooner best with
    | none => others = [] ∧ best = none
    | some found => (found ∈ others ∨ best = some found) ∧
        (∀ other ∈ others, found.1 ≤ other.1) ∧ ∀ least, best = some least → found.1 ≤ least.1 := by
  induction others generalizing best with
  | nil =>
    cases best with
    | none => exact ⟨rfl, rfl⟩
    | some => exact ⟨.inr rfl, nofun, fun other same => (Option.some.inj same) ▸ le_rfl⟩
  | cons other rest inductionHypothesis =>
    have scan := inductionHypothesis (sooner best other)
    rw [List.foldl_cons]
    cases result : rest.foldl sooner (sooner best other) with
    | none =>
      rw [result] at scan
      have impossible : sooner best other ≠ none := by
        unfold sooner
        split
        case isTrue => exact Option.some_ne_none _
        case isFalse later =>
          rintro rfl
          exact later rfl
      exact absurd scan.2 impossible
    | some found =>
      rw [result] at scan
      obtain ⟨origin, first, seed⟩ := scan
      unfold sooner at origin seed
      split at origin
      case isTrue earlier =>
        have bound : found.1 ≤ other.1 := seed other (if_pos earlier)
        refine ⟨.inl (origin.elim (List.mem_cons_of_mem _) fun same =>
          Option.some.inj same ▸ List.mem_cons_self), List.forall_mem_cons.mpr ⟨bound, first⟩,
          fun least isBest => ?_⟩
        rw [isBest] at earlier
        exact bound.trans (of_decide_eq_true earlier).le
      case isFalse later =>
        rw [if_neg later] at seed
        refine ⟨origin.imp (List.mem_cons_of_mem _) id, List.forall_mem_cons.mpr ⟨?_, first⟩, seed⟩
        cases best with
        | none => exact absurd rfl later
        | some least =>
          have notEarlier : ¬ other.1 < least.1 := fun earlier => later (decide_eq_true earlier)
          exact (seed least rfl).trans (Nat.le_of_not_lt notEarlier)

theorem askable_eq (relays : List String) (now : ℕ) :
    askable circuits relays now =
      (relays.filter fun relay => (isOpen circuits relay now).isNone) ++
        (((waits circuits now relays).foldl sooner none).map Prod.snd).toList := by
  unfold askable
  rw [askLoop_eq]
  cases (waits circuits now relays).foldl sooner none with
  | none => simp
  | some => simp

variable {now : ℕ} {relay : String} {reports : List Report}

theorem mem_waits {circuits : Circuits} {relays : List String} {wait : ℕ} :
    (wait, relay) ∈ waits circuits now relays ↔
      relay ∈ relays ∧ ∃ failures, isOpen circuits relay now = some (failures, wait) := by
  unfold waits
  rw [List.mem_filterMap]
  constructor
  · rintro ⟨other, member, state⟩
    obtain ⟨⟨failures, rest⟩, opened, same⟩ := Option.map_eq_some_iff.mp state
    obtain ⟨rfl, rfl⟩ := Prod.mk.inj same
    exact ⟨member, failures, opened⟩
  · rintro ⟨member, failures, opened⟩
    exact ⟨relay, member, by rw [opened]; rfl⟩

/-! ### The outcomes that were recorded -/

/-- An outcome of a relay, as it is reported to its circuit. -/
structure Report where
  relay : String
  isFailure : Bool
  time : ℕ
  deriving DecidableEq, Repr

/-- `record`: a report that is not taken costs the circuit its count and nothing else. -/
def note (report : Report) : Circuits :=
  (record circuits report.relay report.isFailure report.time).toOption.getD circuits

/-- The circuits after a sequence of reports. -/
def circuitsAfter (reports : List Report) : Circuits := History.after note (fun _ => none) reports

/-- A report that is taken. -/
def Report.taken (report : Report) : Bool :=
  !report.isFailure || decide (cooldownEnd report.time ≤ largest 63)

/-- The recorded outcomes of a relay. -/
def outcomes (reports : List Report) (relay : String) : List Report :=
  reports.filter fun report => decide (report.relay = relay) && report.taken

/-- The failures in a row that end the outcomes of a relay. -/
def streak (reports : List Report) (relay : String) : List Report :=
  (outcomes reports relay).rtakeWhile Report.isFailure

/-- The row of a relay with these failures in a row. -/
def circuitOf (streak : List Report) : Option Circuit :=
  streak.getLast?.map fun last =>
    ⟨streak.length, if breakerFailures ≤ streak.length then cooldownEnd last.time else 0⟩

theorem failed_circuitOf (streak : List Report) (report : Report) :
    circuitOf (streak ++ [report]) =
      some (failed (circuitOf streak) (cooldownEnd report.time)) := by
  unfold circuitOf failed
  rw [List.getLast?_concat, List.length_append, List.length_singleton]
  rcases List.eq_nil_or_concat streak with rfl | ⟨front, last, rfl⟩
  · rfl
  · rw [List.concat_eq_append, List.getLast?_concat, Option.map_some, Option.map_some]
    dsimp only
    split
    case isTrue => rfl
    case isFalse few => rw [if_neg fun enough => few (Nat.le_succ_of_le enough)]

theorem outcomes_append_singleton (reports : List Report) (report : Report) (relay : String) :
    outcomes (reports ++ [report]) relay =
      if report.relay = relay ∧ report.taken = true then outcomes reports relay ++ [report]
      else outcomes reports relay := by
  unfold outcomes
  rw [List.filter_append]
  split
  case isTrue both =>
    rw [List.filter_cons_of_pos (by simp [both.1, both.2])]
    rfl
  case isFalse neither =>
    rw [List.filter_cons_of_neg (by simpa using neither), List.filter_nil, List.append_nil]

/-- The table has the failures in a row of every relay. -/
theorem circuitsAfter_eq (reports : List Report) (relay : String) :
    circuitsAfter reports relay = circuitOf (streak reports relay) := by
  induction reports using List.reverseRecOn with
  | nil => rfl
  | append_singleton reports report inductionHypothesis =>
    have last : circuitsAfter (reports ++ [report]) = note (circuitsAfter reports) report :=
      History.after_append_singleton ..
    rw [last, streak, outcomes_append_singleton]
    unfold note record
    cases failure : report.isFailure with
    | false =>
      have taken : report.taken = true := by rw [Report.taken, failure]; rfl
      rw [if_neg Bool.false_ne_true]
      show Function.update (circuitsAfter reports) report.relay none relay = _
      by_cases same : report.relay = relay
      · rw [if_pos ⟨same, taken⟩, List.rtakeWhile_concat_neg _ _ _ (by rw [failure]; decide), same,
          Function.update_self]
        rfl
      · rw [if_neg fun both => same both.1, Function.update_of_ne (Ne.symm same)]
        exact inductionHypothesis
    | true =>
      rw [if_pos rfl]
      by_cases fits : cooldownEnd report.time ≤ largest 63
      · have taken : report.taken = true := by
          rw [Report.taken, decide_eq_true fits, Bool.or_true]
        rw [if_pos fits]
        show Function.update (circuitsAfter reports) report.relay (some _) relay = _
        by_cases same : report.relay = relay
        · rw [if_pos ⟨same, taken⟩, List.rtakeWhile_concat_pos _ _ _ failure, same,
            Function.update_self, failed_circuitOf, inductionHypothesis]
          rfl
        · rw [if_neg fun both => same both.1, Function.update_of_ne (Ne.symm same)]
          exact inductionHypothesis
      · have refused : ¬ (report.relay = relay ∧ report.taken = true) := by
          rw [Report.taken, failure, decide_eq_false fits]
          exact fun both => Bool.false_ne_true both.2
        rw [if_neg fits, if_neg refused]
        exact inductionHypothesis

/-- The last three recorded outcomes of a relay were failures, and the cooldown of the last one ends
at a time that has not come. -/
def Cooling (reports : List Report) (relay : String) (now ends : ℕ) : Prop :=
  ∃ before first second third, outcomes reports relay = before ++ [first, second, third] ∧
    first.isFailure = true ∧ second.isFailure = true ∧ third.isFailure = true ∧
    ends = third.time + breakerCooldownSeconds ∧ now < ends

/-- A list whose end satisfies a condition at three places or more. -/
theorem three_le_length_rtakeWhile {α : Type} {condition : α → Bool} {list : List α}
    (long : 3 ≤ (list.rtakeWhile condition).length) :
    ∃ before first second third, list = before ++ [first, second, third] ∧
      condition first = true ∧ condition second = true ∧ condition third = true ∧
      (list.rtakeWhile condition).getLast? = some third := by
  have holds : ∀ element ∈ list.rtakeWhile condition, condition element = true := by
    intro element member
    rw [List.rtakeWhile, List.mem_reverse] at member
    exact List.mem_takeWhile_imp member
  have parts : list.rdropWhile condition ++ list.rtakeWhile condition = list :=
    List.rdropWhile_append_rtakeWhile ..
  generalize list.rtakeWhile condition = ending at *
  rcases List.eq_nil_or_concat ending with rfl | ⟨ending, third, rfl⟩
  · exact absurd long (by simp)
  rcases List.eq_nil_or_concat ending with rfl | ⟨ending, second, rfl⟩
  · exact absurd long (by simp)
  rcases List.eq_nil_or_concat ending with rfl | ⟨ending, first, rfl⟩
  · exact absurd long (by simp)
  refine ⟨list.rdropWhile condition ++ ending, first, second, third, ?_, holds first (by simp),
    holds second (by simp), holds third (by simp), by simp⟩
  simpa using parts.symm

theorem cooldownEnd_of_taken {report : Report} (taken : report.taken = true)
    (failure : report.isFailure = true) :
    cooldownEnd report.time = report.time + breakerCooldownSeconds := by
  rw [Report.taken, failure, Bool.not_true, Bool.false_or, decide_eq_true_eq] at taken
  unfold cooldownEnd saturating at *
  have small : largest 63 < largest 64 := by decide
  omega

theorem taken_of_mem_outcomes {report : Report} (member : report ∈ outcomes reports relay) :
    report.taken = true := by
  have both := (List.mem_filter.mp member).2
  exact (Bool.and_eq_true_iff.mp both).2

theorem isOpen_eq (reports : List Report) (relay : String) (now : ℕ) :
    isOpen (circuitsAfter reports) relay now =
      (streak reports relay).getLast?.bind fun last =>
        if breakerFailures ≤ (streak reports relay).length ∧ now < cooldownEnd last.time then
          some ((streak reports relay).length, cooldownEnd last.time - now)
        else none := by
  unfold isOpen
  rw [circuitsAfter_eq, circuitOf]
  cases (streak reports relay).getLast? with
  | none => rfl
  | some =>
    rw [Option.map_some, Option.bind_some, Option.bind_some]
    dsimp only
    by_cases long : breakerFailures ≤ (streak reports relay).length
    · rw [if_pos long]
    · rw [if_neg fun both => long both.1, if_neg fun both => long both.1]

/-- An open circuit is one that is cooling, and the rest of its cooldown is the time to its end. -/
theorem cooling_of_isOpen {failures wait : ℕ}
    (opened : isOpen (circuitsAfter reports) relay now = some (failures, wait)) :
    Cooling reports relay now (now + wait) := by
  rw [isOpen_eq] at opened
  obtain ⟨last, ending, chosen⟩ := Option.bind_eq_some_iff.mp opened
  split at chosen
  case isFalse => exact absurd chosen.symm (Option.some_ne_none _)
  case isTrue both =>
    obtain ⟨before, first, second, third, split, firstFailed, secondFailed, thirdFailed, isLast⟩ :=
      three_le_length_rtakeWhile both.1
    obtain rfl : last = third := Option.some.inj (ending.symm.trans isLast)
    have member : last ∈ outcomes reports relay := by
      rw [split]
      simp
    have ends := cooldownEnd_of_taken (taken_of_mem_outcomes member) thirdFailed
    obtain ⟨-, rest⟩ := Prod.mk.inj (Option.some.inj chosen)
    exact ⟨before, first, second, last, split, firstFailed, secondFailed, thirdFailed, by omega,
      by omega⟩

/-- A relay that is cooling has an open circuit. -/
theorem isOpen_of_cooling {ends : ℕ} (cooling : Cooling reports relay now ends) :
    ∃ failures, isOpen (circuitsAfter reports) relay now = some (failures, ends - now) := by
  obtain ⟨before, first, second, third, split, firstFailed, secondFailed, thirdFailed, rfl, early⟩ :=
    cooling
  have member : third ∈ outcomes reports relay := by
    rw [split]
    simp
  have ends := cooldownEnd_of_taken (taken_of_mem_outcomes member) thirdFailed
  have failures : streak reports relay =
      before.rtakeWhile Report.isFailure ++ [first, second, third] := by
    have grouped : before ++ [first, second, third] =
        ((before ++ [first]) ++ [second]) ++ [third] := by simp
    rw [streak, split, grouped, List.rtakeWhile_concat_pos _ _ _ thirdFailed,
      List.rtakeWhile_concat_pos _ _ _ secondFailed, List.rtakeWhile_concat_pos _ _ _ firstFailed]
    simp
  have long : breakerFailures ≤ (streak reports relay).length := by
    rw [failures, List.length_append]
    exact Nat.le_add_left _ _
  have isLast : (streak reports relay).getLast? = some third := by
    rw [failures]
    simp
  refine ⟨(streak reports relay).length, ?_⟩
  rw [isOpen_eq, isLast, Option.bind_some, ends, if_pos ⟨long, early⟩]

/-! ### A fetch -/

/-- A signature of 64 bytes. -/
abbrev Signature := { bytes : Bytes // bytes.length = 64 }

/-- What one relay said about one round. -/
inductive Reply
  | signature (signature : Signature)
  | notYet
  | serverError (status : ℕ)
  | timedOut
  | failed (reason : String)

/-- What a reply comes to for the relay that gave it. -/
inductive Outcome
  | signature (signature : Signature)
  | excused (note : String)
  | failed (reason : String)

/-- `RELAY_TIMEOUT` and `FETCH_TIMEOUT`, in seconds. -/
def relayTimeout : ℕ := 4

def fetchTimeout : ℕ := 8

/-- The reason of a relay that does not answer. -/
def silent : String := "no answer within " ++ toString relayTimeout ++ " s"

/-- `judge`: a relay may not have a recent round yet. -/
def judge (reply : Reply) (recent serverErrors : Bool) : Outcome :=
  match reply with
  | .signature signature => .signature signature
  | .notYet =>
    if recent then .excused "round not published yet"
    else .failed "round already due but not served"
  | .serverError status =>
    if recent && serverErrors then
      .excused ("HTTP " ++ toString status ++ ", the round may not be published yet")
    else .failed ("HTTP " ++ toString status)
  | .timedOut =>
    if recent then .excused (silent ++ ", the round may not be published yet") else .failed silent
  | .failed reason => .failed reason

/-- `recent`: a round scheduled at most two periods before now. -/
def recent (network : Network) (round now : ℕ) : Bool :=
  decide (now ≤ saturating 64 (network.roundTime round + saturating 64 (network.period * 2)))

/-- What a fetch has learned, for its error. -/
structure Trace where
  notes : List String := []
  reading : Bool := false
  unverified : Bool := false

/-- Why a fetch failed: for the relays' sake, or for the caller's own reads of the chain. -/
inductive FetchError
  | relays (message : String)
  | chainRead (message : String)

/-- `Trace::error`. -/
def Trace.error (trace : Trace) (what : String) (expired : Bool) : FetchError :=
  let message := what ++ ": " ++ "; ".intercalate trace.notes
  if trace.unverified || (expired && trace.reading) then .chainRead message else .relays message

/-- What a fetch has in hand while it hears the relays: the verdicts on the signatures seen, the
number of times the verifier was asked, the trace and the outcomes reported to the circuits. -/
structure Hearing where
  verdicts : List (Signature × Bool) := []
  calls : ℕ := 0
  trace : Trace := {}
  reported : List (String × Option String) := []

/-- A verifier: what it says each time it is asked about a signature. -/
abbrev Verifier := ℕ → Signature → Except String Bool

/-- `verdict`: a verdict is remembered, an error is not. -/
def verdict (verify : Verifier) (hearing : Hearing) (signature : Signature) :
    Except String Bool × Hearing :=
  match hearing.verdicts.lookup signature with
  | some known => (.ok known, hearing)
  | none =>
    match verify hearing.calls signature with
    | .ok verified =>
      (.ok verified,
        { hearing with
          verdicts := (signature, verified) :: hearing.verdicts
          calls := hearing.calls + 1 })
    | .error problem => (.error problem, { hearing with calls := hearing.calls + 1 })

/-- A note of why a relay did not serve the round. -/
def Hearing.noted (hearing : Hearing) (relay text : String) : Hearing :=
  { hearing with
    trace := { hearing.trace with notes := hearing.trace.notes ++ [relay ++ ": " ++ text] } }

/-- A failure of a relay. -/
def Hearing.failed (hearing : Hearing) (relay reason : String) : Hearing :=
  { hearing.noted relay reason with reported := hearing.reported ++ [(relay, some reason)] }

/-- `collect`: the first answer the verifier accepts, of the replies in the order they come. -/
def collect (verify : Verifier) (recent serverErrors : Bool) :
    List (String × Reply) → Hearing → Option Signature × Hearing
  | [], hearing => (none, hearing)
  | (relay, reply) :: rest, hearing =>
    match judge reply recent serverErrors with
    | .excused text => collect verify recent serverErrors rest (hearing.noted relay text)
    | .failed reason => collect verify recent serverErrors rest (hearing.failed relay reason)
    | .signature signature =>
      match verdict verify hearing signature with
      | (.ok true, hearing) =>
        (some signature, { hearing with reported := hearing.reported ++ [(relay, none)] })
      | (.ok false, hearing) =>
        collect verify recent serverErrors rest (hearing.failed relay "signature does not verify")
      | (.error problem, hearing) =>
        let hearing := hearing.noted relay ("signature not verified: " ++ problem)
        collect verify recent serverErrors rest
          { hearing with trace := { hearing.trace with unverified := true } }

/-- How the time limit of a fetch ends it: not at all, or after some replies, perhaps while the
verifier is being asked. -/
inductive Limit
  | kept
  | reached (heard : ℕ) (reading : Bool)

/-- `fetch_round`: the signature of a round, by the replies in the order they come. -/
def fetchRound (verifier : Network → ℕ → Verifier) (network : Network) (round now : ℕ)
    (serverErrors : Bool) (replies : List (String × Reply)) (limit : Limit) :
    Except FetchError Signature :=
  let collected := collect (verifier network round) (recent network round now) serverErrors
  match limit with
  | .kept =>
    match collected replies {} with
    | (some signature, _) => .ok signature
    | (none, hearing) =>
      .error (hearing.trace.error ("No drand relay served round " ++ toString round) false)
  | .reached heard reading =>
    let trace := (collected (replies.take heard) {}).2.trace
    .error ({ trace with reading }.error
      ("No drand round within " ++ toString fetchTimeout ++ " s") true)

/-- The verdicts in hand are those of the verifier. -/
def Hearing.Honest (verify : Verifier) (hearing : Hearing) : Prop :=
  ∀ signature, (signature, true) ∈ hearing.verdicts → ∃ call, verify call signature = .ok true

/-- A verdict is the verifier's, now or before. -/
theorem Hearing.Honest.verdict {verify : Verifier} {hearing : Hearing}
    (honest : hearing.Honest verify) (signature : Signature) :
    (verdict verify hearing signature).2.Honest verify ∧
      ((verdict verify hearing signature).1 = .ok true →
        ∃ call, verify call signature = .ok true) := by
  unfold Relays.verdict
  split
  case h_1 known remembered =>
    refine ⟨honest, fun accepted => honest signature ?_⟩
    rw [Except.ok.inj accepted] at remembered
    obtain ⟨before, later, split, -⟩ := List.lookup_eq_some_iff.mp remembered
    rw [split]
    exact List.mem_append_right _ List.mem_cons_self
  case h_2 =>
    split
    case h_1 verified asked =>
      refine ⟨fun other member => ?_, fun accepted => ⟨_, asked.trans accepted⟩⟩
      rcases List.mem_cons.mp member with same | earlier
      · obtain ⟨rfl, rfl⟩ := Prod.mk.inj same
        exact ⟨_, asked⟩
      · exact honest other earlier
    case h_2 => exact ⟨honest, nofun⟩

/-- A collected signature was accepted by the verifier. -/
theorem accepted_of_collect {verify : Verifier} {recent serverErrors : Bool}
    {replies : List (String × Reply)} {hearing : Hearing} {signature : Signature}
    (honest : hearing.Honest verify)
    (collected : (collect verify recent serverErrors replies hearing).1 = some signature) :
    ∃ call, verify call signature = .ok true := by
  induction replies generalizing hearing with
  | nil => exact nomatch collected
  | cons head rest inductionHypothesis =>
    obtain ⟨relay, reply⟩ := head
    rw [collect] at collected
    split at collected
    case h_1 =>
      refine inductionHypothesis ?_ collected
      exact honest
    case h_2 =>
      refine inductionHypothesis ?_ collected
      exact honest
    case h_3 given _ =>
      obtain ⟨stillHonest, accepted⟩ := honest.verdict given
      split at collected
      case h_1 after verified =>
        rw [verified] at accepted
        obtain rfl := Option.some.inj collected
        exact accepted rfl
      case h_2 after verified =>
        rw [verified] at stillHonest
        refine inductionHypothesis ?_ collected
        exact stillHonest
      case h_3 problem after verified =>
        rw [verified] at stillHonest
        refine inductionHypothesis ?_ collected
        exact stillHonest

/-- A fetch returns only a signature that the verifier accepted for the round. -/
theorem accepted_of_fetchRound {verifier : Network → ℕ → Verifier} {network : Network} {round : ℕ}
    {serverErrors : Bool} {replies : List (String × Reply)} {limit : Limit}
    {signature : Signature}
    (fetched : fetchRound verifier network round now serverErrors replies limit = .ok signature) :
    ∃ call, verifier network round call signature = .ok true := by
  unfold fetchRound at fetched
  cases limit with
  | reached => exact nomatch fetched
  | kept =>
    dsimp only at fetched
    split at fetched
    case h_1 found hearing collected =>
      obtain rfl := Except.ok.inj fetched
      exact accepted_of_collect (fun _ member => absurd member List.not_mem_nil)
        (congrArg Prod.fst collected)
    case h_2 => exact nomatch fetched

/-! ### The relays in every history -/

/-- The relays that are asked after every history of reports, and what a fetch returns. A relay is
left out only if its last three recorded outcomes were failures, the last of them less than the
cooldown ago, and another such relay is asked whose cooldown ends no later. Asked are all relays
that are not cooling and exactly one that is, if there is any, so some relay is asked whenever there
is one. A fetch returns only a signature that the verifier accepted for the requested round,
whatever the relays answer and in whatever order. -/
theorem relays_asked (reports : List Report) (relays : List String) (now : ℕ) :
    let asked := askable (circuitsAfter reports) relays now
    (∀ relay ∈ relays, relay ∉ asked → ∃ ends, Cooling reports relay now ends ∧
      ∃ other ∈ asked, other ≠ relay ∧ ∃ otherEnds, Cooling reports other now otherEnds ∧
        otherEnds ≤ ends) ∧
    (∀ relay ∈ asked, relay ∈ relays) ∧
    (∀ relay ∈ relays, (∀ ends, ¬ Cooling reports relay now ends) → relay ∈ asked) ∧
    ((∃ relay ∈ relays, ∃ ends, Cooling reports relay now ends) →
      ∃! relay, relay ∈ asked ∧ ∃ ends, Cooling reports relay now ends) ∧
    (relays ≠ [] → asked ≠ []) ∧
    ∀ verifier network round time serverErrors replies limit signature,
      fetchRound verifier network round time serverErrors replies limit = .ok signature →
      ∃ call, verifier network round call signature = .ok true := by
  dsimp only
  have closed : ∀ relay ∈ relays, (∀ ends, ¬ Cooling reports relay now ends) →
      relay ∈ askable (circuitsAfter reports) relays now := by
    intro relay member warm
    rw [askable_eq]
    refine List.mem_append_left _ (List.mem_filter.mpr ⟨member, ?_⟩)
    cases state : isOpen (circuitsAfter reports) relay now with
    | none => rfl
    | some => exact absurd (cooling_of_isOpen state) (warm _)
  have scan := foldl_sooner (waits (circuitsAfter reports) now relays) none
  cases result : (waits (circuitsAfter reports) now relays).foldl sooner none with
  | none =>
    rw [result] at scan
    have warm : ∀ relay ∈ relays, ∀ ends, ¬ Cooling reports relay now ends := by
      intro relay member ends cooling
      obtain ⟨failures, opened⟩ := isOpen_of_cooling cooling
      have waiting := mem_waits.mpr ⟨member, failures, opened⟩
      rw [scan.1] at waiting
      exact absurd waiting List.not_mem_nil
    refine ⟨fun relay member out => absurd (closed relay member (warm relay member)) out, ?_, closed,
      ?_, ?_, fun _ _ _ _ _ _ _ _ => accepted_of_fetchRound⟩
    · intro relay member
      rw [askable_eq, result, Option.map_none, Option.toList_none, List.append_nil] at member
      exact (List.mem_filter.mp member).1
    · rintro ⟨relay, member, ends, cooling⟩
      exact absurd cooling (warm relay member ends)
    · intro some
      obtain ⟨relay, rest, rfl⟩ := List.exists_cons_of_ne_nil some
      exact List.ne_nil_of_mem (closed relay List.mem_cons_self (warm relay List.mem_cons_self))
  | some found =>
    obtain ⟨wait, probe⟩ := found
    rw [result] at scan
    obtain ⟨origin, soonest, -⟩ := scan
    have waiting : (wait, probe) ∈ waits (circuitsAfter reports) now relays :=
      origin.resolve_right (Option.some_ne_none _).symm
    obtain ⟨listed, failures, opened⟩ := mem_waits.mp waiting
    have asked : ∀ relay, relay ∈ askable (circuitsAfter reports) relays now ↔
        (relay ∈ relays ∧ isOpen (circuitsAfter reports) relay now = none) ∨ relay = probe := by
      intro relay
      rw [askable_eq, result, List.mem_append, List.mem_filter, Option.isNone_iff_eq_none]
      simp
    have probed : probe ∈ askable (circuitsAfter reports) relays now := (asked probe).mpr (.inr rfl)
    refine ⟨fun relay member out => ?_, fun relay member => ?_, closed, fun _ => ?_,
      fun _ => List.ne_nil_of_mem probed, fun _ _ _ _ _ _ _ _ => accepted_of_fetchRound⟩
    · cases state : isOpen (circuitsAfter reports) relay now with
      | none => exact absurd ((asked relay).mpr (.inl ⟨member, state⟩)) out
      | some other =>
        obtain ⟨count, rest⟩ := other
        have later := soonest (rest, relay) (mem_waits.mpr ⟨member, count, state⟩)
        refine ⟨now + rest, cooling_of_isOpen state, probe, probed, ?_, now + wait,
          cooling_of_isOpen opened, Nat.add_le_add_left later now⟩
        rintro rfl
        exact out probed
    · rcases (asked relay).mp member with ⟨inList, -⟩ | rfl
      · exact inList
      · exact listed
    · refine ⟨probe, ⟨probed, _, cooling_of_isOpen opened⟩, ?_⟩
      rintro relay ⟨member, ends, cooling⟩
      obtain ⟨count, state⟩ := isOpen_of_cooling cooling
      rcases (asked relay).mp member with ⟨-, shut⟩ | same
      · exact nomatch state.symm.trans shut
      · exact same

/-- Two relays that failed three times each, the first of them longer ago. -/
def twoCooling : List Report :=
  [⟨"a", true, 100⟩, ⟨"a", true, 101⟩, ⟨"a", true, 102⟩, ⟨"b", true, 110⟩, ⟨"b", true, 111⟩,
    ⟨"b", true, 112⟩]

/-- The second of them is left out, and the third relay and the first are asked. -/
theorem relays_asked_two_cooling :
    askable (circuitsAfter twoCooling) ["a", "b", "c"] 120 = ["c", "a"] ∧
      ∃ ends, Cooling twoCooling "b" 120 ends ∧
        ∃ other ∈ askable (circuitsAfter twoCooling) ["a", "b", "c"] 120, other ≠ "b" ∧
          ∃ otherEnds, Cooling twoCooling other 120 otherEnds ∧ otherEnds ≤ ends :=
  ⟨by decide, (relays_asked twoCooling ["a", "b", "c"] 120).1 "b" (by decide) (by decide)⟩

end D20.Relays
