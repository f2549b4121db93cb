/-
This file models a batch of calls to one RPC endpoint. The calls are posted in chunks of at most the
size the endpoint is known to take; a chunk that is refused for its size is asked again in halves,
and an endpoint that does not batch is asked one call at a time. The endpoint answers each request
as it likes, and the entries of an answer come in any order. The loop is compared with a relation
that says what a run posts, and what holds of runs is proved by induction on it.
-/

import Mathlib.Data.Nat.Log
import D20Keeper.History

namespace D20.RpcBatch

/-! ### Requests and answers -/

/-- Why a request failed: whether it was a rate limit, and whether it names batches, as a provider
does that refuses one for its size. -/
structure Failure where
  rateLimited : Bool
  namesBatches : Bool
  message : String
  deriving DecidableEq, Repr

/-- `batch_refused`: a rate limit is no refusal. -/
def Failure.batchRefused (failure : Failure) : Bool := !failure.rateLimited && failure.namesBatches

/-- An entry of an answer to a batch: its id, if it is a number, and its result or its error. -/
structure Item (Value : Type) where
  id : Option ℕ
  outcome : Except Failure Value

/-- The JSON an endpoint answers with: an array, or anything else with what `outcome` makes of it
and whether it has an error. -/
inductive Answer (Value : Type)
  | array (items : List (Item Value))
  | other (hasError : Bool) (outcome : Except Failure Value)

/-- A request: an array of calls, or one call. -/
inductive Post (Call : Type)
  | batch (calls : List Call)
  | single (call : Call)
  deriving DecidableEq, Repr

/-- The calls of a request. -/
def Post.calls {Call : Type} : Post Call → List Call
  | .batch calls => calls
  | .single call => [call]

/-- What a request came to. -/
inductive Verdict
  | answered
  | refused
  | noBatch
  | failed
  deriving DecidableEq, Repr

section

variable {Call Value : Type}

/-- An endpoint: what it answers to each request, by the number of requests before it. -/
abbrev Endpoint (Call Value : Type) := ℕ → Post Call → Except Failure (Answer Value)

/-- `outcome` of an answer. -/
def Answer.outcome : Answer Value → Except Failure Value
  | .array _ => .error ⟨false, false, "Missing RPC result"⟩
  | .other _ outcome => outcome

/-- The error for an entry whose id names no open slot. -/
def invalidId : Failure := ⟨false, false, "Invalid RPC batch response id"⟩

/-- The loop over the entries of an answer: each result goes into the slot its id names, which no
other entry may have taken. -/
def place : List (Item Value) → List (Option Value) → Except Failure (List (Option Value))
  | [], slots => .ok slots
  | item :: rest, slots =>
    match item.id with
    | none => .error invalidId
    | some id =>
      match slots[id]?, item.outcome with
      | some none, .ok value => place rest (slots.set id (some value))
      | some none, .error failure => .error failure
      | _, _ => .error invalidId

/-- `post_batch`: the results in the order of the calls, or none when the endpoint does not batch. A
slot holds null until an entry fills it. -/
def postBatch [Inhabited Value] (answer : Except Failure (Answer Value)) (count : ℕ) :
    Except Failure (Option (List Value)) :=
  match answer with
  | .error failure => .error failure
  | .ok (.array items) =>
    if items.length = count then
      (place items (List.replicate count none)).map fun slots =>
        some (slots.map fun slot => slot.getD default)
    else .ok none
  | .ok (.other true (.error failure)) =>
    if failure.rateLimited || failure.batchRefused then .error failure else .ok none
  | .ok (.other _ _) => .ok none

/-- The calls that are left, one at a time, with the results so far and the requests posted. -/
def singles (endpoint : Endpoint Call Value) : List Call → List Value → List (Post Call × Verdict) →
    Except Failure (List Value) × List (Post Call × Verdict)
  | [], results, log => (.ok results, log)
  | call :: rest, results, log =>
    match endpoint log.length (.single call) >>= Answer.outcome with
    | .ok value => singles endpoint rest (results ++ [value]) (log ++ [(.single call, .answered)])
    | .error failure => (.error failure, log ++ [(.single call, .failed)])

/-- The loop of `batch_at`, which gives up when it runs out of fuel: the results and the size the
endpoint took, and the requests posted. -/
def batchLoop [Inhabited Value] (endpoint : Endpoint Call Value) : ℕ → List Call → ℕ → List Value →
    List (Post Call × Verdict) →
    Option (Except Failure (List Value × ℕ) × List (Post Call × Verdict))
  | 0, _, _, _, _ => none
  | fuel + 1, rest, limit, results, log =>
    if rest = [] then some (.ok (results, limit), log)
    else if limit ≤ 1 then
      let (outcome, log) := singles endpoint rest results log
      some (outcome.map fun results => (results, limit), log)
    else
      let chunk := rest.take limit
      match postBatch (endpoint log.length (.batch chunk)) chunk.length with
      | .ok (some answered) =>
        batchLoop endpoint fuel (rest.drop chunk.length) limit (results ++ answered)
          (log ++ [(.batch chunk, .answered)])
      | .ok none => batchLoop endpoint fuel rest 1 results (log ++ [(.batch chunk, .noBatch)])
      | .error failure =>
        if failure.batchRefused then
          batchLoop endpoint fuel rest (max (chunk.length / 2) 1) results
            (log ++ [(.batch chunk, .refused)])
        else some (.error failure, log ++ [(.batch chunk, .failed)])

/-- `batch_at`, with the size the endpoint is known to take. -/
def batchAt [Inhabited Value] (endpoint : Endpoint Call Value) (fuel : ℕ) (calls : List Call)
    (known : ℕ) : Option (Except Failure (List Value × ℕ) × List (Post Call × Verdict)) :=
  batchLoop endpoint fuel calls known [] []

/-- The size kept for the endpoint when a batch has succeeded. -/
def keepLimit (stored known limit : ℕ) : ℕ :=
  if limit < known ∧ limit < stored then limit else stored

/-! ### What a run posts -/

/-- The posts of a run for the calls that are left, from a number of requests on, and its outcome.
-/
inductive Ran [Inhabited Value] (endpoint : Endpoint Call Value) : List Call → ℕ → ℕ →
    List (Post Call × Verdict) → Except Failure (List Value × ℕ) → Prop
  | done (limit index : ℕ) : Ran endpoint [] limit index [] (.ok ([], limit))
  | single {call : Call} {rest : List Call} {limit index : ℕ} {value : Value}
      {posted : List (Post Call × Verdict)} {outcome : Except Failure (List Value × ℕ)}
      (small : limit ≤ 1)
      (answer : (endpoint index (.single call) >>= Answer.outcome) = .ok value)
      (later : Ran endpoint rest limit (index + 1) posted outcome) :
      Ran endpoint (call :: rest) limit index ((.single call, .answered) :: posted)
        (outcome.map fun result => (value :: result.1, result.2))
  | singleFailed {call : Call} {rest : List Call} {limit index : ℕ} {failure : Failure}
      (small : limit ≤ 1)
      (answer : (endpoint index (.single call) >>= Answer.outcome) = .error failure) :
      Ran endpoint (call :: rest) limit index [(.single call, .failed)] (.error failure)
  | answered {rest : List Call} {limit index : ℕ} {values : List Value}
      {posted : List (Post Call × Verdict)} {outcome : Except Failure (List Value × ℕ)}
      (some_ : rest ≠ []) (large : ¬ limit ≤ 1)
      (answer : postBatch (endpoint index (.batch (rest.take limit))) (rest.take limit).length =
        .ok (some values))
      (later : Ran endpoint (rest.drop (rest.take limit).length) limit (index + 1) posted outcome) :
      Ran endpoint rest limit index ((.batch (rest.take limit), .answered) :: posted)
        (outcome.map fun result => (values ++ result.1, result.2))
  | noBatch {rest : List Call} {limit index : ℕ} {posted : List (Post Call × Verdict)}
      {outcome : Except Failure (List Value × ℕ)} (some_ : rest ≠ []) (large : ¬ limit ≤ 1)
      (answer : postBatch (endpoint index (.batch (rest.take limit))) (rest.take limit).length =
        .ok none)
      (later : Ran endpoint rest 1 (index + 1) posted outcome) :
      Ran endpoint rest limit index ((.batch (rest.take limit), .noBatch) :: posted) outcome
  | refused {rest : List Call} {limit index : ℕ} {failure : Failure}
      {posted : List (Post Call × Verdict)} {outcome : Except Failure (List Value × ℕ)}
      (some_ : rest ≠ []) (large : ¬ limit ≤ 1)
      (answer : postBatch (endpoint index (.batch (rest.take limit))) (rest.take limit).length =
        .error failure) (isRefusal : failure.batchRefused = true)
      (later : Ran endpoint rest (max ((rest.take limit).length / 2) 1) (index + 1) posted outcome) :
      Ran endpoint rest limit index ((.batch (rest.take limit), .refused) :: posted) outcome
  | failed {rest : List Call} {limit index : ℕ} {failure : Failure} (some_ : rest ≠ [])
      (large : ¬ limit ≤ 1)
      (answer : postBatch (endpoint index (.batch (rest.take limit))) (rest.take limit).length =
        .error failure) (noRefusal : ¬ failure.batchRefused = true) :
      Ran endpoint rest limit index [(.batch (rest.take limit), .failed)] (.error failure)

/-- How often a refusal can still halve the size. -/
def halvings (limit count : ℕ) : ℕ := if limit ≤ 1 then 0 else Nat.log 2 (min limit count) + 1

/-- Whether the endpoint can still turn out not to batch. -/
def batches (limit : ℕ) : ℕ := if limit ≤ 1 then 0 else 1

/-- The outcome of a run with the results it had before. -/
def resume (results : List Value) (outcome : Except Failure (List Value × ℕ)) :
    Except Failure (List Value × ℕ) :=
  outcome.map fun result => (results ++ result.1, result.2)

theorem resume_append (results values : List Value) (outcome : Except Failure (List Value × ℕ)) :
    resume (results ++ values) outcome =
      resume results (outcome.map fun result => (values ++ result.1, result.2)) := by
  cases outcome with
  | error => rfl
  | ok result => exact congrArg (fun list => Except.ok (list, result.2)) (List.append_assoc ..)

section

variable [Inhabited Value] {endpoint : Endpoint Call Value}

variable {rest : List Call} {limit index : ℕ} {posted : List (Post Call × Verdict)}
  {outcome : Except Failure (List Value × ℕ)}

/-- The loop over single calls is a run. -/
theorem ran_singles (rest : List Call) (small : limit ≤ 1) (results : List Value)
    (log : List (Post Call × Verdict)) :
    ∃ posted outcome, Ran endpoint rest limit log.length posted outcome ∧
      (singles endpoint rest results log).1.map (fun results => (results, limit)) =
        resume results outcome ∧
      (singles endpoint rest results log).2 = log ++ posted := by
  induction rest generalizing results log with
  | nil =>
    refine ⟨[], _, .done limit _, ?_, (List.append_nil log).symm⟩
    show Except.ok (results, limit) = Except.ok (results ++ [], limit)
    rw [List.append_nil]
  | cons call rest inductionHypothesis =>
    rw [singles]
    cases answer : endpoint log.length (.single call) >>= Answer.outcome with
    | error => exact ⟨_, _, .singleFailed small answer, rfl, rfl⟩
    | ok value =>
      obtain ⟨posted, outcome, ran, equal, logged⟩ := inductionHypothesis (results ++ [value])
        (log ++ [(.single call, .answered)])
      rw [List.length_append] at ran
      refine ⟨_, _, .single small answer ran, ?_, ?_⟩
      · rw [equal, resume_append]
        rfl
      · rw [logged, List.append_assoc]
        rfl

theorem length_take_pos (some_ : rest ≠ []) (large : ¬ limit ≤ 1) :
    0 < (rest.take limit).length := by
  have count := List.length_pos_iff.mpr some_
  rw [List.length_take]
  omega

/-- A refusal uses up a halving. -/
theorem halvings_of_refused (some_ : rest ≠ []) (large : ¬ limit ≤ 1) :
    halvings (max ((rest.take limit).length / 2) 1) rest.length + 1 ≤
      halvings limit rest.length := by
  have positive := length_take_pos some_ large
  rw [List.length_take] at positive ⊢
  unfold halvings
  rw [if_neg large]
  split
  case isTrue => omega
  case isFalse still =>
    have two : 2 ≤ min limit rest.length := by omega
    have half : min (max (min limit rest.length / 2) 1) rest.length = min limit rest.length / 2 := by
      omega
    have log := Nat.log_div_base 2 (min limit rest.length)
    have positiveLog := Nat.log_pos (by decide) two
    rw [half, log]
    omega

theorem halvings_of_answered {rest : List Call} {limit count : ℕ} (fewer : count ≤ rest.length) :
    halvings limit count ≤ halvings limit rest.length := by
  unfold halvings
  split
  case isTrue => exact le_rfl
  case isFalse =>
    have least : min limit count ≤ min limit rest.length := by omega
    exact Nat.succ_le_succ (Nat.log_mono_right least)

/-- The loop ends, and it is a run. -/
theorem ran_batchLoop {fuel : ℕ} {rest : List Call} {limit : ℕ} (results : List Value)
    (log : List (Post Call × Verdict))
    (enough : rest.length + halvings limit rest.length + batches limit < fuel) :
    ∃ posted outcome, Ran endpoint rest limit log.length posted outcome ∧
      batchLoop endpoint fuel rest limit results log =
        some (resume results outcome, log ++ posted) := by
  induction fuel generalizing rest limit results log with
  | zero => exact absurd enough (Nat.not_lt_zero _)
  | succ fuel inductionHypothesis =>
    have next : ∀ (entry : Post Call × Verdict), (log ++ [entry]).length = log.length + 1 :=
      fun entry => List.length_append
    rw [batchLoop]
    by_cases none : rest = []
    · rw [if_pos none, none]
      refine ⟨[], _, .done limit _, ?_⟩
      rw [List.append_nil]
      show some (Except.ok (results, limit), log) = some (Except.ok (results ++ [], limit), log)
      rw [List.append_nil]
    rw [if_neg none]
    by_cases small : limit ≤ 1
    · rw [if_pos small]
      obtain ⟨posted, outcome, ran, equal, logged⟩ := ran_singles rest small results log
      refine ⟨posted, outcome, ran, ?_⟩
      rw [← equal, ← logged]
    rw [if_neg small]
    have positive := length_take_pos none small
    have one : batches limit = 1 := if_neg small
    have oneLeft : batches 1 = 0 := rfl
    have noneLeft : ∀ count, halvings 1 count = 0 := fun count => rfl
    dsimp only
    cases answer : postBatch (endpoint log.length (.batch (rest.take limit)))
        (rest.take limit).length with
    | ok answered =>
      cases answered with
      | some values =>
        have fewer : (rest.drop (rest.take limit).length).length < rest.length := by
          rw [List.length_drop]
          have count := List.length_pos_iff.mpr none
          omega
        have same := @halvings_of_answered _ rest limit _ fewer.le
        obtain ⟨posted, outcome, ran, equal⟩ := inductionHypothesis (results ++ values)
          (log ++ [(.batch (rest.take limit), .answered)])
          (show (rest.drop (rest.take limit).length).length + _ + batches limit < fuel by omega)
        rw [next] at ran
        refine ⟨_, _, .answered none small answer ran, ?_⟩
        dsimp only
        rw [equal, resume_append, List.append_assoc]
        rfl
      | none =>
        obtain ⟨posted, outcome, ran, equal⟩ := inductionHypothesis results
          (log ++ [(.batch (rest.take limit), .noBatch)])
          (show rest.length + halvings 1 rest.length + batches 1 < fuel by
            rw [noneLeft, oneLeft]
            omega)
        rw [next] at ran
        refine ⟨_, _, .noBatch none small answer ran, ?_⟩
        dsimp only
        rw [equal, List.append_assoc]
        rfl
    | error failure =>
      dsimp only
      by_cases isRefusal : failure.batchRefused = true
      · rw [if_pos isRefusal]
        have fewer := halvings_of_refused none small
        have atMost : batches (max ((rest.take limit).length / 2) 1) ≤ 1 := by
          unfold batches
          split <;> omega
        obtain ⟨posted, outcome, ran, equal⟩ := inductionHypothesis results
          (log ++ [(.batch (rest.take limit), .refused)])
          (show rest.length + halvings (max ((rest.take limit).length / 2) 1) rest.length +
            batches (max ((rest.take limit).length / 2) 1) < fuel by omega)
        rw [next] at ran
        refine ⟨_, _, .refused none small answer isRefusal ran, ?_⟩
        rw [equal, List.append_assoc]
        rfl
      · rw [if_neg isRefusal]
        exact ⟨_, _, .failed none small answer isRefusal, rfl⟩

/-! ### The number and the size of the requests -/

/-- The number of requests of a run that came to a verdict. -/
def tally (verdict : Verdict) (posted : List (Post Call × Verdict)) : ℕ :=
  posted.countP fun entry => decide (entry.2 = verdict)

theorem tally_cons (verdict : Verdict) (entry : Post Call × Verdict)
    (posted : List (Post Call × Verdict)) :
    tally verdict (entry :: posted) = tally verdict posted + if entry.2 = verdict then 1 else 0 := by
  simp only [tally, List.countP_cons, decide_eq_true_eq]

theorem length_eq_tally (posted : List (Post Call × Verdict)) :
    posted.length = tally .answered posted + tally .failed posted + tally .refused posted +
      tally .noBatch posted := by
  induction posted with
  | nil => rfl
  | cons entry posted inductionHypothesis =>
    obtain ⟨post, verdict⟩ := entry
    simp only [tally_cons, List.length_cons, inductionHypothesis]
    cases verdict <;> simp only [reduceCtorEq, if_true, if_false] <;> omega

theorem batches_le_one (limit : ℕ) : batches limit ≤ 1 := by
  unfold batches
  split <;> omega

/-- A run posts at most one request for each call that is answered or fails, and beyond those as
many as it has halvings, and one that is no batch. -/
theorem Ran.tally_le (ran : Ran endpoint rest limit index posted outcome) :
    tally .answered posted + tally .failed posted ≤ rest.length ∧
      tally .refused posted ≤ halvings limit rest.length ∧
      tally .noBatch posted ≤ batches limit := by
  induction ran with
  | done => exact ⟨le_rfl, Nat.zero_le _, Nat.zero_le _⟩
  | @single call rest limit index value posted outcome small answer later inductionHypothesis =>
    obtain ⟨calls, refusals, others⟩ := inductionHypothesis
    have none : ∀ count, halvings limit count = 0 := fun count => if_pos small
    rw [none] at refusals
    simp only [tally_cons, reduceCtorEq, if_true, if_false, List.length_cons, none]
    exact ⟨by omega, refusals, others⟩
  | singleFailed => exact ⟨Nat.le_add_left _ _, Nat.zero_le _, Nat.zero_le _⟩
  | @answered rest limit index values posted outcome some_ large answer later inductionHypothesis =>
    obtain ⟨calls, refusals, others⟩ := inductionHypothesis
    have positive := length_take_pos some_ large
    have count := List.length_pos_iff.mpr some_
    have fewer : (rest.drop (rest.take limit).length).length + 1 ≤ rest.length := by
      rw [List.length_drop]
      omega
    have same := @halvings_of_answered _ rest limit _ (Nat.le_of_succ_le fewer)
    simp only [tally_cons, reduceCtorEq, if_true, if_false]
    exact ⟨by omega, refusals.trans same, others⟩
  | @noBatch rest limit index posted outcome some_ large answer later inductionHypothesis =>
    obtain ⟨calls, refusals, others⟩ := inductionHypothesis
    have one : batches limit = 1 := if_neg large
    simp only [tally_cons, reduceCtorEq, if_true, if_false, one]
    exact ⟨calls, refusals.trans (Nat.zero_le _), Nat.succ_le_succ others⟩
  | @refused rest limit index failure posted outcome some_ large answer isRefusal later
      inductionHypothesis =>
    obtain ⟨calls, refusals, others⟩ := inductionHypothesis
    have one : batches limit = 1 := if_neg large
    simp only [tally_cons, reduceCtorEq, if_true, if_false, one]
    exact ⟨calls, (Nat.succ_le_succ refusals).trans (halvings_of_refused some_ large),
      others.trans (batches_le_one _)⟩
  | failed some_ =>
    exact ⟨List.length_pos_iff.mpr some_, Nat.zero_le _, Nat.zero_le _⟩

theorem halvings_le (limit count : ℕ) : halvings limit count ≤ Nat.log 2 count + 1 := by
  unfold halvings
  split
  · exact Nat.zero_le _
  · exact Nat.succ_le_succ (Nat.log_mono_right (min_le_right _ _))

/-- What a run posts first: the first call alone when the limit is one, and otherwise a batch within
the limit. -/
theorem Ran.exists_head (ran : Ran endpoint rest limit index posted outcome) (some_ : rest ≠ []) :
    ∃ next ∈ posted.head?, (limit ≤ 1 → next.1 = .single (rest.head some_)) ∧
      (¬ limit ≤ 1 → next.1 = .batch (rest.take limit)) := by
  cases ran with
  | done => exact absurd rfl some_
  | single small answer later | singleFailed small answer =>
    exact ⟨_, rfl, fun _ => rfl, fun large => absurd small large⟩
  | answered _ large answer later | noBatch _ large answer later
  | refused _ large answer isRefusal later | failed _ large answer noRefusal =>
    exact ⟨_, rfl, fun small => absurd small large, fun _ => rfl⟩

/-- A refused request and the one after it: that has at most half the calls, or it is the call that
was refused as a batch of one. -/
def Halved (refused next : Post Call) : Prop :=
  2 * next.calls.length ≤ refused.calls.length ∨
    ∃ call, refused = .batch [call] ∧ next = .single call

/-- A refusal is not the last request, and the next one is half its size. -/
theorem Ran.halved (ran : Ran endpoint rest limit index posted outcome)
    {entry : Post Call × Verdict} {after : List (Post Call × Verdict)}
    (here : entry :: after <:+ posted) (isRefused : entry.2 = .refused) :
    ∃ next ∈ after.head?, Halved entry.1 next.1 := by
  induction ran with
  | done => exact absurd (List.suffix_nil.mp here) (List.cons_ne_nil _ _)
  | singleFailed small answer | failed some_ large answer noRefusal =>
    rcases List.suffix_cons_iff.mp here with equal | inside
    · cases equal
      exact nomatch isRefused
    · exact absurd (List.suffix_nil.mp inside) (List.cons_ne_nil _ _)
  | single small answer later inductionHypothesis
  | answered some_ large answer later inductionHypothesis
  | noBatch some_ large answer later inductionHypothesis =>
    rcases List.suffix_cons_iff.mp here with equal | inside
    · cases equal
      exact nomatch isRefused
    · exact inductionHypothesis inside
  | @refused rest limit index failure posted outcome some_ large answer isRefusal later
      inductionHypothesis =>
    rcases List.suffix_cons_iff.mp here with equal | inside
    · cases equal
      obtain ⟨next, first, asSingle, asBatch⟩ := later.exists_head some_
      refine ⟨next, first, ?_⟩
      have positive := length_take_pos some_ large
      by_cases small : max ((rest.take limit).length / 2) 1 ≤ 1
      · rw [asSingle small]
        by_cases alone : (rest.take limit).length = 1
        · obtain ⟨call, taken⟩ := List.length_eq_one_iff.mp alone
          refine Or.inr ⟨call, congrArg Post.batch taken, ?_⟩
          have head := List.head_take (l := rest) (i := limit) (by rw [taken]; nofun)
          simp only [taken, List.head_cons] at head
          rw [head]
        · refine Or.inl (?_ : 2 * 1 ≤ (rest.take limit).length)
          omega
      · rw [asBatch small]
        refine Or.inl (?_ : 2 * (rest.take _).length ≤ (rest.take limit).length)
        simp only [List.length_take] at small ⊢
        omega
    · exact inductionHypothesis inside

end

/-! ### The answers of a run -/

section

variable {endpoint : Endpoint Call Value}

/-- What the entries of an answer have done once all are placed: their ids differ, each fills the
slot of its id, which was open, and the other slots are as they were. -/
theorem place_ok {items : List (Item Value)} {slots filled : List (Option Value)}
    (placed : place items slots = .ok filled) :
    filled.length = slots.length ∧ (items.map Item.id).Nodup ∧
      (∀ item ∈ items, ∃ id value, item.id = some id ∧ item.outcome = .ok value ∧
        slots[id]? = some none ∧ filled[id]? = some (some value)) ∧
      (∀ id, (∀ item ∈ items, item.id ≠ some id) → filled[id]? = slots[id]?) ∧
      filled.countP Option.isNone + items.length = slots.countP Option.isNone := by
  induction items generalizing slots with
  | nil =>
    obtain rfl := Except.ok.inj placed
    exact ⟨rfl, .nil, nofun, fun _ _ => rfl, rfl⟩
  | cons item rest inductionHypothesis =>
    rw [place] at placed
    split at placed
    case h_1 => exact nomatch placed
    case h_2 id known =>
      split at placed
      case h_2 | h_3 => exact nomatch placed
      case h_1 value isOpen outcome =>
        obtain ⟨length, distinct, fills, frame, count⟩ := inductionHypothesis placed
        obtain ⟨bound, empty⟩ := List.getElem?_eq_some_iff.mp isOpen
        have here : (slots.set id (some value))[id]? = some (some value) := by
          rw [List.getElem?_set, if_pos rfl, if_pos bound]
        have elsewhere : ∀ other, other ≠ id → (slots.set id (some value))[other]? = slots[other]? :=
          fun other differs => by rw [List.getElem?_set, if_neg differs.symm]
        have others : ∀ other ∈ rest, other.id ≠ some id := by
          intro other member same
          obtain ⟨place, _, known', _, stillOpen, _⟩ := fills other member
          obtain rfl := Option.some.inj (known'.symm.trans same)
          rw [here] at stillOpen
          exact nomatch stillOpen
        refine ⟨length.trans List.length_set, ?_, ?_, ?_, ?_⟩
        · refine List.nodup_cons.mpr ⟨?_, distinct⟩
          rw [known]
          intro member
          obtain ⟨other, isOther, same⟩ := List.mem_map.mp member
          exact others other isOther same
        · intro other member
          rcases List.mem_cons.mp member with rfl | later
          · exact ⟨id, value, known, outcome, isOpen, (frame id others).trans here⟩
          · obtain ⟨place, result, known', outcome', stillOpen, filledThere⟩ := fills other later
            have differs : place ≠ id := fun same => others other later (same ▸ known')
            exact ⟨place, result, known', outcome', elsewhere place differs ▸ stillOpen, filledThere⟩
        · intro other absent
          have differs : other ≠ id := fun same => absent item List.mem_cons_self (same ▸ known)
          rw [frame other fun entry member => absent entry (List.mem_cons_of_mem _ member),
            elsewhere other differs]
        · have taken := @List.countP_set _ Option.isNone slots id (some value) bound
          have some_ : 0 < slots.countP Option.isNone :=
            List.countP_pos_iff.mpr ⟨slots[id], List.getElem_mem bound, by rw [empty]; rfl⟩
          rw [empty] at taken
          simp only [Option.isNone_none, Option.isNone_some, if_true, Bool.false_eq_true, if_false,
            Nat.add_zero] at taken
          rw [List.length_cons]
          omega

variable (endpoint)

/-- The answer an endpoint gave to the call at a place of a request. To a batch it is an array of as
many entries as calls, with different ids, and the answer is that of the entry with the place as its
id. -/
def AnswerAt (number : ℕ) (post : Post Call) (place : ℕ) (value : Value) : Prop :=
  match post with
  | .single call => place = 0 ∧ (endpoint number (.single call) >>= Answer.outcome) = .ok value
  | .batch calls => ∃ items, endpoint number (.batch calls) = .ok (.array items) ∧
      items.length = calls.length ∧ (items.map Item.id).Nodup ∧
      ∃ item ∈ items, item.id = some place ∧ item.outcome = .ok value

/-- The answers to all the calls of a request, in their order. -/
def Answers (request : ℕ × Post Call) (values : List Value) : Prop :=
  values.length = request.2.calls.length ∧
    ∀ place value, values[place]? = some value → AnswerAt endpoint request.1 request.2 place value

/-- The requests of a run that were answered, each with its number. -/
def answeredPosts : ℕ → List (Post Call × Verdict) → List (ℕ × Post Call)
  | _, [] => []
  | index, (post, .answered) :: rest => (index, post) :: answeredPosts (index + 1) rest
  | index, _ :: rest => answeredPosts (index + 1) rest

/-- The results are put together from the answers to the requests that succeeded, and each call is
in one of those. -/
def Assembled (index : ℕ) (calls : List Call)
    (posted : List (Post Call × Verdict)) (results : List Value) : Prop :=
  (answeredPosts index posted).flatMap (fun request => request.2.calls) = calls ∧
    ∃ shares, List.Forall₂ (Answers endpoint) (answeredPosts index posted) shares ∧
      results = shares.flatten

variable {endpoint}

theorem Assembled.length {index : ℕ} {calls : List Call} {posted : List (Post Call × Verdict)}
    {results : List Value} (assembled : Assembled endpoint index calls posted results) :
    results.length = calls.length := by
  obtain ⟨rfl, shares, answers, rfl⟩ := assembled
  generalize answeredPosts index posted = requests at answers
  induction answers with
  | nil => rfl
  | cons answer _ inductionHypothesis =>
    rw [List.flatten_cons, List.flatMap_cons, List.length_append, List.length_append,
      inductionHypothesis, answer.1]

theorem Assembled.cons {index : ℕ} {calls : List Call} {posted : List (Post Call × Verdict)}
    {results values : List Value} {post : Post Call}
    (assembled : Assembled endpoint (index + 1) calls posted results)
    (answers : Answers endpoint (index, post) values) :
    Assembled endpoint index (post.calls ++ calls) ((post, .answered) :: posted)
      (values ++ results) := by
  obtain ⟨covered, shares, later, rfl⟩ := assembled
  refine ⟨?_, values :: shares, .cons answers later, rfl⟩
  rw [answeredPosts, List.flatMap_cons, covered]

end

section

variable [Inhabited Value] {endpoint : Endpoint Call Value}

/-- A batch that succeeds has its results in the order of the calls. -/
theorem answers_of_postBatch {number : ℕ} {calls : List Call} {values : List Value}
    (posted : postBatch (endpoint number (.batch calls)) calls.length = .ok (some values)) :
    Answers endpoint (number, .batch calls) values := by
  unfold postBatch at posted
  split at posted
  case h_1 | h_4 => exact nomatch posted
  case h_3 => split at posted <;> exact nomatch posted
  case h_2 items answer =>
    split at posted
    case isFalse => exact nomatch posted
    case isTrue full =>
      cases placed : place items (List.replicate calls.length none) with
      | error =>
        rw [placed] at posted
        exact nomatch posted
      | ok filled =>
        rw [placed] at posted
        obtain rfl := Option.some.inj (Except.ok.inj posted)
        obtain ⟨length, distinct, fills, frame, count⟩ := place_ok placed
        rw [List.length_replicate] at length
        refine ⟨(List.length_map _).trans length, fun place value found => ?_⟩
        have allOpen : (List.replicate calls.length (none : Option Value)).countP Option.isNone =
            calls.length := by
          rw [List.countP_replicate]
          rfl
        have noneOpen := List.countP_eq_zero.mp (show filled.countP Option.isNone = 0 by omega)
        rw [List.getElem?_map] at found
        obtain ⟨slot, isSlot, rfl⟩ := Option.map_eq_some_iff.mp found
        have inRange : place < calls.length := by
          rw [← length]
          exact (List.getElem?_eq_some_iff.mp isSlot).1
        obtain ⟨item, member, known⟩ : ∃ item ∈ items, item.id = some place := by
          by_contra absent
          push Not at absent
          have same := frame place absent
          rw [isSlot, List.getElem?_replicate, if_pos inRange] at same
          have slotOpen := noneOpen slot (List.mem_of_getElem? isSlot)
          rw [Option.some.inj same] at slotOpen
          exact slotOpen rfl
        obtain ⟨id, result, known', outcome, _, filledThere⟩ := fills item member
        obtain rfl := Option.some.inj (known'.symm.trans known)
        obtain rfl := Option.some.inj (isSlot.symm.trans filledThere)
        exact ⟨items, answer, full, distinct, item, member, known, outcome⟩

/-- A run that succeeds has the answers to its calls in their order. -/
theorem Ran.assembled {rest : List Call} {limit index : ℕ} {posted : List (Post Call × Verdict)}
    {outcome : Except Failure (List Value × ℕ)} (ran : Ran endpoint rest limit index posted outcome)
    {results : List Value} {last : ℕ} (succeeded : outcome = .ok (results, last)) :
    Assembled endpoint index rest posted results := by
  induction ran generalizing results with
  | done =>
    obtain ⟨rfl, -⟩ := Prod.mk.inj (Except.ok.inj succeeded)
    exact ⟨rfl, [], .nil, rfl⟩
  | singleFailed small answer | failed some_ large answer noRefusal => exact nomatch succeeded
  | @single call rest limit index value posted outcome small answer later inductionHypothesis =>
    cases outcome with
    | error => exact nomatch succeeded
    | ok result =>
      obtain ⟨rfl, rfl⟩ := Prod.mk.inj (Except.ok.inj succeeded)
      refine @Assembled.cons _ _ endpoint index rest posted result.1 [value] (.single call)
        (inductionHypothesis rfl) ⟨rfl, fun place value' found => ?_⟩
      obtain ⟨bound, rfl⟩ := List.getElem?_eq_some_iff.mp found
      obtain rfl := Nat.lt_one_iff.mp bound
      exact ⟨rfl, answer⟩
  | @answered rest limit index values posted outcome some_ large answer later inductionHypothesis =>
    cases outcome with
    | error => exact nomatch succeeded
    | ok =>
      obtain ⟨rfl, rfl⟩ := Prod.mk.inj (Except.ok.inj succeeded)
      have assembled := (inductionHypothesis rfl).cons (answers_of_postBatch answer)
      have split : rest.take limit ++ rest.drop (rest.take limit).length = rest := by
        conv_rhs => rw [← List.take_append_drop (rest.take limit).length rest]
        rw [List.length_take, List.take_eq_take_min, min_comm]
      rwa [Post.calls, split] at assembled
  | noBatch some_ large answer later inductionHypothesis
  | refused some_ large answer isRefusal later inductionHypothesis =>
    obtain ⟨covered, shares, answers, same⟩ := inductionHypothesis succeeded
    exact ⟨covered, shares, answers, same⟩

/-! ### Batches of one endpoint side by side -/

/-- The batches to one endpoint: the size kept for it, and the size each batch on its way has
started with. -/
structure Sizes where
  stored : ℕ
  running : List ℕ
  deriving DecidableEq, Repr

/-- A batch starts, or one on its way ends, after what the endpoint answered to its calls. -/
inductive Event (Call Value : Type)
  | start
  | finish (position : ℕ) (endpoint : Endpoint Call Value) (calls : List Call) (fuel : ℕ)

/-- What an event does to the sizes: a batch that starts reads the size kept, and one that succeeds
may write it. -/
def Sizes.step (sizes : Sizes) : Event Call Value → Sizes
  | .start => { sizes with running := sizes.running ++ [sizes.stored] }
  | .finish position endpoint calls fuel =>
    match sizes.running[position]? with
    | none => sizes
    | some known =>
      match batchAt endpoint fuel calls known with
      | some (.ok (_, limit), _) =>
        ⟨keepLimit sizes.stored known limit, sizes.running.eraseIdx position⟩
      | _ => ⟨sizes.stored, sizes.running.eraseIdx position⟩

theorem keepLimit_le (stored known limit : ℕ) : keepLimit stored known limit ≤ stored := by
  unfold keepLimit
  split <;> omega

theorem Sizes.stored_step_le (sizes : Sizes) (event : Event Call Value) :
    (sizes.step event).stored ≤ sizes.stored := by
  cases event with
  | start => exact le_rfl
  | finish position =>
    rw [Sizes.step]
    cases sizes.running[position]? with
    | none => exact le_rfl
    | some =>
      dsimp only
      split
      · exact keepLimit_le _ _ _
      · exact le_rfl

/-- No sequence of events raises the size kept. -/
theorem Sizes.stored_after_le (sizes : Sizes) (events : List (Event Call Value)) :
    (History.after Sizes.step sizes events).stored ≤ sizes.stored := by
  induction events using List.reverseRecOn with
  | nil => exact le_rfl
  | append_singleton events event inductionHypothesis =>
    rw [History.after_append_singleton]
    exact (Sizes.stored_step_le _ event).trans inductionHypothesis

/-! ### Split batches -/

/-- A batch to one endpoint ends, for every list of calls, every size the endpoint is known to take
and whatever the endpoint answers. When it succeeds, there is one result for each call, in their
order, and the results are the answers to the requests that succeeded, each call being in one of
them. A refusal is never the last request, and the one after it has at most half the calls, or it is
the one call that was refused as a batch of one. There are at most as many requests as calls, beyond them logarithmically many
refusals and one answer that is no batch. The size kept for the endpoint never rises, whatever
batches run side by side. -/
theorem split_batches (endpoint : Endpoint Call Value) (calls : List Call) (known : ℕ) {fuel : ℕ}
    (enough : calls.length + Nat.log 2 calls.length + 2 < fuel) :
    (∃ outcome posted, batchAt endpoint fuel calls known = some (outcome, posted) ∧
      (∀ results limit, outcome = .ok (results, limit) →
        results.length = calls.length ∧ Assembled endpoint 0 calls posted results) ∧
      (∀ entry after, entry :: after <:+ posted → entry.2 = .refused →
        ∃ next ∈ after.head?, Halved entry.1 next.1) ∧
      tally .refused posted ≤ Nat.log 2 calls.length + 1 ∧ tally .noBatch posted ≤ 1 ∧
      posted.length ≤ calls.length + tally .refused posted + tally .noBatch posted) ∧
    ∀ (sizes : Sizes) (before later : List (Event Call Value)),
      (History.after Sizes.step sizes (before ++ later)).stored ≤
        (History.after Sizes.step sizes before).stored := by
  refine ⟨?_, fun sizes before later => ?_⟩
  · have refusals := halvings_le known calls.length
    have others := batches_le_one known
    obtain ⟨posted, outcome, ran, equal⟩ := @ran_batchLoop _ _ _ endpoint fuel calls known [] []
      (by omega)
    obtain ⟨answers, refused, noBatch⟩ := ran.tally_le
    have total := length_eq_tally posted
    have whole : resume [] outcome = outcome := by cases outcome <;> rfl
    rw [whole, List.nil_append] at equal
    refine ⟨outcome, posted, equal, ?_, fun _ _ => ran.halved, refused.trans refusals,
      noBatch.trans others, by omega⟩
    intro results limit succeeded
    have assembled := ran.assembled succeeded
    exact ⟨assembled.length, assembled⟩
  · rw [History.after_append]
    exact Sizes.stored_after_le _ later

/-- An endpoint that takes batches of two calls, and answers them in the wrong order. -/
def pairEndpoint : Endpoint ℕ ℕ := fun _ post =>
  match post with
  | .batch [first, second] =>
    .ok (.array [⟨some 1, .ok (second * 10)⟩, ⟨some 0, .ok (first * 10)⟩])
  | .batch _ => .error ⟨false, true, "batch too large"⟩
  | .single call => .ok (.other false (.ok (call * 10)))

/-- Five calls to an endpoint that takes two at a time. -/
theorem split_batches_pairs :
    batchAt pairEndpoint 12 [1, 2, 3, 4, 5] 100 = some (.ok ([10, 20, 30, 40, 50], 1),
      [(.batch [1, 2, 3, 4, 5], .refused), (.batch [1, 2], .answered), (.batch [3, 4], .answered),
        (.batch [5], .refused), (.single 5, .answered)]) ∧
      (∃ outcome posted, batchAt pairEndpoint 12 [1, 2, 3, 4, 5] 100 = some (outcome, posted) ∧
        posted.length ≤ 5 + tally .refused posted + tally .noBatch posted) := by
  have five : Nat.log 2 5 = 2 := by decide
  obtain ⟨⟨outcome, posted, equal, -, -, -, -, count⟩, -⟩ := split_batches pairEndpoint
    [1, 2, 3, 4, 5] 100 (show [1, 2, 3, 4, 5].length + Nat.log 2 [1, 2, 3, 4, 5].length + 2 < 12 by
      show 5 + Nat.log 2 5 + 2 < 12
      omega)
  exact ⟨rfl, outcome, posted, equal, count⟩

/-- After the refusal of a batch of one call, a request of the same size is posted. -/
theorem split_batches_of_one :
    ∃ posted, batchAt pairEndpoint 4 [5] 100 = some (.ok ([50], 1), posted) ∧
      posted = [(.batch [5], .refused), (.single 5, .answered)] ∧
      ¬ 2 * (Post.single 5).calls.length ≤ (Post.batch [5]).calls.length :=
  ⟨_, rfl, rfl, by decide⟩

end

end

end D20.RpcBatch
