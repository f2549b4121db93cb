/-
This file models how a keeper handles a block that one endpoint showed with another hash than its
journal's. The suspicion is held in memory while every endpoint is asked about the block, again and
again until they settle it; a mismatch goes on record when they agree that the chain changed, or
when an operator acknowledges the suspected one by its identifier. Endpoints that do not have the
block at all confirm a shorter chain only after several asks over some time, since they may just be
behind.
-/

import D20Keeper.Journal
import D20Keeper.Verdict

namespace D20.Finality

open Journal (Mismatch ensure ensure_eq_ok bind_eq_ok)

/-! ### What is kept -/

/-- The note of a suspected mismatch, as `finality --status` prints it. -/
structure Suspected where
  mismatch : Mismatch
  checks : ℕ
  endpoints : ℕ
  answered : ℕ
  deriving DecidableEq

/-- An operator's word on a mismatch. -/
structure Acknowledgement where
  id : String
  acknowledgedAt : ℕ
  deriving DecidableEq

/-- What the endpoints said of a mismatch they confirmed. -/
structure Evidence where
  agreeing : ℕ
  answered : ℕ
  endpoints : ℕ
  cooled : List ℕ
  isFinal : Bool
  checks : ℕ
  deriving DecidableEq

/-- A mismatch one endpoint showed, held while the endpoints settle it: how often they were asked
without settling it, when they are asked next, when it was first seen, and whether the owner was
asked to act. Times are milliseconds of a clock that only goes forward. -/
structure Suspicion where
  found : Mismatch
  checks : ℕ
  next : ℕ
  seen : ℕ
  paged : Bool
  deriving DecidableEq

/-- What the journal keeps of a mismatch, and the suspicion the process holds. -/
structure Watch where
  mismatch : Option Mismatch
  ack : Option Acknowledgement
  note : Option Suspected
  confirmed : Option Evidence
  unconfirmedAlerted : Option String
  held : Option Suspicion
  deriving DecidableEq

/-- How long the keeper waits: for a shorter chain to be confirmed, before it asks again the first
time, and before it asks the owner to act. -/
structure Patience where
  absentWindow : ℕ
  suspicionRetry : ℕ
  pageAfter : ℕ

/-- The least number of asks that confirm a shorter chain. -/
def absentChecks : ℕ := 3

/-- The longest wait between two asks. -/
def retryMax : ℕ := 30000

/-- The wait after a number of asks that did not settle a suspicion. -/
def retryAfter (first checks : ℕ) : ℕ := min (first * 2 ^ min (checks - 1) 16) retryMax

/-- The answers of the endpoints to one ask, at most one of each. -/
structure Answers where
  views : List BlockView
  distinct : (views.map BlockView.endpoint).Nodup

/-! ### Handling a suspicion -/

/-- When a suspicion was first seen: now, or as long ago as the note of it is old. -/
def firstSeen (now wallTime detectedAt : ℕ) : ℕ :=
  if (wallTime - detectedAt) * 1000 ≤ now then now - (wallTime - detectedAt) * 1000 else now

variable (ident : Mismatch → String)

variable (watch : Watch)

/-- One endpoint showed a mismatch. A mismatch on record covers it, and one suspicion is held at a
time; the note of the same block that a process before left gives the time it was first seen. -/
def suspect (found : Mismatch) (now wallTime : ℕ) :
    Watch :=
  if watch.mismatch.isSome then watch
  else if watch.held.isSome then watch
  else
    let fresh : Suspicion :=
      { found := found, checks := 0, next := now, seen := now, paged := false }
    match watch.note with
    | none => { watch with held := some fresh }
    | some noted =>
      if noted.mismatch.kind = found.kind ∧ noted.mismatch.number = found.number ∧
          noted.mismatch.expected = found.expected then
        let again : Mismatch := { found with detectedAt := noted.mismatch.detectedAt }
        let carried : Suspicion :=
          { fresh with
            found := again
            seen := firstSeen now wallTime again.detectedAt
            paged := watch.unconfirmedAlerted == some (ident again) }
        { watch with held := some carried }
      else { watch with held := some fresh }

/-- The views that count for a suspicion: an endpoint without the block counts only if the chain is
suspected to be shorter. -/
def countedViews (found : Mismatch) (answers : Answers) : List BlockView :=
  if found.actual = absent.text then answers.views
  else answers.views.filter fun view => view.hash != absent

variable (patience : Patience)

/-- The verdict on a suspicion. Endpoints that do not have the block confirm that the chain is
shorter only when none shows it, after enough asks and long enough after it was first seen. -/
def settledVerdict (held : Suspicion) (views : List BlockView) (later : ℕ) : Verdict :=
  match verdict held.found.expected views with
  | .changed hash agree odd =>
    if hash = absent.text ∧ ((views.any fun view => view.hash.text != absent.text) ∨
        held.checks + 1 < absentChecks ∨ later - held.seen < patience.absentWindow) then .unresolved
    else .changed hash agree odd
  | other => other

/-- The mismatch that endpoints confirmed is recorded, unless one is on record. -/
def confirmFinalityMismatch (mismatch : Mismatch) (evidence : Evidence) : Watch :=
  if watch.mismatch.isSome then { watch with note := none }
  else { watch with mismatch := some mismatch, confirmed := some evidence, note := none }

/-- What the verdict of one ask leaves: a mismatch on record, nothing, or the suspicion with its
note until the next ask. -/
def settleHeld (ident : Mismatch → String) (watch : Watch)
    (held : Suspicion) (views : List BlockView) (endpoints now later : ℕ) : Watch :=
  match settledVerdict patience held views later with
  | .changed hash agree odd =>
    let evidence : Evidence :=
      { agreeing := agree, answered := views.length, endpoints := endpoints, cooled := odd
        isFinal := views.any fun view => view.hash.text == hash &&
          view.finalized.any fun finalized => decide (held.found.number ≤ finalized)
        checks := held.checks + 1 }
    let confirmed := confirmFinalityMismatch watch { held.found with actual := hash } evidence
    { confirmed with held := none }
  | .unchanged _ _ => { watch with note := none, held := none }
  | .unresolved =>
    let paging := !held.paged && decide (patience.pageAfter ≤ later - held.seen)
    let noted : Suspected :=
      { mismatch := held.found, checks := held.checks + 1, endpoints := endpoints
        answered := views.length }
    let waiting : Suspicion :=
      { held with
        checks := held.checks + 1
        next := now + retryAfter patience.suspicionRetry (held.checks + 1)
        paged := held.paged || paging }
    { watch with
      note := some noted
      unconfirmedAlerted := if paging then some (ident held.found) else watch.unconfirmedAlerted
      held := some waiting }

/-- Ask the endpoints about the suspected mismatch, when it is time to. The answers arrive later
than they are asked for. -/
def settleSuspicion (ident : Mismatch → String) (watch : Watch)
    (answers : Answers) (endpoints now later : ℕ) : Watch :=
  match watch.held with
  | none => watch
  | some held =>
    if watch.mismatch.isSome then { watch with held := none }
    else if now < held.next then watch
    else
      settleHeld patience ident watch held (countedViews held.found answers) endpoints now later

/-! ### The operator -/

/-- The white space that `str::trim` removes. -/
def isWhiteSpace (char : Char) : Bool :=
  let code := char.toNat
  (9 ≤ code && code ≤ 13) || code == 0x20 || code == 0x85 || code == 0xa0 || code == 0x1680 ||
    (0x2000 ≤ code && code ≤ 0x200a) || code == 0x2028 || code == 0x2029 || code == 0x202f ||
    code == 0x205f || code == 0x3000

/-- `id.trim().to_ascii_lowercase()`. -/
def normalizedId (id : String) : String :=
  String.ofList ((((id.toList.dropWhile isWhiteSpace).reverse.dropWhile isWhiteSpace).reverse).map
    Char.toLower)

/-- The acknowledgement of a mismatch: the one that is there for it, or a new one. -/
def acknowledged (ack : Option Acknowledgement) (id : String) (now : ℕ) : Acknowledgement :=
  match ack with
  | some saved => if saved.id = id then saved else { id := id, acknowledgedAt := now }
  | none => { id := id, acknowledgedAt := now }

/-- An operator acknowledges a mismatch by its identifier: the one on record, or with none on record
the suspected one, which is then recorded. -/
def acknowledgeFinality (id : String) (now : ℕ) :
    Except String (Acknowledgement × Watch) := do
  let id := normalizedId id
  match watch.mismatch with
  | some recorded =>
    ensure (ident recorded = id) ("The finality mismatch on record has id " ++ ident recorded ++
      ", not " ++ id ++ "; read it with `finality --status` and acknowledge that one")
    let ack := acknowledged watch.ack id now
    return (ack, { watch with ack := some ack })
  | none =>
    match watch.note with
    | none =>
      .error "No finality mismatch is on record or suspected; there is nothing to acknowledge"
    | some suspected =>
      ensure (ident suspected.mismatch = id) ("The suspected finality mismatch has id " ++
        ident suspected.mismatch ++ ", not " ++ id ++
        "; read it with `finality --status` and acknowledge that one")
      let ack := acknowledged watch.ack id now
      return (ack,
        { watch with mismatch := some suspected.mismatch, note := none, ack := some ack })

/-- The recovery is complete: the mismatch and everything beside it go. -/
def clearIncident : Watch :=
  { watch with
    mismatch := none, ack := none, note := none, confirmed := none, unconfirmedAlerted := none }

/-! ### Runs -/

/-- What happens to a suspicion: an endpoint shows a mismatch, the endpoints are asked, an operator
acknowledges, the recovery ends, and the process starts again. -/
inductive Event
  | suspect (found : Mismatch) (now wallTime : ℕ)
  | settle (answers : Answers) (endpoints now later : ℕ)
  | acknowledge (id : String) (now : ℕ)
  | clear
  | restart

/-- What an event leaves. -/
def Event.apply (ident : Mismatch → String) (watch : Watch) : Event → Watch
  | .suspect found now wallTime => Finality.suspect ident watch found now wallTime
  | .settle answers endpoints now later =>
    settleSuspicion patience ident watch answers endpoints now later
  | .acknowledge id now =>
    ((acknowledgeFinality ident watch id now).toOption.map Prod.snd).getD watch
  | .clear => clearIncident watch
  | .restart => { watch with held := none }

/-! ### Who puts a mismatch on record -/

theorem countedViews_distinct (found : Mismatch) (answers : Answers) :
    ((countedViews found answers).map BlockView.endpoint).Nodup := by
  unfold countedViews
  split
  · exact answers.distinct
  · exact answers.distinct.sublist (List.filter_sublist.map _)

variable {answers : Answers} {views : List BlockView} {held : Suspicion} {later now : ℕ}
  {watch : Watch} {recorded : Mismatch}

/-- A hash that at least two views show is shown by two endpoints. -/
theorem two_endpoints {hash : String} (distinct : (views.map BlockView.endpoint).Nodup)
    (two : 2 ≤ shown views hash) :
    ∃ first ∈ views, ∃ second ∈ views, first.endpoint ≠ second.endpoint ∧
      first.hash.text = hash ∧ second.hash.text = hash := by
  unfold shown at two
  rw [List.countP_eq_length_filter] at two
  have mem : ∀ view ∈ views.filter (fun view => view.hash.text == hash),
      view ∈ views ∧ view.hash.text = hash := by
    intro view member
    obtain ⟨viewMem, shows⟩ := List.mem_filter.mp member
    exact ⟨viewMem, beq_iff_eq.mp shows⟩
  have apart : ((views.filter fun view => view.hash.text == hash).map BlockView.endpoint).Nodup :=
    distinct.sublist (List.filter_sublist.map _)
  match shows : views.filter (fun view => view.hash.text == hash) with
  | [] =>
    rw [shows] at two
    exact nomatch two
  | [_] =>
    rw [shows] at two
    exact absurd two (Nat.not_le.mpr Nat.one_lt_two)
  | first :: second :: rest =>
    rw [shows] at mem apart
    obtain ⟨firstMem, firstShows⟩ := mem first List.mem_cons_self
    obtain ⟨secondMem, secondShows⟩ := mem second (List.mem_cons_of_mem _ List.mem_cons_self)
    refine ⟨first, firstMem, second, secondMem, fun same => ?_, firstShows, secondShows⟩
    rw [List.map_cons, List.map_cons, List.nodup_cons] at apart
    exact apart.1 (same ▸ List.mem_cons_self)

/-- What a verdict that the chain changed says of a suspicion. -/
theorem settledVerdict_changed {patience : Patience} {agree : ℕ} {hash : String} {odd : List ℕ}
    (changed : settledVerdict patience held views later = .changed hash agree odd) :
    Replaces held.found.expected views hash ∧ (hash = absent.text →
      (∀ view ∈ views, view.hash = absent) ∧ absentChecks ≤ held.checks + 1 ∧
        patience.absentWindow ≤ later - held.seen) := by
  unfold settledVerdict at changed
  split at changed
  case h_1 other count rest isChanged =>
    split at changed
    case isTrue => exact nomatch changed
    case isFalse confirmed =>
      cases changed
      refine ⟨verdict_changed_iff.mp ⟨_, _, isChanged⟩, fun shorter => ?_⟩
      rw [not_and, not_or, not_or, Nat.not_lt, Nat.not_lt] at confirmed
      obtain ⟨none, checks, window⟩ := confirmed shorter
      refine ⟨fun view member => BlockHash.ext ?_, checks, window⟩
      by_contra shows
      exact none (List.any_eq_true.mpr ⟨view, member, bne_iff_ne.mpr shows⟩)
  case h_2 other notChanged =>
    exact absurd changed (notChanged hash agree odd)

/-- The endpoints put a mismatch on record: two of them at least agree on another hash, and more
than show any other. -/
structure ByEndpoints (patience : Patience) (watch : Watch) (held : Suspicion) (answers : Answers)
    (later : ℕ) (recorded : Mismatch) : Prop where
  isHeld : watch.held = some held
  record : recorded = { held.found with actual := recorded.actual }
  replaces : Replaces held.found.expected (countedViews held.found answers) recorded.actual
  endpoints : ∃ first ∈ answers.views, ∃ second ∈ answers.views,
    first.endpoint ≠ second.endpoint ∧ first.hash.text = recorded.actual ∧
      second.hash.text = recorded.actual
  shorter : recorded.actual = absent.text →
    (∀ view ∈ countedViews held.found answers, view.hash = absent) ∧
      absentChecks ≤ held.checks + 1 ∧ patience.absentWindow ≤ later - held.seen

theorem settleHeld_mismatch {patience : Patience} {ident : Mismatch → String} {endpoints : ℕ}
    (clear : watch.mismatch = none)
    (records : (settleHeld patience ident watch held views endpoints now later).mismatch =
      some recorded) :
    ∃ hash agree odd, settledVerdict patience held views later = .changed hash agree odd ∧
      recorded = { held.found with actual := hash } := by
  unfold settleHeld at records
  cases found : settledVerdict patience held views later with
  | changed hash agree odd =>
    rw [found] at records
    unfold confirmFinalityMismatch at records
    dsimp only at records
    rw [clear] at records
    cases records
    exact ⟨hash, agree, odd, rfl, rfl⟩
  | unchanged | unresolved =>
    rw [found] at records
    dsimp only at records
    rw [clear] at records
    exact nomatch records

theorem mem_answers {found : Mismatch} {view : BlockView}
    (member : view ∈ countedViews found answers) : view ∈ answers.views := by
  unfold countedViews at member
  split at member
  · exact member
  · exact (List.mem_filter.mp member).1

/-- An ask puts a mismatch on record only as the endpoints' word. -/
theorem settleSuspicion_records {patience : Patience} {ident : Mismatch → String} {endpoints : ℕ}
    (clear : watch.mismatch = none)
    (records : (settleSuspicion patience ident watch answers endpoints now later).mismatch =
      some recorded) : ∃ held, ByEndpoints patience watch held answers later recorded := by
  unfold settleSuspicion at records
  cases isHeld : watch.held with
  | none =>
    rw [isHeld] at records
    exact nomatch clear.symm.trans records
  | some held =>
    rw [isHeld] at records
    dsimp only at records
    have unrecorded : ¬watch.mismatch.isSome = true := by
      rw [clear]
      exact Bool.false_ne_true
    rw [if_neg unrecorded] at records
    split at records
    case isTrue => exact nomatch clear.symm.trans records
    case isFalse =>
      obtain ⟨hash, agree, odd, changed, rfl⟩ := settleHeld_mismatch clear records
      obtain ⟨replaces, shorter⟩ := settledVerdict_changed changed
      obtain ⟨first, firstMem, second, secondMem, apart⟩ :=
        two_endpoints (countedViews_distinct held.found answers) replaces.two
      exact ⟨held, isHeld, rfl, replaces,
        ⟨first, mem_answers firstMem, second, mem_answers secondMem, apart⟩, shorter⟩

theorem ByEndpoints.suspected_shorter {patience : Patience}
    (word : ByEndpoints patience watch held answers later recorded)
    (shorter : recorded.actual = absent.text) : held.found.actual = absent.text := by
  have positive : 0 < shown (countedViews held.found answers) recorded.actual :=
    Nat.lt_of_lt_of_le Nat.two_pos word.replaces.two
  unfold shown at positive
  obtain ⟨view, member, shows⟩ := List.countP_pos_iff.mp positive
  have isAbsent : view.hash = absent := BlockHash.ext ((beq_iff_eq.mp shows).trans shorter)
  by_contra longer
  unfold countedViews at member
  rw [if_neg longer] at member
  exact bne_iff_ne.mp (List.mem_filter.mp member).2 isAbsent

theorem acknowledgeFinality_records {ident : Mismatch → String} {after : Watch} {id : String}
    {ack : Acknowledgement} (clear : watch.mismatch = none)
    (acknowledges : acknowledgeFinality ident watch id now = .ok (ack, after))
    (records : after.mismatch = some recorded) :
    ∃ suspected, watch.note = some suspected ∧ recorded = suspected.mismatch ∧
      ident suspected.mismatch = normalizedId id := by
  unfold acknowledgeFinality at acknowledges
  dsimp only at acknowledges
  rw [clear] at acknowledges
  dsimp only at acknowledges
  split at acknowledges
  case h_1 => exact nomatch acknowledges
  case h_2 suspected noted =>
    obtain ⟨_, named, acknowledges⟩ := bind_eq_ok.mp acknowledges
    rw [ensure_eq_ok] at named
    cases acknowledges
    cases records
    exact ⟨suspected, noted, rfl, named⟩

theorem suspect_mismatch (watch : Watch) (found : Mismatch)
    (now wallTime : ℕ) : (suspect ident watch found now wallTime).mismatch = watch.mismatch := by
  unfold suspect
  split
  · rfl
  · split
    · rfl
    · dsimp only
      split
      · rfl
      · split <;> rfl

end D20.Finality

namespace D20

open Finality Journal

/-- A keeper beside the views of every ask about the suspicion it holds. -/
structure WatchRun where
  watch : Watch
  asks : List (List BlockView)

namespace WatchRun

variable (patience : Patience) (ident : Mismatch → String)

/-- The views of an ask that did not settle the suspicion. -/
def asked (watch : Watch) : Finality.Event → List (List BlockView)
  | .settle answers _ now _ =>
    match watch.held with
    | some held =>
      if watch.mismatch.isSome ∨ now < held.next then [] else [countedViews held.found answers]
    | none => []
  | _ => []

/-- One event. The asks are those about the suspicion that is held. -/
def after (run : WatchRun) (event : Finality.Event) : WatchRun where
  watch := event.apply patience ident run.watch
  asks := if (event.apply patience ident run.watch).held.isSome then
    run.asks ++ asked run.watch event else []

/-- The events of a run. -/
def run (start : WatchRun) (events : List Finality.Event) : WatchRun :=
  events.foldl (after patience ident) start

/-- A keeper that holds no suspicion. -/
def start (watch : Watch) : WatchRun := ⟨{ watch with held := none }, []⟩

theorem run_concat (start : WatchRun) (events : List Finality.Event) (event : Finality.Event) :
    run patience ident start (events ++ [event]) =
      (run patience ident start events).after patience ident event := by
  unfold run
  rw [List.foldl_append]
  rfl

/-! ### The asks about a suspicion -/

/-- The count of a suspicion is the number of asks about it. -/
structure Counted (run : WatchRun) : Prop where
  held : ∀ held, run.watch.held = some held → held.checks = run.asks.length
  idle : run.watch.held = none → run.asks = []

variable {patience ident}

variable {watch : Watch} {now endpoints later : ℕ} {held : Suspicion}

theorem suspect_held {found : Mismatch} {wallTime : ℕ}
    (holds : (suspect ident watch found now wallTime).held = some held) :
    watch.held = some held ∨ (watch.held = none ∧ held.checks = 0) := by
  unfold suspect at holds
  split at holds
  · exact .inl holds
  · split at holds
    · exact .inl holds
    · rename_i idle
      have none : watch.held = none := Option.not_isSome_iff_eq_none.mp idle
      dsimp only at holds
      split at holds
      · cases holds
        exact .inr ⟨none, rfl⟩
      · split at holds <;> cases holds <;> exact .inr ⟨none, rfl⟩

theorem settleHeld_held {waiting : Suspicion} {views : List BlockView}
    (holds : (settleHeld patience ident watch held views endpoints now later).held =
      some waiting) : waiting.checks = held.checks + 1 := by
  unfold settleHeld at holds
  split at holds
  · exact nomatch holds
  · exact nomatch holds
  · cases holds
    rfl

theorem acknowledge_held {watch : Watch} {id : String} {now : ℕ} {held : Suspicion}
    (holds : ((Finality.Event.acknowledge id now).apply patience ident watch).held = some held) :
    watch.held = some held := by
  unfold Finality.Event.apply at holds
  dsimp only at holds
  cases acknowledges : acknowledgeFinality ident watch id now with
  | error =>
    rw [acknowledges] at holds
    exact holds
  | ok =>
    rw [acknowledges] at holds
    unfold acknowledgeFinality at acknowledges
    dsimp only at acknowledges
    split at acknowledges
    · obtain ⟨_, _, acknowledges⟩ := bind_eq_ok.mp acknowledges
      cases acknowledges
      exact holds
    · split at acknowledges
      · exact nomatch acknowledges
      · obtain ⟨_, _, acknowledges⟩ := bind_eq_ok.mp acknowledges
        cases acknowledges
        exact holds

/-- After an ask, the suspicion that is held is the one of before, with the ask counted if it was
made. -/
theorem settle_held {answers : Answers} {waiting : Suspicion}
    (holds : (settleSuspicion patience ident watch answers endpoints now later).held =
      some waiting) :
    ∃ held, watch.held = some held ∧ waiting.checks =
      held.checks + (asked watch (.settle answers endpoints now later)).length := by
  unfold settleSuspicion at holds
  unfold asked
  cases isHeld : watch.held with
  | none =>
    rw [isHeld] at holds
    exact nomatch isHeld.symm.trans holds
  | some held =>
    rw [isHeld] at holds
    refine ⟨held, rfl, ?_⟩
    dsimp only at holds ⊢
    split at holds
    case isTrue => exact nomatch holds
    case isFalse unrecorded =>
      split at holds
      case isTrue early =>
        rw [if_pos (.inr early)]
        rw [isHeld] at holds
        cases holds
        rfl
      case isFalse due =>
        rw [if_neg (not_or.mpr ⟨unrecorded, due⟩)]
        exact settleHeld_held holds

/-- An event keeps the count. -/
theorem Counted.step {run : WatchRun} (counted : run.Counted) (event : Finality.Event) :
    (run.after patience ident event).Counted := by
  refine ⟨fun held holds => ?_, fun idle => ?_⟩
  · have asks : (run.after patience ident event).asks = run.asks ++ asked run.watch event := by
      refine if_pos ?_
      have some : (event.apply patience ident run.watch).held = some held := holds
      rw [some]
      rfl
    rw [asks, List.length_append]
    cases event with
    | suspect =>
      rcases suspect_held holds with before | ⟨idle, fresh⟩
      · exact counted.held held before
      · rw [fresh, counted.idle idle]
        rfl
    | settle =>
      obtain ⟨before, isHeld, checks⟩ := settle_held holds
      rw [checks, counted.held before isHeld]
    | acknowledge id now =>
      exact counted.held held (@acknowledge_held patience ident run.watch id now held holds)
    | clear => exact counted.held held holds
    | restart => exact nomatch holds
  · refine if_neg ?_
    have none : (event.apply patience ident run.watch).held = none := idle
    rw [none]
    exact Bool.false_ne_true

/-- A run keeps the count. -/
theorem counted_run (watch : Watch) (events : List Finality.Event) :
    (run patience ident (start watch) events).Counted := by
  have first : (start watch).Counted := ⟨nofun, fun _ => rfl⟩
  unfold run
  generalize start watch = begun at first
  induction events generalizing begun with
  | nil => exact first
  | cons event rest inductionHypothesis => exact inductionHypothesis _ (first.step event)

/-! ### A mismatch on record -/

/-- Who put a mismatch on record: the endpoints, or an operator who named the suspected one. -/
inductive RecordedBy (patience : Patience) (ident : Mismatch → String) (watch : Watch)
    (recorded : Mismatch) : Finality.Event → Prop
  | endpoints {answers : Answers} {endpoints now later : ℕ} (held : Suspicion)
      (word : ByEndpoints patience watch held answers later recorded) :
      RecordedBy patience ident watch recorded (.settle answers endpoints now later)
  | operator {id : String} {now : ℕ} (suspected : Suspected)
      (noted : watch.note = some suspected) (record : recorded = suspected.mismatch)
      (named : ident suspected.mismatch = normalizedId id) :
      RecordedBy patience ident watch recorded (.acknowledge id now)

/-- The block is nowhere to be seen: with this ask, enough asks over long enough were made about the
suspicion, and no view of any of them shows a block. -/
structure Unseen (patience : Patience) (run : WatchRun) (held : Suspicion) (answers : Answers)
    (later : ℕ) : Prop where
  nowhere : ∀ ask ∈ run.asks ++ [countedViews held.found answers], ∀ view ∈ ask, view.hash = absent
  enough : absentChecks ≤ (run.asks ++ [countedViews held.found answers]).length
  window : patience.absentWindow ≤ later - held.seen

/-- No earlier ask about a block that the chain may have lost had a view that shows a block. -/
def Quiet (run : WatchRun) : Finality.Event → Prop
  | .settle _ _ _ _ => ∀ held, run.watch.held = some held → held.found.actual = absent.text →
      ∀ ask ∈ run.asks, ∀ view ∈ ask, view.hash = absent
  | _ => True

/-- A mismatch goes on record only as the endpoints' word or as an operator's. -/
theorem recordedBy_of_records {event : Finality.Event} (clear : watch.mismatch = none)
    {recorded : Mismatch} (records : (event.apply patience ident watch).mismatch = some recorded) :
    RecordedBy patience ident watch recorded event := by
  cases event with
  | suspect found now wallTime =>
    have same := suspect_mismatch ident watch found now wallTime
    exact nomatch (clear.symm.trans same.symm).trans records
  | settle =>
    obtain ⟨held, word⟩ := settleSuspicion_records clear records
    exact .endpoints held word
  | acknowledge id now =>
    have result : (((acknowledgeFinality ident watch id now).toOption.map Prod.snd).getD
      watch).mismatch = some recorded := records
    cases acknowledges : acknowledgeFinality ident watch id now with
    | error =>
      rw [acknowledges] at result
      exact nomatch clear.symm.trans result
    | ok pair =>
      obtain ⟨ack, acked⟩ := pair
      rw [acknowledges] at result
      obtain ⟨suspected, noted, record, named⟩ :=
        acknowledgeFinality_records clear acknowledges result
      exact .operator suspected noted record named
  | clear => exact nomatch records
  | restart => exact nomatch clear.symm.trans records

/-- The endpoints' word that the chain is shorter, if no earlier ask showed a block, is that the
block is nowhere to be seen. -/
theorem Counted.unseen {run : WatchRun} (counted : run.Counted) {answers : Answers}
    {recorded : Mismatch} (quiet : run.Quiet (.settle answers endpoints now later))
    (word : ByEndpoints patience run.watch held answers later recorded)
    (shorter : recorded.actual = absent.text) : run.Unseen patience held answers later := by
  obtain ⟨none, checks, window⟩ := word.shorter shorter
  refine ⟨fun ask member => ?_, ?_, window⟩
  · rcases List.mem_append.mp member with earlier | last
    · exact quiet held word.isHeld (word.suspected_shorter shorter) ask earlier
    · rw [List.mem_singleton.mp last]
      exact none
  · rw [List.length_append, ← counted.held held word.isHeld]
    exact checks

/-- A block hash that the journal holds. -/
def sampleHash : BlockHash where
  text := "0x1111111111111111111111111111111111111111111111111111111111111111"
  lower := by decide +kernel

/-- A soft checkpoint that one endpoint does not have. -/
def sampleLoss : Mismatch where
  kind := .softCheckpoint
  number := 7
  reference := ""
  expected := sampleHash.text
  actual := absent.text
  detectedAt := 0

/-- Two endpoints, of which the first shows a hash and the second does not have the block. -/
def sampleAnswers (first : BlockHash) : Answers where
  views := [⟨0, first, none⟩, ⟨1, absent, none⟩]
  distinct := (by decide : [0, 1].Nodup)

/-- Nothing is on record or suspected. -/
def calm : Watch := ⟨none, none, none, none, none, none⟩

/-- The waits of a keeper. -/
def samplePatience : Patience := ⟨10000, 2000, 600000⟩

/-- The block is suspected to be lost, and two asks show it at one endpoint. -/
def seenTwice : List Finality.Event :=
  [.suspect sampleLoss 0 0, .settle (sampleAnswers sampleHash) 2 0 0,
    .settle (sampleAnswers sampleHash) 2 2000 2000]

/-- The run in which the block was seen twice. -/
def sampleRun (more : List Finality.Event) : WatchRun :=
  run samplePatience Mismatch.expected (start calm) (seenTwice ++ more)

/-- A loss that no ask contradicted. -/
def lostThrice : List Finality.Event :=
  [.suspect sampleLoss 0 0, .settle (sampleAnswers absent) 2 0 0,
    .settle (sampleAnswers absent) 2 2000 2000]

end WatchRun

end D20
