/-
This file compares the gas limits a keeper sends with what the coordinators ask to be left before
they serve anything. The budget the keeper computes for its members is the one a coordinator counts,
and a limit made from it still leaves that budget after the chain's charge for the payload and the
work before the guard, wherever the proxy's call divides that work. The last part is about the
number of members a cap allows: the scan from the front stops at the first count that does not fit,
and no greater count fits.
-/

import D20Keeper.Deployment
import D20Keeper.RoundGas

namespace D20

open Evm Journal

/-! ### Gas behind a proxy -/

/-- What a call forwards of the gas left: all but a 64th. -/
def forwarded (gas : ℕ) : ℕ := gas - gas / 64

/-- The gas an implementation has at its guard: the chain takes `charge` before the transaction
runs, `before` is used before the proxy calls the implementation, and `inside` after. -/
def gasAtGuard (limit charge before inside : ℕ) : ℕ :=
  forwarded (limit - charge - before) - inside

/-- A limit that holds the budget and the work around it, 64/63 times, leaves the budget. -/
theorem le_gasAtGuard {limit charge before inside budget : ℕ}
    (enough : 64 * (budget + (before + inside)) + 63 * charge ≤ 63 * limit) :
    budget ≤ gasAtGuard limit charge before inside := by
  unfold gasAtGuard forwarded
  omega

theorem le_divCeil_mul {value divisor : ℕ} (positive : 0 < divisor) :
    value ≤ divisor * divCeil value divisor := by
  unfold divCeil
  have whole := Nat.div_add_mod (value + divisor - 1) divisor
  have small := Nat.mod_lt (value + divisor - 1) positive
  omega

theorem divCeil_le_divCeil {first second : ℕ} (divisor : ℕ) (below : first ≤ second) :
    divCeil first divisor ≤ divCeil second divisor :=
  Nat.div_le_div_right (Nat.sub_le_sub_right (Nat.add_le_add_right below divisor) 1)

theorem saturating_mono {bits first second : ℕ} (below : first ≤ second) :
    saturating bits first ≤ saturating bits second :=
  min_le_min_right _ below

/-! ### The members that are served -/

theorem skipReason_eq_zero_iff {β : Type} {block : Block} {r : StoredRequest β} :
    skipReason block r = 0 ↔
      ¬ (r.fulfilled = true ∨ r.refunded = true ∨ r.deadline < block.timestamp) := by
  unfold skipReason
  by_cases fulfilled : r.fulfilled = true
  · simp [fulfilled]
  · by_cases refunded : r.refunded = true
    · simp [fulfilled, refunded]
    · by_cases late : r.deadline < block.timestamp
      · simp [fulfilled, refunded, late]
      · simp [fulfilled, refunded, late]

section

variable {terms : Terms} {β χ : Type} {block : Block} {store : Coordinator terms β χ}

/-- A request that a batch serves, in the block. -/
def serves (block : Block) (store : Coordinator terms β χ) (requestId : ℕ) : Bool :=
  skipReason block (store.requests requestId) == 0

/-- The gas of the members that are served. -/
def servedGas (block : Block) (store : Coordinator terms β χ) (ids : List ℕ) : ℕ :=
  ((ids.filter (serves block store)).map fun requestId =>
    RoundCoordinator.memberGas (store.requests requestId).callbackGasLimit).sum

theorem servedGas_cons (requestId : ℕ) (rest : List ℕ) :
    servedGas block store (requestId :: rest) =
      (if serves block store requestId then
        RoundCoordinator.memberGas (store.requests requestId).callbackGasLimit else 0) +
        servedGas block store rest := by
  unfold servedGas
  cases served : serves block store requestId with
  | true =>
    rw [List.filter_cons_of_pos served, List.map_cons, List.sum_cons]
    rfl
  | false =>
    rw [List.filter_cons_of_neg (by rw [served]; exact Bool.false_ne_true)]
    exact (Nat.zero_add _).symm

theorem memberGas_eq (limit : ℕ) : RoundCoordinator.memberGas limit = RoundGas.memberGas limit := by
  unfold RoundCoordinator.memberGas RoundGas.memberGas
  rfl

variable {ids limits : List ℕ}
  (shown : ids.map (fun requestId => (store.requests requestId).callbackGasLimit) = limits)

include shown

theorem map_memberGas :
    ids.map (fun requestId =>
        RoundCoordinator.memberGas (store.requests requestId).callbackGasLimit) =
      limits.map RoundGas.memberGas := by
  rw [← shown, List.map_map]
  refine List.map_congr_left fun requestId _ => ?_
  rw [memberGas_eq, Function.comp_apply]

theorem servedGas_le : servedGas block store ids ≤ (limits.map RoundGas.memberGas).sum := by
  rw [← map_memberGas shown]
  exact (List.filter_sublist.map _).sum_le_sum fun _ _ => Nat.zero_le _

theorem servedGas_eq (all : ∀ requestId ∈ ids, serves block store requestId = true) :
    servedGas block store ids = (limits.map RoundGas.memberGas).sum := by
  rw [← map_memberGas shown]
  unfold servedGas
  rw [List.filter_eq_self.mpr all]

end

/-! ### The budget of a round coordinator -/

namespace RoundCoordinator

variable {block : Block} {store : RoundStore} {rounds : List RoundSignature}

/-- Whether an entry of a batch's list names a round. -/
def names (beaconId round : Nat) (entry : RoundSignature) : Bool :=
  entry.beaconId = beaconId ∧ entry.round = round

/-- A member to serve whose round is neither cached nor listed. -/
structure Unprovided (block : Block) (rounds : List RoundSignature) (store : RoundStore)
    (requestId : Nat) : Prop where
  live : skipReason block (store.requests requestId) = 0
  uncached : store.ext.book.roundRandomness (store.requests requestId).binding.beaconId
    (store.requests requestId).binding.round = 0
  unlisted : rounds.find? (names (store.requests requestId).binding.beaconId
    (store.requests requestId).binding.round) = none

theorem listed_eq_none_iff {beaconId round : Nat} :
    listed rounds beaconId round = none ↔ rounds.find? (names beaconId round) = none := by
  unfold listed names
  rw [List.findIdx?_eq_none_iff, List.find?_eq_none]
  exact forall₂_congr fun _ _ => Bool.eq_false_iff

/-- The entry scan of a batch fails exactly when some member's round is missing. -/
theorem batchGasLoop_error_iff {block : Block} {store : RoundStore} {ids : List Nat}
    (need : Nat) (budgeted : List Nat)
    (known : ∀ requestId ∈ ids, (store.requests requestId).consumer ≠ 0) :
    (∃ fault, batchGasLoop block store rounds ids need budgeted = .error fault) ↔
      ∃ requestId ∈ ids, Unprovided block rounds store requestId := by
  induction ids generalizing need budgeted with
  | nil => simp [batchGasLoop]
  | cons requestId rest inductionHypothesis =>
    obtain ⟨first, later⟩ := List.forall_mem_cons.mp known
    unfold batchGasLoop
    dsimp only
    rw [if_neg first, List.exists_mem_cons_iff]
    have passes : ∀ need budgeted, ¬ Unprovided block rounds store requestId →
        ((∃ fault, batchGasLoop block store rounds rest need budgeted = .error fault) ↔
          Unprovided block rounds store requestId ∨
            ∃ requestId ∈ rest, Unprovided block rounds store requestId) :=
      fun need budgeted provided => by
        rw [inductionHypothesis need budgeted later, or_iff_right provided]
    split
    · rename_i skipped
      exact passes _ _ fun missing => skipReason_eq_zero_iff.mp missing.live skipped
    · rename_i live
      split
      · rename_i uncached
        split
        · rename_i unlisted
          refine iff_of_true ⟨_, rfl⟩ (.inl ⟨skipReason_eq_zero_iff.mpr live, uncached, ?_⟩)
          exact listed_eq_none_iff.mp unlisted
        · rename_i index found
          have provided : ¬ Unprovided block rounds store requestId := fun missing => by
            rw [listed_eq_none_iff.mpr missing.unlisted] at found
            cases found
          split
          · exact passes _ _ provided
          · exact passes _ _ provided
      · rename_i cached
        exact passes _ _ fun missing => cached missing.uncached

/-- What the scan of a batch counted: the gas of the members it serves, and one verification for
each listed round that one of them needs. -/
structure Counted (block : Block) (store : RoundStore) (rounds : List RoundSignature)
    (ids : List ℕ) (need : ℕ) (budgeted : List ℕ) (total : ℕ) (final : List ℕ) : Prop where
  nodup : final.Nodup
  bounded : ∀ index ∈ final, index < rounds.length
  kept : ∀ index ∈ budgeted, index ∈ final
  complete : ∀ requestId ∈ ids, serves block store requestId = true →
    store.ext.book.cachedRound (store.requests requestId).binding.beaconId
      (store.requests requestId).binding.round = 0 →
    ∃ index ∈ final, listed rounds (store.requests requestId).binding.beaconId
      (store.requests requestId).binding.round = some index
  gas : total + budgeted.length * BeaconBook.roundVerifyGasNeeded =
    need + servedGas block store ids + final.length * BeaconBook.roundVerifyGasNeeded

theorem listed_lt {beaconId round index : ℕ} (found : listed rounds beaconId round = some index) :
    index < rounds.length := by
  unfold listed at found
  exact (List.findIdx?_eq_some_iff_getElem.mp found).1

/-- The scan of a batch counts as `Counted` says. -/
theorem counted_of_batchGasLoop {ids : List ℕ} {need total : ℕ} {budgeted : List ℕ}
    (distinct : budgeted.Nodup) (bounded : ∀ index ∈ budgeted, index < rounds.length)
    (counted : batchGasLoop block store rounds ids need budgeted = .ok total) :
    ∃ final, Counted block store rounds ids need budgeted total final := by
  induction ids generalizing need budgeted with
  | nil =>
    obtain rfl := Except.ok.inj counted
    exact ⟨budgeted, distinct, bounded, fun _ member => member,
      (fun _ member => absurd member List.not_mem_nil), rfl⟩
  | cons requestId rest inductionHypothesis =>
    unfold batchGasLoop at counted
    dsimp only at counted
    split at counted
    · cases counted
    · split at counted
      case isTrue skipped =>
        have left : serves block store requestId = false :=
          beq_eq_false_iff_ne.mpr fun served => skipReason_eq_zero_iff.mp served skipped
        obtain ⟨final, holds⟩ := inductionHypothesis distinct bounded counted
        refine ⟨final, holds.nodup, holds.bounded, holds.kept, ?_, ?_⟩
        · refine List.forall_mem_cons.mpr ⟨fun served => ?_, holds.complete⟩
          rw [left] at served
          cases served
        · rw [servedGas_cons, left, if_neg Bool.false_ne_true, Nat.zero_add]
          exact holds.gas
      case isFalse live =>
        have served : serves block store requestId = true :=
          beq_iff_eq.mpr (skipReason_eq_zero_iff.mpr live)
        split at counted
        case isTrue uncached =>
          split at counted
          · cases counted
          · rename_i index found
            split at counted
            case isTrue already =>
              obtain ⟨final, holds⟩ := inductionHypothesis distinct bounded counted
              refine ⟨final, holds.nodup, holds.bounded, holds.kept, ?_, ?_⟩
              · exact List.forall_mem_cons.mpr
                  ⟨fun _ _ => ⟨index, holds.kept index already, found⟩, holds.complete⟩
              · have gas := holds.gas
                rw [servedGas_cons, if_pos served]
                omega
            case isFalse fresh =>
              obtain ⟨final, holds⟩ := inductionHypothesis (List.nodup_cons.mpr ⟨fresh, distinct⟩)
                (List.forall_mem_cons.mpr ⟨listed_lt found, bounded⟩) counted
              obtain ⟨present, kept⟩ := List.forall_mem_cons.mp holds.kept
              refine ⟨final, holds.nodup, holds.bounded, kept, ?_, ?_⟩
              · exact List.forall_mem_cons.mpr
                  ⟨fun _ _ => ⟨index, present, found⟩, holds.complete⟩
              · have gas := holds.gas
                rw [List.length_cons, Nat.add_mul] at gas
                rw [servedGas_cons, if_pos served]
                omega
        case isFalse known =>
          obtain ⟨final, holds⟩ := inductionHypothesis distinct bounded counted
          refine ⟨final, holds.nodup, holds.bounded, holds.kept, ?_, ?_⟩
          · exact List.forall_mem_cons.mpr
              ⟨fun _ uncached => absurd uncached known, holds.complete⟩
          · have gas := holds.gas
            rw [servedGas_cons, if_pos served]
            omega

/-- A batch needs the reserve, the gas of the members it serves and one verification for each listed
round that one of them needs. -/
theorem counted_of_batchGas {ids : List ℕ} {total : ℕ}
    (counted : batchGas block store rounds ids = .ok total) :
    ∃ final, Counted block store rounds ids callbackReserve [] total final :=
  counted_of_batchGasLoop List.nodup_nil (fun _ member => nomatch member) counted

end RoundCoordinator

namespace RoundGas

/-! ### Shapes that are priced -/

/-- A shape that is accepted. -/
structure Shape.Valid (shape : Shape) : Prop where
  nonempty : 1 ≤ shape.callbackGasLimits.length
  fits : shape.callbackGasLimits.length ≤ maxFulfillBatch
  rounds : shape.rounds ≤ shape.callbackGasLimits.length
  kind : shape.batch = true ∨ (shape.callbackGasLimits.length = 1 ∧ shape.rounds ≤ 1)
  candidates : (shape.vrfCandidates.all fun counts =>
    counts.length == shape.callbackGasLimits.length &&
      counts.all fun count => decide (1 ≤ count)) = true

/-- What the guard asks of a shape, as a number. -/
def Shape.budget (shape : Shape) : ℕ :=
  callbackReserve + (shape.callbackGasLimits.map memberGas).sum + shape.rounds * roundVerification

/-- The work of a fulfillment before the guard, as a number: intrinsic gas, calldata and reads. -/
def Shape.work (shape : Shape) : ℕ :=
  if shape.batch then 37500 + 6800 * shape.callbackGasLimits.length + 1800 * shape.rounds
  else 48000

variable {shape : Shape}

theorem parts_eq_ok {parts : Parts} (found : shape.parts = .ok parts) :
    shape.Valid ∧ parts.members = shape.callbackGasLimits.length ∧ parts.rounds = shape.rounds := by
  unfold Shape.parts at found
  obtain ⟨_, valid, same⟩ := bind_eq_ok.mp found
  obtain ⟨nonempty, fits, rounds, kind, candidates⟩ := ensure_eq_ok.mp valid
  obtain rfl := Except.ok.inj same
  exact ⟨⟨nonempty, fits, rounds, kind, candidates⟩, rfl, rfl⟩

theorem exists_parts (valid : shape.Valid) : ∃ parts, shape.parts = .ok parts :=
  ⟨_, bind_eq_ok.mpr ⟨(), ensure_eq_ok.mpr
    ⟨valid.nonempty, valid.fits, valid.rounds, valid.kind, valid.candidates⟩, rfl⟩⟩

theorem guardBudget_eq_ok {budget : ℕ} :
    guardBudget shape = .ok budget ↔ shape.Valid ∧ budget = shape.budget := by
  unfold guardBudget
  rw [bind_eq_ok]
  constructor
  · rintro ⟨parts, found, same⟩
    obtain ⟨valid, -, rounds⟩ := parts_eq_ok found
    rw [rounds] at same
    exact ⟨valid, (Except.ok.inj same).symm⟩
  · rintro ⟨valid, rfl⟩
    obtain ⟨parts, found⟩ := exists_parts valid
    refine ⟨parts, found, ?_⟩
    rw [(parts_eq_ok found).2.2]
    rfl

/-- The gas limit of a shape that verifies a round in every fulfillment: the budget behind the proxy
and the work before the guard. -/
theorem gasLimit_eq_ok (verifies : shape.batch = true ∨ shape.rounds = 1) {limit : ℕ} :
    gasLimit shape = .ok limit ↔ shape.Valid ∧ limit = viaProxy shape.budget + shape.work := by
  have value {parts : Parts} (found : shape.parts = .ok parts) :
      gasLimit shape = .ok (viaProxy shape.budget + shape.work) := by
    obtain ⟨valid, members, rounds⟩ := parts_eq_ok found
    have budget := guardBudget_eq_ok.mpr ⟨valid, rfl⟩
    unfold gasLimit Shape.work
    rw [bind_eq_ok]
    refine ⟨parts, found, ?_⟩
    split
    · rw [bind_eq_ok]
      refine ⟨_, budget, congrArg Except.ok ?_⟩
      rw [members, rounds]
      omega
    · rename_i single
      rw [if_pos (rounds.trans (verifies.resolve_left single)), bind_eq_ok]
      exact ⟨_, budget, rfl⟩
  constructor
  · intro priced
    obtain ⟨parts, found, -⟩ := bind_eq_ok.mp priced
    rw [value found] at priced
    exact ⟨(parts_eq_ok found).1, (Except.ok.inj priced).symm⟩
  · rintro ⟨valid, rfl⟩
    exact value (exists_parts valid).choose_spec

theorem work_le (valid : shape.Valid) : shape.work ≤ 175100 := by
  have fits := valid.fits
  have rounds := valid.rounds
  unfold maxFulfillBatch at fits
  unfold Shape.work
  split <;> omega

theorem batchShape_valid {members : List Sized} (nonempty : 1 ≤ members.length)
    (fits : members.length ≤ maxFulfillBatch) : (batchShape members).Valid := by
  have length : (batchShape members).callbackGasLimits.length = members.length := List.length_map _
  refine ⟨length ▸ nonempty, length ▸ fits, ?_, .inl rfl, rfl⟩
  have distinct := (List.dedup_sublist (members.map Sized.round)).length_le
  rw [List.length_map] at distinct
  exact length ▸ distinct

/-- The margin on a least limit is added in full: the sum fits 64 bits. -/
def MarginFits (least : ℕ) : Prop :=
  least + max (divCeil least (100 / limitMarginPercent)) limitMarginMin ≤ largest 64

theorem le_estimateCover {least : ℕ} (margin : MarginFits least) :
    least + limitMarginMin ≤ estimateCover least := by
  unfold estimateCover saturating
  rw [Nat.min_eq_left margin]
  exact Nat.add_le_add_left (Nat.le_max_right _ _) _

/-- The gas limit of a fulfillment leaves its implementation the guard's budget, however the work
before the guard is divided by the proxy's call. -/
theorem budget_le_gasAtGuard (verifies : shape.batch = true ∨ shape.rounds = 1)
    {estimate l1 gas charge before inside : ℕ}
    (margin : MarginFits (viaProxy shape.budget + shape.work + l1))
    (sent : fulfillmentGas estimate shape l1 = .ok gas) (charged : charge ≤ l1)
    (worked : before + inside ≤ shape.work) :
    shape.budget ≤ gasAtGuard gas charge before inside := by
  unfold fulfillmentGas at sent
  obtain ⟨floor, floored, sent⟩ := bind_eq_ok.mp sent
  obtain ⟨budget, _, sent⟩ := bind_eq_ok.mp sent
  obtain ⟨padded, _, sent⟩ := bind_eq_ok.mp sent
  obtain rfl := Except.ok.inj sent
  unfold chainLimit leastLimit at floored
  obtain ⟨least, found, floored⟩ := bind_eq_ok.mp floored
  obtain ⟨limit, priced, found⟩ := bind_eq_ok.mp found
  obtain ⟨valid, rfl⟩ := (gasLimit_eq_ok verifies).mp priced
  obtain ⟨-, rfl⟩ := checked_eq_ok.mp found
  obtain rfl := Except.ok.inj floored
  have cover := le_estimateCover margin
  have proxy : shape.budget * 64 ≤ 63 * viaProxy shape.budget := le_divCeil_mul (by decide)
  have little := work_le valid
  have most := Nat.le_max_right padded (estimateCover (viaProxy shape.budget + shape.work + l1))
  unfold limitMarginMin at cover
  apply le_gasAtGuard
  omega

end RoundGas

namespace Worker

open RoundGas (batchShape fulfillmentGas Shape leastLimit guardBudget MarginFits guardBudget_eq_ok)

/-! ### The batches of a worker -/

/-- A prepared request selected for one round batch. -/
structure RoundMember where
  id : String
  requestId : ℕ
  proof : Proof
  beacon : ℕ
  round : ℕ
  signature : Bytes
  deadline : ℕ
  callbackGas : ℕ
  feePaid : ℕ
  candidates : ℕ

variable (members : List RoundMember)

/-- The distinct rounds of the members with their signatures, in the order the members name them. -/
def listRounds : List RoundSignature :=
  members.foldl (fun rounds member =>
    if rounds.any fun listed => listed.beaconId == member.beacon && listed.round == member.round then
      rounds
    else rounds ++ [⟨member.beacon, member.round, member.signature⟩]) []

/-- The members as batch sizing reads them. -/
def sized : List RoundGas.Sized :=
  members.map fun member => ⟨member.callbackGas, (member.beacon, member.round)⟩

/-- The shape of a batch with the candidates of its proofs. -/
def roundShape : Shape :=
  { batchShape (sized members) with
    vrfCandidates := some (members.map RoundMember.candidates) }

/-- The shape of one fulfillment, with the candidates of its proof. -/
def singleShape (callbackGasLimit candidates : ℕ) : Shape :=
  { batch := false, callbackGasLimits := [callbackGasLimit], rounds := 1
    vrfCandidates := some [candidates] }

/-- The rounds that are listed are distinct, and are those of the members. -/
theorem listRounds_spec :
    ((listRounds members).map fun listed => (listed.beaconId, listed.round)).Nodup ∧
      ∀ round, round ∈ (listRounds members).map (fun listed => (listed.beaconId, listed.round)) ↔
        round ∈ members.map fun member => (member.beacon, member.round) := by
  induction members using List.reverseRecOn with
  | nil => exact ⟨List.nodup_nil, fun _ => Iff.rfl⟩
  | append_singleton rest member inductionHypothesis =>
    obtain ⟨distinct, same⟩ := inductionHypothesis
    have step : listRounds (rest ++ [member]) = if (listRounds rest).any (fun listed =>
        listed.beaconId == member.beacon && listed.round == member.round) then listRounds rest
        else listRounds rest ++ [⟨member.beacon, member.round, member.signature⟩] := by
      unfold listRounds
      rw [List.foldl_append]
      rfl
    have listed : (listRounds rest).any (fun listed =>
        listed.beaconId == member.beacon && listed.round == member.round) = true ↔
        (member.beacon, member.round) ∈
          (listRounds rest).map fun listed => (listed.beaconId, listed.round) := by
      simp only [List.any_eq_true, Bool.and_eq_true, beq_iff_eq, List.mem_map, Prod.mk.injEq]
    rw [step]
    split
    case isTrue known =>
      refine ⟨distinct, fun round => ?_⟩
      rw [same, List.map_append, List.mem_append, List.map_singleton, List.mem_singleton]
      refine ⟨.inl, ?_⟩
      rintro (earlier | rfl)
      · exact earlier
      · exact (same _).mp (listed.mp known)
    case isFalse new =>
      rw [List.map_append, List.map_singleton]
      refine ⟨List.nodup_append.mpr ⟨distinct, List.nodup_singleton _, ?_⟩, fun round => ?_⟩
      · rintro first firstMem second secondMem rfl
        rw [List.mem_singleton] at secondMem
        exact new (listed.mpr (secondMem ▸ firstMem))
      · rw [List.mem_append, same, List.map_append, List.mem_append, List.map_singleton]

theorem length_listRounds :
    (listRounds members).length = (roundShape members).rounds := by
  obtain ⟨distinct, same⟩ := listRounds_spec members
  have perm := (List.perm_ext_iff_of_nodup distinct (List.nodup_dedup
    (members.map fun member => (member.beacon, member.round)))).mpr
    fun round => (same round).trans List.mem_dedup.symm
  have lengths := perm.length_eq
  rw [List.length_map] at lengths
  rw [lengths]
  unfold roundShape batchShape sized
  dsimp only
  rw [List.map_map]
  rfl

open RoundCoordinator (batchGas listed Counted)

/-! ### The round coordinator's guard -/

/-- The coordinator has the members' requests as the members say. -/
structure MemberShown (store : RoundStore) (member : RoundMember) : Prop where
  known : (store.requests member.requestId).consumer ≠ 0
  callbackGas : (store.requests member.requestId).callbackGasLimit = member.callbackGas
  beacon : (store.requests member.requestId).binding.beaconId = member.beacon
  round : (store.requests member.requestId).binding.round = member.round

/-- No round of the members is cached. -/
def Uncached (store : RoundStore) (members : List RoundMember) : Prop :=
  ∀ member ∈ members, store.ext.book.cachedRound member.beacon member.round = 0

theorem batchShape_rounds :
    (batchShape (sized members)).rounds = (listRounds members).length :=
  (length_listRounds members).symm

variable {store : RoundStore} {members : List RoundMember} {block : Block}

theorem callbackGas_shown (shows : ∀ member ∈ members, MemberShown store member) :
    (members.map RoundMember.requestId).map (fun requestId =>
        (store.requests requestId).callbackGasLimit) = members.map RoundMember.callbackGas := by
  rw [List.map_map]
  exact List.map_congr_left fun member isMember => (shows member isMember).callbackGas

/-- A listed round is found where it is listed. -/
theorem listed_listRounds {index : ℕ} (bound : index < (listRounds members).length) :
    ∃ member ∈ members, listed (listRounds members) member.beacon member.round = some index := by
  obtain ⟨distinct, same⟩ := listRounds_spec members
  have at_index : ((listRounds members)[index].beaconId, (listRounds members)[index].round) ∈
      (listRounds members).map fun entry => (entry.beaconId, entry.round) :=
    List.mem_map_of_mem (List.getElem_mem bound)
  obtain ⟨member, isMember, isRound⟩ := List.mem_map.mp ((same _).mp at_index)
  obtain ⟨beacon, round⟩ := Prod.mk.inj isRound
  refine ⟨member, isMember,
    List.findIdx?_eq_some_iff_getElem.mpr ⟨bound, ?_, fun other before => ?_⟩⟩
  · exact decide_eq_true ⟨beacon.symm, round.symm⟩
  · intro matching
    obtain ⟨otherBeacon, otherRound⟩ := of_decide_eq_true matching
    have otherBound := before.trans bound
    refine List.pairwise_iff_getElem.mp distinct other index
      (by rw [List.length_map]; exact otherBound) (by rw [List.length_map]; exact bound) before ?_
    rw [List.getElem_map, List.getElem_map, otherBeacon, otherRound, beacon, round]

/-- The round of a member is listed. -/
theorem listed_of_member {member : RoundMember} (isMember : member ∈ members) :
    ∃ index, listed (listRounds members) member.beacon member.round = some index := by
  have isRound : (member.beacon, member.round) ∈
      (listRounds members).map fun entry => (entry.beaconId, entry.round) :=
    ((listRounds_spec members).2 _).mpr (List.mem_map_of_mem isMember)
  obtain ⟨entry, isEntry, same⟩ := List.mem_map.mp isRound
  obtain ⟨beacon, round⟩ := Prod.mk.inj same
  refine Option.ne_none_iff_exists'.mp fun absent => ?_
  have unlisted := List.findIdx?_eq_none_iff.mp absent entry isEntry
  exact of_decide_eq_false unlisted ⟨beacon, round⟩

theorem final_length_le {rounds : List RoundSignature} {ids budgeted final : List ℕ}
    {need total : ℕ} (holds : Counted block store rounds ids need budgeted total final) :
    final.length ≤ rounds.length := by
  have subset : final ⊆ List.range rounds.length :=
    fun index member => List.mem_range.mpr (holds.bounded index member)
  have fewer := (holds.nodup.subperm subset).length_le
  rwa [List.length_range] at fewer

/-- The keeper's budget of a batch in the coordinator's terms. -/
theorem budget_batchShape (members : List RoundMember) :
    (batchShape (sized members)).budget = callbackReserve +
      ((members.map RoundMember.callbackGas).map RoundGas.memberGas).sum +
      (listRounds members).length * BeaconBook.roundVerifyGasNeeded := by
  unfold Shape.budget
  rw [batchShape_rounds]
  have limits : (batchShape (sized members)).callbackGasLimits =
      members.map RoundMember.callbackGas := by
    unfold batchShape sized
    rw [List.map_map]
    rfl
  have verification : RoundGas.roundVerification = BeaconBook.roundVerifyGasNeeded := by decide
  have reserve : RoundGas.callbackReserve = callbackReserve := by decide
  rw [limits, verification, reserve]

/-- What a batch needs is at most the budget of its members, whatever is settled or cached. -/
theorem batchGas_le_budget (shows : ∀ member ∈ members, MemberShown store member) {total : ℕ}
    (counted : batchGas block store (listRounds members) (members.map RoundMember.requestId) =
      .ok total) :
    total ≤ (batchShape (sized members)).budget := by
  obtain ⟨final, holds⟩ := RoundCoordinator.counted_of_batchGas counted
  have gas := holds.gas
  have served : servedGas block store (members.map RoundMember.requestId) ≤ _ :=
    servedGas_le (callbackGas_shown shows)
  have few := final_length_le holds
  have verifications := Nat.mul_le_mul_right BeaconBook.roundVerifyGasNeeded few
  rw [budget_batchShape]
  rw [List.length_nil, Nat.zero_mul] at gas
  omega

/-- A batch whose members are all served, with none of their rounds cached, needs exactly their
budget. -/
theorem batchGas_eq_budget (shows : ∀ member ∈ members, MemberShown store member)
    (all : ∀ member ∈ members, serves block store member.requestId = true)
    (uncached : Uncached store members) :
    batchGas block store (listRounds members) (members.map RoundMember.requestId) =
      .ok (batchShape (sized members)).budget := by
  have known : ∀ requestId ∈ members.map RoundMember.requestId,
      (store.requests requestId).consumer ≠ 0 :=
    List.forall_mem_map.mpr fun member isMember => (shows member isMember).known
  cases counted : batchGas block store (listRounds members)
      (members.map RoundMember.requestId) with
  | error fault =>
    obtain ⟨requestId, isId, missing⟩ :=
      (RoundCoordinator.batchGasLoop_error_iff _ _ known).mp ⟨fault, counted⟩
    obtain ⟨member, isMember, rfl⟩ := List.mem_map.mp isId
    obtain ⟨index, found⟩ := listed_of_member isMember
    have absent := RoundCoordinator.listed_eq_none_iff.mpr missing.unlisted
    rw [(shows member isMember).beacon, (shows member isMember).round, found] at absent
    exact nomatch absent
  | ok total =>
    obtain ⟨final, holds⟩ := RoundCoordinator.counted_of_batchGas counted
    have gas := holds.gas
    rw [servedGas_eq (callbackGas_shown shows) (List.forall_mem_map.mpr all), List.length_nil,
      Nat.zero_mul] at gas
    have few := final_length_le holds
    have many : (listRounds members).length ≤ final.length := by
      have subset : List.range (listRounds members).length ⊆ final := by
        intro index bound
        obtain ⟨member, isMember, found⟩ := listed_listRounds (List.mem_range.mp bound)
        have shown := shows member isMember
        obtain ⟨other, isFinal, foundOther⟩ := holds.complete member.requestId
          (List.mem_map_of_mem isMember) (all member isMember)
          (by rw [shown.beacon, shown.round]; exact uncached member isMember)
        rw [shown.beacon, shown.round, found] at foundOther
        exact Option.some.inj foundOther ▸ isFinal
      have fewer := (List.nodup_range.subperm subset).length_le
      rwa [List.length_range] at fewer
    rw [Nat.le_antisymm few many] at gas
    rw [budget_batchShape]
    exact congrArg Except.ok gas

/-- A single fulfillment is budgeted as the coordinator budgets one that verifies its round. -/
theorem budget_singleShape (limit candidates : ℕ) :
    (singleShape limit candidates).budget = RoundCoordinator.memberGas limit + callbackReserve +
      BeaconBook.roundVerifyGasNeeded := by
  have verification : RoundGas.roundVerification = BeaconBook.roundVerifyGasNeeded := by decide
  have reserve : RoundGas.callbackReserve = callbackReserve := by decide
  unfold Shape.budget singleShape
  rw [memberGas_eq, verification, reserve, List.map_singleton, List.sum_singleton, Nat.one_mul,
    Nat.add_comm callbackReserve]

/-- The margin of the gas limit of a shape fits 64 bits with this much L1 gas. -/
def LimitFits (shape : Shape) (l1 : ℕ) : Prop :=
  ∀ least, leastLimit shape l1 = .ok least → MarginFits least

/-- A limit that is sent leaves the budget, with the margin taken from the least limit. -/
theorem budget_le_of_sent {shape : Shape}
    (verifies : shape.batch = true ∨ shape.rounds = 1) {estimate l1 gas charge before inside : ℕ}
    (margin : LimitFits shape l1) (sent : fulfillmentGas estimate shape l1 = .ok gas)
    (charged : charge ≤ l1) (worked : before + inside ≤ shape.work) :
    shape.budget ≤ gasAtGuard gas charge before inside := by
  obtain ⟨floor, floored, -⟩ := bind_eq_ok.mp sent
  obtain ⟨least, found, -⟩ := bind_eq_ok.mp floored
  have fits := margin least found
  obtain ⟨limit, priced, found⟩ := bind_eq_ok.mp found
  obtain ⟨-, rfl⟩ := checked_eq_ok.mp found
  obtain ⟨-, rfl⟩ := (RoundGas.gasLimit_eq_ok verifies).mp priced
  exact RoundGas.budget_le_gasAtGuard verifies fits sent charged worked

/-- The gas limit of a round fulfillment passes the coordinator's guard. For a batch of an allowed
size the rounds that are counted are the rounds the calldata lists, each once; the keeper's budget
is what the coordinator counts when it serves every member and has none of the rounds, and no state
of the coordinator asks for more; and a limit whose margin fits 64 bits leaves that budget, for
every estimate. The same holds of a single fulfillment that verifies its round. -/
theorem round_limit_passes_guard :
    (∀ members : List RoundMember, 1 ≤ members.length →
      members.length ≤ RoundGas.maxFulfillBatch →
      ((listRounds members).map fun entry => (entry.beaconId, entry.round)).Nodup ∧
      (∀ round, round ∈ (listRounds members).map (fun entry => (entry.beaconId, entry.round)) ↔
        round ∈ members.map fun member => (member.beacon, member.round)) ∧
      (batchShape (sized members)).rounds = (listRounds members).length ∧
      ∃ budget, guardBudget (batchShape (sized members)) = .ok budget ∧
        (∀ block store, (∀ member ∈ members, MemberShown store member) →
          (∀ total, batchGas block store (listRounds members)
              (members.map RoundMember.requestId) = .ok total → total ≤ budget) ∧
          ((∀ member ∈ members, serves block store member.requestId = true) →
            Uncached store members →
            batchGas block store (listRounds members) (members.map RoundMember.requestId) =
              .ok budget)) ∧
        ∀ estimate l1 gas charge before inside, LimitFits (roundShape members) l1 →
          fulfillmentGas estimate (roundShape members) l1 = .ok gas → charge ≤ l1 →
          before + inside ≤
            37500 + 6800 * members.length + 1800 * (listRounds members).length →
          budget ≤ gasAtGuard gas charge before inside) ∧
    ∀ limit candidates, 1 ≤ candidates →
      guardBudget (singleShape limit candidates) =
        .ok (RoundCoordinator.memberGas limit + callbackReserve +
          BeaconBook.roundVerifyGasNeeded) ∧
      ∀ estimate l1 gas charge before inside, LimitFits (singleShape limit candidates) l1 →
        fulfillmentGas estimate (singleShape limit candidates) l1 = .ok gas →
        charge ≤ l1 → before + inside ≤ 48000 →
        RoundCoordinator.memberGas limit + callbackReserve + BeaconBook.roundVerifyGasNeeded ≤
          gasAtGuard gas charge before inside := by
  refine ⟨fun members nonempty fits => ?_, fun limit candidates counted => ?_⟩
  · obtain ⟨distinct, same⟩ := listRounds_spec members
    refine ⟨distinct, same, batchShape_rounds members, _,
      guardBudget_eq_ok.mpr ⟨RoundGas.batchShape_valid ?_ ?_, rfl⟩, ?_, ?_⟩
    · rwa [sized, List.length_map]
    · rwa [sized, List.length_map]
    · intro block store shows
      exact ⟨fun total counted => batchGas_le_budget shows counted,
        fun all uncached => batchGas_eq_budget shows all uncached⟩
    · intro estimate l1 gas charge before inside margin sent charged worked
      have work : (roundShape members).work =
          37500 + 6800 * members.length + 1800 * (listRounds members).length := by
        rw [length_listRounds]
        unfold Shape.work roundShape batchShape sized
        rw [if_pos rfl, List.length_map, List.length_map]
      have left : (roundShape members).budget ≤ gasAtGuard gas charge before inside :=
        budget_le_of_sent (.inl rfl) margin sent charged (work ▸ worked)
      exact left
  · have valid : (singleShape limit candidates).Valid := by
      have fits : 1 ≤ RoundGas.maxFulfillBatch := by decide
      refine ⟨Nat.le_refl 1, fits, Nat.le_refl 1, .inr ⟨rfl, Nat.le_refl 1⟩, ?_⟩
      have positive : decide (1 ≤ candidates) = true := decide_eq_true counted
      unfold singleShape
      simp only [Option.all_some, List.all_cons, List.all_nil, positive, List.length_singleton,
        beq_self_eq_true, Bool.and_self]
    rw [← budget_singleShape limit candidates]
    refine ⟨guardBudget_eq_ok.mpr ⟨valid, rfl⟩, ?_⟩
    intro estimate l1 gas charge before inside margin sent charged worked
    exact budget_le_of_sent (.inr rfl) margin sent charged worked

/-- A coordinator whose requests all wait, each for the round of its id. -/
def waitingStore : RoundStore :=
  { (default : RoundDeployment).store with
    requests := fun id => { (StoredRequest.blank : StoredRequest RoundBinding) with
      consumer := ⟨7⟩, callbackGasLimit := 100000, deadline := 50, binding := ⟨0, id⟩ } }

/-- A member for one of those requests. -/
def waitingMember (id : ℕ) : RoundMember :=
  ⟨toString id, id, default, 0, id, [], 50, 100000, 0, 1⟩

theorem waitingMember_shows (id : ℕ) : MemberShown waitingStore (waitingMember id) :=
  ⟨show (⟨7⟩ : Address) ≠ 0 by decide, rfl, rfl, rfl⟩

/-- Two members over two rounds, and one member, with an estimate that is too low and all the work
inside the implementation. -/
theorem round_limit_passes_guard_pair :
    batchGas default waitingStore (listRounds [waitingMember 1, waitingMember 2]) [1, 2] =
      .ok 1965872 ∧
    fulfillmentGas 21000 (roundShape [waitingMember 1, waitingMember 2]) 9000 =
      .ok 2081385 ∧
    1965872 ≤ gasAtGuard 2081385 9000 0 54700 ∧
    fulfillmentGas 21000 (singleShape 100000 1) 9000 = .ok 1137917 ∧
    RoundCoordinator.memberGas 100000 + callbackReserve + BeaconBook.roundVerifyGasNeeded ≤
      gasAtGuard 1137917 9000 0 48000 := by
  have pair : fulfillmentGas 21000 (roundShape [waitingMember 1, waitingMember 2]) 9000 =
      .ok 2081385 := by decide +kernel
  have single : fulfillmentGas 21000 (singleShape 100000 1) 9000 = .ok 1137917 := by
    decide +kernel
  have pairFits : LimitFits (roundShape [waitingMember 1, waitingMember 2]) 9000 :=
    fun least found => by
      have value : leastLimit (roundShape [waitingMember 1, waitingMember 2]) 9000 =
        .ok 2060777 := by decide +kernel
      rw [value] at found
      obtain rfl := Except.ok.inj found
      unfold MarginFits
      decide +kernel
  have singleFits : LimitFits (singleShape 100000 1) 9000 := fun least found => by
    have value : leastLimit (singleShape 100000 1) 9000 = .ok 1126650 := by decide +kernel
    rw [value] at found
    obtain rfl := Except.ok.inj found
    unfold MarginFits
    decide +kernel
  obtain ⟨batches, singles⟩ := round_limit_passes_guard
  obtain ⟨-, -, -, budget, isBudget, counted, passes⟩ :=
    batches [waitingMember 1, waitingMember 2] (by decide) (by decide)
  have value : guardBudget
      (batchShape (sized [waitingMember 1, waitingMember 2])) = .ok 1965872 := by
    decide +kernel
  rw [value] at isBudget
  obtain rfl := Except.ok.inj isBudget
  refine ⟨?_, pair, ?_, single, ?_⟩
  · refine (counted default waitingStore ?_).2 ?_ ?_
    · exact List.forall_mem_cons.mpr ⟨waitingMember_shows 1,
        List.forall_mem_singleton.mpr (waitingMember_shows 2)⟩
    · exact List.forall_mem_cons.mpr ⟨by decide, List.forall_mem_singleton.mpr (by decide)⟩
    · exact List.forall_mem_cons.mpr ⟨rfl, List.forall_mem_singleton.mpr rfl⟩
  · exact passes 21000 9000 2081385 9000 0 54700 pairFits pair (Nat.le_refl _) (by decide +kernel)
  · exact (singles 100000 1 (by decide)).2 21000 9000 1137917 9000 0 48000 singleFits single
      (Nat.le_refl _) (by decide)

/-- With an L1 component near the largest number the margin is cut off by saturation, and a single
fulfillment that does all its work inside the implementation is short of the budget. -/
theorem round_limit_saturates :
    fulfillmentGas 0 (singleShape 100000 1) (2 ^ 64 - 1 - 1117650) = .ok (2 ^ 64 - 1) ∧
      gasAtGuard (2 ^ 64 - 1) (2 ^ 64 - 1 - 1117650) 0 48000 <
        RoundCoordinator.memberGas 100000 + callbackReserve + BeaconBook.roundVerifyGasNeeded := by
  decide +kernel

end Worker

/-! ### The epoch coordinator's guard -/

namespace EpochCoordinator

variable {block : Block} {store : EpochStore}

/-- The scan of a batch counts the gas of the members it serves. -/
theorem batchGasLoop_eq_ok {ids : List ℕ}
    (known : ∀ requestId ∈ ids, (store.requests requestId).consumer ≠ 0) (need : ℕ) :
    batchGasLoop block store ids need = .ok (need + servedGas block store ids) := by
  induction ids generalizing need with
  | nil => rfl
  | cons requestId rest inductionHypothesis =>
    obtain ⟨first, later⟩ := List.forall_mem_cons.mp known
    unfold batchGasLoop
    dsimp only
    rw [if_neg first, servedGas_cons]
    split
    case isTrue skipped =>
      have left : serves block store requestId = false :=
        beq_eq_false_iff_ne.mpr fun served => skipReason_eq_zero_iff.mp served skipped
      rw [inductionHypothesis later, left, if_neg Bool.false_ne_true, Nat.zero_add]
    case isFalse live =>
      have served : serves block store requestId = true :=
        beq_iff_eq.mpr (skipReason_eq_zero_iff.mpr live)
      rw [inductionHypothesis later, if_pos served]
      unfold RoundCoordinator.memberGas
      exact congrArg _ (Nat.add_assoc _ _ _)

end EpochCoordinator

namespace EpochGas

/-- What the guard asks for members with these callback limits, as a number. -/
def budget (limits : List ℕ) : ℕ := callbackReserveGas + (limits.map RoundGas.memberGas).sum

/-- The cost of a fulfillment outside that budget, as a number. -/
def work (count : ℕ) : ℕ := fulfillTxGas + fulfillMemberTxGas * count

/-- The least gas limit of members with these callback limits, as a number. -/
def floorOf (limits : List ℕ) : ℕ :=
  work limits.length + budget limits + divCeil (work limits.length + budget limits) 63

variable {limits : List ℕ}

theorem guardBudget_eq_ok {found : ℕ} :
    guardBudget limits = .ok found ↔ budget limits ≤ largest 64 ∧ found = budget limits := by
  have same : (fun limit => limit + limit / 63 + memberOverheadGas) = RoundGas.memberGas := by
    unfold RoundGas.memberGas memberOverheadGas RoundGas.memberOverhead
    rfl
  unfold guardBudget budget
  rw [same, checked_eq_ok]

theorem fulfillmentFloor_eq_ok {floor : ℕ} :
    fulfillmentFloor limits = .ok floor ↔ floorOf limits ≤ largest 64 ∧ floor = floorOf limits := by
  have order : fulfillMemberTxGas * limits.length + fulfillTxGas + budget limits =
      work limits.length + budget limits := by
    unfold work
    rw [Nat.add_comm (fulfillMemberTxGas * limits.length)]
  unfold fulfillmentFloor
  constructor
  · intro floored
    obtain ⟨guarded, isBudget, floored⟩ := bind_eq_ok.mp floored
    obtain ⟨needed, found, floored⟩ := bind_eq_ok.mp floored
    obtain ⟨-, rfl⟩ := guardBudget_eq_ok.mp isBudget
    obtain ⟨-, rfl⟩ := checked_eq_ok.mp found
    rw [order] at floored
    exact checked_eq_ok.mp floored
  · rintro ⟨fits, rfl⟩
    have needed : work limits.length + budget limits ≤ largest 64 :=
      (Nat.le_add_right _ _).trans fits
    refine bind_eq_ok.mpr ⟨budget limits, guardBudget_eq_ok.mpr
      ⟨(Nat.le_add_left _ _).trans needed, rfl⟩, bind_eq_ok.mpr ⟨_, checked_eq_ok.mpr
        ⟨?_, order.symm⟩, checked_eq_ok.mpr ⟨fits, rfl⟩⟩⟩
    rw [order]
    exact needed

/-- The gas limit of a fulfillment is its padded estimate, or its least limit with the L1 gas. -/
theorem fulfillmentGasL1_eq_ok {estimate l1 gas : ℕ} :
    fulfillmentGasL1 estimate limits l1 = .ok gas ↔
      limits ≠ [] ∧ floorOf limits + l1 ≤ largest 64 ∧
        estimate + padding estimate (budget limits) ≤ largest 64 ∧
        gas = max (estimate + padding estimate (budget limits)) (floorOf limits + l1) := by
  unfold fulfillmentGasL1
  constructor
  · intro sent
    obtain ⟨_, nonempty, sent⟩ := bind_eq_ok.mp sent
    obtain ⟨guarded, isBudget, sent⟩ := bind_eq_ok.mp sent
    obtain ⟨floor, floored, sent⟩ := bind_eq_ok.mp sent
    obtain ⟨total, added, sent⟩ := bind_eq_ok.mp sent
    obtain ⟨padded, isPadded, sent⟩ := bind_eq_ok.mp sent
    obtain ⟨-, rfl⟩ := guardBudget_eq_ok.mp isBudget
    obtain ⟨-, rfl⟩ := fulfillmentFloor_eq_ok.mp floored
    obtain ⟨fits, rfl⟩ := checked_eq_ok.mp added
    obtain ⟨paddedFits, rfl⟩ := checked_eq_ok.mp isPadded
    exact ⟨ensure_eq_ok.mp nonempty, fits, paddedFits, (Except.ok.inj sent).symm⟩
  · rintro ⟨nonempty, fits, paddedFits, rfl⟩
    have floorFits : floorOf limits ≤ largest 64 := (Nat.le_add_right _ _).trans fits
    have budgetFits : budget limits ≤ largest 64 :=
      ((Nat.le_add_left _ _).trans (Nat.le_add_right _ _)).trans floorFits
    exact bind_eq_ok.mpr ⟨(), ensure_eq_ok.mpr nonempty, bind_eq_ok.mpr ⟨_, guardBudget_eq_ok.mpr
      ⟨budgetFits, rfl⟩, bind_eq_ok.mpr ⟨_, fulfillmentFloor_eq_ok.mpr ⟨floorFits, rfl⟩,
        bind_eq_ok.mpr ⟨_, checked_eq_ok.mpr ⟨fits, rfl⟩, bind_eq_ok.mpr ⟨_, checked_eq_ok.mpr
          ⟨paddedFits, rfl⟩, rfl⟩⟩⟩⟩⟩

/-- The gas limit of an epoch fulfillment passes the coordinator's guard: the keeper's budget of its
members is what the coordinator asks for when it serves them all, and no state asks for more; and
the limit leaves that budget after the L1 charge and the transaction's own cost, however the proxy's
call divides that cost. -/
theorem epoch_limit_passes_guard (estimate l1 gas : ℕ) (limits : List ℕ)
    (sent : fulfillmentGasL1 estimate limits l1 = .ok gas) :
    ∃ budget, guardBudget limits = .ok budget ∧
      (∀ block (store : EpochStore) ids,
        (∀ requestId ∈ ids, (store.requests requestId).consumer ≠ 0) →
        ids.map (fun requestId => (store.requests requestId).callbackGasLimit) = limits →
        (∃ need, EpochCoordinator.batchGasLoop block store ids callbackReserve = .ok need ∧
          need ≤ budget) ∧
        ((∀ requestId ∈ ids, serves block store requestId = true) →
          EpochCoordinator.batchGasLoop block store ids callbackReserve = .ok budget)) ∧
      ∀ charge before inside, charge ≤ l1 →
        before + inside ≤ fulfillTxGas + fulfillMemberTxGas * limits.length →
        budget ≤ gasAtGuard gas charge before inside := by
  obtain ⟨-, fits, -, rfl⟩ := fulfillmentGasL1_eq_ok.mp sent
  have floorFits : floorOf limits ≤ largest 64 := (Nat.le_add_right _ _).trans fits
  have budgetFits : budget limits ≤ largest 64 :=
    ((Nat.le_add_left _ _).trans (Nat.le_add_right _ _)).trans floorFits
  have reserve : callbackReserve = callbackReserveGas := by decide
  refine ⟨budget limits, guardBudget_eq_ok.mpr ⟨budgetFits, rfl⟩, ?_, ?_⟩
  · intro block store ids known shown
    rw [EpochCoordinator.batchGasLoop_eq_ok known, reserve]
    exact ⟨⟨_, rfl, Nat.add_le_add_left (servedGas_le shown) _⟩,
      fun all => congrArg _ (congrArg _ (servedGas_eq shown all))⟩
  · intro charge before inside charged worked
    have scaled : work limits.length + budget limits ≤
        63 * divCeil (work limits.length + budget limits) 63 := le_divCeil_mul (by decide)
    have most := Nat.le_max_right (estimate + padding estimate (budget limits))
      (floorOf limits + l1)
    have bounded : before + inside ≤ work limits.length := worked
    unfold floorOf at most
    apply le_gasAtGuard
    unfold floorOf
    omega

/-- Three members with a low estimate, half of the cost on each side of the proxy's call. -/
theorem epoch_limit_passes_guard_three :
    fulfillmentGasL1 21000 [100000, 30000, 1000000] 9000 = .ok 2693498 ∧
      ∃ budget, guardBudget [100000, 30000, 1000000] = .ok budget ∧
        budget ≤ gasAtGuard 2693498 9000 77308 77308 := by
  have sent : fulfillmentGasL1 21000 [100000, 30000, 1000000] 9000 = .ok 2693498 := by
    decide +kernel
  obtain ⟨budget, found, -, leaves⟩ := epoch_limit_passes_guard _ _ _ _ sent
  exact ⟨sent, budget, found, leaves 9000 77308 77308 (Nat.le_refl _) (by decide)⟩

end EpochGas

/-! ### The members that fit a cap -/

/-- A scan passes the entries before its length, and stops at one that fails. -/
theorem takeWhile_length_spec {Entry : Type} (passes : Entry → Bool) (entries : List Entry) :
    (∀ index entry, index < (entries.takeWhile passes).length → entries[index]? = some entry →
        passes entry = true) ∧
      ∀ entry, entries[(entries.takeWhile passes).length]? = some entry → passes entry = false := by
  induction entries with
  | nil => exact ⟨fun _ _ before => absurd before (Nat.not_lt_zero _), fun _ found => nomatch found⟩
  | cons first rest inductionHypothesis =>
    obtain ⟨before, stops⟩ := inductionHypothesis
    cases passed : passes first with
    | true =>
      rw [List.takeWhile_cons_of_pos passed, List.length_cons]
      refine ⟨fun index entry below found => ?_, stops⟩
      cases index with
      | zero => exact Option.some.inj found ▸ passed
      | succ index => exact before index entry (Nat.lt_of_succ_lt_succ below) found
    | false =>
      rw [List.takeWhile_cons_of_neg (by rw [passed]; exact Bool.false_ne_true)]
      exact ⟨fun _ _ below => absurd below (Nat.not_lt_zero _),
        fun _ found => Option.some.inj found ▸ passed⟩

/-- The scan from one on counts up to a count that fits, and the next one does not. -/
theorem countWhile_spec (most : ℕ) (fits : ℕ → Bool) :
    countWhile most fits ≤ most ∧
      (∀ count, 1 ≤ count → count ≤ countWhile most fits → fits count = true) ∧
      (countWhile most fits < most → fits (countWhile most fits + 1) = false) := by
  have at_index : ∀ index, index < most →
      ((List.range most).map (· + 1))[index]? = some (index + 1) := by
    intro index below
    rw [List.getElem?_map, List.getElem?_range below]
    rfl
  have bounded : countWhile most fits ≤ most := by
    have shorter := (List.takeWhile_sublist fits (l := (List.range most).map (· + 1))).length_le
    rwa [List.length_map, List.length_range] at shorter
  obtain ⟨before, stops⟩ := takeWhile_length_spec fits ((List.range most).map (· + 1))
  refine ⟨bounded, fun count positive within => ?_, fun below => stops _ (at_index _ below)⟩
  obtain ⟨index, rfl⟩ := Nat.exists_eq_add_of_le' positive
  exact before index _ within (at_index index (within.trans bounded))

/-- If a count fits whenever the next one does, the scan stops at the greatest count that fits. -/
theorem isGreatest_countWhile {most : ℕ} {fits : ℕ → Bool}
    (shrinks : ∀ count, 1 ≤ count → count < most → fits (count + 1) = true → fits count = true) :
    IsGreatest {count | count ≤ most ∧ (count = 0 ∨ fits count = true)} (countWhile most fits) := by
  obtain ⟨bounded, all, stops⟩ := countWhile_spec most fits
  refine ⟨⟨bounded, ?_⟩, ?_⟩
  · rcases Nat.eq_zero_or_pos (countWhile most fits) with zero | positive
    · exact .inl zero
    · exact .inr (all _ positive (Nat.le_refl _))
  · rintro count ⟨within, none | fit⟩
    · exact none ▸ Nat.zero_le _
    · by_contra above
      have after : countWhile most fits + 1 ≤ count := Nat.lt_of_not_le above
      have next : fits (countWhile most fits + 1) = true := by
        refine Nat.decreasingInduction' 
          (fun middle below from_ later => shrinks middle ?_ ?_ later) after fit
        all_goals omega
      rw [stops (Nat.lt_of_lt_of_le after within)] at next
      exact nomatch next

/-- A gas limit that was found and fits a cap. -/
def fitsCap (cap : ℕ) : Except String ℕ → Bool
  | .ok gas => decide (gas ≤ cap)
  | .error _ => false

theorem fitsCap_eq_true {cap : ℕ} {found : Except String ℕ} :
    fitsCap cap found = true ↔ ∃ gas, found = .ok gas ∧ gas ≤ cap := by
  cases found with
  | error => exact ⟨fun fits => (nomatch fits), fun ⟨_, found, _⟩ => nomatch found⟩
  | ok gas =>
    constructor
    · exact fun fits => ⟨gas, rfl, of_decide_eq_true fits⟩
    · rintro ⟨_, found, fits⟩
      exact decide_eq_true (Except.ok.inj found ▸ fits)

/-- If each limit that is found has a smaller one before it, the scan finds the greatest count whose
limit fits the cap. -/
theorem isGreatest_fitsCap {most cap : ℕ} {limit : ℕ → Except String ℕ}
    (mono : ∀ count gas, 1 ≤ count → count < most → limit (count + 1) = .ok gas →
      ∃ less, limit count = .ok less ∧ less ≤ gas) :
    IsGreatest {count | count ≤ most ∧ (count = 0 ∨ ∃ gas, limit count = .ok gas ∧ gas ≤ cap)}
      (countWhile most fun count => fitsCap cap (limit count)) := by
  have greatest : IsGreatest {count | count ≤ most ∧ (count = 0 ∨ fitsCap cap (limit count) = true)}
      (countWhile most fun count => fitsCap cap (limit count)) := by
    refine isGreatest_countWhile fun count positive below fits => ?_
    obtain ⟨gas, found, within⟩ := fitsCap_eq_true.mp fits
    obtain ⟨less, foundLess, lessGas⟩ := mono count gas positive below found
    exact fitsCap_eq_true.mpr ⟨less, foundLess, lessGas.trans within⟩
  simp only [fitsCap_eq_true] at greatest
  exact greatest

namespace RoundGas

theorem estimateCover_mono {first second : ℕ} (below : first ≤ second) :
    estimateCover first ≤ estimateCover second :=
  saturating_mono (Nat.add_le_add below (max_le_max_right _ (divCeil_le_divCeil _ below)))

/-- A batch that asks for less has the smaller limit. -/
theorem chainLimit_mono {small large : Shape} (valid : small.Valid) (isBatch : small.batch = true)
    (alsoBatch : large.batch = true) (budget : small.budget ≤ large.budget)
    (work : small.work ≤ large.work) {l1 more gas : ℕ} (share : l1 ≤ more)
    (found : chainLimit large more = .ok gas) :
    ∃ less, chainLimit small l1 = .ok less ∧ less ≤ gas := by
  obtain ⟨least, foundLeast, found⟩ := bind_eq_ok.mp found
  obtain ⟨limit, priced, added⟩ := bind_eq_ok.mp foundLeast
  obtain ⟨-, rfl⟩ := (gasLimit_eq_ok (.inl alsoBatch)).mp priced
  obtain ⟨fits, rfl⟩ := checked_eq_ok.mp added
  obtain rfl := Except.ok.inj found
  have proxied : viaProxy small.budget ≤ viaProxy large.budget :=
    divCeil_le_divCeil _ (Nat.mul_le_mul_right _ budget)
  have below := Nat.add_le_add (Nat.add_le_add proxied work) share
  exact ⟨_, bind_eq_ok.mpr ⟨_, bind_eq_ok.mpr ⟨_, (gasLimit_eq_ok (.inl isBatch)).mpr ⟨valid, rfl⟩,
    checked_eq_ok.mpr ⟨below.trans fits, rfl⟩⟩, rfl⟩, estimateCover_mono below⟩

/-- More members ask for more. -/
theorem batchShape_mono {few many : List Sized} (sub : few.Sublist many) :
    (batchShape few).budget ≤ (batchShape many).budget ∧
      (batchShape few).work ≤ (batchShape many).work := by
  have limits : ((batchShape few).callbackGasLimits.map memberGas).sum ≤
      ((batchShape many).callbackGasLimits.map memberGas).sum :=
    ((sub.map _).map _).sum_le_sum fun _ _ => Nat.zero_le _
  have rounds : (batchShape few).rounds ≤ (batchShape many).rounds := by
    refine ((List.nodup_dedup _).subperm fun round isRound => ?_).length_le
    exact List.mem_dedup.mpr ((sub.map _).subset (List.mem_dedup.mp isRound))
  have lengths : (batchShape few).callbackGasLimits.length ≤
      (batchShape many).callbackGasLimits.length := (sub.map _).length_le
  refine ⟨Nat.add_le_add (Nat.add_le_add_left limits _) (Nat.mul_le_mul_right _ rounds), ?_⟩
  have works (members : List Sized) : (batchShape members).work = 37500 +
      6800 * (batchShape members).callbackGasLimits.length + 1800 * (batchShape members).rounds :=
    if_pos rfl
  rw [works few, works many]
  omega

end RoundGas

namespace EpochGas

/-- The gas limit predicted for the first members, from the estimate of them all. -/
def predictedLimit (estimate : ℕ) (limits : List ℕ) (l1Each count : ℕ) : Except String ℕ := do
  let l1 := saturating 64 (l1Each * count)
  let predicted ← checked 64 (divCeil estimate limits.length * count)
  let floor ← checked 64 ((← fulfillmentFloor (limits.take count)) + l1)
  fulfillmentGasL1 (max predicted floor) (limits.take count) l1

variable {limits : List ℕ} {count : ℕ}

/-- The predicted limit is the padded estimate: the estimate is never below the least limit. -/
theorem predictedLimit_eq_ok {estimate l1Each gas : ℕ} :
    predictedLimit estimate limits l1Each count = .ok gas ↔
      limits.take count ≠ [] ∧
      gas = max (divCeil estimate limits.length * count)
          (floorOf (limits.take count) + saturating 64 (l1Each * count)) +
        padding (max (divCeil estimate limits.length * count)
          (floorOf (limits.take count) + saturating 64 (l1Each * count)))
          (budget (limits.take count)) ∧ gas ≤ largest 64 := by
  unfold predictedLimit
  constructor
  · intro predicted
    obtain ⟨share, isShare, predicted⟩ := bind_eq_ok.mp predicted
    obtain ⟨floor, isFloor, predicted⟩ := bind_eq_ok.mp predicted
    obtain ⟨least, isLeast, predicted⟩ := bind_eq_ok.mp predicted
    obtain ⟨-, rfl⟩ := checked_eq_ok.mp isShare
    obtain ⟨-, rfl⟩ := fulfillmentFloor_eq_ok.mp isFloor
    obtain ⟨-, rfl⟩ := checked_eq_ok.mp isLeast
    obtain ⟨nonempty, -, fits, rfl⟩ := fulfillmentGasL1_eq_ok.mp predicted
    rw [Nat.max_eq_left ((Nat.le_max_right _ _).trans (Nat.le_add_right _ _))]
    exact ⟨nonempty, rfl, fits⟩
  · rintro ⟨nonempty, rfl, fits⟩
    have estimateFits := (Nat.le_add_right _ _).trans fits
    have leastFits := (Nat.le_max_right _ _).trans estimateFits
    refine bind_eq_ok.mpr ⟨_, checked_eq_ok.mpr ⟨(Nat.le_max_left _ _).trans estimateFits, rfl⟩,
      bind_eq_ok.mpr ⟨_, fulfillmentFloor_eq_ok.mpr ⟨(Nat.le_add_right _ _).trans leastFits, rfl⟩,
        bind_eq_ok.mpr ⟨_, checked_eq_ok.mpr ⟨leastFits, rfl⟩, fulfillmentGasL1_eq_ok.mpr
          ⟨nonempty, leastFits, fits, ?_⟩⟩⟩⟩
    rw [Nat.max_eq_left ((Nat.le_max_right _ _).trans (Nat.le_add_right _ _))]

theorem budget_take_succ (below : count < limits.length) :
    budget (limits.take (count + 1)) =
      budget (limits.take count) + RoundGas.memberGas limits[count] := by
  unfold budget
  rw [List.take_add_one, List.getElem?_eq_getElem below, Option.toList_some, List.map_append,
    List.sum_append, List.map_singleton, List.sum_singleton, Nat.add_assoc]

/-- A callback limit that the coordinator accepts for requests. -/
def Accepted (limits : List ℕ) : Prop := ∀ limit ∈ limits, 30000 ≤ limit ∧ limit ≤ 1000000

theorem memberGas_bounds {limit : ℕ} (least : 30000 ≤ limit) (most : limit ≤ 1000000) :
    430476 ≤ RoundGas.memberGas limit ∧ RoundGas.memberGas limit ≤ 1415873 := by
  unfold RoundGas.memberGas RoundGas.memberOverhead
  omega

/-- The least limit grows by at least 457,644 for every member. -/
theorem mul_le_floorOf (accepted : Accepted limits) (within : count ≤ limits.length) :
    457644 * count ≤ floorOf (limits.take count) := by
  have budgets : 430476 * count ≤ budget (limits.take count) := by
    induction count with
    | zero => exact Nat.zero_le _
    | succ count inductionHypothesis =>
      obtain ⟨least, most⟩ := accepted _ (List.getElem_mem within)
      rw [budget_take_succ within, Nat.mul_succ]
      exact Nat.add_le_add (inductionHypothesis (Nat.le_of_succ_le within))
        (memberGas_bounds least most).1
  have length : (limits.take count).length = count := by
    rw [List.length_take]
    exact Nat.min_eq_left within
  unfold floorOf work fulfillMemberTxGas fulfillTxGas
  rw [length]
  omega

/-- The padded estimate grows with the members: the estimate grows with the least limit, which grows
faster than the budget, or by an even share that is too large for the padding to make up for. -/
theorem padded_mono {share least more fewBudget member : ℕ} (grows : least + member ≤ more)
    (member_le : member ≤ 1415873) (shareLarge : least ≤ share * count → 457644 ≤ share)
    (covered : fewBudget ≤ least) :
    max (share * count) least + padding (max (share * count) least) fewBudget ≤
      max (share * (count + 1)) more +
        padding (max (share * (count + 1)) more) (fewBudget + member) := by
  unfold padding
  rw [Nat.mul_succ]
  generalize share * count = even at *
  rcases Nat.le_total even least with dominated | dominates
  · rw [Nat.max_eq_right dominated]
    omega
  · have large := shareLarge dominates
    rw [Nat.max_eq_left dominates]
    omega

/-- A prefix of accepted members has a smaller predicted limit than the next longer one. -/
theorem predictedLimit_mono {estimate l1Each gas : ℕ} (accepted : Accepted limits)
    (positive : 1 ≤ count) (below : count < limits.length)
    (found : predictedLimit estimate limits l1Each (count + 1) = .ok gas) :
    ∃ less, predictedLimit estimate limits l1Each count = .ok less ∧ less ≤ gas := by
  obtain ⟨-, rfl, fits⟩ := predictedLimit_eq_ok.mp found
  have shares : saturating 64 (l1Each * count) ≤ saturating 64 (l1Each * (count + 1)) :=
    saturating_mono (Nat.mul_le_mul_left _ (Nat.le_succ _))
  obtain ⟨least, most⟩ := accepted _ (List.getElem_mem below)
  have length (size : ℕ) (within : size ≤ limits.length) : (limits.take size).length = size :=
    List.length_take.trans (Nat.min_eq_left within)
  have floors : floorOf (limits.take count) + RoundGas.memberGas limits[count] ≤
      floorOf (limits.take (count + 1)) := by
    have works : work count ≤ work (count + 1) :=
      Nat.add_le_add_left (Nat.mul_le_mul_left _ (Nat.le_succ _)) _
    have scaled := divCeil_le_divCeil 63 (Nat.add_le_add works
      (Nat.le_add_right (budget (limits.take count)) (RoundGas.memberGas limits[count])))
    unfold floorOf
    rw [length count (Nat.le_of_lt below), length (count + 1) below, budget_take_succ below]
    omega
  have covered : budget (limits.take count) ≤ floorOf (limits.take count) := by
    unfold floorOf
    omega
  have many := mul_le_floorOf accepted (Nat.le_of_lt below)
  have shareLarge : floorOf (limits.take count) + saturating 64 (l1Each * count) ≤
      divCeil estimate limits.length * count → 457644 ≤ divCeil estimate limits.length :=
    fun dominates => Nat.le_of_mul_le_mul_right
      ((many.trans (Nat.le_add_right _ _)).trans dominates) positive
  have grows : floorOf (limits.take count) + saturating 64 (l1Each * count) +
      RoundGas.memberGas limits[count] ≤
        floorOf (limits.take (count + 1)) + saturating 64 (l1Each * (count + 1)) := by
    omega
  have bound := padded_mono grows (memberGas_bounds least most).2 shareLarge
    (covered.trans (Nat.le_add_right _ _))
  rw [← budget_take_succ below] at bound
  refine ⟨_, predictedLimit_eq_ok.mpr ⟨?_, rfl, bound.trans fits⟩, bound⟩
  intro empty
  have none := congrArg List.length empty
  rw [length count (Nat.le_of_lt below), List.length_nil] at none
  omega

end EpochGas

/-- The members that are taken under a cap are the most that fit it: in the epoch lane for accepted
callback limits, in the round lane for all, and although the scan from the front stops at the first
count that does not fit. -/
theorem members_within_greatest :
    (∀ estimate limits cap l1Each, EpochGas.Accepted limits →
      IsGreatest {count | count ≤ limits.length ∧ (count = 0 ∨
          ∃ gas, EpochGas.predictedLimit estimate limits l1Each count = .ok gas ∧ gas ≤ cap)}
        (EpochGas.membersWithinL1 estimate limits cap l1Each)) ∧
    ∀ members cap l1Each,
      IsGreatest {count | count ≤ min members.length RoundGas.maxFulfillBatch ∧ (count = 0 ∨
          ∃ gas, RoundGas.chainLimit (RoundGas.batchShape (members.take count))
            (saturating 64 (l1Each * count)) = .ok gas ∧ gas ≤ cap)}
        (RoundGas.membersWithin members cap l1Each) := by
  refine ⟨fun estimate limits cap l1Each accepted => ?_, fun members cap l1Each => ?_⟩
  · exact isGreatest_fitsCap fun count gas positive below found =>
      EpochGas.predictedLimit_mono accepted positive below found
  · refine @isGreatest_fitsCap _ cap (fun count => RoundGas.chainLimit
      (RoundGas.batchShape (members.take count)) (saturating 64 (l1Each * count)))
      fun count gas positive below found => ?_
    obtain ⟨budget, work⟩ := RoundGas.batchShape_mono
      (List.take_sublist_take_left (l := members) (Nat.le_succ count))
    have length : (members.take count).length = count :=
      List.length_take.trans (Nat.min_eq_left
        ((Nat.le_of_lt below).trans (Nat.min_le_left _ _)))
    refine RoundGas.chainLimit_mono (RoundGas.batchShape_valid ?_ ?_) rfl rfl budget work
      (saturating_mono (Nat.mul_le_mul_left _ (Nat.le_succ _))) found
    · exact length.symm ▸ positive
    · exact length.symm ▸ (Nat.le_of_lt below).trans (Nat.min_le_right _ _)

/-- Five members of which a cap allows three in the epoch lane. -/
theorem members_within_greatest_three :
    EpochGas.membersWithinL1 0 [100000, 30000, 1000000, 30000, 100000] 3000000 100 = 3 ∧
      ∀ count, count ≤ 5 →
        (∃ gas, EpochGas.predictedLimit 0 [100000, 30000, 1000000, 30000, 100000] 100 count =
          .ok gas ∧ gas ≤ 3000000) → count ≤ 3 := by
  have three : EpochGas.membersWithinL1 0 [100000, 30000, 1000000, 30000, 100000] 3000000 100 =
      3 := by decide +kernel
  have accepted : EpochGas.Accepted [100000, 30000, 1000000, 30000, 100000] := by
    unfold EpochGas.Accepted
    decide
  have greatest := members_within_greatest.1 0 _ 3000000 100 accepted
  rw [three] at greatest
  exact ⟨three, fun count within fits => greatest.2 ⟨within, .inr fits⟩⟩

end D20
