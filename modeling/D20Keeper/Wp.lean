/-
This file is the program logic of `Tx`: a weakest precondition that quantifies
over every place a run can be at, and one rule for each primitive.

`wp env O E program post account gas logs` says that, started from that account
and that gas after the events `logs`, the program passes only points that
satisfy `O`, fails only with a fault that satisfies `E`, and returns only values,
accounts, meters and events that satisfy `post`; and that its meter never runs
backwards. The position in the environment is quantified away, so a rule for an
external call speaks of every answer the environment holds.
-/

import D20Keeper.Transaction

namespace Evm

/-! ### Meters never run backwards -/

/-- A meter that has moved on: metered gas does not grow, and an unmetered run stays so. -/
def Spends : Option Nat → Option Nat → Prop
  | none, none => True
  | some before, some after => after ≤ before
  | _, _ => False

theorem Spends.refl (gas : Option Nat) : Spends gas gas := by
  cases gas with
  | none => trivial
  | some amount => exact Nat.le_refl amount

theorem Spends.trans {first second third : Option Nat} (one : Spends first second)
    (two : Spends second third) : Spends first third := by
  cases first <;> cases second <;> cases third <;>
    first
      | trivial
      | exact one.elim
      | exact two.elim
      | exact Nat.le_trans two one

theorem spends_map {gas : Option Nat} {step : Nat → Nat}
    (shrinks : ∀ amount, step amount ≤ amount) :
    Spends gas (gas.map step) := by
  cases gas with
  | none => trivial
  | some amount => exact shrinks amount

theorem gasAfter_le (available left : Nat) (limit : Option Nat) :
    Tx.gasAfter available (forwardable available limit) left ≤ available := by
  have handed := forwardable_le available limit
  have kept := min_le_right left (forwardable available limit)
  unfold Tx.gasAfter
  omega

namespace Tx

variable {σ ε η κ ν μ α β : Type}

/-! ### The weakest precondition -/

/-- What a result must satisfy: a returned value the postcondition, a fault the error
condition. -/
def Settles (E : Fault ε → Prop) (post : α → Prop) : Except (Fault ε) α → Prop
  | .ok value => post value
  | .error fault => E fault

/-- A postcondition, about the value, the account, the meter and the events so far. -/
abbrev Post (σ η α : Type) : Type := α → Account σ → Option Nat → List η → Prop

/-- The weakest precondition of a program. -/
def wp (env : Env κ ν) (O : Point σ ε μ → Prop) (E : Fault ε → Prop)
    (program : Tx σ ε η κ ν μ α) (post : Post σ η α)
    (account : Account σ) (gas : Option Nat) (logs : List η) : Prop :=
  ∀ world : World σ, world.account = account → world.gas = gas →
    (∀ point ∈ (program env world).points, O point) ∧
      Spends gas (program env world).world.gas ∧
      Settles E (fun value => post value (program env world).world.account
        (program env world).world.gas (logs ++ (program env world).events))
        (program env world).result

section Rules

variable {env : Env κ ν} {O : Point σ ε μ → Prop} {E : Fault ε → Prop}
  {post : Post σ η α} {account : Account σ} {gas : Option Nat}
  {logs : List η}

theorem not_mem_nil_points (point : Point σ ε μ) (member : point ∈ ([] : List (Point σ ε μ))) :
    O point := absurd member List.not_mem_nil

variable {program : Tx σ ε η κ ν μ α} {error : ε} {value : α}

/-- A program that emits nothing leaves the events as they are. -/
theorem unlogged (holds : post value account gas logs) : post value account gas (logs ++ []) := by
  rwa [List.append_nil]

theorem wp_mono {weaker : Post σ η α}
    (holds : wp env O E program post account gas logs)
    (implies : ∀ value account' gas' logs', Spends gas gas' → post value account' gas' logs' →
      weaker value account' gas' logs') : wp env O E program weaker account gas logs := by
  intro world atAccount atGas
  obtain ⟨points, spent, rest⟩ := holds world atAccount atGas
  refine ⟨points, spent, ?_⟩
  cases result : (program env world).result with
  | ok =>
    rw [result] at rest
    exact implies _ _ _ _ spent rest
  | error =>
    rw [result] at rest
    exact rest

/-- What a program that returned satisfies. -/
theorem wp_of_ok {value : α} (holds : wp env O E program post account gas logs) {world : World σ}
    (atAccount : world.account = account) (atGas : world.gas = gas)
    (returned : (program env world).result = .ok value) :
    post value (program env world).world.account (program env world).world.gas
      (logs ++ (program env world).events) := by
  obtain ⟨-, -, settles⟩ := holds world atAccount atGas
  rw [returned] at settles
  exact settles

theorem wp_pure (holds : post value account gas logs) :
    wp env O E (pure value) post account gas logs := by
  rintro world rfl rfl
  exact ⟨not_mem_nil_points, Spends.refl _, unlogged holds⟩

theorem wp_bind {program : Tx σ ε η κ ν μ β} {next : β → Tx σ ε η κ ν μ α}
    (holds : wp env O E program
      (fun value account' gas' logs' => wp env O E (next value) post account' gas' logs')
      account gas logs) :
    wp env O E (program >>= next) post account gas logs := by
  intro world atAccount atGas
  obtain ⟨points, spent, rest⟩ := holds world atAccount atGas
  cases result : (program env world).result with
  | ok =>
    rw [result] at rest
    obtain ⟨points', spent', rest'⟩ := rest (program env world).world rfl rfl
    rw [bind_of_ok result]
    refine ⟨fun point member => ?_, spent.trans spent', ?_⟩
    · rcases List.mem_append.mp member with first | second
      · exact points point first
      · exact points' point second
    · rw [← List.append_assoc]
      exact rest'
  | error =>
    rw [result] at rest
    rw [bind_of_error result]
    exact ⟨points, spent, rest⟩

theorem wp_storage {post : Post σ η σ}
    (holds : post account.storage account gas logs) :
    wp env O E (storage : Tx σ ε η κ ν μ σ) post account gas logs := by
  rintro world rfl rfl
  exact ⟨not_mem_nil_points, Spends.refl _, unlogged holds⟩

theorem wp_write {update : σ → σ} {post : Post σ η Unit}
    (holds : post () { account with storage := update account.storage } gas logs) :
    wp env O E (write update : Tx σ ε η κ ν μ Unit) post account gas logs := by
  rintro world rfl rfl
  exact ⟨not_mem_nil_points, Spends.refl _, unlogged holds⟩

theorem wp_receive {value : Nat} {post : Post σ η Unit}
    (holds : post () { account with balance := account.balance + value } gas logs) :
    wp env O E (receive value : Tx σ ε η κ ν μ Unit) post account gas logs := by
  rintro world rfl rfl
  exact ⟨not_mem_nil_points, Spends.refl _, unlogged holds⟩

theorem wp_emit {event : η} {post : Post σ η Unit}
    (holds : post () account gas (logs ++ [event])) :
    wp env O E (emit event : Tx σ ε η κ ν μ Unit) post account gas logs := by
  rintro world rfl rfl
  exact ⟨not_mem_nil_points, Spends.refl _, holds⟩

theorem wp_fail {fault : Fault ε} (holds : E fault) :
    wp env O E (fail fault : Tx σ ε η κ ν μ α) post account gas logs := by
  rintro world rfl rfl
  exact ⟨not_mem_nil_points, Spends.refl _, holds⟩

theorem wp_revert (holds : E (.revert error)) :
    wp env O E (revert error : Tx σ ε η κ ν μ α) post account gas logs := wp_fail holds

theorem wp_revertIf {condition : Prop} [Decidable condition]
    {post : Post σ η Unit} (fails : condition → E (.revert error))
    (holds : ¬ condition → post () account gas logs) :
    wp env O E (revertIf condition error : Tx σ ε η κ ν μ Unit) post account gas logs := by
  unfold revertIf
  split
  · rename_i met
    exact wp_revert (fails met)
  · rename_i unmet
    exact wp_pure (holds unmet)

theorem wp_ite {condition : Prop} [Decidable condition] {yes no : Tx σ ε η κ ν μ α}
    (whenTrue : condition → wp env O E yes post account gas logs)
    (whenFalse : ¬ condition → wp env O E no post account gas logs) :
    wp env O E (if condition then yes else no) post account gas logs := by
  split
  · rename_i met
    exact whenTrue met
  · rename_i unmet
    exact whenFalse unmet

theorem wp_checked {value : Except Panic α}
    (holds : ∀ result, value = .ok result → post result account gas logs)
    (fails : ∀ code, value = .error code → E (.panic code)) :
    wp env O E (checked value : Tx σ ε η κ ν μ α) post account gas logs := by
  cases value with
  | ok result => exact wp_pure (holds result rfl)
  | error code => exact wp_fail (fails code rfl)

theorem wp_attempt {value : Except (Fault ε) α}
    (holds : ∀ result, value = .ok result → post result account gas logs)
    (fails : ∀ fault, value = .error fault → E fault) :
    wp env O E (attempt value : Tx σ ε η κ ν μ α) post account gas logs := by
  cases value with
  | ok result => exact wp_pure (holds result rfl)
  | error fault => exact wp_fail (fails fault rfl)

/-! ### Rules of the meter -/

theorem wp_tick {post : Post σ η Unit}
    (fails : E .outOfGas) (holds : ∀ gas', Spends gas gas' → post () account gas' logs) :
    wp env O E (tick : Tx σ ε η κ ν μ Unit) post account gas logs := by
  rintro world rfl rfl
  unfold tick
  cases metered : world.gas with
  | none =>
    refine ⟨not_mem_nil_points, by rw [metered]; trivial, ?_⟩
    exact unlogged (holds world.gas (Spends.refl _))
  | some amount =>
    dsimp only
    split
    · have spent : Spends world.gas (some (amount - env.overhead world.ticks)) := by
        rw [metered]
        exact Nat.sub_le _ _
      exact ⟨not_mem_nil_points, metered ▸ spent, unlogged (holds _ spent)⟩
    · refine ⟨not_mem_nil_points, ?_, fails⟩
      rw [metered]
      exact Spends.refl _

theorem wp_compareGas {need : Nat} {fault : Fault ε}
    {post : Post σ η Unit} (fails : E fault)
    (passes : ∀ amount, gas = some amount → O ⟨.gasCheck need, account, some amount, 0⟩)
    (holds : (∀ amount, gas = some amount → need ≤ amount) → post () account gas logs) :
    wp env O E (compareGas need fault : Tx σ ε η κ ν μ Unit) post account gas logs := by
  rintro world rfl rfl
  unfold compareGas
  cases metered : world.gas with
  | none =>
    refine ⟨not_mem_nil_points, by rw [metered]; trivial, ?_⟩
    exact unlogged (holds fun amount at_ => by rw [metered] at at_; cases at_)
  | some amount =>
    refine ⟨fun point member => ?_, by rw [metered]; exact Nat.le_refl _, ?_⟩
    · rw [List.mem_singleton.mp member]
      exact passes amount metered
    · dsimp only
      split
      · exact fails
      · rename_i enough
        refine unlogged (holds fun other at_ => ?_)
        rw [metered] at at_
        cases at_
        exact Nat.le_of_not_lt enough

theorem wp_requireGas {need : Nat} {post : Post σ η Unit}
    (exhausted : E .outOfGas) (fails : E (.revert error))
    (passes : ∀ amount, Spends gas (some amount) → O ⟨.gasCheck need, account, some amount, 0⟩)
    (holds : ∀ gas', Spends gas gas' → (∀ amount, gas' = some amount → need ≤ amount) →
      post () account gas' logs) :
    wp env O E (requireGas need error : Tx σ ε η κ ν μ Unit) post account gas logs := by
  refine wp_bind (wp_tick exhausted fun gas' spent => ?_)
  refine wp_compareGas fails (fun amount at_ => ?_) (holds gas' spent)
  subst at_
  exact passes amount spent

theorem wp_mark {label : μ} {post : Post σ η Unit}
    (passes : ∀ amount, gas = some amount → O ⟨.mark label, account, some amount, 0⟩)
    (holds : post () account gas logs) :
    wp env O E (mark label : Tx σ ε η κ ν μ Unit) post account gas logs := by
  rintro world rfl rfl
  unfold mark
  cases metered : world.gas with
  | none =>
    exact ⟨not_mem_nil_points, by rw [metered]; trivial, unlogged holds⟩
  | some amount =>
    refine ⟨fun point member => ?_, by rw [metered]; exact Nat.le_refl _, unlogged holds⟩
    rw [List.mem_singleton.mp member]
    exact passes amount metered

theorem wp_spending {label : μ}
    (passes : ∀ spent account' gas', O ⟨.spent label spent, account', gas', 0⟩)
    (holds : wp env O E program post account gas logs) :
    wp env O E (spending label program) post account gas logs := by
  intro world atAccount atGas
  obtain ⟨points, spent, rest⟩ := holds world atAccount atGas
  unfold spending
  dsimp only
  split
  · refine ⟨fun point member => ?_, spent, rest⟩
    rcases List.mem_append.mp member with inner | last
    · exact points point inner
    · rw [List.mem_singleton.mp last]
      exact passes _ _ _
  · exact ⟨points, spent, rest⟩

/-! ### Rules of external calls -/

theorem wp_observe {read : ν → α}
    (holds : ∀ position, post (read (env.answer position).view) account gas logs) :
    wp env O E (observe read : Tx σ ε η κ ν μ α) post account gas logs := by
  rintro world rfl rfl
  exact ⟨not_mem_nil_points, Spends.refl _, unlogged (holds world.cursor)⟩

theorem wp_staticCall {target : Address} {limit : Option Nat}
    {post : Post σ η (Bool × ν)}
    (passes : ∀ forwarded, O ⟨.ask target limit forwarded, account, gas, 0⟩)
    (holds : ∀ position gas', Spends gas gas' →
      post ((env.answer position).success, (env.answer position).view) account gas' logs) :
    wp env O E (staticCall target limit : Tx σ ε η κ ν μ (Bool × ν)) post account gas logs := by
  rintro world rfl rfl
  have spent : Spends world.gas (world.gas.map fun amount =>
      amount - min (env.answer world.cursor).burn (forwardable amount limit)) :=
    spends_map fun amount => Nat.sub_le _ _
  refine ⟨fun point member => ?_, spent, unlogged (holds world.cursor _ spent)⟩
  rw [List.mem_singleton.mp member]
  exact passes _

theorem wp_frame {program : Tx σ ε η κ ν μ Unit} (inner : Fault ε → Prop)
    {post : Post σ η Unit}
    (holds : wp env O inner program post account gas logs)
    (recovers : ∀ fault gas', inner fault → Spends gas gas' →
      O ⟨.failed fault, account, gas', 0⟩ ∧ post () account gas' logs) :
    wp env O E (frame program) post account gas logs := by
  intro world atAccount atGas
  obtain ⟨points, spent, rest⟩ := holds world atAccount atGas
  unfold frame
  dsimp only
  cases result : (program env world).result with
  | ok =>
    rw [result] at rest
    dsimp only
    rw [result]
    exact ⟨points, spent, rest⟩
  | error fault =>
    rw [result] at rest
    obtain ⟨pointFailed, kept⟩ := recovers fault _ rest spent
    rw [← atAccount] at pointFailed kept
    refine ⟨fun point member => ?_, spent, unlogged kept⟩
    rcases List.mem_append.mp member with before | last
    · exact points point before
    · rw [List.mem_singleton.mp last]
      exact pointFailed

/-- What the calls made back into the contracts keep: each of them keeps `keeps` when it returns
and passes only points in `O`, one that fails fails with a fault in `inner`, and `keeps` does
not mind gas being spent. -/
structure Reenters (env : Env κ ν) (O : Point σ ε μ → Prop) (inner : Fault ε → Prop)
    (reenter : κ → Tx σ ε η κ ν μ Unit) (keeps : Account σ → Option Nat → List η → Prop) :
    Prop where
  each : ∀ call account gas logs, keeps account gas logs →
    wp env O inner (reenter call) (fun _ => keeps) account gas logs
  recovers : ∀ account gas logs fault, keeps account gas logs → inner fault →
    O ⟨.failed fault, account, gas, 0⟩
  spends : ∀ account gas gas' logs, keeps account gas logs → Spends gas gas' →
    keeps account gas' logs

theorem wp_reenterAll {reenter : κ → Tx σ ε η κ ν μ Unit}
    {keeps : Account σ → Option Nat → List η → Prop} {inner : Fault ε → Prop}
    (reenters : Reenters env O inner reenter keeps) (calls : List κ)
    (start : keeps account gas logs) :
    wp env O E (reenterAll reenter calls) (fun _ => keeps) account gas logs := by
  induction calls generalizing account gas logs with
  | nil => exact wp_pure start
  | cons call rest inductionHypothesis =>
    refine wp_bind (wp_frame inner
      (wp_mono (reenters.each call account gas logs start) ?_) ?_)
    · intro _ account' gas' logs' _ kept
      exact inductionHypothesis kept
    · intro fault gas' failed spent
      have kept := reenters.spends account gas gas' logs start spent
      exact ⟨reenters.recovers account gas' logs fault kept failed, inductionHypothesis kept⟩

/-- A call leaves the account as it was when it fails, and otherwise in a state that the calls
made back can reach from the account with the carried value taken out. -/
theorem wp_call {reenter : κ → Tx σ ε η κ ν μ Unit} {target : Address} {value : Nat}
    {limit : Option Nat} {post : Post σ η Bool}
    {keeps : Account σ → Option Nat → List η → Prop} {inner : Fault ε → Prop}
    (reenters : value ≤ account.balance → Reenters env O inner reenter keeps)
    (deepens : ∀ point, O point → O point.deeper)
    (passes : value ≤ account.balance → ∀ forwarded,
      O ⟨.call target value limit forwarded,
        { account with balance := account.balance - value }, gas, 0⟩)
    (start : value ≤ account.balance → ∀ gift,
      keeps { account with balance := account.balance - value + gift }
        ((gas.map fun amount => forwardable amount limit).map (· + stipend value)) logs)
    (fails : ∀ gas', Spends gas gas' → post false account gas' logs)
    (succeeds : ∀ account' gas' gas'' logs', value ≤ account.balance → Spends gas gas' →
      keeps account' gas'' logs' → post true account' gas' logs') :
    wp env O E (call reenter target value limit) post account gas logs := by
  rintro world rfl rfl
  unfold call
  dsimp only
  split
  · exact ⟨not_mem_nil_points, Spends.refl _, unlogged (fails _ (Spends.refl _))⟩
  · rename_i carried
    have funded : value ≤ world.account.balance := Nat.le_of_not_lt carried
    obtain ⟨points, -, rest⟩ := wp_reenterAll (E := fun _ => False) (reenters funded)
      (env.answer world.cursor).reentry (start funded (env.answer world.cursor).gift)
      { world with
        account := { world.account with
          balance := world.account.balance - value + (env.answer world.cursor).gift }
        cursor := world.cursor + 1
        gas := (world.gas.map fun amount => forwardable amount limit).map (· + stipend value) }
      rfl rfl
    have spent : ∀ after burn, Spends world.gas (meterAfter world.gas limit after burn) :=
      fun after burn => spends_map fun amount => gasAfter_le amount _ limit
    have passed : ∀ (inner : List (Point σ ε μ)), (∀ point ∈ inner, O point) → ∀ forwarded point,
        point ∈ (⟨.call target value limit forwarded,
          { world.account with balance := world.account.balance - value }, world.gas, 0⟩ :
          Point σ ε μ) :: inner.map Point.deeper → O point := by
      intro inner nested forwarded point member
      rcases List.mem_cons.mp member with first | later
      · rw [first]
        exact passes funded _
      · obtain ⟨original, within, rfl⟩ := List.mem_map.mp later
        exact deepens original (nested original within)
    unfold Settles at rest
    split at rest
    · split
      · exact ⟨passed _ points _, spent _ _, succeeds _ _ _ _ funded (spent _ _) rest⟩
      · exact ⟨passed _ points _, spent _ _, unlogged (fails _ (spent _ _))⟩
    · exact rest.elim

end Rules

end Tx

end Evm
