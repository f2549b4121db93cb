/-
This file shows that the programs of `Coordinator` take only steps of the
abstract machine, whatever the outside world answers.

Throughout, a transaction has started from a flow `start` in one block. `Reached`
says that the account and the events so far are a flow that steps lead to from
`start`, `Seen` what is required of every point that a run passes, and `Yields`
what is required of a call made back into the contract while it is locked: it
takes quiet steps only. The functions are proved from the inside out, and each
proof follows the source line by line.
-/

import D20Keeper.Flow
import D20Keeper.Wp

namespace D20

open Evm
open Relation (ReflTransGen)
open Tx (wp_bind wp_emit wp_write wp_storage wp_checked wp_pure wp_revert wp_mono wp_ite
  wp_requireGas)

variable {terms : Terms} {β χ κ : Type} {rules : Rules terms β χ} {context : Context}
  {start : Flow terms β χ}

/-! ### Where a run is -/

/-- The flow of an account in a transaction, after its events and with a surplus. -/
def here (context : Context) (start : Flow terms β χ) (account : Account (Coordinator terms β χ))
    (logs : List Event) (surplus : Int) : Flow terms β χ :=
  ⟨account.storage, account.balance,
    start.logs ++ logs.map fun event => (context.block, event), surplus⟩

theorem emit_here (account : Account (Coordinator terms β χ)) (logs events : List Event)
    (surplus : Int) :
    (here context start account logs surplus).emit context events =
      here context start account (logs ++ events) surplus := by
  unfold Flow.emit here
  simp only [List.map_append, List.append_assoc]

theorem Flow.emit_put (flow : Flow terms β χ) (store : Coordinator terms β χ)
    (events : List Event) :
    (flow.put store).emit context events = (flow.emit context events).put store := rfl

variable (rules)

/-- Steps lead from the start of the transaction to this account, these events and this
surplus. -/
def Reached (context : Context) (start : Flow terms β χ)
    (account : Account (Coordinator terms β χ)) (logs : List Event) (surplus : Int) : Prop :=
  Path rules context start (here context start account logs surplus)

/-- Quiet steps lead from a base to this account and these events. -/
def Stays (context : Context) (start base : Flow terms β χ)
    (account : Account (Coordinator terms β χ)) (logs : List Event) : Prop :=
  QuietPath rules context base (here context start account logs base.surplus)

/-- What every point of a run satisfies. At a call that hands control on, the account is a flow
whose surplus the value of the call makes up for. At a call under which nothing can change, the
account may also have a result recorded whose fee is not split yet. A nested call does not fail
by a subtraction below zero. -/
def Seen (context : Context) (start : Flow terms β χ)
    (point : Point (Coordinator terms β χ) Error Mark) : Prop :=
  match point.happening with
  | .call _ value _ _ => ∃ logs surplus,
      Reached rules context start point.account logs surplus ∧ 0 ≤ surplus + value
  | .ask .. => ∃ store logs surplus,
      Reached rules context start { point.account with storage := store } logs surplus ∧
      0 ≤ surplus ∧
      (point.account.storage = store ∨ ∃ requestId outturn,
        (store.requests requestId).isOpen = true ∧
          point.account.storage = Outturn.record store requestId outturn)
  | .failed fault => fault ≠ .panic .underflow
  | _ => True

variable {rules}

theorem Seen.deeper {point : Point (Coordinator terms β χ) Error Mark}
    (seen : Seen rules context start point) : Seen rules context start point.deeper := seen

/-- No subtraction falls below zero. -/
def Harmless (fault : Fault Error) : Prop := fault ≠ .panic .underflow

theorem harmless_revert (error : Error) : Harmless (.revert error) := by
  intro same
  cases same

theorem harmless_outOfGas : Harmless .outOfGas := by
  intro same
  cases same

variable {first second : Nat} {code : Panic}

/-- Every panic of a checked addition is an overflow. -/
theorem harmless_checkedAdd {width : Nat} (failed : checkedAdd width first second = .error code) :
    Harmless (.panic code) := by
  unfold checkedAdd at failed
  split at failed
  · cases failed
  · cases failed
    intro same
    cases same

/-- A checked subtraction of something smaller does not fail. -/
theorem harmless_checkedSub (small : second ≤ first)
    (failed : checkedSub first second = .error code) : Harmless (.panic code) := by
  rw [checkedSub_ok small] at failed
  cases failed

theorem harmless_checkedDiv (failed : checkedDiv first second = .error code) :
    Harmless (.panic code) := by
  unfold checkedDiv at failed
  split at failed
  · cases failed
    intro same
    cases same
  · cases failed

/-- A quote fails by a refusal or by an overflow. -/
theorem Pricing.quoteFeeAt_harmless {pricing : Pricing terms} {callbackGasLimit baseFee : Nat}
    {fault : Fault Error} (failed : pricing.quoteFeeAt callbackGasLimit baseFee = .error fault) :
    Harmless fault := by
  have overflows : ∀ {first second code}, checkedMul 256 first second = .error code →
      Harmless (.panic code) := by
    intro first second code failed
    unfold checkedMul at failed
    split at failed
    · cases failed
    · cases failed
      intro same
      cases same
  unfold Pricing.quoteFeeAt at failed
  split at failed
  · rename_i code multiplied
    cases failed
    exact overflows multiplied
  · split at failed
    · rename_i code multiplied
      cases failed
      exact overflows multiplied
    · split at failed
      · cases failed
        exact harmless_revert _
      · cases failed

theorem harmless_callDepth : Harmless .callDepth := by
  intro same
  cases same

/-- While a payment is in progress whose amount is still booked, the callee has too little gas to
make the contract ask anyone anything. -/
def Lenient (surplus : Int) (gas : Option Nat) : Prop :=
  0 ≤ surplus ∨ ∃ amount, gas = some amount ∧ amount ≤ 32300

theorem Lenient.spends {surplus : Int} {gas gas' : Option Nat} (lenient : Lenient surplus gas)
    (spent : Spends gas gas') : Lenient surplus gas' := by
  rcases lenient with positive | ⟨amount, rfl, small⟩
  · exact .inl positive
  · cases gas' with
    | none => exact spent.elim
    | some left => exact .inr ⟨left, rfl, Nat.le_trans spent small⟩

/-- Calls made back into the locked contract take quiet steps only. -/
def Yields (rules : Rules terms β χ) (context : Context) (start : Flow terms β χ)
    (env : Env κ Views) (reenter : κ → Program terms β χ κ Unit) : Prop :=
  ∀ base : Flow terms β χ, Path rules context start base → base.store.entered = true →
    Tx.Reenters env (Seen rules context start) Harmless reenter fun account gas logs =>
      Stays rules context start base account logs ∧ Lenient base.surplus gas

/-! ### Steps of a run -/

section Reached

variable {account : Account (Coordinator terms β χ)} {logs : List Event} {surplus : Int}
  {amount requestId : Nat} {events : List Event}

theorem Reached.fulfill {store : Coordinator terms β χ}
    (reached : Reached rules context start { account with storage := store } logs surplus)
    {outturn : Outturn} (known : (store.requests requestId).consumer ≠ 0)
    (pending : (store.requests requestId).isOpen = true)
    (inTime : context.block.timestamp ≤ (store.requests requestId).deadline)
    (accepted : rules.accept context store requestId outturn.proof outturn.randomness
      outturn.transcriptHash)
    (hashed : outturn.proofHash = context.platform.keccak256 outturn.proof.encode) :
    Reached rules context start { account with storage := outturn.apply store requestId }
      (logs ++ outturn.events store requestId)
      (surplus + Outturn.keeperAmount store requestId) := by
  have stepped := ReflTransGen.tail reached
    (.fulfill _ requestId outturn known pending inTime accepted hashed)
  rw [Flow.emit_put, emit_here] at stepped
  exact stepped

/-- With no value to book, nothing is left over. -/
theorem Reached.unpaid (reached : Reached rules context start account logs amount)
    (zero : ¬ amount ≠ 0) : Reached rules context start account logs 0 := by
  rw [not_not] at zero
  rw [zero] at reached
  exact reached

variable (reached : Reached rules context start account logs surplus)

include reached

theorem Reached.guard (entered : Bool) :
    Reached rules context start
      { account with storage := { account.storage with entered := entered } } logs surplus :=
  ReflTransGen.tail reached (.guard _ entered)

theorem Reached.receive (amount : Nat) :
    Reached rules context start { account with balance := account.balance + amount } logs
      (surplus + amount) :=
  ReflTransGen.tail reached (.receive _ amount)

theorem Reached.send (funded : amount ≤ account.balance) :
    Reached rules context start { account with balance := account.balance - amount } logs
      (surplus - amount) :=
  ReflTransGen.tail reached (.send _ amount funded)

theorem Reached.report (event : Event) (reports : event.reports = true) :
    Reached rules context start account (logs ++ [event]) surplus := by
  unfold Reached
  rw [← emit_here]
  exact ReflTransGen.tail reached (.report _ event reports)

theorem Reached.deliver (requestId : Nat) (success : Bool)
    (fulfilled : (account.storage.requests requestId).fulfilled = true)
    (undelivered : (account.storage.requests requestId).delivered = false) :
    Reached rules context start
      { account with storage := account.storage.setRequest requestId fun r =>
        { r with delivered := success } } logs surplus :=
  ReflTransGen.tail reached (.deliver _ requestId success fulfilled undelivered)

theorem Reached.refundDelivered
    (requestId : Nat) (refunded : (account.storage.requests requestId).refunded = true) :
    Reached rules context start
      { account with storage := { account.storage with
        refundCallbackDelivered :=
          Function.update account.storage.refundCallbackDelivered requestId true } } logs surplus :=
  ReflTransGen.tail reached (.refundDelivered _ requestId refunded)

theorem Reached.creditKeeper (keeper : Address) (amount : Nat) :
    Reached rules context start
      { account with storage := account.storage.addKeeperCredit keeper amount } logs
      (surplus - amount) :=
  ReflTransGen.tail reached (.creditKeeper _ keeper amount)

theorem Reached.refund (known : (account.storage.requests requestId).consumer ≠ 0)
    (pending : (account.storage.requests requestId).isOpen = true)
    (late : (account.storage.requests requestId).deadline < context.block.timestamp) :
    Reached rules context start
      { account with storage := refunded account.storage requestId } logs surplus :=
  ReflTransGen.tail reached (.refund _ requestId known pending late)

theorem Reached.takeRefundCredit
    {recipient : Address} (credited : amount ≤ account.storage.refundCredits recipient) :
    Reached rules context start
      { account with storage := account.storage.subRefundCredit recipient amount } logs
      (surplus + amount) :=
  ReflTransGen.tail reached (.takeRefundCredit _ recipient amount credited)

theorem Reached.takeKeeperCredit
    {recipient : Address} (credited : amount ≤ account.storage.keeperCredits recipient) :
    Reached rules context start
      { account with storage := account.storage.subKeeperCredit recipient amount } logs
      (surplus + amount) :=
  ReflTransGen.tail reached (.takeKeeperCredit _ recipient amount credited)

theorem Reached.takeFees :
    Reached rules context start
      { account with storage := { account.storage with earnedFees := 0 } } logs
      (surplus + account.storage.earnedFees) :=
  ReflTransGen.tail reached (.takeFees _)

theorem Reached.create {creation : Creation β} (paid : creation.fee ≤ creation.msg.value)
    (small : creation.fee < 2 ^ 96)
    (assigned : rules.assign context account.storage.ext account.storage.nextRequestId
      (account.storage.requests account.storage.nextRequestId).binding
      (creation.bind (account.storage.requests account.storage.nextRequestId).binding) events) :
    Reached rules context start
      { account with storage := creation.apply context account.storage }
      (logs ++ (creation.events context account.storage ++ events))
      (surplus - creation.msg.value) := by
  have stepped := ReflTransGen.tail reached
    (.create _ creation events paid small assigned)
  rw [Flow.emit_put, emit_here] at stepped
  exact stepped

theorem Reached.rebind {binding : β}
    (allowed : rules.rebind context account.storage requestId binding events) :
    Reached rules context start
      { account with storage := account.storage.setRequest requestId fun r =>
        { r with binding := binding } } (logs ++ events) surplus := by
  have stepped := ReflTransGen.tail reached
    (.rebind _ requestId binding events allowed)
  rw [Flow.emit_put, emit_here] at stepped
  exact stepped

theorem Reached.stays {after : Account (Coordinator terms β χ)} {logs' : List Event}
    (stays : Stays rules context start (here context start account logs surplus) after logs') :
    Reached rules context start after logs' surplus :=
  ReflTransGen.trans reached stays.path

theorem Reached.evolve (ext : χ) (allowed : rules.evolve context account.storage.ext ext events) :
    Reached rules context start { account with storage := { account.storage with ext := ext } }
      (logs ++ events) surplus := by
  have stepped := ReflTransGen.tail reached (.quiet (.evolve _ ext events allowed))
  rw [Flow.emit_put, emit_here] at stepped
  exact stepped

omit reached

theorem Stays.refl : Stays rules context start (here context start account logs surplus) account
    logs :=
  ReflTransGen.refl

variable {base : Flow terms β χ} (stays : Stays rules context start base account logs)

include stays

theorem Stays.undisturbed :
    Undisturbed base.store account.storage :=
  (QuietPath.undisturbed stays).1

theorem Stays.gift (amount : Nat) :
    Stays rules context start base { account with balance := account.balance + amount } logs :=
  ReflTransGen.tail stays (.gift _ amount)

theorem Stays.configure (setting : Setting terms) :
    Stays rules context start base { account with storage := setting.apply account.storage }
      (logs ++ [setting.event account.storage]) := by
  unfold Stays
  rw [← emit_here]
  exact ReflTransGen.tail stays (.configure _ setting)

theorem Stays.evolve (ext : χ) (allowed : rules.evolve context account.storage.ext ext events) :
    Stays rules context start base { account with storage := { account.storage with ext := ext } }
      (logs ++ events) := by
  unfold Stays
  rw [← emit_here]
  exact ReflTransGen.tail stays (.evolve _ ext events allowed)

end Reached

/-- The weakest precondition with the requirements of this file. -/
abbrev Runs {α : Type} (rules : Rules terms β χ) (context : Context) (start : Flow terms β χ)
    (env : Env κ Views) (program : Program terms β χ κ α)
    (post : Tx.Post (Coordinator terms β χ) Event α)
    (account : Account (Coordinator terms β χ)) (gas : Option Nat) (logs : List Event) : Prop :=
  Tx.wp env (Seen rules context start) Harmless program post account gas logs

section Posts

variable {α : Type} (rules) (context) (start) (env : Env κ Views) (program : Program terms β χ κ α)

/-- The program takes quiet steps from a base. -/
abbrev RunsStays (base : Flow terms β χ) :=
  Runs rules context start env program fun _ account' _ logs' =>
    Stays rules context start base account' logs'

/-- The program leaves nothing taken out that is still booked. -/
abbrev RunsReached :=
  Runs rules context start env program fun _ account' _ logs' =>
    Reached rules context start account' logs' 0

end Posts

/-- A check that refuses, before the rest of a program. -/
theorem wp_check {σ κ α : Type} {env : Env κ Views} {O : Point σ Error Mark → Prop}
    {condition : Prop} [Decidable condition] {error : Error} {next : Unit → CoordinatorTx σ κ α}
    {post : Tx.Post σ Event α} {account : Account σ}
    {gas : Option Nat} {logs : List Event}
    (holds : ¬ condition → Tx.wp env O Harmless (next ()) post account gas logs) :
    Tx.wp env O Harmless (Tx.revertIf condition error >>= next) post account gas logs :=
  wp_bind (Tx.wp_revertIf (fun _ => harmless_revert _) holds)

/-! ### Calling out -/

section Rules

variable {env : Env κ Views} {reenter : κ → Program terms β χ κ Unit}
  {account : Account (Coordinator terms β χ)} {gas : Option Nat} {logs : List Event}
  {surplus : Int}

/-- A call from the locked contract. Either what it carries was set aside before, or the callee
gets so little gas that it cannot make the contract call out again. -/
theorem wp_callOut {target : Address} {value : Nat} {limit : Option Nat}
    {post : Tx.Post (Coordinator terms β χ) Event Bool}
    (yields : Yields rules context start env reenter)
    (reached : Reached rules context start account logs surplus)
    (entered : account.storage.entered = true) (covered : 0 ≤ surplus)
    (lenient : value ≤ surplus ∨ (∃ amount, gas = some amount) ∧ limit = some 30000)
    (fails : ∀ gas', Spends gas gas' → post false account gas' logs)
    (succeeds : ∀ account' gas' logs', Spends gas gas' →
      Undisturbed account.storage account'.storage →
      Reached rules context start account' logs' (surplus - value) →
      post true account' gas' logs') :
    Runs rules context start env (Tx.call reenter target value limit) post account gas logs := by
  refine Tx.wp_call
    (fun funded => yields
      (here context start { account with balance := account.balance - value } logs
        (surplus - value)) (reached.send funded) entered)
    (fun _ => Seen.deeper) (fun funded forwarded => ?_) (fun funded gift => ?_) fails ?_
  · exact ⟨logs, surplus - value, reached.send funded, by omega⟩
  · refine ⟨ReflTransGen.single (.gift _ gift), ?_⟩
    rcases lenient with small | ⟨⟨amount, metered⟩, limited⟩
    · exact .inl (by show 0 ≤ surplus - value; omega)
    · refine .inr ⟨_, by rw [metered]; rfl, ?_⟩
      have handed := forwardable_le_limit amount 30000
      rw [limited]
      show forwardable amount (some 30000) + Tx.stipend value ≤ 32300
      unfold Tx.stipend
      split <;> omega
  · rintro account' gas' gas'' logs' funded spent ⟨stays, -⟩
    exact succeeds account' gas' logs' spent stays.undisturbed ((reached.send funded).stays stays)

/-- Where a guarded function is between two lines: a flow with the lock on. -/
def Inside (rules : Rules terms β χ) (context : Context) (start : Flow terms β χ)
    (surplus : Int) (account : Account (Coordinator terms β χ)) (logs : List Event) : Prop :=
  Reached rules context start account logs surplus ∧ account.storage.entered = true

/-- The program leaves the lock on. -/
abbrev RunsInside {α : Type} (rules : Rules terms β χ) (context : Context)
    (start : Flow terms β χ) (env : Env κ Views) (program : Program terms β χ κ α)
    (surplus : Int) :=
  Runs rules context start env program fun _ account' _ logs' =>
    Inside rules context start surplus account' logs'

variable {requestId gasLimit : Nat} {recipient : Address}

variable (store : Coordinator terms β χ)

/-- The record of a request whose result was just settled. -/
theorem requests_apply (requestId : Nat) (outturn : Outturn) :
    (Outturn.apply store requestId outturn).requests requestId =
      (store.requests requestId).withResult outturn.randomness outturn.proofHash
        outturn.transcriptHash :=
  Function.update_self _ _ _

/-- The record of a request that was just refunded. -/
theorem requests_refunded (requestId : Nat) :
    ((refunded store requestId).requests requestId) =
      { store.requests requestId with refunded := true } :=
  Function.update_self _ _ _

/-- The credit of a refund covers it. -/
theorem refundCredits_refunded (requestId : Nat) :
    (refunded store requestId).refundCredits (store.requests requestId).refundAddress =
      store.refundCredits (store.requests requestId).refundAddress +
        (store.requests requestId).refundBps.refundShare (store.requests requestId).feePaid :=
  Function.update_self _ _ _

theorem isOpen_of_pending {r : StoredRequest β} (unfulfilled : ¬ r.fulfilled = true)
    (unrefunded : ¬ r.refunded = true) : r.isOpen = true := by
  unfold StoredRequest.isOpen
  rw [Bool.eq_false_iff.mpr unfulfilled, Bool.eq_false_iff.mpr unrefunded]
  rfl

/-- A batch member that is not skipped is open and in time. -/
theorem of_skipReason_eq_zero {block : Block} {r : StoredRequest β}
    (served : skipReason block r = 0) : r.isOpen = true ∧ block.timestamp ≤ r.deadline := by
  unfold skipReason at served
  split at served
  · cases served
  · rename_i unfulfilled
    split at served
    · cases served
    · rename_i unrefunded
      split at served
      · cases served
      · rename_i inTime
        exact ⟨isOpen_of_pending unfulfilled unrefunded, Nat.le_of_not_lt inTime⟩

/-! ### Guarded functions -/

/-- A guarded function on a contract that is not locked. -/
theorem wp_nonReentrant {body : Program terms β χ κ Unit}
    (reached : Reached rules context start account logs surplus)
    (runs : Inside rules context start surplus
        { account with storage := { account.storage with entered := true } } logs →
      RunsInside rules context start env body 0
      { account with storage := { account.storage with entered := true } } gas logs) :
    RunsReached rules context start env (nonReentrant body) account gas logs := by
  refine wp_bind (wp_storage ?_)
  refine wp_check fun _ => ?_
  refine wp_bind (wp_write ?_)
  refine wp_bind (wp_mono (runs ⟨reached.guard true, rfl⟩) ?_)
  intro _ account' gas' logs' _ inside
  exact wp_write (inside.1.guard false)

/-- A guarded function on a locked contract fails. -/
theorem wp_nonReentrant_locked {body : Program terms β χ κ Unit}
    {post : Tx.Post (Coordinator terms β χ) Event Unit}
    (entered : account.storage.entered = true) :
    Runs rules context start env (nonReentrant body) post account gas logs := by
  refine wp_bind (wp_storage ?_)
  exact wp_check fun unlocked =>
    absurd entered unlocked

theorem wp_request
    {post : Tx.Post (Coordinator terms β χ) Event (StoredRequest β)}
    (holds : (account.storage.requests requestId).consumer ≠ 0 →
      post (account.storage.requests requestId) account gas logs) :
    Runs rules context start env (request requestId) post account gas logs := by
  refine wp_bind (wp_storage ?_)
  refine wp_check fun known => ?_
  exact wp_pure (holds known)

theorem wp_checkGasLimit
    {post : Tx.Post (Coordinator terms β χ) Event Unit}
    (holds : post () account gas logs) :
    Runs rules context start env (checkGasLimit gasLimit) post account gas logs :=
  Tx.wp_revertIf (fun _ => harmless_revert _) fun _ => holds

/-! ### Calling out from a guarded function -/

section

variable (yields : Yields rules context start env reenter)

include yields

theorem wp_deliver (inside : Inside rules context start surplus account logs) (covered : 0 ≤ surplus)
    (fulfilled : (account.storage.requests requestId).fulfilled = true)
    (undelivered : (account.storage.requests requestId).delivered = false) :
    RunsInside rules context start env (deliver reenter requestId gasLimit) surplus account gas
      logs := by
  obtain ⟨reached, entered⟩ := inside
  refine wp_bind (wp_storage ?_)
  refine wp_bind (Tx.wp_observe fun position => ?_)
  refine wp_ite (fun uncoded => ?_) (fun coded => ?_)
  · exact wp_emit ⟨reached.report _ rfl, entered⟩
  refine wp_bind (wp_requireGas harmless_outOfGas (harmless_revert _)
    (fun amount spent => trivial) fun gas' spent enough => ?_)
  refine wp_bind (Tx.wp_tick harmless_outOfGas fun gas'' spent' => ?_)
  refine wp_bind (Tx.wp_spending (fun _ _ _ => trivial) ?_)
  refine wp_callOut yields reached entered covered (.inl (by simpa using covered)) ?_ ?_
  · intro gas''' _
    refine wp_bind (wp_write (wp_emit ?_))
    exact ⟨(reached.deliver requestId false fulfilled undelivered).report _ rfl, entered⟩
  · intro account' gas''' logs' _ undisturbed reached'
    have same := congrFun undisturbed.requests requestId
    refine wp_bind (wp_write (wp_emit ⟨?_, ?_⟩))
    · have delivered := reached'.deliver requestId true (by rw [same, fulfilled])
        (by rw [same, undelivered])
      simpa using delivered.report _ rfl
    · exact undisturbed.entered.trans entered

theorem wp_deliverRefund {consumer : Address}
    (inside : Inside rules context start surplus account logs) (covered : 0 ≤ surplus)
    (refunded : (account.storage.requests requestId).refunded = true) :
    RunsInside rules context start env (deliverRefund reenter requestId consumer gasLimit) surplus
      account gas logs := by
  obtain ⟨reached, entered⟩ := inside
  refine wp_bind (wp_requireGas harmless_outOfGas (harmless_revert _)
    (fun amount spent => trivial) fun gas' spent enough => ?_)
  refine wp_bind (wp_callOut yields reached entered covered (.inl (by simpa using covered)) ?_ ?_)
  · intro gas'' _
    exact wp_emit ⟨reached.report _ rfl, entered⟩
  · intro account' gas'' logs' _ undisturbed reached'
    have same := congrFun undisturbed.requests requestId
    refine wp_bind (wp_write (wp_emit ⟨?_, undisturbed.entered.trans entered⟩))
    have delivered := reached'.refundDelivered requestId (by rw [same, refunded])
    simpa using delivered.report _ rfl

theorem wp_payKeeper {keeper : Address} {amount : Nat}
    (inside : Inside rules context start (surplus + amount) account logs) (covered : 0 ≤ surplus) :
    RunsInside rules context start env (payKeeper reenter requestId keeper amount) surplus account
      gas logs := by
  obtain ⟨reached, entered⟩ := inside
  refine wp_ite (fun nonzero => ?_) fun zero => ?_
  · refine wp_bind (Tx.wp_tick harmless_outOfGas fun gas' _ => ?_)
    refine wp_bind (wp_callOut yields reached entered (by omega) (.inl (by omega)) ?_ ?_)
    · intro gas'' _
      refine wp_bind (wp_storage ?_)
      refine wp_bind (wp_checked (fun _ _ => ?_) fun _ => harmless_checkedAdd)
      refine wp_bind (wp_checked (fun _ _ => ?_) fun _ => harmless_checkedAdd)
      refine wp_bind (wp_write (wp_emit ⟨?_, entered⟩))
      have credited := reached.creditKeeper keeper amount
      rw [Int.add_sub_cancel] at credited
      exact credited.report _ rfl
    · intro account' gas'' logs' _ undisturbed reached'
      refine wp_emit ⟨?_, undisturbed.entered.trans entered⟩
      rw [Int.add_sub_cancel] at reached'
      exact reached'.report _ rfl
  · have none : amount = 0 := by
      by_contra nonzero
      exact zero nonzero
    subst none
    exact wp_pure ⟨by simpa using reached, entered⟩

/-- `_fulfill` from the recorded result on. -/
theorem wp_settle [Inhabited β] {sender keeper : Address} {proof : Proof}
    {store : Coordinator terms β χ} (outturn : Outturn)
    (order : InOrder rules start.store)
    (reached : Reached rules context start { account with storage := store } logs surplus)
    (recorded : account.storage = Outturn.record store requestId outturn)
    (entered : store.entered = true) (covered : 0 ≤ surplus)
    (known : (store.requests requestId).consumer ≠ 0)
    (pending : (store.requests requestId).isOpen = true)
    (inTime : context.block.timestamp ≤ (store.requests requestId).deadline)
    (accepted : rules.accept context store requestId outturn.proof outturn.randomness
      outturn.transcriptHash)
    (hashed : outturn.proofHash = context.platform.keccak256 outturn.proof.encode)
    (sameProof : proof = outturn.proof) (sameSender : sender = outturn.sender) :
    RunsInside rules context start env (settle reenter sender keeper requestId proof) surplus
      account gas logs := by
  subst sameProof sameSender
  obtain ⟨stored, balance⟩ := account
  obtain rfl : stored = _ := recorded
  have inside : Inside rules context start (surplus + Outturn.keeperAmount store requestId)
      ⟨outturn.apply store requestId, balance⟩ (logs ++ outturn.events store requestId) :=
    ⟨reached.fulfill known pending inTime accepted hashed, entered⟩
  have fulfilled : ((outturn.apply store requestId).requests requestId).fulfilled = true := by
    rw [requests_apply]
    rfl
  have undelivered : ((outturn.apply store requestId).requests requestId).delivered = false := by
    rw [requests_apply]
    by_contra delivered
    have ready := (order.path reached).delivered requestId (Bool.not_eq_false _ ▸ delivered)
    exact isOpen_of_fulfilled ready pending
  refine wp_bind (wp_storage ?_)
  rw [show (Outturn.record store requestId outturn).requests requestId = _ from
    Function.update_self _ _ _]
  refine wp_bind (wp_checked (fun kept keptIs => ?_) fun code failed =>
    harmless_checkedSub (BasisPoints.keeperShare_le _ _) failed)
  obtain ⟨rfl, -⟩ := checkedSub_eq_ok keptIs
  refine wp_bind (wp_checked (fun _ _ => ?_) fun _ => harmless_checkedAdd)
  refine wp_bind (wp_checked (fun index indexIs => ?_) fun _ => harmless_checkedAdd)
  obtain ⟨rfl, -⟩ := checkedAdd_eq_ok indexIs
  refine wp_bind (wp_write ?_)
  refine wp_bind (wp_emit (wp_bind (wp_emit (wp_bind (wp_emit ?_)))))
  refine wp_bind (wp_check fun _ => ?_)
  refine wp_emit (wp_bind (wp_mono ?_ fun _ account' gas' logs' _ delivered =>
    wp_payKeeper yields delivered covered))
  simp only [List.append_assoc, List.cons_append, List.nil_append]
  exact wp_deliver yields inside (by omega) fulfilled undelivered

theorem wp_retryCallback (reached : Reached rules context start account logs 0) :
    RunsReached rules context start env (retryCallback reenter requestId gasLimit) account gas
      logs := by
  refine wp_nonReentrant reached fun inside => ?_
  refine wp_bind (wp_request fun _ => ?_)
  refine wp_check fun fulfilled => ?_
  refine wp_check fun undelivered => ?_
  refine wp_bind (wp_checkGasLimit ?_)
  refine wp_check fun _ => ?_
  exact wp_deliver yields inside (Int.le_refl 0) (Bool.not_eq_false _ ▸ fulfilled)
    (Bool.not_eq_true _ ▸ undelivered)

theorem wp_retryRefundCallback
    (reached : Reached rules context start account logs 0) :
    RunsReached rules context start env (retryRefundCallback reenter requestId gasLimit) account
      gas logs := by
  refine wp_nonReentrant reached fun inside => ?_
  refine wp_bind (wp_request fun _ => ?_)
  refine wp_check fun refunded => ?_
  refine wp_bind (wp_storage ?_)
  refine wp_check fun _ => ?_
  refine wp_bind (wp_checkGasLimit ?_)
  refine wp_check fun _ => ?_
  exact wp_deliverRefund yields inside (Int.le_refl 0) (Bool.not_eq_false _ ▸ refunded)

theorem wp_refundRequest
    (reached : Reached rules context start account logs 0) (metered : ∃ amount, gas = some amount) :
    RunsReached rules context start env (refundRequest context reenter requestId) account gas logs := by
  refine wp_nonReentrant reached fun ⟨locked, entered⟩ => ?_
  refine wp_bind (wp_request fun known => ?_)
  refine wp_check fun pending => ?_
  rw [not_or, not_or] at pending
  have isOpen := isOpen_of_pending pending.1 pending.2.1
  have late := Nat.lt_of_not_le pending.2.2
  refine wp_bind (wp_storage ?_)
  refine wp_bind (wp_checked (fun kept keptIs => ?_) fun code failed =>
    harmless_checkedSub (BasisPoints.refundShare_le _ _) failed)
  obtain ⟨rfl, -⟩ := checkedSub_eq_ok keptIs
  refine wp_bind (wp_checked (fun _ _ => ?_) fun _ => harmless_checkedAdd)
  refine wp_bind (wp_checked (fun _ _ => ?_) fun _ => harmless_checkedAdd)
  refine wp_bind (wp_checked (fun _ _ => ?_) fun _ => harmless_checkedAdd)
  refine wp_bind (wp_write ?_)
  have booked := locked.refund known isOpen late
  refine wp_bind (wp_requireGas harmless_outOfGas (harmless_revert _)
    (fun amount spent => trivial) fun gas' spent _ => ?_)
  have metered' : ∃ amount, gas' = some amount := by
    obtain ⟨amount, rfl⟩ := metered
    cases gas' with
    | none => exact spent.elim
    | some left => exact ⟨left, rfl⟩
  refine wp_bind (wp_callOut yields booked entered (Int.le_refl 0) (.inr ⟨metered', rfl⟩) ?_ ?_)
  · intro gas'' _
    refine wp_bind (wp_emit ?_)
    refine wp_deliverRefund yields ⟨booked.report _ rfl, entered⟩ (Int.le_refl 0) ?_
    exact congrArg StoredRequest.refunded (requests_refunded _ _)
  · intro account' gas'' logs' _ undisturbed paid
    have credited := Nat.le_of_add_left_le ((congrFun undisturbed.refundCredits _).trans
      (refundCredits_refunded { account.storage with entered := true } requestId)).ge
    have total := Nat.le_of_add_left_le undisturbed.totalRefundCredits.ge
    refine wp_bind (wp_storage ?_)
    refine wp_bind (wp_checked (fun _ _ => ?_) fun _ => harmless_checkedSub credited)
    refine wp_bind (wp_checked (fun _ _ => ?_) fun _ => harmless_checkedSub total)
    refine wp_bind (wp_write (wp_bind (wp_emit ?_)))
    have settled := paid.takeRefundCredit credited
    rw [Int.sub_add_cancel] at settled
    refine wp_deliverRefund yields ⟨settled.report _ rfl, undisturbed.entered.trans entered⟩
      (Int.le_refl 0) ?_
    exact congrArg StoredRequest.refunded
      ((congrFun undisturbed.requests requestId).trans (requests_refunded _ _))

/-- The end of a withdrawal: the amount was taken from the books, and goes out or the call
fails. -/
theorem wp_withdraw {amount : Nat} {event : Event}
    (inside : Inside rules context start amount account logs) (reports : event.reports = true) :
    RunsInside rules context start env
      (do
        let success ← Tx.call reenter recipient amount none
        Tx.revertIf (success = false) .transferFailed
        Tx.emit event) 0 account gas logs := by
  obtain ⟨reached, entered⟩ := inside
  refine wp_bind (wp_callOut yields reached entered (by omega) (.inl (Int.le_refl _)) ?_ ?_)
  · intro gas' _
    exact wp_check fun sent => absurd rfl sent
  · intro account' gas' logs' _ undisturbed sent
    refine wp_check fun _ => wp_emit ?_
    rw [Int.sub_self] at sent
    exact ⟨sent.report event reports, undisturbed.entered.trans entered⟩

theorem wp_withdrawRefundCredit [Inhabited β] {sender : Address} (order : InOrder rules start.store)
    (reached : Reached rules context start account logs 0) :
    RunsReached rules context start env (withdrawRefundCredit reenter sender recipient) account
      gas logs := by
  refine wp_nonReentrant reached fun ⟨locked, entered⟩ => ?_
  refine wp_check fun _ => ?_
  refine wp_bind (wp_storage ?_)
  refine wp_check fun _ => ?_
  refine wp_bind (wp_checked (fun _ _ => ?_) fun _ =>
    harmless_checkedSub ((order.path locked).refundCredit_le sender))
  refine wp_bind (wp_write ?_)
  have taken := locked.takeRefundCredit (Nat.le_refl (account.storage.refundCredits sender))
  rw [Int.zero_add] at taken
  exact wp_withdraw yields ⟨taken, entered⟩ rfl

theorem wp_withdrawFees {sender : Address}
    (reached : Reached rules context start account logs 0) :
    RunsReached rules context start env (withdrawFees reenter sender recipient) account gas logs := by
  refine wp_nonReentrant reached fun ⟨locked, entered⟩ => ?_
  refine wp_bind (wp_storage ?_)
  refine wp_check fun _ => ?_
  refine wp_check fun _ => ?_
  refine wp_bind (wp_write ?_)
  have taken := locked.takeFees
  rw [Int.zero_add] at taken
  exact wp_withdraw yields ⟨taken, entered⟩ rfl

theorem wp_withdrawKeeperCredit [Inhabited β] {sender : Address} (order : InOrder rules start.store)
    (reached : Reached rules context start account logs 0) :
    RunsReached rules context start env (withdrawKeeperCredit reenter sender recipient) account
      gas logs := by
  refine wp_nonReentrant reached fun ⟨locked, entered⟩ => ?_
  refine wp_check fun _ => ?_
  refine wp_bind (wp_storage ?_)
  refine wp_check fun _ => ?_
  refine wp_bind (wp_checked (fun _ _ => ?_) fun _ =>
    harmless_checkedSub ((order.path locked).keeperCredit_le sender))
  refine wp_bind (wp_write ?_)
  have taken := locked.takeKeeperCredit (Nat.le_refl (account.storage.keeperCredits sender))
  rw [Int.zero_add] at taken
  exact wp_withdraw yields ⟨taken, entered⟩ rfl

end

/-! ### Creating a request -/

theorem wp_checkRequest {msg : Msg} {callbackGasLimit : Nat} {refundAddress : Address}
    {spec : RandomnessMapping.Spec}
    {post : Tx.Post (Coordinator terms β χ) Event Nat}
    (holds : ∀ fee, fee ≤ msg.value → fee < 2 ^ 96 → post fee account gas logs) :
    Runs rules context start env (checkRequest context msg callbackGasLimit refundAddress spec) post
      account gas logs := by
  refine wp_bind (Tx.wp_observe fun position => ?_)
  refine wp_check fun _ => ?_
  refine wp_check fun _ => ?_
  refine wp_bind (wp_checkGasLimit ?_)
  refine wp_bind (wp_storage ?_)
  refine wp_bind (Tx.wp_attempt (fun fee quoted => ?_) fun _ => Pricing.quoteFeeAt_harmless)
  refine wp_check fun paid => ?_
  refine wp_check fun _ => ?_
  exact wp_pure (holds fee (Nat.le_of_not_lt paid) (Pricing.quoteFeeAt_lt quoted))

/-- The request is stored and its first events are emitted; `events` are those its binding adds
afterwards. -/
theorem wp_createRequest (creation : Creation β) (events : List Event)
    (inside : Inside rules context start creation.msg.value account logs)
    (paid : creation.fee ≤ creation.msg.value) (small : creation.fee < 2 ^ 96)
    (assigned : rules.assign context account.storage.ext account.storage.nextRequestId
      (account.storage.requests account.storage.nextRequestId).binding
      (creation.bind (account.storage.requests account.storage.nextRequestId).binding) events) :
    Runs rules context start env
      (createRequest context creation.msg creation.clientSeed creation.callbackGasLimit
        creation.refundAddress creation.spec creation.stored creation.fee
        (context.block.number % 2 ^ 64) creation.bind)
      (fun requestId account' _ logs' => requestId = account.storage.nextRequestId ∧
        Inside rules context start 0 account' (logs' ++ events)) account gas logs := by
  have created := inside.1.create paid small assigned
  rw [Int.sub_self] at created
  unfold Creation.apply Creation.events at created
  dsimp only at created
  refine wp_bind (wp_storage ?_)
  refine wp_bind (wp_checked (fun _ _ => ?_) fun _ => harmless_checkedAdd)
  refine wp_bind (wp_write ?_)
  refine wp_bind (wp_checked (fun excess excessIs => ?_) fun _ => harmless_checkedSub paid)
  obtain ⟨rfl, -⟩ := checkedSub_eq_ok excessIs
  refine wp_ite (fun nonzero => ?_) fun zero => ?_
  · have overpaid : creation.excess ≠ 0 := nonzero
    rw [if_neg overpaid, if_neg overpaid] at created
    refine wp_bind (wp_checked (fun _ _ => ?_) fun _ => harmless_checkedAdd)
    refine wp_bind (wp_checked (fun _ _ => ?_) fun _ => harmless_checkedAdd)
    refine wp_bind (wp_write (wp_bind (wp_emit (wp_bind (wp_emit ?_)))))
    refine wp_bind (wp_emit (wp_pure ⟨rfl, ?_, inside.2⟩))
    simp only [List.append_assoc, List.cons_append, List.nil_append] at created ⊢
    exact created
  · have exactly : creation.excess = 0 := not_not.mp zero
    rw [if_pos exactly, if_pos exactly] at created
    refine wp_bind (wp_emit (wp_bind (wp_emit (wp_pure ⟨rfl, ?_, inside.2⟩))))
    simp only [List.append_assoc, List.cons_append, List.nil_append] at created ⊢
    exact created

/-! ### Settings -/

section Settings

variable {base : Flow terms β χ} {sender : Address}

theorem wp_onlyOwner {body : Program terms β χ κ Unit}
    {post : Tx.Post (Coordinator terms β χ) Event Unit}
    (runs : Runs rules context start env body post account gas logs) :
    Runs rules context start env (onlyOwner sender body) post account gas logs := by
  refine wp_bind (wp_storage ?_)
  exact wp_check fun _ => runs

theorem wp_renounceOwnership
    {post : Tx.Post (Coordinator terms β χ) Event Unit} :
    Runs rules context start env (renounceOwnership sender) post account gas logs :=
  wp_onlyOwner (wp_revert (harmless_revert _))

variable (stays : Stays rules context start base account logs)

include stays

theorem wp_setFeeRecipient {next : Address} :
    RunsStays rules context start env (setFeeRecipient sender next) base account gas logs := by
  refine wp_onlyOwner (wp_check fun _ => ?_)
  refine wp_bind (wp_storage (wp_bind (wp_emit (wp_write ?_))))
  exact stays.configure (.feeRecipient next)

theorem wp_setKeeperFeeBps {next : Nat} :
    RunsStays rules context start env (setKeeperFeeBps sender next) base account gas logs := by
  refine wp_onlyOwner ?_
  cases read : BasisPoints.of? next with
  | none => exact wp_revert (harmless_revert _)
  | some bps =>
    obtain rfl := BasisPoints.of?_eq_some read
    refine wp_bind (wp_storage (wp_bind (wp_emit (wp_write ?_))))
    exact stays.configure (.keeperFeeBps bps)

theorem wp_setPricing {minFee multiplier overhead : Nat} :
    RunsStays rules context start env (setPricing sender minFee multiplier overhead) base account
      gas logs := by
  refine wp_onlyOwner ?_
  cases read : Pricing.of? terms minFee multiplier overhead with
  | none => exact wp_revert (harmless_revert _)
  | some pricing =>
    obtain ⟨rfl, rfl, rfl⟩ := Pricing.of?_eq_some read
    refine wp_check fun _ => ?_
    refine wp_bind (wp_write (wp_emit ?_))
    exact stays.configure (.pricing pricing)

theorem wp_setRefundBps {next : Nat} :
    RunsStays rules context start env (setRefundBps sender next) base account gas logs := by
  refine wp_onlyOwner (wp_check fun _ => ?_)
  cases read : BasisPoints.of? next with
  | none => exact wp_revert (harmless_revert _)
  | some bps =>
    obtain rfl := BasisPoints.of?_eq_some read
    refine wp_bind (wp_storage (wp_bind (wp_emit (wp_write ?_))))
    exact stays.configure (.refundBps bps)

theorem wp_transferOwnership {next : Address} :
    RunsStays rules context start env (transferOwnership sender next) base account gas logs := by
  refine wp_onlyOwner (wp_bind (wp_storage (wp_bind (wp_write (wp_emit ?_)))))
  exact stays.configure (.pendingOwner next)

theorem wp_acceptOwnership :
    RunsStays rules context start env (acceptOwnership sender) base account gas logs := by
  refine wp_bind (wp_storage ?_)
  refine wp_check fun _ => ?_
  refine wp_bind (wp_write (wp_emit ?_))
  exact stays.configure (.owner sender)

/-- A shared function called on a locked contract takes quiet steps. -/
theorem wp_run_locked (call : SharedCall)
    (entered : account.storage.entered = true) :
    RunsStays rules context start env (call.run context reenter sender) base account gas logs := by
  cases call with
  | retryCallback | refundRequest | retryRefundCallback | withdrawRefundCredit | withdrawFees
  | withdrawKeeperCredit => exact wp_nonReentrant_locked entered
  | setFeeRecipient => exact wp_setFeeRecipient stays
  | setKeeperFeeBps => exact wp_setKeeperFeeBps stays
  | setPricing => exact wp_setPricing stays
  | setRefundBps => exact wp_setRefundBps stays
  | transferOwnership => exact wp_transferOwnership stays
  | acceptOwnership => exact wp_acceptOwnership stays
  | renounceOwnership => exact wp_renounceOwnership

end Settings

/-- A program that takes quiet steps takes steps. -/
theorem wp_of_stays {program : Program terms β χ κ Unit}
    (reached : Reached rules context start account logs surplus)
    (runs : RunsStays rules context start env program (here context start account logs surplus)
      account gas logs) :
    Runs rules context start env program
      (fun _ account' _ logs' => Reached rules context start account' logs' surplus)
      account gas logs :=
  wp_mono runs fun _ _ _ _ _ stays => reached.stays stays

/-- A shared function called on its own takes steps and leaves no surplus. -/
theorem wp_run [Inhabited β] {sender : Address} (call : SharedCall)
    (yields : Yields rules context start env reenter) (order : InOrder rules start.store)
    (reached : Reached rules context start account logs 0) (metered : ∃ amount, gas = some amount) :
    RunsReached rules context start env (call.run context reenter sender) account gas logs := by
  cases call with
  | retryCallback => exact wp_retryCallback yields reached
  | refundRequest => exact wp_refundRequest yields reached metered
  | retryRefundCallback => exact wp_retryRefundCallback yields reached
  | withdrawRefundCredit => exact wp_withdrawRefundCredit yields order reached
  | withdrawFees => exact wp_withdrawFees yields reached
  | withdrawKeeperCredit => exact wp_withdrawKeeperCredit yields order reached
  | setFeeRecipient => exact wp_of_stays reached (wp_setFeeRecipient Stays.refl)
  | setKeeperFeeBps => exact wp_of_stays reached (wp_setKeeperFeeBps Stays.refl)
  | setPricing =>
    exact wp_of_stays reached (wp_setPricing Stays.refl)
  | setRefundBps => exact wp_of_stays reached (wp_setRefundBps Stays.refl)
  | transferOwnership => exact wp_of_stays reached (wp_transferOwnership Stays.refl)
  | acceptOwnership => exact wp_of_stays reached (wp_acceptOwnership Stays.refl)
  | renounceOwnership => exact wp_renounceOwnership

end Rules

end D20
