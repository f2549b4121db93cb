/-
This file follows `templateProblem` of `templates.ts` byte by byte: its loop walks an offset through
the template. A read outside of the template and a sum of offsets that would leave the exact range
of numbers are faults here, so that both can be shown not to happen. On every template the loop
gives the verdict of the segments.
-/

import D20Keeper.TemplateGrammar

namespace D20

open Evm

namespace DataTemplate

/-! ### Offsets -/

/-- How an interpreter stops without a verdict. -/
inductive Fault where
  | outOfBounds
  | overflow
  | unfinished
deriving DecidableEq

/-- A byte at an offset. -/
def byteAt (bytes : Bytes) (index : Nat) : Except Fault UInt8 :=
  match bytes[index]? with
  | some byte => .ok byte
  | none => .error .outOfBounds

/-- A sum of offsets of a width. -/
def offset (width first second : Nat) : Except Fault Nat :=
  if first + second < 2 ^ width then .ok (first + second) else .error .overflow

/-- An offset at which a rest of the bytes starts. -/
structure At (bytes : Bytes) (index : Nat) (rest : Bytes) : Prop where
  drop : bytes.drop index = rest
  length : index + rest.length = bytes.length

namespace At

variable {bytes rest tail : Bytes} {index : Nat} {byte : UInt8}

theorem start (bytes : Bytes) : At bytes 0 bytes := ⟨List.drop_zero, Nat.zero_add _⟩

theorem getElem? (here : At bytes index rest) (further : Nat) :
    bytes[index + further]? = rest[further]? := by
  rw [← here.drop, List.getElem?_drop]

theorem byte_eq (here : At bytes index rest) (further : Nat) (inside : rest[further]? = some byte) :
    byteAt bytes (index + further) = .ok byte := by
  unfold byteAt
  rw [here.getElem? further, inside]

theorem forward (here : At bytes index rest) {further : Nat} (within : further ≤ rest.length) :
    At bytes (index + further) (rest.drop further) := by
  refine ⟨?_, ?_⟩
  · rw [← List.drop_drop, here.drop]
  · rw [List.length_drop, ← here.length]
    omega

theorem skip (word : Bytes) (here : At bytes index (word ++ rest)) :
    At bytes (index + word.length) rest := by
  have within : word.length ≤ (word ++ rest).length := by
    rw [List.length_append]
    omega
  have later := here.forward within
  rwa [List.drop_left] at later

theorem first (here : At bytes index (byte :: tail)) : byteAt bytes index = .ok byte :=
  here.byte_eq 0 rfl

theorem next (here : At bytes index (byte :: tail)) : At bytes (index + 1) tail :=
  here.forward (Nat.succ_le_succ (Nat.zero_le _))

theorem stop (here : At bytes index []) : index = bytes.length := here.length

end At

/-- The four opcodes are different. -/
theorem ops_ne : hexOp ≠ literalOp ∧ decimalOp ≠ literalOp ∧ decimalOp ≠ hexOp ∧
    integerOp ≠ literalOp ∧ integerOp ≠ hexOp ∧ integerOp ≠ decimalOp := by decide

theorem offset_eq {width first second : Nat} (room : first + second < 2 ^ width) :
    offset width first second = .ok (first + second) := if_pos room

end DataTemplate

namespace TemplateReplay

open DataTemplate

/-! ### Well-formed templates -/

/-- The loop of `templateProblem`. -/
def templateProblemLoop (template : Bytes) :
    Nat → Nat → Nat → Bool → Except Fault (Option String)
  | 0, _, _, _ => .error .unfinished
  | fuel + 1, at_, shortest, varied =>
    if at_ < template.length then do
      let op ← byteAt template at_
      if op = literalOp then do
        let operand ← offset 53 at_ 1
        if template.length ≤ operand then
          return some ("truncated literal at byte " ++ toString at_)
        else do
          let n ← byteAt template operand
          let text ← offset 53 at_ 2
          let past ← offset 53 text n.toNat
          if n.toNat = 0 ∨ maxDataBytes < n.toNat ∨ template.length < past then
            return some ("invalid literal length at byte " ++ toString at_)
          else do
            let shortest ← offset 53 shortest n.toNat
            let at_ ← offset 53 at_ (2 + n.toNat)
            templateProblemLoop template fuel at_ shortest varied
      else if op = hexOp then do
        let operand ← offset 53 at_ 1
        if template.length ≤ operand then
          return some ("truncated hex segment at byte " ++ toString at_)
        else do
          let n ← byteAt template operand
          if n.toNat = 0 ∨ maxDataBytes < n.toNat then
            return some ("invalid hex length at byte " ++ toString at_)
          else do
            let shortest ← offset 53 shortest n.toNat
            let at_ ← offset 53 at_ 2
            templateProblemLoop template fuel at_ shortest true
      else if op = decimalOp then do
        let operand ← offset 53 at_ 1
        if template.length ≤ operand then
          return some ("invalid decimal flags at byte " ++ toString at_)
        else do
          let flags ← byteAt template operand
          if 3 < flags.toNat then return some ("invalid decimal flags at byte " ++ toString at_)
          else do
            let shortest ← offset 53 shortest 1
            let at_ ← offset 53 at_ 2
            templateProblemLoop template fuel at_ shortest true
      else if op = integerOp then do
        let operand ← offset 53 at_ 2
        if template.length ≤ operand then
          return some ("truncated integer segment at byte " ++ toString at_)
        else do
          let first ← offset 53 at_ 1
          let least ← byteAt template first
          let most ← byteAt template operand
          if least.toNat = 0 ∨ most.toNat < least.toNat ∨ maxDataBytes < most.toNat then
            return some ("invalid integer digit bounds at byte " ++ toString at_)
          else do
            let shortest ← offset 53 shortest least.toNat
            let at_ ← offset 53 at_ 3
            templateProblemLoop template fuel at_ shortest true
      else
        return some ("unknown segment opcode " ++ toString op.toNat ++ " at byte " ++ toString at_)
    else if varied = false then
      return some "it needs at least one hex, decimal or integer segment"
    else if maxDataBytes < shortest then
      return some ("its shortest match exceeds " ++ toString maxDataBytes ++ " bytes")
    else return none

/-- `templateProblem`. -/
def templateProblem (template : Bytes) : Except Fault (Option String) :=
  if template.length = 0 ∨ maxTemplateBytes < template.length then
    .ok (some ("it must be 1 to " ++ toString maxTemplateBytes ++ " bytes"))
  else templateProblemLoop template (template.length + 1) 0 0 false

/-! ### The verdict on templates -/

/-- A report without a fault: there is no problem exactly when the verdict is true. -/
def Tells (verdict : Bool) (report : Except Fault (Option String)) : Prop :=
  ∃ problem, report = .ok problem ∧ problem.isNone = verdict

theorem tells_problem (message : String) : Tells false (.ok (some message)) :=
  ⟨some message, rfl, rfl⟩

/-- A branch that reports a problem. -/
theorem tells_if {bad : Prop} [Decidable bad] {message : String} {verdict : Bool}
    {otherwise : Except Fault (Option String)} (holds : bad) (rejected : verdict = false) :
    Tells verdict (if bad then .ok (some message) else otherwise) := by
  rw [if_pos holds, rejected]
  exact tells_problem message

theorem tells_templateProblemLoop {template rest : Bytes} {fuel left at_ shortest : Nat}
    {varied : Bool} (short : template.length ≤ maxTemplateBytes) (here : At template at_ rest)
    (sum : shortest ≤ 128 * at_) (enough : rest.length < fuel) (enough' : rest.length ≤ left) :
    Tells (validFrom left rest shortest varied)
      (templateProblemLoop template fuel at_ shortest varied) := by
  induction fuel generalizing rest left at_ shortest varied with
  | zero => exact absurd enough (Nat.not_lt_zero _)
  | succ fuel inductionHypothesis =>
    unfold templateProblemLoop
    by_cases empty : rest = []
    · subst empty
      have ended : validFrom left [] shortest varied =
          (varied && decide (shortest ≤ maxDataBytes)) := by cases left <;> rfl
      rw [if_neg (Nat.not_lt.mpr here.stop.ge), ended]
      cases varied with
      | false => exact tells_if rfl rfl
      | true =>
        rw [if_neg Bool.noConfusion, Bool.true_and]
        by_cases long : maxDataBytes < shortest
        · exact tells_if long (decide_eq_false (Nat.not_le.mpr long))
        · rw [if_neg long, decide_eq_true (Nat.not_lt.mp long)]
          exact ⟨none, rfl, rfl⟩
    · obtain ⟨read, reads⟩ : ∃ read, Reads rest read := ⟨_, reads_readSegment empty⟩
      have length := here.length
      unfold maxTemplateBytes at short
      obtain ⟨left, rfl⟩ : ∃ less, left = less + 1 :=
        Nat.exists_eq_succ_of_ne_zero fun zero => empty (List.length_eq_zero_iff.mp (by omega))
      have operand : offset 53 at_ 1 = .ok (at_ + 1) := offset_eq (by omega)
      have second : offset 53 at_ 2 = .ok (at_ + 2) := offset_eq (by omega)
      have third : offset 53 at_ 3 = .ok (at_ + 3) := offset_eq (by omega)
      have inside : at_ < template.length := by
        rw [← length]
        exact Nat.lt_add_of_pos_right (List.length_pos_iff.mpr empty)
      simp only [if_pos inside, operand, second, third, ok_bind]
      rw [reads.validFrom_eq]
      cases reads with
      | literalCut =>
        simp only [here.first, ok_bind, if_true]
        exact tells_if length.ge rfl
      | literalBad n =>
        have byte := n.toNat_lt
        rw [List.length_cons, List.length_cons] at length
        simp only [here.first, ok_bind, if_true, here.byte_eq 1 rfl]
        rw [if_neg (by omega), offset_eq (by omega), ok_bind]
        exact tells_if (by omega) rfl
      | literal n text rest length' =>
        have byte := n.toNat_lt
        have later : At template (at_ + (2 + n.toNat)) rest := by
          rw [← length', Nat.add_comm 2]
          exact At.skip (literalOp :: n :: text) here
        rw [List.length_cons, List.length_cons, List.length_append] at length enough enough'
        simp only [here.first, ok_bind, if_true, here.byte_eq 1 rfl]
        rw [if_neg (by omega), offset_eq (by omega), ok_bind, if_neg (by omega),
          offset_eq (by omega), ok_bind, offset_eq (by omega), ok_bind]
        show Tells (validFrom left rest (shortest + text.length) (varied || false)) _
        rw [length', Bool.or_false]
        exact inductionHypothesis later (by omega) (by omega) (by omega)
      | hexCut =>
        simp only [here.first, ok_bind, ops_ne, if_false, if_true]
        exact tells_if length.ge rfl
      | hexBad n rest bad =>
        rw [List.length_cons, List.length_cons] at length
        simp only [here.first, ok_bind, ops_ne, if_false, if_true, here.byte_eq 1 rfl]
        rw [if_neg (by omega)]
        exact tells_if bad rfl
      | hex n rest =>
        have byte := n.toNat_lt
        have size : ¬(n.toNat = 0 ∨ maxDataBytes < n.toNat) := by omega
        rw [List.length_cons, List.length_cons] at length enough enough'
        simp only [here.first, ok_bind, ops_ne, if_false, if_true, here.byte_eq 1 rfl]
        rw [if_neg (by omega), if_neg size, offset_eq (by omega), ok_bind]
        show Tells (validFrom left rest (shortest + n.toNat) (varied || true)) _
        rw [Bool.or_true]
        exact inductionHypothesis here.next.next (by omega) (by omega) (by omega)
      | decimalCut =>
        simp only [here.first, ok_bind, ops_ne, if_false, if_true]
        exact tells_if length.ge rfl
      | decimalBad flags rest bad =>
        rw [List.length_cons, List.length_cons] at length
        simp only [here.first, ok_bind, ops_ne, if_false, if_true, here.byte_eq 1 rfl]
        rw [if_neg (by omega)]
        exact tells_if bad rfl
      | decimal flags rest known =>
        rw [List.length_cons, List.length_cons] at length enough enough'
        simp only [here.first, ok_bind, ops_ne, if_false, if_true, here.byte_eq 1 rfl]
        rw [if_neg (by omega), if_neg (Nat.not_lt.mpr known), offset_eq (by omega), ok_bind]
        show Tells (validFrom left rest (shortest + 1) (varied || true)) _
        rw [Bool.or_true]
        exact inductionHypothesis here.next.next (by omega) (by omega) (by omega)
      | integerCut =>
        rw [List.length_cons, List.length_nil] at length
        simp only [here.first, ok_bind, ops_ne, if_false, if_true]
        exact tells_if (by omega) rfl
      | integerHalf =>
        rw [List.length_cons, List.length_cons, List.length_nil] at length
        simp only [here.first, ok_bind, ops_ne, if_false, if_true]
        exact tells_if (by omega) rfl
      | integerBad least most rest bad =>
        rw [List.length_cons, List.length_cons, List.length_cons] at length
        simp only [here.first, ok_bind, ops_ne, if_false, if_true, here.byte_eq 1 rfl, here.byte_eq 2 rfl]
        rw [if_neg (by omega)]
        exact tells_if bad rfl
      | integer least most rest =>
        have byte := least.toNat_lt
        have bounds : ¬(least.toNat = 0 ∨ most.toNat < least.toNat ∨
          maxDataBytes < most.toNat) := by omega
        rw [List.length_cons, List.length_cons, List.length_cons] at length enough enough'
        simp only [here.first, ok_bind, ops_ne, if_false, if_true, here.byte_eq 1 rfl, here.byte_eq 2 rfl]
        rw [if_neg (by omega), if_neg bounds, offset_eq (by omega), ok_bind]
        show Tells (validFrom left rest (shortest + least.toNat) (varied || true)) _
        rw [Bool.or_true]
        exact inductionHypothesis here.next.next.next (by omega) (by omega) (by omega)
      | unknown op operands notLiteral notHex notDecimal notInteger =>
        simp only [here.first, ok_bind, if_neg notLiteral, if_neg notHex, if_neg notDecimal, if_neg notInteger]
        exact tells_problem _

theorem tells_templateProblem (template : Bytes) :
    Tells (DataTemplate.isValid template) (templateProblem template) := by
  unfold templateProblem DataTemplate.isValid
  by_cases bad : template.length = 0 ∨ maxTemplateBytes < template.length
  · rw [if_pos bad, if_pos bad]
    exact tells_problem _
  · rw [if_neg bad, if_neg bad]
    exact tells_templateProblemLoop (by omega) (At.start template) (Nat.zero_le _)
      (Nat.lt_succ_self _) (Nat.le_refl _)

end TemplateReplay

end D20
