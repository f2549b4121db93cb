/-
This file models the amounts of an operator's sweep: the decimal text an operator types and reads,
and the value a request transfers, which leaves the transfer's gas and the reserve in the wallet.
Amounts are 256-bit numbers of wei, and sums and differences of them are checked or saturate as in
the source.
-/

import Mathlib.Tactic.NormNum
import D20Keeper.DecimalText
import D20Keeper.RoundGas

namespace D20.Sweep

open Journal (SweepMode SweepRequest)
open Decimal (zeroPadded filledUp withoutEndZeros)

/-! ### The text of an amount -/

/-- The wei of one unit: every sweep leaves at least this much. -/
def minReserveWei : ℕ := 1000000000000000000

/-- The characters a text is trimmed of: those with the Unicode property `White_Space`. -/
def isWhitespace (char : Char) : Bool :=
  decide ((9 ≤ char.toNat ∧ char.toNat ≤ 13) ∨ char.toNat = 0x20 ∨ char.toNat = 0x85 ∨
    char.toNat = 0xA0 ∨ char.toNat = 0x1680 ∨ (0x2000 ≤ char.toNat ∧ char.toNat ≤ 0x200A) ∨
    char.toNat = 0x2028 ∨ char.toNat = 0x2029 ∨ char.toNat = 0x202F ∨ char.toNat = 0x205F ∨
    char.toNat = 0x3000)

/-- A text without the blanks around it. -/
def trim (text : String) : String :=
  String.ofList ((text.toList.dropWhile isWhitespace).rdropWhile isWhitespace)

/-- Why a text is no 256-bit number. -/
inductive ParseError
  | invalidDigit (char : Char)
  | overflow
  deriving DecidableEq, Repr

/-- The digit a character is, in radixes up to 36. -/
def digitOf (char : Char) : Option ℕ :=
  if '0' ≤ char ∧ char ≤ '9' then some (char.toNat - '0'.toNat)
  else if 'a' ≤ char ∧ char ≤ 'z' then some (char.toNat - 'a'.toNat + 10)
  else if 'A' ≤ char ∧ char ≤ 'Z' then some (char.toNat - 'A'.toNat + 10)
  else none

/-- One more digit of a number; an underscore is passed over. -/
def addDigit (radix value : ℕ) (char : Char) : Except ParseError ℕ :=
  if char = '_' then .ok value
  else match (digitOf char).filter (· < radix) with
    | some digit => .ok (radix * value + digit)
    | none => .error (.invalidDigit char)

/-- The radix a text names, and its digits. -/
def radixOf : List Char → ℕ × List Char
  | '0' :: 'x' :: digits => (16, digits)
  | '0' :: 'X' :: digits => (16, digits)
  | '0' :: 'o' :: digits => (8, digits)
  | '0' :: 'O' :: digits => (8, digits)
  | '0' :: 'b' :: digits => (2, digits)
  | '0' :: 'B' :: digits => (2, digits)
  | digits => (10, digits)

/-- `str::parse` of a 256-bit number. -/
def parseU256 (chars : List Char) : Except ParseError ℕ := do
  let value ← (radixOf chars).2.foldlM (addDigit (radixOf chars).1) 0
  if value ≤ largest 256 then return value else throw .overflow

/-- Why a text is no amount: a message of the keeper, or what the parser of the fraction found. -/
inductive AmountError
  | message (text : String)
  | fraction (error : ParseError)
  deriving DecidableEq, Repr

/-- The message for a text that is no decimal amount. -/
def notDecimal (symbol : String) : String :=
  "Amount must be a decimal " ++ symbol ++
    " value with at most 18 decimals, for example 5 or 2.5"

/-- The checked sum of the wei of a whole part and of a fraction. -/
def addParts (whole fraction : ℕ) : Except AmountError ℕ :=
  if whole * minReserveWei ≤ largest 256 ∧ whole * minReserveWei + fraction ≤ largest 256 then
    .ok (whole * minReserveWei + fraction)
  else .error (.message "Amount too large")

/-- `parse_amount`: a decimal amount of a unit of 18 decimals, in wei. -/
def parseAmount (text symbol : String) : Except AmountError ℕ := do
  let text := trim text
  let parts := (Decimal.splitOnce '.' text).getD (text, "")
  let whole := parts.1.toList
  let fraction := parts.2.toList
  if ¬ (whole = [] ∧ fraction = []) ∧ whole.all Char.isDigit ∧ fraction.all Char.isDigit ∧
      fraction.length ≤ 18 then
    let whole ← if whole = [] then pure 0
      else (parseU256 whole).mapError fun _ => AmountError.message "Amount too large"
    let fraction ← (parseU256 (filledUp 18 fraction)).mapError AmountError.fraction
    addParts whole fraction
  else throw (.message (notDecimal symbol))

/-- `format_usdc`: wei as a decimal amount, without the zeros at the end of the fraction. -/
def formatUsdc (wei : ℕ) : String :=
  let fraction := withoutEndZeros (zeroPadded 18 (wei % minReserveWei))
  if fraction = [] then toString (wei / minReserveWei)
  else toString (wei / minReserveWei) ++ "." ++ String.ofList fraction

/-- The unit a sweep is asked and reported in. -/
inductive SweepUnit
  | usdc
  | eth
  deriving DecidableEq, Repr

/-- The symbol of a unit. -/
def SweepUnit.symbol : SweepUnit → String
  | .usdc => "USDC"
  | .eth => "ETH"

/-- A decimal amount of the unit in wei. -/
def SweepUnit.parse (unit : SweepUnit) (text : String) : Except AmountError ℕ :=
  parseAmount text unit.symbol

/-- Wei as a decimal amount of the unit. -/
def SweepUnit.format (_unit : SweepUnit) (wei : ℕ) : String := formatUsdc wei

/-! ### The value of a sweep -/

/-- `plan`: the value to transfer, or why the request is refused. -/
def plan (request : SweepRequest) (balance gasCost reserve : ℕ) (unit : SweepUnit) :
    Except String ℕ :=
  match parseU256 request.wei.toList, request.mode with
  | .error _, _ => .error "Invalid amount in sweep request"
  | .ok wei, .amount =>
    if wei = 0 then .error "Amount must be greater than zero"
    else if balance - gasCost < saturating 256 (wei + reserve) then
      .error ("Balance " ++ unit.format balance ++ " " ++ unit.symbol ++ " cannot send " ++
        unit.format wei ++ " " ++ unit.symbol ++ " and keep the " ++ unit.format reserve ++ " " ++
        unit.symbol ++ " reserve plus gas")
    else .ok wei
  | .ok wei, .keep =>
    if wei < reserve then
      .error ("Keep at least the " ++ unit.format reserve ++ " " ++ unit.symbol ++ " reserve")
    else if balance - gasCost - wei = 0 then
      .error ("Balance " ++ unit.format balance ++ " " ++ unit.symbol ++ " is not above " ++
        unit.format wei ++ " " ++ unit.symbol ++ " plus gas; nothing to send")
    else .ok (balance - gasCost - wei)

variable {request : SweepRequest} {balance gasCost reserve value wei : ℕ} {unit : SweepUnit}

/-- What an accepted plan sends, by the mode of the request. The reserve of an amount is added with
saturation, which a balance below the largest number makes exact. -/
theorem plan_eq_ok (below : balance < largest 256) :
    plan request balance gasCost reserve unit = .ok value ↔
      ∃ wei, parseU256 request.wei.toList = .ok wei ∧
        match request.mode with
        | .amount => 0 < wei ∧ wei + gasCost + reserve ≤ balance ∧ value = wei
        | .keep => reserve ≤ wei ∧ 0 < value ∧ value + gasCost + wei = balance := by
  unfold plan
  cases parsed : parseU256 request.wei.toList with
  | error => simp
  | ok =>
    simp only [Except.ok.injEq, exists_eq_left']
    cases request.mode with
    | amount =>
      dsimp only
      split
      case isTrue zero =>
        refine ⟨nofun, fun sent => ?_⟩
        omega
      case isFalse positive =>
        unfold saturating
        split
        case isTrue tooLittle =>
          refine ⟨nofun, fun sent => ?_⟩
          omega
        case isFalse enough =>
          rw [Except.ok.injEq]
          omega
    | keep =>
      dsimp only
      split
      case isTrue less =>
        refine ⟨nofun, fun sent => ?_⟩
        omega
      case isFalse notLess =>
        split
        case isTrue nothing =>
          refine ⟨nofun, fun sent => ?_⟩
          omega
        case isFalse some =>
          rw [Except.ok.injEq]
          omega

/-! ### What is printed is read back -/

theorem addDigit_ten {char : Char} (digit : char.isDigit = true) (value : ℕ) :
    addDigit 10 value char = .ok (10 * value + (char.toNat - '0'.toNat)) := by
  rw [Char.isDigit, Bool.and_eq_true, decide_eq_true_eq, decide_eq_true_eq] at digit
  have range : '0' ≤ char ∧ char ≤ '9' := digit
  have small : char.toNat - '0'.toNat < 10 := by
    have upper : char.toNat ≤ '9'.toNat := range.2
    have nine : '9'.toNat = 57 := rfl
    have zero : '0'.toNat = 48 := rfl
    omega
  have noUnderscore : char ≠ '_' := by
    rintro rfl
    exact absurd digit.2 (by decide)
  unfold addDigit digitOf
  rw [if_neg noUnderscore, if_pos range]
  simp only [Option.filter_some, small, decide_true, if_true]

/-- A text of digits is the number they denote. -/
theorem parseU256_of_digits {chars : List Char} (digits : ∀ char ∈ chars, char.isDigit = true)
    (fits : Nat.ofDigitChars 10 chars 0 ≤ largest 256) :
    parseU256 chars = .ok (Nat.ofDigitChars 10 chars 0) := by
  have plain : radixOf chars = (10, chars) := by
    unfold radixOf
    split
    all_goals first
      | rfl
      | exact absurd (digits _ (List.mem_cons_of_mem _ List.mem_cons_self)) (by decide)
  have folded : ∀ value, chars.foldlM (addDigit 10) value =
      Except.ok (Nat.ofDigitChars 10 chars value) := by
    clear plain fits
    induction chars with
    | nil => exact fun value => rfl
    | cons char rest inductionHypothesis =>
      intro value
      obtain ⟨digit, others⟩ := List.forall_mem_cons.mp digits
      rw [List.foldlM_cons, addDigit_ten digit, Nat.ofDigitChars_cons]
      exact inductionHypothesis others _
  unfold parseU256
  rw [plain]
  dsimp only
  rw [folded]
  exact if_pos fits

theorem trim_eq_self {text : String} (solid : ∀ char ∈ text.toList, isWhitespace char = false) :
    trim text = text := by
  have start : text.toList.dropWhile isWhitespace = text.toList := by
    refine List.dropWhile_eq_self_iff.mpr fun nonempty => ?_
    rw [solid _ (List.getElem_mem _)]
    exact Bool.false_ne_true
  have ending : text.toList.rdropWhile isWhitespace = text.toList := by
    refine List.rdropWhile_eq_self_iff.mpr fun nonempty => ?_
    rw [solid _ (List.getLast_mem nonempty)]
    exact Bool.false_ne_true
  unfold trim
  rw [start, ending, String.ofList_toList]

theorem isWhitespace_of_isDigit {char : Char} (digit : char.isDigit = true) :
    isWhitespace char = false := by
  rw [Char.isDigit, Bool.and_eq_true, decide_eq_true_eq, decide_eq_true_eq] at digit
  have lower : '0'.toNat ≤ char.toNat := digit.1
  have upper : char.toNat ≤ '9'.toNat := digit.2
  have nine : '9'.toNat = 57 := rfl
  have zero : '0'.toNat = 48 := rfl
  refine decide_eq_false fun blank => ?_
  omega

theorem mapError_ok_bind {α β ε δ : Type} (value : α) (rename : ε → δ) (next : α → Except δ β) :
    (Except.mapError rename (.ok value) >>= next) = next value := rfl

theorem addParts_of_fits {whole fraction : ℕ}
    (fits : whole * minReserveWei + fraction ≤ largest 256) :
    addParts whole fraction = .ok (whole * minReserveWei + fraction) := by
  unfold addParts
  rw [if_pos ⟨(Nat.le_add_right _ _).trans fits, fits⟩]

/-- The amount whose whole part and fraction are these digits. -/
theorem parseAmount_of_parts {text symbol : String} {whole fraction : List Char}
    (solid : ∀ char ∈ text.toList, isWhitespace char = false)
    (split : (Decimal.splitOnce '.' text).getD (text, "") =
      (String.ofList whole, String.ofList fraction))
    (some : whole ≠ []) (wholeDigits : ∀ char ∈ whole, char.isDigit = true)
    (fractionDigits : ∀ char ∈ fraction, char.isDigit = true) (short : fraction.length ≤ 18)
    (fits : Nat.ofDigitChars 10 whole 0 * minReserveWei +
      Nat.ofDigitChars 10 (filledUp 18 fraction) 0 ≤ largest 256) :
    parseAmount text symbol = .ok (Nat.ofDigitChars 10 whole 0 * minReserveWei +
      Nat.ofDigitChars 10 (filledUp 18 fraction) 0) := by
  have unit : 1 ≤ minReserveWei := by decide
  have wholeFits : Nat.ofDigitChars 10 whole 0 * minReserveWei ≤ largest 256 :=
    (Nat.le_add_right _ _).trans fits
  have wholeParsed := parseU256_of_digits wholeDigits
    ((Nat.le_mul_of_pos_right _ unit).trans wholeFits)
  have filled : ∀ char ∈ filledUp 18 fraction, char.isDigit = true := by
    intro char member
    rcases List.mem_append.mp member with digit | zero
    · exact fractionDigits char digit
    · rw [List.eq_of_mem_replicate zero]
      rfl
  have fractionParsed := parseU256_of_digits filled ((Nat.le_add_left _ _).trans fits)
  unfold parseAmount
  dsimp only
  rw [trim_eq_self solid, split]
  dsimp only
  rw [String.toList_ofList, String.toList_ofList, if_pos ⟨fun both => some both.1,
    List.all_eq_true.mpr wholeDigits, List.all_eq_true.mpr fractionDigits, short⟩,
    if_neg some, wholeParsed, fractionParsed, mapError_ok_bind, mapError_ok_bind,
    addParts_of_fits fits]

/-- The text of an amount is read as that amount. -/
theorem parseAmount_formatUsdc (symbol : String) (fits : wei ≤ largest 256) :
    parseAmount (formatUsdc wei) symbol = .ok wei := by
  have small : wei % minReserveWei < 10 ^ 18 := Nat.mod_lt _ (by decide)
  have width := Decimal.length_zeroPadded (by decide) small
  have refilled : Nat.ofDigitChars 10 (filledUp 18 (withoutEndZeros
      (zeroPadded 18 (wei % minReserveWei)))) 0 = wei % minReserveWei := by
    have filled := Decimal.filledUp_withoutEndZeros (zeroPadded 18 (wei % minReserveWei))
    rw [width] at filled
    rw [filled, Decimal.ofDigitChars_zeroPadded]
  have sum : Nat.ofDigitChars 10 (Nat.toDigits 10 (wei / minReserveWei)) 0 * minReserveWei +
      Nat.ofDigitChars 10 (filledUp 18 (withoutEndZeros
        (zeroPadded 18 (wei % minReserveWei)))) 0 = wei := by
    rw [refilled, Nat.ofDigitChars_ten_toDigits, Nat.mul_comm]
    exact Nat.div_add_mod _ _
  have short := (Decimal.length_withoutEndZeros_le
    (zeroPadded 18 (wei % minReserveWei))).trans width.le
  have fractionDigits : ∀ char ∈ withoutEndZeros
      (zeroPadded 18 (wei % minReserveWei)), char.isDigit = true := fun char member =>
    Decimal.isDigit_of_mem_zeroPadded (Decimal.mem_of_mem_withoutEndZeros member)
  have wholeDigits : ∀ char ∈ Nat.toDigits 10 (wei / minReserveWei), char.isDigit = true :=
    fun char => Decimal.isDigit_of_mem
  have wholeText : String.ofList (Nat.toDigits 10 (wei / minReserveWei)) =
      toString (wei / minReserveWei) := Nat.toString_eq_ofList_toDigits.symm
  unfold formatUsdc
  generalize withoutEndZeros (zeroPadded 18 (wei % minReserveWei)) = fraction at *
  have parsed := fun text solid split => @parseAmount_of_parts text symbol _ _ solid split
    Nat.toDigits_ne_nil wholeDigits fractionDigits short (sum.le.trans fits)
  rw [sum] at parsed
  dsimp only
  split
  case isTrue none =>
    refine parsed _ (fun char member => ?_) ?_
    · rw [Decimal.toList_toString] at member
      exact isWhitespace_of_isDigit (wholeDigits char member)
    · rw [Decimal.splitOnce_eq_none fun _ => Decimal.ne_of_mem_toString (by decide), wholeText, none]
      rfl
  case isFalse some =>
    refine parsed _ (fun char member => ?_) ?_
    · rw [String.toList_append, String.toList_append, List.mem_append, List.mem_append,
        Decimal.toList_toString] at member
      rcases member with (digit | point) | digit
      · exact isWhitespace_of_isDigit (wholeDigits char digit)
      · rw [List.mem_singleton.mp point]
        rfl
      · rw [String.toList_ofList] at digit
        exact isWhitespace_of_isDigit (fractionDigits char digit)
    · have separated := Decimal.splitOnce_append
        (fun _ => @Decimal.ne_of_mem_toString '.' (by decide) (wei / minReserveWei) _)
        (String.ofList fraction)
      rw [wholeText]
      exact congrArg (Option.getD · _) separated

/-! ### The amounts of a sweep -/

/-- The amounts of an operator's sweep. An accepted plan sends a positive value that leaves the gas
and the reserve in the wallet, and one that keeps an amount leaves exactly that amount after the
gas. Every positive amount that fits is accepted as it is, and so is every amount to keep that is at
least the reserve and leaves something to send. The text of an amount is read back as that amount.
-/
theorem sweep_amounts (unit : SweepUnit) :
    (∀ request balance gasCost reserve value, balance < 2 ^ 256 - 1 →
      plan request balance gasCost reserve unit = .ok value →
      0 < value ∧ value + gasCost + reserve ≤ balance ∧
        (request.mode = .keep → parseU256 request.wei.toList = .ok (balance - gasCost - value))) ∧
    (∀ request balance gasCost reserve wei, balance < 2 ^ 256 - 1 →
      parseU256 request.wei.toList = .ok wei → request.mode = .amount → 0 < wei →
      wei + gasCost + reserve ≤ balance → plan request balance gasCost reserve unit = .ok wei) ∧
    (∀ request balance gasCost reserve wei, balance < 2 ^ 256 - 1 →
      parseU256 request.wei.toList = .ok wei → request.mode = .keep → reserve ≤ wei →
      gasCost + wei < balance →
      plan request balance gasCost reserve unit = .ok (balance - gasCost - wei)) ∧
    (∀ wei < 2 ^ 256, parseU256 (toString wei).toList = .ok wei) ∧
    ∀ wei < 2 ^ 256, unit.parse (unit.format wei) = .ok wei := by
  have fitting : ∀ wei < 2 ^ 256, wei ≤ largest 256 := fun wei below => Nat.le_sub_one_of_lt below
  refine ⟨?_, ?_, ?_, ?_, ?_⟩
  · intro request balance gasCost reserve value below accepted
    obtain ⟨wei, parsed, sent⟩ := (plan_eq_ok below).mp accepted
    cases mode : request.mode with
    | amount =>
      rw [mode] at sent
      obtain ⟨positive, enough, rfl⟩ := sent
      exact ⟨positive, enough, nofun⟩
    | keep =>
      rw [mode] at sent
      obtain ⟨kept, positive, exact⟩ := sent
      have rest : balance - gasCost - value = wei := by omega
      refine ⟨positive, by omega, fun _ => ?_⟩
      rw [rest]
      exact parsed
  · intro request balance gasCost reserve wei below parsed mode positive enough
    refine (plan_eq_ok below).mpr ⟨wei, parsed, ?_⟩
    rw [mode]
    exact ⟨positive, enough, rfl⟩
  · intro request balance gasCost reserve wei below parsed mode kept left
    refine (plan_eq_ok below).mpr ⟨wei, parsed, ?_⟩
    rw [mode]
    exact ⟨kept, by omega, by omega⟩
  · intro wei below
    have digits := @parseU256_of_digits (Nat.toDigits 10 wei) fun _ => Decimal.isDigit_of_mem
    rw [Nat.ofDigitChars_ten_toDigits] at digits
    rw [Decimal.toList_toString]
    exact digits (fitting wei below)
  · exact fun wei below => parseAmount_formatUsdc unit.symbol (fitting wei below)

/-- Ten units less two tenths for the gas leave room for two and a half beside a reserve of one. -/
theorem sweep_amounts_of_ten :
    plan ⟨.amount, "2500000000000000000", 0⟩ 10000000000000000000 200000000000000000
        1000000000000000000 .usdc = .ok 2500000000000000000 ∧
      SweepUnit.usdc.format 2500000000000000000 = "2.5" ∧
      SweepUnit.usdc.parse (SweepUnit.usdc.format 2500000000000000000) =
        .ok 2500000000000000000 := by
  have amounts := sweep_amounts .usdc
  refine ⟨amounts.2.1 _ _ _ _ _ (by norm_num) ?_ rfl (by norm_num) (by norm_num), ?_,
    amounts.2.2.2.2 _ (by norm_num)⟩
  · exact amounts.2.2.2.1 2500000000000000000 (by norm_num)
  · decide

end D20.Sweep
