/-
This file follows the readable form of data templates in `templates.ts`: `encodeDataTemplate`, which
checks segments that may be any JavaScript values and writes them as template bytes, and
`decodeDataTemplate`, which reads them back. The texts of literals are well-formed Unicode, and the
numbers are doubles. The two functions are inverse to each other on what they accept.
-/

import D20Keeper.JavaScript
import D20Keeper.TemplateReplay

namespace D20

open Evm

namespace TemplateReplay

open DataTemplate

/-! ### Values -/

/-- A JavaScript value. An object has its own keys with their values, and an array is an object with
its indices for keys. -/
inductive Value
  | missing
  | boolean (value : Bool)
  | number (value : ℚ)
  | notFinite
  | text (content : String)
  | object (fields : List (String × Value))

/-- `Object.keys`, where a value that is no object has none. -/
def Value.keys : Value → List String
  | .object fields => fields.map Prod.fst
  | _ => []

/-- A property of a value, which may be undefined. -/
def Value.field (value : Value) (name : String) : Value :=
  match value with
  | .object fields => (fields.lookup name).getD .missing
  | _ => .missing

/-- Why a function threw: an error with its text, text that is not UTF-8, or a fault of the model.
-/
inductive Thrown
  | error (message : String)
  | notUtf8
  | fault (reason : Fault)
  deriving DecidableEq

/-! ### Encoding -/

/-- `toUtf8Bytes` on well-formed text. -/
def toUtf8Bytes (content : String) : Bytes := content.toUTF8.data.toList

/-- `toUtf8String`. -/
def toUtf8String (bytes : Bytes) : Except Thrown String :=
  match String.fromUTF8? ⟨bytes.toArray⟩ with
  | some content => .ok content
  | none => .error .notUtf8

/-- `byteOperand`. -/
def byteOperand (value : Value) (name : String) : Except Thrown ℚ :=
  match value with
  | .number number =>
    if JavaScript.isInteger number = false ∨ number < 1 ∨ (maxDataBytes : ℚ) < number then
      .error (.error ("Data template " ++ name ++ " must be an integer from 1 to " ++
        toString maxDataBytes))
    else .ok number
  | _ =>
    .error (.error ("Data template " ++ name ++ " must be an integer from 1 to " ++
      toString maxDataBytes))

/-- The element of a `Uint8Array` for an integral number. -/
def asByte (number : ℚ) : UInt8 := UInt8.ofNat number.num.toNat

/-- The operand of a decimal segment. -/
def decimalFlags (fraction exponent : Bool) : UInt8 :=
  (if fraction then 1 else 0) ||| (if exponent then 2 else 0)

variable (index : ℕ)

/-- The start of the name of a segment in an error. -/
def segmentName : String := "segment " ++ toString index

/-- A segment without exactly one of the four keys. -/
def wrongKeys : Thrown :=
  .error ("Data template " ++ segmentName index ++
    " must have exactly one of literal, hex, decimal or integer")

/-- A decimal segment, the value at the key. -/
def encodeDecimal (decimal : Value) : Except Thrown Bytes :=
  match decimal.field "fraction", decimal.field "exponent" with
  | .boolean fraction, .boolean exponent =>
    if decimal.keys.length ≠ 2 then
      .error (.error ("Data template " ++ segmentName index ++
        ": decimal needs boolean fraction and exponent"))
    else .ok [decimalOp, decimalFlags fraction exponent]
  | _, _ =>
    .error (.error ("Data template " ++ segmentName index ++
      ": decimal needs boolean fraction and exponent"))

/-- An integer segment, the value at the key. -/
def encodeInteger (integer : Value) : Except Thrown Bytes := do
  let minDigits ← byteOperand (integer.field "minDigits") (segmentName index ++ " integer minDigits")
  let maxDigits ← byteOperand (integer.field "maxDigits") (segmentName index ++ " integer maxDigits")
  if maxDigits < minDigits ∨ integer.keys.length ≠ 2 then
    .error (.error ("Data template " ++ segmentName index ++
      ": integer needs minDigits <= maxDigits"))
  else .ok [integerOp, asByte minDigits, asByte maxDigits]

/-- A literal segment, the value at the key. -/
def encodeLiteral (literal : Value) : Except Thrown Bytes :=
  match literal with
  | .text content =>
    (byteOperand (.number ((toUtf8Bytes content).length : ℚ))
      (segmentName index ++ " literal length in bytes")).map fun length =>
        literalOp :: asByte length :: toUtf8Bytes content
  | _ => .error (.error ("Data template " ++ segmentName index ++ ": literal must be a string"))

/-- The bytes of a segment in the loop of `encodeDataTemplate`. -/
def encodeSegment (segment : Value) : Except Thrown Bytes :=
  if segment.keys.length ≠ 1 then .error (wrongKeys index)
  else if "literal" ∈ segment.keys then encodeLiteral index (segment.field "literal")
  else if "hex" ∈ segment.keys then
    (byteOperand (segment.field "hex") (segmentName index ++ " hex length")).map fun length =>
      [hexOp, asByte length]
  else if "decimal" ∈ segment.keys then encodeDecimal index (segment.field "decimal")
  else if "integer" ∈ segment.keys then encodeInteger index (segment.field "integer")
  else .error (wrongKeys index)

/-- The loop of `encodeDataTemplate`. -/
def encodeSegments : ℕ → List Value → Except Thrown Bytes
  | _, [] => .ok []
  | index, segment :: rest => do
    let bytes ← encodeSegment index segment
    let later ← encodeSegments (index + 1) rest
    return bytes ++ later

/-- `validateDataTemplate`. -/
def validateDataTemplate (template : Bytes) : Except Thrown Unit :=
  match templateProblem template with
  | .error reason => .error (.fault reason)
  | .ok (some problem) => .error (.error ("Invalid data template: " ++ problem))
  | .ok none => .ok ()

/-- `encodeDataTemplate`. -/
def encodeDataTemplate (segments : List Value) : Except Thrown Bytes := do
  let bytes ← encodeSegments 0 segments
  validateDataTemplate bytes
  return bytes

/-! ### Decoding -/

/-- `DataTemplateSegment`, the readable form of a segment. -/
inductive DataTemplateSegment
  | literal (content : String)
  | hex (length : ℕ)
  | decimal (fraction exponent : Bool)
  | integer (minDigits maxDigits : ℕ)
  deriving DecidableEq, Repr

/-- The object of a segment. -/
def DataTemplateSegment.value : DataTemplateSegment → Value
  | .literal content => .object [("literal", .text content)]
  | .hex length => .object [("hex", .number length)]
  | .decimal fraction exponent =>
    .object [("decimal", .object [("fraction", .boolean fraction), ("exponent", .boolean exponent)])]
  | .integer minDigits maxDigits =>
    .object [("integer", .object [("minDigits", .number minDigits),
      ("maxDigits", .number maxDigits)])]

/-- An operation of the interpreter, whose faults are faults of the model. -/
def checked {α : Type} (operation : Except Fault α) : Except Thrown α :=
  operation.mapError .fault

/-- The segment at an offset of a template and its width. -/
def decodeSegment (template : Bytes) (at_ : ℕ) : Except Thrown (DataTemplateSegment × ℕ) := do
  let op ← checked (byteAt template at_)
  let first ← checked (offset 53 at_ 1)
  let operand ← checked (byteAt template first)
  let second ← checked (offset 53 at_ 2)
  if op = literalOp then
    let content ← toUtf8String ((template.drop second).take operand.toNat)
    return (.literal content, 2 + operand.toNat)
  else if op = hexOp then return (.hex operand.toNat, 2)
  else if op = decimalOp then return (.decimal (operand &&& 1 ≠ 0) (operand &&& 2 ≠ 0), 2)
  else
    let most ← checked (byteAt template second)
    return (.integer operand.toNat most.toNat, 3)

/-- The loop of `decodeDataTemplate`. -/
def decodeLoop (template : Bytes) : ℕ → ℕ → Except Thrown (List DataTemplateSegment)
  | 0, _ => .error (.fault .unfinished)
  | fuel + 1, at_ =>
    if at_ < template.length then do
      let (segment, width) ← decodeSegment template at_
      let next ← checked (offset 53 at_ width)
      let later ← decodeLoop template fuel next
      return segment :: later
    else .ok []

/-- `decodeDataTemplate`. -/
def decodeDataTemplate (template : Bytes) : Except Thrown (List DataTemplateSegment) := do
  validateDataTemplate template
  decodeLoop template (template.length + 1) 0

/-! ### Texts and numbers -/

theorem ok_of_bind {α β : Type} {first : Except Thrown α} {next : α → Except Thrown β} {result : β}
    (succeeded : (first >>= next) = .ok result) :
    ∃ value, first = .ok value ∧ next value = .ok result := by
  cases first with
  | error => exact nomatch succeeded
  | ok value => exact ⟨value, rfl, succeeded⟩

theorem ok_of_map {α β : Type} {first : Except Thrown α} {next : α → β} {result : β}
    (succeeded : first.map next = .ok result) : ∃ value, first = .ok value ∧ next value = result := by
  cases first with
  | error => exact nomatch succeeded
  | ok value => exact ⟨value, rfl, Except.ok.inj succeeded⟩

theorem toUtf8String_toUtf8Bytes (content : String) :
    toUtf8String (toUtf8Bytes content) = .ok content := by
  have valid : (⟨(toUtf8Bytes content).toArray⟩ : ByteArray).IsValidUTF8 := content.isValidUTF8
  have read : String.fromUTF8? ⟨(toUtf8Bytes content).toArray⟩ = some content := dif_pos valid
  unfold toUtf8String
  rw [read]

theorem exists_toUtf8Bytes {bytes : Bytes} (valid : (⟨bytes.toArray⟩ : ByteArray).IsValidUTF8) :
    ∃ content, toUtf8Bytes content = bytes :=
  ⟨String.ofByteArray ⟨bytes.toArray⟩ valid, rfl⟩

/-- The operands that are accepted are the natural numbers from 1 to 128. -/
theorem byteOperand_ok {value : Value} {name : String} {number : ℚ}
    (accepted : byteOperand value name = .ok number) :
    ∃ natural : ℕ, number = natural ∧ value = .number natural ∧ natural ≠ 0 ∧
      natural ≤ maxDataBytes := by
  unfold byteOperand at accepted
  split at accepted
  case h_2 => exact nomatch accepted
  case h_1 given =>
    split at accepted
    case isTrue => exact nomatch accepted
    case isFalse within =>
      obtain rfl := Except.ok.inj accepted
      push Not at within
      obtain ⟨integral, positive, small⟩ := within
      have whole : given.den = 1 := of_decide_eq_true (Bool.eq_true_of_not_eq_false integral)
      have asInteger : (given.num : ℚ) = given := (Rat.den_eq_one_iff given).mp whole
      rw [← asInteger] at positive small
      have natural : ((given.num.toNat : ℕ) : ℤ) = given.num :=
        Int.toNat_of_nonneg (by exact_mod_cast zero_le_one.trans positive)
      have same : given = (given.num.toNat : ℚ) := by
        conv_lhs => rw [← asInteger, ← natural]
        rfl
      have least : (1 : ℤ) ≤ given.num := by exact_mod_cast positive
      have most : given.num ≤ (maxDataBytes : ℤ) := by exact_mod_cast small
      exact ⟨given.num.toNat, same, congrArg Value.number same, by omega, by omega⟩

theorem byteOperand_natCast {natural : ℕ} (name : String) (nonzero : natural ≠ 0)
    (small : natural ≤ maxDataBytes) : byteOperand (.number natural) name = .ok (natural : ℚ) := by
  have positive : ¬ (natural : ℚ) < 1 := by
    rw [not_lt]
    exact_mod_cast Nat.one_le_iff_ne_zero.mpr nonzero
  have within : ¬ (maxDataBytes : ℚ) < natural := by
    rw [not_lt]
    exact_mod_cast small
  have integral : ¬ JavaScript.isInteger natural = false := by
    rw [JavaScript.isInteger_natCast]
    exact Bool.noConfusion
  exact if_neg (by
    rintro (wrong | wrong | wrong)
    · exact integral wrong
    · exact positive wrong
    · exact within wrong)

theorem checked_ok {α : Type} (value : α) : checked (.ok value) = .ok value := rfl

theorem toNat_ofNat_of_le {natural : ℕ} (small : natural ≤ maxDataBytes) :
    (UInt8.ofNat natural).toNat = natural := by
  have few : natural ≤ 128 := small
  rw [UInt8.toNat_ofNat']
  omega

/-! ### The bytes of a segment -/

/-- The segment of bytes for a readable one. -/
def DataTemplateSegment.bytes : DataTemplateSegment → Segment
  | .literal content => .literal (toUtf8Bytes content)
  | .hex length => .hex (UInt8.ofNat length)
  | .decimal fraction exponent => .decimal (decimalFlags fraction exponent)
  | .integer minDigits maxDigits => .integer (UInt8.ofNat minDigits) (UInt8.ofNat maxDigits)

/-- The bounds on the operands of a readable segment. -/
def DataTemplateSegment.Valid : DataTemplateSegment → Prop
  | .literal content => (toUtf8Bytes content).length ≠ 0 ∧ (toUtf8Bytes content).length ≤ maxDataBytes
  | .hex length => length ≠ 0 ∧ length ≤ maxDataBytes
  | .decimal _ _ => True
  | .integer minDigits maxDigits =>
    minDigits ≠ 0 ∧ minDigits ≤ maxDigits ∧ maxDigits ≤ maxDataBytes

/-- Which segment a value is. The fields of an object have no order. -/
def Denotes (value : Value) : DataTemplateSegment → Prop
  | .literal content => value = .object [("literal", .text content)]
  | .hex length => value = .object [("hex", .number length)]
  | .decimal fraction exponent => ∃ fields, value = .object [("decimal", .object fields)] ∧
      fields.Perm [("fraction", .boolean fraction), ("exponent", .boolean exponent)]
  | .integer minDigits maxDigits => ∃ fields, value = .object [("integer", .object fields)] ∧
      fields.Perm [("minDigits", .number minDigits), ("maxDigits", .number maxDigits)]

/-- A property of an object with two fields. -/
theorem field_of_two (fields : List (String × Value)) {firstKey secondKey : String}
    {firstValue secondValue : Value} (name : String)
    (two : fields = [(firstKey, firstValue), (secondKey, secondValue)])
    (known : (Value.object fields).field name ≠ .missing) :
    (name = firstKey ∧ (Value.object fields).field name = firstValue) ∨
      (name = secondKey ∧ (Value.object fields).field name = secondValue) := by
  subst two
  simp only [Value.field, List.lookup_cons, List.lookup_nil] at known ⊢
  by_cases isFirst : name = firstKey
  · exact .inl ⟨isFirst, by rw [beq_iff_eq.mpr isFirst]; rfl⟩
  by_cases isSecond : name = secondKey
  · refine .inr ⟨isSecond, ?_⟩
    rw [beq_eq_false_iff_ne.mpr isFirst, beq_iff_eq.mpr isSecond]
    rfl
  · rw [beq_eq_false_iff_ne.mpr isFirst, beq_eq_false_iff_ne.mpr isSecond] at known
    exact absurd rfl known

/-- A value with two keys that has two known properties has just those. -/
theorem object_of_two_keys {value : Value} (first second : String) (differ : first ≠ second)
    (two : value.keys.length = 2) (hasFirst : value.field first ≠ .missing)
    (hasSecond : value.field second ≠ .missing) :
    ∃ fields, value = .object fields ∧
      fields.Perm [(first, value.field first), (second, value.field second)] := by
  cases value with
  | missing | boolean | number | notFinite | text => exact nomatch two
  | object fields =>
    obtain ⟨⟨firstKey, firstValue⟩, ⟨secondKey, secondValue⟩, same⟩ :=
      List.length_eq_two.mp ((List.length_map _).symm.trans two)
    refine ⟨fields, rfl, ?_⟩
    rcases field_of_two fields first same hasFirst with ⟨rfl, isFirst⟩ | ⟨rfl, isFirst⟩
    · rcases field_of_two fields second same hasSecond with ⟨rfl, isSecond⟩ | ⟨rfl, isSecond⟩
      · exact absurd rfl differ
      · rw [isFirst, isSecond, same]
    · rcases field_of_two fields second same hasSecond with ⟨rfl, isSecond⟩ | ⟨rfl, isSecond⟩
      · rw [isFirst, isSecond, same]
        exact .swap ..
      · exact absurd rfl differ

/-- A value with one key has just that field. -/
theorem object_of_one_key {value : Value} {name : String} (one : value.keys.length = 1)
    (member : name ∈ value.keys) : value = .object [(name, value.field name)] := by
  cases value with
  | missing | boolean | number | notFinite | text => exact nomatch one
  | object =>
    obtain ⟨⟨key, content⟩, rfl⟩ := List.length_eq_one_iff.mp ((List.length_map _).symm.trans one)
    obtain rfl := List.mem_singleton.mp member
    simp only [Value.field, List.lookup_cons_self, Option.getD_some]

variable {index : ℕ} {segments : List DataTemplateSegment} {value : Value} {bytes template : Bytes}

theorem encodeLiteral_ok (accepted : encodeLiteral index value = .ok bytes) :
    ∃ content, value = .text content ∧ (DataTemplateSegment.literal content).Valid ∧
      bytes = (DataTemplateSegment.literal content).bytes.encode := by
  unfold encodeLiteral at accepted
  split at accepted
  case h_2 => exact nomatch accepted
  case h_1 content =>
    obtain ⟨number, operand, rfl⟩ := ok_of_map accepted
    obtain ⟨natural, rfl, same, nonzero, small⟩ := byteOperand_ok operand
    obtain rfl : natural = (toUtf8Bytes content).length := by
      have equal := Value.number.inj same
      exact_mod_cast equal.symm
    exact ⟨content, rfl, ⟨nonzero, small⟩, rfl⟩

theorem encodeDecimal_ok (accepted : encodeDecimal index value = .ok bytes) :
    ∃ fraction exponent, Denotes (.object [("decimal", value)]) (.decimal fraction exponent) ∧
      bytes = (DataTemplateSegment.decimal fraction exponent).bytes.encode := by
  unfold encodeDecimal at accepted
  split at accepted
  case h_2 => exact nomatch accepted
  case h_1 fraction exponent isFraction isExponent =>
    split at accepted
    case isTrue => exact nomatch accepted
    case isFalse two =>
      obtain rfl := Except.ok.inj accepted
      obtain ⟨fields, rfl, same⟩ := object_of_two_keys "fraction" "exponent" (by decide)
        (not_not.mp two) (by rw [isFraction]; exact nofun)
        (by rw [isExponent]; exact nofun)
      rw [isFraction, isExponent] at same
      exact ⟨fraction, exponent, ⟨fields, rfl, same⟩, rfl⟩

theorem encodeInteger_ok (accepted : encodeInteger index value = .ok bytes) :
    ∃ minDigits maxDigits, Denotes (.object [("integer", value)]) (.integer minDigits maxDigits) ∧
      (DataTemplateSegment.integer minDigits maxDigits).Valid ∧
      bytes = (DataTemplateSegment.integer minDigits maxDigits).bytes.encode := by
  obtain ⟨_, isLeast, accepted⟩ := ok_of_bind accepted
  obtain ⟨_, isMost, accepted⟩ := ok_of_bind accepted
  obtain ⟨minDigits, rfl, least, nonzero, _⟩ := byteOperand_ok isLeast
  obtain ⟨maxDigits, rfl, most, _, small⟩ := byteOperand_ok isMost
  split at accepted
  case isTrue => exact nomatch accepted
  case isFalse within =>
    obtain rfl := Except.ok.inj accepted
    push Not at within
    obtain ⟨ordered, two⟩ := within
    obtain ⟨fields, rfl, same⟩ := object_of_two_keys "minDigits" "maxDigits" (by decide)
      two (by rw [least]; exact nofun) (by rw [most]; exact nofun)
    rw [least, most] at same
    exact ⟨minDigits, maxDigits, ⟨fields, rfl, same⟩, ⟨nonzero, by exact_mod_cast ordered, small⟩, rfl⟩

/-- A value that is encoded is a valid segment, and its bytes are those of the segment. -/
theorem encodeSegment_ok (accepted : encodeSegment index value = .ok bytes) :
    ∃ segment, Denotes value segment ∧ segment.Valid ∧ bytes = segment.bytes.encode := by
  unfold encodeSegment at accepted
  split at accepted
  case isTrue => exact nomatch accepted
  case isFalse one =>
    have one := not_not.mp one
    split at accepted
    case isTrue isLiteral =>
      have object := object_of_one_key one isLiteral
      obtain ⟨content, isText, valid, same⟩ := encodeLiteral_ok accepted
      rw [isText] at object
      exact ⟨.literal content, object, valid, same⟩
    split at accepted
    case isTrue isHex =>
      have object := object_of_one_key one isHex
      obtain ⟨number, operand, rfl⟩ := ok_of_map accepted
      obtain ⟨natural, rfl, same, nonzero, small⟩ := byteOperand_ok operand
      rw [same] at object
      exact ⟨.hex natural, object, ⟨nonzero, small⟩, rfl⟩
    split at accepted
    case isTrue isDecimal =>
      have object := object_of_one_key one isDecimal
      obtain ⟨fraction, exponent, denotes, same⟩ := encodeDecimal_ok accepted
      rw [← object] at denotes
      exact ⟨.decimal fraction exponent, denotes, trivial, same⟩
    split at accepted
    case isTrue isInteger =>
      have object := object_of_one_key one isInteger
      obtain ⟨minDigits, maxDigits, denotes, valid, same⟩ := encodeInteger_ok accepted
      rw [← object] at denotes
      exact ⟨.integer minDigits maxDigits, denotes, valid, same⟩
    case isFalse => exact nomatch accepted

/-- A valid segment is encoded from its object. -/
theorem encodeSegment_value {segment : DataTemplateSegment} (index : ℕ) (valid : segment.Valid) :
    encodeSegment index segment.value = .ok segment.bytes.encode := by
  cases segment with
  | literal =>
    have operand := byteOperand_natCast (segmentName index ++ " literal length in bytes") valid.1
      valid.2
    show (byteOperand _ _).map _ = _
    rw [operand]
    rfl
  | hex length =>
    have operand := byteOperand_natCast (segmentName index ++ " hex length") valid.1 valid.2
    show (byteOperand (.number length) _).map _ = _
    rw [operand]
    rfl
  | decimal => rfl
  | integer minDigits maxDigits =>
    obtain ⟨nonzero, ordered, small⟩ := valid
    have least := byteOperand_natCast (segmentName index ++ " integer minDigits") nonzero
      (ordered.trans small)
    have most := byteOperand_natCast (segmentName index ++ " integer maxDigits")
      (fun zero => nonzero (Nat.le_zero.mp (zero ▸ ordered))) small
    have inOrder : ¬ ((maxDigits : ℚ) < minDigits ∨ [("minDigits", Value.number minDigits),
        ("maxDigits", Value.number maxDigits)].length ≠ 2) := by
      rintro (less | other)
      · exact absurd less (not_lt.mpr (by exact_mod_cast ordered))
      · exact other rfl
    show (byteOperand (.number minDigits) _ >>= fun _ => byteOperand (.number maxDigits) _ >>= _) = _
    rw [least]
    show (byteOperand (.number maxDigits) _ >>= _) = _
    rw [most]
    exact if_neg inOrder

/-- The bytes of segments, one after the other. -/
def templateOf (segments : List DataTemplateSegment) : Bytes :=
  segments.flatMap fun segment => segment.bytes.encode

theorem encodeSegments_ok {values : List Value} (accepted : encodeSegments index values = .ok bytes) :
    ∃ segments, List.Forall₂ Denotes values segments ∧ (∀ segment ∈ segments, segment.Valid) ∧
      bytes = templateOf segments := by
  induction values generalizing index bytes with
  | nil => exact ⟨[], .nil, nofun, (Except.ok.inj accepted).symm⟩
  | cons value values inductionHypothesis =>
    obtain ⟨first, encoded, accepted⟩ := ok_of_bind accepted
    obtain ⟨later, encodedLater, accepted⟩ := ok_of_bind accepted
    obtain rfl := Except.ok.inj accepted
    obtain ⟨segment, denotes, valid, rfl⟩ := encodeSegment_ok encoded
    obtain ⟨segments, allDenote, allValid, rfl⟩ := inductionHypothesis encodedLater
    exact ⟨segment :: segments, .cons denotes allDenote, List.forall_mem_cons.mpr ⟨valid, allValid⟩,
      rfl⟩

theorem encodeSegments_values (index : ℕ) (valid : ∀ segment ∈ segments, segment.Valid) :
    encodeSegments index (segments.map DataTemplateSegment.value) = .ok (templateOf segments) := by
  induction segments generalizing index with
  | nil => rfl
  | cons segment segments inductionHypothesis =>
    obtain ⟨first, later⟩ := List.forall_mem_cons.mp valid
    rw [List.map_cons, encodeSegments, encodeSegment_value index first,
      inductionHypothesis (index + 1) later]
    rfl

/-! ### Reading segments back -/

theorem decimalFlags_read (fraction exponent : Bool) :
    decide (decimalFlags fraction exponent &&& 1 ≠ 0) = fraction ∧
      decide (decimalFlags fraction exponent &&& 2 ≠ 0) = exponent := by
  cases fraction <;> cases exponent <;> exact ⟨rfl, rfl⟩

/-- A valid segment is read back where its bytes stand. -/
theorem decodeSegment_eq {after : Bytes} {at_ : ℕ} {segment : DataTemplateSegment}
    (short : template.length ≤ maxTemplateBytes) (valid : segment.Valid)
    (here : At template at_ (segment.bytes.encode ++ after)) :
    decodeSegment template at_ = .ok (segment, segment.bytes.encode.length) := by
  have total := here.length
  have few : template.length ≤ 256 := short
  have inside : 2 ≤ (segment.bytes.encode ++ after).length := by
    cases segment <;> exact Nat.le_add_left _ _
  have first : checked (offset 53 at_ 1) = .ok (at_ + 1) := by
    rw [offset_eq (by omega)]
    rfl
  have second : checked (offset 53 at_ 2) = .ok (at_ + 2) := by
    rw [offset_eq (by omega)]
    rfl
  unfold decodeSegment
  rw [first, second]
  cases segment with
  | literal content =>
    obtain ⟨nonzero, small⟩ := valid
    have op : byteAt template at_ = .ok literalOp := here.first
    have operand : byteAt template (at_ + 1) = .ok (UInt8.ofNat (toUtf8Bytes content).length) :=
      here.byte_eq 1 rfl
    have text : (template.drop (at_ + 2)).take (toUtf8Bytes content).length =
        toUtf8Bytes content := by
      have there : At template (at_ + 2) (toUtf8Bytes content ++ after) :=
        At.skip [literalOp, UInt8.ofNat (toUtf8Bytes content).length] here
      rw [there.drop]
      exact List.take_left
    simp only [op, operand, checked_ok, ok_bind, if_true, toNat_ofNat_of_le small, text,
      toUtf8String_toUtf8Bytes]
    exact congrArg (fun width => Except.ok (DataTemplateSegment.literal content, width))
      (Nat.add_comm 2 _)
  | hex length =>
    have op : byteAt template at_ = .ok hexOp := here.first
    have operand : byteAt template (at_ + 1) = .ok (UInt8.ofNat length) := here.byte_eq 1 rfl
    simp only [op, operand, checked_ok, ok_bind, ops_ne, if_true, if_false,
      toNat_ofNat_of_le valid.2]
    rfl
  | decimal fraction exponent =>
    have op : byteAt template at_ = .ok decimalOp := here.first
    have operand : byteAt template (at_ + 1) = .ok (decimalFlags fraction exponent) :=
      here.byte_eq 1 rfl
    obtain ⟨isFraction, isExponent⟩ := decimalFlags_read fraction exponent
    simp only [op, operand, checked_ok, ok_bind, ops_ne, if_true, if_false, isFraction, isExponent]
    rfl
  | integer minDigits maxDigits =>
    obtain ⟨_, ordered, small⟩ := valid
    have op : byteAt template at_ = .ok integerOp := here.first
    have least : byteAt template (at_ + 1) = .ok (UInt8.ofNat minDigits) := here.byte_eq 1 rfl
    have most : byteAt template (at_ + 2) = .ok (UInt8.ofNat maxDigits) := here.byte_eq 2 rfl
    simp only [op, least, most, checked_ok, ok_bind, ops_ne, if_false,
      toNat_ofNat_of_le small, toNat_ofNat_of_le (ordered.trans small)]
    rfl

/-- The loop reads valid segments back. -/
theorem decodeLoop_eq {fuel at_ : ℕ} (short : template.length ≤ maxTemplateBytes)
    (valid : ∀ segment ∈ segments, segment.Valid) (here : At template at_ (templateOf segments))
    (enough : segments.length < fuel) :
    decodeLoop template fuel at_ = .ok segments := by
  induction segments generalizing fuel at_ with
  | nil =>
    obtain ⟨fuel, rfl⟩ := Nat.exists_eq_succ_of_ne_zero (Nat.ne_of_gt enough)
    exact if_neg (Nat.not_lt.mpr here.stop.ge)
  | cons segment segments inductionHypothesis =>
    obtain ⟨fuel, rfl⟩ := Nat.exists_eq_succ_of_ne_zero (Nat.ne_of_gt (Nat.zero_lt_of_lt enough))
    obtain ⟨first, later⟩ := List.forall_mem_cons.mp valid
    have here : At template at_ (segment.bytes.encode ++ templateOf segments) := here
    have onward := At.skip segment.bytes.encode here
    have length := onward.length
    have few : template.length ≤ 256 := short
    have inside : at_ < template.length := by
      have some_ : 0 < segment.bytes.encode.length := by
        cases segment <;> exact Nat.succ_pos _
      omega
    rw [decodeLoop, if_pos inside, decodeSegment_eq short first here]
    show (checked (offset 53 at_ segment.bytes.encode.length) >>= _) = _
    rw [offset_eq (by omega)]
    show (decodeLoop template fuel (at_ + segment.bytes.encode.length) >>= _) = _
    rw [inductionHypothesis later onward (Nat.lt_of_succ_lt_succ enough)]
    rfl

/-! ### Round trips -/

/-- A template passes the check exactly when it has no problem. -/
theorem validateDataTemplate_eq_ok :
    validateDataTemplate template = .ok () ↔ templateProblem template = .ok none := by
  unfold validateDataTemplate
  split
  case h_1 reason reported | h_2 problem reported =>
    rw [reported]
    exact ⟨nofun, nofun⟩
  case h_3 reported => exact ⟨fun _ => reported, fun _ => rfl⟩

theorem isValid_of_templateProblem (valid : templateProblem template = .ok none) :
    DataTemplate.isValid template = true := by
  obtain ⟨problem, reported, verdict⟩ := tells_templateProblem template
  obtain rfl := Except.ok.inj (reported.symm.trans valid)
  exact verdict.symm

/-- On every byte string the replay's check ends, inside of it, with the verdict of the contract. -/
theorem template_check_agrees (template : Bytes) :
    (validateDataTemplate template = .ok () ↔ DataTemplate.isValid template = true) ∧
      ∃ problem, templateProblem template = .ok problem := by
  obtain ⟨problem, reported, verdict⟩ := tells_templateProblem template
  rw [validateDataTemplate_eq_ok, reported, ← verdict, Option.isNone_iff_eq_none, Except.ok.injEq]
  exact ⟨.rfl, problem, rfl⟩

/-- There are at least as many bytes as segments. -/
theorem length_le_templateOf (segments : List DataTemplateSegment) :
    segments.length ≤ (templateOf segments).length := by
  induction segments with
  | nil => exact le_rfl
  | cons segment segments =>
    have some_ : 0 < segment.bytes.encode.length := by cases segment <;> exact Nat.succ_pos _
    show segments.length + 1 ≤ (segment.bytes.encode ++ templateOf segments).length
    rw [List.length_append]
    omega

/-- Valid segments are read back from their template when that has no problem. -/
theorem decodeDataTemplate_templateOf (allValid : ∀ segment ∈ segments, segment.Valid)
    (valid : templateProblem (templateOf segments) = .ok none) :
    decodeDataTemplate (templateOf segments) = .ok segments := by
  have short := (decode_of_isValid (isValid_of_templateProblem valid)).1
  unfold decodeDataTemplate
  rw [validateDataTemplate_eq_ok.mpr valid, ok_bind]
  exact decodeLoop_eq short allValid (At.start _)
    (Nat.lt_succ_of_le (length_le_templateOf segments))

/-- The literals of a template are well-formed UTF-8. -/
def LiteralsAreText (template : Bytes) : Prop :=
  ∀ segments, decode template.length template = some segments →
    ∀ text, Segment.literal text ∈ segments → (⟨text.toArray⟩ : ByteArray).IsValidUTF8

/-- The flags of a decimal segment are those of two truth values. -/
theorem exists_decimalFlags {flags : UInt8} (known : flags.toNat ≤ 3) :
    ∃ fraction exponent, decimalFlags fraction exponent = flags := by
  have cases_ : flags.toNat = 0 ∨ flags.toNat = 1 ∨ flags.toNat = 2 ∨ flags.toNat = 3 := by omega
  rcases cases_ with value | value | value | value
  · exact ⟨false, false, (UInt8.toNat_inj.mp value).symm⟩
  · exact ⟨true, false, (UInt8.toNat_inj.mp value).symm⟩
  · exact ⟨false, true, (UInt8.toNat_inj.mp value).symm⟩
  · exact ⟨true, true, (UInt8.toNat_inj.mp value).symm⟩

/-- A valid segment of bytes has a readable form if its text is well-formed. -/
theorem exists_readable {segment : Segment} (valid : segment.Valid)
    (isText : ∀ text, segment = .literal text → (⟨text.toArray⟩ : ByteArray).IsValidUTF8) :
    ∃ readable : DataTemplateSegment, readable.Valid ∧ readable.bytes = segment := by
  cases segment with
  | literal text =>
    obtain ⟨content, rfl⟩ := exists_toUtf8Bytes (isText text rfl)
    exact ⟨.literal content, valid, rfl⟩
  | hex n => exact ⟨.hex n.toNat, valid, congrArg Segment.hex UInt8.ofNat_toNat⟩
  | decimal =>
    obtain ⟨fraction, exponent, rfl⟩ := exists_decimalFlags valid
    exact ⟨.decimal fraction exponent, trivial, rfl⟩
  | integer least most =>
    refine ⟨.integer least.toNat most.toNat, valid, ?_⟩
    show Segment.integer (UInt8.ofNat least.toNat) (UInt8.ofNat most.toNat) = _
    rw [UInt8.ofNat_toNat, UInt8.ofNat_toNat]

/-- Valid segments of bytes have a readable form if their texts are well-formed. -/
theorem exists_all_readable {segments : List Segment} (valid : ∀ segment ∈ segments, segment.Valid)
    (areText : ∀ text, Segment.literal text ∈ segments →
      (⟨text.toArray⟩ : ByteArray).IsValidUTF8) :
    ∃ readable : List DataTemplateSegment, (∀ segment ∈ readable, segment.Valid) ∧
      templateOf readable = segments.flatMap Segment.encode := by
  induction segments with
  | nil => exact ⟨[], nofun, rfl⟩
  | cons segment segments inductionHypothesis =>
    obtain ⟨first, later⟩ := List.forall_mem_cons.mp valid
    obtain ⟨readable, isValid, rfl⟩ := exists_readable first fun text same =>
      areText text (same ▸ List.mem_cons_self)
    obtain ⟨others, allValid, same⟩ := inductionHypothesis later fun text member =>
      areText text (List.mem_cons_of_mem _ member)
    refine ⟨readable :: others, List.forall_mem_cons.mpr ⟨isValid, allValid⟩, ?_⟩
    rw [List.flatMap_cons, ← same]
    rfl

/-- What is encoded is decoded to the segments it was made of. -/
theorem decode_of_encode {values : List Value} (encoded : encodeDataTemplate values = .ok template) :
    ∃ segments, decodeDataTemplate template = .ok segments ∧
      List.Forall₂ Denotes values segments := by
  obtain ⟨bytes, accepted, encoded⟩ := ok_of_bind encoded
  obtain ⟨_, valid, encoded⟩ := ok_of_bind encoded
  obtain rfl := Except.ok.inj encoded
  obtain ⟨segments, denotes, allValid, rfl⟩ := encodeSegments_ok accepted
  exact ⟨segments, decodeDataTemplate_templateOf allValid (validateDataTemplate_eq_ok.mp valid),
    denotes⟩

/-- Encoding and decoding of data templates are inverse to each other. Every list of segments that
is encoded is decoded again from the result. Every valid template whose literals are well-formed
UTF-8 is decoded, and the segments are encoded to the same bytes. So two lists that are encoded to
one template are the same segments. -/
theorem template_round_trip :
    (∀ values template, encodeDataTemplate values = .ok template →
      ∃ segments, decodeDataTemplate template = .ok segments ∧
        List.Forall₂ Denotes values segments) ∧
    (∀ template, templateProblem template = .ok none → LiteralsAreText template →
      ∃ segments, decodeDataTemplate template = .ok segments ∧
        encodeDataTemplate (segments.map DataTemplateSegment.value) = .ok template) ∧
    (∀ first second template, encodeDataTemplate first = .ok template →
      encodeDataTemplate second = .ok template →
      ∃ segments, List.Forall₂ Denotes first segments ∧ List.Forall₂ Denotes second segments) := by
  refine ⟨fun values template => decode_of_encode, fun template valid areText => ?_,
    fun first second template isFirst isSecond => ?_⟩
  · obtain ⟨-, segments, decoded, same, allValid⟩ :=
      decode_of_isValid (isValid_of_templateProblem valid)
    obtain ⟨readable, readableValid, whole⟩ := exists_all_readable allValid (areText segments decoded)
    obtain rfl : templateOf readable = template := whole.trans same
    refine ⟨readable, decodeDataTemplate_templateOf readableValid valid, ?_⟩
    unfold encodeDataTemplate
    rw [encodeSegments_values 0 readableValid, ok_bind, validateDataTemplate_eq_ok.mpr valid]
    rfl
  · obtain ⟨segments, decoded, denotesFirst⟩ := decode_of_encode isFirst
    obtain ⟨others, decodedOthers, denotesSecond⟩ := decode_of_encode isSecond
    obtain rfl := Except.ok.inj (decoded.symm.trans decodedOthers)
    exact ⟨segments, denotesFirst, denotesSecond⟩

/-- A template of a text and a number, from an object with its fields in the other order. -/
theorem template_round_trip_fields_swapped :
    encodeDataTemplate [.object [("literal", .text "é")], .object [("integer",
        .object [("maxDigits", .number 19), ("minDigits", .number 1)])]] =
      .ok [1, 2, 0xc3, 0xa9, 4, 1, 19] ∧
    ∃ segments, decodeDataTemplate [1, 2, 0xc3, 0xa9, 4, 1, 19] = .ok segments ∧
      List.Forall₂ Denotes [.object [("literal", .text "é")], .object [("integer",
        .object [("maxDigits", .number 19), ("minDigits", .number 1)])]] segments :=
  ⟨rfl, template_round_trip.1 _ _ rfl⟩

end TemplateReplay

end D20
