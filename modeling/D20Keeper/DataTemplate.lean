/-
This file models the library `DataTemplate`: the byte templates of signed data,
which of them are well formed, and which data they accept. Offsets into the
template and the data are the lists that start there.
-/

import D20Keeper.Evm

namespace D20

open Evm

namespace DataTemplate

def maxDataBytes : Nat := 128

def maxTemplateBytes : Nat := 256

def literalOp : UInt8 := 1

def hexOp : UInt8 := 2

def decimalOp : UInt8 := 3

def integerOp : UInt8 := 4

/-! ### Well-formed templates -/

/-- The loop of `isValid` over the template from an offset on, with the length of the shortest
match so far and whether a variable segment was seen. Every segment takes a byte or more, so the
length of the template is fuel enough. -/
def validFrom : Nat → Bytes → Nat → Bool → Bool
  | _, [], shortest, varied => varied && decide (shortest ≤ maxDataBytes)
  | 0, _ :: _, _, _ => false
  | fuel + 1, op :: operands, shortest, varied =>
    if op = literalOp then
      match operands with
      | [] => false
      | n :: rest =>
        if n.toNat = 0 ∨ maxDataBytes < n.toNat ∨ rest.length < n.toNat then false
        else validFrom fuel (rest.drop n.toNat) (shortest + n.toNat) varied
    else if op = hexOp then
      match operands with
      | [] => false
      | n :: rest =>
        if n.toNat = 0 ∨ maxDataBytes < n.toNat then false
        else validFrom fuel rest (shortest + n.toNat) true
    else if op = decimalOp then
      match operands with
      | [] => false
      | flags :: rest => if 3 < flags.toNat then false else validFrom fuel rest (shortest + 1) true
    else if op = integerOp then
      match operands with
      | least :: most :: rest =>
        if least.toNat = 0 ∨ most.toNat < least.toNat ∨ maxDataBytes < most.toNat then false
        else validFrom fuel rest (shortest + least.toNat) true
      | _ => false
    else false

/-- `isValid`. -/
def isValid (template : Bytes) : Bool :=
  if template.length = 0 ∨ maxTemplateBytes < template.length then false
  else validFrom template.length template 0 false

/-! ### Matching -/

/-- `_isDigit`. -/
def isDigit (c : UInt8) : Bool := 0x30 ≤ c && c ≤ 0x39

variable (data : Bytes)

/-- `_digits`: the data after its leading digits. -/
def digits : Bytes := data.dropWhile isDigit

/-- `_hex`: the data after exactly `n` lower-case hexadecimal characters. -/
def hex (n : Nat) : Option Bytes :=
  if data.length < n then none
  else if (data.take n).all fun c => isDigit c || (0x61 ≤ c && c ≤ 0x66) then some (data.drop n)
  else none

/-- The whole part of a number in `_decimal`: zero alone, or digits without a leading zero. -/
def decimalWhole : Bytes → Option Bytes
  | [] => none
  | c :: rest =>
    if isDigit c = false then none
    else if c = 0x30 then
      match rest with
      | [] => some []
      | next :: _ => if isDigit next then none else some rest
    else some (digits rest)

/-- The optional fraction in `_decimal`. -/
def decimalFraction : Bytes → Option Bytes
  | [] => some []
  | c :: rest =>
    if c = 0x2e then
      if (digits rest).length = rest.length then none else some (digits rest)
    else some (c :: rest)

/-- The data after an optional sign. -/
def skipSign : Bytes → Bytes
  | [] => []
  | c :: rest => if c = 0x2b ∨ c = 0x2d then rest else c :: rest

/-- The optional exponent in `_decimal`. -/
def decimalExponent : Bytes → Option Bytes
  | [] => some []
  | c :: rest =>
    if c = 0x65 ∨ c = 0x45 then
      let first := skipSign rest
      if (digits first).length = first.length then none else some (digits first)
    else some (c :: rest)

/-- `_decimal`. -/
def decimal (fraction exponent : Bool) : Option Bytes := do
  let whole ← decimalWhole data
  let fractional ← if fraction then decimalFraction whole else some whole
  if exponent then decimalExponent fractional else some fractional

/-- `_integer`. -/
def integer (least most : Nat) : Option Bytes :=
  match data with
  | [] => none
  | c :: _ =>
    if isDigit c = false ∨ c = 0x30 then none
    else
      let count := data.length - (digits data).length
      if least ≤ count ∧ count ≤ most then some (digits data) else none

/-- The loop of `matches` over the template and the data from offsets on. A template that ends
inside a segment is read out of bounds. -/
def matchesFrom : Nat → Bytes → Bytes → Except Panic Bool
  | _, [], data => .ok (decide (data = []))
  | 0, _ :: _, _ => .ok false
  | fuel + 1, op :: operands, data =>
    if op = literalOp then
      match operands with
      | [] => .error .outOfBounds
      | n :: rest =>
        if data.length < n.toNat then .ok false
        else if rest.length < n.toNat then
          if data.take rest.length = rest then .error .outOfBounds else .ok false
        else if data.take n.toNat = rest.take n.toNat then
          matchesFrom fuel (rest.drop n.toNat) (data.drop n.toNat)
        else .ok false
    else if op = hexOp then
      match operands with
      | [] => .error .outOfBounds
      | n :: rest =>
        match hex data n.toNat with
        | none => .ok false
        | some left => matchesFrom fuel rest left
    else if op = decimalOp then
      match operands with
      | [] => .error .outOfBounds
      | flags :: rest =>
        match decimal data (flags.toNat % 2 = 1) (flags.toNat / 2 % 2 = 1) with
        | none => .ok false
        | some left => matchesFrom fuel rest left
    else if op = integerOp then
      match operands with
      | least :: most :: rest =>
        match integer data least.toNat most.toNat with
        | none => .ok false
        | some left => matchesFrom fuel rest left
      | _ => .error .outOfBounds
    else .ok false

/-- `matches`: whether data is exactly a record the template describes. -/
def matchesData (template data : Bytes) : Except Panic Bool :=
  if data.length = 0 ∨ maxDataBytes < data.length then .ok false
  else matchesFrom template.length template data

/-! ### Segment encoders -/

/-- `literal`. -/
def literal (text : String) : Bytes :=
  [literalOp, UInt8.ofNat (ascii text).length] ++ ascii text

/-- `hexChars`. -/
def hexChars (n : Nat) : Bytes := [hexOp, UInt8.ofNat n]

/-- `decimal`, the encoder. -/
def decimalSegment (fraction exponent : Bool) : Bytes :=
  [decimalOp, (if fraction then 1 else 0) + (if exponent then 2 else 0)]

/-- `integer`, the encoder. -/
def integerSegment (minDigits maxDigits : Nat) : Bytes :=
  [integerOp, UInt8.ofNat minDigits, UInt8.ofNat maxDigits]

end DataTemplate

end D20
