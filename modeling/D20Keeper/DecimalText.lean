/-
This file is a small library of numbers written as decimal text: the text of a natural number, the
parser of an unsigned integer that refuses anything else, and the lenient reading of a database,
which takes the longest number a text starts with and stops at the largest integer. Each reads back
what is written. The last part is about digits that are padded with zeros to a fixed width on either
side.
-/

import Mathlib.Algebra.Group.Nat.Defs
import Mathlib.Data.List.DropRight

namespace Decimal

theorem toList_toString (number : ℕ) : (toString number).toList = Nat.toDigits 10 number := by
  rw [Nat.toString_eq_ofList_toDigits, String.toList_ofList]

theorem isDigit_of_mem {number : ℕ} {char : Char} (member : char ∈ Nat.toDigits 10 number) :
    char.isDigit = true :=
  Nat.isDigit_of_mem_toDigits (by decide) (by decide) member

/-- A number starts with a digit, not with a sign or a blank. -/
theorem toDigits_eq_cons (number : ℕ) : ∃ first rest, Nat.toDigits 10 number = first :: rest ∧
    first.isDigit = true := by
  obtain ⟨first, rest, digits⟩ := List.exists_cons_of_ne_nil (@Nat.toDigits_ne_nil number 10)
  exact ⟨first, rest, digits, @isDigit_of_mem number first (digits ▸ List.mem_cons_self)⟩

/-- The largest number a signed column of 64 bits holds. -/
def largestInteger : ℕ := 2 ^ 63 - 1

/-- The number a text of digits starts with, cut off at a limit. -/
def leading (limit : ℕ) (chars : List Char) : ℕ :=
  min (Nat.ofDigitChars 10 (chars.takeWhile Char.isDigit) 0) limit

/-- The blanks a database passes over. -/
def isBlank (char : Char) : Bool := char == ' ' || ('\t' ≤ char && char ≤ '\r')

/-- `CAST(text AS INTEGER)`: the number a text starts with, behind blanks and a sign, or zero. -/
def cast (text : String) : ℤ :=
  match text.toList.dropWhile isBlank with
  | '-' :: rest => -(leading (largestInteger + 1) rest : ℤ)
  | '+' :: rest => leading largestInteger rest
  | chars => leading largestInteger chars

variable {char : Char}

/-- A digit is no blank. -/
theorem isBlank_of_isDigit (digit : char.isDigit = true) : isBlank char = false := by
  rw [Char.isDigit, Bool.and_eq_true, decide_eq_true_eq, decide_eq_true_eq] at digit
  rw [isBlank, Bool.or_eq_false_iff, Bool.and_eq_false_iff, decide_eq_false_iff_not]
  refine ⟨beq_eq_false_iff_ne.mpr ?_, .inr (decide_eq_false fun low => ?_)⟩
  · rintro rfl
    exact absurd digit.1 (by decide)
  · exact absurd (UInt32.le_trans digit.1 low) (by decide)

/-- What is written is read by the database, up to its largest integer. -/
theorem cast_toString (number : ℕ) :
    cast (toString number) = (min number largestInteger : ℕ) := by
  obtain ⟨first, rest, digits, digit⟩ := toDigits_eq_cons number
  have read : (toString number).toList.dropWhile isBlank = first :: rest := by
    rw [toList_toString, digits, List.dropWhile_cons_of_neg]
    rw [isBlank_of_isDigit digit]
    exact Bool.false_ne_true
  have value : leading largestInteger (first :: rest) = min number largestInteger := by
    rw [leading, ← digits, List.takeWhile_eq_self_iff.mpr fun _ => isDigit_of_mem,
      Nat.ofDigitChars_ten_toDigits]
  unfold cast
  rw [read]
  split
  case h_1 sign => cases sign; exact absurd digit (by decide)
  case h_2 sign => cases sign; exact absurd digit (by decide)
  case h_3 => rw [value]

/-- The text before the first separator and the text behind it. -/
def splitOnce (separator : Char) (text : String) : Option (String × String) :=
  match text.toList.dropWhile (· != separator) with
  | [] => none
  | _ :: rest => some (String.ofList (text.toList.takeWhile (· != separator)), String.ofList rest)

/-- A text that has no separator is not split. -/
theorem splitOnce_eq_none {separator : Char} {text : String}
    (others : ∀ char ∈ text.toList, char ≠ separator) : splitOnce separator text = none := by
  have all : text.toList.dropWhile (· != separator) = [] :=
    List.dropWhile_eq_nil_iff.mpr fun char member => bne_iff_ne.mpr (others char member)
  unfold splitOnce
  rw [all]

/-- A text is split at its first separator. -/
theorem splitOnce_append {separator : Char} {first : String}
    (others : ∀ char ∈ first.toList, char ≠ separator) (second : String) :
    splitOnce separator (first ++ String.singleton separator ++ second) = some (first, second) := by
  have chars : (first ++ String.singleton separator ++ second).toList =
      first.toList ++ separator :: second.toList := by
    rw [String.toList_append, String.toList_append, String.toList_singleton, List.append_assoc,
      List.singleton_append]
  have before : ∀ char ∈ first.toList, (char != separator) = true := fun char member =>
    bne_iff_ne.mpr (others char member)
  unfold splitOnce
  rw [chars, List.dropWhile_append_of_pos before, List.takeWhile_append_of_pos before]
  simp only [List.dropWhile_cons, List.takeWhile_cons, bne_self_eq_false, Bool.false_eq_true,
    if_false, List.append_nil, String.ofList_toList]

/-- A character that is no digit is not among the digits of a number. -/
theorem ne_of_mem_toString {separator : Char} (noDigit : separator.isDigit = false) {number : ℕ}
    {char : Char} (member : char ∈ (toString number).toList) : char ≠ separator := by
  rw [toList_toString] at member
  rintro rfl
  exact Bool.false_ne_true (noDigit.symm.trans (isDigit_of_mem member))

/-! ### Padded numbers -/

/-- The digits of a number behind as many zeros as it takes to fill a width. -/
def zeroPadded (width number : ℕ) : List Char :=
  List.replicate (width - (Nat.toDigits 10 number).length) '0' ++ Nat.toDigits 10 number

/-- A text of digits without the zeros it ends with. -/
def withoutEndZeros (chars : List Char) : List Char := chars.rdropWhile (· == '0')

/-- A text filled up with zeros to a width. -/
def filledUp (width : ℕ) (chars : List Char) : List Char :=
  chars ++ List.replicate (width - chars.length) '0'

theorem isDigit_of_mem_zeroPadded {width number : ℕ} (member : char ∈ zeroPadded width number) :
    char.isDigit = true := by
  rcases List.mem_append.mp member with zero | digit
  · rw [List.eq_of_mem_replicate zero]
    rfl
  · exact isDigit_of_mem digit

theorem length_zeroPadded {width number : ℕ} (positive : 0 < width)
    (below : number < 10 ^ width) : (zeroPadded width number).length = width := by
  have short := (Nat.length_toDigits_le_iff (by decide) positive).mpr below
  rw [zeroPadded, List.length_append, List.length_replicate]
  omega

/-- Leading zeros do not change a number. -/
theorem ofDigitChars_zeroPadded (width number : ℕ) :
    Nat.ofDigitChars 10 (zeroPadded width number) 0 = number := by
  have zeros : ∀ count, Nat.ofDigitChars 10 (List.replicate count '0' ++ Nat.toDigits 10 number) 0 =
      Nat.ofDigitChars 10 (Nat.toDigits 10 number) 0 := by
    intro count
    induction count with
    | zero => rfl
    | succ count inductionHypothesis =>
      rw [List.replicate_succ, List.cons_append, Nat.ofDigitChars_cons]
      exact inductionHypothesis
  rw [zeroPadded, zeros, Nat.ofDigitChars_ten_toDigits]

/-- The zeros a text ends with come back when it is filled up to its length. -/
theorem filledUp_withoutEndZeros (chars : List Char) :
    filledUp chars.length (withoutEndZeros chars) = chars := by
  have zeros : chars.rtakeWhile (· == '0') =
      List.replicate (chars.rtakeWhile (· == '0')).length '0' := by
    refine List.eq_replicate_of_mem fun char member => ?_
    rw [List.rtakeWhile, List.mem_reverse] at member
    have isZero := List.mem_takeWhile_imp member
    exact eq_of_beq isZero
  have parts : chars.rdropWhile (· == '0') ++ chars.rtakeWhile (· == '0') = chars :=
    List.rdropWhile_append_rtakeWhile ..
  have lengths := congrArg List.length parts
  rw [List.length_append] at lengths
  have count : chars.length - (chars.rdropWhile (· == '0')).length =
      (chars.rtakeWhile (· == '0')).length := by omega
  rw [filledUp, withoutEndZeros, count, ← zeros, parts]

theorem mem_of_mem_withoutEndZeros {chars : List Char} (member : char ∈ withoutEndZeros chars) :
    char ∈ chars :=
  (List.rdropWhile_prefix ..).subset member

theorem length_withoutEndZeros_le (chars : List Char) :
    (withoutEndZeros chars).length ≤ chars.length :=
  (List.rdropWhile_prefix ..).length_le

end Decimal
