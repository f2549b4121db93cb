/-
This file says what a data template describes. A template is a sequence of segments,
each with a language of words, and greedy matching decides the concatenations of those
words: what it accepts is such a concatenation, and where every number is the last
segment or stands before a literal that cannot continue it, every such concatenation
is accepted.
-/

import Mathlib.Data.List.TakeWhile
import D20Keeper.DataTemplate

namespace D20

open Evm

namespace DataTemplate

/-! ### Segments -/

/-- A segment of a template with its operands. -/
inductive Segment where
  | literal (text : Bytes)
  | hex (n : UInt8)
  | decimal (flags : UInt8)
  | integer (least most : UInt8)
deriving DecidableEq

namespace Segment

/-- The bytes of a segment in a template. -/
def encode : Segment → Bytes
  | literal text => literalOp :: UInt8.ofNat text.length :: text
  | hex n => [hexOp, n]
  | decimal flags => [decimalOp, flags]
  | integer least most => [integerOp, least, most]

/-- The bounds on the operands of a segment. -/
def Valid : Segment → Prop
  | literal text => text.length ≠ 0 ∧ text.length ≤ maxDataBytes
  | hex n => n.toNat ≠ 0 ∧ n.toNat ≤ maxDataBytes
  | decimal flags => flags.toNat ≤ 3
  | integer least most =>
    least.toNat ≠ 0 ∧ least.toNat ≤ most.toNat ∧ most.toNat ≤ maxDataBytes

/-- The data after the segment, matched greedily. -/
def scan : Segment → Bytes → Option Bytes
  | literal text, data =>
    if data.take text.length = text then some (data.drop text.length) else none
  | hex n, data => DataTemplate.hex data n.toNat
  | decimal flags, data =>
    DataTemplate.decimal data (flags.toNat % 2 = 1) (flags.toNat / 2 % 2 = 1)
  | integer least most, data => DataTemplate.integer data least.toNat most.toNat

/-- The length of the shortest word of a segment. -/
def shortest : Segment → Nat
  | literal text => text.length
  | hex n => n.toNat
  | decimal _ => 1
  | integer least _ => least.toNat

/-- Whether a segment has more than one word. -/
def varies : Segment → Bool
  | literal _ => false
  | _ => true

end Segment

/-- The data after all the segments. -/
def scanAll : List Segment → Bytes → Option Bytes
  | [], data => some data
  | segment :: rest, data => (segment.scan data).bind (scanAll rest)

/-- The first segment of a template within its bounds, and the template after it. -/
def readSegment : Bytes → Option (Segment × Bytes)
  | [] => none
  | op :: operands =>
    if op = literalOp then
      match operands with
      | [] => none
      | n :: rest =>
        if n.toNat = 0 ∨ maxDataBytes < n.toNat ∨ rest.length < n.toNat then none
        else some (.literal (rest.take n.toNat), rest.drop n.toNat)
    else if op = hexOp then
      match operands with
      | [] => none
      | n :: rest => if n.toNat = 0 ∨ maxDataBytes < n.toNat then none else some (.hex n, rest)
    else if op = decimalOp then
      match operands with
      | [] => none
      | flags :: rest => if 3 < flags.toNat then none else some (.decimal flags, rest)
    else if op = integerOp then
      match operands with
      | least :: most :: rest =>
        if least.toNat = 0 ∨ most.toNat < least.toNat ∨ maxDataBytes < most.toNat then none
        else some (.integer least most, rest)
      | _ => none
    else none

/-- The segments of a template, `decodeDataTemplate` without the texts of its literals. -/
def decode : Nat → Bytes → Option (List Segment)
  | _, [] => some []
  | 0, _ :: _ => none
  | fuel + 1, op :: operands =>
    match readSegment (op :: operands) with
    | none => none
    | some (segment, rest) => (decode fuel rest).map (segment :: ·)

/-! ### One segment -/

/-- The shapes of the start of a template, with what is read off it: each kind of segment is cut
off, out of its bounds or within them, or the opcode is none of the four. -/
inductive Reads : Bytes → Option (Segment × Bytes) → Prop
  | literalCut : Reads [literalOp] none
  | literalBad (n : UInt8) (rest : Bytes)
      (bad : n.toNat = 0 ∨ maxDataBytes < n.toNat ∨ rest.length < n.toNat) :
      Reads (literalOp :: n :: rest) none
  | literal (n : UInt8) (text rest : Bytes) (length : text.length = n.toNat)
      (nonempty : n.toNat ≠ 0) (short : n.toNat ≤ maxDataBytes) :
      Reads (literalOp :: n :: (text ++ rest)) (some (.literal text, rest))
  | hexCut : Reads [hexOp] none
  | hexBad (n : UInt8) (rest : Bytes) (bad : n.toNat = 0 ∨ maxDataBytes < n.toNat) :
      Reads (hexOp :: n :: rest) none
  | hex (n : UInt8) (rest : Bytes) (nonzero : n.toNat ≠ 0) (short : n.toNat ≤ maxDataBytes) :
      Reads (hexOp :: n :: rest) (some (.hex n, rest))
  | decimalCut : Reads [decimalOp] none
  | decimalBad (flags : UInt8) (rest : Bytes) (bad : 3 < flags.toNat) :
      Reads (decimalOp :: flags :: rest) none
  | decimal (flags : UInt8) (rest : Bytes) (known : flags.toNat ≤ 3) :
      Reads (decimalOp :: flags :: rest) (some (.decimal flags, rest))
  | integerCut : Reads [integerOp] none
  | integerHalf (least : UInt8) : Reads [integerOp, least] none
  | integerBad (least most : UInt8) (rest : Bytes)
      (bad : least.toNat = 0 ∨ most.toNat < least.toNat ∨ maxDataBytes < most.toNat) :
      Reads (integerOp :: least :: most :: rest) none
  | integer (least most : UInt8) (rest : Bytes) (nonzero : least.toNat ≠ 0)
      (ordered : least.toNat ≤ most.toNat) (short : most.toNat ≤ maxDataBytes) :
      Reads (integerOp :: least :: most :: rest) (some (.integer least most, rest))
  | unknown (op : UInt8) (operands : Bytes) (notLiteral : op ≠ literalOp) (notHex : op ≠ hexOp)
      (notDecimal : op ≠ decimalOp) (notInteger : op ≠ integerOp) : Reads (op :: operands) none

theorem reads_readSegment {template : Bytes} (nonempty : template ≠ []) :
    Reads template (readSegment template) := by
  cases template with
  | nil => exact absurd rfl nonempty
  | cons op operands =>
    by_cases isLiteral : op = literalOp
    · subst isLiteral
      cases operands with
      | nil => exact .literalCut
      | cons n rest =>
        show Reads _ (if n.toNat = 0 ∨ maxDataBytes < n.toNat ∨ rest.length < n.toNat then none
          else some (.literal (rest.take n.toNat), rest.drop n.toNat))
        by_cases bad : n.toNat = 0 ∨ maxDataBytes < n.toNat ∨ rest.length < n.toNat
        · rw [if_pos bad]
          exact .literalBad n rest bad
        · rw [if_neg bad]
          have whole := Reads.literal n (rest.take n.toNat) (rest.drop n.toNat)
            (by rw [List.length_take]; omega) (by omega) (by omega)
          rw [List.take_append_drop] at whole
          exact whole
    by_cases isHex : op = hexOp
    · subst isHex
      cases operands with
      | nil => exact .hexCut
      | cons n rest =>
        show Reads _ (if n.toNat = 0 ∨ maxDataBytes < n.toNat then none else some (.hex n, rest))
        by_cases bad : n.toNat = 0 ∨ maxDataBytes < n.toNat
        · rw [if_pos bad]
          exact .hexBad n rest bad
        · rw [if_neg bad]
          exact .hex n rest (by omega) (by omega)
    by_cases isDecimal : op = decimalOp
    · subst isDecimal
      cases operands with
      | nil => exact .decimalCut
      | cons flags rest =>
        show Reads _ (if 3 < flags.toNat then none else some (.decimal flags, rest))
        by_cases bad : 3 < flags.toNat
        · rw [if_pos bad]
          exact .decimalBad flags rest bad
        · rw [if_neg bad]
          exact .decimal flags rest (Nat.not_lt.mp bad)
    by_cases isInteger : op = integerOp
    · subst isInteger
      match operands with
      | [] => exact .integerCut
      | [least] => exact .integerHalf least
      | least :: most :: rest =>
        show Reads _ (if least.toNat = 0 ∨ most.toNat < least.toNat ∨ maxDataBytes < most.toNat
          then none else some (.integer least most, rest))
        by_cases bad : least.toNat = 0 ∨ most.toNat < least.toNat ∨ maxDataBytes < most.toNat
        · rw [if_pos bad]
          exact .integerBad least most rest bad
        · rw [if_neg bad]
          exact .integer least most rest (by omega) (by omega) (by omega)
    · have unread : readSegment (op :: operands) = none := by
        unfold readSegment
        simp only [if_neg isLiteral, if_neg isHex, if_neg isDecimal, if_neg isInteger]
      rw [unread]
      exact .unknown op operands isLiteral isHex isDecimal isInteger

variable {segment : Segment} {fuel : Nat} {data word rest template : Bytes}
  {segments : List Segment}

/-- What is read is the encoding of a valid segment. -/
theorem Reads.encode (reads : Reads template (some (segment, rest))) :
    template = segment.encode ++ rest ∧ segment.Valid := by
  cases reads with
  | literal n text rest length nonempty short =>
    refine ⟨?_, by rw [length]; exact nonempty, by rw [length]; exact short⟩
    show _ = literalOp :: UInt8.ofNat text.length :: (text ++ rest)
    rw [length, UInt8.ofNat_toNat]
  | hex n rest nonzero short => exact ⟨rfl, nonzero, short⟩
  | decimal flags rest known => exact ⟨rfl, known⟩
  | integer least most rest nonzero ordered short => exact ⟨rfl, nonzero, ordered, short⟩

/-- The loop of `isValid` after a segment was read. -/
def validAfter (fuel shortest : Nat) (varied : Bool) : Option (Segment × Bytes) → Bool
  | none => false
  | some (segment, rest) =>
    validFrom fuel rest (shortest + segment.shortest) (varied || segment.varies)

theorem Reads.validFrom_eq {read : Option (Segment × Bytes)} (reads : Reads template read)
    (fuel shortest : Nat) (varied : Bool) :
    validFrom (fuel + 1) template shortest varied = validAfter fuel shortest varied read := by
  cases reads with
  | literalCut => rfl
  | literalBad n rest bad => exact if_pos bad
  | literal n text rest length =>
    have within : ¬(n.toNat = 0 ∨ maxDataBytes < n.toNat ∨ (text ++ rest).length < n.toNat) := by
      rw [List.length_append]
      omega
    show (if n.toNat = 0 ∨ maxDataBytes < n.toNat ∨ (text ++ rest).length < n.toNat then false
      else validFrom fuel ((text ++ rest).drop n.toNat) (shortest + n.toNat) varied) =
        validFrom fuel rest (shortest + text.length) (varied || false)
    rw [if_neg within, ← length, List.drop_left, Bool.or_false]
  | hexCut => rfl
  | hexBad n rest bad => exact if_pos bad
  | hex n rest =>
    have within : ¬(n.toNat = 0 ∨ maxDataBytes < n.toNat) := by omega
    show _ = validFrom fuel rest (shortest + n.toNat) (varied || true)
    rw [Bool.or_true]
    exact if_neg within
  | decimalCut => rfl
  | decimalBad flags rest bad => exact if_pos bad
  | decimal flags rest known =>
    have within : ¬(3 < flags.toNat) := Nat.not_lt.mpr known
    show _ = validFrom fuel rest (shortest + 1) (varied || true)
    rw [Bool.or_true]
    exact if_neg within
  | integerCut => rfl
  | integerHalf => rfl
  | integerBad least most rest bad => exact if_pos bad
  | integer least most rest =>
    have within : ¬(least.toNat = 0 ∨ most.toNat < least.toNat ∨ maxDataBytes < most.toNat) := by
      omega
    show _ = validFrom fuel rest (shortest + least.toNat) (varied || true)
    rw [Bool.or_true]
    exact if_neg within
  | unknown op operands notLiteral notHex notDecimal notInteger =>
    unfold validFrom
    simp only [if_neg notLiteral, if_neg notHex, if_neg notDecimal, if_neg notInteger, validAfter]

/-- The loop of `matches` over a segment within its bounds. -/
theorem Reads.matchesFrom_eq (reads : Reads template (some (segment, rest))) (fuel : Nat)
    (data : Bytes) :
    matchesFrom (fuel + 1) template data =
      match segment.scan data with
      | none => .ok false
      | some left => matchesFrom fuel rest left := by
  cases reads with
  | literal n text rest length =>
    show (if data.length < n.toNat then .ok false
      else if (text ++ rest).length < n.toNat then
        if data.take (text ++ rest).length = text ++ rest then .error .outOfBounds else .ok false
      else if data.take n.toNat = (text ++ rest).take n.toNat then
        matchesFrom fuel ((text ++ rest).drop n.toNat) (data.drop n.toNat)
      else .ok false) = _
    unfold Segment.scan
    rw [← length, List.take_left, List.drop_left]
    by_cases equal : data.take text.length = text
    · have enough : text.length ≤ data.length := by
        rw [← equal, List.length_take]
        exact Nat.min_le_right _ _
      rw [if_neg (Nat.not_lt.mpr enough), if_neg (by rw [List.length_append]; omega),
        if_pos equal]
      dsimp only
      rw [if_pos equal]
    · have unequal : (if data.length < text.length then .ok false
          else if (text ++ rest).length < text.length then
            if data.take (text ++ rest).length = text ++ rest then .error .outOfBounds
            else .ok false
          else if data.take text.length = text then matchesFrom fuel rest (data.drop text.length)
          else .ok false : Except Panic Bool) = .ok false := by
        have inside : ¬(text ++ rest).length < text.length := by
          rw [List.length_append]
          omega
        rw [if_neg equal, if_neg inside, ite_self]
      rw [unequal]
      dsimp only
      rw [if_neg equal]
  | hex => rfl
  | decimal => rfl
  | integer => rfl

/-- A valid template is read to its end: its segments are valid and encode it. -/
theorem decode_of_validFrom {shortest : Nat} {varied : Bool}
    (valid : validFrom fuel template shortest varied = true) :
    ∃ segments, decode fuel template = some segments ∧
      segments.flatMap Segment.encode = template ∧ ∀ segment ∈ segments, segment.Valid := by
  induction fuel generalizing template shortest varied with
  | zero =>
    cases template with
    | nil => exact ⟨[], rfl, rfl, fun _ member => absurd member List.not_mem_nil⟩
    | cons => exact Bool.noConfusion valid
  | succ fuel inductionHypothesis =>
    cases template with
    | nil => exact ⟨[], rfl, rfl, fun _ member => absurd member List.not_mem_nil⟩
    | cons op operands =>
      have reads := reads_readSegment (List.cons_ne_nil op operands)
      rw [reads.validFrom_eq] at valid
      unfold decode
      match readSegment (op :: operands), reads, valid with
      | some (segment, rest), reads, valid =>
        obtain ⟨encoded, within⟩ := reads.encode
        obtain ⟨segments, decoded, whole, allWithin⟩ := inductionHypothesis valid
        refine ⟨segment :: segments, ?_, ?_, List.forall_mem_cons.mpr ⟨within, allWithin⟩⟩
        · dsimp only
          rw [decoded, Option.map_some]
        · rw [List.flatMap_cons, whole, encoded]

/-- A template that is decoded starts with a segment. -/
theorem decode_cons {op : UInt8} {operands : Bytes}
    (decoded : decode (fuel + 1) (op :: operands) = some segments) :
    ∃ segment rest later, Reads (op :: operands) (some (segment, rest)) ∧
      decode fuel rest = some later ∧ segments = segment :: later := by
  have reads := reads_readSegment (List.cons_ne_nil op operands)
  unfold decode at decoded
  match readSegment (op :: operands), reads, decoded with
  | some (segment, rest), reads, decoded =>
    obtain ⟨later, decodedLater, rfl⟩ := Option.map_eq_some_iff.mp decoded
    exact ⟨segment, rest, later, reads, decodedLater, rfl⟩

/-- Matching a template is scanning its segments to the end of the data. -/
theorem matchesFrom_of_decode (decoded : decode fuel template = some segments) (data : Bytes) :
    matchesFrom fuel template data = .ok (decide (scanAll segments data = some [])) := by
  induction fuel generalizing template segments data with
  | zero =>
    cases template with
    | nil =>
      obtain rfl := Option.some.inj decoded
      exact congrArg Except.ok (decide_eq_decide.mpr (Option.some_inj).symm)
    | cons => exact nomatch decoded
  | succ fuel inductionHypothesis =>
    cases template with
    | nil =>
      obtain rfl := Option.some.inj decoded
      exact congrArg Except.ok (decide_eq_decide.mpr (Option.some_inj).symm)
    | cons =>
      obtain ⟨segment, rest, later, reads, decodedLater, rfl⟩ := decode_cons decoded
      rw [reads.matchesFrom_eq]
      unfold scanAll
      cases segment.scan data with
      | none => rfl
      | some left => exact inductionHypothesis decodedLater left

/-- The verdict of segments on data. -/
def describes (segments : List Segment) (data : Bytes) : Bool :=
  if data.length = 0 ∨ maxDataBytes < data.length then false
  else decide (scanAll segments data = some [])

theorem matchesData_of_decode (decoded : decode template.length template = some segments)
    (data : Bytes) :
    matchesData template data = .ok (describes segments data) := by
  unfold matchesData describes
  split
  · rfl
  · exact matchesFrom_of_decode decoded data

/-- A valid template is within its length, and its segments are valid and encode it. -/
theorem decode_of_isValid (valid : isValid template = true) :
    template.length ≤ maxTemplateBytes ∧
      ∃ segments, decode template.length template = some segments ∧
        segments.flatMap Segment.encode = template ∧ ∀ segment ∈ segments, segment.Valid := by
  unfold isValid at valid
  split at valid
  · exact nomatch valid
  next within => exact ⟨by omega, decode_of_validFrom valid⟩

/-! ### The words of a segment -/

/-- A nonempty sequence of digits. -/
def Digits (word : Bytes) : Prop := word ≠ [] ∧ ∀ c ∈ word, isDigit c = true

/-- Zero, or digits that do not start with zero. -/
def Whole (word : Bytes) : Prop :=
  word = [0x30] ∨ ∃ c rest, word = c :: rest ∧ c ≠ 0x30 ∧ Digits word

/-- A point and digits. -/
def Fraction (word : Bytes) : Prop := ∃ digits, word = 0x2e :: digits ∧ Digits digits

/-- An `e` of either case, an optional sign, and digits. -/
def Exponent (word : Bytes) : Prop :=
  ∃ e sign digits, word = e :: (sign ++ digits) ∧ (e = 0x65 ∨ e = 0x45) ∧
    (sign = [] ∨ sign = [0x2b] ∨ sign = [0x2d]) ∧ Digits digits

/-- The language of a segment. -/
def Segment.Word : Segment → Bytes → Prop
  | literal text, word => word = text
  | hex n, word =>
    word.length = n.toNat ∧ ∀ c ∈ word, (0x30 ≤ c ∧ c ≤ 0x39) ∨ (0x61 ≤ c ∧ c ≤ 0x66)
  | decimal flags, word =>
    ∃ whole fraction exponent, word = whole ++ (fraction ++ exponent) ∧ Whole whole ∧
      (fraction = [] ∨ flags.toNat % 2 = 1 ∧ Fraction fraction) ∧
      (exponent = [] ∨ flags.toNat / 2 % 2 = 1 ∧ Exponent exponent)
  | integer least most, word =>
    (∃ c rest, word = c :: rest ∧ c ≠ 0x30) ∧ (∀ c ∈ word, isDigit c = true) ∧
      least.toNat ≤ word.length ∧ word.length ≤ most.toNat

/-- Data that is a concatenation of one word for each segment. -/
def Described (segments : List Segment) (data : Bytes) : Prop :=
  ∃ words, List.Forall₂ Segment.Word segments words ∧ data = words.flatten

/-- A segment whose end the greedy match has to find. -/
def Segment.isNumber : Segment → Bool
  | decimal _ | integer _ _ => true
  | _ => false

/-- A byte that cannot continue a number. -/
def endsNumber (c : UInt8) : Prop := isDigit c = false ∧ c ≠ 0x2e ∧ c ≠ 0x65 ∧ c ≠ 0x45

/-- Every number is the last segment or stands before a literal that cannot continue it. -/
def Separated : List Segment → Prop
  | [] => True
  | [_] => True
  | segment :: next :: rest =>
    (segment.isNumber = true → ∃ c text, next = .literal (c :: text) ∧ endsNumber c) ∧
      Separated (next :: rest)

/-! ### What is accepted is described -/

theorem digits_split (data : Bytes) :
    ∃ word, data = word ++ digits data ∧ ∀ c ∈ word, isDigit c = true :=
  ⟨data.takeWhile isDigit, List.takeWhile_append_dropWhile.symm,
    fun _ member => List.mem_takeWhile_imp member⟩

/-- Digits that were found, which is what the two length comparisons ask. -/
theorem digits_found (found : (digits data).length ≠ data.length) :
    ∃ word, data = word ++ digits data ∧ Digits word := by
  obtain ⟨word, split, allDigits⟩ := digits_split data
  refine ⟨word, split, ?_, allDigits⟩
  rintro rfl
  rw [List.nil_append] at split
  exact found (congrArg List.length split.symm)

theorem decimalWhole_cons (c : UInt8) (rest : Bytes) :
    decimalWhole (c :: rest) = if isDigit c = false then none
      else if c = 0x30 then if rest.head?.any isDigit = true then none else some rest
      else some (digits rest) := by
  cases rest <;> rfl

theorem decimalWhole_sound (scanned : decimalWhole data = some rest) :
    ∃ word, data = word ++ rest ∧ Whole word := by
  cases data with
  | nil => exact nomatch scanned
  | cons c tail =>
    rw [decimalWhole_cons] at scanned
    by_cases digit : isDigit c = false
    · rw [if_pos digit] at scanned
      exact nomatch scanned
    rw [if_neg digit] at scanned
    by_cases zero : c = 0x30
    · rw [if_pos zero] at scanned
      refine ⟨[0x30], ?_, .inl rfl⟩
      by_cases more : tail.head?.any isDigit = true
      · rw [if_pos more] at scanned
        exact nomatch scanned
      · rw [if_neg more] at scanned
        rw [zero, ← Option.some.inj scanned]
        rfl
    · rw [if_neg zero] at scanned
      obtain ⟨word, split, allDigits⟩ := digits_split tail
      refine ⟨c :: word, ?_, .inr ⟨c, word, rfl, zero, List.cons_ne_nil _ _, ?_⟩⟩
      · rw [← Option.some.inj scanned, List.cons_append, ← split]
      · exact List.forall_mem_cons.mpr ⟨Bool.eq_true_of_not_eq_false digit, allDigits⟩

theorem decimalFraction_sound (scanned : decimalFraction data = some rest) :
    ∃ word, data = word ++ rest ∧ (word = [] ∨ Fraction word) := by
  cases data with
  | nil => exact ⟨[], by rw [← Option.some.inj scanned]; rfl, .inl rfl⟩
  | cons c tail =>
    rw [decimalFraction] at scanned
    by_cases point : c = 0x2e
    · rw [if_pos point] at scanned
      by_cases missing : (digits tail).length = tail.length
      · rw [if_pos missing] at scanned
        exact nomatch scanned
      · rw [if_neg missing] at scanned
        obtain ⟨word, split, found⟩ := digits_found missing
        refine ⟨c :: word, ?_, .inr ⟨word, by rw [point], found⟩⟩
        rw [← Option.some.inj scanned, List.cons_append, ← split]
    · rw [if_neg point] at scanned
      exact ⟨[], by rw [← Option.some.inj scanned]; rfl, .inl rfl⟩

theorem skipSign_split (data : Bytes) :
    ∃ sign, data = sign ++ skipSign data ∧ (sign = [] ∨ sign = [0x2b] ∨ sign = [0x2d]) := by
  cases data with
  | nil => exact ⟨[], rfl, .inl rfl⟩
  | cons c =>
    rw [skipSign]
    by_cases signed : c = 0x2b ∨ c = 0x2d
    · rw [if_pos signed]
      rcases signed with rfl | rfl
      · exact ⟨[0x2b], rfl, .inr (.inl rfl)⟩
      · exact ⟨[0x2d], rfl, .inr (.inr rfl)⟩
    · rw [if_neg signed]
      exact ⟨[], rfl, .inl rfl⟩

theorem decimalExponent_sound (scanned : decimalExponent data = some rest) :
    ∃ word, data = word ++ rest ∧ (word = [] ∨ Exponent word) := by
  cases data with
  | nil => exact ⟨[], by rw [← Option.some.inj scanned]; rfl, .inl rfl⟩
  | cons c tail =>
    rw [decimalExponent] at scanned
    by_cases marked : c = 0x65 ∨ c = 0x45
    · rw [if_pos marked] at scanned
      obtain ⟨sign, signed, kind⟩ := skipSign_split tail
      by_cases missing : (digits (skipSign tail)).length = (skipSign tail).length
      · rw [if_pos missing] at scanned
        exact nomatch scanned
      · rw [if_neg missing] at scanned
        obtain ⟨word, split, found⟩ := digits_found missing
        refine ⟨c :: (sign ++ word), ?_, .inr ⟨c, sign, word, rfl, marked, kind, found⟩⟩
        rw [← Option.some.inj scanned, List.cons_append, List.append_assoc, ← split, ← signed]
    · rw [if_neg marked] at scanned
      exact ⟨[], by rw [← Option.some.inj scanned]; rfl, .inl rfl⟩

/-- `_decimal` as its three parts in turn. -/
theorem decimal_eq (data : Bytes) (fraction exponent : Bool) :
    decimal data fraction exponent = (decimalWhole data).bind fun whole =>
      (if fraction then decimalFraction whole else some whole).bind fun part =>
        if exponent then decimalExponent part else some part := by
  unfold decimal
  cases fraction <;> rfl

theorem decimal_sound {flags : UInt8} (scanned : (Segment.decimal flags).scan data = some rest) :
    ∃ word, data = word ++ rest ∧ (Segment.decimal flags).Word word := by
  change decimal data (flags.toNat % 2 = 1) (flags.toNat / 2 % 2 = 1) = some rest at scanned
  rw [decimal_eq] at scanned
  obtain ⟨first, scannedWhole, scanned⟩ := Option.bind_eq_some_iff.mp scanned
  obtain ⟨second, scannedFraction, scannedExponent⟩ := Option.bind_eq_some_iff.mp scanned
  obtain ⟨whole, splitWhole, isWhole⟩ := decimalWhole_sound scannedWhole
  have fractional : ∃ word, first = word ++ second ∧
      (word = [] ∨ flags.toNat % 2 = 1 ∧ Fraction word) := by
    by_cases allowed : flags.toNat % 2 = 1
    · rw [if_pos (decide_eq_true allowed)] at scannedFraction
      obtain ⟨word, split, kind⟩ := decimalFraction_sound scannedFraction
      exact ⟨word, split, kind.imp_right fun found => ⟨allowed, found⟩⟩
    · rw [if_neg (by rwa [decide_eq_true_eq])] at scannedFraction
      exact ⟨[], by rw [Option.some.inj scannedFraction]; rfl, .inl rfl⟩
  have exponential : ∃ word, second = word ++ rest ∧
      (word = [] ∨ flags.toNat / 2 % 2 = 1 ∧ Exponent word) := by
    by_cases allowed : flags.toNat / 2 % 2 = 1
    · rw [if_pos (decide_eq_true allowed)] at scannedExponent
      obtain ⟨word, split, kind⟩ := decimalExponent_sound scannedExponent
      exact ⟨word, split, kind.imp_right fun found => ⟨allowed, found⟩⟩
    · rw [if_neg (by rwa [decide_eq_true_eq])] at scannedExponent
      exact ⟨[], by rw [Option.some.inj scannedExponent]; rfl, .inl rfl⟩
  obtain ⟨fraction, splitFraction, fractionKind⟩ := fractional
  obtain ⟨exponent, splitExponent, exponentKind⟩ := exponential
  refine ⟨whole ++ (fraction ++ exponent), ?_, whole, fraction, exponent, rfl, isWhole,
    fractionKind, exponentKind⟩
  rw [splitWhole, splitFraction, splitExponent, List.append_assoc, List.append_assoc]

theorem hex_sound {n : UInt8} (scanned : (Segment.hex n).scan data = some rest) :
    ∃ word, data = word ++ rest ∧ (Segment.hex n).Word word := by
  change (if data.length < n.toNat then none
    else if (data.take n.toNat).all fun c => isDigit c || (0x61 ≤ c && c ≤ 0x66) then
      some (data.drop n.toNat)
    else none) = some rest at scanned
  by_cases short : data.length < n.toNat
  · rw [if_pos short] at scanned
    exact nomatch scanned
  rw [if_neg short] at scanned
  by_cases hexadecimal :
      ((data.take n.toNat).all fun c => isDigit c || (0x61 ≤ c && c ≤ 0x66)) = true
  · rw [if_pos hexadecimal] at scanned
    refine ⟨data.take n.toNat, ?_, ?_, fun c member => ?_⟩
    · rw [← Option.some.inj scanned, List.take_append_drop]
    · rw [List.length_take]
      omega
    · have character := List.all_eq_true.mp hexadecimal c member
      unfold isDigit at character
      simpa only [Bool.or_eq_true, Bool.and_eq_true, decide_eq_true_eq] using character
  · rw [if_neg hexadecimal] at scanned
    exact nomatch scanned

theorem integer_sound {least most : UInt8}
    (scanned : (Segment.integer least most).scan data = some rest) :
    ∃ word, data = word ++ rest ∧ (Segment.integer least most).Word word := by
  cases data with
  | nil => exact nomatch scanned
  | cons c tail =>
    change (if isDigit c = false ∨ c = 0x30 then none
      else if least.toNat ≤ (c :: tail).length - (digits (c :: tail)).length ∧
        (c :: tail).length - (digits (c :: tail)).length ≤ most.toNat then
        some (digits (c :: tail)) else none) = some rest at scanned
    by_cases bad : isDigit c = false ∨ c = 0x30
    · rw [if_pos bad] at scanned
      exact nomatch scanned
    rw [if_neg bad] at scanned
    obtain ⟨digit, nonzero⟩ := not_or.mp bad
    obtain ⟨word, split, allDigits⟩ := digits_split (c :: tail)
    have length : (c :: tail).length = word.length + (digits (c :: tail)).length := by
      rw [← List.length_append, ← split]
    have starts : ∃ first others, word = first :: others ∧ first ≠ 0x30 := by
      cases word with
      | nil =>
        have stuck : digits (c :: tail) = digits tail :=
          List.dropWhile_cons_of_pos (Bool.eq_true_of_not_eq_false digit)
        have shorter : (digits tail).length ≤ tail.length := List.length_dropWhile_le _ _
        rw [stuck, List.length_cons, List.length_nil] at length
        omega
      | cons first others =>
        obtain ⟨same, -⟩ := List.cons.inj split
        exact ⟨first, others, rfl, same ▸ nonzero⟩
    by_cases within : least.toNat ≤ (c :: tail).length - (digits (c :: tail)).length ∧
        (c :: tail).length - (digits (c :: tail)).length ≤ most.toNat
    · rw [if_pos within] at scanned
      rw [← Option.some.inj scanned]
      exact ⟨word, split, starts, allDigits, by omega, by omega⟩
    · rw [if_neg within] at scanned
      exact nomatch scanned

theorem scan_sound (scanned : segment.scan data = some rest) :
    ∃ word, data = word ++ rest ∧ segment.Word word := by
  cases segment with
  | literal text =>
    change (if data.take text.length = text then some (data.drop text.length) else none) =
      some rest at scanned
    by_cases equal : data.take text.length = text
    · rw [if_pos equal] at scanned
      refine ⟨text, ?_, rfl⟩
      conv_lhs => rw [← List.take_append_drop text.length data, equal]
      rw [Option.some.inj scanned]
    · rw [if_neg equal] at scanned
      exact nomatch scanned
  | hex => exact hex_sound scanned
  | decimal => exact decimal_sound scanned
  | integer => exact integer_sound scanned

theorem described_of_scanAll (scanned : scanAll segments data = some []) :
    Described segments data := by
  induction segments generalizing data with
  | nil => exact ⟨[], .nil, Option.some.inj scanned⟩
  | cons segment rest inductionHypothesis =>
    obtain ⟨left, scannedFirst, scannedRest⟩ := Option.bind_eq_some_iff.mp scanned
    obtain ⟨word, split, described⟩ := scan_sound scannedFirst
    obtain ⟨words, each, flat⟩ := inductionHypothesis scannedRest
    exact ⟨word :: words, .cons described each, by rw [split, flat, List.flatten_cons]⟩

/-! ### What is described is accepted -/

/-- Data that does not start with a byte of a kind. -/
def Apart (kind : UInt8 → Prop) (data : Bytes) : Prop := ∀ c rest, data = c :: rest → ¬kind c

theorem apart_cons {kind : UInt8 → Prop} {c : UInt8} (other : ¬kind c) :
    Apart kind (c :: rest) := by
  rintro _ _ ⟨⟩
  exact other

theorem digits_append {tail : Bytes} (allDigits : ∀ c ∈ word, isDigit c = true)
    (apart : Apart (isDigit · = true) tail) : digits (word ++ tail) = tail := by
  unfold digits
  rw [List.dropWhile_append_of_pos allDigits]
  cases tail with
  | nil => rfl
  | cons c rest => exact List.dropWhile_cons_of_neg (apart c rest rfl)

/-- Digits that are there are found. -/
theorem digits_append_ne {tail : Bytes} (found : Digits word)
    (apart : Apart (isDigit · = true) tail) :
    (digits (word ++ tail)).length ≠ (word ++ tail).length := by
  have nonempty := List.length_pos_of_ne_nil found.1
  rw [digits_append found.2 apart, List.length_append]
  omega

theorem decimalWhole_complete {tail : Bytes} (whole : Whole word)
    (apart : Apart (isDigit · = true) tail) : decimalWhole (word ++ tail) = some tail := by
  rcases whole with rfl | ⟨c, rest, rfl, nonzero, -, allDigits⟩
  · cases tail with
    | nil => rfl
    | cons next tail => exact if_neg (apart next tail rfl)
  · obtain ⟨digit, restDigits⟩ := List.forall_mem_cons.mp allDigits
    rw [List.cons_append, decimalWhole_cons, if_neg (by rw [digit]; exact Bool.noConfusion),
      if_neg nonzero, digits_append restDigits apart]

theorem decimalFraction_complete {tail : Bytes} (fraction : word = [] ∨ Fraction word)
    (apart : Apart (fun c => isDigit c = true ∨ c = 0x2e) tail) :
    decimalFraction (word ++ tail) = some tail := by
  have apartDigits : Apart (isDigit · = true) tail := fun c rest same digit =>
    apart c rest same (.inl digit)
  rcases fraction with rfl | ⟨word, rfl, found⟩
  · cases tail with
    | nil => rfl
    | cons c rest => exact if_neg fun point => apart c rest rfl (.inr point)
  · show (if (digits (word ++ tail)).length = (word ++ tail).length then none
      else some (digits (word ++ tail))) = some tail
    rw [if_neg (digits_append_ne found apartDigits), digits_append found.2 apartDigits]

theorem skipSign_append {sign : Bytes} (tail : Bytes)
    (kind : sign = [] ∨ sign = [0x2b] ∨ sign = [0x2d]) (found : Digits word) :
    skipSign (sign ++ (word ++ tail)) = word ++ tail := by
  rcases kind with rfl | rfl | rfl
  · cases word with
    | nil => exact absurd rfl found.1
    | cons c =>
      have digit := found.2 c List.mem_cons_self
      refine if_neg ?_
      rintro (rfl | rfl)
      · exact absurd digit (by decide)
      · exact absurd digit (by decide)
  · rfl
  · rfl

theorem decimalExponent_complete {tail : Bytes} (exponent : word = [] ∨ Exponent word)
    (apart : Apart (fun c => isDigit c = true ∨ c = 0x65 ∨ c = 0x45) tail) :
    decimalExponent (word ++ tail) = some tail := by
  have apartDigits : Apart (isDigit · = true) tail := fun c rest same digit =>
    apart c rest same (.inl digit)
  rcases exponent with rfl | ⟨e, sign, word, rfl, marked, kind, found⟩
  · cases tail with
    | nil => rfl
    | cons c rest => exact if_neg fun marked => apart c rest rfl (.inr marked)
  · have skipped : skipSign (sign ++ word ++ tail) = word ++ tail := by
      rw [List.append_assoc]
      exact skipSign_append tail kind found
    show (if e = 0x65 ∨ e = 0x45 then
        if (digits (skipSign (sign ++ word ++ tail))).length =
            (skipSign (sign ++ word ++ tail)).length then none
        else some (digits (skipSign (sign ++ word ++ tail)))
      else some (e :: (sign ++ word ++ tail))) = some tail
    rw [if_pos marked, skipped, if_neg (digits_append_ne found apartDigits),
      digits_append found.2 apartDigits]

/-- An exponent keeps the digits and the point of a number apart from what follows. -/
theorem apart_exponent {tail : Bytes} (exponent : word = [] ∨ Exponent word)
    (apart : Apart (¬endsNumber ·) tail) :
    Apart (fun c => isDigit c = true ∨ c = 0x2e) (word ++ tail) := by
  rcases exponent with rfl | ⟨e, sign, word, rfl, marked, -, -⟩
  · intro c rest same continues
    obtain ⟨notDigit, notPoint, -, -⟩ := not_not.mp (apart c rest same)
    rcases continues with digit | point
    · rw [notDigit] at digit
      exact Bool.noConfusion digit
    · exact notPoint point
  · refine apart_cons ?_
    rcases marked with rfl | rfl
    · decide
    · decide

/-- A fraction keeps the digits of a number apart from what follows. -/
theorem apart_fraction {tail : Bytes} (fraction : word = [] ∨ Fraction word)
    (apart : Apart (fun c => isDigit c = true ∨ c = 0x2e) tail) :
    Apart (isDigit · = true) (word ++ tail) := by
  rcases fraction with rfl | ⟨digits, rfl, -⟩
  · exact fun c rest same digit => apart c rest same (.inl digit)
  · exact apart_cons (by decide)

theorem decimal_complete {tail : Bytes} {flags : UInt8}
    (described : (Segment.decimal flags).Word word) (apart : Apart (¬endsNumber ·) tail) :
    (Segment.decimal flags).scan (word ++ tail) = some tail := by
  obtain ⟨whole, fraction, exponent, rfl, isWhole, fractionKind, exponentKind⟩ := described
  have fractionPart : fraction = [] ∨ Fraction fraction := fractionKind.imp_right And.right
  have exponentPart : exponent = [] ∨ Exponent exponent := exponentKind.imp_right And.right
  have apartExponent : Apart (fun c => isDigit c = true ∨ c = 0x65 ∨ c = 0x45) tail := by
    intro c rest same continues
    obtain ⟨notDigit, -, notSmall, notLarge⟩ := not_not.mp (apart c rest same)
    rcases continues with digit | small | large
    · rw [notDigit] at digit
      exact Bool.noConfusion digit
    · exact notSmall small
    · exact notLarge large
  have apartFraction := apart_exponent exponentPart apart
  have apartWhole := apart_fraction fractionPart apartFraction
  show decimal _ (flags.toNat % 2 = 1) (flags.toNat / 2 % 2 = 1) = some tail
  rw [decimal_eq, List.append_assoc, List.append_assoc, decimalWhole_complete isWhole apartWhole,
    Option.bind_some]
  have fractional : (if decide (flags.toNat % 2 = 1) = true then
      decimalFraction (fraction ++ (exponent ++ tail)) else some (fraction ++ (exponent ++ tail))) =
      some (exponent ++ tail) := by
    by_cases allowed : flags.toNat % 2 = 1
    · rw [if_pos (decide_eq_true allowed), decimalFraction_complete fractionPart apartFraction]
    · rw [if_neg (by rwa [decide_eq_true_eq]),
        fractionKind.resolve_right fun required => allowed required.1, List.nil_append]
  rw [fractional, Option.bind_some]
  by_cases allowed : flags.toNat / 2 % 2 = 1
  · rw [if_pos (decide_eq_true allowed), decimalExponent_complete exponentPart apartExponent]
  · rw [if_neg (by rwa [decide_eq_true_eq]),
      exponentKind.resolve_right fun required => allowed required.1, List.nil_append]

theorem integer_complete {tail : Bytes} {least most : UInt8}
    (described : (Segment.integer least most).Word word) (apart : Apart (isDigit · = true) tail) :
    (Segment.integer least most).scan (word ++ tail) = some tail := by
  obtain ⟨⟨c, rest, rfl, nonzero⟩, allDigits, enough, few⟩ := described
  have rested : digits (c :: rest ++ tail) = tail := digits_append allDigits apart
  have digit : isDigit c = true := allDigits c List.mem_cons_self
  have count : (c :: rest ++ tail).length - tail.length = (c :: rest).length := by
    rw [List.length_append, Nat.add_sub_cancel]
  show (if isDigit c = false ∨ c = 0x30 then none
    else if least.toNat ≤ (c :: rest ++ tail).length - (digits (c :: rest ++ tail)).length ∧
      (c :: rest ++ tail).length - (digits (c :: rest ++ tail)).length ≤ most.toNat then
      some (digits (c :: rest ++ tail)) else none) = some tail
  rw [rested, count, if_neg, if_pos ⟨enough, few⟩]
  rintro (none | zero)
  · rw [digit] at none
    exact Bool.noConfusion none
  · exact nonzero zero

theorem hex_complete {tail : Bytes} {n : UInt8} (described : (Segment.hex n).Word word) :
    (Segment.hex n).scan (word ++ tail) = some tail := by
  obtain ⟨length, characters⟩ := described
  have hexadecimal : (word.all fun c => isDigit c || (0x61 ≤ c && c ≤ 0x66)) = true := by
    refine List.all_eq_true.mpr fun c member => ?_
    unfold isDigit
    simpa only [Bool.or_eq_true, Bool.and_eq_true, decide_eq_true_eq] using characters c member
  show (if (word ++ tail).length < n.toNat then none
    else if ((word ++ tail).take n.toNat).all fun c => isDigit c || (0x61 ≤ c && c ≤ 0x66) then
      some ((word ++ tail).drop n.toNat)
    else none) = some tail
  rw [← length, List.take_left, List.drop_left, if_pos hexadecimal, if_neg]
  rw [List.length_append]
  omega

/-- A word of a segment is scanned to its end, when nothing after it continues a number. -/
theorem scan_complete {tail : Bytes} (described : segment.Word word)
    (apart : segment.isNumber = true → Apart (¬endsNumber ·) tail) :
    segment.scan (word ++ tail) = some tail := by
  cases segment with
  | literal text =>
    obtain rfl : word = text := described
    show (if (word ++ tail).take word.length = word then some ((word ++ tail).drop word.length)
      else none) = some tail
    rw [List.take_left, List.drop_left, if_pos rfl]
  | hex => exact hex_complete described
  | decimal => exact decimal_complete described (apart rfl)
  | integer =>
    exact integer_complete described fun c rest same digit =>
      apart rfl c rest same fun ends => Bool.noConfusion (ends.1.symm.trans digit)

/-- What follows a number in a separated sequence of segments does not continue it. -/
theorem Separated.apart {rest : List Segment} {words : List Bytes}
    (separated : Separated (segment :: rest)) (each : List.Forall₂ Segment.Word rest words)
    (number : segment.isNumber = true) : Apart (¬endsNumber ·) words.flatten := by
  cases each with
  | nil => exact fun _ _ same => nomatch same
  | cons described _ =>
    obtain ⟨c, text, rfl, ends⟩ := separated.1 number
    rw [List.flatten_cons, show _ = c :: text from described]
    exact apart_cons (not_not.mpr ends)

theorem Separated.tail {rest : List Segment} (separated : Separated (segment :: rest)) :
    Separated rest := by
  cases rest with
  | nil => trivial
  | cons => exact separated.2

theorem scanAll_of_described (separated : Separated segments)
    (described : Described segments data) : scanAll segments data = some [] := by
  obtain ⟨words, each, rfl⟩ := described
  induction each with
  | nil => rfl
  | cons first rest inductionHypothesis =>
    rw [List.flatten_cons, scanAll, scan_complete first (separated.apart rest), Option.bind_some]
    exact inductionHypothesis separated.tail

/-- Greedy matching decides the grammar of a valid template. The template is the encoding of its
segments; data it accepts is a concatenation of one word for each segment; and where every number
is the last segment or stands before a literal that cannot continue it, every such concatenation
of 1 to 128 bytes is accepted. -/
theorem greedy_decides (template : Bytes) (valid : isValid template = true) :
    ∃ segments, decode template.length template = some segments ∧
      segments.flatMap Segment.encode = template ∧ (∀ segment ∈ segments, segment.Valid) ∧
      (∀ data, matchesData template data = .ok true → Described segments data) ∧
      (Separated segments → ∀ data, 1 ≤ data.length → data.length ≤ 128 →
        Described segments data → matchesData template data = .ok true) := by
  obtain ⟨-, segments, decoded, encoded, within⟩ := decode_of_isValid valid
  refine ⟨segments, decoded, encoded, within, fun data accepted => ?_,
    fun separated data nonempty short described => ?_⟩
  · rw [matchesData_of_decode decoded] at accepted
    have verdict := Except.ok.inj accepted
    unfold describes at verdict
    split at verdict
    · exact nomatch verdict
    · exact described_of_scanAll (of_decide_eq_true verdict)
  · rw [matchesData_of_decode decoded]
    unfold describes maxDataBytes
    rw [if_neg (by omega), decide_eq_true (scanAll_of_described separated described)]

/-- The theorem at a template of a number before a literal, and data it describes. -/
theorem greedy_decides_decimal :
    ∃ segments, decode 5 [3, 1, 1, 1, 0x7d] = some segments ∧
      Described segments [0x31, 0x2e, 0x35, 0x7d] := by
  obtain ⟨segments, decoded, -, -, sound, -⟩ := greedy_decides [3, 1, 1, 1, 0x7d] (by decide)
  exact ⟨segments, decoded, sound [0x31, 0x2e, 0x35, 0x7d] (by decide)⟩

end DataTemplate

end D20
