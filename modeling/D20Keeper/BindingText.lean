/-
This file writes bindings as text and reads them, as the migration does with JSON: objects of
numbers and strings without blanks, their fields in their order, with the escapes of JSON in
strings. What is written is read back, so every plan has its codec.
-/

import D20Keeper.Migration

namespace D20.Migration.Text

/-! ### Strings -/

/-- The character that ends a string. -/
def quote : Char := Char.ofNat 34

/-- The character that starts an escape. -/
def escape : Char := Char.ofNat 92

/-- The characters that have a letter of their own after the escape. -/
def letters : List (Char × Char) :=
  [(quote, quote), (escape, escape), (Char.ofNat 8, 'b'), (Char.ofNat 9, 't'), (Char.ofNat 10, 'n'),
    (Char.ofNat 12, 'f'), (Char.ofNat 13, 'r')]

/-- The letter of a character that has one. -/
def letterOf (char : Char) : Option Char :=
  (letters.find? fun pair => pair.1 == char).map Prod.snd

/-- The character of a letter. -/
def charOf (letter : Char) : Option Char :=
  ((letters ++ [('/', '/')]).find? fun pair => pair.2 == letter).map Prod.fst

/-- The value of a hexadecimal digit. -/
def hexValue (digit : Char) : Option ℕ :=
  if digit.isDigit then some (digit.toNat - 48)
  else if 'a' ≤ digit ∧ digit ≤ 'f' then some (digit.toNat - 87)
  else if 'A' ≤ digit ∧ digit ≤ 'F' then some (digit.toNat - 55)
  else none

/-- The character of four hexadecimal digits. Surrogates, which are never written, are not read. -/
def hexChar (first second third fourth : Char) : Option Char := do
  let code := ((← hexValue first) * 16 + (← hexValue second)) * 256 +
    (← hexValue third) * 16 + (← hexValue fourth)
  if code.isValidChar then some (Char.ofNat code) else none

/-- A character in a string. -/
def renderChar (char : Char) : List Char :=
  match letterOf char with
  | some letter => [escape, letter]
  | none =>
    if char.toNat < 32 then
      [escape, 'u', '0', '0', Nat.digitChar (char.toNat / 16), Nat.digitChar (char.toNat % 16)]
    else [char]

/-- A string with its quotes. -/
def renderText (text : String) : List Char := quote :: (text.toList.flatMap renderChar ++ [quote])

/-- Read the characters of a string up to its closing quote. -/
def parseChars : List Char → Option (List Char × List Char)
  | [] => none
  | char :: rest =>
    if char = quote then some ([], rest)
    else if char = escape then
      match rest with
      | [] => none
      | letter :: rest =>
        match letter, rest with
        | 'u', first :: second :: third :: fourth :: rest => do
          let char ← hexChar first second third fourth
          let (chars, rest) ← parseChars rest
          return (char :: chars, rest)
        | _, rest => do
          let char ← charOf letter
          let (chars, rest) ← parseChars rest
          return (char :: chars, rest)
    else if char.toNat < 32 then none
    else do
      let (chars, rest) ← parseChars rest
      return (char :: chars, rest)

/-- Read a string. -/
def parseText : List Char → Option (String × List Char)
  | [] => none
  | char :: rest =>
    if char = quote then do
      let (chars, rest) ← parseChars rest
      return (String.ofList chars, rest)
    else none

theorem hexValue_digitChar : ∀ value < 16, hexValue (Nat.digitChar value) = some value := by
  decide

/-- Every character that has a letter is that letter's. -/
theorem charOf_letterOf {char letter : Char} (known : letterOf char = some letter) :
    charOf letter = some char ∧ letter ≠ 'u' := by
  have table : ∀ pair ∈ letters, charOf pair.2 = some pair.1 ∧ pair.2 ≠ 'u' := by decide
  unfold letterOf at known
  rw [Option.map_eq_some_iff] at known
  obtain ⟨pair, found, rfl⟩ := known
  have matching := List.find?_some found
  have isChar : pair.1 = char := beq_iff_eq.mp matching
  rw [← isChar]
  exact table pair (List.mem_of_find?_eq_some found)

/-- A character without a letter is neither the quote nor the escape. -/
theorem ne_of_letterOf_none {char : Char} (unknown : letterOf char = none) :
    char ≠ quote ∧ char ≠ escape := by
  constructor
  · rintro rfl
    exact absurd unknown (by decide)
  · rintro rfl
    exact absurd unknown (by decide)

/-- A character that is written is read. -/
theorem parseChars_renderChar (char : Char) (rest : List Char) :
    parseChars (renderChar char ++ rest) =
      (parseChars rest).map fun read => (char :: read.1, read.2) := by
  unfold renderChar
  cases known : letterOf char with
  | some letter =>
    obtain ⟨isChar, notHex⟩ := charOf_letterOf known
    show parseChars (escape :: letter :: rest) = _
    rw [parseChars]
    simp only [show escape ≠ quote by decide, if_false, if_true, isChar, Option.bind_eq_bind,
      Option.bind_some]
    · cases parseChars rest <;> rfl
    · exact fun _ _ _ _ _ isHex _ => notHex isHex
  | none =>
    obtain ⟨notQuote, notEscape⟩ := ne_of_letterOf_none known
    dsimp only
    split
    case isTrue control =>
      have high := hexValue_digitChar (char.toNat / 16) (by omega)
      have low := hexValue_digitChar (char.toNat % 16) (by omega)
      have whole : ((0 * 16 + 0) * 256 + char.toNat / 16 * 16 + char.toNat % 16) = char.toNat := by
        omega
      have read : hexChar '0' '0' (Nat.digitChar (char.toNat / 16))
          (Nat.digitChar (char.toNat % 16)) = some char := by
        unfold hexChar
        rw [high, low, show hexValue '0' = some 0 by decide]
        simp only [Option.bind_eq_bind, Option.bind_some, whole]
        have valid : char.toNat.isValidChar := char.valid
        rw [if_pos valid, Char.ofNat_toNat]
      show parseChars (escape :: 'u' :: '0' :: '0' :: _ :: _ :: rest) = _
      rw [parseChars.eq_def]
      simp only [show escape ≠ quote by decide, if_false, if_true, read, Option.bind_eq_bind,
        Option.bind_some]
      cases parseChars rest <;> rfl
    case isFalse printable =>
      show parseChars (char :: rest) = _
      rw [parseChars.eq_def]
      simp only [notQuote, notEscape, printable, if_false]
      cases parseChars rest <;> rfl

/-- The characters of a string are read back. -/
theorem parseChars_render (chars rest : List Char) :
    parseChars (chars.flatMap renderChar ++ quote :: rest) = some (chars, rest) := by
  induction chars with
  | nil =>
    show parseChars (quote :: rest) = _
    rw [parseChars.eq_def]
    exact if_pos rfl
  | cons char chars inductionHypothesis =>
    rw [List.flatMap_cons, List.append_assoc, parseChars_renderChar, inductionHypothesis]
    rfl

theorem parseText_renderText (text : String) (rest : List Char) :
    parseText (renderText text ++ rest) = some (text, rest) := by
  unfold renderText
  rw [List.cons_append, List.append_assoc, parseText, if_pos rfl, List.singleton_append,
    parseChars_render]
  show some (String.ofList text.toList, rest) = _
  rw [String.ofList_toList]

/-! ### Numbers -/

/-- Read a number without a sign, a fraction or a leading zero. -/
def parseNumber (chars : List Char) : Option (ℕ × List Char) :=
  let digits := chars.takeWhile Char.isDigit
  if digits = [] ∨ (digits.head? = some '0' ∧ digits ≠ ['0']) then none
  else some (Nat.ofDigitChars 10 digits 0, chars.dropWhile Char.isDigit)

/-- The rest of a text does not start with a digit. -/
def EndsNumber (rest : List Char) : Prop := ∀ char ∈ rest.head?, char.isDigit = false

/-- A number is written without a leading zero. -/
theorem head_toDigits {number : ℕ} (positive : 0 < number) :
    (Nat.toDigits 10 number).head? ≠ some '0' := by
  induction number using Nat.strongRecOn with
  | ind number inductionHypothesis =>
    by_cases single : number < 10
    · have table : ∀ digit < 10, 0 < digit → [Nat.digitChar digit].head? ≠ some '0' := by decide
      rw [Nat.toDigits_of_lt_base single]
      exact table number single positive
    · have parts := @Nat.toDigits_append_toDigits 10 (number / 10) (number % 10) (by decide)
        (by omega) (Nat.mod_lt _ (by decide))
      rw [Nat.div_add_mod] at parts
      rw [← parts, List.head?_append_of_ne_nil _ Nat.toDigits_ne_nil]
      exact inductionHypothesis (number / 10) (by omega) (by omega)

variable {rest : List Char}

/-- A number that is written is read. -/
theorem parseNumber_toDigits (number : ℕ) (ends : EndsNumber rest) :
    parseNumber (Nat.toDigits 10 number ++ rest) = some (number, rest) := by
  have digits : ∀ char ∈ Nat.toDigits 10 number, char.isDigit = true :=
    fun char => Nat.isDigit_of_mem_toDigits (by decide) (by decide)
  have taken : (Nat.toDigits 10 number ++ rest).takeWhile Char.isDigit = Nat.toDigits 10 number := by
    rw [List.takeWhile_append_of_pos digits]
    cases rest with
    | nil => exact List.append_nil _
    | cons char => rw [List.takeWhile_cons_of_neg (by rw [ends char rfl]; decide), List.append_nil]
  have dropped : (Nat.toDigits 10 number ++ rest).dropWhile Char.isDigit = rest := by
    rw [List.dropWhile_append_of_pos digits]
    cases rest with
    | nil => rfl
    | cons char => exact List.dropWhile_cons_of_neg (by rw [ends char rfl]; decide)
  have allowed : ¬(Nat.toDigits 10 number = [] ∨
      ((Nat.toDigits 10 number).head? = some '0' ∧ Nat.toDigits 10 number ≠ ['0'])) := by
    rintro (none | ⟨zero, more⟩)
    · exact Nat.toDigits_ne_nil none
    · rcases Nat.eq_zero_or_pos number with rfl | positive
      · exact more (Nat.toDigits_zero 10)
      · exact head_toDigits positive zero
  unfold parseNumber
  rw [taken, dropped]
  dsimp only
  rw [if_neg allowed, Nat.ofDigitChars_toDigits (by decide) (by decide)]

/-! ### Objects -/

/-- The character that starts an object. -/
def opening : Char := Char.ofNat 123

/-- The character that ends an object. -/
def closing : Char := Char.ofNat 125

/-- A value of a field. -/
def renderScalar : Scalar → List Char
  | .number value => Nat.toDigits 10 value
  | .text value => renderText value

/-- A field with its name. -/
def renderField (field : String × Scalar) : List Char :=
  renderText field.1 ++ ':' :: renderScalar field.2

/-- The fields of an object up to its closing brace. -/
def renderFields : Json → List Char
  | [] => [closing]
  | field :: rest => ',' :: (renderField field ++ renderFields rest)

/-- An object. -/
def render : Json → List Char
  | [] => [opening, closing]
  | field :: rest => opening :: (renderField field ++ renderFields rest)

/-- Read a value of a field. -/
def parseScalar (chars : List Char) : Option (Scalar × List Char) :=
  match parseText chars with
  | some (text, rest) => some (.text text, rest)
  | none => (parseNumber chars).map fun read => (.number read.1, read.2)

/-- Read a field with its name. -/
def parseField (chars : List Char) : Option ((String × Scalar) × List Char) := do
  let (name, rest) ← parseText chars
  match rest with
  | ':' :: rest =>
    let (value, rest) ← parseScalar rest
    return ((name, value), rest)
  | _ => none

/-- Read the fields of an object up to its closing brace, which ends the text. -/
def parseFields : ℕ → List Char → Option Json
  | 0, _ => none
  | _, [] => none
  | fuel + 1, first :: rest =>
    if first = closing then
      if rest = [] then some [] else none
    else if first = ',' then do
      let (field, rest) ← parseField rest
      return field :: (← parseFields fuel rest)
    else none

/-- Read an object. -/
def parse : List Char → Option Json
  | [] => none
  | first :: rest =>
    if first = opening then
      if rest = [closing] then some []
      else do
        let (field, rest) ← parseField rest
        return field :: (← parseFields rest.length rest)
    else none

theorem parseScalar_renderScalar (value : Scalar) (ends : EndsNumber rest) :
    parseScalar (renderScalar value ++ rest) = some (value, rest) := by
  unfold parseScalar renderScalar
  cases value with
  | text =>
    dsimp only
    rw [parseText_renderText]
  | number value =>
    have notText : parseText (Nat.toDigits 10 value ++ rest) = none := by
      obtain ⟨first, others, digits⟩ := List.exists_cons_of_ne_nil (@Nat.toDigits_ne_nil value 10)
      have isDigit : first.isDigit = true := by
        refine @Nat.isDigit_of_mem_toDigits 10 value first (by decide) (by decide) ?_
        rw [digits]
        exact List.mem_cons_self
      rw [digits, List.cons_append, parseText, if_neg]
      rintro rfl
      exact absurd isDigit (by decide)
    dsimp only
    rw [notText, parseNumber_toDigits value ends]
    rfl

theorem parseField_renderField (field : String × Scalar) (ends : EndsNumber rest) :
    parseField (renderField field ++ rest) = some (field, rest) := by
  unfold parseField renderField
  rw [List.append_assoc, parseText_renderText, List.cons_append]
  simp only [Option.bind_eq_bind, Option.bind_some, parseScalar_renderScalar field.2 ends]
  rfl

/-- The fields that are left end a number before them. -/
theorem endsNumber_renderFields (fields : Json) : EndsNumber (renderFields fields) := by
  cases fields with
  | nil =>
    intro char isHead
    cases isHead
    rfl
  | cons =>
    intro char isHead
    cases isHead
    rfl

theorem parseFields_renderFields (fields : Json) {fuel : ℕ} (enough : fields.length < fuel) :
    parseFields fuel (renderFields fields) = some fields := by
  induction fields generalizing fuel with
  | nil =>
    obtain ⟨fuel, rfl⟩ := Nat.exists_eq_succ_of_ne_zero (Nat.ne_of_gt enough)
    rfl
  | cons field rest inductionHypothesis =>
    obtain ⟨fuel, rfl⟩ := Nat.exists_eq_succ_of_ne_zero (Nat.ne_of_gt (Nat.zero_lt_of_lt enough))
    have more : rest.length < fuel := Nat.lt_of_succ_lt_succ enough
    rw [renderFields, parseFields, if_neg (by decide), if_pos rfl,
      parseField_renderField field (endsNumber_renderFields rest)]
    simp only [Option.bind_eq_bind, Option.bind_some, inductionHypothesis more]
    rfl

theorem length_renderFields (fields : Json) : fields.length < (renderFields fields).length := by
  induction fields with
  | nil => exact Nat.one_pos
  | cons =>
    unfold renderFields
    rw [List.length_cons, List.length_cons, List.length_append]
    omega

/-- An object that is written is read. -/
theorem parse_render (value : Json) : parse (render value) = some value := by
  cases value with
  | nil => rfl
  | cons field rest =>
    have notEmpty : ¬(renderField field ++ renderFields rest = [closing]) := by
      intro same
      exact absurd (List.cons.inj same).1 (by decide : ¬quote = closing)
    rw [render, parse, if_pos rfl, if_neg notEmpty,
      parseField_renderField field (endsNumber_renderFields rest)]
    simp only [Option.bind_eq_bind, Option.bind_some,
      parseFields_renderFields rest (length_renderFields rest)]
    rfl

/-- The codec of a plan. -/
def codec (plan : Plan) : Codec plan where
  render := render
  parse := parse
  whole value _ := parse_render value
  empty := rfl

end D20.Migration.Text
