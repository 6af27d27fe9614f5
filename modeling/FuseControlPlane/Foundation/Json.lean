/-
JSON values, their texts, and `JSON.parse`.

* `Json`: a value. A number is kept as its text, which follows the grammar of JSON numbers.
* `Json.stringify`: `JSON.stringify` of a value, members in the order they have.
* `Json.parse`: `JSON.parse`, by recursive descent. A text with a lone surrogate has no value here.
* `Json.parse_stringify`: **parsing gives the value back**; so `stringify_injective`.
* `Json.ofInt`, `Json.integer?`: integers among the numbers; `Json.field`: a member by its name.
-/

import FuseControlPlane.Foundation.JavaScript

set_option linter.unusedSectionVars false

namespace Foundation

open Foundation.JavaScript

/-! ### Numbers -/

/-- The characters of a JSON number. -/
def isNumberCharacter (character : Char) : Bool :=
  character.isDigit || ['-', '+', '.', 'e', 'E'].contains character

/-- `[0-9]+`. -/
def areDigits (characters : List Char) : Bool :=
  !characters.isEmpty && characters.all Char.isDigit

/-- The exponent of a number, or nothing. -/
def isExponent : List Char → Bool
  | [] => true
  | mark :: '+' :: digits => (mark == 'e' || mark == 'E') && areDigits digits
  | mark :: '-' :: digits => (mark == 'e' || mark == 'E') && areDigits digits
  | mark :: digits => (mark == 'e' || mark == 'E') && areDigits digits

/-- What follows the whole part of a number. -/
def isFraction : List Char → Bool
  | '.' :: rest =>
    areDigits (rest.takeWhile Char.isDigit) && isExponent (rest.dropWhile Char.isDigit)
  | rest => isExponent rest

/-- A number without its sign: no zero in front of other digits. -/
def isUnsigned (characters : List Char) : Bool :=
  let whole := characters.takeWhile Char.isDigit
  areDigits whole && (whole == ['0'] || whole.head? != some '0') &&
    isFraction (characters.dropWhile Char.isDigit)

/-- A text is a JSON number. -/
def isNumber (characters : List Char) : Bool :=
  characters.all isNumberCharacter &&
    match characters with
    | '-' :: rest => isUnsigned rest
    | _ => isUnsigned characters

/-- The text of a JSON number. -/
structure NumberText where
  characters : List Char
  valid : isNumber characters = true
  deriving DecidableEq

theorem NumberText.all (literal : NumberText) :
    ∀ character ∈ literal.characters, isNumberCharacter character = true := by
  have valid := literal.valid
  unfold isNumber at valid
  rw [Bool.and_eq_true] at valid
  exact List.all_eq_true.mp valid.1

theorem NumberText.ne_nil (literal : NumberText) : literal.characters ≠ [] := by
  intro empty
  have valid := literal.valid
  rw [empty] at valid
  cases valid

/-- A JSON value. -/
inductive Json
  | null
  | bool (value : Bool)
  | number (literal : NumberText)
  | string (text : String)
  | array (elements : List Json)
  | object (members : List (String × Json))

namespace Json

/-! ### Texts of values -/

mutual

/-- `JSON.stringify(value)`. -/
def stringify : Json → String
  | null => "null"
  | bool true => "true"
  | bool false => "false"
  | number literal => String.ofList literal.characters
  | string text => quote text
  | array elements => stringifyArray (elementTexts elements)
  | object members => stringifyObject (memberTexts members)
termination_by structural value => value

/-- The texts of the elements of an array. -/
def elementTexts : List Json → List String
  | [] => []
  | value :: rest => stringify value :: elementTexts rest
termination_by structural values => values

/-- The members of an object with the texts of their values. -/
def memberTexts : List (String × Json) → List (String × String)
  | [] => []
  | (name, value) :: rest => (name, stringify value) :: memberTexts rest
termination_by structural members => members

end

/-! ### Reading texts -/

/-- White space between the tokens of a JSON text. -/
def isSpace (character : Char) : Bool := [' ', '\n', '\r', '\t'].contains character

/-- A text without the white space at its front. -/
def skipSpace (characters : List Char) : List Char := characters.dropWhile isSpace

/-- The value of a hexadecimal digit. -/
def hexDigit (character : Char) : Option ℕ :=
  if character.isDigit then some (character.toNat - '0'.toNat)
  else if 'a' ≤ character ∧ character ≤ 'f' then some (character.toNat - 'a'.toNat + 10)
  else if 'A' ≤ character ∧ character ≤ 'F' then some (character.toNat - 'A'.toNat + 10)
  else none

/-- Four hexadecimal digits. -/
def codeUnit (first second third fourth : Char) : Option ℕ := do
  return (((← hexDigit first) * 16 + (← hexDigit second)) * 16 + (← hexDigit third)) * 16 +
    (← hexDigit fourth)

/-- What a backslash and a letter stand for. -/
def escaped : Char → Option Char
  | '"' => some '"'
  | '\\' => some '\\'
  | '/' => some '/'
  | 'b' => some '\x08'
  | 'f' => some '\x0c'
  | 'n' => some '\n'
  | 'r' => some '\r'
  | 't' => some '\t'
  | _ => none

/-- A high and a low surrogate as one character. -/
def surrogates (high low : ℕ) : Option Char :=
  if 0xD800 ≤ high ∧ high < 0xDC00 ∧ 0xDC00 ≤ low ∧ low < 0xE000 then
    some (Char.ofNat (0x10000 + (high - 0xD800) * 0x400 + (low - 0xDC00)))
  else none

/-- A string after its opening quotation mark, and what follows it. -/
def parseCharacters : List Char → Option (List Char × List Char)
  | '"' :: rest => some ([], rest)
  | '\\' :: 'u' :: first :: second :: third :: fourth :: rest =>
    match codeUnit first second third fourth with
    | none => none
    | some unit =>
      if unit < 0xD800 ∨ 0xE000 ≤ unit then
        (parseCharacters rest).map fun (characters, rest) => (Char.ofNat unit :: characters, rest)
      else
        match rest with
        | '\\' :: 'u' :: fifth :: sixth :: seventh :: eighth :: rest => do
          let character ← surrogates unit (← codeUnit fifth sixth seventh eighth)
          (parseCharacters rest).map fun (characters, rest) => (character :: characters, rest)
        | _ => none
  | '\\' :: letter :: rest =>
    match escaped letter with
    | none => none
    | some character =>
      (parseCharacters rest).map fun (characters, rest) => (character :: characters, rest)
  | character :: rest =>
    if character.toNat < 0x20 ∨ character = '\\' then none
    else (parseCharacters rest).map fun (characters, rest) => (character :: characters, rest)
  | [] => none

/-- A number, and what follows it. -/
def parseNumber (characters : List Char) : Option (Json × List Char) :=
  let literal := characters.takeWhile isNumberCharacter
  if valid : isNumber literal = true then
    some (number ⟨literal, valid⟩, characters.dropWhile isNumberCharacter)
  else none

mutual

/-- A value, and what follows it. The first argument bounds the depth. -/
def parseValue : ℕ → List Char → Option (Json × List Char)
  | 0, _ => none
  | depth + 1, characters =>
    match skipSpace characters with
    | 'n' :: 'u' :: 'l' :: 'l' :: rest => some (null, rest)
    | 't' :: 'r' :: 'u' :: 'e' :: rest => some (bool true, rest)
    | 'f' :: 'a' :: 'l' :: 's' :: 'e' :: rest => some (bool false, rest)
    | '"' :: rest =>
      (parseCharacters rest).map fun (text, rest) => (string (String.ofList text), rest)
    | '[' :: rest =>
      match skipSpace rest with
      | ']' :: rest => some (array [], rest)
      | _ => (parseElements depth rest).map fun (elements, rest) => (array elements, rest)
    | '\x7b' :: rest =>
      match skipSpace rest with
      | '\x7d' :: rest => some (object [], rest)
      | _ => (parseMembers depth rest).map fun (members, rest) => (object members, rest)
    | characters => parseNumber characters

/-- The elements of an array up to its closing bracket. -/
def parseElements : ℕ → List Char → Option (List Json × List Char)
  | 0, _ => none
  | depth + 1, characters =>
    match parseValue depth characters with
    | none => none
    | some (value, rest) =>
      match skipSpace rest with
      | ',' :: rest => (parseElements depth rest).map fun (values, rest) => (value :: values, rest)
      | ']' :: rest => some ([value], rest)
      | _ => none

/-- The members of an object up to its closing brace. -/
def parseMembers : ℕ → List Char → Option (List (String × Json) × List Char)
  | 0, _ => none
  | depth + 1, characters =>
    match skipSpace characters with
    | '"' :: rest =>
      match parseCharacters rest with
      | none => none
      | some (name, rest) =>
        match skipSpace rest with
        | ':' :: rest =>
          match parseValue depth rest with
          | none => none
          | some (value, rest) =>
            match skipSpace rest with
            | ',' :: rest =>
              (parseMembers depth rest).map fun (members, rest) =>
                ((String.ofList name, value) :: members, rest)
            | '\x7d' :: rest => some ([(String.ofList name, value)], rest)
            | _ => none
        | _ => none
    | _ => none

end

/-- `JSON.parse(text)`, or `none` if it throws. -/
def parse (text : String) : Option Json :=
  match parseValue (text.toList.length + 1) text.toList with
  | some (value, rest) => if skipSpace rest = [] then some value else none
  | none => none

/-! ### Round trip -/

theorem skipSpace_cons {character : Char} (visible : isSpace character = false)
    (rest : List Char) : skipSpace (character :: rest) = character :: rest := by
  rw [skipSpace, List.dropWhile_cons, visible]
  rfl

/-- The code unit of a text of four digits. -/
def fourDigits : List Char → Option ℕ
  | [first, second, third, fourth] => codeUnit first second third fourth
  | _ => none

/-- The six characters of an escaped control character. -/
theorem codeUnit_control : ∀ code < 0x20, ∃ first second third fourth,
    (List.replicate (4 - (Nat.toDigits 16 code).length) '0' ++ Nat.toDigits 16 code) =
      [first, second, third, fourth] ∧ codeUnit first second third fourth = some code := by
  have every : ∀ code < 0x20, fourDigits
      (List.replicate (4 - (Nat.toDigits 16 code).length) '0' ++ Nat.toDigits 16 code) = some code := by
    decide
  intro code small
  have here := every code small
  unfold fourDigits at here
  split at here
  · next first second third fourth shape => exact ⟨first, second, third, fourth, shape, here⟩
  · cases here

theorem parseCharacters_quoteCharacter (character : Char) (rest : List Char) :
    parseCharacters ((quoteCharacter character).toList ++ rest) =
      (parseCharacters rest).map fun (characters, rest) => (character :: characters, rest) := by
  unfold quoteCharacter
  split
  any_goals rfl
  next notQuote notSlash _ _ _ _ _ =>
    by_cases control : character.toNat < 0x20
    · obtain ⟨first, second, third, fourth, shape, unit⟩ := codeUnit_control character.toNat control
      have low : character.toNat < 0xD800 ∨ 0xE000 ≤ character.toNat := by omega
      rw [if_pos control]
      show parseCharacters (("\\u" ++ String.ofList _).toList ++ rest) = _
      rw [shape, String.toList_append, String.toList_ofList, String.toList_ofList]
      show parseCharacters ('\\' :: 'u' :: first :: second :: third :: fourth :: rest) = _
      rw [parseCharacters, unit]
      simp only [low, if_true, Char.ofNat_toNat]
    · rw [if_neg control]
      simp only [String.toList_singleton, List.cons_append, List.nil_append]
      rw [parseCharacters.eq_def]
      split
      all_goals simp_all

theorem parseCharacters_quote (text : String) (rest : List Char) :
    parseCharacters ((String.join (text.toList.map quoteCharacter)).toList ++ '"' :: rest) =
      some (text.toList, rest) := by
  induction text.toList with
  | nil => rfl
  | cons character characters ih =>
    rw [List.map_cons, String.join_cons, String.toList_append, List.append_assoc,
      parseCharacters_quoteCharacter, ih]
    rfl

theorem quote_append (text : String) (rest : List Char) : (quote text).toList ++ rest =
    '"' :: ((String.join (text.toList.map quoteCharacter)).toList ++ '"' :: rest) := by
  simp [quote]

/-- A continuation does not go on with a number. -/
def EndsNumber (rest : List Char) : Prop := ∀ character tail,
    rest = character :: tail → isNumberCharacter character = false

theorem endsNumber_cons {character : Char} (stops : isNumberCharacter character = false)
    (rest : List Char) : EndsNumber (character :: rest) := by
  intro other tail shape
  cases shape
  exact stops

theorem parseNumber_append (literal : NumberText) {rest : List Char} (ends : EndsNumber rest) :
    parseNumber (literal.characters ++ rest) = some (number literal, rest) := by
  have front : (literal.characters ++ rest).takeWhile isNumberCharacter = literal.characters := by
    rw [List.takeWhile_append_of_pos literal.all]
    cases rest with
    | nil => simp
    | cons other tail => simp [ends other tail rfl]
  have back : (literal.characters ++ rest).dropWhile isNumberCharacter = rest := by
    rw [List.dropWhile_append_of_pos literal.all]
    cases rest with
    | nil => rfl
    | cons other tail => simp [ends other tail rfl]
  unfold parseNumber
  simp only [front, back, literal.valid, dite_true]

/-! Every text starts with a character that is neither white space nor closes an array. -/

/-- Neither white space nor a closing bracket. -/
def Opens (character : Char) : Prop := isSpace character = false ∧ character ≠ ']'

theorem opens_number {character : Char} (inNumber : isNumberCharacter character = true) :
    Opens character := by
  refine ⟨?_, ?_⟩
  · by_contra space
    rw [Bool.not_eq_false] at space
    have one : character ∈ [' ', '\n', '\r', '\t'] := List.contains_iff_mem.mp space
    simp only [List.mem_cons, List.not_mem_nil, or_false] at one
    rcases one with rfl | rfl | rfl | rfl <;> cases inNumber
  · rintro rfl
    cases inNumber

theorem stringify_head (value : Json) :
    ∃ character rest, (stringify value).toList = character :: rest ∧ Opens character := by
  cases value with
  | null => exact ⟨'n', _, rfl, rfl, by decide⟩
  | bool value =>
    cases value with
    | true => exact ⟨'t', _, rfl, rfl, by decide⟩
    | false => exact ⟨'f', _, rfl, rfl, by decide⟩
  | number literal =>
    obtain ⟨character, rest, shape⟩ := List.exists_cons_of_ne_nil literal.ne_nil
    refine ⟨character, rest, ?_, ?_⟩
    · rw [stringify, String.toList_ofList, shape]
    · refine opens_number (literal.all character ?_)
      rw [shape]
      exact List.mem_cons_self
  | string text =>
    have shape := quote_append text []
    rw [List.append_nil] at shape
    exact ⟨'"', _, shape, rfl, by decide⟩
  | array elements =>
    refine ⟨'[', (",".intercalate (elementTexts elements)).toList ++ [']'], ?_, rfl, by decide⟩
    simp only [stringify, stringifyArray, String.toList_append, List.append_assoc]
    rfl
  | object members =>
    refine ⟨'\x7b', (",".intercalate ((memberTexts members).map fun member =>
      quote member.1 ++ ":" ++ member.2)).toList ++ ['\x7d'], ?_, rfl, by decide⟩
    simp only [stringify, stringifyObject, String.toList_append, List.append_assoc]
    rfl

/-- The rest of an array after its first element. -/
def elementsTail : List Json → List Char
  | [] => [']']
  | value :: rest => ',' :: ((stringify value).toList ++ elementsTail rest)

/-- The rest of an object after its first member. -/
def membersTail : List (String × Json) → List Char
  | [] => ['\x7d']
  | (name, value) :: rest =>
    ',' :: ((quote name).toList ++ ':' :: ((stringify value).toList ++ membersTail rest))

theorem stringify_array (value : Json) (rest : List Json) :
    (stringify (array (value :: rest))).toList =
      '[' :: ((stringify value).toList ++ elementsTail rest) := by
  have joined : ∀ (first : Json) (others : List Json),
      (",".intercalate (elementTexts (first :: others))).toList ++ [']'] =
        (stringify first).toList ++ elementsTail others := by
    intro first others
    induction others generalizing first with
    | nil => simp [elementTexts, elementsTail]
    | cons second others ih =>
      have here := ih second
      simp only [elementTexts] at here ⊢
      simp only [String.intercalate_cons_cons, String.toList_append, List.append_assoc, here,
        elementsTail]
      rfl
  have here := joined value rest
  simp only [stringify, stringifyArray, String.toList_append, List.append_assoc]
  exact congrArg (List.cons '[') here

theorem stringify_object (name : String) (value : Json) (rest : List (String × Json)) :
    (stringify (object ((name, value) :: rest))).toList =
      '\x7b' :: ((quote name).toList ++ ':' :: ((stringify value).toList ++ membersTail rest)) := by
  have joined : ∀ (label : String) (first : Json) (others : List (String × Json)),
      (",".intercalate ((memberTexts ((label, first) :: others)).map fun member =>
        quote member.1 ++ ":" ++ member.2)).toList ++ ['\x7d'] =
        (quote label).toList ++ ':' :: ((stringify first).toList ++ membersTail others) := by
    intro label first others
    induction others generalizing label first with
    | nil => simp [memberTexts, membersTail]
    | cons second others ih =>
      have here := ih second.1 second.2
      simp only [memberTexts, List.map_cons] at here ⊢
      simp only [String.intercalate_cons_cons, String.toList_append, List.append_assoc, here,
        membersTail]
      rfl
  have here := joined name value rest
  simp only [stringify, stringifyObject, String.toList_append, List.append_assoc]
  exact congrArg (List.cons '\x7b') here

theorem endsNumber_elements (values : List Json) (rest : List Char) :
    EndsNumber (elementsTail values ++ rest) := by
  cases values with
  | nil => exact endsNumber_cons rfl _
  | cons value values => exact endsNumber_cons rfl _

theorem endsNumber_members (members : List (String × Json)) (rest : List Char) :
    EndsNumber (membersTail members ++ rest) := by
  cases members with
  | nil => exact endsNumber_cons rfl _
  | cons member members => exact endsNumber_cons rfl _

mutual

/-- A bound on the depth the parser needs. -/
def size : Json → ℕ
  | array elements => 1 + sizeElements elements
  | object members => 1 + sizeMembers members
  | _ => 1
termination_by structural value => value

def sizeElements : List Json → ℕ
  | [] => 0
  | value :: rest => 1 + size value + sizeElements rest
termination_by structural values => values

def sizeMembers : List (String × Json) → ℕ
  | [] => 0
  | (_, value) :: rest => 1 + size value + sizeMembers rest
termination_by structural members => members

end

/-- The parser at a number goes to `parseNumber`. -/
theorem parseValue_number (depth : ℕ) (literal : NumberText) {rest : List Char}
    (ends : EndsNumber rest) :
    parseValue (depth + 1) (literal.characters ++ rest) = some (number literal, rest) := by
  have parsed := parseNumber_append literal ends
  obtain ⟨character, tail, shape⟩ := List.exists_cons_of_ne_nil literal.ne_nil
  have inNumber : isNumberCharacter character = true := by
    refine literal.all character ?_
    rw [shape]
    exact List.mem_cons_self
  rw [shape, List.cons_append] at parsed ⊢
  have ordinary : ∀ other, isNumberCharacter other = false → character ≠ other := by
    rintro other notNumber rfl
    rw [inNumber] at notNumber
    cases notNumber
  rw [parseValue, skipSpace_cons (opens_number inNumber).1]
  split
  · next same => exact absurd (List.cons.inj same).1 (ordinary 'n' rfl)
  · next same => exact absurd (List.cons.inj same).1 (ordinary 't' rfl)
  · next same => exact absurd (List.cons.inj same).1 (ordinary 'f' rfl)
  · next same => exact absurd (List.cons.inj same).1 (ordinary '"' rfl)
  · next same => exact absurd (List.cons.inj same).1 (ordinary '[' rfl)
  · next same => exact absurd (List.cons.inj same).1 (ordinary '\x7b' rfl)
  · exact parsed

mutual

theorem parseValue_stringify (value : Json) (depth : ℕ) (rest : List Char)
    (enough : size value ≤ depth) (ends : EndsNumber rest) :
    parseValue depth ((stringify value).toList ++ rest) = some (value, rest) := by
  cases depth with
  | zero => cases value <;> simp [size] at enough
  | succ depth =>
    cases value with
    | null => rfl
    | bool value => cases value <;> rfl
    | number literal =>
      rw [stringify, String.toList_ofList]
      exact parseValue_number depth literal ends
    | string text =>
      rw [stringify, quote_append, parseValue, skipSpace_cons rfl]
      simp only [parseCharacters_quote]
      rw [Option.map_some, String.ofList_toList]
    | array elements =>
      cases elements with
      | nil => rfl
      | cons first others =>
        simp only [size, sizeElements] at enough
        obtain ⟨character, tail, shape, opens⟩ := stringify_head first
        have elements := parseElements_stringify first others depth rest (by omega)
        rw [stringify_array, List.cons_append, parseValue, skipSpace_cons rfl]
        rw [List.append_assoc, shape, List.cons_append] at elements ⊢
        simp only [skipSpace_cons opens.1]
        rw [elements]
        split
        · next same => exact absurd (List.cons.inj same).1 opens.2
        · rfl
    | object members =>
      cases members with
      | nil => rfl
      | cons first others =>
        obtain ⟨name, value⟩ := first
        simp only [size, sizeMembers] at enough
        have members := parseMembers_stringify name value others depth rest (by omega)
        rw [stringify_object, List.cons_append, parseValue, skipSpace_cons rfl]
        rw [List.append_assoc, quote_append] at members ⊢
        simp only [skipSpace_cons (show isSpace '"' = false from rfl)]
        rw [members]
        rfl
termination_by depth

theorem parseElements_stringify (first : Json) (others : List Json) (depth : ℕ)
    (rest : List Char) (enough : 1 + size first + sizeElements others ≤ depth) :
    parseElements depth ((stringify first).toList ++ elementsTail others ++ rest) =
      some (first :: others, rest) := by
  cases depth with
  | zero => omega
  | succ depth =>
    have here := parseValue_stringify first depth (elementsTail others ++ rest) (by omega)
      (endsNumber_elements others rest)
    rw [List.append_assoc, parseElements, here]
    cases others with
    | nil => rfl
    | cons second others =>
      simp only [sizeElements] at enough
      have later := parseElements_stringify second others depth rest (by omega)
      simp only [elementsTail, List.cons_append, skipSpace_cons (show isSpace ',' = false from rfl)]
      rw [later]
      rfl
termination_by depth

theorem parseMembers_stringify (name : String) (value : Json) (others : List (String × Json))
    (depth : ℕ) (rest : List Char) (enough : 1 + size value + sizeMembers others ≤ depth) :
    parseMembers depth ((quote name).toList ++ ':' :: ((stringify value).toList ++
      membersTail others) ++ rest) = some ((name, value) :: others, rest) := by
  cases depth with
  | zero => omega
  | succ depth =>
    have here := parseValue_stringify value depth (membersTail others ++ rest) (by omega)
      (endsNumber_members others rest)
    rw [List.append_assoc, quote_append, parseMembers, skipSpace_cons rfl]
    simp only [parseCharacters_quote, List.cons_append, List.append_assoc,
      skipSpace_cons (show isSpace ':' = false from rfl)]
    rw [here]
    cases others with
    | nil => simp [membersTail, skipSpace_cons (show isSpace '\x7d' = false from rfl)]
    | cons second others =>
      obtain ⟨label, second⟩ := second
      simp only [sizeMembers] at enough
      have later := parseMembers_stringify label second others depth rest (by omega)
      simp only [membersTail, List.cons_append, skipSpace_cons (show isSpace ',' = false from rfl)]
      rw [later]
      simp
termination_by depth

end

mutual

theorem size_le_length (value : Json) : size value ≤ (stringify value).toList.length := by
  cases value with
  | array elements =>
    cases elements with
    | nil => decide
    | cons first others =>
      have bound := sizeElements_le_length first others
      rw [stringify_array, List.length_cons]
      simp only [size, sizeElements]
      omega
  | object members =>
    cases members with
    | nil => decide
    | cons first others =>
      obtain ⟨name, value⟩ := first
      have bound := sizeMembers_le_length name value others
      rw [stringify_object, List.length_cons]
      simp only [size, sizeMembers]
      omega
  | _ =>
    obtain ⟨character, rest, shape, _⟩ := stringify_head _
    rw [shape, List.length_cons]
    simp only [size]
    omega
termination_by size value
decreasing_by
  · simp only [size, sizeElements]
    omega
  · simp only [size, sizeMembers]
    omega

theorem sizeElements_le_length (first : Json) (others : List Json) :
    size first + sizeElements others + 1 ≤
      ((stringify first).toList ++ elementsTail others).length := by
  have here := size_le_length first
  rw [List.length_append]
  cases others with
  | nil =>
    simp only [sizeElements, elementsTail, List.length_singleton]
    omega
  | cons second others =>
    have later := sizeElements_le_length second others
    simp only [sizeElements, elementsTail, List.length_cons]
    omega
termination_by size first + sizeElements others + 1
decreasing_by
  · omega
  · simp only [sizeElements]
    omega

theorem sizeMembers_le_length (name : String) (value : Json) (others : List (String × Json)) :
    size value + sizeMembers others + 1 ≤ ((quote name).toList ++
      ':' :: ((stringify value).toList ++ membersTail others)).length := by
  have here := size_le_length value
  rw [List.length_append, List.length_cons, List.length_append]
  cases others with
  | nil =>
    simp only [sizeMembers, membersTail, List.length_singleton]
    omega
  | cons second others =>
    obtain ⟨label, second⟩ := second
    have later := sizeMembers_le_length label second others
    simp only [sizeMembers, membersTail, List.length_cons]
    omega
termination_by size value + sizeMembers others + 1
decreasing_by
  · omega
  · simp only [sizeMembers]
    omega

end

/-- **`JSON.parse` gives back what `JSON.stringify` wrote**, with white space after it. -/
theorem parse_stringify_append (value : Json) {space : String}
    (blank : ∀ character ∈ space.toList, isSpace character = true) :
    parse (stringify value ++ space) = some value := by
  have enough : size value ≤ (stringify value ++ space).toList.length + 1 := by
    have bound := size_le_length value
    rw [String.toList_append, List.length_append]
    omega
  have ends : EndsNumber space.toList := by
    intro character tail shape
    have spaces := blank character (by rw [shape]; exact List.mem_cons_self)
    by_contra inNumber
    rw [(opens_number (Bool.not_eq_false _ ▸ inNumber)).1] at spaces
    cases spaces
  have parsed := parseValue_stringify value _ space.toList enough ends
  have nothing : skipSpace space.toList = [] := List.dropWhile_eq_nil_iff.mpr blank
  rw [← String.toList_append] at parsed
  simp only [parse, parsed, nothing, if_true]

theorem parse_stringify (value : Json) : parse (stringify value) = some value := by
  have parsed := @parse_stringify_append value "" (by simp)
  rwa [String.append_empty] at parsed

theorem stringify_injective : Function.Injective stringify := by
  intro first second same
  have parsed := parse_stringify first
  rw [same, parse_stringify] at parsed
  exact (Option.some.inj parsed).symm

/-! ### Integers -/

theorem toDigits_head (value : ℕ) (positive : 0 < value) :
    (Nat.toDigits 10 value).head? ≠ some '0' := by
  induction value using Nat.strong_induction_on with
  | _ value ih =>
    by_cases small : value < 10
    · rw [Nat.toDigits_of_lt_base small]
      have every : ∀ digit < 10, 0 < digit → [digit.digitChar].head? ≠ some '0' := by decide
      exact every value small positive
    · rw [Nat.toDigits_of_base_le (by decide) (by omega)]
      have front := ih (value / 10) (by omega) (by omega)
      rwa [List.head?_append_of_ne_nil _ Nat.toDigits_ne_nil]

theorem areDigits_toDigits (value : ℕ) : areDigits (Nat.toDigits 10 value) = true := by
  have digits : ∀ character ∈ Nat.toDigits 10 value, character.isDigit = true :=
    fun _ member => Nat.isDigit_of_mem_toDigits (by decide) (by decide) member
  rw [areDigits, Bool.and_eq_true, List.all_eq_true]
  refine ⟨?_, digits⟩
  rw [Bool.not_eq_true', List.isEmpty_eq_false_iff]
  exact Nat.toDigits_ne_nil

theorem isUnsigned_toDigits (value : ℕ) : isUnsigned (Nat.toDigits 10 value) = true := by
  have digits : ∀ character ∈ Nat.toDigits 10 value, character.isDigit = true :=
    fun _ member => Nat.isDigit_of_mem_toDigits (by decide) (by decide) member
  have whole : (Nat.toDigits 10 value).takeWhile Char.isDigit = Nat.toDigits 10 value :=
    List.takeWhile_eq_self_iff.mpr digits
  have rest : (Nat.toDigits 10 value).dropWhile Char.isDigit = [] :=
    List.dropWhile_eq_nil_iff.mpr digits
  unfold isUnsigned
  simp only [whole, rest, areDigits_toDigits, Bool.true_and]
  by_cases zero : value = 0
  · subst zero
    decide
  · have front := toDigits_head value (by omega)
    rw [(bne_iff_ne).mpr front]
    simp [isFraction, isExponent]

/-- The digits of an integer, with its sign. -/
def integerText (value : ℤ) : List Char :=
  if value < 0 then '-' :: Nat.toDigits 10 value.natAbs else Nat.toDigits 10 value.natAbs

theorem isNumber_integerText (value : ℤ) : isNumber (integerText value) = true := by
  have digits : ∀ character ∈ Nat.toDigits 10 value.natAbs, character.isDigit = true :=
    fun _ member => Nat.isDigit_of_mem_toDigits (by decide) (by decide) member
  have inNumber : (Nat.toDigits 10 value.natAbs).all isNumberCharacter = true := by
    rw [List.all_eq_true]
    intro character member
    rw [isNumberCharacter, digits character member, Bool.true_or]
  unfold integerText
  by_cases negative : value < 0
  · rw [if_pos negative, isNumber, List.all_cons, inNumber]
    exact isUnsigned_toDigits value.natAbs
  · rw [if_neg negative, isNumber, inNumber, Bool.true_and]
    · exact isUnsigned_toDigits value.natAbs
    · intro rest shape
      have dash := digits '-' (by rw [shape]; exact List.mem_cons_self)
      cases dash

/-- An integer as a number. -/
def ofInt (value : ℤ) : Json := number ⟨integerText value, isNumber_integerText value⟩

/-- The integer a number is written as, if it is written with a sign and digits alone. -/
def integer? : Json → Option ℤ
  | number literal =>
    match literal.characters with
    | '-' :: digits => if areDigits digits then some (-(Nat.ofDigitChars 10 digits 0 : ℤ)) else none
    | digits => if areDigits digits then some (Nat.ofDigitChars 10 digits 0) else none
  | _ => none

@[simp] theorem integer?_ofInt (value : ℤ) : integer? (ofInt value) = some value := by
  have digits : ∀ character ∈ Nat.toDigits 10 value.natAbs, character.isDigit = true :=
    fun _ member => Nat.isDigit_of_mem_toDigits (by decide) (by decide) member
  have read : Nat.ofDigitChars 10 (Nat.toDigits 10 value.natAbs) 0 = value.natAbs :=
    Nat.ofDigitChars_ten_toDigits
  unfold integer? ofInt integerText
  by_cases negative : value < 0
  · simp only [if_pos negative, areDigits_toDigits, if_true, read]
    congr 1
    omega
  · simp only [if_neg negative]
    split
    · next rest shape =>
      have dash := digits '-' (by rw [shape]; exact List.mem_cons_self)
      cases dash
    · simp only [areDigits_toDigits, if_true, read]
      congr 1
      omega

/-! ### Members -/

/-- `value[name]` of a parsed value: the last of several members of one name. -/
def field (name : String) : Json → Option Json
  | object members => (members.reverse.find? fun member => member.1 == name).map (·.2)
  | _ => none

theorem field_of_mem {name : String} {value : Json} {members : List (String × Json)}
    (distinct : (members.map (·.1)).Nodup) (member : (name, value) ∈ members) :
    field name (object members) = some value := by
  have found : members.reverse.find? (fun other => other.1 == name) = some (name, value) := by
    have inside : (name, value) ∈ members.reverse := List.mem_reverse.mpr member
    cases here : members.reverse.find? (fun other => other.1 == name) with
    | none =>
      have absent := List.find?_eq_none.mp here _ inside
      simp at absent
    | some other =>
      have named : other.1 = name := by simpa using List.find?_some here
      have listed : other ∈ members := List.mem_reverse.mp (List.mem_of_find?_eq_some here)
      have same : other = (name, value) := List.inj_on_of_nodup_map distinct listed member named
      rw [same]
  rw [field, found]
  rfl

/-! ### Sorted members -/

variable (before : String → String → Bool)

mutual

/-- A value with the members of its objects in the given order of their names. -/
def sortKeys : Json → Json
  | array elements => array (sortElements elements)
  | object members =>
    object ((sortMembers members).insertionSort fun first second => before first.1 second.1)
  | value => value
termination_by structural value => value

def sortElements : List Json → List Json
  | [] => []
  | value :: rest => sortKeys value :: sortElements rest
termination_by structural values => values

def sortMembers : List (String × Json) → List (String × Json)
  | [] => []
  | (name, value) :: rest => (name, sortKeys value) :: sortMembers rest
termination_by structural members => members

end

theorem names_sortMembers (members : List (String × Json)) :
    (sortMembers before members).map (·.1) = members.map (·.1) := by
  induction members with
  | nil => rfl
  | cons member rest ih => exact congrArg (List.cons member.1) ih

theorem mem_sortMembers {name : String} {value : Json} {members : List (String × Json)}
    (member : (name, value) ∈ members) : (name, sortKeys before value) ∈ sortMembers before members := by
  induction members with
  | nil => cases member
  | cons other rest ih =>
    rcases List.mem_cons.mp member with rfl | later
    · exact List.mem_cons_self
    · exact List.mem_cons_of_mem _ (ih later)

/-- Sorting keeps what is under a name. -/
theorem field_sortKeys {name : String} {value : Json} {members : List (String × Json)}
    (distinct : (members.map (·.1)).Nodup) (member : (name, value) ∈ members) :
    field name (sortKeys before (object members)) = some (sortKeys before value) := by
  have sorted := List.perm_insertionSort (fun first second : String × Json =>
    before first.1 second.1) (sortMembers before members)
  refine field_of_mem ?_ (sorted.mem_iff.mpr (mem_sortMembers before member))
  rw [(sorted.map _).nodup_iff, names_sortMembers]
  exact distinct

end Json

end Foundation
