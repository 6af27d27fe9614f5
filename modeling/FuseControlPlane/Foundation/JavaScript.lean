/-
The JavaScript built-ins the code relies on.

* `startsWith`, `includes`, `take`, `drop`: the start of a text, its parts and `slice`.
* `trim`, `isBlank`: white space at the ends of a text; `isBlank text` is the test `!text.trim()`.
* `codeUnits`, `length`, `sorted`: a text as UTF-16 code units, its `length`, and the order of
  `Array.prototype.sort` without a comparator.
* `matchesClass`: a regular expression `^[class]{low,high}$`.
* `Thrown`: what a `catch` catches.
* `isSafeInteger`, `hasDuplicates`: `Number.isSafeInteger` and `new Set(values).size !== values.length`.
* `NodeCrypto`, `Collation`: the SHA-256 digest of `node:crypto` and `localeCompare`, of which nothing
  is assumed.
* `Member`: what a plain object has under a name, inherited or not.
* `toISOString`, `quote`, `stringifyArray`, `stringifyObject`: the texts of a date and of JSON values.

A date text is modelled by what `Date.parse` makes of it: milliseconds, or `none` for `NaN`.
-/

import Mathlib.Algebra.Order.Ring.Int
import Mathlib.Data.List.Lex
import Mathlib.Data.List.Sort
import Mathlib.Data.List.TakeWhile
import Mathlib.Tactic.Common

namespace Foundation.JavaScript

/-! ### Texts -/

/-- WhiteSpace and LineTerminator, the characters `trim` removes. -/
def isWhiteSpace (character : Char) : Bool :=
  let code := character.toNat
  (9 ≤ code && code ≤ 13) || (0x2000 ≤ code && code ≤ 0x200A) ||
    [0x20, 0xA0, 0x1680, 0x2028, 0x2029, 0x202F, 0x205F, 0x3000, 0xFEFF].contains code

/-- A list without the white space at its front. -/
def trimFront (characters : List Char) : List Char := characters.dropWhile isWhiteSpace

/-- `text.trim()`. -/
def trim (text : String) : String :=
  String.ofList (trimFront (trimFront text.toList).reverse).reverse

/-- `!text.trim()`: the trimmed text is empty. -/
def isBlank (text : String) : Bool := trim text == ""

/-- Some character of the text is not white space. -/
def isVisible (text : String) : Bool := text.toList.any fun character => !isWhiteSpace character

theorem isVisible_append (first second : String) :
    isVisible (first ++ second) = (isVisible first || isVisible second) := by
  simp [isVisible]

theorem isBlank_of_isVisible {text : String} (visible : isVisible text = true) :
    isBlank text = false := by
  obtain ⟨character, member, shown⟩ := List.any_eq_true.mp visible
  rw [isBlank, beq_eq_false_iff_ne]
  intro empty
  have nothing : trimFront (trimFront text.toList).reverse = [] := by
    simpa [trim] using congrArg String.toList empty
  have white : ∀ other ∈ trimFront text.toList, isWhiteSpace other = true := by
    intro other inside
    exact List.dropWhile_eq_nil_iff.mp nothing other (List.mem_reverse.mpr inside)
  have front : trimFront text.toList = [] := by
    by_contra left
    have shown : isWhiteSpace ((trimFront text.toList).head left) = false :=
      List.head_dropWhile_not isWhiteSpace left
    rw [white _ (List.head_mem left)] at shown
    cases shown
  rw [List.dropWhile_eq_nil_iff.mp front character member] at shown
  cases shown

/-- The UTF-16 code units of a text. -/
def codeUnits (text : String) : List ℕ :=
  text.toList.flatMap fun character =>
    let code := character.toNat
    if code < 0x10000 then [code]
    else [0xD800 + (code - 0x10000) / 0x400, 0xDC00 + (code - 0x10000) % 0x400]

/-- `text.length`. -/
def length (text : String) : ℕ := (codeUnits text).length

/-- `text.startsWith(start)`. -/
def startsWith (text start : String) : Bool := start.toList.isPrefixOf text.toList

theorem startsWith_append (start rest : String) : startsWith (start ++ rest) start = true := by
  simp [startsWith, List.isPrefixOf_iff_prefix]

/-- `text.includes(part)`. -/
def includes (text part : String) : Bool := text.toList.tails.any part.toList.isPrefixOf

/-- `text.slice(0, count)` of a text without surrogate pairs. -/
def take (count : ℕ) (text : String) : String := String.ofList (text.toList.take count)

/-- `text.slice(count)` of a text without surrogate pairs. -/
def drop (count : ℕ) (text : String) : String := String.ofList (text.toList.drop count)

/-- `[...texts].sort()`: by code units. -/
def sorted (texts : List String) : List String :=
  texts.insertionSort fun first second => codeUnits first ≤ codeUnits second

/-- The regular expression `^[class]{low,high}$`. -/
def matchesClass (inClass : Char → Bool) (low high : ℕ) (text : String) : Bool :=
  let characters := text.toList
  low ≤ characters.length && characters.length ≤ high && characters.all inClass

theorem drop_append (start rest : String) : drop start.toList.length (start ++ rest) = rest := by
  simp [drop]

/-! ### Errors -/

/-- What is thrown: an `Error`, or something else. -/
inductive Thrown
  | error (message : String)
  | other
  deriving DecidableEq

/-- `error instanceof Error ? error.message : fallback`. -/
def Thrown.messageOr (fallback : String) : Thrown → String
  | error message => message
  | other => fallback

/-! ### Numbers and collections -/

/-- `Number.isSafeInteger(value)` of an integral number. -/
def isSafeInteger (value : ℤ) : Bool := value.natAbs < 2 ^ 53

/-- `new Set(values).size !== values.length`. -/
def hasDuplicates {α : Type} [DecidableEq α] (values : List α) : Bool := !decide values.Nodup

/-! ### Dates -/

/-- Digits of a number, zeros in front up to the width. -/
def padStart (width value : ℕ) : String :=
  let digits := toString value
  String.ofList (List.replicate (width - digits.toList.length) '0') ++ digits

/-- Year, month and day of a count of days since 1970-01-01, in the proleptic Gregorian calendar.
Years are counted from March, in eras of 400 years (146097 days). -/
def civilFromDays (days : ℤ) : ℤ × ℕ × ℕ :=
  let shifted := days + 719468
  let era := shifted.fdiv 146097
  let dayOfEra := (shifted - era * 146097).toNat
  let yearOfEra :=
    (dayOfEra - dayOfEra / 1460 + dayOfEra / 36524 - dayOfEra / 146096) / 365
  let dayOfYear := dayOfEra - (365 * yearOfEra + yearOfEra / 4 - yearOfEra / 100)
  let march := (5 * dayOfYear + 2) / 153
  let day := dayOfYear - (153 * march + 2) / 5 + 1
  let month := if march < 10 then march + 3 else march - 9
  ((yearOfEra : ℤ) + era * 400 + (if month ≤ 2 then 1 else 0), month, day)

/-- The year of an ISO text: four digits, or a sign and six outside 0 to 9999. -/
def isoYear (year : ℤ) : String :=
  if 0 ≤ year ∧ year ≤ 9999 then padStart 4 year.toNat
  else (if year < 0 then "-" else "+") ++ padStart 6 year.natAbs

/-- `new Date(milliseconds).toISOString()`. -/
def toISOString (milliseconds : ℤ) : String :=
  let days := milliseconds.fdiv 86400000
  let rest := (milliseconds - days * 86400000).toNat
  let (year, month, day) := civilFromDays days
  isoYear year ++ "-" ++ padStart 2 month ++ "-" ++ padStart 2 day ++ "T" ++
    padStart 2 (rest / 3600000) ++ ":" ++ padStart 2 (rest / 60000 % 60) ++ ":" ++
    padStart 2 (rest / 1000 % 60) ++ "." ++ padStart 3 (rest % 1000) ++ "Z"

example : toISOString 1767323045678 = "2026-01-02T03:04:05.678Z" := by decide +kernel

/-! ### JSON texts -/

/-- One character inside a JSON string. -/
def quoteCharacter (character : Char) : String :=
  match character with
  | '"' => "\\\""
  | '\\' => "\\\\"
  | '\x08' => "\\b"
  | '\x0c' => "\\f"
  | '\n' => "\\n"
  | '\r' => "\\r"
  | '\t' => "\\t"
  | _ =>
    if character.toNat < 0x20 then
      let digits := Nat.toDigits 16 character.toNat
      "\\u" ++ String.ofList (List.replicate (4 - digits.length) '0' ++ digits)
    else String.singleton character

/-- `JSON.stringify` of a text. -/
def quote (text : String) : String :=
  "\"" ++ String.join (text.toList.map quoteCharacter) ++ "\""

/-- `JSON.stringify` of an array, from the texts of its elements. -/
def stringifyArray (elements : List String) : String := "[" ++ ",".intercalate elements ++ "]"

/-- `JSON.stringify` of an object, from its keys and the texts of their values, in order. -/
def stringifyObject (fields : List (String × String)) : String :=
  "\x7b" ++ ",".intercalate (fields.map fun (name, value) => quote name ++ ":" ++ value) ++ "\x7d"

/-! ### Plain objects -/

/-- The text of a member that every plain object inherits from `Object.prototype`. -/
def objectPrototype (name : String) : Option String :=
  if name = "__proto__" then some "[object Object]"
  else if name = "constructor" then some "function Object() \x7b [native code] \x7d"
  else if ["toString", "toLocaleString", "valueOf", "hasOwnProperty", "isPrototypeOf",
      "propertyIsEnumerable", "__defineGetter__", "__defineSetter__", "__lookupGetter__",
      "__lookupSetter__"].contains name then
    some ("function " ++ name ++ "() \x7b [native code] \x7d")
  else none

/-- `object[name]` of a plain object of numbers: its own number, a member it inherits, which converts
to a text, or `undefined`. -/
inductive Member
  | number (value : ℕ)
  | inherited (text : String)
  | undefined
  deriving DecidableEq

/-- `object[name]`. -/
def memberOf (entries : List (String × ℕ)) (name : String) : Member :=
  match entries.lookup name with
  | some value => .number value
  | none =>
    match objectPrototype name with
    | some text => .inherited text
    | none => .undefined

/-- `first <= (second ?? Infinity)`. A text that is not a number compares with numbers as `NaN`. -/
def Member.atMost : Member → Member → Bool
  | number first, number second => first ≤ second
  | number _, undefined => true
  | inherited first, inherited second => codeUnits first ≤ codeUnits second
  | _, _ => false

/-! ### Digests and collation -/

/-- `createHash("sha256").update(text).digest("hex")`. -/
class NodeCrypto where
  sha256 : String → String

/-- `first.localeCompare(second)`. -/
class Collation where
  localeCompare : String → String → ℤ

end Foundation.JavaScript
