/-
Prices and costs in micro-dollars (`core/pricing.ts`).

* `usdToMicros`: a cost text of a provider, rounded up.
* `calculateCostMicros`, `calculateMaximumCostMicros`: a token usage at a price, rounded up.

Texts are read as the regular expressions of the source read them: a run of digits, then an optional
fraction, then an optional exponent, and nothing else.
-/

import FuseControlPlane.Core.Service
import FuseControlPlane.Foundation.JavaScript

namespace FuseControlPlane.Core

open Foundation.JavaScript

structure TokenPrice where
  inputUsdPerMillion : String
  outputUsdPerMillion : String
  deriving DecidableEq

def scale : ℤ := 1000000

/-- `BigInt(digits)`. -/
def bigInt (digits : List Char) : ℤ :=
  digits.foldl (fun value digit => value * 10 + (digit.toNat - '0'.toNat : ℕ)) 0

/-- An optional `.` with digits after it, and the rest of the text. -/
def splitFraction : List Char → List Char × List Char
  | '.' :: rest =>
    let fraction := rest.takeWhile Char.isDigit
    if fraction = [] then ([], '.' :: rest) else (fraction, rest.dropWhile Char.isDigit)
  | rest => ([], rest)

/-- An optional exponent, and the rest of the text. -/
def splitExponent : List Char → ℤ × List Char
  | [] => (0, [])
  | mark :: rest =>
    let (sign, digits) : ℤ × List Char :=
      match rest with
      | '+' :: digits => (1, digits)
      | '-' :: digits => (-1, digits)
      | digits => (1, digits)
    let exponent := digits.takeWhile Char.isDigit
    if (mark = 'e' ∨ mark = 'E') ∧ exponent ≠ [] then
      (sign * bigInt exponent, digits.dropWhile Char.isDigit)
    else (0, mark :: rest)

def decimalToScaled (value : String) : Except String ℤ :=
  let whole := value.toList.takeWhile Char.isDigit
  let (fraction, rest) := splitFraction (value.toList.dropWhile Char.isDigit)
  if whole = [] ∨ rest ≠ [] ∨ 6 < fraction.length then .error "INVALID_PRICE"
  else .ok (bigInt whole * scale +
    bigInt (fraction ++ List.replicate (6 - fraction.length) '0'))

def ceilDiv (numerator denominator : ℤ) : ℤ := (numerator + denominator - 1).tdiv denominator

def usdToMicros (value : String) : Except String ℤ :=
  let whole := value.toList.takeWhile Char.isDigit
  let (fraction, afterFraction) := splitFraction (value.toList.dropWhile Char.isDigit)
  let (exponent, rest) := splitExponent afterFraction
  if whole = [] ∨ rest ≠ [] ∨ 100 < exponent.natAbs then .error "INVALID_PROVIDER_COST"
  else
    let digits := bigInt (whole ++ fraction)
    let power := 6 + exponent - fraction.length
    .ok (if 0 ≤ power then digits * 10 ^ power.toNat else ceilDiv digits (10 ^ (-power).toNat))

def tokenCostMicros (tokens : ℤ) (usdPerMillion : String) : Except String ℤ := do
  if isSafeInteger tokens ∧ 0 ≤ tokens then
    let scaled ← decimalToScaled usdPerMillion
    return ceilDiv (tokens * scaled) scale
  else .error "INVALID_TOKEN_COUNT"

def calculateCostMicros (usage : TokenUsage) (price : TokenPrice) : Except String ℤ := do
  let inputCost ← tokenCostMicros usage.inputTokens price.inputUsdPerMillion
  let outputCost ← tokenCostMicros usage.outputTokens price.outputUsdPerMillion
  return inputCost + outputCost

def calculateMaximumCostMicros (inputTokens maxOutputTokens : ℤ) (price : TokenPrice) :
    Except String ℤ := calculateCostMicros ⟨inputTokens, maxOutputTokens⟩ price

example : usdToMicros "1e-7" = .ok 1 := by decide +kernel

end FuseControlPlane.Core
