/-
Costs of a provider that must be whole micro-dollars.

* `decimalMicros` (`reliability/reconciliationStateMachine.ts`), `decimalUsdToMicros`
  (`reliability/openRouterReconciler.ts`), `exactProviderCostMicros`
  (`reliability/ordinaryReconciliationSettlement.ts`): the cost of a text or a number.
* `provider_cost_conversion`: **`usdToMicros` rounds up exactly, and whatever cost another of them accepts is
  exact and the one `usdToMicros` finds**.

A number is given by the text that `String` makes of it.
-/

import FuseControlPlane.Core.CostTexts

set_option linter.unusedSectionVars false

namespace FuseControlPlane.Reliability

open Foundation Foundation.DecimalText Core

/-! ### Conversions -/

/-- A cost: `string | number`. -/
inductive CostValue
  | text (content : String)
  | number (literal : NumberText)

namespace CostValue

/-- `String(value)`. -/
def characters : CostValue → List Char
  | .text content => content.toList
  | .number literal => literal.characters

/-- A value that is a text or a number. -/
def ofJson? : Json → Option CostValue
  | .string content => some (.text content)
  | .number literal => some (.number literal)
  | _ => none

end CostValue

/-- The parts of a text that matches `^\\d+(?:\\.\\d+)?$`. -/
def splitPlain (characters : List Char) : Option (List Char × List Char) :=
  let whole := characters.takeWhile Char.isDigit
  let (fraction, rest) := splitFraction (characters.dropWhile Char.isDigit)
  if whole = [] ∨ rest ≠ [] then none else some (whole, fraction)

/-- A digit beyond the micro-dollars is not zero. -/
def isTooPrecise (fraction : List Char) : Bool :=
  6 < fraction.length && (fraction.drop 6).any fun digit => '1' ≤ digit && digit ≤ '9'

/-- `BigInt(whole) * 1_000_000n + BigInt((fraction.slice(0, 6) + "000000").slice(0, 6))`. -/
def wholeMicros (whole fraction : List Char) : ℤ :=
  bigInt whole * 1000000 + bigInt ((fraction.take 6 ++ List.replicate 6 '0').take 6)

def decimalMicros (value : Json) : Option ℤ := do
  let cost ← CostValue.ofJson? value
  let (whole, fraction) ← splitPlain cost.characters
  if isTooPrecise fraction then none
  else
    let result := wholeMicros whole fraction
    if result ≤ 2 ^ 53 - 1 then some result else none

def decimalUsdToMicros (value : CostValue) : Except String ℤ :=
  match splitPlain value.characters with
  | none => .error "PROVIDER_COST_DECIMAL_INVALID"
  | some (whole, fraction) =>
    if isTooPrecise fraction then .error "PROVIDER_COST_PRECISION_INVALID"
    else
      let micros := wholeMicros whole fraction
      if 2 ^ 53 - 1 < micros then .error "PROVIDER_COST_RANGE_INVALID" else .ok micros

def exactProviderCostMicros (value : Json) : Except String String :=
  match CostValue.ofJson? value with
  | none => .error "RECOVERED_RESPONSE_COST_INVALID"
  | some cost =>
    match splitPlain cost.characters with
    | none => .error "RECOVERED_RESPONSE_COST_INVALID"
    | some (whole, fraction) =>
      if isTooPrecise fraction then .error "RECOVERED_RESPONSE_COST_INVALID"
      else .ok (toString (wholeMicros whole fraction))

/-! ### Whole micro-dollars -/

variable {whole fraction characters : List Char}

/-- What is not from one to nine is zero. -/
theorem zeros_of_precise (all : ∀ digit ∈ fraction, digit.isDigit = true)
    (precise : isTooPrecise fraction = false) : ∀ digit ∈ fraction.drop 6, digit = '0' := by
  intro digit member
  have long : 6 < fraction.length := by
    by_contra short
    rw [List.drop_of_length_le (not_lt.mp short)] at member
    cases member
  unfold isTooPrecise at precise
  rw [decide_eq_true long, Bool.true_and, List.any_eq_false] at precise
  have bounds := all digit (List.mem_of_mem_drop member)
  have low := precise digit member
  simp only [Char.isDigit, Bool.and_eq_true, decide_eq_true_eq, not_and] at bounds low
  have least : 48 ≤ digit.val.toNat := bounds.1
  have most : digit.val.toNat ≤ 57 := bounds.2
  have below : ¬ 49 ≤ digit.val.toNat := fun above => low above most
  exact Char.ext (UInt32.toNat_inj.mp (show digit.val.toNat = 48 by omega))

/-- Six digits of a fraction are the fraction if the others are zero. -/
theorem digitsValue_six (all : ∀ digit ∈ fraction, digit.isDigit = true)
    (precise : isTooPrecise fraction = false) :
    (digitsValue ((fraction.take 6 ++ List.replicate 6 '0').take 6) : ℚ) =
      fractionValue fraction * 10 ^ 6 := by
  have six : ((fraction.take 6 ++ List.replicate 6 '0').take 6).length = 6 := by simp
  have padded : fractionValue ((fraction.take 6 ++ List.replicate 6 '0').take 6) =
      fractionValue (fraction.take 6) := by
    rw [List.take_append, List.take_take, List.take_replicate, Nat.min_self]
    exact fractionValue_append_zeros fun digit member => List.eq_of_mem_replicate member
  have cut : fractionValue fraction = fractionValue (fraction.take 6) := by
    conv_lhs => rw [← List.take_append_drop 6 fraction]
    exact fractionValue_append_zeros (zeros_of_precise all precise)
  rw [cut, ← padded]
  unfold fractionValue
  rw [six]
  exact (div_mul_cancel₀ _ (by norm_num)).symm

/-- A cost that is not too precise is what its text denotes. -/
theorem exists_decimalText_plain (split_ : splitPlain characters = some (whole, fraction))
    (precise : isTooPrecise fraction = false) :
    ∃ literal : DecimalText, literal.toText = characters ∧ literal.exponentValue = 0 ∧
      (wholeMicros whole fraction : ℚ) = literal.value * 10 ^ 6 := by
  unfold splitPlain at split_
  dsimp only at split_
  split at split_
  · cases split_
  · next fine =>
    push Not at fine
    obtain ⟨some_, ended⟩ := fine
    obtain ⟨rfl, rfl⟩ := Prod.mk.inj (Option.some.inj split_)
    have fractions : splitFraction (characters.dropWhile Char.isDigit) =
        ((splitFraction (characters.dropWhile Char.isDigit)).1, []) := Prod.ext rfl ended
    obtain ⟨literal, text_, whole, fraction, exponent⟩ := exists_decimalText some_ fractions rfl
    refine ⟨literal, text_, exponent, ?_⟩
    rw [← fraction] at precise ⊢
    unfold wholeMicros DecimalText.value
    rw [exponent, zpow_zero, mul_one, add_mul, ← digitsValue_six literal.digits precise, bigInt_eq, bigInt_eq,
      whole]
    push_cast
    ring

/-! ### Agreement -/

/-- The cost is exactly that of the text, and the one `usdToMicros` finds. -/
def ExactCost (value : Json) (micros : ℤ) : Prop :=
  ∃ cost, CostValue.ofJson? value = some cost ∧
    usdToMicros (String.ofList cost.characters) = .ok micros ∧
    ∃ literal : DecimalText, literal.toText = cost.characters ∧ (micros : ℚ) = literal.value * 10 ^ 6

theorem exactCost_of_precise {value : Json} {cost : CostValue} (given : CostValue.ofJson? value = some cost)
    (split_ : splitPlain cost.characters = some (whole, fraction)) (precise : isTooPrecise fraction = false) :
    ExactCost value (wholeMicros whole fraction) := by
  obtain ⟨literal, text_, exponent, exact_⟩ := exists_decimalText_plain split_ precise
  refine ⟨cost, given, usdToMicros_eq_ok.mpr ⟨literal, ?_, ?_, ?_⟩, literal, text_, exact_⟩
  · rw [text_, String.toList_ofList]
  · rw [exponent]
    decide
  · rw [← exact_, Int.ceil_intCast]

/-- What every conversion of a value that accepts it agrees on. -/
structure CostsAgree (value : Json) : Prop where
  decimalMicros : ∀ micros, decimalMicros value = some micros → ExactCost value micros
  decimalUsdToMicros : ∀ cost micros, CostValue.ofJson? value = some cost →
    decimalUsdToMicros cost = .ok micros → ExactCost value micros
  exactProviderCostMicros : ∀ text, exactProviderCostMicros value = .ok text →
    ∃ micros : ℤ, text = toString micros ∧ ExactCost value micros
  agree : ∀ first second, ExactCost value first → ExactCost value second → first = second

theorem costsAgree (value : Json) : CostsAgree value := by
  refine ⟨fun micros found => ?_, fun cost micros given found => ?_, fun text found => ?_, ?_⟩
  · unfold Reliability.decimalMicros at found
    simp only [Option.bind_eq_bind, Option.bind_eq_some_iff] at found
    obtain ⟨cost, given, ⟨whole, fraction⟩, split_, rest⟩ := found
    split at rest
    · cases rest
    · next precise =>
      split at rest
      · cases rest
        exact exactCost_of_precise given split_ (Bool.eq_false_of_not_eq_true precise)
      · cases rest
  · unfold Reliability.decimalUsdToMicros at found
    split at found
    · cases found
    · next split_ =>
      split at found
      · cases found
      · next precise =>
        dsimp only at found
        split at found
        · cases found
        · cases found
          exact exactCost_of_precise given split_ (Bool.eq_false_of_not_eq_true precise)
  · unfold Reliability.exactProviderCostMicros at found
    split at found
    · cases found
    · next given =>
      split at found
      · cases found
      · next split_ =>
        split at found
        · cases found
        · next precise =>
          cases found
          exact ⟨_, rfl, exactCost_of_precise given split_ (Bool.eq_false_of_not_eq_true precise)⟩
  · rintro first second ⟨cost, given, here, _⟩ ⟨other, same, there, _⟩
    rw [given] at same
    cases same
    rw [here] at there
    exact Except.ok.inj there

/-- **Costs are converted exactly.** -/
theorem provider_cost_conversion :
    (∀ text micros, usdToMicros text = .ok micros ↔
      ∃ literal : DecimalText, literal.toText = text.toList ∧ literal.exponentValue.natAbs ≤ 100 ∧
        micros = ⌈literal.value * 10 ^ 6⌉) ∧
    ∀ value, CostsAgree value :=
  ⟨fun _ _ => usdToMicros_eq_ok, costsAgree⟩

end FuseControlPlane.Reliability
