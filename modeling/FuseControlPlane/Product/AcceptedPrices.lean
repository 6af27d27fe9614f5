/-
What the accepted prices of a provider come to (`core/pricing.ts`, `persistence/providerConfigStore.ts`,
`product/customerOnboarding.ts`).

Both validators take up to twelve digits after the point, and the column keeps twelve; the arithmetic takes six.

* `storedPrice_eq`: a stored price is the accepted one without needless zeros.
* `decimalToScaled_storedPrice`: it is read exactly, if six digits after the point are enough for it.
* `exactPrices_iff`: **accepted prices are usable and exact exactly if six digits are enough for both**.
-/

import FuseControlPlane.Core.CostTexts
import FuseControlPlane.Product.CustomerOnboarding

set_option linter.unusedSectionVars false

namespace FuseControlPlane.Product

open Foundation Foundation.JavaScript Foundation.DecimalText Core Providers

/-! ### The parts of a price -/

def priceWhole (text : String) : List Char := text.toList.takeWhile Char.isDigit

def priceFraction (text : String) : List Char := (splitFraction (text.toList.dropWhile Char.isDigit)).1

/-- What a price denotes, in dollars for a million tokens. -/
def priceValue (text : String) : ℚ := digitsValue (priceWhole text) + fractionValue (priceFraction text)

/-- Digits after the point without the zeros at their end. -/
def trimZeros (fraction : List Char) : List Char := (fraction.reverse.dropWhile (· = '0')).reverse

/-- Digits before the point without the zeros at their front. -/
def stripZeros (whole : List Char) : List Char :=
  if whole.dropWhile (· = '0') = [] then ['0'] else whole.dropWhile (· = '0')

/-- The price that is read from a configuration with the accepted price. -/
def storedPrice (text : String) : String := normalizeDecimal (numericText text)

variable {text : String} {digits more : List Char}

theorem trimZeros_append (zeros : ∀ digit ∈ more, digit = '0') : trimZeros (digits ++ more) = trimZeros digits := by
  unfold trimZeros
  rw [List.reverse_append, List.dropWhile_append_of_pos fun digit member =>
    decide_eq_true (zeros digit (List.mem_reverse.mp member))]

theorem eq_zero_of_mem_takeWhile {digit : Char} (member : digit ∈ digits.takeWhile (· = '0')) : digit = '0' := by
  simpa using List.mem_takeWhile_imp member

/-- The trimmed digits with zeros are the digits. -/
theorem exists_trimmed (digits : List Char) : ∃ zeros, digits = trimZeros digits ++ zeros ∧
    ∀ digit ∈ zeros, digit = '0' := by
  refine ⟨(digits.reverse.takeWhile (· = '0')).reverse, ?_, fun digit member => ?_⟩
  · unfold trimZeros
    rw [← List.reverse_append, List.takeWhile_append_dropWhile, List.reverse_reverse]
  · exact eq_zero_of_mem_takeWhile (List.mem_reverse.mp member)

theorem fractionValue_trimZeros (digits : List Char) : fractionValue (trimZeros digits) = fractionValue digits := by
  obtain ⟨zeros, shape, all⟩ := exists_trimmed digits
  conv_rhs => rw [shape, fractionValue_append_zeros all]

theorem digitsValue_stripZeros (digits : List Char) : digitsValue (stripZeros digits) = digitsValue digits := by
  have shape := List.takeWhile_append_dropWhile (p := (· = '0')) (l := digits)
  have value : digitsValue digits = digitsValue (digits.dropWhile (· = '0')) := by
    conv_lhs => rw [← shape, digitsValue_append]
    rw [digitsValue_zeros fun digit member => eq_zero_of_mem_takeWhile member, Nat.zero_mul, Nat.zero_add]
  unfold stripZeros
  split
  · next empty =>
    rw [value, empty]
    rfl
  · exact value.symm

theorem areDigits_stripZeros (all : ∀ digit ∈ digits, digit.isDigit = true) : areDigits (stripZeros digits) = true := by
  unfold stripZeros
  split
  · rfl
  · next some_ =>
    exact areDigits_iff.mpr ⟨some_, fun digit member => all digit ((List.dropWhile_sublist _).mem member)⟩

theorem priceWhole_digits (text : String) : ∀ digit ∈ priceWhole text, digit.isDigit = true :=
  fun _ member => List.mem_takeWhile_imp member

theorem priceFraction_digits (text : String) : ∀ digit ∈ priceFraction text, digit.isDigit = true := by
  have split_ : splitFraction (text.toList.dropWhile Char.isDigit) = (priceFraction text, _) := rfl
  exact (splitFraction_eq split_).2

/-! ### Storing -/

/-- A stored price has the digits of the price without needless zeros. -/
theorem storedPrice_eq (text : String) : storedPrice text =
    String.ofList (stripZeros (priceWhole text) ++ pointed (trimZeros (priceFraction text))) := by
  have noPoint {digit : Char} (isDigit : digit.isDigit = true) : digit ≠ '.' := by
    rintro rfl
    cases isDigit
  have whole : ∀ digit ∈ stripZeros (priceWhole text), decide (digit ≠ '.') = true := fun digit member =>
    decide_eq_true (noPoint ((areDigits_iff.mp (areDigits_stripZeros (priceWhole_digits text))).2 digit member))
  let zeros := List.replicate (12 - (priceFraction text).length) '0'
  have allZero : ∀ digit ∈ zeros, digit = '0' := fun digit member => (List.mem_replicate.mp member).2
  have fraction : ∀ digit ∈ priceFraction text ++ zeros, decide (digit ≠ '.') = true := fun digit member => by
    rcases List.mem_append.mp member with here | zero
    · exact decide_eq_true (noPoint (priceFraction_digits text digit here))
    · rw [allZero digit zero]
      decide
  have numeric : numericText text =
      String.ofList (stripZeros (priceWhole text) ++ '.' :: (priceFraction text ++ zeros)) := rfl
  unfold storedPrice normalizeDecimal
  rw [numeric]
  dsimp only
  rw [String.toList_ofList, List.takeWhile_append_of_pos whole, List.dropWhile_append_of_pos whole,
    List.takeWhile_cons_of_neg (by decide), List.dropWhile_cons_of_neg (by decide), List.append_nil,
    List.drop_succ_cons, List.drop_zero, List.takeWhile_eq_self_iff.mpr fraction]
  change String.ofList (if trimZeros (priceFraction text ++ zeros) = [] then _ else
    _ ++ '.' :: trimZeros (priceFraction text ++ zeros)) = _
  rw [trimZeros_append allZero]
  unfold pointed
  by_cases empty : trimZeros (priceFraction text) = []
  · rw [if_pos empty, if_pos empty, List.append_nil]
  · rw [if_neg empty, if_neg empty]

/-- Digits filled up with zeros, as a multiple of the last place. -/
theorem digitsValue_padded (places : ℕ) (short : digits.length ≤ places) :
    (digitsValue (digits ++ List.replicate (places - digits.length) '0') : ℚ) = fractionValue digits * 10 ^ places := by
  have ten : (10 : ℚ) ^ places ≠ 0 := pow_ne_zero _ (by norm_num)
  have zeros : ∀ digit ∈ List.replicate (places - digits.length) '0', digit = '0' :=
    fun digit member => (List.mem_replicate.mp member).2
  rw [← fractionValue_append_zeros zeros, fractionValue, List.length_append, List.length_replicate,
    Nat.add_sub_of_le short, div_mul_cancel₀ _ ten]

/-- **A stored price is read exactly, if six digits after the point are enough.** -/
theorem decimalToScaled_storedPrice (text : String) : decimalToScaled (storedPrice text) =
    if 6 < (trimZeros (priceFraction text)).length then .error "INVALID_PRICE"
    else .ok (digitsValue (priceWhole text) * scale +
      digitsValue (trimZeros (priceFraction text) ++
        List.replicate (6 - (trimZeros (priceFraction text)).length) '0')) := by
  have valid := areDigits_stripZeros (priceWhole_digits text)
  have trimmedDigits : ∀ digit ∈ trimZeros (priceFraction text), digit.isDigit = true := fun digit member =>
    priceFraction_digits text digit (by
      obtain ⟨zeros, shape, _⟩ := exists_trimmed (priceFraction text)
      rw [shape]
      exact List.mem_append_left _ member)
  obtain ⟨wholeRead, fractionRead, _⟩ := read_decimalText ⟨_, _, none, valid, trimmedDigits⟩
  have characters : (storedPrice text).toList = DecimalText.toText ⟨_, _, none, valid, trimmedDigits⟩ := by
    rw [storedPrice_eq, String.toList_ofList]
    exact congrArg _ (List.append_nil _).symm
  unfold decimalToScaled
  dsimp only
  rw [characters, wholeRead, fractionRead]
  have some_ := (areDigits_iff.mp valid).1
  simp only [some_, false_or, Option.map_none, Option.getD_none, ne_eq, not_true_eq_false, bigInt_eq,
    digitsValue_stripZeros]

/-! ### Costs -/

/-- Digits after the point that are needed, at most six. -/
def isMicroPrice (text : String) : Prop := (trimZeros (priceFraction text)).length ≤ 6

/-- What a number of tokens costs at a price, in micro-dollars: a dollar for a million is a micro-dollar each. -/
def exactMicros (tokens : ℤ) (text : String) : ℤ := ⌈tokens * priceValue text⌉

theorem priceValue_nonneg (text : String) : 0 ≤ priceValue text := by
  unfold priceValue fractionValue
  positivity

theorem exactMicros_mono {tokens bound : ℤ} (below : tokens ≤ bound) (text : String) :
    exactMicros tokens text ≤ exactMicros bound text :=
  Int.ceil_le_ceil (mul_le_mul_of_nonneg_right (by exact_mod_cast below) (priceValue_nonneg text))

/-- `Number.isSafeInteger(tokens)`, and not negative. -/
def IsTokenCount (tokens : ℤ) : Prop := isSafeInteger tokens = true ∧ 0 ≤ tokens

/-- A price for which six digits are enough is read as its value in micro-dollars. -/
theorem exists_scaled (micro : isMicroPrice text) : ∃ scaled : ℤ,
    decimalToScaled (storedPrice text) = .ok scaled ∧ 0 ≤ scaled ∧ (scaled : ℚ) = priceValue text * 10 ^ 6 := by
  have read := decimalToScaled_storedPrice text
  rw [if_neg (not_lt.mpr micro)] at read
  refine ⟨_, read, by unfold scale; positivity, ?_⟩
  push_cast
  rw [digitsValue_padded 6 micro, fractionValue_trimZeros, priceValue, scale]
  push_cast
  ring

/-- **Tokens cost the least number of micro-dollars that is not below their price.** -/
theorem tokenCostMicros_storedPrice {tokens : ℤ} (count : IsTokenCount tokens) (micro : isMicroPrice text) :
    tokenCostMicros tokens (storedPrice text) = .ok (exactMicros tokens text) := by
  obtain ⟨scaled, read, nonnegative, exact⟩ := exists_scaled micro
  have rounded : ceilDiv (tokens * scaled) scale = exactMicros tokens text := by
    have quotient : ((tokens * scaled : ℤ) : ℚ) / (scale : ℤ) = tokens * priceValue text := by
      rw [Int.cast_mul, exact, scale]
      push_cast
      ring
    rw [ceilDiv_eq (mul_nonneg count.2 nonnegative) (by decide), quotient]
    rfl
  unfold tokenCostMicros
  rw [if_pos (show isSafeInteger tokens = true ∧ 0 ≤ tokens from count), read, ← rounded]
  rfl

theorem tokenCostMicros_of_not_micro {tokens : ℤ} (count : IsTokenCount tokens) (long : ¬ isMicroPrice text) :
    tokenCostMicros tokens (storedPrice text) = .error "INVALID_PRICE" := by
  have scaled := decimalToScaled_storedPrice text
  rw [if_pos (not_le.mp long)] at scaled
  unfold tokenCostMicros
  rw [if_pos (show isSafeInteger tokens = true ∧ 0 ≤ tokens from count), scaled]
  rfl

/-! ### Accepted prices -/

/-- Prices that the store or the onboarding takes. -/
structure AcceptedPrices where
  inputUsdPerMillion : String
  outputUsdPerMillion : String
  accepted :
    (∃ input, validateInput input = .ok () ∧ input.inputUsdPerMillion = inputUsdPerMillion ∧
      input.outputUsdPerMillion = outputUsdPerMillion) ∨
    (∃ input : CreateWorkspaceInput, input.validate = .ok () ∧ input.inputUsdPerMillion = inputUsdPerMillion ∧
      input.outputUsdPerMillion = outputUsdPerMillion)

namespace AcceptedPrices

/-- The prices as they are read from the configuration. -/
def stored (prices : AcceptedPrices) : TokenPrice :=
  ⟨storedPrice prices.inputUsdPerMillion, storedPrice prices.outputUsdPerMillion⟩

end AcceptedPrices

/-- The prices are usable and exact. -/
structure ExactPrices (prices : AcceptedPrices) : Prop where
  maximum : ∀ inputTokens maxOutputTokens, IsTokenCount inputTokens → IsTokenCount maxOutputTokens →
    calculateMaximumCostMicros inputTokens maxOutputTokens prices.stored =
      .ok (exactMicros inputTokens prices.inputUsdPerMillion + exactMicros maxOutputTokens prices.outputUsdPerMillion)
  cost : ∀ usage : TokenUsage, IsTokenCount usage.inputTokens → IsTokenCount usage.outputTokens →
    calculateCostMicros usage prices.stored =
      .ok (exactMicros usage.inputTokens prices.inputUsdPerMillion +
        exactMicros usage.outputTokens prices.outputUsdPerMillion)
  terms : ∀ tokens, IsTokenCount tokens →
    tokenCostMicros tokens prices.stored.inputUsdPerMillion = .ok (exactMicros tokens prices.inputUsdPerMillion) ∧
      tokenCostMicros tokens prices.stored.outputUsdPerMillion = .ok (exactMicros tokens prices.outputUsdPerMillion)
  /-- Usage within the estimate does not cost more than the estimate. -/
  bounded : ∀ (usage : TokenUsage) (inputTokens maxOutputTokens actual estimate : ℤ),
    usage.inputTokens ≤ inputTokens → usage.outputTokens ≤ maxOutputTokens →
    calculateCostMicros usage prices.stored = .ok actual →
    calculateMaximumCostMicros inputTokens maxOutputTokens prices.stored = .ok estimate → actual ≤ estimate

theorem isTokenCount_of_ok {tokens cost : ℤ} (done : tokenCostMicros tokens text = .ok cost) :
    IsTokenCount tokens := by
  unfold tokenCostMicros at done
  split at done
  · next count => exact count
  · cases done

theorem isTokenCount_of_cost {usage : TokenUsage} {price : TokenPrice} {cost : ℤ}
    (done : calculateCostMicros usage price = .ok cost) :
    IsTokenCount usage.inputTokens ∧ IsTokenCount usage.outputTokens := by
  unfold calculateCostMicros at done
  obtain ⟨inputCost, first, rest⟩ := Domain.bind_eq_ok.mp done
  obtain ⟨outputCost, second, _⟩ := Domain.bind_eq_ok.mp rest
  exact ⟨isTokenCount_of_ok first, isTokenCount_of_ok second⟩

theorem calculateCostMicros_stored {prices : AcceptedPrices} (input : isMicroPrice prices.inputUsdPerMillion)
    (output : isMicroPrice prices.outputUsdPerMillion) {usage : TokenUsage}
    (inputCount : IsTokenCount usage.inputTokens) (outputCount : IsTokenCount usage.outputTokens) :
    calculateCostMicros usage prices.stored =
      .ok (exactMicros usage.inputTokens prices.inputUsdPerMillion +
        exactMicros usage.outputTokens prices.outputUsdPerMillion) := by
  unfold calculateCostMicros AcceptedPrices.stored
  rw [tokenCostMicros_storedPrice inputCount input, tokenCostMicros_storedPrice outputCount output]
  rfl

/-- **Accepted prices are usable and exact exactly if six digits after the point are enough for both.** -/
theorem exactPrices_iff (prices : AcceptedPrices) :
    ExactPrices prices ↔ isMicroPrice prices.inputUsdPerMillion ∧ isMicroPrice prices.outputUsdPerMillion := by
  constructor
  · intro exact
    have none : IsTokenCount 0 := ⟨by decide, le_rfl⟩
    obtain ⟨input, output⟩ := exact.terms 0 none
    constructor
    · by_contra long
      have failed := tokenCostMicros_of_not_micro none long
      cases failed.symm.trans input
    · by_contra long
      have failed := tokenCostMicros_of_not_micro none long
      cases failed.symm.trans output
  · rintro ⟨input, output⟩
    have cost (usage : TokenUsage) := @calculateCostMicros_stored _ input output usage
    refine ⟨fun inputTokens maxOutputTokens => cost ⟨inputTokens, maxOutputTokens⟩, cost, fun tokens count =>
      ⟨tokenCostMicros_storedPrice count input, tokenCostMicros_storedPrice count output⟩, ?_⟩
    intro usage inputTokens maxOutputTokens actual estimate inputBound outputBound spent estimated
    obtain ⟨usedInput, usedOutput⟩ := isTokenCount_of_cost spent
    obtain ⟨boundInput, boundOutput⟩ := isTokenCount_of_cost estimated
    have actualIs := spent.symm.trans (cost usage usedInput usedOutput)
    have estimateIs := estimated.symm.trans (cost ⟨inputTokens, maxOutputTokens⟩ boundInput boundOutput)
    rw [Except.ok.inj actualIs, Except.ok.inj estimateIs]
    exact add_le_add (exactMicros_mono inputBound _) (exactMicros_mono outputBound _)

/-- A price with seven digits after the point, accepted by the store. -/
def tinyPrices : AcceptedPrices where
  inputUsdPerMillion := "0.0000001"
  outputUsdPerMillion := "15.00"
  accepted := .inl ⟨⟨"primary", "organization", .openrouter, "model", "key", "0.0000001", "15.00", "actor", "cause",
    some 0, none⟩, by decide +kernel, rfl, rfl⟩

/-- An accepted price is not usable. -/
theorem tinyPrices_not_exact : ¬ ExactPrices tinyPrices := by
  intro exact
  have cost := exact.maximum 1 1 ⟨by decide, by decide⟩ ⟨by decide, by decide⟩
  have failed : calculateMaximumCostMicros 1 1 tinyPrices.stored = .error "INVALID_PRICE" := by decide +kernel
  cases failed.symm.trans cost

end FuseControlPlane.Product
