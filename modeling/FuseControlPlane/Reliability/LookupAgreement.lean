/-
The live reconciler and the kernel, on the same replies.

The kernel asks for more: a text as the time of creation, native counts, and a known request id that is not
empty. The reconciler compares messages with `localeCompare`, which takes some different names for the same.

* `kindOf`, `contentKind`: what replies show, given what is asked of them.
* `disposition_of_contentInput`, `kind_of_replies`, `expected_of_plan`: the reconciler and the kernel find it,
  each by its own standards.
* `IsIdentified`, `IsBilled`, `IsReadAlike`: what replies say, and when that is the same to both.
* `dispositions_agree_iff`: **reconciler and kernel agree exactly on such replies**.
-/

import FuseControlPlane.Evidence.CanonicalTexts
import FuseControlPlane.Reliability.JustifiedPlans
import FuseControlPlane.Reliability.LiveReconciler

set_option linter.unusedSectionVars false

namespace FuseControlPlane.Reliability.Reconciler

open Foundation Foundation.JavaScript Foundation.Json FuseControlPlane.Domain
open FuseControlPlane.Evidence (byLocale)
open Kernel (DateParse has isArray bool? text? nonEmptyText? nullableString nullableCount count? router?
  providerResponses? pinnedModel requiredMetadata costOf countsDiffer orPending)

variable {input : ReconciliationLookupInput} {metadataEvidence contentEvidence : Evidence}
  {state : Kernel.ReconciliationStateInput} {metadata : Json}

/-! ### What replies show -/

/-- The disposition of replies that show something, at the last offset or an earlier one. -/
def dispositionOf (finalOffset : Bool) : EvidenceKind → ReconciliationDisposition
  | .canceled => .reconciledNotBilled
  | .positiveResponse => .reconciledBilledWithResponse
  | .positiveNoResponse => if finalOffset then .reconciledBilledNoResponse else .reconciliationPending
  | .pending => .reconciliationPending
  | .credentialDrift => .globalFailure

/-- What the content shows of an attempt that is billed. -/
def contentKind (missing : Bool) (answer : Option (Option String)) : EvidenceKind :=
  if missing then .positiveNoResponse
  else match answer with
    | none => .pending
    | some none => .positiveNoResponse
    | some (some _) => .positiveResponse

/-- What replies show: whose they are, whether the attempt was canceled, its cost, whether the metadata are
those of a response, and the content. -/
def kindOf (identified cancelled : Bool) (cost : Option ℤ) (complete : Bool) (content : EvidenceKind) :
    EvidenceKind :=
  if identified then
    match cost with
    | none => .pending
    | some cost =>
      if cancelled then if cost = 0 then .canceled else .pending
      else if 0 < cost && complete then content else .pending
  else .pending

@[simp] theorem kindOf_false {cancelled complete : Bool} {cost : Option ℤ} {content : EvidenceKind} :
    kindOf false cancelled cost complete content = .pending := rfl

/-- Two standards for an attempt that is billed lead to one disposition exactly where every content that one of
them leads to a disposition meets both. -/
theorem contents_eq_iff {stated metered missing finalOffset : Bool} {answer : Option (Json × Option String)}
    {repeated original : Json → Bool} (narrower : ∀ found ∈ answer, repeated found.1 = true → original found.1 = true)
    (exclusive : missing = true → answer = none) :
    dispositionOf finalOffset (contentKind missing ((answer.filter fun answer => repeated answer.1).map (·.2))) =
      dispositionOf finalOffset (if stated && metered then
        contentKind missing ((answer.filter fun answer => original answer.1).map (·.2)) else .pending) ↔
    (finalOffset = true → missing = true → stated = true ∧ metered = true) ∧
      ∀ messages completion, answer = some (messages, completion) → (completion = none → finalOffset = true) →
        original messages = true → (repeated messages = true ↔ stated = true ∧ metered = true) := by
  cases missing with
  | true =>
    rw [exclusive rfl]
    cases stated <;> cases metered <;> cases finalOffset <;> simp [contentKind, dispositionOf]
  | false =>
    cases answer with
    | none => cases stated <;> cases metered <;> simp [contentKind, dispositionOf]
    | some answer =>
      obtain ⟨messages, completion⟩ := answer
      rw [Option.filter_some, Option.filter_some]
      cases same : original messages with
      | false =>
        have different : repeated messages = false := by
          by_contra other
          rw [narrower _ rfl (Bool.of_not_eq_false other)] at same
          cases same
        cases stated <;> cases metered <;> simp [contentKind, dispositionOf, same, different]
      | true =>
        cases kept : repeated messages <;> cases stated <;> cases metered <;> cases finalOffset <;>
          cases completion <;> simp [contentKind, dispositionOf, same, kept]

/-- Two standards lead to one disposition exactly where every outcome that one of them leads to meets both. -/
theorem dispositions_eq_iff {identified stated canceled complete metered missing finalOffset : Bool} {cost : Option ℤ}
    {answer : Option (Json × Option String)} {repeated original : Json → Bool}
    (narrower : ∀ found ∈ answer, repeated found.1 = true → original found.1 = true)
    (exclusive : missing = true → answer = none) :
    dispositionOf finalOffset (kindOf identified canceled cost complete
      (contentKind missing ((answer.filter fun answer => repeated answer.1).map (·.2)))) =
    dispositionOf finalOffset (kindOf (identified && stated) canceled cost (complete && metered)
      (contentKind missing ((answer.filter fun answer => original answer.1).map (·.2)))) ↔
    (identified = true →
      (canceled = true → cost = some 0 → stated = true) ∧
      (canceled = false → (∃ positive, cost = some positive ∧ 0 < positive) → complete = true →
        (finalOffset = true → missing = true → stated = true ∧ metered = true) ∧
        ∀ messages completion, answer = some (messages, completion) → (completion = none → finalOffset = true) →
          original messages = true → (repeated messages = true ↔ stated = true ∧ metered = true))) := by
  have contents := @contents_eq_iff stated metered missing finalOffset answer repeated original narrower exclusive
  cases identified with
  | false => exact iff_of_true rfl nofun
  | true =>
    rw [Bool.true_and]
    cases cost with
    | none =>
      refine iff_of_true ?_ fun _ => ⟨fun _ found => absurd found (Option.some_ne_none _).symm,
        fun _ ⟨_, found, _⟩ => absurd found (Option.some_ne_none _).symm⟩
      cases stated <;> rfl
    | some cost =>
      cases canceled with
      | true => by_cases free : cost = 0 <;> cases stated <;> simp [kindOf, dispositionOf, free]
      | false =>
        by_cases positive : 0 < cost
        · cases complete with
          | false => cases stated <;> simp [kindOf, dispositionOf]
          | true =>
            have billed : kindOf stated false (some cost) (true && metered)
                (contentKind missing ((answer.filter fun answer => original answer.1).map (·.2))) =
                if stated && metered then
                  contentKind missing ((answer.filter fun answer => original answer.1).map (·.2)) else .pending := by
              cases stated <;> cases metered <;> simp [kindOf, positive]
            have whole : kindOf true false (some cost) true
                (contentKind missing ((answer.filter fun answer => repeated answer.1).map (·.2))) =
                contentKind missing ((answer.filter fun answer => repeated answer.1).map (·.2)) := by
              simp [kindOf, positive]
            rw [billed, whole, contents]
            simp [positive]
        · cases stated <;> simp [kindOf, dispositionOf, positive]

/-! ### Fields -/

@[simp] theorem field_record (value : Option Json) (name : String) :
    (record value).field name = value.bind (field name) := by
  cases value with
  | none => rfl
  | some value => cases value <;> rfl

theorem decimalMicros_eq (value : Json) : decimalMicros value = micros? (some value) := by
  unfold decimalMicros micros? decimalUsdToMicros
  rw [Option.bind_some]
  cases CostValue.ofJson? value with
  | none => rfl
  | some cost =>
    dsimp only [Option.bind_eq_bind, Option.bind_some]
    cases splitPlain cost.characters with
    | none => rfl
    | some parts =>
      obtain ⟨whole, fraction⟩ := parts
      dsimp only [Option.bind_some]
      by_cases precise : isTooPrecise fraction = true
      · rw [if_pos precise, if_pos precise]
        rfl
      · rw [if_neg precise, if_neg precise]
        by_cases small : wholeMicros whole fraction ≤ 2 ^ 53 - 1
        · rw [if_pos small, if_neg (not_lt.mpr small)]
          rfl
        · rw [if_neg small, if_pos (not_le.mp small)]
          rfl

theorem costOf_eq (metadata : Json) : costOf metadata =
    (micros? (metadata.field "total_cost")).bind fun total =>
      (micros? (metadata.field "usage")).bind fun usage => if total = usage then some total else none := by
  unfold costOf
  have micros (value : Option Json) : (value.bind decimalMicros) = micros? value := by
    cases value with
    | none => rfl
    | some value => exact decimalMicros_eq value
  rw [← micros, ← micros]
  cases metadata.field "total_cost" with
  | none => rfl
  | some total =>
    cases found : decimalMicros total with
    | none => simp [found]
    | some cost => cases metadata.field "usage" <;> simp [found]

/-- Both costs are one that is not below zero exactly if it is the cost. -/
theorem costs_eq_iff {cost : ℤ} (positive : 0 ≤ cost) :
    ((costs metadata).1 = cost ∧ (costs metadata).2 = cost) ↔ costOf metadata = some cost := by
  rw [costOf_eq]
  unfold costs
  cases micros? (metadata.field "total_cost") with
  | none => simp; omega
  | some total =>
    cases micros? (metadata.field "usage") with
    | none => simp; omega
    | some usage =>
      simp only [Option.getD_some, Option.bind_some]
      split
      · next same =>
        rw [Option.some.injEq, same]
        exact and_self_iff
      · next different =>
        refine iff_of_false (fun ⟨one, other⟩ => different (one.trans other.symm)) nofun

/-- Counts that are given twice: an integer that is no count is refused elsewhere. -/
theorem integersAgree_eq {first second : Option Json} (one : nullableCount first = true)
    (other : nullableCount second = true) : integersAgree first second = !countsDiffer first second := by
  have counts {value : Option Json} (fine : nullableCount value = true) :
      value.bind integer? = count? value := by
    unfold nullableCount at fine
    split at fine
    · rfl
    · unfold count? at fine ⊢
      cases found : value.bind integer? with
      | none => rfl
      | some integer =>
        rw [found] at fine
        rw [Option.filter_some] at fine ⊢
        split at fine
        · next within => rw [if_pos within]
        · cases fine
  unfold integersAgree countsDiffer
  rw [counts one, counts other]
  cases count? first <;> cases count? second <;> simp

/-! ### The reconciler -/

/-- The messages that a content repeats, and its completion. -/
def answer? (content : Evidence) : Option (Json × Option String) := do
  let data ← content.parsed.field "data"
  let messages ← (← data.field "input").field "messages"
  let output ← data.field "output"
  let completion ← textOrNull? (output.field "completion")
  if content.status = 200 && isArray messages && (output.field "reasoning").any Kernel.isNull then
    some (messages, completion)
  else none

/-- The metadata of a reply. -/
def metadataOf (reply : Evidence) : Json := record ((record reply.parsed).field "data")

/-- The attempt was canceled. -/
def isCanceled (metadata : Json) : Bool := bool? (metadata.field "cancelled") = some true

/-- The attempt ended by itself, and its tokens are counted. -/
def isComplete (metadata : Json) : Bool :=
  text? (metadata.field "finish_reason") = some "stop" && (count? (metadata.field "tokens_prompt")).isSome &&
    (count? (metadata.field "tokens_completion")).isSome

theorem textOrNull?_eq_null {value : Option Json} :
    textOrNull? value = some none ↔ value.any Kernel.isNull = true := by
  cases value with
  | none => simp [textOrNull?]
  | some value => cases value <;> simp [textOrNull?, Kernel.isNull]

section Replies

variable [DateParse] [NumberFormat] [Collation]

/-- The completion in a content that repeats the messages, by a comparison of messages. -/
def completionBy (same : Json → Bool) (content : Evidence) : Option (Option String) :=
  ((answer? content).filter fun answer => same answer.1).map (·.2)

/-- The messages, as the reconciler compares them. -/
def isRepeated (input : ReconciliationLookupInput) (messages : Json) : Bool :=
  Evidence.canonicalJson messages = Evidence.canonicalJson (.array (input.messages.getD []))

theorem accepted_iff {completion : Option String} :
    completionBy (isRepeated input) contentEvidence = some completion ↔
      contentEvidence.status = 200 ∧ inputMatches input (record ((record contentEvidence.parsed).field "data")) = true ∧
        textOrNull? ((record ((record ((record contentEvidence.parsed).field "data")).field "output")).field
          "reasoning") = some none ∧
        textOrNull? ((record ((record ((record contentEvidence.parsed).field "data")).field "output")).field
          "completion") = some completion := by
  unfold completionBy answer? inputMatches isRepeated
  simp only [field_record, Option.bind_some, Option.bind_eq_bind]
  cases contentEvidence.parsed.field "data" with
  | none => simp
  | some data =>
    simp only [Option.bind_some]
    cases data.field "input" with
    | none => simp
    | some sent =>
      simp only [Option.bind_some]
      cases sent.field "messages" with
      | none => simp
      | some messages =>
        cases data.field "output" with
        | none => simp [textOrNull?]
        | some output =>
          simp only [Option.bind_some, textOrNull?_eq_null, Option.any_some]
          cases textOrNull? (output.field "completion") with
          | none => simp
          | some found =>
            by_cases fine : contentEvidence.status = 200 ∧ isArray messages = true ∧
                (output.field "reasoning").any Kernel.isNull = true
            · simp [fine, and_comm]
            · simp [and_assoc, fine]
              grind

/-- The disposition that a content leads to once the metadata are positive. -/
def contentDisposition (content : ReconciliationContentInput) : ReconciliationDisposition :=
  let acceptedContent := content.contentStatus = 200 && content.inputMatches && content.reasoning = none
  if acceptedContent && content.completion.any (·.isSome) then .reconciledBilledWithResponse
  else if content.finalOffset && (acceptedContent && content.completion = some none ||
      content.contentStatus = 404 && content.exact404Error) then .reconciledBilledNoResponse
  else .reconciliationPending

/-- The classification of fields that are bound to the generation. -/
theorem classify_of_bound {fields : ReconciliationContentInput} (accepted : isRefused fields.metadataStatus = false)
    (alsoAccepted : isRefused fields.contentStatus = false) (bound : fields.generationIdBound = true)
    (model : fields.model = pinnedModel) (plain : (fields.networkFailure || fields.timeout || fields.malformed ||
      fields.nonJson || fields.oversized) = false) : classifyReconciliationContent fields =
      if fields.cancelled then
        if fields.totalCostMicros = 0 ∧ fields.usageCostMicros = 0 then .reconciledNotBilled
        else .reconciliationPending
      else if (0 < fields.totalCostMicros ∧ fields.totalCostMicros = fields.usageCostMicros) ∧
          (fields.finishReason = some "stop" && fields.tokenCountsValid) = true then contentDisposition fields
      else .reconciliationPending := by
  unfold classifyReconciliationContent
  rw [accepted, alsoAccepted, bound, model, plain]
  cases fields.cancelled with
  | true => simp
  | false =>
    by_cases positive : (0 < fields.totalCostMicros ∧ fields.totalCostMicros = fields.usageCostMicros) ∧
        (fields.finishReason = some "stop" && fields.tokenCountsValid) = true
    · rw [if_neg Bool.false_ne_true, if_pos positive]
      rw [Bool.and_eq_true, decide_eq_true_eq] at positive
      obtain ⟨⟨above, same⟩, stop, counted⟩ := positive
      simp [above, ← same, stop, counted, contentDisposition]
    · rw [if_neg Bool.false_ne_true, if_neg positive]
      rw [Bool.and_eq_true, decide_eq_true_eq] at positive
      have other : (0 < fields.totalCostMicros && fields.totalCostMicros = fields.usageCostMicros &&
          fields.finishReason = some "stop" && fields.tokenCountsValid) = false := by
        rw [Bool.eq_false_iff]
        simp only [ne_eq, Bool.and_eq_true, decide_eq_true_eq]
        exact fun ⟨⟨⟨above, same⟩, stop⟩, counted⟩ => positive ⟨⟨above, same⟩, stop, counted⟩
      simp [other]

/-- The content of the input to a classification. -/
theorem disposition_of_content {createdAt : Option ℤ} {content : ReconciliationContentInput}
    (read : contentInput input metadataEvidence contentEvidence createdAt = content) :
    contentDisposition content = dispositionOf input.finalOffset
      (contentKind (exact404Error contentEvidence) (completionBy (isRepeated input) contentEvidence)) := by
  unfold contentDisposition
  subst read
  have answered (completion : Option String) : completionBy (isRepeated input) contentEvidence = some completion ↔
      (contentInput input metadataEvidence contentEvidence createdAt).contentStatus = 200 ∧
        (contentInput input metadataEvidence contentEvidence createdAt).inputMatches = true ∧
        (contentInput input metadataEvidence contentEvidence createdAt).reasoning = none ∧
        (contentInput input metadataEvidence contentEvidence createdAt).completion = some completion := by
    rw [accepted_iff]
    refine and_congr_right fun _ => and_congr_right fun _ => and_congr_left fun _ => ?_
    unfold contentInput
    dsimp only
    cases textOrNull? _ with
    | none => simp
    | some reasoning => simp
  have missing : (contentInput input metadataEvidence contentEvidence createdAt).exact404Error =
      exact404Error contentEvidence := rfl
  have offset : (contentInput input metadataEvidence contentEvidence createdAt).finalOffset = input.finalOffset := rfl
  have status : exact404Error contentEvidence = true →
      (contentInput input metadataEvidence contentEvidence createdAt).contentStatus = 404 := fun found => by
    unfold exact404Error at found
    simp only [Bool.and_eq_true, decide_eq_true_eq] at found
    exact found.1.1
  generalize contentInput input metadataEvidence contentEvidence createdAt = content at *
  rw [missing, offset]
  unfold contentKind
  cases exact : exact404Error contentEvidence with
  | true =>
    have other : content.contentStatus = 404 := status exact
    simp [other, dispositionOf]
  | false =>
    cases answer : completionBy (isRepeated input) contentEvidence with
    | none =>
      have nothing : ∀ completion, ¬ (content.contentStatus = 200 ∧ content.inputMatches = true ∧
          content.reasoning = none ∧ content.completion = some completion) := fun completion all => by
        rw [(answered completion).mpr all] at answer
        cases answer
      cases complete : content.completion with
      | none => simp [dispositionOf]
      | some completion =>
        have refused : (content.contentStatus = 200 && content.inputMatches && content.reasoning = none) = false := by
          rw [Bool.eq_false_iff]
          simp only [ne_eq, Bool.and_eq_true, decide_eq_true_eq]
          exact fun ⟨⟨ok, repeated⟩, silent⟩ => nothing completion ⟨ok, repeated, silent, complete⟩
        rw [refused]
        simp [dispositionOf]
    | some completion =>
      obtain ⟨ok, repeated, silent, complete⟩ := (answered completion).mp answer
      cases completion <;> simp [ok, repeated, silent, complete, dispositionOf]

/-- The disposition of replies that are not refused is that of what they show. -/
theorem disposition_of_contentInput (createdAt : Option ℤ) (accepted : isRefused metadataEvidence.status = false)
    (alsoAccepted : isRefused contentEvidence.status = false) :
    classifyReconciliationContent (contentInput input metadataEvidence contentEvidence createdAt) =
      dispositionOf input.finalOffset (kindOf
        (metadataValid input metadataEvidence.status (metadataOf metadataEvidence) createdAt &&
          input.model = pinnedModel) (isCanceled (metadataOf metadataEvidence))
        (costOf (metadataOf metadataEvidence)) (isComplete (metadataOf metadataEvidence))
        (contentKind (exact404Error contentEvidence) (completionBy (isRepeated input) contentEvidence))) := by
  have content := disposition_of_content (@rfl _ (contentInput input metadataEvidence contentEvidence createdAt))
  cases valid : metadataValid input metadataEvidence.status (metadataOf metadataEvidence) createdAt with
  | false =>
    have unbound : (contentInput input metadataEvidence contentEvidence createdAt).generationIdBound = false := valid
    unfold classifyReconciliationContent
    rw [show isRefused (contentInput input metadataEvidence contentEvidence createdAt).metadataStatus = false from
      accepted, show isRefused (contentInput input metadataEvidence contentEvidence createdAt).contentStatus = false
      from alsoAccepted, unbound]
    simp [kindOf, dispositionOf]
  | true =>
    have bound : (contentInput input metadataEvidence contentEvidence createdAt).generationIdBound = true := valid
    have model : (contentInput input metadataEvidence contentEvidence createdAt).model = input.model := by
      have named : text? ((metadataOf metadataEvidence).field "model") = some input.model := by
        unfold metadataValid at valid
        simp only [Bool.and_eq_true, decide_eq_true_eq] at valid
        tauto
      have chosen : (contentInput input metadataEvidence contentEvidence createdAt).model =
          if metadataValid input metadataEvidence.status (metadataOf metadataEvidence) createdAt then
            (text? ((metadataOf metadataEvidence).field "model")).getD "" else "" := rfl
      rw [chosen, valid, named]
      rfl
    have cancelled : (contentInput input metadataEvidence contentEvidence createdAt).cancelled =
        isCanceled (metadataOf metadataEvidence) := rfl
    have complete : ((contentInput input metadataEvidence contentEvidence createdAt).finishReason = some "stop" &&
        (contentInput input metadataEvidence contentEvidence createdAt).tokenCountsValid) =
          isComplete (metadataOf metadataEvidence) := by
      have counted : (contentInput input metadataEvidence contentEvidence createdAt).tokenCountsValid =
          (metadataValid input metadataEvidence.status (metadataOf metadataEvidence) createdAt &&
            (count? ((metadataOf metadataEvidence).field "tokens_prompt")).isSome &&
            (count? ((metadataOf metadataEvidence).field "tokens_completion")).isSome) := rfl
      rw [counted, valid, Bool.true_and, ← Bool.and_assoc]
      rfl
    have sameCosts {cost : ℤ} (positive : 0 ≤ cost) :
        ((contentInput input metadataEvidence contentEvidence createdAt).totalCostMicros = cost ∧
          (contentInput input metadataEvidence contentEvidence createdAt).usageCostMicros = cost) ↔
            costOf (metadataOf metadataEvidence) = some cost := costs_eq_iff positive
    by_cases pinned : input.model = pinnedModel
    · rw [classify_of_bound accepted alsoAccepted bound (model.trans pinned) rfl, cancelled, complete, content]
      generalize contentInput input metadataEvidence contentEvidence createdAt = fields at sameCosts ⊢
      rw [Bool.true_and, decide_eq_true pinned]
      unfold kindOf
      rw [if_pos rfl]
      cases isCanceled (metadataOf metadataEvidence) with
      | true =>
        rw [if_pos rfl, if_congr (sameCosts (le_refl 0)) rfl rfl]
        cases costOf (metadataOf metadataEvidence) with
        | none => rfl
        | some cost => by_cases free : cost = 0 <;> simp [free, dispositionOf]
      | false =>
        rw [if_neg Bool.false_ne_true]
        by_cases positive : 0 < fields.totalCostMicros ∧ fields.totalCostMicros = fields.usageCostMicros
        · rw [(sameCosts positive.1.le).mp ⟨rfl, positive.2.symm⟩]
          by_cases whole : isComplete (metadataOf metadataEvidence) = true
          · simp [positive.1, ← positive.2, whole]
          · simp [whole, dispositionOf]
        · rw [if_neg fun both => positive both.1]
          cases cost : costOf (metadataOf metadataEvidence) with
          | none => rfl
          | some cost' =>
            have below : ¬ 0 < cost' := fun above => by
              obtain ⟨total, usage⟩ := (sameCosts above.le).mpr cost
              exact positive ⟨total.symm ▸ above, total.trans usage.symm⟩
            simp [below, dispositionOf]
    · have other : (contentInput input metadataEvidence contentEvidence createdAt).model ≠ pinnedModel :=
        fun same => pinned (model.symm.trans same)
      unfold classifyReconciliationContent
      rw [show isRefused (contentInput input metadataEvidence contentEvidence createdAt).metadataStatus = false from
        accepted, show isRefused (contentInput input metadataEvidence contentEvidence createdAt).contentStatus = false
        from alsoAccepted]
      simp [other, pinned, kindOf, dispositionOf]

end Replies

/-! ### The kernel -/

/-- The kind of what evidence says, or of evidence that is not accepted. -/
def kindOfResult : Except String Kernel.EvidenceResult → EvidenceKind
  | .ok result => result.kind
  | .error _ => .pending

@[simp] theorem kindOfResult_ok (result : Kernel.EvidenceResult) : kindOfResult (.ok result) = result.kind := rfl

@[simp] theorem kindOfResult_pure (result : Kernel.EvidenceResult) : kindOfResult (pure result) = result.kind := rfl

@[simp] theorem kindOfResult_require {condition : Bool} {reason : String}
    {next : Unit → Except String Kernel.EvidenceResult} :
    kindOfResult (require condition reason >>= next) = if condition then kindOfResult (next ()) else .pending := by
  cases condition <;> rfl

@[simp] theorem kindOfResult_orPending {α : Type} {value : Option α} {reason : String}
    {next : α → Except String Kernel.EvidenceResult} :
    kindOfResult (orPending value reason >>= next) = value.elim .pending fun found => kindOfResult (next found) := by
  cases value <;> rfl

/-- A known request id is not empty. -/
def isKnown (state : Kernel.ReconciliationStateInput) : Bool := state.openRouterRequestId ≠ some ""

/-- The time of creation is a text. -/
def isDated (metadata : Json) : Bool := (text? (metadata.field "created_at")).isSome

/-- The native tokens are counted. -/
def isMetered (metadata : Json) : Bool :=
  (count? (metadata.field "native_tokens_prompt")).isSome &&
    (count? (metadata.field "native_tokens_completion")).isSome

/-- The messages, as the kernel compares them. -/
def isOriginal (state : Kernel.ReconciliationStateInput) (messages : Json) : Bool :=
  Kernel.canonical messages = Kernel.canonical (.array state.originalMessages)

/-- The request id of the metadata. -/
def requestId? (state : Kernel.ReconciliationStateInput) (metadata : Json) : Option String :=
  (nonEmptyText? (metadata.field "request_id")).filter fun requestId =>
    state.openRouterRequestId.all (requestId = ·)

/-- An answer of some messages is kept if the messages are. -/
theorem filter_answer {α β : Type} {first second third : Bool} {same : α → Bool} {messages : α} (completion : β) :
    ((if first && second && third then some (messages, completion) else none).filter fun answer =>
      same answer.1).map (·.2) = if first && second && same messages && third then some completion else none := by
  cases first <;> cases second <;> cases third <;> cases kept : same messages <;> simp [kept]

section Kernel

variable [DateParse]

/-- The metadata are those of the attempt, by the kernel's standards. -/
def isAccepted (state : Kernel.ReconciliationStateInput) (status : ℤ) (metadata : Json) : Bool :=
  (status = 200 && requiredMetadata.all (has metadata)) &&
    text? (metadata.field "id") = some state.generationId && (requestId? state metadata).isSome &&
    (text? (metadata.field "model") = some pinnedModel && state.model = pinnedModel) &&
    (Kernel.bindingOf "" metadata).isSome && (Kernel.checkTypes metadata).isOk &&
    Kernel.isCreatedInTime state metadata

theorem isSome_bindingOf (requestId : String) (metadata : Json) : (Kernel.bindingOf requestId metadata).isSome =
    ((nonEmptyText? (metadata.field "provider_name")).isSome &&
      (nonEmptyText? (metadata.field "upstream_id")).isSome && (router? (metadata.field "router")).isSome &&
      (providerResponses? (metadata.field "provider_responses")).isSome) := by
  unfold Kernel.bindingOf
  cases nonEmptyText? (metadata.field "provider_name") <;> cases nonEmptyText? (metadata.field "upstream_id") <;>
    cases router? (metadata.field "router") <;>
    cases providerResponses? (metadata.field "provider_responses") <;> rfl

theorem kindOfResult_checkTypes {next : Unit → Except String Kernel.EvidenceResult} :
    kindOfResult (Kernel.checkTypes metadata >>= next) =
      if (Kernel.checkTypes metadata).isOk then kindOfResult (next ()) else .pending := by
  cases Kernel.checkTypes metadata <;> rfl

/-- The completion in a content, as the kernel finds it. -/
theorem completionOf_eq {content : Kernel.ReconciliationContent} (status : content.status = contentEvidence.status)
    (body : content.body = contentEvidence.parsed) :
    Kernel.completionOf state content = completionBy (isOriginal state) contentEvidence := by
  unfold Kernel.completionOf completionBy answer?
  rw [status, body]
  simp only [Option.bind_eq_bind]
  cases contentEvidence.parsed.field "data" with
  | none => rfl
  | some data =>
    simp only [Option.bind_some]
    cases data.field "input" with
    | none => rfl
    | some sent =>
      simp only [Option.bind_some]
      cases data.field "output" with
      | none => cases sent.field "messages" <;> rfl
      | some output =>
        simp only [Option.bind_some]
        cases sent.field "messages" with
        | none => rfl
        | some messages =>
          simp only [Option.bind_some]
          cases output.field "completion" with
          | none => rfl
          | some completion =>
            cases output.field "reasoning" with
            | none => cases textOrNull? (some completion) <;> simp
            | some reasoning =>
              simp only [Option.bind_some, Option.any_some]
              have kept := @filter_answer _ (Option String) (decide (contentEvidence.status = 200)) (isArray messages)
                (Kernel.isNull reasoning) (isOriginal state) messages
              cases completion with
              | string text => exact (kept (some text)).symm
              | null => exact (kept none).symm
              | bool | number | array | object => simp [textOrNull?]

/-- Nothing is recorded of an outcome, the request is the sealed one, a recovered response is supplied, and the
lookup is a valid one. -/
structure IsOrdinary (state : Kernel.ReconciliationStateInput) : Prop where
  binding : state.acceptedBinding = none
  existing : state.existingResponseCommitment = none
  recovered : ∃ commitment, commitment ≠ "" ∧ state.recoveredResponseCommitment = some commitment
  sealedRequest : state.sealedRequestCommitmentMatches = true
  input : Kernel.checkInput state = .ok ()
  schedule : Kernel.schedule state = .ok ()
  capture : ∀ evidence ∈ state.evidence, Kernel.checkCapture state evidence = .ok ()

/-- The kind of what a content says of an attempt that is billed. -/
theorem kind_examineContent (ordinary : IsOrdinary state) {binding : Kernel.AcceptedEvidenceBinding} {cost : ℤ}
    {content : Kernel.ReconciliationContent} (status : content.status = contentEvidence.status)
    (body : content.body = contentEvidence.parsed) :
    kindOfResult (Kernel.examineContent state binding cost content) =
      contentKind (exact404Error contentEvidence) (completionBy (isOriginal state) contentEvidence) := by
  have exact : Kernel.isExact404 content = exact404Error contentEvidence := by
    unfold Kernel.isExact404 exact404Error has
    rw [status, body, field_record, field_record, field_record]
    rfl
  unfold Kernel.examineContent contentKind
  rw [exact, completionOf_eq status body]
  cases exact404Error contentEvidence with
  | true => rfl
  | false =>
    rw [if_neg Bool.false_ne_true, if_neg Bool.false_ne_true]
    obtain ⟨commitment, given, recovered⟩ := ordinary.recovered
    rw [kindOfResult_orPending, recovered, ordinary.existing]
    cases completionBy (isOriginal state) contentEvidence with
    | none => rfl
    | some completion =>
      cases completion with
      | none => rfl
      | some text =>
        have kept : (some commitment).filter (· ≠ "") = some commitment :=
          Option.filter_eq_some_iff.mpr ⟨rfl, decide_eq_true given⟩
        rw [Option.elim_some, kindOfResult_orPending, kept]
        rfl

/-- What metadata say that are those of the attempt, and have a cost. -/
theorem kind_of_cost {binding : Kernel.AcceptedEvidenceBinding} {cost : ℤ} {content : EvidenceKind} :
    (if bool? (metadata.field "cancelled") = some true then
      if decide (cost = 0) = true then (Kernel.acceptedEvidence binding .canceled 0).kind else .pending
    else if (0 < cost && text? (metadata.field "finish_reason") = some "stop" &&
        (count? (metadata.field "native_tokens_prompt")).isSome &&
        (count? (metadata.field "native_tokens_completion")).isSome &&
        (count? (metadata.field "tokens_prompt")).isSome &&
        (count? (metadata.field "tokens_completion")).isSome) = true then content
    else .pending) =
      kindOf true (isCanceled metadata) (some cost) (isComplete metadata && isMetered metadata) content := by
  unfold kindOf isCanceled isComplete isMetered
  by_cases cancelled : bool? (metadata.field "cancelled") = some true
  · simp [cancelled, Kernel.acceptedEvidence]
  · simp only [cancelled, if_false, decide_false, if_true, Bool.false_eq_true]
    congr 1
    simp only [Bool.and_eq_true, decide_eq_true_eq, eq_iff_iff]
    tauto

/-- The kind of what the evidence of a lookup says. -/
theorem kind_examine (ordinary : IsOrdinary state) {evidence : Kernel.ReconciliationEvidence}
    (supplied : state.evidence = some evidence) (given : evidence.metadata.data = some metadata)
    (status : evidence.content.status = contentEvidence.status)
    (body : evidence.content.body = contentEvidence.parsed) :
    kindOfResult (Kernel.examine state evidence) =
      kindOf (isAccepted state evidence.metadata.status metadata) (isCanceled metadata) (costOf metadata)
        (isComplete metadata && isMetered metadata)
        (contentKind (exact404Error contentEvidence) (completionBy (isOriginal state) contentEvidence)) := by
  unfold Kernel.examine
  rw [ordinary.capture evidence supplied, given]
  show kindOfResult (orPending ((some metadata).filter _) _ >>= _) = _
  simp only [kindOfResult_orPending, kindOfResult_require, kindOfResult_checkTypes, ordinary.binding, Option.all_none,
    ordinary.sealedRequest, if_true, apply_ite kindOfResult, kind_examineContent ordinary status body, kindOfResult_pure]
  rw [Option.filter_some]
  cases whole : decide (evidence.metadata.status = 200) && requiredMetadata.all (has metadata) with
  | false => simp [isAccepted, whole]
  | true =>
    rw [if_pos rfl, Option.elim_some]
    by_cases named : text? (metadata.field "id") = some state.generationId
    · rw [if_pos (decide_eq_true named)]
      cases request : requestId? state metadata with
      | none =>
        rw [show Option.filter _ _ = none from request]
        simp [isAccepted, request]
      | some requestId =>
        rw [show Option.filter _ _ = some requestId from request, Option.elim_some]
        cases model : decide (text? (metadata.field "model") = some pinnedModel) &&
            decide (state.model = pinnedModel) with
        | false => simp [isAccepted, model]
        | true =>
          have bound := (isSome_bindingOf requestId metadata).trans (isSome_bindingOf "" metadata).symm
          rw [if_pos rfl]
          cases binding : Kernel.bindingOf requestId metadata with
          | none =>
            rw [binding] at bound
            simp [isAccepted, ← bound]
          | some binding' =>
            rw [binding] at bound
            rw [Option.elim_some]
            cases types : (Kernel.checkTypes metadata).isOk with
            | false => simp [isAccepted, types]
            | true =>
              rw [if_pos rfl]
              have accepted : isAccepted state evidence.metadata.status metadata =
                  Kernel.isCreatedInTime state metadata := by
                simp only [isAccepted, whole, decide_eq_true named, request, model, ← bound, types, Option.isSome_some,
                  Bool.true_and]
              rw [accepted]
              cases costOf metadata with
              | none => cases Kernel.isCreatedInTime state metadata <;> rfl
              | some cost =>
                cases Kernel.isCreatedInTime state metadata with
                | false => rfl
                | true => exact kind_of_cost
    · rw [if_neg (mt of_decide_eq_true named)]
      simp [isAccepted, named]

end Kernel

/-! ### One lookup -/

/-- What the kernel is given of two replies. -/
def toEvidence (metadataEvidence contentEvidence : Evidence) (credentialId generationId : String)
    (retrievalStartedAtMs metadataRetrievedAtMs contentRetrievedAtMs : ℤ) : Kernel.ReconciliationEvidence where
  credentialId
  generationId
  retrievalStartedAtMs
  metadata :=
    { status := metadataEvidence.status
      bodySha256 := metadataEvidence.sha256
      bodyBase64 := metadataEvidence.bodyBase64
      retrievedAtMs := metadataRetrievedAtMs
      data := (record metadataEvidence.parsed).field "data" }
  content :=
    { status := contentEvidence.status
      bodySha256 := contentEvidence.sha256
      bodyBase64 := contentEvidence.bodyBase64
      retrievedAtMs := contentRetrievedAtMs
      body := contentEvidence.parsed }

/-- The text is that of the time. -/
def IsTimeText [DateParse] (text : Option String) (time : ℤ) : Prop :=
  ∃ written, text = some written ∧ written ≠ "" ∧ DateParse.parse written = some time

/-- The kernel examines the lookup that the reconciler made. -/
structure IsSameLookup [DateParse] (input : ReconciliationLookupInput) (metadataEvidence contentEvidence : Evidence)
    (state : Kernel.ReconciliationStateInput) : Prop where
  generationId : state.generationId = input.generationId
  openRouterRequestId : state.openRouterRequestId = input.openRouterRequestId
  model : state.model = input.model
  messages : input.messages = some state.originalMessages
  dispatched : IsTimeText input.dispatchTokenAt state.dispatchTokenAtMs
  entered : ∃ enteredAtMs, state.ambiguityEnteredAtMs = some enteredAtMs ∧
    IsTimeText input.ambiguityEnteredAt enteredAtMs
  evidence : ∃ credentialId generationId started metadataRetrieved contentRetrieved, state.evidence = some
    (toEvidence metadataEvidence contentEvidence credentialId generationId started metadataRetrieved contentRetrieved)
  scheduled : ∃ offsetSeconds times, state.operation.kind = .scheduled offsetSeconds times ∧
    input.finalOffset = decide (offsetSeconds = 86300)

section Lookup

variable [DateParse] [NumberFormat] [Collation]

theorem text?_eq_some {value : Option Json} {text : String} :
    text? value = some text ↔ value = some (.string text) := by
  cases value with
  | none => simp [text?]
  | some value => cases value <;> simp [text?]

theorem given?_eq {text : String} (filled : text ≠ "") : given? (some text) = some text :=
  Option.filter_eq_some_iff.mpr ⟨rfl, decide_eq_true filled⟩

/-- The bounds of the reconciler are those of the kernel. -/
theorem isInBounds_eq {dispatchedAtMs enteredAtMs : ℤ} (dispatched : IsTimeText input.dispatchTokenAt dispatchedAtMs)
    (entered : IsTimeText input.ambiguityEnteredAt enteredAtMs) (createdAt : ℤ) : isInBounds input createdAt =
      (dispatchedAtMs - 300000 ≤ createdAt && createdAt ≤ enteredAtMs + 300000) := by
  obtain ⟨enteredText, given, filled, parsed⟩ := entered
  obtain ⟨dispatchText, alsoGiven, alsoFilled, alsoParsed⟩ := dispatched
  unfold isInBounds
  rw [given, alsoGiven, given?_eq filled, given?_eq alsoFilled, Option.all_some, Option.all_some, parsed, alsoParsed,
    Option.any_some, Option.any_some]

/-- The request id is bound for both, unless the known one is empty. -/
theorem isSome_requestId? (same : state.openRouterRequestId = input.openRouterRequestId) :
    (requestId? state metadata).isSome = (requestBound input metadata && isKnown state) := by
  unfold requestId? requestBound isKnown
  rw [same]
  cases input.openRouterRequestId with
  | none => simp [given?]
  | some known =>
    by_cases empty : known = ""
    · subst empty
      simp [nonEmptyText?, given?]
    · rw [given?_eq empty]
      unfold nonEmptyText?
      cases text? (metadata.field "request_id") with
      | none => simp
      | some requestId =>
        by_cases bound : requestId = known
        · subst bound
          simp [empty]
        · simp [bound]

/-- The types are fine for both. -/
theorem isOk_checkTypes : (Kernel.checkTypes metadata).isOk = ((bool? (metadata.field "cancelled")).isSome &&
    nullableString (metadata.field "finish_reason") && nullableString (metadata.field "native_finish_reason") &&
    nullableCount (metadata.field "native_tokens_prompt") &&
    nullableCount (metadata.field "native_tokens_completion") &&
    nullableCount (metadata.field "tokens_prompt") && nullableCount (metadata.field "tokens_completion") &&
    tokenPairsAgree metadata) := by
  unfold Kernel.checkTypes tokenPairsAgree
  cases types : (bool? (metadata.field "cancelled")).isSome &&
    nullableString (metadata.field "finish_reason") && nullableString (metadata.field "native_finish_reason") &&
    nullableCount (metadata.field "native_tokens_prompt") &&
    nullableCount (metadata.field "native_tokens_completion") &&
    nullableCount (metadata.field "tokens_prompt") && nullableCount (metadata.field "tokens_completion") with
  | false => rfl
  | true =>
    simp only [Bool.and_eq_true] at types
    obtain ⟨⟨⟨⟨_, nativePrompt⟩, nativeCompletion⟩, prompt⟩, completion⟩ := types
    rw [integersAgree_eq nativePrompt prompt, integersAgree_eq nativeCompletion completion]
    cases countsDiffer (metadata.field "native_tokens_prompt") (metadata.field "tokens_prompt") <;>
      cases countsDiffer (metadata.field "native_tokens_completion") (metadata.field "tokens_completion") <;> rfl

/-- The time of creation is within the bounds of both, if it is a text. -/
theorem isCreatedInTime_eq (same : IsSameLookup input metadataEvidence contentEvidence state) {createdAt : Option ℤ}
    (read : createdAt? metadata = .ok createdAt) :
    Kernel.isCreatedInTime state metadata = (createdAt.any (isInBounds input) && isDated metadata) := by
  unfold Kernel.isCreatedInTime isDated
  cases dated : text? (metadata.field "created_at") with
  | none => simp
  | some text =>
    have found : metadata.field "created_at" = some (.string text) := text?_eq_some.mp dated
    unfold createdAt? at read
    rw [found] at read
    cases read
    obtain ⟨enteredAtMs, given, entered⟩ := same.entered
    rw [given, Option.bind_some, Option.isSome_some, Bool.and_true]
    show Option.any (fun createdAt => state.dispatchTokenAtMs - 300000 ≤ createdAt &&
      createdAt ≤ enteredAtMs + 300000) _ = _
    exact congrArg (Option.any · _) (funext fun createdAt => (isInBounds_eq same.dispatched entered createdAt).symm)

/-- The model is the pinned one for both. -/
theorem pinned_model {name : Option String} : (decide (name = some pinnedModel) && decide (input.model = pinnedModel)) =
    (decide (name = some input.model) && decide (input.model = pinnedModel)) := by
  by_cases model : input.model = pinnedModel
  · rw [model]
  · rw [decide_eq_false model, Bool.and_false, Bool.and_false]

/-- **The kernel asks for a known request id that is not empty, and a text as the time of creation, besides.** -/
theorem isAccepted_eq (same : IsSameLookup input metadataEvidence contentEvidence state) {status : ℤ}
    {createdAt : Option ℤ} (read : createdAt? metadata = .ok createdAt) : isAccepted state status metadata =
      ((metadataValid input status metadata createdAt && input.model = pinnedModel) &&
        (isDated metadata && isKnown state)) := by
  unfold isAccepted metadataValid
  rw [isSome_requestId? same.openRouterRequestId, isOk_checkTypes, isCreatedInTime_eq same read, isSome_bindingOf,
    same.generationId, same.model]
  rw [pinned_model]
  ac_rfl

/-! ### Agreement -/

/-- The disposition that a plan stands for. -/
def expectedDisposition (plan : Kernel.ReconciliationMutationPlan) : ReconciliationDisposition :=
  if plan.globalFailure = some "RECONCILIATION_CREDENTIAL_DRIFT" then .globalFailure
  else match plan.terminal with
    | some .reconciledNotBilled => .reconciledNotBilled
    | some .reconciledBilledWithResponse => .reconciledBilledWithResponse
    | some .reconciledBilledNoResponse => .reconciledBilledNoResponse
    | _ => .reconciliationPending

/-- The reconciler finds the disposition of the kernel's plan. -/
def Agrees (input : ReconciliationLookupInput) (metadataEvidence contentEvidence : Evidence)
    (state : Kernel.ReconciliationStateInput) : Prop :=
  ∃ raw plan, reconcile input metadataEvidence contentEvidence = .ok raw ∧
    Kernel.planReconciliationMutation state = .ok plan ∧ raw.disposition = expectedDisposition plan

/-- The plan of a terminal state that has a cost, if it needs one. -/
theorem exists_terminalPlan (timing : Except String Unit) {ev : Kernel.EvidenceResult}
    {ending : TerminalReconciliationState} (priced : ending = .unresolvedProviderOutcome ∨
      (Kernel.costIn ending ev).isSome = true) : ∃ plan, Kernel.terminalPlan state timing ev ending = .ok plan ∧
      plan.terminal = some ending ∧ plan.globalFailure ≠ some "RECONCILIATION_CREDENTIAL_DRIFT" := by
  have fine : (decide (ending = .unresolvedProviderOutcome) || (Kernel.costIn ending ev).isSome) = true := by
    rw [Bool.or_eq_true, decide_eq_true_eq]
    exact priced
  unfold Kernel.terminalPlan
  refine ⟨_, bind_unit_eq_ok.mpr ⟨require_eq_ok.mpr fine, rfl⟩, rfl, ?_⟩
  dsimp only
  split
  · decide
  · split <;> decide

/-- The plan of a lookup stands for what its evidence says. -/
theorem expected_of_plan (ordinary : IsOrdinary state) {offsetSeconds : ℤ} {times : Kernel.LookupTimes}
    (scheduled : state.operation.kind = .scheduled offsetSeconds times) :
    ∃ plan, Kernel.planReconciliationMutation state = .ok plan ∧
      expectedDisposition plan = dispositionOf (offsetSeconds = 86300) (Kernel.evidenceResult state).kind := by
  unfold Kernel.planReconciliationMutation
  rw [ordinary.input, ordinary.schedule]
  show ∃ plan, (if (Kernel.evidenceResult state).kind = .credentialDrift then
    .ok (Kernel.pendingPlan state (.ok ()) (Kernel.evidenceResult state) (some "RECONCILIATION_CREDENTIAL_DRIFT"))
    else Kernel.planOperation state (.ok ()) (Kernel.evidenceResult state)) = .ok plan ∧ _
  unfold Kernel.planOperation
  rw [scheduled]
  have ends (ending : TerminalReconciliationState) (priced : ending = .unresolvedProviderOutcome ∨
      (Kernel.costIn ending (Kernel.evidenceResult state)).isSome = true) :=
    @exists_terminalPlan state _ _ _ (.ok ()) _ _ priced
  cases kind : (Kernel.evidenceResult state).kind with
  | credentialDrift => exact ⟨_, rfl, rfl⟩
  | pending => exact ⟨_, rfl, rfl⟩
  | canceled =>
    obtain ⟨plan, planned, ended, other⟩ := ends .reconciledNotBilled (.inr rfl)
    exact ⟨plan, planned, by rw [expectedDisposition, if_neg other, ended]; rfl⟩
  | positiveResponse =>
    obtain ⟨_, _, _, _, cost, _, _, _, _, _, _, _, priced⟩ := Kernel.response_of_kind kind
    obtain ⟨plan, planned, ended, other⟩ := ends .reconciledBilledWithResponse (.inr (Option.isSome_of_eq_some priced))
    exact ⟨plan, planned, by rw [expectedDisposition, if_neg other, ended]; rfl⟩
  | positiveNoResponse =>
    obtain ⟨_, _, _, cost, _, _, _, _, priced⟩ := Kernel.noResponse_of_kind kind
    obtain ⟨plan, planned, ended, other⟩ := ends .reconciledBilledNoResponse (.inr (Option.isSome_of_eq_some priced))
    by_cases last : offsetSeconds = 86300
    · subst last
      exact ⟨plan, planned, by rw [expectedDisposition, if_neg other, ended]; rfl⟩
    · refine ⟨Kernel.pendingPlan state (.ok ()) (Kernel.evidenceResult state) none, by simp [last], ?_⟩
      simp [expectedDisposition, Kernel.pendingPlan, dispositionOf, last]

/-- Metadata that lack a member are not accepted. -/
theorem isAccepted_eq_false {status : ℤ} (lacking : metadata.field "id" = none) :
    isAccepted state status metadata = false := by
  simp [isAccepted, requiredMetadata, has, lacking]

/-- What the kernel finds in two replies. -/
theorem kind_of_replies (same : IsSameLookup input metadataEvidence contentEvidence state)
    (ordinary : IsOrdinary state) (accepted : isRefused metadataEvidence.status = false)
    (alsoAccepted : isRefused contentEvidence.status = false) : (Kernel.evidenceResult state).kind =
      kindOf (isAccepted state metadataEvidence.status (metadataOf metadataEvidence))
        (isCanceled (metadataOf metadataEvidence)) (costOf (metadataOf metadataEvidence))
        (isComplete (metadataOf metadataEvidence) && isMetered (metadataOf metadataEvidence))
        (contentKind (exact404Error contentEvidence) (completionBy (isOriginal state) contentEvidence)) := by
  obtain ⟨credentialId, generationId, started, metadataRetrieved, contentRetrieved, supplied⟩ := same.evidence
  have examined : (Kernel.evidenceResult state).kind = kindOfResult (Kernel.examine state (toEvidence metadataEvidence
      contentEvidence credentialId generationId started metadataRetrieved contentRetrieved)) := by
    unfold Kernel.evidenceResult
    rw [supplied]
    dsimp only
    rw [if_neg]
    · cases Kernel.examine state _ <;> rfl
    · unfold isRefused at accepted alsoAccepted
      simp only [toEvidence, List.any_cons, List.any_nil, accepted, alsoAccepted, Bool.or_self]
      exact Bool.false_ne_true
  rw [examined]
  cases data : (record metadataEvidence.parsed).field "data" with
  | none =>
    rw [isAccepted_eq_false (by unfold metadataOf; rw [data]; rfl)]
    unfold Kernel.examine
    rw [ordinary.capture _ supplied, show Kernel.ReconciliationMetadata.data _ = none from data]
    rfl
  | some value =>
    rw [@kind_examine contentEvidence state value _ ordinary _ supplied data rfl rfl]
    unfold metadataOf
    rw [data]
    cases value with
    | object members => rfl
    | null | bool | number | string | array => rw [isAccepted_eq_false rfl, isAccepted_eq_false rfl]; rfl

/-- The metadata are those of the attempt, with the types they need, and created between the dispatch and the
ambiguity. -/
structure IsIdentified (input : ReconciliationLookupInput) (metadataEvidence : Evidence) : Prop where
  status : metadataEvidence.status = 200
  required : requiredMetadata.all (has (metadataOf metadataEvidence)) = true
  generationId : (metadataOf metadataEvidence).field "id" = some (.string input.generationId)
  requestId : requestBound input (metadataOf metadataEvidence) = true
  model : (metadataOf metadataEvidence).field "model" = some (.string pinnedModel) ∧ input.model = pinnedModel
  binding : (Kernel.bindingOf "" (metadataOf metadataEvidence)).isSome = true
  types : (Kernel.checkTypes (metadataOf metadataEvidence)).isOk = true
  created : ∃ createdAt, createdAt? (metadataOf metadataEvidence) = .ok (some createdAt) ∧
    isInBounds input createdAt = true

theorem isIdentified_iff {createdAt : Option ℤ} (read : createdAt? (metadataOf metadataEvidence) = .ok createdAt) :
    IsIdentified input metadataEvidence ↔ (metadataValid input metadataEvidence.status (metadataOf metadataEvidence)
      createdAt && input.model = pinnedModel) = true := by
  have times : (∃ found, createdAt? (metadataOf metadataEvidence) = .ok (some found) ∧
      isInBounds input found = true) ↔ createdAt.any (isInBounds input) = true := by
    rw [read, Option.any_eq_true]
    exact exists_congr fun found => and_congr_left fun _ => ⟨Except.ok.inj, congrArg _⟩
  have listed : IsIdentified input metadataEvidence ↔ (metadataEvidence.status = 200 &&
      requiredMetadata.all (has (metadataOf metadataEvidence)) &&
      text? ((metadataOf metadataEvidence).field "id") = some input.generationId &&
      requestBound input (metadataOf metadataEvidence) &&
      (text? ((metadataOf metadataEvidence).field "model") = some pinnedModel && input.model = pinnedModel) &&
      (Kernel.bindingOf "" (metadataOf metadataEvidence)).isSome &&
      (Kernel.checkTypes (metadataOf metadataEvidence)).isOk && createdAt.any (isInBounds input)) = true := by
    simp only [Bool.and_eq_true, decide_eq_true_eq, text?_eq_some, ← times]
    exact ⟨fun ⟨status, required, generationId, requestId, model, binding, types, created⟩ =>
        ⟨⟨⟨⟨⟨⟨⟨status, required⟩, generationId⟩, requestId⟩, model⟩, binding⟩, types⟩, created⟩,
      fun ⟨⟨⟨⟨⟨⟨⟨status, required⟩, generationId⟩, requestId⟩, model⟩, binding⟩, types⟩, created⟩ =>
        ⟨status, required, generationId, requestId, model, binding, types, created⟩⟩
  rw [listed, isOk_checkTypes, isSome_bindingOf, pinned_model]
  unfold metadataValid
  exact iff_of_eq (congrArg (· = true) (by ac_rfl))

/-- What the kernel asks for besides. -/
def IsStated (state : Kernel.ReconciliationStateInput) (metadata : Json) : Prop :=
  isDated metadata = true ∧ isKnown state = true

/-- The attempt was billed, and is not canceled. -/
structure IsBilled (metadata : Json) : Prop where
  cancelled : isCanceled metadata = false
  cost : ∃ cost, costOf metadata = some cost ∧ 0 < cost
  complete : isComplete metadata = true

/-- What the replies lead one of both to is what they lead the other to. -/
structure IsReadAlike (input : ReconciliationLookupInput) (metadataEvidence contentEvidence : Evidence)
    (state : Kernel.ReconciliationStateInput) : Prop where
  /-- An attempt that was canceled for free. -/
  canceled : isCanceled (metadataOf metadataEvidence) = true →
    costOf (metadataOf metadataEvidence) = some 0 → IsStated state (metadataOf metadataEvidence)
  /-- An attempt that is billed, and has no content at the last offset. -/
  missing : IsBilled (metadataOf metadataEvidence) → input.finalOffset = true →
    exact404Error contentEvidence = true →
      IsStated state (metadataOf metadataEvidence) ∧ isMetered (metadataOf metadataEvidence) = true
  /-- An attempt that is billed, with a content that repeats the messages. -/
  answered : IsBilled (metadataOf metadataEvidence) → ∀ messages completion,
    answer? contentEvidence = some (messages, completion) → (completion = none → input.finalOffset = true) →
      sameValue messages (.array state.originalMessages) = true →
        (tiesAgree byLocale messages (.array state.originalMessages) = true ↔
          IsStated state (metadataOf metadataEvidence) ∧ isMetered (metadataOf metadataEvidence) = true)

/-- A member of a value whose objects have distinct names is such a value. -/
theorem isDistinct_field {value member : Json} {name : String} (distinct : isDistinct value = true)
    (found : value.field name = some member) : isDistinct member = true := by
  cases value with
  | object members => exact (isDistinct_object.mp distinct).2 _ (mem_of_field found)
  | null | bool | number | string | array => cases found

theorem isDistinct_answer {messages : Json} {completion : Option String}
    (distinct : isDistinct contentEvidence.parsed = true)
    (answered : answer? contentEvidence = some (messages, completion)) : isDistinct messages = true := by
  unfold answer? at answered
  simp only [Option.bind_eq_bind, Option.bind_eq_some_iff] at answered
  obtain ⟨data, inBody, sent, inData, repeated, inSent, output, _, found, _, rest⟩ := answered
  split at rest
  · cases rest
    exact isDistinct_field (isDistinct_field (isDistinct_field distinct inBody) inData) inSent
  · cases rest

/-- A content with an answer is not missing. -/
theorem answer?_of_missing (missing : exact404Error contentEvidence = true) : answer? contentEvidence = none := by
  unfold exact404Error at missing
  simp only [Bool.and_eq_true, decide_eq_true_eq] at missing
  have other : decide (contentEvidence.status = 200) = false := by
    rw [missing.1.1]
    rfl
  unfold answer?
  rw [other]
  simp

/-- The kernel compares messages as values. -/
theorem isOriginal_iff {messages : Json} (distinct : isDistinct messages = true)
    (alsoDistinct : isDistinct (.array state.originalMessages) = true) : isOriginal state messages = true ↔
      sameValue messages (.array state.originalMessages) = true := by
  unfold isOriginal Kernel.canonical
  rw [decide_eq_true_eq, stringify_injective.eq_iff]
  exact sortKeys_linear_eq_iff beforeByUnits_preorder beforeByUnits_antisymm distinct alsoDistinct

/-- The reconciler compares messages as values, and the order of names that `localeCompare` ties. -/
theorem isRepeated_iff (sent : input.messages = some state.originalMessages) (preorder : IsPreorder byLocale)
    {messages : Json} (distinct : isDistinct messages = true)
    (alsoDistinct : isDistinct (.array state.originalMessages) = true) : isRepeated input messages = true ↔
      sameValue messages (.array state.originalMessages) = true ∧
        tiesAgree byLocale messages (.array state.originalMessages) = true := by
  unfold isRepeated
  rw [decide_eq_true_eq, sent]
  exact Evidence.canonicalJson_eq_iff preorder distinct alsoDistinct

/-- The kernel takes a reply that is refused for a drift of the credential. -/
theorem kind_of_refused (same : IsSameLookup input metadataEvidence contentEvidence state)
    (refused : (isRefused metadataEvidence.status || isRefused contentEvidence.status) = true) :
    (Kernel.evidenceResult state).kind = .credentialDrift := by
  obtain ⟨_, _, _, _, _, supplied⟩ := same.evidence
  unfold Kernel.evidenceResult
  rw [supplied]
  dsimp only
  rw [if_pos]
  · rfl
  · unfold isRefused at refused
    simpa [toEvidence] using refused

/-- **Reconciler and kernel agree exactly on replies that they read alike.** -/
theorem dispositions_agree_iff (same : IsSameLookup input metadataEvidence contentEvidence state)
    (ordinary : IsOrdinary state) (preorder : IsPreorder byLocale)
    (distinct : isDistinct contentEvidence.parsed = true)
    (alsoDistinct : isDistinct (.array state.originalMessages) = true) :
    Agrees input metadataEvidence contentEvidence state ↔
      isGenerationId input.generationId = true ∧
        (isRefused metadataEvidence.status = true ∨ isRefused contentEvidence.status = true ∨
          (∃ createdAt, createdAt? (metadataOf metadataEvidence) = .ok createdAt) ∧
            (IsIdentified input metadataEvidence → IsReadAlike input metadataEvidence contentEvidence state)) := by
  obtain ⟨offsetSeconds, times, scheduled, final⟩ := same.scheduled
  obtain ⟨plan, planned, expected⟩ := expected_of_plan ordinary scheduled
  cases generation : isGenerationId input.generationId with
  | false =>
    refine iff_of_false ?_ fun ⟨other, _⟩ => by cases other
    rintro ⟨raw, _, ended, _⟩
    unfold reconcile at ended
    rw [generation] at ended
    cases ended
  | true =>
    rw [eq_self_iff_true, true_and]
    have compared : Agrees input metadataEvidence contentEvidence state ↔
        ∃ raw, reconcile input metadataEvidence contentEvidence = .ok raw ∧
          raw.disposition = dispositionOf input.finalOffset (Kernel.evidenceResult state).kind := by
      rw [final, ← expected]
      refine ⟨fun ⟨raw, other, ended, found, agreed⟩ => ⟨raw, ended, ?_⟩,
        fun ⟨raw, ended, agreed⟩ => ⟨raw, plan, ended, planned, agreed⟩⟩
      cases planned.symm.trans found
      exact agreed
    rw [compared]
    unfold reconcile
    rw [generation]
    cases refused : isRefused metadataEvidence.status || isRefused contentEvidence.status with
    | true =>
      refine iff_of_true ⟨_, rfl, ?_⟩ ?_
      · rw [kind_of_refused same refused]
        rfl
      · rcases Bool.or_eq_true_iff.mp refused with first | second
        · exact .inl first
        · exact .inr (.inl second)
    | false =>
      obtain ⟨accepted, alsoAccepted⟩ := Bool.or_eq_false_iff.mp refused
      rw [accepted, alsoAccepted, kind_of_replies same ordinary accepted alsoAccepted]
      cases read : createdAt? (metadataOf metadataEvidence) with
      | error message =>
        rw [show createdAt? (record _) = .error message from read]
        refine iff_of_false (fun ⟨_, ended, _⟩ => by cases ended) ?_
        rintro (other | other | ⟨⟨_, other⟩, _⟩) <;> cases other
      | ok createdAt =>
        rw [show createdAt? (record _) = .ok createdAt from read]
        have decided {disposition : ReconciliationDisposition} :
            (∃ raw, (.ok ⟨classifyReconciliationContent (contentInput input metadataEvidence contentEvidence createdAt),
              metadataEvidence, contentEvidence⟩ : Except String Reconciliation) = .ok raw ∧
                raw.disposition = disposition) ↔
              classifyReconciliationContent (contentInput input metadataEvidence contentEvidence createdAt) =
                disposition :=
          ⟨fun ⟨_, ended, agreed⟩ => by cases ended; exact agreed, fun agreed => ⟨_, rfl, agreed⟩⟩
        refine decided.trans ?_
        have messages {messages : Json} {completion : Option String}
            (answered : answer? contentEvidence = some (messages, completion)) :=
          isDistinct_answer distinct answered
        rw [disposition_of_contentInput createdAt accepted alsoAccepted, isAccepted_eq same read]
        unfold completionBy
        rw [dispositions_eq_iff (fun found answered repeated => (isOriginal_iff (messages answered) alsoDistinct).mpr
          ((isRepeated_iff same.messages preorder (messages answered) alsoDistinct).mp repeated).1)
          answer?_of_missing, ← isIdentified_iff read, Bool.and_eq_true]
        constructor
        · intro agreed
          refine .inr (.inr ⟨⟨createdAt, rfl⟩, fun identified => ?_⟩)
          obtain ⟨canceled, billed⟩ := agreed identified
          refine ⟨canceled, fun ⟨open_, cost, complete⟩ => (billed open_ cost complete).1,
            fun ⟨open_, cost, complete⟩ found completion answered last original => ?_⟩
          have equal := (isOriginal_iff (messages answered) alsoDistinct).mpr original
          refine Iff.trans ?_ ((billed open_ cost complete).2 found completion answered last equal)
          rw [isRepeated_iff same.messages preorder (messages answered) alsoDistinct, and_iff_right original]
        · rintro (other | other | ⟨_, alike⟩) identified
          · cases other
          · cases other
          · obtain ⟨canceled, missing, answered⟩ := alike identified
            refine ⟨canceled, fun open_ cost complete => ⟨missing ⟨open_, cost, complete⟩,
              fun found completion given last equal => ?_⟩⟩
            have original := (isOriginal_iff (messages given) alsoDistinct).mp equal
            rw [isRepeated_iff same.messages preorder (messages given) alsoDistinct, and_iff_right original]
            exact answered ⟨open_, cost, complete⟩ found completion given last original

end Lookup

/-! ### A response without native counts -/

namespace NativeCounts

local instance : NumberFormat where
  text literal := String.ofList literal.characters
  byte _ := 0

local instance : Collation where
  localeCompare first second := if first = second then 0 else if codeUnits first ≤ codeUnits second then -1 else 1

local instance : DateParse where
  parse text :=
    if text = "2027-01-15T07:59:50.000Z" then some 1799999990000
    else if text = "2027-01-15T07:59:59.000Z" then some 1799999999000
    else if text = "2027-01-15T08:00:00.000Z" then some 1800000000000 else none

theorem preorder : IsPreorder byLocale := by
  have byUnits : byLocale = beforeByUnits := by
    funext first second
    unfold byLocale beforeByUnits
    show decide ((if first = second then 0 else if codeUnits first ≤ codeUnits second then -1 else 1 : ℤ) ≤ 0) = _
    by_cases same : first = second
    · simp [same]
    · by_cases before : codeUnits first ≤ codeUnits second <;> simp [same, before]
  rw [byUnits]
  exact beforeByUnits_preorder

/-- A native count. -/
def native (counted : Bool) (count : ℤ) : Json := if counted then .ofInt count else .null

/-- The metadata of a generation that was billed `5` micro-USD, with its native counts or without them. -/
def metadataReply (counted : Bool) : Evidence where
  parsed := .object [("data", .object [("id", .string "gen-1"), ("request_id", .string "or-request-1"),
    ("model", .string pinnedModel), ("provider_name", .string "provider-a"),
    ("created_at", .string "2027-01-15T07:59:59.000Z"), ("cancelled", .bool false),
    ("finish_reason", .string "stop"), ("native_finish_reason", .string "stop"),
    ("native_tokens_prompt", native counted 2), ("native_tokens_completion", native counted 3),
    ("tokens_prompt", .ofInt 2), ("tokens_completion", .ofInt 3),
    ("total_cost", .string "0.000005"), ("usage", .string "0.000005"),
    ("upstream_id", .string "upstream-1"), ("router", .null), ("provider_responses", .null)])]
  status := 200
  bodyBase64 := "e30="
  bytes := 2
  sha256 := String.ofList (List.replicate 64 'a')

def contentReply : Evidence where
  parsed := Kernel.billedEvidence.content.body
  status := 200
  bodyBase64 := "e30="
  bytes := 2
  sha256 := String.ofList (List.replicate 64 'b')

def lookup : ReconciliationLookupInput where
  generationId := "gen-1"
  openRouterRequestId := some "or-request-1"
  model := pinnedModel
  messages := some Kernel.firstLookup.originalMessages
  dispatchTokenAt := some "2027-01-15T07:59:50.000Z"
  ambiguityEnteredAt := some "2027-01-15T08:00:00.000Z"
  finalOffset := false

def attempt (counted : Bool) : Kernel.ReconciliationStateInput :=
  { Kernel.firstLookup with
    acceptedBinding := none
    evidence := some (toEvidence (metadataReply counted) contentReply "reconciler-credential" "gen-1" 1800000000000
      1800000000100 1800000000100) }

theorem isSameLookup (counted : Bool) : IsSameLookup lookup (metadataReply counted) contentReply (attempt counted) where
  generationId := rfl
  openRouterRequestId := rfl
  model := rfl
  messages := rfl
  dispatched := ⟨_, rfl, by decide, rfl⟩
  entered := ⟨_, rfl, _, rfl, by decide, rfl⟩
  evidence := ⟨_, _, _, _, _, rfl⟩
  scheduled := ⟨_, _, rfl, rfl⟩

theorem isOrdinary (counted : Bool) : IsOrdinary (attempt counted) where
  binding := rfl
  existing := rfl
  recovered := ⟨"sha256:response", by decide, rfl⟩
  sealedRequest := rfl
  input := rfl
  schedule := rfl
  capture := by
    intro evidence given
    cases given
    cases counted <;> decide +kernel

/-- With counts that are given, both find the response. -/
theorem found_alike : Agrees lookup (metadataReply true) contentReply (attempt true) := by
  refine (dispositions_agree_iff (isSameLookup _) (isOrdinary _) preorder (by decide +kernel)
    (by decide +kernel)).mpr ⟨by decide, .inr (.inr ⟨⟨_, rfl⟩, fun _ => ⟨?_, ?_, ?_⟩⟩)⟩
  · intro cancelled
    exact absurd cancelled (by decide +kernel)
  · intro _ last
    cases last
  · intro _ messages completion answered _ _
    have found : answer? contentReply = some (.array Kernel.firstLookup.originalMessages, some "ok") := rfl
    rw [found] at answered
    cases answered
    exact iff_of_true (by decide +kernel) ⟨⟨by decide, by decide⟩, by decide⟩

/-- The reconciler finds a response where the kernel misses the native counts. -/
theorem disagree_without_native_counts :
    IsSameLookup lookup (metadataReply false) contentReply (attempt false) ∧
      IsOrdinary (attempt false) ∧ IsPreorder byLocale ∧ isDistinct contentReply.parsed = true ∧
      isDistinct (.array (attempt false).originalMessages) = true ∧
      ¬ Agrees lookup (metadataReply false) contentReply (attempt false) := by
  refine ⟨isSameLookup _, isOrdinary _, preorder, by decide +kernel, by decide +kernel, ?_⟩
  rintro ⟨raw, plan, ended, planned, agreed⟩
  have response : (reconcile lookup (metadataReply false) contentReply).toOption.map (·.disposition) =
      some .reconciledBilledWithResponse := by decide +kernel
  have pending : (Kernel.planReconciliationMutation (attempt false)).toOption.map expectedDisposition =
      some .reconciliationPending := by decide +kernel
  rw [ended] at response
  rw [planned] at pending
  have other := (Option.some.inj response).symm.trans (agreed.trans (Option.some.inj pending))
  cases other

end NativeCounts

end FuseControlPlane.Reliability.Reconciler
