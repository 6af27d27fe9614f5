/-
Which lists of receipts have one commitment.

* `buildReceiptCommitment_eq_ok`: which lists are accepted.
* `toJson_injective`: the text of a receipt tells its values and the order of its members.
* `ReceiptsCanonical`: lists with the same values have the same text and total, lists with other values have
  another text, and exactly the lists with an invalid or repeated receipt are rejected.
* `receiptsCanonical_iff`: **this holds of two lists exactly if equal receipts have their members in the same
  order**: a copy of an object keeps the order of its members, and so does its text.
-/

import FuseControlPlane.Core.ReceiptCommitment

set_option linter.unusedSectionVars false

namespace FuseControlPlane.Core

open Foundation Foundation.JavaScript FuseControlPlane.Domain

variable {first second input receipts : List CommittedReceipt} {keccak256 : String → String} {mandateId : String}

/-! ### Accepted lists -/

/-- Every receipt is valid, and none has the sequence or the request of another. -/
structure AreAcceptable (input : List CommittedReceipt) : Prop where
  valid : ∀ receipt ∈ input, validateReceipt receipt.toReceiptValues = .ok ()
  sequences : (input.map fun receipt => receipt.sequence).Nodup
  requestIds : (input.map fun receipt => receipt.requestId).Nodup

theorem AreAcceptable.perm (acceptable : AreAcceptable first) (perm : first.Perm second) :
    AreAcceptable second :=
  ⟨fun receipt member => acceptable.valid receipt (perm.mem_iff.mpr member),
    (perm.map _).nodup_iff.mp acceptable.sequences, (perm.map _).nodup_iff.mp acceptable.requestIds⟩

theorem checkReceipts_eq_ok (seenSequences : List ℤ) (seenRequests : List String)
    (receipts : List CommittedReceipt) :
    checkReceipts seenSequences seenRequests receipts = .ok () ↔ AreAcceptable receipts ∧
      (∀ receipt ∈ receipts, receipt.sequence ∉ seenSequences) ∧
      ∀ receipt ∈ receipts, receipt.requestId ∉ seenRequests := by
  induction receipts generalizing seenSequences seenRequests with
  | nil => exact ⟨fun _ => ⟨⟨by simp, List.nodup_nil, List.nodup_nil⟩, by simp, by simp⟩, fun _ => rfl⟩
  | cons receipt rest ih =>
    unfold checkReceipts
    simp only [bind_unit_eq_ok, require_eq_ok, Bool.not_eq_true', List.contains_eq_mem,
      decide_eq_false_iff_not, ih, List.mem_append, List.mem_singleton, not_or]
    constructor
    · rintro ⟨valid, newSequence, newRequest, ⟨others, sequences, requestIds⟩, apart, distinct⟩
      refine ⟨⟨List.forall_mem_cons.mpr ⟨valid, others⟩, ?_, ?_⟩,
        List.forall_mem_cons.mpr ⟨newSequence, fun other member => (apart other member).1⟩,
        List.forall_mem_cons.mpr ⟨newRequest, fun other member => (distinct other member).1⟩⟩
      · refine List.nodup_cons.mpr ⟨fun there => ?_, sequences⟩
        obtain ⟨other, member, same⟩ := List.mem_map.mp there
        exact (apart other member).2 same
      · refine List.nodup_cons.mpr ⟨fun there => ?_, requestIds⟩
        obtain ⟨other, member, same⟩ := List.mem_map.mp there
        exact (distinct other member).2 same
    · rintro ⟨⟨valid, sequences, requestIds⟩, newSequences, newRequests⟩
      obtain ⟨here, others⟩ := List.forall_mem_cons.mp valid
      obtain ⟨absent, sequences⟩ := List.nodup_cons.mp sequences
      obtain ⟨unknown, requestIds⟩ := List.nodup_cons.mp requestIds
      obtain ⟨newSequence, apart⟩ := List.forall_mem_cons.mp newSequences
      obtain ⟨newRequest, distinct⟩ := List.forall_mem_cons.mp newRequests
      exact ⟨here, newSequence, newRequest, ⟨others, sequences, requestIds⟩,
        fun other member => ⟨apart other member, fun same =>
          absent (List.mem_map.mpr ⟨other, member, same⟩)⟩,
        fun other member => ⟨distinct other member, fun same =>
          unknown (List.mem_map.mpr ⟨other, member, same⟩)⟩⟩

theorem sortReceipts_perm (input : List CommittedReceipt) : (sortReceipts input).Perm input :=
  List.perm_insertionSort _ _

/-- The commitment of an accepted list. -/
def commitmentOf (keccak256 : String → String) (mandateId : String) (input : List CommittedReceipt) :
    ReceiptCommitment where
  bundle := ⟨mandateId, sortReceipts input⟩
  canonicalJson := (ReceiptBundle.toJson ⟨mandateId, sortReceipts input⟩).stringify
  totalPaidAtomic := ((sortReceipts input).map fun receipt => bigInt receipt.costAtomic.toList).sum
  hash := keccak256 (ReceiptBundle.toJson ⟨mandateId, sortReceipts input⟩).stringify

/-- **Exactly the lists of valid receipts without repetitions are accepted.** -/
theorem buildReceiptCommitment_eq_ok (named : mandateId ≠ "") {commitment : ReceiptCommitment} :
    buildReceiptCommitment keccak256 mandateId input = .ok commitment ↔
      AreAcceptable input ∧ commitmentOf keccak256 mandateId input = commitment := by
  unfold buildReceiptCommitment
  simp only [bind_unit_eq_ok, require_eq_ok, decide_eq_true_eq, checkReceipts_eq_ok]
  constructor
  · rintro ⟨_, ⟨acceptable, _⟩, built⟩
    exact ⟨acceptable.perm (sortReceipts_perm input), Except.ok.inj built⟩
  · rintro ⟨acceptable, rfl⟩
    exact ⟨named, ⟨acceptable.perm (sortReceipts_perm input).symm, by simp, by simp⟩, rfl⟩

theorem buildReceiptCommitment_rejects (named : mandateId ≠ "") :
    (∃ error, buildReceiptCommitment keccak256 mandateId input = .error error) ↔ ¬ AreAcceptable input := by
  constructor
  · rintro ⟨error, rejects⟩ acceptable
    rw [(buildReceiptCommitment_eq_ok named).mpr ⟨acceptable, rfl⟩] at rejects
    cases rejects
  · intro bad
    cases built : buildReceiptCommitment keccak256 mandateId input with
    | error error => exact ⟨error, rfl⟩
    | ok commitment => exact absurd ((buildReceiptCommitment_eq_ok named).mp built).1 bad

/-! ### Texts -/

theorem name_injective : Function.Injective ReceiptKey.name := by
  intro key other same
  cases key <;> cases other <;> first | rfl | exact absurd same (by decide)

theorem mem_keys (receipt : CommittedReceipt) (key : ReceiptKey) : key ∈ receipt.keys := by
  refine receipt.complete.mem_iff.mpr ?_
  cases key <;> decide

theorem ofInt_injective : Function.Injective Json.ofInt := by
  intro number other same
  have read := congrArg Json.integer? same
  rw [Json.integer?_ofInt, Json.integer?_ofInt] at read
  exact Option.some.inj read

/-- Values with the same members are the same. -/
theorem ReceiptValues.ext_member {values other : ReceiptValues}
    (same : ∀ key, values.member key = other.member key) : values = other := by
  obtain ⟨_, _, _, _, _, _, _, _⟩ := values
  obtain ⟨_, _, _, _, _, _, _, _⟩ := other
  cases ofInt_injective (same .sequence)
  cases same .requestId
  cases same .childId
  cases ofInt_injective (same .inputTokens)
  cases ofInt_injective (same .outputTokens)
  cases same .costAtomic
  cases same .authorizationHash
  cases same .circuitState
  rfl

/-- A receipt is its values and the order of its members. -/
theorem CommittedReceipt.ext_keys {receipt other : CommittedReceipt}
    (values : receipt.toReceiptValues = other.toReceiptValues) (keys : receipt.keys = other.keys) :
    receipt = other := by
  obtain ⟨_, _, _⟩ := receipt
  obtain ⟨_, _, _⟩ := other
  cases values
  cases keys
  rfl

theorem toJson_injective : Function.Injective CommittedReceipt.toJson := by
  intro receipt other same
  have members := Json.object.inj same
  have keys : receipt.keys = other.keys := by
    have names := congrArg (List.map Prod.fst) members
    rw [List.map_map, List.map_map] at names
    exact List.map_injective_iff.mpr name_injective names
  refine CommittedReceipt.ext_keys (ReceiptValues.ext_member fun key => ?_) keys
  rw [keys] at members
  have each := List.map_inj_left.mp members key (mem_keys other key)
  exact congrArg Prod.snd each

/-- The text of a bundle tells its receipts. -/
theorem canonicalJson_injective (same : (ReceiptBundle.toJson ⟨mandateId, first⟩).stringify =
    (ReceiptBundle.toJson ⟨mandateId, second⟩).stringify) : first = second := by
  have values := Json.object.inj (Json.stringify_injective same)
  simp only [List.cons.injEq, Prod.mk.injEq, Json.array.injEq, true_and, and_true] at values
  exact List.map_injective_iff.mpr toJson_injective values

/-! ### The order of receipts and of their members -/

/-- The same values, in any order. -/
def SameValues (first second : List CommittedReceipt) : Prop :=
  (first.map CommittedReceipt.toReceiptValues).Perm (second.map CommittedReceipt.toReceiptValues)

/-- Receipts with the same values have their members in the same order. -/
def KeysAgree (first second : List CommittedReceipt) : Prop :=
  ∀ receipt ∈ first, ∀ other ∈ second,
    receipt.toReceiptValues = other.toReceiptValues → receipt.keys = other.keys

theorem AreAcceptable.of_sameValues (acceptable : AreAcceptable first) (same : SameValues first second) :
    AreAcceptable second := by
  have sequences := (same.map ReceiptValues.sequence).nodup_iff
  have requestIds := (same.map ReceiptValues.requestId).nodup_iff
  simp only [List.map_map] at sequences requestIds
  refine ⟨fun receipt member => ?_, sequences.mp acceptable.sequences, requestIds.mp acceptable.requestIds⟩
  obtain ⟨other, there, values⟩ := List.mem_map.mp (same.mem_iff.mpr (List.mem_map_of_mem member))
  rw [← values]
  exact acceptable.valid other there

/-- Receipts of an accepted list with the same sequence are the same. -/
theorem AreAcceptable.eq_of_sequence (acceptable : AreAcceptable input) {receipt other : CommittedReceipt}
    (here : receipt ∈ input) (there : other ∈ input) (same : receipt.sequence = other.sequence) :
    receipt = other :=
  List.inj_on_of_nodup_map acceptable.sequences here there same

/-- Sorted, lists with the same values have them in the same order. -/
theorem map_sortReceipts (acceptable : AreAcceptable first) (same : SameValues first second) :
    (sortReceipts first).map CommittedReceipt.toReceiptValues =
      (sortReceipts second).map CommittedReceipt.toReceiptValues := by
  have sorted (input : List CommittedReceipt) : ((sortReceipts input).map
      CommittedReceipt.toReceiptValues).Pairwise fun a b => a.sequence ≤ b.sequence :=
    List.pairwise_map.mpr (List.pairwise_insertionSort _ _)
  have perm := (((sortReceipts_perm first).map CommittedReceipt.toReceiptValues).trans same).trans
    ((sortReceipts_perm second).map CommittedReceipt.toReceiptValues).symm
  refine perm.eq_of_pairwise (fun one other here there below above => ?_) (sorted first) (sorted second)
  obtain ⟨receipt, member, rfl⟩ := List.mem_map.mp here
  obtain ⟨later, isThere, rfl⟩ := List.mem_map.mp (perm.mem_iff.mpr there)
  exact congrArg _ ((acceptable.perm (sortReceipts_perm first).symm).eq_of_sequence member isThere
    (le_antisymm below above))

/-- Sorted, lists that differ in the order of receipts alone are the same. -/
theorem sortReceipts_eq (acceptable : AreAcceptable first) (same : SameValues first second)
    (agree : KeysAgree first second) : sortReceipts first = sortReceipts second := by
  have values := map_sortReceipts acceptable same
  have inFirst : ∀ receipt ∈ sortReceipts first, receipt ∈ first :=
    fun receipt member => (sortReceipts_perm first).mem_iff.mp member
  have inSecond : ∀ receipt ∈ sortReceipts second, receipt ∈ second :=
    fun receipt member => (sortReceipts_perm second).mem_iff.mp member
  generalize sortReceipts first = earlier at values inFirst
  generalize sortReceipts second = later at values inSecond
  induction earlier generalizing later with
  | nil => exact (List.map_eq_nil_iff.mp values.symm).symm
  | cons receipt rest ih =>
    cases later with
    | nil => cases values
    | cons other others =>
      obtain ⟨here, there⟩ := List.cons.inj values
      rw [CommittedReceipt.ext_keys here (agree receipt (inFirst _ List.mem_cons_self) other
          (inSecond _ List.mem_cons_self) here),
        ih (fun one member => inFirst one (List.mem_cons_of_mem _ member)) others there
          fun one member => inSecond one (List.mem_cons_of_mem _ member)]

/-- Lists with the same text have the same receipts. -/
theorem perm_of_canonicalJson (same : (commitmentOf keccak256 mandateId first).canonicalJson =
    (commitmentOf keccak256 mandateId second).canonicalJson) : first.Perm second := by
  have sorted : sortReceipts first = sortReceipts second := canonicalJson_injective same
  exact (sortReceipts_perm first).symm.trans (sorted ▸ sortReceipts_perm second)

/-! ### Canonicity -/

/-- The commitments of two lists are canonical. -/
structure ReceiptsCanonical (keccak256 : String → String) (mandateId : String)
    (first second : List CommittedReceipt) : Prop where
  /-- The same values have the same text and total. -/
  same : SameValues first second → ∀ one other,
    buildReceiptCommitment keccak256 mandateId first = .ok one →
      buildReceiptCommitment keccak256 mandateId second = .ok other →
        one.canonicalJson = other.canonicalJson ∧ one.totalPaidAtomic = other.totalPaidAtomic
  /-- Other values have another text. -/
  different : ¬ SameValues first second → ∀ one other,
    buildReceiptCommitment keccak256 mandateId first = .ok one →
      buildReceiptCommitment keccak256 mandateId second = .ok other →
        one.canonicalJson ≠ other.canonicalJson
  /-- Exactly the lists with an invalid or repeated receipt are rejected. -/
  rejects : ∀ input ∈ [first, second],
    (∃ error, buildReceiptCommitment keccak256 mandateId input = .error error) ↔
      (∃ receipt ∈ input, ∃ error, validateReceipt receipt.toReceiptValues = .error error) ∨
        ¬ (input.map fun receipt => receipt.sequence).Nodup ∨
        ¬ (input.map fun receipt => receipt.requestId).Nodup

theorem not_areAcceptable : ¬ AreAcceptable input ↔
    (∃ receipt ∈ input, ∃ error, validateReceipt receipt.toReceiptValues = .error error) ∨
      ¬ (input.map fun receipt => receipt.sequence).Nodup ∨
      ¬ (input.map fun receipt => receipt.requestId).Nodup := by
  constructor
  · intro bad
    by_contra fine
    push Not at fine
    obtain ⟨valid, sequences, requestIds⟩ := fine
    refine bad ⟨fun receipt member => ?_, sequences, requestIds⟩
    cases checked : validateReceipt receipt.toReceiptValues with
    | error error => exact absurd checked (valid receipt member error)
    | ok value => rfl
  · rintro (⟨receipt, member, error, invalid⟩ | repeated | repeated) acceptable
    · rw [acceptable.valid receipt member] at invalid
      cases invalid
    · exact repeated acceptable.sequences
    · exact repeated acceptable.requestIds

/-- **Commitments are canonical exactly if equal receipts have their members in the same order.** -/
theorem receiptsCanonical_iff (keccak256 : String → String) (mandateId : String)
    (first second : List CommittedReceipt) (named : mandateId ≠ "") :
    ReceiptsCanonical keccak256 mandateId first second ↔
      (AreAcceptable first → SameValues first second → KeysAgree first second) := by
  constructor
  · intro canonical acceptable same receipt here other there values
    have built := (@buildReceiptCommitment_eq_ok first keccak256 mandateId named _).mpr ⟨acceptable, rfl⟩
    have again := (@buildReceiptCommitment_eq_ok second keccak256 mandateId named _).mpr
      ⟨acceptable.of_sameValues same, rfl⟩
    have perm := perm_of_canonicalJson (canonical.same same _ _ built again).1
    rw [acceptable.eq_of_sequence here (perm.mem_iff.mpr there) (congrArg ReceiptValues.sequence values)]
  · intro agree
    refine ⟨fun same one other built again => ?_, fun apart one other built again text => ?_,
      fun input _ => (buildReceiptCommitment_rejects named).trans not_areAcceptable⟩
    · obtain ⟨acceptable, rfl⟩ := (buildReceiptCommitment_eq_ok named).mp built
      obtain ⟨_, rfl⟩ := (buildReceiptCommitment_eq_ok named).mp again
      have sorted := sortReceipts_eq acceptable same (agree acceptable same)
      unfold commitmentOf
      rw [sorted]
      exact ⟨rfl, rfl⟩
    · obtain ⟨_, rfl⟩ := (buildReceiptCommitment_eq_ok named).mp built
      obtain ⟨_, rfl⟩ := (buildReceiptCommitment_eq_ok named).mp again
      exact apart ((perm_of_canonicalJson text).map _)

/-- A receipt with its members in two orders. -/
def paidReceipt (keys : List ReceiptKey) (complete : keys.Perm ReceiptKey.all) : CommittedReceipt where
  sequence := 1
  requestId := "r"
  childId := "c"
  inputTokens := 1
  outputTokens := 1
  costAtomic := "1"
  authorizationHash := "a"
  circuitState := "s"
  keys
  complete

theorem receiptsCanonical_same : ReceiptsCanonical id "m" [paidReceipt ReceiptKey.all (.refl _)]
    [paidReceipt ReceiptKey.all (.refl _)] :=
  (receiptsCanonical_iff id "m" _ _ (by decide)).mpr fun _ _ receipt here other there _ => by
    rw [List.mem_singleton.mp here, List.mem_singleton.mp there]

theorem reordered_not_canonical : ¬ ReceiptsCanonical id "m" [paidReceipt ReceiptKey.all (.refl _)]
    [paidReceipt ReceiptKey.all.reverse (List.reverse_perm _)] := by
  intro canonical
  have same := canonical.same (.refl _) _ _ rfl rfl
  revert same
  decide +kernel

end FuseControlPlane.Core
