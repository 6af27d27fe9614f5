/-
**The signer signs within its authority.**

Any number of `POST /v1/sign` requests, of any organisations, share the authorizations
(`Foundation.World`). Between the steps of a request others run, a transaction may be rolled back or its
reply lost, the signer may answer anything, and a request may stop at any point.

* `Answers`: the replies a step may get, and what it leaves. Every call of the signer is recorded.
* `SignPhase.react`: the protocol of a request. It signs at most once, and only what was just reserved.
* `Authority`: every call of the signer has an authorization of its own, with its nonce and its amount.
* `signer_authority`: what follows of the nonces, the amounts, and the signatures that are returned.
-/

import FuseControlPlane.Foundation.Processes
import FuseControlPlane.Signer.SignRequests

set_option linter.unusedSectionVars false

namespace FuseControlPlane.Signer

open Foundation Foundation.JavaScript Program

/-! ### Authorizations around the requests -/

/-- A call of the signer and what it has answered. -/
structure SignedCall where
  signing : Signing
  reply : Except String String

/-- The row of what is signed. -/
def Signing.key (signing : Signing) : String × String := (signing.organizationId, signing.requestId)

def Signing.amount (signing : Signing) : ℕ := atomic signing.typedData.message.value

/-- What the requests share: the authorizations, and the calls of the signer, the latest first. -/
structure Shared where
  db : SignerDb
  signed : List SignedCall

namespace Shared

/-- A method of the store, on the authorizations. -/
def commit {α : Type} (shared : Shared) (result : Except String (α × SignerDb)) :
    Except String (α × Shared) :=
  result.map fun answer => (answer.1, { shared with db := answer.2 })

/-- A method that returns nothing. -/
def commitUnit (shared : Shared) (result : Except String SignerDb) : Except String (Unit × Shared) :=
  shared.commit (result.map fun after => ((), after))

end Shared

/-- The replies a step may get, and what it leaves. -/
def Answers : {β : Type} → Shared → SignerCall β → β → Shared → Prop
  | _, shared, .now, _, after => after = shared
  | _, shared, .reserve input, reply, after =>
    ∃ first, Ran shared (shared.commit (reserve input first shared.db)) reply after
  | _, shared, .signTypedData signing, reply, after =>
    after = { shared with signed := ⟨signing, reply⟩ :: shared.signed }
  | _, shared, .complete input, reply, after =>
    Ran shared (shared.commitUnit (complete input shared.db)) reply after
  | _, shared, .holdForReview input, reply, after =>
    Ran shared (shared.commitUnit (holdForReview input shared.db)) reply after

/-- Nothing else changes the authorizations. -/
def Moves (_ _ : Shared) : Prop := False

/-- What is posted. -/
structure Post where
  config : SignerConfig
  header : Option String
  body : Option SignRequest

/-! ### The protocol of a request -/

/-- How far a request has come. -/
inductive SignPhase
  | asking
  | reserved
  | signed (signature : String)
  | returned (signature : String)
  | ended
  deriving DecidableEq

section Protocol

variable [NodeCrypto] [Collation] [Viem]

/-- A request reserves what it wants to be signed. -/
def Post.mayReserve (post : Post) (given : ReservationInput) : Bool :=
  post.body.any fun input => given = input.reservation post.config &&
    input.typedData.message.value = input.amountAtomic

namespace SignPhase

def afterReserve : Except String SignerReservation → SignPhase
  | .ok .reserved => reserved
  | .ok (.completed signature) => returned signature
  | _ => ended

def afterSigning : Except String String → SignPhase
  | .ok signature => signed signature
  | .error _ => ended

def afterComplete (signature : String) : Except String Unit → SignPhase
  | .ok () => returned signature
  | .error _ => ended

/-- A request reserves once, signs what it has reserved, and stores what was signed. -/
def react (post : Post) (phase : SignPhase) : Event SignerCall → Option SignPhase
  | ⟨.now, _⟩ => some phase
  | ⟨.reserve given, reply⟩ =>
    if phase = asking ∧ post.mayReserve given = true then some (afterReserve reply) else none
  | ⟨.signTypedData signing, reply⟩ =>
    if phase = reserved ∧ post.body.map (SignRequest.signing post.config) = some signing then
      some (afterSigning reply)
    else none
  | ⟨.complete given, reply⟩ =>
    match phase with
    | signed signature =>
      if post.body.map (fun input => ⟨post.config.organizationId, input.requestId, signature⟩) = some given then
        some (afterComplete signature reply)
      else none
    | _ => none
  | ⟨.holdForReview _, _⟩ =>
    match phase with
    | signed _ => some ended
    | ended => some ended
    | _ => none

end SignPhase

/-- A signature is returned as that of the request that was posted. -/
def Justified (post : Post) : Except String SignResponse → SignPhase → Prop
  | .ok (.signed organizationId requestId _ signature), phase =>
    phase = .returned signature ∧ organizationId = post.config.organizationId ∧
      ∃ input, post.body = some input ∧ requestId = input.requestId
  | _, _ => True

/-! ### Every request follows the protocol -/

variable {post : Post} {input : SignRequest}

theorem signAndComplete_keeps (posted : post.body = some input) :
    Keeps (SignPhase.react post)
      (fun outcome phase => match outcome with
        | .ok response => Justified post (.ok response) phase
        | .error _ => phase = .ended ∨ ∃ signature, phase = .signed signature)
      .reserved (signAndComplete post.config input) := by
  refine .call fun answer => ⟨SignPhase.afterSigning answer, if_pos ⟨rfl, by rw [posted]; rfl⟩, ?_⟩
  cases answer with
  | error error => exact .fail (.inl rfl)
  | ok signature =>
    refine .fromExcept (fun _ _ => ?_) fun _ _ => .inr ⟨signature, rfl⟩
    refine .call fun stored => ⟨SignPhase.afterComplete signature stored, if_pos (by rw [posted]; rfl), ?_⟩
    cases stored with
    | error error => exact .fail (.inl rfl)
    | ok value => exact .done ⟨rfl, rfl, input, posted, rfl⟩

theorem holdAndFail_keeps {phase : SignPhase} (waits : phase = .ended ∨ ∃ signature, phase = .signed signature)
    (error : String) : Keeps (SignPhase.react post) (Justified post) phase
      (holdAndFail post.config input error) := by
  refine .call fun reply => ⟨.ended, ?_, .done ?_⟩
  · rcases waits with rfl | ⟨signature, rfl⟩ <;> rfl
  · split <;> trivial

theorem afterReservation_keeps (posted : post.body = some input)
    (reservation : Except String SignerReservation) :
    Keeps (SignPhase.react post) (Justified post) (SignPhase.afterReserve reservation)
      (afterReservation post.config input reservation) := by
  cases reservation with
  | error code =>
    refine .done ?_
    unfold reservationError
    split <;> trivial
  | ok reservation =>
    cases reservation with
    | reserved =>
      refine .tryCatch (signAndComplete_keeps posted) (fun _ _ meets => meets) fun error phase waits => ?_
      exact holdAndFail_keeps waits error
    | completed signature =>
      refine .done ?_
      unfold storedResponse
      split
      · exact ⟨rfl, rfl, input, posted, rfl⟩
      · trivial
    | inProgress | review | budgetExceeded => exact .done trivial

theorem signRequest_keeps (posted : post.body = some input) :
    Keeps (SignPhase.react post) (Justified post) .asking (signRequest post.config input) := by
  unfold signRequest
  split
  · exact .done trivial
  · split
    · exact .done trivial
    · refine .call fun now => ⟨.asking, rfl, ?_⟩
      show Keeps _ _ _ (if validTypedData post.config input now = true then _ else _)
      split
      · next valid =>
        have value : input.typedData.message.value = input.amountAtomic := by
          unfold validTypedData at valid
          simp only [Bool.and_eq_true, decide_eq_true_eq] at valid
          exact valid.1.1.1.1.1.2
        have allowed : post.mayReserve (input.reservation post.config) = true := by
          unfold Post.mayReserve
          rw [posted]
          simp [value]
        exact .call fun reply => ⟨_, if_pos ⟨rfl, allowed⟩, afterReservation_keeps posted reply⟩
      · exact .done trivial

def Post.program (post : Post) : SignerProgram SignResponse := postSign post.config post.header post.body

theorem program_keeps (post : Post) :
    Keeps (SignPhase.react post) (Justified post) .asking post.program := by
  unfold Post.program postSign
  split
  · exact .done trivial
  · split
    · exact .done trivial
    · next input parsed => exact signRequest_keeps (Option.filter_eq_some_iff.mp parsed).1

/-! ### What the phases stand for -/

/-- What is signed has its authorization, for its nonce and its amount, under its maximum. -/
def Signing.IsBacked (signing : Signing) (db : SignerDb) : Prop :=
  ∃ row limit, db.authorizations.find? signing.key = some row ∧
    db.limits.find? signing.organizationId = some limit ∧ row.fingerprint = signing.fingerprint ∧
    row.nonce = toLowerCase signing.typedData.message.nonce ∧ row.amountAtomic = signing.amount ∧
    limit.maximumTotalAtomic = signing.maximumTotalAtomic

/-- A signature is stored under a fingerprint. -/
def IsStored (db : SignerDb) (organizationId fingerprint signature : String) : Prop :=
  ∃ row ∈ db.authorizations, row.organizationId = organizationId ∧ row.fingerprint = fingerprint ∧
    row.status = .completed ∧ row.signature = some signature

/-- What a request in a phase has. -/
def SignPhase.Has (shared : Shared) (post : Post) : SignPhase → Prop
  | asking => True
  | ended => True
  | reserved => ∃ input, post.body = some input ∧ (input.signing post.config).IsBacked shared.db ∧
      ∀ call ∈ shared.signed, call.signing.key ≠ (input.signing post.config).key
  | signed signature => ∃ input, post.body = some input ∧
      ∃ call ∈ shared.signed, call.signing = input.signing post.config ∧ call.reply = .ok signature
  | returned signature => ∃ input, post.body = some input ∧
      IsStored shared.db post.config.organizationId input.fingerprint signature

/-- The authorizations, the calls of the signer, and the requests. -/
structure Authority {ι : Type} (posts : ι → Post) (shared : Shared) (phases : ι → SignPhase) : Prop where
  sound : SignerSound shared.db
  distinct : (shared.signed.map fun call => call.signing.key).Nodup
  backed : ∀ call ∈ shared.signed, call.signing.IsBacked shared.db
  stored : ∀ row ∈ shared.db.authorizations, row.status = .completed → ∀ signature,
    row.signature = some signature → ∃ call ∈ shared.signed,
      call.signing.key = (row.organizationId, row.requestId) ∧ call.reply = .ok signature
  has : ∀ name, (phases name).Has shared (posts name)
  alone : ∀ name other, phases name = .reserved → phases other = .reserved → ∀ input given,
    (posts name).body = some input → (posts other).body = some given →
      (input.signing (posts name).config).key = (given.signing (posts other).config).key → name = other

section Steps

variable {shared after : Shared}

theorem Signing.IsBacked.grows {db later : SignerDb} {signing : Signing} (backed : signing.IsBacked db)
    (grows : Grows db later) : signing.IsBacked later := by
  obtain ⟨row, limit, found, limited, fingerprint, nonce, amount, maximum⟩ := backed
  obtain ⟨later_row, there, continues⟩ := grows.rows _ row found
  obtain ⟨later_limit, here, same⟩ := grows.limits _ limit limited
  exact ⟨later_row, later_limit, there, here, continues.fingerprint.trans fingerprint,
    continues.nonce.trans nonce, continues.amountAtomic.trans amount, same.trans maximum⟩

theorem IsStored.grows {db later : SignerDb} {organizationId fingerprint signature : String}
    (stored : IsStored db organizationId fingerprint signature) (grows : Grows db later) :
    IsStored later organizationId fingerprint signature := by
  obtain ⟨row, member, own, same, completed, signed⟩ := stored
  obtain ⟨later_row, there, continues⟩ := grows.rows _ row (Table.find?_of_mem member)
  rw [continues.completed completed] at there
  exact ⟨row, Table.mem_of_find? there, own, same, completed, signed⟩

/-- What a request has, it has later too. -/
theorem SignPhase.Has.later {phase : SignPhase} (has : phase.Has shared post)
    (grows : Grows shared.db after.db) (calls : ∀ call ∈ shared.signed, call ∈ after.signed)
    (apart : phase = .reserved → ∀ input, post.body = some input → ∀ call ∈ after.signed,
      call ∈ shared.signed ∨ call.signing.key ≠ (input.signing post.config).key) :
    phase.Has after post := by
  cases phase with
  | asking | ended => trivial
  | reserved =>
    obtain ⟨input, posted, backed, unsigned⟩ := has
    refine ⟨input, posted, backed.grows grows, fun call member => ?_⟩
    exact (apart rfl input posted call member).elim (unsigned call) id
  | signed signature =>
    obtain ⟨input, posted, call, member, same, answered⟩ := has
    exact ⟨input, posted, call, calls call member, same, answered⟩
  | returned signature =>
    obtain ⟨input, posted, stored⟩ := has
    exact ⟨input, posted, stored.grows grows⟩

variable {ι : Type} [DecidableEq ι] {posts : ι → Post} {phases : ι → SignPhase} {name : ι} {later : SignPhase}

/-- A step that writes authorizations only. -/
theorem Authority.write (authority : Authority posts shared phases) (sound : SignerSound after.db)
    (grows : Grows shared.db after.db) (signed : after.signed = shared.signed)
    (stored : ∀ row ∈ after.db.authorizations, row.status = .completed → ∀ signature,
      row.signature = some signature → ∃ call ∈ shared.signed,
        call.signing.key = (row.organizationId, row.requestId) ∧ call.reply = .ok signature)
    (has : later.Has after (posts name))
    (alone : later = .reserved → ∀ other given, phases other = .reserved → (posts other).body = some given →
      ∀ input, (posts name).body = some input →
        (input.signing (posts name).config).key ≠ (given.signing (posts other).config).key) :
    Authority posts after (Function.update phases name later) := by
  refine ⟨sound, ?_, fun call member => ?_, ?_, fun other => ?_, fun first second here there => ?_⟩
  · rw [signed]
    exact authority.distinct
  · rw [signed] at member
    exact (authority.backed call member).grows grows
  · rw [signed]
    exact stored
  · by_cases same : other = name
    · rw [same, Function.update_self]
      exact has
    · rw [Function.update_of_ne same]
      refine (authority.has other).later grows (fun call member => ?_) fun _ _ _ call member => .inl ?_
      · rw [signed]
        exact member
      · rw [signed] at member
        exact member
  · intro input given posted posted' equal
    by_cases own : first = name
    · by_cases own' : second = name
      · exact own.trans own'.symm
      · rw [own, Function.update_self] at here
        rw [Function.update_of_ne own'] at there
        rw [own] at posted equal
        exact absurd equal (alone here second given there posted' input posted)
    · rw [Function.update_of_ne own] at here
      by_cases own' : second = name
      · rw [own', Function.update_self] at there
        rw [own'] at posted' equal
        exact absurd equal.symm (alone there first input here posted given posted')
      · rw [Function.update_of_ne own'] at there
        exact authority.alone first second here there input given posted posted' equal

/-- A step that leaves everything, of a request that does not become entitled. -/
theorem Authority.idle (authority : Authority posts shared phases) (has : later.Has shared (posts name))
    (unreserved : later ≠ .reserved) : Authority posts shared (Function.update phases name later) :=
  authority.write authority.sound (.refl _) rfl authority.stored has fun reserved => absurd reserved unreserved

theorem commit_eq_ok {α : Type} {result : Except String (α × SignerDb)} {value : α} :
    shared.commit result = .ok (value, after) ↔
      ∃ db, result = .ok (value, db) ∧ after = { shared with db } := by
  unfold Shared.commit
  cases result with
  | error error => simp [Except.map]
  | ok answer =>
    obtain ⟨given, db⟩ := answer
    simp only [Except.map, Except.ok.injEq, Prod.mk.injEq]
    constructor
    · rintro ⟨rfl, rfl⟩
      exact ⟨db, ⟨rfl, rfl⟩, rfl⟩
    · rintro ⟨db, ⟨rfl, rfl⟩, rfl⟩
      exact ⟨rfl, rfl⟩

theorem commitUnit_eq_ok {result : Except String SignerDb} {value : Unit} :
    shared.commitUnit result = .ok (value, after) ↔ ∃ db, result = .ok db ∧ after = { shared with db } := by
  unfold Shared.commitUnit
  rw [commit_eq_ok]
  cases result with
  | error error => simp [Except.map]
  | ok db => simp [Except.map]

/-- Whoever is entitled has an authorization. -/
theorem Authority.present (authority : Authority posts shared phases) {other : ι}
    (entitled : phases other = .reserved) {given : SignRequest} (posted : (posts other).body = some given) :
    (shared.db.authorizations.find? (given.signing (posts other).config).key).isSome = true := by
  have has := authority.has other
  rw [entitled] at has
  obtain ⟨input, same, ⟨row, _, found, _⟩, _⟩ := has
  rw [posted] at same
  cases same
  exact Option.isSome_iff_exists.mpr ⟨row, found⟩

theorem mayReserve_cases {post : Post} {given : ReservationInput} (allowed : post.mayReserve given = true) :
    ∃ input, post.body = some input ∧ given = input.reservation post.config ∧
      input.typedData.message.value = input.amountAtomic := by
  obtain ⟨config, header, body⟩ := post
  cases body with
  | none => cases allowed
  | some input =>
    have meets : (decide (given = input.reservation config) &&
      decide (input.typedData.message.value = input.amountAtomic)) = true := allowed
    rw [Bool.and_eq_true, decide_eq_true_eq, decide_eq_true_eq] at meets
    exact ⟨input, rfl, meets⟩

/-! ### One step -/

/-- A reservation entitles its request alone. -/
theorem authority_reserve (authority : Authority posts shared phases) {given : ReservationInput}
    (allowed : (posts name).mayReserve given = true) {reply : Except String SignerReservation}
    (answered : Answers shared (.reserve given) reply after) :
    Authority posts after (Function.update phases name (SignPhase.afterReserve reply)) := by
  obtain ⟨first, ran⟩ := answered
  obtain ⟨input, posted, rfl, value⟩ := mayReserve_cases allowed
  rcases ran.cases with ⟨rfl, error, rfl⟩ | ⟨reservation, accepted, same⟩
  · exact authority.idle trivial nofun
  obtain ⟨db, returned, rfl⟩ := commit_eq_ok.mp accepted
  obtain ⟨sound, grows⟩ := reserve_keeps authority.sound returned
  have outcome : SignPhase.afterReserve reply = SignPhase.afterReserve (.ok reservation) ∨
      SignPhase.afterReserve reply = .ended := by
    cases reply with
    | ok answer => exact .inl (by rw [same answer rfl])
    | error error => exact .inr rfl
  rcases reserve_cases returned with
    ⟨unreserved, limited, stored⟩ | ⟨rfl, limit, found, maximum, within, absent, apart, rfl⟩
  · have rows : db.authorizations = shared.db.authorizations := by
      rw [limited]
      exact authorizations_withLimit ..
    have later : (SignPhase.afterReserve reply).Has { shared with db } (posts name) ∧
        SignPhase.afterReserve reply ≠ .reserved := by
      rcases outcome with own | ended
      · rw [own]
        cases reservation with
        | reserved => exact absurd rfl unreserved
        | completed signature =>
          obtain ⟨row, member, owned, fingerprint, completed, signed⟩ := stored signature rfl
          refine ⟨⟨input, posted, row, ?_, owned, fingerprint, completed, signed⟩, nofun⟩
          rw [rows]
          exact member
        | inProgress | review | budgetExceeded => exact ⟨trivial, nofun⟩
      · rw [ended]
        exact ⟨trivial, nofun⟩
    refine authority.write sound grows rfl (fun row member => ?_) later.1 fun reserved => absurd reserved later.2
    rw [rows] at member
    exact authority.stored row member
  · have unknown : ∀ key, (shared.db.authorizations.find? key).isSome = true →
        key ≠ (input.signing (posts name).config).key := by
      rintro key known rfl
      rw [show shared.db.authorizations.find? (input.signing (posts name).config).key = none from absent] at known
      cases known
    refine authority.write sound grows rfl (fun row member completed signature signed => ?_) ?_ ?_
    · rcases Table.mem_put.mp member with rfl | ⟨there, _⟩
      · cases completed
      · exact authority.stored row there completed signature signed
    · rcases outcome with own | ended
      · rw [own]
        refine ⟨input, posted, ⟨_, { limit with reservedAtomic :=
          limit.reservedAtomic + (input.reservation (posts name).config).amountAtomic },
          Table.find?_put_self _ _, ?_, rfl, rfl, ?_, maximum⟩, fun call member => ?_⟩
        · show (Table.put _ _).find? _ = _
          rw [Table.find?_put]
          exact if_pos (Table.key_of_find? found).symm
        · show atomic input.amountAtomic = atomic input.typedData.message.value
          rw [value]
        · obtain ⟨row, _, there, _⟩ := authority.backed call member
          exact unknown _ (Option.isSome_iff_exists.mpr ⟨row, there⟩)
      · rw [ended]
        trivial
    · intro _ other given entitled posted_there input' posted_here equal
      rw [posted] at posted_here
      cases posted_here
      exact unknown _ (authority.present entitled posted_there) equal.symm

/-- The signer is called for what was reserved, and not called for it again. -/
theorem authority_sign (authority : Authority posts shared phases) (entitled : phases name = .reserved)
    {signing : Signing} (own : (posts name).body.map (SignRequest.signing (posts name).config) = some signing)
    (reply : Except String String) :
    Authority posts { shared with signed := ⟨signing, reply⟩ :: shared.signed }
      (Function.update phases name (SignPhase.afterSigning reply)) := by
  obtain ⟨input, posted, rfl⟩ := Option.map_eq_some_iff.mp own
  have has := authority.has name
  rw [entitled] at has
  obtain ⟨_, same, backed, unsigned⟩ := has
  rw [posted] at same
  cases same
  have ended : SignPhase.afterSigning reply ≠ .reserved := by
    cases reply <;> exact nofun
  refine ⟨authority.sound, ?_, fun call member => ?_, fun row member completed signature signed => ?_,
    fun other => ?_, fun first second here there => ?_⟩
  · rw [List.map_cons]
    refine List.nodup_cons.mpr ⟨fun known => ?_, authority.distinct⟩
    obtain ⟨call, member, same⟩ := List.mem_map.mp known
    exact unsigned call member same
  · rcases List.mem_cons.mp member with rfl | there
    · exact backed
    · exact authority.backed call there
  · obtain ⟨call, there, same, answered⟩ := authority.stored row member completed signature signed
    exact ⟨call, List.mem_cons_of_mem _ there, same, answered⟩
  · by_cases same : other = name
    · rw [same, Function.update_self]
      cases reply with
      | ok signature => exact ⟨input, posted, _, List.mem_cons_self, rfl, rfl⟩
      | error error => trivial
    · rw [Function.update_of_ne same]
      refine (authority.has other).later (.refl _) (fun call there => List.mem_cons_of_mem _ there)
        fun reserved given posted_there call member => ?_
      rcases List.mem_cons.mp member with rfl | there
      · exact .inr fun equal => same
          (authority.alone name other entitled reserved input given posted posted_there equal).symm
      · exact .inl there
  · have earlier : ∀ some_name, Function.update phases name (SignPhase.afterSigning reply) some_name = .reserved →
        phases some_name = .reserved := by
      intro some_name reserved
      by_cases same : some_name = name
      · rw [same, Function.update_self] at reserved
        exact absurd reserved ended
      · rw [Function.update_of_ne same] at reserved
        exact reserved
    exact authority.alone first second (earlier first here) (earlier second there)

/-- What was signed is stored under its own fingerprint. -/
theorem authority_complete (authority : Authority posts shared phases) {signature : String}
    (signed : phases name = .signed signature) {given : CompletionInput}
    (own : (posts name).body.map
      (fun input => (⟨(posts name).config.organizationId, input.requestId, signature⟩ : CompletionInput)) =
        some given)
    {reply : Except String Unit} (answered : Answers shared (.complete given) reply after) :
    Authority posts after (Function.update phases name (SignPhase.afterComplete signature reply)) := by
  obtain ⟨input, posted, rfl⟩ := Option.map_eq_some_iff.mp own
  have has := authority.has name
  rw [signed] at has
  obtain ⟨_, same, call, member, signing, given_out⟩ := has
  rw [posted] at same
  cases same
  rcases Ran.cases answered with ⟨rfl, error, rfl⟩ | ⟨value, accepted, _⟩
  · exact authority.idle trivial nofun
  obtain ⟨db, completed, rfl⟩ := commitUnit_eq_ok.mp accepted
  obtain ⟨row, found, reserved, rfl⟩ := complete_cases completed
  have keyed : (row.organizationId, row.requestId) = call.signing.key := by
    rw [signing]
    exact Table.key_of_find? found
  obtain ⟨_, _, there, _, fingerprint, _⟩ := authority.backed call member
  rw [signing, show shared.db.authorizations.find? (input.signing (posts name).config).key = some row from found]
    at there
  cases there
  obtain ⟨sound, grows⟩ := signerSound_withRow authority.sound found (continues_completedWith reserved signature)
  have unreserved : SignPhase.afterComplete signature reply ≠ .reserved := by
    cases reply <;> exact nofun
  refine authority.write sound grows rfl (fun other here completed given signed => ?_) ?_
    fun reserved => absurd reserved unreserved
  · rcases Table.mem_put.mp here with rfl | ⟨there, _⟩
    · cases signed
      exact ⟨call, member, keyed.symm, given_out⟩
    · exact authority.stored other there completed given signed
  · cases reply with
    | error error => trivial
    | ok value =>
      rw [signing] at fingerprint
      exact ⟨input, posted, row.completedWith signature, Table.mem_put.mpr (.inl rfl),
        (congrArg Prod.fst keyed).trans (by rw [signing]; rfl), fingerprint, rfl, rfl⟩

/-- An authorization that is held stores no signature. -/
theorem authority_hold (authority : Authority posts shared phases) {given : ReviewInput}
    {reply : Except String Unit} (answered : Answers shared (.holdForReview given) reply after) :
    Authority posts after (Function.update phases name .ended) := by
  rcases Ran.cases answered with ⟨rfl, error, rfl⟩ | ⟨value, accepted, _⟩
  · exact authority.idle trivial nofun
  obtain ⟨db, held, rfl⟩ := commitUnit_eq_ok.mp accepted
  obtain ⟨row, found, reserved, rfl⟩ := holdForReview_cases held
  obtain ⟨sound, grows⟩ := signerSound_withRow authority.sound found (continues_heldFor reserved given.reasonCode)
  refine authority.write sound grows rfl (fun other here completed signature signed => ?_) trivial nofun
  rcases Table.mem_put.mp here with rfl | ⟨there, _⟩
  · cases completed
  · exact authority.stored other there completed signature signed

theorem authority_answers (authority : Authority posts shared phases) {β : Type} {effect : SignerCall β}
    {reply : β} (answered : Answers shared effect reply after)
    (moved : (phases name).react (posts name) ⟨effect, reply⟩ = some later) :
    Authority posts after (Function.update phases name later) := by
  cases effect with
  | now =>
    cases moved
    rw [show after = shared from answered, Function.update_eq_self]
    exact authority
  | reserve given =>
    simp only [SignPhase.react] at moved
    split at moved
    · next guard =>
      cases moved
      exact authority_reserve authority guard.2 answered
    · cases moved
  | signTypedData signing =>
    simp only [SignPhase.react] at moved
    split at moved
    · next guard =>
      cases moved
      rw [show after = { shared with signed := ⟨signing, reply⟩ :: shared.signed } from answered]
      exact authority_sign authority guard.1 guard.2 reply
    · cases moved
  | complete given =>
    simp only [SignPhase.react] at moved
    split at moved
    · next signature signed =>
      split at moved
      · next own =>
        cases moved
        exact authority_complete authority signed own answered
      · cases moved
    · cases moved
  | holdForReview given =>
    simp only [SignPhase.react] at moved
    split at moved
    · cases moved
      exact authority_hold authority answered
    · cases moved
      exact authority_hold authority answered
    · cases moved

end Steps

/-! ### Every run -/

section Worlds

variable {ι : Type} [DecidableEq ι]

/-- Any number of requests, on a store without authorizations. -/
def signers (posts : ι → Post) : World SignerCall Shared String SignResponse ι :=
  .start ⟨⟨.empty, .empty⟩, []⟩ fun name => (posts name).program

/-- What is called of an organisation for a request, and with a nonce. -/
def callsFor (organizationId requestId : String) (signed : List SignedCall) : ℕ :=
  (signed.map fun call => call.signing.key).count (organizationId, requestId)

def Signing.nonce (signing : Signing) : String × String :=
  (signing.organizationId, toLowerCase signing.typedData.message.nonce)

def callsWith (organizationId nonce : String) (signed : List SignedCall) : ℕ :=
  (signed.map fun call => call.signing.nonce).count (organizationId, nonce)

/-- What the signer has been given of an organisation. -/
def signedAtomic (organizationId : String) (signed : List SignedCall) : ℕ :=
  ((signed.filter fun call => call.signing.organizationId = organizationId).map
    fun call => call.signing.amount).sum

/-- The signer signs within its authority. -/
structure SignsWithinAuthority (posts : ι → Post) (world : World SignerCall Shared String SignResponse ι) :
    Prop where
  /-- Once for a request, and once for a nonce in whatever case. -/
  requests : ∀ organizationId requestId, callsFor organizationId requestId world.store.signed ≤ 1
  nonces : ∀ organizationId nonce, callsWith organizationId nonce world.store.signed ≤ 1
  /-- Every limit counts the authorizations that are taken from it. -/
  counted : ∀ limit ∈ world.store.db.limits,
    limit.reservedAtomic = world.store.db.authorizedAtomic limit.organizationId
  limited : ∀ row ∈ world.store.db.authorizations,
    (world.store.db.limits.find? row.organizationId).isSome = true
  /-- All that was ever given to the signer is within the maximum. -/
  spent : ∀ call ∈ world.store.signed,
    signedAtomic call.signing.organizationId world.store.signed ≤ call.signing.maximumTotalAtomic
  /-- What is returned was signed for this payload, and is stored under its fingerprint. -/
  returned : ∀ name organizationId requestId walletAddress signature,
    (world.process name).program = .done (.signed organizationId requestId walletAddress signature) →
      organizationId = (posts name).config.organizationId ∧ ∃ input, (posts name).body = some input ∧
        requestId = input.requestId ∧ IsStored world.store.db organizationId input.fingerprint signature ∧
        ∃ call ∈ world.store.signed, call.signing.organizationId = organizationId ∧
          call.signing.fingerprint = input.fingerprint ∧ call.reply = .ok signature

variable {posts : ι → Post} {shared : Shared} {phases : ι → SignPhase}

theorem callsFor_le_one (authority : Authority posts shared phases) (organizationId requestId : String) :
    callsFor organizationId requestId shared.signed ≤ 1 :=
  List.nodup_iff_count_le_one.mp authority.distinct (organizationId, requestId)

/-- Calls with the same nonce have the same authorization. -/
theorem callsWith_le_one (authority : Authority posts shared phases) (organizationId nonce : String) :
    callsWith organizationId nonce shared.signed ≤ 1 := by
  have distinct : (shared.signed.map fun call => call.signing.nonce).Nodup := by
    refine authority.distinct.of_map.map_on fun call member other there same => ?_
    obtain ⟨row, _, found, _, _, own, _⟩ := authority.backed call member
    obtain ⟨row', _, found', _, _, own', _⟩ := authority.backed other there
    obtain ⟨organization, nonces⟩ := Prod.ext_iff.mp same
    have keyed : (row.organizationId, row.requestId) = call.signing.key := Table.key_of_find? found
    have keyed' : (row'.organizationId, row'.requestId) = other.signing.key := Table.key_of_find? found'
    have rows : row = row' := by
      refine authority.sound.nonces row (Table.mem_of_find? found) row' (Table.mem_of_find? found') ?_
        (own.trans (nonces.trans own'.symm))
      exact (congrArg Prod.fst keyed).trans (organization.trans (congrArg Prod.fst keyed').symm)
    refine List.inj_on_of_nodup_map authority.distinct member there ?_
    rw [← keyed, ← keyed', rows]
  exact List.nodup_iff_count_le_one.mp distinct (organizationId, nonce)

/-- What the signer has been given is reserved. -/
theorem signedAtomic_le (authority : Authority posts shared phases) (organizationId : String) :
    signedAtomic organizationId shared.signed ≤ shared.db.authorizedAtomic organizationId := by
  refine Table.sum_le_total shared.db.authorizations
    (authority.distinct.sublist (List.filter_sublist.map fun call => call.signing.key)) fun call member => ?_
  obtain ⟨there, own⟩ := List.mem_filter.mp member
  obtain ⟨row, _, found, _, _, _, amount, _⟩ := authority.backed call there
  have keyed : (row.organizationId, row.requestId) = call.signing.key := Table.key_of_find? found
  refine ⟨row, found, amount.symm.trans (if_pos ?_).symm⟩
  exact (congrArg Prod.fst keyed).trans (of_decide_eq_true own)

theorem signedAtomic_le_maximum (authority : Authority posts shared phases) {call : SignedCall}
    (member : call ∈ shared.signed) :
    signedAtomic call.signing.organizationId shared.signed ≤ call.signing.maximumTotalAtomic := by
  obtain ⟨_, limit, _, limited, _, _, _, maximum⟩ := authority.backed call member
  obtain ⟨counted, within⟩ := authority.sound.counted limit (Table.mem_of_find? limited)
  have own : limit.organizationId = call.signing.organizationId := Table.key_of_find? limited
  calc signedAtomic call.signing.organizationId shared.signed
      ≤ shared.db.authorizedAtomic call.signing.organizationId := signedAtomic_le authority _
    _ = limit.reservedAtomic := by rw [counted, own]
    _ ≤ limit.maximumTotalAtomic := within
    _ = call.signing.maximumTotalAtomic := maximum

theorem authority_start (posts : ι → Post) :
    Authority posts ⟨⟨.empty, .empty⟩, []⟩ fun _ => SignPhase.asking where
  sound :=
    { counted := fun limit member => absurd member (Table.not_mem_empty limit)
      limited := fun row member => absurd member (Table.not_mem_empty row)
      nonces := fun row member => absurd member (Table.not_mem_empty row)
      lower := fun row member => absurd member (Table.not_mem_empty row) }
  distinct := List.nodup_nil
  backed := fun _ member => absurd member List.not_mem_nil
  stored := fun row member => absurd member (Table.not_mem_empty row)
  has := fun _ => trivial
  alone := nofun

/-- **The signer signs within its authority**, whatever the requests, their order, and what becomes of each
of them. -/
theorem signer_authority {world : World SignerCall Shared String SignResponse ι}
    (reached : World.Reachable Answers Moves (signers posts) world) : SignsWithinAuthority posts world := by
  obtain ⟨phases, authority, keeps⟩ := reached.machines (fun name => program_keeps (posts name))
    (authority_start posts) (fun _ _ _ _ moved => moved.elim)
    (fun _ _ _ _ _ _ _ _ authority answered moved => authority_answers authority answered moved)
  refine ⟨callsFor_le_one authority, callsWith_le_one authority,
    fun limit member => (authority.sound.counted limit member).1, authority.sound.limited,
    fun call member => signedAtomic_le_maximum authority member, ?_⟩
  intro name organizationId requestId walletAddress signature ended
  have settles := (keeps name).2.settles
  rw [ended] at settles
  obtain ⟨phase, organization, input, posted, request⟩ := Settles.done_iff.mp settles
  have has := authority.has name
  rw [phase] at has
  obtain ⟨_, same, stored⟩ := has
  rw [posted] at same
  cases same
  rw [← organization] at stored
  refine ⟨organization, input, posted, request, stored, ?_⟩
  obtain ⟨row, member, own, fingerprint, completed, signed⟩ := stored
  obtain ⟨call, there, keyed, answered⟩ := authority.stored row member completed signature signed
  obtain ⟨_, _, found, _, same, _⟩ := authority.backed call there
  have here : world.store.db.authorizations.find? (row.organizationId, row.requestId) = some row :=
    Table.find?_of_mem member
  rw [keyed, here] at found
  cases found
  exact ⟨call, there, (congrArg Prod.fst keyed).trans own, same.symm.trans fingerprint, answered⟩

end Worlds

end Protocol

/-! ### The same payload under two ids -/

namespace Sample

@[reducible] def crypto : NodeCrypto := ⟨fun _ => String.ofList (List.replicate 64 'a')⟩

@[reducible] def collation : Collation := ⟨fun _ _ => 0⟩

def address (digit : Char) : String := "0x" ++ String.ofList (List.replicate 40 digit)

@[reducible] def viem : Viem := ⟨fun _ _ => .ok (address '1'), .ok⟩

def config : SignerConfig where
  organizationId := "acme"
  callerId := "gateway"
  authToken := "token"
  walletAddress := address '1'
  gatewayWalletAddress := address '2'
  allowedPayToAddress := address '3'
  chainId := 8453
  maximumAtomic := 1000
  maximumTotalAtomic := 5000

def typedData : SignerTypedData where
  domain := ⟨"GatewayWalletBatched", "1", 8453, address '2'⟩
  types := [("TransferWithAuthorization", expectedAuthorizationTypes)]
  primaryType := "TransferWithAuthorization"
  message := ⟨address '1', address '3', "700", "0", "1000",
    "0x" ++ String.ofList (List.replicate 64 'A')⟩

def post (digit : Char) : Post where
  config := config
  header := some "Bearer token"
  body := some ⟨"acme", String.ofList (List.replicate 64 digit), "700", typedData⟩

def posts : Bool → Post
  | false => post 'a'
  | true => post 'b'

def signature : String := "0x" ++ String.ofList (List.replicate 130 '5')

/-- No reply is lost, and the signer signs. -/
def environment : {β : Type} → Shared → SignerCall β → β × Shared
  | _, shared, .now => (10, shared)
  | _, shared, .reserve input => replied id shared (shared.commit (reserve input 0 shared.db))
  | _, shared, .signTypedData signing =>
    (.ok signature, { shared with signed := ⟨signing, .ok signature⟩ :: shared.signed })
  | _, shared, .complete input => replied id shared (shared.commitUnit (complete input shared.db))
  | _, shared, .holdForReview input => replied id shared (shared.commitUnit (holdForReview input shared.db))

theorem environment_truthful {β : Type} (shared : Shared) (call : SignerCall β) :
    Answers shared call (environment shared call).1 (environment shared call).2 := by
  cases call with
  | now | signTypedData => exact rfl
  | reserve input => exact ⟨0, ran_replied _ _ _⟩
  | complete | holdForReview => exact ran_replied _ _ _

/-- The first request is served, and then the second one. -/
def served : World SignerCall Shared String SignResponse Bool :=
  letI := crypto
  letI := collation
  letI := viem
  (signers posts).drive environment [false, false, false, false, true, true]

end Sample

theorem signer_authority_demo :
    letI := Sample.crypto
    letI := Sample.collation
    letI := Sample.viem
    SignsWithinAuthority Sample.posts Sample.served :=
  letI := Sample.crypto
  letI := Sample.collation
  letI := Sample.viem
  signer_authority (World.drive_reachable Sample.environment_truthful (signers Sample.posts)
    [false, false, false, false, true, true])

end FuseControlPlane.Signer
