/-
Secrets as they are sealed (`providers/providerCredentials.ts`, `product/secretDelivery.ts`).

* `Aes256Gcm`: the cipher. What is sealed opens with the key, the nonce and the associated data it was sealed with.
* `encryptProviderSecret`, `sealSecretDelivery`: envelopes, bound to a context through the associated data.
* `aad_injective`, `DeliveryContext.text_injective`: **the joined texts tell the admitted contexts apart**.
* `sealed_secrets`: an envelope **opens to the same secret in every later key ring that has its key**, and opens in
  no other context.
-/

import FuseControlPlane.Foundation.Buffers
import FuseControlPlane.Foundation.JoinedTexts
import FuseControlPlane.Foundation.Records
import FuseControlPlane.Providers.ProviderConfigStore

set_option linter.unusedSectionVars false

namespace FuseControlPlane.Providers.Sealed

open Foundation Foundation.JavaScript

/-! ### The cipher -/

/-- AES-256-GCM: a ciphertext and a tag of a plaintext, and the plaintext of these, if they are authentic. -/
class Aes256Gcm where
  encrypt : (key nonce aad plaintext : List UInt8) → List UInt8 × List UInt8
  decrypt : (key nonce aad ciphertext tag : List UInt8) → Option (List UInt8)
  decrypt_encrypt : ∀ {key nonce : List UInt8} (aad plaintext : List UInt8), key.length = 32 → nonce.length = 12 →
    decrypt key nonce aad (encrypt key nonce aad plaintext).1 (encrypt key nonce aad plaintext).2 = some plaintext
  length_ciphertext : ∀ key nonce aad plaintext, (encrypt key nonce aad plaintext).1.length = plaintext.length
  length_tag : ∀ key nonce aad plaintext, (encrypt key nonce aad plaintext).2.length = 16

/-! ### Key rings -/

/-- The keys that `providerCredentialKeyRingFromEnv` finds. -/
structure KeyRing where
  activeKeyId : String
  keys : Record (List UInt8)
  ids : ∀ keyId key, keys.get keyId = some key → isKeyId keyId = true
  lengths : ∀ keyId key, keys.get keyId = some key → key.length = 32
  active : (keys.get activeKeyId).isSome

/-- The keys found so far. -/
structure FoundKeys where
  keys : Record (List UInt8)
  ids : ∀ keyId key, keys.get keyId = some key → isKeyId keyId = true
  lengths : ∀ keyId key, keys.get keyId = some key → key.length = 32

def FoundKeys.none : FoundKeys := ⟨.empty, (fun _ _ found => nomatch found), (fun _ _ found => nomatch found)⟩

def FoundKeys.set (found : FoundKeys) (keyId : String) (key : List UInt8) (id : isKeyId keyId = true)
    (length : key.length = 32) : FoundKeys where
  keys := found.keys.set keyId key
  ids := fun other value stored => by
    rw [Record.get_set] at stored
    split at stored
    · next same => exact same ▸ id
    · exact found.ids other value stored
  lengths := fun other value stored => by
    rw [Record.get_set] at stored
    split at stored
    · cases stored
      exact length
    · exact found.lengths other value stored

/-- `/^[A-Za-z0-9+/_=-]+$/`. -/
def isKeyText (value : String) : Bool :=
  value ≠ "" && value.toList.all fun character =>
    isBase64Character character || character = '_' || character = '=' || character = '-'

/-- `parseKey`, of a value of the right form. -/
def parseKey (value : String) : Except String { key : List UInt8 // key.length = 32 } :=
  if !isBlank value && isKeyText value then
    if length : (ofBase64url value).length = 32 then .ok ⟨ofBase64url value, length⟩
    else .error "PROVIDER_CREDENTIAL_KEY_INVALID"
  else .error "PROVIDER_CREDENTIAL_KEY_INVALID"

def keyPrefix : String := "FUSE_PROVIDER_CREDENTIAL_KEY_"

/-- The keys of the environment, variable by variable. -/
def findKeys (toLowerCase : String → String) : List (String × String) → FoundKeys → Except String FoundKeys
  | [], found => .ok found
  | (name, value) :: rest, found =>
    if !startsWith name keyPrefix || isBlank value then findKeys toLowerCase rest found
    else if id : isKeyId (toLowerCase (drop keyPrefix.toList.length name)) = true then
      match parseKey value with
      | .ok key => findKeys toLowerCase rest (found.set _ key.1 id key.2)
      | .error error => .error error
    else .error "PROVIDER_CREDENTIAL_KEY_ID_INVALID"

def providerCredentialKeyRingFromEnv (toLowerCase : String → String) (env : List (String × String)) :
    Except String KeyRing := do
  let activeKeyId := toLowerCase (trim ((env.lookup "FUSE_PROVIDER_CREDENTIAL_ACTIVE_KEY_ID").getD ""))
  if !isKeyId activeKeyId then throw "PROVIDER_CREDENTIAL_ACTIVE_KEY_ID_INVALID"
  let found ← findKeys toLowerCase env .none
  if active : (found.keys.get activeKeyId).isSome then return ⟨activeKeyId, found.keys, found.ids, found.lengths, active⟩
  else throw "PROVIDER_CREDENTIAL_ACTIVE_KEY_MISSING"

/-! ### Envelopes -/

/-- What an envelope is made of. -/
structure Envelope where
  keyId : String
  nonce : List UInt8
  tag : List UInt8
  ciphertext : List UInt8

def Envelope.text (envelope : Envelope) : String :=
  ".".intercalate ["v1", envelope.keyId, base64url envelope.nonce, base64url envelope.tag, base64url envelope.ciphertext]

/-- The pieces of a text that is an envelope of the first version. -/
def readEnvelope (text : String) : Option Envelope :=
  match splitText '.' text with
  | [version, keyId, nonce, tag, ciphertext] =>
    if version ≠ "v1" ∨ keyId = "" ∨ nonce = "" ∨ tag = "" ∨ ciphertext = "" then none
    else some ⟨keyId, ofBase64url nonce, ofBase64url tag, ofBase64url ciphertext⟩
  | _ => none

section Secrets

variable [Aes256Gcm] [Replacement]

/-! ### Credentials of providers -/

def providerText : ProviderName → String
  | .anthropic => "anthropic"
  | .openrouter => "openrouter"

/-- The joined text that a credential is bound to. -/
def aadText (context : ProviderCredentialContext) (keyId : String) : String :=
  ":".intercalate ["fuse-provider-credential", "v1", context.organizationId, providerText context.provider,
    toString context.credentialVersion, keyId]

def aad (context : ProviderCredentialContext) (keyId : String) : Except String (List UInt8) :=
  if context.valid keyId then .ok (utf8 (aadText context keyId)) else .error "PROVIDER_CREDENTIAL_CONTEXT_INVALID"

/-- The envelope of a secret; `nonce` is what `entropy(12)` gives. -/
def encryptProviderSecret (secret : String) (keyRing : KeyRing) (context : ProviderCredentialContext)
    (nonce : List UInt8) : Except String String := do
  if isBlank secret then throw "PROVIDER_CREDENTIAL_SECRET_REQUIRED"
  match keyRing.keys.get keyRing.activeKeyId with
  | none => throw "PROVIDER_CREDENTIAL_ACTIVE_KEY_MISSING"
  | some key =>
    if key.length ≠ 32 then throw "PROVIDER_CREDENTIAL_ACTIVE_KEY_MISSING"
    if nonce.length ≠ 12 then throw "PROVIDER_CREDENTIAL_NONCE_INVALID"
    let bound ← aad context keyRing.activeKeyId
    let (ciphertext, tag) := Aes256Gcm.encrypt key nonce bound (utf8 secret)
    return (Envelope.mk keyRing.activeKeyId nonce tag ciphertext).text

/-- The secret of an envelope, or nothing if anything is thrown. -/
def openProviderSecret (envelope : String) (keyRing : KeyRing) (context : ProviderCredentialContext) :
    Option String := do
  let envelope ← readEnvelope envelope
  let key ← keyRing.keys.get envelope.keyId
  guard (key.length = 32)
  guard (envelope.nonce.length = 12 ∧ envelope.tag.length = 16 ∧ envelope.ciphertext.length ≠ 0)
  let bound ← (aad context envelope.keyId).toOption
  let plaintext ← Aes256Gcm.decrypt key envelope.nonce bound envelope.ciphertext envelope.tag
  return ofUtf8 plaintext

def decryptProviderSecret (envelope : String) (keyRing : KeyRing) (context : ProviderCredentialContext) :
    Except String String :=
  match openProviderSecret envelope keyRing context with
  | some secret => .ok secret
  | none => .error "PROVIDER_CREDENTIAL_DECRYPT_FAILED"

/-! ### Deliveries -/

/-- What a delivery is bound to: the key of an onboarding, or the recovery of a credential. -/
inductive DeliveryContext
  | workspace (idempotencyKey : String)
  | recovery (workspaceId recoveryCodeHash deliveryId : String)
  deriving DecidableEq

def DeliveryContext.text : DeliveryContext → String
  | .workspace idempotencyKey => "workspace:" ++ idempotencyKey
  | .recovery workspaceId recoveryCodeHash deliveryId =>
    "recovery:" ++ workspaceId ++ ":" ++ recoveryCodeHash ++ ":" ++ deliveryId

/-- `/^[A-Za-z0-9_-]{8,128}$/`. -/
def isWorkspaceId (text : String) : Bool :=
  matchesClass (fun character => character.isUpper || character.isLower || character.isDigit || character = '_' ||
    character = '-') 8 128 text

/-- `/^[A-Za-z0-9._:-]{8,128}$/`. -/
def isIdempotencyKey (text : String) : Bool :=
  matchesClass (fun character => character.isUpper || character.isLower || character.isDigit || character = '.' ||
    character = '_' || character = ':' || character = '-') 8 128 text

/-- `/^fuse_rc_[A-Za-z0-9_-]{16,128}$/`. -/
def isRecoveryCode (text : String) : Bool :=
  startsWith text "fuse_rc_" &&
    matchesClass (fun character => character.isUpper || character.isLower || character.isDigit || character = '_' ||
      character = '-') 16 128 (drop 8 text)

/-- A digest in hexadecimal. -/
def isHexDigest (text : String) : Bool :=
  matchesClass (fun character => character.isDigit || ('a' ≤ character && character ≤ 'f')) 64 64 text

/-- The context of a recovery, as `recoverWorkspaceCredential` checks and hashes what it is given. -/
def recoveryContext [NodeCrypto] (workspaceId recoveryCode idempotencyKey : String) : Except String DeliveryContext :=
  if !isWorkspaceId workspaceId then .error "WORKSPACE_ID_INVALID"
  else if !isRecoveryCode recoveryCode then .error "RECOVERY_CODE_INVALID"
  else if !isIdempotencyKey idempotencyKey then .error "IDEMPOTENCY_KEY_INVALID"
  else .ok (.recovery workspaceId (NodeCrypto.sha256 recoveryCode) idempotencyKey)

/-- The contexts that envelopes are made for. -/
def DeliveryContext.IsAdmitted : DeliveryContext → Prop
  | .workspace _ => True
  | .recovery workspaceId recoveryCodeHash deliveryId =>
    isWorkspaceId workspaceId = true ∧ isHexDigest recoveryCodeHash = true ∧ isIdempotencyKey deliveryId = true

/-- The envelope of a value; `nonce` is what `randomBytes(12)` gives. -/
def sealSecretDelivery (value : Json) (keyRing : KeyRing) (context : String) (nonce : List UInt8) :
    Except String String :=
  match keyRing.keys.get keyRing.activeKeyId with
  | none => .error "SECRET_DELIVERY_KEY_INVALID"
  | some key =>
    if key.length ≠ 32 then .error "SECRET_DELIVERY_KEY_INVALID"
    else
      let (ciphertext, tag) := Aes256Gcm.encrypt key nonce (utf8 context) (utf8 value.stringify)
      .ok (Envelope.mk keyRing.activeKeyId nonce tag ciphertext).text

def openSecretDelivery (envelope : String) (keyRing : KeyRing) (context : String) : Except String Json :=
  match readEnvelope envelope with
  | none => .error "SECRET_DELIVERY_ENVELOPE_INVALID"
  | some envelope =>
    match (do
      let key ← keyRing.keys.get envelope.keyId
      guard (key.length = 32)
      let plaintext ← Aes256Gcm.decrypt key envelope.nonce (utf8 context) envelope.ciphertext envelope.tag
      Json.parse (ofUtf8 plaintext) : Option Json) with
    | some value => .ok value
    | none => .error "SECRET_DELIVERY_DECRYPT_FAILED"

/-- `sealRecoveryResult`; `result` is the JSON value of the result, which has its workspace. -/
def sealRecoveryResult (result : Json) (workspaceId : String) (keyRing : Option KeyRing)
    (recoveryCodeHash deliveryId : String) (nonce : List UInt8) : Except String String :=
  match keyRing with
  | none => .error "WORKSPACE_DELIVERY_KEY_UNAVAILABLE"
  | some keyRing =>
    sealSecretDelivery result keyRing (DeliveryContext.recovery workspaceId recoveryCodeHash deliveryId).text nonce

end Secrets

/-! ### The joined texts -/

section Texts

theorem class_of_matchesClass {inClass : Char → Bool} {low high : ℕ} {text : String}
    (matched : matchesClass inClass low high text = true) : ∀ character ∈ text.toList, inClass character = true := by
  simp only [matchesClass, Bool.and_eq_true, List.all_eq_true] at matched
  exact matched.2

theorem plain_of_matchesClass {inClass : Char → Bool} {low high : ℕ} {text : String} {separator : Char}
    (matched : matchesClass inClass low high text = true) (outside : inClass separator = false) :
    separator ∉ text.toList := by
  intro inside
  rw [class_of_matchesClass matched separator inside] at outside
  cases outside

theorem colon_of_keyId {keyId : String} (id : isKeyId keyId = true) : ':' ∉ keyId.toList := by
  unfold isKeyId at id
  exact plain_of_matchesClass id (by decide)

theorem dot_of_keyId {keyId : String} (id : isKeyId keyId = true) : '.' ∉ keyId.toList := by
  unfold isKeyId at id
  exact plain_of_matchesClass id (by decide)

theorem colon_of_workspaceId {workspaceId : String} (id : isWorkspaceId workspaceId = true) :
    ':' ∉ workspaceId.toList := by
  unfold isWorkspaceId at id
  exact plain_of_matchesClass id (by decide)

theorem colon_of_hexDigest {digest : String} (hex : isHexDigest digest = true) : ':' ∉ digest.toList := by
  unfold isHexDigest at hex
  exact plain_of_matchesClass hex (by decide)

theorem colon_of_nat (value : ℕ) : ':' ∉ (toString value).toList := by
  rw [Nat.toString_eq_repr, Nat.toList_repr]
  intro inside
  exact absurd (Nat.isDigit_of_mem_toDigits (by decide) (by decide) inside) (by decide)

theorem natText_injective {first second : ℕ} (same : toString first = toString second) : first = second := by
  rw [Nat.toString_eq_repr, Nat.toString_eq_repr] at same
  have lists := congrArg String.toList same
  rw [Nat.toList_repr, Nat.toList_repr] at lists
  rw [← @Nat.ofDigitChars_ten_toDigits first, lists, Nat.ofDigitChars_ten_toDigits]

theorem colon_of_providerText (provider : ProviderName) : ':' ∉ (providerText provider).toList := by
  cases provider <;> decide

theorem providerText_injective : Function.Injective providerText := by
  intro first second same
  cases first <;> cases second
  · rfl
  · exact absurd same (by decide)
  · exact absurd same (by decide)
  · rfl

theorem aadText_eq (context : ProviderCredentialContext) (keyId : String) :
    aadText context keyId = joined (joined (joined ("fuse-provider-credential:v1:" ++ context.organizationId,
      providerText context.provider), toString context.credentialVersion), keyId) := by
  refine String.toList_inj.mp ?_
  unfold aadText joined
  rw [String.toList_intercalate]
  simp only [String.toList_append, List.append_assoc, List.map_cons, List.map_nil, List.intercalate_cons_cons,
    List.intercalate_singleton]
  rfl

/-- **The joined texts tell contexts and keys apart**, whatever the organisation is called. -/
theorem aad_injective {context other : ProviderCredentialContext} {keyId otherId : String}
    (id : isKeyId keyId = true) (alsoId : isKeyId otherId = true) (same : aadText context keyId = aadText other otherId) :
    context = other ∧ keyId = otherId := by
  rw [aadText_eq, aadText_eq] at same
  obtain ⟨same, keys⟩ := joined_back (colon_of_keyId id) (colon_of_keyId alsoId) same
  obtain ⟨same, versions⟩ := joined_back (colon_of_nat _) (colon_of_nat _) same
  obtain ⟨same, providers⟩ := joined_back (colon_of_providerText _) (colon_of_providerText _) same
  have organizations := (String.append_right_inj _).mp same
  obtain ⟨organizationId, provider, credentialVersion⟩ := context
  dsimp only at organizations providers versions
  rw [organizations, providerText_injective providers, natText_injective versions]
  exact ⟨rfl, keys⟩

theorem valid_keyId {context : ProviderCredentialContext} {keyId : String} (valid : context.valid keyId = true) :
    isKeyId keyId = true := by
  unfold ProviderCredentialContext.valid at valid
  exact (Bool.and_eq_true_iff.mp valid).2

theorem recovery_text (workspaceId recoveryCodeHash deliveryId : String) :
    (DeliveryContext.recovery workspaceId recoveryCodeHash deliveryId).text =
      "recovery:" ++ joined (workspaceId, joined (recoveryCodeHash, deliveryId)) := by
  unfold DeliveryContext.text joined
  simp only [String.append_assoc]

/-- **The texts of deliveries** tell admitted contexts apart: only the last part of a recovery may have colons. -/
theorem DeliveryContext.text_injective {context other : DeliveryContext} (admitted : context.IsAdmitted)
    (alsoAdmitted : other.IsAdmitted) (same : context.text = other.text) : context = other := by
  cases context with
  | workspace idempotencyKey =>
    cases other with
    | workspace otherKey => exact congrArg _ ((String.append_right_inj _).mp same)
    | recovery =>
      have first := congrArg (fun text => text.toList.head?) same
      rw [recovery_text] at first
      simp [text] at first
  | recovery workspaceId recoveryCodeHash deliveryId =>
    cases other with
    | workspace otherKey =>
      have first := congrArg (fun text => text.toList.head?) same
      rw [recovery_text] at first
      simp [text] at first
    | recovery otherWorkspace otherHash otherDelivery =>
      rw [recovery_text, recovery_text] at same
      obtain ⟨workspaces, same⟩ := joined_front (colon_of_workspaceId admitted.1) (colon_of_workspaceId alsoAdmitted.1)
        ((String.append_right_inj _).mp same)
      obtain ⟨hashes, deliveries⟩ := joined_front (colon_of_hexDigest admitted.2.1) (colon_of_hexDigest alsoAdmitted.2.1)
        same
      rw [workspaces, hashes, deliveries]

end Texts

/-! ### Envelopes open -/

section Opening

variable [Aes256Gcm] [Replacement] {keyRing opening : KeyRing} {nonce : List UInt8}

/-- What is sealed with a key ring opens in another one under the associated data that it is sealed with only. -/
def IsBound (keyRing opening : KeyRing) (nonce aad plaintext other : List UInt8) : Prop :=
  ∀ key later, keyRing.keys.get keyRing.activeKeyId = some key → opening.keys.get keyRing.activeKeyId = some later →
    (Aes256Gcm.decrypt later nonce other (Aes256Gcm.encrypt key nonce aad plaintext).1
      (Aes256Gcm.encrypt key nonce aad plaintext).2).isSome → other = aad

theorem KeyRing.exists_active (keyRing : KeyRing) : ∃ key, keyRing.keys.get keyRing.activeKeyId = some key ∧
    key.length = 32 ∧ isKeyId keyRing.activeKeyId = true := by
  obtain ⟨key, found⟩ := Option.isSome_iff_exists.mp keyRing.active
  exact ⟨key, found, keyRing.lengths _ key found, keyRing.ids _ key found⟩

/-- **An envelope is read** as it was made. -/
theorem readEnvelope_text {envelope : Envelope} (id : isKeyId envelope.keyId = true) (nonce : envelope.nonce ≠ [])
    (tag : envelope.tag ≠ []) (ciphertext : envelope.ciphertext ≠ []) : readEnvelope envelope.text = some envelope := by
  have pieces : splitText '.' envelope.text = ["v1", envelope.keyId, base64url envelope.nonce, base64url envelope.tag,
      base64url envelope.ciphertext] := by
    refine splitText_join (List.cons_ne_nil _ _) fun text member => ?_
    simp only [List.mem_cons, List.not_mem_nil, or_false] at member
    rcases member with rfl | rfl | rfl | rfl | rfl
    · decide
    · exact dot_of_keyId id
    · exact base64url_plain _
    · exact base64url_plain _
    · exact base64url_plain _
  have named : envelope.keyId ≠ "" := by
    intro empty
    rw [empty] at id
    exact absurd id (by decide)
  unfold readEnvelope
  rw [pieces]
  dsimp only
  rw [if_neg (by
      rw [base64url_eq_empty, base64url_eq_empty, base64url_eq_empty]
      simp [named, nonce, tag, ciphertext]),
    ofBase64url_base64url, ofBase64url_base64url, ofBase64url_base64url]

/-- The envelope that is made of a plaintext. -/
def envelopeOf (keyId : String) (key nonce aad plaintext : List UInt8) : Envelope :=
  ⟨keyId, nonce, (Aes256Gcm.encrypt key nonce aad plaintext).2, (Aes256Gcm.encrypt key nonce aad plaintext).1⟩

theorem readEnvelope_envelopeOf {keyId : String} {key aad plaintext : List UInt8} (id : isKeyId keyId = true)
    (length : nonce.length = 12) (filled : plaintext ≠ []) :
    readEnvelope (envelopeOf keyId key nonce aad plaintext).text = some (envelopeOf keyId key nonce aad plaintext) := by
  have tag := Aes256Gcm.length_tag key nonce aad plaintext
  have ciphertext := Aes256Gcm.length_ciphertext key nonce aad plaintext
  refine readEnvelope_text id (fun empty => ?_) (fun empty => ?_) fun empty => ?_
  · rw [show nonce = [] from empty] at length
    cases length
  · rw [show (Aes256Gcm.encrypt key nonce aad plaintext).2 = [] from empty] at tag
    cases tag
  · rw [show (Aes256Gcm.encrypt key nonce aad plaintext).1 = [] from empty] at ciphertext
    exact filled (List.eq_nil_of_length_eq_zero ciphertext.symm)

section Credentials

variable {secret : String} {context other : ProviderCredentialContext} {key later : List UInt8}

theorem encryptProviderSecret_ok (filled : isBlank secret = false) (valid : context.valid keyRing.activeKeyId = true)
    (length : nonce.length = 12) (found : keyRing.keys.get keyRing.activeKeyId = some key) :
    encryptProviderSecret secret keyRing context nonce = .ok (envelopeOf keyRing.activeKeyId key nonce
      (utf8 (aadText context keyRing.activeKeyId)) (utf8 secret)).text := by
  have size := keyRing.lengths _ key found
  unfold encryptProviderSecret aad
  rw [filled, found]
  dsimp only
  rw [valid]
  simp only [size, length, ne_eq, not_true_eq_false, if_false, if_true, Bool.false_eq_true]
  rfl

/-- What opens an envelope. -/
theorem decryptProviderSecret_eq (id : isKeyId keyRing.activeKeyId = true) (length : nonce.length = 12)
    (filled : utf8 secret ≠ []) (found : opening.keys.get keyRing.activeKeyId = some later) {bound : List UInt8} :
    decryptProviderSecret (envelopeOf keyRing.activeKeyId key nonce bound (utf8 secret)).text opening other =
      if other.valid keyRing.activeKeyId then
        match Aes256Gcm.decrypt later nonce (utf8 (aadText other keyRing.activeKeyId))
          (Aes256Gcm.encrypt key nonce bound (utf8 secret)).1 (Aes256Gcm.encrypt key nonce bound (utf8 secret)).2 with
        | some plaintext => .ok (ofUtf8 plaintext)
        | none => .error "PROVIDER_CREDENTIAL_DECRYPT_FAILED"
      else .error "PROVIDER_CREDENTIAL_DECRYPT_FAILED" := by
  have size := opening.lengths _ later found
  have tag := Aes256Gcm.length_tag key nonce bound (utf8 secret)
  have ciphertext := Aes256Gcm.length_ciphertext key nonce bound (utf8 secret)
  have shown : (utf8 secret).length ≠ 0 := fun zero => filled (List.eq_nil_of_length_eq_zero zero)
  unfold decryptProviderSecret openProviderSecret aad
  rw [readEnvelope_envelopeOf id length filled]
  unfold envelopeOf
  simp only [Option.bind_eq_bind, Option.bind_some, found, size, length, tag, ciphertext, guard, shown, ne_eq,
    not_false_eq_true, and_self, if_true]
  cases other.valid keyRing.activeKeyId with
  | false => rfl
  | true =>
    show (match (Aes256Gcm.decrypt _ _ _ _ _).bind fun plaintext => some (ofUtf8 plaintext) with
      | some secret => Except.ok secret
      | none => .error "PROVIDER_CREDENTIAL_DECRYPT_FAILED") = _
    rw [if_pos rfl]
    cases Aes256Gcm.decrypt later nonce (utf8 (aadText other keyRing.activeKeyId))
      (Aes256Gcm.encrypt key nonce bound (utf8 secret)).1 (Aes256Gcm.encrypt key nonce bound (utf8 secret)).2 <;> rfl

theorem utf8_of_filled (filled : isBlank secret = false) : utf8 secret ≠ [] := by
  intro empty
  rw [utf8_eq_nil.mp empty] at filled
  exact absurd filled (by decide)

/-- **A credential** is sealed, opens in every ring that has its key, and opens in no other context. -/
theorem credential_sealed (filled : isBlank secret = false) (valid : context.valid keyRing.activeKeyId = true)
    (length : nonce.length = 12) : ∃ envelope, encryptProviderSecret secret keyRing context nonce = .ok envelope ∧
      (∀ later : KeyRing, later.keys.get keyRing.activeKeyId = keyRing.keys.get keyRing.activeKeyId →
        decryptProviderSecret envelope later context = .ok secret) ∧
      ∀ (other : ProviderCredentialContext) (opening : KeyRing), IsBound keyRing opening nonce
        (utf8 (aadText context keyRing.activeKeyId)) (utf8 secret) (utf8 (aadText other keyRing.activeKeyId)) →
        ∀ opened, decryptProviderSecret envelope opening other = .ok opened → other = context := by
  obtain ⟨key, found, size, id⟩ := keyRing.exists_active
  have bytes := utf8_of_filled filled
  refine ⟨_, encryptProviderSecret_ok filled valid length found, fun later same => ?_,
    fun other opening bound opened returned => ?_⟩
  · rw [decryptProviderSecret_eq id length bytes (same.trans found), valid, if_pos rfl,
      Aes256Gcm.decrypt_encrypt _ _ size length]
    exact congrArg Except.ok (ofUtf8_utf8 secret)
  · cases kept : opening.keys.get keyRing.activeKeyId with
    | none =>
      unfold decryptProviderSecret openProviderSecret at returned
      rw [readEnvelope_envelopeOf id length bytes] at returned
      unfold envelopeOf at returned
      simp only [Option.bind_eq_bind, Option.bind_some, kept, Option.bind_none] at returned
      cases returned
    | some later =>
      rw [decryptProviderSecret_eq id length bytes kept] at returned
      split at returned
      · next valid' =>
        split at returned
        · next plaintext decrypted =>
          have same := bound key later found kept (by rw [decrypted]; rfl)
          exact (aad_injective id id (utf8_injective same)).1
        · cases returned
      · cases returned

end Credentials

section Deliveries

variable {value : Json} {context other : String} {key later : List UInt8}

theorem stringify_ne_empty (value : Json) : utf8 value.stringify ≠ [] := by
  intro empty
  obtain ⟨character, rest, shape, _⟩ := Json.stringify_head value
  rw [utf8_eq_nil.mp empty] at shape
  cases shape

theorem sealSecretDelivery_ok (found : keyRing.keys.get keyRing.activeKeyId = some key) :
    sealSecretDelivery value keyRing context nonce =
      .ok (envelopeOf keyRing.activeKeyId key nonce (utf8 context) (utf8 value.stringify)).text := by
  have size := keyRing.lengths _ key found
  unfold sealSecretDelivery
  rw [found]
  dsimp only
  rw [if_neg (not_not_intro size)]
  rfl

theorem openSecretDelivery_eq (id : isKeyId keyRing.activeKeyId = true) (length : nonce.length = 12)
    (found : opening.keys.get keyRing.activeKeyId = some later) {bound : List UInt8} :
    openSecretDelivery (envelopeOf keyRing.activeKeyId key nonce bound (utf8 value.stringify)).text opening other =
      match (Aes256Gcm.decrypt later nonce (utf8 other) (Aes256Gcm.encrypt key nonce bound (utf8 value.stringify)).1
        (Aes256Gcm.encrypt key nonce bound (utf8 value.stringify)).2).bind (Json.parse ∘ ofUtf8) with
      | some opened => .ok opened
      | none => .error "SECRET_DELIVERY_DECRYPT_FAILED" := by
  have size := opening.lengths _ later found
  unfold openSecretDelivery
  rw [readEnvelope_envelopeOf id length (stringify_ne_empty value)]
  unfold envelopeOf
  simp only [Option.bind_eq_bind, Option.bind_some, found, size, guard, if_true]
  rfl

/-- **A delivery** is sealed, opens in every ring that has its key, and opens in no other admitted context. -/
theorem delivery_sealed {context : DeliveryContext} (admitted : context.IsAdmitted) (length : nonce.length = 12) :
    ∃ envelope, sealSecretDelivery value keyRing context.text nonce = .ok envelope ∧
      (∀ later : KeyRing, later.keys.get keyRing.activeKeyId = keyRing.keys.get keyRing.activeKeyId →
        openSecretDelivery envelope later context.text = .ok value) ∧
      ∀ (other : DeliveryContext) (opening : KeyRing), other.IsAdmitted → IsBound keyRing opening nonce
        (utf8 context.text) (utf8 value.stringify) (utf8 other.text) →
        ∀ opened, openSecretDelivery envelope opening other.text = .ok opened → other = context := by
  obtain ⟨key, found, size, id⟩ := keyRing.exists_active
  refine ⟨_, sealSecretDelivery_ok found, fun later same => ?_,
    fun other opening alsoAdmitted bound opened returned => ?_⟩
  · rw [openSecretDelivery_eq id length (same.trans found), Aes256Gcm.decrypt_encrypt _ _ size length, Option.bind_some,
      Function.comp_apply, ofUtf8_utf8, Json.parse_stringify]
  · cases kept : opening.keys.get keyRing.activeKeyId with
    | none =>
      unfold openSecretDelivery at returned
      rw [readEnvelope_envelopeOf id length (stringify_ne_empty value)] at returned
      unfold envelopeOf at returned
      simp only [Option.bind_eq_bind, kept, Option.bind_none] at returned
      cases returned
    | some later =>
      rw [openSecretDelivery_eq id length kept] at returned
      cases decrypted : Aes256Gcm.decrypt later nonce (utf8 other.text)
        (Aes256Gcm.encrypt key nonce (utf8 context.text) (utf8 value.stringify)).1
        (Aes256Gcm.encrypt key nonce (utf8 context.text) (utf8 value.stringify)).2 with
      | none =>
        rw [decrypted] at returned
        cases returned
      | some plaintext =>
        have same := bound key later found kept (by rw [decrypted]; rfl)
        exact DeliveryContext.text_injective alsoAdmitted admitted (utf8_injective same)

end Deliveries

end Opening

/-! ### Sealed secrets -/

/-- **Sealed secrets are bound to their context.** An envelope opens to the same secret in every later key ring that
has its key, whichever is active; and, with a cipher that binds the associated data, in no other context. -/
theorem sealed_secrets [Aes256Gcm] [Replacement] :
    (∀ (keyRing : KeyRing) (secret : String) (context : ProviderCredentialContext) (nonce : List UInt8),
      isBlank secret = false → context.valid keyRing.activeKeyId = true → nonce.length = 12 →
      ∃ envelope, encryptProviderSecret secret keyRing context nonce = .ok envelope ∧
        (∀ later : KeyRing, later.keys.get keyRing.activeKeyId = keyRing.keys.get keyRing.activeKeyId →
          decryptProviderSecret envelope later context = .ok secret) ∧
        ∀ (other : ProviderCredentialContext) (opening : KeyRing), IsBound keyRing opening nonce
          (utf8 (aadText context keyRing.activeKeyId)) (utf8 secret) (utf8 (aadText other keyRing.activeKeyId)) →
          ∀ opened, decryptProviderSecret envelope opening other = .ok opened → other = context) ∧
    (∀ (keyRing : KeyRing) (value : Json) (context : DeliveryContext) (nonce : List UInt8),
      context.IsAdmitted → nonce.length = 12 →
      ∃ envelope, sealSecretDelivery value keyRing context.text nonce = .ok envelope ∧
        (∀ later : KeyRing, later.keys.get keyRing.activeKeyId = keyRing.keys.get keyRing.activeKeyId →
          openSecretDelivery envelope later context.text = .ok value) ∧
        ∀ (other : DeliveryContext) (opening : KeyRing), other.IsAdmitted → IsBound keyRing opening nonce
          (utf8 context.text) (utf8 value.stringify) (utf8 other.text) →
          ∀ opened, openSecretDelivery envelope opening other.text = .ok opened → other = context) ∧
    (∀ (context other : ProviderCredentialContext) (keyId otherId : String), context.valid keyId = true →
      other.valid otherId = true → aadText context keyId = aadText other otherId → context = other) ∧
    ∀ context other : DeliveryContext, context.IsAdmitted → other.IsAdmitted → context.text = other.text →
      context = other :=
  ⟨fun _ _ _ _ filled valid length => credential_sealed filled valid length,
    fun _ _ _ _ admitted length => delivery_sealed admitted length,
    fun _ _ _ _ valid alsoValid same => (aad_injective (valid_keyId valid) (valid_keyId alsoValid) same).1,
    fun _ _ admitted alsoAdmitted same => DeliveryContext.text_injective admitted alsoAdmitted same⟩

/-! ### An example -/

namespace Sample

def sealingKey : List UInt8 := List.replicate 32 7

def sealingNonce : List UInt8 := List.replicate 12 1

/-- Two results of the cipher under the key and the nonce. -/
structure SealedText where
  aad : List UInt8
  plaintext : List UInt8
  ciphertext : List UInt8
  tag : List UInt8

def credentialText : SealedText where
  aad := utf8 "fuse-provider-credential:v1:acme:openrouter:1:primary"
  plaintext := utf8 "sk-or-v1"
  ciphertext := [5, 138, 164, 216, 226, 146, 154, 63]
  tag := [77, 66, 251, 191, 113, 141, 214, 180, 194, 103, 82, 83, 9, 135, 131, 167]

def deliveryText : SealedText where
  aad := utf8 "workspace:onboarding-1"
  plaintext := utf8 "\"fuse_sk_1\""
  ciphertext := [84, 135, 252, 196, 245, 224, 159, 101, 142, 229, 254]
  tag := [80, 109, 25, 161, 81, 246, 188, 155, 233, 11, 138, 173, 203, 5, 25, 79]

def zeroTag : List UInt8 := List.replicate 16 0

/-- The text that was sealed, if it is one of the two. -/
def sealedTextOf (key nonce aad : List UInt8) (isText : SealedText → Bool) : Option SealedText :=
  if key = sealingKey ∧ nonce = sealingNonce then
    [credentialText, deliveryText].find? fun text => text.aad = aad && isText text
  else none

theorem of_sealedTextOf {key nonce aad : List UInt8} {isText : SealedText → Bool} {text : SealedText}
    (found : sealedTextOf key nonce aad isText = some text) : isText text = true ∧ text.aad = aad ∧
      (text = credentialText ∨ text = deliveryText) ∧ key = sealingKey ∧ nonce = sealingNonce := by
  unfold sealedTextOf at found
  split at found
  · next keyed =>
    have own := List.find?_some found
    have member := List.mem_of_find?_eq_some found
    rw [Bool.and_eq_true, decide_eq_true_iff] at own
    simp only [List.mem_cons, List.not_mem_nil, or_false] at member
    exact ⟨own.2, own.1, member, keyed⟩
  · cases found

def encryptSample (key nonce aad plaintext : List UInt8) : List UInt8 × List UInt8 :=
  match sealedTextOf key nonce aad fun text => text.plaintext = plaintext with
  | some text => (text.ciphertext, text.tag)
  | none => (plaintext, zeroTag)

def decryptSample (key nonce aad ciphertext tag : List UInt8) : Option (List UInt8) :=
  match sealedTextOf key nonce aad fun text => text.ciphertext = ciphertext && text.tag = tag with
  | some text => some text.plaintext
  | none => if tag = zeroTag then some ciphertext else none

@[reducible] def aes : Aes256Gcm where
  encrypt := encryptSample
  decrypt := decryptSample
  decrypt_encrypt := by
    intro key nonce aad plaintext _ _
    unfold encryptSample
    split
    · next text found =>
      obtain ⟨same, rfl, rfl | rfl, rfl, rfl⟩ := of_sealedTextOf found
      · exact (by decide +kernel : decryptSample _ _ _ _ _ = some credentialText.plaintext).trans
          (congrArg some (of_decide_eq_true same))
      · exact (by decide +kernel : decryptSample _ _ _ _ _ = some deliveryText.plaintext).trans
          (congrArg some (of_decide_eq_true same))
    · unfold decryptSample
      split
      · next text found =>
        obtain ⟨same, -, rfl | rfl, -, -⟩ := of_sealedTextOf found
        · exact absurd (of_decide_eq_true (Bool.and_eq_true_iff.mp same).2) (by decide : credentialText.tag ≠ zeroTag)
        · exact absurd (of_decide_eq_true (Bool.and_eq_true_iff.mp same).2) (by decide : deliveryText.tag ≠ zeroTag)
      · exact if_pos rfl
  length_ciphertext := by
    intro key nonce aad plaintext
    unfold encryptSample
    split
    · next text found =>
      obtain ⟨same, -, rfl | rfl, -, -⟩ := of_sealedTextOf found
      · rw [← of_decide_eq_true same]
        decide +kernel
      · rw [← of_decide_eq_true same]
        decide +kernel
    · rfl
  length_tag := by
    intro key nonce aad plaintext
    unfold encryptSample
    split
    · next text found =>
      obtain ⟨-, -, rfl | rfl, -, -⟩ := of_sealedTextOf found <;> rfl
    · rfl

@[reducible] def replacement : Replacement := ⟨fun _ => "\uFFFD"⟩

def sealingKeys : FoundKeys := FoundKeys.none.set "primary" sealingKey (by decide) (by decide)

def sealingRing : KeyRing := ⟨"primary", sealingKeys.keys, sealingKeys.ids, sealingKeys.lengths, by decide⟩

def rotatedKeys : FoundKeys := sealingKeys.set "rotated" (List.replicate 32 9) (by decide) (by decide)

def rotatedRing : KeyRing := ⟨"rotated", rotatedKeys.keys, rotatedKeys.ids, rotatedKeys.lengths, by decide⟩

def acme : ProviderCredentialContext := ⟨"acme", .openrouter, 1⟩

def acmeTwo : ProviderCredentialContext := ⟨"acme", .openrouter, 2⟩

end Sample

theorem sealed_secrets_rotated : letI := Sample.aes
    letI := Sample.replacement
    (∃ envelope, encryptProviderSecret "sk-or-v1" Sample.sealingRing Sample.acme Sample.sealingNonce = .ok envelope ∧
      decryptProviderSecret envelope Sample.rotatedRing Sample.acme = .ok "sk-or-v1" ∧
      ∀ opened, decryptProviderSecret envelope Sample.rotatedRing Sample.acmeTwo ≠ .ok opened) ∧
    ∃ envelope, sealSecretDelivery (.string "fuse_sk_1") Sample.sealingRing
        (DeliveryContext.workspace "onboarding-1").text Sample.sealingNonce = .ok envelope ∧
      openSecretDelivery envelope Sample.rotatedRing (DeliveryContext.workspace "onboarding-1").text =
        .ok (.string "fuse_sk_1") ∧
      ∀ opened, openSecretDelivery envelope Sample.rotatedRing (DeliveryContext.workspace "onboarding-2").text ≠
        .ok opened := by
  let _ := Sample.aes
  let _ := Sample.replacement
  obtain ⟨credential, credentialSealed, credentialOpens, credentialBound⟩ := sealed_secrets.1 Sample.sealingRing "sk-or-v1"
    Sample.acme Sample.sealingNonce (by decide) (by decide) (by decide)
  obtain ⟨delivery, deliverySealed, deliveryOpens, deliveryBound⟩ := sealed_secrets.2.1 Sample.sealingRing
    (.string "fuse_sk_1") (.workspace "onboarding-1") Sample.sealingNonce trivial (by decide)
  have keys : Sample.rotatedRing.keys.get "primary" = Sample.sealingRing.keys.get "primary" := by decide
  refine ⟨⟨credential, credentialSealed, credentialOpens _ keys, fun opened returned => ?_⟩,
    ⟨delivery, deliverySealed, deliveryOpens _ keys, fun opened returned => ?_⟩⟩
  · have bound : IsBound Sample.sealingRing Sample.rotatedRing Sample.sealingNonce
        (utf8 (aadText Sample.acme "primary")) (utf8 "sk-or-v1") (utf8 (aadText Sample.acmeTwo "primary")) := by
      intro key later found kept opens
      cases found
      cases kept
      exact absurd opens (by decide +kernel)
    exact absurd (credentialBound Sample.acmeTwo Sample.rotatedRing bound opened returned) (by decide)
  · have bound : IsBound Sample.sealingRing Sample.rotatedRing Sample.sealingNonce
        (utf8 (DeliveryContext.workspace "onboarding-1").text) (utf8 (Json.string "fuse_sk_1").stringify)
        (utf8 (DeliveryContext.workspace "onboarding-2").text) := by
      intro key later found kept opens
      cases found
      cases kept
      exact absurd opens (by decide +kernel)
    exact absurd (deliveryBound (.workspace "onboarding-2") Sample.rotatedRing trivial bound opened returned) (by decide)

end FuseControlPlane.Providers.Sealed
