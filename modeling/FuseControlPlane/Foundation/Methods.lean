/-
Methods of an object that write its fields and may throw.

* `Method σ α`: what a method has written when it throws stays written.
* `check`, `fromExcept`, `onPart`: a condition, a function, and a method of a part of the object.
* `Decides`: a method writes if a condition holds, and throws before it writes otherwise.
* `bind_ok`, `bind_error`, `check_bind`, `onPart_ok` ..: what a method comes to, one step after the other.
* `Ensures post method object`: what a call returns or throws, and the object it leaves, meet `post`.
-/

import Mathlib.Tactic.Common

namespace Foundation

/-- A method of an object with fields `σ`. -/
abbrev Method (σ α : Type) := EStateM String σ α

namespace Method

variable {σ τ α β : Type}

/-- `if (!condition) throw new Error(error)`. -/
def check (condition : Bool) (error : String) : Method σ Unit :=
  if condition then pure () else throw error

/-- A function that may throw. -/
def fromExcept (result : Except String α) : Method σ α :=
  match result with
  | .ok value => pure value
  | .error error => throw error

/-- A method of a part of an object. -/
def onPart (part : σ → τ) (withPart : σ → τ → σ) (method : Method τ α) : Method σ α := fun object =>
  match method (part object) with
  | .ok value after => .ok value (withPart object after)
  | .error error after => .error error (withPart object after)

/-- The object that a call leaves, whether it returns or throws. -/
def left : EStateM.Result String σ α → σ
  | .ok _ after => after
  | .error _ after => after

/-- What a call returns. -/
def value? : EStateM.Result String σ α → Option α
  | .ok value _ => some value
  | .error _ _ => none

variable {object after : σ} {method : Method σ α} {next : α → Method σ β} {error : String}

theorem get_bind (next : σ → Method σ β) (object : σ) : (get >>= next) object = next object object := rfl

theorem modify_bind (change : σ → σ) (next : PUnit → Method σ β) (object : σ) :
    (modify change >>= next) object = next () (change object) := rfl

theorem bind_ok {value : α} (returned : method object = .ok value after) :
    (method >>= next) object = next value after := by
  show EStateM.bind method next object = _
  unfold EStateM.bind
  rw [returned]

theorem bind_error (thrown : method object = .error error after) :
    (method >>= next) object = .error error after := by
  show EStateM.bind method next object = _
  unfold EStateM.bind
  rw [thrown]

theorem check_bind (condition : Bool) (error : String) (next : Unit → Method σ β) (object : σ) :
    (check condition error >>= next) object =
      if condition then next () object else .error error object := by
  cases condition <;> rfl

theorem fromExcept_bind (result : Except String α) (next : α → Method σ β) (object : σ) :
    (fromExcept result >>= next) object =
      match result with
      | .ok value => next value object
      | .error error => .error error object := by
  cases result <;> rfl

section Parts

variable {part : σ → τ} {withPart : σ → τ → σ} {inner : Method τ α} {rest : τ}

theorem onPart_ok {value : α} (returned : inner (part object) = .ok value rest) :
    onPart part withPart inner object = .ok value (withPart object rest) := by
  unfold onPart
  rw [returned]

theorem onPart_error (thrown : inner (part object) = .error error rest) :
    onPart part withPart inner object = .error error (withPart object rest) := by
  unfold onPart
  rw [thrown]

end Parts

theorem discard_ok {value : α} (returned : method object = .ok value after) :
    (discard method : Method σ Unit) object = .ok () after := by
  show EStateM.map _ method object = _
  unfold EStateM.map
  rw [returned]

theorem discard_error (thrown : method object = .error error after) :
    (discard method : Method σ Unit) object = .error error after := by
  show EStateM.map _ method object = _
  unfold EStateM.map
  rw [thrown]

/-! ### What a call ensures -/

/-- What a call returns or throws. -/
def outcome : EStateM.Result String σ α → Except String α
  | .ok value _ => .ok value
  | .error error _ => .error error

/-- What the call returns or throws and the object that it leaves meet `post`. -/
def Ensures (post : Except String α → σ → Prop) (method : Method σ α) (object : σ) : Prop :=
  post (outcome (method object)) (left (method object))

namespace Ensures

variable {post : Except String β → σ → Prop}

/-- One call after the other. -/
theorem bind (first : Ensures (fun result middle => match result with
    | .ok value => Ensures post (next value) middle
    | .error error => post (.error error) middle) method object) : Ensures post (method >>= next) object := by
  unfold Ensures
  cases called : method object with
  | ok value middle =>
    rw [Ensures, called] at first
    rw [bind_ok called]
    exact first
  | error error middle =>
    rw [Ensures, called] at first
    rw [bind_error called]
    exact first

theorem mono {stronger : Except String β → σ → Prop} {method : Method σ β} (ensured : Ensures stronger method object)
    (weaken : ∀ result after, stronger result after → post result after) : Ensures post method object :=
  weaken _ _ ensured

theorem get {next : σ → Method σ β} (rest : Ensures post (next object) object) :
    Ensures post (MonadState.get >>= next) object := rest

theorem modify {change : σ → σ} {next : PUnit → Method σ β} (rest : Ensures post (next ()) (change object)) :
    Ensures post (modify change >>= next) object := rest

theorem check {condition : Bool} {next : Unit → Method σ β} (thrown : condition = false → post (.error error) object)
    (passed : condition = true → Ensures post (next ()) object) :
    Ensures post (Method.check condition error >>= next) object := by
  cases condition with
  | true => exact passed rfl
  | false => exact thrown rfl

theorem fromExcept {result : Except String α} (thrown : ∀ error, result = .error error → post (.error error) object)
    (passed : ∀ value, result = .ok value → Ensures post (next value) object) :
    Ensures post (Method.fromExcept result >>= next) object := by
  cases result with
  | ok value => exact passed value rfl
  | error error => exact thrown error rfl

end Ensures

/-! ### Methods that check before they write -/

/-- The method leaves `after` if the condition holds, and throws and leaves the object otherwise. -/
def Decides (condition : Prop) (method : Method σ Unit) (object after : σ) : Prop :=
  (condition ∧ method object = .ok () after) ∨
    ¬ condition ∧ ∃ error, method object = .error error object

namespace Decides

variable {condition : Prop} {next : Unit → Method σ Unit}

theorem check {test : Bool} (rest : Decides condition (next ()) object after) :
    Decides (test = true ∧ condition) (Method.check test error >>= next) object after := by
  unfold Decides
  rw [check_bind]
  cases test with
  | true => simpa [Decides] using rest
  | false => exact .inr ⟨(fun both => nomatch both.1), error, rfl⟩

theorem fromExcept {result : Except String Unit} (rest : Decides condition (next ()) object after) :
    Decides (result = .ok () ∧ condition) (Method.fromExcept result >>= next) object after := by
  unfold Decides
  rw [fromExcept_bind]
  cases result with
  | ok value => simpa [Decides] using rest
  | error error => exact .inr ⟨(fun both => nomatch both.1), error, rfl⟩

theorem get {next : σ → Method σ Unit} (rest : Decides condition (next object) object after) :
    Decides condition (MonadState.get >>= next) object after := rest

theorem writes {method : Method σ Unit} (written : method object = .ok () after) :
    Decides True method object after := .inl ⟨trivial, written⟩

theorem congr {other : Prop} {method : Method σ Unit} (decides : Decides condition method object after)
    (same : condition ↔ other) : Decides other method object after := by
  unfold Decides
  rw [← same]
  exact decides

end Decides

end Method

/-- A check of every element passes. -/
theorem forM_eq_ok {ε α : Type} {body : α → Except ε Unit} {elements : List α} :
    elements.forM body = .ok () ↔ ∀ element ∈ elements, body element = .ok () := by
  induction elements with
  | nil => exact ⟨fun _ _ member => absurd member List.not_mem_nil, fun _ => rfl⟩
  | cons element rest ih =>
    show (body element >>= fun _ => rest.forM body) = .ok () ↔ _
    rw [List.forall_mem_cons, ← ih]
    cases body element with
    | error error => exact ⟨nofun, fun both => nomatch both.1⟩
    | ok value => exact ⟨fun passed => ⟨rfl, passed⟩, fun both => both.2⟩

end Foundation
