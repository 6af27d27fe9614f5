/-
Stores whose contents are copied, worked on, and written back whole.

* `CopyStore`: what reading and writing a store come to.
* `Running`, `writeBackStep`: calls that overlap. A call works on its own copy, and a call that fails writes
  nothing back.
* `oneAfterAnother`, `outcomes`: the same calls one after another.
* `serializable_run`: if **no call writes over what another call has written since it read**, what the calls
  have returned and the contents they leave are those of some order.
* `undisturbed_successive`: calls that do not overlap do not.
* `outcomes_kept`: what an operation reports stays true if the operations after it keep it.
-/

import FuseControlPlane.Foundation.Runs

set_option linter.unusedSectionVars false

namespace Foundation

/-- A store `ς` with contents `σ`. The first read may set the contents. -/
structure CopyStore (ς σ : Type) where
  read : ς → ς × σ
  write : ς → σ → ς
  read_read : ∀ store, (read (read store).1).2 = (read store).2
  read_write : ∀ store contents, (read (write store contents)).2 = contents

namespace WriteBack

variable {ς σ κ ε τ : Type} (store : CopyStore ς σ) (operate : κ → σ → Except ε (σ × τ))

/-! ### Calls that overlap -/

/-- A store, the calls in flight with their copies, and what the others have returned. -/
structure Running (ς σ κ ε τ : Type) where
  kept : ς
  reading : List (κ × σ)
  returned : List (κ × Except ε τ)

inductive Event (κ : Type)
  | begins (call : κ)
  | completes (index : ℕ)

/-- A store without calls in flight. -/
def start (kept : ς) : Running ς σ κ ε τ := ⟨kept, [], []⟩

namespace Running

/-- A call in flight comes to an end. -/
def complete (run : Running ς σ κ ε τ) (index : ℕ) (call : κ) (copy : σ) : Running ς σ κ ε τ :=
  match operate call copy with
  | .ok (contents, result) =>
    { kept := store.write run.kept contents
      reading := run.reading.eraseIdx index
      returned := run.returned ++ [(call, .ok result)] }
  | .error error =>
    { run with
      reading := run.reading.eraseIdx index
      returned := run.returned ++ [(call, .error error)] }

def writeBackStep (run : Running ς σ κ ε τ) : Event κ → Running ς σ κ ε τ
  | .begins call =>
    { run with
      kept := (store.read run.kept).1
      reading := run.reading ++ [(call, (store.read run.kept).2)] }
  | .completes index =>
    match run.reading[index]? with
    | none => run
    | some (call, copy) => run.complete store operate index call copy

/-- A call that writes back has read what is still there. -/
def Undisturbed (run : Running ς σ κ ε τ) : Event κ → Prop
  | .begins _ => True
  | .completes index => ∀ call copy written, run.reading[index]? = some (call, copy) →
      operate call copy = .ok written → (store.read run.kept).2 = copy

end Running

/-! ### One call after another -/

/-- The contents that a call leaves. -/
def leaves (contents : σ) (call : κ) : σ :=
  match operate call contents with
  | .ok (after, _) => after
  | .error _ => contents

/-- What a call returns. -/
def outcome (contents : σ) (call : κ) : Except ε τ := (operate call contents).map Prod.snd

/-- The contents that calls leave one after another. -/
def oneAfterAnother (contents : σ) (calls : List κ) : σ := run (leaves operate) contents calls

/-- What calls return one after another. -/
def outcomes : σ → List κ → List (κ × Except ε τ)
  | _, [] => []
  | contents, call :: calls =>
    (call, outcome operate contents call) :: outcomes (leaves operate contents call) calls

/-- What has been returned and the contents that are left are those of the calls in some order. -/
def Serializable (contents : σ) (run : Running ς σ κ ε τ) : Prop :=
  ∃ order : List κ, (outcomes operate contents order).Perm run.returned ∧
    oneAfterAnother operate contents order = (store.read run.kept).2

section Rules

variable {store operate} {contents : σ} {run : Running ς σ κ ε τ}

theorem leaves_ok {call : κ} {after : σ} {result : τ} (returned : operate call contents = .ok (after, result)) :
    leaves operate contents call = after := by
  unfold leaves
  rw [returned]

theorem leaves_error {call : κ} {error : ε} (thrown : operate call contents = .error error) :
    leaves operate contents call = contents := by
  unfold leaves
  rw [thrown]

theorem oneAfterAnother_append (contents : σ) (first second : List κ) :
    oneAfterAnother operate contents (first ++ second) =
      oneAfterAnother operate (oneAfterAnother operate contents first) second :=
  run_append ..

theorem oneAfterAnother_cons (contents : σ) (call : κ) (calls : List κ) :
    oneAfterAnother operate contents (call :: calls) =
      oneAfterAnother operate (leaves operate contents call) calls := rfl

theorem outcomes_append (contents : σ) (first second : List κ) :
    outcomes operate contents (first ++ second) =
      outcomes operate contents first ++ outcomes operate (oneAfterAnother operate contents first) second := by
  induction first generalizing contents with
  | nil => rfl
  | cons call first ih =>
    show _ :: outcomes operate _ (first ++ second) = _
    rw [ih]
    rfl

/-! ### An order for the calls -/

/-- The contents have been these at some point of an order. -/
def Passes (operate : κ → σ → Except ε (σ × τ)) (contents : σ) (order : List κ) (copy : σ) : Prop :=
  ∃ earlier later, order = earlier ++ later ∧ oneAfterAnother operate contents earlier = copy

theorem Passes.append {order : List κ} {copy : σ} (passes : Passes operate contents order copy)
    (more : List κ) : Passes operate contents (order ++ more) copy := by
  obtain ⟨earlier, later, rfl, there⟩ := passes
  exact ⟨earlier, later ++ more, List.append_assoc .., there⟩

/-- A call that leaves the contents as they are may stand anywhere. -/
theorem Passes.insert {earlier later : List κ} {copy : σ} {call : κ}
    (passes : Passes operate contents (earlier ++ later) copy)
    (idle : leaves operate (oneAfterAnother operate contents earlier) call =
      oneAfterAnother operate contents earlier) :
    Passes operate contents (earlier ++ call :: later) copy := by
  obtain ⟨before, after, split, there⟩ := passes
  rcases List.append_eq_append_iff.mp split with ⟨middle, rfl, rfl⟩ | ⟨middle, rfl, rfl⟩
  · refine ⟨earlier ++ call :: middle, after, by simp, ?_⟩
    rw [oneAfterAnother_append, oneAfterAnother_cons, idle, ← oneAfterAnother_append]
    exact there
  · exact ⟨before, middle ++ call :: later, by simp, there⟩

/-- An order of the calls that have returned, in which every copy in flight has its place. -/
structure Ordered (store : CopyStore ς σ) (operate : κ → σ → Except ε (σ × τ)) (contents : σ)
    (run : Running ς σ κ ε τ) (order : List κ) : Prop where
  returned : (outcomes operate contents order).Perm run.returned
  kept : oneAfterAnother operate contents order = (store.read run.kept).2
  copies : ∀ reading ∈ run.reading, Passes operate contents order reading.2

/-- The calls that have returned have an order. -/
def HasOrder (store : CopyStore ς σ) (operate : κ → σ → Except ε (σ × τ)) (contents : σ)
    (run : Running ς σ κ ε τ) : Prop := ∃ order, Ordered store operate contents run order

theorem ordered_begins {order : List κ} (ordered : Ordered store operate contents run order) (call : κ) :
    Ordered store operate contents (run.writeBackStep store operate (.begins call)) order := by
  refine ⟨ordered.returned, ordered.kept.trans (store.read_read run.kept).symm, fun reading member => ?_⟩
  rcases List.mem_append.mp member with earlier | last
  · exact ordered.copies reading earlier
  · rw [List.mem_singleton.mp last]
    exact ⟨order, [], (List.append_nil order).symm, ordered.kept⟩

/-- A call that writes back comes last. -/
theorem ordered_writes {order : List κ} (ordered : Ordered store operate contents run order) {index : ℕ}
    {call : κ} {copy after : σ} {result : τ} (current : (store.read run.kept).2 = copy)
    (returned : operate call copy = .ok (after, result)) :
    Ordered store operate contents (run.complete store operate index call copy) (order ++ [call]) := by
  have last : oneAfterAnother operate contents order = copy := ordered.kept.trans current
  unfold Running.complete
  rw [returned]
  refine ⟨?_, ?_, fun reading member => ?_⟩
  · rw [outcomes_append, last]
    refine ordered.returned.append (List.Perm.of_eq ?_)
    show [(call, outcome operate copy call)] = _
    unfold outcome
    rw [returned]
    rfl
  · rw [oneAfterAnother_append, last]
    exact (leaves_ok returned).trans (store.read_write run.kept after).symm
  · exact (ordered.copies reading (List.mem_of_mem_eraseIdx member)).append [call]

/-- A call that fails takes the place of its copy. -/
theorem ordered_fails {order : List κ} (ordered : Ordered store operate contents run order) {index : ℕ}
    {call : κ} {copy : σ} {error : ε} (waits : run.reading[index]? = some (call, copy))
    (thrown : operate call copy = .error error) :
    HasOrder store operate contents (run.complete store operate index call copy) := by
  obtain ⟨earlier, later, rfl, there⟩ := ordered.copies (call, copy) (List.mem_of_getElem? waits)
  have idle : leaves operate (oneAfterAnother operate contents earlier) call =
      oneAfterAnother operate contents earlier := by
    rw [there]
    exact leaves_error thrown
  have kept := ordered.kept
  have outcomes_before := ordered.returned
  unfold Running.complete
  rw [thrown]
  refine ⟨earlier ++ call :: later, ?_, ?_, fun reading member => ?_⟩
  · have own : outcome operate copy call = .error error := by
      unfold outcome
      rw [thrown]
      rfl
    rw [outcomes_append] at outcomes_before ⊢
    show (_ ++ (call, outcome operate (oneAfterAnother operate contents earlier) call) ::
      outcomes operate (leaves operate _ call) later).Perm _
    rw [idle, there, own]
    rw [there] at outcomes_before
    exact List.perm_middle.trans ((outcomes_before.cons _).trans (List.perm_append_singleton _ _).symm)
  · rw [oneAfterAnother_append] at kept ⊢
    rw [oneAfterAnother_cons, idle]
    exact kept
  · exact (ordered.copies reading (List.mem_of_mem_eraseIdx member)).insert idle

theorem hasOrder_step (has_order : HasOrder store operate contents run) {event : Event κ}
    (undisturbed : run.Undisturbed store operate event) :
    HasOrder store operate contents (run.writeBackStep store operate event) := by
  obtain ⟨order, ordered⟩ := has_order
  cases event with
  | begins call => exact ⟨order, ordered_begins ordered call⟩
  | completes index =>
    unfold Running.writeBackStep
    dsimp only
    cases waits : run.reading[index]? with
    | none => exact ⟨order, ordered⟩
    | some reading =>
      obtain ⟨call, copy⟩ := reading
      cases operated : operate call copy with
      | error error => exact ordered_fails ordered waits operated
      | ok written =>
        exact ⟨_, ordered_writes ordered (undisturbed call copy written waits operated) operated⟩

/-- **Calls that do not write over each other are serializable.** -/
theorem serializable_run (kept : ς) {events : List (Event κ)}
    (undisturbed : Along (Running.writeBackStep store operate) (Running.Undisturbed store operate)
      (start kept) events) :
    Serializable store operate (store.read kept).2
      (Foundation.run (Running.writeBackStep store operate) (start kept) events) := by
  have first : HasOrder store operate (store.read kept).2 (start kept) :=
    ⟨[], .refl [], rfl, fun _ member => absurd member List.not_mem_nil⟩
  obtain ⟨order, ordered⟩ := undisturbed.invariant first fun _ _ has_order own => hasOrder_step has_order own
  exact ⟨order, ordered.returned, ordered.kept⟩

/-- Calls that do not overlap. -/
def successive (calls : List κ) : List (Event κ) := calls.flatMap fun call => [.begins call, .completes 0]

theorem undisturbed_successive (kept : ς) (returned : List (κ × Except ε τ)) (calls : List κ) :
    Along (Running.writeBackStep store operate) (Running.Undisturbed store operate) ⟨kept, [], returned⟩
      (successive calls) := by
  induction calls generalizing kept returned with
  | nil => trivial
  | cons call calls ih =>
    refine ⟨trivial, ?_, ?_⟩
    · intro own copy written waits _
      cases waits
      exact store.read_read kept
    · show Along _ _ (Running.complete store operate ⟨(store.read kept).1, [(call, (store.read kept).2)], returned⟩
        0 call (store.read kept).2) (successive calls)
      unfold Running.complete
      split
      · exact ih _ _
      · exact ih _ _

/-! ### What is reported -/

/-- What an operation reports of the contents it leaves, and what every later one keeps. -/
structure Reports (operate : κ → σ → Except ε (σ × τ)) (inv : σ → Prop) (reported : κ → τ → σ → Prop) :
    Prop where
  keeps : ∀ {call before after result}, inv before → operate call before = .ok (after, result) →
    inv after ∧ reported call result after
  stays : ∀ {call before after result}, inv before → operate call before = .ok (after, result) →
    ∀ earlier answer, reported earlier answer before → reported earlier answer after

variable {inv : σ → Prop} {reported : κ → τ → σ → Prop}

/-- What is reported stays so. -/
theorem stays_oneAfterAnother (reports : Reports operate inv reported) (sound : inv contents) (calls : List κ) :
    inv (oneAfterAnother operate contents calls) ∧ ∀ earlier answer, reported earlier answer contents →
      reported earlier answer (oneAfterAnother operate contents calls) := by
  induction calls generalizing contents with
  | nil => exact ⟨sound, fun _ _ => id⟩
  | cons call calls ih =>
    rw [oneAfterAnother_cons]
    cases operated : operate call contents with
    | error error =>
      rw [leaves_error operated]
      exact ih sound
    | ok written =>
      rw [leaves_ok operated]
      have later := ih (reports.keeps sound operated).1
      exact ⟨later.1, fun earlier answer there =>
        later.2 earlier answer (reports.stays sound operated earlier answer there)⟩

/-- **What calls have returned one after another** is true of the contents they leave. -/
theorem outcomes_kept (reports : Reports operate inv reported) (sound : inv contents) {calls : List κ}
    {call : κ} {answer : τ} (returned : (call, .ok answer) ∈ outcomes operate contents calls) :
    reported call answer (oneAfterAnother operate contents calls) := by
  induction calls generalizing contents with
  | nil => cases returned
  | cons first calls ih =>
    rw [oneAfterAnother_cons]
    cases operated : operate first contents with
    | error error =>
      rw [leaves_error operated]
      rcases List.mem_cons.mp returned with own | later
      · have thrown := (Prod.ext_iff.mp own).2
        unfold outcome at thrown
        rw [operated] at thrown
        cases thrown
      · rw [leaves_error operated] at later
        exact ih sound later
    | ok written =>
      obtain ⟨after, result⟩ := written
      rw [leaves_ok operated]
      obtain ⟨sound_after, there⟩ := reports.keeps sound operated
      rcases List.mem_cons.mp returned with own | later
      · obtain ⟨rfl, same⟩ := Prod.ext_iff.mp own
        unfold outcome at same
        rw [operated] at same
        cases same
        exact (stays_oneAfterAnother reports sound_after calls).2 _ _ there
      · rw [leaves_ok operated] at later
        exact ih sound_after later

/-- What has been returned by serializable calls is true of the contents that are left. -/
theorem Serializable.holds (reports : Reports operate inv reported) (sound : inv contents)
    (serializable : Serializable store operate contents run) {call : κ} {answer : τ}
    (returned : (call, .ok answer) ∈ run.returned) : reported call answer (store.read run.kept).2 := by
  obtain ⟨order, same, left⟩ := serializable
  rw [← left]
  exact outcomes_kept reports sound (same.mem_iff.mpr returned)

end Rules

end WriteBack

end Foundation
