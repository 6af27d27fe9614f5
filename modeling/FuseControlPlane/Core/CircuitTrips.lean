/-
When a circuit trips (`core/circuit.ts`).

* `TripsOn`: a cost above the ceiling, or two spikes in a row, somewhere among the costs.
* `Tracks`: what a circuit remembers of the costs it was fed.
* `circuit_trips_iff`: **a circuit is tripped exactly if it trips on the costs it was fed**, however often it
  was saved and restored, and it accepts nothing afterwards.
-/

import FuseControlPlane.Core.Circuit
import FuseControlPlane.Foundation.Runs
import Mathlib.Data.List.Infix

namespace FuseControlPlane.Core

open Foundation Foundation.Method

/-! ### Costs -/

/-- A cost is a spike after the one before it. -/
def CircuitConfig.isSpikeAfter (config : CircuitConfig) (baseline current : ℤ) : Prop :=
  baseline * 4 ≤ current ∧ config.minimumSpikeDeltaMicros ≤ current - baseline

/-- The last cost is a spike. -/
def EndsInSpike (config : CircuitConfig) (costs : List ℤ) : Prop :=
  ∃ baseline last, [baseline, last] <:+ costs ∧ config.isSpikeAfter baseline last

/-- A cost is above the ceiling, or there are two spikes in a row. -/
def TripsOn (config : CircuitConfig) (costs : List ℤ) : Prop :=
  (∃ cost ∈ costs, config.perCallCeilingMicros < cost) ∨
    ∃ baseline first second, [baseline, first, second] <:+: costs ∧
      config.isSpikeAfter baseline first ∧ config.isSpikeAfter first second

variable {config : CircuitConfig} {costs : List ℤ} {cost : ℤ}

theorem getLast?_of_suffix {earlier : List ℤ} {last : ℤ} (ends : earlier ++ [last] <:+ costs) :
    costs.getLast? = some last := by
  obtain ⟨before, rfl⟩ := ends
  rw [← List.append_assoc, List.getLast?_concat]

/-- The last cost is a spike after the one before it. -/
theorem endsInSpike_concat : EndsInSpike config (costs ++ [cost]) ↔
    ∃ last, costs.getLast? = some last ∧ config.isSpikeAfter last cost := by
  constructor
  · rintro ⟨baseline, last, ends, spike⟩
    have whole : [baseline] ++ [last] <:+ costs ++ [cost] := ends
    obtain ⟨before, same⟩ := whole
    rw [← List.append_assoc] at same
    obtain ⟨rest, rfl⟩ := List.append_inj' same rfl |>.imp_right fun last => List.singleton_inj.mp last
    refine ⟨baseline, ?_, spike⟩
    rw [← rest, List.getLast?_concat]
  · rintro ⟨last, ends, spike⟩
    obtain ⟨before, rfl⟩ := List.getLast?_eq_some_iff.mp ends
    exact ⟨last, cost, ⟨before, by simp⟩, spike⟩

/-- One more cost trips a circuit if it is above the ceiling or the second spike. -/
theorem tripsOn_concat : TripsOn config (costs ++ [cost]) ↔
    TripsOn config costs ∨ config.perCallCeilingMicros < cost ∨
      (EndsInSpike config costs ∧ EndsInSpike config (costs ++ [cost])) := by
  constructor
  · rintro (⟨high, member, above⟩ | ⟨baseline, first, second, inside, spike, next⟩)
    · rcases List.mem_append.mp member with old | new
      · exact .inl (.inl ⟨high, old, above⟩)
      · rw [List.mem_singleton.mp new] at above
        exact .inr (.inl above)
    · rcases List.infix_concat_iff.mp inside with ends | old
      · rcases List.suffix_concat_iff.mp ends with empty | ⟨earlier, same, before⟩
        · cases empty
        · have split : [baseline, first] ++ [second] = earlier ++ [cost] := same
          obtain ⟨rfl, last⟩ := List.append_inj' split rfl
          exact .inr (.inr ⟨⟨baseline, first, before, spike⟩, first, second,
            (List.suffix_append [baseline] [first, second]).trans ends, next⟩)
      · exact .inl (.inr ⟨baseline, first, second, old, spike, next⟩)
  · rintro ((⟨high, member, above⟩ | ⟨baseline, first, second, inside, spike, next⟩) | above |
      ⟨⟨baseline, first, before, spike⟩, last⟩)
    · exact .inl ⟨high, List.mem_append_left _ member, above⟩
    · exact .inr ⟨baseline, first, second, inside.trans (List.prefix_append costs [cost]).isInfix, spike, next⟩
    · exact .inl ⟨cost, List.mem_append_right _ (List.mem_singleton_self _), above⟩
    · obtain ⟨last, ends, next⟩ := endsInSpike_concat.mp last
      have same := (@getLast?_of_suffix costs [baseline] first before).symm.trans ends
      cases same
      refine .inr ⟨baseline, first, cost, ?_, spike, next⟩
      obtain ⟨rest, rfl⟩ := before
      exact ⟨rest, [], by simp⟩

/-! ### Calls -/

/-- A call of `evaluate`, or a snapshot that a new circuit is made from. -/
inductive CircuitCall
  | evaluate (currentCostMicros : ℤ)
  | restore

/-- The cost that a call feeds to the circuit. -/
def CircuitCall.cost? : CircuitCall → Option ℤ
  | evaluate currentCostMicros => some currentCostMicros
  | restore => none

def costsFed (calls : List CircuitCall) : List ℤ := calls.filterMap CircuitCall.cost?

namespace BranchCircuit

/-- The circuit after a call. -/
def call (circuit : BranchCircuit) : CircuitCall → BranchCircuit
  | .evaluate currentCostMicros => left (evaluate currentCostMicros circuit)
  | .restore => fromState circuit.config circuit.snapshot

/-- A circuit that is tripped accepts nothing, and stays tripped. -/
theorem evaluate_tripped {circuit : BranchCircuit} (tripped : circuit.state = .tripped) (cost : ℤ) :
    evaluate cost circuit = .error "BRANCH_TRIPPED" circuit := by
  unfold evaluate
  rw [get_bind, check_bind, if_neg (by simp [tripped])]

/-- A circuit that is not tripped trips on a cost above the ceiling. -/
theorem evaluate_above {circuit : BranchCircuit} (opened : circuit.state ≠ .tripped)
    (above : circuit.config.perCallCeilingMicros < cost) :
    left (evaluate cost circuit) = { circuit with state := .tripped } := by
  unfold evaluate
  rw [get_bind, check_bind, if_pos (by simpa using opened), if_pos above]
  rfl

theorem evaluate_below {circuit : BranchCircuit} (opened : circuit.state ≠ .tripped)
    (below : ¬ circuit.config.perCallCeilingMicros < cost) :
    left (evaluate cost circuit) = circuit.afterCall cost := by
  unfold evaluate
  rw [get_bind, check_bind, if_pos (by simpa using opened), if_neg below]
  rfl

theorem call_tripped {circuit : BranchCircuit} (tripped : circuit.state = .tripped) (call : CircuitCall) :
    (circuit.call call).state = .tripped := by
  cases call with
  | evaluate cost =>
    show (left (evaluate cost circuit)).state = .tripped
    rw [evaluate_tripped tripped]
    exact tripped
  | restore => exact tripped

end BranchCircuit

/-- What a circuit remembers of the costs it was fed: whether it has tripped, else the last cost and whether
that was a spike. -/
structure Tracks (config : CircuitConfig) (costs : List ℤ) (circuit : BranchCircuit) : Prop where
  sameConfig : circuit.config = config
  tripped : circuit.state = .tripped ↔ TripsOn config costs
  previous : circuit.state ≠ .tripped → circuit.previousCostMicros = costs.getLast?
  violations : circuit.state ≠ .tripped →
    circuit.consecutiveViolations ≤ 1 ∧ (1 ≤ circuit.consecutiveViolations ↔ EndsInSpike config costs)

variable {circuit : BranchCircuit}

/-- A spike for the circuit is a spike of the costs. -/
theorem Tracks.isSpike_iff (tracks : Tracks config costs circuit) (opened : circuit.state ≠ .tripped) :
    circuit.isSpike cost = true ↔ EndsInSpike config (costs ++ [cost]) := by
  rw [endsInSpike_concat]
  unfold BranchCircuit.isSpike CircuitConfig.isSpikeAfter
  rw [tracks.previous opened, tracks.sameConfig]
  simp [Option.any_eq_true]

/-- **Every cost is tracked.** -/
theorem Tracks.evaluate (tracks : Tracks config costs circuit) (cost : ℤ) :
    Tracks config (costs ++ [cost]) (left (BranchCircuit.evaluate cost circuit)) := by
  by_cases opened : circuit.state = .tripped
  · -- nothing is accepted, and what has tripped the circuit is still among the costs
    rw [BranchCircuit.evaluate_tripped opened]
    refine ⟨tracks.sameConfig, iff_of_true opened ?_, fun closed => absurd opened closed,
      fun closed => absurd opened closed⟩
    exact tripsOn_concat.mpr (.inl (tracks.tripped.mp opened))
  have untripped : ¬ TripsOn config costs := fun trips => opened (tracks.tripped.mpr trips)
  obtain ⟨few, violations⟩ := tracks.violations opened
  by_cases above : circuit.config.perCallCeilingMicros < cost
  · rw [BranchCircuit.evaluate_above opened above]
    rw [tracks.sameConfig] at above
    exact ⟨tracks.sameConfig, iff_of_true rfl (tripsOn_concat.mpr (.inr (.inl above))),
      fun closed => absurd rfl closed, fun closed => absurd rfl closed⟩
  rw [BranchCircuit.evaluate_below opened above]
  rw [tracks.sameConfig] at above
  have spike : circuit.isSpike cost = true ↔ EndsInSpike config (costs ++ [cost]) :=
    tracks.isSpike_iff opened
  have trips : TripsOn config (costs ++ [cost]) ↔
      EndsInSpike config costs ∧ EndsInSpike config (costs ++ [cost]) := by
    rw [tripsOn_concat]
    tauto
  unfold BranchCircuit.afterCall
  split
  · next isSpike =>
    have ends := spike.mp isSpike
    refine ⟨tracks.sameConfig, ?_, fun _ => ?_, fun still => ?_⟩
    · rw [trips, ← violations]
      show (if 2 ≤ circuit.consecutiveViolations + 1 then CircuitState.tripped else .elevated) = .tripped ↔ _
      split <;> simp [ends] <;> omega
    · rw [List.getLast?_concat]
    · have first : ¬ 2 ≤ circuit.consecutiveViolations + 1 := fun second => still (if_pos second)
      exact ⟨by show circuit.consecutiveViolations + 1 ≤ 1; omega, iff_of_true (Nat.le_add_left 1 _) ends⟩
  · next noSpike =>
    have ends : ¬ EndsInSpike config (costs ++ [cost]) := fun ends => noSpike (spike.mpr ends)
    refine ⟨tracks.sameConfig, ?_, fun _ => ?_, fun _ => ?_⟩
    · exact iff_of_false nofun fun both => ends (trips.mp both).2
    · rw [List.getLast?_concat]
    · exact ⟨Nat.zero_le 1, iff_of_false (by simp) ends⟩

/-- Every call is tracked. -/
theorem Tracks.call (tracks : Tracks config costs circuit) (call : CircuitCall) :
    Tracks config (costs ++ call.cost?.toList) (circuit.call call) := by
  cases call with
  | evaluate cost => exact tracks.evaluate cost
  | restore =>
    rw [show costs ++ (CircuitCall.cost? .restore).toList = costs from List.append_nil costs]
    exact tracks

theorem run_tracks (config : CircuitConfig) (calls : List CircuitCall) :
    Tracks config (costsFed calls) (Foundation.run BranchCircuit.call (.new config) calls) := by
  induction calls using List.reverseRecOn with
  | nil =>
    refine ⟨rfl, iff_of_false nofun ?_, fun _ => rfl, fun _ => ⟨Nat.zero_le 1, iff_of_false nofun ?_⟩⟩
    · rintro (⟨_, member, _⟩ | ⟨_, _, _, inside, _⟩)
      · cases member
      · cases List.infix_nil.mp inside
    · rintro ⟨_, _, ends, _⟩
      cases List.suffix_nil.mp ends
  | append_singleton calls call ih =>
    have fed : costsFed (calls ++ [call]) = costsFed calls ++ call.cost?.toList := by
      unfold costsFed
      rw [List.filterMap_append]
      cases call <;> rfl
    rw [run_append, run_cons, run_nil, fed]
    exact ih.call call

/-- **A circuit is tripped exactly if it trips on the costs it was fed, and accepts nothing afterwards.** -/
theorem circuit_trips_iff (config : CircuitConfig) (calls : List CircuitCall) :
    ((Foundation.run BranchCircuit.call (.new config) calls).state = .tripped ↔
        TripsOn config (costsFed calls)) ∧
      ∀ earlier later cost, earlier ++ later = calls →
        (Foundation.run BranchCircuit.call (.new config) earlier).state = .tripped →
          value? (BranchCircuit.evaluate cost (Foundation.run BranchCircuit.call (.new config) calls)) =
            none := by
  refine ⟨(run_tracks config calls).tripped, ?_⟩
  rintro earlier later cost rfl tripped
  have trips := (run_tracks config earlier).tripped.mp tripped
  have still : (Foundation.run BranchCircuit.call (.new config) (earlier ++ later)).state = .tripped := by
    rw [run_append]
    exact @run_invariant _ _ BranchCircuit.call (fun circuit => circuit.state = .tripped) _ tripped
      (fun _ call held => BranchCircuit.call_tripped held call) later
  rw [BranchCircuit.evaluate_tripped still]
  rfl

end FuseControlPlane.Core
