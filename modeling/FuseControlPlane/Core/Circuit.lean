/-
The circuit of a branch (`core/circuit.ts`).

* `BranchCircuit.evaluate`: a call that costs more than the ceiling, or a second one in a row that costs
  four times the one before, trips the circuit. The ratio of the two costs is only ever shown and left out.
-/

import FuseControlPlane.Foundation.Methods
import Mathlib.Algebra.Order.Ring.Int

namespace FuseControlPlane.Core

open Foundation Foundation.Method

inductive CircuitState
  | healthy | elevated | tripped
  deriving DecidableEq

inductive CircuitReason
  | allow | absoluteCallLimit | repeatedCostAcceleration
  deriving DecidableEq

inductive CircuitDecision
  | allow | trip
  deriving DecidableEq

structure CircuitResult where
  state : CircuitState
  decision : CircuitDecision
  reason : CircuitReason
  currentCostMicros : ℤ
  baselineCostMicros : Option ℤ
  consecutiveViolations : ℕ
  deriving DecidableEq

structure CircuitStateSnapshot where
  state : CircuitState
  consecutiveViolations : ℕ
  previousCostMicros : Option ℤ
  deriving DecidableEq

structure CircuitConfig where
  perCallCeilingMicros : ℤ
  minimumSpikeDeltaMicros : ℤ
  deriving DecidableEq

structure BranchCircuit extends CircuitStateSnapshot where
  config : CircuitConfig
  deriving DecidableEq

namespace BranchCircuit

/-- The constructor. -/
def new (config : CircuitConfig) : BranchCircuit := ⟨⟨.healthy, 0, none⟩, config⟩

def fromState (config : CircuitConfig) (state : CircuitStateSnapshot) : BranchCircuit := ⟨state, config⟩

def snapshot (circuit : BranchCircuit) : CircuitStateSnapshot := circuit.toCircuitStateSnapshot

/-- A baseline that is not given is the previous cost. -/
def result (circuit : BranchCircuit) (currentCostMicros : ℤ) (decision : CircuitDecision)
    (reason : CircuitReason) (baselineCostMicros : Option ℤ) : CircuitResult where
  state := circuit.state
  decision := decision
  reason := reason
  currentCostMicros := currentCostMicros
  baselineCostMicros := baselineCostMicros <|> circuit.previousCostMicros
  consecutiveViolations := circuit.consecutiveViolations

def isSpike (circuit : BranchCircuit) (currentCostMicros : ℤ) : Bool :=
  circuit.previousCostMicros.any fun baseline => baseline * 4 ≤ currentCostMicros &&
    circuit.config.minimumSpikeDeltaMicros ≤ currentCostMicros - baseline

/-- The circuit after a call below the ceiling. -/
def afterCall (circuit : BranchCircuit) (currentCostMicros : ℤ) : BranchCircuit :=
  if circuit.isSpike currentCostMicros then
    { circuit with
      consecutiveViolations := circuit.consecutiveViolations + 1
      state := if 2 ≤ circuit.consecutiveViolations + 1 then .tripped else .elevated
      previousCostMicros := some currentCostMicros }
  else
    { circuit with
      consecutiveViolations := 0
      state := .healthy
      previousCostMicros := some currentCostMicros }

def assertOpen : Method BranchCircuit Unit := do
  let circuit ← get
  check (circuit.state ≠ .tripped) "BRANCH_TRIPPED"

def evaluate (currentCostMicros : ℤ) : Method BranchCircuit CircuitResult := do
  let circuit ← get
  check (circuit.state ≠ .tripped) "BRANCH_TRIPPED"
  if circuit.config.perCallCeilingMicros < currentCostMicros then do
    let tripped := { circuit with state := .tripped }
    set tripped
    return tripped.result currentCostMicros .trip .absoluteCallLimit none
  else do
    let after := circuit.afterCall currentCostMicros
    set after
    return if after.state = .tripped then
        after.result currentCostMicros .trip .repeatedCostAcceleration circuit.previousCostMicros
      else after.result currentCostMicros .allow .allow circuit.previousCostMicros

end BranchCircuit

end FuseControlPlane.Core
