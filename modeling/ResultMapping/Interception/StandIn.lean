import ResultMapping.Interception.Target

/-!
# Stand-ins

Targets that stand in for engine components and the like: each writes its calls to the log and
answers in a simple way.
-/

namespace ResultMapping.StandIn

variable {σ : Type}

/-- A component that answers every call with one outcome. -/
def scripted (component : Component) (outcome : Outcome) : Target σ where
  type := component.name
  invoke operation _ := do
    record ("target:" ++ operation)
    pure outcome

/-- A component that answers every call with a value. -/
def returning (component : Component) (value : Json) : Target σ := scripted component (.ok value)

/-- A component on which every call fails. -/
def failing (component : Component) (reason : String) : Target σ :=
  scripted component (.error (.interception (.operationFailed component.name "scripted" reason)))

/-- Writes a call to the log under the target's type. -/
def recordCall (type operation : String) : Effect σ Unit := record (type ++ ":" ++ operation)

/-- Answers with the call itself. -/
def echo (type : String) : Target σ where
  type := type
  invoke operation args := do
    recordCall type operation
    pure (.ok (.object [("args", .array args), ("operation", .string operation)]))

/-- What a table has for an operation. -/
inductive Answer where
  | value (value : Json)
  | failure (reason : String)

/-- Answers the listed operations and knows no others. -/
def table (type : String) (answers : List (String × Answer)) : Target σ where
  type := type
  invoke operation _ := do
    recordCall type operation
    match answers.lookup operation with
    | some (.value value) => pure (.ok value)
    | some (.failure reason) =>
      pure (.error (.interception (.operationFailed type operation reason)))
    | none => pure (.error (.interception (.unknownOperation type operation)))

/-- How often each flaky target was called, in the order in which the targets were made. -/
abbrev Attempts := List Nat

/-- Counts a call of a flaky target and tells its number. -/
def countAttempt (index : Nat) : Effect Attempts Nat := do
  let count := (← get).state.getD index 0 + 1
  modify fun run => { run with state := run.state.set index count }
  pure count

/-- Fails at the first calls and answers later ones with their number. -/
def flaky (type : String) (index failures : Nat) : Target Attempts where
  type := type
  invoke operation _ := do
    recordCall type operation
    let count ← countAttempt index
    if count ≤ failures then
      pure (.error (.interception (.operationFailed type operation ("attempt " ++ toString count))))
    else pure (.ok (.integer count))

/-- Makes a flaky target that has not been called yet. -/
def newFlaky (type : String) (failures : Nat) : Effect Attempts (Target Attempts) := do
  let index := (← get).state.length
  modify fun run => { run with state := run.state ++ [0] }
  pure (flaky type index failures)

end ResultMapping.StandIn
