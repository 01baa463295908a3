import Mathlib.Data.List.Basic

/-! Saga state as the managers persist it, commands in their serialized form and
the registry that rebuilds them. Timestamps no modelled function reads back
(`touch`, `completed_at`, `failed_at`, the `*_at` marks of a TCC step) are left out. -/
namespace CqrsDdd.Sagas

inductive SagaStatus
  | pending | running | suspended | completed | failed | compensating | compensated
  deriving DecidableEq, Repr

inductive ReservationType
  | resource | timeBased
  deriving DecidableEq, Repr

inductive TCCPhase
  | pending | trying | tried | confirming | confirmed | cancelling | cancelled | failed
  deriving DecidableEq, Repr

/-- A command is its class with the dump of its fields, which is also what
`serialize_command_full` stores of it. -/
structure Command (Data : Type) where
  typeName : String
  moduleName : String
  data : Data
  deriving DecidableEq, Repr

/-- `modelValidate` is the model class's own parser: it gives the dump of the
rebuilt instance, or `none` where it raises `TypeError` or `ValueError`. -/
structure CommandClass (Data : Type) where
  name : String
  moduleName : String
  modelValidate : Data → Option Data

structure MessageRegistry (Data : Type) where
  commands : List (String × CommandClass Data)

def MessageRegistry.getCommand {Data : Type} (registry : MessageRegistry Data) (commandType : String) :
    Option (CommandClass Data) :=
  registry.commands.lookup commandType

def MessageRegistry.hydrateCommand {Data : Type} (registry : MessageRegistry Data)
    (commandType : String) (data : Data) : Option (Command Data) :=
  match registry.getCommand commandType with
  | none => none
  | some commandClass =>
    (commandClass.modelValidate data).map fun fields => ⟨commandClass.name,commandClass.moduleName,fields⟩

/-- What a queued command is for. The source keeps no such mark: it lets the
specifications name the Confirm or the Cancel of a step. -/
inductive Origin
  | handler | compensation
  | tccTry (step : String) | tccConfirm (step : String) | tccCancel (step : String)
  deriving DecidableEq, Repr

/-- One call of `Saga.dispatch`. `tag` numbers the calls, so that two equal
commands stay two occurrences; only the specifications read `tag` and `origin`. -/
structure QueuedCommand (Data : Type) where
  command : Command Data
  tag : Nat
  origin : Origin
  deriving DecidableEq, Repr

structure PendingCommand (Data : Type) where
  queued : QueuedCommand Data
  dispatched : Bool
  deriving DecidableEq, Repr

def serializeCommandForPending {Data : Type} (queued : QueuedCommand Data) : PendingCommand Data :=
  ⟨queued,false⟩

def isCommandDispatched {Data : Type} (entry : PendingCommand Data) : Bool := entry.dispatched

structure CompensationRecord (Data : Type) where
  commandType : String
  moduleName : String
  data : Data
  description : String
  deriving DecidableEq, Repr

structure FailedCompensation where
  commandType : String
  error : String
  deriving DecidableEq, Repr

structure TCCStepRecord (Data : Type) where
  name : String
  phase : TCCPhase
  reservationType : ReservationType
  tryCommand : Command Data
  confirmCommand : Command Data
  cancelCommand : Command Data
  error : Option String
  timeoutAt : Option Int
  deriving DecidableEq, Repr

structure StepRecord where
  stepName : String
  eventType : String
  deriving DecidableEq, Repr

/-- `id` is the uuid of the source, drawn here from a counter. -/
structure SagaState (Data : Type) where
  id : Nat
  sagaType : String
  correlationId : String
  status : SagaStatus
  currentStep : String
  stepHistory : List StepRecord
  tccSteps : List (TCCStepRecord Data)
  processedEventIds : List String
  pendingCommands : List (PendingCommand Data)
  compensationStack : List (CompensationRecord Data)
  failedCompensations : List FailedCompensation
  suspensionReason : Option String
  timeoutAt : Option Int
  retryCount : Nat
  maxRetries : Nat
  error : Option String
  metadataTenantId : Option String
  deriving DecidableEq, Repr

namespace SagaState
variable {Data : Type}

def initial (id : Nat) (sagaType correlationId : String) : SagaState Data where
  id := id
  sagaType := sagaType
  correlationId := correlationId
  status := .pending
  currentStep := "init"
  stepHistory := []
  tccSteps := []
  processedEventIds := []
  pendingCommands := []
  compensationStack := []
  failedCompensations := []
  suspensionReason := none
  timeoutAt := none
  retryCount := 0
  maxRetries := 3
  error := none
  metadataTenantId := none

def isTerminal (state : SagaState Data) : Bool :=
  state.status = .completed || state.status = .failed || state.status = .compensated

def isEventProcessed (state : SagaState Data) (eventId : String) : Bool :=
  eventId ∈ state.processedEventIds

def markEventProcessed (state : SagaState Data) (eventId : String) : SagaState Data :=
  if eventId ∈ state.processedEventIds then state
  else {state with processedEventIds := state.processedEventIds ++ [eventId]}

def recordStep (state : SagaState Data) (stepName eventType : String) : SagaState Data :=
  {state with currentStep := stepName, stepHistory := state.stepHistory ++ [⟨stepName,eventType⟩]}

end SagaState

end CqrsDdd.Sagas
