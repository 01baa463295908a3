import CqrsDdd.Sagas.State
import Mathlib.Data.List.Nodup
import Mathlib.Data.List.Lattice

/-! The saga object: command queue, lifecycle, compensation stack and the
Try-Confirm/Cancel steps. Every operation returns the saga it leaves behind and
the exception it raised, if any, since the source keeps what it had already
changed when it raises. -/
namespace CqrsDdd.Sagas

inductive SagaError
  | configuration (message : String)
  | state (message : String)
  | handlerNotFound (message : String)
  | handler (message : String)
  deriving DecidableEq, Repr

/-- A `TIME_BASED` step without a timeout is refused by its constructor. -/
structure TCCStep (Data : Type) where
  name : String
  tryCommand : Command Data
  confirmCommand : Command Data
  cancelCommand : Command Data
  reservationType : ReservationType
  timeout : Option Int
  timed : reservationType = .timeBased → timeout.isSome = true

/-- The steps a saga registered; `add_tcc_step` refuses a second step of one name. -/
structure TCCSteps (Data : Type) where
  steps : List (TCCStep Data)
  distinct : (steps.map (·.name)).Nodup

def TCCSteps.empty {Data : Type} : TCCSteps Data := ⟨[],List.nodup_nil⟩

def TCCSteps.addTccStep {Data : Type} (registered : TCCSteps Data) (step : TCCStep Data) :
    Except SagaError (TCCSteps Data) :=
  if fresh : step.name ∈ registered.steps.map (·.name) then
    .error (.configuration ("TCC step '" ++ step.name ++ "' already registered."))
  else
    .ok ⟨registered.steps ++ [step],by
      rw [List.map_append]
      exact List.Nodup.append registered.distinct (List.nodup_singleton _) (by simpa using fresh)⟩

/-- `nextTag` numbers the calls of `dispatch`, and `popped` lists the compensation
records taken off the stack, each with the tag of its command or `none` where it
could not be hydrated. Both are history that no operation reads. -/
structure Saga (Data : Type) where
  state : SagaState Data
  messageRegistry : Option (MessageRegistry Data)
  registered : TCCSteps Data
  commandsToDispatch : List (QueuedCommand Data)
  tccRecordsCache : Option (List (TCCStepRecord Data))
  nextTag : Nat
  popped : List (CompensationRecord Data × Option Nat)

namespace Saga
variable {Data : Type}

def create (state : SagaState Data) (registry : Option (MessageRegistry Data))
    (registered : TCCSteps Data) (nextTag : Nat) : Saga Data where
  state := state
  messageRegistry := registry
  registered := registered
  commandsToDispatch := []
  tccRecordsCache := none
  nextTag := nextTag
  popped := []

abbrev Result (Data : Type) := Saga Data × Option SagaError

def dispatch (saga : Saga Data) (command : Command Data) (origin : Origin) : Saga Data :=
  {saga with
    commandsToDispatch := saga.commandsToDispatch ++ [⟨command,saga.nextTag,origin⟩]
    nextTag := saga.nextTag+1}

def collectCommands (saga : Saga Data) : List (QueuedCommand Data) × Saga Data :=
  (saga.commandsToDispatch,{saga with commandsToDispatch := []})

def setStatus (saga : Saga Data) (status : SagaStatus) : Saga Data :=
  {saga with state := {saga.state with status := status}}

def setCurrentStep (saga : Saga Data) (step : String) : Saga Data :=
  {saga with state := {saga.state with currentStep := step}}

def setError (saga : Saga Data) (reason : String) : Saga Data :=
  {saga with state := {saga.state with error := some reason}}

def complete (saga : Saga Data) : Saga Data := saga.setStatus .completed

def suspend (saga : Saga Data) (now : Int) (reason : String) (timeout : Option Int) : Saga Data :=
  {saga with state := {saga.state with
    status := .suspended
    suspensionReason := some reason
    timeoutAt := timeout.map (now + ·)}}

def resume (saga : Saga Data) : Saga Data :=
  if saga.state.status ≠ .suspended then saga
  else {saga with state := {saga.state with status := .running, suspensionReason := none, timeoutAt := none}}

def addCompensation (saga : Saga Data) (command : Command Data) (description : String) : Saga Data :=
  {saga with state := {saga.state with compensationStack := saga.state.compensationStack ++
    [⟨command.typeName,command.moduleName,command.data,description⟩]}}

def registryRequired : SagaError :=
  .state ("message_registry is required for this operation. " ++
    "When using Saga with a SagaManager, it is injected automatically. " ++
    "For standalone use, pass message_registry to the constructor.")

def notRegistered (commandType : String) : String :=
  "Compensating command type '" ++ commandType ++
    "' not registered. Ensure it's registered in MessageRegistry."

def popCompensation (registry : MessageRegistry Data) (record : CompensationRecord Data)
    (saga : Saga Data) : Saga Data :=
  match registry.hydrateCommand record.commandType record.data with
  | some command =>
    {saga.dispatch command .compensation with popped := saga.popped ++ [(record,some saga.nextTag)]}
  | none =>
    {saga with
      state := {saga.state with failedCompensations := saga.state.failedCompensations ++
        [⟨record.commandType,notRegistered record.commandType⟩]}
      popped := saga.popped ++ [(record,none)]}

def hydratable (registry : MessageRegistry Data) (record : CompensationRecord Data) : Bool :=
  (registry.hydrateCommand record.commandType record.data).isSome

/-- The loop empties the stack from its end. `has_failures` is set exactly when
some popped record could not be hydrated. -/
def executeCompensations (saga : Saga Data) : Result Data :=
  match saga.messageRegistry with
  | none => (saga,some registryRequired)
  | some registry =>
    let records := saga.state.compensationStack.reverse
    let emptied := {saga with state := {saga.state with status := .compensating, compensationStack := []}}
    let finished := records.foldl (fun current record => popCompensation registry record current) emptied
    (finished.setStatus (if records.all (hydratable registry) then .compensated else .failed),none)

def fail (saga : Saga Data) (reason : String) (compensate : Bool) : Result Data :=
  let noted := saga.setError reason
  if compensate && !noted.state.compensationStack.isEmpty then noted.executeCompensations
  else (noted.setStatus .failed,none)

def timeoutReason (state : SagaState Data) : String :=
  match state.suspensionReason with
  | some reason => if reason = "" then "Saga timed out while suspended"
    else "Saga timed out while suspended" ++ " for: " ++ reason
  | none => "Saga timed out while suspended"

def onTimeout (saga : Saga Data) : Result Data := saga.fail (timeoutReason saga.state) true

def recordOf (now : Int) (step : TCCStep Data) : TCCStepRecord Data where
  name := step.name
  phase := .trying
  reservationType := step.reservationType
  tryCommand := step.tryCommand
  confirmCommand := step.confirmCommand
  cancelCommand := step.cancelCommand
  error := none
  -- A zero `timedelta` is falsy, so it sets no deadline.
  timeoutAt := match step.reservationType,step.timeout with
    | .timeBased,some timeout => if timeout = 0 then none else some (now + timeout)
    | _,_ => none

def beginTcc (saga : Saga Data) (now : Int) : Result Data :=
  if saga.registered.steps.isEmpty then
    (saga,some (.state "No TCC steps registered — call add_tcc_step() first."))
  else if !saga.state.tccSteps.isEmpty then
    (saga,some (.state "TCC already started for this saga."))
  else
    let tried := saga.registered.steps.foldl
      (fun current step => current.dispatch step.tryCommand (.tccTry step.name)) saga
    ({tried with state := {tried.state with
        tccSteps := saga.registered.steps.map (recordOf now)
        status := .running
        currentStep := "trying"}},none)

def loadTccRecords (saga : Saga Data) : List (TCCStepRecord Data) × Saga Data :=
  match saga.tccRecordsCache with
  | some records => (records,saga)
  | none => (saga.state.tccSteps,{saga with tccRecordsCache := some saga.state.tccSteps})

def saveTccRecords (saga : Saga Data) (records : List (TCCStepRecord Data)) : Saga Data :=
  {saga with tccRecordsCache := some records, state := {saga.state with tccSteps := records}}

def phased (stepName : String) (phase : TCCPhase) (error : Option String)
    (record : TCCStepRecord Data) : TCCStepRecord Data :=
  if record.name = stepName then {record with phase := phase, error := error.or record.error} else record

def setTccPhase (saga : Saga Data) (stepName : String) (phase : TCCPhase) (error : Option String) : Saga Data :=
  let loaded := saga.loadTccRecords
  loaded.2.saveTccRecords (loaded.1.map (phased stepName phase error))

def allTccStepsInPhase (saga : Saga Data) (phase : TCCPhase) : Bool :=
  saga.loadTccRecords.1.all (·.phase = phase)

def confirmRecords (registry : MessageRegistry Data) :
    List (TCCStepRecord Data) → Saga Data → List (TCCStepRecord Data) × Saga Data
  | [], saga => ([],saga)
  | record::rest, saga =>
    if record.phase = .tried then
      match registry.hydrateCommand record.confirmCommand.typeName record.confirmCommand.data with
      | some command =>
        let tail := confirmRecords registry rest (saga.dispatch command (.tccConfirm record.name))
        ({record with phase := .confirming}::tail.1,tail.2)
      | none => let tail := confirmRecords registry rest saga; (record::tail.1,tail.2)
    else let tail := confirmRecords registry rest saga; (record::tail.1,tail.2)

def dispatchConfirms (saga : Saga Data) : Result Data :=
  match saga.messageRegistry with
  | none => (saga,some registryRequired)
  | some registry =>
    let loaded := saga.loadTccRecords
    let confirmed := confirmRecords registry loaded.1 loaded.2
    ((confirmed.2.saveTccRecords confirmed.1).setCurrentStep "confirming",none)

def cancellable (phase : TCCPhase) : Bool :=
  phase = .tried || phase = .trying || phase = .confirming

/-- The loop of `_dispatch_cancels` walks the indices backwards, so the rest of
the list is cancelled before its head. -/
def cancelRecords (registry : MessageRegistry Data) :
    List (TCCStepRecord Data) → Saga Data → List (TCCStepRecord Data) × Saga Data
  | [], saga => ([],saga)
  | record::rest, saga =>
    let tail := cancelRecords registry rest saga
    if cancellable record.phase then
      match registry.hydrateCommand record.cancelCommand.typeName record.cancelCommand.data with
      | some command =>
        ({record with phase := .cancelling}::tail.1,tail.2.dispatch command (.tccCancel record.name))
      | none => (record::tail.1,tail.2)
    else (record::tail.1,tail.2)

def dispatchCancels (saga : Saga Data) (reason : String) : Result Data :=
  match saga.messageRegistry with
  | none => (saga,some registryRequired)
  | some registry =>
    let loaded := saga.loadTccRecords
    let cancelled := cancelRecords registry loaded.1 loaded.2
    ((((cancelled.2.saveTccRecords cancelled.1).setStatus .compensating).setCurrentStep "cancelling").setError reason,none)

def markStepTried (saga : Saga Data) (stepName : String) : Result Data :=
  let marked := saga.setTccPhase stepName .tried none
  if marked.allTccStepsInPhase .tried then marked.dispatchConfirms else (marked,none)

def markStepConfirmed (saga : Saga Data) (stepName : String) : Result Data :=
  let marked := saga.setTccPhase stepName .confirmed none
  if marked.allTccStepsInPhase .confirmed then (marked.complete,none) else (marked,none)

def markStepFailed (saga : Saga Data) (stepName reason : String) : Result Data :=
  match saga.dispatchCancels reason with
  | (cancelled,some error) => (cancelled,some error)
  | (cancelled,none) => (cancelled.setTccPhase stepName .failed (some reason),none)

def markStepCancelled (saga : Saga Data) (stepName : String) : Result Data :=
  let marked := saga.setTccPhase stepName .cancelled none
  let records := marked.loadTccRecords.1
  if records.all (fun record =>
      record.phase = .cancelled || record.phase = .failed || record.phase = .pending) then
    (marked.setStatus .compensated,none)
  else (marked,none)

def expired (now : Int) (record : TCCStepRecord Data) : Bool :=
  record.reservationType = .timeBased &&
    (match record.timeoutAt with | some deadline => decide (deadline ≤ now) | none => false) &&
    (record.phase = .trying || record.phase = .tried)

def expiryReason (stepName : String) : String :=
  "TIME_BASED reservation expired for step '" ++ stepName ++ "'"

def failExpired : List String → Saga Data → Result Data
  | [], saga => (saga,none)
  | name::rest, saga =>
    match saga.markStepFailed name (expiryReason name) with
    | (failed,some error) => (failed,some error)
    | (failed,none) => failExpired rest failed

def checkTccTimeouts (saga : Saga Data) (now : Int) : Result Data :=
  let loaded := saga.loadTccRecords
  failExpired ((loaded.1.filter (expired now)).map (·.name)) loaded.2

end Saga

/-- The messages a TCC saga reacts to after `begin_tcc`. `reload` is the manager
building a new saga object over the same state, or `handle` dropping the cache. -/
inductive TccOp
  | tried (stepName : String)
  | confirmed (stepName : String)
  | failed (stepName reason : String)
  | cancelled (stepName : String)
  | timeouts (now : Int)
  | reload
  deriving DecidableEq, Repr

def Saga.applyTcc {Data : Type} (saga : Saga Data) : TccOp → Saga.Result Data
  | .tried stepName => saga.markStepTried stepName
  | .confirmed stepName => saga.markStepConfirmed stepName
  | .failed stepName reason => saga.markStepFailed stepName reason
  | .cancelled stepName => saga.markStepCancelled stepName
  | .timeouts now => saga.checkTccTimeouts now
  | .reload => ({saga with tccRecordsCache := none},none)

end CqrsDdd.Sagas
