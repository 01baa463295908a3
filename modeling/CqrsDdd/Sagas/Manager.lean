import CqrsDdd.Dict
import CqrsDdd.Sagas.Orchestration

/-! The saga manager over the in-memory repository: routing of events, dispatch of
the collected commands, recovery and the two timeout sweeps. Every call runs to
completion before the next one and reads the clock once; the command bus is the
stream of its answers, one for each send. -/
namespace CqrsDdd.Sagas

structure DomainEvent (Data : Type) where
  eventType : String
  eventId : String
  correlationId : Option String
  metadataCorrelationId : Option String
  metadataTenantId : Option String
  payload : Data
  deriving DecidableEq, Repr

/-- What an event handler or an `on_timeout` does to its saga, in order. -/
inductive SagaAction (Data : Type)
  | dispatch (command : Command Data)
  | addCompensation (command : Command Data) (description : String)
  | setStep (step : String)
  | setMaxRetries (maxRetries : Nat)
  | complete
  | fail (reason : String) (compensate : Bool)
  | executeCompensations
  | suspend (reason : String) (timeout : Option Int)
  | resume
  | beginTcc
  | tcc (op : TccOp)
  | raise (message : String)
  deriving DecidableEq, Repr

abbrev EventHandler (Data : Type) := Int → DomainEvent Data → SagaState Data → List (SagaAction Data)

structure SagaClass (Data : Type) where
  name : String
  registered : TCCSteps Data
  maxRetries : Nat
  eventHandlers : List (String × EventHandler Data)
  onTimeout : Int → SagaState Data → List (SagaAction Data)

/-- The handler `on` builds from its `send`, `step`, `compensate` and `complete` arguments. -/
def mappedHandler {Data : Type} (send : DomainEvent Data → Command Data) (step : Option String)
    (compensate : Option (DomainEvent Data → Command Data)) (description : String) (complete : Bool) :
    EventHandler Data := fun _ event _ =>
  (step.toList.map SagaAction.setStep) ++ [SagaAction.dispatch (send event)] ++
    (compensate.toList.map fun undo => SagaAction.addCompensation (undo event) description) ++
    (if complete then [SagaAction.complete] else [])

def failOnTimeout {Data : Type} (_ : Int) (state : SagaState Data) : List (SagaAction Data) :=
  [.fail (Saga.timeoutReason state) true]

namespace Saga
variable {Data : Type}

def act (now : Int) (saga : Saga Data) : SagaAction Data → Result Data
  | .dispatch command => (saga.dispatch command .handler,none)
  | .addCompensation command description => (saga.addCompensation command description,none)
  | .setStep step => (saga.setCurrentStep step,none)
  | .setMaxRetries maxRetries => ({saga with state := {saga.state with maxRetries := maxRetries}},none)
  | .complete => (saga.complete,none)
  | .fail reason compensate => saga.fail reason compensate
  | .executeCompensations => saga.executeCompensations
  | .suspend reason timeout => (saga.suspend now reason timeout,none)
  | .resume => (saga.resume,none)
  | .beginTcc => saga.beginTcc now
  | .tcc op => saga.applyTcc op
  | .raise message => (saga,some (.handler message))

def perform (now : Int) : List (SagaAction Data) → Saga Data → Result Data
  | [], saga => (saga,none)
  | action::rest, saga =>
    match saga.act now action with
    | (acted,some error) => (acted,some error)
    | (acted,none) => perform now rest acted

def handlerMissing (eventType : String) : SagaError :=
  .handlerNotFound ("No handler registered for " ++ eventType ++ ". " ++
    "Either override _handle_event() or register handlers with on().")

def handleEvent (sagaClass : SagaClass Data) (now : Int) (event : DomainEvent Data) (saga : Saga Data) :
    Result Data :=
  match sagaClass.eventHandlers.lookup event.eventType with
  | some handler => saga.perform now (handler now event saga.state)
  | none => (saga,some (handlerMissing event.eventType))

def start (saga : Saga Data) : Saga Data :=
  if saga.state.status = .pending then saga.setStatus .running else saga

def handle (sagaClass : SagaClass Data) (now : Int) (event : DomainEvent Data) (saga : Saga Data) :
    Result Data :=
  let fresh := {saga with tccRecordsCache := none}
  if fresh.state.isTerminal then (fresh,none)
  else if fresh.state.isEventProcessed event.eventId then (fresh,none)
  else
    match fresh.start.handleEvent sagaClass now event with
    | (handled,some error) => (handled,some error)
    | (handled,none) =>
      let marked := handled.state.markEventProcessed event.eventId
      ({handled with state := marked.recordStep marked.currentStep event.eventType},none)

end Saga

def SagaError.message : SagaError → String
  | .configuration message => message
  | .state message => message
  | .handlerNotFound message => message
  | .handler message => message

structure SagaRegistry (Data : Type) where
  eventMap : List (String × List (SagaClass Data))
  typeMap : List (String × SagaClass Data)

def SagaRegistry.getSagasForEvent {Data : Type} (registry : SagaRegistry Data) (eventType : String) :
    List (SagaClass Data) :=
  (registry.eventMap.lookup eventType).getD []

def SagaRegistry.getSagaType {Data : Type} (registry : SagaRegistry Data) (name : String) :
    Option (SagaClass Data) :=
  registry.typeMap.lookup name

/-- `importCommand` stands for the module import and the constructor call that
`_deserialize_command` falls back on. -/
structure SagaManager (Data : Type) where
  registry : SagaRegistry Data
  messageRegistry : MessageRegistry Data
  importCommand : Command Data → Option (Command Data)
  commandBus : Nat → Bool

/-- `collected`, `sent` and `popped` are history: the commands appended to the
pending list of a saga, those the bus accepted, and the compensation records taken
off a stack. `attempts` counts the sends, so that the bus answers each in turn. -/
structure World (Data : Type) where
  repository : Dict Nat (SagaState Data)
  nextId : Nat
  nextTag : Nat
  attempts : Nat
  collected : List (Nat × QueuedCommand Data)
  sent : List (QueuedCommand Data)
  popped : List (Nat × CompensationRecord Data × Option Nat)

namespace World
variable {Data : Type}

def empty : World Data := ⟨Dict.empty,0,0,0,[],[],[]⟩

def add (world : World Data) (state : SagaState Data) : World Data :=
  {world with repository := world.repository.set state.id state}

def findByCorrelationId (world : World Data) (correlationId sagaType : String) : Option (SagaState Data) :=
  world.repository.values.find? fun state =>
    state.correlationId = correlationId && state.sagaType = sagaType

/-- Each finder breaks after it appended the match that reaches `limit`, so it
returns one saga even where the limit is not positive. -/
def findFirst (world : World Data) (limit : Int) (wanted : SagaState Data → Bool) : List (SagaState Data) :=
  (world.repository.values.filter wanted).take (max limit 1).toNat

def findStalledSagas (world : World Data) (limit : Int) : List (SagaState Data) :=
  world.findFirst limit fun state => state.status = .running && !state.pendingCommands.isEmpty

def hasExpired (now : Int) (state : SagaState Data) : Bool :=
  state.status = .suspended && match state.timeoutAt with
    | some deadline => decide (deadline ≤ now)
    | none => false

def findExpiredSuspendedSagas (world : World Data) (now limit : Int) : List (SagaState Data) :=
  world.findFirst limit (hasExpired now)

def findRunningSagasWithTccSteps (world : World Data) (limit : Int) : List (SagaState Data) :=
  world.findFirst limit fun state => state.status = .running && !state.tccSteps.isEmpty

def absorb (world : World Data) (saga : Saga Data) : World Data :=
  {world with
    nextTag := saga.nextTag
    popped := world.popped ++ saga.popped.map fun entry => (saga.state.id,entry)}

end World

inductive ManagerError
  | saga (error : SagaError)
  | commandBus
  deriving DecidableEq, Repr

def markDispatched {Data : Type} (index : Nat) (state : SagaState Data) : SagaState Data :=
  {state with pendingCommands := state.pendingCommands.modify index fun entry => {entry with dispatched := true}}

def clearPending {Data : Type} (state : SagaState Data) : SagaState Data := {state with pendingCommands := []}

namespace SagaManager
variable {Data : Type}

def send (manager : SagaManager Data) (queued : QueuedCommand Data) (world : World Data) : Bool × World Data :=
  let tried := {world with attempts := world.attempts+1}
  if manager.commandBus world.attempts then (true,{tried with sent := tried.sent ++ [queued]})
  else (false,tried)

/-- The loop of `_dispatch_and_persist_commands` from position `index` on. It marks
the entry of `pending_commands` that stands at the position of the command in
`commands`; the flag of the result says that no send raised. -/
def dispatchAndPersistCommands (manager : SagaManager Data) :
    Nat → List (QueuedCommand Data) → SagaState Data → World Data → Bool × SagaState Data × World Data
  | _, [], state, world => (true,state,world)
  | index, queued::rest, state, world =>
    match manager.send queued world with
    | (false,tried) => (false,state,tried)
    | (true,accepted) =>
      let marked := markDispatched index state
      manager.dispatchAndPersistCommands (index+1) rest marked (accepted.add marked)

def injectTenantMetadata (event : DomainEvent Data) (state : SagaState Data) : SagaState Data :=
  match event.metadataTenantId,state.metadataTenantId with
  | some tenantId,none => if tenantId = "" then state else {state with metadataTenantId := some tenantId}
  | _,_ => state

def createInitialSagaState (sagaClass : SagaClass Data) (correlationId : String) (event : DomainEvent Data)
    (world : World Data) : SagaState Data × World Data :=
  let state := injectTenantMetadata event
    {SagaState.initial world.nextId sagaClass.name correlationId with maxRetries := sagaClass.maxRetries}
  (state,{world with nextId := world.nextId+1}.add state)

def loadOrCreate (sagaClass : SagaClass Data) (correlationId : String) (event : DomainEvent Data)
    (world : World Data) : SagaState Data × World Data :=
  match world.findByCorrelationId correlationId sagaClass.name with
  | some state => (state,world)
  | none => createInitialSagaState sagaClass correlationId event world

def instantiate (manager : SagaManager Data) (sagaClass : SagaClass Data) (state : SagaState Data)
    (world : World Data) : Saga Data :=
  Saga.create state (some manager.messageRegistry) sagaClass.registered world.nextTag

/-- `_process_saga` from the collected commands on. -/
def deliver (manager : SagaManager Data) (saga : Saga Data) (world : World Data) :
    World Data × Except ManagerError (Option Nat) :=
  let collected := saga.collectCommands
  let state := {collected.2.state with
    pendingCommands := collected.2.state.pendingCommands ++ collected.1.map serializeCommandForPending}
  let noted := {world with collected := world.collected ++ collected.1.map fun queued => (state.id,queued)}
  match manager.dispatchAndPersistCommands 0 collected.1 state (noted.add state) with
  | (false,_,stalled) => (stalled,.error .commandBus)
  | (true,marked,dispatched) => (dispatched.add (clearPending marked),.ok (some state.id))

def processSaga (manager : SagaManager Data) (sagaClass : SagaClass Data) (correlationId : String)
    (now : Int) (event : DomainEvent Data) (world : World Data) : World Data × Except ManagerError (Option Nat) :=
  let loaded := loadOrCreate sagaClass correlationId event world
  if loaded.1.isTerminal then (loaded.2,.ok none)
  else
    match (manager.instantiate sagaClass loaded.1 loaded.2).handle sagaClass now event with
    | (saga,some error) => ((loaded.2.absorb saga).add saga.state,.error (.saga error))
    | (saga,none) => manager.deliver saga (loaded.2.absorb saga)

def correlationIdFromEvent (event : DomainEvent Data) : Option String :=
  match event.correlationId with
  | some correlationId =>
    if correlationId = "" then event.metadataCorrelationId.filter (· ≠ "") else some correlationId
  | none => event.metadataCorrelationId.filter (· ≠ "")

/-- The `for` loop over the saga classes of an event stops at the first that raises. -/
def processAll (manager : SagaManager Data) (correlationId : String) (now : Int) (event : DomainEvent Data) :
    List (SagaClass Data) → World Data → World Data × Except ManagerError Unit
  | [], world => (world,.ok ())
  | sagaClass::rest, world =>
    match manager.processSaga sagaClass correlationId now event world with
    | (left,.error error) => (left,.error error)
    | (next,.ok _) => manager.processAll correlationId now event rest next

def handle (manager : SagaManager Data) (now : Int) (event : DomainEvent Data) (world : World Data) :
    World Data × Except ManagerError Unit :=
  match correlationIdFromEvent event with
  | some correlationId =>
    manager.processAll correlationId now event (manager.registry.getSagasForEvent event.eventType) world
  | none => (world,.ok ())

def startSaga (manager : SagaManager Data) (sagaClass : SagaClass Data) (now : Int) (event : DomainEvent Data)
    (correlationId : String) (world : World Data) : World Data × Except ManagerError (Option Nat) :=
  manager.processSaga sagaClass correlationId now event world

def deserializeCommand (manager : SagaManager Data) (command : Command Data) : Option (Command Data) :=
  match manager.messageRegistry.hydrateCommand command.typeName command.data with
  | some hydrated => some hydrated
  | none => if command.moduleName = "" then none else manager.importCommand command

def undispatched (state : SagaState Data) : List (PendingCommand Data × Nat) :=
  state.pendingCommands.zipIdx.filter fun entry => !isCommandDispatched entry.1

def redispatch (manager : SagaManager Data) :
    List (PendingCommand Data × Nat) → SagaState Data → World Data → Bool × SagaState Data × World Data
  | [], state, world => (true,state,world)
  | (entry,index)::rest, state, world =>
    match manager.deserializeCommand entry.queued.command with
    | none => (false,state,world)
    | some command =>
      match manager.send {entry.queued with command := command} world with
      | (false,tried) => (false,state,tried)
      | (true,accepted) =>
        let marked := markDispatched index state
        manager.redispatch rest marked (accepted.add marked)

def abandonReason (state : SagaState Data) : String :=
  "Saga recovery abandoned: max_retries (" ++ toString state.maxRetries ++ ") exceeded"

/-- The commands `fail` queues stay in the saga object, which is dropped here. -/
def failSagaMaxRetries (manager : SagaManager Data) (state : SagaState Data) (world : World Data) : World Data :=
  match manager.registry.getSagaType state.sagaType with
  | some sagaClass =>
    let failed := ((manager.instantiate sagaClass state world).fail (abandonReason state) true).1
    (world.absorb failed).add failed.state
  | none => world

def recoverSaga (manager : SagaManager Data) (state : SagaState Data) (world : World Data) : World Data :=
  if (undispatched state).isEmpty then
    if state.pendingCommands.isEmpty then world else world.add (clearPending state)
  else if state.retryCount ≥ state.maxRetries then manager.failSagaMaxRetries state world
  else
    let retried := {state with retryCount := state.retryCount+1}
    match manager.redispatch (undispatched retried) retried (world.add retried) with
    | (false,_,stalled) => stalled
    | (true,marked,dispatched) => dispatched.add {clearPending marked with retryCount := 0}

/-- The sweeps hold references to the stored states, so each turn reads the state
as the repository has it by then. -/
def sweep (each : SagaState Data → World Data → World Data) (found : List (SagaState Data))
    (world : World Data) : World Data :=
  found.foldl (fun current state => match current.repository.get state.id with
    | some stored => each stored current
    | none => current) world

def recoverPendingSagas (manager : SagaManager Data) (limit : Int) (world : World Data) : World Data :=
  sweep manager.recoverSaga (world.findStalledSagas limit) world

def timedOut (manager : SagaManager Data) (sagaClass : SagaClass Data) (now : Int) (state : SagaState Data)
    (world : World Data) : Saga Data :=
  let answered := match (manager.instantiate sagaClass state world).perform now (sagaClass.onTimeout now state) with
    | (saga,none) => saga
    | (saga,some error) =>
      if saga.state.status = .failed then saga
      else (saga.fail ("Timeout handler failed: " ++ error.message) true).1
  if World.hasExpired now answered.state then
    (answered.fail "Timeout handler did not resolve suspension" false).1
  else answered

/-- The sweeps log a failed send and go on with the next command. -/
def sendAll (manager : SagaManager Data) (commands : List (QueuedCommand Data)) (world : World Data) : World Data :=
  commands.foldl (fun current queued => (manager.send queued current).2) world

def flush (manager : SagaManager Data) (saga : Saga Data) (world : World Data) : World Data :=
  let collected := saga.collectCommands
  (manager.sendAll collected.1 (world.absorb collected.2)).add collected.2.state

def processTimeout (manager : SagaManager Data) (now : Int) (state : SagaState Data) (world : World Data) :
    World Data :=
  match manager.registry.getSagaType state.sagaType with
  | some sagaClass => manager.flush (manager.timedOut sagaClass now state world) world
  | none => world

def processTimeouts (manager : SagaManager Data) (now limit : Int) (world : World Data) : World Data :=
  sweep (manager.processTimeout now) (world.findExpiredSuspendedSagas now limit) world

/-- `check_tcc_timeouts` raises only without a message registry, and the manager
always passes its own; a raising one would leave its state unsaved. -/
def processTccTimeout (manager : SagaManager Data) (now : Int) (state : SagaState Data) (world : World Data) :
    World Data :=
  match manager.registry.getSagaType state.sagaType with
  | some sagaClass =>
    match (manager.instantiate sagaClass state world).checkTccTimeouts now with
    | (saga,none) => manager.flush saga world
    | (_,some _) => world
  | none => world

def processTccTimeouts (manager : SagaManager Data) (now limit : Int) (world : World Data) : World Data :=
  sweep (manager.processTccTimeout now) (world.findRunningSagasWithTccSteps limit) world

end SagaManager

inductive ManagerOp (Data : Type)
  | handle (now : Int) (event : DomainEvent Data)
  | startSaga (now : Int) (sagaClass : SagaClass Data) (event : DomainEvent Data) (correlationId : String)
  | recoverPendingSagas (limit : Int)
  | processTimeouts (now limit : Int)
  | processTccTimeouts (now limit : Int)

def SagaManager.step {Data : Type} (manager : SagaManager Data) (world : World Data) :
    ManagerOp Data → World Data
  | .handle now event => (manager.handle now event world).1
  | .startSaga now sagaClass event correlationId => (manager.startSaga sagaClass now event correlationId world).1
  | .recoverPendingSagas limit => manager.recoverPendingSagas limit world
  | .processTimeouts now limit => manager.processTimeouts now limit world
  | .processTccTimeouts now limit => manager.processTccTimeouts now limit world

end CqrsDdd.Sagas
