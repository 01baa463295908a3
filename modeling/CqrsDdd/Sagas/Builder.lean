import CqrsDdd.Sagas.Manager
import Mathlib.Data.List.Dedup

/-! `SagaBuilder`: its calls, the validation of `build`, and the constructor of the
class that it generates. The state class that it passes on is left out. -/
namespace CqrsDdd.Sagas

variable {Data : Type}

abbrev CommandFactory (Data : Type) := DomainEvent Data → Except String (Command Data)

/-- The arguments of one call of `on`. -/
structure OnConfig (Data : Type) where
  handler : Option (EventHandler Data) := none
  send : Option (CommandFactory Data) := none
  sendAll : Option (DomainEvent Data → Except String (List (Command Data))) := none
  step : Option String := none
  compensate : Option (CommandFactory Data) := none
  compensateDescription : String := ""
  complete : Bool := false
  suspend : Option String := none
  suspendTimeout : Option Int := none
  resume : Bool := false
  fail : Option String := none

/-- What a handler of a generated class does. The second half is the wiring of the TCC events. -/
inductive BuilderAction (Data : Type)
  | handler (run : EventHandler Data)
  | resume
  | step (name : String)
  | send (factory : CommandFactory Data)
  | sendAll (factory : DomainEvent Data → Except String (List (Command Data)))
  | compensate (factory : CommandFactory Data) (description : String)
  | suspend (reason : String) (timeout : Option Int)
  | fail (reason : String)
  | complete
  | begin
  | tried (stepName : String)
  | confirmed (stepName : String)
  | failed (stepName : String)
  | cancelled (stepName : String)

/-- The attributes of an event by name, `none` where `getattr` gives its default. -/
abbrev Attributes (Data : Type) := DomainEvent Data → String → Option String

def failureReason (attributes : Attributes Data) (event : DomainEvent Data) : String :=
  let reason := (attributes event "reason").getD ""
  if reason = "" then (attributes event "error").getD "" else reason

def BuilderAction.act (attributes : Attributes Data) (now : Int) (event : DomainEvent Data)
    (state : SagaState Data) : BuilderAction Data → List (SagaAction Data)
  | .handler run => run now event state
  | .resume => [.resume]
  | .step name => [.setStep name]
  | .send factory =>
    match factory event with
    | .ok command => [.dispatch command]
    | .error text => [.raise text]
  | .sendAll factory =>
    match factory event with
    | .ok commands => commands.map .dispatch
    | .error text => [.raise text]
  | .compensate factory description =>
    match factory event with
    | .ok command => [.addCompensation command description]
    | .error text => [.raise text]
  | .suspend reason timeout => [.suspend reason timeout]
  | .fail reason => [.fail reason true]
  | .complete => [.complete]
  | .begin => [.beginTcc]
  | .tried stepName => [.tcc (.tried stepName)]
  | .confirmed stepName => [.tcc (.confirmed stepName)]
  | .failed stepName => [.tcc (.failed stepName (failureReason attributes event))]
  | .cancelled stepName => [.tcc (.cancelled stepName)]

def actAll (attributes : Attributes Data) (actions : List (BuilderAction Data)) : EventHandler Data :=
  fun now event state => actions.flatMap (BuilderAction.act attributes now event state)

namespace OnConfig

def buildHandlerActions (config : OnConfig Data) : List (BuilderAction Data) :=
  (if config.resume then [.resume] else []) ++
    config.step.toList.map .step ++
    config.send.toList.map .send ++
    config.sendAll.toList.map .sendAll ++
    config.compensate.toList.map (.compensate · config.compensateDescription) ++
    config.suspend.toList.map (.suspend · config.suspendTimeout) ++
    config.fail.toList.map .fail ++
    (if config.complete then [.complete] else [])

/-- `_register_on_mapping`. -/
def mapping (config : OnConfig Data) : List (BuilderAction Data) :=
  match config.handler with
  | some handler => [.handler handler]
  | none => config.buildHandlerActions

/-- An empty text is falsy. -/
def truthy (text : Option String) : Bool := text.any (· ≠ "")

def validateOn (config : OnConfig Data) : Except SagaError Unit :=
  let dispatches := config.send.isSome || config.sendAll.isSome || config.complete
  if config.handler.isSome then
    if dispatches || truthy config.suspend || truthy config.fail || config.resume then
      .error (.configuration "'handler' is mutually exclusive with all other action parameters.")
    else .ok ()
  else if config.send.isSome && config.sendAll.isSome then
    .error (.configuration "'send' and 'send_all' are mutually exclusive.")
  else if config.suspend.isSome && (dispatches || truthy config.fail) then
    .error (.configuration ("'suspend' is mutually exclusive with 'send', 'send_all', " ++ "'complete', and 'fail'."))
  else if config.fail.isSome && (dispatches || truthy config.suspend) then
    .error (.configuration ("'fail' is mutually exclusive with 'send', 'send_all', " ++ "'complete', and 'suspend'."))
  else if config.suspendTimeout.isSome && config.suspend.isNone then
    .error (.configuration "'suspend_timeout' requires 'suspend'.")
  else if !(dispatches || truthy config.suspend || truthy config.fail || config.resume) then
    .error (.configuration ("At least one action is required: handler, send, send_all, " ++
      "complete, suspend, fail, or resume."))
  else .ok ()

end OnConfig

structure SagaBuilder (Data : Type) where
  name : String
  onRegistrations : List (String × OnConfig Data)
  tccSteps : List (TCCStep Data)
  maxRetries : Option Nat
  onTimeoutFn : Option (Int → SagaState Data → List (SagaAction Data))
  tccBeginEvent : Option String
  tccTried : List (String × String)
  tccConfirmed : List (String × String)
  tccFailed : List (String × String)
  tccCancelled : List (String × String)

inductive BuilderCall (Data : Type)
  | on (eventType : String) (config : OnConfig Data)
  | withHandler (eventType : String) (handler : EventHandler Data)
  | withTccStep (step : TCCStep Data)
  | onTccBegin (eventType : String)
  | onTccTried (stepName eventType : String)
  | onTccConfirmed (stepName eventType : String)
  | onTccFailed (stepName eventType : String)
  | onTccCancelled (stepName eventType : String)
  | withMaxRetries (maxRetries : Nat)
  | onTimeout (fn : Int → SagaState Data → List (SagaAction Data))

namespace SagaBuilder

def new (name : String) : SagaBuilder Data := ⟨name,[],[],none,none,none,[],[],[],[]⟩

def on (builder : SagaBuilder Data) (eventType : String) (config : OnConfig Data) : Except SagaError (SagaBuilder Data) :=
  match config.validateOn with
  | .error error => .error error
  | .ok () => .ok {builder with onRegistrations := builder.onRegistrations ++ [(eventType,config)]}

def call (builder : SagaBuilder Data) : BuilderCall Data → Except SagaError (SagaBuilder Data)
  | .on eventType config => builder.on eventType config
  | .withHandler eventType handler => builder.on eventType {handler := some handler}
  | .withTccStep step => .ok {builder with tccSteps := builder.tccSteps ++ [step]}
  | .onTccBegin eventType =>
    if builder.tccBeginEvent.isSome then .error (.configuration "on_tcc_begin() can only be called once.")
    else .ok {builder with tccBeginEvent := some eventType}
  | .onTccTried stepName eventType => .ok {builder with tccTried := builder.tccTried ++ [(stepName,eventType)]}
  | .onTccConfirmed stepName eventType =>
    .ok {builder with tccConfirmed := builder.tccConfirmed ++ [(stepName,eventType)]}
  | .onTccFailed stepName eventType => .ok {builder with tccFailed := builder.tccFailed ++ [(stepName,eventType)]}
  | .onTccCancelled stepName eventType =>
    .ok {builder with tccCancelled := builder.tccCancelled ++ [(stepName,eventType)]}
  | .withMaxRetries maxRetries => .ok {builder with maxRetries := some maxRetries}
  | .onTimeout fn => .ok {builder with onTimeoutFn := some fn}

/-- A call that raises leaves the builder as it was. -/
def callAll (builder : SagaBuilder Data) (calls : List (BuilderCall Data)) : SagaBuilder Data :=
  calls.foldl (fun builder made => (builder.call made).toOption.getD builder) builder

def tccStepNames (builder : SagaBuilder Data) : List String := builder.tccSteps.map (·.name)

def validateTccConsistency (builder : SagaBuilder Data) : Except SagaError Unit :=
  if !builder.tccSteps.isEmpty && builder.tccBeginEvent.isNone then
    .error (.configuration ("TCC steps are registered but on_tcc_begin() was not called. " ++
      "Specify which event triggers begin_tcc()."))
  else if builder.tccBeginEvent.isSome && builder.tccSteps.isEmpty then
    .error (.configuration ("on_tcc_begin() was called but no TCC steps are registered. " ++
      "Add steps with with_tcc_step()."))
  else .ok ()

/-- A sorted list of names as it is formatted, for names without quotes or escapes. -/
def listed (names : List String) : String :=
  "[" ++ ", ".intercalate ((names.dedup.mergeSort fun first second => first ≤ second).map fun name => "'" ++ name ++ "'") ++ "]"

def unknownStep (label stepName : String) (known : List String) : SagaError :=
  .configuration (label ++ "('" ++ stepName ++ "', ...) references unknown " ++ "TCC step. Known steps: " ++ listed known)

def validateTccStepNames (builder : SagaBuilder Data) : Except SagaError Unit :=
  let entries := builder.tccTried.map (("on_tcc_tried",·)) ++ builder.tccConfirmed.map (("on_tcc_confirmed",·)) ++
    builder.tccFailed.map (("on_tcc_failed",·)) ++ builder.tccCancelled.map (("on_tcc_cancelled",·))
  match entries.find? fun entry => entry.2.1 ∉ builder.tccStepNames with
  | some entry => .error (unknownStep entry.1 entry.2.1 builder.tccStepNames)
  | none => .ok ()

def collectAllEvents (builder : SagaBuilder Data) : List String :=
  builder.onRegistrations.map Prod.fst ++ builder.tccBeginEvent.toList ++ builder.tccTried.map Prod.snd ++
    builder.tccConfirmed.map Prod.snd ++ builder.tccFailed.map Prod.snd ++ builder.tccCancelled.map Prod.snd

def duplicateEvent (eventType : String) : SagaError :=
  .configuration ("Duplicate event registration for " ++ eventType ++ ". " ++
    "Each event can only appear once across on(), " ++ "on_tcc_begin(), on_tcc_tried(), on_tcc_confirmed(), " ++
    "on_tcc_failed(), and on_tcc_cancelled().")

/-- The loop of `_validate_no_duplicate_events` with the types seen so far. -/
def noDuplicates (seen : List String) : List String → Except SagaError Unit
  | [] => .ok ()
  | event::rest => if event ∈ seen then .error (duplicateEvent event) else noDuplicates (event::seen) rest

def validateBuild (builder : SagaBuilder Data) : Except SagaError Unit := do
  builder.validateTccConsistency
  builder.validateTccStepNames
  noDuplicates [] builder.collectAllEvents

def addEvent (events : List String) (event : String) : List String :=
  if event ∈ events then events else events ++ [event]

def collectListenedEvents (builder : SagaBuilder Data) : List String := builder.collectAllEvents.foldl addEvent []

end SagaBuilder

/-- The class that `build` returns. Its constructor closes over the lists of the builder. -/
structure GeneratedClass (Data : Type) where
  listensTo : List String
  snapshot : SagaBuilder Data

def SagaBuilder.build (builder : SagaBuilder Data) : Except SagaError (GeneratedClass Data) :=
  match builder.validateBuild with
  | .error error => .error error
  | .ok () => .ok ⟨builder.collectListenedEvents,builder⟩

abbrev EventHandlers (Data : Type) := Dict String (List (BuilderAction Data))

structure SagaInstance (Data : Type) where
  saga : Saga Data
  eventHandlers : EventHandlers Data

/-- The four loops that wire the events of a TCC step. -/
def wireTcc (action : String → BuilderAction Data) (entries : List (String × String)) (handlers : EventHandlers Data) :
    EventHandlers Data :=
  entries.foldl (fun handlers entry => handlers.set entry.2 [action entry.1]) handlers

def wireTccTriedHandlers (entries : List (String × String)) (handlers : EventHandlers Data) : EventHandlers Data :=
  wireTcc .tried entries handlers

def wireTccConfirmedHandlers (entries : List (String × String)) (handlers : EventHandlers Data) : EventHandlers Data :=
  wireTcc .confirmed entries handlers

def wireTccFailedHandlers (entries : List (String × String)) (handlers : EventHandlers Data) : EventHandlers Data :=
  wireTcc .failed entries handlers

def wireTccCancelledHandlers (entries : List (String × String)) (handlers : EventHandlers Data) : EventHandlers Data :=
  wireTcc .cancelled entries handlers

def wireTccBeginHandler (event : Option String) (handlers : EventHandlers Data) : EventHandlers Data :=
  match event with
  | some event => handlers.set event [.begin]
  | none => handlers

namespace GeneratedClass

def init (generated : GeneratedClass Data) (state : SagaState Data) (messageRegistry : Option (MessageRegistry Data))
    (nextTag : Nat) : Except SagaError (SagaInstance Data) :=
  let builder := generated.snapshot
  let state := {state with maxRetries := builder.maxRetries.getD state.maxRetries}
  let replayed : EventHandlers Data := builder.onRegistrations.foldl
    (fun handlers registration => handlers.set registration.1 registration.2.mapping) Dict.empty
  match builder.tccSteps.foldlM TCCSteps.addTccStep TCCSteps.empty with
  | .error error => .error error
  | .ok registered => .ok {
      saga := Saga.create state messageRegistry registered nextTag
      eventHandlers := wireTccCancelledHandlers builder.tccCancelled (wireTccFailedHandlers builder.tccFailed
        (wireTccConfirmedHandlers builder.tccConfirmed (wireTccTriedHandlers builder.tccTried
          (wireTccBeginHandler builder.tccBeginEvent replayed))))}

end GeneratedClass

def SagaInstance.asClass (made : SagaInstance Data) (attributes : Attributes Data) (generated : GeneratedClass Data) :
    SagaClass Data where
  name := generated.snapshot.name
  registered := made.saga.registered
  maxRetries := made.saga.state.maxRetries
  eventHandlers := made.eventHandlers.entries.map fun entry => (entry.1,actAll attributes entry.2)
  onTimeout := generated.snapshot.onTimeoutFn.getD failOnTimeout

end CqrsDdd.Sagas
