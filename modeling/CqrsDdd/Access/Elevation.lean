import CqrsDdd.Access.StepUp
import CqrsDdd.Transition

/-! One step-up saga with its event log and command queue. Events are delivered in
any order and any number of times, the dispatched commands are handled in the
order of their dispatch, and the timeout sweep may come in between. -/
namespace CqrsDdd.Access.StepUp

open Sagas Specifications

variable {Object : Type}

/-- What surrounds the saga. `uuid` draws the event ids, and the message registry rebuilds a
command from its dump or not at all. -/
structure Deployment (Object : Type) where
  messageRegistry : MessageRegistry (StepUpCommand Object)
  rebuilds : ∀ (command : StepUpCommand Object) rebuilt,
    messageRegistry.hydrateCommand command.typeName command = some rebuilt → rebuilt = command.toCommand
  uuid : Nat → String
  distinct : Function.Injective uuid
  modules : Modules Object
  revokeHandler : RevokeElevationHandler := {}
  resumeHandler : ResumeSensitiveOperationHandler := {}

/-- `delivered` holds the positions in `occurred` of the events that were delivered. `handled`, the events
that the saga did not ignore, and `resumed`, the operations whose resume was handled, are history. -/
structure World (Object : Type) where
  saga : StepUpAuthenticationSaga Object
  queue : List (QueuedCommand (StepUpCommand Object)) := []
  occurred : List (StepUpEvent Object) := []
  delivered : List Nat := []
  handled : List (SagaEvent Object) := []
  resumed : List String := []

/-- `raise` is an event from outside with its first delivery, `process` the next command with what the
mediator answers to a replay. -/
inductive Step (Object : Type)
  | raise (now : Int) (event : SagaEvent Object)
  | deliver (now : Int) (index : Nat)
  | process (now : Int) (answer : Option String)
  | processTimeouts (now : Int)

namespace World

def initial (deployment : Deployment Object) (id : Nat) (correlationId : String) (mfaTtlSeconds : Int) :
    World Object where
  saga := {
    saga := Saga.create (SagaState.initial id "StepUpAuthenticationSaga" correlationId)
      (some deployment.messageRegistry) TCCSteps.empty 0
    mfaTtlSeconds := mfaTtlSeconds }

def collect (world : World Object) (saga : StepUpAuthenticationSaga Object) : World Object :=
  let collected := saga.saga.collectCommands
  {world with saga := {saga with saga := collected.2}, queue := world.queue ++ collected.1}

def hear (deployment : Deployment Object) (now : Int) (index : Nat) (event : SagaEvent Object)
    (world : World Object) : World Object :=
  let eventId := deployment.uuid index
  {world.collect (world.saga.handle now eventId event) with
    delivered := world.delivered ++ [index]
    handled := if world.saga.ignores eventId then world.handled else world.handled ++ [event]}

def respond (deployment : Deployment Object) (now : Int) (answer : Option String) (commandId : Nat) :
    StepUpCommand Object → List (StepUpEvent Object)
  | .grantTemporaryElevation cmd => (GrantTemporaryElevationHandler.handle now commandId cmd).events
  | .revokeElevation cmd => (deployment.revokeHandler.handle commandId cmd).events
  | .resumeSensitiveOperation cmd => (deployment.resumeHandler.handle deployment.modules answer commandId cmd).events

def resumption : StepUpCommand Object → Option String
  | .resumeSensitiveOperation cmd => some cmd.operationId
  | _ => none

def step (deployment : Deployment Object) (world : World Object) : Step Object → World Object
  | .raise now event =>
    hear deployment now world.occurred.length event {world with occurred := world.occurred ++ [.heard event]}
  | .deliver now index =>
    match world.occurred[index]? with
    | some (.heard event) => world.hear deployment now index event
    | some _ => {world with delivered := world.delivered ++ [index]}
    | none => world
  | .process now answer =>
    match world.queue with
    | [] => world
    | queued::rest => {world with
        queue := rest
        occurred := world.occurred ++ respond deployment now answer queued.tag queued.command.data
        resumed := world.resumed ++ (resumption queued.command.data).toList}
  | .processTimeouts now =>
    if World.hasExpired now world.saga.saga.state then world.collect (world.saga.timedOut now) else world

end World

/-- An elevation is what the two events of the handlers tell of it. What becomes of the ACL entry, and whether
`undo` removes it, is left to the services that are called. -/
def elevation (userId : String) (elevated : Bool) : StepUpEvent Object → Bool
  | .temporaryElevationGranted granted _ _ => elevated || granted = userId
  | .temporaryElevationRevoked revoked _ => elevated && revoked ≠ userId
  | _ => elevated

/-- The user was granted an elevation that was not revoked afterwards. -/
def Elevated (userId : String) (occurred : List (StepUpEvent Object)) : Prop :=
  occurred.foldl (elevation userId) false = true

def isRequest : SagaEvent Object → Bool
  | .sensitiveOperationRequested .. => true
  | _ => false

/-- The last request that the saga handled is one of this user for this action. -/
def Requested (userId operationId action : String) (handled : List (SagaEvent Object)) : Prop :=
  ∃ earlier between commandData,
    handled = earlier ++ .sensitiveOperationRequested userId operationId action commandData::between ∧
      ∀ event ∈ between, isRequest event = false

/-- The user verified an MFA challenge while the last request was one of this user for this action. -/
def Verified (userId action : String) (handled : List (SagaEvent Object)) : Prop :=
  ∃ earlier later operationId method, handled = earlier ++ .mfaChallengeVerified userId method::later ∧
    Requested userId operationId action earlier

namespace World

def Settled (world : World Object) : Prop :=
  world.queue = [] ∧ (∀ index event, world.occurred[index]? = some (.heard event) → index ∈ world.delivered) ∧
    world.saga.saga.state.status ≠ .suspended

structure Safe (world : World Object) : Prop where
  granted : ∀ userId action ttlSeconds, .temporaryElevationGranted userId action ttlSeconds ∈ world.occurred →
    Verified userId action world.handled
  once : world.resumed.Nodup
  revoked : world.Settled → ∀ userId, ¬Elevated userId world.occurred

end World

def due (userId : String) (elevated : Bool) : StepUpCommand Object → Bool
  | .grantTemporaryElevation cmd => elevated || cmd.userId = userId
  | .revokeElevation cmd => elevated && cmd.userId ≠ userId
  | .resumeSensitiveOperation _ => elevated

def revokes (userId : String) : StepUpCommand Object → Bool
  | .revokeElevation cmd => cmd.userId = userId
  | _ => false

namespace World

def commands (world : World Object) : List (StepUpCommand Object) := world.queue.map (·.command.data)

def owed (world : World Object) (userId : String) : Bool :=
  world.commands.foldl (due userId) (world.occurred.foldl (elevation userId) false)

/-- The operations whose resume was handled or is queued. -/
def resumptions (world : World Object) : List String := world.resumed ++ world.commands.filterMap resumption

/-- A resume is queued, or an event of a completed operation waits for its delivery. -/
def UnderWay (world : World Object) : Prop :=
  (∃ command ∈ world.commands, (resumption command).isSome) ∨
    ∃ index userId operationId, world.occurred[index]? = some (.heard (.sensitiveOperationCompleted userId operationId)) ∧
      index ∉ world.delivered

end World

def ResumeSensitiveOperationHandler.replays (modules : Modules Object) (handler : ResumeSensitiveOperationHandler)
    (answer : Option String) (cmd : ResumeSensitiveOperation Object) : Bool :=
  match handler.replayable cmd with
  | some commandData => match replay modules answer cmd commandData with
    | .ok (some _) => true
    | _ => false
  | none => false

namespace World

/-- A verification finds an operation that was not resumed before, or where it names none, no elevation that
only the waiting saga could still revoke; a completion finds no elevation of anyone but the user of the saga. -/
def Admits (world : World Object) : SagaEvent Object → Prop
  | .sensitiveOperationRequested .. => True
  | .mfaChallengeVerified userId _ => world.saga.userId = some userId →
    match world.saga.requested with
    | some (_,operationId) => operationId ∉ world.resumptions
    | none => world.saga.status = .suspended → (∃ user, world.owed user = true) → world.UnderWay
  | .sensitiveOperationCompleted .. =>
    ∀ user, world.owed user = true → world.saga.userId = some user ∧ user ≠ ""

def Heard (deployment : Deployment Object) (index : Nat) (event : SagaEvent Object) (world : World Object) : Prop :=
  world.saga.ignores (deployment.uuid index) = false → world.Admits event

/-- A resume that is handled while the saga runs is replayed, unless another one is under way; a timeout finds no
elevation of another user whose compensation cannot be rebuilt. -/
def Allowed (deployment : Deployment Object) (world : World Object) : Step Object → Prop
  | .raise _ event => world.Heard deployment world.occurred.length event
  | .deliver _ index => ∀ event, world.occurred[index]? = some (.heard event) → world.Heard deployment index event
  | .process _ answer => ∀ queued rest cmd, world.queue = queued::rest →
    queued.command.data = .resumeSensitiveOperation cmd →
    world.saga.saga.state.isTerminal = false → world.saga.status ≠ .suspended →
    deployment.resumeHandler.replays deployment.modules answer cmd = true ∨ {world with queue := rest}.UnderWay
  | .processTimeouts now => World.hasExpired now world.saga.saga.state = true →
    ∀ user, world.owed user = true → (world.saga.userId = some user ∧ user ≠ "") ∨
      (deployment.messageRegistry.hydrateCommand "RevokeElevation" (world.saga.compensation user)).isSome

end World
end CqrsDdd.Access.StepUp
