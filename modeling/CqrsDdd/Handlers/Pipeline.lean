import CqrsDdd.Logged
import CqrsDdd.Conflict.DeepMerge

/-! Command handlers behind a pipeline of behaviours: retries of exceptions and the resolution of conflicts. The methods
of a handler act on a state of their own and may raise; what is logged are their calls and what they raise. -/
namespace CqrsDdd.Handlers

open Logged

inductive Raised (Error : Type)
  | concurrency (message : String)
  | other (error : Error)
  deriving DecidableEq, Repr

inductive ConflictResolutionPolicy
  | firstWins
  | lastWins
  | merge
  | custom
  deriving DecidableEq, Repr

structure ConflictConfig where
  policy : ConflictResolutionPolicy := .firstWins
  strategyName : Option String := none
  ignoreConflicts : Bool := false
  includeFields : Option (List String) := none
  excludeFields : Option (List String) := none
  appendLists : Bool := false
  listIdentityKey : Conflict.IdentityKey := .field "id"

/-- A command with the mixins that it has: the retries of its policy and the configuration of conflicts. -/
structure Command (Payload : Type) where
  maxRetries : Option Int
  conflictConfig : Option ConflictConfig
  payload : Payload

inductive Event (State Error : Type)
  | process
  | raised (failure : Raised Error)
  | retry (attempt : Nat)
  | merged (existing incoming state : State)

abbrev IMergeStrategy (State Error : Type) := State → State → Except (Raised Error) State

/-- What `get_pipeline` makes of the behaviours, in the order in which they were added. -/
def getPipeline {Stage : Type} (behaviors : List (Stage → Stage)) (process : Stage) : Stage :=
  behaviors.reverse.foldl (fun pipeline behavior => behavior pipeline) process

/-- The pipeline in which each behaviour wraps those that were added before it. -/
def lastOutermost {Stage : Type} (behaviors : List (Stage → Stage)) (process : Stage) : Stage :=
  behaviors.foldl (fun pipeline behavior => behavior pipeline) process

/-- The methods that a handler has to implement. An updated command differs in its payload only. -/
structure Methods (World Payload State Error Response : Type) where
  process : Payload → World → Except (Raised Error) Response × World
  fetchLatestState : Payload → World → Except (Raised Error) (Option State) × World
  getIncomingState : Payload → World → Except (Raised Error) State × World
  updateCommand : Payload → State → World → Except (Raised Error) Payload × World

/-- The strategy injected into a handler, its registry (what `create` makes of a configuration), the strategies of the
library and the error of a missing registry. -/
structure Strategies (State Error : Type) where
  mergeStrategy : Option (IMergeStrategy State Error)
  strategyRegistry : Option (ConflictConfig → Except (Raised Error) (Option (IMergeStrategy State Error)))
  deep : Bool → Conflict.IdentityKey → IMergeStrategy State Error
  field : Bool → Option (List String) → Option (List String) → IMergeStrategy State Error
  registryMissing : String → Error

namespace Strategies

variable {State Error : Type} (strategies : Strategies State Error)

def createStrategyFromRegistry (config : ConflictConfig) (name : String) :
    Except (Raised Error) (Option (IMergeStrategy State Error)) :=
  match strategies.strategyRegistry with
  | none => .error (.other (strategies.registryMissing ("Conflict strategy '" ++ name ++
      "' was requested, but no 'strategy_registry' was provided to the handler.")))
  | some create => create config

def inferStrategyFromPolicy (config : ConflictConfig) : Option (IMergeStrategy State Error) :=
  match config.policy with
  | .merge =>
    if config.appendLists ∨ config.strategyName = some "deep" then
      some (strategies.deep config.appendLists config.listIdentityKey)
    else some (strategies.field config.ignoreConflicts config.includeFields config.excludeFields)
  | .lastWins => some (strategies.deep false (.field "id"))
  | .firstWins | .custom => none

def getMergeStrategy (config : ConflictConfig) : Except (Raised Error) (Option (IMergeStrategy State Error)) :=
  match strategies.mergeStrategy with
  | some strategy => .ok (some strategy)
  | none =>
    match config.strategyName with
    | none => .ok (strategies.inferStrategyFromPolicy config)
    | some name =>
      if name = "" then .ok (strategies.inferStrategyFromPolicy config)
      else do
        match ← strategies.createStrategyFromRegistry config name with
        | some strategy => return some strategy
        | none => return strategies.inferStrategyFromPolicy config

end Strategies

section Behaviors

variable {World Payload State Error Response Result : Type}

abbrev Stage (World Payload State Error Response : Type) :=
  Command Payload → Action World (Raised Error) (Event State Error) Response

/-- Code outside the pipeline; what it raises is logged. -/
def call (code : World → Except (Raised Error) Result × World) :
    Action World (Raised Error) (Event State Error) Result := fun world =>
  match code world with
  | (.ok result,after) => ⟨.ok result,after,[]⟩
  | (.error failure,after) => ⟨.error failure,after,[.raised failure]⟩

def pureCall (attempt : Except (Raised Error) Result) : Action World (Raised Error) (Event State Error) Result :=
  call fun world => (attempt,world)

def process (methods : Methods World Payload State Error Response) : Stage World Payload State Error Response :=
  fun command => chain (note .process) fun _ => call (methods.process command.payload)

/-- The loop of `_retry_behavior`, with `left` for what `attempt` leaves of `max_retries`. -/
def retryLoop (nextFn : Stage World Payload State Error Response) (command : Command Payload) :
    Nat → Nat → Action World (Raised Error) (Event State Error) Response
  | 0,_ => nextFn command
  | left + 1,attempt => rescue (nextFn command) fun failure =>
    match failure with
    | .concurrency message => raise (.concurrency message)
    | .other _ => chain (note (.retry (attempt + 1))) fun _ => retryLoop nextFn command left (attempt + 1)

def retryBehavior (nextFn : Stage World Payload State Error Response) : Stage World Payload State Error Response :=
  fun command =>
    match command.maxRetries with
    | none => nextFn command
    | some maxRetries => retryLoop nextFn command maxRetries.toNat 0

variable (methods : Methods World Payload State Error Response) (strategies : Strategies State Error)

def resolveConflict (nextFn : Stage World Payload State Error Response) : Stage World Payload State Error Response :=
  fun command =>
    match command.conflictConfig with
    | none => nextFn command
    | some config => chain (call (methods.fetchLatestState command.payload)) fun current =>
      match current with
      | none => nextFn command
      | some currentState => chain (call (methods.getIncomingState command.payload)) fun incomingState =>
        chain (pureCall (strategies.getMergeStrategy config)) fun chosen =>
        match chosen with
        | none => nextFn command
        | some strategy => chain (pureCall (strategy currentState incomingState)) fun mergedState =>
          chain (note (.merged currentState incomingState mergedState)) fun _ =>
          chain (call (methods.updateCommand command.payload mergedState)) fun payload =>
          nextFn ⟨command.maxRetries,command.conflictConfig,payload⟩

def maxAttempts : Raised Error := .concurrency "Max conflict resolution attempts reached"

/-- The loop of `_conflict_resolution_behavior`, with the number of attempts that are left. -/
def conflictLoop (nextFn : Stage World Payload State Error Response) (command : Command Payload) :
    Nat → Action World (Raised Error) (Event State Error) Response
  | 0 => raise maxAttempts
  | 1 => rescue (nextFn command) fun failure =>
    match failure with
    | .concurrency _ => raise maxAttempts
    | .other error => raise (.other error)
  | left + 2 => rescue (nextFn command) fun failure =>
    match failure with
    | .concurrency _ => rescue (resolveConflict methods strategies nextFn command) fun again =>
      match again with
      | .concurrency _ => conflictLoop nextFn command (left + 1)
      | .other error => raise (.other error)
    | .other error => raise (.other error)

def conflictResolutionBehavior (nextFn : Stage World Payload State Error Response) :
    Stage World Payload State Error Response :=
  fun command =>
    match command.conflictConfig with
    | none => nextFn command
    | some config =>
      if config.policy = .firstWins then nextFn command else conflictLoop methods strategies nextFn command 3

/-- `ResilientCommandHandler` adds the resolution of conflicts and then the retries. -/
def resilientPipeline : Stage World Payload State Error Response :=
  getPipeline [conflictResolutionBehavior methods strategies,retryBehavior] (process methods)

end Behaviors

end CqrsDdd.Handlers
