import CqrsDdd.Transition
import Mathlib.Logic.Function.Basic

/-! The mediator as a pool of tasks. A task has its own copy of the context
variable `_current_uow`; `asyncio.gather` runs the handlers of an event as tasks
of their own, and lets the others go on when one of them raises. A schedule picks
the task that goes on; the semaphore of the dispatcher only forbids schedules.
Every root command gets a number, and code knows the root it works for, but only
the log reads these. -/
namespace CqrsDdd.Transactions

mutual
/-- What a handler, a middleware or a hook does with the mediator. A handler
returns the handlers of each event of its response; the code after a nested
command depends on whether that raised, and lets an exception through by raising. -/
inductive Code
  | returns (events : List (List Code))
  | raises
  | onCommit (hook rest : Code)
  | send (command : Command) (returned raised : Code)

inductive Middleware
  | mk (before after recover : Code)

inductive Command
  | mk (handled : Bool) (middlewares : List Middleware) (handler : Code)
end

/-- Who runs a piece of code: a caller of the mediator, a handler in the tree of a
root command, or a hook that such a tree registered on a unit of work. -/
inductive Origin
  | outside
  | tree (root : Nat)
  | hook (root uow : Nat)
  deriving DecidableEq

namespace Mediator

inductive Event
  | began (call : Nat) (current : Option Nat)
  | ended (call : Nat) (current : Option Nat)
  | started (root : Nat)
  | created (root uow : Nat)
  | saw (root : Nat) (current : Option Nat)
  | dispatched (root : Nat) (returned : Bool)
  | committed (root uow : Nat) (succeeded : Bool)
  | rolledBack (root uow : Nat) (succeeded : Bool)
  | hookRan (root : Nat)
  | hookSent (root sent : Nat)
  deriving DecidableEq, Repr

inductive Frame
  | call (number : Nat)
  | resume (origin : Origin) (returned raised : Code)
  | before (root : Nat) (after recover : Code) (rest : List Middleware) (handler : Code)
  | around (root : Nat) (after recover : Code)
  | response (root : Nat)
  | events (root : Nat) (rest : List (List Code))
  | scope (root uow : Nat) (token : Option Nat)
  | drain (root uow : Nat)

/-- A result that is `none` is an exception on its way. -/
inductive Control
  | run (origin : Origin) (code : Code)
  | send (origin : Origin) (command : Command)
  | dispatchCommand (root : Nat) (command : Command)
  | pipeline (root : Nat) (middlewares : List Middleware) (handler : Code)
  | dispatch (root : Nat) (events : List (List Code))
  | gather (root : Nat) (children : List Nat)
  | triggerCommitHooks (root uow : Nat)
  | leave (result : Option (List (List Code)))
  | finished (raised : Bool)

structure Task where
  current : Option Nat
  control : Control
  stack : List Frame

structure State where
  tasks : List Task
  onCommitHooks : Nat → List (Nat × Code)
  nextCall : Nat
  nextRoot : Nat
  nextUow : Nat
  log : List Event

structure Move where
  task : Task
  spawned : List Task
  added : List Event
  onCommitHooks : Nat → List (Nat × Code)
  nextCall : Nat
  nextRoot : Nat
  nextUow : Nat

def State.move (state : State) (task : Task) (added : List Event) : Move :=
  ⟨task,[],added,state.onCommitHooks,state.nextCall,state.nextRoot,state.nextUow⟩

/-- A handler looks up the current unit of work; a hook holds on to the one it was registered on. -/
def target (current : Option Nat) : Origin → Option (Nat × Nat)
  | .outside => none
  | .tree root => current.map fun uow => (root,uow)
  | .hook root uow => some (root,uow)

def sees (current : Option Nat) : Origin → List Event
  | .tree root => [.saw root current]
  | _ => []

def runCode (state : State) (task : Task) (origin : Origin) : Code → Move
  | .returns events => state.move ⟨task.current,.leave (some events),task.stack⟩ (sees task.current origin)
  | .raises => state.move ⟨task.current,.leave none,task.stack⟩ (sees task.current origin)
  | .onCommit hook rest =>
    let moved := state.move ⟨task.current,.run origin rest,task.stack⟩ (sees task.current origin)
    match target task.current origin with
    | none => moved
    | some (root,uow) =>
      {moved with onCommitHooks := Function.update state.onCommitHooks uow (state.onCommitHooks uow ++ [(root,hook)])}
  | .send command returned raised =>
    state.move ⟨task.current,.send origin command,.resume origin returned raised::task.stack⟩ (sees task.current origin)

/-- A command sent from a tree belongs to the tree; any other one starts a root.
Whether a unit of work is opened depends on the context variable alone. -/
def send (state : State) (task : Task) (origin : Origin) (command : Command) : Move :=
  let root := match origin with
    | .tree root => root
    | _ => state.nextRoot
  let started := match origin with
    | .tree _ => []
    | _ => [Event.started root]
  let sent := match origin with
    | .hook owner _ => [Event.hookSent owner root]
    | _ => []
  let stack := .call state.nextCall::task.stack
  match task.current with
  | some uow =>
    ⟨⟨some uow,.dispatchCommand root command,stack⟩,[],.began state.nextCall task.current::(started ++ sent),
      state.onCommitHooks,state.nextCall+1,state.nextRoot+1,state.nextUow⟩
  | none =>
    ⟨⟨some state.nextUow,.dispatchCommand root command,.scope root state.nextUow none::stack⟩,[],
      .began state.nextCall task.current::(started ++ Event.created root state.nextUow::sent),
      state.onCommitHooks,state.nextCall+1,state.nextRoot+1,state.nextUow+1⟩

def dispatchCommand (state : State) (task : Task) (root : Nat) : Command → Move
  | ⟨handled,middlewares,handler⟩ =>
    if handled then state.move ⟨task.current,.pipeline root middlewares handler,.response root::task.stack⟩ []
    else state.move ⟨task.current,.leave none,task.stack⟩ []

def pipeline (state : State) (task : Task) (root : Nat) (handler : Code) : List Middleware → Move
  | [] => state.move ⟨task.current,.run (.tree root) handler,task.stack⟩ []
  | ⟨before,after,recover⟩::rest =>
    state.move ⟨task.current,.run (.tree root) before,.before root after recover rest handler::task.stack⟩ []

/-- `gather` makes a task of every handler, with a copy of the context. -/
def dispatch (state : State) (task : Task) (root : Nat) : List (List Code) → Move
  | [] => state.move ⟨task.current,.leave (some []),task.stack⟩ []
  | handlers::rest =>
    let children := (List.range' state.tasks.length handlers.length)
    {state.move ⟨task.current,.gather root children,.events root rest::task.stack⟩ [] with
      spawned := handlers.map fun handler => ⟨task.current,.run (.tree root) handler,[]⟩}

def State.outcome (state : State) (child : Nat) : Option Bool :=
  match state.tasks[child]? with
  | some ⟨_,.finished raised,_⟩ => some raised
  | _ => none

/-- The first exception of a child ends the wait, and the children that are not
done go on; without one, all children have to return. -/
def gather (state : State) (task : Task) (children : List Nat) : Move :=
  if children.any fun child => state.outcome child = some true then
    state.move ⟨task.current,.leave none,task.stack⟩ []
  else if children.all fun child => state.outcome child = some false then
    state.move ⟨task.current,.leave (some []),task.stack⟩ []
  else state.move task []

def triggerCommitHooks (state : State) (task : Task) (root uow : Nat) : Move :=
  match state.onCommitHooks uow with
  | [] => state.move ⟨task.current,.leave (some []),task.stack⟩ []
  | (owner,hook)::rest =>
    {state.move ⟨task.current,.run (.hook owner uow) hook,.drain root uow::task.stack⟩ [.hookRan owner] with
      onCommitHooks := Function.update state.onCommitHooks uow rest}

/-- A result reaches the innermost frame. The context variable is reset before
`__aexit__` commits or rolls back; `succeeds` is the outcome of that call. -/
def leave (state : State) (task : Task) (succeeds : Bool) (result : Option (List (List Code))) : Move :=
  match task.stack with
  | [] => state.move ⟨task.current,.finished result.isNone,[]⟩ []
  | .call number::rest => state.move ⟨task.current,.leave result,rest⟩ [.ended number task.current]
  | .resume origin returned raised::rest =>
    state.move ⟨task.current,.run origin (if result.isSome then returned else raised),rest⟩ []
  | .before root after recover middlewares handler::rest =>
    if result.isSome then
      state.move ⟨task.current,.pipeline root middlewares handler,.around root after recover::rest⟩ []
    else state.move ⟨task.current,.leave none,rest⟩ []
  | .around root after recover::rest =>
    state.move ⟨task.current,.run (.tree root) (if result.isSome then after else recover),rest⟩ []
  | .response root::rest =>
    match result with
    | some events => state.move ⟨task.current,.dispatch root events,rest⟩ []
    | none => state.move ⟨task.current,.leave none,rest⟩ []
  | .events root events::rest =>
    if result.isSome then state.move ⟨task.current,.dispatch root events,rest⟩ []
    else state.move ⟨task.current,.leave none,rest⟩ []
  | .scope root uow token::rest =>
    if result.isSome then
      state.move ⟨token,if succeeds then .triggerCommitHooks root uow else .leave none,rest⟩
        [.dispatched root true,.committed root uow succeeds]
    else state.move ⟨token,.leave none,rest⟩ [.dispatched root false,.rolledBack root uow succeeds]
  | .drain root uow::rest => state.move ⟨task.current,.triggerCommitHooks root uow,rest⟩ []

def advance (state : State) (task : Task) (succeeds : Bool) : Move :=
  match task.control with
  | .run origin code => runCode state task origin code
  | .send origin command => send state task origin command
  | .dispatchCommand root command => dispatchCommand state task root command
  | .pipeline root middlewares handler => pipeline state task root handler middlewares
  | .dispatch root events => dispatch state task root events
  | .gather _ children => gather state task children
  | .triggerCommitHooks root uow => triggerCommitHooks state task root uow
  | .leave result => leave state task succeeds result
  | .finished _ => state.move task []

def State.apply (state : State) (index : Nat) (move : Move) : State :=
  ⟨state.tasks.set index move.task ++ move.spawned,move.onCommitHooks,move.nextCall,move.nextRoot,move.nextUow,
    state.log ++ move.added⟩

/-- A choice is the task that goes on and the outcome of a commit or rollback it makes. -/
def step (state : State) (choice : Nat × Bool) : State :=
  match state.tasks[choice.1]? with
  | none => state
  | some task => state.apply choice.1 (advance state task choice.2)

def start (callers : List Code) : State :=
  ⟨callers.map fun code => ⟨none,.run .outside code,[]⟩,fun _ => [],0,0,0,[]⟩

def run (callers : List Code) (schedule : List (Nat × Bool)) : State :=
  Transition.run step (start callers) schedule

def Event.creates (root : Nat) : Event → Bool
  | .created owner _ => owner = root
  | _ => false

def Event.commits (root : Nat) : Event → Bool
  | .committed owner _ _ => owner = root
  | _ => false

def Event.rollsBack (root : Nat) : Event → Bool
  | .rolledBack owner _ _ => owner = root
  | _ => false

/-- The call began a root command, which was dispatched and then committed or rolled back. -/
def Settled (log : List Event) (call : Nat) : Prop :=
  ∃ root uow succeeded, [Event.began call none,.started root] <:+: log ∧
    (.dispatched root true ∈ log ∧ .committed root uow succeeded ∈ log ∨
      .dispatched root false ∈ log ∧ .rolledBack root uow succeeded ∈ log)

/-- One transaction for each root command: one unit of work, which all of its tree
sees; one call of commit when its dispatch returned and one of rollback when it
raised; hooks after the commit only, and a new unit of work for what they send; every call
of `send` leaves the current unit of work as it was, and one that sees none ends
after its root was settled. -/
structure OneTransaction (log : List Event) : Prop where
  opensOne : ∀ root, log.countP (Event.creates root) = log.count (.started root) ∧ log.count (.started root) ≤ 1
  opensNew : ∀ root other uow, .created root uow ∈ log → .created other uow ∈ log → root = other
  seen : ∀ root current, .saw root current ∈ log → ∃ uow, .created root uow ∈ log ∧ current = some uow
  commits : ∀ root, log.countP (Event.commits root) = log.count (.dispatched root true)
  rollsBack : ∀ root, log.countP (Event.rollsBack root) = log.count (.dispatched root false)
  settlesOnce : ∀ root, log.count (.dispatched root true) + log.count (.dispatched root false) ≤ 1
  itsOwn : ∀ root uow succeeded, .committed root uow succeeded ∈ log ∨ .rolledBack root uow succeeded ∈ log →
    .created root uow ∈ log
  hooksLate : ∀ earlier root later, log = earlier ++ Event.hookRan root::later →
    ∃ uow, .committed root uow true ∈ earlier
  hooksSend : ∀ root sent, .hookSent root sent ∈ log → ∃ uow, .created sent uow ∈ log ∧ .created root uow ∉ log
  restores : ∀ call before after, .began call before ∈ log → .ended call after ∈ log → before = after
  ends : ∀ earlier call later, log = earlier ++ Event.ended call none::later → Settled earlier call

end Mediator

end CqrsDdd.Transactions
