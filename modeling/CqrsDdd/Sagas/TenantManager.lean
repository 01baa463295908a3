import CqrsDdd.Client
import CqrsDdd.Sagas.TenantRepository

/-! The saga manager as a client of the tenant repository. Its calls are those of the
repository, the sends of the command bus and the uuids that it draws; an error of the
repository is raised where the call was made. -/
namespace CqrsDdd.Sagas

variable {Data : Type}

inductive ManagerCall (Data : Type)
  | repository (call : RepositoryCall Data)
  | send (command : Command Data)
  | uuid4

def ManagerCall.Reply : ManagerCall Data → Type
  | .repository call => call.Reply
  | .send _ => Bool
  | .uuid4 => Nat

inductive TenantFailure
  | saga (error : SagaError)
  | commandBus
  | notRegistered
  | repository (error : SagaAccessError)
  deriving DecidableEq, Repr

abbrev ManagerClient (Data : Type) := Client (ManagerCall Data) ManagerCall.Reply

abbrev ManagerProgram (Data : Type) := ExceptT TenantFailure (ManagerClient Data)

namespace ManagerProgram

def ask (call : RepositoryCall Data) : ManagerProgram Data call.Returned :=
  ExceptT.mk (.call (.repository call) fun reply => .done (Except.mapError TenantFailure.repository reply))

def add (saga : TenantSaga Data) : ManagerProgram Data (TenantSaga Data) := ask (.add saga)

def send (command : Command Data) : ManagerProgram Data Bool :=
  ExceptT.mk (.call (.send command) fun accepted => .done (.ok accepted))

def uuid4 : ManagerProgram Data Nat := ExceptT.mk (.call .uuid4 fun drawn => .done (.ok drawn))

end ManagerProgram

namespace TenantManager

open ManagerProgram SagaManager

def instantiate (manager : SagaManager Data) (sagaClass : SagaClass Data) (saga : TenantSaga Data) : Saga Data :=
  manager.instantiate sagaClass saga.state World.empty

def dispatchAndPersistCommands :
    Nat → List (QueuedCommand Data) → TenantSaga Data → ManagerProgram Data (TenantSaga Data)
  | _, [], saga => pure saga
  | index, queued::rest, saga => do
    if ← send queued.command then
      let marked ← add (saga.update (markDispatched index))
      dispatchAndPersistCommands (index+1) rest marked
    else throw .commandBus

def createInitialSagaState (sagaClass : SagaClass Data) (correlationId : String) (event : DomainEvent Data) :
    ManagerProgram Data (TenantSaga Data) := do
  let id ← uuid4
  let state := {SagaState.initial id sagaClass.name correlationId with maxRetries := sagaClass.maxRetries}
  add ⟨injectTenantMetadata event state,none⟩

def loadOrCreate (sagaClass : SagaClass Data) (correlationId : String) (event : DomainEvent Data) :
    ManagerProgram Data (TenantSaga Data) := do
  match ← ask (.findByCorrelationId correlationId sagaClass.name) with
  | some saga => pure saga
  | none => createInitialSagaState sagaClass correlationId event

/-- `_process_saga` from the collected commands on. -/
def deliver (saga : TenantSaga Data) (handled : Saga Data) : ManagerProgram Data (Option Nat) := do
  let collected := handled.collectCommands
  let noted ← add (saga.update fun _ => {collected.2.state with
    pendingCommands := collected.2.state.pendingCommands ++ collected.1.map serializeCommandForPending})
  let marked ← dispatchAndPersistCommands 0 collected.1 noted
  let cleared ← add (marked.update clearPending)
  pure (some cleared.state.id)

def processSaga (manager : SagaManager Data) (sagaClass : SagaClass Data) (correlationId : String) (now : Int)
    (event : DomainEvent Data) : ManagerProgram Data (Option Nat) := do
  let saga ← loadOrCreate sagaClass correlationId event
  if saga.state.isTerminal then pure none
  else
    match (instantiate manager sagaClass saga).handle sagaClass now event with
    | (handled,some error) => do
      let _ ← add (saga.update fun _ => handled.state)
      throw (.saga error)
    | (handled,none) => deliver saga handled

def handle (manager : SagaManager Data) (now : Int) (event : DomainEvent Data) : ManagerProgram Data Unit :=
  match correlationIdFromEvent event with
  | some correlationId => (manager.registry.getSagasForEvent event.eventType).forM fun sagaClass => do
    let _ ← processSaga manager sagaClass correlationId now event
  | none => pure ()

def redispatch (manager : SagaManager Data) :
    List (PendingCommand Data × Nat) → TenantSaga Data → ManagerProgram Data Unit
  | [], saga => do
    let _ ← add (saga.update fun state => {clearPending state with retryCount := 0})
  | (entry,index)::rest, saga =>
    match manager.deserializeCommand entry.queued.command with
    | none => throw .notRegistered
    | some command => do
      if ← send command then
        let marked ← add (saga.update (markDispatched index))
        redispatch manager rest marked
      else throw .commandBus

def failSagaMaxRetries (manager : SagaManager Data) (saga : TenantSaga Data) : ManagerProgram Data Unit :=
  match manager.registry.getSagaType saga.state.sagaType with
  | some sagaClass => do
    let failed := ((instantiate manager sagaClass saga).fail (abandonReason saga.state) true).1
    let _ ← add (saga.update fun _ => failed.state)
  | none => pure ()

def recoverSaga (manager : SagaManager Data) (saga : TenantSaga Data) : ManagerProgram Data Unit :=
  if (undispatched saga.state).isEmpty then
    if saga.state.pendingCommands.isEmpty then pure ()
    else do
      let _ ← add (saga.update clearPending)
  else if saga.state.retryCount ≥ saga.state.maxRetries then failSagaMaxRetries manager saga
  else do
    let retried ← add (saga.update fun state => {state with retryCount := state.retryCount + 1})
    Client.caught (redispatch manager (undispatched saga.state) retried)

def recoverPendingSagas (manager : SagaManager Data) (limit : Int) : ManagerProgram Data Unit := do
  let stalled ← ask (.findStalledSagas limit none)
  List.forM stalled (recoverSaga manager)

/-- A failed send is logged, and the next command follows. -/
def flush (saga : TenantSaga Data) (handled : Saga Data) : ManagerProgram Data Unit := do
  let collected := handled.collectCommands
  collected.1.forM fun queued => do
    let _ ← send queued.command
  let _ ← add (saga.update fun _ => collected.2.state)

def processTimeout (manager : SagaManager Data) (now : Int) (saga : TenantSaga Data) : ManagerProgram Data Unit :=
  match manager.registry.getSagaType saga.state.sagaType with
  | some sagaClass => flush saga (manager.timedOut sagaClass now saga.state World.empty)
  | none => pure ()

def processTimeouts (manager : SagaManager Data) (now limit : Int) : ManagerProgram Data Unit := do
  let expired ← ask (.findExpiredSuspendedSagas now limit none)
  List.forM expired (processTimeout manager now)

def processTccTimeout (manager : SagaManager Data) (now : Int) (saga : TenantSaga Data) : ManagerProgram Data Unit :=
  match manager.registry.getSagaType saga.state.sagaType with
  | some sagaClass =>
    match (instantiate manager sagaClass saga).checkTccTimeouts now with
    | (checked,none) => flush saga checked
    | (_,some _) => pure ()
  | none => pure ()

def processTccTimeouts (manager : SagaManager Data) (now limit : Int) : ManagerProgram Data Unit := do
  let running ← ask (.findRunningSagasWithTccSteps limit none)
  List.forM running (processTccTimeout manager now)

/-- An operation returns the id of a saga if `start_saga` does. -/
def program (manager : SagaManager Data) : ManagerOp Data → ManagerProgram Data (Option Nat)
  | .handle now event => do
    handle manager now event
    pure none
  | .startSaga now sagaClass event correlationId => processSaga manager sagaClass correlationId now event
  | .recoverPendingSagas limit => do
    recoverPendingSagas manager limit
    pure none
  | .processTimeouts now limit => do
    processTimeouts manager now limit
    pure none
  | .processTccTimeouts now limit => do
    processTccTimeouts manager now limit
    pure none

end TenantManager

/-- The repository with what the calls of one operation have consumed and sent. -/
structure Session (Data : Type) where
  repository : SagaStore Data
  attempts : Nat
  sent : List (Command Data)
  drawn : Nat

def Session.start (repository : SagaStore Data) : Session Data := ⟨repository,0,[],0⟩

/-- The answers of the repository in a context, of the bus and of `uuid4`. -/
def answer (context : Option String) (commandBus : Nat → Bool) (uuid4 : Nat → Nat) :
    Client.Service (ManagerCall Data) ManagerCall.Reply (Session Data)
  | .repository call, session =>
    let performed := call.perform context session.repository
    (performed.1,{session with repository := performed.2})
  | .send command, session =>
    (commandBus session.attempts,{session with
      attempts := session.attempts + 1
      sent := if commandBus session.attempts then session.sent ++ [command] else session.sent})
  | .uuid4, session => (uuid4 session.drawn,{session with drawn := session.drawn + 1})

end CqrsDdd.Sagas
