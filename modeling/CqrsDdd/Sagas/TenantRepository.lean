import CqrsDdd.Multitenancy.Guards
import CqrsDdd.Sagas.Manager

/-! The tenant mixin over the in-memory saga repository. What it lists it restricts to
the tenant in the query; what it gets or finds by correlation id it checks afterwards. -/
namespace CqrsDdd.Sagas

open Multitenancy

variable {Data : Type}

/-- A saga state with its `tenant_id`, which the mixin sets beside the one in the metadata. -/
structure TenantSaga (Data : Type) where
  state : SagaState Data
  tenantId : Option String
  deriving DecidableEq, Repr

def TenantSaga.update (saga : TenantSaga Data) (change : SagaState Data → SagaState Data) : TenantSaga Data :=
  {saga with state := change saga.state}

inductive SagaAccessError
  | tenantContextMissing
  | crossTenantAccess (currentTenant targetTenant : String) (resourceId : Nat)
  | attributeError
  | unhashable
  deriving DecidableEq, Repr

abbrev SagaSpecification (Data : Type) := TenantSaga Data → Bool

abbrev SagaStore (Data : Type) := Dict Nat (TenantSaga Data)

namespace InMemorySagaRepository

def add (store : SagaStore Data) (saga : TenantSaga Data) : SagaStore Data := store.set saga.state.id saga

def listAll (store : SagaStore Data) (entityIds : Option (List Nat)) (specification : SagaSpecification Data) :
    List (TenantSaga Data) :=
  let candidates := match entityIds with
    | none => store.values
    | some ids => (store.entries.filter fun entry : Nat × TenantSaga Data => entry.1 ∈ ids).map Prod.snd
  candidates.filter specification

def search (store : SagaStore Data) (criteria : SagaSpecification Data) : List (TenantSaga Data) :=
  store.values.filter criteria

def correlated (correlationId sagaType : String) (saga : TenantSaga Data) : Bool :=
  saga.state.correlationId = correlationId && saga.state.sagaType = sagaType

def findByCorrelationId (store : SagaStore Data) (correlationId sagaType : String) : Option (TenantSaga Data) :=
  store.values.find? (correlated correlationId sagaType)

/-- The four finders, which return one saga even where the limit is not positive. -/
def findFirst (store : SagaStore Data) (limit : Int) (wanted : SagaState Data → Bool)
    (specification : SagaSpecification Data) : List (TenantSaga Data) :=
  (store.values.filter fun saga => specification saga && wanted saga.state).take (max limit 1).toNat

def stalled (state : SagaState Data) : Bool := state.status = .running && !state.pendingCommands.isEmpty

def suspended (state : SagaState Data) : Bool := state.status = .suspended

def runningTcc (state : SagaState Data) : Bool := state.status = .running && !state.tccSteps.isEmpty

/-- The repository has no method of this name. -/
def update : Except SagaAccessError Unit := .error .attributeError

/-- The mixin passes on the state as the key to pop, and a state has no hash. -/
def delete : Except SagaAccessError Unit := .error .unhashable

end InMemorySagaRepository

namespace MultitenantSagaMixin

def requireTenantContext (context : Option String) : Except SagaAccessError String :=
  match context with
  | none => .error .tenantContextMissing
  | some tenantId => .ok (if tenantId = "" then systemTenant else tenantId)

def buildTenantSpecification (tenantId : String) : SagaSpecification Data := fun saga => saga.tenantId = some tenantId

def getTenantIdFromSaga (saga : TenantSaga Data) : Option String := saga.tenantId.or saga.state.metadataTenantId

/-- The saga names no other tenant. -/
def permits (saga : TenantSaga Data) (tenantId : String) : Bool := (getTenantIdFromSaga saga).all (· = tenantId)

def denied (saga : TenantSaga Data) (tenantId : String) : SagaAccessError :=
  .crossTenantAccess tenantId ((getTenantIdFromSaga saga).getD "") saga.state.id

def injectTenantToSaga (saga : TenantSaga Data) (tenantId : String) : Except SagaAccessError (TenantSaga Data) :=
  if permits saga tenantId then
    .ok {state := {saga.state with metadataTenantId := some (saga.state.metadataTenantId.getD tenantId)}
         tenantId := some (saga.tenantId.getD tenantId)}
  else .error (denied saga tenantId)

def combined (tenantId : String) (specification : Option (SagaSpecification Data)) : SagaSpecification Data :=
  fun saga => buildTenantSpecification tenantId saga && specification.all (· saga)

/-- The specification that a query of the context is run with. -/
def restricted (context : Option String) (specification : Option (SagaSpecification Data)) :
    Except SagaAccessError (SagaSpecification Data) := do
  if isSystemTenant context then return fun saga => specification.all (· saga)
  let tenantId ← requireTenantContext context
  return combined tenantId specification

/-- It returns the saga as the call leaves it. -/
def add (context : Option String) (store : SagaStore Data) (saga : TenantSaga Data) :
    Except SagaAccessError (TenantSaga Data × SagaStore Data) := do
  if isSystemTenant context then return (saga,InMemorySagaRepository.add store saga)
  let tenantId ← requireTenantContext context
  let injected ← injectTenantToSaga saga tenantId
  return (injected,InMemorySagaRepository.add store injected)

/-- A saga of another tenant is withheld. -/
def checked (context : Option String) (found : Option (TenantSaga Data)) :
    Except SagaAccessError (Option (TenantSaga Data)) := do
  if isSystemTenant context then return found
  let tenantId ← requireTenantContext context
  return found.filter fun saga => permits saga tenantId

def get (context : Option String) (store : SagaStore Data) (sagaId : Nat) :
    Except SagaAccessError (Option (TenantSaga Data)) :=
  checked context (store.get sagaId)

def findByCorrelationId (context : Option String) (store : SagaStore Data) (correlationId sagaType : String) :
    Except SagaAccessError (Option (TenantSaga Data)) :=
  checked context (InMemorySagaRepository.findByCorrelationId store correlationId sagaType)

/-- The check that `update` and `delete` make before they hand on to the repository. -/
def validated (context : Option String) (saga : TenantSaga Data) (base : Except SagaAccessError Unit) :
    Except SagaAccessError Unit := do
  if isSystemTenant context then base
  else
    let tenantId ← requireTenantContext context
    if permits saga tenantId then base else throw (denied saga tenantId)

def update (context : Option String) (saga : TenantSaga Data) : Except SagaAccessError Unit :=
  validated context saga InMemorySagaRepository.update

def delete (context : Option String) (saga : TenantSaga Data) : Except SagaAccessError Unit :=
  validated context saga InMemorySagaRepository.delete

def listAll (context : Option String) (store : SagaStore Data) (entityIds : Option (List Nat))
    (specification : Option (SagaSpecification Data)) : Except SagaAccessError (List (TenantSaga Data)) :=
  (restricted context specification).map (InMemorySagaRepository.listAll store entityIds)

/-- Criteria without `__and__` count as none, which the system may not pass on. -/
def search (context : Option String) (store : SagaStore Data) (criteria : Option (SagaSpecification Data)) :
    Except SagaAccessError (List (TenantSaga Data)) :=
  if isSystemTenant context && criteria.isNone then .error .attributeError
  else (restricted context criteria).map (InMemorySagaRepository.search store)

def findFirst (context : Option String) (store : SagaStore Data) (limit : Int) (wanted : SagaState Data → Bool)
    (specification : Option (SagaSpecification Data)) : Except SagaAccessError (List (TenantSaga Data)) :=
  (restricted context specification).map (InMemorySagaRepository.findFirst store limit wanted)

def findStalledSagas (context : Option String) (store : SagaStore Data) (limit : Int)
    (specification : Option (SagaSpecification Data)) : Except SagaAccessError (List (TenantSaga Data)) :=
  findFirst context store limit InMemorySagaRepository.stalled specification

def findSuspendedSagas (context : Option String) (store : SagaStore Data) (limit : Int)
    (specification : Option (SagaSpecification Data)) : Except SagaAccessError (List (TenantSaga Data)) :=
  findFirst context store limit InMemorySagaRepository.suspended specification

def findExpiredSuspendedSagas (context : Option String) (store : SagaStore Data) (now limit : Int)
    (specification : Option (SagaSpecification Data)) : Except SagaAccessError (List (TenantSaga Data)) :=
  findFirst context store limit (World.hasExpired now) specification

def findRunningSagasWithTccSteps (context : Option String) (store : SagaStore Data) (limit : Int)
    (specification : Option (SagaSpecification Data)) : Except SagaAccessError (List (TenantSaga Data)) :=
  findFirst context store limit InMemorySagaRepository.runningTcc specification

end MultitenantSagaMixin

inductive RepositoryCall (Data : Type)
  | add (saga : TenantSaga Data)
  | get (sagaId : Nat)
  | update (saga : TenantSaga Data)
  | delete (saga : TenantSaga Data)
  | listAll (entityIds : Option (List Nat)) (specification : Option (SagaSpecification Data))
  | search (criteria : Option (SagaSpecification Data))
  | findByCorrelationId (correlationId sagaType : String)
  | findStalledSagas (limit : Int) (specification : Option (SagaSpecification Data))
  | findSuspendedSagas (limit : Int) (specification : Option (SagaSpecification Data))
  | findExpiredSuspendedSagas (now limit : Int) (specification : Option (SagaSpecification Data))
  | findRunningSagasWithTccSteps (limit : Int) (specification : Option (SagaSpecification Data))

namespace RepositoryCall

/-- What a call returns when it does not raise. -/
def Returned : RepositoryCall Data → Type
  | .add _ => TenantSaga Data
  | .get _ | .findByCorrelationId _ _ => Option (TenantSaga Data)
  | .update _ | .delete _ => Unit
  | .listAll _ _ | .search _ | .findStalledSagas _ _ | .findSuspendedSagas _ _ | .findExpiredSuspendedSagas _ _ _ |
    .findRunningSagasWithTccSteps _ _ => List (TenantSaga Data)

abbrev Reply (call : RepositoryCall Data) : Type := Except SagaAccessError call.Returned

open MultitenantSagaMixin in
def perform (context : Option String) (store : SagaStore Data) : (call : RepositoryCall Data) → call.Reply × SagaStore Data
  | .add saga =>
    match MultitenantSagaMixin.add context store saga with
    | .ok (injected,after) => (.ok injected,after)
    | .error error => (.error error,store)
  | .get sagaId => (MultitenantSagaMixin.get context store sagaId,store)
  | .update saga => (MultitenantSagaMixin.update context saga,store)
  | .delete saga => (MultitenantSagaMixin.delete context saga,store)
  | .listAll entityIds specification => (MultitenantSagaMixin.listAll context store entityIds specification,store)
  | .search criteria => (MultitenantSagaMixin.search context store criteria,store)
  | .findByCorrelationId correlationId sagaType =>
    (MultitenantSagaMixin.findByCorrelationId context store correlationId sagaType,store)
  | .findStalledSagas limit specification =>
    (MultitenantSagaMixin.findStalledSagas context store limit specification,store)
  | .findSuspendedSagas limit specification =>
    (MultitenantSagaMixin.findSuspendedSagas context store limit specification,store)
  | .findExpiredSuspendedSagas now limit specification =>
    (MultitenantSagaMixin.findExpiredSuspendedSagas context store now limit specification,store)
  | .findRunningSagasWithTccSteps limit specification =>
    (MultitenantSagaMixin.findRunningSagasWithTccSteps context store limit specification,store)

end RepositoryCall

end CqrsDdd.Sagas
