import CqrsDdd.Dict
import CqrsDdd.Searching.SearchResults
import CqrsDdd.Specifications.Evaluation

/-! The tenant mixin over a repository that keeps entities by id. Reads and deletes go
through a specification that the mixin composes with the tenant's; a write goes
by the id alone. -/
namespace CqrsDdd.Multitenancy

open Specifications

/-- What `setattr`, and after it `model_copy`, do with an attribute of an entity. -/
inductive Assignment
  | setattr
  | modelCopy
  | neither
  | raises
  deriving DecidableEq, Repr

structure Entity (Id Object : Type) where
  id : Id
  attributes : Fields Object
  modelDump : Option (Fields Object) := none
  assignment : Assignment := .setattr

inductive Failure (Object : Type)
  | tenantContextMissing
  | crossTenantAccess (currentTenant : String) (targetTenant : Value Object)
  | raised (failure : Specifications.Failure)

/-- Any implementation of the protocol; `composable` tells whether it has `__and__`, which is not part of it. -/
structure ISpecification (Id Object : Type) where
  isSatisfiedBy : Entity Id Object → Except (Failure Object) Bool
  composable : Bool

structure QueryOptions (Id Object : Type) where
  specification : Option (ISpecification Id Object) := none
  limit : Option Int := none
  offset : Option Int := none
  orderBy : List String := []
  distinct : Bool := false
  groupBy : List String := []
  selectFields : List String := []

inductive Criteria (Id Object : Type)
  | specification (specification : ISpecification Id Object)
  | dict (data : Fields Object)
  | options (options : QueryOptions Id Object)
  | none

/-- An entity and the tenant in whose context it was added, which the repository does not record. -/
structure Stored (Id Object : Type) where
  entity : Entity Id Object
  storedUnder : String

abbrev Store (Id Object : Type) := Dict Id (Stored Id Object)

variable {Id Object : Type}

/-- `AndSpecification`. -/
def ISpecification.both (first second : ISpecification Id Object) : ISpecification Id Object where
  isSatisfiedBy entity := do if ← first.isSatisfiedBy entity then second.isSatisfiedBy entity else return false
  composable := true

/-- A specification of the package; its base class has `__and__`. -/
def ISpecification.ofTree (registry : Registry Object) (tree : Specification Object) : ISpecification Id Object where
  isSatisfiedBy entity := (tree.isSatisfiedBy registry entity.attributes).mapError .raised
  composable := true

namespace InMemoryRepository

def add [DecidableEq Id] (store : Store Id Object) (stored : Stored Id Object) : Store Id Object :=
  store.set stored.entity.id stored

def get [DecidableEq Id] (store : Store Id Object) (id : Id) (specification : Option (ISpecification Id Object)) :
    Except (Failure Object) (Option (Entity Id Object)) :=
  match store.get id,specification with
  | some stored,some specification => do
    if ← specification.isSatisfiedBy stored.entity then return some stored.entity else return none
  | found,_ => .ok (found.map Stored.entity)

def delete [DecidableEq Id] (store : Store Id Object) (id : Id) (specification : Option (ISpecification Id Object)) :
    Except (Failure Object) (Store Id Object) :=
  match store.get id,specification with
  | some stored,some specification => do
    if ← specification.isSatisfiedBy stored.entity then return store.erase id else return store
  | _,_ => .ok (store.erase id)

def matching (specification : Option (ISpecification Id Object)) (candidates : List (Stored Id Object)) :
    Except (Failure Object) (List (Entity Id Object)) :=
  match specification with
  | none => .ok (candidates.map Stored.entity)
  | some specification =>
    (Attempts.select (fun stored => specification.isSatisfiedBy stored.entity) candidates).map (List.map Stored.entity)

/-- The entities that `list_all` starts from. -/
def candidates [DecidableEq Id] (store : Store Id Object) : Option (List Id) → List (Stored Id Object)
  | none => store.values
  | some ids => (store.entries.filter fun entry => entry.1 ∈ ids).map Prod.snd

def listAll [DecidableEq Id] (store : Store Id Object) (ids : Option (List Id))
    (specification : Option (ISpecification Id Object)) : Except (Failure Object) (List (Entity Id Object)) :=
  matching specification (candidates store ids)

/-- Only a specification has an `is_satisfied_by` to call. -/
def isSatisfiedBy (criteria : Criteria Id Object) (entity : Entity Id Object) : Except (Failure Object) Bool :=
  match criteria with
  | .specification specification => specification.isSatisfiedBy entity
  | .options _ | .dict _ | .none => .error (.raised .attributeError)

/-- The awaited result of `search`. -/
def search (store : Store Id Object) (criteria : Criteria Id Object) :
    Except (Failure Object) (List (Entity Id Object)) :=
  Searching.InMemoryRepository.listFn isSatisfiedBy (store.values.map Stored.entity) criteria

end InMemoryRepository

def systemTenant : String := "__system__"

def isSystemTenant (context : Option String) : Bool := context = some systemTenant

/-- A class made of the mixin and a repository, which has its own way with query options; the rest is what lies outside
of both. -/
structure MultitenantRepository (Id Object : Type) where
  tenantColumn : String := "tenant_id"
  plain : '.' ∉ tenantColumn.toList
  runtime : Runtime Object
  registry : Registry Object
  searchOptions : QueryOptions Id Object → Store Id Object → Except (Failure Object) (List (Entity Id Object)) :=
    fun options store => InMemoryRepository.search store (.options options)

namespace MultitenantRepository

def requireTenantContext : Option String → Except (Failure Object) String
  | none => .error .tenantContextMissing
  | some "" => .ok systemTenant
  | some tenant => .ok tenant

def getTenantIdFromEntity (repository : MultitenantRepository Id Object) (entity : Entity Id Object) : Value Object :=
  match entity.attributes.lookup repository.tenantColumn,entity.modelDump with
  | some tenant,_ => tenant
  | none,some data => (data.lookup repository.tenantColumn).getD .null
  | none,none => .null

def setTenantIdOnEntity (repository : MultitenantRepository Id Object) (entity : Entity Id Object) (tenant : String) :
    Except (Failure Object) (Entity Id Object) :=
  match entity.assignment with
  | .setattr | .modelCopy =>
    .ok { entity with attributes := Dict.put repository.tenantColumn (.text tenant) entity.attributes }
  | .neither => .ok entity
  | .raises => .error (.raised .valueError)

/-- The part of `add` before the entity is handed on. -/
def inject (repository : MultitenantRepository Id Object) (tenant : String) (entity : Entity Id Object) :
    Except (Failure Object) (Entity Id Object) :=
  match getTenantIdFromEntity repository entity with
  | .null => setTenantIdOnEntity repository entity tenant
  | existing =>
    if existing.isText tenant then setTenantIdOnEntity repository entity tenant
    else .error (.crossTenantAccess tenant existing)

def buildTenantSpecification (repository : MultitenantRepository Id Object) (tenant : String) :
    ISpecification Id Object :=
  .ofTree repository.registry (.attribute ⟨.text repository.tenantColumn,.eq,.text tenant⟩)

def composeSpecs (tenantSpec : ISpecification Id Object) :
    Option (ISpecification Id Object) → ISpecification Id Object
  | none => tenantSpec
  | some other => if other.composable then tenantSpec.both other else tenantSpec

def composeTenantFilter (repository : MultitenantRepository Id Object) (tenant : String) :
    Criteria Id Object → Criteria Id Object
  | .specification criteria =>
    if criteria.composable then .specification ((buildTenantSpecification repository tenant).both criteria)
    else .specification criteria
  | .dict criteria =>
    match SpecificationFactory.fromDict repository.runtime none (.dict criteria) with
    | .ok tree => .specification ((buildTenantSpecification repository tenant).both (.ofTree repository.registry tree))
    | .error _ => .dict [("op",.text "and"),("conditions",.list [.dict [("op",.text "="),
        ("attr",.text repository.tenantColumn),("val",.text tenant)],.dict criteria])]
  | .none => .specification (buildTenantSpecification repository tenant)
  | .options criteria => .options criteria

/-- The specification that a call hands on to the repository. -/
def restricted (repository : MultitenantRepository Id Object) (context : Option String)
    (specification : Option (ISpecification Id Object)) :
    Except (Failure Object) (Option (ISpecification Id Object)) := do
  if isSystemTenant context then return specification
  let tenant ← requireTenantContext context
  return some (composeSpecs (buildTenantSpecification repository tenant) specification)

def add [DecidableEq Id] (repository : MultitenantRepository Id Object) (context : Option String)
    (store : Store Id Object) (entity : Entity Id Object) : Except (Failure Object) (Store Id Object × Id) := do
  if isSystemTenant context then return (InMemoryRepository.add store ⟨entity,systemTenant⟩,entity.id)
  let tenant ← requireTenantContext context
  let labelled ← inject repository tenant entity
  return (InMemoryRepository.add store ⟨labelled,tenant⟩,labelled.id)

def get [DecidableEq Id] (repository : MultitenantRepository Id Object) (context : Option String)
    (store : Store Id Object) (id : Id) (specification : Option (ISpecification Id Object)) :
    Except (Failure Object) (Option (Entity Id Object)) := do
  InMemoryRepository.get store id (← restricted repository context specification)

def delete [DecidableEq Id] (repository : MultitenantRepository Id Object) (context : Option String)
    (store : Store Id Object) (id : Id) (specification : Option (ISpecification Id Object)) :
    Except (Failure Object) (Store Id Object × Id) := do
  return (← InMemoryRepository.delete store id (← restricted repository context specification),id)

def listAll [DecidableEq Id] (repository : MultitenantRepository Id Object) (context : Option String)
    (store : Store Id Object) (ids : Option (List Id)) (specification : Option (ISpecification Id Object)) :
    Except (Failure Object) (List (Entity Id Object)) := do
  InMemoryRepository.listAll store ids (← restricted repository context specification)

def searchInner (repository : MultitenantRepository Id Object) (store : Store Id Object) :
    Criteria Id Object → Except (Failure Object) (List (Entity Id Object))
  | .options options => repository.searchOptions options store
  | criteria => InMemoryRepository.search store criteria

def search (repository : MultitenantRepository Id Object) (context : Option String) (store : Store Id Object)
    (criteria : Criteria Id Object) : Except (Failure Object) (List (Entity Id Object)) := do
  if isSystemTenant context then searchInner repository store criteria
  else
    let tenant ← requireTenantContext context
    searchInner repository store (composeTenantFilter repository tenant criteria)

end MultitenantRepository

end CqrsDdd.Multitenancy
