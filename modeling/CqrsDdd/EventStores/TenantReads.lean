import CqrsDdd.EventStores.Stores
import CqrsDdd.Multitenancy.Guards

/-! The tenant mixin over the in-memory event store. It stamps the events that are appended
with the tenant, and composes the tenant's specification into every read; the loops
of the store fetch their pages through the mixin again. -/
namespace CqrsDdd.EventStores

open Generator Multitenancy

variable {Object : Type}

/-- Any specification over events, which may raise; a `BaseSpecification` has `__and__`. -/
@[ext] structure ISpecification (Object : Type) where
  isSatisfiedBy : StoredEvent Object → Except (Failure Object) Bool
  composable : Bool := true

abbrev Filter (Object : Type) := Option (ISpecification Object)

/-- `AndSpecification`. -/
def ISpecification.both (first second : ISpecification Object) : ISpecification Object where
  isSatisfiedBy event := do if ← first.isSatisfiedBy event then second.isSatisfiedBy event else return false

theorem ISpecification.both_isSatisfiedBy (first second : ISpecification Object) (event : StoredEvent Object) :
    (first.both second).isSatisfiedBy event =
      first.isSatisfiedBy event >>= fun accepted => if accepted then second.isSatisfiedBy event else .ok false := rfl

/-- A filter that is absent keeps every event. -/
def Filter.keeps (specification : Filter Object) (event : StoredEvent Object) : Except (Failure Object) Bool :=
  match specification with
  | none => .ok true
  | some specification => specification.isSatisfiedBy event

structure IEventStore (Object : Type) where
  getEvents : String → Int → Filter Object → Except (Failure Object) (List (StoredEvent Object))
  getByAggregate : String → Option String → Filter Object → Except (Failure Object) (List (StoredEvent Object))
  getAll : Filter Object → Except (Failure Object) (List (StoredEvent Object))
  getEventsAfter : Int → Int → Filter Object → Except (Failure Object) (List (StoredEvent Object))
  getEventsFromPosition : Option Int → Filter Object → Int → Except (Failure Object) (Turn Int (StoredEvent Object))
  getAllStreaming : Int → Filter Object → Int → Except (Failure Object) (Turn Int (List (StoredEvent Object)))
  getLatestPosition : Filter Object → Except (Failure Object) (Option Int)

namespace InMemoryEventStore

def applySpecification (events : List (StoredEvent Object)) (specification : Filter Object) :
    Except (Failure Object) (List (StoredEvent Object)) :=
  Attempts.select specification.keeps events

/-- The loop of `get_events_after` from index `i` on, with a specification that may raise. -/
def gather (specification : Filter Object) (position limit : Int) :
    Nat → List (StoredEvent Object) → List (StoredEvent Object) → Except (Failure Object) (List (StoredEvent Object))
  | _, out, [] => .ok out
  | i, out, stored::rest =>
    if position < stored.position.getD i then do
      if ← specification.keeps stored then
        if limit ≤ (out ++ [stored]).length then return out ++ [stored]
        else gather specification position limit (i + 1) (out ++ [stored]) rest
      else gather specification position limit (i + 1) out rest
    else gather specification position limit (i + 1) out rest

/-- The turn of `get_events_from_position` over its page; an empty page that counts as full has no last event. -/
def pageTurn (batchSize current : Int) (batch : List (StoredEvent Object)) : Turn Int (StoredEvent Object) :=
  if batch.length < batchSize then .stop batch
  else match batch.getLast? with
    | none => .fail batch
    | some last => .next batch (last.position.getD (current + batch.length))

def batchTurn (pos : Int) (batch : List (StoredEvent Object)) : Turn Int (List (StoredEvent Object)) :=
  match batch.getLast? with
  | none => .stop []
  | some last => .next [batch] (last.position.getD (pos + batch.length))

/-- The highest position of the matching events, the last index of the log where none has a position. -/
def highestPosition (events matching : List (StoredEvent Object)) : Option Int :=
  if matching.isEmpty then none
  else match (matching.filterMap (·.position)).max? with
    | none => if events.isEmpty then none else some ((events.length : Int) - 1)
    | some position => some position

/-- The methods of the class; its loops fetch their pages through `self`. -/
def methods (events : List (StoredEvent Object))
    (getEventsAfter : Int → Int → Filter Object → Except (Failure Object) (List (StoredEvent Object))) :
    IEventStore Object where
  getEvents aggregateId afterVersion specification :=
    applySpecification (events.filter fun event => event.aggregateId = aggregateId && afterVersion < event.version)
      specification
  getByAggregate aggregateId aggregateType specification :=
    let results := events.filter fun event => event.aggregateId = aggregateId
    applySpecification
      (match aggregateType with
        | none => results
        | some aggregateType => results.filter fun event => event.aggregateType = some aggregateType)
      specification
  getAll specification := applySpecification events specification
  getEventsAfter position limit specification := gather specification position limit 0 [] events
  getEventsFromPosition limit specification current := do
    let batchSize := limit.getD 1000
    return pageTurn batchSize current (← getEventsAfter current batchSize specification)
  getAllStreaming batchSize specification pos := do
    return batchTurn pos (← getEventsAfter pos batchSize specification)
  getLatestPosition specification := do return highestPosition events (← applySpecification events specification)

def plain (events : List (StoredEvent Object)) : IEventStore Object :=
  methods events fun position limit specification => gather specification position limit 0 [] events

end InMemoryEventStore

namespace MultitenantEventStoreMixin

open InMemoryEventStore

/-- The attribute specification `tenant_id = tenant`. -/
def buildTenantSpecification (tenantId : String) : ISpecification Object where
  isSatisfiedBy event := .ok (event.tenantId = some tenantId)

def composeSpecs (tenantSpec : ISpecification Object) : Filter Object → ISpecification Object
  | none => tenantSpec
  | some other => if other.composable then tenantSpec.both other else tenantSpec

def restricted (context : Option String) (specification : Filter Object) : Except (Failure Object) (Filter Object) := do
  if isSystemTenant context then return specification
  let tenantId ← MultitenantRepository.requireTenantContext context
  return some (composeSpecs (buildTenantSpecification tenantId) specification)

def getEventsAfter (context : Option String) (events : List (StoredEvent Object)) (position limit : Int)
    (specification : Filter Object) : Except (Failure Object) (List (StoredEvent Object)) := do
  gather (← restricted context specification) position limit 0 [] events

def underContext (context : Option String) (events : List (StoredEvent Object)) : IEventStore Object :=
  let base := methods events (getEventsAfter context events)
  { getEvents := fun aggregateId afterVersion specification => do
      base.getEvents aggregateId afterVersion (← restricted context specification)
    getByAggregate := fun aggregateId aggregateType specification => do
      base.getByAggregate aggregateId aggregateType (← restricted context specification)
    getAll := fun specification => do base.getAll (← restricted context specification)
    getEventsAfter := getEventsAfter context events
    getEventsFromPosition := fun limit specification current => do
      base.getEventsFromPosition limit (← restricted context specification) current
    getAllStreaming := fun batchSize specification pos => do
      base.getAllStreaming batchSize (← restricted context specification) pos
    getLatestPosition := fun specification => do base.getLatestPosition (← restricted context specification) }

def injectTenantIntoEvent (tenantId : String) (event : StoredEvent Object) : StoredEvent Object :=
  {event with tenantId := some tenantId}

def injectTenant (tenantId : String) : InMemoryEventStore.Append Object → InMemoryEventStore.Append Object
  | .append stored => .append (injectTenantIntoEvent tenantId stored)
  | .appendBatch batch => .appendBatch (batch.map (injectTenantIntoEvent tenantId))

/-- `append` and `append_batch`. -/
def perform (context : Option String) (events : List (StoredEvent Object)) (call : InMemoryEventStore.Append Object) :
    Except (Failure Object) (List (StoredEvent Object)) := do
  if isSystemTenant context then return InMemoryEventStore.perform events call
  let tenantId ← MultitenantRepository.requireTenantContext context
  return InMemoryEventStore.perform events (injectTenant tenantId call)

end MultitenantEventStoreMixin

end CqrsDdd.EventStores
