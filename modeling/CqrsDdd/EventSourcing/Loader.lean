import CqrsDdd.Messaging.Envelope

/-! Loading an event-sourced aggregate. The loader starts from the snapshot, or
from a fresh aggregate, and applies the stored events behind that version; an
event whose type is unknown or whose payload is refused is passed over. -/
namespace CqrsDdd.EventSourcing

open Messaging

variable {Object State Dump Failure : Type}

structure StoredEvent (Object : Type) where
  eventId : String
  eventType : String
  aggregateId : String
  aggregateType : Option String
  version : Int
  schemaVersion : Int
  payload : Payload Object
  metadata : Object
  occurredAt : Object
  correlationId : Option String
  causationId : Option String

namespace InMemoryEventStore

def append (events : List (StoredEvent Object)) (stored : StoredEvent Object) : List (StoredEvent Object) :=
  events ++ [stored]

def appendBatch (events stored : List (StoredEvent Object)) : List (StoredEvent Object) := events ++ stored

def getEvents (events : List (StoredEvent Object)) (aggregateId : String) (afterVersion : Int) :
    List (StoredEvent Object) :=
  events.filter fun stored => stored.aggregateId = aggregateId && afterVersion < stored.version

end InMemoryEventStore

structure EventUpcaster (Object Failure : Type) where
  eventType : String
  sourceVersion : Int
  targetVersion : Int
  upcast : Payload Object → Except Failure (Payload Object)

/-- Every upcaster is tried once, in the order of the source versions. -/
def UpcasterChain.upcast (eventType : String) :
    List (EventUpcaster Object Failure) → Payload Object → Int → Except Failure (Payload Object × Int)
  | [], data, version => .ok (data,version)
  | upcaster::rest, data, version =>
    if upcaster.eventType = eventType ∧ upcaster.sourceVersion = version then do
      let data ← upcaster.upcast data
      UpcasterChain.upcast eventType rest data upcaster.targetVersion
    else UpcasterChain.upcast eventType rest data version

abbrev UpcasterRegistry (Object Failure : Type) := Dict String (List (EventUpcaster Object Failure))

namespace UpcasterRegistry

def chainFor (registry : UpcasterRegistry Object Failure) (eventType : String) :
    List (EventUpcaster Object Failure) :=
  ((registry.get eventType).getD []).insertionSort fun first second => first.sourceVersion ≤ second.sourceVersion

def hasUpcasters (registry : UpcasterRegistry Object Failure) (eventType : String) : Bool :=
  !((registry.get eventType).getD []).isEmpty

def upcast (registry : UpcasterRegistry Object Failure) (eventType : String) (data : Payload Object)
    (storedVersion : Int) : Except Failure (Payload Object × Int) :=
  UpcasterChain.upcast eventType (registry.chainFor eventType) data storedVersion

end UpcasterRegistry

structure Aggregate (State : Type) where
  state : State
  version : Int
  deriving DecidableEq, Repr

structure Snapshot (Dump : Type) where
  snapshotData : Dump
  version : Int

/-- The aggregate class. `asData` is the stored record itself, which is validated
in place of an empty dump; the dump of an aggregate has its `id`, so it is not empty. -/
structure AggregateModel (State Dump Failure : Type) where
  modelDump : State → Dump
  modelValidate : Dump → Except Failure State
  truthy : Dump → Bool
  asData : Snapshot Dump → Dump
  id : State → Option String
  nonempty : ∀ state, truthy (modelDump state) = true

structure SnapshotStrategyRegistry (State : Type) where
  strategies : Dict String (Aggregate State → Bool)
  defaultStrategy : Option (Aggregate State → Bool)

def SnapshotStrategyRegistry.shouldSnapshot (registry : SnapshotStrategyRegistry State) (aggregateType : String)
    (aggregate : Aggregate State) : Bool :=
  match (registry.strategies.get aggregateType).or registry.defaultStrategy with
  | none => false
  | some strategy => strategy aggregate

abbrev InMemorySnapshotStore (Dump : Type) := Dict (String × String) (Snapshot Dump)

/-- `createAggregate` has no value where it raises. -/
structure EventSourcedLoader (Object State Dump Failure : Type) where
  model : AggregateModel State Dump Failure
  aggregateTypeName : String
  createAggregate : String → Option State
  runtime : Runtime Object
  eventRegistry : EventTypeRegistry
  upcasterRegistry : Option (UpcasterRegistry Object Failure)
  snapshotStrategyRegistry : Option (SnapshotStrategyRegistry State)
  applicator : Aggregate State → DomainEvent Object → Except Failure (Aggregate State)

namespace EventSourcedLoader

def decode (loader : EventSourcedLoader Object State Dump Failure) (stored : StoredEvent Object) :
    Except Failure (Option (DomainEvent Object)) := do
  let payload ← match loader.upcasterRegistry with
    | none => .ok stored.payload
    | some registry =>
      if registry.hasUpcasters stored.eventType then
        (registry.upcast stored.eventType stored.payload stored.schemaVersion).map Prod.fst
      else .ok stored.payload
  return EventTypeRegistry.hydrate loader.runtime loader.eventRegistry (.text stored.eventType) payload

def applyStored (loader : EventSourcedLoader Object State Dump Failure) (aggregate : Aggregate State)
    (stored : StoredEvent Object) : Except Failure (Aggregate State) := do
  match ← loader.decode stored with
  | none => return aggregate
  | some event =>
    let applied ← loader.applicator aggregate event
    return {applied with version := stored.version}

def replay (loader : EventSourcedLoader Object State Dump Failure) (aggregate : Aggregate State)
    (events : List (StoredEvent Object)) : Except Failure (Aggregate State) :=
  events.foldlM loader.applyStored aggregate

def restore (loader : EventSourcedLoader Object State Dump Failure) (snapshot : Snapshot Dump) :
    Except Failure (Aggregate State) := do
  let data := if loader.model.truthy snapshot.snapshotData then snapshot.snapshotData
    else loader.model.asData snapshot
  let state ← loader.model.modelValidate data
  return ⟨state,snapshot.version⟩

def latestSnapshot (loader : EventSourcedLoader Object State Dump Failure)
    (snapshots : Option (InMemorySnapshotStore Dump)) (aggregateId : String) : Option (Snapshot Dump) :=
  snapshots.bind fun store => store.get (loader.aggregateTypeName,aggregateId)

/-- The rest of `load` once there is an aggregate to start from. -/
def catchUp (loader : EventSourcedLoader Object State Dump Failure) (events : List (StoredEvent Object))
    (aggregateId : String) (aggregate : Aggregate State) : Except Failure (Option (Aggregate State)) :=
  let rawEvents := InMemoryEventStore.getEvents events aggregateId aggregate.version
  if rawEvents.isEmpty ∧ aggregate.version = 0 then .ok none
  else (loader.replay aggregate rawEvents).map some

def load (loader : EventSourcedLoader Object State Dump Failure) (events : List (StoredEvent Object))
    (snapshots : Option (InMemorySnapshotStore Dump)) (aggregateId : String) :
    Except Failure (Option (Aggregate State)) :=
  match loader.latestSnapshot snapshots aggregateId with
  | some snapshot => do
    let aggregate ← loader.restore snapshot
    loader.catchUp events aggregateId aggregate
  | none =>
    match loader.createAggregate aggregateId with
    | none => .ok none
    | some state => loader.catchUp events aggregateId ⟨state,0⟩

def maybeSnapshot (loader : EventSourcedLoader Object State Dump Failure)
    (snapshots : InMemorySnapshotStore Dump) (aggregate : Aggregate State) : InMemorySnapshotStore Dump :=
  match loader.snapshotStrategyRegistry with
  | none => snapshots
  | some registry =>
    if registry.shouldSnapshot loader.aggregateTypeName aggregate then
      match loader.model.id aggregate.state with
      | none => snapshots
      | some id =>
        snapshots.set (loader.aggregateTypeName,id) ⟨loader.model.modelDump aggregate.state,aggregate.version⟩
    else snapshots

end EventSourcedLoader

end CqrsDdd.EventSourcing
