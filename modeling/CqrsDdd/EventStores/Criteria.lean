import CqrsDdd.EventStores.Stores
import CqrsDdd.Specifications.Readers

/-! The specification of a read of stored events, asked about the events in memory and compiled to
a criterion for the rows and for the documents. A document has the id of its event under `_id` only. -/
namespace CqrsDdd.EventStores

open Specifications ThreeValued StoredEventModel

variable {Object Thing Part Column : Type}

/-- A value of a payload; `valueOf` is what an object is to a specification. -/
def payloadValue (valueOf : Object → Value Thing) : Messaging.Value Object → Value Thing
  | .null => .null
  | .text content => .text content
  | .number value => .number value
  | .other object => valueOf object

def textOrNull (content : Option String) : Value Thing := content.elim .null .text

namespace StoredEvent

def fields (valueOf : Object → Value Thing) (event : StoredEvent Object) : Fields Thing :=
  [("event_type",.text event.eventType),("aggregate_id",.text event.aggregateId),
    ("aggregate_type",textOrNull event.aggregateType),("version",.number event.version),
    ("schema_version",.number event.schemaVersion),
    ("payload",.dict (event.payload.map fun entry => (entry.1,payloadValue valueOf entry.2))),
    ("metadata",valueOf event.metadata),("occurred_at",valueOf event.occurredAt),
    ("correlation_id",textOrNull event.correlationId),("causation_id",textOrNull event.causationId),
    ("position",event.position.elim .null .number),("tenant_id",textOrNull event.tenantId)]

def attributes (valueOf : Object → Value Thing) (event : StoredEvent Object) : Fields Thing :=
  ("event_id",.text event.eventId)::event.fields valueOf

end StoredEvent

def MongoEventStore.storedEventToDoc (valueOf : Object → Value Thing) (event : StoredEvent Object) : Fields Thing :=
  ("_id",.text event.eventId)::event.fields valueOf

/-- The evaluation in memory, the compilers of leaves, and what the databases make of their results. -/
structure Databases (Object Thing Part Column : Type) where
  valueOf : Object → Value Thing
  runtime : Runtime Thing
  registry : Registry Thing
  compilePart : Fields Thing → Except MongoError Part
  matched : Fields Thing → Part → Bool
  matchedRaw : Fields Thing → Fields Thing → Bool
  compileColumn : Value Thing → String → Except Specifications.Failure Column
  truth : StoredEventModel Object → Column → Truth

namespace Databases

def attributes (databases : Databases Object Thing Part Column) (model : StoredEventModel Object) : Fields Thing :=
  model.toDataclass.attributes databases.valueOf

def readers (databases : Databases Object Thing Part Column) : Readers Part Column databases.attributes where
  runtime := databases.runtime
  registry := databases.registry
  compilePart := databases.compilePart
  matched model := databases.matched (MongoEventStore.storedEventToDoc databases.valueOf model.toDataclass)
  matchedRaw model := databases.matchedRaw (MongoEventStore.storedEventToDoc databases.valueOf model.toDataclass)
  compileColumn := databases.compileColumn
  truth := databases.truth

/-- The answers in memory; an event on which the specification raises does not satisfy it. -/
def verdict (databases : Databases Object Thing Part Column) (specification : Option (Specifications.Specification Thing)) :
    Specification Object :=
  specification.map fun specification event =>
    (specification.isSatisfiedBy databases.registry (event.attributes databases.valueOf)).toOption.getD false

end Databases

def SQLAlchemyEventStore.applySpec (databases : Databases Object Thing Part Column) :
    Option (Specifications.Specification Thing) → Except Specifications.Failure (Criterion Object)
  | none => .ok none
  | some specification => (databases.readers.criterion specification).map some

def MongoEventStore.mergeSpec (databases : Databases Object Thing Part Column) :
    Option (Specifications.Specification Thing) → Except MongoError (Criterion Object)
  | none => .ok none
  | some specification => (databases.readers.filter specification).map some

variable {databases : Databases Object Thing Part Column} {specification : Specifications.Specification Thing}
  {table : List (StoredEventModel Object)}

theorem agrees_of_answers {keeps : StoredEventModel Object → Bool} (answers : ∀ model ∈ table,
      specification.isSatisfiedBy databases.registry (databases.attributes model) = .ok (keeps model)) :
    Agrees table (some keeps) (databases.verdict (some specification)) := by
  intro model member
  change keeps model =
    (specification.isSatisfiedBy databases.registry (databases.attributes model)).toOption.getD false
  rw [answers model member]
  exact rfl

section Alike

variable (lowers : SpecificationFactory.Lowers databases.runtime) {sample : StoredEventModel Object}
  (read : databases.readers.ReadAlike specification sample)
  (each : ∀ model ∈ table, databases.readers.ReadAlike specification model)

include lowers read each

theorem SQLAlchemyEventStore.applySpec_agrees : ∃ criterion, applySpec databases (some specification) = .ok criterion ∧
    Agrees table criterion (databases.verdict (some specification)) := by
  obtain ⟨keeps,compiled,answers⟩ := Readers.criterion_agrees lowers read
  refine ⟨some keeps,?_,agrees_of_answers fun model member => answers model (each model member)⟩
  rw [applySpec,compiled]
  exact rfl

theorem MongoEventStore.mergeSpec_agrees : ∃ criterion, mergeSpec databases (some specification) = .ok criterion ∧
    Agrees table criterion (databases.verdict (some specification)) := by
  obtain ⟨keeps,compiled,answers⟩ := Readers.filter_agrees lowers read
  refine ⟨some keeps,?_,agrees_of_answers fun model member => answers model (each model member)⟩
  rw [mergeSpec,compiled]
  exact rfl

end Alike

end CqrsDdd.EventStores
