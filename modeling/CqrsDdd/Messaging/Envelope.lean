import CqrsDdd.Dict
import CqrsDdd.Outbox.Storage

/-! The hops of an event from a command handler to the dispatcher of a consumer.
The outbox stores the dump of the event under its class name as topic; the
publishers wrap the stored dictionary, and the consumer looks for the type of
the event inside that dictionary. -/
namespace CqrsDdd.Messaging

open Outbox

/-- A value of a dumped model; `Object` stands for what is neither `None`, a text nor a number. -/
inductive Value (Object : Type)
  | null
  | text (content : String)
  | number (value : Int)
  | other (object : Object)
  deriving DecidableEq, Repr

abbrev Payload (Object : Type) := List (String × Value Object)

variable {Object : Type}

def Value.ofText : Option String → Value Object
  | none => .null
  | some content => .text content

def baseFields : List String :=
  ["event_id","occurred_at","version","aggregate_id","aggregate_type","metadata","correlation_id","causation_id"]

/-- An instance of a subclass of `DomainEvent`; `own` holds what the subclass adds to the dump. -/
structure DomainEvent (Object : Type) where
  className : String
  eventId : String
  occurredAt : Object
  version : Int
  aggregateId : Option String
  aggregateType : Option String
  metadata : Object
  correlationId : Option String
  causationId : Option String
  own : Dict String (Value Object)
  apart : ∀ name ∈ own.entries.map Prod.fst, name ∉ baseFields

def DomainEvent.modelDump (event : DomainEvent Object) : Payload Object :=
  [("event_id",Value.text event.eventId),("occurred_at",Value.other event.occurredAt),
    ("version",Value.number event.version),("aggregate_id",Value.ofText event.aggregateId),
    ("aggregate_type",Value.ofText event.aggregateType),("metadata",Value.other event.metadata),
    ("correlation_id",Value.ofText event.correlationId),("causation_id",Value.ofText event.causationId)] ++
      event.own.entries

/-- What lies outside the repository: the truth value and the text of an object,
one value after JSON and back (or no value where the encoder raises), and
`model_validate` of a class, which answers with an instance of that class. -/
structure Runtime (Object : Type) where
  truthy : Object → Bool
  str : Value Object → String
  json : Value Object → Option (Value Object)
  modelValidate : String → Payload Object → Option (DomainEvent Object)
  instanceOf : ∀ name payload event, modelValidate name payload = some event → event.className = name

def Runtime.isTruthy (runtime : Runtime Object) : Value Object → Bool
  | .null => false
  | .text content => content ≠ ""
  | .number value => value ≠ 0
  | .other object => runtime.truthy object

/-- The keyword arguments of `publish`; the outer option tells whether the keyword is given. -/
structure PublishKwargs where
  correlationId : Option (Option String) := none
  causationId : Option (Option String) := none
  eventType : Option String := none
  headers : Option (List (String × String)) := none
  partitionKey : Option (Option String) := none
  deriving DecidableEq

structure MessageEnvelope (Object : Type) where
  eventType : String
  payload : Payload Object
  correlationId : Option String
  causationId : Option String
  headers : List (String × String)
  attempt : Nat

inductive Message (Object : Type)
  | envelope (envelope : MessageEnvelope Object)
  | event (event : DomainEvent Object)
  | dict (payload : Payload Object)
  | raw (value : Value Object)

/-- The validation of the envelope raises when an event has an `event_type` that is not a text. -/
def messageToEnvelope (runtime : Runtime Object) (message : Message Object) (kwargs : PublishKwargs) :
    Option (MessageEnvelope Object) :=
  let wrap (eventType : String) (payload : Payload Object) : MessageEnvelope Object :=
    ⟨eventType,payload,kwargs.correlationId.join,kwargs.causationId.join,kwargs.headers.getD [],1⟩
  match message with
  | .envelope envelope => some envelope
  | .event event =>
    match event.own.get "event_type" with
    | none => some (wrap event.className event.modelDump)
    | some (.text eventType) => some (wrap eventType event.modelDump)
    | some _ => none
  | .dict payload =>
    match payload.lookup "event_type" with
    | none => some (wrap (kwargs.eventType.getD "unknown") payload)
    | some value => some (wrap (runtime.str value) payload)
  | .raw value => some (wrap (kwargs.eventType.getD "unknown") [("value",value)])

def Runtime.wire (runtime : Runtime Object) (payload : Payload Object) : Option (Payload Object) :=
  payload.mapM fun entry => (runtime.json entry.2).map fun value => (entry.1,value)

/-- The envelope `deserialize` reads from the bytes of `serialize`; no value when the encoder raises. -/
def EnvelopeSerializer.serialize (runtime : Runtime Object) (envelope : MessageEnvelope Object) :
    Option (MessageEnvelope Object) :=
  (runtime.wire envelope.payload).map fun payload => {envelope with payload := payload}

/-- What a broker stores. RabbitMQ routes by the topic and has no partition key. -/
structure Record (Object : Type) where
  topic : String
  key : Option String
  body : MessageEnvelope Object

def RabbitMQPublisher.publish (runtime : Runtime Object) (topic : String) (message : Message Object)
    (kwargs : PublishKwargs) : Option (Record Object) := do
  let envelope ← messageToEnvelope runtime message kwargs
  let body ← EnvelopeSerializer.serialize runtime envelope
  return ⟨topic,none,body⟩

/-- A dictionary has no attribute `aggregate_id`, whatever its entries are. -/
def KafkaPublisher.aggregateKey (runtime : Runtime Object) : Message Object → Option String
  | .event event => event.aggregateId.filter (· ≠ "")
  | .envelope envelope =>
    match envelope.payload.lookup "aggregate_id" with
    | none | some .null => none
    | some value => some (runtime.str value)
  | .dict _ | .raw _ => none

/-- An empty key gives way to the keyword argument. -/
def KafkaPublisher.partitionKey (runtime : Runtime Object) (message : Message Object) (kwargs : PublishKwargs) :
    Option String :=
  match KafkaPublisher.aggregateKey runtime message with
  | none | some "" => kwargs.partitionKey.join
  | some key => some key

def KafkaPublisher.publish (runtime : Runtime Object) (topic : String) (message : Message Object)
    (kwargs : PublishKwargs) : Option (Record Object) := do
  let envelope ← messageToEnvelope runtime message kwargs
  let body ← EnvelopeSerializer.serialize runtime envelope
  return ⟨topic,KafkaPublisher.partitionKey runtime message kwargs,body⟩

abbrev EventTypeRegistry := Dict String String

/-- Only a text can be a key of the registry; a lookup that raises is logged like a missing one. -/
def EventTypeRegistry.hydrate (runtime : Runtime Object) (registry : EventTypeRegistry) (eventType : Value Object)
    (data : Payload Object) : Option (DomainEvent Object) :=
  match eventType with
  | .text name => (registry.get name).bind fun eventClass => runtime.modelValidate eventClass data
  | _ => none

/-- The events handed to the dispatcher. Every early return and every exception ends in the log. -/
def BaseEventConsumer.handleMessage (runtime : Runtime Object) (registry : EventTypeRegistry)
    (payload : Payload Object) : List (DomainEvent Object) :=
  match payload.lookup "event_type" with
  | none => []
  | some eventType =>
    if runtime.isTruthy eventType then (EventTypeRegistry.hydrate runtime registry eventType payload).toList
    else []

/-- The bus calls `_handle_message` with the keyword arguments of `publish`, and
that method takes none: it raises as soon as there is one. -/
def InMemoryMessageBus.publish (runtime : Runtime Object) (registry : EventTypeRegistry) (message : Message Object)
    (kwargs : PublishKwargs) : Option (List (DomainEvent Object)) :=
  if kwargs ≠ {} then none
  else match message with
    | .envelope envelope => some (BaseEventConsumer.handleMessage runtime registry envelope.payload)
    | .dict payload => some (BaseEventConsumer.handleMessage runtime registry payload)
    | .event _ | .raw _ => some []

/-- The metadata a stored message gets: the keyword arguments are popped before,
and the correlation id is written back, empty or not. -/
def tracingMetadata (correlationId : String) (causationId : Option String) : Payload Object :=
  let metadata := Dict.put "correlation_id" (.text correlationId) []
  match causationId with
  | none => metadata
  | some causationId => Dict.put "causation_id" (.text causationId) metadata

def BufferedOutbox.publishInternal (messageId : String) (now : Int) (topic : String) (event : DomainEvent Object)
    (correlationId causationId : Option String) : OutboxMessage (Payload Object) :=
  ⟨messageId,topic,event.modelDump,tracingMetadata (correlationId.getD "") causationId,now,none,none,0,
    correlationId.getD "",causationId,none⟩

def OutboxMiddleware.publishEvent (messageId : String) (now : Int) (event : DomainEvent Object) :
    OutboxMessage (Payload Object) :=
  BufferedOutbox.publishInternal messageId now event.className event (event.correlationId.filter (· ≠ ""))
    (event.causationId.filter (· ≠ ""))

/-- `msg.metadata.get("correlation_id") or msg.correlation_id or None`. -/
def publishedCorrelation (message : OutboxMessage (Payload Object)) : Option String :=
  match message.metadata.lookup "correlation_id" with
  | some (.text content) => if content ≠ "" then some content else
      if message.correlationId ≠ "" then some message.correlationId else none
  | _ => if message.correlationId ≠ "" then some message.correlationId else none

end CqrsDdd.Messaging
