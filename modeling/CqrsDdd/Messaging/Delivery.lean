import CqrsDdd.Messaging.Envelope
import CqrsDdd.Transition
import Mathlib

/-! From the events of a command to the dispatcher of a consumer. One worker
relays the outbox in batches; the broker hands the bytes unchanged to a consumer
that is subscribed to the topic. The dump of an event has no `event_type` of its
own and a dictionary has no partition key, so most events get lost on the way. -/
namespace CqrsDdd.Messaging

open Outbox

variable {Object : Type}

inductive Transport
  | rabbitMQ | kafka | inMemory
  deriving DecidableEq, Repr

/-- `failure` is the text of an exception that `publish` raised. -/
structure System (Object : Type) where
  runtime : Runtime Object
  registry : EventTypeRegistry
  transport : Transport
  failure : String

structure Delivery (Object : Type) where
  raised : Bool
  key : Option String
  dispatched : List (DomainEvent Object)

def Delivery.failed : Delivery Object := ⟨true,none,[]⟩

structure Emission (Object : Type) where
  event : DomainEvent Object
  messageId : String
  createdAt : Int

structure Response (Object : Type) where
  emissions : List (Emission Object)
  distinct : (emissions.map (·.messageId)).Nodup

def Emission.message (emission : Emission Object) : OutboxMessage (Payload Object) :=
  OutboxMiddleware.publishEvent emission.messageId emission.createdAt emission.event

structure Relay (Object : Type) where
  stored : List (OutboxMessage (Payload Object))
  log : List (String × Delivery Object)

def OutboxMiddleware.publishEvents (response : Response Object) : Relay Object :=
  ⟨response.emissions.foldl (fun stored emission =>
    InMemoryOutboxStorage.saveMessages stored [emission.message]) [],[]⟩

structure Batch (Object : Type) extends Relay Object where
  published : List String

namespace System

def receive (system : System Object) : Option (Record Object) → Delivery Object
  | none => .failed
  | some record =>
    ⟨false,record.key,BaseEventConsumer.handleMessage system.runtime system.registry record.body.payload⟩

def publish (system : System Object) (topic : String) (message : Message Object) (kwargs : PublishKwargs) :
    Delivery Object :=
  match system.transport with
  | .rabbitMQ => system.receive (RabbitMQPublisher.publish system.runtime topic message kwargs)
  | .kafka => system.receive (KafkaPublisher.publish system.runtime topic message kwargs)
  | .inMemory =>
    match InMemoryMessageBus.publish system.runtime system.registry message kwargs with
    | none => .failed
    | some dispatched => ⟨false,none,dispatched⟩

def publishMessage (system : System Object) (message : OutboxMessage (Payload Object)) : Delivery Object :=
  system.publish message.eventType (.dict message.payload) {correlationId := some (publishedCorrelation message)}

def attempt (system : System Object) (batch : Batch Object) (message : OutboxMessage (Payload Object)) :
    Batch Object :=
  let delivery := system.publishMessage message
  let log := batch.log ++ [(message.messageId,delivery)]
  if delivery.raised then
    ⟨⟨InMemoryOutboxStorage.markFailed batch.stored message.messageId system.failure,log⟩,batch.published⟩
  else ⟨⟨batch.stored,log⟩,batch.published ++ [message.messageId]⟩

/-- `process_batch` of the only worker: every lock is free. A batch is its size and
the time its messages are marked with. -/
def processBatch (system : System Object) (relay : Relay Object) (batch : Nat × Int) : Relay Object :=
  let claimed := InMemoryOutboxStorage.getPending relay.stored batch.1
  let done := claimed.foldl system.attempt ⟨relay,[]⟩
  if done.published.isEmpty then done.toRelay
  else ⟨InMemoryOutboxStorage.markPublished done.stored batch.2 done.published,done.log⟩

def relay (system : System Object) (response : Response Object) (batches : List (Nat × Int)) : Relay Object :=
  Transition.run system.processBatch (OutboxMiddleware.publishEvents response) batches

/-- The event itself reaches the dispatcher, no call raises, and Kafka sees the
partition key it would see if the event were published directly. -/
structure Delivers (system : System Object) (event : DomainEvent Object) (delivery : Delivery Object) : Prop where
  quiet : delivery.raised = false
  dispatched : delivery.dispatched = [event]
  keyed : system.transport = .kafka → ∀ key,
    KafkaPublisher.partitionKey system.runtime (.event event) {} = some key → delivery.key = some key

def EndToEnd (system : System Object) (response : Response Object) (relay : Relay Object) : Prop :=
  ∀ emission ∈ response.emissions, (∃ delivery, (emission.messageId,delivery) ∈ relay.log) ∧
    ∀ delivery, (emission.messageId,delivery) ∈ relay.log → system.Delivers emission.event delivery

/-- The dump can be encoded, and the class has a field `event_type` with a name
under which it is registered. -/
structure Decodable (system : System Object) (event : DomainEvent Object) : Prop where
  encodes : ∀ entry ∈ event.modelDump, (system.runtime.json entry.2).isSome
  named : ∃ name, (event.own.get "event_type").bind system.runtime.json = some (.text name) ∧ name ≠ "" ∧
    system.registry.get name = some event.className

def Survives (system : System Object) (event : DomainEvent Object) : Prop :=
  match system.transport with
  | .rabbitMQ => system.Decodable event
  | .kafka => system.Decodable event ∧ event.aggregateId.getD "" = ""
  | .inMemory => False

end System

theorem wire_isSome (runtime : Runtime Object) (payload : Payload Object) :
    (runtime.wire payload).isSome ↔ ∀ entry ∈ payload, (runtime.json entry.2).isSome := by
  induction payload with
  | nil => simp [Runtime.wire]
  | cons entry rest ih =>
    simp only [Runtime.wire] at ih
    cases head : runtime.json entry.2 with
    | none => simp [Runtime.wire,head]
    | some value =>
      simp only [Runtime.wire,List.mapM_cons,head,List.mem_cons,forall_eq_or_imp,Option.isSome_some,true_and,← ih]
      cases rest.mapM fun entry => (runtime.json entry.2).map fun value => (entry.1,value) <;> simp

theorem wire_lookup (runtime : Runtime Object) {payload wired : Payload Object}
    (encoded : runtime.wire payload = some wired) (name : String) :
    wired.lookup name = (payload.lookup name).bind runtime.json := by
  induction payload generalizing wired with
  | nil =>
    obtain rfl : [] = wired := by simpa [Runtime.wire] using encoded
    rfl
  | cons entry rest ih =>
    obtain ⟨key,value⟩ := entry
    simp only [Runtime.wire,List.mapM_cons,Option.bind_eq_bind,Option.bind_eq_some_iff,Option.map_eq_some_iff,
      Option.pure_def,Option.some.injEq] at encoded
    obtain ⟨_,⟨content,decoded,rfl⟩,tail,wiredTail,rfl⟩ := encoded
    by_cases same : name = key
    · subst same
      simp [decoded]
    · simp [List.lookup_cons,beq_false_of_ne same,ih wiredTail]

theorem modelDump_eventType (event : DomainEvent Object) :
    event.modelDump.lookup "event_type" = event.own.get "event_type" := rfl

theorem handleMessage_eq_singleton (runtime : Runtime Object) (registry : EventTypeRegistry)
    {payload : Payload Object} {event : DomainEvent Object}
    (validates : runtime.modelValidate event.className payload = some event) :
    BaseEventConsumer.handleMessage runtime registry payload = [event] ↔
      ∃ name, payload.lookup "event_type" = some (.text name) ∧ name ≠ "" ∧
        registry.get name = some event.className := by
  simp only [BaseEventConsumer.handleMessage]
  constructor
  · intro handed
    split at handed
    next => simp at handed
    next eventType found =>
      split at handed
      next truthy =>
        have hydrated : EventTypeRegistry.hydrate runtime registry eventType payload = some event := by
          cases result : EventTypeRegistry.hydrate runtime registry eventType payload with
          | none => simp [result] at handed
          | some other => simpa [result] using handed
        cases eventType with
        | text name =>
          obtain ⟨eventClass,registered,valid⟩ := Option.bind_eq_some_iff.mp hydrated
          have own := runtime.instanceOf eventClass payload event valid
          exact ⟨name,found,by simpa [Runtime.isTruthy] using truthy,own ▸ registered⟩
        | _ => simp [EventTypeRegistry.hydrate] at hydrated
      next => simp at handed
  · rintro ⟨name,found,filled,registered⟩
    simp [found,Runtime.isTruthy,filled,EventTypeRegistry.hydrate,registered,validates]

theorem direct_partitionKey (runtime : Runtime Object) (event : DomainEvent Object) :
    KafkaPublisher.partitionKey runtime (.event event) {} = event.aggregateId.filter (· ≠ "") := by
  simp only [KafkaPublisher.partitionKey,KafkaPublisher.aggregateKey]
  cases event.aggregateId with
  | none => rfl
  | some aggregateId =>
    by_cases filled : aggregateId = ""
    · subst filled
      rfl
    · simp [Option.filter,filled]

namespace System

def relayed (system : System Object) (event : DomainEvent Object) : Delivery Object :=
  if system.transport = .inMemory then .failed
  else match system.runtime.wire event.modelDump with
    | none => .failed
    | some payload => ⟨false,none,BaseEventConsumer.handleMessage system.runtime system.registry payload⟩

theorem publishMessage_eq (system : System Object) {message : OutboxMessage (Payload Object)}
    {event : DomainEvent Object} (carries : message.payload = event.modelDump) :
    system.publishMessage message = system.relayed event := by
  have wrapped : ∀ kwargs, ∃ envelope, messageToEnvelope system.runtime (.dict message.payload) kwargs = some envelope ∧
      envelope.payload = event.modelDump := by
    intro kwargs
    simp only [messageToEnvelope,carries]
    split
    all_goals exact ⟨_,rfl,rfl⟩
  simp only [publishMessage,publish,relayed]
  obtain ⟨envelope,built,payload⟩ := wrapped {correlationId := some (publishedCorrelation message)}
  cases transport : system.transport with
  | inMemory => rfl
  | rabbitMQ =>
    simp only [RabbitMQPublisher.publish,built,Option.bind_eq_bind,Option.bind_some,
      EnvelopeSerializer.serialize,payload]
    cases system.runtime.wire event.modelDump with
    | none => rfl
    | some wired => rfl
  | kafka =>
    simp only [KafkaPublisher.publish,built,Option.bind_eq_bind,Option.bind_some,EnvelopeSerializer.serialize,payload]
    cases system.runtime.wire event.modelDump with
    | none => rfl
    | some wired => rfl

theorem wired_delivers_iff (system : System Object) (event : DomainEvent Object)
    (leftInverse : ∀ payload, system.runtime.wire event.modelDump = some payload →
      system.runtime.modelValidate event.className payload = some event)
    (brokered : system.transport ≠ .inMemory) :
    ((system.relayed event).raised = false ∧ (system.relayed event).dispatched = [event]) ↔
      system.Decodable event := by
  simp only [relayed,if_neg brokered]
  cases encoded : system.runtime.wire event.modelDump with
  | none =>
    refine ⟨fun delivered => by simp [Delivery.failed] at delivered,fun decodable => ?_⟩
    have wired := (wire_isSome system.runtime event.modelDump).mpr decodable.encodes
    simp [encoded] at wired
  | some payload =>
    have handed := handleMessage_eq_singleton system.runtime system.registry (leftInverse payload encoded)
    rw [wire_lookup system.runtime encoded,modelDump_eventType] at handed
    have encodes := (wire_isSome system.runtime event.modelDump).mp (by simp [encoded])
    exact ⟨fun delivered => ⟨encodes,handed.mp delivered.2⟩,fun decodable => ⟨rfl,handed.mpr decodable.named⟩⟩

theorem relayed_key (system : System Object) (event : DomainEvent Object) : (system.relayed event).key = none := by
  unfold relayed
  repeat' split
  all_goals rfl

theorem relayed_delivers_iff (system : System Object) (event : DomainEvent Object)
    (leftInverse : ∀ payload, system.runtime.wire event.modelDump = some payload →
      system.runtime.modelValidate event.className payload = some event) :
    system.Delivers event (system.relayed event) ↔ system.Survives event := by
  have wired := wired_delivers_iff system event leftInverse
  cases transport : system.transport with
  | inMemory =>
    simp only [Survives,transport,iff_false]
    intro delivers
    have quiet := delivers.quiet
    simp [relayed,transport,Delivery.failed] at quiet
  | rabbitMQ =>
    simp only [Survives,transport]
    have decodable := wired (by simp [transport])
    refine ⟨fun delivers => decodable.mp ⟨delivers.quiet,delivers.dispatched⟩,fun survives => ?_⟩
    obtain ⟨quiet,dispatched⟩ := decodable.mpr survives
    exact ⟨quiet,dispatched,fun kafka => by simp [transport] at kafka⟩
  | kafka =>
    simp only [Survives,transport]
    have decodable := wired (by simp [transport])
    constructor
    · intro delivers
      refine ⟨decodable.mp ⟨delivers.quiet,delivers.dispatched⟩,?_⟩
      have keyed := delivers.keyed transport
      rw [direct_partitionKey,relayed_key] at keyed
      cases aggregate : event.aggregateId with
      | none => rfl
      | some aggregateId =>
        by_contra filled
        simp only [Option.getD_some] at filled
        simpa using keyed aggregateId (by simp [aggregate,Option.filter,filled])
    · rintro ⟨survives,free⟩
      obtain ⟨quiet,dispatched⟩ := decodable.mpr survives
      refine ⟨quiet,dispatched,fun _ key direct => ?_⟩
      rw [direct_partitionKey] at direct
      cases aggregate : event.aggregateId with
      | none => simp [aggregate] at direct
      | some aggregateId =>
        have empty : aggregateId = "" := by simpa [aggregate] using free
        simp [aggregate,Option.filter,empty] at direct

end System

def content (message : OutboxMessage (Payload Object)) : String × Payload Object := (message.messageId,message.payload)

theorem markFailed_content (stored : List (OutboxMessage (Payload Object))) (messageId error : String) :
    (InMemoryOutboxStorage.markFailed stored messageId error).map content = stored.map content := by
  simp only [InMemoryOutboxStorage.markFailed]
  induction stored with
  | nil => rfl
  | cons message rest ih =>
    simp only [updateOne]
    split
    next => rfl
    next => simp only [List.map_cons,ih]

theorem markPublished_content (stored : List (OutboxMessage (Payload Object))) (now : Int) (messageIds : List String) :
    (InMemoryOutboxStorage.markPublished stored now messageIds).map content = stored.map content := by
  simp only [InMemoryOutboxStorage.markPublished,List.map_map]
  apply List.map_congr_left
  intro message _
  simp only [Function.comp_apply]
  split
  all_goals rfl

def unpublished (stored : List (OutboxMessage (Payload Object))) : List (OutboxMessage (Payload Object)) :=
  stored.filter (·.publishedAt.isNone)

theorem markPublished_unpublished (stored : List (OutboxMessage (Payload Object))) (now : Int)
    (messageIds : List String) :
    unpublished (InMemoryOutboxStorage.markPublished stored now messageIds) =
      (unpublished stored).filter (·.messageId ∉ messageIds) := by
  simp only [unpublished,InMemoryOutboxStorage.markPublished]
  induction stored with
  | nil => rfl
  | cons message rest ih =>
    by_cases marked : message.messageId ∈ messageIds
    · cases pending : message.publishedAt <;> simp [marked,pending,ih]
    · cases pending : message.publishedAt <;> simp [marked,pending,ih]

theorem getPending_eq (stored : List (OutboxMessage (Payload Object))) (limit : Nat) :
    InMemoryOutboxStorage.getPending stored limit = (byCreation (·.createdAt) (unpublished stored)).take limit := rfl

theorem filter_notMem_take {Row : Type} (key : Row → String) (rows : List Row)
    (distinct : (rows.map key).Nodup) (limit : Nat) :
    rows.filter (fun row => key row ∉ (rows.take limit).map key) = rows.drop limit := by
  have apart := distinct
  rw [← List.take_append_drop limit rows,List.map_append,List.nodup_append] at apart
  have taken : (rows.take limit).filter (fun row => key row ∉ (rows.take limit).map key) = [] := by
    rw [List.filter_eq_nil_iff]
    intro row member
    simp only [decide_eq_true_eq,not_not]
    exact List.mem_map_of_mem member
  have kept : (rows.drop limit).filter (fun row => key row ∉ (rows.take limit).map key) = rows.drop limit := by
    rw [List.filter_eq_self]
    intro row member
    simp only [decide_eq_true_eq]
    intro present
    exact apart.2.2 _ present _ (List.mem_map_of_mem member) rfl
  calc rows.filter (fun row => key row ∉ (rows.take limit).map key)
      = (rows.take limit ++ rows.drop limit).filter (fun row => key row ∉ (rows.take limit).map key) := by
        rw [List.take_append_drop]
    _ = rows.drop limit := by rw [List.filter_append,taken,kept,List.nil_append]

namespace System

structure Faithful (system : System Object) (response : Response Object) (relay : Relay Object) : Prop where
  contents : relay.stored.map content =
    response.emissions.map fun emission => (emission.messageId,emission.event.modelDump)
  logged : ∀ entry ∈ relay.log, ∃ emission ∈ response.emissions,
    entry = (emission.messageId,system.relayed emission.event)

variable {system : System Object} {response : Response Object}

theorem Faithful.carries {relay : Relay Object} (faithful : system.Faithful response relay)
    {message : OutboxMessage (Payload Object)} (stored : message ∈ relay.stored) :
    ∃ emission ∈ response.emissions, emission.messageId = message.messageId ∧
      message.payload = emission.event.modelDump := by
  have present : content message ∈ relay.stored.map content := List.mem_map_of_mem stored
  rw [faithful.contents] at present
  obtain ⟨emission,emitted,same⟩ := List.mem_map.mp present
  obtain ⟨sameId,samePayload⟩ := Prod.mk.inj same
  exact ⟨emission,emitted,sameId,samePayload.symm⟩

theorem attempt_faithful {batch : Batch Object} {message : OutboxMessage (Payload Object)}
    (faithful : system.Faithful response batch.toRelay)
    (carries : ∃ emission ∈ response.emissions, emission.messageId = message.messageId ∧
      message.payload = emission.event.modelDump) :
    system.Faithful response (system.attempt batch message).toRelay := by
  have logged : ∀ entry ∈ batch.log ++ [(message.messageId,system.publishMessage message)],
      ∃ emission ∈ response.emissions, entry = (emission.messageId,system.relayed emission.event) := by
    intro entry member
    rcases List.mem_append.mp member with old | new
    · exact faithful.logged entry old
    · obtain ⟨emission,emitted,sameId,samePayload⟩ := carries
      refine ⟨emission,emitted,?_⟩
      rw [List.mem_singleton.mp new,sameId,publishMessage_eq system samePayload]
  simp only [attempt]
  split
  next => exact ⟨(markFailed_content _ _ _).trans faithful.contents,logged⟩
  next => exact ⟨faithful.contents,logged⟩

theorem attempts_faithful {batch : Batch Object} {claimed : List (OutboxMessage (Payload Object))}
    (faithful : system.Faithful response batch.toRelay)
    (carry : ∀ message ∈ claimed, ∃ emission ∈ response.emissions, emission.messageId = message.messageId ∧
      message.payload = emission.event.modelDump) :
    system.Faithful response (claimed.foldl system.attempt batch).toRelay := by
  induction claimed generalizing batch with
  | nil => exact faithful
  | cons message rest ih =>
    obtain ⟨here,later⟩ := List.forall_mem_cons.mp carry
    exact ih (attempt_faithful faithful here) later

theorem getPending_stored {stored : List (OutboxMessage (Payload Object))} {limit : Nat}
    {message : OutboxMessage (Payload Object)} (claimed : message ∈ InMemoryOutboxStorage.getPending stored limit) :
    message ∈ stored := by
  rw [getPending_eq] at claimed
  have pending := ((unpublished stored).perm_insertionSort _).subset (List.mem_of_mem_take claimed)
  exact (List.mem_filter.mp pending).1

theorem processBatch_faithful {relay : Relay Object} (faithful : system.Faithful response relay)
    (batch : Nat × Int) : system.Faithful response (system.processBatch relay batch) := by
  have start : system.Faithful response (Batch.toRelay ⟨relay,[]⟩) := faithful
  have done := attempts_faithful start
    fun message (claimed : message ∈ InMemoryOutboxStorage.getPending relay.stored batch.1) =>
      faithful.carries (getPending_stored claimed)
  simp only [processBatch]
  split
  next => exact done
  next => exact ⟨(markPublished_content _ _ _).trans done.contents,done.logged⟩

theorem attempts_quiet {batch : Batch Object} {claimed : List (OutboxMessage (Payload Object))}
    (quiet : ∀ message ∈ claimed, (system.publishMessage message).raised = false) :
    claimed.foldl system.attempt batch =
      ⟨⟨batch.stored,batch.log ++ claimed.map fun message => (message.messageId,system.publishMessage message)⟩,
        batch.published ++ claimed.map (·.messageId)⟩ := by
  induction claimed generalizing batch with
  | nil => simp
  | cons message rest ih =>
    obtain ⟨here,later⟩ := List.forall_mem_cons.mp quiet
    rw [List.foldl_cons,ih later]
    simp [attempt,here]

theorem processBatch_quiet {relay : Relay Object} {batch : Nat × Int}
    (quiet : ∀ message ∈ InMemoryOutboxStorage.getPending relay.stored batch.1,
      (system.publishMessage message).raised = false) :
    let claimed := InMemoryOutboxStorage.getPending relay.stored batch.1
    unpublished (system.processBatch relay batch).stored =
        (unpublished relay.stored).filter (·.messageId ∉ claimed.map (·.messageId)) ∧
      (system.processBatch relay batch).log =
        relay.log ++ claimed.map fun message => (message.messageId,system.publishMessage message) := by
  simp only [processBatch,attempts_quiet quiet,List.nil_append]
  split
  next none =>
    simp only [List.isEmpty_iff,List.map_eq_nil_iff] at none
    simp [none]
  next => exact ⟨markPublished_unpublished _ _ _,rfl⟩

theorem Faithful.distinct {relay : Relay Object} (faithful : system.Faithful response relay) :
    (relay.stored.map (·.messageId)).Nodup := by
  have same : relay.stored.map (·.messageId) = response.emissions.map (·.messageId) := by
    simpa [content,Function.comp_def] using congrArg (List.map Prod.fst) faithful.contents
  exact same ▸ response.distinct

structure Progress (response : Response Object) (handled : Nat) (relay : Relay Object) : Prop where
  remaining : (unpublished relay.stored).length ≤ response.emissions.length - handled
  covered : ∀ emission ∈ response.emissions, emission.messageId ∈ relay.log.map Prod.fst ∨
    emission.messageId ∈ (unpublished relay.stored).map (·.messageId)

theorem processBatch_progress {relay : Relay Object} {handled : Nat} (faithful : system.Faithful response relay)
    (progress : Progress response handled relay) (batch : Nat × Int)
    (survive : ∀ emission ∈ response.emissions, (system.relayed emission.event).raised = false) :
    Progress response (handled + batch.1) (system.processBatch relay batch) := by
  have quiet : ∀ message ∈ InMemoryOutboxStorage.getPending relay.stored batch.1,
      (system.publishMessage message).raised = false := by
    intro message claimed
    obtain ⟨emission,emitted,_,samePayload⟩ := faithful.carries (getPending_stored claimed)
    rw [publishMessage_eq system samePayload]
    exact survive emission emitted
  obtain ⟨left,log⟩ := processBatch_quiet quiet
  constructor
  · -- the storage claims the oldest messages first, and their ids are distinct
    have sorted := (unpublished relay.stored).perm_insertionSort fun first second => first.createdAt ≤ second.createdAt
    have distinct : ((byCreation (·.createdAt) (unpublished relay.stored)).map (·.messageId)).Nodup :=
      (sorted.map (·.messageId)).nodup_iff.mpr (faithful.distinct.sublist (List.filter_sublist.map _))
    have length : (unpublished (system.processBatch relay batch).stored).length =
        (unpublished relay.stored).length - batch.1 := by
      rw [left,getPending_eq,← (sorted.filter _).length_eq]
      exact (congrArg List.length (filter_notMem_take _ _ distinct batch.1)).trans
        (by rw [List.length_drop]; exact congrArg (· - batch.1) sorted.length_eq)
    have before := progress.remaining
    omega
  · intro emission emitted
    rw [left,log]
    rcases progress.covered emission emitted with logged | pending
    · exact Or.inl (by simp [List.mem_map.mp logged])
    · by_cases claimed : emission.messageId ∈
        (InMemoryOutboxStorage.getPending relay.stored batch.1).map (·.messageId)
      · refine Or.inl ?_
        rw [List.map_append,List.map_map]
        exact List.mem_append_right _ claimed
      · obtain ⟨message,member,same⟩ := List.mem_map.mp pending
        refine Or.inr (List.mem_map.mpr ⟨message,List.mem_filter.mpr ⟨member,?_⟩,same⟩)
        simpa [same] using claimed

theorem publishEvents_stored (response : Response Object) :
    (OutboxMiddleware.publishEvents response).stored = response.emissions.map Emission.message := by
  have saved : ∀ (emissions : List (Emission Object)) stored,
      emissions.foldl (fun stored emission => InMemoryOutboxStorage.saveMessages stored [emission.message]) stored =
        stored ++ emissions.map Emission.message := by
    intro emissions
    induction emissions with
    | nil => simp
    | cons emission rest ih =>
      intro stored
      rw [List.foldl_cons,ih]
      simp [InMemoryOutboxStorage.saveMessages]
  exact saved response.emissions []

theorem start_faithful (system : System Object) (response : Response Object) :
    system.Faithful response (OutboxMiddleware.publishEvents response) := by
  refine ⟨?_,fun entry member => by simp [OutboxMiddleware.publishEvents] at member⟩
  rw [publishEvents_stored,List.map_map]
  rfl

theorem start_progress (response : Response Object) :
    Progress response 0 (OutboxMiddleware.publishEvents response) := by
  have pending : unpublished (OutboxMiddleware.publishEvents response).stored =
      response.emissions.map Emission.message := by
    rw [publishEvents_stored,unpublished,List.filter_eq_self]
    intro message member
    obtain ⟨emission,_,rfl⟩ := List.mem_map.mp member
    rfl
  refine ⟨by simp [pending],fun emission emitted => Or.inr ?_⟩
  rw [pending,List.map_map]
  exact List.mem_map.mpr ⟨emission,emitted,rfl⟩

theorem relay_faithful (system : System Object) (response : Response Object) (batches : List (Nat × Int)) :
    system.Faithful response (system.relay response batches) := by
  have meets := Transition.meets_of_forall system.processBatch (fun _ _ => True) (fun _ _ => trivial)
    (OutboxMiddleware.publishEvents response) batches
  exact Transition.run_invariant (system.Faithful response)
    (fun _ batch faithful _ => processBatch_faithful faithful batch) _ batches (start_faithful system response) meets

theorem relay_progress (batches : List (Nat × Int))
    (survive : ∀ emission ∈ response.emissions, (system.relayed emission.event).raised = false) :
    Progress response (batches.map Prod.fst).sum (system.relay response batches) := by
  have step : ∀ (past : List (Nat × Int)) relay batch,
      (system.Faithful response relay ∧ Progress response (past.map Prod.fst).sum relay) → True →
        system.Faithful response (system.processBatch relay batch) ∧
          Progress response ((past ++ [batch]).map Prod.fst).sum (system.processBatch relay batch) := by
    rintro past relay batch ⟨faithful,progress⟩ _
    refine ⟨processBatch_faithful faithful batch,?_⟩
    simpa using processBatch_progress faithful progress batch survive
  have meets := Transition.meets_of_forall system.processBatch (fun _ _ => True) (fun _ _ => trivial)
    (OutboxMiddleware.publishEvents response) batches
  exact (Transition.run_history _ step [] _ batches
    ⟨start_faithful system response,start_progress response⟩ meets).2

theorem Faithful.fate {relay : Relay Object} (faithful : system.Faithful response relay) {emission : Emission Object}
    (emitted : emission ∈ response.emissions) {delivery : Delivery Object}
    (logged : (emission.messageId,delivery) ∈ relay.log) : delivery = system.relayed emission.event := by
  obtain ⟨other,member,same⟩ := faithful.logged _ logged
  obtain ⟨sameId,rfl⟩ := Prod.mk.inj same
  rw [List.inj_on_of_nodup_map response.distinct emitted member sameId]

/-- Whether the events of a command reach the dispatcher: over RabbitMQ exactly
the decodable ones do, over Kafka those that have no aggregate besides, and over
the in-memory bus none. -/
theorem endToEnd_iff (system : System Object) (response : Response Object) (batches : List (Nat × Int))
    (enough : response.emissions.length ≤ (batches.map Prod.fst).sum)
    (leftInverse : ∀ emission ∈ response.emissions, ∀ payload,
      system.runtime.wire emission.event.modelDump = some payload →
        system.runtime.modelValidate emission.event.className payload = some emission.event) :
    system.EndToEnd response (system.relay response batches) ↔
      ∀ emission ∈ response.emissions, system.Survives emission.event := by
  have faithful := relay_faithful system response batches
  constructor
  · intro delivered emission emitted
    obtain ⟨⟨delivery,logged⟩,delivers⟩ := delivered emission emitted
    have fate := faithful.fate emitted logged
    exact (relayed_delivers_iff system emission.event (leftInverse emission emitted)).mp
      (fate ▸ delivers delivery logged)
  · intro survive
    have delivers : ∀ emission ∈ response.emissions, system.Delivers emission.event (system.relayed emission.event) :=
      fun emission emitted => (relayed_delivers_iff system emission.event (leftInverse emission emitted)).mpr
        (survive emission emitted)
    have progress := relay_progress batches fun emission emitted => (delivers emission emitted).quiet
    intro emission emitted
    have handled := progress.remaining
    have finished : unpublished (system.relay response batches).stored = [] :=
      List.length_eq_zero_iff.mp (by omega)
    refine ⟨?_,fun delivery logged => faithful.fate emitted logged ▸ delivers emission emitted⟩
    rcases progress.covered emission emitted with logged | pending
    · obtain ⟨⟨messageId,delivery⟩,member,rfl⟩ := List.mem_map.mp logged
      exact ⟨delivery,member⟩
    · simp [finished] at pending

end System

/-- A class with no field `event_type`. The objects of the example are datetimes,
by their ISO text, and the empty dictionary. -/
def orderPlaced : DomainEvent (Option String) :=
  ⟨"OrderPlaced","e1",some "2026-01-01T09:00:00+00:00",1,some "order-7",some "Order",none,none,none,
    ⟨[("total",.number 30)],by simp⟩,by simp [baseFields]⟩

def orderShipped : DomainEvent (Option String) :=
  ⟨"OrderShipped","e2",some "2026-01-02T09:00:00+00:00",1,some "order-7",some "Order",none,none,none,
    ⟨[("event_type",.text "OrderShipped")],by simp⟩,by simp [baseFields]⟩

def shopJson : Value (Option String) → Value (Option String)
  | .other (some iso) => .text iso
  | value => value

def shopRuntime : Runtime (Option String) where
  truthy := Option.isSome
  str
    | .text content => content
    | .number value => toString value
    | .null => "None"
    | .other _ => "object"
  json value := some (shopJson value)
  modelValidate name payload := [orderPlaced,orderShipped].find? fun event =>
    event.className = name ∧ payload = event.modelDump.map fun entry => (entry.1,shopJson entry.2)
  instanceOf := by
    intro name payload event found
    have matched := List.find?_some found
    simp only [decide_eq_true_eq] at matched
    exact matched.1

def shop : System (Option String) :=
  ⟨shopRuntime,⟨[("OrderPlaced","OrderPlaced"),("OrderShipped","OrderShipped")],by simp⟩,.rabbitMQ,
    "serialization failed"⟩

def placedResponse : Response (Option String) := ⟨[⟨orderPlaced,"m1",5⟩],by simp⟩

def shippedResponse : Response (Option String) := ⟨[⟨orderShipped,"m2",6⟩],by simp⟩

/-- The class is registered under its name, the dump can be read back, and
nothing raises; but the payload does not say that it is an `OrderPlaced`. -/
theorem placed_order_dropped :
    shop.registry.get orderPlaced.className = some orderPlaced.className ∧
      (∀ payload, shop.runtime.wire orderPlaced.modelDump = some payload →
        shop.runtime.modelValidate orderPlaced.className payload = some orderPlaced) ∧
      (shop.relay placedResponse [(50,9)]).log = [("m1",⟨false,none,[]⟩)] ∧
      ¬ shop.EndToEnd placedResponse (shop.relay placedResponse [(50,9)]) := by
  have log : (shop.relay placedResponse [(50,9)]).log = [("m1",⟨false,none,[]⟩)] := rfl
  refine ⟨rfl,?_,log,?_⟩
  · intro payload encoded
    cases encoded
    rfl
  · intro delivered
    have delivers := (delivered ⟨orderPlaced,"m1",5⟩ (by simp [placedResponse])).2 ⟨false,none,[]⟩ (by simp [log])
    cases delivers.dispatched

theorem shipped_order_delivered : shop.EndToEnd shippedResponse (shop.relay shippedResponse [(50,9)]) := by
  refine (System.endToEnd_iff shop shippedResponse [(50,9)] (by decide) ?_).mpr ?_
  · intro emission emitted payload encoded
    rw [List.mem_singleton.mp emitted] at encoded ⊢
    cases encoded
    rfl
  · intro emission emitted
    rw [List.mem_singleton.mp emitted]
    exact ⟨fun _ _ => rfl,"OrderShipped",rfl,by decide,rfl⟩

end CqrsDdd.Messaging
