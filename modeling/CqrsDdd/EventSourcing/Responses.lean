import CqrsDdd.EventSourcing.Repository

/-! Storing the events of command responses. Both writers number an event by the
version of the one entity in the result and by the place of the event in the whole
response, so the stream of an aggregate is continued only if its events stand in
one block of the response at the place its own head asks for. -/
namespace CqrsDdd.EventSourcing

open Messaging

deriving instance DecidableEq for Dict
deriving instance DecidableEq for DomainEvent

variable {Object : Type}

/-- `entityVersion` is the version of `result.entity`, where the result has one. -/
structure CommandResponse (Object : Type) where
  entityVersion : Option Int
  events : List (DomainEvent Object)
  correlationId : Option String
  causationId : Option String

def CommandResponse.baseVersion (response : CommandResponse Object) : Int :=
  match response.entityVersion with
  | none => 0
  | some version => version-response.events.length

/-- An aggregate is its type, as the event names it, and the text of its id. -/
abbrev AggregateKey := Option String × String

def eventKey (event : DomainEvent Object) : AggregateKey := (event.aggregateType,strId event.aggregateId)

def aggregateStream (events : List (StoredEvent Object)) (key : AggregateKey) : List (StoredEvent Object) :=
  events.filter fun stored => (stored.aggregateType,stored.aggregateId) = key

namespace EventStorePersistenceMiddleware

def stored (response : CommandResponse Object) : List (StoredEvent Object) :=
  response.events.mapIdx fun i event =>
    .ofEvent (response.baseVersion+i+1) event.aggregateType event.correlationId event.causationId event

/-- What `__call__` does to the event store once the handler has returned. -/
def call (events : List (StoredEvent Object)) (response : CommandResponse Object) : List (StoredEvent Object) :=
  if response.events.isEmpty then events else InMemoryEventStore.appendBatch events (stored response)

end EventStorePersistenceMiddleware

/-- A store that has a length is false while it is empty; `none` is the default store. -/
structure EventSourcedPersistenceOrchestrator where
  eventSourcedTypes : List String
  nonEventSourcedTypes : List String
  aggregateStores : Dict String String
  sized : String → Bool
  enforceRegistration : Bool

abbrev EventLog (Object : Type) := List (Option String × StoredEvent Object)

namespace EventSourcedPersistenceOrchestrator
variable [DecidableEq Object]

def getEventStore (orchestrator : EventSourcedPersistenceOrchestrator) (log : EventLog Object)
    (aggregateType : String) : Option String :=
  (orchestrator.aggregateStores.get aggregateType).filter fun name =>
    !orchestrator.sized name || log.any fun entry => entry.1 = some name

def createStoredEvent (event : DomainEvent Object) (response : CommandResponse Object) : StoredEvent Object :=
  let eventIndex := if event ∈ response.events then response.events.idxOf event else 0
  .ofEvent (response.baseVersion+eventIndex+1) event.aggregateType response.correlationId response.causationId event

/-- The error names the aggregate type that is not registered. -/
def persistEvent (orchestrator : EventSourcedPersistenceOrchestrator) (log : EventLog Object)
    (event : DomainEvent Object) (response : CommandResponse Object) : Except String (EventLog Object) :=
  match event.aggregateType.filter (· ≠ "") with
  | none => .ok log
  | some aggregateType =>
    if aggregateType ∈ orchestrator.eventSourcedTypes then
      .ok (log ++ [(orchestrator.getEventStore log aggregateType,createStoredEvent event response)])
    else if aggregateType ∈ orchestrator.nonEventSourcedTypes then .ok log
    else if orchestrator.enforceRegistration then .error aggregateType
    else .ok log

/-- What was appended before an event is refused stays in the stores. -/
def persistEvents (orchestrator : EventSourcedPersistenceOrchestrator) (response : CommandResponse Object) :
    EventLog Object → List (DomainEvent Object) → EventLog Object × Option String
  | log, [] => (log,none)
  | log, event::rest =>
    match orchestrator.persistEvent log event response with
    | .error aggregateType => (log,some aggregateType)
    | .ok log => orchestrator.persistEvents response log rest

def dispatch (orchestrator : EventSourcedPersistenceOrchestrator) (log : EventLog Object)
    (response : CommandResponse Object) : EventLog Object :=
  (orchestrator.persistEvents response log response.events).1

end EventSourcedPersistenceOrchestrator

/-- The places follow each other, and the first one continues a stream of `count` events. -/
def Continues (baseVersion : Int) (places : List Nat) (count : Nat) : Prop :=
  ∃ first, places = List.range' first places.length ∧ (places ≠ [] → baseVersion+first = count)

theorem continues_iff (baseVersion : Int) (places : List Nat) (count : Nat) :
    Continues baseVersion places count ↔
      ∀ (position place : Nat), places[position]? = some place → baseVersion+place = count+position := by
  constructor
  · rintro ⟨first,block,start⟩ position place found
    have bound := (List.getElem?_eq_some_iff.mp found).1
    have head := start (List.ne_nil_of_length_pos (by omega))
    rw [block,List.getElem?_range' bound] at found
    obtain rfl : first+1*position = place := by simpa using found
    push_cast
    omega
  · intro continues
    cases places with
    | nil => exact ⟨0,rfl,by simp⟩
    | cons first rest =>
      have head := continues 0 first rfl
      refine ⟨first,List.ext_getElem? fun position => ?_,fun _ => by simpa using head⟩
      cases found : (first::rest)[position]? with
      | none =>
        rw [List.getElem?_eq_none_iff] at found
        rw [List.getElem?_eq_none (by simpa using found)]
      | some place =>
        have bound := (List.getElem?_eq_some_iff.mp found).1
        have here := continues position place found
        rw [List.getElem?_range' bound]
        congr 1
        push_cast at here head
        omega

theorem numbered_append_iff {stream batch : List (StoredEvent Object)} {baseVersion : Int} {places : List Nat}
    (versions : batch.map (·.version) = places.map fun place : Nat => baseVersion+place+1) :
    Numbered (stream ++ batch) ↔ Numbered stream ∧ Continues baseVersion places stream.length := by
  rw [continues_iff]
  constructor
  · intro numbered
    refine ⟨numbered.before,fun position place found => ?_⟩
    have image : (batch.map (·.version))[position]? = some (baseVersion+place+1) := by
      rw [versions,List.getElem?_map,found]
      rfl
    rw [List.getElem?_map] at image
    obtain ⟨stored,present,version⟩ := Option.map_eq_some_iff.mp image
    have head := numbered (stream.length+position) stored (by rw [List.getElem?_append_right (by omega)]; simpa using present)
    push_cast at head
    omega
  · rintro ⟨numbered,continues⟩ position stored found
    rcases Nat.lt_or_ge position stream.length with low | high
    · rw [List.getElem?_append_left low] at found
      exact numbered position stored found
    · rw [List.getElem?_append_right high] at found
      have image : (places.map fun place : Nat => baseVersion+place+1)[position-stream.length]? = some stored.version := by
        rw [← versions,List.getElem?_map,found]
        rfl
      rw [List.getElem?_map] at image
      obtain ⟨place,present,version⟩ := Option.map_eq_some_iff.mp image
      have head := continues _ place present
      omega

/-- A writer appends a batch for every response; its stream stays numbered exactly if every batch continues it. -/
theorem run_numbered_iff {Store : Type} (step : Store → CommandResponse Object → Store)
    (stream : Store → List (StoredEvent Object)) (places : CommandResponse Object → List Nat)
    (appends : ∀ store response, ∃ batch, stream (step store response) = stream store ++ batch ∧
      batch.map (·.version) = (places response).map fun place : Nat => response.baseVersion+place+1)
    (store : Store) (responses : List (CommandResponse Object)) :
    Numbered (stream (Transition.run step store responses)) ↔ Numbered (stream store) ∧
      Transition.Meets step (fun store response =>
        Continues response.baseVersion (places response) (stream store).length) store responses := by
  induction responses generalizing store with
  | nil => simp [Transition.Meets]
  | cons response rest ih =>
    obtain ⟨batch,after,versions⟩ := appends store response
    rw [Transition.run_cons,ih,after,numbered_append_iff versions,Transition.Meets,and_assoc]

namespace EventStorePersistenceMiddleware

def places (response : CommandResponse Object) (key : AggregateKey) : List Nat :=
  (response.events.zipIdx.filter fun entry => eventKey entry.1 = key).map Prod.snd

theorem call_eq (events : List (StoredEvent Object)) (response : CommandResponse Object) :
    call events response = events ++ stored response := by
  unfold call
  split
  next nothing => simp [stored,List.isEmpty_iff.mp nothing]
  next => rfl

theorem call_appends (key : AggregateKey) (events : List (StoredEvent Object)) (response : CommandResponse Object) :
    ∃ batch, aggregateStream (call events response) key = aggregateStream events key ++ batch ∧
      batch.map (·.version) = (places response key).map fun place : Nat => response.baseVersion+place+1 := by
  refine ⟨aggregateStream (stored response) key,by rw [call_eq,aggregateStream,List.filter_append]; rfl,?_⟩
  simp only [aggregateStream,stored,places,List.mapIdx_eq_zipIdx_map,List.filter_map,List.map_map]
  rfl

end EventStorePersistenceMiddleware

namespace EventSourcedPersistenceOrchestrator
variable [DecidableEq Object]

def refuses (orchestrator : EventSourcedPersistenceOrchestrator) (event : DomainEvent Object) : Bool :=
  match event.aggregateType.filter (· ≠ "") with
  | none => false
  | some aggregateType => aggregateType ∉ orchestrator.eventSourcedTypes &&
      aggregateType ∉ orchestrator.nonEventSourcedTypes && orchestrator.enforceRegistration

def sources (orchestrator : EventSourcedPersistenceOrchestrator) (event : DomainEvent Object) : Bool :=
  match event.aggregateType.filter (· ≠ "") with
  | none => false
  | some aggregateType => aggregateType ∈ orchestrator.eventSourcedTypes

/-- The events of the response that are stored: the event-sourced ones before the first that is refused. -/
def persisted (orchestrator : EventSourcedPersistenceOrchestrator) (events : List (DomainEvent Object)) :
    List (DomainEvent Object) :=
  (events.takeWhile fun event => !orchestrator.refuses event).filter orchestrator.sources

/-- Where the stored events of one aggregate are first found in the response. -/
def places (orchestrator : EventSourcedPersistenceOrchestrator) (response : CommandResponse Object)
    (key : AggregateKey) : List Nat :=
  ((orchestrator.persisted response.events).filter fun event => eventKey event = key).map fun event =>
    response.events.idxOf event

theorem persistEvent_cases (orchestrator : EventSourcedPersistenceOrchestrator) (log : EventLog Object)
    (event : DomainEvent Object) (response : CommandResponse Object) :
    (orchestrator.refuses event = true ∧ ∃ aggregateType, orchestrator.persistEvent log event response = .error aggregateType) ∨
      orchestrator.refuses event = false ∧
        ((orchestrator.sources event = false ∧ orchestrator.persistEvent log event response = .ok log) ∨
          orchestrator.sources event = true ∧ ∃ store, orchestrator.persistEvent log event response =
            .ok (log ++ [(store,createStoredEvent event response)])) := by
  unfold persistEvent refuses sources
  cases event.aggregateType.filter (· ≠ "") with
  | none => simp
  | some aggregateType =>
    by_cases sourced : aggregateType ∈ orchestrator.eventSourcedTypes
    · simp [sourced]
    · by_cases known : aggregateType ∈ orchestrator.nonEventSourcedTypes
      · simp [sourced,known]
      · cases strict : orchestrator.enforceRegistration <;> simp [sourced,known]

theorem persistEvents_stored (orchestrator : EventSourcedPersistenceOrchestrator) (response : CommandResponse Object)
    (log : EventLog Object) (events : List (DomainEvent Object)) :
    (orchestrator.persistEvents response log events).1.map Prod.snd =
      log.map Prod.snd ++ (orchestrator.persisted events).map fun event => createStoredEvent event response := by
  induction events generalizing log with
  | nil => simp [persistEvents,persisted]
  | cons event rest ih =>
    rcases orchestrator.persistEvent_cases log event response with
      ⟨refused,aggregateType,result⟩ | ⟨accepted,⟨passed,result⟩ | ⟨sourced,store,result⟩⟩
    · simp [persistEvents,result,persisted,refused]
    · simp only [persistEvents,result,ih]
      simp [persisted,accepted,passed]
    · simp only [persistEvents,result,ih]
      simp [persisted,accepted,sourced]

omit [DecidableEq Object] in
theorem persisted_subset {orchestrator : EventSourcedPersistenceOrchestrator} {events : List (DomainEvent Object)}
    {event : DomainEvent Object} (member : event ∈ orchestrator.persisted events) : event ∈ events :=
  (List.takeWhile_sublist _).subset (List.mem_of_mem_filter member)

theorem dispatch_appends (orchestrator : EventSourcedPersistenceOrchestrator) (key : AggregateKey)
    (log : EventLog Object) (response : CommandResponse Object) :
    ∃ batch, aggregateStream ((orchestrator.dispatch log response).map Prod.snd) key =
        aggregateStream (log.map Prod.snd) key ++ batch ∧
      batch.map (·.version) = (orchestrator.places response key).map fun place : Nat => response.baseVersion+place+1 := by
  rw [dispatch,persistEvents_stored]
  refine ⟨_,List.filter_append ..,?_⟩
  rw [List.filter_map,places,List.map_map,List.map_map]
  refine List.map_congr_left fun event member => ?_
  have present := persisted_subset (List.mem_of_mem_filter member)
  simp [createStoredEvent,StoredEvent.ofEvent,present]

end EventSourcedPersistenceOrchestrator

/-- For either writer the stream of an aggregate stays numbered through a sequence of
responses exactly if in each of them its stored events fill one block of places and
the base version and the first place come to the number of its events so far. -/
theorem responses_numbered_iff [DecidableEq Object] (orchestrator : EventSourcedPersistenceOrchestrator)
    (key : AggregateKey) (log : EventLog Object) (events : List (StoredEvent Object))
    (responses : List (CommandResponse Object)) (logNumbered : Numbered (aggregateStream (log.map Prod.snd) key))
    (eventsNumbered : Numbered (aggregateStream events key)) :
    (Numbered (aggregateStream ((Transition.run orchestrator.dispatch log responses).map Prod.snd) key) ↔
      Transition.Meets orchestrator.dispatch (fun log response => Continues response.baseVersion
        (orchestrator.places response key) (aggregateStream (log.map Prod.snd) key).length) log responses) ∧
    (Numbered (aggregateStream (Transition.run EventStorePersistenceMiddleware.call events responses) key) ↔
      Transition.Meets EventStorePersistenceMiddleware.call (fun events response => Continues response.baseVersion
        (EventStorePersistenceMiddleware.places response key) (aggregateStream events key).length) events responses) := by
  constructor
  · rw [run_numbered_iff orchestrator.dispatch (fun log => aggregateStream (log.map Prod.snd) key)
      (fun response => orchestrator.places response key) (orchestrator.dispatch_appends key)]
    exact and_iff_right logNumbered
  · rw [run_numbered_iff EventStorePersistenceMiddleware.call (fun events => aggregateStream events key)
      (fun response => EventStorePersistenceMiddleware.places response key)
      (EventStorePersistenceMiddleware.call_appends key)]
    exact and_iff_right eventsNumbered

def orderPlaced (aggregateId : String) : DomainEvent Unit :=
  {EventSourcedLoader.orderEvent "OrderPlaced" with eventId := "placed-" ++ aggregateId, aggregateId := some aggregateId}

def orderOrchestrator : EventSourcedPersistenceOrchestrator := ⟨["Order"],["Cart"],Dict.empty,fun _ => true,true⟩

def placedOrders : EventLog Unit :=
  [(some "orders",.ofEvent 1 (some "Order") none none (orderPlaced "order-2")),
    (none,.ofEvent 1 (some "Order") none none (orderPlaced "order-1"))]

theorem placed_numbered : Numbered (aggregateStream (placedOrders.map Prod.snd) (some "Order","order-1")) := by
  rintro (_ | position) stored found
  · exact Option.some.inj found ▸ rfl
  · cases found

theorem responses_numbered_order :
    let responses : List (CommandResponse Unit) := [⟨some 3,[orderPlaced "order-1",orderPlaced "order-2"],none,none⟩,
      ⟨some 3,[orderPlaced "order-2",orderPlaced "order-1"],none,none⟩]
    Numbered (aggregateStream ((Transition.run orderOrchestrator.dispatch placedOrders responses).map Prod.snd)
        (some "Order","order-1")) ∧
      Numbered (aggregateStream (Transition.run EventStorePersistenceMiddleware.call (placedOrders.map Prod.snd) responses)
        (some "Order","order-1")) := by
  intro responses
  obtain ⟨orchestrated,stored⟩ := responses_numbered_iff orderOrchestrator (some "Order","order-1") placedOrders
    (placedOrders.map Prod.snd) responses placed_numbered placed_numbered
  exact ⟨orchestrated.mpr ⟨⟨0,rfl,fun _ => rfl⟩,⟨1,rfl,fun _ => rfl⟩,trivial⟩,
    stored.mpr ⟨⟨0,rfl,fun _ => rfl⟩,⟨1,rfl,fun _ => rfl⟩,trivial⟩⟩

/-- Two orders in one response: the only event of the second one is stored at version 2. -/
theorem responses_skip_version :
    let response : CommandResponse Unit := ⟨none,[orderPlaced "order-1",orderPlaced "order-2"],none,none⟩
    ¬ Numbered (aggregateStream ((Transition.run orderOrchestrator.dispatch [] [response]).map Prod.snd)
        (some "Order","order-2")) ∧
      ¬ Numbered (aggregateStream (Transition.run EventStorePersistenceMiddleware.call [] [response])
        (some "Order","order-2")) := by
  intro response
  constructor
  · intro numbered
    exact absurd (numbered 0 (.ofEvent 2 (some "Order") none none (orderPlaced "order-2")) rfl) (by decide)
  · intro numbered
    exact absurd (numbered 0 (.ofEvent 2 (some "Order") none none (orderPlaced "order-2")) rfl) (by decide)

end CqrsDdd.EventSourcing
