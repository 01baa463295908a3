import CqrsDdd.EventSourcing.Snapshots

/-! Persisting an event-sourced aggregate. `persist` takes the version of the
entity for the version after its new events, but neither `add_event` nor anything
before it advances that version: what a fresh aggregate emits is stored at or
below version zero, where no load finds it again. -/
namespace CqrsDdd.EventSourcing

open Messaging

variable {Object State Dump Failure : Type}

/-- An aggregate with the domain events it has recorded. -/
structure Entity (Object State : Type) where
  aggregate : Aggregate State
  domainEvents : List (DomainEvent Object)

namespace Entity

def addEvent (entity : Entity Object State) (event : DomainEvent Object) : Entity Object State :=
  {entity with domainEvents := entity.domainEvents ++ [event]}

def collectEvents (entity : Entity Object State) : List (DomainEvent Object) × Entity Object State :=
  (entity.domainEvents,{entity with domainEvents := []})

theorem foldl_addEvent (entity : Entity Object State) (events : List (DomainEvent Object)) :
    events.foldl addEvent entity = ⟨entity.aggregate,entity.domainEvents ++ events⟩ := by
  induction events generalizing entity with
  | nil => simp
  | cons event rest ih => simp [ih,addEvent]

end Entity

def strId : Option String → String
  | none => "None"
  | some id => id

/-- The stored form of an event; the writers differ in the version, the type and the tracing ids. -/
def StoredEvent.ofEvent (version : Int) (aggregateType correlationId causationId : Option String)
    (event : DomainEvent Object) : StoredEvent Object :=
  { eventId := event.eventId
    eventType := event.className
    aggregateId := strId event.aggregateId
    aggregateType := aggregateType
    version := version
    schemaVersion := event.version
    payload := event.modelDump
    metadata := event.metadata
    occurredAt := event.occurredAt
    correlationId := correlationId
    causationId := causationId }

structure Stores (Object Dump : Type) where
  events : List (StoredEvent Object)
  snapshots : Option (InMemorySnapshotStore Dump)

namespace EventSourcedRepository

def storedEvent (aggregateTypeName : String) (version : Int) (event : DomainEvent Object) : StoredEvent Object :=
  let aggregateType := if event.aggregateType.getD "" ≠ "" then event.aggregateType else some aggregateTypeName
  .ofEvent version aggregateType event.correlationId event.causationId event

def storedEvents (aggregateTypeName : String) (version : Int) (events : List (DomainEvent Object)) :
    List (StoredEvent Object) :=
  let baseVersion := version-events.length
  events.mapIdx fun i event => storedEvent aggregateTypeName (baseVersion+i+1) event

def persistInternal (loader : EventSourcedLoader Object State Dump Failure) (stores : Stores Object Dump)
    (entity : Entity Object State) (events : List (DomainEvent Object)) : Stores Object Dump :=
  let stored := storedEvents loader.aggregateTypeName entity.aggregate.version events
  { events := InMemoryEventStore.appendBatch stores.events stored
    snapshots := stores.snapshots.map fun snapshots => loader.maybeSnapshot snapshots entity.aggregate }

def persist (loader : EventSourcedLoader Object State Dump Failure) (stores : Stores Object Dump)
    (entity : Entity Object State) (events : Option (List (DomainEvent Object))) : Stores Object Dump :=
  match events with
  | some events => persistInternal loader stores entity events
  | none =>
    let (events,entity) := entity.collectEvents
    persistInternal loader stores entity events

/-- One use of the repository: the aggregate is loaded, or made new at version zero
when there is none, it changes its state and records events, and it is persisted. -/
structure Round (Object State : Type) where
  aggregateId : String
  fresh : State
  handle : State → State × List (DomainEvent Object)

/-- What the round records; a load that raises ends it. -/
def emitted (loader : EventSourcedLoader Object State Dump Failure) (stores : Stores Object Dump)
    (round : Round Object State) : List (DomainEvent Object) :=
  match loader.load stores.events stores.snapshots round.aggregateId with
  | .error _ => []
  | .ok found => (round.handle (found.getD ⟨round.fresh,0⟩).state).2

def performRound (loader : EventSourcedLoader Object State Dump Failure) (stores : Stores Object Dump)
    (round : Round Object State) : Stores Object Dump :=
  match loader.load stores.events stores.snapshots round.aggregateId with
  | .error _ => stores
  | .ok found =>
    let aggregate := found.getD ⟨round.fresh,0⟩
    let handled := round.handle aggregate.state
    let entity := handled.2.foldl Entity.addEvent ⟨⟨handled.1,aggregate.version⟩,[]⟩
    persist loader stores entity none

/-- Everything stored so far stands at or below version zero. -/
structure Sunk (stores : Stores Object Dump) : Prop where
  events : ∀ stored ∈ stores.events, stored.version ≤ 0
  snapshots : ∀ snapshots, stores.snapshots = some snapshots → ∀ key snapshot,
    snapshots.get key = some snapshot → snapshot.version = 0

theorem Sunk.unread {stores : Stores Object Dump} (sunk : Sunk stores) (aggregateId : String) :
    InMemoryEventStore.getEvents stores.events aggregateId 0 = [] := by
  rw [InMemoryEventStore.getEvents,List.filter_eq_nil_iff]
  intro stored member
  have low := sunk.events stored member
  simp [low]

theorem Sunk.load {loader : EventSourcedLoader Object State Dump Failure} {stores : Stores Object Dump}
    (sunk : Sunk stores) {aggregateId : String} {found : Option (Aggregate State)}
    (loaded : loader.load stores.events stores.snapshots aggregateId = .ok found) : found = none := by
  have base : loader.snapshotVersion stores.snapshots aggregateId = 0 := by
    rw [EventSourcedLoader.snapshotVersion]
    cases latest : loader.latestSnapshot stores.snapshots aggregateId with
    | none => rfl
    | some snapshot =>
      obtain ⟨snapshots,held,present⟩ := Option.bind_eq_some_iff.mp latest
      exact sunk.snapshots snapshots held _ snapshot present
  rcases EventSourcedLoader.load_catchUp loaded with absent | ⟨start,version,caught⟩
  · exact absent
  · rw [base] at version
    simp only [EventSourcedLoader.catchUp,version,sunk.unread,List.isEmpty_nil,and_self,if_true] at caught
    exact (Except.ok.inj caught).symm

theorem storedEvents_version {aggregateTypeName : String} {events : List (DomainEvent Object)} {version : Int}
    {stored : StoredEvent Object} (member : stored ∈ storedEvents aggregateTypeName version events) :
    stored.version ≤ version := by
  obtain ⟨position,bound,rfl⟩ := List.mem_mapIdx.mp member
  simp only [storedEvent,StoredEvent.ofEvent]
  omega

theorem performRound_cases (loader : EventSourcedLoader Object State Dump Failure) (stores : Stores Object Dump)
    (round : Round Object State) :
    (emitted loader stores round = [] ∧ performRound loader stores round = stores) ∨
      ∃ found state, loader.load stores.events stores.snapshots round.aggregateId = .ok found ∧
        performRound loader stores round =
          ⟨stores.events ++ storedEvents loader.aggregateTypeName (found.getD ⟨round.fresh,0⟩).version
              (emitted loader stores round),
            stores.snapshots.map fun snapshots =>
              loader.maybeSnapshot snapshots ⟨state,(found.getD ⟨round.fresh,0⟩).version⟩⟩ := by
  unfold performRound emitted
  cases loaded : loader.load stores.events stores.snapshots round.aggregateId with
  | error failure => exact .inl ⟨rfl,rfl⟩
  | ok found =>
    refine .inr ⟨found,(round.handle (found.getD ⟨round.fresh,0⟩).state).1,rfl,?_⟩
    simp [Entity.foldl_addEvent,persist,Entity.collectEvents,persistInternal,InMemoryEventStore.appendBatch]

theorem Sunk.step {loader : EventSourcedLoader Object State Dump Failure} (stores : Stores Object Dump)
    (round : Round Object State) (sunk : Sunk stores) : Sunk (performRound loader stores round) := by
  rcases performRound_cases loader stores round with ⟨_,same⟩ | ⟨found,state,loaded,same⟩
  · rwa [same]
  · obtain rfl := sunk.load loaded
    rw [same]
    constructor
    · intro stored member
      rcases List.mem_append.mp member with old | new
      · exact sunk.events stored old
      · exact storedEvents_version new
    · intro snapshots held key snapshot present
      obtain ⟨earlier,before,rfl⟩ := Option.map_eq_some_iff.mp held
      rcases EventSourcedLoader.maybeSnapshot_get present with old | rfl
      · exact sunk.snapshots earlier before key snapshot old
      · rfl

def Silent (loader : EventSourcedLoader Object State Dump Failure) (aggregateId : String)
    (stores : Stores Object Dump) (round : Round Object State) : Prop :=
  ∀ event ∈ emitted loader stores round, strId event.aggregateId ≠ aggregateId

theorem streamOf_storedEvents (aggregateTypeName : String) (version : Int) (events : List (DomainEvent Object))
    (aggregateId : String) :
    streamOf (storedEvents aggregateTypeName version events) aggregateId = [] ↔
      ∀ event ∈ events, strId event.aggregateId ≠ aggregateId := by
  simp only [streamOf,List.filter_eq_nil_iff,decide_eq_true_eq]
  constructor
  · intro none event member
    obtain ⟨position,bound,rfl⟩ := List.getElem_of_mem member
    exact none _ (List.mem_mapIdx.mpr ⟨position,bound,rfl⟩)
  · intro none stored member
    obtain ⟨position,bound,rfl⟩ := List.mem_mapIdx.mp member
    exact none _ (List.getElem_mem bound)

theorem performRound_stream (loader : EventSourcedLoader Object State Dump Failure) (aggregateId : String)
    (stores : Stores Object Dump) (round : Round Object State) :
    streamOf (performRound loader stores round).events aggregateId = [] ↔
      streamOf stores.events aggregateId = [] ∧ Silent loader aggregateId stores round := by
  rcases performRound_cases loader stores round with ⟨nothing,same⟩ | ⟨found,state,_,same⟩
  · simp [same,Silent,nothing]
  · rw [same,Silent,← streamOf_storedEvents loader.aggregateTypeName (found.getD ⟨round.fresh,0⟩).version]
    simp only [streamOf,List.filter_append,List.append_eq_nil_iff]

theorem run_stream (loader : EventSourcedLoader Object State Dump Failure) (aggregateId : String)
    (stores : Stores Object Dump) (rounds : List (Round Object State)) :
    streamOf (Transition.run (performRound loader) stores rounds).events aggregateId = [] ↔
      streamOf stores.events aggregateId = [] ∧
        Transition.Meets (performRound loader) (Silent loader aggregateId) stores rounds := by
  induction rounds generalizing stores with
  | nil => simp [Transition.Meets]
  | cons round rest ih => rw [Transition.run_cons,ih,performRound_stream,and_assoc,Transition.Meets]

/-- From empty stores the versions of an aggregate are 1, 2, … only if it never recorded an event. -/
theorem persisted_numbered_iff (loader : EventSourcedLoader Object State Dump Failure) (aggregateId : String)
    (withSnapshots : Bool) (rounds : List (Round Object State)) :
    let start : Stores Object Dump := ⟨[],if withSnapshots then some Dict.empty else none⟩
    Numbered (streamOf (Transition.run (performRound loader) start rounds).events aggregateId) ↔
      Transition.Meets (performRound loader) (Silent loader aggregateId) start rounds := by
  intro start
  have initial : Sunk start := by
    refine ⟨by simp [start],fun snapshots held key snapshot present => ?_⟩
    cases withSnapshots with
    | false => simp [start] at held
    | true =>
      obtain rfl : Dict.empty = snapshots := by simpa [start] using held
      simp at present
  have sunk : Sunk (Transition.run (performRound loader) start rounds) :=
    Transition.run_invariant Sunk (fun stores round sunk _ => Sunk.step stores round sunk) start rounds initial
      (Transition.meets_of_forall _ (fun _ _ => True) (fun _ _ => trivial) _ _)
  have unnumbered : Numbered (streamOf (Transition.run (performRound loader) start rounds).events aggregateId) ↔
      streamOf (Transition.run (performRound loader) start rounds).events aggregateId = [] := by
    constructor
    · intro numbered
      rcases nonempty : streamOf (Transition.run (performRound loader) start rounds).events aggregateId with
        _ | ⟨first,rest⟩
      · rfl
      · have one := numbered 0 first (by rw [nonempty]; rfl)
        have low := sunk.events first (List.mem_of_mem_filter (nonempty ▸ List.mem_cons_self))
        omega
    · intro nothing
      rw [nothing]
      exact numbered_nil
  rw [unnumbered,run_stream]
  simp [start,streamOf]

/-- The first event of a new order is stored at version zero. -/
theorem persisted_below_one :
    let round : Round Unit (String × List String) := ⟨"order-1",("order-1",[]),fun state => (state,[EventSourcedLoader.orderEvent "OrderCreated"])⟩
    ¬ Numbered (streamOf (Transition.run (performRound EventSourcedLoader.orderLoader) ⟨[],none⟩ [round]).events
      "order-1") := by
  intro round numbered
  have one := numbered 0 (EventSourcedLoader.storedOrderEvent "OrderCreated" 0) rfl
  cases one

end EventSourcedRepository

end CqrsDdd.EventSourcing
