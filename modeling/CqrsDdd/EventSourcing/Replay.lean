import CqrsDdd.Attempts
import CqrsDdd.EventSourcing.Loader
import CqrsDdd.Transition
import Mathlib.Data.List.Range

/-! What a load gives back. The version of an aggregate is the version of the last
event that was applied, so it lags behind the stream when the last events are
passed over; for the same reason a snapshot and the events behind its version
give the same aggregate as the whole history. -/
namespace CqrsDdd.EventSourcing

open Messaging Attempts

variable {Object State Dump Failure : Type}

/-- The stored events of one aggregate carry the versions from one on, in append order. -/
def Numbered (stream : List (StoredEvent Object)) : Prop :=
  ∀ (position : Nat) (stored : StoredEvent Object), stream[position]? = some stored → stored.version = position+1

def streamOf (events : List (StoredEvent Object)) (aggregateId : String) : List (StoredEvent Object) :=
  events.filter fun stored => stored.aggregateId = aggregateId

theorem numbered_nil : Numbered ([] : List (StoredEvent Object)) := by
  intro position stored found
  cases found

theorem Numbered.before {first second : List (StoredEvent Object)} (numbered : Numbered (first ++ second)) :
    Numbered first := by
  intro position stored found
  have bound : position < first.length := (List.getElem?_eq_some_iff.mp found).1
  exact numbered position stored (by rw [List.getElem?_append_left bound,found])

theorem Numbered.above {stream : List (StoredEvent Object)} (numbered : Numbered stream) (count : Nat) :
    stream.filter (fun stored => (count : Int) < stored.version) = stream.drop count := by
  have low : ∀ stored ∈ stream.take count, ¬ (count : Int) < stored.version := by
    intro stored member
    obtain ⟨position,found⟩ := List.getElem?_of_mem member
    rw [List.getElem?_take] at found
    split at found
    next bound =>
      rw [numbered position stored found]
      omega
    next => cases found
  have high : ∀ stored ∈ stream.drop count, (count : Int) < stored.version := by
    intro stored member
    obtain ⟨position,found⟩ := List.getElem?_of_mem member
    rw [List.getElem?_drop] at found
    rw [numbered _ stored found]
    omega
  conv_lhs => rw [← List.take_append_drop count stream]
  rw [List.filter_append,List.filter_eq_nil_iff.mpr (by simpa using low),List.filter_eq_self.mpr (by simpa using high)]
  rfl

theorem Numbered.le_length {stream : List (StoredEvent Object)} (numbered : Numbered stream)
    {stored : StoredEvent Object} (member : stored ∈ stream) : stored.version ≤ stream.length := by
  obtain ⟨position,found⟩ := List.getElem?_of_mem member
  have bound := (List.getElem?_eq_some_iff.mp found).1
  rw [numbered position stored found]
  omega

theorem getEvents_eq (events : List (StoredEvent Object)) (aggregateId : String) (version : Int) :
    InMemoryEventStore.getEvents events aggregateId version =
      (streamOf events aggregateId).filter fun stored => version < stored.version := by
  simp [InMemoryEventStore.getEvents,streamOf,List.filter_filter,Bool.and_comm]

theorem Numbered.of_start {first second : List (StoredEvent Object)} (before : first <+: second)
    (numbered : Numbered second) : Numbered first := by
  obtain ⟨rest,rfl⟩ := before
  exact numbered.before

theorem Numbered.snoc {stream : List (StoredEvent Object)} (numbered : Numbered stream) {stored : StoredEvent Object}
    (next : stored.version = stream.length+1) : Numbered (stream ++ [stored]) := by
  intro position found present
  rcases Nat.lt_trichotomy position stream.length with low | rfl | high
  · rw [List.getElem?_append_left low] at present
    exact numbered position found present
  · obtain rfl : stored = found := by simpa using present
    exact next
  · rw [List.getElem?_eq_none (by simp; omega)] at present
    cases present

theorem streamOf_starts {first second : List (StoredEvent Object)} (before : first <+: second) (aggregateId : String) :
    streamOf first aggregateId <+: streamOf second aggregateId :=
  before.filter _

theorem streamOf_append (events : List (StoredEvent Object)) (stored : StoredEvent Object) (aggregateId : String) :
    streamOf (InMemoryEventStore.append events stored) aggregateId =
      if stored.aggregateId = aggregateId then streamOf events aggregateId ++ [stored]
      else streamOf events aggregateId := by
  by_cases same : stored.aggregateId = aggregateId <;> simp [streamOf,InMemoryEventStore.append,List.filter_append,same]

namespace EventSourcedLoader

theorem replay_append (loader : EventSourcedLoader Object State Dump Failure) (aggregate : Aggregate State)
    (first second : List (StoredEvent Object)) :
    loader.replay aggregate (first ++ second) =
      (loader.replay aggregate first).bind fun middle => loader.replay middle second :=
  List.foldlM_append ..

theorem replay_single (loader : EventSourcedLoader Object State Dump Failure) (aggregate : Aggregate State)
    (stored : StoredEvent Object) : loader.replay aggregate [stored] = loader.applyStored aggregate stored := by
  simp [replay]

theorem applyStored_cases {loader : EventSourcedLoader Object State Dump Failure} {before after : Aggregate State}
    {stored : StoredEvent Object} (applied : loader.applyStored before stored = .ok after) :
    (loader.decode stored = .ok none ∧ after = before) ∨
      (∃ event, loader.decode stored = .ok (some event)) ∧ after.version = stored.version := by
  obtain ⟨found,decoded,applied⟩ := bind_ok.mp applied
  cases found with
  | none => exact .inl ⟨decoded,(pure_ok.mp applied).symm⟩
  | some event =>
    obtain ⟨result,_,applied⟩ := bind_ok.mp applied
    exact .inr ⟨⟨event,decoded⟩,by rw [← pure_ok.mp applied]⟩

theorem replay_split {loader : EventSourcedLoader Object State Dump Failure} {start last : Aggregate State}
    {events : List (StoredEvent Object)} (replayed : loader.replay start events = .ok last) :
    ∃ applied skipped, events = applied ++ skipped ∧ loader.replay start applied = .ok last ∧
      (∀ stored ∈ skipped, loader.decode stored = .ok none) ∧
      last.version = (applied.getLast?.map (·.version)).getD start.version := by
  induction events using List.reverseRecOn generalizing last with
  | nil =>
    obtain rfl : start = last := by simpa [replay,pure,Except.pure] using replayed
    exact ⟨[],[],rfl,replayed,by simp,rfl⟩
  | append_singleton init stored ih =>
    rw [replay_append] at replayed
    obtain ⟨reached,middle,replayed⟩ := bind_ok.mp replayed
    have single := replayed
    rw [replay_single] at single
    rcases applyStored_cases single with ⟨passed,rfl⟩ | ⟨_,version⟩
    · obtain ⟨applied,skipped,split,result,none,same⟩ := ih middle
      refine ⟨applied,skipped ++ [stored],by rw [split,List.append_assoc],result,?_,same⟩
      intro other member
      rcases List.mem_append.mp member with old | new
      · exact none other old
      · rwa [List.mem_singleton.mp new]
    · refine ⟨init ++ [stored],[],by simp,?_,by simp,by simpa using version⟩
      rw [replay_append]
      exact bind_ok.mpr ⟨reached,middle,replayed⟩

theorem replay_version {loader : EventSourcedLoader Object State Dump Failure} {start last : Aggregate State}
    {events : List (StoredEvent Object)} (replayed : loader.replay start events = .ok last) :
    last.version = start.version ∨ ∃ stored ∈ events, last.version = stored.version := by
  obtain ⟨applied,skipped,rfl,_,_,version⟩ := replay_split replayed
  cases found : applied.getLast? with
  | none => exact .inl (by simpa [found] using version)
  | some stored =>
    have member := List.mem_of_getLast? found
    exact .inr ⟨stored,List.mem_append_left _ member,by simpa [found] using version⟩

def snapshotVersion (loader : EventSourcedLoader Object State Dump Failure)
    (snapshots : Option (InMemorySnapshotStore Dump)) (aggregateId : String) : Int :=
  ((loader.latestSnapshot snapshots aggregateId).map (·.version)).getD 0

theorem catchUp_replays {loader : EventSourcedLoader Object State Dump Failure} {events : List (StoredEvent Object)}
    {aggregateId : String} {start aggregate : Aggregate State}
    (caught : loader.catchUp events aggregateId start = .ok (some aggregate)) :
    loader.replay start ((streamOf events aggregateId).filter fun stored => start.version < stored.version) =
      .ok aggregate := by
  simp only [catchUp,getEvents_eq] at caught
  split at caught
  next => cases caught
  next =>
    cases replayed : loader.replay start
        ((streamOf events aggregateId).filter fun stored => start.version < stored.version) with
    | error failure => simp [replayed,Except.map] at caught
    | ok reached => simpa [replayed,Except.map] using caught

theorem restore_version {loader : EventSourcedLoader Object State Dump Failure} {snapshot : Snapshot Dump}
    {aggregate : Aggregate State} (restored : loader.restore snapshot = .ok aggregate) :
    aggregate.version = snapshot.version := by
  obtain ⟨state,_,restored⟩ := bind_ok.mp restored
  rw [← pure_ok.mp restored]

theorem load_catchUp {loader : EventSourcedLoader Object State Dump Failure} {events : List (StoredEvent Object)}
    {snapshots : Option (InMemorySnapshotStore Dump)} {aggregateId : String} {found : Option (Aggregate State)}
    (loaded : loader.load events snapshots aggregateId = .ok found) :
    found = none ∨ ∃ start, start.version = loader.snapshotVersion snapshots aggregateId ∧
      loader.catchUp events aggregateId start = .ok found := by
  unfold load at loaded
  cases latest : loader.latestSnapshot snapshots aggregateId with
  | some snapshot =>
    simp only [latest] at loaded
    obtain ⟨start,restored,loaded⟩ := bind_ok.mp loaded
    exact .inr ⟨start,by simpa [snapshotVersion,latest] using restore_version restored,loaded⟩
  | none =>
    simp only [latest] at loaded
    cases created : loader.createAggregate aggregateId with
    | none =>
      simp only [created] at loaded
      exact .inl (Except.ok.inj loaded).symm
    | some state =>
      simp only [created] at loaded
      exact .inr ⟨⟨state,0⟩,by simp [snapshotVersion,latest],loaded⟩

theorem load_replays {loader : EventSourcedLoader Object State Dump Failure} {events : List (StoredEvent Object)}
    {snapshots : Option (InMemorySnapshotStore Dump)} {aggregateId : String} {aggregate : Aggregate State}
    (loaded : loader.load events snapshots aggregateId = .ok (some aggregate)) :
    ∃ start, start.version = loader.snapshotVersion snapshots aggregateId ∧
      loader.replay start ((streamOf events aggregateId).filter fun stored => start.version < stored.version) =
        .ok aggregate := by
  rcases load_catchUp loaded with absent | ⟨start,version,caught⟩
  · cases absent
  · exact ⟨start,version,catchUp_replays caught⟩

/-- Whenever an aggregate is loaded, its version is the head of the stream exactly
if the snapshot is already there, or the last event is behind it and is not passed over. -/
theorem loaded_version_iff (loader : EventSourcedLoader Object State Dump Failure)
    (events : List (StoredEvent Object)) (snapshots : Option (InMemorySnapshotStore Dump)) (aggregateId : String)
    (numbered : Numbered (streamOf events aggregateId)) (aggregate : Aggregate State)
    (loaded : loader.load events snapshots aggregateId = .ok (some aggregate)) :
    aggregate.version = (streamOf events aggregateId).length ↔
      loader.snapshotVersion snapshots aggregateId = (streamOf events aggregateId).length ∨
        loader.snapshotVersion snapshots aggregateId < (streamOf events aggregateId).length ∧
          ∃ stored event, (streamOf events aggregateId).getLast? = some stored ∧
            loader.decode stored = .ok (some event) := by
  obtain ⟨start,version,replayed⟩ := load_replays loaded
  rw [← version]
  generalize streamOf events aggregateId = stream at numbered replayed
  by_cases behind : start.version < stream.length
  · rcases List.eq_nil_or_concat stream with rfl | ⟨init,last,rfl⟩
    · obtain rfl : start = aggregate := by simpa [replay,pure,Except.pure] using replayed
      simp
    · rw [List.concat_eq_append] at numbered replayed behind ⊢
      have head : last.version = init.length+1 := numbered init.length last (by simp)
      simp only [List.length_append,List.length_singleton] at behind ⊢
      have newest : start.version < last.version := by rw [head]; exact_mod_cast behind
      rw [List.filter_append,List.filter_cons_of_pos (by simpa using newest),List.filter_nil,replay_append] at replayed
      cases middle : loader.replay start (init.filter fun stored => start.version < stored.version) with
      | error failure => simp [middle,Except.bind] at replayed
      | ok reached =>
        simp only [middle,Except.bind,replay_single] at replayed
        rcases applyStored_cases replayed with ⟨passed,rfl⟩ | ⟨⟨event,decoded⟩,applied⟩
        · -- the last event was passed over, so the version is that of an earlier event or of the start
          have older : aggregate.version < init.length+1 := by
            rcases replay_version middle with same | ⟨stored,member,same⟩
            · rw [same]
              exact_mod_cast behind
            · have bound := numbered.before.le_length (List.mem_of_mem_filter member)
              omega
          constructor
          · intro same
            push_cast at same
            omega
          · rintro (same | ⟨_,stored,event,found,decoded⟩)
            · omega
            · obtain rfl : last = stored := by simpa using found
              rw [passed] at decoded
              cases decoded
        · refine ⟨fun _ => .inr ⟨behind,last,event,by simp,decoded⟩,fun _ => ?_⟩
          rw [applied,head]
          push_cast
          rfl
  · have nothing : (stream.filter fun stored => start.version < stored.version) = [] := by
      rw [List.filter_eq_nil_iff]
      intro stored member newer
      have bound := numbered.le_length member
      simp only [decide_eq_true_eq] at newer
      omega
    rw [nothing] at replayed
    obtain rfl : start = aggregate := by simpa [replay,pure,Except.pure] using replayed
    exact ⟨.inl,fun holds => holds.resolve_right fun later => behind later.1⟩

def orderEvent (className : String) : DomainEvent Unit :=
  ⟨className,"event-1",(),1,some "order-1",some "Order",(),none,none,Dict.empty,by simp [Dict.empty]⟩

def storedOrderEvent (className : String) (version : Int) : StoredEvent Unit :=
  ⟨"event-1",className,"order-1",some "Order",version,1,(orderEvent className).modelDump,(),(),none,none⟩

def orderRuntime : Runtime Unit where
  truthy _ := false
  str _ := "None"
  json value := some value
  modelValidate name _ := some (orderEvent name)
  instanceOf := by
    rintro name payload event ⟨⟩
    rfl

/-- An order is its id and the names of the events it has seen; only `OrderCreated` is registered. -/
def orderLoader : EventSourcedLoader Unit (String × List String) (String × List String) Unit where
  model := ⟨fun state => state,.ok,fun _ => true,Snapshot.snapshotData,fun state => some state.1,fun _ => rfl⟩
  aggregateTypeName := "Order"
  createAggregate id := some (id,[])
  runtime := orderRuntime
  eventRegistry := Dict.empty.set "OrderCreated" "OrderCreated"
  upcasterRegistry := none
  snapshotStrategyRegistry := some ⟨Dict.empty,some fun _ => true⟩
  applicator aggregate event := .ok {aggregate with state := (aggregate.state.1,aggregate.state.2 ++ [event.className])}

theorem loaded_version_at_created :
    orderLoader.snapshotVersion none "order-1" = 3 ∨
      orderLoader.snapshotVersion none "order-1" < 3 ∧
        ∃ stored event, (streamOf (["OrderCreated","OrderPaid","OrderCreated"].mapIdx fun index name =>
            storedOrderEvent name (index + 1)) "order-1").getLast? = some stored ∧
          orderLoader.decode stored = .ok (some event) := by
  -- The event in the middle is not registered and passed over.
  have numbered : Numbered (streamOf (["OrderCreated","OrderPaid","OrderCreated"].mapIdx fun index name =>
      storedOrderEvent name (index + 1)) "order-1") := by
    rintro (_ | _ | _ | position) stored found
    · exact Option.some.inj found ▸ rfl
    · exact Option.some.inj found ▸ rfl
    · exact Option.some.inj found ▸ rfl
    · cases found
  exact (orderLoader.loaded_version_iff _ none "order-1" numbered ⟨("order-1",["OrderCreated","OrderCreated"]),3⟩ rfl).mp rfl

/-- The last event is not registered: the order is loaded at version 1 of a stream of two. -/
theorem loaded_version_behind :
    Numbered (streamOf [storedOrderEvent "OrderCreated" 1,storedOrderEvent "OrderPaid" 2] "order-1") ∧
      ∃ aggregate, orderLoader.load [storedOrderEvent "OrderCreated" 1,storedOrderEvent "OrderPaid" 2] none "order-1" =
        .ok (some aggregate) ∧
        aggregate.version ≠ (streamOf [storedOrderEvent "OrderCreated" 1,storedOrderEvent "OrderPaid" 2] "order-1").length := by
  refine ⟨?_,⟨("order-1",["OrderCreated"]),1⟩,rfl,by decide⟩
  rintro (_ | _ | position) stored found
  · obtain rfl : storedOrderEvent "OrderCreated" 1 = stored := by simpa [streamOf,storedOrderEvent] using found
    rfl
  · obtain rfl : storedOrderEvent "OrderPaid" 2 = stored := by simpa [streamOf,storedOrderEvent] using found
    rfl
  · simp [streamOf,storedOrderEvent] at found

end EventSourcedLoader

end CqrsDdd.EventSourcing
