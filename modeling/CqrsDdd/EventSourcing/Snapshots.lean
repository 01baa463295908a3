import CqrsDdd.EventSourcing.Replay

/-! Snapshots are transparent. A snapshot is taken of the aggregate as the loader
gives it at some point of the history; whatever is appended afterwards, loading
from the snapshot gives what replaying the whole history gives. -/
namespace CqrsDdd.EventSourcing

open Messaging

variable {Object State Dump Failure : Type}

structure History (Object Dump : Type) where
  events : List (StoredEvent Object)
  snapshots : InMemorySnapshotStore Dump

def History.empty : History Object Dump := ⟨[],Dict.empty⟩

/-- An event is appended with the next version of its own aggregate, or a snapshot is
asked for of the aggregate as loaded when the history had `upTo` events, with the
snapshot store or without it. -/
inductive HistoryStep (Object : Type)
  | append (stored : StoredEvent Object)
  | snapshot (upTo : Nat) (fromStore : Bool)

namespace EventSourcedLoader

def extend (loader : EventSourcedLoader Object State Dump Failure) (aggregateId : String)
    (history : History Object Dump) : HistoryStep Object → History Object Dump
  | .append stored =>
    let version := (streamOf history.events stored.aggregateId).length+1
    {history with events := InMemoryEventStore.append history.events {stored with version := version}}
  | .snapshot upTo fromStore =>
    let snapshots := if fromStore then some history.snapshots else none
    match loader.load (history.events.take upTo) snapshots aggregateId with
    | .ok (some aggregate) => {history with snapshots := loader.maybeSnapshot history.snapshots aggregate}
    | _ => history

def Taken (loader : EventSourcedLoader Object State Dump Failure) (aggregateId : String)
    (stream : List (StoredEvent Object)) (snapshot : Snapshot Dump) : Prop :=
  ∃ state aggregate earlier, loader.createAggregate aggregateId = some state ∧ earlier <+: stream ∧ earlier ≠ [] ∧
    loader.replay ⟨state,0⟩ earlier = .ok aggregate ∧
      snapshot = ⟨loader.model.modelDump aggregate.state,aggregate.version⟩

structure SnapshotInv (loader : EventSourcedLoader Object State Dump Failure) (aggregateId : String)
    (history : History Object Dump) : Prop where
  numbered : Numbered (streamOf history.events aggregateId)
  taken : ∀ snapshot, history.snapshots.get (loader.aggregateTypeName,aggregateId) = some snapshot →
    loader.Taken aggregateId (streamOf history.events aggregateId) snapshot

theorem replay_skipped {loader : EventSourcedLoader Object State Dump Failure} (aggregate : Aggregate State)
    {events : List (StoredEvent Object)} (passed : ∀ stored ∈ events, loader.decode stored = .ok none) :
    loader.replay aggregate events = .ok aggregate := by
  induction events with
  | nil => rfl
  | cons stored rest ih =>
    have first : loader.applyStored aggregate stored = .ok aggregate := by
      simp [applyStored,passed stored List.mem_cons_self,bind,Except.bind,pure,Except.pure]
    have later := ih fun other member => passed other (List.mem_cons_of_mem _ member)
    simpa [replay,List.foldlM_cons,first,bind,Except.bind] using later

theorem catchUp_eq {loader : EventSourcedLoader Object State Dump Failure} {events : List (StoredEvent Object)}
    {aggregateId : String} (numbered : Numbered (streamOf events aggregateId))
    (nonempty : streamOf events aggregateId ≠ []) {aggregate : Aggregate State} {count : Nat}
    (version : aggregate.version = count) :
    loader.catchUp events aggregateId aggregate =
      (loader.replay aggregate ((streamOf events aggregateId).drop count)).map some := by
  simp only [catchUp,getEvents_eq,version,numbered.above]
  rw [if_neg]
  rintro ⟨nothing,start⟩
  obtain rfl : count = 0 := by exact_mod_cast start
  exact nonempty (by simpa using nothing)

theorem load_fresh {loader : EventSourcedLoader Object State Dump Failure} {events : List (StoredEvent Object)}
    {aggregateId : String} {state : State} (created : loader.createAggregate aggregateId = some state)
    (numbered : Numbered (streamOf events aggregateId)) (nonempty : streamOf events aggregateId ≠ []) :
    loader.load events none aggregateId =
      (loader.replay ⟨state,0⟩ (streamOf events aggregateId)).map some := by
  have start : (⟨state,0⟩ : Aggregate State).version = ((0 : Nat) : Int) := rfl
  simp only [load,latestSnapshot,Option.bind_none,created]
  simpa using catchUp_eq numbered nonempty start

theorem Taken.restored {loader : EventSourcedLoader Object State Dump Failure} {stream : List (StoredEvent Object)}
    {aggregateId : String} {snapshot : Snapshot Dump}
    (leftInverse : ∀ state, loader.model.modelValidate (loader.model.modelDump state) = .ok state)
    (numbered : Numbered stream) (taken : loader.Taken aggregateId stream snapshot) :
    ∃ state aggregate applied skipped, loader.createAggregate aggregateId = some state ∧
      applied ++ skipped <+: stream ∧ applied ++ skipped ≠ [] ∧
      loader.replay ⟨state,0⟩ applied = .ok aggregate ∧ (∀ stored ∈ skipped, loader.decode stored = .ok none) ∧
      loader.restore snapshot = .ok aggregate ∧ aggregate.version = applied.length := by
  obtain ⟨state,aggregate,earlier,created,⟨rest,whole⟩,nonempty,replayed,rfl⟩ := taken
  obtain ⟨applied,skipped,rfl,reached,passed,version⟩ := replay_split replayed
  refine ⟨state,aggregate,applied,skipped,created,⟨rest,whole⟩,nonempty,reached,passed,?_,?_⟩
  · simp [restore,loader.model.nonempty,leftInverse,bind,Except.bind,pure,Except.pure]
  · rw [version]
    rcases List.eq_nil_or_concat applied with rfl | ⟨init,last,rfl⟩
    · rfl
    · have head := numbered init.length last (by rw [← whole]; simp)
      simpa using head

theorem Taken.resumes {loader : EventSourcedLoader Object State Dump Failure} {events : List (StoredEvent Object)}
    {aggregateId : String} {snapshot : Snapshot Dump}
    (leftInverse : ∀ state, loader.model.modelValidate (loader.model.modelDump state) = .ok state)
    (numbered : Numbered (streamOf events aggregateId))
    (taken : loader.Taken aggregateId (streamOf events aggregateId) snapshot) :
    (loader.restore snapshot).bind (loader.catchUp events aggregateId) = loader.load events none aggregateId := by
  obtain ⟨state,aggregate,applied,skipped,created,⟨rest,whole⟩,nonempty,reached,passed,restored,version⟩ :=
    taken.restored leftInverse numbered
  have filled : streamOf events aggregateId ≠ [] := by
    rw [← whole]
    exact fun nothing => nonempty (List.append_eq_nil_iff.mp nothing).1
  have behind : (streamOf events aggregateId).drop applied.length = skipped ++ rest := by
    rw [← whole,List.append_assoc,List.drop_left]
  have tail : loader.replay ⟨state,0⟩ (streamOf events aggregateId) = loader.replay aggregate (skipped ++ rest) := by
    rw [← whole,List.append_assoc,replay_append,reached]
    rfl
  rw [load_fresh created numbered filled,tail,restored]
  exact (catchUp_eq numbered filled version).trans (by rw [behind])

theorem Taken.extend {loader : EventSourcedLoader Object State Dump Failure} {aggregateId : String}
    {first second : List (StoredEvent Object)} {snapshot : Snapshot Dump} (before : first <+: second)
    (taken : loader.Taken aggregateId first snapshot) : loader.Taken aggregateId second snapshot := by
  obtain ⟨state,aggregate,earlier,created,within,nonempty,replayed,same⟩ := taken
  exact ⟨state,aggregate,earlier,created,within.trans before,nonempty,replayed,same⟩

theorem load_none_taken {loader : EventSourcedLoader Object State Dump Failure} {events : List (StoredEvent Object)}
    {aggregateId : String} {aggregate : Aggregate State} (numbered : Numbered (streamOf events aggregateId))
    (loaded : loader.load events none aggregateId = .ok (some aggregate)) :
    loader.Taken aggregateId (streamOf events aggregateId)
      ⟨loader.model.modelDump aggregate.state,aggregate.version⟩ := by
  cases created : loader.createAggregate aggregateId with
  | none => simp [load,latestSnapshot,created] at loaded
  | some state =>
    have nonempty : streamOf events aggregateId ≠ [] := by
      intro nothing
      simp [load,latestSnapshot,created,catchUp,getEvents_eq,nothing] at loaded
    rw [load_fresh created numbered nonempty] at loaded
    cases replayed : loader.replay ⟨state,0⟩ (streamOf events aggregateId) with
    | error failure => simp [replayed,Except.map] at loaded
    | ok reached =>
      obtain rfl : reached = aggregate := by simpa [replayed,Except.map] using loaded
      exact ⟨state,reached,_,created,List.prefix_rfl,nonempty,replayed,rfl⟩

theorem Taken.again {loader : EventSourcedLoader Object State Dump Failure} {events earlier : List (StoredEvent Object)}
    {aggregateId : String} {snapshot : Snapshot Dump} {aggregate : Aggregate State}
    (leftInverse : ∀ state, loader.model.modelValidate (loader.model.modelDump state) = .ok state)
    (numbered : Numbered (streamOf events aggregateId)) (before : earlier <+: events)
    (taken : loader.Taken aggregateId (streamOf events aggregateId) snapshot)
    (loaded : (loader.restore snapshot).bind (loader.catchUp earlier aggregateId) = .ok (some aggregate)) :
    loader.Taken aggregateId (streamOf events aggregateId)
      ⟨loader.model.modelDump aggregate.state,aggregate.version⟩ := by
  obtain ⟨state,start,applied,skipped,created,within,nonempty,reached,passed,restored,version⟩ :=
    taken.restored leftInverse numbered
  have older := streamOf_starts before aggregateId
  rw [restored] at loaded
  have caught := catchUp_replays loaded
  rw [version,(numbered.of_start older).above] at caught
  rcases List.prefix_or_prefix_of_prefix within older with covered | ahead
  · obtain ⟨rest,same⟩ := covered
    refine ⟨state,aggregate,_,created,older,?_,?_,rfl⟩
    · rw [← same]
      exact fun nothing => nonempty (List.append_eq_nil_iff.mp nothing).1
    · rw [← same,List.append_assoc,List.drop_left] at caught
      rw [← same,List.append_assoc,replay_append,reached]
      exact caught
  · have unread : ∀ stored ∈ (streamOf earlier aggregateId).drop applied.length, loader.decode stored = .ok none := by
      intro stored member
      have later := (ahead.drop applied.length).subset member
      rw [List.drop_left] at later
      exact passed stored later
    obtain rfl : start = aggregate := Except.ok.inj ((replay_skipped start unread).symm.trans caught)
    refine ⟨state,start,_,created,within,nonempty,?_,rfl⟩
    rw [replay_append,reached]
    exact replay_skipped start passed

theorem SnapshotInv.loaded {loader : EventSourcedLoader Object State Dump Failure} {aggregateId : String}
    {history : History Object Dump} (inv : loader.SnapshotInv aggregateId history)
    (leftInverse : ∀ state, loader.model.modelValidate (loader.model.modelDump state) = .ok state)
    {upTo : Nat} {fromStore : Bool} {aggregate : Aggregate State}
    (loaded : loader.load (history.events.take upTo) (if fromStore then some history.snapshots else none)
      aggregateId = .ok (some aggregate)) :
    loader.Taken aggregateId (streamOf history.events aggregateId)
      ⟨loader.model.modelDump aggregate.state,aggregate.version⟩ := by
  have before : history.events.take upTo <+: history.events := List.take_prefix ..
  have older := streamOf_starts before aggregateId
  have plain (loaded : loader.load (history.events.take upTo) none aggregateId = .ok (some aggregate)) :=
    (load_none_taken (inv.numbered.of_start older) loaded).extend older
  cases fromStore with
  | false => exact plain loaded
  | true =>
    cases latest : history.snapshots.get (loader.aggregateTypeName,aggregateId) with
    | none => exact plain (by simpa [load,latestSnapshot,latest] using loaded)
    | some snapshot =>
      simp only [load,latestSnapshot,if_true,Option.bind_some,latest] at loaded
      exact (inv.taken snapshot latest).again leftInverse inv.numbered before loaded

theorem maybeSnapshot_get {loader : EventSourcedLoader Object State Dump Failure}
    {snapshots : InMemorySnapshotStore Dump} {aggregate : Aggregate State} {key : String × String}
    {snapshot : Snapshot Dump} (found : (loader.maybeSnapshot snapshots aggregate).get key = some snapshot) :
    snapshots.get key = some snapshot ∨ snapshot = ⟨loader.model.modelDump aggregate.state,aggregate.version⟩ := by
  unfold maybeSnapshot at found
  split at found
  next => exact .inl found
  next =>
    split at found
    next =>
      split at found
      next => exact .inl found
      next id _ =>
        rw [Dict.get_set] at found
        split at found
        next => exact .inr (Option.some.inj found).symm
        next => exact .inl found
    next => exact .inl found

theorem SnapshotInv.step {loader : EventSourcedLoader Object State Dump Failure} {aggregateId : String}
    (leftInverse : ∀ state, loader.model.modelValidate (loader.model.modelDump state) = .ok state)
    (history : History Object Dump) (action : HistoryStep Object) (inv : loader.SnapshotInv aggregateId history) :
    loader.SnapshotInv aggregateId (loader.extend aggregateId history action) := by
  cases action with
  | append stored =>
    have before : history.events <+: (loader.extend aggregateId history (.append stored)).events :=
      List.prefix_append ..
    refine ⟨?_,fun snapshot found => (inv.taken snapshot found).extend (streamOf_starts before aggregateId)⟩
    simp only [extend,streamOf_append]
    split
    next same => exact inv.numbered.snoc (by rw [← same]; push_cast; rfl)
    next => exact inv.numbered
  | snapshot upTo fromStore =>
    simp only [extend]
    split
    next aggregate loaded =>
      refine ⟨inv.numbered,fun snapshot found => ?_⟩
      rcases maybeSnapshot_get found with old | rfl
      · exact inv.taken snapshot old
      · exact inv.loaded leftInverse loaded
    next => exact inv

theorem SnapshotInv.run {loader : EventSourcedLoader Object State Dump Failure} {aggregateId : String}
    (leftInverse : ∀ state, loader.model.modelValidate (loader.model.modelDump state) = .ok state)
    (steps : List (HistoryStep Object)) :
    loader.SnapshotInv aggregateId (Transition.run (loader.extend aggregateId) History.empty steps) := by
  have initial : loader.SnapshotInv aggregateId History.empty :=
    ⟨fun position stored found => by simp [History.empty,streamOf] at found,
      fun snapshot found => by simp [History.empty] at found⟩
  exact Transition.run_invariant (loader.SnapshotInv aggregateId)
    (fun history action inv _ => SnapshotInv.step leftInverse history action inv) _ steps initial
    (Transition.meets_of_forall _ (fun _ _ => True) (fun _ _ => trivial) _ _)

/-- Whatever snapshots were taken along a history, loading with them gives what the
whole history gives without them. -/
theorem snapshot_transparent (loader : EventSourcedLoader Object State Dump Failure) (aggregateId : String)
    (leftInverse : ∀ state, loader.model.modelValidate (loader.model.modelDump state) = .ok state)
    (steps : List (HistoryStep Object)) (history : History Object Dump)
    (reached : history = Transition.run (loader.extend aggregateId) History.empty steps) :
    loader.load history.events (some history.snapshots) aggregateId =
      loader.load history.events none aggregateId := by
  have inv : loader.SnapshotInv aggregateId history := reached ▸ SnapshotInv.run leftInverse steps
  cases latest : history.snapshots.get (loader.aggregateTypeName,aggregateId) with
  | none => simp [load,latestSnapshot,latest]
  | some snapshot =>
    rw [← (inv.taken snapshot latest).resumes leftInverse inv.numbered]
    simp only [load,latestSnapshot,Option.bind_some,latest]
    rfl

/-- A snapshot at version 1, and two events behind it. -/
def orderHistory : List (HistoryStep Unit) :=
  [.append (storedOrderEvent "OrderCreated" 0),.snapshot 1 true,.append (storedOrderEvent "OrderPaid" 0),
    .append (storedOrderEvent "OrderCreated" 0)]

theorem snapshot_transparent_order :
    let history := Transition.run (orderLoader.extend "order-1") History.empty orderHistory
    history.snapshots.get ("Order","order-1") = some ⟨("order-1",["OrderCreated"]),1⟩ ∧
      orderLoader.load history.events (some history.snapshots) "order-1" =
        orderLoader.load history.events none "order-1" :=
  ⟨rfl,orderLoader.snapshot_transparent "order-1" (fun _ => rfl) orderHistory _ rfl⟩

end EventSourcedLoader

end CqrsDdd.EventSourcing
