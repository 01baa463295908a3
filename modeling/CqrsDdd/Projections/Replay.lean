import CqrsDdd.EventSourcing.Replay
import CqrsDdd.Projections.Workers

/-! Replay of a projection. The engine saves the start position, dispatches every
hydrated event of the store's batches, and adds the length of each batch to the
position it saves; the worker that goes on reads the checkpoint as the position
of the last event. -/
namespace CqrsDdd.Projections

open EventStores Paging Messaging Generator

variable {Object Handler : Type}

/-- The policies by name; a registered one decides on its own whether it raises. -/
inductive ProjectionErrorPolicy (Object : Type)
  | skip
  | retry
  | deadLetter
  | retryThenDeadLetter
  | registered (raises : DomainEvent Object → Nat → Bool)
  | unknown

/-- Whether the policy raises in answer to a handler's failure. -/
def ProjectionErrorPolicy.handleFailure (event : DomainEvent Object) (attempt : Nat) :
    ProjectionErrorPolicy Object → Bool
  | .skip => false
  | .retry | .deadLetter | .retryThenDeadLetter => true
  | .registered raises => raises event attempt
  | .unknown => true

/-- `raises` tells the calls of a handler that fail. -/
structure ReplayEngine (Object Handler : Type) where
  runtime : Runtime Object
  eventRegistry : Option EventTypeRegistry
  getHandlers : String → List Handler
  raises : Handler → DomainEvent Object → Bool
  errorPolicy : ProjectionErrorPolicy Object

/-- What a replay leaves: the checkpoints, the events dispatched to the handlers, and its ending. -/
structure Replayed (Object : Type) where
  checkpoints : Checkpoints
  dispatched : List (StoredEvent Object)
  ending : Ending

namespace ReplayEngine

variable (engine : ReplayEngine Object Handler)

def hydrateEvent (stored : StoredEvent Object) : Option (DomainEvent Object) :=
  engine.eventRegistry.bind fun registry => registry.hydrate engine.runtime (.text stored.eventType) stored.payload

/-- Whether the loop over the handlers raises: the first failure that the policy does not swallow does. -/
def dispatchToHandlers (stored : StoredEvent Object) (event : DomainEvent Object) : Bool :=
  (engine.getHandlers stored.eventType).any fun handler =>
    engine.raises handler event && engine.errorPolicy.handleFailure event 1

/-- The loop over one batch: the events dispatched, and whether a dispatch raises. -/
def replayBatch : List (StoredEvent Object) → List (StoredEvent Object) × Ending
  | [] => ([],.returned)
  | stored::batch =>
    match engine.hydrateEvent stored with
    | none => replayBatch batch
    | some event =>
      if engine.dispatchToHandlers stored event then ([stored],.raised)
      else (stored::(replayBatch batch).1,(replayBatch batch).2)

/-- The loop over the batches of `get_all_streaming`. -/
def replayBatches (projectionName : String) : Int → Checkpoints → List (List (StoredEvent Object)) → Replayed Object
  | _, checkpoints, [] => ⟨checkpoints,[],.returned⟩
  | position, checkpoints, batch::batches =>
    match engine.replayBatch batch with
    | (dispatched,.raised) => ⟨checkpoints,dispatched,.raised⟩
    | (dispatched,.returned) =>
      let rest := replayBatches projectionName (position + batch.length)
        (checkpoints.set projectionName (position + batch.length)) batches
      {rest with dispatched := dispatched ++ rest.dispatched}

def replay (projectionName : String) (fromPosition : Int) (batches : List (List (StoredEvent Object)))
    (checkpoints : Checkpoints) : Replayed Object :=
  engine.replayBatches projectionName fromPosition (checkpoints.set projectionName fromPosition) batches

def hydratable (stored : StoredEvent Object) : Bool := (engine.hydrateEvent stored).isSome

/-- The dispatch of a hydrated event does not raise. -/
def Dispatches (stored : StoredEvent Object) : Prop :=
  ∀ event, engine.hydrateEvent stored = some event → engine.dispatchToHandlers stored event = false

end ReplayEngine

/-- The rounds of a worker over the checkpoints, with what it has handed on. -/
def ProjectionWorker.poll (worker : ProjectionWorker Object) (getEventsAfter : Int → Nat → List (StoredEvent Object))
    (state : Checkpoints × List (StoredEvent Object)) : Checkpoints × List (StoredEvent Object) :=
  let result := worker.round getEventsAfter state.1
  (result.1,state.2 ++ result.2)

theorem ProjectionWorker.iterate_poll (worker : ProjectionWorker Object)
    (getEventsAfter : Int → Nat → List (StoredEvent Object)) (rounds : Nat)
    (state : Checkpoints × List (StoredEvent Object)) :
    (worker.getCheckpointPosition ((worker.poll getEventsAfter)^[rounds] state).1,
      ((worker.poll getEventsAfter)^[rounds] state).2) =
      (worker.advance getEventsAfter)^[rounds] (worker.getCheckpointPosition state.1,state.2) := by
  induction rounds generalizing state with
  | zero => rfl
  | succ rounds ih =>
    rw [Function.iterate_succ_apply,Function.iterate_succ_apply,ih,poll,round_own]

/-- The replay returns, has dispatched the hydratable events behind the start position in order, and
leaves the position of the last stored event; a worker that goes on from there, over the events
that are appended later, hands on just those of them that lie behind the start position. -/
structure HandsOver (engine : ReplayEngine Object Handler) (projectionName : String) (fromPosition : Int)
    (log : EventLog Object) (batches : List (List (StoredEvent Object))) (checkpoints : Checkpoints) : Prop where
  returned : (engine.replay projectionName fromPosition batches checkpoints).ending = .returned
  dispatched : (engine.replay projectionName fromPosition batches checkpoints).dispatched =
    (after StoredEvent.place log.events fromPosition).filter engine.hydratable
  checkpoint : (engine.replay projectionName fromPosition batches checkpoints).checkpoints.get projectionName =
    some ((log.events.getLast?.map StoredEvent.place).getD fromPosition)
  resumed : ∀ (grown : EventLog Object) (later : List (StoredEvent Object)) (batchSize : Nat),
    grown.events = log.events ++ later → 1 ≤ batchSize → ∃ enough : Nat, ∀ rounds, enough ≤ rounds →
      ((ProjectionWorker.poll ⟨projectionName,batchSize,none⟩ grown.getEventsAfter)^[rounds]
        ((engine.replay projectionName fromPosition batches checkpoints).checkpoints,[])).2 =
          after StoredEvent.place later fromPosition

variable {engine : ReplayEngine Object Handler}

theorem replayBatch_eq {batch : List (StoredEvent Object)} (quiet : ∀ stored ∈ batch, engine.Dispatches stored) :
    engine.replayBatch batch = (batch.filter engine.hydratable,.returned) := by
  induction batch with
  | nil => rfl
  | cons stored batch ih =>
    have rest := ih fun other member => quiet other (List.mem_cons_of_mem stored member)
    rw [ReplayEngine.replayBatch,rest]
    cases hydrated : engine.hydrateEvent stored with
    | none =>
      rw [List.filter_cons_of_neg (by simp [ReplayEngine.hydratable,hydrated])]
    | some event =>
      have fine := quiet stored List.mem_cons_self event hydrated
      rw [List.filter_cons_of_pos (by simp [ReplayEngine.hydratable,hydrated])]
      simp [fine]

theorem quiet_of_replayBatch {batch : List (StoredEvent Object)} (returned : (engine.replayBatch batch).2 = .returned) :
    ∀ stored ∈ batch, engine.Dispatches stored := by
  induction batch with
  | nil => exact fun stored member => absurd member List.not_mem_nil
  | cons stored batch ih =>
    rw [ReplayEngine.replayBatch] at returned
    cases hydrated : engine.hydrateEvent stored with
    | none =>
      rw [hydrated] at returned
      intro other member
      rcases List.mem_cons.mp member with rfl | later
      · intro event found
        rw [hydrated] at found
        cases found
      · exact ih returned other later
    | some event =>
      rw [hydrated] at returned
      cases raises : engine.dispatchToHandlers stored event with
      | true => simp [raises] at returned
      | false =>
        simp only [raises,Bool.false_eq_true,if_false] at returned
        intro other member
        rcases List.mem_cons.mp member with rfl | later
        · intro found same
          rw [hydrated] at same
          exact Option.some.inj same ▸ raises
        · exact ih returned other later

theorem replayBatches_eq {projectionName : String} {position : Int} {checkpoints : Checkpoints}
    {batches : List (List (StoredEvent Object))} (saved : checkpoints.get projectionName = some position)
    (quiet : ∀ stored ∈ batches.flatten, engine.Dispatches stored) :
    (engine.replayBatches projectionName position checkpoints batches).ending = .returned ∧
    (engine.replayBatches projectionName position checkpoints batches).dispatched =
      batches.flatten.filter engine.hydratable ∧
    (engine.replayBatches projectionName position checkpoints batches).checkpoints.get projectionName =
      some (position + batches.flatten.length) := by
  induction batches generalizing position checkpoints with
  | nil => exact ⟨rfl,rfl,by simpa [ReplayEngine.replayBatches] using saved⟩
  | cons batch batches ih =>
    have here : ∀ stored ∈ batch, engine.Dispatches stored :=
      fun stored member => quiet stored (List.mem_append_left _ member)
    obtain ⟨ending,dispatched,last⟩ := ih (Dict.get_set_same checkpoints projectionName (position + batch.length))
      fun stored member => quiet stored (List.mem_append_right _ member)
    rw [ReplayEngine.replayBatches,replayBatch_eq here]
    refine ⟨ending,?_,?_⟩
    · simp only [dispatched,List.flatten_cons,List.filter_append]
    · simp only [last,List.flatten_cons,List.length_append]
      push_cast
      rw [Int.add_assoc]

theorem quiet_of_replayBatches {projectionName : String} {position : Int} {checkpoints : Checkpoints}
    {batches : List (List (StoredEvent Object))}
    (returned : (engine.replayBatches projectionName position checkpoints batches).ending = .returned) :
    ∀ stored ∈ batches.flatten, engine.Dispatches stored := by
  induction batches generalizing position checkpoints with
  | nil => exact fun stored member => absurd member List.not_mem_nil
  | cons batch batches ih =>
    rw [ReplayEngine.replayBatches] at returned
    rcases result : engine.replayBatch batch with ⟨dispatched,ending⟩
    rw [result] at returned
    cases ending with
    | raised => cases returned
    | returned =>
      intro stored member
      rcases List.mem_append.mp member with here | later
      · exact quiet_of_replayBatch (congrArg Prod.snd result) stored here
      · exact ih returned stored later

/-- The checkpoint is the last stored position exactly where the positions count the events from the start. -/
def Consecutive (fromPosition : Int) (events : List (StoredEvent Object)) : Prop :=
  ∀ last, events.getLast? = some last → last.place = fromPosition + events.length

theorem last_eq_iff_consecutive (fromPosition : Int) (events : List (StoredEvent Object)) :
    fromPosition + events.length = (events.getLast?.map StoredEvent.place).getD fromPosition ↔
      Consecutive fromPosition events := by
  cases ends : events.getLast? with
  | none =>
    rw [List.getLast?_eq_none_iff.mp ends]
    simp [Consecutive]
  | some last =>
    rw [Option.map_some,Option.getD_some]
    refine ⟨fun same other found => ?_,fun consecutive => (consecutive last ends).symm⟩
    obtain rfl : last = other := Option.some.inj (ends.symm.trans found)
    exact same.symm

theorem after_last_eq {log grown : EventLog Object} {later : List (StoredEvent Object)} {fromPosition : Int}
    (shape : grown.events = log.events ++ later) (consecutive : Consecutive fromPosition log.events) :
    after StoredEvent.place grown.events ((log.events.getLast?.map StoredEvent.place).getD fromPosition) =
      after StoredEvent.place later fromPosition := by
  cases ends : log.events.getLast? with
  | none => rw [shape,List.getLast?_eq_none_iff.mp ends,List.nil_append,Option.map_none,Option.getD_none]
  | some last =>
    obtain ⟨front,split⟩ := List.getLast?_eq_some_iff.mp ends
    have whole : grown.events = front ++ last :: later := by
      rw [shape,split,List.append_assoc,List.singleton_append]
    have ordered := grown.ordered
    rw [whole] at ordered
    rw [Option.map_some,Option.getD_some,whole,ordered.after_append]
    refine (List.filter_eq_self.mpr fun event member => ?_).symm
    have above := List.rel_of_pairwise_cons (List.pairwise_append.mp ordered).2.1 member
    have start := consecutive last ends
    rw [decide_eq_true_eq]
    omega

theorem hands_over_iff_consecutive_from_start (engine : ReplayEngine Object Handler) (projectionName : String)
    (fromPosition : Int) (log : EventLog Object) (batches : List (List (StoredEvent Object)))
    (streamed : batches.flatten = log.events) (checkpoints : Checkpoints) :
    HandsOver engine projectionName fromPosition log batches checkpoints ↔
      (∀ stored ∈ log.events, engine.Dispatches stored) ∧
      (∀ stored ∈ log.events, engine.hydratable stored = true → fromPosition < stored.place) ∧
      Consecutive fromPosition log.events := by
  have saved := Dict.get_set_same checkpoints projectionName fromPosition
  constructor
  · intro hands
    have quiet := quiet_of_replayBatches hands.returned
    obtain ⟨_,dispatched,last⟩ := replayBatches_eq saved quiet
    rw [streamed] at quiet dispatched last
    refine ⟨quiet,fun stored member hydrated => ?_,?_⟩
    · have listed : stored ∈ log.events.filter engine.hydratable := List.mem_filter.mpr ⟨member,hydrated⟩
      rw [dispatched.symm.trans hands.dispatched] at listed
      exact (mem_after.mp (List.mem_of_mem_filter listed)).2
    · exact (last_eq_iff_consecutive fromPosition log.events).mp (Option.some.inj (last.symm.trans hands.checkpoint))
  · rintro ⟨quiet,behind,consecutive⟩
    obtain ⟨returned,dispatched,last⟩ := replayBatches_eq saved (streamed.symm ▸ quiet)
    rw [streamed] at dispatched last
    rw [(last_eq_iff_consecutive fromPosition log.events).mpr consecutive] at last
    refine ⟨returned,dispatched.trans ?_,last,fun grown later batchSize shape nonempty => ?_⟩
    · rw [after,List.filter_filter]
      refine List.filter_congr fun stored member => ?_
      cases hydrated : engine.hydratable stored with
      | false => rfl
      | true => rw [decide_eq_true (behind stored member hydrated),Bool.and_self]
    · refine ⟨grown.events.length,fun rounds enough => ?_⟩
      have start : ProjectionWorker.getCheckpointPosition (⟨projectionName,batchSize,none⟩ : ProjectionWorker Object)
          (engine.replay projectionName fromPosition batches checkpoints).checkpoints =
          (log.events.getLast?.map StoredEvent.place).getD fromPosition := by
        rw [ProjectionWorker.getCheckpointPosition,ReplayEngine.replay,last,Option.getD_some]
      obtain ⟨final,_,reached⟩ := grown.iterate_advance ⟨projectionName,batchSize,none⟩ nonempty
        (fun _ _ => rfl) ((log.events.getLast?.map StoredEvent.place).getD fromPosition) []
        ((List.length_filter_le _ _).trans enough)
      have polled := ProjectionWorker.iterate_poll ⟨projectionName,batchSize,none⟩ grown.getEventsAfter rounds
        ((engine.replay projectionName fromPosition batches checkpoints).checkpoints,[])
      rw [start,reached,List.nil_append,after_last_eq shape consecutive] at polled
      exact congrArg Prod.snd polled

/-- An engine that knows the event type `E`, with one handler that never fails. -/
def plainEngine : ReplayEngine Unit Unit where
  runtime := EventSourcing.EventSourcedLoader.orderRuntime
  eventRegistry := some (Dict.empty.set "E" "E")
  getHandlers _ := [()]
  raises _ _ := false
  errorPolicy := .skip

def plainLog : EventLog Unit := EventLog.ofTable [plainModel "x" 1,plainModel "y" 2] (by decide)

theorem hands_over_iff_consecutive_from_start_of_zero :
    HandsOver plainEngine "orders" 0 plainLog [plainLog.events] Dict.empty ↔
      (∀ stored ∈ plainLog.events, plainEngine.Dispatches stored) ∧
      (∀ stored ∈ plainLog.events, plainEngine.hydratable stored = true → 0 < stored.place) ∧
      Consecutive 0 plainLog.events :=
  hands_over_iff_consecutive_from_start plainEngine "orders" 0 plainLog [plainLog.events] rfl Dict.empty

/-- A replay from the position 1 dispatches the event at it again, and saves 3 where 2 is the last position. -/
theorem replay_from_one_starts_again :
    [plainLog.events].flatten = plainLog.events ∧
    (plainEngine.replay "orders" 1 [plainLog.events] Dict.empty).dispatched =
      [(plainModel "x" 1).toDataclass,(plainModel "y" 2).toDataclass] ∧
    (plainEngine.replay "orders" 1 [plainLog.events] Dict.empty).checkpoints.get "orders" = some 3 ∧
    ¬ HandsOver plainEngine "orders" 1 plainLog [plainLog.events] Dict.empty := by
  have saved : (plainEngine.replay "orders" 1 [plainLog.events] Dict.empty).checkpoints.get "orders" = some 3 := rfl
  refine ⟨rfl,rfl,saved,fun hands => ?_⟩
  have last : some 3 = some (2 : Int) := saved.symm.trans hands.checkpoint
  exact absurd last (by decide)

end CqrsDdd.Projections
