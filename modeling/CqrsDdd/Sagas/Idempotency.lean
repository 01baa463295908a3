import CqrsDdd.Sagas.CommandDelivery
import CqrsDdd.Sagas.Frames
import Mathlib.Data.Finset.Dedup
import Mathlib.Data.Finset.Insert

/-! Deliveries to sagas whose state objects carry the set of processed events beside the
persisted list. The set is built when a state is loaded; while it is the set of the
list, the manager behaves as the one that looks into the list. -/
namespace CqrsDdd.Sagas

variable {Data : Type}

/-- `model_post_init`. The migration of old TCC steps from the metadata is left out. -/
def postInit (state : SagaState Data) : Finset String := state.processedEventIds.toFinset

structure HandlerRun where
  sagaId : Nat
  eventId : String
  returned : Bool
  deriving DecidableEq, Repr

/-- `processedIdsSet` belongs to the state objects by their ids; `runs` is the history of handler calls. -/
structure LiveWorld (Data : Type) where
  world : World Data
  processedIdsSet : Nat → Finset String
  runs : List HandlerRun

inductive Delivery (Data : Type)
  | handle (now : Int) (event : DomainEvent Data)
  | startSaga (now : Int) (sagaClass : SagaClass Data) (event : DomainEvent Data) (correlationId : String)
  /-- The state is rebuilt from its serialised fields. -/
  | reload (sagaId : Nat)

namespace LiveWorld

def empty : LiveWorld Data := ⟨World.empty,fun _ => ∅,[]⟩

def markEventProcessed (state : SagaState Data) (processedIdsSet : Finset String) (eventId : String) :
    SagaState Data × Finset String :=
  if eventId ∈ processedIdsSet then (state,processedIdsSet)
  else ({state with processedEventIds := state.processedEventIds ++ [eventId]},insert eventId processedIdsSet)

/-- What `Saga.handle` leaves: the saga, the error it raised, the set, and whether the handler ran. -/
structure Handled (Data : Type) where
  saga : Saga Data
  error : Option SagaError
  processedIdsSet : Finset String
  ran : Bool

def handleSaga (sagaClass : SagaClass Data) (now : Int) (event : DomainEvent Data) (saga : Saga Data)
    (processedIdsSet : Finset String) : Handled Data :=
  let fresh := {saga with tccRecordsCache := none}
  if fresh.state.isTerminal then ⟨fresh,none,processedIdsSet,false⟩
  else if event.eventId ∈ processedIdsSet then ⟨fresh,none,processedIdsSet,false⟩
  else
    match fresh.start.handleEvent sagaClass now event with
    | (handled,some error) => ⟨handled,some error,processedIdsSet,true⟩
    | (handled,none) =>
      let marked := markEventProcessed handled.state processedIdsSet event.eventId
      ⟨{handled with state := marked.1.recordStep marked.1.currentStep event.eventType},none,marked.2,true⟩

/-- The set of the state that `_process_saga` works on. -/
def loadedSet (live : LiveWorld Data) (sagaClass : SagaClass Data) (correlationId : String)
    (state : SagaState Data) : Finset String :=
  match live.world.findByCorrelationId correlationId sagaClass.name with
  | some _ => live.processedIdsSet state.id
  | none => postInit state

def processSaga (manager : SagaManager Data) (sagaClass : SagaClass Data) (correlationId : String)
    (now : Int) (event : DomainEvent Data) (live : LiveWorld Data) :
    LiveWorld Data × Except ManagerError (Option Nat) :=
  let loaded := SagaManager.loadOrCreate sagaClass correlationId event live.world
  let known := live.loadedSet sagaClass correlationId loaded.1
  if loaded.1.isTerminal then
    (⟨loaded.2,Function.update live.processedIdsSet loaded.1.id known,live.runs⟩,.ok none)
  else
    let left := handleSaga sagaClass now event (manager.instantiate sagaClass loaded.1 loaded.2) known
    let sets := Function.update live.processedIdsSet loaded.1.id left.processedIdsSet
    let runs := if left.ran then live.runs ++ [⟨loaded.1.id,event.eventId,left.error.isNone⟩] else live.runs
    match left.error with
    | some error => (⟨(loaded.2.absorb left.saga).add left.saga.state,sets,runs⟩,.error (.saga error))
    | none =>
      let delivered := manager.deliver left.saga (loaded.2.absorb left.saga)
      (⟨delivered.1,sets,runs⟩,delivered.2)

def processAll (manager : SagaManager Data) (correlationId : String) (now : Int) (event : DomainEvent Data) :
    List (SagaClass Data) → LiveWorld Data → LiveWorld Data × Except ManagerError Unit
  | [], live => (live,.ok ())
  | sagaClass::rest, live =>
    match processSaga manager sagaClass correlationId now event live with
    | (left,.error error) => (left,.error error)
    | (next,.ok _) => processAll manager correlationId now event rest next

def reload (live : LiveWorld Data) (sagaId : Nat) : LiveWorld Data :=
  match live.world.repository.get sagaId with
  | some state => {live with processedIdsSet := Function.update live.processedIdsSet sagaId (postInit state)}
  | none => live

def step (manager : SagaManager Data) (live : LiveWorld Data) : Delivery Data → LiveWorld Data
  | .handle now event =>
    match SagaManager.correlationIdFromEvent event with
    | some correlationId =>
      (processAll manager correlationId now event (manager.registry.getSagasForEvent event.eventType) live).1
    | none => live
  | .startSaga now sagaClass event correlationId => (processSaga manager sagaClass correlationId now event live).1
  | .reload sagaId => live.reload sagaId

/-- The set of every state object is that of its list. -/
def Synced (live : LiveWorld Data) : Prop :=
  ∀ id state, live.world.repository.get id = some state → live.processedIdsSet id = postInit state

theorem mem_postInit (state : SagaState Data) (eventId : String) :
    eventId ∈ postInit state ↔ eventId ∈ state.processedEventIds := List.mem_toFinset

theorem markEventProcessed_agrees (state : SagaState Data) (eventId : String) :
    (markEventProcessed state (postInit state) eventId).1 = state.markEventProcessed eventId ∧
      (markEventProcessed state (postInit state) eventId).2 = postInit (state.markEventProcessed eventId) := by
  unfold markEventProcessed SagaState.markEventProcessed
  by_cases seen : eventId ∈ state.processedEventIds
  · rw [if_pos ((mem_postInit state eventId).mpr seen),if_pos seen]
    exact ⟨rfl,rfl⟩
  · rw [if_neg (fun member => seen ((mem_postInit state eventId).mp member)),if_neg seen]
    refine ⟨rfl,?_⟩
    change insert eventId state.processedEventIds.toFinset = (state.processedEventIds ++ [eventId]).toFinset
    ext other
    rw [Finset.mem_insert,List.mem_toFinset,List.mem_toFinset,List.mem_append,List.mem_singleton]
    exact or_comm

/-- With the set of the list, `handle` does what it does with the list. -/
structure Agrees (sagaClass : SagaClass Data) (now : Int) (event : DomainEvent Data) (saga : Saga Data)
    (left : Handled Data) : Prop where
  result : (left.saga,left.error) = saga.handle sagaClass now event
  set : left.processedIdsSet = postInit left.saga.state
  id : left.saga.state.id = saga.state.id
  unseen : left.ran = true → event.eventId ∉ saga.state.processedEventIds
  ids : left.saga.state.processedEventIds = if left.ran && left.error.isNone then
    saga.state.processedEventIds ++ [event.eventId] else saga.state.processedEventIds

theorem handleSaga_agrees (sagaClass : SagaClass Data) (now : Int) (event : DomainEvent Data) (saga : Saga Data) :
    Agrees sagaClass now event saga (handleSaga sagaClass now event saga (postInit saga.state)) := by
  let fresh := {saga with tccRecordsCache := none}
  have fixed : (fresh.start.handleEvent sagaClass now event).1.fixed = saga.fixed :=
    (Saga.handleEvent_fixed sagaClass now event fresh.start).trans (Saga.start_fixed fresh)
  unfold handleSaga
  dsimp only
  by_cases terminal : saga.state.isTerminal = true
  · rw [if_pos terminal]
    exact ⟨by rw [Saga.handle,if_pos terminal],rfl,rfl,fun ran => (nomatch ran),rfl⟩
  rw [if_neg terminal]
  by_cases seen : event.eventId ∈ saga.state.processedEventIds
  · have processed : fresh.state.isEventProcessed event.eventId = true := decide_eq_true seen
    rw [if_pos ((mem_postInit saga.state event.eventId).mpr seen)]
    exact ⟨by rw [Saga.handle,if_neg terminal,if_pos processed],rfl,rfl,fun ran => (nomatch ran),rfl⟩
  have unseen : ¬fresh.state.isEventProcessed event.eventId = true := fun processed => seen (of_decide_eq_true processed)
  rw [if_neg fun member => seen ((mem_postInit saga.state event.eventId).mp member)]
  rcases result : fresh.start.handleEvent sagaClass now event with ⟨handled,error⟩
  rw [result] at fixed
  simp only [Saga.fixed,Prod.mk.injEq] at fixed
  obtain ⟨identity,_,_,ids,_⟩ := fixed
  have same : postInit saga.state = postInit handled.state := by
    rw [postInit,postInit,ids]
  have absent : event.eventId ∉ handled.state.processedEventIds := by rwa [ids]
  cases error with
  | some error =>
    refine ⟨?_,same,identity,fun _ => seen,ids⟩
    rw [Saga.handle,if_neg terminal,if_neg unseen,result]
  | none =>
    obtain ⟨marked,set⟩ := markEventProcessed_agrees handled.state event.eventId
    simp only [same,marked,set]
    refine ⟨?_,rfl,?_,fun _ => seen,?_⟩
    · rw [Saga.handle,if_neg terminal,if_neg unseen,result]
    · rw [SagaState.markEventProcessed,if_neg absent]
      exact identity
    · rw [SagaState.markEventProcessed,if_neg absent,← ids]
      rfl

theorem loadedSet_synced (sagaClass : SagaClass Data) (correlationId : String) (event : DomainEvent Data)
    {live : LiveWorld Data} (formed : live.world.WellFormed) (synced : live.Synced) :
    live.loadedSet sagaClass correlationId (SagaManager.loadOrCreate sagaClass correlationId event live.world).1 =
      postInit (SagaManager.loadOrCreate sagaClass correlationId event live.world).1 := by
  unfold loadedSet
  rcases SagaManager.loadOrCreate_origin sagaClass correlationId event formed with
    ⟨state,found,stored,same⟩ | ⟨state,absent,_,_,_,_,same⟩
  · rw [same,found]
    exact synced state.id state stored
  · rw [same,absent]

/-- One saga class takes one event: the saga `sagaId` went from `loaded` to `final`, and nothing else moved. -/
structure Turn (eventId : String) (before after : LiveWorld Data) (sagaId : Nat) (loaded final : SagaState Data)
    (ran returned : Bool) : Prop where
  origin : before.world.repository.get sagaId = some loaded ∨
    sagaId = before.world.nextId ∧ loaded.processedEventIds = [] ∧ loaded.isTerminal = false
  stored : after.world.repository.get sagaId = some final
  others : ∀ id, id ≠ sagaId → after.world.repository.get id = before.world.repository.get id
  sets : after.processedIdsSet = Function.update before.processedIdsSet sagaId (postInit final)
  nextId : before.world.nextId ≤ after.world.nextId
  collected : ∃ more, after.world.collected = before.world.collected ++ more ∧ ∀ entry ∈ more, entry.1 = sagaId
  runs : after.runs = before.runs ++ if ran then [⟨sagaId,eventId,returned⟩] else []
  unseen : ran = true → eventId ∉ loaded.processedEventIds
  ids : final.processedEventIds = loaded.processedEventIds ++ if ran && returned then [eventId] else []
  absorbed : loaded.isTerminal = true → final = loaded ∧ ran = false ∧ after.world.collected = before.world.collected

theorem processSaga_refines (manager : SagaManager Data) (sagaClass : SagaClass Data) (correlationId : String)
    (now : Int) (event : DomainEvent Data) {live : LiveWorld Data} (formed : live.world.WellFormed)
    (synced : live.Synced) :
    ((processSaga manager sagaClass correlationId now event live).1.world,
        (processSaga manager sagaClass correlationId now event live).2) =
      manager.processSaga sagaClass correlationId now event live.world := by
  have known := loadedSet_synced sagaClass correlationId event formed synced
  unfold processSaga SagaManager.processSaga
  generalize SagaManager.loadOrCreate sagaClass correlationId event live.world = loaded at known
  obtain ⟨state,opened⟩ := loaded
  dsimp only at known ⊢
  rw [known]
  split
  next => rfl
  next =>
    have agrees := handleSaga_agrees sagaClass now event (manager.instantiate sagaClass state opened)
    change Agrees sagaClass now event _ (handleSaga sagaClass now event _ (postInit state)) at agrees
    rw [← agrees.result]
    generalize handleSaga sagaClass now event (manager.instantiate sagaClass state opened) (postInit state) = left
    obtain ⟨saga,error,set,ran⟩ := left
    cases error with
    | some error => rfl
    | none => rfl

theorem processSaga_turn (manager : SagaManager Data) (sagaClass : SagaClass Data) (correlationId : String)
    (now : Int) (event : DomainEvent Data) {live : LiveWorld Data} (formed : live.world.WellFormed)
    (synced : live.Synced) : ∃ sagaId loaded final ran returned,
      Turn event.eventId live (processSaga manager sagaClass correlationId now event live).1 sagaId loaded final
        ran returned := by
  have known := loadedSet_synced sagaClass correlationId event formed synced
  -- Loading leaves the other sagas and the history alone.
  have opens : ∃ state opened, SagaManager.loadOrCreate sagaClass correlationId event live.world = (state,opened) ∧
      (live.world.repository.get state.id = some state ∨
        state.id = live.world.nextId ∧ state.processedEventIds = [] ∧ state.isTerminal = false) ∧
      opened.repository.get state.id = some state ∧
      (∀ id, id ≠ state.id → opened.repository.get id = live.world.repository.get id) ∧
      live.world.nextId ≤ opened.nextId ∧ opened.collected = live.world.collected := by
    rcases SagaManager.loadOrCreate_origin sagaClass correlationId event formed with
      ⟨state,_,stored,same⟩ | ⟨state,_,fresh,unused,_,active,same⟩
    · exact ⟨state,live.world,same,.inl stored,stored,fun _ _ => rfl,Nat.le_refl _,rfl⟩
    · exact ⟨state,_,same,.inr ⟨fresh,unused,active⟩,Dict.get_set_same _ _ _,
        fun id differs => Dict.get_set_other _ _ differs,Nat.le_succ _,rfl⟩
  obtain ⟨state,opened,same,origin,present,others,nextId,collected⟩ := opens
  rw [same] at known
  unfold processSaga
  simp only [same,known]
  by_cases terminal : state.isTerminal = true
  · rw [if_pos terminal]
    exact ⟨state.id,state,state,false,false,origin,present,others,rfl,nextId,⟨[],by simp [collected],by simp⟩,
      (List.append_nil _).symm,fun ran => (nomatch ran),(List.append_nil _).symm,fun _ => ⟨rfl,rfl,collected⟩⟩
  rw [if_neg terminal]
  have agrees := handleSaga_agrees sagaClass now event (manager.instantiate sagaClass state opened)
  change Agrees sagaClass now event _ (handleSaga sagaClass now event _ (postInit state)) at agrees
  generalize handleSaga sagaClass now event (manager.instantiate sagaClass state opened) (postInit state) = left
    at agrees
  obtain ⟨saga,error,set,ran⟩ := left
  obtain ⟨_,set,identity,unseen,ids⟩ := agrees
  change saga.state.id = state.id at identity
  dsimp only at set unseen ids ⊢
  have grown : saga.state.processedEventIds =
      state.processedEventIds ++ if ran && error.isNone then [event.eventId] else [] := by
    rw [ids]
    split
    next => rfl
    next => exact (List.append_nil _).symm
  have runs : (if ran then live.runs ++ [⟨state.id,event.eventId,error.isNone⟩] else live.runs) =
      live.runs ++ if ran then [⟨state.id,event.eventId,error.isNone⟩] else [] := by
    cases ran with
    | true => rfl
    | false => exact (List.append_nil _).symm
  have live' (finished : state.isTerminal = true) {statement : Prop} : statement := absurd finished terminal
  cases error with
  | some error =>
    refine ⟨state.id,state,saga.state,ran,false,origin,?_,fun id differs => ?_,by rw [set],nextId,
      ⟨[],by simp [World.add,World.absorb,collected],by simp⟩,runs,unseen,grown,fun finished => live' finished⟩
    · rw [← identity]
      exact Dict.get_set_same _ _ _
    · exact (Dict.get_set_other _ _ (by rwa [identity])).trans (others id differs)
  | none =>
    obtain ⟨final,delivery⟩ := SagaManager.deliver_spec manager saga (opened.absorb saga)
    have rest : final.processedEventIds = saga.state.processedEventIds := by
      have same := congrArg SagaState.processedEventIds delivery.rest
      exact same
    let queued := saga.commandsToDispatch.map fun queued => (saga.state.id,queued)
    refine ⟨state.id,state,final,ran,true,origin,?_,fun id differs => ?_,?_,?_,⟨queued,?_,?_⟩,runs,unseen,
      rest.trans grown,fun finished => live' finished⟩
    · rw [← identity]
      exact delivery.stored
    · exact (delivery.others id (by rwa [identity])).trans (others id differs)
    · rw [set,postInit,postInit,rest]
    · rw [SagaManager.deliver_nextId]
      exact nextId
    · exact delivery.collected.trans (congrArg (· ++ queued) collected)
    · intro entry member
      obtain ⟨_,_,rfl⟩ := List.mem_map.mp member
      exact identity

/-- What the history of the handler calls says of every stored saga. -/
structure Inv (live : LiveWorld Data) : Prop where
  formed : live.world.WellFormed
  synced : live.Synced
  distinct : ∀ id state, live.world.repository.get id = some state → state.processedEventIds.Nodup
  processed : ∀ id state, live.world.repository.get id = some state →
    ∀ eventId, eventId ∈ state.processedEventIds ↔ ⟨id,eventId,true⟩ ∈ live.runs
  once : live.runs.Pairwise fun earlier later =>
    earlier.returned = true → later.sagaId = earlier.sagaId → later.eventId ≠ earlier.eventId
  known : ∀ run ∈ live.runs, run.sagaId < live.world.nextId

theorem Turn.inv {eventId : String} {before after : LiveWorld Data} {sagaId : Nat} {loaded final : SagaState Data}
    {ran returned : Bool} (turn : Turn eventId before after sagaId loaded final ran returned) (inv : Inv before)
    (formed : after.world.WellFormed) : Inv after := by
  have own (other : String) : other ∈ loaded.processedEventIds ↔ ⟨sagaId,other,true⟩ ∈ before.runs := by
    rcases turn.origin with stored | ⟨fresh,unused,_⟩
    · exact inv.processed sagaId loaded stored other
    · rw [unused]
      refine ⟨fun member => absurd member List.not_mem_nil,fun member => ?_⟩
      exact absurd (inv.known _ member) (by rw [← fresh]; exact Nat.lt_irrefl _)
  have started : loaded.processedEventIds.Nodup := by
    rcases turn.origin with stored | ⟨_,unused,_⟩
    · exact inv.distinct sagaId loaded stored
    · rw [unused]
      exact List.nodup_nil
  have placed : sagaId < after.world.nextId := by
    obtain ⟨identity,fits⟩ := formed.stored sagaId final turn.stored
    rw [← identity]
    exact fits.1
  refine ⟨formed,fun id state found => ?_,fun id state found => ?_,fun id state found other => ?_,?_,
    fun run member => ?_⟩
  · by_cases hit : id = sagaId
    · subst hit
      rw [turn.sets,Function.update_self,Option.some.inj (turn.stored.symm.trans found)]
    · rw [turn.sets,Function.update_of_ne hit]
      exact inv.synced id state (turn.others id hit ▸ found)
  · by_cases hit : id = sagaId
    · subst hit
      rw [← Option.some.inj (turn.stored.symm.trans found),turn.ids]
      split
      next both =>
        have fresh := turn.unseen (Bool.and_eq_true_iff.mp both).1
        exact List.Nodup.append started (List.nodup_singleton _) (by simpa using fresh)
      next => rwa [List.append_nil]
    · exact inv.distinct id state (turn.others id hit ▸ found)
  · rw [turn.runs]
    by_cases hit : id = sagaId
    · subst hit
      rw [← Option.some.inj (turn.stored.symm.trans found),turn.ids,List.mem_append,List.mem_append,own]
      cases ran <;> cases returned <;> simp
    · rw [inv.processed id state (turn.others id hit ▸ found),List.mem_append]
      cases ran <;> simp [hit]
  · rw [turn.runs]
    refine List.pairwise_append.mpr ⟨inv.once,?_,fun earlier old later new => ?_⟩
    · split
      next => exact List.pairwise_singleton _ _
      next => exact .nil
    · split at new
      next did =>
        rw [List.mem_singleton] at new
        subst new
        intro finished same repeated
        dsimp only at same repeated
        have seen : eventId ∈ loaded.processedEventIds := by
          rw [own,same,repeated,← finished]
          exact old
        exact turn.unseen did seen
      next => exact absurd new List.not_mem_nil
  · rw [turn.runs] at member
    rcases List.mem_append.mp member with old | new
    · exact Nat.lt_of_lt_of_le (inv.known run old) turn.nextId
    · split at new
      next =>
        rw [List.mem_singleton] at new
        subst new
        exact placed
      next => exact absurd new List.not_mem_nil

theorem processSaga_inv (manager : SagaManager Data) (sagaClass : SagaClass Data) (correlationId : String)
    (now : Int) (event : DomainEvent Data) {live : LiveWorld Data} (inv : Inv live) :
    Inv (processSaga manager sagaClass correlationId now event live).1 := by
  obtain ⟨_,_,_,_,_,turn⟩ := processSaga_turn manager sagaClass correlationId now event inv.formed inv.synced
  have same := congrArg Prod.fst (processSaga_refines manager sagaClass correlationId now event inv.formed inv.synced)
  refine turn.inv inv ?_
  rw [show (processSaga manager sagaClass correlationId now event live).1.world = _ from same]
  exact (SagaManager.processSaga_keeps manager sagaClass correlationId now event live.world inv.formed).1

theorem reload_inv (sagaId : Nat) {live : LiveWorld Data} (inv : Inv live) : Inv (live.reload sagaId) := by
  unfold reload
  split
  next state found =>
    refine ⟨inv.formed,fun id stored present => ?_,inv.distinct,inv.processed,inv.once,inv.known⟩
    dsimp only at present ⊢
    by_cases hit : id = sagaId
    · subst hit
      rw [Function.update_self,Option.some.inj (found.symm.trans present)]
    · rw [Function.update_of_ne hit]
      exact inv.synced id stored present
  next => exact inv

theorem processAll_rule (manager : SagaManager Data) (correlationId : String) (now : Int)
    (event : DomainEvent Data) {holds : LiveWorld Data → Prop}
    (kept : ∀ sagaClass live, holds live → holds (processSaga manager sagaClass correlationId now event live).1)
    (classes : List (SagaClass Data)) (live : LiveWorld Data) (start : holds live) :
    holds (processAll manager correlationId now event classes live).1 := by
  induction classes generalizing live with
  | nil => exact start
  | cons sagaClass rest ih =>
    have next := kept sagaClass live start
    unfold processAll
    split
    next left error same =>
      rw [same] at next
      exact next
    next left value same =>
      rw [same] at next
      exact ih left next

theorem step_rule (manager : SagaManager Data) {holds : LiveWorld Data → Prop}
    (kept : ∀ sagaClass correlationId now event live, holds live →
      holds (processSaga manager sagaClass correlationId now event live).1)
    (reloaded : ∀ sagaId live, holds live → holds (live.reload sagaId)) (live : LiveWorld Data)
    (delivery : Delivery Data) (start : holds live) : holds (step manager live delivery) := by
  cases delivery with
  | handle now event =>
    dsimp only [step]
    split
    next correlationId _ =>
      exact processAll_rule manager correlationId now event
        (fun sagaClass => kept sagaClass correlationId now event) _ live start
    next => exact start
  | startSaga now sagaClass event correlationId => exact kept sagaClass correlationId now event live start
  | reload sagaId => exact reloaded sagaId live start

theorem run_rule (manager : SagaManager Data) {holds : LiveWorld Data → Prop}
    (kept : ∀ sagaClass correlationId now event live, holds live →
      holds (processSaga manager sagaClass correlationId now event live).1)
    (reloaded : ∀ sagaId live, holds live → holds (live.reload sagaId)) (live : LiveWorld Data)
    (deliveries : List (Delivery Data)) (start : holds live) : holds (Transition.run (step manager) live deliveries) :=
  Transition.run_invariant holds (fun live delivery held _ => step_rule manager kept reloaded live delivery held)
    live deliveries start (Transition.meets_of_forall _ (fun _ _ => True) (fun _ _ => trivial) _ _)

theorem empty_inv : Inv (empty : LiveWorld Data) := by
  have absent (id : Nat) (state : SagaState Data) :
      (empty : LiveWorld Data).world.repository.get id ≠ some state := fun found => (nomatch found)
  exact ⟨World.empty_wellFormed,fun id state found => absurd found (absent id state),
    fun id state found => absurd found (absent id state),fun id state found => absurd found (absent id state),.nil,
    fun _ member => absurd member List.not_mem_nil⟩

theorem run_inv (manager : SagaManager Data) (deliveries : List (Delivery Data)) :
    Inv (Transition.run (step manager) empty deliveries) :=
  run_rule manager (fun sagaClass correlationId now event _ inv =>
    processSaga_inv manager sagaClass correlationId now event inv) (fun sagaId _ inv => reload_inv sagaId inv)
    empty deliveries empty_inv

/-- What no delivery does to a saga that has ended. -/
structure Absorbed (sagaId : Nat) (state : SagaState Data) (before after : LiveWorld Data) : Prop where
  inv : Inv after
  stored : after.world.repository.get sagaId = some state
  set : after.processedIdsSet sagaId = before.processedIdsSet sagaId
  runs : after.runs.filter (·.sagaId = sagaId) = before.runs.filter (·.sagaId = sagaId)
  collected : after.world.collected.filter (·.1 = sagaId) = before.world.collected.filter (·.1 = sagaId)

theorem Turn.absorbs {eventId : String} {before after : LiveWorld Data} {turned : Nat} {loaded final : SagaState Data}
    {ran returned : Bool} (turn : Turn eventId before after turned loaded final ran returned) (inv : Inv before)
    (later : Inv after) {sagaId : Nat} {state : SagaState Data} (terminal : state.isTerminal = true)
    (stored : before.world.repository.get sagaId = some state) : Absorbed sagaId state before after := by
  obtain ⟨more,grown,own⟩ := turn.collected
  by_cases hit : sagaId = turned
  · subst hit
    rcases turn.origin with found | ⟨fresh,_⟩
    · obtain rfl := Option.some.inj (found.symm.trans stored)
      obtain ⟨rfl,still,queued⟩ := turn.absorbed terminal
      refine ⟨later,turn.stored,?_,?_,by rw [queued]⟩
      · rw [turn.sets,Function.update_self,inv.synced sagaId final stored]
      · rw [turn.runs,still]
        simp
    · obtain ⟨identity,bound,_⟩ := inv.formed.stored sagaId state stored
      rw [identity,fresh] at bound
      exact absurd bound (Nat.lt_irrefl _)
  · refine ⟨later,(turn.others sagaId hit).trans stored,?_,?_,?_⟩
    · rw [turn.sets,Function.update_of_ne hit]
    · rw [turn.runs,List.filter_append]
      cases ran <;> simp [Ne.symm hit]
    · have foreign : more.filter (·.1 = sagaId) = [] := by
        refine List.filter_eq_nil_iff.mpr fun entry member => ?_
        rw [own entry member]
        simpa using Ne.symm hit
      rw [grown,List.filter_append,foreign,List.append_nil]

theorem Absorbed.trans {sagaId : Nat} {state : SagaState Data} {first middle last : LiveWorld Data}
    (earlier : Absorbed sagaId state first middle) (later : Absorbed sagaId state middle last) :
    Absorbed sagaId state first last :=
  ⟨later.inv,later.stored,later.set.trans earlier.set,later.runs.trans earlier.runs,
    later.collected.trans earlier.collected⟩

theorem run_absorbed (manager : SagaManager Data) {live : LiveWorld Data} (inv : Inv live) {sagaId : Nat}
    {state : SagaState Data} (stored : live.world.repository.get sagaId = some state)
    (terminal : state.isTerminal = true) (later : List (Delivery Data)) :
    Absorbed sagaId state live (Transition.run (step manager) live later) := by
  have start : Absorbed sagaId state live live := ⟨inv,stored,rfl,rfl,rfl⟩
  refine run_rule manager (fun sagaClass correlationId now event current held => ?_)
    (fun reloaded current held => ?_) live later start
  · obtain ⟨_,_,_,_,_,turn⟩ := processSaga_turn manager sagaClass correlationId now event held.inv.formed held.inv.synced
    have next := processSaga_inv manager sagaClass correlationId now event held.inv
    exact held.trans (turn.absorbs held.inv next terminal held.stored)
  · have next := reload_inv reloaded held.inv
    have same : (current.reload reloaded).world = current.world ∧ (current.reload reloaded).runs = current.runs := by
      unfold reload
      split
      next => exact ⟨rfl,rfl⟩
      next => exact ⟨rfl,rfl⟩
    refine held.trans ⟨next,by rw [same.1]; exact held.stored,?_,by rw [same.2],by rw [same.1]⟩
    rw [next.synced sagaId state (by rw [same.1]; exact held.stored),held.inv.synced sagaId state held.stored]

/-- A delivery is an operation of the manager, and a reload is none. -/
def managerOps : Delivery Data → List (ManagerOp Data)
  | .handle now event => [.handle now event]
  | .startSaga now sagaClass event correlationId => [.startSaga now sagaClass event correlationId]
  | .reload _ => []

theorem processAll_refines (manager : SagaManager Data) (correlationId : String) (now : Int)
    (event : DomainEvent Data) (classes : List (SagaClass Data)) {live : LiveWorld Data} (inv : Inv live) :
    (processAll manager correlationId now event classes live).1.world =
      (manager.processAll correlationId now event classes live.world).1 := by
  induction classes generalizing live with
  | nil => rfl
  | cons sagaClass rest ih =>
    have same := processSaga_refines manager sagaClass correlationId now event inv.formed inv.synced
    have kept := processSaga_inv manager sagaClass correlationId now event inv
    unfold processAll SagaManager.processAll
    rw [← same]
    generalize processSaga manager sagaClass correlationId now event live = left at kept
    obtain ⟨next,outcome⟩ := left
    cases outcome with
    | error error => rfl
    | ok value => exact ih kept

theorem run_refines (manager : SagaManager Data) (deliveries : List (Delivery Data)) :
    (Transition.run (step manager) empty deliveries).world =
      Transition.run manager.step World.empty (deliveries.flatMap managerOps) := by
  induction deliveries using List.reverseRecOn with
  | nil => rfl
  | append_singleton earlier delivery ih =>
    have inv := run_inv manager earlier
    rw [Transition.run_append,List.flatMap_append,Transition.run_append,← ih]
    generalize Transition.run (step manager) empty earlier = live at inv
    cases delivery with
    | handle now event =>
      simp only [Transition.run_cons,Transition.run_nil,step,managerOps,List.flatMap_cons,List.flatMap_nil,
        List.append_nil,SagaManager.step,SagaManager.handle]
      cases SagaManager.correlationIdFromEvent event with
      | some correlationId => exact processAll_refines manager correlationId now event _ inv
      | none => rfl
    | startSaga now sagaClass event correlationId =>
      exact congrArg Prod.fst (processSaga_refines manager sagaClass correlationId now event inv.formed inv.synced)
    | reload sagaId =>
      change (live.reload sagaId).world = live.world
      unfold reload
      split
      next => rfl
      next => rfl

/-- A handler that returned is never run again for the event, and no run before it returned. -/
theorem Inv.once_only {live : LiveWorld Data} (inv : Inv live) {sagaId : Nat} {eventId : String}
    (member : ⟨sagaId,eventId,true⟩ ∈ live.runs) :
    ∃ before after, live.runs = before ++ ⟨sagaId,eventId,true⟩::after ∧
      (∀ run ∈ before, run.sagaId = sagaId → run.eventId = eventId → run.returned = false) ∧
      ∀ run ∈ after, run.sagaId = sagaId → run.eventId ≠ eventId := by
  obtain ⟨before,after,runs⟩ := List.append_of_mem member
  obtain ⟨_,tail,across⟩ := List.pairwise_append.mp (runs ▸ inv.once)
  refine ⟨before,after,runs,fun run old sameSaga sameEvent => ?_,fun run new sameSaga => ?_⟩
  · cases returned : run.returned with
    | false => rfl
    | true => exact absurd sameEvent.symm (across run old _ List.mem_cons_self returned sameSaga.symm)
  · exact (List.pairwise_cons.mp tail).1 run new rfl sameSaga

/-- Over every sequence of deliveries and reloads, the processed events of a saga are
those whose handler returned, each of them once, and a saga that has ended stays as it is. -/
theorem deliveries_idempotent (manager : SagaManager Data) (deliveries : List (Delivery Data)) (sagaId : Nat)
    (state : SagaState Data) :
    let live := Transition.run (step manager) empty deliveries
    live.world.repository.get sagaId = some state →
      state.processedEventIds.Nodup ∧
      (∀ eventId, eventId ∈ state.processedEventIds ↔ ⟨sagaId,eventId,true⟩ ∈ live.runs) ∧
      (∀ eventId, ⟨sagaId,eventId,true⟩ ∈ live.runs →
        ∃ before after, live.runs = before ++ ⟨sagaId,eventId,true⟩::after ∧
          (∀ run ∈ before, run.sagaId = sagaId → run.eventId = eventId → run.returned = false) ∧
          ∀ run ∈ after, run.sagaId = sagaId → run.eventId ≠ eventId) ∧
      (state.isTerminal = true → ∀ later,
        let ended := Transition.run (step manager) live later
        ended.world.repository.get sagaId = some state ∧
          ended.processedIdsSet sagaId = live.processedIdsSet sagaId ∧
          ended.runs.filter (·.sagaId = sagaId) = live.runs.filter (·.sagaId = sagaId) ∧
          ended.world.collected.filter (·.1 = sagaId) = live.world.collected.filter (·.1 = sagaId)) := by
  intro live stored
  have inv : Inv live := run_inv manager deliveries
  refine ⟨inv.distinct sagaId state stored,inv.processed sagaId state stored,fun _ member => inv.once_only member,
    fun terminal later => ?_⟩
  have absorbed := run_absorbed manager inv stored terminal later
  exact ⟨absorbed.stored,absorbed.set,absorbed.runs,absorbed.collected⟩

/-- The order saga completes on its only event, and then gets another one. -/
def closingSaga : SagaClass Nat where
  name := "OrderSaga"
  registered := .empty
  maxRetries := 3
  eventHandlers := [("OrderPlaced",mappedHandler
    (fun event => SagaManager.orderCommand "ReserveStock" event.payload) (some "reserving") none "" true)]
  onTimeout := failOnTimeout

def closing (eventId : String) : Delivery Nat :=
  .startSaga 0 closingSaga (SagaManager.orderEvent "OrderPlaced" eventId) "order-7"

theorem deliveries_idempotent_closing :
    ∃ state, (Transition.run (step SagaManager.orderManager) empty
        [closing "e1",.reload 0,closing "e1"]).world.repository.get 0 = some state ∧
      state.processedEventIds = ["e1"] ∧ state.processedEventIds.Nodup ∧
      (Transition.run (step SagaManager.orderManager) (Transition.run (step SagaManager.orderManager) empty
        [closing "e1",.reload 0,closing "e1"]) [closing "e2"]).world.repository.get 0 = some state := by
  let facts := deliveries_idempotent SagaManager.orderManager [closing "e1",.reload 0,closing "e1"] 0 _ rfl
  exact ⟨_,rfl,rfl,facts.1,(facts.2.2.2 rfl [closing "e2"]).1⟩

end LiveWorld
end CqrsDdd.Sagas
