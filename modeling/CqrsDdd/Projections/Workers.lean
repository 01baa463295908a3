import Mathlib.Data.List.FinRange
import Mathlib.Data.List.Flatten
import Mathlib.Logic.Function.Iterate
import CqrsDdd.EventStores.Pagination

/-! The polling projection workers and their partitions. A round reads a page behind
the worker's checkpoint, hands the events of its partition to the handlers and
saves the position of the last one handed; a page without any such event leaves
the checkpoint where it was. -/
namespace CqrsDdd.Projections

open EventStores Paging

variable {Object : Type}

structure ProjectionWorker (Object : Type) where
  projectionName : String
  batchSize : Nat
  partitionFilter : Option (StoredEvent Object → Bool)

/-- The in-memory checkpoint store, by projection name. -/
abbrev Checkpoints := Dict String Int

namespace ProjectionWorker

def shouldProcessEvent (worker : ProjectionWorker Object) (stored : StoredEvent Object) : Bool :=
  worker.partitionFilter.elim true fun partitionFilter => partitionFilter stored

def getCheckpointPosition (worker : ProjectionWorker Object) (checkpoints : Checkpoints) : Int :=
  (checkpoints.get worker.projectionName).getD 0

/-- The last position and the events handed on. Processing an event with retries logs the
last failure and returns, so that it never ends the loop. -/
def processEventBatch (worker : ProjectionWorker Object) :
    Int → List (StoredEvent Object) → Int × List (StoredEvent Object)
  | lastPosition, [] => (lastPosition,[])
  | lastPosition, stored::batch =>
    if worker.shouldProcessEvent stored then
      match stored.position with
      | none => worker.processEventBatch lastPosition batch
      | some eventPosition =>
        let rest := worker.processEventBatch eventPosition batch
        (rest.1,stored::rest.2)
    else worker.processEventBatch lastPosition batch

/-- One round of `_run`: the checkpoints after it and the events handed to the handlers. -/
def round (worker : ProjectionWorker Object) (getEventsAfter : Int → Nat → List (StoredEvent Object))
    (checkpoints : Checkpoints) : Checkpoints × List (StoredEvent Object) :=
  let position := worker.getCheckpointPosition checkpoints
  let batch := getEventsAfter position worker.batchSize
  if batch.isEmpty then (checkpoints,[])
  else
    let processed := worker.processEventBatch position batch
    (checkpoints.set worker.projectionName processed.1,processed.2)

/-- The round as its worker sees it: its own checkpoint and the events it has handed on. -/
def advance (worker : ProjectionWorker Object) (getEventsAfter : Int → Nat → List (StoredEvent Object))
    (view : Int × List (StoredEvent Object)) : Int × List (StoredEvent Object) :=
  let batch := getEventsAfter view.1 worker.batchSize
  if batch.isEmpty then view
  else
    let processed := worker.processEventBatch view.1 batch
    (processed.1,view.2 ++ processed.2)

theorem round_own (worker : ProjectionWorker Object) (getEventsAfter : Int → Nat → List (StoredEvent Object))
    (checkpoints : Checkpoints) (handed : List (StoredEvent Object)) :
    (worker.getCheckpointPosition (worker.round getEventsAfter checkpoints).1,
      handed ++ (worker.round getEventsAfter checkpoints).2) =
    worker.advance getEventsAfter (worker.getCheckpointPosition checkpoints,handed) := by
  simp only [round,advance]
  split
  next => rw [List.append_nil]
  next => rw [getCheckpointPosition,Dict.get_set_same,Option.getD_some]

theorem round_other {worker other : ProjectionWorker Object} (differ : other.projectionName ≠ worker.projectionName)
    (getEventsAfter : Int → Nat → List (StoredEvent Object)) (checkpoints : Checkpoints) :
    other.getCheckpointPosition (worker.round getEventsAfter checkpoints).1 =
      other.getCheckpointPosition checkpoints := by
  simp only [round]
  split
  next => rfl
  next => rw [getCheckpointPosition,Dict.get_set_other _ _ differ,getCheckpointPosition]

theorem processEventBatch_position (worker : ProjectionWorker Object) (position : Int)
    (batch : List (StoredEvent Object)) :
    (worker.processEventBatch position batch).1 = position ∨
      ∃ stored ∈ batch, worker.shouldProcessEvent stored = true ∧
        stored.position = some (worker.processEventBatch position batch).1 := by
  induction batch generalizing position with
  | nil => exact .inl rfl
  | cons stored batch ih =>
    rw [processEventBatch]
    split
    next mine =>
      cases placed : stored.position with
      | none =>
        rcases ih position with same | ⟨other,member,rest⟩
        · exact .inl same
        · exact .inr ⟨other,List.mem_cons_of_mem stored member,rest⟩
      | some eventPosition =>
        rcases ih eventPosition with same | ⟨other,member,rest⟩
        · exact .inr ⟨stored,List.mem_cons_self,mine,by rw [placed]; exact congrArg some same.symm⟩
        · exact .inr ⟨other,List.mem_cons_of_mem stored member,rest⟩
    next =>
      rcases ih position with same | ⟨other,member,rest⟩
      · exact .inl same
      · exact .inr ⟨other,List.mem_cons_of_mem stored member,rest⟩

theorem processEventBatch_all {worker : ProjectionWorker Object} {batch : List (StoredEvent Object)}
    (every : ∀ stored ∈ batch, worker.shouldProcessEvent stored = true) (positioned : Positioned batch)
    (position : Int) : worker.processEventBatch position batch =
      ((batch.getLast?.map StoredEvent.place).getD position,batch) := by
  induction batch generalizing position with
  | nil => rfl
  | cons stored batch ih =>
    have mine := every stored List.mem_cons_self
    have placed := positioned stored List.mem_cons_self
    have rest := ih (fun other member => every other (List.mem_cons_of_mem stored member))
      (fun other member => positioned other (List.mem_cons_of_mem stored member)) stored.place
    rw [processEventBatch,if_pos mine,placed]
    simp only
    rw [rest]
    cases batch with
    | nil => rfl
    | cons other more =>
      rw [List.getLast?_cons_cons,List.getLast?_eq_some_getLast (List.cons_ne_nil other more)]
      rfl

end ProjectionWorker

/-- A log of events in increasing position, as a store serves it. -/
structure EventLog (Object : Type) where
  events : List (StoredEvent Object)
  getEventsAfter : Int → Nat → List (StoredEvent Object)
  serves : Serves getEventsAfter events
  ordered : Increasing StoredEvent.place events
  positioned : Positioned events

/-- The log of a SQL event table. -/
def EventLog.ofTable (table : List (StoredEventModel Object)) (distinct : (table.map (·.position)).Nodup) :
    EventLog Object where
  events := StoredEventModel.listing table none
  getEventsAfter := SQLAlchemyEventStore.getEventsAfter table none
  serves := SQLAlchemyEventStore.serves_listing distinct none
  ordered := StoredEventModel.listing_increasing distinct none
  positioned := StoredEventModel.listing_positioned table none

theorem EventLog.page_eq_nil (log : EventLog Object) {position : Int} {size : Nat} (nonempty : 1 ≤ size) :
    log.getEventsAfter position size = [] ↔ after StoredEvent.place log.events position = [] := by
  rw [log.serves position size nonempty,List.take_eq_nil_iff]
  constructor
  · intro either
    exact either.resolve_left (by omega)
  · exact .inr

theorem EventLog.advance_cases (log : EventLog Object) {worker : ProjectionWorker Object}
    (nonempty : 1 ≤ worker.batchSize) (every : ∀ stored ∈ log.events, worker.shouldProcessEvent stored = true)
    (position : Int) (handed : List (StoredEvent Object)) :
    (after StoredEvent.place log.events position = [] ∧
      worker.advance log.getEventsAfter (position,handed) = (position,handed)) ∨
    ∃ page last, page.getLast? = some last ∧ position < last.place ∧
      after StoredEvent.place log.events position = page ++ after StoredEvent.place log.events last.place ∧
      worker.advance log.getEventsAfter (position,handed) = (last.place,handed ++ page) := by
  have taken := log.serves position worker.batchSize nonempty
  rcases page_cases log.ordered log.positioned nonempty taken with ⟨empty,page⟩ | ⟨last,ends,_,ahead,splits⟩
  · exact .inl ⟨empty,by simp [ProjectionWorker.advance,page]⟩
  · have stored : ∀ event ∈ log.getEventsAfter position worker.batchSize, event ∈ log.events := by
      intro event member
      rw [taken] at member
      exact (mem_after.mp (List.mem_of_mem_take member)).1
    have some : (log.getEventsAfter position worker.batchSize).isEmpty = false :=
      List.isEmpty_eq_false_iff_exists_mem.mpr ⟨last,List.mem_of_getLast? ends⟩
    have processed := ProjectionWorker.processEventBatch_all
      (fun event member => every event (stored event member))
      (fun event member => log.positioned event (stored event member)) position
    refine .inr ⟨_,last,ends,ahead,splits,?_⟩
    simp only [ProjectionWorker.advance,some,Bool.false_eq_true,if_false,processed,ends,Option.map_some,
      Option.getD_some]

theorem EventLog.iterate_advance (log : EventLog Object) (worker : ProjectionWorker Object)
    (nonempty : 1 ≤ worker.batchSize) (every : ∀ stored ∈ log.events, worker.shouldProcessEvent stored = true)
    {rounds : Nat} (position : Int) (handed : List (StoredEvent Object))
    (enough : (after StoredEvent.place log.events position).length ≤ rounds) :
    ∃ final, after StoredEvent.place log.events final = [] ∧
      (worker.advance log.getEventsAfter)^[rounds] (position,handed) =
        (final,handed ++ after StoredEvent.place log.events position) := by
  induction rounds generalizing position handed with
  | zero =>
    have empty := List.length_eq_zero_iff.mp (Nat.le_zero.mp enough)
    exact ⟨position,empty,by rw [empty,List.append_nil]; rfl⟩
  | succ rounds ih =>
    rw [Function.iterate_succ_apply]
    rcases log.advance_cases nonempty every position handed with
      ⟨empty,same⟩ | ⟨page,last,ends,_,splits,result⟩
    · rw [same]
      exact ih position handed (by rw [empty]; exact Nat.zero_le _)
    · have fewer := length_after_lt ends splits
      obtain ⟨final,drained,reached⟩ := ih last.place (handed ++ page) (by omega)
      refine ⟨final,drained,?_⟩
      rw [result,reached,splits,List.append_assoc]

/-- The workers of one partitioned projection over a log whose positions start above 0. -/
structure Deployment (Object : Type) where
  sha256 : String → Nat
  projectionName : String
  batchSize : Nat
  partitionCount : Nat
  log : EventLog Object
  positive : ∀ event ∈ log.events, 0 < event.place

theorem Deployment.after_zero (deployment : Deployment Object) :
    after StoredEvent.place deployment.log.events 0 = deployment.log.events := by
  refine List.filter_eq_self.mpr fun event member => ?_
  rw [decide_eq_true_eq]
  exact deployment.positive event member

namespace PartitionedProjectionWorker

variable (deployment : Deployment Object)

def shouldProcessEvent (partitionIndex : Nat) (stored : StoredEvent Object) : Bool :=
  deployment.sha256 stored.aggregateId % deployment.partitionCount = partitionIndex

def worker (partitionIndex : Nat) : ProjectionWorker Object :=
  {projectionName := deployment.projectionName ++ "_p" ++ toString partitionIndex, batchSize := deployment.batchSize,
   partitionFilter := some (shouldProcessEvent deployment partitionIndex)}

theorem projectionName_injective {first second : Nat}
    (same : (worker deployment first).projectionName = (worker deployment second).projectionName) :
    first = second := by
  have digits := (String.append_right_inj _).mp same
  simp only [Nat.toString_eq_repr,Nat.repr_eq_ofList_toDigits,String.ofList_inj] at digits
  have numbers := congrArg (fun chars => Nat.ofDigitChars 10 chars 0) digits
  simpa only [Nat.ofDigitChars_ten_toDigits] using numbers

/-- The checkpoints the workers share, and the events each of them has handed on. -/
structure State (Object : Type) (workers : Nat) where
  checkpoints : Checkpoints
  handed : Fin workers → List (StoredEvent Object)

def initial : State Object deployment.partitionCount := ⟨Dict.empty,fun _ => []⟩

def step (state : State Object deployment.partitionCount) (index : Fin deployment.partitionCount) :
    State Object deployment.partitionCount :=
  let result := (worker deployment index).round deployment.log.getEventsAfter state.checkpoints
  ⟨result.1,Function.update state.handed index (state.handed index ++ result.2)⟩

def reached (schedule : List (Fin deployment.partitionCount)) : State Object deployment.partitionCount :=
  Transition.run (step deployment) (initial deployment) schedule

def checkpoint (state : State Object deployment.partitionCount) (index : Fin deployment.partitionCount) : Int :=
  (worker deployment index).getCheckpointPosition state.checkpoints

def fetched (state : State Object deployment.partitionCount) (index : Fin deployment.partitionCount) :
    List (StoredEvent Object) :=
  deployment.log.getEventsAfter (checkpoint deployment state index) deployment.batchSize

/-- Every non-empty batch moves its worker's checkpoint on; the workers come to an end, where
together they have handed on every event once, and those of an aggregate in order by one worker. -/
structure CoversTheLog : Prop where
  progresses : ∀ schedule index, fetched deployment (reached deployment schedule) index ≠ [] →
    checkpoint deployment (reached deployment schedule) index <
      checkpoint deployment (step deployment (reached deployment schedule) index) index
  completes : ∃ rounds : Nat, ∀ schedule : List (Fin deployment.partitionCount),
    (∀ index, rounds ≤ schedule.count index) →
      (∀ index, fetched deployment (reached deployment schedule) index = []) ∧
      ((List.finRange deployment.partitionCount).flatMap (reached deployment schedule).handed).Perm
        deployment.log.events ∧
      (∀ index, Increasing StoredEvent.place ((reached deployment schedule).handed index)) ∧
      ∀ first second, ∀ event ∈ (reached deployment schedule).handed first,
        ∀ other ∈ (reached deployment schedule).handed second,
          event.aggregateId = other.aggregateId → first = second

def view (state : State Object deployment.partitionCount) (index : Fin deployment.partitionCount) :
    Int × List (StoredEvent Object) :=
  (checkpoint deployment state index,state.handed index)

theorem view_step_own (state : State Object deployment.partitionCount) (index : Fin deployment.partitionCount) :
    view deployment (step deployment state index) index =
      (worker deployment index).advance deployment.log.getEventsAfter (view deployment state index) := by
  simp only [view,step,checkpoint,Function.update_self]
  exact ProjectionWorker.round_own _ _ _ _

theorem view_step_other (state : State Object deployment.partitionCount)
    {index other : Fin deployment.partitionCount} (differ : other ≠ index) :
    view deployment (step deployment state index) other = view deployment state other := by
  have names : (worker deployment other).projectionName ≠ (worker deployment index).projectionName :=
    fun same => differ (Fin.ext (projectionName_injective deployment same))
  simp only [view,step,checkpoint,Function.update_of_ne differ,ProjectionWorker.round_other names]

theorem view_run (state : State Object deployment.partitionCount) (schedule : List (Fin deployment.partitionCount))
    (index : Fin deployment.partitionCount) :
    view deployment (Transition.run (step deployment) state schedule) index =
      ((worker deployment index).advance deployment.log.getEventsAfter)^[schedule.count index]
        (view deployment state index) := by
  induction schedule generalizing state with
  | nil => rfl
  | cons first rest ih =>
    rw [Transition.run_cons,ih]
    by_cases same : first = index
    · subst same
      rw [view_step_own,List.count_cons_self,Function.iterate_succ_apply]
    · rw [view_step_other deployment state (Ne.symm same),List.count_cons_of_ne same]

theorem view_reached (schedule : List (Fin deployment.partitionCount)) (index : Fin deployment.partitionCount) :
    view deployment (reached deployment schedule) index =
      ((worker deployment index).advance deployment.log.getEventsAfter)^[schedule.count index] (0,[]) :=
  view_run deployment (initial deployment) schedule index

theorem progresses_of_every (nonempty : 1 ≤ deployment.batchSize) {index : Fin deployment.partitionCount}
    (every : ∀ stored ∈ deployment.log.events, (worker deployment index).shouldProcessEvent stored = true)
    (state : State Object deployment.partitionCount) (some : fetched deployment state index ≠ []) :
    checkpoint deployment state index < checkpoint deployment (step deployment state index) index := by
  rcases deployment.log.advance_cases nonempty every (checkpoint deployment state index) (state.handed index) with
    ⟨empty,_⟩ | ⟨_,last,_,ahead,_,result⟩
  · exact absurd ((deployment.log.page_eq_nil nonempty).mpr empty) some
  · have moved := congrArg Prod.fst ((view_step_own deployment state index).trans result)
    exact ahead.trans_eq moved.symm

theorem drained_of_every (nonempty : 1 ≤ deployment.batchSize) {index : Fin deployment.partitionCount}
    (every : ∀ stored ∈ deployment.log.events, (worker deployment index).shouldProcessEvent stored = true)
    {schedule : List (Fin deployment.partitionCount)}
    (enough : deployment.log.events.length ≤ schedule.count index) :
    fetched deployment (reached deployment schedule) index = [] ∧
      (reached deployment schedule).handed index = deployment.log.events := by
  rw [← deployment.after_zero] at enough
  obtain ⟨final,drained,result⟩ := deployment.log.iterate_advance _ nonempty every 0 [] enough
  have seen := (view_reached deployment schedule index).trans result
  rw [deployment.after_zero,List.nil_append] at seen
  obtain ⟨position,handed⟩ := Prod.mk.inj seen
  refine ⟨(deployment.log.page_eq_nil nonempty).mpr ?_,handed⟩
  rw [position]
  exact drained

theorem covers_of_one (nonempty : 1 ≤ deployment.batchSize) (one : deployment.partitionCount = 1) :
    CoversTheLog deployment := by
  obtain ⟨sha256,projectionName,batchSize,partitionCount,log,positive⟩ := deployment
  obtain rfl : partitionCount = 1 := one
  have every : ∀ (index : Fin 1), ∀ stored ∈ log.events,
      (worker ⟨sha256,projectionName,batchSize,1,log,positive⟩ index).shouldProcessEvent stored = true := by
    intro index stored _
    simp [worker,ProjectionWorker.shouldProcessEvent,shouldProcessEvent,Nat.mod_one]
  refine ⟨fun schedule index => progresses_of_every _ nonempty (every index) _,log.events.length,
    fun schedule enough => ?_⟩
  have each := fun index => drained_of_every _ nonempty (every index) (enough index)
  refine ⟨fun index => (each index).1,?_,fun index => ?_,fun first second _ _ _ _ _ => Subsingleton.elim first second⟩
  · rw [show List.finRange 1 = [0] from rfl,List.flatMap_singleton,(each 0).2]
  · rw [(each index).2]
    exact log.ordered

theorem covers_of_empty (nonempty : 1 ≤ deployment.batchSize) (empty : deployment.log.events = []) :
    CoversTheLog deployment := by
  have every : ∀ (index : Fin deployment.partitionCount), ∀ stored ∈ deployment.log.events,
      (worker deployment index).shouldProcessEvent stored = true := by
    intro index stored member
    rw [empty] at member
    exact absurd member List.not_mem_nil
  refine ⟨fun schedule index => progresses_of_every _ nonempty (every index) _,0,fun schedule _ => ?_⟩
  have each := fun index => drained_of_every _ nonempty (every index)
    (show deployment.log.events.length ≤ schedule.count index by rw [empty]; exact Nat.zero_le _)
  rw [empty] at each
  refine ⟨fun index => (each index).1,?_,fun index => ?_,fun first second event member => ?_⟩
  · rw [empty,List.flatMap_eq_nil_iff.mpr fun index _ => (each index).2]
  · rw [(each index).2]
    exact List.Pairwise.nil
  · rw [(each first).2] at member
    exact absurd member List.not_mem_nil

theorem advance_lt_last (nonempty : 1 ≤ deployment.batchSize) {index : Fin deployment.partitionCount}
    {last : StoredEvent Object} (ends : deployment.log.events.getLast? = some last)
    (foreign : (worker deployment index).shouldProcessEvent last = false) {view : Int × List (StoredEvent Object)}
    (before : view.1 < last.place) :
    ((worker deployment index).advance deployment.log.getEventsAfter view).1 < last.place := by
  rw [ProjectionWorker.advance]
  have page := deployment.log.serves view.1 (worker deployment index).batchSize nonempty
  split
  next => exact before
  next =>
    rcases (worker deployment index).processEventBatch_position view.1
      (deployment.log.getEventsAfter view.1 (worker deployment index).batchSize) with same | ⟨stored,member,own,placed⟩
    · exact same.trans_lt before
    · rw [page] at member
      have inLog := (mem_after.mp (List.mem_of_mem_take member)).1
      have differs : stored ≠ last := by
        rintro rfl
        rw [own] at foreign
        cases foreign
      have below := deployment.log.ordered.lt_of_getLast ends inLog differs
      rw [StoredEvent.place,placed,Option.getD_some] at below
      exact below

theorem iterate_lt_last (nonempty : 1 ≤ deployment.batchSize) {index : Fin deployment.partitionCount}
    {last : StoredEvent Object} (ends : deployment.log.events.getLast? = some last)
    (foreign : (worker deployment index).shouldProcessEvent last = false) (rounds : Nat) :
    (((worker deployment index).advance deployment.log.getEventsAfter)^[rounds] (0,[])).1 < last.place := by
  induction rounds with
  | zero => exact deployment.positive last (List.mem_of_getLast? ends)
  | succ rounds ih =>
    rw [Function.iterate_succ_apply']
    exact advance_lt_last deployment nonempty ends foreign ih

theorem not_covers_of_two (nonempty : 1 ≤ deployment.batchSize) (several : 2 ≤ deployment.partitionCount)
    (some : deployment.log.events ≠ []) : ¬ CoversTheLog deployment := by
  intro covers
  obtain ⟨last,ends⟩ := Option.ne_none_iff_exists'.mp (mt List.getLast?_eq_none_iff.mp some)
  obtain ⟨index,foreign⟩ : ∃ index : Fin deployment.partitionCount,
      (worker deployment index).shouldProcessEvent last = false := by
    by_cases owned : deployment.sha256 last.aggregateId % deployment.partitionCount = 0
    · exact ⟨⟨1,several⟩,by simp [worker,ProjectionWorker.shouldProcessEvent,shouldProcessEvent,owned]⟩
    · exact ⟨⟨0,by omega⟩,by simpa [worker,ProjectionWorker.shouldProcessEvent,shouldProcessEvent] using owned⟩
  have below := iterate_lt_last deployment nonempty ends foreign
  -- Progress in every round would carry the checkpoint past the last event.
  have climbs : ∀ rounds : Nat, (rounds : Int) ≤
      (((worker deployment index).advance deployment.log.getEventsAfter)^[rounds] (0,[])).1 := by
    intro rounds
    induction rounds with
    | zero => exact Int.le_refl 0
    | succ rounds ih =>
      have seen := view_reached deployment (List.replicate rounds index) index
      rw [List.count_replicate_self] at seen
      have next := view_step_own deployment (reached deployment (List.replicate rounds index)) index
      rw [seen,← Function.iterate_succ_apply' ((worker deployment index).advance deployment.log.getEventsAfter)] at next
      have here : checkpoint deployment (reached deployment (List.replicate rounds index)) index = _ :=
        congrArg Prod.fst seen
      have there : checkpoint deployment (step deployment (reached deployment (List.replicate rounds index)) index)
          index = _ := congrArg Prod.fst next
      have reads : fetched deployment (reached deployment (List.replicate rounds index)) index ≠ [] := by
        intro drained
        have member : last ∈ after StoredEvent.place deployment.log.events
            (checkpoint deployment (reached deployment (List.replicate rounds index)) index) :=
          mem_after.mpr ⟨List.mem_of_getLast? ends,here.trans_lt (below rounds)⟩
        rw [(deployment.log.page_eq_nil nonempty).mp drained] at member
        exact List.not_mem_nil member
      have moved := covers.progresses (List.replicate rounds index) index reads
      rw [here,there] at moved
      push_cast
      exact Int.add_one_le_of_lt (ih.trans_lt moved)
  have high := climbs last.place.toNat
  have low := below last.place.toNat
  omega

theorem covers_the_log_iff_one_worker_or_no_event (workers : 1 ≤ deployment.partitionCount)
    (nonempty : 1 ≤ deployment.batchSize) :
    CoversTheLog deployment ↔ deployment.partitionCount = 1 ∨ deployment.log.events = [] := by
  constructor
  · intro covers
    by_contra neither
    push Not at neither
    exact not_covers_of_two deployment nonempty (by omega) neither.2 covers
  · rintro (one | empty)
    · exact covers_of_one deployment nonempty one
    · exact covers_of_empty deployment nonempty empty

/-- Two workers over an event of the aggregate `a` and one of the aggregate `c`, with the
SHA-256 digests of these ids and one event a batch. -/
def pair : Deployment Unit where
  sha256 := fun aggregateId =>
    if aggregateId = "a" then 0xca978112ca1bbdcafac231b39a23dc4da786eff8147c4e72b9807785afee48bb
    else 0x2e7d2c03a9507ae265ecf5b5356885a53393a2029d241394997265a1a25aefc6
  projectionName := "orders"
  batchSize := 1
  partitionCount := 2
  log := EventLog.ofTable [plainModel "x" 1,{plainModel "y" 2 with aggregateId := "c"}] (by decide)
  positive := by decide

def firstWorker : Fin pair.partitionCount := ⟨0,by decide⟩

theorem covers_the_log_iff_one_worker_or_no_event_of_one :
    CoversTheLog {pair with partitionCount := 1} ↔ (1 = 1 ∨ pair.log.events = []) :=
  covers_the_log_iff_one_worker_or_no_event {pair with partitionCount := 1} (by decide) (by decide)

/-- The first worker fetches an event of the second one in every round, and never comes to its own. -/
theorem a_foreign_batch_stalls_the_worker :
    (∀ schedule, checkpoint pair (reached pair schedule) firstWorker = 0 ∧ (reached pair schedule).handed firstWorker = [] ∧
      fetched pair (reached pair schedule) firstWorker = [(plainModel "x" 1).toDataclass]) ∧
    ¬ CoversTheLog pair := by
  have fixed : (worker pair firstWorker).advance pair.log.getEventsAfter (0,[]) = (0,[]) := rfl
  have still : ∀ schedule, view pair (reached pair schedule) firstWorker = (0,[]) := by
    intro schedule
    rw [view_reached]
    exact Function.iterate_fixed fixed _
  have stalls : ∀ schedule, checkpoint pair (reached pair schedule) firstWorker = 0 ∧ (reached pair schedule).handed firstWorker = [] ∧
      fetched pair (reached pair schedule) firstWorker = [(plainModel "x" 1).toDataclass] := by
    intro schedule
    obtain ⟨position,handed⟩ := Prod.mk.inj (still schedule)
    refine ⟨position,handed,?_⟩
    rw [fetched,position]
    rfl
  refine ⟨stalls,fun covers => ?_⟩
  have moved := covers.progresses [] firstWorker (by rw [(stalls []).2.2]; exact List.cons_ne_nil _ _)
  have same := (stalls [firstWorker]).1
  rw [(stalls []).1] at moved
  exact absurd same (ne_of_gt moved)

end PartitionedProjectionWorker

end CqrsDdd.Projections
