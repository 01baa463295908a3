import CqrsDdd.EventStores.Pagination

/-! The advanced projection worker over the in-memory event store. A run streams the
events behind the saved position and commits each event's effect together with
its position; without a saved position it starts behind the position 0, which is
where the store puts its first event. -/
namespace CqrsDdd.Projections.Advanced

open EventStores Paging Generator

variable {Object : Type}

/-- The worker of one projection; `handled` tells the event types with a handler. -/
structure ProjectionWorker (Object : Type) where
  handled : String → Bool
  catchUp : Bool
  specification : Specification Object

/-- What a projection has: its saved position, the events whose effects are committed, and
the events its handlers have been called with. -/
structure Progress (Object : Type) where
  saved : Option Int
  committed : List (StoredEvent Object)
  invoked : List (StoredEvent Object)

namespace ProjectionWorker

variable (worker : ProjectionWorker Object)

def effect (event : StoredEvent Object) : List (StoredEvent Object) :=
  if worker.handled event.eventType then [event] else []

/-- The loop of `run` over the streamed events. An interrupted run raises at the event behind
the `interruptAt` first ones: its unit of work is rolled back, and the exception ends the run. -/
def consume : Option Nat → Progress Object → List (StoredEvent Object) → Progress Object
  | _, progress, [] => progress
  | interruptAt, progress, event::rest =>
    match event.position with
    | none => consume interruptAt progress rest
    | some position =>
      match interruptAt with
      | some 0 => {progress with invoked := progress.invoked ++ worker.effect event}
      | _ => consume (interruptAt.map (· - 1))
          {saved := some position, committed := progress.committed ++ worker.effect event,
           invoked := progress.invoked ++ worker.effect event} rest

/-- The position a run starts behind, saved first where the worker catches up. -/
def start (events : List (StoredEvent Object)) (progress : Progress Object) : Progress Object × Int :=
  if worker.catchUp = true ∧ progress.saved = none then
    match InMemoryEventStore.getLatestPosition events worker.specification with
    | some latest => ({progress with saved := some latest},latest)
    | none => (progress,0)
  else (progress,progress.saved.getD 0)

/-- The stream of a run; it ends within a turn more than there are events. -/
def streamed (events : List (StoredEvent Object)) (position : Int) : List (StoredEvent Object) :=
  match Generator.run (InMemoryEventStore.getEventsFromPosition events worker.specification none)
      (events.length + 1) position with
  | none => []
  | some (items,_) => items

def run (events : List (StoredEvent Object)) (interruptAt : Option Nat) (progress : Progress Object) :
    Progress Object :=
  let started := worker.start events progress
  worker.consume interruptAt started.1 (worker.streamed events started.2)

end ProjectionWorker

inductive Action (Object : Type)
  | append (call : InMemoryEventStore.Append Object)
  | run (interruptAt : Option Nat)

structure State (Object : Type) where
  events : List (StoredEvent Object)
  progress : Progress Object

def step (worker : ProjectionWorker Object) (state : State Object) : Action Object → State Object
  | .append call => {state with events := InMemoryEventStore.perform state.events call}
  | .run interruptAt => {state with progress := worker.run state.events interruptAt state.progress}

def Unpositioned : Action Object → Prop
  | .append call => InMemoryEventStore.Unpositioned call
  | .run _ => True

def initial : State Object := ⟨[],⟨none,[],[]⟩⟩

def caughtUp (worker : ProjectionWorker Object) (history : List (Action Object)) : State Object :=
  Transition.run (step worker) initial (history ++ [.run none])

def appends (history : List (Action Object)) : List (InMemoryEventStore.Append Object) :=
  history.filterMap fun action => match action with
    | .append call => some call
    | .run _ => none

def relevant (worker : ProjectionWorker Object) (state : State Object) : List (StoredEvent Object) :=
  InMemoryEventStore.getAll state.events worker.specification

def handledEvents (worker : ProjectionWorker Object) (events : List (StoredEvent Object)) : List (StoredEvent Object) :=
  events.filter fun event => worker.handled event.eventType

def due (worker : ProjectionWorker Object) (state : State Object) (position : Int) : List (StoredEvent Object) :=
  after StoredEvent.place (relevant worker state) position

/-- After any history and a run to the end, the effect of every event with a handler is committed
once, in append order, and the latest position is saved; without interruptions the handlers have
been called just so. -/
structure SeesEveryEvent (worker : ProjectionWorker Object) (history : List (Action Object)) : Prop where
  committed : (caughtUp worker history).progress.committed =
    handledEvents worker (relevant worker (caughtUp worker history))
  saved : (caughtUp worker history).progress.saved =
    InMemoryEventStore.getLatestPosition (caughtUp worker history).events worker.specification
  invoked : (∀ count, .run (some count) ∉ history) →
    (caughtUp worker history).progress.invoked = handledEvents worker (relevant worker (caughtUp worker history))

/-- The event at the position 0, if the projection is about it, has no handler and is not the only one. -/
def FirstEventSpared (worker : ProjectionWorker Object) (stored : List (StoredEvent Object)) : Prop :=
  (∀ event ∈ stored, event.position = some 0 → worker.handled event.eventType = false) ∧
    stored.map (·.position) ≠ [some 0]

/-- What a run can take of the stream before it is interrupted. -/
def taken (interruptAt : Option Nat) (items : List (StoredEvent Object)) : List (StoredEvent Object) :=
  interruptAt.elim items items.take

variable {worker : ProjectionWorker Object}

theorem effect_append (event : StoredEvent Object) (rest : List (StoredEvent Object)) :
    worker.effect event ++ handledEvents worker rest = handledEvents worker (event::rest) := by
  rw [ProjectionWorker.effect,handledEvents,handledEvents,List.filter_cons]
  split
  next => rfl
  next => rfl

theorem consume_eq (worker : ProjectionWorker Object) {items : List (StoredEvent Object)} (positioned : Positioned items) (interruptAt : Option Nat)
    (progress : Progress Object) :
    (worker.consume interruptAt progress items).saved =
        (((taken interruptAt items).getLast?.map StoredEvent.place).or progress.saved) ∧
      (worker.consume interruptAt progress items).committed =
        progress.committed ++ handledEvents worker (taken interruptAt items) ∧
      (interruptAt = none → (worker.consume interruptAt progress items).invoked =
        progress.invoked ++ handledEvents worker items) := by
  induction items generalizing interruptAt progress with
  | nil => cases interruptAt <;> simp [ProjectionWorker.consume,taken,handledEvents]
  | cons event rest ih =>
    have placed := positioned event List.mem_cons_self
    have others : Positioned rest := fun other member => positioned other (List.mem_cons_of_mem event member)
    have last : ∀ more : List (StoredEvent Object), ((event::more).getLast?.map StoredEvent.place) =
        (more.getLast?.map StoredEvent.place).or (some event.place) := by
      intro more
      cases more with
      | nil => rfl
      | cons other more =>
        rw [List.getLast?_cons_cons,List.getLast?_eq_some_getLast (List.cons_ne_nil other more)]
        rfl
    rcases interruptAt with _ | _ | count
    · obtain ⟨saved,committed,invoked⟩ := ih others none
        ⟨some event.place,progress.committed ++ worker.effect event,progress.invoked ++ worker.effect event⟩
      simp only [ProjectionWorker.consume,placed,Option.map_none,saved,committed,invoked rfl,taken,Option.elim_none]
      rw [last,List.append_assoc,List.append_assoc,effect_append]
      cases rest.getLast? <;> simp
    · simp [ProjectionWorker.consume,placed,taken,handledEvents]
    · obtain ⟨saved,committed,_⟩ := ih others (some count)
        ⟨some event.place,progress.committed ++ worker.effect event,progress.invoked ++ worker.effect event⟩
      simp only [ProjectionWorker.consume,placed,Option.map_some,Nat.add_sub_cancel,saved,committed,taken,
        Option.elim_some,List.take_succ_cons]
      rw [last,List.append_assoc,effect_append]
      cases (rest.take count).getLast? <;> simp

theorem streamed_eq {events : List (StoredEvent Object)} (indexed : InMemoryEventStore.Indexed events)
    (position : Int) : worker.streamed events position =
      after StoredEvent.place (InMemoryEventStore.getAll events worker.specification) position := by
  have positioned := indexed.getAll_positioned worker.specification
  have ended := streamFrom_run
    (InMemoryEventStore.serves_getAll indexed.positioned worker.specification)
    (InMemoryEventStore.getAll_lists indexed worker.specification).1 positioned 1000 (by decide) position
  have fewer : (after StoredEvent.place (InMemoryEventStore.getAll events worker.specification) position).length + 1 ≤
      events.length + 1 :=
    Nat.succ_le_succ ((List.length_filter_le _ _).trans (List.length_filter_le _ _))
  rw [ProjectionWorker.streamed,InMemoryEventStore.getEventsFromPosition,Option.getD_none,run_of_le ended fewer]

/-- The committed effects and those still due are the effects of all events behind the position 0. -/
structure Accounts (worker : ProjectionWorker Object) (state : State Object) : Prop where
  indexed : InMemoryEventStore.Indexed state.events
  saved : ∀ position, state.progress.saved = some position →
    0 < position ∧ ∃ event ∈ relevant worker state, event.place = position
  balance : state.progress.committed ++ handledEvents worker (due worker state (state.progress.saved.getD 0)) =
    handledEvents worker (due worker state 0)

theorem initial_accounts (worker : ProjectionWorker Object) : Accounts worker initial where
  indexed := fun i event found => by simp [initial] at found
  saved := fun position found => by cases found
  balance := rfl

theorem append_accounts {state : State Object} (accounts : Accounts worker state)
    {call : InMemoryEventStore.Append Object} (fresh : InMemoryEventStore.Unpositioned call) :
    Accounts worker (step worker state (.append call)) := by
  have indexed := InMemoryEventStore.perform_indexed accounts.indexed fresh
  obtain ⟨added,shape⟩ : ∃ added, InMemoryEventStore.perform state.events call = state.events ++ added :=
    ⟨_,InMemoryEventStore.perform_eq_appendBatch state.events call⟩
  have later : ∀ event ∈ added, (state.events.length : Int) ≤ event.place := by
    intro event member
    obtain ⟨i,found⟩ := List.mem_iff_getElem?.mp member
    have here : (state.events ++ added)[state.events.length + i]? = some event := by
      rw [List.getElem?_append_right (Nat.le_add_right _ _),Nat.add_sub_cancel_left]
      exact found
    have placed := indexed.place (shape ▸ here)
    omega
  have grown : relevant worker (step worker state (.append call)) = relevant worker state ++
      InMemoryEventStore.getAll added worker.specification := by
    rw [relevant,step,shape,InMemoryEventStore.getAll,List.filter_append]
    rfl
  refine ⟨indexed,fun position found => ?_,?_⟩
  · obtain ⟨above,event,member,placed⟩ := accounts.saved position found
    refine ⟨above,event,?_,placed⟩
    rw [grown]
    exact List.mem_append_left _ member
  · -- The new events lie behind the saved position as well as behind 0.
    have same : after StoredEvent.place (InMemoryEventStore.getAll added worker.specification)
        (state.progress.saved.getD 0) =
        after StoredEvent.place (InMemoryEventStore.getAll added worker.specification) 0 := by
      cases found : state.progress.saved with
      | none => rfl
      | some position =>
        obtain ⟨above,event,member,placed⟩ := accounts.saved position found
        obtain ⟨i,at_⟩ := List.mem_iff_getElem?.mp (List.mem_of_mem_filter member)
        have index := accounts.indexed.place at_
        have bound := (List.getElem?_eq_some_iff.mp at_).1
        refine List.filter_congr fun other present => ?_
        have behind := later other (List.mem_of_mem_filter present)
        rw [Option.getD_some]
        have one : position < other.place := by omega
        have zero : 0 < other.place := by omega
        rw [decide_eq_true one,decide_eq_true zero]
    have before := accounts.balance
    simp only [due,handledEvents] at before
    simp only [due,grown,handledEvents,after,List.filter_append]
    show _ ++ (_ ++ List.filter _ (after StoredEvent.place _ (state.progress.saved.getD 0))) = _
    rw [same,← List.append_assoc]
    exact congrArg (· ++ _) before

theorem taken_eq_take (interruptAt : Option Nat) (items : List (StoredEvent Object)) :
    ∃ size, taken interruptAt items = items.take size := by
  cases interruptAt with
  | none => exact ⟨items.length,List.take_length.symm⟩
  | some count => exact ⟨count,rfl⟩

theorem run_eq_consume {state : State Object} (accounts : Accounts worker state) (replays : worker.catchUp = false)
    (interruptAt : Option Nat) : worker.run state.events interruptAt state.progress =
      worker.consume interruptAt state.progress (due worker state (state.progress.saved.getD 0)) := by
  have started : worker.start state.events state.progress = (state.progress,state.progress.saved.getD 0) := by
    simp [ProjectionWorker.start,replays]
  rw [ProjectionWorker.run,started,streamed_eq accounts.indexed]
  rfl

theorem due_positioned {state : State Object} (accounts : Accounts worker state) (position : Int) :
    Positioned (due worker state position) :=
  fun event member => accounts.indexed.positioned event (List.mem_of_mem_filter (mem_after.mp member).1)

theorem relevant_increasing {state : State Object} (accounts : Accounts worker state) :
    Increasing StoredEvent.place (relevant worker state) :=
  (InMemoryEventStore.getAll_lists accounts.indexed worker.specification).1

theorem run_accounts {state : State Object} (accounts : Accounts worker state) (replays : worker.catchUp = false)
    (interruptAt : Option Nat) : Accounts worker (step worker state (.run interruptAt)) := by
  obtain ⟨saved,committed,_⟩ := consume_eq worker
    (due_positioned accounts (state.progress.saved.getD 0)) interruptAt state.progress
  rw [← run_eq_consume accounts replays] at saved committed
  obtain ⟨size,page⟩ := taken_eq_take interruptAt (due worker state (state.progress.saved.getD 0))
  rw [page] at saved committed
  refine ⟨accounts.indexed,fun position found => ?_,?_⟩
  · cases ends : ((due worker state (state.progress.saved.getD 0)).take size).getLast? with
    | none =>
      rw [ends] at saved
      exact accounts.saved position (saved.symm.trans found)
    | some last =>
      rw [ends] at saved
      obtain rfl : last.place = position := Option.some.inj (saved.symm.trans found)
      have member := mem_after.mp (List.mem_of_mem_take (List.mem_of_getLast? ends))
      refine ⟨?_,last,member.1,rfl⟩
      have behind := member.2
      cases known : state.progress.saved with
      | none => simpa [known] using behind
      | some old =>
        have above := (accounts.saved old known).1
        rw [known,Option.getD_some] at behind
        omega
  · show (worker.run state.events interruptAt state.progress).committed ++ handledEvents worker (due worker state
      ((worker.run state.events interruptAt state.progress).saved.getD 0)) = handledEvents worker (due worker state 0)
    rw [saved,committed,← accounts.balance,List.append_assoc]
    refine congrArg (state.progress.committed ++ ·) ?_
    cases ends : ((due worker state (state.progress.saved.getD 0)).take size).getLast? with
    | none =>
      rw [List.getLast?_eq_none_iff.mp ends]
      rfl
    | some last =>
      obtain ⟨_,_,splits⟩ := (relevant_increasing accounts).page ends
      rw [Option.map_some,Option.some_or,Option.getD_some,handledEvents,handledEvents,← List.filter_append]
      exact congrArg (List.filter _) splits.symm

theorem history_accounts (replays : worker.catchUp = false) {history : List (Action Object)}
    (fresh : ∀ action ∈ history, Unpositioned action) :
    Accounts worker (Transition.run (step worker) initial history) := by
  refine Transition.run_invariant (Accounts worker) (fun state action accounts positionless => ?_) initial history
    (initial_accounts worker) (Transition.meets_of_mem initial fresh)
  cases action with
  | append call => exact append_accounts accounts positionless
  | run interruptAt => exact run_accounts accounts replays interruptAt

theorem drained_after_run {state : State Object} (accounts : Accounts worker state) (replays : worker.catchUp = false) :
    due worker state ((step worker state (.run none)).progress.saved.getD 0) = [] := by
  obtain ⟨saved,_,_⟩ := consume_eq worker
    (due_positioned accounts (state.progress.saved.getD 0)) none state.progress
  rw [← run_eq_consume accounts replays] at saved
  show due worker state ((worker.run state.events none state.progress).saved.getD 0) = []
  rw [saved]
  have whole : taken none (due worker state (state.progress.saved.getD 0)) =
      (due worker state (state.progress.saved.getD 0)).take (due worker state (state.progress.saved.getD 0)).length :=
    List.take_length.symm
  cases ends : (taken none (due worker state (state.progress.saved.getD 0))).getLast? with
  | none => exact List.getLast?_eq_none_iff.mp ends
  | some last =>
    rw [whole] at ends
    obtain ⟨_,_,splits⟩ := (relevant_increasing accounts).page ends
    have lengths := congrArg List.length splits
    rw [List.length_append,List.length_take] at lengths
    exact List.length_eq_zero_iff.mp (by
      rw [Option.map_some,Option.some_or,Option.getD_some]
      change (after StoredEvent.place (relevant worker state) last.place).length = 0
      change (due worker state _).length = min (due worker state _).length (due worker state _).length + _ at lengths
      omega)

theorem run_events (history : List (Action Object)) (state : State Object) :
    (Transition.run (step worker) state history).events =
      Transition.run InMemoryEventStore.perform state.events (appends history) := by
  induction history generalizing state with
  | nil => rfl
  | cons action rest ih =>
    rw [Transition.run_cons,ih]
    cases action with
    | append call => rfl
    | run interruptAt => rfl

theorem caughtUp_events (worker : ProjectionWorker Object) (history : List (Action Object)) :
    (caughtUp worker history).events = InMemoryEventStore.contents (appends history) := by
  rw [caughtUp,run_events,appends,List.filterMap_append]
  simp [InMemoryEventStore.contents,initial,appends]

theorem latest_eq_some {events : List (StoredEvent Object)} {specification : Specification Object}
    (positioned : Positioned (InMemoryEventStore.getAll events specification)) {event : StoredEvent Object}
    (member : event ∈ InMemoryEventStore.getAll events specification)
    (greatest : ∀ other ∈ InMemoryEventStore.getAll events specification, other.place ≤ event.place) :
    InMemoryEventStore.getLatestPosition events specification = some event.place := by
  have some_ : (events.filter (satisfied specification)).isEmpty = false :=
    List.isEmpty_eq_false_iff_exists_mem.mpr ⟨event,member⟩
  have largest : ((events.filter (satisfied specification)).filterMap (·.position)).max? = some event.place := by
    refine List.max?_eq_some_iff.mpr ⟨List.mem_filterMap.mpr ⟨event,member,positioned event member⟩,fun position found => ?_⟩
    obtain ⟨other,present,placed⟩ := List.mem_filterMap.mp found
    rw [positioned other present] at placed
    exact Option.some.inj placed ▸ greatest other present
  simp only [InMemoryEventStore.getLatestPosition,some_,Bool.false_eq_true,if_false,largest]

theorem saved_eq_latest_iff {state : State Object} (accounts : Accounts worker state)
    (drained : due worker state (state.progress.saved.getD 0) = []) :
    state.progress.saved = InMemoryEventStore.getLatestPosition state.events worker.specification ↔
      (relevant worker state).map (·.position) ≠ [some 0] := by
  have positioned : Positioned (relevant worker state) := accounts.indexed.getAll_positioned worker.specification
  have low : ∀ event ∈ relevant worker state, event.place ≤ state.progress.saved.getD 0 := by
    intro event member
    by_contra above
    have still : event ∈ due worker state (state.progress.saved.getD 0) := mem_after.mpr ⟨member,not_le.mp above⟩
    rw [drained] at still
    exact List.not_mem_nil still
  cases found : state.progress.saved with
  | some position =>
    obtain ⟨above,event,member,rfl⟩ := accounts.saved position found
    rw [found,Option.getD_some] at low
    have latest := latest_eq_some positioned member low
    refine ⟨fun _ only => ?_,fun _ => latest.symm⟩
    have placed : event.position ∈ (relevant worker state).map (·.position) := List.mem_map.mpr ⟨event,member,rfl⟩
    rw [only,List.mem_singleton,positioned event member] at placed
    have zero := Option.some.inj placed
    omega
  | none =>
    rw [found,Option.getD_none] at low
    cases shape : relevant worker state with
    | nil =>
      have empty : state.events.filter (satisfied worker.specification) = [] := shape
      simp [InMemoryEventStore.getLatestPosition,empty]
    | cons event rest =>
      have member : event ∈ relevant worker state := shape ▸ List.mem_cons_self
      obtain ⟨i,stored⟩ := List.mem_iff_getElem?.mp (List.mem_of_mem_filter member)
      have zero : event.place = 0 := by
        have index := accounts.indexed.place stored
        have bound := low event member
        omega
      have alone : rest = [] := by
        refine List.eq_nil_iff_forall_not_mem.mpr fun other later => ?_
        have ordered := relevant_increasing accounts
        rw [shape] at ordered
        have up := List.rel_of_pairwise_cons ordered later
        have bound := low other (shape ▸ List.mem_cons_of_mem event later)
        omega
      have latest := latest_eq_some positioned member (fun other present => (low other present).trans zero.ge)
      have placed := positioned event member
      rw [latest,alone,List.map_singleton,placed,zero]
      simp

theorem invoked_eq_committed (replays : worker.catchUp = false) {history : List (Action Object)}
    (fresh : ∀ action ∈ history, Unpositioned action) (whole : ∀ count, .run (some count) ∉ history) :
    (Transition.run (step worker) initial history).progress.invoked =
      (Transition.run (step worker) initial history).progress.committed := by
  have kept := @Transition.run_invariant _ _ (step worker)
    (fun _ action => Unpositioned action ∧ ∀ count, action ≠ .run (some count))
    (fun state => Accounts worker state ∧ state.progress.invoked = state.progress.committed)
    (fun state action before allowed => ?_) initial history ⟨initial_accounts worker,rfl⟩
    (Transition.meets_of_mem initial fun action member =>
      ⟨fresh action member,fun count same => whole count (same ▸ member)⟩)
  · exact kept.2
  · obtain ⟨accounts,same⟩ := before
    cases action with
    | append call => exact ⟨append_accounts accounts allowed.1,same⟩
    | run interruptAt =>
      refine ⟨run_accounts accounts replays interruptAt,?_⟩
      cases interruptAt with
      | some count => exact absurd rfl (allowed.2 count)
      | none =>
        obtain ⟨_,committed,invoked⟩ := consume_eq worker
          (due_positioned accounts (state.progress.saved.getD 0)) none state.progress
        show (worker.run state.events none state.progress).invoked =
          (worker.run state.events none state.progress).committed
        rw [run_eq_consume accounts replays,invoked rfl,committed,same]
        rfl

theorem handled_due_eq_iff {state : State Object} (accounts : Accounts worker state) :
    handledEvents worker (due worker state 0) = handledEvents worker (relevant worker state) ↔
      ∀ event ∈ relevant worker state, event.position = some 0 → worker.handled event.eventType = false := by
  have positioned : Positioned (relevant worker state) := accounts.indexed.getAll_positioned worker.specification
  constructor
  · intro same event member first
    cases verdict : worker.handled event.eventType with
    | false => rfl
    | true =>
      have listed : event ∈ handledEvents worker (relevant worker state) := List.mem_filter.mpr ⟨member,verdict⟩
      rw [← same] at listed
      have above := (mem_after.mp (List.mem_of_mem_filter listed)).2
      rw [StoredEvent.place,first,Option.getD_some] at above
      exact absurd above (lt_irrefl 0)
  · intro spared
    rw [handledEvents,handledEvents,due,after,List.filter_filter]
    refine List.filter_congr fun event member => ?_
    obtain ⟨i,stored⟩ := List.mem_iff_getElem?.mp (List.mem_of_mem_filter member)
    have index := accounts.indexed.place stored
    by_cases zero : event.place = 0
    · rw [spared event member ((positioned event member).trans (congrArg some zero)),Bool.false_and]
    · rw [decide_eq_true (by omega),Bool.and_true]

theorem sees_every_event_iff_first_spared (worker : ProjectionWorker Object) (replays : worker.catchUp = false)
    (history : List (Action Object)) (fresh : ∀ action ∈ history, Unpositioned action) :
    SeesEveryEvent worker history ↔ FirstEventSpared worker
      (InMemoryEventStore.getAll (InMemoryEventStore.contents (appends history)) worker.specification) := by
  have whole : ∀ action ∈ history ++ [.run none], Unpositioned action := by
    intro action member
    rcases List.mem_append.mp member with old | last
    · exact fresh action old
    · rw [List.mem_singleton.mp last]
      trivial
  have accounts : Accounts worker (caughtUp worker history) := history_accounts replays whole
  have drained : due worker (caughtUp worker history) ((caughtUp worker history).progress.saved.getD 0) = [] := by
    have before := drained_after_run (history_accounts replays fresh) replays
    rw [caughtUp,Transition.run_append]
    exact before
  have committed := accounts.balance
  rw [drained,handledEvents,List.filter_nil,List.append_nil] at committed
  rw [← caughtUp_events worker history]
  constructor
  · intro sees
    refine ⟨(handled_due_eq_iff accounts).mp (committed.symm.trans sees.committed),?_⟩
    exact (saved_eq_latest_iff accounts drained).mp sees.saved
  · rintro ⟨spared,several⟩
    have every := committed.trans ((handled_due_eq_iff accounts).mpr spared)
    refine ⟨every,(saved_eq_latest_iff accounts drained).mpr several,fun uninterrupted => ?_⟩
    refine (invoked_eq_committed replays whole fun count member => ?_).trans every
    rcases List.mem_append.mp member with old | last
    · exact uninterrupted count old
    · cases List.mem_singleton.mp last

theorem sees_every_event_iff_first_spared_of_two :
    SeesEveryEvent (⟨fun eventType => eventType == "E",false,none⟩ : ProjectionWorker Unit)
      [.append (.append ⟨{plainEvent "x" with eventType := "Opened"},none,none⟩),.run (some 0),
        .append (.append ⟨plainEvent "y",none,none⟩)] ↔
    FirstEventSpared (⟨fun eventType => eventType == "E",false,none⟩ : ProjectionWorker Unit)
      (InMemoryEventStore.getAll (InMemoryEventStore.contents
        [.append ⟨{plainEvent "x" with eventType := "Opened"},none,none⟩,.append ⟨plainEvent "y",none,none⟩]) none) :=
  sees_every_event_iff_first_spared _ rfl _ (by simp [Unpositioned,InMemoryEventStore.Unpositioned,
    InMemoryEventStore.Append.events])

/-- One event is appended and one run is made: its handler is not called and nothing is saved. -/
theorem the_first_event_is_not_projected :
    (caughtUp (⟨fun _ => true,false,none⟩ : ProjectionWorker Unit) [.append (.append ⟨plainEvent "x",none,none⟩)]).progress =
      ⟨none,[],[]⟩ ∧
    ¬ SeesEveryEvent (⟨fun _ => true,false,none⟩ : ProjectionWorker Unit)
      [.append (.append ⟨plainEvent "x",none,none⟩)] := by
  have nothing : (caughtUp (⟨fun _ => true,false,none⟩ : ProjectionWorker Unit)
      [.append (.append ⟨plainEvent "x",none,none⟩)]).progress = ⟨none,[],[]⟩ := rfl
  refine ⟨nothing,fun sees => ?_⟩
  have committed := sees.committed
  rw [nothing] at committed
  exact absurd committed (List.cons_ne_nil _ _).symm

end CqrsDdd.Projections.Advanced
