import CqrsDdd.Transition
import Mathlib.Data.Finset.Card
import Mathlib.Data.Finset.Max
import Mathlib.Logic.Function.Basic

/-! Nested dispatch on one event dispatcher. A handler keeps its permit of the
semaphore while it waits for the handlers of the events it dispatches itself, and
those need permits of the same semaphore: the dispatcher stands still as soon as
all permits are kept that way. -/
namespace CqrsDdd.Events

/-- What is left of a handler: it is done, with an exception or not, or it dispatches events,
each with its handlers, and goes on by whether the dispatch returns or raises. -/
inductive Code
  | done (raised : Bool)
  | dispatch (events : List (List Code)) (returned raised : Code)

/-- A task waits for a permit, runs, waits in `gather` for its children, or is finished. -/
inductive TaskState
  | waiting (code : Code)
  | running (code : Code)
  | gathering (children : List Nat) (returned raised : Code)
  | finished (raised : Bool)

/-- The root tasks call `dispatch` from outside of the handlers and need no permit. -/
structure Task where
  root : Bool
  state : TaskState

def Task.holds (task : Task) : Bool :=
  match task.state with
  | .running _ | .gathering _ _ _ => !task.root
  | .waiting _ | .finished _ => false

def TaskState.outcome : TaskState → Option Bool
  | .finished raised => some raised
  | .waiting _ | .running _ | .gathering _ _ _ => none

structure EventDispatcher where
  count : Nat
  task : Nat → Task

namespace EventDispatcher

def start (roots : List (List (List Code))) : EventDispatcher :=
  ⟨roots.length,fun id => ⟨true,.running (.dispatch (roots[id]?.getD []) (.done false) (.done true))⟩⟩

def holders (dispatcher : EventDispatcher) : Finset Nat :=
  (Finset.range dispatcher.count).filter fun id => (dispatcher.task id).holds

def setState (dispatcher : EventDispatcher) (id : Nat) (state : TaskState) : EventDispatcher :=
  {dispatcher with task := Function.update dispatcher.task id {dispatcher.task id with state := state}}

/-- `gather` raises with the first child that raises, and leaves the others running. -/
def gathered (dispatcher : EventDispatcher) (children : List Nat) : Option Bool :=
  if children.any fun child => (dispatcher.task child).state.outcome = some true then some true
  else if children.all fun child => (dispatcher.task child).state.outcome.isSome then some false
  else none

def spawn (dispatcher : EventDispatcher) (id : Nat) (handlers : List Code) (returned raised : Code) : EventDispatcher :=
  let waiting := dispatcher.setState id (.gathering (List.range' dispatcher.count handlers.length) returned raised)
  { count := dispatcher.count+handlers.length
    task := fun child => if child < dispatcher.count then waiting.task child
      else ⟨false,.waiting (handlers[child-dispatcher.count]?.getD (.done false))⟩ }

/-- One step of a task. An event without handlers is passed over. -/
def step (maxConcurrency : Nat) (dispatcher : EventDispatcher) (id : Nat) : EventDispatcher :=
  if id < dispatcher.count then
    match (dispatcher.task id).state with
    | .waiting code =>
      if dispatcher.holders.card < maxConcurrency then dispatcher.setState id (.running code) else dispatcher
    | .running (.done raised) => dispatcher.setState id (.finished raised)
    | .running (.dispatch [] returned _) => dispatcher.setState id (.running returned)
    | .running (.dispatch ([]::rest) returned raised) =>
      dispatcher.setState id (.running (.dispatch rest returned raised))
    | .running (.dispatch ((handler::others)::rest) returned raised) =>
      dispatcher.spawn id (handler::others) (.dispatch rest returned raised) raised
    | .gathering children returned raised =>
      match dispatcher.gathered children with
      | none => dispatcher
      | some false => dispatcher.setState id (.running returned)
      | some true => dispatcher.setState id (.running raised)
    | .finished _ => dispatcher
  else dispatcher

/-- The handler keeps its permit while it waits for others. -/
def blocked (dispatcher : EventDispatcher) (id : Nat) : Bool :=
  match (dispatcher.task id).state with
  | .gathering children _ _ => !(dispatcher.task id).root && (dispatcher.gathered children).isNone
  | .waiting _ | .running _ | .finished _ => false

def blockedOnes (dispatcher : EventDispatcher) : Finset Nat :=
  (Finset.range dispatcher.count).filter fun id => dispatcher.blocked id

def Unfinished (dispatcher : EventDispatcher) (id : Nat) : Prop :=
  id < dispatcher.count ∧ (dispatcher.task id).root = false ∧ (dispatcher.task id).state.outcome = none

/-- There are unfinished handlers, and each of them waits for a permit: for its own, while
none is free, or for those of the handlers it waits for. -/
def Deadlocked (maxConcurrency : Nat) (dispatcher : EventDispatcher) : Prop :=
  (∃ id, dispatcher.Unfinished id) ∧ ∀ id, dispatcher.Unfinished id →
    ((∃ code, (dispatcher.task id).state = .waiting code) ∧ maxConcurrency ≤ dispatcher.holders.card) ∨
      dispatcher.blocked id = true

/-- A handler starts a nested dispatch only while another permit is not kept by a blocked handler. -/
def Spare (maxConcurrency : Nat) (dispatcher : EventDispatcher) (id : Nat) : Prop :=
  ∀ handler others rest returned raised, id < dispatcher.count → (dispatcher.task id).root = false →
    (dispatcher.task id).state = .running (.dispatch ((handler::others)::rest) returned raised) →
    dispatcher.blockedOnes.card+1 < maxConcurrency

@[simp] theorem setState_count (dispatcher : EventDispatcher) (id : Nat) (state : TaskState) :
    (dispatcher.setState id state).count = dispatcher.count := rfl

theorem setState_self (dispatcher : EventDispatcher) (id : Nat) (state : TaskState) :
    (dispatcher.setState id state).task id = ⟨(dispatcher.task id).root,state⟩ := Function.update_self ..

theorem setState_other {dispatcher : EventDispatcher} {id other : Nat} {state : TaskState} (differs : other ≠ id) :
    (dispatcher.setState id state).task other = dispatcher.task other := Function.update_of_ne differs _ _

theorem spawn_self {dispatcher : EventDispatcher} {id : Nat} {handlers : List Code} {returned raised : Code}
    (known : id < dispatcher.count) : (dispatcher.spawn id handlers returned raised).task id =
      ⟨(dispatcher.task id).root,.gathering (List.range' dispatcher.count handlers.length) returned raised⟩ := by
  simp only [spawn,if_pos known,setState_self]

theorem spawn_other {dispatcher : EventDispatcher} {id other : Nat} {handlers : List Code} {returned raised : Code}
    (known : other < dispatcher.count) (differs : other ≠ id) :
    (dispatcher.spawn id handlers returned raised).task other = dispatcher.task other := by
  simp only [spawn,if_pos known,setState_other differs]

theorem spawned (dispatcher : EventDispatcher) (id : Nat) (handlers : List Code) (returned raised : Code) (other : Nat)
    (new : dispatcher.count ≤ other) :
    ∃ code, (dispatcher.spawn id handlers returned raised).task other = ⟨false,.waiting code⟩ :=
  ⟨handlers[other-dispatcher.count]?.getD (.done false),by simp only [spawn,if_neg (Nat.not_lt.mpr new)]⟩

/-- Everything a step can do: nothing; a task takes a permit; a task goes on or finishes; a task dispatches an event. -/
theorem step_cases (maxConcurrency : Nat) (dispatcher : EventDispatcher) (id : Nat) :
    dispatcher.step maxConcurrency id = dispatcher ∨ id < dispatcher.count ∧
      ((∃ code, (dispatcher.task id).state = .waiting code ∧ dispatcher.holders.card < maxConcurrency ∧
          dispatcher.step maxConcurrency id = dispatcher.setState id (.running code)) ∨
        (∃ state, (∀ children returned raised, state ≠ .gathering children returned raised) ∧
          ((dispatcher.task id).root = false → (dispatcher.task id).holds = true) ∧
          (dispatcher.task id).state.outcome = none ∧
          dispatcher.step maxConcurrency id = dispatcher.setState id state) ∨
        ∃ handler others rest returned raised,
          (dispatcher.task id).state = .running (.dispatch ((handler::others)::rest) returned raised) ∧
          dispatcher.step maxConcurrency id =
            dispatcher.spawn id (handler::others) (.dispatch rest returned raised) raised) := by
  by_cases known : id < dispatcher.count
  · simp only [step,if_pos known]
    have goes (state : TaskState) (plain : ∀ children returned raised, state ≠ .gathering children returned raised)
        (active : (∃ code, (dispatcher.task id).state = .running code) ∨
          ∃ children returned raised, (dispatcher.task id).state = .gathering children returned raised) :
        (∀ children returned raised, state ≠ .gathering children returned raised) ∧
          ((dispatcher.task id).root = false → (dispatcher.task id).holds = true) ∧
          (dispatcher.task id).state.outcome = none := by
      refine ⟨plain,fun handler => ?_,?_⟩
      · rcases active with ⟨code,now⟩ | ⟨children,returned,raised,now⟩ <;> simp [Task.holds,now,handler]
      · rcases active with ⟨code,now⟩ | ⟨children,returned,raised,now⟩ <;> simp [TaskState.outcome,now]
    cases now : (dispatcher.task id).state with
    | waiting code =>
      by_cases free : dispatcher.holders.card < maxConcurrency
      · exact .inr ⟨known,.inl ⟨code,rfl,free,by simp [free]⟩⟩
      · exact .inl (by simp [free])
    | finished raised => exact .inl rfl
    | gathering children returned raised =>
      cases result : dispatcher.gathered children with
      | none => exact .inl (by simp [result])
      | some failed =>
        obtain ⟨plain,holds,unfinished⟩ := goes (.running (if failed then raised else returned))
          (fun _ _ _ same => by cases same) (.inr ⟨children,returned,raised,now⟩)
        refine .inr ⟨known,.inr (.inl ⟨_,plain,holds,now ▸ unfinished,?_⟩)⟩
        cases failed <;> simp [result]
    | running code =>
      cases code with
      | done raised =>
        obtain ⟨plain,holds,unfinished⟩ := goes (.finished raised) (fun _ _ _ same => by cases same) (.inl ⟨_,now⟩)
        exact .inr ⟨known,.inr (.inl ⟨_,plain,holds,now ▸ unfinished,rfl⟩)⟩
      | dispatch events returned raised =>
        cases events with
        | nil =>
          obtain ⟨plain,holds,unfinished⟩ := goes (.running returned) (fun _ _ _ same => by cases same) (.inl ⟨_,now⟩)
          exact .inr ⟨known,.inr (.inl ⟨_,plain,holds,now ▸ unfinished,rfl⟩)⟩
        | cons handlers rest =>
          cases handlers with
          | nil =>
            obtain ⟨plain,holds,unfinished⟩ := goes (.running (.dispatch rest returned raised))
              (fun _ _ _ same => by cases same) (.inl ⟨_,now⟩)
            exact .inr ⟨known,.inr (.inl ⟨_,plain,holds,now ▸ unfinished,rfl⟩)⟩
          | cons handler others =>
            exact .inr ⟨known,.inr (.inr ⟨handler,others,rest,returned,raised,rfl,rfl⟩)⟩
  · exact .inl (by simp only [step,if_neg known])

structure Wellformed (maxConcurrency : Nat) (dispatcher : EventDispatcher) : Prop where
  bounded : dispatcher.holders.card ≤ maxConcurrency
  children : ∀ id children returned raised, id < dispatcher.count →
    (dispatcher.task id).state = .gathering children returned raised → ∀ child ∈ children,
      id < child ∧ child < dispatcher.count ∧ (dispatcher.task child).root = false

theorem mem_holders {dispatcher : EventDispatcher} {id : Nat} :
    id ∈ dispatcher.holders ↔ id < dispatcher.count ∧ (dispatcher.task id).holds = true := by
  simp [holders]

theorem mem_blockedOnes {dispatcher : EventDispatcher} {id : Nat} :
    id ∈ dispatcher.blockedOnes ↔ id < dispatcher.count ∧ dispatcher.blocked id = true := by
  simp [blockedOnes]

theorem blocked_iff {dispatcher : EventDispatcher} {id : Nat} :
    dispatcher.blocked id = true ↔ (dispatcher.task id).root = false ∧ ∃ children returned raised,
      (dispatcher.task id).state = .gathering children returned raised ∧ dispatcher.gathered children = none := by
  unfold blocked
  cases now : (dispatcher.task id).state <;> simp

theorem holds_of_blocked {dispatcher : EventDispatcher} {id : Nat} (stuck : dispatcher.blocked id = true) :
    (dispatcher.task id).holds = true := by
  obtain ⟨handler,children,returned,raised,now,_⟩ := blocked_iff.mp stuck
  simp [Task.holds,now,handler]

theorem gathered_none_of_later {dispatcher after : EventDispatcher} {children : List Nat}
    (kept : ∀ child ∈ children, ∀ raised, (dispatcher.task child).state.outcome = some raised →
      (after.task child).state.outcome = some raised)
    (still : after.gathered children = none) : dispatcher.gathered children = none := by
  unfold gathered at still ⊢
  split at still
  next => cases still
  next unraised =>
    split at still
    next => cases still
    next unfinished =>
      rw [if_neg,if_neg]
      · intro all
        refine unfinished (List.all_eq_true.mpr fun child member => ?_)
        obtain ⟨raised,ended⟩ := Option.isSome_iff_exists.mp (List.all_eq_true.mp all child member)
        rw [kept child member raised ended]
        rfl
      · intro any
        obtain ⟨child,member,failed⟩ := List.any_eq_true.mp any
        refine unraised (List.any_eq_true.mpr ⟨child,member,?_⟩)
        simpa using kept child member true (by simpa using failed)

theorem step_count (maxConcurrency : Nat) (dispatcher : EventDispatcher) (id : Nat) :
    dispatcher.count ≤ (dispatcher.step maxConcurrency id).count := by
  rcases dispatcher.step_cases maxConcurrency id with
    same | ⟨_,⟨code,_,_,same⟩ | ⟨state,_,_,_,same⟩ | ⟨handler,others,rest,returned,raised,_,same⟩⟩ <;>
    simp [same,spawn]

theorem step_other {maxConcurrency : Nat} {dispatcher : EventDispatcher} {id other : Nat}
    (known : other < dispatcher.count) (differs : other ≠ id) :
    (dispatcher.step maxConcurrency id).task other = dispatcher.task other := by
  rcases dispatcher.step_cases maxConcurrency id with
    same | ⟨here,⟨code,_,_,same⟩ | ⟨state,_,_,_,same⟩ | ⟨handler,others,rest,returned,raised,_,same⟩⟩
  · rw [same]
  · rw [same,setState_other differs]
  · rw [same,setState_other differs]
  · rw [same,spawn_other known differs]

theorem step_root {maxConcurrency : Nat} {dispatcher : EventDispatcher} {id other : Nat}
    (known : other < dispatcher.count) :
    ((dispatcher.step maxConcurrency id).task other).root = (dispatcher.task other).root := by
  by_cases self : other = id
  · subst self
    rcases dispatcher.step_cases maxConcurrency other with
      same | ⟨here,⟨code,_,_,same⟩ | ⟨state,_,_,_,same⟩ | ⟨handler,others,rest,returned,raised,_,same⟩⟩
    · rw [same]
    · rw [same,setState_self]
    · rw [same,setState_self]
    · rw [same,spawn_self here]
  · rw [step_other known self]

theorem step_finished {maxConcurrency : Nat} {dispatcher : EventDispatcher} {id : Nat} {raised : Bool}
    (ended : (dispatcher.task id).state.outcome = some raised) : dispatcher.step maxConcurrency id = dispatcher := by
  rcases dispatcher.step_cases maxConcurrency id with
    same | ⟨_,⟨code,now,_,_⟩ | ⟨state,_,_,unfinished,_⟩ | ⟨handler,others,rest,returned,failed,now,_⟩⟩
  · exact same
  · simp [now,TaskState.outcome] at ended
  · rw [unfinished] at ended
    cases ended
  · simp [now,TaskState.outcome] at ended

theorem step_outcome {maxConcurrency : Nat} {dispatcher : EventDispatcher} {id other : Nat} {raised : Bool}
    (known : other < dispatcher.count) (ended : (dispatcher.task other).state.outcome = some raised) :
    ((dispatcher.step maxConcurrency id).task other).state.outcome = some raised := by
  by_cases self : other = id
  · subst self
    rwa [step_finished ended]
  · rwa [step_other known self]

theorem blocked_of_step {maxConcurrency : Nat} {dispatcher : EventDispatcher} {id other : Nat}
    (wellformed : Wellformed maxConcurrency dispatcher) (known : other < dispatcher.count) (differs : other ≠ id)
    (stuck : (dispatcher.step maxConcurrency id).blocked other = true) : dispatcher.blocked other = true := by
  obtain ⟨handler,children,returned,raised,now,still⟩ := blocked_iff.mp stuck
  rw [step_other known differs] at handler now
  refine blocked_iff.mpr ⟨handler,children,returned,raised,now,gathered_none_of_later ?_ still⟩
  intro child member outcome ended
  exact step_outcome (wellformed.children other children returned raised known now child member).2.1 ended

theorem step_new {maxConcurrency : Nat} {dispatcher : EventDispatcher} {id other : Nat}
    (new : dispatcher.count ≤ other) (known : other < (dispatcher.step maxConcurrency id).count) :
    ∃ code, (dispatcher.step maxConcurrency id).task other = ⟨false,.waiting code⟩ := by
  rcases dispatcher.step_cases maxConcurrency id with
    same | ⟨_,⟨code,_,_,same⟩ | ⟨state,_,_,_,same⟩ | ⟨handler,others,rest,returned,raised,_,same⟩⟩
  · rw [same] at known
    omega
  · rw [same,setState_count] at known
    omega
  · rw [same,setState_count] at known
    omega
  · rw [same]
    exact dispatcher.spawned id (handler::others) (.dispatch rest returned raised) raised other new

theorem holders_of_step {maxConcurrency : Nat} {dispatcher : EventDispatcher} {id other : Nat} (differs : other ≠ id)
    (member : other ∈ (dispatcher.step maxConcurrency id).holders) : other ∈ dispatcher.holders := by
  obtain ⟨known,holds⟩ := mem_holders.mp member
  by_cases old : other < dispatcher.count
  · rw [step_other old differs] at holds
    exact mem_holders.mpr ⟨old,holds⟩
  · obtain ⟨code,waiting⟩ := step_new (Nat.le_of_not_lt old) known
    rw [waiting] at holds
    cases holds

theorem Wellformed.holders_step {maxConcurrency : Nat} {dispatcher : EventDispatcher}
    (wellformed : Wellformed maxConcurrency dispatcher) (id : Nat) :
    (dispatcher.step maxConcurrency id).holders.card ≤ maxConcurrency := by
  have shrinks (own : id ∈ (dispatcher.step maxConcurrency id).holders → id ∈ dispatcher.holders) :
      (dispatcher.step maxConcurrency id).holders.card ≤ maxConcurrency := by
    refine (Finset.card_le_card fun other member => ?_).trans wellformed.bounded
    by_cases self : other = id
    · subst self
      exact own member
    · exact holders_of_step self member
  rcases dispatcher.step_cases maxConcurrency id with
    same | ⟨known,⟨code,_,free,_⟩ | ⟨state,_,holds,_,same⟩ | ⟨handler,others,rest,returned,raised,now,same⟩⟩
  · rw [same]
    exact wellformed.bounded
  · have grows : (dispatcher.step maxConcurrency id).holders ⊆ insert id dispatcher.holders := by
      intro other member
      by_cases self : other = id
      · exact self ▸ Finset.mem_insert_self ..
      · exact Finset.mem_insert_of_mem (holders_of_step self member)
    have bound := (Finset.card_le_card grows).trans (Finset.card_insert_le id dispatcher.holders)
    omega
  · refine shrinks fun member => ?_
    have kept := (mem_holders.mp member).2
    rw [same,setState_self] at kept
    have handler : (dispatcher.task id).root = false := by
      cases state <;> simp_all [Task.holds]
    exact mem_holders.mpr ⟨known,holds handler⟩
  · refine shrinks fun member => ?_
    have kept := (mem_holders.mp member).2
    rw [same,spawn_self known] at kept
    exact mem_holders.mpr ⟨known,by simpa [Task.holds,now] using kept⟩

theorem Wellformed.step {maxConcurrency : Nat} (dispatcher : EventDispatcher) (id : Nat)
    (wellformed : Wellformed maxConcurrency dispatcher) :
    Wellformed maxConcurrency (dispatcher.step maxConcurrency id) := by
  refine ⟨wellformed.holders_step id,fun parent children returned raised known now child member => ?_⟩
  have old (before : parent < dispatcher.count) (state : (dispatcher.task parent).state = .gathering children returned raised) :
      parent < child ∧ child < (dispatcher.step maxConcurrency id).count ∧
        ((dispatcher.step maxConcurrency id).task child).root = false := by
    obtain ⟨later,inside,handler⟩ := wellformed.children parent children returned raised before state child member
    exact ⟨later,inside.trans_le (dispatcher.step_count maxConcurrency id),by rw [step_root inside,handler]⟩
  by_cases before : parent < dispatcher.count
  · by_cases self : parent = id
    · subst self
      rcases dispatcher.step_cases maxConcurrency parent with
        same | ⟨here,⟨code,_,_,same⟩ | ⟨state,plain,_,_,same⟩ | ⟨handler,others,rest,ok,failed,_,same⟩⟩
      · rw [same] at now
        exact old before now
      · rw [same,setState_self] at now
        cases now
      · rw [same,setState_self] at now
        exact absurd now (plain _ _ _)
      · -- the new children come after every task there was
        simp only [same,spawn_self here,TaskState.gathering.injEq] at now
        obtain ⟨rfl,_,_⟩ := now
        obtain ⟨place,bound,rfl⟩ := List.mem_range'.mp member
        have inside : dispatcher.count+1*place < (dispatcher.step maxConcurrency parent).count := by
          rw [same]
          simp only [spawn]
          omega
        obtain ⟨code,waiting⟩ := step_new (Nat.le_add_right ..) inside
        exact ⟨by omega,inside,by rw [waiting]⟩
    · rw [step_other before self] at now
      exact old before now
  · obtain ⟨code,waiting⟩ := step_new (Nat.le_of_not_lt before) known
    rw [waiting] at now
    cases now

theorem Wellformed.blockedOnes_step {maxConcurrency : Nat} {dispatcher : EventDispatcher}
    (wellformed : Wellformed maxConcurrency dispatcher) (id : Nat) (spare : Spare maxConcurrency dispatcher id)
    (fewer : dispatcher.blockedOnes.card < maxConcurrency) :
    (dispatcher.step maxConcurrency id).blockedOnes.card < maxConcurrency := by
  have grows : (dispatcher.step maxConcurrency id).blockedOnes ⊆ insert id dispatcher.blockedOnes := by
    intro other member
    obtain ⟨known,stuck⟩ := mem_blockedOnes.mp member
    by_cases self : other = id
    · exact self ▸ Finset.mem_insert_self ..
    · refine Finset.mem_insert_of_mem ?_
      by_cases old : other < dispatcher.count
      · exact mem_blockedOnes.mpr ⟨old,blocked_of_step wellformed old self stuck⟩
      · obtain ⟨_,children,returned,raised,now,_⟩ := blocked_iff.mp stuck
        obtain ⟨code,waiting⟩ := step_new (Nat.le_of_not_lt old) known
        rw [waiting] at now
        cases now
  by_cases stuck : id ∈ (dispatcher.step maxConcurrency id).blockedOnes ∧ id ∉ dispatcher.blockedOnes
  · obtain ⟨inside,outside⟩ := stuck
    obtain ⟨known,now⟩ := mem_blockedOnes.mp inside
    obtain ⟨handler,children,returned,raised,state,_⟩ := blocked_iff.mp now
    rcases dispatcher.step_cases maxConcurrency id with
      same | ⟨here,⟨code,_,_,same⟩ | ⟨other,plain,_,_,same⟩ | ⟨first,others,rest,ok,failed,before,same⟩⟩
    · rw [same] at inside
      exact absurd inside outside
    · rw [same,setState_self] at state
      cases state
    · rw [same,setState_self] at state
      exact absurd state (plain _ _ _)
    · rw [step_root here] at handler
      have room := spare first others rest ok failed here handler before
      have bound := (Finset.card_le_card grows).trans (Finset.card_insert_le id dispatcher.blockedOnes)
      omega
  · have shrinks : (dispatcher.step maxConcurrency id).blockedOnes ⊆ dispatcher.blockedOnes := by
      intro other member
      rcases Finset.mem_insert.mp (grows member) with rfl | old
      · by_contra outside
        exact stuck ⟨member,outside⟩
      · exact old
    exact (Finset.card_le_card shrinks).trans_lt fewer

theorem Wellformed.not_deadlocked {maxConcurrency : Nat} {dispatcher : EventDispatcher}
    (wellformed : Wellformed maxConcurrency dispatcher) (fewer : dispatcher.blockedOnes.card < maxConcurrency) :
    ¬ Deadlocked maxConcurrency dispatcher := by
  classical
  rintro ⟨⟨some,unfinished⟩,stuck⟩
  -- the youngest unfinished handler has no unfinished child
  let remaining := (Finset.range dispatcher.count).filter fun id => dispatcher.Unfinished id
  have nonempty : remaining.Nonempty :=
    ⟨some,Finset.mem_filter.mpr ⟨Finset.mem_range.mpr unfinished.1,unfinished⟩⟩
  obtain ⟨youngest,member,maximal⟩ := remaining.exists_max_image (fun id => id) nonempty
  have mine : dispatcher.Unfinished youngest := (Finset.mem_filter.mp member).2
  rcases stuck youngest mine with ⟨_,full⟩ | blocked
  · have kept : dispatcher.holders ⊆ dispatcher.blockedOnes := by
      intro id holding
      obtain ⟨known,holds⟩ := mem_holders.mp holding
      have active : dispatcher.Unfinished id := by
        refine ⟨known,?_,?_⟩ <;> cases state : (dispatcher.task id).state <;> simp_all [Task.holds,TaskState.outcome]
      rcases stuck id active with ⟨⟨code,waiting⟩,_⟩ | blocked
      · simp [Task.holds,waiting] at holds
      · exact mem_blockedOnes.mpr ⟨known,blocked⟩
    have bound := Finset.card_le_card kept
    omega
  · obtain ⟨_,children,returned,raised,now,still⟩ := blocked_iff.mp blocked
    have left : ∃ child ∈ children, (dispatcher.task child).state.outcome = none := by
      by_contra none
      push Not at none
      unfold gathered at still
      split at still
      next => cases still
      next =>
        rw [if_pos] at still
        · cases still
        · exact List.all_eq_true.mpr fun child inside => by simpa [Option.isSome_iff_ne_none] using none child inside
    obtain ⟨child,inside,running⟩ := left
    obtain ⟨later,known,handler⟩ := wellformed.children youngest children returned raised mine.1 now child inside
    have below := maximal child (Finset.mem_filter.mpr ⟨Finset.mem_range.mpr known,known,handler,running⟩)
    omega

theorem gathered_spawned {dispatcher : EventDispatcher} {id : Nat} {handler : Code} {others : List Code}
    {returned raised : Code} : (dispatcher.spawn id (handler::others) returned raised).gathered
      (List.range' dispatcher.count (handler::others).length) = none := by
  have waits (child : Nat) (new : dispatcher.count ≤ child) :
      ((dispatcher.spawn id (handler::others) returned raised).task child).state.outcome = none := by
    obtain ⟨code,waiting⟩ := dispatcher.spawned id (handler::others) returned raised child new
    rw [waiting]
    rfl
  unfold gathered
  rw [if_neg,if_neg]
  · intro all
    have first := List.all_eq_true.mp all dispatcher.count (by simp [List.range'_succ])
    rw [waits dispatcher.count le_rfl] at first
    cases first
  · intro any
    obtain ⟨child,member,failed⟩ := List.any_eq_true.mp any
    rw [waits child (List.mem_range'_1.mp member).1] at failed
    simp at failed

theorem spawn_outcome {dispatcher : EventDispatcher} {id other : Nat} {code : Code} {handlers : List Code}
    {returned raised : Code} (now : (dispatcher.task id).state = .running code) (known : other < dispatcher.count) :
    ((dispatcher.spawn id handlers returned raised).task other).state.outcome =
      (dispatcher.task other).state.outcome := by
  by_cases self : other = id
  · subst self
    rw [spawn_self known,now]
    rfl
  · rw [spawn_other known self]

theorem Wellformed.blocked_spawn {maxConcurrency : Nat} {dispatcher : EventDispatcher} {id other : Nat} {code : Code}
    {handlers : List Code} {returned raised : Code} (wellformed : Wellformed maxConcurrency dispatcher)
    (now : (dispatcher.task id).state = .running code) (known : other < dispatcher.count)
    (stuck : dispatcher.blocked other = true) :
    (dispatcher.spawn id handlers returned raised).blocked other = true := by
  obtain ⟨handling,children,ok,failed,gathering,still⟩ := blocked_iff.mp stuck
  have differs : other ≠ id := by
    rintro rfl
    rw [now] at gathering
    cases gathering
  refine blocked_iff.mpr ⟨?_,children,ok,failed,?_,gathered_none_of_later ?_ still⟩
  · rwa [spawn_other known differs]
  · rwa [spawn_other known differs]
  · intro child member outcome ended
    have inside := (wellformed.children other children ok failed known gathering child member).2.1
    rwa [spawn_outcome now inside] at ended

theorem Wellformed.holders_eq {maxConcurrency : Nat} {dispatcher : EventDispatcher} {id : Nat} {code : Code}
    (wellformed : Wellformed maxConcurrency dispatcher) (known : id < dispatcher.count)
    (mine : (dispatcher.task id).root = false) (now : (dispatcher.task id).state = .running code)
    (last : maxConcurrency ≤ dispatcher.blockedOnes.card+1) :
    dispatcher.holders = insert id dispatcher.blockedOnes ∧ maxConcurrency ≤ dispatcher.holders.card := by
  have outside : id ∉ dispatcher.blockedOnes := by
    intro inside
    obtain ⟨_,children,_,_,gathering,_⟩ := blocked_iff.mp (mem_blockedOnes.mp inside).2
    rw [now] at gathering
    cases gathering
  have same : insert id dispatcher.blockedOnes = dispatcher.holders := by
    refine Finset.eq_of_subset_of_card_le (Finset.insert_subset ?_ fun other inside => ?_) ?_
    · exact mem_holders.mpr ⟨known,by simp [Task.holds,now,mine]⟩
    · obtain ⟨there,stuck⟩ := mem_blockedOnes.mp inside
      exact mem_holders.mpr ⟨there,holds_of_blocked stuck⟩
    · rw [Finset.card_insert_of_notMem outside]
      exact wellformed.bounded.trans last
  refine ⟨same.symm,last.trans_eq ?_⟩
  rw [← same,Finset.card_insert_of_notMem outside]

theorem waiting_of_unfinished {dispatcher : EventDispatcher} {id : Nat} (unfinished : dispatcher.Unfinished id)
    (outside : id ∉ dispatcher.holders) : ∃ code, (dispatcher.task id).state = .waiting code := by
  obtain ⟨known,handler,ended⟩ := unfinished
  cases state : (dispatcher.task id).state with
  | waiting code => exact ⟨code,rfl⟩
  | running code => exact absurd (mem_holders.mpr ⟨known,by simp [Task.holds,state,handler]⟩) outside
  | gathering children returned raised =>
    exact absurd (mem_holders.mpr ⟨known,by simp [Task.holds,state,handler]⟩) outside
  | finished raised =>
    rw [state] at ended
    cases ended

/-- A handler that starts a nested dispatch with the last permit that is not kept stops everything. -/
theorem Wellformed.deadlocked_step {maxConcurrency : Nat} {dispatcher : EventDispatcher} {id : Nat}
    (wellformed : Wellformed maxConcurrency dispatcher) (tight : ¬ Spare maxConcurrency dispatcher id) :
    Deadlocked maxConcurrency (dispatcher.step maxConcurrency id) := by
  unfold Spare at tight
  push Not at tight
  obtain ⟨handler,others,rest,returned,raised,known,mine,now,last⟩ := tight
  obtain ⟨holding,full⟩ := wellformed.holders_eq known mine now last
  have runs : dispatcher.step maxConcurrency id =
      dispatcher.spawn id (handler::others) (.dispatch rest returned raised) raised := by
    simp only [EventDispatcher.step,if_pos known,now]
  have stuck {other : Nat} (inside : other ∈ dispatcher.holders) :
      (dispatcher.step maxConcurrency id).blocked other = true := by
    rw [runs]
    rw [holding] at inside
    rcases Finset.mem_insert.mp inside with rfl | old
    · refine blocked_iff.mpr ⟨?_,_,_,_,by rw [spawn_self known],gathered_spawned⟩
      rw [spawn_self known]
      exact mine
    · obtain ⟨there,before⟩ := mem_blockedOnes.mp old
      exact wellformed.blocked_spawn now there before
  have kept : dispatcher.holders ⊆ (dispatcher.step maxConcurrency id).holders := by
    intro other inside
    have there := (mem_holders.mp inside).1.trans_le (dispatcher.step_count maxConcurrency id)
    exact mem_holders.mpr ⟨there,holds_of_blocked (stuck inside)⟩
  have own : id ∈ dispatcher.holders := holding ▸ Finset.mem_insert_self ..
  refine ⟨⟨id,known.trans_le (dispatcher.step_count maxConcurrency id),?_,?_⟩,fun other unfinished => ?_⟩
  · rw [step_root known]
    exact mine
  · rw [runs,spawn_self known]
    rfl
  · by_cases inside : other ∈ (dispatcher.step maxConcurrency id).holders
    · by_cases self : other = id
      · exact .inr (stuck (self ▸ own))
      · exact .inr (stuck (holders_of_step self inside))
    · exact .inl ⟨waiting_of_unfinished unfinished inside,full.trans (Finset.card_le_card kept)⟩

theorem start_wellformed (maxConcurrency : Nat) (roots : List (List (List Code))) :
    Wellformed maxConcurrency (start roots) := by
  refine ⟨?_,fun id children returned raised _ now => ?_⟩
  · have none : (start roots).holders = ∅ := Finset.filter_eq_empty_iff.mpr fun id _ => by simp [start,Task.holds]
    simp [none]
  · cases now

theorem start_blockedOnes (roots : List (List (List Code))) : (start roots).blockedOnes = ∅ :=
  Finset.filter_eq_empty_iff.mpr fun id _ => by simp [start,blocked]

theorem run_wellformed (maxConcurrency : Nat) (roots : List (List (List Code))) (schedule : List Nat) :
    Wellformed maxConcurrency (Transition.run (step maxConcurrency) (start roots) schedule) :=
  Transition.run_invariant (Wellformed maxConcurrency)
    (fun dispatcher id kept _ => Wellformed.step dispatcher id kept) (start roots) schedule
    (start_wellformed maxConcurrency roots)
    (Transition.meets_of_forall _ (fun _ _ => True) (fun _ _ => trivial) (start roots) schedule)

/-- No state of a run is deadlocked if and only if every nested dispatch of the run starts
while a permit is left that no blocked handler keeps. -/
theorem never_deadlocked_iff {maxConcurrency : Nat} (positive : 1 ≤ maxConcurrency)
    (roots : List (List (List Code))) (schedule : List Nat) :
    (∀ earlier, earlier <+: schedule →
        ¬ Deadlocked maxConcurrency (Transition.run (step maxConcurrency) (start roots) earlier)) ↔
      Transition.Meets (step maxConcurrency) (Spare maxConcurrency) (start roots) schedule := by
  constructor
  · intro safe
    refine Transition.meets_of_prefixes fun earlier id before => ?_
    by_contra tight
    refine safe (earlier ++ [id]) before ?_
    rw [Transition.run_append]
    exact (run_wellformed maxConcurrency roots earlier).deadlocked_step tight
  · intro meets earlier before
    have invariant := Transition.run_invariant
      (fun dispatcher => Wellformed maxConcurrency dispatcher ∧ dispatcher.blockedOnes.card < maxConcurrency)
      (fun dispatcher id kept spare => ⟨kept.1.step dispatcher id,kept.1.blockedOnes_step id spare kept.2⟩)
      (start roots) earlier
      ⟨start_wellformed maxConcurrency roots,by rw [start_blockedOnes]; exact positive⟩ (meets.earlier before)
    exact invariant.1.not_deadlocked invariant.2

def nested : Code := .dispatch [[.done false]] (.done false) (.done true)

theorem nested_finishes : 1 ≤ 2 ∧ ∀ earlier, earlier <+: [0,1,1,2,2,1] →
    ¬ Deadlocked 2 (Transition.run (step 2) (start [[[nested]]]) earlier) := by
  refine ⟨by decide,(never_deadlocked_iff (by decide) [[[nested]]] [0,1,1,2,2,1]).mpr ⟨?_,?_,?_,?_,?_,?_,trivial⟩⟩
  · exact fun _ _ _ _ _ _ _ _ => by decide
  · exact fun _ _ _ _ _ _ _ _ => by decide
  · exact fun _ _ _ _ _ _ _ _ => by decide
  · exact fun _ _ _ _ _ _ _ now => by cases now
  · exact fun _ _ _ _ _ _ _ now => by cases now
  · exact fun _ _ _ _ _ _ _ now => by cases now

/-- With one permit the outer handler waits for the inner one, which waits for the permit. -/
theorem nested_deadlocks : ¬ ∀ maxConcurrency, 1 ≤ maxConcurrency → ∀ roots schedule,
    ¬ Deadlocked maxConcurrency (Transition.run (step maxConcurrency) (start roots) schedule) := by
  intro claimed
  have tight : ¬ Spare 1 (Transition.run (step 1) (start [[[nested]]]) [0,1]) 1 := fun spare =>
    absurd (spare (.done false) [] [] (.done false) (.done true) (by decide) rfl rfl) (by decide)
  exact claimed 1 le_rfl [[[nested]]] [0,1,1] ((run_wellformed 1 [[[nested]]] [0,1]).deadlocked_step tight)

end EventDispatcher

end CqrsDdd.Events
