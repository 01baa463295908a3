import Mathlib.Data.List.Basic

/-! Generators whose body is one loop. A turn of the loop yields some items and
then leaves the loop, raises, or goes on in a new state; a generator that is
consumed to its end is a run of such turns. -/
namespace CqrsDdd.Generator

variable {State Item : Type*}

inductive Turn (State Item : Type*) where
  | stop (yielded : List Item)
  | fail (yielded : List Item)
  | next (yielded : List Item) (state : State)

inductive Ending where
  | returned
  | raised
  deriving DecidableEq, Repr

/-- The items of a whole run and its ending, or no value where the fuel is used up. -/
def run (turn : State → Turn State Item) : Nat → State → Option (List Item × Ending)
  | 0, _ => none
  | fuel+1, state =>
    match turn state with
    | .stop yielded => some (yielded,.returned)
    | .fail yielded => some (yielded,.raised)
    | .next yielded later => (run turn fuel later).map fun rest => (yielded ++ rest.1,rest.2)

/-- A loop that may raise before its turn yields. -/
def raising {Failure : Type*} (turn : State → Except Failure (Turn State Item)) (state : State) : Turn State Item :=
  match turn state with
  | .ok taken => taken
  | .error _ => .fail []

/-- The generator ends by returning, after it has yielded `items`. -/
def Yields (turn : State → Turn State Item) (state : State) (items : List Item) : Prop :=
  ∃ fuel, run turn fuel state = some (items,.returned)

theorem run_more {turn : State → Turn State Item} {fuel : Nat} {state : State} {outcome : List Item × Ending}
    (ended : run turn fuel state = some outcome) : run turn (fuel + 1) state = some outcome := by
  induction fuel generalizing state outcome with
  | zero => cases ended
  | succ fuel ih =>
    rw [run] at ended ⊢
    cases taken : turn state with
    | stop yielded => simpa only [taken] using ended
    | fail yielded => simpa only [taken] using ended
    | next yielded later =>
      simp only [taken] at ended ⊢
      obtain ⟨rest,before,joined⟩ := Option.map_eq_some_iff.mp ended
      rw [ih before,Option.map_some,joined]

theorem run_of_le {turn : State → Turn State Item} {fuel more : Nat} {state : State}
    {outcome : List Item × Ending} (ended : run turn fuel state = some outcome) (enough : fuel ≤ more) :
    run turn more state = some outcome := by
  induction enough with
  | refl => exact ended
  | step _ ih => exact run_more ih

theorem Yields.unique {turn : State → Turn State Item} {state : State} {items others : List Item}
    (first : Yields turn state items) (second : Yields turn state others) : items = others := by
  obtain ⟨few,first⟩ := first
  obtain ⟨many,second⟩ := second
  have one := run_of_le first (Nat.le_max_left few many)
  have other := run_of_le second (Nat.le_max_right few many)
  have same := Option.some.inj (one.symm.trans other)
  exact congrArg Prod.fst same

/-- Every run that returns is built from its last turn backwards. -/
theorem Yields.rec_on {turn : State → Turn State Item} {motive : State → List Item → Prop}
    (atStop : ∀ state yielded, turn state = .stop yielded → motive state yielded)
    (atNext : ∀ state later yielded rest, turn state = .next yielded later → Yields turn later rest →
      motive later rest → motive state (yielded ++ rest))
    {state : State} {items : List Item} (yields : Yields turn state items) : motive state items := by
  obtain ⟨fuel,ended⟩ := yields
  induction fuel generalizing state items with
  | zero => cases ended
  | succ fuel ih =>
    rw [run] at ended
    cases taken : turn state with
    | stop yielded =>
      simp only [taken,Option.some.injEq,Prod.mk.injEq,and_true] at ended
      exact ended ▸ atStop state yielded taken
    | fail yielded => simp [taken] at ended
    | next yielded later =>
      simp only [taken] at ended
      obtain ⟨⟨rest,ending⟩,before,joined⟩ := Option.map_eq_some_iff.mp ended
      obtain ⟨rfl,rfl⟩ := Prod.mk.inj joined
      exact atNext state later yielded rest taken ⟨fuel,before⟩ (ih before)

/-- A loop that keeps an invariant and lowers a measure ends within the measure; what is good of
the turns behind a state has to be good of the state's own turn put in front of them. -/
theorem exists_run {turn : State → Turn State Item} (inv : State → Prop) (good : State → List Item → Prop)
    (measure : State → Nat)
    (each : ∀ state, inv state → (∃ yielded, turn state = .stop yielded ∧ good state yielded) ∨
      ∃ yielded later, turn state = .next yielded later ∧ inv later ∧ measure later < measure state ∧
        ∀ rest, good later rest → good state (yielded ++ rest))
    (state : State) (initial : inv state) :
    ∃ items, run turn (measure state + 1) state = some (items,.returned) ∧ good state items := by
  induction bound : measure state using Nat.strongRecOn generalizing state with
  | ind size ih =>
    rcases each state initial with ⟨yielded,stops,fine⟩ | ⟨yielded,later,taken,kept,drops,joins⟩
    · exact ⟨yielded,by simp only [run,stops],fine⟩
    · rw [bound] at drops
      obtain ⟨rest,ended,fine⟩ := ih (measure later) drops later kept rfl
      refine ⟨yielded ++ rest,?_,joins rest fine⟩
      rw [run,taken]
      simp only [run_of_le ended (Nat.succ_le_of_lt drops),Option.map_some]

theorem exists_yields {turn : State → Turn State Item} (inv : State → Prop) (good : State → List Item → Prop)
    (measure : State → Nat)
    (each : ∀ state, inv state → (∃ yielded, turn state = .stop yielded ∧ good state yielded) ∨
      ∃ yielded later, turn state = .next yielded later ∧ inv later ∧ measure later < measure state ∧
        ∀ rest, good later rest → good state (yielded ++ rest))
    (state : State) (initial : inv state) : ∃ items, Yields turn state items ∧ good state items := by
  obtain ⟨items,ended,fine⟩ := exists_run inv good measure each state initial
  exact ⟨items,⟨_,ended⟩,fine⟩

/-- A loop yields what is due, if each turn yields the part of it that the next state no longer owes. -/
theorem run_of_measure {turn : State → Turn State Item} (inv : State → Prop) (due : State → List Item)
    (measure : State → Nat)
    (each : ∀ state, inv state → turn state = .stop (due state) ∨
      ∃ yielded later, turn state = .next yielded later ∧ inv later ∧ measure later < measure state ∧
        due state = yielded ++ due later)
    (state : State) (initial : inv state) : run turn (measure state + 1) state = some (due state,.returned) := by
  obtain ⟨items,ended,rfl⟩ := exists_run inv (fun state items => items = due state) measure
    (fun state kept => by
      rcases each state kept with stops | ⟨yielded,later,taken,next,drops,split⟩
      · exact .inl ⟨due state,stops,rfl⟩
      · refine .inr ⟨yielded,later,taken,next,drops,fun rest owed => ?_⟩
        rw [owed,split])
    state initial
  exact ended

end CqrsDdd.Generator
