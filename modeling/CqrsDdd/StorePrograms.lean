import CqrsDdd.Transition
import Mathlib.Data.Finset.Basic

/-! Programs over a keyed store whose operations are atomic, alone and interleaved.
A program that reads a key and deletes it before it succeeds consumes what is stored
there; `once` says when interleaved consumers succeed at most once. -/
namespace CqrsDdd.StorePrograms

/-- `Absent` holds of a key that no reader finds until it is stored again. -/
structure AtomicStore (State Moment Key Data : Type*) where
  get : Moment → Key → State → Option Data × State
  put : Moment → Key → Data → Option Int → State → State
  delete : Moment → Key → State → State
  Absent : Key → State → Prop
  get_absent : ∀ moment key state, Absent key state → (get moment key state).1 = none
  absent_get : ∀ moment key other state, Absent key state → Absent key (get moment other state).2
  absent_put : ∀ moment key other data ttl state, key ≠ other → Absent key state →
    Absent key (put moment other data ttl state)
  absent_delete : ∀ moment key other state, Absent key state → Absent key (delete moment other state)
  absent_deleted : ∀ moment key state, Absent key (delete moment key state)

/-- Every operation tells the program at which moment it took place. -/
inductive Program (Moment Key Data Result : Type*)
  | done (result : Result)
  | get (key : Key) (next : Moment → Option Data → Program Moment Key Data Result)
  | put (key : Key) (data : Data) (ttl : Option Int) (next : Moment → Program Moment Key Data Result)
  | delete (key : Key) (next : Moment → Program Moment Key Data Result)

namespace Program

variable {State Moment Key Data Result : Type*}

def run (store : AtomicStore State Moment Key Data) (moment : Moment) :
    Program Moment Key Data Result → State → Result × State
  | done result, state => (result,state)
  | get key next, state =>
    run store moment (next moment (store.get moment key state).1) (store.get moment key state).2
  | put key data ttl next, state => run store moment (next moment) (store.put moment key data ttl state)
  | delete key next, state => run store moment (next moment) (store.delete moment key state)

def advance (store : AtomicStore State Moment Key Data) (moment : Moment) :
    Program Moment Key Data Result → State → Program Moment Key Data Result × State
  | done result, state => (done result,state)
  | get key next, state => (next moment (store.get moment key state).1,(store.get moment key state).2)
  | put key data ttl next, state => (next moment,store.put moment key data ttl state)
  | delete key next, state => (next moment,store.delete moment key state)

def bind {Later : Type*} (rest : Result → Program Moment Key Data Later) :
    Program Moment Key Data Result → Program Moment Key Data Later
  | done result => rest result
  | get key next => get key fun moment found => bind rest (next moment found)
  | put key data ttl next => put key data ttl fun moment => bind rest (next moment)
  | delete key next => delete key fun moment => bind rest (next moment)

def finished : Program Moment Key Data Result → Bool
  | done _ => true
  | _ => false

theorem run_bind {Later : Type*} (store : AtomicStore State Moment Key Data) (moment : Moment)
    (rest : Result → Program Moment Key Data Later) (program : Program Moment Key Data Result) (state : State) :
    (program.bind rest).run store moment state =
      (rest (program.run store moment state).1).run store moment (program.run store moment state).2 := by
  induction program generalizing state with
  | done result => rfl
  | get key next ih => exact ih moment _ _
  | put key data ttl next ih => exact ih moment _
  | delete key next ih => exact ih moment _

/-- The program stores nothing. -/
inductive Reads : Program Moment Key Data Result → Prop
  | done (result : Result) : Reads (.done result)
  | get (key : Key) (next : Moment → Option Data → Program Moment Key Data Result)
      (later : ∀ moment found, Reads (next moment found)) : Reads (.get key next)
  | delete (key : Key) (next : Moment → Program Moment Key Data Result) (later : ∀ moment, Reads (next moment)) :
      Reads (.delete key next)

/-- The program never stores the key, and `Ends` holds of what it returns. -/
inductive Quiet (key : Key) (Ends : Result → Prop) : Program Moment Key Data Result → Prop
  | done (result : Result) (ends : Ends result) : Quiet key Ends (.done result)
  | get (other : Key) (next : Moment → Option Data → Program Moment Key Data Result)
      (later : ∀ moment found, Quiet key Ends (next moment found)) : Quiet key Ends (.get other next)
  | put (other : Key) (data : Data) (ttl : Option Int) (next : Moment → Program Moment Key Data Result)
      (differs : key ≠ other) (later : ∀ moment, Quiet key Ends (next moment)) :
      Quiet key Ends (.put other data ttl next)
  | delete (other : Key) (next : Moment → Program Moment Key Data Result)
      (later : ∀ moment, Quiet key Ends (next moment)) : Quiet key Ends (.delete other next)

/-- The program deletes the key before it succeeds. -/
inductive Holding (key : Key) (Success : Result → Prop) : Program Moment Key Data Result → Prop
  | done (result : Result) (failed : ¬Success result) : Holding key Success (.done result)
  | get (other : Key) (next : Moment → Option Data → Program Moment Key Data Result) (differs : key ≠ other)
      (later : ∀ moment found, Holding key Success (next moment found)) : Holding key Success (.get other next)
  | put (other : Key) (data : Data) (ttl : Option Int) (next : Moment → Program Moment Key Data Result)
      (differs : key ≠ other) (later : ∀ moment, Holding key Success (next moment)) :
      Holding key Success (.put other data ttl next)
  | delete (other : Key) (next : Moment → Program Moment Key Data Result) (differs : key ≠ other)
      (later : ∀ moment, Holding key Success (next moment)) : Holding key Success (.delete other next)
  | consume (next : Moment → Program Moment Key Data Result)
      (later : ∀ moment, Quiet key (fun _ => True) (next moment)) : Holding key Success (.delete key next)

/-- The program reads the key, and succeeds only where it found something and deleted it. -/
inductive Consumer (key : Key) (Success : Result → Prop) : Program Moment Key Data Result → Prop
  | refuse (result : Result) (failed : ¬Success result) : Consumer key Success (.done result)
  | read (next : Moment → Option Data → Program Moment Key Data Result)
      (missed : ∀ moment, Quiet key (fun result => ¬Success result) (next moment none))
      (found : ∀ moment data, Holding key Success (next moment (some data))) : Consumer key Success (.get key next)

end Program

variable {State Moment Key Data Result : Type*}

/-- `holding` are the callers that found the key and did not delete it yet, `consumed` those that did. -/
structure Pool (State Moment Key Data Result : Type*) where
  state : State
  callers : List (Program Moment Key Data Result)
  holding : Finset Nat := ∅
  consumed : Finset Nat := ∅

namespace Pool

variable (store : AtomicStore State Moment Key Data) (key : Key)

/-- One operation of the caller whose turn it is. -/
def step [DecidableEq Key] (pool : Pool State Moment Key Data Result) (turn : Nat × Moment) : Pool State Moment Key Data Result :=
  match pool.callers[turn.1]? with
  | none => pool
  | some program =>
    let moved := program.advance store turn.2 pool.state
    let after := {pool with state := moved.2, callers := pool.callers.set turn.1 moved.1}
    match program with
    | .get other _ =>
      if other = key ∧ (store.get turn.2 key pool.state).1.isSome then {after with holding := insert turn.1 pool.holding}
      else after
    | .delete other _ =>
      if other = key ∧ turn.1 ∈ pool.holding then
        {after with holding := pool.holding.erase turn.1, consumed := insert turn.1 pool.consumed}
      else after
    | _ => after

/-- A caller that finds the key is alone: whoever found it before has deleted it or returned. -/
def Alone (pool : Pool State Moment Key Data Result) (turn : Nat × Moment) : Prop :=
  ∀ next, pool.callers[turn.1]? = some (.get key next) → (store.get turn.2 key pool.state).1.isSome →
    ∀ other ∈ pool.holding, ∀ program, pool.callers[other]? = some program → program.finished = true

def AtMostOne (Success : Result → Prop) (pool : Pool State Moment Key Data Result) : Prop :=
  ∀ (first second : Nat) (given taken : Result), pool.callers[first]? = some (Program.done given) →
    pool.callers[second]? = some (Program.done taken) → Success given → Success taken → first = second

variable {store key} {Success : Result → Prop}

/-- Where a caller stands: before it found the key or after it missed it, between finding and deleting it, or past
the deletion. -/
structure Stands (store : AtomicStore State Moment Key Data) (key : Key) (Success : Result → Prop)
    (pool : Pool State Moment Key Data Result) (caller : Nat) (program : Program Moment Key Data Result) : Prop where
  idle : caller ∉ pool.holding → caller ∉ pool.consumed →
    program.Consumer key Success ∨ program.Quiet key fun result => ¬Success result
  holds : caller ∈ pool.holding → program.Holding key Success ∨ program.Quiet key fun result => ¬Success result
  past : caller ∈ pool.consumed → program.Quiet key fun _ => True

structure Inv (store : AtomicStore State Moment Key Data) (key : Key) (Success : Result → Prop)
    (pool : Pool State Moment Key Data Result) : Prop where
  stands : ∀ caller program, pool.callers[caller]? = some program → Stands store key Success pool caller program
  apart : Disjoint pool.holding pool.consumed
  gone : pool.consumed.Nonempty → store.Absent key pool.state ∧
    ∀ other ∈ pool.holding, ∀ program, pool.callers[other]? = some program → program.finished = true
  alone : ∀ first ∈ pool.holding, ∀ second ∈ pool.holding, ∀ one two, pool.callers[first]? = some one →
    pool.callers[second]? = some two → one.finished = false → two.finished = false → first = second
  single : ∀ first ∈ pool.consumed, ∀ second ∈ pool.consumed, first = second

theorem Inv.atMostOne {pool : Pool State Moment Key Data Result} (inv : pool.Inv store key Success) :
    pool.AtMostOne Success := by
  have quiet_fails (result : Result) (success : Success result)
      (quiet : (Program.done result : Program Moment Key Data Result).Quiet key fun result => ¬Success result) : False := by
    cases quiet with
    | done _ failed => exact failed success
  have consumed (caller : Nat) (result : Result) (there : pool.callers[caller]? = some (Program.done result))
      (success : Success result) : caller ∈ pool.consumed := by
    have stands := inv.stands caller _ there
    by_contra kept
    by_cases holding : caller ∈ pool.holding
    · rcases stands.holds holding with holds | quiet
      · cases holds with
        | done _ failed => exact failed success
      · exact quiet_fails result success quiet
    · rcases stands.idle holding kept with consumer | quiet
      · cases consumer with
        | refuse _ failed => exact failed success
      · exact quiet_fails result success quiet
  intro first second given taken one two succeeds also
  exact inv.single first (consumed first given one succeeds) second (consumed second taken two also)

theorem callers_set {callers : List (Program Moment Key Data Result)} {caller other : Nat}
    {program moved later : Program Moment Key Data Result} (there : callers[caller]? = some program)
    (found : (callers.set caller moved)[other]? = some later) :
    (other = caller ∧ later = moved) ∨ (other ≠ caller ∧ callers[other]? = some later) := by
  by_cases same : caller = other
  · subst same
    rw [List.getElem?_set_self (List.getElem?_eq_some_iff.mp there).1] at found
    exact .inl ⟨rfl,(Option.some.inj found).symm⟩
  · rw [List.getElem?_set_ne same] at found
    exact .inr ⟨fun equal => same equal.symm,found⟩

theorem unfinished_set {callers : List (Program Moment Key Data Result)} {caller other : Nat}
    {program moved later : Program Moment Key Data Result} (there : callers[caller]? = some program)
    (settled : program.finished = true → moved.finished = true)
    (found : (callers.set caller moved)[other]? = some later) (going : later.finished = false) :
    ∃ before, callers[other]? = some before ∧ before.finished = false := by
  rcases callers_set there found with ⟨rfl,rfl⟩ | ⟨_,same⟩
  · refine ⟨program,there,?_⟩
    by_contra ended
    exact Bool.false_ne_true (going.symm.trans (settled (Bool.not_eq_false _ ▸ ended)))
  · exact ⟨later,same,going⟩

section Moving

variable {pool : Pool State Moment Key Data Result} {caller : Nat} {program moved : Program Moment Key Data Result}
  {state : State}

theorem Inv.move (inv : pool.Inv store key Success) (there : pool.callers[caller]? = some program)
    (kept : store.Absent key pool.state → store.Absent key state)
    (settled : program.finished = true → moved.finished = true)
    (stands : Stands store key Success pool caller moved) :
    ({pool with state := state, callers := pool.callers.set caller moved} : Pool State Moment Key Data Result).Inv
      store key Success := by
  refine ⟨fun other later found => ?_,inv.apart,fun consumed => ⟨kept (inv.gone consumed).1,?_⟩,?_,inv.single⟩
  · rcases callers_set there found with ⟨rfl,rfl⟩ | ⟨_,same⟩
    · exact ⟨stands.idle,stands.holds,stands.past⟩
    · have before := inv.stands other later same
      exact ⟨before.idle,before.holds,before.past⟩
  · intro other holding later found
    by_contra going
    obtain ⟨before,same,unended⟩ := unfinished_set there settled found (Bool.not_eq_true _ ▸ going)
    exact Bool.false_ne_true (unended.symm.trans ((inv.gone consumed).2 other holding before same))
  · intro first holds second also one two found after going also'
    obtain ⟨before,same,unended⟩ := unfinished_set there settled found going
    obtain ⟨before',same',unended'⟩ := unfinished_set there settled after also'
    exact inv.alone first holds second also before before' same same' unended unended'

theorem Inv.hold (inv : pool.Inv store key Success) (there : pool.callers[caller]? = some program)
    (settled : program.finished = true → moved.finished = true) (unconsumed : ¬pool.consumed.Nonempty)
    (others : ∀ other ∈ pool.holding, ∀ program, pool.callers[other]? = some program → program.finished = true)
    (holds : moved.Holding key Success ∨ moved.Quiet key fun result => ¬Success result) :
    ({pool with
      state := state
      callers := pool.callers.set caller moved
      holding := insert caller pool.holding} : Pool State Moment Key Data Result).Inv store key Success := by
  have none : pool.consumed = ∅ := Finset.not_nonempty_iff_eq_empty.mp unconsumed
  have mine {other : Nat} (member : other ∈ insert caller pool.holding) {later : Program Moment Key Data Result}
      (found : (pool.callers.set caller moved)[other]? = some later) (going : later.finished = false) :
      other = caller := by
    rcases Finset.mem_insert.mp member with same | held
    · exact same
    · obtain ⟨before,same,unended⟩ := unfinished_set there settled found going
      exact absurd (unended.symm.trans (others other held before same)) Bool.false_ne_true
  refine ⟨fun other later found => ?_,by rw [none]; exact Finset.disjoint_empty_right _,
    fun consumed => absurd consumed unconsumed,?_,inv.single⟩
  · rcases callers_set there found with ⟨rfl,rfl⟩ | ⟨differs,same⟩
    · exact ⟨fun outside => absurd (Finset.mem_insert_self _ _) outside,fun _ => holds,
        fun consumed => absurd ⟨_,consumed⟩ unconsumed⟩
    · have before := inv.stands other later same
      exact ⟨fun outside => before.idle fun held => outside (Finset.mem_insert_of_mem held),
        fun member => before.holds (Finset.mem_of_mem_insert_of_ne member differs),before.past⟩
  · intro first holds second also one two found after going also'
    rw [mine holds found going,mine also after also']

theorem Inv.consume (inv : pool.Inv store key Success) (there : pool.callers[caller]? = some program)
    (going : program.finished = false) (mine : caller ∈ pool.holding) (gone : store.Absent key state)
    (quiet : moved.Quiet key fun _ => True) :
    ({pool with
      state := state
      callers := pool.callers.set caller moved
      holding := pool.holding.erase caller
      consumed := insert caller pool.consumed} : Pool State Moment Key Data Result).Inv store key Success := by
  have none : pool.consumed = ∅ := by
    apply Finset.not_nonempty_iff_eq_empty.mp
    intro consumed
    exact Bool.false_ne_true (going.symm.trans ((inv.gone consumed).2 caller mine program there))
  have ended {other : Nat} (member : other ∈ pool.holding.erase caller) {later : Program Moment Key Data Result}
      (found : (pool.callers.set caller moved)[other]? = some later) : later.finished = true := by
    obtain ⟨differs,held⟩ := Finset.mem_erase.mp member
    rcases callers_set there found with ⟨same,_⟩ | ⟨_,same⟩
    · exact absurd same differs
    · by_contra open_
      exact differs (inv.alone other held caller mine later program same there (Bool.not_eq_true _ ▸ open_) going)
  refine ⟨fun other later found => ?_,?_,fun _ => ⟨gone,fun other member later found => ended member found⟩,?_,?_⟩
  · rcases callers_set there found with ⟨rfl,rfl⟩ | ⟨differs,same⟩
    · exact ⟨fun _ outside => absurd (Finset.mem_insert_self _ _) outside,
        fun member => absurd rfl (Finset.mem_erase.mp member).1,fun _ => quiet⟩
    · have before := inv.stands other later same
      refine ⟨fun unheld unconsumed => ?_,fun member => before.holds (Finset.mem_erase.mp member).2,fun consumed => ?_⟩
      · exact before.idle (fun held => unheld (Finset.mem_erase.mpr ⟨differs,held⟩))
          (fun consumed => unconsumed (Finset.mem_insert_of_mem consumed))
      · exact before.past (Finset.mem_of_mem_insert_of_ne consumed differs)
  · rw [none]
    exact Finset.disjoint_singleton_right.mpr (Finset.notMem_erase _ _)
  · intro first holds second also one two found after going
    exact absurd (going.symm.trans (ended holds found)) Bool.false_ne_true
  · intro first one second two
    rw [none] at one two
    rw [Finset.mem_singleton.mp one,Finset.mem_singleton.mp two]

end Moving

end Pool

namespace Program

variable {store : AtomicStore State Moment Key Data} {key : Key} {Success : Result → Prop}

theorem finished_advance (store : AtomicStore State Moment Key Data) (program : Program Moment Key Data Result)
    (moment : Moment) (state : State) (ended : program.finished = true) : (program.advance store moment state).1.finished = true := by
  cases program with
  | done result => rfl
  | get => cases ended
  | put => cases ended
  | delete => cases ended

theorem Quiet.advance {Ends : Result → Prop} {program : Program Moment Key Data Result} (quiet : program.Quiet key Ends)
    (moment : Moment) (state : State) : (program.advance store moment state).1.Quiet key Ends := by
  cases quiet with
  | done result ends => exact .done result ends
  | get other next later => exact later moment _
  | put other data ttl next differs later => exact later moment
  | delete other next later => exact later moment

theorem Quiet.absent {Ends : Result → Prop} {program : Program Moment Key Data Result} (quiet : program.Quiet key Ends)
    (moment : Moment) {state : State} (absent : store.Absent key state) :
    store.Absent key (program.advance store moment state).2 := by
  cases quiet with
  | done result ends => exact absent
  | get other next later => exact store.absent_get moment key other state absent
  | put other data ttl next differs later => exact store.absent_put moment key other data ttl state differs absent
  | delete other next later => exact store.absent_delete moment key other state absent

theorem Quiet.weaken {Ends : Result → Prop} {program : Program Moment Key Data Result} (quiet : program.Quiet key Ends) :
    program.Quiet key fun _ => True := by
  induction quiet with
  | done result ends => exact .done result trivial
  | get other next later ih => exact .get other next ih
  | put other data ttl next differs later ih => exact .put other data ttl next differs ih
  | delete other next later ih => exact .delete other next ih

theorem Holding.absent {program : Program Moment Key Data Result} (holding : program.Holding key Success)
    (moment : Moment) {state : State} (absent : store.Absent key state) :
    store.Absent key (program.advance store moment state).2 := by
  cases holding with
  | done result failed => exact absent
  | get other next differs later => exact store.absent_get moment key other state absent
  | put other data ttl next differs later => exact store.absent_put moment key other data ttl state differs absent
  | delete other next differs later => exact store.absent_delete moment key other state absent
  | consume next later => exact store.absent_delete moment key key state absent

end Program

namespace Pool

variable {store : AtomicStore State Moment Key Data} {key : Key} {Success : Result → Prop}

theorem Stands.absent {pool : Pool State Moment Key Data Result} {caller : Nat}
    {program : Program Moment Key Data Result} (stands : Stands store key Success pool caller program) (moment : Moment)
    (absent : store.Absent key pool.state) : store.Absent key (program.advance store moment pool.state).2 := by
  by_cases holding : caller ∈ pool.holding
  · rcases stands.holds holding with holds | quiet
    · exact holds.absent moment absent
    · exact quiet.absent moment absent
  · by_cases consumed : caller ∈ pool.consumed
    · exact (stands.past consumed).absent moment absent
    · rcases stands.idle holding consumed with consumer | quiet
      · cases consumer with
        | refuse => exact absent
        | read => exact store.absent_get moment key key pool.state absent
      · exact quiet.absent moment absent

theorem Stands.advance {pool : Pool State Moment Key Data Result} {caller : Nat}
    {program : Program Moment Key Data Result} (stands : Stands store key Success pool caller program) (moment : Moment)
    (missed : ∀ next, program = .get key next → (store.get moment key pool.state).1 = none ∨ caller ∈ pool.holding)
    (unconsumed : ∀ next, program = .delete key next → caller ∉ pool.holding) :
    Stands store key Success pool caller (program.advance store moment pool.state).1 where
  idle unheld fresh := by
    rcases stands.idle unheld fresh with consumer | quiet
    · cases consumer with
      | refuse result failed => exact .inl (.refuse result failed)
      | read next misses found =>
        right
        change Program.Quiet key _ (next moment (store.get moment key pool.state).1)
        rw [(missed next rfl).resolve_right unheld]
        exact misses moment
    · exact .inr (quiet.advance moment pool.state)
  holds held := by
    rcases stands.holds held with holds | quiet
    · cases holds with
      | done result failed => exact .inl (.done result failed)
      | get other next differs later => exact .inl (later moment _)
      | put other data ttl next differs later => exact .inl (later moment)
      | delete other next differs later => exact .inl (later moment)
      | consume next later => exact absurd held (unconsumed next rfl)
    · exact .inr (quiet.advance moment pool.state)
  past consumed := (stands.past consumed).advance moment pool.state

variable [DecidableEq Key]

theorem Inv.step {pool : Pool State Moment Key Data Result} (inv : pool.Inv store key Success) (turn : Nat × Moment)
    (alone : pool.Alone store key turn) : (pool.step store key turn).Inv store key Success := by
  obtain ⟨caller,moment⟩ := turn
  unfold Pool.step
  split
  next => exact inv
  next program there =>
    have stands := inv.stands caller program there
    have settled := program.finished_advance store moment pool.state
    cases program with
    | done result =>
      exact inv.move there (stands.absent moment) settled
        (stands.advance moment (fun _ same => nomatch same) fun _ same => nomatch same)
    | put other data ttl next =>
      exact inv.move there (stands.absent moment) settled
        (stands.advance moment (fun _ same => nomatch same) fun _ same => nomatch same)
    | get other next =>
      dsimp only
      split
      next finds =>
        obtain ⟨rfl,found⟩ := finds
        by_cases held : caller ∈ pool.holding
        · rw [Finset.insert_eq_of_mem held]
          exact inv.move there (stands.absent moment) settled
            (stands.advance moment (fun _ _ => .inr held) fun _ same => nomatch same)
        · have unconsumed : ¬pool.consumed.Nonempty := by
            intro consumed
            rw [store.get_absent moment _ pool.state (inv.gone consumed).1] at found
            cases found
          have fresh : caller ∉ pool.consumed := fun member => unconsumed ⟨caller,member⟩
          refine inv.hold there settled unconsumed (alone next there found) ?_
          rcases stands.idle held fresh with consumer | quiet
          · cases consumer with
            | read _ misses finds =>
              obtain ⟨data,read⟩ := Option.isSome_iff_exists.mp found
              left
              change Program.Holding _ _ (next moment (store.get moment _ pool.state).1)
              rw [read]
              exact finds moment data
          · exact .inr (quiet.advance moment pool.state)
      next misses =>
        refine inv.move there (stands.absent moment) settled (stands.advance moment (fun _ same => ?_) fun _ same => nomatch same)
        cases same
        exact .inl (Option.not_isSome_iff_eq_none.mp fun found => misses ⟨rfl,found⟩)
    | delete other next =>
      dsimp only
      split
      next consumes =>
        obtain ⟨rfl,held⟩ := consumes
        refine inv.consume there rfl held (store.absent_deleted moment _ pool.state) ?_
        rcases stands.holds held with holds | quiet
        · cases holds with
          | delete _ _ differs _ => exact absurd rfl differs
          | consume _ later => exact later moment
        · exact quiet.weaken.advance moment pool.state
      next keeps =>
        refine inv.move there (stands.absent moment) settled (stands.advance moment (fun _ same => nomatch same) fun _ same => ?_)
        cases same
        exact fun held => keeps ⟨rfl,held⟩

/-- Consumers that start together succeed at most once in a run in which each finds the key alone. -/
theorem run_atMostOne (Success : Result → Prop) (state : State) (callers : List (Program Moment Key Data Result))
    (consumers : ∀ program ∈ callers, program.Consumer key Success) (turns : List (Nat × Moment))
    (alone : Transition.Meets (Pool.step store key) (Pool.Alone store key) ⟨state,callers,∅,∅⟩ turns) :
    (Transition.run (Pool.step store key) ⟨state,callers,∅,∅⟩ turns).AtMostOne Success := by
  have start : Inv store key Success (⟨state,callers,∅,∅⟩ : Pool State Moment Key Data Result) := by
    refine ⟨fun caller program there => ⟨fun _ _ => ?_,fun held => ?_,fun consumed => ?_⟩,?_,fun consumed => ?_,?_,?_⟩
    · exact .inl (consumers program (List.mem_of_getElem? there))
    · exact absurd held (Finset.notMem_empty caller)
    · exact absurd consumed (Finset.notMem_empty caller)
    · exact Finset.disjoint_empty_left _
    · exact absurd consumed Finset.not_nonempty_empty
    · intro first held
      exact absurd held (Finset.notMem_empty first)
    · intro first consumed
      exact absurd consumed (Finset.notMem_empty first)
  exact (Transition.run_invariant (Inv store key Success) (fun _ turn inv => inv.step turn) _ turns start alone).atMostOne

end Pool
end CqrsDdd.StorePrograms
