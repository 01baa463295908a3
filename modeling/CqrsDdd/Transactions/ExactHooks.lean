import CqrsDdd.Trace
import CqrsDdd.Transactions.Hooks
import Mathlib.Data.List.Nodup

/-! When the hooks of a unit of work run exactly for committed work. What a body
does to a hook shows in the first outcome after its registration; the hook itself
runs at the next time the queue is emptied, whatever came between. -/
namespace CqrsDdd.Transactions

def Event.outcome? : Event → Option Outcome
  | .settled outcome => some outcome
  | _ => none

def outcomes (events : List Event) : List Outcome := events.filterMap Event.outcome?

def Outcome.counts (counted : Bool) : Outcome → Bool
  | .committed => true
  | .rolledBack succeeded => succeeded || counted

def firstOutcome (counted : Bool) (outcomes : List Outcome) : Option Outcome := outcomes.find? (·.counts counted)

/-- `SQLAlchemyUnitOfWork.commit` rolls back when it fails. -/
def Op.outcomes (implementation : Implementation) : Op → List Outcome
  | .onCommit _ => []
  | .commit .succeeds => [.committed]
  | .commit (.fails undone) => if implementation = .sqlAlchemy then [.rolledBack undone] else []
  | .rollback succeeded => [.rolledBack succeeded]

/-- The exit of `MongoUnitOfWork` rolls back after a failed commit too. -/
def Exit.outcomes (implementation : Implementation) : Exit → List Outcome
  | .returned .succeeds => [.committed]
  | .returned (.fails undone) => if implementation = .base then [] else [.rolledBack undone]
  | .raised succeeded => [.rolledBack succeeded]

def Op.commits : Op → Bool
  | .commit .succeeds => true
  | _ => false

def Drains (implementation : Implementation) (body : List Op) (exit : Exit) : Prop :=
  exit = .returned .succeeds ∨ (implementation = .mongo ∧ body.any Op.commits = true)

def CommitsNext (counted : Bool) (implementation : Implementation) (body : List Op) (exit : Exit) : Prop :=
  firstOutcome counted (body.flatMap (·.outcomes implementation) ++ exit.outcomes implementation) = some .committed

/-- What the rest of the body and the exit have to do for a hook: where the queue
will be emptied a commit has to come next and the hook registers no other, and
otherwise no commit may come next. -/
def Suits (counted : Bool) (implementation : Implementation) (body : List Op) (exit : Exit) (hook : Hook) : Prop :=
  (Drains implementation body exit → CommitsNext counted implementation body exit ∧ hook.registers = []) ∧
    (¬ Drains implementation body exit → ¬ CommitsNext counted implementation body exit)

theorem firstOutcome_append (counted : Bool) (first second : List Outcome) :
    firstOutcome counted (first ++ second) = (firstOutcome counted first).or (firstOutcome counted second) :=
  List.find?_append

theorem firstOutcome_cons (counted : Bool) (outcome : Outcome) (rest : List Outcome) :
    firstOutcome counted (outcome::rest) =
      if outcome.counts counted then some outcome else firstOutcome counted rest := by
  cases counts : outcome.counts counted <;> simp [firstOutcome,counts]

@[simp] theorem outcomes_nil : outcomes [] = [] := rfl

@[simp] theorem outcomes_settled (outcome : Outcome) (rest : List Event) :
    outcomes (.settled outcome::rest) = outcome::outcomes rest := rfl

@[simp] theorem outcomes_registered (token : Nat) (rest : List Event) :
    outcomes (.registered token::rest) = outcomes rest := rfl

@[simp] theorem outcomes_ran (token : Nat) (rest : List Event) : outcomes (.ran token::rest) = outcomes rest := rfl

@[simp] theorem outcomes_append (first second : List Event) :
    outcomes (first ++ second) = outcomes first ++ outcomes second :=
  List.filterMap_append

theorem committed_cons (counted : Bool) (event : Event) (rest : List Event) :
    Committed counted (event::rest) ↔ event = .settled .committed ∨
      ((∀ succeeded, event = .settled (.rolledBack succeeded) → (succeeded || counted) = false) ∧
        Committed counted rest) := by
  constructor
  · rintro ⟨earlier,later,split,free⟩
    cases earlier with
    | nil => exact Or.inl (List.cons.inj split).1
    | cons head tail =>
      obtain ⟨rfl,rfl⟩ := List.cons.inj split
      refine Or.inr ⟨?_,tail,later,rfl,fun succeeded member => free succeeded (List.mem_cons_of_mem _ member)⟩
      rintro succeeded rfl
      exact free succeeded List.mem_cons_self
  · rintro (rfl | ⟨free,earlier,later,rfl,kept⟩)
    · exact ⟨[],rest,rfl,by simp⟩
    · refine ⟨event::earlier,later,rfl,fun succeeded member => ?_⟩
      rcases List.mem_cons.mp member with here | there
      · exact free succeeded here.symm
      · exact kept succeeded there

theorem committed_iff (counted : Bool) (events : List Event) :
    Committed counted events ↔ firstOutcome counted (outcomes events) = some .committed := by
  induction events with
  | nil => simp [Committed,outcomes,firstOutcome]
  | cons event rest ih =>
    rw [committed_cons,ih]
    cases event with
    | registered token => simp
    | ran token => simp
    | settled outcome =>
      cases outcome with
      | committed => simp [firstOutcome_cons,Outcome.counts]
      | rolledBack succeeded =>
        cases succeeded <;> cases counted <;> simp [firstOutcome_cons,Outcome.counts]

/-- A hook that was registered while the queue was emptied runs with no commit in between. -/
def Leaks (events : List Event) : Prop :=
  ∃ before token middle after, events = before ++ Event.registered token::(middle ++ Event.ran token::after) ∧
    outcomes middle = []

theorem Leaks.append {events : List Event} (leaks : Leaks events) (first second : List Event) :
    Leaks (first ++ (events ++ second)) := by
  obtain ⟨before,token,middle,after,rfl,quiet⟩ := leaks
  exact ⟨first ++ before,token,middle,after ++ second,by simp,quiet⟩

theorem outcomes_map_registered (tokens : List Nat) : outcomes (tokens.map .registered) = [] := by
  induction tokens with
  | nil => rfl
  | cons token rest ih => exact ih

theorem triggerCommitHooks_nil {uow : UnitOfWork} (queue : uow.onCommitHooks = []) : uow.triggerCommitHooks = uow := by
  rw [UnitOfWork.triggerCommitHooks]
  split
  next => rfl
  next waiting => simp [queue] at waiting

theorem triggerCommitHooks_cons {uow : UnitOfWork} {token : Nat} {callback : Hook} {rest : List (Nat × Hook)}
    (queue : uow.onCommitHooks = (token,callback)::rest) :
    uow.triggerCommitHooks = (UnitOfWork.call {uow with onCommitHooks := rest} token callback).triggerCommitHooks := by
  rw [UnitOfWork.triggerCommitHooks]
  split
  next empty => simp [queue] at empty
  next same =>
    obtain ⟨sameHook,rfl⟩ := List.cons.inj (queue.symm.trans same)
    obtain ⟨rfl,rfl⟩ := Prod.mk.inj sameHook
    rfl

theorem triggerCommitHooks_spec (uow : UnitOfWork) :
    ∃ added, uow.triggerCommitHooks.trace = uow.trace ++ added ∧ outcomes added = [] ∧
      ∀ waiting ∈ uow.onCommitHooks, .ran waiting.1 ∈ added ∧ (waiting.2.registers ≠ [] → Leaks added) := by
  induction uow using UnitOfWork.triggerCommitHooks.induct with
  | case1 uow empty => exact ⟨[],by simp [triggerCommitHooks_nil empty],rfl,by simp [empty]⟩
  | case2 uow token callback rest queue ih =>
    obtain ⟨added,trace,quiet,ran⟩ := ih
    obtain ⟨errors,called⟩ := UnitOfWork.call_eq {uow with onCommitHooks := rest} token callback
    rw [← triggerCommitHooks_cons queue] at trace
    rw [called] at trace ran
    let fresh : List Event := (List.range' uow.nextToken callback.registers.length).map .registered
    refine ⟨.ran token::(fresh ++ added),by simpa using trace,?_,?_⟩
    · rw [outcomes_ran,outcomes_append,outcomes_map_registered,quiet]
      rfl
    · rw [queue]
      intro waiting member
      rcases List.mem_cons.mp member with rfl | later
      · refine ⟨List.mem_cons_self,fun some => ?_⟩
        obtain ⟨child,children,registers⟩ := List.exists_cons_of_ne_nil some
        have split : fresh = .registered uow.nextToken::
            (List.range' (uow.nextToken+1) children.length).map .registered := by
          simp [fresh,registers,List.range'_succ]
        have waits : (uow.nextToken,child) ∈
            rest ++ (List.range' uow.nextToken callback.registers.length).zip callback.registers := by
          simp [registers,List.range'_succ]
        obtain ⟨early,late,parts⟩ := List.append_of_mem (ran _ waits).1
        refine ⟨[.ran token],uow.nextToken,
          (List.range' (uow.nextToken+1) children.length).map .registered ++ early,late,?_,?_⟩
        · simp [split,parts]
        · rw [parts,outcomes_append] at quiet
          rw [outcomes_append,outcomes_map_registered,(List.append_eq_nil_iff.mp quiet).1]
          rfl
      · obtain ⟨runs,leaks⟩ := ran waiting (List.mem_append_left _ later)
        refine ⟨List.mem_cons_of_mem _ (List.mem_append_right _ runs),fun some => ?_⟩
        simpa using (leaks some).append (.ran token::fresh) []

def Serves (waiting : Nat × Hook) (added : List Event) : Prop :=
  .ran waiting.1 ∈ added ∧ (waiting.2.registers ≠ [] → Leaks added)

theorem Serves.append {waiting : Nat × Hook} {added : List Event} (serves : Serves waiting added)
    (first second : List Event) : Serves waiting (first ++ (added ++ second)) :=
  ⟨by simp [serves.1],fun some => (serves.2 some).append first second⟩

structure Advances (uow moved : UnitOfWork) (added : List Event) (expected : List Outcome) (drained : Prop) : Prop where
  trace : moved.trace = uow.trace ++ added
  outcomes : outcomes added = expected
  runs : drained → ∀ waiting ∈ uow.onCommitHooks, Serves waiting added
  waits : ¬ drained → (∀ token, .ran token ∉ added) ∧ ∀ waiting ∈ uow.onCommitHooks, waiting ∈ moved.onCommitHooks

theorem stays_advances (uow : UnitOfWork) {drained : Prop} (undrained : ¬ drained) : Advances uow uow [] [] drained :=
  ⟨by simp,rfl,fun holds => absurd holds undrained,fun _ => ⟨by simp,fun _ member => member⟩⟩

theorem settle_advances (uow : UnitOfWork) (outcome : Outcome) {drained : Prop} (undrained : ¬ drained) :
    Advances uow (uow.settle outcome) [.settled outcome] [outcome] drained :=
  ⟨rfl,rfl,fun holds => absurd holds undrained,fun _ => ⟨by simp,fun _ member => member⟩⟩

theorem drain_advances (uow : UnitOfWork) {drained : Prop} (holds : drained) :
    ∃ added, Advances uow (uow.settle .committed).triggerCommitHooks added [.committed] drained := by
  obtain ⟨added,trace,quiet,ran⟩ := triggerCommitHooks_spec (uow.settle .committed)
  refine ⟨.settled .committed::added,by simpa [UnitOfWork.settle] using trace,by simp [quiet],?_,
    fun none => absurd holds none⟩
  intro _ waiting member
  have serves : Serves waiting added := ran waiting member
  simpa using serves.append [.settled .committed] []

theorem step_advances (implementation : Implementation) (uow : UnitOfWork) (op : Op) :
    ∃ added, Advances uow (implementation.step uow op) added (op.outcomes implementation)
      (implementation = .mongo ∧ op.commits = true) := by
  cases op with
  | onCommit callback =>
    refine ⟨[.registered uow.nextToken],rfl,rfl,fun drained => by simp [Op.commits] at drained,fun _ => ⟨by simp,?_⟩⟩
    exact fun waiting member => List.mem_append_left _ member
  | rollback succeeds => exact ⟨_,settle_advances uow (.rolledBack succeeds) (by simp [Op.commits])⟩
  | commit call =>
    cases call with
    | succeeds =>
      cases implementation with
      | base => exact ⟨_,settle_advances uow .committed (by simp)⟩
      | sqlAlchemy => exact ⟨_,settle_advances uow .committed (by simp)⟩
      | mongo => exact drain_advances uow ⟨rfl,rfl⟩
    | fails undone =>
      cases implementation with
      | base => exact ⟨_,stays_advances uow (by simp)⟩
      | sqlAlchemy => exact ⟨_,settle_advances uow (.rolledBack undone) (by simp)⟩
      | mongo => exact ⟨_,stays_advances uow (by simp [Op.commits])⟩

theorem aexit_advances (implementation : Implementation) (uow : UnitOfWork) (exit : Exit) :
    ∃ added, Advances uow (implementation.aexit uow exit) added (exit.outcomes implementation)
      (exit = .returned .succeeds) := by
  cases exit with
  | raised succeeds =>
    have raised : Exit.raised succeeds ≠ .returned .succeeds := by simp
    cases implementation <;> exact ⟨_,settle_advances uow (.rolledBack succeeds) raised⟩
  | returned call =>
    cases call with
    | succeeds => cases implementation <;> exact drain_advances uow rfl
    | fails undone =>
      cases implementation with
      | base => exact ⟨_,stays_advances uow (by simp)⟩
      | sqlAlchemy => exact ⟨_,settle_advances uow (.rolledBack undone) (by simp)⟩
      | mongo => exact ⟨_,settle_advances uow (.rolledBack undone) (by simp)⟩

theorem drains_cons (implementation : Implementation) (op : Op) (body : List Op) (exit : Exit) :
    Drains implementation (op::body) exit ↔
      (implementation = .mongo ∧ op.commits = true) ∨ Drains implementation body exit := by
  simp only [Drains,List.any_cons,Bool.or_eq_true]
  tauto

theorem asyncWith_advances (implementation : Implementation) (uow : UnitOfWork) (body : List Op) (exit : Exit) :
    ∃ added, (implementation.asyncWith uow body exit).trace = uow.trace ++ added ∧
      outcomes added = body.flatMap (·.outcomes implementation) ++ exit.outcomes implementation ∧
      (Drains implementation body exit → ∀ waiting ∈ uow.onCommitHooks, Serves waiting added) ∧
      (¬ Drains implementation body exit → ∀ token, .ran token ∉ added) := by
  induction body generalizing uow with
  | nil =>
    obtain ⟨added,advances⟩ := aexit_advances implementation uow exit
    have same : Drains implementation [] exit ↔ exit = .returned .succeeds := by simp [Drains]
    refine ⟨added,advances.trace,by simpa using advances.outcomes,?_,?_⟩
    · exact fun drains => advances.runs (same.mp drains)
    · exact fun none => (advances.waits fun drained => none (same.mpr drained)).1
  | cons op rest ih =>
    obtain ⟨first,advances⟩ := step_advances implementation uow op
    obtain ⟨second,trace,settled,runs,silent⟩ := ih (implementation.step uow op)
    refine ⟨first ++ second,?_,?_,?_,?_⟩
    · rw [Implementation.asyncWith,Transition.run_cons]
      exact trace.trans (by rw [advances.trace,List.append_assoc])
    · rw [outcomes_append,advances.outcomes,settled,List.flatMap_cons,List.append_assoc]
    · intro drains waiting member
      by_cases now : implementation = .mongo ∧ op.commits = true
      · simpa using (advances.runs now waiting member).append [] second
      · have later := ((drains_cons _ _ _ _).mp drains).resolve_left now
        simpa using (runs later waiting ((advances.waits now).2 waiting member)).append first []
    · intro undrained token member
      obtain ⟨now,later⟩ := not_or.mp (mt (drains_cons _ _ _ _).mpr undrained)
      rcases List.mem_append.mp member with here | there
      · exact (advances.waits now).1 token here
      · exact silent later token there

theorem no_leak {counted : Bool} {trace : List Event} (exactly : ExactHooks counted trace) : ¬ Leaks trace := by
  rintro ⟨before,token,middle,after,split,quiet⟩
  have committed := (committed_iff counted middle).mp (exactly.late before token middle after split)
  simp [quiet,firstOutcome] at committed

theorem suits_of_exactHooks {counted : Bool} {implementation : Implementation} {uow : UnitOfWork}
    {before after : List Op}
    {hook : Hook} {exit : Exit}
    (exactly : ExactHooks counted (implementation.asyncWith uow (before ++ .onCommit hook::after) exit).trace) :
    Suits counted implementation after exit hook := by
  let reached := Transition.run implementation.step uow before
  obtain ⟨added,trace,settled,runs,silent⟩ := asyncWith_advances implementation (reached.onCommit hook) after exit
  have whole : (implementation.asyncWith uow (before ++ .onCommit hook::after) exit).trace =
      reached.trace ++ Event.registered reached.nextToken::added := by
    rw [Implementation.asyncWith,Transition.run_append,Transition.run_cons]
    exact trace.trans (by simp [UnitOfWork.onCommit])
  rw [whole] at exactly
  have covered := exactly.runs _ _ _ rfl
  rw [committed_iff,settled] at covered
  constructor
  · intro drains
    obtain ⟨ran,leaks⟩ := runs drains (reached.nextToken,hook) (by simp [UnitOfWork.onCommit])
    refine ⟨covered.mp ran,?_⟩
    by_contra some
    have leak := (leaks some).append (reached.trace ++ [Event.registered reached.nextToken]) []
    rw [List.append_nil,List.append_assoc] at leak
    exact no_leak exactly leak
  · intro undrained next
    exact silent undrained _ (covered.mpr next)

theorem snoc_split_ran {trace before middle after : List Event} {event : Event} {token : Nat}
    (split : trace ++ [event] = before ++ Event.registered token::(middle ++ Event.ran token::after)) :
    (∃ earlier, trace = before ++ Event.registered token::(middle ++ Event.ran token::earlier)) ∨
      (trace = before ++ Event.registered token::middle ∧ event = .ran token) := by
  have parts : trace ++ [event] = (before ++ Event.registered token::middle) ++ Event.ran token::after := by
    simpa using split
  rcases Trace.snoc_split parts with ⟨earlier,old,_⟩ | ⟨same,new,_⟩
  · exact Or.inl ⟨earlier,by simpa using old⟩
  · exact Or.inr ⟨same.symm,new.symm⟩

/-- The state of an exact run. A registered hook has run after a commit or waits;
`outlook` says what is known of a waiting hook, given the first outcome since its
registration. -/
structure Good (counted : Bool) (outlook : Option Outcome → Hook → Prop) (uow : UnitOfWork) : Prop where
  young : ∀ token, .registered token ∈ uow.trace ∨ .ran token ∈ uow.trace → token < uow.nextToken
  distinct : (uow.onCommitHooks.map Prod.fst).Nodup
  waiting : ∀ hook ∈ uow.onCommitHooks, .registered hook.1 ∈ uow.trace ∧ .ran hook.1 ∉ uow.trace
  once : ∀ token, uow.trace.count (.ran token) ≤ 1
  late : ∀ before token middle after, uow.trace = before ++ Event.registered token::(middle ++ Event.ran token::after) →
    Committed counted middle
  served : ∀ before token after, uow.trace = before ++ Event.registered token::after →
    .ran token ∈ after ∨ ∃ hook, (token,hook) ∈ uow.onCommitHooks
  pending : ∀ before token after hook, uow.trace = before ++ Event.registered token::after →
    (token,hook) ∈ uow.onCommitHooks → outlook (firstOutcome counted (outcomes after)) hook

namespace Good

variable {counted : Bool} {outlook : Option Outcome → Hook → Prop} {uow : UnitOfWork}

theorem create : Good counted outlook UnitOfWork.create :=
  ⟨by simp [UnitOfWork.create],List.nodup_nil,by simp [UnitOfWork.create],by simp [UnitOfWork.create],
    by simp [UnitOfWork.create],by simp [UnitOfWork.create],by simp [UnitOfWork.create]⟩

theorem weaken {weaker : Option Outcome → Hook → Prop} (good : Good counted outlook uow)
    (moves : ∀ first hook, outlook first hook → weaker first hook) : Good counted weaker uow :=
  ⟨good.young,good.distinct,good.waiting,good.once,good.late,good.served,fun before token after hook split member =>
    moves _ hook (good.pending before token after hook split member)⟩

theorem settle {moved : Option Outcome → Hook → Prop} (good : Good counted outlook uow) (outcome : Outcome)
    (moves : ∀ first hook, outlook first hook → moved (first.or (firstOutcome counted [outcome])) hook) :
    Good counted moved (uow.settle outcome) := by
  constructor
  · intro token member
    exact good.young token (by simpa [UnitOfWork.settle] using member)
  · exact good.distinct
  · intro hook member
    simpa [UnitOfWork.settle] using good.waiting hook member
  · intro token
    simpa [UnitOfWork.settle,List.count_append] using good.once token
  · intro before token middle after split
    rcases snoc_split_ran split with ⟨earlier,old⟩ | ⟨_,new⟩
    · exact good.late before token middle earlier old
    · simp at new
  · intro before token after split
    rcases Trace.snoc_split split with ⟨earlier,old,rfl⟩ | ⟨_,new,_⟩
    · exact (good.served before token earlier old).imp_left (List.mem_append_left _)
    · simp at new
  · intro before token after hook split member
    rcases Trace.snoc_split split with ⟨earlier,old,rfl⟩ | ⟨_,new,_⟩
    · rw [outcomes_append,firstOutcome_append]
      exact moves _ hook (good.pending before token earlier hook old member)
    · simp at new

theorem onCommit (good : Good counted outlook uow) {hook : Hook} (suits : outlook none hook) :
    Good counted outlook (uow.onCommit hook) := by
  have fresh : ∀ waiting ∈ uow.onCommitHooks, waiting.1 ≠ uow.nextToken := fun waiting member =>
    (good.young waiting.1 (Or.inl (good.waiting waiting member).1)).ne
  constructor
  · intro token member
    simp only [UnitOfWork.onCommit,List.mem_append,List.mem_singleton,Event.registered.injEq,reduceCtorEq,or_false]
      at member ⊢
    rcases member with (old | rfl) | old
    · exact Nat.lt_succ_of_lt (good.young token (Or.inl old))
    · exact Nat.lt_succ_self _
    · exact Nat.lt_succ_of_lt (good.young token (Or.inr old))
  · simp only [UnitOfWork.onCommit,List.map_append]
    exact List.Nodup.append good.distinct (List.nodup_singleton _) (by
      simpa using fun waiting member => fresh (uow.nextToken,waiting) member rfl)
  · intro waiting member
    simp only [UnitOfWork.onCommit,List.mem_append,List.mem_singleton,reduceCtorEq,or_false] at member ⊢
    rcases member with old | rfl
    · exact ⟨Or.inl (good.waiting waiting old).1,(good.waiting waiting old).2⟩
    · exact ⟨Or.inr rfl,fun ran => (good.young _ (Or.inr ran)).false⟩
  · intro token
    simpa [UnitOfWork.onCommit,List.count_append] using good.once token
  · intro before token middle after split
    rcases snoc_split_ran split with ⟨earlier,old⟩ | ⟨_,new⟩
    · exact good.late before token middle earlier old
    · simp at new
  · intro before token after split
    rcases Trace.snoc_split split with ⟨earlier,old,rfl⟩ | ⟨_,new,_⟩
    · refine (good.served before token earlier old).imp (List.mem_append_left _) ?_
      rintro ⟨waiting,member⟩
      exact ⟨waiting,List.mem_append_left _ member⟩
    · exact Or.inr ⟨hook,by simp [UnitOfWork.onCommit,Event.registered.inj new]⟩
  · intro before token after waiting split member
    rcases List.mem_append.mp member with old | new
    · rcases Trace.snoc_split split with ⟨earlier,rest,rfl⟩ | ⟨_,same,_⟩
      · simpa using good.pending before token earlier waiting rest old
      · exact absurd (Event.registered.inj same) (fresh _ old)
    · obtain ⟨rfl,rfl⟩ := Prod.mk.inj (List.mem_singleton.mp new)
      rcases Trace.snoc_split split with ⟨earlier,rest,rfl⟩ | ⟨_,_,rfl⟩
      · exact absurd (good.young _ (Or.inl (by simp [rest]))) (Nat.lt_irrefl _)
      · exact suits

theorem call {rest : List (Nat × Hook)} {token : Nat} {hook : Hook} (good : Good counted outlook uow)
    (queue : uow.onCommitHooks = (token,hook)::rest) (barren : hook.registers = [])
    (ready : ∀ first hook, outlook first hook → first = some .committed) :
    Good counted outlook (UnitOfWork.call {uow with onCommitHooks := rest} token hook) := by
  obtain ⟨errors,called⟩ := UnitOfWork.call_eq {uow with onCommitHooks := rest} token hook
  have equation : UnitOfWork.call {uow with onCommitHooks := rest} token hook =
      ⟨rest,uow.nextToken,uow.trace ++ [Event.ran token],errors⟩ := by simpa [barren] using called
  rw [equation]
  have waits := good.waiting (token,hook) (by simp [queue])
  have later : ∀ waiting ∈ rest, waiting ∈ uow.onCommitHooks := fun waiting member => by simp [queue,member]
  have distinct := good.distinct
  rw [queue,List.map_cons,List.nodup_cons] at distinct
  constructor
  · intro other member
    simp only [List.mem_append,List.mem_singleton,Event.ran.injEq,reduceCtorEq,or_false] at member
    rcases member with old | old | rfl
    · exact good.young other (Or.inl old)
    · exact good.young other (Or.inr old)
    · exact good.young other (Or.inl waits.1)
  · exact distinct.2
  · intro waiting member
    obtain ⟨registered,idle⟩ := good.waiting waiting (later waiting member)
    have differs : waiting.1 ≠ token := by
      rintro rfl
      exact distinct.1 (List.mem_map.mpr ⟨waiting,member,rfl⟩)
    exact ⟨List.mem_append_left _ registered,by simp [idle,differs]⟩
  · intro other
    by_cases same : other = token
    · subst same
      simp [List.count_append,List.count_eq_zero.mpr waits.2]
    · simpa [List.count_append,Ne.symm same] using good.once other
  · intro before other middle after split
    rcases snoc_split_ran split with ⟨earlier,old⟩ | ⟨old,new⟩
    · exact good.late before other middle earlier old
    · obtain rfl := Event.ran.inj new
      exact (committed_iff counted middle).mpr
        (ready _ hook (good.pending before token middle hook old (by simp [queue])))
  · intro before other after split
    rcases Trace.snoc_split split with ⟨earlier,old,rfl⟩ | ⟨_,new,_⟩
    · rcases good.served before other earlier old with ran | ⟨waiting,member⟩
      · exact Or.inl (List.mem_append_left _ ran)
      · rw [queue] at member
        rcases List.mem_cons.mp member with same | member
        · exact Or.inl (by simp [(Prod.mk.inj same).1])
        · exact Or.inr ⟨waiting,member⟩
    · simp at new
  · intro before other after waiting split member
    rcases Trace.snoc_split split with ⟨earlier,old,rfl⟩ | ⟨_,new,_⟩
    · simpa using good.pending before other earlier waiting old (later _ member)
    · simp at new

theorem trigger {moved : Option Outcome → Hook → Prop} (good : Good counted outlook uow)
    (ready : ∀ first hook, outlook first hook → first = some .committed)
    (barren : ∀ waiting ∈ uow.onCommitHooks, waiting.2.registers = []) :
    Good counted moved uow.triggerCommitHooks := by
  induction uow using UnitOfWork.triggerCommitHooks.induct with
  | case1 uow empty =>
    rw [triggerCommitHooks_nil empty]
    exact ⟨good.young,good.distinct,good.waiting,good.once,good.late,good.served,by simp [empty]⟩
  | case2 uow token hook rest queue ih =>
    obtain ⟨childless,others⟩ := List.forall_mem_cons.mp (queue ▸ barren)
    obtain ⟨errors,called⟩ := UnitOfWork.call_eq {uow with onCommitHooks := rest} token hook
    rw [triggerCommitHooks_cons queue]
    refine ih (good.call queue childless ready) ?_
    rw [called]
    simpa [childless] using others

theorem commitAndTrigger {moved : Option Outcome → Hook → Prop} (good : Good counted outlook uow)
    (ready : ∀ first hook, outlook first hook → first.or (some .committed) = some .committed ∧ hook.registers = []) :
    Good counted moved (uow.settle .committed).triggerCommitHooks := by
  have settled : Good counted (fun first _ => first = some .committed) (uow.settle .committed) :=
    good.settle .committed fun first hook holds => (ready first hook holds).1
  refine settled.trigger (fun _ _ committed => committed) ?_
  intro waiting member
  obtain ⟨before,after,split⟩ := List.append_of_mem (good.waiting waiting member).1
  exact (ready _ _ (good.pending before waiting.1 after waiting.2 split member)).2

theorem exactHooks (good : Good counted (fun first _ => first ≠ some .committed) uow) :
    ExactHooks counted uow.trace := by
  refine ⟨fun before token after split => ⟨fun ran => ?_,fun committed => ?_⟩,good.late,good.once⟩
  · obtain ⟨middle,rest,rfl⟩ := List.append_of_mem ran
    have covered := (committed_iff counted middle).mp (good.late before token middle rest split)
    rw [committed_iff,outcomes_append,firstOutcome_append,covered]
    rfl
  · rcases good.served before token after split with ran | ⟨hook,member⟩
    · exact ran
    · exact absurd ((committed_iff counted after).mp committed) (good.pending before token after hook split member)

end Good

def Outlook (counted : Bool) (implementation : Implementation) (body : List Op) (exit : Exit)
    (first : Option Outcome) (hook : Hook) : Prop :=
  let settled := first.or
    (firstOutcome counted (body.flatMap (·.outcomes implementation) ++ exit.outcomes implementation))
  (Drains implementation body exit → settled = some .committed ∧ hook.registers = []) ∧
    (¬ Drains implementation body exit → settled ≠ some .committed)

theorem outlook_none {counted : Bool} {implementation : Implementation} {body : List Op} {exit : Exit} {hook : Hook}
    (suits : Suits counted implementation body exit hook) : Outlook counted implementation body exit none hook := by
  simpa [Outlook,Suits,CommitsNext] using suits

theorem Outlook.next {counted : Bool} {implementation : Implementation} {op : Op} {body : List Op} {exit : Exit}
    {first : Option Outcome} {hook : Hook} (outlook : Outlook counted implementation (op::body) exit first hook)
    (keeps : ¬ (implementation = .mongo ∧ op.commits = true)) :
    Outlook counted implementation body exit
      (first.or (firstOutcome counted (op.outcomes implementation))) hook := by
  -- An operation that does not empty the queue moves its outcomes from the rest of the body to the
  -- past.
  simpa [Outlook,drains_cons,keeps,firstOutcome_append,Option.or_assoc] using outlook

theorem step_good {counted : Bool} {implementation : Implementation} {op : Op} {body : List Op} {exit : Exit}
    {uow : UnitOfWork} (good : Good counted (Outlook counted implementation (op::body) exit) uow)
    (suits : ∀ hook, op = .onCommit hook → Suits counted implementation body exit hook) :
    Good counted (Outlook counted implementation body exit) (implementation.step uow op) := by
  by_cases drains : implementation = .mongo ∧ op.commits = true
  · obtain ⟨rfl,commits⟩ := drains
    cases op with
    | commit call =>
      cases call with
      | succeeds =>
        refine good.commitAndTrigger fun first hook outlook => ?_
        simpa [firstOutcome_cons,Op.outcomes,Outcome.counts] using
          outlook.1 ((drains_cons _ _ _ _).mpr (Or.inl ⟨rfl,commits⟩))
      | fails undone => simp [Op.commits] at commits
    | _ => simp [Op.commits] at commits
  · have next := fun first hook (outlook : Outlook counted implementation (op::body) exit first hook) =>
      outlook.next drains
    cases op with
    | onCommit hook =>
      refine (good.weaken fun first hook outlook => ?_).onCommit (outlook_none (suits hook rfl))
      simpa [Op.outcomes,firstOutcome] using next first hook outlook
    | rollback succeeds => exact good.settle (.rolledBack succeeds) next
    | commit call =>
      cases call with
      | succeeds =>
        cases implementation with
        | base => exact good.settle .committed next
        | sqlAlchemy => exact good.settle .committed next
        | mongo => exact absurd ⟨rfl,rfl⟩ drains
      | fails undone =>
        cases implementation with
        | base =>
          exact good.weaken fun first hook outlook => by
            simpa [Op.outcomes,firstOutcome] using next first hook outlook
        | sqlAlchemy => exact good.settle (.rolledBack undone) next
        | mongo =>
          exact good.weaken fun first hook outlook => by
            simpa [Op.outcomes,firstOutcome] using next first hook outlook

theorem aexit_good {counted : Bool} {implementation : Implementation} {exit : Exit} {uow : UnitOfWork}
    (good : Good counted (Outlook counted implementation [] exit) uow) :
    Good counted (fun first _ => first ≠ some .committed) (implementation.aexit uow exit) := by
  by_cases drains : exit = .returned .succeeds
  · subst drains
    have triggered : Good counted (fun first _ => first ≠ some .committed)
        (uow.settle .committed).triggerCommitHooks :=
      good.commitAndTrigger fun first hook outlook => by
        simpa [Exit.outcomes,firstOutcome_cons,Outcome.counts] using outlook.1 (Or.inl rfl)
    cases implementation <;> exact triggered
  · have next : ∀ first hook, Outlook counted implementation [] exit first hook →
        first.or (firstOutcome counted (exit.outcomes implementation)) ≠ some .committed :=
      fun first hook outlook => by simpa using outlook.2 (by simpa [Drains] using drains)
    cases exit with
    | raised succeeds => cases implementation <;> exact good.settle (.rolledBack succeeds) next
    | returned call =>
      cases call with
      | succeeds => exact absurd rfl drains
      | fails undone =>
        cases implementation with
        | base =>
          exact good.weaken fun first hook outlook => by
            simpa [Exit.outcomes,firstOutcome] using next first hook outlook
        | sqlAlchemy => exact good.settle (.rolledBack undone) next
        | mongo => exact good.settle (.rolledBack undone) next

theorem asyncWith_good {counted : Bool} {implementation : Implementation} {body : List Op} {exit : Exit}
    {uow : UnitOfWork} (good : Good counted (Outlook counted implementation body exit) uow)
    (suits : ∀ before hook after, body = before ++ .onCommit hook::after →
      Suits counted implementation after exit hook) :
    Good counted (fun first _ => first ≠ some .committed) (implementation.asyncWith uow body exit) := by
  induction body generalizing uow with
  | nil => exact aexit_good good
  | cons op rest ih =>
    refine ih (step_good good ?_) ?_
    · rintro hook rfl
      exact suits [] hook rest rfl
    · rintro before hook after rfl
      exact suits (op::before) hook after rfl

/-- Hooks run exactly for committed work if and only if the body suits each hook
it registers. -/
theorem exactHooks_iff (counted : Bool) (implementation : Implementation) (body : List Op) (exit : Exit) :
    ExactHooks counted (implementation.asyncWith .create body exit).trace ↔
      ∀ before hook after, body = before ++ .onCommit hook::after → Suits counted implementation after exit hook := by
  constructor
  · rintro exactly before hook after rfl
    exact suits_of_exactHooks exactly
  · intro suits
    exact (asyncWith_good Good.create suits).exactHooks

def notify : Hook := ⟨[],false⟩

/-- An explicit commit does not run the hooks of the base class and of SQLAlchemy,
and an exception after it loses them; a rollback of MongoDB leaves a hook that the
exit then runs. -/
theorem hooks_lost_or_fired :
    ¬ ExactHooks false (Implementation.base.asyncWith .create [.onCommit notify,.commit .succeeds] (.raised true)).trace ∧
      ¬ ExactHooks false
        (Implementation.sqlAlchemy.asyncWith .create [.onCommit notify,.commit .succeeds] (.raised true)).trace ∧
      ¬ ExactHooks false
        (Implementation.mongo.asyncWith .create [.onCommit notify,.rollback true] (.returned .succeeds)).trace := by
  have lost : ¬ ExactHooks false [.registered 0,.settled .committed,.settled (.rolledBack true)] := by
    intro exactly
    have ran := (exactly.runs [] 0 _ rfl).mpr ⟨[],_,rfl,by simp⟩
    simp at ran
  have fired : ¬ ExactHooks false [.registered 0,.settled (.rolledBack true),.settled .committed,.ran 0] := by
    intro exactly
    have committed := (committed_iff _ _).mp ((exactly.runs [] 0 _ rfl).mp (by simp))
    simp [firstOutcome_cons,Outcome.counts] at committed
  have drained :
      (Implementation.mongo.asyncWith .create [.onCommit notify,.rollback true] (.returned .succeeds)).trace =
      [.registered 0,.settled (.rolledBack true),.settled .committed,.ran 0] := by
    change (UnitOfWork.triggerCommitHooks ⟨[(0,notify)],1,_,[]⟩).trace = _
    rw [triggerCommitHooks_cons rfl]
    exact congrArg UnitOfWork.trace (triggerCommitHooks_nil rfl)
  exact ⟨lost,lost,drained ▸ fired⟩

end CqrsDdd.Transactions
