import CqrsDdd.Transition
import Mathlib.Data.List.Count

/-! Post-commit hooks of the units of work. The hooks wait in one queue that
neither `commit` nor `rollback` of the base class and of `SQLAlchemyUnitOfWork`
touches: it is emptied when the context is left with a commit, or, for
`MongoUnitOfWork`, at every commit. -/
namespace CqrsDdd.Transactions

/-- A callback, by the hooks it registers when it is called and whether it raises then. -/
inductive Hook
  | mk (registers : List Hook) (raises : Bool)

namespace Hook

def registers : Hook → List Hook
  | ⟨registers,_⟩ => registers

def raises : Hook → Bool
  | ⟨_,raises⟩ => raises

mutual
def weight : Hook → Nat
  | ⟨registers,_⟩ => weights registers + 1

def weights : List Hook → Nat
  | [] => 0
  | hook::rest => hook.weight + weights rest
end

theorem weights_append (first second : List Hook) : weights (first ++ second) = weights first + weights second := by
  induction first with
  | nil => simp [weights]
  | cons hook rest ih => simp [weights,ih,Nat.add_assoc]

theorem weight_eq (hook : Hook) : hook.weight = weights hook.registers + 1 := by
  obtain ⟨registered,raised⟩ := hook
  simp [weight,registers]

end Hook

inductive Outcome
  | committed | rolledBack (succeeded : Bool)
  deriving DecidableEq, Repr

inductive Event
  | registered (token : Nat)
  | ran (token : Nat)
  | settled (outcome : Outcome)
  deriving DecidableEq, Repr

structure UnitOfWork where
  onCommitHooks : List (Nat × Hook)
  nextToken : Nat
  trace : List Event
  errors : List Nat

namespace UnitOfWork

def create : UnitOfWork := ⟨[],0,[],[]⟩

def onCommit (uow : UnitOfWork) (callback : Hook) : UnitOfWork :=
  ⟨uow.onCommitHooks ++ [(uow.nextToken,callback)],uow.nextToken+1,
    uow.trace ++ [Event.registered uow.nextToken],uow.errors⟩

def call (uow : UnitOfWork) (token : Nat) (callback : Hook) : UnitOfWork :=
  let called := callback.registers.foldl onCommit {uow with trace := uow.trace ++ [Event.ran token]}
  if callback.raises then {called with errors := called.errors ++ [token]} else called

theorem foldl_onCommit (hooks : List Hook) (uow : UnitOfWork) :
    hooks.foldl onCommit uow =
      ⟨uow.onCommitHooks ++ (List.range' uow.nextToken hooks.length).zip hooks,uow.nextToken + hooks.length,
        uow.trace ++ (List.range' uow.nextToken hooks.length).map .registered,uow.errors⟩ := by
  induction hooks generalizing uow with
  | nil => simp
  | cons hook rest ih =>
    rw [List.foldl_cons,ih]
    simp [onCommit,List.range'_succ,Nat.add_comm,Nat.add_left_comm]

theorem call_eq (uow : UnitOfWork) (token : Nat) (callback : Hook) :
    ∃ errors, uow.call token callback =
      ⟨uow.onCommitHooks ++ (List.range' uow.nextToken callback.registers.length).zip callback.registers,
        uow.nextToken + callback.registers.length,
        uow.trace ++ Event.ran token::(List.range' uow.nextToken callback.registers.length).map .registered,
        errors⟩ := by
  simp only [call,foldl_onCommit]
  split
  all_goals exact ⟨_,by simp; rfl⟩

def triggerCommitHooks (uow : UnitOfWork) : UnitOfWork :=
  match _queue : uow.onCommitHooks with
  | [] => uow
  | (token,callback)::rest => triggerCommitHooks (call {uow with onCommitHooks := rest} token callback)
termination_by Hook.weights (uow.onCommitHooks.map Prod.snd)
decreasing_by
  obtain ⟨errors,called⟩ := call_eq {uow with onCommitHooks := rest} token callback
  have snd : ((List.range' uow.nextToken callback.registers.length).zip callback.registers).map Prod.snd =
      callback.registers := List.map_snd_zip (by simp)
  rw [called,_queue]
  simp only [List.map_append,Hook.weights_append,List.map_cons,Hook.weights,Hook.weight_eq callback,snd]
  omega

def settle (uow : UnitOfWork) (outcome : Outcome) : UnitOfWork :=
  {uow with trace := uow.trace ++ [Event.settled outcome]}

end UnitOfWork

/-- How a call of `commit` ends; `undone` tells whether a rollback made because of
the failure succeeds. -/
inductive CommitCall
  | succeeds | fails (undone : Bool)
  deriving DecidableEq, Repr

inductive Implementation
  | base | sqlAlchemy | mongo
  deriving DecidableEq, Repr

/-- What the body of `async with` does with the unit of work. It may catch the
exception of a call that fails. -/
inductive Op
  | onCommit (callback : Hook)
  | commit (call : CommitCall)
  | rollback (succeeds : Bool)

inductive Exit
  | returned (call : CommitCall)
  | raised (rollback : Bool)
  deriving DecidableEq, Repr

/-- The abstract `commit` and `rollback` of the base class do not know of the hooks. -/
def UnitOfWork.commit (uow : UnitOfWork) : CommitCall → UnitOfWork
  | .succeeds => uow.settle .committed
  | .fails _ => uow

def UnitOfWork.rollback (uow : UnitOfWork) (succeeds : Bool) : UnitOfWork := uow.settle (.rolledBack succeeds)

def UnitOfWork.aexit (commit : UnitOfWork → CommitCall → UnitOfWork) (uow : UnitOfWork) : Exit → UnitOfWork
  | .returned .succeeds => (commit uow .succeeds).triggerCommitHooks
  | .returned (.fails undone) => commit uow (.fails undone)
  | .raised succeeds => uow.rollback succeeds

def SQLAlchemyUnitOfWork.commit (uow : UnitOfWork) : CommitCall → UnitOfWork
  | .succeeds => uow.settle .committed
  | .fails undone => uow.rollback undone

/-- A commit outside a transaction is a call that succeeds. -/
def MongoUnitOfWork.commit (uow : UnitOfWork) : CommitCall → UnitOfWork
  | .succeeds => (uow.settle .committed).triggerCommitHooks
  | .fails _ => uow

def MongoUnitOfWork.aexit (uow : UnitOfWork) : Exit → UnitOfWork
  | .returned .succeeds => MongoUnitOfWork.commit uow .succeeds
  | .returned (.fails undone) => (MongoUnitOfWork.commit uow (.fails undone)).rollback undone
  | .raised succeeds => uow.rollback succeeds

namespace Implementation

def commit : Implementation → UnitOfWork → CommitCall → UnitOfWork
  | .base => UnitOfWork.commit
  | .sqlAlchemy => SQLAlchemyUnitOfWork.commit
  | .mongo => MongoUnitOfWork.commit

def aexit : Implementation → UnitOfWork → Exit → UnitOfWork
  | .base => UnitOfWork.aexit UnitOfWork.commit
  | .sqlAlchemy => UnitOfWork.aexit SQLAlchemyUnitOfWork.commit
  | .mongo => MongoUnitOfWork.aexit

def step (implementation : Implementation) (uow : UnitOfWork) : Op → UnitOfWork
  | .onCommit callback => uow.onCommit callback
  | .commit call => implementation.commit uow call
  | .rollback succeeds => uow.rollback succeeds

def asyncWith (implementation : Implementation) (uow : UnitOfWork) (body : List Op) (exit : Exit) : UnitOfWork :=
  implementation.aexit (Transition.run implementation.step uow body) exit

end Implementation

/-- Some commit succeeded and no rollback came before it; `counted` tells whether a
rollback that failed is one. -/
def Committed (counted : Bool) (events : List Event) : Prop :=
  ∃ earlier later, events = earlier ++ Event.settled .committed::later ∧
    ∀ succeeded, .settled (.rolledBack succeeded) ∈ earlier → (succeeded || counted) = false

/-- A hook runs exactly for committed work: what follows a registration holds a run
of the hook if and only if it holds a commit that covers it, the run comes after
such a commit, and no hook runs twice. -/
structure ExactHooks (counted : Bool) (trace : List Event) : Prop where
  runs : ∀ before token after, trace = before ++ Event.registered token::after →
    (.ran token ∈ after ↔ Committed counted after)
  late : ∀ before token middle after, trace = before ++ Event.registered token::(middle ++ Event.ran token::after) →
    Committed counted middle
  once : ∀ token, trace.count (.ran token) ≤ 1

end CqrsDdd.Transactions
