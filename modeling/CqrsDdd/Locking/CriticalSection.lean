import CqrsDdd.Dict
import Mathlib.Data.List.Induction
import Mathlib.Data.List.Sort
import Mathlib.Data.Prod.Lex
import Mathlib.Data.String.Basic

/-! The locks of one critical section. The declared resources are consolidated
and sorted, acquired one after the other, and released in reverse order; the
calls to the lock strategy are kept as a trace. -/
namespace CqrsDdd.Locking

inductive LockMode
  | read
  | write
  deriving DecidableEq, Repr

structure ResourceIdentifier where
  resourceType : String
  resourceId : String
  lockMode : LockMode := .write
  deriving DecidableEq, Repr

/-- The order of the resources is the order of their keys; the mode is not a part of it. -/
def ResourceIdentifier.key (resource : ResourceIdentifier) : String ×ₗ String :=
  toLex (resource.resourceType,resource.resourceId)

/-- What matters of the class of an exception: `LockAcquisitionError` and other
`ConcurrencyError`s, other exceptions, and those that are no `Exception`, like a cancellation. -/
inductive ErrorKind
  | lockAcquisition
  | concurrency
  | other
  | base
  deriving DecidableEq, Repr

def ErrorKind.isConcurrency : ErrorKind → Bool
  | .lockAcquisition | .concurrency => true
  | .other | .base => false

structure Failure where
  kind : ErrorKind
  text : String
  deriving DecidableEq, Repr

/-- An exception by where it comes from: the handler, the lock strategy, or the section itself. -/
inductive Raised
  | own (failure : Failure)
  | locking (failure : Failure)
  | acquisition (text : String)
  deriving DecidableEq, Repr

def Raised.kind : Raised → ErrorKind
  | .own failure | .locking failure => failure.kind
  | .acquisition _ => .lockAcquisition

/-- A hook around the call can still raise once the lock is taken; the token is then recorded. -/
inductive Attempt (Token : Type)
  | granted (token : Token)
  | failed (token : Option Token) (failure : Failure)

/-- How the lock strategy answers the calls of one section. -/
structure LockStrategy (Token : Type) where
  acquire : ResourceIdentifier → Attempt Token
  release : ResourceIdentifier → Token → Option Failure

/-- `handle` is the call of the next handler. -/
inductive Call (Token : Type)
  | acquire (resource : ResourceIdentifier)
  | release (resource : ResourceIdentifier) (token : Token)
  | handle

variable {Token : Type}

abbrev Acquired (Token : Type) := List (ResourceIdentifier × Token)

namespace CriticalSection

def consolidateOne (consolidated : Dict (String ×ₗ String) ResourceIdentifier) (resource : ResourceIdentifier) :
    Dict (String ×ₗ String) ResourceIdentifier :=
  if (consolidated.get resource.key).isNone ∨ resource.lockMode = .write then consolidated.set resource.key resource
  else consolidated

def consolidate (resources : List ResourceIdentifier) : Dict (String ×ₗ String) ResourceIdentifier :=
  resources.foldl consolidateOne Dict.empty

def requested (resources : List ResourceIdentifier) : List ResourceIdentifier :=
  (consolidate resources).values.insertionSort fun first second => first.key ≤ second.key

/-- The loop of `__aenter__`: the calls, what is acquired at its end and what ended it early. -/
def acquireAll (strategy : LockStrategy Token) :
    Acquired Token → List ResourceIdentifier → List (Call Token) × Acquired Token × Option Failure
  | acquired, [] => ([],acquired,none)
  | acquired, resource::rest =>
    match strategy.acquire resource with
    | .granted token =>
      let later := acquireAll strategy (acquired ++ [(resource,token)]) rest
      (.acquire resource::later.1,later.2)
    | .failed token failure =>
      ([.acquire resource],acquired ++ (token.map fun token => (resource,token)).toList,some failure)

/-- The loop of `_rollback` over the locks in release order; only what is no `Exception` escapes it. -/
def rollback (strategy : LockStrategy Token) : Acquired Token → List (Call Token) × Option Failure
  | [] => ([],none)
  | lock::rest =>
    let later := rollback strategy rest
    match strategy.release lock.1 lock.2 with
    | none => (.release lock.1 lock.2::later.1,later.2)
    | some failure =>
      if failure.kind = .base then ([.release lock.1 lock.2],some failure)
      else (.release lock.1 lock.2::later.1,later.2)

def modeText : LockMode → String
  | .read => "read"
  | .write => "write"

/-- `_rollback` has emptied the list by then: the error names the first resource and counts no lock. -/
def acquisitionError (timeout : String) (resources : List ResourceIdentifier) (failure : Failure) : Raised :=
  match resources with
  | [] => .locking failure
  | resource::_ =>
    .acquisition ("Failed to acquire " ++ modeText resource.lockMode ++ " lock on " ++ resource.resourceType ++ ":" ++
      resource.resourceId ++ " within " ++ timeout ++ "s - Rolled back 0 locks. " ++ failure.text)

def enter (strategy : LockStrategy Token) (timeout : String) (resources : List ResourceIdentifier) :
    List (Call Token) × Except Raised (Acquired Token) :=
  let attempt := acquireAll strategy [] (requested resources)
  match attempt.2.2 with
  | none => (attempt.1,.ok attempt.2.1)
  | some failure =>
    -- `except Exception` does not see what is no `Exception`
    if failure.kind = .base then (attempt.1,.error (.locking failure))
    else
      let undone := rollback strategy attempt.2.1.reverse
      match undone.2 with
      | some escaped => (attempt.1 ++ undone.1,.error (.locking escaped))
      | none =>
        if failure.kind = .lockAcquisition then (attempt.1 ++ undone.1,.error (.locking failure))
        else (attempt.1 ++ undone.1,.error (acquisitionError timeout (requested resources) failure))

def exit (strategy : LockStrategy Token) (acquired : Acquired Token) : List (Call Token) × Option Failure :=
  rollback strategy acquired.reverse

/-- What the consolidated dictionary holds after a list of resources. -/
structure Consolidated (resources : List ResourceIdentifier)
    (consolidated : Dict (String ×ₗ String) ResourceIdentifier) : Prop where
  complete : ∀ resource ∈ resources, (consolidated.get resource.key).isSome
  key : ∀ key resource, consolidated.get key = some resource → resource.key = key
  declared : ∀ key resource, consolidated.get key = some resource → resource ∈ resources
  write : ∀ key resource, consolidated.get key = some resource →
    (∃ other ∈ resources, other.key = key ∧ other.lockMode = .write) → resource.lockMode = .write

theorem Consolidated.one {resources : List ResourceIdentifier}
    {consolidated : Dict (String ×ₗ String) ResourceIdentifier} (before : Consolidated resources consolidated)
    (resource : ResourceIdentifier) : Consolidated (resources ++ [resource]) (consolidateOne consolidated resource) := by
  unfold consolidateOne
  split
  next taken =>
    refine ⟨fun other member => ?_,fun key found present => ?_,fun key found present => ?_,fun key found present asked => ?_⟩
    · rw [Dict.get_set]
      split
      next => rfl
      next differs =>
        rcases List.mem_append.mp member with old | new
        · exact before.complete other old
        · exact absurd (by rw [List.mem_singleton.mp new]) differs
    all_goals rw [Dict.get_set] at present; split at present
    · rename_i same
      rw [← Option.some.inj present,same]
    · exact before.key key found present
    · rw [← Option.some.inj present]
      simp
    · exact List.mem_append_left _ (before.declared key found present)
    · rename_i same
      obtain rfl := Option.some.inj present
      rcases taken with fresh | write
      · obtain ⟨other,member,sameKey,mode⟩ := asked
        rcases List.mem_append.mp member with old | new
        · have known := before.complete other old
          rw [sameKey,same,Option.isNone_iff_eq_none.mp fresh] at known
          cases known
        · rw [← List.mem_singleton.mp new]
          exact mode
      · exact write
    · rename_i differs
      obtain ⟨other,member,sameKey,mode⟩ := asked
      refine before.write key found present ⟨other,?_,sameKey,mode⟩
      rcases List.mem_append.mp member with old | new
      · exact old
      · exact absurd (by rw [← sameKey,List.mem_singleton.mp new]) differs
  next kept =>
    obtain ⟨known,read⟩ := not_or.mp kept
    refine ⟨fun other member => ?_,before.key,fun key found present => ?_,fun key found present asked => ?_⟩
    · rcases List.mem_append.mp member with old | new
      · exact before.complete other old
      · rw [List.mem_singleton.mp new]
        simpa [Option.isSome_iff_ne_none] using known
    · exact List.mem_append_left _ (before.declared key found present)
    · obtain ⟨other,member,sameKey,mode⟩ := asked
      refine before.write key found present ⟨other,?_,sameKey,mode⟩
      rcases List.mem_append.mp member with old | new
      · exact old
      · exact absurd (List.mem_singleton.mp new ▸ mode) read

theorem consolidated_consolidate (resources : List ResourceIdentifier) :
    Consolidated resources (consolidate resources) := by
  induction resources using List.reverseRecOn with
  | nil => constructor <;> simp [consolidate]
  | append_singleton init resource ih =>
    have next := ih.one resource
    rwa [consolidate,List.foldl_append,List.foldl_cons,List.foldl_nil]

theorem get_of_mem_requested {resources : List ResourceIdentifier} {resource : ResourceIdentifier}
    (member : resource ∈ requested resources) : (consolidate resources).get resource.key = some resource := by
  rw [requested,List.mem_insertionSort] at member
  obtain ⟨key,found⟩ := Dict.get_of_mem_values _ member
  rwa [(consolidated_consolidate resources).key key resource found]

theorem mem_requested_of_get {resources : List ResourceIdentifier} {key : String ×ₗ String}
    {resource : ResourceIdentifier} (found : (consolidate resources).get key = some resource) :
    resource ∈ requested resources := by
  rw [requested,List.mem_insertionSort]
  exact List.mem_map.mpr ⟨(key,resource),Dict.mem_of_lookup found,rfl⟩

theorem requested_sorted (resources : List ResourceIdentifier) :
    (requested resources).Pairwise fun first second => first.key < second.key := by
  have keys : (consolidate resources).values.map ResourceIdentifier.key =
      (consolidate resources).entries.map Prod.fst := by
    rw [Dict.values,List.map_map]
    refine List.map_congr_left fun entry member => ?_
    exact (consolidated_consolidate resources).key entry.1 entry.2
      (Dict.lookup_of_mem (consolidate resources).distinct member)
  have distinct : ((requested resources).map ResourceIdentifier.key).Nodup := by
    rw [requested,((List.perm_insertionSort _ _).map _).nodup_iff,keys]
    exact (consolidate resources).distinct
  have weak : (requested resources).Pairwise fun first second => first.key ≤ second.key :=
    List.pairwise_insertionSort _ _
  rw [List.nodup_iff_pairwise_ne,List.pairwise_map] at distinct
  exact (weak.and distinct).imp fun both => lt_of_le_of_ne both.1 both.2

theorem requested_complete {resources : List ResourceIdentifier} {resource : ResourceIdentifier}
    (member : resource ∈ resources) : ∃ asked ∈ requested resources, asked.key = resource.key := by
  obtain ⟨asked,found⟩ := Option.isSome_iff_exists.mp ((consolidated_consolidate resources).complete resource member)
  exact ⟨asked,mem_requested_of_get found,(consolidated_consolidate resources).key _ asked found⟩

theorem requested_declared {resources : List ResourceIdentifier} {resource : ResourceIdentifier}
    (member : resource ∈ requested resources) : resource ∈ resources :=
  (consolidated_consolidate resources).declared _ resource (get_of_mem_requested member)

theorem requested_write {resources : List ResourceIdentifier} {resource other : ResourceIdentifier}
    (member : resource ∈ requested resources) (declared : other ∈ resources) (same : other.key = resource.key)
    (write : other.lockMode = .write) : resource.lockMode = .write :=
  (consolidated_consolidate resources).write _ resource (get_of_mem_requested member) ⟨other,declared,same,write⟩

theorem acquireAll_cases (strategy : LockStrategy Token) (acquired : Acquired Token)
    (wanted : List ResourceIdentifier) :
    ∃ held : Acquired Token, (∀ lock ∈ held, strategy.acquire lock.1 = .granted lock.2) ∧
      ((held.map Prod.fst = wanted ∧
          acquireAll strategy acquired wanted = (wanted.map .acquire,acquired ++ held,none)) ∨
        ∃ resource rest token failure, wanted = held.map Prod.fst ++ resource::rest ∧
          strategy.acquire resource = .failed token failure ∧
          acquireAll strategy acquired wanted = ((held.map Prod.fst ++ [resource]).map .acquire,
            acquired ++ held ++ (token.map fun token => (resource,token)).toList,some failure)) := by
  induction wanted generalizing acquired with
  | nil => exact ⟨[],by simp,.inl ⟨rfl,by simp [acquireAll]⟩⟩
  | cons resource rest ih =>
    cases attempt : strategy.acquire resource with
    | failed token failure =>
      exact ⟨[],by simp,.inr ⟨resource,rest,token,failure,rfl,attempt,by simp [acquireAll,attempt]⟩⟩
    | granted token =>
      obtain ⟨held,granted,outcome⟩ := ih (acquired ++ [(resource,token)])
      refine ⟨(resource,token)::held,?_,?_⟩
      · intro lock member
        rcases List.mem_cons.mp member with rfl | later
        · exact attempt
        · exact granted lock later
      · rcases outcome with ⟨all,result⟩ | ⟨next,others,spare,failure,split,refused,result⟩
        · exact .inl ⟨by simp [all],by simp [acquireAll,attempt,result]⟩
        · exact .inr ⟨next,others,spare,failure,by simp [split],refused,by simp [acquireAll,attempt,result]⟩

theorem acquireAll_failed {strategy : LockStrategy Token} {held : Acquired Token} {resource : ResourceIdentifier}
    {rest : List ResourceIdentifier} {token : Option Token} {failure : Failure} (acquired : Acquired Token)
    (granted : ∀ lock ∈ held, strategy.acquire lock.1 = .granted lock.2)
    (refused : strategy.acquire resource = .failed token failure) :
    acquireAll strategy acquired (held.map Prod.fst ++ resource::rest) =
      ((held.map Prod.fst ++ [resource]).map .acquire,
        acquired ++ held ++ (token.map fun token => (resource,token)).toList,some failure) := by
  induction held generalizing acquired with
  | nil => simp [acquireAll,refused]
  | cons lock others ih =>
    have first := granted lock List.mem_cons_self
    have later := ih (acquired ++ [lock]) fun other member => granted other (List.mem_cons_of_mem _ member)
    simp [acquireAll,first,later]

def Interrupts (strategy : LockStrategy Token) (lock : ResourceIdentifier × Token) : Prop :=
  ∃ failure, strategy.release lock.1 lock.2 = some failure ∧ failure.kind = .base

def releaseCalls (locks : Acquired Token) : List (Call Token) := locks.map fun lock => .release lock.1 lock.2

theorem rollback_cases (strategy : LockStrategy Token) (locks : Acquired Token) :
    ((∀ lock ∈ locks, ¬ Interrupts strategy lock) ∧ rollback strategy locks = (releaseCalls locks,none)) ∨
      ∃ before lock after failure, locks = before ++ lock::after ∧ (∀ other ∈ before, ¬ Interrupts strategy other) ∧
        Interrupts strategy lock ∧ failure.kind = .base ∧
        rollback strategy locks = (releaseCalls (before ++ [lock]),some failure) := by
  induction locks with
  | nil => exact .inl ⟨by simp,rfl⟩
  | cons lock rest ih =>
    have passes (quiet : ¬ Interrupts strategy lock) : rollback strategy (lock::rest) =
        (.release lock.1 lock.2::(rollback strategy rest).1,(rollback strategy rest).2) := by
      cases released : strategy.release lock.1 lock.2 with
      | none => simp [rollback,released]
      | some failure =>
        have kind : ¬ failure.kind = .base := fun base => quiet ⟨failure,released,base⟩
        simp [rollback,released,kind]
    by_cases interrupted : Interrupts strategy lock
    · obtain ⟨failure,released,base⟩ := interrupted
      refine .inr ⟨[],lock,rest,failure,rfl,by simp,⟨failure,released,base⟩,base,?_⟩
      simp [rollback,released,base,releaseCalls]
    · have extend {others : Acquired Token} (quiet : ∀ other ∈ others, ¬ Interrupts strategy other) :
          ∀ other ∈ lock::others, ¬ Interrupts strategy other := by
        intro other member
        rcases List.mem_cons.mp member with rfl | later
        · exact interrupted
        · exact quiet other later
      rcases ih with ⟨quiet,result⟩ | ⟨before,other,after,failure,rfl,quiet,interrupts,base,result⟩
      · exact .inl ⟨extend quiet,by rw [passes interrupted,result]; rfl⟩
      · exact .inr ⟨lock::before,other,after,failure,rfl,extend quiet,interrupts,base,by
          rw [passes interrupted,result]; rfl⟩

/-- All releases are asked for exactly if no release before the last one is interrupted. -/
theorem rollback_complete_iff (strategy : LockStrategy Token) (locks : Acquired Token) :
    (rollback strategy locks).1 = releaseCalls locks ↔ ∀ lock ∈ locks.dropLast, ¬ Interrupts strategy lock := by
  rcases rollback_cases strategy locks with
    ⟨quiet,result⟩ | ⟨before,lock,after,failure,rfl,quiet,interrupts,_,result⟩
  · rw [result]
    exact iff_of_true rfl fun lock member => quiet lock (List.dropLast_subset _ member)
  · rw [result]
    rcases List.eq_nil_or_concat after with rfl | ⟨init,last,rfl⟩
    · rw [List.dropLast_concat]
      exact iff_of_true rfl quiet
    · refine iff_of_false (fun same => ?_) fun none => none lock ?_ interrupts
      · have lengths := congrArg List.length same
        simp [releaseCalls] at lengths
      · rw [List.concat_eq_append,← List.cons_append,← List.append_assoc,List.dropLast_concat]
        simp

end CriticalSection

end CqrsDdd.Locking
