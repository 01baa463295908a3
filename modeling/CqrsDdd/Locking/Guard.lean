import CqrsDdd.Locking.CriticalSection

/-! The guard of a command. One `except` clause covers the acquisition, the
handler and the release, so in fail-open mode a `ConcurrencyError` of the
handler itself runs the command a second time, now without its locks. -/
namespace CqrsDdd.Locking

variable {Token Result : Type}

namespace ConcurrencyGuardMiddleware

/-- What a call of the next handler gives back; calls are counted from zero. -/
def answer (handler : Nat → Except Failure Result) (call : Nat) : Except Raised Result :=
  (handler call).mapError .own

/-- A message without `get_critical_resources` is one without resources. -/
def call (strategy : LockStrategy Token) (timeout : String) (failOpen : Bool) (resources : List ResourceIdentifier)
    (handler : Nat → Except Failure Result) : List (Call Token) × Except Raised Result :=
  if resources.isEmpty then ([.handle],answer handler 0)
  else
    let entered := CriticalSection.enter strategy timeout resources
    match entered.2 with
    | .error raised =>
      if raised.kind.isConcurrency && failOpen then (entered.1 ++ [.handle],answer handler 0)
      else (entered.1,.error raised)
    | .ok acquired =>
      let left := CriticalSection.exit strategy acquired
      let calls := entered.1 ++ .handle::left.1
      -- what escapes from the release replaces the outcome of the handler
      let outcome : Except Raised Result := match left.2 with
        | some escaped => .error (.locking escaped)
        | none => answer handler 0
      match outcome with
      | .ok result => (calls,.ok result)
      | .error raised =>
        if raised.kind.isConcurrency && failOpen then (calls ++ [.handle],answer handler 1)
        else (calls,.error raised)

def isHandle : Call Token → Bool
  | .handle => true
  | .acquire _ | .release _ _ => false

def Held (strategy : LockStrategy Token) (calls : List (Call Token)) (resource : ResourceIdentifier) : Prop :=
  .acquire resource ∈ calls ∧ (∃ token, strategy.acquire resource = .granted token) ∧
    ∀ token, .release resource token ∉ calls

def Refused (strategy : LockStrategy Token) (resource : ResourceIdentifier) : Prop :=
  ∃ token failure, strategy.acquire resource = .failed token failure

structure GuardedOnce (strategy : LockStrategy Token) (failOpen : Bool) (resources : List ResourceIdentifier)
    (handler : Nat → Except Failure Result) (calls : List (Call Token)) (result : Except Raised Result) : Prop where
  once : calls.countP isHandle ≤ 1
  propagates : ∀ call < calls.countP isHandle, ∀ failure, handler call = .error failure → result = .error (.own failure)
  underLocks : failOpen = false → ∀ before after, calls = before ++ .handle::after →
    ∀ resource ∈ CriticalSection.requested resources, Held strategy before resource
  degraded : failOpen = true → ∀ before after, calls = before ++ .handle::after →
    (∀ resource ∈ CriticalSection.requested resources, Held strategy before resource) ∨
      ∃ resource ∈ CriticalSection.requested resources, .acquire resource ∈ before ∧ Refused strategy resource

/-- Every lock is granted, the handler raises, and then either the release is
interrupted or the exception is taken for a failed acquisition. -/
def Confused (strategy : LockStrategy Token) (failOpen : Bool) (resources : List ResourceIdentifier)
    (handler : Nat → Except Failure Result) : Prop :=
  resources ≠ [] ∧ (∀ resource ∈ CriticalSection.requested resources, ¬ Refused strategy resource) ∧
    ∃ failure, handler 0 = .error failure ∧
      ((failOpen = true ∧ failure.kind.isConcurrency = true) ∨
        ∃ resource ∈ CriticalSection.requested resources, ∃ token,
          strategy.acquire resource = .granted token ∧ CriticalSection.Interrupts strategy (resource,token))

theorem countP_acquire (resources : List ResourceIdentifier) :
    (resources.map (Call.acquire : ResourceIdentifier → Call Token)).countP isHandle = 0 := by
  simp [List.countP_eq_zero,isHandle]

theorem countP_rollback (strategy : LockStrategy Token) (locks : Acquired Token) :
    (CriticalSection.rollback strategy locks).1.countP isHandle = 0 := by
  rcases CriticalSection.rollback_cases strategy locks with ⟨_,result⟩ | ⟨before,lock,after,failure,_,_,_,_,result⟩ <;>
    simp [result,CriticalSection.releaseCalls,List.countP_eq_zero,isHandle]

theorem enter_cases (strategy : LockStrategy Token) (timeout : String) (resources : List ResourceIdentifier) :
    (∃ held : Acquired Token, (∀ lock ∈ held, strategy.acquire lock.1 = .granted lock.2) ∧
        held.map Prod.fst = CriticalSection.requested resources ∧
        CriticalSection.enter strategy timeout resources =
          ((CriticalSection.requested resources).map .acquire,.ok held)) ∨
      ∃ resource ∈ CriticalSection.requested resources, Refused strategy resource ∧
        ∃ calls raised, CriticalSection.enter strategy timeout resources = (calls,.error raised) ∧
          .acquire resource ∈ calls ∧ calls.countP isHandle = 0 := by
  obtain ⟨held,granted,⟨all,result⟩ | ⟨resource,rest,token,failure,split,refused,result⟩⟩ :=
    CriticalSection.acquireAll_cases strategy [] (CriticalSection.requested resources)
  · refine .inl ⟨held,granted,all,?_⟩
    simp [CriticalSection.enter,result]
  · refine .inr ⟨resource,by simp [split],⟨token,failure,refused⟩,?_⟩
    have asked : (.acquire resource : Call Token) ∈ (held.map Prod.fst ++ [resource]).map .acquire := by simp
    have silent : ((held.map Prod.fst ++ [resource]).map (Call.acquire : _ → Call Token)).countP isHandle = 0 :=
      countP_acquire _
    simp only [CriticalSection.enter,result]
    split
    next => exact ⟨_,_,rfl,asked,silent⟩
    next =>
      split
      next => exact ⟨_,_,rfl,List.mem_append_left _ asked,by rw [List.countP_append,silent,countP_rollback]⟩
      next =>
        split <;> exact ⟨_,_,rfl,List.mem_append_left _ asked,by rw [List.countP_append,silent,countP_rollback]⟩

theorem split_at_handle {first second before after : List (Call Token)} (silent : first.countP isHandle = 0)
    (quiet : second.countP isHandle = 0) (same : first ++ .handle::second = before ++ .handle::after) :
    before = first := by
  induction first generalizing before with
  | nil =>
    cases before with
    | nil => rfl
    | cons call rest =>
      simp only [List.nil_append,List.cons_append,List.cons.injEq] at same
      rw [same.2] at quiet
      simp [isHandle] at quiet
  | cons call rest ih =>
    cases before with
    | nil =>
      simp only [List.nil_append,List.cons_append,List.cons.injEq] at same
      rw [same.1] at silent
      simp [isHandle] at silent
    | cons other others =>
      simp only [List.cons_append,List.cons.injEq] at same
      have later : rest.countP isHandle = 0 := by
        rw [List.countP_cons] at silent
        omega
      rw [same.1,ih later same.2]

theorem GuardedOnce.of_none {strategy : LockStrategy Token} {failOpen : Bool} {resources : List ResourceIdentifier}
    {handler : Nat → Except Failure Result} {calls : List (Call Token)} {result : Except Raised Result}
    (silent : calls.countP isHandle = 0) : GuardedOnce strategy failOpen resources handler calls result := by
  have absent {before after : List (Call Token)} (split : calls = before ++ .handle::after) : False := by
    rw [split] at silent
    simp [isHandle] at silent
  exact ⟨by omega,fun call early => by omega,fun _ before after split => (absent split).elim,
    fun _ before after split => (absent split).elim⟩

theorem GuardedOnce.of_one {strategy : LockStrategy Token} {failOpen : Bool} {resources : List ResourceIdentifier}
    {handler : Nat → Except Failure Result} {first second : List (Call Token)} {result : Except Raised Result}
    (silent : first.countP isHandle = 0) (quiet : second.countP isHandle = 0)
    (propagates : ∀ failure, handler 0 = .error failure → result = .error (.own failure))
    (locked : (∀ resource ∈ CriticalSection.requested resources, Held strategy first resource) ∨
      failOpen = true ∧ ∃ resource ∈ CriticalSection.requested resources,
        .acquire resource ∈ first ∧ Refused strategy resource) :
    GuardedOnce strategy failOpen resources handler (first ++ .handle::second) result := by
  have count : (first ++ .handle::second).countP isHandle = 1 := by
    rw [List.countP_append,List.countP_cons,silent,quiet]
    rfl
  refine ⟨by omega,fun call early failure raised => ?_,fun closed before after split => ?_,fun _ before after split => ?_⟩
  · obtain rfl : call = 0 := by omega
    exact propagates failure raised
  · rw [split_at_handle silent quiet split]
    exact locked.resolve_right fun degraded => by simp [closed] at degraded
  · rw [split_at_handle silent quiet split]
    exact locked.imp_right And.right

theorem answer_propagates {handler : Nat → Except Failure Result} {call : Nat} {failure : Failure}
    (raised : handler call = .error failure) : answer handler call = .error (.own failure) := by
  rw [answer,raised]
  rfl

/-- All locks were granted, so the handler is called inside the critical section. -/
structure Entered (strategy : LockStrategy Token) (timeout : String) (resources : List ResourceIdentifier)
    (held : Acquired Token) : Prop where
  nonempty : resources ≠ []
  granted : ∀ lock ∈ held, strategy.acquire lock.1 = .granted lock.2
  all : held.map Prod.fst = CriticalSection.requested resources
  entered : CriticalSection.enter strategy timeout resources =
    ((CriticalSection.requested resources).map .acquire,.ok held)

namespace Entered
variable {strategy : LockStrategy Token} {timeout : String} {failOpen : Bool} {resources : List ResourceIdentifier}
  {handler : Nat → Except Failure Result} {held : Acquired Token}

theorem owned (inside : Entered strategy timeout resources held) {resource : ResourceIdentifier}
    (member : resource ∈ CriticalSection.requested resources) :
    ∃ token, (resource,token) ∈ held ∧ strategy.acquire resource = .granted token := by
  rw [← inside.all] at member
  obtain ⟨lock,present,rfl⟩ := List.mem_map.mp member
  exact ⟨lock.2,present,inside.granted lock present⟩

theorem unrefused (inside : Entered strategy timeout resources held) :
    ∀ resource ∈ CriticalSection.requested resources, ¬ Refused strategy resource := by
  rintro resource member ⟨token,failure,refused⟩
  obtain ⟨other,_,given⟩ := inside.owned member
  rw [given] at refused
  cases refused

theorem filled (inside : Entered strategy timeout resources held) : resources.isEmpty = false := by
  simpa using inside.nonempty

theorem guardedOnce (inside : Entered strategy timeout resources held) {released : List (Call Token)}
    (quiet : released.countP isHandle = 0) {result : Except Raised Result}
    (propagates : ∀ failure, handler 0 = .error failure → result = .error (.own failure)) :
    GuardedOnce strategy failOpen resources handler
      ((CriticalSection.requested resources).map .acquire ++ .handle::released) result := by
  refine GuardedOnce.of_one (countP_acquire _) quiet propagates (.inl fun resource member => ?_)
  obtain ⟨token,_,given⟩ := inside.owned member
  exact ⟨List.mem_map_of_mem member,⟨token,given⟩,by simp⟩

theorem unconfused_of_ok {result : Result} (outcome : handler 0 = .ok result) :
    ¬ Confused strategy failOpen resources handler := by
  rintro ⟨_,_,failure,raised,_⟩
  simp [outcome] at raised

theorem released_iff (inside : Entered strategy timeout resources held)
    (undisturbed : ∀ lock ∈ held.reverse, ¬ CriticalSection.Interrupts strategy lock)
    (left : CriticalSection.rollback strategy held.reverse = (CriticalSection.releaseCalls held.reverse,none)) :
    GuardedOnce strategy failOpen resources handler (call strategy timeout failOpen resources handler).1
        (call strategy timeout failOpen resources handler).2 ↔
      ¬ Confused strategy failOpen resources handler := by
  have quiet := countP_rollback strategy held.reverse
  rw [left] at quiet
  cases outcome : handler 0 with
  | ok result =>
    have called : call strategy timeout failOpen resources handler =
        ((CriticalSection.requested resources).map .acquire ++
          .handle::CriticalSection.releaseCalls held.reverse,.ok result) := by
      simp [call,inside.filled,inside.entered,CriticalSection.exit,left,answer,outcome,Except.mapError]
    rw [called]
    exact iff_of_true (inside.guardedOnce quiet (by simp [outcome])) (unconfused_of_ok outcome)
  | error failure =>
    by_cases opened : (failure.kind.isConcurrency && failOpen) = true
    · have called : call strategy timeout failOpen resources handler =
          ((CriticalSection.requested resources).map .acquire ++
            .handle::CriticalSection.releaseCalls held.reverse ++ [.handle],answer handler 1) := by
        simp only [call,inside.filled,inside.entered,CriticalSection.exit,left,answer,outcome,Except.mapError,
          Raised.kind,opened]
        rfl
      obtain ⟨concurrent,lenient⟩ := Bool.and_eq_true_iff.mp opened
      refine iff_of_false (fun guarded => ?_)
        (not_not_intro ⟨inside.nonempty,inside.unrefused,failure,outcome,.inl ⟨lenient,concurrent⟩⟩)
      have twice := guarded.once
      rw [called] at twice
      have tail : ([.handle] : List (Call Token)).countP isHandle = 1 := rfl
      rw [List.countP_append,List.countP_append,List.countP_cons_of_pos rfl,tail] at twice
      omega
    · have called : call strategy timeout failOpen resources handler =
          ((CriticalSection.requested resources).map .acquire ++
            .handle::CriticalSection.releaseCalls held.reverse,.error (.own failure)) := by
        simp only [call,inside.filled,inside.entered,CriticalSection.exit,left,answer,outcome,Except.mapError,
          Raised.kind,opened]
        rfl
      rw [called]
      refine iff_of_true (inside.guardedOnce quiet (by simp [outcome])) ?_
      rintro ⟨_,_,other,raised,⟨lenient,concurrent⟩ | ⟨resource,member,token,given,interrupts⟩⟩
      · obtain rfl : failure = other := by simpa [outcome] using raised
        exact opened (by rw [lenient,concurrent]; rfl)
      · obtain ⟨own,present,mine⟩ := inside.owned member
        obtain rfl : own = token := by simpa [given] using mine.symm
        exact undisturbed _ (List.mem_reverse.mpr present) interrupts

theorem interrupted_iff (inside : Entered strategy timeout resources held) {before : Acquired Token}
    {lock : ResourceIdentifier × Token} {failure : Failure} (present : lock ∈ held)
    (interrupts : CriticalSection.Interrupts strategy lock) (base : failure.kind = .base)
    (left : CriticalSection.rollback strategy held.reverse =
      (CriticalSection.releaseCalls (before ++ [lock]),some failure)) :
    GuardedOnce strategy failOpen resources handler (call strategy timeout failOpen resources handler).1
        (call strategy timeout failOpen resources handler).2 ↔
      ¬ Confused strategy failOpen resources handler := by
  have quiet := countP_rollback strategy held.reverse
  rw [left] at quiet
  have called : call strategy timeout failOpen resources handler =
      ((CriticalSection.requested resources).map .acquire ++
        .handle::CriticalSection.releaseCalls (before ++ [lock]),.error (.locking failure)) := by
    simp [call,inside.filled,inside.entered,CriticalSection.exit,left,Raised.kind,base,ErrorKind.isConcurrency]
  rw [called]
  cases outcome : handler 0 with
  | ok result => exact iff_of_true (inside.guardedOnce quiet (by simp [outcome])) (unconfused_of_ok outcome)
  | error own =>
    have member : lock.1 ∈ CriticalSection.requested resources := inside.all ▸ List.mem_map_of_mem present
    refine iff_of_false (fun guarded => ?_) (not_not_intro ⟨inside.nonempty,inside.unrefused,own,outcome,
      .inr ⟨lock.1,member,lock.2,inside.granted lock present,interrupts⟩⟩)
    have replaced := guarded.propagates 0 (by simp [isHandle]) own outcome
    cases replaced

theorem guarded_iff (inside : Entered strategy timeout resources held) :
    GuardedOnce strategy failOpen resources handler (call strategy timeout failOpen resources handler).1
        (call strategy timeout failOpen resources handler).2 ↔
      ¬ Confused strategy failOpen resources handler := by
  rcases CriticalSection.rollback_cases strategy held.reverse with
    ⟨undisturbed,left⟩ | ⟨before,lock,after,failure,split,_,interrupts,base,left⟩
  · exact inside.released_iff undisturbed left
  · exact inside.interrupted_iff (List.mem_reverse.mp (by rw [split]; simp)) interrupts base left

end Entered

/-- The guard keeps to its contract exactly when it is not confused. -/
theorem guarded_once_iff (strategy : LockStrategy Token) (timeout : String) (failOpen : Bool)
    (resources : List ResourceIdentifier) (handler : Nat → Except Failure Result) :
    GuardedOnce strategy failOpen resources handler (call strategy timeout failOpen resources handler).1
        (call strategy timeout failOpen resources handler).2 ↔
      ¬ Confused strategy failOpen resources handler := by
  by_cases nonempty : resources = []
  · subst nonempty
    refine iff_of_true ?_ fun confused => confused.1 rfl
    have nothing : CriticalSection.requested [] = [] := rfl
    have single : GuardedOnce strategy failOpen [] handler ([] ++ .handle::[]) (answer handler 0) :=
      GuardedOnce.of_one rfl rfl (fun failure => answer_propagates) (.inl (by simp [nothing]))
    exact single
  · rcases enter_cases strategy timeout resources with
      ⟨held,granted,all,entered⟩ | ⟨resource,member,refused,calls,raised,entered,asked,silent⟩
    · exact Entered.guarded_iff ⟨nonempty,granted,all,entered⟩
    · refine iff_of_true ?_ fun confused => confused.2.1 resource member refused
      simp only [call,List.isEmpty_iff,nonempty,if_false,entered]
      split
      next degraded =>
        exact GuardedOnce.of_one silent rfl (fun failure => answer_propagates)
          (.inr ⟨(Bool.and_eq_true_iff.mp degraded).2,resource,member,asked,refused⟩)
      next => exact GuardedOnce.of_none silent

/-- In fail-open mode a handler that raises a `ConcurrencyError` runs a second time, after its lock is released. -/
theorem guarded_twice :
    let strategy : LockStrategy Nat := ⟨fun _ => .granted 7,fun _ _ => none⟩
    let handler : Nat → Except Failure Unit := fun _ => .error ⟨.concurrency,"version mismatch"⟩
    ¬ GuardedOnce strategy true [⟨"Account","123",.write⟩] handler
      (call strategy "10.0" true [⟨"Account","123",.write⟩] handler).1
      (call strategy "10.0" true [⟨"Account","123",.write⟩] handler).2 := by
  intro strategy handler guarded
  exact absurd guarded.once (by decide)

end ConcurrencyGuardMiddleware

end CqrsDdd.Locking
