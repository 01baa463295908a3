import CqrsDdd.Locking.CriticalSection
import CqrsDdd.Transition
import Mathlib.Logic.Function.Basic

/-! The in-memory lock strategy. None of its `async with` blocks suspends, so a call
of `acquire` runs in one step up to the wait for its event. The last release of a
key drops the entry while it hands the lock to the first waiter: the waiter goes on
with a lock that the next acquirer no longer finds. -/
namespace CqrsDdd.Locking

variable {Caller : Type} [DecidableEq Caller]

/-- A `_LockState` with its `_FIFOLock`; a waiter stays in the queue when it gives up. -/
structure LockState (Caller : Type) where
  locked : Bool
  waiters : List Caller
  sessionId : Option String
  refCount : Int

/-- A caller of `acquire`, who calls it once: not yet there, queued, woken by its event, holding the lock, or gone. -/
inductive Status
  | idle
  | queued (lock : Nat)
  | woken (lock : Nat)
  | holding (lock : Nat)
  | done
  deriving DecidableEq, Repr

namespace Status

def lock? : Status → Option Nat
  | .queued lock | .woken lock | .holding lock => some lock
  | .idle | .done => none

def claim? : Status → Option Nat
  | .woken lock | .holding lock => some lock
  | .idle | .queued _ | .done => none

theorem lock_of_claim {status : Status} {lock : Nat} (claims : status.claim? = some lock) :
    status.lock? = some lock := by
  cases status <;> simp_all [claim?,lock?]

end Status

def maxQueueSize : Nat := 100

/-- The number of a state object stands for its token too. -/
structure InMemoryLockStrategy (Caller : Type) where
  locks : String ×ₗ String → Option Nat
  states : Nat → LockState Caller
  next : Nat
  status : Caller → Status

inductive LockAction (Caller : Type)
  | acquire (caller : Caller)
  | resume (caller : Caller)
  | expire (caller : Caller)
  | release (caller : Caller)

/-- The resource and the session a caller gives to `acquire`. -/
abbrev Requests (Caller : Type) := Caller → ResourceIdentifier × Option String

namespace InMemoryLockStrategy

def empty : InMemoryLockStrategy Caller := ⟨fun _ => none,fun _ => ⟨false,[],none,0⟩,0,fun _ => .idle⟩

def setStatus (strategy : InMemoryLockStrategy Caller) (caller : Caller) (status : Status) : InMemoryLockStrategy Caller :=
  {strategy with status := Function.update strategy.status caller status}

def setState (strategy : InMemoryLockStrategy Caller) (lock : Nat) (state : LockState Caller) :
    InMemoryLockStrategy Caller :=
  {strategy with states := Function.update strategy.states lock state}

def lockFor (strategy : InMemoryLockStrategy Caller) (key : String ×ₗ String) : InMemoryLockStrategy Caller × Nat :=
  match strategy.locks key with
  | some lock => (strategy,lock)
  | none =>
    ({ strategy with
        locks := Function.update strategy.locks key (some strategy.next)
        states := Function.update strategy.states strategy.next ⟨false,[],none,0⟩
        next := strategy.next+1 },strategy.next)

/-- What follows `fifo_lock.acquire`. -/
def take (strategy : InMemoryLockStrategy Caller) (lock : Nat) (caller : Caller) (sessionId : Option String) :
    InMemoryLockStrategy Caller :=
  let state := strategy.states lock
  let session := if state.sessionId.isNone then sessionId else state.sessionId
  (strategy.setState lock {state with locked := true, sessionId := session, refCount := 1}).setStatus caller (.holding lock)

def acquireLock (strategy : InMemoryLockStrategy Caller) (lock : Nat) (caller : Caller) (sessionId : Option String) :
    InMemoryLockStrategy Caller :=
  let state := strategy.states lock
  if sessionId.isSome ∧ state.sessionId = sessionId then
    (strategy.setState lock {state with refCount := state.refCount+1}).setStatus caller (.holding lock)
  else if ¬ state.locked then strategy.take lock caller sessionId
  else if maxQueueSize ≤ state.waiters.length then strategy.setStatus caller .done
  else (strategy.setState lock {state with waiters := state.waiters ++ [caller]}).setStatus caller (.queued lock)

/-- `_FIFOLock.release`: the event of the first waiter is set, whether it still waits or not. -/
def releaseFifo (strategy : InMemoryLockStrategy Caller) (lock : Nat) : InMemoryLockStrategy Caller :=
  let state := strategy.states lock
  match state.waiters with
  | [] => strategy.setState lock {state with locked := false}
  | waiter::rest =>
    let strategy := strategy.setState lock {state with waiters := rest}
    if strategy.status waiter = .queued lock then strategy.setStatus waiter (.woken lock) else strategy

def releaseLock (strategy : InMemoryLockStrategy Caller) (key : String ×ₗ String) (lock : Nat) :
    InMemoryLockStrategy Caller :=
  if strategy.locks key = some lock then
    let state := strategy.states lock
    let count := state.refCount-1
    if count ≤ 0 then
      let strategy := (strategy.setState lock {state with refCount := count, sessionId := none}).releaseFifo lock
      {strategy with locks := Function.update strategy.locks key none}
    else strategy.setState lock {state with refCount := count}
  else strategy

/-- An action that the status of its caller does not allow changes nothing. -/
def step (requests : Requests Caller) (strategy : InMemoryLockStrategy Caller) :
    LockAction Caller → InMemoryLockStrategy Caller
  | .acquire caller =>
    match strategy.status caller with
    | .idle =>
      let found := strategy.lockFor (requests caller).1.key
      found.1.acquireLock found.2 caller (requests caller).2
    | _ => strategy
  | .resume caller =>
    match strategy.status caller with
    | .woken lock => strategy.take lock caller (requests caller).2
    | _ => strategy
  | .expire caller =>
    match strategy.status caller with
    | .queued _ | .woken _ => strategy.setStatus caller .done
    | _ => strategy
  | .release caller =>
    match strategy.status caller with
    | .holding lock => (strategy.setStatus caller .done).releaseLock (requests caller).1.key lock
    | _ => strategy

/-- Callers of one session are the same client. -/
def SameClient (requests : Requests Caller) (caller other : Caller) : Prop :=
  caller = other ∨ (requests caller).2.isSome ∧ (requests caller).2 = (requests other).2

/-- An acquirer that finds no entry for its key finds nobody who holds the lock, or
was handed it, through an entry that has been dropped. -/
def Settled (requests : Requests Caller) (strategy : InMemoryLockStrategy Caller) : LockAction Caller → Prop
  | .acquire caller => strategy.locks (requests caller).1.key = none →
      ∀ other lock, (strategy.status other).claim? = some lock → (requests other).1.key ≠ (requests caller).1.key
  | .resume _ | .expire _ | .release _ => True

/-- A state object with an entry is locked, and its count and session are those of the callers that hold it. -/
def Occupied (requests : Requests Caller) (strategy : InMemoryLockStrategy Caller) (lock : Nat) : Prop :=
  (strategy.states lock).locked = true ∧ ∃ holders : List Caller, holders.Nodup ∧ holders ≠ [] ∧
    (∀ caller, caller ∈ holders ↔ strategy.status caller = .holding lock) ∧
    (strategy.states lock).refCount = holders.length ∧
    (∀ caller ∈ holders, (requests caller).2 = (strategy.states lock).sessionId) ∧
    ((strategy.states lock).sessionId = none → holders.length = 1)

structure Kept (requests : Requests Caller) (strategy : InMemoryLockStrategy Caller) : Prop where
  bounded : ∀ key lock, strategy.locks key = some lock → lock < strategy.next
  distinct : ∀ key other lock, strategy.locks key = some lock → strategy.locks other = some lock → key = other
  placed : ∀ caller lock, (strategy.status caller).lock? = some lock →
    lock < strategy.next ∧ ∀ key, strategy.locks key = some lock → key = (requests caller).1.key
  entry : ∀ key lock, strategy.locks key = some lock → Occupied requests strategy lock
  orphan : ∀ caller other lock, (∀ key, strategy.locks key ≠ some lock) →
    (strategy.status caller).claim? = some lock → (strategy.status other).claim? = some lock → caller = other
  woken : ∀ caller lock key, strategy.status caller = .woken lock → strategy.locks key ≠ some lock

theorem status_cases {strategy after : InMemoryLockStrategy Caller} {caller : Caller} {status : Status}
    (changed : after.status = Function.update strategy.status caller status) (other : Caller) :
    (other = caller ∧ after.status other = status) ∨ (other ≠ caller ∧ after.status other = strategy.status other) := by
  by_cases same : other = caller
  · exact .inl ⟨same,by rw [changed,same,Function.update_self]⟩
  · exact .inr ⟨same,by rw [changed,Function.update_of_ne same]⟩

omit [DecidableEq Caller] in
theorem Occupied.congr {requests : Requests Caller} {strategy after : InMemoryLockStrategy Caller} {lock : Nat}
    (occupied : Occupied requests strategy lock)
    (state : after.states lock = {strategy.states lock with waiters := (after.states lock).waiters})
    (holding : ∀ caller, after.status caller = .holding lock ↔ strategy.status caller = .holding lock) :
    Occupied requests after lock := by
  obtain ⟨locked,holders,nodup,nonempty,exact,count,sessions,single⟩ := occupied
  rw [Occupied,state]
  exact ⟨locked,holders,nodup,nonempty,fun caller => (exact caller).trans (holding caller).symm,count,sessions,single⟩

theorem Occupied.move {requests : Requests Caller} {strategy after : InMemoryLockStrategy Caller} {lock : Nat}
    (occupied : Occupied requests strategy lock) {caller : Caller} {status : Status}
    (changed : after.status = Function.update strategy.status caller status)
    (before : strategy.status caller ≠ .holding lock) (now : status ≠ .holding lock)
    (state : after.states lock = {strategy.states lock with waiters := (after.states lock).waiters}) :
    Occupied requests after lock := by
  refine occupied.congr state fun other => ?_
  rcases status_cases changed other with ⟨rfl,own⟩ | ⟨_,same⟩
  · rw [own]
    exact iff_of_false now before
  · rw [same]

omit [DecidableEq Caller] in
theorem Occupied.holder {requests : Requests Caller} {strategy : InMemoryLockStrategy Caller} {lock : Nat}
    (occupied : Occupied requests strategy lock) : ∃ caller, strategy.status caller = .holding lock := by
  obtain ⟨_,holders,_,nonempty,exact,_⟩ := occupied
  obtain ⟨caller,member⟩ := List.exists_mem_of_ne_nil holders nonempty
  exact ⟨caller,(exact caller).mp member⟩

omit [DecidableEq Caller] in
theorem Occupied.sameClient {requests : Requests Caller} {strategy : InMemoryLockStrategy Caller} {lock : Nat}
    (occupied : Occupied requests strategy lock) {caller other : Caller} (first : strategy.status caller = .holding lock)
    (second : strategy.status other = .holding lock) : SameClient requests caller other := by
  obtain ⟨_,holders,_,_,exact,_,sessions,single⟩ := occupied
  have inside := (exact caller).mpr first
  have also := (exact other).mpr second
  cases session : (strategy.states lock).sessionId with
  | none =>
    obtain ⟨only,rfl⟩ := List.length_eq_one_iff.mp (single session)
    exact .inl ((List.mem_singleton.mp inside).trans (List.mem_singleton.mp also).symm)
  | some name => exact .inr ⟨by rw [sessions caller inside,session]; rfl,by rw [sessions caller inside,sessions other also]⟩

omit [DecidableEq Caller] in
theorem lock_ne_of_placed {requests : Requests Caller} {strategy : InMemoryLockStrategy Caller}
    (kept : Kept requests strategy) {caller : Caller} {lock : Nat}
    (has : (strategy.status caller).lock? = some lock) : lock ≠ strategy.next :=
  fun same => lt_irrefl _ (same ▸ (kept.placed caller lock has).1)

theorem step_acquire_absent {requests : Requests Caller} {strategy : InMemoryLockStrategy Caller} {caller : Caller}
    (idle : strategy.status caller = .idle) (absent : strategy.locks (requests caller).1.key = none) :
    strategy.step requests (.acquire caller) =
      { locks := Function.update strategy.locks (requests caller).1.key (some strategy.next)
        states := Function.update strategy.states strategy.next ⟨true,[],(requests caller).2,1⟩
        next := strategy.next+1
        status := Function.update strategy.status caller (.holding strategy.next) } := by
  have unmatched : ¬ ((requests caller).2.isSome ∧ none = (requests caller).2) := by
    rintro ⟨named,same⟩
    rw [← same] at named
    cases named
  simp [step,idle,lockFor,absent,acquireLock,unmatched,take,setState,setStatus]

theorem Kept.create {requests : Requests Caller} {strategy after : InMemoryLockStrategy Caller} {caller : Caller}
    (kept : Kept requests strategy) (idle : strategy.status caller = .idle)
    (absent : strategy.locks (requests caller).1.key = none)
    (locks : after.locks = Function.update strategy.locks (requests caller).1.key (some strategy.next))
    (states : after.states = Function.update strategy.states strategy.next ⟨true,[],(requests caller).2,1⟩)
    (next : after.next = strategy.next+1)
    (status : after.status = Function.update strategy.status caller (.holding strategy.next)) : Kept requests after := by
  have old {key : String ×ₗ String} {lock : Nat} (differs : lock ≠ strategy.next) :
      after.locks key = some lock → strategy.locks key = some lock := by
    rw [locks,Function.update_apply]
    split
    next => exact fun same => absurd (Option.some.inj same).symm differs
    next => exact id
  have fresh {key : String ×ₗ String} (found : after.locks key = some strategy.next) : key = (requests caller).1.key := by
    rw [locks,Function.update_apply] at found
    split at found
    next same => exact same
    next => exact absurd (kept.bounded _ _ found) (lt_irrefl _)
  refine ⟨fun key lock found => ?_,fun key other lock found also => ?_,fun other lock has => ?_,fun key lock found => ?_,
    fun first second lock dropped claims also => ?_,fun other lock key woken found => ?_⟩
  · rw [next]
    by_cases same : lock = strategy.next
    · omega
    · have := kept.bounded key lock (old same found)
      omega
  · by_cases same : lock = strategy.next
    · subst same
      rw [fresh found,fresh also]
    · exact kept.distinct key other lock (old same found) (old same also)
  · rcases status_cases status other with ⟨rfl,own⟩ | ⟨_,same⟩
    · obtain rfl : strategy.next = lock := by simpa [own,Status.lock?] using has
      exact ⟨by omega,fun key found => fresh found⟩
    · rw [same] at has
      have differs := lock_ne_of_placed kept has
      obtain ⟨low,keys⟩ := kept.placed other lock has
      exact ⟨by omega,fun key found => keys key (old differs found)⟩
  · by_cases same : lock = strategy.next
    · subst same
      have state : after.states strategy.next = ⟨true,[],(requests caller).2,1⟩ := by rw [states,Function.update_self]
      refine ⟨by rw [state],[caller],List.nodup_singleton _,by simp,fun other => ?_,by rw [state]; rfl,?_,fun _ => rfl⟩
      · rw [List.mem_singleton]
        rcases status_cases status other with ⟨self,own⟩ | ⟨differs,same⟩
        · exact iff_of_true self own
        · refine iff_of_false differs fun holding => ?_
          rw [same] at holding
          exact lock_ne_of_placed kept (by rw [holding]; rfl) rfl
      · intro other member
        rw [state,List.mem_singleton.mp member]
    · refine (kept.entry key lock (old same found)).move status (by simp [idle]) (by simpa using Ne.symm same) ?_
      rw [states,Function.update_of_ne same]
  · have differs : lock ≠ strategy.next := by
      rintro rfl
      exact dropped _ (by rw [locks,Function.update_self])
    have before : ∀ key, strategy.locks key ≠ some lock := by
      intro key found
      refine dropped key ?_
      rw [locks,Function.update_of_ne]
      · exact found
      · rintro rfl
        rw [absent] at found
        cases found
    have earlier {other : Caller} (claims : (after.status other).claim? = some lock) :
        (strategy.status other).claim? = some lock := by
      rcases status_cases status other with ⟨_,own⟩ | ⟨_,same⟩
      · rw [own] at claims
        exact absurd (Option.some.inj claims).symm differs
      · rwa [same] at claims
    exact kept.orphan first second lock before (earlier claims) (earlier also)
  · rcases status_cases status other with ⟨_,own⟩ | ⟨_,same⟩
    · rw [own] at woken
      cases woken
    · rw [same] at woken
      exact kept.woken other lock key woken (old (lock_ne_of_placed kept (by rw [woken]; rfl)) found)

omit [DecidableEq Caller] in
theorem Kept.shrink {requests : Requests Caller} {strategy after : InMemoryLockStrategy Caller}
    (kept : Kept requests strategy) (locks : ∀ key lock, after.locks key = some lock → strategy.locks key = some lock)
    (next : after.next = strategy.next)
    (placed : ∀ caller lock, (after.status caller).lock? = some lock →
      (strategy.status caller).lock? = some lock ∨ strategy.locks (requests caller).1.key = some lock)
    (entry : ∀ key lock, after.locks key = some lock → Occupied requests after lock)
    (orphan : ∀ caller other lock, (∀ key, after.locks key ≠ some lock) →
      (after.status caller).claim? = some lock → (after.status other).claim? = some lock → caller = other)
    (woken : ∀ caller lock key, after.status caller = .woken lock → after.locks key ≠ some lock) :
    Kept requests after := by
  refine ⟨fun key lock found => ?_,fun key other lock found also => ?_,fun caller lock has => ?_,entry,orphan,woken⟩
  · rw [next]
    exact kept.bounded key lock (locks key lock found)
  · exact kept.distinct key other lock (locks key lock found) (locks other lock also)
  · rw [next]
    rcases placed caller lock has with before | entered
    · obtain ⟨low,keys⟩ := kept.placed caller lock before
      exact ⟨low,fun key found => keys key (locks key lock found)⟩
    · exact ⟨kept.bounded _ lock entered,fun key found => kept.distinct key _ lock (locks key lock found) entered⟩

omit [DecidableEq Caller] in
theorem Kept.keep {requests : Requests Caller} {strategy after : InMemoryLockStrategy Caller}
    (kept : Kept requests strategy) (locks : after.locks = strategy.locks) (next : after.next = strategy.next)
    (placed : ∀ caller lock, (after.status caller).lock? = some lock →
      (strategy.status caller).lock? = some lock ∨ strategy.locks (requests caller).1.key = some lock)
    (entry : ∀ key lock, strategy.locks key = some lock → Occupied requests after lock)
    (claims : ∀ caller lock, (after.status caller).claim? = some lock → (∀ key, strategy.locks key ≠ some lock) →
      (strategy.status caller).claim? = some lock)
    (woken : ∀ caller lock, after.status caller = .woken lock → strategy.status caller = .woken lock) :
    Kept requests after := by
  refine kept.shrink (fun key lock found => locks ▸ found) next placed (fun key lock found => entry key lock (locks ▸ found))
    (fun caller other lock dropped first second => ?_) fun caller lock key now => ?_
  · rw [locks] at dropped
    exact kept.orphan caller other lock dropped (claims caller lock first dropped) (claims other lock second dropped)
  · rw [locks]
    exact kept.woken caller lock key (woken caller lock now)

theorem Kept.change {requests : Requests Caller} {strategy after : InMemoryLockStrategy Caller}
    (kept : Kept requests strategy) {caller : Caller} {status : Status}
    (locks : after.locks = strategy.locks) (next : after.next = strategy.next)
    (changed : after.status = Function.update strategy.status caller status)
    (place : ∀ lock, status.lock? = some lock →
      (strategy.status caller).lock? = some lock ∨ strategy.locks (requests caller).1.key = some lock)
    (claim : ∀ lock, status.claim? = some lock → (∀ key, strategy.locks key ≠ some lock) →
      (strategy.status caller).claim? = some lock)
    (awake : ∀ lock, status = .woken lock → strategy.status caller = .woken lock)
    (entry : ∀ key lock, strategy.locks key = some lock → Occupied requests after lock) : Kept requests after := by
  refine kept.keep locks next (fun other lock has => ?_) entry (fun other lock claims dropped => ?_)
    fun other lock woken => ?_
  · rcases status_cases changed other with ⟨rfl,own⟩ | ⟨_,same⟩
    · exact place lock (own ▸ has)
    · exact .inl (same ▸ has)
  · rcases status_cases changed other with ⟨rfl,own⟩ | ⟨_,same⟩
    · exact claim lock (own ▸ claims) dropped
    · exact same ▸ claims
  · rcases status_cases changed other with ⟨rfl,own⟩ | ⟨_,same⟩
    · exact awake lock (own ▸ woken)
    · exact same ▸ woken

theorem Kept.setStatus {requests : Requests Caller} {strategy after : InMemoryLockStrategy Caller}
    (kept : Kept requests strategy) {caller : Caller} {status : Status}
    (locks : after.locks = strategy.locks) (next : after.next = strategy.next)
    (changed : after.status = Function.update strategy.status caller status) (unclaimed : status.claim? = none)
    (place : ∀ lock, status.lock? = some lock → strategy.locks (requests caller).1.key = some lock)
    (entry : ∀ key lock, strategy.locks key = some lock → Occupied requests after lock) : Kept requests after := by
  refine kept.change locks next changed (fun lock has => .inr (place lock has)) (fun lock claims _ => ?_)
    (fun lock woken => ?_) entry
  · rw [unclaimed] at claims
    cases claims
  · rw [woken] at unclaimed
    cases unclaimed

theorem Kept.reenter {requests : Requests Caller} {strategy after : InMemoryLockStrategy Caller}
    (kept : Kept requests strategy) {caller : Caller} {lock : Nat} (idle : strategy.status caller = .idle)
    (found : strategy.locks (requests caller).1.key = some lock) (named : (requests caller).2.isSome)
    (session : (strategy.states lock).sessionId = (requests caller).2)
    (locks : after.locks = strategy.locks) (next : after.next = strategy.next)
    (states : after.states = Function.update strategy.states lock
      {strategy.states lock with refCount := (strategy.states lock).refCount+1})
    (status : after.status = Function.update strategy.status caller (.holding lock)) : Kept requests after := by
  refine kept.change locks next status (fun name has => .inr (Option.some.inj has ▸ found))
    (fun name claims dropped => absurd (Option.some.inj claims ▸ found) (dropped _)) (fun name woken => by cases woken)
    fun key name entered => ?_
  by_cases same : name = lock
  · subst same
    obtain ⟨locked,holders,nodup,_,exact,count,sessions,_⟩ := kept.entry key name entered
    have state : after.states name = {strategy.states name with refCount := (strategy.states name).refCount+1} := by
      rw [states,Function.update_self]
    have fresh : caller ∉ holders := by simp [exact,idle]
    rw [Occupied,state]
    refine ⟨locked,caller::holders,List.nodup_cons.mpr ⟨fresh,nodup⟩,by simp,fun other => ?_,by simp [count],?_,?_⟩
    · rcases status_cases status other with ⟨self,own⟩ | ⟨differs,same⟩
      · exact iff_of_true (self ▸ List.mem_cons_self) own
      · simp [differs,same,exact]
    · intro other member
      rcases List.mem_cons.mp member with rfl | old
      · exact session.symm
      · exact sessions other old
    · intro anonymous
      rw [session] at anonymous
      rw [anonymous] at named
      cases named
  · refine (kept.entry key name entered).move status (by simp [idle]) (by simpa using Ne.symm same) ?_
    rw [states,Function.update_of_ne same]

theorem Kept.acquire {requests : Requests Caller} {strategy : InMemoryLockStrategy Caller}
    (kept : Kept requests strategy) (caller : Caller) : Kept requests (strategy.step requests (.acquire caller)) := by
  cases idle : strategy.status caller with
  | queued lock | woken lock | holding lock | done => simpa [step,idle] using kept
  | idle =>
    cases found : strategy.locks (requests caller).1.key with
    | none =>
      rw [step_acquire_absent idle found]
      exact kept.create idle found rfl rfl rfl rfl
    | some lock =>
      simp only [step,idle,lockFor,found]
      have occupied := kept.entry _ lock found
      have locked := occupied.1
      simp only [acquireLock]
      split
      next reentrant => exact kept.reenter idle found reentrant.1 reentrant.2 rfl rfl rfl rfl
      next =>
        split
        next =>
          exact kept.setStatus rfl rfl rfl rfl (fun name has => by cases has) fun key name entered =>
            (kept.entry key name entered).move rfl (by simp [idle]) (by simp) rfl
        next =>
          refine kept.setStatus rfl rfl rfl rfl (fun name has => (Option.some.inj has) ▸ found) fun key name entered =>
            (kept.entry key name entered).move rfl (by simp [idle]) (by simp) ?_
          by_cases same : name = lock
          · subst same
            simp [InMemoryLockStrategy.setState,InMemoryLockStrategy.setStatus]
          · simp [InMemoryLockStrategy.setState,InMemoryLockStrategy.setStatus,same]

theorem Kept.resume {requests : Requests Caller} {strategy : InMemoryLockStrategy Caller}
    (kept : Kept requests strategy) (caller : Caller) : Kept requests (strategy.step requests (.resume caller)) := by
  cases now : strategy.status caller with
  | idle | queued lock | holding lock | done => simpa [step,now] using kept
  | woken lock =>
    simp only [step,now]
    refine kept.change rfl rfl rfl (fun name has => .inl (by rw [now]; exact has))
      (fun name claims _ => by rw [now]; exact claims) (fun name woken => by cases woken) fun key name entered => ?_
    have differs : name ≠ lock := by
      rintro rfl
      exact kept.woken caller name key now entered
    refine (kept.entry key name entered).move rfl (by simp [now]) (by simpa using Ne.symm differs) ?_
    simp [take,InMemoryLockStrategy.setState,InMemoryLockStrategy.setStatus,differs]

theorem Kept.leave {requests : Requests Caller} {strategy : InMemoryLockStrategy Caller} (kept : Kept requests strategy)
    {caller : Caller} (outside : ∀ key lock, strategy.locks key = some lock → strategy.status caller ≠ .holding lock) :
    Kept requests (strategy.setStatus caller .done) :=
  kept.setStatus rfl rfl rfl rfl (fun lock has => by cases has) fun key lock found =>
    (kept.entry key lock found).move rfl (outside key lock found) (by simp) rfl

theorem Kept.expire {requests : Requests Caller} {strategy : InMemoryLockStrategy Caller}
    (kept : Kept requests strategy) (caller : Caller) : Kept requests (strategy.step requests (.expire caller)) := by
  cases now : strategy.status caller with
  | idle | holding lock | done => simpa [step,now] using kept
  | queued lock | woken lock =>
    simp only [step,now]
    exact kept.leave fun key name _ => by simp [now]

omit [DecidableEq Caller] in
theorem Kept.dropped_of_ne {requests : Requests Caller} {strategy : InMemoryLockStrategy Caller}
    (kept : Kept requests strategy) {caller : Caller} {lock : Nat} (has : (strategy.status caller).lock? = some lock)
    (differs : strategy.locks (requests caller).1.key ≠ some lock) (key : String ×ₗ String) :
    strategy.locks key ≠ some lock := by
  intro found
  rw [(kept.placed caller lock has).2 key found] at found
  exact differs found

theorem releaseFifo_cases (strategy : InMemoryLockStrategy Caller) (lock : Nat) :
    (strategy.releaseFifo lock).locks = strategy.locks ∧ (strategy.releaseFifo lock).next = strategy.next ∧
      (∀ other, other ≠ lock → (strategy.releaseFifo lock).states other = strategy.states other) ∧
      ((strategy.releaseFifo lock).status = strategy.status ∨
        ∃ waiter, strategy.status waiter = .queued lock ∧
          (strategy.releaseFifo lock).status = Function.update strategy.status waiter (.woken lock)) := by
  simp only [releaseFifo]
  split
  next => exact ⟨rfl,rfl,fun other differs => Function.update_of_ne differs _ _,.inl rfl⟩
  next waiter rest _ =>
    split
    next queued => exact ⟨rfl,rfl,fun other differs => Function.update_of_ne differs _ _,.inr ⟨waiter,queued,rfl⟩⟩
    next => exact ⟨rfl,rfl,fun other differs => Function.update_of_ne differs _ _,.inl rfl⟩

omit [DecidableEq Caller] in
theorem Kept.sole {requests : Requests Caller} {strategy : InMemoryLockStrategy Caller} (kept : Kept requests strategy)
    {key : String ×ₗ String} {lock : Nat} (found : strategy.locks key = some lock)
    (last : (strategy.states lock).refCount ≤ 1) {caller other : Caller} (holds : strategy.status caller = .holding lock)
    (also : strategy.status other = .holding lock) : other = caller := by
  obtain ⟨_,holders,_,nonempty,exact,count,_,_⟩ := kept.entry key lock found
  have filled := List.length_pos_of_ne_nil nonempty
  obtain ⟨only,rfl⟩ := List.length_eq_one_iff.mp (show holders.length = 1 by omega)
  exact (List.mem_singleton.mp ((exact other).mpr also)).trans (List.mem_singleton.mp ((exact caller).mpr holds)).symm

/-- Every caller but the releasing one keeps its status, or is the one waiter that is woken. -/
theorem release_cases {strategy after : InMemoryLockStrategy Caller} {caller : Caller} {lock : Nat}
    (status : after.status = Function.update strategy.status caller .done ∨
      ∃ waiter, strategy.status waiter = .queued lock ∧
        after.status = Function.update (Function.update strategy.status caller .done) waiter (.woken lock)) :
    ∃ woke : Caller → Prop, (∀ first second, woke first → woke second → first = second) ∧
      ∀ other, (other = caller ∧ after.status other = .done) ∨
        (other ≠ caller ∧ after.status other = strategy.status other) ∨
        (woke other ∧ strategy.status other = .queued lock ∧ after.status other = .woken lock) := by
  have stays (other : Caller) : (other = caller ∧ (strategy.setStatus caller .done).status other = .done) ∨
      (other ≠ caller ∧ (strategy.setStatus caller .done).status other = strategy.status other) :=
    status_cases rfl other
  rcases status with plain | ⟨waiter,queued,woke⟩
  · refine ⟨fun _ => False,fun first second impossible => impossible.elim,fun other => ?_⟩
    rw [plain]
    exact (stays other).imp_right .inl
  · refine ⟨fun other => other = waiter,fun first second here there => here.trans there.symm,fun other => ?_⟩
    by_cases first : other = waiter
    · exact .inr (.inr ⟨first,first ▸ queued,by rw [woke,first,Function.update_self]⟩)
    · rw [woke,Function.update_of_ne first]
      exact (stays other).imp_right .inl

theorem Kept.drop {requests : Requests Caller} {strategy after : InMemoryLockStrategy Caller}
    (kept : Kept requests strategy) {caller : Caller} {lock : Nat} (holds : strategy.status caller = .holding lock)
    (found : strategy.locks (requests caller).1.key = some lock) (last : (strategy.states lock).refCount ≤ 1)
    (locks : after.locks = Function.update strategy.locks (requests caller).1.key none)
    (next : after.next = strategy.next) (states : ∀ other, other ≠ lock → after.states other = strategy.states other)
    (status : after.status = Function.update strategy.status caller .done ∨
      ∃ waiter, strategy.status waiter = .queued lock ∧
        after.status = Function.update (Function.update strategy.status caller .done) waiter (.woken lock)) :
    Kept requests after := by
  have smaller (key : String ×ₗ String) (name : Nat) (entered : after.locks key = some name) :
      strategy.locks key = some name := by
    rw [locks,Function.update_apply] at entered
    split at entered
    next => cases entered
    next => exact entered
  have gone (key : String ×ₗ String) : after.locks key ≠ some lock := by
    intro entered
    have same := kept.distinct key _ lock (smaller key lock entered) found
    rw [locks,same,Function.update_self] at entered
    cases entered
  obtain ⟨woke,single,moved⟩ := release_cases status
  refine kept.shrink smaller next (fun other name has => ?_) (fun key name entered => ?_)
    (fun first second name dropped claims also => ?_) fun other name key woken entered => ?_
  · rcases moved other with ⟨_,done⟩ | ⟨_,same⟩ | ⟨_,queued,woken⟩
    · rw [done] at has
      cases has
    · exact .inl (same ▸ has)
    · rw [woken] at has
      rw [queued]
      exact .inl has
  · have differs : name ≠ lock := by
      rintro rfl
      exact gone key entered
    refine (kept.entry key name (smaller key name entered)).congr (by rw [states name differs]) fun other => ?_
    rcases moved other with ⟨rfl,done⟩ | ⟨_,same⟩ | ⟨_,queued,woken⟩
    · simp [done,holds,Ne.symm differs]
    · rw [same]
    · simp [queued,woken]
  · by_cases here : name = lock
    · subst here
      have chosen {other : Caller} (claims : (after.status other).claim? = some name) : woke other := by
        rcases moved other with ⟨_,done⟩ | ⟨differs,same⟩ | ⟨chosen,_⟩
        · rw [done] at claims
          cases claims
        · rw [same] at claims
          cases now : strategy.status other with
          | idle | queued lock | done => simp [now,Status.claim?] at claims
          | woken lock =>
            obtain rfl : lock = name := by simpa [now,Status.claim?] using claims
            exact absurd found (kept.woken other lock _ now)
          | holding lock =>
            obtain rfl : lock = name := by simpa [now,Status.claim?] using claims
            exact absurd (kept.sole found last holds now) differs
        · exact chosen
      exact single first second (chosen claims) (chosen also)
    · have earlier {other : Caller} (claims : (after.status other).claim? = some name) :
          (strategy.status other).claim? = some name := by
        rcases moved other with ⟨_,done⟩ | ⟨_,same⟩ | ⟨_,_,woken⟩
        · rw [done] at claims
          cases claims
        · rwa [same] at claims
        · rw [woken] at claims
          exact absurd (Option.some.inj claims).symm here
      refine kept.orphan first second name (fun key entered => ?_) (earlier claims) (earlier also)
      refine dropped key ?_
      rw [locks,Function.update_of_ne]
      · exact entered
      · rintro rfl
        exact here (Option.some.inj (entered.symm.trans found))
  · rcases moved other with ⟨_,done⟩ | ⟨_,same⟩ | ⟨_,_,awake⟩
    · rw [done] at woken
      cases woken
    · exact kept.woken other name key (same ▸ woken) (smaller key name entered)
    · obtain rfl : lock = name := by simpa [awake] using woken
      exact gone key entered

theorem Kept.decrement {requests : Requests Caller} {strategy after : InMemoryLockStrategy Caller}
    (kept : Kept requests strategy) {caller : Caller} {lock : Nat} (holds : strategy.status caller = .holding lock)
    (more : 1 < (strategy.states lock).refCount) (locks : after.locks = strategy.locks)
    (next : after.next = strategy.next) (status : after.status = Function.update strategy.status caller .done)
    (states : after.states = Function.update strategy.states lock
      {strategy.states lock with refCount := (strategy.states lock).refCount-1}) : Kept requests after := by
  refine kept.setStatus locks next status rfl (fun name has => by cases has) fun key name found => ?_
  by_cases same : name = lock
  · subst same
    obtain ⟨locked,holders,nodup,nonempty,exact,count,sessions,single⟩ := kept.entry key name found
    have inside : caller ∈ holders := (exact caller).mpr holds
    have shorter := List.length_erase_of_mem inside
    have filled := List.length_pos_of_ne_nil nonempty
    have state : after.states name = {strategy.states name with refCount := (strategy.states name).refCount-1} := by
      rw [states,Function.update_self]
    rw [Occupied,state]
    refine ⟨locked,holders.erase caller,nodup.erase caller,?_,fun other => ?_,?_,?_,?_⟩
    · refine List.ne_nil_of_length_pos ?_
      omega
    · rw [nodup.mem_erase_iff,exact]
      rcases status_cases status other with ⟨self,gone⟩ | ⟨differs,stays⟩
      · simp [self,self ▸ gone]
      · simp [differs,stays]
    · change (strategy.states name).refCount-1 = _
      rw [count]
      omega
    · exact fun other member => sessions other (List.mem_of_mem_erase member)
    · intro anonymous
      have one := single anonymous
      rw [count,one] at more
      omega
  · refine (kept.entry key name found).move status (by simpa [holds] using Ne.symm same) (by simp) ?_
    rw [states,Function.update_of_ne same]

theorem Kept.release {requests : Requests Caller} {strategy : InMemoryLockStrategy Caller}
    (kept : Kept requests strategy) (caller : Caller) : Kept requests (strategy.step requests (.release caller)) := by
  cases holds : strategy.status caller with
  | idle | queued lock | woken lock | done => simpa [step,holds] using kept
  | holding lock =>
    simp only [step,holds,releaseLock]
    split
    next found =>
      split
      next last =>
        have before : (strategy.states lock).refCount ≤ 1 := by
          simp only [InMemoryLockStrategy.setStatus] at last
          omega
        obtain ⟨locks,next,states,status⟩ := releaseFifo_cases
          ((strategy.setStatus caller .done).setState lock {strategy.states lock with
            refCount := (strategy.states lock).refCount-1, sessionId := none}) lock
        refine kept.drop holds found before (congrArg (fun table : String ×ₗ String → Option Nat =>
          Function.update table (requests caller).1.key none) locks) next ?_ ?_
        · intro other differs
          exact (states other differs).trans (Function.update_of_ne differs _ _)
        · refine status.imp id ?_
          rintro ⟨waiter,queued,woke⟩
          refine ⟨waiter,?_,woke⟩
          by_cases same : waiter = caller
          · subst same
            simp [InMemoryLockStrategy.setStatus,InMemoryLockStrategy.setState] at queued
          · simpa [InMemoryLockStrategy.setStatus,InMemoryLockStrategy.setState,same] using queued
      next more =>
        refine kept.decrement holds ?_ rfl rfl rfl rfl
        simp only [InMemoryLockStrategy.setStatus] at more
        omega
    next differs =>
      refine kept.leave fun key name found now => ?_
      obtain rfl : lock = name := by simpa [holds] using now
      exact kept.dropped_of_ne (by rw [holds]; rfl) differs key found

theorem Kept.step {requests : Requests Caller} (strategy : InMemoryLockStrategy Caller) (action : LockAction Caller)
    (kept : Kept requests strategy) : Kept requests (strategy.step requests action) := by
  cases action with
  | acquire caller => exact kept.acquire caller
  | resume caller => exact kept.resume caller
  | expire caller => exact kept.expire caller
  | release caller => exact kept.release caller

omit [DecidableEq Caller] in
theorem kept_empty (requests : Requests Caller) : Kept requests (empty : InMemoryLockStrategy Caller) := by
  constructor <;> simp [empty,Status.lock?,Status.claim?]

theorem kept_run (requests : Requests Caller) (actions : List (LockAction Caller)) :
    Kept requests (Transition.run (InMemoryLockStrategy.step requests) empty actions) :=
  Transition.run_invariant (Kept requests) (fun strategy action kept _ => Kept.step strategy action kept) empty actions
    (kept_empty requests) (Transition.meets_of_forall _ (fun _ _ => True) (fun _ _ => trivial) _ _)

/-- All who hold the lock of a key, or are about to, have the same state object. -/
def Together (requests : Requests Caller) (strategy : InMemoryLockStrategy Caller) : Prop :=
  ∀ caller other lock name, (strategy.status caller).claim? = some lock → (strategy.status other).claim? = some name →
    (requests caller).1.key = (requests other).1.key → lock = name

omit [DecidableEq Caller] in
theorem Together.inherit {requests : Requests Caller} {strategy after : InMemoryLockStrategy Caller}
    (together : Together requests strategy)
    (claims : ∀ caller lock, (after.status caller).claim? = some lock → ∃ holder,
      (strategy.status holder).claim? = some lock ∧ (requests holder).1.key = (requests caller).1.key) :
    Together requests after := by
  intro caller other lock name first second same
  obtain ⟨holder,claim,key⟩ := claims caller lock first
  obtain ⟨owner,also,place⟩ := claims other name second
  exact together holder owner lock name claim also (by rw [key,place,same])

theorem claims_update {strategy after : InMemoryLockStrategy Caller} {caller other : Caller} {status : Status}
    {lock : Nat} (changed : after.status = Function.update strategy.status caller status)
    (claims : (after.status other).claim? = some lock) :
    (strategy.status other).claim? = some lock ∨ (other = caller ∧ status.claim? = some lock) := by
  rw [changed,Function.update_apply] at claims
  split at claims
  next same => exact .inr ⟨same,claims⟩
  next => exact .inl claims

theorem Together.acquire {requests : Requests Caller} {strategy : InMemoryLockStrategy Caller}
    (kept : Kept requests strategy) (together : Together requests strategy) (caller : Caller)
    (settled : Settled requests strategy (.acquire caller)) :
    Together requests (strategy.step requests (.acquire caller)) := by
  cases idle : strategy.status caller with
  | queued lock | woken lock | holding lock | done => simpa [InMemoryLockStrategy.step,idle] using together
  | idle =>
    cases found : strategy.locks (requests caller).1.key with
    | none =>
      rw [step_acquire_absent idle found]
      intro first second lock name claims also same
      rcases claims_update rfl claims with old | ⟨rfl,new⟩
      · rcases claims_update rfl also with older | ⟨rfl,newer⟩
        · exact together first second lock name old older same
        · exact absurd same (settled found first lock old)
      · rcases claims_update rfl also with older | ⟨rfl,newer⟩
        · exact absurd same.symm (settled found second name older)
        · exact Option.some.inj (new.symm.trans newer)
    | some lock =>
      have occupied := kept.entry _ lock found
      obtain ⟨holder,holds⟩ := occupied.holder
      have place := (kept.placed holder lock (by rw [holds]; rfl)).2 _ found
      refine together.inherit fun other name claims => ?_
      simp only [InMemoryLockStrategy.step,idle,lockFor,found,acquireLock,occupied.1,not_true_eq_false,if_false] at claims
      have older (status : Status) (changed : (status.claim? = some name → lock = name))
          (claims : (Function.update strategy.status caller status other).claim? = some name) :
          ∃ holder, (strategy.status holder).claim? = some name ∧ (requests holder).1.key = (requests other).1.key := by
        rw [Function.update_apply] at claims
        split at claims
        next same =>
          obtain rfl := changed claims
          exact ⟨holder,by rw [holds]; rfl,by rw [same,place]⟩
        next => exact ⟨other,claims,rfl⟩
      split at claims
      next => exact older (.holding lock) (fun same => Option.some.inj same) claims
      next =>
        split at claims
        next => exact older .done (fun same => by cases same) claims
        next => exact older (.queued lock) (fun same => by cases same) claims

theorem Together.release {requests : Requests Caller} {strategy : InMemoryLockStrategy Caller}
    (kept : Kept requests strategy) (together : Together requests strategy) (caller : Caller) :
    Together requests (strategy.step requests (.release caller)) := by
  cases holds : strategy.status caller with
  | idle | queued lock | woken lock | done => simpa [InMemoryLockStrategy.step,holds] using together
  | holding lock =>
    refine together.inherit fun other name claims => ?_
    have left {status : Caller → Status} (same : status = Function.update strategy.status caller .done)
        (claims : (status other).claim? = some name) :
        ∃ holder, (strategy.status holder).claim? = some name ∧ (requests holder).1.key = (requests other).1.key := by
      rw [same,Function.update_apply] at claims
      split at claims
      next => cases claims
      next => exact ⟨other,claims,rfl⟩
    simp only [InMemoryLockStrategy.step,holds,releaseLock] at claims
    split at claims
    next found =>
      split at claims
      next =>
        obtain ⟨_,_,_,plain | ⟨waiter,queued,woke⟩⟩ := releaseFifo_cases
          ((strategy.setStatus caller .done).setState lock {strategy.states lock with
            refCount := (strategy.states lock).refCount-1, sessionId := none}) lock
        · exact left plain claims
        · by_cases chosen : other = waiter
          · subst chosen
            have self : other ≠ caller := by
              rintro rfl
              simp [InMemoryLockStrategy.setStatus,InMemoryLockStrategy.setState] at queued
            have before : strategy.status other = .queued lock := by
              simpa [InMemoryLockStrategy.setStatus,InMemoryLockStrategy.setState,self] using queued
            have awake : name = lock := by
              have now := (congrFun woke other).trans (Function.update_self ..)
              exact (Option.some.inj ((congrArg Status.claim? now).symm.trans claims)).symm
            have place := (kept.placed other lock (by rw [before]; rfl)).2 _ found
            exact ⟨caller,by rw [holds,awake]; rfl,place⟩
          · have now := (congrFun woke other).trans (Function.update_of_ne chosen _ _)
            exact left rfl ((congrArg Status.claim? now).symm.trans claims)
      next => exact left rfl claims
    next => exact left rfl claims

theorem Together.step {requests : Requests Caller} (strategy : InMemoryLockStrategy Caller)
    (action : LockAction Caller) (kept : Kept requests strategy) (together : Together requests strategy)
    (settled : Settled requests strategy action) : Together requests (strategy.step requests action) := by
  cases action with
  | acquire caller => exact together.acquire kept caller settled
  | release caller => exact together.release kept caller
  | resume caller =>
    cases now : strategy.status caller with
    | idle | queued lock | holding lock | done => simpa [InMemoryLockStrategy.step,now] using together
    | woken lock =>
      refine together.inherit fun other name claims => ⟨other,?_,rfl⟩
      simp only [InMemoryLockStrategy.step,now] at claims
      rcases claims_update rfl claims with old | ⟨rfl,same⟩
      · exact old
      · rw [now]
        exact same
  | expire caller =>
    cases now : strategy.status caller with
    | idle | holding lock | done => simpa [InMemoryLockStrategy.step,now] using together
    | queued lock | woken lock =>
      refine together.inherit fun other name claims => ⟨other,?_,rfl⟩
      simp only [InMemoryLockStrategy.step,now] at claims
      rcases claims_update rfl claims with old | ⟨rfl,same⟩
      · exact old
      · cases same

/-- A key nobody holds is free at once, in every run; and as long as no acquirer comes
between a dropped entry and the waiter that was handed its lock, all who hold the lock
of a key are one client. -/
theorem exclusive_while_settled (requests : Requests Caller) (actions : List (LockAction Caller)) :
    let strategy := Transition.run (InMemoryLockStrategy.step requests) empty actions
    (∀ caller, strategy.status caller = .idle →
      (∀ other lock, (requests other).1.key = (requests caller).1.key → strategy.status other ≠ .holding lock) →
      ∃ lock, (strategy.step requests (.acquire caller)).status caller = .holding lock) ∧
    (Transition.Meets (InMemoryLockStrategy.step requests) (Settled requests) empty actions →
      ∀ caller other lock name, strategy.status caller = .holding lock → strategy.status other = .holding name →
        (requests caller).1.key = (requests other).1.key → SameClient requests caller other) := by
  intro strategy
  have kept : Kept requests strategy := kept_run requests actions
  constructor
  · intro caller idle unheld
    have absent : strategy.locks (requests caller).1.key = none := by
      cases found : strategy.locks (requests caller).1.key with
      | none => rfl
      | some lock =>
        obtain ⟨holder,holds⟩ := (kept.entry _ lock found).holder
        have place := (kept.placed holder lock (by rw [holds]; rfl)).2 _ found
        exact absurd holds (unheld holder lock place.symm)
    refine ⟨strategy.next,?_⟩
    rw [step_acquire_absent idle absent]
    exact Function.update_self ..
  · intro meets caller other lock name holds also same
    have together : Kept requests strategy ∧ Together requests strategy :=
      Transition.run_invariant (fun strategy => Kept requests strategy ∧ Together requests strategy)
        (fun strategy action before settled =>
          ⟨Kept.step strategy action before.1,Together.step strategy action before.1 before.2 settled⟩)
        empty actions ⟨kept_empty requests,fun caller other lock name claims => by simp [empty,Status.claim?] at claims⟩
        meets
    have first : (strategy.status caller).claim? = some lock := by rw [holds]; rfl
    have second : (strategy.status other).claim? = some name := by rw [also]; rfl
    obtain rfl := together.2 caller other lock name first second same
    by_cases entered : strategy.locks (requests caller).1.key = some lock
    · exact (kept.entry _ lock entered).sameClient holds also
    · exact .inl (kept.orphan caller other lock
        (kept.dropped_of_ne (Status.lock_of_claim first) entered) first second)

def accountRequests : Requests Nat := fun _ => (⟨"Account","123",.write⟩,none)

/-- The waiter takes over before anyone else comes. -/
theorem exclusive_hand_over :
    let strategy := Transition.run (InMemoryLockStrategy.step accountRequests) empty
      [.acquire 0,.acquire 1,.release 0,.resume 1]
    strategy.status 1 = .holding 0 ∧ ∀ other lock, strategy.status other = .holding lock →
      SameClient accountRequests 1 other := by
  intro strategy
  have holds : strategy.status 1 = .holding 0 := by decide +kernel
  refine ⟨holds,fun other lock also => ?_⟩
  refine (exclusive_while_settled accountRequests [.acquire 0,.acquire 1,.release 0,.resume 1]).2 ?_ 1 other 0 lock
    holds also rfl
  refine ⟨fun _ other lock claims => (by cases claims),fun absent => ?_,trivial,trivial,trivial⟩
  exact absurd absent (by decide +kernel)

/-- A newcomer gets a new lock for the key while the woken waiter goes on with the old one. -/
theorem two_holders :
    let strategy := Transition.run (InMemoryLockStrategy.step accountRequests) empty
      [.acquire 0,.acquire 1,.release 0,.acquire 2,.resume 1]
    strategy.status 1 = .holding 0 ∧ strategy.status 2 = .holding 1 ∧ ¬ SameClient accountRequests 1 2 := by
  refine ⟨by decide +kernel,by decide +kernel,?_⟩
  rintro (same | ⟨named,_⟩)
  · cases same
  · cases named

end InMemoryLockStrategy

end CqrsDdd.Locking
