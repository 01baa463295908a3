import CqrsDdd.Locking.CriticalSection
import CqrsDdd.Transition
import Mathlib.Logic.Function.Basic
import Mathlib.Logic.Relation

/-! Critical sections that run side by side. All of them ask in the order of the
keys, so along a chain of waiting sections the wanted key only grows and no chain
closes. What a failed entry has acquired is given back, unless what is raised is
no `Exception`: then the locks stay held. -/
namespace CqrsDdd.Locking

variable {Id Token : Type} [DecidableEq Id]

/-- A section between two calls: it still wants resources (or runs its body, when
there is none left), it releases what it holds, or an exception has left it at once. -/
inductive Phase (Token : Type)
  | inside (acquired : Acquired Token) (wanted : List ResourceIdentifier)
  | rollingBack (locks : Acquired Token) (pending : Option Failure)
  | escaped (failure : Failure)

/-- The answer to the pending call, or the end of the body. A release that fails may have freed the lock or not. -/
inductive Reply (Token : Type)
  | granted (token : Token)
  | failed (token : Option Token) (failure : Failure)
  | done
  | released (failure : Option Failure) (freed : Bool)

namespace Phase

def pending : Phase Token → Option (Call Token)
  | .inside _ (resource::_) => some (.acquire resource)
  | .rollingBack (lock::_) _ => some (.release lock.1 lock.2)
  | _ => none

def advance : Phase Token → Reply Token → Phase Token
  | .inside acquired (resource::rest), .granted token => .inside (acquired ++ [(resource,token)]) rest
  | .inside acquired (resource::_), .failed token failure =>
    if failure.kind = .base then .escaped failure
    else .rollingBack (acquired ++ (token.map fun token => (resource,token)).toList).reverse (some failure)
  | .inside acquired [], .done => .rollingBack acquired.reverse none
  | .rollingBack (_::rest) pending, .released none _ => .rollingBack rest pending
  | .rollingBack (_::rest) pending, .released (some failure) _ =>
    if failure.kind = .base then .escaped failure else .rollingBack rest pending
  | phase, _ => phase

def calls : Phase Token → List (Reply Token) → List (Call Token)
  | _, [] => []
  | phase, reply::rest => phase.pending.toList ++ calls (phase.advance reply) rest

end Phase

/-- The phases of all sections, the holder of every key and all calls so far. -/
structure Sections (Id Token : Type) where
  phase : Id → Phase Token
  holder : String ×ₗ String → Option Id
  log : List (Id × Call Token)

namespace Sections

def start (resources : Id → List ResourceIdentifier) : Sections Id Token :=
  ⟨fun id => .inside [] (CriticalSection.requested (resources id)),fun _ => none,[]⟩

/-- The locks are exclusive: one is taken only while nobody holds its key. -/
def permitted (sections : Sections Id Token) (id : Id) (reply : Reply Token) : Bool :=
  match sections.phase id, reply with
  | .inside _ (resource::_), .granted _ => (sections.holder resource.key).isNone
  | .inside _ (resource::_), .failed token _ => token.isNone || (sections.holder resource.key).isNone
  | .inside _ [], .done => true
  | .rollingBack (_::_) _, .released _ _ => true
  | _, _ => false

def holderAfter (sections : Sections Id Token) (id : Id) (reply : Reply Token) : String ×ₗ String → Option Id :=
  match sections.phase id, reply with
  | .inside _ (resource::_), .granted _ => Function.update sections.holder resource.key (some id)
  | .inside _ (resource::_), .failed (some _) _ => Function.update sections.holder resource.key (some id)
  | .rollingBack (lock::_) _, .released failure freed =>
    if (failure.isNone || freed) && sections.holder lock.1.key = some id then
      Function.update sections.holder lock.1.key none
    else sections.holder
  | _, _ => sections.holder

def step (sections : Sections Id Token) (action : Id × Reply Token) : Sections Id Token :=
  if sections.permitted action.1 action.2 then
    { phase := Function.update sections.phase action.1 ((sections.phase action.1).advance action.2)
      holder := sections.holderAfter action.1 action.2
      log := sections.log ++ (sections.phase action.1).pending.toList.map fun call => (action.1,call) }
  else sections

def WaitsFor (sections : Sections Id Token) (id other : Id) : Prop :=
  ∃ acquired resource rest, sections.phase id = .inside acquired (resource::rest) ∧
    sections.holder resource.key = some other

def acquireOf : Call Token → Option ResourceIdentifier
  | .acquire resource => some resource
  | .release _ _ | .handle => none

def answered (sections : Sections Id Token) (id : Id) : List ResourceIdentifier :=
  (sections.log.filter fun entry => entry.1 = id).filterMap fun entry => acquireOf entry.2

/-- Every resource the section has asked for, the one it is waiting for included. -/
def asked (sections : Sections Id Token) (id : Id) : List ResourceIdentifier :=
  sections.answered id ++ ((sections.phase id).pending.bind acquireOf).toList

/-- What is known of one section: inside, its wanted resources are the ones not yet
answered and all it holds lies before them. -/
def Ordered (sections : Sections Id Token) (resources : List ResourceIdentifier) (id : Id) : Prop :=
  match sections.phase id with
  | .inside acquired wanted => sections.answered id = acquired.map Prod.fst ∧
      acquired.map Prod.fst ++ wanted = CriticalSection.requested resources ∧
      ∀ key, sections.holder key = some id → key ∈ acquired.map fun lock => lock.1.key
  | .rollingBack _ _ | .escaped _ => sections.answered id <+: CriticalSection.requested resources

theorem answered_step (sections : Sections Id Token) (id other : Id) (reply : Reply Token)
    (allowed : sections.permitted id reply = true) :
    (sections.step (id,reply)).answered other = sections.answered other ++
      if other = id then ((sections.phase id).pending.bind acquireOf).toList else [] := by
  have logged : (sections.step (id,reply)).log =
      sections.log ++ (sections.phase id).pending.toList.map fun call => (id,call) := by
    simp [step,allowed]
  rw [answered,logged,List.filter_append,List.filterMap_append]
  congr 1
  by_cases same : other = id
  · subst same
    cases (sections.phase other).pending with
    | none => simp
    | some call =>
      simp only [Option.toList_some,List.map_cons,List.map_nil,decide_true,List.filter_cons_of_pos,List.filter_nil,
        List.filterMap_cons,List.filterMap_nil,if_true,Option.bind_some]
      cases acquireOf call <;> rfl
  · cases (sections.phase id).pending with
    | none => simp [same]
    | some call => simp [same,Ne.symm same]

theorem holderAfter_cases (sections : Sections Id Token) (id : Id) (reply : Reply Token) :
    sections.holderAfter id reply = sections.holder ∨
      ∃ key, sections.holderAfter id reply = Function.update sections.holder key (some id) ∨
        sections.holderAfter id reply = Function.update sections.holder key none := by
  unfold holderAfter
  split
  next => exact .inr ⟨_,.inl rfl⟩
  next => exact .inr ⟨_,.inl rfl⟩
  next =>
    split
    next => exact .inr ⟨_,.inr rfl⟩
    next => exact .inl rfl
  next => exact .inl rfl

theorem holderAfter_other {sections : Sections Id Token} {id other : Id} {reply : Reply Token} (differs : other ≠ id)
    {key : String ×ₗ String} (held : sections.holderAfter id reply key = some other) :
    sections.holder key = some other := by
  rcases sections.holderAfter_cases id reply with same | ⟨name,taken | freed⟩
  · rwa [same] at held
  · rw [taken,Function.update_apply] at held
    split at held
    next => exact absurd (Option.some.inj held).symm differs
    next => exact held
  · rw [freed,Function.update_apply] at held
    split at held
    next => cases held
    next => exact held

theorem phase_step (sections : Sections Id Token) (id other : Id) (reply : Reply Token)
    (allowed : sections.permitted id reply = true) :
    (sections.step (id,reply)).phase other =
      if other = id then (sections.phase id).advance reply else sections.phase other := by
  simp only [step,allowed,if_true,Function.update_apply]

theorem holder_step (sections : Sections Id Token) (id : Id) (reply : Reply Token)
    (allowed : sections.permitted id reply = true) :
    (sections.step (id,reply)).holder = sections.holderAfter id reply := by
  simp only [step,allowed,if_true]

theorem Ordered.own {sections : Sections Id Token} {resources : List ResourceIdentifier} {id : Id}
    (ordered : sections.Ordered resources id) (reply : Reply Token) (allowed : sections.permitted id reply = true) :
    (sections.step (id,reply)).Ordered resources id := by
  have asked := answered_step sections id id reply allowed
  have moved := phase_step sections id id reply allowed
  have locks := holder_step sections id reply allowed
  rw [if_pos rfl] at asked moved
  unfold Ordered at ordered ⊢
  rw [moved,asked,locks]
  cases now : sections.phase id with
  | inside acquired wanted =>
    simp only [now] at ordered
    obtain ⟨past,whole,held⟩ := ordered
    cases wanted with
    | nil =>
      cases reply with
      | done =>
        rw [past,← whole]
        simp [Phase.advance,Phase.pending]
      | granted token => simp [permitted,now] at allowed
      | failed token failure => simp [permitted,now] at allowed
      | released failure freed => simp [permitted,now] at allowed
    | cons resource rest =>
      have begun : acquired.map Prod.fst ++ [resource] <+: CriticalSection.requested resources :=
        ⟨rest,by rw [← whole]; simp⟩
      cases reply with
      | granted token =>
        refine ⟨by simp [past,Phase.pending,acquireOf],by rw [← whole]; simp,fun key own => ?_⟩
        simp only [holderAfter,now,Function.update_apply] at own
        split at own
        next same => simp [same]
        next =>
          rw [List.map_append]
          exact List.mem_append_left _ (held key own)
      | failed token failure =>
        by_cases base : failure.kind = .base
        · simpa [Phase.advance,base,past,Phase.pending,acquireOf] using begun
        · simpa [Phase.advance,base,past,Phase.pending,acquireOf] using begun
      | done => simp [permitted,now] at allowed
      | released failure freed => simp [permitted,now] at allowed
  | rollingBack locks pending =>
    simp only [now] at ordered
    have quiet : ((Phase.rollingBack locks pending).pending.bind acquireOf).toList = [] := by
      cases locks <;> rfl
    rw [quiet,List.append_nil]
    cases locks with
    | nil => cases reply <;> simp [permitted,now] at allowed
    | cons lock rest =>
      cases reply with
      | released failure freed =>
        cases failure with
        | none => exact ordered
        | some failure =>
          by_cases base : failure.kind = .base
          · simpa [Phase.advance,base] using ordered
          · simpa [Phase.advance,base] using ordered
      | granted token => simp [permitted,now] at allowed
      | failed token failure => simp [permitted,now] at allowed
      | done => simp [permitted,now] at allowed
  | escaped failure => cases reply <;> simp [permitted,now] at allowed

theorem Ordered.step {resources : Id → List ResourceIdentifier} (sections : Sections Id Token)
    (action : Id × Reply Token) (ordered : ∀ id, sections.Ordered (resources id) id) (id : Id) :
    (sections.step action).Ordered (resources id) id := by
  obtain ⟨mover,reply⟩ := action
  by_cases allowed : sections.permitted mover reply = true
  · by_cases same : id = mover
    · subst same
      exact (ordered id).own reply allowed
    · have before := ordered id
      unfold Ordered at before ⊢
      rw [phase_step sections mover id reply allowed,answered_step sections mover id reply allowed,
        holder_step sections mover reply allowed,if_neg same,if_neg same,List.append_nil]
      cases now : sections.phase id with
      | inside acquired wanted =>
        simp only [now] at before ⊢
        exact ⟨before.1,before.2.1,fun key own => before.2.2 key (holderAfter_other same own)⟩
      | rollingBack locks pending => simpa [now] using before
      | escaped failure => simpa [now] using before
  · have idle : sections.step (mover,reply) = sections := by simp [Sections.step,allowed]
    rw [idle]
    exact ordered id

theorem ordered_run (resources : Id → List ResourceIdentifier) (actions : List (Id × Reply Token)) (id : Id) :
    (Transition.run Sections.step (start resources) actions).Ordered (resources id) id := by
  have initial : ∀ id, (start resources : Sections Id Token).Ordered (resources id) id := fun id =>
    ⟨rfl,rfl,fun key own => by simp [start] at own⟩
  exact Transition.run_invariant (fun sections => ∀ id, sections.Ordered (resources id) id)
    (fun sections action ordered _ => Ordered.step sections action ordered) _ actions initial
    (Transition.meets_of_forall _ (fun _ _ => True) (fun _ _ => trivial) _ _) id

theorem Ordered.asked_starts {sections : Sections Id Token} {resources : List ResourceIdentifier} {id : Id}
    (ordered : sections.Ordered resources id) : sections.asked id <+: CriticalSection.requested resources := by
  unfold Ordered at ordered
  rw [asked]
  cases now : sections.phase id with
  | inside acquired wanted =>
    simp only [now] at ordered
    rw [ordered.1,← ordered.2.1]
    cases wanted with
    | nil => simp [Phase.pending]
    | cons resource rest => exact ⟨rest,by simp [Phase.pending,acquireOf]⟩
  | rollingBack locks pending =>
    simp only [now] at ordered
    cases locks <;> simpa [Phase.pending,acquireOf] using ordered
  | escaped failure =>
    simp only [now] at ordered
    simpa [Phase.pending] using ordered

theorem Ordered.increases {sections : Sections Id Token} {resources : List ResourceIdentifier} {other : Id}
    (ordered : sections.Ordered resources other) {owned : Acquired Token}
    {resource wanted : ResourceIdentifier} {others : List ResourceIdentifier} (held : sections.holder resource.key = some other)
    (also : sections.phase other = .inside owned (wanted::others)) : resource.key < wanted.key := by
  simp only [Ordered,also] at ordered
  obtain ⟨_,whole,holds⟩ := ordered
  have sorted := CriticalSection.requested_sorted resources
  rw [← whole,List.pairwise_append] at sorted
  obtain ⟨lock,member,same⟩ := List.mem_map.mp (holds resource.key held)
  rw [← same]
  exact sorted.2.2 lock.1 (List.mem_map_of_mem member) wanted List.mem_cons_self

theorem chain_increases {sections : Sections Id Token} {resources : Id → List ResourceIdentifier}
    (ordered : ∀ id, sections.Ordered (resources id) id) {id last : Id}
    (chain : Relation.TransGen sections.WaitsFor id last) {acquired owned : Acquired Token}
    {resource wanted : ResourceIdentifier} {rest others : List ResourceIdentifier}
    (waiting : sections.phase id = .inside acquired (resource::rest))
    (also : sections.phase last = .inside owned (wanted::others)) : resource.key < wanted.key := by
  induction chain generalizing owned wanted others with
  | single first =>
    obtain ⟨acquired',resource',rest',now,held⟩ := first
    rw [waiting] at now
    cases now
    exact (ordered _).increases held also
  | tail _ next ih =>
    obtain ⟨acquired',resource',rest',now,held⟩ := next
    exact (ih now).trans ((ordered _).increases held also)

theorem waitsFor_acyclic {sections : Sections Id Token} {resources : Id → List ResourceIdentifier}
    (ordered : ∀ id, sections.Ordered (resources id) id) (id : Id) : ¬ Relation.TransGen sections.WaitsFor id id := by
  intro cycle
  obtain ⟨second,⟨acquired,resource,rest,waiting,_⟩,_⟩ := Relation.TransGen.head'_iff.mp cycle
  exact lt_irrefl _ (chain_increases ordered cycle waiting waiting)

end Sections

namespace CriticalSection

/-- A failed entry asks for the release of all it had acquired, last first. -/
def CleansUp (strategy : LockStrategy Token) (timeout : String) (resources : List ResourceIdentifier) : Prop :=
  ∀ calls acquired failure, acquireAll strategy [] (requested resources) = (calls,acquired,some failure) →
    (enter strategy timeout resources).1 = calls ++ releaseCalls acquired.reverse

/-- Where an acquisition fails, nothing was acquired before, or what it raises is an
`Exception` and no release but that of the first lock is interrupted. -/
def Recoverable (strategy : LockStrategy Token) (resources : List ResourceIdentifier) : Prop :=
  ∀ (held : Acquired Token) resource rest token failure, requested resources = held.map Prod.fst ++ resource::rest →
    (∀ lock ∈ held, strategy.acquire lock.1 = .granted lock.2) → strategy.acquire resource = .failed token failure →
    let acquired := held ++ (token.map fun token => (resource,token)).toList
    acquired = [] ∨ (failure.kind ≠ .base ∧ ∀ lock ∈ acquired.tail, ¬ Interrupts strategy lock)

theorem enter_failed {strategy : LockStrategy Token} {timeout : String} {resources : List ResourceIdentifier}
    {calls : List (Call Token)} {acquired : Acquired Token} {failure : Failure}
    (ended : acquireAll strategy [] (requested resources) = (calls,acquired,some failure)) :
    (enter strategy timeout resources).1 =
      calls ++ if failure.kind = .base then [] else (rollback strategy acquired.reverse).1 := by
  simp only [enter,ended]
  split
  next => simp
  next =>
    split
    next => rfl
    next => split <;> rfl

theorem enter_cleans_iff {strategy : LockStrategy Token} {timeout : String} {resources : List ResourceIdentifier}
    {calls : List (Call Token)} {acquired : Acquired Token} {failure : Failure}
    (ended : acquireAll strategy [] (requested resources) = (calls,acquired,some failure)) :
    (enter strategy timeout resources).1 = calls ++ releaseCalls acquired.reverse ↔
      acquired = [] ∨ (failure.kind ≠ .base ∧ ∀ lock ∈ acquired.tail, ¬ Interrupts strategy lock) := by
  rw [enter_failed ended,List.append_cancel_left_eq]
  by_cases base : failure.kind = .base
  · rw [if_pos base]
    constructor
    · intro same
      have lengths := congrArg List.length same
      exact .inl (List.eq_nil_of_length_eq_zero (by simpa [releaseCalls] using lengths.symm))
    · rintro (rfl | ⟨caught,_⟩)
      · rfl
      · exact absurd base caught
  · rw [if_neg base,rollback_complete_iff,List.dropLast_reverse]
    cases acquired with
    | nil => simp
    | cons first rest => simp [base]

theorem cleansUp_iff (strategy : LockStrategy Token) (timeout : String) (resources : List ResourceIdentifier) :
    CleansUp strategy timeout resources ↔ Recoverable strategy resources := by
  constructor
  · intro cleans held resource rest token failure split granted refused
    have ended : acquireAll strategy [] (requested resources) = ((held.map Prod.fst ++ [resource]).map .acquire,
        held ++ (token.map fun token => (resource,token)).toList,some failure) := by
      rw [split]
      exact acquireAll_failed [] granted refused
    exact (enter_cleans_iff ended).mp (cleans _ _ _ ended)
  · intro recoverable calls acquired failure ended
    refine (enter_cleans_iff ended).mpr ?_
    obtain ⟨held,granted,⟨_,result⟩ | ⟨resource,rest,token,_,split,refused,result⟩⟩ :=
      acquireAll_cases strategy [] (requested resources)
    · rw [result] at ended
      cases ended
    · rw [result] at ended
      cases ended
      exact recoverable held resource rest token _ split granted refused

end CriticalSection

namespace Phase

theorem calls_append (phase : Phase Token) (first second : List (Reply Token)) :
    phase.calls (first ++ second) = phase.calls first ++ (Transition.run advance phase first).calls second := by
  induction first generalizing phase with
  | nil => rfl
  | cons reply rest ih => simp [calls,ih]

theorem granted_run (acquired held : Acquired Token) (rest : List ResourceIdentifier) :
    (Phase.inside acquired (held.map Prod.fst ++ rest)).calls (held.map fun lock => .granted lock.2) =
        (held.map Prod.fst).map .acquire ∧
      Transition.run advance (.inside acquired (held.map Prod.fst ++ rest)) (held.map fun lock => .granted lock.2) =
        .inside (acquired ++ held) rest := by
  induction held generalizing acquired with
  | nil => simp [calls]
  | cons lock others ih =>
    obtain ⟨made,reached⟩ := ih (acquired ++ [lock])
    simp [calls,pending,advance,made,reached]

theorem escaped_run (failure : Failure) (replies : List (Reply Token)) :
    (Phase.escaped failure).calls replies = [] ∧
      Transition.run advance (.escaped failure) replies = .escaped failure := by
  induction replies with
  | nil => exact ⟨rfl,rfl⟩
  | cons reply rest ih => simpa [calls,pending,advance] using ih

theorem rollback_run (strategy : LockStrategy Token) (locks : Acquired Token) (outcome : Option Failure) :
    let replies := locks.map fun lock => Reply.released (strategy.release lock.1 lock.2) true
    (Phase.rollingBack locks outcome).calls replies = (CriticalSection.rollback strategy locks).1 ∧
      Transition.run advance (.rollingBack locks outcome) replies =
        match (CriticalSection.rollback strategy locks).2 with
        | none => .rollingBack [] outcome
        | some failure => .escaped failure := by
  induction locks with
  | nil => exact ⟨rfl,rfl⟩
  | cons lock rest ih =>
    cases answer : strategy.release lock.1 lock.2 with
    | none => simpa [calls,pending,advance,CriticalSection.rollback,answer] using ih
    | some failure =>
      by_cases base : failure.kind = .base
      · obtain ⟨silent,stays⟩ := escaped_run failure
          (rest.map fun lock => (Reply.released (strategy.release lock.1 lock.2) true : Reply Token))
        simp [calls,pending,advance,CriticalSection.rollback,answer,base,silent,stays]
      · simpa [calls,pending,advance,CriticalSection.rollback,answer,base] using ih

theorem failed_run (strategy : LockStrategy Token) (acquired : Acquired Token) (resource : ResourceIdentifier)
    (rest : List ResourceIdentifier) (token : Option Token) (failure : Failure) :
    ∃ replies, (Phase.inside acquired (resource::rest)).calls (.failed token failure::replies) =
        .acquire resource::(if failure.kind = .base then [] else (CriticalSection.rollback strategy
          (acquired ++ (token.map fun token => (resource,token)).toList).reverse).1) ∧
      ∃ last, Transition.run advance (.inside acquired (resource::rest)) (.failed token failure::replies) =
          .escaped last ∨
        Transition.run advance (.inside acquired (resource::rest)) (.failed token failure::replies) =
          .rollingBack [] (some last) := by
  by_cases base : failure.kind = .base
  · refine ⟨[],?_,failure,.inl ?_⟩ <;> simp [calls,pending,advance,base]
  · obtain ⟨undone,ended⟩ := rollback_run strategy
      (acquired ++ (token.map fun token => (resource,token)).toList).reverse (some failure)
    refine ⟨(acquired ++ (token.map fun token => (resource,token)).toList).reverse.map fun lock =>
      Reply.released (strategy.release lock.1 lock.2) true,?_,?_⟩
    · rw [if_neg base,← undone]
      simp only [calls,pending,advance,if_neg base]
      rfl
    · rw [Transition.run_cons,advance,if_neg base,ended]
      split
      next => exact ⟨failure,.inr rfl⟩
      next last _ => exact ⟨last,.inl rfl⟩

/-- The entry as one function and the section that is advanced call by call agree: for
every strategy there are answers on which the section makes the calls of `enter` and
ends inside with all locks, or outside. -/
theorem enter_run (strategy : LockStrategy Token) (timeout : String) (resources : List ResourceIdentifier) :
    ∃ replies, (Phase.inside [] (CriticalSection.requested resources)).calls replies =
        (CriticalSection.enter strategy timeout resources).1 ∧
      ((∃ acquired, (CriticalSection.enter strategy timeout resources).2 = .ok acquired ∧
          Transition.run advance (.inside [] (CriticalSection.requested resources)) replies = .inside acquired []) ∨
        ∃ failure,
          Transition.run advance (.inside [] (CriticalSection.requested resources)) replies = .escaped failure ∨
            Transition.run advance (.inside [] (CriticalSection.requested resources)) replies =
              .rollingBack [] (some failure)) := by
  obtain ⟨held,granted,⟨all,result⟩ | ⟨resource,rest,token,failure,split,refused,result⟩⟩ :=
    CriticalSection.acquireAll_cases strategy [] (CriticalSection.requested resources)
  · obtain ⟨made,reached⟩ := granted_run [] held []
    rw [List.append_nil,all] at made reached
    refine ⟨held.map fun lock => .granted lock.2,?_,.inl ⟨held,?_,reached⟩⟩
    · rw [made,CriticalSection.enter,result]
    · rw [CriticalSection.enter,result]
      rfl
  · obtain ⟨made,reached⟩ := granted_run [] held (resource::rest)
    obtain ⟨replies,undone,last,ended⟩ := failed_run strategy held resource rest token failure
    refine ⟨held.map (fun lock => .granted lock.2) ++ .failed token failure::replies,?_,.inr ⟨last,?_⟩⟩
    · rw [CriticalSection.enter_failed result,split,calls_append,made,reached]
      simp [undone]
    · rw [split,Transition.run_append,reached]
      exact ended

end Phase

/-- In every run each section asks for its resources in the one order of the keys, each
once and for writing if anyone asks it to, and no sections wait for each other in a
circle; a failed entry gives back what it acquired exactly where it is recoverable. -/
theorem sections_ordered_and_clean (resources : Id → List ResourceIdentifier) (actions : List (Id × Reply Token)) :
    let sections := Transition.run Sections.step (Sections.start resources) actions
    (∀ id, sections.asked id <+: CriticalSection.requested (resources id) ∧
      (CriticalSection.requested (resources id)).Pairwise (fun first second => first.key < second.key) ∧
      (∀ resource ∈ CriticalSection.requested (resources id), resource ∈ resources id) ∧
      ∀ resource ∈ resources id, ∃ asked ∈ CriticalSection.requested (resources id), asked.key = resource.key ∧
        (resource.lockMode = .write → asked.lockMode = .write)) ∧
    (∀ id, ¬ Relation.TransGen sections.WaitsFor id id) ∧
    ∀ (strategy : LockStrategy Token) timeout id,
      CriticalSection.CleansUp strategy timeout (resources id) ↔
        CriticalSection.Recoverable strategy (resources id) := by
  intro sections
  have ordered := Sections.ordered_run resources actions
  refine ⟨fun id => ⟨(ordered id).asked_starts,CriticalSection.requested_sorted _,
    fun resource => CriticalSection.requested_declared,fun resource member => ?_⟩,
    Sections.waitsFor_acyclic ordered,fun strategy timeout id => CriticalSection.cleansUp_iff strategy timeout _⟩
  obtain ⟨asked,inside,same⟩ := CriticalSection.requested_complete member
  exact ⟨asked,inside,same,CriticalSection.requested_write inside member same.symm⟩

/-- The second acquisition is cancelled: the first lock is never released. -/
theorem cancelled_entry_keeps_lock :
    let strategy : LockStrategy Nat :=
      ⟨fun resource => if resource.resourceId = "1" then .granted 7 else .failed none ⟨.base,"CancelledError"⟩,fun _ _ => none⟩
    ¬ CriticalSection.CleansUp strategy "10.0" [⟨"Account","2",.write⟩,⟨"Account","1",.write⟩] := by
  intro strategy cleans
  have order : CriticalSection.requested [⟨"Account","2",.write⟩,⟨"Account","1",.write⟩] =
      [⟨"Account","1",.write⟩,⟨"Account","2",.write⟩] := by decide +kernel
  have ended : CriticalSection.acquireAll strategy []
      (CriticalSection.requested [⟨"Account","2",.write⟩,⟨"Account","1",.write⟩]) =
      ([.acquire ⟨"Account","1",.write⟩,.acquire ⟨"Account","2",.write⟩],[(⟨"Account","1",.write⟩,7)],
        some ⟨.base,"CancelledError"⟩) := by
    rw [order]
    rfl
  rcases (CriticalSection.enter_cleans_iff ended).mp (cleans _ _ _ ended) with nothing | ⟨caught,_⟩
  · cases nothing
  · exact caught rfl

end CqrsDdd.Locking
