import CqrsDdd.Projections.Replay
import Mathlib.Data.List.Nodup
import Mathlib.Data.List.Range
import Mathlib.Data.Nat.Find

/-! One event in the projection worker: rounds over the handlers of its type, and a policy that
decides by raising. A policy that raises ends the round, and the next round
starts with the first handler again. -/
namespace CqrsDdd.Projections

inductive Policy
  | skip | retry | deadLetter | retryThenDeadLetter
  deriving DecidableEq, Repr

def Policy.named (Object : Type) : Policy → ProjectionErrorPolicy Object
  | .skip => .skip
  | .retry => .retry
  | .deadLetter => .deadLetter
  | .retryThenDeadLetter => .retryThenDeadLetter

/-- A `ProjectionErrorPolicy` under one of the names that it registers itself. -/
structure BuiltinErrorPolicy where
  policy : Policy
  maxRetries : Int
  deadLetterCallback : Bool

/-- What is done for one event: the rounds of dispatch, each call of a handler with its success, and
the handlers whose failure the dead-letter callback was called for. -/
structure Processing where
  rounds : Nat
  attempts : List (Nat × Bool)
  deadLetters : List Nat

/-- What `_hydrate` gives; it returns `None` for an event that it does not know. -/
inductive Hydration
  | event | missing | raised
  deriving DecidableEq, Repr

namespace Processing

def attemptsOf (processing : Processing) (handler : Nat) : Nat :=
  processing.attempts.countP fun attempt => attempt.1 = handler

def tried (processing : Processing) (handlers : List Nat) : Processing :=
  {processing with attempts := processing.attempts ++ handlers.map fun handler => (handler,true)}

def failed (processing : Processing) (handler : Nat) : Processing :=
  {processing with attempts := processing.attempts ++ [(handler,false)]}

end Processing

namespace BuiltinErrorPolicy

def invokeDeadLetter (policy : BuiltinErrorPolicy) (handler : Nat) (processing : Processing) : Processing :=
  if policy.deadLetterCallback then {processing with deadLetters := processing.deadLetters ++ [handler]}
  else processing

def handleFailure (policy : BuiltinErrorPolicy) (handler attempt : Nat) (processing : Processing) :
    Processing × Bool :=
  match policy.policy with
  | .skip => (processing,false)
  | .retry => (processing,true)
  | .deadLetter => (policy.invokeDeadLetter handler processing,true)
  | .retryThenDeadLetter =>
    if (attempt : Int) < policy.maxRetries then (processing,true)
    else (policy.invokeDeadLetter handler processing,true)

end BuiltinErrorPolicy

namespace BuiltinErrorPolicy

/-- Whether the callback is called for a failure in a round. -/
def buries (policy : BuiltinErrorPolicy) (attempt : Nat) : Bool :=
  policy.deadLetterCallback && (policy.policy = .deadLetter ||
    (policy.policy = .retryThenDeadLetter && !decide ((attempt : Int) < policy.maxRetries)))

end BuiltinErrorPolicy

/-- The processing after the callback was or was not called for a failure. -/
def Processing.buried (processing : Processing) (policy : BuiltinErrorPolicy) (attempt handler : Nat) : Processing :=
  {processing with deadLetters := processing.deadLetters ++ if policy.buries attempt then [handler] else []}

namespace BuiltinErrorPolicy

theorem handleFailure_raises {policy : BuiltinErrorPolicy} (raises : policy.policy ≠ .skip) (handler attempt : Nat)
    (processing : Processing) : policy.handleFailure handler attempt processing =
      (processing.buried policy attempt handler,true) := by
  unfold Processing.buried
  obtain ⟨policy,maxRetries,_ | _⟩ := policy
  · cases policy <;> simp [handleFailure,invokeDeadLetter,buries] at raises ⊢
  · cases policy with
    | skip => exact absurd rfl raises
    | retry => simp [handleFailure,buries]
    | deadLetter => simp [handleFailure,invokeDeadLetter,buries]
    | retryThenDeadLetter =>
      by_cases left : (attempt : Int) < maxRetries
      · simp [handleFailure,buries,left]
      · simp [handleFailure,invokeDeadLetter,buries,left]

theorem handleFailure_attempts (policy : BuiltinErrorPolicy) (handler attempt : Nat) (processing : Processing) :
    (policy.handleFailure handler attempt processing).1.attempts = processing.attempts := by
  unfold handleFailure invokeDeadLetter
  repeat' split
  all_goals rfl

theorem handleFailure_rounds (policy : BuiltinErrorPolicy) (handler attempt : Nat) (processing : Processing) :
    (policy.handleFailure handler attempt processing).1.rounds = processing.rounds := by
  unfold handleFailure invokeDeadLetter
  repeat' split
  all_goals rfl

end BuiltinErrorPolicy

/-- The worker for one event: whether each attempt of each handler succeeds. -/
structure EventWorker where
  errorPolicy : BuiltinErrorPolicy
  hydration : Hydration
  handlers : Nat
  succeeds : Nat → Nat → Bool

namespace EventWorker

variable (worker : EventWorker)

/-- The loop of `_dispatch`; the flag tells whether an exception leaves it. -/
def dispatch (retryCount : Nat) : List Nat → Processing → Processing × Bool
  | [],processing => (processing,false)
  | handler::rest,processing =>
    if worker.succeeds handler (processing.attemptsOf handler) then dispatch retryCount rest (processing.tried [handler])
    else
      let handled := worker.errorPolicy.handleFailure handler retryCount (processing.failed handler)
      if handled.2 then handled else dispatch retryCount rest handled.1

def round (retryCount : Nat) (processing : Processing) : Processing × Bool :=
  match worker.hydration with
  | .missing => (processing,false)
  | .raised => (processing,true)
  | .event =>
    worker.dispatch retryCount (List.range worker.handlers) {processing with rounds := processing.rounds + 1}

/-- The loop of `_process_event_with_retry_internal`. -/
def loop (retryCount : Nat) (processing : Processing) : Processing :=
  if (retryCount : Int) ≤ worker.errorPolicy.maxRetries then
    let turned := worker.round retryCount processing
    if turned.2 then
      if (retryCount : Int) = worker.errorPolicy.maxRetries then turned.1 else loop (retryCount + 1) turned.1
    else turned.1
  else processing
termination_by (worker.errorPolicy.maxRetries + 1 - retryCount).toNat
decreasing_by omega

def process : Processing := worker.loop 0 ⟨0,[],[]⟩

/-- What the processing of one event owes to its handlers. -/
structure Accounts (processing : Processing) : Prop where
  rounds : processing.rounds ≤ (worker.errorPolicy.maxRetries + 1).toNat
  attempted : ∀ handler < worker.handlers, ∃ success, (handler,success) ∈ processing.attempts
  notAgain : processing.attempts.Pairwise fun earlier later => earlier.2 = true → later.1 ≠ earlier.1
  atMostOnce : ∀ handler, processing.deadLetters.count handler ≤ 1
  exactlyOnce : worker.errorPolicy.deadLetterCallback = true →
    worker.errorPolicy.policy = .deadLetter ∨ worker.errorPolicy.policy = .retryThenDeadLetter →
    ∀ handler < worker.handlers, (∀ success, (handler,success) ∈ processing.attempts → success = false) →
      processing.deadLetters.count handler = 1

/-- The attempt at which a handler is called in the round, when only the first one was called before. -/
def attemptIn (round handler : Nat) : Nat := if handler = 0 then round else 0

/-- Only the first handler fails until the round in which it succeeds or which is the last one; there
the others succeed, but for the last of them in the last round. A dead letter for every failure is one at most. -/
structure OrderlyAt (last : Nat) : Prop where
  budget : (last : Int) ≤ worker.errorPolicy.maxRetries
  before : ∀ attempt < last, worker.succeeds 0 attempt = false
  others : ∀ handler, handler + 1 < worker.handlers → worker.succeeds handler (attemptIn last handler) = true
  final : worker.succeeds (worker.handlers - 1) (attemptIn last (worker.handlers - 1)) = false →
    (last : Int) = worker.errorPolicy.maxRetries
  letters : worker.errorPolicy.policy = .deadLetter → worker.errorPolicy.deadLetterCallback = true →
    last + (if worker.handlers = 1 ∧ worker.succeeds 0 last = false then 1 else 0) ≤ 1

/-- There is no handler, or the event is known and there is a round; the policy never raises, or it
raises in order. -/
def Orderly : Prop :=
  worker.handlers = 0 ∨ worker.hydration = .event ∧ 0 ≤ worker.errorPolicy.maxRetries ∧
    (worker.errorPolicy.policy = .skip ∨ ∃ last, worker.OrderlyAt last)

section Dispatch

theorem attemptsOf_tried (processing : Processing) {handler other : Nat} (differs : handler ≠ other) :
    (processing.tried [other]).attemptsOf handler = processing.attemptsOf handler := by
  simp [Processing.attemptsOf,Processing.tried,Ne.symm differs]

theorem attemptsOf_failed (processing : Processing) {handler other : Nat} (differs : handler ≠ other) :
    (processing.failed other).attemptsOf handler = processing.attemptsOf handler := by
  simp [Processing.attemptsOf,Processing.failed,Ne.symm differs]

theorem tried_tried (processing : Processing) (handler : Nat) (handlers : List Nat) :
    (processing.tried [handler]).tried handlers = processing.tried (handler::handlers) := by
  simp [Processing.tried]

variable {worker}

theorem dispatch_skips (skips : worker.errorPolicy.policy = .skip) {handlers : List Nat} (distinct : handlers.Nodup)
    (retryCount : Nat) (processing : Processing) : worker.dispatch retryCount handlers processing =
      ({processing with attempts := processing.attempts ++ handlers.map fun handler =>
        (handler,worker.succeeds handler (processing.attemptsOf handler))},false) := by
  induction handlers generalizing processing with
  | nil => simp [dispatch]
  | cons handler rest ih =>
    obtain ⟨fresh,distinct⟩ := List.nodup_cons.mp distinct
    have others : ∀ other ∈ rest, other ≠ handler := fun other member same => fresh (same ▸ member)
    rw [dispatch]
    split
    next success =>
      rw [ih distinct,List.map_cons,success]
      have same : rest.map (fun other => (other,worker.succeeds other ((processing.tried [handler]).attemptsOf other))) =
          rest.map fun other => (other,worker.succeeds other (processing.attemptsOf other)) :=
        List.map_congr_left fun other member => by rw [attemptsOf_tried processing (others other member)]
      rw [same]
      simp [Processing.tried]
    next failure =>
      have handled : worker.errorPolicy.handleFailure handler retryCount (processing.failed handler) =
          (processing.failed handler,false) := by
        rw [BuiltinErrorPolicy.handleFailure,skips]
      rw [handled]
      have same : rest.map (fun other => (other,worker.succeeds other ((processing.failed handler).attemptsOf other))) =
          rest.map fun other => (other,worker.succeeds other (processing.attemptsOf other)) :=
        List.map_congr_left fun other member => by rw [attemptsOf_failed processing (others other member)]
      simp only [Bool.false_eq_true,if_false]
      rw [ih distinct,List.map_cons,(Bool.not_eq_true _).mp failure,same]
      simp [Processing.failed]

theorem dispatch_raises (raises : worker.errorPolicy.policy ≠ .skip) {handlers : List Nat}
    (distinct : handlers.Nodup) (retryCount : Nat) (processing : Processing) :
    ((∀ handler ∈ handlers, worker.succeeds handler (processing.attemptsOf handler) = true) ∧
      worker.dispatch retryCount handlers processing = (processing.tried handlers,false)) ∨
    ∃ early handler late, handlers = early ++ handler::late ∧
      (∀ other ∈ early, worker.succeeds other (processing.attemptsOf other) = true) ∧
      worker.succeeds handler (processing.attemptsOf handler) = false ∧
      worker.dispatch retryCount handlers processing =
        (((processing.tried early).failed handler).buried worker.errorPolicy retryCount handler,true) := by
  induction handlers generalizing processing with
  | nil => exact .inl ⟨fun _ member => absurd member List.not_mem_nil,by simp [dispatch,Processing.tried]⟩
  | cons handler rest ih =>
    obtain ⟨fresh,distinct⟩ := List.nodup_cons.mp distinct
    have others : ∀ other ∈ rest, other ≠ handler := fun other member same => fresh (same ▸ member)
    rw [dispatch]
    split
    next success =>
      rcases ih distinct (processing.tried [handler]) with ⟨all,dispatched⟩ | ⟨early,failing,late,same,before,fails,dispatched⟩
      · refine .inl ⟨List.forall_mem_cons.mpr ⟨success,fun other member => ?_⟩,?_⟩
        · rw [← attemptsOf_tried processing (others other member)]
          exact all other member
        · rw [dispatched,tried_tried]
      · subst same
        refine .inr ⟨handler::early,failing,late,rfl,List.forall_mem_cons.mpr ⟨success,fun other member => ?_⟩,?_,?_⟩
        · rw [← attemptsOf_tried processing (others other (List.mem_append_left _ member))]
          exact before other member
        · rw [← attemptsOf_tried processing (others failing (List.mem_append_right _ List.mem_cons_self))]
          exact fails
        · rw [dispatched,tried_tried]
    next failure =>
      refine .inr ⟨[],handler,rest,rfl,fun _ member => absurd member List.not_mem_nil,by simpa using failure,?_⟩
      rw [BuiltinErrorPolicy.handleFailure_raises raises]
      simp [Processing.tried]

end Dispatch

section Loop

variable {worker}

theorem loop_spent {retryCount : Nat} (spent : ¬(retryCount : Int) ≤ worker.errorPolicy.maxRetries)
    (processing : Processing) : worker.loop retryCount processing = processing := by
  rw [loop,if_neg spent]

theorem loop_next {retryCount : Nat} {processing after : Processing}
    (left : (retryCount : Int) < worker.errorPolicy.maxRetries)
    (turned : worker.round retryCount processing = (after,true)) :
    worker.loop retryCount processing = worker.loop (retryCount + 1) after := by
  have within : (retryCount : Int) ≤ worker.errorPolicy.maxRetries := by omega
  have more : ¬(retryCount : Int) = worker.errorPolicy.maxRetries := by omega
  rw [loop,if_pos within,turned]
  simp only [if_true,if_neg more]

theorem loop_last {retryCount : Nat} {processing after : Processing}
    (last : (retryCount : Int) = worker.errorPolicy.maxRetries)
    (turned : worker.round retryCount processing = (after,true)) : worker.loop retryCount processing = after := by
  have within : (retryCount : Int) ≤ worker.errorPolicy.maxRetries := by omega
  rw [loop,if_pos within,turned]
  simp only [if_true,if_pos last]

theorem loop_returns {retryCount : Nat} {processing after : Processing}
    (left : (retryCount : Int) ≤ worker.errorPolicy.maxRetries)
    (turned : worker.round retryCount processing = (after,false)) : worker.loop retryCount processing = after := by
  rw [loop,if_pos left,turned]
  simp

theorem loop_invariant (inv : Nat → Processing → Prop)
    (kept : ∀ (retryCount : Nat) processing, (retryCount : Int) ≤ worker.errorPolicy.maxRetries → inv retryCount processing →
      inv (retryCount + 1) (worker.round retryCount processing).1)
    {retryCount : Nat} {processing : Processing} (initial : inv retryCount processing) :
    ∃ ended, inv ended (worker.loop retryCount processing) ∧
      ended ≤ max retryCount (worker.errorPolicy.maxRetries + 1).toNat := by
  generalize measure : (worker.errorPolicy.maxRetries + 1 - retryCount).toNat = left
  induction left generalizing retryCount processing with
  | zero =>
    rw [loop_spent (by omega)]
    exact ⟨retryCount,initial,Nat.le_max_left _ _⟩
  | succ left ih =>
    have within : (retryCount : Int) ≤ worker.errorPolicy.maxRetries := by omega
    have next := kept retryCount processing within initial
    cases turned : worker.round retryCount processing with
    | mk after raised =>
    rw [turned] at next
    cases raised with
    | false =>
      rw [loop_returns within turned]
      exact ⟨retryCount + 1,next,by omega⟩
    | true =>
      by_cases last : (retryCount : Int) = worker.errorPolicy.maxRetries
      · rw [loop_last last turned]
        exact ⟨retryCount + 1,next,by omega⟩
      · rw [loop_next (by omega) turned]
        obtain ⟨ended,holds,bound⟩ := ih next (by omega)
        exact ⟨ended,holds,by omega⟩

theorem dispatch_rounds (handlers : List Nat) (retryCount : Nat) (processing : Processing) :
    (worker.dispatch retryCount handlers processing).1.rounds = processing.rounds := by
  induction handlers generalizing processing with
  | nil => exact rfl
  | cons handler rest ih =>
    rw [dispatch]
    split
    next => exact ih _
    next =>
      dsimp only
      split
      next => exact worker.errorPolicy.handleFailure_rounds handler retryCount _
      next => exact (ih _).trans (worker.errorPolicy.handleFailure_rounds handler retryCount _)

theorem round_rounds (retryCount : Nat) (processing : Processing) :
    (worker.round retryCount processing).1.rounds ≤ processing.rounds + 1 := by
  unfold round
  split
  next => exact Nat.le_succ _
  next => exact Nat.le_succ _
  next => exact Nat.le_of_eq (dispatch_rounds _ _ _)

theorem process_rounds (worker : EventWorker) :
    worker.process.rounds ≤ (worker.errorPolicy.maxRetries + 1).toNat := by
  have kept : ∀ (retryCount : Nat) (processing : Processing), (retryCount : Int) ≤ worker.errorPolicy.maxRetries →
      processing.rounds ≤ retryCount → (worker.round retryCount processing).1.rounds ≤ retryCount + 1 :=
    fun retryCount processing _ counted => (round_rounds retryCount processing).trans (Nat.succ_le_succ counted)
  obtain ⟨ended,counted,bound⟩ := loop_invariant (fun retryCount processing => processing.rounds ≤ retryCount) kept
    (show (⟨0,[],[]⟩ : Processing).rounds ≤ 0 from Nat.le_refl 0)
  exact counted.trans (by simpa using bound)

theorem dispatch_grows (handlers : List Nat) (retryCount : Nat) (processing : Processing) :
    processing.attempts <+: (worker.dispatch retryCount handlers processing).1.attempts := by
  induction handlers generalizing processing with
  | nil => exact List.prefix_rfl
  | cons handler rest ih =>
    rw [dispatch]
    split
    next =>
      have added : processing.attempts <+: (processing.tried [handler]).attempts := List.prefix_append _ _
      exact added.trans (ih _)
    next =>
      have added : processing.attempts <+: (processing.failed handler).attempts := List.prefix_append _ _
      rw [← worker.errorPolicy.handleFailure_attempts handler retryCount (processing.failed handler)] at added
      dsimp only
      split
      next => exact added
      next => exact added.trans (ih _)

theorem round_grows (retryCount : Nat) (processing : Processing) :
    processing.attempts <+: (worker.round retryCount processing).1.attempts := by
  unfold round
  split
  next => exact List.prefix_rfl
  next => exact List.prefix_rfl
  next => exact dispatch_grows _ retryCount {processing with rounds := processing.rounds + 1}

theorem loop_grows (retryCount : Nat) (processing : Processing) :
    processing.attempts <+: (worker.loop retryCount processing).attempts := by
  obtain ⟨_,grown,_⟩ := loop_invariant (fun _ later => processing.attempts <+: later.attempts)
    (fun retryCount later _ grown => grown.trans (round_grows retryCount later))
    (List.prefix_refl processing.attempts)
  exact grown

theorem loop_calls_first (hydrated : worker.hydration = .event) (some : 0 < worker.handlers) {retryCount : Nat}
    (left : (retryCount : Int) ≤ worker.errorPolicy.maxRetries) (processing : Processing) :
    ∃ success, processing.attempts ++ [(0,success)] <+: (worker.loop retryCount processing).attempts := by
  obtain ⟨handlers,positive⟩ := Nat.exists_eq_succ_of_ne_zero (Nat.ne_of_gt some)
  have called : ∃ success, processing.attempts ++ [(0,success)] <+: (worker.round retryCount processing).1.attempts := by
    simp only [round,hydrated,positive,List.range_succ_eq_map]
    rw [dispatch]
    split
    next =>
      have grown := @dispatch_grows worker ((List.range handlers).map Nat.succ) retryCount
        (Processing.tried {processing with rounds := processing.rounds + 1} [0])
      exact ⟨true,grown⟩
    next =>
      refine ⟨false,?_⟩
      dsimp only
      have added := worker.errorPolicy.handleFailure_attempts 0 retryCount
        (Processing.failed {processing with rounds := processing.rounds + 1} 0)
      split
      next =>
        rw [added]
        exact List.prefix_rfl
      next =>
        refine List.IsPrefix.trans ?_ (dispatch_grows _ retryCount _)
        rw [added]
        exact List.prefix_rfl
  obtain ⟨success,first⟩ := called
  refine ⟨success,first.trans ?_⟩
  cases turned : worker.round retryCount processing with
  | mk after raised =>
  cases raised with
  | false =>
    rw [loop_returns left turned]
  | true =>
    by_cases last : (retryCount : Int) = worker.errorPolicy.maxRetries
    · rw [loop_last last turned]
    · rw [loop_next (by omega) turned]
      exact loop_grows _ after

theorem loop_unhydrated (unhydrated : worker.hydration ≠ .event) (retryCount : Nat) (processing : Processing) :
    worker.loop retryCount processing = processing := by
  have still : ∀ retryCount processing, (worker.round retryCount processing).1 = processing := by
    intro retryCount processing
    unfold round
    split
    next => exact rfl
    next => exact rfl
    next hydrated => exact absurd hydrated unhydrated
  obtain ⟨_,same,_⟩ := loop_invariant (fun _ later => later = processing)
    (fun retryCount later _ same => (still retryCount later).trans same) rfl
  exact same

end Loop

section Rounds

variable {worker}

/-- The processing at the start of a round when only the first handler was called, and failed. -/
def opened (worker : EventWorker) (last : Nat) : Processing :=
  ⟨last,List.replicate last (0,false),
    List.replicate (if worker.errorPolicy.policy = .deadLetter ∧ worker.errorPolicy.deadLetterCallback = true then last
      else 0) 0⟩

/-- The last round, as its dispatch finds it. -/
def entered (worker : EventWorker) (last : Nat) : Processing := {worker.opened last with rounds := last + 1}

theorem attemptsOf_entered (last handler : Nat) : (worker.entered last).attemptsOf handler = attemptIn last handler := by
  unfold Processing.attemptsOf entered opened attemptIn
  rw [List.countP_replicate]
  by_cases first : handler = 0
  · simp [first]
  · simp [first,Ne.symm first]

theorem opened_next {last : Nat} (left : (last : Int) < worker.errorPolicy.maxRetries) :
    ((worker.entered last).failed 0).buried worker.errorPolicy last 0 = worker.opened (last + 1) := by
  have letters : worker.errorPolicy.buries last =
      decide (worker.errorPolicy.policy = .deadLetter ∧ worker.errorPolicy.deadLetterCallback = true) := by
    unfold BuiltinErrorPolicy.buries
    simp [left,and_comm]
  unfold Processing.buried Processing.failed entered opened
  rw [letters]
  by_cases buried : worker.errorPolicy.policy = .deadLetter ∧ worker.errorPolicy.deadLetterCallback = true
  · simp [buried,List.replicate_succ']
  · simp [buried,List.replicate_succ']

theorem round_entered (hydrated : worker.hydration = .event) (last : Nat) : worker.round last (worker.opened last) =
    worker.dispatch last (List.range worker.handlers) (worker.entered last) := by
  unfold round
  rw [hydrated]
  exact rfl

theorem process_opened (raises : worker.errorPolicy.policy ≠ .skip) (hydrated : worker.hydration = .event)
    (some : 0 < worker.handlers) {last : Nat} (budget : (last : Int) ≤ worker.errorPolicy.maxRetries)
    (before : ∀ attempt < last, worker.succeeds 0 attempt = false) :
    worker.process = worker.loop last (worker.opened last) := by
  induction last with
  | zero => simp [process,opened]
  | succ last ih =>
    have left : (last : Int) < worker.errorPolicy.maxRetries := by omega
    rw [ih (Int.le_of_lt left) fun attempt less => before attempt (Nat.lt_succ_of_lt less)]
    have turned : worker.round last (worker.opened last) = (worker.opened (last + 1),true) := by
      obtain ⟨handlers,positive⟩ := Nat.exists_eq_succ_of_ne_zero (Nat.ne_of_gt some)
      rw [round_entered hydrated,positive,List.range_succ_eq_map,dispatch,attemptsOf_entered]
      have fails : worker.succeeds 0 (attemptIn last 0) = false := before last (Nat.lt_succ_self last)
      rw [fails,BuiltinErrorPolicy.handleFailure_raises raises,opened_next left]
      simp
    exact loop_next left turned

theorem range_split {handlers : Nat} {early late : List Nat} {handler : Nat}
    (same : List.range handlers = early ++ handler::late) : early = List.range handler ∧ handler < handlers ∧
      (late = [] → handler + 1 = handlers) ∧ (∀ other, handler < other → other < handlers → other ∈ late) := by
  rw [List.range_eq_range',List.range'_eq_append_iff] at same
  obtain ⟨length,_,rfl,rest⟩ := same
  obtain ⟨start,positive,rfl⟩ := List.range'_eq_cons_iff.mp rest.symm
  have own : handler = length := by omega
  subst own
  refine ⟨(List.range_eq_range').symm,by omega,fun none => ?_,fun other above below => ?_⟩
  · have length := congrArg List.length none
    simp at length
    omega
  · simp [List.mem_range'_1]
    omega

def stopped (worker : EventWorker) (last handler : Nat) : Processing :=
  (((worker.entered last).tried (List.range handler)).failed handler).buried worker.errorPolicy last handler

/-- The round that is entered so succeeds, or ends at a handler, and is the last one or is followed by another. -/
theorem process_cases (raises : worker.errorPolicy.policy ≠ .skip) (hydrated : worker.hydration = .event)
    (some : 0 < worker.handlers) {last : Nat} (budget : (last : Int) ≤ worker.errorPolicy.maxRetries)
    (before : ∀ attempt < last, worker.succeeds 0 attempt = false) :
    ((∀ handler < worker.handlers, worker.succeeds handler (attemptIn last handler) = true) ∧
      worker.process = (worker.entered last).tried (List.range worker.handlers)) ∨
    ∃ handler < worker.handlers, (∀ other < handler, worker.succeeds other (attemptIn last other) = true) ∧
      worker.succeeds handler (attemptIn last handler) = false ∧
      ((last : Int) = worker.errorPolicy.maxRetries ∧ worker.process = worker.stopped last handler ∨
        (last : Int) < worker.errorPolicy.maxRetries ∧
          worker.process = worker.loop (last + 1) (worker.stopped last handler)) := by
  rw [process_opened raises hydrated some budget before]
  have entry := round_entered hydrated last
  rcases dispatch_raises raises List.nodup_range last (worker.entered last) with
    ⟨all,dispatched⟩ | ⟨early,handler,late,same,succeeded,fails,dispatched⟩
  · refine .inl ⟨fun handler less => ?_,loop_returns budget (entry.trans dispatched)⟩
    rw [← attemptsOf_entered]
    exact all handler (List.mem_range.mpr less)
  · obtain ⟨rfl,less,_⟩ := range_split same
    refine .inr ⟨handler,less,fun other below => ?_,?_,?_⟩
    · rw [← attemptsOf_entered]
      exact succeeded other (List.mem_range.mpr below)
    · rw [← attemptsOf_entered]
      exact fails
    · by_cases final : (last : Int) = worker.errorPolicy.maxRetries
      · exact .inl ⟨final,loop_last final (entry.trans dispatched)⟩
      · have left : (last : Int) < worker.errorPolicy.maxRetries := by omega
        exact .inr ⟨left,loop_next left (entry.trans dispatched)⟩

theorem notAgain_entered (last handlers : Nat) : ((worker.entered last).tried (List.range handlers)).attempts.Pairwise
    fun earlier later => earlier.2 = true → later.1 ≠ earlier.1 := by
  refine List.pairwise_append.mpr ⟨List.pairwise_replicate.mpr (.inr (by simp)),?_,fun earlier member _ _ success => ?_⟩
  · refine List.pairwise_map.mpr (List.Pairwise.imp ?_ (List.nodup_range (n := handlers)))
    exact fun differs _ same => differs same.symm
  · obtain ⟨_,rfl⟩ := List.mem_replicate.mp member
    cases success

theorem succeeded_entered {last handlers handler : Nat} (less : handler < handlers) :
    (handler,true) ∈ ((worker.entered last).tried (List.range handlers)).attempts :=
  List.mem_append_right _ (List.mem_map.mpr ⟨handler,List.mem_range.mpr less,rfl⟩)

theorem succeeded_stopped {last handler other : Nat} (less : other < handler) :
    (other,true) ∈ (worker.stopped last handler).attempts :=
  List.mem_append_left _ (succeeded_entered less)

theorem letters_opened (last handler : Nat) : (worker.opened last).deadLetters.count handler =
    if worker.errorPolicy.policy = .deadLetter ∧ worker.errorPolicy.deadLetterCallback = true ∧ handler = 0 then last
    else 0 := by
  unfold opened
  rw [List.count_replicate]
  by_cases first : handler = 0
  · simp [first]
  · simp [first,Ne.symm first]

theorem letters_stopped (last handler other : Nat) : (worker.stopped last handler).deadLetters.count other =
    (worker.opened last).deadLetters.count other +
      if worker.errorPolicy.buries last = true ∧ other = handler then 1 else 0 := by
  change ((worker.opened last).deadLetters ++ if worker.errorPolicy.buries last then [handler] else []).count other = _
  rw [List.count_append]
  refine congrArg _ ?_
  by_cases buried : worker.errorPolicy.buries last = true
  · rw [if_pos buried]
    by_cases same : other = handler
    · rw [if_pos ⟨buried,same⟩,same,List.count_singleton_self]
    · rw [if_neg fun both => same both.2]
      exact List.count_eq_zero_of_not_mem (by simpa using same)
  · rw [if_neg buried,if_neg fun both => buried both.1]
    exact List.count_nil

theorem accounts_succeeded {last : Nat}
    (letters : worker.errorPolicy.policy = .deadLetter → worker.errorPolicy.deadLetterCallback = true → last ≤ 1)
    (rounds : last + 1 ≤ (worker.errorPolicy.maxRetries + 1).toNat) :
    worker.Accounts ((worker.entered last).tried (List.range worker.handlers)) where
  rounds := rounds
  attempted handler less := ⟨true,succeeded_entered less⟩
  notAgain := notAgain_entered last worker.handlers
  atMostOnce handler := by
    change (worker.opened last).deadLetters.count handler ≤ 1
    rw [letters_opened]
    split
    next buried => exact letters buried.1 buried.2.1
    next => exact Nat.zero_le 1
  exactlyOnce _ _ handler less failed := absurd (failed true (succeeded_entered less)) (by decide)

theorem accounts_stopped {last handler : Nat} (own : handler + 1 = worker.handlers)
    (final : (last : Int) = worker.errorPolicy.maxRetries)
    (letters : worker.errorPolicy.policy = .deadLetter → worker.errorPolicy.deadLetterCallback = true →
      last + (if handler = 0 then 1 else 0) ≤ 1)
    (rounds : last + 1 ≤ (worker.errorPolicy.maxRetries + 1).toNat) : worker.Accounts (worker.stopped last handler) where
  rounds := rounds
  attempted other less := by
    by_cases same : other = handler
    · exact ⟨false,List.mem_append_right _ (same ▸ List.mem_singleton_self _)⟩
    · exact ⟨true,succeeded_stopped (by omega)⟩
  notAgain := by
    refine List.pairwise_append.mpr ⟨notAgain_entered last handler,List.pairwise_singleton _ _,?_⟩
    intro earlier member later single success
    obtain rfl := List.mem_singleton.mp single
    rcases List.mem_append.mp member with first | others
    · obtain ⟨_,rfl⟩ := List.mem_replicate.mp first
      cases success
    · obtain ⟨other,inside,rfl⟩ := List.mem_map.mp others
      exact Nat.ne_of_gt (List.mem_range.mp inside)
  atMostOnce other := by
    rw [letters_stopped,letters_opened]
    by_cases first : worker.errorPolicy.policy = .deadLetter ∧ worker.errorPolicy.deadLetterCallback = true ∧ other = 0
    · have few := letters first.1 first.2.1
      rw [if_pos first]
      by_cases own : handler = 0
      · rw [if_pos own] at few
        split <;> omega
      · rw [if_neg own] at few
        rw [if_neg (fun both : _ ∧ other = handler => own (both.2 ▸ first.2.2))]
        exact few
    · rw [if_neg first]
      split <;> omega
  exactlyOnce callback policy other less failed := by
    have same : other = handler := by
      by_contra differs
      exact absurd (failed true (succeeded_stopped (by omega))) (by decide)
    subst same
    have buries : worker.errorPolicy.buries last = true := by
      unfold BuiltinErrorPolicy.buries
      rcases policy with dead | retried
      · simp [callback,dead]
      · simp [callback,retried,final]
    rw [letters_stopped,if_pos (And.intro buries rfl),letters_opened]
    split
    next first =>
      have few := letters first.1 first.2.1
      rw [if_pos first.2.2] at few
      omega
    next => exact Nat.zero_add 1

end Rounds

section Accounting

theorem accounts_none (none : worker.handlers = 0) : worker.Accounts worker.process := by
  have still : ∀ (retryCount : Nat) (processing : Processing), (retryCount : Int) ≤ worker.errorPolicy.maxRetries →
      processing.attempts = [] ∧ processing.deadLetters = [] →
      (worker.round retryCount processing).1.attempts = [] ∧ (worker.round retryCount processing).1.deadLetters = [] := by
    intro retryCount processing _ clean
    unfold round
    split
    next => exact clean
    next => exact clean
    next =>
      rw [none]
      exact clean
  obtain ⟨_,⟨attempts,letters⟩,_⟩ := loop_invariant
    (fun _ processing => processing.attempts = [] ∧ processing.deadLetters = []) still
    (show (⟨0,[],[]⟩ : Processing).attempts = [] ∧ (⟨0,[],[]⟩ : Processing).deadLetters = [] from ⟨rfl,rfl⟩)
  change worker.process.attempts = [] at attempts
  change worker.process.deadLetters = [] at letters
  refine ⟨process_rounds worker,fun handler less => absurd less (by omega),?_,fun handler => ?_,
    fun _ _ handler less => absurd less (by omega)⟩
  · rw [attempts]
    exact .nil
  · rw [letters]
    exact Nat.zero_le 1

theorem accounts_skipped (skips : worker.errorPolicy.policy = .skip) (hydrated : worker.hydration = .event)
    (budget : 0 ≤ worker.errorPolicy.maxRetries) : worker.Accounts worker.process := by
  have ran : worker.process = {worker.entered 0 with
      attempts := (List.range worker.handlers).map fun handler => (handler,worker.succeeds handler 0)} := by
    have opened : (⟨0,[],[]⟩ : Processing) = worker.opened 0 := by simp [opened]
    refine (congrArg (worker.loop 0) opened).trans (loop_returns budget ((round_entered hydrated 0).trans ?_))
    rw [dispatch_skips skips List.nodup_range]
    simp [Processing.attemptsOf,entered,EventWorker.opened]
  refine ⟨process_rounds worker,fun handler less => ?_,?_,fun handler => ?_,fun _ policy => ?_⟩
  · rw [ran]
    exact ⟨_,List.mem_map.mpr ⟨handler,List.mem_range.mpr less,rfl⟩⟩
  · rw [ran]
    refine List.pairwise_map.mpr (List.Pairwise.imp ?_ (List.nodup_range (n := worker.handlers)))
    exact fun differs _ same => differs same.symm
  · rw [ran]
    change (worker.opened 0).deadLetters.count handler ≤ 1
    rw [letters_opened]
    split <;> exact Nat.zero_le 1
  · rw [skips] at policy
    rcases policy with dead | retried
    · cases dead
    · cases retried

variable {worker}

theorem accounts_orderly {last : Nat} (raises : worker.errorPolicy.policy ≠ .skip) (hydrated : worker.hydration = .event)
    (some : 0 < worker.handlers) (orderly : worker.OrderlyAt last) : worker.Accounts worker.process := by
  have budget := orderly.budget
  have rounds : last + 1 ≤ (worker.errorPolicy.maxRetries + 1).toNat := by omega
  rcases process_cases raises hydrated some orderly.budget orderly.before with
    ⟨_,ran⟩ | ⟨handler,less,_,fails,ended⟩
  · rw [ran]
    exact accounts_succeeded (fun dead callback => (Nat.le_add_right _ _).trans (orderly.letters dead callback)) rounds
  · have own : handler + 1 = worker.handlers := by
      by_contra differs
      exact absurd (orderly.others handler (by omega)) (by rw [fails]; decide)
    have index : worker.handlers - 1 = handler := by omega
    have final := orderly.final (index ▸ fails)
    have ran := (ended.resolve_right fun more => by omega).2
    rw [ran]
    refine accounts_stopped own final (fun dead callback => ?_) rounds
    have few := orderly.letters dead callback
    by_cases first : handler = 0
    · have alone : worker.handlers = 1 ∧ worker.succeeds 0 last = false := by
        subst first
        exact ⟨own.symm,fails⟩
      rw [if_pos alone] at few
      rwa [if_pos first]
    · rw [if_neg first]
      exact (Nat.le_add_right _ _).trans few

theorem exists_last (budget : 0 ≤ worker.errorPolicy.maxRetries) : ∃ last : Nat,
    (last : Int) ≤ worker.errorPolicy.maxRetries ∧ (∀ attempt < last, worker.succeeds 0 attempt = false) ∧
      (worker.succeeds 0 last = true ∨ (last : Int) = worker.errorPolicy.maxRetries) := by
  have ends : ∃ last : Nat, worker.succeeds 0 last = true ∨ (last : Int) = worker.errorPolicy.maxRetries :=
    ⟨worker.errorPolicy.maxRetries.toNat,.inr (by omega)⟩
  refine ⟨Nat.find ends,?_,fun attempt less => ?_,Nat.find_spec ends⟩
  · have least := Nat.find_le (h := ends) (n := worker.errorPolicy.maxRetries.toNat) (.inr (by omega))
    omega
  · exact (Bool.not_eq_true _).mp fun success => Nat.find_min ends less (.inl success)

theorem not_accounts_of_next {last handler : Nat} (hydrated : worker.hydration = .event) (some : 0 < worker.handlers)
    (left : (last : Int) < worker.errorPolicy.maxRetries) (later : 0 < handler) :
    ¬worker.Accounts (worker.loop (last + 1) (worker.stopped last handler)) := by
  intro accounts
  obtain ⟨success,again⟩ := loop_calls_first hydrated some (show ((last + 1 : Nat) : Int) ≤ worker.errorPolicy.maxRetries by omega)
    (worker.stopped last handler)
  have apart := (List.pairwise_append.mp (accounts.notAgain.sublist again.sublist)).2.2
  exact apart (0,true) (succeeded_stopped later) (0,success) List.mem_cons_self rfl rfl

theorem orderly_of_accounts (raises : worker.errorPolicy.policy ≠ .skip) (hydrated : worker.hydration = .event)
    (some : 0 < worker.handlers) (budget : 0 ≤ worker.errorPolicy.maxRetries)
    (accounts : worker.Accounts worker.process) : ∃ last, worker.OrderlyAt last := by
  obtain ⟨last,within,before,ends⟩ := exists_last budget
  refine ⟨last,?_⟩
  rcases process_cases raises hydrated some within before with
    ⟨all,ran⟩ | ⟨handler,less,earlier,fails,⟨final,ran⟩ | ⟨left,ran⟩⟩
  · refine ⟨within,before,fun handler less => all handler (by omega),fun fails => ?_,fun dead callback => ?_⟩
    · exact absurd (all (worker.handlers - 1) (by omega)) (by rw [fails]; decide)
    · have once := accounts.atMostOnce 0
      rw [ran] at once
      change (worker.opened last).deadLetters.count 0 ≤ 1 at once
      rw [letters_opened,if_pos ⟨dead,callback,rfl⟩] at once
      have first : worker.succeeds 0 last = true := all 0 some
      rwa [if_neg (by simp [first])]
  · rw [ran] at accounts
    have own : handler + 1 = worker.handlers := by
      by_contra differs
      obtain ⟨success,called⟩ := accounts.attempted (handler + 1) (by omega)
      rcases List.mem_append.mp called with earlier | single
      · rcases List.mem_append.mp earlier with first | others
        · cases (List.mem_replicate.mp first).2
        · obtain ⟨other,inside,same⟩ := List.mem_map.mp others
          have index := List.mem_range.mp inside
          cases same
          omega
      · cases List.mem_singleton.mp single
    refine ⟨within,before,fun other less => earlier other (by omega),fun _ => final,fun dead callback => ?_⟩
    have once := accounts.atMostOnce 0
    have buries : worker.errorPolicy.buries last = true := by simp [BuiltinErrorPolicy.buries,dead,callback]
    rw [letters_stopped,letters_opened,if_pos ⟨dead,callback,rfl⟩] at once
    by_cases alone : worker.handlers = 1 ∧ worker.succeeds 0 last = false
    · rw [if_pos alone]
      rwa [if_pos ⟨buries,by omega⟩] at once
    · rw [if_neg alone]
      exact (Nat.le_add_right _ _).trans once
  · refine absurd (ran ▸ accounts) (not_accounts_of_next hydrated some left (Nat.pos_of_ne_zero fun first => ?_))
    subst first
    have success := ends.resolve_right (by omega)
    cases success.symm.trans fails

end Accounting

/-- The processing of an event owes nothing to its handlers exactly when the failures come in order. -/
theorem accounts_iff_orderly : worker.Accounts worker.process ↔ worker.Orderly := by
  constructor
  · intro accounts
    by_cases none : worker.handlers = 0
    · exact .inl none
    · have called : worker.process.attempts ≠ [] := by
        obtain ⟨_,member⟩ := accounts.attempted 0 (Nat.pos_of_ne_zero none)
        exact List.ne_nil_of_mem member
      have hydrated : worker.hydration = .event := by
        by_contra unhydrated
        exact called (congrArg Processing.attempts (loop_unhydrated unhydrated 0 ⟨0,[],[]⟩))
      have budget : 0 ≤ worker.errorPolicy.maxRetries := by
        by_contra spent
        exact called (congrArg Processing.attempts (loop_spent spent ⟨0,[],[]⟩))
      by_cases skips : worker.errorPolicy.policy = .skip
      · exact .inr ⟨hydrated,budget,.inl skips⟩
      · exact .inr ⟨hydrated,budget,.inr
          (orderly_of_accounts skips hydrated (Nat.pos_of_ne_zero none) budget accounts)⟩
  · intro orderly
    rcases Nat.eq_zero_or_pos worker.handlers with none | some
    · exact accounts_none worker none
    · obtain ⟨hydrated,budget,rest⟩ := orderly.resolve_left (Nat.ne_of_gt some)
      by_cases skips : worker.errorPolicy.policy = .skip
      · exact accounts_skipped worker skips hydrated budget
      · obtain ⟨last,ordered⟩ := rest.resolve_left skips
        exact accounts_orderly skips hydrated some ordered

/-- The second of two handlers fails once, and the first is called again with it. -/
theorem called_again_after_success :
    ¬(EventWorker.mk ⟨.retry,1,false⟩ .event 2 fun handler attempt => handler = 0 || attempt = 1).Accounts
      (EventWorker.mk ⟨.retry,1,false⟩ .event 2 fun handler attempt => handler = 0 || attempt = 1).process := by
  intro accounts
  have ran : (EventWorker.mk ⟨.retry,1,false⟩ .event 2 fun handler attempt => handler = 0 || attempt = 1).process =
      ⟨2,[(0,true),(1,false),(0,true),(1,true)],[]⟩ := by
    rw [process,@loop_next _ 0 _ ⟨1,[(0,true),(1,false)],[]⟩ (by decide) rfl]
    exact loop_returns (by decide) rfl
  have again := accounts.notAgain
  rw [ran] at again
  exact absurd again (by decide)

end EventWorker

end CqrsDdd.Projections
