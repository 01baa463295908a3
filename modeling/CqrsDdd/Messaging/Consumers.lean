import CqrsDdd.Transition
import Mathlib.Logic.Function.Basic

/-! The three broker consumers under redelivery. The attempt number travels in
the bytes, and the broker redelivers the same bytes, so no consumer ever counts
beyond the number the message came with; `DeadLetterHandler.route` always raises,
so what a consumer does after it never runs. -/
namespace CqrsDdd.Messaging

structure RetryPolicy where
  maxAttempts : Nat
  positive : 1 ≤ maxAttempts

def RetryPolicy.shouldRetry (policy : RetryPolicy) (attempt : Nat) : Bool :=
  1 ≤ attempt && attempt < policy.maxAttempts

/-- The delivery attempt a decoded envelope carries; the field is validated with `ge=1`. -/
structure Attempt where
  number : Nat
  positive : 1 ≤ number

/-- What one delivery did: whether the handler was invoked, whether
`on_dead_letter` was called, whether the broker forgets the message, and whether
the consumer's loop ended. -/
structure Effect where
  invoked : Bool
  deadLettered : Bool
  forgotten : Bool
  stopped : Bool
  deriving DecidableEq, Repr

/-- `deserialize` raises inside the `process` block, or gives the attempt of the
envelope. An exception that leaves the block rejects the message without requeue,
and the queue goes on with the next one. -/
def RabbitMQConsumer.onMessage (policy : RetryPolicy) (deadLetter : Bool) (decoded : Option Attempt)
    (returned : Bool) : Effect :=
  match decoded with
  | none => ⟨false,false,true,false⟩
  | some attempt =>
    if returned then ⟨true,false,true,false⟩
    else if policy.shouldRetry attempt.number then ⟨true,false,false,false⟩
    else if deadLetter then ⟨true,true,true,false⟩
    else ⟨true,false,true,false⟩

/-- A failed message that may be retried is committed all the same; an exception
leaves `run` through its `finally`, with nothing committed. -/
def KafkaConsumer.handleMessage (policy : RetryPolicy) (deadLetter : Bool) (decoded : Option Attempt)
    (returned : Bool) : Effect :=
  match decoded with
  | none => ⟨false,false,false,true⟩
  | some attempt =>
    if returned then ⟨true,false,true,false⟩
    else if policy.shouldRetry attempt.number then ⟨true,false,true,false⟩
    else if deadLetter then ⟨true,true,false,true⟩
    else ⟨true,false,true,false⟩

/-- Only `receive_message` is guarded in `run`, so an exception ends the loop and
the message is not deleted. -/
def SQSConsumer.processMessage (policy : RetryPolicy) (deadLetter : Bool) (decoded : Option Attempt)
    (returned : Bool) : Effect :=
  match decoded with
  | none => ⟨false,false,false,true⟩
  | some attempt =>
    if returned then ⟨true,false,true,false⟩
    else if policy.shouldRetry attempt.number then ⟨true,false,false,false⟩
    else if deadLetter then ⟨true,true,false,true⟩
    else ⟨true,false,false,false⟩

inductive BrokerConsumer
  | rabbitMQ | kafka | sqs
  deriving DecidableEq, Repr

def BrokerConsumer.receive (consumer : BrokerConsumer) (policy : RetryPolicy) (deadLetter : Bool)
    (decoded : Option Attempt) (returned : Bool) : Effect :=
  match consumer with
  | .rabbitMQ => RabbitMQConsumer.onMessage policy deadLetter decoded returned
  | .kafka => KafkaConsumer.handleMessage policy deadLetter decoded returned
  | .sqs => SQSConsumer.processMessage policy deadLetter decoded returned

/-- The handler given to `subscribe`. `own` answers whether its run number
`invocation` on a message returned normally; `baseEventConsumer` gives the
outcomes of the local event handlers of that run. -/
inductive Handler
  | own (outcome : Nat → Nat → Bool)
  | baseEventConsumer (outcomes : Nat → Nat → List Bool)

/-- `BaseEventConsumer._handle_message` logs every exception and returns. -/
def Handler.returns (handler : Handler) (message invocation : Nat) : Bool :=
  match handler with
  | .own outcome => outcome message invocation
  | .baseEventConsumer _ => true

def Handler.succeeds (handler : Handler) (message invocation : Nat) : Bool :=
  match handler with
  | .own outcome => outcome message invocation
  | .baseEventConsumer outcomes => (outcomes message invocation).all id

structure Life where
  invocations : Nat
  successes : Nat
  failures : Nat
  deadLetters : Nat
  present : Bool
  deriving DecidableEq, Repr

structure Subscription where
  consumer : BrokerConsumer
  policy : RetryPolicy
  handler : Handler
  decoded : Nat → Option Attempt

structure Consuming where
  lives : Nat → Life
  running : Bool

namespace Subscription

def start : Consuming := ⟨fun _ => ⟨0,0,0,0,true⟩,true⟩

def after (subscription : Subscription) (message : Nat) (life : Life) : Life × Effect :=
  let returned := subscription.handler.returns message life.invocations
  let succeeded := subscription.handler.succeeds message life.invocations
  let effect := subscription.consumer.receive subscription.policy true (subscription.decoded message) returned
  (⟨life.invocations + effect.invoked.toNat,life.successes + (effect.invoked && succeeded).toNat,
    life.failures + (effect.invoked && !succeeded).toNat,life.deadLetters + effect.deadLettered.toNat,
    !effect.forgotten⟩,effect)

/-- The broker may deliver any message it still has, in any order. -/
def deliver (subscription : Subscription) (state : Consuming) (message : Nat) : Consuming :=
  if state.running && (state.lives message).present then
    let next := subscription.after message (state.lives message)
    ⟨Function.update state.lives message next.1,!next.2.stopped⟩
  else state

structure Guarantee (subscription : Subscription) (state : Consuming) : Prop where
  notLost : ∀ message, (state.lives message).present = false →
    0 < (state.lives message).successes ∨ 0 < (state.lives message).deadLetters
  bounded : ∀ message, (state.lives message).invocations ≤ subscription.policy.maxAttempts
  deadOnce : ∀ message, (state.lives message).deadLetters ≤ 1
  deadLate : ∀ message, 0 < (state.lives message).deadLetters →
    subscription.policy.maxAttempts ≤ (state.lives message).failures
  goesOn : state.running = true

/-- When the guarantee holds for a message: the exact condition on the bytes and
on the outcomes of the handler. -/
def Fine (subscription : Subscription) (message : Nat) : Prop :=
  ∃ attempt, subscription.decoded message = some attempt ∧
    match subscription.handler with
    | .baseEventConsumer outcomes => (outcomes message 0).all id = true
    | .own outcome =>
      match subscription.consumer with
      | .kafka => outcome message 0 = true
      | .sqs =>
        if attempt.number < subscription.policy.maxAttempts then
          ∃ invocation < subscription.policy.maxAttempts, outcome message invocation = true
        else outcome message 0 = true
      | .rabbitMQ =>
        if attempt.number < subscription.policy.maxAttempts then
          ∃ invocation < subscription.policy.maxAttempts, outcome message invocation = true
        else subscription.policy.maxAttempts = 1 ∨ outcome message 0 = true

structure LifeInv (subscription : Subscription) (message : Nat) (life : Life) : Prop where
  bounded : life.invocations ≤ subscription.policy.maxAttempts
  deadOnce : life.deadLetters ≤ 1
  deadLate : 0 < life.deadLetters → subscription.policy.maxAttempts ≤ life.failures
  notLost : life.present = false → 0 < life.successes ∨ 0 < life.deadLetters
  untouched : life.present = true → life.deadLetters = 0 ∧
    ∀ invocation < life.invocations, subscription.handler.returns message invocation = false
  retried : life.present = true → 0 < life.invocations → ∀ attempt,
    subscription.decoded message = some attempt → subscription.policy.shouldRetry attempt.number = true

theorem start_inv (subscription : Subscription) (message : Nat) : LifeInv subscription message (start.lives message) :=
  ⟨Nat.zero_le _,Nat.zero_le _,by simp [start],by simp [start],by simp [start],by simp [start]⟩

theorem returned_inv {subscription : Subscription} {message : Nat} {life : Life} {attempt : Attempt}
    (inv : LifeInv subscription message life) (present : life.present = true)
    (decoded : subscription.decoded message = some attempt)
    (returned : subscription.handler.returns message life.invocations = true)
    (succeeded : subscription.handler.succeeds message life.invocations = true)
    (room : life.invocations < subscription.policy.maxAttempts) :
    LifeInv subscription message (subscription.after message life).1 ∧
      (subscription.after message life).2.stopped = false := by
  have effect : subscription.consumer.receive subscription.policy true (some attempt) true =
    ⟨true,false,true,false⟩ := by
    cases subscription.consumer <;> rfl
  obtain ⟨clean,_⟩ := inv.untouched present
  simp only [after,decoded,returned,succeeded,effect]
  exact ⟨⟨room,by simp [clean],by simp [clean],by simp,by simp,by simp⟩,trivial⟩

theorem retried_inv {subscription : Subscription} {message : Nat} {life : Life} {attempt : Attempt}
    (inv : LifeInv subscription message life) (present : life.present = true)
    (decoded : subscription.decoded message = some attempt)
    (failed : subscription.handler.returns message life.invocations = false)
    (retry : subscription.policy.shouldRetry attempt.number = true) (requeues : subscription.consumer ≠ .kafka)
    (room : life.invocations < subscription.policy.maxAttempts) :
    LifeInv subscription message (subscription.after message life).1 ∧
      (subscription.after message life).2.stopped = false := by
  have effect : subscription.consumer.receive subscription.policy true (some attempt) false =
      ⟨true,false,false,false⟩ := by
    cases kind : subscription.consumer with
    | kafka => exact absurd kind requeues
    | rabbitMQ => simp [BrokerConsumer.receive,RabbitMQConsumer.onMessage,retry]
    | sqs => simp [BrokerConsumer.receive,SQSConsumer.processMessage,retry]
  obtain ⟨clean,earlier⟩ := inv.untouched present
  simp only [after,decoded,failed,effect]
  refine ⟨⟨room,by simp [clean],by simp [clean],by simp,?_,?_⟩,trivial⟩
  · intro _
    refine ⟨by simp [clean],fun invocation bound => ?_⟩
    rcases Nat.lt_or_eq_of_le (Nat.le_of_lt_succ bound) with old | new
    · exact earlier invocation old
    · rw [new]
      exact failed
  · intro _ _ other same
    obtain rfl := Option.some.inj (decoded.symm.trans same)
    exact retry

theorem retry_of_lt (policy : RetryPolicy) (attempt : Attempt) :
    policy.shouldRetry attempt.number = true ↔ attempt.number < policy.maxAttempts := by
  simp [RetryPolicy.shouldRetry,attempt.positive]

theorem LifeInv.before {subscription : Subscription} {message : Nat} {life : Life}
    (inv : LifeInv subscription message life) (present : life.present = true) {invocation : Nat}
    (returned : subscription.handler.returns message invocation = true) : life.invocations ≤ invocation := by
  by_contra late
  have failed := (inv.untouched present).2 invocation (by omega)
  rw [returned] at failed
  contradiction

theorem awaited_inv {subscription : Subscription} {message : Nat} {life : Life} {attempt : Attempt}
    {outcome : Nat → Nat → Bool} (inv : LifeInv subscription message life) (present : life.present = true)
    (decoded : subscription.decoded message = some attempt) (handler : subscription.handler = .own outcome)
    (retry : attempt.number < subscription.policy.maxAttempts) (requeues : subscription.consumer ≠ .kafka)
    {invocation : Nat} (inside : invocation < subscription.policy.maxAttempts)
    (returned : outcome message invocation = true) :
    LifeInv subscription message (subscription.after message life).1 ∧
      (subscription.after message life).2.stopped = false := by
  have returns : subscription.handler.returns message invocation = true := by rw [handler]; exact returned
  have bound := inv.before present returns
  have room : life.invocations < subscription.policy.maxAttempts := by omega
  cases answer : subscription.handler.returns message life.invocations with
  | true =>
    refine returned_inv inv present decoded answer ?_ room
    rw [handler] at answer ⊢
    exact answer
  | false => exact retried_inv inv present decoded answer ((retry_of_lt _ _).mpr retry) requeues room

theorem prompt_inv {subscription : Subscription} {message : Nat} {life : Life} {attempt : Attempt}
    (inv : LifeInv subscription message life) (present : life.present = true)
    (decoded : subscription.decoded message = some attempt)
    (returned : subscription.handler.returns message 0 = true)
    (succeeded : subscription.handler.succeeds message 0 = true) :
    LifeInv subscription message (subscription.after message life).1 ∧
      (subscription.after message life).2.stopped = false := by
  have first : life.invocations = 0 := Nat.le_zero.mp (inv.before present returned)
  have room : life.invocations < subscription.policy.maxAttempts := by
    rw [first]
    exact subscription.policy.positive
  rw [← first] at returned succeeded
  exact returned_inv inv present decoded returned succeeded room

theorem dropped_inv {subscription : Subscription} {message : Nat} {life : Life} {attempt : Attempt}
    {outcome : Nat → Nat → Bool} (inv : LifeInv subscription message life) (present : life.present = true)
    (decoded : subscription.decoded message = some attempt) (handler : subscription.handler = .own outcome)
    (kind : subscription.consumer = .rabbitMQ) (single : subscription.policy.maxAttempts = 1) :
    LifeInv subscription message (subscription.after message life).1 ∧
      (subscription.after message life).2.stopped = false := by
  have exhausted : subscription.policy.shouldRetry attempt.number = false := by
    rw [← Bool.not_eq_true,retry_of_lt]
    have positive := attempt.positive
    omega
  have first : life.invocations = 0 := by
    by_contra again
    have retry := inv.retried present (Nat.pos_of_ne_zero again) attempt decoded
    rw [exhausted] at retry
    contradiction
  cases answer : subscription.handler.returns message 0 with
  | true =>
    refine prompt_inv inv present decoded answer ?_
    rw [handler] at answer ⊢
    exact answer
  | false =>
    have failed : subscription.handler.succeeds message 0 = false := by
      rw [handler] at answer ⊢
      exact answer
    have effect : subscription.consumer.receive subscription.policy true (some attempt) false =
        ⟨true,true,true,false⟩ := by
      simp [kind,BrokerConsumer.receive,RabbitMQConsumer.onMessage,exhausted]
    obtain ⟨clean,_⟩ := inv.untouched present
    simp only [after,decoded,first,answer,failed,effect]
    exact ⟨⟨by simp [single],by simp [clean],by simp [single],by simp,by simp,by simp⟩,trivial⟩

theorem after_inv {subscription : Subscription} {message : Nat} {life : Life} (fine : subscription.Fine message)
    (inv : LifeInv subscription message life) (present : life.present = true) :
    LifeInv subscription message (subscription.after message life).1 ∧
      (subscription.after message life).2.stopped = false := by
  obtain ⟨attempt,decoded,condition⟩ := fine
  cases handler : subscription.handler with
  | baseEventConsumer outcomes =>
    rw [handler] at condition
    exact prompt_inv inv present decoded (by rw [handler]; rfl) (by rw [handler]; exact condition)
  | own outcome =>
    have prompt (returned : outcome message 0 = true) :=
      prompt_inv inv present decoded (by rw [handler]; exact returned) (by rw [handler]; exact returned)
    rw [handler] at condition
    cases kind : subscription.consumer with
    | kafka =>
      rw [kind] at condition
      exact prompt condition
    | sqs =>
      rw [kind] at condition
      dsimp only at condition
      split at condition
      next retry =>
        obtain ⟨invocation,inside,returned⟩ := condition
        exact awaited_inv inv present decoded handler retry (by simp [kind]) inside returned
      next => exact prompt condition
    | rabbitMQ =>
      rw [kind] at condition
      dsimp only at condition
      split at condition
      next retry =>
        obtain ⟨invocation,inside,returned⟩ := condition
        exact awaited_inv inv present decoded handler retry (by simp [kind]) inside returned
      next =>
        rcases condition with single | returned
        · exact dropped_inv inv present decoded handler kind single
        · exact prompt returned

def ConsumingInv (subscription : Subscription) (state : Consuming) : Prop :=
  state.running = true ∧ ∀ message, LifeInv subscription message (state.lives message)

theorem deliver_inv (subscription : Subscription) (fine : ∀ message, subscription.Fine message)
    (state : Consuming) (message : Nat) (inv : subscription.ConsumingInv state) :
    subscription.ConsumingInv (subscription.deliver state message) := by
  unfold deliver
  split
  next ready =>
    obtain ⟨_,present⟩ := Bool.and_eq_true_iff.mp ready
    obtain ⟨life,runs⟩ := after_inv (fine message) (inv.2 message) present
    refine ⟨by simp [runs],fun other => ?_⟩
    by_cases same : other = message
    · subst same
      simpa using life
    · simpa [same] using inv.2 other
  next => exact inv

theorem ConsumingInv.guarantee {subscription : Subscription} {state : Consuming}
    (inv : subscription.ConsumingInv state) : subscription.Guarantee state :=
  ⟨fun message => (inv.2 message).notLost,fun message => (inv.2 message).bounded,
    fun message => (inv.2 message).deadOnce,fun message => (inv.2 message).deadLate,inv.1⟩

theorem failing_run {subscription : Subscription} {message : Nat} {attempt : Attempt} {outcome : Nat → Nat → Bool}
    (decoded : subscription.decoded message = some attempt) (handler : subscription.handler = .own outcome)
    (retry : attempt.number < subscription.policy.maxAttempts) (requeues : subscription.consumer ≠ .kafka)
    (count : Nat) (fails : ∀ invocation < count, outcome message invocation = false) :
    (Transition.run subscription.deliver start (List.replicate count message)).running = true ∧
      (Transition.run subscription.deliver start (List.replicate count message)).lives message =
        ⟨count,0,count,0,true⟩ := by
  induction count with
  | zero => exact ⟨rfl,rfl⟩
  | succ count ih =>
    obtain ⟨running,life⟩ := ih fun invocation bound => fails invocation (Nat.lt_succ_of_lt bound)
    have effect : subscription.consumer.receive subscription.policy true (some attempt) false =
        ⟨true,false,false,false⟩ := by
      have again := (retry_of_lt subscription.policy attempt).mpr retry
      cases kind : subscription.consumer with
      | kafka => exact absurd kind requeues
      | rabbitMQ => simp [BrokerConsumer.receive,RabbitMQConsumer.onMessage,again]
      | sqs => simp [BrokerConsumer.receive,SQSConsumer.processMessage,again]
    have failed := fails count (Nat.lt_succ_self count)
    rw [List.replicate_succ',Transition.run_append,Transition.run_cons,Transition.run_nil]
    simp [deliver,running,life,after,decoded,handler,Handler.returns,Handler.succeeds,failed,effect]

theorem first_delivery {subscription : Subscription}
    (holds : ∀ deliveries, subscription.Guarantee (Transition.run subscription.deliver start deliveries))
    (message : Nat) :
    let next := subscription.after message ⟨0,0,0,0,true⟩
    (next.1.present = false → 0 < next.1.successes ∨ 0 < next.1.deadLetters) ∧
      (0 < next.1.deadLetters → subscription.policy.maxAttempts ≤ next.1.failures) ∧ next.2.stopped = false := by
  have guarantee := holds [message]
  have lost := guarantee.notLost message
  have late := guarantee.deadLate message
  have runs := guarantee.goesOn
  simp only [Transition.run_cons,Transition.run_nil,deliver,start,Bool.and_self,if_true,Function.update_self]
    at lost late runs
  exact ⟨lost,late,by simpa using runs⟩

theorem awaited_of_guarantee {subscription : Subscription}
    (holds : ∀ deliveries, subscription.Guarantee (Transition.run subscription.deliver start deliveries))
    {message : Nat} {attempt : Attempt} {outcome : Nat → Nat → Bool}
    (decoded : subscription.decoded message = some attempt) (handler : subscription.handler = .own outcome)
    (retry : attempt.number < subscription.policy.maxAttempts) (requeues : subscription.consumer ≠ .kafka) :
    ∃ invocation < subscription.policy.maxAttempts, outcome message invocation = true := by
  -- Without a success in the first runs the message is run once too often.
  by_contra none
  have fails : ∀ invocation < subscription.policy.maxAttempts, outcome message invocation = false := by
    intro invocation inside
    by_contra returned
    exact none ⟨invocation,inside,by simpa using returned⟩
  let count := subscription.policy.maxAttempts
  obtain ⟨running,life⟩ := failing_run decoded handler retry requeues count fails
  have bounded := (holds (List.replicate count message ++ [message])).bounded message
  rw [Transition.run_append,Transition.run_cons,Transition.run_nil] at bounded
  have invoked (returned : Bool) :
      (subscription.consumer.receive subscription.policy true (some attempt) returned).invoked = true := by
    have again := (retry_of_lt subscription.policy attempt).mpr retry
    cases kind : subscription.consumer with
    | kafka => exact absurd kind requeues
    | rabbitMQ => cases returned <;> simp [BrokerConsumer.receive,RabbitMQConsumer.onMessage,again]
    | sqs => cases returned <;> simp [BrokerConsumer.receive,SQSConsumer.processMessage,again]
  simp only [deliver,running,life,Bool.and_self,if_true,Function.update_self,after,decoded,invoked,
    Bool.toNat_true] at bounded
  omega

theorem fine_of_guarantee {subscription : Subscription}
    (holds : ∀ deliveries, subscription.Guarantee (Transition.run subscription.deliver start deliveries))
    (message : Nat) : subscription.Fine message := by
  obtain ⟨lost,late,runs⟩ := first_delivery holds message
  cases decoded : subscription.decoded message with
  | none =>
    exfalso
    cases kind : subscription.consumer with
    | rabbitMQ =>
      simp [after,decoded,kind,BrokerConsumer.receive,RabbitMQConsumer.onMessage] at lost
    | kafka => simp [after,decoded,kind,BrokerConsumer.receive,KafkaConsumer.handleMessage] at runs
    | sqs => simp [after,decoded,kind,BrokerConsumer.receive,SQSConsumer.processMessage] at runs
  | some attempt =>
    refine ⟨attempt,decoded,?_⟩
    cases handler : subscription.handler with
    | baseEventConsumer outcomes =>
      have effect : subscription.consumer.receive subscription.policy true (some attempt) true =
          ⟨true,false,true,false⟩ := by
        cases subscription.consumer <;> rfl
      by_contra failed
      simp only [Bool.not_eq_true] at failed
      simp [after,decoded,handler,Handler.returns,Handler.succeeds,effect,failed] at lost
    | own outcome =>
      have exhausted (spent : ¬attempt.number < subscription.policy.maxAttempts) :
          subscription.policy.shouldRetry attempt.number = false := by
        rw [← Bool.not_eq_true,retry_of_lt]
        exact spent
      cases kind : subscription.consumer with
      | kafka =>
        by_contra failed
        simp only [Bool.not_eq_true] at failed
        -- Committed without a retry, or dead-lettered with the loop ended.
        cases retry : subscription.policy.shouldRetry attempt.number with
        | true =>
          simp [after,decoded,handler,kind,Handler.returns,Handler.succeeds,failed,BrokerConsumer.receive,
            KafkaConsumer.handleMessage,retry] at lost
        | false =>
          simp [after,decoded,handler,kind,Handler.returns,failed,BrokerConsumer.receive,
            KafkaConsumer.handleMessage,retry] at runs
      | sqs =>
        dsimp only
        split
        next retry => exact awaited_of_guarantee holds decoded handler retry (by simp [kind])
        next spent =>
          by_contra failed
          simp only [Bool.not_eq_true] at failed
          simp [after,decoded,handler,kind,Handler.returns,failed,BrokerConsumer.receive,
            SQSConsumer.processMessage,exhausted spent] at runs
      | rabbitMQ =>
        dsimp only
        split
        next retry => exact awaited_of_guarantee holds decoded handler retry (by simp [kind])
        next spent =>
          cases answer : outcome message 0 with
          | true => exact .inr rfl
          | false =>
            simp only [after,decoded,handler,kind,Handler.returns,Handler.succeeds,answer,BrokerConsumer.receive,
              RabbitMQConsumer.onMessage,exhausted spent] at late
            have once : subscription.policy.maxAttempts ≤ 1 := late (by decide)
            exact .inl (Nat.le_antisymm once subscription.policy.positive)

/-- Over every order of deliveries the guarantee holds exactly when every message
meets the condition of its consumer. -/
theorem guarantee_iff (subscription : Subscription) :
    (∀ deliveries, subscription.Guarantee (Transition.run subscription.deliver start deliveries)) ↔
      ∀ message, subscription.Fine message := by
  constructor
  · intro holds message
    exact fine_of_guarantee holds message
  · intro fine deliveries
    apply ConsumingInv.guarantee
    have meets : Transition.Meets subscription.deliver (fun _ _ => True) start deliveries :=
      Transition.meets_of_forall _ _ (fun _ _ => trivial) _ _
    exact Transition.run_invariant subscription.ConsumingInv
      (fun state message inv _ => deliver_inv subscription fine state message inv) start deliveries
      ⟨rfl,start_inv subscription⟩ meets

def failingRabbit : Subscription where
  consumer := .rabbitMQ
  policy := ⟨5,by decide⟩
  handler := .own fun _ _ => false
  decoded := fun _ => some ⟨1,by decide⟩

/-- The message is requeued with the same attempt number, so a sixth run follows. -/
theorem rabbit_retries_forever :
    ¬failingRabbit.Guarantee (Transition.run failingRabbit.deliver start [0,0,0,0,0,0]) := by
  intro guarantee
  have bounded := guarantee.bounded 0
  exact absurd bounded (by decide)

end Subscription

end CqrsDdd.Messaging
