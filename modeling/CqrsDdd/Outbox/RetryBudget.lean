import CqrsDdd.Outbox.Agreement
import CqrsDdd.Outbox.Workers
import CqrsDdd.Trace
import CqrsDdd.Transition

/-! The retry budget of the outbox service over runs that mix its two entry points. Both
draw from the pending messages of the storage, but only `retry_failed` looks at how
often a message has failed. -/
namespace CqrsDdd.Outbox

open Trace

/-- `log` lists the messages handed to the publisher, each with whether the publisher took it. -/
structure Relay (Payload : Type) where
  storage : List (OutboxMessage Payload)
  log : List (String × Bool)

/-- Which locks of a batch are free and which of its messages the publisher takes, by their position. -/
structure Deliveries where
  free : Nat → Bool
  takes : Nat → Bool
  error : String
  now : Int

inductive RelayStep (Payload : Type)
  | saveMessages (messages : List (OutboxMessage Payload))
  | processBatch (batchSize : Nat) (deliveries : Deliveries)
  | retryFailed (batchSize : Nat) (deliveries : Deliveries)

namespace Relay
variable {Payload : Type}

def claim (deliveries : Deliveries) (messages : List (OutboxMessage Payload)) : List (OutboxMessage Payload × Nat) :=
  messages.zipIdx.filter fun entry => deliveries.free entry.2

/-- The second phase of a batch: the ids that were published and what it leaves. -/
def publishAll (deliveries : Deliveries) :
    List (OutboxMessage Payload × Nat) → Relay Payload → List String × Relay Payload
  | [],relay => ([],relay)
  | (message,index)::rest,relay =>
    let log := relay.log ++ [(message.messageId,deliveries.takes index)]
    if deliveries.takes index then
      let left := publishAll deliveries rest {relay with log := log}
      (message.messageId::left.1,left.2)
    else
      publishAll deliveries rest
        ⟨InMemoryOutboxStorage.markFailed relay.storage message.messageId deliveries.error,log⟩

def process (relay : Relay Payload) (deliveries : Deliveries) (messages : List (OutboxMessage Payload)) :
    Relay Payload :=
  let left := publishAll deliveries (claim deliveries messages) relay
  if left.1.isEmpty then left.2
  else {left.2 with storage := InMemoryOutboxStorage.markPublished left.2.storage deliveries.now left.1}

def step (maxRetries : Nat) (relay : Relay Payload) : RelayStep Payload → Relay Payload
  | .saveMessages messages => {relay with storage := InMemoryOutboxStorage.saveMessages relay.storage messages}
  | .processBatch batchSize deliveries =>
    relay.process deliveries (InMemoryOutboxStorage.getPending relay.storage batchSize)
  | .retryFailed batchSize deliveries =>
    relay.process deliveries (retryable maxRetries (InMemoryOutboxStorage.getPending relay.storage batchSize))

/-- No message was handed to the publisher after it had failed `maxRetries` times. -/
def WithinBudget (maxRetries : Nat) (relay : Relay Payload) : Prop :=
  Chain (fun earlier entry => earlier.count (entry.1,false) < maxRetries) relay.log

/-- An id names one message, and `process_batch` claims no message whose budget is spent. -/
def Allowed (maxRetries : Nat) (relay : Relay Payload) : RelayStep Payload → Prop
  | .saveMessages messages => ((relay.storage ++ messages).map (·.messageId)).Nodup
  | .processBatch batchSize deliveries =>
    ∀ entry ∈ claim deliveries (InMemoryOutboxStorage.getPending relay.storage batchSize),
      entry.1.retryCount < maxRetries
  | .retryFailed _ _ => True

structure Inv (maxRetries : Nat) (relay : Relay Payload) : Prop where
  distinct : (relay.storage.map (·.messageId)).Nodup
  known : ∀ entry ∈ relay.log, entry.1 ∈ relay.storage.map (·.messageId)
  counted : ∀ message ∈ relay.storage, relay.log.count (message.messageId,false) ≤ message.retryCount
  within : WithinBudget maxRetries relay

theorem empty_inv (maxRetries : Nat) : Inv maxRetries (⟨[],[]⟩ : Relay Payload) where
  distinct := List.nodup_nil
  known _ member := absurd member List.not_mem_nil
  counted _ member := absurd member List.not_mem_nil
  within := Chain.nil

theorem Inv.save {maxRetries : Nat} {relay : Relay Payload} (inv : Inv maxRetries relay)
    (messages : List (OutboxMessage Payload)) (distinct : ((relay.storage ++ messages).map (·.messageId)).Nodup) :
    Inv maxRetries {relay with storage := InMemoryOutboxStorage.saveMessages relay.storage messages} where
  distinct := distinct
  known entry member := by
    rw [InMemoryOutboxStorage.saveMessages,List.map_append]
    exact List.mem_append_left _ (inv.known entry member)
  counted message member := by
    rcases List.mem_append.mp member with old | new
    · exact inv.counted message old
    · -- An id that was not stored cannot have been handed over.
      rw [List.map_append] at distinct
      have fresh : (message.messageId,false) ∉ relay.log := by
        intro handed
        exact (List.disjoint_of_nodup_append distinct) (inv.known _ handed) (List.mem_map_of_mem new)
      rw [List.count_eq_zero.mpr fresh]
      exact Nat.zero_le message.retryCount
  within := inv.within

theorem Inv.update {maxRetries : Nat} {relay : Relay Payload} (inv : Inv maxRetries relay)
    {change : OutboxMessage Payload → OutboxMessage Payload}
    (ids : ∀ message, (change message).messageId = message.messageId)
    (counts : ∀ message, (change message).retryCount = message.retryCount) :
    Inv maxRetries {relay with storage := relay.storage.map change} := by
  have same : (relay.storage.map change).map (·.messageId) = relay.storage.map (·.messageId) := by
    rw [List.map_map]
    exact List.map_congr_left fun message _ => ids message
  refine ⟨same ▸ inv.distinct,fun entry member => same ▸ inv.known entry member,?_,inv.within⟩
  intro message member
  obtain ⟨stored,present,rfl⟩ := List.mem_map.mp member
  rw [ids,counts]
  exact inv.counted stored present

theorem Inv.hand {maxRetries : Nat} {relay : Relay Payload} (inv : Inv maxRetries relay) {messageId : String}
    (known : messageId ∈ relay.storage.map (·.messageId))
    (left : relay.log.count (messageId,false) < maxRetries) (taken : Bool) (error : String) :
    Inv maxRetries ⟨if taken then relay.storage else InMemoryOutboxStorage.markFailed relay.storage messageId error,
      relay.log ++ [(messageId,taken)]⟩ := by
  have within : WithinBudget maxRetries ⟨relay.storage,relay.log ++ [(messageId,taken)]⟩ := inv.within.snoc left
  cases taken with
  | true =>
    refine ⟨inv.distinct,?_,?_,within⟩
    · intro entry member
      rcases List.mem_append.mp member with old | new
      · exact inv.known entry old
      · rw [List.mem_singleton.mp new]
        exact known
    · intro message member
      rw [List.count_append,List.count_singleton,if_neg (by simp)]
      exact inv.counted message member
  | false =>
    have marked : InMemoryOutboxStorage.markFailed relay.storage messageId error = relay.storage.map fun message =>
        if message.messageId = messageId then recordFailure error message else message :=
      updateOne_eq_map OutboxMessage.messageId messageId _ _ inv.distinct
    have ids (message : OutboxMessage Payload) :
        (if message.messageId = messageId then recordFailure error message else message).messageId =
          message.messageId := by
      split
      next => rfl
      next => rfl
    have same : (InMemoryOutboxStorage.markFailed relay.storage messageId error).map (·.messageId) =
        relay.storage.map (·.messageId) := by
      rw [marked,List.map_map]
      exact List.map_congr_left fun message _ => ids message
    refine ⟨?_,?_,?_,within⟩
    · change ((InMemoryOutboxStorage.markFailed relay.storage messageId error).map (·.messageId)).Nodup
      rw [same]
      exact inv.distinct
    · intro entry member
      change entry.1 ∈ (InMemoryOutboxStorage.markFailed relay.storage messageId error).map (·.messageId)
      rw [same]
      rcases List.mem_append.mp member with old | new
      · exact inv.known entry old
      · rw [List.mem_singleton.mp new]
        exact known
    · intro message member
      change message ∈ InMemoryOutboxStorage.markFailed relay.storage messageId error at member
      rw [marked] at member
      obtain ⟨stored,present,rfl⟩ := List.mem_map.mp member
      have before := inv.counted stored present
      rw [ids,List.count_append,List.count_singleton]
      by_cases hit : stored.messageId = messageId
      · rw [if_pos hit,hit,if_pos (beq_self_eq_true _)]
        rw [hit] at before
        exact Nat.add_le_add_right before 1
      · rw [if_neg hit,if_neg (by simpa using Ne.symm hit)]
        exact before

theorem markFailed_ids (stored : List (OutboxMessage Payload)) (messageId error : String)
    (distinct : (stored.map (·.messageId)).Nodup) :
    (InMemoryOutboxStorage.markFailed stored messageId error).map (·.messageId) = stored.map (·.messageId) := by
  rw [InMemoryOutboxStorage.markFailed,updateOne_eq_map OutboxMessage.messageId messageId _ _ distinct,List.map_map]
  apply List.map_congr_left
  intro message _
  simp only [Function.comp_apply]
  split
  next => rfl
  next => rfl

theorem publishAll_inv {maxRetries : Nat} (deliveries : Deliveries) (claims : List (OutboxMessage Payload × Nat))
    {relay : Relay Payload} (inv : Inv maxRetries relay) (distinct : (claims.map (·.1.messageId)).Nodup)
    (known : ∀ entry ∈ claims, entry.1.messageId ∈ relay.storage.map (·.messageId))
    (left : ∀ entry ∈ claims, relay.log.count (entry.1.messageId,false) < maxRetries) :
    Inv maxRetries (publishAll deliveries claims relay).2 := by
  induction claims generalizing relay with
  | nil => exact inv
  | cons entry rest ih =>
    obtain ⟨message,index⟩ := entry
    obtain ⟨fresh,distinct⟩ := List.nodup_cons.mp distinct
    have first := known (message,index) List.mem_cons_self
    have handed := inv.hand first (left (message,index) List.mem_cons_self) (deliveries.takes index) deliveries.error
    have later : ∀ entry ∈ rest, (relay.log ++ [(message.messageId,deliveries.takes index)]).count
        (entry.1.messageId,false) < maxRetries := by
      intro entry member
      have differs : message.messageId ≠ entry.1.messageId := by
        intro same
        apply fresh
        change message.messageId ∈ rest.map (·.1.messageId)
        rw [same]
        exact List.mem_map_of_mem (f := fun entry : OutboxMessage Payload × Nat => entry.1.messageId) member
      rw [List.count_append,List.count_singleton,if_neg (by simp [differs])]
      exact left entry (List.mem_cons_of_mem _ member)
    unfold publishAll
    dsimp only
    split
    next taken =>
      rw [if_pos taken] at handed
      exact ih handed distinct (fun entry member => known entry (List.mem_cons_of_mem _ member)) later
    next refused =>
      rw [if_neg refused] at handed
      refine ih handed distinct (fun entry member => ?_) later
      change entry.1.messageId ∈
        (InMemoryOutboxStorage.markFailed relay.storage message.messageId deliveries.error).map (·.messageId)
      rw [markFailed_ids relay.storage message.messageId deliveries.error inv.distinct]
      exact known entry (List.mem_cons_of_mem _ member)

theorem process_inv {maxRetries : Nat} {relay : Relay Payload} (inv : Inv maxRetries relay) (deliveries : Deliveries)
    {messages : List (OutboxMessage Payload)} (stored : messages ⊆ relay.storage)
    (distinct : (messages.map (·.messageId)).Nodup)
    (left : ∀ entry ∈ claim deliveries messages, entry.1.retryCount < maxRetries) :
    Inv maxRetries (relay.process deliveries messages) := by
  have member {entry : OutboxMessage Payload × Nat} (claimed : entry ∈ claim deliveries messages) :
      entry.1 ∈ relay.storage := by
    have listed := List.mem_map_of_mem (f := Prod.fst) (List.mem_of_mem_filter claimed)
    rw [List.zipIdx_map_fst] at listed
    exact stored listed
  have once : ((claim deliveries messages).map (·.1.messageId)).Nodup := by
    have ids : (messages.zipIdx.map (·.1.messageId)).Nodup := by
      have parts : messages.zipIdx.map (·.1.messageId) = (messages.zipIdx.map Prod.fst).map (·.messageId) := by
        rw [List.map_map]
        rfl
      rw [parts,List.zipIdx_map_fst]
      exact distinct
    exact ids.sublist (List.filter_sublist.map _)
  have published := publishAll_inv deliveries (claim deliveries messages) inv once
    (fun entry claimed => List.mem_map_of_mem (member claimed))
    (fun entry claimed => (inv.counted entry.1 (member claimed)).trans_lt (left entry claimed))
  unfold process
  dsimp only
  split
  next => exact published
  next =>
    apply published.update
    · intro message
      split
      next => rfl
      next => rfl
    · intro message
      split
      next => rfl
      next => rfl

theorem getPending_subset (stored : List (OutboxMessage Payload)) (limit : Nat) :
    InMemoryOutboxStorage.getPending stored limit ⊆ stored := by
  intro message member
  exact List.mem_of_mem_filter ((List.mem_insertionSort _).mp (List.mem_of_mem_take member))

theorem getPending_distinct (stored : List (OutboxMessage Payload)) (limit : Nat)
    (distinct : (stored.map (·.messageId)).Nodup) :
    ((InMemoryOutboxStorage.getPending stored limit).map (·.messageId)).Nodup := by
  have pending : ((stored.filter (·.publishedAt.isNone)).map (·.messageId)).Nodup :=
    distinct.sublist (List.filter_sublist.map _)
  have sorted : ((byCreation (·.createdAt) (stored.filter (·.publishedAt.isNone))).map (·.messageId)).Nodup :=
    ((List.perm_insertionSort _ _).map _).nodup_iff.mpr pending
  exact sorted.sublist ((List.take_sublist limit _).map _)

theorem step_inv {maxRetries : Nat} (relay : Relay Payload) (action : RelayStep Payload) (inv : Inv maxRetries relay)
    (allowed : Allowed maxRetries relay action) : Inv maxRetries (relay.step maxRetries action) := by
  have distinct := getPending_distinct relay.storage
  cases action with
  | saveMessages messages => exact inv.save messages allowed
  | processBatch batchSize deliveries =>
    exact process_inv inv deliveries (getPending_subset relay.storage batchSize)
      (distinct batchSize inv.distinct) allowed
  | retryFailed batchSize deliveries =>
    apply process_inv inv deliveries
    · intro message member
      exact getPending_subset relay.storage batchSize (List.mem_of_mem_filter member)
    · exact (distinct batchSize inv.distinct).sublist (List.filter_sublist.map _)
    · -- Only `retry_failed` compares the count with the budget.
      intro entry claimed
      have listed := List.mem_map_of_mem (f := Prod.fst) (List.mem_of_mem_filter claimed)
      rw [List.zipIdx_map_fst] at listed
      have kept := (List.mem_filter.mp listed).2
      rw [Bool.and_eq_true] at kept
      exact of_decide_eq_true kept.2

/-- In every run whose batches claim no message with a spent budget, the budget is kept. -/
theorem run_within_budget (maxRetries : Nat) (actions : List (RelayStep Payload))
    (allowed : Transition.Meets (step maxRetries) (Allowed maxRetries) (⟨[],[]⟩ : Relay Payload) actions)
    (earlier : List (RelayStep Payload)) (reached : earlier <+: actions) :
    WithinBudget maxRetries (Transition.run (step maxRetries) ⟨[],[]⟩ earlier) :=
  (Transition.run_invariant (Inv maxRetries) step_inv ⟨[],[]⟩ earlier (empty_inv maxRetries)
    (allowed.earlier reached)).within

def refused : Deliveries := ⟨fun _ => true,fun _ => false,"broker down",0⟩

def delivered : Deliveries := ⟨fun _ => true,fun _ => true,"",1⟩

theorem run_within_budget_retried :
    WithinBudget 2 (Transition.run (step 2) ⟨[],[]⟩
      [.saveMessages [Service.unsentMessage "m1"],.processBatch 50 refused,.retryFailed 50 delivered]) := by
  apply run_within_budget 2 _ ?_ _ (List.prefix_refl _)
  refine ⟨List.nodup_singleton _,?_,trivial,trivial⟩
  intro entry member
  have same : entry = (Service.unsentMessage "m1",0) := List.mem_singleton.mp member
  rw [same]
  exact Nat.zero_lt_two

/-- `process_batch` hands over a message whose budget of one failure is spent. -/
theorem spent_message_handed_over :
    ¬WithinBudget 1 (Transition.run (step 1) ⟨[],[]⟩
      [.saveMessages [Service.unsentMessage "m1"],.processBatch 50 refused,.processBatch 50 refused]) := by
  intro within
  exact absurd (within [("m1",false)] ("m1",false) [] rfl) (by decide)

end Relay

end CqrsDdd.Outbox
