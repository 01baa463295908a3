import CqrsDdd.Outbox.Storage
import CqrsDdd.Transition
import Mathlib.Logic.Function.Basic

/-! Any number of outbox workers over one storage and one lock for each message.
`process_batch` and `retry_failed` read their candidates before they take the
locks and never look at the storage again, so a lock taken late may cover a
message that another worker has published, marked and released meanwhile. -/
namespace CqrsDdd.Outbox

variable {Payload : Type}

inductive ServiceCall
  | processBatch
  | retryFailed
  deriving DecidableEq, Repr

/-- Where a worker stands in `_process_batch_internal` or `_retry_failed_internal`. -/
inductive Worker (Payload : Type)
  | idle
  | claiming (rest acquired : List (OutboxMessage Payload))
  | publishing (rest acquired : List (OutboxMessage Payload)) (publishedIds : List String)
  | releasing (acquired : List (OutboxMessage Payload))

/-- `log` lists the messages handed to the publisher, in order. -/
structure Service (Payload : Type) where
  maxRetries : Nat
  storage : List (OutboxMessage Payload)
  locks : String → Option Nat
  workers : Nat → Worker Payload
  log : List String

namespace Service

def initial (maxRetries : Nat) (storage : List (OutboxMessage Payload)) : Service Payload where
  maxRetries := maxRetries
  storage := storage
  locks := fun _ => none
  workers := fun _ => .idle
  log := []

def become (service : Service Payload) (worker : Nat) (next : Worker Payload) : Service Payload :=
  {service with workers := Function.update service.workers worker next}

def candidates (service : Service Payload) (call : ServiceCall) (batchSize : Nat) : List (OutboxMessage Payload) :=
  let pending := InMemoryOutboxStorage.getPending service.storage batchSize
  match call with
  | .processBatch => pending
  | .retryFailed => retryable service.maxRetries pending

def fetch (service : Service Payload) (worker : Nat) (call : ServiceCall) (batchSize : Nat) : Service Payload :=
  match service.workers worker with
  | .idle =>
    let messages := service.candidates call batchSize
    if messages.isEmpty then service else service.become worker (.claiming messages [])
  | _ => service

/-- One turn of the claiming loop, or its end. A lock that is held makes
`acquire` time out with `ConcurrencyError`, and the message is skipped. -/
def claim (service : Service Payload) (worker : Nat) : Service Payload :=
  match service.workers worker with
  | .claiming (message::rest) acquired =>
    match service.locks message.messageId with
    | some _ => service.become worker (.claiming rest acquired)
    | none =>
      {service with locks := Function.update service.locks message.messageId (some worker)}.become worker
        (.claiming rest (acquired ++ [message]))
  | .claiming [] acquired =>
    if acquired.isEmpty then service.become worker .idle
    else service.become worker (.publishing acquired acquired [])
  | _ => service

def publish (service : Service Payload) (worker : Nat) : Service Payload :=
  match service.workers worker with
  | .publishing (message::rest) acquired publishedIds =>
    {service with log := service.log ++ [message.messageId]}.become worker
      (.publishing rest acquired (publishedIds ++ [message.messageId]))
  | _ => service

def mark (service : Service Payload) (worker : Nat) (now : Int) : Service Payload :=
  match service.workers worker with
  | .publishing [] acquired publishedIds =>
    {service with storage := InMemoryOutboxStorage.markPublished service.storage now publishedIds}.become worker
      (.releasing acquired)
  | _ => service

def release (service : Service Payload) (worker : Nat) : Service Payload :=
  match service.workers worker with
  | .releasing (message::rest) =>
    {service with locks := Function.update service.locks message.messageId none}.become worker (.releasing rest)
  | .releasing [] => service.become worker .idle
  | _ => service

end Service

inductive WorkerStep (Payload : Type)
  | save (messages : List (OutboxMessage Payload))
  | fetch (worker : Nat) (call : ServiceCall) (batchSize : Nat)
  | claim (worker : Nat)
  | publish (worker : Nat)
  | mark (worker : Nat) (now : Int)
  | release (worker : Nat)
  deriving DecidableEq, Repr

def Service.step (service : Service Payload) : WorkerStep Payload → Service Payload
  | .save messages => {service with storage := InMemoryOutboxStorage.saveMessages service.storage messages}
  | .fetch worker call batchSize => service.fetch worker call batchSize
  | .claim worker => service.claim worker
  | .publish worker => service.publish worker
  | .mark worker now => service.mark worker now
  | .release worker => service.release worker

namespace Service

def Marked (service : Service Payload) (messageId : String) : Prop :=
  ∃ message ∈ service.storage, message.messageId = messageId ∧ message.publishedAt.isSome = true

/-- A worker that obtains a lock finds the message still unpublished in the storage. -/
def FreshClaim (service : Service Payload) : WorkerStep Payload → Prop
  | .claim worker => ∀ message rest acquired, service.workers worker = .claiming (message::rest) acquired →
      service.locks message.messageId = none → ¬service.Marked message.messageId
  | _ => True

end Service

def Worker.held : Worker Payload → List (OutboxMessage Payload)
  | .idle => []
  | .claiming _ acquired => acquired
  | .publishing _ acquired _ => acquired
  | .releasing acquired => acquired

def Worker.read : Worker Payload → List (OutboxMessage Payload)
  | .claiming rest acquired => rest ++ acquired
  | worker => worker.held

def Worker.unpublished : Worker Payload → List (OutboxMessage Payload)
  | .claiming _ acquired => acquired
  | .publishing rest _ _ => rest
  | _ => []

def Worker.inFlight : Worker Payload → List String
  | .publishing _ _ publishedIds => publishedIds
  | _ => []

namespace Service

structure Inv (service : Service Payload) : Prop where
  locked : ∀ worker, ∀ message ∈ (service.workers worker).held, service.locks message.messageId = some worker
  distinct : ∀ worker, ((service.workers worker).held.map (·.messageId)).Nodup
  known : ∀ worker, ∀ message ∈ (service.workers worker).read,
    message.messageId ∈ service.storage.map (·.messageId)
  split : ∀ worker rest acquired publishedIds, service.workers worker = .publishing rest acquired publishedIds →
    acquired.map (·.messageId) = publishedIds ++ rest.map (·.messageId)
  fresh : ∀ worker, ∀ message ∈ (service.workers worker).unpublished, message.messageId ∉ service.log
  answered : ∀ messageId ∈ service.log,
    service.Marked messageId ∨ ∃ worker, messageId ∈ (service.workers worker).inFlight
  once : service.log.Nodup

theorem initial_inv (maxRetries : Nat) (storage : List (OutboxMessage Payload)) : (initial maxRetries storage).Inv where
  locked _ _ member := by simp [initial,Worker.held] at member
  distinct _ := by simp [initial,Worker.held]
  known _ _ member := by simp [initial,Worker.read,Worker.held] at member
  split _ _ _ _ same := by simp [initial] at same
  fresh _ _ member := by simp [initial,Worker.unpublished] at member
  answered _ member := by simp [initial] at member
  once := List.nodup_nil

theorem unpublished_held {service : Service Payload} (inv : service.Inv) {worker : Nat}
    {message : OutboxMessage Payload} (member : message ∈ (service.workers worker).unpublished) :
    message.messageId ∈ (service.workers worker).held.map (·.messageId) := by
  cases stage : service.workers worker with
  | claiming rest acquired =>
    rw [stage] at member
    exact List.mem_map_of_mem member
  | publishing rest acquired publishedIds =>
    rw [stage] at member
    simp only [Worker.held]
    rw [inv.split worker rest acquired publishedIds stage]
    exact List.mem_append_right _ (List.mem_map_of_mem member)
  | idle | releasing =>
    rw [stage] at member
    simp [Worker.unpublished] at member

theorem inFlight_held {service : Service Payload} (inv : service.Inv) {worker : Nat} {messageId : String}
    (member : messageId ∈ (service.workers worker).inFlight) :
    messageId ∈ (service.workers worker).held.map (·.messageId) := by
  cases stage : service.workers worker with
  | publishing rest acquired publishedIds =>
    rw [stage] at member
    simp only [Worker.held]
    rw [inv.split worker rest acquired publishedIds stage]
    exact List.mem_append_left _ member
  | idle | claiming | releasing =>
    rw [stage] at member
    simp [Worker.inFlight] at member

theorem Inv.owner {service : Service Payload} (inv : service.Inv) {worker : Nat} {messageId : String}
    (member : messageId ∈ (service.workers worker).held.map (·.messageId)) :
    service.locks messageId = some worker := by
  obtain ⟨message,held,rfl⟩ := List.mem_map.mp member
  exact inv.locked worker message held

theorem Inv.change {service after : Service Payload} (inv : service.Inv) (worker : Nat) (next : Worker Payload)
    (workers : after.workers = Function.update service.workers worker next)
    (locked : ∀ message ∈ next.held, after.locks message.messageId = some worker)
    (locks : ∀ owner messageId, owner ≠ worker → service.locks messageId = some owner →
      after.locks messageId = some owner)
    (distinct : (next.held.map (·.messageId)).Nodup)
    (known : ∀ message ∈ next.read, message.messageId ∈ service.storage.map (·.messageId))
    (storage : after.storage.map (·.messageId) = service.storage.map (·.messageId))
    (split : ∀ rest acquired publishedIds, next = .publishing rest acquired publishedIds →
      acquired.map (·.messageId) = publishedIds ++ rest.map (·.messageId))
    (fresh : ∀ message ∈ next.unpublished, message.messageId ∉ after.log)
    (logged : ∀ messageId ∈ after.log, messageId ∈ service.log ∨
      messageId ∈ next.inFlight ∧ service.locks messageId = some worker)
    (marked : ∀ messageId, service.Marked messageId → after.Marked messageId)
    (inFlight : ∀ messageId ∈ (service.workers worker).inFlight,
      messageId ∈ next.inFlight ∨ after.Marked messageId)
    (once : after.log.Nodup) : after.Inv := by
  -- A step of one worker has to answer for its own messages, for the locks of the others and for
  -- what it adds to the log.
  have own : after.workers worker = next := by rw [workers,Function.update_self]
  have other (owner : Nat) (differs : owner ≠ worker) : after.workers owner = service.workers owner := by
    rw [workers,Function.update_of_ne differs]
  refine ⟨?_,?_,?_,?_,?_,?_,once⟩
  · intro owner message member
    by_cases same : owner = worker
    · subst same
      exact locked message (own ▸ member)
    · rw [other owner same] at member
      exact locks owner message.messageId same (inv.locked owner message member)
  · intro owner
    by_cases same : owner = worker
    · subst same
      rwa [own]
    · rw [other owner same]
      exact inv.distinct owner
  · intro owner message member
    rw [storage]
    by_cases same : owner = worker
    · subst same
      exact known message (own ▸ member)
    · rw [other owner same] at member
      exact inv.known owner message member
  · intro owner rest acquired publishedIds stage
    by_cases same : owner = worker
    · subst same
      exact split rest acquired publishedIds (own ▸ stage)
    · rw [other owner same] at stage
      exact inv.split owner rest acquired publishedIds stage
  · intro owner message member
    by_cases same : owner = worker
    · subst same
      exact fresh message (own ▸ member)
    · rw [other owner same] at member
      intro present
      rcases logged message.messageId present with old | ⟨_,lock⟩
      · exact inv.fresh owner message member old
      · have held := inv.owner (unpublished_held inv member)
        rw [lock] at held
        exact same (Option.some.inj held).symm
  · intro messageId present
    rcases logged messageId present with old | ⟨new,_⟩
    · rcases inv.answered messageId old with earlier | ⟨owner,flying⟩
      · exact .inl (marked messageId earlier)
      · by_cases same : owner = worker
        · subst same
          rcases inFlight messageId flying with still | done
          · exact .inr ⟨owner,by rwa [own]⟩
          · exact .inl done
        · exact .inr ⟨owner,by rwa [other owner same]⟩
    · exact .inr ⟨worker,by rwa [own]⟩

theorem Inv.become {service : Service Payload} (inv : service.Inv) (worker : Nat) (next : Worker Payload)
    (held : next.held = (service.workers worker).held)
    (known : ∀ message ∈ next.read, message.messageId ∈ service.storage.map (·.messageId))
    (unpublished : ∀ message ∈ next.unpublished, message ∈ (service.workers worker).unpublished)
    (inFlight : next.inFlight = (service.workers worker).inFlight)
    (split : ∀ rest acquired publishedIds, next = .publishing rest acquired publishedIds →
      acquired.map (·.messageId) = publishedIds ++ rest.map (·.messageId)) : (service.become worker next).Inv := by
  refine inv.change worker next rfl ?_ (fun _ _ _ lock => lock) ?_ known rfl split ?_ (fun _ present => .inl present)
    (fun _ marked => marked) ?_ inv.once
  · rw [held]
    exact inv.locked worker
  · rw [held]
    exact inv.distinct worker
  · exact fun message member => inv.fresh worker message (unpublished message member)
  · rw [inFlight]
    exact fun _ member => .inl member

theorem candidates_known (service : Service Payload) (call : ServiceCall) (batchSize : Nat)
    {message : OutboxMessage Payload} (member : message ∈ service.candidates call batchSize) :
    message ∈ service.storage := by
  have pending : message ∈ InMemoryOutboxStorage.getPending service.storage batchSize := by
    unfold candidates at member
    cases call with
    | processBatch => exact member
    | retryFailed => exact List.mem_of_mem_filter member
  have sorted := List.mem_of_mem_take pending
  exact List.mem_of_mem_filter ((List.mem_insertionSort _).mp sorted)

theorem fetch_inv {service : Service Payload} (inv : service.Inv) (worker : Nat) (call : ServiceCall)
    (batchSize : Nat) : (service.fetch worker call batchSize).Inv := by
  unfold fetch
  split
  next idle =>
    dsimp only
    split
    next => exact inv
    next =>
      refine inv.become worker _ ?_ ?_ ?_ ?_ (by simp)
      · simp [idle,Worker.held]
      · intro message member
        simp only [Worker.read,List.append_nil] at member
        exact List.mem_map_of_mem (candidates_known service call batchSize member)
      · simp [Worker.unpublished]
      · simp [idle,Worker.inFlight]
  next => exact inv

theorem save_inv {service : Service Payload} (inv : service.Inv) (messages : List (OutboxMessage Payload)) :
    (service.step (.save messages)).Inv where
  locked := inv.locked
  distinct := inv.distinct
  known worker message member := by
    have old := inv.known worker message member
    simp only [step,InMemoryOutboxStorage.saveMessages,List.map_append]
    exact List.mem_append_left _ old
  split := inv.split
  fresh := inv.fresh
  answered messageId logged := by
    rcases inv.answered messageId logged with ⟨message,stored,facts⟩ | inFlight
    · exact .inl ⟨message,List.mem_append_left _ stored,facts⟩
    · exact .inr inFlight
  once := inv.once

theorem Inv.unlogged {service : Service Payload} (inv : service.Inv) {messageId : String}
    (free : service.locks messageId = none) (unmarked : ¬service.Marked messageId) : messageId ∉ service.log := by
  intro logged
  rcases inv.answered messageId logged with marked | ⟨owner,inFlight⟩
  · exact unmarked marked
  · have held := inv.owner (inFlight_held inv inFlight)
    rw [free] at held
    contradiction

theorem acquire_inv {service : Service Payload} (inv : service.Inv) {worker : Nat} {message : OutboxMessage Payload}
    {rest acquired : List (OutboxMessage Payload)}
    (stage : service.workers worker = .claiming (message::rest) acquired)
    (free : service.locks message.messageId = none) (unmarked : ¬service.Marked message.messageId) :
    ({service with locks := Function.update service.locks message.messageId (some worker)}.become worker
      (.claiming rest (acquired ++ [message]))).Inv := by
  have own : ∀ entry ∈ acquired, service.locks entry.messageId = some worker := by
    have locked := inv.locked worker
    rwa [stage] at locked
  have elsewhere (owner : Nat) (messageId : String) (held : service.locks messageId = some owner) :
      Function.update service.locks message.messageId (some worker) messageId = some owner := by
    have differs : messageId ≠ message.messageId := by
      intro same
      rw [same,free] at held
      contradiction
    rwa [Function.update_of_ne differs]
  have fresh := inv.unlogged free unmarked
  have knownBefore := inv.known worker
  have distinct := inv.distinct worker
  have freshBefore := inv.fresh worker
  rw [stage] at knownBefore distinct freshBefore
  refine inv.change worker _ rfl ?_ (fun owner messageId _ held => elsewhere owner messageId held) ?_ ?_ rfl (by simp)
    ?_ (fun _ present => .inl present) (fun _ marked => marked) (by simp [stage,Worker.inFlight]) inv.once
  · intro entry member
    rcases List.mem_append.mp member with old | new
    · exact elsewhere worker entry.messageId (own entry old)
    · rw [List.mem_singleton.mp new]
      exact Function.update_self ..
  · simp only [Worker.held,List.map_append]
    refine List.Nodup.append distinct (List.nodup_singleton _) ?_
    intro messageId old new
    obtain ⟨entry,member,rfl⟩ := List.mem_map.mp old
    have same : entry.messageId = message.messageId := List.mem_singleton.mp new
    have held := own entry member
    rw [same,free] at held
    contradiction
  · intro entry member
    apply knownBefore entry
    simp only [Worker.read,List.mem_append,List.mem_cons,List.not_mem_nil,or_false] at member ⊢
    tauto
  · intro entry member
    rcases List.mem_append.mp member with old | new
    · exact freshBefore entry old
    · rw [List.mem_singleton.mp new]
      exact fresh

theorem claim_inv {service : Service Payload} (inv : service.Inv) (worker : Nat)
    (fresh : service.FreshClaim (.claim worker)) : (service.claim worker).Inv := by
  unfold claim
  split
  next message rest acquired stage =>
    have known := inv.known worker
    rw [stage] at known
    split
    next =>
      refine inv.become worker _ (by simp [stage,Worker.held]) ?_ (by simp [stage,Worker.unpublished])
        (by simp [stage,Worker.inFlight]) (by simp)
      intro entry member
      apply known entry
      simp only [Worker.read,List.mem_append,List.mem_cons] at member ⊢
      tauto
    next free => exact acquire_inv inv stage free (fresh message rest acquired stage free)
  next acquired stage =>
    split
    next nothing =>
      have empty : acquired = [] := List.isEmpty_iff.mp nothing
      refine inv.become worker _ (by simp [stage,Worker.held,empty]) (by simp [Worker.read,Worker.held])
        (by simp [Worker.unpublished]) (by simp [stage,Worker.inFlight]) (by simp)
    next =>
      have known := inv.known worker
      rw [stage] at known
      refine inv.become worker _ (by simp [stage,Worker.held]) (by simpa [Worker.read,Worker.held] using known)
        (by simp [stage,Worker.unpublished]) (by simp [stage,Worker.inFlight]) ?_
      intro left held publishedIds same
      injection same with rests helds ids
      subst rests helds ids
      rfl
  next => exact inv

theorem publish_inv {service : Service Payload} (inv : service.Inv) (worker : Nat) : (service.publish worker).Inv := by
  unfold publish
  split
  next message rest acquired publishedIds stage =>
    have parts := inv.split worker _ acquired publishedIds stage
    have distinct := inv.distinct worker
    rw [stage] at distinct
    simp only [Worker.held,parts,List.map_cons] at distinct
    have lock : service.locks message.messageId = some worker := by
      apply inv.owner
      simp [stage,Worker.held,parts]
    have unlogged : message.messageId ∉ service.log := by
      apply inv.fresh worker message
      simp [stage,Worker.unpublished]
    have locked := inv.locked worker
    have held := inv.distinct worker
    have known := inv.known worker
    have fresh := inv.fresh worker
    rw [stage] at locked held known fresh
    refine inv.change worker _ rfl locked (fun _ _ _ lock => lock) held known rfl ?_ ?_ ?_
      (fun _ marked => marked) ?_ ?_
    · intro left acquired' ids same
      injection same with rests helds published
      subst rests helds published
      simpa using parts
    · intro entry member logged
      rcases List.mem_append.mp logged with old | new
      · exact fresh entry (List.mem_cons_of_mem message member) old
      · have same : entry.messageId = message.messageId := List.mem_singleton.mp new
        have tail := List.nodup_cons.mp (List.nodup_append.mp distinct).2.1
        exact tail.1 (same ▸ List.mem_map_of_mem member)
    · intro messageId logged
      rcases List.mem_append.mp logged with old | new
      · exact .inl old
      · rw [List.mem_singleton.mp new]
        exact .inr ⟨List.mem_append_right _ (List.mem_singleton_self _),lock⟩
    · intro messageId inFlight
      rw [stage] at inFlight
      exact .inl (List.mem_append_left _ inFlight)
    · refine List.Nodup.append inv.once (List.nodup_singleton _) ?_
      simpa using unlogged
  next => exact inv

theorem markPublished_ids (stored : List (OutboxMessage Payload)) (now : Int) (messageIds : List String) :
    (InMemoryOutboxStorage.markPublished stored now messageIds).map (·.messageId) = stored.map (·.messageId) := by
  unfold InMemoryOutboxStorage.markPublished
  rw [List.map_map]
  apply List.map_congr_left
  intro message _
  simp only [Function.comp_apply]
  split <;> rfl

theorem marked_later {service : Service Payload} {messageId : String} (now : Int) (publishedIds : List String)
    (marked : service.Marked messageId) : ∃ message ∈
      InMemoryOutboxStorage.markPublished service.storage now publishedIds,
      message.messageId = messageId ∧ message.publishedAt.isSome = true := by
  obtain ⟨message,stored,same,published⟩ := marked
  refine ⟨_,List.mem_map_of_mem stored,?_⟩
  split
  · exact ⟨same,rfl⟩
  · exact ⟨same,published⟩

theorem mark_inv {service : Service Payload} (inv : service.Inv) (worker : Nat) (now : Int) :
    (service.mark worker now).Inv := by
  unfold mark
  split
  next acquired publishedIds stage =>
    have locked := inv.locked worker
    have held := inv.distinct worker
    have known := inv.known worker
    rw [stage] at locked held known
    refine inv.change worker _ rfl locked (fun _ _ _ lock => lock) held known (markPublished_ids _ _ _) (by simp)
      (by simp [Worker.unpublished]) (fun _ present => .inl present)
      (fun _ marked => marked_later now publishedIds marked) ?_ inv.once
    intro messageId inFlight
    have listed := inFlight_held inv inFlight
    rw [stage] at inFlight listed
    obtain ⟨entry,member,rfl⟩ := List.mem_map.mp listed
    obtain ⟨stored,present,identity⟩ := List.mem_map.mp (known entry member)
    have published : stored.messageId ∈ publishedIds := identity ▸ inFlight
    refine .inr ⟨_,List.mem_map_of_mem present,?_⟩
    rw [if_pos published]
    exact ⟨identity,rfl⟩
  next => exact inv

theorem release_inv {service : Service Payload} (inv : service.Inv) (worker : Nat) : (service.release worker).Inv := by
  unfold release
  split
  next message rest stage =>
    have distinct := inv.distinct worker
    rw [stage] at distinct
    obtain ⟨absent,tail⟩ := List.nodup_cons.mp distinct
    have lock : service.locks message.messageId = some worker := by
      apply inv.owner
      simp [stage,Worker.held]
    have locked := inv.locked worker
    have known := inv.known worker
    rw [stage] at locked known
    refine inv.change worker _ rfl ?_ ?_ tail ?_ rfl (by simp) (by simp [Worker.unpublished])
      (fun _ present => .inl present) (fun _ marked => marked) (by simp [stage,Worker.inFlight]) inv.once
    · intro entry member
      have differs : entry.messageId ≠ message.messageId := by
        intro same
        exact absent (List.mem_map.mpr ⟨entry,member,same⟩)
      change Function.update service.locks message.messageId none entry.messageId = some worker
      rw [Function.update_of_ne differs]
      exact locked entry (List.mem_cons_of_mem _ member)
    · intro owner messageId other held
      have differs : messageId ≠ message.messageId := by
        intro same
        rw [same,lock] at held
        exact other (Option.some.inj held).symm
      change Function.update service.locks message.messageId none messageId = some owner
      rwa [Function.update_of_ne differs]
    · intro entry member
      exact known entry (List.mem_cons_of_mem _ member)
  next stage =>
    refine inv.become worker _ (by simp [stage,Worker.held]) (by simp [Worker.read,Worker.held])
      (by simp [Worker.unpublished]) (by simp [stage,Worker.inFlight]) (by simp)
  next => exact inv

theorem step_inv (service : Service Payload) (action : WorkerStep Payload) (inv : service.Inv)
    (fresh : service.FreshClaim action) : (service.step action).Inv := by
  cases action with
  | save messages => exact save_inv inv messages
  | fetch worker call batchSize => exact fetch_inv inv worker call batchSize
  | claim worker => exact claim_inv inv worker fresh
  | publish worker => exact publish_inv inv worker
  | mark worker now => exact mark_inv inv worker now
  | release worker => exact release_inv inv worker

/-- In every interleaving whose locks are all taken on messages that are still
unpublished, no message is published twice. -/
theorem fresh_run_publishes_once (maxRetries : Nat) (storage : List (OutboxMessage Payload))
    (actions : List (WorkerStep Payload))
    (fresh : Transition.Meets step FreshClaim (initial maxRetries storage) actions)
    (earlier : List (WorkerStep Payload)) (reached : earlier <+: actions) :
    (Transition.run step (initial maxRetries storage) earlier).log.Nodup :=
  (Transition.run_invariant Inv step_inv (initial maxRetries storage) earlier (initial_inv maxRetries storage)
    (fresh.earlier reached)).once

def unsentMessage (messageId : String) : OutboxMessage Unit :=
  ⟨messageId,"OrderPlaced",(),(),0,none,none,0,"",none,none⟩

theorem fresh_run_publishes_once_taken_turns :
    (Transition.run step (initial 5 [unsentMessage "m1"])
      [.fetch 0 .processBatch 50,.fetch 1 .processBatch 50,.claim 0,.claim 1,.claim 0,.publish 0,.claim 1,
        .mark 0 1,.release 0,.release 0]).log.Nodup := by
  apply fresh_run_publishes_once 5 [unsentMessage "m1"] _ _ _ (List.prefix_refl _)
  refine ⟨trivial,trivial,?_,?_,?_,trivial,?_,trivial,trivial,trivial,trivial⟩
  · rintro message rest acquired _ _ ⟨stored,member,_,published⟩
    have same : stored = unsentMessage "m1" := List.mem_singleton.mp member
    simp [same,unsentMessage] at published
  · intro message rest acquired stage free
    injection stage with head
    injection head with same
    subst same
    exact absurd free (by decide)
  · intro message rest acquired stage
    injection stage with head
    contradiction
  · intro message rest acquired stage
    injection stage with head
    contradiction

/-- The second worker fetched before the first one published and takes the lock
after it was released. -/
theorem stale_snapshot_publishes_twice :
    ¬(Transition.run step (initial 5 [unsentMessage "m1"])
      [.fetch 0 .processBatch 50,.fetch 1 .processBatch 50,.claim 0,.claim 0,.publish 0,.mark 0 1,.release 0,
        .claim 1,.claim 1,.publish 1]).log.Nodup := by
  decide

end Service

end CqrsDdd.Outbox
