import CqrsDdd.Outbox.RetryBudget
import CqrsDdd.HeadOfLine

/-! Messages that the publisher never takes. A failed message stays pending and keeps its place
by creation, also when its retries are used up, so that enough of them take up
every batch. -/
namespace CqrsDdd.Outbox

namespace Relay

variable {Payload : Type} (poison : String → Bool)

/-- No lock is held by anyone else, and the publisher takes all messages but the poisonous ones. -/
def poisoned (error : String) (now : Int) (batch : List (OutboxMessage Payload)) : Deliveries where
  free _ := true
  takes index := (batch[index]?.map fun message => !poison message.messageId).getD true
  error := error
  now := now

/-- One call of `process_batch`, with what the publisher says of failures and the time of the call. -/
def pass (maxRetries batchSize : Nat) (relay : Relay Payload) (call : String × Int) : Relay Payload :=
  relay.step maxRetries (.processBatch batchSize
    (poisoned poison call.1 call.2 (InMemoryOutboxStorage.getPending relay.storage batchSize)))

/-- What decides about pending messages. -/
def view (message : OutboxMessage Payload) : String × Int × Option Int :=
  (message.messageId,message.createdAt,message.publishedAt)

def waiting (stored : List (OutboxMessage Payload)) : List String :=
  (byCreation (·.createdAt) (stored.filter (·.publishedAt.isNone))).map (·.messageId)

def pendingIds (views : List (String × Int × Option Int)) : List String :=
  (byCreation (·.2.1) (views.filter (·.2.2.isNone))).map Prod.fst

theorem waiting_views (stored : List (OutboxMessage Payload)) : waiting stored = pendingIds (stored.map view) := by
  have kept : (stored.map view).filter (·.2.2.isNone) = (stored.filter (·.publishedAt.isNone)).map view := List.filter_map
  rw [waiting,pendingIds,kept,byCreation_map,List.map_map]
  exact rfl

theorem orderedInsert_filter {Row : Type} (createdAt : Row → Int) (keep : Row → Bool) (row : Row) {rows : List Row}
    (sorted : rows.Pairwise fun first second => createdAt first ≤ createdAt second) :
    (rows.orderedInsert (fun first second => createdAt first ≤ createdAt second) row).filter keep =
      if keep row then (rows.filter keep).orderedInsert (fun first second => createdAt first ≤ createdAt second) row
      else rows.filter keep := by
  induction rows with
  | nil => cases status : keep row <;> simp [status]
  | cons first rest ih =>
    obtain ⟨least,sorted⟩ := List.pairwise_cons.mp sorted
    rw [List.orderedInsert_cons]
    by_cases before : createdAt row ≤ createdAt first
    · rw [if_pos before]
      cases status : keep row with
      | false => rw [List.filter_cons_of_neg (by rw [status]; exact Bool.false_ne_true),if_neg Bool.false_ne_true]
      | true =>
        rw [List.filter_cons_of_pos status,if_pos rfl]
        have front : ∀ other ∈ (first::rest).filter keep, createdAt row ≤ createdAt other := by
          intro other member
          rcases List.mem_cons.mp (List.mem_filter.mp member).1 with rfl | later
          · exact before
          · exact before.trans (least other later)
        cases kept : (first::rest).filter keep with
        | nil => exact rfl
        | cons other others =>
          rw [List.orderedInsert_cons,if_pos (front other (kept ▸ List.mem_cons_self))]
    · rw [if_neg before]
      cases front : keep first with
      | false =>
        rw [List.filter_cons_of_neg (by rw [front]; exact Bool.false_ne_true),ih sorted,
          List.filter_cons_of_neg (by rw [front]; exact Bool.false_ne_true)]
      | true =>
        rw [List.filter_cons_of_pos front,ih sorted,List.filter_cons_of_pos front,List.orderedInsert_cons,if_neg before]
        split
        next => exact rfl
        next => exact rfl

theorem byCreation_filter {Row : Type} (createdAt : Row → Int) (keep : Row → Bool) (rows : List Row) :
    (byCreation createdAt rows).filter keep = byCreation createdAt (rows.filter keep) := by
  induction rows with
  | nil => exact rfl
  | cons row rest ih =>
    have sorted : (byCreation createdAt rest).Pairwise fun first second => createdAt first ≤ createdAt second := by
      refine @List.pairwise_insertionSort _ (fun first second => createdAt first ≤ createdAt second) _
        ⟨fun first second => Int.le_total _ _⟩ ⟨fun _ _ _ first second => Int.le_trans first second⟩ rest
    change ((byCreation createdAt rest).orderedInsert _ row).filter keep = _
    rw [orderedInsert_filter createdAt keep row sorted,ih]
    cases status : keep row with
    | false => rw [if_neg Bool.false_ne_true,List.filter_cons_of_neg (by rw [status]; exact Bool.false_ne_true)]
    | true =>
      rw [if_pos rfl,List.filter_cons_of_pos status]
      exact rfl

theorem markFailed_views (stored : List (OutboxMessage Payload)) (messageId error : String) :
    (InMemoryOutboxStorage.markFailed stored messageId error).map view = stored.map view := by
  unfold InMemoryOutboxStorage.markFailed
  induction stored with
  | nil => exact rfl
  | cons message rest ih =>
    rw [updateOne]
    split
    next => exact rfl
    next => rw [List.map_cons,List.map_cons,ih]

variable {poison}

theorem publishAll_views (deliveries : Deliveries) (entries : List (OutboxMessage Payload × Nat)) (relay : Relay Payload)
    (takes : ∀ entry ∈ entries, deliveries.takes entry.2 = !poison entry.1.messageId) :
    (publishAll deliveries entries relay).1 = (entries.map (·.1.messageId)).filter (fun id => !poison id) ∧
      (publishAll deliveries entries relay).2.storage.map view = relay.storage.map view := by
  induction entries generalizing relay with
  | nil => exact ⟨rfl,rfl⟩
  | cons entry rest ih =>
    obtain ⟨message,index⟩ := entry
    have later := fun entry member => takes entry (List.mem_cons_of_mem _ member)
    have here := takes (message,index) List.mem_cons_self
    rw [publishAll,List.map_cons]
    dsimp only
    split
    next taken =>
      obtain ⟨ids,views⟩ := ih { relay with log := relay.log ++ [(message.messageId,deliveries.takes index)] } later
      have kept : (!poison message.messageId) = true := here.symm.trans taken
      refine ⟨?_,views⟩
      rw [List.filter_cons,if_pos kept,← ids]
    next refused =>
      obtain ⟨ids,views⟩ := ih ⟨InMemoryOutboxStorage.markFailed relay.storage message.messageId deliveries.error,
        relay.log ++ [(message.messageId,deliveries.takes index)]⟩ later
      have dropped : ¬ (!poison message.messageId) = true := fun taken => refused (here.trans taken)
      refine ⟨?_,views.trans (markFailed_views _ _ _)⟩
      rw [List.filter_cons,if_neg dropped,← ids]

def publishView (now : Int) (messageIds : List String) (entry : String × Int × Option Int) :
    String × Int × Option Int :=
  if entry.1 ∈ messageIds then (entry.1,entry.2.1,some now) else entry

theorem markPublished_views (stored : List (OutboxMessage Payload)) (now : Int) (messageIds : List String) :
    (InMemoryOutboxStorage.markPublished stored now messageIds).map view =
      (stored.map view).map (publishView now messageIds) := by
  rw [InMemoryOutboxStorage.markPublished,List.map_map,List.map_map]
  refine List.map_congr_left fun message _ => ?_
  change view (if message.messageId ∈ messageIds then _ else message) = publishView now messageIds (view message)
  unfold publishView
  split
  next taken => exact (if_pos taken).symm
  next kept => exact (if_neg kept).symm

theorem pendingIds_publish (views : List (String × Int × Option Int)) (now : Int) (messageIds : List String) :
    pendingIds (views.map (publishView now messageIds)) = (pendingIds views).filter fun id => id ∉ messageIds := by
  have left : (views.map (publishView now messageIds)).filter (·.2.2.isNone) =
      (views.filter (·.2.2.isNone)).filter fun entry => entry.1 ∉ messageIds := by
    induction views with
    | nil => exact rfl
    | cons entry rest ih =>
      by_cases taken : entry.1 ∈ messageIds
      · cases pending : entry.2.2.isNone <;> simp [publishView,taken,pending] at ih ⊢ <;> exact ih
      · cases pending : entry.2.2.isNone <;> simp [publishView,taken,pending] at ih ⊢ <;> exact ih
  rw [pendingIds,left,← byCreation_filter,pendingIds,List.filter_map]
  exact rfl

theorem publishView_fst (now : Int) (messageIds : List String) (entry : String × Int × Option Int) :
    (publishView now messageIds entry).1 = entry.1 := by
  unfold publishView
  split
  next => exact rfl
  next => exact rfl

theorem poisoned_claim (error : String) (now : Int) (batch : List (OutboxMessage Payload)) :
    claim (poisoned poison error now batch) batch = batch.zipIdx :=
  List.filter_eq_self.mpr fun _ _ => rfl

theorem poisoned_takes {error : String} {now : Int} {batch : List (OutboxMessage Payload)}
    {entry : OutboxMessage Payload × Nat} (member : entry ∈ batch.zipIdx) :
    (poisoned poison error now batch).takes entry.2 = !poison entry.1.messageId := by
  have here : batch[entry.2]? = some entry.1 := List.mk_mem_zipIdx_iff_getElem?.mp member
  change (batch[entry.2]?.map _).getD true = _
  rw [here]
  exact rfl

theorem pass_views (maxRetries batchSize : Nat) (relay : Relay Payload) (call : String × Int) :
    (pass poison maxRetries batchSize relay call).storage.map view =
      (relay.storage.map view).map
        (publishView call.2 (((waiting relay.storage).take batchSize).filter fun id => !poison id)) := by
  have claimed : ((InMemoryOutboxStorage.getPending relay.storage batchSize).zipIdx.map (·.1.messageId)) =
      (waiting relay.storage).take batchSize := by
    have firsts := congrArg (List.map fun message : OutboxMessage Payload => message.messageId)
      (List.zipIdx_map_fst 0 (InMemoryOutboxStorage.getPending relay.storage batchSize))
    rw [List.map_map] at firsts
    rw [waiting,← List.map_take]
    exact firsts
  have takes : ∀ entry ∈ (InMemoryOutboxStorage.getPending relay.storage batchSize).zipIdx,
      (poisoned poison call.1 call.2 (InMemoryOutboxStorage.getPending relay.storage batchSize)).takes entry.2 =
        !poison entry.1.messageId := fun _ member => poisoned_takes member
  obtain ⟨ids,views⟩ := publishAll_views _ _ relay takes
  rw [claimed] at ids
  rw [pass,step,process,poisoned_claim,← ids]
  dsimp only
  split
  next none =>
    -- Nothing was taken, and `mark_published` is not called.
    rw [views,List.isEmpty_iff.mp none]
    refine (List.map_id' _).symm.trans (List.map_congr_left fun entry _ => ?_)
    exact (if_neg List.not_mem_nil).symm
  next => rw [markPublished_views,views]; exact rfl

theorem waiting_nodup {stored : List (OutboxMessage Payload)} (distinct : (stored.map (·.messageId)).Nodup) :
    (waiting stored).Nodup := by
  have sorted : (waiting stored).Perm ((stored.filter (·.publishedAt.isNone)).map (·.messageId)) :=
    (List.perm_insertionSort _ _).map _
  refine sorted.nodup_iff.mpr ?_
  exact distinct.sublist (List.filter_sublist.map _)

theorem waiting_pass {maxRetries batchSize : Nat} {relay : Relay Payload} {call : String × Int}
    (distinct : (relay.storage.map (·.messageId)).Nodup) :
    waiting (pass poison maxRetries batchSize relay call).storage =
      HeadOfLine.pass poison batchSize (waiting relay.storage) := by
  rw [waiting_views,pass_views,pendingIds_publish,← waiting_views]
  exact HeadOfLine.pass_eq_filter (waiting_nodup distinct)

theorem pass_distinct {maxRetries batchSize : Nat} {relay : Relay Payload} {call : String × Int}
    (distinct : (relay.storage.map (·.messageId)).Nodup) :
    ((pass poison maxRetries batchSize relay call).storage.map (·.messageId)).Nodup := by
  have same : (pass poison maxRetries batchSize relay call).storage.map (·.messageId) =
      relay.storage.map (·.messageId) := by
    have firsts := congrArg (List.map Prod.fst) (@pass_views Payload poison maxRetries batchSize relay call)
    rw [List.map_map,List.map_map,List.map_map] at firsts
    refine firsts.trans (List.map_congr_left fun message _ => ?_)
    exact publishView_fst _ _ (view message)
  rw [same]
  exact distinct

theorem waiting_run {maxRetries batchSize : Nat} {relay : Relay Payload} (calls : List (String × Int))
    (distinct : (relay.storage.map (·.messageId)).Nodup) :
    waiting (Transition.run (pass poison maxRetries batchSize) relay calls).storage =
      HeadOfLine.passes poison batchSize calls.length (waiting relay.storage) := by
  induction calls generalizing relay with
  | nil => exact rfl
  | cons call rest ih =>
    rw [Transition.run_cons,ih (pass_distinct distinct),waiting_pass distinct]
    exact rfl

theorem waiting_poison {stored : List (OutboxMessage Payload)} :
    (∀ id ∈ waiting stored, poison id = true) ↔
      ∀ message ∈ stored, poison message.messageId = false → message.publishedAt.isSome := by
  have member (id : String) : id ∈ waiting stored ↔
      ∃ message ∈ stored, message.publishedAt = none ∧ message.messageId = id := by
    simp [waiting,byCreation,and_assoc]
  constructor
  · intro blocked message present good
    cases status : message.publishedAt with
    | some => exact rfl
    | none =>
      have bad := blocked message.messageId ((member _).mpr ⟨message,present,status,rfl⟩)
      rw [good] at bad
      cases bad
  · intro published id waits
    obtain ⟨message,present,pending,rfl⟩ := (member id).mp waits
    cases status : poison message.messageId with
    | true => exact rfl
    | false =>
      have done := published message present status
      rw [pending] at done
      cases done

variable (poison)

/-- Finitely many calls publish all that is not poisonous exactly when fewer pending poisonous
messages than a batch holds are older than each pending message that is not. -/
theorem unblocked_iff (maxRetries batchSize : Nat) (relay : Relay Payload)
    (distinct : (relay.storage.map (·.messageId)).Nodup) :
    (∃ enough, ∀ calls, enough ≤ calls.length →
      ∀ message ∈ (Transition.run (pass poison maxRetries batchSize) relay calls).storage,
        poison message.messageId = false → message.publishedAt.isSome) ↔
      HeadOfLine.Passable poison batchSize (waiting relay.storage) := by
  rw [← HeadOfLine.clears_iff]
  constructor
  · rintro ⟨enough,published⟩
    refine ⟨enough,fun count more => ?_⟩
    have calls := published (List.replicate count ("",0)) (by rw [List.length_replicate]; exact more)
    have waits := waiting_poison.mpr calls
    rwa [waiting_run _ distinct,List.length_replicate] at waits
  · rintro ⟨enough,clear⟩
    refine ⟨enough,fun calls more => waiting_poison.mp ?_⟩
    rw [waiting_run _ distinct]
    exact clear calls.length more

def simple (messageId : String) (createdAt : Int) : OutboxMessage Unit :=
  ⟨messageId,"placed",(),(),createdAt,none,none,0,"correlation",none,none⟩

theorem unblocked_second : (∃ enough, ∀ calls, enough ≤ calls.length →
    ∀ message ∈ (Transition.run (pass (· == "poison") 5 2) ⟨[simple "poison" 1,simple "good" 2],[]⟩ calls).storage,
      (message.messageId == "poison") = false → message.publishedAt.isSome) ∧
    HeadOfLine.Passable (· == "poison") 2 (waiting [simple "poison" 1,simple "good" 2]) := by
  have both := unblocked_iff (· == "poison") 5 2 ⟨[simple "poison" 1,simple "good" 2],[]⟩ (by decide)
  have passable : HeadOfLine.Passable (· == "poison") 2 (waiting [simple "poison" 1,simple "good" 2]) := by
    intro before item after split good
    have ids : waiting [simple "poison" 1,simple "good" 2] = ["poison","good"] := by decide
    rw [ids] at split
    have shorter : before.length < 2 := by
      have lengths := congrArg List.length split
      simp only [List.length_append,List.length_cons,List.length_nil] at lengths
      omega
    exact List.countP_le_length.trans_lt shorter
  exact ⟨both.mpr passable,passable⟩

/-- A batch of one is always the older message, which the publisher never takes. -/
theorem poison_blocks : ¬ ∃ enough, ∀ calls, enough ≤ calls.length →
    ∀ message ∈ (Transition.run (pass (· == "poison") 5 1) ⟨[simple "poison" 1,simple "good" 2],[]⟩ calls).storage,
      (message.messageId == "poison") = false → message.publishedAt.isSome := by
  rintro ⟨enough,published⟩
  have stuck (calls : List (String × Int)) :
      ∃ ahead, waiting (Transition.run (pass (· == "poison") 5 1)
        ⟨[simple "poison" 1,simple "good" 2],[]⟩ calls).storage = ahead ++ ["good"] := by
    rw [waiting_run calls (by decide)]
    have behind : 1 ≤ ["poison"].countP (· == "poison") := by decide
    exact HeadOfLine.passes_stuck behind calls.length
  obtain ⟨ahead,last⟩ := stuck (List.replicate enough ("",0))
  have blocked : ∀ id ∈ waiting (Transition.run (pass (· == "poison") 5 1)
      ⟨[simple "poison" 1,simple "good" 2],[]⟩ (List.replicate enough ("",0))).storage, (id == "poison") = true :=
    waiting_poison.mpr (published (List.replicate enough ("",0)) (List.length_replicate).ge)
  have waits := blocked "good" (last ▸ List.mem_append_right _ List.mem_cons_self)
  exact absurd waits (by decide)

end Relay

end CqrsDdd.Outbox
