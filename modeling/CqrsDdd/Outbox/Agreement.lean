import CqrsDdd.Outbox.Storage
import CqrsDdd.Transition

/-! The three storages under the same calls. A ledger of the saved messages
encodes all of them: they hold the same rows with the same errors and retry
counts, and differ only in which rows they call pending. -/
namespace CqrsDdd.Outbox

variable {Payload : Type}

inductive StorageCall (Payload : Type)
  | saveMessages (messages : List (OutboxMessage Payload))
  | markPublished (now : Int) (messageIds : List String)
  | markFailed (messageId error : String)
  | getPending (limit : Nat)
  deriving DecidableEq, Repr

structure Storages (Payload : Type) where
  memory : List (OutboxMessage Payload)
  sql : List (StoredMessage Payload)
  mongo : List (StoredMessage Payload)

namespace Storages

def empty : Storages Payload := ⟨[],[],[]⟩

def call (storages : Storages Payload) : StorageCall Payload → Storages Payload
  | .saveMessages messages =>
    ⟨InMemoryOutboxStorage.saveMessages storages.memory messages,
      SQLAlchemyOutboxStorage.saveMessages storages.sql messages,
      MongoOutboxStorage.saveMessages storages.mongo messages⟩
  | .markPublished now messageIds =>
    ⟨InMemoryOutboxStorage.markPublished storages.memory now messageIds,
      SQLAlchemyOutboxStorage.markPublished storages.sql messageIds,
      MongoOutboxStorage.markPublished storages.mongo now messageIds⟩
  | .markFailed messageId error =>
    ⟨InMemoryOutboxStorage.markFailed storages.memory messageId error,
      SQLAlchemyOutboxStorage.markFailed storages.sql messageId error,
      MongoOutboxStorage.markFailed storages.mongo messageId error⟩
  | .getPending _ => storages

def answers (storages : Storages Payload) (limit : Nat) : List (List (OutboxMessage Payload)) :=
  [InMemoryOutboxStorage.getPending storages.memory limit,SQLAlchemyOutboxStorage.getPending storages.sql limit,
    MongoOutboxStorage.getPending storages.mongo limit]

end Storages

def OutboxMessage.summary (message : OutboxMessage Payload) : String × Option String × Nat :=
  (message.messageId,message.error,message.retryCount)

def Storages.Agree (storages : Storages Payload) (limit : Nat) : Prop :=
  ∀ first ∈ storages.answers limit, ∀ second ∈ storages.answers limit,
    first.map (·.summary) = second.map (·.summary)

def saved (calls : List (StorageCall Payload)) : List (OutboxMessage Payload) :=
  calls.flatMap fun
    | .saveMessages messages => messages
    | _ => []

def PublishedIn (calls : List (StorageCall Payload)) (messageId : String) : Prop :=
  ∃ now messageIds, .markPublished now messageIds ∈ calls ∧ messageId ∈ messageIds

def FailedIn (calls : List (StorageCall Payload)) (messageId : String) : Prop :=
  ∃ error, .markFailed messageId error ∈ calls

def EverySaved (calls : List (StorageCall Payload))
    (holds : OutboxMessage Payload → List (StorageCall Payload) → Prop) : Prop :=
  ∀ before messages after, calls = before ++ .saveMessages messages::after → ∀ message ∈ messages, holds message after

/-- A message that failed and was never published is still a candidate of
`retry_failed` in all three storages. -/
def Retained (calls : List (StorageCall Payload)) : Prop :=
  EverySaved calls fun message after =>
    message.publishedAt = none → FailedIn after message.messageId → ¬PublishedIn after message.messageId →
      ∃ limit, 0 < limit ∧ ∀ pending ∈ (Transition.run Storages.call Storages.empty calls).answers limit,
        ∃ stored ∈ pending, stored.messageId = message.messageId ∧
          ∀ maxRetries, stored.retryCount < maxRetries → stored ∈ retryable maxRetries pending

/-- One saved message as all the storages have it: `message` in memory, `status`
in both tables, `documentAt` the publication time of the document. -/
structure Entry (Payload : Type) where
  message : OutboxMessage Payload
  status : OutboxStatus
  documentAt : Option Int

namespace Entry

def fresh (message : OutboxMessage Payload) : Entry Payload := ⟨message,.pending,none⟩

def row (entry : Entry Payload) : StoredMessage Payload := ⟨{entry.message with publishedAt := none},entry.status⟩

def document (entry : Entry Payload) : StoredMessage Payload :=
  ⟨{entry.message with publishedAt := entry.documentAt},entry.status⟩

def update (entry : Entry Payload) : StorageCall Payload → Entry Payload
  | .markPublished now messageIds =>
    if entry.message.messageId ∈ messageIds then
      ⟨{entry.message with publishedAt := some now},.published,some now⟩
    else entry
  | .markFailed messageId error =>
    if entry.message.messageId = messageId then
      {entry with message := recordFailure error entry.message, status := .failed}
    else entry
  | _ => entry

def waits (entry : Entry Payload) : Bool := entry.message.publishedAt.isNone

def queued (entry : Entry Payload) : Bool := entry.status = .pending

end Entry

def ledgerStep (ledger : List (Entry Payload)) (call : StorageCall Payload) : List (Entry Payload) :=
  match call with
  | .saveMessages messages => ledger ++ messages.map Entry.fresh
  | _ => ledger.map (·.update call)

def encode (ledger : List (Entry Payload)) : Storages Payload :=
  ⟨ledger.map (·.message),ledger.map (·.row),ledger.map (·.document)⟩

def ledgerIds (ledger : List (Entry Payload)) : List String := ledger.map (·.message.messageId)

theorem update_id (entry : Entry Payload) (call : StorageCall Payload) :
    (entry.update call).message.messageId = entry.message.messageId := by
  cases call with
  | markPublished now messageIds => simp only [Entry.update]; split <;> rfl
  | markFailed messageId error => simp only [Entry.update]; split <;> rfl
  | saveMessages | getPending => rfl

theorem updateOne_eq_map {Row : Type} (key : Row → String) (wanted : String) (change : Row → Row) (rows : List Row)
    (distinct : (rows.map key).Nodup) :
    updateOne (fun row => key row = wanted) change rows =
      rows.map fun row => if key row = wanted then change row else row := by
  induction rows with
  | nil => rfl
  | cons row rest ih =>
    obtain ⟨absent,tail⟩ := List.nodup_cons.mp distinct
    by_cases hit : key row = wanted
    · have others : rest.map (fun row => if key row = wanted then change row else row) = rest := by
        rw [List.map_congr_left (g := id),List.map_id]
        intro other member
        have differs : key other ≠ wanted := fun same => absent (hit ▸ same ▸ List.mem_map_of_mem member)
        rw [if_neg differs]
        rfl
      simp [updateOne,hit,others]
    · simp [updateOne,hit,ih tail]

theorem encode_map {Row : Type} (view : Entry Payload → Row) (change : Row → Row) (call : StorageCall Payload)
    (same : ∀ entry : Entry Payload, change (view entry) = view (entry.update call)) (ledger : List (Entry Payload)) :
    (ledger.map view).map change = (ledger.map (·.update call)).map view := by
  simp only [List.map_map]
  exact List.map_congr_left fun entry _ => same entry

theorem encode_step (ledger : List (Entry Payload)) (call : StorageCall Payload)
    (distinct : (ledgerIds ledger).Nodup) : (encode ledger).call call = encode (ledgerStep ledger call) := by
  cases call with
  | saveMessages messages =>
    simp [encode,Storages.call,ledgerStep,InMemoryOutboxStorage.saveMessages,SQLAlchemyOutboxStorage.saveMessages,
      MongoOutboxStorage.saveMessages,Entry.fresh,Entry.row,Entry.document,insertRow,Function.comp_def]
  | markPublished now messageIds =>
    simp only [encode,Storages.call,ledgerStep,Storages.mk.injEq]
    refine ⟨encode_map _ _ _ ?_ _,encode_map _ _ _ ?_ _,?_⟩
    · intro entry
      by_cases hit : entry.message.messageId ∈ messageIds <;> simp [Entry.update,hit]
    · intro entry
      by_cases hit : entry.message.messageId ∈ messageIds <;> simp [Entry.update,Entry.row,hit]
    · unfold MongoOutboxStorage.markPublished
      split
      next nothing =>
        rw [List.isEmpty_iff.mp nothing]
        simp [Entry.update]
      next =>
        apply encode_map
        intro entry
        by_cases hit : entry.message.messageId ∈ messageIds <;> simp [Entry.update,Entry.document,hit]
  | markFailed messageId error =>
    simp only [encode,Storages.call,ledgerStep,Storages.mk.injEq]
    refine ⟨?_,encode_map _ _ _ ?_ _,?_⟩
    · unfold InMemoryOutboxStorage.markFailed
      rw [updateOne_eq_map OutboxMessage.messageId messageId _ _
        (by simpa [ledgerIds,Function.comp_def] using distinct)]
      apply encode_map
      intro entry
      by_cases hit : entry.message.messageId = messageId <;> simp [Entry.update,hit]
    · intro entry
      by_cases hit : entry.message.messageId = messageId <;> simp [Entry.update,Entry.row,failRow,recordFailure,hit]
    · unfold MongoOutboxStorage.markFailed
      rw [updateOne_eq_map (fun document : StoredMessage Payload => document.message.messageId) messageId _ _
        (by simpa [ledgerIds,Entry.document,Function.comp_def] using distinct)]
      apply encode_map
      intro entry
      by_cases hit : entry.message.messageId = messageId <;>
        simp [Entry.update,Entry.document,failRow,recordFailure,hit]
  | getPending limit => simp [encode,Storages.call,ledgerStep,Entry.update]

def ledgerOf : List (StorageCall Payload) → List (Entry Payload)
  | [] => []
  | .saveMessages messages::rest =>
    messages.map (fun message => rest.foldl Entry.update (.fresh message)) ++ ledgerOf rest
  | _::rest => ledgerOf rest

theorem ledger_run (calls : List (StorageCall Payload)) (ledger : List (Entry Payload)) :
    calls.foldl ledgerStep ledger = ledger.map (fun entry => calls.foldl Entry.update entry) ++ ledgerOf calls := by
  induction calls generalizing ledger with
  | nil => simp [ledgerOf]
  | cons call rest ih =>
    rw [List.foldl_cons,ih]
    cases call with
    | saveMessages messages => simp [ledgerStep,ledgerOf,Entry.update,Function.comp_def]
    | markPublished | markFailed | getPending => simp [ledgerStep,ledgerOf,Function.comp_def]

theorem updates_id (calls : List (StorageCall Payload)) (entry : Entry Payload) :
    (calls.foldl Entry.update entry).message.messageId = entry.message.messageId := by
  induction calls generalizing entry with
  | nil => rfl
  | cons call rest ih => rw [List.foldl_cons,ih,update_id]

theorem ledgerOf_ids (calls : List (StorageCall Payload)) :
    ledgerIds (ledgerOf calls) = (saved calls).map (·.messageId) := by
  induction calls with
  | nil => rfl
  | cons call rest ih =>
    unfold ledgerIds at ih
    cases call with
    | saveMessages messages =>
      simp only [ledgerIds,ledgerOf,List.map_append,List.map_map,ih,saved,List.flatMap_cons]
      congr 1
      exact List.map_congr_left fun message _ => updates_id rest _
    | markPublished | markFailed | getPending => simpa [ledgerIds,ledgerOf,saved] using ih

theorem storages_run (calls : List (StorageCall Payload)) (ledger : List (Entry Payload))
    (distinct : (ledgerIds ledger ++ (saved calls).map (·.messageId)).Nodup) :
    Transition.run Storages.call (encode ledger) calls = encode (calls.foldl ledgerStep ledger) := by
  induction calls generalizing ledger with
  | nil => rfl
  | cons call rest ih =>
    rw [Transition.run_cons,List.foldl_cons,encode_step ledger call (List.nodup_append.mp distinct).1]
    apply ih
    cases call with
    | saveMessages messages =>
      simpa [ledgerIds,ledgerStep,saved,Entry.fresh,Function.comp_def] using distinct
    | markPublished | markFailed | getPending =>
      simpa [ledgerIds,ledgerStep,saved,Function.comp_def,update_id] using distinct

theorem byCreation_map {Row Other : Type} (createdAt : Other → Int) (view : Row → Other) (rows : List Row) :
    byCreation createdAt (rows.map view) = (byCreation (fun row => createdAt (view row)) rows).map view :=
  (List.map_insertionSort _ _ view rows fun _ _ _ _ => Iff.rfl).symm

def pendingView (pending : Entry Payload → Bool) (ledger : List (Entry Payload)) :
    List (String × Option String × Nat) :=
  (byCreation (·.message.createdAt) (ledger.filter pending)).map (·.message.summary)

theorem memory_answer (ledger : List (Entry Payload)) (limit : Nat) :
    (InMemoryOutboxStorage.getPending (encode ledger).memory limit).map (·.summary) =
      (pendingView Entry.waits ledger).take limit := by
  have kept : (ledger.map (·.message)).filter (·.publishedAt.isNone) = (ledger.filter Entry.waits).map (·.message) :=
    List.filter_map
  simp only [InMemoryOutboxStorage.getPending,encode,kept,byCreation_map,pendingView,List.map_take,List.map_map]
  rfl

theorem pendingRows_encode (view : Entry Payload → StoredMessage Payload)
    (same : ∀ entry, (view entry).status = entry.status)
    (created : ∀ entry, (view entry).message.createdAt = entry.message.createdAt) (ledger : List (Entry Payload)) :
    pendingRows (ledger.map view) = (byCreation (·.message.createdAt) (ledger.filter Entry.queued)).map view := by
  have kept : (ledger.map view).filter (·.status = .pending) = (ledger.filter Entry.queued).map view := by
    rw [List.filter_map]
    congr 1
    apply List.filter_congr
    intro entry _
    simp [Entry.queued,same]
  simp only [pendingRows,kept,byCreation_map,created]

theorem sql_answer (ledger : List (Entry Payload)) (limit : Nat) :
    (SQLAlchemyOutboxStorage.getPending (encode ledger).sql limit).map (·.summary) =
      (pendingView Entry.queued ledger).take limit := by
  simp only [SQLAlchemyOutboxStorage.getPending,encode,
    pendingRows_encode Entry.row (fun _ => rfl) (fun _ => rfl),pendingView,List.map_take,List.map_map]
  rfl

theorem mongo_answer (ledger : List (Entry Payload)) (limit : Nat) :
    (MongoOutboxStorage.getPending (encode ledger).mongo limit).map (·.summary) =
      if limit = 0 then pendingView Entry.queued ledger else (pendingView Entry.queued ledger).take limit := by
  simp only [MongoOutboxStorage.getPending,encode,pendingRows_encode Entry.document (fun _ => rfl) (fun _ => rfl)]
  split
  · simp only [pendingView,List.map_map]
    rfl
  · simp only [pendingView,List.map_take,List.map_map]
    rfl

theorem agree_iff (ledger : List (Entry Payload)) {limit : Nat} (positive : 0 < limit) :
    (encode ledger).Agree limit ↔
      (pendingView Entry.waits ledger).take limit = (pendingView Entry.queued ledger).take limit := by
  have nonzero : limit ≠ 0 := by omega
  simp only [Storages.Agree,Storages.answers,List.mem_cons,List.not_mem_nil,or_false,forall_eq_or_imp,forall_eq,
    memory_answer,sql_answer,mongo_answer,if_neg nonzero,true_and,and_true]
  constructor
  · intro same
    exact same.1.1
  · intro same
    simp [same]

theorem agree_zero_iff (ledger : List (Entry Payload)) :
    (encode ledger).Agree 0 ↔ ∀ entry ∈ ledger, entry.queued = false := by
  simp only [Storages.Agree,Storages.answers,List.mem_cons,List.not_mem_nil,or_false,forall_eq_or_imp,forall_eq,
    memory_answer,sql_answer,mongo_answer,if_true,List.take_zero,true_and]
  have empty : pendingView Entry.queued ledger = [] ↔ ∀ entry ∈ ledger, entry.queued = false := by
    rw [← List.length_eq_zero_iff]
    simp [pendingView,byCreation]
  rw [← empty]
  constructor
  · intro same
    exact same.1.symm
  · intro same
    simp [same]

theorem agree_always_iff (ledger : List (Entry Payload)) (distinct : (ledgerIds ledger).Nodup) :
    (∀ limit, 0 < limit → (encode ledger).Agree limit) ↔ ∀ entry ∈ ledger, entry.waits = entry.queued := by
  constructor
  · intro agree
    let limit := (pendingView Entry.waits ledger).length + (pendingView Entry.queued ledger).length + 1
    have same := (agree_iff ledger (Nat.succ_pos _)).mp (agree limit (Nat.succ_pos _))
    rw [List.take_of_length_le (by omega),List.take_of_length_le (by omega)] at same
    have listed (pending : Entry Payload → Bool) (messageId : String) :
        messageId ∈ (pendingView pending ledger).map Prod.fst ↔
          ∃ entry ∈ ledger, pending entry = true ∧ entry.message.messageId = messageId := by
      simp [pendingView,byCreation,OutboxMessage.summary,and_assoc]
    have only (first second : Entry Payload → Bool)
        (views : pendingView first ledger = pendingView second ledger) {entry : Entry Payload}
        (member : entry ∈ ledger) (holds : first entry = true) : second entry = true := by
      have present := (listed first entry.message.messageId).mpr ⟨entry,member,holds,rfl⟩
      rw [views] at present
      obtain ⟨other,elsewhere,also,identity⟩ := (listed second _).mp present
      rwa [← List.inj_on_of_nodup_map distinct elsewhere member identity]
    intro entry member
    rw [Bool.eq_iff_iff]
    exact ⟨only _ _ same member,only _ _ same.symm member⟩
  · intro same limit positive
    rw [agree_iff ledger positive,pendingView,pendingView,List.filter_congr same]

theorem publishedIn_cons (call : StorageCall Payload) (rest : List (StorageCall Payload)) (messageId : String) :
    PublishedIn (call::rest) messageId ↔
      (∃ now messageIds, call = .markPublished now messageIds ∧ messageId ∈ messageIds) ∨
        PublishedIn rest messageId := by
  simp only [PublishedIn,List.mem_cons]
  constructor
  · rintro ⟨now,messageIds,here | later,listed⟩
    · exact .inl ⟨now,messageIds,here.symm,listed⟩
    · exact .inr ⟨now,messageIds,later,listed⟩
  · rintro (⟨now,messageIds,rfl,listed⟩ | ⟨now,messageIds,later,listed⟩)
    · exact ⟨now,messageIds,.inl rfl,listed⟩
    · exact ⟨now,messageIds,.inr later,listed⟩

theorem failedIn_cons (call : StorageCall Payload) (rest : List (StorageCall Payload)) (messageId : String) :
    FailedIn (call::rest) messageId ↔ (∃ error, call = .markFailed messageId error) ∨ FailedIn rest messageId := by
  simp only [FailedIn,List.mem_cons]
  constructor
  · rintro ⟨error,here | later⟩
    · exact .inl ⟨error,here.symm⟩
    · exact .inr ⟨error,later⟩
  · rintro (⟨error,rfl⟩ | ⟨error,later⟩)
    · exact ⟨error,.inl rfl⟩
    · exact ⟨error,.inr later⟩

theorem updates_waits (calls : List (StorageCall Payload)) (entry : Entry Payload) :
    (calls.foldl Entry.update entry).waits = true ↔
      entry.waits = true ∧ ¬PublishedIn calls entry.message.messageId := by
  induction calls generalizing entry with
  | nil => simp [PublishedIn]
  | cons call rest ih =>
    rw [List.foldl_cons,ih,update_id,publishedIn_cons]
    cases call with
    | markPublished now messageIds =>
      by_cases hit : entry.message.messageId ∈ messageIds
      · simp [Entry.update,Entry.waits,hit]
      · simp [Entry.update,hit]
    | markFailed messageId error =>
      by_cases hit : entry.message.messageId = messageId
      · simp [Entry.update,Entry.waits,recordFailure,hit]
      · simp [Entry.update,hit]
    | saveMessages | getPending => simp [Entry.update]

theorem updates_queued (calls : List (StorageCall Payload)) (entry : Entry Payload) :
    (calls.foldl Entry.update entry).queued = true ↔ entry.queued = true ∧
      ¬PublishedIn calls entry.message.messageId ∧ ¬FailedIn calls entry.message.messageId := by
  induction calls generalizing entry with
  | nil => simp [PublishedIn,FailedIn]
  | cons call rest ih =>
    rw [List.foldl_cons,ih,update_id,publishedIn_cons,failedIn_cons]
    cases call with
    | markPublished now messageIds =>
      by_cases hit : entry.message.messageId ∈ messageIds
      · simp [Entry.update,Entry.queued,hit]
      · simp [Entry.update,hit]
    | markFailed messageId error =>
      by_cases hit : entry.message.messageId = messageId
      · simp [Entry.update,Entry.queued,hit]
      · simp [Entry.update,hit,Ne.symm hit]
    | saveMessages | getPending => simp [Entry.update]

theorem ledgerOf_forall (calls : List (StorageCall Payload)) (holds : Entry Payload → Prop) :
    (∀ entry ∈ ledgerOf calls, holds entry) ↔
      EverySaved calls fun message after => holds (after.foldl Entry.update (.fresh message)) := by
  induction calls with
  | nil => simp [ledgerOf,EverySaved]
  | cons call rest ih =>
    have shift : EverySaved (call::rest) (fun message after => holds (after.foldl Entry.update (.fresh message))) ↔
        (∀ messages, call = .saveMessages messages → ∀ message ∈ messages,
          holds (rest.foldl Entry.update (.fresh message))) ∧
        EverySaved rest fun message after => holds (after.foldl Entry.update (.fresh message)) := by
      constructor
      · intro every
        refine ⟨fun messages same => every [] messages rest (by simp [same]),fun before messages after same => ?_⟩
        exact every (call::before) messages after (by simp [same])
      · rintro ⟨here,later⟩ before messages after same
        cases before with
        | nil =>
          injection same with head tail
          subst tail
          exact here messages head
        | cons first before =>
          injection same with head tail
          exact later before messages after tail
    rw [shift,← ih]
    cases call with
    | saveMessages messages => simp [ledgerOf,or_imp,forall_and]
    | markPublished | markFailed | getPending => simp [ledgerOf]

theorem storages_ledger (calls : List (StorageCall Payload)) (distinct : ((saved calls).map (·.messageId)).Nodup) :
    Transition.run Storages.call Storages.empty calls = encode (ledgerOf calls) := by
  have run := storages_run calls [] (by simpa [ledgerIds] using distinct)
  rw [ledger_run] at run
  exact run

theorem EverySaved.congr {calls : List (StorageCall Payload)}
    {first second : OutboxMessage Payload → List (StorageCall Payload) → Prop}
    (same : ∀ message after, first message after ↔ second message after) :
    EverySaved calls first ↔ EverySaved calls second := by
  simp only [EverySaved,same]

/-- The storages agree, and keep failed messages for a retry, exactly when every
saved message was published afterwards, or failed if and only if it had been
published before it was saved. With limit zero MongoDB answers everything, so they
agree exactly when nothing is pending there. -/
theorem storages_agree_iff (calls : List (StorageCall Payload)) (distinct : ((saved calls).map (·.messageId)).Nodup) :
    let storages := Transition.run Storages.call Storages.empty calls
    ((∀ limit, 0 < limit → storages.Agree limit) ∧ Retained calls ↔
      EverySaved calls fun message after => PublishedIn after message.messageId ∨
        (message.publishedAt = none ↔ ¬FailedIn after message.messageId)) ∧
    (storages.Agree 0 ↔
      EverySaved calls fun message after => PublishedIn after message.messageId ∨
        FailedIn after message.messageId) := by
  dsimp only
  have known : (ledgerIds (ledgerOf calls)).Nodup := by rwa [ledgerOf_ids]
  have waits (message : OutboxMessage Payload) (after : List (StorageCall Payload)) :=
    updates_waits after (.fresh message)
  have queued (message : OutboxMessage Payload) (after : List (StorageCall Payload)) :=
    updates_queued after (.fresh message)
  constructor
  · have agrees : (∀ limit, 0 < limit → (Transition.run Storages.call Storages.empty calls).Agree limit) ↔
        EverySaved calls fun message after => PublishedIn after message.messageId ∨
          (message.publishedAt = none ↔ ¬FailedIn after message.messageId) := by
      rw [storages_ledger calls distinct,agree_always_iff _ known,ledgerOf_forall]
      apply EverySaved.congr
      intro message after
      rw [Bool.eq_iff_iff,waits,queued]
      simp only [Entry.fresh,Entry.waits,Entry.queued,Option.isNone_iff_eq_none,decide_true,true_and]
      tauto
    constructor
    · intro ⟨agree,_⟩
      exact agrees.mp agree
    · intro answered
      refine ⟨agrees.mpr answered,?_⟩
      intro before messages after same message member unpublished failed missing
      rcases answered before messages after same message member with published | exact
      · exact absurd published missing
      · exact absurd failed (exact.mp unpublished)
  · rw [storages_ledger calls distinct,agree_zero_iff,ledgerOf_forall]
    apply EverySaved.congr
    intro message after
    rw [← Bool.not_eq_true,queued]
    simp only [Entry.fresh,Entry.queued,decide_true,true_and]
    tauto

def orderMessage (messageId : String) (createdAt : Int) : OutboxMessage Unit :=
  ⟨messageId,"OrderPlaced",(),(),createdAt,none,none,0,"",none,none⟩

def retriedCalls : List (StorageCall Unit) :=
  [.saveMessages [orderMessage "m1" 1,orderMessage "m2" 2],.markFailed "m1" "broker down",.markPublished 9 ["m1"]]

theorem storages_agree_iff_retried : ((saved retriedCalls).map (·.messageId)).Nodup ∧
    ∀ limit, 0 < limit → (Transition.run Storages.call Storages.empty retriedCalls).Agree limit := by
  have distinct : ((saved retriedCalls).map (·.messageId)).Nodup := by decide
  refine ⟨distinct,((storages_agree_iff retriedCalls distinct).1.mpr ?_).1⟩
  intro before messages after same message member
  cases before with
  | nil =>
    injection same with head tail
    injection head with first
    subst first tail
    simp only [List.mem_cons,List.not_mem_nil,or_false] at member
    rcases member with rfl | rfl
    · exact .inl ⟨9,["m1"],by simp [orderMessage]⟩
    · exact .inr (by simp [FailedIn,orderMessage])
  | cons first before =>
    injection same with head tail
    have later : StorageCall.saveMessages messages ∈
        [StorageCall.markFailed "m1" "broker down",.markPublished 9 ["m1"]] := by
      rw [tail]
      simp
    simp at later

/-- After one failed publication the message is pending in memory only. -/
theorem failed_message_stranded :
    ¬(Transition.run Storages.call Storages.empty
      [.saveMessages [orderMessage "m1" 1],.markFailed "m1" "broker down"]).Agree 10 := by
  intro agree
  have same := agree _ List.mem_cons_self _ (List.mem_cons_of_mem _ List.mem_cons_self)
  exact absurd same (by decide)

end CqrsDdd.Outbox
