import CqrsDdd.Outbox.Workers
import Mathlib.Data.List.TakeWhile

/-! What one batch of the outbox service leaves behind when its calls raise. The answers
of the lock strategy, the publisher and the storage are given for each position of
the batch; an exception that is no `Exception`, such as a cancellation, passes the
handlers of the service, all others stop at them. -/
namespace CqrsDdd.Outbox

inductive Raised
  | concurrencyError
  | exception
  | baseException
  deriving DecidableEq, Repr

/-- `acquire` answers with the token of the lock. -/
structure Answers where
  acquire : Nat → Except Raised String
  publish : Nat → Option Raised
  markFailed : Nat → Option Raised
  markPublished : Option Raised
  release : Nat → Option Raised

/-- An entry of `acquired`, with the position of its message in the batch. -/
structure Claim (Payload : Type) where
  index : Nat
  message : OutboxMessage Payload
  token : String

/-- The calls of a batch as they were made, and how it ended. `marked` has the ids that were passed to
`mark_published` and what that call raised. -/
structure Exit (Payload : Type) where
  acquired : List (Claim Payload)
  published : List (Claim Payload)
  marked : Option (List String × Option Raised)
  released : List (Claim Payload)
  outcome : Except Raised Nat

namespace OutboxService
variable {Payload : Type}

def claimAll (answers : Answers) : List (OutboxMessage Payload × Nat) → List (Claim Payload) × Option Raised
  | [] => ([],none)
  | (message,index)::rest =>
    match answers.acquire index with
    | .ok token => (⟨index,message,token⟩::(claimAll answers rest).1,(claimAll answers rest).2)
    | .error .concurrencyError => claimAll answers rest
    | .error raised => ([],some raised)

/-- The loop of the second phase: the messages that were published, and the exception that ended it. -/
def publishAll (answers : Answers) : List (Claim Payload) → List (Claim Payload) × Option Raised
  | [] => ([],none)
  | claim::rest =>
    match answers.publish claim.index with
    | none => (claim::(publishAll answers rest).1,(publishAll answers rest).2)
    | some .baseException => ([],some .baseException)
    | some _ =>
      match answers.markFailed claim.index with
      | none => publishAll answers rest
      | some raised => ([],some raised)

/-- The loop of the `finally` clause. -/
def releaseAll (answers : Answers) : List (Claim Payload) → List (Claim Payload) × Option Raised
  | [] => ([],none)
  | claim::rest =>
    match answers.release claim.index with
    | some .baseException => ([claim],some .baseException)
    | _ => (claim::(releaseAll answers rest).1,(releaseAll answers rest).2)

def publishedIds (published : List (Claim Payload)) : List String := published.map (·.message.messageId)

/-- The body of the `try`: what it passed to `mark_published`, and its own result. -/
def mark (answers : Answers) (published : List (Claim Payload)) :
    Option Raised → Option (List String × Option Raised) × Except Raised Nat
  | some raised => (none,.error raised)
  | none =>
    if published.isEmpty then (none,.ok 0)
    else (some (publishedIds published,answers.markPublished),
      answers.markPublished.elim (.ok published.length) .error)

def process (answers : Answers) (messages : List (OutboxMessage Payload)) : Exit Payload :=
  match claimAll answers messages.zipIdx with
  | (acquired,some raised) => ⟨acquired,[],none,[],.error raised⟩
  | (acquired,none) =>
    if acquired.isEmpty then ⟨acquired,[],none,[],.ok 0⟩
    else
      let published := publishAll answers acquired
      let marked := mark answers published.1 published.2
      let released := releaseAll answers acquired
      ⟨acquired,published.1,marked.1,released.1,released.2.elim marked.2 .error⟩

/-- `_process_batch_internal` on the pending messages. -/
def processBatch (answers : Answers) (messages : List (OutboxMessage Payload)) : Exit Payload :=
  process answers messages

/-- `_retry_failed_internal` on the pending messages. -/
def retryFailed (answers : Answers) (maxRetries : Nat) (pending : List (OutboxMessage Payload)) : Exit Payload :=
  process answers (retryable maxRetries pending)

/-- Every lock that was acquired has been released, and every message that was published was passed to
`mark_published`, unless that call raised. -/
def Bookkept (left : Exit Payload) : Prop :=
  (∀ claim ∈ left.acquired, claim ∈ left.released) ∧
    ∀ claim ∈ left.published, ∃ ids raised, left.marked = some (ids,raised) ∧
      (claim.message.messageId ∈ ids ∨ raised.isSome = true)

/-- No good item comes before the item at which the loop stops. -/
def StopsFirst {Item : Type} (stops good : Item → Bool) (items : List Item) : Prop :=
  items.any stops = true → ∀ item ∈ items.takeWhile fun item => !stops item, good item = false

def claimed (answers : Answers) (entry : OutboxMessage Payload × Nat) : Option (Claim Payload) :=
  match answers.acquire entry.2 with
  | .ok token => some ⟨entry.2,entry.1,token⟩
  | .error _ => none

/-- The acquisition raises what the loop does not catch. -/
def uncaught (answers : Answers) (entry : OutboxMessage Payload × Nat) : Bool :=
  match answers.acquire entry.2 with
  | .ok _ | .error .concurrencyError => false
  | .error _ => true

def publishes (answers : Answers) (claim : Claim Payload) : Bool := (answers.publish claim.index).isNone

/-- The message is not published and its failure is not recorded. -/
def unrecorded (answers : Answers) (claim : Claim Payload) : Bool :=
  match answers.publish claim.index with
  | none => false
  | some .baseException => true
  | some _ => (answers.markFailed claim.index).isSome

def interrupted (answers : Answers) (claim : Claim Payload) : Bool :=
  answers.release claim.index = some .baseException

/-- The exceptions that end a loop come before anything that would have to be undone or recorded. -/
structure Orderly (answers : Answers) (messages : List (OutboxMessage Payload)) : Prop where
  claims : StopsFirst (uncaught answers) (fun entry => (claimed answers entry).isSome) messages.zipIdx
  publishes : messages.zipIdx.any (uncaught answers) = false →
    StopsFirst (unrecorded answers) (publishes answers) (messages.zipIdx.filterMap (claimed answers))
  releases : messages.zipIdx.any (uncaught answers) = false →
    ∀ claim ∈ (messages.zipIdx.filterMap (claimed answers)).dropLast, interrupted answers claim = false

theorem claimAll_acquired (answers : Answers) (entries : List (OutboxMessage Payload × Nat)) :
    (claimAll answers entries).1 =
      (entries.takeWhile fun entry => !uncaught answers entry).filterMap (claimed answers) := by
  induction entries with
  | nil => rfl
  | cons entry rest ih =>
    obtain ⟨message,index⟩ := entry
    unfold claimAll
    split
    next token taken =>
      rw [List.takeWhile_cons_of_pos (by simp [uncaught,taken])]
      simp [claimed,taken,ih]
    next busy =>
      rw [List.takeWhile_cons_of_pos (by simp [uncaught,busy])]
      simp [claimed,busy,ih]
    next raised other failed =>
      rw [List.takeWhile_cons_of_neg]
      · rfl
      · cases raised with
        | concurrencyError => exact absurd rfl other
        | exception | baseException => simp [uncaught,failed]

theorem claimAll_raised (answers : Answers) (entries : List (OutboxMessage Payload × Nat)) :
    (claimAll answers entries).2.isSome = entries.any (uncaught answers) := by
  induction entries with
  | nil => rfl
  | cons entry rest ih =>
    obtain ⟨message,index⟩ := entry
    unfold claimAll
    split
    next token taken => simp [uncaught,taken,ih]
    next busy => simp [uncaught,busy,ih]
    next raised other failed =>
      cases raised with
      | concurrencyError => exact absurd rfl other
      | exception | baseException => simp [uncaught,failed]

theorem publishAll_published (answers : Answers) (claims : List (Claim Payload)) :
    (publishAll answers claims).1 =
      (claims.takeWhile fun claim => !unrecorded answers claim).filter (publishes answers) := by
  induction claims with
  | nil => rfl
  | cons claim rest ih =>
    unfold publishAll
    split
    next sent =>
      rw [List.takeWhile_cons_of_pos (by simp [unrecorded,sent]),List.filter_cons_of_pos (by simp [publishes,sent]),ih]
    next cancelled =>
      rw [List.takeWhile_cons_of_neg (by simp [unrecorded,cancelled])]
      rfl
    next raised other failed =>
      have recorded : unrecorded answers claim = (answers.markFailed claim.index).isSome := by
        cases raised with
        | baseException => exact absurd rfl other
        | concurrencyError | exception => simp [unrecorded,failed]
      split
      next noted =>
        rw [List.takeWhile_cons_of_pos (by simp [recorded,noted]),
          List.filter_cons_of_neg (by simp [publishes,failed]),ih]
      next second noted =>
        rw [List.takeWhile_cons_of_neg (by simp [recorded,noted])]
        rfl

theorem publishAll_raised (answers : Answers) (claims : List (Claim Payload)) :
    (publishAll answers claims).2.isSome = claims.any (unrecorded answers) := by
  induction claims with
  | nil => rfl
  | cons claim rest ih =>
    unfold publishAll
    split
    next sent => simp [unrecorded,sent,ih]
    next cancelled => simp [unrecorded,cancelled]
    next raised other failed =>
      have recorded : unrecorded answers claim = (answers.markFailed claim.index).isSome := by
        cases raised with
        | baseException => exact absurd rfl other
        | concurrencyError | exception => simp [unrecorded,failed]
      split
      next noted => simp [recorded,noted,ih]
      next second noted => simp [recorded,noted]

theorem releaseAll_complete (answers : Answers) {claims : List (Claim Payload)} (distinct : claims.Nodup) :
    (∀ claim ∈ claims, claim ∈ (releaseAll answers claims).1) ↔
      ∀ claim ∈ claims.dropLast, interrupted answers claim = false := by
  induction claims with
  | nil => simp
  | cons claim rest ih =>
    obtain ⟨fresh,distinct⟩ := List.nodup_cons.mp distinct
    unfold releaseAll
    split
    next cancelled =>
      have stopped : interrupted answers claim = true := decide_eq_true cancelled
      cases rest with
      | nil => simp
      | cons second others =>
        constructor
        · intro all
          have same := List.mem_singleton.mp (all second (List.mem_cons_of_mem claim List.mem_cons_self))
          exact absurd (same ▸ List.mem_cons_self) fresh
        · intro none
          rw [List.dropLast_cons_cons] at none
          rw [none claim List.mem_cons_self] at stopped
          cases stopped
    next carries =>
      have passed : interrupted answers claim = false := decide_eq_false carries
      have tail : (∀ other ∈ claim::rest, other ∈ claim::(releaseAll answers rest).1) ↔
          ∀ other ∈ rest, other ∈ (releaseAll answers rest).1 := by
        constructor
        · intro all other member
          rcases List.mem_cons.mp (all other (List.mem_cons_of_mem claim member)) with rfl | released
          · exact absurd member fresh
          · exact released
        · intro all other member
          rcases List.mem_cons.mp member with rfl | later
          · exact List.mem_cons_self
          · exact List.mem_cons_of_mem claim (all other later)
      rw [tail,ih distinct]
      cases rest with
      | nil => simp
      | cons second others => simp [passed]

theorem claimed_nodup (answers : Answers) (messages : List (OutboxMessage Payload)) :
    (messages.zipIdx.filterMap (claimed answers)).Nodup := by
  have origin {entry : OutboxMessage Payload × Nat} {claim : Claim Payload} (from' : claim ∈ claimed answers entry) :
      (claim.message,claim.index) = entry := by
    unfold claimed at from'
    split at from'
    next => rw [← Option.some.inj from']
    next => cases from'
  have positions : messages.zipIdx.Nodup := by
    apply List.Nodup.of_map Prod.snd
    rw [List.zipIdx_map_snd]
    exact List.nodup_range'
  exact positions.filterMap fun first second claim one other => (origin one).symm.trans (origin other)

theorem uncaught_iff (answers : Answers) (messages : List (OutboxMessage Payload))
    (stopped : messages.zipIdx.any (uncaught answers) = true) :
    (∀ claim ∈ (claimAll answers messages.zipIdx).1, claim ∈ ([] : List (Claim Payload))) ↔
      Orderly answers messages := by
  have empty : (∀ claim ∈ (claimAll answers messages.zipIdx).1, claim ∈ ([] : List (Claim Payload))) ↔
      ∀ entry ∈ messages.zipIdx.takeWhile fun entry => !uncaught answers entry,
        (claimed answers entry).isSome = false := by
    rw [claimAll_acquired]
    constructor
    · intro none entry before
      by_contra taken
      obtain ⟨claim,same⟩ := Option.isSome_iff_exists.mp (Bool.eq_true_of_not_eq_false taken)
      exact absurd (none claim (List.mem_filterMap.mpr ⟨entry,before,same⟩)) List.not_mem_nil
    · intro none claim member
      obtain ⟨entry,before,same⟩ := List.mem_filterMap.mp member
      have free := none entry before
      rw [same] at free
      cases free
  rw [empty]
  constructor
  · intro none
    refine ⟨fun _ => none,fun going => ?_,fun going => ?_⟩
    · rw [going] at stopped
      cases stopped
    · rw [going] at stopped
      cases stopped
  · intro orderly
    exact orderly.claims stopped

theorem published_iff (answers : Answers) (claims : List (Claim Payload)) :
    (∀ claim ∈ (publishAll answers claims).1, ∃ ids raised,
        (mark answers (publishAll answers claims).1 (publishAll answers claims).2).1 = some (ids,raised) ∧
          (claim.message.messageId ∈ ids ∨ raised.isSome = true)) ↔
      StopsFirst (unrecorded answers) (publishes answers) claims := by
  have raised := publishAll_raised answers claims
  cases stopped : (publishAll answers claims).2 with
  | some failure =>
    rw [stopped] at raised
    rw [publishAll_published]
    constructor
    · intro marked _ claim before
      by_contra sent
      obtain ⟨ids,answer,passed,_⟩ := marked claim (List.mem_filter.mpr ⟨before,Bool.eq_true_of_not_eq_false sent⟩)
      cases passed
    · intro first claim member
      obtain ⟨before,sent⟩ := List.mem_filter.mp member
      rw [first raised.symm claim before] at sent
      cases sent
  | none =>
    rw [stopped] at raised
    constructor
    · intro _ stops
      rw [← raised] at stops
      cases stops
    · intro _ claim member
      refine ⟨publishedIds (publishAll answers claims).1,answers.markPublished,?_,?_⟩
      · have some : (publishAll answers claims).1.isEmpty = false := by
          rw [List.isEmpty_eq_false_iff]
          exact List.ne_nil_of_mem member
        rw [mark,some]
        rfl
      · exact .inl (List.mem_map_of_mem member)

theorem process_iff (answers : Answers) (messages : List (OutboxMessage Payload)) :
    Bookkept (process answers messages) ↔ Orderly answers messages := by
  have raised := claimAll_raised answers messages.zipIdx
  have acquired := claimAll_acquired answers messages.zipIdx
  rcases result : claimAll answers messages.zipIdx with ⟨claims,failure⟩
  rw [result] at raised acquired
  cases failure with
  | some failure =>
    have first := uncaught_iff answers messages raised.symm
    rw [result] at first
    rw [← first]
    simp only [process,result]
    exact ⟨fun kept => kept.1,fun none => ⟨none,fun claim member => absurd member List.not_mem_nil⟩⟩
  | none =>
    have going : messages.zipIdx.any (uncaught answers) = false := raised.symm
    have all : claims = messages.zipIdx.filterMap (claimed answers) := by
      apply acquired.trans
      rw [List.takeWhile_eq_self_iff.mpr]
      intro entry member
      simpa using List.any_eq_false.mp going entry member
    have first : StopsFirst (uncaught answers) (fun entry => (claimed answers entry).isSome) messages.zipIdx := by
      intro stops
      rw [going] at stops
      cases stops
    have distinct := claimed_nodup answers messages
    have parts : Orderly answers messages ↔ (∀ claim ∈ claims.dropLast, interrupted answers claim = false) ∧
        StopsFirst (unrecorded answers) (publishes answers) claims := by
      rw [all]
      exact ⟨fun orderly => ⟨orderly.releases going,orderly.publishes going⟩,
        fun ⟨releases,publishes⟩ => ⟨first,fun _ => publishes,fun _ => releases⟩⟩
    rw [← all] at distinct
    rw [parts,← releaseAll_complete answers distinct,← published_iff answers claims]
    simp only [process,result]
    split
    next empty =>
      rw [List.isEmpty_iff.mp empty]
      simp [Bookkept,publishAll]
    next => exact Iff.rfl

/-- Both entry points keep their books exactly when their loops are ended in order. -/
theorem bookkept_iff (answers : Answers) (maxRetries : Nat) (pending : List (OutboxMessage Payload)) :
    (Bookkept (processBatch answers pending) ↔ Orderly answers pending) ∧
      (Bookkept (retryFailed answers maxRetries pending) ↔ Orderly answers (retryable maxRetries pending)) :=
  ⟨process_iff answers pending,process_iff answers (retryable maxRetries pending)⟩

def allWell : Answers where
  acquire _ := .ok "token"
  publish _ := none
  markFailed _ := none
  markPublished := none
  release _ := none

/-- The lock of the first message stays held when the lock strategy breaks down at the second, and the first
message stays unmarked when the second is not published and its failure not recorded. -/
theorem second_message_spoils_first :
    ¬Bookkept (processBatch {allWell with acquire := fun index => if index = 0 then .ok "token" else .error .exception}
        [Service.unsentMessage "m1",Service.unsentMessage "m2"]) ∧
      ¬Bookkept (processBatch {allWell with
          publish := fun index => if index = 0 then none else some .exception
          markFailed := fun _ => some .exception} [Service.unsentMessage "m1",Service.unsentMessage "m2"]) := by
  constructor
  · intro kept
    exact absurd (kept.1 ⟨0,Service.unsentMessage "m1","token"⟩ List.mem_cons_self) List.not_mem_nil
  · intro kept
    obtain ⟨ids,raised,passed,_⟩ := kept.2 ⟨0,Service.unsentMessage "m1","token"⟩ List.mem_cons_self
    cases passed

end OutboxService

end CqrsDdd.Outbox
