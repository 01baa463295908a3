import CqrsDdd.EventSourcing.Loader
import CqrsDdd.Paging
import CqrsDdd.Transition

/-! The positioned reads of the three event stores. Each fetches a page behind a
cursor; the streams built on it feed the position of a page's last event back
as the next cursor, except for the SQL batches, which count the events. -/
namespace CqrsDdd.EventStores

open Generator Paging

variable {Object : Type}

structure StoredEvent (Object : Type) extends EventSourcing.StoredEvent Object where
  position : Option Int
  tenantId : Option String

/-- The place of a stored event in the log; every event a store holds has its position set. -/
def StoredEvent.place (event : StoredEvent Object) : Int := event.position.getD 0

/-- A specification by its answers to `is_satisfied_by`. -/
abbrev Specification (Object : Type) := Option (StoredEvent Object → Bool)

def satisfied (specification : Specification Object) (event : StoredEvent Object) : Bool :=
  specification.elim true fun isSatisfiedBy => isSatisfiedBy event

/-- The loop of `get_events_from_position`, the same in the three stores; an empty
page that counts as full has no last event to index. -/
def streamFrom (getEventsAfter : Int → Nat → List (StoredEvent Object)) (batchSize : Nat) (current : Int) :
    Turn Int (StoredEvent Object) :=
  let batch := getEventsAfter current batchSize
  if batch.length < batchSize then .stop batch
  else match batch.getLast? with
    | none => .fail batch
    | some last => .next batch (last.position.getD (current + batch.length))

namespace InMemoryEventStore

def appendInternal (events : List (StoredEvent Object)) (stored : StoredEvent Object) :
    List (StoredEvent Object) :=
  events ++ [{stored with position := some (stored.position.getD events.length)}]

def appendBatchInternal (events batch : List (StoredEvent Object)) : List (StoredEvent Object) :=
  events ++ batch.mapIdx fun i stored =>
    {stored with position := some (stored.position.getD ((events.length : Int) + i))}

inductive Append (Object : Type)
  | append (stored : StoredEvent Object)
  | appendBatch (batch : List (StoredEvent Object))

def Append.events : Append Object → List (StoredEvent Object)
  | .append stored => [stored]
  | .appendBatch batch => batch

def perform (events : List (StoredEvent Object)) : Append Object → List (StoredEvent Object)
  | .append stored => appendInternal events stored
  | .appendBatch batch => if batch.isEmpty then events else appendBatchInternal events batch

/-- The loop of `get_events_after` from index `i` on; it breaks once `limit` events are out. -/
def collect (specification : Specification Object) (position : Int) (limit : Nat) :
    Nat → List (StoredEvent Object) → List (StoredEvent Object) → List (StoredEvent Object)
  | _, out, [] => out
  | i, out, stored::rest =>
    if position < stored.position.getD i then
      if satisfied specification stored then
        if limit ≤ (out ++ [stored]).length then out ++ [stored]
        else collect specification position limit (i + 1) (out ++ [stored]) rest
      else collect specification position limit (i + 1) out rest
    else collect specification position limit (i + 1) out rest

def getEventsAfter (events : List (StoredEvent Object)) (specification : Specification Object)
    (position : Int) (limit : Nat) : List (StoredEvent Object) :=
  collect specification position limit 0 [] events

def getEventsFromPosition (events : List (StoredEvent Object)) (specification : Specification Object)
    (limit : Option Nat) : Int → Turn Int (StoredEvent Object) :=
  streamFrom (getEventsAfter events specification) (limit.getD 1000)

def getLatestPosition (events : List (StoredEvent Object)) (specification : Specification Object) : Option Int :=
  let matching := events.filter (satisfied specification)
  if matching.isEmpty then none
  else match (matching.filterMap (·.position)).max? with
    | none => some ((events.length : Int) - 1)
    | some position => some position

/-- The loop of `get_all_streaming`, entered at the position -1. -/
def getAllStreaming (events : List (StoredEvent Object)) (batchSize : Nat) (specification : Specification Object)
    (pos : Int) : Turn Int (List (StoredEvent Object)) :=
  let batch := getEventsAfter events specification pos batchSize
  match batch.getLast? with
  | none => .stop []
  | some last => .next [batch] (last.position.getD (pos + batch.length))

def getAll (events : List (StoredEvent Object)) (specification : Specification Object) :
    List (StoredEvent Object) :=
  events.filter (satisfied specification)

end InMemoryEventStore

/-- A row of the event table or a document of the event collection: its position is not null. -/
structure StoredEventModel (Object : Type) extends EventSourcing.StoredEvent Object where
  position : Int
  tenantId : Option String

namespace StoredEventModel

def toDataclass (model : StoredEventModel Object) : StoredEvent Object :=
  {toStoredEvent := model.toStoredEvent, position := some model.position, tenantId := model.tenantId}

/-- What the filter of a statement or a query makes of a stored event; without a specification there is none. -/
abbrev Criterion (Object : Type) := Option (StoredEventModel Object → Bool)

def selected (criterion : Criterion Object) (model : StoredEventModel Object) : Bool :=
  criterion.elim true fun keeps => keeps model

/-- The rows that both databases select: behind the position, meeting the criterion, by position. -/
def select (table : List (StoredEventModel Object)) (criterion : Criterion Object) (position : Int) :
    List (StoredEventModel Object) :=
  sorted StoredEventModel.position (table.filter fun model =>
    decide (position < model.position) && selected criterion model)

def Agrees (table : List (StoredEventModel Object)) (criterion : Criterion Object)
    (specification : Specification Object) : Prop :=
  ∀ model ∈ table, selected criterion model = satisfied specification model.toDataclass

theorem agrees_none (table : List (StoredEventModel Object)) : Agrees table none none := fun _ _ => rfl

end StoredEventModel

open StoredEventModel (Criterion)

namespace SQLAlchemyEventStore

def getEventsAfter (table : List (StoredEventModel Object)) (criterion : Criterion Object)
    (position : Int) (limit : Nat) : List (StoredEvent Object) :=
  ((StoredEventModel.select table criterion position).take limit).map StoredEventModel.toDataclass

def getEventsFromPosition (table : List (StoredEventModel Object)) (criterion : Criterion Object)
    (limit : Option Nat) : Int → Turn Int (StoredEvent Object) :=
  streamFrom (getEventsAfter table criterion) (limit.getD 1000)

/-- The loop of `get_all_streaming`, entered at the offset 0. -/
def getAllStreaming (table : List (StoredEventModel Object)) (batchSize : Nat) (criterion : Criterion Object)
    (offset : Int) : Turn Int (List (StoredEvent Object)) :=
  let batch := getEventsAfter table criterion offset batchSize
  if batch.isEmpty then .stop [] else .next [batch] (offset + batch.length)

end SQLAlchemyEventStore

namespace MongoEventStore

/-- A cursor with `limit(0)` has no limit. -/
def getEventsAfter (documents : List (StoredEventModel Object)) (criterion : Criterion Object)
    (position : Int) (limit : Nat) : List (StoredEvent Object) :=
  let cursor := StoredEventModel.select documents criterion position
  (if limit = 0 then cursor else cursor.take limit).map StoredEventModel.toDataclass

def getEventsFromPosition (documents : List (StoredEventModel Object)) (criterion : Criterion Object)
    (limit : Option Nat) : Int → Turn Int (StoredEvent Object) :=
  streamFrom (getEventsAfter documents criterion) (limit.getD 1000)

end MongoEventStore

/-- A page of the log: the first `limit` rows of the listing behind the cursor. -/
def Serves (getEventsAfter : Int → Nat → List (StoredEvent Object)) (listing : List (StoredEvent Object)) : Prop :=
  ∀ cursor limit, 1 ≤ limit → getEventsAfter cursor limit = (after StoredEvent.place listing cursor).take limit

def Positioned (events : List (StoredEvent Object)) : Prop := ∀ event ∈ events, event.position = some event.place

/-- Reading a page of a listing: nothing lies behind the cursor, or the page ends with an
event whose position is the cursor behind which the rest of the listing lies. -/
theorem page_cases {listing page : List (StoredEvent Object)} (ordered : Increasing StoredEvent.place listing)
    (positioned : Positioned listing) {cursor : Int} {size : Nat} (nonempty : 1 ≤ size)
    (taken : page = (after StoredEvent.place listing cursor).take size) :
    (after StoredEvent.place listing cursor = [] ∧ page = []) ∨
    ∃ last, page.getLast? = some last ∧ last.position = some last.place ∧ cursor < last.place ∧
      after StoredEvent.place listing cursor = page ++ after StoredEvent.place listing last.place := by
  subst taken
  cases ends : ((after StoredEvent.place listing cursor).take size).getLast? with
  | none =>
    have short := List.getLast?_eq_none_iff.mp ends
    exact .inl ⟨(List.take_eq_nil_iff.mp short).resolve_left (by omega),short⟩
  | some last =>
    obtain ⟨ahead,_,splits⟩ := ordered.page ends
    have member : last ∈ listing := (mem_after.mp (List.mem_of_mem_take (List.mem_of_getLast? ends))).1
    exact .inr ⟨last,rfl,positioned last member,ahead,splits⟩

theorem length_after_lt {listing page : List (StoredEvent Object)} {cursor later : Int} {last : StoredEvent Object}
    (ends : page.getLast? = some last)
    (splits : after StoredEvent.place listing cursor = page ++ after StoredEvent.place listing later) :
    (after StoredEvent.place listing later).length < (after StoredEvent.place listing cursor).length := by
  rw [splits,List.length_append]
  exact Nat.lt_add_of_pos_left (List.length_pos_of_mem (List.mem_of_getLast? ends))

/-- Pagination over a served listing yields what lies behind the cursor, whatever the page size. -/
theorem streamFrom_run {getEventsAfter : Int → Nat → List (StoredEvent Object)}
    {listing : List (StoredEvent Object)} (serves : Serves getEventsAfter listing)
    (ordered : Increasing StoredEvent.place listing) (positioned : Positioned listing) (batchSize : Nat)
    (nonempty : 1 ≤ batchSize) (position : Int) :
    run (streamFrom getEventsAfter batchSize) ((after StoredEvent.place listing position).length + 1) position =
      some (after StoredEvent.place listing position,.returned) := by
  refine run_of_measure (fun _ => True) (after StoredEvent.place listing)
    (fun cursor => (after StoredEvent.place listing cursor).length) (fun cursor _ => ?_) position trivial
  rw [streamFrom]
  rcases page_cases ordered positioned nonempty (serves cursor batchSize nonempty) with
    ⟨empty,page⟩ | ⟨last,ends,placed,_,splits⟩
  · have room : 0 < batchSize := nonempty
    rw [page,empty,List.length_nil,if_pos room]
    exact .inl rfl
  · split
    next short =>
      -- A page that is not full is all that lies behind the cursor.
      refine .inl (congrArg _ ?_)
      rw [serves cursor batchSize nonempty] at short ⊢
      rw [List.length_take] at short
      exact List.take_of_length_le (by omega)
    next =>
      simp only [ends,placed,Option.getD_some]
      exact .inr ⟨_,_,rfl,trivial,length_after_lt ends splits,splits⟩

end CqrsDdd.EventStores
