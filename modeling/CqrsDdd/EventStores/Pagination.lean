import CqrsDdd.EventStores.Criteria

/-! Cursor pagination of the event stores. A store serves a listing of its events,
and reading it page by page yields the listing behind the cursor, whatever the
page size: for the in-memory store over every run of appends, for the databases over every
table of distinct positions, where the criterion of the specification agrees with it. -/
namespace CqrsDdd.EventStores

open Generator Paging

variable {Object : Type}

namespace InMemoryEventStore

/-- Each event stands at the index that is its position. -/
def Indexed (events : List (StoredEvent Object)) : Prop :=
  ∀ (i : Nat) (event : StoredEvent Object), events[i]? = some event → event.position = some (i : Int)

def Unpositioned (call : Append Object) : Prop := ∀ event ∈ call.events, event.position = none

theorem perform_eq_appendBatch (events : List (StoredEvent Object)) (call : Append Object) :
    perform events call = appendBatchInternal events call.events := by
  cases call with
  | append stored => simp [perform,appendInternal,appendBatchInternal,Append.events]
  | appendBatch batch => cases batch <;> simp [perform,appendBatchInternal,Append.events]

theorem perform_indexed {events : List (StoredEvent Object)} {call : Append Object} (indexed : Indexed events)
    (unpositioned : Unpositioned call) : Indexed (perform events call) := by
  intro i event found
  rw [perform_eq_appendBatch,appendBatchInternal,List.getElem?_append] at found
  split at found
  next => exact indexed i event found
  next beyond =>
    rw [List.getElem?_mapIdx] at found
    obtain ⟨stored,there,rfl⟩ := Option.map_eq_some_iff.mp found
    have preset := unpositioned stored (List.mem_of_getElem? there)
    simp only [preset,Option.getD_none,Option.some.injEq]
    omega

def contents (calls : List (Append Object)) : List (StoredEvent Object) := Transition.run perform [] calls

theorem contents_indexed {calls : List (Append Object)} (unpositioned : ∀ call ∈ calls, Unpositioned call) :
    Indexed (contents calls) := by
  have start : Indexed ([] : List (StoredEvent Object)) := fun i event found => by simp at found
  exact Transition.run_invariant Indexed (fun _ _ indexed fresh => perform_indexed indexed fresh) [] calls start
    (Transition.meets_of_mem [] unpositioned)

theorem Indexed.place {events : List (StoredEvent Object)} (indexed : Indexed events) {i : Nat}
    {event : StoredEvent Object} (found : events[i]? = some event) : event.place = i := by
  rw [StoredEvent.place,indexed i event found,Option.getD_some]

theorem Indexed.increasing {events : List (StoredEvent Object)} (indexed : Indexed events) :
    Increasing StoredEvent.place events := by
  refine List.pairwise_iff_getElem.mpr fun i j first second before => ?_
  rw [indexed.place (List.getElem?_eq_getElem first),indexed.place (List.getElem?_eq_getElem second)]
  exact Int.ofNat_lt.mpr before

theorem Indexed.positioned {events : List (StoredEvent Object)} (indexed : Indexed events) : Positioned events := by
  intro event member
  obtain ⟨i,found⟩ := List.mem_iff_getElem?.mp member
  rw [indexed.place found,indexed i event found]

theorem collect_eq_take (specification : Specification Object) (position : Int) (limit i : Nat)
    (out rest : List (StoredEvent Object)) (positioned : Positioned rest) (room : out.length < limit) :
    collect specification position limit i out rest =
      out ++ (after StoredEvent.place (getAll rest specification) position).take (limit - out.length) := by
  induction rest generalizing i out with
  | nil => simp [collect,getAll,after]
  | cons stored rest ih =>
    have placed := positioned stored List.mem_cons_self
    have others : Positioned rest := fun event member => positioned event (List.mem_cons_of_mem stored member)
    rw [collect,placed,Option.getD_some]
    by_cases behind : position < stored.place
    · cases verdict : satisfied specification stored with
      | false => simpa [behind,verdict,getAll] using ih (i + 1) out others room
      | true =>
        obtain ⟨left,size⟩ : ∃ left, limit - out.length = left + 1 := ⟨limit - out.length - 1,by omega⟩
        simp only [behind,if_true,getAll,List.filter_cons_of_pos verdict,after,decide_true,List.filter_cons_of_pos,
          size,List.take_succ_cons,List.length_append,List.length_cons,List.length_nil]
        split
        next full =>
          obtain rfl : left = 0 := by omega
          rw [List.take_zero]
        next open_ =>
          have more := ih (i + 1) (out ++ [stored]) others (by simp; omega)
          rw [more,List.append_assoc,List.singleton_append,List.length_append,List.length_singleton]
          have same : limit - (out.length + 1) = left := by omega
          rw [same]
          rfl
    · cases verdict : satisfied specification stored with
      | false => simpa [behind,verdict,getAll] using ih (i + 1) out others room
      | true => simpa [behind,verdict,getAll,after] using ih (i + 1) out others room

theorem getAll_positioned {events : List (StoredEvent Object)} (positioned : Positioned events)
    (specification : Specification Object) : Positioned (getAll events specification) :=
  fun event member => positioned event (List.mem_of_mem_filter member)

theorem Indexed.getAll_positioned {events : List (StoredEvent Object)} (indexed : Indexed events)
    (specification : Specification Object) : Positioned (getAll events specification) :=
  InMemoryEventStore.getAll_positioned indexed.positioned specification

theorem serves_getAll {events : List (StoredEvent Object)} (positioned : Positioned events)
    (specification : Specification Object) :
    Serves (getEventsAfter events specification) (getAll events specification) := by
  intro cursor limit nonempty
  have page := collect_eq_take specification cursor limit 0 [] events positioned nonempty
  simpa [getEventsAfter] using page

theorem getAllStreaming_yields {events : List (StoredEvent Object)} (positioned : Positioned events)
    (increasing : Increasing StoredEvent.place events) (specification : Specification Object) {batchSize : Nat}
    (nonempty : 1 ≤ batchSize) (pos : Int) :
    ∃ batches, Yields (getAllStreaming events batchSize specification) pos batches ∧
      batches.flatten = after StoredEvent.place (getAll events specification) pos := by
  have serves := serves_getAll positioned specification
  have ordered : Increasing StoredEvent.place (getAll events specification) := increasing.filter _
  refine exists_yields (fun _ => True)
    (fun pos batches => batches.flatten = after StoredEvent.place (getAll events specification) pos)
    (fun pos => (after StoredEvent.place (getAll events specification) pos).length) (fun pos _ => ?_) pos trivial
  rw [getAllStreaming]
  rcases page_cases ordered (getAll_positioned positioned specification) nonempty (serves pos batchSize nonempty) with
    ⟨empty,page⟩ | ⟨last,ends,placed,_,splits⟩
  · rw [page]
    exact .inl ⟨[],rfl,by rw [empty,List.flatten_nil]⟩
  · simp only [ends,placed,Option.getD_some]
    refine .inr ⟨_,_,rfl,trivial,length_after_lt ends splits,fun rest joined => ?_⟩
    rw [List.flatten_append,joined,List.flatten_singleton]
    exact splits.symm

theorem Indexed.after_start {events : List (StoredEvent Object)} (indexed : Indexed events)
    (specification : Specification Object) :
    after StoredEvent.place (getAll events specification) (-1) = getAll events specification := by
  refine List.filter_eq_self.mpr fun event member => ?_
  obtain ⟨i,found⟩ := List.mem_iff_getElem?.mp (List.mem_of_mem_filter member)
  rw [indexed.place found,decide_eq_true_eq]
  omega

end InMemoryEventStore

namespace StoredEventModel

@[simp] theorem toDataclass_place (model : StoredEventModel Object) : model.toDataclass.place = model.position := rfl

def listing (table : List (StoredEventModel Object)) (criterion : Criterion Object) : List (StoredEvent Object) :=
  (sorted StoredEventModel.position (table.filter (selected criterion))).map toDataclass

theorem after_map (models : List (StoredEventModel Object)) (cursor : Int) :
    after StoredEvent.place (models.map toDataclass) cursor =
      (after StoredEventModel.position models cursor).map toDataclass := by
  rw [after,after,List.filter_map]
  rfl

section Listing

variable {table : List (StoredEventModel Object)} (distinct : (table.map (·.position)).Nodup)

include distinct

theorem select_eq_after (criterion : Criterion Object) (cursor : Int) :
    (select table criterion cursor).map toDataclass = after StoredEvent.place (listing table criterion) cursor := by
  have fewer : ((table.filter (selected criterion)).map (·.position)).Nodup :=
    distinct.sublist (List.filter_sublist.map _)
  rw [listing,after_map,← sorted_after fewer,after,List.filter_filter,select]

theorem listing_increasing (criterion : Criterion Object) : Increasing StoredEvent.place (listing table criterion) := by
  have ordered := (lists_sorted_filter distinct (selected criterion)).1
  exact List.pairwise_map.mpr ordered

theorem listing_lists {criterion : Criterion Object} {specification : Specification Object}
    (agrees : Agrees table criterion specification) :
    Lists StoredEvent.place (listing table criterion) (table.map toDataclass)
      fun event => satisfied specification event = true := by
  refine ⟨listing_increasing distinct criterion,fun event => ?_⟩
  simp only [listing,List.mem_map,mem_sorted,List.mem_filter]
  constructor
  · rintro ⟨model,⟨stored,verdict⟩,rfl⟩
    exact ⟨⟨model,stored,rfl⟩,agrees model stored ▸ verdict⟩
  · rintro ⟨⟨model,stored,rfl⟩,verdict⟩
    exact ⟨model,⟨stored,(agrees model stored).trans verdict⟩,rfl⟩

end Listing

theorem listing_positioned (table : List (StoredEventModel Object)) (criterion : Criterion Object) :
    Positioned (listing table criterion) := by
  intro event member
  obtain ⟨model,_,rfl⟩ := List.mem_map.mp member
  rfl

end StoredEventModel

open StoredEventModel (Criterion Agrees)

theorem SQLAlchemyEventStore.serves_listing {table : List (StoredEventModel Object)}
    (distinct : (table.map (·.position)).Nodup) (criterion : Criterion Object) :
    Serves (getEventsAfter table criterion) (StoredEventModel.listing table criterion) := by
  intro cursor limit _
  rw [getEventsAfter,List.map_take,StoredEventModel.select_eq_after distinct]

theorem MongoEventStore.serves_listing {documents : List (StoredEventModel Object)}
    (distinct : (documents.map (·.position)).Nodup) (criterion : Criterion Object) :
    Serves (getEventsAfter documents criterion) (StoredEventModel.listing documents criterion) := by
  intro cursor limit nonempty
  have limited : limit ≠ 0 := by omega
  simp only [getEventsAfter,if_neg limited]
  rw [List.map_take,StoredEventModel.select_eq_after distinct]

def Paginates (getEventsFromPosition : Option Nat → Int → Turn Int (StoredEvent Object))
    (stored : List (StoredEvent Object)) (specification : Specification Object) : Prop :=
  ∀ position : Int, ∃ listing,
    Lists StoredEvent.place listing stored (fun event => position < event.place ∧ satisfied specification event = true) ∧
    ∀ limit : Option Nat, limit ≠ some 0 → Yields (getEventsFromPosition limit) position listing

theorem paginates_of_serves {getEventsAfter : Int → Nat → List (StoredEvent Object)}
    {listing stored : List (StoredEvent Object)} {specification : Specification Object}
    (serves : Serves getEventsAfter listing) (positioned : Positioned listing)
    (lists : Lists StoredEvent.place listing stored fun event => satisfied specification event = true) :
    Paginates (fun limit => streamFrom getEventsAfter (limit.getD 1000)) stored specification := by
  intro position
  refine ⟨after StoredEvent.place listing position,lists.after position,fun limit valid => ?_⟩
  have nonempty : 1 ≤ limit.getD 1000 := by
    cases limit with
    | none => decide
    | some size =>
      rw [Option.getD_some]
      have : size ≠ 0 := fun zero => valid (congrArg some zero)
      omega
  exact ⟨_,streamFrom_run serves lists.1 positioned _ nonempty position⟩

theorem InMemoryEventStore.getAll_lists {events : List (StoredEvent Object)} (indexed : Indexed events)
    (specification : Specification Object) :
    Lists StoredEvent.place (getAll events specification) events fun event => satisfied specification event = true :=
  ⟨indexed.increasing.filter _,fun _ => List.mem_filter⟩

/-- In the two databases the criterion that the specification is compiled to has to agree with it. -/
theorem pagination_yields_the_filter {Thing Part Column : Type} (databases : Databases Object Thing Part Column) :
    (∀ calls : List (InMemoryEventStore.Append Object), (∀ call ∈ calls, InMemoryEventStore.Unpositioned call) →
      ∀ specification : Specification Object,
        Paginates (InMemoryEventStore.getEventsFromPosition (InMemoryEventStore.contents calls) specification)
          (InMemoryEventStore.contents calls) specification ∧
        ∀ batchSize, 1 ≤ batchSize → ∃ batches,
          Yields (InMemoryEventStore.getAllStreaming (InMemoryEventStore.contents calls) batchSize specification)
            (-1) batches ∧
          batches.flatten = InMemoryEventStore.getAll (InMemoryEventStore.contents calls) specification) ∧
    (∀ table : List (StoredEventModel Object), (table.map (·.position)).Nodup → ∀ specification criterion,
      SQLAlchemyEventStore.applySpec databases specification = .ok criterion →
      Agrees table criterion (databases.verdict specification) →
        Paginates (SQLAlchemyEventStore.getEventsFromPosition table criterion)
          (table.map StoredEventModel.toDataclass) (databases.verdict specification)) ∧
    (∀ documents : List (StoredEventModel Object), (documents.map (·.position)).Nodup → ∀ specification criterion,
      MongoEventStore.mergeSpec databases specification = .ok criterion →
      Agrees documents criterion (databases.verdict specification) →
        Paginates (MongoEventStore.getEventsFromPosition documents criterion)
          (documents.map StoredEventModel.toDataclass) (databases.verdict specification)) := by
  refine ⟨fun calls fresh specification => ?_,fun table distinct specification criterion _ agrees => ?_,
    fun documents distinct specification criterion _ agrees => ?_⟩
  · have indexed := InMemoryEventStore.contents_indexed fresh
    have lists := InMemoryEventStore.getAll_lists indexed specification
    have serves := InMemoryEventStore.serves_getAll indexed.positioned specification
    refine ⟨paginates_of_serves serves (indexed.getAll_positioned specification) lists,fun batchSize nonempty => ?_⟩
    obtain ⟨batches,yields,joined⟩ := InMemoryEventStore.getAllStreaming_yields indexed.positioned indexed.increasing
      specification nonempty (-1)
    exact ⟨batches,yields,joined.trans (indexed.after_start specification)⟩
  · exact paginates_of_serves (SQLAlchemyEventStore.serves_listing distinct criterion)
      (StoredEventModel.listing_positioned table criterion) (StoredEventModel.listing_lists distinct agrees)
  · exact paginates_of_serves (MongoEventStore.serves_listing distinct criterion)
      (StoredEventModel.listing_positioned documents criterion) (StoredEventModel.listing_lists distinct agrees)

/-- An event of the aggregate `a`, as far as it matters to the concrete runs below. -/
def plainEvent (eventId : String) : EventSourcing.StoredEvent Unit :=
  {eventId := eventId, eventType := "E", aggregateId := "a", aggregateType := none, version := 1, schemaVersion := 1,
   payload := [], metadata := (), occurredAt := (), correlationId := none, causationId := none}

def plainModel (eventId : String) (position : Int) : StoredEventModel Unit :=
  {toStoredEvent := plainEvent eventId, position := position, tenantId := none}

section Texts

open Specifications ThreeValued

def tested (test : String → Bool) : Option (Value Empty) → Truth
  | some (.text content) => .ofBool (test content)
  | _ => .unknown

def texts : Databases Unit Empty (Fields Empty → Bool) (Fields Empty → Truth) where
  valueOf _ := .null
  runtime := Runtime.ascii
  registry := {
    getattr := fun _ _ => .null
    evaluate := fun op actual expected => match op,expected with
      | .ne,.text content => .ok !(actual.isText content)
      | _,_ => .error .valueError}
  compilePart data := match data with
    | [("op",.text "="),("attr",.text attr),("val",.text content)] =>
      .ok fun document => ((document.lookup attr).getD .null).isText content
    | [("op",.text "!="),("attr",.text attr),("val",.text content)] =>
      .ok fun document => !((document.lookup attr).getD .null).isText content
    | _ => .error (.raised .valueError)
  matched document part := part document
  matchedRaw _ _ := false
  compileColumn data _ := match data with
    | .dict [("op",.text "="),("attr",.text attr),("val",.text content)] =>
      .ok fun columns => tested (fun text => text = content) (columns.lookup attr)
    | .dict [("op",.text "!="),("attr",.text attr),("val",.text content)] =>
      .ok fun columns => tested (fun text => text ≠ content) (columns.lookup attr)
    | _ => .error .valueError
  truth row column := column (row.toDataclass.attributes fun _ => .null)

def named (eventId : String) : Specifications.Specification Empty := .attribute ⟨.text "event_id",.eq,.text eventId⟩

def uncorrelated : Specifications.Specification Empty := .attribute ⟨.text "correlation_id",.ne,.text "c1"⟩

end Texts

theorem pagination_yields_the_filter_with_gaps :
    (∃ criterion, SQLAlchemyEventStore.applySpec texts (some (.not (named "x"))) = .ok criterion ∧
      Paginates (SQLAlchemyEventStore.getEventsFromPosition [plainModel "x" 7,plainModel "y" 2,plainModel "z" 9] criterion)
        ([plainModel "x" 7,plainModel "y" 2,plainModel "z" 9].map StoredEventModel.toDataclass)
        (texts.verdict (some (.not (named "x"))))) ∧
    (∃ criterion, MongoEventStore.mergeSpec texts (some uncorrelated) = .ok criterion ∧
      Paginates (MongoEventStore.getEventsFromPosition [plainModel "x" 7,plainModel "y" 2] criterion)
        ([plainModel "x" 7,plainModel "y" 2].map StoredEventModel.toDataclass) (texts.verdict (some uncorrelated))) ∧
    Paginates (InMemoryEventStore.getEventsFromPosition (InMemoryEventStore.contents
        [.append ⟨plainEvent "x",none,none⟩,.appendBatch [⟨plainEvent "y",none,none⟩]]) none)
      (InMemoryEventStore.contents
        [.append ⟨plainEvent "x",none,none⟩,.appendBatch [⟨plainEvent "y",none,none⟩]]) none := by
  refine ⟨⟨_,rfl,?_⟩,⟨_,rfl,?_⟩,?_⟩
  · refine (pagination_yields_the_filter texts).2.1 _ (by decide) _ _ rfl fun model member => ?_
    simp only [List.mem_cons,List.not_mem_nil,or_false] at member
    rcases member with rfl | rfl | rfl
    all_goals rfl
  · refine (pagination_yields_the_filter texts).2.2 _ (by decide) _ _ rfl fun model member => ?_
    simp only [List.mem_cons,List.not_mem_nil,or_false] at member
    rcases member with rfl | rfl
    all_goals rfl
  · exact ((pagination_yields_the_filter texts).1 _
      (by simp [InMemoryEventStore.Unpositioned,InMemoryEventStore.Append.events]) none).1

theorem not_paginates {getEventsFromPosition : Option Nat → Int → Turn Int (StoredEvent Object)}
    {stored : List (StoredEvent Object)} {specification : Specification Object} {event : StoredEvent Object}
    (silent : Yields (getEventsFromPosition none) 0 []) (member : event ∈ stored) (behind : 0 < event.place)
    (wanted : satisfied specification event = true) : ¬Paginates getEventsFromPosition stored specification := by
  intro paginates
  obtain ⟨listing,lists,yields⟩ := paginates 0
  obtain rfl := (yields none (by simp)).unique silent
  exact List.not_mem_nil ((lists.2 event).mpr ⟨member,behind,wanted⟩)

/-- A comparison with a column that is null is not true to the SQL database, and no document has a field `event_id`. -/
theorem null_columns_and_event_ids_are_missed :
    (∃ criterion, SQLAlchemyEventStore.applySpec texts (some uncorrelated) = .ok criterion ∧
      ¬Paginates (SQLAlchemyEventStore.getEventsFromPosition [plainModel "x" 1,plainModel "y" 2] criterion)
        ([plainModel "x" 1,plainModel "y" 2].map StoredEventModel.toDataclass) (texts.verdict (some uncorrelated))) ∧
    ∃ criterion, MongoEventStore.mergeSpec texts (some (named "x")) = .ok criterion ∧
      ¬Paginates (MongoEventStore.getEventsFromPosition [plainModel "x" 1,plainModel "y" 2] criterion)
        ([plainModel "x" 1,plainModel "y" 2].map StoredEventModel.toDataclass) (texts.verdict (some (named "x"))) := by
  refine ⟨⟨_,rfl,?_⟩,⟨_,rfl,?_⟩⟩
  · exact not_paginates ⟨1,rfl⟩ List.mem_cons_self (by decide) rfl
  · exact not_paginates ⟨1,rfl⟩ List.mem_cons_self (by decide) rfl

end CqrsDdd.EventStores
