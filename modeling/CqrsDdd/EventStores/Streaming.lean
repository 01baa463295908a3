import CqrsDdd.EventStores.Pagination

/-! The batches of the SQL store. The stream counts the events it has yielded and
reads on behind that number, so that it is complete and free of duplicates exactly where the
numbers of the events that its criterion selects are their positions. -/
namespace CqrsDdd.EventStores

open Generator Paging StoredEventModel

variable {Object : Type}

namespace SQLAlchemyEventStore

/-- The stream ends, and its batches joined list every event that satisfies the
specification once, in increasing position. -/
def StreamsAll (table : List (StoredEventModel Object)) (batchSize : Nat) (criterion : Criterion Object)
    (specification : Specification Object) : Prop :=
  ∃ batches, Yields (getAllStreaming table batchSize criterion) 0 batches ∧
    Lists StoredEvent.place batches.flatten (table.map StoredEventModel.toDataclass)
      fun event => satisfied specification event = true

/-- The positions of the events that satisfy the specification are 1 up to their number. -/
def Gapless (table : List (StoredEventModel Object)) (specification : Specification Object) : Prop :=
  ∀ position : Int,
    (∃ model ∈ table, satisfied specification model.toDataclass = true ∧ model.position = position) ↔
      0 < position ∧ position ≤ table.countP fun model => satisfied specification model.toDataclass

theorem getAllStreaming_turn {table : List (StoredEventModel Object)} (distinct : (table.map (·.position)).Nodup)
    (criterion : Criterion Object) {batchSize : Nat} (nonempty : 1 ≤ batchSize) (offset : Int) :
    (after StoredEvent.place (StoredEventModel.listing table criterion) offset = [] ∧
      getAllStreaming table batchSize criterion offset = .stop []) ∨
    ∃ page, page = (after StoredEvent.place (StoredEventModel.listing table criterion) offset).take batchSize ∧
      1 ≤ page.length ∧
      getAllStreaming table batchSize criterion offset = .next [page] (offset + page.length) := by
  rw [getAllStreaming,serves_listing distinct criterion offset batchSize nonempty]
  cases behind : after StoredEvent.place (StoredEventModel.listing table criterion) offset with
  | nil => exact .inl ⟨rfl,by simp⟩
  | cons event rest =>
    obtain ⟨size,rfl⟩ : ∃ size, batchSize = size + 1 := ⟨batchSize - 1,by omega⟩
    exact .inr ⟨_,rfl,by simp,by simp⟩

theorem exists_bound (rows : List (StoredEvent Object)) : ∃ bound : Int, ∀ row ∈ rows, row.place ≤ bound := by
  induction rows with
  | nil => exact ⟨0,by simp⟩
  | cons row rest ih =>
    obtain ⟨bound,below⟩ := ih
    refine ⟨max row.place bound,fun other member => ?_⟩
    rcases List.mem_cons.mp member with rfl | later
    · exact le_max_left _ _
    · exact (below other later).trans (le_max_right _ _)

/-- The stream ends on every table; the number it reads behind passes every position. -/
theorem getAllStreaming_terminates {table : List (StoredEventModel Object)}
    (distinct : (table.map (·.position)).Nodup) (criterion : Criterion Object) {batchSize : Nat}
    (nonempty : 1 ≤ batchSize) (offset : Int) :
    ∃ batches, Yields (getAllStreaming table batchSize criterion) offset batches := by
  obtain ⟨bound,below⟩ := exists_bound (StoredEventModel.listing table criterion)
  have ended := @exists_yields _ _ (getAllStreaming table batchSize criterion) (fun _ => True)
    (fun _ _ => True) (fun offset => (bound - offset).toNat) (fun offset _ => ?_) offset trivial
  · obtain ⟨batches,yields,_⟩ := ended
    exact ⟨batches,yields⟩
  · rcases getAllStreaming_turn distinct criterion nonempty offset with ⟨_,stops⟩ | ⟨page,shape,counted,taken⟩
    · exact .inl ⟨[],stops,trivial⟩
    · refine .inr ⟨_,_,taken,trivial,?_,fun _ _ => trivial⟩
      obtain ⟨event,rest,cons⟩ := List.exists_cons_of_length_pos counted
      have member : event ∈ after StoredEvent.place (StoredEventModel.listing table criterion) offset :=
        List.mem_of_mem_take (shape ▸ cons ▸ List.mem_cons_self)
      obtain ⟨stored,ahead⟩ := List.mem_filter.mp member
      have low := below event stored
      rw [decide_eq_true_eq] at ahead
      omega

theorem drained_behind_count {table : List (StoredEventModel Object)} (distinct : (table.map (·.position)).Nodup)
    {criterion : Criterion Object} {batchSize : Nat} (nonempty : 1 ≤ batchSize) {offset : Int}
    {batches : List (List (StoredEvent Object))}
    (yields : Yields (getAllStreaming table batchSize criterion) offset batches) :
    after StoredEvent.place (StoredEventModel.listing table criterion) (offset + batches.flatten.length) = [] := by
  refine Yields.rec_on (motive := fun offset batches =>
    after StoredEvent.place (StoredEventModel.listing table criterion) (offset + batches.flatten.length) = [])
    (fun offset yielded stops => ?_) (fun offset later yielded rest taken _ ih => ?_) yields
  · rcases getAllStreaming_turn distinct criterion nonempty offset with ⟨drained,stop⟩ | ⟨_,_,_,goes⟩
    · obtain rfl : [] = yielded := Turn.stop.inj (stop.symm.trans stops)
      simpa using drained
    · exact absurd (goes.symm.trans stops) (by simp)
  · rcases getAllStreaming_turn distinct criterion nonempty offset with ⟨_,stop⟩ | ⟨page,_,_,goes⟩
    · exact absurd (stop.symm.trans taken) (by simp)
    · obtain ⟨rfl,rfl⟩ := Turn.next.inj (goes.symm.trans taken)
      rw [List.flatten_append,List.length_append,List.flatten_singleton]
      push_cast
      rw [← Int.add_assoc]
      exact ih

theorem length_listing {table : List (StoredEventModel Object)} {criterion : Criterion Object}
    {specification : Specification Object} (agrees : Agrees table criterion specification) :
    (StoredEventModel.listing table criterion).length =
      table.countP fun model => satisfied specification model.toDataclass := by
  rw [StoredEventModel.listing,List.length_map,(sorted_perm _).length_eq,← List.countP_eq_length_filter]
  exact List.countP_congr fun model member => by rw [agrees model member]

theorem mem_listing {table : List (StoredEventModel Object)} (distinct : (table.map (·.position)).Nodup)
    {criterion : Criterion Object} {specification : Specification Object}
    (agrees : Agrees table criterion specification) {event : StoredEvent Object} :
    event ∈ StoredEventModel.listing table criterion ↔
      ∃ model ∈ table, satisfied specification model.toDataclass = true ∧ model.toDataclass = event := by
  rw [(StoredEventModel.listing_lists distinct agrees).2 event,List.mem_map]
  constructor
  · rintro ⟨⟨model,stored,rfl⟩,verdict⟩
    exact ⟨model,stored,verdict,rfl⟩
  · rintro ⟨model,stored,verdict,rfl⟩
    exact ⟨⟨model,stored,rfl⟩,verdict⟩

theorem streamsAll_of_gapless {table : List (StoredEventModel Object)} (distinct : (table.map (·.position)).Nodup)
    {criterion : Criterion Object} {specification : Specification Object} (agrees : Agrees table criterion specification)
    {batchSize : Nat} (nonempty : 1 ≤ batchSize) (gapless : Gapless table specification) :
    StreamsAll table batchSize criterion specification := by
  have ordered := StoredEventModel.listing_increasing distinct criterion
  have fills : Fills StoredEvent.place 0 (StoredEventModel.listing table criterion) := by
    intro event member
    obtain ⟨model,stored,verdict,rfl⟩ := (mem_listing distinct agrees).mp member
    rw [length_listing agrees,Int.zero_add]
    exact (gapless model.position).mp ⟨model,stored,verdict,rfl⟩
  have counted : ∀ count : Nat, after StoredEvent.place (StoredEventModel.listing table criterion) count =
      (StoredEventModel.listing table criterion).drop count := by
    intro count
    rw [← Int.zero_add (count : Int)]
    exact ordered.after_eq_drop fills count
  -- The cursor is the number of events yielded, and that many have been dropped from the listing.
  obtain ⟨batches,yields,joined⟩ := @exists_yields _ _ (getAllStreaming table batchSize criterion)
    (fun offset => ∃ count : Nat, offset = count)
    (fun offset batches =>
      batches.flatten = after StoredEvent.place (StoredEventModel.listing table criterion) offset)
    (fun offset => (after StoredEvent.place (StoredEventModel.listing table criterion) offset).length)
    (fun offset reached => by
      obtain ⟨count,rfl⟩ := reached
      rcases getAllStreaming_turn distinct criterion nonempty count with
        ⟨drained,stops⟩ | ⟨page,shape,some,taken⟩
      · exact .inl ⟨[],stops,by rw [drained,List.flatten_nil]⟩
      · have rest : after StoredEvent.place (StoredEventModel.listing table criterion) (count + page.length) =
            ((StoredEventModel.listing table criterion).drop count).drop page.length := by
          rw [List.drop_drop,← counted]
          push_cast
          rfl
        rw [counted] at shape
        have split : (StoredEventModel.listing table criterion).drop count =
            page ++ ((StoredEventModel.listing table criterion).drop count).drop page.length := by
          rw [shape]
          exact (List.prefix_iff_eq_append.mp (List.take_prefix _ _)).symm
        refine .inr ⟨_,_,taken,⟨count + page.length,by push_cast; rfl⟩,?_,fun batches joined => ?_⟩
        · rw [rest,counted,split,List.drop_left,List.length_append]
          omega
        · rw [List.flatten_append,List.flatten_singleton,joined,rest,counted]
          exact split.symm)
    0 ⟨0,rfl⟩
  refine ⟨batches,yields,?_⟩
  have whole : after StoredEvent.place (StoredEventModel.listing table criterion) 0 =
      StoredEventModel.listing table criterion := counted 0
  rw [joined,whole]
  exact StoredEventModel.listing_lists distinct agrees

theorem gapless_of_streamsAll {table : List (StoredEventModel Object)} (distinct : (table.map (·.position)).Nodup)
    (positive : ∀ model ∈ table, 0 < model.position) {criterion : Criterion Object} {specification : Specification Object}
    (agrees : Agrees table criterion specification) {batchSize : Nat} (nonempty : 1 ≤ batchSize)
    (streams : StreamsAll table batchSize criterion specification) : Gapless table specification := by
  obtain ⟨batches,yields,lists⟩ := streams
  have whole := lists.unique (StoredEventModel.listing_lists distinct agrees)
  have drained := drained_behind_count distinct nonempty yields
  rw [whole] at drained
  have fills : Fills StoredEvent.place 0 (StoredEventModel.listing table criterion) := by
    intro event member
    obtain ⟨model,stored,_,rfl⟩ := (mem_listing distinct agrees).mp member
    refine ⟨positive model stored,?_⟩
    have passed := List.filter_eq_nil_iff.mp drained _ member
    simpa using passed
  have ordered := StoredEventModel.listing_increasing distinct criterion
  intro position
  constructor
  · rintro ⟨model,stored,verdict,rfl⟩
    have bounds := fills _ ((mem_listing distinct agrees).mpr ⟨model,stored,verdict,rfl⟩)
    rw [length_listing agrees,Int.zero_add] at bounds
    exact bounds
  · rintro ⟨above,below⟩
    obtain ⟨count,rfl⟩ : ∃ count : Nat, position = count + 1 := ⟨(position - 1).toNat,by omega⟩
    rw [← length_listing agrees] at below
    have room : count < (StoredEventModel.listing table criterion).length := by omega
    have found := List.getElem?_eq_getElem room
    have placed := ordered.position_of_fills fills found
    obtain ⟨model,stored,verdict,same⟩ := (mem_listing distinct agrees).mp (List.mem_of_getElem? found)
    refine ⟨model,stored,verdict,?_⟩
    rw [← same,StoredEventModel.toDataclass_place] at placed
    omega

/-- For a specification whose criterion selects the stored events that satisfy it. -/
theorem streams_all_iff_gapless {Thing Part Column : Type} (databases : Databases Object Thing Part Column)
    (table : List (StoredEventModel Object)) (distinct : (table.map (·.position)).Nodup)
    (positive : ∀ model ∈ table, 0 < model.position) (batchSize : Nat) (nonempty : 1 ≤ batchSize)
    (specification : Option (Specifications.Specification Thing)) (criterion : Criterion Object)
    (_ : applySpec databases specification = .ok criterion)
    (agrees : Agrees table criterion (databases.verdict specification)) :
    StreamsAll table batchSize criterion (databases.verdict specification) ↔
      Gapless table (databases.verdict specification) :=
  ⟨gapless_of_streamsAll distinct positive agrees nonempty,streamsAll_of_gapless distinct agrees nonempty⟩

theorem streams_all_iff_gapless_of_three : ∃ criterion, applySpec texts (some (.not (named "z"))) = .ok criterion ∧
    (StreamsAll [plainModel "y" 2,plainModel "z" 3,plainModel "x" 1] 1 criterion
        (texts.verdict (some (.not (named "z")))) ↔
      Gapless [plainModel "y" 2,plainModel "z" 3,plainModel "x" 1] (texts.verdict (some (.not (named "z"))))) := by
  refine ⟨_,rfl,streams_all_iff_gapless texts _ (by decide) (by decide) 1 (by decide) _ _ rfl fun model member => ?_⟩
  simp only [List.mem_cons,List.not_mem_nil,or_false] at member
  rcases member with rfl | rfl | rfl
  all_goals rfl

/-- With the positions 1 and 3 the second event is yielded twice. -/
theorem event_behind_a_gap_is_streamed_twice :
    ([plainModel "x" 1,plainModel "y" 3].map (·.position)).Nodup ∧
    (∀ model ∈ [plainModel "x" 1,plainModel "y" 3], 0 < model.position) ∧
    Yields (getAllStreaming [plainModel "x" 1,plainModel "y" 3] 1 none) 0
      [[(plainModel "x" 1).toDataclass],[(plainModel "y" 3).toDataclass],[(plainModel "y" 3).toDataclass]] ∧
    ¬ StreamsAll [plainModel "x" 1,plainModel "y" 3] 1 none none := by
  have stream : Yields (getAllStreaming [plainModel "x" 1,plainModel "y" 3] 1 none) 0
      [[(plainModel "x" 1).toDataclass],[(plainModel "y" 3).toDataclass],[(plainModel "y" 3).toDataclass]] :=
    ⟨4,rfl⟩
  refine ⟨by decide,by decide,stream,fun streams => ?_⟩
  obtain ⟨batches,yields,ordered,_⟩ := streams
  obtain rfl := yields.unique stream
  obtain ⟨_,tail⟩ := List.pairwise_cons.mp ordered
  exact absurd (List.rel_of_pairwise_cons tail List.mem_cons_self) (by decide)

end SQLAlchemyEventStore

end CqrsDdd.EventStores
