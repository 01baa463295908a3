import CqrsDdd.Searching.SearchResults

/-! Whether the list and the stream of a search agree. They do for the SQL repository where the statement
runs, for the one in memory where it is given a specification, both where the specification answers on
every candidate, and for projections where the list is not cut off. -/
namespace CqrsDdd.Searching

open Generator Attempts

variable {Spec Entity : Type} {specs : Specifications Spec Entity}

/-- Neither access raises, and the stream ends with the items of the list for every batch size. -/
def Agrees {Item : Type} (result : SearchResult Item) : Prop :=
  ∃ items, result.list = .ok items ∧ ∀ batchSize, (∀ size ∈ batchSize, 1 ≤ size) →
    ∃ fuel, result.stream batchSize fuel = some (items,.returned)

theorem batchOr_pos (batchSize : Option Nat) {default : Nat} (positive : 1 ≤ default) : 1 ≤ batchOr batchSize default := by
  unfold batchOr
  split
  next => omega
  next => exact positive

theorem decided {attempt : Except Failure Bool} (answers : ∃ satisfied, attempt = .ok satisfied) :
    attempt = .ok (attempt.toOption.getD false) := by
  obtain ⟨satisfied,rfl⟩ := answers
  exact rfl

namespace InMemoryRepository

theorem batches_all (items : List Entity) {batch : Nat} (positive : 1 ≤ batch) :
    run (batches items batch) (items.length + 1) 0 = some (items,.returned) := by
  refine run_of_measure (fun _ => True) (fun index => items.drop index) (fun index => items.length - index)
    (fun index _ => ?_) 0 trivial
  by_cases past : items.length ≤ index
  · left
    rw [batches,if_pos past,List.drop_eq_nil_of_le past]
  · refine .inr ⟨_,index + batch,if_neg past,trivial,by omega,?_⟩
    rw [← List.drop_drop,List.take_append_drop]

/-- The criteria are a specification that answers on every candidate, if there is one. -/
def Answers (specs : Specifications Spec Entity) (store : List Entity) (criteria : Criteria Spec) : Prop :=
  store = [] ∨ ∃ spec, criteria = .specification spec ∧
    ∀ entity ∈ store, ∃ satisfied, specs.isSatisfiedBy spec entity = .ok satisfied

theorem search_agrees_iff (store : List Entity) (criteria : Criteria Spec) :
    Agrees (search specs store criteria) ↔ Answers specs store criteria := by
  constructor
  · rintro ⟨items,listed,_⟩
    cases criteria with
    | specification spec => exact .inr ⟨spec,rfl,Attempts.select_answered listed⟩
    | options options =>
      cases store with
      | nil => exact .inl rfl
      | cons entity rest => cases listed
  · intro condition
    have listed : ∃ items, listFn (isSatisfiedBy specs) store criteria = .ok items := by
      rcases condition with rfl | ⟨spec,rfl,answers⟩
      · exact ⟨[],rfl⟩
      · exact ⟨_,Attempts.select_of_answers fun entity member => decided (answers entity member)⟩
    obtain ⟨items,listed⟩ := listed
    refine ⟨items,listed,fun batchSize _ => ⟨items.length + 1,?_⟩⟩
    change streamFn specs store criteria batchSize (items.length + 1) = _
    rw [streamFn,listed]
    exact batches_all items (batchOr_pos batchSize (Nat.le_max_right _ _))

end InMemoryRepository

namespace SQLAlchemyRepository

variable {Clause Model : Type} {table : Table Spec Clause Model Entity} {spec : Option Spec}

/-- The specification, if there is one, answers on what is made of these models. -/
def Answered (specs : Specifications Spec Entity) (table : Table Spec Clause Model Entity) (spec : Option Spec)
    (models : List Model) : Prop :=
  ∀ specified ∈ spec, ∀ model ∈ models, ∃ satisfied, specs.isSatisfiedBy specified (table.fromModel model) = .ok satisfied

/-- What both accesses have of such models. -/
def executed (specs : Specifications Spec Entity) (table : Table Spec Clause Model Entity) (spec : Option Spec)
    (models : List Model) : List Entity :=
  match spec with
  | some spec => (models.map table.fromModel).filter fun entity => (specs.isSatisfiedBy spec entity).toOption.getD false
  | none => models.map table.fromModel

theorem executeSearch_ok {options : Option (QueryOptions Spec)} {selected : List Model}
    (run : models table spec options = .ok selected) (answered : Answered specs table spec selected) :
    executeSearch specs table spec options = .ok (executed specs table spec selected) := by
  refine bind_ok.mpr ⟨selected,run,?_⟩
  cases spec with
  | none => exact rfl
  | some spec =>
    refine Attempts.select_of_answers fun entity member => ?_
    obtain ⟨model,inside,rfl⟩ := List.mem_map.mp member
    exact decided (answered spec rfl model inside)

theorem streamed_all {models : List Model} (answered : Answered specs table spec models) :
    run (streamed specs table spec) (models.length + 1) models = some (executed specs table spec models,.returned) := by
  refine run_of_measure (Answered specs table spec) (executed specs table spec) List.length
    (fun models answered => ?_) models answered
  cases models with
  | nil =>
    left
    cases spec with
    | some spec => exact rfl
    | none => exact rfl
  | cons model rest =>
    right
    have later : Answered specs table spec rest := fun specified given other member =>
      answered specified given other (List.mem_cons_of_mem model member)
    cases spec with
    | none => exact ⟨_,rest,rfl,later,Nat.lt_succ_self _,rfl⟩
    | some spec =>
      obtain ⟨satisfied,answer⟩ := answered spec rfl model List.mem_cons_self
      unfold streamed executed
      dsimp only
      rw [List.map_cons,List.filter_cons,answer]
      cases satisfied with
      | true => exact ⟨_,rest,rfl,later,Nat.lt_succ_self _,rfl⟩
      | false => exact ⟨_,rest,rfl,later,Nat.lt_succ_self _,rfl⟩

/-- The statement compiles and runs, and the specification answers on every candidate that it selects. -/
def Runs (specs : Specifications Spec Entity) (table : Table Spec Clause Model Entity) (criteria : Criteria Spec) : Prop :=
  ∃ selected, models table (normaliseCriteria specs criteria).1 (normaliseCriteria specs criteria).2 = .ok selected ∧
    Answered specs table (normaliseCriteria specs criteria).1 selected

theorem search_agrees_iff (table : Table Spec Clause Model Entity) (criteria : Criteria Spec) :
    Agrees (search specs table criteria) ↔ Runs specs table criteria := by
  unfold search Runs
  dsimp only
  generalize (normaliseCriteria specs criteria).1 = spec
  generalize (normaliseCriteria specs criteria).2 = options
  constructor
  · intro ⟨items,listed,_⟩
    obtain ⟨selected,run,returned⟩ := bind_ok.mp listed
    refine ⟨selected,run,fun specified given model member => ?_⟩
    cases given
    exact Attempts.select_answered returned _ (List.mem_map_of_mem member)
  · intro ⟨selected,run,answered⟩
    refine ⟨_,executeSearch_ok run answered,fun batchSize _ => ⟨selected.length + 1,?_⟩⟩
    change executeStream specs table spec options _ = _
    rw [executeStream,run]
    exact streamed_all answered

end SQLAlchemyRepository

namespace ProjectionBackedSpecPersistence

variable {Filter Doc Result : Type}

/-- The list goes to the end of the result, and a missing limit or offset is one that the reader takes:
without an offset both accesses find nothing. -/
def Complete (persistence : Persistence Spec Filter Doc Result) (filter : Filter) : Option Nat → Option Nat → Prop
  | some limit,some offset => (persistence.reader.docs filter).length ≤ offset + limit
  | none,some offset => (persistence.reader.find filter none (some offset)).map (List.map persistence.toDto) =
      .ok (((persistence.reader.docs filter).drop offset).map persistence.toDto)
  | limit,none => persistence.reader.find filter limit none = .ok [] ∧
      ∀ size, 1 ≤ size → persistence.reader.find filter (some size) none = .ok []

theorem page_all (persistence : Persistence Spec Filter Doc Result) (filter : Filter) {batchSize : Nat}
    (positive : 1 ≤ batchSize) (offset : Nat) :
    run (page persistence filter batchSize) ((persistence.reader.docs filter).length - offset + 1) (some offset) =
      some (((persistence.reader.docs filter).drop offset).map persistence.toDto,.returned) := by
  refine run_of_measure (fun state => ∃ offset, state = some offset)
    (fun state => ((persistence.reader.docs filter).drop (state.getD 0)).map persistence.toDto)
    (fun state => (persistence.reader.docs filter).length - state.getD 0) (fun state present => ?_) (some offset)
    ⟨offset,rfl⟩
  obtain ⟨offset,rfl⟩ := present
  rw [page,persistence.reader.sliced]
  dsimp only [Option.getD_some]
  split
  next empty =>
    left
    have nothing := List.isEmpty_iff.mp empty
    rcases List.take_eq_nil_iff.mp nothing with none | past
    · omega
    · rw [past]
      exact rfl
  next more =>
    refine .inr ⟨_,some (offset + batchSize),rfl,⟨_,rfl⟩,?_,?_⟩
    · have short : ¬ (persistence.reader.docs filter).length ≤ offset := by
        intro past
        rw [List.drop_eq_nil_of_le past] at more
        exact more (by simp)
      rw [Option.getD_some]
      omega
    · rw [Option.getD_some,← List.map_append,← List.drop_drop,List.take_append_drop]

theorem page_none {persistence : Persistence Spec Filter Doc Result} {filter : Filter} {batchSize fuel : Nat}
    {items : List Result} (ended : run (page persistence filter batchSize) fuel none = some (items,.returned)) :
    items = [] ∧ persistence.reader.find filter (some batchSize) none = .ok [] := by
  cases fuel with
  | zero => cases ended
  | succ fuel =>
    rw [run,page] at ended
    cases found : persistence.reader.find filter (some batchSize) none with
    | error failure =>
      rw [found] at ended
      cases ended
    | ok docs =>
      rw [found] at ended
      cases docs with
      | nil =>
        cases ended
        exact ⟨rfl,rfl⟩
      | cons doc rest => cases ended

theorem fetch_agrees_iff (persistence : Persistence Spec Filter Doc Result) (criteria : Criteria Spec) :
    Agrees (fetch specs persistence criteria) ↔
      Complete persistence (persistence.buildFilter (unpack specs criteria).1) (unpack specs criteria).2.1
        (unpack specs criteria).2.2 := by
  unfold fetch
  dsimp only
  generalize persistence.buildFilter (unpack specs criteria).1 = filter
  generalize (unpack specs criteria).2.1 = limit
  cases (unpack specs criteria).2.2 with
  | some offset =>
    have streams (batchSize : Option Nat) : Yields (page persistence filter (batchOr batchSize 100)) (some offset)
        (((persistence.reader.docs filter).drop offset).map persistence.toDto) :=
      ⟨_,page_all persistence filter (batchOr_pos batchSize (by omega)) offset⟩
    have listed : Agrees ⟨(persistence.reader.find filter limit (some offset)).map (List.map persistence.toDto),
        fun batchSize fuel => run (page persistence filter (batchOr batchSize 100)) fuel (some offset)⟩ ↔
        (persistence.reader.find filter limit (some offset)).map (List.map persistence.toDto) =
          .ok (((persistence.reader.docs filter).drop offset).map persistence.toDto) := by
      constructor
      · rintro ⟨items,found,ends⟩
        have same := Yields.unique (ends none fun _ absent => by cases absent) (streams none)
        exact same ▸ found
      · exact fun found => ⟨_,found,fun batchSize _ => streams batchSize⟩
    rw [listed]
    cases limit with
    | none => exact Iff.rfl
    | some limit =>
      rw [persistence.reader.sliced]
      constructor
      · intro same
        have lengths := congrArg List.length (Except.ok.inj same)
        rw [List.length_map,List.length_map,List.length_take,List.length_drop] at lengths
        change (persistence.reader.docs filter).length ≤ offset + limit
        omega
      · intro whole
        change (persistence.reader.docs filter).length ≤ offset + limit at whole
        have all : ((persistence.reader.docs filter).drop offset).take limit = (persistence.reader.docs filter).drop offset :=
          List.take_of_length_le (by rw [List.length_drop]; omega)
        rw [all]
        exact rfl
  | none =>
    have complete : Complete persistence filter limit none ↔ persistence.reader.find filter limit none = .ok [] ∧
        ∀ size, 1 ≤ size → persistence.reader.find filter (some size) none = .ok [] := by
      cases limit with
      | none => exact Iff.rfl
      | some limit => exact Iff.rfl
    rw [complete]
    constructor
    · rintro ⟨items,found,ends⟩
      have sized (size : Nat) (positive : 1 ≤ size) :
          items = [] ∧ persistence.reader.find filter (some size) none = .ok [] := by
        obtain ⟨more,rfl⟩ := Nat.exists_eq_add_of_le' positive
        obtain ⟨fuel,ended⟩ := ends (some (more + 1)) fun size member => by
          cases member
          exact positive
        exact page_none ended
      refine ⟨?_,fun size positive => (sized size positive).2⟩
      cases answer : persistence.reader.find filter limit none with
      | error failure =>
        rw [answer] at found
        cases found
      | ok docs =>
        rw [answer] at found
        have none : docs.map persistence.toDto = [] := (Except.ok.inj found).trans (sized 1 (Nat.le_refl 1)).1
        rw [List.map_eq_nil_iff.mp none]
    · rintro ⟨found,empty⟩
      refine ⟨[],?_,fun batchSize _ => ⟨1,?_⟩⟩
      · change (persistence.reader.find filter limit none).map _ = _
        rw [found]
        exact rfl
      · change run (page persistence filter (batchOr batchSize 100)) 1 none = _
        rw [run,page,empty _ (batchOr_pos batchSize (by omega))]
        exact rfl

end ProjectionBackedSpecPersistence

/-- The list and the stream of a search agree in memory where the criteria are a specification that answers, or nothing
is stored; for the SQL repository where the statement runs and the specification answers; for projections where the
list is complete. -/
theorem searches_agree_iff {Clause Model Filter Doc Result : Type} (specs : Specifications Spec Entity)
    (store : List Entity) (table : SQLAlchemyRepository.Table Spec Clause Model Entity)
    (persistence : ProjectionBackedSpecPersistence.Persistence Spec Filter Doc Result) (criteria : Criteria Spec) :
    (Agrees (InMemoryRepository.search specs store criteria) ↔ InMemoryRepository.Answers specs store criteria) ∧
      (Agrees (SQLAlchemyRepository.search specs table criteria) ↔ SQLAlchemyRepository.Runs specs table criteria) ∧
      (Agrees (ProjectionBackedSpecPersistence.fetch specs persistence criteria) ↔
        ProjectionBackedSpecPersistence.Complete persistence
          (persistence.buildFilter (ProjectionBackedSpecPersistence.unpack specs criteria).1)
          (ProjectionBackedSpecPersistence.unpack specs criteria).2.1
          (ProjectionBackedSpecPersistence.unpack specs criteria).2.2) :=
  ⟨InMemoryRepository.search_agrees_iff store criteria,SQLAlchemyRepository.search_agrees_iff table criteria,
    ProjectionBackedSpecPersistence.fetch_agrees_iff persistence criteria⟩

def sliceRows (rows : List Nat) : Option Nat → Option Nat → Except Failure (List Nat)
  | some limit,some offset => .ok ((rows.drop offset).take limit)
  | _,_ => .error .typeError

theorem sliceRows_sliced (rows : List Nat) (_ : Unit) (limit offset : Nat) :
    sliceRows rows (some limit) (some offset) = .ok ((rows.drop offset).take limit) := rfl

def numbers (rows : List Nat) : ProjectionBackedSpecPersistence.Persistence Unit Unit Nat Nat :=
  ⟨⟨fun _ => rows,fun _ => sliceRows rows,sliceRows_sliced rows⟩,fun _ => (),id⟩

def anySpecification : Specifications Unit Nat := ⟨fun _ _ => .ok true,fun _ => none⟩

/-- The list stops at the limit and the stream does not; without an offset both raise. -/
theorem the_stream_ignores_the_limit :
    ¬ Agrees (ProjectionBackedSpecPersistence.fetch anySpecification (numbers [1,2])
      (.options ⟨some (),some 1,some 0,[],false,[],[]⟩)) ∧
    ¬ Agrees (ProjectionBackedSpecPersistence.fetch anySpecification (numbers [1,2])
      (.options ⟨some (),some 1,none,[],false,[],[]⟩)) ∧
    ¬ Agrees (InMemoryRepository.search anySpecification [1] (.options ⟨some (),none,none,[],false,[],[]⟩)) := by
  refine ⟨?_,?_,?_⟩
  · rintro ⟨items,listed,ends⟩
    obtain rfl : [1] = items := Except.ok.inj listed
    obtain ⟨fuel,ended⟩ := ends (some 2) fun size member => by
      cases member
      omega
    have whole : run (ProjectionBackedSpecPersistence.page (numbers [1,2]) () 2) 2 (some 0) =
        some ([1,2],.returned) := rfl
    have same := Yields.unique ⟨fuel,ended⟩ ⟨2,whole⟩
    cases same
  · rintro ⟨items,listed,_⟩
    cases listed
  · rintro ⟨items,listed,_⟩
    cases listed

end CqrsDdd.Searching
