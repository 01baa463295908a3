import CqrsDdd.Attempts
import CqrsDdd.Dict
import CqrsDdd.Multitenancy.Repository

/-! The repository port as a decorator sees it, and two implementations of it. What is
kept are rows with distinct ids; reads filter them by what the call admits, and writes
leave the rows of other ids alone. -/
namespace CqrsDdd.Caching

section
variable {Id Entity Failure : Type} [DecidableEq Id]

def keptIn (identity : Entity → Id) (rows : List Entity) (id : Id) : Option Entity :=
  rows.find? fun entity => identity entity = id

def readOne (admits : Entity → Except Failure Bool) : Option Entity → Except Failure (Option Entity)
  | none => .ok none
  | some entity => do if ← admits entity then return some entity else return none

theorem keptIn_identity {identity : Entity → Id} {rows : List Entity} {id : Id} {entity : Entity}
    (kept : keptIn identity rows id = some entity) : identity entity = id := by
  have matched := List.find?_some kept
  exact of_decide_eq_true matched

theorem keptIn_mem {identity : Entity → Id} {rows : List Entity} {id : Id} {entity : Entity}
    (kept : keptIn identity rows id = some entity) : entity ∈ rows :=
  List.mem_of_find?_eq_some kept

theorem keptIn_of_mem {identity : Entity → Id} {rows : List Entity} (distinct : (rows.map identity).Nodup)
    {entity : Entity} (member : entity ∈ rows) : keptIn identity rows (identity entity) = some entity := by
  induction rows with
  | nil => cases member
  | cons first rest ih =>
    rw [List.map_cons,List.nodup_cons] at distinct
    unfold keptIn
    rcases List.mem_cons.mp member with rfl | later
    · exact List.find?_cons_of_pos (decide_eq_true rfl)
    · rw [List.find?_cons_of_neg]
      · exact ih distinct.2 later
      · intro same
        apply distinct.1
        rw [of_decide_eq_true same]
        exact List.mem_map_of_mem later

end

/-- A call that raises writes nothing. `admission` is the filter that a call applies to the rows. -/
structure IRepository (State Context Id Entity Spec Failure : Type) [DecidableEq Id] where
  identity : Entity → Id
  rows : State → List Entity
  admission : Context → Option Spec → Except Failure (Entity → Except Failure Bool)
  add : Context → Entity → State → Except Failure (State × Id)
  get : Context → Id → Option Spec → State → Except Failure (Option Entity)
  delete : Context → Id → Option Spec → State → Except Failure (State × Id)
  listAll : Context → Option (List Id) → Option Spec → State → Except Failure (List Entity)
  distinct : ∀ state, ((rows state).map identity).Nodup
  get_reads : ∀ context id spec state, get context id spec state =
    admission context spec >>= fun admits => readOne admits (keptIn identity (rows state) id)
  listAll_selects : ∀ context ids spec state, listAll context ids spec state =
    admission context spec >>= fun admits => Attempts.select admits
      ((rows state).filter fun entity => ids.all fun asked => decide (identity entity ∈ asked))
  add_others : ∀ context entity state after id, add context entity state = .ok (after,id) → ∀ other, other ≠ id →
    keptIn identity (rows after) other = keptIn identity (rows state) other
  delete_others : ∀ context id spec state after deleted, delete context id spec state = .ok (after,deleted) →
    ∀ other, other ≠ deleted → keptIn identity (rows after) other = keptIn identity (rows state) other

section
open Multitenancy Specifications

variable {Id Object : Type} [DecidableEq Id]

abbrev KeyedStore (Id Object : Type) [DecidableEq Id] :=
  {store : Store Id Object // ∀ entry ∈ store.entries, entry.2.entity.id = entry.1}

namespace KeyedStore

def rows (store : KeyedStore Id Object) : List (Entity Id Object) := store.val.values.map Stored.entity

theorem identities (store : KeyedStore Id Object) : store.rows.map Entity.id = store.val.keys := by
  unfold rows Dict.values Dict.keys
  rw [List.map_map,List.map_map]
  exact List.map_congr_left store.property

theorem rows_distinct (store : KeyedStore Id Object) : (store.rows.map Entity.id).Nodup := by
  rw [identities]
  exact store.val.distinct

theorem keptIn_rows (store : KeyedStore Id Object) (id : Id) :
    keptIn Entity.id store.rows id = (store.val.get id).map Stored.entity := by
  cases found : store.val.get id with
  | some stored =>
    have member := Dict.mem_of_lookup found
    have own : stored.entity.id = id := store.property _ member
    rw [← own]
    exact keptIn_of_mem store.rows_distinct
      (List.mem_map_of_mem (List.mem_map_of_mem (f := Prod.snd) member))
  | none =>
    rw [Option.map_none]
    apply List.find?_eq_none.mpr
    intro entity member same
    have known : id ∈ store.val.keys := by
      rw [← identities,← of_decide_eq_true same]
      exact List.mem_map_of_mem member
    obtain ⟨entry,present,rfl⟩ := List.mem_map.mp known
    rw [(Dict.mem_iff_get store.val).mp present] at found
    cases found

theorem rows_asked (store : KeyedStore Id Object) (ids : Option (List Id)) :
    (InMemoryRepository.candidates store.val ids).map Stored.entity =
      store.rows.filter fun entity => ids.all fun asked => decide (entity.id ∈ asked) := by
  cases ids with
  | none => exact (List.filter_true _).symm
  | some asked =>
    unfold rows InMemoryRepository.candidates Dict.values
    rw [List.map_map,List.map_map,List.filter_map]
    apply congrArg
    apply List.filter_congr
    intro entry member
    have own := store.property entry member
    simp only [Option.all_some,Function.comp_apply,own]

def add (store : KeyedStore Id Object) (stored : Stored Id Object) : KeyedStore Id Object :=
  ⟨InMemoryRepository.add store.val stored,by
    intro entry member
    have found := (Dict.mem_iff_get _).mp member
    rw [InMemoryRepository.add,Dict.get_set] at found
    split at found
    next same => rw [← Option.some.inj found,same]
    next => exact store.property entry ((Dict.mem_iff_get _).mpr found)⟩

def erase (store : KeyedStore Id Object) (id : Id) : KeyedStore Id Object :=
  ⟨store.val.erase id,fun entry member => store.property entry (List.mem_filter.mp member).1⟩

theorem deleted {store : KeyedStore Id Object} {id : Id} {specification : Option (ISpecification Id Object)}
    {after : Store Id Object} (returned : InMemoryRepository.delete store.val id specification = .ok after) :
    after = store.val ∨ after = (store.erase id).val := by
  unfold InMemoryRepository.delete at returned
  split at returned
  next =>
    obtain ⟨satisfied,_,returned⟩ := Attempts.bind_ok.mp returned
    split at returned
    next => exact .inr (Attempts.pure_ok.mp returned).symm
    next => exact .inl (Attempts.pure_ok.mp returned).symm
  next => exact .inr (Except.ok.inj returned).symm

theorem deleted_keyed {store : KeyedStore Id Object} {id : Id} {specification : Option (ISpecification Id Object)}
    {after : Store Id Object} (returned : InMemoryRepository.delete store.val id specification = .ok after) :
    ∀ entry ∈ after.entries, entry.2.entity.id = entry.1 := by
  rcases deleted returned with rfl | rfl
  · exact store.property
  · exact (store.erase id).property

def delete (store : KeyedStore Id Object) (id : Id) (specification : Option (ISpecification Id Object)) :
    Except (Failure Object) (KeyedStore Id Object) :=
  match returned : InMemoryRepository.delete store.val id specification with
  | .ok after => .ok ⟨after,deleted_keyed returned⟩
  | .error failure => .error failure

theorem delete_others {store after : KeyedStore Id Object} {id : Id}
    {specification : Option (ISpecification Id Object)} (returned : store.delete id specification = .ok after)
    {other : Id} (differs : other ≠ id) : keptIn Entity.id after.rows other = keptIn Entity.id store.rows other := by
  unfold delete at returned
  split at returned
  next left erased =>
    cases returned
    rw [keptIn_rows,keptIn_rows]
    rcases deleted erased with rfl | rfl
    · rfl
    · exact congrArg _ (Dict.get_erase_other store.val differs)
  next => cases returned

theorem add_others (store : KeyedStore Id Object) (stored : Stored Id Object) {other : Id}
    (differs : other ≠ stored.entity.id) :
    keptIn Entity.id (store.add stored).rows other = keptIn Entity.id store.rows other := by
  rw [keptIn_rows,keptIn_rows]
  exact congrArg _ (Dict.get_set_other store.val stored differs)

def lift (call : Except (Failure Object) (Store Id Object × Id))
    (keyed : ∀ after id, call = .ok (after,id) → ∀ entry ∈ after.entries, entry.2.entity.id = entry.1) :
    Except (Failure Object) (KeyedStore Id Object × Id) :=
  match call,keyed with
  | .ok (after,id),keyed => .ok (⟨after,keyed after id rfl⟩,id)
  | .error failure,_ => .error failure

theorem lift_ok {call : Except (Failure Object) (Store Id Object × Id)}
    {keyed : ∀ after id, call = .ok (after,id) → ∀ entry ∈ after.entries, entry.2.entity.id = entry.1}
    {after : KeyedStore Id Object} {id : Id} (returned : lift call keyed = .ok (after,id)) :
    call = .ok (after.val,id) := by
  cases call with
  | ok left =>
    cases returned
    rfl
  | error failure => cases returned

end KeyedStore

def admits (specification : Option (ISpecification Id Object)) (entity : Entity Id Object) :
    Except (Failure Object) Bool :=
  match specification with
  | some specification => specification.isSatisfiedBy entity
  | none => .ok true

theorem get_admits (store : KeyedStore Id Object) (id : Id) (specification : Option (ISpecification Id Object)) :
    InMemoryRepository.get store.val id specification =
      readOne (admits specification) (keptIn Entity.id store.rows id) := by
  rw [KeyedStore.keptIn_rows]
  unfold InMemoryRepository.get
  cases store.val.get id with
  | none => rfl
  | some stored =>
    cases specification with
    | none => rfl
    | some specification => rfl

omit [DecidableEq Id] in
theorem matching_admits (specification : Option (ISpecification Id Object)) (candidates : List (Stored Id Object)) :
    InMemoryRepository.matching specification candidates =
      Attempts.select (admits specification) (candidates.map Stored.entity) := by
  cases specification with
  | none =>
    have every : Attempts.select (admits (none : Option (ISpecification Id Object))) (candidates.map Stored.entity) =
        .ok ((candidates.map Stored.entity).filter fun _ => true) := Attempts.select_of_answers fun _ _ => rfl
    rw [every,List.filter_true]
    rfl
  | some specification => exact Attempts.select_map _ _ _

def inMemoryRepository (Id Object : Type) [DecidableEq Id] :
    IRepository (KeyedStore Id Object) Unit Id (Entity Id Object) (ISpecification Id Object) (Failure Object) where
  identity := Entity.id
  rows := KeyedStore.rows
  admission _ specification := .ok (admits specification)
  add _ entity store := .ok (store.add ⟨entity,""⟩,entity.id)
  get _ id specification store := InMemoryRepository.get store.val id specification
  delete _ id specification store := (store.delete id specification).map (·,id)
  listAll _ ids specification store := InMemoryRepository.listAll store.val ids specification
  distinct := KeyedStore.rows_distinct
  get_reads _ id specification store := get_admits store id specification
  listAll_selects _ ids specification store := by
    rw [← KeyedStore.rows_asked]
    exact matching_admits specification _
  add_others _ entity store after id added other differs := by
    cases added
    exact store.add_others _ differs
  delete_others _ id specification store after deleted returned other differs := by
    cases erased : store.delete id specification with
    | error failure =>
      rw [erased] at returned
      cases returned
    | ok left =>
      rw [erased] at returned
      cases returned
      exact KeyedStore.delete_others erased differs

namespace MultitenantRepository

variable {repository : MultitenantRepository Id Object} {context : Option String} {store : KeyedStore Id Object}
  {after : Store Id Object} {id : Id}

theorem added {entity : Entity Id Object} (returned : repository.add context store.val entity = .ok (after,id)) :
    ∃ stored : Stored Id Object, after = (store.add stored).val ∧ id = stored.entity.id := by
  unfold Multitenancy.MultitenantRepository.add at returned
  split at returned
  next =>
    cases Attempts.pure_ok.mp returned
    exact ⟨⟨entity,systemTenant⟩,rfl,rfl⟩
  next =>
    obtain ⟨tenant,_,returned⟩ := Attempts.bind_ok.mp returned
    obtain ⟨labelled,_,returned⟩ := Attempts.bind_ok.mp returned
    cases Attempts.pure_ok.mp returned
    exact ⟨⟨labelled,tenant⟩,rfl,rfl⟩

theorem deleted {asked : Id} {specification : Option (ISpecification Id Object)}
    (returned : repository.delete context store.val asked specification = .ok (after,id)) :
    id = asked ∧ (after = store.val ∨ after = (store.erase asked).val) := by
  obtain ⟨effective,_,returned⟩ := Attempts.bind_ok.mp returned
  obtain ⟨left,erased,returned⟩ := Attempts.bind_ok.mp returned
  cases Attempts.pure_ok.mp returned
  exact ⟨rfl,KeyedStore.deleted erased⟩

end MultitenantRepository

def multitenantRepository (repository : MultitenantRepository Id Object) :
    IRepository (KeyedStore Id Object) (Option String) Id (Entity Id Object) (ISpecification Id Object)
      (Failure Object) where
  identity := Entity.id
  rows := KeyedStore.rows
  admission context specification := return admits (← repository.restricted context specification)
  add context entity store := KeyedStore.lift (repository.add context store.val entity) fun _ _ returned => by
    obtain ⟨stored,rfl,_⟩ := MultitenantRepository.added returned
    exact (store.add stored).property
  get context id specification store := repository.get context store.val id specification
  delete context id specification store :=
    KeyedStore.lift (repository.delete context store.val id specification) fun _ _ returned => by
      rcases (MultitenantRepository.deleted returned).2 with rfl | rfl
      · exact store.property
      · exact (store.erase id).property
  listAll context ids specification store := repository.listAll context store.val ids specification
  distinct := KeyedStore.rows_distinct
  get_reads context id specification store := by
    unfold Multitenancy.MultitenantRepository.get
    cases repository.restricted context specification with
    | error failure => rfl
    | ok effective => exact get_admits store id effective
  listAll_selects context ids specification store := by
    unfold Multitenancy.MultitenantRepository.listAll
    rw [← KeyedStore.rows_asked]
    cases repository.restricted context specification with
    | error failure => rfl
    | ok effective => exact matching_admits effective _
  add_others context entity store after id returned other differs := by
    obtain ⟨stored,same,rfl⟩ := MultitenantRepository.added (KeyedStore.lift_ok returned)
    obtain rfl := Subtype.ext same
    exact store.add_others stored differs
  delete_others context id specification store after deleted returned other differs := by
    obtain ⟨rfl,left⟩ := MultitenantRepository.deleted (KeyedStore.lift_ok returned)
    rw [KeyedStore.keptIn_rows,KeyedStore.keptIn_rows]
    rcases left with same | same
    · rw [same]
    · rw [same]
      exact congrArg _ (Dict.get_erase_other store.val differs)

end

end CqrsDdd.Caching
