import CqrsDdd.Caching.FilteredReads
import CqrsDdd.Specifications.Readers

/-! `list_all` of three repositories that keep the same entities, and of the caching one
over each. An empty list of ids is no list to the MongoDB repository, and the cache
answers for an id whatever the specification is. -/
namespace CqrsDdd.Caching

open Specifications SpecificationFactory Multitenancy ThreeValued Attempts

variable {Id Object Part Column : Type} [DecidableEq Id]

/-- The entities in memory, with what the databases make of each, and the keys of the cache. -/
structure Listings (Id Object Part Column : Type) [DecidableEq Id] extends
    Readers Part Column (Entity.attributes : Entity Id Object → Fields Object) where
  store : KeyedStore Id Object
  key : Id → String
  key_injective : Function.Injective key

namespace Listings

def rows (listings : Listings Id Object Part Column) : List (Entity Id Object) := listings.store.rows

def asked (ids : Option (List Id)) (entity : Entity Id Object) : Bool := ids.all fun ids => decide (entity.id ∈ ids)

def inMemory (listings : Listings Id Object Part Column) (specification : Option (Specification Object))
    (ids : Option (List Id)) : Except (Failure Object) (List (Entity Id Object)) :=
  InMemoryRepository.listAll listings.store.val ids (specification.map (ISpecification.ofTree listings.registry))

/-- The rows that the filter of a specification selects, if there is one. -/
def restricted {Failure : Type} (compile : Specification Object → Except Failure (Entity Id Object → Bool))
    (specification : Option (Specification Object)) (entities : List (Entity Id Object)) :
    Except Failure (List (Entity Id Object)) :=
  match specification with
  | none => .ok entities
  | some specification => (compile specification).map entities.filter

def sqlAlchemy (listings : Listings Id Object Part Column) (specification : Option (Specification Object))
    (ids : Option (List Id)) : Except Specifications.Failure (List (Entity Id Object)) :=
  restricted listings.criterion specification (listings.rows.filter (asked ids))

/-- `if entity_ids:`. -/
def baseFilter (ids : Option (List Id)) : Option (List Id) := ids.filter fun ids => !ids.isEmpty

def mongo (listings : Listings Id Object Part Column) (specification : Option (Specification Object))
    (ids : Option (List Id)) : Except MongoError (List (Entity Id Object)) :=
  restricted listings.filter specification (listings.rows.filter (asked (baseFilter ids)))

def caching {Failure : Type} (listings : Listings Id Object Part Column)
    (inner : Option (List Id) → Except Failure (List (Entity Id Object))) (cache : Dict String (Entity Id Object))
    (ids : Option (List Id)) : Except Failure (List (Entity Id Object)) :=
  match ids with
  | none => inner none
  | some ids =>
    if ids = [] then .ok []
    else
      let gathered := CachingRepository.collectMissingIds (ids.zip (ids.map fun id => cache.get (listings.key id)))
      if gathered.2 = [] then .ok (ids.filterMap gathered.1.get)
      else do
        let fresh ← inner (some gathered.2)
        return ids.filterMap (setAll Entity.id fresh gathered.1).get

abbrev Cache (listings : Listings Id Object Part Column) :=
  {cache : Dict String (Entity Id Object) // ∀ id entity, cache.get (listings.key id) = some entity → entity.id = id}

def Wanted (listings : Listings Id Object Part Column) (specification : Option (Specification Object))
    (ids : Option (List Id)) (entity : Entity Id Object) : Prop :=
  entity ∈ listings.rows ∧ asked ids entity = true ∧
    admits (specification.map (ISpecification.ofTree listings.registry)) entity = .ok true

/-- The call returns exactly these entities, in some order. -/
def Lists {Failure : Type} (answer : Except Failure (List (Entity Id Object))) (wanted : Entity Id Object → Prop) : Prop :=
  ∃ listed, answer = .ok listed ∧ ∀ entity, entity ∈ listed ↔ wanted entity

structure Agree (listings : Listings Id Object Part Column) (specification : Option (Specification Object))
    (ids : Option (List Id)) (cache : listings.Cache) : Prop where
  inMemory : Lists (listings.inMemory specification ids) (listings.Wanted specification ids)
  sqlAlchemy : Lists (listings.sqlAlchemy specification ids) (listings.Wanted specification ids)
  mongo : Lists (listings.mongo specification ids) (listings.Wanted specification ids)
  cachingInMemory : Lists (listings.caching (listings.inMemory specification) cache.val ids)
    (listings.Wanted specification ids)
  cachingSqlAlchemy : Lists (listings.caching (listings.sqlAlchemy specification) cache.val ids)
    (listings.Wanted specification ids)
  cachingMongo : Lists (listings.caching (listings.mongo specification) cache.val ids) (listings.Wanted specification ids)

/-- The three back-ends read the leaves and the shape of the specification alike, on some entity at all and on every
stored one of an id that is asked for, where an empty list of ids asks for all. -/
structure Uniform (listings : Listings Id Object Part Column) (ids : Option (List Id))
    (specification : Specification Object) : Prop where
  sample : ∃ entity : Entity Id Object, listings.ReadAlike specification entity
  each : ∀ entity ∈ listings.rows, asked (baseFilter ids) entity = true → listings.ReadAlike specification entity

def Fresh (listings : Listings Id Object Part Column) (specification : Option (Specification Object))
    (ids : Option (List Id)) (cache : listings.Cache) : Prop :=
  ∀ asked, ids = some asked → ∀ id ∈ asked, ∀ entity, cache.val.get (listings.key id) = some entity →
    listings.Wanted specification ids entity

variable {listings : Listings Id Object Part Column} {specification : Option (Specification Object)}
  {ids : Option (List Id)} {entity : Entity Id Object}

theorem asked_some {ids : List Id} : asked (some ids) entity = true ↔ entity.id ∈ ids := by
  rw [asked,Option.all_some,decide_eq_true_iff]

theorem rows_unique {first second : Entity Id Object} (left : first ∈ listings.rows) (right : second ∈ listings.rows)
    (same : first.id = second.id) : first = second :=
  List.inj_on_of_nodup_map listings.store.rows_distinct left right same

theorem inMemory_eq (listings : Listings Id Object Part Column) (specification : Option (Specification Object))
    (ids : Option (List Id)) : listings.inMemory specification ids =
      select (admits (specification.map (ISpecification.ofTree listings.registry))) (listings.rows.filter (asked ids)) := by
  unfold inMemory InMemoryRepository.listAll
  rw [matching_admits,listings.store.rows_asked]
  exact rfl

theorem inMemory_lists (answers : ∀ entity ∈ listings.rows, asked ids entity = true →
      ∃ result, admits (specification.map (ISpecification.ofTree listings.registry)) entity = .ok result) :
    Lists (listings.inMemory specification ids) (listings.Wanted specification ids) := by
  have quiet : ∀ entity ∈ listings.rows.filter (asked ids), ∀ failure,
      admits (specification.map (ISpecification.ofTree listings.registry)) entity ≠ .error failure := by
    intro entity member failure raises
    obtain ⟨inside,own⟩ := List.mem_filter.mp member
    obtain ⟨result,answered⟩ := answers entity inside own
    cases raises.symm.trans answered
  refine ⟨_,(inMemory_eq listings specification ids).trans (select_passes quiet),fun entity => ?_⟩
  rw [List.mem_filter,List.mem_filter,and_assoc]
  exact and_congr_right fun _ => and_congr_right fun _ => ⟨admits_of_passes,passes_of_admits⟩

theorem admits_ofTree {specified : Specification Object} {result : Bool} :
    admits (some (ISpecification.ofTree listings.registry specified)) entity = .ok result ↔
      specified.isSatisfiedBy listings.registry entity.attributes = .ok result := mapError_ok

theorem asked_baseFilter (own : asked ids entity = true) : asked (baseFilter ids) entity = true := by
  cases ids with
  | none => exact own
  | some ids =>
    cases ids with
    | nil => exact rfl
    | cons id rest => exact own

section Restricted

variable {Failure : Type} {compile : Specification Object → Except Failure (Entity Id Object → Bool)}
  {entities listed : List (Entity Id Object)}

theorem restricted_lists (agrees : ∀ specified, specification = some specified → ∃ keeps, compile specified = .ok keeps ∧
      ∀ entity ∈ listings.rows, asked ids entity = true →
        specified.isSatisfiedBy listings.registry entity.attributes = .ok (keeps entity)) :
    Lists (restricted compile specification (listings.rows.filter (asked ids))) (listings.Wanted specification ids) := by
  cases specification with
  | none =>
    refine ⟨_,rfl,fun entity => ?_⟩
    rw [List.mem_filter]
    exact and_congr_right fun _ => (and_iff_left rfl).symm
  | some specified =>
    obtain ⟨keeps,compiled,each⟩ := agrees specified rfl
    refine ⟨(listings.rows.filter (asked ids)).filter keeps,?_,fun entity => ?_⟩
    · unfold restricted
      dsimp only
      rw [compiled]
      exact rfl
    · rw [List.mem_filter,List.mem_filter,and_assoc]
      refine and_congr_right fun member => and_congr_right fun own => ?_
      rw [Option.map_some,admits_ofTree,each entity member own,Except.ok.injEq]

omit [DecidableEq Id] in
theorem mem_of_restricted (returned : restricted compile specification entities = .ok listed) (member : entity ∈ listed) :
    entity ∈ entities := by
  cases specification with
  | none =>
    cases returned
    exact member
  | some specified =>
    unfold restricted at returned
    dsimp only at returned
    cases compiled : compile specified with
    | error failure =>
      rw [compiled] at returned
      cases returned
    | ok keeps =>
      rw [compiled] at returned
      cases returned
      exact (List.mem_filter.mp member).1

end Restricted

section Agreement

variable (lowers : Lowers listings.runtime)
  (uniform : ∀ specified, specification = some specified → listings.Uniform ids specified)

include lowers uniform

theorem inMemory_agrees : Lists (listings.inMemory specification ids) (listings.Wanted specification ids) := by
  refine inMemory_lists fun entity member own => ?_
  cases specification with
  | none => exact ⟨true,rfl⟩
  | some specified =>
    have read := (uniform specified rfl).each entity member (asked_baseFilter own)
    obtain ⟨result,decides⟩ := Readers.exists_decides lowers read
    exact ⟨result,admits_ofTree.mpr decides.memory⟩

theorem sqlAlchemy_agrees : Lists (listings.sqlAlchemy specification ids) (listings.Wanted specification ids) := by
  refine restricted_lists fun specified same => ?_
  obtain ⟨sample,read⟩ := (uniform specified same).sample
  obtain ⟨keeps,compiled,agrees⟩ := Readers.criterion_agrees lowers read
  exact ⟨keeps,compiled,fun entity member own =>
    agrees entity ((uniform specified same).each entity member (asked_baseFilter own))⟩

theorem mongo_agrees : Lists (listings.mongo specification ids) (listings.Wanted specification (baseFilter ids)) := by
  refine restricted_lists fun specified same => ?_
  obtain ⟨sample,read⟩ := (uniform specified same).sample
  obtain ⟨keeps,compiled,agrees⟩ := Readers.filter_agrees lowers read
  exact ⟨keeps,compiled,fun entity member own => agrees entity ((uniform specified same).each entity member own)⟩

end Agreement
theorem caching_listAll {State Context Spec Failure : Type}
    (repository : CachingRepository State Context Id (Entity Id Object) Spec Failure)
    (identity : repository.inner.identity = Entity.id) (keys : repository.key = listings.key) (context : Context)
    (ids : Option (List Id)) (specification : Option Spec) (world : World State (Entity Id Object)) :
    (repository.listAll context ids specification world).1 =
      listings.caching (fun ids => repository.inner.listAll context ids specification world.store) world.cache ids := by
  unfold CachingRepository.listAll caching
  cases ids with
  | none => exact rfl
  | some asked =>
    dsimp only
    unfold CachingRepository.executeReadThrough
    rw [keys,identity]
    split
    next => exact rfl
    next =>
      dsimp only
      split
      next => exact rfl
      next =>
        split
        next failed => rw [failed]; exact rfl
        next fetched => rw [fetched]; exact rfl

theorem setAll_get {Key Value : Type} [DecidableEq Key] {keyOf : Value → Key} {values : List Value} {value : Value}
    (alone : ∀ other ∈ values, keyOf other = keyOf value → other = value) {dict : Dict Key Value}
    (there : value ∈ values ∨ dict.get (keyOf value) = some value) :
    (setAll keyOf values dict).get (keyOf value) = some value := by
  induction values generalizing dict with
  | nil => exact there.resolve_left List.not_mem_nil
  | cons first rest ih =>
    refine ih (fun other member => alone other (List.mem_cons_of_mem first member)) ?_
    by_cases same : keyOf first = keyOf value
    · refine .inr ?_
      rw [alone first List.mem_cons_self same,Dict.get_set_same]
    · rcases there with member | found
      · exact .inl ((List.mem_cons.mp member).resolve_left fun equal => same (equal ▸ rfl))
      · refine .inr ?_
        rw [Dict.get_set_other _ _ (Ne.symm same)]
        exact found

section Cached

variable {Failure : Type} {inner : Option (List Id) → Except Failure (List (Entity Id Object))} {cache : listings.Cache}
  {ids : List Id}

def missing (listings : Listings Id Object Part Column) (cache : Dict String (Entity Id Object)) (ids : List Id) : List Id :=
  ids.filter fun id => (cache.get (listings.key id)).isNone

theorem caching_some {answer : Except Failure (List (Entity Id Object))} (nonempty : ids ≠ [])
    (answers : listings.caching inner cache.val (some ids) = answer) :
    ∃ gathered : Dict Id (Entity Id Object),
      (∀ id, gathered.get id = if id ∈ ids then cache.val.get (listings.key id) else none) ∧
      answer = if listings.missing cache.val ids = [] then .ok (ids.filterMap gathered.get)
        else (inner (some (listings.missing cache.val ids))).map fun fresh =>
          ids.filterMap (setAll Entity.id fresh gathered).get := by
  obtain ⟨missed,found⟩ := CachingRepository.collected (fun id => cache.val.get (listings.key id)) ids
  refine ⟨_,found,answers.symm.trans ?_⟩
  unfold caching missing
  rw [← missed]
  dsimp only
  rw [if_neg nonempty]
  exact rfl

theorem mem_missing {id : Id} :
    id ∈ listings.missing cache.val ids ↔ id ∈ ids ∧ cache.val.get (listings.key id) = none := by
  unfold missing
  rw [List.mem_filter,Option.isNone_iff_eq_none]

theorem Fresh.own (fresh : listings.Fresh specification (some ids) cache)
    (wanted : listings.Wanted specification (some ids) entity) {cached : Entity Id Object}
    (found : cache.val.get (listings.key entity.id) = some cached) : cached = entity :=
  rows_unique (fresh ids rfl entity.id (asked_some.mp wanted.2.1) cached found).1 wanted.1
    (cache.property entity.id cached found)

theorem caching_lists (lists : listings.missing cache.val ids ≠ [] →
      Lists (inner (some (listings.missing cache.val ids)))
        (listings.Wanted specification (some (listings.missing cache.val ids))))
    (fresh : listings.Fresh specification (some ids) cache) :
    Lists (listings.caching inner cache.val (some ids)) (listings.Wanted specification (some ids)) := by
  by_cases nonempty : ids = []
  · subst nonempty
    refine ⟨[],rfl,fun entity => iff_of_false List.not_mem_nil fun wanted => ?_⟩
    exact List.not_mem_nil (asked_some.mp wanted.2.1)
  have answers : listings.caching inner cache.val (some ids) = listings.caching inner cache.val (some ids) := rfl
  obtain ⟨gathered,found,answer⟩ := caching_some nonempty answers
  have cached : ∀ id ∈ ids, ∀ entity, gathered.get id = some entity → listings.Wanted specification (some ids) entity := by
    intro id member entity own
    rw [found,if_pos member] at own
    exact fresh ids rfl id member entity own
  have kept : ∀ entity, listings.Wanted specification (some ids) entity →
      entity.id ∈ listings.missing cache.val ids ∨ gathered.get entity.id = some entity := by
    intro entity wanted
    have member := asked_some.mp wanted.2.1
    cases hit : cache.val.get (listings.key entity.id) with
    | none => exact .inl (mem_missing.mpr ⟨member,hit⟩)
    | some value =>
      refine .inr ?_
      rw [found,if_pos member,hit,fresh.own wanted hit]
  rw [answer]
  by_cases complete : listings.missing cache.val ids = []
  · rw [if_pos complete]
    refine ⟨_,rfl,fun entity => ?_⟩
    rw [List.mem_filterMap]
    refine ⟨fun ⟨id,member,own⟩ => cached id member entity own,fun wanted => ?_⟩
    refine ⟨entity.id,asked_some.mp wanted.2.1,(kept entity wanted).resolve_left ?_⟩
    rw [complete]
    exact List.not_mem_nil
  · obtain ⟨brought,returned,each⟩ := lists complete
    rw [if_neg complete,returned]
    refine ⟨_,rfl,fun entity => ?_⟩
    rw [List.mem_filterMap]
    constructor
    · intro ⟨id,member,own⟩
      rcases setAll_some own with ⟨inside,same⟩ | earlier
      · obtain ⟨stored,_,admitted⟩ := (each entity).mp inside
        exact ⟨stored,asked_some.mpr (same ▸ member),admitted⟩
      · exact cached id member entity earlier
    · intro wanted
      refine ⟨entity.id,asked_some.mp wanted.2.1,setAll_get ?_ ?_⟩
      · exact fun other inside same => rows_unique ((each other).mp inside).1 wanted.1 same
      · refine (kept entity wanted).imp_left fun absent => (each entity).mpr ?_
        exact ⟨wanted.1,asked_some.mpr absent,wanted.2.2⟩

theorem caching_fresh (sound : ∀ listed, inner (some (listings.missing cache.val ids)) = .ok listed →
      ∀ entity ∈ listed, entity.id ∈ listings.missing cache.val ids)
    (lists : Lists (listings.caching inner cache.val (some ids)) (listings.Wanted specification (some ids))) :
    listings.Fresh specification (some ids) cache := by
  intro asked same id member entity hit
  cases same
  obtain ⟨listed,returned,each⟩ := lists
  apply (each entity).mp
  obtain ⟨gathered,found,answer⟩ := caching_some (List.ne_nil_of_mem member) returned
  have own : gathered.get id = some entity := by rw [found,if_pos member,hit]
  split at answer
  next =>
    cases answer
    exact List.mem_filterMap.mpr ⟨id,member,own⟩
  next =>
    cases brought : inner (some (listings.missing cache.val ids)) with
    | error failure =>
      rw [brought] at answer
      cases answer
    | ok several =>
      rw [brought] at answer
      cases answer
      obtain rfl := cache.property id entity hit
      refine List.mem_filterMap.mpr ⟨entity.id,member,setAll_get ?_ (.inr own)⟩
      intro other inside same
      have absent := (mem_missing.mp (sound several brought other inside)).2
      rw [same,hit] at absent
      cases absent

end Cached

variable {cache : listings.Cache}

theorem not_asked_none (entity : Entity Id Object) : ¬asked (some []) entity = true := by
  rw [asked_some]
  exact List.not_mem_nil

omit [DecidableEq Id] in
theorem baseFilter_given {ids : List Id} (nonempty : ids ≠ []) : baseFilter (some ids) = some ids := by
  cases ids with
  | nil => exact absurd rfl nonempty
  | cons id rest => exact rfl

theorem Uniform.missing {ids : List Id} {specified : Specification Object}
    (uniform : listings.Uniform (some ids) specified) (absent : listings.missing cache.val ids ≠ []) :
    listings.Uniform (some (listings.missing cache.val ids)) specified where
  sample := uniform.sample
  each entity member own := by
    rw [baseFilter_given absent,asked_some] at own
    have given := (mem_missing.mp own).1
    refine uniform.each entity member ?_
    rw [baseFilter_given (List.ne_nil_of_mem given)]
    exact asked_some.mpr given

theorem mongo_lists (lowers : Lowers listings.runtime)
    (uniform : ∀ specified, specification = some specified → listings.Uniform ids specified)
    (unwanted : ids = some [] → ∀ entity ∈ listings.rows,
      admits (specification.map (ISpecification.ofTree listings.registry)) entity ≠ .ok true) :
    Lists (listings.mongo specification ids) (listings.Wanted specification ids) := by
  obtain ⟨found,returned,each⟩ := mongo_agrees lowers uniform
  refine ⟨found,returned,fun entity => (each entity).trans ?_⟩
  cases ids with
  | none => exact Iff.rfl
  | some ids =>
    by_cases nonempty : ids = []
    · subst nonempty
      exact iff_of_false (fun wanted => unwanted rfl entity wanted.1 wanted.2.2)
        fun wanted => not_asked_none entity wanted.2.1
    · rw [baseFilter_given nonempty]

/-- Where the three back-ends read the specification alike, the six repositories list the entities that are asked for
and satisfy it exactly if no stored entity does where the list of ids is empty, and the cache has for no id an entity
that is not wanted. -/
theorem list_all_agree_iff (lowers : Lowers listings.runtime)
    (uniform : ∀ specified, specification = some specified → listings.Uniform ids specified) :
    listings.Agree specification ids cache ↔
      (ids = some [] → ∀ entity ∈ listings.rows,
        admits (specification.map (ISpecification.ofTree listings.registry)) entity ≠ .ok true) ∧
      listings.Fresh specification ids cache := by
  constructor
  · intro agree
    constructor
    · rintro rfl entity member admitted
      obtain ⟨found,returned,each⟩ := mongo_agrees lowers uniform
      obtain ⟨listed,same,wanted⟩ := agree.mongo
      cases returned.symm.trans same
      exact not_asked_none entity ((wanted entity).mp ((each entity).mpr ⟨member,rfl,admitted⟩)).2.1
    · cases ids with
      | none => exact fun asked same => by cases same
      | some ids =>
        refine caching_fresh (fun listed returned entity member => ?_) agree.cachingSqlAlchemy
        exact asked_some.mp (List.mem_filter.mp (mem_of_restricted returned member)).2
  · intro ⟨unwanted,fresh⟩
    have mongo := mongo_lists lowers uniform unwanted
    have memory := inMemory_agrees lowers uniform
    have sql := sqlAlchemy_agrees lowers uniform
    cases ids with
    | none => exact ⟨memory,sql,mongo,memory,sql,mongo⟩
    | some ids =>
      have fewer (absent : listings.missing cache.val ids ≠ []) : ∀ specified, specification = some specified →
          listings.Uniform (some (listings.missing cache.val ids)) specified :=
        fun specified same => (uniform specified same).missing absent
      refine ⟨memory,sql,mongo,?_,?_,?_⟩
      · exact caching_lists (fun absent => inMemory_agrees lowers (fewer absent)) fresh
      · exact caching_lists (fun absent => sqlAlchemy_agrees lowers (fewer absent)) fresh
      · refine caching_lists (fun absent => ?_) fresh
        have lists := mongo_agrees lowers (fewer absent)
        rwa [baseFilter_given absent] at lists

def bob : Entity String Empty := {id := "1", attributes := [("name",.text "bob")]}

/-- One entity with a name, and leaves that ask whether an attribute is there. -/
def people : Listings String Empty String String where
  store := KeyedStore.add ⟨Dict.empty,fun _ member => by cases member⟩ ⟨bob,""⟩
  runtime := Runtime.ascii
  registry := BackEnds.presence.registry
  compilePart := BackEnds.presence.compilePart
  matched entity part := (entity.attributes.lookup part).isSome
  matchedRaw _ _ := false
  compileColumn := BackEnds.presence.compileColumn
  truth entity column := .ofBool (entity.attributes.lookup column).isSome
  key id := "person:" ++ id
  key_injective first second same := by
    have lists := congrArg String.toList same
    simp only [String.toList_append] at lists
    exact String.toList_inj.mp (List.append_cancel_left lists)

def emptyCache : people.Cache := ⟨Dict.empty,fun _ _ found => by cases found⟩

def warmCache : people.Cache := ⟨Dict.empty.set "person:1" bob,by
  intro id entity found
  rw [Dict.get_set] at found
  split at found
  next same =>
    cases found
    exact (people.key_injective same).symm
  next => cases found⟩

def aged : Specification Empty := .attribute ⟨.text "age",.isNotNull,.null⟩

def ageless : Specification Empty := .and [.attribute ⟨.text "name",.isNotNull,.null⟩,.not aged]

theorem readAlike_bob : people.ReadAlike ageless bob := by
  have name : (people.backEnds bob).LeafAgrees
      [("op",.text "is_not_null"),("attr",.text "name"),("val",.null)] "is_not_null"
      ⟨.text "name",.isNotNull,.null⟩ "name" "name" true := by
    constructor
    all_goals rfl
  have age : (people.backEnds bob).LeafAgrees
      [("op",.text "is_not_null"),("attr",.text "age"),("val",.null)] "is_not_null"
      ⟨.text "age",.isNotNull,.null⟩ "age" "age" false := by
    constructor
    all_goals rfl
  refine ⟨by simp [ageless,aged,Specification.leaves,leavesOf,SpecificationOperator.logicalOperators,
    SpecificationOperator.value],.inl ?_⟩
  have second : BackEnds.Uniform (people.backEnds bob) 999
      (.dict [("op",.text "not"),("conditions",.list [.dict aged.toDict])]) :=
    .not rfl rfl (.conditions (.inl rfl) (.inl rfl)) (.leaf rfl (by decide) age)
  refine .and rfl rfl rfl (fun node member _ => ?_) List.mem_cons_self (.leaf rfl (by decide) name)
  rcases List.mem_cons.mp member with rfl | later
  · exact .leaf rfl (by decide) name
  · exact List.mem_singleton.mp later ▸ second

theorem list_all_agree_iff_ageless : Lowers people.runtime ∧ people.Uniform (some ["1","2"]) ageless ∧
    people.Agree (some ageless) (some ["1","2"]) warmCache := by
  have uniform : people.Uniform (some ["1","2"]) ageless := by
    refine ⟨⟨bob,readAlike_bob⟩,fun entity member _ => ?_⟩
    rw [List.mem_singleton.mp member]
    exact readAlike_bob
  refine ⟨BackEnds.lowers_ascii,uniform,(list_all_agree_iff BackEnds.lowers_ascii ?_).mpr ⟨fun same => ?_,?_⟩⟩
  · intro specified same
    cases same
    exact uniform
  · cases same
  · intro ids same id member entity found
    cases same
    obtain rfl : bob = entity := by
      change (Dict.empty.set "person:1" bob).get _ = _ at found
      rw [Dict.get_set] at found
      split at found
      next => exact Option.some.inj found
      next => cases found
    exact ⟨List.mem_cons_self,rfl,rfl⟩

/-- With an empty list of ids the MongoDB repository returns everything, and the caching one an entity that it has whatever the
specification. -/
theorem list_all_differ : ¬people.Agree none (some []) emptyCache ∧ ¬people.Agree (some aged) (some ["1"]) warmCache := by
  constructor
  · intro agree
    obtain ⟨listed,returned,each⟩ := agree.mongo
    cases returned
    exact not_asked_none bob ((each bob).mp List.mem_cons_self).2.1
  · intro agree
    obtain ⟨listed,returned,each⟩ := agree.cachingInMemory
    cases returned
    have satisfied := ((each bob).mp List.mem_cons_self).2.2
    cases satisfied

end Listings

end CqrsDdd.Caching
