import CqrsDdd.Caching.StaleEntries

/-! The order of what the caching dispatcher fetches. Where every id is cached the values come in
the order of the ids, but those that are false are left out; else the cached
values come first and the fetched ones are appended. -/
namespace CqrsDdd.Caching

theorem filter_append_filter_iff {Item : Type} {wanted : Item → Bool} {items : List Item} :
    items.filter wanted ++ items.filter (fun item => !wanted item) = items ↔
      items.Pairwise fun first second => wanted second = true → wanted first = true := by
  constructor
  · intro same
    rw [← same,List.pairwise_append]
    refine ⟨?_,?_,fun first member _ _ _ => (List.mem_filter.mp member).2⟩
    · exact List.pairwise_of_forall_mem_list fun first member _ _ _ => (List.mem_filter.mp member).2
    · refine List.pairwise_of_forall_mem_list fun _ _ second member taken => ?_
      have dropped := (List.mem_filter.mp member).2
      rw [taken] at dropped
      cases dropped
  · intro ordered
    induction items with
    | nil => exact rfl
    | cons item rest ih =>
      obtain ⟨ahead,ordered⟩ := List.pairwise_cons.mp ordered
      cases status : wanted item with
      | true =>
        rw [List.filter_cons_of_pos status,List.filter_cons_of_neg (by rw [status]; exact Bool.false_ne_true),
          List.cons_append,ih ordered]
      | false =>
        -- Nothing behind it is wanted.
        have none : ∀ other ∈ rest, wanted other = false := by
          intro other member
          cases later : wanted other with
          | false => rfl
          | true => exact (ahead other member later).symm.trans status
        rw [List.filter_cons_of_neg (by rw [status]; exact Bool.false_ne_true),
          List.filter_cons_of_pos (by rw [status]; exact rfl),
          List.filter_eq_nil_iff.mpr fun other member => by rw [none other member]; exact Bool.false_ne_true,
          List.filter_eq_self.mpr fun other member => by rw [none other member]; exact rfl]
        exact rfl

namespace CachingPersistenceDispatcher

variable {Id Data : Type}

/-- The keys of `_execute_read_through`. -/
def readThroughKey (ids : IdType Id) (entityName : EntityName) (suffix : String) (id : Id) : String :=
  entityName.val ++ suffix ++ ":" ++ ids.str id

/-- What a call returns and what it leaves in the cache. Either operation on the cache may fail; `truthy` is
what `bool` makes of an entity. -/
def executeReadThrough (ids : IdType Id) (truthy : Entity Id Data → Bool) (entityName : EntityName) (suffix : String)
    (asked : List Id) (fetchFunc : List Id → List (Entity Id Data)) (cache : Dict String (Entity Id Data))
    (getWorks setWorks : Bool) : List (Entity Id Data) × Dict String (Entity Id Data) :=
  let keys := asked.map (readThroughKey ids entityName suffix)
  let cachedValues := keys.map fun key => if getWorks then cache.get key else none
  let collected := collectMissingIds (asked.zip cachedValues)
  if collected.2.isEmpty then (cachedValues.filterMap fun value => value.filter truthy,cache)
  else
    let fresh := fetchFunc collected.2
    (collected.1 ++ fresh,
      if setWorks then
        setAll (fun entity => readThroughKey ids entityName suffix entity.id) (World.cacheable ids fresh) cache
      else cache)

/-- The inner dispatcher's `fetch_domain`, for the type, the unit of work and the specification of the call. -/
def fetchDomain (ids : IdType Id) (truthy : Entity Id Data → Bool) (entityType : EntityName)
    (inner : List Id → List (Entity Id Data)) (asked : List Id) (cache : Dict String (Entity Id Data))
    (getWorks setWorks : Bool) : List (Entity Id Data) × Dict String (Entity Id Data) :=
  executeReadThrough ids truthy entityType "" asked inner cache getWorks setWorks

structure Stored (Id Data : Type) where
  find : Id → Option (Entity Id Data)
  own : ∀ id entity, find id = some entity → entity.id = id

/-- Each entry of the cache for an id is the entity that is stored under it. -/
def Consistent (ids : IdType Id) (entityType : EntityName) (stored : Stored Id Data)
    (cache : Dict String (Entity Id Data)) : Prop :=
  ∀ id entity, cache.get (cacheKey ids (entityType,id)) = some entity → stored.find id = some entity

def cached (ids : IdType Id) (entityType : EntityName) (cache : Dict String (Entity Id Data)) (getWorks : Bool)
    (id : Id) : Option (Entity Id Data) :=
  if getWorks then cache.get (cacheKey ids (entityType,id)) else none

theorem readThroughKey_plain (ids : IdType Id) (entityType : EntityName) (id : Id) :
    readThroughKey ids entityType "" id = cacheKey ids (entityType,id) := by
  rw [readThroughKey,cacheKey,String.append_empty]

theorem collected_eq (answer : Id → Option (Entity Id Data)) (asked : List Id) :
    collectMissingIds (asked.zip (asked.map answer)) =
      (asked.filterMap answer,asked.filter fun id => (answer id).isNone) := by
  induction asked with
  | nil => exact rfl
  | cons id rest ih =>
    rw [List.map_cons,List.zip_cons_cons]
    cases status : answer id with
    | some value =>
      rw [collectMissingIds,ih,List.filterMap_cons_some status,List.filter_cons_of_neg (by rw [status]; exact Bool.false_ne_true)]
    | none =>
      rw [collectMissingIds,ih,List.filterMap_cons_none status,List.filter_cons_of_pos (by rw [status]; exact rfl)]

theorem fetchDomain_eq {ids : IdType Id} {truthy : Entity Id Data → Bool} {entityType : EntityName}
    {inner : List Id → List (Entity Id Data)} {asked : List Id} {cache : Dict String (Entity Id Data)}
    {getWorks setWorks : Bool} :
    (fetchDomain ids truthy entityType inner asked cache getWorks setWorks).1 =
      if (asked.filter fun id => (cached ids entityType cache getWorks id).isNone).isEmpty then
        asked.filterMap fun id => (cached ids entityType cache getWorks id).filter truthy
      else asked.filterMap (cached ids entityType cache getWorks) ++
        inner (asked.filter fun id => (cached ids entityType cache getWorks id).isNone) := by
  have values : (asked.map (readThroughKey ids entityType "")).map (fun key => if getWorks then cache.get key else none) =
      asked.map (cached ids entityType cache getWorks) := by
    rw [List.map_map]
    refine List.map_congr_left fun id _ => ?_
    rw [Function.comp_apply,readThroughKey_plain]
    exact rfl
  rw [fetchDomain,executeReadThrough]
  dsimp only
  rw [values,collected_eq]
  split
  next => rw [List.filterMap_map]; exact rfl
  next => exact rfl

def CachedFirst (ids : IdType Id) (entityType : EntityName) (stored : Stored Id Data)
    (cache : Dict String (Entity Id Data)) (getWorks : Bool) (asked : List Id) : Prop :=
  asked.Pairwise fun first second => (cached ids entityType cache getWorks second).isSome →
    (stored.find first).isSome → (cached ids entityType cache getWorks first).isSome

section Answers
variable {ids : IdType Id} {entityType : EntityName} {stored : Stored Id Data} {cache : Dict String (Entity Id Data)}
  {getWorks : Bool} (consistent : Consistent ids entityType stored cache)
include consistent

theorem Consistent.cached {id : Id} {entity : Entity Id Data}
    (there : cached ids entityType cache getWorks id = some entity) : stored.find id = some entity := by
  unfold CachingPersistenceDispatcher.cached at there
  split at there
  next => exact consistent id entity there
  next => cases there

theorem cached_part (asked : List Id) : asked.filterMap (cached ids entityType cache getWorks) =
    (asked.filterMap stored.find).filter fun entity => (cached ids entityType cache getWorks entity.id).isSome := by
  induction asked with
  | nil => exact rfl
  | cons id rest ih =>
    cases status : cached ids entityType cache getWorks id with
    | some entity =>
      have known := Consistent.cached consistent status
      have here : (cached ids entityType cache getWorks entity.id).isSome = true := by
        rw [stored.own id entity known,status]
        exact rfl
      rw [List.filterMap_cons_some status,List.filterMap_cons_some known,List.filter_cons,if_pos here,ih]
    | none =>
      rw [List.filterMap_cons_none status,ih]
      cases known : stored.find id with
      | none => rw [List.filterMap_cons_none known]
      | some entity =>
        have here : ¬ (cached ids entityType cache getWorks entity.id).isSome = true := by
          rw [stored.own id entity known,status]
          exact Bool.false_ne_true
        rw [List.filterMap_cons_some known,List.filter_cons,if_neg here]

omit consistent in
theorem fetched_part (asked : List Id) :
    (asked.filter fun id => (cached ids entityType cache getWorks id).isNone).filterMap stored.find =
      (asked.filterMap stored.find).filter fun entity => !(cached ids entityType cache getWorks entity.id).isSome := by
  induction asked with
  | nil => exact rfl
  | cons id rest ih =>
    cases known : stored.find id with
    | none =>
      rw [List.filterMap_cons_none known,← ih,List.filter_cons]
      split
      next => rw [List.filterMap_cons_none known]
      next => rfl
    | some entity =>
      have same : (!(cached ids entityType cache getWorks entity.id).isSome) =
          (cached ids entityType cache getWorks id).isNone := by
        rw [stored.own id entity known,Option.not_isSome]
      rw [List.filterMap_cons_some known,List.filter_cons,List.filter_cons,same]
      split
      next => rw [List.filterMap_cons_some known,ih]
      next => exact ih

theorem cachedFirst_iff (asked : List Id) : CachedFirst ids entityType stored cache getWorks asked ↔
    (asked.filterMap stored.find).Pairwise fun first second =>
      (cached ids entityType cache getWorks second.id).isSome → (cached ids entityType cache getWorks first.id).isSome := by
  rw [List.pairwise_filterMap]
  refine List.Pairwise.iff fun first second => ⟨fun ordered entity found other known taken => ?_,fun ordered taken known => ?_⟩
  · rw [stored.own second other known] at taken
    rw [stored.own first entity found]
    exact ordered taken (found ▸ rfl)
  · obtain ⟨entity,found⟩ := Option.isSome_iff_exists.mp known
    obtain ⟨other,there⟩ := Option.isSome_iff_exists.mp taken
    have behind := Consistent.cached consistent there
    have both := ordered entity found other behind
    rw [stored.own first entity found,stored.own second other behind] at both
    exact both taken

/-- The call returns the entities of the known ids in the order of the ids exactly when no known id that is
not cached precedes a cached one, and, if all are cached, no entity is false. -/
theorem fetchDomain_iff {truthy : Entity Id Data → Bool} {inner : List Id → List (Entity Id Data)}
    (answers : ∀ missing, inner missing = missing.filterMap stored.find) (asked : List Id) (setWorks : Bool) :
    (fetchDomain ids truthy entityType inner asked cache getWorks setWorks).1 = asked.filterMap stored.find ↔
      CachedFirst ids entityType stored cache getWorks asked ∧
        ((∀ id ∈ asked, (cached ids entityType cache getWorks id).isSome) →
          ∀ id ∈ asked, ∀ entity, stored.find id = some entity → truthy entity = true) := by
  rw [fetchDomain_eq]
  split
  next all =>
    have every : ∀ id ∈ asked, (cached ids entityType cache getWorks id).isSome := by
      intro id member
      have kept := List.filter_eq_nil_iff.mp (List.isEmpty_iff.mp all) id member
      exact Option.isSome_iff_ne_none.mpr fun none => kept (Option.isNone_iff_eq_none.mpr none)
    have first : CachedFirst ids entityType stored cache getWorks asked :=
      List.pairwise_of_forall_mem_list fun id member _ _ _ _ => every id member
    have values : (asked.filterMap fun id => (cached ids entityType cache getWorks id).filter truthy) =
        (asked.filterMap stored.find).filter truthy := by
      rw [List.filter_filterMap]
      refine List.filterMap_congr fun id member => ?_
      obtain ⟨entity,there⟩ := Option.isSome_iff_exists.mp (every id member)
      rw [there,Consistent.cached consistent there]
    rw [values,List.filter_eq_self,and_iff_right first,imp_iff_right every]
    constructor
    · exact fun truths id member entity found => truths entity (List.mem_filterMap.mpr ⟨id,member,found⟩)
    · intro truths entity member
      obtain ⟨id,there,found⟩ := List.mem_filterMap.mp member
      exact truths id there entity found
  next some =>
    have missing : ¬ ∀ id ∈ asked, (cached ids entityType cache getWorks id).isSome := by
      intro every
      refine some (List.isEmpty_iff.mpr (List.filter_eq_nil_iff.mpr fun id member => ?_))
      intro none
      exact Option.isSome_iff_ne_none.mp (every id member) (Option.isNone_iff_eq_none.mp none)
    rw [answers,cached_part consistent,fetched_part,filter_append_filter_iff,cachedFirst_iff consistent]
    exact (and_iff_left fun every => absurd every missing).symm

end Answers

def placed (id : String) : Entity String Nat := ⟨(order 1).type,id,1⟩

def placedFind (id : String) : Option (Entity String Nat) := if id ∈ ["a","b"] then some (placed id) else none

theorem placedFind_own (id : String) (entity : Entity String Nat) (found : placedFind id = some entity) :
    entity.id = id := by
  unfold placedFind at found
  split at found
  next =>
    cases found
    exact rfl
  next => cases found

def placedOrders : Stored String Nat := ⟨placedFind,placedFind_own⟩

def onlyB : Dict String (Entity String Nat) := Dict.empty.set (cacheKey texts ((order 1).type,"b")) (placed "b")

theorem onlyB_consistent : Consistent texts (order 1).type placedOrders onlyB := by
  intro id entity found
  rw [onlyB,Dict.get_set] at found
  split at found
  next same =>
    obtain rfl := (Prod.mk.inj (cacheKey_injective texts same)).2
    cases found
    exact rfl
  next => cases found

theorem fetchDomain_cached_first :
    (fetchDomain texts (fun _ => true) (order 1).type (fun missing => missing.filterMap placedFind) ["b","c","a","b"]
      Dict.empty true true).1 = ["b","c","a","b"].filterMap placedFind ∧
    (fetchDomain texts (fun _ => true) (order 1).type (fun missing => missing.filterMap placedFind) ["b","c","a"]
      onlyB true true).1 = ["b","c","a"].filterMap placedFind := by
  have nothing : Consistent texts (order 1).type placedOrders Dict.empty := fun _ _ found => by cases found
  constructor
  · refine (fetchDomain_iff nothing (fun _ => rfl) _ _).mpr ⟨?_,fun every => absurd (every "c" (by decide)) (by decide)⟩
    exact List.pairwise_of_forall fun _ _ taken => absurd taken Bool.false_ne_true
  · refine (fetchDomain_iff onlyB_consistent (fun _ => rfl) _ _).mpr
      ⟨?_,fun every => absurd (every "c" (by decide)) (by decide)⟩
    unfold CachedFirst
    decide

/-- The second id is cached and comes first; an entity that is false is left out where all are cached. -/
theorem cached_come_first :
    Consistent texts (order 1).type placedOrders onlyB ∧
      ¬ (fetchDomain texts (fun _ => true) (order 1).type (fun missing => missing.filterMap placedFind) ["a","b"]
        onlyB true true).1 = ["a","b"].filterMap placedFind ∧
      (fetchDomain texts (fun _ => false) (order 1).type (fun missing => missing.filterMap placedFind) ["b"]
        onlyB true true).1 = [] := by
  refine ⟨onlyB_consistent,fun same => ?_,rfl⟩
  have ids := congrArg (List.map Entity.id) same
  revert ids
  decide

end CachingPersistenceDispatcher

end CqrsDdd.Caching
