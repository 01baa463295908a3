import CqrsDdd.Caching.Repositories

/-! The caching decorator over a repository. An entry is found by the entity's id alone,
whatever specification the call that reads it has. -/
namespace CqrsDdd.Caching

/-- Entries under the key of each value, the later ones last. -/
def setAll {Key Value : Type} [DecidableEq Key] (keyOf : Value → Key) (values : List Value) (dict : Dict Key Value) :
    Dict Key Value :=
  values.foldl (fun dict value => dict.set (keyOf value) value) dict

structure World (State Entity : Type) where
  store : State
  cache : Dict String Entity

variable {State Context Id Entity Spec Failure : Type} [DecidableEq Id]

/-- Two ids of one type have different texts. -/
structure CachingRepository (State Context Id Entity Spec Failure : Type) [DecidableEq Id] where
  inner : IRepository State Context Id Entity Spec Failure
  entityName : String
  str : Id → String
  str_injective : Function.Injective str

inductive Call (Context Id Entity Spec : Type)
  | get (context : Context) (id : Id) (specification : Option Spec)
  | listAll (context : Context) (ids : Option (List Id)) (specification : Option Spec)
  | add (context : Context) (entity : Entity)
  | delete (context : Context) (id : Id) (specification : Option Spec)
  /-- The time to live of an entry is over. -/
  | expire (key : String)

namespace CachingRepository

def key (repository : CachingRepository State Context Id Entity Spec Failure) (id : Id) : String :=
  repository.entityName ++ ":" ++ repository.str id

def get (repository : CachingRepository State Context Id Entity Spec Failure) (context : Context) (id : Id)
    (specification : Option Spec) (world : World State Entity) :
    Except Failure (Option Entity) × World State Entity :=
  match world.cache.get (repository.key id) with
  | some cached => (.ok (some cached),world)
  | none =>
    match repository.inner.get context id specification world.store with
    | .ok (some entity) => (.ok (some entity),{world with cache := world.cache.set (repository.key id) entity})
    | answer => (answer,world)

def add (repository : CachingRepository State Context Id Entity Spec Failure) (context : Context) (entity : Entity)
    (world : World State Entity) : Except Failure Id × World State Entity :=
  match repository.inner.add context entity world.store with
  | .ok (store,id) => (.ok id,⟨store,world.cache.erase (repository.key id)⟩)
  | .error failure => (.error failure,world)

def delete (repository : CachingRepository State Context Id Entity Spec Failure) (context : Context) (id : Id)
    (specification : Option Spec) (world : World State Entity) : Except Failure Id × World State Entity :=
  match repository.inner.delete context id specification world.store with
  | .ok (store,deleted) => (.ok deleted,⟨store,world.cache.erase (repository.key deleted)⟩)
  | .error failure => (.error failure,world)

def collectMissingIds (asked : List (Id × Option Entity)) : Dict Id Entity × List Id :=
  asked.foldl (fun gathered entry => match entry.2 with
    | some value => (gathered.1.set entry.1 value,gathered.2)
    | none => (gathered.1,gathered.2 ++ [entry.1])) (Dict.empty,[])

/-- The ids that have no entry are fetched, and what they bring is cached. -/
def executeReadThrough (repository : CachingRepository State Context Id Entity Spec Failure) (ids : List Id)
    (fetch : List Id → Except Failure (List Entity)) (world : World State Entity) :
    Except Failure (List Entity) × World State Entity :=
  if ids = [] then (.ok [],world)
  else
    let gathered := collectMissingIds (ids.zip (ids.map fun id => world.cache.get (repository.key id)))
    if gathered.2 = [] then (.ok (ids.filterMap gathered.1.get),world)
    else
      match fetch gathered.2 with
      | .error failure => (.error failure,world)
      | .ok fresh => (.ok (ids.filterMap (setAll repository.inner.identity fresh gathered.1).get),
          {world with cache := setAll (fun entity => repository.key (repository.inner.identity entity)) fresh world.cache})

def listAll (repository : CachingRepository State Context Id Entity Spec Failure) (context : Context)
    (ids : Option (List Id)) (specification : Option Spec) (world : World State Entity) :
    Except Failure (List Entity) × World State Entity :=
  match ids with
  | some asked => repository.executeReadThrough asked
      (fun missing => repository.inner.listAll context (some missing) specification world.store) world
  | none => (repository.inner.listAll context none specification world.store,world)

def step (repository : CachingRepository State Context Id Entity Spec Failure) (world : World State Entity) :
    Call Context Id Entity Spec → World State Entity
  | .get context id specification => (repository.get context id specification world).2
  | .listAll context ids specification => (repository.listAll context ids specification world).2
  | .add context entity => (repository.add context entity world).2
  | .delete context id specification => (repository.delete context id specification world).2
  | .expire key => {world with cache := world.cache.erase key}

def run (repository : CachingRepository State Context Id Entity Spec Failure) (world : World State Entity)
    (history : List (Call Context Id Entity Spec)) : World State Entity :=
  history.foldl repository.step world

end CachingRepository

theorem get_setAll {Key Value : Type} [DecidableEq Key] {keyOf : Value → Key} {values : List Value}
    (distinct : (values.map keyOf).Nodup) (dict : Dict Key Value) (key : Key) :
    (setAll keyOf values dict).get key = (values.find? fun value => keyOf value = key).or (dict.get key) := by
  induction values generalizing dict with
  | nil => rfl
  | cons first rest ih =>
    rw [List.map_cons,List.nodup_cons] at distinct
    change (setAll keyOf rest (dict.set (keyOf first) first)).get key = _
    rw [ih distinct.2,Dict.get_set]
    by_cases same : keyOf first = key
    · have absent : rest.find? (fun value => keyOf value = key) = none := by
        apply List.find?_eq_none.mpr
        intro other member equal
        apply distinct.1
        rw [same,← of_decide_eq_true equal]
        exact List.mem_map_of_mem member
      have head : (first::rest).find? (fun value => keyOf value = key) = some first :=
        List.find?_cons_of_pos (decide_eq_true same)
      rw [head,if_pos same.symm,absent]
      rfl
    · have tail : (first::rest).find? (fun value => keyOf value = key) = rest.find? fun value => keyOf value = key :=
        List.find?_cons_of_neg fun equal => same (of_decide_eq_true equal)
      rw [tail,if_neg (Ne.symm same)]

theorem setAll_some {Key Value : Type} [DecidableEq Key] {keyOf : Value → Key} {values : List Value}
    {dict : Dict Key Value} {key : Key} {value : Value} (found : (setAll keyOf values dict).get key = some value) :
    (value ∈ values ∧ keyOf value = key) ∨ dict.get key = some value :=
  Dict.get_foldl_set found

namespace CachingRepository

theorem collect_hit (asked : List (Id × Option Entity)) (id : Id) (value : Entity) :
    collectMissingIds (asked ++ [(id,some value)]) =
      ((collectMissingIds asked).1.set id value,(collectMissingIds asked).2) := by
  unfold collectMissingIds
  rw [List.foldl_append]
  rfl

theorem collect_missed (asked : List (Id × Option Entity)) (id : Id) :
    collectMissingIds (asked ++ [(id,none)]) = ((collectMissingIds asked).1,(collectMissingIds asked).2 ++ [id]) := by
  unfold collectMissingIds
  rw [List.foldl_append]
  rfl

theorem collected (cached : Id → Option Entity) (ids : List Id) :
    (collectMissingIds (ids.zip (ids.map cached))).2 = ids.filter (fun id => (cached id).isNone) ∧
      ∀ id, (collectMissingIds (ids.zip (ids.map cached))).1.get id = if id ∈ ids then cached id else none := by
  induction ids using List.reverseRecOn with
  | nil => exact ⟨rfl,fun _ => rfl⟩
  | append_singleton ids last ih =>
    have apart : (ids ++ [last]).zip ((ids ++ [last]).map cached) = ids.zip (ids.map cached) ++ [(last,cached last)] := by
      rw [List.map_append,List.zip_append (List.length_map _).symm]
      rfl
    rw [apart,List.filter_append]
    cases hit : cached last with
    | none =>
      rw [collect_missed,ih.1]
      refine ⟨by simp [hit],fun id => ?_⟩
      dsimp only
      rw [ih.2 id]
      by_cases same : id = last
      · subst same
        simp [hit]
      · simp [same]
    | some value =>
      rw [collect_hit,ih.1]
      refine ⟨by simp [hit],fun id => ?_⟩
      dsimp only
      rw [Dict.get_set,ih.2 id]
      by_cases same : id = last
      · subst same
        simp [hit]
      · simp [same]

variable {repository : CachingRepository State Context Id Entity Spec Failure}

theorem key_injective : Function.Injective repository.key := by
  intro first second same
  unfold key at same
  have lists := congrArg String.toList same
  simp only [String.toList_append] at lists
  exact repository.str_injective (String.toList_inj.mp (List.append_cancel_left lists))

def Coherent (repository : CachingRepository State Context Id Entity Spec Failure) (world : World State Entity) : Prop :=
  ∀ id entity, world.cache.get (repository.key id) = some entity →
    keptIn repository.inner.identity (repository.inner.rows world.store) id = some entity

theorem Coherent.erase {world : World State Entity} {store : State} {changed : Id} (coherent : repository.Coherent world)
    (others : ∀ other, other ≠ changed → keptIn repository.inner.identity (repository.inner.rows store) other =
      keptIn repository.inner.identity (repository.inner.rows world.store) other) :
    repository.Coherent ⟨store,world.cache.erase (repository.key changed)⟩ := by
  intro id entity found
  by_cases same : id = changed
  · rw [same,Dict.get_erase_same] at found
    cases found
  · rw [Dict.get_erase_other _ (fun equal => same (key_injective equal))] at found
    rw [others id same]
    exact coherent id entity found

theorem readOne_some {admits : Entity → Except Failure Bool} {kept : Option Entity} {entity : Entity}
    (returned : readOne admits kept = .ok (some entity)) : kept = some entity ∧ admits entity = .ok true := by
  cases kept with
  | none => cases returned
  | some value =>
    obtain ⟨admitted,answered,returned⟩ := Attempts.bind_ok.mp returned
    cases admitted with
    | false => cases returned
    | true =>
      cases returned
      exact ⟨rfl,answered⟩

theorem Coherent.get {world : World State Entity} (coherent : repository.Coherent world) (context : Context) (id : Id)
    (specification : Option Spec) : repository.Coherent (repository.get context id specification world).2 := by
  unfold CachingRepository.get
  split
  next => exact coherent
  next =>
    split
    next fresh read =>
      intro other entity found
      rw [Dict.get_set] at found
      split at found
      next same =>
        obtain rfl := key_injective same
        cases found
        rw [repository.inner.get_reads] at read
        obtain ⟨admits,_,read⟩ := Attempts.bind_ok.mp read
        exact (readOne_some read).1
      next => exact coherent other entity found
    next => exact coherent

theorem listed {context : Context} {ids : Option (List Id)} {specification : Option Spec} {store : State}
    {fresh : List Entity} (read : repository.inner.listAll context ids specification store = .ok fresh) :
    ∀ entity ∈ fresh, entity ∈ repository.inner.rows store := by
  rw [repository.inner.listAll_selects] at read
  obtain ⟨admits,_,read⟩ := Attempts.bind_ok.mp read
  exact fun entity member => (List.mem_filter.mp (Attempts.select_ok read entity member).1).1

theorem Coherent.listAll {world : World State Entity} (coherent : repository.Coherent world) (context : Context)
    (ids : Option (List Id)) (specification : Option Spec) :
    repository.Coherent (repository.listAll context ids specification world).2 := by
  unfold CachingRepository.listAll executeReadThrough
  split
  next asked =>
    split
    next => exact coherent
    next =>
      dsimp only
      split
      next => exact coherent
      next =>
        split
        next => exact coherent
        next fresh read =>
          intro id entity found
          rcases setAll_some found with ⟨member,same⟩ | earlier
          · rw [← key_injective same]
            exact keptIn_of_mem (repository.inner.distinct world.store) (listed read entity member)
          · exact coherent id entity earlier
  next => exact coherent

theorem Coherent.step {world : World State Entity} (coherent : repository.Coherent world)
    (call : Call Context Id Entity Spec) : repository.Coherent (repository.step world call) := by
  cases call with
  | get context id specification => exact coherent.get context id specification
  | listAll context ids specification => exact coherent.listAll context ids specification
  | add context entity =>
    change repository.Coherent (repository.add context entity world).2
    unfold CachingRepository.add
    split
    next store id added => exact coherent.erase (repository.inner.add_others context entity _ _ _ added)
    next => exact coherent
  | delete context id specification =>
    change repository.Coherent (repository.delete context id specification world).2
    unfold CachingRepository.delete
    split
    next store deleted left =>
      exact coherent.erase (repository.inner.delete_others context id specification _ _ _ left)
    next => exact coherent
  | expire key => exact fun id entity found => coherent id entity (Dict.get_of_get_erase _ found)

theorem Coherent.run {world : World State Entity} (coherent : repository.Coherent world)
    (history : List (Call Context Id Entity Spec)) : repository.Coherent (repository.run world history) := by
  induction history generalizing world with
  | nil => exact coherent
  | cons call rest ih => exact ih (coherent.step call)

theorem Coherent.empty (store : State) : repository.Coherent ⟨store,Dict.empty⟩ :=
  fun _ _ found => nomatch found

end CachingRepository
end CqrsDdd.Caching
