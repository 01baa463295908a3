import CqrsDdd.Caching.Dispatcher

/-! No stale entry survives a commit as long as no reader stores what an uncommitted unit
of work is about to replace, or what one that has committed has replaced, after the
invalidation. -/
namespace CqrsDdd.Caching.CachingPersistenceDispatcher

variable {Id Data Uow Writer Reader : Type}

theorem split_first {separator : Char} {first second one other : List Char} (plain : separator ∉ first)
    (clean : separator ∉ second) (same : first ++ separator :: one = second ++ separator :: other) :
    first = second ∧ one = other := by
  induction first generalizing second with
  | nil =>
    cases second with
    | nil => exact ⟨rfl,(List.cons.inj same).2⟩
    | cons char rest =>
      rw [(List.cons.inj same).1] at clean
      exact absurd List.mem_cons_self clean
  | cons char rest ih =>
    cases second with
    | nil =>
      rw [(List.cons.inj same).1] at plain
      exact absurd List.mem_cons_self plain
    | cons head tail =>
      obtain ⟨rfl,later⟩ := List.cons.inj same
      obtain ⟨rfl,left⟩ := ih (fun member => plain (List.mem_cons_of_mem _ member))
        (fun member => clean (List.mem_cons_of_mem _ member)) later
      exact ⟨rfl,left⟩

theorem cacheKey_injective (ids : IdType Id) : Function.Injective (cacheKey ids) := by
  rintro ⟨first,one⟩ ⟨second,other⟩ same
  have lists := congrArg String.toList same
  simp only [cacheKey,String.toList_append] at lists
  have split : first.val.toList ++ ':' :: (ids.str one).toList = second.val.toList ++ ':' :: (ids.str other).toList := by
    simpa using lists
  obtain ⟨names,texts⟩ := split_first first.property second.property split
  rw [Subtype.ext (String.toList_inj.mp names),ids.str_injective (String.toList_inj.mp texts)]

section
variable {Key Value : Type} [DecidableEq Key] {keyOf : Value → Key} {values : List Value} {dict : Dict Key Value}
  {key : Key} {value : Value}

theorem setAll_agreed (agreed : ∀ other ∈ values, keyOf other = key → other = value)
    (there : (∃ other ∈ values, keyOf other = key) ∨ dict.get key = some value) :
    (setAll keyOf values dict).get key = some value := by
  induction values generalizing dict with
  | nil => exact there.resolve_left fun ⟨_,member,_⟩ => (nomatch member)
  | cons first rest ih =>
    refine ih (fun other member => agreed other (List.mem_cons_of_mem first member)) ?_
    by_cases own : keyOf first = key
    · right
      change (dict.set (keyOf first) first).get key = some value
      rw [own,Dict.get_set_same,agreed first List.mem_cons_self own]
    · change _ ∨ (dict.set (keyOf first) first).get key = some value
      rw [Dict.get_set_other dict first (Ne.symm own)]
      rcases there with ⟨other,member,same⟩ | stored
      · rcases List.mem_cons.mp member with rfl | later
        · exact absurd same own
        · exact .inl ⟨other,later,same⟩
      · exact .inr stored

end

variable [DecidableEq Id]

/-- An entry for the aggregate will do: a call of `apply` that has written the aggregate has yet to invalidate it, or it is
what all units of work have written that are to commit, and is committed or will be. -/
def Tenable (world : World Id Data Uow Writer Reader) (key : EntityName × Id) (entity : Entity Id Data) : Prop :=
  (∃ writer written, world.applying writer = some written ∧ written.key = key) ∨
  ((∀ entry ∈ world.pending, entry.2.key = key → entry.2 = entity) ∧
    (world.committed.get key = some entity ∨ ∃ entry ∈ world.pending, entry.2.key = key))

/-- The invalidation reaches the cache, and what a reader stores is tenable. -/
def Allowed (ids : IdType Id) (world : World Id Data Uow Writer Reader) : Step Id Data Uow Writer Reader → Prop
  | .invalidate _ works => works = true
  | .update reader works => works = true → ∀ type results fresh, world.readers reader = .fetched type results fresh →
    ∀ entity ∈ World.cacheable ids fresh, Tenable world (type,entity.id) entity
  | _ => True

def Inv (ids : IdType Id) (world : World Id Data Uow Writer Reader) : Prop :=
  ∀ key entity, world.cache.get (cacheKey ids key) = some entity → Tenable world key entity

variable {ids : IdType Id} {world : World Id Data Uow Writer Reader}

theorem Inv.persist [DecidableEq Writer] (inv : Inv ids world) {writer : Writer} (idle : world.applying writer = none) (uow : Uow)
    (entity : Entity Id Data) : Inv ids (world.persist writer uow entity) := by
  intro key cached found
  have applies (other : Writer) (written : Entity Id Data) (there : world.applying other = some written) :
      Function.update world.applying writer (some entity) other = some written := by
    rw [Function.update_of_ne,there]
    rintro rfl
    cases idle.symm.trans there
  by_cases same : entity.key = key
  · exact .inl ⟨writer,entity,Function.update_self _ _ _,same⟩
  · rcases inv key cached found with ⟨other,written,there,own⟩ | ⟨agreed,kept⟩
    · exact .inl ⟨other,written,applies other written there,own⟩
    · right
      constructor
      · intro entry member own
        rcases List.mem_append.mp member with earlier | last
        · exact agreed entry earlier own
        · obtain rfl := List.mem_singleton.mp last
          exact absurd own same
      · rcases kept with committed | ⟨entry,member,own⟩
        · exact .inl committed
        · exact .inr ⟨entry,List.mem_append_left _ member,own⟩

theorem Inv.invalidate [DecidableEq Writer] (inv : Inv ids world) {writer : Writer} {entity : Entity Id Data}
    (applying : world.applying writer = some entity) : Inv ids (world.invalidate ids writer entity true) := by
  intro key cached found
  have kept : (world.cache.erase (cacheKey ids entity.key)).get (cacheKey ids key) = some cached :=
    Dict.get_of_get_erase _ found
  have other : entity.key ≠ key := by
    rintro rfl
    rw [Dict.get_erase_same] at kept
    cases kept
  rcases inv key cached (Dict.get_of_get_erase _ kept) with ⟨also,written,there,own⟩ | agreed
  · refine .inl ⟨also,written,?_,own⟩
    have differs : also ≠ writer := by
      rintro rfl
      rw [Option.some.inj (applying.symm.trans there)] at other
      exact other own
    exact (Function.update_of_ne differs _ _).trans there
  · exact .inr agreed

theorem Inv.commit [DecidableEq Uow] (inv : Inv ids world) (uow : Uow) : Inv ids (world.commit uow) := by
  intro key cached found
  rcases inv key cached found with applying | ⟨agreed,kept⟩
  · exact .inl applying
  · refine .inr ⟨fun entry member => agreed entry (List.mem_filter.mp member).1,?_⟩
    by_cases left : ∃ entry ∈ world.pending.filter fun entry => entry.1 ≠ uow, entry.2.key = key
    · exact .inr left
    · left
      apply setAll_agreed
      · intro other member own
        obtain ⟨entry,chosen,rfl⟩ := List.mem_map.mp member
        exact agreed entry (List.mem_filter.mp chosen).1 own
      · rcases kept with committed | ⟨entry,member,own⟩
        · exact .inr committed
        · refine .inl ⟨entry.2,List.mem_map_of_mem (List.mem_filter.mpr ⟨member,?_⟩),own⟩
          by_contra other
          exact left ⟨entry,List.mem_filter.mpr ⟨member,by simpa using other⟩,own⟩

theorem Inv.update [DecidableEq Reader] (inv : Inv ids world) (reader : Reader) {works : Bool}
    (allowed : Allowed ids world (.update reader works)) : Inv ids (world.update ids reader works) := by
  unfold World.update
  split
  next type results fresh fetched =>
    intro key cached found
    cases works with
    | false => exact inv key cached found
    | true =>
      rcases setAll_some found with ⟨member,same⟩ | earlier
      · obtain rfl := cacheKey_injective ids same
        exact allowed rfl type results fresh fetched cached member
      · exact inv key cached earlier
  next => exact inv

variable [DecidableEq Uow] [DecidableEq Writer] [DecidableEq Reader]

theorem Inv.step (inv : Inv ids world) (action : Step Id Data Uow Writer Reader) (allowed : Allowed ids world action) :
    Inv ids (world.step ids action) := by
  cases action with
  | persist writer uow entity =>
    dsimp only [World.step]
    split
    next idle => exact inv.persist idle uow entity
    next => exact inv
  | invalidate writer works =>
    obtain rfl : works = true := allowed
    dsimp only [World.step]
    split
    next entity applying => exact inv.invalidate applying
    next => exact inv
  | commit uow => exact inv.commit uow
  | lookUp reader type asked uow specification works =>
    dsimp only [World.step]
    split
    next => exact inv
    next =>
      unfold World.lookUp
      dsimp only
      split
      next => exact inv
      next => exact inv
  | fetch reader =>
    dsimp only [World.step,World.fetch]
    split
    next => exact inv
    next => exact inv
  | update reader works => exact inv.update reader allowed
  | expire key => exact fun other cached found => inv other cached (Dict.get_of_get_erase _ found)

def Finished (world : World Id Data Uow Writer Reader) : Prop :=
  world.pending = [] ∧ (∀ writer, world.applying writer = none) ∧
    ∀ reader, (world.readers reader).underWay = false

theorem no_stale_entry (ids : IdType Id) (committed : Dict (EntityName × Id) (Entity Id Data))
    (actions : List (Step Id Data Uow Writer Reader))
    (allowed : Transition.Meets (World.step ids) (Allowed ids) (World.initial committed) actions) :
    let world := Transition.run (World.step ids) (World.initial committed) actions
    Finished world → ∀ key entity, world.cache.get (cacheKey ids key) = some entity →
      world.committed.get key = some entity := by
  intro world finished key entity found
  have inv : Inv ids world := Transition.run_invariant (Inv ids) (fun _ action inv allowed => inv.step action allowed) _
    actions (fun _ _ nothing => nomatch nothing) allowed
  rcases inv key entity found with ⟨writer,written,there,_⟩ | ⟨_,kept⟩
  · cases (finished.2.1 writer).symm.trans there
  · rcases kept with committed | ⟨entry,member,_⟩
    · exact committed
    · rw [finished.1] at member
      cases member

def texts : IdType String := ⟨id,fun text => text ≠ "",Function.injective_id⟩

def order (data : Nat) : Entity String Nat := ⟨⟨"Order",by decide⟩,"1",data⟩

def orders : Dict (EntityName × String) (Entity String Nat) := Dict.empty.set (order 1).key (order 1)

def reading : List (Step String Nat Unit Unit Unit) :=
  [.lookUp () (order 1).type ["1"] none (fun _ => true) true,.fetch (),.update () true]

def applying : List (Step String Nat Unit Unit Unit) := [.persist () () (order 2),.invalidate () true]

/-- An order is read, replaced, and read again. -/
theorem no_stale_entry_reread :
    let world := Transition.run (World.step texts) (World.initial orders) (reading ++ applying ++ .commit ()::reading)
    world.cache.get (cacheKey texts (order 1).key) = some (order 2) ∧ world.committed.get (order 1).key = some (order 2) := by
  refine ⟨rfl,no_stale_entry texts orders (reading ++ applying ++ .commit ()::reading) ?_
    ⟨rfl,fun _ => rfl,fun _ => rfl⟩ (order 1).key (order 2) rfl⟩
  refine ⟨trivial,trivial,fun _ type results fresh fetched entity member => ?_,trivial,rfl,trivial,trivial,trivial,
    fun _ type results fresh fetched entity member => ?_,trivial⟩
  · cases fetched
    obtain rfl := List.mem_singleton.mp member
    exact .inr ⟨fun _ none => (nomatch none),.inl rfl⟩
  · cases fetched
    obtain rfl := List.mem_singleton.mp member
    exact .inr ⟨fun _ none => (nomatch none),.inl rfl⟩

/-- A reader fills the cache between the invalidation and the commit. -/
theorem stale_entry_survives :
    let world := Transition.run (World.step texts) (World.initial orders) (applying ++ reading ++ [.commit ()])
    Finished world ∧ world.cache.get (cacheKey texts (order 1).key) = some (order 1) ∧
      world.committed.get (order 1).key = some (order 2) :=
  ⟨⟨rfl,fun _ => rfl,fun _ => rfl⟩,rfl,rfl⟩

end CqrsDdd.Caching.CachingPersistenceDispatcher
