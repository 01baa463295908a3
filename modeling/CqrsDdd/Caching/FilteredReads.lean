import CqrsDdd.Caching.ReadThrough

/-! When the caching decorator answers a read as the repository under it would. Entries
are found by id alone, so this is a matter of what the call admits, and for lists
of the order in which the ids are asked for. -/
namespace CqrsDdd.Caching

variable {State Context Id Entity Spec Failure : Type} [DecidableEq Id]

def passes (admits : Entity → Except Failure Bool) (entity : Entity) : Bool :=
  match admits entity with
  | .ok admitted => admitted
  | .error _ => false

theorem admits_of_passes {admits : Entity → Except Failure Bool} {entity : Entity}
    (passed : passes admits entity = true) : admits entity = .ok true := by
  unfold passes at passed
  split at passed
  next answered => rw [answered,passed]
  next => cases passed

theorem passes_of_admits {admits : Entity → Except Failure Bool} {entity : Entity}
    (admitted : admits entity = .ok true) : passes admits entity = true := by
  unfold passes
  rw [admitted]

theorem select_raises {admits : Entity → Except Failure Bool} {entities : List Entity} {entity : Entity}
    {failure : Failure} (member : entity ∈ entities) (raises : admits entity = .error failure) :
    ∃ first, Attempts.select admits entities = .error first := by
  cases selected : Attempts.select admits entities with
  | error first => exact ⟨first,rfl⟩
  | ok outputs =>
    obtain ⟨chosen,answered⟩ := Attempts.select_answered selected entity member
    cases raises.symm.trans answered

theorem select_passes {admits : Entity → Except Failure Bool} {entities : List Entity}
    (quiet : ∀ entity ∈ entities, ∀ failure, admits entity ≠ .error failure) :
    Attempts.select admits entities = .ok (entities.filter (passes admits)) := by
  apply Attempts.select_of_answers
  intro entity member
  unfold passes
  cases answered : admits entity with
  | ok admitted => rfl
  | error failure => cases quiet entity member failure answered

section
variable {identity : Entity → Id} {rows : List Entity}

theorem keptIn_filter (distinct : (rows.map identity).Nodup) (keep : Entity → Bool) (id : Id) :
    keptIn identity (rows.filter keep) id = (keptIn identity rows id).filter keep := by
  have fewer : ((rows.filter keep).map identity).Nodup := distinct.sublist (List.filter_sublist.map identity)
  cases left : keptIn identity (rows.filter keep) id with
  | some entity =>
    obtain ⟨member,kept⟩ := List.mem_filter.mp (keptIn_mem left)
    rw [← keptIn_identity left,keptIn_of_mem distinct member,Option.filter_some_pos kept]
  | none =>
    cases found : keptIn identity rows id with
    | none => rfl
    | some entity =>
      cases kept : keep entity with
      | false => rw [Option.filter_some_neg (by simp [kept])]
      | true =>
        have there := keptIn_of_mem fewer (List.mem_filter.mpr ⟨keptIn_mem found,kept⟩)
        rw [keptIn_identity found,left] at there
        cases there

theorem recovered (distinct : (rows.map identity).Nodup) {chosen : List Entity} (inside : ∀ entity ∈ chosen, entity ∈ rows) :
    (chosen.map identity).filterMap (keptIn identity rows) = chosen := by
  rw [List.filterMap_map]
  have each : ∀ entity ∈ chosen, (keptIn identity rows ∘ identity) entity = some entity :=
    fun entity member => keptIn_of_mem distinct (inside entity member)
  rw [List.filterMap_congr each,List.filterMap_some]

theorem same_ids_iff (distinct : (rows.map identity).Nodup) {first second : List Entity}
    (firstInside : ∀ entity ∈ first, entity ∈ rows) (secondInside : ∀ entity ∈ second, entity ∈ rows) :
    first = second ↔ first.map identity = second.map identity := by
  constructor
  · exact congrArg _
  · intro same
    rw [← recovered distinct firstInside,same,recovered distinct secondInside]

omit [DecidableEq Id] in
theorem identities_filterMap {look : Id → Option Entity} (own : ∀ id entity, look id = some entity → identity entity = id)
    (ids : List Id) : (ids.filterMap look).map identity = ids.filter fun id => (look id).isSome := by
  induction ids with
  | nil => rfl
  | cons id rest ih =>
    cases found : look id with
    | none => rw [List.filterMap_cons_none found,List.filter_cons_of_neg (by simp [found]),ih]
    | some entity =>
      rw [List.filterMap_cons_some found,List.filter_cons_of_pos (by simp [found]),List.map_cons,ih,own id entity found]

theorem identities_filter (distinct : (rows.map identity).Nodup) (keep : Entity → Bool) (ids : List Id) :
    ((rows.filter fun entity => decide (identity entity ∈ ids)).filter keep).map identity =
      (rows.map identity).filter fun id => decide (id ∈ ids) && (keptIn identity rows id).any keep := by
  rw [List.filter_filter,List.filter_map]
  apply congrArg
  apply List.filter_congr
  intro entity member
  rw [Function.comp_apply,keptIn_of_mem distinct member,Option.any_some,Bool.and_comm]

end

namespace CachingRepository

variable (repository : CachingRepository State Context Id Entity Spec Failure)

def kept (world : World State Entity) (id : Id) : Option Entity :=
  keptIn repository.inner.identity (repository.inner.rows world.store) id

def cached (world : World State Entity) (id : Id) : Option Entity := world.cache.get (repository.key id)

def AdmitsCached (context : Context) (specification : Option Spec) (world : World State Entity) (id : Id) : Prop :=
  ∀ entity, repository.cached world id = some entity →
    ∃ admits, repository.inner.admission context specification = .ok admits ∧ admits entity = .ok true

def Raises (context : Context) (specification : Option Spec) (world : World State Entity) (ids : List Id) : Prop :=
  ∃ id ∈ ids, repository.cached world id = none ∧ ∀ admits,
    repository.inner.admission context specification = .ok admits →
    ∃ entity failure, repository.kept world id = some entity ∧ admits entity = .error failure

/-- The ids whose rows pass are asked for once, in the order of the rows. -/
def InOrder (admits : Entity → Except Failure Bool) (world : World State Entity) (ids : List Id) : Prop :=
  ids.filter (fun id => (repository.kept world id).any (passes admits)) =
    ((repository.inner.rows world.store).map repository.inner.identity).filter fun id =>
      decide (id ∈ ids) && (repository.kept world id).any (passes admits)

/-- All that is cached for the ids is admitted, and they are in order. -/
def Faithful (context : Context) (specification : Option Spec) (world : World State Entity) (ids : List Id) : Prop :=
  ∃ admits, repository.inner.admission context specification = .ok admits ∧
    (∀ id ∈ ids, ∀ entity, repository.cached world id = some entity → admits entity = .ok true) ∧
    repository.InOrder admits world ids

variable {repository}

theorem get_agrees {world : World State Entity} (coherent : repository.Coherent world) (context : Context) (id : Id)
    (specification : Option Spec) :
    (repository.get context id specification world).1 = repository.inner.get context id specification world.store ↔
      repository.AdmitsCached context specification world id := by
  unfold CachingRepository.get AdmitsCached cached
  cases hit : world.cache.get (repository.key id) with
  | none =>
    refine ⟨fun _ _ found => (nomatch found),fun _ => ?_⟩
    dsimp only
    split
    next read => exact read.symm
    next => rfl
  | some entity =>
    rw [repository.inner.get_reads,coherent id entity hit]
    constructor
    · intro same other found
      cases found
      obtain ⟨admits,restricted,read⟩ := Attempts.bind_ok.mp same.symm
      exact ⟨admits,restricted,(readOne_some read).2⟩
    · intro admitted
      obtain ⟨admits,restricted,answered⟩ := admitted entity rfl
      symm
      apply Attempts.bind_ok.mpr
      refine ⟨admits,restricted,?_⟩
      rw [readOne,answered]
      rfl

theorem missing_some {world : World State Entity} (ids : List Id)
    (incomplete : ¬(collectMissingIds (ids.zip (ids.map fun id => world.cache.get (repository.key id)))).2 = []) :
    ∃ id ∈ ids, repository.cached world id = none := by
  obtain ⟨id,member⟩ := List.exists_mem_of_ne_nil _ incomplete
  rw [(collected _ ids).1] at member
  exact ⟨id,(List.mem_filter.mp member).1,Option.isNone_iff_eq_none.mp (List.mem_filter.mp member).2⟩

theorem readThrough_error {ids : List Id} {fetch : List Id → Except Failure (List Entity)} {world : World State Entity}
    {failure : Failure} {id : Id} (member : id ∈ ids) (uncached : repository.cached world id = none)
    (failed : fetch (ids.filter fun id => (repository.cached world id).isNone) = .error failure) :
    (repository.executeReadThrough ids fetch world).1 = .error failure := by
  have missing : id ∈ ids.filter fun id => (repository.cached world id).isNone :=
    List.mem_filter.mpr ⟨member,by rw [uncached]; rfl⟩
  have gathered := (collected (repository.cached world) ids).1
  unfold executeReadThrough
  rw [if_neg (List.ne_nil_of_mem member)]
  unfold cached at gathered failed missing
  rw [← gathered] at failed missing
  dsimp only
  rw [if_neg (List.ne_nil_of_mem missing),failed]

theorem readThrough_ok {ids : List Id} {fetch : List Id → Except Failure (List Entity)} {world : World State Entity}
    {fresh : List Entity} (distinct : (fresh.map repository.inner.identity).Nodup)
    (fetched : (∃ id ∈ ids, repository.cached world id = none) →
      fetch (ids.filter fun id => (repository.cached world id).isNone) = .ok fresh)
    (own : ∀ entity ∈ fresh, repository.cached world (repository.inner.identity entity) = none) :
    (repository.executeReadThrough ids fetch world).1 = .ok (ids.filterMap fun id =>
      (repository.cached world id).or (keptIn repository.inner.identity fresh id)) := by
  have gathered := collected (repository.cached world) ids
  unfold executeReadThrough
  split
  next none => rw [none]; rfl
  next =>
    dsimp only
    split
    next complete =>
      apply congrArg Except.ok
      apply List.filterMap_congr
      intro id member
      change (collectMissingIds (ids.zip (ids.map (repository.cached world)))).1.get id = _
      rw [gathered.2 id,if_pos member]
      cases hit : repository.cached world id with
      | some entity => rfl
      | none =>
        have missing : id ∈ ids.filter fun id => (repository.cached world id).isNone :=
          List.mem_filter.mpr ⟨member,by rw [hit]; rfl⟩
        rw [← gathered.1] at missing
        change (collectMissingIds (ids.zip (ids.map (repository.cached world)))).2 = [] at complete
        rw [complete] at missing
        cases missing
    next incomplete =>
      have called := fetched (missing_some ids incomplete)
      rw [← gathered.1] at called
      unfold cached at called
      rw [called]
      apply congrArg Except.ok
      apply List.filterMap_congr
      intro id member
      rw [get_setAll distinct]
      change (keptIn repository.inner.identity fresh id).or
        ((collectMissingIds (ids.zip (ids.map (repository.cached world)))).1.get id) = _
      rw [gathered.2 id,if_pos member]
      cases brought : keptIn repository.inner.identity fresh id with
      | none =>
        rw [Option.or_none]
        rfl
      | some entity =>
        have uncached := own entity (keptIn_mem brought)
        rw [keptIn_identity brought] at uncached
        rw [uncached]
        rfl

variable {context : Context} {specification : Option Spec} {world : World State Entity}
  {admits : Entity → Except Failure Bool} {ids : List Id}

theorem inner_listAll (restricted : repository.inner.admission context specification = .ok admits) (ids : List Id) :
    repository.inner.listAll context (some ids) specification world.store =
      Attempts.select admits ((repository.inner.rows world.store).filter fun entity =>
        decide (repository.inner.identity entity ∈ ids)) := by
  rw [repository.inner.listAll_selects,restricted]
  rfl

theorem inner_raises {id : Id} (member : id ∈ ids) (raising : ∀ admits,
    repository.inner.admission context specification = .ok admits →
      ∃ entity failure, repository.kept world id = some entity ∧ admits entity = .error failure) :
    ∃ failure, repository.inner.listAll context (some ids) specification world.store = .error failure := by
  cases restricted : repository.inner.admission context specification with
  | error failure =>
    rw [repository.inner.listAll_selects,restricted]
    exact ⟨failure,rfl⟩
  | ok admits =>
    obtain ⟨entity,failure,found,raises⟩ := raising admits restricted
    rw [inner_listAll restricted]
    exact select_raises (List.mem_filter.mpr
      ⟨keptIn_mem found,by rw [keptIn_identity found]; exact decide_eq_true member⟩) raises

theorem listAll_quiet (restricted : repository.inner.admission context specification = .ok admits)
    (quiet : ∀ id ∈ ids, repository.cached world id = none → ∀ entity, repository.kept world id = some entity →
      ∀ failure, admits entity ≠ .error failure) :
    (repository.listAll context (some ids) specification world).1 = .ok (ids.filterMap fun id =>
      (repository.cached world id).or ((repository.kept world id).filter (passes admits))) := by
  have distinct := repository.inner.distinct world.store
  let missing := ids.filter fun id => (repository.cached world id).isNone
  let asked := (repository.inner.rows world.store).filter fun entity =>
    decide (repository.inner.identity entity ∈ missing)
  have uncached : ∀ entity ∈ asked, repository.inner.identity entity ∈ ids ∧
      repository.cached world (repository.inner.identity entity) = none := by
    intro entity member
    have inside : repository.inner.identity entity ∈ missing := of_decide_eq_true (List.mem_filter.mp member).2
    exact ⟨(List.mem_filter.mp inside).1,Option.isNone_iff_eq_none.mp (List.mem_filter.mp inside).2⟩
  have fetched : repository.inner.listAll context (some missing) specification world.store =
      .ok (asked.filter (passes admits)) := by
    rw [inner_listAll restricted]
    apply select_passes
    intro entity member
    exact quiet _ (uncached entity member).1 (uncached entity member).2 entity
      (keptIn_of_mem distinct (List.mem_filter.mp member).1)
  have fewer : ((asked.filter (passes admits)).map repository.inner.identity).Nodup :=
    distinct.sublist ((List.filter_sublist.trans List.filter_sublist).map _)
  unfold CachingRepository.listAll
  rw [readThrough_ok fewer (fun _ => fetched) fun entity member => (uncached entity (List.mem_filter.mp member).1).2]
  apply congrArg Except.ok
  apply List.filterMap_congr
  intro id member
  cases hit : repository.cached world id with
  | some entity => rfl
  | none =>
    have wanted : id ∈ missing := List.mem_filter.mpr ⟨member,by rw [hit]; rfl⟩
    change keptIn repository.inner.identity (asked.filter (passes admits)) id = _
    rw [keptIn_filter (distinct.sublist (List.filter_sublist.map _)),keptIn_filter distinct]
    change ((repository.kept world id).filter _).filter _ = (repository.kept world id).filter _
    cases found : repository.kept world id with
    | none => rfl
    | some entity => rw [Option.filter_some_pos (by rw [keptIn_identity found]; exact decide_eq_true wanted)]

theorem listed_agrees (coherent : repository.Coherent world)
    (restricted : repository.inner.admission context specification = .ok admits) :
    (ids.filterMap fun id => (repository.cached world id).or ((repository.kept world id).filter (passes admits))) =
        ((repository.inner.rows world.store).filter fun entity =>
          decide (repository.inner.identity entity ∈ ids)).filter (passes admits) ↔
      repository.Faithful context specification world ids := by
  have distinct := repository.inner.distinct world.store
  let look (id : Id) := (repository.cached world id).or ((repository.kept world id).filter (passes admits))
  have known (id : Id) (entity : Entity) (found : look id = some entity) :
      keptIn repository.inner.identity (repository.inner.rows world.store) id = some entity := by
    rcases Option.or_eq_some_iff.mp found with hit | ⟨_,filtered⟩
    · exact coherent id entity hit
    · exact (Option.filter_eq_some_iff.mp filtered).1
  have inside : ∀ entity ∈ ids.filterMap look, entity ∈ repository.inner.rows world.store := by
    intro entity member
    obtain ⟨id,_,found⟩ := List.mem_filterMap.mp member
    exact keptIn_mem (known id entity found)
  let filtered := ((repository.inner.rows world.store).filter fun entity =>
    decide (repository.inner.identity entity ∈ ids)).filter (passes admits)
  have split : ids.filterMap look = filtered ↔ ids.filter (fun id => (look id).isSome) =
      ((repository.inner.rows world.store).map repository.inner.identity).filter fun id =>
        decide (id ∈ ids) && (repository.kept world id).any (passes admits) := by
    have told : ids.filterMap look = filtered ↔ (ids.filterMap look).map repository.inner.identity =
        filtered.map repository.inner.identity :=
      same_ids_iff distinct inside fun entity member => (List.mem_filter.mp (List.mem_filter.mp member).1).1
    rwa [identities_filterMap fun id entity found => keptIn_identity (known id entity found),
      identities_filter distinct] at told
  have answered (admitted : ∀ id ∈ ids, ∀ entity, repository.cached world id = some entity → admits entity = .ok true) :
      ids.filter (fun id => (look id).isSome) = ids.filter fun id => (repository.kept world id).any (passes admits) := by
    apply List.filter_congr
    intro id member
    change ((repository.cached world id).or ((repository.kept world id).filter (passes admits))).isSome = _
    cases hit : repository.cached world id with
    | none => exact Option.isSome_filter
    | some entity =>
      have passed := passes_of_admits (admitted id member entity hit)
      change true = (keptIn _ _ id).any _
      rw [coherent id entity hit,Option.any_some,passed]
  constructor
  · intro same
    have admitted : ∀ id ∈ ids, ∀ entity, repository.cached world id = some entity → admits entity = .ok true := by
      intro id member entity hit
      have listed : entity ∈ ids.filterMap look := by
        apply List.mem_filterMap.mpr
        refine ⟨id,member,?_⟩
        change (repository.cached world id).or _ = some entity
        rw [hit]
        rfl
      rw [show ids.filterMap look = filtered from same] at listed
      exact admits_of_passes (List.mem_filter.mp listed).2
    exact ⟨admits,restricted,admitted,(answered admitted).symm.trans (split.mp same)⟩
  · rintro ⟨other,again,admitted,ordered⟩
    obtain rfl := Except.ok.inj (restricted.symm.trans again)
    exact split.mpr ((answered admitted).trans ordered)

theorem listAll_agrees (coherent : repository.Coherent world) (context : Context) (ids : List Id)
    (specification : Option Spec) :
    (repository.listAll context (some ids) specification world).1.toOption =
        (repository.inner.listAll context (some ids) specification world.store).toOption ↔
      repository.Raises context specification world ids ∨ repository.Faithful context specification world ids := by
  by_cases raises : repository.Raises context specification world ids
  · obtain ⟨id,member,uncached,raising⟩ := id raises
    obtain ⟨first,failed⟩ := inner_raises member raising
    have missing : id ∈ ids.filter fun id => (repository.cached world id).isNone :=
      List.mem_filter.mpr ⟨member,by rw [uncached]; rfl⟩
    obtain ⟨failure,fetched⟩ := inner_raises missing raising
    apply iff_of_true _ (.inl raises)
    unfold CachingRepository.listAll
    rw [readThrough_error member uncached fetched,failed]
    rfl
  · rw [or_iff_right raises]
    cases restricted : repository.inner.admission context specification with
    | error failure =>
      have complete : ¬∃ id ∈ ids, repository.cached world id = none :=
        fun ⟨id,member,uncached⟩ => raises ⟨id,member,uncached,fun _ had => nomatch restricted.symm.trans had⟩
      apply iff_of_false
      · have returned : (repository.executeReadThrough ids
            (fun missing => repository.inner.listAll context (some missing) specification world.store) world).1 =
              .ok (ids.filterMap fun id => (repository.cached world id).or (keptIn repository.inner.identity [] id)) :=
          readThrough_ok List.nodup_nil (fun missing => absurd missing complete) fun _ member => (nomatch member)
        unfold CachingRepository.listAll
        rw [returned,repository.inner.listAll_selects,restricted]
        exact fun same => nomatch same
      · rintro ⟨admits,had,_⟩
        cases restricted.symm.trans had
    | ok admits =>
      have quiet : ∀ id ∈ ids, repository.cached world id = none → ∀ entity, repository.kept world id = some entity →
          ∀ failure, admits entity ≠ .error failure := by
        intro id member uncached entity found failure raising
        refine raises ⟨id,member,uncached,fun other had => ?_⟩
        obtain rfl := Except.ok.inj (restricted.symm.trans had)
        exact ⟨entity,failure,found,raising⟩
      rw [listAll_quiet restricted quiet,inner_listAll restricted]
      by_cases loud : ∃ entity ∈ (repository.inner.rows world.store).filter fun entity =>
          decide (repository.inner.identity entity ∈ ids), ∃ failure, admits entity = .error failure
      · obtain ⟨entity,member,failure,raising⟩ := loud
        obtain ⟨first,failed⟩ := select_raises member raising
        obtain ⟨row,wanted⟩ := List.mem_filter.mp member
        have found := keptIn_of_mem (repository.inner.distinct world.store) row
        rw [failed]
        apply iff_of_false fun same => nomatch same
        rintro ⟨other,had,admitted,_⟩
        obtain rfl := Except.ok.inj (restricted.symm.trans had)
        cases hit : repository.cached world (repository.inner.identity entity) with
        | none => exact quiet _ (of_decide_eq_true wanted) hit entity found failure raising
        | some entry =>
          obtain rfl := Option.some.inj (found.symm.trans (coherent _ entry hit))
          cases raising.symm.trans (admitted _ (of_decide_eq_true wanted) entity hit)
      · rw [select_passes fun entity member failure raising => loud ⟨entity,member,failure,raising⟩,
          ← listed_agrees coherent restricted]
        exact ⟨fun same => Option.some.inj same,congrArg some⟩

/-- After any history that began with nothing cached. -/
theorem reads_agree_iff (repository : CachingRepository State Context Id Entity Spec Failure) (store : State)
    (history : List (Call Context Id Entity Spec)) (context : Context) (specification : Option Spec) :
    let world := repository.run ⟨store,Dict.empty⟩ history
    (∀ id, (repository.get context id specification world).1 =
        repository.inner.get context id specification world.store ↔
      repository.AdmitsCached context specification world id) ∧
    (∀ ids, (repository.listAll context (some ids) specification world).1.toOption =
        (repository.inner.listAll context (some ids) specification world.store).toOption ↔
      repository.Raises context specification world ids ∨ repository.Faithful context specification world ids) ∧
    (repository.listAll context none specification world).1 =
      repository.inner.listAll context none specification world.store := by
  have coherent := (Coherent.empty store : repository.Coherent _).run history
  exact ⟨fun id => get_agrees coherent context id specification,
    fun ids => listAll_agrees coherent context ids specification,rfl⟩

/-- The entity of one tenant, read without a filter and then with the filter of another. -/
theorem another_tenants_entity :
    ∃ (repository : CachingRepository (KeyedStore String Empty) Unit String (Multitenancy.Entity String Empty)
        (Multitenancy.ISpecification String Empty) (Multitenancy.Failure Empty)) (store : KeyedStore String Empty)
      (entity : Multitenancy.Entity String Empty) (history : List (Call Unit String (Multitenancy.Entity String Empty)
        (Multitenancy.ISpecification String Empty))) (own : Multitenancy.ISpecification String Empty),
      let world := repository.run ⟨store,Dict.empty⟩ history
      repository.inner.get () "1" (some own) world.store = .ok none ∧
      (repository.get () "1" (some own) world).1 = .ok (some entity) ∧
      (repository.listAll () (some ["1"]) (some own) world).1 = .ok [entity] := by
  let entity : Multitenancy.Entity String Empty := ⟨"1",[("tenant_id",.text "b")],none,.setattr⟩
  let own : Multitenancy.ISpecification String Empty :=
    ⟨fun found => .ok ((found.attributes.lookup "tenant_id").any fun tenant => tenant.isText "a"),false⟩
  refine ⟨⟨inMemoryRepository String Empty,"order",id,Function.injective_id⟩,⟨Dict.empty,fun _ member => nomatch member⟩,
    entity,[.add () entity,.get () "1" none],own,?_⟩
  exact ⟨rfl,rfl,rfl⟩

end CachingRepository
end CqrsDdd.Caching
