import CqrsDdd.Multitenancy.Repository

/-! What the mixin hands on to the repository in the context of a tenant: entities
labelled with the tenant, and specifications that reject every entity stored
under another one before they ask anything else. -/
namespace CqrsDdd.Multitenancy

open Specifications Attempts

variable {Id Object : Type}

/-- A tenant that `set_tenant` accepts and that is not the system. -/
@[ext] structure Tenant where
  id : String
  nonempty : id ≠ ""
  ordinary : id ≠ systemTenant
  deriving DecidableEq

theorem isSystemTenant_tenant (tenant : Tenant) : isSystemTenant (some tenant.id) = false :=
  decide_eq_false fun system => tenant.ordinary (Option.some.inj system)

def acme : Tenant := ⟨"acme",by decide,by decide⟩

def globex : Tenant := ⟨"globex",by decide,by decide⟩

namespace MultitenantRepository

theorem requireTenantContext_tenant (tenant : Tenant) :
    (requireTenantContext (some tenant.id) : Except (Failure Object) String) = .ok tenant.id := by
  unfold requireTenantContext
  split
  next absent => cases absent
  next empty => exact absurd (Option.some.inj empty) tenant.nonempty
  next present => exact congrArg Except.ok (Option.some.inj present).symm

theorem restricted_tenant (repository : MultitenantRepository Id Object) (tenant : Tenant)
    (specification : Option (ISpecification Id Object)) : restricted repository (some tenant.id) specification =
      .ok (some (composeSpecs (buildTenantSpecification repository tenant.id) specification)) := by
  simp [restricted,isSystemTenant_tenant,requireTenantContext_tenant,bind,Except.bind,pure,Except.pure]

theorem search_tenant (repository : MultitenantRepository Id Object) (tenant : Tenant) (store : Store Id Object)
    (criteria : Criteria Id Object) : search repository (some tenant.id) store criteria =
      searchInner repository store (composeTenantFilter repository tenant.id criteria) := by
  simp [search,isSystemTenant_tenant,requireTenantContext_tenant,bind,Except.bind]

theorem searchInner_specification (repository : MultitenantRepository Id Object) (store : Store Id Object)
    (specification : ISpecification Id Object) : searchInner repository store (.specification specification) =
      InMemoryRepository.matching (some specification) store.values :=
  (select_map specification.isSatisfiedBy Stored.entity store.values).symm

theorem add_tenant [DecidableEq Id] (repository : MultitenantRepository Id Object) (tenant : Tenant)
    (store : Store Id Object) (entity : Entity Id Object) : add repository (some tenant.id) store entity =
      (inject repository tenant.id entity).map fun labelled =>
        (InMemoryRepository.add store ⟨labelled,tenant.id⟩,labelled.id) := by
  cases injected : inject repository tenant.id entity with
  | error failure =>
    simp [add,isSystemTenant_tenant,requireTenantContext_tenant,injected,bind,Except.bind,Except.map]
  | ok labelled =>
    simp [add,isSystemTenant_tenant,requireTenantContext_tenant,injected,bind,Except.bind,pure,Except.pure,Except.map]

/-- The tenant that an entity names, if any, is the one it was stored under. -/
def Labelled (repository : MultitenantRepository Id Object) (stored : Stored Id Object) : Prop :=
  ∀ tenant, stored.entity.attributes.lookup repository.tenantColumn = some (.text tenant) → tenant = stored.storedUnder

theorem isText_iff {value : Value Object} {name : String} : value.isText name = true ↔ value = .text name := by
  cases value with
  | text content => simp [Value.isText]
  | null | bool _ | number _ | list _ | tuple _ | dict _ | object _ => simp [Value.isText]

theorem setTenantIdOnEntity_ok {repository : MultitenantRepository Id Object} {entity labelled : Entity Id Object}
    {tenant : String} (made : setTenantIdOnEntity repository entity tenant = .ok labelled) :
    labelled.id = entity.id ∧ (labelled = entity ∨
      labelled.attributes.lookup repository.tenantColumn = some (.text tenant)) := by
  unfold setTenantIdOnEntity at made
  split at made
  next =>
    obtain rfl := Except.ok.inj made
    exact ⟨rfl,.inr (by rw [Dict.lookup_put,if_pos rfl])⟩
  next =>
    obtain rfl := Except.ok.inj made
    exact ⟨rfl,.inr (by rw [Dict.lookup_put,if_pos rfl])⟩
  next =>
    obtain rfl := Except.ok.inj made
    exact ⟨rfl,.inl rfl⟩
  next => cases made

theorem inject_ok {repository : MultitenantRepository Id Object} {tenant : String} {entity labelled : Entity Id Object}
    (injected : inject repository tenant entity = .ok labelled) :
    labelled.id = entity.id ∧ Labelled repository ⟨labelled,tenant⟩ := by
  have free : ∀ other, entity.attributes.lookup repository.tenantColumn = some (.text other) → other = tenant := by
    intro other found
    have existing : getTenantIdFromEntity repository entity = .text other := by simp [getTenantIdFromEntity,found]
    unfold inject at injected
    rw [existing] at injected
    dsimp only at injected
    split at injected
    next same => exact Value.text.inj (isText_iff.mp same)
    next => cases injected
  have made : setTenantIdOnEntity repository entity tenant = .ok labelled := by
    unfold inject at injected
    split at injected
    next => exact injected
    next =>
      split at injected
      next => exact injected
      next => cases injected
  obtain ⟨sameId,rfl | named⟩ := setTenantIdOnEntity_ok made
  · exact ⟨sameId,free⟩
  · refine ⟨sameId,fun other found => ?_⟩
    exact Value.text.inj (Option.some.inj (found.symm.trans named))

theorem buildTenantSpecification_eval (repository : MultitenantRepository Id Object) (tenant : String)
    (entity : Entity Id Object) : (buildTenantSpecification repository tenant).isSatisfiedBy entity =
      .ok (((entity.attributes.lookup repository.tenantColumn).getD .null).isText tenant) := by
  simp [buildTenantSpecification,ISpecification.ofTree,Specification.isSatisfiedBy,
    AttributeSpecification.isSatisfiedBy,resolveField_plain _ _ repository.plain,Registry.apply,Except.mapError]

/-- The specification rejects the entities of other tenants, and accepts only what also meets `asked`. -/
structure Guards (repository : MultitenantRepository Id Object) (tenant : String)
    (specification : ISpecification Id Object) (asked : Entity Id Object → Prop) : Prop where
  foreign : ∀ stored, Labelled repository stored → stored.storedUnder ≠ tenant →
    specification.isSatisfiedBy stored.entity = .ok false
  accepted : ∀ entity, specification.isSatisfiedBy entity = .ok true → asked entity

theorem Guards.owned {repository : MultitenantRepository Id Object} {tenant : String}
    {specification : ISpecification Id Object} {asked : Entity Id Object → Prop}
    (guards : Guards repository tenant specification asked) {stored : Stored Id Object}
    (labelled : Labelled repository stored) (accepted : specification.isSatisfiedBy stored.entity = .ok true) :
    stored.storedUnder = tenant := by
  by_contra other
  rw [guards.foreign stored labelled other] at accepted
  cases accepted

theorem guards_tenant (repository : MultitenantRepository Id Object) (tenant : String) :
    Guards repository tenant (buildTenantSpecification repository tenant) fun _ => True := by
  refine ⟨fun stored labelled other => ?_,fun _ _ => trivial⟩
  rw [buildTenantSpecification_eval]
  cases found : stored.entity.attributes.lookup repository.tenantColumn with
  | none => rfl
  | some value =>
    cases named : value.isText tenant with
    | false => rw [Option.getD_some,named]
    | true =>
      rw [isText_iff.mp named] at found
      exact absurd (labelled tenant found).symm other

theorem guards_both {repository : MultitenantRepository Id Object} {tenant : String}
    {specification other : ISpecification Id Object} {asked : Entity Id Object → Prop}
    (guards : Guards repository tenant specification asked) :
    Guards repository tenant (specification.both other) fun entity => other.isSatisfiedBy entity = .ok true := by
  refine ⟨fun stored labelled foreign => ?_,fun entity accepted => ?_⟩
  · simp [ISpecification.both,guards.foreign stored labelled foreign,bind,Except.bind,pure,Except.pure]
  · obtain ⟨first,_,accepted⟩ := bind_ok.mp accepted
    cases first with
    | true => exact accepted
    | false => cases accepted

theorem guards_compose (repository : MultitenantRepository Id Object) (tenant : String)
    (specification : Option (ISpecification Id Object)) :
    Guards repository tenant (composeSpecs (buildTenantSpecification repository tenant) specification) fun entity =>
      ∀ own ∈ specification, own.composable = true → own.isSatisfiedBy entity = .ok true := by
  cases specification with
  | none => exact ⟨(guards_tenant repository tenant).foreign,fun _ _ _ absent => by cases absent⟩
  | some own =>
    cases composable : own.composable with
    | true =>
      have both : Guards repository tenant ((buildTenantSpecification repository tenant).both own) fun entity =>
        own.isSatisfiedBy entity = .ok true := guards_both (guards_tenant repository tenant)
      rw [composeSpecs,if_pos composable]
      refine ⟨both.foreign,fun entity accepted other present _ => ?_⟩
      rw [← Option.some.inj present]
      exact both.accepted entity accepted
    | false =>
      rw [composeSpecs,if_neg (by simp [composable])]
      refine ⟨(guards_tenant repository tenant).foreign,fun entity _ other present claimed => ?_⟩
      rw [← Option.some.inj present,composable] at claimed
      cases claimed

def share (tenant : String) (store : Store Id Object) : Store Id Object :=
  store.filter fun stored => stored.storedUnder = tenant

theorem matching_share {repository : MultitenantRepository Id Object} {tenant : String}
    {specification : ISpecification Id Object} {asked : Entity Id Object → Prop}
    (guards : Guards repository tenant specification asked) {candidates : List (Stored Id Object)}
    (known : ∀ stored ∈ candidates, Labelled repository stored) :
    InMemoryRepository.matching (some specification) (candidates.filter fun stored => stored.storedUnder = tenant) =
      InMemoryRepository.matching (some specification) candidates := by
  have selected : select (fun stored => specification.isSatisfiedBy stored.entity)
      (candidates.filter fun stored => stored.storedUnder = tenant) =
      select (fun stored => specification.isSatisfiedBy stored.entity) candidates :=
    select_filter fun stored member dropped =>
      guards.foreign stored (known stored member) (of_decide_eq_false dropped)
  exact congrArg (Except.map (List.map Stored.entity)) selected

theorem matching_ok {specification : ISpecification Id Object} {candidates : List (Stored Id Object)}
    {found : List (Entity Id Object)}
    (returned : InMemoryRepository.matching (some specification) candidates = .ok found) :
    ∀ entity ∈ found, ∃ stored ∈ candidates, stored.entity = entity ∧
      specification.isSatisfiedBy entity = .ok true := by
  change (select _ candidates).map _ = _ at returned
  cases selected : select (fun stored => specification.isSatisfiedBy stored.entity) candidates with
  | error failure =>
    rw [selected] at returned
    cases returned
  | ok chosen =>
    rw [selected] at returned
    obtain rfl := Except.ok.inj returned
    intro entity member
    obtain ⟨stored,inside,rfl⟩ := List.mem_map.mp member
    obtain ⟨present,accepted⟩ := select_ok selected stored inside
    exact ⟨stored,present,rfl,accepted⟩

variable [DecidableEq Id]

def Known (repository : MultitenantRepository Id Object) (store : Store Id Object) : Prop :=
  ∀ id stored, store.get id = some stored → Labelled repository stored

theorem get_share {repository : MultitenantRepository Id Object} {tenant : String} {store : Store Id Object}
    {specification : ISpecification Id Object} {asked : Entity Id Object → Prop} (known : Known repository store)
    (guards : Guards repository tenant specification asked) (id : Id) :
    InMemoryRepository.get (share tenant store) id (some specification) =
      InMemoryRepository.get store id (some specification) := by
  unfold InMemoryRepository.get share
  rw [Dict.get_filter]
  cases found : store.get id with
  | none => rfl
  | some stored =>
    by_cases mine : stored.storedUnder = tenant
    · rw [Option.filter_some,if_pos (decide_eq_true mine)]
    · rw [Option.filter_some,if_neg (by simpa using mine)]
      simp [guards.foreign stored (known id stored found) mine,bind,Except.bind,pure,Except.pure]

theorem get_ok {store : Store Id Object} {id : Id} {specification : ISpecification Id Object}
    {entity : Entity Id Object} (returned : InMemoryRepository.get store id (some specification) = .ok (some entity)) :
    ∃ stored, store.get id = some stored ∧ stored.entity = entity ∧ specification.isSatisfiedBy entity = .ok true := by
  unfold InMemoryRepository.get at returned
  cases found : store.get id with
  | none =>
    rw [found] at returned
    cases returned
  | some stored =>
    rw [found] at returned
    obtain ⟨accepted,asked,returned⟩ := bind_ok.mp returned
    cases accepted with
    | false => cases returned
    | true =>
      obtain rfl := Option.some.inj (pure_ok.mp returned)
      exact ⟨stored,rfl,rfl,asked⟩

theorem delete_cases {repository : MultitenantRepository Id Object} {tenant : String} {store later : Store Id Object}
    {specification : ISpecification Id Object} {asked : Entity Id Object → Prop} (known : Known repository store)
    (guards : Guards repository tenant specification asked) {id : Id}
    (deleted : InMemoryRepository.delete store id (some specification) = .ok later) :
    later = store ∨ (later = store.erase id ∧
      ∀ stored, store.get id = some stored → stored.storedUnder = tenant) := by
  unfold InMemoryRepository.delete at deleted
  cases found : store.get id with
  | none =>
    rw [found] at deleted
    exact .inr ⟨(Except.ok.inj deleted).symm,fun _ absent => by cases absent⟩
  | some stored =>
    rw [found] at deleted
    obtain ⟨accepted,asked,deleted⟩ := bind_ok.mp deleted
    cases accepted with
    | false => exact .inl (pure_ok.mp deleted).symm
    | true =>
      refine .inr ⟨(pure_ok.mp deleted).symm,fun other same => ?_⟩
      rw [← Option.some.inj same]
      exact guards.owned (known id stored found) asked

theorem delete_share {repository : MultitenantRepository Id Object} {tenant : String} {store : Store Id Object}
    {specification : ISpecification Id Object} {asked : Entity Id Object → Prop} (known : Known repository store)
    (guards : Guards repository tenant specification asked) (id : Id) :
    InMemoryRepository.delete (share tenant store) id (some specification) =
      (InMemoryRepository.delete store id (some specification)).map (share tenant) := by
  unfold InMemoryRepository.delete
  have shared : (share tenant store).get id = (store.get id).filter fun stored => stored.storedUnder = tenant :=
    Dict.get_filter store _ id
  rw [shared]
  cases found : store.get id with
  | none => exact congrArg Except.ok (store.filter_erase id _).symm
  | some stored =>
    by_cases mine : stored.storedUnder = tenant
    · rw [Option.filter_some,if_pos (decide_eq_true mine)]
      cases accepted : specification.isSatisfiedBy stored.entity with
      | error failure => simp [accepted,bind,Except.bind,Except.map]
      | ok chosen =>
        cases chosen with
        | false => simp [accepted,bind,Except.bind,pure,Except.pure,Except.map]
        | true =>
          simp [accepted,bind,Except.bind,pure,Except.pure,Except.map]
          exact (store.filter_erase id _).symm
    · rw [Option.filter_some,if_neg (by simpa using mine)]
      have gone : (share tenant store).erase id = share tenant store := by
        rw [share,← Dict.filter_erase]
        refine store.filter_erase_dropped fun other same => ?_
        rw [← Option.some.inj (found.symm.trans same)]
        exact decide_eq_false mine
      simp [guards.foreign stored (known id stored found) mine,bind,Except.bind,pure,Except.pure,Except.map,gone]

theorem candidates_share (tenant : String) (store : Store Id Object) (ids : Option (List Id)) :
    InMemoryRepository.candidates (share tenant store) ids =
      (InMemoryRepository.candidates store ids).filter fun stored => stored.storedUnder = tenant := by
  cases ids with
  | none =>
    rw [InMemoryRepository.candidates,InMemoryRepository.candidates,Dict.values,Dict.values,List.filter_map]
    rfl
  | some ids =>
    simp only [InMemoryRepository.candidates,share,Dict.filter,List.filter_map,List.filter_filter,Function.comp_def,
      Bool.and_comm]

theorem mem_candidates {store : Store Id Object} {ids : Option (List Id)} {stored : Stored Id Object}
    (member : stored ∈ InMemoryRepository.candidates store ids) : ∃ id, store.get id = some stored := by
  cases ids with
  | none => exact store.get_of_mem_values member
  | some ids =>
    obtain ⟨entry,present,rfl⟩ := List.mem_map.mp member
    exact ⟨entry.1,store.mem_iff_get.mp (List.mem_filter.mp present).1⟩

theorem listAll_share {repository : MultitenantRepository Id Object} {tenant : String} {store : Store Id Object}
    {specification : ISpecification Id Object} {asked : Entity Id Object → Prop} (known : Known repository store)
    (guards : Guards repository tenant specification asked) (ids : Option (List Id)) :
    InMemoryRepository.listAll (share tenant store) ids (some specification) =
      InMemoryRepository.listAll store ids (some specification) := by
  rw [InMemoryRepository.listAll,candidates_share]
  refine matching_share guards fun stored member => ?_
  obtain ⟨id,found⟩ := mem_candidates member
  exact known id stored found

end MultitenantRepository

end CqrsDdd.Multitenancy
