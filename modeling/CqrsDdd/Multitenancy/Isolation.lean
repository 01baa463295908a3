import CqrsDdd.Multitenancy.Guards
import CqrsDdd.Noninterference

/-! Histories of repository calls under several tenants. The share of a tenant is what
was added in its context; a call that neither writes over the entity of another
tenant nor searches past the tenant's filter acts on the share of its own tenant only. -/
namespace CqrsDdd.Multitenancy

open Specifications Attempts

variable {Id Object : Type} [DecidableEq Id]

inductive Operation (Id Object : Type)
  | add (entity : Entity Id Object)
  | get (id : Id) (specification : Option (ISpecification Id Object))
  | delete (id : Id) (specification : Option (ISpecification Id Object))
  | listAll (ids : Option (List Id)) (specification : Option (ISpecification Id Object))
  | search (criteria : Criteria Id Object)

structure Call (Id Object : Type) where
  tenant : Tenant
  operation : Operation Id Object

inductive Answer (Id Object : Type)
  | id (id : Id)
  | entity (found : Option (Entity Id Object))
  | entities (found : List (Entity Id Object))

def Answer.returned : Answer Id Object → List (Entity Id Object)
  | .id _ => []
  | .entity found => found.toList
  | .entities found => found

namespace MultitenantRepository

def perform (repository : MultitenantRepository Id Object) (store : Store Id Object) (call : Call Id Object) :
    Except (Failure Object) (Store Id Object × Answer Id Object) :=
  let context := some call.tenant.id
  match call.operation with
  | .add entity => (add repository context store entity).map fun result => (result.1,.id result.2)
  | .get id specification => (get repository context store id specification).map fun found => (store,.entity found)
  | .delete id specification => (delete repository context store id specification).map fun result =>
      (result.1,.id result.2)
  | .listAll ids specification => (listAll repository context store ids specification).map fun found =>
      (store,.entities found)
  | .search criteria => (search repository context store criteria).map fun found => (store,.entities found)

/-- A call that raises leaves the store as it was. -/
def step (repository : MultitenantRepository Id Object) (store : Store Id Object) (call : Call Id Object) :
    Store Id Object :=
  match perform repository store call with
  | .ok (stored,_) => stored
  | .error _ => store

def answer (repository : MultitenantRepository Id Object) (store : Store Id Object) (call : Call Id Object) :
    Except (Failure Object) (Answer Id Object) :=
  (perform repository store call).map Prod.snd

def reached (repository : MultitenantRepository Id Object) (calls : List (Call Id Object)) : Store Id Object :=
  Transition.run (step repository) Dict.empty calls

def Satisfies (repository : MultitenantRepository Id Object) (entity : Entity Id Object) : Operation Id Object → Prop
  | .get _ specification | .listAll _ specification | .delete _ specification =>
    ∀ own ∈ specification, own.isSatisfiedBy entity = .ok true
  | .search (.specification own) => own.isSatisfiedBy entity = .ok true
  | .search (.dict data) => ∀ tree, SpecificationFactory.fromDict repository.runtime none (.dict data) = .ok tree →
      tree.isSatisfiedBy repository.registry entity.attributes = .ok true
  | .search (.options options) => ∀ own ∈ options.specification, own.isSatisfiedBy entity = .ok true
  | .search .none | .add _ => True

/-- Every entity returned was stored under the tenant of the call and satisfies its criteria, no call
removes or replaces an entity of another tenant, and the answers of each tenant are those of the
history without the calls of the others. -/
structure Isolated (repository : MultitenantRepository Id Object) (calls : List (Call Id Object)) : Prop where
  returned : ∀ past call, past ++ [call] <+: calls → ∀ result,
    answer repository (reached repository past) call = .ok result → ∀ entity ∈ result.returned,
      (∃ id stored, (reached repository past).get id = some stored ∧ stored.entity = entity ∧
        stored.storedUnder = call.tenant.id) ∧ Satisfies repository entity call.operation
  kept : ∀ past call, past ++ [call] <+: calls → ∀ id stored, (reached repository past).get id = some stored →
    stored.storedUnder ≠ call.tenant.id → (reached repository (past ++ [call])).get id = some stored
  alone : ∀ tenant,
    (Noninterference.answers (step repository) (answer repository) Dict.empty calls).filter
        (fun entry => entry.1.tenant = tenant) =
      Noninterference.answers (step repository) (answer repository) Dict.empty
        (calls.filter fun call => call.tenant = tenant)

/-- An add meets no entity of another tenant under its id; a specification that is given has `__and__`; a
dict builds a specification; and no search is one with options. -/
def Confined (repository : MultitenantRepository Id Object) (store : Store Id Object) (call : Call Id Object) : Prop :=
  match call.operation with
  | .add entity => ∀ labelled, inject repository call.tenant.id entity = .ok labelled →
      ∀ stored, store.get entity.id = some stored → stored.storedUnder = call.tenant.id
  | .get _ specification | .listAll _ specification => ∀ own ∈ specification, own.composable = true
  | .delete _ _ => True
  | .search (.specification own) => own.composable = true
  | .search (.dict data) => ∃ tree, SpecificationFactory.fromDict repository.runtime none (.dict data) = .ok tree
  | .search (.options _) => False
  | .search .none => True

/-- A call that only reads: what it finds is found in the share of its tenant alone, belongs to the
tenant and is what the caller asked for. -/
structure Reads (repository : MultitenantRepository Id Object) (call : Call Id Object)
    (read : Store Id Object → Except (Failure Object) (Answer Id Object)) : Prop where
  performs : ∀ store, perform repository store call = (read store).map fun found => (store,found)
  shared : ∀ store, Known repository store → read (share call.tenant.id store) = read store
  returned : ∀ store, Known repository store → ∀ result, read store = .ok result → ∀ entity ∈ result.returned,
    (∃ id stored, store.get id = some stored ∧ stored.entity = entity ∧ stored.storedUnder = call.tenant.id) ∧
      Satisfies repository entity call.operation

theorem Reads.step_eq {repository : MultitenantRepository Id Object} {call : Call Id Object}
    {read : Store Id Object → Except (Failure Object) (Answer Id Object)} (reads : Reads repository call read)
    (store : Store Id Object) : step repository store call = store := by
  rw [step,reads.performs]
  cases read store with
  | error failure => rfl
  | ok found => rfl

theorem Reads.answer_eq {repository : MultitenantRepository Id Object} {call : Call Id Object}
    {read : Store Id Object → Except (Failure Object) (Answer Id Object)} (reads : Reads repository call read)
    (store : Store Id Object) : answer repository store call = read store := by
  rw [answer,reads.performs]
  cases read store with
  | error failure => rfl
  | ok found => rfl

theorem reads_of_listAll {repository : MultitenantRepository Id Object} {call : Call Id Object}
    {specification : ISpecification Id Object} (ids : Option (List Id))
    (guards : Guards repository call.tenant.id specification fun entity => Satisfies repository entity call.operation)
    (performs : ∀ store, perform repository store call =
      (InMemoryRepository.listAll store ids (some specification)).map fun found => (store,.entities found)) :
    Reads repository call fun store => (InMemoryRepository.listAll store ids (some specification)).map .entities := by
  refine ⟨fun store => ?_,fun store known => ?_,fun store known result found entity member => ?_⟩
  · rw [performs,map_map]
  · rw [listAll_share known guards]
  · cases listed : InMemoryRepository.listAll store ids (some specification) with
    | error failure =>
      rw [listed] at found
      cases found
    | ok entities =>
      rw [listed] at found
      obtain rfl := Except.ok.inj found
      obtain ⟨stored,present,rfl,accepted⟩ := matching_ok listed entity member
      obtain ⟨id,located⟩ := mem_candidates present
      exact ⟨⟨id,stored,located,rfl,guards.owned (known id stored located) accepted⟩,
        guards.accepted stored.entity accepted⟩

theorem reads_get {repository : MultitenantRepository Id Object} {tenant : Tenant} {id : Id}
    {specification : Option (ISpecification Id Object)} (composable : ∀ own ∈ specification, own.composable = true) :
    ∃ read, Reads repository ⟨tenant,.get id specification⟩ read := by
  have guards := guards_compose repository tenant.id specification
  let guard := composeSpecs (buildTenantSpecification repository tenant.id) specification
  refine ⟨fun store => (InMemoryRepository.get store id (some guard)).map .entity,fun store => ?_,fun store known => ?_,
    fun store known result found entity member => ?_⟩
  · change (get repository (some tenant.id) store id specification).map _ = _
    rw [get,restricted_tenant]
    exact (map_map _ _ _).symm
  · rw [get_share known guards]
  · cases located : InMemoryRepository.get store id (some guard) with
    | error failure =>
      rw [located] at found
      cases found
    | ok answer =>
      rw [located] at found
      obtain rfl := Except.ok.inj found
      obtain rfl := Option.mem_toList.mp member
      obtain ⟨stored,present,rfl,accepted⟩ := get_ok located
      refine ⟨⟨id,stored,present,rfl,guards.owned (known id stored present) accepted⟩,fun own given => ?_⟩
      exact guards.accepted stored.entity accepted own given (composable own given)

theorem reads_listAll {repository : MultitenantRepository Id Object} {tenant : Tenant} {ids : Option (List Id)}
    {specification : Option (ISpecification Id Object)} (composable : ∀ own ∈ specification, own.composable = true) :
    ∃ read, Reads repository ⟨tenant,.listAll ids specification⟩ read := by
  have guards := guards_compose repository tenant.id specification
  refine ⟨_,reads_of_listAll ids ⟨guards.foreign,fun entity accepted own given => ?_⟩ fun store => ?_⟩
  · exact guards.accepted entity accepted own given (composable own given)
  · change (listAll repository (some tenant.id) store ids specification).map _ = _
    rw [listAll,restricted_tenant]
    rfl

theorem composeTenantFilter_guards {repository : MultitenantRepository Id Object} {tenant : Tenant}
    {criteria : Criteria Id Object} {store : Store Id Object} (confined : Confined repository store ⟨tenant,.search criteria⟩) :
    ∃ guard, composeTenantFilter repository tenant.id criteria = .specification guard ∧
      Guards repository tenant.id guard fun entity => Satisfies repository entity (.search criteria) := by
  have own := guards_tenant repository tenant.id
  cases criteria with
  | specification given => exact ⟨_,if_pos confined,guards_both own⟩
  | dict data =>
    obtain ⟨tree,built⟩ := confined
    have both : Guards repository tenant.id ((buildTenantSpecification repository tenant.id).both
        (.ofTree repository.registry tree)) fun entity =>
          (ISpecification.ofTree repository.registry tree).isSatisfiedBy entity = .ok true := guards_both own
    refine ⟨_,by rw [composeTenantFilter,built],both.foreign,fun entity accepted other again => ?_⟩
    obtain rfl := Except.ok.inj (built.symm.trans again)
    exact mapError_ok.mp (both.accepted entity accepted)
  | options given => exact absurd confined id
  | none => exact ⟨_,rfl,own⟩

theorem reads_search {repository : MultitenantRepository Id Object} {tenant : Tenant} {criteria : Criteria Id Object}
    {store : Store Id Object} (confined : Confined repository store ⟨tenant,.search criteria⟩) :
    ∃ read, Reads repository ⟨tenant,.search criteria⟩ read := by
  obtain ⟨guard,composed,guards⟩ := composeTenantFilter_guards confined
  refine ⟨_,reads_of_listAll none guards fun store => ?_⟩
  change (search repository (some tenant.id) store criteria).map _ = _
  rw [search_tenant,composed,searchInner_specification]
  rfl

theorem perform_add (repository : MultitenantRepository Id Object) (store : Store Id Object) (tenant : Tenant)
    (entity : Entity Id Object) : perform repository store ⟨tenant,.add entity⟩ =
      (inject repository tenant.id entity).map fun labelled =>
        (store.set labelled.id ⟨labelled,tenant.id⟩,.id labelled.id) := by
  change (add repository (some tenant.id) store entity).map _ = _
  rw [add_tenant,map_map]
  rfl

theorem perform_delete (repository : MultitenantRepository Id Object) (store : Store Id Object) (tenant : Tenant)
    (id : Id) (specification : Option (ISpecification Id Object)) :
    perform repository store ⟨tenant,.delete id specification⟩ = (InMemoryRepository.delete store id
      (some (composeSpecs (buildTenantSpecification repository tenant.id) specification))).map fun later =>
        (later,.id id) := by
  change (delete repository (some tenant.id) store id specification).map _ = _
  rw [delete,restricted_tenant]
  change Except.map _ (Except.bind (InMemoryRepository.delete store id (some (composeSpecs
    (buildTenantSpecification repository tenant.id) specification))) _) = _
  cases InMemoryRepository.delete store id (some (composeSpecs (buildTenantSpecification repository tenant.id)
    specification)) with
  | error failure => rfl
  | ok later => rfl

/-- What one call does: it acts on the share of its tenant, where it answers the same, and on nothing else. -/
structure Local (repository : MultitenantRepository Id Object) (store : Store Id Object) (call : Call Id Object) :
    Prop where
  known : Known repository (step repository store call)
  others : ∀ other : Tenant, other ≠ call.tenant → share other.id (step repository store call) = share other.id store
  own : step repository (share call.tenant.id store) call = share call.tenant.id (step repository store call)
  same : answer repository (share call.tenant.id store) call = answer repository store call
  kept : ∀ id stored, store.get id = some stored → stored.storedUnder ≠ call.tenant.id →
    (step repository store call).get id = some stored
  returned : ∀ result, answer repository store call = .ok result → ∀ entity ∈ result.returned,
    (∃ id stored, store.get id = some stored ∧ stored.entity = entity ∧ stored.storedUnder = call.tenant.id) ∧
      Satisfies repository entity call.operation

theorem local_of_reads {repository : MultitenantRepository Id Object} {store : Store Id Object} {call : Call Id Object}
    {read : Store Id Object → Except (Failure Object) (Answer Id Object)} (known : Known repository store)
    (reads : Reads repository call read) : Local repository store call := by
  refine ⟨?_,fun other _ => ?_,?_,?_,fun id stored found _ => ?_,fun result answered => ?_⟩
  · rw [reads.step_eq]
    exact known
  · rw [reads.step_eq]
  · rw [reads.step_eq,reads.step_eq]
  · rw [reads.answer_eq,reads.answer_eq,reads.shared store known]
  · rw [reads.step_eq]
    exact found
  · rw [reads.answer_eq] at answered
    exact reads.returned store known result answered

theorem local_add {repository : MultitenantRepository Id Object} {store : Store Id Object} {tenant : Tenant}
    {entity : Entity Id Object} (known : Known repository store)
    (confined : Confined repository store ⟨tenant,.add entity⟩) : Local repository store ⟨tenant,.add entity⟩ := by
  cases injected : inject repository tenant.id entity with
  | error failure =>
    -- An add that raises reads nothing and writes nothing.
    have reads : Reads repository ⟨tenant,.add entity⟩ fun _ => .error failure := by
      refine ⟨fun store => ?_,fun _ _ => rfl,fun _ _ _ found => by cases found⟩
      rw [perform_add,injected]
      rfl
    exact local_of_reads known reads
  | ok labelled =>
    obtain ⟨sameId,label⟩ := inject_ok injected
    have stores : ∀ any : Store Id Object,
        step repository any ⟨tenant,.add entity⟩ = any.set entity.id ⟨labelled,tenant.id⟩ := by
      intro any
      rw [step,perform_add,injected,← sameId]
      rfl
    have answers : ∀ any : Store Id Object, answer repository any ⟨tenant,.add entity⟩ = .ok (.id entity.id) := by
      intro any
      rw [answer,perform_add,injected,← sameId]
      rfl
    have owned : ∀ stored, store.get entity.id = some stored → stored.storedUnder = tenant.id := confined labelled injected
    refine ⟨fun id stored found => ?_,fun other differs => ?_,?_,?_,fun id stored found foreign => ?_,
      fun result answered => ?_⟩
    · rw [stores,Dict.get_set] at found
      split at found
      next =>
        obtain rfl := Option.some.inj found
        exact label
      next => exact known id stored found
    · have foreign : tenant.id ≠ other.id := fun same => differs (Tenant.ext same.symm)
      rw [stores]
      exact store.filter_set_dropped (decide_eq_false foreign) fun stored found =>
        decide_eq_false fun same => foreign ((owned stored found).symm.trans same)
    · rw [stores,stores]
      exact (store.filter_set_kept (decide_eq_true rfl) fun stored found => decide_eq_true (owned stored found)).symm
    · rw [answers,answers]
    · have differs : id ≠ entity.id := by
        rintro rfl
        exact foreign (owned stored found)
      rw [stores,Dict.get_set_other _ _ differs]
      exact found
    · rw [answers] at answered
      obtain rfl := Except.ok.inj answered
      exact fun _ member => absurd member List.not_mem_nil

theorem step_delete {repository : MultitenantRepository Id Object} {store later : Store Id Object} {tenant : Tenant}
    {id : Id} {specification : Option (ISpecification Id Object)}
    (deleted : InMemoryRepository.delete store id (some (composeSpecs
      (buildTenantSpecification repository tenant.id) specification)) = .ok later) :
    step repository store ⟨tenant,.delete id specification⟩ = later ∧
      answer repository store ⟨tenant,.delete id specification⟩ = .ok (.id id) := by
  rw [step,answer,perform_delete,deleted]
  exact ⟨rfl,rfl⟩

theorem step_delete_error {repository : MultitenantRepository Id Object} {store : Store Id Object} {tenant : Tenant}
    {id : Id} {specification : Option (ISpecification Id Object)} {failure : Failure Object}
    (deleted : InMemoryRepository.delete store id (some (composeSpecs
      (buildTenantSpecification repository tenant.id) specification)) = .error failure) :
    step repository store ⟨tenant,.delete id specification⟩ = store ∧
      answer repository store ⟨tenant,.delete id specification⟩ = .error failure := by
  rw [step,answer,perform_delete,deleted]
  exact ⟨rfl,rfl⟩

theorem local_delete {repository : MultitenantRepository Id Object} {store : Store Id Object} {tenant : Tenant}
    {id : Id} {specification : Option (ISpecification Id Object)} (known : Known repository store) :
    Local repository store ⟨tenant,.delete id specification⟩ := by
  have guards := guards_compose repository tenant.id specification
  have shared := delete_share known guards id
  cases deleted : InMemoryRepository.delete store id (some (composeSpecs
      (buildTenantSpecification repository tenant.id) specification)) with
  | error failure =>
    rw [deleted] at shared
    obtain ⟨stepped,answered⟩ := step_delete_error deleted
    obtain ⟨alone,replied⟩ := step_delete_error shared
    refine ⟨by rw [stepped]; exact known,fun other _ => by rw [stepped],by rw [stepped]; exact alone,
      by rw [answered]; exact replied,fun other stored found _ => by rw [stepped]; exact found,fun result given => ?_⟩
    rw [answered] at given
    cases given
  | ok later =>
    rw [deleted] at shared
    obtain ⟨stepped,answered⟩ := step_delete deleted
    obtain ⟨alone,replied⟩ := step_delete shared
    have removed := delete_cases known guards deleted
    refine ⟨fun other stored found => ?_,fun other differs => ?_,by rw [stepped]; exact alone,
      by rw [answered]; exact replied,fun other stored found foreign => ?_,fun result given => ?_⟩
    · rw [stepped] at found
      rcases removed with rfl | ⟨rfl,_⟩
      · exact known other stored found
      · exact known other stored (store.get_of_get_erase found)
    · rw [stepped]
      rcases removed with rfl | ⟨rfl,owned⟩
      · rfl
      · exact store.filter_erase_dropped fun stored found =>
          decide_eq_false fun same => differs (Tenant.ext (same.symm.trans (owned stored found)))
    · rw [stepped]
      rcases removed with rfl | ⟨rfl,owned⟩
      · exact found
      · have differs : other ≠ id := by
          rintro rfl
          exact foreign (owned stored found)
        rw [Dict.get_erase_other _ differs]
        exact found
    · rw [answered] at given
      obtain rfl := Except.ok.inj given
      exact fun _ member => absurd member List.not_mem_nil

theorem local_of_confined {repository : MultitenantRepository Id Object} {store : Store Id Object} {call : Call Id Object}
    (known : Known repository store) (confined : Confined repository store call) : Local repository store call := by
  obtain ⟨tenant,operation⟩ := call
  cases operation with
  | add entity => exact local_add known confined
  | get id specification =>
    obtain ⟨read,reads⟩ := reads_get confined
    exact local_of_reads known reads
  | delete id specification => exact local_delete known
  | listAll ids specification =>
    obtain ⟨read,reads⟩ := reads_listAll confined
    exact local_of_reads known reads
  | search criteria =>
    obtain ⟨read,reads⟩ := reads_search confined
    exact local_of_reads known reads

theorem known_empty (repository : MultitenantRepository Id Object) : Known repository Dict.empty :=
  fun _ _ found => by cases found

theorem reached_known {repository : MultitenantRepository Id Object} {calls : List (Call Id Object)}
    (meets : Transition.Meets (step repository) (Confined repository) Dict.empty calls) :
    Known repository (reached repository calls) :=
  Transition.run_invariant (Known repository) (fun _ _ known confined => (local_of_confined known confined).known)
    Dict.empty calls (known_empty repository) meets

/-- In every history of confined calls the tenants are isolated. -/
theorem isolated_while_confined (repository : MultitenantRepository Id Object) (calls : List (Call Id Object))
    (meets : Transition.Meets (step repository) (Confined repository) Dict.empty calls) : Isolated repository calls := by
  have here : ∀ past call, past ++ [call] <+: calls → Local repository (reached repository past) call := by
    intro past call before
    have both := (Transition.meets_append _ _ _ past [call]).mp (meets.earlier before)
    exact local_of_confined (reached_known both.1) both.2.1
  refine ⟨fun past call before => (here past call before).returned,fun past call before id stored found foreign => ?_,
    fun tenant => ?_⟩
  · rw [reached,Transition.run_append]
    exact (here past call before).kept id stored found foreign
  · have separates : Noninterference.Separates (step repository) (answer repository) Call.tenant
        (fun tenant => share tenant.id) (Known repository) (Confined repository) :=
      ⟨fun _ _ known confined => (local_of_confined known confined).known,
        fun _ _ known confined => (local_of_confined known confined).others,
        fun _ _ known confined => (local_of_confined known confined).own,
        fun _ _ known confined => (local_of_confined known confined).same⟩
    exact Noninterference.answers_of_party separates tenant (known_empty repository) meets

/-- A repository of entities with numbers, for criteria that ask for equality with a text. -/
def numbered : MultitenantRepository Nat Empty where
  plain := by decide
  runtime := .ascii
  registry := ⟨fun _ _ => .null,fun _ _ _ => .error .valueError⟩

def tenantA : Tenant := ⟨"a",by decide,by decide⟩

def tenantB : Tenant := ⟨"b",by decide,by decide⟩

def unlabelled (id : Nat) : Entity Nat Empty := { id := id, attributes := [("id",.number id)] }

theorem isolated_while_confined_of_two :
    Isolated numbered [⟨tenantA,.add (unlabelled 1)⟩,⟨tenantB,.add (unlabelled 2)⟩,⟨tenantB,.search .none⟩] :=
  isolated_while_confined numbered _
    ⟨fun _ _ _ found => (by cases found),fun _ _ _ found => (by cases found),trivial,trivial⟩

/-- An add under the id of another tenant's entity replaces it; and a search with options raises where only another tenant
has anything stored. -/
theorem a_shared_id_or_query_options_cross_tenants :
    ((reached numbered [⟨tenantA,.add (unlabelled 1)⟩,⟨tenantB,.add (unlabelled 1)⟩]).get 1).map Stored.storedUnder =
      some "b" ∧
    ¬ Isolated numbered [⟨tenantA,.add (unlabelled 1)⟩,⟨tenantB,.add (unlabelled 1)⟩] ∧
    ¬ Isolated numbered [⟨tenantA,.add (unlabelled 1)⟩,⟨tenantB,.search (.options {})⟩] := by
  refine ⟨rfl,fun isolated => ?_,fun isolated => ?_⟩
  · have kept := isolated.kept [⟨tenantA,.add (unlabelled 1)⟩] ⟨tenantB,.add (unlabelled 1)⟩ (List.prefix_refl _) 1
      _ rfl (by decide)
    have owner : some "b" = some "a" := congrArg (Option.map Stored.storedUnder) kept
    exact absurd owner (by decide)
  · have same := congrArg (List.map fun entry => entry.2.toOption.isSome) (isolated.alone tenantB)
    have answers : [false] = [true] := same
    cases answers

end MultitenantRepository

end CqrsDdd.Multitenancy
