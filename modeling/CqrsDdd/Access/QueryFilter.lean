import CqrsDdd.Access.Authorization
import CqrsDdd.Multitenancy.Repository

/-! The middleware that narrows a query to what its caller may see, by the
specification of the query options. -/
namespace CqrsDdd.Access

open Identity Specifications Attempts
open Multitenancy (ISpecification QueryOptions)

variable {Object Id Mapping Raised Result : Type}

/-- What the port returns; what it says of context references is not read. -/
structure AuthorizationFilter (Id Object : Type) where
  grantedAll : Bool := false
  deniedAll : Bool := false
  filterSpecification : Option (ISpecification Id Object) := none

def AuthorizationFilter.hasFilter (filter : AuthorizationFilter Id Object) : Bool :=
  filter.filterSpecification.isSome && !filter.grantedAll && !filter.deniedAll

/-- A query: its attributes that hold query options, and whether it has `model_copy`. -/
structure QueryMessage (Id Object : Type) where
  options : String → Option (QueryOptions Id Object)
  copyable : Bool := true

def QueryMessage.modelCopy (message : QueryMessage Id Object) (attr : String) (updated : QueryOptions Id Object) :
    Except Specifications.Failure (QueryMessage Id Object) :=
  if message.copyable then .ok { message with options := Function.update message.options attr (some updated) }
  else .error .attributeError

def withSpecification (options : QueryOptions Id Object) (specification : ISpecification Id Object) :
    QueryOptions Id Object :=
  { options with specification := some specification }

/-- `merge`, which the base class of the package has as it has `__and__`. -/
def merge (own other : ISpecification Id Object) : Except Specifications.Failure (ISpecification Id Object) :=
  if own.composable then .ok (own.both other) else .error .attributeError

def combined (own : Option (ISpecification Id Object)) (imposed : ISpecification Id Object) :
    Except Specifications.Failure (ISpecification Id Object) :=
  match own with
  | some own => merge own imposed
  | none => .ok imposed

structure SpecificationAuthConfig (Id Object : Type) where
  resourceType : String := ""
  action : String := "read"
  queryOptionsAttr : String := "query_options"
  authContextProvider : Option (QueryMessage Id Object → Option (Fields Object)) := none

/-- `registry` is the field mapping of the configuration that the registry has for a resource type. -/
structure SpecificationAuthMiddleware (Id Object Mapping : Type) where
  authorizationPort : Option String → String → String → Option (Fields Object) → Option (Finset String) → Option Mapping →
    Except Specifications.Failure (AuthorizationFilter Id Object)
  config : SpecificationAuthConfig Id Object
  registry : String → Option Mapping
  bypassRoles : Finset String := ∅

namespace SpecificationAuthMiddleware

def getFilter (middleware : SpecificationAuthMiddleware Id Object Mapping) (caller : Caller Object)
    (message : QueryMessage Id Object) : Except Specifications.Failure (AuthorizationFilter Id Object) :=
  middleware.authorizationPort caller.accessToken middleware.config.resourceType middleware.config.action
    (middleware.config.authContextProvider.bind fun provider => provider message) caller.roleNames
    (middleware.registry middleware.config.resourceType)

/-- The message with the specification of the filter in its query options. -/
def narrow (config : SpecificationAuthConfig Id Object) (filter : AuthorizationFilter Id Object)
    (message : QueryMessage Id Object) : Except Specifications.Failure (QueryMessage Id Object) :=
  match filter.hasFilter,filter.filterSpecification,message.options config.queryOptionsAttr with
  | true,some specification,some queryOptions => do
    let merged ← combined queryOptions.specification specification
    message.modelCopy config.queryOptionsAttr (withSpecification queryOptions merged)
  | _,_,_ => .ok message

def call (middleware : SpecificationAuthMiddleware Id Object Mapping)
    (nextHandler : QueryMessage Id Object → Except (Failure Raised) Result) (caller : Caller Object)
    (message : QueryMessage Id Object) : Except (Failure Raised) Result :=
  if caller.bypasses middleware.bypassRoles then nextHandler message else do
    let filter ← (middleware.getFilter caller message).mapError .raised
    if filter.deniedAll then
      throw (.permissionDenied "Access denied" (some middleware.config.resourceType) (some middleware.config.action) none
        "Access denied — all conditions denied")
    let message ← (narrow middleware.config filter message).mapError .raised
    nextHandler message

/-- The query options carry a specification which accepts what meets both the filter and the caller's own one. -/
def Narrowed (attr : String) (filter : AuthorizationFilter Id Object) (asked received : QueryMessage Id Object) : Prop :=
  ∃ options specification imposed, received.options attr = some options ∧ options.specification = some specification ∧
    filter.filterSpecification = some imposed ∧ ∀ candidate, specification.isSatisfiedBy candidate = .ok true ↔
      imposed.isSatisfiedBy candidate = .ok true ∧
        ∀ own, (asked.options attr).bind QueryOptions.specification = some own → own.isSatisfiedBy candidate = .ok true

theorem both_accepts (first second : ISpecification Id Object) (candidate : Multitenancy.Entity Id Object) :
    (first.both second).isSatisfiedBy candidate = .ok true ↔
      first.isSatisfiedBy candidate = .ok true ∧ second.isSatisfiedBy candidate = .ok true := by
  change (first.isSatisfiedBy candidate >>= fun accepted =>
    if accepted then second.isSatisfiedBy candidate else pure false) = _ ↔ _
  rw [bind_ok]
  constructor
  · rintro ⟨accepted,answered,rest⟩
    cases accepted with
    | true => exact ⟨answered,rest⟩
    | false => cases rest
  · rintro ⟨answered,rest⟩
    exact ⟨true,answered,rest⟩

theorem combined_ok {own : Option (ISpecification Id Object)} {imposed merged : ISpecification Id Object}
    (made : combined own imposed = .ok merged) (candidate : Multitenancy.Entity Id Object) :
    merged.isSatisfiedBy candidate = .ok true ↔ imposed.isSatisfiedBy candidate = .ok true ∧
      ∀ asked, own = some asked → asked.isSatisfiedBy candidate = .ok true := by
  cases own with
  | none =>
    obtain rfl := Except.ok.inj made
    simp
  | some asked =>
    unfold combined merge at made
    dsimp only at made
    split at made
    next =>
      obtain rfl := Except.ok.inj made
      simp only [both_accepts,Option.some.injEq,forall_eq']
      exact and_comm
    next => cases made

theorem modelCopy_ok {message received : QueryMessage Id Object} {attr : String} {updated : QueryOptions Id Object}
    (copied : message.modelCopy attr updated = .ok received) : received.options attr = some updated := by
  unfold QueryMessage.modelCopy at copied
  split at copied
  next =>
    obtain rfl := Except.ok.inj copied
    simp
  next => cases copied

theorem narrow_ok {config : SpecificationAuthConfig Id Object} {filter : AuthorizationFilter Id Object}
    {message received : QueryMessage Id Object} (filtering : filter.hasFilter = true)
    (carried : (message.options config.queryOptionsAttr).isSome = true)
    (narrowed : narrow config filter message = .ok received) : Narrowed config.queryOptionsAttr filter message received := by
  obtain ⟨options,present⟩ := Option.isSome_iff_exists.mp carried
  obtain ⟨imposed,given⟩ : ∃ imposed, filter.filterSpecification = some imposed := by
    unfold AuthorizationFilter.hasFilter at filtering
    cases given : filter.filterSpecification with
    | none => simp [given] at filtering
    | some imposed => exact ⟨imposed,rfl⟩
  unfold narrow at narrowed
  simp only [filtering,given,present] at narrowed
  obtain ⟨merged,made,copied⟩ := bind_ok.mp narrowed
  refine ⟨_,merged,imposed,modelCopy_ok copied,rfl,given,fun candidate => ?_⟩
  rw [present,Option.bind_some]
  exact combined_ok made candidate

theorem narrow_same {config : SpecificationAuthConfig Id Object} {filter : AuthorizationFilter Id Object}
    {message : QueryMessage Id Object}
    (unfit : filter.hasFilter = false ∨ (message.options config.queryOptionsAttr).isSome = false) :
    narrow config filter message = .ok message := by
  unfold narrow
  split
  next filtering _ present =>
    rcases unfit with none | none
    · rw [none] at filtering
      cases filtering
    · rw [present] at none
      cases none
  next => rfl

/-- The handler is called with a message, and what it does is what the call does. -/
def Reaches (Raised Result : Type) (middleware : SpecificationAuthMiddleware Id Object Mapping) (caller : Caller Object)
    (message received : QueryMessage Id Object) : Prop :=
  ∀ nextHandler : QueryMessage Id Object → Except (Failure Raised) Result,
    middleware.call nextHandler caller message = nextHandler received

def Refuses (Raised Result : Type) (middleware : SpecificationAuthMiddleware Id Object Mapping) (caller : Caller Object)
    (message : QueryMessage Id Object) : Prop :=
  ∃ failure, ∀ nextHandler : QueryMessage Id Object → Except (Failure Raised) Result,
    middleware.call nextHandler caller message = .error failure

section Calls

variable {middleware : SpecificationAuthMiddleware Id Object Mapping} {caller : Caller Object}
  {message : QueryMessage Id Object} {filter : AuthorizationFilter Id Object}

theorem call_answered (checked : caller.bypasses middleware.bypassRoles = false)
    (answered : middleware.getFilter caller message = .ok filter)
    (nextHandler : QueryMessage Id Object → Except (Failure Raised) Result) :
    middleware.call nextHandler caller message =
      if filter.deniedAll then
        .error (.permissionDenied "Access denied" (some middleware.config.resourceType) (some middleware.config.action)
          none "Access denied — all conditions denied")
      else (narrow middleware.config filter message).mapError .raised >>= nextHandler := by
  have unbypassed : ¬caller.bypasses middleware.bypassRoles = true := by simp [checked]
  simp only [call,if_neg unbypassed,answered,Except.mapError,bind,Except.bind]
  split
  next denied => rfl
  next granted => rfl

theorem refuses_of_denied (Raised Result : Type) (checked : caller.bypasses middleware.bypassRoles = false)
    (answered : middleware.getFilter caller message = .ok filter) (denied : filter.deniedAll = true) :
    Refuses Raised Result middleware caller message :=
  ⟨_,fun nextHandler => (call_answered checked answered nextHandler).trans (if_pos denied)⟩

theorem reaches_of_narrowed (Raised Result : Type) {received : QueryMessage Id Object}
    (checked : caller.bypasses middleware.bypassRoles = false)
    (answered : middleware.getFilter caller message = .ok filter) (admitting : filter.deniedAll = false)
    (narrowed : narrow middleware.config filter message = .ok received) :
    Reaches Raised Result middleware caller message received := by
  intro nextHandler
  rw [call_answered checked answered,if_neg (by simp [admitting]),narrowed]
  rfl

theorem refuses_or_reaches (Raised Result : Type) (checked : caller.bypasses middleware.bypassRoles = false)
    (answered : middleware.getFilter caller message = .ok filter) (admitting : filter.deniedAll = false) :
    Refuses Raised Result middleware caller message ∨
      ∃ received, narrow middleware.config filter message = .ok received ∧
        Reaches Raised Result middleware caller message received := by
  cases narrowed : narrow middleware.config filter message with
  | error failure =>
    refine .inl ⟨.raised failure,fun nextHandler => ?_⟩
    rw [call_answered checked answered,if_neg (by simp [admitting]),narrowed]
    rfl
  | ok received => exact .inr ⟨received,rfl,reaches_of_narrowed Raised Result checked answered admitting narrowed⟩

theorem reaches_unique {first second : QueryMessage Id Object} (one : Reaches Raised Result middleware caller message first)
    (other : Reaches Raised Result middleware caller message second) : first = second := by
  classical
  by_contra differs
  have same := (one fun seen =>
    .error (.insufficientRole (if seen = first then "first" else "other") "")).symm.trans (other _)
  simp [Ne.symm differs] at same

theorem not_refuses_of_reaches {received : QueryMessage Id Object}
    (reaches : Reaches Raised Result middleware caller message received) :
    ¬Refuses Raised Result middleware caller message := by
  rintro ⟨failure,refuses⟩
  have first := (refuses fun _ => .error (.insufficientRole "first" "")).symm.trans (reaches _)
  have second := (refuses fun _ => .error (.insufficientRole "second" "")).symm.trans (reaches _)
  simpa using first.symm.trans second

/-- A call refuses, or reaches the handler with all granted or with the query narrowed by the filter, exactly when the
filter denies or grants all or comes to a message with query options to carry it. -/
theorem call_narrowed_iff (Raised Result : Type) (checked : caller.bypasses middleware.bypassRoles = false)
    (answered : middleware.getFilter caller message = .ok filter) :
    (Refuses Raised Result middleware caller message ∨
      ∃ received, Reaches Raised Result middleware caller message received ∧ (filter.grantedAll = true ∨
        Narrowed middleware.config.queryOptionsAttr filter message received)) ↔
    filter.deniedAll = true ∨ filter.grantedAll = true ∨
      filter.filterSpecification.isSome = true ∧ (message.options middleware.config.queryOptionsAttr).isSome = true := by
  cases admitting : filter.deniedAll with
  | true => simp [refuses_of_denied Raised Result checked answered admitting]
  | false =>
    cases granted : filter.grantedAll with
    | true =>
      refine ⟨fun _ => .inr (.inl rfl),fun _ => ?_⟩
      rcases refuses_or_reaches Raised Result checked answered admitting with refuses | ⟨received,_,reaches⟩
      · exact .inl refuses
      · exact .inr ⟨received,reaches,.inl rfl⟩
    | false =>
      have filters : filter.hasFilter = filter.filterSpecification.isSome := by
        simp [AuthorizationFilter.hasFilter,admitting,granted]
      simp only [Bool.false_eq_true,false_or]
      constructor
      · intro safe
        by_contra unfit
        have kept : narrow middleware.config filter message = .ok message := by
          apply narrow_same
          rw [filters]
          simpa [imp_iff_not_or] using unfit
        have reached := reaches_of_narrowed Raised Result checked answered admitting kept
        rcases safe with refuses | ⟨received,reaches,options,_,imposed,carried,_,given,_⟩
        · exact not_refuses_of_reaches reached refuses
        · obtain rfl := reaches_unique reaches reached
          exact unfit ⟨by rw [given]; rfl,by rw [carried]; rfl⟩
      · rintro ⟨given,carried⟩
        rcases refuses_or_reaches Raised Result checked answered admitting with refuses | ⟨received,narrowed,reaches⟩
        · exact .inl refuses
        · exact .inr ⟨received,reaches,narrow_ok (filters.trans given) carried narrowed⟩

end Calls

def always (filter : AuthorizationFilter Nat Empty) : SpecificationAuthMiddleware Nat Empty Unit where
  authorizationPort _ _ _ _ _ _ := .ok filter
  config := { resourceType := "order" }
  registry _ := none

def firstOnly : ISpecification Nat Empty := ⟨fun entity => .ok (entity.id = 1),true⟩

def listQuery : QueryMessage Nat Empty := { options := fun _ => some {} }

theorem call_narrowed_first : Refuses Empty Unit (always { filterSpecification := some firstOnly }) {} listQuery ∨
    ∃ received, Reaches Empty Unit (always { filterSpecification := some firstOnly }) {} listQuery received ∧
      (false = true ∨ Narrowed "query_options" { filterSpecification := some firstOnly } listQuery received) := by
  have answered : (always { filterSpecification := some firstOnly }).getFilter {} listQuery =
      .ok { filterSpecification := some firstOnly } := rfl
  exact (call_narrowed_iff Empty Unit rfl answered).mpr (.inr (.inr ⟨rfl,rfl⟩))

/-- A filter that grants nothing lets the query through as it is. -/
theorem call_unnarrowed : ¬ ∀ (middleware : SpecificationAuthMiddleware Nat Empty Unit) (caller : Caller Empty)
    (message : QueryMessage Nat Empty) (filter : AuthorizationFilter Nat Empty),
    caller.bypasses middleware.bypassRoles = false → middleware.getFilter caller message = .ok filter →
    (Refuses Empty Unit middleware caller message ∨
      ∃ received, Reaches Empty Unit middleware caller message received ∧ (filter.grantedAll = true ∨
        Narrowed middleware.config.queryOptionsAttr filter message received)) := by
  intro narrowing
  have reached : Reaches Empty Unit (always {}) {} listQuery listQuery := fun _ => rfl
  rcases narrowing (always {}) {} listQuery {} rfl rfl with refuses | ⟨received,_,granted | narrowed⟩
  · exact not_refuses_of_reaches reached refuses
  · cases granted
  · obtain ⟨_,_,_,_,_,given,_⟩ := narrowed
    cases given

end SpecificationAuthMiddleware
end CqrsDdd.Access
