import CqrsDdd.Access.Decorators

/-! When the decorators of a handler class fail closed: what is checked, what is
required, and the gaps between the two. -/
namespace CqrsDdd.Access

open Identity Specifications Attempts

variable {Object Entity Raised : Type}

def PermissionRequirement.Holds (req : PermissionRequirement) (principal : Principal Object) : Prop :=
  req.qualifier.Holds principal.hasPermission req.permissions

def RoleRequirement.Holds (req : RoleRequirement) (principal : Principal Object) : Prop :=
  req.qualifier.Holds principal.hasRole req.roles

/-- The requirement as it is checked: only `any` takes the wildcard for every role. -/
def RoleRequirement.Passes (req : RoleRequirement) (principal : Principal Object) : Prop :=
  match req.qualifier with
  | .all => ∀ role ∈ req.roles, role ∈ principal.roles
  | .any => ∃ role ∈ req.roles, principal.hasRole role = true
  | .not => ∀ role ∈ req.roles, role ∉ principal.roles

namespace AuthorizationMiddleware

def ChecksIds (config : AuthorizationConfig Object) : Prop :=
  config.requiredActions ≠ [] ∧
    ((given config.resourceIdAttr).isSome = true ∨ given config.resultEntitiesAttr = none)

/-- The resources that a message names, and their type. -/
structure Names (config : AuthorizationConfig Object) (message : Message) (resourceType : String)
    (resourceIds : List String) : Prop where
  resolved : resolveResourceType config message = .ok (some resourceType)
  typed : resourceType ≠ ""
  extracted : extractResourceIds config message = .ok (some resourceIds)
  some : resourceIds ≠ []

def asked (config : AuthorizationConfig Object) (port : BatchPort Object) (caller : Caller Object) (message : Message)
    (resourceType : String) (resourceIds : List String) : Except Specifications.Failure CheckAccessBatchResult :=
  port caller.accessToken (items config resourceType resourceIds) (resolveAuthContext config message) caller.roleNames

structure Holds (config : AuthorizationConfig Object) (port : BatchPort Object) (caller : Caller Object)
    (message : Message) : Prop where
  authenticated : config.denyAnonymous = true → caller.principal ≠ none
  allowed : ChecksIds config → ∃ resourceType resourceIds result, Names config message resourceType resourceIds ∧
    asked config port caller message resourceType resourceIds = .ok result ∧
      ∀ id ∈ resourceIds, allows config result resourceType id = true

/-- What the check before the handler lets through: an id that is not named is not asked for. -/
structure Admits (config : AuthorizationConfig Object) (port : BatchPort Object) (caller : Caller Object)
    (message : Message) : Prop where
  authenticated : config.denyAnonymous = true → caller.principal ≠ none
  checked : ∃ resourceType resourceIds, resolveResourceType config message = .ok resourceType ∧
    extractResourceIds config message = .ok resourceIds ∧
    ∀ type ids, given resourceType = some type → resourceIds = some ids → ids ≠ [] → config.requiredActions ≠ [] →
      ∃ result, asked config port caller message type ids = .ok result ∧
        (config.failSilently = true ∨ ∀ id ∈ ids, allows config result type id = true)

theorem runPreCheck_ok {middleware : AuthorizationMiddleware Object Entity} {resourceType : Option String}
    {resourceIds : List String} {caller : Caller Object} {message : Message} :
    (middleware.runPreCheck resourceType resourceIds caller (resolveAuthContext middleware.config message) :
        Except (Failure Raised) Unit) = .ok () ↔
      ∀ type, given resourceType = some type → resourceIds ≠ [] → middleware.config.requiredActions ≠ [] →
        ∃ result, asked middleware.config middleware.authorizationPort caller message type resourceIds = .ok result ∧
          (middleware.config.failSilently = true ∨
            ∀ id ∈ resourceIds, allows middleware.config result type id = true) := by
  unfold runPreCheck
  cases given resourceType with
  | none => simp
  | some type =>
    by_cases idle : resourceIds.isEmpty || middleware.config.requiredActions.isEmpty
    · simp only [if_pos idle,Option.some.injEq,forall_eq',true_iff]
      intro some required
      simp [some,required] at idle
    · have busy : resourceIds ≠ [] ∧ middleware.config.requiredActions ≠ [] := by
        simpa [not_or] using idle
      have each : ∀ result : CheckAccessBatchResult, (∀ id ∈ resourceIds,
          (if !allows middleware.config result type id && !middleware.config.failSilently then
            .error (denied middleware.config type id) else .ok () : Except (Failure Raised) Unit) = .ok ()) ↔
          (middleware.config.failSilently = true ∨ ∀ id ∈ resourceIds, allows middleware.config result type id = true) := by
        intro result
        cases middleware.config.failSilently with
        | true => simp
        | false => simp
      simp only [if_neg idle,bind_ok,forM_ok,Option.some.injEq,forall_eq',batch,mapError_ok,each]
      exact ⟨fun ran _ _ => ran,fun ran => ran busy.1 busy.2⟩

theorem enter_ok {middleware : AuthorizationMiddleware Object Entity} {caller : Caller Object} {message : Message} :
    (∃ entry, (middleware.enter caller message : Except (Failure Raised) _) = .ok entry) ↔
      Admits middleware.config middleware.authorizationPort caller message := by
  unfold enter
  simp only [bind_ok,mapError_ok]
  constructor
  · rintro ⟨entry,resourceType,resolved,admitted⟩
    split at admitted
    next stranger => cases admitted
    next familiar =>
      obtain ⟨resourceIds,extracted,admitted⟩ := bind_ok.mp admitted
      obtain ⟨_,checked,_⟩ := bind_ok.mp admitted
      refine ⟨fun denies stranger => familiar (by simp [denies,stranger]),resourceType,resourceIds,resolved,
        mapError_ok.mp extracted,?_⟩
      rintro type ids typed rfl
      exact runPreCheck_ok.mp checked type typed
  · rintro ⟨authenticated,resourceType,resourceIds,resolved,extracted,checked⟩
    have familiar : ¬(caller.principal.isNone && middleware.config.denyAnonymous) = true := by
      intro stranger
      obtain ⟨unknown,denies⟩ := Bool.and_eq_true_iff.mp stranger
      exact authenticated denies (Option.isNone_iff_eq_none.mp unknown)
    have ran : (middleware.runPreCheck resourceType (resourceIds.getD []) caller
        (resolveAuthContext middleware.config message) : Except (Failure Raised) Unit) = .ok () := by
      refine runPreCheck_ok.mpr fun type typed some required => ?_
      cases resourceIds with
      | none => exact absurd rfl some
      | some ids => exact checked type ids typed rfl some required
    refine ⟨(resourceType,resolveAuthContext middleware.config message),resourceType,resolved,?_⟩
    rw [if_neg familiar]
    exact bind_ok.mpr ⟨resourceIds,mapError_ok.mpr extracted,bind_ok.mpr ⟨(),ran,rfl⟩⟩

end AuthorizationMiddleware

namespace DecoratorAuthorizationMiddleware

open AuthorizationMiddleware (Holds Admits ChecksIds Names)

theorem enforcePermission_ok {principal : Option (Principal Object)} {req : PermissionRequirement} :
    (enforcePermission principal req : Except (Failure Raised) Unit) = .ok () ↔
      ∃ someone, principal = some someone ∧ req.Holds someone := by
  cases principal with
  | none => simp [enforcePermission]
  | some someone =>
    cases asked : req.qualifier with
    | all => simp [enforcePermission,PermissionRequirement.Holds,Qualifier.Holds,asked]
    | any => simp [enforcePermission,PermissionRequirement.Holds,Qualifier.Holds,asked]
    | not => simp [enforcePermission,PermissionRequirement.Holds,Qualifier.Holds,asked]

theorem enforceRole_ok {principal : Option (Principal Object)} {req : RoleRequirement} :
    (enforceRole principal req : Except (Failure Raised) Unit) = .ok () ↔
      ∃ someone, principal = some someone ∧ req.Passes someone := by
  cases principal with
  | none => simp [enforceRole]
  | some someone =>
    cases asked : req.qualifier with
    | all => simp [enforceRole,RoleRequirement.Passes,asked]
    | any => simp [enforceRole,RoleRequirement.Passes,asked]
    | not => simp [enforceRole,RoleRequirement.Passes,asked]

theorem enforceOwnership_ok {ownershipResolver : Option OwnershipResolver} {principal : Option (Principal Object)}
    {message : Message} {req : OwnershipRequirement} :
    (enforceOwnership ownershipResolver principal message req : Except (Failure Raised) Unit) = .ok () ↔
      ∃ someone, principal = some someone ∧ ∀ resolver id, ownershipResolver = some resolver →
        resourceId message req = some id → resolver req.resourceType id = .single someone.userId := by
  unfold enforceOwnership
  cases principal with
  | none => simp
  | some someone =>
    cases ownershipResolver with
    | none => simp
    | some resolver =>
      cases resourceId message req with
      | none => simp
      | some id => simp

theorem declared_ok {Requirement : Type} {requirement : Option Requirement}
    {enforced : Requirement → Except (Failure Raised) Unit} :
    declared requirement enforced = .ok () ↔ ∀ req, requirement = some req → enforced req = .ok () := by
  cases requirement with
  | none => simp [declared]
  | some req => simp [declared]

section Calls

variable (middleware : DecoratorAuthorizationMiddleware Object Entity) (handler : HandlerClass Object)
  (caller : Caller Object) (message : Message)

structure Authorized : Prop where
  permission : ∀ req, handler.permission = some req → ∃ principal, caller.principal = some principal ∧ req.Holds principal
  role : ∀ req, handler.role = some req → ∃ principal, caller.principal = some principal ∧ req.Holds principal
  owner : ∀ req, handler.owner = some req → ∃ principal resolver id owners, caller.principal = some principal ∧
    middleware.ownershipResolver = some resolver ∧ resourceId message req = some id ∧
    (resolver req.resourceType id).owners = some owners ∧ principal.userId ∈ owners
  authorization : ∀ config, handler.authorization = some config → ∃ port, middleware.authorizationPort = some port ∧
    Holds config port caller message

structure Passes : Prop where
  permission : ∀ req, handler.permission = some req → ∃ principal, caller.principal = some principal ∧ req.Holds principal
  role : ∀ req, handler.role = some req → ∃ principal, caller.principal = some principal ∧ req.Passes principal
  owner : ∀ req, handler.owner = some req → ∃ principal, caller.principal = some principal ∧ ∀ resolver id,
    middleware.ownershipResolver = some resolver → resourceId message req = some id →
      resolver req.resourceType id = .single principal.userId
  authorization : ∀ config port, handler.authorization = some config → middleware.authorizationPort = some port →
    Admits config port caller message

/-- Nothing that is required goes unchecked: the ports are there, the resources are named, denials are not silenced, and
no role is forbidden to a principal that has them all. -/
structure Gapless : Prop where
  owner : ∀ req, handler.owner = some req → middleware.ownershipResolver ≠ none ∧ resourceId message req ≠ none
  role : ∀ req principal, handler.role = some req → caller.principal = some principal → req.qualifier = .not →
    "*" ∈ principal.roles → req.roles = []
  authorization : ∀ config, handler.authorization = some config → ∃ port, middleware.authorizationPort = some port ∧
    (ChecksIds config → ∃ resourceType resourceIds, Names config message resourceType resourceIds ∧
      (config.failSilently = true → ∀ result, AuthorizationMiddleware.asked config port caller message resourceType
        resourceIds = .ok result → ∀ id ∈ resourceIds, AuthorizationMiddleware.allows config result resourceType id = true))

variable {middleware handler caller message}

theorem Authorized.gapless (authorized : Authorized middleware handler caller message) :
    Gapless middleware handler caller message := by
  refine ⟨fun req declared => ?_,fun req principal declared known forbids wildcard => ?_,fun config declared => ?_⟩
  · obtain ⟨_,resolver,id,_,_,configured,named,_⟩ := authorized.owner req declared
    exact ⟨by simp [configured],by simp [named]⟩
  · obtain ⟨someone,same,holds⟩ := authorized.role req declared
    obtain rfl := Option.some.inj (known.symm.trans same)
    unfold RoleRequirement.Holds at holds
    rw [forbids] at holds
    refine List.eq_nil_iff_forall_not_mem.mpr fun role member => ?_
    have lacking := holds role member
    simp [Principal.hasRole,wildcard] at lacking
  · obtain ⟨port,configured,holds⟩ := authorized.authorization config declared
    refine ⟨port,configured,fun checks => ?_⟩
    obtain ⟨resourceType,resourceIds,result,names,asked,allowed⟩ := holds.allowed checks
    refine ⟨resourceType,resourceIds,names,fun _ other again => ?_⟩
    obtain rfl := Except.ok.inj (asked.symm.trans again)
    exact allowed

theorem RoleRequirement.holds_of_passes {req : RoleRequirement} {principal : Principal Object}
    (passes : req.Passes principal)
    (unforbidden : req.qualifier = .not → "*" ∈ principal.roles → req.roles = []) : req.Holds principal := by
  unfold RoleRequirement.Passes at passes
  unfold RoleRequirement.Holds
  cases asked : req.qualifier with
  | all =>
    rw [asked] at passes
    intro role member
    simp [Principal.hasRole,passes role member]
  | any =>
    rw [asked] at passes
    exact passes
  | not =>
    rw [asked] at passes
    intro role member
    have tame : "*" ∉ principal.roles := by
      intro wildcard
      rw [unforbidden asked wildcard] at member
      cases member
    simp [Principal.hasRole,passes role member,tame]

theorem Passes.authorized (passes : Passes middleware handler caller message)
    (gapless : Gapless middleware handler caller message) : Authorized middleware handler caller message := by
  refine ⟨passes.permission,fun req declared => ?_,fun req declared => ?_,fun config declared => ?_⟩
  · obtain ⟨principal,known,passed⟩ := passes.role req declared
    exact ⟨principal,known,RoleRequirement.holds_of_passes passed (gapless.role req principal declared known)⟩
  · obtain ⟨principal,known,owned⟩ := passes.owner req declared
    obtain ⟨resolver,configured⟩ := Option.ne_none_iff_exists'.mp (gapless.owner req declared).1
    obtain ⟨id,named⟩ := Option.ne_none_iff_exists'.mp (gapless.owner req declared).2
    refine ⟨principal,resolver,id,[principal.userId],known,configured,named,?_,by simp⟩
    rw [owned resolver id configured named]
    rfl
  · obtain ⟨port,configured,closed⟩ := gapless.authorization config declared
    obtain ⟨authenticated,resourceType,resourceIds,resolved,extracted,checked⟩ :=
      passes.authorization config port declared configured
    refine ⟨port,configured,authenticated,fun checks => ?_⟩
    obtain ⟨type,ids,names,loud⟩ := closed checks
    obtain rfl := Except.ok.inj (resolved.symm.trans names.resolved)
    obtain rfl := Except.ok.inj (extracted.symm.trans names.extracted)
    obtain ⟨result,asked,decided⟩ := checked type ids (by simp [given,names.typed]) rfl names.some checks.1
    refine ⟨type,ids,result,names,asked,?_⟩
    rcases decided with silent | allowed
    · exact loud silent result asked
    · exact allowed

def Refuses (Raised : Type) (middleware : DecoratorAuthorizationMiddleware Object Entity) (caller : Caller Object)
    (message : Message) : Prop :=
  ∃ failure, ∀ nextHandler : Message → Except (Failure Raised) (Node Entity),
    middleware.call nextHandler caller message = .error failure

def delegated (middleware : DecoratorAuthorizationMiddleware Object Entity) (handler : HandlerClass Object)
    (nextHandler : Message → Except (Failure Raised) (Node Entity)) (caller : Caller Object) (message : Message) :
    Except (Failure Raised) (Node Entity) :=
  match handler.authorization,middleware.authorizationPort with
  | some config,some port => (middleware.inner port config).call nextHandler caller message
  | _,_ => nextHandler message

theorem call_declared (checked : caller.bypasses middleware.bypassRoles = false)
    (found : middleware.resolveHandlerClass message = some handler)
    (nextHandler : Message → Except (Failure Raised) (Node Entity)) :
    middleware.call nextHandler caller message =
      (declared handler.permission (enforcePermission caller.principal) >>= fun _ =>
        declared handler.role (enforceRole caller.principal) >>= fun _ =>
        declared handler.owner (enforceOwnership middleware.ownershipResolver caller.principal message) >>= fun _ =>
        delegated middleware handler nextHandler caller message) := by
  have unbypassed : ¬caller.bypasses middleware.bypassRoles = true := by simp [checked]
  rw [call,if_neg unbypassed,found]
  rfl

theorem delegated_of_admits (checked : caller.bypasses middleware.bypassRoles = false)
    (admits : ∀ config port, handler.authorization = some config → middleware.authorizationPort = some port →
      Admits config port caller message) (error : Failure Raised) :
    delegated middleware handler (fun _ => .error error) caller message = .error error := by
  unfold delegated
  split
  next config port wanted configured =>
    have entered : ∃ entry, ((middleware.inner port config).enter caller message : Except (Failure Raised) _) =
        .ok entry := AuthorizationMiddleware.enter_ok.mpr (admits config port wanted configured)
    obtain ⟨entry,admitted⟩ := entered
    have unbypassed : ¬caller.bypasses (middleware.inner port config).bypassRoles = true := by
      simpa [inner] using checked
    rw [AuthorizationMiddleware.call,if_neg unbypassed,admitted]
    rfl
  next => rfl

theorem delegated_refuses (checked : caller.bypasses middleware.bypassRoles = false)
    {config : AuthorizationConfig Object} {port : BatchPort Object} (wanted : handler.authorization = some config)
    (configured : middleware.authorizationPort = some port) (refused : ¬Admits config port caller message) :
    ∃ failure, ∀ nextHandler : Message → Except (Failure Raised) (Node Entity),
      delegated middleware handler nextHandler caller message = .error failure := by
  have unbypassed : ¬caller.bypasses (middleware.inner port config).bypassRoles = true := by
    simpa [inner] using checked
  cases admitted : ((middleware.inner port config).enter caller message : Except (Failure Raised) _) with
  | ok entry => exact absurd (AuthorizationMiddleware.enter_ok.mp ⟨entry,admitted⟩) refused
  | error failure =>
    refine ⟨failure,fun nextHandler => ?_⟩
    simp only [delegated,wanted,configured]
    rw [AuthorizationMiddleware.call,if_neg unbypassed,admitted]
    rfl

theorem call_of_passes (checked : caller.bypasses middleware.bypassRoles = false)
    (found : middleware.resolveHandlerClass message = some handler)
    (passes : Passes middleware handler caller message) (error : Failure Raised) :
    middleware.call (fun _ => .error error) caller message = .error error := by
  have permission : (declared handler.permission (enforcePermission caller.principal) : Except (Failure Raised) Unit) =
      .ok () := declared_ok.mpr fun req declared => enforcePermission_ok.mpr (passes.permission req declared)
  have role : (declared handler.role (enforceRole caller.principal) : Except (Failure Raised) Unit) = .ok () :=
    declared_ok.mpr fun req declared => enforceRole_ok.mpr (passes.role req declared)
  have owner : (declared handler.owner (enforceOwnership middleware.ownershipResolver caller.principal message) :
      Except (Failure Raised) Unit) = .ok () :=
    declared_ok.mpr fun req declared => enforceOwnership_ok.mpr (passes.owner req declared)
  rw [call_declared checked found,permission,role,owner]
  exact delegated_of_admits checked passes.authorization error

theorem passes_or_refuses (Raised : Type) (checked : caller.bypasses middleware.bypassRoles = false)
    (found : middleware.resolveHandlerClass message = some handler) :
    Passes middleware handler caller message ∨ Refuses Raised middleware caller message := by
  unfold Refuses
  simp only [call_declared checked found]
  cases permission : (declared handler.permission (enforcePermission caller.principal) : Except (Failure Raised) Unit) with
  | error failure => exact .inr ⟨failure,fun _ => rfl⟩
  | ok _ =>
    cases role : (declared handler.role (enforceRole caller.principal) : Except (Failure Raised) Unit) with
    | error failure => exact .inr ⟨failure,fun _ => rfl⟩
    | ok _ =>
      cases owner : (declared handler.owner (enforceOwnership middleware.ownershipResolver caller.principal message) :
          Except (Failure Raised) Unit) with
      | error failure => exact .inr ⟨failure,fun _ => rfl⟩
      | ok _ =>
        by_cases admits : ∀ config port, handler.authorization = some config →
            middleware.authorizationPort = some port → Admits config port caller message
        · refine .inl ⟨fun req wanted => ?_,fun req wanted => ?_,fun req wanted => ?_,admits⟩
          · exact enforcePermission_ok.mp (declared_ok.mp permission req wanted)
          · exact enforceRole_ok.mp (declared_ok.mp role req wanted)
          · exact enforceOwnership_ok.mp (declared_ok.mp owner req wanted)
        · push Not at admits
          obtain ⟨config,port,wanted,configured,refused⟩ := admits
          exact .inr (delegated_refuses checked wanted configured refused)

/-- The two ownership checks agree on the resource of a message. -/
def OwnersAgree (middleware : DecoratorAuthorizationMiddleware Object Entity) (handler : HandlerClass Object)
    (caller : Caller Object) (message : Message) : Prop :=
  ∀ req principal resolver id action, handler.owner = some req → caller.principal = some principal →
    middleware.ownershipResolver = some resolver → resourceId message req = some id →
    ((enforceOwnership middleware.ownershipResolver caller.principal message req : Except (Failure Empty) Unit) = .ok () ↔
      (({ ownershipResolver := resolver } : OwnershipEvaluator).evaluate { principal, context := {
        resourceType := req.resourceType, action, resourceIds := some [id] } : Request Object }).allowed = true)

/-- The principal is not one of several owners. -/
def SingleOwner (middleware : DecoratorAuthorizationMiddleware Object Entity) (handler : HandlerClass Object)
    (caller : Caller Object) (message : Message) : Prop :=
  ∀ req principal resolver id users, handler.owner = some req → caller.principal = some principal →
    middleware.ownershipResolver = some resolver → resourceId message req = some id →
    resolver req.resourceType id = .several users → principal.userId ∉ users

theorem evaluate_allowed (resolver : OwnershipResolver) (principal : Principal Object) (resourceType id action : String) :
    (({ ownershipResolver := resolver } : OwnershipEvaluator).evaluate { principal, context := {
      resourceType, action, resourceIds := some [id] } : Request Object }).allowed = true ↔
      ∃ owners, (resolver resourceType id).owners = some owners ∧ principal.userId ∈ owners := by
  cases owner : resolver resourceType id with
  | unknown => simp [OwnershipEvaluator.evaluate,OwnershipEvaluator.ownsAll,owner,Owner.owners,OwnershipEvaluator.abstain]
  | single user =>
    by_cases mine : principal.userId = user
    · simp [OwnershipEvaluator.evaluate,OwnershipEvaluator.ownsAll,owner,Owner.owners,mine]
    · simp [OwnershipEvaluator.evaluate,OwnershipEvaluator.ownsAll,owner,Owner.owners,OwnershipEvaluator.abstain,mine]
  | several users =>
    by_cases mine : principal.userId ∈ users
    · simp [OwnershipEvaluator.evaluate,OwnershipEvaluator.ownsAll,owner,Owner.owners,mine]
    · simp [OwnershipEvaluator.evaluate,OwnershipEvaluator.ownsAll,owner,Owner.owners,OwnershipEvaluator.abstain,mine]

theorem ownersAgree_iff : OwnersAgree middleware handler caller message ↔
    SingleOwner middleware handler caller message := by
  constructor
  · intro agree req principal resolver id users wanted known configured named several member
    have accepted := (agree req principal resolver id "" wanted known configured named).mpr
      ((evaluate_allowed resolver principal req.resourceType id "").mpr ⟨users,by rw [several]; rfl,member⟩)
    obtain ⟨someone,_,owned⟩ := enforceOwnership_ok.mp accepted
    have single := owned resolver id configured named
    rw [several] at single
    cases single
  · intro sole req principal resolver id action wanted known configured named
    rw [enforceOwnership_ok,evaluate_allowed]
    constructor
    · rintro ⟨someone,same,owned⟩
      obtain rfl := Option.some.inj (known.symm.trans same)
      exact ⟨[principal.userId],by rw [owned resolver id configured named]; rfl,by simp⟩
    · rintro ⟨owners,owned,member⟩
      refine ⟨principal,known,fun other again same found => ?_⟩
      obtain rfl := Option.some.inj (configured.symm.trans same)
      obtain rfl := Option.some.inj (named.symm.trans found)
      cases owner : resolver req.resourceType id with
      | unknown =>
        rw [owner] at owned
        cases owned
      | single user =>
        rw [owner] at owned
        obtain rfl := Option.some.inj owned
        rw [List.mem_singleton.mp member]
      | several users =>
        rw [owner] at owned
        obtain rfl := Option.some.inj owned
        exact absurd member (sole req principal resolver id users wanted known configured named owner)

/-- A call that is not authorized is refused, and the ownership checks agree, exactly when no gap is left open by
checks that pass and the principal is not one of several owners. -/
theorem call_failClosed_iff (Raised : Type) (checked : caller.bypasses middleware.bypassRoles = false)
    (found : middleware.resolveHandlerClass message = some handler) :
    (Authorized middleware handler caller message ∨ Refuses Raised middleware caller message) ∧
      OwnersAgree middleware handler caller message ↔
    (Passes middleware handler caller message → Gapless middleware handler caller message) ∧
      SingleOwner middleware handler caller message := by
  rw [ownersAgree_iff]
  refine and_congr_left fun _ => ⟨?_,fun closed => ?_⟩
  · rintro (authorized | ⟨failure,refuses⟩) passes
    · exact authorized.gapless
    · have first := (refuses _).symm.trans (call_of_passes checked found passes (.insufficientRole "first" ""))
      have second := (refuses _).symm.trans (call_of_passes checked found passes (.insufficientRole "second" ""))
      have same := first.symm.trans second
      simp at same
  · rcases passes_or_refuses Raised checked found with passes | refuses
    · exact .inl (passes.authorized (closed passes))
    · exact .inr refuses

end Calls

def ownersHandler : HandlerClass Empty := { owner := some { resourceType := "order", idField := "order_id" } }

def deleteOrder : Message where
  getattr field := if field = "order_id" then some (.text "o1") else none
  dotted _ := .error .attributeError

def serving (ownershipResolver : Option OwnershipResolver) : DecoratorAuthorizationMiddleware Empty Unit where
  getCommandHandler _ := some ownersHandler
  getQueryHandler _ := none
  ownershipResolver := ownershipResolver
  getId _ _ := .missing

def calledBy (userId : String) : Caller Empty := { principal := some { userId, username := userId } }

theorem call_failClosed_owner :
    (Authorized (serving (some fun _ _ => .single "u1")) ownersHandler (calledBy "u2") deleteOrder ∨
      Refuses Empty (serving (some fun _ _ => .single "u1")) (calledBy "u2") deleteOrder) ∧
    OwnersAgree (serving (some fun _ _ => .single "u1")) ownersHandler (calledBy "u2") deleteOrder := by
  refine (call_failClosed_iff Empty rfl rfl).mpr ⟨fun _ => ⟨?_,?_,?_⟩,?_⟩
  · intro req wanted
    obtain rfl := Option.some.inj wanted
    exact ⟨by simp [serving],by simp [resourceId,deleteOrder,Attribute.str?]⟩
  · rintro _ _ wanted
    cases wanted
  · rintro _ wanted
    cases wanted
  · rintro _ _ _ _ _ _ _ configured _ several
    obtain rfl := Option.some.inj configured
    cases several

/-- Without a resolver anyone may act on the order. -/
theorem call_failOpen_owner : ¬ ∀ (middleware : DecoratorAuthorizationMiddleware Empty Unit) (handler : HandlerClass Empty)
    (caller : Caller Empty) (message : Message), caller.bypasses middleware.bypassRoles = false →
    middleware.resolveHandlerClass message = some handler →
    (Authorized middleware handler caller message ∨ Refuses Empty middleware caller message) ∧
      OwnersAgree middleware handler caller message := by
  intro closed
  obtain ⟨authorized | ⟨failure,refuses⟩,_⟩ := closed (serving none) ownersHandler (calledBy "u2") deleteOrder rfl rfl
  · obtain ⟨_,_,_,_,_,configured,_⟩ := authorized.owner _ rfl
    cases configured
  · have reached : (serving none).call (fun _ => .ok .anything) (calledBy "u2") deleteOrder =
        (.ok .anything : Except (Failure Empty) _) := rfl
    cases reached.symm.trans (refuses _)

end DecoratorAuthorizationMiddleware
end CqrsDdd.Access
