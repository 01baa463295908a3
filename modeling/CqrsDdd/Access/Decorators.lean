import CqrsDdd.Access.Authorization
import Mathlib.Data.List.Dedup

/-! The middleware that enforces what the decorators of a handler class require. -/
namespace CqrsDdd.Access

open Identity Specifications Attempts

variable {Object Entity Raised : Type}

inductive Qualifier
  | all
  | any
  | not
  deriving DecidableEq, Repr

def Qualifier.Holds (qualifier : Qualifier) (has : String → Bool) (names : List String) : Prop :=
  match qualifier with
  | .all => ∀ name ∈ names, has name = true
  | .any => ∃ name ∈ names, has name = true
  | .not => ∀ name ∈ names, has name = false

structure PermissionRequirement where
  permissions : List String
  qualifier : Qualifier := .all

structure RoleRequirement where
  roles : List String
  qualifier : Qualifier := .all

structure OwnershipRequirement where
  resourceType : String
  idField : String := "id"

structure HandlerClass (Object : Type) where
  permission : Option PermissionRequirement := none
  role : Option RoleRequirement := none
  owner : Option OwnershipRequirement := none
  authorization : Option (AuthorizationConfig Object) := none

structure DecoratorAuthorizationMiddleware (Object Entity : Type) where
  getCommandHandler : String → Option (HandlerClass Object)
  getQueryHandler : String → Option (HandlerClass Object)
  authorizationPort : Option (BatchPort Object) := none
  ownershipResolver : Option OwnershipResolver := none
  bypassRoles : Finset String := ∅
  getId : String → Entity → EntityId

def sorted (names : List String) : List String := names.mergeSort fun first second => decide (first ≤ second)

namespace DecoratorAuthorizationMiddleware

def anonymousDenied : Failure Raised :=
  .permissionDenied "Anonymous access denied" none none none "Anonymous access denied"

/-- A set of names is written in the order of their declaration. -/
def enforcePermission (principal : Option (Principal Object)) (req : PermissionRequirement) :
    Except (Failure Raised) Unit :=
  match principal with
  | none => .error anonymousDenied
  | some principal =>
    let perms := req.permissions.dedup
    let refused (msg : String) : Except (Failure Raised) Unit :=
      .error (.permissionDenied msg none (some (", ".intercalate perms)) none msg)
    match req.qualifier with
    | .all =>
      let missing := perms.filter fun p => !principal.hasPermission p
      if missing.isEmpty then .ok () else refused ("Missing permissions: " ++ ", ".intercalate missing)
    | .any =>
      if perms.any principal.hasPermission then .ok () else refused ("Requires any of: " ++ ", ".intercalate perms)
    | .not =>
      let has := perms.filter principal.hasPermission
      if has.isEmpty then .ok () else refused ("Denied permissions present: " ++ ", ".intercalate has)

/-- `all` and `not` look into the roles of the principal, `any` asks it whether it has one of them. -/
def enforceRole (principal : Option (Principal Object)) (req : RoleRequirement) : Except (Failure Raised) Unit :=
  match principal with
  | none => .error anonymousDenied
  | some principal =>
    let roles := req.roles.dedup
    let refused (named : List String) (msg : String) : Except (Failure Raised) Unit :=
      .error (.insufficientRole (", ".intercalate (sorted named)) (msg ++ ", ".intercalate (sorted named)))
    match req.qualifier with
    | .all =>
      let missing := roles.filter fun role => role ∉ principal.roles
      if missing.isEmpty then .ok () else refused missing "Missing required roles: "
    | .any =>
      if roles.any principal.hasRole then .ok () else refused roles "Requires any role of: "
    | .not =>
      let has := roles.filter fun role => role ∈ principal.roles
      if has.isEmpty then .ok () else refused has "Denied roles present: "

/-- `getattr(message, req.id_field, None)`, by its `str`. -/
def resourceId (message : Message) (req : OwnershipRequirement) : Option String :=
  (message.getattr req.idField).bind Attribute.str?

def enforceOwnership (ownershipResolver : Option OwnershipResolver) (principal : Option (Principal Object))
    (message : Message) (req : OwnershipRequirement) : Except (Failure Raised) Unit :=
  match principal,ownershipResolver,resourceId message req with
  | none,_,_ => .error anonymousDenied
  | some _,none,_ => .ok ()
  | some _,some _,none => .ok ()
  | some principal,some resolver,some id =>
    if resolver req.resourceType id = .single principal.userId then .ok ()
    else .error (.permissionDenied "Ownership check failed" (some req.resourceType) none (some [id])
      "Ownership check failed")

def resolveHandlerClass (middleware : DecoratorAuthorizationMiddleware Object Entity) (message : Message) :
    Option (HandlerClass Object) :=
  (middleware.getCommandHandler message.messageType).orElse fun _ => middleware.getQueryHandler message.messageType

/-- A requirement that is not declared is not enforced. -/
def declared {Requirement : Type} (requirement : Option Requirement)
    (enforced : Requirement → Except (Failure Raised) Unit) : Except (Failure Raised) Unit :=
  match requirement with
  | none => .ok ()
  | some requirement => enforced requirement

/-- The middleware that an `authorization` decorator is delegated to. -/
def inner (middleware : DecoratorAuthorizationMiddleware Object Entity) (port : BatchPort Object)
    (config : AuthorizationConfig Object) : AuthorizationMiddleware Object Entity :=
  ⟨port,config,middleware.bypassRoles,middleware.getId⟩

def call (middleware : DecoratorAuthorizationMiddleware Object Entity)
    (nextHandler : Message → Except (Failure Raised) (Node Entity)) (caller : Caller Object) (message : Message) :
    Except (Failure Raised) (Node Entity) :=
  if caller.bypasses middleware.bypassRoles then nextHandler message else
  match middleware.resolveHandlerClass message with
  | none => nextHandler message
  | some handler => do
    declared handler.permission (enforcePermission caller.principal)
    declared handler.role (enforceRole caller.principal)
    declared handler.owner (enforceOwnership middleware.ownershipResolver caller.principal message)
    match handler.authorization,middleware.authorizationPort with
    | some config,some port => (middleware.inner port config).call nextHandler caller message
    | _,_ => nextHandler message

end DecoratorAuthorizationMiddleware
end CqrsDdd.Access
