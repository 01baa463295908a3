import CqrsDdd.Access.Evaluators
import CqrsDdd.Attempts
import CqrsDdd.Dict

/-! The middleware that checks the resource ids of a message before the handler and
the entities of its result behind it, and the adapter that turns the answers of
the engine into the result both checks ask. -/
namespace CqrsDdd.Access

open Identity Specifications

variable {Object Entity Raised : Type}

inductive Failure (Raised : Type)
  | permissionDenied (message : String) (resourceType : Option String) (action : Option String)
      (resourceIds : Option (List String)) (reason : String)
  | insufficientRole (requiredRole message : String)
  | raised (failure : Specifications.Failure)
  | handler (error : Raised)
  deriving DecidableEq

inductive Quantifier
  | all
  | any
  deriving DecidableEq, Repr

def Quantifier.holds (quantifier : Quantifier) (allowed : String → Bool) (actions : List String) : Bool :=
  match quantifier with
  | .all => actions.all allowed
  | .any => actions.any allowed

structure CheckAccessItem where
  resourceType : String
  action : String
  resourceIds : Option (List String) := none
  deriving DecidableEq, Repr

structure CheckAccessBatchResult where
  accessMap : Dict (String × String) (Finset String) := .empty
  globalPermissions : Finset String := ∅

/-- `actions` is a set; for the quantifiers it may be given as any list of its members. -/
def CheckAccessBatchResult.isAllowed (result : CheckAccessBatchResult) (resourceType resourceId : String)
    (actions : List String) (actionQuantifier : Quantifier := .all) : Bool :=
  let resourceActions := (result.accessMap.get (resourceType,resourceId)).getD ∅ ∪ result.globalPermissions
  actionQuantifier.holds (fun action => action ∈ resourceActions) actions

/-- `check_access_batch` of a port, called with the token, the items, the context and the roles. -/
abbrev BatchPort (Object : Type) := Option String → List CheckAccessItem → Option (Fields Object) →
  Option (Finset String) → Except Specifications.Failure CheckAccessBatchResult

/-- What the engine answers for a resource type and an action: a flag for the whole type, or ids. -/
inductive Answer
  | flag (granted : Bool)
  | ids (resourceIds : List String)
  | other
  deriving DecidableEq, Repr

structure AccessResponse where
  resourceTypeName : String
  actionName : String
  answer : Answer
  deriving DecidableEq, Repr

namespace StatefulABACAdapter

def record (result : CheckAccessBatchResult) (response : AccessResponse) : CheckAccessBatchResult :=
  match response.answer with
  | .flag true => { result with globalPermissions := insert response.actionName result.globalPermissions }
  | .ids resourceIds =>
    { result with
      accessMap := resourceIds.foldl (fun accessMap rid =>
        let key := (response.resourceTypeName,rid)
        accessMap.set key (insert response.actionName ((accessMap.get key).getD ∅))) result.accessMap }
  | _ => result

def collect (responses : List AccessResponse) : CheckAccessBatchResult := responses.foldl record {}

def checkAccessBatch (engine : Option String → List CheckAccessItem → Option (Fields Object) →
    Option (Finset String) → List AccessResponse) : BatchPort Object := fun accessToken items authContext roleNames =>
  .ok (collect (engine accessToken items authContext roleNames))

end StatefulABACAdapter

/-- The value of an attribute of a message, as far as the middleware look at it: a text, a list with its `str`
and those of its items, or anything else with its `str`. -/
inductive Attribute
  | none
  | text (content : String)
  | list (shown : String) (items : List String)
  | other (shown : String) (truthy : Bool)
  deriving DecidableEq, Repr

/-- `str` of a value that is not `None`. -/
def Attribute.str? : Attribute → Option String
  | .none => Option.none
  | .text content => some content
  | .list shown _ | .other shown _ => some shown

/-- The attributes of a message; those at a dotted path may be missing on the way. -/
structure Message where
  messageType : String := ""
  getattr : String → Option Attribute
  dotted : String → Except Specifications.Failure Attribute

structure AuthorizationConfig (Object : Type) where
  resourceType : Option String := none
  resourceTypeAttr : Option String := none
  requiredActions : List String := []
  actionQuantifier : Quantifier := .all
  resourceIdAttr : Option String := none
  resultEntitiesAttr : Option String := none
  entityIdAttr : String := "id"
  failSilently : Bool := false
  denyAnonymous : Bool := false
  authContextProvider : Option (Message → Option (Fields Object)) := none

def given (text : Option String) : Option String := text.filter fun content => content ≠ ""

inductive Assignment
  | modelCopy
  | setattr
  | frozen
  deriving DecidableEq, Repr

/-- The result of a handler: objects down to a list of entities, or to something else. -/
inductive Node (Entity : Type)
  | entities (items : List Entity)
  | anything
  | object (assignment : Assignment) (attributes : List (String × Node Entity))

namespace Node

def getattrDotted : List String → Node Entity → Except Specifications.Failure (Node Entity)
  | [],node => .ok node
  | part::rest,.object _ attributes =>
    match attributes.lookup part with
    | some child => getattrDotted rest child
    | none => .error .attributeError
  | _::_,_ => .error .attributeError

def assign (assignment : Assignment) (attributes : List (String × Node Entity)) (part : String) (value : Node Entity) :
    Except Specifications.Failure (Node Entity) :=
  match assignment with
  | .modelCopy | .setattr => .ok (.object assignment (Dict.put part value attributes))
  | .frozen => .error .attributeError

def setattrDotted (value : Node Entity) : List String → Node Entity → Except Specifications.Failure (Node Entity)
  | [part],.object assignment attributes => assign assignment attributes part value
  | part::rest,.object assignment attributes =>
    match attributes.lookup part with
    | some child => do assign assignment attributes part (← setattrDotted value rest child)
    | none => .error .attributeError
  | _,_ => .error .attributeError

end Node

/-- The attribute that holds the id of an entity: missing, `None`, or a value with its `str`. -/
inductive EntityId
  | missing
  | null
  | known (shown : String)
  deriving DecidableEq, Repr

def EntityId.known? : EntityId → Option String
  | .known shown => some shown
  | _ => none

/-- `str(getattr(e, attr))`. -/
def EntityId.str : EntityId → Except Specifications.Failure String
  | .missing => .error .attributeError
  | .null => .ok "None"
  | .known shown => .ok shown

structure Caller (Object : Type) where
  principal : Option (Principal Object) := none
  accessToken : Option String := none

def Caller.roleNames (caller : Caller Object) : Option (Finset String) := caller.principal.map Principal.roles

/-- `principal and self._bypass_roles and principal.has_any_role(*self._bypass_roles)`. -/
def Caller.bypasses (caller : Caller Object) (bypassRoles : Finset String) : Bool :=
  caller.principal.any fun principal => principal.hasAnyRole bypassRoles

structure AuthorizationMiddleware (Object Entity : Type) where
  authorizationPort : BatchPort Object
  config : AuthorizationConfig Object
  bypassRoles : Finset String := ∅
  getId : String → Entity → EntityId

namespace AuthorizationMiddleware

def resolveResourceType (config : AuthorizationConfig Object) (message : Message) :
    Except Specifications.Failure (Option String) :=
  match given config.resourceType,given config.resourceTypeAttr with
  | some resourceType,_ => .ok (some resourceType)
  | none,some path => do
    match ← message.dotted path with
    | .list _ [] | .other _ false => return none
    | value => return value.str?
  | none,none => .ok none

def extractResourceIds (config : AuthorizationConfig Object) (message : Message) :
    Except Specifications.Failure (Option (List String)) :=
  match given config.resourceIdAttr with
  | none => .ok none
  | some path => do
    match ← message.dotted path with
    | .list _ items => return some items
    | value => return value.str?.map fun shown => [shown]

def resolveAuthContext (config : AuthorizationConfig Object) (message : Message) : Option (Fields Object) :=
  config.authContextProvider.bind fun provider => provider message

def items (config : AuthorizationConfig Object) (resourceType : String) (resourceIds : List String) :
    List CheckAccessItem :=
  config.requiredActions.map fun action => ⟨resourceType,action,some resourceIds⟩

def batch (middleware : AuthorizationMiddleware Object Entity) (caller : Caller Object)
    (authContext : Option (Fields Object)) (resourceType : String) (resourceIds : List String) :
    Except (Failure Raised) CheckAccessBatchResult :=
  (middleware.authorizationPort caller.accessToken (items middleware.config resourceType resourceIds) authContext
    caller.roleNames).mapError .raised

def allows (config : AuthorizationConfig Object) (result : CheckAccessBatchResult) (resourceType resourceId : String) :
    Bool :=
  result.isAllowed resourceType resourceId config.requiredActions config.actionQuantifier

def denied (config : AuthorizationConfig Object) (resourceType resourceId : String) : Failure Raised :=
  .permissionDenied "Access denied" (some resourceType) (some (",".intercalate config.requiredActions)) (some [resourceId])
    "Access denied by pre-check"

def runPreCheck (middleware : AuthorizationMiddleware Object Entity) (resourceType : Option String)
    (resourceIds : List String) (caller : Caller Object) (authContext : Option (Fields Object)) :
    Except (Failure Raised) Unit :=
  match given resourceType with
  | none => .ok ()
  | some resourceType =>
    if resourceIds.isEmpty || middleware.config.requiredActions.isEmpty then .ok () else do
      let result ← middleware.batch caller authContext resourceType resourceIds
      resourceIds.forM fun rid =>
        if !allows middleware.config result resourceType rid && !middleware.config.failSilently then
          .error (denied middleware.config resourceType rid)
        else .ok ()

def filterResult (middleware : AuthorizationMiddleware Object Entity) (result : Node Entity) (resourceType : String)
    (caller : Caller Object) (authContext : Option (Fields Object)) : Except (Failure Raised) (Node Entity) :=
  match given middleware.config.resultEntitiesAttr with
  | none => .ok result
  | some path =>
    let parts := splitOn '.' path
    match result.getattrDotted parts with
    | .ok (.entities entities) =>
      let entityIds := entities.filterMap fun entity => (middleware.getId middleware.config.entityIdAttr entity).known?
      if entityIds.isEmpty then .ok result else do
        let batchResult ← middleware.batch caller authContext resourceType entityIds
        let filtered ← (Attempts.select (fun entity => do
          let id ← (middleware.getId middleware.config.entityIdAttr entity).str
          return allows middleware.config batchResult resourceType id) entities).mapError .raised
        (Node.setattrDotted (.entities filtered) parts result).mapError .raised
    | _ => .ok result

/-- What is done before the handler is called: the resource type and the context for what is done behind it. -/
def enter (middleware : AuthorizationMiddleware Object Entity) (caller : Caller Object) (message : Message) :
    Except (Failure Raised) (Option String × Option (Fields Object)) := do
  let resourceType ← (resolveResourceType middleware.config message).mapError .raised
  if caller.principal.isNone && middleware.config.denyAnonymous then
    .error (.permissionDenied "Access denied" resourceType (some (",".intercalate middleware.config.requiredActions)) none
      "Anonymous access denied")
  else
    let resourceIds ← (extractResourceIds middleware.config message).mapError .raised
    let authContext := resolveAuthContext middleware.config message
    middleware.runPreCheck resourceType (resourceIds.getD []) caller authContext
    return (resourceType,authContext)

def call (middleware : AuthorizationMiddleware Object Entity) (nextHandler : Message → Except (Failure Raised) (Node Entity))
    (caller : Caller Object) (message : Message) : Except (Failure Raised) (Node Entity) :=
  if caller.bypasses middleware.bypassRoles then nextHandler message else do
    let (resourceType,authContext) ← middleware.enter caller message
    let result ← nextHandler message
    match given middleware.config.resultEntitiesAttr,given resourceType with
    | some _,some resourceType => middleware.filterResult result resourceType caller authContext
    | _,_ => return result

end AuthorizationMiddleware
end CqrsDdd.Access
