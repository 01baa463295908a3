import CqrsDdd.Multitenancy.Guards
import CqrsDdd.Outbox.Storage
import CqrsDdd.Specifications.MemoryOperators

/-! The tenant mixins over the in-memory outbox. Both stamp what is saved and restrict
what is pending; the strict one looks up the messages it is to mark among the
pending ones first. -/
namespace CqrsDdd.Outbox

open Specifications Multitenancy MultitenantRepository

variable {Object : Type}

abbrev DictMessage (Object : Type) := OutboxMessage (Fields Object)

/-- The slice `items[:limit]`; a negative limit counts from the end. -/
def upTo {Item : Type} (limit : Int) (items : List Item) : List Item :=
  items.take (if 0 ≤ limit then limit.toNat else items.length - (-limit).toNat)

/-- `get_pending` with a specification and with any limit. -/
def InMemoryOutboxStorage.getPendingSatisfying (stored : List (DictMessage Object)) (limit : Int)
    (specification : Option (DictMessage Object → Bool)) : List (DictMessage Object) :=
  let pending := stored.filter (·.publishedAt.isNone)
  let pending := match specification with
    | none => pending
    | some isSatisfiedBy => pending.filter isSatisfiedBy
  upTo limit (byCreation (·.createdAt) pending)

/-- The class of the mixin, which may name the key for the tenant in the metadata. -/
structure MultitenantOutboxMixin where
  tenantMetadataKey : String := "tenant_id"

namespace MultitenantOutboxMixin

/-- The attribute specification `tenant_id = tenant`. -/
def buildTenantSpecification (tenantId : String) (message : DictMessage Object) : Bool :=
  message.tenantId = some tenantId

def injectTenantIntoMessage (mixin : MultitenantOutboxMixin) (message : DictMessage Object) (tenantId : String) :
    DictMessage Object :=
  {message with metadata := Dict.put mixin.tenantMetadataKey (.text tenantId) message.metadata, tenantId := some tenantId}

/-- A message that has no tenant gives null. -/
def getTenantFromMessage (mixin : MultitenantOutboxMixin) (message : DictMessage Object) : Value Object :=
  match message.tenantId with
  | some tenantId => .text tenantId
  | none => (message.metadata.lookup mixin.tenantMetadataKey).getD .null

def saveMessages (mixin : MultitenantOutboxMixin) (context : Option String)
    (stored messages : List (DictMessage Object)) : Except (Failure Object) (List (DictMessage Object)) := do
  if isSystemTenant context then return InMemoryOutboxStorage.saveMessages stored messages
  let tenantId ← requireTenantContext context
  return InMemoryOutboxStorage.saveMessages stored
    (messages.map fun message => mixin.injectTenantIntoMessage message tenantId)

def getPending (context : Option String) (stored : List (DictMessage Object)) (limit : Int) :
    Except (Failure Object) (List (DictMessage Object)) := do
  if isSystemTenant context then return InMemoryOutboxStorage.getPendingSatisfying stored limit none
  let tenantId ← requireTenantContext context
  return InMemoryOutboxStorage.getPendingSatisfying stored limit (some (buildTenantSpecification tenantId))

def markPublished (context : Option String) (stored : List (DictMessage Object)) (now : Int)
    (messageIds : List String) : Except (Failure Object) (List (DictMessage Object)) := do
  if isSystemTenant context then return InMemoryOutboxStorage.markPublished stored now messageIds
  let _ ← (requireTenantContext context : Except (Failure Object) String)
  return InMemoryOutboxStorage.markPublished stored now messageIds

def markFailed (context : Option String) (stored : List (DictMessage Object)) (messageId error : String) :
    Except (Failure Object) (List (DictMessage Object)) := do
  if isSystemTenant context then return InMemoryOutboxStorage.markFailed stored messageId error
  let _ ← (requireTenantContext context : Except (Failure Object) String)
  return InMemoryOutboxStorage.markFailed stored messageId error

end MultitenantOutboxMixin

namespace StrictMultitenantOutboxMixin

/-- The check of one id against the pending messages by their ids. -/
def validate (mixin : MultitenantOutboxMixin) (tenantId : String) (pendingById : Dict String (DictMessage Object))
    (messageId : String) : Except (Failure Object) Unit :=
  match pendingById.get messageId with
  | none => .ok ()
  | some message =>
    let messageTenant := mixin.getTenantFromMessage message
    if messageTenant.isNull || messageTenant.isText tenantId then .ok ()
    else .error (.crossTenantAccess tenantId messageTenant)

/-- The pending messages are fetched through the other mixin. -/
def markPublished (mixin : MultitenantOutboxMixin) (context : Option String) (stored : List (DictMessage Object))
    (now : Int) (messageIds : List String) : Except (Failure Object) (List (DictMessage Object)) := do
  if isSystemTenant context then return InMemoryOutboxStorage.markPublished stored now messageIds
  let tenantId ← requireTenantContext context
  let pending ← MultitenantOutboxMixin.getPending context stored (messageIds.length * 2)
  let pendingById := pending.foldl (fun byId message => byId.set message.messageId message) Dict.empty
  messageIds.forM (validate mixin tenantId pendingById)
  MultitenantOutboxMixin.markPublished context stored now messageIds

end StrictMultitenantOutboxMixin

inductive Variant
  | plain
  | strict
  deriving DecidableEq, Repr

inductive TenantCall (Object : Type)
  | saveMessages (messages : List (DictMessage Object))
  | getPending (limit : Int)
  | markPublished (now : Int) (messageIds : List String)
  | markFailed (messageId error : String)

/-- The storage after a call, and the messages it returns. -/
def TenantCall.perform (variant : Variant) (mixin : MultitenantOutboxMixin) (context : Option String)
    (stored : List (DictMessage Object)) :
    TenantCall Object → Except (Failure Object) (List (DictMessage Object) × List (DictMessage Object))
  | .saveMessages messages => do return (← mixin.saveMessages context stored messages,[])
  | .getPending limit => do return (stored,← MultitenantOutboxMixin.getPending context stored limit)
  | .markPublished now messageIds =>
    match variant with
    | .plain => do return (← MultitenantOutboxMixin.markPublished context stored now messageIds,[])
    | .strict => do return (← StrictMultitenantOutboxMixin.markPublished mixin context stored now messageIds,[])
  | .markFailed messageId error => do return (← MultitenantOutboxMixin.markFailed context stored messageId error,[])

end CqrsDdd.Outbox
