import CqrsDdd.Identity.Principal

/-! Evaluators of the access package. An evaluator is a function of the request:
the principal, the context, and what the context variables hold meanwhile. -/
namespace CqrsDdd.Access

open Identity Specifications

structure AuthorizationContext (Object : Type) where
  resourceType : String
  action : String
  resourceIds : Option (List String) := none
  resourceAttributes : Fields Object := []
  authContext : Fields Object := []

structure AuthorizationDecision where
  allowed : Bool
  reason : String
  evaluator : String
  deriving DecidableEq, Repr

structure Request (Object : Type) where
  principal : Principal Object
  context : AuthorizationContext Object
  accessToken : Option String := none
  tenant : Option String := none

abbrev Evaluator (Object : Type) := Request Object → AuthorizationDecision

/-- What `get_owner` returns: `None`, an id or a list of ids. -/
inductive Owner
  | unknown
  | single (user : String)
  | several (users : List String)
  deriving DecidableEq, Repr

abbrev OwnershipResolver := String → String → Owner

/-- `owner if isinstance(owner, list) else [owner]`, of an owner that is known. -/
def Owner.owners : Owner → Option (List String)
  | .unknown => none
  | .single user => some [user]
  | .several users => some users

structure OwnershipEvaluator where
  ownershipResolver : OwnershipResolver
  ownerActions : Option (Finset String) := none

namespace OwnershipEvaluator
variable {Object : Type}

def abstain : AuthorizationDecision := ⟨false,"abstain","ownership"⟩

def ownsAll (evaluator : OwnershipEvaluator) (userId resourceType : String) (resourceIds : List String) : Bool :=
  resourceIds.all fun resourceId =>
    match (evaluator.ownershipResolver resourceType resourceId).owners with
    | none => false
    | some owners => owners.contains userId

def evaluate (evaluator : OwnershipEvaluator) : Evaluator Object := fun request =>
  match request.context.resourceIds with
  | none | some [] => abstain
  | some resourceIds =>
    if !evaluator.ownsAll request.principal.userId request.context.resourceType resourceIds then abstain
    else if evaluator.ownerActions.any fun actions => request.context.action ∉ actions then abstain
    else ⟨true,"Owner access granted","ownership"⟩

end OwnershipEvaluator
end CqrsDdd.Access
