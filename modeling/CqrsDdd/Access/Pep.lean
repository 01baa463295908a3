import CqrsDdd.Access.Evaluators
import CqrsDdd.Memo

/-! The policy enforcement point and its decision cache. The key of a decision names
the principal, the resource type, the first resource id and the action. -/
namespace CqrsDdd.Access

open Identity Specifications

variable {Object : Type}

/-- The document that `json.dumps` writes and `json.loads` reads back. -/
abbrev Document := Value Empty

namespace AuthorizationDecision

def dump (decision : AuthorizationDecision) : Document :=
  .dict [("allowed",.bool decision.allowed),("reason",.text decision.reason),("evaluator",.text decision.evaluator)]

/-- `AuthorizationDecision(**data)`, which raises on a missing or a further key. -/
def load : Document → Option AuthorizationDecision
  | .dict data =>
    match data.length,data.lookup "allowed",data.lookup "reason",data.lookup "evaluator" with
    | 3,some (.bool allowed),some (.text reason),some (.text evaluator) => some ⟨allowed,reason,evaluator⟩
    | _,_,_,_ => none
  | _ => none

@[simp] theorem load_dump (decision : AuthorizationDecision) : load decision.dump = some decision := rfl

end AuthorizationDecision

/-- The cache service, which holds what was last set under a key until it forgets it. -/
abbrev CacheService := Dict String Document

namespace PermissionDecisionCache

def key (principalId resourceType : String) (resourceId : Option String) (action : String) : String :=
  let rid := match resourceId with
    | none | some "" => "*"
    | some resourceId => resourceId
  "authz:" ++ principalId ++ ":" ++ resourceType ++ ":" ++ rid ++ ":" ++ action

def get (cache : CacheService) (principalId resourceType : String) (resourceId : Option String) (action : String) :
    Option AuthorizationDecision :=
  (Dict.get cache (key principalId resourceType resourceId action)).bind AuthorizationDecision.load

def set (cache : CacheService) (principalId resourceType : String) (resourceId : Option String) (action : String)
    (decision : AuthorizationDecision) : CacheService :=
  Dict.set cache (key principalId resourceType resourceId action) decision.dump

end PermissionDecisionCache

structure PolicyEnforcementPoint (Object : Type) where
  evaluators : List (Evaluator Object)
  bypassRoles : Finset String := ∅

namespace PolicyEnforcementPoint

def bypasses (bypassRoles : Finset String) (principal : Principal Object) : Bool :=
  decide (principal.roles ∩ bypassRoles).Nonempty

def compose (request : Request Object) : Option AuthorizationDecision → List (Evaluator Object) → AuthorizationDecision
  | candidate,[] => candidate.getD ⟨false,"No evaluator granted access","pep"⟩
  | candidate,evaluator::rest =>
    let decision := evaluator request
    if decision.reason ≠ "abstain" && !decision.allowed then decision
    else compose request (if decision.allowed && candidate.isNone then some decision else candidate) rest

/-- `context.resource_ids[0] if context.resource_ids else None`. -/
def firstId (context : AuthorizationContext Object) : Option String := context.resourceIds.bind List.head?

def evaluate (pep : PolicyEnforcementPoint Object) (cache : Option CacheService) (request : Request Object) :
    AuthorizationDecision × Option CacheService :=
  let context := request.context
  if bypasses pep.bypassRoles request.principal then (⟨true,"Bypass role","pep"⟩,cache) else
  match cache with
  | none => (compose request none pep.evaluators,none)
  | some service =>
    match PermissionDecisionCache.get service request.principal.userId context.resourceType (firstId context)
        context.action with
    | some cached => (cached,some service)
    | none =>
      let decision := compose request none pep.evaluators
      (decision,some (PermissionDecisionCache.set service request.principal.userId context.resourceType
        (firstId context) context.action decision))

abbrev Step (Object : Type) := Memo.Step (Request Object) String

def decisions (pep : PolicyEnforcementPoint Object) : CacheService → List (Step Object) → List AuthorizationDecision
  | _,[] => []
  | service,.call request::rest =>
    let (decision,after) := evaluate pep (some service) request
    decision::decisions pep (after.getD service) rest
  | service,.forget key::rest => decisions pep (service.erase key) rest

def cacheKey (request : Request Object) : String :=
  PermissionDecisionCache.key request.principal.userId request.context.resourceType (firstId request.context)
    request.context.action

/-- The enforcement point as a function whose decisions are kept. -/
def table (pep : PolicyEnforcementPoint Object) : Memo.Table (Request Object) String AuthorizationDecision Document where
  key request := if bypasses pep.bypassRoles request.principal then none else some (cacheKey request)
  compute request := (evaluate pep none request).1
  dump := AuthorizationDecision.dump
  load := AuthorizationDecision.load
  restores := AuthorizationDecision.load_dump

theorem evaluate_table (pep : PolicyEnforcementPoint Object) (service : CacheService) (request : Request Object) :
    evaluate pep (some service) request = ((table pep).answer service request,some ((table pep).after service request)) := by
  unfold evaluate
  by_cases bypass : bypasses pep.bypassRoles request.principal
  · simp [bypass,table,Memo.Table.answer,Memo.Table.after,Memo.Table.lookup,evaluate]
  · have keyed : (table pep).key request = some (cacheKey request) := if_neg bypass
    have found : (table pep).lookup service request = (PermissionDecisionCache.get service request.principal.userId
        request.context.resourceType (firstId request.context) request.context.action) := by
      rw [Memo.Table.lookup,keyed]
      rfl
    have computed : (table pep).compute request = compose request none pep.evaluators := by
      simp [table,evaluate,bypass]
    simp only [if_neg bypass,Memo.Table.answer,Memo.Table.after,keyed,← found,computed]
    split
    next cached hit => simp only [hit,Option.getD_some]
    next missed =>
      simp only [missed,Option.getD_none]
      rfl

theorem decisions_table (pep : PolicyEnforcementPoint Object) (service : CacheService) (steps : List (Step Object)) :
    decisions pep service steps = (table pep).answers service steps := by
  induction steps generalizing service with
  | nil => rfl
  | cons step rest ih =>
    cases step with
    | forget key => exact ih (service.erase key)
    | call request => simp only [decisions,evaluate_table,Option.getD_some,Memo.Table.answers,ih]

def Distinguished (bypassRoles : Finset String) (requests : List (Request Object)) : Prop :=
  requests.Pairwise fun earlier later => bypasses bypassRoles earlier.principal = false →
    bypasses bypassRoles later.principal = false → cacheKey earlier = cacheKey later → earlier = later

theorem shares_iff (pep : PolicyEnforcementPoint Object) (first second : Request Object) :
    (table pep).Shares first second ↔ bypasses pep.bypassRoles first.principal = false ∧
      bypasses pep.bypassRoles second.principal = false ∧ cacheKey first = cacheKey second := by
  have keyed : ∀ request key, (table pep).key request = some key ↔
      bypasses pep.bypassRoles request.principal = false ∧ cacheKey request = key := by
    intro request key
    by_cases bypass : bypasses pep.bypassRoles request.principal
    · simp [table,bypass]
    · simp [table,bypass]
  constructor
  · rintro ⟨key,left,right⟩
    obtain ⟨checked,rfl⟩ := (keyed first key).mp left
    obtain ⟨other,same⟩ := (keyed second _).mp right
    exact ⟨checked,other,same.symm⟩
  · rintro ⟨checked,other,same⟩
    exact ⟨cacheKey first,(keyed first _).mpr ⟨checked,rfl⟩,(keyed second _).mpr ⟨other,same.symm⟩⟩

theorem flags_iff (pep : PolicyEnforcementPoint Object) (requests : List (Request Object)) :
    (∀ steps, Memo.calls steps = requests → (decisions pep .empty steps).map AuthorizationDecision.allowed =
      requests.map fun request => (evaluate pep none request).1.allowed) ↔
    requests.Pairwise fun first second => bypasses pep.bypassRoles first.principal = false →
      bypasses pep.bypassRoles second.principal = false → cacheKey first = cacheKey second →
      (evaluate pep none first).1.allowed = (evaluate pep none second).1.allowed := by
  have agreed := (table pep).answers_iff AuthorizationDecision.allowed requests
  simp only [shares_iff,and_imp] at agreed
  simp only [decisions_table]
  exact agreed

noncomputable def only (chosen : Request Object) : Evaluator Object := fun request =>
  open Classical in if request = chosen then ⟨true,"chosen","only"⟩ else ⟨false,"abstain","only"⟩

theorem evaluate_only {bypassRoles : Finset String} {chosen request : Request Object}
    (checked : bypasses bypassRoles request.principal = false) :
    (evaluate ⟨[only chosen],bypassRoles⟩ none request).1.allowed = true ↔ request = chosen := by
  by_cases same : request = chosen
  · subst same
    simp [evaluate,checked,compose,only]
  · simp [evaluate,checked,compose,only,same]

theorem evaluate_cached_iff (bypassRoles : Finset String) (requests : List (Request Object)) :
    (∀ evaluators steps, Memo.calls steps = requests →
      (decisions ⟨evaluators,bypassRoles⟩ .empty steps).map AuthorizationDecision.allowed =
        requests.map fun request => (evaluate ⟨evaluators,bypassRoles⟩ none request).1.allowed) ↔
    Distinguished bypassRoles requests := by
  constructor
  · intro unnoticed
    refine List.pairwise_iff_forall_sublist.mpr fun {first second} included checked other same => ?_
    have agreed := (flags_iff ⟨[only first],bypassRoles⟩ requests).mp (unnoticed [only first])
    have flags := List.pairwise_iff_forall_sublist.mp agreed included checked other same
    exact ((evaluate_only other).mp (flags.symm.trans ((evaluate_only checked).mpr rfl))).symm
  · intro distinguished evaluators
    refine (flags_iff ⟨evaluators,bypassRoles⟩ requests).mpr (distinguished.imp ?_)
    intro first second alike checked other same
    rw [alike checked other same]

def ownersOnly : PolicyEnforcementPoint Empty :=
  ⟨[({ ownershipResolver := fun _ id => .single (if id = "d1" then "u1" else "u2") } : OwnershipEvaluator).evaluate],∅⟩

def readRequest (resourceIds : List String) : Request Empty where
  principal := { userId := "u1", username := "u1" }
  context := { resourceType := "document", action := "read", resourceIds := some resourceIds }

theorem evaluate_cached_foreign : ¬ ∀ (pep : PolicyEnforcementPoint Empty) (requests : List (Request Empty)),
    (decisions pep .empty (requests.map .call)).map AuthorizationDecision.allowed =
      requests.map fun request => (evaluate pep none request).1.allowed := by
  intro unnoticed
  have served := unnoticed ownersOnly [readRequest ["d1"],readRequest ["d1","d2"]]
  exact absurd served (by decide)

end PolicyEnforcementPoint
end CqrsDdd.Access
