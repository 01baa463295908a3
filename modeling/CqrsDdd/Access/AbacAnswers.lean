import CqrsDdd.Access.Evaluators

/-! Decisions of an external authorization engine. The adapter turns the answer of the engine
into a list of ids, and the connector turns the list into a decision. In both the empty
list stands for several things. -/
namespace CqrsDdd.Access

open Identity Specifications

variable {Object Id : Type}

/-- What an engine answers to a check: a boolean for the type, or the ids it grants. -/
inductive EngineAnswer (Id : Type)
  | typeLevel (answer : Bool)
  | granted (ids : List Id)

structure CheckResult (Id : Type) where
  resourceTypeName : String
  actionName : String
  answer : EngineAnswer Id

structure Check (Object : Type) where
  accessToken : Option String
  resourceTypeName : String
  actionName : String
  externalResourceIds : Option (List String)
  authContext : Fields Object

structure StatefulABACAdapter (Object Id : Type) where
  engine : Check Object → List (CheckResult Id)
  textOf : Id → String

namespace StatefulABACAdapter

variable (adapter : StatefulABACAdapter Object Id)

def answer (check : Check Object) : Option (EngineAnswer Id) :=
  ((adapter.engine check).find? fun result =>
    result.resourceTypeName = check.resourceTypeName && result.actionName = check.actionName).map (·.answer)

def checkAccess (check : Check Object) : List String :=
  match adapter.answer check with
  | some (.typeLevel answer) => if answer then check.externalResourceIds.getD [] else []
  | some (.granted ids) => ids.map adapter.textOf
  | none => []

end StatefulABACAdapter

def Request.check (request : Request Object) (resourceIds : Option (List String)) : Check Object :=
  ⟨request.accessToken,request.context.resourceType,request.context.action,resourceIds,request.context.authContext⟩

namespace ABACConnector

def decide (resourceIds : Option (List String)) (authorizedIds : List String) : AuthorizationDecision :=
  match resourceIds with
  | none =>
    if authorizedIds.isEmpty then ⟨false,"ABAC engine denied type-level access","abac"⟩
    else ⟨true,"ABAC engine granted type-level access","abac"⟩
  | some resourceIds =>
    if resourceIds ⊆ authorizedIds then ⟨true,"ABAC engine granted access","abac"⟩
    else ⟨false,"ABAC engine denied access","abac"⟩

def evaluate (adapter : StatefulABACAdapter Object Id) : Evaluator Object := fun request =>
  decide request.context.resourceIds (adapter.checkAccess (request.check request.context.resourceIds))

end ABACConnector

section Meaning

variable (textOf : Id → String)

/-- What an answer grants: all requested ids, or something when none is requested. -/
def EngineAnswer.Grants : EngineAnswer Id → Option (List String) → Prop
  | .typeLevel answer,_ => answer = true
  | .granted ids,some (first::rest) => ∀ id ∈ first::rest, id ∈ ids.map textOf
  | .granted ids,_ => ids ≠ []

/-- The answers that come through the empty list: for no ids at all any but `True`, and
for an empty list of ids those that grant. -/
def EngineAnswer.Survives : EngineAnswer Id → Option (List String) → Prop
  | _,some (_::_) => True
  | .typeLevel answer,none => answer = false
  | .granted _,none => True
  | .typeLevel answer,some [] => answer = true
  | .granted ids,some [] => ids ≠ []

variable {textOf} {adapter : StatefulABACAdapter Object Id}

def allowed (adapter : StatefulABACAdapter Object Id) (request : Request Object) (resourceIds : Option (List String)) : Prop :=
  (ABACConnector.evaluate adapter { request with context := { request.context with resourceIds := resourceIds } }).allowed =
    true

theorem decide_none (authorizedIds : List String) :
    (ABACConnector.decide none authorizedIds).allowed = true ↔ authorizedIds ≠ [] := by
  cases authorizedIds with
  | nil => exact iff_of_false Bool.false_ne_true fun differs => differs rfl
  | cons => exact iff_of_true rfl (List.cons_ne_nil _ _)

theorem decide_some (resourceIds authorizedIds : List String) :
    (ABACConnector.decide (some resourceIds) authorizedIds).allowed = true ↔ resourceIds ⊆ authorizedIds := by
  unfold ABACConnector.decide
  dsimp only
  split
  next within => exact iff_of_true rfl within
  next outside => exact iff_of_false Bool.false_ne_true outside

theorem allowed_def (request : Request Object) (resourceIds : Option (List String)) :
    allowed adapter request resourceIds ↔
      (ABACConnector.decide resourceIds (adapter.checkAccess (request.check resourceIds))).allowed = true :=
  Iff.rfl

theorem allowed_ids {request : Request Object} {first : String} {rest : List String} {answer : EngineAnswer Id}
    (answered : adapter.answer (request.check (some (first::rest))) = some answer) :
    allowed adapter request (some (first::rest)) ↔ answer.Grants adapter.textOf (some (first::rest)) := by
  rw [allowed_def,decide_some,StatefulABACAdapter.checkAccess,answered]
  cases answer with
  | granted ids => exact Iff.rfl
  | typeLevel answer =>
    cases answer with
    | true => exact iff_of_true (List.Subset.refl _) rfl
    | false => exact iff_of_false (fun within => List.not_mem_nil (within List.mem_cons_self)) Bool.false_ne_true

theorem allowed_none {request : Request Object} {answer : EngineAnswer Id}
    (answered : adapter.answer (request.check none) = some answer) :
    allowed adapter request none ↔ ∃ ids, answer = .granted ids ∧ ids ≠ [] := by
  rw [allowed_def,decide_none,StatefulABACAdapter.checkAccess,answered]
  cases answer with
  | granted ids => simp
  | typeLevel answer => cases answer <;> simp [Request.check]

theorem allowed_empty (request : Request Object) : allowed adapter request (some []) := by
  rw [allowed_def,decide_some]
  exact List.nil_subset _

theorem allowed_iff_survives {request : Request Object} {resourceIds : Option (List String)} {answer : EngineAnswer Id}
    (answered : adapter.answer (request.check resourceIds) = some answer) :
    (allowed adapter request resourceIds ↔ answer.Grants adapter.textOf resourceIds) ↔ answer.Survives resourceIds := by
  match resourceIds with
  | some (first::rest) =>
    refine iff_of_true (allowed_ids answered) ?_
    cases answer <;> trivial
  | none =>
    rw [allowed_none answered]
    cases answer with
    | granted ids => simp [EngineAnswer.Grants,EngineAnswer.Survives]
    | typeLevel answer => cases answer <;> simp [EngineAnswer.Grants,EngineAnswer.Survives]
  | some [] =>
    rw [iff_true_left (allowed_empty request)]
    cases answer <;> exact Iff.rfl

/-- The engine answers with one boolean for every list of ids, or grants each id whatever it is asked with. -/
def Consistent (adapter : StatefulABACAdapter Object Id) (request : Request Object) : Prop :=
  (∃ answer, ∀ ids, adapter.answer (request.check (some ids)) = some (.typeLevel answer)) ∨
  ∃ grants : String → Prop, ∀ ids, ∃ granted, adapter.answer (request.check (some ids)) = some (.granted granted) ∧
    ∀ id ∈ ids, id ∈ granted.map adapter.textOf ↔ grants id

theorem allowed_each {request : Request Object} (consistent : Consistent adapter request) {ids : List String}
    (given : ids ≠ []) : allowed adapter request (some ids) ↔ ∀ id ∈ ids, allowed adapter request (some [id]) := by
  obtain ⟨first,rest,rfl⟩ := List.exists_cons_of_ne_nil given
  rcases consistent with ⟨answer,answers⟩ | ⟨grants,answers⟩
  · have each (id : String) : allowed adapter request (some [id]) ↔ answer = true := allowed_ids (answers [id])
    simp only [each]
    rw [allowed_ids (answers _),EngineAnswer.Grants]
    exact ⟨fun granted _ _ => granted,fun granted => granted first List.mem_cons_self⟩
  · have whole (ids : List String) (given : ids ≠ []) : allowed adapter request (some ids) ↔ ∀ id ∈ ids, grants id := by
      obtain ⟨first,rest,rfl⟩ := List.exists_cons_of_ne_nil given
      obtain ⟨granted,answered,members⟩ := answers (first::rest)
      rw [allowed_ids answered,EngineAnswer.Grants]
      exact forall_congr' fun id => imp_congr_right fun member => members id member
    rw [whole _ given]
    refine forall_congr' fun id => imp_congr_right fun _ => ?_
    rw [whole [id] (List.cons_ne_nil _ _),List.forall_mem_singleton]

structure KeepsMeaning (adapter : StatefulABACAdapter Object Id) (request : Request Object)
    (resourceIds : Option (List String)) (answer : EngineAnswer Id) : Prop where
  meaning : (allowed adapter request resourceIds ↔ answer.Grants adapter.textOf resourceIds) ↔ answer.Survives resourceIds
  each : Consistent adapter request → ∀ ids, resourceIds = some ids → ids ≠ [] →
    (allowed adapter request resourceIds ↔ ∀ id ∈ ids, allowed adapter request (some [id]))
  refused : answer = .typeLevel false → (¬allowed adapter request resourceIds ↔ resourceIds ≠ some [])

theorem answer_keeps_meaning {request : Request Object} {resourceIds : Option (List String)} {answer : EngineAnswer Id}
    (answered : adapter.answer (request.check resourceIds) = some answer) :
    KeepsMeaning adapter request resourceIds answer where
  meaning := allowed_iff_survives answered
  each consistent ids same given := by
    subst same
    exact allowed_each consistent given
  refused no := by
    subst no
    match resourceIds with
    | some [] => exact iff_of_false (fun refused => refused (allowed_empty request)) fun differs => differs rfl
    | none =>
      rw [allowed_none answered]
      simp
    | some (first::rest) =>
      rw [allowed_ids answered]
      simp [EngineAnswer.Grants]

def always (answer : Bool) : StatefulABACAdapter Empty String where
  engine check := [⟨check.resourceTypeName,check.actionName,.typeLevel answer⟩]
  textOf := id

def readOrder : Request Empty where
  principal := ⟨"ann","ann",∅,∅,[],none,false,.jwt,none,none⟩
  context := ⟨"order","read",none,[],[]⟩

theorem always_answers (answer : Bool) (resourceIds : Option (List String)) :
    (always answer).answer (readOrder.check resourceIds) = some (.typeLevel answer) := by
  cases answer <;> rfl

def ordersGranted : StatefulABACAdapter Empty String where
  engine check := [⟨"invoice",check.actionName,.typeLevel true⟩,⟨"order",check.actionName,.granted ["o-1","o-3"]⟩]
  textOf := id

theorem answer_keeps_meaning_order :
    KeepsMeaning ordersGranted readOrder (some ["o-1","o-2","o-3"]) (.granted ["o-1","o-3"]) ∧
    KeepsMeaning ordersGranted readOrder (some ["o-3","o-1"]) (.granted ["o-1","o-3"]) ∧
    ¬allowed ordersGranted readOrder (some ["o-1","o-2","o-3"]) ∧ allowed ordersGranted readOrder (some ["o-3","o-1"]) :=
  ⟨answer_keeps_meaning rfl,answer_keeps_meaning rfl,fun granted => (by cases granted),rfl⟩

/-- The boolean `True` becomes an empty list on a request without ids, and a deny. -/
theorem type_level_grant_denied : (always true).answer (readOrder.check none) = some (.typeLevel true) ∧
    ¬allowed (always true) readOrder none := by
  refine ⟨always_answers true none,fun granted => ?_⟩
  cases granted

end Meaning

end CqrsDdd.Access
