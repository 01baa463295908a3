import CqrsDdd.Access.StepUp
import Mathlib.Data.List.Forall2

/-! The handler of ACL grant requests. It goes through the rules of a request, creates
an ACL for each at the admin port and records the completion, until something
raises. The tenant condition is merged into the conditions of a rule; a rule with
a specification is created from the specification alone. -/
namespace CqrsDdd.Access.AclGrants

open Specifications StepUp

variable {Object : Type}

inductive Raised
  | aclError (message : String) (details : List (String × String))
  | exception (text : String)
  | baseException
  deriving DecidableEq, Repr

structure ACLGrantRequested (Object : Type) where
  resourceType : String
  resourceId : Option String := none
  accessRules : List (AccessRule Object) := []
  eventId : String
  aggregateId : Option String := none
  aggregateType : Option String := none
  correlationId : Option String := none

structure Target where
  resourceType : String
  action : String
  principalName : Option String
  roleName : Option String
  resourceExternalId : Option String
  deriving DecidableEq, Repr

inductive AdminCall (Object : Type)
  | createAclFromSpecification (target : Target) (specificationDsl : Fields Object)
  | createAcl (target : Target) (conditions : Option (Fields Object))

structure ACLGranted (Object : Type) where
  target : Target
  aclId : Value Object
  conditions : Option (Fields Object)
  specificationDsl : Option (Fields Object)
  previousState : Value Object
  aggregateId : Option String
  aggregateType : Option String
  correlationId : Option String
  causationId : Option String

/-- The answers of the admin port and of the event store may depend on what they were asked before. `validate`
is what the event model makes of the id and the previous state that the port returned. -/
structure ACLGrantRequestedHandler (Object : Type) where
  adminPort : List (AdminCall Object) → AdminCall Object → Except Raised (Fields Object)
  eventStore : Option (List (ACLGranted Object) → ACLGranted Object → Except Raised Unit) := none
  validate : Value Object × Value Object → Except Raised (Value Object × Value Object)
  enforceTenantIsolation : Bool := false

def tenantIsolationCondition : Fields Object :=
  [("op",.text "="),("source",.text "resource"),("attr",.text "tenant_id"),("val",.text "$context.tenant_id")]

def both (first second : Fields Object) : Fields Object :=
  [("op",.text "and"),("conditions",.list [.dict first,.dict second])]

/-- An empty dict is as good as none. -/
def given (fields : Option (Fields Object)) : Option (Fields Object) := fields.filter (!·.isEmpty)

/-- The ACLs that were asked for, and the completion events that were made and recorded where there is a store. -/
structure Trace (Object : Type) where
  calls : List (AdminCall Object) := []
  completions : List (ACLGranted Object) := []

namespace ACLGrantRequestedHandler

def mergeTenantCondition (handler : ACLGrantRequestedHandler Object) (rawConditions : Option (Fields Object)) :
    Option (Fields Object) :=
  if handler.enforceTenantIsolation then
    match given rawConditions with
    | none => some tenantIsolationCondition
    | some conditions => some (both conditions tenantIsolationCondition)
  else given rawConditions

/-- An empty id of the rule leaves that of the event. -/
def targetOf (event : ACLGrantRequested Object) (rule : AccessRule Object) : Target where
  resourceType := event.resourceType
  action := rule.action
  principalName := rule.principalName
  roleName := rule.roleName
  resourceExternalId := (rule.resourceId.filter (· ≠ "")).or event.resourceId

/-- The call that `_call_admin_port` makes. -/
def adminCall (event : ACLGrantRequested Object) (rule : AccessRule Object) (conditions : Option (Fields Object)) :
    AdminCall Object :=
  match given rule.specificationDsl with
  | some specificationDsl => .createAclFromSpecification (targetOf event rule) specificationDsl
  | none => .createAcl (targetOf event rule) conditions

def buildGrantedEvent (handler : ACLGrantRequestedHandler Object) (event : ACLGrantRequested Object)
    (rule : AccessRule Object) (result : Fields Object) (conditions : Option (Fields Object)) :
    Except Raised (ACLGranted Object) := do
  let (aclId,previousState) ← handler.validate
    ((result.lookup "id").getD .null,(result.lookup "previous_state").getD .null)
  return {
    target := targetOf event rule
    aclId := aclId
    conditions := conditions
    specificationDsl := rule.specificationDsl
    previousState := previousState
    aggregateId := event.aggregateId
    aggregateType := event.aggregateType
    correlationId := event.correlationId
    causationId := some event.eventId }

def record (handler : ACLGrantRequestedHandler Object) (completions : List (ACLGranted Object))
    (completion : ACLGranted Object) : Except Raised Unit :=
  match handler.eventStore with
  | none => .ok ()
  | some append => append completions completion

def complete (handler : ACLGrantRequestedHandler Object) (event : ACLGrantRequested Object) (rule : AccessRule Object)
    (trace : Trace Object) : Except Raised (ACLGranted Object) := do
  let conditions := handler.mergeTenantCondition rule.conditions
  let result ← handler.adminPort trace.calls (adminCall event rule conditions)
  let completion ← handler.buildGrantedEvent event rule result conditions
  handler.record trace.completions completion
  return completion

def reraise (event : ACLGrantRequested Object) (rule : AccessRule Object) : Raised → Raised
  | .exception text => .aclError
      ("ACL grant failed for " ++ event.resourceType ++ ":" ++ rule.action ++ ": " ++ text)
      [("resource_type",event.resourceType),("action",rule.action),("error",text)]
  | .aclError message details => .aclError message details
  | .baseException => .baseException

def grantAll (handler : ACLGrantRequestedHandler Object) (event : ACLGrantRequested Object) :
    List (AccessRule Object) → Trace Object → Trace Object × Option Raised
  | [], trace => (trace,none)
  | rule::rest, trace =>
    let calls := trace.calls ++ [adminCall event rule (handler.mergeTenantCondition rule.conditions)]
    match handler.complete event rule trace with
    | .error raised => (⟨calls,trace.completions⟩,some (reraise event rule raised))
    | .ok completion => handler.grantAll event rest ⟨calls,trace.completions ++ [completion]⟩

/-- `__call__`. -/
def call (handler : ACLGrantRequestedHandler Object) (event : ACLGrantRequested Object) : Trace Object × Option Raised :=
  handler.grantAll event event.accessRules {}

end ACLGrantRequestedHandler

def AdminCall.target : AdminCall Object → Target
  | .createAclFromSpecification target _ | .createAcl target _ => target

/-- The conditions of the ACL. Without a field mapping, which the handler does not pass, the adapter of the port
takes a specification as the conditions. -/
def AdminCall.conditions : AdminCall Object → Option (Fields Object)
  | .createAclFromSpecification _ specificationDsl => some specificationDsl
  | .createAcl _ conditions => conditions

structure Engine (Object : Type) where
  holds : Fields Object → Prop
  holds_both : ∀ first second, holds (both first second) ↔ holds first ∧ holds second

/-- However the engine reads its conditions, an ACL with these ones applies only where the wanted condition holds. -/
def Implies (conditions : Option (Fields Object)) (wanted : Fields Object) : Prop :=
  ∀ engine : Engine Object, (∀ own, conditions = some own → engine.holds own) → engine.holds wanted

structure Scoped (event : ACLGrantRequested Object) (rule : AccessRule Object) (call : AdminCall Object) : Prop where
  target : call.target = ACLGrantRequestedHandler.targetOf event rule
  tenant : Implies call.conditions tenantIsolationCondition
  conditions : ∀ own, given rule.conditions = some own → Implies call.conditions own
  specification : ∀ own, given rule.specificationDsl = some own → Implies call.conditions own

/-- What is granted for a request: one ACL in the tenant and one completion event with its conditions for each
rule, in their order, up to the first failure. -/
structure Grants (handler : ACLGrantRequestedHandler Object) (event : ACLGrantRequested Object) : Prop where
  acls : List.Forall₂ (Scoped event) (event.accessRules.take (handler.call event).1.calls.length)
    (handler.call event).1.calls
  completed : List.Forall₂
    (fun call completion => completion.target = call.target ∧ completion.conditions = call.conditions)
    ((handler.call event).1.calls.take (handler.call event).1.completions.length) (handler.call event).1.completions
  whole : (handler.call event).2 = none → (handler.call event).1.calls.length = event.accessRules.length ∧
    (handler.call event).1.completions.length = event.accessRules.length
  failed : ∀ raised, (handler.call event).2 = some raised →
    (handler.call event).1.completions.length < event.accessRules.length ∧
    (handler.call event).1.calls.length = (handler.call event).1.completions.length + 1

namespace ACLGrantRequestedHandler

variable {handler : ACLGrantRequestedHandler Object} {event : ACLGrantRequested Object}

def ruleCall (handler : ACLGrantRequestedHandler Object) (event : ACLGrantRequested Object) (rule : AccessRule Object) :
    AdminCall Object :=
  adminCall event rule (handler.mergeTenantCondition rule.conditions)

def Completes (handler : ACLGrantRequestedHandler Object) (event : ACLGrantRequested Object) (rule : AccessRule Object)
    (completion : ACLGranted Object) : Prop :=
  completion.target = targetOf event rule ∧ completion.conditions = handler.mergeTenantCondition rule.conditions

theorem complete_ok {rule : AccessRule Object} {trace : Trace Object} {completion : ACLGranted Object}
    (completed : handler.complete event rule trace = .ok completion) : handler.Completes event rule completion := by
  unfold complete at completed
  obtain ⟨result,_,completed⟩ := Attempts.bind_ok.mp completed
  obtain ⟨made,built,completed⟩ := Attempts.bind_ok.mp completed
  obtain ⟨_,_,same⟩ := Attempts.bind_ok.mp completed
  obtain rfl := Attempts.pure_ok.mp same
  unfold buildGrantedEvent at built
  obtain ⟨_,_,built⟩ := Attempts.bind_ok.mp built
  obtain rfl := Attempts.pure_ok.mp built
  exact ⟨rfl,rfl⟩

theorem grantAll_cases (handler : ACLGrantRequestedHandler Object) (event : ACLGrantRequested Object)
    (rules : List (AccessRule Object)) (trace : Trace Object) :
    ∃ completions : List (ACLGranted Object), (handler.grantAll event rules trace).1.completions =
        trace.completions ++ completions ∧
      (((handler.grantAll event rules trace).2 = none ∧
          (handler.grantAll event rules trace).1.calls = trace.calls ++ rules.map (handler.ruleCall event) ∧
          List.Forall₂ (handler.Completes event) rules completions) ∨
        ∃ served rule rest raised, rules = served ++ rule::rest ∧
          (handler.grantAll event rules trace).2 = some raised ∧
          (handler.grantAll event rules trace).1.calls =
            trace.calls ++ (served ++ [rule]).map (handler.ruleCall event) ∧
          List.Forall₂ (handler.Completes event) served completions) := by
  induction rules generalizing trace with
  | nil => exact ⟨[],(List.append_nil _).symm,.inl ⟨rfl,(List.append_nil _).symm,.nil⟩⟩
  | cons rule rest ih =>
    rw [grantAll]
    cases completed : handler.complete event rule trace with
    | error raised =>
      exact ⟨[],(List.append_nil _).symm,.inr ⟨[],rule,rest,_,rfl,rfl,rfl,.nil⟩⟩
    | ok completion =>
      have serves := complete_ok completed
      obtain ⟨later,recorded,done | ⟨served,other,left,raised,rfl,ended,calls,others⟩⟩ :=
        ih ⟨trace.calls ++ [handler.ruleCall event rule],trace.completions ++ [completion]⟩
      · refine ⟨completion::later,?_,.inl ⟨done.1,?_,.cons serves done.2.2⟩⟩
        · exact recorded.trans (List.append_assoc _ _ _)
        · exact done.2.1.trans (List.append_assoc _ _ _)
      · refine ⟨completion::later,?_,.inr ⟨rule::served,other,left,raised,rfl,ended,?_,.cons serves others⟩⟩
        · exact recorded.trans (List.append_assoc _ _ _)
        · exact calls.trans (List.append_assoc _ _ _)

theorem grantAll_succeeds (port : ∀ calls call, ∃ result, handler.adminPort calls call = .ok result)
    (valid : ∀ fields, ∃ read, handler.validate fields = .ok read)
    (store : ∀ completions completion, handler.record completions completion = .ok ())
    (rules : List (AccessRule Object)) (trace : Trace Object) : (handler.grantAll event rules trace).2 = none := by
  induction rules generalizing trace with
  | nil => exact rfl
  | cons rule rest ih =>
    obtain ⟨result,answered⟩ := port trace.calls (adminCall event rule (handler.mergeTenantCondition rule.conditions))
    obtain ⟨read,accepted⟩ := valid ((result.lookup "id").getD .null,(result.lookup "previous_state").getD .null)
    have completed : ∃ completion, handler.complete event rule trace = .ok completion :=
      ⟨_,Attempts.bind_ok.mpr ⟨result,answered,Attempts.bind_ok.mpr
        ⟨_,Attempts.bind_ok.mpr ⟨read,accepted,rfl⟩,Attempts.bind_ok.mpr ⟨(),store _ _,rfl⟩⟩⟩⟩
    obtain ⟨completion,completed⟩ := completed
    rw [grantAll,completed]
    exact ih _

end ACLGrantRequestedHandler

open ACLGrantRequestedHandler

theorem Implies.refl (conditions : Fields Object) : Implies (some conditions) conditions :=
  fun _ holds => holds conditions rfl

variable {handler : ACLGrantRequestedHandler Object} {event : ACLGrantRequested Object}

theorem implies_merged (isolated : handler.enforceTenantIsolation = true) (raw : Option (Fields Object)) :
    Implies (handler.mergeTenantCondition raw) tenantIsolationCondition ∧
      ∀ own, given raw = some own → Implies (handler.mergeTenantCondition raw) own := by
  unfold mergeTenantCondition
  rw [if_pos isolated]
  cases conditions : given raw with
  | none => exact ⟨.refl _,fun own absent => by cases absent⟩
  | some own =>
    refine ⟨fun engine holds => ((engine.holds_both _ _).mp (holds _ rfl)).2,fun other same => ?_⟩
    obtain rfl := Option.some.inj same
    exact fun engine holds => ((engine.holds_both _ _).mp (holds _ rfl)).1

def Merged (rule : AccessRule Object) (merged : Option (Fields Object)) : Prop :=
  ∀ specificationDsl, given rule.specificationDsl = some specificationDsl → merged = some specificationDsl

theorem ruleCall_conditions {rule : AccessRule Object}
    (merged : Merged rule (handler.mergeTenantCondition rule.conditions)) :
    (handler.ruleCall event rule).conditions = handler.mergeTenantCondition rule.conditions := by
  unfold ruleCall adminCall
  cases specified : given rule.specificationDsl with
  | none => exact rfl
  | some specificationDsl => exact (merged specificationDsl specified).symm

theorem ruleCall_target (rule : AccessRule Object) : (handler.ruleCall event rule).target = targetOf event rule := by
  unfold ruleCall adminCall
  cases given rule.specificationDsl with
  | none => exact rfl
  | some specificationDsl => exact rfl

theorem ruleCall_scoped (isolated : handler.enforceTenantIsolation = true) {rule : AccessRule Object}
    (merged : Merged rule (handler.mergeTenantCondition rule.conditions)) :
    Scoped event rule (handler.ruleCall event rule) := by
  obtain ⟨tenant,own⟩ := implies_merged isolated rule.conditions
  have same : (handler.ruleCall event rule).conditions = _ := ruleCall_conditions merged
  rw [← same] at tenant own
  refine ⟨ruleCall_target rule,tenant,own,fun specificationDsl specified => ?_⟩
  rw [ruleCall_conditions merged,merged specificationDsl specified]
  exact .refl specificationDsl

section Merged

variable {rules : List (AccessRule Object)}
  (merged : ∀ rule ∈ rules, Merged rule (handler.mergeTenantCondition rule.conditions))
include merged

theorem calls_scoped (isolated : handler.enforceTenantIsolation = true) :
    List.Forall₂ (Scoped event) rules (rules.map (handler.ruleCall event)) := by
  apply List.forall₂_map_right_iff.mpr
  exact List.forall₂_same.mpr fun rule member => ruleCall_scoped isolated (merged rule member)

theorem completions_match {completions : List (ACLGranted Object)}
    (completes : List.Forall₂ (handler.Completes event) rules completions) :
    List.Forall₂ (fun call completion => completion.target = call.target ∧ completion.conditions = call.conditions)
      (rules.map (handler.ruleCall event)) completions := by
  apply List.forall₂_map_left_iff.mpr
  refine ((List.forall₂_and_left _ _).mpr ⟨merged,completes⟩).imp fun rule completion ⟨own,target,conditions⟩ => ?_
  exact ⟨target.trans (ruleCall_target rule).symm,conditions.trans (ruleCall_conditions own).symm⟩

end Merged

theorem grants_of_merged (isolated : handler.enforceTenantIsolation = true)
    (merged : ∀ rule ∈ event.accessRules, Merged rule (handler.mergeTenantCondition rule.conditions)) :
    Grants handler event := by
  obtain ⟨completions,recorded,⟨ended,calls,completes⟩ | ⟨served,rule,rest,raised,rules,ended,calls,completes⟩⟩ :=
    handler.grantAll_cases event event.accessRules {}
  all_goals
    change (handler.call event).2 = _ at ended
    change (handler.call event).1.calls = [] ++ _ at calls
    change (handler.call event).1.completions = [] ++ _ at recorded
    rw [List.nil_append] at calls recorded
    have sizes := completes.length_eq
  · constructor
    · rw [calls,List.length_map,List.take_length]
      exact calls_scoped merged isolated
    · rw [calls,recorded,List.take_of_length_le (by rw [List.length_map,sizes])]
      exact completions_match merged completes
    · intro _
      rw [calls,recorded,List.length_map]
      exact ⟨rfl,sizes.symm⟩
    · intro raised failed
      rw [ended] at failed
      cases failed
  · rw [rules] at merged
    have tried : ∀ other ∈ served ++ [rule], Merged other (handler.mergeTenantCondition other.conditions) := by
      intro other member
      refine merged other ?_
      rw [List.append_cons]
      exact List.mem_append_left rest member
    constructor
    · rw [calls,rules,List.length_map,List.append_cons served rule rest,List.take_left]
      exact calls_scoped tried isolated
    · have size : (served.map (handler.ruleCall event)).length = completions.length := by rw [List.length_map,sizes]
      rw [calls,recorded,List.map_append,← size,List.take_left]
      exact completions_match (fun other member => tried other (List.mem_append_left _ member)) completes
    · intro whole
      rw [ended] at whole
      cases whole
    · intro _ _
      rw [calls,recorded,rules,← sizes,List.length_map,List.length_append,List.length_append,List.length_cons]
      exact ⟨Nat.lt_add_of_pos_right (Nat.succ_pos _),rfl⟩

def granting : ACLGrantRequestedHandler Object where
  adminPort _ _ := .ok []
  eventStore := some fun _ _ => .ok ()
  validate fields := .ok fields
  enforceTenantIsolation := true

theorem grants_iff (event : ACLGrantRequested Object) :
    (∀ handler : ACLGrantRequestedHandler Object, handler.enforceTenantIsolation = true → Grants handler event) ↔
      ∀ rule ∈ event.accessRules, ∀ specificationDsl, given rule.specificationDsl = some specificationDsl →
        specificationDsl = (given rule.conditions).elim tenantIsolationCondition fun conditions =>
          both conditions tenantIsolationCondition := by
  have merge : ∀ handler : ACLGrantRequestedHandler Object, handler.enforceTenantIsolation = true → ∀ raw,
      handler.mergeTenantCondition raw = some ((given raw).elim tenantIsolationCondition fun conditions =>
        both conditions tenantIsolationCondition) := by
    intro handler isolated raw
    unfold mergeTenantCondition
    rw [if_pos isolated]
    cases given raw with
    | none => exact rfl
    | some conditions => exact rfl
  constructor
  · intro grants rule member specificationDsl specified
    have granted := (grants granting rfl).completed
    have passed : (granting.call event).2 = none :=
      grantAll_succeeds (fun _ _ => ⟨_,rfl⟩) (fun _ => ⟨_,rfl⟩) (fun _ _ => rfl) event.accessRules {}
    obtain ⟨completions,recorded,⟨_,calls,completes⟩ | ⟨_,_,_,raised,_,ended,_⟩⟩ :=
      granting.grantAll_cases event event.accessRules {}
    · change (granting.call event).1.calls = [] ++ _ at calls
      change (granting.call event).1.completions = [] ++ _ at recorded
      rw [List.nil_append] at calls recorded
      rw [calls,recorded,List.take_of_length_le (by rw [List.length_map,completes.length_eq])] at granted
      obtain ⟨i,there⟩ := List.mem_iff_getElem?.mp member
      obtain ⟨completion,found,own⟩ := Attempts.related_left completes there
      obtain ⟨other,again,carried⟩ := Attempts.related_left (List.forall₂_map_left_iff.mp granted) there
      obtain rfl := Option.some.inj (found.symm.trans again)
      have same := carried.2.symm.trans own.2
      unfold ruleCall adminCall at same
      rw [specified,merge granting rfl] at same
      exact Option.some.inj same
    · change (granting.call event).2 = _ at ended
      rw [passed] at ended
      cases ended
  · intro condition handler isolated
    refine grants_of_merged isolated fun rule member specificationDsl specified => ?_
    rw [merge handler isolated,condition rule member specificationDsl specified]

def ofTeam : Fields Unit := [("op",.text "="),("source",.text "resource"),("attr",.text "team"),("val",.number 7)]

inductive HoldsOfTeam : Fields Unit → Prop
  | leaf : HoldsOfTeam ofTeam
  | both (first second : Fields Unit) (left : HoldsOfTeam first) (right : HoldsOfTeam second) :
      HoldsOfTeam (both first second)

theorem holdsOfTeam_cases {conditions : Fields Unit} (holds : HoldsOfTeam conditions) :
    conditions = ofTeam ∨ ∃ first second, conditions = both first second ∧ HoldsOfTeam first ∧ HoldsOfTeam second := by
  cases holds with
  | leaf => exact .inl rfl
  | both first second left right => exact .inr ⟨first,second,rfl,left,right⟩

def teamEngine : Engine Unit where
  holds := HoldsOfTeam
  holds_both first second := by
    constructor
    · intro holds
      rcases holdsOfTeam_cases holds with leaf | ⟨one,other,same,left,right⟩
      · simp [both,ofTeam] at leaf
      · simp only [both,List.cons.injEq,Prod.mk.injEq,Value.list.injEq,Value.dict.injEq,true_and,and_true] at same
        obtain ⟨rfl,rfl⟩ := same
        exact ⟨left,right⟩
    · exact fun holds => .both first second holds.1 holds.2

/-- The ACL of a rule with a specification applies outside the tenant. -/
theorem unscoped_specification : ¬ Grants (granting : ACLGrantRequestedHandler Unit)
    {resourceType := "document",eventId := "e",accessRules := [
      {roleName := some "team",action := "read",specificationDsl := some ofTeam}]} := by
  intro grants
  obtain ⟨acl,_⟩ := List.forall₂_cons.mp grants.acls
  have holds : HoldsOfTeam tenantIsolationCondition := acl.tenant teamEngine fun own same => by
    obtain rfl := Option.some.inj same
    exact .leaf
  rcases holdsOfTeam_cases holds with leaf | ⟨one,other,same,_⟩
  · simp [tenantIsolationCondition,ofTeam] at leaf
  · simp [tenantIsolationCondition,both] at same

end CqrsDdd.Access.AclGrants
