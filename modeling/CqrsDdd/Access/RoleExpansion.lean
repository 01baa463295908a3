import CqrsDdd.Access.Evaluators
import CqrsDdd.Worklist
import CqrsDdd.Dict
import Mathlib.Data.Finset.Union

/-! The RBAC evaluator. A role has the permissions of all roles below it in the hierarchy, and
these are found with a worklist. -/
namespace CqrsDdd.Access

open Identity

structure Iteration where
  list : Finset String → List String
  elements : ∀ set element, element ∈ list set ↔ element ∈ set

instance : Nonempty Iteration := ⟨⟨Finset.toList,fun _ _ => Finset.mem_toList⟩⟩

structure RBACEvaluator where
  rolePermissions : Dict String (Finset String)
  roleHierarchy : Dict String (Finset String)

namespace RBACEvaluator

variable {Object : Type} (iteration : Iteration) (evaluator : RBACEvaluator)

def children (role : String) : List String := iteration.list ((evaluator.roleHierarchy.get role).getD ∅)

/-- `none` when the loop takes more rounds than the fuel. -/
def expandRoles (fuel : Nat) (roles : Finset String) : Option (Finset String) :=
  Worklist.run (evaluator.children iteration) fuel (roles,(iteration.list roles).reverse)

def permissions (roles : Finset String) : Finset String :=
  roles.biUnion fun role => (evaluator.rolePermissions.get role).getD ∅

def permissionKey (context : AuthorizationContext Object) : String := context.resourceType ++ ":" ++ context.action

def evaluate (fuel : Nat) (request : Request Object) : Option AuthorizationDecision :=
  (evaluator.expandRoles iteration fuel request.principal.roles).map fun expandedRoles =>
    let permissionKey := permissionKey request.context
    if permissionKey ∈ evaluator.permissions expandedRoles then ⟨true,"Role permission match: " ++ permissionKey,"rbac"⟩
    else ⟨false,"abstain","rbac"⟩

variable {evaluator iteration} {roles : Finset String} {fuel : Nat}

def Inherits (evaluator : RBACEvaluator) (role child : String) : Prop :=
  ∃ children, evaluator.roleHierarchy.get role = some children ∧ child ∈ children

def Reachable (evaluator : RBACEvaluator) (roles : Finset String) (role : String) : Prop :=
  ∃ given ∈ roles, Relation.ReflTransGen evaluator.Inherits given role

theorem mem_children {role child : String} : child ∈ evaluator.children iteration role ↔ evaluator.Inherits role child := by
  rw [children,iteration.elements,Inherits]
  cases evaluator.roleHierarchy.get role with
  | none => simp
  | some children => simp

theorem reaches_iff : Worklist.Reaches (evaluator.children iteration) = Relation.ReflTransGen evaluator.Inherits := by
  refine congrArg Relation.ReflTransGen (funext fun role => funext fun child => propext ?_)
  exact mem_children

theorem expandRoles_start : expandRoles iteration evaluator fuel roles =
    Worklist.run (evaluator.children iteration) fuel
      ((iteration.list roles).reverse.toFinset,(iteration.list roles).reverse) := by
  have same : (iteration.list roles).reverse.toFinset = roles := by
    ext role
    rw [List.mem_toFinset,List.mem_reverse,iteration.elements]
  rw [same,expandRoles]

theorem expandRoles_iff {expanded : Finset String} (ran : expandRoles iteration evaluator fuel roles = some expanded)
    (role : String) : role ∈ expanded ↔ evaluator.Reachable roles role := by
  rw [expandRoles_start] at ran
  rw [Worklist.run_iff ran,reaches_iff,Reachable]
  simp only [List.mem_reverse,iteration.elements]

def known (evaluator : RBACEvaluator) (roles : Finset String) : Finset String :=
  roles ∪ (evaluator.roleHierarchy.values.foldr (· ∪ ·) ∅)

theorem mem_foldr_union {sets : List (Finset String)} {set : Finset String} (member : set ∈ sets) {element : String}
    (inside : element ∈ set) : element ∈ sets.foldr (· ∪ ·) ∅ := by
  induction sets with
  | nil => cases member
  | cons first rest ih =>
    rw [List.foldr_cons,Finset.mem_union]
    rcases List.mem_cons.mp member with rfl | later
    · exact .inl inside
    · exact .inr (ih later)

theorem expandRoles_total (evaluator : RBACEvaluator) (iteration : Iteration) (roles : Finset String) :
    ∃ bound, ∀ fuel ≥ bound, ∃ expanded, expandRoles iteration evaluator fuel roles = some expanded := by
  refine ⟨Worklist.rounds (evaluator.known roles) (roles,(iteration.list roles).reverse),fun fuel enough => ?_⟩
  refine Worklist.run_total (fun role _ child edge => ?_) (fun role waits => ?_) (fun role given => ?_) enough
  · obtain ⟨children,found,member⟩ := mem_children.mp edge
    have stored : children ∈ evaluator.roleHierarchy.values := List.mem_map_of_mem (Dict.mem_of_lookup found)
    exact Finset.mem_union_right _ (mem_foldr_union stored member)
  · rwa [List.mem_reverse,iteration.elements] at waits
  · exact Finset.mem_union_left _ given

theorem mem_permissions {permission : String} :
    permission ∈ evaluator.permissions roles ↔
      ∃ role ∈ roles, ∃ held, evaluator.rolePermissions.get role = some held ∧ permission ∈ held := by
  rw [permissions,Finset.mem_biUnion]
  refine exists_congr fun role => and_congr_right fun _ => ?_
  cases evaluator.rolePermissions.get role with
  | none => simp
  | some held => simp

def Holds (evaluator : RBACEvaluator) (roles : Finset String) (permission : String) : Prop :=
  ∃ role, evaluator.Reachable roles role ∧ ∃ held, evaluator.rolePermissions.get role = some held ∧ permission ∈ held

theorem evaluate_iff {request : Request Object} {decision : AuthorizationDecision}
    (ran : evaluate iteration evaluator fuel request = some decision) :
    decision.allowed = true ↔ evaluator.Holds request.principal.roles (permissionKey request.context) := by
  obtain ⟨expanded,expands,rfl⟩ := Option.map_eq_some_iff.mp ran
  have holds : permissionKey request.context ∈ evaluator.permissions expanded ↔
      evaluator.Holds request.principal.roles (permissionKey request.context) := by
    rw [mem_permissions,Holds]
    exact exists_congr fun role => and_congr_left fun _ => expandRoles_iff expands role
  rw [← holds]
  dsimp only
  split
  next held => exact iff_of_true rfl held
  next missing => exact iff_of_false Bool.false_ne_true missing

theorem Reachable.mono {larger : Finset String} (more : roles ⊆ larger) {role : String}
    (reachable : evaluator.Reachable roles role) : evaluator.Reachable larger role := by
  obtain ⟨given,member,path⟩ := reachable
  exact ⟨given,more member,path⟩

/-- The expansion ends with the transitive closure, and a decision with what its roles hold. -/
structure Expands (iteration : Iteration) (evaluator : RBACEvaluator) (Object : Type) : Prop where
  closure : ∀ roles, ∃ bound, ∀ fuel ≥ bound, ∃ expanded, expandRoles iteration evaluator fuel roles = some expanded ∧
    ∀ role, role ∈ expanded ↔ evaluator.Reachable roles role
  decides : ∀ request : Request Object, ∃ bound, ∀ fuel ≥ bound, ∃ decision,
    evaluate iteration evaluator fuel request = some decision ∧
      (decision.allowed = true ↔ evaluator.Holds request.principal.roles (permissionKey request.context))
  monotone : ∀ (request : Request Object) (larger : Finset String), request.principal.roles ⊆ larger →
    ∀ fuel other decision wider, evaluate iteration evaluator fuel request = some decision →
      evaluate iteration evaluator other { request with principal := { request.principal with roles := larger } } =
        some wider →
      decision.allowed = true → wider.allowed = true
  twice : ∀ roles fuel other expanded again, expandRoles iteration evaluator fuel roles = some expanded →
    expandRoles iteration evaluator other expanded = some again → again = expanded

theorem expands (iteration : Iteration) (evaluator : RBACEvaluator) : Expands iteration evaluator Object where
  closure roles := by
    obtain ⟨bound,total⟩ := expandRoles_total evaluator iteration roles
    refine ⟨bound,fun fuel enough => ?_⟩
    obtain ⟨expanded,ran⟩ := total fuel enough
    exact ⟨expanded,ran,expandRoles_iff ran⟩
  decides request := by
    obtain ⟨bound,total⟩ := expandRoles_total evaluator iteration request.principal.roles
    refine ⟨bound,fun fuel enough => ?_⟩
    obtain ⟨expanded,ran⟩ := total fuel enough
    obtain ⟨decision,decided⟩ : ∃ decision, evaluate iteration evaluator fuel request = some decision := by
      rw [evaluate,ran]
      exact ⟨_,rfl⟩
    exact ⟨decision,decided,evaluate_iff decided⟩
  monotone request larger more fuel other decision wider ran again allowed := by
    obtain ⟨role,reachable,holds⟩ := (evaluate_iff ran).mp allowed
    exact (evaluate_iff again).mpr ⟨role,reachable.mono more,holds⟩
  twice roles fuel other expanded again ran expanding := by
    ext role
    rw [expandRoles_iff expanding,Reachable]
    constructor
    · rintro ⟨given,member,path⟩
      obtain ⟨root,inside,before⟩ := (expandRoles_iff ran given).mp member
      exact (expandRoles_iff ran role).mpr ⟨root,inside,before.trans path⟩
    · exact fun member => ⟨role,member,.refl⟩

end RBACEvaluator

end CqrsDdd.Access
