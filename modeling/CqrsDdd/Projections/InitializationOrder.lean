import CqrsDdd.DepthFirst
import CqrsDdd.Dict

/-! The order in which a registry of projection schemas is initialised. A schema
depends on the targets of its many-to-one relationships, registered or not. -/
namespace CqrsDdd.Projections

open DepthFirst

inductive RelationshipType
  | oneToMany | manyToOne | manyToMany
  deriving DecidableEq, Repr

structure ProjectionRelationship where
  name : String
  type : RelationshipType
  targetSchema : String

def ProjectionRelationship.dependency (rel : ProjectionRelationship) : Option String :=
  if rel.type = .manyToOne then some rel.targetSchema else none

structure ProjectionSchema where
  name : String
  relationships : List ProjectionRelationship

structure ProjectionSchemaRegistry where
  schemas : Dict String ProjectionSchema

namespace ProjectionSchemaRegistry

def empty : ProjectionSchemaRegistry := ⟨Dict.empty⟩

def register (registry : ProjectionSchemaRegistry) (schema : ProjectionSchema) : ProjectionSchemaRegistry :=
  ⟨registry.schemas.set schema.name schema⟩

/-- The inner `visit`, at most `depth` calls deep. -/
def visit (registry : ProjectionSchemaRegistry) : Nat → String → Progress String → Option (Progress String)
  | 0,_,_ => none
  | depth + 1,name,progress =>
    if name ∈ progress.visited then some progress
    else do
      let entered : Progress String := {progress with visited := name::progress.visited}
      let ended ← match registry.schemas.get name with
        | some schema => schema.relationships.foldlM (fun progress rel =>
            if rel.type = .manyToOne then registry.visit depth rel.targetSchema progress else some progress) entered
        | none => some entered
      return {ended with result := ended.result ++ [name]}

def getInitializationOrder (registry : ProjectionSchemaRegistry) (depth : Nat) : Option (List String) :=
  (registry.schemas.keys.foldlM (fun progress name => registry.visit depth name progress) ⟨[],[]⟩).map
    Progress.result

def dependencies (registry : ProjectionSchemaRegistry) (name : String) : List String :=
  ((registry.schemas.get name).elim [] ProjectionSchema.relationships).filterMap
    ProjectionRelationship.dependency

/-- One schema names the other as the target of a many-to-one relationship, or one that it names does. -/
def DependsOn (registry : ProjectionSchemaRegistry) : String → String → Prop :=
  Relation.TransGen fun name target => target ∈ registry.dependencies name

def Acyclic (registry : ProjectionSchemaRegistry) : Prop := ∀ name, ¬registry.DependsOn name name

theorem foldlM_targets (visitOne : String → Progress String → Option (Progress String))
    (relationships : List ProjectionRelationship) (progress : Progress String) :
    relationships.foldlM (fun progress rel =>
        if rel.type = .manyToOne then visitOne rel.targetSchema progress else some progress) progress =
      (relationships.filterMap ProjectionRelationship.dependency).foldlM
        (fun progress name => visitOne name progress) progress := by
  induction relationships generalizing progress with
  | nil => exact rfl
  | cons rel rest ih =>
    by_cases depends : rel.type = .manyToOne
    · have named : rel.dependency = some rel.targetSchema := if_pos depends
      rw [List.foldlM_cons,List.filterMap_cons_some named,List.foldlM_cons,if_pos depends]
      exact congrArg _ (funext ih)
    · have unnamed : rel.dependency = none := if_neg depends
      rw [List.foldlM_cons,List.filterMap_cons_none unnamed,if_neg depends]
      exact ih progress

/-- The walk of the registry is a depth-first traversal along the dependencies. -/
theorem visit_eq (registry : ProjectionSchemaRegistry) (depth : Nat) (name : String) (progress : Progress String) :
    registry.visit depth name progress = DepthFirst.visit registry.dependencies depth name progress := by
  induction depth generalizing name progress with
  | zero => exact rfl
  | succ depth ih =>
    unfold visit DepthFirst.visit
    by_cases seen : name ∈ progress.visited
    · rw [if_pos seen,if_pos seen]
    · rw [if_neg seen,if_neg seen]
      have inner : (fun progress name => registry.visit depth name progress) =
          fun progress name => DepthFirst.visit registry.dependencies depth name progress :=
        funext fun progress => funext fun name => ih name progress
      unfold dependencies
      cases found : registry.schemas.get name with
      | none => exact rfl
      | some schema =>
        simp only [Option.elim_some]
        rw [foldlM_targets (fun name progress => registry.visit depth name progress),inner]
        exact Option.map_eq_bind.symm

theorem getInitializationOrder_eq (registry : ProjectionSchemaRegistry) (depth : Nat) :
    registry.getInitializationOrder depth =
      (visitAll registry.dependencies depth registry.schemas.keys ⟨[],[]⟩).map Progress.result := by
  unfold getInitializationOrder visitAll
  exact congrArg (fun step => (registry.schemas.keys.foldlM step ⟨[],[]⟩).map Progress.result)
    (funext fun progress => funext fun name => registry.visit_eq depth name progress)

/-- Every name that a visit can meet. -/
def names (registry : ProjectionSchemaRegistry) : List String :=
  registry.schemas.keys ++ registry.schemas.keys.flatMap registry.dependencies

theorem names_closed (registry : ProjectionSchemaRegistry) :
    ∀ name ∈ registry.names, ∀ target ∈ registry.dependencies name, target ∈ registry.names := by
  intro name _ target member
  refine List.mem_append.mpr (.inr (List.mem_flatMap.mpr ⟨name,?_,member⟩))
  unfold dependencies at member
  cases found : registry.schemas.get name with
  | none =>
    rw [found] at member
    exact absurd member List.not_mem_nil
  | some schema => exact List.mem_map.mpr ⟨(name,schema),Dict.mem_of_lookup found,rfl⟩

theorem initialization_order_topological (registry : ProjectionSchemaRegistry) :
    ∃ order, (∃ bound, ∀ depth, bound ≤ depth → registry.getInitializationOrder depth = some order) ∧
      (∀ name ∈ registry.schemas.keys, order.count name = 1) ∧
      (registry.Acyclic → ∀ name ∈ registry.schemas.keys, ∀ other ∈ registry.schemas.keys,
        registry.DependsOn name other → order.idxOf other < order.idxOf name) := by
  have enough : unvisited registry.names ⟨[],[]⟩ < registry.names.length + 1 :=
    Nat.lt_succ_of_le (List.length_filter_le _ _)
  obtain ⟨ended,all⟩ := visitAll_total (fun name member => List.mem_append_left _ member)
    (fun name before known => visit_total registry.names_closed known) enough
  obtain ⟨added,grows,entered⟩ := visitAll_grows (fun node before after => visit_grows) all
  have result : ended.result = added := grows.result
  have inside : ∀ name ∈ registry.schemas.keys, name ∈ ended.result := fun name member =>
    result ▸ ((grows.visited name).mp (entered name member)).resolve_left List.not_mem_nil
  refine ⟨ended.result,⟨registry.names.length + 1,fun depth least => ?_⟩,?_,?_⟩
  · rw [getInitializationOrder_eq,visitAll_of_le least all]
    exact rfl
  · intro name member
    exact List.count_eq_one_of_mem (result ▸ grows.distinct) (inside name member)
  · intro acyclic name member other _ depends
    have sorted : Sorted registry.dependencies ended.result :=
      visitAll_sorted (fun node before after => visit_sorted acyclic) all
        (fun _ _ _ seen => absurd seen List.not_mem_nil)
        (fun early node late same => absurd same.symm (List.append_ne_nil_of_right_ne_nil _ (List.cons_ne_nil _ _)))
    exact sorted.idxOf_lt (result ▸ grows.distinct) (inside name member) depends

-- A cycle, a schema that names itself and a target that is not registered: each comes out once.
example : ((((empty.register ⟨"orders",[⟨"customer",.manyToOne,"customers"⟩,⟨"parent",.manyToOne,"orders"⟩]⟩).register
    ⟨"customers",[⟨"region",.manyToOne,"regions"⟩,⟨"last",.manyToOne,"orders"⟩]⟩).getInitializationOrder 9)) =
      some ["regions","customers","orders"] := rfl

end ProjectionSchemaRegistry

end CqrsDdd.Projections
