import CqrsDdd.Specifications.RoundTrip

/-! Tenant specifications in compositions with other ones. A tenant specification writes its
dict by hand, with a name of equality that is none of the operators: MongoDB takes it for
equality all the same, the factory and SQLAlchemy do not take it. -/
namespace CqrsDdd.Specifications

open SpecificationOperator SpecificationFactory Attempts

/-- What SQLAlchemy and the hooks know of model classes: the column or the relationship (with `uselist`) of a name, the
operators of the registry, and `any` or `has` over a relationship. -/
structure Mapper (Object Model Column Test : Type) where
  hooked : Model → String → Value Object → Option Column
  column : Model → String → Option Column
  relationship : Model → String → Option (Model × Bool)
  apply : SpecificationOperator → Column → Value Object → Except Failure Test
  related : Model → String → Bool → Test → Test

namespace Mapper

variable {Object Model Column Test : Type} (mapper : Mapper Object Model Column Test)

/-- The leaf for the parts of a dotted path. A nested node has the operator of the leaf, so that it is a leaf again. -/
def compilePath (op : String) (val : Value Object) : Model → List String → Except Failure Test
  | model,parts =>
    let attr := ".".intercalate parts
    if attr = "" then .error .valueError
    else match mapper.hooked model attr val with
      | some column => do mapper.apply (← ofValue op) column val
      | none =>
        match parts with
        | [] => .error .valueError
        | [name] =>
          match mapper.column model name with
          | some column => do mapper.apply (← ofValue op) column val
          | none => .error .attributeError
        | name::rest =>
          match mapper.relationship model name with
          | some (target,uselist) => do return mapper.related model name uselist (← compilePath op val target rest)
          | none => .error .attributeError

/-- `_compile_leaf_node`. -/
def compileLeafNode (runtime : Runtime Object) (model : Model) (data : Value Object) (op : String) :
    Except Failure Test := do
  let attr ← data.get "attr" .null
  let val ← data.get "val" .null
  match attr with
  | .text name => mapper.compilePath op val model (splitOn '.' name)
  | other => if other.isTruthy runtime then .error .typeError else .error .valueError

variable {mapper}

theorem compilePath_operator {op : String} {val : Value Object} {test : Test} {model : Model} {parts : List String}
    (compiled : mapper.compilePath op val model parts = .ok test) : ∃ operator, ofValue op = .ok operator := by
  induction parts generalizing model test with
  | nil =>
    rw [compilePath] at compiled
    cases compiled
  | cons name rest ih =>
    rw [compilePath.eq_def] at compiled
    dsimp only at compiled
    split at compiled
    next => cases compiled
    next =>
      split at compiled
      next =>
        obtain ⟨operator,known,_⟩ := bind_ok.mp compiled
        exact ⟨operator,known⟩
      next =>
        split at compiled
        next none => cases none
        next =>
          split at compiled
          next =>
            obtain ⟨operator,known,_⟩ := bind_ok.mp compiled
            exact ⟨operator,known⟩
          next => cases compiled
        next first later _ same =>
          cases same
          split at compiled
          next =>
            obtain ⟨inner,nested,_⟩ := bind_ok.mp compiled
            exact ih nested
          next => cases compiled

theorem compileLeafNode_operator {runtime : Runtime Object} {model : Model} {data : Value Object} {op : String}
    {test : Test} (compiled : mapper.compileLeafNode runtime model data op = .ok test) : ∃ operator, ofValue op = .ok operator := by
  obtain ⟨attr,_,compiled⟩ := bind_ok.mp compiled
  obtain ⟨val,_,compiled⟩ := bind_ok.mp compiled
  cases attr with
  | text name => exact compilePath_operator compiled
  | null | bool _ | number _ | list _ | tuple _ | dict _ | object _ =>
    dsimp only at compiled
    split at compiled
    next => cases compiled
    next => cases compiled

end Mapper

/-- A compiler of MongoDB leaves, which answers for the operators that it knows. -/
abbrev LeafCompiler (Object Part : Type) :=
  SpecificationOperator → Value Object → Value Object → Except MongoError (Option Part)

namespace MongoQueryBuilder

variable {Object Part : Type}

/-- The first answer of the compilers, or equality. -/
def firstAnswer (equality : Value Object → Value Object → Part) (op : SpecificationOperator) (field val : Value Object) :
    List (LeafCompiler Object Part) → Except MongoError Part
  | [] => .ok (equality field val)
  | compiler::rest => do
    match ← compiler op field val with
    | some part => return part
    | none => firstAnswer equality op field val rest

/-- `_compile_leaf`; each compiler gives up on a text that is no operator. -/
def compileLeaf (runtime : Runtime Object) (compilers : List (LeafCompiler Object Part))
    (equality : Value Object → Value Object → Part) (data : Fields Object) : Except MongoError Part :=
  let field := (data.lookup "attr").getD .null
  let val := (data.lookup "val").getD .null
  if !field.isTruthy runtime then .error (.query ("Specification missing 'attr': " ++ runtime.str (.dict data)))
  else match (data.lookup "op").getD (.text "") with
    | .text op =>
      match ofValue op with
      | .ok operator => firstAnswer equality operator field val compilers
      | .error _ => .ok (equality field val)
    | _ => .ok (equality field val)

end MongoQueryBuilder

end CqrsDdd.Specifications

namespace CqrsDdd.Multitenancy

open Specifications SpecificationOperator SpecificationFactory Attempts

variable {Object : Type}

structure MetadataTenantSpecification where
  tenantId : String
  tenantColumn : String
  metadataKey : Option String

namespace MetadataTenantSpecification

variable (self : MetadataTenantSpecification)

/-- `metadata_key or tenant_column`. -/
def key : String :=
  match self.metadataKey with
  | some key => if key = "" then self.tenantColumn else key
  | none => self.tenantColumn

def present : Option (Value Object) → Option (Value Object)
  | some .null | none => none
  | some value => some value

/-- What a metadata dict of the candidate has under the key. -/
def metadataValue (attributes : Fields Object) (name : String) : Option (Value Object) :=
  match attributes.lookup name with
  | some (.dict metadata) => present (metadata.lookup self.key)
  | _ => none

def isSatisfiedBy (attributes : Fields Object) : Bool :=
  let held := (present (attributes.lookup self.tenantColumn)).or
    ((self.metadataValue attributes "metadata").or (self.metadataValue attributes "_metadata"))
  held.elim false (Value.isText self.tenantId)

def toDict : Fields Object := [("attr",.text self.tenantColumn),("op",.text "eq"),("val",.text self.tenantId)]

end MetadataTenantSpecification

/-- What `&`, `|` and `~` make of tenant specifications and others. -/
inductive Composition (Object : Type)
  | tenant (leaf : MetadataTenantSpecification)
  | attribute (leaf : AttributeSpecification Object)
  | and (compositions : List (Composition Object))
  | or (compositions : List (Composition Object))
  | not (composition : Composition Object)

namespace Composition

mutual
def toDict : Composition Object → Fields Object
  | .tenant leaf => leaf.toDict
  | .attribute leaf => (Specification.attribute leaf).toDict
  | .and compositions => [("op",.text "and"),("conditions",.list (toDicts compositions))]
  | .or compositions => [("op",.text "or"),("conditions",.list (toDicts compositions))]
  | .not composition => [("op",.text "not"),("conditions",.list [.dict composition.toDict])]
def toDicts : List (Composition Object) → List (Value Object)
  | [] => []
  | composition::rest => .dict composition.toDict::toDicts rest
end

mutual
def isSatisfiedBy (registry : Registry Object) (attributes : Fields Object) :
    Composition Object → Except Specifications.Failure Bool
  | .tenant leaf => .ok (leaf.isSatisfiedBy attributes)
  | .attribute leaf => leaf.isSatisfiedBy registry attributes
  | .and compositions => allSatisfied registry attributes compositions
  | .or compositions => anySatisfied registry attributes compositions
  | .not composition => do return !(← composition.isSatisfiedBy registry attributes)
def allSatisfied (registry : Registry Object) (attributes : Fields Object) :
    List (Composition Object) → Except Specifications.Failure Bool
  | [] => .ok true
  | composition::rest => do
    if ← composition.isSatisfiedBy registry attributes then allSatisfied registry attributes rest else return false
def anySatisfied (registry : Registry Object) (attributes : Fields Object) :
    List (Composition Object) → Except Specifications.Failure Bool
  | [] => .ok false
  | composition::rest => do
    if ← composition.isSatisfiedBy registry attributes then return true else anySatisfied registry attributes rest
end

mutual
def tenants : Composition Object → List MetadataTenantSpecification
  | .tenant leaf => [leaf]
  | .attribute _ => []
  | .and compositions => tenantsOf compositions
  | .or compositions => tenantsOf compositions
  | .not composition => composition.tenants
def tenantsOf : List (Composition Object) → List MetadataTenantSpecification
  | [] => []
  | composition::rest => composition.tenants ++ tenantsOf rest
end

theorem toDicts_eq (compositions : List (Composition Object)) :
    toDicts compositions = compositions.map fun composition => .dict composition.toDict := by
  induction compositions with
  | nil => exact rfl
  | cons composition rest ih => rw [toDicts,ih,List.map_cons]

inductive HasTenant : Composition Object → Prop
  | tenant (leaf : MetadataTenantSpecification) : HasTenant (.tenant leaf)
  | and {compositions : List (Composition Object)} {part : Composition Object} (member : part ∈ compositions)
      (inside : HasTenant part) : HasTenant (.and compositions)
  | or {compositions : List (Composition Object)} {part : Composition Object} (member : part ∈ compositions)
      (inside : HasTenant part) : HasTenant (.or compositions)
  | not {composition : Composition Object} (inside : HasTenant composition) : HasTenant (.not composition)

mutual
theorem hasTenant_of_mem {leaf : MetadataTenantSpecification} : (composition : Composition Object) →
    leaf ∈ composition.tenants → composition.HasTenant
  | .tenant other,_ => .tenant other
  | .attribute _,member => absurd member List.not_mem_nil
  | .and compositions,member => by
    obtain ⟨part,among,inside⟩ := exists_of_mem compositions member
    exact .and among inside
  | .or compositions,member => by
    obtain ⟨part,among,inside⟩ := exists_of_mem compositions member
    exact .or among inside
  | .not composition,member => .not (hasTenant_of_mem composition member)
theorem exists_of_mem {leaf : MetadataTenantSpecification} : (compositions : List (Composition Object)) →
    leaf ∈ tenantsOf compositions → ∃ part ∈ compositions, part.HasTenant
  | [],member => absurd member List.not_mem_nil
  | composition::rest,member => by
    rcases List.mem_append.mp member with here | later
    · exact ⟨composition,List.mem_cons_self,hasTenant_of_mem composition here⟩
    · obtain ⟨part,among,inside⟩ := exists_of_mem rest later
      exact ⟨part,List.mem_cons_of_mem _ among,inside⟩
end

section Refusal

variable {runtime : Runtime Object} {allowedFields : Option (List String)}

theorem group_refused {op : String} {nodes : List (Value Object)} {node : Value Object} (member : node ∈ nodes)
    (logical : runtime.lower op ∈ logicalOperators)
    (refused : ∀ depth place, validateNode runtime allowedFields depth node place ≠ .ok ()) (depth : Nat) (place : String) :
    validateNode runtime allowedFields depth (.dict [("op",.text op),("conditions",.list nodes)]) place ≠ .ok () := by
  intro accepted
  cases depth with
  | zero => cases accepted
  | succ depth =>
    obtain ⟨data,named,same,spelled,accepted⟩ := validateNode_accepted accepted
    cases same
    cases spelled
    cases accepted with
    | leaf place plain checked => exact plain logical
    | conditions several logical listed given each =>
      cases listed
      obtain ⟨place,accepted⟩ := each node member
      exact refused depth place accepted
    | condition node place logical unlisted found accepted => cases unlisted

theorem factory_refuses (lowers : Lowers runtime) (spelled : runtime.lower "eq" = "eq") {composition : Composition Object}
    (inside : composition.HasTenant) (depth : Nat) (place : String) :
    validateNode runtime allowedFields depth (.dict composition.toDict) place ≠ .ok () := by
  induction inside generalizing depth place with
  | tenant leaf =>
    intro accepted
    cases depth with
    | zero => cases accepted
    | succ depth =>
      obtain ⟨data,op,same,named,accepted⟩ := validateNode_accepted accepted
      cases same
      cases named
      cases accepted with
      | leaf place plain checked =>
        rw [spelled] at checked
        cases checked
      | conditions nodes logical listed given each => cases listed
      | condition node place logical unlisted found accepted => cases found
  | @and compositions part member inside ih =>
    have conjunction : runtime.lower "and" = "and" := lowers .and
    rw [toDict,toDicts_eq]
    exact group_refused (List.mem_map_of_mem member) (by rw [conjunction]; decide) ih depth place
  | @or compositions part member inside ih =>
    have disjunction : runtime.lower "or" = "or" := lowers .or
    rw [toDict,toDicts_eq]
    exact group_refused (List.mem_map_of_mem member) (by rw [disjunction]; decide) ih depth place
  | @not composition inside ih =>
    have negation : runtime.lower "not" = "not" := lowers .not
    rw [toDict]
    exact group_refused List.mem_cons_self (by rw [negation]; decide) ih depth place

variable {Model Column Test : Type} {mapper : Mapper Object Model Column Test} {model : Model}

theorem sql_refuses (lowers : Lowers runtime) (spelled : runtime.lower "eq" = "eq") {composition : Composition Object}
    (inside : composition.HasTenant) (depth : Nat) (clause : Clause Test) :
    SqlCompiler.compileNode runtime (mapper.compileLeafNode runtime model) depth (.dict composition.toDict) ≠
      .ok clause := by
  intro compiled
  induction inside generalizing depth clause with
  | tenant leaf =>
    cases depth with
    | zero => cases compiled
    | succ depth =>
      rw [toDict,BackEnds.clause_named rfl,spelled,if_neg (by decide),if_neg (by decide),if_neg (by decide)] at compiled
      obtain ⟨test,leaf,_⟩ := bind_ok.mp compiled
      obtain ⟨operator,known⟩ := Mapper.compileLeafNode_operator leaf
      have unknown : ofValue "eq" = .error .valueError := by decide
      cases unknown.symm.trans known
  | @and compositions part member inside ih =>
    cases depth with
    | zero => cases compiled
    | succ depth =>
      have conjunction : runtime.lower "and" = SpecificationOperator.and.value := lowers .and
      rw [toDict,BackEnds.clause_named rfl,if_pos conjunction] at compiled
      obtain ⟨nodes,listed,compiled⟩ := bind_ok.mp compiled
      cases listed
      obtain ⟨clauses,each,_⟩ := bind_ok.mp compiled
      rw [toDicts_eq] at each
      obtain ⟨part,_,here⟩ := (mapM_ok each).1 _ (List.mem_map_of_mem member)
      exact ih depth part here
  | @or compositions part member inside ih =>
    cases depth with
    | zero => cases compiled
    | succ depth =>
      have disjunction : runtime.lower "or" = SpecificationOperator.or.value := lowers .or
      rw [toDict,BackEnds.clause_named rfl,if_neg (by rw [disjunction]; decide),if_pos disjunction] at compiled
      obtain ⟨nodes,listed,compiled⟩ := bind_ok.mp compiled
      cases listed
      obtain ⟨clauses,each,_⟩ := bind_ok.mp compiled
      rw [toDicts_eq] at each
      obtain ⟨part,_,here⟩ := (mapM_ok each).1 _ (List.mem_map_of_mem member)
      exact ih depth part here
  | @not composition inside ih =>
    cases depth with
    | zero => cases compiled
    | succ depth =>
      have negation : runtime.lower "not" = SpecificationOperator.not.value := lowers .not
      rw [toDict,BackEnds.clause_named rfl,if_neg (by rw [negation]; decide),if_neg (by rw [negation]; decide),
        if_pos negation] at compiled
      obtain ⟨part,here,_⟩ := bind_ok.mp compiled
      exact ih depth part here

end Refusal

/-- The factory and both compilers take the dict of the composition, and what they make of it selects the candidate
if and only if the composition does. -/
structure Compiles {Part Test : Type} (ends : BackEnds Object Part Test) (allowedFields : Option (List String))
    (composition : Composition Object) : Prop where
  rebuilt : ∃ specification, fromDict ends.runtime allowedFields (.dict composition.toDict) = .ok specification ∧
    specification.isSatisfiedBy ends.registry ends.attributes = composition.isSatisfiedBy ends.registry ends.attributes
  expressed : ∃ clause, SqlCompiler.buildSqlaFilter ends.runtime ends.compileColumn (.dict composition.toDict) = .ok clause ∧
    ∀ result, composition.isSatisfiedBy ends.registry ends.attributes = .ok result →
      (clause.reading ends.truth).selects = some result
  compiled : ∃ filter, MongoQueryBuilder.compileNode ends.runtime ends.compilePart ends.runtime.recursionLimit
      (.dict composition.toDict) = .ok filter ∧
    ∀ result, composition.isSatisfiedBy ends.registry ends.attributes = .ok result → filter.selects ends.matched = result

variable {Model Column Test Part : Type}

def compiling (ends : BackEnds Object Part Test) (mapper : Mapper Object Model Column Test) (model : Model)
    (compilers : List (LeafCompiler Object Part)) (equality : Value Object → Value Object → Part) :
    BackEnds Object Part Test :=
  { ends with
    compileColumn := mapper.compileLeafNode ends.runtime model
    compilePart := MongoQueryBuilder.compileLeaf ends.runtime compilers equality }

/-- With a tenant specification anywhere in it, no composition is taken by the factory or by SQLAlchemy. -/
theorem never_compiles (ends : BackEnds Object Part Test) (mapper : Mapper Object Model Column Test) (model : Model)
    (compilers : List (LeafCompiler Object Part)) (equality : Value Object → Value Object → Part)
    (lowers : Lowers ends.runtime) (spelled : ends.runtime.lower "eq" = "eq") (allowedFields : Option (List String))
    (composition : Composition Object) (tenant : composition.tenants ≠ []) :
    (∀ specification, fromDict ends.runtime allowedFields (.dict composition.toDict) ≠ .ok specification) ∧
      (∀ clause, SqlCompiler.buildSqlaFilter ends.runtime (mapper.compileLeafNode ends.runtime model)
        (.dict composition.toDict) ≠ .ok clause) ∧
      ¬Compiles (compiling ends mapper model compilers equality) allowedFields composition := by
  obtain ⟨leaf,member⟩ := List.exists_mem_of_ne_nil _ tenant
  have inside := hasTenant_of_mem composition member
  have factory : ∀ specification, fromDict ends.runtime allowedFields (.dict composition.toDict) ≠ .ok specification := by
    intro specification built
    obtain ⟨_,validated,_⟩ := bind_ok.mp built
    exact factory_refuses lowers spelled inside _ _ validated
  refine ⟨factory,fun clause => sql_refuses lowers spelled inside _ clause,fun compiles => ?_⟩
  obtain ⟨specification,built,_⟩ := compiles.rebuilt
  exact factory specification built

def acmeOnly : Composition Empty := .tenant ⟨"acme","tenant_id",none⟩

def acmeRow : BackEnds Empty (Value Empty × Value Empty) (String × Value Empty) where
  runtime := Runtime.ascii
  registry := ⟨fun _ _ => .null,fun _ _ _ => .error .valueError⟩
  attributes := [("tenant_id",.text "acme")]
  compilePart _ := .error (.query "Specification missing 'attr'")
  matched part := match part.2 with
    | .text content => content = "acme"
    | _ => false
  compileColumn _ _ := .error .valueError
  truth test := .ofBool (test.2.isText "acme")

def columns : Mapper Empty Unit String (String × Value Empty) where
  hooked _ _ _ := none
  column _ name := if name = "tenant_id" then some name else none
  relationship _ _ := none
  apply _ column val := .ok (column,val)
  related _ _ _ test := test

/-- It belongs to Acme in memory, and the factory does not know the operator. -/
theorem acmeOnly_not_compiled : acmeOnly.isSatisfiedBy acmeRow.registry acmeRow.attributes = .ok true ∧
    ¬Compiles (compiling acmeRow columns () [] Prod.mk) none acmeOnly := by
  refine ⟨rfl,fun compiles => ?_⟩
  obtain ⟨specification,built,_⟩ := compiles.rebuilt
  have refused : fromDict Runtime.ascii none (.dict acmeOnly.toDict) = .error (.operatorNotFound "eq") := by rfl
  cases refused.symm.trans built

theorem never_compiles_acme :
    (∀ specification, fromDict Runtime.ascii none (.dict acmeOnly.toDict) ≠ .ok specification) ∧
      (∀ clause, SqlCompiler.buildSqlaFilter Runtime.ascii (columns.compileLeafNode Runtime.ascii ())
        (.dict acmeOnly.toDict) ≠ .ok clause) ∧
      ¬Compiles (compiling acmeRow columns () [] Prod.mk) none acmeOnly :=
  never_compiles acmeRow columns () [] Prod.mk BackEnds.lowers_ascii rfl none acmeOnly (List.cons_ne_nil _ _)

end Composition

end CqrsDdd.Multitenancy
