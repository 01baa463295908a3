import CqrsDdd.Specifications.Values

/-! Specification trees and the factory that validates and builds them from nested
dicts. The validation stops at the first error; both walks recurse into the
conditions of a node, each in its own way. -/
namespace CqrsDdd.Specifications

inductive SpecificationOperator
  | eq | ne | gt | lt | ge | le | in_ | notIn | all | between | notBetween
  | like | notLike | ilike | contains | icontains | startswith | istartswith | endswith | iendswith | regex | iregex
  | isNull | isNotNull | isEmpty | isNotEmpty
  | jsonContains | jsonContainedBy | jsonHasKey | jsonHasAny | jsonHasAll | jsonPathExists
  | intersects | within | containsGeom | touches | crosses | overlaps | disjoint | geomEquals | distanceLt | dwithin
  | bboxIntersects | fts | ftsPhrase
  | and | or | not
  deriving DecidableEq, Repr

namespace SpecificationOperator

def members : List SpecificationOperator :=
  [eq,ne,gt,lt,ge,le,in_,notIn,all,between,notBetween,like,notLike,ilike,contains,icontains,startswith,istartswith,
    endswith,iendswith,regex,iregex,isNull,isNotNull,isEmpty,isNotEmpty,jsonContains,jsonContainedBy,jsonHasKey,
    jsonHasAny,jsonHasAll,jsonPathExists,intersects,within,containsGeom,touches,crosses,overlaps,disjoint,geomEquals,
    distanceLt,dwithin,bboxIntersects,fts,ftsPhrase,and,or,not]

def value : SpecificationOperator → String
  | eq => "="
  | ne => "!="
  | gt => ">"
  | lt => "<"
  | ge => ">="
  | le => "<="
  | in_ => "in"
  | notIn => "not_in"
  | all => "all"
  | between => "between"
  | notBetween => "not_between"
  | like => "like"
  | notLike => "not_like"
  | ilike => "ilike"
  | contains => "contains"
  | icontains => "icontains"
  | startswith => "startswith"
  | istartswith => "istartswith"
  | endswith => "endswith"
  | iendswith => "iendswith"
  | regex => "regex"
  | iregex => "iregex"
  | isNull => "is_null"
  | isNotNull => "is_not_null"
  | isEmpty => "is_empty"
  | isNotEmpty => "is_not_empty"
  | jsonContains => "json_contains"
  | jsonContainedBy => "json_contained_by"
  | jsonHasKey => "json_has_key"
  | jsonHasAny => "json_has_any"
  | jsonHasAll => "json_has_all"
  | jsonPathExists => "json_path_exists"
  | intersects => "intersects"
  | within => "within"
  | containsGeom => "contains_geom"
  | touches => "touches"
  | crosses => "crosses"
  | overlaps => "overlaps"
  | disjoint => "disjoint"
  | geomEquals => "geom_equals"
  | distanceLt => "distance_lt"
  | dwithin => "dwithin"
  | bboxIntersects => "bbox_intersects"
  | fts => "fts"
  | ftsPhrase => "fts_phrase"
  | and => "and"
  | or => "or"
  | not => "not"

def validOperators : List String := members.map value

def logicalOperators : List String := [and.value,or.value,not.value]

/-- `SpecificationOperator(text)`. -/
def ofValue (text : String) : Except Failure SpecificationOperator :=
  (members.find? fun operator => operator.value = text).elim (.error .valueError) .ok

theorem value_of_ofValue {text : String} {operator : SpecificationOperator} (found : ofValue text = .ok operator) :
    operator.value = text := by
  unfold ofValue at found
  cases hit : members.find? fun operator => operator.value = text with
  | none =>
    rw [hit] at found
    cases found
  | some member =>
    rw [hit] at found
    obtain rfl := Except.ok.inj found
    simpa using List.find?_some hit

end SpecificationOperator

structure AttributeSpecification (Object : Type) where
  attr : Value Object
  op : SpecificationOperator
  val : Value Object

inductive Specification (Object : Type)
  | attribute (leaf : AttributeSpecification Object)
  | and (specifications : List (Specification Object))
  | or (specifications : List (Specification Object))
  | not (specification : Specification Object)

variable {Object : Type}

mutual
def Specification.leaves : Specification Object → List (AttributeSpecification Object)
  | .attribute leaf => [leaf]
  | .and specifications => leavesOf specifications
  | .or specifications => leavesOf specifications
  | .not specification => specification.leaves
def leavesOf : List (Specification Object) → List (AttributeSpecification Object)
  | [] => []
  | specification::rest => specification.leaves ++ leavesOf rest
end

theorem mem_leavesOf {specifications : List (Specification Object)} {leaf : AttributeSpecification Object} :
    leaf ∈ leavesOf specifications ↔ ∃ specification ∈ specifications, leaf ∈ specification.leaves := by
  induction specifications with
  | nil => simp [leavesOf]
  | cons specification rest ih => simp [leavesOf,ih]

namespace SpecificationFactory

open SpecificationOperator

def validateLogicalNode (runtime : Runtime Object) (validateNode : Value Object → String → Except Failure Unit)
    (data : Fields Object) (op path : String) : Except Failure Unit :=
  let conditions := (data.lookup "conditions").getD .null
  if !conditions.isTruthy runtime && (data.lookup "condition").isNone then
    .error (.validation ("Logical operator '" ++ op ++ "' requires 'conditions' list") path)
  else match conditions,data.lookup "condition" with
    | .list children,_ =>
      children.zipIdx.forM fun entry => validateNode entry.1 (path ++ ".conditions[" ++ toString entry.2 ++ "]")
    | .null,some condition => validateNode condition (path ++ ".condition")
    | .null,none => .ok ()
    | _,_ => .error (.validation "'conditions' must be a list" path)

def validateLeafNode (runtime : Runtime Object) (allowedFields : Option (List String)) (data : Fields Object)
    (op path : String) : Except Failure Unit :=
  let missing := Failure.validation ("Leaf specification missing 'attr': " ++ runtime.str (.dict data)) path
  if op ∉ validOperators then .error (.operatorNotFound op)
  else match data.lookup "attr" with
    | some (.text attr) =>
      if attr = "" then .error missing
      else if allowedFields.any fun allowed => attr ∉ allowed then
        .error (.validation ("Field '" ++ attr ++ "' is not in the allowed fields list") path)
      else .ok ()
    | _ => .error missing

/-- The walk of `_validate_node`, at most `depth` calls deep. -/
def validateNode (runtime : Runtime Object) (allowedFields : Option (List String)) :
    Nat → Value Object → String → Except Failure Unit
  | 0,_,_ => .error .recursionError
  | depth + 1,.dict data,path =>
    match data.lookup "op" with
    | some (.text op) =>
      if op = "" then .error (.validation "Missing or empty 'op' key" path)
      else if runtime.lower op ∈ logicalOperators then
        validateLogicalNode runtime (validateNode runtime allowedFields depth) data op path
      else validateLeafNode runtime allowedFields data (runtime.lower op) path
    | _ => .error (.validation "Missing or empty 'op' key" path)
  | _ + 1,data,path => .error (.validation ("Expected a dict, got " ++ data.typeName runtime) path)

/-- The value of a leaf, cast where the dict names a type. -/
def castLeaf (runtime : Runtime Object) (val : Value Object) : Value Object → Except Failure (Value Object)
  | .null => .ok val
  | valueType => runtime.castValue val valueType

def buildLeaf (runtime : Runtime Object) (data : Value Object) (op : String) :
    Except Failure (AttributeSpecification Object) := do
  let attr ← data.item "attr"
  let val ← castLeaf runtime (← data.get "val" .null) (← data.get "value_type" .null)
  return ⟨attr,← ofValue op,val⟩

/-- The node that a negation is built from. -/
def negated (runtime : Runtime Object) (data conditions : Value Object) : Except Failure (Value Object) := do
  if !conditions.isTruthy runtime && (← data.holds "condition") then data.item "condition" else conditions.first

/-- The walk of `_build`, at most `depth` calls deep. -/
def build (runtime : Runtime Object) : Nat → Value Object → Except Failure (Specification Object)
  | 0,_ => .error .recursionError
  | depth + 1,data => do
    let op ← (← data.get "op" (.text "")).lower runtime
    let conditions ← data.get "conditions" (.list [])
    if op = and.value then return .and (← (← conditions.iterate).mapM (build runtime depth))
    else if op = or.value then return .or (← (← conditions.iterate).mapM (build runtime depth))
    else if op = not.value then return .not (← build runtime depth (← negated runtime data conditions))
    else return .attribute (← buildLeaf runtime data op)

def fromDict (runtime : Runtime Object) (allowedFields : Option (List String)) (data : Value Object) :
    Except Failure (Specification Object) := do
  validateNode runtime allowedFields runtime.recursionLimit data "<root>"
  build runtime runtime.recursionLimit data

end SpecificationFactory

end CqrsDdd.Specifications
