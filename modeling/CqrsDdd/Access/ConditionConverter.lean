import CqrsDdd.Dict
import CqrsDdd.Specifications.RoundTrip

/-! The converter between the conditions of an authorization engine and specifications. The two
share one shape of dicts, so that it renames attributes, marks the source of leaves and
leaves the rest to the factory. -/
namespace CqrsDdd.StatefulAbac

open Specifications SpecificationOperator SpecificationFactory Attempts Filtering

variable {Object : Type}

structure FieldMapping (Object : Type) where
  mappings : Dict String String := .empty
  externalIdField : String := "external_id"
  externalIdCast : Value Object → Except Specifications.Failure (Value Object)

namespace FieldMapping

/-- `{v: k for k, v in mappings.items()}`. -/
def reversed (mapping : FieldMapping Object) : Dict String String :=
  (mapping.mappings.entries.map Prod.swap).foldl (fun reversed entry => reversed.set entry.1 entry.2) .empty

def getField (mapping : FieldMapping Object) (abacAttr : String) : String :=
  (mapping.reversed.get abacAttr).getD abacAttr

def getAbacAttr (mapping : FieldMapping Object) (appField : String) : String :=
  (mapping.mappings.get appField).getD appField

def castExternalId (mapping : FieldMapping Object) : Value Object → Except Specifications.Failure (Value Object)
  | .list items => do return .list (← items.mapM mapping.externalIdCast)
  | value => mapping.externalIdCast value

end FieldMapping

inductive FilterType
  | grantedAll | deniedAll | conditions
  deriving DecidableEq, Repr

structure AuthorizationConditionsResult (Object : Type) where
  filterType : FilterType
  conditionsDsl : Option (Fields Object) := none

namespace AuthorizationConditionsResult

def grantedAll (result : AuthorizationConditionsResult Object) : Bool := result.filterType = .grantedAll

def deniedAll (result : AuthorizationConditionsResult Object) : Bool := result.filterType = .deniedAll

def hasConditions (result : AuthorizationConditionsResult Object) : Bool :=
  result.filterType = .conditions && result.conditionsDsl.isSome

end AuthorizationConditionsResult

structure AuthorizationFilter (Object : Type) where
  grantedAll : Bool := false
  deniedAll : Bool := false
  filterSpecification : Option (Specification Object) := none

namespace AuthorizationFilter

def grantAll : AuthorizationFilter Object where
  grantedAll := true

def denyAll : AuthorizationFilter Object where
  deniedAll := true

def fromSpecification (specification : Specification Object) : AuthorizationFilter Object where
  filterSpecification := some specification

end AuthorizationFilter

mutual
def isHashable : Value Object → Bool
  | .list _ | .dict _ => false
  | .tuple items => allHashable items
  | _ => true
def allHashable : List (Value Object) → Bool
  | [] => true
  | item::rest => isHashable item && allHashable rest
end

/-- `names.get(attr, attr)`; a key that is no text is not among the names. -/
def renamed (rename : String → String) : Value Object → Except Specifications.Failure (Value Object)
  | .text name => .ok (.text (rename name))
  | value => if isHashable value then .ok value else .error .typeError

/-- `node.pop(key, None)`. -/
def popped (key : String) (node : Fields Object) : Fields Object := node.filter fun entry => entry.1 ≠ key

namespace ConditionConverter

variable (runtime : Runtime Object) (mapping : FieldMapping Object)

def remapLogicalNode (remapDslNode : Value Object → Except Specifications.Failure (Fields Object))
    (node : Fields Object) : Except Specifications.Failure (Fields Object) := do
  let conditions ← (← (conditionsOf node).iterate).mapM remapDslNode
  return popped "source" (Dict.put "conditions" (.list (conditions.map .dict)) node)

def remapLeafAttrReverse (node : Fields Object) (attr : Value Object) :
    Except Specifications.Failure (Fields Object) := do
  if attr.isText "external_id" then
    let node := Dict.put "attr" (.text mapping.externalIdField) node
    match node.lookup "val" with
    | some val => return Dict.put "val" (← mapping.castExternalId val) node
    | none => return node
  else return Dict.put "attr" (← renamed mapping.getField attr) node

def remapLeafAttrForward (node : Fields Object) (attr : Value Object) :
    Except Specifications.Failure (Fields Object) := do
  if attr.isText mapping.externalIdField then
    return Dict.put "source" (.text "resource") (Dict.put "attr" (.text "external_id") node)
  else return Dict.put "source" (.text "resource") (Dict.put "attr" (← renamed mapping.getAbacAttr attr) node)

def remapSpatialOp (reverse : Bool) (node : Fields Object) : Fields Object :=
  if (opOf node).isText "st_dwithin" || (opOf node).isText "dwithin" then
    Dict.put "op" (.text (if reverse then "dwithin" else "st_dwithin")) node
  else node

def remapLeafAttr (reverse : Bool) (node : Fields Object) (attr : Value Object) :
    Except Specifications.Failure (Fields Object) :=
  if !attr.isTruthy runtime then .ok node
  else if reverse then remapLeafAttrReverse mapping node attr
  else remapLeafAttrForward mapping node attr

/-- The part of `_remap_dsl_node` after the logical nodes. -/
def remapLeafNode (reverse : Bool) (node : Fields Object) : Except Specifications.Failure (Fields Object) := do
  let node ← remapLeafAttr runtime mapping reverse node ((node.lookup "attr").getD .null)
  return remapSpatialOp reverse (if reverse then popped "source" node else node)

def isLogical (op : Value Object) : Bool := op.isText "and" || op.isText "or" || op.isText "not"

/-- The walk of `_remap_dsl_node`, at most `depth` calls deep. -/
def remapDslNode (reverse : Bool) : Nat → Value Object → Except Specifications.Failure (Fields Object)
  | 0,_ => .error .recursionError
  | depth + 1,.dict node =>
    if isLogical (opOf node) then remapLogicalNode (remapDslNode reverse depth) node
    else remapLeafNode runtime mapping reverse node
  | _ + 1,_ => .error .attributeError

def mapDslToApp (dsl : Fields Object) : Except Specifications.Failure (Fields Object) :=
  remapDslNode runtime mapping true runtime.recursionLimit (.dict dsl)

def dslToSpecification (result : AuthorizationConditionsResult Object) :
    Except Specifications.Failure (AuthorizationFilter Object) :=
  if result.grantedAll then .ok .grantAll
  else if result.deniedAll then .ok .denyAll
  else match result.hasConditions,result.conditionsDsl with
    | true,some dsl => do
      let mapped ← mapDslToApp runtime mapping dsl
      return .fromSpecification (← fromDict runtime none (.dict mapped))
    | _,_ => .ok .denyAll

def specificationToDsl (spec : Specification Object) : Except Specifications.Failure (Fields Object) :=
  remapDslNode runtime mapping false runtime.recursionLimit (.dict spec.toDict)

end ConditionConverter

end CqrsDdd.StatefulAbac
