import CqrsDdd.Specifications.Factory

/-! Evaluation of specifications in memory. A leaf resolves its attribute path on the
candidate and asks the registry; a conjunction and a disjunction stop at the
first answer that decides, so that a later part is not even evaluated. -/
namespace CqrsDdd.Specifications

variable {Object : Type}

/-- `getattr(value, name, None)` on a value that is neither `None`, a sequence nor a dict, and the
operators, except that equality with a text is decided here. -/
structure Registry (Object : Type) where
  getattr : Value Object → String → Value Object
  evaluate : SpecificationOperator → Value Object → Value Object → Except Failure Bool

def Registry.apply (registry : Registry Object) (op : SpecificationOperator) (actual expected : Value Object) :
    Except Failure Bool :=
  match op,expected with
  | .eq,.text content => .ok (actual.isText content)
  | _,_ => registry.evaluate op actual expected

mutual
/-- `_resolve_field(value, part)` for one part of a path. -/
def resolvePart (registry : Registry Object) (part : String) : Value Object → Value Object
  | .null => .null
  | .list items => .list (resolveItems registry part items)
  | .tuple items => .list (resolveItems registry part items)
  | .dict fields => (fields.lookup part).getD .null
  | value => registry.getattr value part
def resolveItems (registry : Registry Object) (part : String) : List (Value Object) → List (Value Object)
  | [] => []
  | item::rest => resolvePart registry part item::resolveItems registry part rest
end

/-- The rest of a path; a sequence on the way takes one part for its items and ends the walk. -/
def resolvePath (registry : Registry Object) : List String → Value Object → Value Object
  | [],value => value
  | part::rest,value =>
    match value with
    | .null => .null
    | .list _ | .tuple _ => resolvePart registry part value
    | _ => resolvePath registry rest (resolvePart registry part value)

/-- The value of a path on a candidate with these attributes. -/
def resolveField (registry : Registry Object) (attributes : Fields Object) (path : String) : Value Object :=
  match splitOn '.' path with
  | [] => .null
  | part::rest => resolvePath registry rest ((attributes.lookup part).getD .null)

theorem resolveField_plain (registry : Registry Object) (attributes : Fields Object) {name : String}
    (plain : '.' ∉ name.toList) : resolveField registry attributes name = (attributes.lookup name).getD .null := by
  simp [resolveField,splitOn,List.splitOn_eq_singleton plain,resolvePath]

def AttributeSpecification.isSatisfiedBy (registry : Registry Object) (attributes : Fields Object)
    (leaf : AttributeSpecification Object) : Except Failure Bool :=
  match leaf.attr with
  | .text path => registry.apply leaf.op (resolveField registry attributes path) leaf.val
  | _ => .error .attributeError

mutual
def Specification.isSatisfiedBy (registry : Registry Object) (attributes : Fields Object) :
    Specification Object → Except Failure Bool
  | .attribute leaf => leaf.isSatisfiedBy registry attributes
  | .and specifications => allSatisfied registry attributes specifications
  | .or specifications => anySatisfied registry attributes specifications
  | .not specification => do return !(← specification.isSatisfiedBy registry attributes)
def allSatisfied (registry : Registry Object) (attributes : Fields Object) :
    List (Specification Object) → Except Failure Bool
  | [] => .ok true
  | specification::rest => do
    if ← specification.isSatisfiedBy registry attributes then allSatisfied registry attributes rest else return false
def anySatisfied (registry : Registry Object) (attributes : Fields Object) :
    List (Specification Object) → Except Failure Bool
  | [] => .ok false
  | specification::rest => do
    if ← specification.isSatisfiedBy registry attributes then return true else anySatisfied registry attributes rest
end

mutual
def Specification.toDict : Specification Object → Fields Object
  | .attribute leaf => [("op",.text leaf.op.value),("attr",leaf.attr),("val",leaf.val)]
  | .and specifications => [("op",.text "and"),("conditions",.list (toDicts specifications))]
  | .or specifications => [("op",.text "or"),("conditions",.list (toDicts specifications))]
  | .not specification => [("op",.text "not"),("conditions",.list [.dict specification.toDict])]
def toDicts : List (Specification Object) → List (Value Object)
  | [] => []
  | specification::rest => .dict specification.toDict::toDicts rest
end

theorem toDicts_eq (specifications : List (Specification Object)) :
    toDicts specifications = specifications.map fun specification => .dict specification.toDict := by
  induction specifications with
  | nil => exact rfl
  | cons specification rest ih => rw [toDicts,ih,List.map_cons]

end CqrsDdd.Specifications
