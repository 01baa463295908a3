import CqrsDdd.Specifications.Evaluation

/-! The operators of the in-memory registry for comparisons, sets, null checks and texts.
Each decides for itself what `None` means: most answer false, whether they are negated
or not. -/
namespace CqrsDdd.Specifications

variable {Object : Type}

inductive Comparison
  | gt
  | lt
  | ge
  | le
  deriving DecidableEq, Repr

/-- How the interpreter compares values and matches regular expressions, and the operators that are left out here. -/
structure Python (Object : Type) where
  runtime : Runtime Object
  equals : Value Object → Value Object → Bool
  compare : Comparison → Value Object → Value Object → Except Failure Bool
  reMatch : Bool → String → String → Except Failure Bool
  reSearch : Bool → String → String → Except Failure Bool
  others : SpecificationOperator → Value Object → Value Object → Except Failure Bool

namespace Value

def isNull : Value Object → Bool
  | .null => true
  | .bool _ | .number _ | .text _ | .list _ | .tuple _ | .dict _ | .object _ => false

theorem isNull_iff {value : Value Object} : value.isNull = true ↔ value = .null := by
  cases value with
  | null => exact iff_of_true rfl rfl
  | bool _ | number _ | text _ | list _ | tuple _ | dict _ | object _ =>
    exact iff_of_false Bool.false_ne_true fun same => (by cases same)

end Value

namespace MemoryOperators

/-- `_sql_pattern_to_regex`. -/
def sqlPatternToRegex (pattern : String) : String :=
  String.ofList (pattern.toList.flatMap fun char =>
    if char = '%' then ['.','*'] else if char = '_' then ['.'] else [char])

def unlessNull (field : Value Object) (answer : Except Failure Bool) : Except Failure Bool :=
  if field.isNull then .ok false else answer

/-- `field in condition`. -/
def contained (python : Python Object) (field condition : Value Object) : Except Failure Bool :=
  match condition with
  | .list items | .tuple items => .ok (items.any (python.equals field))
  | .dict fields => .ok (fields.any fun entry => python.equals field (.text entry.1))
  | .text content =>
    match field with
    | .text part => .ok (decide (part.toList <:+: content.toList))
    | _ => .error .typeError
  | _ => .error .typeError

/-- `low, high = condition`. -/
def bounds (condition : Value Object) : Except Failure (Value Object × Value Object) := do
  match ← condition.iterate with
  | [low,high] => return (low,high)
  | _ => .error .valueError

/-- `low <= field <= high`. -/
def within (python : Python Object) (field condition : Value Object) : Except Failure Bool := do
  let (low,high) ← bounds condition
  if ← python.compare .le low field then python.compare .le field high else return false

def texts (python : Python Object) (test : List Char → List Char → Bool) (field condition : Value Object) :
    Except Failure Bool :=
  .ok (test (python.runtime.textOf condition).toList (python.runtime.textOf field).toList)

/-- The same for both in lower case. -/
def lowered (python : Python Object) (test : List Char → List Char → Bool) (field condition : Value Object) :
    Except Failure Bool :=
  .ok (test (python.runtime.lower (python.runtime.textOf condition)).toList
    (python.runtime.lower (python.runtime.textOf field)).toList)

def like (python : Python Object) (ignoreCase : Bool) (field condition : Value Object) : Except Failure Bool :=
  python.reMatch ignoreCase ("^" ++ sqlPatternToRegex (python.runtime.textOf condition) ++ "$") (python.runtime.textOf field)

def evaluate (python : Python Object) (op : SpecificationOperator) (field condition : Value Object) :
    Except Failure Bool :=
  match op with
  | .eq => .ok (python.equals field condition)
  | .ne => .ok (!python.equals field condition)
  | .gt => unlessNull field (python.compare .gt field condition)
  | .lt => unlessNull field (python.compare .lt field condition)
  | .ge => unlessNull field (python.compare .ge field condition)
  | .le => unlessNull field (python.compare .le field condition)
  | .in_ => contained python field condition
  | .notIn => (!·) <$> contained python field condition
  | .between => unlessNull field (within python field condition)
  | .notBetween => unlessNull field ((!·) <$> within python field condition)
  | .like => unlessNull field (like python false field condition)
  | .notLike => unlessNull field ((!·) <$> like python false field condition)
  | .ilike => unlessNull field (like python true field condition)
  | .contains => unlessNull field (texts python (fun part text => decide (part <:+: text)) field condition)
  | .icontains => unlessNull field (lowered python (fun part text => decide (part <:+: text)) field condition)
  | .startswith => unlessNull field (texts python (fun part text => decide (part <+: text)) field condition)
  | .istartswith => unlessNull field (lowered python (fun part text => decide (part <+: text)) field condition)
  | .endswith => unlessNull field (texts python (fun part text => decide (part <:+ text)) field condition)
  | .iendswith => unlessNull field (lowered python (fun part text => decide (part <:+ text)) field condition)
  | .regex =>
    unlessNull field (python.reSearch false (python.runtime.textOf condition) (python.runtime.textOf field))
  | .iregex =>
    unlessNull field (python.reSearch true (python.runtime.textOf condition) (python.runtime.textOf field))
  | .isNull => .ok field.isNull
  | .isNotNull => .ok (!field.isNull)
  | .isEmpty => .ok (!field.isTruthy python.runtime)
  | .isNotEmpty => .ok (field.isTruthy python.runtime)
  | op => python.others op field condition

end MemoryOperators

end CqrsDdd.Specifications
