import CqrsDdd.Specifications.Clauses
import CqrsDdd.Specifications.MemoryOperators

/-! The operators of the SQLAlchemy registry for comparisons, sets, null checks and texts,
and how a database reads the clauses that they make: with an operand that is null a test
is unknown. -/
namespace CqrsDdd.Specifications

open ThreeValued

variable {Object : Type}

/-- A test of the text in a column. -/
inductive TextTest
  | like
  | ilike
  | contains
  | startswith
  | endswith
  | regexpMatch (ignoreCase : Bool)
  deriving DecidableEq, Repr

inductive ColumnClause (Object : Type)
  | isNull (column : String)
  | equals (column : String) (value : Value Object)
  | compares (comparison : Comparison) (column : String) (value : Value Object)
  | inList (column : String) (values : List (Value Object))
  | between (column : String) (low high : Value Object)
  | tests (test : TextTest) (column : String) (value : Value Object)
  | not (clause : ColumnClause Object)

/-- What the database makes of values that are not null. -/
structure Database (Object : Type) where
  equal : Value Object → Value Object → Bool
  compare : Comparison → Value Object → Value Object → Bool
  test : TextTest → Value Object → Value Object → Bool

namespace Database

/-- A test of two values, of which either may be null. -/
def known (test : Value Object → Value Object → Bool) (left right : Value Object) : Truth :=
  if left.isNull || right.isNull then .unknown else .ofBool (test left right)

def cell (row : Fields Object) (column : String) : Value Object := (row.lookup column).getD .null

def truth (database : Database Object) (row : Fields Object) : ColumnClause Object → Truth
  | .isNull column => .ofBool (cell row column).isNull
  | .equals column value => known database.equal (cell row column) value
  | .compares comparison column value => known (database.compare comparison) (cell row column) value
  | .inList column values => .any (values.map (known database.equal (cell row column)))
  | .between column low high =>
    .all [known (database.compare .le) low (cell row column),known (database.compare .le) (cell row column) high]
  | .tests test column value => known (database.test test) (cell row column) value
  | .not clause => (database.truth row clause).not

end Database

/-- A model class with these columns, and the operators that are left out here. -/
structure Model (Object : Type) where
  runtime : Runtime Object
  columns : List String
  others : SpecificationOperator → String → Value Object → Except Failure (ColumnClause Object)

namespace SqlOperators

/-- A comparison takes neither null nor a boolean; the error stands for SQLAlchemy's own. -/
def compares (comparison : Comparison) (column : String) : Value Object → Except Failure (ColumnClause Object)
  | .null | .bool _ => .error .typeError
  | value => .ok (.compares comparison column value)

/-- `column.in_(value)`. -/
def inList (column : String) : Value Object → Except Failure (ColumnClause Object)
  | .list items | .tuple items => .ok (.inList column items)
  | _ => .error .typeError

/-- `value[0], value[1]`. -/
def ends : Value Object → Except Failure (Value Object × Value Object)
  | .list (low::high::_) | .tuple (low::high::_) => .ok (low,high)
  | .list _ | .tuple _ => .error .indexError
  | .text content =>
    match Value.letters content with
    | low::high::_ => .ok (low,high)
    | _ => .error .indexError
  | .dict _ => .error .keyError
  | _ => .error .typeError

def between (column : String) (value : Value Object) : Except Failure (ColumnClause Object) := do
  let (low,high) ← ends value
  return .between column low high

/-- The registry has no operator for `all`. -/
def apply (model : Model Object) (op : SpecificationOperator) (column : String) (value : Value Object) :
    Except Failure (ColumnClause Object) :=
  match op with
  | .eq => .ok (if value.isNull then .isNull column else .equals column value)
  | .ne => .ok (.not (if value.isNull then .isNull column else .equals column value))
  | .gt => compares .gt column value
  | .lt => compares .lt column value
  | .ge => compares .ge column value
  | .le => compares .le column value
  | .in_ => inList column value
  | .notIn => .not <$> inList column value
  | .between => between column value
  | .notBetween => .not <$> between column value
  | .like => .ok (.tests .like column value)
  | .notLike => .ok (.not (.tests .like column value))
  | .ilike => .ok (.tests .ilike column value)
  | .contains => .ok (.tests .contains column value)
  | .icontains => .ok (.tests .ilike column (.text ("%" ++ model.runtime.textOf value ++ "%")))
  | .startswith => .ok (.tests .startswith column value)
  | .istartswith => .ok (.tests .ilike column (.text (model.runtime.textOf value ++ "%")))
  | .endswith => .ok (.tests .endswith column value)
  | .iendswith => .ok (.tests .ilike column (.text ("%" ++ model.runtime.textOf value)))
  | .regex => .ok (.tests (.regexpMatch false) column (.text (model.runtime.textOf value)))
  | .iregex => .ok (.tests (.regexpMatch true) column (.text (model.runtime.textOf value)))
  | .isNull => .ok (.isNull column)
  | .isNotNull => .ok (.not (.isNull column))
  | .isEmpty => .ok (.equals column (.text ""))
  | .isNotEmpty => .ok (.not (.equals column (.text "")))
  | .all => .error .valueError
  | op => model.others op column value

/-- `_compile_leaf_node`, without hooks and relationships. -/
def compileLeafNode (model : Model Object) (data : Value Object) (op : String) :
    Except Failure (ColumnClause Object) := do
  let attr ← data.get "attr" .null
  let val ← data.get "val" .null
  match attr with
  | .text name =>
    if name = "" then .error .valueError
    else if '.' ∈ name.toList || name ∉ model.columns then .error .attributeError
    else apply model (← SpecificationOperator.ofValue op) name val
  | other => if other.isTruthy model.runtime then .error .typeError else .error .valueError

end SqlOperators

end CqrsDdd.Specifications
