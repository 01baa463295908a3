import CqrsDdd.Specifications.Factory

/-! The query builder for MongoDB: filters from specification dicts, and which documents
they select. How a leaf is compiled, and which documents its part of a filter matches,
is left open here. -/
namespace CqrsDdd.Specifications

inductive MongoError
  | query (message : String)
  | raised (failure : Failure)
  deriving DecidableEq, Repr

def MongoError.raises {Result : Type} (attempt : Except Failure Result) : Except MongoError Result :=
  attempt.mapError .raised

/-- A filter; `empty` is the document without entries, which selects everything. -/
inductive MongoFilter (Part : Type)
  | empty
  | leaf (part : Part)
  | and (filters : List (MongoFilter Part))
  | or (filters : List (MongoFilter Part))
  | nor (filters : List (MongoFilter Part))

namespace MongoFilter
variable {Part : Type}

def isEmpty : MongoFilter Part → Bool
  | .empty => true
  | .leaf _ | .and _ | .or _ | .nor _ => false

mutual
def selects (matched : Part → Bool) : MongoFilter Part → Bool
  | .empty => true
  | .leaf part => matched part
  | .and filters => allSelect matched filters
  | .or filters => anySelects matched filters
  | .nor filters => !anySelects matched filters
def allSelect (matched : Part → Bool) : List (MongoFilter Part) → Bool
  | [] => true
  | filter::rest => filter.selects matched && allSelect matched rest
def anySelects (matched : Part → Bool) : List (MongoFilter Part) → Bool
  | [] => false
  | filter::rest => filter.selects matched || anySelects matched rest
end

theorem allSelect_eq (matched : Part → Bool) (filters : List (MongoFilter Part)) :
    allSelect matched filters = filters.all (selects matched) := by
  induction filters with
  | nil => exact rfl
  | cons filter rest ih => rw [allSelect,ih,List.all_cons]

theorem anySelects_eq (matched : Part → Bool) (filters : List (MongoFilter Part)) :
    anySelects matched filters = filters.any (selects matched) := by
  induction filters with
  | nil => exact rfl
  | cons filter rest ih => rw [anySelects,ih,List.any_cons]

end MongoFilter

/-- What `build_match` returns: a raw filter as it came, or a compiled one. -/
inductive MatchStage (Object Part : Type)
  | raw (data : Fields Object)
  | compiled (filter : MongoFilter Part)

namespace MongoQueryBuilder

open SpecificationOperator MongoError

variable {Object Part : Type}

/-- The filter of a negation, before it is negated: that of the first condition, unless there is a `condition`. -/
def negated (compile : Value Object → Except MongoError (MongoFilter Part)) (some : Bool)
    (conditions condition : Value Object) : Except MongoError (MongoFilter Part) := do
  let inner ← if some then compile (← raises conditions.first) else pure .empty
  match condition with
  | .null => return inner
  | _ => compile condition

def negate (inner : MongoFilter Part) : MongoFilter Part := if inner.isEmpty then .empty else .nor [inner]

/-- The walk of `_compile_node`, at most `depth` calls deep. -/
def compileNode (runtime : Runtime Object) (compileLeaf : Fields Object → Except MongoError Part) :
    Nat → Value Object → Except MongoError (MongoFilter Part)
  | 0,_ => .error (.raised .recursionError)
  | depth + 1,.dict data => do
    let op := runtime.lower (runtime.textOf ((data.lookup "op").getD (.text "")))
    let conditions := (data.lookup "conditions").getD (.list [])
    if op = and.value then
      if !conditions.isTruthy runtime then return .empty
      else return .and (← (← raises conditions.iterate).mapM (compileNode runtime compileLeaf depth))
    else if op = or.value then
      if !conditions.isTruthy runtime then return .empty
      else return .or (← (← raises conditions.iterate).mapM (compileNode runtime compileLeaf depth))
    else if op = not.value then
      return negate (← negated (compileNode runtime compileLeaf depth) (conditions.isTruthy runtime) conditions
        ((data.lookup "condition").getD .null))
    else return .leaf (← compileLeaf data)
  | _ + 1,_ => .error (.query "Specification node must be a dict")

/-- `build_match` on a dict. -/
def buildMatch (runtime : Runtime Object) (compileLeaf : Fields Object → Except MongoError Part) (data : Fields Object) :
    Except MongoError (MatchStage Object Part) := do
  if data.isEmpty then return .compiled .empty
  else if (["attr","op","conditions"].any fun key => (data.lookup key).isSome) = false then return .raw data
  else return .compiled (← compileNode runtime compileLeaf runtime.recursionLimit (.dict data))

end MongoQueryBuilder

end CqrsDdd.Specifications
