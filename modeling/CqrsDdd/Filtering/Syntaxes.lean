import CqrsDdd.Specifications.Factory

/-! The two filter languages of the query string: clauses separated by commas and
colons, and JSON. Both end in a specification dict; the JSON one leaves a dict
that it does not know as it is, with all that is nested in it. -/
namespace CqrsDdd.Filtering

open Specifications SpecificationOperator

variable {Object : Type}

def opAliases : List (String × SpecificationOperator) :=
  [("eq",eq),("=",eq),("ne",ne),("!=",ne),("gt",gt),(">",gt),("gte",ge),(">=",ge),("lt",lt),("<",lt),("lte",le),
    ("<=",le),("in",in_),("not_in",notIn),("contains",contains),("icontains",icontains),("like",like),("ilike",ilike),
    ("startswith",startswith),("starts_with",startswith),("endswith",endswith),("ends_with",endswith),
    ("is_null",isNull),("null",isNull),("is_not_null",isNotNull),("not_null",isNotNull),("between",between),
    ("not_between",notBetween)]

/-- `getattr(_OP_ALIASES.get(op, op), "value", ..)`. -/
def unalias (op : String) : String := (opAliases.lookup op).elim op value

inductive FilterSyntax
  | colonSeparated
  | json
  deriving DecidableEq, Repr

namespace ColonSeparatedSyntax

/-- A segment with fewer than two colons belongs to the value of the clause before it. -/
def addSegment (clauses : List String) (segment : String) : List String :=
  if segment = "" then clauses
  else if 2 ≤ segment.toList.count ':' then clauses ++ [segment]
  else match clauses.getLast? with
    | some last => clauses.dropLast ++ [last ++ "," ++ segment]
    | none => [segment]

def smartSplit (runtime : Runtime Object) (raw : String) : List String :=
  ((splitOn ',' raw).map runtime.strip).foldl addSegment []

def parseSimpleValue (runtime : Runtime Object) (text : String) : Except Failure (Value Object) :=
  match runtime.int (.text text) with
  | .ok number => .ok (.number number)
  | .error .valueError =>
    match runtime.float text with
    | .ok number => .ok number
    | .error .valueError => .ok (.text text)
    | .error failure => .error failure
  | .error failure => .error failure

def parseValue (runtime : Runtime Object) (text op : String) : Except Failure (Value Object) :=
  if runtime.lower text = "true" then .ok (.bool true)
  else if runtime.lower text = "false" then .ok (.bool false)
  else if runtime.lower text = "null" then .ok .null
  else if op ∈ ["in","not_in","between","not_between"] ∧ ',' ∈ text.toList then
    .list <$> (splitOn ',' text).mapM fun part => parseSimpleValue runtime (runtime.strip part)
  else parseSimpleValue runtime text

/-- `part.split(":", 2)`. -/
def tokens (part : String) : List String :=
  match splitOn ':' part with
  | field::op::value::rest => [field,op,":".intercalate (value::rest)]
  | fewer => fewer

/-- One clause as a leaf. `_parse_value` raises no `ValueError`, so its handler is never reached. -/
def parseClause (runtime : Runtime Object) (part : String) : Except Failure (Value Object) := do
  match tokens part with
  | [field,op,value] =>
    let op := unalias (runtime.lower (runtime.strip op))
    let val ← parseValue runtime (runtime.strip value) op
    return .dict [("op",.text op),("attr",.text (runtime.strip field)),("val",val)]
  | _ => throw (.filterParse ("Expected field:op:value, got: " ++ runtime.repr (.text part)))

def parseFilter (runtime : Runtime Object) : Value Object → Except Failure (Value Object)
  | .text raw => do
    let parts := (smartSplit runtime raw).map runtime.strip
    match ← (parts.filter (· ≠ "")).mapM (parseClause runtime) with
    | [] => return .dict []
    | [clause] => return clause
    | clauses => return .dict [("op",.text and.value),("conditions",.list clauses)]
  | _ => return .dict []

end ColonSeparatedSyntax

namespace JsonFilterSyntax

/-- `dict(data)`; no other sequence that holds "attr" is one of pairs. -/
def copyDict : Value Object → Except Failure (Fields Object)
  | .dict fields => .ok fields
  | _ => .error .valueError

/-- A leaf keeps its entries, except that a "value" becomes the missing "val". -/
def renameValue (data : Fields Object) : Fields Object :=
  match data.lookup "value",data.lookup "val" with
  | some value,none => data.filter (fun entry => entry.1 ≠ "value") ++ [("val",value)]
  | _,_ => data

def unknownOperator (op : String) : Failure :=
  .filterParse ("Unknown operator '" ++ op ++ "'. Valid operators: " ++ ", ".intercalate validOperators)

/-- The operator of a leaf with "field", one of the known ones; a list or a dict cannot be looked up. -/
def operatorOf (runtime : Runtime Object) : Value Object → Except Failure String
  | .text op => if unalias op ∈ validOperators then .ok (unalias op) else .error (unknownOperator op)
  | .list _ | .dict _ => .error .typeError
  | op => .error (unknownOperator (runtime.str op))

/-- The walk of `_normalise`, at most `depth` calls deep. -/
def normalise (runtime : Runtime Object) : Nat → Value Object → Except Failure (Value Object)
  | 0,_ => .error .recursionError
  | depth + 1,data => do
    if (← data.holds "attr") && (← data.holds "op") then return .dict (renameValue (← copyDict data))
    else if ← data.holds "and" then
      let conditions ← (← (← data.item "and").iterate).mapM (normalise runtime depth)
      return .dict [("op",.text and.value),("conditions",.list conditions)]
    else if ← data.holds "or" then
      let conditions ← (← (← data.item "or").iterate).mapM (normalise runtime depth)
      return .dict [("op",.text or.value),("conditions",.list conditions)]
    else if (← data.holds "field") && (← data.holds "op") then
      let op ← operatorOf runtime (← data.item "op")
      let attr ← data.item "field"
      let val ← data.get "value" (← data.get "val" .null)
      return .dict [("op",.text op),("attr",attr),("val",val)]
    else return data

def parseFilter (runtime : Runtime Object) : Value Object → Except Failure (Value Object)
  | .dict data => normalise runtime runtime.recursionLimit (.dict data)
  | .text raw =>
    match runtime.jsonLoads raw with
    | .error message => .error (.filterParse message)
    | .ok (.dict data) => normalise runtime runtime.recursionLimit (.dict data)
    | .ok _ => .ok (.dict [])
  | _ => .ok (.dict [])

end JsonFilterSyntax

def FilterSyntax.parseFilter (runtime : Runtime Object) : FilterSyntax → Value Object → Except Failure (Value Object)
  | .colonSeparated => ColonSeparatedSyntax.parseFilter runtime
  | .json => JsonFilterSyntax.parseFilter runtime

end CqrsDdd.Filtering
