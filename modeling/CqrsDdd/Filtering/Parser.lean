import CqrsDdd.Dict
import CqrsDdd.Filtering.Syntaxes
import Mathlib.Data.Finset.Insert

/-! From query parameters to a specification and query options, under a whitelist of
fields. The whitelist is consulted by a walk of its own over the specification
dict, apart from the walks of the factory that validate and build it. -/
namespace CqrsDdd.Filtering

open Specifications

variable {Object : Type}

structure FieldWhitelist where
  filterableFields : Dict String (Finset String) := Dict.empty
  sortableFields : Finset String := ∅
  projectableFields : Finset String := ∅

def opToAlias : List (String × String) := [("=","eq"),("!=","ne"),(">","gt"),(">=","gte"),("<","lt"),("<=","lte")]

namespace FieldWhitelist

def allowFilter (runtime : Runtime Object) (whitelist : FieldWhitelist) (field : Value Object) (op : String) :
    Except Failure Unit :=
  let unknown := Failure.fieldNotAllowed ("Field " ++ runtime.repr field ++ " is not filterable")
  match field with
  | .text name =>
    match whitelist.filterableFields.get name with
    | none => .error unknown
    | some allowedOps =>
      if (opToAlias.lookup op).getD op ∉ allowedOps ∧ op ∉ allowedOps then
        .error (.fieldNotAllowed ("Operator " ++ runtime.repr (.text op) ++ " not allowed for field " ++
          runtime.repr field))
      else .ok ()
  | .list _ | .dict _ => .error .typeError
  | _ => .error unknown

/-- `allow_sort` and `allow_project`: the field is in the set. -/
def allow (runtime : Runtime Object) (fields : Finset String) (purpose : String) (field : Value Object) :
    Except Failure Unit :=
  let unknown := Failure.fieldNotAllowed ("Field " ++ runtime.repr field ++ " is not " ++ purpose)
  match field with
  | .text name => if name ∈ fields then .ok () else .error unknown
  | .list _ | .dict _ => .error .typeError
  | _ => .error unknown

def allowSort (runtime : Runtime Object) (whitelist : FieldWhitelist) : Value Object → Except Failure Unit :=
  allow runtime whitelist.sortableFields "sortable"

def allowProject (runtime : Runtime Object) (whitelist : FieldWhitelist) : Value Object → Except Failure Unit :=
  allow runtime whitelist.projectableFields "projectable"

end FieldWhitelist

structure QueryOptions (Object : Type) where
  offset : Option Int
  limit : Option Int
  sort : List (Value Object × Value Object)
  fields : Option (List (Value Object))
  cursor : Value Object

/-- The keys of the parameters, with the defaults of `parse`. -/
structure ParamKeys where
  filterKey : String := "filter"
  sortKey : String := "sort"
  limitKey : String := "limit"
  offsetKey : String := "offset"
  fieldsKey : String := "fields"

structure FilterParser where
  filterSyntax : FilterSyntax := .colonSeparated

namespace FilterParser

/-- The walk of `_validate_spec_dict`, at most `depth` calls deep. -/
def validateSpecDict (runtime : Runtime Object) (whitelist : FieldWhitelist) :
    Nat → Value Object → Except Failure Unit
  | 0,_ => .error .recursionError
  | depth + 1,data => do
    if ← data.holds "attr" then
      whitelist.allowFilter runtime (← data.item "attr") (runtime.textOf (← data.get "op" (.text "")))
    else (← (← data.get "conditions" (.list [])).iterate).forM (validateSpecDict runtime whitelist depth)

def intParam (runtime : Runtime Object) : Value Object → Except Failure (Option Int)
  | .null => .ok none
  | value =>
    match runtime.int value with
    | .ok number => .ok (some number)
    | .error .typeError | .error .valueError => .ok none
    | .error failure => .error failure

/-- A name with its direction, descending after a minus. -/
def direction (name : String) : Value Object × Value Object :=
  match name.toList with
  | '-'::field => (.text (String.ofList field),.text "desc")
  | _ => (.text name,.text "asc")

def parseSortItem : Value Object → Option (Value Object × Value Object)
  | .dict item => some ((item.lookup "field").getD (.text ""),(item.lookup "dir").getD (.text "asc"))
  | .text item => some (direction item)
  | _ => none

def parseSortList (runtime : Runtime Object) (whitelist : Option FieldWhitelist) (raw : List (Value Object)) :
    Except Failure (List (Value Object × Value Object)) := do
  let out := raw.filterMap parseSortItem
  whitelist.forM fun whitelist => out.forM fun entry => whitelist.allowSort runtime entry.1
  return out

def parseSortString (runtime : Runtime Object) (raw : String) : List (Value Object × Value Object) :=
  (splitOn ',' raw).map fun part => direction (runtime.strip part)

def parseSort (runtime : Runtime Object) (whitelist : Option FieldWhitelist) (raw : Value Object) :
    Except Failure (List (Value Object × Value Object)) :=
  if !raw.isTruthy runtime then .ok []
  else match raw with
    | .list items => parseSortList runtime whitelist items
    | .text content => .ok (parseSortString runtime content)
    | _ => .ok []

def requestedFields (runtime : Runtime Object) (raw : Value Object) : Option (List (Value Object)) :=
  if !raw.isTruthy runtime then none
  else match raw with
    | .text content => some ((((splitOn ',' content).map runtime.strip).filter (· ≠ "")).map .text)
    | .list items => some items
    | _ => none

def parseFields (runtime : Runtime Object) (whitelist : Option FieldWhitelist) (raw : Value Object) :
    Except Failure (Option (List (Value Object))) := do
  let fields := requestedFields runtime raw
  whitelist.forM fun whitelist => fields.forM fun fields => fields.forM (whitelist.allowProject runtime)
  return fields

def specDict (runtime : Runtime Object) (parser : FilterParser) (raw : Value Object) : Except Failure (Value Object) :=
  if raw.isTruthy runtime then parser.filterSyntax.parseFilter runtime raw else .ok (.dict [])

def checkFilter (runtime : Runtime Object) (whitelist : Option FieldWhitelist) (data : Value Object) :
    Except Failure Unit :=
  if data.isTruthy runtime then
    whitelist.forM fun whitelist => validateSpecDict runtime whitelist runtime.recursionLimit data
  else .ok ()

def makeSpecification (runtime : Runtime Object) (whitelist : Option FieldWhitelist) (data : Value Object) :
    Except Failure (Option (Specification Object)) :=
  let allowed := whitelist.map fun whitelist => whitelist.filterableFields.keys
  if data.isTruthy runtime then some <$> SpecificationFactory.fromDict runtime allowed data else .ok none

def param (queryParams : Fields Object) (key : String) : Value Object := (queryParams.lookup key).getD .null

def parse (runtime : Runtime Object) (parser : FilterParser) (queryParams : Fields Object)
    (whitelist : Option FieldWhitelist) (keys : ParamKeys) :
    Except Failure (Option (Specification Object) × QueryOptions Object) := do
  let data ← specDict runtime parser (param queryParams keys.filterKey)
  checkFilter runtime whitelist data
  let spec ← makeSpecification runtime whitelist data
  let sort ← parseSort runtime whitelist (param queryParams keys.sortKey)
  let limit ← intParam runtime (param queryParams keys.limitKey)
  let offset ← intParam runtime (param queryParams keys.offsetKey)
  let fields ← parseFields runtime whitelist (param queryParams keys.fieldsKey)
  return (spec,⟨offset,limit,sort,fields,param queryParams "cursor"⟩)

end FilterParser

end CqrsDdd.Filtering
