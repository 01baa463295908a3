import CqrsDdd.Projections.SqlBatch
import CqrsDdd.UniqueRows

/-! The calls of the SQL projection store on the tables of its database. A table keeps its rows in
their order and has unique indexes, one of which an `ON CONFLICT` has to name. An upsert
looks at its row with `self.get`, which a subclass may have overridden. -/
namespace CqrsDdd.Projections

open Messaging Attempts SQLAlchemyProjectionStore UniqueRows

variable {Object : Type}

abbrev Rows (Object : Type) := List (Record Object)

structure Table (Object : Type) where
  database : Database Object
  columns : List String
  unique : List (List String)

abbrev Contents (Object : Type) := String → Rows Object

/-- The store; `commits` tells whether a session of the factory commits when it is left. -/
structure SqlStore (Object : Type) where
  defaultIdColumn : String
  commits : Bool
  tables : String → Option (Table Object)

/-- A dict, a model with its dumps in the modes `python` and `json`, or another object, of which `dict`
makes these items if it does not raise. -/
inductive Document (Object : Type)
  | dict (record : Record Object)
  | model (python json : Record Object)
  | other (object : Object) (items : Option (Record Object))

def Document.asDict : Document Object → Except Failure (Record Object)
  | .dict record => .ok record
  | .model _ json => .ok json
  | .other _ (some items) => .ok items
  | .other _ none => .error .typeError

inductive ProjectionOperation (Object : Type)
  | get (docId : DocId Object)
  | getBatch (docIds : List (DocId Object))
  | find (filterDict : Record Object) (limit offset : Nat)
  | upsert (docId : DocId Object) (data : Document Object) (eventPosition : Option Int) (eventId : Option String)
  | upsertBatch (docs : List (Document Object)) (idField : String)
  | delete (docId : DocId Object)

/-- A call with its collection, and whether it has a unit of work with a session. -/
structure ProjectionCall (Object : Type) where
  collection : String
  uow : Bool
  operation : ProjectionOperation Object

inductive ProjectionAnswer (Object : Type)
  | row (found : Option (Record Object))
  | rows (found : List (Option (Record Object)))
  | found (rows : Rows Object)
  | upserted (done : Bool)
  | none

def simpleId : DocId Object → Option (Value Object)
  | .text id => some (.text id)
  | .number id => some (.number id)
  | .composite _ _ => none

/-- `=` for each field; nothing equals a null. -/
def selects [DecidableEq Object] (fields : List (String × Value Object)) (row : Record Object) : Bool :=
  fields.all fun field => field.2 ≠ .null ∧ row.get field.1 = some field.2

/-- Both rows have the same values in the columns, none of which is null. -/
def conflicts [DecidableEq Object] (columns : List String) (row stored : Record Object) : Bool :=
  columns.all fun column => row.get column = stored.get column ∧ row.get column ≠ none ∧ row.get column ≠ some .null

namespace Table

variable [DecidableEq Object]

omit [DecidableEq Object] in
def knows (table : Table Object) (fields : List (String × Value Object)) : Bool :=
  fields.all fun field => field.1 ∈ table.columns

omit [DecidableEq Object] in
/-- The columns of a conflict target, in any order, are those of a unique index. -/
def hasIndex (table : Table Object) (target : List String) : Bool :=
  table.unique.any fun index => (index.all fun column => column ∈ target) && target.all fun column => column ∈ index

def query (table : Table Object) (fields : List (String × Value Object)) (rows : Rows Object) :
    Except Failure (Rows Object) :=
  if table.knows fields then .ok (rows.filter (selects fields)) else .error .rejected

def proposedRow (table : Table Object) (row : Record Object) : Record Object := table.database.defaults.update row

/-- The rows after one row of an `INSERT .. ON CONFLICT`, before the indexes are checked. -/
def placeRow (table : Table Object) (target updates : List String) (rows : Rows Object) (row : Record Object) :
    Rows Object :=
  place (conflicts target (table.proposedRow row)) (overwrite row.get updates) (table.proposedRow row) rows

def insertRow (table : Table Object) (target updates : List String) (rows : Rows Object) (row : Record Object) :
    Except Failure (Rows Object) :=
  if Unique conflicts table.unique (table.placeRow target updates rows row) then
    .ok (table.placeRow target updates rows row)
  else .error .rejected

/-- A statement is not valid without a column to update, and needs an index for its target. -/
def insert (table : Table Object) (target updates : List String) (fresh rows : Rows Object) :
    Except Failure (Rows Object) :=
  if updates.isEmpty || !table.hasIndex target || fresh.any (fun row => !table.database.accepts row.get) then
    .error .rejected
  else fresh.foldlM (table.insertRow target updates) rows

end Table

namespace SqlStore

def lookup (store : SqlStore Object) (collection : String) : Except Failure (Table Object) :=
  match store.tables (columnOf collection) with
  | some table => .ok table
  | none => .error .rejected

def whereId (store : SqlStore Object) (id : Value Object) : Except Failure (List (String × Value Object)) := do
  validateIdentifier "column name" store.defaultIdColumn
  return [(columnOf store.defaultIdColumn,id)]

def whereFromDocId (store : SqlStore Object) : DocId Object → Except Failure (List (String × Value Object))
  | .text id => store.whereId (.text id)
  | .number id => store.whereId (.number id)
  | .composite fields _ => do
    fields.keys.forM (validateIdentifier "column name")
    return fields.entries

def conflictColumns (store : SqlStore Object) : DocId Object → List String
  | .text _ | .number _ => [store.defaultIdColumn]
  | .composite fields _ => fields.keys

variable [DecidableEq Object]

def get (store : SqlStore Object) (contents : Contents Object) (collection : String) (docId : DocId Object) :
    Except Failure (Option (Record Object)) := do
  validateIdentifier "table name" collection
  let fields ← store.whereFromDocId docId
  let table ← store.lookup collection
  let rows ← table.query fields (contents (columnOf collection))
  return rows.head?

/-- One query for the ids of a table; of several rows with one id the last is kept. -/
def queryIds (table : Table Object) (column : String) (ids : List (Value Object)) (rows : Rows Object) :
    Except Failure (List (Option (Record Object))) :=
  if column ∉ table.columns || !table.database.takesParameters ids.length then .error .rejected
  else
    let found := rows.filter fun row => ids.any fun id => selects [(column,id)] row
    .ok (ids.map fun id => found.reverse.find? (selects [(column,id)]))

def getBatch (store : SqlStore Object) (contents : Contents Object) (collection : String)
    (docIds : List (DocId Object)) : Except Failure (List (Option (Record Object))) := do
  validateIdentifier "table name" collection
  if docIds.isEmpty then return []
  validateIdentifier "column name" store.defaultIdColumn
  match docIds.mapM simpleId with
  | some ids =>
    let table ← store.lookup collection
    queryIds table (columnOf store.defaultIdColumn) ids (contents (columnOf collection))
  | none => docIds.mapM (store.get contents collection)

def find (store : SqlStore Object) (contents : Contents Object) (collection : String) (filterDict : Record Object)
    (limit offset : Nat) : Except Failure (Rows Object) := do
  validateIdentifier "table name" collection
  filterDict.keys.forM (validateIdentifier "column name")
  let table ← store.lookup collection
  let rows ← table.query (filterDict.entries.map fun entry => (columnOf entry.1,entry.2)) (contents (columnOf collection))
  return (rows.drop offset).take limit

def isDuplicate (read : Except Failure (Option (Record Object))) : Option String → Except Failure Bool
  | none | some "" => .ok false
  | some eventId => read.map fun existing => existing.any (lastEventIs · eventId)

def shouldSkipStaleEvent (read : Except Failure (Option (Record Object))) (eventPosition : Int) :
    Except Failure Bool := do
  match ← read with
  | none => return false
  | some existing => atLeast existing eventPosition

def shouldSkipUpsert (read : Except Failure (Option (Record Object))) (eventPosition : Option Int)
    (eventId : Option String) : Except Failure Bool := do
  if ← isDuplicate read eventId then return true
  match eventPosition with
  | none => return false
  | some eventPosition => shouldSkipStaleEvent read eventPosition

/-- A name with a newline has no placeholder of its own. -/
def upsertImpl (store : SqlStore Object) (contents : Contents Object) (collection : String) (docId : DocId Object)
    (data : Record Object) : Except Failure (Rows Object) := do
  data.keys.forM (validateIdentifier "column name")
  let _ ← store.whereFromDocId docId
  let table ← store.lookup collection
  let target := store.conflictColumns docId
  if data.keys.any (·.toList.contains '\n') then throw .rejected
  table.insert (target.map columnOf) ((updateColumns target data).map Prod.fst) [data] (contents (columnOf collection))

/-- `read` is `self.get`. -/
def upsert (store : SqlStore Object) (read : DocId Object → Except Failure (Option (Record Object)))
    (contents : Contents Object) (uow : Bool) (collection : String) (docId : DocId Object) (data : Document Object)
    (eventPosition : Option Int) (eventId : Option String) : Except Failure (Contents Object × Bool) := do
  validateIdentifier "table name" collection
  let dict ← data.asDict
  if ← shouldSkipUpsert (read docId) eventPosition eventId then return (contents,false)
  let rows ← store.upsertImpl contents collection docId
    (addEventMetadata (prepareUpsertData docId dict) eventPosition eventId)
  return (if uow || store.commits then Function.update contents (columnOf collection) rows else contents,true)

def upsertBatch (store : SqlStore Object) (contents : Contents Object) (collection : String)
    (docs : List (Document Object)) (idField : String) : Except Failure (Contents Object) := do
  validateIdentifier "table name" collection
  validateIdentifier "column name" idField
  if docs.isEmpty then return contents
  let normalized ← docs.mapM Document.asDict
  normalized.forM fun doc => doc.keys.forM (validateIdentifier "column name")
  let table ← store.lookup collection
  let statement := batchStatement idField normalized
  let fresh ← statement.placeholders.mapM (valuesRow (batchParams normalized) statement.columns)
  if refuses table.database statement fresh then throw .rejected
  let rows ← table.insert [columnOf idField] statement.updates fresh (contents (columnOf collection))
  return Function.update contents (columnOf collection) rows

def delete (store : SqlStore Object) (contents : Contents Object) (collection : String) (docId : DocId Object) :
    Except Failure (Contents Object) := do
  validateIdentifier "table name" collection
  let fields ← store.whereFromDocId docId
  let table ← store.lookup collection
  if !table.knows fields then throw .rejected
  return Function.update contents (columnOf collection)
    ((contents (columnOf collection)).filter fun row => !selects fields row)

/-- The tables are as they were where the call raises. -/
def settled (contents : Contents Object) (result : Except Failure (Contents Object × ProjectionAnswer Object)) :
    Except Failure (ProjectionAnswer Object) × Contents Object :=
  match result with
  | .ok (after,answer) => (.ok answer,after)
  | .error failure => (.error failure,contents)

/-- A call on the store itself: its answer and what the tables hold afterwards. -/
def perform (store : SqlStore Object) (contents : Contents Object) (call : ProjectionCall Object) :
    Except Failure (ProjectionAnswer Object) × Contents Object :=
  match call.operation with
  | .get docId => ((store.get contents call.collection docId).map .row,contents)
  | .getBatch docIds => ((store.getBatch contents call.collection docIds).map .rows,contents)
  | .find filterDict limit offset => ((store.find contents call.collection filterDict limit offset).map .found,contents)
  | .upsert docId data eventPosition eventId => settled contents
    ((store.upsert (store.get contents call.collection) contents call.uow call.collection docId data eventPosition
      eventId).map fun result => (result.1,.upserted result.2))
  | .upsertBatch docs idField => settled contents ((store.upsertBatch contents call.collection docs idField).map (·,.none))
  | .delete docId => settled contents ((store.delete contents call.collection docId).map (·,.none))

end SqlStore

end CqrsDdd.Projections
