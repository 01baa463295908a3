import CqrsDdd.Messaging.Envelope
import CqrsDdd.Transition

/-! The upserts of the two projection stores. A row or a document is a dictionary
whose `_version`, `_last_event_id` and `_last_event_position` tell the event it
reflects; an upsert is skipped where the event has been seen or is stale. -/
namespace CqrsDdd.Projections

open Messaging

variable {Object : Type}

abbrev Record (Object : Type) := Dict String (Value Object)

/-- A simple key is a text or a number, a composite one has at least a field. -/
inductive DocId (Object : Type)
  | text (id : String)
  | number (id : Int)
  | composite (fields : Record Object) (nonempty : fields.entries ≠ [])

/-- The keyword arguments of `upsert`. -/
structure Upsert (Object : Type) where
  data : Record Object
  eventPosition : Option Int
  eventId : Option String

structure EventUpsert (Object : Type) where
  data : Record Object
  eventPosition : Int
  eventId : String

def EventUpsert.call (upsert : EventUpsert Object) : Upsert Object :=
  ⟨upsert.data,some upsert.eventPosition,some upsert.eventId⟩

inductive Failure
  | invalidIdentifier (context name : String)
  | rejected
  | typeError
  deriving DecidableEq, Repr

/-- `existing.get("_version", 0) >= event_position`; only a number can be compared. -/
def atLeast (existing : Record Object) (eventPosition : Int) : Except Failure Bool :=
  match existing.get "_version" with
  | none => .ok (eventPosition ≤ 0)
  | some (.number version) => .ok (eventPosition ≤ version)
  | some _ => .error .typeError

def lastEventIs (existing : Record Object) (eventId : String) : Bool :=
  match existing.get "_last_event_id" with
  | some (.text content) => content = eventId
  | _ => false

namespace SQLAlchemyProjectionStore

/-- The store and the database behind it: whether an INSERT of these columns is taken, that is, the
columns exist, the values fit and the conflict target is a key. -/
structure Store (Object : Type) where
  defaultIdColumn : String
  accepts : Record Object → Bool

/-- The pattern `^[a-zA-Z_][a-zA-Z0-9_]*$`; its end may stand before a final newline. -/
def isIdentifier (name : String) : Bool :=
  let first := fun char : Char => char.isAlpha || char = '_'
  let later := fun char : Char => char.isAlphanum || char = '_'
  match name.toList with
  | [] => false
  | char::rest => first char && (rest.all later || (rest.getLast? = some '\n' && rest.dropLast.all later))

def validateIdentifier (context name : String) : Except Failure Unit :=
  if isIdentifier name then .ok () else .error (.invalidIdentifier context name)

def keyFields (store : Store Object) : DocId Object → List (String × Value Object)
  | .text id => [(store.defaultIdColumn,.text id)]
  | .number id => [(store.defaultIdColumn,.number id)]
  | .composite fields _ => fields.entries

/-- The conflict columns of `_where_from_doc_id`. -/
def whereFromDocId (store : Store Object) (docId : DocId Object) : Except Failure (List String) := do
  let columns := (keyFields store docId).map Prod.fst
  columns.forM (validateIdentifier "column name")
  return columns

def get (store : Store Object) (docId : DocId Object) (row : Option (Record Object)) :
    Except Failure (Option (Record Object)) := do
  let _ ← whereFromDocId store docId
  return row

def prepareUpsertData (docId : DocId Object) (data : Record Object) : Record Object :=
  match docId with
  | .composite fields _ => data.update fields
  | _ => data

def shouldSkipStaleEvent (store : Store Object) (docId : DocId Object) (row : Option (Record Object))
    (eventPosition : Int) : Except Failure Bool := do
  match ← get store docId row with
  | none => return false
  | some existing => atLeast existing eventPosition

def isDuplicate (store : Store Object) (docId : DocId Object) (row : Option (Record Object)) :
    Option String → Except Failure Bool
  | none | some "" => return false
  | some eventId => do
    let existing ← get store docId row
    return existing.any (lastEventIs · eventId)

def shouldSkipUpsert (store : Store Object) (docId : DocId Object) (row : Option (Record Object))
    (call : Upsert Object) : Except Failure Bool := do
  if ← isDuplicate store docId row call.eventId then return true
  match call.eventPosition with
  | none => return false
  | some eventPosition => shouldSkipStaleEvent store docId row eventPosition

def addEventMetadata (data : Record Object) (eventPosition : Option Int) (eventId : Option String) : Record Object :=
  let data := eventPosition.elim data fun position => data.set "_version" (.number position)
  let data := eventId.elim data fun id => data.set "_last_event_id" (.text id)
  eventPosition.elim data fun position => data.set "_last_event_position" (.number position)

def excludeFromUpdate : List String := ["_version","_last_event_id","_last_event_position"]

def updateColumns (conflictColumns : List String) (data : Record Object) : List (String × Value Object) :=
  data.entries.filter fun entry => entry.1 ∉ conflictColumns ∧ entry.1 ∉ excludeFromUpdate

/-- The row of the key after the statement. Without a column to update the statement is not valid
SQL; a row whose data have another key, or none, is not the one of this key. -/
def upsertImpl [DecidableEq Object] (store : Store Object) (docId : DocId Object) (row : Option (Record Object))
    (data : Record Object) : Except Failure (Option (Record Object)) := do
  data.keys.forM (validateIdentifier "column name")
  let conflictColumns ← whereFromDocId store docId
  if (updateColumns conflictColumns data).isEmpty || !store.accepts data then throw .rejected
  if (keyFields store docId).all fun entry => data.get entry.1 = some entry.2 then
    return some (row.elim data fun existing =>
      (updateColumns conflictColumns data).foldl (fun updated entry => updated.set entry.1 entry.2) existing)
  else return row

/-- The row of the key and the answer of `upsert`. -/
def upsert [DecidableEq Object] (store : Store Object) (collection : String) (docId : DocId Object)
    (row : Option (Record Object)) (call : Upsert Object) : Except Failure (Option (Record Object) × Bool) := do
  validateIdentifier "table name" collection
  let data := prepareUpsertData docId call.data
  if ← shouldSkipUpsert store docId row call then return (row,false)
  let stored ← upsertImpl store docId row (addEventMetadata data call.eventPosition call.eventId)
  return (stored,true)

end SQLAlchemyProjectionStore

namespace MongoProjectionStore

/-- `id_field` is none of the names the store itself writes. -/
structure Store where
  idField : String
  plain : idField ∉ ["_id","_version","_last_event_id","_last_event_position"]

def normalizeDocId : DocId Object → Record Object
  | .text id => Dict.empty.set "_id" (.text id)
  | .number id => Dict.empty.set "_id" (.number id)
  | .composite fields _ => fields

/-- The filter of `upsert`: an `id` stands for a missing `_id`. -/
def filterDoc (docId : DocId Object) : Record Object :=
  let filter := normalizeDocId docId
  match filter.get "_id",filter.get "id" with
  | none,some id => filter.set "_id" id
  | _,_ => filter

/-- A document matches where it has each field of the filter; a null also matches a missing field. -/
def selects [DecidableEq Object] (filter document : Record Object) : Bool :=
  filter.entries.all fun entry =>
    document.get entry.1 = some entry.2 || (entry.2 = .null && document.get entry.1 = none)

/-- The first part of `_normalize_id_field`: where the `_id` of the document comes from. -/
def assignId (store : Store) (data filter : Record Object) : Record Object :=
  match data.get "_id",filter.get "_id" with
  | some _,_ => data
  | none,some id => data.set "_id" id
  | none,none =>
    match data.get store.idField,data.get "id" with
    | some id,_ => (data.erase store.idField).set "_id" id
    | none,some id => data.set "_id" id
    | none,none => data

/-- The field that was the source of the `_id` is dropped. -/
def normalizeIdField (store : Store) (data filter : Record Object) : Record Object :=
  let data := assignId store data filter
  match data.get store.idField,data.get "_id" with
  | none,_ | some _,none | some _,some .null => data
  | some _,some _ => data.erase store.idField

def isDuplicateEvent (documents : List (Record Object)) : Option String → Bool
  | none | some "" => false
  | some eventId => documents.any (lastEventIs · eventId)

def shouldSkipStaleEvent [DecidableEq Object] (documents : List (Record Object)) (filter : Record Object)
    (eventPosition : Int) : Except Failure Bool :=
  match documents.find? (selects filter) with
  | none => .ok false
  | some existing => atLeast existing eventPosition

def replaceFirst (selected : Record Object → Bool) (document : Record Object) :
    List (Record Object) → List (Record Object)
  | [] => []
  | first::rest => if selected first then document::rest else first::replaceFirst selected document rest

/-- `replace_one(.., upsert=True)`. The `_id` of a document never changes and is unique; a
document without one of its own keeps the one it replaces, or gets a new one that is not recorded. -/
def replaceOne [DecidableEq Object] (documents : List (Record Object)) (filter data : Record Object) :
    Except Failure (List (Record Object)) :=
  match documents.find? (selects filter) with
  | some existing =>
    match data.get "_id",existing.get "_id" with
    | none,some id => .ok (replaceFirst (selects filter) (data.set "_id" id) documents)
    | none,none => .ok (replaceFirst (selects filter) data documents)
    | some id,other => if other = some id then .ok (replaceFirst (selects filter) data documents) else .error .rejected
  | none =>
    match data.get "_id" with
    | none => .ok (documents ++ [data])
    | some id => if documents.any fun other => other.get "_id" = some id then .error .rejected else .ok (documents ++ [data])

def replacement (store : Store) (docId : DocId Object) (call : Upsert Object) : Record Object :=
  let data := match call.eventPosition with
    | none => call.data
    | some position => ((call.data.set "_version" (.number position)).set "_last_event_id"
        (Value.ofText call.eventId)).set "_last_event_position" (.number position)
  normalizeIdField store data (filterDoc docId)

def isStale [DecidableEq Object] (documents : List (Record Object)) (docId : DocId Object) :
    Option Int → Except Failure Bool
  | none => .ok false
  | some eventPosition => shouldSkipStaleEvent documents (filterDoc docId) eventPosition

/-- The documents of the collection and the answer of `upsert`. -/
def upsert [DecidableEq Object] (store : Store) (documents : List (Record Object)) (docId : DocId Object)
    (call : Upsert Object) : Except Failure (List (Record Object) × Bool) := do
  if isDuplicateEvent documents call.eventId then return (documents,false)
  if ← isStale documents docId call.eventPosition then return (documents,false)
  let replaced ← replaceOne documents (filterDoc docId) (replacement store docId call)
  return (replaced,true)

end MongoProjectionStore

end CqrsDdd.Projections
