import CqrsDdd.Noninterference
import CqrsDdd.Projections.TenantRows

/-! Projections of several tenants in the tables of one store. The mixin puts the tenant into the
document id: a text gets a prefix, an integer becomes a composite key, and a composite one
gets a column more. The prefix is known to the lookups but not to the rows. -/
namespace CqrsDdd.Projections

open Messaging Attempts SQLAlchemyProjectionStore UniqueRows

variable {Object : Type}

theorem set_nonempty (record : Record Object) (column : String) (value : Value Object) :
    (record.set column value).entries ≠ [] := by
  intro none
  have there := record.get_set_same column value
  rw [Dict.get,none] at there
  cases there

namespace MultitenantProjectionMixin

def tenantDocId (tenant : String) : DocId Object → DocId Object
  | .text id => .text (tenant ++ ":" ++ id)
  | .number id => .composite ((labelled tenant Dict.empty).set "id" (.number id)) (set_nonempty _ _ _)
  | .composite fields _ => .composite (labelled tenant fields) (set_nonempty _ _ _)

/-- The argument afterwards: a dict is changed in its place. -/
def docIdAfter (tenant : String) : DocId Object → DocId Object
  | .composite fields nonempty => tenantDocId tenant (.composite fields nonempty)
  | simple => simple

def tenantData (tenant : String) : Document Object → Document Object
  | .dict record => .dict (labelled tenant record)
  | .model python _ => .dict (labelled tenant python)
  | .other object items => .other object items

def dataAfter (tenant : String) : Document Object → Document Object
  | .dict record => .dict (labelled tenant record)
  | data => data

def tenantDoc (tenant : String) : Document Object → Document Object
  | .dict record => .dict (labelled tenant record)
  | .model python _ => .dict (labelled tenant python)
  | .other object _ => .dict (labelled tenant (Dict.empty.set "data" (.other object)))

/-- A batch of lookups ends with the first that raises. -/
def docIdsAfter {Answer : Type} (tenant : String) (read : DocId Object → Except Failure Answer) :
    List (DocId Object) → List (DocId Object)
  | [] => []
  | docId::rest => docIdAfter tenant docId::
    match read docId with
    | .ok _ => docIdsAfter tenant read rest
    | .error _ => rest

variable [DecidableEq Object]

def get (store : SqlStore Object) (tenant : String) (contents : Contents Object) (collection : String)
    (docId : DocId Object) : Except Failure (Option (Record Object)) :=
  (store.get contents collection (tenantDocId tenant docId)).map fun result => result.filter (carries tenant)

def getBatch (store : SqlStore Object) (tenant : String) (contents : Contents Object) (collection : String)
    (docIds : List (DocId Object)) : Except Failure (List (Option (Record Object))) :=
  docIds.mapM (get store tenant contents collection)

def find (store : SqlStore Object) (tenant : String) (contents : Contents Object) (collection : String)
    (filterDict : Record Object) (limit offset : Nat) : Except Failure (Rows Object) :=
  store.find contents collection (labelled tenant filterDict) limit offset

def upsert (store : SqlStore Object) (tenant : String) (contents : Contents Object) (uow : Bool) (collection : String)
    (docId : DocId Object) (data : Document Object) (eventPosition : Option Int) (eventId : Option String) :
    Except Failure (Contents Object × Bool) :=
  store.upsert (get store tenant contents collection) contents uow collection (tenantDocId tenant docId)
    (tenantData tenant data) eventPosition eventId

def upsertBatch (store : SqlStore Object) (tenant : String) (contents : Contents Object) (collection : String)
    (docs : List (Document Object)) (idField : String) : Except Failure (Contents Object) :=
  store.upsertBatch contents collection (docs.map (tenantDoc tenant)) idField

def delete (store : SqlStore Object) (tenant : String) (contents : Contents Object) (collection : String)
    (docId : DocId Object) : Except Failure (Contents Object) :=
  store.delete contents collection (tenantDocId tenant docId)

/-- A call in the context of its tenant. -/
def perform (store : SqlStore Object) (tenant : String) (contents : Contents Object) (call : ProjectionCall Object) :
    Except Failure (ProjectionAnswer Object) × Contents Object :=
  match call.operation with
  | .get docId => ((get store tenant contents call.collection docId).map .row,contents)
  | .getBatch docIds => ((getBatch store tenant contents call.collection docIds).map .rows,contents)
  | .find filterDict limit offset =>
    ((find store tenant contents call.collection filterDict limit offset).map .found,contents)
  | .upsert docId data eventPosition eventId => SqlStore.settled contents
    ((upsert store tenant contents call.uow call.collection docId data eventPosition eventId).map
      fun result => (result.1,.upserted result.2))
  | .upsertBatch docs idField =>
    SqlStore.settled contents ((upsertBatch store tenant contents call.collection docs idField).map (·,.none))
  | .delete docId => SqlStore.settled contents ((delete store tenant contents call.collection docId).map (·,.none))

def argumentsAfter (store : SqlStore Object) (tenant : String) (contents : Contents Object)
    (call : ProjectionCall Object) : ProjectionOperation Object :=
  match call.operation with
  | .get docId => .get (docIdAfter tenant docId)
  | .getBatch docIds => .getBatch (docIdsAfter tenant (get store tenant contents call.collection) docIds)
  | .find filterDict limit offset => .find filterDict limit offset
  | .upsert docId data eventPosition eventId =>
    .upsert (docIdAfter tenant docId) (dataAfter tenant data) eventPosition eventId
  | .upsertBatch docs idField => .upsertBatch docs idField
  | .delete docId => .delete (docIdAfter tenant docId)

end MultitenantProjectionMixin

structure TenantCall (Object : Type) where
  tenant : String
  call : ProjectionCall Object

/-- The store that the tenants share and the unique indexes of the tables that one of them has alone; apart from
`tenant_id`, which is a column of every table, the indexes of both have the same columns. -/
structure TenantDeployment (Object : Type) where
  store : SqlStore Object
  unique : String → List (List String)
  has_tenant : ∀ name table, store.tables name = some table → "tenant_id" ∈ table.columns
  same_indexes : ∀ name table, store.tables name = some table → SameIndexes table.unique (unique name)

/-- The plain store of a tenant that is alone. -/
def TenantDeployment.plain (deployment : TenantDeployment Object) : SqlStore Object :=
  { deployment.store with tables := fun name => (deployment.store.tables name).map (·.indexed (deployment.unique name)) }

/-- A document with the tenant in it. -/
def Document.labelled (tenant : String) : Document Object → Document Object
  | .dict record => .dict (Projections.labelled tenant record)
  | .model python json => .model (Projections.labelled tenant python) (Projections.labelled tenant json)
  | .other object items => .other object items

/-- The call that the tenant makes where it is alone: its documents carry it as they do for the mixin. -/
def ProjectionOperation.labelled (tenant : String) : ProjectionOperation Object → ProjectionOperation Object
  | .upsert docId data eventPosition eventId => .upsert docId (data.labelled tenant) eventPosition eventId
  | .upsertBatch docs idField => .upsertBatch (docs.map (Document.labelled tenant)) idField
  | operation => operation

namespace TenantCall

variable [DecidableEq Object] (deployment : TenantDeployment Object)

def step (contents : Contents Object) (call : TenantCall Object) : Contents Object :=
  (MultitenantProjectionMixin.perform deployment.store call.tenant contents call.call).2

def answer (contents : Contents Object) (call : TenantCall Object) : Except Failure (ProjectionAnswer Object) :=
  (MultitenantProjectionMixin.perform deployment.store call.tenant contents call.call).1

def alone (call : TenantCall Object) : ProjectionCall Object :=
  { call.call with operation := call.call.operation.labelled call.tenant }

def stepAlone (contents : Contents Object) (call : TenantCall Object) : Contents Object :=
  (deployment.plain.perform contents call.alone).2

def answerAlone (contents : Contents Object) (call : TenantCall Object) : Except Failure (ProjectionAnswer Object) :=
  (deployment.plain.perform contents call.alone).1

def empty : Contents Object := fun _ => []

/-- Each tenant is answered as if it were alone on a plain store, and no call changes its arguments. -/
structure SeparateStores (calls : List (TenantCall Object)) : Prop where
  alone : ∀ tenant : String,
    (Noninterference.answers (step deployment) (answer deployment) empty calls).filter
        (fun entry => entry.1.tenant = tenant) =
      Noninterference.answers (stepAlone deployment) (answerAlone deployment) empty
        (calls.filter fun call => call.tenant = tenant)
  unchanged : ∀ earlier call, earlier ++ [call] <+: calls →
    MultitenantProjectionMixin.argumentsAfter deployment.store call.tenant
      (Transition.run (step deployment) empty earlier) call.call = call.call.operation

def share (tenant : String) (contents : Contents Object) : Contents Object :=
  fun name => (contents name).filter (carries tenant)

/-- The tenant finds the same rows under its key and the one that the mixin makes of it. -/
def SameKey (tenant : String) (rows : Rows Object) : DocId Object → Prop
  | .text id => ∀ row ∈ rows, carries tenant row = true →
    row.get (columnOf deployment.store.defaultIdColumn) ≠ some (.text id) ∧
      row.get (columnOf deployment.store.defaultIdColumn) ≠ some (.text (tenant ++ ":" ++ id))
  | .number _ => deployment.store.defaultIdColumn = "id"
  | .composite fields _ => fields.get "tenant_id" = some (.text tenant)

/-- A document whose dumps are the same. -/
def Uniform : Document Object → Prop
  | .dict _ => True
  | .model python json => python = json
  | .other _ _ => False

/-- What an upsert looks at first tells it the same: for a text the key gets the prefix twice. -/
def Checked (tenant : String) (contents : Contents Object) (collection : String) (eventPosition : Option Int)
    (eventId : Option String) : DocId Object → Prop
  | .text id => SqlStore.shouldSkipUpsert (MultitenantProjectionMixin.get deployment.store tenant contents collection
        (MultitenantProjectionMixin.tenantDocId tenant (.text id))) eventPosition eventId =
      SqlStore.shouldSkipUpsert (deployment.plain.get (share tenant contents) collection (.text id)) eventPosition eventId
  | .number _ => deployment.store.defaultIdColumn = "id"
  | .composite fields _ => fields.get "tenant_id" = some (.text tenant)

/-- The columns that the mixin's upsert of a document writes. -/
def columns (tenant : String) (docId : DocId Object) (record : Record Object) (eventPosition : Option Int)
    (eventId : Option String) : Record Object :=
  addEventMetadata (prepareUpsertData (MultitenantProjectionMixin.tenantDocId tenant docId) (labelled tenant record))
    eventPosition eventId

/-- A document under an integer has it as its id, and something to update. -/
def Numbered (record data : Record Object) : DocId Object → Prop
  | .number id => record.get "id" = some (.number id) ∧ updateColumns ["tenant_id","id"] data ≠ []
  | _ => True

structure UpsertConfined (tenant : String) (contents : Contents Object) (collection : String) (docId : DocId Object)
    (data : Document Object) (eventPosition : Option Int) (eventId : Option String) : Prop where
  uniform : Uniform data
  carried : ∀ record, data = .dict record → record.get "tenant_id" = some (.text tenant)
  checked : Checked deployment tenant contents collection eventPosition eventId docId
  inserted : SqlStore.shouldSkipUpsert (deployment.plain.get (share tenant contents) collection docId) eventPosition
      eventId = .ok false → ∀ record, data.asDict = .ok record →
    Numbered record (columns tenant docId record eventPosition eventId) docId ∧
      ∀ table, deployment.store.tables (columnOf collection) = some table →
        Inserts table (deployment.unique (columnOf collection)) tenant
          ((deployment.store.conflictColumns (MultitenantProjectionMixin.tenantDocId tenant docId)).map columnOf)
          ((updateColumns (deployment.store.conflictColumns (MultitenantProjectionMixin.tenantDocId tenant docId))
            (columns tenant docId record eventPosition eventId)).map Prod.fst)
          ((deployment.store.conflictColumns docId).map columnOf) [columns tenant docId record eventPosition eventId]
          (contents (columnOf collection))

/-- One query answers a batch of simple keys as a query for each would. -/
structure BatchConfined (tenant : String) (contents : Contents Object) (collection : String)
    (docIds : List (DocId Object)) : Prop where
  keys : ∀ docId ∈ docIds, SameKey deployment tenant (contents (columnOf collection)) docId
  named : docIds = [] → isIdentifier collection = true
  column : isIdentifier deployment.store.defaultIdColumn = true
  single : ∀ ids, docIds.mapM simpleId = some ids →
    (∀ table, deployment.store.tables (columnOf collection) = some table →
      table.database.takesParameters ids.length = true) ∧
    ∀ first ∈ contents (columnOf collection), ∀ second ∈ contents (columnOf collection),
      carries tenant first = true → carries tenant second = true → ∀ id ∈ ids,
        first.get (columnOf deployment.store.defaultIdColumn) = some id →
        second.get (columnOf deployment.store.defaultIdColumn) = some id → first = second

/-- The call stays in the rows of its tenant, and its key is the one that it would have in a plain store. -/
def Confined (contents : Contents Object) (call : TenantCall Object) : Prop :=
  let collection := call.call.collection
  let rows := contents (columnOf collection)
  match call.call.operation with
  | .get docId => SameKey deployment call.tenant rows docId
  | .getBatch docIds => BatchConfined deployment call.tenant contents collection docIds
  | .find filterDict _ _ => ∀ value, filterDict.get "tenant_id" = some value → value = .text call.tenant
  | .upsert docId data eventPosition eventId =>
    UpsertConfined deployment call.tenant contents collection docId data eventPosition eventId
  | .upsertBatch docs idField => (∀ doc ∈ docs, Uniform doc) ∧
    ∀ normalized, (docs.map (MultitenantProjectionMixin.tenantDoc call.tenant)).mapM Document.asDict = .ok normalized →
      ∀ table, deployment.store.tables (columnOf collection) = some table →
        ∀ fresh, (batchStatement idField normalized).placeholders.mapM
            (valuesRow (batchParams normalized) (batchStatement idField normalized).columns) = .ok fresh →
          Inserts table (deployment.unique (columnOf collection)) call.tenant [columnOf idField]
            (batchStatement idField normalized).updates [columnOf idField] fresh rows
  | .delete docId => SameKey deployment call.tenant rows docId ∧ ∀ id, docId = .text id → ∀ row ∈ rows,
    row.get (columnOf deployment.store.defaultIdColumn) ≠ some (.text (call.tenant ++ ":" ++ id))

end TenantCall

end CqrsDdd.Projections
