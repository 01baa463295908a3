import CqrsDdd.Projections.InitializationOrder

/-! Projection schemas as JSON. What the encoder writes of a column is more than the decoder
reads: a default is written and not restored, and the decoder knows three column types. -/
namespace CqrsDdd.Projections.SchemaJson

/-- A type object of SQLAlchemy; any other than the three is known by the name of its class. -/
inductive ColumnType
  | string (length : Option Nat)
  | integer
  | dateTime (timezone : Bool)
  | other (className : String)
  deriving DecidableEq, Repr

def ColumnType.className : ColumnType → String
  | string _ => "String"
  | integer => "Integer"
  | dateTime _ => "DateTime"
  | other className => className

/-- `default` is the text of the default object, which the encoder takes by `str`. -/
structure Column where
  name : String
  type : ColumnType
  primaryKey : Bool
  nullable : Bool
  default : Option String
  serverDefault : Option String
  deriving DecidableEq, Repr

structure Relationship extends ProjectionRelationship where
  foreignKey : Option String
  backPopulates : Option String
  cascade : Bool

/-- The indexes are dictionaries that neither direction looks into. -/
structure Schema (Index : Type) where
  name : String
  columns : List Column
  relationships : List Relationship
  indexes : List Index
  srid : Int

/-- The objects of the JSON text, whose keys may all be missing. -/
structure ColumnData where
  name : Option String
  type : Option String
  primaryKey : Option Bool
  nullable : Option Bool
  default : Option (Option String)
  deriving DecidableEq

structure RelationshipData where
  name : Option String
  type : Option String
  targetSchema : Option String
  foreignKey : Option (Option String)
  backPopulates : Option (Option String)
  cascade : Option Bool
  deriving DecidableEq

structure SchemaData (Index : Type) where
  name : Option String
  columns : Option (List ColumnData)
  relationships : Option (List RelationshipData)
  indexes : Option (List Index)
  srid : Option Int

inductive DecodeError
  | keyError (key : String)
  | valueError (value : String)
  deriving DecidableEq, Repr

/-- `data[key]`. -/
def required {Value : Type} (key : String) : Option Value → Except DecodeError Value
  | some value => .ok value
  | none => .error (.keyError key)

def relationshipValue : RelationshipType → String
  | .oneToMany => "one_to_many"
  | .manyToOne => "many_to_one"
  | .manyToMany => "many_to_many"

/-- `RelationshipType(value)`. -/
def relationshipOfValue (value : String) : Except DecodeError RelationshipType :=
  if value = "one_to_many" then .ok .oneToMany
  else if value = "many_to_one" then .ok .manyToOne
  else if value = "many_to_many" then .ok .manyToMany
  else .error (.valueError value)

def columnFromJson (colData : ColumnData) : Except DecodeError Column := do
  let name ← required "name" colData.name
  let typeName := colData.type.getD "String"
  let primaryKey := colData.primaryKey.getD false
  let nullable := colData.nullable.getD true
  if typeName = "String" then return ⟨name,.string (some 255),primaryKey,nullable,none,none⟩
  if typeName = "Integer" then return ⟨name,.integer,primaryKey,nullable,none,none⟩
  if typeName = "DateTime" then return ⟨name,.dateTime true,primaryKey,nullable,none,some "now()"⟩
  return ⟨name,.string (some 255),primaryKey,nullable,none,none⟩

def relationshipFromJson (data : RelationshipData) : Except DecodeError Relationship := do
  let name ← required "name" data.name
  let type ← required "type" data.type >>= relationshipOfValue
  let targetSchema ← required "target_schema" data.targetSchema
  return ⟨⟨name,type,targetSchema⟩,data.foreignKey.getD none,data.backPopulates.getD none,data.cascade.getD false⟩

def columnToJson (column : Column) : ColumnData :=
  ⟨some column.name,some column.type.className,some column.primaryKey,some column.nullable,some column.default⟩

def relationshipToJson (rel : Relationship) : RelationshipData :=
  ⟨some rel.name,some (relationshipValue rel.type),some rel.targetSchema,some rel.foreignKey,some rel.backPopulates,
    some rel.cascade⟩

variable {Index : Type}

def toJson (schema : Schema Index) : SchemaData Index :=
  ⟨some schema.name,some (schema.columns.map columnToJson),some (schema.relationships.map relationshipToJson),
    some schema.indexes,some schema.srid⟩

def fromJson (data : SchemaData Index) : Except DecodeError (Schema Index) := do
  let name ← required "name" data.name
  let columns ← (data.columns.getD []).mapM columnFromJson
  let relationships ← (data.relationships.getD []).mapM relationshipFromJson
  return ⟨name,columns,relationships,data.indexes.getD [],data.srid.getD 4326⟩

/-- The columns that `create_schema` adds to every schema. -/
def projectionVersionColumns : List Column :=
  [⟨"_version",.integer,false,false,some "ScalarElementColumnDefault(0)",none⟩,
    ⟨"_last_event_id",.string (some 255),false,true,none,none⟩,
    ⟨"_last_event_position",.integer,false,true,none,none⟩,
    ⟨"_updated_at",.dateTime false,false,true,none,some "now()"⟩]

def createSchema (name : String) (columns : List Column) (relationships : Option (List Relationship))
    (indexes : Option (List Index)) (srid : Int) : Schema Index :=
  ⟨name,columns ++ projectionVersionColumns,relationships.getD [],indexes.getD [],srid⟩

def known : List String := ["String","Integer","DateTime"]

/-- What the decoder makes of a column that was written. -/
def Column.restored (column : Column) : Column :=
  {column with
    type := if column.type.className = "Integer" then .integer
      else if column.type.className = "DateTime" then .dateTime true else .string (some 255)
    default := none
    serverDefault := if column.type.className = "DateTime" then some "now()" else none}

def Schema.restored (schema : Schema Index) : Schema Index :=
  {schema with columns := schema.columns.map Column.restored}

theorem columnFromJson_toJson (column : Column) : columnFromJson (columnToJson column) = .ok column.restored := by
  obtain ⟨name,type,primaryKey,nullable,default,serverDefault⟩ := column
  cases type with
  | string length => exact rfl
  | integer => exact rfl
  | dateTime timezone => exact rfl
  | other className =>
    -- A class of another kind may still have one of the three names.
    by_cases text : className = "String"
    · subst text
      exact rfl
    by_cases whole : className = "Integer"
    · subst whole
      exact rfl
    by_cases time : className = "DateTime"
    · subst time
      exact rfl
    · simp [columnFromJson,columnToJson,Column.restored,ColumnType.className,required,bind,Except.bind,
        text,whole,time]
      exact rfl

theorem relationshipFromJson_toJson (rel : Relationship) : relationshipFromJson (relationshipToJson rel) = .ok rel := by
  obtain ⟨⟨name,type,targetSchema⟩,foreignKey,backPopulates,cascade⟩ := rel
  cases type with
  | oneToMany => exact rfl
  | manyToOne => exact rfl
  | manyToMany => exact rfl

theorem mapM_encoded {Value Encoded Restored : Type} {encode : Value → Encoded}
    {decode : Encoded → Except DecodeError Restored} (restore : Value → Restored)
    (each : ∀ value, decode (encode value) = .ok (restore value)) (values : List Value) :
    (values.map encode).mapM decode = .ok (values.map restore) := by
  induction values with
  | nil => exact rfl
  | cons value rest ih =>
    rw [List.map_cons,List.mapM_cons,each,ih]
    exact rfl

theorem fromJson_toJson (schema : Schema Index) : fromJson (toJson schema) = .ok schema.restored := by
  have columns := mapM_encoded Column.restored columnFromJson_toJson schema.columns
  have relationships := mapM_encoded id relationshipFromJson_toJson schema.relationships
  rw [List.map_id] at relationships
  simp only [fromJson,toJson,required,Option.getD_some,bind,Except.bind]
  rw [columns,relationships]
  exact rfl

theorem restored_className (column : Column) :
    column.restored.type.className = column.type.className ↔ column.type.className ∈ known := by
  constructor
  · intro kept
    rw [← kept]
    unfold Column.restored
    dsimp only
    split
    next => decide
    next =>
      split
      next => decide
      next => decide
  · intro member
    rcases List.mem_cons.mp member with text | others
    · simp [Column.restored,text]
      exact rfl
    rcases List.mem_cons.mp others with whole | last
    · simp [Column.restored,whole]
      exact rfl
    · simp [Column.restored,List.mem_singleton.mp last]
      exact rfl

theorem columnToJson_restored (column : Column) :
    columnToJson column.restored = columnToJson column ↔ column.default = none ∧ column.type.className ∈ known := by
  rw [← restored_className]
  constructor
  · intro same
    exact ⟨(Option.some.inj (congrArg ColumnData.default same)).symm,Option.some.inj (congrArg ColumnData.type same)⟩
  · rintro ⟨undefaulted,kept⟩
    unfold columnToJson
    rw [kept,undefaulted]
    exact rfl

/-- Reading what was written always succeeds and keeps names, order, keys, nullability, relationships
and indexes; it is written the same again exactly when no column has a default and each has one of the
types that the decoder knows. -/
theorem schema_restored (schema : Schema Index) :
    ∃ restored, fromJson (toJson schema) = .ok restored ∧
      (restored.name = schema.name ∧ restored.relationships = schema.relationships ∧
        restored.indexes = schema.indexes ∧ restored.srid = schema.srid ∧
        restored.columns.map (fun column => (column.name,column.primaryKey,column.nullable)) =
          schema.columns.map fun column => (column.name,column.primaryKey,column.nullable)) ∧
      (toJson restored = toJson schema ↔
        ∀ column ∈ schema.columns, column.default = none ∧ column.type.className ∈ known) := by
  refine ⟨schema.restored,fromJson_toJson schema,⟨rfl,rfl,rfl,rfl,?_⟩,?_⟩
  · rw [Schema.restored,List.map_map]
    exact rfl
  have columns : toJson schema.restored = toJson schema ↔
      schema.columns.map (fun column => columnToJson column.restored) = schema.columns.map columnToJson := by
    simp only [toJson,Schema.restored,List.map_map,SchemaData.mk.injEq,Option.some.injEq,and_true,true_and]
    exact Iff.rfl
  rw [columns,List.map_inj_left]
  exact forall₂_congr fun column _ => columnToJson_restored column

def orders : Schema Unit := createSchema "orders" [⟨"id",.string (some 255),true,false,none,none⟩] none none 4326

theorem orders_drift : ¬ ∃ restored, fromJson (toJson orders) = .ok restored ∧ toJson restored = toJson orders := by
  rintro ⟨restored,read,kept⟩
  rw [fromJson_toJson] at read
  cases read
  have columns := congrArg (fun data : SchemaData Unit => data.columns.map fun list => list.map ColumnData.default) kept
  revert columns
  decide

end CqrsDdd.Projections.SchemaJson
