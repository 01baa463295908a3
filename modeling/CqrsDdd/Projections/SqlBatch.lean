import CqrsDdd.KeyedRows
import CqrsDdd.Projections.SqlRows
import Std.Data.String.ToNat

/-! The batch upsert of the SQL projection store. The columns and the placeholders are those of
the first document, the parameters those of every document, and one statement carries
all of them. -/
namespace CqrsDdd.Projections

open Messaging Attempts KeyedRows

theorem get_update {Object : Type} (dict others : Record Object) (key : String) :
    (dict.update others).get key = (others.get key).or (dict.get key) := by
  cases there : others.get key with
  | none => exact Dict.get_update_other dict others there
  | some value =>
    have member := List.mem_reverse.mpr (others.mem_iff_get.mpr there)
    have distinct : (others.entries.reverse.map Prod.fst).Nodup := by
      rw [List.map_reverse,List.nodup_reverse]
      exact others.distinct
    have last := Dict.lookup_of_mem distinct member
    exact (Dict.get_foldl_entries others.entries dict key).trans (congrArg (Option.or · _) last)

namespace SQLAlchemyProjectionStore

variable {Object : Type}

inductive Dialect
  | postgresql | sqlite
  deriving DecidableEq, Repr

/-- The database behind the store: whether it takes a row of these columns and that many parameters, and
the values of the columns that an inserted row leaves out. -/
structure Database (Object : Type) where
  dialect : Dialect
  accepts : (String → Option (Value Object)) → Bool
  takesParameters : Nat → Bool
  defaults : Record Object

def placeholder (column : String) (index : Nat) : String := column ++ "_" ++ index.repr

structure Statement where
  columns : List String
  placeholders : List (List String)
  conflict : String
  updates : List String
  deriving DecidableEq, Repr

def batchStatement (idField : String) (docs : List (Record Object)) : Statement :=
  let columns := (docs.head?.map Dict.keys).getD []
  ⟨columns,docs.zipIdx.map fun entry => columns.map (placeholder · entry.2),idField,
    columns.filter fun column => column ∉ idField::excludeFromUpdate⟩

def batchParams (docs : List (Record Object)) : Dict String (Value Object) :=
  (docs.zipIdx.flatMap fun entry => entry.1.entries.map fun field => (placeholder field.1 entry.2,field.2)).foldl
    (fun params field => params.set field.1 field.2) Dict.empty

/-- Names in the text of a statement: a newline at the end of one is blank space. -/
def columnOf (name : String) : String :=
  if name.toList.getLast? = some '\n' then String.ofList name.toList.dropLast else name

/-- The row of one `VALUES` list; each placeholder needs its parameter. -/
def valuesRow (params : Dict String (Value Object)) (columns placeholders : List String) :
    Except Failure (Record Object) :=
  (columns.zip placeholders).foldlM (fun row field =>
    match params.get field.2 with
    | some value => .ok (row.set field.1 value)
    | none => .error .rejected) Dict.empty

/-- The values of some columns are written over those of a row. -/
def overwrite (values : String → Option (Value Object)) (columns : List String) (row : Record Object) : Record Object :=
  columns.foldl (fun row column => (values column).elim row (row.set column)) row

def idOf (idField : String) (row : Record Object) : Option (Value Object) := row.get (columnOf idField)

theorem columnOf_plain {name : String} (plain : '\n' ∉ name.toList) : columnOf name = name :=
  if_neg fun last => plain (List.mem_of_getLast? last)

variable [DecidableEq Object]

/-- What makes the statement fail for all of its rows. A newline inside of a placeholder ends it, and no
statement of PostgreSQL meets a row twice. -/
def refuses (database : Database Object) (statement : Statement) (rows : List (Record Object)) : Bool :=
  statement.updates.isEmpty || statement.columns.any (·.toList.contains '\n') ||
    !database.takesParameters statement.placeholders.flatten.length ||
    rows.any (fun row => (idOf statement.conflict row).isNone || !database.accepts row.get) ||
    (database.dialect = .postgresql && !decide (rows.map (idOf statement.conflict)).Nodup)

def execute (database : Database Object) (table : List (Record Object)) (statement : Statement)
    (params : Dict String (Value Object)) : Except Failure (List (Record Object)) := do
  let rows ← statement.placeholders.mapM (valuesRow params statement.columns)
  if refuses database statement rows then throw .rejected
  else return rows.foldl (put (idOf statement.conflict)
    (fun stored row => overwrite row.get statement.updates stored) database.defaults.update) table

/-- The rows of the table afterwards; the documents are the dictionaries that were made of them. -/
def upsertBatch (database : Database Object) (collection idField : String) (docs table : List (Record Object)) :
    Except Failure (List (Record Object)) := do
  validateIdentifier "table name" collection
  validateIdentifier "column name" idField
  if docs.isEmpty then return table
  docs.forM fun doc => doc.keys.forM (validateIdentifier "column name")
  execute database table (batchStatement idField docs) (batchParams docs)

def sequential (database : Database Object) (idField : String) (docs table : List (Record Object)) :
    List (Record Object) :=
  docs.foldl (put (idOf idField) (fun stored doc => stored.update doc) database.defaults.update) table

/-- The batch leaves every row as the documents one after the other would, and binds what it uses. -/
def EqualsSequential (database : Database Object) (collection idField : String) (docs table : List (Record Object)) :
    Prop :=
  (∃ after, upsertBatch database collection idField docs table = .ok after ∧
    ∀ id, (found (idOf idField) id after).map Dict.get =
      (found (idOf idField) id (sequential database idField docs table)).map Dict.get) ∧
  ∀ name, name ∈ (batchParams docs).keys ↔ name ∈ (batchStatement idField docs).placeholders.flatten

/-- For each id, the version columns of its last document have the values of the stored row, or
those of its first document where there is none. -/
def KeepsVersions (idField : String) (docs table : List (Record Object)) : Prop :=
  ∀ id last origin, found (idOf idField) id docs.reverse = some last →
    found (idOf idField) id (table ++ docs) = some origin →
    ∀ column ∈ excludeFromUpdate, (last.get column).isSome → origin.get column = last.get column

structure Fits (database : Database Object) (collection idField : String) (first : Record Object)
    (docs table : List (Record Object)) : Prop where
  table_name : isIdentifier collection = true
  id_name : isIdentifier idField = true
  names : ∀ doc ∈ docs, ∀ column ∈ doc.keys, isIdentifier column = true ∧ '\n' ∉ column.toList
  same_keys : ∀ doc ∈ docs, ∀ column, column ∈ doc.keys ↔ column ∈ first.keys
  updated : ∃ column ∈ first.keys, column ∉ idField::excludeFromUpdate
  keyed : ∀ doc ∈ docs, (idOf idField doc).isSome
  parameters : database.takesParameters (docs.length * first.keys.length) = true
  accepted : ∀ doc ∈ docs, database.accepts doc.get = true
  apart : database.dialect = .postgresql → (docs.map (idOf idField)).Nodup
  versions : KeepsVersions idField docs table

omit [DecidableEq Object] in
theorem mem_keys {doc : Record Object} {column : String} : column ∈ doc.keys ↔ (doc.get column).isSome := by
  constructor
  · intro member
    obtain ⟨entry,there,rfl⟩ := List.mem_map.mp member
    rw [doc.mem_iff_get.mp there]
    exact rfl
  · intro present
    obtain ⟨value,there⟩ := Option.isSome_iff_exists.mp present
    exact List.mem_map_of_mem (doc.mem_iff_get.mpr there)

theorem underscore_not_mem_repr (index : Nat) : '_' ∉ index.repr.toList := by
  intro member
  rw [Nat.toList_repr] at member
  have digit := Nat.isDigit_of_mem_toDigits (by decide) (by decide) member
  revert digit
  decide

theorem split_at_underscore {before other digits others : List Char} (plain : '_' ∉ digits) (plains : '_' ∉ others)
    (same : before ++ '_'::digits = other ++ '_'::others) : before = other ∧ digits = others := by
  rcases List.append_eq_append_iff.mp same with ⟨middle,rfl,rest⟩ | ⟨middle,rfl,rest⟩
  · cases middle with
    | nil => exact ⟨(List.append_nil before).symm,(List.cons.inj rest).2⟩
    | cons char more =>
      have inside := (List.cons.inj rest).2
      exact absurd (inside ▸ List.mem_append_right more List.mem_cons_self) plain
  · cases middle with
    | nil => exact ⟨List.append_nil other,(List.cons.inj rest).2.symm⟩
    | cons char more =>
      have inside := (List.cons.inj rest).2
      exact absurd (inside ▸ List.mem_append_right more List.mem_cons_self) plains

theorem placeholder_injective {first second : String} {index other : Nat}
    (same : placeholder first index = placeholder second other) : first = second ∧ index = other := by
  have chars := congrArg String.toList same
  simp only [placeholder,String.toList_append,List.append_assoc] at chars
  obtain ⟨names,digits⟩ := split_at_underscore (underscore_not_mem_repr index) (underscore_not_mem_repr other) chars
  exact ⟨String.toList_inj.mp names,Nat.repr_injective (String.toList_inj.mp digits)⟩

omit [DecidableEq Object] in
theorem mem_batchParams {docs : List (Record Object)} {name : String} {value : Value Object}
    (there : (batchParams docs).get name = some value) :
    ∃ index doc column, docs[index]? = some doc ∧ doc.get column = some value ∧ name = placeholder column index := by
  rw [batchParams,Dict.get_foldl_entries,Dict.get_empty,Option.or_none] at there
  obtain ⟨⟨doc,index⟩,entry,inside⟩ := List.mem_flatMap.mp (List.mem_reverse.mp (Dict.mem_of_lookup there))
  obtain ⟨⟨column,stored⟩,field,same⟩ := List.mem_map.mp inside
  obtain ⟨rfl,rfl⟩ := Prod.mk.inj same
  exact ⟨index,doc,column,List.mk_mem_zipIdx_iff_getElem?.mp entry,doc.mem_iff_get.mp field,rfl⟩

omit [DecidableEq Object] in
theorem batchParams_get (docs : List (Record Object)) (column : String) (index : Nat) :
    (batchParams docs).get (placeholder column index) = docs[index]?.bind (·.get column) := by
  have only : ∀ value, (batchParams docs).get (placeholder column index) = some value →
      docs[index]?.bind (·.get column) = some value := by
    intro value there
    obtain ⟨other,doc,field,entry,stored,same⟩ := mem_batchParams there
    obtain ⟨rfl,rfl⟩ := placeholder_injective same
    rw [entry,Option.bind_some,stored]
  refine Option.ext fun value => ⟨only value,fun stored => ?_⟩
  obtain ⟨doc,entry,own⟩ := Option.bind_eq_some_iff.mp stored
  have member : (placeholder column index,value) ∈ docs.zipIdx.flatMap fun entry =>
      entry.1.entries.map fun field => (placeholder field.1 entry.2,field.2) :=
    List.mem_flatMap.mpr ⟨(doc,index),List.mk_mem_zipIdx_iff_getElem?.mpr entry,
      List.mem_map.mpr ⟨(column,value),doc.mem_iff_get.mpr own,rfl⟩⟩
  cases there : (batchParams docs).get (placeholder column index) with
  | some other => rw [← only other there,stored]
  | none =>
    rw [batchParams,Dict.get_foldl_entries,Dict.get_empty,Option.or_none] at there
    have absent := List.lookup_eq_none_iff.mp there (placeholder column index,value) (List.mem_reverse.mpr member)
    simp at absent

omit [DecidableEq Object] in
theorem overwrite_get (values : String → Option (Value Object)) (columns : List String) (row : Record Object)
    (column : String) :
    (overwrite values columns row).get column =
      if column ∈ columns then (values column).or (row.get column) else row.get column := by
  induction columns generalizing row with
  | nil => exact (if_neg List.not_mem_nil).symm
  | cons first rest ih =>
    have step : ((values first).elim row (row.set first)).get column =
        if column = first then (values column).or (row.get column) else row.get column := by
      by_cases here : column = first
      · subst here
        rw [if_pos rfl]
        cases values column with
        | none => exact rfl
        | some value => exact Dict.get_set_same row column value
      · rw [if_neg here]
        cases values first with
        | none => exact rfl
        | some value => exact Dict.get_set_other row value here
    have next : overwrite values (first::rest) row = overwrite values rest ((values first).elim row (row.set first)) := rfl
    rw [next,ih,step]
    by_cases here : column = first
    · have member : column ∈ first::rest := List.mem_cons.mpr (.inl here)
      rw [if_pos here,if_pos member]
      cases values column <;> simp
    · rw [if_neg here]
      exact if_congr (by rw [List.mem_cons,or_iff_right here]) rfl rfl

def proposed (columns : List String) (doc : Record Object) : Record Object := overwrite doc.get columns Dict.empty

omit [DecidableEq Object] in
theorem valuesRow_ok {params : Dict String (Value Object)} {columns : List String} {name : String → String}
    {values : String → Option (Value Object)} (bound : ∀ column ∈ columns, params.get (name column) = values column)
    {row : Record Object} :
    valuesRow params columns (columns.map name) = .ok row ↔
      (∀ column ∈ columns, (values column).isSome) ∧ row = overwrite values columns Dict.empty := by
  unfold valuesRow overwrite
  generalize (Dict.empty : Record Object) = start
  induction columns generalizing start with
  | nil => exact ⟨fun same => ⟨fun _ member => absurd member List.not_mem_nil,(Except.ok.inj same).symm⟩,
      fun both => congrArg Except.ok both.2.symm⟩
  | cons column rest ih =>
    have later := ih fun other member => bound other (List.mem_cons_of_mem column member)
    rw [List.map_cons,List.zip_cons_cons,List.foldlM_cons,bound column List.mem_cons_self]
    cases there : values column with
    | none =>
      constructor
      · rintro ⟨⟩
      · rintro ⟨all,_⟩
        have present := all column List.mem_cons_self
        rw [there] at present
        cases present
    | some value =>
      refine (later (start.set column value)).trans ?_
      rw [List.forall_mem_cons,there,List.foldl_cons,there]
      exact ⟨fun both => ⟨⟨rfl,both.1⟩,both.2⟩,fun both => ⟨both.1.2,both.2⟩⟩

omit [DecidableEq Object] in
theorem mapM_valuesRow {params : Dict String (Value Object)} {columns : List String}
    {entries : List (Record Object × Nat)}
    (bound : ∀ entry ∈ entries, ∀ column ∈ columns, params.get (placeholder column entry.2) = entry.1.get column)
    {rows : List (Record Object)} :
    (entries.map fun entry => columns.map (placeholder · entry.2)).mapM (valuesRow params columns) = .ok rows ↔
      (∀ entry ∈ entries, ∀ column ∈ columns, (entry.1.get column).isSome) ∧
        rows = entries.map fun entry => proposed columns entry.1 := by
  induction entries generalizing rows with
  | nil =>
    constructor
    · rintro ⟨⟩
      exact ⟨fun _ member => absurd member List.not_mem_nil,rfl⟩
    · rintro ⟨_,rfl⟩
      exact rfl
  | cons entry rest ih =>
    have one {row : Record Object} := @valuesRow_ok _ _ _ (placeholder · entry.2) _ (bound entry List.mem_cons_self) row
    have later {rows : List (Record Object)} := @ih (fun other member => bound other (List.mem_cons_of_mem entry member)) rows
    rw [List.map_cons,List.mapM_cons,bind_ok,List.forall_mem_cons]
    constructor
    · rintro ⟨row,head,tail⟩
      obtain ⟨others,taken,same⟩ := bind_ok.mp tail
      obtain rfl := pure_ok.mp same
      obtain ⟨complete,rfl⟩ := one.mp head
      obtain ⟨all,rfl⟩ := later.mp taken
      exact ⟨⟨complete,all⟩,rfl⟩
    · rintro ⟨⟨complete,all⟩,rfl⟩
      exact ⟨_,one.mpr ⟨complete,rfl⟩,bind_ok.mpr ⟨_,later.mpr ⟨all,rfl⟩,rfl⟩⟩

omit [DecidableEq Object] in
theorem batch_rows {docs : List (Record Object)} {columns : List String} {rows : List (Record Object)} :
    (docs.zipIdx.map fun entry => columns.map (placeholder · entry.2)).mapM (valuesRow (batchParams docs) columns) =
        .ok rows ↔
      (∀ doc ∈ docs, ∀ column ∈ columns, (doc.get column).isSome) ∧ rows = docs.map (proposed columns) := by
  have firsts := List.zipIdx_map_fst 0 docs
  rw [mapM_valuesRow]
  · have rows_of : docs.zipIdx.map (fun entry => proposed columns entry.1) = docs.map (proposed columns) := by
      rw [← congrArg (List.map (proposed columns)) firsts,List.map_map]
      exact rfl
    have all : (∀ entry ∈ docs.zipIdx, ∀ column ∈ columns, (entry.1.get column).isSome) ↔
        ∀ doc ∈ docs, ∀ column ∈ columns, (doc.get column).isSome := by
      constructor
      · intro complete doc member
        rw [← firsts] at member
        obtain ⟨entry,there,rfl⟩ := List.mem_map.mp member
        exact complete entry there
      · intro complete entry there
        exact complete entry.1 (firsts ▸ List.mem_map_of_mem there)
    rw [rows_of,all]
  · intro entry there column _
    rw [batchParams_get,List.mk_mem_zipIdx_iff_getElem?.mp there,Option.bind_some]

theorem upsertBatch_ok {database : Database Object} {collection idField : String} {first : Record Object}
    {rest table after : List (Record Object)} :
    upsertBatch database collection idField (first::rest) table = .ok after ↔
      isIdentifier collection = true ∧ isIdentifier idField = true ∧
        (∀ doc ∈ first::rest, ∀ column ∈ doc.keys, isIdentifier column = true) ∧
        (∀ doc ∈ first::rest, ∀ column ∈ first.keys, (doc.get column).isSome) ∧
        refuses database (batchStatement idField (first::rest)) ((first::rest).map (proposed first.keys)) = false ∧
        after = ((first::rest).map (proposed first.keys)).foldl (put (idOf idField)
          (fun stored row => overwrite row.get (first.keys.filter fun column => column ∉ idField::excludeFromUpdate) stored)
          database.defaults.update) table := by
  have named (context name : String) : validateIdentifier context name = .ok () ↔ isIdentifier name = true := by
    unfold validateIdentifier
    split
    next valid => exact ⟨fun _ => valid,fun _ => rfl⟩
    next invalid => exact ⟨fun done => absurd done (by simp),fun valid => absurd valid invalid⟩
  have columns : ((first::rest).forM fun doc => doc.keys.forM (validateIdentifier "column name")) = .ok () ↔
      ∀ doc ∈ first::rest, ∀ column ∈ doc.keys, isIdentifier column = true := by
    rw [forM_ok]
    exact forall₂_congr fun doc _ => forM_validateIdentifier "column name" doc.keys
  have statement : execute database table (batchStatement idField (first::rest)) (batchParams (first::rest)) = .ok after ↔
      (∀ doc ∈ first::rest, ∀ column ∈ first.keys, (doc.get column).isSome) ∧
        refuses database (batchStatement idField (first::rest)) ((first::rest).map (proposed first.keys)) = false ∧
        after = ((first::rest).map (proposed first.keys)).foldl (put (idOf idField)
          (fun stored row => overwrite row.get (first.keys.filter fun column => column ∉ idField::excludeFromUpdate) stored)
          database.defaults.update) table := by
    unfold execute
    rw [bind_ok]
    constructor
    · rintro ⟨rows,bound,done⟩
      obtain ⟨complete,rfl⟩ := batch_rows.mp bound
      refine ⟨complete,?_⟩
      split at done
      next => cases done
      next taken => exact ⟨Bool.eq_false_iff.mpr taken,(pure_ok.mp done).symm⟩
    · rintro ⟨complete,taken,rfl⟩
      refine ⟨_,batch_rows.mpr ⟨complete,rfl⟩,?_⟩
      exact if_neg (Bool.eq_false_iff.mp taken)
  rw [← named "table name",← named "column name",← columns,← statement]
  constructor
  · intro done
    obtain ⟨⟨⟩,table_name,done⟩ := bind_ok.mp done
    obtain ⟨⟨⟩,id_name,done⟩ := bind_ok.mp done
    obtain ⟨⟨⟩,names,done⟩ := bind_ok.mp done
    exact ⟨table_name,id_name,names,done⟩
  · rintro ⟨table_name,id_name,names,done⟩
    exact bind_ok.mpr ⟨(),table_name,bind_ok.mpr ⟨(),id_name,bind_ok.mpr ⟨(),names,done⟩⟩⟩

theorem refuses_false {database : Database Object} {idField : String} {first : Record Object}
    {rest rows : List (Record Object)} :
    refuses database (batchStatement idField (first::rest)) rows = false ↔
      (∃ column ∈ first.keys, column ∉ idField::excludeFromUpdate) ∧ (∀ column ∈ first.keys, '\n' ∉ column.toList) ∧
        database.takesParameters ((first::rest).length * first.keys.length) = true ∧
        (∀ row ∈ rows, (idOf idField row).isSome ∧ database.accepts row.get = true) ∧
        (database.dialect = .postgresql → (rows.map (idOf idField)).Nodup) := by
  have length : (batchStatement idField (first::rest)).placeholders.flatten.length =
      (first::rest).length * first.keys.length := by
    rw [batchStatement,List.length_flatten,List.map_map]
    have same : (List.length ∘ fun entry : Record Object × Nat => first.keys.map (placeholder · entry.2)) =
        fun _ => first.keys.length := funext fun entry => List.length_map _
    change (((first::rest).zipIdx.map (List.length ∘ fun entry => first.keys.map (placeholder · entry.2))).sum) = _
    rw [same,List.map_const',List.sum_replicate_nat,List.length_zipIdx]
  have updated : (batchStatement idField (first::rest)).updates.isEmpty = false ↔
      ∃ column ∈ first.keys, column ∉ idField::excludeFromUpdate := by
    change (first.keys.filter fun column => column ∉ idField::excludeFromUpdate).isEmpty = false ↔ _
    rw [← Bool.not_eq_true,List.isEmpty_iff,List.filter_eq_nil_iff]
    simp
  have taken (row : Record Object) : ¬ ((idOf idField row).isNone || !database.accepts row.get) = true ↔
      (idOf idField row).isSome ∧ database.accepts row.get = true := by
    cases idOf idField row <;> simp
  rw [refuses,length]
  simp only [Bool.or_eq_false_iff,updated,Bool.and_eq_false_iff,List.any_eq_false,Bool.not_eq_false',
    decide_eq_false_iff_not,decide_eq_true_eq]
  change ((((_ ∧ ∀ column ∈ first.keys, ¬ column.toList.contains '\n' = true) ∧ _) ∧
    ∀ row ∈ rows, ¬ ((idOf idField row).isNone || !database.accepts row.get) = true) ∧
      (_ ∨ (rows.map (idOf idField)).Nodup)) ↔ _
  rw [← imp_iff_not_or]
  simp only [List.contains_iff_mem,taken,and_assoc]

omit [DecidableEq Object] in
theorem proposed_get {columns : List String} {doc : Record Object} (same : ∀ column, column ∈ doc.keys ↔ column ∈ columns) :
    (proposed columns doc).get = doc.get := by
  funext column
  rw [proposed,overwrite_get,Dict.get_empty,Option.or_none]
  split
  next => rfl
  next outside =>
    rw [← same,mem_keys,Option.not_isSome_iff_eq_none] at outside
    exact outside.symm

def idCell (idField : String) (cells : String → Option (Value Object)) : Option (Value Object) := cells (columnOf idField)

theorem found_cells {idField : String} {rows others : List (Record Object)} (id : Value Object)
    (same : rows.map Dict.get = others.map Dict.get) :
    (found (idOf idField) id rows).map Dict.get = (found (idOf idField) id others).map Dict.get := by
  have cells (rows : List (Record Object)) : (found (idOf idField) id rows).map Dict.get =
      found (idCell idField) id (rows.map Dict.get) := by
    have kept : ∀ row ∈ rows, idCell idField row.get = idOf idField row := fun _ _ => rfl
    exact (found_map id kept).symm
  rw [cells,cells,same]

omit [DecidableEq Object] in
theorem idOf_update {idField : String} (row : Record Object) {doc : Record Object} (keyed : (idOf idField doc).isSome) :
    idOf idField (row.update doc) = idOf idField doc := by
  obtain ⟨id,own⟩ := Option.isSome_iff_exists.mp keyed
  have cell : doc.get (columnOf idField) = some id := own
  rw [own,idOf,get_update,cell,Option.some_or]

section Rows
variable {database : Database Object} {idField : String} {columns : List String} {docs table : List (Record Object)}
  (same : ∀ doc ∈ docs, ∀ column, column ∈ doc.keys ↔ column ∈ columns)
  (keyed : ∀ doc ∈ docs, (idOf idField doc).isSome)

include same

omit [DecidableEq Object] in
theorem doc_get {doc : Record Object} (member : doc ∈ docs) (other : Option (Value Object)) (column : String) :
    (doc.get column).or other = if column ∈ columns then doc.get column else other := by
  split
  next inside =>
    obtain ⟨value,there⟩ := Option.isSome_iff_exists.mp (mem_keys.mp ((same doc member column).mpr inside))
    rw [there,Option.some_or]
  next outside =>
    rw [← same doc member,mem_keys,Option.not_isSome_iff_eq_none] at outside
    rw [outside,Option.none_or]

include keyed

omit same [DecidableEq Object] in
theorem insert_keeps {update : Record Object → Record Object → Record Object} {doc : Record Object} (member : doc ∈ docs)
    (updated : ∀ stored, idOf idField stored = idOf idField doc → idOf idField (update stored doc) = idOf idField doc) :
    Keeps (idOf idField) update database.defaults.update doc where
  keyed := keyed doc member
  updated := updated
  inserted := idOf_update _ (keyed doc member)

theorem sequential_cells (id : Value Object) : (found (idOf idField) id (sequential database idField docs table)).map Dict.get =
    ((found (idOf idField) id (table ++ docs.map database.defaults.update)).map Dict.get).map fun origin column =>
      if column ∈ columns then ((found (idOf idField) id docs.reverse).map Dict.get).getD origin column
      else origin column := by
  refine found_puts (fun doc member => insert_keeps keyed member fun stored _ => idOf_update stored (keyed doc member))
    (fun doc member stored column => ?_) (fun doc member column inside => ?_) table id
  · rw [get_update]
    exact doc_get same member (stored.get column) column
  · rw [get_update,doc_get same member,if_pos inside]

variable (excluded : List String)

theorem batch_cells (id : Value Object) :
    (found (idOf idField) id ((docs.map (proposed columns)).foldl (put (idOf idField)
      (fun stored row => overwrite row.get (columns.filter fun column => column ∉ excluded) stored)
      database.defaults.update) table)).map Dict.get =
    ((found (idOf idField) id (table ++ docs.map database.defaults.update)).map Dict.get).map fun origin column =>
      if column ∈ columns.filter fun column => column ∉ excluded then
        ((found (idOf idField) id docs.reverse).map Dict.get).getD origin column
      else origin column := by
  -- The proposed rows have the cells of the documents.
  have shaped : ∀ row ∈ docs.map (proposed columns), ∃ doc ∈ docs, row.get = doc.get := by
    intro row member
    obtain ⟨doc,there,rfl⟩ := List.mem_map.mp member
    exact ⟨doc,there,proposed_get (same doc there)⟩
  have rows : (docs.map (proposed columns)).map Dict.get = docs.map Dict.get := by
    rw [List.map_map]
    exact List.map_congr_left fun doc there => proposed_get (same doc there)
  have inserted : (table ++ (docs.map (proposed columns)).map database.defaults.update).map Dict.get =
      (table ++ docs.map database.defaults.update).map Dict.get := by
    rw [List.map_append,List.map_append,List.map_map,List.map_map,List.map_map]
    refine congrArg (List.append _) (List.map_congr_left fun doc there => funext fun column => ?_)
    simp only [Function.comp_apply]
    rw [get_update,get_update,proposed_get (same doc there)]
  have keyed_rows : ∀ row ∈ docs.map (proposed columns), (idOf idField row).isSome := by
    intro row member
    obtain ⟨doc,there,cells⟩ := shaped row member
    rw [idOf,cells]
    exact keyed doc there
  have present : ∀ row ∈ docs.map (proposed columns), ∀ column ∈ columns, ∃ value, row.get column = some value := by
    intro row member column inside
    obtain ⟨doc,there,cells⟩ := shaped row member
    rw [cells]
    exact Option.isSome_iff_exists.mp (mem_keys.mp ((same doc there column).mpr inside))
  have reversed : (docs.map (proposed columns)).reverse.map Dict.get = docs.reverse.map Dict.get := by
    rw [List.map_reverse,List.map_reverse,rows]
  rw [← found_cells id inserted,← found_cells id reversed]
  refine found_puts (fun row member => insert_keeps keyed_rows member fun stored own => ?_)
    (fun row member stored column => ?_) (fun row member column inside => ?_) table id
  · rw [idOf,overwrite_get]
    split
    next inside =>
      obtain ⟨value,there⟩ := Option.isSome_iff_exists.mp (keyed_rows row member)
      have cell : row.get (columnOf idField) = some value := there
      rw [cell,Option.some_or,there]
    next => exact own
  · rw [overwrite_get]
    split
    next inside =>
      obtain ⟨value,there⟩ := present row member column (List.mem_filter.mp inside).1
      rw [there,Option.some_or]
    next => rfl
  · obtain ⟨value,there⟩ := present row member column (List.mem_filter.mp inside).1
    rw [get_update,there,Option.some_or]

theorem origin_cells (id : Value Object) {column : String} (inside : column ∈ columns) :
    (found (idOf idField) id (table ++ docs.map database.defaults.update)).map (·.get column) =
      (found (idOf idField) id (table ++ docs)).map (·.get column) := by
  have kept : ∀ doc ∈ docs, idOf idField (database.defaults.update doc) = idOf idField doc :=
    fun doc member => idOf_update _ (keyed doc member)
  rw [found_append,found_append,found_map id kept]
  cases found (idOf idField) id table with
  | some row => exact rfl
  | none =>
    cases there : found (idOf idField) id docs with
    | none => exact rfl
    | some doc =>
      refine congrArg some ?_
      change (database.defaults.update doc).get column = doc.get column
      rw [get_update,doc_get same (found_mem there),if_pos inside]

theorem cells_same_iff (plain : ∀ column ∈ columns, '\n' ∉ column.toList) :
    (∀ id, (found (idOf idField) id ((docs.map (proposed columns)).foldl (put (idOf idField)
      (fun stored row => overwrite row.get (columns.filter fun column => column ∉ idField::excludeFromUpdate) stored)
      database.defaults.update) table)).map Dict.get =
      (found (idOf idField) id (sequential database idField docs table)).map Dict.get) ↔
      KeepsVersions idField docs table := by
  have updates (column : String) : column ∈ columns.filter (fun column => column ∉ idField::excludeFromUpdate) ↔
      column ∈ columns ∧ column ∉ idField::excludeFromUpdate := by
    rw [List.mem_filter,decide_eq_true_eq]
  constructor
  · intro agree id last origin lastly firstly column version present
    have inside : column ∈ columns :=
      (same last (List.mem_reverse.mp (found_mem lastly)) column).mp (mem_keys.mpr present)
    have cells := agree id
    rw [batch_cells same keyed,sequential_cells same keyed,lastly] at cells
    have origins := @origin_cells _ _ database _ _ _ table same keyed id _ inside
    rw [firstly] at origins
    cases stored : found (idOf idField) id (table ++ docs.map database.defaults.update) with
    | none =>
      rw [stored] at origins
      cases origins
    | some row =>
      rw [stored] at cells origins
      have at_column := congrFun (Option.some.inj cells) column
      have outside : column ∉ columns.filter fun column => column ∉ idField::excludeFromUpdate :=
        fun member => ((updates column).mp member).2 (List.mem_cons_of_mem idField version)
      have written := ((if_neg outside).symm.trans at_column).trans (if_pos inside)
      exact (Option.some.inj origins).symm.trans written
  · intro versions id
    rw [batch_cells same keyed,sequential_cells same keyed]
    cases stored : found (idOf idField) id (table ++ docs.map database.defaults.update) with
    | none => exact rfl
    | some row =>
      refine congrArg some (funext fun column => ?_)
      cases lastly : found (idOf idField) id docs.reverse with
      | none => exact (ite_self _).trans (ite_self _).symm
      | some last =>
        dsimp only [Option.map_some,Option.getD_some]
        by_cases inside : column ∈ columns
        · rw [if_pos inside]
          split
          next => rfl
          next kept =>
            have special : column ∈ idField::excludeFromUpdate := by
              by_contra ordinary
              exact kept ((updates column).mpr ⟨inside,ordinary⟩)
            rcases List.mem_cons.mp special with rfl | version
            · have own : idOf column row = some id := found_key stored
              have lasts : idOf column last = some id := found_key lastly
              rw [idOf,columnOf_plain (plain column inside)] at own lasts
              rw [own,lasts]
            · have origins := @origin_cells _ _ database _ _ _ table same keyed id _ inside
              rw [stored] at origins
              obtain ⟨origin,firstly,cell⟩ := Option.map_eq_some_iff.mp origins.symm
              have present : (last.get column).isSome :=
                mem_keys.mp ((same last (List.mem_reverse.mp (found_mem lastly)) column).mpr inside)
              exact cell.symm.trans (versions id last origin lastly firstly column version present)
        · rw [if_neg inside,if_neg fun member => inside ((updates column).mp member).1]

end Rows

omit [DecidableEq Object] in
theorem params_used_iff {idField : String} {first : Record Object} {rest : List (Record Object)}
    (complete : ∀ doc ∈ first::rest, ∀ column ∈ first.keys, (doc.get column).isSome) :
    (∀ name, name ∈ (batchParams (first::rest)).keys ↔
      name ∈ (batchStatement idField (first::rest)).placeholders.flatten) ↔
    ∀ doc ∈ first::rest, ∀ column, column ∈ doc.keys ↔ column ∈ first.keys := by
  have used (name : String) : name ∈ (batchStatement idField (first::rest)).placeholders.flatten ↔
      ∃ index doc, (first::rest)[index]? = some doc ∧ ∃ column ∈ first.keys, name = placeholder column index := by
    rw [List.mem_flatten]
    constructor
    · rintro ⟨names,member,inside⟩
      obtain ⟨⟨doc,index⟩,entry,rfl⟩ := List.mem_map.mp member
      obtain ⟨column,own,rfl⟩ := List.mem_map.mp inside
      exact ⟨index,doc,List.mk_mem_zipIdx_iff_getElem?.mp entry,column,own,rfl⟩
    · rintro ⟨index,doc,entry,column,own,rfl⟩
      exact ⟨_,List.mem_map.mpr ⟨(doc,index),List.mk_mem_zipIdx_iff_getElem?.mpr entry,rfl⟩,List.mem_map_of_mem own⟩
  have bound (name : String) : name ∈ (batchParams (first::rest)).keys ↔
      ∃ index doc, (first::rest)[index]? = some doc ∧ ∃ column ∈ doc.keys, name = placeholder column index := by
    rw [mem_keys]
    constructor
    · intro present
      obtain ⟨value,there⟩ := Option.isSome_iff_exists.mp present
      obtain ⟨index,doc,column,entry,stored,rfl⟩ := mem_batchParams there
      exact ⟨index,doc,entry,column,mem_keys.mpr (stored ▸ rfl),rfl⟩
    · rintro ⟨index,doc,entry,column,own,rfl⟩
      rw [batchParams_get,entry]
      exact mem_keys.mp own
  constructor
  · intro exact_names doc member column
    refine ⟨fun own => ?_,fun inside => mem_keys.mpr (complete doc member column inside)⟩
    obtain ⟨index,entry⟩ := List.mem_iff_getElem?.mp member
    obtain ⟨other,_,_,field,inside,same⟩ :=
      (used _).mp ((exact_names _).mp ((bound _).mpr ⟨index,doc,entry,column,own,rfl⟩))
    obtain ⟨rfl,_⟩ := placeholder_injective same
    exact inside
  · intro same name
    rw [used,bound]
    refine exists_congr fun index => exists_congr fun doc => and_congr_right fun entry => exists_congr fun column => ?_
    exact and_congr_left fun _ => same doc (List.mem_of_getElem? entry) column

/-- A batch leaves what its documents one after the other would, with parameters that are just its
placeholders, exactly when it fits: the documents have the same keys and a version column is never changed. -/
theorem equalsSequential_iff (database : Database Object) (collection idField : String) (first : Record Object)
    (rest table : List (Record Object)) :
    EqualsSequential database collection idField (first::rest) table ↔
      Fits database collection idField first (first::rest) table := by
  constructor
  · rintro ⟨⟨after,done,agree⟩,names⟩
    obtain ⟨table_name,id_name,columns,complete,taken,rfl⟩ := upsertBatch_ok.mp done
    obtain ⟨updated,plain,parameters,rows,apart⟩ := refuses_false.mp taken
    have same := (params_used_iff complete).mp names
    have cells (doc : Record Object) (member : doc ∈ first::rest) : (proposed first.keys doc).get = doc.get :=
      proposed_get (same doc member)
    have keyed : ∀ doc ∈ first::rest, (idOf idField doc).isSome := by
      intro doc member
      have row := (rows _ (List.mem_map_of_mem member)).1
      rwa [idOf,cells doc member] at row
    refine ⟨table_name,id_name,fun doc member column own => ?_,same,updated,keyed,parameters,fun doc member => ?_,
      fun dialect => ?_,(cells_same_iff same keyed plain).mp agree⟩
    · exact ⟨columns doc member column own,plain column ((same doc member column).mp own)⟩
    · have row := (rows _ (List.mem_map_of_mem member)).2
      rwa [cells doc member] at row
    · have distinct := apart dialect
      rw [List.map_map] at distinct
      have ids : (first::rest).map (idOf idField ∘ proposed first.keys) = (first::rest).map (idOf idField) :=
        List.map_congr_left fun doc member => congrFun (cells doc member) (columnOf idField)
      rwa [ids] at distinct
  · intro fits
    have complete : ∀ doc ∈ first::rest, ∀ column ∈ first.keys, (doc.get column).isSome :=
      fun doc member column inside => mem_keys.mp ((fits.same_keys doc member column).mpr inside)
    have cells (doc : Record Object) (member : doc ∈ first::rest) : (proposed first.keys doc).get = doc.get :=
      proposed_get (fits.same_keys doc member)
    have plain : ∀ column ∈ first.keys, '\n' ∉ column.toList :=
      fun column inside => (fits.names first List.mem_cons_self column inside).2
    have taken : refuses database (batchStatement idField (first::rest)) ((first::rest).map (proposed first.keys)) =
        false := by
      refine refuses_false.mpr ⟨fits.updated,plain,fits.parameters,fun row member => ?_,fun dialect => ?_⟩
      · obtain ⟨doc,there,rfl⟩ := List.mem_map.mp member
        rw [idOf,cells doc there]
        exact ⟨fits.keyed doc there,fits.accepted doc there⟩
      · have ids : (first::rest).map (idOf idField ∘ proposed first.keys) = (first::rest).map (idOf idField) :=
          List.map_congr_left fun doc member => congrFun (cells doc member) (columnOf idField)
        rw [List.map_map,ids]
        exact fits.apart dialect
    refine ⟨⟨_,upsertBatch_ok.mpr ⟨fits.table_name,fits.id_name,fun doc member column own =>
      (fits.names doc member column own).1,complete,taken,rfl⟩,?_⟩,(params_used_iff complete).mpr fits.same_keys⟩
    exact (cells_same_iff fits.same_keys fits.keyed plain).mpr fits.versions

def anyTable : Database Unit := ⟨.sqlite,fun _ => true,fun _ => true,Dict.empty⟩

def order (id : String) (total : Int) : Record Unit := (Dict.empty.set "id" (.text id)).set "total" (.number total)

/-- A key that only the second document has is dropped, one that it lacks makes the statement fail. -/
theorem the_first_document_decides :
    (upsertBatch anyTable "orders" "id" [order "a" 1,(order "b" 2).set "note" (.text "late")] []).toOption.map
        (fun after => (found (idOf "id") (.text "b") after).map (·.get "note")) = some (some none) ∧
      ¬ EqualsSequential anyTable "orders" "id" [order "a" 1,(order "b" 2).set "note" (.text "late")] [] ∧
      ¬ EqualsSequential anyTable "orders" "id" [order "a" 1,Dict.empty.set "id" (.text "b")] [] := by
  refine ⟨by decide,?_,?_⟩
  · rintro ⟨_,names⟩
    have used := (names "note_1").mp (by decide)
    revert used
    decide
  · rintro ⟨⟨after,done,_⟩,_⟩
    have failed : (upsertBatch anyTable "orders" "id" [order "a" 1,Dict.empty.set "id" (.text "b")] []).toOption.isNone := by
      decide
    rw [done] at failed
    cases failed

end SQLAlchemyProjectionStore

end CqrsDdd.Projections
