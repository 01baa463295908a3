import CqrsDdd.Projections.TenantProjections

/-! Histories of calls of several tenants on one projection store, each tenant compared with itself alone on
a plain store. A call is taken apart where the two stores do: at its key, at what it looks
at first, and at the statement. -/
namespace CqrsDdd.Projections

open Messaging Attempts SQLAlchemyProjectionStore UniqueRows
open MultitenantProjectionMixin (tenantDocId tenantDoc tenantData docIdAfter docIdsAfter)

variable {Object : Type}

namespace TenantCall

variable {deployment : TenantDeployment Object} {tenant : String}

section Keys

omit tenant in
theorem plain_where (deployment : TenantDeployment Object) (docId : DocId Object) :
    deployment.plain.whereFromDocId docId = deployment.store.whereFromDocId docId := by
  cases docId with
  | text id => exact rfl
  | number id => exact rfl
  | composite fields nonempty => exact rfl

theorem plain_lookup (deployment : TenantDeployment Object) (collection : String) : deployment.plain.lookup collection =
    (deployment.store.lookup collection).map (·.indexed (deployment.unique (columnOf collection))) := by
  unfold SqlStore.lookup TenantDeployment.plain
  dsimp only
  cases deployment.store.tables (columnOf collection) with
  | none => exact rfl
  | some table => exact rfl

theorem lookup_ok {store : SqlStore Object} {collection : String} {table : Table Object}
    (found : store.lookup collection = .ok table) : store.tables (columnOf collection) = some table := by
  unfold SqlStore.lookup at found
  cases there : store.tables (columnOf collection) with
  | none =>
    rw [there] at found
    cases found
  | some stored =>
    rw [there] at found
    exact congrArg some (Except.ok.inj found)

theorem labelled_of_get {record : Record Object} (there : record.get "tenant_id" = some (.text tenant)) :
    labelled tenant record = record := Dict.set_of_get there

theorem tenantDocId_composite {fields : Record Object} {nonempty : fields.entries ≠ []}
    (there : fields.get "tenant_id" = some (.text tenant)) :
    tenantDocId tenant (.composite fields nonempty) = .composite fields nonempty := by
  unfold tenantDocId
  simp only [labelled_of_get there]

theorem columnOf_tenant : columnOf "tenant_id" = "tenant_id" := by decide

theorem columnOf_id : columnOf "id" = "id" := by decide

theorem valid_tenant : validateIdentifier "column name" "tenant_id" = .ok () := by decide

theorem valid_id : validateIdentifier "column name" "id" = .ok () := by decide

theorem names_with_tenant (names : List String) : (names ++ ["tenant_id"]).forM (validateIdentifier "column name") =
    names.forM (validateIdentifier "column name") := by
  induction names with
  | nil =>
    change (validateIdentifier "column name" "tenant_id" >>= fun _ => pure ()) = pure ()
    rw [valid_tenant]
    exact rfl
  | cons name rest ih =>
    change (validateIdentifier "column name" name >>= fun _ => (rest ++ ["tenant_id"]).forM _) =
      (validateIdentifier "column name" name >>= fun _ => rest.forM _)
    rw [ih]

theorem where_number {store : SqlStore Object} (default : store.defaultIdColumn = "id") (id : Int) :
    store.whereFromDocId (.number id) = .ok [("id",.number id)] := by
  change store.whereId (.number id) = _
  unfold SqlStore.whereId
  rw [default,valid_id,columnOf_id]
  exact rfl

theorem where_tenant_number (store : SqlStore Object) (id : Int) :
    store.whereFromDocId (tenantDocId tenant (.number id)) =
      .ok [("tenant_id",.text tenant),("id",.number id)] := by
  change (do ["tenant_id","id"].forM (validateIdentifier "column name"); return [("tenant_id",Value.text tenant),
    ("id",.number id)] : Except Failure (List (String × Value Object))) = _
  have names : ["tenant_id","id"].forM (validateIdentifier "column name") = .ok () := by decide
  rw [names]
  exact rfl

/-- The mixin's key and the key itself both raise, or have conditions that are alike. -/
def Located (deployment : TenantDeployment Object) (tenant : String) (docId : DocId Object)
    (alike : List (String × Value Object) → List (String × Value Object) → Prop) : Prop :=
  (∃ failure, deployment.store.whereFromDocId (tenantDocId tenant docId) = .error failure ∧
    deployment.plain.whereFromDocId docId = .error failure) ∨
  ∃ fields plainFields, deployment.store.whereFromDocId (tenantDocId tenant docId) = .ok fields ∧
    deployment.plain.whereFromDocId docId = .ok plainFields ∧ alike fields plainFields

theorem where_text (deployment : TenantDeployment Object) (tenant id : String) :
    Located deployment tenant (.text id) fun fields plainFields =>
      fields = [(columnOf deployment.store.defaultIdColumn,.text (tenant ++ ":" ++ id))] ∧
        plainFields = [(columnOf deployment.store.defaultIdColumn,.text id)] := by
  have plain : deployment.plain.whereFromDocId (.text id) = deployment.store.whereId (.text id) := plain_where _ _
  have mixed : deployment.store.whereFromDocId (tenantDocId tenant (.text id)) =
      deployment.store.whereId (.text (tenant ++ ":" ++ id)) := rfl
  rw [Located,plain,mixed]
  unfold SqlStore.whereId
  cases validateIdentifier "column name" deployment.store.defaultIdColumn with
  | error failure => exact .inl ⟨failure,rfl,rfl⟩
  | ok valid => exact .inr ⟨_,_,rfl,rfl,rfl,rfl⟩

variable [DecidableEq Object]

theorem selects_iff {fields : List (String × Value Object)} {row : Record Object} :
    selects fields row = true ↔ ∀ field ∈ fields, field.2 ≠ .null ∧ row.get field.1 = some field.2 := by
  rw [selects,List.all_eq_true]
  exact forall₂_congr fun field _ => decide_eq_true_iff

/-- The fields of the mixin select those rows of the tenant that the fields of the key do. -/
structure Locates (deployment : TenantDeployment Object) (tenant : String) (fields plainFields : List (String × Value Object)) :
    Prop where
  knows : ∀ name table, deployment.store.tables name = some table → table.knows fields = table.knows plainFields
  selects : ∀ row, selects fields row = (selects plainFields row && carries tenant row)

theorem locates_number (deployment : TenantDeployment Object) (tenant : String) (id : Int) :
    Locates deployment tenant [("tenant_id",.text tenant),("id",.number id)] [("id",.number id)] := by
  constructor
  · intro name table there
    have known : decide ("tenant_id" ∈ table.columns) = true := decide_eq_true (deployment.has_tenant name table there)
    unfold Table.knows
    rw [List.all_cons,known,Bool.true_and]
  · intro row
    rw [Bool.and_comm]
    exact congrArg (· && _) (decide_eq_decide.mpr ⟨And.right,fun mine => ⟨by simp,mine⟩⟩)

theorem locates_composite {fields : Record Object} (there : fields.get "tenant_id" = some (.text tenant)) :
    Locates deployment tenant fields.entries fields.entries := by
  refine ⟨fun _ _ _ => rfl,fun row => ?_⟩
  cases selected : selects fields.entries row with
  | false => exact rfl
  | true =>
    have mine := (selects_iff.mp selected _ (fields.mem_iff_get.mpr there)).2
    exact (decide_eq_true mine).symm

/-- A key that is no text. -/
def Kept (deployment : TenantDeployment Object) (tenant : String) : DocId Object → Prop
  | .text _ => False
  | .number _ => deployment.store.defaultIdColumn = "id"
  | .composite fields _ => fields.get "tenant_id" = some (.text tenant)

theorem where_kept {docId : DocId Object} (kept : Kept deployment tenant docId) :
    Located deployment tenant docId (Locates deployment tenant) := by
  rw [Located,plain_where]
  cases docId with
  | text id => exact kept.elim
  | number id => exact .inr ⟨_,_,where_tenant_number _ id,where_number kept id,locates_number deployment tenant id⟩
  | composite fields nonempty =>
    rw [tenantDocId_composite kept]
    cases found : deployment.store.whereFromDocId (.composite fields nonempty) with
    | error failure => exact .inl ⟨failure,rfl,rfl⟩
    | ok columns =>
      refine .inr ⟨_,_,rfl,rfl,?_⟩
      have same : columns = fields.entries := by
        obtain ⟨_,_,last⟩ := bind_ok.mp found
        exact (pure_ok.mp last).symm
      subst same
      exact locates_composite kept

end Keys

section Reads

variable [DecidableEq Object] {contents : Contents Object} {collection : String}

theorem query_located {table : Table Object} {name : String} {fields plainFields : List (String × Value Object)}
    (there : deployment.store.tables name = some table) (locates : Locates deployment tenant fields plainFields)
    (unique : List (List String)) (rows : Rows Object) :
    (table.indexed unique).query plainFields (rows.filter (carries tenant)) = table.query fields rows := by
  have same : (rows.filter (carries tenant)).filter (selects plainFields) = rows.filter (selects fields) := by
    rw [List.filter_filter]
    exact List.filter_congr fun row _ => (locates.selects row).symm
  unfold Table.query
  rw [same,locates.knows name table there]
  exact rfl

theorem head_located {table : Table Object} {fields plainFields : List (String × Value Object)} {rows found : Rows Object}
    (locates : Locates deployment tenant fields plainFields) (queried : table.query fields rows = .ok found) :
    found.head?.filter (carries tenant) = found.head? := by
  unfold Table.query at queried
  split at queried
  next =>
    obtain rfl := Except.ok.inj queried
    cases first : (rows.filter (selects fields)).head? with
    | none => exact rfl
    | some row =>
      have selected := (List.mem_filter.mp (List.mem_of_mem_head? first)).2
      rw [locates.selects,Bool.and_eq_true] at selected
      rw [Option.filter_some,if_pos selected.2]
  next => cases queried

theorem get_of_where {store : SqlStore Object} {docId : DocId Object} {fields : List (String × Value Object)}
    (valid : validateIdentifier "table name" collection = .ok ()) (found : store.whereFromDocId docId = .ok fields) :
    store.get contents collection docId = (store.lookup collection).bind fun table =>
      (table.query fields (contents (columnOf collection))).map List.head? := by
  unfold SqlStore.get
  rw [valid,found]
  change ((store.lookup collection).bind fun table => _) = _
  refine congrArg _ (funext fun table => ?_)
  cases table.query fields (contents (columnOf collection)) with
  | error failure => exact rfl
  | ok rows => exact rfl

theorem get_of_invalid {store : SqlStore Object} {docId : DocId Object} {failure : Failure}
    (invalid : validateIdentifier "table name" collection = .error failure) :
    store.get contents collection docId = .error failure := by
  unfold SqlStore.get
  rw [invalid]
  exact rfl

theorem get_of_where_error {store : SqlStore Object} {docId : DocId Object} {failure : Failure}
    (valid : validateIdentifier "table name" collection = .ok ())
    (raised : store.whereFromDocId docId = .error failure) : store.get contents collection docId = .error failure := by
  unfold SqlStore.get
  rw [valid,raised]
  exact rfl

theorem get_kept {docId : DocId Object} (kept : Kept deployment tenant docId) :
    deployment.plain.get (share tenant contents) collection docId =
      MultitenantProjectionMixin.get deployment.store tenant contents collection docId := by
  unfold MultitenantProjectionMixin.get
  cases valid : validateIdentifier "table name" collection with
  | error failure => rw [get_of_invalid valid,get_of_invalid valid]; exact rfl
  | ok named =>
    obtain ⟨failure,raised,plain⟩ | ⟨fields,plainFields,found,plain,locates⟩ := where_kept kept
    · rw [get_of_where_error valid raised,get_of_where_error valid plain]
      exact rfl
    · rw [get_of_where valid found,get_of_where valid plain,plain_lookup]
      cases there : deployment.store.lookup collection with
      | error failure => exact rfl
      | ok table =>
        change (((table.indexed _).query plainFields ((contents (columnOf collection)).filter (carries tenant))).map
          List.head?) = ((table.query fields (contents (columnOf collection))).map List.head?).map _
        rw [query_located (lookup_ok there) locates,map_map]
        cases queried : table.query fields (contents (columnOf collection)) with
        | error failure => exact rfl
        | ok rows => exact congrArg Except.ok (head_located locates queried).symm

theorem query_missing {table : Table Object} {column : String} {id : Value Object} {rows : Rows Object}
    (missing : ∀ row ∈ rows, row.get column ≠ some id) :
    table.query [(column,id)] rows = if table.knows [(column,id)] then .ok [] else .error .rejected := by
  have none : rows.filter (selects [(column,id)]) = [] := by
    refine List.filter_eq_nil_iff.mpr fun row there selected => ?_
    exact missing row there (selects_iff.mp selected _ List.mem_cons_self).2
  unfold Table.query
  rw [none]

theorem get_text {id : String} (key : SameKey deployment tenant (contents (columnOf collection)) (.text id)) :
    deployment.plain.get (share tenant contents) collection (.text id) =
      MultitenantProjectionMixin.get deployment.store tenant contents collection (.text id) := by
  unfold MultitenantProjectionMixin.get
  cases valid : validateIdentifier "table name" collection with
  | error failure => rw [get_of_invalid valid,get_of_invalid valid]; exact rfl
  | ok named =>
    obtain ⟨failure,raised,plain⟩ | ⟨fields,plainFields,found,plain,rfl,rfl⟩ := where_text deployment tenant id
    · rw [get_of_where_error valid raised,get_of_where_error valid plain]
      exact rfl
    · rw [get_of_where valid found,get_of_where valid plain,plain_lookup]
      cases deployment.store.lookup collection with
      | error failure => exact rfl
      | ok table =>
        have own : ∀ row ∈ (contents (columnOf collection)).filter (carries tenant),
            row.get (columnOf deployment.store.defaultIdColumn) ≠ some (.text id) := by
          intro row inside
          obtain ⟨there,mine⟩ := List.mem_filter.mp inside
          exact (key row there mine).1
        change (((table.indexed _).query _ ((contents (columnOf collection)).filter (carries tenant))).map List.head?) =
          ((table.query _ (contents (columnOf collection))).map List.head?).map _
        rw [query_missing own,map_map]
        have knows : (table.indexed (deployment.unique (columnOf collection))).knows
            [(columnOf deployment.store.defaultIdColumn,.text id)] =
            table.knows [(columnOf deployment.store.defaultIdColumn,.text (tenant ++ ":" ++ id))] := rfl
        rw [knows]
        unfold Table.query
        split
        next =>
          have foreign : (((contents (columnOf collection)).filter (selects
              [(columnOf deployment.store.defaultIdColumn,.text (tenant ++ ":" ++ id))])).head?).filter (carries tenant) =
              none := by
            refine Option.filter_eq_none_iff.mpr fun row first mine => ?_
            obtain ⟨there,selected⟩ := List.mem_filter.mp (List.mem_of_mem_head? first)
            exact (key row there mine).2 (selects_iff.mp selected _ List.mem_cons_self).2
          exact congrArg Except.ok foreign.symm
        next => exact rfl

theorem get_alone {docId : DocId Object} (key : SameKey deployment tenant (contents (columnOf collection)) docId) :
    deployment.plain.get (share tenant contents) collection docId =
      MultitenantProjectionMixin.get deployment.store tenant contents collection docId := by
  cases docId with
  | text id => exact get_text key
  | number id =>
    have kept : Kept deployment tenant (.number id) := key
    exact get_kept kept
  | composite fields nonempty =>
    have kept : Kept deployment tenant (.composite fields nonempty) := key
    exact get_kept kept

theorem mapM_congr {Input Output Raised : Type} {first second : Input → Except Raised Output} {inputs : List Input}
    (same : ∀ input ∈ inputs, first input = second input) : inputs.mapM first = inputs.mapM second := by
  induction inputs with
  | nil => exact rfl
  | cons input rest ih =>
    rw [List.mapM_cons,List.mapM_cons,same input List.mem_cons_self,
      ih fun other inside => same other (List.mem_cons_of_mem input inside)]

theorem mapM_raised {Input Output Raised : Type} {attempt : Input → Except Raised Output} {input : Input}
    {rest : List Input} {failure : Raised} (raised : attempt input = .error failure) :
    (input::rest).mapM attempt = .error failure := by
  rw [List.mapM_cons,raised]
  exact rfl

theorem get_simple {store : SqlStore Object} {docId : DocId Object} {id : Value Object}
    (named : validateIdentifier "table name" collection = .ok ())
    (valid : validateIdentifier "column name" store.defaultIdColumn = .ok ()) (simple : simpleId docId = some id) :
    store.get contents collection docId = (store.lookup collection).bind fun table =>
      (table.query [(columnOf store.defaultIdColumn,id)] (contents (columnOf collection))).map List.head? := by
  refine get_of_where named ?_
  have located (id : Value Object) : store.whereId id = .ok [(columnOf store.defaultIdColumn,id)] := by
    unfold SqlStore.whereId
    rw [valid]
    exact rfl
  cases docId with
  | text text =>
    obtain rfl := Option.some.inj simple
    exact located _
  | number number =>
    obtain rfl := Option.some.inj simple
    exact located _
  | composite fields nonempty => cases simple

omit [DecidableEq Object] in
theorem find?_reverse_of_single {rows : Rows Object} {wanted : Record Object → Bool}
    (single : ∀ first ∈ rows, ∀ second ∈ rows, wanted first = true → wanted second = true → first = second) :
    rows.reverse.find? wanted = rows.find? wanted := by
  cases first : rows.find? wanted with
  | none =>
    refine List.find?_eq_none.mpr fun row inside => ?_
    exact List.find?_eq_none.mp first row (List.mem_reverse.mp inside)
  | some row =>
    cases last : rows.reverse.find? wanted with
    | none =>
      have missed := List.find?_eq_none.mp last row (List.mem_reverse.mpr (List.mem_of_find?_eq_some first))
      exact absurd (List.find?_some first) missed
    | some other =>
      refine congrArg some (single other ?_ row (List.mem_of_find?_eq_some first) (List.find?_some last)
        (List.find?_some first))
      exact List.mem_reverse.mp (List.mem_of_find?_eq_some last)

theorem queryIds_single {table : Table Object} {column : String} {ids : List (Value Object)} {rows : Rows Object}
    (known : column ∈ table.columns) (taken : table.database.takesParameters ids.length = true)
    (single : ∀ first ∈ rows, ∀ second ∈ rows, ∀ id ∈ ids, first.get column = some id → second.get column = some id →
      first = second) :
    SqlStore.queryIds table column ids rows =
      .ok (ids.map fun id => (rows.filter (selects [(column,id)])).head?) := by
  have accepted : ¬ (column ∉ table.columns || !table.database.takesParameters ids.length) = true := by
    simp [known,taken]
  unfold SqlStore.queryIds
  rw [if_neg accepted]
  refine congrArg Except.ok (List.map_congr_left fun id inside => ?_)
  rw [find?_reverse_of_single,← List.head?_filter,List.filter_filter]
  · refine congrArg List.head? (List.filter_congr fun row _ => ?_)
    cases hit : selects [(column,id)] row with
    | false => exact Bool.false_and _
    | true => exact (Bool.true_and _).trans (List.any_eq_true.mpr ⟨id,inside,hit⟩)
  · intro first there second beside one other
    exact single first (List.mem_filter.mp there).1 second (List.mem_filter.mp beside).1 id inside
      (selects_iff.mp one _ List.mem_cons_self).2 (selects_iff.mp other _ List.mem_cons_self).2

omit [DecidableEq Object] in
theorem mapM_simple {docIds : List (DocId Object)} {ids : List (Value Object)}
    (simple : docIds.mapM simpleId = some ids) {Answer : Type} {read : DocId Object → Except Failure Answer}
    {answer : Value Object → Answer} (reads : ∀ docId id, simpleId docId = some id → read docId = .ok (answer id)) :
    docIds.mapM read = .ok (ids.map answer) := by
  induction docIds generalizing ids with
  | nil =>
    obtain rfl := Option.some.inj simple
    exact rfl
  | cons docId rest ih =>
    rw [List.mapM_cons] at simple
    obtain ⟨id,first,later⟩ := Option.bind_eq_some_iff.mp simple
    obtain ⟨others,found,same⟩ := Option.bind_eq_some_iff.mp later
    obtain rfl := Option.some.inj same
    rw [List.mapM_cons,reads docId id first,ih found]
    exact rfl

theorem getBatch_alone {docIds : List (DocId Object)} (confined : BatchConfined deployment tenant contents collection docIds) :
    deployment.plain.getBatch (share tenant contents) collection docIds =
      MultitenantProjectionMixin.getBatch deployment.store tenant contents collection docIds := by
  have each : docIds.mapM (deployment.plain.get (share tenant contents) collection) =
      MultitenantProjectionMixin.getBatch deployment.store tenant contents collection docIds :=
    mapM_congr fun docId inside => get_alone (confined.keys docId inside)
  have valid : validateIdentifier "column name" deployment.plain.defaultIdColumn = .ok () := if_pos confined.column
  rw [← each]
  unfold SqlStore.getBatch
  cases docIds with
  | nil =>
    have named : validateIdentifier "table name" collection = .ok () := if_pos (confined.named rfl)
    rw [named]
    exact rfl
  | cons docId rest =>
    cases named : validateIdentifier "table name" collection with
    | error failure =>
      have all : (docId::rest).mapM (deployment.plain.get (share tenant contents) collection) = .error failure :=
        mapM_raised (get_of_invalid named)
      rw [all]
      exact rfl
    | ok result =>
      rw [valid]
      cases simple : (docId::rest).mapM simpleId with
      | none => exact rfl
      | some ids =>
        have read (docId : DocId Object) (id : Value Object) (simple : simpleId docId = some id) :=
          @get_simple _ _ (share tenant contents) _ _ _ _ named valid simple
        have first : ∃ id, simpleId docId = some id := by
          rw [List.mapM_cons] at simple
          obtain ⟨id,first,_⟩ := Option.bind_eq_some_iff.mp simple
          exact ⟨id,first⟩
        obtain ⟨id,first⟩ := first
        obtain ⟨taken,single⟩ := confined.single ids simple
        have own : ∀ one ∈ share tenant contents (columnOf collection), ∀ other ∈ share tenant contents (columnOf collection),
            ∀ id ∈ ids, one.get (columnOf deployment.plain.defaultIdColumn) = some id →
              other.get (columnOf deployment.plain.defaultIdColumn) = some id → one = other := by
          intro one there other beside id inside
          obtain ⟨there,mine⟩ := List.mem_filter.mp there
          obtain ⟨beside,own⟩ := List.mem_filter.mp beside
          exact single one there other beside mine own id inside
        cases there : deployment.plain.lookup collection with
        | error failure =>
          have all : (docId::rest).mapM (deployment.plain.get (share tenant contents) collection) = .error failure :=
            mapM_raised ((read docId id first).trans (by rw [there]; exact rfl))
          rw [all]
          exact rfl
        | ok table =>
          by_cases known : columnOf deployment.plain.defaultIdColumn ∈ table.columns
          · have parameters : table.database.takesParameters ids.length = true := by
              rw [plain_lookup] at there
              obtain ⟨shared,found,rfl⟩ := map_ok.mp there
              exact taken shared (lookup_ok found)
            refine (queryIds_single known parameters own).trans (mapM_simple simple fun docId id simple => ?_).symm
            refine (read docId id simple).trans ?_
            rw [there]
            change (table.query _ _).map List.head? = _
            unfold Table.query
            rw [if_pos (by simp [Table.knows,known])]
            exact rfl
          · have all : (docId::rest).mapM (deployment.plain.get (share tenant contents) collection) = .error .rejected := by
              refine mapM_raised ((read docId id first).trans ?_)
              rw [there]
              change (table.query _ _).map List.head? = _
              unfold Table.query
              rw [if_neg (by simp [Table.knows,known])]
              exact rfl
            have refused : SqlStore.queryIds table (columnOf deployment.plain.defaultIdColumn) ids
                (share tenant contents (columnOf collection)) = .error .rejected := if_pos (by simp [known])
            rw [all]
            exact refused

theorem find_alone {filterDict : Record Object} (limit offset : Nat)
    (own : ∀ value, filterDict.get "tenant_id" = some value → value = .text tenant) :
    deployment.plain.find (share tenant contents) collection filterDict limit offset =
      MultitenantProjectionMixin.find deployment.store tenant contents collection filterDict limit offset := by
  have names : (labelled tenant filterDict).keys.forM (validateIdentifier "column name") =
      filterDict.keys.forM (validateIdentifier "column name") := by
    unfold Dict.keys labelled Dict.set
    rw [Dict.put_keys]
    split
    next => exact rfl
    next => exact names_with_tenant _
  unfold MultitenantProjectionMixin.find SqlStore.find
  rw [names,plain_lookup]
  cases validateIdentifier "table name" collection with
  | error failure => exact rfl
  | ok named =>
    cases filterDict.keys.forM (validateIdentifier "column name") with
    | error failure => exact rfl
    | ok valid =>
      cases there : deployment.store.lookup collection with
      | error failure => exact rfl
      | ok table =>
        have locates : Locates deployment tenant
            ((labelled tenant filterDict).entries.map fun entry => (columnOf entry.1,entry.2))
            (filterDict.entries.map fun entry => (columnOf entry.1,entry.2)) := by
          have all (test : String × Value Object → Bool) :
              ((labelled tenant filterDict).entries.map fun entry => (columnOf entry.1,entry.2)).all test =
                ((filterDict.entries.map fun entry => (columnOf entry.1,entry.2)).all test &&
                  test ("tenant_id",.text tenant)) := by
            rw [List.all_map,List.all_map]
            refine (Dict.all_set _ own).trans (congrArg _ ?_)
            simp only [Function.comp_apply,columnOf_tenant]
          constructor
          · intro name table there
            have known : decide ("tenant_id" ∈ table.columns) = true :=
              decide_eq_true (deployment.has_tenant name table there)
            exact (all _).trans (by rw [known,Bool.and_true]; exact rfl)
          · intro row
            refine (all _).trans (congrArg _ ?_)
            exact decide_eq_decide.mpr ⟨And.right,fun mine => ⟨by simp,mine⟩⟩
        exact congrArg (fun queried => Except.bind queried fun rows => pure ((rows.drop offset).take limit))
          (query_located (lookup_ok there) locates _ _)

end Reads

section Writes

variable [DecidableEq Object] {contents : Contents Object} {name collection : String}

/-- No table has two rows with the same values in a unique index. -/
def Consistent (deployment : TenantDeployment Object) (contents : Contents Object) : Prop :=
  ∀ name table, deployment.store.tables name = some table → Unique conflicts table.unique (contents name)

/-- The rows of one table as a statement leaves them, shared and alone. -/
structure SameRows (deployment : TenantDeployment Object) (tenant : String) (contents : Contents Object) (name : String)
    (shared alone : Except Failure (Rows Object)) : Prop where
  own : alone = shared.map (List.filter (carries tenant))
  unique : ∀ after, shared = .ok after → ∀ table, deployment.store.tables name = some table →
    Unique conflicts table.unique after
  others : ∀ after, shared = .ok after → ∀ other, other ≠ tenant →
    after.filter (carries other) = (contents name).filter (carries other)

theorem SameRows.error (failure : Failure) :
    SameRows deployment tenant contents name (.error failure) (.error failure) where
  own := rfl
  unique := fun _ done => nomatch done
  others := fun _ done => nomatch done

/-- The tables as a call leaves them and its answer, shared and alone. -/
structure SameTables {Answer : Type} (deployment : TenantDeployment Object) (tenant : String) (contents : Contents Object)
    (shared alone : Except Failure (Contents Object × Answer)) : Prop where
  own : alone = shared.map fun result => (share tenant result.1,result.2)
  consistent : ∀ result, shared = .ok result → Consistent deployment result.1
  others : ∀ result, shared = .ok result → ∀ other, other ≠ tenant → share other result.1 = share other contents

theorem SameTables.error {Answer : Type} (failure : Failure) :
    SameTables deployment tenant contents (.error failure : Except Failure (Contents Object × Answer)) (.error failure) where
  own := rfl
  consistent := fun _ done => nomatch done
  others := fun _ done => nomatch done

theorem SameTables.same {Answer : Type} (consistent : Consistent deployment contents) (answer : Answer) :
    SameTables deployment tenant contents (.ok (contents,answer)) (.ok (share tenant contents,answer)) where
  own := rfl
  consistent := fun _ done => Except.ok.inj done ▸ consistent
  others := fun _ done _ _ => Except.ok.inj done ▸ rfl

theorem share_update (one : String) (contents : Contents Object) (name : String) (rows : Rows Object) :
    share one (Function.update contents name rows) =
      Function.update (share one contents) name (rows.filter (carries one)) := by
  funext other
  unfold share
  by_cases here : other = name
  · subst here
    rw [Function.update_self,Function.update_self]
  · rw [Function.update_of_ne here,Function.update_of_ne here]

theorem SameRows.tables {Answer : Type} {shared alone : Except Failure (Rows Object)}
    (same : SameRows deployment tenant contents name shared alone) (consistent : Consistent deployment contents)
    (answer : Answer) : SameTables deployment tenant contents
      (shared.map fun rows => (Function.update contents name rows,answer))
      (alone.map fun rows => (Function.update (share tenant contents) name rows,answer)) := by
  obtain ⟨rfl,unique,others⟩ := same
  cases shared with
  | error failure => exact .error failure
  | ok rows =>
    refine ⟨congrArg Except.ok (Prod.ext (share_update tenant contents name rows).symm rfl),fun result done => ?_,
      fun result done other differs => ?_⟩
    · obtain rfl := Except.ok.inj done
      intro other table there
      by_cases here : other = name
      · subst here
        dsimp only
        rw [Function.update_self]
        exact unique rows rfl table there
      · dsimp only
        rw [Function.update_of_ne here]
        exact consistent other table there
    · obtain rfl := Except.ok.inj done
      rw [share_update,others rows rfl other differs]
      exact Function.update_eq_self name (share other contents)

theorem SameRows.saved {Answer : Type} {shared alone : Except Failure (Rows Object)}
    (same : SameRows deployment tenant contents name shared alone) (consistent : Consistent deployment contents)
    (answer : Answer) : SameTables deployment tenant contents
      ((shared >>= fun rows => pure (Function.update contents name rows)).map (·,answer))
      ((alone >>= fun rows => pure (Function.update (share tenant contents) name rows)).map (·,answer)) := by
  have written := same.tables consistent answer
  obtain ⟨rfl,_,_⟩ := same
  cases shared with
  | error failure => exact .error failure
  | ok rows => exact written

theorem SameRows.committed {shared alone : Except Failure (Rows Object)}
    (same : SameRows deployment tenant contents name shared alone) (consistent : Consistent deployment contents)
    (commits : Bool) : SameTables deployment tenant contents
      (shared >>= fun rows => pure (if commits then Function.update contents name rows else contents,true))
      (alone >>= fun rows =>
        pure (if commits then Function.update (share tenant contents) name rows else share tenant contents,true)) := by
  have written := same.tables consistent true
  obtain ⟨rfl,_,_⟩ := same
  cases shared with
  | error failure => exact .error failure
  | ok rows =>
    cases commits with
    | true => exact written
    | false => exact .same consistent true

theorem SameTables.map {Answer Reply : Type} {shared alone : Except Failure (Contents Object × Answer)}
    (same : SameTables deployment tenant contents shared alone) (reply : Answer → Reply) :
    SameTables deployment tenant contents (shared.map fun result => (result.1,reply result.2))
      (alone.map fun result => (result.1,reply result.2)) := by
  obtain ⟨rfl,consistent,others⟩ := same
  cases shared with
  | error failure => exact .error failure
  | ok result =>
    refine ⟨rfl,fun _ done => ?_,fun _ done => ?_⟩
    · obtain rfl := Except.ok.inj done
      exact consistent result rfl
    · obtain rfl := Except.ok.inj done
      exact others result rfl

theorem sameRows_filter (keep plainKeep : Record Object → Bool) (consistent : Consistent deployment contents)
    (own : ∀ row ∈ contents name, carries tenant row = true → keep row = plainKeep row)
    (foreign : ∀ row ∈ contents name, carries tenant row = false → keep row = true) :
    SameRows deployment tenant contents name (.ok ((contents name).filter keep))
      (.ok ((share tenant contents name).filter plainKeep)) := by
  refine ⟨congrArg Except.ok ?_,fun after done table there => ?_,fun after done other differs => ?_⟩
  · unfold share
    rw [List.filter_filter,List.filter_filter]
    refine List.filter_congr fun row there => ?_
    cases mine : carries tenant row with
    | true => rw [Bool.and_true,Bool.true_and,own row there mine]
    | false => rw [Bool.and_false,Bool.false_and]
  · obtain rfl := Except.ok.inj done
    exact fun index inside => (consistent name table there index inside).filter keep
  · obtain rfl := Except.ok.inj done
    rw [List.filter_filter]
    refine List.filter_congr fun row there => ?_
    cases theirs : carries other row with
    | true => rw [foreign row there (carries_other differs theirs)]; exact rfl
    | false => exact rfl

theorem sameRows_insert {table : Table Object} {target updates aloneTarget aloneUpdates : List String}
    {fresh : Rows Object} (consistent : Consistent deployment contents)
    (stored : deployment.store.tables name = some table) (mine : ∀ row ∈ fresh, carries tenant row = true)
    (inserts : Inserts table (deployment.unique name) tenant target updates aloneTarget fresh (contents name))
    (targets : withoutTenant target = withoutTenant aloneTarget)
    (columns : withoutTenant updates = withoutTenant aloneUpdates) (empty : updates.isEmpty = aloneUpdates.isEmpty) :
    SameRows deployment tenant contents name (table.insert target updates fresh (contents name))
      ((table.indexed (deployment.unique name)).insert aloneTarget aloneUpdates fresh (share tenant contents name)) := by
  obtain ⟨own,kept⟩ := insert_own (consistent name table stored) mine inserts targets columns empty
    (deployment.same_indexes name table stored)
  refine ⟨own,fun after done other there => ?_,fun after done => (kept after done).2⟩
  obtain rfl := Option.some.inj (stored.symm.trans there)
  exact (kept after done).1

def SameDelete {Answer : Type} (deployment : TenantDeployment Object) (tenant : String) (contents : Contents Object)
    (collection : String) (docId : DocId Object) (answer : Answer) : Prop :=
  SameTables deployment tenant contents
    ((MultitenantProjectionMixin.delete deployment.store tenant contents collection docId).map (·,answer))
    ((deployment.plain.delete (share tenant contents) collection docId).map (·,answer))

theorem delete_selected {Answer : Type} {docId : DocId Object} {fields plainFields : List (String × Value Object)}
    (consistent : Consistent deployment contents)
    (found : deployment.store.whereFromDocId (tenantDocId tenant docId) = .ok fields)
    (plain : deployment.plain.whereFromDocId docId = .ok plainFields)
    (knows : ∀ name table, deployment.store.tables name = some table → table.knows fields = table.knows plainFields)
    (own : ∀ row ∈ contents (columnOf collection), carries tenant row = true →
      selects fields row = selects plainFields row)
    (foreign : ∀ row ∈ contents (columnOf collection), carries tenant row = false → selects fields row = false)
    (answer : Answer) : SameDelete deployment tenant contents collection docId answer := by
  unfold SameDelete MultitenantProjectionMixin.delete SqlStore.delete
  rw [found,plain,plain_lookup]
  cases validateIdentifier "table name" collection with
  | error failure => exact .error failure
  | ok named =>
    cases there : deployment.store.lookup collection with
    | error failure => exact .error failure
    | ok table =>
      have same : (table.indexed (deployment.unique (columnOf collection))).knows plainFields = table.knows fields :=
        (knows _ table (lookup_ok there)).symm
      have kept := sameRows_filter (fun row => !selects fields row) (fun row => !selects plainFields row) consistent
        (fun row inside mine => congrArg (!·) (own row inside mine))
        fun row inside theirs => by rw [foreign row inside theirs]; exact rfl
      cases known : table.knows fields with
      | false =>
        rw [known] at same
        simp only [bind,Except.bind,Except.map,known,same,Bool.not_false,if_true]
        exact .error _
      | true =>
        rw [known] at same
        simp only [bind,Except.bind,Except.map,known,same,Bool.not_true,Bool.false_eq_true,if_false]
        exact kept.tables consistent answer

theorem delete_same {Answer : Type} {docId : DocId Object} (consistent : Consistent deployment contents)
    (key : SameKey deployment tenant (contents (columnOf collection)) docId)
    (prefixed : ∀ id, docId = .text id → ∀ row ∈ contents (columnOf collection),
      row.get (columnOf deployment.store.defaultIdColumn) ≠ some (.text (tenant ++ ":" ++ id))) (answer : Answer) :
    SameDelete deployment tenant contents collection docId answer := by
  have raises {failure : Failure}
      (found : deployment.store.whereFromDocId (tenantDocId tenant docId) = .error failure)
      (plain : deployment.plain.whereFromDocId docId = .error failure) :
      SameDelete deployment tenant contents collection docId answer := by
    unfold SameDelete MultitenantProjectionMixin.delete SqlStore.delete
    rw [found,plain]
    cases validateIdentifier "table name" collection with
    | error invalid => exact .error invalid
    | ok named => exact .error failure
  have located (kept : Kept deployment tenant docId) : SameDelete deployment tenant contents collection docId answer := by
    obtain ⟨failure,found,plain⟩ | ⟨fields,plainFields,found,plain,locates⟩ := where_kept kept
    · exact raises found plain
    · refine delete_selected consistent found plain locates.knows (fun row _ mine => ?_) (fun row _ theirs => ?_) answer
      · rw [locates.selects,mine,Bool.and_true]
      · rw [locates.selects,theirs,Bool.and_false]
  cases docId with
  | text id =>
    obtain ⟨failure,found,plain⟩ | ⟨fields,plainFields,found,plain,rfl,rfl⟩ := where_text deployment tenant id
    · exact raises found plain
    · have missed {value : Value Object} {row : Record Object}
          (differs : row.get (columnOf deployment.store.defaultIdColumn) ≠ some value) :
          selects [(columnOf deployment.store.defaultIdColumn,value)] row = false :=
        Bool.eq_false_iff.mpr fun selected => differs (selects_iff.mp selected _ List.mem_cons_self).2
      refine delete_selected consistent found plain (fun _ _ _ => rfl) (fun row inside mine => ?_)
        (fun row inside _ => missed (prefixed id rfl row inside)) answer
      rw [missed (prefixed id rfl row inside),missed (key row inside mine).1]
  | number id => exact located key
  | composite fields nonempty => exact located key

end Writes

section Upserts

theorem addEventMetadata_get (data : Record Object) (eventPosition : Option Int) (eventId : Option String)
    {column : String} (own : column ∉ excludeFromUpdate) :
    (addEventMetadata data eventPosition eventId).get column = data.get column := by
  simp only [excludeFromUpdate,List.mem_cons,List.not_mem_nil,or_false,not_or] at own
  unfold addEventMetadata
  cases eventPosition with
  | none =>
    cases eventId with
    | none => exact rfl
    | some id => exact Dict.get_set_other _ _ own.2.1
  | some position =>
    cases eventId with
    | none => exact (Dict.get_set_other _ _ own.2.2).trans (Dict.get_set_other _ _ own.1)
    | some id =>
      exact (Dict.get_set_other _ _ own.2.2).trans ((Dict.get_set_other _ _ own.2.1).trans (Dict.get_set_other _ _ own.1))

theorem prepare_number {record : Record Object} {id : Int} (numbered : record.get "id" = some (.number id)) :
    prepareUpsertData (tenantDocId tenant (.number id)) (labelled tenant record) =
      labelled tenant record := by
  have carried : (labelled tenant record).get "tenant_id" = some (.text tenant) := record.get_set_same _ _
  have kept : (labelled tenant record).get "id" = some (.number id) := by
    rw [labelled,Dict.get_set_other _ _ (by decide)]
    exact numbered
  change ((labelled tenant record).set "tenant_id" (.text tenant)).set "id" (.number id) = _
  rw [Dict.set_of_get carried,Dict.set_of_get kept]

theorem columns_alone {docId : DocId Object} {record : Record Object} {eventPosition : Option Int}
    {eventId : Option String} (kept : ∀ fields nonempty, docId = .composite fields nonempty →
      fields.get "tenant_id" = some (.text tenant))
    (numbered : Numbered record (columns tenant docId record eventPosition eventId) docId) :
    addEventMetadata (prepareUpsertData docId (labelled tenant record)) eventPosition eventId =
      columns tenant docId record eventPosition eventId := by
  unfold columns
  refine congrArg (addEventMetadata · eventPosition eventId) ?_
  cases docId with
  | text id => exact rfl
  | number id => exact (prepare_number numbered.1).symm
  | composite fields nonempty => rw [tenantDocId_composite (kept fields nonempty rfl)]

variable [DecidableEq Object] {contents : Contents Object} {collection : String}

theorem carries_columns (tenant : String) (docId : DocId Object) (record : Record Object) (eventPosition : Option Int)
    (eventId : Option String) : carries tenant (columns tenant docId record eventPosition eventId) = true := by
  refine decide_eq_true ?_
  rw [columns,addEventMetadata_get _ _ _ (by decide)]
  have own := record.get_set_same "tenant_id" (.text tenant)
  cases docId with
  | text id => exact own
  | number id =>
    change (Dict.update (labelled tenant record) _).get "tenant_id" = _
    rw [get_update]
    exact rfl
  | composite fields nonempty =>
    change (Dict.update (labelled tenant record) (labelled tenant fields)).get "tenant_id" = _
    have first := fields.get_set_same "tenant_id" (.text tenant)
    rw [get_update,labelled,labelled,first]
    exact rfl

theorem upsertImpl_same {docId : DocId Object} {data : Record Object} (consistent : Consistent deployment contents)
    (mine : carries tenant data = true)
    {alike : List (String × Value Object) → List (String × Value Object) → Prop}
    (located : Located deployment tenant docId alike) {target updates aloneTarget aloneUpdates : List String}
    (target_eq : (deployment.store.conflictColumns (tenantDocId tenant docId)).map columnOf =
      target)
    (updates_eq : (updateColumns (deployment.store.conflictColumns (tenantDocId tenant docId))
      data).map Prod.fst = updates)
    (alone_target : (deployment.store.conflictColumns docId).map columnOf = aloneTarget)
    (alone_updates : (updateColumns (deployment.store.conflictColumns docId) data).map Prod.fst = aloneUpdates)
    (inserts : ∀ table, deployment.store.tables (columnOf collection) = some table →
      Inserts table (deployment.unique (columnOf collection)) tenant target updates aloneTarget [data]
        (contents (columnOf collection)))
    (targets : withoutTenant target = withoutTenant aloneTarget)
    (same_columns : withoutTenant updates = withoutTenant aloneUpdates) (empty : updates.isEmpty = aloneUpdates.isEmpty) :
    SameRows deployment tenant contents (columnOf collection)
      (deployment.store.upsertImpl contents collection (tenantDocId tenant docId) data)
      (deployment.plain.upsertImpl (share tenant contents) collection docId data) := by
  have plain_columns : deployment.plain.conflictColumns docId = deployment.store.conflictColumns docId := rfl
  subst target_eq updates_eq alone_target alone_updates
  unfold SqlStore.upsertImpl
  rw [plain_lookup,plain_columns]
  cases data.keys.forM (validateIdentifier "column name") with
  | error failure => exact .error failure
  | ok named =>
    obtain ⟨failure,found,plain⟩ | ⟨fields,plainFields,found,plain,_⟩ := located
    · rw [found,plain]
      exact .error failure
    · rw [found,plain]
      cases there : deployment.store.lookup collection with
      | error failure => exact .error failure
      | ok table =>
        cases broken : data.keys.any (·.toList.contains '\n') with
        | true => exact .error .rejected
        | false =>
          have stored := lookup_ok there
          exact sameRows_insert consistent stored (fun row inside => List.mem_singleton.mp inside ▸ mine)
            (inserts table stored) targets same_columns empty

omit [DecidableEq Object] in
theorem tenantDocId_twice {docId : DocId Object} (kept : Kept deployment tenant docId) :
    tenantDocId tenant (tenantDocId tenant docId) =
      tenantDocId tenant docId := by
  cases docId with
  | text id => exact kept.elim
  | number id => exact tenantDocId_composite rfl
  | composite fields nonempty => rw [tenantDocId_composite kept,tenantDocId_composite kept]

theorem checked_same {docId : DocId Object} {eventPosition : Option Int} {eventId : Option String}
    (checked : Checked deployment tenant contents collection eventPosition eventId docId) :
    SqlStore.shouldSkipUpsert (MultitenantProjectionMixin.get deployment.store tenant contents collection
        (tenantDocId tenant docId)) eventPosition eventId =
      SqlStore.shouldSkipUpsert (deployment.plain.get (share tenant contents) collection docId) eventPosition eventId := by
  have again (kept : Kept deployment tenant docId) :
      MultitenantProjectionMixin.get deployment.store tenant contents collection
        (tenantDocId tenant docId) =
      deployment.plain.get (share tenant contents) collection docId := by
    rw [get_kept kept,MultitenantProjectionMixin.get,tenantDocId_twice kept]
    exact rfl
  cases docId with
  | text id => exact checked
  | number id => exact congrArg (SqlStore.shouldSkipUpsert · eventPosition eventId) (again checked)
  | composite fields nonempty => exact congrArg (SqlStore.shouldSkipUpsert · eventPosition eventId) (again checked)

omit [DecidableEq Object] in
theorem updateColumns_number (data : Record Object) :
    withoutTenant ((updateColumns ["tenant_id","id"] data).map Prod.fst) =
      withoutTenant ((updateColumns ["id"] data).map Prod.fst) := by
  unfold withoutTenant updateColumns
  rw [List.filter_map,List.filter_map,List.filter_filter,List.filter_filter]
  refine congrArg _ (List.filter_congr fun entry _ => ?_)
  by_cases here : entry.1 = "tenant_id"
  · simp [here]
  · simp [here]

omit [DecidableEq Object] in
theorem updateColumns_nonempty {data : Record Object} (some_column : updateColumns ["tenant_id","id"] data ≠ []) :
    updateColumns ["id"] data ≠ [] := by
  obtain ⟨entry,member⟩ := List.exists_mem_of_ne_nil _ some_column
  obtain ⟨there,own⟩ := List.mem_filter.mp member
  refine List.ne_nil_of_mem (List.mem_filter.mpr ⟨there,?_⟩)
  have both := of_decide_eq_true own
  exact decide_eq_true ⟨fun inside => both.1 (List.mem_cons_of_mem _ inside),both.2⟩

theorem written_same {docId : DocId Object} {data : Document Object} {record : Record Object}
    {eventPosition : Option Int} {eventId : Option String} (consistent : Consistent deployment contents)
    (confined : UpsertConfined deployment tenant contents collection docId data eventPosition eventId)
    (dict : data.asDict = .ok record)
    (fresh : SqlStore.shouldSkipUpsert (deployment.plain.get (share tenant contents) collection docId) eventPosition
      eventId = .ok false) :
    SameRows deployment tenant contents (columnOf collection)
      (deployment.store.upsertImpl contents collection (tenantDocId tenant docId)
        (columns tenant docId record eventPosition eventId))
      (deployment.plain.upsertImpl (share tenant contents) collection docId
        (addEventMetadata (prepareUpsertData docId (labelled tenant record)) eventPosition eventId)) := by
  obtain ⟨numbered,inserts⟩ := confined.inserted fresh record dict
  have mine := carries_columns tenant docId record eventPosition eventId
  have checked := confined.checked
  have kept : ∀ fields nonempty, docId = .composite fields nonempty → fields.get "tenant_id" = some (.text tenant) := by
    rintro fields nonempty rfl
    exact checked
  rw [columns_alone kept numbered]
  cases docId with
  | text id =>
    exact upsertImpl_same consistent mine (where_text deployment tenant id) rfl rfl rfl rfl inserts rfl rfl rfl
  | number id =>
    have default : deployment.store.defaultIdColumn = "id" := checked
    have alone : deployment.store.conflictColumns (.number id : DocId Object) = ["id"] := congrArg (fun name => [name]) default
    refine upsertImpl_same consistent mine (where_kept checked) rfl rfl rfl rfl inserts ?_ ?_ ?_
    · rw [alone]
      change withoutTenant [columnOf "tenant_id",columnOf "id"] = withoutTenant [columnOf "id"]
      rw [columnOf_tenant,columnOf_id]
      decide
    · rw [alone]
      exact updateColumns_number _
    · have first : ((updateColumns ["tenant_id","id"]
          (columns tenant (.number id) record eventPosition eventId)).map Prod.fst).isEmpty = false := by
        rw [List.isEmpty_map]
        exact List.isEmpty_eq_false_iff.mpr numbered.2
      have second : ((updateColumns ["id"]
          (columns tenant (.number id) record eventPosition eventId)).map Prod.fst).isEmpty = false := by
        rw [List.isEmpty_map]
        exact List.isEmpty_eq_false_iff.mpr (updateColumns_nonempty numbered.2)
      rw [alone,second]
      exact first
  | composite fields nonempty =>
    have same : tenantDocId tenant (.composite fields nonempty) =
        .composite fields nonempty := tenantDocId_composite checked
    refine upsertImpl_same consistent mine (where_kept checked) rfl rfl rfl rfl inserts ?_ ?_ ?_
    · rw [same]
    · rw [same]
    · rw [same]

omit [DecidableEq Object] in
theorem asDict_uniform {data : Document Object} (tenant : String) (uniform : Uniform data) : ∃ record,
    data.asDict = .ok record ∧
      (tenantData tenant data).asDict = .ok (labelled tenant record) ∧
      (tenantDoc tenant data).asDict = .ok (labelled tenant record) ∧
      (data.labelled tenant).asDict = .ok (labelled tenant record) := by
  cases data with
  | dict record => exact ⟨record,rfl,rfl,rfl,rfl⟩
  | model python json =>
    obtain rfl : python = json := uniform
    exact ⟨python,rfl,rfl,rfl,rfl⟩
  | other object items => exact uniform.elim

theorem upsert_same {docId : DocId Object} {data : Document Object} {eventPosition : Option Int}
    {eventId : Option String} (consistent : Consistent deployment contents)
    (confined : UpsertConfined deployment tenant contents collection docId data eventPosition eventId) (uow : Bool) :
    SameTables deployment tenant contents
      (MultitenantProjectionMixin.upsert deployment.store tenant contents uow collection docId data eventPosition eventId)
      (deployment.plain.upsert (deployment.plain.get (share tenant contents) collection) (share tenant contents) uow
        collection docId (data.labelled tenant) eventPosition eventId) := by
  obtain ⟨record,dict,mixed,_,alone⟩ := asDict_uniform tenant confined.uniform
  unfold MultitenantProjectionMixin.upsert SqlStore.upsert
  rw [mixed,alone,checked_same confined.checked]
  cases validateIdentifier "table name" collection with
  | error failure => exact .error failure
  | ok named =>
    cases fresh : SqlStore.shouldSkipUpsert (deployment.plain.get (share tenant contents) collection docId) eventPosition
        eventId with
    | error failure => exact .error failure
    | ok skipped =>
      cases skipped with
      | true => exact .same consistent false
      | false =>
        have rows := written_same consistent confined dict fresh
        exact rows.committed consistent (uow || deployment.store.commits)

omit [DecidableEq Object] in
theorem mapM_asDict {docs : List (Document Object)} (tenant : String) (uniform : ∀ doc ∈ docs, Uniform doc) :
    ∃ records : List (Record Object),
      (docs.map (tenantDoc tenant)).mapM Document.asDict = .ok (records.map (labelled tenant)) ∧
      (docs.map (Document.labelled tenant)).mapM Document.asDict = .ok (records.map (labelled tenant)) := by
  induction docs with
  | nil => exact ⟨[],rfl,rfl⟩
  | cons doc rest ih =>
    obtain ⟨record,_,_,mixed,alone⟩ := asDict_uniform tenant (uniform doc List.mem_cons_self)
    obtain ⟨records,others,lonely⟩ := ih fun other inside => uniform other (List.mem_cons_of_mem doc inside)
    refine ⟨record::records,?_,?_⟩
    · rw [List.map_cons,List.mapM_cons,mixed,others]
      exact rfl
    · rw [List.map_cons,List.mapM_cons,alone,lonely]
      exact rfl

theorem carries_batch {idField : String} {records fresh : List (Record Object)}
    (bound : (batchStatement idField (records.map (labelled tenant))).placeholders.mapM
      (valuesRow (batchParams (records.map (labelled tenant)))
        (batchStatement idField (records.map (labelled tenant))).columns) = .ok fresh) :
    ∀ row ∈ fresh, carries tenant row = true := by
  obtain ⟨_,rfl⟩ := batch_rows.mp bound
  intro row inside
  obtain ⟨doc,there,rfl⟩ := List.mem_map.mp inside
  obtain ⟨record,_,rfl⟩ := List.mem_map.mp there
  have named : "tenant_id" ∈ (batchStatement idField (records.map (labelled tenant))).columns := by
    cases records with
    | nil => cases there
    | cons first rest => exact mem_keys.mpr (by rw [labelled,Dict.get_set_same]; exact rfl)
  refine decide_eq_true ?_
  rw [proposed,overwrite_get,if_pos named,labelled,Dict.get_set_same]
  exact rfl

theorem upsertBatch_same {Answer : Type} {docs : List (Document Object)} {idField : String}
    (consistent : Consistent deployment contents) (uniform : ∀ doc ∈ docs, Uniform doc)
    (inserts : ∀ normalized, (docs.map (tenantDoc tenant)).mapM Document.asDict =
        .ok normalized →
      ∀ table, deployment.store.tables (columnOf collection) = some table →
        ∀ fresh, (batchStatement idField normalized).placeholders.mapM
            (valuesRow (batchParams normalized) (batchStatement idField normalized).columns) = .ok fresh →
          Inserts table (deployment.unique (columnOf collection)) tenant [columnOf idField]
            (batchStatement idField normalized).updates [columnOf idField] fresh (contents (columnOf collection)))
    (answer : Answer) : SameTables deployment tenant contents
      ((MultitenantProjectionMixin.upsertBatch deployment.store tenant contents collection docs idField).map (·,answer))
      ((deployment.plain.upsertBatch (share tenant contents) collection (docs.map (Document.labelled tenant)) idField).map
        (·,answer)) := by
  obtain ⟨records,mixed,alone⟩ := mapM_asDict tenant uniform
  have empties : (docs.map (tenantDoc tenant)).isEmpty =
      (docs.map (Document.labelled tenant)).isEmpty := by rw [List.isEmpty_map,List.isEmpty_map]
  unfold MultitenantProjectionMixin.upsertBatch SqlStore.upsertBatch
  rw [mixed,alone,empties,plain_lookup]
  cases validateIdentifier "table name" collection with
  | error failure => exact .error failure
  | ok named =>
    cases validateIdentifier "column name" idField with
    | error failure => exact .error failure
    | ok valid =>
      cases (docs.map (Document.labelled tenant)).isEmpty with
      | true => exact .same consistent answer
      | false =>
        simp only [bind,Except.bind,Bool.false_eq_true,if_false]
        cases (records.map (labelled tenant)).forM fun doc : Record Object =>
            doc.keys.forM (validateIdentifier "column name") with
        | error failure => exact .error failure
        | ok columns =>
          cases there : deployment.store.lookup collection with
          | error failure => exact .error failure
          | ok table =>
            have indexed : (Except.ok table : Except Failure (Table Object)).map
                (·.indexed (deployment.unique (columnOf collection))) =
                .ok (table.indexed (deployment.unique (columnOf collection))) := rfl
            rw [indexed]
            dsimp only
            cases bound : (batchStatement idField (records.map (labelled tenant))).placeholders.mapM
                (valuesRow (batchParams (records.map (labelled tenant)))
                  (batchStatement idField (records.map (labelled tenant))).columns) with
            | error failure => exact .error failure
            | ok fresh =>
              have stored := lookup_ok there
              have rows := sameRows_insert consistent stored (carries_batch bound)
                (inserts _ mixed table stored fresh bound) rfl rfl rfl
              have refused : refuses (table.indexed (deployment.unique (columnOf collection))).database =
                  refuses table.database := rfl
              rw [refused]
              dsimp only
              cases refuses table.database (batchStatement idField (records.map (labelled tenant))) fresh with
              | true => exact .error .rejected
              | false => exact rows.saved consistent answer

end Upserts

section Histories

variable [DecidableEq Object] {contents : Contents Object} {call : TenantCall Object}

/-- What one call does: it acts on the rows of its tenant, as it would where they are all there is. -/
structure Simulated (deployment : TenantDeployment Object) (contents : Contents Object) (call : TenantCall Object) :
    Prop where
  consistent : Consistent deployment (step deployment contents call)
  others : ∀ other, other ≠ call.tenant → share other (step deployment contents call) = share other contents
  own : stepAlone deployment (share call.tenant contents) call = share call.tenant (step deployment contents call)
  same : answerAlone deployment (share call.tenant contents) call = answer deployment contents call

theorem simulated_of_read {reply : Except Failure (ProjectionAnswer Object)} (consistent : Consistent deployment contents)
    (mixed : MultitenantProjectionMixin.perform deployment.store call.tenant contents call.call = (reply,contents))
    (plain : deployment.plain.perform (share call.tenant contents) call.alone = (reply,share call.tenant contents)) :
    Simulated deployment contents call := by
  have stepped : step deployment contents call = contents := congrArg Prod.snd mixed
  refine ⟨?_,fun other _ => ?_,?_,?_⟩
  · rw [stepped]
    exact consistent
  · rw [stepped]
  · rw [stepped]
    exact congrArg Prod.snd plain
  · exact (congrArg Prod.fst plain).trans (congrArg Prod.fst mixed).symm

theorem SameTables.simulated {shared alone : Except Failure (Contents Object × ProjectionAnswer Object)}
    (same : SameTables deployment call.tenant contents shared alone) (consistent : Consistent deployment contents)
    (mixed : MultitenantProjectionMixin.perform deployment.store call.tenant contents call.call =
      SqlStore.settled contents shared)
    (plain : deployment.plain.perform (share call.tenant contents) call.alone =
      SqlStore.settled (share call.tenant contents) alone) : Simulated deployment contents call := by
  obtain ⟨rfl,kept,others⟩ := same
  cases shared with
  | error failure => exact simulated_of_read consistent mixed plain
  | ok result =>
    have stepped : step deployment contents call = result.1 := congrArg Prod.snd mixed
    refine ⟨?_,fun other differs => ?_,?_,?_⟩
    · rw [stepped]
      exact kept result rfl
    · rw [stepped]
      exact others result rfl other differs
    · rw [stepped]
      exact congrArg Prod.snd plain
    · exact (congrArg Prod.fst plain).trans (congrArg Prod.fst mixed).symm

theorem simulated_of_confined (consistent : Consistent deployment contents)
    (confined : Confined deployment contents call) : Simulated deployment contents call := by
  obtain ⟨tenant,collection,uow,operation⟩ := call
  cases operation with
  | get docId =>
    exact simulated_of_read consistent rfl
      (congrArg (fun found => (Except.map ProjectionAnswer.row found,share tenant contents)) (get_alone confined))
  | getBatch docIds =>
    exact simulated_of_read consistent rfl
      (congrArg (fun found => (Except.map ProjectionAnswer.rows found,share tenant contents)) (getBatch_alone confined))
  | find filterDict limit offset =>
    exact simulated_of_read consistent rfl (congrArg (fun found => (Except.map ProjectionAnswer.found found,share tenant contents))
      (find_alone limit offset confined))
  | upsert docId data eventPosition eventId =>
    exact ((upsert_same consistent confined uow).map .upserted).simulated consistent rfl rfl
  | upsertBatch docs idField =>
    exact (upsertBatch_same consistent confined.1 confined.2 ProjectionAnswer.none).simulated consistent rfl rfl
  | delete docId =>
    exact (delete_same consistent confined.1 confined.2 ProjectionAnswer.none).simulated consistent rfl rfl

omit [DecidableEq Object] in
theorem docIdAfter_kept {docId : DocId Object} (kept : ∀ fields nonempty, docId = .composite fields nonempty →
    fields.get "tenant_id" = some (.text tenant)) : docIdAfter tenant docId = docId := by
  cases docId with
  | text id => exact rfl
  | number id => exact rfl
  | composite fields nonempty => exact tenantDocId_composite (kept fields nonempty rfl)

theorem kept_of_sameKey {rows : Rows Object} {docId : DocId Object} (key : SameKey deployment tenant rows docId) :
    ∀ fields nonempty, docId = .composite fields nonempty → fields.get "tenant_id" = some (.text tenant) := by
  rintro fields nonempty rfl
  exact key

omit [DecidableEq Object] in
theorem docIdsAfter_kept {Answer : Type} {read : DocId Object → Except Failure Answer} {docIds : List (DocId Object)}
    (kept : ∀ docId ∈ docIds, docIdAfter tenant docId = docId) :
    docIdsAfter tenant read docIds = docIds := by
  induction docIds with
  | nil => exact rfl
  | cons docId rest ih =>
    have later := ih fun other inside => kept other (List.mem_cons_of_mem docId inside)
    unfold docIdsAfter
    rw [kept docId List.mem_cons_self]
    cases read docId with
    | error failure => exact rfl
    | ok answer => exact congrArg _ later

theorem arguments_of_confined (confined : Confined deployment contents call) :
    MultitenantProjectionMixin.argumentsAfter deployment.store call.tenant contents call.call = call.call.operation := by
  obtain ⟨tenant,collection,uow,operation⟩ := call
  cases operation with
  | get docId => exact congrArg ProjectionOperation.get (docIdAfter_kept (kept_of_sameKey confined))
  | getBatch docIds =>
    have keys : BatchConfined deployment tenant contents collection docIds := confined
    exact congrArg ProjectionOperation.getBatch
      (docIdsAfter_kept fun docId inside => docIdAfter_kept (kept_of_sameKey (keys.keys docId inside)))
  | find filterDict limit offset => exact rfl
  | upsert docId data eventPosition eventId =>
    have fits : UpsertConfined deployment tenant contents collection docId data eventPosition eventId := confined
    have key : docIdAfter tenant docId = docId := by
      refine docIdAfter_kept ?_
      rintro fields nonempty rfl
      exact fits.checked
    have document : MultitenantProjectionMixin.dataAfter tenant data = data := by
      cases data with
      | dict record => exact congrArg Document.dict (labelled_of_get (fits.carried record rfl))
      | model python json => exact rfl
      | other object items => exact rfl
    change ProjectionOperation.upsert _ _ eventPosition eventId = _
    rw [key,document]
  | upsertBatch docs idField => exact rfl
  | delete docId => exact congrArg ProjectionOperation.delete (docIdAfter_kept (kept_of_sameKey confined.1))

theorem consistent_empty (deployment : TenantDeployment Object) : Consistent deployment empty :=
  fun _ _ _ _ _ => List.Pairwise.nil

theorem separate_stores (deployment : TenantDeployment Object) (calls : List (TenantCall Object))
    (meets : Transition.Meets (step deployment) (Confined deployment) empty calls) : SeparateStores deployment calls := by
  constructor
  · intro tenant
    have simulates : Noninterference.Simulates (step deployment) (answer deployment) (stepAlone deployment)
        (answerAlone deployment) TenantCall.tenant share (Consistent deployment) (Confined deployment) :=
      ⟨fun _ _ consistent confined => (simulated_of_confined consistent confined).consistent,
        fun _ _ consistent confined => (simulated_of_confined consistent confined).others,
        fun _ _ consistent confined => (simulated_of_confined consistent confined).own,
        fun _ _ consistent confined => (simulated_of_confined consistent confined).same⟩
    exact Noninterference.answers_of_alone simulates tenant (consistent_empty deployment) meets
  · intro earlier call before
    have both := (Transition.meets_append (step deployment) (Confined deployment) empty earlier [call]).mp
      (meets.earlier before)
    exact arguments_of_confined both.2.1

theorem apart_of_indexes {table : Table Object} {target updates : List String} {rows : Rows Object} {row : Record Object}
    (indexes : ∀ index ∈ table.unique, "tenant_id" ∈ index) (mine : carries tenant row = true) :
    Apart table tenant target updates rows row := by
  have carried : ∀ one ∈ UniqueRows.written (conflicts target (table.proposedRow row)) (overwrite row.get updates)
      (table.proposedRow row) (rows.filter (carries tenant)), carries tenant one = true := by
    intro one inside
    unfold UniqueRows.written at inside
    split at inside
    next =>
      obtain ⟨stored,met,rfl⟩ := List.mem_map.mp inside
      exact carries_overwrite updates mine (List.mem_filter.mp (List.mem_filter.mp met).1).2
    next =>
      obtain rfl := List.mem_singleton.mp inside
      exact carries_proposedRow mine
  intro one inside other there foreign index member
  refine Bool.eq_false_iff.mpr fun both => ?_
  obtain ⟨same,_⟩ := conflicts_iff.mp both "tenant_id" (indexes index member)
  rw [get_of_carries (carried one inside)] at same
  rw [carries,decide_eq_true same.symm] at foreign
  cases foreign

theorem inserts_of_indexes {table : Table Object} {unique : List (List String)} {target updates aloneTarget : List String}
    {fresh rows : Rows Object} (names : table.hasIndex target = (table.indexed unique).hasIndex aloneTarget)
    (indexes : ∀ index ∈ table.unique, "tenant_id" ∈ index) (mine : ∀ row ∈ fresh, carries tenant row = true) :
    Inserts table unique tenant target updates aloneTarget fresh rows := by
  refine ⟨names,fun _ => Transition.meets_of_prefixes fun earlier row before => apart_of_indexes indexes ?_⟩
  exact mine row (before.subset (List.mem_append_right earlier List.mem_cons_self))

end Histories

section Runs

/-- Order summaries whose index has the tenant in it, next to a plain table with the order id alone. -/
def summaries : TenantDeployment Unit where
  store :=
    { defaultIdColumn := "id"
      commits := true
      tables := fun name => if name = "orders" then some ⟨anyTable,["tenant_id","id","total"],[["tenant_id","id"]]⟩ else none }
  unique _ := [["id"]]
  has_tenant := by
    intro name table there
    dsimp only at there
    split at there
    next =>
      obtain rfl := Option.some.inj there
      decide
    next => cases there
  same_indexes := by
    intro name table there columns
    dsimp only at there
    split at there
    next =>
      obtain rfl := Option.some.inj there
      exact Iff.rfl
    next => cases there

/-- The total of order 7 of a tenant, as its event at a position tells it. -/
def total (tenant : String) (amount position : Int) : TenantCall Unit where
  tenant := tenant
  call :=
    { collection := "orders"
      uow := true
      operation := .upsert (.number 7) (.dict (((Dict.empty.set "id" (.number 7)).set "tenant_id" (.text tenant)).set
        "total" (.number amount))) (some position) (some "e") }

theorem confined_total (contents : Contents Unit) (tenant : String) (amount position : Int) :
    Confined summaries contents (total tenant amount position) := by
  refine ⟨trivial,fun record same => ?_,rfl,fun _ record dict => ⟨⟨?_,?_⟩,fun table there => ?_⟩⟩
  · obtain rfl := Document.dict.inj same
    exact rfl
  · obtain rfl := Except.ok.inj dict
    exact rfl
  · obtain rfl := Except.ok.inj dict
    exact List.cons_ne_nil _ _
  · have orders : columnOf "orders" = "orders" := by decide
    change summaries.store.tables (columnOf "orders") = some table at there
    rw [orders] at there
    obtain rfl := Option.some.inj there
    have names : (⟨anyTable,["tenant_id","id","total"],[["tenant_id","id"]]⟩ : Table Unit).hasIndex
        (["tenant_id","id"].map columnOf) =
        (⟨anyTable,["tenant_id","id","total"],[["id"]]⟩ : Table Unit).hasIndex (["id"].map columnOf) := by decide
    refine inserts_of_indexes names (by decide) fun row inside => ?_
    obtain rfl := List.mem_singleton.mp inside
    exact carries_columns _ _ _ _ _

/-- Two tenants have an order 7; one of them gets its event twice and then reads the order. -/
theorem separate_stores_summaries : SeparateStores summaries [total "acme" 10 1,total "globex" 20 5,total "acme" 30 1,
    ⟨"acme",⟨"orders",true,.get (.number 7)⟩⟩] :=
  separate_stores summaries _
    ⟨confined_total _ _ _ _,confined_total _ _ _ _,confined_total _ _ _ _,rfl,trivial⟩

end Runs

end TenantCall

end CqrsDdd.Projections
