import CqrsDdd.Projections.SqlTables
import CqrsDdd.Transition

/-! The rows of several tenants in one table. Rows that are written with the tenant in them leave what they
would leave in a table of the tenant's own, whose indexes need not have the column `tenant_id`. -/
namespace CqrsDdd.Projections

open Messaging Attempts SQLAlchemyProjectionStore UniqueRows

variable {Object : Type}

def labelled (tenant : String) (record : Record Object) : Record Object := record.set "tenant_id" (.text tenant)

def withoutTenant (columns : List String) : List String := columns.filter (· ≠ "tenant_id")

def Table.indexed (table : Table Object) (unique : List (List String)) : Table Object := { table with unique := unique }

/-- Apart from `tenant_id` the indexes have the same columns. -/
def SameIndexes (first second : List (List String)) : Prop :=
  ∀ columns, columns ∈ first.map withoutTenant ↔ columns ∈ second.map withoutTenant

variable [DecidableEq Object]

def carries (tenant : String) (row : Record Object) : Bool := row.get "tenant_id" = some (.text tenant)

/-- No row of another tenant has the values of a row that is written in the columns of a unique index. -/
def Apart (table : Table Object) (tenant : String) (target updates : List String) (rows : Rows Object)
    (row : Record Object) : Prop :=
  ∀ one ∈ UniqueRows.written (conflicts target (table.proposedRow row)) (overwrite row.get updates) (table.proposedRow row)
    (rows.filter (carries tenant)), ∀ other ∈ rows, carries tenant other = false →
      ∀ index ∈ table.unique, conflicts index one other = false

theorem get_of_carries {tenant : String} {row : Record Object} (mine : carries tenant row = true) :
    row.get "tenant_id" = some (.text tenant) := of_decide_eq_true mine

theorem carries_other {tenant other : String} (differs : other ≠ tenant) {row : Record Object}
    (theirs : carries other row = true) : carries tenant row = false := by
  refine decide_eq_false fun mine => differs ?_
  exact Value.text.inj (Option.some.inj ((get_of_carries theirs).symm.trans mine))

theorem carries_proposedRow {table : Table Object} {tenant : String} {row : Record Object}
    (mine : carries tenant row = true) : carries tenant (table.proposedRow row) = true := by
  refine decide_eq_true ?_
  rw [Table.proposedRow,get_update,get_of_carries mine]
  exact rfl

theorem carries_overwrite {tenant : String} {row stored : Record Object} (columns : List String)
    (mine : carries tenant row = true) (held : carries tenant stored = true) :
    carries tenant (overwrite row.get columns stored) = true := by
  refine decide_eq_true ?_
  rw [overwrite_get]
  split
  next =>
    rw [get_of_carries mine]
    exact rfl
  next => exact get_of_carries held

theorem overwrite_withoutTenant {tenant : String} {row stored : Record Object} (columns : List String)
    (mine : carries tenant row = true) (held : carries tenant stored = true) :
    overwrite row.get (withoutTenant columns) stored = overwrite row.get columns stored := by
  induction columns generalizing stored with
  | nil => exact rfl
  | cons column rest ih =>
    by_cases here : column = "tenant_id"
    · subst here
      have same : (row.get "tenant_id").elim stored (stored.set "tenant_id") = stored := by
        rw [get_of_carries mine]
        exact Dict.set_of_get (get_of_carries held)
      have dropped : withoutTenant ("tenant_id"::rest) = withoutTenant rest :=
        List.filter_cons_of_neg (by simp)
      have next : overwrite row.get ("tenant_id"::rest) stored =
          overwrite row.get rest ((row.get "tenant_id").elim stored (stored.set "tenant_id")) := rfl
      rw [dropped,next,same,ih held]
    · have kept : withoutTenant (column::rest) = column::withoutTenant rest :=
        List.filter_cons_of_pos (by simpa using here)
      have one : carries tenant (overwrite row.get [column] stored) = true := carries_overwrite [column] mine held
      have next (columns : List String) : overwrite row.get (column::columns) stored =
          overwrite row.get columns (overwrite row.get [column] stored) := rfl
      exact (kept ▸ next (withoutTenant rest)).trans ((ih one).trans (next rest).symm)

theorem conflicts_iff {columns : List String} {row stored : Record Object} : conflicts columns row stored = true ↔
    ∀ column ∈ columns, row.get column = stored.get column ∧ row.get column ≠ none ∧ row.get column ≠ some .null := by
  rw [conflicts,List.all_eq_true]
  exact forall₂_congr fun column _ => decide_eq_true_iff

theorem conflicts_symm (columns : List String) (row stored : Record Object) :
    conflicts columns row stored = conflicts columns stored row := by
  have one (first second : Record Object) (both : conflicts columns first second = true) :
      conflicts columns second first = true := by
    refine conflicts_iff.mpr fun column inside => ?_
    obtain ⟨same,present,value⟩ := conflicts_iff.mp both column inside
    exact ⟨same.symm,same ▸ present,same ▸ value⟩
  exact Bool.eq_iff_iff.mpr ⟨one row stored,one stored row⟩

theorem conflicts_through {columns : List String} {row first second : Record Object}
    (one : conflicts columns row first = true) (other : conflicts columns row second = true) :
    conflicts columns first second = true := by
  refine conflicts_iff.mpr fun column inside => ?_
  obtain ⟨same,present,value⟩ := conflicts_iff.mp one column inside
  obtain ⟨again,_⟩ := conflicts_iff.mp other column inside
  exact ⟨same.symm.trans again,same ▸ present,same ▸ value⟩

theorem conflicts_withoutTenant {tenant : String} {columns : List String} {row stored : Record Object}
    (mine : carries tenant row = true) (held : carries tenant stored = true) :
    conflicts (withoutTenant columns) row stored = conflicts columns row stored := by
  rw [Bool.eq_iff_iff,conflicts_iff,conflicts_iff]
  constructor
  · intro both column inside
    by_cases here : column = "tenant_id"
    · subst here
      rw [get_of_carries mine,get_of_carries held]
      exact ⟨rfl,by simp,by simp⟩
    · exact both column (List.mem_filter.mpr ⟨inside,by simpa using here⟩)
  · exact fun both column inside => both column (List.mem_filter.mp inside).1

omit [DecidableEq Object] in
theorem index_of_hasIndex {table : Table Object} {target : List String} (there : table.hasIndex target = true) :
    ∃ index ∈ table.unique, ∀ column, column ∈ index ↔ column ∈ target := by
  obtain ⟨index,member,same⟩ := List.any_eq_true.mp there
  obtain ⟨first,second⟩ := Bool.and_eq_true_iff.mp same
  refine ⟨index,member,fun column => ⟨fun inside => ?_,fun inside => ?_⟩⟩
  · exact of_decide_eq_true (List.all_eq_true.mp first column inside)
  · exact of_decide_eq_true (List.all_eq_true.mp second column inside)

theorem unique_indexed {tenant : String} {first second : List (List String)} (same : SameIndexes first second)
    {rows : Rows Object} (mine : ∀ row ∈ rows, carries tenant row = true) :
    Unique conflicts first rows ↔ Unique conflicts second rows := by
  have one {first second : List (List String)} (same : SameIndexes first second)
      (unique : Unique conflicts first rows) : Unique conflicts second rows := by
    intro index inside
    obtain ⟨other,member,columns⟩ := List.mem_map.mp ((same (withoutTenant index)).mpr (List.mem_map_of_mem inside))
    refine (unique other member).imp_of_mem fun {row stored} there here apart => ?_
    have plain : conflicts (withoutTenant other) row stored = conflicts other row stored :=
      conflicts_withoutTenant (mine row there) (mine stored here)
    rw [columns,conflicts_withoutTenant (mine row there) (mine stored here)] at plain
    exact plain.trans apart
  exact ⟨one same,one fun columns => (same columns).symm⟩

section Insert

variable {table : Table Object} {tenant : String} {target updates : List String} {rows : Rows Object}
  {row : Record Object}

theorem insertRow_ok {after : Rows Object} (done : table.insertRow target updates rows row = .ok after) :
    after = table.placeRow target updates rows row ∧ Unique conflicts table.unique after := by
  unfold Table.insertRow at done
  split at done
  next unique =>
    obtain rfl := Except.ok.inj done
    exact ⟨rfl,unique⟩
  next => cases done

theorem own_of_apart (unique : Unique conflicts table.unique rows) (index : table.hasIndex target = true)
    (mine : carries tenant row = true) (apart : Apart table tenant target updates rows row) :
    Own (carries tenant) (conflicts target (table.proposedRow row)) (overwrite row.get updates) (table.proposedRow row)
      rows := by
  refine ⟨fun stored there hit => ?_,fun stored held => carries_overwrite updates mine held,carries_proposedRow mine⟩
  by_contra foreign
  rw [Bool.not_eq_true] at foreign
  obtain ⟨columns,member,same⟩ := index_of_hasIndex index
  have target_columns {first second : Record Object} (both : conflicts target first second = true) :
      conflicts columns first second = true :=
    conflicts_iff.mpr fun column inside => conflicts_iff.mp both column ((same column).mp inside)
  by_cases own : (rows.filter (carries tenant)).any (conflicts target (table.proposedRow row)) = true
  · -- Two rows of the table would agree in an index.
    obtain ⟨other,beside,again⟩ := List.any_eq_true.mp own
    obtain ⟨inside,theirs⟩ := List.mem_filter.mp beside
    have differ : other ≠ stored := by
      rintro rfl
      rw [theirs] at foreign
      cases foreign
    have symm : Std.Symm fun first second : Record Object => conflicts columns first second = false :=
      ⟨fun first second apart => (conflicts_symm columns second first).trans apart⟩
    have agreed := target_columns (conflicts_through again hit)
    rw [(unique columns member).forall inside there differ] at agreed
    cases agreed
  · have fresh := apart (table.proposedRow row) (by rw [UniqueRows.written,if_neg own]; exact List.mem_singleton.mpr rfl) stored
      there foreign columns member
    rw [target_columns hit] at fresh
    cases fresh

variable {unique : List (List String)} {aloneTarget aloneUpdates : List String}

theorem placeRow_alone (mine : ∀ stored ∈ rows, carries tenant stored = true) (own : carries tenant row = true)
    (targets : withoutTenant target = withoutTenant aloneTarget)
    (columns : withoutTenant updates = withoutTenant aloneUpdates) :
    (table.indexed unique).placeRow aloneTarget aloneUpdates rows row = table.placeRow target updates rows row := by
  refine place_congr (fun stored there => ?_) fun stored there => ?_
  · have fresh : carries tenant (table.proposedRow row) = true := carries_proposedRow own
    exact ((conflicts_withoutTenant fresh (mine stored there)).symm.trans (targets ▸ rfl)).trans
      (conflicts_withoutTenant fresh (mine stored there))
  · exact ((overwrite_withoutTenant aloneUpdates own (mine stored there)).symm.trans (columns ▸ rfl)).trans
      (overwrite_withoutTenant updates own (mine stored there))

theorem insertRow_own (shared : Unique conflicts table.unique rows) (index : table.hasIndex target = true)
    (mine : carries tenant row = true) (apart : Apart table tenant target updates rows row)
    (targets : withoutTenant target = withoutTenant aloneTarget)
    (columns : withoutTenant updates = withoutTenant aloneUpdates) (same : SameIndexes table.unique unique) :
    (table.indexed unique).insertRow aloneTarget aloneUpdates (rows.filter (carries tenant)) row =
      (table.insertRow target updates rows row).map (List.filter (carries tenant)) := by
  have own := own_of_apart shared index mine apart
  have theirs : ∀ stored ∈ rows.filter (carries tenant), carries tenant stored = true :=
    fun stored inside => (List.mem_filter.mp inside).2
  have placed : (table.indexed unique).placeRow aloneTarget aloneUpdates (rows.filter (carries tenant)) row =
      (table.placeRow target updates rows row).filter (carries tenant) :=
    (placeRow_alone theirs mine targets columns).trans (place_own own).symm
  have kept : Unique conflicts table.unique (table.placeRow target updates rows row) ↔
      Unique conflicts unique ((table.placeRow target updates rows row).filter (carries tenant)) := by
    refine (unique_place_iff own conflicts_symm shared apart).trans ?_
    rw [← place_own own]
    exact unique_indexed same fun stored inside => (List.mem_filter.mp inside).2
  unfold Table.insertRow
  rw [placed]
  by_cases fits : Unique conflicts table.unique (table.placeRow target updates rows row)
  · rw [if_pos fits]
    exact if_pos (kept.mp fits)
  · rw [if_neg fits]
    exact if_neg fun alone => fits (kept.mpr alone)

theorem placeRow_others (shared : Unique conflicts table.unique rows) (index : table.hasIndex target = true)
    (mine : carries tenant row = true) (apart : Apart table tenant target updates rows row) {other : String}
    (differs : other ≠ tenant) :
    (table.placeRow target updates rows row).filter (carries other) = rows.filter (carries other) :=
  place_part (own_of_apart shared index mine apart) fun _ theirs => carries_other differs theirs

theorem insertRows_own {fresh : Rows Object} (shared : Unique conflicts table.unique rows)
    (index : table.hasIndex target = true) (mine : ∀ row ∈ fresh, carries tenant row = true)
    (meets : Transition.Meets (table.placeRow target updates) (Apart table tenant target updates) rows fresh)
    (targets : withoutTenant target = withoutTenant aloneTarget)
    (columns : withoutTenant updates = withoutTenant aloneUpdates) (same : SameIndexes table.unique unique) :
    fresh.foldlM ((table.indexed unique).insertRow aloneTarget aloneUpdates) (rows.filter (carries tenant)) =
        (fresh.foldlM (table.insertRow target updates) rows).map (List.filter (carries tenant)) ∧
      ∀ after, fresh.foldlM (table.insertRow target updates) rows = .ok after →
        Unique conflicts table.unique after ∧
          ∀ other, other ≠ tenant → after.filter (carries other) = rows.filter (carries other) := by
  induction fresh generalizing rows with
  | nil =>
    refine ⟨rfl,fun after done => ?_⟩
    obtain rfl := Except.ok.inj done
    exact ⟨shared,fun _ _ => rfl⟩
  | cons row rest ih =>
    obtain ⟨apart,meets⟩ := meets
    have own := mine row List.mem_cons_self
    rw [List.foldlM_cons,List.foldlM_cons,insertRow_own shared index own apart targets columns same]
    cases inserted : table.insertRow target updates rows row with
    | error failure => exact ⟨rfl,fun _ done => nomatch done⟩
    | ok placed =>
      obtain ⟨rfl,unique⟩ := insertRow_ok inserted
      obtain ⟨alone,shared_after⟩ := ih unique (fun other inside => mine other (List.mem_cons_of_mem row inside)) meets
      refine ⟨alone,fun after done => ?_⟩
      obtain ⟨kept,others⟩ := shared_after after done
      exact ⟨kept,fun other differs => (others other differs).trans (placeRow_others shared index own apart differs)⟩

/-- The conflict targets of both tables name an index or none, and the rows stay apart. -/
def Inserts (table : Table Object) (unique : List (List String)) (tenant : String)
    (target updates aloneTarget : List String) (fresh rows : Rows Object) : Prop :=
  table.hasIndex target = (table.indexed unique).hasIndex aloneTarget ∧
    (table.hasIndex target = true →
      Transition.Meets (table.placeRow target updates) (Apart table tenant target updates) rows fresh)

theorem insert_own {fresh : Rows Object} (shared : Unique conflicts table.unique rows)
    (mine : ∀ row ∈ fresh, carries tenant row = true)
    (inserts : Inserts table unique tenant target updates aloneTarget fresh rows)
    (targets : withoutTenant target = withoutTenant aloneTarget)
    (columns : withoutTenant updates = withoutTenant aloneUpdates) (empty : updates.isEmpty = aloneUpdates.isEmpty)
    (same : SameIndexes table.unique unique) :
    (table.indexed unique).insert aloneTarget aloneUpdates fresh (rows.filter (carries tenant)) =
        (table.insert target updates fresh rows).map (List.filter (carries tenant)) ∧
      ∀ after, table.insert target updates fresh rows = .ok after →
        Unique conflicts table.unique after ∧
          ∀ other, other ≠ tenant → after.filter (carries other) = rows.filter (carries other) := by
  obtain ⟨names,meets⟩ := inserts
  have refused : (aloneUpdates.isEmpty || !(table.indexed unique).hasIndex aloneTarget ||
      fresh.any fun row => !(table.indexed unique).database.accepts row.get) =
      (updates.isEmpty || !table.hasIndex target || fresh.any fun row => !table.database.accepts row.get) := by
    rw [empty,names]
    exact rfl
  unfold Table.insert
  rw [refused]
  split
  next => exact ⟨rfl,fun _ done => nomatch done⟩
  next taken =>
    simp only [Bool.or_eq_true,Bool.not_eq_true',not_or,Bool.not_eq_false] at taken
    exact insertRows_own shared taken.1.2 mine (meets taken.1.2) targets columns same

end Insert

end CqrsDdd.Projections
