import Mathlib.Data.List.Basic

/-! Tables of rows with a key. A row that is put into a table updates the row of its key
or is appended; what a whole list of rows leaves is told by the first and the last
row of each key. -/
namespace CqrsDdd.KeyedRows

variable {Row Key Column Cell : Type*} [DecidableEq Key] (key : Row → Option Key)

def found (wanted : Key) (rows : List Row) : Option Row := rows.find? fun row => key row = some wanted

def put (update : Row → Row → Row) (fresh : Row → Row) (rows : List Row) (row : Row) : List Row :=
  if rows.any fun stored => key stored = key row then
    rows.map fun stored => if key stored = key row then update stored row else stored
  else rows ++ [fresh row]

/-- Neither an update nor an insertion gives the row another key. -/
structure Keeps (update : Row → Row → Row) (fresh : Row → Row) (row : Row) : Prop where
  keyed : (key row).isSome
  updated : ∀ stored, key stored = key row → key (update stored row) = key row
  inserted : key (fresh row) = key row

variable {key} {update : Row → Row → Row} {fresh : Row → Row}

theorem found_key {wanted : Key} {rows : List Row} {row : Row} (there : found key wanted rows = some row) :
    key row = some wanted := by
  have hit := List.find?_some there
  exact of_decide_eq_true hit

theorem found_mem {wanted : Key} {rows : List Row} {row : Row} (there : found key wanted rows = some row) :
    row ∈ rows := List.mem_of_find?_eq_some there

theorem found_append (wanted : Key) (first second : List Row) :
    found key wanted (first ++ second) = (found key wanted first).or (found key wanted second) := List.find?_append

theorem found_cons (wanted : Key) (row : Row) (rest : List Row) :
    found key wanted (row::rest) = if key row = some wanted then some row else found key wanted rest := by
  rw [found,List.find?_cons]
  by_cases here : key row = some wanted
  · rw [if_pos here,decide_eq_true here]
  · rw [if_neg here,decide_eq_false here]
    exact rfl

theorem found_map {Other : Type*} {otherKey : Other → Option Key} {shape : Row → Other} (wanted : Key) {rows : List Row}
    (kept : ∀ row ∈ rows, otherKey (shape row) = key row) :
    found otherKey wanted (rows.map shape) = (found key wanted rows).map shape := by
  induction rows with
  | nil => exact rfl
  | cons row rest ih =>
    rw [List.map_cons,found_cons,found_cons,kept row List.mem_cons_self,
      ih fun other member => kept other (List.mem_cons_of_mem row member)]
    split
    next => exact rfl
    next => exact rfl

theorem found_put {rows : List Row} {row : Row} {id : Key} (keeps : Keeps key update fresh row)
    (own : key row = some id) (wanted : Key) :
    found key wanted (put key update fresh rows row) =
      if id = wanted then some ((found key wanted rows).elim (fresh row) (update · row)) else found key wanted rows := by
  unfold put
  split
  next there =>
    have same : ∀ stored ∈ rows, key (if key stored = key row then update stored row else stored) = key stored := by
      intro stored _
      split
      next hit => rw [keeps.updated stored hit,hit]
      next => rfl
    rw [found_map wanted same]
    by_cases mine : id = wanted
    · subst mine
      obtain ⟨stored,member,hit⟩ := List.any_eq_true.mp there
      obtain ⟨first,here⟩ : ∃ first, found key id rows = some first := by
        refine Option.isSome_iff_exists.mp (List.find?_isSome.mpr ⟨stored,member,?_⟩)
        rw [of_decide_eq_true hit,own]
        exact decide_eq_true rfl
      rw [if_pos rfl,here,Option.map_some,if_pos ((found_key here).trans own.symm),Option.elim_some]
    · rw [if_neg mine]
      cases here : found key wanted rows with
      | none => exact rfl
      | some stored =>
        have other : ¬ key stored = key row := by
          rw [found_key here,own]
          exact fun same => mine (Option.some.inj same).symm
        rw [Option.map_some,if_neg other]
  next absent =>
    rw [found_append,found_cons,keeps.inserted,own]
    by_cases mine : id = wanted
    · subst mine
      have nowhere : found key id rows = none := by
        refine List.find?_eq_none.mpr fun stored member hit => absent ?_
        refine List.any_eq_true.mpr ⟨stored,member,decide_eq_true ?_⟩
        rw [of_decide_eq_true hit,own]
      rw [if_pos rfl,if_pos rfl,nowhere]
      exact rfl
    · rw [if_neg mine,if_neg fun same => mine (Option.some.inj same)]
      exact Option.or_none

/-- The cells that are written are those of the last row of a key, the others those of the stored row
or else of the first. -/
theorem found_puts {written : Column → Prop} [DecidablePred written] {cell : Row → Column → Cell} {rows : List Row}
    (keeps : ∀ row ∈ rows, Keeps key update fresh row)
    (updates : ∀ row ∈ rows, ∀ stored column,
      cell (update stored row) column = if written column then cell row column else cell stored column)
    (inserts : ∀ row ∈ rows, ∀ column, written column → cell (fresh row) column = cell row column)
    (table : List Row) (wanted : Key) :
    (found key wanted (rows.foldl (put key update fresh) table)).map cell =
      ((found key wanted (table ++ rows.map fresh)).map cell).map fun origin column =>
        if written column then ((found key wanted rows.reverse).map cell).getD origin column else origin column := by
  induction rows generalizing table with
  | nil =>
    rw [List.foldl_nil,List.map_nil,List.append_nil]
    cases found key wanted table with
    | none => exact rfl
    | some row =>
      refine congrArg some (funext fun column => ?_)
      exact (ite_self _).symm
  | cons row rest ih =>
    have here := keeps row List.mem_cons_self
    obtain ⟨id,own⟩ := Option.isSome_iff_exists.mp here.keyed
    have later := ih (fun other member => keeps other (List.mem_cons_of_mem row member))
      (fun other member => updates other (List.mem_cons_of_mem row member))
      (fun other member => inserts other (List.mem_cons_of_mem row member)) (put key update fresh table row)
    rw [List.foldl_cons,later,found_append,found_put here own,List.map_cons,found_append,found_cons,here.inserted,
      List.reverse_cons,found_append,found_cons,own]
    by_cases mine : id = wanted
    · subst mine
      rw [if_pos rfl,if_pos rfl,if_pos rfl]
      have start (column : Column) : cell ((found key id table).elim (fresh row) (update · row)) column =
          if written column then cell row column else cell ((found key id table).getD (fresh row)) column := by
        cases found key id table with
        | some stored => exact updates row List.mem_cons_self stored column
        | none =>
          by_cases inside : written column
          · rw [if_pos inside]
            exact inserts row List.mem_cons_self column inside
          · rw [if_neg inside]
            exact rfl
      simp only [Option.some_or,Option.or_some,Option.map_some,Option.getD_some]
      refine congrArg some (funext fun column => ?_)
      by_cases inside : written column
      · rw [if_pos inside,if_pos inside]
        -- The last row of the key is one of the later ones, or this one.
        cases found key id rest.reverse with
        | none => exact (start column).trans (if_pos inside)
        | some last => exact rfl
      · rw [if_neg inside,if_neg inside,start,if_neg inside]
    · have other : ¬ some id = some wanted := fun same => mine (Option.some.inj same)
      rw [if_neg mine,if_neg other,if_neg other]
      have none : found key wanted ([] : List Row) = none := rfl
      rw [none,Option.or_none]

end CqrsDdd.KeyedRows
