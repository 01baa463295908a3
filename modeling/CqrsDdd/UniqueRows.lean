import Mathlib.Data.List.Pairwise

/-! Tables whose rows are told apart by several keys, and an upsert into them: the rows that the
new one meets are updated, or it is appended. The rows of one owner change as if there were
no others, as long as no row that is written agrees with one of theirs in a key. -/
namespace CqrsDdd.UniqueRows

variable {Row Key : Type*}

def Unique (agree : Key → Row → Row → Bool) (keys : List Key) (rows : List Row) : Prop :=
  ∀ key ∈ keys, rows.Pairwise fun first second => agree key first second = false

instance (agree : Key → Row → Row → Bool) (keys : List Key) (rows : List Row) : Decidable (Unique agree keys rows) :=
  inferInstanceAs (Decidable (∀ key ∈ keys, rows.Pairwise fun first second => agree key first second = false))

def place (met : Row → Bool) (update : Row → Row) (fresh : Row) (rows : List Row) : List Row :=
  if rows.any met then rows.map fun stored => if met stored then update stored else stored
  else rows ++ [fresh]

def written (met : Row → Bool) (update : Row → Row) (fresh : Row) (rows : List Row) : List Row :=
  if rows.any met then (rows.filter met).map update else [fresh]

variable {agree : Key → Row → Row → Bool} {keys : List Key} {met owned : Row → Bool} {update : Row → Row} {fresh : Row}
  {rows : List Row}

theorem mem_place {row : Row} (member : row ∈ place met update fresh rows) :
    row ∈ rows ∨ row ∈ written met update fresh rows := by
  unfold place at member
  unfold written
  split at member
  next hit =>
    rw [if_pos hit]
    obtain ⟨stored,there,rfl⟩ := List.mem_map.mp member
    split
    next here => exact .inr (List.mem_map_of_mem (List.mem_filter.mpr ⟨there,here⟩))
    next => exact .inl there
  next missed =>
    rw [if_neg missed]
    exact List.mem_append.mp member

theorem place_congr {other : Row → Bool} {change : Row → Row} (same : ∀ row ∈ rows, met row = other row)
    (changes : ∀ row ∈ rows, update row = change row) :
    place met update fresh rows = place other change fresh rows := by
  have any : rows.any met = rows.any other := by
    rw [Bool.eq_iff_iff,List.any_eq_true,List.any_eq_true]
    exact exists_congr fun row => and_congr_right fun there => by rw [same row there]
  unfold place
  rw [any]
  refine if_congr Iff.rfl (List.map_congr_left fun row there => ?_) rfl
  rw [same row there,changes row there]

theorem pairwise_of_parts {relation : Row → Row → Prop} (symmetric : ∀ first second, relation first second →
    relation second first) (own : (rows.filter owned).Pairwise relation)
    (others : (rows.filter fun row => !owned row).Pairwise relation)
    (across : ∀ first ∈ rows, owned first = true → ∀ second ∈ rows, owned second = false → relation first second) :
    rows.Pairwise relation := by
  induction rows with
  | nil => exact List.Pairwise.nil
  | cons row rest ih =>
    have later : ∀ first ∈ rest, owned first = true → ∀ second ∈ rest, owned second = false → relation first second :=
      fun first inside mine second there => across first (List.mem_cons_of_mem row inside) mine second
        (List.mem_cons_of_mem row there)
    cases mine : owned row with
    | true =>
      rw [List.filter_cons_of_pos mine] at own
      rw [List.filter_cons_of_neg (by simp [mine])] at others
      obtain ⟨apart,own⟩ := List.pairwise_cons.mp own
      refine List.pairwise_cons.mpr ⟨fun other inside => ?_,ih own others later⟩
      cases theirs : owned other with
      | true => exact apart other (List.mem_filter.mpr ⟨inside,theirs⟩)
      | false => exact across row List.mem_cons_self mine other (List.mem_cons_of_mem row inside) theirs
    | false =>
      rw [List.filter_cons_of_neg (by simp [mine])] at own
      rw [List.filter_cons_of_pos (by simp [mine])] at others
      obtain ⟨apart,others⟩ := List.pairwise_cons.mp others
      refine List.pairwise_cons.mpr ⟨fun other inside => ?_,ih own others later⟩
      cases theirs : owned other with
      | true => exact symmetric _ _ (across other (List.mem_cons_of_mem row inside) theirs row List.mem_cons_self mine)
      | false => exact apart other (List.mem_filter.mpr ⟨inside,by rw [theirs]; exact rfl⟩)

section Owner

/-- The rows that are met belong to the owner, and so do those that are written. -/
structure Own (owned met : Row → Bool) (update : Row → Row) (fresh : Row) (rows : List Row) : Prop where
  met : ∀ row ∈ rows, met row = true → owned row = true
  updated : ∀ row, owned row = true → owned (update row) = true
  fresh : owned fresh = true

theorem any_own (own : Own owned met update fresh rows) : (rows.filter owned).any met = rows.any met := by
  rw [Bool.eq_iff_iff,List.any_eq_true,List.any_eq_true]
  constructor
  · rintro ⟨row,inside,hit⟩
    exact ⟨row,(List.mem_filter.mp inside).1,hit⟩
  · rintro ⟨row,inside,hit⟩
    exact ⟨row,List.mem_filter.mpr ⟨inside,own.met row inside hit⟩,hit⟩

theorem owned_updated (own : Own owned met update fresh rows) {row : Row} (inside : row ∈ rows) :
    owned (if met row then update row else row) = owned row := by
  split
  next hit =>
    have mine := own.met row inside hit
    rw [mine,own.updated row mine]
  next => exact rfl

theorem place_own (own : Own owned met update fresh rows) :
    (place met update fresh rows).filter owned = place met update fresh (rows.filter owned) := by
  unfold place
  rw [any_own own]
  split
  next =>
    rw [List.filter_map]
    refine congrArg _ (List.filter_congr fun row inside => ?_)
    exact owned_updated own inside
  next => rw [List.filter_append,List.filter_cons_of_pos own.fresh,List.filter_nil]

theorem place_others (own : Own owned met update fresh rows) :
    ((place met update fresh rows).filter fun row => !owned row) = rows.filter fun row => !owned row := by
  unfold place
  split
  next =>
    have same : (rows.filter ((fun row => !owned row) ∘ fun row => if met row then update row else row)) =
        rows.filter fun row => !owned row :=
      List.filter_congr fun row inside => congrArg (!·) (owned_updated own inside)
    rw [List.filter_map,same]
    refine (List.map_congr_left fun row inside => ?_).trans (List.map_id _)
    obtain ⟨there,foreign⟩ := List.mem_filter.mp inside
    have missed : ¬ met row = true := by
      intro hit
      rw [own.met row there hit] at foreign
      cases foreign
    exact if_neg missed
  next =>
    have none : ([fresh].filter fun row => !owned row) = [] := List.filter_cons_of_neg (by simp [own.fresh])
    rw [List.filter_append,none,List.append_nil]

theorem place_part (own : Own owned met update fresh rows) {part : Row → Bool} (apart : ∀ row, part row = true → owned row = false) :
    (place met update fresh rows).filter part = rows.filter part := by
  have inside (any : List Row) : any.filter part = (any.filter fun row => !owned row).filter part := by
    rw [List.filter_filter]
    refine List.filter_congr fun row _ => ?_
    cases mine : part row with
    | true => rw [apart row mine]; exact rfl
    | false => exact (Bool.false_and _).symm
  rw [inside,place_others own,← inside]

/-- The whole table keeps its keys exactly when the owner's rows alone keep theirs. -/
theorem unique_place_iff (own : Own owned met update fresh rows)
    (symmetric : ∀ key first second, agree key first second = agree key second first)
    (unique : Unique agree keys rows)
    (apart : ∀ row ∈ written met update fresh (rows.filter owned), ∀ other ∈ rows, owned other = false →
      ∀ key ∈ keys, agree key row other = false) :
    Unique agree keys (place met update fresh rows) ↔ Unique agree keys (place met update fresh (rows.filter owned)) := by
  rw [← place_own own]
  refine ⟨fun all key inside => (all key inside).filter owned,fun mine key inside => ?_⟩
  refine pairwise_of_parts (fun first second same => (symmetric key second first).trans same) (mine key inside) ?_ ?_
  · rw [place_others own]
    exact (unique key inside).filter _
  · intro first there belongs second beside foreign
    have other : second ∈ rows := by
      have kept : second ∈ (place met update fresh rows).filter fun row => !owned row :=
        List.mem_filter.mpr ⟨beside,by rw [foreign]; exact rfl⟩
      rw [place_others own] at kept
      exact (List.mem_filter.mp kept).1
    have placed : first ∈ place met update fresh (rows.filter owned) := by
      rw [← place_own own]
      exact List.mem_filter.mpr ⟨there,belongs⟩
    rcases mem_place placed with stored | fresh
    · have differ : first ≠ second := by
        rintro rfl
        rw [belongs] at foreign
        cases foreign
      have symm : Std.Symm fun first second => agree key first second = false :=
        ⟨fun first second same => (symmetric key second first).trans same⟩
      exact (unique key inside).forall (List.mem_filter.mp stored).1 other differ
    · exact apart first fresh second other foreign key inside

end Owner

end CqrsDdd.UniqueRows
