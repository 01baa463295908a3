import Mathlib.Data.List.Sort
import CqrsDdd.Generator

/-! Rows with a position each, read in pages behind a cursor. A listing is a list
of rows in strictly increasing position; it is determined by its members, and
whatever a page takes from its front leaves the rows behind the page's last one. -/
namespace CqrsDdd.Paging

variable {Row : Type*} (position : Row → Int)

def Increasing (rows : List Row) : Prop := rows.Pairwise fun first second => position first < position second

def after (rows : List Row) (cursor : Int) : List Row := rows.filter fun row => cursor < position row

/-- The members of `rows` that satisfy `wanted`, in increasing position, each once. -/
def Lists (listing rows : List Row) (wanted : Row → Prop) : Prop :=
  Increasing position listing ∧ ∀ row, row ∈ listing ↔ row ∈ rows ∧ wanted row

def sorted (rows : List Row) : List Row := rows.insertionSort fun first second => position first ≤ position second

variable {position}

theorem mem_after {rows : List Row} {cursor : Int} {row : Row} :
    row ∈ after position rows cursor ↔ row ∈ rows ∧ cursor < position row := by
  rw [after,List.mem_filter,decide_eq_true_eq]

theorem Increasing.ext {first second : List Row} (ordered : Increasing position first)
    (others : Increasing position second) (same : ∀ row, row ∈ first ↔ row ∈ second) : first = second := by
  induction first generalizing second with
  | nil =>
    cases second with
    | nil => rfl
    | cons row rest => exact absurd ((same row).mpr List.mem_cons_self) List.not_mem_nil
  | cons row rest ih =>
    cases second with
    | nil => exact absurd ((same row).mp List.mem_cons_self) List.not_mem_nil
    | cons other more =>
      obtain ⟨least,tail⟩ := List.pairwise_cons.mp ordered
      obtain ⟨leastOther,tailOther⟩ := List.pairwise_cons.mp others
      have heads : row = other := by
        rcases List.mem_cons.mp ((same row).mp List.mem_cons_self) with rfl | later
        · rfl
        · rcases List.mem_cons.mp ((same other).mpr List.mem_cons_self) with rfl | earlier
          · rfl
          · have up := leastOther row later
            have down := least other earlier
            omega
      subst heads
      refine congrArg (row :: ·) (ih tail tailOther fun item => ?_)
      constructor
      · intro member
        rcases List.mem_cons.mp ((same item).mp (List.mem_cons_of_mem row member)) with rfl | found
        · exact absurd (least item member) (lt_irrefl _)
        · exact found
      · intro member
        rcases List.mem_cons.mp ((same item).mpr (List.mem_cons_of_mem row member)) with rfl | found
        · exact absurd (leastOther item member) (lt_irrefl _)
        · exact found

theorem Lists.unique {first second rows : List Row} {wanted : Row → Prop} (one : Lists position first rows wanted)
    (other : Lists position second rows wanted) : first = second :=
  one.1.ext other.1 fun row => (one.2 row).trans (other.2 row).symm

theorem Increasing.filter {rows : List Row} (ordered : Increasing position rows) (keep : Row → Bool) :
    Increasing position (rows.filter keep) :=
  List.Pairwise.filter keep ordered

theorem sorted_perm (rows : List Row) : (sorted position rows).Perm rows :=
  List.perm_insertionSort _ rows

theorem mem_sorted {rows : List Row} {row : Row} : row ∈ sorted position rows ↔ row ∈ rows :=
  (sorted_perm rows).mem_iff

theorem increasing_sorted {rows : List Row} (distinct : (rows.map position).Nodup) :
    Increasing position (sorted position rows) := by
  have weak : (sorted position rows).Pairwise fun first second => position first ≤ position second := by
    have : Std.Total fun first second : Row => position first ≤ position second := ⟨fun a b => Int.le_total _ _⟩
    have : IsTrans Row fun first second => position first ≤ position second := ⟨fun a b c => Int.le_trans⟩
    exact List.pairwise_insertionSort _ rows
  have differ : (sorted position rows).Pairwise fun first second => position first ≠ position second := by
    have moved : ((sorted position rows).map position).Nodup := ((sorted_perm rows).map position).nodup_iff.mpr distinct
    exact List.pairwise_map.mp moved
  exact (weak.and differ).imp fun both => lt_of_le_of_ne both.1 both.2

/-- The page in front of a listing's remainder ends at the cursor behind which the rest lies. -/
theorem Increasing.after_append {front rest : List Row} {last : Row}
    (ordered : Increasing position (front ++ last :: rest)) :
    after position (front ++ last :: rest) (position last) = rest := by
  obtain ⟨_,tail,across⟩ := List.pairwise_append.mp ordered
  have passed : after position front (position last) = [] := by
    refine List.filter_eq_nil_iff.mpr fun row member => ?_
    have below := across row member last List.mem_cons_self
    simp only [decide_eq_true_eq]
    omega
  have kept : after position rest (position last) = rest := by
    refine List.filter_eq_self.mpr fun row member => ?_
    simpa using List.rel_of_pairwise_cons tail member
  rw [after,List.filter_append,List.filter_cons]
  simp only [lt_irrefl,decide_false,Bool.false_eq_true,if_false]
  rw [← after,← after,passed,kept,List.nil_append]

theorem after_after (rows : List Row) {cursor later : Int} (ahead : cursor ≤ later) :
    after position (after position rows cursor) later = after position rows later := by
  rw [after,after,after,List.filter_filter]
  refine List.filter_congr fun row _ => ?_
  by_cases behind : later < position row
  · have : cursor < position row := by omega
    simp [behind,this]
  · simp [behind]

theorem Increasing.lt_of_getLast {rows : List Row} (ordered : Increasing position rows) {last row : Row}
    (ends : rows.getLast? = some last) (member : row ∈ rows) (differs : row ≠ last) : position row < position last := by
  obtain ⟨front,rfl⟩ := List.getLast?_eq_some_iff.mp ends
  rcases List.mem_append.mp member with earlier | same
  · exact (List.pairwise_append.mp ordered).2.2 row earlier last (List.mem_singleton.mpr rfl)
  · exact absurd (List.mem_singleton.mp same) differs

/-- A page of the rows behind a cursor, and what is left behind its last row. -/
theorem Increasing.page {rows : List Row} (ordered : Increasing position rows) {cursor : Int} {size : Nat}
    {last : Row} (ends : ((after position rows cursor).take size).getLast? = some last) :
    cursor < position last ∧ (after position rows (position last)).length < (after position rows cursor).length ∧
      after position rows cursor = (after position rows cursor).take size ++ after position rows (position last) := by
  obtain ⟨front,shape⟩ := List.getLast?_eq_some_iff.mp ends
  have whole : after position rows cursor = front ++ last :: (after position rows cursor).drop size := by
    conv_lhs => rw [← List.take_append_drop size (after position rows cursor),shape]
    rw [List.append_assoc,List.singleton_append]
  have member : last ∈ after position rows cursor := by
    rw [whole]
    exact List.mem_append_right _ List.mem_cons_self
  have ahead : cursor < position last := (mem_after.mp member).2
  have rest : after position rows (position last) = (after position rows cursor).drop size := by
    rw [← after_after rows ahead.le]
    conv_lhs => rw [whole]
    refine Increasing.after_append ?_
    rw [← whole]
    exact ordered.filter _
  refine ⟨ahead,?_,?_⟩
  · rw [rest]
    conv_rhs => rw [whole]
    rw [List.length_append,List.length_cons]
    omega
  · rw [rest,List.take_append_drop]

theorem sorted_after {rows : List Row} (distinct : (rows.map position).Nodup) (cursor : Int) :
    sorted position (after position rows cursor) = after position (sorted position rows) cursor := by
  have fewer : ((after position rows cursor).map position).Nodup :=
    distinct.sublist (List.filter_sublist.map position)
  refine (increasing_sorted fewer).ext ((increasing_sorted distinct).filter _) fun row => ?_
  rw [mem_sorted,after,after,List.mem_filter,List.mem_filter,mem_sorted]

theorem lists_sorted_filter {rows : List Row} (distinct : (rows.map position).Nodup) (keep : Row → Bool) :
    Lists position (sorted position (rows.filter keep)) rows fun row => keep row = true := by
  refine ⟨increasing_sorted (distinct.sublist (List.filter_sublist.map position)),fun row => ?_⟩
  rw [mem_sorted,List.mem_filter]

theorem Lists.after {listing rows : List Row} {wanted : Row → Prop} (lists : Lists position listing rows wanted)
    (cursor : Int) : Lists position (Paging.after position listing cursor) rows
      fun row => cursor < position row ∧ wanted row := by
  refine ⟨lists.1.filter _,fun row => ?_⟩
  rw [mem_after,lists.2 row]
  tauto

theorem Increasing.length_le {rows : List Row} (ordered : Increasing position rows) {low high : Int}
    (within : ∀ row ∈ rows, low < position row ∧ position row ≤ high) (room : low ≤ high) :
    (rows.length : Int) ≤ high - low := by
  induction rows generalizing low with
  | nil => simpa using room
  | cons row rest ih =>
    obtain ⟨least,tail⟩ := List.pairwise_cons.mp ordered
    obtain ⟨above,below⟩ := within row List.mem_cons_self
    have fewer := ih tail (fun other member =>
      ⟨least other member,(within other (List.mem_cons_of_mem row member)).2⟩) below
    rw [List.length_cons]
    omega

/-- The positions of the rows are the places behind `low`, as many as there are rows. -/
def Fills (position : Row → Int) (low : Int) (rows : List Row) : Prop :=
  ∀ row ∈ rows, low < position row ∧ position row ≤ low + rows.length

theorem Increasing.fills_cons {row : Row} {rest : List Row} (ordered : Increasing position (row :: rest)) {low : Int}
    (fills : Fills position low (row :: rest)) : position row = low + 1 ∧ Fills position (low + 1) rest := by
  obtain ⟨least,tail⟩ := List.pairwise_cons.mp ordered
  obtain ⟨above,below⟩ := fills row List.mem_cons_self
  rw [List.length_cons] at below
  have later : ∀ other ∈ rest, position row < position other ∧ position other ≤ low + 1 + rest.length := by
    intro other member
    have bound := (fills other (List.mem_cons_of_mem row member)).2
    rw [List.length_cons] at bound
    exact ⟨least other member,by omega⟩
  have fits := Increasing.length_le tail later (by omega)
  have first : position row = low + 1 := by omega
  exact ⟨first,first ▸ later⟩

theorem Increasing.position_of_fills {rows : List Row} (ordered : Increasing position rows) {low : Int}
    (fills : Fills position low rows) {count : Nat} {row : Row} (found : rows[count]? = some row) :
    position row = low + count + 1 := by
  induction rows generalizing low count with
  | nil => simp at found
  | cons first rest ih =>
    obtain ⟨head,tail⟩ := ordered.fills_cons fills
    cases count with
    | zero =>
      obtain rfl : first = row := by simpa using found
      simpa using head
    | succ count =>
      have behind := ih ordered.of_cons tail (by simpa using found)
      push_cast
      omega

/-- Rows that fill the places behind `low` are counted by their positions. -/
theorem Increasing.after_eq_drop {rows : List Row} (ordered : Increasing position rows) {low : Int}
    (fills : Fills position low rows) (count : Nat) : after position rows (low + count) = rows.drop count := by
  induction rows generalizing low count with
  | nil => simp [after]
  | cons row rest ih =>
    obtain ⟨first,tail⟩ := ordered.fills_cons fills
    cases count with
    | zero =>
      refine List.filter_eq_self.mpr fun other member => ?_
      simpa using (fills other member).1
    | succ count =>
      have shifted : low + ((count + 1 : Nat) : Int) = low + 1 + count := by
        push_cast
        omega
      have passed : ¬ low + 1 + count < position row := by omega
      rw [List.drop_succ_cons,shifted,← ih ordered.of_cons tail count,after,List.filter_cons_of_neg (by simpa using passed)]
      rfl

end CqrsDdd.Paging
