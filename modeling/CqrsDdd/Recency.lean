import Mathlib.Data.List.Infix
import Mathlib.Data.List.Nodup

/-! Keys in the order of their last requests. A request puts its key at the end of the order
and leaves the order of the others as it was. -/
namespace CqrsDdd.Recency

variable {Key : Type*}

/-- The last request of the second key is later than that of the first. -/
def Before (requests : List Key) (first second : Key) : Prop :=
  ∃ earlier later, requests = earlier ++ later ∧ second ∈ later ∧ first ∉ later

/-- The keys stand in the order of their last requests. -/
def Ordered (requests : List Key) (keys : List Key) : Prop := keys.Pairwise (Before requests)

theorem before_append {requests : List Key} {first second key : Key} (before : Before requests first second)
    (differs : first ≠ key) : Before (requests ++ [key]) first second := by
  obtain ⟨earlier,later,rfl,member,absent⟩ := before
  refine ⟨earlier,later ++ [key],List.append_assoc _ _ _,List.mem_append_left _ member,fun inside => ?_⟩
  rcases List.mem_append.mp inside with before | last
  · exact absent before
  · exact differs (List.mem_singleton.mp last)

theorem before_last (requests : List Key) {first key : Key} (differs : first ≠ key) :
    Before (requests ++ [key]) first key :=
  ⟨requests,[key],rfl,List.mem_cons_self,fun inside => differs (List.mem_singleton.mp inside)⟩

theorem ordered_others {requests keys : List Key} {key : Key} (ordered : Ordered requests keys) (absent : key ∉ keys) :
    Ordered (requests ++ [key]) keys :=
  ordered.imp_of_mem fun {first} {_} member _ before =>
    before_append before fun same : first = key => absent (same ▸ member)

theorem ordered_last {requests keys : List Key} {key : Key} (ordered : Ordered requests keys) (absent : key ∉ keys) :
    Ordered (requests ++ [key]) (keys ++ [key]) := by
  refine List.pairwise_append.mpr ⟨ordered_others ordered absent,List.pairwise_singleton _ _,fun first member last here => ?_⟩
  rw [List.mem_singleton.mp here]
  exact before_last requests fun same => absent (same ▸ member)

end CqrsDdd.Recency
