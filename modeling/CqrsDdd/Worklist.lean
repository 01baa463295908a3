import Mathlib.Data.Finset.Card
import Mathlib.Data.Finset.Dedup
import Mathlib.Logic.Relation

/-! A worklist over a graph that may have cycles. A node enters the list once, when it is first
seen, so that the list runs empty after at most as many rounds as there are nodes; what has
been seen then are the nodes that can be reached. -/
namespace CqrsDdd.Worklist

variable {Node : Type*} [DecidableEq Node] (successors : Node → List Node)

/-- The nodes of a list that are new are marked and put on top of the work. -/
def push : Finset Node × List Node → List Node → Finset Node × List Node
  | state,[] => state
  | (seen,work),node::rest => if node ∈ seen then push (seen,work) rest else push (insert node seen,node::work) rest

/-- Takes nodes from the top until there is no work; `none` when the fuel is used up before. -/
def run : Nat → Finset Node × List Node → Option (Finset Node)
  | _,(seen,[]) => some seen
  | 0,(_,_::_) => none
  | fuel + 1,(seen,node::work) => run fuel (push (seen,work) (successors node))

def Edge (node next : Node) : Prop := next ∈ successors node

abbrev Reaches : Node → Node → Prop := Relation.ReflTransGen (Edge successors)

variable {successors}

theorem push_seen (state : Finset Node × List Node) (nodes : List Node) (node : Node) :
    node ∈ (push state nodes).1 ↔ node ∈ state.1 ∨ node ∈ nodes := by
  induction nodes generalizing state with
  | nil => simp [push]
  | cons first rest ih =>
    obtain ⟨seen,work⟩ := state
    rw [push,List.mem_cons]
    split
    next old =>
      rw [ih]
      constructor
      · exact Or.imp_right .inr
      · rintro (known | rfl | later)
        · exact .inl known
        · exact .inl old
        · exact .inr later
    next =>
      rw [ih,Finset.mem_insert]
      tauto

theorem push_work (state : Finset Node × List Node) (nodes : List Node) {node : Node} (waits : node ∈ state.2) :
    node ∈ (push state nodes).2 := by
  induction nodes generalizing state with
  | nil => exact waits
  | cons first rest ih =>
    obtain ⟨seen,work⟩ := state
    rw [push]
    split
    next => exact ih _ waits
    next => exact ih _ (List.mem_cons_of_mem first waits)

theorem push_new (state : Finset Node × List Node) (nodes : List Node) {node : Node} (seen : node ∈ (push state nodes).1)
    (unseen : node ∉ state.1) : node ∈ (push state nodes).2 := by
  induction nodes generalizing state with
  | nil => exact absurd seen unseen
  | cons first rest ih =>
    obtain ⟨known,work⟩ := state
    rw [push] at seen ⊢
    by_cases old : first ∈ known
    · rw [if_pos old] at seen ⊢
      exact ih _ seen unseen
    · rw [if_neg old] at seen ⊢
      by_cases here : node = first
      · exact here ▸ push_work _ _ List.mem_cons_self
      · refine ih _ seen fun inserted => ?_
        exact (Finset.mem_insert.mp inserted).elim here unseen

theorem push_waits (state : Finset Node × List Node) (nodes : List Node) (marked : ∀ node ∈ state.2, node ∈ state.1) :
    ∀ node ∈ (push state nodes).2, node ∈ (push state nodes).1 := by
  induction nodes generalizing state with
  | nil => exact marked
  | cons first rest ih =>
    obtain ⟨seen,work⟩ := state
    rw [push]
    split
    next => exact ih _ marked
    next =>
      refine ih _ fun node waits => ?_
      rcases List.mem_cons.mp waits with rfl | before
      · exact Finset.mem_insert_self _ _
      · exact Finset.mem_insert_of_mem (marked node before)

/-- The rounds that are left: the nodes that wait and those that were never seen. -/
def rounds (all : Finset Node) (state : Finset Node × List Node) : Nat := state.2.length + (all \ state.1).card

theorem push_rounds {all : Finset Node} (state : Finset Node × List Node) (nodes : List Node)
    (within : ∀ node ∈ nodes, node ∈ all) : rounds all (push state nodes) ≤ rounds all state := by
  induction nodes generalizing state with
  | nil => exact Nat.le_refl _
  | cons first rest ih =>
    obtain ⟨seen,work⟩ := state
    have later : ∀ node ∈ rest, node ∈ all := fun node member => within node (List.mem_cons_of_mem _ member)
    rw [push]
    split
    next => exact ih _ later
    next unseen =>
      have fresh : first ∈ all \ seen := Finset.mem_sdiff.mpr ⟨within first List.mem_cons_self,unseen⟩
      have fewer : (all \ insert first seen).card + 1 = (all \ seen).card := by
        rw [Finset.sdiff_insert,Finset.card_erase_add_one fresh]
      have next := ih (insert first seen,first::work) later
      unfold rounds at next ⊢
      dsimp only [List.length_cons] at next ⊢
      omega

/-- One round for each node of a set that no edge leaves is enough. -/
theorem run_total {all : Finset Node} (closed : ∀ node ∈ all, ∀ next ∈ successors node, next ∈ all) {fuel : Nat}
    {state : Finset Node × List Node} (marked : ∀ node ∈ state.2, node ∈ state.1) (within : ∀ node ∈ state.1, node ∈ all)
    (enough : rounds all state ≤ fuel) : ∃ seen, run successors fuel state = some seen := by
  induction fuel generalizing state with
  | zero =>
    obtain ⟨seen,work⟩ := state
    cases work with
    | nil => exact ⟨seen,rfl⟩
    | cons node work => exact absurd enough (by simp [rounds])
  | succ fuel ih =>
    obtain ⟨seen,work⟩ := state
    cases work with
    | nil => exact ⟨seen,rfl⟩
    | cons node work =>
      have children := closed node (within node (marked node List.mem_cons_self))
      refine ih (push_waits _ _ fun other waits => marked other (List.mem_cons_of_mem _ waits)) (fun other seen => ?_) ?_
      · rcases (push_seen _ _ _).mp seen with before | child
        · exact within other before
        · exact children other child
      · have fewer := push_rounds (seen,work) (successors node) children
        have spent : rounds all (seen,work) + 1 = rounds all (seen,node::work) := by
          simp only [rounds,List.length_cons]
          omega
        omega

/-- Everything seen can be reached, and whatever does not wait any more has its successors seen. -/
structure Sound (successors : Node → List Node) (roots : List Node) (state : Finset Node × List Node) : Prop where
  marked : ∀ node ∈ state.2, node ∈ state.1
  kept : ∀ root ∈ roots, root ∈ state.1
  reached : ∀ node ∈ state.1, ∃ root ∈ roots, Reaches successors root node
  closed : ∀ node ∈ state.1, node ∉ state.2 → ∀ next ∈ successors node, next ∈ state.1

theorem Sound.step {roots : List Node} {seen : Finset Node} {node : Node} {work : List Node}
    (sound : Sound successors roots (seen,node::work)) : Sound successors roots (push (seen,work) (successors node)) where
  marked := push_waits _ _ fun other waits => sound.marked other (List.mem_cons_of_mem _ waits)
  kept root member := (push_seen _ _ _).mpr (.inl (sound.kept root member))
  reached other seen := by
    rcases (push_seen _ _ _).mp seen with before | child
    · exact sound.reached other before
    · obtain ⟨root,member,path⟩ := sound.reached node (sound.marked node List.mem_cons_self)
      exact ⟨root,member,path.tail child⟩
  closed other known done next edge := by
    by_cases before : other ∈ (seen,work).1
    · by_cases here : other = node
      · exact (push_seen _ _ _).mpr (.inr (here ▸ edge))
      · have gone : other ∉ node::work := by
          intro waits
          rcases List.mem_cons.mp waits with same | later
          · exact here same
          · exact done (push_work _ _ later)
        exact (push_seen _ _ _).mpr (.inl (sound.closed other before gone next edge))
    · exact absurd (push_new _ _ known before) done

theorem walked_sound {roots : List Node} {fuel : Nat} {state : Finset Node × List Node} {seen : Finset Node}
    (sound : Sound successors roots state) (ran : run successors fuel state = some seen) :
    Sound successors roots (seen,[]) := by
  induction fuel generalizing state with
  | zero =>
    obtain ⟨known,work⟩ := state
    cases work with
    | nil =>
      cases ran
      exact sound
    | cons node work => cases ran
  | succ fuel ih =>
    obtain ⟨known,work⟩ := state
    cases work with
    | nil =>
      cases ran
      exact sound
    | cons node work => exact ih sound.step ran

omit [DecidableEq Node] in
theorem Sound.seen_iff {roots : List Node} {seen : Finset Node} (sound : Sound successors roots (seen,[])) (node : Node) :
    node ∈ seen ↔ ∃ root ∈ roots, Reaches successors root node := by
  refine ⟨sound.reached node,?_⟩
  rintro ⟨root,member,path⟩
  have start := sound.kept root member
  clear member
  induction path with
  | refl => exact start
  | tail _ edge ih => exact sound.closed _ ih List.not_mem_nil _ edge

theorem start_sound (roots : List Node) : Sound successors roots (roots.toFinset,roots) where
  marked _ member := List.mem_toFinset.mpr member
  kept _ member := List.mem_toFinset.mpr member
  reached node seen := ⟨node,List.mem_toFinset.mp seen,.refl⟩
  closed _ seen done := absurd (List.mem_toFinset.mp seen) done

/-- What a worklist sees that starts with some roots is what they reach. -/
theorem run_iff {roots : List Node} {fuel : Nat} {seen : Finset Node}
    (ran : run successors fuel (roots.toFinset,roots) = some seen) (node : Node) :
    node ∈ seen ↔ ∃ root ∈ roots, Reaches successors root node :=
  (walked_sound (start_sound roots) ran).seen_iff node

end CqrsDdd.Worklist
