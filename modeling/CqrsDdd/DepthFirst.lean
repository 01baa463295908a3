import Mathlib.Data.List.Nodup
import Mathlib.Logic.Relation

/-! Depth-first traversal with a set of visited nodes. A node is entered once and put
out when all of its successors have been seen, so that on a graph without cycles
every node comes out after the nodes that it leads to. -/
namespace CqrsDdd.DepthFirst

variable {Node : Type*} [DecidableEq Node]

structure Progress (Node : Type*) where
  visited : List Node
  result : List Node

/-- The visit of a node, at most `fuel` calls deep. -/
def visit (successors : Node → List Node) : Nat → Node → Progress Node → Option (Progress Node)
  | 0, _, _ => none
  | fuel+1, node, progress =>
    if node ∈ progress.visited then some progress
    else
      ((successors node).foldlM (fun progress next => visit successors fuel next progress)
        {progress with visited := node::progress.visited}).map fun ended =>
          {ended with result := ended.result ++ [node]}

def visitAll (successors : Node → List Node) (fuel : Nat) (nodes : List Node) (progress : Progress Node) :
    Option (Progress Node) :=
  nodes.foldlM (fun progress next => visit successors fuel next progress) progress

variable {successors : Node → List Node} {fuel : Nat} {node : Node} {nodes : List Node} {before after : Progress Node}

theorem visit_seen (seen : node ∈ before.visited) : visit successors (fuel+1) node before = some before := by
  rw [visit,if_pos seen]

theorem visit_fresh (fresh : node ∉ before.visited)
    (visited : visit successors (fuel+1) node before = some after) :
    ∃ ended, visitAll successors fuel (successors node) {before with visited := node::before.visited} = some ended ∧
      after = {ended with result := ended.result ++ [node]} := by
  rw [visit,if_neg fresh] at visited
  obtain ⟨ended,all,rfl⟩ := Option.map_eq_some_iff.mp visited
  exact ⟨ended,all,rfl⟩

theorem visitAll_cons {rest : List Node} (visited : visitAll successors fuel (node::rest) before = some after) :
    ∃ middle, visit successors fuel node before = some middle ∧ visitAll successors fuel rest middle = some after := by
  unfold visitAll at visited
  rw [List.foldlM_cons] at visited
  exact Option.bind_eq_some_iff.mp visited

/-- What was put out since: each new node once, and these are the nodes newly visited. -/
structure Grows (before after : Progress Node) (added : List Node) : Prop where
  result : after.result = before.result ++ added
  distinct : added.Nodup
  fresh : ∀ node ∈ added, node ∉ before.visited
  visited : ∀ node, node ∈ after.visited ↔ node ∈ before.visited ∨ node ∈ added

omit [DecidableEq Node] in
theorem Grows.refl (progress : Progress Node) : Grows progress progress [] :=
  ⟨(List.append_nil _).symm,List.nodup_nil,fun _ member => absurd member List.not_mem_nil,fun _ => by simp⟩

omit [DecidableEq Node] in
theorem Grows.trans {middle : Progress Node} {first second : List Node} (left : Grows before middle first)
    (right : Grows middle after second) : Grows before after (first ++ second) := by
  refine ⟨?_,?_,?_,?_⟩
  · rw [right.result,left.result,List.append_assoc]
  · refine List.Nodup.append left.distinct right.distinct fun node early late => ?_
    exact right.fresh node late ((left.visited node).mpr (.inr early))
  · intro node member
    rcases List.mem_append.mp member with early | late
    · exact left.fresh node early
    · exact fun seen => right.fresh node late ((left.visited node).mpr (.inl seen))
  · intro node
    rw [right.visited,left.visited,List.mem_append,or_assoc]

omit [DecidableEq Node] in
theorem Grows.close {ended : Progress Node} {added : List Node} (fresh : node ∉ before.visited)
    (grows : Grows {before with visited := node::before.visited} ended added) :
    Grows before {ended with result := ended.result ++ [node]} (added ++ [node]) := by
  have alone : node ∉ added := fun member => grows.fresh node member List.mem_cons_self
  refine ⟨?_,?_,?_,?_⟩
  · rw [grows.result,List.append_assoc]
  · exact List.Nodup.append grows.distinct (List.nodup_singleton node) (by simpa using alone)
  · intro other member
    rcases List.mem_append.mp member with inner | own
    · exact fun seen => grows.fresh other inner (List.mem_cons_of_mem node seen)
    · exact List.mem_singleton.mp own ▸ fresh
  · intro other
    rw [grows.visited,List.mem_cons,List.mem_append,List.mem_singleton]
    exact ⟨fun seen => by tauto,fun seen => by tauto⟩

theorem visitAll_grows (each : ∀ node before after, visit successors fuel node before = some after →
      ∃ added, Grows before after added ∧ node ∈ after.visited)
    (visited : visitAll successors fuel nodes before = some after) :
    ∃ added, Grows before after added ∧ ∀ node ∈ nodes, node ∈ after.visited := by
  induction nodes generalizing before with
  | nil =>
    obtain rfl := Option.some.inj visited
    exact ⟨[],.refl _,fun _ member => absurd member List.not_mem_nil⟩
  | cons node rest ih =>
    obtain ⟨middle,first,later⟩ := visitAll_cons visited
    obtain ⟨added,grows,entered⟩ := each node before middle first
    obtain ⟨more,growsMore,others⟩ := ih later
    refine ⟨added ++ more,grows.trans growsMore,fun other member => ?_⟩
    rcases List.mem_cons.mp member with same | inRest
    · exact (growsMore.visited other).mpr (.inl (same ▸ entered))
    · exact others other inRest

theorem visit_grows (visited : visit successors fuel node before = some after) :
    ∃ added, Grows before after added ∧ node ∈ after.visited := by
  induction fuel generalizing node before after with
  | zero => cases visited
  | succ fuel ih =>
    by_cases seen : node ∈ before.visited
    · obtain rfl := Option.some.inj ((visit_seen seen).symm.trans visited)
      exact ⟨[],.refl _,seen⟩
    · obtain ⟨ended,all,rfl⟩ := visit_fresh seen visited
      obtain ⟨added,grows,_⟩ := visitAll_grows (fun node before after => ih) all
      refine ⟨added ++ [node],grows.close seen,?_⟩
      exact (grows.visited node).mpr (.inl List.mem_cons_self)

theorem visitAll_more (each : ∀ node before after, visit successors fuel node before = some after →
      visit successors (fuel+1) node before = some after)
    (visited : visitAll successors fuel nodes before = some after) :
    visitAll successors (fuel+1) nodes before = some after := by
  induction nodes generalizing before with
  | nil => exact visited
  | cons node rest ih =>
    obtain ⟨middle,first,later⟩ := visitAll_cons visited
    unfold visitAll at ih ⊢
    rw [List.foldlM_cons,each node before middle first]
    exact ih later

theorem visit_more (visited : visit successors fuel node before = some after) :
    visit successors (fuel+1) node before = some after := by
  induction fuel generalizing node before after with
  | zero => cases visited
  | succ fuel ih =>
    by_cases seen : node ∈ before.visited
    · exact (visit_seen seen).trans ((visit_seen seen).symm.trans visited)
    · obtain ⟨ended,all,rfl⟩ := visit_fresh seen visited
      have again := visitAll_more (fun node before after => ih) all
      unfold visitAll at again
      rw [visit,if_neg seen,again]
      exact rfl

theorem visitAll_of_le {larger : Nat} (least : fuel ≤ larger)
    (visited : visitAll successors fuel nodes before = some after) :
    visitAll successors larger nodes before = some after := by
  induction least with
  | refl => exact visited
  | step _ ih => exact visitAll_more (fun _ _ _ => visit_more) ih

section Termination

def unvisited (range : List Node) (progress : Progress Node) : Nat :=
  (range.filter fun node => node ∉ progress.visited).length

theorem unvisited_le (range : List Node) (kept : ∀ node ∈ before.visited, node ∈ after.visited) :
    unvisited range after ≤ unvisited range before := by
  refine (List.monotone_filter_right range fun node open' => ?_).length_le
  exact decide_eq_true fun seen => of_decide_eq_true open' (kept node seen)

theorem unvisited_enter {range : List Node} (known : node ∈ range) (fresh : node ∉ before.visited) :
    unvisited range {before with visited := node::before.visited} < unvisited range before := by
  unfold unvisited
  have there : node ∈ range.filter fun other => other ∉ before.visited :=
    List.mem_filter.mpr ⟨known,decide_eq_true fresh⟩
  have fewer : (range.filter fun other => other ∉ node::before.visited) =
      (range.filter fun other => other ∉ before.visited).filter fun other => other ≠ node := by
    rw [List.filter_filter]
    refine List.filter_congr fun other _ => ?_
    simp [List.mem_cons,not_or]
  rw [fewer]
  exact List.length_filter_lt_length_iff_exists.mpr ⟨node,there,by simp⟩

variable {range : List Node}

theorem visitAll_total (closed : ∀ node ∈ nodes, node ∈ range)
    (each : ∀ node before, node ∈ range → unvisited range before < fuel →
      ∃ after, visit successors fuel node before = some after)
    (enough : unvisited range before < fuel) : ∃ after, visitAll successors fuel nodes before = some after := by
  induction nodes generalizing before with
  | nil => exact ⟨before,rfl⟩
  | cons node rest ih =>
    obtain ⟨middle,first⟩ := each node before (closed node List.mem_cons_self) enough
    obtain ⟨added,grows,_⟩ := visit_grows first
    have fewer := unvisited_le range fun node seen => (grows.visited node).mpr (.inl seen)
    obtain ⟨after,later⟩ := ih (fun other member => closed other (List.mem_cons_of_mem node member))
      (Nat.lt_of_le_of_lt fewer enough)
    refine ⟨after,?_⟩
    unfold visitAll at later ⊢
    rw [List.foldlM_cons,first]
    exact later

/-- In a range closed under successors, a visit needs no more fuel than there are nodes left. -/
theorem visit_total (closed : ∀ node ∈ range, ∀ next ∈ successors node, next ∈ range)
    (known : node ∈ range) (enough : unvisited range before < fuel) :
    ∃ after, visit successors fuel node before = some after := by
  induction fuel generalizing node before with
  | zero => exact absurd enough (Nat.not_lt_zero _)
  | succ fuel ih =>
    by_cases seen : node ∈ before.visited
    · exact ⟨before,visit_seen seen⟩
    · have fewer := unvisited_enter known seen
      obtain ⟨ended,all⟩ := visitAll_total (closed node known) (fun node before => ih)
        (show unvisited range {before with visited := node::before.visited} < fuel by omega)
      unfold visitAll at all
      rw [visit,if_neg seen,all]
      exact ⟨_,rfl⟩

end Termination

section Order

def Sorted (successors : Node → List Node) (result : List Node) : Prop :=
  ∀ early node late, result = early ++ node::late → ∀ next ∈ successors node, next ∈ early

omit [DecidableEq Node] in
theorem Sorted.snoc {result : List Node} (sorted : Sorted successors result)
    (inside : ∀ next ∈ successors node, next ∈ result) : Sorted successors (result ++ [node]) := by
  intro early other late same next member
  rcases List.eq_nil_or_concat' late with rfl | ⟨rest,last,rfl⟩
  · obtain ⟨rfl,own⟩ := List.append_inj' same rfl
    obtain rfl := List.singleton_inj.mp own
    exact inside next member
  · rw [← List.cons_append,← List.append_assoc] at same
    obtain ⟨rfl,_⟩ := List.append_inj' same rfl
    exact sorted early other rest rfl next member

theorem Sorted.step {result : List Node} {next : Node} (sorted : Sorted successors result) (distinct : result.Nodup)
    (out : node ∈ result) (leads : next ∈ successors node) :
    next ∈ result ∧ result.idxOf next < result.idxOf node := by
  obtain ⟨early,late,rfl⟩ := List.append_of_mem out
  have member := sorted early node late rfl next leads
  have later : node ∉ early := fun twice => (List.nodup_append.mp distinct).2.2 node twice node List.mem_cons_self rfl
  refine ⟨List.mem_append_left _ member,?_⟩
  rw [List.idxOf_append_of_mem member,List.idxOf_append_of_notMem later,List.idxOf_cons_self]
  exact Nat.lt_of_lt_of_le (List.idxOf_lt_length_of_mem member) (Nat.le_add_right _ _)

/-- A node comes out before whatever leads to it. -/
theorem Sorted.idxOf_lt {result : List Node} {last : Node} (sorted : Sorted successors result)
    (distinct : result.Nodup) (out : node ∈ result)
    (leads : Relation.TransGen (fun first second => second ∈ successors first) node last) :
    result.idxOf last < result.idxOf node := by
  have walked : last ∈ result ∧ result.idxOf last < result.idxOf node := by
    induction leads with
    | single edge => exact sorted.step distinct out edge
    | tail _ edge ih =>
      obtain ⟨member,less⟩ := sorted.step distinct ih.1 edge
      exact ⟨member,Nat.lt_trans less ih.2⟩
  exact walked.2

/-- The nodes that are entered but not out lead to the node that is visited now. -/
def Leads (successors : Node → List Node) (progress : Progress Node) (node : Node) : Prop :=
  ∀ other ∈ progress.visited, other ∉ progress.result →
    Relation.TransGen (fun first second => second ∈ successors first) other node

theorem visitAll_sorted (each : ∀ node before after, visit successors fuel node before = some after →
      Leads successors before node → Sorted successors before.result → Sorted successors after.result)
    (visited : visitAll successors fuel nodes before = some after)
    (leads : ∀ node ∈ nodes, Leads successors before node) (sorted : Sorted successors before.result) :
    Sorted successors after.result := by
  induction nodes generalizing before with
  | nil =>
    obtain rfl := Option.some.inj visited
    exact sorted
  | cons node rest ih =>
    obtain ⟨middle,first,later⟩ := visitAll_cons visited
    obtain ⟨added,grows,_⟩ := visit_grows first
    have next := each node before middle first (leads node List.mem_cons_self) sorted
    refine ih later (fun other member open' seen out => ?_) next
    -- what is open after the visit was open before it
    rw [grows.result,List.mem_append,not_or] at out
    have earlier := ((grows.visited open').mp seen).resolve_right out.2
    exact leads other (List.mem_cons_of_mem node member) open' earlier out.1

/-- On a graph without cycles the order is kept: an open successor would close one. -/
theorem visit_sorted (acyclic : ∀ node, ¬Relation.TransGen (fun first second => second ∈ successors first) node node)
    (visited : visit successors fuel node before = some after)
    (leads : Leads successors before node) (sorted : Sorted successors before.result) :
    Sorted successors after.result := by
  induction fuel generalizing node before after with
  | zero => cases visited
  | succ fuel ih =>
    by_cases seen : node ∈ before.visited
    · obtain rfl := Option.some.inj ((visit_seen seen).symm.trans visited)
      exact sorted
    · obtain ⟨ended,all,rfl⟩ := visit_fresh seen visited
      obtain ⟨added,grows,entered⟩ := visitAll_grows (fun node before after => visit_grows) all
      have below : Sorted successors ended.result := by
        refine visitAll_sorted (fun node before after => ih) all (fun next member other inside out => ?_) sorted
        rcases List.mem_cons.mp inside with same | earlier
        · exact .single (same ▸ member)
        · exact (leads other earlier out).tail member
      refine below.snoc fun next member => ?_
      by_contra out
      -- a successor that is still open would lead back to the node
      have inside := entered next member
      rw [grows.result,List.mem_append,not_or] at out
      have opened := ((grows.visited next).mp inside).resolve_right out.2
      rcases List.mem_cons.mp opened with same | earlier
      · exact acyclic node (.single (same ▸ member))
      · exact acyclic node ((Relation.TransGen.single member).trans (leads next earlier out.1))

end Order

end CqrsDdd.DepthFirst
