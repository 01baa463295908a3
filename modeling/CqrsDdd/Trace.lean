import Mathlib.Data.List.Count

/-! Logs that only grow at their end: where an event of a longer log lies, and
logs in which every event is justified by the events before it. -/
namespace CqrsDdd.Trace

variable {Event : Type*}

theorem snoc_split {log before after : List Event} {event found : Event}
    (split : log ++ [event] = before ++ found::after) :
    (∃ earlier, log = before ++ found::earlier ∧ after = earlier ++ [event]) ∨
      (before = log ∧ found = event ∧ after = []) := by
  rcases List.eq_nil_or_concat after with rfl | ⟨earlier,last,rfl⟩
  · obtain ⟨same,last⟩ := List.append_inj' split rfl
    exact Or.inr ⟨same.symm,(List.cons.inj last).1.symm,rfl⟩
  · have parts : log ++ [event] = (before ++ found::earlier) ++ [last] := by simpa using split
    obtain ⟨same,tail⟩ := List.append_inj' parts rfl
    exact Or.inl ⟨earlier,same,by rw [List.concat_eq_append,(List.cons.inj tail).1]⟩

def Chain (Justified : List Event → Event → Prop) (log : List Event) : Prop :=
  ∀ earlier event later, log = earlier ++ event::later → Justified earlier event

def Follows (Justified : List Event → Event → Prop) (log : List Event) : List Event → Prop
  | [] => True
  | event::rest => Justified log event ∧ Follows Justified (log ++ [event]) rest

variable {Justified : List Event → Event → Prop}

theorem Follows.append {log first second : List Event} (start : Follows Justified log first)
    (rest : Follows Justified (log ++ first) second) : Follows Justified log (first ++ second) := by
  induction first generalizing log with
  | nil => simpa using rest
  | cons event tail ih => exact ⟨start.1,ih start.2 (by simpa using rest)⟩

namespace Chain

theorem nil : Chain Justified [] := by
  intro earlier event later split
  simp at split

theorem snoc {log : List Event} (chain : Chain Justified log) {event : Event} (justified : Justified log event) :
    Chain Justified (log ++ [event]) := by
  intro earlier found later split
  rcases snoc_split split with ⟨middle,old,_⟩ | ⟨rfl,rfl,_⟩
  · exact chain earlier found middle old
  · exact justified

theorem snoc_iff {log : List Event} {event : Event} :
    Chain Justified (log ++ [event]) ↔ Chain Justified log ∧ Justified log event := by
  constructor
  · intro chain
    refine ⟨fun earlier found later split => ?_,chain log event [] rfl⟩
    apply chain earlier found (later ++ [event])
    rw [split,List.append_assoc,List.cons_append]
  · exact fun ⟨chain,justified⟩ => chain.snoc justified

theorem append {log added : List Event} (chain : Chain Justified log) (follows : Follows Justified log added) :
    Chain Justified (log ++ added) := by
  induction added generalizing log with
  | nil => simpa using chain
  | cons event rest ih =>
    have next := ih (chain.snoc follows.1) follows.2
    rwa [List.append_assoc] at next

theorem mem {log : List Event} (chain : Chain Justified log) {event : Event} (present : event ∈ log) :
    ∃ earlier, Justified earlier event ∧ earlier ⊆ log := by
  obtain ⟨before,after,rfl⟩ := List.append_of_mem present
  exact ⟨before,chain before event after rfl,fun _ member => by simp [member]⟩

theorem unique {log : List Event} (chain : Chain Justified log) {first second : Event} (present : first ∈ log)
    (other : second ∈ log) (forward : ∀ earlier, Justified earlier second → first ∉ earlier)
    (backward : ∀ earlier, Justified earlier first → second ∉ earlier) : first = second := by
  obtain ⟨before,after,rfl⟩ := List.append_of_mem present
  rcases List.mem_append.mp other with early | late
  · exact absurd early (backward before (chain before first after rfl))
  · rcases List.mem_cons.mp late with same | late
    · exact same.symm
    · obtain ⟨middle,rest,rfl⟩ := List.append_of_mem late
      have justified := chain (before ++ first::middle) second rest (by simp)
      exact absurd (by simp) (forward _ justified)

theorem count_le_one [DecidableEq Event] {log : List Event} (chain : Chain Justified log) {event : Event}
    (fresh : ∀ earlier, Justified earlier event → event ∉ earlier) : log.count event ≤ 1 := by
  by_cases present : event ∈ log
  · obtain ⟨before,after,rfl⟩ := List.append_of_mem present
    have first := fresh before (chain before event after rfl)
    have last : event ∉ after := by
      intro again
      obtain ⟨middle,rest,rfl⟩ := List.append_of_mem again
      have repeated := fresh _ (chain (before ++ event::middle) event rest (by simp))
      simp at repeated
    simp [List.count_append,List.count_eq_zero.mpr first,List.count_eq_zero.mpr last]
  · simp [List.count_eq_zero.mpr present]

end Chain

end CqrsDdd.Trace
