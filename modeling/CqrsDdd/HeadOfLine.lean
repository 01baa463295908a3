import Mathlib.Data.List.Basic
import Mathlib.Data.List.Infix
import Mathlib.Data.List.TakeWhile

/-! A queue whose first items are tried in each pass. An item that is not blocked leaves
the queue when it is tried, a blocked one keeps its place, so that what is behind
enough blocked items is never tried. -/
namespace CqrsDdd.HeadOfLine

variable {Item : Type*} (blocked : Item → Bool) (batch : Nat)

def pass (queue : List Item) : List Item := (queue.take batch).filter blocked ++ queue.drop batch

def passes : Nat → List Item → List Item
  | 0,queue => queue
  | count + 1,queue => passes count (pass blocked batch queue)

/-- Fewer blocked items than a pass tries are ahead of each item that is not. -/
def Passable (queue : List Item) : Prop :=
  ∀ before item after, queue = before ++ item::after → blocked item = false → before.countP blocked < batch

variable {blocked batch} {queue : List Item}

theorem countP_take_drop (before : List Item) :
    ((before.take batch).filter blocked ++ before.drop batch).countP blocked = before.countP blocked := by
  have all : ((before.take batch).filter blocked).countP blocked = (before.take batch).countP blocked := by
    simp [List.countP_filter]
  rw [List.countP_append,all,← List.countP_append,List.take_append_drop]

theorem pass_behind {before after : List Item} {item : Item} (far : batch ≤ before.length) :
    pass blocked batch (before ++ item::after) =
      ((before.take batch).filter blocked ++ before.drop batch) ++ item::after := by
  rw [pass,List.take_append_of_le_length far,List.drop_append_of_le_length far,List.append_assoc]

theorem Passable.pass (passable : Passable blocked batch queue) : Passable blocked batch (pass blocked batch queue) := by
  intro before item after split good
  rcases List.append_eq_append_iff.mp split with ⟨middle,rfl,rest⟩ | ⟨middle,inside,rest⟩
  · have whole : queue = (queue.take batch ++ middle) ++ item::after := by
      rw [List.append_assoc,← rest,List.take_append_drop]
    have ahead := passable _ item after whole good
    have all : ((queue.take batch).filter blocked).countP blocked = (queue.take batch).countP blocked := by
      simp [List.countP_filter]
    rwa [List.countP_append,all,← List.countP_append]
  · cases middle with
    | nil =>
      rw [List.append_nil] at inside
      have whole : queue = queue.take batch ++ item::after := by
        rw [rest,List.nil_append,List.take_append_drop]
      have ahead := passable _ item after whole good
      have all : ((queue.take batch).filter blocked).countP blocked = (queue.take batch).countP blocked := by
        simp [List.countP_filter]
      rwa [← inside,all]
    | cons first others =>
      obtain ⟨rfl,_⟩ := List.cons.inj rest
      have kept : item ∈ (queue.take batch).filter blocked := by
        rw [inside]
        exact List.mem_append_right _ List.mem_cons_self
      rw [(List.mem_filter.mp kept).2] at good
      cases good

theorem exists_first_good (waits : ∃ item ∈ queue, blocked item = false) :
    ∃ before item after, queue = before ++ item::after ∧ blocked item = false ∧ before.countP blocked = before.length := by
  induction queue with
  | nil =>
    obtain ⟨_,member,_⟩ := waits
    cases member
  | cons first rest ih =>
    cases status : blocked first with
    | false => exact ⟨[],first,rest,rfl,status,rfl⟩
    | true =>
      have later : ∃ item ∈ rest, blocked item = false := by
        obtain ⟨item,member,good⟩ := waits
        rcases List.mem_cons.mp member with rfl | inside
        · rw [status] at good
          cases good
        · exact ⟨item,inside,good⟩
      obtain ⟨before,item,after,rfl,good,count⟩ := ih later
      refine ⟨first::before,item,after,rfl,good,?_⟩
      rw [List.countP_cons_of_pos status,count,List.length_cons]

theorem pass_fewer (passable : Passable blocked batch queue) (waits : ∃ item ∈ queue, blocked item = false) :
    (pass blocked batch queue).countP (fun item => !blocked item) < queue.countP fun item => !blocked item := by
  obtain ⟨before,item,after,split,good,count⟩ := exists_first_good waits
  have near : before.length < batch := count ▸ passable before item after split good
  have tried : item ∈ queue.take batch := by
    rw [split,List.take_append,List.take_of_length_le (Nat.le_of_lt near)]
    refine List.mem_append_right _ ?_
    obtain ⟨rest,more⟩ := Nat.exists_eq_add_of_lt near
    have left : batch - before.length = rest + 1 := by omega
    rw [left,List.take_succ_cons]
    exact List.mem_cons_self
  have gone : ((queue.take batch).filter blocked).countP (fun item => !blocked item) = 0 := by
    refine List.countP_eq_zero.mpr fun item member => ?_
    rw [(List.mem_filter.mp member).2]
    exact Bool.false_ne_true
  have some : 0 < (queue.take batch).countP fun item => !blocked item :=
    List.countP_pos_iff.mpr ⟨item,tried,by rw [good]; exact rfl⟩
  have whole := congrArg (List.countP fun item => !blocked item) (List.take_append_drop batch queue)
  rw [List.countP_append] at whole
  rw [pass,List.countP_append,gone]
  omega

theorem passes_clear (passable : Passable blocked batch queue) {count : Nat}
    (enough : queue.countP (fun item => !blocked item) ≤ count) :
    ∀ item ∈ passes blocked batch count queue, blocked item = true := by
  induction count generalizing queue with
  | zero =>
    intro item member
    have none := List.countP_eq_zero.mp (Nat.le_zero.mp enough) item member
    simpa using none
  | succ count ih =>
    by_cases waits : ∃ item ∈ queue, blocked item = false
    · have fewer := pass_fewer passable waits
      exact ih passable.pass (by omega)
    · refine ih passable.pass ((List.countP_eq_zero.mpr fun item member => ?_).trans_le (Nat.zero_le _))
      have stayed : item ∈ queue := by
        rcases List.mem_append.mp member with kept | behind
        · exact List.mem_of_mem_take (List.mem_filter.mp kept).1
        · exact List.mem_of_mem_drop behind
      cases status : blocked item with
      | true => exact Bool.false_ne_true
      | false => exact absurd ⟨item,stayed,status⟩ waits

theorem passes_stuck {before after : List Item} {item : Item} (behind : batch ≤ before.countP blocked) (count : Nat) :
    ∃ ahead, passes blocked batch count (before ++ item::after) = ahead ++ item::after := by
  induction count generalizing before with
  | zero => exact ⟨before,rfl⟩
  | succ count ih =>
    have far : batch ≤ before.length := behind.trans List.countP_le_length
    rw [passes,pass_behind far]
    exact ih ((countP_take_drop before).symm ▸ behind)

/-- Enough passes leave only blocked items exactly when the queue is passable. -/
theorem clears_iff :
    (∃ enough, ∀ count, enough ≤ count → ∀ item ∈ passes blocked batch count queue, blocked item = true) ↔
      Passable blocked batch queue := by
  constructor
  · rintro ⟨enough,clear⟩ before item after rfl good
    by_contra behind
    obtain ⟨ahead,stuck⟩ := @passes_stuck _ blocked batch before after item (Nat.le_of_not_lt behind) enough
    have still := clear enough (Nat.le_refl _) item (stuck ▸ List.mem_append_right _ List.mem_cons_self)
    rw [good] at still
    cases still
  · exact fun passable => ⟨_,fun _ enough => passes_clear passable enough⟩

theorem pass_eq_filter [DecidableEq Item] (distinct : queue.Nodup) :
    queue.filter (fun item => item ∉ (queue.take batch).filter fun item => !blocked item) =
      pass blocked batch queue := by
  rw [← List.take_append_drop batch queue] at distinct
  have apart := (List.nodup_append.mp distinct).2.2
  have tried : (queue.take batch).filter (fun item => item ∉ (queue.take batch).filter fun item => !blocked item) =
      (queue.take batch).filter blocked := by
    refine List.filter_congr fun item member => ?_
    cases status : blocked item <;> simp [member,status]
  have behind : (queue.drop batch).filter (fun item => item ∉ (queue.take batch).filter fun item => !blocked item) =
      queue.drop batch := by
    refine List.filter_eq_self.mpr fun item member => decide_eq_true fun taken => ?_
    exact apart item (List.mem_filter.mp taken).1 item member rfl
  calc
    queue.filter _ = (queue.take batch ++ queue.drop batch).filter _ := by rw [List.take_append_drop]
    _ = pass blocked batch queue := by rw [List.filter_append,tried,behind,pass]

end CqrsDdd.HeadOfLine
