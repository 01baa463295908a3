import CqrsDdd.Scheduling.Commands

/-! Dispatch of scheduled commands over all runs of the workers. A worker dispatches what
it has fetched without another look at the schedule; what was fetched while it was due
is always worked off, in order. -/
namespace CqrsDdd.Scheduling

open InMemoryCommandScheduler Trace

variable {Worker Command : Type}

/-- A dispatch is the first of its schedule, which was not cancelled before. -/
def Fresh (earlier : List (Record Worker Command)) : Record Worker Command → Prop
  | .dispatched _ scheduleId _ =>
    (∀ worker command, .dispatched worker scheduleId command ∉ earlier) ∧ .cancelled scheduleId ∉ earlier
  | .scheduled _ _ | .cancelled _ | .failed _ _ => True

namespace InMemoryCommandScheduler

theorem mem_dueEntries {scheduled : Schedule Command} {now : Int} {scheduleId : Nat} {entry : ScheduledEntry Command} :
    (scheduleId,entry) ∈ dueEntries scheduled now ↔ scheduled.get scheduleId = some entry ∧ entry.executeAt ≤ now := by
  rw [dueEntries,List.mem_insertionSort,List.mem_filter,scheduled.mem_iff_get,decide_eq_true_iff]

theorem get_of_mem_due {scheduled : Schedule Command} {now : Int} {scheduleId : Nat} {command : Command}
    (due : (scheduleId,command) ∈ getDueCommands scheduled now) :
    ∃ entry, scheduled.get scheduleId = some entry ∧ entry.command = command := by
  obtain ⟨⟨id,entry⟩,member,same⟩ := List.mem_map.mp due
  cases same
  exact ⟨entry,(mem_dueEntries.mp member).1,rfl⟩

end InMemoryCommandScheduler

def Known (log : List (Record Worker Command)) (scheduleId : Nat) (command : Command) : Prop :=
  ∃ entry, .scheduled scheduleId entry ∈ log ∧ entry.command = command

theorem Known.append {log : List (Record Worker Command)} {scheduleId : Nat} {command : Command}
    (known : Known log scheduleId command) (added : List (Record Worker Command)) :
    Known (log ++ added) scheduleId command :=
  known.imp fun _ => And.imp_left (List.mem_append_left added)

namespace Scheduler
variable [DecidableEq Worker]

structure Inv (scheduler : Scheduler Worker Command) : Prop where
  recorded : ∀ scheduleId entry, scheduler.scheduled.get scheduleId = some entry →
    .scheduled scheduleId entry ∈ scheduler.log
  drawn : ∀ scheduleId entry, .scheduled scheduleId entry ∈ scheduler.log → scheduleId < scheduler.next
  unique : ∀ scheduleId first second, .scheduled scheduleId first ∈ scheduler.log →
    .scheduled scheduleId second ∈ scheduler.log → first = second
  accounted : ∀ scheduleId entry, .scheduled scheduleId entry ∈ scheduler.log →
    scheduler.scheduled.get scheduleId = some entry ∨ .cancelled scheduleId ∈ scheduler.log ∨
      ∃ worker command, .dispatched worker scheduleId command ∈ scheduler.log
  dispatching : ∀ worker scheduleId, (scheduler.batch worker).dispatching = some scheduleId →
    ∃ command, .dispatched worker scheduleId command ∈ scheduler.log
  due : ∀ worker scheduleId command, (scheduleId,command) ∈ (scheduler.batch worker).due →
    Known scheduler.log scheduleId command
  dispatched : ∀ worker scheduleId command, .dispatched worker scheduleId command ∈ scheduler.log →
    Known scheduler.log scheduleId command
  cancelled : ∀ scheduleId, .cancelled scheduleId ∈ scheduler.log →
    scheduleId < scheduler.next ∧ scheduler.scheduled.get scheduleId = none

theorem batch_setBatch (scheduler : Scheduler Worker Command) (worker other : Worker) (batch : Batch Command) :
    (scheduler.setBatch worker batch).batch other = if other = worker then batch else scheduler.batch other :=
  Function.update_apply _ _ _ _

omit [DecidableEq Worker] in
theorem inv_initial : (initial : Scheduler Worker Command).Inv where
  recorded _ _ stored := by cases stored
  drawn _ _ member := by cases member
  unique _ _ _ member := by cases member
  accounted _ _ member := by cases member
  dispatching _ _ runs := by cases runs
  due _ _ _ member := by cases member
  dispatched _ _ _ member := by cases member
  cancelled _ member := by cases member

theorem Inv.grow {scheduler : Scheduler Worker Command} (inv : scheduler.Inv) {worker : Worker} {batch : Batch Command}
    {added : List (Record Worker Command)}
    (quiet : ∀ record ∈ added, (∀ scheduleId entry, record ≠ .scheduled scheduleId entry) ∧
      (∀ scheduleId, record ≠ .cancelled scheduleId) ∧
      ∀ other scheduleId command, record = .dispatched other scheduleId command →
        Known scheduler.log scheduleId command)
    (dispatching : ∀ scheduleId, batch.dispatching = some scheduleId →
      ∃ command, .dispatched worker scheduleId command ∈ scheduler.log ++ added)
    (due : ∀ scheduleId command, (scheduleId,command) ∈ batch.due → Known scheduler.log scheduleId command) :
    ({scheduler.setBatch worker batch with log := scheduler.log ++ added} : Scheduler Worker Command).Inv where
  recorded scheduleId entry stored := List.mem_append_left added (inv.recorded scheduleId entry stored)
  drawn scheduleId entry member := by
    rcases List.mem_append.mp member with old | new
    · exact inv.drawn scheduleId entry old
    · exact absurd rfl ((quiet _ new).1 scheduleId entry)
  unique scheduleId first second member other := by
    rcases List.mem_append.mp member with old | new
    · rcases List.mem_append.mp other with known | added
      · exact inv.unique scheduleId first second old known
      · exact absurd rfl ((quiet _ added).1 scheduleId second)
    · exact absurd rfl ((quiet _ new).1 scheduleId first)
  accounted scheduleId entry member := by
    rcases List.mem_append.mp member with old | new
    · rcases inv.accounted scheduleId entry old with stored | gone | ⟨other,command,ran⟩
      · exact .inl stored
      · exact .inr (.inl (List.mem_append_left added gone))
      · exact .inr (.inr ⟨other,command,List.mem_append_left added ran⟩)
    · exact absurd rfl ((quiet _ new).1 scheduleId entry)
  dispatching other scheduleId runs := by
    change ((scheduler.setBatch worker batch).batch other).dispatching = _ at runs
    rw [batch_setBatch] at runs
    split at runs
    next same => exact same ▸ dispatching scheduleId runs
    next =>
      obtain ⟨command,ran⟩ := inv.dispatching other scheduleId runs
      exact ⟨command,List.mem_append_left added ran⟩
  due other scheduleId command member := by
    change (scheduleId,command) ∈ ((scheduler.setBatch worker batch).batch other).due at member
    rw [batch_setBatch] at member
    split at member
    next => exact (due scheduleId command member).append added
    next => exact (inv.due other scheduleId command member).append added
  dispatched other scheduleId command member := by
    rcases List.mem_append.mp member with old | new
    · exact (inv.dispatched other scheduleId command old).append added
    · exact ((quiet _ new).2.2 other scheduleId command rfl).append added
  cancelled scheduleId member := by
    rcases List.mem_append.mp member with old | new
    · exact inv.cancelled scheduleId old
    · exact absurd rfl ((quiet _ new).2.1 scheduleId)

omit [DecidableEq Worker] in
theorem Inv.schedule {scheduler : Scheduler Worker Command} (inv : scheduler.Inv) (entry : ScheduledEntry Command) :
    ((scheduler.schedule entry).record (.scheduled scheduler.next entry)).Inv where
  recorded scheduleId other stored := by
    change (scheduler.scheduled.set scheduler.next entry).get scheduleId = some other at stored
    rw [Dict.get_set] at stored
    split at stored
    next same =>
      cases stored
      exact same ▸ List.mem_append_right scheduler.log (List.mem_singleton.mpr rfl)
    next => exact List.mem_append_left _ (inv.recorded scheduleId other stored)
  drawn scheduleId other member := by
    rcases List.mem_append.mp member with old | new
    · exact Nat.lt_succ_of_lt (inv.drawn scheduleId other old)
    · cases List.mem_singleton.mp new
      exact Nat.lt_succ_self scheduler.next
  unique scheduleId first second member other := by
    rcases List.mem_append.mp member with old | new
    · rcases List.mem_append.mp other with known | added
      · exact inv.unique scheduleId first second old known
      · cases List.mem_singleton.mp added
        exact absurd (inv.drawn _ first old) (lt_irrefl _)
    · cases List.mem_singleton.mp new
      rcases List.mem_append.mp other with known | added
      · exact absurd (inv.drawn _ second known) (lt_irrefl _)
      · cases List.mem_singleton.mp added
        exact rfl
  accounted scheduleId other member := by
    change (scheduler.scheduled.set scheduler.next entry).get scheduleId = some other ∨ _
    rcases List.mem_append.mp member with old | new
    · rcases inv.accounted scheduleId other old with stored | gone | ⟨worker,command,ran⟩
      · rw [Dict.get_set_other _ _ (inv.drawn scheduleId other old).ne]
        exact .inl stored
      · exact .inr (.inl (List.mem_append_left _ gone))
      · exact .inr (.inr ⟨worker,command,List.mem_append_left _ ran⟩)
    · cases List.mem_singleton.mp new
      exact .inl (Dict.get_set_same _ _ _)
  dispatching worker scheduleId runs := (inv.dispatching worker scheduleId runs).imp fun _ => List.mem_append_left _
  due worker scheduleId command member := (inv.due worker scheduleId command member).append _
  dispatched worker scheduleId command member := by
    rcases List.mem_append.mp member with old | new
    · exact (inv.dispatched worker scheduleId command old).append _
    · cases List.mem_singleton.mp new
  cancelled scheduleId member := by
    rcases List.mem_append.mp member with old | new
    · obtain ⟨below,gone⟩ := inv.cancelled scheduleId old
      exact ⟨Nat.lt_succ_of_lt below,(Dict.get_set_other _ _ below.ne).trans gone⟩
    · cases List.mem_singleton.mp new

theorem get_erase_none {scheduled : Schedule Command} {scheduleId : Nat} (gone : scheduled.get scheduleId = none)
    (erased : Nat) : (scheduled.erase erased).get scheduleId = none := by
  by_cases same : scheduleId = erased
  · subst same
    exact Dict.get_erase_same scheduled scheduleId
  · exact (Dict.get_erase_other scheduled same).trans gone

omit [DecidableEq Worker] in
theorem Inv.cancel {scheduler : Scheduler Worker Command} (inv : scheduler.Inv) {erased : Nat}
    {entry : ScheduledEntry Command} (stored : scheduler.scheduled.get erased = some entry) :
    (({scheduler with scheduled := scheduler.scheduled.erase erased} : Scheduler Worker Command).record
      (.cancelled erased)).Inv where
  recorded scheduleId other left := List.mem_append_left _ (inv.recorded scheduleId other (Dict.get_of_get_erase _ left))
  drawn scheduleId other member := by
    rcases List.mem_append.mp member with old | new
    · exact inv.drawn scheduleId other old
    · cases List.mem_singleton.mp new
  unique scheduleId first second member other := by
    rcases List.mem_append.mp member with old | new
    · rcases List.mem_append.mp other with known | added
      · exact inv.unique scheduleId first second old known
      · cases List.mem_singleton.mp added
    · cases List.mem_singleton.mp new
  accounted scheduleId other member := by
    change (scheduler.scheduled.erase erased).get scheduleId = some other ∨ _
    by_cases same : scheduleId = erased
    · subst same
      exact .inr (.inl (List.mem_append_right _ (List.mem_singleton.mpr rfl)))
    · rw [Dict.get_erase_other _ same]
      rcases List.mem_append.mp member with old | new
      · rcases inv.accounted scheduleId other old with stored | gone | ⟨worker,command,ran⟩
        · exact .inl stored
        · exact .inr (.inl (List.mem_append_left _ gone))
        · exact .inr (.inr ⟨worker,command,List.mem_append_left _ ran⟩)
      · cases List.mem_singleton.mp new
  dispatching worker scheduleId runs := (inv.dispatching worker scheduleId runs).imp fun _ => List.mem_append_left _
  due worker scheduleId command member := (inv.due worker scheduleId command member).append _
  dispatched worker scheduleId command member := by
    rcases List.mem_append.mp member with old | new
    · exact (inv.dispatched worker scheduleId command old).append _
    · cases List.mem_singleton.mp new
  cancelled scheduleId member := by
    rcases List.mem_append.mp member with old | new
    · exact (inv.cancelled scheduleId old).imp_right fun gone => get_erase_none gone erased
    · cases List.mem_singleton.mp new
      exact ⟨inv.drawn erased entry (inv.recorded erased entry stored),Dict.get_erase_same _ erased⟩

theorem Inv.delete {scheduler : Scheduler Worker Command} (inv : scheduler.Inv) {worker : Worker} {erased : Nat}
    (runs : (scheduler.batch worker).dispatching = some erased) (count : Nat) :
    (({scheduler with scheduled := scheduler.scheduled.erase erased} : Scheduler Worker Command).setBatch worker
      {scheduler.batch worker with dispatching := none, count := count}).Inv where
  recorded scheduleId other left := inv.recorded scheduleId other (Dict.get_of_get_erase _ left)
  drawn := inv.drawn
  unique := inv.unique
  accounted scheduleId other member := by
    change (scheduler.scheduled.erase erased).get scheduleId = some other ∨ _
    by_cases same : scheduleId = erased
    · subst same
      exact .inr (.inr ⟨worker,inv.dispatching worker scheduleId runs⟩)
    · rw [Dict.get_erase_other _ same]
      exact inv.accounted scheduleId other member
  dispatching other scheduleId now := by
    rw [batch_setBatch] at now
    split at now
    next => cases now
    next => exact inv.dispatching other scheduleId now
  due other scheduleId command member := by
    rw [batch_setBatch] at member
    split at member
    next same => exact inv.due worker scheduleId command member
    next => exact inv.due other scheduleId command member
  dispatched := inv.dispatched
  cancelled scheduleId member := (inv.cancelled scheduleId member).imp_right fun gone => get_erase_none gone erased

theorem Inv.fail {scheduler : Scheduler Worker Command} (inv : scheduler.Inv) (worker : Worker) (scheduleId : Nat)
    {batch : Batch Command} (ended : batch.dispatching = none)
    (due : ∀ entry ∈ batch.due, entry ∈ (scheduler.batch worker).due) :
    ((scheduler.setBatch worker batch).record (.failed worker scheduleId)).Inv := by
  apply inv.grow
  · intro record member
    cases List.mem_singleton.mp member
    exact ⟨fun _ _ same => (by cases same),fun _ same => (by cases same),fun _ _ _ same => (by cases same)⟩
  · intro other runs
    rw [ended] at runs
    cases runs
  · exact fun other command member => inv.due worker other command (due (other,command) member)

theorem step_cancel_absent {scheduler : Scheduler Worker Command} {scheduleId : Nat}
    (absent : scheduler.scheduled.get scheduleId = none) : scheduler.step (.cancel scheduleId) = scheduler := by
  simp [step,InMemoryCommandScheduler.cancel,absent]

theorem step_cancel_stored {scheduler : Scheduler Worker Command} {scheduleId : Nat} {entry : ScheduledEntry Command}
    (stored : scheduler.scheduled.get scheduleId = some entry) : scheduler.step (.cancel scheduleId) =
      ({scheduler with scheduled := scheduler.scheduled.erase scheduleId} : Scheduler Worker Command).record
        (.cancelled scheduleId) := by
  simp [step,InMemoryCommandScheduler.cancel,stored]

theorem step_fetch_cases (scheduler : Scheduler Worker Command) (worker : Worker) (now : Int) :
    ((scheduler.batch worker).idle = true ∧ scheduler.step (.fetch worker now) =
      scheduler.setBatch worker ⟨none,getDueCommands scheduler.scheduled now,0⟩) ∨
    ((scheduler.batch worker).idle = false ∧ scheduler.step (.fetch worker now) = scheduler) := by
  cases idle : (scheduler.batch worker).idle with
  | true => exact .inl ⟨rfl,if_pos idle⟩
  | false => exact .inr ⟨rfl,if_neg (by simp [idle])⟩

theorem step_dispatch_cases (scheduler : Scheduler Worker Command) (worker : Worker) :
    (∃ scheduleId command rest, (scheduler.batch worker).dispatching = none ∧
      (scheduler.batch worker).due = (scheduleId,command)::rest ∧ scheduler.step (.dispatch worker) =
        (scheduler.setBatch worker {scheduler.batch worker with dispatching := some scheduleId, due := rest}).record
          (.dispatched worker scheduleId command)) ∨
    ((∀ scheduleId command rest, (scheduler.batch worker).dispatching = none →
      (scheduler.batch worker).due ≠ (scheduleId,command)::rest) ∧ scheduler.step (.dispatch worker) = scheduler) := by
  unfold step
  dsimp only
  split
  next scheduleId command rest idle waits => exact .inl ⟨scheduleId,command,rest,idle,waits,rfl⟩
  next other => exact .inr ⟨other,rfl⟩

theorem step_delete_cases (scheduler : Scheduler Worker Command) (worker : Worker) :
    (∃ scheduleId, (scheduler.batch worker).dispatching = some scheduleId ∧ scheduler.step (.delete worker) =
      ({scheduler with scheduled := scheduler.scheduled.erase scheduleId} : Scheduler Worker Command).setBatch worker
        {scheduler.batch worker with dispatching := none, count := (scheduler.batch worker).count+1}) ∨
    scheduler.step (.delete worker) = scheduler := by
  unfold step
  dsimp only
  split
  next scheduleId runs => exact .inl ⟨scheduleId,runs,rfl⟩
  next => exact .inr rfl

theorem step_fail_cases (scheduler : Scheduler Worker Command) (worker : Worker) :
    (∃ scheduleId, (scheduler.batch worker).dispatching = some scheduleId ∧ scheduler.step (.fail worker) =
      (scheduler.setBatch worker {scheduler.batch worker with dispatching := none}).record (.failed worker scheduleId)) ∨
    (∃ scheduleId command rest, (scheduler.batch worker).dispatching = none ∧
      (scheduler.batch worker).due = (scheduleId,command)::rest ∧ scheduler.step (.fail worker) =
        (scheduler.setBatch worker {scheduler.batch worker with due := rest}).record (.failed worker scheduleId)) ∨
    scheduler.step (.fail worker) = scheduler := by
  unfold step
  dsimp only
  split
  next scheduleId runs => exact .inl ⟨scheduleId,runs,rfl⟩
  next scheduleId command rest idle waits => exact .inr (.inl ⟨scheduleId,command,rest,idle,waits,rfl⟩)
  next => exact .inr (.inr rfl)

theorem Inv.dispatch {scheduler : Scheduler Worker Command} (inv : scheduler.Inv) {worker : Worker} {scheduleId : Nat}
    {command : Command} {rest : List (Nat × Command)} (waits : (scheduler.batch worker).due = (scheduleId,command)::rest) :
    ((scheduler.setBatch worker {scheduler.batch worker with dispatching := some scheduleId, due := rest}).record
      (.dispatched worker scheduleId command)).Inv := by
  have known := inv.due worker scheduleId command (waits ▸ List.mem_cons_self)
  apply inv.grow
  · intro record member
    cases List.mem_singleton.mp member
    refine ⟨fun _ _ same => (by cases same),fun _ same => (by cases same),fun _ _ _ same => ?_⟩
    cases same
    exact known
  · intro other runs
    cases runs
    exact ⟨command,List.mem_append_right _ (List.mem_singleton.mpr rfl)⟩
  · exact fun other command member => inv.due worker other command (waits ▸ List.mem_cons_of_mem _ member)

theorem Inv.fetch {scheduler : Scheduler Worker Command} (inv : scheduler.Inv) (worker : Worker) (now : Int) :
    (scheduler.setBatch worker ⟨none,getDueCommands scheduler.scheduled now,0⟩).Inv := by
  have grown := @Inv.grow _ _ _ scheduler inv worker ⟨none,getDueCommands scheduler.scheduled now,0⟩ []
    (fun _ member => by cases member) (fun _ runs => by cases runs) fun scheduleId command member => by
      obtain ⟨entry,stored,own⟩ := get_of_mem_due member
      exact ⟨entry,inv.recorded scheduleId entry stored,own⟩
  rw [List.append_nil] at grown
  exact grown

theorem Inv.step {scheduler : Scheduler Worker Command} (inv : scheduler.Inv) (event : SchedulerEvent Worker Command) :
    (scheduler.step event).Inv := by
  cases event with
  | schedule command executeAt => exact inv.schedule ⟨command,executeAt⟩
  | cancel scheduleId =>
    cases stored : scheduler.scheduled.get scheduleId with
    | none => exact (step_cancel_absent stored).symm ▸ inv
    | some entry => exact (step_cancel_stored stored).symm ▸ inv.cancel stored
  | fetch worker now =>
    rcases scheduler.step_fetch_cases worker now with ⟨_,same⟩ | ⟨_,same⟩
    · exact same.symm ▸ inv.fetch worker now
    · exact same.symm ▸ inv
  | dispatch worker =>
    rcases scheduler.step_dispatch_cases worker with ⟨scheduleId,command,rest,_,waits,same⟩ | ⟨_,same⟩
    · exact same.symm ▸ inv.dispatch waits
    · exact same.symm ▸ inv
  | delete worker =>
    rcases scheduler.step_delete_cases worker with ⟨scheduleId,runs,same⟩ | same
    · exact same.symm ▸ inv.delete runs _
    · exact same.symm ▸ inv
  | fail worker =>
    rcases scheduler.step_fail_cases worker with ⟨scheduleId,_,same⟩ | ⟨scheduleId,command,rest,idle,waits,same⟩ | same
    · exact same.symm ▸ inv.fail worker scheduleId rfl fun _ member => member
    · exact same.symm ▸ inv.fail worker scheduleId idle fun _ member => waits ▸ List.mem_cons_of_mem _ member
    · exact same.symm ▸ inv

omit [DecidableEq Worker] in
theorem Inv.dispatched_below {scheduler : Scheduler Worker Command} (inv : scheduler.Inv) {worker : Worker}
    {scheduleId : Nat} {command : Command} (ran : .dispatched worker scheduleId command ∈ scheduler.log) :
    scheduleId < scheduler.next := by
  obtain ⟨entry,recorded,_⟩ := inv.dispatched worker scheduleId command ran
  exact inv.drawn scheduleId entry recorded

theorem inv_reached (events : List (SchedulerEvent Worker Command)) : (reached events).Inv :=
  Transition.run_invariant Inv (fun _ event inv (_ : True) => inv.step event) initial events inv_initial
    (Transition.meets_of_forall step (fun _ _ => True) (fun _ _ => trivial) initial events)

/-- A dispatch is of a schedule that is still there and that no worker is dispatching. -/
def Allowed (scheduler : Scheduler Worker Command) : SchedulerEvent Worker Command → Prop
  | .dispatch worker => ∀ scheduleId command rest, (scheduler.batch worker).dispatching = none →
      (scheduler.batch worker).due = (scheduleId,command)::rest →
      (scheduler.scheduled.get scheduleId).isSome = true ∧
        ∀ other, (scheduler.batch other).dispatching ≠ some scheduleId
  | _ => True

/-- Without failures, what was dispatched is deleted unless its worker is still about to. -/
def Deleted (scheduler : Scheduler Worker Command) : Prop :=
  ∀ worker scheduleId command, .dispatched worker scheduleId command ∈ scheduler.log →
    scheduler.scheduled.get scheduleId = none ∨ ∃ other, (scheduler.batch other).dispatching = some scheduleId

theorem Deleted.step {scheduler : Scheduler Worker Command} (inv : scheduler.Inv) (deleted : scheduler.Deleted)
    {event : SchedulerEvent Worker Command} (works : ∀ worker, event ≠ .fail worker) : (scheduler.step event).Deleted := by
  intro ran scheduleId command member
  cases event with
  | schedule new executeAt =>
    change (scheduler.scheduled.set scheduler.next _).get scheduleId = none ∨ _
    rcases List.mem_append.mp member with old | new
    · rw [Dict.get_set_other _ _ (inv.dispatched_below old).ne]
      exact deleted ran scheduleId command old
    · cases List.mem_singleton.mp new
  | cancel erased =>
    cases stored : scheduler.scheduled.get erased with
    | none =>
      rw [step_cancel_absent stored] at member ⊢
      exact deleted ran scheduleId command member
    | some entry =>
      rw [step_cancel_stored stored] at member ⊢
      rcases List.mem_append.mp member with old | new
      · exact (deleted ran scheduleId command old).imp_left fun gone => get_erase_none gone erased
      · cases List.mem_singleton.mp new
  | fetch worker now =>
    rcases scheduler.step_fetch_cases worker now with ⟨idle,same⟩ | ⟨_,same⟩
    · rw [same] at member ⊢
      refine (deleted ran scheduleId command member).imp_right fun ⟨other,runs⟩ => ⟨other,?_⟩
      rw [batch_setBatch]
      split
      next own =>
        subst own
        simp [Batch.idle,runs] at idle
      next => exact runs
    · rw [same] at member ⊢
      exact deleted ran scheduleId command member
  | dispatch worker =>
    rcases scheduler.step_dispatch_cases worker with ⟨first,text,rest,idle,_,same⟩ | ⟨_,same⟩
    · rw [same] at member ⊢
      rcases List.mem_append.mp member with old | new
      · refine (deleted ran scheduleId command old).imp_right fun ⟨other,runs⟩ => ⟨other,?_⟩
        have differs : other ≠ worker := by
          intro own
          subst own
          cases idle.symm.trans runs
        change ((scheduler.setBatch worker _).batch other).dispatching = _
        rw [batch_setBatch,if_neg differs]
        exact runs
      · cases List.mem_singleton.mp new
        refine .inr ⟨ran,?_⟩
        change ((scheduler.setBatch ran _).batch ran).dispatching = _
        rw [batch_setBatch,if_pos rfl]
    · rw [same] at member ⊢
      exact deleted ran scheduleId command member
  | delete worker =>
    rcases scheduler.step_delete_cases worker with ⟨erased,runs,same⟩ | same
    · rw [same] at member ⊢
      change (scheduler.scheduled.erase erased).get scheduleId = none ∨ _
      by_cases own : scheduleId = erased
      · subst own
        exact .inl (Dict.get_erase_same _ scheduleId)
      · rcases deleted ran scheduleId command member with gone | ⟨other,handles⟩
        · exact .inl (get_erase_none gone erased)
        · have differs : other ≠ worker := by
            intro same
            subst same
            exact own (Option.some.inj (handles.symm.trans runs))
          refine .inr ⟨other,?_⟩
          rw [batch_setBatch,if_neg differs]
          exact handles
    · rw [same] at member ⊢
      exact deleted ran scheduleId command member
  | fail worker => exact absurd rfl (works worker)

theorem deleted_reached {events : List (SchedulerEvent Worker Command)} (works : ∀ worker, .fail worker ∉ events) :
    (reached events).Deleted := by
  have meets : Transition.Meets step (fun _ event => ∀ worker, event ≠ .fail worker)
      (initial : Scheduler Worker Command) events := by
    apply Transition.meets_of_mem
    intro event member worker same
    exact works worker (same ▸ member)
  have start : (initial : Scheduler Worker Command).Deleted := fun _ _ _ member => (by cases member)
  exact (Transition.run_invariant (fun scheduler : Scheduler Worker Command => scheduler.Inv ∧ scheduler.Deleted)
    (fun _ event kept works => ⟨kept.1.step event,kept.2.step kept.1 works⟩) initial events ⟨inv_initial,start⟩ meets).2

omit [DecidableEq Worker] in
theorem fresh_iff_allowed {scheduler : Scheduler Worker Command} (inv : scheduler.Inv) (deleted : scheduler.Deleted)
    {worker : Worker} {scheduleId : Nat} {command : Command} {rest : List (Nat × Command)}
    (idle : (scheduler.batch worker).dispatching = none)
    (waits : (scheduler.batch worker).due = (scheduleId,command)::rest) :
    Fresh scheduler.log (.dispatched worker scheduleId command) ↔ scheduler.Allowed (.dispatch worker) := by
  constructor
  · rintro ⟨first,kept⟩ other text left _ same
    cases waits.symm.trans same
    obtain ⟨entry,recorded,_⟩ := inv.due worker scheduleId command (waits ▸ List.mem_cons_self)
    constructor
    · rcases inv.accounted scheduleId entry recorded with stored | gone | ⟨ran,text,before⟩
      · exact Option.isSome_iff_exists.mpr ⟨entry,stored⟩
      · exact absurd gone kept
      · exact absurd before (first ran text)
    · intro ran runs
      obtain ⟨text,before⟩ := inv.dispatching ran scheduleId runs
      exact first ran text before
  · intro allowed
    obtain ⟨stored,alone⟩ := allowed scheduleId command rest idle waits
    obtain ⟨entry,stored⟩ := Option.isSome_iff_exists.mp stored
    constructor
    · intro ran text before
      rcases deleted ran scheduleId text before with gone | ⟨other,runs⟩
      · cases gone.symm.trans stored
      · exact alone other runs
    · intro gone
      cases (inv.cancelled scheduleId gone).2.symm.trans stored

theorem step_fresh {scheduler : Scheduler Worker Command} (inv : scheduler.Inv) (deleted : scheduler.Deleted)
    {event : SchedulerEvent Worker Command} (works : ∀ worker, event ≠ .fail worker) :
    Chain Fresh (scheduler.step event).log ↔ Chain Fresh scheduler.log ∧ scheduler.Allowed event := by
  cases event with
  | schedule command executeAt => exact Chain.snoc_iff
  | cancel scheduleId =>
    cases stored : scheduler.scheduled.get scheduleId with
    | none => exact (step_cancel_absent stored).symm ▸ (and_iff_left trivial).symm
    | some entry => exact (step_cancel_stored stored).symm ▸ Chain.snoc_iff
  | fetch worker now =>
    rcases scheduler.step_fetch_cases worker now with ⟨_,same⟩ | ⟨_,same⟩
    · exact same.symm ▸ (and_iff_left trivial).symm
    · exact same.symm ▸ (and_iff_left trivial).symm
  | dispatch worker =>
    rcases scheduler.step_dispatch_cases worker with ⟨scheduleId,command,rest,idle,waits,same⟩ | ⟨other,same⟩
    · rw [same,← fresh_iff_allowed inv deleted idle waits]
      exact Chain.snoc_iff
    · rw [same]
      refine (and_iff_left fun scheduleId command rest idle waits => ?_).symm
      exact absurd waits (other scheduleId command rest idle)
  | delete worker =>
    rcases scheduler.step_delete_cases worker with ⟨_,_,same⟩ | same
    · exact same.symm ▸ (and_iff_left trivial).symm
    · exact same.symm ▸ (and_iff_left trivial).symm
  | fail worker => exact absurd rfl (works worker)

theorem fresh_iff {events : List (SchedulerEvent Worker Command)} (works : ∀ worker, .fail worker ∉ events) :
    Chain Fresh (reached events).log ↔ Transition.Meets step Allowed initial events := by
  induction events using List.reverseRecOn with
  | nil => exact iff_of_true Chain.nil trivial
  | append_singleton past event ih =>
    have before : ∀ worker, .fail worker ∉ past := fun worker member => works worker (List.mem_append_left _ member)
    have now : ∀ worker, event ≠ .fail worker := by
      intro worker same
      exact works worker (List.mem_append_right past (List.mem_singleton.mpr same.symm))
    rw [reached,Transition.run_append,Transition.meets_append]
    exact (step_fresh (inv_reached past) (deleted_reached before) now).trans
      (and_congr (ih before) (and_iff_left trivial).symm)

end Scheduler

end CqrsDdd.Scheduling
