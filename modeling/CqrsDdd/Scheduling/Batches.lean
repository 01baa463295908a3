import CqrsDdd.Scheduling.Dispatch

/-! What becomes of a batch over all runs of the workers: what an idle worker finds due is
settled once that worker is idle again, and is dispatched in the order of its times. -/
namespace CqrsDdd.Scheduling

open InMemoryCommandScheduler Trace

variable {Worker Command : Type}

def Settled (log : List (Record Worker Command)) (scheduleId : Nat) (command : Command) : Prop :=
  .cancelled scheduleId ∈ log ∨ (∃ worker, .failed worker scheduleId ∈ log) ∨
    ∃ worker, .dispatched worker scheduleId command ∈ log

theorem Settled.append {log : List (Record Worker Command)} {scheduleId : Nat} {command : Command}
    (settled : Settled log scheduleId command) (added : List (Record Worker Command)) :
    Settled (log ++ added) scheduleId command := by
  rcases settled with gone | ⟨worker,failed⟩ | ⟨worker,ran⟩
  · exact .inl (List.mem_append_left added gone)
  · exact .inr (.inl ⟨worker,List.mem_append_left added failed⟩)
  · exact .inr (.inr ⟨worker,List.mem_append_left added ran⟩)

variable [DecidableEq Worker]

def Record.dispatchedBy (worker : Worker) : Record Worker Command → Option Nat
  | .dispatched other scheduleId _ => if other = worker then some scheduleId else none
  | .scheduled _ _ | .cancelled _ | .failed _ _ => none

/-- The schedules that a worker has dispatched, in the order of the log. -/
def dispatchedBy (worker : Worker) (records : List (Record Worker Command)) : List Nat :=
  records.filterMap (Record.dispatchedBy worker)

theorem dispatchedBy_append (worker : Worker) (first second : List (Record Worker Command)) :
    dispatchedBy worker (first ++ second) = dispatchedBy worker first ++ dispatchedBy worker second :=
  List.filterMap_append

namespace Scheduler

/-- What a step that is no fetch of the worker does to the entries before it, and what it records. -/
inductive Works (worker : Worker) (due : List (Nat × Command)) :
    List (Nat × Command) → List (Record Worker Command) → Prop
  | waits {added : List (Record Worker Command)} (others : dispatchedBy worker added = []) : Works worker due due added
  | dispatches {scheduleId : Nat} {command : Command} {rest : List (Nat × Command)}
      (head : due = (scheduleId,command)::rest) : Works worker due rest [.dispatched worker scheduleId command]
  | fails {scheduleId : Nat} {command : Command} {rest : List (Nat × Command)}
      (head : due = (scheduleId,command)::rest) : Works worker due rest [.failed worker scheduleId]

/-- A step is a fetch of the worker, or works on what it has before it. -/
def Advances (scheduler : Scheduler Worker Command) (event : SchedulerEvent Worker Command) (worker : Worker) : Prop :=
  (∃ now, event = .fetch worker now ∧ (scheduler.batch worker).idle = true ∧ scheduler.step event =
    scheduler.setBatch worker ⟨none,getDueCommands scheduler.scheduled now,0⟩) ∨
  ∃ added, (scheduler.step event).log = scheduler.log ++ added ∧
    Works worker (scheduler.batch worker).due ((scheduler.step event).batch worker).due added

theorem due_setBatch_other (scheduler : Scheduler Worker Command) {worker other : Worker} (differs : worker ≠ other)
    (batch : Batch Command) : ((scheduler.setBatch other batch).batch worker).due = (scheduler.batch worker).due := by
  rw [batch_setBatch,if_neg differs]

theorem due_setBatch_same (scheduler : Scheduler Worker Command) (worker : Worker) (batch : Batch Command) :
    ((scheduler.setBatch worker batch).batch worker).due = batch.due := by
  rw [batch_setBatch,if_pos rfl]

theorem advances_waits {scheduler : Scheduler Worker Command} {event : SchedulerEvent Worker Command} {worker : Worker}
    (added : List (Record Worker Command)) (log : (scheduler.step event).log = scheduler.log ++ added)
    (due : ((scheduler.step event).batch worker).due = (scheduler.batch worker).due)
    (others : dispatchedBy worker added = []) : scheduler.Advances event worker := by
  refine .inr ⟨added,log,?_⟩
  rw [due]
  exact .waits others

theorem advances_same {scheduler : Scheduler Worker Command} {event : SchedulerEvent Worker Command} (worker : Worker)
    (same : scheduler.step event = scheduler) : scheduler.Advances event worker :=
  advances_waits [] (by rw [same,List.append_nil]) (by rw [same]) rfl

theorem dispatch_advances (scheduler : Scheduler Worker Command) (other worker : Worker) :
    scheduler.Advances (.dispatch other) worker := by
  rcases scheduler.step_dispatch_cases other with ⟨scheduleId,command,rest,_,head,same⟩ | ⟨_,same⟩
  · by_cases own : worker = other
    · subst own
      refine .inr ⟨[.dispatched worker scheduleId command],by rw [same]; exact rfl,?_⟩
      rw [same]
      change Works worker _ ((scheduler.setBatch worker _).batch worker).due _
      rw [due_setBatch_same]
      exact .dispatches head
    · apply advances_waits [.dispatched other scheduleId command]
      · rw [same]
        exact rfl
      · rw [same]
        exact scheduler.due_setBatch_other own _
      · simp [dispatchedBy,Record.dispatchedBy,Ne.symm own]
  · exact advances_same worker same

theorem delete_advances (scheduler : Scheduler Worker Command) (other worker : Worker) :
    scheduler.Advances (.delete other) worker := by
  rcases scheduler.step_delete_cases other with ⟨scheduleId,_,same⟩ | same
  · apply advances_waits []
    · rw [same,List.append_nil]
      exact rfl
    · rw [same]
      by_cases own : worker = other
      · subst own
        exact due_setBatch_same _ worker _
      · exact due_setBatch_other _ own _
    · exact rfl
  · exact advances_same worker same

theorem fail_advances (scheduler : Scheduler Worker Command) (other worker : Worker) :
    scheduler.Advances (.fail other) worker := by
  rcases scheduler.step_fail_cases other with ⟨scheduleId,_,same⟩ | ⟨scheduleId,command,rest,_,head,same⟩ | same
  · apply advances_waits [.failed other scheduleId]
    · rw [same]
      exact rfl
    · rw [same]
      by_cases own : worker = other
      · subst own
        exact scheduler.due_setBatch_same worker _
      · exact scheduler.due_setBatch_other own _
    · exact rfl
  · by_cases own : worker = other
    · subst own
      refine .inr ⟨[.failed worker scheduleId],by rw [same]; exact rfl,?_⟩
      rw [same]
      change Works worker _ ((scheduler.setBatch worker _).batch worker).due _
      rw [due_setBatch_same]
      exact .fails head
    · apply advances_waits [.failed other scheduleId]
      · rw [same]
        exact rfl
      · rw [same]
        exact scheduler.due_setBatch_other own _
      · exact rfl
  · exact advances_same worker same

theorem step_advances (scheduler : Scheduler Worker Command) (event : SchedulerEvent Worker Command) (worker : Worker) :
    scheduler.Advances event worker := by
  cases event with
  | schedule command executeAt => exact advances_waits [.scheduled scheduler.next ⟨command,executeAt⟩] rfl rfl rfl
  | cancel scheduleId =>
    cases stored : scheduler.scheduled.get scheduleId with
    | none => exact advances_same worker (step_cancel_absent stored)
    | some entry =>
      apply advances_waits [.cancelled scheduleId]
      · rw [step_cancel_stored stored]
        exact rfl
      · rw [step_cancel_stored stored]
        exact rfl
      · exact rfl
  | fetch other now =>
    rcases scheduler.step_fetch_cases other now with ⟨idle,same⟩ | ⟨_,same⟩
    · by_cases own : worker = other
      · subst own
        exact .inl ⟨now,rfl,idle,same⟩
      · apply advances_waits []
        · rw [same,List.append_nil]
          exact rfl
        · rw [same]
          exact scheduler.due_setBatch_other own _
        · exact rfl
    · exact advances_same worker same
  | dispatch other => exact scheduler.dispatch_advances other worker
  | delete other => exact scheduler.delete_advances other worker
  | fail other => exact scheduler.fail_advances other worker

theorem reached_snoc (past : List (SchedulerEvent Worker Command)) (event : SchedulerEvent Worker Command) :
    reached (past ++ [event]) = (reached past).step event :=
  Transition.run_append step initial past [event]

omit [DecidableEq Worker] in
theorem due_of_idle {scheduler : Scheduler Worker Command} {worker : Worker} (idle : (scheduler.batch worker).idle = true) :
    (scheduler.batch worker).due = [] := by
  rw [Batch.idle,Bool.and_eq_true,List.isEmpty_iff] at idle
  exact idle.2

/-- An entry is settled, or the worker has it before it. -/
def Owed (scheduler : Scheduler Worker Command) (worker : Worker) (scheduleId : Nat) (command : Command) : Prop :=
  Settled scheduler.log scheduleId command ∨ (scheduleId,command) ∈ (scheduler.batch worker).due

theorem Owed.step {scheduler : Scheduler Worker Command} {worker : Worker} {scheduleId : Nat} {command : Command}
    (owed : scheduler.Owed worker scheduleId command) (event : SchedulerEvent Worker Command) :
    (scheduler.step event).Owed worker scheduleId command := by
  rcases scheduler.step_advances event worker with ⟨now,_,idle,same⟩ | ⟨added,log,works⟩
  · rcases owed with settled | member
    · rw [same]
      exact .inl settled
    · rw [due_of_idle idle] at member
      cases member
  · unfold Owed
    rw [log]
    rcases owed with settled | member
    · exact .inl (settled.append added)
    · generalize (scheduler.batch worker).due = due at works member
      generalize ((scheduler.step event).batch worker).due = left at works ⊢
      cases works with
      | waits => exact .inr member
      | dispatches head =>
        subst head
        rcases List.mem_cons.mp member with first | later
        · cases first
          exact .inl (.inr (.inr ⟨worker,List.mem_append_right _ (List.mem_singleton.mpr rfl)⟩))
        · exact .inr later
      | fails head =>
        subst head
        rcases List.mem_cons.mp member with first | later
        · cases first
          exact .inl (.inr (.inl ⟨worker,List.mem_append_right _ (List.mem_singleton.mpr rfl)⟩))
        · exact .inr later

theorem owed_fetch {scheduler : Scheduler Worker Command} (inv : scheduler.Inv) {worker : Worker} {now : Int}
    {scheduleId : Nat} {entry : ScheduledEntry Command} (idle : (scheduler.batch worker).idle = true)
    (recorded : .scheduled scheduleId entry ∈ scheduler.log) (due : entry.executeAt ≤ now) :
    (scheduler.step (.fetch worker now)).Owed worker scheduleId entry.command := by
  have same : scheduler.step (.fetch worker now) =
    scheduler.setBatch worker ⟨none,getDueCommands scheduler.scheduled now,0⟩ := if_pos idle
  rw [same]
  rcases inv.accounted scheduleId entry recorded with stored | gone | ⟨other,command,ran⟩
  · apply Or.inr
    rw [due_setBatch_same]
    exact List.mem_map.mpr ⟨(scheduleId,entry),mem_dueEntries.mpr ⟨stored,due⟩,rfl⟩
  · exact .inl (.inl gone)
  · obtain ⟨known,member,own⟩ := inv.dispatched other scheduleId command ran
    cases inv.unique scheduleId entry known recorded member
    exact .inl (.inr (.inr ⟨other,own.symm ▸ ran⟩))

/-- What was due when an idle worker fetched is settled when that worker is idle. -/
def Live (events : List (SchedulerEvent Worker Command)) : Prop :=
  ∀ earlier worker now scheduleId entry, earlier ++ [.fetch worker now] <+: events →
    ((reached earlier).batch worker).idle = true → .scheduled scheduleId entry ∈ (reached earlier).log →
    entry.executeAt ≤ now → ((reached events).batch worker).idle = true →
    Settled (reached events).log scheduleId entry.command

theorem live (events : List (SchedulerEvent Worker Command)) : Live events := by
  intro earlier worker now scheduleId entry before free recorded due idle
  obtain ⟨later,rfl⟩ := before
  have owed : (reached (earlier ++ [.fetch worker now] ++ later)).Owed worker scheduleId entry.command := by
    have start : (reached (earlier ++ [.fetch worker now])).Owed worker scheduleId entry.command := by
      rw [reached_snoc]
      exact owed_fetch (inv_reached earlier) free recorded due
    rw [reached,Transition.run_append]
    exact Transition.run_invariant
      (fun scheduler : Scheduler Worker Command => scheduler.Owed worker scheduleId entry.command)
      (fun _ event owed (_ : True) => owed.step event) _ later start
      (Transition.meets_of_forall step (fun _ _ => True) (fun _ _ => trivial) _ later)
  rcases owed with settled | member
  · exact settled
  · rw [due_of_idle idle] at member
    cases member

/-- What a worker dispatches until its next fetch is in the order of the times. -/
def Ordered (events : List (SchedulerEvent Worker Command)) : Prop :=
  ∀ earlier worker now later, events = earlier ++ .fetch worker now::later →
    ((reached earlier).batch worker).idle = true →
    (∀ before other, before ++ [.fetch worker other] <+: later →
      ((reached (earlier ++ .fetch worker now::before)).batch worker).idle = false) →
    ∃ added, (reached events).log = (reached earlier).log ++ added ∧
      (dispatchedBy worker added).Pairwise fun first second => ∀ sooner later,
        .scheduled first sooner ∈ (reached events).log → .scheduled second later ∈ (reached events).log →
          sooner.executeAt ≤ later.executeAt

/-- What a worker has dispatched of its batch and what is before it still come in the order of the batch. -/
def Through (scheduler : Scheduler Worker Command) (worker : Worker) (log : List (Record Worker Command))
    (batch : List Nat) : Prop :=
  ∃ added, scheduler.log = log ++ added ∧
    (dispatchedBy worker added ++ (scheduler.batch worker).due.map Prod.fst).Sublist batch

theorem Through.step {scheduler : Scheduler Worker Command} {worker : Worker} {log : List (Record Worker Command)}
    {batch : List Nat} (through : scheduler.Through worker log batch) {event : SchedulerEvent Worker Command}
    (busy : ∀ now, event = .fetch worker now → (scheduler.batch worker).idle = false) :
    (scheduler.step event).Through worker log batch := by
  obtain ⟨past,same,ordered⟩ := through
  rcases scheduler.step_advances event worker with ⟨now,fetches,idle,_⟩ | ⟨added,grown,works⟩
  · cases (busy now fetches).symm.trans idle
  · refine ⟨past ++ added,by rw [grown,same,List.append_assoc],?_⟩
    rw [dispatchedBy_append]
    generalize (scheduler.batch worker).due = due at works ordered
    generalize ((scheduler.step event).batch worker).due = left at works ⊢
    cases works with
    | waits others => rwa [others,List.append_nil]
    | dispatches head =>
      subst head
      simpa [dispatchedBy,Record.dispatchedBy] using ordered
    | fails head =>
      subst head
      refine List.Sublist.trans ?_ ordered
      simp [dispatchedBy,Record.dispatchedBy]

theorem dueEntries_sorted (scheduled : Schedule Command) (now : Int) :
    (dueEntries scheduled now).Pairwise fun first second => first.2.executeAt ≤ second.2.executeAt := by
  have total : Std.Total fun first second : Nat × ScheduledEntry Command => first.2.executeAt ≤ second.2.executeAt :=
    ⟨fun _ _ => le_total _ _⟩
  have trans : IsTrans (Nat × ScheduledEntry Command) fun first second => first.2.executeAt ≤ second.2.executeAt :=
    ⟨fun _ _ _ => le_trans⟩
  exact List.pairwise_insertionSort _ _

theorem ordered (events : List (SchedulerEvent Worker Command)) : Ordered events := by
  intro earlier worker now later same free busy
  have through : ∀ before, before <+: later → (reached (earlier ++ .fetch worker now::before)).Through worker
      (reached earlier).log ((getDueCommands (reached earlier).scheduled now).map Prod.fst) := by
    intro before
    induction before using List.reverseRecOn with
    | nil =>
      intro _
      rw [reached_snoc,show (reached earlier).step (.fetch worker now) = _ from if_pos free]
      refine ⟨[],(List.append_nil _).symm,?_⟩
      rw [due_setBatch_same]
      exact List.Sublist.refl _
    | append_singleton past event ih =>
      intro within
      have shape : earlier ++ .fetch worker now::(past ++ [event]) = (earlier ++ .fetch worker now::past) ++ [event] := by
        simp
      rw [shape,reached_snoc]
      refine (ih ((List.prefix_append past [event]).trans within)).step fun other fetches => ?_
      exact busy past other (fetches ▸ within)
  obtain ⟨added,log,sublist⟩ := through later (List.prefix_refl later)
  rw [← same] at log sublist
  refine ⟨added,log,List.Pairwise.sublist ((List.sublist_append_left _ _).trans sublist) ?_⟩
  -- The log still knows the entries of the batch as the schedule had them at the fetch.
  have timed : ∀ entry ∈ dueEntries (reached earlier).scheduled now, ∀ found,
      .scheduled entry.1 found ∈ (reached events).log → found = entry.2 := by
    intro entry member found recorded
    have old := (inv_reached earlier).recorded entry.1 entry.2 (mem_dueEntries.mp member).1
    exact (inv_reached events).unique entry.1 found entry.2 recorded (log ▸ List.mem_append_left added old)
  rw [getDueCommands,List.map_map,List.pairwise_map]
  apply (dueEntries_sorted (reached earlier).scheduled now).imp_of_mem
  intro first second member other sooner early late recorded after
  rw [timed first member early recorded,timed second other late after]
  exact sooner

/-- Without a failure, a run dispatches each schedule once and none after its cancellation exactly when each dispatch is
of an entry that is still in the schedule and that no worker is dispatching. -/
theorem runs_once_iff (events : List (SchedulerEvent Worker Command)) (works : ∀ worker, .fail worker ∉ events) :
    (Chain Fresh (reached events).log ∧ Live events ∧ Ordered events) ↔
      Transition.Meets step Allowed initial events :=
  (and_iff_left ⟨live events,ordered events⟩).trans (fresh_iff works)

theorem runs_once_two_workers :
    (∀ worker, (.fail worker : SchedulerEvent Bool String) ∉ [.schedule "remind" 5,.schedule "expire" 3,.fetch true 10,
      .dispatch true,.delete true,.cancel 0,.fetch false 11]) ∧
    ((Chain Fresh (reached [.schedule "remind" 5,.schedule "expire" 3,.fetch true 10,.dispatch true,.delete true,.cancel 0,
        (.fetch false 11 : SchedulerEvent Bool String)]).log ∧
      Live [.schedule "remind" 5,.schedule "expire" 3,.fetch true 10,.dispatch true,.delete true,.cancel 0,
        (.fetch false 11 : SchedulerEvent Bool String)] ∧
      Ordered [.schedule "remind" 5,.schedule "expire" 3,.fetch true 10,.dispatch true,.delete true,.cancel 0,
        (.fetch false 11 : SchedulerEvent Bool String)]) ↔
      Transition.Meets step Allowed initial [.schedule "remind" 5,.schedule "expire" 3,.fetch true 10,.dispatch true,
        .delete true,.cancel 0,(.fetch false 11 : SchedulerEvent Bool String)]) :=
  ⟨by simp,runs_once_iff _ (by simp)⟩

/-- Two workers that fetched the same entry both dispatch it; a worker dispatches an entry that was cancelled after
its fetch. -/
theorem cancelled_or_taken_runs :
    ¬Chain Fresh (reached [.schedule "remind" 5,.fetch true 10,.fetch false 10,.dispatch true,
      (.dispatch false : SchedulerEvent Bool String)]).log ∧
    ¬Chain Fresh (reached [.schedule "remind" 5,.fetch true 10,.cancel 0,
      (.dispatch true : SchedulerEvent Bool String)]).log := by
  constructor
  · intro chain
    have fresh := chain [.scheduled 0 ⟨"remind",5⟩,.dispatched true 0 "remind"] (.dispatched false 0 "remind") [] (by decide)
    exact fresh.1 true "remind" (by decide)
  · intro chain
    have fresh := chain [.scheduled 0 ⟨"remind",5⟩,.cancelled 0] (.dispatched true 0 "remind") [] (by decide)
    exact fresh.2 (by decide)

end Scheduler

end CqrsDdd.Scheduling
