import CqrsDdd.BackgroundJobs.Jobs

/-! Cancellation of a background job over all runs of its handler and of the admin calls.
What is stored after a cancellation depends on the writers that read the job before it:
only some of them look again, and none of them in the step that stores. -/
namespace CqrsDdd.BackgroundJobs

variable {Call Data : Type}

def Final (added : List (BaseBackgroundJob Data)) : Prop :=
  added.Pairwise fun earlier later => earlier.status = .cancelled → later.status = .cancelled

instance (added : List (BaseBackgroundJob Data)) : Decidable (Final added) :=
  inferInstanceAs (Decidable (added.Pairwise fun earlier later => earlier.status = .cancelled → later.status = .cancelled))

/-- The handler stores a snapshot that it has taken before: the one it starts with, its progress, its
completion after the last check, or its failure. -/
def HandlerStage.Stores : HandlerStage Data → HandlerMove Data → Prop
  | .loaded job,.start => job.status = .pending ∨ job.status = .failed ∧ job.retryCount < job.maxRetries
  | .executing job,.progress _ => job.status = .running
  | .completing _,.complete => True
  | .failing job _,.fail => job.status = .pending ∨ job.status = .running
  | _,_ => False

/-- An admin call stores the retry, or the failure after a forced kill, of a snapshot that it has taken before. -/
def AdminStage.Stores : AdminStage Data → AdminMove → Prop
  | .retrying _,.add | .failing _,.add => True
  | _,_ => False

def HandlerStage.Sound : HandlerStage Data → Prop
  | .executing job | .executed job _ => job.status = .running
  | .completing job => job.status = .completed
  | .failing job _ => job.status = .running ∨ job.status = .completed
  | .recancelling job => job.status = .cancelled
  | .idle | .loaded _ | .detected | .done => True

def AdminStage.Sound : AdminStage Data → Prop
  | .cancelling job => job.status = .cancelled
  | .retrying job => job.status = .running
  | .failing job => job.status = .failed
  | .idle | .polling | .killed | .done => True

theorem not_cancelled {job : BaseBackgroundJob Data} {status : BackgroundJobStatus} (has : job.status = status)
    (other : status ≠ .cancelled) : job.status ≠ .cancelled := by
  rw [has]
  exact other

theorem begin_ok_iff (job : BaseBackgroundJob Data) : (∃ after, job.begin = .ok after) ↔
    job.status = .pending ∨ job.status = .failed ∧ job.retryCount < job.maxRetries := by
  unfold BaseBackgroundJob.begin BaseBackgroundJob.retry BaseBackgroundJob.startProcessing
  by_cases failed : job.status = .failed
  · simp only [failed,ne_eq,not_true_eq_false,if_false,if_true,reduceCtorEq,false_or,true_and]
    split
    next spent => simp [Nat.not_lt.mpr spent]
    next left => simp [Nat.lt_of_not_le left]
  · by_cases pending : job.status = .pending
    · simp [pending]
    · simp [failed,pending]

/-- What is to be known of a move: the stage it leads to is sound, and it stores a snapshot that is not
cancelled exactly when `stores` says so. -/
structure Advanced (stores sound : Prop) (written : Option (BaseBackgroundJob Data)) : Prop where
  sound : sound
  stores : stores ↔ ∃ job, written = some job ∧ job.status ≠ .cancelled

theorem Advanced.silent {stores sound : Prop} (holds : sound) (silent : ¬stores) :
    Advanced stores sound (none : Option (BaseBackgroundJob Data)) :=
  ⟨holds,iff_of_false silent fun ⟨_,nothing,_⟩ => by cases nothing⟩

theorem Advanced.storing {stores sound : Prop} {job : BaseBackgroundJob Data} (holds : sound) (storing : stores)
    (other : job.status ≠ .cancelled) : Advanced stores sound (some job) :=
  ⟨holds,iff_of_true storing ⟨job,rfl,other⟩⟩

theorem Advanced.cancelling {stores sound : Prop} {job : BaseBackgroundJob Data} (holds : sound) (silent : ¬stores)
    (cancelled : job.status = .cancelled) : Advanced stores sound (some job) := by
  refine ⟨holds,iff_of_false silent ?_⟩
  rintro ⟨other,same,differs⟩
  cases same
  exact differs cancelled

namespace BackgroundJobEventHandler

theorem advance_spec (stored : Option (BaseBackgroundJob Data)) {stage : HandlerStage Data} (sound : stage.Sound)
    (move : HandlerMove Data) :
    Advanced (stage.Stores move) (advance stored stage move).1.Sound (advance stored stage move).2 := by
  cases stage with
  | idle =>
    cases move with
    | load => cases stored <;> exact .silent trivial id
    | _ => exact .silent trivial id
  | loaded job =>
    cases move with
    | start =>
      change Advanced (job.status = .pending ∨ job.status = .failed ∧ job.retryCount < job.maxRetries) _ _
      rw [← begin_ok_iff]
      simp only [advance]
      split
      next error refused =>
        refine .silent trivial ?_
        rintro ⟨after,ok⟩
        cases refused.symm.trans ok
      next after ok =>
        have running := BaseBackgroundJob.begin_status ok
        exact .storing running ⟨after,ok⟩ (not_cancelled running (by decide))
    | _ => exact .silent trivial id
  | executing job =>
    cases move with
    | progress processedItems =>
      simp only [advance]
      split
      next error refused =>
        have running : job.status = .running := sound
        rw [BaseBackgroundJob.updateProgress,if_neg (not_not.mpr running)] at refused
        cases refused
      next after ok =>
        have running := BaseBackgroundJob.updateProgress_status ok
        exact .storing running sound (not_cancelled running (by decide))
    | checkpoint =>
      simp only [advance]
      split
      next => exact .silent trivial id
      next => exact .silent sound id
    | raise error => exact .silent (.inl sound) id
    | detect => exact .silent trivial id
    | stop => exact .silent trivial id
    | _ => exact .silent sound id
  | executed job result =>
    cases move with
    | verify =>
      simp only [advance]
      split
      next => exact .silent trivial id
      next =>
        split
        next => exact .silent (.inl sound) id
        next after ok => exact .silent (BaseBackgroundJob.complete_status ok) id
    | raise error => exact .silent (.inl sound) id
    | stop => exact .silent trivial id
    | _ => exact .silent sound id
  | completing job =>
    cases move with
    | complete => exact .storing trivial trivial (not_cancelled sound (by decide))
    | raise error => exact .silent (.inr sound) id
    | stop => exact .silent trivial id
    | _ => exact .silent sound id
  | detected =>
    cases move with
    | reload =>
      cases stored with
      | none => exact .silent trivial id
      | some latest =>
        simp only [advance]
        split
        next => exact .silent trivial id
        next =>
          split
          next => exact .silent trivial id
          next after ok => exact .silent (BaseBackgroundJob.cancel_status ok) id
    | _ => exact .silent trivial id
  | recancelling job =>
    cases move with
    | recancel => exact .cancelling trivial id sound
    | stop => exact .silent trivial id
    | _ => exact .silent sound id
  | failing job error =>
    cases move with
    | fail =>
      simp only [advance]
      rcases sound with running | completed
      · rw [if_neg (by simp [running])]
        split
        next reason refused =>
          rw [BaseBackgroundJob.fail,if_neg (by simp [running])] at refused
          cases refused
        next after ok =>
          exact .storing trivial (.inr running) (not_cancelled (BaseBackgroundJob.fail_status ok) (by decide))
      · rw [if_pos (.inl completed)]
        exact .silent trivial (by simp [HandlerStage.Stores,completed])
    | stop => exact .silent trivial id
    | _ => exact .silent sound id
  | done => cases move <;> exact .silent trivial id

end BackgroundJobEventHandler

namespace BackgroundJobAdminService

theorem cancelled_sound (job : BaseBackgroundJob Data) : (cancelled job).Sound := by
  unfold cancelled
  split
  next => trivial
  next after ok => exact BaseBackgroundJob.cancel_status ok

theorem load_sound (request : AdminRequest) (job : BaseBackgroundJob Data) : (load request job).Sound := by
  cases request with
  | bulkCancel =>
    unfold load
    dsimp only
    split
    next => trivial
    next => exact cancelled_sound job
  | bulkRetry =>
    unfold load
    dsimp only
    split
    next => trivial
    next =>
      split
      next => trivial
      next =>
        split
        next => trivial
        next after ok => exact BaseBackgroundJob.retry_status ok
  | cancelRunning killStrategy grace =>
    unfold load
    dsimp only
    split
    next => trivial
    next => exact cancelled_sound job

theorem terminate_sound (request : AdminRequest) (latest : BaseBackgroundJob Data) : (terminate request latest).Sound := by
  cases request with
  | cancelRunning killStrategy grace =>
    unfold terminate
    dsimp only
    split
    next =>
      split
      next => trivial
      next after ok => exact BaseBackgroundJob.fail_status ok
    next => trivial
  | _ => trivial

theorem advance_spec (request : AdminRequest) (stored : Option (BaseBackgroundJob Data)) {stage : AdminStage Data}
    (sound : stage.Sound) (move : AdminMove) :
    Advanced (stage.Stores move) (advance request stored stage move).1.Sound (advance request stored stage move).2 := by
  cases stage with
  | idle =>
    cases move with
    | load =>
      cases stored with
      | none => exact .silent trivial id
      | some job => exact .silent (load_sound request job) id
    | _ => exact .silent trivial id
  | cancelling job =>
    cases move with
    | add =>
      refine .cancelling ?_ id sound
      dsimp only [advance]
      split <;> trivial
    | stop => exact .silent trivial id
    | _ => exact .silent sound id
  | retrying job =>
    cases move with
    | add => exact .storing trivial trivial (not_cancelled sound (by decide))
    | stop => exact .silent trivial id
    | _ => exact .silent sound id
  | polling =>
    cases move with
    | poll =>
      simp only [advance]
      split <;> exact .silent trivial id
    | _ => exact .silent trivial id
  | killed =>
    cases move with
    | reload =>
      cases stored with
      | none => exact .silent trivial id
      | some latest => exact .silent (terminate_sound request latest) id
    | _ => exact .silent trivial id
  | failing job =>
    cases move with
    | add => exact .storing trivial trivial (not_cancelled sound (by decide))
    | stop => exact .silent trivial id
    | _ => exact .silent sound id
  | done => cases move <;> exact .silent trivial id

end BackgroundJobAdminService

namespace JobWorld
variable [DecidableEq Call] {requests : Call → AdminRequest}

def Allowed (world : JobWorld Call Data) : JobEvent Call Data → Prop
  | .handler move => world.handler.Stores move → world.stored.map (·.status) ≠ some .cancelled
  | .admin call move => (world.admin call).Stores move → world.stored.map (·.status) ≠ some .cancelled

structure Sound (world : JobWorld Call Data) : Prop where
  handler : world.handler.Sound
  admin : ∀ call, (world.admin call).Sound

omit [DecidableEq Call] in
theorem initial_sound (stored : Option (BaseBackgroundJob Data)) : (initial stored : JobWorld Call Data).Sound :=
  ⟨trivial,fun _ => trivial⟩

theorem Sound.step {world : JobWorld Call Data} (sound : world.Sound) (event : JobEvent Call Data) :
    (world.step requests event).Sound := by
  cases event with
  | handler move => exact ⟨(BackgroundJobEventHandler.advance_spec world.stored sound.handler move).sound,sound.admin⟩
  | admin call move =>
    refine ⟨sound.handler,fun other => ?_⟩
    by_cases same : other = call
    · subst same
      rw [show (world.step requests (.admin other move)).admin other = _ from Function.update_self other _ world.admin]
      exact (BackgroundJobAdminService.advance_spec (requests other) world.stored (sound.admin other) move).sound
    · rw [show (world.step requests (.admin call move)).admin other = _ from Function.update_of_ne same _ world.admin]
      exact sound.admin other

theorem step_added (world : JobWorld Call Data) (event : JobEvent Call Data) :
    (world.step requests event).added = world.added ++ (world.written requests event).toList := by
  cases event <;> rfl

omit [DecidableEq Call] in
theorem allowed_iff (requests : Call → AdminRequest) {world : JobWorld Call Data} (sound : world.Sound) (event : JobEvent Call Data) :
    world.Allowed event ↔ ∀ job, world.written requests event = some job →
      world.stored.map (·.status) = some .cancelled → job.status = .cancelled := by
  have stores : ∀ {stores sound : Prop} {written : Option (BaseBackgroundJob Data)}, Advanced stores sound written →
      ((stores → world.stored.map (·.status) ≠ some .cancelled) ↔
        ∀ job, written = some job → world.stored.map (·.status) = some .cancelled → job.status = .cancelled) := by
    intro stores sound written advanced
    constructor
    · intro allowed job writes cancelled
      by_contra other
      exact allowed (advanced.stores.mpr ⟨job,writes,other⟩) cancelled
    · intro kept storing cancelled
      obtain ⟨job,writes,other⟩ := advanced.stores.mp storing
      exact other (kept job writes cancelled)
  cases event with
  | handler move => exact stores (BackgroundJobEventHandler.advance_spec world.stored sound.handler move)
  | admin call move =>
    exact stores (BackgroundJobAdminService.advance_spec (requests call) world.stored (sound.admin call) move)

end JobWorld

theorem final_snoc (added : List (BaseBackgroundJob Data)) (job : BaseBackgroundJob Data) :
    Final (added ++ [job]) ↔
      Final added ∧ (added.getLast?.map (·.status) = some .cancelled → job.status = .cancelled) := by
  unfold Final
  rw [List.pairwise_append]
  constructor
  · rintro ⟨earlier,_,across⟩
    refine ⟨earlier,fun cancelled => ?_⟩
    obtain ⟨last,ends,status⟩ := Option.map_eq_some_iff.mp cancelled
    exact across last (List.mem_of_getLast? ends) job (List.mem_singleton.mpr rfl) status
  · rintro ⟨earlier,last⟩
    refine ⟨earlier,List.pairwise_singleton _ job,fun old member new same cancelled => ?_⟩
    cases List.mem_singleton.mp same
    apply last
    rcases List.eq_nil_or_concat' added with rfl | ⟨before,final,rfl⟩
    · cases member
    · rw [List.getLast?_concat,Option.map_some]
      rcases List.mem_append.mp member with early | late
      · have across := (List.pairwise_append.mp earlier).2.2
        exact congrArg some (across old early final (List.mem_singleton.mpr rfl) cancelled)
      · rw [← List.mem_singleton.mp late]
        exact congrArg some cancelled

namespace JobWorld
variable [DecidableEq Call]

theorem step_final {requests : Call → AdminRequest} {world : JobWorld Call Data} (sound : world.Sound)
    (event : JobEvent Call Data) : Final (world.step requests event).added ↔ Final world.added ∧ world.Allowed event := by
  rw [step_added,allowed_iff requests sound]
  cases writes : world.written requests event with
  | none => simp
  | some job =>
    rw [Option.toList_some,final_snoc]
    refine and_congr_right fun _ => ⟨fun kept other same cancelled => ?_,fun kept => kept job rfl⟩
    cases same
    exact kept cancelled

theorem cancellation_final_iff (requests : Call → AdminRequest) (stored : Option (BaseBackgroundJob Data))
    (events : List (JobEvent Call Data)) :
    Final (Transition.run (step requests) (initial stored) events).added ↔
      Transition.Meets (step requests) Allowed (initial stored) events := by
  have start : Final (initial stored : JobWorld Call Data).added := by cases stored <;> simp [Final,initial]
  have sound : ∀ past : List (JobEvent Call Data), (Transition.run (step requests) (initial stored) past).Sound := fun past =>
    Transition.run_invariant Sound (fun _ event sound (_ : True) => sound.step event) (initial stored) past
      (initial_sound stored) (Transition.meets_of_forall _ (fun _ _ => True) (fun _ _ => trivial) _ past)
  induction events using List.reverseRecOn with
  | nil => exact iff_of_true start trivial
  | append_singleton past event ih =>
    rw [Transition.run_append,Transition.meets_append]
    exact (step_final (sound past) event).trans (and_congr ih (and_iff_left trivial).symm)

/-- A job cancelled while it executes is stored as failed when its execution raises; one cancelled between the last
check and the completion is stored as completed; a retry of a failed job overwrites its cancellation. -/
theorem cancelled_job_overwritten :
    ¬Final (Transition.run (step fun _ : Unit => .cancelRunning false "30") (initial (some ({} : BaseBackgroundJob String)))
      [.handler .load,.handler .start,.admin () .load,.admin () .add,.handler (.raise "timeout"),.handler .fail]).added ∧
    ¬Final (Transition.run (step fun _ : Unit => .bulkCancel) (initial (some ({} : BaseBackgroundJob String)))
      [.handler .load,.handler .start,.handler (.succeed Dict.empty),.handler .verify,.admin () .load,.admin () .add,
        .handler .complete]).added ∧
    ¬Final (Transition.run (step fun retries : Bool => if retries then .bulkRetry else .bulkCancel)
      (initial (some ({status := .failed} : BaseBackgroundJob String)))
      [.admin true .load,.admin false .load,.admin false .add,.admin true .add]).added := by
  decide

end JobWorld

end CqrsDdd.BackgroundJobs
