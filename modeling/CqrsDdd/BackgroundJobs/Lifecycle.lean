import CqrsDdd.BackgroundJobs.Jobs

/-! The lifecycle of a background job with the events that it emits. A method is written as it runs,
its guards before its assignments, so that what an error leaves behind can be asked. -/
namespace CqrsDdd.BackgroundJobs

variable {Data : Type}

inductive JobEventKind
  | created (jobType : String) (totalItems : Int)
  | started
  | completed
  | failed (errorMessage : String)
  | retried (retryCount : Int)
  | cancelled
  deriving DecidableEq, Repr

/-- The status after an event, when `initial` is that of a new job. -/
def JobEventKind.replayed (initial : BackgroundJobStatus) : JobEventKind → BackgroundJobStatus
  | .created _ _ => initial
  | .started | .retried _ => .running
  | .completed => .completed
  | .failed _ => .failed
  | .cancelled => .cancelled

structure LifecycleEvent where
  aggregateId : String
  correlationId : Option String
  kind : JobEventKind
  deriving DecidableEq, Repr

/-- The fields of a job; `create` takes each of them or leaves it to its default. -/
structure JobFields (Data : Type) where
  id : String
  jobType : String := ""
  status : BackgroundJobStatus := .pending
  totalItems : Int := 0
  processedItems : Int := 0
  resultData : Dict String Data := Dict.empty
  errorMessage : Option String := none
  retryCount : Int := 0
  maxRetries : Int := 3
  correlationId : Option String := none

structure BackgroundJob (Data : Type) extends JobFields Data where
  events : List LifecycleEvent

namespace BackgroundJob

/-- What a method does to the job stays done when it raises. -/
abbrev Method (Data : Type) := ExceptT JobStateError (StateM (BackgroundJob Data))

def emitted (job : BackgroundJob Data) (kind : JobEventKind) : BackgroundJob Data :=
  {job with events := job.events ++ [⟨job.id,job.correlationId,kind⟩]}

def emit (kind : JobEventKind) : Method Data Unit := modify fun job => job.emitted kind

def create (fields : JobFields Data) : BackgroundJob Data :=
  emitted {fields with events := []} (.created fields.jobType fields.totalItems)

def startProcessing : Method Data Unit := do
  if (← get).status ≠ .pending then throw ("Cannot start job in " ++ (← get).status.value ++ " state")
  modify fun job => {job with status := .running}
  emit .started

def updateProgress (processedItems : Int) : Method Data Unit := do
  if (← get).status ≠ .running then throw ("Cannot update progress in " ++ (← get).status.value ++ " state")
  modify fun job => {job with processedItems := processedItems}

def complete (resultData : Option (Dict String Data)) : Method Data Unit := do
  if (← get).status ≠ .running then throw ("Cannot complete job in " ++ (← get).status.value ++ " state")
  modify fun job => {job with status := .completed}
  if let some data := resultData then
    modify fun job => {job with resultData := job.resultData.update data}
  emit .completed

def fail (errorMessage : String) : Method Data Unit := do
  if (← get).status ∉ [.running,.pending] then
    throw ("Cannot fail job in " ++ (← get).status.value ++ " state")
  modify fun job => {job with status := .failed}
  modify fun job => {job with errorMessage := some errorMessage}
  emit (.failed errorMessage)

def retry : Method Data Unit := do
  if (← get).status ≠ .failed then throw ("Cannot retry job in " ++ (← get).status.value ++ " state")
  let job ← get
  if job.maxRetries ≤ job.retryCount then throw ("Max retries (" ++ toString job.maxRetries ++ ") exceeded")
  modify fun job => {job with retryCount := job.retryCount+1}
  modify fun job => {job with status := .running}
  modify fun job => {job with errorMessage := none}
  emit (.retried (← get).retryCount)

def cancel : Method Data Unit := do
  if (← get).status ∈ [.completed,.cancelled] then
    throw ("Cannot cancel job in " ++ (← get).status.value ++ " state")
  modify fun job => {job with status := .cancelled}
  modify fun job => {job with errorMessage := some "Cancelled by user"}
  emit .cancelled

inductive Call (Data : Type)
  | startProcessing
  | updateProgress (processedItems : Int)
  | complete (resultData : Option (Dict String Data))
  | fail (errorMessage : String)
  | retry
  | cancel

def method : Call Data → Method Data Unit
  | .startProcessing => startProcessing
  | .updateProgress processedItems => updateProgress processedItems
  | .complete resultData => complete resultData
  | .fail errorMessage => fail errorMessage
  | .retry => retry
  | .cancel => cancel

def perform (job : BackgroundJob Data) (call : Call Data) : Except JobStateError Unit × BackgroundJob Data :=
  (method call).run.run job

def step (job : BackgroundJob Data) (call : Call Data) : BackgroundJob Data := (job.perform call).2

def replay (initial : BackgroundJobStatus) (events : List LifecycleEvent) : BackgroundJobStatus :=
  events.foldl (fun _ event => event.kind.replayed initial) initial

def isRetried (event : LifecycleEvent) : Bool := event.kind matches .retried _

/-- What a call adds to the log is what it does to the status and to the number of retries. -/
structure Advances (before after : BackgroundJob Data) (added : List LifecycleEvent) : Prop where
  events : after.events = before.events ++ added
  status : ∀ initial, after.status = added.foldl (fun _ event => event.kind.replayed initial) before.status
  retryCount : after.retryCount = before.retryCount + added.countP isRetried
  maxRetries : after.maxRetries = before.maxRetries
  bounded : before.retryCount ≤ before.maxRetries → after.retryCount ≤ after.maxRetries

theorem Advances.refl (job : BackgroundJob Data) : Advances job job [] :=
  ⟨(List.append_nil _).symm,fun _ => rfl,(Int.add_zero _).symm,rfl,id⟩

theorem Advances.trans {first second third : BackgroundJob Data} {early late : List LifecycleEvent}
    (left : Advances first second early) (right : Advances second third late) : Advances first third (early ++ late) := by
  refine ⟨?_,fun initial => ?_,?_,right.maxRetries.trans left.maxRetries,right.bounded ∘ left.bounded⟩
  · rw [right.events,left.events,List.append_assoc]
  · rw [right.status initial,left.status initial,List.foldl_append]
  · rw [right.retryCount,left.retryCount,List.countP_append]
    omega

section Runs

theorem run_read {Result : Type} (next : BackgroundJob Data → Method Data Result) (job : BackgroundJob Data) :
    ExceptT.run (do next (← get)) job = ExceptT.run (next job) job := rfl

theorem perform_startProcessing (job : BackgroundJob Data) : job.perform .startProcessing =
    if job.status ≠ .pending then (.error ("Cannot start job in " ++ job.status.value ++ " state"),job)
    else (.ok (),emitted {job with status := .running} .started) := by
  refine (run_read _ job).trans ?_
  split
  · exact rfl
  · exact rfl

theorem perform_updateProgress (job : BackgroundJob Data) (processedItems : Int) :
    job.perform (.updateProgress processedItems) =
      if job.status ≠ .running then (.error ("Cannot update progress in " ++ job.status.value ++ " state"),job)
      else (.ok (),{job with processedItems := processedItems}) := by
  refine (run_read _ job).trans ?_
  split
  · exact rfl
  · exact rfl

theorem perform_complete (job : BackgroundJob Data) (resultData : Option (Dict String Data)) :
    job.perform (.complete resultData) =
      if job.status ≠ .running then (.error ("Cannot complete job in " ++ job.status.value ++ " state"),job)
      else (.ok (),emitted {job with status := .completed,resultData := resultData.elim job.resultData job.resultData.update}
        .completed) := by
  by_cases running : job.status ≠ .running
  · rw [if_pos running]
    cases resultData with
    | none => exact (run_read _ job).trans (by rw [if_pos running]; rfl)
    | some data => exact (run_read _ job).trans (by rw [if_pos running]; rfl)
  · rw [if_neg running]
    cases resultData with
    | none => exact (run_read _ job).trans (by rw [if_neg running]; rfl)
    | some data => exact (run_read _ job).trans (by rw [if_neg running]; rfl)

theorem perform_fail (job : BackgroundJob Data) (errorMessage : String) : job.perform (.fail errorMessage) =
    if job.status ∉ [.running,.pending] then
      (.error ("Cannot fail job in " ++ job.status.value ++ " state"),job)
    else (.ok (),emitted {job with status := .failed,errorMessage := some errorMessage} (.failed errorMessage)) := by
  refine (run_read _ job).trans ?_
  split
  · exact rfl
  · exact rfl

theorem perform_retry (job : BackgroundJob Data) : job.perform .retry =
    if job.status ≠ .failed then (.error ("Cannot retry job in " ++ job.status.value ++ " state"),job)
    else if job.maxRetries ≤ job.retryCount then
      (.error ("Max retries (" ++ toString job.maxRetries ++ ") exceeded"),job)
    else (.ok (),emitted {job with retryCount := job.retryCount+1,status := .running,errorMessage := none}
      (.retried (job.retryCount+1))) := by
  refine (run_read _ job).trans ?_
  split
  · exact rfl
  · refine (run_read _ job).trans ?_
    split
    · exact rfl
    · exact rfl

theorem perform_cancel (job : BackgroundJob Data) : job.perform .cancel =
    if job.status ∈ [.completed,.cancelled] then
      (.error ("Cannot cancel job in " ++ job.status.value ++ " state"),job)
    else (.ok (),emitted {job with status := .cancelled,errorMessage := some "Cancelled by user"} .cancelled) := by
  refine (run_read _ job).trans ?_
  split
  · exact rfl
  · exact rfl

end Runs

def Sound (job : BackgroundJob Data) (outcome : Except JobStateError Unit × BackgroundJob Data) : Prop :=
  (∃ error, outcome = (.error error,job)) ∨ ∃ after added, outcome = (.ok (),after) ∧ Advances job after added

theorem sound_guarded {job after : BackgroundJob Data} {guard : Prop} [Decidable guard] {error : JobStateError}
    {added : List LifecycleEvent} (advances : ¬guard → Advances job after added) :
    Sound job (if guard then (.error error,job) else (.ok (),after)) := by
  split
  next => exact .inl ⟨error,rfl⟩
  next free => exact .inr ⟨after,added,rfl,advances free⟩

theorem perform_sound (job : BackgroundJob Data) (call : Call Data) : Sound job (job.perform call) := by
  cases call with
  | startProcessing =>
    rw [perform_startProcessing]
    exact sound_guarded fun _ => ⟨rfl,fun _ => rfl,(Int.add_zero _).symm,rfl,id⟩
  | updateProgress processedItems =>
    rw [perform_updateProgress]
    exact sound_guarded fun _ => ⟨(List.append_nil _).symm,fun _ => rfl,(Int.add_zero _).symm,rfl,id⟩
  | complete resultData =>
    rw [perform_complete]
    exact sound_guarded fun _ => ⟨rfl,fun _ => rfl,(Int.add_zero _).symm,rfl,id⟩
  | fail errorMessage =>
    rw [perform_fail]
    exact sound_guarded fun _ => ⟨rfl,fun _ => rfl,(Int.add_zero _).symm,rfl,id⟩
  | retry =>
    rw [perform_retry]
    split
    next => exact .inl ⟨_,rfl⟩
    next =>
      refine sound_guarded fun left => ⟨rfl,fun _ => rfl,rfl,rfl,fun _ => ?_⟩
      exact Int.add_one_le_of_lt (Int.not_le.mp left)
  | cancel =>
    rw [perform_cancel]
    exact sound_guarded fun _ => ⟨rfl,fun _ => rfl,(Int.add_zero _).symm,rfl,id⟩

def Unchanged (job : BackgroundJob Data) (call : Call Data) : Prop :=
  ∀ error, (job.perform call).1 = .error error → job.step call = job

theorem perform_unchanged (job : BackgroundJob Data) (call : Call Data) : Unchanged job call := by
  intro error raised
  unfold step
  rcases job.perform_sound call with ⟨_,same⟩ | ⟨after,added,same,_⟩
  · rw [same]
  · rw [same] at raised
    cases raised

theorem step_advances (job : BackgroundJob Data) (call : Call Data) : ∃ added, Advances job (job.step call) added := by
  unfold step
  rcases job.perform_sound call with ⟨_,same⟩ | ⟨after,added,same,advances⟩
  · rw [same]
    exact ⟨[],.refl job⟩
  · rw [same]
    exact ⟨added,advances⟩

theorem run_advances (job : BackgroundJob Data) (calls : List (Call Data)) :
    ∃ added, Advances job (Transition.run step job calls) added :=
  Transition.run_invariant (fun after => ∃ added, Advances job after added)
    (fun after call ⟨_,advances⟩ _ => (after.step_advances call).imp' _ fun _ more => advances.trans more) job calls
    ⟨[],.refl job⟩ (Transition.meets_of_forall step (fun _ _ => True) (fun _ _ => trivial) job calls)

/-- The log of a job says what became of it since it was created. -/
theorem lifecycle_replays (fields : JobFields Data) (calls : List (Call Data)) :
    let job := Transition.run step (create fields) calls
    job.status = replay fields.status job.events ∧
      job.retryCount = fields.retryCount + job.events.countP isRetried ∧
      (fields.retryCount ≤ fields.maxRetries → job.retryCount ≤ job.maxRetries) ∧
      Transition.Meets step Unchanged (create fields) calls := by
  obtain ⟨added,advances⟩ := run_advances (create fields) calls
  have log : (Transition.run step (create fields) calls).events =
      ⟨fields.id,fields.correlationId,.created fields.jobType fields.totalItems⟩::added := advances.events
  refine ⟨?_,?_,advances.bounded,Transition.meets_of_forall step _ perform_unchanged _ calls⟩
  · rw [log]
    exact advances.status fields.status
  · rw [log,List.countP_cons_of_neg (by simp [isRetried])]
    exact advances.retryCount

/-- A job may be created in any status, and its log begins with its creation all the same. -/
theorem created_running_replays_pending : ¬ ∀ (fields : JobFields Unit) (calls : List (Call Unit)),
    (Transition.run step (create fields) calls).status =
      replay .pending (Transition.run step (create fields) calls).events := by
  intro replays
  have pending := replays {id := "j",status := .running} []
  cases pending

section Snapshots

/-- The job of the other model, which has no events and counts from zero, as one of this. -/
def ofSnapshot (fields : JobFields Data) (events : List LifecycleEvent) (job : BaseBackgroundJob Data) :
    BackgroundJob Data :=
  {fields with
    status := job.status,processedItems := job.processedItems,resultData := job.resultData,
    errorMessage := job.errorMessage,retryCount := job.retryCount,maxRetries := job.maxRetries,events := events}

def snapshotCall (job : BaseBackgroundJob Data) : Call Data → Except JobStateError (BaseBackgroundJob Data)
  | .startProcessing => job.startProcessing
  | .updateProgress processedItems => job.updateProgress processedItems
  | .complete resultData => job.complete (resultData.getD Dict.empty)
  | .fail errorMessage => job.fail errorMessage
  | .retry => job.retry
  | .cancel => job.cancel

/-- The two models of a job raise the same errors and make the same changes. -/
theorem perform_ofSnapshot (fields : JobFields Data) (events : List LifecycleEvent) (job : BaseBackgroundJob Data)
    (call : Call Data) : match snapshotCall job call with
      | .error error => (ofSnapshot fields events job).perform call = (.error error,ofSnapshot fields events job)
      | .ok after => ∃ more, (ofSnapshot fields events job).perform call = (.ok (),ofSnapshot fields more after) := by
  cases call with
  | startProcessing =>
    rw [perform_startProcessing,snapshotCall,BaseBackgroundJob.startProcessing]
    by_cases guard : job.status ≠ .pending
    · rw [if_pos guard]
      exact if_pos guard
    · rw [if_neg guard]
      exact ⟨_,if_neg guard⟩
  | updateProgress processedItems =>
    rw [perform_updateProgress,snapshotCall,BaseBackgroundJob.updateProgress]
    by_cases guard : job.status ≠ .running
    · rw [if_pos guard]
      exact if_pos guard
    · rw [if_neg guard]
      exact ⟨_,if_neg guard⟩
  | complete resultData =>
    rw [perform_complete,snapshotCall,BaseBackgroundJob.complete]
    by_cases guard : job.status ≠ .running
    · rw [if_pos guard]
      exact if_pos guard
    · rw [if_neg guard]
      cases resultData with
      | none => exact ⟨_,if_neg guard⟩
      | some data => exact ⟨_,if_neg guard⟩
  | fail errorMessage =>
    rw [perform_fail,snapshotCall,BaseBackgroundJob.fail]
    by_cases guard : job.status ≠ .running ∧ job.status ≠ .pending
    · rw [if_pos guard]
      exact if_pos (by simpa [ofSnapshot] using guard)
    · rw [if_neg guard]
      exact ⟨_,if_neg (by simpa [ofSnapshot,Decidable.or_iff_not_imp_left] using guard)⟩
  | retry =>
    rw [perform_retry,snapshotCall,BaseBackgroundJob.retry]
    by_cases guard : job.status ≠ .failed
    · rw [if_pos guard]
      exact if_pos guard
    · rw [if_neg guard]
      by_cases spent : job.maxRetries ≤ job.retryCount
      · rw [if_pos spent]
        exact (if_neg guard).trans (if_pos (Int.ofNat_le.mpr spent))
      · rw [if_neg spent]
        exact ⟨_,(if_neg guard).trans (if_neg fun le => spent (Int.ofNat_le.mp le))⟩
  | cancel =>
    rw [perform_cancel,snapshotCall,BaseBackgroundJob.cancel]
    by_cases guard : job.status = .completed ∨ job.status = .cancelled
    · rw [if_pos guard]
      exact if_pos (by simpa [ofSnapshot] using guard)
    · rw [if_neg guard]
      exact ⟨_,if_neg (by simpa [ofSnapshot] using guard)⟩

end Snapshots

end BackgroundJob

end CqrsDdd.BackgroundJobs
