import CqrsDdd.Sagas.Manager

/-! The numbers of the queued commands and the list of popped records are history: two
saga objects that differ in nothing else go the same way. -/
namespace CqrsDdd.Sagas.Saga

variable {Data : Type}

def unnumbered (queued : QueuedCommand Data) : Command Data × Origin := (queued.command,queued.origin)

structure Alike (first second : Saga Data) : Prop where
  state : second.state = first.state
  registry : second.messageRegistry = first.messageRegistry
  registered : second.registered = first.registered
  cache : second.tccRecordsCache = first.tccRecordsCache
  queue : second.commandsToDispatch.map unnumbered = first.commandsToDispatch.map unnumbered

/-- Both sagas are left alike, and with the same error. -/
def Along (first second : Result Data) : Prop := Alike first.1 second.1 ∧ second.2 = first.2

theorem Along.split {first second : Result Data} (along : Along first second) :
    ∃ left right error, first = (left,error) ∧ second = (right,error) ∧ Alike left right :=
  ⟨first.1,second.1,first.2,rfl,by rw [← along.2],along.1⟩

theorem Alike.withState {first second : Saga Data} (alike : Alike first second)
    (change : SagaState Data → SagaState Data) :
    Alike {first with state := change first.state} {second with state := change second.state} :=
  ⟨congrArg change alike.state,alike.registry,alike.registered,alike.cache,alike.queue⟩

theorem Alike.setStatus {first second : Saga Data} (alike : Alike first second) (status : SagaStatus) :
    Alike (first.setStatus status) (second.setStatus status) :=
  alike.withState fun state => {state with status := status}

theorem Alike.setCurrentStep {first second : Saga Data} (alike : Alike first second) (step : String) :
    Alike (first.setCurrentStep step) (second.setCurrentStep step) :=
  alike.withState fun state => {state with currentStep := step}

theorem Alike.setError {first second : Saga Data} (alike : Alike first second) (reason : String) :
    Alike (first.setError reason) (second.setError reason) :=
  alike.withState fun state => {state with error := some reason}

theorem Alike.dispatch {first second : Saga Data} (alike : Alike first second) (command : Command Data)
    (origin : Origin) : Alike (first.dispatch command origin) (second.dispatch command origin) :=
  ⟨alike.state,alike.registry,alike.registered,alike.cache,by
    simp only [Saga.dispatch,List.map_append,alike.queue]
    rfl⟩

theorem Alike.foldl {Item : Type*} (change : Saga Data → Item → Saga Data)
    (each : ∀ first second item, Alike first second → Alike (change first item) (change second item))
    (items : List Item) {first second : Saga Data} (alike : Alike first second) :
    Alike (items.foldl change first) (items.foldl change second) := by
  induction items generalizing first second with
  | nil => exact alike
  | cons item rest ih => exact ih (each first second item alike)

theorem Alike.popCompensation {first second : Saga Data} (alike : Alike first second)
    (registry : MessageRegistry Data) (record : CompensationRecord Data) :
    Alike (Saga.popCompensation registry record first) (Saga.popCompensation registry record second) := by
  unfold Saga.popCompensation
  split
  next command _ =>
    have dispatched := alike.dispatch command .compensation
    exact ⟨dispatched.state,dispatched.registry,dispatched.registered,dispatched.cache,dispatched.queue⟩
  next =>
    have noted := alike.withState fun state => {state with failedCompensations := state.failedCompensations ++
      [⟨record.commandType,notRegistered record.commandType⟩]}
    exact ⟨noted.state,noted.registry,noted.registered,noted.cache,noted.queue⟩

theorem Alike.executeCompensations {first second : Saga Data} (alike : Alike first second) :
    Along first.executeCompensations second.executeCompensations := by
  have emptied := alike.withState fun state => {state with status := .compensating, compensationStack := []}
  unfold Saga.executeCompensations
  rw [alike.registry]
  split
  next => exact ⟨alike,rfl⟩
  next registry _ =>
    have popped := Alike.foldl (fun current record => Saga.popCompensation registry record current)
      (fun _ _ record same => same.popCompensation registry record) second.state.compensationStack.reverse emptied
    have closed := popped.setStatus
      (if second.state.compensationStack.reverse.all (hydratable registry) then .compensated else .failed)
    dsimp only at closed ⊢
    rw [alike.registry,alike.state] at closed
    rw [alike.state]
    exact ⟨closed,rfl⟩

theorem Alike.fail {first second : Saga Data} (alike : Alike first second) (reason : String) (compensate : Bool) :
    Along (first.fail reason compensate) (second.fail reason compensate) := by
  have noted := alike.setError reason
  unfold Saga.fail
  dsimp only
  rw [noted.state]
  split
  next => exact noted.executeCompensations
  next => exact ⟨noted.setStatus .failed,rfl⟩

theorem Alike.resume {first second : Saga Data} (alike : Alike first second) :
    Alike first.resume second.resume := by
  unfold Saga.resume
  rw [alike.state]
  split
  next => exact alike
  next => exact ⟨rfl,alike.registry,alike.registered,alike.cache,alike.queue⟩

theorem Alike.beginTcc {first second : Saga Data} (alike : Alike first second) (now : Int) :
    Along (first.beginTcc now) (second.beginTcc now) := by
  have tried := Alike.foldl (fun current (step : TCCStep Data) =>
      current.dispatch step.tryCommand (.tccTry step.name))
    (fun _ _ step same => same.dispatch step.tryCommand (.tccTry step.name)) first.registered.steps alike
  unfold Saga.beginTcc
  rw [alike.registered,alike.state]
  split
  next => exact ⟨alike,rfl⟩
  next =>
    split
    next => exact ⟨alike,rfl⟩
    next => exact ⟨tried.withState fun state => {state with
      tccSteps := first.registered.steps.map (recordOf now), status := .running, currentStep := "trying"},rfl⟩

theorem Alike.loaded {first second : Saga Data} (alike : Alike first second) :
    second.loadTccRecords.1 = first.loadTccRecords.1 ∧ Alike first.loadTccRecords.2 second.loadTccRecords.2 := by
  unfold Saga.loadTccRecords
  rw [alike.cache,alike.state]
  split
  next => exact ⟨rfl,alike⟩
  next => exact ⟨rfl,rfl,alike.registry,alike.registered,rfl,alike.queue⟩

theorem Alike.save {first second : Saga Data} (alike : Alike first second) (records : List (TCCStepRecord Data)) :
    Alike (first.saveTccRecords records) (second.saveTccRecords records) := by
  have stored := alike.withState fun state => {state with tccSteps := records}
  exact ⟨stored.state,stored.registry,stored.registered,rfl,stored.queue⟩

theorem Alike.setTccPhase {first second : Saga Data} (alike : Alike first second) (stepName : String)
    (phase : TCCPhase) (error : Option String) :
    Alike (first.setTccPhase stepName phase error) (second.setTccPhase stepName phase error) := by
  obtain ⟨records,loaded⟩ := alike.loaded
  unfold Saga.setTccPhase
  dsimp only
  rw [records]
  exact loaded.save _

theorem Alike.allTccStepsInPhase {first second : Saga Data} (alike : Alike first second) (phase : TCCPhase) :
    second.allTccStepsInPhase phase = first.allTccStepsInPhase phase :=
  congrArg (fun records => records.all (·.phase = phase)) alike.loaded.1

theorem Alike.confirmRecords (registry : MessageRegistry Data) (records : List (TCCStepRecord Data))
    {first second : Saga Data} (alike : Alike first second) :
    (Saga.confirmRecords registry records second).1 = (Saga.confirmRecords registry records first).1 ∧
      Alike (Saga.confirmRecords registry records first).2 (Saga.confirmRecords registry records second).2 := by
  induction records generalizing first second with
  | nil => exact ⟨rfl,alike⟩
  | cons record rest ih =>
    unfold Saga.confirmRecords
    split
    next =>
      split
      next command _ =>
        obtain ⟨same,left⟩ := ih (alike.dispatch command (.tccConfirm record.name))
        exact ⟨congrArg (_::·) same,left⟩
      next =>
        obtain ⟨same,left⟩ := ih alike
        exact ⟨congrArg (_::·) same,left⟩
    next =>
      obtain ⟨same,left⟩ := ih alike
      exact ⟨congrArg (_::·) same,left⟩

theorem Alike.dispatchConfirms {first second : Saga Data} (alike : Alike first second) :
    Along first.dispatchConfirms second.dispatchConfirms := by
  obtain ⟨records,loaded⟩ := alike.loaded
  unfold Saga.dispatchConfirms
  rw [alike.registry]
  split
  next => exact ⟨alike,rfl⟩
  next registry _ =>
    obtain ⟨same,confirmed⟩ := Alike.confirmRecords registry first.loadTccRecords.1 loaded
    dsimp only
    rw [records,same]
    exact ⟨(confirmed.save _).setCurrentStep "confirming",rfl⟩

theorem Alike.cancelRecords (registry : MessageRegistry Data) (records : List (TCCStepRecord Data))
    {first second : Saga Data} (alike : Alike first second) :
    (Saga.cancelRecords registry records second).1 = (Saga.cancelRecords registry records first).1 ∧
      Alike (Saga.cancelRecords registry records first).2 (Saga.cancelRecords registry records second).2 := by
  induction records with
  | nil => exact ⟨rfl,alike⟩
  | cons record rest ih =>
    obtain ⟨same,left⟩ := ih
    unfold Saga.cancelRecords
    dsimp only
    split
    next =>
      split
      next command _ => exact ⟨congrArg (_::·) same,left.dispatch command (.tccCancel record.name)⟩
      next => exact ⟨congrArg (_::·) same,left⟩
    next => exact ⟨congrArg (_::·) same,left⟩

theorem Alike.dispatchCancels {first second : Saga Data} (alike : Alike first second) (reason : String) :
    Along (first.dispatchCancels reason) (second.dispatchCancels reason) := by
  obtain ⟨records,loaded⟩ := alike.loaded
  unfold Saga.dispatchCancels
  rw [alike.registry]
  split
  next => exact ⟨alike,rfl⟩
  next registry _ =>
    obtain ⟨same,cancelled⟩ := Alike.cancelRecords registry first.loadTccRecords.1 loaded
    dsimp only
    rw [records,same]
    exact ⟨(((cancelled.save _).setStatus .compensating).setCurrentStep "cancelling").setError reason,rfl⟩

theorem Alike.markStepFailed {first second : Saga Data} (alike : Alike first second) (stepName reason : String) :
    Along (first.markStepFailed stepName reason) (second.markStepFailed stepName reason) := by
  have cancelled := alike.dispatchCancels reason
  unfold Saga.markStepFailed
  obtain ⟨left,right,error,same,same',both⟩ := cancelled.split
  rw [same,same']
  cases error with
  | some error => exact ⟨both,rfl⟩
  | none => exact ⟨both.setTccPhase stepName .failed (some reason),rfl⟩

theorem Alike.failExpired (names : List String) {first second : Saga Data} (alike : Alike first second) :
    Along (Saga.failExpired names first) (Saga.failExpired names second) := by
  induction names generalizing first second with
  | nil => exact ⟨alike,rfl⟩
  | cons name rest ih =>
    have failed := alike.markStepFailed name (expiryReason name)
    unfold Saga.failExpired
    obtain ⟨left,right,error,same,same',both⟩ := failed.split
    rw [same,same']
    cases error with
    | some error => exact ⟨both,rfl⟩
    | none => exact ih both

theorem Alike.checkTccTimeouts {first second : Saga Data} (alike : Alike first second) (now : Int) :
    Along (first.checkTccTimeouts now) (second.checkTccTimeouts now) := by
  obtain ⟨records,loaded⟩ := alike.loaded
  unfold Saga.checkTccTimeouts
  dsimp only
  rw [records]
  exact Alike.failExpired _ loaded

theorem Alike.applyTcc {first second : Saga Data} (alike : Alike first second) (op : TccOp) :
    Along (first.applyTcc op) (second.applyTcc op) := by
  cases op with
  | tried stepName =>
    have marked := alike.setTccPhase stepName .tried none
    dsimp only [Saga.applyTcc,markStepTried]
    rw [marked.allTccStepsInPhase]
    split
    next => exact marked.dispatchConfirms
    next => exact ⟨marked,rfl⟩
  | confirmed stepName =>
    have marked := alike.setTccPhase stepName .confirmed none
    dsimp only [Saga.applyTcc,markStepConfirmed]
    rw [marked.allTccStepsInPhase]
    split
    next => exact ⟨marked.setStatus .completed,rfl⟩
    next => exact ⟨marked,rfl⟩
  | failed stepName reason => exact alike.markStepFailed stepName reason
  | cancelled stepName =>
    have marked := alike.setTccPhase stepName .cancelled none
    dsimp only [Saga.applyTcc,markStepCancelled]
    rw [marked.loaded.1]
    split
    next => exact ⟨marked.setStatus .compensated,rfl⟩
    next => exact ⟨marked,rfl⟩
  | timeouts now => exact alike.checkTccTimeouts now
  | reload => exact ⟨⟨alike.state,alike.registry,alike.registered,rfl,alike.queue⟩,rfl⟩

theorem Alike.act (now : Int) {first second : Saga Data} (alike : Alike first second) (action : SagaAction Data) :
    Along (first.act now action) (second.act now action) := by
  cases action with
  | dispatch command => exact ⟨alike.dispatch command .handler,rfl⟩
  | addCompensation command description =>
    exact ⟨alike.withState fun state => {state with compensationStack := state.compensationStack ++
      [⟨command.typeName,command.moduleName,command.data,description⟩]},rfl⟩
  | setStep step => exact ⟨alike.setCurrentStep step,rfl⟩
  | setMaxRetries maxRetries => exact ⟨alike.withState fun state => {state with maxRetries := maxRetries},rfl⟩
  | complete => exact ⟨alike.setStatus .completed,rfl⟩
  | fail reason compensate => exact alike.fail reason compensate
  | executeCompensations => exact alike.executeCompensations
  | suspend reason timeout =>
    exact ⟨alike.withState fun state => {state with
      status := .suspended, suspensionReason := some reason, timeoutAt := timeout.map (now + ·)},rfl⟩
  | resume => exact ⟨alike.resume,rfl⟩
  | beginTcc => exact alike.beginTcc now
  | tcc op => exact alike.applyTcc op
  | raise message => exact ⟨alike,rfl⟩

theorem Alike.perform (now : Int) (script : List (SagaAction Data)) {first second : Saga Data}
    (alike : Alike first second) : Along (first.perform now script) (second.perform now script) := by
  induction script generalizing first second with
  | nil => exact ⟨alike,rfl⟩
  | cons action rest ih =>
    have acted := alike.act now action
    unfold Saga.perform
    obtain ⟨left,right,error,same,same',both⟩ := acted.split
    rw [same,same']
    cases error with
    | some error => exact ⟨both,rfl⟩
    | none => exact ih both

theorem Alike.handleEvent (sagaClass : SagaClass Data) (now : Int) (event : DomainEvent Data)
    {first second : Saga Data} (alike : Alike first second) :
    Along (first.handleEvent sagaClass now event) (second.handleEvent sagaClass now event) := by
  unfold Saga.handleEvent
  split
  next handler _ =>
    rw [alike.state]
    exact alike.perform now _
  next => exact ⟨alike,rfl⟩

end CqrsDdd.Sagas.Saga
