import CqrsDdd.Sagas.Manager

/-! What no operation of the saga object touches: the identity of the state, the events
it has processed, its retry count and its pending commands. -/
namespace CqrsDdd.Sagas.Saga

variable {Data : Type}

def fixed (saga : Saga Data) :=
  (saga.state.id,saga.state.sagaType,saga.state.correlationId,saga.state.processedEventIds,saga.state.retryCount,
    saga.state.pendingCommands)

/-- Only `setMaxRetries` changes the retry limit. -/
def kept (saga : Saga Data) := (saga.fixed,saga.state.maxRetries)

theorem foldl_kept {Item : Type*} {change : Saga Data → Item → Saga Data}
    (each : ∀ saga item, (change saga item).kept = saga.kept) (items : List Item) (saga : Saga Data) :
    (items.foldl change saga).kept = saga.kept := by
  induction items generalizing saga with
  | nil => rfl
  | cons item rest ih => exact (ih (change saga item)).trans (each saga item)

theorem executeCompensations_kept (saga : Saga Data) : saga.executeCompensations.1.kept = saga.kept := by
  unfold executeCompensations
  split
  next => rfl
  next registry _ =>
    have each (current : Saga Data) (record : CompensationRecord Data) :
        (popCompensation registry record current).kept = current.kept := by
      unfold popCompensation
      split
      next => rfl
      next => rfl
    exact foldl_kept each saga.state.compensationStack.reverse
      {saga with state := {saga.state with status := .compensating, compensationStack := []}}

theorem fail_kept (saga : Saga Data) (reason : String) (compensate : Bool) :
    (saga.fail reason compensate).1.kept = saga.kept := by
  unfold fail
  dsimp only
  split
  next => exact executeCompensations_kept (saga.setError reason)
  next => rfl

theorem beginTcc_kept (saga : Saga Data) (now : Int) : (saga.beginTcc now).1.kept = saga.kept := by
  unfold beginTcc
  split
  next => rfl
  next =>
    split
    next => rfl
    next =>
      have each (current : Saga Data) (step : TCCStep Data) :
          (current.dispatch step.tryCommand (.tccTry step.name)).kept = current.kept := rfl
      exact foldl_kept each saga.registered.steps saga

theorem load_kept (saga : Saga Data) : saga.loadTccRecords.2.kept = saga.kept := by
  unfold loadTccRecords
  split
  next => rfl
  next => rfl

theorem setTccPhase_kept (saga : Saga Data) (stepName : String) (phase : TCCPhase) (error : Option String) :
    (saga.setTccPhase stepName phase error).kept = saga.kept :=
  load_kept saga

theorem confirmRecords_kept (registry : MessageRegistry Data) (records : List (TCCStepRecord Data))
    (saga : Saga Data) : (confirmRecords registry records saga).2.kept = saga.kept := by
  induction records generalizing saga with
  | nil => rfl
  | cons record rest ih =>
    unfold confirmRecords
    split
    next =>
      split
      next command _ => exact ih (saga.dispatch command (.tccConfirm record.name))
      next => exact ih saga
    next => exact ih saga

theorem dispatchConfirms_kept (saga : Saga Data) : saga.dispatchConfirms.1.kept = saga.kept := by
  unfold dispatchConfirms
  split
  next => rfl
  next registry _ => exact (confirmRecords_kept registry _ _).trans (load_kept saga)

theorem cancelRecords_kept (registry : MessageRegistry Data) (records : List (TCCStepRecord Data))
    (saga : Saga Data) : (cancelRecords registry records saga).2.kept = saga.kept := by
  induction records with
  | nil => rfl
  | cons record rest ih =>
    unfold cancelRecords
    dsimp only
    split
    next =>
      split
      next => exact ih
      next => exact ih
    next => exact ih

theorem dispatchCancels_kept (saga : Saga Data) (reason : String) :
    (saga.dispatchCancels reason).1.kept = saga.kept := by
  unfold dispatchCancels
  split
  next => rfl
  next registry _ => exact (cancelRecords_kept registry _ _).trans (load_kept saga)

theorem markStepFailed_kept (saga : Saga Data) (stepName reason : String) :
    (saga.markStepFailed stepName reason).1.kept = saga.kept := by
  have cancelled := dispatchCancels_kept saga reason
  unfold markStepFailed
  split
  next left error same =>
    rw [same] at cancelled
    exact cancelled
  next left same =>
    rw [same] at cancelled
    exact (setTccPhase_kept left stepName .failed (some reason)).trans cancelled

theorem failExpired_kept (names : List String) (saga : Saga Data) : (failExpired names saga).1.kept = saga.kept := by
  induction names generalizing saga with
  | nil => rfl
  | cons name rest ih =>
    have failed := markStepFailed_kept saga name (expiryReason name)
    unfold failExpired
    split
    next left error same =>
      rw [same] at failed
      exact failed
    next left same =>
      rw [same] at failed
      exact (ih left).trans failed

theorem checkTccTimeouts_kept (saga : Saga Data) (now : Int) : (saga.checkTccTimeouts now).1.kept = saga.kept :=
  (failExpired_kept _ _).trans (load_kept saga)

theorem applyTcc_kept (saga : Saga Data) (op : TccOp) : (saga.applyTcc op).1.kept = saga.kept := by
  cases op with
  | tried stepName =>
    have marked := setTccPhase_kept saga stepName .tried none
    dsimp only [applyTcc,markStepTried]
    split
    next => exact (dispatchConfirms_kept _).trans marked
    next => exact marked
  | confirmed stepName =>
    have marked := setTccPhase_kept saga stepName .confirmed none
    dsimp only [applyTcc,markStepConfirmed]
    split
    next => exact marked
    next => exact marked
  | failed stepName reason => exact markStepFailed_kept saga stepName reason
  | cancelled stepName =>
    have marked := setTccPhase_kept saga stepName .cancelled none
    dsimp only [applyTcc,markStepCancelled]
    split
    next => exact marked
    next => exact marked
  | timeouts now => exact checkTccTimeouts_kept saga now
  | reload => rfl

theorem act_fixed (now : Int) (saga : Saga Data) (action : SagaAction Data) :
    (saga.act now action).1.fixed = saga.fixed := by
  cases action with
  | fail reason compensate => exact congrArg Prod.fst (fail_kept saga reason compensate)
  | executeCompensations => exact congrArg Prod.fst (executeCompensations_kept saga)
  | beginTcc => exact congrArg Prod.fst (beginTcc_kept saga now)
  | tcc op => exact congrArg Prod.fst (applyTcc_kept saga op)
  | resume =>
    dsimp only [act,resume]
    split
    next => rfl
    next => rfl
  | dispatch | addCompensation | setStep | setMaxRetries | complete | suspend | raise => rfl

theorem perform_fixed (now : Int) (script : List (SagaAction Data)) (saga : Saga Data) :
    (saga.perform now script).1.fixed = saga.fixed := by
  induction script generalizing saga with
  | nil => rfl
  | cons action rest ih =>
    have acted := act_fixed now saga action
    unfold perform
    split
    next left error same =>
      rw [same] at acted
      exact acted
    next left same =>
      rw [same] at acted
      exact (ih left).trans acted

theorem start_fixed (saga : Saga Data) : saga.start.fixed = saga.fixed := by
  unfold start
  split
  next => rfl
  next => rfl

theorem handleEvent_fixed (sagaClass : SagaClass Data) (now : Int) (event : DomainEvent Data) (saga : Saga Data) :
    (saga.handleEvent sagaClass now event).1.fixed = saga.fixed := by
  unfold handleEvent
  split
  next handler _ => exact perform_fixed now (handler now event saga.state) saga
  next => rfl

end CqrsDdd.Sagas.Saga
