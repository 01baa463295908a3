import CqrsDdd.Dict
import CqrsDdd.Transition
import Mathlib.Logic.Function.Basic

/-! One background job, the handler that processes it and the admin calls on it. Each of
them works on a snapshot that it has read from the repository, and stores it whole; the
others come in between. -/
namespace CqrsDdd.BackgroundJobs

inductive BackgroundJobStatus
  | pending
  | running
  | completed
  | failed
  | cancelled
  deriving DecidableEq, Repr

def BackgroundJobStatus.value : BackgroundJobStatus → String
  | .pending => "PENDING"
  | .running => "RUNNING"
  | .completed => "COMPLETED"
  | .failed => "FAILED"
  | .cancelled => "CANCELLED"

structure BaseBackgroundJob (Data : Type) where
  status : BackgroundJobStatus := .pending
  processedItems : Int := 0
  resultData : Dict String Data := Dict.empty
  errorMessage : Option String := none
  retryCount : Nat := 0
  maxRetries : Nat := 3

/-- The text of a `JobStateError`. -/
abbrev JobStateError := String

namespace BaseBackgroundJob
variable {Data : Type}

def startProcessing (job : BaseBackgroundJob Data) : Except JobStateError (BaseBackgroundJob Data) :=
  if job.status ≠ .pending then .error ("Cannot start job in " ++ job.status.value ++ " state")
  else .ok {job with status := .running}

def updateProgress (job : BaseBackgroundJob Data) (processedItems : Int) :
    Except JobStateError (BaseBackgroundJob Data) :=
  if job.status ≠ .running then .error ("Cannot update progress in " ++ job.status.value ++ " state")
  else .ok {job with processedItems := processedItems}

def complete (job : BaseBackgroundJob Data) (resultData : Dict String Data) :
    Except JobStateError (BaseBackgroundJob Data) :=
  if job.status ≠ .running then .error ("Cannot complete job in " ++ job.status.value ++ " state")
  else .ok {job with status := .completed, resultData := job.resultData.update resultData}

def fail (job : BaseBackgroundJob Data) (errorMessage : String) : Except JobStateError (BaseBackgroundJob Data) :=
  if job.status ≠ .running ∧ job.status ≠ .pending then .error ("Cannot fail job in " ++ job.status.value ++ " state")
  else .ok {job with status := .failed, errorMessage := some errorMessage}

def retry (job : BaseBackgroundJob Data) : Except JobStateError (BaseBackgroundJob Data) :=
  if job.status ≠ .failed then .error ("Cannot retry job in " ++ job.status.value ++ " state")
  else if job.maxRetries ≤ job.retryCount then .error ("Max retries (" ++ toString job.maxRetries ++ ") exceeded")
  else .ok {job with retryCount := job.retryCount+1, status := .running, errorMessage := none}

def cancel (job : BaseBackgroundJob Data) : Except JobStateError (BaseBackgroundJob Data) :=
  if job.status = .completed ∨ job.status = .cancelled then
    .error ("Cannot cancel job in " ++ job.status.value ++ " state")
  else .ok {job with status := .cancelled, errorMessage := some "Cancelled by user"}

theorem cancel_status {job after : BaseBackgroundJob Data} (ok : job.cancel = .ok after) : after.status = .cancelled := by
  unfold cancel at ok
  split at ok
  next => cases ok
  next =>
    cases ok
    rfl

theorem retry_status {job after : BaseBackgroundJob Data} (ok : job.retry = .ok after) : after.status = .running := by
  unfold retry at ok
  split at ok
  next => cases ok
  next =>
    split at ok
    next => cases ok
    next =>
      cases ok
      rfl

theorem fail_status {job after : BaseBackgroundJob Data} {errorMessage : String}
    (ok : job.fail errorMessage = .ok after) : after.status = .failed := by
  unfold fail at ok
  split at ok
  next => cases ok
  next =>
    cases ok
    rfl

theorem complete_status {job after : BaseBackgroundJob Data} {resultData : Dict String Data}
    (ok : job.complete resultData = .ok after) : after.status = .completed := by
  unfold complete at ok
  split at ok
  next => cases ok
  next =>
    cases ok
    rfl

theorem updateProgress_status {job after : BaseBackgroundJob Data} {processedItems : Int}
    (ok : job.updateProgress processedItems = .ok after) : after.status = .running := by
  unfold updateProgress at ok
  split at ok
  next => cases ok
  next running =>
    cases ok
    exact not_not.mp running

/-- The transition of `handle` before it executes. -/
def begin (job : BaseBackgroundJob Data) : Except JobStateError (BaseBackgroundJob Data) :=
  if job.status = .failed then job.retry else job.startProcessing

theorem begin_status {job after : BaseBackgroundJob Data} (ok : job.begin = .ok after) : after.status = .running := by
  unfold begin at ok
  split at ok
  next => exact retry_status ok
  next =>
    unfold startProcessing at ok
    split at ok
    next => cases ok
    next =>
      cases ok
      rfl

end BaseBackgroundJob

/-- Where `handle` is, and the snapshot it works on. -/
inductive HandlerStage (Data : Type)
  | idle
  | loaded (job : BaseBackgroundJob Data)
  | executing (job : BaseBackgroundJob Data)
  | executed (job : BaseBackgroundJob Data) (result : Dict String Data)
  | completing (job : BaseBackgroundJob Data)
  | detected
  | recancelling (job : BaseBackgroundJob Data)
  | failing (job : BaseBackgroundJob Data) (error : String)
  | done

/-- `progress` and `checkpoint` are what `execute` does with the job, `detect` and `raise` how it can end early;
`raise` is also an error of the repository, and `stop` whatever ends `handle` without another word. -/
inductive HandlerMove (Data : Type)
  | load
  | start
  | progress (processedItems : Int)
  | checkpoint
  | detect
  | raise (error : String)
  | succeed (result : Dict String Data)
  | verify
  | complete
  | reload
  | recancel
  | fail
  | stop

namespace BackgroundJobEventHandler
variable {Data : Type}

/-- A move of `handle`, from what the repository stores to what it adds. -/
def advance (stored : Option (BaseBackgroundJob Data)) (stage : HandlerStage Data) (move : HandlerMove Data) :
    HandlerStage Data × Option (BaseBackgroundJob Data) :=
  match stage,move with
  | .idle,.load =>
    match stored with
    | none => (.done,none)
    | some job => (.loaded job,none)
  | .loaded job,.start =>
    match job.begin with
    | .error _ => (.done,none)
    | .ok job => (.executing job,some job)
  | .executing job,.progress processedItems =>
    match job.updateProgress processedItems with
    | .error error => (.failing job error,none)
    | .ok job => (.executing job,some job)
  | .executing job,.checkpoint =>
    if stored.map (·.status) = some .cancelled then (.detected,none) else (.executing job,none)
  | .executing _,.detect => (.detected,none)
  | .executing job,.succeed result => (.executed job result,none)
  | .executed job result,.verify =>
    if stored.map (·.status) = some .cancelled then (.done,none)
    else match job.complete result with
      | .error error => (.failing job error,none)
      | .ok job => (.completing job,none)
  | .completing job,.complete => (.done,some job)
  | .executing job,.raise error | .executed job _,.raise error | .completing job,.raise error => (.failing job error,none)
  | .detected,.reload =>
    match stored with
    | none => (.done,none)
    | some latest =>
      if latest.status = .cancelled then (.done,none)
      else match latest.cancel with
        | .error _ => (.done,none)
        | .ok latest => (.recancelling latest,none)
  | .recancelling job,.recancel => (.done,some job)
  | .failing job error,.fail =>
    if job.status = .completed ∨ job.status = .failed ∨ job.status = .cancelled then (.done,none)
    else match job.fail error with
      | .error _ => (.done,none)
      | .ok job => (.done,some job)
  | .idle,.stop => (.idle,none)
  | _,.stop => (.done,none)
  | stage,_ => (stage,none)

end BackgroundJobEventHandler

/-- A call of the admin service for the job; `grace` is the grace period as its message writes it. -/
inductive AdminRequest
  | bulkCancel
  | bulkRetry
  | cancelRunning (killStrategy : Bool) (grace : String)

/-- Where the call is, and the snapshot it is to store. -/
inductive AdminStage (Data : Type)
  | idle
  | cancelling (job : BaseBackgroundJob Data)
  | retrying (job : BaseBackgroundJob Data)
  | polling
  | killed
  | failing (job : BaseBackgroundJob Data)
  | done

inductive AdminMove
  | load
  | add
  | poll
  | kill
  | reload
  | stop

namespace BackgroundJobAdminService
variable {Data : Type}

def cancelled (job : BaseBackgroundJob Data) : AdminStage Data :=
  match job.cancel with
  | .error _ => .done
  | .ok job => .cancelling job

def load (request : AdminRequest) (job : BaseBackgroundJob Data) : AdminStage Data :=
  match request with
  | .bulkCancel => if job.status = .completed ∨ job.status = .cancelled then .done else cancelled job
  | .bulkRetry =>
    if job.status ≠ .failed then .done
    else if job.maxRetries ≤ job.retryCount then .done
    else match job.retry with
      | .error _ => .done
      | .ok job => .retrying job
  | .cancelRunning _ _ => if job.status ≠ .running then .done else cancelled job

/-- After the grace period and the forced kill. -/
def terminate (request : AdminRequest) (latest : BaseBackgroundJob Data) : AdminStage Data :=
  match request with
  | .cancelRunning _ grace =>
    if latest.status = .running then
      match latest.fail ("Terminated: did not stop within " ++ grace ++ "s grace period") with
      | .error _ => .done
      | .ok latest => .failing latest
    else .done
  | .bulkCancel | .bulkRetry => .done

def kills : AdminRequest → Bool
  | .cancelRunning killStrategy _ => killStrategy
  | .bulkCancel | .bulkRetry => false

def advance (request : AdminRequest) (stored : Option (BaseBackgroundJob Data)) (stage : AdminStage Data)
    (move : AdminMove) : AdminStage Data × Option (BaseBackgroundJob Data) :=
  match stage,move with
  | .idle,.load =>
    match stored with
    | none => (.done,none)
    | some job => (load request job,none)
  | .cancelling job,.add => (if kills request then .polling else .done,some job)
  | .retrying job,.add => (.done,some job)
  | .polling,.poll => if stored.map (·.status) = some .running then (.polling,none) else (.done,none)
  | .polling,.kill => (.killed,none)
  | .killed,.reload =>
    match stored with
    | none => (.done,none)
    | some latest => (terminate request latest,none)
  | .failing job,.add => (.done,some job)
  | .idle,.stop => (.idle,none)
  | _,.stop => (.done,none)
  | stage,_ => (stage,none)

end BackgroundJobAdminService

/-- `added` are the snapshots passed to `add`, of which the repository stores the last. -/
structure JobWorld (Call Data : Type) where
  added : List (BaseBackgroundJob Data)
  handler : HandlerStage Data
  admin : Call → AdminStage Data

inductive JobEvent (Call Data : Type)
  | handler (move : HandlerMove Data)
  | admin (call : Call) (move : AdminMove)

namespace JobWorld
variable {Call Data : Type} [DecidableEq Call]

def initial (stored : Option (BaseBackgroundJob Data)) : JobWorld Call Data := ⟨stored.toList,.idle,fun _ => .idle⟩

def stored (world : JobWorld Call Data) : Option (BaseBackgroundJob Data) := world.added.getLast?

def written (requests : Call → AdminRequest) (world : JobWorld Call Data) : JobEvent Call Data →
    Option (BaseBackgroundJob Data)
  | .handler move => (BackgroundJobEventHandler.advance world.stored world.handler move).2
  | .admin call move => (BackgroundJobAdminService.advance (requests call) world.stored (world.admin call) move).2

def step (requests : Call → AdminRequest) (world : JobWorld Call Data) (event : JobEvent Call Data) :
    JobWorld Call Data :=
  let added := world.added ++ (world.written requests event).toList
  match event with
  | .handler move => {world with added := added, handler := (BackgroundJobEventHandler.advance world.stored world.handler move).1}
  | .admin call move =>
    let after := BackgroundJobAdminService.advance (requests call) world.stored (world.admin call) move
    {world with added := added, admin := Function.update world.admin call after.1}

end JobWorld

end CqrsDdd.BackgroundJobs
