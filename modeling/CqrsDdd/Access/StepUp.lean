import CqrsDdd.Sagas.Manager
import CqrsDdd.Specifications.Values

/-! The step-up authentication saga, the commands it dispatches and their handlers.
The events of a response carry its correlation and causation ids. -/
namespace CqrsDdd.Access.StepUp

open Sagas Specifications

variable {Object : Type}

structure GrantTemporaryElevation where
  userId : String
  action : String
  ttlSeconds : Int := 300
  correlationId : Option String
  deriving DecidableEq, Repr

structure RevokeElevation where
  userId : String
  action : Option String := none
  reason : String := "completed"
  correlationId : Option String
  deriving DecidableEq, Repr

structure ResumeSensitiveOperation (Object : Type) where
  operationId : String
  originalCommandData : Option (Fields Object) := none
  correlationId : Option String

inductive StepUpCommand (Object : Type)
  | grantTemporaryElevation (cmd : GrantTemporaryElevation)
  | revokeElevation (cmd : RevokeElevation)
  | resumeSensitiveOperation (cmd : ResumeSensitiveOperation Object)

def StepUpCommand.typeName : StepUpCommand Object → String
  | .grantTemporaryElevation _ => "GrantTemporaryElevation"
  | .revokeElevation _ => "RevokeElevation"
  | .resumeSensitiveOperation _ => "ResumeSensitiveOperation"

/-- The dump of a command is the command itself. -/
def StepUpCommand.toCommand (command : StepUpCommand Object) : Command (StepUpCommand Object) :=
  ⟨command.typeName,"cqrs_ddd_access_control.step_up.commands",command⟩

inductive SagaEvent (Object : Type)
  | sensitiveOperationRequested (userId operationId action : String) (originalCommandData : Option (Fields Object))
  | mfaChallengeVerified (userId method : String)
  | sensitiveOperationCompleted (userId operationId : String)

def SagaEvent.typeName : SagaEvent Object → String
  | .sensitiveOperationRequested .. => "SensitiveOperationRequested"
  | .mfaChallengeVerified .. => "MFAChallengeVerified"
  | .sensitiveOperationCompleted .. => "SensitiveOperationCompleted"

structure AccessRule (Object : Type) where
  principalName : Option String := none
  roleName : Option String := none
  action : String := ""
  resourceId : Option String := none
  conditions : Option (Fields Object) := none
  specificationDsl : Option (Fields Object) := none

inductive StepUpEvent (Object : Type)
  | heard (event : SagaEvent Object)
  | aclGrantRequested (resourceType : String) (resourceId : Option String) (accessRules : List (AccessRule Object))
  | temporaryElevationGranted (userId action : String) (ttlSeconds : Int)
  | temporaryElevationRevoked (userId reason : String)

structure CommandResponse (Object Result : Type) where
  result : Result
  events : List (StepUpEvent Object)
  correlationId : Option String
  causationId : Nat

structure GrantTemporaryElevationResult where
  success : Bool
  userId : String
  action : String
  ttlSeconds : Int
  expiresAt : Option Int := none
  message : String := ""
  deriving DecidableEq, Repr

structure RevokeElevationResult where
  success : Bool
  userId : String
  reason : String := "completed"
  message : String := ""
  deriving DecidableEq, Repr

structure ResumeSensitiveOperationResult where
  success : Bool
  operationId : String
  resumed : Bool := false
  message : String := ""
  deriving DecidableEq, Repr

namespace GrantTemporaryElevationHandler

def handle (now : Int) (commandId : Nat) (cmd : GrantTemporaryElevation) :
    CommandResponse Object GrantTemporaryElevationResult where
  result := {
    success := true
    userId := cmd.userId
    action := cmd.action
    ttlSeconds := cmd.ttlSeconds
    expiresAt := some (now + cmd.ttlSeconds)
    message := "Temporary elevation granted for action '" ++ cmd.action ++ "'" }
  events := [
    .aclGrantRequested "elevation" none [{ principalName := some cmd.userId, action := cmd.action }],
    .temporaryElevationGranted cmd.userId cmd.action cmd.ttlSeconds]
  correlationId := cmd.correlationId
  causationId := commandId

end GrantTemporaryElevationHandler

/-- `undoService` says of a correlation id whether `undo` returns; one that raises is logged. -/
structure RevokeElevationHandler where
  undoService : Option (String → Bool) := none

namespace RevokeElevationHandler

def undoPerformed (handler : RevokeElevationHandler) (cmd : RevokeElevation) : Bool :=
  match handler.undoService,cmd.correlationId with
  | some undo,some correlationId => correlationId ≠ "" && undo correlationId
  | _,_ => false

def handle (handler : RevokeElevationHandler) (commandId : Nat) (cmd : RevokeElevation) :
    CommandResponse Object RevokeElevationResult where
  result := {
    success := true
    userId := cmd.userId
    reason := cmd.reason
    message := if handler.undoPerformed cmd then "Temporary elevation revoked (ACLs undone)"
      else "Temporary elevation revoked" }
  events := [.temporaryElevationRevoked cmd.userId cmd.reason]
  correlationId := cmd.correlationId
  causationId := commandId

end RevokeElevationHandler

/-- A replayed command by its attributes, and its `model_copy` with another correlation id. -/
structure OriginalCommand (Object : Type) where
  attributes : Fields Object
  modelCopy : String → Except String (Fields Object)

/-- `ImportError` and `AttributeError` are caught where the command is rebuilt. -/
inductive ConstructError
  | missing
  | raised (message : String)
  deriving DecidableEq, Repr

/-- `construct` imports a module and calls the named class of it with the data; `strField` is what
the model class of an event does with the value of a `str` field. -/
structure Modules (Object : Type) where
  runtime : Runtime Object
  construct : Value Object → Value Object → Value Object → Except ConstructError (OriginalCommand Object)
  strField : Value Object → Except String String

structure ResumeSensitiveOperationHandler where
  mediator : Bool := false
  operationStore : Bool := false

namespace ResumeSensitiveOperationHandler

def deserializeCommand (modules : Modules Object) (commandData : Fields Object) :
    Except String (Option (OriginalCommand Object)) :=
  let moduleName := (commandData.lookup "module_name").getD .null
  let typeName := (commandData.lookup "type_name").getD .null
  let data := (commandData.lookup "data").getD (.dict [])
  if !moduleName.isTruthy modules.runtime || !typeName.isTruthy modules.runtime then .ok none
  else
    match modules.construct moduleName typeName data with
    | .ok original => .ok (some original)
    | .error .missing => .ok none
    | .error (.raised message) => .error message

/-- The attributes of the command that is sent: with the correlation id, where there is one. -/
def correlated (original : OriginalCommand Object) (correlationId : Option String) : Except String (Fields Object) :=
  match original.attributes.lookup "correlation_id",correlationId with
  | some _,some correlationId =>
    if correlationId = "" then .ok original.attributes else original.modelCopy correlationId
  | _,_ => .ok original.attributes

def completedUser (modules : Modules Object) (attributes : Fields Object) : Except String String :=
  let userId := (attributes.lookup "user_id").getD (.text "")
  modules.strField (if userId.isTruthy modules.runtime then userId else .text "")

/-- `answer` is what `mediator.send` raises, if anything. -/
def replay (modules : Modules Object) (answer : Option String) (cmd : ResumeSensitiveOperation Object)
    (commandData : Fields Object) : Except String (Option (SagaEvent Object)) :=
  match deserializeCommand modules commandData with
  | .error message => .error message
  | .ok none => .ok none
  | .ok (some original) =>
    match correlated original cmd.correlationId,answer with
    | .error message,_ => .error message
    | .ok _,some message => .error message
    | .ok attributes,none => (completedUser modules attributes).map fun userId =>
      some (.sensitiveOperationCompleted userId cmd.operationId)

/-- No-op signal: without data, mediator or class there is nothing to replay. -/
def signal (handler : ResumeSensitiveOperationHandler) (commandId : Nat) (cmd : ResumeSensitiveOperation Object) :
    CommandResponse Object ResumeSensitiveOperationResult where
  result := {
    success := true
    operationId := cmd.operationId
    resumed := handler.operationStore
    message := if handler.operationStore then "Operation resume signal sent"
      else "No command data or mediator configured" }
  events := []
  correlationId := cmd.correlationId
  causationId := commandId

def replayable (handler : ResumeSensitiveOperationHandler) (cmd : ResumeSensitiveOperation Object) :
    Option (Fields Object) :=
  if handler.mediator then cmd.originalCommandData.filter fun commandData => !commandData.isEmpty else none

def handle (modules : Modules Object) (handler : ResumeSensitiveOperationHandler) (answer : Option String)
    (commandId : Nat) (cmd : ResumeSensitiveOperation Object) :
    CommandResponse Object ResumeSensitiveOperationResult :=
  match handler.replayable cmd with
  | none => handler.signal commandId cmd
  | some commandData =>
    match replay modules answer cmd commandData with
    | .ok none => handler.signal commandId cmd
    | .ok (some completed) =>
      ⟨{ success := true, operationId := cmd.operationId, resumed := true,
         message := "Original command dispatched successfully" },[.heard completed],cmd.correlationId,commandId⟩
    | .error message =>
      ⟨{ success := false, operationId := cmd.operationId, resumed := false,
         message := "Failed to dispatch original command: " ++ message },[],cmd.correlationId,commandId⟩

end ResumeSensitiveOperationHandler

structure StepUpAuthenticationSaga (Object : Type) where
  saga : Saga (StepUpCommand Object)
  operationId : Option String := none
  userId : Option String := none
  requiredAction : Option String := none
  originalCommandData : Option (Fields Object) := none
  mfaTtlSeconds : Int := 300

namespace StepUpAuthenticationSaga

def dispatch (saga : StepUpAuthenticationSaga Object) (command : StepUpCommand Object) :
    StepUpAuthenticationSaga Object :=
  {saga with saga := saga.saga.dispatch command.toCommand .handler}

def correlationId (saga : StepUpAuthenticationSaga Object) : Option String := some saga.saga.state.correlationId

def compensation (saga : StepUpAuthenticationSaga Object) (userId : String) : StepUpCommand Object :=
  .revokeElevation { userId, correlationId := saga.correlationId, reason := "saga_compensation" }

def onSensitiveOpRequested (now : Int) (userId operationId action : String)
    (originalCommandData : Option (Fields Object)) (saga : StepUpAuthenticationSaga Object) :
    StepUpAuthenticationSaga Object :=
  {saga with
    operationId := some operationId
    userId := some userId
    requiredAction := some action
    originalCommandData := originalCommandData
    saga := (saga.saga.setCurrentStep "waiting_for_mfa").suspend now "waiting_for_mfa" (some 300)}

def grantElevation (userId action operationId : String) (saga : StepUpAuthenticationSaga Object) :
    StepUpAuthenticationSaga Object :=
  let granted := saga.dispatch (.grantTemporaryElevation {
    userId, action, ttlSeconds := saga.mfaTtlSeconds, correlationId := saga.correlationId })
  let undo := (saga.compensation userId).toCommand
  let compensated := {granted with saga := granted.saga.addCompensation undo "Revoke temporary elevation on saga failure"}
  let dispatched := compensated.dispatch (.resumeSensitiveOperation {
    operationId, originalCommandData := saga.originalCommandData, correlationId := saga.correlationId })
  {dispatched with saga := dispatched.saga.setCurrentStep "resuming_operation"}

/-- The action and the operation that a verification grants and resumes; an empty one is falsy. -/
def requested (saga : StepUpAuthenticationSaga Object) : Option (String × String) :=
  match saga.requiredAction,saga.operationId with
  | some action,some operationId => if action = "" ∨ operationId = "" then none else some (action,operationId)
  | _,_ => none

def onMfaVerified (userId : String) (saga : StepUpAuthenticationSaga Object) : StepUpAuthenticationSaga Object :=
  if some userId ≠ saga.userId then saga
  else
    let resumed := {saga with saga := saga.saga.resume.setCurrentStep "granting_elevation"}
    match saga.requested with
    | some (action,operationId) => resumed.grantElevation userId action operationId
    | none => resumed

def revokeUser (reason : String) (saga : StepUpAuthenticationSaga Object) : StepUpAuthenticationSaga Object :=
  match saga.userId with
  | some userId =>
    if userId = "" then saga
    else saga.dispatch (.revokeElevation { userId, correlationId := saga.correlationId, reason })
  | none => saga

def onOperationCompleted (saga : StepUpAuthenticationSaga Object) : StepUpAuthenticationSaga Object :=
  let revoked := saga.revokeUser "completed"
  {revoked with saga := revoked.saga.complete}

def timeoutReason (saga : StepUpAuthenticationSaga Object) : String :=
  "MFA timeout for operation " ++ saga.operationId.getD "None"

def onTimeout (saga : StepUpAuthenticationSaga Object) : StepUpAuthenticationSaga Object × Option SagaError :=
  let revoked := saga.revokeUser "timeout"
  let failed := revoked.saga.fail saga.timeoutReason true
  ({revoked with saga := failed.1},failed.2)

def handleEvent (now : Int) (event : SagaEvent Object) (saga : StepUpAuthenticationSaga Object) :
    StepUpAuthenticationSaga Object :=
  match event with
  | .sensitiveOperationRequested userId operationId action originalCommandData =>
    saga.onSensitiveOpRequested now userId operationId action originalCommandData
  | .mfaChallengeVerified userId _ => saga.onMfaVerified userId
  | .sensitiveOperationCompleted _ _ => saga.onOperationCompleted

def ignores (saga : StepUpAuthenticationSaga Object) (eventId : String) : Bool :=
  saga.saga.state.isTerminal || saga.saga.state.isEventProcessed eventId

/-- `handle` of the base class with the handlers of this one. -/
def handle (now : Int) (eventId : String) (event : SagaEvent Object) (saga : StepUpAuthenticationSaga Object) :
    StepUpAuthenticationSaga Object :=
  let fresh := {saga with saga := {saga.saga with tccRecordsCache := none}}
  if fresh.ignores eventId then fresh
  else
    let handled := handleEvent now event {fresh with saga := fresh.saga.start}
    let marked := handled.saga.state.markEventProcessed eventId
    {handled with saga := {handled.saga with state := marked.recordStep marked.currentStep event.typeName}}

def timedOut (now : Int) (saga : StepUpAuthenticationSaga Object) : StepUpAuthenticationSaga Object :=
  let answered := match saga.onTimeout with
    | (left,none) => left
    | (left,some error) =>
      if left.saga.state.status = .failed then left
      else {left with saga := (left.saga.fail ("Timeout handler failed: " ++ error.message) true).1}
  if World.hasExpired now answered.saga.state then
    {answered with saga := (answered.saga.fail "Timeout handler did not resolve suspension" false).1}
  else answered

abbrev status (saga : StepUpAuthenticationSaga Object) : SagaStatus := saga.saga.state.status

def commands (saga : StepUpAuthenticationSaga Object) : List (StepUpCommand Object) :=
  saga.saga.commandsToDispatch.map (·.command.data)

def undoRecord (saga : StepUpAuthenticationSaga Object) (userId : String) : CompensationRecord (StepUpCommand Object) :=
  let undo := (saga.compensation userId).toCommand
  ⟨undo.typeName,undo.moduleName,undo.data,"Revoke temporary elevation on saga failure"⟩

/-- The revocation of `revokeUser`. -/
def revocations (reason : String) (saga : StepUpAuthenticationSaga Object) : List (StepUpCommand Object) :=
  match saga.userId with
  | some userId => if userId = "" then [] else [.revokeElevation { userId, correlationId := saga.correlationId, reason }]
  | none => []

def started (saga : StepUpAuthenticationSaga Object) : SagaStatus :=
  if saga.status = .pending then .running else saga.status

def statusAfter (saga : StepUpAuthenticationSaga Object) : SagaEvent Object → SagaStatus
  | .sensitiveOperationRequested .. => .suspended
  | .mfaChallengeVerified userId _ =>
    if some userId ≠ saga.userId then saga.started
    else if saga.started = .suspended then .running else saga.started
  | .sensitiveOperationCompleted .. => .completed

def elevating (saga : StepUpAuthenticationSaga Object) (userId action operationId : String) :
    List (StepUpCommand Object) :=
  [.grantTemporaryElevation { userId, action, ttlSeconds := saga.mfaTtlSeconds, correlationId := saga.correlationId },
   .resumeSensitiveOperation {
     operationId, originalCommandData := saga.originalCommandData, correlationId := saga.correlationId }]

def granting (saga : StepUpAuthenticationSaga Object) : SagaEvent Object → Option (String × String × String)
  | .mfaChallengeVerified userId _ => if some userId ≠ saga.userId then none else saga.requested.map (userId,·)
  | _ => none

def dispatched (saga : StepUpAuthenticationSaga Object) (event : SagaEvent Object) : List (StepUpCommand Object) :=
  match event,saga.granting event with
  | .sensitiveOperationCompleted .., _ => saga.revocations "completed"
  | _, some (userId,action,operationId) => saga.elevating userId action operationId
  | _, none => []

structure Heeds (before after : StepUpAuthenticationSaga Object) (eventId : String) (event : SagaEvent Object) :
    Prop where
  registry : after.saga.messageRegistry = before.saga.messageRegistry
  correlation : after.correlationId = before.correlationId
  processed : after.saga.state.processedEventIds = before.saga.state.processedEventIds ++ [eventId]
  status : after.status = before.statusAfter event
  commands : after.commands = before.commands ++ before.dispatched event
  stack : after.saga.state.compensationStack = before.saga.state.compensationStack ++
    ((before.granting event).map fun granted => before.undoRecord granted.1).toList
  request : (after.userId,after.operationId,after.requiredAction) = match event with
    | .sensitiveOperationRequested userId operationId action _ => (some userId,some operationId,some action)
    | _ => (before.userId,before.operationId,before.requiredAction)

theorem start_eq (saga : Saga (StepUpCommand Object)) :
    saga.start = saga.setStatus (if saga.state.status = .pending then .running else saga.state.status) := by
  unfold Saga.start
  split
  next => rfl
  next => rfl

theorem markEventProcessed_of_fresh {state : SagaState (StepUpCommand Object)} {eventId : String}
    (fresh : state.isEventProcessed eventId = false) :
    state.markEventProcessed eventId = {state with processedEventIds := state.processedEventIds ++ [eventId]} := by
  unfold SagaState.markEventProcessed
  exact if_neg (by simpa [SagaState.isEventProcessed] using fresh)

/-- A saga as `handle` gives it to the handler of an event. -/
def starting (saga : StepUpAuthenticationSaga Object) : StepUpAuthenticationSaga Object :=
  {saga with saga := ({saga.saga with tccRecordsCache := none} : Saga _).setStatus saga.started}

theorem handle_of_heeded {saga : StepUpAuthenticationSaga Object} {eventId : String} (now : Int)
    (event : SagaEvent Object) (heeded : saga.ignores eventId = false)
    (same : (handleEvent now event saga.starting).saga.state.processedEventIds = saga.saga.state.processedEventIds) :
    let handled := handleEvent now event saga.starting
    saga.handle now eventId event = {handled with saga := {handled.saga with
      state := ({handled.saga.state with
        processedEventIds := saga.saga.state.processedEventIds ++ [eventId]} : SagaState _).recordStep
          handled.saga.state.currentStep event.typeName}} := by
  intro handled
  have fresh : saga.saga.state.isEventProcessed eventId = false := (Bool.or_eq_false_iff.mp heeded).2
  have begun : {saga with saga := ({saga.saga with tccRecordsCache := none} : Saga _).start} = saga.starting := by
    rw [start_eq]
    rfl
  have unseen : handled.saga.state.isEventProcessed eventId = false := by
    unfold SagaState.isEventProcessed at fresh ⊢
    rw [same]
    exact fresh
  unfold handle
  change (if saga.ignores eventId then _ else _) = _
  rw [heeded,if_neg Bool.false_ne_true]
  simp only [begun]
  rw [markEventProcessed_of_fresh unseen,same]

theorem revokeUser_eq (reason : String) (saga : StepUpAuthenticationSaga Object) :
    ∃ queued nextTag, queued.map (·.command.data) = saga.revocations reason ∧
      saga.revokeUser reason = {saga with saga := {saga.saga with
        commandsToDispatch := saga.saga.commandsToDispatch ++ queued, nextTag := nextTag}} := by
  have idle : saga = {saga with saga := {saga.saga with
      commandsToDispatch := saga.saga.commandsToDispatch ++ [], nextTag := saga.saga.nextTag}} := by
    rw [List.append_nil]
  unfold revokeUser revocations
  split
  next =>
    split
    next => exact ⟨[],_,rfl,idle⟩
    next => exact ⟨[⟨_,saga.saga.nextTag,.handler⟩],_,rfl,rfl⟩
  next => exact ⟨[],_,rfl,idle⟩

theorem resume_eq (saga : Saga (StepUpCommand Object)) :
    ∃ reason timeoutAt, saga.resume = {saga with state := {saga.state with
      status := if saga.state.status = .suspended then .running else saga.state.status
      suspensionReason := reason
      timeoutAt := timeoutAt}} := by
  unfold Saga.resume
  split
  next awake => exact ⟨saga.state.suspensionReason,saga.state.timeoutAt,rfl⟩
  next suspended => exact ⟨none,none,by rw [if_pos (not_not.mp suspended)]⟩

theorem handle_heeds {saga : StepUpAuthenticationSaga Object} {eventId : String} (now : Int)
    (event : SagaEvent Object) (heeded : saga.ignores eventId = false) :
    Heeds saga (saga.handle now eventId event) eventId event := by
  cases event with
  | sensitiveOperationRequested userId operationId action commandData =>
    rw [handle_of_heeded now _ heeded rfl]
    exact ⟨rfl,rfl,rfl,rfl,(List.append_nil _).symm,(List.append_nil _).symm,rfl⟩
  | sensitiveOperationCompleted userId operationId =>
    obtain ⟨queued,_,revoked,left⟩ := revokeUser_eq "completed" saga.starting
    have completed : handleEvent now (.sensitiveOperationCompleted userId operationId) saga.starting =
        {saga.starting.revokeUser "completed" with saga := (saga.starting.revokeUser "completed").saga.complete} := rfl
    rw [left] at completed
    rw [handle_of_heeded now _ heeded (by rw [completed]; rfl),completed]
    refine ⟨rfl,rfl,rfl,rfl,?_,(List.append_nil _).symm,rfl⟩
    have same : saga.dispatched (.sensitiveOperationCompleted userId operationId) = queued.map (·.command.data) :=
      revoked.symm
    rw [same]
    exact List.map_append
  | mfaChallengeVerified userId method =>
    by_cases other : some userId ≠ saga.userId
    · have left : handleEvent now (.mfaChallengeVerified userId method) saga.starting = saga.starting := if_pos other
      have ungranted : saga.granting (.mfaChallengeVerified userId method) = none := if_pos other
      rw [handle_of_heeded now _ heeded (by rw [left]; rfl),left]
      refine ⟨rfl,rfl,rfl,(if_pos other).symm,?_,?_,rfl⟩
      · simp only [dispatched,ungranted]
        exact (List.append_nil _).symm
      · rw [ungranted]
        exact (List.append_nil _).symm
    · obtain ⟨reason,timeoutAt,awake⟩ := resume_eq saga.starting.saga
      have status : saga.statusAfter (.mfaChallengeVerified userId method) =
          if saga.started = .suspended then .running else saga.started := if_neg other
      have granting : saga.granting (.mfaChallengeVerified userId method) = saga.requested.map (userId,·) :=
        if_neg other
      have verified : handleEvent now (.mfaChallengeVerified userId method) saga.starting =
          match saga.requested with
          | some (action,operationId) => grantElevation userId action operationId
            {saga.starting with saga := saga.starting.saga.resume.setCurrentStep "granting_elevation"}
          | none => {saga.starting with saga := saga.starting.saga.resume.setCurrentStep "granting_elevation"} :=
        if_neg other
      rw [awake] at verified
      cases asked : saga.requested with
      | none =>
        rw [asked] at verified granting
        rw [handle_of_heeded now _ heeded (by rw [verified]; rfl),verified]
        refine ⟨rfl,rfl,rfl,status.symm,?_,?_,rfl⟩
        · simp only [dispatched,granting,Option.map_none]
          exact (List.append_nil _).symm
        · rw [granting]
          exact (List.append_nil _).symm
      | some wanted =>
        obtain ⟨action,operationId⟩ := wanted
        rw [asked] at verified granting
        rw [handle_of_heeded now _ heeded (by rw [verified]; rfl),verified]
        refine ⟨rfl,rfl,rfl,status.symm,?_,?_,rfl⟩
        · simp only [dispatched,granting,Option.map_some]
          change ((saga.saga.commandsToDispatch ++ [_]) ++ [_]).map _ = _
          rw [List.append_assoc,List.map_append]
          rfl
        · rw [granting]
          rfl

/-- The compensations that the registry can rebuild. -/
def restored (registry : MessageRegistry (StepUpCommand Object))
    (records : List (CompensationRecord (StepUpCommand Object))) : List (StepUpCommand Object) :=
  records.filterMap fun record => (registry.hydrateCommand record.commandType record.data).map (·.data)

theorem restored_cons (registry : MessageRegistry (StepUpCommand Object))
    (record : CompensationRecord (StepUpCommand Object)) (rest : List (CompensationRecord (StepUpCommand Object))) :
    restored registry (record::rest) =
      ((registry.hydrateCommand record.commandType record.data).map (·.data)).toList ++ restored registry rest := by
  unfold restored
  rw [List.filterMap_cons]
  cases registry.hydrateCommand record.commandType record.data with
  | none => rfl
  | some command => rfl

theorem popAll_eq (registry : MessageRegistry (StepUpCommand Object))
    (records : List (CompensationRecord (StepUpCommand Object))) (saga : Saga (StepUpCommand Object)) :
    ∃ queued nextTag popped failed, queued.map (·.command.data) = restored registry records ∧
      records.foldl (fun current record => Saga.popCompensation registry record current) saga = {saga with
        state := {saga.state with failedCompensations := failed}
        commandsToDispatch := saga.commandsToDispatch ++ queued
        nextTag := nextTag
        popped := popped} := by
  induction records generalizing saga with
  | nil => exact ⟨[],saga.nextTag,saga.popped,saga.state.failedCompensations,rfl,by rw [List.append_nil]; rfl⟩
  | cons record rest ih =>
    obtain ⟨queued,nextTag,popped,failed,same,left⟩ := ih (Saga.popCompensation registry record saga)
    rw [List.foldl_cons,left]
    cases hydrated : registry.hydrateCommand record.commandType record.data with
    | none =>
      have popping : Saga.popCompensation registry record saga = {saga with
          state := {saga.state with failedCompensations := saga.state.failedCompensations ++
            [⟨record.commandType,Saga.notRegistered record.commandType⟩]}
          popped := saga.popped ++ [(record,none)]} := by
        simp only [Saga.popCompensation,hydrated]
      refine ⟨queued,nextTag,popped,failed,?_,by rw [popping]⟩
      rw [same,restored_cons,hydrated]
      rfl
    | some command =>
      have popping : Saga.popCompensation registry record saga =
          {saga.dispatch command .compensation with popped := saga.popped ++ [(record,some saga.nextTag)]} := by
        simp only [Saga.popCompensation,hydrated]
      refine ⟨⟨command,saga.nextTag,.compensation⟩::queued,nextTag,popped,failed,?_,?_⟩
      · rw [List.map_cons,same,restored_cons,hydrated]
        rfl
      · rw [popping]
        simp [Saga.dispatch]

structure Expires (registry : MessageRegistry (StepUpCommand Object)) (before after : StepUpAuthenticationSaga Object) :
    Prop where
  known : after.saga.messageRegistry = before.saga.messageRegistry
  processed : after.saga.state.processedEventIds = before.saga.state.processedEventIds
  terminal : after.saga.state.isTerminal = true
  commands : after.commands = before.commands ++ (before.revocations "timeout" ++
    restored registry before.saga.state.compensationStack.reverse)
  stack : after.saga.state.compensationStack = []
  request : (after.userId,after.operationId,after.requiredAction) =
    (before.userId,before.operationId,before.requiredAction)

theorem fail_eq {registry : MessageRegistry (StepUpCommand Object)} {saga : Saga (StepUpCommand Object)}
    (known : saga.messageRegistry = some registry) (reason : String) :
    ∃ queued nextTag popped failed status,
      queued.map (·.command.data) = restored registry saga.state.compensationStack.reverse ∧
      (status = .failed ∨ status = .compensated) ∧
      saga.fail reason true = ({saga with
        state := {saga.state with
          status := status
          error := some reason
          compensationStack := []
          failedCompensations := failed}
        commandsToDispatch := saga.commandsToDispatch ++ queued
        nextTag := nextTag
        popped := popped},none) := by
  obtain ⟨state,messageRegistry,registered,commandsToDispatch,tccRecordsCache,nextTag,popped⟩ := saga
  change messageRegistry = some registry at known
  subst known
  by_cases bare : state.compensationStack = []
  · refine ⟨[],nextTag,popped,state.failedCompensations,.failed,by rw [bare]; rfl,.inl rfl,?_⟩
    unfold Saga.fail
    rw [if_neg (by simp [Saga.setError,bare]),List.append_nil,← bare]
    rfl
  · obtain ⟨queued,tag,taken,failed,same,left⟩ := popAll_eq registry state.compensationStack.reverse
      ⟨{state with status := .compensating, error := some reason, compensationStack := []},some registry,registered,
        commandsToDispatch,tccRecordsCache,nextTag,popped⟩
    refine ⟨queued,tag,taken,failed,if state.compensationStack.reverse.all (Saga.hydratable registry)
      then .compensated else .failed,same,?_,?_⟩
    · split
      next => exact .inr rfl
      next => exact .inl rfl
    · unfold Saga.fail
      rw [if_pos (by simp [Saga.setError,bare])]
      simp only [Saga.executeCompensations,Saga.setError]
      rw [left]
      rfl

theorem onTimeout_expires {registry : MessageRegistry (StepUpCommand Object)} {saga : StepUpAuthenticationSaga Object}
    (known : saga.saga.messageRegistry = some registry) :
    Expires registry saga saga.onTimeout.1 ∧ saga.onTimeout.2 = none := by
  obtain ⟨revoked,nextTag,sameRevoked,left⟩ := revokeUser_eq "timeout" saga
  let revoking := {saga.saga with commandsToDispatch := saga.saga.commandsToDispatch ++ revoked, nextTag := nextTag}
  have revokingKnown : revoking.messageRegistry = some registry := known
  obtain ⟨queued,_,_,_,status,sameQueued,ended,failed⟩ := fail_eq revokingKnown saga.timeoutReason
  have timed : saga.onTimeout = ({saga with saga := (revoking.fail saga.timeoutReason true).1},
      (revoking.fail saga.timeoutReason true).2) := by
    unfold onTimeout
    rw [left]
  rw [timed,failed]
  refine ⟨⟨rfl,rfl,?_,?_,rfl,rfl⟩,rfl⟩
  · rcases ended with rfl | rfl
    · rfl
    · rfl
  · have same : queued.map (·.command.data) = restored registry saga.saga.state.compensationStack.reverse :=
      sameQueued
    rw [← sameRevoked,← same]
    change ((saga.saga.commandsToDispatch ++ revoked) ++ queued).map _ = _
    rw [List.map_append,List.map_append,List.append_assoc]
    rfl

theorem timedOut_expires {registry : MessageRegistry (StepUpCommand Object)} {saga : StepUpAuthenticationSaga Object}
    (known : saga.saga.messageRegistry = some registry) (now : Int) : Expires registry saga (saga.timedOut now) := by
  obtain ⟨expires,quiet⟩ := onTimeout_expires known
  have answered : saga.onTimeout = (saga.onTimeout.1,none) := Prod.ext rfl quiet
  have awake : World.hasExpired now saga.onTimeout.1.saga.state = false := by
    have resolved : saga.onTimeout.1.saga.state.status ≠ .suspended := by
      intro suspended
      have ended := expires.terminal
      rw [SagaState.isTerminal,suspended] at ended
      cases ended
    unfold World.hasExpired
    rw [decide_eq_false resolved]
    rfl
  have same : saga.timedOut now = saga.onTimeout.1 := by
    unfold timedOut
    rw [answered]
    simp only [awake,Bool.false_eq_true,if_false]
  rw [same]
  exact expires

end StepUpAuthenticationSaga
end CqrsDdd.Access.StepUp
