import CqrsDdd.Access.Elevation

/-! An elevation that the step-up saga grants is verified, its operation is resumed
once, and it is revoked in the end, in every run whose steps are `Allowed`. -/
namespace CqrsDdd.Access.StepUp

open Sagas Specifications

variable {Object : Type}

theorem Requested.append {userId operationId action : String} {handled : List (SagaEvent Object)}
    (asked : Requested userId operationId action handled) {event : SagaEvent Object}
    (other : isRequest event = false) : Requested userId operationId action (handled ++ [event]) := by
  obtain ⟨earlier,between,commandData,rfl,quiet⟩ := asked
  refine ⟨earlier,between ++ [event],commandData,by simp,fun later member => ?_⟩
  rcases List.mem_append.mp member with old | new
  · exact quiet later old
  · rw [List.mem_singleton.mp new]
    exact other

theorem Verified.append {userId action : String} {handled : List (SagaEvent Object)}
    (verified : Verified userId action handled) (more : List (SagaEvent Object)) :
    Verified userId action (handled ++ more) := by
  obtain ⟨earlier,later,operationId,method,rfl,asked⟩ := verified
  exact ⟨earlier,later ++ more,operationId,method,by simp,asked⟩

theorem due_resumes (userId : String) (elevated : Bool) (modules : Modules Object)
    (handler : ResumeSensitiveOperationHandler) (answer : Option String) (commandId : Nat)
    (cmd : ResumeSensitiveOperation Object) :
    (handler.handle modules answer commandId cmd).events.foldl (elevation userId) elevated = elevated := by
  unfold ResumeSensitiveOperationHandler.handle
  split
  next => rfl
  next =>
    split
    next => rfl
    next => rfl
    next => rfl

theorem due_response (deployment : Deployment Object) (now : Int) (answer : Option String) (commandId : Nat)
    (userId : String) (elevated : Bool) (command : StepUpCommand Object) :
    (World.respond deployment now answer commandId command).foldl (elevation userId) elevated =
      due userId elevated command := by
  cases command with
  | grantTemporaryElevation cmd => rfl
  | revokeElevation cmd => rfl
  | resumeSensitiveOperation cmd => exact due_resumes userId elevated _ _ answer commandId cmd

theorem resumes_granted {modules : Modules Object} {handler : ResumeSensitiveOperationHandler}
    {answer : Option String} {commandId : Nat} {cmd : ResumeSensitiveOperation Object}
    {userId action : String} {ttlSeconds : Int} :
    .temporaryElevationGranted userId action ttlSeconds ∉ (handler.handle modules answer commandId cmd).events := by
  unfold ResumeSensitiveOperationHandler.handle
  split
  next => simp [ResumeSensitiveOperationHandler.signal]
  next =>
    split
    next => simp [ResumeSensitiveOperationHandler.signal]
    next => simp
    next => simp

theorem granted_of_response {deployment : Deployment Object} {now : Int} {answer : Option String} {commandId : Nat}
    {command : StepUpCommand Object} {userId action : String} {ttlSeconds : Int}
    (member : .temporaryElevationGranted userId action ttlSeconds ∈
      World.respond deployment now answer commandId command) :
    ∃ cmd, command = .grantTemporaryElevation cmd ∧ cmd.userId = userId ∧ cmd.action = action := by
  cases command with
  | grantTemporaryElevation cmd =>
    simp only [World.respond,GrantTemporaryElevationHandler.handle,List.mem_cons,List.not_mem_nil,reduceCtorEq,
      false_or,or_false,StepUpEvent.temporaryElevationGranted.injEq] at member
    exact ⟨cmd,rfl,member.1.symm,member.2.1.symm⟩
  | revokeElevation cmd => simp [World.respond,RevokeElevationHandler.handle] at member
  | resumeSensitiveOperation cmd => exact absurd member resumes_granted

theorem replay_completes {modules : Modules Object} {answer : Option String} {cmd : ResumeSensitiveOperation Object}
    {commandData : Fields Object} {event : SagaEvent Object}
    (replayed : ResumeSensitiveOperationHandler.replay modules answer cmd commandData = .ok (some event)) :
    ∃ userId, event = .sensitiveOperationCompleted userId cmd.operationId := by
  unfold ResumeSensitiveOperationHandler.replay at replayed
  split at replayed
  next => cases replayed
  next => cases replayed
  next original _ =>
    split at replayed
    next => cases replayed
    next => cases replayed
    next attributes _ =>
      cases user : ResumeSensitiveOperationHandler.completedUser modules attributes with
      | error message =>
        rw [user] at replayed
        cases replayed
      | ok userId =>
        rw [user] at replayed
        exact ⟨userId,(Option.some.inj (Except.ok.inj replayed)).symm⟩

theorem replays_completes {modules : Modules Object} {handler : ResumeSensitiveOperationHandler}
    {answer : Option String} {cmd : ResumeSensitiveOperation Object}
    (replays : handler.replays modules answer cmd = true) (commandId : Nat) :
    ∃ userId, (handler.handle modules answer commandId cmd).events =
      [.heard (.sensitiveOperationCompleted userId cmd.operationId)] := by
  unfold ResumeSensitiveOperationHandler.replays at replays
  split at replays
  next commandData replayable =>
    split at replays
    next event replayed =>
      obtain ⟨userId,rfl⟩ := replay_completes replayed
      refine ⟨userId,?_⟩
      unfold ResumeSensitiveOperationHandler.handle
      simp only [replayable,replayed]
    next => cases replays
  next => cases replays

theorem due_revocations {userId : String} {commands : List (StepUpCommand Object)}
    (revoking : ∀ command ∈ commands, ∃ cmd, command = .revokeElevation cmd) (elevated : Bool)
    (still : commands.foldl (due userId) elevated = true) :
    elevated = true ∧ ∀ command ∈ commands, revokes userId command = false := by
  induction commands generalizing elevated with
  | nil => exact ⟨still,fun _ member => nomatch member⟩
  | cons command rest ih =>
    obtain ⟨kept,others⟩ := ih (fun command member => revoking command (List.mem_cons_of_mem _ member)) _ still
    obtain ⟨cmd,rfl⟩ := revoking command List.mem_cons_self
    obtain ⟨was,unnamed⟩ := Bool.and_eq_true_iff.mp kept
    refine ⟨was,fun other member => ?_⟩
    rcases List.mem_cons.mp member with rfl | later
    · exact decide_eq_false (of_decide_eq_true unnamed)
    · exact others other later

namespace World

structure Inv (deployment : Deployment Object) (world : World Object) : Prop where
  registry : world.saga.saga.messageRegistry = some deployment.messageRegistry
  collected : world.saga.saga.commandsToDispatch = []
  known : ∀ index, deployment.uuid index ∈ world.saga.saga.state.processedEventIds → index ∈ world.delivered
  within : ∀ index ∈ world.delivered, index < world.occurred.length
  request : ∀ userId operationId action, world.saga.userId = some userId →
    world.saga.operationId = some operationId → world.saga.requiredAction = some action →
    Requested userId operationId action world.handled
  granted : ∀ userId action ttlSeconds, .temporaryElevationGranted userId action ttlSeconds ∈ world.occurred →
    Verified userId action world.handled
  queued : ∀ cmd, .grantTemporaryElevation cmd ∈ world.commands → Verified cmd.userId cmd.action world.handled
  once : world.resumptions.Nodup
  stack : ∀ record ∈ world.saga.saga.state.compensationStack, ∃ user, record = world.saga.undoRecord user
  covered : world.saga.saga.state.isTerminal = false → ∀ user, world.owed user = true →
    world.saga.undoRecord user ∈ world.saga.saga.state.compensationStack
  closed : world.saga.saga.state.isTerminal = true → ∀ user, world.owed user = false
  traced : world.saga.saga.state.isTerminal = false → (∃ user, world.owed user = true) →
    world.saga.status = .suspended ∨ world.UnderWay

theorem Inv.safe {deployment : Deployment Object} {world : World Object} (inv : world.Inv deployment) :
    world.Safe where
  granted := inv.granted
  once := (List.nodup_append.mp inv.once).1
  revoked settled user elevated := by
    obtain ⟨handled,delivered,awake⟩ := settled
    have none : world.commands = [] := by
      unfold commands
      rw [handled]
      rfl
    have owed : world.owed user = true := by
      unfold World.owed
      rw [none]
      exact elevated
    cases terminal : world.saga.saga.state.isTerminal with
    | true => exact Bool.false_ne_true ((inv.closed terminal user).symm.trans owed)
    | false =>
      rcases inv.traced terminal ⟨user,owed⟩ with suspended | ⟨command,member,_⟩ | ⟨index,_,_,found,missed⟩
      · exact awake suspended
      · rw [none] at member
        cases member
      · exact missed (delivered index _ found)

theorem UnderWay.later {before after : World Object} (commands : ∀ command ∈ before.commands, command ∈ after.commands)
    (occurred : before.occurred <+: after.occurred) (delivered : after.delivered = before.delivered)
    (underWay : before.UnderWay) : after.UnderWay := by
  rcases underWay with ⟨command,member,resumes⟩ | ⟨index,userId,operationId,found,missed⟩
  · exact .inl ⟨command,commands command member,resumes⟩
  · refine .inr ⟨index,userId,operationId,?_,by rw [delivered]; exact missed⟩
    obtain ⟨more,grown⟩ := occurred
    rw [← grown,List.getElem?_append_left (List.getElem?_eq_some_iff.mp found).1]
    exact found

def occurring (world : World Object) (event : SagaEvent Object) : World Object :=
  {world with occurred := world.occurred ++ [.heard event]}

theorem owed_occurring (world : World Object) (event : SagaEvent Object) (userId : String) :
    (world.occurring event).owed userId = world.owed userId := by
  change world.commands.foldl _ ((world.occurred ++ [StepUpEvent.heard event]).foldl _ false) = _
  rw [List.foldl_append]
  rfl

theorem UnderWay.occurring {world : World Object} (underWay : world.UnderWay) (event : SagaEvent Object) :
    (world.occurring event).UnderWay := by
  have grown : world.occurred <+: (world.occurring event).occurred := List.prefix_append _ _
  exact UnderWay.later (fun command (member : command ∈ world.commands) => member) grown rfl underWay

theorem Admits.occurring {world : World Object} {heard : SagaEvent Object} (admits : world.Admits heard)
    (event : SagaEvent Object) : (world.occurring event).Admits heard := by
  cases heard with
  | sensitiveOperationRequested => trivial
  | mfaChallengeVerified userId method =>
    intro mine
    have own := admits mine
    have unchanged : (world.occurring event).saga.requested = world.saga.requested := rfl
    cases asked : world.saga.requested with
    | some wanted =>
      rw [asked] at own unchanged
      rw [unchanged]
      exact own
    | none =>
      rw [asked] at own unchanged
      rw [unchanged]
      rintro suspended ⟨user,owed⟩
      rw [owed_occurring] at owed
      exact (own suspended ⟨user,owed⟩).occurring event
  | sensitiveOperationCompleted =>
    intro user owed
    rw [owed_occurring] at owed
    exact admits user owed

theorem Inv.occurring {deployment : Deployment Object} {world : World Object} (inv : world.Inv deployment)
    (event : SagaEvent Object) : (world.occurring event).Inv deployment where
  registry := inv.registry
  collected := inv.collected
  known := inv.known
  within index member := by
    change index < (world.occurred ++ [_]).length
    rw [List.length_append]
    exact Nat.lt_add_right _ (inv.within index member)
  request := inv.request
  granted userId action ttlSeconds member := by
    rcases List.mem_append.mp member with old | new
    · exact inv.granted userId action ttlSeconds old
    · cases List.mem_singleton.mp new
  queued := inv.queued
  once := inv.once
  stack := inv.stack
  covered alive user owed := by
    rw [owed_occurring] at owed
    exact inv.covered alive user owed
  closed terminal user := by
    rw [owed_occurring]
    exact inv.closed terminal user
  traced alive := by
    rintro ⟨user,owed⟩
    rw [owed_occurring] at owed
    exact (inv.traced alive ⟨user,owed⟩).imp_right fun underWay => underWay.occurring event

end World

namespace StepUpAuthenticationSaga

theorem requested_some {saga : StepUpAuthenticationSaga Object} {action operationId : String}
    (wanted : saga.requested = some (action,operationId)) :
    saga.requiredAction = some action ∧ saga.operationId = some operationId := by
  unfold requested at wanted
  split at wanted
  next required operation =>
    split at wanted
    next => cases wanted
    next =>
      obtain ⟨rfl,rfl⟩ := Prod.mk.inj (Option.some.inj wanted)
      exact ⟨required,operation⟩
  next => cases wanted

theorem granting_some {saga : StepUpAuthenticationSaga Object} {event : SagaEvent Object}
    {userId action operationId : String} (granting : saga.granting event = some (userId,action,operationId)) :
    ∃ method, event = .mfaChallengeVerified userId method ∧ saga.userId = some userId ∧
      saga.requested = some (action,operationId) := by
  cases event with
  | sensitiveOperationRequested => cases granting
  | sensitiveOperationCompleted => cases granting
  | mfaChallengeVerified verified method =>
    by_cases other : some verified ≠ saga.userId
    · cases (if_pos other).symm.trans granting
    · obtain ⟨wanted,asked,same⟩ := Option.map_eq_some_iff.mp ((if_neg other).symm.trans granting)
      obtain ⟨rfl,rfl⟩ := Prod.mk.inj same
      exact ⟨method,rfl,(not_not.mp other).symm,asked⟩

theorem granting_requested {saga : StepUpAuthenticationSaga Object} {userId : String} {wanted : String × String}
    (mine : saga.userId = some userId) (asked : saga.requested = some wanted) (method : String) :
    saga.granting (.mfaChallengeVerified userId method) = some (userId,wanted) := by
  change (if _ then _ else saga.requested.map _) = _
  rw [if_neg (not_not.mpr mine.symm),asked]
  rfl

theorem revocations_revoke {saga : StepUpAuthenticationSaga Object} {reason : String} :
    ∀ command ∈ saga.revocations reason, ∃ cmd, command = .revokeElevation cmd := by
  intro command member
  unfold revocations at member
  split at member
  next =>
    split at member
    next => cases member
    next => exact ⟨_,List.mem_singleton.mp member⟩
  next => cases member

theorem revocations_named {saga : StepUpAuthenticationSaga Object} {userId : String} (mine : saga.userId = some userId)
    (named : userId ≠ "") (reason : String) : ∃ command ∈ saga.revocations reason, revokes userId command = true := by
  unfold revocations
  rw [mine]
  simp only [if_neg named]
  exact ⟨_,List.mem_singleton_self _,decide_eq_true rfl⟩

theorem dispatched_revoke {saga : StepUpAuthenticationSaga Object} {event : SagaEvent Object}
    (ungranted : saga.granting event = none) :
    ∀ command ∈ saga.dispatched event, ∃ cmd, command = .revokeElevation cmd := by
  cases event with
  | sensitiveOperationRequested => exact fun _ member => nomatch member
  | mfaChallengeVerified =>
    unfold dispatched
    rw [ungranted]
    exact fun _ member => nomatch member
  | sensitiveOperationCompleted => exact revocations_revoke

theorem dispatched_grant {saga : StepUpAuthenticationSaga Object} {event : SagaEvent Object}
    {userId action operationId : String} (granting : saga.granting event = some (userId,action,operationId)) :
    saga.dispatched event = saga.elevating userId action operationId := by
  obtain ⟨method,rfl,_⟩ := granting_some granting
  unfold dispatched
  rw [granting]

def terminal (status : SagaStatus) : Bool := status = .completed || status = .failed || status = .compensated

theorem started_alive {saga : StepUpAuthenticationSaga Object} (alive : terminal saga.status = false) :
    terminal saga.started = false := by
  unfold started
  split
  next => rfl
  next => exact alive

theorem statusAfter_alive {saga : StepUpAuthenticationSaga Object} {event : SagaEvent Object}
    (alive : terminal saga.status = false)
    (other : ∀ userId operationId, event ≠ .sensitiveOperationCompleted userId operationId) :
    terminal (saga.statusAfter event) = false := by
  cases event with
  | sensitiveOperationRequested => rfl
  | sensitiveOperationCompleted => exact absurd rfl (other _ _)
  | mfaChallengeVerified =>
    change terminal (if _ then _ else if _ then _ else _) = false
    split
    next => exact started_alive alive
    next =>
      split
      next => rfl
      next => exact started_alive alive

end StepUpAuthenticationSaga

namespace World

structure Hears (deployment : Deployment Object) (index : Nat) (event : SagaEvent Object) (before after : World Object) :
    Prop where
  saga : ∃ handled, before.saga.Heeds handled (deployment.uuid index) event ∧
    after.saga = {handled with saga := handled.saga.collectCommands.2}
  commands : after.commands = before.commands ++ before.saga.dispatched event
  occurred : after.occurred = before.occurred
  delivered : after.delivered = before.delivered ++ [index]
  handled : after.handled = before.handled ++ [event]
  resumed : after.resumed = before.resumed

theorem hear_hears {deployment : Deployment Object} {world : World Object} (inv : world.Inv deployment) {index : Nat}
    (now : Int) (event : SagaEvent Object) (heeded : world.saga.ignores (deployment.uuid index) = false) :
    Hears deployment index event world (world.hear deployment now index event) where
  saga := ⟨_,StepUpAuthenticationSaga.handle_heeds now event heeded,rfl⟩
  commands := by
    have dispatched := (StepUpAuthenticationSaga.handle_heeds now event heeded).commands
    have idle : world.saga.commands = [] := by
      unfold StepUpAuthenticationSaga.commands
      rw [inv.collected]
      rfl
    rw [idle,List.nil_append] at dispatched
    rw [← dispatched]
    exact List.map_append
  occurred := rfl
  delivered := rfl
  handled := by
    change (if world.saga.ignores _ then _ else _) = _
    rw [heeded]
    rfl
  resumed := rfl

theorem owed_append {before after : World Object} {more : List (StepUpCommand Object)}
    (commands : after.commands = before.commands ++ more) (occurred : after.occurred = before.occurred)
    (userId : String) : after.owed userId = more.foldl (due userId) (before.owed userId) := by
  unfold owed
  rw [commands,occurred,List.foldl_append]

theorem UnderWay.unheard {deployment : Deployment Object} {index : Nat} {event : SagaEvent Object}
    {before after : World Object} (hears : Hears deployment index event before after)
    (found : before.occurred[index]? = some (.heard event))
    (other : ∀ userId operationId, event ≠ .sensitiveOperationCompleted userId operationId)
    (underWay : before.UnderWay) : after.UnderWay := by
  rcases underWay with ⟨command,member,resumes⟩ | ⟨missing,userId,operationId,there,missed⟩
  · exact .inl ⟨command,by rw [hears.commands]; exact List.mem_append_left _ member,resumes⟩
  · refine .inr ⟨missing,userId,operationId,by rw [hears.occurred]; exact there,?_⟩
    rw [hears.delivered,List.mem_append,List.mem_singleton]
    rintro (old | rfl)
    · exact missed old
    · cases found.symm.trans there
      exact other userId operationId rfl

section Heeded

variable {deployment : Deployment Object} {index : Nat} {event : SagaEvent Object} {before after : World Object}

theorem Hears.status (hears : Hears deployment index event before after) :
    after.saga.status = before.saga.statusAfter event := by
  obtain ⟨handled,heeds,same⟩ := hears.saga
  rw [same]
  exact heeds.status

theorem Hears.terminal (hears : Hears deployment index event before after)
    (ended : after.saga.saga.state.isTerminal = true) (heeded : before.saga.ignores (deployment.uuid index) = false) :
    ∃ userId operationId, event = .sensitiveOperationCompleted userId operationId := by
  have alive : StepUpAuthenticationSaga.terminal before.saga.status = false := (Bool.or_eq_false_iff.mp heeded).1
  change StepUpAuthenticationSaga.terminal after.saga.status = true at ended
  rw [hears.status] at ended
  by_contra other
  simp only [not_exists] at other
  exact Bool.false_ne_true ((StepUpAuthenticationSaga.statusAfter_alive alive other).symm.trans ended)

theorem Hears.undoRecord (hears : Hears deployment index event before after) (userId : String) :
    after.saga.undoRecord userId = before.saga.undoRecord userId := by
  obtain ⟨handled,heeds,same⟩ := hears.saga
  have correlation : after.saga.correlationId = before.saga.correlationId := by
    rw [same]
    exact heeds.correlation
  unfold StepUpAuthenticationSaga.undoRecord StepUpAuthenticationSaga.compensation
  rw [correlation]

theorem Hears.owed (hears : Hears deployment index event before after) (userId : String) :
    after.owed userId = (before.saga.dispatched event).foldl (due userId) (before.owed userId) :=
  owed_append hears.commands hears.occurred userId

theorem Hears.owed_cases (hears : Hears deployment index event before after) {userId : String}
    (owed : after.owed userId = true) :
    before.owed userId = true ∨ ∃ action operationId, before.saga.granting event = some (userId,action,operationId) := by
  rw [hears.owed] at owed
  cases granting : before.saga.granting event with
  | none => exact .inl (due_revocations (StepUpAuthenticationSaga.dispatched_revoke granting) _ owed).1
  | some granted =>
    obtain ⟨verified,action,operationId⟩ := granted
    rw [StepUpAuthenticationSaga.dispatched_grant granting] at owed
    rcases Bool.or_eq_true_iff.mp owed with was | mine
    · exact .inl was
    · obtain rfl : verified = userId := of_decide_eq_true mine
      exact .inr ⟨action,operationId,rfl⟩

theorem Hears.resuming (hears : Hears deployment index event before after) {userId action operationId : String}
    (granting : before.saga.granting event = some (userId,action,operationId)) : after.UnderWay := by
  refine .inl ⟨.resumeSensitiveOperation ⟨operationId,before.saga.originalCommandData,before.saga.correlationId⟩,?_,rfl⟩
  rw [hears.commands,StepUpAuthenticationSaga.dispatched_grant granting]
  exact List.mem_append_right _ (List.mem_cons_of_mem _ (List.mem_singleton_self _))

theorem Inv.hears_request (inv : before.Inv deployment) (hears : Hears deployment index event before after)
    (userId operationId action : String) (user : after.saga.userId = some userId)
    (operation : after.saga.operationId = some operationId) (required : after.saga.requiredAction = some action) :
    Requested userId operationId action after.handled := by
  obtain ⟨handled,heeds,same⟩ := hears.saga
  rw [same] at user operation required
  have fields := heeds.request
  rw [(user : handled.userId = _),(operation : handled.operationId = _),(required : handled.requiredAction = _)] at fields
  rw [hears.handled]
  cases event with
  | sensitiveOperationRequested asking operation' action' commandData =>
    cases fields
    exact ⟨before.handled,[],commandData,rfl,fun _ member => nomatch member⟩
  | mfaChallengeVerified =>
    simp only [Prod.mk.injEq] at fields
    exact (inv.request userId operationId action fields.1.symm fields.2.1.symm fields.2.2.symm).append rfl
  | sensitiveOperationCompleted =>
    simp only [Prod.mk.injEq] at fields
    exact (inv.request userId operationId action fields.1.symm fields.2.1.symm fields.2.2.symm).append rfl

theorem Inv.hears_queued (inv : before.Inv deployment) (hears : Hears deployment index event before after)
    (cmd : GrantTemporaryElevation) (member : .grantTemporaryElevation cmd ∈ after.commands) :
    Verified cmd.userId cmd.action after.handled := by
  rw [hears.handled]
  rw [hears.commands,List.mem_append] at member
  rcases member with old | new
  · exact (inv.queued cmd old).append [event]
  · cases granting : before.saga.granting event with
    | none =>
      obtain ⟨_,revoking⟩ := StepUpAuthenticationSaga.dispatched_revoke granting _ new
      cases revoking
    | some granted =>
      obtain ⟨userId,action,operationId⟩ := granted
      rw [StepUpAuthenticationSaga.dispatched_grant granting] at new
      obtain ⟨method,rfl,user,wanted⟩ := StepUpAuthenticationSaga.granting_some granting
      obtain ⟨required,operation⟩ := StepUpAuthenticationSaga.requested_some wanted
      have asked := inv.request userId operationId action user operation required
      rcases List.mem_cons.mp new with first | rest
      · cases first
        exact ⟨before.handled,[],operationId,method,rfl,asked⟩
      · cases List.mem_singleton.mp rest

theorem Inv.hears_once (inv : before.Inv deployment) (hears : Hears deployment index event before after)
    (admits : before.Admits event) : after.resumptions.Nodup := by
  have grown : after.resumptions = before.resumptions ++ (before.saga.dispatched event).filterMap resumption := by
    unfold resumptions
    rw [hears.resumed,hears.commands,List.filterMap_append,List.append_assoc]
  rw [grown]
  cases granting : before.saga.granting event with
  | none =>
    have none : (before.saga.dispatched event).filterMap resumption = [] := by
      apply List.filterMap_eq_nil_iff.mpr
      intro command member
      obtain ⟨cmd,rfl⟩ := StepUpAuthenticationSaga.dispatched_revoke granting command member
      rfl
    rw [none,List.append_nil]
    exact inv.once
  | some granted =>
    obtain ⟨userId,action,operationId⟩ := granted
    rw [StepUpAuthenticationSaga.dispatched_grant granting]
    obtain ⟨method,rfl,user,wanted⟩ := StepUpAuthenticationSaga.granting_some granting
    have fresh := admits user
    rw [wanted] at fresh
    have single : (before.saga.elevating userId action operationId).filterMap resumption = [operationId] := rfl
    rw [single]
    exact List.Nodup.append inv.once (List.nodup_singleton _) (by simpa using fresh)

theorem Inv.hears_stack (inv : before.Inv deployment) (hears : Hears deployment index event before after) :
    ∀ record ∈ after.saga.saga.state.compensationStack, ∃ user, record = after.saga.undoRecord user := by
  intro record member
  obtain ⟨handled,heeds,same⟩ := hears.saga
  have stack : after.saga.saga.state.compensationStack = handled.saga.state.compensationStack := by
    rw [same]
    rfl
  rw [stack,heeds.stack,List.mem_append] at member
  rcases member with old | new
  · obtain ⟨user,known⟩ := inv.stack record old
    exact ⟨user,by rw [hears.undoRecord]; exact known⟩
  · obtain ⟨granted,_,known⟩ := Option.map_eq_some_iff.mp (Option.mem_toList.mp new)
    exact ⟨granted.1,by rw [hears.undoRecord]; exact known.symm⟩

theorem Inv.hears_covered (inv : before.Inv deployment) (hears : Hears deployment index event before after)
    (heeded : before.saga.ignores (deployment.uuid index) = false) (user : String) (owed : after.owed user = true) :
    after.saga.undoRecord user ∈ after.saga.saga.state.compensationStack := by
  obtain ⟨handled,heeds,same⟩ := hears.saga
  have stack : after.saga.saga.state.compensationStack = handled.saga.state.compensationStack := by
    rw [same]
    rfl
  rw [hears.undoRecord,stack,heeds.stack,List.mem_append]
  rcases hears.owed_cases owed with was | ⟨action,operationId,granting⟩
  · exact .inl (inv.covered (Bool.or_eq_false_iff.mp heeded).1 user was)
  · right
    rw [granting]
    exact List.mem_singleton_self _

theorem hears_closed (hears : Hears deployment index event before after) (admits : before.Admits event)
    (heeded : before.saga.ignores (deployment.uuid index) = false) (ended : after.saga.saga.state.isTerminal = true)
    (user : String) : after.owed user = false := by
  obtain ⟨completing,operationId,rfl⟩ := hears.terminal ended heeded
  by_contra left
  have owed := Bool.not_eq_false _ ▸ left
  rw [hears.owed] at owed
  obtain ⟨was,unnamed⟩ := due_revocations StepUpAuthenticationSaga.revocations_revoke _ owed
  obtain ⟨mine,named⟩ := admits user was
  obtain ⟨command,member,names⟩ := StepUpAuthenticationSaga.revocations_named mine named "completed"
  exact Bool.false_ne_true ((unnamed command member).symm.trans names)

theorem Inv.hears_traced (inv : before.Inv deployment) (hears : Hears deployment index event before after)
    (found : before.occurred[index]? = some (.heard event)) (admits : before.Admits event)
    (heeded : before.saga.ignores (deployment.uuid index) = false) (alive : after.saga.saga.state.isTerminal = false)
    (owed : ∃ user, after.owed user = true) : after.saga.status = .suspended ∨ after.UnderWay := by
  obtain ⟨user,owed⟩ := owed
  cases event with
  | sensitiveOperationRequested => exact .inl hears.status
  | sensitiveOperationCompleted =>
    change StepUpAuthenticationSaga.terminal after.saga.status = false at alive
    rw [hears.status] at alive
    cases alive
  | mfaChallengeVerified verified method =>
    have other : ∀ userId operationId, SagaEvent.mfaChallengeVerified verified method ≠
        (.sensitiveOperationCompleted userId operationId : SagaEvent Object) := fun _ _ same => nomatch same
    rcases hears.owed_cases owed with was | ⟨action,operationId,granting⟩
    · -- Nothing new is owed, so what was under way still is, or the saga was suspended.
      rcases inv.traced (Bool.or_eq_false_iff.mp heeded).1 ⟨user,was⟩ with suspended | underWay
      · by_cases mine : before.saga.userId = some verified
        · have waited := admits mine
          cases asked : before.saga.requested with
          | none =>
            rw [asked] at waited
            exact .inr ((waited suspended ⟨user,was⟩).unheard hears found other)
          | some wanted =>
            exact .inr (hears.resuming (StepUpAuthenticationSaga.granting_requested mine asked method))
        · left
          rw [hears.status]
          have ignored : some verified ≠ before.saga.userId := fun same => mine same.symm
          refine (if_pos ignored).trans ?_
          unfold StepUpAuthenticationSaga.started
          rw [suspended]
          rfl
      · exact .inr (underWay.unheard hears found other)
    · exact .inr (hears.resuming granting)

theorem Inv.hears (inv : before.Inv deployment) (hears : Hears deployment index event before after)
    (found : before.occurred[index]? = some (.heard event)) (admits : before.Admits event)
    (heeded : before.saga.ignores (deployment.uuid index) = false) : after.Inv deployment where
  registry := by
    obtain ⟨handled,heeds,same⟩ := hears.saga
    rw [same]
    exact heeds.registry.trans inv.registry
  collected := by
    obtain ⟨handled,heeds,same⟩ := hears.saga
    rw [same]
    rfl
  known other processed := by
    obtain ⟨handled,heeds,same⟩ := hears.saga
    have list : after.saga.saga.state.processedEventIds = handled.saga.state.processedEventIds := by
      rw [same]
      rfl
    rw [list,heeds.processed,List.mem_append,List.mem_singleton] at processed
    rw [hears.delivered,List.mem_append,List.mem_singleton]
    exact processed.imp (inv.known other) fun equal => deployment.distinct equal
  within other member := by
    rw [hears.delivered,List.mem_append,List.mem_singleton] at member
    rw [hears.occurred]
    rcases member with old | rfl
    · exact inv.within other old
    · exact (List.getElem?_eq_some_iff.mp found).1
  request := inv.hears_request hears
  granted userId action ttlSeconds member := by
    rw [hears.occurred] at member
    rw [hears.handled]
    exact (inv.granted userId action ttlSeconds member).append [event]
  queued := inv.hears_queued hears
  once := inv.hears_once hears admits
  stack := inv.hears_stack hears
  covered _ := inv.hears_covered hears heeded
  closed := hears_closed hears admits heeded
  traced := inv.hears_traced hears found admits heeded

end Heeded

theorem hear_ignored {deployment : Deployment Object} {world : World Object} (inv : world.Inv deployment) {index : Nat}
    (now : Int) (event : SagaEvent Object) (ignored : world.saga.ignores (deployment.uuid index) = true) :
    world.hear deployment now index event = {world with
      saga := {world.saga with saga := {world.saga.saga with tccRecordsCache := none}}
      delivered := world.delivered ++ [index]} := by
  have idle : world.saga.handle now (deployment.uuid index) event =
      {world.saga with saga := {world.saga.saga with tccRecordsCache := none}} := by
    unfold StepUpAuthenticationSaga.handle
    exact if_pos ignored
  unfold hear
  simp only [idle,ignored,collect,Saga.collectCommands,if_true,inv.collected,List.append_nil]

theorem Inv.delivering {deployment : Deployment Object} {world : World Object} (inv : world.Inv deployment) {index : Nat}
    (within : index < world.occurred.length)
    (idle : world.saga.saga.state.isTerminal = false → index ∉ world.delivered → ∀ userId operationId,
      world.occurred[index]? ≠ some (.heard (.sensitiveOperationCompleted userId operationId))) :
    ({world with delivered := world.delivered ++ [index]} : World Object).Inv deployment := by
  refine ⟨inv.registry,inv.collected,fun other processed => List.mem_append_left _ (inv.known other processed),?_,
    inv.request,inv.granted,inv.queued,inv.once,inv.stack,inv.covered,inv.closed,fun alive owed => ?_⟩
  · intro other member
    rcases List.mem_append.mp member with old | new
    · exact inv.within other old
    · rw [List.mem_singleton.mp new]
      exact within
  · rcases inv.traced alive owed with suspended | resumes | ⟨missing,userId,operationId,there,missed⟩
    · exact .inl suspended
    · exact .inr (.inl resumes)
    · refine .inr (.inr ⟨missing,userId,operationId,there,fun member => ?_⟩)
      rcases List.mem_append.mp member with old | new
      · exact missed old
      · obtain rfl := List.mem_singleton.mp new
        exact idle alive missed userId operationId there

theorem Inv.hear_ignored {deployment : Deployment Object} {world : World Object} (inv : world.Inv deployment)
    {index : Nat} {event : SagaEvent Object} (now : Int) (found : world.occurred[index]? = some (.heard event))
    (ignored : world.saga.ignores (deployment.uuid index) = true) :
    (world.hear deployment now index event).Inv deployment := by
  have delivering : ({world with delivered := world.delivered ++ [index]} : World Object).Inv deployment := by
    apply inv.delivering (List.getElem?_eq_some_iff.mp found).1
    intro alive missed
    rcases Bool.or_eq_true_iff.mp ignored with ended | repeated
    · exact absurd (alive.symm.trans ended) Bool.false_ne_true
    · exact absurd (inv.known index (of_decide_eq_true repeated)) missed
  rw [World.hear_ignored inv now event ignored]
  exact ⟨delivering.registry,delivering.collected,delivering.known,delivering.within,delivering.request,
    delivering.granted,delivering.queued,delivering.once,delivering.stack,delivering.covered,delivering.closed,
    delivering.traced⟩

theorem Inv.hear {deployment : Deployment Object} {world : World Object} (inv : world.Inv deployment)
    {index : Nat} {event : SagaEvent Object} (now : Int) (found : world.occurred[index]? = some (.heard event))
    (heard : world.Heard deployment index event) : (world.hear deployment now index event).Inv deployment := by
  cases heeded : world.saga.ignores (deployment.uuid index) with
  | true => exact inv.hear_ignored now found heeded
  | false => exact inv.hears (hear_hears inv now event heeded) found (heard heeded) heeded

theorem Inv.deliver {deployment : Deployment Object} {world : World Object} (inv : world.Inv deployment) (now : Int)
    {index : Nat} (heard : ∀ event, world.occurred[index]? = some (.heard event) → world.Heard deployment index event) :
    (world.step deployment (.deliver now index)).Inv deployment := by
  dsimp only [step]
  split
  next event found => exact inv.hear now found (heard event found)
  next other unheard found =>
    apply inv.delivering (List.getElem?_eq_some_iff.mp found).1
    intro _ _ userId operationId there
    exact unheard _ (Option.some.inj (found.symm.trans there))
  next => exact inv

theorem Inv.raise {deployment : Deployment Object} {world : World Object} (inv : world.Inv deployment) (now : Int)
    {event : SagaEvent Object} (heard : world.Heard deployment world.occurred.length event) :
    (world.step deployment (.raise now event)).Inv deployment := by
  have found : (world.occurring event).occurred[world.occurred.length]? = some (.heard event) := by
    unfold World.occurring
    rw [List.getElem?_append_right (Nat.le_refl _),Nat.sub_self]
    rfl
  exact (inv.occurring event).hear now found fun heeded => (heard heeded).occurring event

def processed (deployment : Deployment Object) (now : Int) (answer : Option String) (world : World Object)
    (queued : QueuedCommand (StepUpCommand Object)) (rest : List (QueuedCommand (StepUpCommand Object))) : World Object :=
  {world with
    queue := rest
    occurred := world.occurred ++ respond deployment now answer queued.tag queued.command.data
    resumed := world.resumed ++ (resumption queued.command.data).toList}

section Processing

variable {deployment : Deployment Object} {world : World Object} {queued : QueuedCommand (StepUpCommand Object)}
  {rest : List (QueuedCommand (StepUpCommand Object))}

theorem commands_cons (head : world.queue = queued::rest) :
    world.commands = queued.command.data::rest.map (·.command.data) := by
  unfold commands
  rw [head]
  rfl

theorem owed_processed (head : world.queue = queued::rest) (now : Int) (answer : Option String) (userId : String) :
    (processed deployment now answer world queued rest).owed userId = world.owed userId := by
  unfold owed
  rw [commands_cons head,List.foldl_cons]
  change (rest.map _).foldl _ ((world.occurred ++ respond deployment now answer _ _).foldl _ false) = _
  rw [List.foldl_append,due_response]

theorem resumptions_processed (head : world.queue = queued::rest) (now : Int) (answer : Option String) :
    (processed deployment now answer world queued rest).resumptions = world.resumptions := by
  unfold resumptions
  rw [commands_cons head,List.filterMap_cons]
  change (world.resumed ++ (resumption _).toList) ++ (rest.map _).filterMap resumption = _
  rw [List.append_assoc]
  cases resumption queued.command.data with
  | none => rfl
  | some operationId => rfl

theorem UnderWay.processed (head : world.queue = queued::rest) (now : Int) (answer : Option String)
    (other : resumption queued.command.data = none) (underWay : world.UnderWay) :
    (processed deployment now answer world queued rest).UnderWay := by
  have grown : world.occurred <+: (World.processed deployment now answer world queued rest).occurred :=
    List.prefix_append _ _
  rcases underWay with ⟨command,member,resumes⟩ | missing
  · rw [commands_cons head] at member
    rcases List.mem_cons.mp member with rfl | later
    · rw [other] at resumes
      cases resumes
    · exact .inl ⟨command,later,resumes⟩
  · have emptied : ({world with queue := []} : World Object).UnderWay := .inr missing
    have none : ∀ command ∈ ({world with queue := []} : World Object).commands,
        command ∈ (World.processed deployment now answer world queued rest).commands := fun _ member => nomatch member
    exact emptied.later none grown rfl

theorem Inv.traced_processed (inv : world.Inv deployment) (head : world.queue = queued::rest) (now : Int)
    (answer : Option String) (allowed : world.Allowed deployment (.process now answer))
    (alive : world.saga.saga.state.isTerminal = false)
    (owed : ∃ user, (processed deployment now answer world queued rest).owed user = true) :
    world.saga.status = .suspended ∨ (processed deployment now answer world queued rest).UnderWay := by
  obtain ⟨user,owed⟩ := owed
  rw [owed_processed head] at owed
  by_cases suspended : world.saga.status = .suspended
  · exact .inl suspended
  · right
    have underWay := (inv.traced alive ⟨user,owed⟩).resolve_left suspended
    cases kind : queued.command.data with
    | grantTemporaryElevation cmd => exact underWay.processed head now answer (by rw [kind]; rfl)
    | revokeElevation cmd => exact underWay.processed head now answer (by rw [kind]; rfl)
    | resumeSensitiveOperation cmd =>
      rcases allowed queued rest cmd head kind alive suspended with replays | another
      · obtain ⟨userId,events⟩ := replays_completes replays queued.tag
        have occurred : (World.processed deployment now answer world queued rest).occurred =
            world.occurred ++ [.heard (.sensitiveOperationCompleted userId cmd.operationId)] := by
          change world.occurred ++ respond deployment now answer queued.tag queued.command.data = _
          rw [kind]
          exact congrArg _ events
        refine .inr ⟨world.occurred.length,userId,cmd.operationId,?_,fun member => ?_⟩
        · rw [occurred,List.getElem?_append_right (Nat.le_refl _),Nat.sub_self]
          rfl
        · exact Nat.lt_irrefl _ (inv.within _ member)
      · have grown : world.occurred <+: (World.processed deployment now answer world queued rest).occurred :=
          List.prefix_append _ _
        have same : ∀ command ∈ ({world with queue := rest} : World Object).commands,
            command ∈ (World.processed deployment now answer world queued rest).commands := fun _ member => member
        exact another.later same grown rfl

theorem Inv.process (inv : world.Inv deployment) (now : Int) {answer : Option String}
    (allowed : world.Allowed deployment (.process now answer)) :
    (world.step deployment (.process now answer)).Inv deployment := by
  dsimp only [step]
  split
  next => exact inv
  next queued rest head =>
    change (processed deployment now answer world queued rest).Inv deployment
    have commands := commands_cons head
    refine ⟨inv.registry,inv.collected,inv.known,?_,inv.request,?_,?_,?_,inv.stack,?_,?_,
      inv.traced_processed head now answer allowed⟩
    · intro index member
      have before := inv.within index member
      change index < (world.occurred ++ _).length
      rw [List.length_append]
      exact Nat.lt_add_right _ before
    · intro userId action ttlSeconds member
      rcases List.mem_append.mp member with old | new
      · exact inv.granted userId action ttlSeconds old
      · obtain ⟨cmd,kind,rfl,rfl⟩ := granted_of_response new
        exact inv.queued cmd (by rw [commands,kind]; exact List.mem_cons_self)
    · intro cmd member
      exact inv.queued cmd (by rw [commands]; exact List.mem_cons_of_mem _ member)
    · rw [resumptions_processed head]
      exact inv.once
    · intro alive user owed
      rw [owed_processed head] at owed
      exact inv.covered alive user owed
    · intro ended user
      rw [owed_processed head]
      exact inv.closed ended user

end Processing

section Timeouts

variable {deployment : Deployment Object} {world : World Object}

def unwinding (deployment : Deployment Object) (world : World Object) : List (StepUpCommand Object) :=
  world.saga.revocations "timeout" ++
    StepUpAuthenticationSaga.restored deployment.messageRegistry world.saga.saga.state.compensationStack.reverse

theorem Inv.unwinding_revokes (inv : world.Inv deployment) :
    ∀ command ∈ unwinding deployment world, ∃ cmd, command = .revokeElevation cmd := by
  intro command member
  rcases List.mem_append.mp member with current | undone
  · exact StepUpAuthenticationSaga.revocations_revoke command current
  · obtain ⟨record,stacked,rebuilt⟩ := List.mem_filterMap.mp undone
    obtain ⟨user,rfl⟩ := inv.stack record (List.mem_reverse.mp stacked)
    obtain ⟨hydrated,found,rfl⟩ := Option.map_eq_some_iff.mp rebuilt
    rw [deployment.rebuilds (world.saga.compensation user) hydrated found]
    exact ⟨_,rfl⟩

theorem Inv.unwinding_names (inv : world.Inv deployment) {now : Int}
    (allowed : world.Allowed deployment (.processTimeouts now))
    (expired : World.hasExpired now world.saga.saga.state = true)
    (alive : world.saga.saga.state.isTerminal = false) {user : String} (owed : world.owed user = true) :
    ∃ command ∈ unwinding deployment world, revokes user command = true := by
  rcases allowed expired user owed with ⟨mine,named⟩ | rebuilt
  · obtain ⟨command,member,names⟩ := StepUpAuthenticationSaga.revocations_named mine named "timeout"
    exact ⟨command,List.mem_append_left _ member,names⟩
  · obtain ⟨hydrated,found⟩ := Option.isSome_iff_exists.mp rebuilt
    refine ⟨world.saga.compensation user,List.mem_append_right _ (List.mem_filterMap.mpr ?_),decide_eq_true rfl⟩
    refine ⟨world.saga.undoRecord user,List.mem_reverse.mpr (inv.covered alive user owed),?_⟩
    have same := deployment.rebuilds (world.saga.compensation user) hydrated found
    exact Option.map_eq_some_iff.mpr ⟨hydrated,found,by rw [same]; rfl⟩

theorem Inv.processTimeouts (inv : world.Inv deployment) {now : Int}
    (allowed : world.Allowed deployment (.processTimeouts now)) :
    (world.step deployment (.processTimeouts now)).Inv deployment := by
  dsimp only [step]
  split
  next expired =>
    have expires := StepUpAuthenticationSaga.timedOut_expires inv.registry now
    have suspended : world.saga.status = .suspended := of_decide_eq_true (Bool.and_eq_true_iff.mp expired).1
    have alive : world.saga.saga.state.isTerminal = false := by
      change StepUpAuthenticationSaga.terminal world.saga.status = false
      rw [suspended]
      rfl
    have commands : (world.collect (world.saga.timedOut now)).commands =
        world.commands ++ unwinding deployment world := by
      have dispatched := expires.commands
      have idle : world.saga.commands = [] := by
        unfold StepUpAuthenticationSaga.commands
        rw [inv.collected]
        rfl
      rw [idle,List.nil_append] at dispatched
      exact List.map_append.trans (congrArg _ dispatched)
    have ended : (world.collect (world.saga.timedOut now)).saga.saga.state.isTerminal = true := expires.terminal
    refine ⟨expires.known.trans inv.registry,rfl,fun index member => inv.known index ?_,inv.within,
      fun userId operationId action user operation required => ?_,inv.granted,fun cmd member => ?_,?_,
      fun record member => ?_,fun living => ?_,fun _ user => ?_,fun living => ?_⟩
    · exact (congrArg (deployment.uuid index ∈ ·) expires.processed).mp member
    · have fields := expires.request
      simp only [Prod.mk.injEq] at fields
      exact inv.request userId operationId action (fields.1.symm.trans user) (fields.2.1.symm.trans operation)
        (fields.2.2.symm.trans required)
    · rw [commands,List.mem_append] at member
      rcases member with old | new
      · exact inv.queued cmd old
      · obtain ⟨_,revoking⟩ := inv.unwinding_revokes _ new
        cases revoking
    · have none : (unwinding deployment world).filterMap resumption = [] := by
        apply List.filterMap_eq_nil_iff.mpr
        intro command member
        obtain ⟨cmd,rfl⟩ := inv.unwinding_revokes command member
        rfl
      have same : (world.collect (world.saga.timedOut now)).resumptions = world.resumptions := by
        unfold resumptions
        rw [commands,List.filterMap_append,none,List.append_nil]
        rfl
      rw [same]
      exact inv.once
    · have emptied : (world.collect (world.saga.timedOut now)).saga.saga.state.compensationStack = [] := expires.stack
      rw [emptied] at member
      cases member
    · exact absurd (living.symm.trans ended) Bool.false_ne_true
    · by_contra left
      have owed := Bool.not_eq_false _ ▸ left
      rw [owed_append commands rfl] at owed
      obtain ⟨was,unnamed⟩ := due_revocations inv.unwinding_revokes _ owed
      obtain ⟨command,member,names⟩ := inv.unwinding_names allowed expired alive was
      exact Bool.false_ne_true ((unnamed command member).symm.trans names)
    · exact absurd (living.symm.trans ended) Bool.false_ne_true
  next => exact inv

end Timeouts

theorem initial_inv (deployment : Deployment Object) (id : Nat) (correlationId : String) (mfaTtlSeconds : Int) :
    (initial deployment id correlationId mfaTtlSeconds).Inv deployment where
  registry := rfl
  collected := rfl
  known _ processed := nomatch processed
  within _ member := nomatch member
  request _ _ _ user _ _ := nomatch user
  granted _ _ _ member := nomatch member
  queued _ member := nomatch member
  once := List.nodup_nil
  stack _ member := nomatch member
  covered _ _ owed := nomatch owed
  closed _ _ := rfl
  traced := by
    rintro _ ⟨_,owed⟩
    cases owed

theorem Inv.step {deployment : Deployment Object} {world : World Object} (inv : world.Inv deployment)
    (action : Step Object) (allowed : world.Allowed deployment action) : (world.step deployment action).Inv deployment := by
  cases action with
  | raise now event => exact inv.raise now allowed
  | deliver now index => exact inv.deliver now allowed
  | process now answer => exact inv.process now allowed
  | processTimeouts now => exact inv.processTimeouts allowed

theorem run_safe (deployment : Deployment Object) (id : Nat) (correlationId : String) (mfaTtlSeconds : Int)
    (actions : List (Step Object)) (allowed : Transition.Meets (World.step deployment) (Allowed deployment)
      (initial deployment id correlationId mfaTtlSeconds) actions) :
    (Transition.run (World.step deployment) (initial deployment id correlationId mfaTtlSeconds) actions).Safe := by
  apply Inv.safe
  exact Transition.run_invariant (fun world => world.Inv deployment) (fun _ action inv => inv.step action) _ actions
    (initial_inv deployment id correlationId mfaTtlSeconds) allowed

end World

def replaying : Deployment Empty where
  messageRegistry := ⟨[]⟩
  rebuilds _ _ found := nomatch found
  uuid number := String.ofList (List.replicate number 'e')
  distinct first second same := by
    have lengths := congrArg String.length same
    simpa using lengths
  modules := ⟨Runtime.ascii,fun _ _ _ => .ok ⟨[],fun _ => .ok []⟩,fun value => match value with
    | .text content => .ok content
    | _ => .error "Input should be a valid string"⟩
  resumeHandler := { mediator := true }

def deletion : List (Step Empty) :=
  [.raise 0 (.sensitiveOperationRequested "u1" "op-1" "delete"
    (some [("module_name",.text "commands"),("type_name",.text "Delete")])),
   .raise 1 (.mfaChallengeVerified "u1" "email"),.process 1 none]

namespace World

theorem run_safe_replayed : (Transition.run (World.step replaying) (initial replaying 0 "c1" 300)
    (deletion ++ [.process 1 none,.deliver 2 4,.process 2 none])).Safe := by
  apply run_safe
  refine ⟨fun _ => trivial,fun _ _ => ?_,?_,?_,?_,?_,trivial⟩
  · exact List.not_mem_nil
  · intro queued rest cmd head kind
    cases head
    cases kind
  · intro queued rest cmd head kind _ _
    cases head
    cases kind
    exact .inl rfl
  · intro event found
    cases found
    intro _ user owed
    obtain rfl : "u1" = user := of_decide_eq_true owed
    exact ⟨rfl,by decide⟩
  · intro queued rest cmd head kind
    cases head
    cases kind

def failed : World Empty := Transition.run (World.step replaying) (initial replaying 0 "c1" 300)
  (deletion ++ [.process 1 (some "denied")])

theorem failed_occurred : failed.occurred =
    [.heard (.sensitiveOperationRequested "u1" "op-1" "delete"
      (some [("module_name",.text "commands"),("type_name",.text "Delete")])),
     .heard (.mfaChallengeVerified "u1" "email"),
     .aclGrantRequested "elevation" none [{ principalName := some "u1", action := "delete" }],
     .temporaryElevationGranted "u1" "delete" 300] := rfl

theorem failed_settled : failed.Settled := by
  refine ⟨rfl,fun index event found => ?_,fun suspended => nomatch suspended⟩
  rw [failed_occurred] at found
  change index ∈ [0,1]
  match index,found with
  | 0,_ => exact List.mem_cons_self
  | 1,_ => exact List.mem_cons_of_mem _ List.mem_cons_self
  | 2,found => cases found
  | 3,found => cases found
  | _ + 4,found => cases found

/-- The failure of the replay emits no event, so nothing revokes the elevation. -/
theorem run_unsafe_failed : ¬ ∀ (deployment : Deployment Empty) (id : Nat) (correlationId : String) (mfaTtlSeconds : Int)
    (actions : List (Step Empty)), (Transition.run (World.step deployment)
      (initial deployment id correlationId mfaTtlSeconds) actions).Safe := by
  intro safe
  have elevated : Elevated "u1" failed.occurred := by
    rw [failed_occurred]
    rfl
  have revoked : failed.Safe := by
    unfold failed
    exact safe replaying 0 "c1" 300 _
  exact revoked.revoked failed_settled "u1" elevated

end World
end CqrsDdd.Access.StepUp
