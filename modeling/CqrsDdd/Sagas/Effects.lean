import CqrsDdd.Sagas.Manager

/-! What an operation of the saga object can do to the parts the manager relies on.
No operation touches the identity or the pending list of the state; commands are
only appended to the queue, each with the next tag; and every compensation record
that is popped leaves a queued command or a failed compensation behind. -/
namespace CqrsDdd.Sagas.Saga

variable {Data : Type}

structure Adds (before after : Saga Data) (queued : List (QueuedCommand Data))
    (taken : List (CompensationRecord Data × Option Nat)) (failed : List FailedCompensation) : Prop where
  id : after.state.id = before.state.id
  pending : after.state.pendingCommands = before.state.pendingCommands
  registry : after.messageRegistry = before.messageRegistry
  queue : after.commandsToDispatch = before.commandsToDispatch ++ queued
  history : after.popped = before.popped ++ taken
  failures : after.state.failedCompensations = before.state.failedCompensations ++ failed
  tags : queued.map (·.tag) = List.range' before.nextTag queued.length
  next : after.nextTag = before.nextTag + queued.length
  restored : ∀ record tag, (record,some tag) ∈ taken → ∃ entry ∈ queued, entry.tag = tag ∧
    entry.origin = .compensation ∧ ∃ registry, before.messageRegistry = some registry ∧
      registry.hydrateCommand record.commandType record.data = some entry.command
  refused : ∀ record, (record,none) ∈ taken → ∃ entry ∈ failed, entry.commandType = record.commandType
  compensating : ∀ entry ∈ queued, entry.origin = .compensation → ∃ record, (record,some entry.tag) ∈ taken

abbrev Still (before after : Saga Data) : Prop := Adds before after [] [] []

/-- `restores` says whether some popped record became a command. -/
def Pops (before after : Saga Data) (restores : Bool) : Prop :=
  ∃ queued taken failed, Adds before after queued taken failed ∧ taken.any (·.2.isSome) = restores

def Queues (before after : Saga Data) : Prop := ∃ queued, Adds before after queued [] []

def watched (saga : Saga Data) :=
  (saga.state.id,saga.state.pendingCommands,saga.messageRegistry,saga.commandsToDispatch,saga.popped,
    saga.state.failedCompensations,saga.nextTag)

theorem still {before after : Saga Data} (same : after.watched = before.watched) : Still before after := by
  simp only [watched,Prod.mk.injEq] at same
  obtain ⟨id,pending,registry,queue,history,failures,next⟩ := same
  exact ⟨id,pending,registry,by simpa using queue,by simpa using history,by simpa using failures,rfl,next,by simp,
    by simp,by simp⟩

theorem Adds.refl (saga : Saga Data) : Still saga saga := still rfl

theorem Adds.trans {first middle last : Saga Data} {queued queued' : List (QueuedCommand Data)}
    {taken taken' : List (CompensationRecord Data × Option Nat)} {failed failed' : List FailedCompensation}
    (earlier : Adds first middle queued taken failed) (later : Adds middle last queued' taken' failed') :
    Adds first last (queued ++ queued') (taken ++ taken') (failed ++ failed') where
  id := later.id.trans earlier.id
  pending := later.pending.trans earlier.pending
  registry := later.registry.trans earlier.registry
  queue := by rw [later.queue,earlier.queue,List.append_assoc]
  history := by rw [later.history,earlier.history,List.append_assoc]
  failures := by rw [later.failures,earlier.failures,List.append_assoc]
  tags := by
    rw [List.map_append,earlier.tags,later.tags,earlier.next,List.length_append]
    simp [List.range'_append_1]
  next := by rw [later.next,earlier.next,List.length_append,Nat.add_assoc]
  restored record tag member := by
    rcases List.mem_append.mp member with old | new
    · obtain ⟨entry,present,facts⟩ := earlier.restored record tag old
      exact ⟨entry,List.mem_append_left _ present,facts⟩
    · obtain ⟨entry,present,facts⟩ := later.restored record tag new
      rw [earlier.registry] at facts
      exact ⟨entry,List.mem_append_right _ present,facts⟩
  refused record member := by
    rcases List.mem_append.mp member with old | new
    · obtain ⟨entry,present,same⟩ := earlier.refused record old
      exact ⟨entry,List.mem_append_left _ present,same⟩
    · obtain ⟨entry,present,same⟩ := later.refused record new
      exact ⟨entry,List.mem_append_right _ present,same⟩
  compensating entry member origin := by
    rcases List.mem_append.mp member with old | new
    · obtain ⟨record,present⟩ := earlier.compensating entry old origin
      exact ⟨record,List.mem_append_left _ present⟩
    · obtain ⟨record,present⟩ := later.compensating entry new origin
      exact ⟨record,List.mem_append_right _ present⟩

theorem Pops.trans {first middle last : Saga Data} {restores restores' : Bool}
    (earlier : Pops first middle restores) (later : Pops middle last restores') :
    Pops first last (restores || restores') := by
  obtain ⟨_,_,_,before,here⟩ := earlier
  obtain ⟨_,_,_,after,there⟩ := later
  exact ⟨_,_,_,before.trans after,by rw [List.any_append,here,there]⟩

theorem Queues.trans {first middle last : Saga Data} (earlier : Queues first middle)
    (later : Queues middle last) : Queues first last := by
  obtain ⟨_,before⟩ := earlier
  obtain ⟨_,after⟩ := later
  exact ⟨_,before.trans after⟩

theorem Adds.queues {before after : Saga Data} (adds : Still before after) : Queues before after := ⟨_,adds⟩

theorem Queues.pops {before after : Saga Data} (queues : Queues before after) : Pops before after false := by
  obtain ⟨_,adds⟩ := queues
  exact ⟨_,_,_,adds,rfl⟩

theorem dispatch_queues (saga : Saga Data) (command : Command Data) (origin : Origin)
    (other : origin ≠ .compensation) : Queues saga (saga.dispatch command origin) :=
  ⟨[⟨command,saga.nextTag,origin⟩],rfl,rfl,rfl,rfl,by simp [dispatch],by simp [dispatch],rfl,rfl,by simp,
    by simp,by simpa using other⟩

theorem foldl_queues {Item : Type*} (step : Saga Data → Item → Saga Data)
    (queues : ∀ saga item, Queues saga (step saga item)) (items : List Item) (saga : Saga Data) :
    Queues saga (items.foldl step saga) := by
  induction items generalizing saga with
  | nil => exact (Adds.refl saga).queues
  | cons item rest ih => exact (queues saga item).trans (ih _)

theorem beginTcc_queues (saga : Saga Data) (now : Int) : Queues saga (saga.beginTcc now).1 := by
  unfold beginTcc
  split
  next => exact (Adds.refl saga).queues
  next =>
    split
    next => exact (Adds.refl saga).queues
    next =>
      have tried := foldl_queues (fun current (step : TCCStep Data) =>
        current.dispatch step.tryCommand (.tccTry step.name))
        (fun current step => dispatch_queues current step.tryCommand _ (by simp)) saga.registered.steps saga
      exact tried.trans (Adds.queues (still rfl))

theorem load_still (saga : Saga Data) : Still saga saga.loadTccRecords.2 := by
  unfold loadTccRecords
  split
  · exact Adds.refl saga
  · exact still rfl

theorem setStatus_still (saga : Saga Data) (status : SagaStatus) : Still saga (saga.setStatus status) :=
  still rfl

theorem setCurrentStep_still (saga : Saga Data) (step : String) : Still saga (saga.setCurrentStep step) := still rfl

theorem setError_still (saga : Saga Data) (reason : String) : Still saga (saga.setError reason) := still rfl

theorem save_still (saga : Saga Data) (records : List (TCCStepRecord Data)) :
    Still saga (saga.saveTccRecords records) := still rfl

theorem setTccPhase_queues (saga : Saga Data) (stepName : String) (phase : TCCPhase) (error : Option String) :
    Queues saga (saga.setTccPhase stepName phase error) :=
  (load_still saga).queues.trans (save_still _ _).queues

theorem confirmRecords_queues (registry : MessageRegistry Data) (records : List (TCCStepRecord Data))
    (saga : Saga Data) : Queues saga (confirmRecords registry records saga).2 := by
  induction records generalizing saga with
  | nil => exact (Adds.refl saga).queues
  | cons record rest ih =>
    unfold confirmRecords
    split
    next =>
      split
      next => exact (dispatch_queues saga _ _ (by simp)).trans (ih _)
      next => exact ih saga
    next => exact ih saga

theorem dispatchConfirms_queues (saga : Saga Data) : Queues saga saga.dispatchConfirms.1 := by
  unfold dispatchConfirms
  split
  next => exact (Adds.refl saga).queues
  next registry _ =>
    have confirmed := (load_still saga).queues.trans
      (confirmRecords_queues registry saga.loadTccRecords.1 saga.loadTccRecords.2)
    exact confirmed.trans ((save_still _ _).queues.trans (setCurrentStep_still _ _).queues)

theorem cancelRecords_queues (registry : MessageRegistry Data) (records : List (TCCStepRecord Data))
    (saga : Saga Data) : Queues saga (cancelRecords registry records saga).2 := by
  induction records with
  | nil => exact (Adds.refl saga).queues
  | cons record rest ih =>
    unfold cancelRecords
    dsimp only
    split
    next =>
      split
      next => exact ih.trans (dispatch_queues _ _ _ (by simp))
      next => exact ih
    next => exact ih

theorem dispatchCancels_queues (saga : Saga Data) (reason : String) :
    Queues saga (saga.dispatchCancels reason).1 := by
  unfold dispatchCancels
  split
  next => exact (Adds.refl saga).queues
  next registry _ =>
    have cancelled := (load_still saga).queues.trans
      (cancelRecords_queues registry saga.loadTccRecords.1 saga.loadTccRecords.2)
    exact cancelled.trans ((save_still _ _).queues.trans ((setStatus_still _ _).queues.trans
      ((setCurrentStep_still _ _).queues.trans (setError_still _ _).queues)))

theorem markStepFailed_queues (saga : Saga Data) (stepName reason : String) :
    Queues saga (saga.markStepFailed stepName reason).1 := by
  have cancelled := dispatchCancels_queues saga reason
  unfold markStepFailed
  split
  next left error same => rwa [same] at cancelled
  next left same =>
    rw [same] at cancelled
    exact cancelled.trans (setTccPhase_queues left stepName .failed (some reason))

theorem failExpired_queues (names : List String) (saga : Saga Data) : Queues saga (failExpired names saga).1 := by
  induction names generalizing saga with
  | nil => exact (Adds.refl saga).queues
  | cons name rest ih =>
    have failed := markStepFailed_queues saga name (expiryReason name)
    unfold failExpired
    split
    next left error same => rwa [same] at failed
    next left same =>
      rw [same] at failed
      exact failed.trans (ih left)

theorem checkTccTimeouts_queues (saga : Saga Data) (now : Int) : Queues saga (saga.checkTccTimeouts now).1 :=
  (load_still saga).queues.trans (failExpired_queues _ _)

theorem applyTcc_queues (saga : Saga Data) (op : TccOp) : Queues saga (saga.applyTcc op).1 := by
  cases op with
  | tried stepName =>
    have marked := setTccPhase_queues saga stepName .tried none
    simp only [applyTcc,markStepTried]
    split
    next => exact marked.trans (dispatchConfirms_queues _)
    next => exact marked
  | confirmed stepName =>
    have marked := setTccPhase_queues saga stepName .confirmed none
    simp only [applyTcc,markStepConfirmed]
    split
    next => exact marked.trans (Adds.queues (still rfl))
    next => exact marked
  | failed stepName reason => exact markStepFailed_queues saga stepName reason
  | cancelled stepName =>
    have marked := setTccPhase_queues saga stepName .cancelled none
    simp only [applyTcc,markStepCancelled]
    split
    next => exact marked.trans (Adds.queues (still rfl))
    next => exact marked
  | timeouts now => exact checkTccTimeouts_queues saga now
  | reload => exact Adds.queues (still rfl)

theorem popCompensation_pops (registry : MessageRegistry Data) (record : CompensationRecord Data)
    (saga : Saga Data) (same : saga.messageRegistry = some registry) :
    Pops saga (popCompensation registry record saga) (hydratable registry record) := by
  unfold popCompensation hydratable
  split
  next command hydrated =>
    refine ⟨[⟨command,saga.nextTag,.compensation⟩],[(record,some saga.nextTag)],[],⟨rfl,rfl,rfl,rfl,rfl,?_,rfl,rfl,
      ?_,by simp,by simp⟩,by simp [hydrated]⟩
    · simp [dispatch]
    · intro other tag member
      simp only [List.mem_singleton,Prod.mk.injEq,Option.some.injEq] at member
      obtain ⟨rfl,rfl⟩ := member
      exact ⟨_,List.mem_singleton_self _,rfl,rfl,registry,same,hydrated⟩
  next missing =>
    refine ⟨[],[(record,none)],[⟨record.commandType,notRegistered record.commandType⟩],⟨rfl,rfl,rfl,?_,rfl,rfl,rfl,
      rfl,by simp,by simp,by simp⟩,by simp [missing]⟩
    simp

theorem popAll_pops (registry : MessageRegistry Data) (records : List (CompensationRecord Data))
    (saga : Saga Data) (same : saga.messageRegistry = some registry) :
    Pops saga (records.foldl (fun current record => popCompensation registry record current) saga)
      (records.any (hydratable registry)) := by
  induction records generalizing saga with
  | nil => exact (Adds.refl saga).queues.pops
  | cons record rest ih =>
    have popped := popCompensation_pops registry record saga same
    have kept : (popCompensation registry record saga).messageRegistry = some registry := by
      obtain ⟨_,_,_,adds,_⟩ := popped
      rw [adds.registry,same]
    exact popped.trans (ih _ kept)

def restorable (saga : Saga Data) : Bool :=
  match saga.messageRegistry with
  | some registry => saga.state.compensationStack.any (hydratable registry)
  | none => false

theorem executeCompensations_pops (saga : Saga Data) :
    Pops saga saga.executeCompensations.1 saga.restorable := by
  unfold executeCompensations
  split
  next missing => simpa [restorable,missing] using (Adds.refl saga).queues.pops
  next registry same =>
    let emptied := {saga with state := {saga.state with status := .compensating, compensationStack := []}}
    have opened : Pops saga emptied false := Queues.pops (Adds.queues (still rfl))
    have popped := opened.trans (popAll_pops registry saga.state.compensationStack.reverse emptied same)
    rw [Bool.false_or,List.any_reverse] at popped
    have flag : saga.restorable = saga.state.compensationStack.any (hydratable registry) := by
      simp only [restorable,same]
    rw [flag,← Bool.or_false (saga.state.compensationStack.any _)]
    exact popped.trans (setStatus_still _ _).queues.pops

theorem fail_pops (saga : Saga Data) (reason : String) (compensate : Bool) :
    Pops saga (saga.fail reason compensate).1 (compensate && saga.restorable) := by
  have noted : Pops saga (saga.setError reason) false := (setError_still saga reason).queues.pops
  unfold fail
  dsimp only
  split
  next compensates =>
    obtain ⟨asked,_⟩ := Bool.and_eq_true_iff.mp compensates
    rw [asked]
    exact noted.trans (executeCompensations_pops (saga.setError reason))
  next skipped =>
    have nothing : (compensate && saga.restorable) = false := by
      cases compensate with
      | false => rfl
      | true =>
        have empty : saga.state.compensationStack = [] := by simpa [setError] using skipped
        cases same : saga.messageRegistry <;> simp [restorable,empty,same]
    rw [nothing]
    exact noted.trans (Queues.pops (Adds.queues (still rfl)))

def compensates (saga : Saga Data) : SagaAction Data → Bool
  | .fail _ compensate => compensate && saga.restorable
  | .executeCompensations => saga.restorable
  | _ => false

theorem act_pops (now : Int) (saga : Saga Data) (action : SagaAction Data) :
    Pops saga (saga.act now action).1 (saga.compensates action) := by
  cases action with
  | dispatch command => exact (dispatch_queues saga command .handler (by simp)).pops
  | fail reason compensate => exact fail_pops saga reason compensate
  | executeCompensations => exact executeCompensations_pops saga
  | beginTcc => exact (beginTcc_queues saga now).pops
  | tcc op => exact (applyTcc_queues saga op).pops
  | resume =>
    simp only [act,resume,compensates]
    split
    next => exact (Adds.refl saga).queues.pops
    next => exact Queues.pops (Adds.queues (still rfl))
  | addCompensation | setStep | setMaxRetries | complete | suspend | raise =>
    exact Queues.pops (Adds.queues (still rfl))

def unwinds (now : Int) : List (SagaAction Data) → Saga Data → Bool
  | [], _ => false
  | action::rest, saga => saga.compensates action ||
    match saga.act now action with
    | (acted,none) => unwinds now rest acted
    | (_,some _) => false

theorem perform_pops (now : Int) (script : List (SagaAction Data)) (saga : Saga Data) :
    Pops saga (saga.perform now script).1 (saga.unwinds now script) := by
  induction script generalizing saga with
  | nil => exact (Adds.refl saga).queues.pops
  | cons action rest ih =>
    have acted := act_pops now saga action
    unfold perform unwinds
    split
    next left error same =>
      rw [same] at acted
      simpa [same] using acted
    next left same =>
      rw [same] at acted
      simpa [same] using acted.trans (ih left)

def eventUnwinds (sagaClass : SagaClass Data) (now : Int) (event : DomainEvent Data) (saga : Saga Data) : Bool :=
  match sagaClass.eventHandlers.lookup event.eventType with
  | some handler => saga.unwinds now (handler now event saga.state)
  | none => false

theorem handleEvent_pops (sagaClass : SagaClass Data) (now : Int) (event : DomainEvent Data) (saga : Saga Data) :
    Pops saga (saga.handleEvent sagaClass now event).1 (saga.eventUnwinds sagaClass now event) := by
  unfold handleEvent eventUnwinds
  cases sagaClass.eventHandlers.lookup event.eventType with
  | some handler => exact perform_pops now (handler now event saga.state) saga
  | none => exact (Adds.refl saga).queues.pops

def handleUnwinds (sagaClass : SagaClass Data) (now : Int) (event : DomainEvent Data) (saga : Saga Data) : Bool :=
  !saga.state.isTerminal && !saga.state.isEventProcessed event.eventId &&
    {saga with tccRecordsCache := none}.start.eventUnwinds sagaClass now event

theorem markEventProcessed_frame (state : SagaState Data) (eventId : String) :
    (state.markEventProcessed eventId).id = state.id ∧
      (state.markEventProcessed eventId).pendingCommands = state.pendingCommands ∧
      (state.markEventProcessed eventId).failedCompensations = state.failedCompensations := by
  unfold SagaState.markEventProcessed
  split <;> exact ⟨rfl,rfl,rfl⟩

theorem handle_pops (sagaClass : SagaClass Data) (now : Int) (event : DomainEvent Data) (saga : Saga Data) :
    Pops saga (saga.handle sagaClass now event).1 (saga.handleUnwinds sagaClass now event) := by
  have fresh : Pops saga {saga with tccRecordsCache := none} false :=
    Queues.pops (Adds.queues (still rfl))
  have begun : Pops saga {saga with tccRecordsCache := none}.start false := by
    unfold start
    split
    next => exact Queues.pops (Adds.queues (still rfl))
    next => exact fresh
  have handled := begun.trans (handleEvent_pops sagaClass now event {saga with tccRecordsCache := none}.start)
  unfold handle handleUnwinds
  dsimp only
  split
  next terminal => simpa [terminal] using fresh
  next live =>
    split
    next seen => simpa [seen] using fresh
    next unseen =>
      simp only [Bool.not_eq_true] at live unseen
      rw [live,unseen]
      split
      next left error same =>
        rw [same] at handled
        simpa using handled
      next left same =>
        rw [same] at handled
        obtain ⟨identity,pending,failures⟩ := markEventProcessed_frame left.state event.eventId
        let marked := left.state.markEventProcessed event.eventId
        have noted : Pops left {left with state := marked.recordStep marked.currentStep event.eventType} false :=
          Queues.pops (Adds.queues (still (by simp [watched,SagaState.recordStep,marked,identity,pending,failures])))
        simpa using handled.trans noted

end CqrsDdd.Sagas.Saga
