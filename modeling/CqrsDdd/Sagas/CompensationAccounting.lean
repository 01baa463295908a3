import CqrsDdd.Dict
import CqrsDdd.Sagas.Manager
import Mathlib.Data.List.Forall2
import Mathlib.Data.List.Induction

/-! The accounts of the compensation stack. The loop of `execute_compensations` pops the
records one by one, and each ends as a queued command or as a failed compensation;
the handlers that `on` builds push one record for each event that they have mapped. -/
namespace CqrsDdd.Sagas

variable {Data : Type}

/-- `hydrate_command` of a registry: it returns a command or `None`, or raises with a text. -/
abbrev Hydrate (Data : Type) := String → Data → Except String (Option (Command Data))

def MessageRegistry.hydrate (registry : MessageRegistry Data) : Hydrate Data :=
  fun commandType data => .ok (registry.hydrateCommand commandType data)

/-- The command of a record, or the text of the exception that the loop catches. -/
def CompensationRecord.restore (hydrate : Hydrate Data) (record : CompensationRecord Data) :
    Except String (Command Data) :=
  match hydrate record.commandType record.data with
  | .ok (some command) => .ok command
  | .ok none => .error (Saga.notRegistered record.commandType)
  | .error text => .error text

def CompensationRecord.command (hydrate : Hydrate Data) (record : CompensationRecord Data) : Option (Command Data) :=
  (record.restore hydrate).toOption

def CompensationRecord.failure (hydrate : Hydrate Data) (record : CompensationRecord Data) : Option FailedCompensation :=
  match record.restore hydrate with
  | .ok _ => none
  | .error text => some ⟨record.commandType,text⟩

/-- The saga inside the loop. -/
structure Compensating (Data : Type) where
  saga : Saga Data
  hasFailures : Bool

namespace Compensating

def withStack (current : Compensating Data) (stack : List (CompensationRecord Data)) : Compensating Data :=
  {current with saga := {current.saga with state := {current.saga.state with compensationStack := stack}}}

def compensate (hydrate : Hydrate Data) (current : Compensating Data) (record : CompensationRecord Data) :
    Compensating Data :=
  match record.restore hydrate with
  | .ok command =>
    {current with saga := {current.saga.dispatch command .compensation with
      popped := current.saga.popped ++ [(record,some current.saga.nextTag)]}}
  | .error text =>
    {saga := {current.saga with
      state := {current.saga.state with failedCompensations := current.saga.state.failedCompensations ++
        [⟨record.commandType,text⟩]}
      popped := current.saga.popped ++ [(record,none)]}
     hasFailures := true}

def loop (hydrate : Hydrate Data) : Nat → Compensating Data → Option (Compensating Data)
  | 0, _ => none
  | fuel+1, current =>
    match current.saga.state.compensationStack.getLast? with
    | none => some current
    | some record =>
      loop hydrate fuel ((current.withStack current.saga.state.compensationStack.dropLast).compensate hydrate record)

end Compensating

/-- `execute_compensations` with a registry. -/
def Saga.executeCompensationsWith (hydrate : Hydrate Data) (fuel : Nat) (saga : Saga Data) : Option (Saga Data) :=
  (Compensating.loop hydrate fuel ⟨saga.setStatus .compensating,false⟩).map fun ended =>
    ended.saga.setStatus (if ended.hasFailures then .failed else .compensated)

namespace Compensating

variable {hydrate : Hydrate Data}

theorem compensate_ok (current : Compensating Data) {record : CompensationRecord Data} {command : Command Data}
    (restored : record.restore hydrate = .ok command) : current.compensate hydrate record =
      {current with saga := {current.saga.dispatch command .compensation with
        popped := current.saga.popped ++ [(record,some current.saga.nextTag)]}} := by
  rw [compensate,restored]

theorem compensate_error (current : Compensating Data) {record : CompensationRecord Data} {text : String}
    (failed : record.restore hydrate = .error text) : current.compensate hydrate record =
      {saga := {current.saga with
        state := {current.saga.state with failedCompensations := current.saga.state.failedCompensations ++
          [⟨record.commandType,text⟩]}
        popped := current.saga.popped ++ [(record,none)]}
       hasFailures := true} := by
  rw [compensate,failed]

theorem compensate_withStack (current : Compensating Data) (record : CompensationRecord Data)
    (stack : List (CompensationRecord Data)) :
    (current.withStack stack).compensate hydrate record = (current.compensate hydrate record).withStack stack := by
  unfold compensate
  cases record.restore hydrate with
  | ok command => exact rfl
  | error text => exact rfl

theorem compensate_stack (current : Compensating Data) (record : CompensationRecord Data) :
    (current.compensate hydrate record).saga.state.compensationStack = current.saga.state.compensationStack := by
  unfold compensate
  cases record.restore hydrate with
  | ok command => exact rfl
  | error text => exact rfl

theorem loop_eq (hydrate : Hydrate Data) (current : Compensating Data) :
    loop hydrate (current.saga.state.compensationStack.length + 1) current =
      some (current.saga.state.compensationStack.reverse.foldl (compensate hydrate) (current.withStack [])) := by
  generalize size : current.saga.state.compensationStack = stack
  induction stack using List.reverseRecOn generalizing current with
  | nil =>
    rw [loop,size]
    have same : current = current.withStack [] := by
      rw [← size]
      exact rfl
    exact congrArg some same
  | append_singleton stack record ih =>
    rw [List.length_append,List.length_singleton,loop,size,List.getLast?_concat,List.dropLast_concat]
    have next := ih ((current.withStack stack).compensate hydrate record) (compensate_stack _ _)
    change loop hydrate (stack.length + 1) ((current.withStack stack).compensate hydrate record) = _
    rw [compensate_withStack] at next ⊢
    rw [List.reverse_append,List.reverse_singleton,List.singleton_append,List.foldl_cons,compensate_withStack]
    exact next

theorem foldl_accounts (hydrate : Hydrate Data) (records : List (CompensationRecord Data))
    (current : Compensating Data) :
    let ended := records.foldl (compensate hydrate) current
    ended.saga.state.compensationStack = current.saga.state.compensationStack ∧
      ended.saga.commandsToDispatch.map QueuedCommand.command =
        current.saga.commandsToDispatch.map QueuedCommand.command ++ records.filterMap (·.command hydrate) ∧
      ended.saga.state.failedCompensations =
        current.saga.state.failedCompensations ++ records.filterMap (·.failure hydrate) ∧
      ended.hasFailures = (current.hasFailures || records.any fun record => (record.failure hydrate).isSome) := by
  induction records generalizing current with
  | nil => simp
  | cons record rest ih =>
    obtain ⟨stack,queued,failed,flag⟩ := ih (current.compensate hydrate record)
    rw [compensate_stack] at stack
    rw [List.foldl_cons]
    cases restored : record.restore hydrate with
    | ok command =>
      have own : record.command hydrate = some command := congrArg Except.toOption restored
      have fine : record.failure hydrate = none := by rw [CompensationRecord.failure,restored]
      refine ⟨stack,queued.trans ?_,failed.trans ?_,flag.trans ?_⟩
      · simp [compensate_ok current restored,own,Saga.dispatch]
      · simp [compensate_ok current restored,fine,Saga.dispatch]
      · simp [compensate_ok current restored,fine]
    | error text =>
      have lost : record.command hydrate = none := congrArg Except.toOption restored
      have fails : record.failure hydrate = some ⟨record.commandType,text⟩ := by rw [CompensationRecord.failure,restored]
      refine ⟨stack,queued.trans ?_,failed.trans ?_,flag.trans ?_⟩
      · simp [compensate_error current restored,lost]
      · simp [compensate_error current restored,fails]
      · simp [compensate_error current restored,fails]

theorem compensate_registry (registry : MessageRegistry Data) (current : Compensating Data)
    (record : CompensationRecord Data) : current.compensate registry.hydrate record =
      ⟨Saga.popCompensation registry record current.saga,
        current.hasFailures || !Saga.hydratable registry record⟩ := by
  unfold Saga.popCompensation Saga.hydratable
  cases hydrated : registry.hydrateCommand record.commandType record.data with
  | none =>
    have failed : record.restore registry.hydrate = .error (Saga.notRegistered record.commandType) := by
      rw [CompensationRecord.restore,MessageRegistry.hydrate,hydrated]
    rw [compensate_error current failed]
    simp
  | some command =>
    have restored : record.restore registry.hydrate = .ok command := by
      rw [CompensationRecord.restore,MessageRegistry.hydrate,hydrated]
    rw [compensate_ok current restored]
    simp

theorem foldl_registry (registry : MessageRegistry Data) (records : List (CompensationRecord Data))
    (current : Compensating Data) : records.foldl (compensate registry.hydrate) current =
      ⟨records.foldl (fun saga record => Saga.popCompensation registry record saga) current.saga,
        current.hasFailures || !records.all (Saga.hydratable registry)⟩ := by
  induction records generalizing current with
  | nil => simp
  | cons record rest ih =>
    rw [List.foldl_cons,ih,compensate_registry]
    simp [Bool.or_assoc]

end Compensating

namespace Saga

structure Accounted (hydrate : Hydrate Data) (before after : Saga Data) : Prop where
  emptied : after.state.compensationStack = []
  queued : after.commandsToDispatch.map QueuedCommand.command =
    before.commandsToDispatch.map QueuedCommand.command ++
      before.state.compensationStack.reverse.filterMap (·.command hydrate)
  failed : after.state.failedCompensations = before.state.failedCompensations ++
    before.state.compensationStack.reverse.filterMap (·.failure hydrate)
  status : after.state.status =
    if before.state.compensationStack.any fun record => (record.failure hydrate).isSome then .failed else .compensated

theorem executeCompensationsWith_accounted (hydrate : Hydrate Data) (saga : Saga Data) :
    ∃ after, saga.executeCompensationsWith hydrate (saga.state.compensationStack.length + 1) = some after ∧
      Accounted hydrate saga after := by
  have ended := Compensating.loop_eq hydrate ⟨saga.setStatus .compensating,false⟩
  obtain ⟨stack,queued,failed,flag⟩ := Compensating.foldl_accounts hydrate
    saga.state.compensationStack.reverse (Compensating.withStack ⟨saga.setStatus .compensating,false⟩ [])
  refine ⟨_,congrArg (Option.map _) ended,stack,queued,failed,?_⟩
  rw [List.any_reverse] at flag
  change (if (List.foldl _ _ _ : Compensating Data).hasFailures then _ else _) = _
  exact congrArg (fun failures : Bool => if failures then SagaStatus.failed else .compensated) flag

theorem executeCompensationsWith_registry {registry : MessageRegistry Data} {saga : Saga Data}
    (same : saga.messageRegistry = some registry) :
    saga.executeCompensationsWith registry.hydrate (saga.state.compensationStack.length + 1) =
      some saga.executeCompensations.1 := by
  obtain ⟨state,messageRegistry,registered,queue,cache,nextTag,popped⟩ := saga
  cases same
  have ended := Compensating.loop_eq registry.hydrate
    ⟨setStatus ⟨state,some registry,registered,queue,cache,nextTag,popped⟩ .compensating,false⟩
  rw [Compensating.foldl_registry] at ended
  refine (congrArg (Option.map _) ended).trans ?_
  have outcome (fine : Bool) : (if (false || !fine) = true then SagaStatus.failed else .compensated) =
      if fine = true then .compensated else .failed := by
    cases fine <;> exact rfl
  exact congrArg some (congrArg (setStatus _) (outcome _))

end Saga

/-- The arguments that `on` captures in the handler it builds. The two callables may raise. -/
structure CommandMapping (Data : Type) where
  send : DomainEvent Data → Except String (Command Data)
  step : Option String
  compensate : Option (DomainEvent Data → Except String (Command Data))
  compensateDescription : String
  complete : Bool

namespace CommandMapping

def finish (mapping : CommandMapping Data) : List (SagaAction Data) :=
  if mapping.complete then [.complete] else []

/-- What the handler does once the command is queued. -/
def compensated (mapping : CommandMapping Data) (event : DomainEvent Data) : List (SagaAction Data) :=
  match mapping.compensate with
  | none => mapping.finish
  | some undo =>
    match undo event with
    | .ok command => .addCompensation command mapping.compensateDescription::mapping.finish
    | .error text => [.raise text]

def handler (mapping : CommandMapping Data) : EventHandler Data := fun _ event _ =>
  mapping.step.toList.map SagaAction.setStep ++
    match mapping.send event with
    | .ok command => .dispatch command::mapping.compensated event
    | .error text => [.raise text]

theorem handler_eq_mappedHandler (send : DomainEvent Data → Command Data) (step : Option String)
    (compensate : Option (DomainEvent Data → Command Data)) (description : String) (complete : Bool) :
    handler ⟨fun event => .ok (send event),step,compensate.map fun undo event => .ok (undo event),description,complete⟩ =
      mappedHandler send step compensate description complete := by
  ext now event state
  cases compensate with
  | none => simp [handler,mappedHandler,compensated,finish]
  | some undo => simp [handler,mappedHandler,compensated,finish]

/-- A record undoes an event where it holds the command that `compensate` made of it. -/
def Undoes (mapping : CommandMapping Data) (event : DomainEvent Data) (record : CompensationRecord Data) : Prop :=
  ∃ undo command, mapping.compensate = some undo ∧ undo event = .ok command ∧
    record = ⟨command.typeName,command.moduleName,command.data,mapping.compensateDescription⟩

/-- What the handler adds to the stack when it runs to its end, and when it raises. -/
inductive Adds (mapping : CommandMapping Data) (event : DomainEvent Data) :
    Option SagaError → List (CompensationRecord Data) → Prop
  | undeclared (absent : mapping.compensate = none) : Adds mapping event none []
  | pushed {record} (undoes : mapping.Undoes event record) : Adds mapping event none [record]
  | raised (error : SagaError) : Adds mapping event (some error) []

end CommandMapping

namespace Saga

theorem perform_setStep (now : Int) (saga : Saga Data) (step : Option String) (actions : List (SagaAction Data)) :
    ∃ moved : Saga Data, moved.state.compensationStack = saga.state.compensationStack ∧
      saga.perform now (step.toList.map SagaAction.setStep ++ actions) = moved.perform now actions := by
  cases step with
  | none => exact ⟨saga,rfl,rfl⟩
  | some step => exact ⟨saga.setCurrentStep step,rfl,rfl⟩

theorem perform_finish (now : Int) (saga : Saga Data) (mapping : CommandMapping Data) :
    (saga.perform now mapping.finish).1.state.compensationStack = saga.state.compensationStack ∧
      (saga.perform now mapping.finish).2 = none := by
  unfold CommandMapping.finish
  split
  next => exact ⟨rfl,rfl⟩
  next => exact ⟨rfl,rfl⟩

theorem perform_compensated (now : Int) (saga : Saga Data) (mapping : CommandMapping Data)
    (event : DomainEvent Data) :
    let performed := saga.perform now (mapping.compensated event)
    ∃ added, performed.1.state.compensationStack = saga.state.compensationStack ++ added ∧
      mapping.Adds event performed.2 added := by
  cases declared : mapping.compensate with
  | none =>
    have actions : mapping.compensated event = mapping.finish := by rw [CommandMapping.compensated,declared]
    obtain ⟨stack,ended⟩ := saga.perform_finish now mapping
    dsimp only
    rw [actions,ended]
    exact ⟨[],stack.trans (List.append_nil _).symm,.undeclared declared⟩
  | some undo =>
    cases made : undo event with
    | error text =>
      have actions : mapping.compensated event = [.raise text] := by simp only [CommandMapping.compensated,declared,made]
      rw [actions]
      exact ⟨[],(List.append_nil _).symm,.raised _⟩
    | ok command =>
      have actions : mapping.compensated event =
          .addCompensation command mapping.compensateDescription::mapping.finish := by
        simp only [CommandMapping.compensated,declared,made]
      obtain ⟨stack,ended⟩ := (saga.addCompensation command mapping.compensateDescription).perform_finish now mapping
      rw [actions]
      refine ⟨_,stack,?_⟩
      change mapping.Adds event (perform now mapping.finish _).2 _
      rw [ended]
      exact .pushed ⟨undo,command,declared,made,rfl⟩

theorem perform_handler (now : Int) (saga : Saga Data) (mapping : CommandMapping Data)
    (event : DomainEvent Data) (state : SagaState Data) :
    let performed := saga.perform now (mapping.handler now event state)
    ∃ added, performed.1.state.compensationStack = saga.state.compensationStack ++ added ∧
      mapping.Adds event performed.2 added := by
  unfold CommandMapping.handler
  obtain ⟨moved,stack,moves⟩ := saga.perform_setStep now mapping.step (match mapping.send event with
    | .ok command => .dispatch command::mapping.compensated event
    | .error text => [.raise text])
  rw [moves,← stack]
  cases mapping.send event with
  | error text => exact ⟨[],(List.append_nil _).symm,.raised _⟩
  | ok command => exact (moved.dispatch command .handler).perform_compensated now mapping event

end Saga

/-- The class whose handlers were all built by `on`, a later call replacing the earlier one of its event type. -/
def SagaClass.mapped (sagaClass : SagaClass Data) (mappings : Dict String (CommandMapping Data)) : SagaClass Data :=
  {sagaClass with eventHandlers := mappings.entries.map fun entry => (entry.1,entry.2.handler)}

namespace Saga

/-- The event gets past the checks of `handle`. -/
def admits (saga : Saga Data) (event : DomainEvent Data) : Bool :=
  !(saga.state.isTerminal || saga.state.isEventProcessed event.eventId)

def mappedEvents (sagaClass : SagaClass Data) : Saga Data → List (Int × DomainEvent Data) → List (DomainEvent Data)
  | _, [] => []
  | saga, (now,event)::rest =>
    let handled := saga.handle sagaClass now event
    (if saga.admits event && handled.2.isNone then [event] else []) ++ mappedEvents sagaClass handled.1 rest

def handleAll (sagaClass : SagaClass Data) (saga : Saga Data) (deliveries : List (Int × DomainEvent Data)) : Saga Data :=
  deliveries.foldl (fun current delivery => (current.handle sagaClass delivery.1 delivery.2).1) saga

def declares (mappings : Dict String (CommandMapping Data)) (event : DomainEvent Data) : Bool :=
  ((mappings.get event.eventType).bind (·.compensate)).isSome

def Undoes (mappings : Dict String (CommandMapping Data)) (event : DomainEvent Data)
    (record : CompensationRecord Data) : Prop :=
  ∃ mapping, mappings.get event.eventType = some mapping ∧ mapping.Undoes event record

theorem marked_stack (state : SagaState Data) (eventId : String) :
    (state.markEventProcessed eventId).compensationStack = state.compensationStack := by
  unfold SagaState.markEventProcessed
  split
  next => exact rfl
  next => exact rfl

theorem handleEvent_stack (sagaClass : SagaClass Data) (mappings : Dict String (CommandMapping Data)) (now : Int)
    (event : DomainEvent Data) (saga : Saga Data) :
    let handled := saga.handleEvent (sagaClass.mapped mappings) now event
    ∃ added, handled.1.state.compensationStack = saga.state.compensationStack ++ added ∧
      List.Forall₂ (Undoes mappings)
        ((if handled.2.isNone then [event] else []).filter (declares mappings)) added := by
  have found := Dict.lookup_map mappings.entries CommandMapping.handler event.eventType
  cases known : mappings.get event.eventType with
  | none =>
    have absent : (sagaClass.mapped mappings).eventHandlers.lookup event.eventType = none := by
      exact found.trans (congrArg (Option.map _) known)
    rw [handleEvent,absent]
    exact ⟨[],(List.append_nil _).symm,.nil⟩
  | some mapping =>
    have present : (sagaClass.mapped mappings).eventHandlers.lookup event.eventType = some mapping.handler := by
      exact found.trans (congrArg (Option.map _) known)
    obtain ⟨added,stack,adds⟩ := saga.perform_handler now mapping event saga.state
    rw [handleEvent,present]
    refine ⟨added,stack,?_⟩
    dsimp only
    generalize (saga.perform now (mapping.handler now event saga.state)).2 = outcome at adds ⊢
    cases adds with
    | undeclared absent =>
      have silent : declares mappings event = false := by simp [declares,known,absent]
      simp [silent]
    | pushed undoes =>
      have declared : declares mappings event = true := by
        obtain ⟨undo,command,own,_⟩ := undoes
        simp [declares,known,own]
      have pushed : List.Forall₂ (Undoes mappings) [event] [_] := .cons ⟨mapping,known,undoes⟩ .nil
      simpa [declared] using pushed
    | raised error => exact .nil

theorem handle_stack (sagaClass : SagaClass Data) (mappings : Dict String (CommandMapping Data)) (now : Int)
    (event : DomainEvent Data) (saga : Saga Data) :
    let handled := saga.handle (sagaClass.mapped mappings) now event
    ∃ added, handled.1.state.compensationStack = saga.state.compensationStack ++ added ∧
      List.Forall₂ (Undoes mappings)
        ((if saga.admits event && handled.2.isNone then [event] else []).filter (declares mappings)) added := by
  unfold admits
  cases terminal : saga.state.isTerminal with
  | true =>
    rw [handle,if_pos terminal]
    exact ⟨[],(List.append_nil _).symm,.nil⟩
  | false =>
  cases processed : saga.state.isEventProcessed event.eventId with
  | true =>
    rw [handle,if_neg (by simp [terminal]),if_pos processed]
    exact ⟨[],(List.append_nil _).symm,.nil⟩
  | false =>
  rw [handle,if_neg (by simp [terminal]),if_neg (by simp [processed])]
  have begun : ({saga with tccRecordsCache := none} : Saga Data).start.state.compensationStack =
      saga.state.compensationStack := by
    unfold start
    split
    next => exact rfl
    next => exact rfl
  obtain ⟨added,stack,undone⟩ := ({saga with tccRecordsCache := none} : Saga Data).start.handleEvent_stack
    sagaClass mappings now event
  rw [begun] at stack
  refine ⟨added,?_⟩
  generalize ({saga with tccRecordsCache := none} : Saga Data).start.handleEvent (sagaClass.mapped mappings) now event =
    handled at stack undone ⊢
  obtain ⟨left,outcome⟩ := handled
  cases outcome with
  | none => exact ⟨(marked_stack left.state event.eventId).trans stack,undone⟩
  | some error => exact ⟨stack,undone⟩

theorem handleAll_stack (sagaClass : SagaClass Data) (mappings : Dict String (CommandMapping Data))
    (deliveries : List (Int × DomainEvent Data)) (saga : Saga Data) :
    ∃ records, (saga.handleAll (sagaClass.mapped mappings) deliveries).state.compensationStack =
        saga.state.compensationStack ++ records ∧
      List.Forall₂ (Undoes mappings)
        ((saga.mappedEvents (sagaClass.mapped mappings) deliveries).filter (declares mappings)) records := by
  induction deliveries generalizing saga with
  | nil => exact ⟨[],(List.append_nil _).symm,.nil⟩
  | cons delivery rest ih =>
    obtain ⟨now,event⟩ := delivery
    obtain ⟨added,stack,undone⟩ := saga.handle_stack sagaClass mappings now event
    obtain ⟨later,stacked,undoneLater⟩ := ih (saga.handle (sagaClass.mapped mappings) now event).1
    refine ⟨added ++ later,?_,?_⟩
    · rw [← List.append_assoc,← stack]
      exact stacked
    · rw [mappedEvents,List.filter_append]
      exact List.rel_append undone undoneLater

/-- The compensations of every stack are accounted for, and the stack is that of the mapped events. -/
theorem compensations_accounted (sagaClass : SagaClass Data) (mappings : Dict String (CommandMapping Data)) :
    (∀ (hydrate : Hydrate Data) (saga : Saga Data), ∃ after,
      saga.executeCompensationsWith hydrate (saga.state.compensationStack.length + 1) = some after ∧
        Accounted hydrate saga after) ∧
    ∀ (saga : Saga Data) (deliveries : List (Int × DomainEvent Data)),
      ∃ records, (saga.handleAll (sagaClass.mapped mappings) deliveries).state.compensationStack =
          saga.state.compensationStack ++ records ∧
        List.Forall₂ (Undoes mappings)
          ((saga.mappedEvents (sagaClass.mapped mappings) deliveries).filter (declares mappings)) records :=
  ⟨executeCompensationsWith_accounted,fun saga deliveries => saga.handleAll_stack sagaClass mappings deliveries⟩

end Saga

end CqrsDdd.Sagas
