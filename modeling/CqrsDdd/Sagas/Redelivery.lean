import CqrsDdd.Sagas.CommandDelivery
import CqrsDdd.Sagas.Frames
import CqrsDdd.Sagas.Retagging

/-! A delivery whose handler raised, and the same event delivered again with handlers that
return. The manager stores the state as the failed handler left it, so the second delivery
goes as the first one should have exactly where the failed handler left nothing behind. -/
namespace CqrsDdd.Sagas

variable {Data : Type}

/-- What is compared of a stored saga. The numbers of its pending commands are history. -/
structure StateTrace (Data : Type) where
  status : SagaStatus
  currentStep : String
  compensationStack : List (CompensationRecord Data)
  pendingCommands : List (Command Data × Bool)
  tccSteps : List (TCCStepRecord Data)
  deriving DecidableEq, Repr

def SagaState.trace (state : SagaState Data) : StateTrace Data where
  status := state.status
  currentStep := state.currentStep
  compensationStack := state.compensationStack
  pendingCommands := state.pendingCommands.map fun entry => (entry.queued.command,entry.dispatched)
  tccSteps := state.tccSteps

def SagaClass.healed (sagaClass : SagaClass Data) (eventHandlers : List (String × EventHandler Data)) :
    SagaClass Data := {sagaClass with eventHandlers := eventHandlers}

namespace World

theorem find_add {world : World Data} (keyed : ∀ id stored, world.repository.get id = some stored → stored.id = id)
    {correlationId sagaType : String}
    {state : SagaState Data} (wanted : state.correlationId = correlationId ∧ state.sagaType = sagaType)
    (first : ∀ old, world.findByCorrelationId correlationId sagaType = some old → old.id = state.id) :
    (world.add state).findByCorrelationId correlationId sagaType = some state := by
  refine Dict.find_put (by simp [wanted]) fun old found entry member same => ?_
  rw [← first old found,← same]
  exact (keyed entry.1 entry.2 (world.repository.mem_iff_get.mp member)).symm

theorem found_matches {world : World Data} {correlationId sagaType : String} {state : SagaState Data}
    (found : world.findByCorrelationId correlationId sagaType = some state) :
    state.correlationId = correlationId ∧ state.sagaType = sagaType := by
  simpa using List.find?_some found

end World

namespace SagaManager

theorem loadOrCreate_finds (sagaClass : SagaClass Data) (correlationId : String) (event : DomainEvent Data)
    {world : World Data} (formed : world.WellFormed) :
    (loadOrCreate sagaClass correlationId event world).2.findByCorrelationId correlationId sagaClass.name =
      some (loadOrCreate sagaClass correlationId event world).1 := by
  unfold loadOrCreate
  split
  next state found => exact found
  next absent =>
    refine World.find_add (fun id stored present => (formed.stored id stored present).1) ?_ fun old found => ?_
    · dsimp only [injectTenantMetadata]
      split
      next => split <;> exact ⟨rfl,rfl⟩
      next => exact ⟨rfl,rfl⟩
    · exact absurd (absent.symm.trans found) (by simp)

section Delivered

variable (manager : SagaManager Data) (sagaClass : SagaClass Data) (correlationId : String) (now : Int)
  (event : DomainEvent Data) (world : World Data)

def started : Saga Data :=
  let loaded := loadOrCreate sagaClass correlationId event world
  (manager.instantiate sagaClass loaded.1 loaded.2).start

/-- The actions the handler performs, up to the one that raises, leave the state as the handler found it. -/
def LeavesUntouched : Prop :=
  ((started manager sagaClass correlationId event world).handleEvent sagaClass now event).1.start.state =
    (started manager sagaClass correlationId event world).state

def Open : Prop :=
  let loaded := loadOrCreate sagaClass correlationId event world
  loaded.1.isTerminal = false ∧ loaded.1.isEventProcessed event.eventId = false

def closed (event : DomainEvent Data) (saga : Saga Data) : Saga Data :=
  let marked := saga.state.markEventProcessed event.eventId
  {saga with state := marked.recordStep marked.currentStep event.eventType}

theorem handle_open {saga : Saga Data} (idle : saga.tccRecordsCache = none) (active : saga.state.isTerminal = false)
    (unseen : saga.state.isEventProcessed event.eventId = false) (left : Saga Data) (outcome : Option SagaError)
    (handled : saga.start.handleEvent sagaClass now event = (left,outcome)) :
    saga.handle sagaClass now event = (if outcome.isNone then closed event left else left,outcome) := by
  have fresh : {saga with tccRecordsCache := none} = saga := by rw [← idle]
  unfold Saga.handle
  dsimp only
  rw [active,unseen,fresh,handled]
  cases outcome with
  | some error => rfl
  | none => rfl

theorem handle_seen {saga : Saga Data} (active : saga.state.isTerminal = false)
    (seen : saga.state.isEventProcessed event.eventId = true) :
    saga.handle sagaClass now event = ({saga with tccRecordsCache := none},none) := by
  unfold Saga.handle
  dsimp only
  rw [active,seen]
  rfl

theorem processSaga_open (active : Open sagaClass correlationId event world) (left : Saga Data)
    (outcome : Option SagaError)
    (handled : (started manager sagaClass correlationId event world).handleEvent sagaClass now event = (left,outcome)) :
    manager.processSaga sagaClass correlationId now event world =
      outcome.elim
        (manager.deliver (closed event left)
          ((loadOrCreate sagaClass correlationId event world).2.absorb (closed event left)))
        (fun error => (((loadOrCreate sagaClass correlationId event world).2.absorb left).add left.state,
          .error (.saga error))) := by
  have whole := handle_open sagaClass now event rfl active.1 active.2 left outcome handled
  unfold processSaga
  dsimp only
  rw [if_neg (by rw [active.1]; exact Bool.false_ne_true),whole]
  cases outcome with
  | some error => rfl
  | none => rfl

theorem markDispatched_trace (index : Nat) {first second : SagaState Data} (same : second.trace = first.trace) :
    (markDispatched index second).trace = (markDispatched index first).trace := by
  have mark (state : SagaState Data) : (markDispatched index state).trace = {state.trace with
      pendingCommands := state.trace.pendingCommands.modify index fun entry => (entry.1,true)} := by
    simp only [SagaState.trace,markDispatched,StateTrace.mk.injEq,true_and,and_true]
    apply List.ext_getElem?
    intro position
    simp only [List.getElem?_map,List.getElem?_modify]
    cases state.pendingCommands[position]? with
    | none => rfl
    | some entry =>
      by_cases hit : index = position
      · simp [hit]
      · simp [hit]
  rw [mark,mark,same]

theorem dispatch_trace (index : Nat) (commands others : List (QueuedCommand Data))
    (queue : others.map Saga.unnumbered = commands.map Saga.unnumbered) {first second : SagaState Data}
    (same : second.trace = first.trace) (before other : World Data) (turns : other.attempts = before.attempts) :
    (manager.dispatchAndPersistCommands index others second other).1 =
        (manager.dispatchAndPersistCommands index commands first before).1 ∧
      (manager.dispatchAndPersistCommands index others second other).2.1.trace =
        (manager.dispatchAndPersistCommands index commands first before).2.1.trace := by
  induction commands generalizing index others first second before other with
  | nil =>
    obtain rfl : others = [] := by simpa using queue
    exact ⟨rfl,same⟩
  | cons command rest ih =>
    cases others with
    | nil => cases queue
    | cons another others =>
      obtain ⟨_,tail⟩ := List.cons.inj queue
      cases answer : manager.commandBus before.attempts with
      | false =>
        simp only [dispatchAndPersistCommands,send_eq,turns,answer]
        exact ⟨trivial,same⟩
      | true =>
        simp only [dispatchAndPersistCommands,send_eq,turns,answer]
        exact ih (index+1) others tail (markDispatched_trace index same) _ _ rfl

theorem deliver_final (saga : Saga Data) : (manager.deliver saga world).1.repository.get saga.state.id =
    some (if (manager.dispatchAndPersistCommands 0 saga.commandsToDispatch (awaiting saga) (noted saga world)).1 then
      clearPending (manager.dispatchAndPersistCommands 0 saga.commandsToDispatch (awaiting saga) (noted saga world)).2.1
    else (manager.dispatchAndPersistCommands 0 saga.commandsToDispatch (awaiting saga) (noted saga world)).2.1) := by
  obtain ⟨_,spec⟩ := dispatch_spec manager 0 saga.commandsToDispatch (awaiting saga) (noted saga world)
  have found : (noted saga world).repository.get (awaiting saga).id = some (awaiting saga) := Dict.get_set_same _ _ _
  rcases result : manager.dispatchAndPersistCommands 0 saga.commandsToDispatch (awaiting saga) (noted saga world)
    with ⟨done,marked,after⟩
  rw [result] at spec
  cases done with
  | false =>
    rw [deliver_stalled result]
    exact spec.stored found
  | true =>
    have identity : marked.id = saga.state.id := by
      have same := congrArg SagaState.id spec.rest
      exact same
    rw [deliver_dispatched result,← identity]
    exact Dict.get_set_same _ _ _

theorem deliver_trace {first second : Saga Data} (alike : first.Alike second) (before other : World Data)
    (turns : other.attempts = before.attempts) :
    ((manager.deliver second other).1.repository.get first.state.id).map SagaState.trace =
      ((manager.deliver first before).1.repository.get first.state.id).map SagaState.trace := by
  have waiting : (awaiting second).trace = (awaiting first).trace := by
    have queued : (second.commandsToDispatch.map serializeCommandForPending).map
        (fun entry => (entry.queued.command,entry.dispatched)) =
        (first.commandsToDispatch.map serializeCommandForPending).map
        fun entry => (entry.queued.command,entry.dispatched) := by
      have commands := congrArg (List.map fun entry => (entry.1,false)) alike.queue
      simpa [List.map_map,Function.comp_def,Saga.unnumbered,serializeCommandForPending] using commands
    simp only [SagaState.trace,awaiting,List.map_append,queued,alike.state]
  obtain ⟨flag,marked⟩ := dispatch_trace manager 0 first.commandsToDispatch second.commandsToDispatch alike.queue
    waiting (noted first before) (noted second other) turns
  have last := deliver_final manager other second
  rw [alike.state] at last
  rw [last,deliver_final,flag,Option.map_some,Option.map_some]
  split
  next =>
    have cleared := congrArg (fun trace : StateTrace Data => {trace with pendingCommands := []}) marked
    exact congrArg some cleared
  next => exact congrArg some marked

theorem deliver_outcome (saga : Saga Data) (raised : SagaError) :
    (manager.deliver saga world).2 ≠ .error (.saga raised) := by
  unfold deliver
  dsimp only
  split
  next => exact fun same => (nomatch same)
  next => exact fun same => (nomatch same)

theorem processSaga_failed {error : SagaError}
    (failed : (manager.processSaga sagaClass correlationId now event world).2 = .error (.saga error)) :
    Open sagaClass correlationId event world ∧
      ((started manager sagaClass correlationId event world).handleEvent sagaClass now event).2 = some error := by
  cases terminal : (loadOrCreate sagaClass correlationId event world).1.isTerminal with
  | true =>
    rw [processSaga,if_pos terminal] at failed
    cases failed
  | false =>
    cases seen : (loadOrCreate sagaClass correlationId event world).1.isEventProcessed event.eventId with
    | true =>
      rw [processSaga,if_neg (by rw [terminal]; exact Bool.false_ne_true)] at failed
      rw [handle_seen sagaClass now event terminal seen] at failed
      exact absurd failed (deliver_outcome manager _ _ error)
    | false =>
      have active : Open sagaClass correlationId event world := ⟨terminal,seen⟩
      refine ⟨active,?_⟩
      rcases handled : (started manager sagaClass correlationId event world).handleEvent sagaClass now event
        with ⟨left,outcome⟩
      rw [processSaga_open manager sagaClass correlationId now event world active left outcome handled] at failed
      cases outcome with
      | some raised =>
        cases failed
        rfl
      | none => exact absurd failed (deliver_outcome manager _ _ error)

theorem failed_world {error : SagaError} (formed : world.WellFormed)
    (failed : (manager.processSaga sagaClass correlationId now event world).2 = .error (.saga error)) :
    let left := ((started manager sagaClass correlationId event world).handleEvent sagaClass now event).1
    let after := (manager.processSaga sagaClass correlationId now event world).1
    after.findByCorrelationId correlationId sagaClass.name = some left.state ∧
      after.repository.get left.state.id = some left.state ∧
      after.attempts = (loadOrCreate sagaClass correlationId event world).2.attempts ∧
      left.fixed = (started manager sagaClass correlationId event world).fixed := by
  have loaded := loadOrCreate_loaded sagaClass correlationId event world formed
  have found := loadOrCreate_finds sagaClass correlationId event formed
  obtain ⟨active,raised⟩ := processSaga_failed manager sagaClass correlationId now event world failed
  have fixed := Saga.handleEvent_fixed sagaClass now event (started manager sagaClass correlationId event world)
  have begun : (started manager sagaClass correlationId event world).fixed =
      (manager.instantiate sagaClass (loadOrCreate sagaClass correlationId event world).1
        (loadOrCreate sagaClass correlationId event world).2).fixed := Saga.start_fixed _
  rcases handled : (started manager sagaClass correlationId event world).handleEvent sagaClass now event
    with ⟨left,outcome⟩
  rw [handled] at raised fixed
  obtain rfl : outcome = some error := raised
  rw [processSaga_open manager sagaClass correlationId now event world active left (some error) handled]
  have same := fixed.trans begun
  simp only [Saga.fixed,Prod.mk.injEq] at same
  obtain ⟨identity,sagaType,correlation,_⟩ := same
  change left.state.id = (loadOrCreate sagaClass correlationId event world).1.id at identity
  refine ⟨?_,Dict.get_set_same _ _ _,rfl,fixed⟩
  obtain ⟨correlated,typed⟩ := World.found_matches found
  have wanted : left.state.correlationId = correlationId ∧ left.state.sagaType = sagaClass.name :=
    ⟨correlation.trans correlated,sagaType.trans typed⟩
  refine World.find_add (fun id stored present => (loaded.formed.stored id stored present).1) wanted
    fun old first => ?_
  have same : some old = some (loadOrCreate sagaClass correlationId event world).1 := first.symm.trans found
  rw [Option.some.inj same,identity]

theorem closed_alike {first second : Saga Data} (alike : first.Alike second) :
    (closed event first).Alike (closed event second) := by
  unfold closed
  dsimp only
  rw [alike.state]
  exact ⟨rfl,alike.registry,alike.registered,alike.cache,alike.queue⟩

theorem closed_id (saga : Saga Data) : (closed event saga).state.id = saga.state.id :=
  (Saga.markEventProcessed_frame saga.state event.eventId).1

theorem started_id : (started manager sagaClass correlationId event world).state.id =
    (loadOrCreate sagaClass correlationId event world).1.id :=
  congrArg Prod.fst (Saga.start_fixed (manager.instantiate sagaClass (loadOrCreate sagaClass correlationId event world).1
    (loadOrCreate sagaClass correlationId event world).2))

theorem handled_id {left : Saga Data} {outcome : Option SagaError}
    (handled : (started manager sagaClass correlationId event world).handleEvent sagaClass now event = (left,outcome)) :
    left.state.id = (loadOrCreate sagaClass correlationId event world).1.id := by
  have fixed := Saga.handleEvent_fixed sagaClass now event (started manager sagaClass correlationId event world)
  rw [handled] at fixed
  exact (congrArg Prod.fst fixed).trans (started_id manager sagaClass correlationId event world)

theorem processSaga_trace {other : World Data} (active : Open sagaClass correlationId event world)
    (again : Open sagaClass correlationId event other)
    (alike : (started manager sagaClass correlationId event world).Alike
      (started manager sagaClass correlationId event other))
    (turns : (loadOrCreate sagaClass correlationId event other).2.attempts =
      (loadOrCreate sagaClass correlationId event world).2.attempts)
    (returned : ∀ raised, (manager.processSaga sagaClass correlationId now event other).2 ≠ .error (.saga raised)) :
    ((manager.processSaga sagaClass correlationId now event other).1.repository.get
        (loadOrCreate sagaClass correlationId event world).1.id).map SagaState.trace =
      ((manager.processSaga sagaClass correlationId now event world).1.repository.get
        (loadOrCreate sagaClass correlationId event world).1.id).map SagaState.trace := by
  obtain ⟨left,right,outcome,handled,handled',both⟩ := (alike.handleEvent sagaClass now event).split
  have whole := processSaga_open manager sagaClass correlationId now event world active left outcome handled
  have redone := processSaga_open manager sagaClass correlationId now event other again right outcome handled'
  cases outcome with
  | some error => exact absurd (congrArg Prod.snd redone) (returned error)
  | none =>
    have identity := (closed_id event left).trans (handled_id manager sagaClass correlationId now event world handled)
    rw [whole,redone,← identity]
    exact deliver_trace manager (closed_alike event both) _ _ turns

theorem start_state {first second : Saga Data} (same : second.state = first.state) :
    second.start.state = first.start.state := by
  unfold Saga.start
  rw [same]
  split
  next => exact congrArg (fun state : SagaState Data => {state with status := .running}) same
  next => exact same

theorem start_rest (saga : Saga Data) : {saga.start with state := saga.state} = saga := by
  unfold Saga.start
  split
  next => rfl
  next => rfl

theorem instantiate_alike {first second : SagaState Data} {before after : World Data}
    (same : (manager.instantiate sagaClass second after).start.state =
      (manager.instantiate sagaClass first before).start.state) :
    (manager.instantiate sagaClass first before).start.Alike (manager.instantiate sagaClass second after).start := by
  have left := start_rest (manager.instantiate sagaClass first before)
  have right := start_rest (manager.instantiate sagaClass second after)
  refine ⟨same,?_,?_,?_,?_⟩
  · exact (congrArg Saga.messageRegistry right).trans (congrArg Saga.messageRegistry left).symm
  · exact (congrArg Saga.registered right).trans (congrArg Saga.registered left).symm
  · exact (congrArg Saga.tccRecordsCache right).trans (congrArg Saga.tccRecordsCache left).symm
  · exact congrArg (List.map Saga.unnumbered)
      ((congrArg Saga.commandsToDispatch right).trans (congrArg Saga.commandsToDispatch left).symm)

theorem start_terminal (saga : Saga Data) : saga.start.state.isTerminal = saga.state.isTerminal := by
  unfold Saga.start
  split
  next waits => simp [SagaState.isTerminal,Saga.setStatus,waits]
  next => rfl

/-- After the failed delivery every redelivery whose handlers return leaves the saga as it
would have, had the failed delivery not happened. -/
def Traceless : Prop :=
  let sagaId := (loadOrCreate sagaClass correlationId event world).1.id
  let failed := (manager.processSaga sagaClass correlationId now event world).1
  ∀ eventHandlers later,
    (∀ raised, (manager.processSaga (sagaClass.healed eventHandlers) correlationId later event failed).2 ≠
      .error (.saga raised)) →
    ((manager.processSaga (sagaClass.healed eventHandlers) correlationId later event failed).1.repository.get
        sagaId).map SagaState.trace =
      ((manager.processSaga (sagaClass.healed eventHandlers) correlationId later event world).1.repository.get
        sagaId).map SagaState.trace

theorem reloaded {error : SagaError} (formed : world.WellFormed)
    (failed : (manager.processSaga sagaClass correlationId now event world).2 = .error (.saga error))
    (eventHandlers : List (String × EventHandler Data)) :
    loadOrCreate (sagaClass.healed eventHandlers) correlationId event
        (manager.processSaga sagaClass correlationId now event world).1 =
      (((started manager sagaClass correlationId event world).handleEvent sagaClass now event).1.state,
        (manager.processSaga sagaClass correlationId now event world).1) := by
  have found := (failed_world manager sagaClass correlationId now event world formed failed).1
  unfold loadOrCreate
  change _ = some _ at found
  rw [show (sagaClass.healed eventHandlers).name = sagaClass.name from rfl,found]

theorem reopened {error : SagaError} (formed : world.WellFormed)
    (failed : (manager.processSaga sagaClass correlationId now event world).2 = .error (.saga error))
    (eventHandlers : List (String × EventHandler Data))
    (live : ((started manager sagaClass correlationId event world).handleEvent sagaClass now
      event).1.state.isTerminal = false) :
    Open (sagaClass.healed eventHandlers) correlationId event
      (manager.processSaga sagaClass correlationId now event world).1 := by
  have fixed := (failed_world manager sagaClass correlationId now event world formed failed).2.2.2
  have begun := Saga.start_fixed (manager.instantiate sagaClass
    (loadOrCreate sagaClass correlationId event world).1 (loadOrCreate sagaClass correlationId event world).2)
  have active := (processSaga_failed manager sagaClass correlationId now event world failed).1
  have same := fixed.trans begun
  simp only [Saga.fixed,Prod.mk.injEq] at same
  obtain ⟨_,_,_,ids,_⟩ := same
  unfold Open
  rw [reloaded manager sagaClass correlationId now event world formed failed eventHandlers]
  refine ⟨live,?_⟩
  rw [SagaState.isEventProcessed,ids]
  exact active.2

theorem traceless_of_untouched {error : SagaError} (formed : world.WellFormed)
    (failed : (manager.processSaga sagaClass correlationId now event world).2 = .error (.saga error))
    (untouched : LeavesUntouched manager sagaClass correlationId now event world) :
    Traceless manager sagaClass correlationId now event world := by
  intro eventHandlers later returned
  obtain ⟨_,_,turns,_⟩ := failed_world manager sagaClass correlationId now event world formed failed
  have active := (processSaga_failed manager sagaClass correlationId now event world failed).1
  have loaded := reloaded manager sagaClass correlationId now event world formed failed eventHandlers
  have again := reopened manager sagaClass correlationId now event world formed failed eventHandlers (by
    rw [← start_terminal,untouched,started,start_terminal]
    exact active.1)
  have alike : (started manager (sagaClass.healed eventHandlers) correlationId event world).Alike
      (started manager (sagaClass.healed eventHandlers) correlationId event
        (manager.processSaga sagaClass correlationId now event world).1) := by
    refine instantiate_alike manager (sagaClass.healed eventHandlers) (Eq.trans (start_state ?_) untouched)
    rw [loaded]
    rfl
  refine processSaga_trace manager (sagaClass.healed eventHandlers) correlationId later event world active again alike
    ?_ returned
  rw [loaded]
  exact turns

theorem returned_step (active : Open sagaClass correlationId event world) (left : Saga Data)
    (handled : (started manager sagaClass correlationId event world).handleEvent sagaClass now event = (left,none)) :
    ((manager.processSaga sagaClass correlationId now event world).1.repository.get
        (loadOrCreate sagaClass correlationId event world).1.id).map (·.currentStep) = some left.state.currentStep ∧
      ∀ raised, (manager.processSaga sagaClass correlationId now event world).2 ≠ .error (.saga raised) := by
  have identity := (closed_id event left).trans (handled_id manager sagaClass correlationId now event world handled)
  rw [processSaga_open manager sagaClass correlationId now event world active left none handled,← identity]
  obtain ⟨final,delivery⟩ := deliver_spec manager (closed event left)
    ((loadOrCreate sagaClass correlationId event world).2.absorb (closed event left))
  refine ⟨?_,fun raised => deliver_outcome manager _ _ raised⟩
  have same := congrArg SagaState.currentStep delivery.rest
  have kept : (closed event left).state.currentStep = left.state.currentStep := by
    unfold closed SagaState.markEventProcessed
    dsimp only
    split
    next => rfl
    next => rfl
  change Option.map _ ((manager.deliver _ _).1.repository.get _) = _
  rw [delivery.stored]
  exact congrArg some (same.trans kept)

theorem other_step (step : String) : ∃ other : String, other ≠ step := by
  refine ⟨step ++ "'",fun same => ?_⟩
  have length := congrArg String.length same
  simp at length

theorem untouched_of_traceless {error : SagaError} (formed : world.WellFormed)
    (failed : (manager.processSaga sagaClass correlationId now event world).2 = .error (.saga error))
    (traceless : Traceless manager sagaClass correlationId now event world) :
    LeavesUntouched manager sagaClass correlationId now event world := by
  classical
  by_contra touched
  let found := (started manager sagaClass correlationId event world).state
  let left := ((started manager sagaClass correlationId event world).handleEvent sagaClass now event).1
  obtain ⟨other,differs⟩ := other_step left.state.currentStep
  -- A handler that tells the state it should have found from the one the failed handler left.
  let handlers : List (String × EventHandler Data) :=
    [(event.eventType,fun _ _ state => if state = found then [.setStep other] else [])]
  have met {saga : Saga Data} (same : saga.state = found) :
      saga.handleEvent (sagaClass.healed handlers) now event = (saga.setCurrentStep other,none) := by
    simp [Saga.handleEvent,SagaClass.healed,handlers,same,Saga.perform,Saga.act]
  have missed {saga : Saga Data} (differs : saga.state ≠ found) :
      saga.handleEvent (sagaClass.healed handlers) now event = (saga,none) := by
    simp [Saga.handleEvent,SagaClass.healed,handlers,differs,Saga.perform]
  have active := (processSaga_failed manager sagaClass correlationId now event world failed).1
  have stored : (manager.processSaga sagaClass correlationId now event world).1.repository.get left.state.id =
      some left.state := (failed_world manager sagaClass correlationId now event world formed failed).2.1
  have identity : left.state.id = _ := handled_id manager sagaClass correlationId now event world rfl
  have direct := (returned_step manager (sagaClass.healed handlers) correlationId now event world active
    ((started manager sagaClass correlationId event world).setCurrentStep other) (met rfl)).1
  suffices again : ((manager.processSaga (sagaClass.healed handlers) correlationId now event
        (manager.processSaga sagaClass correlationId now event world).1).1.repository.get
          (loadOrCreate sagaClass correlationId event world).1.id).map (·.currentStep) = some left.state.currentStep ∧
      ∀ raised, (manager.processSaga (sagaClass.healed handlers) correlationId now event
        (manager.processSaga sagaClass correlationId now event world).1).2 ≠ .error (.saga raised) by
    have same := congrArg (Option.map StateTrace.currentStep) (traceless handlers now again.2)
    simp only [Option.map_map] at same
    exact differs (Option.some.inj (direct.symm.trans (same.symm.trans again.1)))
  have loaded := reloaded manager sagaClass correlationId now event world formed failed handlers
  cases terminal : left.state.isTerminal with
  | true =>
    have skipped : manager.processSaga (sagaClass.healed handlers) correlationId now event
        (manager.processSaga sagaClass correlationId now event world).1 =
          ((manager.processSaga sagaClass correlationId now event world).1,.ok none) := by
      rw [processSaga,loaded,if_pos terminal]
    rw [skipped,← identity]
    constructor
    · rw [stored,Option.map_some]
    · intro raised stopped
      cases stopped
  | false =>
    have again := reopened manager sagaClass correlationId now event world formed failed handlers terminal
    let begun := started manager (sagaClass.healed handlers) correlationId event
      (manager.processSaga sagaClass correlationId now event world).1
    have state : begun.state = left.start.state := by
      refine start_state ?_
      rw [loaded]
      rfl
    have idle := returned_step manager (sagaClass.healed handlers) correlationId now event
      (manager.processSaga sagaClass correlationId now event world).1 again begun
      (missed (state ▸ touched))
    have step : left.start.state.currentStep = left.state.currentStep := by
      unfold Saga.start
      split
      next => rfl
      next => rfl
    rw [loaded] at idle
    rw [← identity,← step,← state]
    exact idle

end Delivered

/-- A failed delivery can be repeated as if it had not happened exactly when the handler,
up to where it raised, left the state of the saga as it had found it. -/
theorem failed_delivery_traceless_iff (manager : SagaManager Data) (ops : List (ManagerOp Data))
    (sagaClass : SagaClass Data) (correlationId : String) (now : Int) (event : DomainEvent Data) (error : SagaError)
    (failed : (manager.processSaga sagaClass correlationId now event (Transition.run manager.step World.empty ops)).2 =
      .error (.saga error)) :
    Traceless manager sagaClass correlationId now event (Transition.run manager.step World.empty ops) ↔
      LeavesUntouched manager sagaClass correlationId now event (Transition.run manager.step World.empty ops) := by
  have formed := run_formed manager ops
  constructor
  · exact untouched_of_traceless manager sagaClass correlationId now event _ formed failed
  · exact traceless_of_untouched manager sagaClass correlationId now event _ formed failed

def flakySaga (actions : List (SagaAction Nat)) : SagaClass Nat :=
  orderSaga.healed [("OrderPlaced",fun _ _ _ => actions ++ [.raise "no connection"])]

/-- The command of a handler that raised is dropped with its saga object. -/
theorem failed_delivery_traceless_iff_dispatch :
    Traceless orderManager (flakySaga [.dispatch (orderCommand "ReserveStock" 7)]) "order-7" 0
      (orderEvent "OrderPlaced" "e1") World.empty := by
  refine (failed_delivery_traceless_iff orderManager [] (flakySaga [.dispatch (orderCommand "ReserveStock" 7)]) "order-7"
    0 (orderEvent "OrderPlaced" "e1") (.handler "no connection") ?_).mpr ?_
  · rfl
  · rfl

/-- The compensation of a handler that raised stays on the stack, and the redelivery adds it again. -/
theorem redelivery_compensates_twice :
    (orderManager.processSaga (flakySaga [.addCompensation (orderCommand "ReleaseStock" 7) "release the stock"])
        "order-7" 0 (orderEvent "OrderPlaced" "e1") World.empty).2 = .error (.saga (.handler "no connection")) ∧
      ¬Traceless orderManager (flakySaga [.addCompensation (orderCommand "ReleaseStock" 7) "release the stock"])
        "order-7" 0 (orderEvent "OrderPlaced" "e1") World.empty := by
  refine ⟨rfl,fun traceless => ?_⟩
  have same := congrArg (Option.map fun trace => trace.compensationStack.length)
    (traceless orderSaga.eventHandlers 1 fun raised stopped => ?_)
  · exact absurd same (by decide)
  · cases stopped

end SagaManager

end CqrsDdd.Sagas
