import CqrsDdd.Sagas.CommandDelivery
import CqrsDdd.Sagas.Frames

/-! Sagas that wait for their commands to be sent again. The repository finds the running
ones only; a stalled saga stays among them while whatever changes the status of a saga
leaves no command behind. -/
namespace CqrsDdd.Sagas

variable {Data : Type}

/-- A command is still to be sent and a retry is left. -/
def SagaState.Stalled (state : SagaState Data) : Prop :=
  (∃ entry ∈ state.pendingCommands, entry.dispatched = false) ∧ state.retryCount < state.maxRetries

def SagaState.Recoverable (state : SagaState Data) : Prop := state.Stalled → state.status = .running

theorem SagaState.Recoverable.of_nothing {state : SagaState Data} (nothing : state.pendingCommands = []) :
    state.Recoverable := by
  rintro ⟨⟨entry,member,_⟩,_⟩
  rw [nothing] at member
  exact absurd member List.not_mem_nil

namespace World

def AllRecoverable (world : World Data) : Prop :=
  ∀ id state, world.repository.get id = some state → state.Recoverable

theorem AllRecoverable.set {world after : World Data} (all : world.AllRecoverable) {state : SagaState Data}
    (own : after.repository.get state.id = some state) (recoverable : state.Recoverable)
    (others : ∀ id, id ≠ state.id → after.repository.get id = world.repository.get id) : after.AllRecoverable := by
  intro id stored found
  by_cases hit : id = state.id
  · subst hit
    rwa [← Option.some.inj (own.symm.trans found)]
  · rw [others id hit] at found
    exact all id stored found

theorem AllRecoverable.add {world : World Data} (all : world.AllRecoverable) {state : SagaState Data}
    (recoverable : state.Recoverable) : (world.add state).AllRecoverable :=
  all.set (Dict.get_set_same _ _ _) recoverable fun _ differs => Dict.get_set_other _ _ differs

theorem AllRecoverable.found {world : World Data} (all : world.AllRecoverable) {sagaId : Nat}
    {state : SagaState Data} (stored : world.repository.get sagaId = some state) (stalled : state.Stalled)
    {limit : Int} (room : (world.repository.values.length : Int) ≤ limit) : state ∈ world.findStalledSagas limit := by
  have running := all sagaId state stored stalled
  obtain ⟨⟨entry,waits,_⟩,_⟩ := stalled
  have present : state ∈ world.repository.values :=
    List.mem_map.mpr ⟨(sagaId,state),world.repository.mem_iff_get.mpr stored,rfl⟩
  unfold findStalledSagas findFirst
  rw [List.take_of_length_le]
  · refine List.mem_filter.mpr ⟨present,?_⟩
    have some : state.pendingCommands ≠ [] := List.ne_nil_of_mem waits
    simp [running,some]
  · have short := List.length_filter_le
      (fun state : SagaState Data => decide (state.status = .running) && !state.pendingCommands.isEmpty)
      world.repository.values
    omega

end World

namespace SagaManager

/-- What a delivery must not do. A handler that raised may not leave a stalled saga in another
status than running, and neither may one that returned, when the bus refuses one of its commands. -/
def KeepsRunning (manager : SagaManager Data) (sagaClass : SagaClass Data) (correlationId : String) (now : Int)
    (event : DomainEvent Data) (world : World Data) : Prop :=
  let loaded := loadOrCreate sagaClass correlationId event world
  let handled := (manager.instantiate sagaClass loaded.1 loaded.2).handle sagaClass now event
  loaded.1.isTerminal = false →
    (handled.2.isSome = true → handled.1.state.Recoverable) ∧
    (handled.2 = none →
      (∃ refused < handled.1.commandsToDispatch.length, manager.commandBus (world.attempts+refused) = false) →
      handled.1.state.retryCount < handled.1.state.maxRetries → handled.1.state.status = .running)

def KeepsAllRunning (manager : SagaManager Data) (correlationId : String) (now : Int) (event : DomainEvent Data) :
    List (SagaClass Data) → World Data → Prop
  | [], _ => True
  | sagaClass::rest, world => manager.KeepsRunning sagaClass correlationId now event world ∧
    match manager.processSaga sagaClass correlationId now event world with
    | (_,.error _) => True
    | (next,.ok _) => manager.KeepsAllRunning correlationId now event rest next

/-- `allowed` holds at every turn of a sweep, of the state as the repository has it by then. -/
def SweepMeets (each : SagaState Data → World Data → World Data) (allowed : SagaState Data → World Data → Prop) :
    List (SagaState Data) → World Data → Prop
  | [], _ => True
  | state::rest, world =>
    match world.repository.get state.id with
    | some stored => allowed stored world ∧ SweepMeets each allowed rest (each stored world)
    | none => SweepMeets each allowed rest world

/-- An `on_timeout` leaves no stalled saga in another status than running. -/
def TimeoutKeepsRunning (manager : SagaManager Data) (now : Int) (state : SagaState Data) (world : World Data) : Prop :=
  ∀ sagaClass, manager.registry.getSagaType state.sagaType = some sagaClass →
    (manager.timedOut sagaClass now state world).state.Recoverable

/-- No reservation of a stalled saga has expired. -/
def NothingExpired (now : Int) (state : SagaState Data) (_ : World Data) : Prop :=
  state.Stalled → ∀ record ∈ state.tccSteps, Saga.expired now record = false

def KeepsStalledRunning (manager : SagaManager Data) (world : World Data) : ManagerOp Data → Prop
  | .handle now event =>
    match correlationIdFromEvent event with
    | some correlationId =>
      manager.KeepsAllRunning correlationId now event (manager.registry.getSagasForEvent event.eventType) world
    | none => True
  | .startSaga now sagaClass event correlationId => manager.KeepsRunning sagaClass correlationId now event world
  | .recoverPendingSagas _ => True
  | .processTimeouts now limit =>
    SweepMeets (manager.processTimeout now) (manager.TimeoutKeepsRunning now)
      (world.findExpiredSuspendedSagas now limit) world
  | .processTccTimeouts now limit =>
    SweepMeets (manager.processTccTimeout now) (NothingExpired now) (world.findRunningSagasWithTccSteps limit) world

theorem opened_recoverable (sagaClass : SagaClass Data) (correlationId : String) (event : DomainEvent Data)
    {world : World Data} (formed : world.WellFormed) (all : world.AllRecoverable) :
    (loadOrCreate sagaClass correlationId event world).2.AllRecoverable := by
  rcases loadOrCreate_origin sagaClass correlationId event formed with
    ⟨state,_,_,same⟩ | ⟨state,_,_,_,nothing,_,same⟩
  · rw [same]
    exact all
  · rw [same]
    have numbered : {world with nextId := world.nextId+1}.AllRecoverable := all
    exact numbered.add (.of_nothing nothing)

theorem delivered_recoverable {manager : SagaManager Data} {saga : Saga Data} {before after : World Data}
    {final : SagaState Data} (delivery : Delivery manager saga before after final) (all : before.AllRecoverable)
    (refused : (∃ refused < saga.commandsToDispatch.length, manager.commandBus (before.attempts+refused) = false) →
      saga.state.retryCount < saga.state.maxRetries → saga.state.status = .running) : after.AllRecoverable := by
  have identity := congrArg SagaState.id delivery.rest
  have retries := congrArg SagaState.retryCount delivery.rest
  have bound := congrArg SagaState.maxRetries delivery.rest
  have status := congrArg SagaState.status delivery.rest
  dsimp only at identity retries bound status
  have stored : after.repository.get final.id = some final := by
    rw [identity]
    exact delivery.stored
  refine all.set stored ?_ fun id differs => delivery.others id (by rwa [← identity])
  rintro ⟨⟨entry,waits,_⟩,left⟩
  -- Something waits, so the bus did not take every command.
  have short : accepted manager.commandBus before.attempts saga.commandsToDispatch.length <
      saga.commandsToDispatch.length := by
    refine Nat.lt_of_le_of_ne (accepted_le _ _ _) fun full => ?_
    rw [delivery.cleared full] at waits
    exact absurd waits List.not_mem_nil
  obtain ⟨position,_,inside,answer⟩ := (accepted_refused _ _ _ _).mp ⟨Nat.le_refl _,short⟩
  rw [retries,bound] at left
  rw [status]
  exact refused ⟨position,inside,answer⟩ left

theorem processSaga_recoverable (manager : SagaManager Data) (sagaClass : SagaClass Data) (correlationId : String)
    (now : Int) (event : DomainEvent Data) (world : World Data) (formed : world.WellFormed)
    (all : world.AllRecoverable) (keeps : manager.KeepsRunning sagaClass correlationId now event world) :
    (manager.processSaga sagaClass correlationId now event world).1.AllRecoverable := by
  have opened := opened_recoverable sagaClass correlationId event formed all
  have loaded := loadOrCreate_loaded sagaClass correlationId event world formed
  unfold KeepsRunning at keeps
  unfold processSaga
  generalize loadOrCreate sagaClass correlationId event world = started at opened keeps loaded
  obtain ⟨state,opened'⟩ := started
  dsimp only at opened keeps loaded ⊢
  split
  next => exact opened
  next active =>
    obtain ⟨raised,returned⟩ := keeps (by simpa using active)
    generalize (manager.instantiate sagaClass state opened').handle sagaClass now event = handled at raised returned
    obtain ⟨saga,outcome⟩ := handled
    have absorbed : (opened'.absorb saga).AllRecoverable := opened
    cases outcome with
    | some error => exact absorbed.add (raised rfl)
    | none =>
      obtain ⟨final,delivery⟩ := deliver_spec manager saga (opened'.absorb saga)
      refine delivered_recoverable delivery absorbed ?_
      rw [World.absorb,loaded.attempts]
      exact returned rfl

theorem processAll_recoverable (manager : SagaManager Data) (correlationId : String) (now : Int)
    (event : DomainEvent Data) (classes : List (SagaClass Data)) (world : World Data) (formed : world.WellFormed)
    (all : world.AllRecoverable) (keeps : manager.KeepsAllRunning correlationId now event classes world) :
    (manager.processAll correlationId now event classes world).1.AllRecoverable := by
  induction classes generalizing world with
  | nil => exact all
  | cons sagaClass rest ih =>
    unfold KeepsAllRunning at keeps
    have first := processSaga_recoverable manager sagaClass correlationId now event world formed all keeps.1
    have good := (processSaga_keeps manager sagaClass correlationId now event world formed).1
    unfold processAll
    generalize manager.processSaga sagaClass correlationId now event world = result at keeps first good
    obtain ⟨next,outcome⟩ := result
    cases outcome with
    | error error => exact first
    | ok value => exact ih next good first keeps.2

theorem undispatched_stalled {state : SagaState Data} (waits : undispatched state ≠ [])
    (left : state.retryCount < state.maxRetries) : state.Stalled := by
  obtain ⟨⟨entry,index⟩,member⟩ := List.exists_mem_of_ne_nil _ waits
  obtain ⟨listed,open'⟩ := List.mem_filter.mp member
  refine ⟨⟨entry,?_,by simpa [isCommandDispatched] using open'⟩,left⟩
  exact List.mem_of_getElem? (List.mem_zipIdx_iff_getElem?.mp listed)

theorem recoverSaga_recoverable (manager : SagaManager Data) (state : SagaState Data) (world : World Data)
    (found : world.repository.get state.id = some state) (all : world.AllRecoverable) :
    (manager.recoverSaga state world).AllRecoverable := by
  unfold recoverSaga
  split
  next =>
    split
    next => exact all
    next => exact all.add (.of_nothing rfl)
  next waits =>
    have some : undispatched state ≠ [] := fun nothing => waits (by rw [nothing]; rfl)
    split
    next spent =>
      unfold failSagaMaxRetries
      split
      next sagaClass _ =>
        have kept := Saga.fail_kept (manager.instantiate sagaClass state world) (abandonReason state) true
        simp only [Saga.kept,Saga.fixed,Prod.mk.injEq] at kept
        obtain ⟨⟨_,_,_,_,retries,_⟩,bound⟩ := kept
        have absorbed : (world.absorb ((manager.instantiate sagaClass state world).fail
          (abandonReason state) true).1).AllRecoverable := all
        refine absorbed.add fun stalled => ?_
        have left := stalled.2
        rw [retries,bound] at left
        exact absurd left (Nat.not_lt.mpr spent)
      next => exact all
    next left =>
      let retried := {state with retryCount := state.retryCount+1}
      have running : state.status = .running :=
        all state.id state found (undispatched_stalled some (Nat.lt_of_not_le left))
      have counted : (world.add retried).AllRecoverable := all.add fun _ => running
      obtain ⟨spec,_⟩ := redispatch_spec manager (undispatched retried) retried (world.add retried)
        (undispatched_pending retried)
      rcases result : manager.redispatch (undispatched retried) retried (world.add retried) with ⟨done,marked,after⟩
      rw [result] at spec
      have identity := congrArg SagaState.id spec.rest
      have status := congrArg SagaState.status spec.rest
      dsimp only at identity status
      have stored : after.repository.get marked.id = Option.some marked := by
        rw [identity]
        exact spec.stored (Dict.get_set_same _ _ _)
      have later : after.AllRecoverable :=
        counted.set stored (fun _ => status.trans running) fun id differs =>
          spec.others id (by rwa [← identity])
      dsimp only
      rw [result]
      cases done with
      | false => exact later
      | true => exact later.add (.of_nothing rfl)

theorem flush_recoverable (manager : SagaManager Data) {world : World Data} {saga : Saga Data}
    (all : world.AllRecoverable) (recoverable : saga.state.Recoverable) : (manager.flush saga world).AllRecoverable :=
  all.set (flush_spec manager saga world).stored recoverable (flush_spec manager saga world).others

theorem processTimeout_recoverable (manager : SagaManager Data) (now : Int) (state : SagaState Data)
    (world : World Data) (all : world.AllRecoverable) (keeps : manager.TimeoutKeepsRunning now state world) :
    (manager.processTimeout now state world).AllRecoverable := by
  unfold processTimeout
  split
  next sagaClass known => exact flush_recoverable manager all (keeps sagaClass known)
  next => exact all

theorem processTccTimeout_recoverable (manager : SagaManager Data) (now : Int) (state : SagaState Data)
    (world : World Data) (found : world.repository.get state.id = some state) (all : world.AllRecoverable)
    (keeps : NothingExpired now state world) : (manager.processTccTimeout now state world).AllRecoverable := by
  unfold processTccTimeout
  split
  next sagaClass _ =>
    let saga := manager.instantiate sagaClass state world
    have kept := Saga.checkTccTimeouts_kept saga now
    have quiet : state.Stalled → (saga.checkTccTimeouts now).1.state = state := by
      intro stalled
      have nothing : state.tccSteps.filter (Saga.expired now) = [] :=
        List.filter_eq_nil_iff.mpr fun record member => by simp [keeps stalled record member]
      change (Saga.failExpired ((state.tccSteps.filter (Saga.expired now)).map (·.name)) _).1.state = state
      rw [nothing]
      rfl
    split
    next left same =>
      rw [show saga.checkTccTimeouts now = (left,none) from same] at kept quiet
      simp only [Saga.kept,Saga.fixed,Prod.mk.injEq] at kept
      obtain ⟨⟨_,_,_,_,retries,pending⟩,bound⟩ := kept
      refine flush_recoverable manager all fun stalled => ?_
      have before : state.Stalled := by
        unfold SagaState.Stalled at stalled
        rw [retries,bound,pending] at stalled
        exact stalled
      rw [quiet before]
      exact all state.id state found before
    next => exact all
  next => exact all

theorem sweep_recoverable (manager : SagaManager Data) {each : SagaState Data → World Data → World Data}
    {allowed : SagaState Data → World Data → Prop}
    (formed : ∀ state world, world.WellFormed → world.repository.get state.id = some state →
      manager.Keeps world (each state world))
    (keeps : ∀ state world, world.repository.get state.id = some state → world.AllRecoverable → allowed state world →
      (each state world).AllRecoverable)
    (found : List (SagaState Data)) (world : World Data) (good : world.WellFormed) (all : world.AllRecoverable)
    (meets : SweepMeets each allowed found world) : (sweep each found world).AllRecoverable := by
  induction found generalizing world with
  | nil => exact all
  | cons state rest ih =>
    simp only [sweep,List.foldl_cons]
    unfold SweepMeets at meets
    cases here : world.repository.get state.id with
    | none =>
      rw [here] at meets
      exact ih world good all meets
    | some stored =>
      rw [here] at meets
      have identity := (good.stored state.id stored here).1
      have present : world.repository.get stored.id = some stored := by rwa [identity]
      exact ih _ (formed stored world good present).formed (keeps stored world present all meets.1) meets.2

theorem sweepMeets_always (each : SagaState Data → World Data → World Data) (found : List (SagaState Data))
    (world : World Data) : SweepMeets each (fun _ _ => True) found world := by
  induction found generalizing world with
  | nil => trivial
  | cons state rest ih =>
    unfold SweepMeets
    split
    next stored _ => exact ⟨trivial,ih (each stored world)⟩
    next => exact ih world

theorem step_recoverable (manager : SagaManager Data) (world : World Data) (op : ManagerOp Data)
    (formed : world.WellFormed) (all : world.AllRecoverable) (keeps : manager.KeepsStalledRunning world op) :
    (manager.step world op).AllRecoverable := by
  cases op with
  | handle now event =>
    dsimp only [step,handle,KeepsStalledRunning] at keeps ⊢
    cases correlation : correlationIdFromEvent event with
    | some correlationId =>
      rw [correlation] at keeps
      exact processAll_recoverable manager correlationId now event _ world formed all keeps
    | none => exact all
  | startSaga now sagaClass event correlationId =>
    exact processSaga_recoverable manager sagaClass correlationId now event world formed all keeps
  | recoverPendingSagas limit =>
    exact sweep_recoverable manager (recoverSaga_keeps manager)
      (fun state world found all _ => recoverSaga_recoverable manager state world found all) _ world formed all
      (sweepMeets_always _ _ world)
  | processTimeouts now limit =>
    exact sweep_recoverable manager (processTimeout_keeps manager now)
      (fun state world _ all keeps => processTimeout_recoverable manager now state world all keeps) _ world formed all
      keeps
  | processTccTimeouts now limit =>
    exact sweep_recoverable manager (processTccTimeout_keeps manager now)
      (processTccTimeout_recoverable manager now) _ world formed all keeps

/-- In every run whose steps change the status of no saga with a command still to be sent,
`find_stalled_sagas` finds every stalled saga. -/
theorem stalled_sagas_found (manager : SagaManager Data) (ops : List (ManagerOp Data))
    (meets : Transition.Meets manager.step manager.KeepsStalledRunning World.empty ops) (earlier : List (ManagerOp Data))
    (reached : earlier <+: ops) (sagaId : Nat) (state : SagaState Data)
    (stored : (Transition.run manager.step World.empty earlier).repository.get sagaId = some state)
    (stalled : state.Stalled) (limit : Int)
    (room : ((Transition.run manager.step World.empty earlier).repository.values.length : Int) ≤ limit) :
    state ∈ (Transition.run manager.step World.empty earlier).findStalledSagas limit := by
  have start : (World.empty : World Data).WellFormed ∧ (World.empty : World Data).AllRecoverable :=
    ⟨World.empty_wellFormed,fun _ _ found => (nomatch found)⟩
  have kept (world : World Data) (op : ManagerOp Data) (inv : world.WellFormed ∧ world.AllRecoverable)
      (allowed : manager.KeepsStalledRunning world op) :
      (manager.step world op).WellFormed ∧ (manager.step world op).AllRecoverable :=
    ⟨(step_keeps manager world op inv.1).1,step_recoverable manager world op inv.1 inv.2 allowed⟩
  exact (Transition.run_invariant (fun world : World Data => world.WellFormed ∧ world.AllRecoverable) kept World.empty
    earlier start (meets.earlier reached)).2.found stored stalled room

theorem stalled_sagas_found_order :
    ∃ state, (Transition.run orderManager.step World.empty
        [.handle 0 (orderEvent "OrderPlaced" "e1")]).repository.get 0 = some state ∧ state.Stalled ∧
      state ∈ (Transition.run orderManager.step World.empty
        [.handle 0 (orderEvent "OrderPlaced" "e1")]).findStalledSagas 10 := by
  refine ⟨_,rfl,?stalled,stalled_sagas_found orderManager [.handle 0 (orderEvent "OrderPlaced" "e1")] ?meets _
    (List.prefix_refl _) 0 _ rfl ?stalled 10 ?room⟩
  case stalled => exact ⟨⟨_,List.mem_singleton_self _,rfl⟩,by decide⟩
  case meets =>
    refine ⟨⟨fun _ => ⟨fun raised => (nomatch raised),fun _ _ _ => rfl⟩,?_⟩,trivial⟩
    split <;> trivial
  case room => decide

/-- The order saga completes on its only event, and the bus refuses the command. -/
theorem completed_saga_not_found :
    let world := Transition.run orderManager.step World.empty
      [.startSaga 0 {orderSaga with eventHandlers := [("OrderPlaced",mappedHandler
        (fun event => orderCommand "ReserveStock" event.payload) none none "" true)]}
        (orderEvent "OrderPlaced" "e1") "order-7"]
    ∃ state, world.repository.get 0 = some state ∧ state.Stalled ∧ state.status = .completed ∧
      ∀ limit, world.findStalledSagas limit = [] := by
  refine ⟨_,rfl,⟨⟨_,List.mem_singleton_self _,rfl⟩,by decide⟩,rfl,fun limit => ?_⟩
  exact List.take_nil

end SagaManager

end CqrsDdd.Sagas
