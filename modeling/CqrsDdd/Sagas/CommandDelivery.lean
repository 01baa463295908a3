import CqrsDdd.Sagas.Dispatch
import CqrsDdd.Transition

/-! No collected command is lost: it was sent, or it still waits in the stored
pending list. `_dispatch_and_persist_commands` marks positions counted from the
start of the pending list, whatever an earlier event left there, and a successful
event clears the whole list; so this holds as long as no event overtakes a command
that is still to be sent. -/
namespace CqrsDdd.Sagas

variable {Data : Type}

namespace World

def Waiting (world : World Data) (sagaId : Nat) (queued : QueuedCommand Data) : Prop :=
  ∃ state, world.repository.get sagaId = some state ∧ serializeCommandForPending queued ∈ state.pendingCommands

end World

namespace SagaManager

def Accounted (manager : SagaManager Data) (world : World Data) (sagaId : Nat) (queued : QueuedCommand Data) : Prop :=
  manager.Delivered world.sent queued ∨ world.Waiting sagaId queued

def NoneLost (manager : SagaManager Data) (world : World Data) : Prop :=
  ∀ entry ∈ world.collected, manager.Accounted world entry.1 entry.2

/-- A command still to be sent that stands at position `position` of the pending
list survives the event if the bus refuses one of the event's commands at that
position or before it. -/
def Spares (manager : SagaManager Data) (sagaClass : SagaClass Data) (correlationId : String) (now : Int)
    (event : DomainEvent Data) (world : World Data) : Prop :=
  let loaded := loadOrCreate sagaClass correlationId event world
  let handled := (manager.instantiate sagaClass loaded.1 loaded.2).handle sagaClass now event
  loaded.1.isTerminal = false → handled.2 = none → ∀ (position : Nat) queued,
    loaded.1.pendingCommands[position]? = some (serializeCommandForPending queued) →
    ¬manager.Delivered world.sent queued →
    ∃ refused ≤ position, refused < handled.1.commandsToDispatch.length ∧
      manager.commandBus (world.attempts + refused) = false

def SparesAll (manager : SagaManager Data) (correlationId : String) (now : Int) (event : DomainEvent Data) :
    List (SagaClass Data) → World Data → Prop
  | [], _ => True
  | sagaClass::rest, world => manager.Spares sagaClass correlationId now event world ∧
    match manager.processSaga sagaClass correlationId now event world with
    | (_,.error _) => True
    | (next,.ok _) => manager.SparesAll correlationId now event rest next

def Orderly (manager : SagaManager Data) (world : World Data) : ManagerOp Data → Prop
  | .handle now event =>
    match correlationIdFromEvent event with
    | some correlationId =>
      manager.SparesAll correlationId now event (manager.registry.getSagasForEvent event.eventType) world
    | none => True
  | .startSaga now sagaClass event correlationId => manager.Spares sagaClass correlationId now event world
  | _ => True

structure Keeps (manager : SagaManager Data) (before after : World Data) : Prop where
  formed : after.WellFormed
  accounted : ∀ id queued, manager.Accounted before id queued → manager.Accounted after id queued
  collected : ∃ more, after.collected = before.collected ++ more ∧
    ∀ entry ∈ more, manager.Accounted after entry.1 entry.2

theorem Keeps.refl (manager : SagaManager Data) {world : World Data} (formed : world.WellFormed) :
    manager.Keeps world world :=
  ⟨formed,fun _ _ accounted => accounted,[],by simp,by simp⟩

theorem Keeps.trans {manager : SagaManager Data} {first middle last : World Data}
    (earlier : manager.Keeps first middle) (later : manager.Keeps middle last) : manager.Keeps first last := by
  obtain ⟨more,grown,sure⟩ := earlier.collected
  obtain ⟨more',grown',sure'⟩ := later.collected
  refine ⟨later.formed,fun id queued old => later.accounted id queued (earlier.accounted id queued old),
    more ++ more',by rw [grown',grown,List.append_assoc],fun entry member => ?_⟩
  rcases List.mem_append.mp member with old | new
  · exact later.accounted entry.1 entry.2 (sure entry old)
  · exact sure' entry new

theorem Keeps.noneLost {manager : SagaManager Data} {before after : World Data}
    (keeps : manager.Keeps before after) (holds : manager.NoneLost before) : manager.NoneLost after := by
  obtain ⟨more,grown,sure⟩ := keeps.collected
  intro entry member
  rw [grown] at member
  rcases List.mem_append.mp member with old | new
  · exact keeps.accounted entry.1 entry.2 (holds entry old)
  · exact sure entry new

theorem Keeps.own {manager : SagaManager Data} {before after : World Data} (sagaId : Nat)
    (formed : after.WellFormed) (sent : ∃ more, after.sent = before.sent ++ more)
    (others : ∀ id, id ≠ sagaId → after.repository.get id = before.repository.get id)
    (own : ∀ queued, before.Waiting sagaId queued → manager.Accounted after sagaId queued)
    (collected : ∃ more, after.collected = before.collected ++ more ∧
      ∀ entry ∈ more, manager.Accounted after entry.1 entry.2) : manager.Keeps before after := by
  refine ⟨formed,fun id queued accounted => ?_,collected⟩
  rcases accounted with delivered | waits
  · obtain ⟨more,grown⟩ := sent
    rw [Accounted,grown]
    exact .inl (delivered.later more)
  · by_cases hit : id = sagaId
    · subst hit
      exact own queued waits
    · obtain ⟨state,found,member⟩ := waits
      exact .inr ⟨state,by rwa [others id hit],member⟩

theorem loaded_keeps (manager : SagaManager Data) {world after : World Data} {state : SagaState Data}
    (loaded : Loaded world state after) : manager.Keeps world after := by
  refine ⟨loaded.formed,fun id queued accounted => ?_,[],by simp [loaded.collected],by simp⟩
  rcases accounted with delivered | ⟨stored,found,member⟩
  · rw [Accounted,loaded.sent]
    exact .inl delivered
  · exact .inr ⟨stored,loaded.kept id stored found,member⟩

theorem restored_keeps (manager : SagaManager Data) {before after : World Data} {state stored : SagaState Data}
    (formed : after.WellFormed) (found : before.repository.get state.id = some state)
    (same : stored.pendingCommands = state.pendingCommands)
    (present : after.repository.get state.id = some stored)
    (others : ∀ id, id ≠ state.id → after.repository.get id = before.repository.get id)
    (sent : ∃ more, after.sent = before.sent ++ more) (collected : after.collected = before.collected) :
    manager.Keeps before after := by
  refine Keeps.own state.id formed sent others ?_ ⟨[],by simp [collected],by simp⟩
  rintro queued ⟨current,here,member⟩
  rw [found] at here
  obtain rfl := Option.some.inj here
  exact .inr ⟨stored,present,by rwa [same]⟩

theorem delivery_keeps (manager : SagaManager Data) {saga : Saga Data} {before after : World Data}
    {final : SagaState Data} (delivery : Delivery manager saga before after final) (formed : after.WellFormed)
    (found : ∀ state, before.repository.get saga.state.id = some state →
      state.pendingCommands = saga.state.pendingCommands)
    (spared : ∀ (position : Nat) queued,
      saga.state.pendingCommands[position]? = some (serializeCommandForPending queued) →
      ¬manager.Delivered before.sent queued → ∃ refused ≤ position,
        refused < saga.commandsToDispatch.length ∧ manager.commandBus (before.attempts + refused) = false) :
    manager.Keeps before after := by
  refine Keeps.own saga.state.id formed ⟨_,delivery.sent⟩ delivery.others ?_ ⟨_,delivery.collected,?_⟩
  · rintro queued ⟨state,here,member⟩
    rw [found state here] at member
    obtain ⟨position,at_position⟩ := List.getElem?_of_mem member
    by_cases delivered : manager.Delivered before.sent queued
    · rw [Accounted,delivery.sent]
      exact .inl (delivered.later _)
    · have refused := spared position queued at_position delivered
      obtain ⟨bound,short⟩ := (accepted_refused _ _ _ _).mpr refused
      refine .inr ⟨final,delivery.stored,?_⟩
      have kept := delivery.kept short position bound
      rw [List.getElem?_append_left (List.getElem?_eq_some_iff.mp at_position).1,at_position] at kept
      exact List.mem_of_getElem? kept
  · intro entry member
    obtain ⟨queued,present,rfl⟩ := List.mem_map.mp member
    rcases delivery_accounts delivery queued present with sent | waits
    · exact .inl ⟨queued,sent,rfl,.inl rfl⟩
    · exact .inr ⟨final,delivery.stored,waits⟩

theorem absorb_keeps (manager : SagaManager Data) {world : World Data} {state : SagaState Data} {saga : Saga Data}
    (formed : world.WellFormed) (work : Worked world state saga) : manager.Keeps world (world.absorb saga) :=
  ⟨formed.absorb saga work.grows,fun _ _ accounted => accounted,[],by simp [World.absorb],by simp⟩

theorem absorbed_keeps (manager : SagaManager Data) {world : World Data} {state : SagaState Data} {saga : Saga Data}
    (formed : world.WellFormed) (found : world.repository.get state.id = some state)
    (work : Worked world state saga) : manager.Keeps world ((world.absorb saga).add saga.state) := by
  have absorbed := absorb_keeps manager formed work
  have fits := work.fits (formed.fits found)
  refine restored_keeps manager (absorbed.formed.add ⟨fits.1,?_⟩) found work.pending ?_ ?_ ⟨[],?_⟩ rfl
  · exact fun queued member => Nat.lt_of_lt_of_le (fits.2 queued member) work.grows
  · rw [← work.id]
    exact Dict.get_set_same _ _ _
  · exact fun id differs => Dict.get_set_other _ _ (by rwa [work.id])
  · simp [World.add,World.absorb]

theorem processSaga_keeps (manager : SagaManager Data) (sagaClass : SagaClass Data) (correlationId : String)
    (now : Int) (event : DomainEvent Data) (world : World Data) (formed : world.WellFormed) :
    (manager.processSaga sagaClass correlationId now event world).1.WellFormed ∧
      (manager.Spares sagaClass correlationId now event world →
        manager.Keeps world (manager.processSaga sagaClass correlationId now event world).1) := by
  have loaded := loadOrCreate_loaded sagaClass correlationId event world formed
  unfold Spares processSaga
  generalize loadOrCreate sagaClass correlationId event world = started at loaded
  obtain ⟨state,opened⟩ := started
  dsimp only at loaded ⊢
  have first := loaded_keeps manager loaded
  split
  next => exact ⟨first.formed,fun _ => first⟩
  next live =>
    have work := worked manager sagaClass state opened
      (Saga.handle_pops sagaClass now event (manager.instantiate sagaClass state opened))
    generalize (manager.instantiate sagaClass state opened).handle sagaClass now event = handled at work
    obtain ⟨saga,outcome⟩ := handled
    dsimp only at work ⊢
    cases outcome with
    | some error =>
      have stored := absorbed_keeps manager loaded.formed loaded.found work
      exact ⟨stored.formed,fun _ => first.trans stored⟩
    | none =>
      have absorbed := absorb_keeps manager loaded.formed work
      have fits := work.fits (loaded.formed.fits loaded.found)
      obtain ⟨final,delivery⟩ := deliver_spec manager saga (opened.absorb saga)
      have good := delivery.formed absorbed.formed
        ⟨fits.1,fun queued member => Nat.lt_of_lt_of_le (fits.2 queued member) work.grows⟩
        fun queued member => (work.tags queued member).2
      refine ⟨good,fun spares => first.trans (absorbed.trans (delivery_keeps manager delivery good ?_ ?_))⟩
      · intro current here
        rw [work.id] at here
        rw [work.pending,← Option.some.inj (loaded.found.symm.trans here)]
      · rw [work.pending]
        intro position queued here missing
        simp only [World.absorb,loaded.attempts,loaded.sent] at missing ⊢
        exact spares (by simpa using live) rfl position queued here missing

theorem processAll_keeps (manager : SagaManager Data) (correlationId : String) (now : Int)
    (event : DomainEvent Data) (classes : List (SagaClass Data)) (world : World Data) (formed : world.WellFormed) :
    (manager.processAll correlationId now event classes world).1.WellFormed ∧
      (manager.SparesAll correlationId now event classes world →
        manager.Keeps world (manager.processAll correlationId now event classes world).1) := by
  induction classes generalizing world with
  | nil => exact ⟨formed,fun _ => .refl manager formed⟩
  | cons sagaClass rest ih =>
    obtain ⟨good,keeps⟩ := processSaga_keeps manager sagaClass correlationId now event world formed
    unfold processAll SparesAll
    generalize manager.processSaga sagaClass correlationId now event world = result at good keeps
    obtain ⟨next,outcome⟩ := result
    cases outcome with
    | error error => exact ⟨good,fun spares => keeps spares.1⟩
    | ok id =>
      obtain ⟨later,rests⟩ := ih next good
      exact ⟨later,fun spares => (keeps spares.1).trans (rests spares.2)⟩

theorem undispatched_pending (state : SagaState Data) (entry : PendingCommand Data × Nat)
    (member : entry ∈ undispatched state) :
    (state.pendingCommands.map (·.queued))[entry.2]? = some entry.1.queued := by
  have found := List.mem_zipIdx_iff_getElem?.mp (List.mem_of_mem_filter member)
  rw [List.getElem?_map,found]
  rfl

theorem waiting_undispatched (state : SagaState Data) (queued : QueuedCommand Data)
    (member : serializeCommandForPending queued ∈ state.pendingCommands) :
    ∃ entry ∈ undispatched state, entry.1.queued = queued := by
  obtain ⟨position,found⟩ := List.getElem?_of_mem member
  refine ⟨(serializeCommandForPending queued,position),List.mem_filter.mpr ⟨?_,rfl⟩,rfl⟩
  exact List.mem_zipIdx_iff_getElem?.mpr found

theorem failSagaMaxRetries_keeps (manager : SagaManager Data) (state : SagaState Data) (world : World Data)
    (formed : world.WellFormed) (found : world.repository.get state.id = some state) :
    manager.Keeps world (manager.failSagaMaxRetries state world) := by
  unfold failSagaMaxRetries
  split
  next sagaClass _ =>
    exact absorbed_keeps manager formed found (worked manager sagaClass state world
      (Saga.fail_pops (manager.instantiate sagaClass state world) (abandonReason state) true))
  next => exact .refl manager formed

theorem redispatch_keeps (manager : SagaManager Data) {state marked : SagaState Data} {world after : World Data}
    {done : Bool} (formed : world.WellFormed) (found : world.repository.get state.id = some state)
    (result : manager.redispatch (undispatched state) state world = (done,marked,after)) :
    manager.Keeps world (if done then after.add {clearPending marked with retryCount := 0} else after) := by
  have fits := formed.fits found
  obtain ⟨spec,finished⟩ := redispatch_spec manager (undispatched state) state world (undispatched_pending state)
  rw [result] at spec finished
  dsimp only at spec finished
  obtain ⟨more,grown,known⟩ := spec.sent
  have numbered : ∀ queued ∈ after.sent, queued.tag < world.nextTag := by
    rw [grown]
    intro queued member
    rcases List.mem_append.mp member with old | new
    · exact formed.sent queued old
    · obtain ⟨entry,pending,tag⟩ := known queued new
      rw [tag]
      exact fits.2 entry pending
  obtain ⟨good,fitted⟩ := formed.rewrite fits found spec.rest spec.same spec.others spec.stored spec.frame numbered
  have identity : marked.id = state.id := by
    have same := congrArg SagaState.id spec.rest
    exact same
  cases done with
  | false =>
    refine Keeps.own state.id good ⟨more,grown⟩ spec.others ?_ ⟨[],by simp [spec.frame.collected],by simp⟩
    rintro queued ⟨current,present,member⟩
    rw [found] at present
    obtain rfl := Option.some.inj present
    rcases spec.covered queued member with waits | delivered
    · exact .inr ⟨marked,spec.stored found,waits⟩
    · exact .inl delivered
  | true =>
    refine Keeps.own state.id (good.add ⟨fitted.1,by simp [clearPending]⟩) ⟨more,grown⟩ ?_ ?_
      ⟨[],by rw [List.append_nil]; exact spec.frame.collected,by simp⟩
    · intro id differs
      rw [← spec.others id differs]
      exact Dict.get_set_other _ _ (by rwa [← identity] at differs)
    · rintro queued ⟨current,present,member⟩
      rw [found] at present
      obtain rfl := Option.some.inj present
      obtain ⟨entry,listed,rfl⟩ := waiting_undispatched state queued member
      exact .inl (finished rfl entry listed)

theorem recoverSaga_keeps (manager : SagaManager Data) (state : SagaState Data) (world : World Data)
    (formed : world.WellFormed) (found : world.repository.get state.id = some state) :
    manager.Keeps world (manager.recoverSaga state world) := by
  have fits := formed.fits found
  unfold recoverSaga
  split
  next nothing =>
    split
    next => exact .refl manager formed
    next =>
      refine Keeps.own state.id (formed.add ⟨fits.1,by simp [clearPending]⟩) ⟨[],by simp [World.add]⟩
        (fun id differs => Dict.get_set_other _ _ differs) ?_ ⟨[],by simp [World.add],by simp⟩
      rintro queued ⟨current,here,member⟩
      rw [found] at here
      obtain rfl := Option.some.inj here
      obtain ⟨entry,present,_⟩ := waiting_undispatched state queued member
      rw [List.isEmpty_iff.mp nothing] at present
      simp at present
  next =>
    split
    next => exact failSagaMaxRetries_keeps manager state world formed found
    next =>
      -- The retry count is stored before the first send.
      let retried := {state with retryCount := state.retryCount+1}
      have same : retried.pendingCommands = state.pendingCommands := rfl
      have counted : manager.Keeps world (world.add retried) :=
        restored_keeps manager (formed.add fits) found same (Dict.get_set_same _ _ _)
          (fun id differs => Dict.get_set_other _ _ differs) ⟨[],by simp [World.add]⟩ rfl
      have here : (world.add retried).repository.get retried.id = some retried := Dict.get_set_same _ _ _
      rcases result : manager.redispatch (undispatched retried) retried (world.add retried)
        with ⟨done,marked,after⟩
      dsimp only
      rw [result]
      have kept := counted.trans (redispatch_keeps manager counted.formed here result)
      cases done <;> exact kept

theorem flush_keeps (manager : SagaManager Data) {world : World Data} {state : SagaState Data} {saga : Saga Data}
    (formed : world.WellFormed) (found : world.repository.get state.id = some state)
    (work : Worked world state saga) : manager.Keeps world (manager.flush saga world) := by
  have flushed := flush_spec manager saga world
  obtain ⟨more,grown,_⟩ := flushed.sent
  have good := flushed.formed formed (work.fits (formed.fits found)) work.grows
    fun queued member => (work.tags queued member).2
  refine restored_keeps manager good found work.pending ?_ ?_ ⟨more,grown⟩ flushed.collected
  · rw [← work.id]
    exact flushed.stored
  · intro id differs
    exact flushed.others id (by rwa [work.id])

theorem processTimeout_keeps (manager : SagaManager Data) (now : Int) (state : SagaState Data) (world : World Data)
    (formed : world.WellFormed) (found : world.repository.get state.id = some state) :
    manager.Keeps world (manager.processTimeout now state world) := by
  unfold processTimeout
  split
  next sagaClass _ =>
    obtain ⟨_,pops⟩ := timedOut_pops manager sagaClass now state world
    exact flush_keeps manager formed found (worked manager sagaClass state world pops)
  next => exact .refl manager formed

theorem processTccTimeout_keeps (manager : SagaManager Data) (now : Int) (state : SagaState Data)
    (world : World Data) (formed : world.WellFormed) (found : world.repository.get state.id = some state) :
    manager.Keeps world (manager.processTccTimeout now state world) := by
  unfold processTccTimeout
  split
  next sagaClass _ =>
    have queues := Saga.checkTccTimeouts_queues (manager.instantiate sagaClass state world) now
    split
    next saga same =>
      rw [same] at queues
      exact flush_keeps manager formed found (worked manager sagaClass state world queues.pops)
    next => exact .refl manager formed
  next => exact .refl manager formed

theorem sweep_keeps (manager : SagaManager Data) (each : SagaState Data → World Data → World Data)
    (keeps : ∀ state world, world.WellFormed → world.repository.get state.id = some state →
      manager.Keeps world (each state world))
    (found : List (SagaState Data)) (world : World Data) (formed : world.WellFormed) :
    manager.Keeps world (sweep each found world) := by
  induction found generalizing world with
  | nil => exact .refl manager formed
  | cons state rest ih =>
    simp only [sweep,List.foldl_cons]
    cases here : world.repository.get state.id with
    | none => exact ih world formed
    | some stored =>
      have identity := (formed.stored state.id stored here).1
      have first := keeps stored world formed (by rwa [identity])
      exact first.trans (ih _ first.formed)

theorem step_keeps (manager : SagaManager Data) (world : World Data) (op : ManagerOp Data)
    (formed : world.WellFormed) :
    (manager.step world op).WellFormed ∧ (manager.Orderly world op → manager.Keeps world (manager.step world op)) := by
  have always {after : World Data} (keeps : manager.Keeps world after) :
      after.WellFormed ∧ (True → manager.Keeps world after) := ⟨keeps.formed,fun _ => keeps⟩
  cases op with
  | handle now event =>
    simp only [step,handle,Orderly]
    cases correlationIdFromEvent event with
    | some correlationId => exact processAll_keeps manager correlationId now event _ world formed
    | none => exact always (.refl manager formed)
  | startSaga now sagaClass event correlationId =>
    exact processSaga_keeps manager sagaClass correlationId now event world formed
  | recoverPendingSagas limit =>
    exact always (sweep_keeps manager _ (recoverSaga_keeps manager) _ world formed)
  | processTimeouts now limit =>
    exact always (sweep_keeps manager _ (processTimeout_keeps manager now) _ world formed)
  | processTccTimeouts now limit =>
    exact always (sweep_keeps manager _ (processTccTimeout_keeps manager now) _ world formed)

theorem run_formed (manager : SagaManager Data) (ops : List (ManagerOp Data)) :
    (Transition.run manager.step World.empty ops).WellFormed := by
  induction ops using List.reverseRecOn with
  | nil => exact World.empty_wellFormed
  | append_singleton earlier op ih =>
    rw [Transition.run_append]
    exact (step_keeps manager _ op ih).1

/-- In every run whose events find no earlier command still to be sent in their
way, no collected command is ever lost. -/
theorem orderly_run_loses_nothing (manager : SagaManager Data) (ops : List (ManagerOp Data))
    (orderly : Transition.Meets manager.step manager.Orderly World.empty ops) (earlier : List (ManagerOp Data))
    (reached : earlier <+: ops) : manager.NoneLost (Transition.run manager.step World.empty earlier) := by
  have start : (World.empty : World Data).WellFormed ∧ manager.NoneLost World.empty :=
    ⟨World.empty_wellFormed,by simp [NoneLost,World.empty]⟩
  have kept (world : World Data) (op : ManagerOp Data) (inv : world.WellFormed ∧ manager.NoneLost world)
      (allowed : manager.Orderly world op) :
      (manager.step world op).WellFormed ∧ manager.NoneLost (manager.step world op) := by
    have keeps := (step_keeps manager world op inv.1).2 allowed
    exact ⟨keeps.formed,keeps.noneLost inv.2⟩
  exact (Transition.run_invariant (fun world => world.WellFormed ∧ manager.NoneLost world) kept
    World.empty earlier start (orderly.earlier reached)).2

theorem spares_of_empty (manager : SagaManager Data) (sagaClass : SagaClass Data) (correlationId : String)
    (now : Int) (event : DomainEvent Data) (world : World Data)
    (nothing : (loadOrCreate sagaClass correlationId event world).1.pendingCommands = []) :
    manager.Spares sagaClass correlationId now event world := by
  intro _ _ position queued found
  simp [nothing] at found

def orderCommand (typeName : String) (order : Nat) : Command Nat := ⟨typeName,"shop.orders",order⟩

def orderSaga : SagaClass Nat where
  name := "OrderSaga"
  registered := .empty
  maxRetries := 3
  eventHandlers := [
    ("OrderPlaced",mappedHandler (fun event => orderCommand "ReserveStock" event.payload) (some "reserving")
      (some fun event => orderCommand "ReleaseStock" event.payload) "release the stock" false),
    ("PaymentReceived",mappedHandler (fun event => orderCommand "ShipOrder" event.payload) (some "shipping")
      none "" false)]
  onTimeout := failOnTimeout

def orderRegistry : MessageRegistry Nat where
  commands := ["ReserveStock","ReleaseStock","ShipOrder"].map fun name => (name,⟨name,"shop.orders",some⟩)

def orderManager : SagaManager Nat where
  registry := ⟨[("OrderPlaced",[orderSaga]),("PaymentReceived",[orderSaga])],[("OrderSaga",orderSaga)]⟩
  messageRegistry := orderRegistry
  importCommand := fun _ => none
  commandBus := fun attempt => attempt ≠ 0

def orderEvent (eventType eventId : String) : DomainEvent Nat := ⟨eventType,eventId,some "order-7",none,none,7⟩

theorem orderly_run_loses_nothing_order :
    orderManager.NoneLost (Transition.run orderManager.step World.empty
      [.handle 0 (orderEvent "OrderPlaced" "e1"),.recoverPendingSagas 10,
        .handle 1 (orderEvent "PaymentReceived" "e2")]) := by
  apply orderly_run_loses_nothing _ _ _ _ (List.prefix_refl _)
  refine ⟨⟨spares_of_empty _ _ _ _ _ _ (by decide),?_⟩,trivial,⟨spares_of_empty _ _ _ _ _ _ (by decide),?_⟩,trivial⟩
  all_goals split <;> trivial

/-- The second event marks and clears the command the first one could not send. -/
theorem later_event_drops_command :
    ¬orderManager.NoneLost (Transition.run orderManager.step World.empty
      [.handle 0 (orderEvent "OrderPlaced" "e1"),.handle 1 (orderEvent "PaymentReceived" "e2")]) := by
  intro none
  have collected := none (0,⟨orderCommand "ReserveStock" 7,0,.handler⟩) (by decide)
  rcases collected with ⟨entry,member,tag,_⟩ | ⟨state,found,waits⟩
  · have sent : (Transition.run orderManager.step World.empty [.handle 0 (orderEvent "OrderPlaced" "e1"),
        .handle 1 (orderEvent "PaymentReceived" "e2")]).sent = [⟨orderCommand "ShipOrder" 7,1,.handler⟩] := by decide
    rw [sent,List.mem_singleton] at member
    simp [member] at tag
  · have pending : ((Transition.run orderManager.step World.empty [.handle 0 (orderEvent "OrderPlaced" "e1"),
        .handle 1 (orderEvent "PaymentReceived" "e2")]).repository.get 0).map (·.pendingCommands) = some [] := by decide
    rw [found] at pending
    have nothing : state.pendingCommands = [] := by simpa using pending
    simp [nothing] at waits

end SagaManager

end CqrsDdd.Sagas
