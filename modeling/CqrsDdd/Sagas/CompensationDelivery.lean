import CqrsDdd.Sagas.CommandDelivery

/-! What becomes of the compensation records popped on each path of the manager.
The handler path puts the queued commands on the pending list, unless the handler
raises afterwards; giving up after the retries drops the queue with the saga
object; the timeout sweep only logs a refused send; the TCC sweep pops nothing. -/
namespace CqrsDdd.Sagas.SagaManager

variable {Data : Type}

/-- The command of a popped record was sent or waits in the stored state; a record
that could not be hydrated is listed among the failed compensations. -/
def Kept (manager : SagaManager Data) (world : World Data) (sagaId : Nat) (record : CompensationRecord Data) :
    Option Nat → Prop
  | some tag =>
    (∃ entry ∈ world.sent, entry.tag = tag ∧
      manager.messageRegistry.hydrateCommand record.commandType record.data = some entry.command) ∨
    ∃ state queued, world.repository.get sagaId = some state ∧
      serializeCommandForPending queued ∈ state.pendingCommands ∧ queued.tag = tag ∧
      manager.messageRegistry.hydrateCommand record.commandType record.data = some queued.command
  | none => ∃ state, world.repository.get sagaId = some state ∧
      ∃ failure ∈ state.failedCompensations, failure.commandType = record.commandType

def NoneDropped (manager : SagaManager Data) (before after : World Data) : Prop :=
  ∀ more, after.popped = before.popped ++ more → ∀ entry ∈ more, manager.Kept after entry.1 entry.2.1 entry.2.2

theorem noneDropped_of_popped (manager : SagaManager Data) {before after : World Data}
    {taken : List (Nat × CompensationRecord Data × Option Nat)} (popped : after.popped = before.popped ++ taken) :
    manager.NoneDropped before after ↔ ∀ entry ∈ taken, manager.Kept after entry.1 entry.2.1 entry.2.2 := by
  constructor
  · intro kept
    exact kept taken popped
  · intro kept more grown
    rw [popped,List.append_cancel_left_eq] at grown
    exact grown ▸ kept

structure Unwound (manager : SagaManager Data) (world : World Data) (saga : Saga Data) (restores : Bool) : Prop where
  restored : ∀ record tag, (record,some tag) ∈ saga.popped → ∃ entry ∈ saga.commandsToDispatch,
    entry.tag = tag ∧ entry.origin = .compensation ∧
      manager.messageRegistry.hydrateCommand record.commandType record.data = some entry.command
  refused : ∀ record, (record,none) ∈ saga.popped →
    ∃ failure ∈ saga.state.failedCompensations, failure.commandType = record.commandType
  compensating : ∀ entry ∈ saga.commandsToDispatch, entry.origin = .compensation →
    ∃ record, (record,some entry.tag) ∈ saga.popped
  distinct : (saga.commandsToDispatch.map (·.tag)).Nodup
  flag : saga.popped.any (·.2.isSome) = restores

theorem unwound (manager : SagaManager Data) (sagaClass : SagaClass Data) (state : SagaState Data)
    (world : World Data) {saga : Saga Data} {restores : Bool}
    (pops : (manager.instantiate sagaClass state world).Pops saga restores) : Unwound manager world saga restores := by
  obtain ⟨queued,taken,failed,adds,flag⟩ := pops
  have queue : saga.commandsToDispatch = queued := adds.queue
  have history : saga.popped = taken := adds.history
  refine ⟨fun record tag member => ?_,fun record member => ?_,?_,?_,by rw [history,flag]⟩
  · rw [history] at member
    obtain ⟨entry,present,same,origin,registry,known,hydrated⟩ := adds.restored record tag member
    obtain rfl := Option.some.inj known
    exact ⟨entry,by rwa [queue],same,origin,hydrated⟩
  · rw [history] at member
    obtain ⟨failure,present,same⟩ := adds.refused record member
    refine ⟨failure,?_,same⟩
    rw [adds.failures]
    exact List.mem_append_right _ present
  · rw [queue,history]
    exact adds.compensating
  · rw [queue,adds.tags]
    exact List.nodup_range'

theorem not_kept_of_fresh (manager : SagaManager Data) {world after : World Data} {state stored : SagaState Data}
    (formed : world.WellFormed) (fits : world.Fits state) (sent : after.sent = world.sent) {sagaId : Nat}
    (present : after.repository.get sagaId = some stored) (same : stored.pendingCommands = state.pendingCommands)
    (record : CompensationRecord Data) {tag : Nat} (fresh : world.nextTag ≤ tag) :
    ¬manager.Kept after sagaId record (some tag) := by
  rintro (⟨entry,member,numbered,_⟩ | ⟨current,queued,found,member,numbered,_⟩)
  · rw [sent] at member
    have bound := formed.sent entry member
    omega
  · rw [present] at found
    obtain rfl := Option.some.inj found
    rw [same] at member
    have bound := fits.2 queued (List.mem_map_of_mem member)
    omega

theorem absorbed_kept_iff (manager : SagaManager Data) {world : World Data} {state : SagaState Data}
    {saga : Saga Data} {restores : Bool} (formed : world.WellFormed) (fits : world.Fits state)
    (work : Worked world state saga) (unwinds : Unwound manager world saga restores) :
    manager.NoneDropped world ((world.absorb saga).add saga.state) ↔ restores = false := by
  have present : ((world.absorb saga).add saga.state).repository.get saga.state.id = some saga.state :=
    Dict.get_set_same _ _ _
  have popped : ((world.absorb saga).add saga.state).popped =
      world.popped ++ saga.popped.map fun entry => (saga.state.id,entry) := rfl
  have sent : ((world.absorb saga).add saga.state).sent = world.sent := rfl
  rw [noneDropped_of_popped manager popped]
  constructor
  · intro kept
    rw [← unwinds.flag,List.any_eq_false]
    rintro ⟨record,tag⟩ member
    cases tag with
    | none => simp
    | some tag =>
      obtain ⟨entry,queued,rfl,_⟩ := unwinds.restored record tag member
      exact absurd (kept _ (List.mem_map_of_mem member))
        (not_kept_of_fresh manager formed fits sent present work.pending record (work.tags entry queued).1)
  · intro nothing entry member
    obtain ⟨⟨record,tag⟩,taken,rfl⟩ := List.mem_map.mp member
    cases tag with
    | none =>
      obtain ⟨failure,listed,same⟩ := unwinds.refused record taken
      exact ⟨saga.state,present,failure,listed,same⟩
    | some tag =>
      have none := List.any_eq_false.mp (unwinds.flag.trans nothing) _ taken
      simp at none

theorem delivery_kept (manager : SagaManager Data) {world after : World Data} {saga : Saga Data} {restores : Bool}
    {final : SagaState Data} (unwinds : Unwound manager world saga restores)
    (delivery : Delivery manager saga (world.absorb saga) after final) : manager.NoneDropped world after := by
  have popped : after.popped = world.popped ++ saga.popped.map fun entry => (saga.state.id,entry) := delivery.popped
  rw [noneDropped_of_popped manager popped]
  intro entry member
  obtain ⟨⟨record,tag⟩,taken,rfl⟩ := List.mem_map.mp member
  cases tag with
  | none =>
    obtain ⟨failure,listed,same⟩ := unwinds.refused record taken
    have failures : final.failedCompensations = saga.state.failedCompensations := by
      have whole := congrArg SagaState.failedCompensations delivery.rest
      exact whole
    exact ⟨final,delivery.stored,failure,by rwa [failures],same⟩
  | some tag =>
    obtain ⟨queued,present,numbered,_,hydrated⟩ := unwinds.restored record tag taken
    rcases delivery_accounts delivery queued present with sent | waits
    · exact .inl ⟨queued,sent,numbered,hydrated⟩
    · exact .inr ⟨final,queued,delivery.stored,waits,numbered,hydrated⟩

theorem flushed_kept_iff (manager : SagaManager Data) {world after : World Data} {state : SagaState Data}
    {saga : Saga Data} {restores : Bool} (formed : world.WellFormed) (fits : world.Fits state)
    (work : Worked world state saga) (unwinds : Unwound manager world saga restores)
    (flushed : Flushed manager saga world after) :
    manager.NoneDropped world after ↔ ∀ (position : Nat) queued,
      saga.commandsToDispatch[position]? = some queued → queued.origin = .compensation →
        manager.commandBus (world.attempts + position) = true := by
  obtain ⟨more,grown,known⟩ := flushed.sent
  rw [noneDropped_of_popped manager flushed.popped]
  constructor
  · intro kept position queued found origin
    have member := List.mem_of_getElem? found
    obtain ⟨record,taken⟩ := unwinds.compensating queued member origin
    have fresh := (work.tags queued member).1
    rcases kept _ (List.mem_map_of_mem taken) with ⟨entry,sent,numbered,_⟩ | ⟨stored,entry,present,waits,numbered,_⟩
    · rw [grown] at sent
      rcases List.mem_append.mp sent with old | new
      · have bound := formed.sent entry old
        omega
      · obtain ⟨other,elsewhere,answer⟩ := (known entry).mp new
        have same : entry = queued :=
          List.inj_on_of_nodup_map unwinds.distinct (List.mem_of_getElem? elsewhere) member numbered
        subst same
        have positions : other = position := by
          have inside := (List.getElem?_eq_some_iff.mp elsewhere).1
          have nodup := List.Nodup.of_map _ unwinds.distinct
          exact (List.getElem?_inj inside nodup).mp (elsewhere.trans found.symm)
        rwa [positions] at answer
    · rw [flushed.stored] at present
      obtain rfl := Option.some.inj present
      rw [work.pending] at waits
      have bound := fits.2 entry (List.mem_map_of_mem waits)
      omega
  · intro accepts entry member
    obtain ⟨⟨record,tag⟩,taken,rfl⟩ := List.mem_map.mp member
    cases tag with
    | none =>
      obtain ⟨failure,listed,same⟩ := unwinds.refused record taken
      exact ⟨saga.state,flushed.stored,failure,listed,same⟩
    | some tag =>
      obtain ⟨queued,present,numbered,origin,hydrated⟩ := unwinds.restored record tag taken
      obtain ⟨position,found⟩ := List.getElem?_of_mem present
      refine .inl ⟨queued,?_,numbered,hydrated⟩
      rw [grown]
      exact List.mem_append_right _ ((known queued).mpr ⟨position,found,accepts position queued found origin⟩)

theorem noneDropped_of_same (manager : SagaManager Data) {before after : World Data}
    (popped : after.popped = before.popped) : manager.NoneDropped before after := by
  rw [noneDropped_of_popped manager (popped.trans (List.append_nil _).symm)]
  simp

/-- The handler does not raise once it has popped a record that became a command. -/
def HandlerReturns (manager : SagaManager Data) (sagaClass : SagaClass Data) (correlationId : String) (now : Int)
    (event : DomainEvent Data) (world : World Data) : Prop :=
  let loaded := loadOrCreate sagaClass correlationId event world
  let saga := manager.instantiate sagaClass loaded.1 loaded.2
  loaded.1.isTerminal = false → (saga.handle sagaClass now event).2 ≠ none →
    saga.handleUnwinds sagaClass now event = false

def NothingRestorable (manager : SagaManager Data) (state : SagaState Data) : Prop :=
  ∀ sagaClass, manager.registry.getSagaType state.sagaType = some sagaClass →
    ∀ record ∈ state.compensationStack, Saga.hydratable manager.messageRegistry record = false

def BusAccepts (manager : SagaManager Data) (now : Int) (state : SagaState Data) (world : World Data) : Prop :=
  ∀ sagaClass, manager.registry.getSagaType state.sagaType = some sagaClass → ∀ (position : Nat) queued,
    (manager.timedOut sagaClass now state world).commandsToDispatch[position]? = some queued →
    queued.origin = .compensation → manager.commandBus (world.attempts + position) = true

theorem processSaga_kept_iff (manager : SagaManager Data) (sagaClass : SagaClass Data) (correlationId : String)
    (now : Int) (event : DomainEvent Data) (world : World Data) (formed : world.WellFormed) :
    manager.NoneDropped world (manager.processSaga sagaClass correlationId now event world).1 ↔
      manager.HandlerReturns sagaClass correlationId now event world := by
  have loaded := loadOrCreate_loaded sagaClass correlationId event world formed
  unfold HandlerReturns processSaga
  generalize loadOrCreate sagaClass correlationId event world = started at loaded
  obtain ⟨state,opened⟩ := started
  dsimp only at loaded ⊢
  cases live : state.isTerminal with
  | true => simpa using noneDropped_of_same manager loaded.popped
  | false =>
    have pops := Saga.handle_pops sagaClass now event (manager.instantiate sagaClass state opened)
    have work := worked manager sagaClass state opened pops
    have unwinds := unwound manager sagaClass state opened pops
    generalize (manager.instantiate sagaClass state opened).handle sagaClass now event = handled at work unwinds
    obtain ⟨saga,outcome⟩ := handled
    dsimp only at work unwinds
    have same (after : World Data) : manager.NoneDropped world after ↔ manager.NoneDropped opened after := by
      unfold NoneDropped
      rw [loaded.popped]
    cases outcome with
    | some error =>
      have kept := absorbed_kept_iff manager loaded.formed (loaded.formed.fits loaded.found) work unwinds
      simpa [same] using kept
    | none =>
      obtain ⟨final,delivery⟩ := deliver_spec manager saga (opened.absorb saga)
      have kept := delivery_kept manager unwinds delivery
      simpa [same] using kept

theorem failSagaMaxRetries_kept_iff (manager : SagaManager Data) (state : SagaState Data) (world : World Data)
    (formed : world.WellFormed) (found : world.repository.get state.id = some state) :
    manager.NoneDropped world (manager.failSagaMaxRetries state world) ↔ manager.NothingRestorable state := by
  unfold failSagaMaxRetries NothingRestorable
  cases manager.registry.getSagaType state.sagaType with
  | none => simpa using noneDropped_of_same manager rfl
  | some sagaClass =>
    have pops := Saga.fail_pops (manager.instantiate sagaClass state world) (abandonReason state) true
    have kept := absorbed_kept_iff manager formed (formed.fits found)
      (worked manager sagaClass state world pops) (unwound manager sagaClass state world pops)
    simpa [Saga.restorable,instantiate,Saga.create] using kept

theorem processTimeout_kept_iff (manager : SagaManager Data) (now : Int) (state : SagaState Data)
    (world : World Data) (formed : world.WellFormed) (found : world.repository.get state.id = some state) :
    manager.NoneDropped world (manager.processTimeout now state world) ↔ manager.BusAccepts now state world := by
  unfold processTimeout BusAccepts
  cases manager.registry.getSagaType state.sagaType with
  | none => simpa using noneDropped_of_same manager rfl
  | some sagaClass =>
    obtain ⟨_,pops⟩ := timedOut_pops manager sagaClass now state world
    have kept := flushed_kept_iff manager formed (formed.fits found) (worked manager sagaClass state world pops)
      (unwound manager sagaClass state world pops) (flush_spec manager _ world)
    simpa using kept

theorem processTccTimeout_kept (manager : SagaManager Data) (now : Int) (state : SagaState Data)
    (world : World Data) : manager.NoneDropped world (manager.processTccTimeout now state world) := by
  unfold processTccTimeout
  split
  next sagaClass _ =>
    have queues := Saga.checkTccTimeouts_queues (manager.instantiate sagaClass state world) now
    split
    next saga same =>
      rw [same] at queues
      obtain ⟨queued,adds⟩ := queues
      have nothing : saga.popped = [] := adds.history
      apply noneDropped_of_same
      rw [(flush_spec manager saga world).popped,nothing]
      simp
    next => exact noneDropped_of_same manager rfl
  next => exact noneDropped_of_same manager rfl

/-- After any run, each path of the manager keeps every record it pops exactly
under the condition named for it; the TCC sweep needs none. -/
theorem compensations_kept_iff (manager : SagaManager Data) (ops : List (ManagerOp Data)) :
    let world := Transition.run manager.step World.empty ops
    (∀ sagaClass correlationId now event,
      manager.NoneDropped world (manager.processSaga sagaClass correlationId now event world).1 ↔
        manager.HandlerReturns sagaClass correlationId now event world) ∧
    (∀ state ∈ world.repository.values,
      (manager.NoneDropped world (manager.failSagaMaxRetries state world) ↔ manager.NothingRestorable state) ∧
      (∀ now, manager.NoneDropped world (manager.processTimeout now state world) ↔
        manager.BusAccepts now state world) ∧
      ∀ now, manager.NoneDropped world (manager.processTccTimeout now state world)) := by
  have formed := run_formed manager ops
  refine ⟨fun sagaClass correlationId now event => ?_,fun state member => ⟨?_,fun now => ?_,fun now => ?_⟩⟩
  · exact processSaga_kept_iff manager sagaClass correlationId now event _ formed
  · exact failSagaMaxRetries_kept_iff manager state _ formed (formed.values member)
  · exact processTimeout_kept_iff manager now state _ formed (formed.values member)
  · exact processTccTimeout_kept manager now state _

def stalledWorld : World Nat :=
  Transition.run orderManager.step World.empty [.handle 0 (orderEvent "OrderPlaced" "e1")]

def stalledOrder : SagaState Nat := (stalledWorld.repository.get 0).getD (SagaState.initial 0 "" "")

theorem compensations_kept_iff_order : stalledOrder ∈ stalledWorld.repository.values ∧
    orderManager.NoneDropped stalledWorld (orderManager.processTimeout 5 stalledOrder stalledWorld) := by
  have stored : stalledOrder ∈ stalledWorld.repository.values := by decide
  refine ⟨stored,(((compensations_kept_iff orderManager _).2 stalledOrder stored).2.1 5).mpr ?_⟩
  intro sagaClass _ position queued _ _
  have sends : stalledWorld.attempts = 1 := by decide
  change orderManager.commandBus (stalledWorld.attempts + position) = true
  rw [sends]
  simp [orderManager]

/-- A bus that never answers: after three recoveries the fourth gives the saga up. -/
def deadManager : SagaManager Nat := {orderManager with commandBus := fun _ => false}

def exhaustedWorld : World Nat :=
  Transition.run deadManager.step World.empty [.handle 0 (orderEvent "OrderPlaced" "e1"),
    .recoverPendingSagas 10,.recoverPendingSagas 10,.recoverPendingSagas 10]

theorem abandoned_saga_drops_compensation :
    ((deadManager.step exhaustedWorld (.recoverPendingSagas 10)).repository.get 0).map (·.status) =
        some .compensated ∧
      ¬deadManager.NoneDropped exhaustedWorld (deadManager.step exhaustedWorld (.recoverPendingSagas 10)) := by
  refine ⟨by decide,fun kept => ?_⟩
  have popped : (deadManager.step exhaustedWorld (.recoverPendingSagas 10)).popped =
      exhaustedWorld.popped ++ [(0,⟨"ReleaseStock","shop.orders",7,"release the stock"⟩,some 1)] := by decide
  rcases kept _ popped _ (List.mem_singleton_self _) with ⟨entry,member,_⟩ | ⟨state,queued,found,waits,tag,_⟩
  · have sent : (deadManager.step exhaustedWorld (.recoverPendingSagas 10)).sent = [] := by decide
    simp [sent] at member
  · have pending : ((deadManager.step exhaustedWorld (.recoverPendingSagas 10)).repository.get 0).map
        (·.pendingCommands) = some [⟨⟨orderCommand "ReserveStock" 7,0,.handler⟩,false⟩] := by decide
    rw [found] at pending
    have only : state.pendingCommands = [⟨⟨orderCommand "ReserveStock" 7,0,.handler⟩,false⟩] := by simpa using pending
    simp only [only,List.mem_singleton,serializeCommandForPending,PendingCommand.mk.injEq] at waits
    simp [waits.1] at tag

end CqrsDdd.Sagas.SagaManager
