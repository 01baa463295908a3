import CqrsDdd.Sagas.Effects

/-! What the sending loops of the manager do to the pending list, the repository
and the history, and the numbering that keeps two occurrences of a command apart. -/
namespace CqrsDdd.Sagas

variable {Data : Type}

structure World.Frame (before after : World Data) : Prop where
  nextId : after.nextId = before.nextId
  nextTag : after.nextTag = before.nextTag
  collected : after.collected = before.collected
  popped : after.popped = before.popped

theorem World.Frame.refl (world : World Data) : World.Frame world world := ⟨rfl,rfl,rfl,rfl⟩

theorem World.Frame.trans {first middle last : World Data} (earlier : World.Frame first middle)
    (later : World.Frame middle last) : World.Frame first last :=
  ⟨later.nextId.trans earlier.nextId,later.nextTag.trans earlier.nextTag,
    later.collected.trans earlier.collected,later.popped.trans earlier.popped⟩

theorem markDispatched_rest (index : Nat) (state : SagaState Data) :
    {markDispatched index state with pendingCommands := state.pendingCommands} = state := rfl

theorem markDispatched_queued (index : Nat) (state : SagaState Data) :
    (markDispatched index state).pendingCommands.map (·.queued) = state.pendingCommands.map (·.queued) := by
  apply List.ext_getElem?
  intro position
  simp only [markDispatched,List.getElem?_map,List.getElem?_modify]
  cases state.pendingCommands[position]? with
  | none => rfl
  | some entry =>
    by_cases hit : index = position
    · simp [hit]
    · simp [hit]

theorem markDispatched_other (index position : Nat) (state : SagaState Data) (differs : index ≠ position) :
    (markDispatched index state).pendingCommands[position]? = state.pendingCommands[position]? := by
  simp [markDispatched,differs]

namespace SagaManager

theorem send_eq (manager : SagaManager Data) (queued : QueuedCommand Data) (world : World Data) :
    manager.send queued world = (manager.commandBus world.attempts,
      {world with
        attempts := world.attempts+1
        sent := if manager.commandBus world.attempts then world.sent ++ [queued] else world.sent}) := by
  unfold send
  cases manager.commandBus world.attempts <;> rfl

/-- How many of `count` sends from attempt `attempts` on the bus accepts before its first refusal. -/
def accepted (bus : Nat → Bool) : Nat → Nat → Nat
  | _, 0 => 0
  | attempts, count+1 => if bus attempts then accepted bus (attempts+1) count + 1 else 0

theorem accepted_le (bus : Nat → Bool) (attempts count : Nat) : accepted bus attempts count ≤ count := by
  induction count generalizing attempts with
  | zero => exact Nat.le_refl 0
  | succ count ih =>
    unfold accepted
    split
    next => exact Nat.succ_le_succ (ih (attempts+1))
    next => exact Nat.zero_le _

theorem accepted_refused (bus : Nat → Bool) (attempts count limit : Nat) :
    (accepted bus attempts count ≤ limit ∧ accepted bus attempts count < count) ↔
      ∃ position ≤ limit, position < count ∧ bus (attempts+position) = false := by
  induction count generalizing attempts limit with
  | zero => simp [accepted]
  | succ count ih =>
    unfold accepted
    by_cases first : bus attempts = true
    · rw [if_pos first]
      cases limit with
      | zero =>
        constructor
        · intro ⟨bound,_⟩
          omega
        · rintro ⟨position,bound,_,refused⟩
          have same : position = 0 := by omega
          subst same
          simp [first] at refused
      | succ limit =>
        rw [Nat.succ_le_succ_iff,Nat.succ_lt_succ_iff,ih]
        constructor
        · rintro ⟨position,bound,inside,refused⟩
          exact ⟨position+1,by omega,by omega,by rwa [← Nat.add_assoc,Nat.add_right_comm]⟩
        · rintro ⟨position,bound,inside,refused⟩
          cases position with
          | zero => simp [first] at refused
          | succ position => exact ⟨position,by omega,by omega,by rwa [Nat.add_assoc,Nat.add_comm 1]⟩
    · rw [if_neg first]
      simp only [Bool.not_eq_true] at first
      exact ⟨fun _ => ⟨0,Nat.zero_le _,Nat.succ_pos _,first⟩,fun _ => ⟨Nat.zero_le _,Nat.succ_pos _⟩⟩

/-- The loop of `_dispatch_and_persist_commands` from position `index` on, after `count` accepted sends. -/
structure Dispatched (index count : Nat) (commands : List (QueuedCommand Data)) (state : SagaState Data)
    (before : World Data) (marked : SagaState Data) (after : World Data) : Prop where
  rest : {marked with pendingCommands := state.pendingCommands} = state
  same : marked.pendingCommands.map (·.queued) = state.pendingCommands.map (·.queued)
  kept : ∀ position, position < index ∨ index + count ≤ position →
    marked.pendingCommands[position]? = state.pendingCommands[position]?
  sent : after.sent = before.sent ++ commands.take count
  others : ∀ id, id ≠ state.id → after.repository.get id = before.repository.get id
  stored : before.repository.get state.id = some state → after.repository.get state.id = some marked
  frame : World.Frame before after

theorem dispatch_spec (manager : SagaManager Data) (index : Nat) (commands : List (QueuedCommand Data))
    (state : SagaState Data) (world : World Data) :
    (manager.dispatchAndPersistCommands index commands state world).1 =
        decide (accepted manager.commandBus world.attempts commands.length = commands.length) ∧
      Dispatched index (accepted manager.commandBus world.attempts commands.length) commands state world
        (manager.dispatchAndPersistCommands index commands state world).2.1
        (manager.dispatchAndPersistCommands index commands state world).2.2 := by
  induction commands generalizing index state world with
  | nil => exact ⟨rfl,rfl,rfl,fun _ _ => rfl,by simp [dispatchAndPersistCommands],fun _ _ => rfl,id,.refl world⟩
  | cons queued rest ih =>
    cases answer : manager.commandBus world.attempts with
    | false =>
      simp only [dispatchAndPersistCommands,send_eq,answer,accepted,List.length_cons]
      refine ⟨by simp,rfl,rfl,fun _ _ => rfl,by simp,fun _ _ => rfl,id,⟨rfl,rfl,rfl,rfl⟩⟩
    | true =>
      simp only [dispatchAndPersistCommands,send_eq,answer,accepted,List.length_cons,if_true]
      let marked := markDispatched index state
      let next : World Data := {world with attempts := world.attempts+1, sent := world.sent ++ [queued]}.add marked
      obtain ⟨flag,spec⟩ := ih (index+1) marked next
      refine ⟨flag.trans (by simp [next,World.add]),?_,?_,?_,?_,?_,?_,?_⟩
      · have whole := congrArg (fun current : SagaState Data =>
          {current with pendingCommands := state.pendingCommands}) spec.rest
        exact whole.trans (markDispatched_rest index state)
      · exact spec.same.trans (markDispatched_queued index state)
      · intro position outside
        rw [spec.kept position (by dsimp only [next,World.add]; omega)]
        exact markDispatched_other index position state (by omega)
      · rw [spec.sent]
        simp [next,World.add]
      · intro id differs
        rw [spec.others id differs]
        exact Dict.get_set_other _ _ differs
      · intro _
        exact spec.stored (Dict.get_set_same _ _ _)
      · have started : World.Frame world next := ⟨rfl,rfl,rfl,rfl⟩
        exact started.trans spec.frame

/-- The bus accepted this occurrence, as it was queued or as `_deserialize_command` rebuilt it. -/
def Delivered (manager : SagaManager Data) (sent : List (QueuedCommand Data)) (queued : QueuedCommand Data) : Prop :=
  ∃ entry ∈ sent, entry.tag = queued.tag ∧
    (entry.command = queued.command ∨ manager.deserializeCommand queued.command = some entry.command)

theorem Delivered.later {manager : SagaManager Data} {sent : List (QueuedCommand Data)}
    {queued : QueuedCommand Data} (delivered : manager.Delivered sent queued) (more : List (QueuedCommand Data)) :
    manager.Delivered (sent ++ more) queued := by
  obtain ⟨entry,member,facts⟩ := delivered
  exact ⟨entry,List.mem_append_left _ member,facts⟩

/-- The loop of `_dispatch_undispatched_commands`: a command that was waiting still
waits or was sent, and everything sent had been pending. -/
structure Redispatched (manager : SagaManager Data) (state : SagaState Data) (before : World Data)
    (marked : SagaState Data) (after : World Data) : Prop where
  rest : {marked with pendingCommands := state.pendingCommands} = state
  same : marked.pendingCommands.map (·.queued) = state.pendingCommands.map (·.queued)
  covered : ∀ queued, serializeCommandForPending queued ∈ state.pendingCommands →
    serializeCommandForPending queued ∈ marked.pendingCommands ∨ manager.Delivered after.sent queued
  sent : ∃ more, after.sent = before.sent ++ more ∧
    ∀ entry ∈ more, ∃ queued ∈ state.pendingCommands.map (·.queued), entry.tag = queued.tag
  others : ∀ id, id ≠ state.id → after.repository.get id = before.repository.get id
  stored : before.repository.get state.id = some state → after.repository.get state.id = some marked
  frame : World.Frame before after

theorem Redispatched.stalled (manager : SagaManager Data) (state : SagaState Data) (before after : World Data)
    (sent : after.sent = before.sent) (repository : after.repository = before.repository)
    (frame : World.Frame before after) : Redispatched manager state before state after where
  rest := rfl
  same := rfl
  covered _ waits := .inl waits
  sent := ⟨[],by simpa using sent,by simp⟩
  others _ _ := by rw [repository]
  stored present := by rw [repository,present]
  frame := frame

theorem redispatch_spec (manager : SagaManager Data) (entries : List (PendingCommand Data × Nat))
    (state : SagaState Data) (world : World Data)
    (pending : ∀ entry ∈ entries, (state.pendingCommands.map (·.queued))[entry.2]? = some entry.1.queued) :
    Redispatched manager state world (manager.redispatch entries state world).2.1
        (manager.redispatch entries state world).2.2 ∧
      ((manager.redispatch entries state world).1 = true →
        ∀ entry ∈ entries, manager.Delivered (manager.redispatch entries state world).2.2.sent entry.1.queued) := by
  induction entries generalizing state world with
  | nil => exact ⟨.stalled manager state world world rfl rfl (.refl world),by simp⟩
  | cons entry rest ih =>
    obtain ⟨entry,index⟩ := entry
    unfold redispatch
    cases rebuilt : manager.deserializeCommand entry.queued.command with
    | none => exact ⟨.stalled manager state world world rfl rfl (.refl world),by simp⟩
    | some command =>
      simp only [send_eq]
      cases answer : manager.commandBus world.attempts with
      | false => exact ⟨.stalled manager state world _ rfl rfl ⟨rfl,rfl,rfl,rfl⟩,by simp⟩
      | true =>
        simp only [if_true]
        let marked := markDispatched index state
        let next : World Data :=
          {world with
            attempts := world.attempts+1
            sent := world.sent ++ [{entry.queued with command := command}]}.add marked
        have here := pending (entry,index) List.mem_cons_self
        obtain ⟨spec,finished⟩ := ih marked next (by
          intro other member
          rw [markDispatched_queued]
          exact pending other (List.mem_cons_of_mem _ member))
        obtain ⟨more,grown,known⟩ := spec.sent
        have arrived : manager.Delivered (manager.redispatch rest marked next).2.2.sent entry.queued := by
          have sent : manager.Delivered next.sent entry.queued :=
            ⟨{entry.queued with command := command},List.mem_append_right _
              (List.mem_singleton_self _),rfl,.inr rebuilt⟩
          rw [grown]
          exact sent.later more
        refine ⟨⟨?_,?_,?_,?_,?_,?_,?_⟩,?_⟩
        · have whole := congrArg (fun current : SagaState Data =>
            {current with pendingCommands := state.pendingCommands}) spec.rest
          exact whole.trans (markDispatched_rest index state)
        · exact spec.same.trans (markDispatched_queued index state)
        · intro queued waits
          obtain ⟨position,found⟩ := List.getElem?_of_mem waits
          by_cases hit : index = position
          · subst hit
            have same : queued = entry.queued := by
              simpa [List.getElem?_map,found,serializeCommandForPending] using here
            rw [same]
            exact .inr arrived
          · apply spec.covered
            exact List.mem_of_getElem? ((markDispatched_other index position state hit).trans found)
        · refine ⟨{entry.queued with command := command}::more,?_,?_⟩
          · rw [grown]
            simp [next,World.add]
          · intro sent member
            rcases List.mem_cons.mp member with rfl | later
            · exact ⟨entry.queued,List.mem_of_getElem? here,rfl⟩
            · have same := known sent later
              rwa [markDispatched_queued] at same
        · intro id differs
          rw [spec.others id differs]
          exact Dict.get_set_other _ _ differs
        · intro _
          exact spec.stored (Dict.get_set_same _ _ _)
        · have started : World.Frame world next := ⟨rfl,rfl,rfl,rfl⟩
          exact started.trans spec.frame
        · intro done other member
          rcases List.mem_cons.mp member with rfl | later
          · exact arrived
          · exact finished done other later

theorem sendAll_spec (manager : SagaManager Data) (commands : List (QueuedCommand Data)) (world : World Data) :
    World.Frame world (manager.sendAll commands world) ∧
      (manager.sendAll commands world).repository = world.repository ∧
      ∃ more, (manager.sendAll commands world).sent = world.sent ++ more ∧
        ∀ queued, queued ∈ more ↔ ∃ position : Nat, commands[position]? = some queued ∧
          manager.commandBus (world.attempts+position) = true := by
  induction commands generalizing world with
  | nil => exact ⟨.refl world,rfl,[],by simp [sendAll],by simp⟩
  | cons first rest ih =>
    have unfolded : manager.sendAll (first::rest) world = manager.sendAll rest (manager.send first world).2 := rfl
    rw [unfolded]
    obtain ⟨frame,repository,more,grown,known⟩ := ih (manager.send first world).2
    have started : World.Frame world (manager.send first world).2 := by
      rw [send_eq]
      exact ⟨rfl,rfl,rfl,rfl⟩
    refine ⟨started.trans frame,repository.trans (by rw [send_eq]),
      (if manager.commandBus world.attempts then [first] else []) ++ more,?_,?_⟩
    · rw [grown,send_eq]
      cases manager.commandBus world.attempts <;> simp
    · intro queued
      have shift (position : Nat) : world.attempts + 1 + position = world.attempts + (position+1) := by omega
      rw [List.mem_append,known,send_eq]
      constructor
      · rintro (here | ⟨position,found,answer⟩)
        · cases answer : manager.commandBus world.attempts with
          | false => simp [answer] at here
          | true =>
            have same : queued = first := by simpa [answer] using here
            exact ⟨0,by simp [same],answer⟩
        · exact ⟨position+1,found,by rwa [← shift]⟩
      · rintro ⟨position,found,answer⟩
        cases position with
        | zero =>
          have same : first = queued := by simpa using found
          exact .inl (by simp_all)
        | succ position => exact .inr ⟨position,found,by rwa [shift]⟩

end SagaManager

namespace World

def Fits (world : World Data) (state : SagaState Data) : Prop :=
  state.id < world.nextId ∧ ∀ queued ∈ state.pendingCommands.map (·.queued), queued.tag < world.nextTag

structure WellFormed (world : World Data) : Prop where
  stored : ∀ id state, world.repository.get id = some state → state.id = id ∧ world.Fits state
  sent : ∀ queued ∈ world.sent, queued.tag < world.nextTag

theorem empty_wellFormed : (empty : World Data).WellFormed :=
  ⟨by simp [empty],by simp [empty]⟩

theorem WellFormed.values {world : World Data} (formed : world.WellFormed) {state : SagaState Data}
    (member : state ∈ world.repository.values) : world.repository.get state.id = some state := by
  obtain ⟨id,found⟩ := Dict.get_of_mem_values world.repository member
  rw [(formed.stored id state found).1]
  exact found

theorem WellFormed.fits {world : World Data} (formed : world.WellFormed) {state : SagaState Data}
    (found : world.repository.get state.id = some state) : world.Fits state :=
  (formed.stored state.id state found).2

theorem WellFormed.add {world : World Data} (formed : world.WellFormed) {state : SagaState Data}
    (fits : world.Fits state) : (world.add state).WellFormed := by
  refine ⟨fun id stored found => ?_,formed.sent⟩
  simp only [World.add,Dict.get_set] at found
  split at found
  next same =>
    obtain rfl := Option.some.inj found
    exact ⟨same.symm,fits⟩
  next => exact formed.stored id stored found

theorem WellFormed.later {before after : World Data} (formed : before.WellFormed)
    (repository : after.repository = before.repository) (nextId : before.nextId ≤ after.nextId)
    (nextTag : before.nextTag ≤ after.nextTag) (sent : ∀ queued ∈ after.sent, queued.tag < after.nextTag) :
    after.WellFormed := by
  refine ⟨fun id state found => ?_,sent⟩
  rw [repository] at found
  obtain ⟨same,bound,tags⟩ := formed.stored id state found
  exact ⟨same,Nat.lt_of_lt_of_le bound nextId,fun queued member => Nat.lt_of_lt_of_le (tags queued member) nextTag⟩

theorem WellFormed.absorb {world : World Data} (formed : world.WellFormed) (saga : Saga Data)
    (grows : world.nextTag ≤ saga.nextTag) : (world.absorb saga).WellFormed :=
  formed.later rfl (Nat.le_refl _) grows fun queued member => Nat.lt_of_lt_of_le (formed.sent queued member) grows

theorem WellFormed.rewrite {before after : World Data} (formed : before.WellFormed) {state marked : SagaState Data}
    (fits : before.Fits state) (found : before.repository.get state.id = some state)
    (rest : {marked with pendingCommands := state.pendingCommands} = state)
    (same : marked.pendingCommands.map (·.queued) = state.pendingCommands.map (·.queued))
    (others : ∀ id, id ≠ state.id → after.repository.get id = before.repository.get id)
    (stored : before.repository.get state.id = some state → after.repository.get state.id = some marked)
    (frame : World.Frame before after) (sent : ∀ queued ∈ after.sent, queued.tag < before.nextTag) :
    after.WellFormed ∧ after.Fits marked := by
  have identity : marked.id = state.id := by
    have same := congrArg SagaState.id rest
    exact same
  have fitted : after.Fits marked := by
    refine ⟨?_,?_⟩
    · rw [identity,frame.nextId]
      exact fits.1
    · rw [same,frame.nextTag]
      exact fits.2
  refine ⟨⟨fun id other present => ?_,?_⟩,fitted⟩
  · by_cases hit : id = state.id
    · rw [hit,stored found] at present
      obtain rfl := Option.some.inj present
      exact ⟨identity.trans hit.symm,fitted⟩
    · rw [others id hit] at present
      obtain ⟨key,bound,tags⟩ := formed.stored id other present
      exact ⟨key,by rwa [frame.nextId],by rwa [frame.nextTag]⟩
  · rw [frame.nextTag]
    exact sent

end World

namespace SagaManager

structure Loaded (world : World Data) (state : SagaState Data) (after : World Data) : Prop where
  formed : after.WellFormed
  found : after.repository.get state.id = some state
  kept : ∀ id stored, world.repository.get id = some stored → after.repository.get id = some stored
  nextTag : after.nextTag = world.nextTag
  attempts : after.attempts = world.attempts
  sent : after.sent = world.sent
  collected : after.collected = world.collected
  popped : after.popped = world.popped

theorem initial_frame (sagaClass : SagaClass Data) (correlationId : String) (event : DomainEvent Data) (id : Nat) :
    let state := injectTenantMetadata event
      {SagaState.initial id sagaClass.name correlationId with maxRetries := sagaClass.maxRetries}
    state.id = id ∧ state.pendingCommands = [] := by
  unfold injectTenantMetadata
  split
  next => split <;> exact ⟨rfl,rfl⟩
  next => exact ⟨rfl,rfl⟩

theorem loadOrCreate_loaded (sagaClass : SagaClass Data) (correlationId : String) (event : DomainEvent Data)
    (world : World Data) (formed : world.WellFormed) :
    Loaded world (loadOrCreate sagaClass correlationId event world).1
      (loadOrCreate sagaClass correlationId event world).2 := by
  unfold loadOrCreate
  split
  next state found =>
    exact ⟨formed,formed.values (List.mem_of_find?_eq_some found),fun _ _ stored => stored,rfl,rfl,rfl,rfl,rfl⟩
  next =>
    obtain ⟨identity,nothing⟩ := initial_frame sagaClass correlationId event world.nextId
    have unused (id : Nat) (stored : SagaState Data) (found : world.repository.get id = some stored) :
        id ≠ world.nextId := by
      have bound := (formed.stored id stored found).2.1
      rw [(formed.stored id stored found).1] at bound
      exact Nat.ne_of_lt bound
    have opened : {world with nextId := world.nextId+1}.WellFormed :=
      formed.later rfl (Nat.le_succ _) (Nat.le_refl _) formed.sent
    refine ⟨opened.add ⟨?_,?_⟩,Dict.get_set_same _ _ _,?_,rfl,rfl,rfl,rfl,rfl⟩
    · rw [identity]
      exact Nat.lt_succ_self _
    · rw [nothing]
      simp
    · intro id stored found
      have differs := unused id stored found
      rw [← identity] at differs
      exact (Dict.get_set_other _ _ differs).trans found

theorem loadOrCreate_origin (sagaClass : SagaClass Data) (correlationId : String) (event : DomainEvent Data)
    {world : World Data} (formed : world.WellFormed) :
    (∃ state, world.findByCorrelationId correlationId sagaClass.name = some state ∧
        world.repository.get state.id = some state ∧
        loadOrCreate sagaClass correlationId event world = (state,world)) ∨
      ∃ state, world.findByCorrelationId correlationId sagaClass.name = none ∧ state.id = world.nextId ∧
        state.processedEventIds = [] ∧ state.pendingCommands = [] ∧ state.isTerminal = false ∧
        loadOrCreate sagaClass correlationId event world =
          (state,{world with nextId := world.nextId+1}.add state) := by
  unfold loadOrCreate
  cases found : world.findByCorrelationId correlationId sagaClass.name with
  | some state => exact .inl ⟨state,rfl,formed.values (List.mem_of_find?_eq_some found),rfl⟩
  | none =>
    refine .inr ⟨_,rfl,?_,?_,?_,?_,rfl⟩
    all_goals
      unfold injectTenantMetadata
      split
      next => split <;> rfl
      next => rfl

/-- What `_process_saga` leaves behind once the handler returned. -/
structure Delivery (manager : SagaManager Data) (saga : Saga Data) (before after : World Data)
    (final : SagaState Data) : Prop where
  stored : after.repository.get saga.state.id = some final
  others : ∀ id, id ≠ saga.state.id → after.repository.get id = before.repository.get id
  rest : {final with pendingCommands := saga.state.pendingCommands} = saga.state
  cleared : accepted manager.commandBus before.attempts saga.commandsToDispatch.length =
    saga.commandsToDispatch.length → final.pendingCommands = []
  kept : accepted manager.commandBus before.attempts saga.commandsToDispatch.length <
    saga.commandsToDispatch.length → ∀ position : Nat,
      accepted manager.commandBus before.attempts saga.commandsToDispatch.length ≤ position →
        final.pendingCommands[position]? =
          (saga.state.pendingCommands ++ saga.commandsToDispatch.map serializeCommandForPending)[position]?
  sent : after.sent = before.sent ++ saga.commandsToDispatch.take
    (accepted manager.commandBus before.attempts saga.commandsToDispatch.length)
  collected : after.collected =
    before.collected ++ saga.commandsToDispatch.map fun queued => (saga.state.id,queued)
  popped : after.popped = before.popped
  formed : before.WellFormed → before.Fits saga.state →
    (∀ queued ∈ saga.commandsToDispatch, queued.tag < before.nextTag) → after.WellFormed

def awaiting (saga : Saga Data) : SagaState Data := {saga.state with
  pendingCommands := saga.state.pendingCommands ++ saga.commandsToDispatch.map serializeCommandForPending}

def noted (saga : Saga Data) (world : World Data) : World Data :=
  {world with collected := world.collected ++ saga.commandsToDispatch.map fun queued =>
    (saga.state.id,queued)}.add (awaiting saga)

theorem deliver_stalled {manager : SagaManager Data} {saga : Saga Data} {world after : World Data}
    {marked : SagaState Data} (result : manager.dispatchAndPersistCommands 0 saga.commandsToDispatch
      (awaiting saga) (noted saga world) = (false,marked,after)) :
    manager.deliver saga world = (after,.error .commandBus) := by
  simp only [noted,awaiting] at result
  simp only [SagaManager.deliver,Saga.collectCommands,result]

theorem deliver_dispatched {manager : SagaManager Data} {saga : Saga Data} {world after : World Data}
    {marked : SagaState Data} (result : manager.dispatchAndPersistCommands 0 saga.commandsToDispatch
      (awaiting saga) (noted saga world) = (true,marked,after)) :
    manager.deliver saga world = (after.add (clearPending marked),.ok (some saga.state.id)) := by
  simp only [noted,awaiting] at result
  simp only [SagaManager.deliver,Saga.collectCommands,result]

theorem noted_formed {saga : Saga Data} {world : World Data} (formed : world.WellFormed)
    (fits : world.Fits saga.state) (tags : ∀ queued ∈ saga.commandsToDispatch, queued.tag < world.nextTag) :
    (noted saga world).WellFormed ∧ (noted saga world).Fits (awaiting saga) := by
  have fitted : world.Fits (awaiting saga) := by
    refine ⟨fits.1,fun queued member => ?_⟩
    simp only [awaiting,List.map_append,List.map_map,List.mem_append] at member
    rcases member with old | new
    · exact fits.2 queued old
    · obtain ⟨entry,present,rfl⟩ := List.mem_map.mp new
      exact tags entry present
  have grown : {world with collected := world.collected ++ saga.commandsToDispatch.map fun queued =>
      (saga.state.id,queued)}.WellFormed := formed.later rfl (Nat.le_refl _) (Nat.le_refl _) formed.sent
  exact ⟨grown.add fitted,fitted⟩

theorem deliver_spec (manager : SagaManager Data) (saga : Saga Data) (world : World Data) :
    ∃ final, Delivery manager saga world (manager.deliver saga world).1 final := by
  obtain ⟨flag,spec⟩ := dispatch_spec manager 0 saga.commandsToDispatch (awaiting saga) (noted saga world)
  have found : (noted saga world).repository.get (awaiting saga).id = some (awaiting saga) :=
    Dict.get_set_same _ _ _
  rcases result : manager.dispatchAndPersistCommands 0 saga.commandsToDispatch (awaiting saga) (noted saga world)
    with ⟨done,marked,after⟩
  rw [result] at flag spec
  dsimp only at flag spec
  have rest : {marked with pendingCommands := saga.state.pendingCommands} = saga.state := by
    have whole := congrArg (fun current : SagaState Data =>
      {current with pendingCommands := saga.state.pendingCommands}) spec.rest
    exact whole
  have formed (formed : world.WellFormed) (fits : world.Fits saga.state)
      (tags : ∀ queued ∈ saga.commandsToDispatch, queued.tag < world.nextTag) :
      after.WellFormed ∧ after.Fits marked := by
    obtain ⟨start,fitted⟩ := noted_formed formed fits tags
    refine start.rewrite fitted found spec.rest spec.same spec.others spec.stored spec.frame ?_
    rw [spec.sent]
    intro queued member
    rcases List.mem_append.mp member with old | new
    · exact formed.sent queued old
    · exact tags queued (List.mem_of_mem_take new)
  have others (id : Nat) (differs : id ≠ saga.state.id) :
      after.repository.get id = world.repository.get id := by
    rw [spec.others id differs]
    exact Dict.get_set_other _ _ differs
  cases done with
  | false =>
    have short := Nat.lt_of_le_of_ne (accepted_le _ _ _) (of_decide_eq_false flag.symm)
    refine ⟨marked,?_⟩
    rw [deliver_stalled result]
    refine ⟨spec.stored found,others,rest,fun full => absurd full (Nat.ne_of_lt short),?_,spec.sent,
      spec.frame.collected,spec.frame.popped,fun good fits tags => (formed good fits tags).1⟩
    intro _ position bound
    exact spec.kept position (.inr (by rw [Nat.zero_add]; exact bound))
  | true =>
    have full := of_decide_eq_true flag.symm
    have identity : marked.id = saga.state.id := by
      have same := congrArg SagaState.id rest
      exact same
    refine ⟨clearPending marked,?_⟩
    rw [deliver_dispatched result]
    refine ⟨?_,?_,rest,fun _ => rfl,fun short => absurd full (Nat.ne_of_lt short),spec.sent,
      spec.frame.collected,spec.frame.popped,?_⟩
    · rw [← identity]
      exact Dict.get_set_same _ _ _
    · intro id differs
      rw [← others id differs]
      exact Dict.get_set_other _ _ (by rwa [← identity] at differs)
    · intro good fits tags
      obtain ⟨start,fitted⟩ := formed good fits tags
      exact start.add ⟨fitted.1,by simp [clearPending]⟩

theorem deliver_nextId (manager : SagaManager Data) (saga : Saga Data) (world : World Data) :
    (manager.deliver saga world).1.nextId = world.nextId := by
  obtain ⟨_,spec⟩ := dispatch_spec manager 0 saga.commandsToDispatch (awaiting saga) (noted saga world)
  rcases result : manager.dispatchAndPersistCommands 0 saga.commandsToDispatch (awaiting saga) (noted saga world)
    with ⟨done,marked,after⟩
  rw [result] at spec
  cases done with
  | false =>
    rw [deliver_stalled result]
    exact spec.frame.nextId
  | true =>
    rw [deliver_dispatched result]
    exact spec.frame.nextId

theorem delivery_accounts {manager : SagaManager Data} {saga : Saga Data} {before after : World Data}
    {final : SagaState Data} (delivery : Delivery manager saga before after final) (queued : QueuedCommand Data)
    (present : queued ∈ saga.commandsToDispatch) :
    queued ∈ after.sent ∨ serializeCommandForPending queued ∈ final.pendingCommands := by
  -- A collected command was sent or still waits: its entry stands behind all the marked positions.
  obtain ⟨position,found⟩ := List.getElem?_of_mem present
  let count := accepted manager.commandBus before.attempts saga.commandsToDispatch.length
  by_cases early : position < count
  · have taken : queued ∈ saga.commandsToDispatch.take count :=
      List.mem_of_getElem? ((List.getElem?_take_of_lt early).trans found)
    rw [delivery.sent]
    exact .inl (List.mem_append_right _ taken)
  · have inside := (List.getElem?_eq_some_iff.mp found).1
    have short : count < saga.commandsToDispatch.length := by omega
    have kept := delivery.kept short (saga.state.pendingCommands.length + position) (by omega)
    rw [List.getElem?_append_right (Nat.le_add_right _ _),Nat.add_sub_cancel_left,List.getElem?_map,found] at kept
    exact .inr (List.mem_of_getElem? kept)

structure Flushed (manager : SagaManager Data) (saga : Saga Data) (before after : World Data) : Prop where
  stored : after.repository.get saga.state.id = some saga.state
  others : ∀ id, id ≠ saga.state.id → after.repository.get id = before.repository.get id
  sent : ∃ more, after.sent = before.sent ++ more ∧ ∀ queued, queued ∈ more ↔
    ∃ position : Nat, saga.commandsToDispatch[position]? = some queued ∧
      manager.commandBus (before.attempts+position) = true
  collected : after.collected = before.collected
  popped : after.popped = before.popped ++ saga.popped.map fun entry => (saga.state.id,entry)
  formed : before.WellFormed → before.Fits saga.state → before.nextTag ≤ saga.nextTag →
    (∀ queued ∈ saga.commandsToDispatch, queued.tag < saga.nextTag) → after.WellFormed

theorem flush_spec (manager : SagaManager Data) (saga : Saga Data) (world : World Data) :
    Flushed manager saga world (manager.flush saga world) := by
  let idle := {saga with commandsToDispatch := []}
  obtain ⟨frame,repository,more,grown,known⟩ :=
    sendAll_spec manager saga.commandsToDispatch (world.absorb idle)
  have shape : manager.flush saga world =
      (manager.sendAll saga.commandsToDispatch (world.absorb idle)).add saga.state := rfl
  rw [shape]
  generalize manager.sendAll saga.commandsToDispatch (world.absorb idle) = after at frame repository grown
  refine ⟨Dict.get_set_same _ _ _,?_,⟨more,grown,known⟩,frame.collected,frame.popped,?_⟩
  · intro id differs
    have same : after.repository.get id = world.repository.get id := by
      rw [repository]
      rfl
    exact (Dict.get_set_other _ _ differs).trans same
  · intro formed fits grows tags
    have later : after.WellFormed := by
      apply (formed.absorb idle grows).later repository (Nat.le_of_eq frame.nextId.symm)
        (Nat.le_of_eq frame.nextTag.symm)
      rw [grown,frame.nextTag]
      intro queued member
      rcases List.mem_append.mp member with old | new
      · exact Nat.lt_of_lt_of_le (formed.sent queued old) grows
      · obtain ⟨position,found,_⟩ := (known queued).mp new
        exact tags queued (List.mem_of_getElem? found)
    refine later.add ⟨?_,?_⟩
    · rw [frame.nextId]
      exact fits.1
    · rw [frame.nextTag]
      exact fun queued member => Nat.lt_of_lt_of_le (fits.2 queued member) grows

structure Worked (world : World Data) (state : SagaState Data) (saga : Saga Data) : Prop where
  id : saga.state.id = state.id
  pending : saga.state.pendingCommands = state.pendingCommands
  grows : world.nextTag ≤ saga.nextTag
  tags : ∀ queued ∈ saga.commandsToDispatch, world.nextTag ≤ queued.tag ∧ queued.tag < saga.nextTag

theorem worked (manager : SagaManager Data) (sagaClass : SagaClass Data) (state : SagaState Data)
    (world : World Data) {saga : Saga Data} {restores : Bool}
    (pops : (manager.instantiate sagaClass state world).Pops saga restores) : Worked world state saga := by
  obtain ⟨queued,taken,failed,adds,_⟩ := pops
  have queue : saga.commandsToDispatch = queued := adds.queue
  have next : saga.nextTag = world.nextTag + queued.length := adds.next
  refine ⟨adds.id,adds.pending,by omega,fun entry member => ?_⟩
  rw [queue] at member
  have numbered := List.mem_map_of_mem (f := (·.tag)) member
  rw [adds.tags] at numbered
  have bounds := List.mem_range'_1.mp numbered
  simp only [instantiate,Saga.create] at bounds
  omega

theorem Worked.fits {world : World Data} {state : SagaState Data} {saga : Saga Data}
    (work : Worked world state saga) (fits : world.Fits state) : world.Fits saga.state := by
  refine ⟨?_,?_⟩
  · rw [work.id]
    exact fits.1
  · rw [work.pending]
    exact fits.2

theorem timedOut_pops (manager : SagaManager Data) (sagaClass : SagaClass Data) (now : Int)
    (state : SagaState Data) (world : World Data) :
    ∃ restores, (manager.instantiate sagaClass state world).Pops
      (manager.timedOut sagaClass now state world) restores := by
  have performed := Saga.perform_pops now (sagaClass.onTimeout now state)
    (manager.instantiate sagaClass state world)
  have closed (saga : Saga Data) {restores : Bool}
      (pops : (manager.instantiate sagaClass state world).Pops saga restores) :
      ∃ restores, (manager.instantiate sagaClass state world).Pops
        (if World.hasExpired now saga.state then
          (saga.fail "Timeout handler did not resolve suspension" false).1 else saga) restores := by
    split
    next => exact ⟨_,pops.trans (Saga.fail_pops _ _ _)⟩
    next => exact ⟨_,pops⟩
  unfold timedOut
  dsimp only
  split
  next left same =>
    rw [same] at performed
    exact closed left performed
  next left error same =>
    rw [same] at performed
    split
    next => exact closed left performed
    next => exact closed _ (performed.trans (Saga.fail_pops left _ true))

end SagaManager

end CqrsDdd.Sagas
