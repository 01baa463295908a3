import CqrsDdd.Sagas.TenantIsolation

/-! The sagas of one tenant that is alone on a repository: the manager finds its saga for a correlation id and makes no
second one. -/
namespace CqrsDdd.Sagas

open Multitenancy

variable {Data : Type}

/-- What tells sagas apart: the id in the repository and the correlation id with the type. -/
def SagaState.identity (state : SagaState Data) : Nat × String × String :=
  (state.id,state.correlationId,state.sagaType)

def TenantSaga.key (saga : TenantSaga Data) : String × String := (saga.state.correlationId,saga.state.sagaType)

namespace Saga

theorem identity_of_fixed {saga other : Saga Data} (same : saga.fixed = other.fixed) :
    saga.state.identity = other.state.identity := by
  unfold fixed at same
  simp only [Prod.mk.injEq] at same
  unfold SagaState.identity
  rw [same.1,same.2.1,same.2.2.1]

theorem marked_identity (state : SagaState Data) (event : DomainEvent Data) :
    ((state.markEventProcessed event.eventId).recordStep (state.markEventProcessed event.eventId).currentStep
      event.eventType).identity = state.identity := by
  unfold SagaState.markEventProcessed
  split
  next => exact rfl
  next => exact rfl

theorem handle_fixed (sagaClass : SagaClass Data) (now : Int) (event : DomainEvent Data) (saga : Saga Data) :
    (saga.handle sagaClass now event).1.state.identity = saga.state.identity := by
  have handled := identity_of_fixed ((handleEvent_fixed sagaClass now event {saga with tccRecordsCache := none}.start).trans
    (start_fixed {saga with tccRecordsCache := none}))
  unfold handle
  dsimp only
  split
  next => exact rfl
  next =>
    split
    next => exact rfl
    next =>
      split
      next left error same =>
        rw [same] at handled
        exact handled
      next left same =>
        rw [same] at handled
        exact (marked_identity left.state event).trans handled

end Saga

namespace TenantManager

theorem timedOut_identity (manager : SagaManager Data) (sagaClass : SagaClass Data) (now : Int) (state : SagaState Data) :
    (manager.timedOut sagaClass now state World.empty).state.identity = state.identity := by
  have answered := Saga.identity_of_fixed (Saga.perform_fixed now (sagaClass.onTimeout now state)
    (manager.instantiate sagaClass state World.empty))
  have failed (saga : Saga Data) (reason : String) (compensate : Bool) :
      (saga.fail reason compensate).1.state.identity = saga.state.identity :=
    Saga.identity_of_fixed (congrArg Prod.fst (Saga.fail_kept saga reason compensate))
  have ended (saga : Saga Data) (same : saga.state.identity = state.identity) :
      (if World.hasExpired now saga.state then (saga.fail "Timeout handler did not resolve suspension" false).1
        else saga).state.identity = state.identity := by
    split
    next => exact (failed saga _ false).trans same
    next => exact same
  unfold SagaManager.timedOut
  dsimp only
  cases performed : (manager.instantiate sagaClass state World.empty).perform now (sagaClass.onTimeout now state) with
  | mk left raised =>
    rw [performed] at answered
    cases raised with
    | none => exact ended left answered
    | some error =>
      dsimp only
      split
      next => exact ended left answered
      next => exact ended _ ((failed left _ true).trans answered)

end TenantManager

namespace TenantOperation

/-- The sagas of a tenant that is alone: no two have the same correlation id and type. -/
structure Sound (tenant : Tenant) (store : SagaStore Data) : Prop where
  own : ∀ id saga, store.get id = some saga → saga.tenantId = some tenant.id
  ids : ∀ id saga, store.get id = some saga → saga.state.id = id
  single : ∀ id saga other another, store.get id = some saga → store.get other = some another →
    saga.key = another.key → id = other

def Known (store : SagaStore Data) (saga : TenantSaga Data) : Prop :=
  ∃ stored, store.get saga.state.id = some stored ∧ stored.key = saga.key

section Sound

variable {tenant : Tenant} {store : SagaStore Data} {saga : TenantSaga Data}

theorem sound_empty (tenant : Tenant) : Sound tenant (Dict.empty : SagaStore Data) where
  own _ _ found := nomatch found
  ids _ _ found := nomatch found
  single _ _ _ _ found := nomatch found

theorem Sound.set (sound : Sound tenant store) (own : saga.tenantId = some tenant.id)
    (alone : ∀ id stored, store.get id = some stored → stored.key = saga.key → id = saga.state.id) :
    Sound tenant (store.set saga.state.id saga) := by
  constructor
  · intro id other found
    rw [Dict.get_set] at found
    split at found
    next => exact Option.some.inj found ▸ own
    next => exact sound.own id other found
  · intro id other found
    rw [Dict.get_set] at found
    split at found
    next same => exact Option.some.inj found ▸ same.symm
    next => exact sound.ids id other found
  · intro id first other second found also same
    rw [Dict.get_set] at found also
    split at found
    next here =>
      split at also
      next there => exact here.trans there.symm
      next => exact here.trans (alone other second also (same.symm.trans (Option.some.inj found ▸ rfl))).symm
    next =>
      split at also
      next there => exact (alone id first found (same.trans (Option.some.inj also ▸ rfl))).trans there.symm
      next => exact sound.single id first other second found also same

theorem known_set {other : TenantSaga Data} (known : Known store other)
    (kept : ∀ stored, store.get saga.state.id = some stored → stored.key = saga.key) :
    Known (store.set saga.state.id saga) other := by
  obtain ⟨stored,found,same⟩ := known
  unfold Known
  rw [Dict.get_set]
  by_cases here : other.state.id = saga.state.id
  · rw [if_pos here]
    rw [here] at found
    exact ⟨saga,rfl,(kept stored found).symm.trans same⟩
  · rw [if_neg here]
    exact ⟨stored,found,same⟩

theorem known_same {other : TenantSaga Data} (known : Known store other)
    (same : saga.state.identity = other.state.identity) : Known store saga := by
  unfold SagaState.identity at same
  obtain ⟨id,key⟩ := Prod.mk.inj same
  obtain ⟨stored,found,present⟩ := known
  exact ⟨stored,id ▸ found,present.trans key.symm⟩

end Sound

section Programs

variable {tenant : Tenant} {commandBus : Nat → Bool} {uuid4 : Nat → Nat} {sagas : List (TenantSaga Data)}
  {saga : TenantSaga Data}

/-- The store is sound and the sagas are known there. -/
def Holds (tenant : Tenant) (sagas : List (TenantSaga Data)) (session : Session Data) : Prop :=
  Sound tenant session.repository ∧ ∀ saga ∈ sagas, Known session.repository saga

theorem Holds.sound {session : Session Data} (held : Holds tenant sagas session) : Holds tenant [] session :=
  ⟨held.1,fun _ member => absurd member List.not_mem_nil⟩

abbrev Does {Result : Type} (tenant : Tenant) (commandBus : Nat → Bool) (uuid4 : Nat → Nat)
    (sagas : List (TenantSaga Data)) (pre : Session Data → Prop) (program : ManagerProgram Data Result)
    (post : Result → Session Data → Prop) : Prop :=
  Client.Ensures (answer (some tenant.id) commandBus uuid4) (Holds tenant sagas) pre program post

def Among (sagas : List (TenantSaga Data)) (saga : TenantSaga Data) : Prop :=
  ∃ other ∈ sagas, saga.state.identity = other.state.identity

theorem Among.update (among : Among sagas saga) {change : SagaState Data → SagaState Data}
    (same : (change saga.state).identity = saga.state.identity) : Among sagas (saga.update change) := by
  obtain ⟨other,member,identity⟩ := among
  exact ⟨other,member,same.trans identity⟩

theorem does_send (command : Command Data) :
    Does tenant commandBus uuid4 sagas (Holds tenant sagas) (ManagerProgram.send command) fun _ => Holds tenant sagas :=
  fun _ holds => ⟨holds,fun _ _ => holds⟩

theorem does_add (among : Among sagas saga) :
    Does tenant commandBus uuid4 sagas (Holds tenant sagas) (ManagerProgram.add saga) fun added session =>
      Among sagas added ∧ Holds tenant sagas session := by
  rintro session ⟨sound,known⟩
  obtain ⟨other,member,identity⟩ := among
  have stored := known_same (known other member) identity
  change Holds tenant sagas {session with
      repository := (RepositoryCall.perform (some tenant.id) session.repository (.add saga)).2} ∧ _
  change _ ∧ ∀ added, ((RepositoryCall.perform (some tenant.id) session.repository (.add saga)).1.mapError
      TenantFailure.repository) = .ok added → Among sagas added ∧ Holds tenant sagas {session with
        repository := (RepositoryCall.perform (some tenant.id) session.repository (.add saga)).2}
  unfold RepositoryCall.perform
  dsimp only
  rw [add_saga]
  cases permitted : MultitenantSagaMixin.permits saga tenant.id with
  | false =>
    simp only [Bool.false_eq_true,if_false]
    exact ⟨⟨sound,known⟩,fun _ raised => nomatch raised⟩
  | true =>
    simp only [if_true]
    have kept : ∀ old, session.repository.get saga.state.id = some old → old.key = saga.key := by
      intro old found
      obtain ⟨same,there,key⟩ := stored
      rw [Option.some.inj (found.symm.trans there)]
      exact key
    have after : Sound tenant (session.repository.set saga.state.id (stamped tenant saga)) := by
      refine sound.set (stamped_own permitted) fun id old found same => ?_
      obtain ⟨present,there,key⟩ := stored
      exact sound.single id old _ present found there (same.trans key.symm)
    have stays : ∀ listed ∈ sagas,
        Known (session.repository.set (stamped tenant saga).state.id (stamped tenant saga)) listed :=
      fun listed inside => known_set (known listed inside) kept
    refine ⟨⟨after,stays⟩,fun added same => ?_⟩
    cases same
    exact ⟨⟨other,member,identity⟩,after,stays⟩

open Client

theorem does_done {Result : Type} {result : Result} {post : Result → Session Data → Prop}
    (holds : ∀ session, Holds tenant sagas session → post result session) :
    Does tenant commandBus uuid4 sagas (Holds tenant sagas) (pure result) post :=
  Ensures.pure fun session held => ⟨held,holds session held⟩

theorem does_throw {Result : Type} {failure : TenantFailure} {post : Result → Session Data → Prop} :
    Does tenant commandBus uuid4 sagas (Holds tenant sagas) (throw failure) post :=
  Ensures.throw fun _ held => held

theorem does_store {Result : Type} (among : Among sagas saga) {next : TenantSaga Data → ManagerProgram Data Result}
    {post : Result → Session Data → Prop}
    (later : ∀ added, Among sagas added → Does tenant commandBus uuid4 sagas (Holds tenant sagas) (next added) post) :
    Does tenant commandBus uuid4 sagas (Holds tenant sagas) (ManagerProgram.add saga >>= next) post :=
  (does_add among).bind fun added => Ensures.given fun listed => later added listed

theorem does_dispatch (queue : List (QueuedCommand Data)) (index : Nat) (among : Among sagas saga) :
    Does tenant commandBus uuid4 sagas (Holds tenant sagas) (TenantManager.dispatchAndPersistCommands index queue saga)
      fun marked session => Among sagas marked ∧ Holds tenant sagas session := by
  induction queue generalizing index saga with
  | nil => exact does_done fun _ held => ⟨among,held⟩
  | cons queued rest ih =>
    refine (does_send queued.command).bind fun accepted => ?_
    cases accepted with
    | false => exact does_throw
    | true => exact does_store (among.update rfl) fun marked listed => ih (index + 1) listed

theorem does_deliver {handled : Saga Data} (among : Among sagas saga)
    (same : handled.state.identity = saga.state.identity) :
    Does tenant commandBus uuid4 sagas (Holds tenant sagas) (TenantManager.deliver saga handled)
      fun _ => Holds tenant sagas := by
  refine does_store (among.update same) fun noted listed => ?_
  refine (does_dispatch _ 0 listed).bind fun marked => Ensures.given fun present => ?_
  exact does_store (present.update rfl) fun cleared _ => does_done fun _ held => held

def Lacks (tenant : Tenant) (correlationId sagaType : String) (session : Session Data) : Prop :=
  Sound tenant session.repository ∧
    ∀ id stored, session.repository.get id = some stored → stored.key ≠ (correlationId,sagaType)

theorem found_sound {store : SagaStore Data} (sound : Sound tenant store) (correlationId sagaType : String) :
    MultitenantSagaMixin.findByCorrelationId (some tenant.id) store correlationId sagaType =
      .ok (InMemorySagaRepository.findByCorrelationId store correlationId sagaType) := by
  unfold MultitenantSagaMixin.findByCorrelationId
  rw [checked_saga]
  refine congrArg Except.ok ?_
  cases found : InMemorySagaRepository.findByCorrelationId store correlationId sagaType with
  | none => exact rfl
  | some saga =>
    obtain ⟨id,stored⟩ := store.get_of_mem_values (List.mem_of_find?_eq_some found)
    have own := sound.own id saga stored
    rw [Option.filter_some,permits_of_carries own,if_pos (decide_eq_true own)]

theorem does_find (correlationId sagaType : String) :
    Does tenant commandBus uuid4 [] (Holds tenant [])
      (ManagerProgram.ask (.findByCorrelationId correlationId sagaType) : ManagerProgram Data (Option (TenantSaga Data)))
      fun found session => (∀ saga, found = some saga → Holds tenant [saga] session) ∧
        (found = none → Lacks tenant correlationId sagaType session) := by
  rintro session ⟨sound,_⟩
  refine ⟨⟨sound,fun _ member => absurd member List.not_mem_nil⟩,fun found same => ?_⟩
  change (MultitenantSagaMixin.findByCorrelationId (some tenant.id) session.repository correlationId sagaType).mapError
    TenantFailure.repository = .ok found at same
  rw [found_sound sound] at same
  obtain rfl := Except.ok.inj same
  refine ⟨fun saga found => ⟨sound,fun listed member => ?_⟩,fun missing => ⟨sound,fun id stored present same => ?_⟩⟩
  · obtain ⟨id,stored⟩ := session.repository.get_of_mem_values (List.mem_of_find?_eq_some found)
    rw [List.mem_singleton.mp member]
    exact ⟨saga,sound.ids id saga stored ▸ stored,rfl⟩
  · have member : stored ∈ session.repository.values :=
      List.mem_map.mpr ⟨(id,stored),session.repository.mem_iff_get.mpr present,rfl⟩
    have differs := List.find?_eq_none.mp missing stored member
    obtain ⟨correlation,type⟩ := Prod.mk.inj same
    exact differs (by simp [InMemorySagaRepository.correlated,correlation,type])

theorem does_uuid4 {pre : Session Data → Prop} (sound : ∀ session, pre session → Holds tenant [] session)
    (drawn : ∀ session, pre session → pre {session with drawn := session.drawn + 1}) :
    Does tenant commandBus uuid4 [] pre (ManagerProgram.uuid4 : ManagerProgram Data Nat) fun _ => pre :=
  fun session held => ⟨sound session held,fun _ _ => drawn session held⟩

theorem does_add_first {correlationId sagaType : String} (named : saga.key = (correlationId,sagaType)) :
    Does tenant commandBus uuid4 [] (Lacks tenant correlationId sagaType) (ManagerProgram.add saga)
      fun added => Holds tenant [added] := by
  rintro session ⟨sound,lacks⟩
  change Holds tenant [] {session with
      repository := (RepositoryCall.perform (some tenant.id) session.repository (.add saga)).2} ∧ _
  change _ ∧ ∀ added, ((RepositoryCall.perform (some tenant.id) session.repository (.add saga)).1.mapError
      TenantFailure.repository) = .ok added → Holds tenant [added] {session with
        repository := (RepositoryCall.perform (some tenant.id) session.repository (.add saga)).2}
  unfold RepositoryCall.perform
  dsimp only
  rw [add_saga]
  cases permitted : MultitenantSagaMixin.permits saga tenant.id with
  | false =>
    simp only [Bool.false_eq_true,if_false]
    exact ⟨⟨sound,fun _ member => absurd member List.not_mem_nil⟩,fun _ raised => nomatch raised⟩
  | true =>
    simp only [if_true]
    have after : Sound tenant (session.repository.set saga.state.id (stamped tenant saga)) := by
      refine sound.set (stamped_own permitted) fun id old found same => ?_
      exact absurd (same.trans named) (lacks id old found)
    refine ⟨⟨after,fun _ member => absurd member List.not_mem_nil⟩,fun added same => ?_⟩
    cases same
    refine ⟨after,fun listed inside => ?_⟩
    rw [List.mem_singleton.mp inside]
    have present : (session.repository.set saga.state.id (stamped tenant saga)).get saga.state.id =
        some (stamped tenant saga) := Dict.get_set_same _ _ _
    exact ⟨stamped tenant saga,present,rfl⟩

theorem key_injectTenantMetadata (event : DomainEvent Data) (state : SagaState Data) :
    (TenantSaga.mk (SagaManager.injectTenantMetadata event state) none).key = (state.correlationId,state.sagaType) := by
  unfold SagaManager.injectTenantMetadata
  split
  next =>
    split
    next => exact rfl
    next => exact rfl
  next => exact rfl

theorem does_loadOrCreate (sagaClass : SagaClass Data) (correlationId : String) (event : DomainEvent Data) :
    Does tenant commandBus uuid4 [] (Holds tenant []) (TenantManager.loadOrCreate sagaClass correlationId event)
      fun saga => Holds tenant [saga] := by
  refine (does_find correlationId sagaClass.name).bind fun found => ?_
  cases found with
  | some saga =>
    refine Ensures.pure fun session held => ?_
    have holds := held.1 saga rfl
    exact ⟨holds.sound,holds⟩
  | none =>
    have drawn : Does tenant commandBus uuid4 [] (Lacks tenant correlationId sagaClass.name)
        (ManagerProgram.uuid4 : ManagerProgram Data Nat) fun _ => Lacks tenant correlationId sagaClass.name :=
      does_uuid4 (fun _ held => ⟨held.1,fun _ member => absurd member List.not_mem_nil⟩) fun _ held => held
    have created : Does tenant commandBus uuid4 [] (Lacks tenant correlationId sagaClass.name)
        (TenantManager.createInitialSagaState sagaClass correlationId event) fun saga => Holds tenant [saga] :=
      drawn.bind fun id => does_add_first (key_injectTenantMetadata event _)
    exact created.weaken (fun session held => held.2 rfl) fun _ _ held => held

theorem among_self (saga : TenantSaga Data) : Among [saga] saga := ⟨saga,List.mem_cons_self,rfl⟩

theorem Does.forget {Result : Type} {pre : Session Data → Prop} {program : ManagerProgram Data Result}
    {post : Result → Session Data → Prop} (does : Does tenant commandBus uuid4 sagas pre program post) :
    Does tenant commandBus uuid4 [] pre program post :=
  fun session held => ⟨(does session held).1.sound,(does session held).2⟩

theorem does_processSaga (manager : SagaManager Data) (sagaClass : SagaClass Data) (correlationId : String) (now : Int)
    (event : DomainEvent Data) :
    Does tenant commandBus uuid4 [] (Holds tenant [])
      (TenantManager.processSaga manager sagaClass correlationId now event) fun _ => Holds tenant [] := by
  refine (does_loadOrCreate sagaClass correlationId event).bind fun saga => ?_
  have same := Saga.handle_fixed sagaClass now event (TenantManager.instantiate manager sagaClass saga)
  split
  next =>
    have passed : Does tenant commandBus uuid4 [saga] (Holds tenant [saga]) (pure none : ManagerProgram Data (Option Nat))
        fun _ => Holds tenant [] := does_done fun _ held => held.sound
    exact passed.forget
  next =>
    split
    next handled error ended =>
      rw [ended] at same
      exact (does_store ((among_self saga).update same) fun _ _ => does_throw).forget
    next handled ended =>
      rw [ended] at same
      exact (does_deliver (among_self saga) same).forget.weaken (fun _ held => held) fun _ _ held => held.sound

theorem does_handle (manager : SagaManager Data) (now : Int) (event : DomainEvent Data) :
    Does tenant commandBus uuid4 [] (Holds tenant []) (TenantManager.handle manager now event) fun _ => Holds tenant [] := by
  unfold TenantManager.handle
  split
  next correlationId _ =>
    refine Ensures.forM (fun _ held => held) fun sagaClass _ => ?_
    exact (does_processSaga manager sagaClass correlationId now event).bind fun _ => does_done fun _ held => held
  next => exact does_done fun _ held => held

theorem does_redispatch (manager : SagaManager Data) (entries : List (PendingCommand Data × Nat))
    (among : Among sagas saga) : Does tenant commandBus uuid4 sagas (Holds tenant sagas)
      (TenantManager.redispatch manager entries saga) fun _ => Holds tenant sagas := by
  induction entries generalizing saga with
  | nil => exact does_store (among.update rfl) fun _ _ => does_done fun _ held => held
  | cons entry rest ih =>
    unfold TenantManager.redispatch
    split
    next => exact does_throw
    next command _ =>
      refine (does_send command).bind fun accepted => ?_
      cases accepted with
      | false => exact does_throw
      | true => exact does_store (among.update rfl) fun _ listed => ih listed

theorem does_recoverSaga (manager : SagaManager Data) (among : Among sagas saga) :
    Does tenant commandBus uuid4 sagas (Holds tenant sagas) (TenantManager.recoverSaga manager saga)
      fun _ => Holds tenant sagas := by
  unfold TenantManager.recoverSaga
  split
  next =>
    split
    next => exact does_done fun _ held => held
    next => exact does_store (among.update rfl) fun _ _ => does_done fun _ held => held
  next =>
    split
    next =>
      unfold TenantManager.failSagaMaxRetries
      split
      next sagaClass _ =>
        have same := Saga.identity_of_fixed (congrArg Prod.fst (Saga.fail_kept
          (TenantManager.instantiate manager sagaClass saga) (SagaManager.abandonReason saga.state) true))
        exact does_store (among.update same) fun _ _ => does_done fun _ held => held
      next => exact does_done fun _ held => held
    next => exact does_store (among.update rfl) fun retried listed => (does_redispatch manager _ listed).caught

theorem does_flush {handled : Saga Data} (among : Among sagas saga)
    (same : handled.state.identity = saga.state.identity) :
    Does tenant commandBus uuid4 sagas (Holds tenant sagas) (TenantManager.flush saga handled)
      fun _ => Holds tenant sagas := by
  have sent : Does tenant commandBus uuid4 sagas (Holds tenant sagas) (handled.collectCommands.1.forM fun queued => do
      let _ ← ManagerProgram.send queued.command) fun _ => Holds tenant sagas :=
    Ensures.forM (fun _ held => held) fun queued _ => (does_send queued.command).bind fun _ => does_done fun _ held => held
  exact sent.bind fun _ => does_store (among.update same) fun _ _ => does_done fun _ held => held

theorem does_processTimeout (manager : SagaManager Data) (now : Int) (among : Among sagas saga) :
    Does tenant commandBus uuid4 sagas (Holds tenant sagas) (TenantManager.processTimeout manager now saga)
      fun _ => Holds tenant sagas := by
  unfold TenantManager.processTimeout
  split
  next sagaClass _ => exact does_flush among (TenantManager.timedOut_identity manager sagaClass now saga.state)
  next => exact does_done fun _ held => held

theorem does_processTccTimeout (manager : SagaManager Data) (now : Int) (among : Among sagas saga) :
    Does tenant commandBus uuid4 sagas (Holds tenant sagas) (TenantManager.processTccTimeout manager now saga)
      fun _ => Holds tenant sagas := by
  unfold TenantManager.processTccTimeout
  split
  next sagaClass _ =>
    have same := Saga.identity_of_fixed (congrArg Prod.fst (Saga.checkTccTimeouts_kept
      (TenantManager.instantiate manager sagaClass saga) now))
    split
    next checked ended =>
      rw [ended] at same
      exact does_flush among same
    next => exact does_done fun _ held => held
  next => exact does_done fun _ held => held

theorem holds_listed {session : Session Data} {limit : Int} {wanted : SagaState Data → Bool}
    {listed : List (TenantSaga Data)} (held : Holds tenant [] session)
    (found : (MultitenantSagaMixin.findFirst (some tenant.id) session.repository limit wanted none).mapError
      TenantFailure.repository = .ok listed) : Holds tenant listed session := by
  unfold MultitenantSagaMixin.findFirst at found
  rw [restricted_saga] at found
  obtain rfl := Except.ok.inj found
  refine ⟨held.1,fun saga member => ?_⟩
  obtain ⟨id,stored⟩ := session.repository.get_of_mem_values (List.mem_filter.mp (List.mem_of_mem_take member)).1
  exact ⟨saga,held.1.ids id saga stored ▸ stored,rfl⟩

theorem does_each {listing : ManagerProgram Data (List (TenantSaga Data))}
    {turn : TenantSaga Data → ManagerProgram Data Unit}
    (lists : ∀ session, Holds tenant [] session →
      (listing.run.serve (answer (some tenant.id) commandBus uuid4) session).2 = session ∧
        ∀ listed, (listing.run.serve (answer (some tenant.id) commandBus uuid4) session).1 = .ok listed →
          Holds tenant listed session)
    (each : ∀ listed saga, Among listed saga →
      Does tenant commandBus uuid4 listed (Holds tenant listed) (turn saga) fun _ => Holds tenant listed) :
    Does tenant commandBus uuid4 [] (Holds tenant []) (listing >>= fun listed => List.forM listed turn)
      fun _ => Holds tenant [] := by
  have listing_does : Does tenant commandBus uuid4 [] (Holds tenant []) listing fun listed => Holds tenant listed := by
    intro session held
    obtain ⟨same,known⟩ := lists session held
    rw [same]
    exact ⟨held,known⟩
  refine listing_does.bind fun listed => ?_
  have turns : Does tenant commandBus uuid4 listed (Holds tenant listed) (List.forM listed turn)
      fun _ => Holds tenant listed :=
    Ensures.forM (fun _ held => held) fun saga member => each listed saga ⟨saga,member,rfl⟩
  exact turns.forget.weaken (fun _ held => held) fun _ _ held => held.sound

theorem does_program (manager : SagaManager Data) (op : ManagerOp Data) :
    Does tenant commandBus uuid4 [] (Holds tenant []) (TenantManager.program manager op) fun _ => Holds tenant [] := by
  cases op with
  | handle now event => exact (does_handle manager now event).bind fun _ => does_done fun _ held => held
  | startSaga now sagaClass event correlationId => exact does_processSaga manager sagaClass correlationId now event
  | recoverPendingSagas limit =>
    refine (does_each ?_ fun _ _ among => does_recoverSaga manager among).bind fun _ => does_done fun _ held => held
    exact fun session held => ⟨rfl,fun listed found => holds_listed held found⟩
  | processTimeouts now limit =>
    refine (does_each ?_ fun _ _ among => does_processTimeout manager now among).bind fun _ => does_done fun _ held => held
    exact fun session held => ⟨rfl,fun listed found => holds_listed held found⟩
  | processTccTimeouts now limit =>
    refine (does_each ?_ fun _ _ among => does_processTccTimeout manager now among).bind fun _ =>
      does_done fun _ held => held
    exact fun session held => ⟨rfl,fun listed found => holds_listed held found⟩

end Programs

end TenantOperation

end CqrsDdd.Sagas
