import CqrsDdd.Noninterference
import CqrsDdd.Sagas.Frames
import CqrsDdd.Sagas.TenantManager

/-! Histories of saga operations under several tenants. A tenant sees the sagas that carry its
id, and what it lists is restricted in the query. The one lookup that is checked afterwards,
by correlation id, is answered by the first saga of any tenant. -/
namespace CqrsDdd.Sagas

open Multitenancy

variable {Data : Type}

/-- One operation of a manager, with what the bus and `uuid4` answer to it, or a call on the repository. -/
inductive SagaOperation (Data : Type)
  | manager (manager : SagaManager Data) (op : ManagerOp Data) (commandBus : Nat → Bool) (uuid4 : Nat → Nat)
  | repository (call : RepositoryCall Data)

inductive SagaOutcome (Data : Type)
  | managed (returned : Except TenantFailure (Option Nat)) (sent : List (Command Data))
  | replied (call : RepositoryCall Data) (reply : call.Reply)

structure TenantOperation (Data : Type) where
  tenant : Tenant
  operation : SagaOperation Data

namespace TenantOperation

/-- The operation in the context of its tenant: what comes of it and the store it leaves. -/
def perform (store : SagaStore Data) (operation : TenantOperation Data) : SagaOutcome Data × SagaStore Data :=
  let context := some operation.tenant.id
  match operation.operation with
  | .manager manager op commandBus uuid4 =>
    let ended := (TenantManager.program manager op).run.serve (answer context commandBus uuid4) (Session.start store)
    (.managed ended.1 ended.2.sent,ended.2.repository)
  | .repository call => (.replied call (call.perform context store).1,(call.perform context store).2)

def step (store : SagaStore Data) (operation : TenantOperation Data) : SagaStore Data := (perform store operation).2

def outcome (store : SagaStore Data) (operation : TenantOperation Data) : SagaOutcome Data := (perform store operation).1

def share (tenant : Tenant) (store : SagaStore Data) : SagaStore Data :=
  store.filter fun saga => saga.tenantId = some tenant.id

def Labelled (store : SagaStore Data) : Prop :=
  ∀ id saga, store.get id = some saga → ∃ tenant, saga.tenantId = some tenant

/-- A call that no saga of another tenant stands in the way of: the first saga that is found is not another tenant's while
there is an own one, and no saga of another tenant has the id of a saga that is added. -/
def Unhidden (tenant : Tenant) (store : SagaStore Data) : RepositoryCall Data → Prop
  | .findByCorrelationId correlationId sagaType =>
    ∀ saga, InMemorySagaRepository.findByCorrelationId (share tenant store) correlationId sagaType = some saga →
      ∃ first, InMemorySagaRepository.findByCorrelationId store correlationId sagaType = some first ∧
        first.tenantId = some tenant.id
  | .add saga => MultitenantSagaMixin.permits saga tenant.id = true →
    ∀ stored, store.get saga.state.id = some stored → stored.tenantId = some tenant.id
  | _ => True

def allowed (tenant : Tenant) : ManagerCall Data → Session Data → Prop
  | .repository call,session => Unhidden tenant session.repository call
  | _,_ => True

def Confined (store : SagaStore Data) (operation : TenantOperation Data) : Prop :=
  match operation.operation with
  | .manager manager op commandBus uuid4 => (TenantManager.program manager op).run.Calls
      (answer (some operation.tenant.id) commandBus uuid4) (allowed operation.tenant) (Session.start store)
  | .repository call => Unhidden operation.tenant store call

/-- What one call does: it acts on the share of its tenant, where it answers the same, and on nothing else. -/
structure Local (tenant : Tenant) (store : SagaStore Data) (call : RepositoryCall Data) : Prop where
  labelled : Labelled (call.perform (some tenant.id) store).2
  others : ∀ other : Tenant, other ≠ tenant → share other (call.perform (some tenant.id) store).2 = share other store
  same : (call.perform (some tenant.id) (share tenant store)).1 = (call.perform (some tenant.id) store).1
  own : (call.perform (some tenant.id) (share tenant store)).2 = share tenant (call.perform (some tenant.id) store).2

section Calls

variable {store : SagaStore Data} {tenant : Tenant}

theorem share_values (tenant : Tenant) (store : SagaStore Data) :
    (share tenant store).values = store.values.filter fun saga => saga.tenantId = some tenant.id := by
  unfold Dict.values share Dict.filter
  rw [List.filter_map]
  exact rfl

theorem requireTenantContext_saga (tenant : Tenant) :
    MultitenantSagaMixin.requireTenantContext (some tenant.id) = .ok tenant.id := by
  unfold MultitenantSagaMixin.requireTenantContext
  exact congrArg Except.ok (if_neg tenant.nonempty)

theorem restricted_saga (tenant : Tenant) (specification : Option (SagaSpecification Data)) :
    MultitenantSagaMixin.restricted (some tenant.id) specification =
      .ok (MultitenantSagaMixin.combined tenant.id specification) := by
  unfold MultitenantSagaMixin.restricted
  rw [isSystemTenant_tenant,requireTenantContext_saga]
  exact rfl

theorem checked_saga (tenant : Tenant) (found : Option (TenantSaga Data)) :
    MultitenantSagaMixin.checked (some tenant.id) found =
      .ok (found.filter fun saga => MultitenantSagaMixin.permits saga tenant.id) := by
  unfold MultitenantSagaMixin.checked
  rw [isSystemTenant_tenant,requireTenantContext_saga]
  exact rfl

theorem permits_of_carries {saga : TenantSaga Data} {name : String} (carries : saga.tenantId = some name) :
    MultitenantSagaMixin.permits saga tenant.id = decide (saga.tenantId = some tenant.id) := by
  unfold MultitenantSagaMixin.permits MultitenantSagaMixin.getTenantIdFromSaga
  rw [carries,Option.some_or,Option.all_some]
  exact decide_eq_decide.mpr Option.some_inj.symm

theorem combined_own (specification : Option (SagaSpecification Data)) (saga : TenantSaga Data) :
    (MultitenantSagaMixin.combined tenant.id specification saga && decide (saga.tenantId = some tenant.id)) =
      MultitenantSagaMixin.combined tenant.id specification saga := by
  unfold MultitenantSagaMixin.combined MultitenantSagaMixin.buildTenantSpecification
  cases decide (saga.tenantId = some tenant.id) with
  | true => rw [Bool.and_true]
  | false => rw [Bool.and_false,Bool.false_and]

theorem filter_share (candidates : List (TenantSaga Data)) (specification : Option (SagaSpecification Data))
    (wanted : TenantSaga Data → Bool) :
    ((candidates.filter fun saga => saga.tenantId = some tenant.id).filter fun saga =>
        MultitenantSagaMixin.combined tenant.id specification saga && wanted saga) =
      candidates.filter fun saga => MultitenantSagaMixin.combined tenant.id specification saga && wanted saga := by
  rw [List.filter_filter]
  refine List.filter_congr fun saga _ => ?_
  rw [Bool.and_right_comm,combined_own]

theorem local_of_reads {call : RepositoryCall Data} (labelled : Labelled store) (reads : ∀ any : SagaStore Data,
    (call.perform (some tenant.id) any).2 = any)
    (same : (call.perform (some tenant.id) (share tenant store)).1 = (call.perform (some tenant.id) store).1) :
    Local tenant store call where
  labelled := by
    rw [reads]
    exact labelled
  others := by
    intro other _
    rw [reads]
  same := same
  own := by rw [reads,reads]

theorem checked_share (found : Option (TenantSaga Data))
    (labelled : ∀ saga, found = some saga → ∃ name, saga.tenantId = some name) :
    MultitenantSagaMixin.checked (some tenant.id) (found.filter fun saga => saga.tenantId = some tenant.id) =
      MultitenantSagaMixin.checked (some tenant.id) found := by
  rw [checked_saga,checked_saga]
  refine congrArg Except.ok ?_
  cases found with
  | none => exact rfl
  | some saga =>
    obtain ⟨name,carries⟩ := labelled saga rfl
    have permitted : MultitenantSagaMixin.permits saga tenant.id = decide (saga.tenantId = some tenant.id) :=
      permits_of_carries carries
    by_cases own : saga.tenantId = some tenant.id
    · rw [Option.filter_some,if_pos (decide_eq_true own)]
    · have foreign : decide (saga.tenantId = some tenant.id) = false := decide_eq_false own
      simp only [Option.filter_some,foreign,permitted,Bool.false_eq_true,if_false,Option.filter_none]

theorem local_get (labelled : Labelled store) (sagaId : Nat) : Local tenant store (.get sagaId) := by
  refine local_of_reads labelled (fun _ => rfl) ?_
  change MultitenantSagaMixin.checked _ ((share tenant store).get sagaId) =
    MultitenantSagaMixin.checked _ (store.get sagaId)
  unfold share
  rw [Dict.get_filter]
  exact checked_share _ (labelled sagaId)

theorem listed_share (entityIds : Option (List Nat)) (specification : Option (SagaSpecification Data)) :
    InMemorySagaRepository.listAll (share tenant store) entityIds
        (MultitenantSagaMixin.combined tenant.id specification) =
      InMemorySagaRepository.listAll store entityIds (MultitenantSagaMixin.combined tenant.id specification) := by
  have all (candidates : List (TenantSaga Data)) :
      (candidates.filter fun saga => saga.tenantId = some tenant.id).filter
          (MultitenantSagaMixin.combined tenant.id specification) =
        candidates.filter (MultitenantSagaMixin.combined tenant.id specification) := by
    have queried : (candidates.filter fun saga => saga.tenantId = some tenant.id).filter
          (fun saga => MultitenantSagaMixin.combined tenant.id specification saga && true) =
        candidates.filter fun saga => MultitenantSagaMixin.combined tenant.id specification saga && true :=
      filter_share candidates specification fun _ => true
    simpa only [Bool.and_true] using queried
  unfold InMemorySagaRepository.listAll
  cases entityIds with
  | none =>
    dsimp only
    rw [share_values,all]
  | some ids =>
    have shared : ((share tenant store).entries.filter fun entry : Nat × TenantSaga Data => entry.1 ∈ ids).map Prod.snd =
        ((store.entries.filter fun entry : Nat × TenantSaga Data => entry.1 ∈ ids).map Prod.snd).filter
          fun saga => saga.tenantId = some tenant.id := by
      unfold share Dict.filter
      rw [List.filter_map,List.filter_filter,List.filter_filter]
      simp only [Bool.and_comm,Function.comp_def]
    dsimp only
    rw [shared,all]

theorem local_listAll (labelled : Labelled store) (entityIds : Option (List Nat))
    (specification : Option (SagaSpecification Data)) : Local tenant store (.listAll entityIds specification) := by
  refine local_of_reads labelled (fun _ => rfl) ?_
  change MultitenantSagaMixin.listAll _ _ _ _ = MultitenantSagaMixin.listAll _ _ _ _
  unfold MultitenantSagaMixin.listAll
  rw [restricted_saga]
  exact congrArg Except.ok (listed_share entityIds specification)

theorem local_search (labelled : Labelled store) (criteria : Option (SagaSpecification Data)) :
    Local tenant store (.search criteria) := by
  refine local_of_reads labelled (fun _ => rfl) ?_
  change MultitenantSagaMixin.search _ _ _ = MultitenantSagaMixin.search _ _ _
  unfold MultitenantSagaMixin.search
  rw [isSystemTenant_tenant,restricted_saga]
  exact congrArg Except.ok (listed_share none criteria)

theorem findFirst_share (limit : Int) (wanted : SagaState Data → Bool) (specification : Option (SagaSpecification Data)) :
    MultitenantSagaMixin.findFirst (some tenant.id) (share tenant store) limit wanted specification =
      MultitenantSagaMixin.findFirst (some tenant.id) store limit wanted specification := by
  unfold MultitenantSagaMixin.findFirst
  rw [restricted_saga]
  refine congrArg Except.ok ?_
  unfold InMemorySagaRepository.findFirst
  rw [share_values,filter_share]

theorem find?_filter_kept {candidates : List (TenantSaga Data)} {keep wanted : TenantSaga Data → Bool}
    {first : TenantSaga Data} (found : candidates.find? wanted = some first) (kept : keep first = true) :
    (candidates.filter keep).find? wanted = some first := by
  obtain ⟨hits,before,after,rfl,earlier⟩ := List.find?_eq_some_iff_append.mp found
  rw [List.filter_append,List.filter_cons_of_pos kept]
  refine List.find?_eq_some_iff_append.mpr ⟨hits,_,_,rfl,fun saga member => ?_⟩
  exact earlier saga (List.mem_filter.mp member).1

theorem found_share {correlationId sagaType : String}
    (unhidden : Unhidden tenant store (.findByCorrelationId correlationId sagaType)) :
    InMemorySagaRepository.findByCorrelationId (share tenant store) correlationId sagaType =
      (InMemorySagaRepository.findByCorrelationId store correlationId sagaType).filter
        fun saga => saga.tenantId = some tenant.id := by
  have kept : ∀ first, InMemorySagaRepository.findByCorrelationId store correlationId sagaType = some first →
      first.tenantId = some tenant.id →
        InMemorySagaRepository.findByCorrelationId (share tenant store) correlationId sagaType = some first := by
    intro first found own
    unfold InMemorySagaRepository.findByCorrelationId
    rw [share_values]
    exact find?_filter_kept found (decide_eq_true own)
  cases mine : InMemorySagaRepository.findByCorrelationId (share tenant store) correlationId sagaType with
  | some saga =>
    obtain ⟨first,found,own⟩ := unhidden saga mine
    rw [found,Option.filter_some,if_pos (decide_eq_true own),← mine,kept first found own]
  | none =>
    cases found : InMemorySagaRepository.findByCorrelationId store correlationId sagaType with
    | none => exact rfl
    | some first =>
      have foreign : first.tenantId ≠ some tenant.id := fun own => by
        rw [kept first found own] at mine
        cases mine
      exact (if_neg (by simpa using foreign)).symm

theorem local_find (labelled : Labelled store) {correlationId sagaType : String}
    (unhidden : Unhidden tenant store (.findByCorrelationId correlationId sagaType)) :
    Local tenant store (.findByCorrelationId correlationId sagaType) := by
  refine local_of_reads labelled (fun _ => rfl) ?_
  change MultitenantSagaMixin.checked _ (InMemorySagaRepository.findByCorrelationId (share tenant store) _ _) =
    MultitenantSagaMixin.checked _ (InMemorySagaRepository.findByCorrelationId store _ _)
  rw [found_share unhidden]
  refine checked_share _ fun saga found => ?_
  obtain ⟨id,stored⟩ := store.get_of_mem_values (List.mem_of_find?_eq_some found)
  exact labelled id saga stored

/-- The saga that is stored when one is added under the tenant. -/
def stamped (tenant : Tenant) (saga : TenantSaga Data) : TenantSaga Data where
  state := {saga.state with metadataTenantId := some (saga.state.metadataTenantId.getD tenant.id)}
  tenantId := some (saga.tenantId.getD tenant.id)

theorem stamped_own {saga : TenantSaga Data} (permitted : MultitenantSagaMixin.permits saga tenant.id = true) :
    (stamped tenant saga).tenantId = some tenant.id := by
  unfold stamped
  cases carries : saga.tenantId with
  | none => exact rfl
  | some name =>
    rw [permits_of_carries carries] at permitted
    exact carries.symm.trans (of_decide_eq_true permitted)

theorem add_saga (saga : TenantSaga Data) : MultitenantSagaMixin.add (some tenant.id) store saga =
    if MultitenantSagaMixin.permits saga tenant.id then
      .ok (stamped tenant saga,store.set saga.state.id (stamped tenant saga))
    else .error (MultitenantSagaMixin.denied saga tenant.id) := by
  unfold MultitenantSagaMixin.add MultitenantSagaMixin.injectTenantToSaga
  rw [isSystemTenant_tenant,requireTenantContext_saga]
  cases permitted : MultitenantSagaMixin.permits saga tenant.id with
  | true =>
    simp only [Bool.false_eq_true,if_false,bind,Except.bind,permitted,if_true]
    exact rfl
  | false => simp only [Bool.false_eq_true,if_false,bind,Except.bind,permitted]

theorem local_add (labelled : Labelled store) {saga : TenantSaga Data} (unhidden : Unhidden tenant store (.add saga)) :
    Local tenant store (.add saga) := by
  cases permitted : MultitenantSagaMixin.permits saga tenant.id with
  | false =>
    have refused (any : SagaStore Data) : RepositoryCall.perform (some tenant.id) any (.add saga) =
        (.error (MultitenantSagaMixin.denied saga tenant.id),any) := by
      simp only [RepositoryCall.perform,add_saga,permitted,Bool.false_eq_true,if_false]
    refine local_of_reads labelled (fun any => by rw [refused]) ?_
    rw [refused,refused]
  | true =>
    have stored (any : SagaStore Data) : RepositoryCall.perform (some tenant.id) any (.add saga) =
        (.ok (stamped tenant saga),any.set saga.state.id (stamped tenant saga)) := by
      simp only [RepositoryCall.perform,add_saga,permitted,if_true]
    have own := stamped_own permitted
    have old := unhidden permitted
    constructor
    · rw [stored]
      intro id other found
      rw [Dict.get_set] at found
      split at found
      next =>
        cases found
        exact ⟨tenant.id,own⟩
      next => exact labelled id other found
    · intro other differs
      rw [stored]
      refine store.filter_set_dropped (decide_eq_false fun same => ?_) fun replaced there => decide_eq_false fun same => ?_
      · exact differs (Tenant.ext (Option.some.inj (same.symm.trans own)))
      · exact differs (Tenant.ext (Option.some.inj (same.symm.trans (old replaced there))))
    · rw [stored,stored]
    · rw [stored,stored]
      exact (store.filter_set_kept (decide_eq_true own) fun replaced there => decide_eq_true (old replaced there)).symm

theorem local_of_unhidden (labelled : Labelled store) (call : RepositoryCall Data) (unhidden : Unhidden tenant store call) :
    Local tenant store call := by
  cases call with
  | add saga => exact local_add labelled unhidden
  | get sagaId => exact local_get labelled sagaId
  | update saga => exact local_of_reads labelled (fun _ => rfl) rfl
  | delete saga => exact local_of_reads labelled (fun _ => rfl) rfl
  | listAll entityIds specification => exact local_listAll labelled entityIds specification
  | search criteria => exact local_search labelled criteria
  | findByCorrelationId correlationId sagaType => exact local_find labelled unhidden
  | findStalledSagas limit specification =>
    exact local_of_reads labelled (fun _ => rfl) (findFirst_share limit _ specification)
  | findSuspendedSagas limit specification =>
    exact local_of_reads labelled (fun _ => rfl) (findFirst_share limit _ specification)
  | findExpiredSuspendedSagas now limit specification =>
    exact local_of_reads labelled (fun _ => rfl) (findFirst_share limit _ specification)
  | findRunningSagasWithTccSteps limit specification =>
    exact local_of_reads labelled (fun _ => rfl) (findFirst_share limit _ specification)

end Calls

section Operations

variable {store : SagaStore Data}

def restrict (tenant : Tenant) (session : Session Data) : Session Data :=
  {session with repository := share tenant session.repository}

theorem answer_local {tenant : Tenant} (commandBus : Nat → Bool) (uuid4 : Nat → Nat) {session : Session Data}
    (labelled : Labelled session.repository) {call : ManagerCall Data} (allows : allowed tenant call session) :
    answer (some tenant.id) commandBus uuid4 call (restrict tenant session) =
      ((answer (some tenant.id) commandBus uuid4 call session).1,
        restrict tenant (answer (some tenant.id) commandBus uuid4 call session).2) := by
  cases call with
  | send command => exact rfl
  | uuid4 => exact rfl
  | repository call =>
    have alone := local_of_unhidden labelled call allows
    unfold answer restrict
    dsimp only
    rw [alone.same,alone.own]

def Kept (tenant : Tenant) (store : SagaStore Data) (session : Session Data) : Prop :=
  Labelled session.repository ∧ ∀ other : Tenant, other ≠ tenant → share other session.repository = share other store

theorem answer_kept {tenant : Tenant} (commandBus : Nat → Bool) (uuid4 : Nat → Nat) {session : Session Data}
    (kept : Kept tenant store session) {call : ManagerCall Data} (allows : allowed tenant call session) :
    Kept tenant store (answer (some tenant.id) commandBus uuid4 call session).2 := by
  cases call with
  | send command => exact kept
  | uuid4 => exact kept
  | repository call =>
    have alone := local_of_unhidden kept.1 call allows
    exact ⟨alone.labelled,fun other differs => (alone.others other differs).trans (kept.2 other differs)⟩

variable {tenant : Tenant}

/-- A session and the one on the share of the tenant. -/
def Mirrors (tenant : Tenant) (session mirror : Session Data) : Prop :=
  Labelled session.repository ∧ mirror = restrict tenant session

theorem serve_restrict (commandBus : Nat → Bool) (uuid4 : Nat → Nat)
    (program : ManagerClient Data (Except TenantFailure (Option Nat))) (labelled : Labelled store)
    (calls : program.Calls (answer (some tenant.id) commandBus uuid4) (allowed tenant) (Session.start store)) :
    program.serve (answer (some tenant.id) commandBus uuid4) (Session.start (share tenant store)) =
      ((program.serve (answer (some tenant.id) commandBus uuid4) (Session.start store)).1,
        restrict tenant (program.serve (answer (some tenant.id) commandBus uuid4) (Session.start store)).2) := by
  have simulates (made : ManagerCall Data) (session mirror : Session Data) (mirrors : Mirrors tenant session mirror)
      (allows : allowed tenant made session) :
      (answer (some tenant.id) commandBus uuid4 made session).1 =
          (answer (some tenant.id) commandBus uuid4 made mirror).1 ∧
        Mirrors tenant (answer (some tenant.id) commandBus uuid4 made session).2
          (answer (some tenant.id) commandBus uuid4 made mirror).2 := by
    obtain ⟨known,rfl⟩ := mirrors
    rw [answer_local commandBus uuid4 known allows]
    exact ⟨rfl,(answer_kept commandBus uuid4 ⟨known,fun _ _ => rfl⟩ allows).1,rfl⟩
  have initial : Mirrors tenant (Session.start store) (Session.start (share tenant store)) := ⟨labelled,rfl⟩
  obtain ⟨same,_,left⟩ := Client.serve_simulates (Mirrors tenant) simulates program initial calls
  exact Prod.ext same.symm left

theorem serve_kept (commandBus : Nat → Bool) (uuid4 : Nat → Nat)
    (program : ManagerClient Data (Except TenantFailure (Option Nat))) (labelled : Labelled store)
    (calls : program.Calls (answer (some tenant.id) commandBus uuid4) (allowed tenant) (Session.start store)) :
    Kept tenant store (program.serve (answer (some tenant.id) commandBus uuid4) (Session.start store)).2 := by
  have kept (made : ManagerCall Data) (session : Session Data) (kept : Kept tenant store session)
      (allows : allowed tenant made session) :
      Kept tenant store (answer (some tenant.id) commandBus uuid4 made session).2 :=
    answer_kept commandBus uuid4 kept allows
  exact Client.serve_invariant (Kept tenant store) kept program ⟨labelled,fun _ _ => rfl⟩ calls

theorem perform_confined {operation : TenantOperation Data} (labelled : Labelled store)
    (confined : Confined store operation) :
    Labelled (step store operation) ∧
      (∀ other : Tenant, other ≠ operation.tenant → share other (step store operation) = share other store) ∧
        perform (share operation.tenant store) operation =
          (outcome store operation,share operation.tenant (step store operation)) := by
  obtain ⟨tenant,operation⟩ := operation
  cases operation with
  | repository call =>
    have alone := local_of_unhidden labelled call confined
    refine ⟨alone.labelled,alone.others,?_⟩
    unfold outcome step perform
    dsimp only
    rw [alone.same,alone.own]
  | manager manager op commandBus uuid4 =>
    have kept := serve_kept commandBus uuid4 (TenantManager.program manager op).run labelled confined
    refine ⟨kept.1,kept.2,?_⟩
    unfold outcome step perform
    dsimp only
    rw [serve_restrict commandBus uuid4 (TenantManager.program manager op).run labelled confined]
    exact rfl

theorem separates : Noninterference.Separates (step : SagaStore Data → TenantOperation Data → SagaStore Data) outcome
    TenantOperation.tenant share Labelled Confined where
  kept _ _ labelled confined := (perform_confined labelled confined).1
  others _ _ labelled confined := (perform_confined labelled confined).2.1
  own _ _ labelled confined := congrArg Prod.snd (perform_confined labelled confined).2.2
  same _ _ labelled confined := by
    have alone := (perform_confined labelled confined).2.2
    unfold outcome at alone ⊢
    rw [alone]

end Operations

end TenantOperation

end CqrsDdd.Sagas
