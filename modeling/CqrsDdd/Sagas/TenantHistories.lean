import CqrsDdd.Sagas.OwnSagas

/-! Histories of operations of several tenants on one saga repository. -/
namespace CqrsDdd.Sagas

open Multitenancy

variable {Data : Type}

namespace TenantOperation

section Histories

variable {tenant : Tenant} {store : SagaStore Data}

def Managed (operation : TenantOperation Data) : Prop :=
  match operation.operation with
  | .manager _ _ _ _ => True
  | .repository _ => False

theorem sound_step {operation : TenantOperation Data} (sound : Sound operation.tenant store) (managed : operation.Managed) :
    Sound operation.tenant (step store operation) := by
  obtain ⟨tenant,operation⟩ := operation
  cases operation with
  | repository call => exact managed.elim
  | manager manager op commandBus uuid4 =>
    have held : Holds tenant [] (Session.start store) := ⟨sound,fun _ member => absurd member List.not_mem_nil⟩
    exact (does_program manager op (Session.start store) held).1.1

/-- A lookup by correlation id returns the tenant's own saga whenever there is one. -/
def FindsOwn (tenant : Tenant) : ManagerCall Data → Session Data → Prop
  | .repository (.findByCorrelationId correlationId sagaType),session => ∀ saga,
    InMemorySagaRepository.findByCorrelationId (share tenant session.repository) correlationId sagaType = some saga →
      MultitenantSagaMixin.findByCorrelationId (some tenant.id) session.repository correlationId sagaType = .ok (some saga)
  | _,_ => True

theorem finds_iff (labelled : Labelled store) (correlationId sagaType : String) :
    (∀ saga, InMemorySagaRepository.findByCorrelationId (share tenant store) correlationId sagaType = some saga →
      MultitenantSagaMixin.findByCorrelationId (some tenant.id) store correlationId sagaType = .ok (some saga)) ↔
      Unhidden tenant store (.findByCorrelationId correlationId sagaType) := by
  have carried : ∀ first, InMemorySagaRepository.findByCorrelationId store correlationId sagaType = some first →
      MultitenantSagaMixin.permits first tenant.id = decide (first.tenantId = some tenant.id) := by
    intro first found
    obtain ⟨id,stored⟩ := store.get_of_mem_values (List.mem_of_find?_eq_some found)
    obtain ⟨name,carries⟩ := labelled id first stored
    exact permits_of_carries carries
  unfold MultitenantSagaMixin.findByCorrelationId
  rw [checked_saga]
  constructor
  · intro finds saga mine
    obtain ⟨found,permitted⟩ := Option.filter_eq_some_iff.mp (Except.ok.inj (finds saga mine))
    exact ⟨saga,found,of_decide_eq_true ((carried saga found).symm.trans permitted)⟩
  · intro unhidden saga mine
    rw [found_share unhidden] at mine
    obtain ⟨found,own⟩ := Option.filter_eq_some_iff.mp mine
    exact congrArg Except.ok (Option.filter_eq_some_iff.mpr ⟨found,(carried saga found).trans own⟩)

def Finds (store : SagaStore Data) (operation : TenantOperation Data) : Prop :=
  match operation.operation with
  | .manager manager op commandBus uuid4 => (TenantManager.program manager op).run.Calls
      (answer (some operation.tenant.id) commandBus uuid4) (FindsOwn operation.tenant) (Session.start store)
  | .repository call => FindsOwn operation.tenant (.repository call) (Session.start store)

theorem findsOwn_of_allowed {session : Session Data} (labelled : Labelled session.repository) (call : ManagerCall Data)
    (allows : allowed tenant call session) : FindsOwn tenant call session := by
  cases call with
  | send command => trivial
  | uuid4 => trivial
  | repository call =>
    cases call with
    | findByCorrelationId correlationId sagaType => exact (finds_iff labelled correlationId sagaType).mpr allows
    | _ => trivial

theorem finds_of_confined {operation : TenantOperation Data} (labelled : Labelled store)
    (confined : Confined store operation) : Finds store operation := by
  obtain ⟨tenant,operation⟩ := operation
  cases operation with
  | repository call => exact findsOwn_of_allowed labelled (.repository call) confined
  | manager manager op commandBus uuid4 =>
    refine Client.calls_imp (Kept tenant store) ?_ ?_ (TenantManager.program manager op).run
      ⟨labelled,fun _ _ => rfl⟩ confined
    · exact fun made session kept allows => answer_kept commandBus uuid4 kept allows
    · exact fun made session kept allows => findsOwn_of_allowed kept.1 made allows

/-- Each tenant is served as if it were alone, its lookups find its own sagas, no operation changes a saga of another
tenant, and no tenant that uses the manager has two sagas for one correlation id and type. -/
structure Isolated (operations : List (TenantOperation Data)) : Prop where
  alone : ∀ one : Tenant, (Noninterference.answers step outcome Dict.empty operations).filter
      (fun entry => entry.1.tenant = one) =
    Noninterference.answers step outcome Dict.empty (operations.filter fun operation => operation.tenant = one)
  untouched : ∀ earlier operation, earlier ++ [operation] <+: operations → ∀ other : Tenant, other ≠ operation.tenant →
    share other (Transition.run step Dict.empty (earlier ++ [operation])) =
      share other (Transition.run step Dict.empty earlier)
  finds : ∀ earlier operation, earlier ++ [operation] <+: operations →
    Finds (Transition.run step Dict.empty earlier) operation
  single : ∀ (one : Tenant) (earlier : List (TenantOperation Data)), earlier <+: operations →
    (∀ operation ∈ earlier, operation.tenant = one → operation.Managed) →
      Sound one (share one (Transition.run step Dict.empty earlier))

theorem labelled_empty : Labelled (Dict.empty : SagaStore Data) := fun _ _ found => nomatch found

theorem labelled_run {operations : List (TenantOperation Data)}
    (meets : Transition.Meets step Confined Dict.empty operations) : Labelled (Transition.run step Dict.empty operations) :=
  Transition.run_invariant Labelled (fun _ _ labelled confined => (perform_confined labelled confined).1) Dict.empty
    operations labelled_empty meets

theorem share_empty (one : Tenant) : share one (Dict.empty : SagaStore Data) = Dict.empty := rfl

theorem sound_alone (one : Tenant) {operations : List (TenantOperation Data)}
    (managed : ∀ operation ∈ operations, operation.tenant = one → operation.Managed) :
    Sound one (Transition.run step Dict.empty (operations.filter fun operation => operation.tenant = one)) := by
  have each : ∀ operation ∈ operations.filter (fun operation => operation.tenant = one),
      operation.tenant = one ∧ operation.Managed := by
    intro operation member
    obtain ⟨inside,mine⟩ := List.mem_filter.mp member
    exact ⟨of_decide_eq_true mine,managed operation inside (of_decide_eq_true mine)⟩
  refine Transition.run_invariant (Sound one) ?_ Dict.empty _ (sound_empty one) (Transition.meets_of_mem Dict.empty each)
  rintro store operation sound ⟨rfl,manages⟩
  exact sound_step sound manages

theorem sagas_isolated (operations : List (TenantOperation Data))
    (meets : Transition.Meets step Confined Dict.empty operations) : Isolated operations := by
  have last : ∀ earlier operation, earlier ++ [operation] <+: operations →
      Labelled (Transition.run step Dict.empty earlier) ∧ Confined (Transition.run step Dict.empty earlier) operation := by
    intro earlier operation before
    have both := (Transition.meets_append step Confined Dict.empty earlier [operation]).mp (meets.earlier before)
    exact ⟨labelled_run both.1,both.2.1⟩
  constructor
  · intro one
    rw [Noninterference.answers_of_party separates one labelled_empty meets,share_empty]
  · intro earlier operation before other differs
    obtain ⟨labelled,confined⟩ := last earlier operation before
    rw [Transition.run_append]
    exact (perform_confined labelled confined).2.1 other differs
  · intro earlier operation before
    obtain ⟨labelled,confined⟩ := last earlier operation before
    exact finds_of_confined labelled confined
  · intro one earlier before managed
    rw [Noninterference.run_of_party separates one labelled_empty (meets.earlier before),share_empty]
    exact sound_alone one managed

/-- While all sagas are the tenant's own, nothing stands in its way. -/
def Owned (tenant : Tenant) (store : SagaStore Data) : Prop :=
  ∀ id saga, store.get id = some saga → saga.tenantId = some tenant.id

theorem allowed_of_owned {session : Session Data} (owned : Owned tenant session.repository) (call : ManagerCall Data) :
    allowed tenant call session := by
  cases call with
  | send command => trivial
  | uuid4 => trivial
  | repository call =>
    cases call with
    | add saga => exact fun _ stored found => owned saga.state.id stored found
    | findByCorrelationId correlationId sagaType =>
      intro saga mine
      have member : saga ∈ (share tenant session.repository).values := List.mem_of_find?_eq_some mine
      rw [share_values] at member
      cases found : InMemorySagaRepository.findByCorrelationId session.repository correlationId sagaType with
      | none => exact absurd (List.find?_some mine) (List.find?_eq_none.mp found saga (List.mem_filter.mp member).1)
      | some first =>
        obtain ⟨id,stored⟩ := session.repository.get_of_mem_values (List.mem_of_find?_eq_some found)
        exact ⟨first,rfl,owned id first stored⟩
    | _ => trivial

theorem confined_of_owned {operation : TenantOperation Data} (owned : Owned operation.tenant store) :
    Confined store operation := by
  obtain ⟨tenant,operation⟩ := operation
  cases operation with
  | repository call =>
    have here : Owned tenant (Session.start store).repository := owned
    exact allowed_of_owned here (.repository call)
  | manager manager op commandBus uuid4 =>
    refine Client.calls_of_forall (fun session => Owned tenant session.repository) ?_ ?_
      (TenantManager.program manager op).run owned
    · intro made session owned
      cases made with
      | send command => exact owned
      | uuid4 => exact owned
      | repository call =>
        cases call with
        | add saga =>
          change Owned tenant (RepositoryCall.perform (some tenant.id) session.repository (.add saga)).2
          unfold RepositoryCall.perform
          dsimp only
          rw [add_saga]
          cases permitted : MultitenantSagaMixin.permits saga tenant.id with
          | false => exact owned
          | true =>
            intro id other found
            change Dict.get (Dict.set session.repository saga.state.id (stamped tenant saga)) id = some other at found
            rw [Dict.get_set] at found
            split at found
            next => exact Option.some.inj found ▸ stamped_own permitted
            next => exact owned id other found
        | _ => exact owned
    · exact fun made session owned => allowed_of_owned owned made

end Histories

section Runs

def orderSaga : SagaClass Unit where
  name := "OrderSaga"
  registered := TCCSteps.empty
  maxRetries := 3
  eventHandlers := []
  onTimeout _ _ := []

def orders : SagaManager Unit where
  registry := ⟨[],[]⟩
  messageRegistry := ⟨[]⟩
  importCommand _ := none
  commandBus _ := true

def starts (tenant : Tenant) (id : Nat) : TenantOperation Unit where
  tenant := tenant
  operation := .manager orders (.startSaga 0 orderSaga ⟨"OrderPlaced","e-1",none,none,none,()⟩ "o-1") (fun _ => true)
    fun _ => id

/-- Globex asks for the saga that acme has started, and acme's next event finds it. -/
theorem sagas_isolated_acme : Isolated [starts acme 1,⟨globex,.repository (.get 1)⟩,starts acme 2] := by
  have first : Confined (Dict.empty : SagaStore Unit) (starts acme 1) := confined_of_owned (sound_empty acme).own
  have managed : Managed (starts acme 1) := trivial
  have sound : Sound acme (step (Dict.empty : SagaStore Unit) (starts acme 1)) := sound_step (sound_empty acme) managed
  have last : Confined (step (Dict.empty : SagaStore Unit) (starts acme 1)) (starts acme 2) := confined_of_owned sound.own
  exact sagas_isolated _ ⟨first,trivial,last,trivial⟩

/-- The saga that globex started first hides the one that acme has started: acme gets a second one. -/
theorem second_saga : ¬Isolated [starts globex 1,starts acme 2,starts acme 3] := by
  intro isolated
  have sound := isolated.single acme _ (List.prefix_refl _) (by simp [starts,Managed])
  have same := sound.single 2 _ 3 _ rfl rfl rfl
  exact absurd same (by decide)

end Runs

end TenantOperation

end CqrsDdd.Sagas
