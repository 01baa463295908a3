import CqrsDdd.Outbox.TenantStorage
import CqrsDdd.Transition

/-! What the calls under one tenant do to the messages of the others. What is pending is
restricted to the tenant, but what is marked is not: the strict mixin looks for foreign
messages among the tenant's own, so that it never finds one. -/
namespace CqrsDdd.Outbox

open Specifications Multitenancy MultitenantRepository

variable {Object : Type} {variant : Variant} {mixin : MultitenantOutboxMixin} {tenant : Tenant}
  {stored : List (DictMessage Object)}

structure TenantOutbox (Object : Type) where
  stored : List (DictMessage Object)
  savers : List Tenant

def bookkeeping (message : DictMessage Object) : Option Int × Option String × Nat :=
  (message.publishedAt,message.error,message.retryCount)

namespace TenantCall

def saved : TenantCall Object → List (DictMessage Object)
  | .saveMessages messages => messages
  | .getPending _ | .markPublished _ _ | .markFailed _ _ => []

def effect (mixin : MultitenantOutboxMixin) (tenant : Tenant) (stored : List (DictMessage Object)) :
    TenantCall Object → List (DictMessage Object)
  | .saveMessages messages => stored ++ messages.map fun message => mixin.injectTenantIntoMessage message tenant.id
  | .getPending _ => stored
  | .markPublished now messageIds => InMemoryOutboxStorage.markPublished stored now messageIds
  | .markFailed messageId error => InMemoryOutboxStorage.markFailed stored messageId error

def returned (tenant : Tenant) (stored : List (DictMessage Object)) : TenantCall Object → List (DictMessage Object)
  | .getPending limit =>
    InMemoryOutboxStorage.getPendingSatisfying stored limit
      (some (MultitenantOutboxMixin.buildTenantSpecification tenant.id))
  | .saveMessages _ | .markPublished _ _ | .markFailed _ _ => []

end TenantCall

namespace TenantOutbox

/-- A call in the context of a tenant; one that raises changes nothing. -/
def step (variant : Variant) (mixin : MultitenantOutboxMixin) (outbox : TenantOutbox Object)
    (call : Tenant × TenantCall Object) : TenantOutbox Object :=
  match call.2.perform variant mixin (some call.1.id) outbox.stored with
  | .ok (after,_) => ⟨after,outbox.savers ++ call.2.saved.map fun _ => call.1⟩
  | .error _ => outbox

def pending (outbox : TenantOutbox Object) (tenant : Tenant) : List (DictMessage Object) :=
  ((outbox.savers.zip outbox.stored).filter fun entry => entry.1 = tenant && entry.2.publishedAt.isNone).map Prod.snd

/-- A message that another tenant has saved is among those with the ids. -/
def NamesForeign (outbox : TenantOutbox Object) (tenant : Tenant) (messageIds : List String) : Prop :=
  ∃ (i : Nat) (saver : Tenant) (message : DictMessage Object),
    outbox.savers[i]? = some saver ∧ outbox.stored[i]? = some message ∧
    saver ≠ tenant ∧ message.messageId ∈ messageIds

structure Isolated (variant : Variant) (mixin : MultitenantOutboxMixin) (outbox : TenantOutbox Object)
    (call : Tenant × TenantCall Object) : Prop where
  untouched : ∀ (i : Nat) (saver : Tenant), outbox.savers[i]? = some saver → saver ≠ call.1 →
    ((outbox.step variant mixin call).stored[i]?).map bookkeeping = (outbox.stored[i]?).map bookkeeping
  pending : ∀ limit, call.2 = .getPending limit →
    call.2.perform variant mixin (some call.1.id) outbox.stored =
      .ok (outbox.stored,upTo limit (byCreation (·.createdAt) (outbox.pending call.1)))
  refused : variant = .strict → ∀ now messageIds, call.2 = .markPublished now messageIds →
    outbox.NamesForeign call.1 messageIds →
      (∃ other, call.2.perform variant mixin (some call.1.id) outbox.stored =
        .error (.crossTenantAccess call.1.id other)) ∧ (outbox.step variant mixin call).stored = outbox.stored

/-- What is to be marked is the tenant's own, or marked already at this very time. -/
def Owned (variant : Variant) (outbox : TenantOutbox Object) (call : Tenant × TenantCall Object) : Prop :=
  match call.2 with
  | .saveMessages _ | .getPending _ => True
  | .markPublished now messageIds => ∀ (i : Nat) (saver : Tenant) (message : DictMessage Object),
    outbox.savers[i]? = some saver → outbox.stored[i]? = some message → message.messageId ∈ messageIds →
      saver = call.1 ∨ (variant = .plain ∧ message.publishedAt = some now)
  | .markFailed messageId _ => ∀ (i : Nat) (saver : Tenant) (message : DictMessage Object),
    outbox.savers[i]? = some saver → outbox.stored[i]? = some message → message.messageId = messageId →
      (∀ j < i, ∀ earlier, outbox.stored[j]? = some earlier → earlier.messageId ≠ messageId) → saver = call.1

def Labelled (outbox : TenantOutbox Object) : Prop :=
  outbox.stored.map (·.tenantId) = outbox.savers.map fun saver => some saver.id

end TenantOutbox

namespace StrictMultitenantOutboxMixin

theorem getTenantFromMessage_own {message : DictMessage Object} (own : message.tenantId = some tenant.id) :
    mixin.getTenantFromMessage message = .text tenant.id := by
  unfold MultitenantOutboxMixin.getTenantFromMessage
  rw [own]

theorem validate_own {pendingById : Dict String (DictMessage Object)}
    (own : ∀ messageId message, pendingById.get messageId = some message → message.tenantId = some tenant.id)
    (messageId : String) : validate mixin tenant.id pendingById messageId = .ok () := by
  unfold validate
  cases found : pendingById.get messageId with
  | none => exact rfl
  | some message =>
    have text : (mixin.getTenantFromMessage message).isText tenant.id = true :=
      isText_iff.mpr (getTenantFromMessage_own (own messageId message found))
    simp [text]

end StrictMultitenantOutboxMixin

namespace TenantCall

theorem getPending_tenant (tenant : Tenant) (stored : List (DictMessage Object)) (limit : Int) :
    MultitenantOutboxMixin.getPending (some tenant.id) stored limit =
      .ok (InMemoryOutboxStorage.getPendingSatisfying stored limit
        (some (MultitenantOutboxMixin.buildTenantSpecification tenant.id))) := by
  unfold MultitenantOutboxMixin.getPending
  rw [isSystemTenant_tenant,requireTenantContext_tenant]
  exact rfl

theorem markPublished_tenant (tenant : Tenant) (stored : List (DictMessage Object)) (now : Int)
    (messageIds : List String) : MultitenantOutboxMixin.markPublished (some tenant.id) stored now messageIds =
      .ok (InMemoryOutboxStorage.markPublished stored now messageIds) := by
  unfold MultitenantOutboxMixin.markPublished
  rw [isSystemTenant_tenant,requireTenantContext_tenant]
  exact rfl

theorem mem_getPendingSatisfying {limit : Int} {isSatisfiedBy : DictMessage Object → Bool}
    {message : DictMessage Object}
    (listed : message ∈ InMemoryOutboxStorage.getPendingSatisfying stored limit (some isSatisfiedBy)) :
    isSatisfiedBy message = true := by
  have sorted := List.mem_of_mem_take listed
  unfold byCreation at sorted
  rw [List.mem_insertionSort] at sorted
  exact (List.mem_filter.mp sorted).2

theorem pending_own {limit : Int} {messageId : String} {message : DictMessage Object}
    (found : ((InMemoryOutboxStorage.getPendingSatisfying stored limit
      (some (MultitenantOutboxMixin.buildTenantSpecification tenant.id))).foldl
        (fun byId message => byId.set message.messageId message) Dict.empty).get messageId = some message) :
    message.tenantId = some tenant.id := by
  rcases Dict.get_foldl_set found with ⟨listed,_⟩ | before
  · have own : MultitenantOutboxMixin.buildTenantSpecification tenant.id message = true := mem_getPendingSatisfying listed
    exact of_decide_eq_true own
  · cases before

theorem strict_markPublished_tenant (mixin : MultitenantOutboxMixin) (tenant : Tenant)
    (stored : List (DictMessage Object)) (now : Int) (messageIds : List String) :
    StrictMultitenantOutboxMixin.markPublished mixin (some tenant.id) stored now messageIds =
      .ok (InMemoryOutboxStorage.markPublished stored now messageIds) := by
  unfold StrictMultitenantOutboxMixin.markPublished
  rw [isSystemTenant_tenant,requireTenantContext_tenant]
  change (MultitenantOutboxMixin.getPending (some tenant.id) stored (messageIds.length * 2) >>= fun pending => _) = _
  rw [getPending_tenant]
  change (messageIds.forM (StrictMultitenantOutboxMixin.validate mixin tenant.id _) >>= fun _ => _) = _
  have passes : messageIds.forM (StrictMultitenantOutboxMixin.validate mixin tenant.id
      ((InMemoryOutboxStorage.getPendingSatisfying stored (messageIds.length * 2)
        (some (MultitenantOutboxMixin.buildTenantSpecification tenant.id))).foldl
          (fun byId message => byId.set message.messageId message) Dict.empty)) = .ok () :=
    Attempts.forM_ok.mpr fun messageId _ => StrictMultitenantOutboxMixin.validate_own (fun _ _ => pending_own) messageId
  rw [passes]
  exact markPublished_tenant tenant stored now messageIds

theorem perform_tenant (variant : Variant) (mixin : MultitenantOutboxMixin) (tenant : Tenant)
    (stored : List (DictMessage Object)) (call : TenantCall Object) :
    call.perform variant mixin (some tenant.id) stored =
      .ok (call.effect mixin tenant stored,call.returned tenant stored) := by
  cases call with
  | saveMessages messages =>
    rw [perform,MultitenantOutboxMixin.saveMessages,isSystemTenant_tenant,requireTenantContext_tenant]
    exact rfl
  | getPending limit =>
    rw [perform,getPending_tenant]
    exact rfl
  | markPublished now messageIds =>
    cases variant with
    | plain =>
      rw [perform,markPublished_tenant]
      exact rfl
    | strict =>
      rw [perform,strict_markPublished_tenant]
      exact rfl
  | markFailed messageId error =>
    rw [perform,MultitenantOutboxMixin.markFailed,isSystemTenant_tenant,requireTenantContext_tenant]
    exact rfl

end TenantCall

theorem map_updateOne {Row Field : Type} {selected : Row → Bool} (update : Row → Row) (field : Row → Field)
    (same : ∀ row, field (update row) = field row) (rows : List Row) :
    (updateOne selected update rows).map field = rows.map field := by
  induction rows with
  | nil => exact rfl
  | cons row rest ih =>
    rw [updateOne]
    split
    next => rw [List.map_cons,List.map_cons,same]
    next => rw [List.map_cons,List.map_cons,ih]

theorem updateOne_first {Row : Type} {selected : Row → Bool} {update : Row → Row} {rows : List Row} {i : Nat} {row : Row}
    (found : rows[i]? = some row) (hit : selected row = true)
    (first : ∀ j < i, ∀ earlier, rows[j]? = some earlier → selected earlier = false) :
    (updateOne selected update rows)[i]? = some (update row) := by
  induction rows generalizing i with
  | nil => cases found
  | cons head rest ih =>
    rw [updateOne]
    cases i with
    | zero =>
      cases found
      rw [if_pos hit]
      exact rfl
    | succ i =>
      have passed := first 0 (Nat.zero_lt_succ i) head rfl
      rw [if_neg (by simp [passed])]
      exact ih found fun j before earlier there => first (j + 1) (Nat.succ_lt_succ before) earlier there

theorem updateOne_other {Row : Type} {selected : Row → Bool} {update : Row → Row} {rows : List Row} {i : Nat} {row : Row}
    (found : rows[i]? = some row)
    (other : selected row = true → ¬ ∀ j < i, ∀ earlier, rows[j]? = some earlier → selected earlier = false) :
    (updateOne selected update rows)[i]? = some row := by
  induction rows generalizing i with
  | nil => cases found
  | cons head rest ih =>
    rw [updateOne]
    cases i with
    | zero =>
      cases found
      have missed : ¬ selected row = true := fun hit => other hit fun j before => absurd before (Nat.not_lt_zero j)
      rw [if_neg missed]
      exact rfl
    | succ i =>
      split
      next => exact found
      next missed =>
        refine ih found fun hit first => other hit fun j before earlier there => ?_
        cases j with
        | zero =>
          cases there
          exact Bool.eq_false_iff.mpr missed
        | succ j => exact first j (Nat.lt_of_succ_lt_succ before) earlier there

namespace TenantOutbox

variable {outbox : TenantOutbox Object} {call : Tenant × TenantCall Object}

theorem step_eq (variant : Variant) (mixin : MultitenantOutboxMixin) (outbox : TenantOutbox Object)
    (call : Tenant × TenantCall Object) : outbox.step variant mixin call =
      ⟨call.2.effect mixin call.1 outbox.stored,outbox.savers ++ call.2.saved.map fun _ => call.1⟩ := by
  unfold step
  rw [TenantCall.perform_tenant]

theorem Labelled.step (labelled : outbox.Labelled) : (outbox.step variant mixin call).Labelled := by
  obtain ⟨tenant,call⟩ := call
  rw [step_eq]
  unfold Labelled at labelled ⊢
  cases call with
  | saveMessages messages =>
    simp only [TenantCall.effect,TenantCall.saved,List.map_append,labelled,List.map_map]
    exact rfl
  | getPending limit => simpa [TenantCall.effect,TenantCall.saved] using labelled
  | markPublished now messageIds =>
    simp only [TenantCall.effect,TenantCall.saved,InMemoryOutboxStorage.markPublished,List.map_nil,List.append_nil,
      ← labelled,List.map_map]
    refine List.map_congr_left fun message _ => ?_
    change (if _ then _ else _ : DictMessage Object).tenantId = _
    split
    next => exact rfl
    next => exact rfl
  | markFailed messageId error =>
    simp only [TenantCall.effect,TenantCall.saved,InMemoryOutboxStorage.markFailed,List.map_nil,List.append_nil,
      ← labelled]
    exact map_updateOne (recordFailure error) OutboxMessage.tenantId (fun _ => rfl) outbox.stored

theorem Labelled.length (labelled : outbox.Labelled) : outbox.stored.length = outbox.savers.length := by
  simpa using congrArg List.length labelled

theorem Labelled.message (labelled : outbox.Labelled) {i : Nat} {saver : Tenant} (found : outbox.savers[i]? = some saver) :
    ∃ message, outbox.stored[i]? = some message ∧ message.tenantId = some saver.id := by
  have label : (outbox.stored.map (·.tenantId))[i]? = some (some saver.id) := by
    rw [labelled,List.getElem?_map,found]
    exact rfl
  rw [List.getElem?_map] at label
  exact Option.map_eq_some_iff.mp label

theorem Labelled.pending_eq (labelled : outbox.Labelled) (tenant : Tenant) :
    (outbox.stored.filter (·.publishedAt.isNone)).filter (MultitenantOutboxMixin.buildTenantSpecification tenant.id) =
      outbox.pending tenant := by
  have zipped : (outbox.savers.zip outbox.stored).map Prod.snd = outbox.stored :=
    List.map_snd_zip labelled.length.le
  unfold pending
  conv_lhs => rw [← zipped]
  rw [List.filter_filter,List.filter_map]
  refine congrArg (List.map Prod.snd) (List.filter_congr fun entry member => ?_)
  obtain ⟨i,inside⟩ := List.mem_iff_getElem?.mp member
  obtain ⟨saved,found⟩ := List.getElem?_zip_eq_some.mp inside
  obtain ⟨message,same,label⟩ := labelled.message saved
  obtain rfl := Option.some.inj (found.symm.trans same)
  have own : MultitenantOutboxMixin.buildTenantSpecification tenant.id entry.2 = decide (entry.1 = tenant) := by
    unfold MultitenantOutboxMixin.buildTenantSpecification
    rw [label]
    exact decide_eq_decide.mpr ⟨fun equal => Tenant.ext (Option.some.inj equal),
      fun equal => congrArg (fun saver : Tenant => some saver.id) equal⟩
  exact congrArg (· && entry.2.publishedAt.isNone) own

theorem owned_of_isolated (isolated : outbox.Isolated variant mixin call) :
    outbox.Owned variant call := by
  obtain ⟨tenant,call⟩ := call
  have untouched := isolated.untouched
  rw [step_eq] at untouched
  cases call with
  | saveMessages messages => exact trivial
  | getPending limit => exact trivial
  | markPublished now messageIds =>
    intro i saver message saved found named
    by_contra foreign
    obtain ⟨differs,late⟩ := not_or.mp foreign
    cases variant with
    | strict =>
      have names : outbox.NamesForeign tenant messageIds := ⟨i,saver,message,saved,found,differs,named⟩
      obtain ⟨⟨other,raised⟩,_⟩ := isolated.refused rfl now messageIds rfl names
      rw [TenantCall.perform_tenant] at raised
      cases raised
    | plain =>
      have same := untouched i saver saved differs
      simp only [TenantCall.effect,InMemoryOutboxStorage.markPublished,List.getElem?_map,found,Option.map_some,
        if_pos named,bookkeeping,Option.some.injEq,Prod.mk.injEq] at same
      exact late ⟨rfl,same.1.symm⟩
  | markFailed messageId error =>
    intro i saver message saved found named first
    by_contra differs
    have same := untouched i saver saved differs
    have updated : (updateOne (fun row => row.messageId = messageId) (recordFailure error) outbox.stored)[i]? =
        some (recordFailure error message) := updateOne_first found (decide_eq_true named)
      fun j before earlier there => decide_eq_false (first j before earlier there)
    simp only [TenantCall.effect,InMemoryOutboxStorage.markFailed,updated,found,Option.map_some] at same
    have counted := congrArg (fun fields => fields.2.2) (Option.some.inj same)
    exact absurd counted (Nat.succ_ne_self message.retryCount)

theorem isolated_of_owned (owned : outbox.Owned variant call) (labelled : outbox.Labelled) :
    outbox.Isolated variant mixin call := by
  obtain ⟨tenant,call⟩ := call
  constructor
  · intro i saver saved differs
    obtain ⟨message,found,_⟩ := labelled.message saved
    rw [step_eq,found]
    cases call with
    | saveMessages messages =>
      change (((outbox.stored ++ _)[i]?).map bookkeeping) = _
      rw [List.getElem?_append_left (List.getElem?_eq_some_iff.mp found).1,found]
    | getPending limit => exact congrArg (Option.map bookkeeping) found
    | markPublished now messageIds =>
      change (((outbox.stored.map _)[i]?).map bookkeeping) = _
      rw [List.getElem?_map,found,Option.map_some,Option.map_some,Option.map_some]
      by_cases named : message.messageId ∈ messageIds
      · have late := ((owned i saver message saved found named).resolve_left differs).2
        rw [if_pos named]
        exact congrArg some (Prod.ext late.symm rfl)
      · rw [if_neg named]
    | markFailed messageId error =>
      have kept : (updateOne (fun row => row.messageId = messageId) (recordFailure error) outbox.stored)[i]? =
          some message := updateOne_other found fun hit first => differs (owned i saver message saved found
          (of_decide_eq_true hit) fun j before earlier there => of_decide_eq_false (first j before earlier there))
      exact congrArg (Option.map bookkeeping) kept
  · intro limit same
    change call = _ at same
    subst same
    rw [TenantCall.perform_tenant]
    change Except.ok (_,upTo limit (byCreation _ (List.filter _ (List.filter _ _)))) = _
    rw [labelled.pending_eq]
    exact rfl
  · intro strict now messageIds same ⟨i,saver,message,saved,found,differs,named⟩
    change call = _ at same
    subst same
    rcases owned i saver message saved found named with own | ⟨other,_⟩
    · exact absurd own differs
    · rw [strict] at other
      cases other

theorem isolated_iff (variant : Variant) (mixin : MultitenantOutboxMixin)
    (history : List (Tenant × TenantCall Object)) :
    Transition.Meets (step variant mixin) (Isolated variant mixin) ⟨[],[]⟩ history ↔
      Transition.Meets (step variant mixin) (Owned variant) ⟨[],[]⟩ history := by
  have start : Labelled (⟨[],[]⟩ : TenantOutbox Object) := rfl
  refine Transition.meets_congr Labelled (fun _ _ labelled => labelled.step) (fun _ _ labelled => ?_) start history
  exact ⟨owned_of_isolated,fun owned => isolated_of_owned owned labelled⟩

def order : DictMessage Unit :=
  {messageId := "m",eventType := "E",payload := [],metadata := [],createdAt := 0,publishedAt := none,error := none,
   retryCount := 0,correlationId := "",causationId := none,tenantId := none}

/-- The message that one tenant has saved is marked by another, who names its id. -/
theorem marked_by_another : ¬ ∃ variant : Variant,
    Transition.Meets (step variant {}) (Isolated variant {}) ⟨[],[]⟩
      [(globex,.saveMessages [order]),(acme,.markPublished 1 ["m"])] := by
  rintro ⟨variant,isolated⟩
  have same := isolated.2.1.untouched 0 globex
  rw [step_eq,step_eq] at same
  have kept := same rfl (by decide)
  cases kept

end TenantOutbox

end CqrsDdd.Outbox
