import CqrsDdd.Sagas.Builder

/-! A class that `build` returns works exactly when no two of its TCC steps share a
name, which the constructor refuses, and no registration gives a handler together
with an action that the constructor then drops. -/
namespace CqrsDdd.Sagas

variable {Data : Type}

/-- Everything that a call of `on` asks for. -/
def OnConfig.requested (config : OnConfig Data) : List (BuilderAction Data) :=
  config.handler.toList.map .handler ++ config.buildHandlerActions

namespace SagaBuilder

/-- The registrations of the TCC events, in the order of the wiring. -/
def tccRegistrations (builder : SagaBuilder Data) : List (String × List (BuilderAction Data)) :=
  builder.tccBeginEvent.toList.map (fun event => (event,[.begin])) ++
    builder.tccTried.map (fun entry => (entry.2,[.tried entry.1])) ++
    builder.tccConfirmed.map (fun entry => (entry.2,[.confirmed entry.1])) ++
    builder.tccFailed.map (fun entry => (entry.2,[.failed entry.1])) ++
    builder.tccCancelled.map (fun entry => (entry.2,[.cancelled entry.1]))

def requested (builder : SagaBuilder Data) : List (String × List (BuilderAction Data)) :=
  builder.onRegistrations.map (fun registration => (registration.1,registration.2.requested)) ++
    builder.tccRegistrations

def wired (builder : SagaBuilder Data) : List (String × List (BuilderAction Data)) :=
  builder.onRegistrations.map (fun registration => (registration.1,registration.2.mapping)) ++
    builder.tccRegistrations

/-- No handler is registered together with another action. -/
def HandlersAlone (builder : SagaBuilder Data) : Prop :=
  ∀ registration ∈ builder.onRegistrations,
    registration.2.handler.isSome → registration.2.buildHandlerActions = []

end SagaBuilder

/-- The instance has a handler for exactly the events listened to, and each runs what was requested. -/
structure SagaInstance.Works (made : SagaInstance Data) (generated : GeneratedClass Data) : Prop where
  listening : ∀ event, event ∈ generated.listensTo ↔ (made.eventHandlers.get event).isSome = true
  registered : ∀ entry ∈ generated.snapshot.requested, made.eventHandlers.get entry.1 = some entry.2
  delivered : ∀ entry ∈ generated.snapshot.requested, ∀ (attributes : Attributes Data) (saga : Saga Data)
    (now : Int) (event : DomainEvent Data), event.eventType = entry.1 →
      saga.handleEvent (made.asClass attributes generated) now event =
        saga.perform now (actAll attributes entry.2 now event saga.state)

structure GeneratedClass.Works (generated : GeneratedClass Data) : Prop where
  distinct : generated.listensTo.Nodup
  constructed : ∀ (state : SagaState Data) (messageRegistry : Option (MessageRegistry Data)) (nextTag : Nat),
    ∃ made, generated.init state messageRegistry nextTag = .ok made ∧ made.Works generated

namespace SagaBuilder

theorem addEvent_mem (events : List String) (event other : String) :
    other ∈ addEvent events event ↔ other ∈ events ∨ other = event := by
  unfold addEvent
  split
  next known =>
    apply Iff.intro Or.inl
    intro member
    rcases member with earlier | same
    · exact earlier
    · exact same ▸ known
  next => simp

theorem addEvent_nodup {events : List String} (distinct : events.Nodup) (event : String) :
    (addEvent events event).Nodup := by
  unfold addEvent
  split
  next => exact distinct
  next fresh => exact List.Nodup.append distinct (List.nodup_singleton event) (by simpa using fresh)

theorem foldl_addEvent (added events : List String) (distinct : events.Nodup) :
    (added.foldl addEvent events).Nodup ∧
      ∀ event, event ∈ added.foldl addEvent events ↔ event ∈ events ∨ event ∈ added := by
  induction added generalizing events with
  | nil => exact ⟨distinct,fun event => by simp⟩
  | cons first rest ih =>
    obtain ⟨nodup,members⟩ := ih (addEvent events first) (addEvent_nodup distinct first)
    refine ⟨nodup,fun event => ?_⟩
    rw [List.foldl_cons,members,addEvent_mem,List.mem_cons,or_assoc]

theorem noDuplicates_ok {seen events : List String} (fine : noDuplicates seen events = .ok ()) :
    events.Nodup ∧ ∀ event ∈ events, event ∉ seen := by
  induction events generalizing seen with
  | nil => exact ⟨List.nodup_nil,fun _ member => absurd member List.not_mem_nil⟩
  | cons first rest ih =>
    rw [noDuplicates] at fine
    split at fine
    next => cases fine
    next fresh =>
      obtain ⟨distinct,unseen⟩ := ih fine
      have alone : first ∉ rest := fun member => unseen first member List.mem_cons_self
      refine ⟨List.nodup_cons.mpr ⟨alone,distinct⟩,fun event member => ?_⟩
      rcases List.mem_cons.mp member with same | later
      · exact same ▸ fresh
      · exact fun earlier => unseen event later (List.mem_cons_of_mem first earlier)

variable {builder : SagaBuilder Data} {generated : GeneratedClass Data}

theorem build_ok (built : builder.build = .ok generated) :
    generated = ⟨builder.collectListenedEvents,builder⟩ ∧ builder.collectAllEvents.Nodup := by
  unfold build at built
  cases validated : builder.validateBuild with
  | error error =>
    rw [validated] at built
    cases built
  | ok =>
    rw [validated] at built
    cases built
    refine ⟨rfl,?_⟩
    unfold validateBuild at validated
    cases consistent : builder.validateTccConsistency with
    | error error =>
      rw [consistent] at validated
      cases validated
    | ok =>
    cases named : builder.validateTccStepNames with
    | error error =>
      rw [consistent,named] at validated
      cases validated
    | ok =>
      rw [consistent,named] at validated
      exact (noDuplicates_ok validated).1

theorem wired_keys (builder : SagaBuilder Data) : builder.wired.map Prod.fst = builder.collectAllEvents := by
  unfold wired tccRegistrations collectAllEvents
  cases builder.tccBeginEvent with
  | none => simp [Function.comp_def]
  | some event => simp [Function.comp_def]

theorem requested_eq_wired (alone : builder.HandlersAlone) : builder.requested = builder.wired := by
  refine congrArg (· ++ builder.tccRegistrations) (List.map_congr_left fun registration member => ?_)
  have own := alone registration member
  refine congrArg (Prod.mk registration.1) ?_
  unfold OnConfig.requested OnConfig.mapping
  cases given : registration.2.handler with
  | none => exact rfl
  | some run =>
    rw [given] at own
    rw [own rfl]
    exact rfl

end SagaBuilder

theorem TCCSteps.addAll_ok (registered : TCCSteps Data) (steps : List (TCCStep Data)) :
    (∃ added, steps.foldlM addTccStep registered = .ok added) ↔
      (registered.steps.map (·.name) ++ steps.map (·.name)).Nodup := by
  induction steps generalizing registered with
  | nil => simp [registered.distinct,pure,Except.pure]
  | cons step rest ih =>
    rw [List.foldlM_cons,List.map_cons]
    by_cases known : step.name ∈ registered.steps.map (·.name)
    · have refused : registered.addTccStep step =
          .error (.configuration ("TCC step '" ++ step.name ++ "' already registered.")) := dif_pos known
      rw [refused]
      refine iff_of_false (fun ⟨added,impossible⟩ => by cases impossible) fun distinct => ?_
      exact (List.nodup_append.mp distinct).2.2 step.name known step.name List.mem_cons_self rfl
    · obtain ⟨more,accepted,steps⟩ : ∃ more, registered.addTccStep step = .ok more ∧
          more.steps = registered.steps ++ [step] := ⟨_,dif_neg known,rfl⟩
      rw [accepted]
      refine (ih more).trans ?_
      rw [steps,List.map_append,List.append_assoc]
      exact Iff.rfl

namespace GeneratedClass

theorem wired_foldl (builder : SagaBuilder Data) : builder.wired.foldl
    (fun handlers entry => handlers.set entry.1 entry.2) (Dict.empty : EventHandlers Data) =
      wireTccCancelledHandlers builder.tccCancelled (wireTccFailedHandlers builder.tccFailed
        (wireTccConfirmedHandlers builder.tccConfirmed (wireTccTriedHandlers builder.tccTried
          (wireTccBeginHandler builder.tccBeginEvent (builder.onRegistrations.foldl
            (fun handlers registration => handlers.set registration.1 registration.2.mapping) Dict.empty))))) := by
  unfold wireTccCancelledHandlers wireTccFailedHandlers wireTccConfirmedHandlers wireTccTriedHandlers wireTcc
  rw [SagaBuilder.wired,SagaBuilder.tccRegistrations]
  simp only [List.foldl_append,List.foldl_map]
  cases builder.tccBeginEvent with
  | none => exact rfl
  | some event => exact rfl

theorem init_ok (generated : GeneratedClass Data) (state : SagaState Data)
    (messageRegistry : Option (MessageRegistry Data)) (nextTag : Nat)
    (distinct : generated.snapshot.tccStepNames.Nodup) :
    ∃ made, generated.init state messageRegistry nextTag = .ok made ∧
      made.eventHandlers = generated.snapshot.wired.foldl (fun handlers entry => handlers.set entry.1 entry.2)
        Dict.empty := by
  obtain ⟨registered,added⟩ := (TCCSteps.addAll_ok TCCSteps.empty generated.snapshot.tccSteps).mpr distinct
  unfold init
  dsimp only
  rw [added,wired_foldl]
  exact ⟨_,rfl,rfl⟩

theorem init_distinct {generated : GeneratedClass Data} {state : SagaState Data}
    {messageRegistry : Option (MessageRegistry Data)} {nextTag : Nat} {made : SagaInstance Data}
    (constructed : generated.init state messageRegistry nextTag = .ok made) :
    generated.snapshot.tccStepNames.Nodup := by
  unfold init at constructed
  dsimp only at constructed
  cases added : generated.snapshot.tccSteps.foldlM TCCSteps.addTccStep TCCSteps.empty with
  | error error =>
    rw [added] at constructed
    cases constructed
  | ok registered => exact (TCCSteps.addAll_ok TCCSteps.empty generated.snapshot.tccSteps).mp ⟨registered,added⟩

end GeneratedClass

namespace SagaInstance

variable {made : SagaInstance Data} {generated : GeneratedClass Data}

theorem handleEvent_asClass (attributes : Attributes Data) (saga : Saga Data) (now : Int) (event : DomainEvent Data)
    {actions : List (BuilderAction Data)} (found : made.eventHandlers.get event.eventType = some actions) :
    saga.handleEvent (made.asClass attributes generated) now event =
      saga.perform now (actAll attributes actions now event saga.state) := by
  have handler : (made.asClass attributes generated).eventHandlers.lookup event.eventType =
      some (actAll attributes actions) :=
    (Dict.lookup_map made.eventHandlers.entries (actAll attributes) event.eventType).trans
      (congrArg (Option.map _) found)
  rw [Saga.handleEvent,handler]

end SagaInstance

namespace GeneratedClass

variable {builder : SagaBuilder Data} {generated : GeneratedClass Data}

theorem get_wired (distinct : builder.collectAllEvents.Nodup) (entry : String × List (BuilderAction Data))
    (member : entry ∈ builder.wired) : (builder.wired.foldl (fun handlers entry => handlers.set entry.1 entry.2)
      (Dict.empty : EventHandlers Data)).get entry.1 = some entry.2 := by
  have keys : (builder.wired.reverse.map Prod.fst).Nodup := by
    rw [List.map_reverse,List.nodup_reverse,builder.wired_keys]
    exact distinct
  rw [Dict.get_foldl_entries,Dict.lookup_of_mem keys (List.mem_reverse.mpr member)]
  exact rfl

theorem get_wired_isSome (builder : SagaBuilder Data) (event : String) :
    ((builder.wired.foldl (fun handlers entry => handlers.set entry.1 entry.2)
      (Dict.empty : EventHandlers Data)).get event).isSome = true ↔ event ∈ builder.collectAllEvents := by
  rw [Dict.get_foldl_entries,Dict.get_empty,Option.or_none,← builder.wired_keys,← List.mem_reverse,← List.map_reverse]
  generalize builder.wired.reverse = entries
  apply Iff.intro
  · intro found
    obtain ⟨actions,known⟩ := Option.isSome_iff_exists.mp found
    exact List.mem_map_of_mem (Dict.mem_of_lookup known)
  · intro member
    obtain ⟨entry,present,same⟩ := List.mem_map.mp member
    apply List.lookup_isSome_iff.mpr
    exact ⟨entry,present,by simp [same]⟩

theorem works (distinct : builder.collectAllEvents.Nodup) (steps : builder.tccStepNames.Nodup)
    (alone : builder.HandlersAlone) : GeneratedClass.Works ⟨builder.collectListenedEvents,builder⟩ := by
  obtain ⟨nodup,members⟩ := SagaBuilder.foldl_addEvent builder.collectAllEvents [] List.nodup_nil
  refine ⟨nodup,fun state messageRegistry nextTag => ?_⟩
  obtain ⟨made,constructed,handlers⟩ :=
    init_ok ⟨builder.collectListenedEvents,builder⟩ state messageRegistry nextTag steps
  have registered : ∀ entry ∈ builder.requested, made.eventHandlers.get entry.1 = some entry.2 := by
    intro entry member
    rw [builder.requested_eq_wired alone] at member
    rw [handlers]
    exact get_wired distinct entry member
  refine ⟨made,constructed,fun event => ?_,registered,fun entry member attributes saga now event same => ?_⟩
  · rw [handlers,get_wired_isSome]
    exact (members event).trans (by simp)
  · exact SagaInstance.handleEvent_asClass attributes saga now event (same ▸ registered entry member)

theorem Works.conditions (distinct : builder.collectAllEvents.Nodup)
    (works : GeneratedClass.Works ⟨builder.collectListenedEvents,builder⟩) :
    builder.tccStepNames.Nodup ∧ builder.HandlersAlone := by
  obtain ⟨made,constructed,runs⟩ := works.constructed (SagaState.initial 0 "" "") none 0
  have steps := init_distinct constructed
  refine ⟨steps,fun registration member given => ?_⟩
  obtain ⟨other,same,handlers⟩ :=
    init_ok ⟨builder.collectListenedEvents,builder⟩ (SagaState.initial 0 "" "") none 0 steps
  obtain rfl : made = other := Except.ok.inj (constructed.symm.trans same)
  have asked := runs.registered (registration.1,registration.2.requested)
    (List.mem_append_left _ (List.mem_map_of_mem member))
  have wired := get_wired distinct (registration.1,registration.2.mapping)
    (List.mem_append_left _ (List.mem_map_of_mem member))
  rw [handlers,wired] at asked
  have equal := Option.some.inj asked
  unfold OnConfig.requested OnConfig.mapping at equal
  cases run : registration.2.handler with
  | none =>
    rw [run] at given
    cases given
  | some handler =>
    rw [run] at equal
    exact (List.cons.inj equal).2.symm

end GeneratedClass

/-- When a class that `build` returned is one that works. -/
theorem built_works_iff (name : String) (calls : List (BuilderCall Data)) {generated : GeneratedClass Data}
    (built : ((SagaBuilder.new name).callAll calls).build = .ok generated) :
    generated.Works ↔ generated.snapshot.tccStepNames.Nodup ∧ generated.snapshot.HandlersAlone := by
  obtain ⟨rfl,distinct⟩ := SagaBuilder.build_ok built
  exact ⟨GeneratedClass.Works.conditions distinct,fun fine => GeneratedClass.works distinct fine.1 fine.2⟩

def inventory : TCCStep Unit where
  name := "inventory"
  tryCommand := ⟨"ReserveInventory","orders",()⟩
  confirmCommand := ⟨"ConfirmInventory","orders",()⟩
  cancelCommand := ⟨"ReleaseInventory","orders",()⟩
  reservationType := .resource
  timeout := none
  timed := by simp

def payment : TCCStep Unit where
  name := "payment"
  tryCommand := ⟨"HoldPayment","orders",()⟩
  confirmCommand := ⟨"CapturePayment","orders",()⟩
  cancelCommand := ⟨"ReleasePayment","orders",()⟩
  reservationType := .timeBased
  timeout := some 1800
  timed := by simp

def orderTcc (steps : List (TCCStep Unit)) : List (BuilderCall Unit) :=
  steps.map .withTccStep ++ [.onTccBegin "OrderCreated",.onTccTried "inventory" "InventoryReserved",
    .on "OrderShipped" {step := some "shipped", complete := true}]

/-- Two steps with their events, and an event with a handler of its own. -/
def orderPaid : List (BuilderCall Unit) :=
  orderTcc [inventory,payment] ++ [.onTccTried "payment" "PaymentHeld",.onTccFailed "payment" "PaymentRefused",
    .on "OrderChanged" {handler := some fun _ event _ => [.dispatch ⟨"Notify",event.eventType,()⟩]}]

theorem built_works_iff_inventory : ∃ generated,
    ((SagaBuilder.new "OrderTCC").callAll orderPaid).build = .ok generated ∧ generated.Works := by
  refine ⟨_,rfl,(built_works_iff "OrderTCC" orderPaid rfl).mpr ⟨by decide,fun registration member given => ?_⟩⟩
  rcases List.mem_pair.mp member with rfl | rfl
  · cases given
  · rfl

/-- A step given twice passes `build` and is refused by every construction. -/
theorem repeated_step_refused :
    ∃ generated, ((SagaBuilder.new "OrderTCC").callAll (orderTcc [inventory,inventory])).build = .ok generated ∧
      (∀ state messageRegistry nextTag, generated.init state messageRegistry nextTag =
        .error (.configuration ("TCC step '" ++ "inventory" ++ "' already registered."))) ∧ ¬generated.Works := by
  refine ⟨_,rfl,fun state messageRegistry nextTag => rfl,fun works => ?_⟩
  obtain ⟨made,constructed,_⟩ := works.constructed (SagaState.initial 0 "OrderTCC" "order-1") none 0
  exact absurd (GeneratedClass.init_distinct constructed) (by decide)

/-- A handler given with a step passes the check of `on`, and the step is dropped. -/
example (run : EventHandler Unit) : OnConfig.validateOn {handler := some run, step := some "placed"} = .ok () ∧
    OnConfig.mapping {handler := some run, step := some "placed"} = [.handler run] := ⟨rfl,rfl⟩

end CqrsDdd.Sagas
