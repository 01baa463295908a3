import CqrsDdd.Sagas.TccMachine
import CqrsDdd.Sagas.Manager

/-! The record cache of one saga object under its public calls in any order. Readers
fill the cache, writers replace it and `handle` drops it, but `begin_tcc` writes the
records of the state past it. A handler makes its calls between the two halves of
`handle`; which ones it makes may depend on all it has seen. -/
namespace CqrsDdd.Sagas

inductive SagaCall (Data : Type)
  | addTccStep (step : TCCStep Data)
  | getTccStepPhase (stepName : String)
  | getTccStepRecords
  | act (now : Int) (action : SagaAction Data)

/-- `begun` names the steps that `begin_tcc` began; `completions` has the records of the state
as `mark_step_confirmed` left them, once for each time it completed the saga. -/
structure TccHistory (Data : Type) where
  saga : Saga Data
  begun : List String
  completions : List (List (TCCStepRecord Data))

inductive PublicCall (Data : Type)
  | call (call : SagaCall Data)
  | handle (eventId eventType : String) (handler : List (SagaCall Data))

namespace Saga
variable {Data : Type}

def addTccStep (saga : Saga Data) (step : TCCStep Data) : Result Data :=
  match saga.registered.addTccStep step with
  | .ok registered => ({saga with registered := registered},none)
  | .error error => (saga,some error)

def getTccStepPhase (saga : Saga Data) (stepName : String) : Option TCCPhase × Saga Data :=
  let loaded := saga.loadTccRecords
  ((loaded.1.find? fun record => record.name = stepName).map (·.phase),loaded.2)

def getTccStepRecords (saga : Saga Data) : List (TCCStepRecord Data) × Saga Data := saga.loadTccRecords

def invoke (saga : Saga Data) : SagaCall Data → Result Data
  | .addTccStep step => saga.addTccStep step
  | .getTccStepPhase stepName => ((saga.getTccStepPhase stepName).2,none)
  | .getTccStepRecords => (saga.getTccStepRecords.2,none)
  | .act now action => saga.act now action

def beginning (saga : Saga Data) : SagaCall Data → List String
  | .act now .beginTcc => if (saga.beginTcc now).2 = none then saga.registered.steps.map (·.name) else []
  | _ => []

/-- The call is one of `mark_step_confirmed` that completes the saga, which it does whatever the status is. -/
def completes (saga : Saga Data) : SagaCall Data → Bool
  | .act _ (.tcc (.confirmed stepName)) =>
    ((saga.setStatus .running).markStepConfirmed stepName).1.state.status = .completed
  | _ => false

end Saga

namespace TccHistory
variable {Data : Type}

def opened (saga : Saga Data) : TccHistory Data := ⟨saga,saga.state.tccSteps.map (·.name),[]⟩

def call (history : TccHistory Data) (call : SagaCall Data) : TccHistory Data × Option SagaError :=
  let left := history.saga.invoke call
  (⟨left.1,history.begun ++ history.saga.beginning call,
    history.completions ++ if history.saga.completes call then [left.1.state.tccSteps] else []⟩,left.2)

def callAll : List (SagaCall Data) → TccHistory Data → TccHistory Data × Option SagaError
  | [],history => (history,none)
  | first::rest,history =>
    match history.call first with
    | (left,some error) => (left,some error)
    | (left,none) => callAll rest left

def entered (history : TccHistory Data) : TccHistory Data :=
  {history with saga := {history.saga with tccRecordsCache := none}.start}

def handle (history : TccHistory Data) (eventId eventType : String) (handler : List (SagaCall Data)) :
    TccHistory Data × Option SagaError :=
  let fresh := {history.saga with tccRecordsCache := none}
  if fresh.state.isTerminal then ({history with saga := fresh},none)
  else if fresh.state.isEventProcessed eventId then ({history with saga := fresh},none)
  else
    match callAll handler history.entered with
    | (left,some error) => (left,some error)
    | (left,none) =>
      let marked := left.saga.state.markEventProcessed eventId
      ({left with saga := {left.saga with state := marked.recordStep marked.currentStep eventType}},none)

def step (history : TccHistory Data) : PublicCall Data → TccHistory Data
  | .call call => (history.call call).1
  | .handle eventId eventType handler => (history.handle eventId eventType handler).1

/-- The cache tells the truth, no begun step is lost and no saga was completed without confirmed steps. -/
structure Kept (history : TccHistory Data) : Prop where
  coherent : history.saga.Coherent
  begun : history.begun ⊆ history.saga.state.tccSteps.map (·.name)
  completions : ∀ records ∈ history.completions, records ≠ [] ∧ ∀ record ∈ records, record.phase = .confirmed

/-- Steps are begun only while nothing is cached, and confirmed only where there are some. -/
def Safe (history : TccHistory Data) : SagaCall Data → Prop
  | .act _ .beginTcc => history.saga.state.tccSteps = [] → history.saga.tccRecordsCache = none
  | .act _ (.tcc (.confirmed _)) => history.saga.state.tccSteps ≠ []
  | _ => True

def AllSafe : List (SagaCall Data) → TccHistory Data → Prop
  | [],_ => True
  | first::rest,history => history.Safe first ∧ ((history.call first).2 = none → AllSafe rest (history.call first).1)

def Allowed (history : TccHistory Data) : PublicCall Data → Prop
  | .call call => history.Safe call
  | .handle eventId _ handler =>
    history.saga.state.isTerminal = false → history.saga.state.isEventProcessed eventId = false →
      AllSafe handler history.entered

end TccHistory

/-- With a handler that makes only the calls of the saga classes, it is their `handle`. -/
theorem TccHistory.handle_saga {Data : Type} (history : TccHistory Data) (sagaClass : SagaClass Data) (now : Int)
    (event : DomainEvent Data) (handler : EventHandler Data)
    (registered : sagaClass.eventHandlers.lookup event.eventType = some handler) :
    (history.handle event.eventId event.eventType
      ((handler now event ({history.saga with tccRecordsCache := none} : Saga Data).start.state).map
        (SagaCall.act now))).1.saga = (history.saga.handle sagaClass now event).1 := by
  have performed (actions : List (SagaAction Data)) (current : TccHistory Data) :
      ((TccHistory.callAll (actions.map (SagaCall.act now)) current).1.saga,
        (TccHistory.callAll (actions.map (SagaCall.act now)) current).2) = current.saga.perform now actions := by
    induction actions generalizing current with
    | nil => rfl
    | cons action rest ih =>
      rw [List.map_cons,TccHistory.callAll,Saga.perform]
      cases acted : current.saga.act now action with
      | mk left error =>
        simp only [TccHistory.call,Saga.invoke,acted]
        cases error with
        | some error => rfl
        | none => exact ih _
  unfold TccHistory.handle Saga.handle
  dsimp only
  split
  next => rfl
  next =>
    split
    next => rfl
    next =>
      have ran := performed (handler now event ({history.saga with tccRecordsCache := none} : Saga Data).start.state)
        history.entered
      rw [Saga.handleEvent,registered]
      dsimp only
      change _ = ({history.saga with tccRecordsCache := none} : Saga Data).start.perform now _ at ran
      rw [← ran]
      generalize TccHistory.callAll _ history.entered = left
      obtain ⟨left,error⟩ := left
      cases error with
      | some error => rfl
      | none => rfl

namespace TccView
variable {Data : Type}

theorem mark_names (view : TccView Data) (stepName : String) (phase : TCCPhase) (error : Option String) :
    (view.mark stepName phase error).records.map (·.name) = view.records.map (·.name) := by
  simp only [mark,List.map_map]
  apply List.map_congr_left
  intro record _
  simp only [Function.comp_apply,Saga.phased]
  split
  next => rfl
  next => rfl

theorem advance_names (selected : TCCStepRecord Data → Bool) (phase : TCCPhase) (records : List (TCCStepRecord Data)) :
    (records.map (advance selected phase)).map (·.name) = records.map (·.name) := by
  rw [List.map_map]
  apply List.map_congr_left
  intro record _
  simp only [Function.comp_apply,advance]
  split
  next => rfl
  next => rfl

theorem fail_names (registry : Option (MessageRegistry Data)) (view : TccView Data) (stepName reason : String) :
    (view.fail registry stepName reason).records.map (·.name) = view.records.map (·.name) := by
  cases registry with
  | none => rfl
  | some registry =>
    apply (mark_names (view.cancelAll registry) stepName .failed (some reason)).trans
    exact advance_names (cancels registry) .cancelling view.records

theorem expire_names (registry : Option (MessageRegistry Data)) (view : TccView Data) (names : List String) :
    (view.expire registry names).records.map (·.name) = view.records.map (·.name) := by
  induction names generalizing view with
  | nil => rfl
  | cons name rest ih =>
    apply (ih (fail registry view name (Saga.expiryReason name))).trans
    exact fail_names registry view name (Saga.expiryReason name)

theorem apply_names (registry : Option (MessageRegistry Data)) (view : TccView Data) (op : TccOp) :
    (view.apply registry op).records.map (·.name) = view.records.map (·.name) := by
  cases op with
  | tried stepName =>
    have marked := mark_names view stepName .tried none
    simp only [apply,tryDone]
    cases registry with
    | none => exact marked
    | some registry =>
      dsimp only
      split
      next => exact (advance_names (confirms registry) .confirming _).trans marked
      next => exact marked
  | confirmed stepName =>
    have marked := mark_names view stepName .confirmed none
    simp only [apply]
    split
    next => exact marked
    next => exact marked
  | failed stepName reason => exact fail_names registry view stepName reason
  | cancelled stepName =>
    have marked := mark_names view stepName .cancelled none
    simp only [apply]
    split
    next => exact marked
    next => exact marked
  | timeouts now => exact expire_names registry view (view.expiredNames now)
  | reload => rfl

end TccView

namespace Saga
variable {Data : Type}

/-- What the cache and the state say of the steps. -/
def tccPart (saga : Saga Data) := (saga.tccRecordsCache,saga.state.tccSteps)

theorem coherent_of_tccPart {first second : Saga Data} (same : second.tccPart = first.tccPart)
    (coherent : first.Coherent) : second.Coherent := by
  obtain ⟨cache,steps⟩ := Prod.mk.inj same
  intro records cached
  rw [steps]
  exact coherent records (cache.symm.trans cached)

theorem popCompensations_tccPart (registry : MessageRegistry Data) (records : List (CompensationRecord Data))
    (saga : Saga Data) :
    (records.foldl (fun current record => popCompensation registry record current) saga).tccPart = saga.tccPart := by
  induction records generalizing saga with
  | nil => rfl
  | cons record rest ih =>
    apply (ih (popCompensation registry record saga)).trans
    unfold popCompensation
    split
    next => rfl
    next => rfl

theorem executeCompensations_tccPart (saga : Saga Data) : saga.executeCompensations.1.tccPart = saga.tccPart := by
  unfold executeCompensations
  split
  next => rfl
  next registry _ => exact popCompensations_tccPart registry saga.state.compensationStack.reverse _

theorem fail_tccPart (saga : Saga Data) (reason : String) (compensate : Bool) :
    (saga.fail reason compensate).1.tccPart = saga.tccPart := by
  unfold fail
  dsimp only
  split
  next => exact executeCompensations_tccPart (saga.setError reason)
  next => rfl

theorem resume_tccPart (saga : Saga Data) : saga.resume.tccPart = saga.tccPart := by
  unfold resume
  split
  next => rfl
  next => rfl

theorem act_tccPart (now : Int) (saga : Saga Data) (action : SagaAction Data) (begins : action ≠ .beginTcc)
    (marks : ∀ op, action ≠ .tcc op) : (saga.act now action).1.tccPart = saga.tccPart := by
  cases action with
  | fail reason compensate => exact fail_tccPart saga reason compensate
  | executeCompensations => exact executeCompensations_tccPart saga
  | resume => exact resume_tccPart saga
  | beginTcc => exact absurd rfl begins
  | tcc op => exact absurd rfl (marks op)
  | dispatch | addCompensation | setStep | setMaxRetries | complete | suspend | raise => rfl

/-- What a call may do to the record cache and to the names of the steps. -/
structure Keeps (before after : Saga Data) : Prop where
  coherent : after.Coherent
  names : after.state.tccSteps.map (·.name) = before.state.tccSteps.map (·.name)

theorem keeps_of_tccPart {before after : Saga Data} (same : after.tccPart = before.tccPart)
    (coherent : before.Coherent) : Keeps before after :=
  ⟨coherent_of_tccPart same coherent,congrArg (List.map (·.name)) (Prod.mk.inj same).2⟩

theorem load_keeps {saga : Saga Data} (coherent : saga.Coherent) : Keeps saga saga.loadTccRecords.2 := by
  have shows := load_shows saga ⟨coherent,rfl,rfl⟩
  exact ⟨shows.1,congrArg (fun view : TccView Data => view.records.map (·.name)) shows.2.2⟩

theorem applyTcc_keeps {saga : Saga Data} (coherent : saga.Coherent) (op : TccOp) :
    Keeps saga (saga.applyTcc op).1 := by
  have shows := apply_refines saga ⟨coherent,rfl,rfl⟩ op
  refine ⟨shows.1,?_⟩
  have names := TccView.apply_names saga.messageRegistry saga.view op
  rw [← shows.2.2] at names
  exact names

theorem addTccStep_tccPart (saga : Saga Data) (step : TCCStep Data) :
    (saga.addTccStep step).1.tccPart = saga.tccPart := by
  unfold addTccStep
  split
  next => rfl
  next => rfl

theorem beginTcc_begun (saga : Saga Data) (now : Int) (begun : (saga.beginTcc now).2 = none) :
    saga.state.tccSteps = [] ∧ (saga.beginTcc now).1.tccRecordsCache = saga.tccRecordsCache ∧
      (saga.beginTcc now).1.state.tccSteps = saga.registered.steps.map (recordOf now) := by
  unfold beginTcc at begun ⊢
  split at begun
  next => cases begun
  next some =>
    split at begun
    next => cases begun
    next fresh =>
      rw [if_neg some,if_neg fresh]
      refine ⟨?_,(tryAll_frame saga.registered.steps saga).1,rfl⟩
      simpa using fresh

theorem beginTcc_raised (saga : Saga Data) (now : Int) (raised : (saga.beginTcc now).2 ≠ none) :
    (saga.beginTcc now).1 = saga := by
  unfold beginTcc at raised ⊢
  split
  next => rfl
  next some =>
    rw [if_neg some] at raised
    split
    next => rfl
    next fresh =>
      rw [if_neg fresh] at raised
      exact absurd rfl raised

theorem completes_confirmed {saga : Saga Data} (coherent : saga.Coherent) {now : Int} {stepName : String}
    (completing : saga.completes (.act now (.tcc (.confirmed stepName))) = true) :
    ∀ record ∈ (saga.applyTcc (.confirmed stepName)).1.state.tccSteps, record.phase = .confirmed := by
  have running := @apply_refines _ (saga.setStatus .running) saga.messageRegistry (saga.setStatus .running).view
    ⟨coherent,rfl,rfl⟩ (.confirmed stepName)
  have actual := apply_refines saga ⟨coherent,rfl,rfl⟩ (.confirmed stepName)
  have completed : (TccView.apply saga.messageRegistry (saga.setStatus .running).view (.confirmed stepName)).status =
      .completed := by
    rw [← running.2.2]
    exact of_decide_eq_true completing
  -- The status that the confirmation finds decides nothing.
  have all : (saga.view.mark stepName .confirmed none).inPhase .confirmed = true := by
    by_contra missing
    have other : (TccView.apply saga.messageRegistry (saga.setStatus .running).view (.confirmed stepName)).status =
        .running := by
      rw [TccView.apply]
      exact congrArg TccView.status (if_neg missing)
    rw [other] at completed
    cases completed
  have records : (saga.applyTcc (.confirmed stepName)).1.state.tccSteps =
      (saga.view.mark stepName .confirmed none).records := by
    change (saga.applyTcc (.confirmed stepName)).1.view.records = _
    rw [actual.2.2]
    simp only [TccView.apply]
    rw [if_pos all]
  rw [records]
  intro record member
  exact of_decide_eq_true (List.all_eq_true.mp all record member)

end Saga

namespace TccHistory
variable {Data : Type}

theorem opened_kept (state : SagaState Data) (registry : Option (MessageRegistry Data)) (registered : TCCSteps Data)
    (nextTag : Nat) : (opened (Saga.create state registry registered nextTag)).Kept where
  coherent records cached := by cases cached
  begun _ member := member
  completions _ member := absurd member List.not_mem_nil

theorem Kept.call_of_keeps {history : TccHistory Data} (kept : history.Kept) {call : SagaCall Data}
    (keeps : Saga.Keeps history.saga (history.saga.invoke call).1) (begins : history.saga.beginning call = [])
    (completion : history.saga.completes call = true → (history.saga.invoke call).1.state.tccSteps ≠ [] ∧
      ∀ record ∈ (history.saga.invoke call).1.state.tccSteps, record.phase = .confirmed) :
    (history.call call).1.Kept where
  coherent := keeps.coherent
  begun := by
    intro name member
    change name ∈ (history.saga.invoke call).1.state.tccSteps.map (·.name)
    rw [keeps.names]
    apply kept.begun
    simpa [TccHistory.call,begins] using member
  completions := by
    intro records member
    rcases List.mem_append.mp member with earlier | last
    · exact kept.completions records earlier
    · split at last
      next completing =>
        rw [List.mem_singleton.mp last]
        exact completion completing
      next => exact absurd last List.not_mem_nil

theorem Kept.begin {history : TccHistory Data} (kept : history.Kept) (now : Int)
    (safe : history.Safe (.act now .beginTcc)) : (history.call (.act now .beginTcc)).1.Kept := by
  by_cases begun : (history.saga.beginTcc now).2 = none
  · obtain ⟨fresh,cache,steps⟩ := Saga.beginTcc_begun history.saga now begun
    have names : (history.saga.beginTcc now).1.state.tccSteps.map (·.name) =
        history.saga.registered.steps.map (·.name) := by
      rw [steps,List.map_map]
      rfl
    constructor
    · intro records cached
      rw [show (history.call (.act now .beginTcc)).1.saga = (history.saga.beginTcc now).1 from rfl,cache,
        safe fresh] at cached
      cases cached
    · -- Before this call no step had been begun, as there was no record.
      intro name member
      change name ∈ (history.saga.beginTcc now).1.state.tccSteps.map (·.name)
      rw [names]
      rcases List.mem_append.mp member with earlier | new
      · have recorded := kept.begun earlier
        rw [fresh] at recorded
        cases recorded
      · simpa [Saga.beginning,begun] using new
    · intro records member
      apply kept.completions
      simpa [TccHistory.call,Saga.completes] using member
  · apply kept.call_of_keeps
    · change Saga.Keeps history.saga (history.saga.beginTcc now).1
      rw [Saga.beginTcc_raised history.saga now begun]
      exact ⟨kept.coherent,rfl⟩
    · exact if_neg begun
    · intro completing
      cases completing

theorem call_kept {history : TccHistory Data} (kept : history.Kept) (call : SagaCall Data)
    (safe : history.Safe call) : (history.call call).1.Kept := by
  have quiet {call : SagaCall Data} (never : history.saga.completes call = false) :
      history.saga.completes call = true → (history.saga.invoke call).1.state.tccSteps ≠ [] ∧
        ∀ record ∈ (history.saga.invoke call).1.state.tccSteps, record.phase = .confirmed := by
    intro completing
    rw [never] at completing
    cases completing
  cases call with
  | addTccStep step =>
    apply kept.call_of_keeps
    · exact Saga.keeps_of_tccPart (Saga.addTccStep_tccPart history.saga step) kept.coherent
    · rfl
    · exact quiet rfl
  | getTccStepPhase stepName => exact kept.call_of_keeps (Saga.load_keeps kept.coherent) rfl (quiet rfl)
  | getTccStepRecords => exact kept.call_of_keeps (Saga.load_keeps kept.coherent) rfl (quiet rfl)
  | act now action =>
    cases action with
    | beginTcc => exact kept.begin now safe
    | tcc op =>
      have keeps := Saga.applyTcc_keeps kept.coherent op
      cases op with
      | confirmed stepName =>
        refine kept.call_of_keeps ?_ ?_ ?_
        · exact keeps
        · rfl
        · intro completing
          refine ⟨fun empty => ?_,Saga.completes_confirmed kept.coherent completing⟩
          have names := keeps.names
          rw [show (history.saga.applyTcc (.confirmed stepName)).1.state.tccSteps = [] from empty] at names
          exact safe (List.map_eq_nil_iff.mp names.symm)
      | tried | failed | cancelled | timeouts | reload => exact kept.call_of_keeps keeps rfl (quiet rfl)
    | dispatch | addCompensation | setStep | setMaxRetries | complete | fail | executeCompensations | suspend
    | resume | raise =>
      apply kept.call_of_keeps
      · refine Saga.keeps_of_tccPart (Saga.act_tccPart now history.saga _ ?_ ?_) kept.coherent
        · intro same
          cases same
        · intro op same
          cases same
      · rfl
      · exact quiet rfl

theorem callAll_kept (handler : List (SagaCall Data)) {history : TccHistory Data} (kept : history.Kept)
    (safe : AllSafe handler history) : (callAll handler history).1.Kept := by
  induction handler generalizing history with
  | nil => exact kept
  | cons first rest ih =>
    have next := call_kept kept first safe.1
    unfold callAll
    split
    next left error called =>
      rw [called] at next
      exact next
    next left called =>
      rw [called] at next
      have later := safe.2
      rw [called] at later
      exact ih next (later rfl)

theorem Kept.reopened {history : TccHistory Data} (kept : history.Kept) {saga : Saga Data}
    (dropped : saga.tccRecordsCache = none) (steps : saga.state.tccSteps = history.saga.state.tccSteps) :
    ({history with saga := saga} : TccHistory Data).Kept where
  coherent records cached := by
    rw [dropped] at cached
    cases cached
  begun := by
    intro name member
    change name ∈ saga.state.tccSteps.map (·.name)
    rw [steps]
    exact kept.begun member
  completions := kept.completions

theorem entered_kept {history : TccHistory Data} (kept : history.Kept) : history.entered.Kept := by
  apply kept.reopened
  · unfold Saga.start
    split
    next => rfl
    next => rfl
  · unfold Saga.start
    split
    next => rfl
    next => rfl

theorem handle_kept {history : TccHistory Data} (kept : history.Kept) (eventId eventType : String)
    (handler : List (SagaCall Data)) (allowed : history.Allowed (.handle eventId eventType handler)) :
    (history.handle eventId eventType handler).1.Kept := by
  unfold handle
  dsimp only
  split
  next => exact kept.reopened rfl rfl
  next active =>
    split
    next => exact kept.reopened rfl rfl
    next fresh =>
      have safe := allowed (Bool.eq_false_iff.mpr active) (Bool.eq_false_iff.mpr fresh)
      have called := callAll_kept handler (entered_kept kept) safe
      split
      next left error result =>
        rw [result] at called
        exact called
      next left result =>
        rw [result] at called
        have steps : (left.saga.state.markEventProcessed eventId).tccSteps = left.saga.state.tccSteps := by
          unfold SagaState.markEventProcessed
          split
          next => rfl
          next => rfl
        constructor
        · intro records cached
          exact (called.coherent records cached).trans steps.symm
        · intro name member
          change name ∈ (left.saga.state.markEventProcessed eventId).tccSteps.map (·.name)
          rw [steps]
          exact called.begun member
        · exact called.completions

theorem step_kept (history : TccHistory Data) (call : PublicCall Data) (kept : history.Kept)
    (allowed : history.Allowed call) : (history.step call).Kept := by
  cases call with
  | call call => exact call_kept kept call allowed
  | handle eventId eventType handler => exact handle_kept kept eventId eventType handler allowed

/-- In every run that begins its steps while nothing is cached and confirms none where there are
none, the cache agrees with the state, no begun step is lost and only a saga whose steps are all
confirmed is completed by a confirmation. -/
theorem records_kept (state : SagaState Data) (registry : Option (MessageRegistry Data)) (registered : TCCSteps Data)
    (nextTag : Nat) (calls : List (PublicCall Data))
    (allowed : Transition.Meets step Allowed (opened (Saga.create state registry registered nextTag)) calls)
    (earlier : List (PublicCall Data)) (reached : earlier <+: calls) :
    (Transition.run step (opened (Saga.create state registry registered nextTag)) earlier).Kept :=
  Transition.run_invariant Kept (fun history call kept => step_kept history call kept)
    (opened (Saga.create state registry registered nextTag)) earlier
    (opened_kept state registry registered nextTag) (allowed.earlier reached)

def reserveStep : TCCStep Nat where
  name := "reserve"
  tryCommand := ⟨"ReserveStock","shop.stock",7⟩
  confirmCommand := ⟨"ConfirmStock","shop.stock",7⟩
  cancelCommand := ⟨"ReleaseStock","shop.stock",7⟩
  reservationType := .resource
  timeout := none
  timed := by
    intro timed
    cases timed

def stockSaga : Saga Nat :=
  Saga.create (.initial 0 "StockSaga" "order-7") (some ⟨[]⟩) ⟨[reserveStep],List.nodup_singleton _⟩ 0

theorem records_kept_stock :
    (Transition.run step (opened stockSaga)
      [.handle "e1" "OrderPlaced" [.act 0 .beginTcc,.getTccStepPhase "reserve"],
        .call (.act 1 (.tcc (.confirmed "reserve")))]).Kept := by
  apply records_kept _ _ _ _ _ ?_ _ (List.prefix_refl _)
  refine ⟨fun _ _ => ⟨fun _ => rfl,fun _ => ⟨trivial,fun _ => trivial⟩⟩,?_,trivial⟩
  intro empty
  cases empty

/-- A query issued before `begin_tcc` caches the empty list, which then replaces the begun step; and a
confirmation of a saga without steps completes it. -/
theorem begun_step_lost :
    ¬(Transition.run step (opened stockSaga) [.call (.getTccStepPhase "reserve"),.call (.act 0 .beginTcc)]).Kept ∧
      (Transition.run step (opened stockSaga) [.call (.getTccStepPhase "reserve"),.call (.act 0 .beginTcc),
        .call (.act 1 (.tcc (.tried "reserve")))]).saga.state.tccSteps = [] ∧
      (Transition.run step (opened stockSaga) [.call (.act 0 (.tcc (.confirmed "reserve")))]).completions = [[]] := by
  refine ⟨fun kept => ?_,rfl,rfl⟩
  have same := kept.coherent [] rfl
  cases same

end TccHistory

end CqrsDdd.Sagas
