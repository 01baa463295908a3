import CqrsDdd.Sagas.Orchestration
import CqrsDdd.Transition

/-! The Try-Confirm/Cancel protocol on its own: step records, the log of
dispatched commands and the saga status, without the record cache and the queue
of the saga object. `apply_refines` relates every operation of the saga object
to a step of this machine, so that protocol invariants are proved here only. -/
namespace CqrsDdd.Sagas

structure TccView (Data : Type) where
  records : List (TCCStepRecord Data)
  log : List Origin
  status : SagaStatus

namespace TccView
variable {Data : Type}

def mark (view : TccView Data) (stepName : String) (phase : TCCPhase) (error : Option String) :
    TccView Data :=
  {view with records := view.records.map (Saga.phased stepName phase error)}

def confirms (registry : MessageRegistry Data) (record : TCCStepRecord Data) : Bool :=
  record.phase = .tried &&
    (registry.hydrateCommand record.confirmCommand.typeName record.confirmCommand.data).isSome

def cancels (registry : MessageRegistry Data) (record : TCCStepRecord Data) : Bool :=
  Saga.cancellable record.phase &&
    (registry.hydrateCommand record.cancelCommand.typeName record.cancelCommand.data).isSome

def advance (selected : TCCStepRecord Data → Bool) (phase : TCCPhase)
    (record : TCCStepRecord Data) : TCCStepRecord Data :=
  if selected record then {record with phase := phase} else record

def confirmAll (registry : MessageRegistry Data) (view : TccView Data) : TccView Data :=
  {view with
    records := view.records.map (advance (confirms registry) .confirming)
    log := view.log ++ (view.records.filter (confirms registry)).map fun record => Origin.tccConfirm record.name}

def cancelAll (registry : MessageRegistry Data) (view : TccView Data) : TccView Data where
  records := view.records.map (advance (cancels registry) .cancelling)
  log := view.log ++ ((view.records.filter (cancels registry)).map fun record => Origin.tccCancel record.name).reverse
  status := .compensating

def inPhase (view : TccView Data) (phase : TCCPhase) : Bool := view.records.all (·.phase = phase)

def settled (view : TccView Data) : Bool :=
  view.records.all fun record =>
    record.phase = .cancelled || record.phase = .failed || record.phase = .pending

def fail (registry : Option (MessageRegistry Data)) (view : TccView Data) (stepName reason : String) :
    TccView Data :=
  match registry with
  | none => view
  | some registry => (view.cancelAll registry).mark stepName .failed (some reason)

def expire (registry : Option (MessageRegistry Data)) (view : TccView Data) (names : List String) :
    TccView Data :=
  names.foldl (fun current name => fail registry current name (Saga.expiryReason name)) view

def expiredNames (view : TccView Data) (now : Int) : List String :=
  (view.records.filter (Saga.expired now)).map (·.name)

def tryDone (registry : Option (MessageRegistry Data)) (view : TccView Data) : TccView Data :=
  match registry with
  | none => view
  | some registry => if view.inPhase .tried then view.confirmAll registry else view

def apply (registry : Option (MessageRegistry Data)) (view : TccView Data) : TccOp → TccView Data
  | .tried stepName => tryDone registry (view.mark stepName .tried none)
  | .confirmed stepName =>
    let marked := view.mark stepName .confirmed none
    if marked.inPhase .confirmed then {marked with status := .completed} else marked
  | .failed stepName reason => fail registry view stepName reason
  | .cancelled stepName =>
    let marked := view.mark stepName .cancelled none
    if marked.settled then {marked with status := .compensated} else marked
  | .timeouts now => expire registry view (view.expiredNames now)
  | .reload => view

end TccView

namespace Saga
variable {Data : Type}

def view (saga : Saga Data) : TccView Data :=
  ⟨saga.state.tccSteps,saga.commandsToDispatch.map (·.origin),saga.state.status⟩

/-- The cache, once filled, holds the records of the state. `begin_tcc` does not
fill it, so a saga that had cached its records before would break this. -/
def Coherent (saga : Saga Data) : Prop :=
  ∀ records, saga.tccRecordsCache = some records → records = saga.state.tccSteps

def Shows (saga : Saga Data) (registry : Option (MessageRegistry Data)) (seen : TccView Data) : Prop :=
  saga.Coherent ∧ saga.messageRegistry = registry ∧ saga.view = seen

theorem load_records (saga : Saga Data) (coherent : saga.Coherent) :
    saga.loadTccRecords.1 = saga.state.tccSteps := by
  unfold loadTccRecords
  split
  next records cached => exact coherent records cached
  next => rfl

theorem load_shows (saga : Saga Data) {registry : Option (MessageRegistry Data)} {seen : TccView Data}
    (shows : saga.Shows registry seen) : saga.loadTccRecords.2.Shows registry seen := by
  obtain ⟨coherent,same,viewed⟩ := shows
  unfold loadTccRecords
  split
  next => exact ⟨coherent,same,viewed⟩
  next => exact ⟨fun records cached => (Option.some.inj cached).symm,same,viewed⟩

theorem save_shows (saga : Saga Data) (records : List (TCCStepRecord Data)) :
    (saga.saveTccRecords records).Shows saga.messageRegistry
      ⟨records,saga.commandsToDispatch.map (·.origin),saga.state.status⟩ :=
  ⟨fun _ cached => (Option.some.inj cached).symm,rfl,rfl⟩

theorem setTccPhase_shows (saga : Saga Data) {registry : Option (MessageRegistry Data)}
    {seen : TccView Data} (shows : saga.Shows registry seen) (stepName : String) (phase : TCCPhase)
    (error : Option String) :
    (saga.setTccPhase stepName phase error).Shows registry (seen.mark stepName phase error) := by
  obtain ⟨coherent,same,rfl⟩ := shows
  have loaded := load_shows saga ⟨coherent,same,rfl⟩
  have saved := save_shows saga.loadTccRecords.2
    (saga.loadTccRecords.1.map (phased stepName phase error))
  refine ⟨saved.1,loaded.2.1,saved.2.2.trans ?_⟩
  have viewed := loaded.2.2
  simp only [view,TccView.mk.injEq] at viewed
  simp only [TccView.mark,view,load_records saga coherent,viewed]

theorem allInPhase_shows (saga : Saga Data) {registry : Option (MessageRegistry Data)}
    {seen : TccView Data} (shows : saga.Shows registry seen) (phase : TCCPhase) :
    saga.allTccStepsInPhase phase = seen.inPhase phase := by
  obtain ⟨coherent,_,rfl⟩ := shows
  unfold allTccStepsInPhase TccView.inPhase
  rw [load_records saga coherent]
  rfl

theorem dispatch_frame (saga : Saga Data) (command : Command Data) (origin : Origin) :
    (saga.dispatch command origin).state = saga.state ∧
      (saga.dispatch command origin).messageRegistry = saga.messageRegistry ∧
      (saga.dispatch command origin).commandsToDispatch.map (·.origin) =
        saga.commandsToDispatch.map (·.origin) ++ [origin] := by
  simp [dispatch]

theorem confirmRecords_spec (registry : MessageRegistry Data) (records : List (TCCStepRecord Data))
    (saga : Saga Data) :
    (confirmRecords registry records saga).1 =
        records.map (TccView.advance (TccView.confirms registry) .confirming) ∧
      (confirmRecords registry records saga).2.state = saga.state ∧
      (confirmRecords registry records saga).2.messageRegistry = saga.messageRegistry ∧
      (confirmRecords registry records saga).2.commandsToDispatch.map (·.origin) =
        saga.commandsToDispatch.map (·.origin) ++
          (records.filter (TccView.confirms registry)).map (fun record => Origin.tccConfirm record.name) := by
  induction records generalizing saga with
  | nil => simp [confirmRecords]
  | cons record rest ih =>
    by_cases tried : record.phase = .tried
    · cases hydrated : registry.hydrateCommand record.confirmCommand.typeName record.confirmCommand.data with
      | none => simpa [confirmRecords,tried,hydrated,TccView.advance,TccView.confirms] using ih saga
      | some command =>
        have tail := ih (saga.dispatch command (.tccConfirm record.name))
        have frame := dispatch_frame saga command (.tccConfirm record.name)
        rw [frame.1,frame.2.1,frame.2.2] at tail
        simpa [confirmRecords,tried,hydrated,TccView.advance,TccView.confirms] using tail
    · simpa [confirmRecords,tried,TccView.advance,TccView.confirms] using ih saga

theorem cancelRecords_spec (registry : MessageRegistry Data) (records : List (TCCStepRecord Data))
    (saga : Saga Data) :
    (cancelRecords registry records saga).1 =
        records.map (TccView.advance (TccView.cancels registry) .cancelling) ∧
      (cancelRecords registry records saga).2.state = saga.state ∧
      (cancelRecords registry records saga).2.messageRegistry = saga.messageRegistry ∧
      (cancelRecords registry records saga).2.commandsToDispatch.map (·.origin) =
        saga.commandsToDispatch.map (·.origin) ++
          ((records.filter (TccView.cancels registry)).map (fun record => Origin.tccCancel record.name)).reverse := by
  induction records with
  | nil => simp [cancelRecords]
  | cons record rest ih =>
    by_cases open' : cancellable record.phase = true
    · cases hydrated : registry.hydrateCommand record.cancelCommand.typeName record.cancelCommand.data with
      | none => simpa [cancelRecords,open',hydrated,TccView.advance,TccView.cancels] using ih
      | some command =>
        have frame := dispatch_frame (cancelRecords registry rest saga).2 command (.tccCancel record.name)
        refine ⟨?_,?_,?_,?_⟩
        · simpa [cancelRecords,open',hydrated,TccView.advance,TccView.cancels] using ih.1
        · simpa [cancelRecords,open',hydrated,frame.1] using ih.2.1
        · simpa [cancelRecords,open',hydrated,frame.2.1] using ih.2.2.1
        · simp [cancelRecords,open',hydrated,frame.2.2,ih.2.2.2,TccView.cancels]
    · simpa [cancelRecords,open',TccView.advance,TccView.cancels] using ih

theorem dispatchConfirms_shows (saga : Saga Data) {registry : MessageRegistry Data}
    {seen : TccView Data} (shows : saga.Shows (some registry) seen) :
    saga.dispatchConfirms.1.Shows (some registry) (seen.confirmAll registry) := by
  obtain ⟨coherent,same,rfl⟩ := shows
  have loaded := load_shows saga ⟨coherent,same,rfl⟩
  have spec := confirmRecords_spec registry saga.loadTccRecords.1 saga.loadTccRecords.2
  have viewed := loaded.2.2
  simp only [view,TccView.mk.injEq] at viewed
  simp only [dispatchConfirms,same]
  generalize confirmRecords registry saga.loadTccRecords.1 saga.loadTccRecords.2 = confirmed at spec ⊢
  refine ⟨fun _ cached => (Option.some.inj cached).symm,spec.2.2.1.trans loaded.2.1,?_⟩
  rw [load_records saga coherent] at spec
  simp only [view,setCurrentStep,saveTccRecords,TccView.confirmAll,spec,viewed]

theorem dispatchCancels_shows (saga : Saga Data) {registry : MessageRegistry Data}
    {seen : TccView Data} (shows : saga.Shows (some registry) seen) (reason : String) :
    (saga.dispatchCancels reason).2 = none ∧
      (saga.dispatchCancels reason).1.Shows (some registry) (seen.cancelAll registry) := by
  obtain ⟨coherent,same,rfl⟩ := shows
  have loaded := load_shows saga ⟨coherent,same,rfl⟩
  have spec := cancelRecords_spec registry saga.loadTccRecords.1 saga.loadTccRecords.2
  have viewed := loaded.2.2
  simp only [view,TccView.mk.injEq] at viewed
  simp only [dispatchCancels,same,true_and]
  generalize cancelRecords registry saga.loadTccRecords.1 saga.loadTccRecords.2 = cancelled at spec ⊢
  refine ⟨fun _ cached => (Option.some.inj cached).symm,spec.2.2.1.trans loaded.2.1,?_⟩
  rw [load_records saga coherent] at spec
  simp only [view,setCurrentStep,setStatus,setError,saveTccRecords,TccView.cancelAll,spec,viewed]

theorem markStepFailed_shows (saga : Saga Data) {registry : Option (MessageRegistry Data)}
    {seen : TccView Data} (shows : saga.Shows registry seen) (stepName reason : String) :
    (saga.markStepFailed stepName reason).1.Shows registry (seen.fail registry stepName reason) ∧
      (registry ≠ none → (saga.markStepFailed stepName reason).2 = none) := by
  cases registry with
  | none =>
    have raised : saga.dispatchCancels reason = (saga,some registryRequired) := by
      simp [dispatchCancels,shows.2.1]
    simpa [markStepFailed,raised,TccView.fail] using shows
  | some registry =>
    obtain ⟨returned,cancelled⟩ := dispatchCancels_shows saga shows reason
    have split : saga.dispatchCancels reason = ((saga.dispatchCancels reason).1,none) := by
      rw [← returned]
    rw [markStepFailed,split]
    exact ⟨setTccPhase_shows _ cancelled stepName .failed (some reason),fun _ => rfl⟩

theorem expire_unregistered (seen : TccView Data) (names : List String) :
    seen.expire none names = seen := by
  induction names with
  | nil => rfl
  | cons name rest ih => exact ih

theorem failExpired_shows (names : List String) (saga : Saga Data)
    {registry : Option (MessageRegistry Data)} {seen : TccView Data} (shows : saga.Shows registry seen) :
    (failExpired names saga).1.Shows registry (seen.expire registry names) := by
  induction names generalizing saga seen with
  | nil => exact shows
  | cons name rest ih =>
    obtain ⟨failed,returns⟩ := markStepFailed_shows saga shows name (expiryReason name)
    cases outcome : saga.markStepFailed name (expiryReason name) with
    | mk next error =>
      rw [outcome] at failed returns
      cases error with
      | none =>
        simp only [failExpired,outcome]
        exact ih next failed
      | some error =>
        -- Only a missing registry raises, and then no later name changes anything.
        have missing : registry = none := by
          by_contra present
          exact absurd (returns present) (by simp)
        subst missing
        simp only [failExpired,outcome,expire_unregistered]
        exact failed

/-- Every TCC operation of the saga object is the machine's step on its view,
whether it returns or raises. -/
theorem apply_refines (saga : Saga Data) {registry : Option (MessageRegistry Data)}
    {seen : TccView Data} (shows : saga.Shows registry seen) (op : TccOp) :
    (saga.applyTcc op).1.Shows registry (seen.apply registry op) := by
  cases op with
  | tried stepName =>
    have marked := setTccPhase_shows saga shows stepName .tried none
    simp only [applyTcc,markStepTried,TccView.apply,TccView.tryDone,allInPhase_shows _ marked]
    cases registry with
    | none =>
      split
      · simpa [dispatchConfirms,marked.2.1] using marked
      · exact marked
    | some registry =>
      dsimp only
      split
      · exact dispatchConfirms_shows _ marked
      · exact marked
  | confirmed stepName =>
    have marked := setTccPhase_shows saga shows stepName .confirmed none
    simp only [applyTcc,markStepConfirmed,TccView.apply,allInPhase_shows _ marked]
    split
    · exact ⟨marked.1,marked.2.1,by rw [← marked.2.2]; rfl⟩
    · exact marked
  | failed stepName reason => exact (markStepFailed_shows saga shows stepName reason).1
  | cancelled stepName =>
    have marked := setTccPhase_shows saga shows stepName .cancelled none
    have records : (saga.setTccPhase stepName .cancelled none).loadTccRecords.1 =
        (seen.mark stepName .cancelled none).records := by
      rw [load_records _ marked.1,← marked.2.2]
      rfl
    simp only [applyTcc,markStepCancelled,TccView.apply,records]
    change (if (seen.mark stepName .cancelled none).settled = true then _ else _ : Result Data).1.Shows _ _
    split
    · exact ⟨marked.1,marked.2.1,by rw [← marked.2.2]; rfl⟩
    · exact marked
  | timeouts now =>
    have loaded := load_shows saga shows
    have names : (saga.loadTccRecords.1.filter (expired now)).map (·.name) = seen.expiredNames now := by
      rw [load_records _ shows.1,← shows.2.2]
      rfl
    simp only [applyTcc,checkTccTimeouts,TccView.apply,names]
    exact failExpired_shows _ _ loaded
  | reload => exact ⟨fun _ cached => absurd cached (by simp [applyTcc]),shows.2⟩

def tccStep (saga : Saga Data) (op : TccOp) : Saga Data := (saga.applyTcc op).1

theorem run_refines (saga : Saga Data) {registry : Option (MessageRegistry Data)}
    {seen : TccView Data} (shows : saga.Shows registry seen) (ops : List TccOp) :
    (Transition.run tccStep saga ops).Shows registry
      (Transition.run (fun current op => current.apply registry op) seen ops) := by
  induction ops generalizing saga seen with
  | nil => exact shows
  | cons op rest ih => exact ih _ (apply_refines saga shows op)

theorem tryAll_frame (steps : List (TCCStep Data)) (saga : Saga Data) :
    (steps.foldl (fun current step => current.dispatch step.tryCommand (.tccTry step.name)) saga).tccRecordsCache =
        saga.tccRecordsCache ∧
      (steps.foldl (fun current step => current.dispatch step.tryCommand (.tccTry step.name)) saga).messageRegistry =
        saga.messageRegistry ∧
      (steps.foldl (fun current step => current.dispatch step.tryCommand (.tccTry step.name)) saga).commandsToDispatch.map
        (·.origin) = saga.commandsToDispatch.map (·.origin) ++ steps.map (fun step => Origin.tccTry step.name) := by
  induction steps generalizing saga with
  | nil => simp
  | cons step rest ih =>
    have tail := ih (saga.dispatch step.tryCommand (.tccTry step.name))
    simpa [dispatch] using tail

def begun (steps : TCCSteps Data) (now : Int) : TccView Data :=
  ⟨steps.steps.map (recordOf now),steps.steps.map (fun step => .tccTry step.name),.running⟩

theorem beginTcc_shows (state : SagaState Data) (registry : Option (MessageRegistry Data))
    (steps : TCCSteps Data) (tag : Nat) (now : Int) (started : Saga Data)
    (began : (create state registry steps tag).beginTcc now = (started,none)) :
    started.Shows registry (begun steps now) := by
  unfold beginTcc at began
  split at began
  · simp at began
  · split at began
    · simp at began
    · obtain ⟨rfl,_⟩ := Prod.mk.inj began
      have frame := tryAll_frame steps.steps (create state registry steps tag)
      refine ⟨fun records cached => ?_,frame.2.1,?_⟩
      · exact absurd (frame.1.symm.trans cached) (by simp [create])
      · simpa [view,begun,create] using frame.2.2

end Saga

end CqrsDdd.Sagas
