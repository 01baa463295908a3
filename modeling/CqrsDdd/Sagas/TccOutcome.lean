import CqrsDdd.Sagas.TccSafety

/-! Outcome of a TCC saga whose replies are answers: each arrives while its step
is in the phase that precedes it. Such a run stays in one of four stages, and the
two final ones exclude each other. -/
namespace CqrsDdd.Sagas

/-- The reply finds its step in the phase it answers. Sweeps may come at any time,
since `check_tcc_timeouts` selects the expired steps itself. -/
def Due {Data : Type} (records : List (TCCStepRecord Data)) : TccOp → Prop
  | .tried stepName => ∃ record ∈ records, record.name = stepName ∧ record.phase = .trying
  | .confirmed stepName => ∃ record ∈ records, record.name = stepName ∧ record.phase = .confirming
  | .failed stepName _ => ∃ record ∈ records, record.name = stepName ∧ Saga.cancellable record.phase = true
  | .cancelled stepName => ∃ record ∈ records, record.name = stepName ∧
      (record.phase = .cancelling ∨ record.phase = .failed)
  | .timeouts _ => True
  | .reload => True

def Hydrates {Data : Type} (registry : MessageRegistry Data) (command : Command Data) : Prop :=
  (registry.hydrateCommand command.typeName command.data).isSome = true

namespace TccView
variable {Data : Type}

def closed (phase : TCCPhase) : Bool :=
  phase = .cancelling || phase = .cancelled || phase = .failed

def Voided (log : List Origin) (record : TCCStepRecord Data) : Prop :=
  closed record.phase = true ∧ .tccCancel record.name ∈ log

structure TryingStage (view : TccView Data) : Prop where
  status : view.status = .running
  phases : ∀ record ∈ view.records, record.phase = .trying ∨ record.phase = .tried
  noCancel : ∀ name, .tccCancel name ∉ view.log

structure ConfirmingStage (view : TccView Data) : Prop where
  status : view.status = .running
  phases : ∀ record ∈ view.records, record.phase = .confirming ∨ record.phase = .confirmed
  noCancel : ∀ name, .tccCancel name ∉ view.log

structure CompletedStage (view : TccView Data) : Prop where
  status : view.status = .completed
  phases : ∀ record ∈ view.records, record.phase = .confirmed
  noCancel : ∀ name, .tccCancel name ∉ view.log

/-- A step confirmed before the failure keeps its phase, and then the saga never
reaches `COMPENSATED`. -/
structure CancellingStage (view : TccView Data) : Prop where
  status : view.status = .compensating ∨ view.status = .compensated
  phases : ∀ record ∈ view.records, Voided view.log record ∨ record.phase = .confirmed
  settled : view.status = .compensated → ∀ record ∈ view.records, closed record.phase = true

inductive Stage (view : TccView Data) : Prop
  | trying (stage : TryingStage view)
  | confirming (stage : ConfirmingStage view)
  | completed (stage : CompletedStage view)
  | cancelling (stage : CancellingStage view)

structure OutcomeInv (registry : MessageRegistry Data) (names : List String) (past : List TccOp)
    (view : TccView Data) : Prop where
  safety : SafetyInv names past view
  hydrates : ∀ record ∈ view.records, Hydrates registry record.confirmCommand ∧ Hydrates registry record.cancelCommand
  acknowledged : ∀ record ∈ view.records, record.phase = .confirmed → TccOp.confirmed record.name ∈ past
  stage : Stage view

theorem due_timely {names : List String} {past : List TccOp} {view : TccView Data}
    (inv : SafetyInv names past view) (op : TccOp) (due : Due view.records op) : Timely view.records op := by
  cases op with
  | tried stepName =>
    obtain ⟨expected,inside,rfl,trying⟩ := due
    intro record member same
    rw [inv.sameRecord member inside same]
    exact .inl trying
  | _ => trivial

theorem phased_commands (stepName : String) (phase : TCCPhase) (error : Option String)
    (record : TCCStepRecord Data) :
    (Saga.phased stepName phase error record).confirmCommand = record.confirmCommand ∧
      (Saga.phased stepName phase error record).cancelCommand = record.cancelCommand := by
  unfold Saga.phased
  split <;> exact ⟨rfl,rfl⟩

theorem advance_commands (selected : TCCStepRecord Data → Bool) (phase : TCCPhase)
    (record : TCCStepRecord Data) : (advance selected phase record).confirmCommand = record.confirmCommand ∧
      (advance selected phase record).cancelCommand = record.cancelCommand := by
  unfold advance
  split <;> exact ⟨rfl,rfl⟩

def Keeps (before after : TccView Data) : Prop :=
  ∀ record ∈ after.records, ∃ old ∈ before.records, record.name = old.name ∧
    record.confirmCommand = old.confirmCommand ∧ record.cancelCommand = old.cancelCommand

theorem Keeps.refl (view : TccView Data) : Keeps view view :=
  fun record member => ⟨record,member,rfl,rfl,rfl⟩

theorem Keeps.trans {first second third : TccView Data} (left : Keeps first second)
    (right : Keeps second third) : Keeps first third := by
  intro record member
  obtain ⟨middle,inside,name,confirm,cancel⟩ := right record member
  obtain ⟨old,present,name',confirm',cancel'⟩ := left middle inside
  exact ⟨old,present,name.trans name',confirm.trans confirm',cancel.trans cancel'⟩

theorem mark_keeps (view : TccView Data) (stepName : String) (phase : TCCPhase) (error : Option String) :
    Keeps view (view.mark stepName phase error) := by
  intro record member
  obtain ⟨old,inside,rfl⟩ := List.mem_map.mp member
  exact ⟨old,inside,phased_name _ _ _ _,phased_commands _ _ _ _⟩

theorem cancelAll_keeps (registry : MessageRegistry Data) (view : TccView Data) :
    Keeps view (view.cancelAll registry) := by
  intro record member
  obtain ⟨old,inside,rfl⟩ := List.mem_map.mp member
  exact ⟨old,inside,advance_name _ _ _,advance_commands _ _ _⟩

theorem confirmAll_keeps (registry : MessageRegistry Data) (view : TccView Data) :
    Keeps view (view.confirmAll registry) := by
  intro record member
  obtain ⟨old,inside,rfl⟩ := List.mem_map.mp member
  exact ⟨old,inside,advance_name _ _ _,advance_commands _ _ _⟩

theorem fail_keeps (registry : MessageRegistry Data) (view : TccView Data) (stepName reason : String) :
    Keeps view (view.fail (some registry) stepName reason) :=
  (cancelAll_keeps registry view).trans (mark_keeps _ _ _ _)

theorem expire_keeps (registry : MessageRegistry Data) (names : List String) (view : TccView Data) :
    Keeps view (view.expire (some registry) names) := by
  induction names generalizing view with
  | nil => exact .refl view
  | cons name rest ih => exact (fail_keeps registry view name _).trans (ih _)

theorem apply_keeps (registry : MessageRegistry Data) (view : TccView Data) (op : TccOp) :
    Keeps view (view.apply (some registry) op) := by
  cases op with
  | tried stepName =>
    simp only [apply,tryDone]
    split
    · exact (mark_keeps _ _ _ _).trans (confirmAll_keeps registry _)
    · exact mark_keeps _ _ _ _
  | confirmed stepName =>
    simp only [apply]
    split <;> exact mark_keeps view stepName .confirmed none
  | failed stepName reason => exact fail_keeps registry view stepName reason
  | cancelled stepName =>
    simp only [apply]
    split <;> exact mark_keeps view stepName .cancelled none
  | timeouts now => exact expire_keeps registry _ view
  | reload => exact .refl view

theorem fail_voids (registry : MessageRegistry Data) (view : TccView Data) (stepName reason : String)
    (hydrates : ∀ record ∈ view.records, Hydrates registry record.cancelCommand)
    (phases : ∀ record ∈ view.records, Saga.cancellable record.phase = true ∨ Voided view.log record ∨
      (record.phase = .confirmed ∧ record.name ≠ stepName)) :
    (view.fail (some registry) stepName reason).status = .compensating ∧
      ∀ record ∈ (view.fail (some registry) stepName reason).records,
        Voided (view.fail (some registry) stepName reason).log record ∨
          (record.phase = .confirmed ∧ ∃ old ∈ view.records, old.phase = .confirmed ∧ old.name = record.name) := by
  -- What one failure does: every open step is voided, the failing one is `FAILED` and only the
  -- confirmed steps are left as they were.
  refine ⟨rfl,?_⟩
  intro record member
  obtain ⟨moved,inside,rfl⟩ := List.mem_map.mp member
  obtain ⟨old,present,rfl⟩ := List.mem_map.mp inside
  simp only [Voided,phased_name,advance_name,phased_phase]
  have logged : Saga.cancellable old.phase = true → Origin.tccCancel old.name ∈ (view.cancelAll registry).log := by
    intro opened
    have chosen : cancels registry old = true := by
      simp only [cancels,opened,Bool.true_and]
      exact hydrates old present
    exact List.mem_append_right _ (List.mem_reverse.mpr
      (List.mem_map.mpr ⟨old,List.mem_filter.mpr ⟨present,chosen⟩,rfl⟩))
  rcases phases old present with opened | voided | ⟨confirmed,other⟩
  · have chosen : cancels registry old = true := by
      simp only [cancels,opened,Bool.true_and]
      exact hydrates old present
    refine .inl ⟨?_,logged opened⟩
    split <;> simp [advance,chosen,closed]
  · have skipped : cancels registry old = false := by
      rcases voided with ⟨shut,_⟩
      cases phase : old.phase <;> simp_all [cancels,closed,Saga.cancellable]
    refine .inl ⟨?_,List.mem_append_left _ voided.2⟩
    split
    · rfl
    · simpa [advance,skipped] using voided.1
  · have skipped : cancels registry old = false := by simp [cancels,Saga.cancellable,confirmed]
    refine .inr ⟨?_,old,present,confirmed,rfl⟩
    rw [if_neg other]
    simpa [advance,skipped] using confirmed

theorem expire_voids (registry : MessageRegistry Data) (names : List String) (view : TccView Data)
    (hydrates : ∀ record ∈ view.records, Hydrates registry record.cancelCommand)
    (phases : ∀ record ∈ view.records, Saga.cancellable record.phase = true ∨ Voided view.log record)
    (some_name : names ≠ []) :
    (view.expire (some registry) names).status = .compensating ∧
      ∀ record ∈ (view.expire (some registry) names).records,
        Voided (view.expire (some registry) names).log record := by
  -- A sweep from the trying stage: the first expired step voids everything, the others only turn
  -- `CANCELLING` into `FAILED`.
  induction names generalizing view with
  | nil => exact absurd rfl some_name
  | cons name rest ih =>
    have voided := fail_voids registry view name (Saga.expiryReason name) hydrates
      (fun record member => (phases record member).imp_right .inl)
    have all : ∀ record ∈ (view.fail (some registry) name (Saga.expiryReason name)).records,
        Voided (view.fail (some registry) name (Saga.expiryReason name)).log record := by
      intro record member
      rcases voided.2 record member with done | ⟨_,old,inside,confirmed,_⟩
      · exact done
      · rcases phases old inside with opened | shut
        · simp [Saga.cancellable,confirmed] at opened
        · simp [Voided,closed,confirmed] at shut
    cases rest with
    | nil => exact ⟨voided.1,all⟩
    | cons next rest =>
      refine ih _ ?_ (fun record member => .inr (all record member)) (by simp)
      intro record member
      obtain ⟨old,inside,_,_,cancel⟩ := fail_keeps registry view name _ record member
      rw [cancel]
      exact hydrates old inside

theorem mark_phase {view : TccView Data} (stepName : String) (phase : TCCPhase) (error : Option String)
    (record : TCCStepRecord Data) (member : record ∈ (view.mark stepName phase error).records) :
    (record.name = stepName ∧ record.phase = phase) ∨
      ∃ old ∈ view.records, old.name = record.name ∧ record.phase = old.phase := by
  obtain ⟨old,inside,rfl⟩ := List.mem_map.mp member
  rw [phased_name,phased_phase]
  by_cases hit : old.name = stepName
  · exact .inl ⟨hit,if_pos hit⟩
  · exact .inr ⟨old,inside,rfl,if_neg hit⟩

theorem mark_confirmed {view : TccView Data} (stepName : String) (phase : TCCPhase)
    (error : Option String) (record : TCCStepRecord Data)
    (member : record ∈ (view.mark stepName phase error).records) (confirmed : record.phase = .confirmed) :
    (∃ old ∈ view.records, old.name = record.name ∧ old.phase = .confirmed) ∨
      (phase = .confirmed ∧ record.name = stepName) := by
  rcases mark_phase stepName phase error record member with ⟨named,marked⟩ | ⟨old,inside,named,kept⟩
  · exact .inr ⟨marked.symm.trans confirmed,named⟩
  · exact .inl ⟨old,inside,named,kept.symm.trans confirmed⟩

theorem advance_confirmed {records : List (TCCStepRecord Data)} (selected : TCCStepRecord Data → Bool)
    (phase : TCCPhase) (other : phase ≠ .confirmed) (record : TCCStepRecord Data)
    (member : record ∈ records.map (advance selected phase)) (confirmed : record.phase = .confirmed) :
    ∃ old ∈ records, old.name = record.name ∧ old.phase = .confirmed := by
  obtain ⟨old,inside,rfl⟩ := List.mem_map.mp member
  refine ⟨old,inside,(advance_name _ _ _).symm,?_⟩
  have differs : (advance selected phase old).phase ≠ phase := fun same => other (same.symm.trans confirmed)
  rwa [(advance_skipped differs).2] at confirmed

theorem fail_confirmed (registry : MessageRegistry Data) (view : TccView Data) (stepName reason : String)
    (record : TCCStepRecord Data) (member : record ∈ (view.fail (some registry) stepName reason).records)
    (confirmed : record.phase = .confirmed) :
    ∃ old ∈ view.records, old.name = record.name ∧ old.phase = .confirmed := by
  rcases mark_confirmed stepName .failed _ record member confirmed with ⟨middle,inside,named,kept⟩ | ⟨absurdity,_⟩
  · obtain ⟨old,present,named',kept'⟩ := advance_confirmed _ .cancelling (by simp) middle inside kept
    exact ⟨old,present,named'.trans named,kept'⟩
  · exact absurd absurdity (by simp)

theorem expire_confirmed (registry : MessageRegistry Data) (names : List String) (view : TccView Data)
    (record : TCCStepRecord Data) (member : record ∈ (view.expire (some registry) names).records)
    (confirmed : record.phase = .confirmed) :
    ∃ old ∈ view.records, old.name = record.name ∧ old.phase = .confirmed := by
  induction names generalizing view with
  | nil => exact ⟨record,member,rfl,confirmed⟩
  | cons name rest ih =>
    obtain ⟨middle,inside,named,kept⟩ := ih _ member
    obtain ⟨old,present,named',kept'⟩ := fail_confirmed registry view name _ middle inside kept
    exact ⟨old,present,named'.trans named,kept'⟩

theorem apply_confirmed (registry : MessageRegistry Data) (view : TccView Data) (op : TccOp)
    (record : TCCStepRecord Data) (member : record ∈ (view.apply (some registry) op).records)
    (confirmed : record.phase = .confirmed) :
    (∃ old ∈ view.records, old.name = record.name ∧ old.phase = .confirmed) ∨ op = .confirmed record.name := by
  cases op with
  | tried stepName =>
    have marks (record : TCCStepRecord Data) (member : record ∈ (view.mark stepName .tried none).records)
        (confirmed : record.phase = .confirmed) :
        ∃ old ∈ view.records, old.name = record.name ∧ old.phase = .confirmed :=
      (mark_confirmed stepName .tried none record member confirmed).resolve_right (by simp)
    simp only [apply,tryDone] at member
    split at member
    · obtain ⟨middle,inside,named,kept⟩ := advance_confirmed _ .confirming (by simp) record member confirmed
      obtain ⟨old,present,named',kept'⟩ := marks middle inside kept
      exact .inl ⟨old,present,named'.trans named,kept'⟩
    · exact .inl (marks record member confirmed)
  | confirmed stepName =>
    have inside : record ∈ (view.mark stepName .confirmed none).records := by
      simp only [apply] at member
      split at member <;> exact member
    rcases mark_confirmed stepName .confirmed none record inside confirmed with old | ⟨_,named⟩
    · exact .inl old
    · exact .inr (by rw [named])
  | failed stepName reason => exact .inl (fail_confirmed registry view stepName reason record member confirmed)
  | cancelled stepName =>
    have inside : record ∈ (view.mark stepName .cancelled none).records := by
      simp only [apply] at member
      split at member <;> exact member
    exact .inl ((mark_confirmed stepName .cancelled none record inside confirmed).resolve_right (by simp))
  | timeouts now => exact .inl (expire_confirmed registry _ view record member confirmed)
  | reload => exact .inl ⟨record,member,rfl,confirmed⟩

theorem expiredNames_nil (view : TccView Data) (now : Int)
    (phases : ∀ record ∈ view.records, record.phase ≠ .trying ∧ record.phase ≠ .tried) :
    view.expiredNames now = [] := by
  have none_expired : view.records.filter (Saga.expired now) = [] := by
    rw [List.filter_eq_nil_iff]
    intro record member
    simp [Saga.expired,phases record member]
  simp [expiredNames,none_expired]

theorem CancellingStage.ofVoided {view : TccView Data} (status : view.status = .compensating)
    (phases : ∀ record ∈ view.records, Voided view.log record ∨ record.phase = .confirmed) :
    CancellingStage view :=
  ⟨.inl status,phases,fun done => by rw [status] at done; cases done⟩

theorem trying_stage {registry : MessageRegistry Data} {names : List String} {past : List TccOp}
    {view : TccView Data} (inv : OutcomeInv registry names past view) (stage : TryingStage view)
    (op : TccOp) (due : Due view.records op) : Stage (view.apply (some registry) op) := by
  have opened (record : TCCStepRecord Data) (member : record ∈ view.records) :
      Saga.cancellable record.phase = true := by
    rcases stage.phases record member with phase | phase <;> simp [Saga.cancellable,phase]
  cases op with
  | tried stepName =>
    have phases : ∀ record ∈ (view.mark stepName .tried none).records,
        record.phase = .trying ∨ record.phase = .tried := by
      intro record member
      rcases mark_phase stepName .tried none record member with ⟨_,marked⟩ | ⟨old,inside,_,kept⟩
      · exact .inr marked
      · rw [kept]
        exact stage.phases old inside
    simp only [apply,tryDone]
    split
    next all =>
      have tried : ∀ record ∈ (view.mark stepName .tried none).records, record.phase = .tried := by
        simpa [inPhase] using all
      refine .confirming ⟨stage.status,?_,?_⟩
      · intro record member
        obtain ⟨marked,inside,rfl⟩ := List.mem_map.mp member
        obtain ⟨old,present,_,confirm,_⟩ := mark_keeps view stepName .tried none marked inside
        have chosen : confirms registry marked = true := by
          simp only [confirms,tried marked inside,confirm,decide_true,Bool.true_and]
          exact (inv.hydrates old present).1
        simp [advance,chosen]
      · intro name logged
        rcases List.mem_append.mp logged with before | now
        · exact stage.noCancel name before
        · obtain ⟨_,_,same⟩ := List.mem_map.mp now
          cases same
    next => exact .trying ⟨stage.status,phases,stage.noCancel⟩
  | confirmed stepName =>
    obtain ⟨record,inside,_,phase⟩ := due
    rcases stage.phases record inside with other | other <;> simp [other] at phase
  | failed stepName reason =>
    have voided := fail_voids registry view stepName reason (fun record member => (inv.hydrates record member).2)
      (fun record member => .inl (opened record member))
    exact .cancelling (.ofVoided voided.1 fun record member => (voided.2 record member).imp_right And.left)
  | cancelled stepName =>
    obtain ⟨record,inside,_,phase⟩ := due
    rcases stage.phases record inside with other | other <;> simp [other] at phase
  | timeouts now =>
    simp only [apply]
    by_cases idle : view.expiredNames now = []
    · rw [idle]
      exact .trying stage
    · have voided := expire_voids registry _ view (fun record member => (inv.hydrates record member).2)
        (fun record member => .inl (opened record member)) idle
      exact .cancelling (.ofVoided voided.1 fun record member => .inl (voided.2 record member))
  | reload => exact .trying stage

theorem confirming_stage {registry : MessageRegistry Data} {names : List String} {past : List TccOp}
    {view : TccView Data} (inv : OutcomeInv registry names past view) (stage : ConfirmingStage view)
    (op : TccOp) (due : Due view.records op) : Stage (view.apply (some registry) op) := by
  cases op with
  | tried stepName =>
    obtain ⟨record,inside,_,phase⟩ := due
    rcases stage.phases record inside with other | other <;> simp [other] at phase
  | confirmed stepName =>
    simp only [apply]
    split
    next all => exact .completed ⟨rfl,by simpa [inPhase] using all,stage.noCancel⟩
    next =>
      refine .confirming ⟨stage.status,?_,stage.noCancel⟩
      intro record member
      rcases mark_phase stepName .confirmed none record member with ⟨_,marked⟩ | ⟨old,inside,_,kept⟩
      · exact .inr marked
      · rw [kept]
        exact stage.phases old inside
  | failed stepName reason =>
    obtain ⟨failing,inside,rfl,opened⟩ := due
    have voided := fail_voids registry view failing.name reason
      (fun record member => (inv.hydrates record member).2) (by
        intro record member
        rcases stage.phases record member with phase | phase
        · exact .inl (by simp [Saga.cancellable,phase])
        · refine .inr (.inr ⟨phase,fun same => ?_⟩)
          rw [← inv.safety.sameRecord member inside same] at opened
          simp [Saga.cancellable,phase] at opened)
    exact .cancelling (.ofVoided voided.1 fun record member => (voided.2 record member).imp_right And.left)
  | cancelled stepName =>
    obtain ⟨record,inside,_,phase⟩ := due
    rcases stage.phases record inside with other | other <;> simp [other] at phase
  | timeouts now =>
    have idle := expiredNames_nil view now (by
      intro record member
      rcases stage.phases record member with phase | phase <;> simp [phase])
    simp only [apply,idle]
    exact .confirming stage
  | reload => exact .confirming stage

theorem completed_stage (registry : MessageRegistry Data) {view : TccView Data}
    (stage : CompletedStage view) (op : TccOp) (due : Due view.records op) :
    CompletedStage (view.apply (some registry) op) := by
  cases op with
  | timeouts now =>
    have idle := expiredNames_nil view now (by
      intro record member
      simp [stage.phases record member])
    simp only [apply,idle]
    exact stage
  | reload => exact stage
  | _ =>
    obtain ⟨record,inside,_,phase⟩ := due
    simp [stage.phases record inside,Saga.cancellable] at phase

theorem cancelling_stage (registry : MessageRegistry Data) {view : TccView Data}
    (stage : CancellingStage view) (op : TccOp) (due : Due view.records op) :
    CancellingStage (view.apply (some registry) op) := by
  have shut (record : TCCStepRecord Data) (member : record ∈ view.records) :
      record.phase ≠ .trying ∧ record.phase ≠ .tried ∧ record.phase ≠ .confirming := by
    rcases stage.phases record member with ⟨voided,_⟩ | phase
    · refine ⟨?_,?_,?_⟩ <;> intro phase <;> simp [closed,phase] at voided
    · simp [phase]
  cases op with
  | tried stepName =>
    obtain ⟨record,inside,_,phase⟩ := due
    exact absurd phase (shut record inside).1
  | confirmed stepName =>
    obtain ⟨record,inside,_,phase⟩ := due
    exact absurd phase (shut record inside).2.2
  | failed stepName reason =>
    obtain ⟨record,inside,_,phase⟩ := due
    simp [Saga.cancellable,shut record inside] at phase
  | cancelled stepName =>
    obtain ⟨answered,inside,rfl,phase⟩ := due
    have logged : .tccCancel answered.name ∈ view.log := by
      rcases stage.phases answered inside with ⟨_,logged⟩ | confirmed
      · exact logged
      · simp [confirmed] at phase
    have phases : ∀ record ∈ (view.mark answered.name .cancelled none).records,
        Voided view.log record ∨ record.phase = .confirmed := by
      intro record member
      rcases mark_phase answered.name .cancelled none record member with ⟨named,marked⟩ | ⟨old,present,named,kept⟩
      · exact .inl ⟨by simp [closed,marked],by rw [named]; exact logged⟩
      · rcases stage.phases old present with ⟨voided,cancelled⟩ | confirmed
        · exact .inl ⟨by rw [kept]; exact voided,by rw [← named]; exact cancelled⟩
        · exact .inr (kept.trans confirmed)
    simp only [apply]
    split
    next all =>
      refine ⟨.inr rfl,phases,fun _ record member => ?_⟩
      have final := List.all_eq_true.mp all record member
      rcases phases record member with ⟨voided,_⟩ | confirmed
      · exact voided
      · simp [confirmed] at final
    next open' =>
      refine ⟨stage.status,phases,fun done => ?_⟩
      intro record member
      rcases mark_phase answered.name .cancelled none record member with ⟨_,marked⟩ | ⟨old,present,_,kept⟩
      · simp [closed,marked]
      · rw [kept]
        exact stage.settled done old present
  | timeouts now =>
    have idle := expiredNames_nil view now (fun record member => ⟨(shut record member).1,(shut record member).2.1⟩)
    simp only [apply,idle]
    exact stage
  | reload => exact stage

theorem apply_outcome {registry : MessageRegistry Data} {names : List String} (past : List TccOp)
    (view : TccView Data) (op : TccOp) (inv : OutcomeInv registry names past view)
    (due : Due view.records op) : OutcomeInv registry names (past ++ [op]) (view.apply (some registry) op) := by
  refine ⟨apply_safety (some registry) past view op inv.safety (due_timely inv.safety op due),?_,?_,?_⟩
  · intro record member
    obtain ⟨old,inside,_,confirm,cancel⟩ := apply_keeps registry view op record member
    rw [confirm,cancel]
    exact inv.hydrates old inside
  · intro record member confirmed
    rcases apply_confirmed registry view op record member confirmed with ⟨old,inside,named,kept⟩ | rfl
    · rw [← named]
      exact List.mem_append_left _ (inv.acknowledged old inside kept)
    · simp
  · cases inv.stage with
    | trying stage => exact trying_stage inv stage op due
    | confirming stage => exact confirming_stage inv stage op due
    | completed stage => exact .completed (completed_stage registry stage op due)
    | cancelling stage => exact .cancelling (cancelling_stage registry stage op due)

theorem fail_closes (registry : MessageRegistry Data) (view : TccView Data) (stepName reason : String)
    (hydrates : ∀ record ∈ view.records, Hydrates registry record.cancelCommand) :
    ∀ record ∈ (view.fail (some registry) stepName reason).records, Saga.cancellable record.phase = false := by
  intro record member
  obtain ⟨moved,inside,rfl⟩ := List.mem_map.mp member
  obtain ⟨old,present,rfl⟩ := List.mem_map.mp inside
  rw [phased_phase]
  split
  · rfl
  · cases opened : Saga.cancellable old.phase with
    | false => simp [advance,cancels,opened]
    | true =>
      have chosen : cancels registry old = true := by
        simp only [cancels,opened,Bool.true_and]
        exact hydrates old present
      simp [advance,chosen,Saga.cancellable]

theorem expire_idle (registry : MessageRegistry Data) (names : List String) (view : TccView Data)
    (shut : ∀ record ∈ view.records, Saga.cancellable record.phase = false) :
    (view.expire (some registry) names).log = view.log := by
  induction names generalizing view with
  | nil => rfl
  | cons name rest ih =>
    have none_open : view.records.filter (cancels registry) = [] := by
      rw [List.filter_eq_nil_iff]
      intro record member
      simp [cancels,shut record member]
    have same : (view.fail (some registry) name (Saga.expiryReason name)).log = view.log := by
      simp [fail,mark,cancelAll,none_open]
    rw [← same]
    apply ih
    intro record member
    obtain ⟨moved,inside,rfl⟩ := List.mem_map.mp member
    obtain ⟨old,present,rfl⟩ := List.mem_map.mp inside
    rw [phased_phase]
    split
    · rfl
    · simp [advance,cancels,shut old present]

theorem apply_cancel_order (registry : MessageRegistry Data) (view : TccView Data) (op : TccOp)
    (hydrates : ∀ record ∈ view.records, Hydrates registry record.cancelCommand) :
    ∃ added, (view.apply (some registry) op).log = view.log ++ added ∧
      (added.filter Origin.isCancel).Sublist (view.records.map fun record => .tccCancel record.name).reverse := by
  have unchanged {next : TccView Data} (same : next.log = view.log) : ∃ added, next.log = view.log ++ added ∧
      (added.filter Origin.isCancel).Sublist (view.records.map fun record => .tccCancel record.name).reverse :=
    ⟨[],by simpa using same,by simp⟩
  have failing (stepName reason : String) :
      ∃ added, (view.fail (some registry) stepName reason).log = view.log ++ added ∧
        (added.filter Origin.isCancel).Sublist (view.records.map fun record => .tccCancel record.name).reverse := by
    refine ⟨_,rfl,List.filter_sublist.trans ?_⟩
    exact (List.filter_sublist.map _).reverse
  cases op with
  | tried stepName =>
    simp only [apply,tryDone]
    split
    · refine ⟨_,rfl,?_⟩
      rw [List.filter_eq_nil_iff.mpr]
      · simp
      · intro origin member
        obtain ⟨_,_,rfl⟩ := List.mem_map.mp member
        simp [Origin.isCancel]
    · exact unchanged rfl
  | confirmed stepName =>
    simp only [apply]
    split <;> exact unchanged rfl
  | failed stepName reason => exact failing stepName reason
  | cancelled stepName =>
    simp only [apply]
    split <;> exact unchanged rfl
  | timeouts now =>
    simp only [apply]
    cases view.expiredNames now with
    | nil => exact unchanged rfl
    | cons name rest =>
      have idle := expire_idle registry rest (view.fail (some registry) name (Saga.expiryReason name))
        (fail_closes registry view name _ hydrates)
      obtain ⟨added,logged,ordered⟩ := failing name (Saga.expiryReason name)
      exact ⟨added,idle.trans logged,ordered⟩
  | reload => exact unchanged rfl

end TccView

namespace Saga
variable {Data : Type}

structure TccOutcome (steps : TCCSteps Data) (started : Saga Data) (ops : List TccOp) : Prop where
  completed : ∀ earlier, earlier <+: ops →
    (Transition.run tccStep started earlier).state.status = .completed →
      (∀ step ∈ steps.steps, TccOp.confirmed step.name ∈ earlier) ∧
        ∀ name, .tccCancel name ∉ (Transition.run tccStep started ops).dispatchedLog
  compensated : ∀ earlier, earlier <+: ops →
    (Transition.run tccStep started earlier).state.status = .compensated → ∀ step ∈ steps.steps,
      (Transition.run tccStep started earlier).dispatchedLog.count (.tccCancel step.name) = 1
  reverseOrder : ∀ earlier op, earlier ++ [op] <+: ops → ∃ added,
    (Transition.run tccStep started (earlier ++ [op])).dispatchedLog =
        (Transition.run tccStep started earlier).dispatchedLog ++ added ∧
      (added.filter Origin.isCancel).Sublist (steps.steps.map fun step => .tccCancel step.name).reverse
  exclusive : ∀ first second, first <+: ops → second <+: ops →
    (Transition.run tccStep started first).state.status = .completed →
      (Transition.run tccStep started second).state.status ≠ .compensated

theorem begun_outcome (registry : MessageRegistry Data) (steps : TCCSteps Data) (now : Int)
    (hydrates : ∀ step ∈ steps.steps, Hydrates registry step.confirmCommand ∧ Hydrates registry step.cancelCommand) :
    TccView.OutcomeInv registry (steps.steps.map (·.name)) [] (begun steps now) := by
  refine ⟨begun_safety steps now,?_,?_,.trying ⟨rfl,?_,?_⟩⟩
  · intro record member
    obtain ⟨step,inside,rfl⟩ := List.mem_map.mp member
    exact hydrates step inside
  · intro record member confirmed
    obtain ⟨step,_,rfl⟩ := List.mem_map.mp member
    simp [recordOf] at confirmed
  · intro record member
    obtain ⟨step,_,rfl⟩ := List.mem_map.mp member
    exact .inl rfl
  · intro name logged
    obtain ⟨_,_,same⟩ := List.mem_map.mp logged
    cases same

def machineRun (registry : MessageRegistry Data) (steps : TCCSteps Data) (now : Int) (ops : List TccOp) :
    TccView Data :=
  Transition.run (fun current op => TccView.apply (some registry) current op) (begun steps now) ops

structure DueRun (registry : MessageRegistry Data) (steps : TCCSteps Data) (now : Int)
    (ops : List TccOp) : Prop where
  hydrates : ∀ step ∈ steps.steps, Hydrates registry step.confirmCommand ∧ Hydrates registry step.cancelCommand
  meets : Transition.Meets (fun current op => TccView.apply (some registry) current op)
    (fun view op => Due view.records op) (begun steps now) ops

theorem DueRun.reached {registry : MessageRegistry Data} {steps : TCCSteps Data} {now : Int}
    {ops : List TccOp} (due : DueRun registry steps now ops) {earlier : List TccOp} (before : earlier <+: ops) :
    TccView.OutcomeInv registry (steps.steps.map (·.name)) earlier (machineRun registry steps now earlier) :=
  Transition.run_history (fun past (view : TccView Data) => view.OutcomeInv registry (steps.steps.map (·.name)) past)
    (fun past view op => TccView.apply_outcome past view op) [] _ earlier
    (begun_outcome registry steps now due.hydrates) (due.meets.earlier before)

theorem DueRun.absorbed {registry : MessageRegistry Data} {steps : TCCSteps Data} {now : Int}
    {ops : List TccOp} (due : DueRun registry steps now ops) (stage : TccView Data → Prop)
    (kept : ∀ view op, stage view → Due view.records op → stage (view.apply (some registry) op))
    {earlier later : List TccOp} (order : earlier <+: later) (before : later <+: ops)
    (here : stage (machineRun registry steps now earlier)) : stage (machineRun registry steps now later) := by
  obtain ⟨rest,rfl⟩ := order
  have tail := ((Transition.meets_append _ _ _ _ _).mp (due.meets.earlier before)).2
  rw [machineRun,Transition.run_append]
  exact Transition.run_invariant stage kept _ rest here tail

theorem DueRun.completedStage {registry : MessageRegistry Data} {steps : TCCSteps Data} {now : Int}
    {ops : List TccOp} (due : DueRun registry steps now ops) {earlier : List TccOp} (before : earlier <+: ops)
    (done : (machineRun registry steps now earlier).status = .completed) :
    TccView.CompletedStage (machineRun registry steps now earlier) := by
  cases (due.reached before).stage with
  | trying stage => rw [stage.status] at done; cases done
  | confirming stage => rw [stage.status] at done; cases done
  | completed stage => exact stage
  | cancelling stage => rcases stage.status with status | status <;> (rw [status] at done; cases done)

theorem DueRun.cancellingStage {registry : MessageRegistry Data} {steps : TCCSteps Data} {now : Int}
    {ops : List TccOp} (due : DueRun registry steps now ops) {earlier : List TccOp} (before : earlier <+: ops)
    (done : (machineRun registry steps now earlier).status = .compensated) :
    TccView.CancellingStage (machineRun registry steps now earlier) := by
  cases (due.reached before).stage with
  | trying stage => rw [stage.status] at done; cases done
  | confirming stage => rw [stage.status] at done; cases done
  | completed stage => rw [stage.status] at done; cases done
  | cancelling stage => exact stage

theorem DueRun.recordNamed {registry : MessageRegistry Data} {steps : TCCSteps Data} {now : Int}
    {ops : List TccOp} (due : DueRun registry steps now ops) {earlier : List TccOp} (before : earlier <+: ops)
    {step : TCCStep Data} (member : step ∈ steps.steps) :
    ∃ record ∈ (machineRun registry steps now earlier).records, record.name = step.name := by
  have named : step.name ∈ (machineRun registry steps now earlier).records.map (·.name) :=
    (due.reached before).safety.named ▸ List.mem_map_of_mem member
  exact List.mem_map.mp named

theorem DueRun.completed {registry : MessageRegistry Data} {steps : TCCSteps Data} {now : Int}
    {ops : List TccOp} (due : DueRun registry steps now ops) {earlier : List TccOp} (before : earlier <+: ops)
    (done : (machineRun registry steps now earlier).status = .completed) :
    (∀ step ∈ steps.steps, TccOp.confirmed step.name ∈ earlier) ∧
      ∀ name, .tccCancel name ∉ (machineRun registry steps now ops).log := by
  have stage := due.completedStage before done
  have final := due.absorbed TccView.CompletedStage
    (fun _ op here => TccView.completed_stage registry here op) before (List.prefix_refl ops) stage
  refine ⟨?_,final.noCancel⟩
  intro step member
  obtain ⟨record,inside,named⟩ := due.recordNamed before member
  rw [← named]
  exact (due.reached before).acknowledged record inside (stage.phases record inside)

theorem DueRun.compensated {registry : MessageRegistry Data} {steps : TCCSteps Data} {now : Int}
    {ops : List TccOp} (due : DueRun registry steps now ops) {earlier : List TccOp} (before : earlier <+: ops)
    (done : (machineRun registry steps now earlier).status = .compensated) (step : TCCStep Data)
    (member : step ∈ steps.steps) :
    (machineRun registry steps now earlier).log.count (.tccCancel step.name) = 1 := by
  have stage := due.cancellingStage before done
  obtain ⟨record,inside,named⟩ := due.recordNamed before member
  have logged : .tccCancel record.name ∈ (machineRun registry steps now earlier).log := by
    rcases stage.phases record inside with ⟨_,logged⟩ | confirmed
    · exact logged
    · have shut := stage.settled done record inside
      simp [TccView.closed,confirmed] at shut
  rw [named] at logged
  have once := (due.reached before).safety.safe.oneCancel step.name
  have present := List.count_pos_iff.mpr logged
  omega

theorem DueRun.exclusive {registry : MessageRegistry Data} {steps : TCCSteps Data} {now : Int}
    {ops first second : List TccOp} (due : DueRun registry steps now ops) (beforeFirst : first <+: ops)
    (beforeSecond : second <+: ops) (completed : (machineRun registry steps now first).status = .completed) :
    (machineRun registry steps now second).status ≠ .compensated := by
  intro compensated
  have done := due.completedStage beforeFirst completed
  have undone := due.cancellingStage beforeSecond compensated
  rcases List.prefix_or_prefix_of_prefix beforeFirst beforeSecond with order | order
  · have later := due.absorbed TccView.CompletedStage
      (fun _ op here => TccView.completed_stage registry here op) order beforeSecond done
    rw [later.status] at compensated
    cases compensated
  · have later := due.absorbed TccView.CancellingStage
      (fun _ op here => TccView.cancelling_stage registry here op) order beforeFirst undone
    rcases later.status with other | other <;> (rw [completed] at other; cases other)

theorem DueRun.reverseOrder {registry : MessageRegistry Data} {steps : TCCSteps Data} {now : Int}
    {ops earlier : List TccOp} {op : TccOp} (due : DueRun registry steps now ops)
    (before : earlier ++ [op] <+: ops) :
    ∃ added, (machineRun registry steps now (earlier ++ [op])).log =
        (machineRun registry steps now earlier).log ++ added ∧
      (added.filter Origin.isCancel).Sublist (steps.steps.map fun step => .tccCancel step.name).reverse := by
  have inv := due.reached ((List.prefix_append earlier [op]).trans before)
  obtain ⟨added,logged,ordered⟩ := TccView.apply_cancel_order registry _ op
    (fun record member => (inv.hydrates record member).2)
  have names := congrArg (List.map Origin.tccCancel) inv.safety.named
  simp only [List.map_map,Function.comp_def] at names
  rw [names] at ordered
  refine ⟨added,?_,ordered⟩
  rw [machineRun,Transition.run_append]
  exact logged

/-- Every run from `begin_tcc` whose replies find their step in the phase they
answer, with every command hydratable, ends all or nothing. -/
theorem due_run_outcome (state : SagaState Data) (registry : MessageRegistry Data)
    (steps : TCCSteps Data) (tag : Nat) (now : Int) (started : Saga Data)
    (began : (create state (some registry) steps tag).beginTcc now = (started,none))
    (hydrates : ∀ step ∈ steps.steps, Hydrates registry step.confirmCommand ∧ Hydrates registry step.cancelCommand)
    (ops : List TccOp)
    (due : Transition.Meets tccStep (fun saga op => Due saga.state.tccSteps op) started ops) :
    TccOutcome steps started ops := by
  have shows := beginTcc_shows state (some registry) steps tag now started began
  have machine : DueRun registry steps now ops :=
    ⟨hydrates,meets_view started (fun view op => Due view.records op) shows ops due⟩
  have viewed (earlier : List TccOp) : (Transition.run tccStep started earlier).view =
      machineRun registry steps now earlier := (run_refines started shows earlier).2.2
  have log (earlier : List TccOp) : (Transition.run tccStep started earlier).dispatchedLog =
      (machineRun registry steps now earlier).log := congrArg TccView.log (viewed earlier)
  have status (earlier : List TccOp) : (Transition.run tccStep started earlier).state.status =
      (machineRun registry steps now earlier).status := congrArg TccView.status (viewed earlier)
  refine ⟨?_,?_,?_,?_⟩
  · intro earlier before done
    rw [log]
    exact machine.completed before ((status earlier).symm.trans done)
  · intro earlier before done step member
    rw [log]
    exact machine.compensated before ((status earlier).symm.trans done) step member
  · intro earlier op before
    rw [log,log]
    exact machine.reverseOrder before
  · intro first second beforeFirst beforeSecond completed
    rw [status]
    exact machine.exclusive beforeFirst beforeSecond ((status first).symm.trans completed)

theorem due_run_outcome_hold :
    TccOutcome splitSteps splitStarted
      [.tried "hold",.reload,.failed "deposit" "declined",.cancelled "hold",.timeouts 5,.cancelled "deposit"] ∧
    (Transition.run tccStep splitStarted [.tried "hold",.reload,.failed "deposit" "declined",.cancelled "hold",
      .timeouts 5,.cancelled "deposit"]).dispatchedLog =
        [.tccTry "hold",.tccTry "deposit",.tccCancel "deposit",.tccCancel "hold"] := by
  refine ⟨due_run_outcome (.initial 0 "OrderTCC" "order-1") holdRegistry splitSteps 0 0 splitStarted rfl ?_ _
    ⟨⟨_,List.mem_cons_self,rfl,rfl⟩,trivial,⟨_,List.mem_cons_of_mem _ List.mem_cons_self,rfl,rfl⟩,
      ⟨_,List.mem_cons_self,rfl,.inl rfl⟩,trivial,⟨_,List.mem_cons_of_mem _ List.mem_cons_self,rfl,.inr rfl⟩,trivial⟩,rfl⟩
  intro step member
  rcases List.mem_cons.mp member with rfl | other
  · exact ⟨rfl,rfl⟩
  · obtain rfl := List.mem_singleton.mp other
    exact ⟨rfl,rfl⟩

end Saga

end CqrsDdd.Sagas
