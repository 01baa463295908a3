import CqrsDdd.Sagas.TccMachine
import Mathlib.Data.List.Count

/-! Confirm and Cancel safety of a TCC saga over every order of messages. None of
the mutators guards the phase it overwrites. `mark_step_tried` is the one where
this matters: a late Try reply puts a cancelled or confirmed step back to `TRIED`. -/
namespace CqrsDdd.Sagas

def Origin.isConfirm : Origin → Bool
  | .tccConfirm _ => true
  | _ => false

def Origin.isCancel : Origin → Bool
  | .tccCancel _ => true
  | _ => false

structure TccSafe (names : List String) (past : List TccOp) (log : List Origin) : Prop where
  noConfirmAfterCancel : log.Pairwise fun earlier later => ¬(earlier.isCancel = true ∧ later.isConfirm = true)
  confirmsAfterAllTried : ∀ name, .tccConfirm name ∈ log → ∀ other ∈ names, TccOp.tried other ∈ past
  oneConfirm : ∀ name, log.count (.tccConfirm name) ≤ 1
  oneCancel : ∀ name, log.count (.tccCancel name) ≤ 1

/-- A Try reply is timely while its step is still being tried or already tried. -/
def Timely {Data : Type} (records : List (TCCStepRecord Data)) : TccOp → Prop
  | .tried stepName => ∀ record ∈ records, record.name = stepName →
      record.phase = .trying ∨ record.phase = .tried
  | _ => True

namespace TccView
variable {Data : Type}

structure SafetyInv (names : List String) (past : List TccOp) (view : TccView Data) : Prop where
  named : view.records.map (·.name) = names
  distinct : names.Nodup
  safe : TccSafe names past view.log
  unconfirmed : ∀ record ∈ view.records, record.phase = .trying ∨ record.phase = .tried →
    .tccConfirm record.name ∉ view.log
  uncancelled : ∀ record ∈ view.records, Saga.cancellable record.phase = true →
    .tccCancel record.name ∉ view.log
  known : ∀ name, .tccCancel name ∈ view.log → name ∈ names
  answered : ∀ record ∈ view.records, record.phase = .tried → TccOp.tried record.name ∈ past

theorem SafetyInv.later {names : List String} {past : List TccOp} {view : TccView Data}
    (inv : SafetyInv names past view) (op : TccOp) : SafetyInv names (past ++ [op]) view :=
  {inv with
    safe := {inv.safe with
      confirmsAfterAllTried := fun name confirmed other member =>
        List.mem_append_left _ (inv.safe.confirmsAfterAllTried name confirmed other member)}
    answered := fun record member tried => List.mem_append_left _ (inv.answered record member tried)}

theorem SafetyInv.nameMember {names : List String} {past : List TccOp} {view : TccView Data}
    (inv : SafetyInv names past view) {record : TCCStepRecord Data} (member : record ∈ view.records) :
    record.name ∈ names := by
  rw [← inv.named]
  exact List.mem_map_of_mem member

theorem SafetyInv.sameRecord {names : List String} {past : List TccOp} {view : TccView Data}
    (inv : SafetyInv names past view) {first second : TCCStepRecord Data} (left : first ∈ view.records)
    (right : second ∈ view.records) (same : first.name = second.name) : first = second := by
  have distinct : (view.records.map (·.name)).Nodup := inv.named ▸ inv.distinct
  exact List.inj_on_of_nodup_map distinct left right same

theorem advance_name (selected : TCCStepRecord Data → Bool) (phase : TCCPhase)
    (record : TCCStepRecord Data) : (advance selected phase record).name = record.name := by
  unfold advance
  split <;> rfl

theorem advance_skipped {selected : TCCStepRecord Data → Bool} {phase : TCCPhase} {record : TCCStepRecord Data}
    (differs : (advance selected phase record).phase ≠ phase) :
    selected record = false ∧ advance selected phase record = record := by
  cases chosen : selected record with
  | false => exact ⟨rfl,by simp [advance,chosen]⟩
  | true => exact absurd (by simp [advance,chosen]) differs

theorem phased_name (stepName : String) (phase : TCCPhase) (error : Option String)
    (record : TCCStepRecord Data) : (Saga.phased stepName phase error record).name = record.name := by
  unfold Saga.phased
  split <;> rfl

theorem phased_phase (stepName : String) (phase : TCCPhase) (error : Option String)
    (record : TCCStepRecord Data) : (Saga.phased stepName phase error record).phase =
      if record.name = stepName then phase else record.phase := by
  unfold Saga.phased
  split <;> rfl

theorem mark_safety {names : List String} {past : List TccOp} {view : TccView Data}
    (inv : SafetyInv names past view) (stepName : String) (phase : TCCPhase) (error : Option String)
    (closed : phase ≠ .trying ∧ phase ≠ .confirming)
    (timely : phase = .tried → Timely view.records (.tried stepName) ∧ TccOp.tried stepName ∈ past) :
    SafetyInv names past (view.mark stepName phase error) := by
  have stays (record : TCCStepRecord Data) (member : record ∈ view.records)
      (opened : Saga.cancellable (Saga.phased stepName phase error record).phase = true) :
      Saga.cancellable record.phase = true ∧
        ((Saga.phased stepName phase error record).phase = .tried →
          record.phase = .trying ∨ record.phase = .tried) := by
    rw [phased_phase] at opened ⊢
    by_cases hit : record.name = stepName
    · have tried : phase = .tried := by
        rw [if_pos hit] at opened
        simpa [Saga.cancellable,closed] using opened
      have old := (timely tried).1 record member hit
      exact ⟨by rcases old with old | old <;> simp [Saga.cancellable,old],fun _ => old⟩
    · rw [if_neg hit] at opened ⊢
      exact ⟨opened,fun tried => .inr tried⟩
  refine ⟨?_,inv.distinct,inv.safe,?_,?_,inv.known,?_⟩
  · simpa [mark,Function.comp_def,phased_name] using inv.named
  · intro record member opened
    obtain ⟨old,present,rfl⟩ := List.mem_map.mp member
    have open' : Saga.cancellable (Saga.phased stepName phase error old).phase = true := by
      rcases opened with opened | opened <;> simp [Saga.cancellable,opened]
    rw [phased_name]
    apply inv.unconfirmed old present
    rcases opened with opened | opened
    · rw [phased_phase] at opened
      by_cases hit : old.name = stepName
      · exact absurd (by simpa [hit] using opened) closed.1
      · exact .inl (by simpa [hit] using opened)
    · exact (stays old present open').2 opened
  · intro record member opened
    obtain ⟨old,present,rfl⟩ := List.mem_map.mp member
    rw [phased_name]
    exact inv.uncancelled old present (stays old present opened).1
  · intro record member tried
    obtain ⟨old,present,rfl⟩ := List.mem_map.mp member
    rw [phased_name]
    rw [phased_phase] at tried
    by_cases hit : old.name = stepName
    · rw [if_pos hit] at tried
      rw [hit]
      exact (timely tried).2
    · rw [if_neg hit] at tried
      exact inv.answered old present tried

theorem count_append_le_one (log added : List Origin) (origin : Origin) (once : log.count origin ≤ 1)
    (distinct : added.Nodup) (fresh : origin ∈ added → origin ∉ log) :
    (log ++ added).count origin ≤ 1 := by
  rw [List.count_append]
  by_cases member : origin ∈ added
  · rw [List.count_eq_zero.mpr (fresh member)]
    have bound := List.nodup_iff_count_le_one.mp distinct origin
    omega
  · rw [List.count_eq_zero.mpr member]
    omega

theorem selected_nodup {names : List String} {past : List TccOp} {view : TccView Data}
    (inv : SafetyInv names past view) (selected : TCCStepRecord Data → Bool) (tag : String → Origin)
    (injective : Function.Injective tag) :
    ((view.records.filter selected).map fun record => tag record.name).Nodup := by
  have distinct : (view.records.map (·.name)).Nodup := inv.named ▸ inv.distinct
  have selectedNames : ((view.records.filter selected).map (·.name)).Nodup :=
    (List.filter_sublist.map _).nodup distinct
  rw [show (fun record : TCCStepRecord Data => tag record.name) = tag ∘ (·.name) from rfl,← List.map_map]
  exact selectedNames.map injective

theorem unselected_fresh {names : List String} {past : List TccOp} {view : TccView Data}
    (inv : SafetyInv names past view) (selected : TCCStepRecord Data → Bool) (tag : String → Origin)
    (injective : Function.Injective tag) {record : TCCStepRecord Data} (member : record ∈ view.records)
    (skipped : selected record = false) :
    tag record.name ∉ (view.records.filter selected).map fun record => tag record.name := by
  -- The selected step is the only record of its name, so what the other records say about the log
  -- does not change.
  intro present
  obtain ⟨other,chosen,same⟩ := List.mem_map.mp present
  obtain ⟨inside,picked⟩ := List.mem_filter.mp chosen
  have equal := inv.sameRecord inside member (injective same)
  rw [equal,skipped] at picked
  exact absurd picked (by simp)

theorem SafetyInv.noCancel {names : List String} {past : List TccOp} {view : TccView Data}
    (inv : SafetyInv names past view) (all : ∀ record ∈ view.records, record.phase = .tried) {origin : Origin}
    (logged : origin ∈ view.log) : origin.isCancel = false := by
  cases origin with
  | tccCancel name =>
    have present : name ∈ view.records.map (·.name) := inv.named ▸ inv.known name logged
    obtain ⟨record,inside,rfl⟩ := List.mem_map.mp present
    exact absurd logged (inv.uncancelled record inside (by simp [Saga.cancellable,all record inside]))
  | _ => rfl

theorem SafetyInv.allAnswered {names : List String} {past : List TccOp} {view : TccView Data}
    (inv : SafetyInv names past view) (all : ∀ record ∈ view.records, record.phase = .tried) {name : String}
    (member : name ∈ names) : TccOp.tried name ∈ past := by
  rw [← inv.named] at member
  obtain ⟨record,inside,rfl⟩ := List.mem_map.mp member
  exact inv.answered record inside (all record inside)

theorem confirmAll_safety {names : List String} {past : List TccOp} {view : TccView Data}
    (inv : SafetyInv names past view) (registry : MessageRegistry Data)
    (all : ∀ record ∈ view.records, record.phase = .tried) :
    SafetyInv names past (view.confirmAll registry) := by
  -- When every step is `TRIED`, nothing has been cancelled before, so the Confirms may be appended.
  have confirmInjective : Function.Injective Origin.tccConfirm := fun _ _ same => Origin.tccConfirm.inj same
  have added (origin : Origin)
      (member : origin ∈ (view.records.filter (confirms registry)).map fun record => Origin.tccConfirm record.name) :
      ∃ record ∈ view.records, origin = .tccConfirm record.name := by
    obtain ⟨record,chosen,same⟩ := List.mem_map.mp member
    exact ⟨record,(List.mem_filter.mp chosen).1,same.symm⟩
  refine ⟨?_,inv.distinct,⟨?_,fun _ _ _ => inv.allAnswered all,?_,?_⟩,?_,?_,?_,?_⟩
  · simpa [confirmAll,Function.comp_def,advance_name] using inv.named
  · refine List.pairwise_append.mpr ⟨inv.safe.noConfirmAfterCancel,?_,?_⟩
    · apply List.pairwise_of_forall_mem_list
      intro first member second _
      obtain ⟨record,_,rfl⟩ := added first member
      simp [Origin.isCancel]
    · intro first member second _
      simp [inv.noCancel all member]
  · intro name
    refine count_append_le_one _ _ _ (inv.safe.oneConfirm name)
      (selected_nodup inv _ _ confirmInjective) ?_
    intro member
    obtain ⟨record,inside,same⟩ := added _ member
    rw [same]
    exact inv.unconfirmed record inside (.inr (all record inside))
  · intro name
    have absent : Origin.tccCancel name ∉
        (view.records.filter (confirms registry)).map fun record => Origin.tccConfirm record.name := by
      intro member
      obtain ⟨_,_,same⟩ := added _ member
      cases same
    simpa [confirmAll,List.count_append,List.count_eq_zero.mpr absent] using inv.safe.oneCancel name
  · intro record member opened
    obtain ⟨old,inside,rfl⟩ := List.mem_map.mp member
    rw [advance_name]
    have differs : (advance (confirms registry) .confirming old).phase ≠ .confirming := by
      rcases opened with same | same <;> simp [same]
    have skipped := (advance_skipped differs).1
    intro logged
    rcases List.mem_append.mp logged with before | now
    · exact inv.unconfirmed old inside (.inr (all old inside)) before
    · exact unselected_fresh inv _ _ confirmInjective inside skipped now
  · intro record member _ logged
    obtain ⟨old,inside,rfl⟩ := List.mem_map.mp member
    rw [advance_name] at logged
    rcases List.mem_append.mp logged with before | now
    · exact inv.uncancelled old inside (by simp [Saga.cancellable,all old inside]) before
    · obtain ⟨_,_,same⟩ := added _ now
      cases same
  · intro name logged
    rcases List.mem_append.mp logged with before | now
    · exact inv.known name before
    · obtain ⟨_,_,same⟩ := added _ now
      cases same
  · intro record member _
    obtain ⟨old,inside,rfl⟩ := List.mem_map.mp member
    rw [advance_name]
    exact inv.answered old inside (all old inside)

theorem cancelAll_safety {names : List String} {past : List TccOp} {view : TccView Data}
    (inv : SafetyInv names past view) (registry : MessageRegistry Data) :
    SafetyInv names past (view.cancelAll registry) := by
  have cancelInjective : Function.Injective Origin.tccCancel := fun _ _ same => Origin.tccCancel.inj same
  have added (origin : Origin) (member : origin ∈
      ((view.records.filter (cancels registry)).map fun record => Origin.tccCancel record.name).reverse) :
      ∃ record ∈ view.records, cancels registry record = true ∧ origin = .tccCancel record.name := by
    obtain ⟨record,chosen,same⟩ := List.mem_map.mp (List.mem_reverse.mp member)
    exact ⟨record,(List.mem_filter.mp chosen).1,(List.mem_filter.mp chosen).2,same.symm⟩
  have onlyCancels (name : String) : Origin.tccConfirm name ∉
      ((view.records.filter (cancels registry)).map fun record => Origin.tccCancel record.name).reverse := by
    intro member
    obtain ⟨_,_,_,same⟩ := added _ member
    cases same
  have confirmsBefore (name : String) (logged : .tccConfirm name ∈ (view.cancelAll registry).log) :
      .tccConfirm name ∈ view.log :=
    (List.mem_append.mp logged).resolve_right (onlyCancels name)
  refine ⟨?_,inv.distinct,⟨?_,?_,?_,?_⟩,?_,?_,?_,?_⟩
  · simpa [cancelAll,Function.comp_def,advance_name] using inv.named
  · refine List.pairwise_append.mpr ⟨inv.safe.noConfirmAfterCancel,?_,?_⟩
    · apply List.pairwise_of_forall_mem_list
      intro first _ second member
      obtain ⟨_,_,_,rfl⟩ := added second member
      simp [Origin.isConfirm]
    · intro first _ second member
      obtain ⟨_,_,_,rfl⟩ := added second member
      simp [Origin.isConfirm]
  · exact fun name logged => inv.safe.confirmsAfterAllTried name (confirmsBefore name logged)
  · intro name
    simpa [cancelAll,List.count_append,List.count_eq_zero.mpr (onlyCancels name)] using inv.safe.oneConfirm name
  · intro name
    refine count_append_le_one _ _ _ (inv.safe.oneCancel name)
      (List.nodup_reverse.mpr (selected_nodup inv _ _ cancelInjective)) ?_
    intro member
    obtain ⟨record,inside,chosen,same⟩ := added _ member
    rw [same]
    exact inv.uncancelled record inside (Bool.and_eq_true_iff.mp chosen).1
  · intro record member opened logged
    obtain ⟨old,inside,rfl⟩ := List.mem_map.mp member
    rw [advance_name] at logged
    have differs : (advance (cancels registry) .cancelling old).phase ≠ .cancelling := by
      rcases opened with same | same <;> simp [same]
    rw [(advance_skipped differs).2] at opened
    exact inv.unconfirmed old inside opened (confirmsBefore _ logged)
  · intro record member opened logged
    obtain ⟨old,inside,rfl⟩ := List.mem_map.mp member
    rw [advance_name] at logged
    have differs : (advance (cancels registry) .cancelling old).phase ≠ .cancelling := by
      intro same
      simp [same,Saga.cancellable] at opened
    obtain ⟨skipped,kept⟩ := advance_skipped differs
    rw [kept] at opened
    rcases List.mem_append.mp logged with before | now
    · exact inv.uncancelled old inside opened before
    · exact unselected_fresh inv _ _ cancelInjective inside skipped (List.mem_reverse.mp now)
  · intro name logged
    rcases List.mem_append.mp logged with before | now
    · exact inv.known name before
    · obtain ⟨record,inside,_,same⟩ := added _ now
      rw [Origin.tccCancel.inj same]
      exact inv.nameMember inside
  · intro record member tried
    obtain ⟨old,inside,rfl⟩ := List.mem_map.mp member
    rw [advance_name]
    have differs : (advance (cancels registry) .cancelling old).phase ≠ .cancelling := by simp [tried]
    rw [(advance_skipped differs).2] at tried
    exact inv.answered old inside tried

theorem fail_safety {names : List String} {past : List TccOp} {view : TccView Data}
    (inv : SafetyInv names past view) (registry : Option (MessageRegistry Data)) (stepName reason : String) :
    SafetyInv names past (view.fail registry stepName reason) := by
  cases registry with
  | none => exact inv
  | some registry =>
    exact mark_safety (cancelAll_safety inv registry) stepName .failed _ (by simp) (by simp)

theorem expire_safety {names : List String} {past : List TccOp} {view : TccView Data}
    (inv : SafetyInv names past view) (registry : Option (MessageRegistry Data)) (expired : List String) :
    SafetyInv names past (view.expire registry expired) := by
  induction expired generalizing view with
  | nil => exact inv
  | cons name rest ih => exact ih (fail_safety inv registry name _)

theorem SafetyInv.withStatus {names : List String} {past : List TccOp} {view : TccView Data}
    (inv : SafetyInv names past view) (status : SagaStatus) :
    SafetyInv names past {view with status := status} :=
  ⟨inv.named,inv.distinct,inv.safe,inv.unconfirmed,inv.uncancelled,inv.known,inv.answered⟩

theorem apply_safety {names : List String} (registry : Option (MessageRegistry Data))
    (past : List TccOp) (view : TccView Data) (op : TccOp) (inv : SafetyInv names past view)
    (timely : Timely view.records op) : SafetyInv names (past ++ [op]) (view.apply registry op) := by
  have grown := inv.later op
  cases op with
  | tried stepName =>
    have marked := mark_safety grown stepName .tried none (by simp) (fun _ => ⟨timely,by simp⟩)
    cases registry with
    | none => exact marked
    | some registry =>
      simp only [apply,tryDone]
      split
      next all => exact confirmAll_safety marked registry (by simpa [inPhase] using all)
      next => exact marked
  | confirmed stepName =>
    have marked := mark_safety grown stepName .confirmed none (by simp) (by simp)
    simp only [apply]
    split
    · exact marked.withStatus _
    · exact marked
  | failed stepName reason => exact fail_safety grown registry stepName reason
  | cancelled stepName =>
    have marked := mark_safety grown stepName .cancelled none (by simp) (by simp)
    simp only [apply]
    split
    · exact marked.withStatus _
    · exact marked
  | timeouts now => exact expire_safety grown registry _
  | reload => exact grown

end TccView

namespace Saga
variable {Data : Type}

theorem begun_safety (steps : TCCSteps Data) (now : Int) :
    TccView.SafetyInv (steps.steps.map (·.name)) [] (begun steps now) := by
  have onlyTries (origin : Origin) (member : origin ∈ (begun steps now).log) : ∃ name, origin = .tccTry name := by
    obtain ⟨step,_,rfl⟩ := List.mem_map.mp member
    exact ⟨step.name,rfl⟩
  have noConfirm (name : String) : .tccConfirm name ∉ (begun steps now).log := by
    intro member
    obtain ⟨_,same⟩ := onlyTries _ member
    cases same
  have noCancel (name : String) : .tccCancel name ∉ (begun steps now).log := by
    intro member
    obtain ⟨_,same⟩ := onlyTries _ member
    cases same
  refine ⟨by simp [begun,recordOf,Function.comp_def],steps.distinct,⟨?_,?_,?_,?_⟩,?_,?_,?_,?_⟩
  · apply List.pairwise_of_forall_mem_list
    intro first member second _
    obtain ⟨_,rfl⟩ := onlyTries first member
    simp [Origin.isCancel]
  · exact fun name logged => absurd logged (noConfirm name)
  · intro name
    rw [List.count_eq_zero.mpr (noConfirm name)]
    omega
  · intro name
    rw [List.count_eq_zero.mpr (noCancel name)]
    omega
  · exact fun record _ _ => noConfirm record.name
  · exact fun record _ _ => noCancel record.name
  · exact fun name logged => absurd logged (noCancel name)
  · intro record member tried
    obtain ⟨step,_,rfl⟩ := List.mem_map.mp member
    simp [recordOf] at tried

def dispatchedLog (saga : Saga Data) : List Origin := saga.commandsToDispatch.map (·.origin)

theorem meets_view (saga : Saga Data) {registry : Option (MessageRegistry Data)} {seen : TccView Data}
    (allowed : TccView Data → TccOp → Prop) (shows : saga.Shows registry seen) (ops : List TccOp)
    (meets : Transition.Meets tccStep (fun current op => allowed current.view op) saga ops) :
    Transition.Meets (fun current op => TccView.apply registry current op) allowed seen ops := by
  induction ops generalizing saga seen with
  | nil => trivial
  | cons op rest ih =>
    obtain ⟨head,tail⟩ := meets
    exact ⟨shows.2.2 ▸ head,ih _ (apply_refines saga shows op) tail⟩

/-- For any number of steps and any registry: along every run from `begin_tcc`
in which Try replies are timely, all other messages arriving late, twice or out of
order as they may, the dispatched commands are safe in every state reached. -/
theorem timely_run_safe (state : SagaState Data) (registry : Option (MessageRegistry Data))
    (steps : TCCSteps Data) (tag : Nat) (now : Int) (started : Saga Data)
    (began : (create state registry steps tag).beginTcc now = (started,none)) (ops : List TccOp)
    (timely : Transition.Meets tccStep (fun saga op => Timely saga.state.tccSteps op) started ops) :
    ∀ earlier, earlier <+: ops → TccSafe (steps.steps.map (·.name)) earlier
      (Transition.run tccStep started earlier).dispatchedLog := by
  intro earlier before
  have shows := beginTcc_shows state registry steps tag now started began
  have meets := meets_view started (fun view op => Timely view.records op) shows earlier
    (timely.earlier before)
  have inv := Transition.run_history
    (fun past (view : TccView Data) => view.SafetyInv (steps.steps.map (·.name)) past)
    (fun past view op => TccView.apply_safety registry past view op) [] _ earlier
    (begun_safety steps now) meets
  have viewed := (run_refines started shows earlier).2.2
  have logged : (Transition.run tccStep started earlier).dispatchedLog =
      (Transition.run (fun current op => TccView.apply registry current op) (begun steps now) earlier).log := by
    rw [← viewed]
    rfl
  rw [logged]
  exact inv.safe

theorem resource_untimed : ReservationType.resource = .timeBased → (none : Option Int).isSome = true := by
  intro timed
  cases timed

def holdSteps : TCCSteps Unit :=
  ⟨[⟨"hold",⟨"HoldPayment","shop",()⟩,⟨"CapturePayment","shop",()⟩,⟨"VoidPayment","shop",()⟩,
    .resource,none,resource_untimed⟩],List.nodup_singleton "hold"⟩

def holdRegistry : MessageRegistry Unit :=
  ⟨[("HoldPayment",⟨"HoldPayment","shop",some⟩),("CapturePayment",⟨"CapturePayment","shop",some⟩),
    ("VoidPayment",⟨"VoidPayment","shop",some⟩)]⟩

def holdStarted : Saga Unit :=
  ((create (.initial 0 "OrderTCC" "order-1") (some holdRegistry) holdSteps 0).beginTcc 0).1

/-- A payment in two parts. -/
def splitSteps : TCCSteps Unit :=
  ⟨["hold","deposit"].map fun name => ⟨name,⟨"HoldPayment","shop",()⟩,⟨"CapturePayment","shop",()⟩,
    ⟨"VoidPayment","shop",()⟩,.resource,none,resource_untimed⟩,by decide⟩

def splitStarted : Saga Unit :=
  ((create (.initial 0 "OrderTCC" "order-1") (some holdRegistry) splitSteps 0).beginTcc 0).1

/-- The deposit is declined after the hold was tried; a Try reply and the failure arrive twice, a confirmation late. -/
def declined : List TccOp :=
  [.tried "hold",.tried "hold",.failed "deposit" "declined",.cancelled "hold",.failed "deposit" "declined",
    .confirmed "hold"]

theorem timely_run_safe_hold :
    (Transition.run tccStep splitStarted declined).dispatchedLog =
      [.tccTry "hold",.tccTry "deposit",.tccCancel "deposit",.tccCancel "hold"] ∧
    TccSafe ["hold","deposit"] declined (Transition.run tccStep splitStarted declined).dispatchedLog := by
  refine ⟨rfl,timely_run_safe (.initial 0 "OrderTCC" "order-1") (some holdRegistry) splitSteps 0 0 splitStarted rfl declined
    ⟨?_,?_,trivial,trivial,trivial,trivial,trivial⟩ declined (List.prefix_refl declined)⟩
  · intro record member _
    rcases List.mem_cons.mp member with rfl | other
    · exact .inl rfl
    · exact .inl (List.mem_singleton.mp other ▸ rfl)
  · intro record member _
    rcases List.mem_cons.mp member with rfl | other
    · exact .inr rfl
    · exact .inl (List.mem_singleton.mp other ▸ rfl)

/-- The hold fails and is voided; its Try reply arrives afterwards and captures it. -/
theorem late_try_confirms_after_cancel :
    ¬ TccSafe ["hold"] [.failed "hold" "declined",.tried "hold"]
      (Transition.run tccStep holdStarted [.failed "hold" "declined",.tried "hold"]).dispatchedLog := by
  have log : (Transition.run tccStep holdStarted [.failed "hold" "declined",.tried "hold"]).dispatchedLog =
      [.tccTry "hold",.tccCancel "hold",.tccConfirm "hold"] := by rfl
  intro safe
  have ordered := safe.noConfirmAfterCancel
  rw [log] at ordered
  simp [Origin.isCancel,Origin.isConfirm] at ordered

end Saga

end CqrsDdd.Sagas
