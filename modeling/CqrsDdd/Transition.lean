import Mathlib.Data.List.Basic
import Mathlib.Data.List.Infix

/-! Runs of a deterministic step function and the rules for their invariants.
A run is a list of actions; `Meets` asks a side condition of every action in the
state it is taken from, so that conditional safety is stated over whole runs. -/
namespace CqrsDdd.Transition

variable {State Action : Type*}

def run (step : State → Action → State) (start : State) (actions : List Action) : State :=
  actions.foldl step start

def Meets (step : State → Action → State) (allowed : State → Action → Prop) :
    State → List Action → Prop
  | _, [] => True
  | state, action::rest => allowed state action ∧ Meets step allowed (step state action) rest

@[simp] theorem run_nil (step : State → Action → State) (start : State) :
    run step start [] = start := rfl

@[simp] theorem run_cons (step : State → Action → State) (start : State) (action : Action)
    (rest : List Action) : run step start (action::rest) = run step (step start action) rest := rfl

theorem run_append (step : State → Action → State) (start : State) (first second : List Action) :
    run step start (first ++ second) = run step (run step start first) second :=
  List.foldl_append

theorem meets_append (step : State → Action → State) (allowed : State → Action → Prop)
    (start : State) (first second : List Action) :
    Meets step allowed start (first ++ second) ↔
      Meets step allowed start first ∧ Meets step allowed (run step start first) second := by
  induction first generalizing start with
  | nil => simp [Meets]
  | cons action rest ih => simp [Meets,ih,and_assoc]

theorem meets_of_forall (step : State → Action → State) (allowed : State → Action → Prop)
    (always : ∀ state action, allowed state action) (start : State) (actions : List Action) :
    Meets step allowed start actions := by
  induction actions generalizing start with
  | nil => trivial
  | cons action rest ih => exact ⟨always start action,ih (step start action)⟩

theorem meets_of_mem {step : State → Action → State} {allowed : Action → Prop} (start : State)
    {actions : List Action} (each : ∀ action ∈ actions, allowed action) :
    Meets step (fun _ action => allowed action) start actions := by
  induction actions generalizing start with
  | nil => trivial
  | cons action rest ih =>
    refine ⟨each action List.mem_cons_self,ih (step start action) fun other member => ?_⟩
    exact each other (List.mem_cons_of_mem action member)

theorem meets_of_prefixes {step : State → Action → State} {allowed : State → Action → Prop} {start : State}
    {actions : List Action}
    (each : ∀ earlier action, earlier ++ [action] <+: actions → allowed (run step start earlier) action) :
    Meets step allowed start actions := by
  induction actions generalizing start with
  | nil => trivial
  | cons action rest ih =>
    refine ⟨each [] action ⟨rest,rfl⟩,ih fun earlier later before => ?_⟩
    exact each (action::earlier) later (List.cons_prefix_cons.mpr ⟨rfl,before⟩)

theorem run_history {step : State → Action → State} {allowed : State → Action → Prop}
    (inv : List Action → State → Prop)
    (kept : ∀ past state action, inv past state → allowed state action →
      inv (past ++ [action]) (step state action))
    (past : List Action) (start : State) (actions : List Action) (initial : inv past start)
    (meets : Meets step allowed start actions) : inv (past ++ actions) (run step start actions) := by
  induction actions generalizing past start with
  | nil => simpa using initial
  | cons action rest ih =>
    obtain ⟨head,tail⟩ := meets
    have next := ih (past ++ [action]) (step start action) (kept past start action initial head) tail
    simpa using next

theorem run_invariant {step : State → Action → State} {allowed : State → Action → Prop}
    (inv : State → Prop) (kept : ∀ state action, inv state → allowed state action → inv (step state action))
    (start : State) (actions : List Action) (initial : inv start)
    (meets : Meets step allowed start actions) : inv (run step start actions) :=
  run_history (fun _ => inv) (fun _ => kept) [] start actions initial meets

theorem Meets.earlier {step : State → Action → State} {allowed : State → Action → Prop}
    {start : State} {earlier actions : List Action} (meets : Meets step allowed start actions)
    (before : earlier <+: actions) : Meets step allowed start earlier := by
  obtain ⟨rest,rfl⟩ := before
  exact ((meets_append step allowed start earlier rest).mp meets).1

theorem meets_congr {step : State → Action → State} {allowed other : State → Action → Prop} (inv : State → Prop)
    (kept : ∀ state action, inv state → inv (step state action))
    (same : ∀ state action, inv state → (allowed state action ↔ other state action)) {start : State}
    (initial : inv start) (actions : List Action) : Meets step allowed start actions ↔ Meets step other start actions := by
  induction actions generalizing start with
  | nil => exact Iff.rfl
  | cons action rest ih => exact and_congr (same start action initial) (ih (kept start action initial))

end CqrsDdd.Transition
