import CqrsDdd.Transition

/-! Isolation of the parties of one shared state. Each party has its share of the
state; where a step changes only the share of its own party, and does to it and
answers what it would if there were nothing else, the answers of a party are
those of the run in which the others did nothing. -/
namespace CqrsDdd.Noninterference

variable {State Call Answer Party : Type*} [DecidableEq Party]

/-- The calls of a run, each with its answer. -/
def answers (step : State → Call → State) (answer : State → Call → Answer) : State → List Call → List (Call × Answer)
  | _,[] => []
  | state,call::rest => (call,answer state call)::answers step answer (step state call) rest

/-- What a step does, seen from the shares: `known` holds in every state, `allowed` of every step. -/
structure Separates (step : State → Call → State) (answer : State → Call → Answer) (party : Call → Party)
    (share : Party → State → State) (known : State → Prop) (allowed : State → Call → Prop) : Prop where
  kept : ∀ state call, known state → allowed state call → known (step state call)
  others : ∀ state call, known state → allowed state call → ∀ other, other ≠ party call →
    share other (step state call) = share other state
  own : ∀ state call, known state → allowed state call →
    step (share (party call) state) call = share (party call) (step state call)
  same : ∀ state call, known state → allowed state call → answer (share (party call) state) call = answer state call

/-- The same, where a party alone has a machine of its own for its calls on its share. -/
structure Simulates {Own : Type*} (step : State → Call → State) (answer : State → Call → Answer)
    (alone : Own → Call → Own) (reply : Own → Call → Answer) (party : Call → Party) (share : Party → State → Own)
    (known : State → Prop) (allowed : State → Call → Prop) : Prop where
  kept : ∀ state call, known state → allowed state call → known (step state call)
  others : ∀ state call, known state → allowed state call → ∀ other, other ≠ party call →
    share other (step state call) = share other state
  own : ∀ state call, known state → allowed state call →
    alone (share (party call) state) call = share (party call) (step state call)
  same : ∀ state call, known state → allowed state call → reply (share (party call) state) call = answer state call

theorem answers_of_alone {Own : Type*} {step : State → Call → State} {answer : State → Call → Answer}
    {alone : Own → Call → Own} {reply : Own → Call → Answer} {party : Call → Party} {share : Party → State → Own}
    {known : State → Prop} {allowed : State → Call → Prop}
    (simulates : Simulates step answer alone reply party share known allowed) (one : Party) {start : State}
    {calls : List Call} (initial : known start) (meets : Transition.Meets step allowed start calls) :
    (answers step answer start calls).filter (fun entry => party entry.1 = one) =
      answers alone reply (share one start) (calls.filter fun call => party call = one) := by
  induction calls generalizing start with
  | nil => rfl
  | cons call rest ih =>
    obtain ⟨allowed,meets⟩ := meets
    have later := ih (simulates.kept start call initial allowed) meets
    by_cases mine : party call = one
    · subst mine
      rw [answers,List.filter_cons_of_pos (by simp),List.filter_cons_of_pos (by simp),answers,later,
        simulates.own start call initial allowed,simulates.same start call initial allowed]
    · rw [answers,List.filter_cons_of_neg (by simpa using mine),List.filter_cons_of_neg (by simpa using mine),later,
        simulates.others start call initial allowed one (Ne.symm mine)]

theorem answers_of_party {step : State → Call → State} {answer : State → Call → Answer} {party : Call → Party}
    {share : Party → State → State} {known : State → Prop} {allowed : State → Call → Prop}
    (separates : Separates step answer party share known allowed) (one : Party) {start : State} {calls : List Call}
    (initial : known start) (meets : Transition.Meets step allowed start calls) :
    (answers step answer start calls).filter (fun entry => party entry.1 = one) =
      answers step answer (share one start) (calls.filter fun call => party call = one) :=
  answers_of_alone ⟨separates.kept,separates.others,separates.own,separates.same⟩ one initial meets

/-- What a run leaves of the share of a party is what the party's own calls leave of it. -/
theorem run_of_party {step : State → Call → State} {answer : State → Call → Answer} {party : Call → Party}
    {share : Party → State → State} {known : State → Prop} {allowed : State → Call → Prop}
    (separates : Separates step answer party share known allowed) (one : Party) {start : State} {calls : List Call}
    (initial : known start) (meets : Transition.Meets step allowed start calls) :
    share one (Transition.run step start calls) =
      Transition.run step (share one start) (calls.filter fun call => party call = one) := by
  induction calls generalizing start with
  | nil => rfl
  | cons call rest ih =>
    obtain ⟨allowed,meets⟩ := meets
    have later := ih (separates.kept start call initial allowed) meets
    by_cases mine : party call = one
    · subst mine
      rw [List.filter_cons_of_pos (by simp),Transition.run_cons,Transition.run_cons,later,
        separates.own start call initial allowed]
    · rw [List.filter_cons_of_neg (by simpa using mine),Transition.run_cons,later,
        separates.others start call initial allowed one (Ne.symm mine)]

end CqrsDdd.Noninterference
