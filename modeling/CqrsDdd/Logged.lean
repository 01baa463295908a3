import Mathlib.Data.List.Count

/-! Actions on a state that may raise and that log what they do. What an action does is stated of its result and the
events that it logs, whatever the state that it starts in. -/
namespace CqrsDdd.Logged

variable {World Failure Event Result Other : Type}

structure Answer (World Failure Event Result : Type) where
  result : Except Failure Result
  world : World
  events : List Event

abbrev Action (World Failure Event Result : Type) := World → Answer World Failure Event Result

def raise (failure : Failure) : Action World Failure Event Result := fun world => ⟨.error failure,world,[]⟩

def note (event : Event) : Action World Failure Event Unit := fun world => ⟨.ok (),world,[event]⟩

/-- Another action after an answer, in the state that it left and with its events first. -/
def Answer.followed (before : Answer World Failure Event Result) (next : Action World Failure Event Other) :
    Answer World Failure Event Other :=
  let after := next before.world
  ⟨after.result,after.world,before.events ++ after.events⟩

def chain (first : Action World Failure Event Result) (next : Result → Action World Failure Event Other) :
    Action World Failure Event Other := fun world =>
  match (first world).result with
  | .ok result => (first world).followed (next result)
  | .error failure => ⟨.error failure,(first world).world,(first world).events⟩

def rescue (first : Action World Failure Event Result) (next : Failure → Action World Failure Event Result) :
    Action World Failure Event Result := fun world =>
  match (first world).result with
  | .ok result => ⟨.ok result,(first world).world,(first world).events⟩
  | .error failure => (first world).followed (next failure)

/-- Every answer is a possible one. -/
def Ensures (action : Action World Failure Event Result) (possible : Except Failure Result → List Event → Prop) : Prop :=
  ∀ world, possible (action world).result (action world).events

variable {possible : Except Failure Result → List Event → Prop}

theorem Ensures.imp {weaker : Except Failure Result → List Event → Prop} {action : Action World Failure Event Result}
    (ensures : Ensures action possible) (implies : ∀ result events, possible result events → weaker result events) :
    Ensures action weaker :=
  fun world => implies _ _ (ensures world)

theorem ensures_raise {failure : Failure} (holds : possible (.error failure) []) :
    Ensures (raise failure : Action World Failure Event Result) possible :=
  fun _ => holds

theorem ensures_chain {first : Action World Failure Event Result} {next : Result → Action World Failure Event Other}
    {goal : Except Failure Other → List Event → Prop} (before : Ensures first possible)
    (raised : ∀ failure events, possible (.error failure) events → goal (.error failure) events)
    (returned : ∀ result events, possible (.ok result) events →
      Ensures (next result) fun answer later => goal answer (events ++ later)) :
    Ensures (chain first next) goal := by
  intro world
  have started := before world
  unfold chain
  cases answered : (first world).result with
  | ok result =>
    rw [answered] at started
    exact returned result _ started _
  | error failure =>
    rw [answered] at started
    exact raised failure _ started

theorem ensures_rescue {first : Action World Failure Event Result} {next : Failure → Action World Failure Event Result}
    {goal : Except Failure Result → List Event → Prop} (before : Ensures first possible)
    (returned : ∀ result events, possible (.ok result) events → goal (.ok result) events)
    (raised : ∀ failure events, possible (.error failure) events →
      Ensures (next failure) fun answer later => goal answer (events ++ later)) :
    Ensures (rescue first next) goal := by
  intro world
  have started := before world
  unfold rescue
  cases answered : (first world).result with
  | ok result =>
    rw [answered] at started
    exact returned result _ started
  | error failure =>
    rw [answered] at started
    exact raised failure _ started _

theorem ensures_note {event : Event} {next : Action World Failure Event Result}
    (later : Ensures next fun answer events => possible answer (event::events)) :
    Ensures (chain (note event) fun _ => next) possible :=
  fun world => later world

/-- All events that an action logs are allowed. -/
def Only (allowed : Event → Prop) (action : Action World Failure Event Result) : Prop :=
  Ensures action fun _ events => ∀ event ∈ events, allowed event

section Only

variable {allowed : Event → Prop}

theorem only_append {events later : List Event} (before : ∀ event ∈ events, allowed event)
    (after : ∀ event ∈ later, allowed event) : ∀ event ∈ events ++ later, allowed event := by
  intro event member
  rcases List.mem_append.mp member with early | late
  · exact before event early
  · exact after event late

theorem only_raise (failure : Failure) : Only allowed (raise failure : Action World Failure Event Result) :=
  ensures_raise fun _ member => absurd member List.not_mem_nil

theorem only_note {event : Event} (fits : allowed event) : Only allowed (note event : Action World Failure Event Unit) := by
  intro world other member
  rw [List.mem_singleton.mp member]
  exact fits

theorem only_chain {first : Action World Failure Event Result} {next : Result → Action World Failure Event Other}
    (before : Only allowed first) (after : ∀ result, Only allowed (next result)) : Only allowed (chain first next) :=
  ensures_chain before (fun _ _ events => events) fun result _ events world => only_append events (after result world)

theorem only_rescue {first : Action World Failure Event Result} {next : Failure → Action World Failure Event Result}
    (before : Only allowed first) (after : ∀ failure, Only allowed (next failure)) : Only allowed (rescue first next) :=
  ensures_rescue before (fun _ _ events => events) fun failure _ events world => only_append events (after failure world)

end Only

def AtMost (kind : Event → Bool) (bound : Nat) (action : Action World Failure Event Result) : Prop :=
  Ensures action fun _ events => events.countP kind ≤ bound

section AtMost

variable {kind : Event → Bool} {bound more : Nat}

theorem AtMost.mono {action : Action World Failure Event Result} (few : AtMost kind bound action)
    (fewer : bound ≤ more) : AtMost kind more action :=
  few.imp fun _ _ counted => Nat.le_trans counted fewer

theorem atMost_raise (failure : Failure) : AtMost kind 0 (raise failure : Action World Failure Event Result) :=
  ensures_raise (Nat.le_refl 0)

theorem atMost_note {event : Event} (other : kind event = false) :
    AtMost kind 0 (note event : Action World Failure Event Unit) := by
  intro world
  change [event].countP kind ≤ 0
  rw [List.countP_singleton,other]
  exact Nat.le_refl 0

theorem atMost_chain {first : Action World Failure Event Result} {next : Result → Action World Failure Event Other}
    (before : AtMost kind bound first) (after : ∀ result, AtMost kind more (next result)) :
    AtMost kind (bound + more) (chain first next) := by
  refine ensures_chain before (fun _ _ counted => Nat.le_trans counted (Nat.le_add_right bound more)) ?_
  intro result events counted world
  rw [List.countP_append]
  exact Nat.add_le_add counted (after result world)

theorem atMost_rescue {first : Action World Failure Event Result} {next : Failure → Action World Failure Event Result}
    (before : AtMost kind bound first) (after : ∀ failure, AtMost kind more (next failure)) :
    AtMost kind (bound + more) (rescue first next) := by
  refine ensures_rescue before (fun _ _ counted => Nat.le_trans counted (Nat.le_add_right bound more)) ?_
  intro failure events counted world
  rw [List.countP_append]
  exact Nat.add_le_add counted (after failure world)

end AtMost

end CqrsDdd.Logged
