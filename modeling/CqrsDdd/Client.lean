import Mathlib.Data.List.Basic

/-! Clients of a stateful service: a client makes calls and goes on with the replies. What
holds of every call that a client makes holds of the whole client, whichever calls these are. -/
namespace CqrsDdd

inductive Client (Call : Type) (Reply : Call → Type) (Answer : Type)
  | done (answer : Answer)
  | call (made : Call) (next : Reply made → Client Call Reply Answer)

namespace Client

variable {Call : Type} {Reply : Call → Type} {Answer Other Failure : Type} {State Image : Type*}

def bind (client : Client Call Reply Answer) (next : Answer → Client Call Reply Other) : Client Call Reply Other :=
  match client with
  | .done answer => next answer
  | .call made rest => .call made fun reply => (rest reply).bind next

instance : Monad (Client Call Reply) where
  pure := .done
  bind := bind

def request (made : Call) : Client Call Reply (Reply made) := .call made .done

abbrev Service (Call : Type) (Reply : Call → Type) (State : Type*) := (made : Call) → State → Reply made × State

def serve (service : Service Call Reply State) : Client Call Reply Answer → State → Answer × State
  | .done answer, state => (answer,state)
  | .call made next, state => serve service (next (service made state).1) (service made state).2

/-- Every call that the client makes is allowed in the state it is made in. -/
def Calls (service : Service Call Reply State) (allowed : Call → State → Prop) : Client Call Reply Answer → State → Prop
  | .done _, _ => True
  | .call made next, state =>
    allowed made state ∧ Calls service allowed (next (service made state).1) (service made state).2

theorem serve_bind (service : Service Call Reply State) (client : Client Call Reply Answer)
    (next : Answer → Client Call Reply Other) (state : State) : serve service (client >>= next) state =
      serve service (next (serve service client state).1) (serve service client state).2 := by
  induction client generalizing state with
  | done answer => exact rfl
  | call made rest ih => exact ih (service made state).1 (service made state).2

section Runs

variable {service : Service Call Reply State} {allowed other : Call → State → Prop}

theorem serve_invariant (inv : State → Prop)
    (kept : ∀ made state, inv state → allowed made state → inv (service made state).2)
    (client : Client Call Reply Answer) {state : State} (initial : inv state) (calls : client.Calls service allowed state) :
    inv (client.serve service state).2 := by
  induction client generalizing state with
  | done answer => exact initial
  | call made next ih => exact ih _ (kept made state initial calls.1) calls.2

/-- Two services that agree on the allowed calls serve a client alike. -/
theorem serve_simulates {image : Service Call Reply Image} (related : State → Image → Prop)
    (simulates : ∀ made state mirror, related state mirror → allowed made state →
      (service made state).1 = (image made mirror).1 ∧ related (service made state).2 (image made mirror).2)
    (client : Client Call Reply Answer) {state : State} {mirror : Image} (initial : related state mirror)
    (calls : client.Calls service allowed state) : (client.serve service state).1 = (client.serve image mirror).1 ∧
      related (client.serve service state).2 (client.serve image mirror).2 := by
  induction client generalizing state mirror with
  | done answer => exact ⟨rfl,initial⟩
  | call made next ih =>
    obtain ⟨same,later⟩ := simulates made state mirror initial calls.1
    have rest := ih _ later calls.2
    rw [same] at rest
    unfold serve
    rw [same]
    exact rest

theorem calls_imp (inv : State → Prop)
    (kept : ∀ made state, inv state → allowed made state → inv (service made state).2)
    (implies : ∀ made state, inv state → allowed made state → other made state) (client : Client Call Reply Answer)
    {state : State} (initial : inv state) (calls : client.Calls service allowed state) :
    client.Calls service other state := by
  induction client generalizing state with
  | done answer => trivial
  | call made next ih =>
    exact ⟨implies made state initial calls.1,ih _ (kept made state initial calls.1) calls.2⟩

theorem calls_of_forall (inv : State → Prop) (kept : ∀ made state, inv state → inv (service made state).2)
    (always : ∀ made state, inv state → allowed made state) (client : Client Call Reply Answer) {state : State}
    (initial : inv state) : client.Calls service allowed state := by
  induction client generalizing state with
  | done answer => trivial
  | call made next ih => exact ⟨always made state initial,ih _ (kept made state initial)⟩

end Runs

def caught (client : ExceptT Failure (Client Call Reply) Answer) : ExceptT Failure (Client Call Reply) Unit :=
  ExceptT.mk (client.run >>= fun _ => pure (.ok ()))

/-- From a state of `pre`, the client ends in `post` with its answer, or raises; in both cases `inv` holds. -/
def Ensures (service : Service Call Reply State) (inv pre : State → Prop)
    (client : ExceptT Failure (Client Call Reply) Answer) (post : Answer → State → Prop) : Prop :=
  ∀ state, pre state →
    inv (client.run.serve service state).2 ∧
      ∀ answer, (client.run.serve service state).1 = .ok answer → post answer (client.run.serve service state).2

namespace Ensures

variable {service : Service Call Reply State} {inv pre : State → Prop}
  {client : ExceptT Failure (Client Call Reply) Answer} {post : Answer → State → Prop}

theorem pure {answer : Answer} (holds : ∀ state, pre state → inv state ∧ post answer state) :
    Ensures service inv pre (Pure.pure answer : ExceptT Failure (Client Call Reply) Answer) post := by
  intro state met
  obtain ⟨kept,ends⟩ := holds state met
  exact ⟨kept,fun other same => Except.ok.inj same ▸ ends⟩

theorem throw {failure : Failure} (holds : ∀ state, pre state → inv state) :
    Ensures service inv pre (MonadExcept.throw failure : ExceptT Failure (Client Call Reply) Answer) post := by
  intro state met
  exact ⟨holds state met,fun answer impossible => by cases impossible⟩

theorem bind {next : Answer → ExceptT Failure (Client Call Reply) Other} {after : Other → State → Prop}
    (first : Ensures service inv pre client post)
    (rest : ∀ answer, Ensures service inv (post answer) (next answer) after) :
    Ensures service inv pre (client >>= next) after := by
  intro state met
  obtain ⟨kept,ends⟩ := first state met
  change inv (serve service (client.run >>= ExceptT.bindCont next) state).2 ∧ _
  change _ ∧ ∀ answer, (serve service (client.run >>= ExceptT.bindCont next) state).1 = _ →
    after answer (serve service (client.run >>= ExceptT.bindCont next) state).2
  rw [serve_bind]
  cases outcome : (client.run.serve service state).1 with
  | error failure => exact ⟨kept,fun answer impossible => by cases impossible⟩
  | ok answer => exact rest answer _ (ends answer outcome)

theorem caught (ensures : Ensures service inv pre client post) :
    Ensures service inv pre (Client.caught client) fun _ => inv := by
  intro state met
  obtain ⟨kept,_⟩ := ensures state met
  have ends : (Client.caught client).run.serve service state = (.ok (),(client.run.serve service state).2) :=
    serve_bind service client.run _ state
  rw [ends]
  exact ⟨kept,fun _ _ => kept⟩

/-- A loop keeps what each of its turns keeps. -/
theorem forM {Item : Type} {items : List Item} {turn : Item → ExceptT Failure (Client Call Reply) Unit}
    (met : ∀ state, pre state → inv state)
    (each : ∀ item ∈ items, Ensures service inv pre (turn item) fun _ => pre) :
    Ensures service inv pre (items.forM turn) fun _ => pre := by
  induction items with
  | nil => exact pure fun state holds => ⟨met state holds,holds⟩
  | cons item rest ih =>
    exact (each item List.mem_cons_self).bind fun _ => ih fun other member => each other (List.mem_cons_of_mem item member)

theorem weaken {stronger : State → Prop} {weaker : Answer → State → Prop} (ensures : Ensures service inv pre client post)
    (before : ∀ state, stronger state → pre state) (after : ∀ answer state, post answer state → weaker answer state) :
    Ensures service inv stronger client weaker := by
  intro state met
  obtain ⟨kept,ends⟩ := ensures state (before state met)
  exact ⟨kept,fun answer same => after answer _ (ends answer same)⟩

/-- A fact that the precondition brings may be used for the client. -/
theorem given {fact : Prop} (holds : fact → Ensures service inv pre client post) :
    Ensures service inv (fun state => fact ∧ pre state) client post :=
  fun state met => holds met.1 state met.2

end Ensures

end Client

end CqrsDdd
