import CqrsDdd.EventSourcing.Responses
import CqrsDdd.Messaging.Delivery

/-! The tracing ids of an event in the event store, in the outbox and at the handlers
inside the transaction. The middlewares have stored and queued the events of a command
before the mediator writes the ids into them, so only the handlers see these. The
handlers of one event are tasks of their own; which copies they make does not depend
on how their steps mix, and the model lists them one handler after the other. -/
namespace CqrsDdd.Events

open EventSourcing Messaging Outbox

variable {Object : Type}

structure Command where
  commandId : String
  correlationId : Option String
  deriving DecidableEq, Repr

/-- A command as a handler writes it down; without a `correlation_id` it takes the one of the context. -/
structure NewCommand where
  commandId : String
  correlationId : Option (Option String) := none

def NewCommand.create (context : Option String) (command : NewCommand) : Command :=
  ⟨command.commandId,command.correlationId.getD context⟩

mutual
/-- What a command handler does in a run. It sends commands, and goes on after each of them
whether that returned or raised; at the end it raises, or it returns a response, here with
what the handlers that are registered for each of the events do. -/
inductive CommandHandler (Object : Type)
  | raises
  | returns (entityVersion : Option Int) (correlationId causationId : Option String)
      (reactions : List (Emission Object × List (EventHandler Object)))
  | sends (command : NewCommand) (handler next : CommandHandler Object)

inductive EventHandler (Object : Type)
  | raises
  | returns
  | sends (command : NewCommand) (handler : CommandHandler Object) (next : EventHandler Object)
end

def EventHandler.fails : EventHandler Object → Bool
  | .raises => true
  | .returns => false
  | .sends _ _ next => next.fails

/-- A copy of an event in one of the sinks, with the id of the command that produced the event. -/
inductive Copy (Object : Type)
  | stored (producer : String) (event : StoredEvent Object)
  | queued (producer : String) (message : OutboxMessage (Payload Object))
  | handled (producer : String) (event : DomainEvent Object)

inductive Middleware
  | eventStorePersistence | outbox
  deriving DecidableEq, Repr

def truthy (id : Option String) : Option String := id.filter (· ≠ "")

def enrichEventMetadata (event : DomainEvent Object) (correlationId causationId : Option String) :
    DomainEvent Object :=
  { event with
    correlationId := if (truthy correlationId).isSome && (truthy event.correlationId).isNone then correlationId
      else event.correlationId
    causationId := if (truthy causationId).isSome && (truthy event.causationId).isNone then causationId
      else event.causationId }

namespace Mediator

def propagateIds (command : Command) (response : CommandResponse Object) : CommandResponse Object :=
  { response with
    correlationId := (truthy response.correlationId).or command.correlationId
    causationId := (truthy response.causationId).or (truthy (some command.commandId)) }

def middlewareCall (producer : String) (response : CommandResponse Object) (emissions : List (Emission Object)) :
    Middleware → List (Copy Object)
  | .eventStorePersistence => (EventStorePersistenceMiddleware.stored response).map (.stored producer)
  | .outbox => emissions.map fun emission => .queued producer emission.message

/-- The innermost middleware is the first to see the response. -/
def pipeline (middlewares : List Middleware) (producer : String) (response : CommandResponse Object)
    (emissions : List (Emission Object)) : List (Copy Object) :=
  middlewares.reverse.flatMap (middlewareCall producer response emissions)

mutual
/-- The copies that `_dispatch_command` makes with a handler, in order. -/
def dispatchCommand (middlewares : List Middleware) (context : Option String) (command : Command) :
    CommandHandler Object → List (Copy Object)
  | .raises => []
  | .returns entityVersion correlationId causationId reactions =>
    let response : CommandResponse Object :=
      ⟨entityVersion,reactions.map (·.1.event),correlationId,causationId⟩
    pipeline middlewares command.commandId response (reactions.map (·.1)) ++
      dispatch middlewares context command.commandId (propagateIds command response) reactions
  | .sends nested handler next =>
    dispatchCommand middlewares context (nested.create context) handler ++
      dispatchCommand middlewares context command next

/-- The events behind one with a handler that raises are not dispatched. -/
def dispatch (middlewares : List Middleware) (context : Option String) (producer : String)
    (result : CommandResponse Object) : List (Emission Object × List (EventHandler Object)) → List (Copy Object)
  | [] => []
  | (emission,handlers)::rest =>
    let event := enrichEventMetadata emission.event result.correlationId result.causationId
    gather middlewares context producer event handlers ++
      if handlers.any EventHandler.fails then [] else dispatch middlewares context producer result rest

def gather (middlewares : List Middleware) (context : Option String) (producer : String)
    (event : DomainEvent Object) : List (EventHandler Object) → List (Copy Object)
  | [] => []
  | handler::rest =>
    .handled producer event::handle middlewares context handler ++ gather middlewares context producer event rest

def handle (middlewares : List Middleware) (context : Option String) : EventHandler Object → List (Copy Object)
  | .raises => []
  | .returns => []
  | .sends nested handler next =>
    dispatchCommand middlewares context (nested.create context) handler ++ handle middlewares context next
end

/-- The correlation id of a root command: its own, else that of the context, else a new one. -/
def rootCorrelation (generated : String) (context : Option String) (command : Command) : String :=
  ((truthy command.correlationId).or (truthy context)).getD generated

def send (middlewares : List Middleware) (generated : String) (context : Option String) (command : Command)
    (handler : CommandHandler Object) : List (Copy Object) :=
  let correlationId := rootCorrelation generated context command
  dispatchCommand middlewares (some correlationId) {command with correlationId := some correlationId} handler

end Mediator

mutual
def CommandHandler.emitted (producer : String) : CommandHandler Object → List (String × DomainEvent Object)
  | .raises => []
  | .returns _ _ _ reactions => reactions.map (fun reaction => (producer,reaction.1.event)) ++ reacted reactions
  | .sends nested handler next => handler.emitted nested.commandId ++ next.emitted producer

def reacted : List (Emission Object × List (EventHandler Object)) → List (String × DomainEvent Object)
  | [] => []
  | (_,handlers)::rest => gathered handlers ++ if handlers.any EventHandler.fails then [] else reacted rest

def gathered : List (EventHandler Object) → List (String × DomainEvent Object)
  | [] => []
  | handler::rest => handler.emitted ++ gathered rest

def EventHandler.emitted : EventHandler Object → List (String × DomainEvent Object)
  | .raises => []
  | .returns => []
  | .sends nested handler next => handler.emitted nested.commandId ++ next.emitted
end

def Copy.Traced (correlationId : String) : Copy Object → Prop
  | .stored producer event => event.correlationId = some correlationId ∧ event.causationId = some producer
  | .queued producer message => message.correlationId = correlationId ∧ message.causationId = some producer
  | .handled producer event => event.correlationId = some correlationId ∧ event.causationId = some producer

/-- The event brought the ids along; an empty one counts as none. -/
def Marked (correlationId : String) (emission : String × DomainEvent Object) : Prop :=
  emission.2.correlationId = some correlationId ∧ emission.2.causationId = some emission.1 ∧ emission.1 ≠ ""

/-- Every copy has the correlation id of the root command and the id of its own command. -/
def SinksAgree (middlewares : List Middleware) (generated : String) (context : Option String) (command : Command)
    (handler : CommandHandler Object) : Prop :=
  ∀ copy ∈ Mediator.send middlewares generated context command handler,
    copy.Traced (Mediator.rootCorrelation generated context command)

theorem truthy_eq_some {id : Option String} {content : String} :
    truthy id = some content ↔ id = some content ∧ content ≠ "" := by
  simp [truthy,Option.filter_eq_some_iff]

theorem stored_traced {correlationId producer : String} {response : CommandResponse Object}
    (marked : ∀ event ∈ response.events, Marked correlationId (producer,event)) :
    ∀ stored ∈ EventStorePersistenceMiddleware.stored response,
      (Copy.stored producer stored).Traced correlationId := by
  intro stored member
  obtain ⟨position,bound,rfl⟩ := List.mem_mapIdx.mp member
  obtain ⟨correlation,causation,_⟩ := marked _ (List.getElem_mem bound)
  exact ⟨correlation,causation⟩

theorem queued_traced_iff {correlationId : String} (nonempty : correlationId ≠ "") (producer : String)
    (emission : Emission Object) : (Copy.queued producer emission.message).Traced correlationId ↔
      Marked correlationId (producer,emission.event) := by
  have correlation : (truthy emission.event.correlationId).getD "" = correlationId ↔
      emission.event.correlationId = some correlationId := by
    constructor
    · intro same
      cases carried : truthy emission.event.correlationId with
      | none =>
        rw [carried] at same
        exact absurd same.symm nonempty
      | some content =>
        rw [carried] at same
        rw [(truthy_eq_some.mp carried).1]
        exact congrArg some same
    · intro same
      rw [truthy_eq_some.mpr ⟨same,nonempty⟩]
      rfl
  exact and_congr correlation truthy_eq_some

theorem enriched_traced {correlationId producer : String} (nonempty : correlationId ≠ "") {event : DomainEvent Object}
    (marked : Marked correlationId (producer,event)) (correlation causation : Option String) :
    (Copy.handled producer (enrichEventMetadata event correlation causation)).Traced correlationId := by
  obtain ⟨sameCorrelation,sameCausation,named⟩ := marked
  have keepsCorrelation := truthy_eq_some.mpr ⟨sameCorrelation,nonempty⟩
  have keepsCausation := truthy_eq_some.mpr ⟨sameCausation,named⟩
  simp only [Copy.Traced,enrichEventMetadata,keepsCorrelation,keepsCausation,Option.isNone_some,Bool.and_false,
    Bool.false_eq_true,if_false]
  exact ⟨sameCorrelation,sameCausation⟩

theorem pipeline_traced_iff {correlationId : String} (nonempty : correlationId ≠ "") {middlewares : List Middleware}
    (installed : .outbox ∈ middlewares) (producer : String) (response : CommandResponse Object)
    (emissions : List (Emission Object)) (events : response.events = emissions.map (·.event)) :
    (∀ copy ∈ Mediator.pipeline middlewares producer response emissions, copy.Traced correlationId) ↔
      ∀ emission ∈ emissions, Marked correlationId (producer,emission.event) := by
  constructor
  · intro traced emission member
    refine (queued_traced_iff nonempty producer emission).mp (traced _ (List.mem_flatMap.mpr ?_))
    exact ⟨.outbox,List.mem_reverse.mpr installed,List.mem_map_of_mem member⟩
  · intro marked copy member
    obtain ⟨middleware,_,made⟩ := List.mem_flatMap.mp member
    cases middleware with
    | eventStorePersistence =>
      obtain ⟨stored,inside,rfl⟩ := List.mem_map.mp made
      refine stored_traced (fun event carried => ?_) stored inside
      rw [events] at carried
      obtain ⟨emission,old,rfl⟩ := List.mem_map.mp carried
      exact marked emission old
    | outbox =>
      obtain ⟨emission,inside,rfl⟩ := List.mem_map.mp made
      exact (queued_traced_iff nonempty producer emission).mpr (marked emission inside)

section Tree
variable {correlationId : String} {middlewares : List Middleware}

mutual
theorem dispatchCommand_traced_iff (nonempty : correlationId ≠ "") (installed : .outbox ∈ middlewares)
    (context : Option String) (command : Command) : ∀ handler : CommandHandler Object,
    (∀ copy ∈ Mediator.dispatchCommand middlewares context command handler, copy.Traced correlationId) ↔
      ∀ emission ∈ handler.emitted command.commandId, Marked correlationId emission
  | .raises => by simp [Mediator.dispatchCommand,CommandHandler.emitted]
  | .returns entityVersion correlation causation reactions => by
    simp only [Mediator.dispatchCommand,CommandHandler.emitted,List.forall_mem_append]
    rw [pipeline_traced_iff nonempty installed _ _ _ (by simp)]
    simp only [List.forall_mem_map]
    exact and_congr_right (dispatch_traced_iff nonempty installed context command.commandId _ reactions)
  | .sends nested handler next => by
    simp only [Mediator.dispatchCommand,CommandHandler.emitted,List.forall_mem_append]
    exact and_congr (dispatchCommand_traced_iff nonempty installed context (nested.create context) handler)
      (dispatchCommand_traced_iff nonempty installed context command next)

theorem dispatch_traced_iff (nonempty : correlationId ≠ "") (installed : .outbox ∈ middlewares)
    (context : Option String) (producer : String) (result : CommandResponse Object) :
    ∀ reactions : List (Emission Object × List (EventHandler Object)),
      (∀ reaction ∈ reactions, Marked correlationId (producer,reaction.1.event)) →
      ((∀ copy ∈ Mediator.dispatch middlewares context producer result reactions, copy.Traced correlationId) ↔
        ∀ emission ∈ reacted reactions, Marked correlationId emission)
  | [], _ => by simp [Mediator.dispatch,reacted]
  | (emission,handlers)::rest, marked => by
    obtain ⟨first,others⟩ := List.forall_mem_cons.mp marked
    simp only [Mediator.dispatch,reacted,List.forall_mem_append]
    refine and_congr
      (gather_traced_iff nonempty installed context producer _ (enriched_traced nonempty first _ _) handlers) ?_
    split
    next => simp
    next => exact dispatch_traced_iff nonempty installed context producer result rest others

theorem gather_traced_iff (nonempty : correlationId ≠ "") (installed : .outbox ∈ middlewares)
    (context : Option String) (producer : String) (event : DomainEvent Object)
    (traced : (Copy.handled producer event).Traced correlationId) : ∀ handlers : List (EventHandler Object),
    (∀ copy ∈ Mediator.gather middlewares context producer event handlers, copy.Traced correlationId) ↔
      ∀ emission ∈ gathered handlers, Marked correlationId emission
  | [] => by simp [Mediator.gather,gathered]
  | handler::rest => by
    simp only [Mediator.gather,gathered,List.cons_append,List.forall_mem_cons,List.forall_mem_append]
    rw [and_iff_right traced]
    exact and_congr (handle_traced_iff nonempty installed context handler)
      (gather_traced_iff nonempty installed context producer event traced rest)

theorem handle_traced_iff (nonempty : correlationId ≠ "") (installed : .outbox ∈ middlewares)
    (context : Option String) : ∀ handler : EventHandler Object,
    (∀ copy ∈ Mediator.handle middlewares context handler, copy.Traced correlationId) ↔
      ∀ emission ∈ handler.emitted, Marked correlationId emission
  | .raises => by simp [Mediator.handle,EventHandler.emitted]
  | .returns => by simp [Mediator.handle,EventHandler.emitted]
  | .sends nested handler next => by
    simp only [Mediator.handle,EventHandler.emitted,List.forall_mem_append]
    exact and_congr (dispatchCommand_traced_iff nonempty installed context (nested.create context) handler)
      (handle_traced_iff nonempty installed context next)
end

end Tree

theorem rootCorrelation_nonempty {generated : String} (fresh : generated ≠ "") (context : Option String)
    (command : Command) : Mediator.rootCorrelation generated context command ≠ "" := by
  unfold Mediator.rootCorrelation
  cases own : truthy command.correlationId with
  | some content => exact (truthy_eq_some.mp own).2
  | none =>
    cases outer : truthy context with
    | some content => exact (truthy_eq_some.mp outer).2
    | none => exact fresh

/-- The sinks agree if and only if every event that a command handler returns brings the ids
along; so events without ids of their own agree only when there are none. -/
theorem sinks_agree_iff {middlewares : List Middleware} (installed : .outbox ∈ middlewares) {generated : String}
    (fresh : generated ≠ "") (context : Option String) (command : Command) (handler : CommandHandler Object) :
    (SinksAgree middlewares generated context command handler ↔ ∀ emission ∈ handler.emitted command.commandId,
        Marked (Mediator.rootCorrelation generated context command) emission) ∧
      ((∀ emission ∈ handler.emitted command.commandId,
          emission.2.correlationId = none ∧ emission.2.causationId = none) →
        (SinksAgree middlewares generated context command handler ↔ handler.emitted command.commandId = [])) := by
  have agree : SinksAgree middlewares generated context command handler ↔
      ∀ emission ∈ handler.emitted command.commandId,
        Marked (Mediator.rootCorrelation generated context command) emission :=
    dispatchCommand_traced_iff (rootCorrelation_nonempty fresh context command) installed _ _ handler
  refine ⟨agree,fun bare => agree.trans ⟨fun marked => ?_,fun none => by simp [none]⟩⟩
  refine List.eq_nil_iff_forall_not_mem.mpr fun emission member => ?_
  have carried := (marked emission member).1
  rw [(bare emission member).1] at carried
  cases carried

/-- An order is placed and, by a command of its own, invoiced; each command returns one event with one handler. -/
def placeOrder (event : String → DomainEvent Unit) : CommandHandler Unit :=
  .sends ⟨"command-2",none⟩ (.returns none none none [(⟨event "command-2","message-1",0⟩,[.returns])])
    (.returns none none none [(⟨event "command-1","message-2",0⟩,[.returns])])

def markedEvent (producer : String) : DomainEvent Unit :=
  {EventSourcedLoader.orderEvent "OrderPlaced" with correlationId := some "request-1", causationId := some producer}

theorem marked_sinks_agree : Middleware.outbox ∈ [Middleware.eventStorePersistence,.outbox] ∧ "generated" ≠ "" ∧
    SinksAgree [.eventStorePersistence,.outbox] "generated" (some "request-1") ⟨"command-1",none⟩
      (placeOrder markedEvent) := by
  refine ⟨by decide,by decide,(sinks_agree_iff (by decide) (by decide) _ _ _).1.mpr fun emission member => ?_⟩
  have cases : emission ∈ [("command-2",markedEvent "command-2"),("command-1",markedEvent "command-1")] := member
  simp only [List.mem_cons,List.not_mem_nil,or_false] at cases
  rcases cases with rfl | rfl
  · exact ⟨rfl,rfl,by decide⟩
  · exact ⟨rfl,rfl,by decide⟩

theorem stored_without_ids : ¬ ∀ (middlewares : List Middleware) (generated : String) (context : Option String)
    (command : Command) (handler : CommandHandler Unit),
    middlewares.Perm [.eventStorePersistence,.outbox] → generated ≠ "" →
    (∀ emission ∈ handler.emitted command.commandId,
      emission.2.correlationId = none ∧ emission.2.causationId = none) →
    SinksAgree middlewares generated context command handler := by
  intro claimed
  have agree := claimed [.eventStorePersistence,.outbox] "generated" none ⟨"command-1",some "request-1"⟩
    (placeOrder fun _ => EventSourcedLoader.orderEvent "OrderPlaced") (.refl _) (by decide) (by
      intro emission member
      rcases List.mem_cons.mp member with rfl | later
      · exact ⟨rfl,rfl⟩
      · obtain rfl := List.mem_singleton.mp later
        exact ⟨rfl,rfl⟩)
  -- the second copy is the one in the event store
  have stored := agree _ (List.mem_cons_of_mem _ (List.mem_cons_self ..))
  cases stored.1

end CqrsDdd.Events
