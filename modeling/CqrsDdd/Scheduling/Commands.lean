import CqrsDdd.Dict
import CqrsDdd.Trace
import CqrsDdd.Transition
import Mathlib.Data.List.Sort
import Mathlib.Logic.Function.Basic

/-! Scheduled commands and the workers that run them. The workers share one in-memory
scheduler; each works off a list of due commands that it has fetched, while the others,
new schedules and cancellations change the schedule between its entries. -/
namespace CqrsDdd.Scheduling

structure ScheduledEntry (Command : Type) where
  command : Command
  executeAt : Int
  deriving DecidableEq, Repr

namespace InMemoryCommandScheduler
variable {Command : Type}

/-- `_scheduled`; the ids are numbered as they are drawn. -/
abbrev Schedule (Command : Type) := Dict Nat (ScheduledEntry Command)

/-- The due entries by their time; `sort` keeps the order of those that are equal. -/
def dueEntries (scheduled : Schedule Command) (now : Int) : List (Nat × ScheduledEntry Command) :=
  (scheduled.entries.filter fun entry => entry.2.executeAt ≤ now).insertionSort fun first second =>
    first.2.executeAt ≤ second.2.executeAt

def getDueCommands (scheduled : Schedule Command) (now : Int) : List (Nat × Command) :=
  (dueEntries scheduled now).map fun entry => (entry.1,entry.2.command)

def cancel (scheduled : Schedule Command) (scheduleId : Nat) : Schedule Command × Bool :=
  if (scheduled.get scheduleId).isSome then (scheduled.erase scheduleId,true) else (scheduled,false)

def deleteExecuted (scheduled : Schedule Command) (scheduleId : Nat) : Schedule Command := scheduled.erase scheduleId

end InMemoryCommandScheduler

/-- A run of `process_due_commands`: the entry that is being dispatched, those that wait, and the commands dispatched. -/
structure Batch (Command : Type) where
  dispatching : Option Nat
  due : List (Nat × Command)
  count : Nat

def Batch.idle {Command : Type} (batch : Batch Command) : Bool := batch.dispatching.isNone && batch.due.isEmpty

inductive Record (Worker Command : Type)
  | scheduled (scheduleId : Nat) (entry : ScheduledEntry Command)
  | cancelled (scheduleId : Nat)
  | dispatched (worker : Worker) (scheduleId : Nat) (command : Command)
  | failed (worker : Worker) (scheduleId : Nat)
  deriving DecidableEq, Repr

structure Scheduler (Worker Command : Type) where
  scheduled : InMemoryCommandScheduler.Schedule Command
  next : Nat
  batch : Worker → Batch Command
  log : List (Record Worker Command)

/-- `delete` comes when the command has returned; `fail` is an error before it is sent, of it, or of its deletion. -/
inductive SchedulerEvent (Worker Command : Type)
  | schedule (command : Command) (executeAt : Int)
  | cancel (scheduleId : Nat)
  | fetch (worker : Worker) (now : Int)
  | dispatch (worker : Worker)
  | delete (worker : Worker)
  | fail (worker : Worker)
  deriving DecidableEq, Repr

namespace Scheduler
variable {Worker Command : Type} [DecidableEq Worker]

def initial : Scheduler Worker Command := ⟨Dict.empty,0,fun _ => ⟨none,[],0⟩,[]⟩

def setBatch (scheduler : Scheduler Worker Command) (worker : Worker) (batch : Batch Command) : Scheduler Worker Command :=
  {scheduler with batch := Function.update scheduler.batch worker batch}

def record (scheduler : Scheduler Worker Command) (record : Record Worker Command) : Scheduler Worker Command :=
  {scheduler with log := scheduler.log ++ [record]}

def schedule (scheduler : Scheduler Worker Command) (entry : ScheduledEntry Command) : Scheduler Worker Command :=
  {scheduler with scheduled := scheduler.scheduled.set scheduler.next entry, next := scheduler.next+1}

def step (scheduler : Scheduler Worker Command) : SchedulerEvent Worker Command → Scheduler Worker Command
  | .schedule command executeAt =>
    (scheduler.schedule ⟨command,executeAt⟩).record (.scheduled scheduler.next ⟨command,executeAt⟩)
  | .cancel scheduleId =>
    let left := InMemoryCommandScheduler.cancel scheduler.scheduled scheduleId
    if left.2 then {scheduler with scheduled := left.1}.record (.cancelled scheduleId) else scheduler
  | .fetch worker now =>
    if (scheduler.batch worker).idle then
      scheduler.setBatch worker ⟨none,InMemoryCommandScheduler.getDueCommands scheduler.scheduled now,0⟩
    else scheduler
  | .dispatch worker =>
    let batch := scheduler.batch worker
    match batch.dispatching,batch.due with
    | none,(scheduleId,command)::rest =>
      (scheduler.setBatch worker {batch with dispatching := some scheduleId, due := rest}).record
        (.dispatched worker scheduleId command)
    | _,_ => scheduler
  | .delete worker =>
    let batch := scheduler.batch worker
    match batch.dispatching with
    | some scheduleId =>
      {scheduler with scheduled := InMemoryCommandScheduler.deleteExecuted scheduler.scheduled scheduleId}.setBatch worker
        {batch with dispatching := none, count := batch.count+1}
    | none => scheduler
  | .fail worker =>
    let batch := scheduler.batch worker
    match batch.dispatching,batch.due with
    | some scheduleId,_ => (scheduler.setBatch worker {batch with dispatching := none}).record (.failed worker scheduleId)
    | none,(scheduleId,_)::rest => (scheduler.setBatch worker {batch with due := rest}).record (.failed worker scheduleId)
    | none,[] => scheduler

def reached (events : List (SchedulerEvent Worker Command)) : Scheduler Worker Command :=
  Transition.run step initial events

end Scheduler

end CqrsDdd.Scheduling
