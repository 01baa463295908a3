import CqrsDdd.Dict
import CqrsDdd.Transition
import Mathlib.Logic.Function.Basic

/-! The analytics buffer and the calls that share it. A call gives up control where it
waits for the lock, in `push_batch` and in a sleep; the sink and the cancellations of
tasks are the environment. -/
namespace CqrsDdd.Analytics

/-- What a call wants the lock for; a periodic flush is one by the task of the timer. -/
inductive Request (Row : Type)
  | add (table : String) (row : Row)
  | flushAll (periodic : Bool)
  deriving DecidableEq, Repr

/-- A `push_batch`: its rows are out of the buffer until it ends. The tables are those that `flush_all` has yet to visit. -/
structure Push (Row : Type) where
  request : Request Row
  table : String
  rows : List Row
  tables : List String
  deriving DecidableEq, Repr

inductive Activity (Call Row : Type)
  | idle
  | sleeping
  | waiting (request : Request Row)
  | pushing (push : Push Row)
  | joining (task : Call)
  deriving DecidableEq, Repr

inductive Outcome
  | returned
  | bufferFlushError (message : String)
  | cancelled
  deriving DecidableEq, Repr

structure Settings where
  batchSize : Int
  flushInterval : Int

/-- The fields of the buffer, its lock with the calls that wait for it, and what was added to it and taken from it. -/
structure AnalyticsBuffer (Call Row : Type) where
  buffers : Dict String (List Row)
  lastFlush : Int
  lock : Option Call
  waiters : List Call
  flushTask : Option Call
  running : Bool
  monotonic : Int
  activity : Call → Activity Call Row
  outcomes : List (Call × Outcome)
  added : List (String × Row)
  taken : List (String × List Row)

inductive BufferEvent (Call Row : Type)
  | add (call : Call) (table : String) (row : Row)
  | flushAll (call : Call)
  | start (task : Call)
  | stop (call : Call)
  | wake (task : Call)
  | acquire (call : Call)
  | take (call : Call)
  | raise (call : Call) (exc : String)
  | cancel (call : Call)
  | join (call : Call)
  | elapse (seconds : Nat)
  deriving DecidableEq, Repr

def Push.error {Row : Type} (push : Push Row) (exc : String) : Outcome :=
  .bufferFlushError ("Failed to flush " ++ toString push.rows.length ++ " rows to table '" ++ push.table ++ "': " ++ exc)

/-- What is next for a call that ends so; the loop of the timer ends with a cancellation, or once it is stopped. -/
def Activity.after {Call Row : Type} (running : Bool) : Request Row → Outcome → Activity Call Row
  | .flushAll true,.returned | .flushAll true,.bufferFlushError _ => if running then .sleeping else .idle
  | .flushAll true,.cancelled | .flushAll false,_ | .add _ _,_ => .idle

namespace AnalyticsBuffer
variable {Call Row : Type} [DecidableEq Call]

def initial : AnalyticsBuffer Call Row := ⟨Dict.empty,0,none,[],none,false,0,fun _ => .idle,[],[],[]⟩

def rows (buffer : AnalyticsBuffer Call Row) (table : String) : List Row := (buffer.buffers.get table).getD []

def setActivity (buffer : AnalyticsBuffer Call Row) (call : Call) (activity : Activity Call Row) : AnalyticsBuffer Call Row :=
  {buffer with activity := Function.update buffer.activity call activity}

def wait (buffer : AnalyticsBuffer Call Row) (call : Call) (request : Request Row) : AnalyticsBuffer Call Row :=
  {buffer with waiters := buffer.waiters ++ [call]}.setActivity call (.waiting request)

def leave (buffer : AnalyticsBuffer Call Row) (call : Call) (request : Request Row) (outcome : Outcome) :
    AnalyticsBuffer Call Row :=
  {buffer with lock := none, outcomes := buffer.outcomes ++ [(call,outcome)]}.setActivity call
    (.after buffer.running request outcome)

/-- `_flush_table` up to `push_batch`; its callers know that there are rows. -/
def flushTable (buffer : AnalyticsBuffer Call Row) (call : Call) (request : Request Row) (table : String)
    (tables : List String) : AnalyticsBuffer Call Row :=
  {buffer with buffers := buffer.buffers.erase table, lock := some call}.setActivity call
    (.pushing ⟨request,table,buffer.rows table,tables⟩)

/-- The loop of `flush_all` up to its next `push_batch`. -/
def flushTables (buffer : AnalyticsBuffer Call Row) (call : Call) (periodic : Bool) : List String → AnalyticsBuffer Call Row
  | [] => {buffer with lastFlush := buffer.monotonic}.leave call (.flushAll periodic) .returned
  | table::tables =>
    if (buffer.rows table).isEmpty then buffer.flushTables call periodic tables
    else buffer.flushTable call (.flushAll periodic) table tables

def appendRow (buffer : AnalyticsBuffer Call Row) (table : String) (row : Row) : AnalyticsBuffer Call Row :=
  {buffer with buffers := buffer.buffers.set table (buffer.rows table ++ [row]), added := buffer.added ++ [(table,row)]}

/-- The body of `add` under the lock. -/
def append (settings : Settings) (buffer : AnalyticsBuffer Call Row) (call : Call) (table : String) (row : Row) :
    AnalyticsBuffer Call Row :=
  let buffer := buffer.appendRow table row
  if settings.batchSize ≤ (buffer.rows table).length then buffer.flushTable call (.add table row) table []
  else buffer.leave call (.add table row) .returned

def enter (settings : Settings) (buffer : AnalyticsBuffer Call Row) (call : Call) : Request Row → AnalyticsBuffer Call Row
  | .add table row => buffer.append settings call table row
  | .flushAll periodic => buffer.flushTables call periodic buffer.buffers.keys

def sinkTakes (buffer : AnalyticsBuffer Call Row) (push : Push Row) : AnalyticsBuffer Call Row :=
  {buffer with taken := buffer.taken ++ [(push.table,push.rows)]}

/-- `push_batch` returns. -/
def pushed (buffer : AnalyticsBuffer Call Row) (call : Call) (push : Push Row) : AnalyticsBuffer Call Row :=
  match push.request with
  | .add _ _ => (buffer.sinkTakes push).leave call push.request .returned
  | .flushAll periodic => (buffer.sinkTakes push).flushTables call periodic push.tables

def prepend (buffer : AnalyticsBuffer Call Row) (push : Push Row) : AnalyticsBuffer Call Row :=
  {buffer with buffers := buffer.buffers.set push.table (push.rows ++ buffer.rows push.table)}

/-- `push_batch` raises an `Exception`, and its rows go back to the front. -/
def readd (buffer : AnalyticsBuffer Call Row) (call : Call) (push : Push Row) (exc : String) : AnalyticsBuffer Call Row :=
  (buffer.prepend push).leave call push.request (push.error exc)

/-- A cancellation reaches a call. `except Exception` does not catch that of a `push_batch`, and a stop suppresses its own. -/
def cancel (buffer : AnalyticsBuffer Call Row) (call : Call) : AnalyticsBuffer Call Row :=
  match buffer.activity call with
  | .sleeping => buffer.setActivity call .idle
  | .waiting request =>
    {buffer with waiters := buffer.waiters.erase call, outcomes := buffer.outcomes ++ [(call,Outcome.cancelled)]}.setActivity call
      (.after buffer.running request .cancelled)
  | .pushing push => buffer.leave call push.request .cancelled
  | .idle | .joining _ => buffer

def start (buffer : AnalyticsBuffer Call Row) (task : Call) : AnalyticsBuffer Call Row :=
  if buffer.running then buffer
  else {buffer with running := true, lastFlush := buffer.monotonic, flushTask := some task}.setActivity task .sleeping

/-- A stop asks for the cancellation of the task, which is an event of its own, and waits for its end. -/
def stop (buffer : AnalyticsBuffer Call Row) (call : Call) : AnalyticsBuffer Call Row :=
  let buffer := {buffer with running := false}
  match buffer.flushTask with
  | some task => buffer.setActivity call (.joining task)
  | none => buffer.wait call (.flushAll false)

def periodicFlush (settings : Settings) (buffer : AnalyticsBuffer Call Row) (task : Call) : AnalyticsBuffer Call Row :=
  if settings.flushInterval ≤ buffer.monotonic-buffer.lastFlush then buffer.wait task (.flushAll true)
  else buffer.setActivity task (if buffer.running then .sleeping else .idle)

/-- Only a call that is not in progress can begin. -/
def whenIdle (buffer : AnalyticsBuffer Call Row) (call : Call) (begun : AnalyticsBuffer Call Row) :
    AnalyticsBuffer Call Row :=
  match buffer.activity call with
  | .idle => begun
  | _ => buffer

def step (settings : Settings) (buffer : AnalyticsBuffer Call Row) : BufferEvent Call Row → AnalyticsBuffer Call Row
  | .add call table row => buffer.whenIdle call (buffer.wait call (.add table row))
  | .flushAll call => buffer.whenIdle call (buffer.wait call (.flushAll false))
  | .start task => buffer.whenIdle task (buffer.start task)
  | .stop call => buffer.whenIdle call (buffer.stop call)
  | .wake task =>
    match buffer.activity task with
    | .sleeping => buffer.periodicFlush settings task
    | _ => buffer
  | .acquire call =>
    match buffer.activity call with
    | .waiting request =>
      if buffer.lock = none ∧ buffer.waiters.head? = some call then
        {buffer with waiters := buffer.waiters.tail}.enter settings call request
      else buffer
    | _ => buffer
  | .take call =>
    match buffer.activity call with
    | .pushing push => buffer.pushed call push
    | _ => buffer
  | .raise call exc =>
    match buffer.activity call with
    | .pushing push => buffer.readd call push exc
    | _ => buffer
  | .cancel call => buffer.cancel call
  | .join call =>
    match buffer.activity call with
    | .joining task =>
      match buffer.activity task with
      | .idle => {buffer with flushTask := none}.wait call (.flushAll false)
      | _ => buffer
    | _ => buffer
  | .elapse seconds => {buffer with monotonic := buffer.monotonic+seconds}

def reached (settings : Settings) (events : List (BufferEvent Call Row)) : AnalyticsBuffer Call Row :=
  Transition.run (step settings) initial events

end AnalyticsBuffer

end CqrsDdd.Analytics
