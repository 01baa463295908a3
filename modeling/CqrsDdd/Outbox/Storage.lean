import Mathlib.Data.List.Sort

/-! The three outbox storages. The in-memory one keeps a publication time, the
SQL and the MongoDB ones a status; `created_at` is an integer at the resolution
the storages keep, and a call reads the clock once. -/
namespace CqrsDdd.Outbox

structure OutboxMessage (Payload : Type) where
  messageId : String
  eventType : String
  payload : Payload
  metadata : Payload
  createdAt : Int
  publishedAt : Option Int
  error : Option String
  retryCount : Nat
  correlationId : String
  causationId : Option String
  tenantId : Option String
  deriving DecidableEq, Repr

variable {Payload : Type}

/-- Both `list.sort` and the `ORDER BY` of the queries; the sort is stable. -/
def byCreation {Row : Type} (createdAt : Row → Int) (rows : List Row) : List Row :=
  rows.insertionSort fun first second => createdAt first ≤ createdAt second

def recordFailure (error : String) (message : OutboxMessage Payload) : OutboxMessage Payload :=
  {message with error := some error, retryCount := message.retryCount+1}

def updateOne {Row : Type} (selected : Row → Bool) (update : Row → Row) : List Row → List Row
  | [] => []
  | row::rest => if selected row then update row::rest else row::updateOne selected update rest

namespace InMemoryOutboxStorage

def saveMessages (stored messages : List (OutboxMessage Payload)) : List (OutboxMessage Payload) :=
  stored ++ messages

def getPending (stored : List (OutboxMessage Payload)) (limit : Nat) : List (OutboxMessage Payload) :=
  (byCreation (·.createdAt) (stored.filter (·.publishedAt.isNone))).take limit

def markPublished (stored : List (OutboxMessage Payload)) (now : Int) (messageIds : List String) :
    List (OutboxMessage Payload) :=
  stored.map fun message =>
    if message.messageId ∈ messageIds then {message with publishedAt := some now} else message

def markFailed (stored : List (OutboxMessage Payload)) (messageId error : String) : List (OutboxMessage Payload) :=
  updateOne (·.messageId = messageId) (recordFailure error) stored

end InMemoryOutboxStorage

inductive OutboxStatus
  | pending | published | failed
  deriving DecidableEq, Repr

structure StoredMessage (Payload : Type) where
  message : OutboxMessage Payload
  status : OutboxStatus
  deriving DecidableEq, Repr

/-- The publication time of the saved message is not stored. -/
def insertRow (message : OutboxMessage Payload) : StoredMessage Payload :=
  ⟨{message with publishedAt := none},.pending⟩

def pendingRows (rows : List (StoredMessage Payload)) : List (StoredMessage Payload) :=
  byCreation (·.message.createdAt) (rows.filter (·.status = .pending))

def failRow (error : String) (row : StoredMessage Payload) : StoredMessage Payload :=
  ⟨recordFailure error row.message,.failed⟩

namespace SQLAlchemyOutboxStorage

def saveMessages (rows : List (StoredMessage Payload)) (messages : List (OutboxMessage Payload)) :
    List (StoredMessage Payload) :=
  rows ++ messages.map insertRow

def getPending (rows : List (StoredMessage Payload)) (limit : Nat) : List (OutboxMessage Payload) :=
  ((pendingRows rows).take limit).map fun row => {row.message with publishedAt := none}

def markPublished (rows : List (StoredMessage Payload)) (messageIds : List String) : List (StoredMessage Payload) :=
  rows.map fun row => if row.message.messageId ∈ messageIds then {row with status := .published} else row

def markFailed (rows : List (StoredMessage Payload)) (messageId error : String) : List (StoredMessage Payload) :=
  rows.map fun row => if row.message.messageId = messageId then failRow error row else row

end SQLAlchemyOutboxStorage

namespace MongoOutboxStorage

/-- `insert_many` refuses an empty list and then stores nothing. -/
def saveMessages (documents : List (StoredMessage Payload)) (messages : List (OutboxMessage Payload)) :
    List (StoredMessage Payload) :=
  documents ++ messages.map insertRow

/-- A cursor with `limit(0)` has no limit. -/
def getPending (documents : List (StoredMessage Payload)) (limit : Nat) : List (OutboxMessage Payload) :=
  (if limit = 0 then pendingRows documents else (pendingRows documents).take limit).map (·.message)

def markPublished (documents : List (StoredMessage Payload)) (now : Int) (messageIds : List String) :
    List (StoredMessage Payload) :=
  if messageIds.isEmpty then documents
  else documents.map fun document =>
    if document.message.messageId ∈ messageIds then
      ⟨{document.message with publishedAt := some now},.published⟩
    else document

def markFailed (documents : List (StoredMessage Payload)) (messageId error : String) :
    List (StoredMessage Payload) :=
  updateOne (·.message.messageId = messageId) (failRow error) documents

end MongoOutboxStorage

def retryable (maxRetries : Nat) (pending : List (OutboxMessage Payload)) : List (OutboxMessage Payload) :=
  pending.filter fun message => message.error.isSome && message.retryCount < maxRetries

end CqrsDdd.Outbox
