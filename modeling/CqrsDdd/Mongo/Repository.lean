import CqrsDdd.Projections.Stores

/-! Aggregates in a MongoDB collection and the clients that load, change and add them. An
add is up to three operations of the database, each of which is atomic; between them
other clients take their steps. The field `version` of a document is not the private
attribute `_version` of the aggregate. -/
namespace CqrsDdd.Mongo

open Messaging (Value)
open Projections

variable {Client Object : Type}

/-- What `model_dump` gives, besides the id; neither name can be one of its fields. -/
abbrev Attributes (Object : Type) :=
  {fields : Record Object // fields.get "version" = none ∧ fields.get "_version" = none}

structure AggregateRoot (Object : Type) where
  id : String
  attributes : Attributes Object
  version : Value Object

/-- The fields that validation reads from keyword arguments. -/
structure ModelClass (Object : Type) where
  validate : Record Object → Except String (Attributes Object)

def AggregateRoot.init (cls : ModelClass Object) (id : String) (data : Record Object) :
    Except String (AggregateRoot Object) := do
  let attributes ← cls.validate data
  return ⟨id,attributes,(data.get "_version").getD (.number 0)⟩

/-- The document without its `_id`. -/
def toDoc (entity : AggregateRoot Object) : Record Object := entity.attributes.val

/-- Keys that name no field are passed on to the constructor with the others. -/
def fromDoc (cls : ModelClass Object) (id : String) (doc : Record Object) : Except String (AggregateRoot Object) :=
  AggregateRoot.init cls id doc

inductive Answer
  | saved
  | optimisticConcurrencyError
  | duplicateKeyError
  | writeError
  deriving DecidableEq, Repr

/-- Where the client is in `add`: before it, or after an update that matched no document and a search that found none. -/
inductive Stage
  | ready
  | unmatched
  | absent
  deriving DecidableEq, Repr

/-- An entity in a client's hands. It does not keep the version that was stored when it was loaded or
saved, nor how many saves there had been. -/
structure Loaded (Object : Type) where
  entity : AggregateRoot Object
  stage : Stage
  storedVersion : Option Int
  mark : Nat

structure Outcome (Object : Type) where
  answer : Answer
  overtaken : Bool
  before : Option (Record Object)
  after : Option (Record Object)

structure World (Client Object : Type) where
  collection : Dict String (Record Object)
  clients : Client → Option (Loaded Object)
  saves : List String
  outcomes : List (Outcome Object)

inductive Step (Client Object : Type)
  /-- `get`, and where it finds nothing a new entity of the id. -/
  | load (client : Client) (id : String) (data : Record Object)
  | modify (client : Client) (attributes : Attributes Object)
  | updateOne (client : Client)
  | findOne (client : Client)
  | insertOne (client : Client)

/-- The version of a document; one that is not there counts as zero. -/
def versionOf : Option (Record Object) → Option Int
  | none => some 0
  | some doc =>
    match doc.get "version" with
    | some (.number version) => some version
    | _ => none

def Loaded.overtaken (loaded : Loaded Object) (saves : List String) : Bool :=
  decide (loaded.entity.id ∈ saves.drop loaded.mark)

/-- The condition `{"version": expected}`. -/
def matchesVersion [DecidableEq Object] (expected : Value Object) (doc : Record Object) : Bool :=
  match doc.get "version" with
  | some version => decide (version = expected)
  | none => decide (expected = .null)

/-- `{"$inc": {"version": 1}}` of what `$set` left. -/
def incremented (doc : Record Object) : Option (Record Object) :=
  match doc.get "version" with
  | none => some (doc.set "version" (.number 1))
  | some (.number version) => some (doc.set "version" (.number (version + 1)))
  | some _ => none

namespace World

variable [DecidableEq Client] [DecidableEq Object]

def hold (world : World Client Object) (client : Client) (loaded : Option (Loaded Object)) : World Client Object :=
  {world with clients := Function.update world.clients client loaded}

def load (cls : ModelClass Object) (world : World Client Object) (client : Client) (id : String)
    (data : Record Object) : World Client Object :=
  let entity := match world.collection.get id with
    | some doc => fromDoc cls id doc
    | none => AggregateRoot.init cls id data
  world.hold client (entity.toOption.map fun entity =>
    ⟨entity,.ready,versionOf (world.collection.get id),world.saves.length⟩)

def saved (world : World Client Object) (client : Client) (loaded : Loaded Object) (doc : Record Object) :
    World Client Object where
  collection := world.collection.set loaded.entity.id doc
  clients := Function.update world.clients client
    (some {loaded with stage := .ready, storedVersion := versionOf (some doc), mark := world.saves.length + 1})
  saves := world.saves ++ [loaded.entity.id]
  outcomes := world.outcomes ++
    [⟨.saved,loaded.overtaken world.saves,world.collection.get loaded.entity.id,some doc⟩]

def failed (world : World Client Object) (client : Client) (loaded : Loaded Object) (answer : Answer) :
    World Client Object where
  collection := world.collection
  clients := Function.update world.clients client (some {loaded with stage := .ready})
  saves := world.saves
  outcomes := world.outcomes ++
    [⟨answer,loaded.overtaken world.saves,world.collection.get loaded.entity.id,
      world.collection.get loaded.entity.id⟩]

def updateOne (world : World Client Object) (client : Client) (loaded : Loaded Object) : World Client Object :=
  match (world.collection.get loaded.entity.id).filter (matchesVersion loaded.entity.version) with
  | some doc =>
    match incremented (doc.update (toDoc loaded.entity)) with
    | some replaced => world.saved client loaded replaced
    | none => world.failed client loaded .writeError
  | none => world.hold client (some {loaded with stage := .unmatched})

def findOne (world : World Client Object) (client : Client) (loaded : Loaded Object) : World Client Object :=
  match world.collection.get loaded.entity.id with
  | some _ => world.failed client loaded .optimisticConcurrencyError
  | none => world.hold client (some {loaded with stage := .absent})

def insertOne (world : World Client Object) (client : Client) (loaded : Loaded Object) : World Client Object :=
  match world.collection.get loaded.entity.id with
  | some _ => world.failed client loaded .duplicateKeyError
  | none => world.saved client loaded ((toDoc loaded.entity).set "version" (.number 1))

/-- A client that is not at the stage does nothing. -/
def atStage (world : World Client Object) (client : Client) (stage : Stage) (act : Loaded Object → World Client Object) :
    World Client Object :=
  match world.clients client with
  | some loaded => if loaded.stage = stage then act loaded else world
  | none => world

def step (cls : ModelClass Object) (world : World Client Object) : Step Client Object → World Client Object
  | .load client id data =>
    if (world.clients client).all fun loaded => loaded.stage = .ready then world.load cls client id data else world
  | .modify client attributes => world.atStage client .ready fun loaded =>
    world.hold client (some {loaded with entity := {loaded.entity with attributes}})
  | .updateOne client => world.atStage client .ready (world.updateOne client)
  | .findOne client => world.atStage client .unmatched (world.findOne client)
  | .insertOne client => world.atStage client .absent (world.insertOne client)

def initial (collection : Dict String (Record Object)) : World Client Object := ⟨collection,fun _ => none,[],[]⟩

end World
end CqrsDdd.Mongo
