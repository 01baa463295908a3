import CqrsDdd.Caching.ReadThrough
import CqrsDdd.Transition
import Mathlib.Logic.Function.Basic

/-! The caching decorator over a persistence dispatcher, between writers whose units of work
commit later and readers that fill the cache. Each operation on the database or on
the cache is a step of its own. An operation on the cache may fail, which is logged. -/
namespace CqrsDdd.Caching.CachingPersistenceDispatcher

abbrev EntityName := {name : String // ':' ∉ name.toList}

structure Entity (Id Data : Type) where
  type : EntityName
  id : Id
  data : Data

variable {Id Data Uow Writer Reader : Type}

def Entity.key (entity : Entity Id Data) : EntityName × Id := (entity.type,entity.id)

/-- What `str` and `bool` make of an id; two ids of one type have different texts. -/
structure IdType (Id : Type) where
  str : Id → String
  bool : Id → Bool
  str_injective : Function.Injective str

def cacheKey (ids : IdType Id) (key : EntityName × Id) : String := key.1.val ++ ":" ++ ids.str key.2

def queryKey (ids : IdType Id) (key : EntityName × Id) : String := key.1.val ++ ":query:" ++ ids.str key.2

/-- Where a reader is in `fetch_domain`. -/
inductive Reading (Id Data Uow : Type)
  | idle
  | missing (type : EntityName) (uow : Option Uow) (specification : Entity Id Data → Bool)
      (results : List (Entity Id Data)) (missingIds : List Id)
  | fetched (type : EntityName) (results freshResults : List (Entity Id Data))
  | returned (entities : List (Entity Id Data))

def Reading.underWay : Reading Id Data Uow → Bool
  | .missing .. | .fetched .. => true
  | _ => false

structure World (Id Data Uow Writer Reader : Type) [DecidableEq Id] where
  committed : Dict (EntityName × Id) (Entity Id Data)
  pending : List (Uow × Entity Id Data)
  applying : Writer → Option (Entity Id Data)
  cache : Dict String (Entity Id Data)
  readers : Reader → Reading Id Data Uow

inductive Step (Id Data Uow Writer Reader : Type)
  | persist (writer : Writer) (uow : Uow) (entity : Entity Id Data)
  | invalidate (writer : Writer) (works : Bool)
  | commit (uow : Uow)
  | lookUp (reader : Reader) (type : EntityName) (ids : List Id) (uow : Option Uow)
      (specification : Entity Id Data → Bool) (works : Bool)
  | fetch (reader : Reader)
  | update (reader : Reader) (works : Bool)
  /-- The time to live of an entry is over. -/
  | expire (key : String)

def collectMissingIds : List (Id × Option (Entity Id Data)) → List (Entity Id Data) × List Id
  | [] => ([],[])
  | (_,some value)::rest => (value::(collectMissingIds rest).1,(collectMissingIds rest).2)
  | (id,none)::rest => ((collectMissingIds rest).1,id::(collectMissingIds rest).2)

namespace World

variable [DecidableEq Id] [DecidableEq Uow] [DecidableEq Writer] [DecidableEq Reader]

/-- The state of an aggregate that a unit of work sees: what it wrote last, or else what is committed. -/
def visible (world : World Id Data Uow Writer Reader) (uow : Option Uow) (key : EntityName × Id) :
    Option (Entity Id Data) :=
  ((world.pending.reverse.find? fun entry => decide (some entry.1 = uow ∧ entry.2.key = key)).map Prod.snd).or
    (world.committed.get key)

/-- The inner dispatcher hands the entity to its handler, and the handler returns the entity's id. -/
def persist (world : World Id Data Uow Writer Reader) (writer : Writer) (uow : Uow) (entity : Entity Id Data) :
    World Id Data Uow Writer Reader :=
  {world with
    pending := world.pending ++ [(uow,entity)]
    applying := Function.update world.applying writer (some entity)}

def invalidate (ids : IdType Id) (world : World Id Data Uow Writer Reader) (writer : Writer) (entity : Entity Id Data)
    (works : Bool) : World Id Data Uow Writer Reader :=
  {world with
    applying := Function.update world.applying writer none
    cache := if works then (world.cache.erase (cacheKey ids entity.key)).erase (queryKey ids entity.key)
      else world.cache}

def commit (world : World Id Data Uow Writer Reader) (uow : Uow) : World Id Data Uow Writer Reader :=
  {world with
    committed := setAll Entity.key ((world.pending.filter fun entry => entry.1 = uow).map Prod.snd) world.committed
    pending := world.pending.filter fun entry => entry.1 ≠ uow}

def reads (world : World Id Data Uow Writer Reader) (reader : Reader) (reading : Reading Id Data Uow) :
    World Id Data Uow Writer Reader :=
  {world with readers := Function.update world.readers reader reading}

def getCachedValues (ids : IdType Id) (world : World Id Data Uow Writer Reader) (type : EntityName)
    (asked : List Id) (works : Bool) : List (Option (Entity Id Data)) :=
  asked.map fun id => if works then world.cache.get (cacheKey ids (type,id)) else none

def lookUp (ids : IdType Id) (world : World Id Data Uow Writer Reader) (reader : Reader) (type : EntityName)
    (asked : List Id) (uow : Option Uow) (specification : Entity Id Data → Bool) (works : Bool) :
    World Id Data Uow Writer Reader :=
  let cachedValues := world.getCachedValues ids type asked works
  let collected := collectMissingIds (asked.zip cachedValues)
  if collected.2.isEmpty then world.reads reader (.returned (cachedValues.filterMap id))
  else world.reads reader (.missing type uow specification collected.1 collected.2)

def fetch (world : World Id Data Uow Writer Reader) (reader : Reader) : World Id Data Uow Writer Reader :=
  match world.readers reader with
  | .missing type uow specification results missingIds =>
    let fresh := missingIds.filterMap fun id => (world.visible uow (type,id)).filter specification
    world.reads reader (.fetched type results fresh)
  | _ => world

/-- The fresh results that are cached; an id such as zero or the empty text is taken for none. -/
def cacheable (ids : IdType Id) (freshResults : List (Entity Id Data)) : List (Entity Id Data) :=
  freshResults.filter fun entity => ids.bool entity.id

def update (ids : IdType Id) (world : World Id Data Uow Writer Reader) (reader : Reader) (works : Bool) :
    World Id Data Uow Writer Reader :=
  match world.readers reader with
  | .fetched type results fresh =>
    {world.reads reader (.returned (results ++ fresh)) with
      cache := if works then
          setAll (fun entity => cacheKey ids (type,entity.id)) (cacheable ids fresh) world.cache
        else world.cache}
  | _ => world

/-- A writer or reader begins a call only when it is not in one. -/
def step (ids : IdType Id) (world : World Id Data Uow Writer Reader) :
    Step Id Data Uow Writer Reader → World Id Data Uow Writer Reader
  | .persist writer uow entity =>
    match world.applying writer with
    | none => world.persist writer uow entity
    | some _ => world
  | .invalidate writer works =>
    match world.applying writer with
    | some entity => world.invalidate ids writer entity works
    | none => world
  | .commit uow => world.commit uow
  | .lookUp reader type asked uow specification works =>
    if (world.readers reader).underWay then world
    else world.lookUp ids reader type asked uow specification works
  | .fetch reader => world.fetch reader
  | .update reader works => world.update ids reader works
  | .expire key => {world with cache := world.cache.erase key}

def initial (committed : Dict (EntityName × Id) (Entity Id Data)) : World Id Data Uow Writer Reader :=
  ⟨committed,[],fun _ => none,Dict.empty,fun _ => .idle⟩

end World
end CqrsDdd.Caching.CachingPersistenceDispatcher
