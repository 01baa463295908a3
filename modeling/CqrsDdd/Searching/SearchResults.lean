import CqrsDdd.Attempts
import CqrsDdd.Generator

/-! The searches that answer with a `SearchResult`, which is awaited for a list or consumed as a
stream. Each writes the two accesses separately; a specification is told from query
options by the attribute `specification`, which a negation has too. -/
namespace CqrsDdd.Searching

open Generator

inductive Failure
  | attributeError | typeError | valueError
  deriving DecidableEq, Repr

structure QueryOptions (Spec : Type) where
  specification : Option Spec
  limit : Option Nat
  offset : Option Nat
  orderBy : List String
  distinct : Bool
  groupBy : List String
  selectFields : List String

inductive Criteria (Spec : Type)
  | specification (spec : Spec)
  | options (options : QueryOptions Spec)

/-- `specification` is the attribute of that name, the negated specification of a `NotSpecification`. -/
structure Specifications (Spec Entity : Type) where
  isSatisfiedBy : Spec → Entity → Except Failure Bool
  specification : Spec → Option Spec

/-- The stream is given the batch size, and fuel. -/
structure SearchResult (Item : Type) where
  list : Except Failure (List Item)
  stream : Option Nat → Nat → Option (List Item × Ending)

/-- `batch_size or default`. -/
def batchOr (batchSize : Option Nat) (default : Nat) : Nat :=
  match batchSize with
  | some (size + 1) => size + 1
  | _ => default

variable {Spec Entity : Type}

namespace InMemoryRepository

/-- What is given need not be a specification, but is asked for `is_satisfied_by`. -/
def listFn {Criteria Failure : Type} (isSatisfiedBy : Criteria → Entity → Except Failure Bool) (store : List Entity)
    (specification : Criteria) : Except Failure (List Entity) :=
  Attempts.select (isSatisfiedBy specification) store

/-- Query options have no `is_satisfied_by`. -/
def isSatisfiedBy (specs : Specifications Spec Entity) (specification : Criteria Spec) (entity : Entity) :
    Except Failure Bool :=
  match specification with
  | .specification spec => specs.isSatisfiedBy spec entity
  | .options _ => .error .attributeError

/-- The loop over `range(0, len(items), batch)`. -/
def batches (items : List Entity) (batch index : Nat) : Turn Nat Entity :=
  if items.length ≤ index then .stop [] else .next ((items.drop index).take batch) (index + batch)

def streamFn (specs : Specifications Spec Entity) (store : List Entity) (specification : Criteria Spec)
    (batchSize : Option Nat) (fuel : Nat) : Option (List Entity × Ending) :=
  match listFn (isSatisfiedBy specs) store specification with
  | .error _ => some ([],.raised)
  | .ok items => run (batches items (batchOr batchSize (max items.length 1))) fuel 0

def search (specs : Specifications Spec Entity) (store : List Entity) (specification : Criteria Spec) :
    SearchResult Entity :=
  ⟨listFn (isSatisfiedBy specs) store specification,streamFn specs store specification⟩

end InMemoryRepository

namespace SQLAlchemyRepository

/-- What the statement is made of. -/
structure Query (Spec Clause : Type) where
  clause : Option Clause
  options : Option (QueryOptions Spec)

/-- The compiler for the clauses of the table, the models that a statement selects, in its order, and the aggregates that
are made of them. -/
structure Table (Spec Clause Model Entity : Type) where
  buildSqlaFilter : Spec → Except Failure Clause
  execute : Query Spec Clause → Except Failure (List Model)
  fromModel : Model → Entity

variable {Clause Model : Type}

/-- The options of a negation are the negation itself, which has none that are applied. -/
def normaliseCriteria (specs : Specifications Spec Entity) : Criteria Spec → Option Spec × Option (QueryOptions Spec)
  | .options options => (options.specification,some options)
  | .specification spec =>
    match specs.specification spec with
    | some inner => (some inner,none)
    | none => (some spec,none)

/-- The statement that both accesses build and execute. -/
def models (table : Table Spec Clause Model Entity) (spec : Option Spec) (options : Option (QueryOptions Spec)) :
    Except Failure (List Model) :=
  match spec with
  | some spec => do table.execute ⟨some (← table.buildSqlaFilter spec),options⟩
  | none => table.execute ⟨none,options⟩

def executeSearch (specs : Specifications Spec Entity) (table : Table Spec Clause Model Entity) (spec : Option Spec)
    (options : Option (QueryOptions Spec)) : Except Failure (List Entity) := do
  let aggregates := (← models table spec options).map table.fromModel
  match spec with
  | some spec => Attempts.select (specs.isSatisfiedBy spec) aggregates
  | none => return aggregates

/-- One model of the result; a batch size only decides how many are fetched at a time. -/
def streamed (specs : Specifications Spec Entity) (table : Table Spec Clause Model Entity) (spec : Option Spec) :
    List Model → Turn (List Model) Entity
  | [] => .stop []
  | model::rest =>
    let entity := table.fromModel model
    match spec with
    | some spec =>
      match specs.isSatisfiedBy spec entity with
      | .ok satisfied => .next (if satisfied then [entity] else []) rest
      | .error _ => .fail []
    | none => .next [entity] rest

def executeStream (specs : Specifications Spec Entity) (table : Table Spec Clause Model Entity) (spec : Option Spec)
    (options : Option (QueryOptions Spec)) (fuel : Nat) : Option (List Entity × Ending) :=
  match models table spec options with
  | .error _ => some ([],.raised)
  | .ok models => run (streamed specs table spec) fuel models

def search (specs : Specifications Spec Entity) (table : Table Spec Clause Model Entity) (criteria : Criteria Spec) :
    SearchResult Entity :=
  let normalised := normaliseCriteria specs criteria
  ⟨executeSearch specs table normalised.1 normalised.2,fun _ fuel =>
    executeStream specs table normalised.1 normalised.2 fuel⟩

end SQLAlchemyRepository

namespace ProjectionBackedSpecPersistence

/-- A reader with a fixed ordered result for each filter, sliced by limit and offset; what it makes of a
missing limit or offset is its own. -/
structure Reader (Filter Doc : Type) where
  docs : Filter → List Doc
  find : Filter → Option Nat → Option Nat → Except Failure (List Doc)
  sliced : ∀ filter limit offset, find filter (some limit) (some offset) = .ok (((docs filter).drop offset).take limit)

variable {Filter Doc Result : Type}

/-- What a subclass defines. -/
structure Persistence (Spec Filter Doc Result : Type) where
  reader : Reader Filter Doc
  buildFilter : Option Spec → Filter
  toDto : Doc → Result

/-- The specification, the limit and the offset; a negation passes for options without either. -/
def unpack (specs : Specifications Spec Entity) : Criteria Spec → Option Spec × Option Nat × Option Nat
  | .options options => (options.specification,options.limit,options.offset)
  | .specification spec =>
    match specs.specification spec with
    | some inner => (some inner,some 100,some 0)
    | none => (some spec,some 100,some 0)

/-- A turn of `while True`; an offset that is missing cannot be added to. -/
def page (persistence : Persistence Spec Filter Doc Result) (filter : Filter) (batchSize : Nat)
    (currentOffset : Option Nat) : Turn (Option Nat) Result :=
  match persistence.reader.find filter (some batchSize) currentOffset with
  | .error _ => .fail []
  | .ok docs =>
    if docs.isEmpty then .stop []
    else
      match currentOffset with
      | some offset => .next (docs.map persistence.toDto) (some (offset + batchSize))
      | none => .fail (docs.map persistence.toDto)

def fetch (specs : Specifications Spec Entity) (persistence : Persistence Spec Filter Doc Result)
    (criteria : Criteria Spec) : SearchResult Result :=
  let parts := unpack specs criteria
  let filter := persistence.buildFilter parts.1
  ⟨(persistence.reader.find filter parts.2.1 parts.2.2).map (List.map persistence.toDto),fun batchSize fuel =>
    run (page persistence filter (batchOr batchSize 100)) fuel parts.2.2⟩

end ProjectionBackedSpecPersistence

end CqrsDdd.Searching
