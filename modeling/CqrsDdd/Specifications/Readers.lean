import CqrsDdd.Specifications.BackEnds

/-! Items that are kept in memory and in both databases, and the filters that the databases'
compilers make of a specification. Where the three back-ends read the specification alike on an
item, both filters select the item exactly if it satisfies the specification. -/
namespace CqrsDdd.Specifications

open SpecificationOperator SpecificationFactory Attempts ThreeValued

variable {Item Object Part Column : Type} {attributes : Item → Fields Object}

/-- What the three back-ends make of items with these attributes. -/
structure Readers (Part Column : Type) (attributes : Item → Fields Object) where
  runtime : Runtime Object
  registry : Registry Object
  compilePart : Fields Object → Except MongoError Part
  matched : Item → Part → Bool
  matchedRaw : Item → Fields Object → Bool
  compileColumn : Value Object → String → Except Failure Column
  truth : Item → Column → Truth

namespace Readers

def backEnds (readers : Readers Part Column attributes) (item : Item) : BackEnds Object Part Column where
  runtime := readers.runtime
  registry := readers.registry
  attributes := attributes item
  compilePart := readers.compilePart
  matched := readers.matched item
  compileColumn := readers.compileColumn
  truth := readers.truth item

/-- What the specification adds to an SQL statement; the error of a clause that is no SQL stands for the database's own. -/
def criterion (readers : Readers Part Column attributes) (specification : Specification Object) :
    Except Failure (Item → Bool) := do
  let clause ← SqlCompiler.buildSqlaFilter readers.runtime readers.compileColumn (.dict specification.toDict)
  if clause.isSql then return fun item => (clause.reading (readers.truth item)).selects = some true
  else .error .valueError

def filter (readers : Readers Part Column attributes) (specification : Specification Object) :
    Except MongoError (Item → Bool) := do
  match ← MongoQueryBuilder.buildMatch readers.runtime readers.compilePart specification.toDict with
  | .raw data => return (readers.matchedRaw · data)
  | .compiled filter => return fun item => filter.selects (readers.matched item)

/-- The leaves and the shape of the specification are the same to the three on the item. -/
structure ReadAlike (readers : Readers Part Column attributes) (specification : Specification Object) (item : Item) :
    Prop where
  plain : ∀ leaf ∈ specification.leaves, leaf.op.value ∉ logicalOperators
  alike : (readers.backEnds item).Alike readers.runtime.recursionLimit (.dict specification.toDict)

/-- The three have one answer for the item. -/
structure Decides (readers : Readers Part Column attributes) (specification : Specification Object) (item : Item)
    (result : Bool) : Prop where
  memory : specification.isSatisfiedBy readers.registry (attributes item) = .ok result
  sql : ∃ keeps, readers.criterion specification = .ok keeps ∧ keeps item = result
  mongo : ∃ keeps, readers.filter specification = .ok keeps ∧ keeps item = result

variable {readers : Readers Part Column attributes} {specification : Specification Object}

theorem criterion_ok {clause : Clause Column} (sql : clause.isSql = true)
    (compiled : SqlCompiler.buildSqlaFilter readers.runtime readers.compileColumn (.dict specification.toDict) =
      .ok clause) :
    readers.criterion specification =
      .ok fun item => decide ((clause.reading (readers.truth item)).selects = some true) :=
  bind_ok.mpr ⟨clause,compiled,if_pos sql⟩

theorem filter_ok {filter : MongoFilter Part}
    (compiled : MongoQueryBuilder.buildMatch readers.runtime readers.compilePart specification.toDict =
      .ok (.compiled filter)) :
    readers.filter specification = .ok fun item => filter.selects (readers.matched item) :=
  bind_ok.mpr ⟨_,compiled,rfl⟩

theorem exists_decides (lowers : Lowers readers.runtime) {item : Item} (read : readers.ReadAlike specification item) :
    ∃ result, readers.Decides specification item result := by
  obtain ⟨result,gives⟩ := BackEnds.back_ends_agree (readers.backEnds item) lowers (.toDict rfl read.plain) read.alike
  obtain ⟨filter,built,selects⟩ := gives.mongo
  obtain ⟨clause,compiled,reads⟩ := gives.sql
  have sql : clause.isSql = true := (clause.isSql_iff (readers.truth item)).mpr ⟨result,reads⟩
  refine ⟨result,gives.memory,⟨_,criterion_ok sql compiled,?_⟩,⟨_,filter_ok built,selects⟩⟩
  have selected : (clause.reading (readers.truth item)).selects = some result := reads
  rw [selected]
  cases result <;> exact rfl

theorem criterion_agrees (lowers : Lowers readers.runtime) {sample : Item} (read : readers.ReadAlike specification sample) :
    ∃ keeps, readers.criterion specification = .ok keeps ∧ ∀ item, readers.ReadAlike specification item →
      specification.isSatisfiedBy readers.registry (attributes item) = .ok (keeps item) := by
  obtain ⟨_,decides⟩ := exists_decides lowers read
  obtain ⟨keeps,compiled,_⟩ := decides.sql
  refine ⟨keeps,compiled,fun item read => ?_⟩
  obtain ⟨result,decides⟩ := exists_decides lowers read
  obtain ⟨other,same,answer⟩ := decides.sql
  cases compiled.symm.trans same
  exact decides.memory.trans (congrArg Except.ok answer.symm)

theorem filter_agrees (lowers : Lowers readers.runtime) {sample : Item} (read : readers.ReadAlike specification sample) :
    ∃ keeps, readers.filter specification = .ok keeps ∧ ∀ item, readers.ReadAlike specification item →
      specification.isSatisfiedBy readers.registry (attributes item) = .ok (keeps item) := by
  obtain ⟨_,decides⟩ := exists_decides lowers read
  obtain ⟨keeps,compiled,_⟩ := decides.mongo
  refine ⟨keeps,compiled,fun item read => ?_⟩
  obtain ⟨result,decides⟩ := exists_decides lowers read
  obtain ⟨other,same,answer⟩ := decides.mongo
  cases compiled.symm.trans same
  exact decides.memory.trans (congrArg Except.ok answer.symm)

end Readers

end CqrsDdd.Specifications
