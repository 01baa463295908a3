import CqrsDdd.Specifications.Factory
import CqrsDdd.ThreeValued

/-! The compiler from specification dicts to SQLAlchemy clauses, and how a database reads
them. A conjunction or disjunction of no clauses renders as nothing, and is skipped
inside another; the negation of nothing is no SQL. How a leaf is compiled is left open. -/
namespace CqrsDdd.Specifications

open ThreeValued

inductive Clause (Column : Type)
  | leaf (column : Column)
  | and (clauses : List (Clause Column))
  | or (clauses : List (Clause Column))
  | not (clause : Clause Column)

/-- What a clause is to the database for a row. -/
inductive Reading
  | nothing
  | invalid
  | condition (truth : Truth)
  deriving DecidableEq, Repr

namespace Reading

def truth : Reading → Option Truth
  | .condition truth => some truth
  | .nothing | .invalid => none

def conditions (readings : List Reading) : List Truth := readings.filterMap truth

def joined (join : List Truth → Truth) (readings : List Reading) : Reading :=
  if .invalid ∈ readings then .invalid
  else if (conditions readings).isEmpty then .nothing
  else .condition (join (conditions readings))

def negated : Reading → Reading
  | .condition truth => .condition truth.not
  | .nothing | .invalid => .invalid

/-- Whether a query with this as its only criterion selects the row; one without a criterion selects every row. -/
def selects : Reading → Option Bool
  | .nothing => some true
  | .condition truth => some (truth = .holds)
  | .invalid => none

theorem mem_conditions {readings : List Reading} {truth : Truth} :
    truth ∈ conditions readings ↔ .condition truth ∈ readings := by
  unfold conditions
  rw [List.mem_filterMap]
  constructor
  · intro ⟨reading,member,same⟩
    cases reading with
    | condition other =>
      cases same
      exact member
    | nothing => cases same
    | invalid => cases same
  · exact fun member => ⟨.condition truth,member,rfl⟩

theorem joined_conditions {join : List Truth → Truth} {readings : List Reading} (valid : .invalid ∉ readings)
    {truth : Truth} (some : .condition truth ∈ readings) : joined join readings = .condition (join (conditions readings)) := by
  rw [joined,if_neg valid,if_neg]
  intro none
  have member := mem_conditions.mpr some
  rw [List.isEmpty_iff.mp none] at member
  cases member

theorem joined_nothing {join : List Truth → Truth} {readings : List Reading} (each : ∀ reading ∈ readings, reading = .nothing) :
    joined join readings = .nothing := by
  have empty : conditions readings = [] := by
    apply List.eq_nil_iff_forall_not_mem.mpr
    intro truth member
    cases each _ (mem_conditions.mp member)
  rw [joined,if_neg (fun member => by cases each _ member),empty]
  exact rfl

theorem joined_eq_invalid {join : List Truth → Truth} {readings : List Reading} :
    joined join readings = .invalid ↔ .invalid ∈ readings := by
  unfold joined
  split
  next invalid => exact iff_of_true rfl invalid
  next valid =>
    refine iff_of_false ?_ valid
    split
    next => exact fun same => by cases same
    next => exact fun same => by cases same

theorem joined_eq_nothing {join : List Truth → Truth} {readings : List Reading} :
    joined join readings = .nothing ↔ ∀ reading ∈ readings, reading = .nothing := by
  refine ⟨fun joins reading member => ?_,joined_nothing⟩
  cases reading with
  | nothing => exact rfl
  | invalid => cases joins.symm.trans (joined_eq_invalid.mpr member)
  | condition truth =>
    by_cases invalid : .invalid ∈ readings
    · cases joins.symm.trans (joined_eq_invalid.mpr invalid)
    · cases joins.symm.trans (joined_conditions invalid member)

theorem negated_eq_invalid {reading : Reading} : reading.negated = .invalid ↔ reading = .invalid ∨ reading = .nothing := by
  cases reading <;> simp [negated]

theorem negated_ne_nothing (reading : Reading) : reading.negated ≠ .nothing := by
  cases reading <;> simp [negated]

end Reading

namespace Clause
variable {Column : Type}

mutual
def reading (truth : Column → Truth) : Clause Column → Reading
  | .leaf column => .condition (truth column)
  | .and clauses => .joined .all (readings truth clauses)
  | .or clauses => .joined .any (readings truth clauses)
  | .not clause => (clause.reading truth).negated
def readings (truth : Column → Truth) : List (Clause Column) → List Reading
  | [] => []
  | clause::rest => clause.reading truth::readings truth rest
end

theorem readings_eq (truth : Column → Truth) (clauses : List (Clause Column)) :
    readings truth clauses = clauses.map (reading truth) := by
  induction clauses with
  | nil => exact rfl
  | cons clause rest ih => rw [readings,ih,List.map_cons]

mutual
theorem reading_kind (first second : Column → Truth) : (clause : Clause Column) →
    (clause.reading first = .invalid ↔ clause.reading second = .invalid) ∧
      (clause.reading first = .nothing ↔ clause.reading second = .nothing)
  | .leaf column => by simp [reading]
  | .and clauses => by
    obtain ⟨invalid,nothing⟩ := readings_kind first second clauses
    rw [reading,reading,Reading.joined_eq_invalid,Reading.joined_eq_invalid,Reading.joined_eq_nothing,
      Reading.joined_eq_nothing]
    exact ⟨invalid,nothing⟩
  | .or clauses => by
    obtain ⟨invalid,nothing⟩ := readings_kind first second clauses
    rw [reading,reading,Reading.joined_eq_invalid,Reading.joined_eq_invalid,Reading.joined_eq_nothing,
      Reading.joined_eq_nothing]
    exact ⟨invalid,nothing⟩
  | .not clause => by
    obtain ⟨invalid,nothing⟩ := reading_kind first second clause
    rw [reading,reading,Reading.negated_eq_invalid,Reading.negated_eq_invalid,invalid,nothing]
    exact ⟨Iff.rfl,iff_of_false (Reading.negated_ne_nothing _) (Reading.negated_ne_nothing _)⟩
theorem readings_kind (first second : Column → Truth) : (clauses : List (Clause Column)) →
    (.invalid ∈ readings first clauses ↔ .invalid ∈ readings second clauses) ∧
      ((∀ reading ∈ readings first clauses, reading = .nothing) ↔ ∀ reading ∈ readings second clauses, reading = .nothing)
  | [] => ⟨Iff.rfl,Iff.rfl⟩
  | clause::rest => by
    obtain ⟨invalid,nothing⟩ := reading_kind first second clause
    obtain ⟨invalids,nothings⟩ := readings_kind first second rest
    rw [readings,readings,List.mem_cons,List.mem_cons,List.forall_mem_cons,List.forall_mem_cons,invalids,nothing,nothings]
    exact ⟨or_congr_left (eq_comm.trans (invalid.trans eq_comm)),Iff.rfl⟩
end

/-- The clause is no SQL for any row if it is none for one. -/
def isSql (clause : Clause Column) : Bool := clause.reading (fun _ => .unknown) ≠ .invalid

theorem isSql_iff (clause : Clause Column) (truth : Column → Truth) :
    isSql clause = true ↔ ∃ result, (clause.reading truth).selects = some result := by
  unfold isSql
  rw [decide_eq_true_iff,ne_eq,(clause.reading_kind (fun _ => .unknown) truth).1]
  cases clause.reading truth with
  | nothing => exact iff_of_true (fun same => by cases same) ⟨_,rfl⟩
  | condition truth => exact iff_of_true (fun same => by cases same) ⟨_,rfl⟩
  | invalid => exact iff_of_false (fun differs => differs rfl) fun ⟨_,same⟩ => by cases same

end Clause

/-- `len(value)`. -/
def Value.length {Object : Type} : Value Object → Except Failure Nat
  | .list items | .tuple items => .ok items.length
  | .text content => .ok content.length
  | .dict fields => .ok fields.length
  | .null | .bool _ | .number _ | .object _ => .error .typeError

namespace SqlCompiler

open SpecificationOperator

variable {Object Column : Type}

/-- The clause of a negation, before it is negated. -/
def negated (runtime : Runtime Object) (compile : Value Object → Except Failure (Clause Column))
    (data conditions : Value Object) : Except Failure (Clause Column) := do
  if !conditions.isTruthy runtime && (← data.holds "condition") then compile (← data.item "condition")
  else if 1 < (← conditions.length) then return .and (← (← conditions.iterate).mapM compile)
  else compile (← conditions.first)

/-- The walk of `_compile_node`, at most `depth` calls deep. -/
def compileNode (runtime : Runtime Object) (compileLeaf : Value Object → String → Except Failure Column) :
    Nat → Value Object → Except Failure (Clause Column)
  | 0,_ => .error .recursionError
  | depth + 1,data => do
    let op ← (← data.get "op" (.text "")).lower runtime
    let conditions ← data.get "conditions" (.list [])
    if op = and.value then return .and (← (← conditions.iterate).mapM (compileNode runtime compileLeaf depth))
    else if op = or.value then return .or (← (← conditions.iterate).mapM (compileNode runtime compileLeaf depth))
    else if op = not.value then
      return .not (← negated runtime (compileNode runtime compileLeaf depth) data conditions)
    else return .leaf (← compileLeaf data op)

def buildSqlaFilter (runtime : Runtime Object) (compileLeaf : Value Object → String → Except Failure Column)
    (data : Value Object) : Except Failure (Clause Column) :=
  compileNode runtime compileLeaf runtime.recursionLimit data

end SqlCompiler

end CqrsDdd.Specifications
