import CqrsDdd.Specifications.BackEnds
import CqrsDdd.Specifications.TextLeaves

/-! Rows with nulls, in memory and in SQL. Each leaf has a side on which its reading of a
null is safe: where the database does not know, the operator in memory answers false
and may only stand under an even number of negations, or true and under an odd one. -/
namespace CqrsDdd.Specifications

open SpecificationOperator SpecificationFactory Attempts Filtering ThreeValued Database

variable {Object : Type}

namespace World

/-- Equality with a null field is false unless it is with null. -/
def SafeEquality (positive : Bool) (actual expected : Value Object) : Prop :=
  actual.isNull = true → expected.isNull = false → positive = true

/-- A null in the list is the null field, and hides that another field is not in the list. -/
def SafeMember (world : World Object) (positive : Bool) (actual : Value Object) (items : List (Value Object)) : Prop :=
  if actual.isNull then items = [] ∨ items.any Value.isNull = !positive
  else items.any Value.isNull = true → items.any (world.python.equals actual) = true ∨ positive = true

def itemsOf : Value Object → List (Value Object)
  | .list items | .tuple items => items
  | .null | .bool _ | .number _ | .text _ | .dict _ | .object _ => []

/-- Where the reading of a leaf can be trusted, by its operator: under an even number of negations, or an odd one. -/
def Safe (world : World Object) (row : Fields Object) (positive : Bool) (column : String) (op : SpecificationOperator)
    (expected : Value Object) : Prop :=
  match op with
  | .isNull | .isNotNull => True
  | .eq => SafeEquality positive (cell row column) expected
  | .ne => SafeEquality (!positive) (cell row column) expected
  | .in_ => world.SafeMember positive (cell row column) (itemsOf expected)
  | .notIn => world.SafeMember (!positive) (cell row column) (itemsOf expected)
  | .gt | .lt | .ge | .le | .between | .notBetween => (cell row column).isNull = true → positive = true
  | .isEmpty =>
    if (cell row column).isNull then positive = false else world.Agrees row column op expected
  | .isNotEmpty | .like | .notLike | .ilike | .contains | .icontains | .startswith | .istartswith | .endswith
  | .iendswith | .regex | .iregex =>
    if (cell row column).isNull then positive = true else world.Agrees row column op expected
  | _ => False

variable {world : World Object}

theorem registry_apply (faithful : world.Faithful) (op : SpecificationOperator) (actual expected : Value Object) :
    world.registry.apply op actual expected = MemoryOperators.evaluate world.python op actual expected := by
  unfold Registry.apply
  split
  next content => exact congrArg Except.ok (faithful.text actual content).symm
  next => exact rfl

theorem reads_unknown_false {positive : Bool} (safe : positive = true) : Truth.Reads positive .unknown false :=
  Truth.reads_unknown.mpr (by rw [safe]; exact rfl)

variable {row : Fields Object} {positive : Bool} {column : String} {expected : Value Object}

theorem equals_reads (faithful : world.Faithful) (safe : SafeEquality positive (cell row column) expected) :
    Truth.Reads positive
      (world.database.truth row (if expected.isNull then .isNull column else .equals column expected))
      (world.python.equals (cell row column) expected) := by
  cases null : expected.isNull with
  | true =>
    rw [if_pos rfl,truth,Value.isNull_iff.mp null,faithful.nullRight]
    exact Truth.reads_self _ _
  | false =>
    rw [if_neg Bool.false_ne_true,truth]
    cases missing : (cell row column).isNull with
    | true =>
      rw [known_null missing,Value.isNull_iff.mp missing,faithful.nullLeft,null]
      exact reads_unknown_false (safe missing null)
    | false =>
      rw [known_values missing null,faithful.equal _ _ missing null]
      exact Truth.reads_self _ _

theorem compares_reads (faithful : world.Faithful) (safe : (cell row column).isNull = true → positive = true)
    {comparison : Comparison} {clause : ColumnClause Object} {result : Bool}
    (compiled : SqlOperators.compares comparison column expected = .ok clause)
    (evaluated : MemoryOperators.unlessNull (cell row column)
      (world.python.compare comparison (cell row column) expected) = .ok result) :
    Truth.Reads positive (world.database.truth row clause) result := by
  have same : clause = .compares comparison column expected := by
    cases expected with
    | null => cases compiled
    | bool value => cases compiled
    | number _ | text _ | list _ | tuple _ | dict _ | object _ => exact (Except.ok.inj compiled).symm
  rw [same,truth]
  unfold MemoryOperators.unlessNull at evaluated
  split at evaluated
  next missing =>
    cases evaluated
    rw [known_null missing]
    exact reads_unknown_false (safe missing)
  next =>
    obtain ⟨first,second⟩ := faithful.unordered _ _ _ _ evaluated
    rw [known_values first second,faithful.compare _ _ _ _ evaluated]
    exact Truth.reads_self _ _

theorem item_known (faithful : world.Faithful) {actual : Value Object} (stored : actual.isNull = false)
    (item : Value Object) : known world.database.equal actual item =
      if item.isNull then .unknown else .ofBool (world.python.equals actual item) := by
  cases null : item.isNull with
  | true =>
    rw [known,null,Bool.or_true]
    exact rfl
  | false =>
    rw [known_values stored null,faithful.equal _ _ stored null]
    exact rfl

theorem inList_confirms (faithful : world.Faithful) {actual : Value Object} (stored : actual.isNull = false)
    (items : List (Value Object)) : Truth.Confirms (.any (items.map (known world.database.equal actual)))
      (items.any (world.python.equals actual)) := by
  unfold Truth.Confirms
  rw [Truth.any_eq_holds,List.mem_map,List.any_eq_true]
  refine exists_congr fun item => and_congr_right fun _ => ?_
  rw [item_known faithful stored]
  cases null : item.isNull with
  | true =>
    rw [Value.isNull_iff.mp null,faithful.nullRight,stored]
    exact iff_of_false (fun same => (by cases same)) Bool.false_ne_true
  | false => exact Truth.ofBool_eq_holds

theorem inList_ofBool (faithful : world.Faithful) {actual : Value Object} (stored : actual.isNull = false)
    {items : List (Value Object)} (complete : items.any Value.isNull = false) :
    Truth.any (items.map (known world.database.equal actual)) = .ofBool (items.any (world.python.equals actual)) := by
  have each : items.map (known world.database.equal actual) = (items.map (world.python.equals actual)).map .ofBool := by
    rw [List.map_map]
    apply List.map_congr_left
    intro item member
    have value : item.isNull = false := Bool.eq_false_of_not_eq_true (List.any_eq_false.mp complete item member)
    rw [item_known faithful stored,value]
    exact rfl
  rw [each,Truth.any_ofBool,List.any_map]
  exact rfl

theorem inList_reads (faithful : world.Faithful) {items : List (Value Object)}
    (safe : world.SafeMember positive (cell row column) items) :
    Truth.Reads positive (world.database.truth row (.inList column items))
      (items.any (world.python.equals (cell row column))) := by
  rw [truth]
  unfold SafeMember at safe
  cases missing : (cell row column).isNull with
  | true =>
    rw [missing,if_pos rfl] at safe
    rw [Value.isNull_iff.mp missing]
    cases items with
    | nil => exact Truth.reads_self positive false
    | cons item rest =>
      have nothing : Truth.any ((item::rest).map (known world.database.equal .null)) = .unknown := by
        unfold Truth.any
        rw [if_neg,if_pos]
        · exact List.mem_cons_self
        · intro member
          obtain ⟨other,_,same⟩ := List.mem_map.mp member
          cases same
      have found : (item::rest).any (world.python.equals .null) = !positive := by
        rw [funext faithful.nullLeft]
        exact safe.resolve_left fun none => (by cases none)
      rw [nothing,found]
      exact Truth.reads_unknown.mpr rfl
  | false =>
    rw [missing,if_neg Bool.false_ne_true] at safe
    cases nulls : items.any Value.isNull with
    | true =>
      have confirms := inList_confirms faithful missing items
      rcases safe nulls with hit | sure
      · rw [hit] at confirms ⊢
        rw [confirms.mpr rfl]
        exact Truth.reads_self positive true
      · rw [sure]
        exact confirms
    | false =>
      rw [inList_ofBool faithful missing nulls]
      exact Truth.reads_self _ _

theorem bounds_ok {condition low high : Value Object} (found : MemoryOperators.bounds condition = .ok (low,high)) :
    condition.iterate = .ok [low,high] := by
  obtain ⟨items,iterated,same⟩ := bind_ok.mp found
  rw [iterated]
  split at same
  next =>
    cases same
    exact rfl
  next => cases same

theorem bounds_ends {condition low high : Value Object} {taken : Value Object × Value Object}
    (found : MemoryOperators.bounds condition = .ok (low,high)) (compiled : SqlOperators.ends condition = .ok taken) :
    taken = (low,high) := by
  have iterated := bounds_ok found
  cases condition with
  | list items | tuple items =>
    cases iterated
    cases compiled
    exact rfl
  | text content =>
    have letters : Value.letters content = [low,high] := Except.ok.inj iterated
    rw [SqlOperators.ends,letters] at compiled
    cases compiled
    exact rfl
  | dict fields => cases compiled
  | null => cases compiled
  | bool value => cases compiled
  | number value => cases compiled
  | object thing => cases compiled

theorem between_ofBool (faithful : world.Faithful) (stored : (cell row column).isNull = false)
    {clause : ColumnClause Object} {result : Bool} (compiled : SqlOperators.between column expected = .ok clause)
    (evaluated : MemoryOperators.within world.python (cell row column) expected = .ok result) :
    world.database.truth row clause = .ofBool result := by
  obtain ⟨⟨low,high⟩,found,evaluated⟩ := bind_ok.mp evaluated
  obtain ⟨taken,ends,same⟩ := bind_ok.mp compiled
  cases bounds_ends found ends
  cases pure_ok.mp same
  obtain ⟨above,first,evaluated⟩ := bind_ok.mp evaluated
  obtain ⟨left,_⟩ := faithful.unordered _ _ _ _ first
  rw [truth,known_values left stored,faithful.compare _ _ _ _ first]
  cases above with
  | false =>
    cases evaluated
    exact Truth.all_eq_fails.mpr List.mem_cons_self
  | true =>
    have second : world.python.compare .le (cell row column) high = .ok result := evaluated
    obtain ⟨_,right⟩ := faithful.unordered _ _ _ _ second
    rw [known_values stored right,faithful.compare _ _ _ _ second]
    exact (Truth.all_ofBool [true,result]).trans (by simp)

theorem between_unknown (missing : (cell row column).isNull = true) {clause : ColumnClause Object}
    (compiled : SqlOperators.between column expected = .ok clause) : world.database.truth row clause = .unknown := by
  obtain ⟨⟨low,high⟩,_,same⟩ := bind_ok.mp compiled
  cases pure_ok.mp same
  rw [truth,known_null missing,known,missing,Bool.or_true]
  exact rfl

theorem agrees_reads {op : SpecificationOperator} {clause : ColumnClause Object} {result answer : Bool}
    (safe : if (cell row column).isNull then positive = !answer else world.Agrees row column op expected)
    (compiled : SqlOperators.apply world.model op column expected = .ok clause)
    (evaluated : MemoryOperators.evaluate world.python op (cell row column) expected = .ok result)
    (unknown : (cell row column).isNull = true → world.database.truth row clause = .unknown ∧ result = answer) :
    Truth.Reads positive (world.database.truth row clause) result := by
  cases missing : (cell row column).isNull with
  | true =>
    rw [missing,if_pos rfl] at safe
    obtain ⟨same,own⟩ := unknown missing
    rw [same,own,safe]
    exact Truth.reads_unknown.mpr (Bool.not_not answer).symm
  | false =>
    rw [missing,if_neg Bool.false_ne_true] at safe
    rw [safe clause result compiled evaluated]
    exact Truth.reads_self positive result

theorem unlessNull_null {field : Value Object} (missing : field.isNull = true) {answer : Except Failure Bool} {result : Bool}
    (evaluated : MemoryOperators.unlessNull field answer = .ok result) : result = false := by
  rw [MemoryOperators.unlessNull,missing,if_pos rfl] at evaluated
  exact (Except.ok.inj evaluated).symm

theorem tests_reads {op : SpecificationOperator} {test : TextTest} {operand : Value Object} {answer : Except Failure Bool}
    {clause : ColumnClause Object} {result : Bool}
    (safe : if (cell row column).isNull then positive = true else world.Agrees row column op expected)
    (compiled : SqlOperators.apply world.model op column expected = .ok clause)
    (evaluated : MemoryOperators.evaluate world.python op (cell row column) expected = .ok result)
    (clauses : clause = .tests test column operand ∨ clause = .not (.tests test column operand))
    (answers : MemoryOperators.unlessNull (cell row column) answer = .ok result) :
    Truth.Reads positive (world.database.truth row clause) result := by
  apply @agrees_reads _ _ _ _ _ _ _ _ _ false safe compiled evaluated
  intro missing
  refine ⟨?_,unlessNull_null missing answers⟩
  rcases clauses with rfl | rfl
  · rw [truth,known_null missing]
  · rw [truth,truth,known_null missing]
    exact rfl

theorem contained_inList {clause : ColumnClause Object} {result : Bool}
    (compiled : SqlOperators.inList column expected = .ok clause)
    (evaluated : MemoryOperators.contained world.python (cell row column) expected = .ok result) :
    clause = .inList column (itemsOf expected) ∧
      result = (itemsOf expected).any (world.python.equals (cell row column)) := by
  cases expected with
  | list items | tuple items =>
    cases compiled
    cases evaluated
    exact ⟨rfl,rfl⟩
  | null | bool _ | number _ | text _ | dict _ | object _ => cases compiled

theorem leaf_reads (faithful : world.Faithful) {op : SpecificationOperator} {clause : ColumnClause Object} {result : Bool}
    (safe : world.Safe row positive column op expected)
    (compiled : SqlOperators.apply world.model op column expected = .ok clause)
    (evaluated : MemoryOperators.evaluate world.python op (cell row column) expected = .ok result) :
    Truth.Reads positive (world.database.truth row clause) result := by
  cases op with
  | eq =>
    cases compiled
    cases evaluated
    exact equals_reads faithful safe
  | ne =>
    cases compiled
    cases evaluated
    exact Truth.reads_not.mpr (equals_reads faithful safe)
  | gt | lt | ge | le => exact compares_reads faithful safe compiled evaluated
  | in_ =>
    obtain ⟨rfl,rfl⟩ := contained_inList compiled evaluated
    exact inList_reads faithful safe
  | notIn =>
    obtain ⟨inner,lists,rfl⟩ := map_ok.mp compiled
    obtain ⟨answer,holds,rfl⟩ := map_ok.mp evaluated
    obtain ⟨rfl,rfl⟩ := contained_inList lists holds
    exact Truth.reads_not.mpr (inList_reads faithful safe)
  | between =>
    cases missing : (cell row column).isNull with
    | true =>
      rw [between_unknown missing compiled,unlessNull_null missing evaluated]
      exact reads_unknown_false (safe missing)
    | false =>
      have within : MemoryOperators.unlessNull (cell row column) _ = .ok result := evaluated
      rw [MemoryOperators.unlessNull,missing,if_neg Bool.false_ne_true] at within
      rw [between_ofBool faithful missing compiled within]
      exact Truth.reads_self positive result
  | notBetween =>
    obtain ⟨inner,between,rfl⟩ := map_ok.mp compiled
    rw [truth]
    cases missing : (cell row column).isNull with
    | true =>
      rw [between_unknown missing between,unlessNull_null missing evaluated]
      exact reads_unknown_false (safe missing)
    | false =>
      have within : MemoryOperators.unlessNull (cell row column) _ = .ok result := evaluated
      rw [MemoryOperators.unlessNull,missing,if_neg Bool.false_ne_true] at within
      obtain ⟨answer,holds,rfl⟩ := map_ok.mp within
      rw [between_ofBool faithful missing between holds,Truth.not_ofBool]
      exact Truth.reads_self positive _
  | isNull =>
    cases compiled
    cases evaluated
    exact Truth.reads_self positive _
  | isNotNull =>
    cases compiled
    cases evaluated
    rw [truth,truth,Truth.not_ofBool]
    exact Truth.reads_self positive _
  | isEmpty =>
    apply @agrees_reads _ _ _ _ _ _ _ _ _ true safe compiled evaluated
    intro missing
    cases compiled
    cases evaluated
    rw [truth,known_null missing,Value.isNull_iff.mp missing]
    exact ⟨rfl,rfl⟩
  | isNotEmpty =>
    apply @agrees_reads _ _ _ _ _ _ _ _ _ false safe compiled evaluated
    intro missing
    cases compiled
    cases evaluated
    rw [truth,truth,known_null missing,Value.isNull_iff.mp missing]
    exact ⟨rfl,rfl⟩
  | notLike => exact tests_reads safe compiled evaluated (.inr (Except.ok.inj compiled).symm) evaluated
  | like | ilike | contains | icontains | startswith | istartswith | endswith | iendswith | regex | iregex =>
    exact tests_reads safe compiled evaluated (.inl (Except.ok.inj compiled).symm) evaluated
  | _ => exact absurd safe id

/-- A conjunction of nothing but such conjunctions. -/
inductive Vacuous : Specification Object → Prop
  | and {specifications : List (Specification Object)} (each : ∀ specification ∈ specifications, Vacuous specification) :
      Vacuous (.and specifications)

/-- Each leaf is safe where it stands. No disjunction is empty, and a vacuous conjunction stands beside others in a
conjunction only. -/
inductive Kept (world : World Object) (row : Fields Object) : Bool → Specification Object → Prop
  | leaf {positive : Bool} {column : String} {op : SpecificationOperator} {expected : Value Object}
      (safe : world.Safe row positive column op expected) : Kept world row positive (.attribute ⟨.text column,op,expected⟩)
  | and {positive : Bool} {specifications : List (Specification Object)} {part : Specification Object}
      (each : ∀ specification ∈ specifications, ¬Vacuous specification → Kept world row positive specification)
      (member : part ∈ specifications) (kept : Kept world row positive part) : Kept world row positive (.and specifications)
  | or {positive : Bool} {specifications : List (Specification Object)} (some : specifications ≠ [])
      (each : ∀ specification ∈ specifications, Kept world row positive specification) :
      Kept world row positive (.or specifications)
  | not {positive : Bool} {specification : Specification Object} (kept : Kept world row (!positive) specification) :
      Kept world row positive (.not specification)

/-- The specification holds, and its clause is no criterion. -/
structure Idle (world : World Object) (row : Fields Object) (specification : Specification Object)
    (clause : Clause (ColumnClause Object)) : Prop where
  evaluated : specification.isSatisfiedBy world.registry row = .ok true
  reading : clause.reading (world.database.truth row) = .nothing

/-- The clause is a criterion, and says of the row what the specification answers. -/
def Stated (world : World Object) (row : Fields Object) (positive : Bool) (specification : Specification Object)
    (clause : Clause (ColumnClause Object)) : Prop :=
  ∃ truth, clause.reading (world.database.truth row) = .condition truth ∧
    ∀ result, specification.isSatisfiedBy world.registry row = .ok result → Truth.Reads positive truth result

def compile (world : World Object) : Nat → Value Object → Except Failure (Clause (ColumnClause Object)) :=
  SqlCompiler.compileNode world.python.runtime (SqlOperators.compileLeafNode world.model)

section Groups

variable {specifications : List (Specification Object)} {clauses : List (Clause (ColumnClause Object))}

theorem all_stated (related : List.Forall₂ (fun specification clause =>
      world.Idle row specification clause ∨ world.Stated row positive specification clause) specifications clauses)
    {result : Bool} (evaluated : allSatisfied world.registry row specifications = .ok result) :
    Truth.Reads positive (.all (Reading.conditions (clauses.map (Clause.reading (world.database.truth row))))) result := by
  induction related with
  | nil =>
    cases evaluated
    exact Truth.reads_self positive true
  | cons here _ ih =>
    obtain ⟨answer,first,evaluated⟩ := bind_ok.mp evaluated
    rw [List.map_cons]
    rcases here with idle | ⟨truth,reading,stated⟩
    · cases idle.evaluated.symm.trans first
      rw [idle.reading]
      exact ih evaluated
    · rw [reading]
      cases answer with
      | true => exact Truth.all_reads_true (stated true first) (ih evaluated)
      | false =>
        cases evaluated
        exact Truth.all_reads_false (stated false first)

theorem any_stated (related : List.Forall₂ (world.Stated row positive) specifications clauses)
    {result : Bool} (evaluated : anySatisfied world.registry row specifications = .ok result) :
    Truth.Reads positive (.any (Reading.conditions (clauses.map (Clause.reading (world.database.truth row))))) result := by
  induction related with
  | nil =>
    cases evaluated
    exact Truth.reads_self positive false
  | cons here _ ih =>
    obtain ⟨answer,first,evaluated⟩ := bind_ok.mp evaluated
    obtain ⟨truth,reading,stated⟩ := here
    rw [List.map_cons,reading]
    cases answer with
    | true =>
      cases evaluated
      exact Truth.any_reads_true (stated true first)
    | false => exact Truth.any_reads_false (stated false first) (ih evaluated)

/-- Each part makes the clause beside it, to some depth. -/
def Compiled (world : World Object) (depth : Nat) : List (Specification Object) → List (Clause (ColumnClause Object)) → Prop :=
  List.Forall₂ fun specification clause => world.compile depth (.dict specification.toDict) = .ok clause

theorem and_stated (related : List.Forall₂ (fun specification clause =>
      world.Idle row specification clause ∨ world.Stated row positive specification clause) specifications clauses)
    {clause : Clause (ColumnClause Object)} (member : clause ∈ clauses) {truth : Truth}
    (reading : clause.reading (world.database.truth row) = .condition truth) :
    world.Stated row positive (.and specifications) (.and clauses) := by
  refine ⟨_,?_,fun result evaluated => all_stated related evaluated⟩
  rw [Clause.reading,Clause.readings_eq]
  apply Reading.joined_conditions ?_ (List.mem_map.mpr ⟨clause,member,reading⟩)
  intro invalid
  obtain ⟨other,inside,same⟩ := List.mem_map.mp invalid
  obtain ⟨specification,_,idle | ⟨truth,reading,_⟩⟩ := (exists_related related).2 other inside
  · cases idle.reading.symm.trans same
  · cases reading.symm.trans same

theorem or_stated (related : List.Forall₂ (world.Stated row positive) specifications clauses) (some : clauses ≠ []) :
    world.Stated row positive (.or specifications) (.or clauses) := by
  obtain ⟨clause,member⟩ := List.exists_mem_of_ne_nil clauses some
  obtain ⟨_,_,truth,reading,_⟩ := (exists_related related).2 clause member
  refine ⟨_,?_,fun result evaluated => any_stated related evaluated⟩
  rw [Clause.reading,Clause.readings_eq]
  apply Reading.joined_conditions ?_ (List.mem_map.mpr ⟨clause,member,reading⟩)
  intro invalid
  obtain ⟨other,inside,same⟩ := List.mem_map.mp invalid
  obtain ⟨_,_,truth,reading,_⟩ := (exists_related related).2 other inside
  cases reading.symm.trans same

theorem and_idle (related : List.Forall₂ (world.Idle row) specifications clauses) :
    world.Idle row (.and specifications) (.and clauses) := by
  constructor
  · rw [Specification.isSatisfiedBy]
    induction related with
    | nil => exact rfl
    | cons here _ ih =>
      rw [allSatisfied,here.evaluated]
      exact ih
  · rw [Clause.reading,Clause.readings_eq]
    apply Reading.joined_nothing
    intro reading member
    obtain ⟨clause,inside,rfl⟩ := List.mem_map.mp member
    obtain ⟨_,_,idle⟩ := (exists_related related).2 clause inside
    exact idle.reading

end Groups

section Compilation

variable (lowers : Lowers world.python.runtime) {specifications : List (Specification Object)}
  {specification : Specification Object} {depth : Nat} {clause : Clause (ColumnClause Object)}

include lowers

theorem compiled_and (compiled : world.compile depth (.dict (Specification.and specifications).toDict) = .ok clause) :
    ∃ inner clauses, clause = .and clauses ∧ world.Compiled inner specifications clauses := by
  cases depth with
  | zero => cases compiled
  | succ inner =>
    have conjunction : world.python.runtime.lower "and" = and.value := lowers .and
    rw [compile,Specification.toDict,BackEnds.clause_named rfl,if_pos conjunction] at compiled
    obtain ⟨nodes,listed,compiled⟩ := bind_ok.mp compiled
    obtain ⟨clauses,each,same⟩ := bind_ok.mp compiled
    cases listed
    refine ⟨inner,clauses,(pure_ok.mp same).symm,?_⟩
    have parts := mapM_forall₂.mp each
    rw [toDicts_eq,List.forall₂_map_left_iff] at parts
    exact parts

theorem compiled_or (compiled : world.compile depth (.dict (Specification.or specifications).toDict) = .ok clause) :
    ∃ inner clauses, clause = .or clauses ∧ world.Compiled inner specifications clauses := by
  cases depth with
  | zero => cases compiled
  | succ inner =>
    have disjunction : world.python.runtime.lower "or" = or.value := lowers .or
    rw [compile,Specification.toDict,BackEnds.clause_named rfl,if_neg (by rw [disjunction]; decide),
      if_pos disjunction] at compiled
    obtain ⟨nodes,listed,compiled⟩ := bind_ok.mp compiled
    obtain ⟨clauses,each,same⟩ := bind_ok.mp compiled
    cases listed
    refine ⟨inner,clauses,(pure_ok.mp same).symm,?_⟩
    have parts := mapM_forall₂.mp each
    rw [toDicts_eq,List.forall₂_map_left_iff] at parts
    exact parts

theorem compiled_not (compiled : world.compile depth (.dict (Specification.not specification).toDict) = .ok clause) :
    ∃ inner part, clause = .not part ∧ world.compile inner (.dict specification.toDict) = .ok part := by
  cases depth with
  | zero => cases compiled
  | succ inner =>
    have negation : world.python.runtime.lower "not" = not.value := lowers .not
    rw [compile,Specification.toDict,BackEnds.clause_named rfl,if_neg (by rw [negation]; decide),
      if_neg (by rw [negation]; decide),if_pos negation] at compiled
    obtain ⟨part,each,same⟩ := bind_ok.mp compiled
    exact ⟨inner,part,(pure_ok.mp same).symm,each⟩

theorem compiled_attribute {column : String} {op : SpecificationOperator} {expected : Value Object}
    (plain : op.value ∉ logicalOperators)
    (compiled : world.compile depth (.dict (Specification.attribute ⟨.text column,op,expected⟩).toDict) = .ok clause) :
    '.' ∉ column.toList ∧ ∃ test, clause = .leaf test ∧ SqlOperators.apply world.model op column expected = .ok test := by
  cases depth with
  | zero => cases compiled
  | succ inner =>
    have apart : op.value ≠ and.value ∧ op.value ≠ or.value ∧ op.value ≠ not.value := by
      simpa [logicalOperators] using plain
    rw [compile,Specification.toDict,BackEnds.clause_named rfl,lowers op,if_neg apart.1,if_neg apart.2.1,
      if_neg apart.2.2] at compiled
    obtain ⟨test,leaf,same⟩ := bind_ok.mp compiled
    change (if column = "" then _ else _) = _ at leaf
    split at leaf
    next => cases leaf
    next =>
      split at leaf
      next => cases leaf
      next known =>
        rw [ofValue_value] at leaf
        refine ⟨fun dotted => known ?_,test,(pure_ok.mp same).symm,leaf⟩
        simp [dotted]

end Compilation

theorem safe_plain {op : SpecificationOperator} (safe : world.Safe row positive column op expected) :
    op.value ∉ logicalOperators := by
  cases op with
  | and | or | not => exact absurd safe id
  | _ => decide

theorem vacuous_idle (lowers : Lowers world.python.runtime) (row : Fields Object) {specification : Specification Object}
    (vacuous : Vacuous specification) : ∀ {depth : Nat} {clause : Clause (ColumnClause Object)},
      world.compile depth (.dict specification.toDict) = .ok clause → world.Idle row specification clause := by
  induction vacuous with
  | and _ ih =>
    intro depth clause compiled
    obtain ⟨inner,clauses,rfl,parts⟩ := compiled_and lowers compiled
    apply and_idle
    refine ((List.forall₂_and_left _ _).mpr ⟨ih,parts⟩).imp ?_
    exact fun specification clause here => here.1 here.2

/-- A specification that is kept says the same in memory and in the database, whatever the depth of the compilation. -/
theorem kept_stated (faithful : world.Faithful) (lowers : Lowers world.python.runtime)
    {specification : Specification Object} (kept : Kept world row positive specification) :
    ∀ {depth : Nat} {clause : Clause (ColumnClause Object)},
      world.compile depth (.dict specification.toDict) = .ok clause → world.Stated row positive specification clause := by
  induction kept with
  | leaf safe =>
    intro depth clause compiled
    obtain ⟨plain,test,rfl,applied⟩ := compiled_attribute lowers (safe_plain safe) compiled
    refine ⟨_,rfl,fun result evaluated => ?_⟩
    change world.registry.apply _ (resolveField world.registry row _) _ = _ at evaluated
    rw [resolveField_plain _ _ plain,registry_apply faithful] at evaluated
    exact leaf_reads faithful safe applied evaluated
  | and each member _ parts ih =>
    intro depth clause compiled
    obtain ⟨inner,clauses,rfl,made⟩ := compiled_and lowers compiled
    obtain ⟨part,inside,here⟩ := (exists_related made).1 _ member
    obtain ⟨truth,reading,_⟩ := ih here
    refine and_stated (((List.forall₂_and_left _ _).mpr ⟨fun other own => own,made⟩).imp ?_) inside reading
    intro other clause ⟨own,here⟩
    by_cases vacuous : Vacuous other
    · exact .inl (vacuous_idle lowers row vacuous here)
    · exact .inr (parts other own vacuous here)
  | or some _ ih =>
    intro depth clause compiled
    obtain ⟨inner,clauses,rfl,made⟩ := compiled_or lowers compiled
    apply or_stated
    · exact ((List.forall₂_and_left _ _).mpr ⟨ih,made⟩).imp fun specification clause here => here.1 here.2
    · intro none
      subst none
      cases made
      exact some rfl
  | not _ ih =>
    intro depth clause compiled
    obtain ⟨inner,part,rfl,made⟩ := compiled_not lowers compiled
    obtain ⟨truth,reading,stated⟩ := ih made
    refine ⟨truth.not,by rw [Clause.reading,reading]; exact rfl,fun result evaluated => ?_⟩
    obtain ⟨answer,own,same⟩ := bind_ok.mp evaluated
    cases pure_ok.mp same
    exact Truth.reads_not.mpr (stated answer own)

def equal : Value Empty → Value Empty → Bool
  | .null,.null => true
  | .text first,.text second => first = second
  | .number first,.number second => first = second
  | _,_ => false

def order : Comparison → Int → Int → Bool
  | .gt,first,second => second < first
  | .lt,first,second => first < second
  | .ge,first,second => second ≤ first
  | .le,first,second => first ≤ second

def compare (comparison : Comparison) : Value Empty → Value Empty → Except Failure Bool
  | .number first,.number second => .ok (order comparison first second)
  | _,_ => .error .typeError

def like (test : TextTest) (content pattern : String) : Bool :=
  match test with
  | .like => sqlLike pattern content
  | .contains => sqlLike ("%" ++ pattern ++ "%") content
  | .startswith => sqlLike (pattern ++ "%") content
  | .endswith => sqlLike ("%" ++ pattern) content
  | .ilike | .regexpMatch _ => false

def people : World Empty where
  python := {
    runtime := Runtime.ascii
    equals := equal
    compare := compare
    reMatch := fun _ => RegularExpressions.fragment
    reSearch := fun _ _ _ => .error .valueError
    others := fun _ _ _ => .error .valueError}
  database := {
    equal := equal
    compare := fun comparison first second => (compare comparison first second).toOption.getD false
    test := fun test value part => match value,part with
      | .text content,.text pattern => like test content pattern
      | _,_ => false}
  columns := ["name","age"]
  getattr _ _ := .null
  others _ _ _ := .error .valueError

theorem people_faithful : people.Faithful where
  text value content := by cases value <;> exact rfl
  nullLeft value := by cases value <;> exact rfl
  nullRight value := by cases value <;> exact rfl
  unordered comparison left right result compared := by
    cases left with
    | number first =>
      cases right with
      | number second => exact ⟨rfl,rfl⟩
      | _ => cases compared
    | _ => cases compared
  equal _ _ _ _ := rfl
  compare comparison left right result compared := by
    change (World.compare comparison left right).toOption.getD false = result
    change World.compare comparison left right = _ at compared
    rw [compared]
    exact rfl

theorem people_likes : Likes people.database :=
  ⟨fun _ _ => rfl,fun _ _ => rfl,fun _ _ => rfl,fun _ _ => rfl⟩

def unknown : Fields Empty := [("name",.null),("age",.null)]

def bob : Fields Empty := [("name",.text "bob"),("age",.number 2)]

def test (column : String) (op : SpecificationOperator) (expected : Value Empty) : Specification Empty :=
  .attribute ⟨.text column,op,expected⟩

/-- No name, or one that begins with b but is not like b_y, or an age that is not over 3 nor 1: the negation of `!=` stands
on the safe side. -/
def nameless : Specification Empty :=
  .or [test "name" .isNull .null,.and [test "name" .startswith (.text "b"),test "name" .notLike (.text "b_y")],
    .and [test "age" .le (.number 3),.not (test "age" .ne (.number 1))]]

theorem kept_pair {row : Fields Empty} {first second : Specification Empty} (left : Kept people row true first)
    (right : Kept people row true second) : Kept people row true (.and [first,second]) := by
  refine .and (fun part inside _ => ?_) List.mem_cons_self left
  rcases List.mem_cons.mp inside with rfl | last
  · exact left
  · exact List.mem_singleton.mp last ▸ right

theorem nameless_kept {row : Fields Empty} (starts : people.Safe row true "name" .startswith (.text "b"))
    (unlike : people.Safe row true "name" .notLike (.text "b_y")) (young : people.Safe row true "age" .le (.number 3))
    (first : people.Safe row false "age" .ne (.number 1)) : Kept people row true nameless := by
  refine .or (List.cons_ne_nil _ _) ?_
  simp only [List.mem_cons,List.not_mem_nil,or_false,forall_eq_or_imp,forall_eq]
  exact ⟨.leaf trivial,kept_pair (.leaf starts) (.leaf unlike),kept_pair (.leaf young) (.not (.leaf first))⟩

theorem unknown_kept : Kept people unknown true nameless :=
  nameless_kept rfl rfl (fun _ => rfl) fun _ _ => rfl

theorem bob_kept : Kept people bob true nameless := by
  have documented : RegularExpressions.Documented (people.python.reMatch false) := RegularExpressions.fragment_documented
  refine nameless_kept ?_ ?_ (fun null => by cases null) fun null => by cases null
  · exact part_agrees rfl people_likes (by simp [Literal,Patterns.isWildcard]) (.inr (.inl rfl))
  · exact notLike_agrees rfl people_likes documented (by simp [Patterns.Plain,RegularExpressions.Token.special]) (.inl (by decide))

def compiledPeople (specification : Specification Empty) : Except Failure (Clause (ColumnClause Empty)) :=
  SqlCompiler.buildSqlaFilter people.python.runtime (SqlOperators.compileLeafNode people.model) (.dict specification.toDict)

def Differs (row : Fields Empty) (specification : Specification Empty) : Prop :=
  ∃ clause result, compiledPeople specification = .ok clause ∧
    specification.isSatisfiedBy people.registry row = .ok result ∧
    (clause.reading (people.database.truth row)).selects ≠ some result

end World

end CqrsDdd.Specifications
