import CqrsDdd.Specifications.Agreement
import CqrsDdd.Specifications.Clauses
import CqrsDdd.Specifications.Evaluation
import CqrsDdd.Specifications.MongoFilters

/-! One specification dict in three back-ends: evaluated in memory, as a MongoDB filter
and as an SQL clause. Where each leaf is the same in all three, a tree is, unless a
group is empty or a negation is written in a way that the three read differently. -/
namespace CqrsDdd.Specifications

open SpecificationOperator SpecificationFactory Attempts Filtering ThreeValued

/-- One document as each back-end has it, and the compilation of leaves. -/
structure BackEnds (Object Part Column : Type) where
  runtime : Runtime Object
  registry : Registry Object
  attributes : Fields Object
  compilePart : Fields Object → Except MongoError Part
  matched : Part → Bool
  compileColumn : Value Object → String → Except Failure Column
  truth : Column → Truth

variable {Object Part Column : Type}

namespace BackEnds

/-- The three compile a leaf and agree on it, the database without an unknown. -/
structure LeafAgrees (ends : BackEnds Object Part Column) (data : Fields Object) (op : String)
    (leaf : AttributeSpecification Object) (part : Part) (column : Column) (result : Bool) : Prop where
  built : buildLeaf ends.runtime (.dict data) (ends.runtime.lower op) = .ok leaf
  compiled : ends.compilePart data = .ok part
  expressed : ends.compileColumn (.dict data) (ends.runtime.lower op) = .ok column
  satisfied : leaf.isSatisfiedBy ends.registry ends.attributes = .ok result
  selected : ends.matched part = result
  read : ends.truth column = .ofBool result

/-- A conjunction of nothing but such conjunctions. -/
inductive Vacuous (runtime : Runtime Object) : Nat → Value Object → Prop
  | and {depth : Nat} {data : Fields Object} {op : String} {nodes : List (Value Object)}
      (named : data.lookup "op" = some (.text op)) (conjunction : runtime.lower op = and.value)
      (listed : (conditionsOf data).iterate = .ok nodes) (each : ∀ node ∈ nodes, Vacuous runtime depth node) :
      Vacuous runtime (depth + 1) (.dict data)

/-- The node that all three take from a negation: its only condition, unless the `condition` is another node, or the
`condition` where there are no conditions. -/
inductive Negates (runtime : Runtime Object) (data : Fields Object) (node : Value Object) : Prop
  | conditions (listed : conditionsOf data = .list [node] ∨ conditionsOf data = .tuple [node])
      (alone : (data.lookup "condition").getD .null = .null ∨ data.lookup "condition" = some node)
  | condition (falsy : (conditionsOf data).isTruthy runtime = false) (found : data.lookup "condition" = some node)

/-- No disjunction is empty, no negation is of a vacuous conjunction or read in different ways, and a vacuous conjunction
stands beside others in a conjunction only. -/
inductive Uniform (ends : BackEnds Object Part Column) : Nat → Value Object → Prop
  | leaf {depth : Nat} {data : Fields Object} {op : String} {leaf : AttributeSpecification Object} {part : Part}
      {column : Column} {result : Bool} (named : data.lookup "op" = some (.text op))
      (plain : ends.runtime.lower op ∉ logicalOperators) (agrees : ends.LeafAgrees data op leaf part column result) :
      Uniform ends (depth + 1) (.dict data)
  | and {depth : Nat} {data : Fields Object} {op : String} {nodes : List (Value Object)} {node : Value Object}
      (named : data.lookup "op" = some (.text op)) (conjunction : ends.runtime.lower op = and.value)
      (listed : (conditionsOf data).iterate = .ok nodes)
      (each : ∀ node ∈ nodes, ¬Vacuous ends.runtime depth node → Uniform ends depth node)
      (member : node ∈ nodes) (uniform : Uniform ends depth node) : Uniform ends (depth + 1) (.dict data)
  | or {depth : Nat} {data : Fields Object} {op : String} {nodes : List (Value Object)}
      (named : data.lookup "op" = some (.text op)) (disjunction : ends.runtime.lower op = or.value)
      (listed : (conditionsOf data).iterate = .ok nodes) (some : nodes ≠ [])
      (each : ∀ node ∈ nodes, Uniform ends depth node) : Uniform ends (depth + 1) (.dict data)
  | not {depth : Nat} {data : Fields Object} {op : String} {node : Value Object}
      (named : data.lookup "op" = some (.text op)) (negation : ends.runtime.lower op = not.value)
      (negates : Negates ends.runtime data node) (uniform : Uniform ends depth node) :
      Uniform ends (depth + 1) (.dict data)

/-- What the three make of one node, and its truth value. -/
structure Row (Object Part Column : Type) where
  specification : Specification Object
  filter : MongoFilter Part
  clause : Clause Column
  result : Bool

structure Row.Of (ends : BackEnds Object Part Column) (depth : Nat) (node : Value Object) (row : Row Object Part Column) :
    Prop where
  built : build ends.runtime depth node = .ok row.specification
  compiled : MongoQueryBuilder.compileNode ends.runtime ends.compilePart depth node = .ok row.filter
  expressed : SqlCompiler.compileNode ends.runtime ends.compileColumn depth node = .ok row.clause
  satisfied : row.specification.isSatisfiedBy ends.registry ends.attributes = .ok row.result
  selected : row.filter.selects ends.matched = row.result

/-- The node selects everything, and is no criterion to the database. -/
def Row.Hollow (ends : BackEnds Object Part Column) (row : Row Object Part Column) : Prop :=
  row.result = true ∧ row.clause.reading ends.truth = .nothing

/-- The node is a criterion to the other two, with its truth value. -/
def Row.Solid (ends : BackEnds Object Part Column) (row : Row Object Part Column) : Prop :=
  row.filter.isEmpty = false ∧ row.clause.reading ends.truth = .condition (.ofBool row.result)

theorem exists_rows {related : Value Object → Row Object Part Column → Prop} {nodes : List (Value Object)}
    (each : ∀ node ∈ nodes, ∃ row, related node row) : ∃ rows, List.Forall₂ related nodes rows := by
  induction nodes with
  | nil => exact ⟨[],.nil⟩
  | cons node rest ih =>
    obtain ⟨row,here⟩ := each node List.mem_cons_self
    obtain ⟨rows,later⟩ := ih fun other member => each other (List.mem_cons_of_mem node member)
    exact ⟨row::rows,.cons here later⟩

theorem truthy_of_iterate {runtime : Runtime Object} {conditions : Value Object} {nodes : List (Value Object)}
    (listed : conditions.iterate = .ok nodes) : conditions.isTruthy runtime = !nodes.isEmpty := by
  cases conditions with
  | list items | tuple items =>
    cases listed
    exact rfl
  | text content =>
    cases listed
    by_cases empty : content = ""
    · subst empty
      exact rfl
    · have letters : (Value.letters content : List (Value Object)).isEmpty = false := by
        rw [Value.letters,List.isEmpty_eq_false_iff,ne_eq,List.map_eq_nil_iff]
        exact fun none => empty (String.toList_inj.mp none)
      rw [letters]
      simp [Value.isTruthy,empty]
  | dict fields =>
    cases listed
    cases fields with
    | nil => exact rfl
    | cons field rest => exact rfl
  | null => cases listed
  | bool value => cases listed
  | number value => cases listed
  | object thing => cases listed

section Group

variable {ends : BackEnds Object Part Column} {depth : Nat} {nodes : List (Value Object)}
  {rows : List (Row Object Part Column)} (related : List.Forall₂ (fun node row => row.Of ends depth node) nodes rows)

include related

theorem group_built : nodes.mapM (build ends.runtime depth) = .ok (rows.map (·.specification)) := by
  apply mapM_forall₂.mpr
  rw [List.forall₂_map_right_iff]
  exact related.imp fun _ _ row => row.built

theorem group_compiled : nodes.mapM (MongoQueryBuilder.compileNode ends.runtime ends.compilePart depth) =
    .ok (rows.map (·.filter)) := by
  apply mapM_forall₂.mpr
  rw [List.forall₂_map_right_iff]
  exact related.imp fun _ _ row => row.compiled

theorem group_expressed : nodes.mapM (SqlCompiler.compileNode ends.runtime ends.compileColumn depth) =
    .ok (rows.map (·.clause)) := by
  apply mapM_forall₂.mpr
  rw [List.forall₂_map_right_iff]
  exact related.imp fun _ _ row => row.expressed

theorem all_satisfied : allSatisfied ends.registry ends.attributes (rows.map (·.specification)) =
    .ok (rows.all (·.result)) := by
  induction related with
  | nil => exact rfl
  | @cons node row nodes rows here _ ih =>
    rw [List.map_cons,allSatisfied,here.satisfied,List.all_cons]
    cases result : row.result with
    | true => exact ih
    | false => exact rfl

theorem any_satisfied : anySatisfied ends.registry ends.attributes (rows.map (·.specification)) =
    .ok (rows.any (·.result)) := by
  induction related with
  | nil => exact rfl
  | @cons node row nodes rows here _ ih =>
    rw [List.map_cons,anySatisfied,here.satisfied,List.any_cons]
    cases result : row.result with
    | true => exact rfl
    | false => exact ih

theorem all_selected : (MongoFilter.and (rows.map (·.filter))).selects ends.matched = rows.all (·.result) := by
  rw [MongoFilter.selects,MongoFilter.allSelect_eq]
  induction related with
  | nil => exact rfl
  | cons here _ ih => rw [List.map_cons,List.all_cons,List.all_cons,here.selected,ih]

theorem any_selected : (MongoFilter.or (rows.map (·.filter))).selects ends.matched = rows.any (·.result) := by
  rw [MongoFilter.selects,MongoFilter.anySelects_eq]
  induction related with
  | nil => exact rfl
  | cons here _ ih => rw [List.map_cons,List.any_cons,List.any_cons,here.selected,ih]

end Group

section Readings

variable {ends : BackEnds Object Part Column} {rows : List (Row Object Part Column)}

theorem and_hollow (hollow : ∀ row ∈ rows, row.Hollow ends) :
    (Clause.and (rows.map (·.clause))).reading ends.truth = .nothing := by
  rw [Clause.reading,Clause.readings_eq]
  apply Reading.joined_nothing
  intro reading member
  obtain ⟨clause,inside,rfl⟩ := List.mem_map.mp member
  obtain ⟨row,own,rfl⟩ := List.mem_map.mp inside
  exact (hollow row own).2

theorem mem_readings {reading : Reading} (member : reading ∈ (rows.map (·.clause)).map (Clause.reading ends.truth)) :
    ∃ row ∈ rows, row.clause.reading ends.truth = reading := by
  obtain ⟨clause,inside,same⟩ := List.mem_map.mp member
  obtain ⟨row,own,rfl⟩ := List.mem_map.mp inside
  exact ⟨row,own,same⟩

theorem readings_of_mem (ends : BackEnds Object Part Column) {row : Row Object Part Column} (member : row ∈ rows) :
    row.clause.reading ends.truth ∈ (rows.map (·.clause)).map (Clause.reading ends.truth) :=
  List.mem_map_of_mem (List.mem_map_of_mem member)

theorem and_values (each : ∀ row ∈ rows, row.Hollow ends ∨ row.Solid ends) : ∃ values : List Bool,
    Reading.conditions ((rows.map (·.clause)).map (Clause.reading ends.truth)) = values.map Truth.ofBool ∧
      values.all id = rows.all (·.result) := by
  induction rows with
  | nil => exact ⟨[],rfl,rfl⟩
  | cons row rest ih =>
    obtain ⟨values,same,results⟩ := ih fun other later => each other (List.mem_cons_of_mem row later)
    rw [List.map_cons,List.map_cons,Reading.conditions,List.all_cons]
    rcases each row List.mem_cons_self with hollow | solid
    · refine ⟨values,?_,?_⟩
      · rw [hollow.2]
        exact same
      · rw [results,hollow.1,Bool.true_and]
    · refine ⟨row.result::values,?_,?_⟩
      · rw [solid.2]
        exact congrArg (Truth.ofBool row.result::·) same
      · rw [List.all_cons,results]
        exact rfl

theorem or_values (each : ∀ row ∈ rows, row.Solid ends) :
    Reading.conditions ((rows.map (·.clause)).map (Clause.reading ends.truth)) =
      (rows.map (·.result)).map Truth.ofBool := by
  induction rows with
  | nil => exact rfl
  | cons row rest ih =>
    rw [List.map_cons,List.map_cons,Reading.conditions,(each row List.mem_cons_self).2]
    exact congrArg (Truth.ofBool row.result::·) (ih fun other later => each other (List.mem_cons_of_mem row later))

theorem and_read (each : ∀ row ∈ rows, row.Hollow ends ∨ row.Solid ends) {solid : Row Object Part Column}
    (member : solid ∈ rows) (reads : solid.Solid ends) :
    (Clause.and (rows.map (·.clause))).reading ends.truth = .condition (.ofBool (rows.all (·.result))) := by
  obtain ⟨values,same,results⟩ := and_values each
  have here := reads.2 ▸ readings_of_mem ends member
  rw [Clause.reading,Clause.readings_eq,Reading.joined_conditions ?_ here,same,Truth.all_ofBool,results]
  intro invalid
  obtain ⟨row,own,same⟩ := mem_readings invalid
  rcases each row own with hollow | solid
  · cases hollow.2.symm.trans same
  · cases solid.2.symm.trans same

theorem or_read (each : ∀ row ∈ rows, row.Solid ends) (some : rows ≠ []) :
    (Clause.or (rows.map (·.clause))).reading ends.truth = .condition (.ofBool (rows.any (·.result))) := by
  obtain ⟨solid,member⟩ := List.exists_mem_of_ne_nil rows some
  have here := (each solid member).2 ▸ readings_of_mem ends member
  have results : (rows.map (·.result)).any id = rows.any (·.result) := List.any_map
  rw [Clause.reading,Clause.readings_eq,Reading.joined_conditions ?_ here,or_values each,Truth.any_ofBool,results]
  intro invalid
  obtain ⟨row,own,same⟩ := mem_readings invalid
  cases (each row own).2.symm.trans same

end Readings

section Nodes

variable {ends : BackEnds Object Part Column} {depth : Nat} {data : Fields Object} {op : String}

theorem compileNode_named {runtime : Runtime Object} {compileLeaf : Fields Object → Except MongoError Part}
    (named : data.lookup "op" = some (.text op)) :
    MongoQueryBuilder.compileNode runtime compileLeaf (depth + 1) (.dict data) =
      if runtime.lower op = and.value then
        if !(conditionsOf data).isTruthy runtime then .ok .empty
        else do return .and (← (← MongoError.raises (conditionsOf data).iterate).mapM
          (MongoQueryBuilder.compileNode runtime compileLeaf depth))
      else if runtime.lower op = or.value then
        if !(conditionsOf data).isTruthy runtime then .ok .empty
        else do return .or (← (← MongoError.raises (conditionsOf data).iterate).mapM
          (MongoQueryBuilder.compileNode runtime compileLeaf depth))
      else if runtime.lower op = not.value then
        do return MongoQueryBuilder.negate (← MongoQueryBuilder.negated
          (MongoQueryBuilder.compileNode runtime compileLeaf depth) ((conditionsOf data).isTruthy runtime)
          (conditionsOf data) ((data.lookup "condition").getD .null))
      else do return .leaf (← compileLeaf data) := by
  rw [MongoQueryBuilder.compileNode,named]
  exact rfl

theorem clause_named {runtime : Runtime Object} {compileLeaf : Value Object → String → Except Failure Column}
    (named : data.lookup "op" = some (.text op)) :
    SqlCompiler.compileNode runtime compileLeaf (depth + 1) (.dict data) =
      if runtime.lower op = and.value then
        do return .and (← (← (conditionsOf data).iterate).mapM (SqlCompiler.compileNode runtime compileLeaf depth))
      else if runtime.lower op = or.value then
        do return .or (← (← (conditionsOf data).iterate).mapM (SqlCompiler.compileNode runtime compileLeaf depth))
      else if runtime.lower op = not.value then
        do return .not (← SqlCompiler.negated runtime (SqlCompiler.compileNode runtime compileLeaf depth) (.dict data)
          (conditionsOf data))
      else do return .leaf (← compileLeaf (.dict data) (runtime.lower op)) := by
  have spelled : ((opOf data).lower runtime : Except Failure String) = .ok (runtime.lower op) := by
    rw [opOf_named named]
    exact rfl
  rw [SqlCompiler.compileNode]
  change ((opOf data).lower runtime >>= _) = _
  rw [spelled]
  exact rfl

theorem leaf_of {leaf : AttributeSpecification Object} {part : Part} {column : Column} {result : Bool}
    (named : data.lookup "op" = some (.text op)) (plain : ends.runtime.lower op ∉ logicalOperators)
    (agrees : ends.LeafAgrees data op leaf part column result) :
    (⟨.attribute leaf,.leaf part,.leaf column,result⟩ : Row Object Part Column).Of ends (depth + 1) (.dict data) := by
  have apart : ends.runtime.lower op ≠ and.value ∧ ends.runtime.lower op ≠ or.value ∧ ends.runtime.lower op ≠ not.value := by
    simpa [logicalOperators] using plain
  constructor
  · exact (build_leaf (opOf_named named) plain).mpr ⟨leaf,agrees.built,rfl⟩
  · rw [compileNode_named named,if_neg apart.1,if_neg apart.2.1,if_neg apart.2.2,agrees.compiled]
    exact rfl
  · rw [clause_named named,if_neg apart.1,if_neg apart.2.1,if_neg apart.2.2,agrees.expressed]
    exact rfl
  · exact agrees.satisfied
  · exact agrees.selected

variable {nodes : List (Value Object)} {rows : List (Row Object Part Column)}

theorem and_of (named : data.lookup "op" = some (.text op)) (conjunction : ends.runtime.lower op = and.value)
    (listed : (conditionsOf data).iterate = .ok nodes)
    (related : List.Forall₂ (fun node row => row.Of ends depth node) nodes rows) :
    (⟨.and (rows.map (·.specification)),if nodes.isEmpty then .empty else .and (rows.map (·.filter)),
      .and (rows.map (·.clause)),rows.all (·.result)⟩ : Row Object Part Column).Of ends (depth + 1) (.dict data) := by
  constructor
  · rw [build_logical (opOf_named named),if_pos conjunction,listed]
    change (nodes.mapM (build ends.runtime depth) >>= _) = _
    rw [group_built related]
    exact rfl
  · rw [compileNode_named named,if_pos conjunction,truthy_of_iterate listed,listed,Bool.not_not]
    split
    next => exact rfl
    next =>
      change (nodes.mapM (MongoQueryBuilder.compileNode ends.runtime ends.compilePart depth) >>= _) = _
      rw [group_compiled related]
      exact rfl
  · rw [clause_named named,if_pos conjunction,listed]
    change (nodes.mapM (SqlCompiler.compileNode ends.runtime ends.compileColumn depth) >>= _) = _
    rw [group_expressed related]
    exact rfl
  · rw [Specification.isSatisfiedBy]
    exact all_satisfied related
  · dsimp only
    split
    next empty =>
      cases related with
      | nil => exact rfl
      | cons => cases empty
    next => exact all_selected related

theorem or_of (named : data.lookup "op" = some (.text op)) (disjunction : ends.runtime.lower op = or.value)
    (listed : (conditionsOf data).iterate = .ok nodes) (some : nodes ≠ [])
    (related : List.Forall₂ (fun node row => row.Of ends depth node) nodes rows) :
    (⟨.or (rows.map (·.specification)),.or (rows.map (·.filter)),.or (rows.map (·.clause)),rows.any (·.result)⟩ :
      Row Object Part Column).Of ends (depth + 1) (.dict data) := by
  have apart : ends.runtime.lower op ≠ and.value := by
    rw [disjunction]
    decide
  constructor
  · rw [build_logical (opOf_named named),if_neg apart,if_pos disjunction,listed]
    change (nodes.mapM (build ends.runtime depth) >>= _) = _
    rw [group_built related]
    exact rfl
  · rw [compileNode_named named,if_neg apart,if_pos disjunction,truthy_of_iterate listed,listed,Bool.not_not,
      if_neg fun empty => some (List.isEmpty_iff.mp empty)]
    change (nodes.mapM (MongoQueryBuilder.compileNode ends.runtime ends.compilePart depth) >>= _) = _
    rw [group_compiled related]
    exact rfl
  · rw [clause_named named,if_neg apart,if_pos disjunction,listed]
    change (nodes.mapM (SqlCompiler.compileNode ends.runtime ends.compileColumn depth) >>= _) = _
    rw [group_expressed related]
    exact rfl
  · rw [Specification.isSatisfiedBy]
    exact any_satisfied related
  · exact any_selected related

theorem negates_sources (depth : Nat) {node : Value Object} {inner : Fields Object} (dict : node = .dict inner)
    (negates : Negates ends.runtime data node) :
    negated ends.runtime (.dict data) (conditionsOf data) = .ok node ∧
    (∀ filter, MongoQueryBuilder.compileNode ends.runtime ends.compilePart depth node = .ok filter →
      MongoQueryBuilder.negated (MongoQueryBuilder.compileNode ends.runtime ends.compilePart depth)
        ((conditionsOf data).isTruthy ends.runtime) (conditionsOf data) ((data.lookup "condition").getD .null) = .ok filter) ∧
    ∀ clause, SqlCompiler.compileNode ends.runtime ends.compileColumn depth node = .ok clause →
      SqlCompiler.negated ends.runtime (SqlCompiler.compileNode ends.runtime ends.compileColumn depth) (.dict data)
        (conditionsOf data) = .ok clause := by
  subst dict
  cases negates with
  | conditions listed alone =>
    have parts : (conditionsOf data).isTruthy ends.runtime = true ∧ (conditionsOf data).first = .ok (.dict inner) ∧
        (conditionsOf data).length = .ok 1 := by
      rcases listed with list | tuple
      · rw [list]
        exact ⟨rfl,rfl,rfl⟩
      · rw [tuple]
        exact ⟨rfl,rfl,rfl⟩
    obtain ⟨truthy,first,length⟩ := parts
    refine ⟨?_,fun filter compiled => ?_,fun clause expressed => ?_⟩
    · unfold negated
      rw [truthy,first]
      exact rfl
    · unfold MongoQueryBuilder.negated
      rw [truthy,first]
      change (MongoQueryBuilder.compileNode ends.runtime ends.compilePart depth (.dict inner) >>= _) = _
      rw [compiled]
      rcases alone with none | same
      · rw [none]
        exact rfl
      · rw [same]
        exact compiled
    · unfold SqlCompiler.negated
      rw [truthy,length,first]
      exact expressed
  | condition falsy found =>
    refine ⟨negated_condition falsy found,fun filter compiled => ?_,fun clause expressed => ?_⟩
    · unfold MongoQueryBuilder.negated
      rw [falsy,found]
      exact compiled
    · have present : Value.holds "condition" (.dict data) = .ok true := by
        change Except.ok (data.lookup "condition").isSome = _
        rw [found]
        exact rfl
      have item : Value.item "condition" (.dict data) = .ok (.dict inner) := by
        change (data.lookup "condition").elim _ _ = _
        rw [found]
        exact rfl
      unfold SqlCompiler.negated
      rw [falsy,present,item]
      exact expressed

theorem not_of {node : Value Object} {inner : Fields Object} {row : Row Object Part Column}
    (named : data.lookup "op" = some (.text op)) (negation : ends.runtime.lower op = not.value)
    (dict : node = .dict inner) (negates : Negates ends.runtime data node) (of : row.Of ends depth node)
    (some : row.filter.isEmpty = false) :
    (⟨.not row.specification,.nor [row.filter],.not row.clause,!row.result⟩ : Row Object Part Column).Of ends (depth + 1)
      (.dict data) := by
  obtain ⟨source,filters,clauses⟩ := negates_sources depth dict negates
  have apart : ends.runtime.lower op ≠ and.value ∧ ends.runtime.lower op ≠ or.value := by
    rw [negation]
    decide
  constructor
  · exact (build_not (opOf_named named) negation).mpr ⟨node,row.specification,source,of.built,rfl⟩
  · rw [compileNode_named named,if_neg apart.1,if_neg apart.2,if_pos negation,filters row.filter of.compiled]
    change Except.ok (MongoQueryBuilder.negate row.filter) = _
    rw [MongoQueryBuilder.negate,some]
    exact rfl
  · rw [clause_named named,if_neg apart.1,if_neg apart.2,if_pos negation,clauses row.clause of.expressed]
    exact rfl
  · rw [Specification.isSatisfiedBy,of.satisfied]
    exact rfl
  · rw [MongoFilter.selects,MongoFilter.anySelects,MongoFilter.anySelects,of.selected,Bool.or_false]

end Nodes

theorem vacuous_row (ends : BackEnds Object Part Column) {depth : Nat} {node : Value Object}
    (vacuous : Vacuous ends.runtime depth node) : ∃ row : Row Object Part Column, row.Of ends depth node ∧ row.Hollow ends := by
  induction vacuous with
  | and named conjunction listed _ ih =>
    obtain ⟨rows,all⟩ := exists_rows ih
    have hollow : ∀ row ∈ rows, Row.Hollow ends row := by
      intro row member
      obtain ⟨_,_,_,here⟩ := (exists_related all).2 row member
      exact here
    refine ⟨_,and_of named conjunction listed (all.imp fun _ _ here => here.1),?_,and_hollow hollow⟩
    exact List.all_eq_true.mpr fun row member => (hollow row member).1

theorem Uniform.dict {ends : BackEnds Object Part Column} {depth : Nat} {node : Value Object}
    (uniform : Uniform ends depth node) : ∃ fields, node = .dict fields := by
  cases uniform with
  | leaf => exact ⟨_,rfl⟩
  | and => exact ⟨_,rfl⟩
  | or => exact ⟨_,rfl⟩
  | not => exact ⟨_,rfl⟩

theorem uniform_row {ends : BackEnds Object Part Column} {depth : Nat} {node : Value Object}
    (uniform : Uniform ends depth node) : ∃ row : Row Object Part Column, row.Of ends depth node ∧ row.Solid ends := by
  induction uniform with
  | leaf named plain agrees =>
    refine ⟨_,leaf_of named plain agrees,rfl,?_⟩
    rw [Clause.reading,agrees.read]
  | @and depth data op nodes node named conjunction listed each member _ ih here =>
    -- A node that is both keeps its solid row, so that the group has one.
    have parts : ∀ other ∈ nodes, ∃ row : Row Object Part Column, row.Of ends depth other ∧
        (row.Hollow ends ∨ row.Solid ends) ∧
        ((∃ solid : Row Object Part Column, solid.Of ends depth other ∧ solid.Solid ends) → row.Solid ends) := by
      intro other inside
      by_cases both : ∃ solid : Row Object Part Column, solid.Of ends depth other ∧ solid.Solid ends
      · obtain ⟨row,of,solid⟩ := both
        exact ⟨row,of,.inr solid,fun _ => solid⟩
      · have vacuous : Vacuous ends.runtime depth other := by
          by_contra stands
          exact both (ih other inside stands)
        obtain ⟨row,of,hollow⟩ := vacuous_row ends vacuous
        exact ⟨row,of,.inl hollow,fun solid => absurd solid both⟩
    obtain ⟨rows,all⟩ := exists_rows parts
    obtain ⟨solid,own,_,_,stands⟩ := (exists_related all).1 node member
    have each : ∀ row ∈ rows, Row.Hollow ends row ∨ Row.Solid ends row := by
      intro row inside
      obtain ⟨_,_,_,here,_⟩ := (exists_related all).2 row inside
      exact here
    refine ⟨_,and_of named conjunction listed (all.imp fun _ _ here => here.1),?_,and_read each own (stands here)⟩
    dsimp only
    split
    next empty =>
      rw [List.isEmpty_iff.mp empty] at member
      cases member
    next => exact rfl
  | or named disjunction listed some _ ih =>
    obtain ⟨rows,all⟩ := exists_rows ih
    have solid : ∀ row ∈ rows, Row.Solid ends row := by
      intro row member
      obtain ⟨_,_,_,here⟩ := (exists_related all).2 row member
      exact here
    refine ⟨_,or_of named disjunction listed some (all.imp fun _ _ here => here.1),rfl,or_read solid ?_⟩
    intro none
    subst none
    cases all
    exact some rfl
  | not named negation negates uniform ih =>
    obtain ⟨row,of,solid⟩ := ih
    obtain ⟨fields,dict⟩ := uniform.dict
    refine ⟨_,not_of named negation dict negates of solid.1,rfl,?_⟩
    rw [Clause.reading,solid.2,Reading.negated,Truth.not_ofBool]

end BackEnds

namespace SpecificationFactory

theorem ofValue_value (operator : SpecificationOperator) : ofValue operator.value = .ok operator := by
  cases operator <;> exact rfl

def Lowers (runtime : Runtime Object) : Prop :=
  ∀ operator : SpecificationOperator, runtime.lower operator.value = operator.value

variable {runtime : Runtime Object}

theorem buildLeaf_toDict (lowers : Lowers runtime) (leaf : AttributeSpecification Object) :
    buildLeaf runtime (.dict (Specification.attribute leaf).toDict) (runtime.lower leaf.op.value) = .ok leaf := by
  rw [lowers]
  change (ofValue leaf.op.value >>= fun op => Except.ok (⟨leaf.attr,op,leaf.val⟩ : AttributeSpecification Object)) = _
  rw [ofValue_value]
  exact rfl

mutual
theorem build_toDict (lowers : Lowers runtime) : (specification : Specification Object) →
    (∀ leaf ∈ specification.leaves, leaf.op.value ∉ logicalOperators) → ∀ {depth : Nat} {built : Specification Object},
      build runtime depth (.dict specification.toDict) = .ok built → built = specification
  | _,_,0,_,made => by cases made
  | .attribute leaf,plain,depth + 1,built,made => by
    have apart := plain leaf (List.mem_singleton.mpr rfl)
    rw [← lowers leaf.op] at apart
    obtain ⟨other,own,same⟩ := (build_leaf rfl apart).mp made
    cases (buildLeaf_toDict lowers leaf).symm.trans own
    exact same.symm
  | .and specifications,plain,depth + 1,built,made => by
    have conjunction : runtime.lower "and" = and.value := lowers .and
    rw [Specification.toDict,build_logical rfl,if_pos conjunction] at made
    obtain ⟨nodes,listed,rest⟩ := bind_ok.mp made
    cases listed
    obtain ⟨parts,mapped,same⟩ := bind_ok.mp rest
    rw [builds_toDicts lowers specifications plain (mapM_forall₂.mp mapped)] at same
    exact (pure_ok.mp same).symm
  | .or specifications,plain,depth + 1,built,made => by
    have disjunction : runtime.lower "or" = or.value := lowers .or
    rw [Specification.toDict,build_logical rfl,if_neg (by rw [disjunction]; decide),if_pos disjunction] at made
    obtain ⟨nodes,listed,rest⟩ := bind_ok.mp made
    cases listed
    obtain ⟨parts,mapped,same⟩ := bind_ok.mp rest
    rw [builds_toDicts lowers specifications plain (mapM_forall₂.mp mapped)] at same
    exact (pure_ok.mp same).symm
  | .not specification,plain,depth + 1,built,made => by
    rw [Specification.toDict] at made
    obtain ⟨node,part,found,inner,same⟩ := (build_not rfl (lowers .not)).mp made
    cases found
    rw [← same,build_toDict lowers specification plain inner]
theorem builds_toDicts (lowers : Lowers runtime) : (specifications : List (Specification Object)) →
    (∀ leaf ∈ leavesOf specifications, leaf.op.value ∉ logicalOperators) →
      ∀ {depth : Nat} {parts : List (Specification Object)},
        List.Forall₂ (fun node part => build runtime depth node = .ok part) (toDicts specifications) parts →
          parts = specifications
  | [],_,_,_,made => by
    cases made
    exact rfl
  | specification::rest,plain,depth,_,made => by
    cases made with
    | cons here later =>
      rw [build_toDict lowers specification (fun leaf member => plain leaf (List.mem_append_left _ member)) here,
        builds_toDicts lowers rest (fun leaf member => plain leaf (List.mem_append_right _ member)) later]
end

end SpecificationFactory

namespace BackEnds

/-- What the three say of the document: it satisfies the specification, the filter selects it, the query returns it. -/
structure Gives (ends : BackEnds Object Part Column) (data : Fields Object) (specification : Specification Object)
    (result : Bool) : Prop where
  memory : specification.isSatisfiedBy ends.registry ends.attributes = .ok result
  mongo : ∃ filter, MongoQueryBuilder.buildMatch ends.runtime ends.compilePart data = .ok (.compiled filter) ∧
    filter.selects ends.matched = result
  sql : ∃ clause, SqlCompiler.buildSqlaFilter ends.runtime ends.compileColumn (.dict data) = .ok clause ∧
    (clause.reading ends.truth).selects = some result

/-- A shape that all three read alike. -/
def Alike (ends : BackEnds Object Part Column) (depth : Nat) (node : Value Object) : Prop :=
  Uniform ends depth node ∨ Vacuous ends.runtime depth node

theorem Alike.named {ends : BackEnds Object Part Column} {depth : Nat} {data : Fields Object}
    (alike : Alike ends depth (.dict data)) : ∃ op, data.lookup "op" = some (.text op) := by
  rcases alike with uniform | vacuous
  · cases uniform with
    | leaf named => exact ⟨_,named⟩
    | and named => exact ⟨_,named⟩
    | or named => exact ⟨_,named⟩
    | not named => exact ⟨_,named⟩
  · cases vacuous with
    | and named => exact ⟨_,named⟩

theorem Alike.row {ends : BackEnds Object Part Column} {depth : Nat} {node : Value Object} (alike : Alike ends depth node) :
    ∃ row : Row Object Part Column, row.Of ends depth node ∧
      (row.clause.reading ends.truth).selects = some row.result := by
  rcases alike with uniform | vacuous
  · obtain ⟨row,of,solid⟩ := uniform_row uniform
    refine ⟨row,of,?_⟩
    rw [solid.2,Reading.selects]
    cases row.result with
    | true => exact rfl
    | false => exact rfl
  · obtain ⟨row,of,hollow⟩ := vacuous_row ends vacuous
    refine ⟨row,of,?_⟩
    rw [hollow.2,hollow.1]
    exact rfl

theorem buildMatch_named {runtime : Runtime Object} {compilePart : Fields Object → Except MongoError Part}
    {data : Fields Object} {op : String} (named : data.lookup "op" = some (.text op)) {filter : MongoFilter Part}
    (compiled : MongoQueryBuilder.compileNode runtime compilePart runtime.recursionLimit (.dict data) = .ok filter) :
    MongoQueryBuilder.buildMatch runtime compilePart data = .ok (.compiled filter) := by
  cases data with
  | nil => cases named
  | cons field rest =>
    have known : (["attr","op","conditions"].any fun key => ((field::rest).lookup key).isSome) = true := by
      rw [List.any_eq_true]
      refine ⟨"op",by simp,?_⟩
      rw [named]
      exact rfl
    unfold MongoQueryBuilder.buildMatch
    rw [known,compiled]
    exact rfl

/-- A specification with its dict: built from it, or written to it. -/
inductive Comes (runtime : Runtime Object) (data : Fields Object) (specification : Specification Object) : Prop
  | fromDict (allowedFields : Option (List String))
      (accepted : SpecificationFactory.fromDict runtime allowedFields (.dict data) = .ok specification)
  | toDict (same : data = specification.toDict) (plain : ∀ leaf ∈ specification.leaves, leaf.op.value ∉ logicalOperators)

theorem back_ends_agree (ends : BackEnds Object Part Column) (lowers : Lowers ends.runtime) {data : Fields Object}
    {specification : Specification Object} (comes : Comes ends.runtime data specification)
    (alike : Alike ends ends.runtime.recursionLimit (.dict data)) : ∃ result, ends.Gives data specification result := by
  obtain ⟨row,of,selects⟩ := alike.row
  have built : row.specification = specification := by
    cases comes with
    | fromDict allowedFields accepted =>
      obtain ⟨_,_,built⟩ := bind_ok.mp accepted
      exact Except.ok.inj (of.built.symm.trans built)
    | toDict same plain =>
      subst same
      exact build_toDict lowers specification plain of.built
  obtain ⟨op,named⟩ := alike.named
  exact ⟨row.result,built ▸ of.satisfied,⟨row.filter,buildMatch_named named of.compiled,of.selected⟩,row.clause,
    of.expressed,selects⟩

def presence : BackEnds Empty String String where
  runtime := Runtime.ascii
  registry := {
    getattr := fun _ _ => .null
    evaluate := fun op actual _ => match op,actual with
      | .isNotNull,.null => .ok false
      | .isNotNull,_ => .ok true
      | _,_ => .error .valueError}
  attributes := [("name",.text "bob")]
  compilePart data := match data.lookup "attr" with
    | some (.text attr) => .ok attr
    | _ => .error (.query "Specification missing 'attr'")
  matched part := part = "name"
  compileColumn data _ := match data.item "attr" with
    | .ok (.text attr) => .ok attr
    | _ => .error .valueError
  truth column := .ofBool (column = "name")

def present (attr : String) : Fields Empty := [("op",.text "is_not_null"),("attr",.text attr)]

theorem present_name : presence.LeafAgrees (present "name") "is_not_null" ⟨.text "name",.isNotNull,.null⟩ "name" "name" true := by
  constructor
  all_goals rfl

theorem present_age : presence.LeafAgrees (present "age") "is_not_null" ⟨.text "age",.isNotNull,.null⟩ "age" "age" false := by
  constructor
  all_goals rfl

def nameOnly : Fields Empty :=
  [("op",.text "AND"),("conditions",.list [.dict (present "name"),
    .dict [("op",.text "not"),("conditions",.list [.dict (present "age")])]])]

theorem lowers_ascii : Lowers Runtime.ascii := by
  intro operator
  cases operator <;> rfl

theorem alike_nameOnly : Alike presence 1000 (.dict nameOnly) := by
  have first : Uniform presence 999 (.dict (present "name")) := .leaf rfl (by decide) present_name
  have second : Uniform presence 999 (.dict [("op",.text "not"),("conditions",.list [.dict (present "age")])]) :=
    .not rfl rfl (.conditions (.inl rfl) (.inl rfl)) (.leaf rfl (by decide) present_age)
  refine .inl (.and rfl rfl rfl ?_ List.mem_cons_self first)
  intro node member _
  rcases List.mem_cons.mp member with rfl | later
  · exact first
  · exact List.mem_singleton.mp later ▸ second

theorem back_ends_agree_named : Lowers presence.runtime ∧ Alike presence 1000 (.dict nameOnly) ∧
    ∃ specification, Comes presence.runtime nameOnly specification ∧ ∃ result, presence.Gives nameOnly specification result := by
  have comes : Comes presence.runtime nameOnly (.and [.attribute ⟨.text "name",.isNotNull,.null⟩,
    .not (.attribute ⟨.text "age",.isNotNull,.null⟩)]) := .fromDict none (by rfl)
  exact ⟨lowers_ascii,alike_nameOnly,_,comes,back_ends_agree presence lowers_ascii comes alike_nameOnly⟩

theorem not_given {ends : BackEnds Object Part Column} {data : Fields Object} {specification : Specification Object}
    {result : Bool} (memory : specification.isSatisfiedBy ends.registry ends.attributes = .ok result)
    (other : (∃ filter, MongoQueryBuilder.buildMatch ends.runtime ends.compilePart data = .ok (.compiled filter) ∧
      filter.selects ends.matched = !result) ∨
      ∃ clause, SqlCompiler.buildSqlaFilter ends.runtime ends.compileColumn (.dict data) = .ok clause ∧
        (clause.reading ends.truth).selects ≠ some result) : ¬∃ result, ends.Gives data specification result := by
  intro ⟨truth,gives⟩
  cases memory.symm.trans gives.memory
  rcases other with ⟨filter,built,differs⟩ | ⟨clause,built,differs⟩
  · obtain ⟨found,same,selected⟩ := gives.mongo
    cases built.symm.trans same
    cases result with
    | true => cases differs.symm.trans selected
    | false => cases differs.symm.trans selected
  · obtain ⟨found,same,selected⟩ := gives.sql
    cases built.symm.trans same
    exact differs selected

/-- A negation of two conditions, with both keys and of an empty conjunction; an empty disjunction, and one of an empty
conjunction beside another condition. -/
theorem back_ends_differ :
    (Comes presence.runtime [("op",.text "not"),("conditions",.list [.dict (present "name"),.dict (present "age")])]
        (.not (.attribute ⟨.text "name",.isNotNull,.null⟩)) ∧
      ¬∃ result, presence.Gives [("op",.text "not"),("conditions",.list [.dict (present "name"),.dict (present "age")])]
        (.not (.attribute ⟨.text "name",.isNotNull,.null⟩)) result) ∧
    (Comes presence.runtime
        [("op",.text "not"),("conditions",.list [.dict (present "name")]),("condition",.dict (present "age"))]
        (.not (.attribute ⟨.text "name",.isNotNull,.null⟩)) ∧
      ¬∃ result, presence.Gives
        [("op",.text "not"),("conditions",.list [.dict (present "name")]),("condition",.dict (present "age"))]
        (.not (.attribute ⟨.text "name",.isNotNull,.null⟩)) result) ∧
    (Comes presence.runtime (Specification.not (.and [])).toDict (.not (.and [])) ∧
      ¬∃ result, presence.Gives (Specification.not (.and [])).toDict (.not (.and [])) result) ∧
    (Comes presence.runtime (Specification.or []).toDict (.or []) ∧
      ¬∃ result, presence.Gives (Specification.or []).toDict (.or []) result) ∧
    (Comes presence.runtime (Specification.or [.and [],.attribute ⟨.text "age",.isNotNull,.null⟩]).toDict
        (.or [.and [],.attribute ⟨.text "age",.isNotNull,.null⟩]) ∧
      ¬∃ result, presence.Gives (Specification.or [.and [],.attribute ⟨.text "age",.isNotNull,.null⟩]).toDict
        (.or [.and [],.attribute ⟨.text "age",.isNotNull,.null⟩]) result) := by
  refine ⟨⟨.fromDict none (by rfl),?_⟩,⟨.fromDict none (by rfl),?_⟩,⟨.toDict rfl (by simp [Specification.leaves,leavesOf]),?_⟩,
    ⟨.toDict rfl (by simp [Specification.leaves,leavesOf]),?_⟩,⟨.toDict rfl ?_,?_⟩⟩
  · exact not_given rfl (.inr ⟨.not (.and [.leaf "name",.leaf "age"]),by rfl,by decide⟩)
  · exact not_given rfl (.inl ⟨.nor [.leaf "age"],by rfl,rfl⟩)
  · exact not_given rfl (.inl ⟨.empty,by rfl,rfl⟩)
  · exact not_given rfl (.inl ⟨.empty,by rfl,rfl⟩)
  · simp [Specification.leaves,leavesOf,logicalOperators,SpecificationOperator.value]
  · exact not_given rfl (.inr ⟨.or [.and [],.leaf "age"],by rfl,by decide⟩)

end BackEnds

end CqrsDdd.Specifications
