import CqrsDdd.Filtering.Soundness
import CqrsDdd.Specifications.Casting

/-! Whether the validation and the construction of a specification agree: which nodes the
one visits, which parts the other makes of them, and where they go different ways. -/
namespace CqrsDdd.Specifications

open SpecificationOperator SpecificationFactory Attempts Filtering

variable {Object : Type}

/-- The part at a position, the indices of the parts on the way. -/
def Specification.part : List Nat → Specification Object → Option (Specification Object)
  | [],specification => some specification
  | index::path,.and specifications => specifications[index]?.bind (part path)
  | index::path,.or specifications => specifications[index]?.bind (part path)
  | 0::path,.not specification => specification.part path
  | _,_ => none

/-- The validation of the first value comes to the second at a position. -/
inductive Visits (runtime : Runtime Object) : Value Object → List Nat → Value Object → Prop
  | here (node : Value Object) : Visits runtime node [] node
  | item {data : Fields Object} {op : String} {nodes : List (Value Object)} {index : Nat} {path : List Nat}
      {child node : Value Object} (named : data.lookup "op" = some (.text op))
      (logical : runtime.lower op ∈ logicalOperators) (listed : data.lookup "conditions" = some (.list nodes))
      (there : nodes[index]? = some child) (later : Visits runtime child path node) :
      Visits runtime (.dict data) (index::path) node
  | condition {data : Fields Object} {op : String} {path : List Nat} {child node : Value Object}
      (named : data.lookup "op" = some (.text op)) (logical : runtime.lower op ∈ logicalOperators)
      (unlisted : (data.lookup "conditions").getD .null = .null) (found : data.lookup "condition" = some child)
      (later : Visits runtime child path node) : Visits runtime (.dict data) (0::path) node

/-- Every leaf was checked where it stands, and every node that was visited is built where it stands. -/
structure Agrees (runtime : Runtime Object) (allowedFields : Option (List String)) (data : Value Object)
    (specification : Specification Object) : Prop where
  checked : ∀ path leaf, specification.part path = some (.attribute leaf) → ∃ fields op place,
    Visits runtime data path (.dict fields) ∧ fields.lookup "op" = some (.text op) ∧
      fields.lookup "attr" = some leaf.attr ∧
      validateLeafNode runtime allowedFields fields (runtime.lower op) place = .ok ()
  kept : ∀ path node, Visits runtime data path node → ∃ part depth,
    specification.part path = some part ∧ build runtime depth node = .ok part

def Hollow (runtime : Runtime Object) : Nat → Value Object → Prop
  | 0,_ => False
  | depth + 1,value => ∃ data op nodes, value = .dict data ∧ opOf data = .text op ∧
      runtime.lower op ∈ logicalOperators ∧ children runtime (runtime.lower op) data = .ok nodes ∧
      ∀ node ∈ nodes, Hollow runtime depth node

/-- The shapes that both walks read alike: conditions are given as a list, of one node for a negation, or a negation has
only a condition. The condition beside an empty list is built and not checked, so that it must be hollow. -/
inductive Regular (runtime : Runtime Object) (conversions : Conversions Object) : Nat → Value Object → Prop
  | leaf {depth : Nat} {data : Fields Object} {op : String} (named : data.lookup "op" = some (.text op))
      (plain : runtime.lower op ∉ logicalOperators)
      (castable : (data.lookup "value_type").getD .null ≠ .null →
        Casting.Castable runtime conversions ((data.lookup "value_type").getD .null) ((data.lookup "val").getD .null)) :
      Regular runtime conversions (depth + 1) (.dict data)
  | conditions {depth : Nat} {data : Fields Object} {op : String} {nodes : List (Value Object)}
      (named : data.lookup "op" = some (.text op)) (logical : runtime.lower op ∈ logicalOperators)
      (listed : data.lookup "conditions" = some (.list nodes))
      (single : runtime.lower op = not.value → nodes.length = 1)
      (each : ∀ node ∈ nodes, Regular runtime conversions depth node) :
      Regular runtime conversions (depth + 1) (.dict data)
  | condition {depth : Nat} {data : Fields Object} {op : String} {node : Value Object}
      (named : data.lookup "op" = some (.text op)) (negation : runtime.lower op = not.value)
      (unlisted : (data.lookup "conditions").getD .null = .null) (found : data.lookup "condition" = some node)
      (regular : Regular runtime conversions depth node) : Regular runtime conversions (depth + 1) (.dict data)
  | hidden {depth : Nat} {data : Fields Object} {op : String} {node : Value Object}
      (named : data.lookup "op" = some (.text op)) (negation : runtime.lower op = not.value)
      (empty : data.lookup "conditions" = some (.list [])) (found : data.lookup "condition" = some node)
      (hollow : Hollow runtime depth node) : Regular runtime conversions (depth + 1) (.dict data)

namespace Specification

def Joins (wrap : List (Specification Object) → Specification Object) : Prop := wrap = .and ∨ wrap = .or

theorem part_join {wrap : List (Specification Object) → Specification Object} (joins : Joins wrap)
    (specifications : List (Specification Object)) (index : Nat) (path : List Nat) :
    (wrap specifications).part (index::path) = specifications[index]?.bind (part path) := by
  rcases joins with rfl | rfl
  · rw [part]
  · rw [part]

theorem part_not (specification : Specification Object) (path : List Nat) :
    (Specification.not specification).part (0::path) = specification.part path := by
  rw [part]

theorem part_not_later (specification : Specification Object) (index : Nat) (path : List Nat) :
    (Specification.not specification).part ((index + 1)::path) = none := by
  rw [part]
  all_goals simp

theorem part_attribute (leaf : AttributeSpecification Object) (index : Nat) (path : List Nat) :
    (Specification.attribute leaf).part (index::path) = none := by
  cases index with
  | zero =>
    rw [part]
    all_goals simp
  | succ index =>
    rw [part]
    all_goals simp

mutual
theorem part_of_leaf {leaf : AttributeSpecification Object} : (specification : Specification Object) →
    leaf ∈ specification.leaves → ∃ path, specification.part path = some (.attribute leaf)
  | .attribute other,member => by
    rw [List.mem_singleton.mp member]
    exact ⟨[],by rw [part]⟩
  | .and specifications,member => by
    obtain ⟨index,path,found⟩ := part_of_leaves specifications member
    exact ⟨index::path,by rw [part,found]⟩
  | .or specifications,member => by
    obtain ⟨index,path,found⟩ := part_of_leaves specifications member
    exact ⟨index::path,by rw [part,found]⟩
  | .not specification,member => by
    obtain ⟨path,found⟩ := part_of_leaf specification member
    exact ⟨0::path,by rw [part,found]⟩
theorem part_of_leaves {leaf : AttributeSpecification Object} : (specifications : List (Specification Object)) →
    leaf ∈ leavesOf specifications → ∃ (index : Nat) (path : List Nat),
      specifications[index]?.bind (part path) = some (.attribute leaf)
  | [],member => absurd member List.not_mem_nil
  | specification::rest,member => by
    rcases List.mem_append.mp member with first | later
    · obtain ⟨path,found⟩ := part_of_leaf specification first
      exact ⟨0,path,found⟩
    · obtain ⟨index,path,found⟩ := part_of_leaves rest later
      exact ⟨index + 1,path,found⟩
end

theorem leaf_of_part {leaf : AttributeSpecification Object} {path : List Nat} {specification : Specification Object}
    (found : specification.part path = some (.attribute leaf)) : leaf ∈ specification.leaves := by
  induction path generalizing specification with
  | nil =>
    rw [part] at found
    cases found
    exact List.mem_cons_self
  | cons index path ih =>
    have joined {specifications : List (Specification Object)}
        (found : specifications[index]?.bind (part path) = some (.attribute leaf)) : leaf ∈ leavesOf specifications := by
      obtain ⟨specification,there,deeper⟩ := Option.bind_eq_some_iff.mp found
      exact mem_leavesOf.mpr ⟨specification,List.mem_of_getElem? there,ih deeper⟩
    match specification with
    | .attribute other =>
      rw [part_attribute] at found
      cases found
    | .and specifications => exact joined (part_join (.inl rfl) specifications index path ▸ found)
    | .or specifications => exact joined (part_join (.inr rfl) specifications index path ▸ found)
    | .not specification =>
      cases index with
      | zero =>
        rw [part_not] at found
        rw [Specification.leaves]
        exact ih found
      | succ index =>
        rw [part_not_later] at found
        cases found

end Specification

namespace SpecificationFactory

variable {runtime : Runtime Object} {depth : Nat} {data : Fields Object} {op : String}
  {specification : Specification Object}

theorem opOf_named (named : data.lookup "op" = some (.text op)) : opOf data = .text op := by
  unfold opOf
  rw [named]
  rfl

theorem build_logical (named : opOf data = .text op) : build runtime (depth + 1) (.dict data) =
    if runtime.lower op = and.value then do return .and (← (← (conditionsOf data).iterate).mapM (build runtime depth))
    else if runtime.lower op = or.value then
      do return .or (← (← (conditionsOf data).iterate).mapM (build runtime depth))
    else if runtime.lower op = not.value then
      do return .not (← build runtime depth (← negated runtime (.dict data) (conditionsOf data)))
    else do return .attribute (← buildLeaf runtime (.dict data) (runtime.lower op)) := by
  have spelled : ((opOf data).lower runtime : Except Failure String) = .ok (runtime.lower op) := by
    rw [named]
    rfl
  rw [build]
  change ((opOf data).lower runtime >>= _) = _
  rw [spelled]
  rfl

theorem mem_logicalOperators {name : String} (logical : name ∈ logicalOperators) (plain : name ≠ not.value) :
    name = and.value ∨ name = or.value := by
  simpa [logicalOperators,plain] using logical

theorem build_join (named : opOf data = .text op) (logical : runtime.lower op ∈ logicalOperators)
    (plain : runtime.lower op ≠ not.value) : ∃ wrap, Specification.Joins wrap ∧ ∀ depth specification,
      (build runtime (depth + 1) (.dict data) = .ok specification ↔ ∃ nodes parts,
        (conditionsOf data).iterate = .ok nodes ∧
        List.Forall₂ (fun node part => build runtime depth node = .ok part) nodes parts ∧ wrap parts = specification) := by
  have joined (wrap : List (Specification Object) → Specification Object) (depth : Nat)
      (specification : Specification Object) :
      ((do return wrap (← (← (conditionsOf data).iterate).mapM (build runtime depth))) = .ok specification) ↔
        ∃ nodes parts, (conditionsOf data).iterate = .ok nodes ∧
          List.Forall₂ (fun node part => build runtime depth node = .ok part) nodes parts ∧
          wrap parts = specification := by
    rw [bind_ok]
    constructor
    · rintro ⟨nodes,iterated,built⟩
      obtain ⟨parts,mapped,same⟩ := bind_ok.mp built
      exact ⟨nodes,parts,iterated,mapM_forall₂.mp mapped,pure_ok.mp same⟩
    · rintro ⟨nodes,parts,iterated,mapped,same⟩
      exact ⟨nodes,iterated,bind_ok.mpr ⟨parts,mapM_forall₂.mpr mapped,pure_ok.mpr same⟩⟩
  rcases mem_logicalOperators logical plain with conjunction | disjunction
  · refine ⟨.and,.inl rfl,fun depth specification => ?_⟩
    rw [build_logical named,if_pos conjunction]
    exact joined .and depth specification
  · refine ⟨.or,.inr rfl,fun depth specification => ?_⟩
    rw [build_logical named,if_neg (by rw [disjunction]; decide),if_pos disjunction]
    exact joined .or depth specification

theorem build_not (named : opOf data = .text op) (negation : runtime.lower op = not.value) :
    build runtime (depth + 1) (.dict data) = .ok specification ↔ ∃ node part,
      negated runtime (.dict data) (conditionsOf data) = .ok node ∧ build runtime depth node = .ok part ∧
        .not part = specification := by
  rw [build_logical named,if_neg (by rw [negation]; decide),if_neg (by rw [negation]; decide),if_pos negation,bind_ok]
  constructor
  · rintro ⟨node,found,built⟩
    obtain ⟨part,made,same⟩ := bind_ok.mp built
    exact ⟨node,part,found,made,pure_ok.mp same⟩
  · rintro ⟨node,part,found,made,same⟩
    exact ⟨node,found,bind_ok.mpr ⟨part,made,pure_ok.mpr same⟩⟩

theorem build_leaf (named : opOf data = .text op) (plain : runtime.lower op ∉ logicalOperators) :
    build runtime (depth + 1) (.dict data) = .ok specification ↔ ∃ leaf,
      buildLeaf runtime (.dict data) (runtime.lower op) = .ok leaf ∧ .attribute leaf = specification := by
  have apart : runtime.lower op ≠ and.value ∧ runtime.lower op ≠ or.value ∧ runtime.lower op ≠ not.value := by
    simpa [logicalOperators] using plain
  rw [build_logical named,if_neg apart.1,if_neg apart.2.1,if_neg apart.2.2,bind_ok]
  constructor
  · rintro ⟨leaf,made,same⟩
    exact ⟨leaf,made,pure_ok.mp same⟩
  · rintro ⟨leaf,made,same⟩
    exact ⟨leaf,made,pure_ok.mpr same⟩

inductive Accepted (runtime : Runtime Object) (allowedFields : Option (List String)) (depth : Nat)
    (data : Fields Object) (op : String) : Prop
  | leaf (place : String) (plain : runtime.lower op ∉ logicalOperators)
      (checked : validateLeafNode runtime allowedFields data (runtime.lower op) place = .ok ())
  | conditions (nodes : List (Value Object)) (logical : runtime.lower op ∈ logicalOperators)
      (listed : data.lookup "conditions" = some (.list nodes))
      (given : nodes ≠ [] ∨ ∃ node, data.lookup "condition" = some node)
      (each : ∀ node ∈ nodes, ∃ place, validateNode runtime allowedFields depth node place = .ok ())
  | condition (node : Value Object) (place : String) (logical : runtime.lower op ∈ logicalOperators)
      (unlisted : (data.lookup "conditions").getD .null = .null) (found : data.lookup "condition" = some node)
      (accepted : validateNode runtime allowedFields depth node place = .ok ())

theorem validateNode_accepted {allowedFields : Option (List String)} {value : Value Object} {place : String}
    (accepted : validateNode runtime allowedFields (depth + 1) value place = .ok ()) :
    ∃ data op, value = .dict data ∧ data.lookup "op" = some (.text op) ∧
      Accepted runtime allowedFields depth data op := by
  rw [validateNode.eq_def] at accepted
  split at accepted
  next => contradiction
  next less data same =>
    cases same
    split at accepted
    next op named =>
      split at accepted
      next => cases accepted
      next =>
        refine ⟨data,op,rfl,named,?_⟩
        split at accepted
        next logical =>
          unfold validateLogicalNode at accepted
          dsimp only at accepted
          split at accepted
          next => cases accepted
          next given =>
            split at accepted
            next nodes listed =>
              have stored : data.lookup "conditions" = some (.list nodes) := by
                cases found : data.lookup "conditions" with
                | none =>
                  rw [found] at listed
                  cases listed
                | some conditions =>
                  rw [found] at listed
                  exact congrArg some listed
              refine .conditions nodes logical stored ?_ fun node member => ?_
              · rw [listed] at given
                by_contra neither
                rw [not_or,not_not,not_exists] at neither
                obtain ⟨rfl,absent⟩ := neither
                have none : data.lookup "condition" = none := by
                  cases found : data.lookup "condition" with
                  | none => rfl
                  | some node => exact absurd found (absent node)
                exact given (by rw [none]; rfl)
              · obtain ⟨index,there⟩ := List.mem_iff_getElem?.mp member
                have pair : (node,index) ∈ nodes.zipIdx := List.mem_zipIdx_iff_getElem?.mpr there
                exact ⟨_,forM_ok.mp accepted (node,index) pair⟩
            next node unlisted found => exact .condition node _ logical unlisted found accepted
            next unlisted absent =>
              rw [unlisted,absent] at given
              exact absurd rfl given
            next => cases accepted
        next plain => exact .leaf _ plain accepted
    next => cases accepted
  next => cases accepted

/-- The node that the validation visits next at an index. -/
def Below (data : Fields Object) (index : Nat) (child : Value Object) : Prop :=
  (∃ nodes, data.lookup "conditions" = some (.list nodes) ∧ nodes[index]? = some child) ∨
    ((data.lookup "conditions").getD .null = .null ∧ index = 0 ∧ data.lookup "condition" = some child)

theorem Below.unique {index : Nat} {child other : Value Object} (below : Below data index child)
    (again : Below data index other) : child = other := by
  rcases below with ⟨nodes,listed,there⟩ | ⟨unlisted,_,found⟩
  · rcases again with ⟨others,relisted,here⟩ | ⟨unlisted,_,_⟩
    · cases listed.symm.trans relisted
      exact Option.some.inj (there.symm.trans here)
    · rw [listed] at unlisted
      cases unlisted
  · rcases again with ⟨others,relisted,_⟩ | ⟨_,_,refound⟩
    · rw [relisted] at unlisted
      cases unlisted
    · exact Option.some.inj (found.symm.trans refound)

theorem visits_below (named : data.lookup "op" = some (.text op)) (logical : runtime.lower op ∈ logicalOperators)
    {index : Nat} {path : List Nat} {node : Value Object} :
    Visits runtime (.dict data) (index::path) node ↔ ∃ child, Below data index child ∧ Visits runtime child path node := by
  constructor
  · intro visits
    cases visits with
    | item _ _ listed there later => exact ⟨_,.inl ⟨_,listed,there⟩,later⟩
    | condition _ _ unlisted found later => exact ⟨_,.inr ⟨unlisted,rfl,found⟩,later⟩
  · rintro ⟨child,⟨nodes,listed,there⟩ | ⟨unlisted,rfl,found⟩,later⟩
    · exact .item named logical listed there later
    · exact .condition named logical unlisted found later

theorem agrees_below (allowedFields : Option (List String)) (named : data.lookup "op" = some (.text op))
    (logical : runtime.lower op ∈ logicalOperators) (built : build runtime depth (.dict data) = .ok specification)
    (compound : ∀ leaf, specification ≠ .attribute leaf) (parts : Nat → Option (Specification Object))
    (parted : ∀ index path, specification.part (index::path) = (parts index).bind (Specification.part path)) :
    Agrees runtime allowedFields (.dict data) specification ↔
      (∀ index part, parts index = some part → (∃ child, Below data index child ∧ Agrees runtime allowedFields child part) ∨
        (∀ child, ¬Below data index child) ∧ part.leaves = []) ∧
      ∀ index child, Below data index child → ∃ part, parts index = some part := by
  constructor
  · intro agrees
    have present (index : Nat) (child : Value Object) (below : Below data index child) :
        ∃ part, parts index = some part := by
      have visits := (visits_below named logical).mpr ⟨child,below,Visits.here child⟩
      obtain ⟨part,_,found,_⟩ := agrees.kept [index] child visits
      rw [parted] at found
      obtain ⟨part,there,_⟩ := Option.bind_eq_some_iff.mp found
      exact ⟨part,there⟩
    refine ⟨fun index part there => ?_,present⟩
    have beneath (path : List Nat) : specification.part (index::path) = part.part path := by
      rw [parted,there]
      rfl
    by_cases visited : ∃ child, Below data index child
    · obtain ⟨child,below⟩ := visited
      refine .inl ⟨child,below,fun path leaf found => ?_,fun path node visits => ?_⟩
      · obtain ⟨fields,name,place,visits,rest⟩ := agrees.checked (index::path) leaf ((beneath path).trans found)
        obtain ⟨other,again,later⟩ := (visits_below named logical).mp visits
        cases below.unique again
        exact ⟨fields,name,place,later,rest⟩
      · obtain ⟨found,less,here,made⟩ := agrees.kept (index::path) node
          ((visits_below named logical).mpr ⟨child,below,visits⟩)
        exact ⟨found,less,(beneath path).symm.trans here,made⟩
    · refine .inr ⟨not_exists.mp visited,List.eq_nil_iff_forall_not_mem.mpr fun leaf member => ?_⟩
      obtain ⟨path,found⟩ := Specification.part_of_leaf part member
      obtain ⟨_,_,_,visits,_⟩ := agrees.checked (index::path) leaf ((beneath path).trans found)
      obtain ⟨child,below,_⟩ := (visits_below named logical).mp visits
      exact visited ⟨child,below⟩
  · rintro ⟨agreeing,present⟩
    constructor
    case checked =>
      intro path leaf found
      cases path with
      | nil =>
        rw [Specification.part] at found
        exact absurd (Option.some.inj found) (compound leaf)
      | cons index path =>
        rw [parted] at found
        obtain ⟨part,there,deeper⟩ := Option.bind_eq_some_iff.mp found
        rcases agreeing index part there with ⟨child,below,agrees⟩ | ⟨_,bare⟩
        · obtain ⟨fields,name,place,visits,rest⟩ := agrees.checked path leaf deeper
          exact ⟨fields,name,place,(visits_below named logical).mpr ⟨child,below,visits⟩,rest⟩
        · have member := Specification.leaf_of_part deeper
          rw [bare] at member
          exact absurd member List.not_mem_nil
    case kept =>
      intro path node visits
      cases path with
      | nil =>
        cases visits
        exact ⟨specification,depth,by rw [Specification.part],built⟩
      | cons index path =>
        obtain ⟨child,below,later⟩ := (visits_below named logical).mp visits
        obtain ⟨part,there⟩ := present index child below
        rcases agreeing index part there with ⟨other,again,agrees⟩ | ⟨unvisited,_⟩
        · cases below.unique again
          obtain ⟨found,less,here,made⟩ := agrees.kept path node later
          refine ⟨found,less,?_,made⟩
          rw [parted,there]
          exact here
        · exact absurd below (unvisited child)

theorem ofValue_known {name : String} (known : name ∈ validOperators) : ∃ operator, ofValue name = .ok operator := by
  obtain ⟨operator,member,same⟩ := List.mem_map.mp known
  unfold ofValue
  cases found : members.find? fun operator => operator.value = name with
  | none => exact absurd (decide_eq_true same) (List.find?_eq_none.mp found operator member)
  | some other => exact ⟨other,rfl⟩

theorem validateLeafNode_ok {allowedFields : Option (List String)} {name place : String}
    (checked : validateLeafNode runtime allowedFields data name place = .ok ()) :
    name ∈ validOperators ∧ ∃ attr, data.lookup "attr" = some (.text attr) := by
  unfold validateLeafNode at checked
  dsimp only at checked
  split at checked
  next => cases checked
  next known =>
    split at checked
    next attr found => exact ⟨not_not.mp known,attr,found⟩
    next => cases checked

theorem negated_of_children {nodes : List (Value Object)} (listed : children runtime not.value data = .ok nodes) :
    ∃ node, nodes = [node] ∧ negated runtime (.dict data) (conditionsOf data) = .ok node := by
  rw [children,if_neg (fun differs => differs rfl)] at listed
  unfold negated
  split at listed
  next condition falsy found =>
    cases listed
    refine ⟨condition,rfl,?_⟩
    change (if (!(conditionsOf data).isTruthy runtime && (data.lookup "condition").isSome) = true then _ else _) = _
    rw [falsy,found]
    change (data.lookup "condition").elim _ _ = _
    rw [found]
    rfl
  next apart =>
    cases first : (conditionsOf data).first with
    | error failure =>
      rw [first] at listed
      cases listed
    | ok node =>
      rw [first] at listed
      cases listed
      refine ⟨node,rfl,?_⟩
      change (if (!(conditionsOf data).isTruthy runtime && (data.lookup "condition").isSome) = true then _ else _) = _
      rw [if_neg]
      intro both
      obtain ⟨falsy,present⟩ := Bool.and_eq_true_iff.mp both
      obtain ⟨condition,found⟩ := Option.isSome_iff_exists.mp present
      exact apart condition (by simpa using falsy) found

section Casting

variable {base : Runtime Object} {conversions : Conversions Object}

theorem castLeaf_ok (val valueType : Value Object) :
    (∃ cast, castLeaf (base.casting conversions) val valueType = .ok cast) ↔
      (valueType ≠ .null → Casting.Castable (base.casting conversions) conversions valueType val) := by
  rw [Casting.castable_casting,← Casting.castValue_ok]
  cases valueType with
  | null => exact ⟨fun _ differs => absurd rfl differs,fun _ => ⟨val,rfl⟩⟩
  | bool _ | number _ | text _ | list _ | tuple _ | dict _ | object _ =>
    exact ⟨fun cast _ => cast,fun cast => cast (by simp)⟩

theorem buildLeaf_castable {attr : Value Object} {name : String} (known : name ∈ validOperators)
    (found : data.lookup "attr" = some attr) :
    (∃ leaf, buildLeaf (base.casting conversions) (.dict data) name = .ok leaf) ↔
      ((data.lookup "value_type").getD .null ≠ .null → Casting.Castable (base.casting conversions) conversions
        ((data.lookup "value_type").getD .null) ((data.lookup "val").getD .null)) := by
  rw [← castLeaf_ok]
  obtain ⟨operator,named⟩ := ofValue_known known
  have read : Value.item "attr" (.dict data) = .ok attr := by
    change (data.lookup "attr").elim _ _ = _
    rw [found]
    rfl
  unfold buildLeaf
  constructor
  · rintro ⟨leaf,built⟩
    obtain ⟨_,_,built⟩ := bind_ok.mp built
    obtain ⟨val,given,built⟩ := bind_ok.mp built
    obtain ⟨valueType,typed,built⟩ := bind_ok.mp built
    obtain ⟨cast,made,_⟩ := bind_ok.mp built
    obtain rfl := Except.ok.inj given
    obtain rfl := Except.ok.inj typed
    exact ⟨cast,made⟩
  · rintro ⟨cast,made⟩
    refine ⟨⟨attr,operator,cast⟩,?_⟩
    refine bind_ok.mpr ⟨attr,read,bind_ok.mpr ⟨_,rfl,bind_ok.mpr ⟨_,rfl,bind_ok.mpr ⟨cast,made,?_⟩⟩⟩⟩
    exact bind_ok.mpr ⟨operator,named,rfl⟩

end Casting

theorem leavesOf_nil {parts : List (Specification Object)} :
    leavesOf parts = [] ↔ ∀ part ∈ parts, part.leaves = [] := by
  constructor
  · intro bare part member
    refine List.eq_nil_iff_forall_not_mem.mpr fun leaf inside => ?_
    have present := mem_leavesOf.mpr ⟨part,member,inside⟩
    rw [bare] at present
    exact absurd present List.not_mem_nil
  · intro each
    refine List.eq_nil_iff_forall_not_mem.mpr fun leaf inside => ?_
    obtain ⟨part,member,deeper⟩ := mem_leavesOf.mp inside
    rw [each part member] at deeper
    exact absurd deeper List.not_mem_nil

theorem leaves_join {wrap : List (Specification Object) → Specification Object} (joins : Specification.Joins wrap)
    (parts : List (Specification Object)) : (wrap parts).leaves = leavesOf parts := by
  rcases joins with rfl | rfl
  · rw [Specification.leaves]
  · rw [Specification.leaves]

theorem hollow_built {value : Value Object} (hollow : Hollow runtime depth value) :
    ∃ part, build runtime depth value = .ok part ∧ part.leaves = [] := by
  induction depth generalizing value with
  | zero => exact hollow.elim
  | succ depth ih =>
    obtain ⟨data,op,nodes,rfl,named,logical,listed,each⟩ := hollow
    by_cases negation : runtime.lower op = not.value
    · rw [negation] at listed
      obtain ⟨node,rfl,found⟩ := negated_of_children listed
      obtain ⟨part,built,bare⟩ := ih (each node List.mem_cons_self)
      exact ⟨.not part,(build_not named negation).mpr ⟨node,part,found,built,rfl⟩,by rw [Specification.leaves,bare]⟩
    · obtain ⟨wrap,joins,built⟩ := build_join named logical negation
      have iterated : (conditionsOf data).iterate = .ok nodes := by
        rwa [children,if_pos negation] at listed
      have parts : ∃ parts, List.Forall₂ (fun node part => build runtime depth node = .ok part) nodes parts ∧
          ∀ part ∈ parts, part.leaves = [] := by
        clear listed iterated
        induction nodes with
        | nil => exact ⟨[],.nil,fun _ member => absurd member List.not_mem_nil⟩
        | cons node rest again =>
          obtain ⟨part,made,bare⟩ := ih (each node List.mem_cons_self)
          obtain ⟨parts,related,others⟩ := again fun other member => each other (List.mem_cons_of_mem node member)
          exact ⟨part::parts,.cons made related,List.forall_mem_cons.mpr ⟨bare,others⟩⟩
      obtain ⟨parts,related,bare⟩ := parts
      refine ⟨wrap parts,(built depth _).mpr ⟨nodes,parts,iterated,related,rfl⟩,?_⟩
      rw [leaves_join joins]
      exact leavesOf_nil.mpr bare

theorem hollow_of_bare {value : Value Object} {part : Specification Object}
    (built : build runtime depth value = .ok part) (bare : part.leaves = []) : Hollow runtime depth value := by
  induction depth generalizing value part with
  | zero => cases built
  | succ depth ih =>
    obtain ⟨data,op,rfl,named,⟨logical,nodes,parts,listed,answers,leaves⟩ | ⟨_,leaf,rfl,_⟩⟩ := build_cases built
    · refine ⟨data,op,nodes,rfl,named,logical,listed,fun node member => ?_⟩
      obtain ⟨inner,present,made⟩ := answers.1 node member
      exact ih made (leavesOf_nil.mp (leaves ▸ bare) inner present)
    · rw [Specification.leaves] at bare
      cases bare

theorem regular_cases {conversions : Conversions Object} (named : data.lookup "op" = some (.text op))
    (regular : Regular runtime conversions (depth + 1) (.dict data)) :
    (runtime.lower op ∉ logicalOperators ∧ ((data.lookup "value_type").getD .null ≠ .null →
      Casting.Castable runtime conversions ((data.lookup "value_type").getD .null) ((data.lookup "val").getD .null))) ∨
    (runtime.lower op ∈ logicalOperators ∧ ∃ nodes, data.lookup "conditions" = some (.list nodes) ∧
      (runtime.lower op = not.value → nodes.length = 1) ∧ ∀ node ∈ nodes, Regular runtime conversions depth node) ∨
    (runtime.lower op = not.value ∧ (data.lookup "conditions").getD .null = .null ∧
      ∃ node, data.lookup "condition" = some node ∧ Regular runtime conversions depth node) ∨
    (runtime.lower op = not.value ∧ data.lookup "conditions" = some (.list []) ∧
      ∃ node, data.lookup "condition" = some node ∧ Hollow runtime depth node) := by
  cases regular with
  | leaf again plain castable =>
    cases named.symm.trans again
    exact .inl ⟨plain,castable⟩
  | conditions again logical listed single each =>
    cases named.symm.trans again
    exact .inr (.inl ⟨logical,_,listed,single,each⟩)
  | condition again negation unlisted found deeper =>
    cases named.symm.trans again
    exact .inr (.inr (.inl ⟨negation,unlisted,_,found,deeper⟩))
  | hidden again negation empty found hollow =>
    cases named.symm.trans again
    exact .inr (.inr (.inr ⟨negation,empty,_,found,hollow⟩))

theorem below_listed {nodes : List (Value Object)} (listed : data.lookup "conditions" = some (.list nodes))
    {index : Nat} {child : Value Object} : Below data index child ↔ nodes[index]? = some child := by
  constructor
  · rintro (⟨others,relisted,there⟩ | ⟨unlisted,_,_⟩)
    · cases listed.symm.trans relisted
      exact there
    · rw [listed] at unlisted
      cases unlisted
  · exact fun there => .inl ⟨nodes,listed,there⟩

theorem below_unlisted (unlisted : (data.lookup "conditions").getD .null = .null) {index : Nat} {child : Value Object} :
    Below data index child ↔ index = 0 ∧ data.lookup "condition" = some child := by
  constructor
  · rintro (⟨nodes,listed,_⟩ | ⟨_,first,found⟩)
    · rw [listed] at unlisted
      cases unlisted
    · exact ⟨first,found⟩
  · exact fun ⟨first,found⟩ => .inr ⟨unlisted,first,found⟩

theorem negated_condition {node : Value Object} (falsy : (conditionsOf data).isTruthy runtime = false)
    (found : data.lookup "condition" = some node) :
    negated runtime (.dict data) (conditionsOf data) = .ok node := by
  have listed : children runtime not.value data = .ok [node] := children_of_via ⟨rfl,falsy,found ▸ rfl⟩ found
  obtain ⟨other,same,negated⟩ := negated_of_children listed
  cases same
  exact negated

theorem negated_first {node : Value Object} {rest : List (Value Object)}
    (listed : data.lookup "conditions" = some (.list (node::rest))) :
    negated runtime (.dict data) (conditionsOf data) = .ok node := by
  unfold conditionsOf
  rw [listed]
  rfl

theorem agrees_not {allowedFields : Option (List String)} (named : data.lookup "op" = some (.text op))
    (negation : runtime.lower op = not.value) {node : Value Object}
    (source : negated runtime (.dict data) (conditionsOf data) = .ok node) :
    (∃ specification, build runtime (depth + 1) (.dict data) = .ok specification ∧
      Agrees runtime allowedFields (.dict data) specification) ↔
    ∃ part, build runtime depth node = .ok part ∧
      ((∃ child, Below data 0 child ∧ Agrees runtime allowedFields child part) ∨
        (∀ child, ¬Below data 0 child) ∧ part.leaves = []) ∧
      ∀ index child, ¬Below data (index + 1) child := by
  have logical : runtime.lower op ∈ logicalOperators := negation ▸ not_mem_logical
  have agreed (part : Specification Object) (made : build runtime depth node = .ok part) :=
    agrees_below allowedFields named logical
      ((build_not (opOf_named named) negation).mpr ⟨node,part,source,made,rfl⟩) (fun _ same => nomatch same)
      (fun index => if index = 0 then some part else none) (fun index path => by
        cases index with
        | zero => exact Specification.part_not part path
        | succ index => exact Specification.part_not_later part index path)
  constructor
  · rintro ⟨specification,built,agrees⟩
    obtain ⟨other,part,found,made,rfl⟩ := (build_not (opOf_named named) negation).mp built
    cases source.symm.trans found
    obtain ⟨agreeing,present⟩ := (agreed part made).mp agrees
    refine ⟨part,made,agreeing 0 part rfl,fun index child below => ?_⟩
    obtain ⟨_,missing⟩ := present (index + 1) child below
    cases missing
  · rintro ⟨part,made,agrees,alone⟩
    refine ⟨.not part,(build_not (opOf_named named) negation).mpr ⟨node,part,source,made,rfl⟩,(agreed part made).mpr ⟨?_,?_⟩⟩
    · intro index other there
      cases index with
      | zero =>
        cases there
        exact agrees
      | succ index => cases there
    · intro index child below
      cases index with
      | zero => exact ⟨part,rfl⟩
      | succ index => exact absurd below (alone index child)

theorem agrees_join {allowedFields : Option (List String)} (named : data.lookup "op" = some (.text op))
    (logical : runtime.lower op ∈ logicalOperators) (plain : runtime.lower op ≠ not.value) {nodes : List (Value Object)}
    (listed : data.lookup "conditions" = some (.list nodes)) :
    (∃ specification, build runtime (depth + 1) (.dict data) = .ok specification ∧
      Agrees runtime allowedFields (.dict data) specification) ↔
    ∀ node ∈ nodes, ∃ part, build runtime depth node = .ok part ∧ Agrees runtime allowedFields node part := by
  obtain ⟨wrap,joins,built⟩ := build_join (opOf_named named) logical plain
  have iterated : (conditionsOf data).iterate = .ok nodes := by
    unfold conditionsOf
    rw [listed]
    rfl
  have compound (parts : List (Specification Object)) (leaf : AttributeSpecification Object) :
      wrap parts ≠ .attribute leaf := by
    rcases joins with rfl | rfl
    · exact fun same => nomatch same
    · exact fun same => nomatch same
  have agreed (parts : List (Specification Object))
      (related : List.Forall₂ (fun node part => build runtime depth node = .ok part) nodes parts) :=
    agrees_below allowedFields named logical ((built depth _).mpr ⟨nodes,parts,iterated,related,rfl⟩) (compound parts)
      (fun index => parts[index]?) (Specification.part_join joins parts)
  constructor
  · rintro ⟨specification,made,agrees⟩ node member
    obtain ⟨others,parts,again,related,rfl⟩ := (built depth specification).mp made
    cases iterated.symm.trans again
    obtain ⟨index,there⟩ := List.mem_iff_getElem?.mp member
    obtain ⟨part,beside,made⟩ := related_left related there
    rcases ((agreed parts related).mp agrees).1 index part beside with ⟨child,below,agrees⟩ | ⟨unvisited,_⟩
    · cases ((below_listed listed).mp below).symm.trans there
      exact ⟨part,made,agrees⟩
    · exact absurd ((below_listed listed).mpr there) (unvisited node)
  · intro each
    have parts : ∃ parts, List.Forall₂ (fun node part =>
        build runtime depth node = .ok part ∧ Agrees runtime allowedFields node part) nodes parts := by
      clear listed iterated agreed
      induction nodes with
      | nil => exact ⟨[],.nil⟩
      | cons node rest ih =>
        obtain ⟨part,first⟩ := each node List.mem_cons_self
        obtain ⟨parts,others⟩ := ih fun other member => each other (List.mem_cons_of_mem node member)
        exact ⟨part::parts,.cons first others⟩
    obtain ⟨parts,both⟩ := parts
    have related := both.imp fun _ _ pair => pair.1
    refine ⟨wrap parts,(built depth _).mpr ⟨nodes,parts,iterated,related,rfl⟩,(agreed parts related).mpr ⟨?_,?_⟩⟩
    · intro index part there
      obtain ⟨node,beside,_,agrees⟩ := related_right both there
      exact .inl ⟨node,(below_listed listed).mpr beside,agrees⟩
    · intro index child below
      obtain ⟨part,beside,_⟩ := related_left both ((below_listed listed).mp below)
      exact ⟨part,beside⟩

theorem not_agrees_condition {allowedFields : Option (List String)} (named : data.lookup "op" = some (.text op))
    (logical : runtime.lower op ∈ logicalOperators) (plain : runtime.lower op ≠ not.value)
    (unlisted : (data.lookup "conditions").getD .null = .null) {node : Value Object}
    (found : data.lookup "condition" = some node) (built : build runtime (depth + 1) (.dict data) = .ok specification) :
    ¬Agrees runtime allowedFields (.dict data) specification := by
  intro agrees
  obtain ⟨wrap,joins,shape⟩ := build_join (opOf_named named) logical plain
  obtain ⟨nodes,parts,iterated,related,rfl⟩ := (shape depth specification).mp built
  have empty : nodes = [] := by
    unfold conditionsOf at iterated
    cases given : data.lookup "conditions" with
    | none =>
      rw [given] at iterated
      exact (Except.ok.inj iterated).symm
    | some conditions =>
      rw [given] at unlisted iterated
      cases unlisted
      cases iterated
  cases empty
  cases related
  obtain ⟨part,_,there,_⟩ := agrees.kept [0] node
    ((visits_below named logical).mpr ⟨node,(below_unlisted unlisted).mpr ⟨rfl,found⟩,.here node⟩)
  rw [Specification.part_join joins] at there
  cases there

theorem agrees_leaf {base : Runtime Object} {conversions : Conversions Object} {allowedFields : Option (List String)}
    {place : String} (named : data.lookup "op" = some (.text op))
    (plain : (base.casting conversions).lower op ∉ logicalOperators)
    (checked : validateLeafNode (base.casting conversions) allowedFields data ((base.casting conversions).lower op) place =
      .ok ()) :
    (∃ specification, build (base.casting conversions) (depth + 1) (.dict data) = .ok specification ∧
      Agrees (base.casting conversions) allowedFields (.dict data) specification) ↔
    ((data.lookup "value_type").getD .null ≠ .null → Casting.Castable (base.casting conversions) conversions
      ((data.lookup "value_type").getD .null) ((data.lookup "val").getD .null)) := by
  obtain ⟨known,attr,found⟩ := validateLeafNode_ok checked
  rw [← buildLeaf_castable known found]
  constructor
  · rintro ⟨specification,built,_⟩
    obtain ⟨leaf,made,_⟩ := (build_leaf (opOf_named named) plain).mp built
    exact ⟨leaf,made⟩
  · rintro ⟨leaf,made⟩
    have built : build (base.casting conversions) (depth + 1) (.dict data) = .ok (.attribute leaf) :=
      (build_leaf (opOf_named named) plain).mpr ⟨leaf,made,rfl⟩
    refine ⟨.attribute leaf,built,fun path other there => ?_,fun path node visits => ?_⟩
    · cases path with
      | nil =>
        rw [Specification.part] at there
        cases there
        exact ⟨data,op,place,.here _,named,(buildLeaf_ok made).1,checked⟩
      | cons index path =>
        rw [Specification.part_attribute] at there
        cases there
    · cases visits with
      | here => exact ⟨.attribute leaf,_,by rw [Specification.part],built⟩
      | item again logical => exact absurd (Value.text.inj (Option.some.inj (named.symm.trans again)) ▸ logical) plain
      | condition again logical => exact absurd (Value.text.inj (Option.some.inj (named.symm.trans again)) ▸ logical) plain

theorem agrees_not_listed {base : Runtime Object} {conversions : Conversions Object}
    {allowedFields : Option (List String)} {nodes : List (Value Object)} (named : data.lookup "op" = some (.text op))
    (negation : (base.casting conversions).lower op = not.value) (listed : data.lookup "conditions" = some (.list nodes))
    (given : nodes ≠ [] ∨ ∃ node, data.lookup "condition" = some node)
    (inner : ∀ node ∈ nodes, (∃ part, build (base.casting conversions) depth node = .ok part ∧
      Agrees (base.casting conversions) allowedFields node part) ↔
        Regular (base.casting conversions) conversions depth node) :
    (∃ specification, build (base.casting conversions) (depth + 1) (.dict data) = .ok specification ∧
      Agrees (base.casting conversions) allowedFields (.dict data) specification) ↔
    Regular (base.casting conversions) conversions (depth + 1) (.dict data) := by
  have logical : (base.casting conversions).lower op ∈ logicalOperators := negation ▸ not_mem_logical
  match nodes with
  | [] =>
    obtain ⟨node,found⟩ := given.resolve_left fun some => some rfl
    have falsy : (conditionsOf data).isTruthy (base.casting conversions) = false := by
      unfold conditionsOf
      rw [listed]
      rfl
    have nothing (index : Nat) (child : Value Object) : ¬Below data index child := by
      intro below
      cases (below_listed listed).mp below
    rw [agrees_not named negation (negated_condition falsy found)]
    constructor
    · rintro ⟨part,built,⟨child,below,_⟩ | ⟨_,bare⟩,_⟩
      · exact absurd below (nothing 0 child)
      · exact .hidden named negation listed found (hollow_of_bare built bare)
    · intro regular
      rcases regular_cases named regular with ⟨plain,_⟩ | ⟨_,others,relisted,single,_⟩ | ⟨_,unlisted,_⟩ | ⟨_,_,other,again,hollow⟩
      · exact absurd logical plain
      · cases listed.symm.trans relisted
        cases single negation
      · rw [listed] at unlisted
        cases unlisted
      · cases found.symm.trans again
        obtain ⟨part,built,bare⟩ := hollow_built hollow
        exact ⟨part,built,.inr ⟨nothing 0,bare⟩,fun index => nothing (index + 1)⟩
  | [node] =>
    rw [agrees_not named negation (negated_first listed)]
    constructor
    · rintro ⟨part,built,⟨child,below,agrees⟩ | ⟨unvisited,_⟩,_⟩
      · cases (below_listed listed).mp below
        refine .conditions named logical listed (fun _ => rfl) fun other member => ?_
        rw [List.mem_singleton.mp member]
        exact (inner node List.mem_cons_self).mp ⟨part,built,agrees⟩
      · exact absurd ((below_listed listed).mpr rfl) (unvisited node)
    · intro regular
      rcases regular_cases named regular with ⟨plain,_⟩ | ⟨_,others,relisted,_,each⟩ | ⟨_,unlisted,_⟩ | ⟨_,empty,_⟩
      · exact absurd logical plain
      · cases listed.symm.trans relisted
        obtain ⟨part,built,agrees⟩ := (inner node List.mem_cons_self).mpr (each node List.mem_cons_self)
        refine ⟨part,built,.inl ⟨node,(below_listed listed).mpr rfl,agrees⟩,fun index child below => ?_⟩
        cases (below_listed listed).mp below
      · rw [listed] at unlisted
        cases unlisted
      · cases listed.symm.trans empty
  | node::second::rest =>
    rw [agrees_not named negation (negated_first listed)]
    constructor
    · rintro ⟨part,_,_,alone⟩
      exact absurd ((below_listed listed).mpr rfl) (alone 0 second)
    · intro regular
      rcases regular_cases named regular with ⟨plain,_⟩ | ⟨_,others,relisted,single,_⟩ | ⟨_,unlisted,_⟩ | ⟨_,empty,_⟩
      · exact absurd logical plain
      · cases listed.symm.trans relisted
        have one := single negation
        simp at one
      · rw [listed] at unlisted
        cases unlisted
      · cases listed.symm.trans empty

theorem agrees_not_condition {base : Runtime Object} {conversions : Conversions Object}
    {allowedFields : Option (List String)} {node : Value Object} (named : data.lookup "op" = some (.text op))
    (negation : (base.casting conversions).lower op = not.value)
    (unlisted : (data.lookup "conditions").getD .null = .null) (found : data.lookup "condition" = some node)
    (inner : (∃ part, build (base.casting conversions) depth node = .ok part ∧
      Agrees (base.casting conversions) allowedFields node part) ↔
        Regular (base.casting conversions) conversions depth node) :
    (∃ specification, build (base.casting conversions) (depth + 1) (.dict data) = .ok specification ∧
      Agrees (base.casting conversions) allowedFields (.dict data) specification) ↔
    Regular (base.casting conversions) conversions (depth + 1) (.dict data) := by
  have falsy : (conditionsOf data).isTruthy (base.casting conversions) = false := by
    unfold conditionsOf
    cases stored : data.lookup "conditions" with
    | none => rfl
    | some conditions =>
      rw [stored] at unlisted
      cases unlisted
      rfl
  rw [agrees_not named negation (negated_condition falsy found)]
  constructor
  · rintro ⟨part,built,⟨child,below,agrees⟩ | ⟨unvisited,_⟩,_⟩
    · obtain ⟨_,again⟩ := (below_unlisted unlisted).mp below
      cases found.symm.trans again
      exact .condition named negation unlisted found (inner.mp ⟨part,built,agrees⟩)
    · exact absurd ((below_unlisted unlisted).mpr ⟨rfl,found⟩) (unvisited node)
  · intro regular
    rcases regular_cases named regular with ⟨plain,_⟩ | ⟨_,nodes,listed,_⟩ | ⟨_,_,other,again,deeper⟩ | ⟨_,empty,_⟩
    · exact absurd (negation ▸ not_mem_logical) plain
    · rw [listed] at unlisted
      cases unlisted
    · cases found.symm.trans again
      obtain ⟨part,built,agrees⟩ := inner.mpr deeper
      refine ⟨part,built,.inl ⟨node,(below_unlisted unlisted).mpr ⟨rfl,found⟩,agrees⟩,fun index child below => ?_⟩
      cases ((below_unlisted unlisted).mp below).1
    · rw [empty] at unlisted
      cases unlisted

/-- An accepted dict is built into a tree that agrees with the validation exactly where it is regular. -/
theorem agrees_iff {base : Runtime Object} {conversions : Conversions Object} {allowedFields : Option (List String)}
    {value : Value Object} {place : String}
    (accepted : validateNode (base.casting conversions) allowedFields depth value place = .ok ()) :
    (∃ specification, build (base.casting conversions) depth value = .ok specification ∧
      Agrees (base.casting conversions) allowedFields value specification) ↔
    Regular (base.casting conversions) conversions depth value := by
  induction depth generalizing value place with
  | zero => cases accepted
  | succ depth ih =>
    obtain ⟨data,op,rfl,named,shape⟩ := validateNode_accepted accepted
    cases shape with
    | leaf place plain checked =>
      rw [agrees_leaf named plain checked]
      constructor
      · exact .leaf named plain
      · intro regular
        rcases regular_cases named regular with ⟨_,castable⟩ | ⟨logical,_⟩ | ⟨negation,_⟩ | ⟨negation,_⟩
        · exact castable
        · exact absurd logical plain
        · exact absurd (negation ▸ not_mem_logical) plain
        · exact absurd (negation ▸ not_mem_logical) plain
    | conditions nodes logical listed given each =>
      have inner (node : Value Object) (member : node ∈ nodes) := (each node member).elim fun _ checked => ih checked
      by_cases negation : (base.casting conversions).lower op = not.value
      · exact agrees_not_listed named negation listed given inner
      · rw [agrees_join named logical negation listed]
        constructor
        · intro agreeing
          exact .conditions named logical listed (fun same => absurd same negation) fun node member =>
            (inner node member).mp (agreeing node member)
        · intro regular node member
          rcases regular_cases named regular with ⟨plain,_⟩ | ⟨_,others,relisted,_,each⟩ | ⟨same,_⟩ | ⟨same,_⟩
          · exact absurd logical plain
          · cases listed.symm.trans relisted
            exact (inner node member).mpr (each node member)
          · exact absurd same negation
          · exact absurd same negation
    | condition node place logical unlisted found checked =>
      by_cases negation : (base.casting conversions).lower op = not.value
      · exact agrees_not_condition named negation unlisted found (ih checked)
      · constructor
        · rintro ⟨specification,built,agrees⟩
          exact absurd agrees (not_agrees_condition named logical negation unlisted found built)
        · intro regular
          rcases regular_cases named regular with ⟨plain,_⟩ | ⟨_,nodes,listed,_⟩ | ⟨same,_⟩ | ⟨same,_⟩
          · exact absurd logical plain
          · rw [listed] at unlisted
            cases unlisted
          · exact absurd same negation
          · exact absurd same negation

def noConversions : Conversions Empty where
  int _ := .error .valueError
  float _ := .error .valueError
  date _ := .error .valueError
  datetime _ := .error .valueError
  time _ := .error .valueError
  interval _ := .error .valueError
  uuid _ := .error .valueError
  jsonLoads _ := .error .valueError
  bytes _ := .error .typeError

def nameIs (name : String) : Value Empty :=
  .dict [("op",.text "="),("attr",.text "name"),("val",.text name),("value_type",.text "integer")]

def castingNothing : Runtime Empty := Runtime.ascii.casting noConversions

theorem agrees_iff_negation :
    validateNode castingNothing (some ["name"]) 1000 (.dict [("op",.text "NOT"),("conditions",.list [nameIs "bob"])]) "<root>" =
      .ok () ∧
    ((∃ specification,
        build castingNothing 1000 (.dict [("op",.text "NOT"),("conditions",.list [nameIs "bob"])]) = .ok specification ∧
        Agrees castingNothing (some ["name"]) (.dict [("op",.text "NOT"),("conditions",.list [nameIs "bob"])]) specification) ↔
      Regular castingNothing noConversions 1000 (.dict [("op",.text "NOT"),("conditions",.list [nameIs "bob"])])) := by
  have accepted : validateNode castingNothing (some ["name"]) 1000
      (.dict [("op",.text "NOT"),("conditions",.list [nameIs "bob"])]) "<root>" = .ok () := by rfl
  exact ⟨accepted,agrees_iff accepted⟩

/-- A conjunction loses its only condition, a negation all but the first; the condition beside an empty list is not
checked; null conditions and a type that is no text raise. -/
theorem accepted_and_not_built :
    (validateNode castingNothing none 1000 (.dict [("op",.text "and"),("condition",nameIs "bob")]) "<root>" = .ok () ∧
      ∀ specification, build castingNothing 1000 (.dict [("op",.text "and"),("condition",nameIs "bob")]) = .ok specification →
        ¬Agrees castingNothing none (.dict [("op",.text "and"),("condition",nameIs "bob")]) specification) ∧
    (validateNode castingNothing none 1000 (.dict [("op",.text "not"),("conditions",.list [nameIs "bob",nameIs "eve"])]) "<root>" =
        .ok () ∧
      ∀ specification,
        build castingNothing 1000 (.dict [("op",.text "not"),("conditions",.list [nameIs "bob",nameIs "eve"])]) = .ok specification →
        ¬Agrees castingNothing none (.dict [("op",.text "not"),("conditions",.list [nameIs "bob",nameIs "eve"])]) specification) ∧
    (validateNode castingNothing (some ["age"]) 1000 (.dict [("op",.text "not"),("conditions",.list []),("condition",nameIs "bob")])
        "<root>" = .ok () ∧
      ∀ specification, build castingNothing 1000
          (.dict [("op",.text "not"),("conditions",.list []),("condition",nameIs "bob")]) = .ok specification →
        ¬Agrees castingNothing (some ["age"]) (.dict [("op",.text "not"),("conditions",.list []),("condition",nameIs "bob")])
          specification) ∧
    (validateNode castingNothing none 1000 (.dict [("op",.text "or"),("conditions",.null),("condition",nameIs "bob")]) "<root>" =
        .ok () ∧
      build castingNothing 1000 (.dict [("op",.text "or"),("conditions",.null),("condition",nameIs "bob")]) = .error .typeError) ∧
    (validateNode castingNothing none 1000
        (.dict [("op",.text "="),("attr",.text "name"),("val",.text "bob"),("value_type",.number 5)]) "<root>" = .ok () ∧
      build castingNothing 1000 (.dict [("op",.text "="),("attr",.text "name"),("val",.text "bob"),("value_type",.number 5)]) =
        .error .attributeError) := by
  refine ⟨⟨by rfl,fun specification built agrees => ?_⟩,⟨by rfl,fun specification built agrees => ?_⟩,
    ⟨by rfl,fun specification built agrees => ?_⟩,⟨by rfl,by rfl⟩,⟨by rfl,by rfl⟩⟩
  · have empty : build castingNothing 1000 (.dict [("op",.text "and"),("condition",nameIs "bob")]) = .ok (.and []) := by rfl
    cases empty.symm.trans built
    obtain ⟨part,_,there,_⟩ := agrees.kept [0] (nameIs "bob")
      (.condition rfl (by decide) rfl rfl (.here _))
    cases there
  · have first : build castingNothing 1000 (.dict [("op",.text "not"),("conditions",.list [nameIs "bob",nameIs "eve"])]) =
        .ok (.not (.attribute ⟨.text "name",.eq,.text "bob"⟩)) := by rfl
    cases first.symm.trans built
    obtain ⟨part,_,there,_⟩ := agrees.kept [1] (nameIs "eve") (.item rfl (by decide) rfl rfl (.here _))
    cases there
  · have hidden : build castingNothing 1000 (.dict [("op",.text "not"),("conditions",.list []),("condition",nameIs "bob")]) =
        .ok (.not (.attribute ⟨.text "name",.eq,.text "bob"⟩)) := by rfl
    cases hidden.symm.trans built
    obtain ⟨fields,op,place,visits,_⟩ := agrees.checked [0] _ rfl
    cases visits with
    | item _ _ listed there _ =>
      cases listed
      cases there
    | condition _ _ unlisted _ _ => cases unlisted

end SpecificationFactory

end CqrsDdd.Specifications
