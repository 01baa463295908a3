import CqrsDdd.Filtering.Parser

/-! Which leaves of the specification the whitelist walk does not come to. The factory
builds a leaf wherever a chain of conditions leads; the whitelist walk stops at
the first "attr", never follows "condition" and reads the operator as it is
spelled. A sort given as one text is not walked at all. -/
namespace CqrsDdd.Filtering

open Specifications SpecificationOperator SpecificationFactory Attempts

variable {Object : Type}

def opOf (data : Fields Object) : Value Object := (data.lookup "op").getD (.text "")

def conditionsOf (data : Fields Object) : Value Object := (data.lookup "conditions").getD (.list [])

/-- A negation without conditions is built from its "condition". -/
def ViaCondition (runtime : Runtime Object) (op : String) (data : Fields Object) : Prop :=
  op = not.value ∧ (conditionsOf data).isTruthy runtime = false ∧ (data.lookup "condition").isSome = true

/-- The nodes that the factory builds for a logical one. -/
def children (runtime : Runtime Object) (op : String) (data : Fields Object) : Except Failure (List (Value Object)) :=
  if op ≠ not.value then (conditionsOf data).iterate
  else match (conditionsOf data).isTruthy runtime,data.lookup "condition" with
    | false,some condition => .ok [condition]
    | _,_ => (fun condition => [condition]) <$> (conditionsOf data).first

inductive Builds (runtime : Runtime Object) : Value Object → Value Object → SpecificationOperator → Prop
  | leaf {data : Fields Object} {op : String} {attr : Value Object} {operator : SpecificationOperator}
      (named : opOf data = .text op) (plain : runtime.lower op ∉ logicalOperators)
      (found : data.lookup "attr" = some attr) (known : ofValue (runtime.lower op) = .ok operator) :
      Builds runtime (.dict data) attr operator
  | child {data : Fields Object} {op : String} {nodes : List (Value Object)} {node attr : Value Object}
      {operator : SpecificationOperator} (named : opOf data = .text op)
      (logical : runtime.lower op ∈ logicalOperators) (listed : children runtime (runtime.lower op) data = .ok nodes)
      (member : node ∈ nodes) (built : Builds runtime node attr operator) : Builds runtime (.dict data) attr operator

/-- The leaves that are built and not checked: an operator that is spelled otherwise, what lies below
a logical node with an "attr" of its own, and what lies below a "condition". -/
inductive Unchecked (runtime : Runtime Object) : Value Object → Value Object → SpecificationOperator → Prop
  | respelled {data : Fields Object} {op : String} {attr : Value Object} {operator : SpecificationOperator}
      (named : opOf data = .text op) (plain : runtime.lower op ∉ logicalOperators)
      (found : data.lookup "attr" = some attr) (known : ofValue (runtime.lower op) = .ok operator)
      (differs : runtime.lower op ≠ op) : Unchecked runtime (.dict data) attr operator
  | beneath {data : Fields Object} {op : String} {attr : Value Object} {operator : SpecificationOperator}
      (stopped : (data.lookup "attr").isSome = true) (named : opOf data = .text op)
      (logical : runtime.lower op ∈ logicalOperators) (built : Builds runtime (.dict data) attr operator) :
      Unchecked runtime (.dict data) attr operator
  | condition {data : Fields Object} {op : String} {node attr : Value Object} {operator : SpecificationOperator}
      (walked : data.lookup "attr" = none) (named : opOf data = .text op)
      (via : ViaCondition runtime (runtime.lower op) data) (found : data.lookup "condition" = some node)
      (built : Builds runtime node attr operator) : Unchecked runtime (.dict data) attr operator
  | child {data : Fields Object} {op : String} {nodes : List (Value Object)} {node attr : Value Object}
      {operator : SpecificationOperator} (walked : data.lookup "attr" = none) (named : opOf data = .text op)
      (logical : runtime.lower op ∈ logicalOperators) (direct : ¬ ViaCondition runtime (runtime.lower op) data)
      (listed : children runtime (runtime.lower op) data = .ok nodes) (member : node ∈ nodes)
      (unchecked : Unchecked runtime node attr operator) : Unchecked runtime (.dict data) attr operator

theorem not_mem_logical : not.value ∈ logicalOperators := by decide

theorem children_of_via {runtime : Runtime Object} {op : String} {data : Fields Object} {node : Value Object}
    (via : ViaCondition runtime op data) (found : data.lookup "condition" = some node) :
    children runtime op data = .ok [node] := by
  obtain ⟨rfl,falsy,_⟩ := via
  simp only [children,falsy,found,ne_eq,not_true_eq_false,if_false]

theorem children_subset {runtime : Runtime Object} {op : String} {data : Fields Object}
    {nodes items : List (Value Object)} (direct : ¬ ViaCondition runtime op data)
    (listed : children runtime op data = .ok nodes) (iterated : (conditionsOf data).iterate = .ok items) :
    ∀ node ∈ nodes, node ∈ items := by
  unfold children at listed
  split at listed
  next =>
    obtain rfl := Except.ok.inj (listed.symm.trans iterated)
    exact fun node member => member
  next negation =>
    split at listed
    next falsy found =>
      exact absurd ⟨not_not.mp negation,falsy,by rw [found]; rfl⟩ direct
    next =>
      cases first : (conditionsOf data).first with
      | error failure =>
        rw [first] at listed
        cases listed
      | ok node =>
        rw [first] at listed
        obtain rfl := Except.ok.inj listed
        intro other member
        rw [List.mem_singleton.mp member]
        exact Value.first_mem iterated first

theorem Unchecked.builds {runtime : Runtime Object} {data attr : Value Object} {operator : SpecificationOperator}
    (unchecked : Unchecked runtime data attr operator) : Builds runtime data attr operator := by
  induction unchecked with
  | respelled named plain found known _ => exact .leaf named plain found known
  | beneath _ _ _ built => exact built
  | condition _ named via found built =>
    have logical := via.1 ▸ not_mem_logical
    exact .child named logical (children_of_via via found) List.mem_cons_self built
  | child _ named logical _ listed member _ ih => exact .child named logical listed member ih

theorem buildLeaf_ok {runtime : Runtime Object} {data : Fields Object} {op : String}
    {leaf : AttributeSpecification Object} (built : buildLeaf runtime (.dict data) op = .ok leaf) :
    data.lookup "attr" = some leaf.attr ∧ ofValue op = .ok leaf.op := by
  obtain ⟨attr,found,built⟩ := bind_ok.mp built
  obtain ⟨_,_,built⟩ := bind_ok.mp built
  obtain ⟨_,_,built⟩ := bind_ok.mp built
  obtain ⟨val,_,built⟩ := bind_ok.mp built
  obtain ⟨operator,known,built⟩ := bind_ok.mp built
  obtain rfl := pure_ok.mp built
  exact ⟨Value.item_ok found,known⟩

theorem children_of_not {runtime : Runtime Object} {data : Fields Object} {node : Value Object}
    (found : negated runtime (.dict data) (conditionsOf data) = .ok node) :
    children runtime not.value data = .ok [node] := by
  obtain ⟨present,asked,found⟩ := bind_ok.mp found
  obtain rfl := Except.ok.inj asked
  rw [children,if_neg (fun differs => differs rfl)]
  split at found
  next via =>
    obtain ⟨falsy,_⟩ := Bool.and_eq_true_iff.mp via
    rw [Bool.not_eq_true'] at falsy
    simp only [falsy,Value.item_ok found]
  next direct =>
    split
    next falsy hit => exact absurd (by rw [falsy,hit]; rfl) direct
    next =>
      rw [found]
      rfl

theorem conditions_ok {runtime : Runtime Object} {depth : Nat} {conditions : Value Object} {spec : Specification Object}
    {wrap : List (Specification Object) → Specification Object}
    (built : (do return wrap (← (← conditions.iterate).mapM (build runtime depth))) = .ok spec) :
    ∃ nodes specs, conditions.iterate = .ok nodes ∧ Answers (build runtime depth) nodes specs ∧ wrap specs = spec := by
  obtain ⟨nodes,iterated,built⟩ := bind_ok.mp built
  obtain ⟨specs,mapped,built⟩ := bind_ok.mp built
  exact ⟨nodes,specs,iterated,mapM_ok mapped,pure_ok.mp built⟩

theorem children_of_conditions {runtime : Runtime Object} {op : String} {data : Fields Object}
    {nodes : List (Value Object)} (plain : op ≠ not.value) (iterated : (conditionsOf data).iterate = .ok nodes) :
    children runtime op data = .ok nodes := by
  rw [children,if_pos plain]
  exact iterated

theorem build_cases {runtime : Runtime Object} {depth : Nat} {value : Value Object} {spec : Specification Object}
    (built : build runtime (depth + 1) value = .ok spec) : ∃ data op, value = .dict data ∧ opOf data = .text op ∧
      ((runtime.lower op ∈ logicalOperators ∧ ∃ nodes specs, children runtime (runtime.lower op) data = .ok nodes ∧
        Answers (build runtime depth) nodes specs ∧ spec.leaves = leavesOf specs) ∨
      (runtime.lower op ∉ logicalOperators ∧ ∃ leaf, spec = .attribute leaf ∧ data.lookup "attr" = some leaf.attr ∧
        ofValue (runtime.lower op) = .ok leaf.op)) := by
  rw [build] at built
  obtain ⟨opValue,named,built⟩ := bind_ok.mp built
  obtain ⟨lowered,spelled,built⟩ := bind_ok.mp built
  cases value with
  | dict data =>
    obtain rfl : opOf data = opValue := Except.ok.inj named
    cases shown : opOf data with
    | text op =>
      rw [shown] at spelled
      obtain rfl := Except.ok.inj spelled
      refine ⟨data,op,rfl,shown,?_⟩
      obtain ⟨conditions,read,built⟩ := bind_ok.mp built
      obtain rfl : conditionsOf data = conditions := Except.ok.inj read
      by_cases conjunction : runtime.lower op = and.value
      · rw [if_pos conjunction] at built
        obtain ⟨nodes,specs,iterated,answers,rfl⟩ := conditions_ok built
        exact .inl ⟨by rw [conjunction]; decide,nodes,specs,
          children_of_conditions (by rw [conjunction]; decide) iterated,answers,rfl⟩
      · rw [if_neg conjunction] at built
        by_cases disjunction : runtime.lower op = or.value
        · rw [if_pos disjunction] at built
          obtain ⟨nodes,specs,iterated,answers,rfl⟩ := conditions_ok built
          exact .inl ⟨by rw [disjunction]; decide,nodes,specs,
            children_of_conditions (by rw [disjunction]; decide) iterated,answers,rfl⟩
        · rw [if_neg disjunction] at built
          by_cases negation : runtime.lower op = not.value
          · rw [if_pos negation] at built
            obtain ⟨node,found,built⟩ := bind_ok.mp built
            obtain ⟨inner,deeper,built⟩ := bind_ok.mp built
            obtain rfl := pure_ok.mp built
            refine .inl ⟨negation ▸ not_mem_logical,[node],[inner],negation ▸ children_of_not found,
              .cons deeper (.nil _),?_⟩
            simp [Specification.leaves,leavesOf]
          · rw [if_neg negation] at built
            obtain ⟨leaf,made,built⟩ := bind_ok.mp built
            obtain rfl := pure_ok.mp built
            obtain ⟨found,known⟩ := buildLeaf_ok made
            refine .inr ⟨?_,leaf,rfl,found,known⟩
            simp [logicalOperators,conjunction,disjunction,negation]
    | null | bool _ | number _ | list _ | tuple _ | dict _ | object _ =>
      rw [shown] at spelled
      cases spelled
  | null | bool _ | number _ | text _ | list _ | tuple _ | object _ => cases named

theorem leaf_iff_builds {runtime : Runtime Object} {depth : Nat} {value attr : Value Object}
    {operator : SpecificationOperator} {spec : Specification Object} (built : build runtime depth value = .ok spec) :
    (∃ leaf ∈ spec.leaves, leaf.attr = attr ∧ leaf.op = operator) ↔ Builds runtime value attr operator := by
  induction depth generalizing value spec with
  | zero => cases built
  | succ depth ih =>
    obtain ⟨data,op,rfl,named,⟨logical,nodes,specs,listed,answers,leaves⟩ | ⟨plain,leaf,rfl,found,known⟩⟩ :=
      build_cases built
    · rw [leaves]
      constructor
      · rintro ⟨leaf,member,same⟩
        obtain ⟨inner,present,inside⟩ := mem_leavesOf.mp member
        obtain ⟨node,source,made⟩ := answers.2 inner present
        exact .child named logical listed source ((ih made).mp ⟨leaf,inside,same⟩)
      · intro builds
        cases builds with
        | leaf again plain _ _ =>
          obtain rfl := Value.text.inj (named.symm.trans again)
          exact absurd logical plain
        | child again _ relisted source deeper =>
          obtain rfl := Value.text.inj (named.symm.trans again)
          obtain rfl := Except.ok.inj (listed.symm.trans relisted)
          obtain ⟨inner,present,made⟩ := answers.1 _ source
          obtain ⟨leaf,inside,same⟩ := (ih made).mpr deeper
          exact ⟨leaf,mem_leavesOf.mpr ⟨inner,present,inside⟩,same⟩
    · constructor
      · rintro ⟨other,member,rfl,rfl⟩
        rw [List.mem_singleton.mp member]
        exact .leaf named plain found known
      · intro builds
        refine ⟨leaf,List.mem_singleton_self leaf,?_⟩
        cases builds with
        | leaf again _ located recognised =>
          obtain rfl := Value.text.inj (named.symm.trans again)
          exact ⟨Option.some.inj (found.symm.trans located),Except.ok.inj (known.symm.trans recognised)⟩
        | child again logical _ _ _ =>
          obtain rfl := Value.text.inj (named.symm.trans again)
          exact absurd logical plain

def FieldWhitelist.Permits (whitelist : FieldWhitelist) (attr : Value Object) (op : String) : Prop :=
  ∃ name allowedOps, attr = .text name ∧ whitelist.filterableFields.get name = some allowedOps ∧
    ((opToAlias.lookup op).getD op ∈ allowedOps ∨ op ∈ allowedOps)

def Named (fields : Finset String) (field : Value Object) : Prop := ∃ name ∈ fields, field = .text name

theorem permits_of_allowFilter {runtime : Runtime Object} {whitelist : FieldWhitelist} {attr : Value Object}
    {op : String} (allowed : whitelist.allowFilter runtime attr op = .ok ()) : whitelist.Permits attr op := by
  unfold FieldWhitelist.allowFilter at allowed
  cases attr with
  | text name =>
    dsimp only at allowed
    cases found : whitelist.filterableFields.get name with
    | none => simp [found] at allowed
    | some allowedOps =>
      rw [found] at allowed
      dsimp only at allowed
      split at allowed
      next => cases allowed
      next known =>
        rw [not_and_or,not_not,not_not] at known
        exact ⟨name,allowedOps,rfl,found,known⟩
  | null | bool _ | number _ | list _ | tuple _ | dict _ | object _ => cases allowed

theorem named_of_allow {runtime : Runtime Object} {fields : Finset String} {purpose : String} {field : Value Object}
    (allowed : FieldWhitelist.allow runtime fields purpose field = .ok ()) : Named fields field := by
  unfold FieldWhitelist.allow at allowed
  cases field with
  | text name =>
    dsimp only at allowed
    split at allowed
    next member => exact ⟨name,member,rfl⟩
    next => cases allowed
  | null | bool _ | number _ | list _ | tuple _ | dict _ | object _ => cases allowed

theorem validateSpecDict_cases {runtime : Runtime Object} {whitelist : FieldWhitelist} {depth : Nat}
    {data : Fields Object} (validated : FilterParser.validateSpecDict runtime whitelist depth (.dict data) = .ok ()) :
    (∀ attr, data.lookup "attr" = some attr → whitelist.Permits attr (runtime.textOf (opOf data))) ∧
    (data.lookup "attr" = none → ∃ items less, (conditionsOf data).iterate = .ok items ∧
      ∀ item ∈ items, FilterParser.validateSpecDict runtime whitelist less item = .ok ()) := by
  cases depth with
  | zero => cases validated
  | succ depth =>
    rw [FilterParser.validateSpecDict] at validated
    obtain ⟨present,asked,validated⟩ := bind_ok.mp validated
    obtain rfl := Except.ok.inj asked
    constructor
    · intro attr found
      rw [found,Option.isSome_some,if_pos rfl] at validated
      obtain ⟨value,read,validated⟩ := bind_ok.mp validated
      obtain rfl := Option.some.inj (found.symm.trans (Value.item_ok read))
      obtain ⟨op,named,validated⟩ := bind_ok.mp validated
      obtain rfl : opOf data = op := Except.ok.inj named
      exact permits_of_allowFilter validated
    · intro absent
      rw [absent,Option.isSome_none,if_neg Bool.false_ne_true] at validated
      obtain ⟨conditions,read,validated⟩ := bind_ok.mp validated
      obtain rfl : conditionsOf data = conditions := Except.ok.inj read
      obtain ⟨items,iterated,validated⟩ := bind_ok.mp validated
      exact ⟨items,depth,iterated,forM_ok.mp validated⟩

theorem permits_or_unchecked {runtime : Runtime Object} {whitelist : FieldWhitelist} {depth : Nat}
    {value attr : Value Object} {operator : SpecificationOperator}
    (validated : FilterParser.validateSpecDict runtime whitelist depth value = .ok ())
    (built : Builds runtime value attr operator) :
    whitelist.Permits attr operator.value ∨ Unchecked runtime value attr operator := by
  induction built generalizing depth with
  | @leaf data op attr operator named plain found known =>
    have permitted := (validateSpecDict_cases validated).1 attr found
    rw [named] at permitted
    by_cases same : runtime.lower op = op
    · rw [value_of_ofValue known,same]
      exact .inl permitted
    · exact .inr (.respelled named plain found known same)
  | @child data op nodes node attr operator named logical listed member built ih =>
    cases found : data.lookup "attr" with
    | some own => exact .inr (.beneath (by rw [found]; rfl) named logical (.child named logical listed member built))
    | none =>
      by_cases via : ViaCondition runtime (runtime.lower op) data
      · obtain ⟨condition,given⟩ := Option.isSome_iff_exists.mp via.2.2
        obtain rfl := Except.ok.inj (listed.symm.trans (children_of_via via given))
        obtain rfl := List.mem_singleton.mp member
        exact .inr (.condition found named via given built)
      · obtain ⟨items,less,iterated,each⟩ := (validateSpecDict_cases validated).2 found
        rcases ih (each node (children_subset via listed iterated node member)) with permitted | unchecked
        · exact .inl permitted
        · exact .inr (.child found named logical via listed member unchecked)

theorem not_builds_of_falsy {runtime : Runtime Object} {value attr : Value Object} {operator : SpecificationOperator}
    (falsy : value.isTruthy runtime = false) : ¬ Builds runtime value attr operator := by
  intro built
  cases built with
  | @leaf data op _ _ _ _ found _ =>
    obtain rfl : data = [] := by simpa [Value.isTruthy] using falsy
    cases found
  | @child data op nodes node _ _ named logical listed member _ =>
    obtain rfl : data = [] := by simpa [Value.isTruthy] using falsy
    have direct : ¬ ViaCondition runtime (runtime.lower op) [] := fun via => by
      have present := via.2.2
      cases present
    exact absurd (children_subset direct listed rfl node member) List.not_mem_nil

namespace FilterParser

/-- What is filtered, sorted and projected is what the whitelist permits. -/
structure Sound (whitelist : FieldWhitelist) (spec : Option (Specification Object)) (options : QueryOptions Object) :
    Prop where
  filter : ∀ tree, spec = some tree → ∀ leaf ∈ tree.leaves, whitelist.Permits leaf.attr leaf.op.value
  sort : ∀ entry ∈ options.sort, Named whitelist.sortableFields entry.1
  fields : ∀ fields, options.fields = some fields → ∀ field ∈ fields, Named whitelist.projectableFields field

/-- Where nobody checks, the parameters ask for nothing that the whitelist forbids. -/
structure Spared (runtime : Runtime Object) (parser : FilterParser) (queryParams : Fields Object)
    (whitelist : FieldWhitelist) (keys : ParamKeys) : Prop where
  filter : ∀ data, specDict runtime parser (param queryParams keys.filterKey) = .ok data →
    ∀ attr operator, Unchecked runtime data attr operator → whitelist.Permits attr operator.value
  sort : ∀ raw, param queryParams keys.sortKey = .text raw → raw ≠ "" →
    ∀ entry ∈ parseSortString runtime raw, Named whitelist.sortableFields entry.1

theorem parse_cases {runtime : Runtime Object} {parser : FilterParser} {queryParams : Fields Object}
    {whitelist : FieldWhitelist} {keys : ParamKeys} {spec : Option (Specification Object)}
    {options : QueryOptions Object} (parsed : parse runtime parser queryParams (some whitelist) keys = .ok (spec,options)) :
    ∃ data, specDict runtime parser (param queryParams keys.filterKey) = .ok data ∧
      ((data.isTruthy runtime = false ∧ spec = none) ∨
        (∃ depth tree, validateSpecDict runtime whitelist depth data = .ok () ∧ build runtime depth data = .ok tree ∧
          spec = some tree)) ∧
      parseSort runtime (some whitelist) (param queryParams keys.sortKey) = .ok options.sort ∧
      parseFields runtime (some whitelist) (param queryParams keys.fieldsKey) = .ok options.fields := by
  obtain ⟨data,made,parsed⟩ := bind_ok.mp parsed
  obtain ⟨_,validated,parsed⟩ := bind_ok.mp parsed
  obtain ⟨tree,built,parsed⟩ := bind_ok.mp parsed
  obtain ⟨sort,sorted,parsed⟩ := bind_ok.mp parsed
  obtain ⟨limit,_,parsed⟩ := bind_ok.mp parsed
  obtain ⟨offset,_,parsed⟩ := bind_ok.mp parsed
  obtain ⟨fields,projected,parsed⟩ := bind_ok.mp parsed
  obtain ⟨rfl,rfl⟩ := Prod.mk.inj (pure_ok.mp parsed)
  refine ⟨data,made,?_,sorted,projected⟩
  rw [checkFilter] at validated
  rw [makeSpecification] at built
  cases truthy : data.isTruthy runtime with
  | false =>
    rw [truthy,if_neg Bool.false_ne_true] at built
    exact .inl ⟨rfl,(Except.ok.inj built).symm⟩
  | true =>
    rw [truthy,if_pos rfl] at validated built
    cases factory : fromDict runtime (some whitelist.filterableFields.keys) data with
    | error failure =>
      simp [factory] at built
    | ok spec =>
      simp only [Option.map_some,factory] at built
      obtain rfl := Except.ok.inj built
      obtain ⟨_,_,walked⟩ := bind_ok.mp factory
      exact .inr ⟨runtime.recursionLimit,spec,validated,walked,rfl⟩

theorem parseFields_named {runtime : Runtime Object} {whitelist : FieldWhitelist} {raw : Value Object}
    {fields : List (Value Object)} (parsed : parseFields runtime (some whitelist) raw = .ok (some fields)) :
    ∀ field ∈ fields, Named whitelist.projectableFields field := by
  obtain ⟨_,checked,parsed⟩ := bind_ok.mp parsed
  rw [pure_ok.mp parsed] at checked
  exact fun field member => named_of_allow (forM_ok.mp checked field member)

theorem parseSort_named_iff {runtime : Runtime Object} {whitelist : FieldWhitelist} {raw : Value Object}
    {sort : List (Value Object × Value Object)} (parsed : parseSort runtime (some whitelist) raw = .ok sort) :
    (∀ entry ∈ sort, Named whitelist.sortableFields entry.1) ↔
      ∀ content, raw = .text content → content ≠ "" →
        ∀ entry ∈ parseSortString runtime content, Named whitelist.sortableFields entry.1 := by
  unfold parseSort at parsed
  split at parsed
  next falsy =>
    obtain rfl := Except.ok.inj parsed
    refine ⟨?_,fun _ _ member => absurd member List.not_mem_nil⟩
    rintro _ content rfl nonempty
    simp [Value.isTruthy,nonempty] at falsy
  next truthy =>
    cases raw with
    | text content =>
      obtain rfl := Except.ok.inj parsed
      constructor
      · rintro every other same _
        rw [← Value.text.inj same]
        exact every
      · intro every
        exact every content rfl (by rintro rfl; simp [Value.isTruthy] at truthy)
    | list items =>
      obtain ⟨_,checked,parsed⟩ := bind_ok.mp parsed
      obtain rfl := pure_ok.mp parsed
      exact ⟨fun _ _ same => (by cases same),fun _ entry member => named_of_allow (forM_ok.mp checked entry member)⟩
    | null | bool _ | number _ | tuple _ | dict _ | object _ =>
      obtain rfl := Except.ok.inj parsed
      exact ⟨fun _ _ same => (by cases same),fun _ _ member => absurd member List.not_mem_nil⟩

/-- A parse that returns is sound exactly where the unchecked parts ask for nothing forbidden. -/
theorem sound_iff_spared (runtime : Runtime Object) (parser : FilterParser) (queryParams : Fields Object)
    (whitelist : FieldWhitelist) (keys : ParamKeys) {spec : Option (Specification Object)}
    {options : QueryOptions Object} (parsed : parse runtime parser queryParams (some whitelist) keys = .ok (spec,options)) :
    Sound whitelist spec options ↔ Spared runtime parser queryParams whitelist keys := by
  obtain ⟨data,made,outcome,sorted,projected⟩ := parse_cases parsed
  constructor
  · intro sound
    refine ⟨fun other again attr operator unchecked => ?_,(parseSort_named_iff sorted).mp sound.sort⟩
    obtain rfl := Except.ok.inj (made.symm.trans again)
    rcases outcome with ⟨falsy,_⟩ | ⟨depth,tree,_,built,rfl⟩
    · exact absurd unchecked.builds (not_builds_of_falsy falsy)
    · obtain ⟨leaf,member,rfl,rfl⟩ := (leaf_iff_builds built).mpr unchecked.builds
      exact sound.filter tree rfl leaf member
  · intro spared
    refine ⟨fun tree same leaf member => ?_,(parseSort_named_iff sorted).mpr spared.sort,fun fields given => ?_⟩
    · rcases outcome with ⟨_,rfl⟩ | ⟨depth,other,validated,built,rfl⟩
      · cases same
      · obtain rfl := Option.some.inj same
        rcases permits_or_unchecked validated ((leaf_iff_builds built).mp ⟨leaf,member,rfl,rfl⟩) with permitted | unchecked
        · exact permitted
        · exact spared.filter data made leaf.attr leaf.op unchecked
    · rw [given] at projected
      exact parseFields_named projected

def nameOnly : FieldWhitelist where
  filterableFields := Dict.empty.set "name" {"eq"}
  sortableFields := {"name"}

theorem sound_iff_spared_of_name :
    parse .ascii ⟨.colonSeparated⟩ [("filter",.text "name:eq:bob"),("sort",.list [.text "-name"])] (some nameOnly) {} =
      .ok (some (.attribute ⟨.text "name",.eq,.text "bob"⟩),⟨none,none,[(.text "name",.text "desc")],none,.null⟩) ∧
    (Sound nameOnly (some (.attribute ⟨.text "name",.eq,.text "bob"⟩))
        (⟨none,none,[(.text "name",.text "desc")],none,.null⟩ : QueryOptions Empty) ↔
      Spared .ascii ⟨.colonSeparated⟩ [("filter",.text "name:eq:bob"),("sort",.list [.text "-name"])] nameOnly {}) :=
  ⟨by rfl,sound_iff_spared .ascii ⟨.colonSeparated⟩ _ nameOnly {} (by rfl)⟩

/-- A negation whose conditions are empty hides its condition from both validations, and a sort given as a
text is not checked: the salary is filtered and sorted although only names are listed. -/
theorem unlisted_field_is_filtered_and_sorted :
    parse .ascii ⟨.json⟩ [("filter",.dict [("op",.text "not"),("conditions",.list []),
      ("condition",.dict [("op",.text "="),("attr",.text "salary"),("val",.number 1)])]),("sort",.text "salary")]
      (some nameOnly) {} = .ok (some (.not (.attribute ⟨.text "salary",.eq,.number 1⟩)),
        ⟨none,none,[(.text "salary",.text "asc")],none,.null⟩) ∧
    ¬ nameOnly.Permits (.text "salary" : Value Empty) eq.value ∧
    ¬ Named nameOnly.sortableFields (.text "salary" : Value Empty) ∧
    ¬ Sound nameOnly (some (.not (.attribute ⟨.text "salary",.eq,.number 1⟩)))
      (⟨none,none,[(.text "salary",.text "asc")],none,.null⟩ : QueryOptions Empty) := by
  have forbidden : ¬ nameOnly.Permits (.text "salary" : Value Empty) eq.value := by
    rintro ⟨name,allowedOps,same,found,_⟩
    obtain rfl := Value.text.inj same
    cases found
  refine ⟨by rfl,forbidden,?_,fun sound => forbidden (sound.filter _ rfl _ List.mem_cons_self)⟩
  rintro ⟨name,member,same⟩
  obtain rfl := Value.text.inj same
  exact absurd member (by decide)

end FilterParser

end CqrsDdd.Filtering
