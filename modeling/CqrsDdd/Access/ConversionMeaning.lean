import CqrsDdd.Access.ConditionRoundTrip

/-! Which leaves of a tree of conditions come out as leaves on the assigned fields. The renaming
goes through logical nodes in lower case and their conditions only; the factory reads other
spellings as well, and takes one condition where there are none for a negation alone. -/
namespace CqrsDdd.StatefulAbac

open Specifications SpecificationOperator SpecificationFactory Attempts Filtering

variable {Object : Type}

section Leaves

variable (runtime : Runtime Object)

mutual
/-- The attributes of the leaves of a tree of conditions, in their order: a logical node has its conditions, or the
condition where there are none. -/
def leafAttrs : Value Object → List (Value Object)
  | .dict node =>
    match opOf node with
    | .text op =>
      if runtime.lower op ∉ logicalOperators then [(node.lookup "attr").getD .null]
      else if (conditionsOf node).isTruthy runtime then (((entryAttrs node).lookup "conditions").map Prod.snd).getD []
      else (((entryAttrs node).lookup "condition").map Prod.fst).getD []
    | _ => []
  | _ => []
def itemAttrs : Value Object → List (Value Object)
  | .list items | .tuple items => eachAttrs items
  | _ => []
def eachAttrs : List (Value Object) → List (Value Object)
  | [] => []
  | item::rest => leafAttrs item ++ eachAttrs rest
def entryAttrs : Fields Object → List (String × List (Value Object) × List (Value Object))
  | [] => []
  | (key,value)::rest => (key,leafAttrs value,itemAttrs value)::entryAttrs rest
end

variable {runtime} {node : Fields Object} {op : String}

theorem entryAttrs_lookup (node : Fields Object) (key : String) :
    (entryAttrs runtime node).lookup key =
      (node.lookup key).map fun value => (leafAttrs runtime value,itemAttrs runtime value) := by
  rw [← Dict.lookup_map]
  refine congrArg (List.lookup key) ?_
  induction node with
  | nil => exact rfl
  | cons entry rest ih => exact congrArg _ ih

theorem leafAttrs_leaf (named : opOf node = .text op) (plain : runtime.lower op ∉ logicalOperators) :
    leafAttrs runtime (.dict node) = [(node.lookup "attr").getD .null] := by
  rw [leafAttrs,named]
  exact if_pos plain

theorem leafAttrs_logical (named : opOf node = .text op) (logical : runtime.lower op ∈ logicalOperators) :
    leafAttrs runtime (.dict node) = if (conditionsOf node).isTruthy runtime then itemAttrs runtime (conditionsOf node)
      else ((node.lookup "condition").map (leafAttrs runtime)).getD [] := by
  rw [leafAttrs,named]
  dsimp only
  rw [if_neg (not_not.mpr logical),entryAttrs_lookup,entryAttrs_lookup,Option.map_map,Option.map_map]
  by_cases truthy : (conditionsOf node).isTruthy runtime = true
  · rw [if_pos truthy,if_pos truthy]
    unfold conditionsOf at truthy ⊢
    cases found : node.lookup "conditions" with
    | none =>
      rw [found] at truthy
      cases truthy
    | some conditions => exact rfl
  · rw [if_neg truthy,if_neg truthy]
    exact rfl

theorem itemAttrs_iterate {conditions : Value Object} {nodes : List (Value Object)}
    (listed : conditions.iterate = .ok nodes) : itemAttrs runtime conditions = eachAttrs runtime nodes := by
  have texts {Source : Type} (name : Source → String) (sources : List Source) :
      eachAttrs runtime (sources.map fun source => .text (name source)) = [] := by
    induction sources with
    | nil => exact rfl
    | cons source rest ih => exact ih
  cases conditions with
  | list items | tuple items =>
    cases listed
    exact rfl
  | text content =>
    cases listed
    exact (texts _ _).symm
  | dict fields =>
    cases listed
    exact (texts _ _).symm
  | null => cases listed
  | bool _ => cases listed
  | number _ => cases listed
  | object _ => cases listed

end Leaves

section Matches

variable {runtime : Runtime Object} {mapping : FieldMapping Object}

def FieldMapping.assigned (mapping : FieldMapping Object) : Value Object → Value Object
  | .text abacAttr => .text (mapping.fieldOf abacAttr)
  | value => value

/-- No more leaves come out than there are, and they test the assigned fields exactly under the condition. -/
structure Matches (mapping : FieldMapping Object) (attrs abacAttrs : List (Value Object)) (condition : Prop) : Prop where
  bounded : attrs.length ≤ abacAttrs.length
  exactly : attrs = abacAttrs.map mapping.assigned ↔ condition

namespace Matches

variable {attrs others abacAttrs otherAttrs : List (Value Object)} {condition other : Prop}

theorem congr (matched : Matches mapping attrs abacAttrs condition) (same : condition ↔ other) :
    Matches mapping attrs abacAttrs other where
  bounded := matched.bounded
  exactly := matched.exactly.trans same

theorem untaken (abacAttrs : List (Value Object)) : Matches mapping [] abacAttrs (abacAttrs = []) where
  bounded := Nat.zero_le _
  exactly := eq_comm.trans List.map_eq_nil_iff

theorem append (matched : Matches mapping attrs abacAttrs condition) (further : Matches mapping others otherAttrs other) :
    Matches mapping (attrs ++ others) (abacAttrs ++ otherAttrs) (condition ∧ other) where
  bounded := by
    rw [List.length_append,List.length_append]
    exact Nat.add_le_add matched.bounded further.bounded
  exactly := by
    rw [← matched.exactly,← further.exactly,List.map_append]
    constructor
    · intro same
      have lengths := congrArg List.length same
      simp only [List.length_append,List.length_map] at lengths
      have first := matched.bounded
      have second := further.bounded
      exact List.append_inj same (by rw [List.length_map]; omega)
    · intro both
      rw [← both.1,← both.2]

end Matches

/-- The nodes whose leaves all come out with their fields: every node that the renaming comes to, in lower case and under
"conditions", and elsewhere those whose attributes are the fields already; no group has but a condition with leaves, and
no negation leaves below a second condition. -/
inductive Faithful (runtime : Runtime Object) (mapping : FieldMapping Object) : Bool → Value Object → Prop
  | leaf {reached : Bool} {node : Fields Object} {op : String} (named : opOf node = .text op)
      (plain : runtime.lower op ∉ logicalOperators)
      (own : reached = false → mapping.assigned ((node.lookup "attr").getD .null) = (node.lookup "attr").getD .null) :
      Faithful runtime mapping reached (.dict node)
  | join {reached : Bool} {node : Fields Object} {op : String} {nodes : List (Value Object)} (named : opOf node = .text op)
      (logical : runtime.lower op ∈ logicalOperators) (plain : runtime.lower op ≠ not.value)
      (listed : (conditionsOf node).iterate = .ok nodes)
      (each : ∀ child ∈ nodes, Faithful runtime mapping (reached && ConditionConverter.isLogical (opOf node)) child)
      (beside : nodes = [] → ∀ condition,
        node.lookup "condition" = some condition → leafAttrs runtime condition = []) :
      Faithful runtime mapping reached (.dict node)
  | first {reached : Bool} {node : Fields Object} {op : String} {child : Value Object} {rest : List (Value Object)}
      (named : opOf node = .text op) (negation : runtime.lower op = not.value)
      (listed : (conditionsOf node).iterate = .ok (child::rest))
      (below : Faithful runtime mapping (reached && ConditionConverter.isLogical (opOf node)) child)
      (others : eachAttrs runtime rest = []) : Faithful runtime mapping reached (.dict node)
  | condition {reached : Bool} {node : Fields Object} {op : String} {child : Value Object} (named : opOf node = .text op)
      (negation : runtime.lower op = not.value) (falsy : (conditionsOf node).isTruthy runtime = false)
      (found : node.lookup "condition" = some child) (below : Faithful runtime mapping false child) :
      Faithful runtime mapping reached (.dict node)

end Matches
open ConditionConverter

section Walks

variable {runtime : Runtime Object} {mapping : FieldMapping Object} {reached : Bool} {node : Fields Object} {op : String}
  {depth : Nat}

def attrsOf (leaves : List (AttributeSpecification Object)) : List (Value Object) := leaves.map AttributeSpecification.attr

theorem matches_each {condition : Value Object → Prop} {nodes : List (Value Object)} {parts : List (Specification Object)}
    (related : List.Forall₂ (fun child part =>
      Matches mapping (attrsOf part.leaves) (leafAttrs runtime child) (condition child)) nodes parts) :
    Matches mapping (attrsOf (leavesOf parts)) (eachAttrs runtime nodes) (∀ child ∈ nodes, condition child) := by
  induction related with
  | nil => exact (Matches.untaken []).congr (iff_of_true rfl fun _ member => absurd member List.not_mem_nil)
  | @cons child part nodes parts here _ ih =>
    rw [leavesOf,attrsOf,List.map_append,eachAttrs]
    exact (here.append ih).congr List.forall_mem_cons.symm

theorem conditions_attrs {nodes : List (Value Object)} (named : opOf node = .text op)
    (logical : runtime.lower op ∈ logicalOperators) (listed : (conditionsOf node).iterate = .ok nodes) :
    leafAttrs runtime (.dict node) = if nodes.isEmpty then ((node.lookup "condition").map (leafAttrs runtime)).getD []
      else eachAttrs runtime nodes := by
  rw [leafAttrs_logical named logical,BackEnds.truthy_of_iterate listed,itemAttrs_iterate listed]
  cases nodes with
  | nil => exact rfl
  | cons first rest => exact rfl

theorem faithful_leaf (named : opOf node = .text op) (plain : runtime.lower op ∉ logicalOperators) :
    Faithful runtime mapping reached (.dict node) ↔
      (reached = false → mapping.assigned ((node.lookup "attr").getD .null) = (node.lookup "attr").getD .null) := by
  constructor
  · intro faithful
    cases faithful with
    | leaf _ _ own => exact own
    | join again logical =>
      cases named.symm.trans again
      exact absurd logical plain
    | first again negation =>
      cases named.symm.trans again
      exact absurd (negation ▸ not_mem_logical) plain
    | condition again negation =>
      cases named.symm.trans again
      exact absurd (negation ▸ not_mem_logical) plain
  · exact .leaf named plain

theorem faithful_join (named : opOf node = .text op) (logical : runtime.lower op ∈ logicalOperators)
    (plain : runtime.lower op ≠ not.value) {nodes : List (Value Object)}
    (listed : (conditionsOf node).iterate = .ok nodes) :
    Faithful runtime mapping reached (.dict node) ↔
      (∀ child ∈ nodes, Faithful runtime mapping (reached && isLogical (opOf node)) child) ∧
        (nodes = [] → ∀ condition, node.lookup "condition" = some condition → leafAttrs runtime condition = []) := by
  constructor
  · intro faithful
    cases faithful with
    | leaf again apart =>
      cases named.symm.trans again
      exact absurd logical apart
    | join _ _ _ relisted each beside =>
      cases listed.symm.trans relisted
      exact ⟨each,beside⟩
    | first again negation =>
      cases named.symm.trans again
      exact absurd negation plain
    | condition again negation =>
      cases named.symm.trans again
      exact absurd negation plain
  · intro both
    exact .join named logical plain listed both.1 both.2

theorem faithful_first (named : opOf node = .text op) (negation : runtime.lower op = not.value) {child : Value Object}
    {rest : List (Value Object)} (listed : (conditionsOf node).iterate = .ok (child::rest)) :
    Faithful runtime mapping reached (.dict node) ↔
      Faithful runtime mapping (reached && isLogical (opOf node)) child ∧ eachAttrs runtime rest = [] := by
  constructor
  · intro faithful
    cases faithful with
    | leaf again apart =>
      cases named.symm.trans again
      exact absurd (negation ▸ not_mem_logical) apart
    | join again _ plain =>
      cases named.symm.trans again
      exact absurd negation plain
    | first _ _ relisted below others =>
      cases listed.symm.trans relisted
      exact ⟨below,others⟩
    | condition _ _ falsy =>
      rw [BackEnds.truthy_of_iterate listed] at falsy
      cases falsy
  · intro both
    exact .first named negation listed both.1 both.2

theorem faithful_condition (named : opOf node = .text op) (negation : runtime.lower op = not.value) {child : Value Object}
    (falsy : (conditionsOf node).isTruthy runtime = false) (found : node.lookup "condition" = some child) :
    Faithful runtime mapping reached (.dict node) ↔ Faithful runtime mapping false child := by
  constructor
  · intro faithful
    cases faithful with
    | leaf again apart =>
      cases named.symm.trans again
      exact absurd (negation ▸ not_mem_logical) apart
    | join again _ plain =>
      cases named.symm.trans again
      exact absurd negation plain
    | first _ _ listed =>
      rw [BackEnds.truthy_of_iterate listed] at falsy
      cases falsy
    | condition _ _ _ refound below =>
      cases found.symm.trans refound
      exact below
  · exact .condition named negation falsy found

theorem join_matches {wrap : List (Specification Object) → Specification Object} (joins : Specification.Joins wrap)
    (named : opOf node = .text op) (logical : runtime.lower op ∈ logicalOperators) (plain : runtime.lower op ≠ not.value)
    {nodes : List (Value Object)} {parts : List (Specification Object)} (listed : (conditionsOf node).iterate = .ok nodes)
    (related : List.Forall₂ (fun child part => Matches mapping (attrsOf part.leaves) (leafAttrs runtime child)
      (Faithful runtime mapping (reached && isLogical (opOf node)) child)) nodes parts) :
    Matches mapping (attrsOf (wrap parts).leaves) (leafAttrs runtime (.dict node))
      (Faithful runtime mapping reached (.dict node)) := by
  have whole : (wrap parts).leaves = leavesOf parts := leaves_join joins parts
  have form : Faithful runtime mapping reached (.dict node) ↔ _ := faithful_join named logical plain listed
  rw [whole,conditions_attrs named logical listed]
  cases related with
  | nil =>
    refine (Matches.untaken _).congr (Iff.trans ?_ form.symm)
    rw [and_iff_right (fun _ member => absurd member List.not_mem_nil)]
    cases node.lookup "condition" with
    | none => exact iff_of_true rfl fun _ _ found => by cases found
    | some condition =>
      constructor
      · intro bare _ other found
        cases found
        exact bare
      · intro beside
        exact beside rfl condition rfl
  | @cons child part nodes parts here later =>
    have each := matches_each (.cons here later)
    refine each.congr (Iff.trans ?_ form.symm)
    exact (and_iff_left fun none => absurd none (List.cons_ne_nil _ _)).symm

theorem first_matches (named : opOf node = .text op) (negation : runtime.lower op = not.value) {child : Value Object}
    {rest : List (Value Object)} (listed : (conditionsOf node).iterate = .ok (child::rest))
    {part : Specification Object} (here : Matches mapping (attrsOf part.leaves) (leafAttrs runtime child)
      (Faithful runtime mapping (reached && isLogical (opOf node)) child)) :
    Matches mapping (attrsOf (Specification.not part).leaves) (leafAttrs runtime (.dict node))
      (Faithful runtime mapping reached (.dict node)) := by
  rw [conditions_attrs named (negation ▸ not_mem_logical) listed]
  have both := here.append (Matches.untaken (eachAttrs runtime rest))
  rw [List.append_nil] at both
  exact both.congr (faithful_first named negation listed).symm

theorem condition_matches (named : opOf node = .text op) (negation : runtime.lower op = not.value) {child : Value Object}
    (falsy : (conditionsOf node).isTruthy runtime = false) (found : node.lookup "condition" = some child)
    {part : Specification Object}
    (here : Matches mapping (attrsOf part.leaves) (leafAttrs runtime child) (Faithful runtime mapping false child)) :
    Matches mapping (attrsOf (Specification.not part).leaves) (leafAttrs runtime (.dict node))
      (Faithful runtime mapping reached (.dict node)) := by
  have single : leafAttrs runtime (.dict node) = leafAttrs runtime child := by
    rw [leafAttrs_logical named (negation ▸ not_mem_logical),falsy,if_neg Bool.false_ne_true,found]
    exact rfl
  rw [single]
  exact here.congr (faithful_condition named negation falsy found).symm

theorem negated_ok {child : Value Object} (taken : negated runtime (.dict node) (conditionsOf node) = .ok child) :
    ((conditionsOf node).isTruthy runtime = false ∧ node.lookup "condition" = some child) ∨
      (conditionsOf node).first = .ok child := by
  unfold negated at taken
  change (if (!(conditionsOf node).isTruthy runtime && (node.lookup "condition").isSome) = true then
    Value.item "condition" (.dict node) else _) = _ at taken
  split at taken
  next bare =>
    have falsy := (Bool.and_eq_true_iff.mp bare).1
    rw [Bool.not_eq_true'] at falsy
    exact .inl ⟨falsy,Value.item_ok taken⟩
  next => exact .inr taken

theorem first_listed {conditions child : Value Object} (taken : conditions.first = .ok child) :
    ∃ rest, conditions.iterate = .ok (child::rest) := by
  have head : ∀ several : List (Value Object),
      several.head?.elim (Except.error Failure.indexError) Except.ok = .ok child → ∃ rest, several = child::rest := by
    intro several found
    cases several with
    | nil => cases found
    | cons one others =>
      obtain rfl := Except.ok.inj found
      exact ⟨others,rfl⟩
  cases conditions with
  | list items | tuple items =>
    obtain ⟨rest,same⟩ := head items taken
    exact ⟨rest,congrArg Except.ok same⟩
  | text content =>
    obtain ⟨rest,same⟩ := head (Value.letters content) taken
    exact ⟨rest,congrArg Except.ok same⟩
  | dict fields => cases taken
  | null | bool _ | number _ | object _ => cases taken

theorem build_dict {value : Value Object} {specification : Specification Object}
    (built : build runtime (depth + 1) value = .ok specification) :
    ∃ node op, value = .dict node ∧ opOf node = .text op := by
  obtain ⟨found,got,rest⟩ := bind_ok.mp built
  obtain ⟨_,lowered,_⟩ := bind_ok.mp rest
  cases value with
  | dict node =>
    cases got
    change (opOf node).lower runtime = _ at lowered
    cases spelled : opOf node with
    | text content => exact ⟨node,content,rfl,spelled⟩
    | null | bool _ | number _ | list _ | tuple _ | dict _ | object _ =>
      rw [spelled] at lowered
      cases lowered
  | null | bool _ | number _ | text _ | list _ | tuple _ | object _ => cases got

theorem buildLeaf_attr {name : String} {leaf : AttributeSpecification Object}
    (made : buildLeaf runtime (.dict node) name = .ok leaf) : node.lookup "attr" = some leaf.attr := by
  obtain ⟨attr,found,rest⟩ := bind_ok.mp made
  obtain ⟨_,_,rest⟩ := bind_ok.mp rest
  obtain ⟨_,_,rest⟩ := bind_ok.mp rest
  obtain ⟨_,_,rest⟩ := bind_ok.mp rest
  obtain ⟨_,_,same⟩ := bind_ok.mp rest
  obtain rfl := pure_ok.mp same
  exact Value.item_ok found

theorem built_matches {value : Value Object} {specification : Specification Object}
    (built : build runtime depth value = .ok specification) :
    Matches mapping (attrsOf specification.leaves) (leafAttrs runtime value) (Faithful runtime mapping false value) := by
  induction depth generalizing value specification with
  | zero => cases built
  | succ depth ih =>
    obtain ⟨node,op,rfl,named⟩ := build_dict built
    by_cases logical : runtime.lower op ∈ logicalOperators
    · by_cases negation : runtime.lower op = not.value
      · obtain ⟨child,part,taken,made,rfl⟩ := (build_not named negation).mp built
        rcases negated_ok taken with ⟨falsy,found⟩ | taken
        · exact condition_matches named negation falsy found (ih made)
        · obtain ⟨rest,listed⟩ := first_listed taken
          exact first_matches named negation listed (ih made)
      · obtain ⟨wrap,joins,joined⟩ := build_join named logical negation
        obtain ⟨nodes,parts,listed,related,rfl⟩ := (joined depth specification).mp built
        exact join_matches joins named logical negation listed (related.imp fun _ _ made => ih made)
    · obtain ⟨leaf,made,rfl⟩ := (build_leaf named logical).mp built
      have own : node.lookup "attr" = some leaf.attr := buildLeaf_attr made
      rw [leafAttrs_leaf named logical]
      refine ⟨le_refl 1,Iff.trans ?_ (faithful_leaf named logical).symm⟩
      rw [own]
      change [leaf.attr] = [mapping.assigned leaf.attr] ↔ (false = false → mapping.assigned leaf.attr = leaf.attr)
      rw [List.singleton_inj]
      exact ⟨fun same _ => same.symm,fun same => (same rfl).symm⟩

theorem faithful_unspelled {first second : Bool} (named : opOf node = .text op)
    (logical : runtime.lower op ∈ logicalOperators) (spelled : isLogical (opOf node) = false)
    (faithful : Faithful runtime mapping first (.dict node)) : Faithful runtime mapping second (.dict node) := by
  have neither : (first && isLogical (opOf node)) = (second && isLogical (opOf node)) := by
    rw [spelled,Bool.and_false,Bool.and_false]
  cases faithful with
  | leaf again plain =>
    cases named.symm.trans again
    exact absurd logical plain
  | join again logical plain listed each beside =>
    rw [neither] at each
    exact .join again logical plain listed each beside
  | first again negation listed below others =>
    rw [neither] at below
    exact .first again negation listed below others
  | condition again negation falsy found below => exact .condition again negation falsy found below

theorem build_congr {other : Fields Object} {specification : Specification Object} (named : opOf node = .text op)
    (logical : runtime.lower op ∈ logicalOperators) (sameOp : opOf other = opOf node)
    (sameConditions : other.lookup "conditions" = node.lookup "conditions")
    (sameCondition : other.lookup "condition" = node.lookup "condition")
    (built : build runtime (depth + 1) (.dict other) = .ok specification) :
    build runtime (depth + 1) (.dict node) = .ok specification := by
  have conditions : conditionsOf other = conditionsOf node := by
    unfold conditionsOf
    rw [sameConditions]
  have taken : negated runtime (.dict other) (conditionsOf node) = negated runtime (.dict node) (conditionsOf node) := by
    unfold negated
    change (if (!(conditionsOf node).isTruthy runtime && (other.lookup "condition").isSome) = true then
        (other.lookup "condition").elim _ _ else _) =
      if (!(conditionsOf node).isTruthy runtime && (node.lookup "condition").isSome) = true then
        (node.lookup "condition").elim _ _ else _
    rw [sameCondition]
  rw [build_logical (sameOp.trans named),conditions,taken] at built
  rw [build_logical named]
  by_cases negation : runtime.lower op = not.value
  · rw [negation,if_neg (by decide),if_neg (by decide),if_pos rfl] at built ⊢
    exact built
  · rcases mem_logicalOperators logical negation with conjunction | disjunction
    · rw [if_pos conjunction] at built ⊢
      exact built
    · rw [disjunction,if_neg (by decide),if_pos rfl] at built ⊢
      exact built

theorem remapLeafAttr_assigned {between : Fields Object} {attr : Value Object} (truthy : attr.isTruthy runtime = true)
    (renames : remapLeafAttr runtime mapping true node attr = .ok between) :
    between.lookup "attr" = some (mapping.assigned attr) := by
  unfold remapLeafAttr at renames
  rw [truthy,if_neg (by decide),if_pos rfl] at renames
  unfold remapLeafAttrReverse at renames
  split at renames
  next external =>
    obtain rfl := isText_iff.mp external
    have field : mapping.assigned (.text "external_id" : Value Object) = .text mapping.externalIdField := by
      rw [FieldMapping.assigned,FieldMapping.fieldOf,if_pos rfl]
    rw [field]
    dsimp only at renames
    split at renames
    next =>
      obtain ⟨value,_,made⟩ := bind_ok.mp renames
      obtain rfl := pure_ok.mp made
      rw [Dict.lookup_put,if_neg (by decide),Dict.lookup_put,if_pos rfl]
    next =>
      obtain rfl := pure_ok.mp renames
      rw [Dict.lookup_put,if_pos rfl]
  next apart =>
    obtain ⟨value,made,same⟩ := bind_ok.mp renames
    obtain rfl := pure_ok.mp same
    rw [Dict.lookup_put,if_pos rfl]
    cases attr with
    | text name =>
      cases made
      have differs : name ≠ "external_id" := fun same => apart (isText_iff.mpr (congrArg Value.text same))
      rw [FieldMapping.assigned,FieldMapping.fieldOf,if_neg differs]
    | null | bool _ | number _ | list _ | tuple _ | dict _ | object _ =>
      rw [renamed_unnamed (fun _ same => by cases same) made]
      exact rfl

theorem spatialOp_named {value : Value Object} (same : spatialOp true value = .text op) :
    value = .text op ∨ op = "dwithin" ∧ value = .text "st_dwithin" := by
  unfold spatialOp at same
  split at same
  next either =>
    cases same
    rcases Bool.or_eq_true_iff.mp either with engine | own
    · exact .inr ⟨rfl,isText_iff.mp engine⟩
    · exact .inl (isText_iff.mp own)
  next => exact .inl same

theorem leafNode_matches (lowers : Lowers runtime) (spatial : runtime.lower "st_dwithin" = "st_dwithin")
    (unspelled : isLogical (opOf node) = false) {mapped : Fields Object} {specification : Specification Object}
    {place : String} (renames : remapLeafNode runtime mapping true node = .ok mapped)
    (validated : validateNode runtime none (depth + 1) (.dict mapped) place = .ok ())
    (built : build runtime (depth + 1) (.dict mapped) = .ok specification) :
    Matches mapping (attrsOf specification.leaves) (leafAttrs runtime (.dict node))
      (Faithful runtime mapping true (.dict node)) := by
  obtain ⟨between,attrRenames,sameAttr,sameOp,sameConditions,sameCondition⟩ := remapLeafNode_parts renames
  obtain ⟨_,op,same,named⟩ := build_dict built
  cases same
  by_cases logical : runtime.lower op ∈ logicalOperators
  · have own : opOf node = .text op := by
      rcases spatialOp_named (sameOp.symm.trans named) with own | ⟨rfl,_⟩
      · exact own
      · have lowered : runtime.lower "dwithin" = "dwithin" := lowers .dwithin
        rw [lowered] at logical
        exact absurd logical (by decide)
    have raw : Matches mapping (attrsOf specification.leaves) (leafAttrs runtime (.dict node)) _ :=
      built_matches (build_congr own logical (named.trans own.symm) sameConditions sameCondition built)
    exact raw.congr ⟨faithful_unspelled own logical unspelled,faithful_unspelled own logical unspelled⟩
  · obtain ⟨leaf,made,rfl⟩ := (build_leaf named logical).mp built
    have plain : ∃ other, opOf node = .text other ∧ runtime.lower other ∉ logicalOperators := by
      rcases spatialOp_named (sameOp.symm.trans named) with own | ⟨_,engine⟩
      · exact ⟨op,own,logical⟩
      · exact ⟨"st_dwithin",engine,by rw [spatial]; decide⟩
    obtain ⟨other,own,plain⟩ := plain
    have given : mapped.lookup "attr" = some leaf.attr := buildLeaf_attr made
    have apart : ∀ group, opOf mapped = .text group → runtime.lower group ∉ logicalOperators := by
      intro group same
      cases named.symm.trans same
      exact logical
    obtain ⟨name,filled,some⟩ := validated_named apart validated given
    have assigned : leaf.attr = mapping.assigned ((node.lookup "attr").getD .null) := by
      cases truthy : ((node.lookup "attr").getD .null).isTruthy runtime with
      | true =>
        rw [sameAttr,remapLeafAttr_assigned truthy attrRenames] at given
        exact (Option.some.inj given).symm
      | false =>
        unfold remapLeafAttr at attrRenames
        rw [truthy] at attrRenames
        cases attrRenames
        rw [sameAttr] at given
        rw [given,filled] at truthy
        exact absurd truthy (by simp [Value.isTruthy,some])
    rw [leafAttrs_leaf own plain]
    refine ⟨le_refl 1,iff_of_true (congrArg (fun attr => [attr]) assigned) ?_⟩
    exact .leaf own plain fun unreached => by cases unreached

theorem isLogical_named {value : Value Object} (spelled : isLogical value = true) :
    ∃ group, value = .text group ∧ group ∈ logicalOperators := by
  cases value with
  | text group => exact ⟨group,rfl,isLogical_iff.mp spelled⟩
  | null | bool _ | number _ | list _ | tuple _ | dict _ | object _ => cases spelled

theorem logicalNode_matches (lowers : Lowers runtime) (own : opOf node = .text op) (logical : op ∈ logicalOperators)
    {nodes : List (Value Object)} {results : List (Fields Object)} (listed : (conditionsOf node).iterate = .ok nodes)
    (each : List.Forall₂ (fun child result => remapDslNode runtime mapping true depth child = .ok result) nodes results)
    {mapped : Fields Object} (named : opOf mapped = .text op)
    (relisted : mapped.lookup "conditions" = some (.list (results.map .dict)))
    (kept : mapped.lookup "condition" = node.lookup "condition") {specification : Specification Object} {place : String}
    (validated : validateNode runtime none (depth + 1) (.dict mapped) place = .ok ())
    (built : build runtime (depth + 1) (.dict mapped) = .ok specification)
    (inner : ∀ {child : Value Object} {result : Fields Object} {part : Specification Object} {place : String},
      remapDslNode runtime mapping true depth child = .ok result →
      validateNode runtime none depth (.dict result) place = .ok () →
      build runtime depth (.dict result) = .ok part →
      Matches mapping (attrsOf part.leaves) (leafAttrs runtime child) (Faithful runtime mapping true child)) :
    Matches mapping (attrsOf specification.leaves) (leafAttrs runtime (.dict node))
      (Faithful runtime mapping true (.dict node)) := by
  have mode : (true && isLogical (opOf node)) = true := by
    rw [own]
    exact isLogical_iff.mpr logical
  have lowered : runtime.lower op ∈ logicalOperators := by
    rw [lower_group lowers logical]
    exact logical
  have conditions : conditionsOf mapped = .list (results.map .dict) := by
    unfold conditionsOf
    rw [relisted]
    exact rfl
  have checked : ∀ result ∈ results, ∃ place, validateNode runtime none depth (.dict result) place = .ok () := by
    intro result member
    obtain ⟨data,spelled,same,found,accepted⟩ := validateNode_accepted validated
    cases same
    cases named.symm.trans (opOf_named found)
    cases accepted with
    | leaf _ plain _ => exact absurd lowered plain
    | conditions others _ again _ checked =>
      cases relisted.symm.trans again
      exact checked (.dict result) (List.mem_map_of_mem member)
    | condition _ _ _ unlisted _ _ =>
      rw [relisted] at unlisted
      cases unlisted
  by_cases negation : runtime.lower op = not.value
  · obtain ⟨child,part,taken,made,rfl⟩ := (build_not named negation).mp built
    rcases negated_ok taken with ⟨falsy,found⟩ | taken
    · have none : nodes = [] := by
        rw [conditions,Value.isTruthy,Bool.not_eq_false',List.isEmpty_iff,List.map_eq_nil_iff] at falsy
        subst falsy
        exact List.forall₂_nil_right_iff.mp each
      subst none
      refine condition_matches own negation ?_ (kept.symm.trans found) (built_matches made)
      rw [BackEnds.truthy_of_iterate listed]
      exact rfl
    · rw [conditions] at taken
      cases each with
      | nil => cases taken
      | @cons first result rest others here later =>
        cases taken
        obtain ⟨place,checks⟩ := checked result List.mem_cons_self
        refine first_matches own negation listed ?_
        rw [mode]
        exact inner here checks made
  · obtain ⟨wrap,joins,joined⟩ := build_join named lowered negation
    obtain ⟨dicts,parts,iterated,related,rfl⟩ := (joined depth specification).mp built
    rw [conditions] at iterated
    cases iterated
    rw [List.forall₂_map_left_iff] at related
    refine join_matches joins own lowered negation listed ((related_comp each related).imp fun child part both => ?_)
    obtain ⟨result,member,here,made⟩ := both
    obtain ⟨place,checks⟩ := checked result member
    rw [mode]
    exact inner here checks made

theorem remapped_matches (lowers : Lowers runtime) (spatial : runtime.lower "st_dwithin" = "st_dwithin")
    {value : Value Object} {mapped : Fields Object} {specification : Specification Object} {place : String}
    (renames : remapDslNode runtime mapping true depth value = .ok mapped)
    (validated : validateNode runtime none depth (.dict mapped) place = .ok ())
    (built : build runtime depth (.dict mapped) = .ok specification) :
    Matches mapping (attrsOf specification.leaves) (leafAttrs runtime value) (Faithful runtime mapping true value) := by
  induction depth generalizing value mapped specification place with
  | zero => cases renames
  | succ depth ih =>
    cases value with
    | dict node =>
      change (if isLogical (opOf node) = true then remapLogicalNode (remapDslNode runtime mapping true depth) node
        else remapLeafNode runtime mapping true node) = _ at renames
      cases spelled : isLogical (opOf node) with
      | false =>
        rw [spelled,if_neg Bool.false_ne_true] at renames
        exact leafNode_matches lowers spatial spelled renames validated built
      | true =>
        rw [spelled,if_pos rfl] at renames
        obtain ⟨group,own,logical⟩ := isLogical_named spelled
        obtain ⟨nodes,listed,rest⟩ := bind_ok.mp renames
        obtain ⟨results,each,made⟩ := bind_ok.mp rest
        obtain rfl := pure_ok.mp made
        rw [mapM_forall₂] at each
        refine logicalNode_matches lowers own logical listed each ?_ ?_ ?_ validated built ih
        · rw [← own]
          unfold opOf
          rw [popped_lookup _ (by decide),Dict.lookup_put,if_neg (by decide)]
        · rw [popped_lookup _ (by decide),Dict.lookup_put,if_pos rfl]
        · rw [popped_lookup _ (by decide),Dict.lookup_put,if_neg (by decide)]
    | null | bool _ | number _ | text _ | list _ | tuple _ | object _ => cases renames

end Walks

/-- What comes back is a tree of named leaves in groups that are not empty. In such trees over a set of fields every leaf
keeps its meaning exactly when each of the fields survives, and every leaf of a tree of conditions comes out with its
assigned field exactly when the tree is faithful. -/
theorem conversion_iff {runtime : Runtime Object} {mapping : FieldMapping Object} (lowers : Lowers runtime)
    (spatial : runtime.lower "st_dwithin" = "st_dwithin") (limit : 0 < runtime.recursionLimit)
    (injective : mapping.Injective) :
    (∀ specification built, roundTrip runtime mapping specification = .ok (.fromSpecification built) →
      WellFormed specification ∧ specification.depth ≤ runtime.recursionLimit) ∧
    (∀ fields : String → Prop,
      (∀ specification, WellFormed specification → specification.depth ≤ runtime.recursionLimit →
        (∀ leaf ∈ specification.leaves, ∀ name, leaf.attr = .text name → fields name) →
        Preserved runtime mapping specification) ↔
      ∀ name, fields name → name ≠ "" → mapping.Survives name) ∧
    ∀ dsl specification,
      dslToSpecification runtime mapping ⟨.conditions,some dsl⟩ = .ok (.fromSpecification specification) →
      (attrsOf specification.leaves = (leafAttrs runtime (.dict dsl)).map mapping.assigned ↔
        Faithful runtime mapping true (.dict dsl)) := by
  refine ⟨fun specification built => roundTrip_wellFormed lowers,preserved_iff lowers limit injective,
    fun dsl specification converted => ?_⟩
  obtain ⟨mapped,renames,validated,built⟩ := dslToSpecification_ok.mp converted
  exact (remapped_matches lowers spatial renames validated built).exactly

def statuses : FieldMapping Empty where
  mappings := Dict.empty.set "status" "state"
  externalIdCast value := .ok (.text (Runtime.ascii.textOf value))

theorem statuses_injective : statuses.Injective := by
  have only : ∀ appField abacAttr, statuses.mappings.get appField = some abacAttr → appField = "status" := by
    intro appField abacAttr found
    change (Dict.empty.set "status" "state").get appField = _ at found
    rw [Dict.get_set] at found
    split at found
    next same => exact same
    next => cases found
  intro first second abacAttr here there
  exact (only first abacAttr here).trans (only second abacAttr there).symm

def stateIs (state : String) : Value Empty := .dict [("op",.text "="),("attr",.text "state"),("val",.text state)]

theorem conversion_iff_statuses :
    (∀ fields : String → Prop,
      (∀ specification, WellFormed specification → specification.depth ≤ Runtime.ascii.recursionLimit →
        (∀ leaf ∈ specification.leaves, ∀ name, leaf.attr = .text name → fields name) →
        Preserved Runtime.ascii statuses specification) ↔
      ∀ name, fields name → name ≠ "" → statuses.Survives name) ∧
    dslToSpecification Runtime.ascii statuses
        ⟨.conditions,some [("op",.text "and"),("conditions",.list [stateIs "open"])]⟩ =
          .ok (.fromSpecification (.and [.attribute ⟨.text "status",.eq,.text "open"⟩])) ∧
    (attrsOf (Specification.and [.attribute ⟨.text "status",.eq,.text "open"⟩]).leaves =
        (leafAttrs Runtime.ascii
          (.dict [("op",.text "and"),("conditions",.list [stateIs "open"])])).map statuses.assigned ↔
      Faithful Runtime.ascii statuses true (.dict [("op",.text "and"),("conditions",.list [stateIs "open"])])) := by
  have whole := @conversion_iff Empty Runtime.ascii statuses BackEnds.lowers_ascii rfl (by decide) statuses_injective
  have converted : dslToSpecification Runtime.ascii statuses
      ⟨.conditions,some [("op",.text "and"),("conditions",.list [stateIs "open"])]⟩ =
        .ok (.fromSpecification (.and [.attribute ⟨.text "status",.eq,.text "open"⟩])) := by rfl
  exact ⟨whole.2.1,converted,whole.2.2 _ _ converted⟩

/-- A field with the name of an attribute comes back as another one; a logical node in upper case keeps the attributes of
its leaves, and one with a condition loses them. -/
theorem conditions_change_meaning :
    ¬ Preserved Runtime.ascii statuses (.attribute ⟨.text "state",.eq,.text "open"⟩) ∧
    (∃ specification, dslToSpecification Runtime.ascii statuses
        ⟨.conditions,some [("op",.text "AND"),("conditions",.list [stateIs "open"])]⟩ =
          .ok (.fromSpecification specification) ∧
      attrsOf specification.leaves ≠ (leafAttrs Runtime.ascii (.dict [("op",.text "AND"),
        ("conditions",.list [stateIs "open"])])).map statuses.assigned) ∧
    ∃ specification, dslToSpecification Runtime.ascii statuses
        ⟨.conditions,some [("op",.text "and"),("condition",stateIs "open")]⟩ = .ok (.fromSpecification specification) ∧
      attrsOf specification.leaves ≠ (leafAttrs Runtime.ascii (.dict [("op",.text "and"),
        ("condition",stateIs "open")])).map statuses.assigned := by
  refine ⟨fun preserved => ?_,⟨_,rfl,fun same => ?_⟩,⟨_,rfl,fun same => ?_⟩⟩
  · obtain ⟨built,returned,same⟩ := preserved _ rfl
    have actual : roundTrip Runtime.ascii statuses (.attribute ⟨.text "state",.eq,.text "open"⟩) =
        .ok (.fromSpecification (.attribute ⟨.text "status",.eq,.text "open"⟩)) := by rfl
    cases actual.symm.trans returned
    have answers : (Except.ok false : Except Specifications.Failure Bool) = .ok true :=
      same plainRegistry [("state",.text "open")]
    cases answers
  · have names : [(.text "state" : Value Empty)] = [.text "status"] := same
    exact absurd (Value.text.inj (List.cons.inj names).1) (by decide)
  · cases same

end CqrsDdd.StatefulAbac
