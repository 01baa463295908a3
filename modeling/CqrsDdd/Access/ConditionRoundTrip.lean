import CqrsDdd.Access.ConditionConverter
import CqrsDdd.Specifications.Traversal

/-! A specification that is sent to the engine and comes back. A field is renamed twice on the
way, and comes back as another one where its name is that of an attribute of another. What
comes back at all is a tree of named leaves in groups that are not empty. -/
namespace CqrsDdd.StatefulAbac

open Specifications SpecificationOperator SpecificationFactory Attempts Filtering

variable {Object : Type}

namespace FieldMapping

variable {mapping : FieldMapping Object}

def Injective (mapping : FieldMapping Object) : Prop := ∀ first second abacAttr,
  mapping.mappings.get first = some abacAttr → mapping.mappings.get second = some abacAttr → first = second

def fieldOf (mapping : FieldMapping Object) (abacAttr : String) : String :=
  if abacAttr = "external_id" then mapping.externalIdField else mapping.getField abacAttr

def attrOf (mapping : FieldMapping Object) (appField : String) : String :=
  if appField = mapping.externalIdField then "external_id" else mapping.getAbacAttr appField

/-- The name of a field after both renamings; an empty attribute is not renamed back. -/
def restored (mapping : FieldMapping Object) (appField : String) : String :=
  if mapping.attrOf appField = "" then "" else mapping.fieldOf (mapping.attrOf appField)

/-- The field is that of the external id, or mapped to an attribute that is neither empty nor the external id, or
unmapped and not called like an attribute of another field or the external id. -/
def Survives (mapping : FieldMapping Object) (appField : String) : Prop :=
  appField = mapping.externalIdField ∨ match mapping.mappings.get appField with
    | some abacAttr => abacAttr ≠ "external_id" ∧ abacAttr ≠ ""
    | none => appField ≠ "external_id" ∧ appField ∉ mapping.mappings.values

theorem reversed_get (mapping : FieldMapping Object) (abacAttr : String) :
    mapping.reversed.get abacAttr = (mapping.mappings.entries.map Prod.swap).reverse.lookup abacAttr :=
  (Dict.get_foldl_entries _ _ _).trans Option.or_none

theorem get_of_reversed {abacAttr appField : String} (found : mapping.reversed.get abacAttr = some appField) :
    mapping.mappings.get appField = some abacAttr := by
  rw [reversed_get] at found
  obtain ⟨entry,member,swapped⟩ := List.mem_map.mp (List.mem_reverse.mp (Dict.mem_of_lookup found))
  cases swapped
  exact mapping.mappings.mem_iff_get.mp member

theorem reversed_of_get {abacAttr appField : String} (found : mapping.mappings.get appField = some abacAttr) :
    ∃ other, mapping.reversed.get abacAttr = some other := by
  have member : (abacAttr,appField) ∈ (mapping.mappings.entries.map Prod.swap).reverse :=
    List.mem_reverse.mpr (List.mem_map.mpr ⟨(appField,abacAttr),mapping.mappings.mem_iff_get.mpr found,rfl⟩)
  rw [reversed_get]
  cases hit : (mapping.mappings.entries.map Prod.swap).reverse.lookup abacAttr with
  | some other => exact ⟨other,rfl⟩
  | none => exact absurd (List.lookup_eq_none_iff.mp hit (abacAttr,appField) member) (by simp)

theorem getField_of_get (injective : mapping.Injective) {abacAttr appField : String}
    (found : mapping.mappings.get appField = some abacAttr) : mapping.getField abacAttr = appField := by
  obtain ⟨other,hit⟩ := reversed_of_get found
  unfold getField
  rw [hit]
  exact injective other appField abacAttr (get_of_reversed hit) found

theorem getField_unmapped {appField : String} (unmapped : mapping.mappings.get appField = none) :
    mapping.getField appField = appField ↔ appField ∉ mapping.mappings.values := by
  unfold getField
  cases hit : mapping.reversed.get appField with
  | none =>
    refine iff_of_true rfl fun member => ?_
    obtain ⟨key,found⟩ := mapping.mappings.get_of_mem_values member
    obtain ⟨other,again⟩ := reversed_of_get found
    cases hit.symm.trans again
  | some key =>
    have found := get_of_reversed hit
    refine iff_of_false (fun same => ?_) fun absent => absent ?_
    · obtain rfl : key = appField := same
      cases unmapped.symm.trans found
    · exact List.mem_map.mpr ⟨(key,appField),mapping.mappings.mem_iff_get.mpr found,rfl⟩

theorem restored_iff (injective : mapping.Injective) {appField : String} (named : appField ≠ "") :
    mapping.restored appField = appField ↔ mapping.Survives appField := by
  unfold restored Survives attrOf
  by_cases external : appField = mapping.externalIdField
  · rw [if_pos external,if_neg (by decide)]
    exact iff_of_true external.symm (.inl external)
  · rw [if_neg external,or_iff_right external]
    unfold fieldOf getAbacAttr
    cases found : mapping.mappings.get appField with
    | some abacAttr =>
      dsimp only [Option.getD_some]
      by_cases empty : abacAttr = ""
      · rw [if_pos empty]
        exact iff_of_false (Ne.symm named) fun kept => kept.2 empty
      · rw [if_neg empty]
        by_cases reserved : abacAttr = "external_id"
        · rw [if_pos reserved]
          exact iff_of_false (Ne.symm external) fun kept => kept.1 reserved
        · rw [if_neg reserved]
          exact iff_of_true (getField_of_get injective found) ⟨reserved,empty⟩
    | none =>
      dsimp only [Option.getD_none]
      rw [if_neg named]
      by_cases reserved : appField = "external_id"
      · rw [if_pos reserved]
        exact iff_of_false (Ne.symm external) fun kept => kept.1 reserved
      · rw [if_neg reserved,getField_unmapped found]
        exact (and_iff_right reserved).symm

end FieldMapping

mutual
def compared (mapping : FieldMapping Object) : Specification Object →
    Except Specifications.Failure (Specification Object)
  | .attribute leaf =>
    if leaf.attr.isText mapping.externalIdField then do
      return .attribute ⟨leaf.attr,leaf.op,← mapping.castExternalId leaf.val⟩
    else .ok (.attribute leaf)
  | .and specifications => do return .and (← comparedEach mapping specifications)
  | .or specifications => do return .or (← comparedEach mapping specifications)
  | .not specification => do return .not (← compared mapping specification)
def comparedEach (mapping : FieldMapping Object) : List (Specification Object) →
    Except Specifications.Failure (List (Specification Object))
  | [] => .ok []
  | specification::rest => do return (← compared mapping specification)::(← comparedEach mapping rest)
end

theorem comparedEach_eq (mapping : FieldMapping Object) (specifications : List (Specification Object)) :
    comparedEach mapping specifications = specifications.mapM (compared mapping) := by
  induction specifications with
  | nil => exact rfl
  | cons specification rest ih =>
    rw [comparedEach,ih,List.mapM_cons]

namespace ConditionConverter

variable {runtime : Runtime Object} {mapping : FieldMapping Object} {depth : Nat} {name : String}
  {op : SpecificationOperator}

def engineOp (op : SpecificationOperator) : String := if op = .dwithin then "st_dwithin" else op.value

theorem isLogical_plain (plain : op.value ∉ logicalOperators) :
    isLogical (.text op.value : Value Object) = false ∧ isLogical (.text (engineOp op) : Value Object) = false := by
  cases op with
  | and | or | not => exact absurd (by decide) plain
  | _ => exact ⟨rfl,rfl⟩

theorem remapSpatialOp_forward (op : SpecificationOperator) (rest : Fields Object) :
    remapSpatialOp false (("op",.text op.value)::rest) = ("op",.text (engineOp op))::rest := by
  cases op with
  | _ => exact rfl

theorem remapSpatialOp_reverse (op : SpecificationOperator) (rest : Fields Object) :
    remapSpatialOp true (("op",.text (engineOp op))::rest) = ("op",.text op.value)::rest := by
  cases op with
  | _ => exact rfl

def engineLeaf (mapping : FieldMapping Object) (name : String) (op : SpecificationOperator) (val : Value Object) :
    Fields Object :=
  [("op",.text (engineOp op)),("attr",.text (mapping.attrOf name)),("val",val),("source",.text "resource")]

theorem leaf_forward (named : name ≠ "") (plain : op.value ∉ logicalOperators) (val : Value Object) :
    remapDslNode runtime mapping false (depth + 1) (.dict (Specification.attribute ⟨.text name,op,val⟩).toDict) =
      .ok (engineLeaf mapping name op val) := by
  change (if isLogical (.text op.value) = true then _ else remapLeafNode runtime mapping false _) = _
  rw [if_neg (by rw [(isLogical_plain plain).1]; exact Bool.false_ne_true)]
  have renames : remapLeafAttrForward mapping (Specification.attribute ⟨.text name,op,val⟩).toDict (.text name) =
      .ok [("op",.text op.value),("attr",.text (mapping.attrOf name)),("val",val),("source",.text "resource")] := by
    unfold remapLeafAttrForward FieldMapping.attrOf
    by_cases external : name = mapping.externalIdField
    · rw [if_pos external,if_pos (by rw [Value.isText,decide_eq_true external])]
      exact rfl
    · rw [if_neg external,if_neg (by rw [Value.isText,decide_eq_false external]; exact Bool.false_ne_true)]
      exact rfl
  change (if (!decide (name ≠ "")) = true then _ else if false = true then _ else
    remapLeafAttrForward mapping (Specification.attribute ⟨.text name,op,val⟩).toDict (.text name)) >>= _ = _
  rw [decide_eq_true named,if_neg (by simp),if_neg Bool.false_ne_true,renames]
  exact congrArg Except.ok (remapSpatialOp_forward op _)

theorem leaf_reverse (plain : op.value ∉ logicalOperators) (val : Value Object) :
    remapDslNode runtime mapping true (depth + 1) (.dict (engineLeaf mapping name op val)) =
      (if mapping.attrOf name = "external_id" then mapping.castExternalId val else .ok val).map fun value =>
        (Specification.attribute ⟨.text (mapping.restored name),op,value⟩).toDict := by
  change (if isLogical (.text (engineOp op)) = true then _ else remapLeafNode runtime mapping true _) = _
  rw [if_neg (by rw [(isLogical_plain plain).2]; exact Bool.false_ne_true)]
  change (if (!decide (mapping.attrOf name ≠ "")) = true then Except.ok (engineLeaf mapping name op val)
    else if true = true then remapLeafAttrReverse mapping (engineLeaf mapping name op val) (.text (mapping.attrOf name))
    else _) >>= _ = _
  unfold FieldMapping.restored FieldMapping.fieldOf
  by_cases empty : mapping.attrOf name = ""
  · rw [if_pos (by simp [empty]),if_pos empty,if_neg (by rw [empty]; decide)]
    refine (congrArg Except.ok (remapSpatialOp_reverse op _)).trans ?_
    rw [empty]
    exact rfl
  · rw [if_neg (by simp [empty]),if_pos rfl,if_neg empty]
    unfold remapLeafAttrReverse
    by_cases external : mapping.attrOf name = "external_id"
    · rw [if_pos external,if_pos external,if_pos (by rw [Value.isText,decide_eq_true external])]
      change (mapping.castExternalId val >>= _) >>= _ = _
      cases mapping.castExternalId val with
      | error failure => exact rfl
      | ok value => exact congrArg Except.ok (remapSpatialOp_reverse op _)
    · rw [if_neg external,if_neg external,if_neg (by rw [Value.isText,decide_eq_false external]; exact Bool.false_ne_true)]
      exact congrArg Except.ok (remapSpatialOp_reverse op _)

theorem group_remapped (reverse : Bool) {group : String} (logical : isLogical (.text group : Value Object) = true)
    (nodes : List (Value Object)) :
    remapDslNode runtime mapping reverse (depth + 1) (.dict [("op",.text group),("conditions",.list nodes)]) =
      (nodes.mapM (remapDslNode runtime mapping reverse depth)).map fun results =>
        [("op",.text group),("conditions",.list (results.map .dict))] := by
  change (if isLogical (.text group) = true then nodes.mapM (remapDslNode runtime mapping reverse depth) >>= _ else _) = _
  rw [if_pos logical]
  cases nodes.mapM (remapDslNode runtime mapping reverse depth) with
  | error failure => exact rfl
  | ok results => exact rfl

/-- The renamings there and back return the dict of the second specification for the first. -/
def Restores (runtime : Runtime Object) (mapping : FieldMapping Object) (depth : Nat)
    (specification restored : Specification Object) : Prop :=
  ∃ dsl, remapDslNode runtime mapping false depth (.dict specification.toDict) = .ok dsl ∧
    remapDslNode runtime mapping true depth (.dict dsl) = .ok restored.toDict

theorem group_restores {group : String} (logical : isLogical (.text group : Value Object) = true)
    {specifications casts : List (Specification Object)}
    (related : List.Forall₂ (Restores runtime mapping depth) specifications casts) : ∃ dsl,
    remapDslNode runtime mapping false (depth + 1)
        (.dict [("op",.text group),("conditions",.list (toDicts specifications))]) = .ok dsl ∧
      remapDslNode runtime mapping true (depth + 1) (.dict dsl) =
        .ok [("op",.text group),("conditions",.list (toDicts casts))] := by
  obtain ⟨dsls,there,back⟩ := related_through related
  have forth : (toDicts specifications).mapM (remapDslNode runtime mapping false depth) = .ok dsls := by
    rw [toDicts_eq,mapM_forall₂,List.forall₂_map_left_iff]
    exact there
  have again : (dsls.map Value.dict).mapM (remapDslNode runtime mapping true depth) =
      .ok (casts.map Specification.toDict) := by
    rw [mapM_forall₂,List.forall₂_map_left_iff,List.forall₂_map_right_iff]
    exact back
  refine ⟨[("op",.text group),("conditions",.list (dsls.map .dict))],?_,?_⟩
  · rw [group_remapped false logical,forth]
    exact rfl
  · rw [group_remapped true logical,again,toDicts_eq]
    exact congrArg (fun nodes => Except.ok [("op",Value.text group),("conditions",.list nodes)]) List.map_map

theorem attrOf_external (survives : mapping.restored name = name) :
    mapping.attrOf name = "external_id" ↔ name = mapping.externalIdField := by
  constructor
  · intro external
    rw [FieldMapping.restored,external,if_neg (by decide),FieldMapping.fieldOf,if_pos rfl] at survives
    exact survives.symm
  · intro same
    rw [FieldMapping.attrOf,if_pos same]

/-- What a tree and its cast tree have in common when the one comes back as the other. -/
structure Returns (runtime : Runtime Object) (mapping : FieldMapping Object) (depth : Nat)
    (specification cast : Specification Object) : Prop where
  restores : Restores runtime mapping depth specification cast
  wellFormed : WellFormed cast
  deep : cast.depth = specification.depth

theorem leaf_returns (named : name ≠ "") (plain : op.value ∉ logicalOperators) (val : Value Object)
    (survives : mapping.restored name = name) {cast : Specification Object}
    (casts : compared mapping (.attribute ⟨.text name,op,val⟩) = .ok cast) :
    Returns runtime mapping (depth + 1) (.attribute ⟨.text name,op,val⟩) cast := by
  have back : remapDslNode runtime mapping true (depth + 1) (.dict (engineLeaf mapping name op val)) = _ :=
    leaf_reverse plain val
  rw [survives] at back
  unfold compared at casts
  by_cases external : name = mapping.externalIdField
  · rw [if_pos (by rw [Value.isText,decide_eq_true external])] at casts
    rw [if_pos ((attrOf_external survives).mpr external)] at back
    obtain ⟨value,found,made⟩ := bind_ok.mp casts
    obtain rfl := pure_ok.mp made
    rw [found] at back
    exact ⟨⟨_,leaf_forward named plain val,back⟩,.leaf named plain,rfl⟩
  · rw [if_neg (by rw [Value.isText,decide_eq_false external]; exact Bool.false_ne_true)] at casts
    rw [if_neg (fun same => external ((attrOf_external survives).mp same))] at back
    obtain rfl := Except.ok.inj casts
    exact ⟨⟨_,leaf_forward named plain val,back⟩,.leaf named plain,rfl⟩

theorem depthOf_related {specifications casts : List (Specification Object)}
    (related : List.Forall₂ (fun specification cast => cast.depth = specification.depth) specifications casts) :
    depthOf casts = depthOf specifications := by
  induction related with
  | nil => exact rfl
  | cons here _ ih => rw [depthOf,depthOf,here,ih]

theorem group_returns {specifications casts : List (Specification Object)}
    (each : ∀ specification ∈ specifications, ∀ cast, compared mapping specification = .ok cast →
      Returns runtime mapping depth specification cast)
    (compares : comparedEach mapping specifications = .ok casts) :
    List.Forall₂ (Returns runtime mapping depth) specifications casts := by
  rw [comparedEach_eq,mapM_forall₂] at compares
  exact ((List.forall₂_and_left _ _).mpr ⟨each,compares⟩).imp fun _ cast both => both.1 cast both.2

theorem wellFormed_casts {specifications casts : List (Specification Object)} (some : specifications ≠ [])
    (related : List.Forall₂ (Returns runtime mapping depth) specifications casts) :
    casts ≠ [] ∧ ∀ cast ∈ casts, WellFormed cast := by
  constructor
  · intro none
    rw [none,List.forall₂_nil_right_iff] at related
    exact some related
  · intro cast member
    obtain ⟨_,_,returns⟩ := (exists_related related).2 cast member
    exact returns.wellFormed

theorem tree_returns {specification cast : Specification Object} (wellFormed : WellFormed specification)
    (survive : ∀ leaf ∈ specification.leaves, ∀ name, leaf.attr = .text name → mapping.restored name = name)
    (casts : compared mapping specification = .ok cast) (room : specification.depth ≤ depth) :
    Returns runtime mapping depth specification cast := by
  induction wellFormed generalizing depth cast with
  | leaf named plain =>
    obtain ⟨less,rfl⟩ := Nat.exists_eq_add_one_of_ne_zero (Nat.one_le_iff_ne_zero.mp room)
    exact leaf_returns named plain _ (survive _ List.mem_cons_self _ rfl) casts
  | and some _ ih =>
    rw [Specification.depth] at room
    obtain ⟨less,rfl⟩ := Nat.exists_eq_add_one_of_ne_zero (Nat.ne_zero_of_lt room)
    obtain ⟨parts,compares,made⟩ := bind_ok.mp casts
    obtain rfl := pure_ok.mp made
    have related := group_returns (fun part member other compares => ih part member (fun leaf inside =>
      survive leaf (mem_leavesOf.mpr ⟨part,member,inside⟩)) compares
      ((depth_le_depthOf member).trans (Nat.le_of_succ_le_succ room))) compares
    obtain ⟨given,formed⟩ := wellFormed_casts some related
    have deep := depthOf_related (related.imp fun _ _ returns => returns.deep)
    exact ⟨group_restores rfl (related.imp fun _ _ returns => returns.restores),.and given formed,congrArg (· + 1) deep⟩
  | or some _ ih =>
    rw [Specification.depth] at room
    obtain ⟨less,rfl⟩ := Nat.exists_eq_add_one_of_ne_zero (Nat.ne_zero_of_lt room)
    obtain ⟨parts,compares,made⟩ := bind_ok.mp casts
    obtain rfl := pure_ok.mp made
    have related := group_returns (fun part member other compares => ih part member (fun leaf inside =>
      survive leaf (mem_leavesOf.mpr ⟨part,member,inside⟩)) compares
      ((depth_le_depthOf member).trans (Nat.le_of_succ_le_succ room))) compares
    obtain ⟨given,formed⟩ := wellFormed_casts some related
    have deep := depthOf_related (related.imp fun _ _ returns => returns.deep)
    exact ⟨group_restores rfl (related.imp fun _ _ returns => returns.restores),.or given formed,congrArg (· + 1) deep⟩
  | not _ ih =>
    rw [Specification.depth] at room
    obtain ⟨less,rfl⟩ := Nat.exists_eq_add_one_of_ne_zero (Nat.ne_zero_of_lt room)
    obtain ⟨part,compares,made⟩ := bind_ok.mp casts
    obtain rfl := pure_ok.mp made
    have returns := ih survive compares (Nat.le_of_succ_le_succ room)
    exact ⟨group_restores rfl (.cons returns.restores .nil),.not returns.wellFormed,
      congrArg (· + 1) returns.deep⟩

/-- `dsl_to_specification` of the result of `specification_to_dsl`. -/
def roundTrip (runtime : Runtime Object) (mapping : FieldMapping Object) (specification : Specification Object) :
    Except Specifications.Failure (AuthorizationFilter Object) := do
  let dsl ← specificationToDsl runtime mapping specification
  dslToSpecification runtime mapping ⟨.conditions,some dsl⟩

/-- What comes back is satisfied by the same candidates, external ids compared after the cast. -/
def Preserved (runtime : Runtime Object) (mapping : FieldMapping Object) (specification : Specification Object) : Prop :=
  ∀ cast, compared mapping specification = .ok cast → ∃ built,
    roundTrip runtime mapping specification = .ok (.fromSpecification built) ∧
    ∀ registry attributes, built.isSatisfiedBy registry attributes = cast.isSatisfiedBy registry attributes

theorem dslToSpecification_ok {dsl : Fields Object} {built : Specification Object} :
    dslToSpecification runtime mapping ⟨.conditions,some dsl⟩ = .ok (.fromSpecification built) ↔
      ∃ mapped, mapDslToApp runtime mapping dsl = .ok mapped ∧
        validateNode runtime none runtime.recursionLimit (.dict mapped) "<root>" = .ok () ∧
        build runtime runtime.recursionLimit (.dict mapped) = .ok built := by
  change (mapDslToApp runtime mapping dsl >>= fun mapped => fromDict runtime none (.dict mapped) >>= fun specification =>
    Except.ok (AuthorizationFilter.fromSpecification specification)) = _ ↔ _
  rw [bind_ok]
  refine exists_congr fun mapped => and_congr_right fun _ => ?_
  rw [bind_ok]
  constructor
  · rintro ⟨specification,made,same⟩
    cases same
    obtain ⟨_,validated,built⟩ := bind_ok.mp made
    exact ⟨validated,built⟩
  · intro both
    exact ⟨built,bind_ok.mpr ⟨(),both.1,both.2⟩,rfl⟩

theorem roundTrip_ok {specification built : Specification Object} :
    roundTrip runtime mapping specification = .ok (.fromSpecification built) ↔ ∃ dsl mapped,
      remapDslNode runtime mapping false runtime.recursionLimit (.dict specification.toDict) = .ok dsl ∧
      remapDslNode runtime mapping true runtime.recursionLimit (.dict dsl) = .ok mapped ∧
      validateNode runtime none runtime.recursionLimit (.dict mapped) "<root>" = .ok () ∧
      build runtime runtime.recursionLimit (.dict mapped) = .ok built := by
  unfold roundTrip
  rw [bind_ok]
  refine exists_congr fun dsl => ?_
  rw [dslToSpecification_ok,← exists_and_left]
  exact Iff.rfl

theorem tree_preserved (lowers : Lowers runtime) {specification : Specification Object}
    (wellFormed : WellFormed specification) (room : specification.depth ≤ runtime.recursionLimit)
    (survive : ∀ leaf ∈ specification.leaves, ∀ name, leaf.attr = .text name → mapping.restored name = name) :
    Preserved runtime mapping specification := by
  intro cast casts
  have returns : Returns runtime mapping runtime.recursionLimit specification cast :=
    tree_returns wellFormed survive casts room
  obtain ⟨dsl,there,back⟩ := returns.restores
  have accepts := returns.wellFormed.accepts lowers (returns.deep.trans_le room)
  exact ⟨cast,roundTrip_ok.mpr ⟨dsl,cast.toDict,there,back,accepts.validated _,accepts.built⟩,fun _ _ => rfl⟩

def nested (path : List String) : Value Object := path.foldr (fun part value => .dict [(part,value)]) (.bool true)

def finder : Registry Object where
  getattr _ _ := .null
  evaluate _ actual _ := match actual with
    | .bool value => .ok value
    | _ => .ok false

theorem resolvePath_null (registry : Registry Object) (path : List String) : resolvePath registry path .null = .null := by
  cases path with
  | nil => exact rfl
  | cons part rest => exact rfl

theorem found_iff (path other : List String) :
    finder.evaluate .isNotNull (resolvePath finder path (nested other : Value Object)) .null = .ok true ↔
      path = other := by
  have missing : finder.evaluate .isNotNull (.null : Value Object) .null ≠ .ok true := fun found => by cases found
  induction other generalizing path with
  | nil =>
    cases path with
    | nil => exact iff_of_true rfl rfl
    | cons part rest =>
      change finder.evaluate .isNotNull (resolvePath finder rest .null) .null = _ ↔ _
      rw [resolvePath_null]
      exact iff_of_false missing (List.cons_ne_nil part rest)
  | cons last others ih =>
    cases path with
    | nil => exact iff_of_false (fun found => by cases found) (List.cons_ne_nil last others).symm
    | cons part rest =>
      change finder.evaluate .isNotNull (resolvePath finder rest (([(last,nested others)].lookup part).getD .null)) .null = _ ↔
        _
      by_cases same : part = last
      · subst same
        rw [List.lookup_cons_self,List.cons.injEq,and_iff_right rfl]
        exact ih rest
      · rw [List.lookup_cons,beq_false_of_ne same]
        change finder.evaluate .isNotNull (resolvePath finder rest .null) .null = _ ↔ _
        rw [resolvePath_null]
        exact iff_of_false missing fun equal => same (List.cons.inj equal).1

theorem splitOn_injective {first second : String} (same : splitOn '.' first = splitOn '.' second) : first = second := by
  have parts : first.toList.splitOn '.' = second.toList.splitOn '.' :=
    List.map_injective_iff.mpr (fun _ _ equal => String.ofList_injective equal) same
  have joined := congrArg (List.intercalate ['.']) parts
  rw [List.intercalate_splitOn,List.intercalate_splitOn] at joined
  exact String.toList_inj.mp joined

theorem found_field {first second : String} (val other : Value Object)
    (same : ∀ registry attributes,
      AttributeSpecification.isSatisfiedBy registry attributes ⟨.text first,.isNotNull,val⟩ =
        AttributeSpecification.isSatisfiedBy registry attributes ⟨.text second,.isNotNull,other⟩) :
    first = second := by
  apply splitOn_injective
  rw [← found_iff]
  cases parts : splitOn '.' second with
  | nil => exact absurd (List.map_eq_nil_iff.mp parts) (List.splitOn_ne_nil _ _)
  | cons part rest =>
    have asked := same finder [(part,nested rest)]
    change finder.evaluate .isNotNull (resolveField finder [(part,nested rest)] first) .null =
      finder.evaluate .isNotNull (resolveField finder [(part,nested rest)] second) .null at asked
    rw [← resolve_attributes,← resolve_attributes,resolve,resolve,parts] at asked
    exact asked.trans ((found_iff (part::rest) (part::rest)).mpr rfl)

theorem isText_iff {value : Value Object} {name : String} : value.isText name = true ↔ value = .text name := by
  cases value with
  | text content =>
    rw [Value.isText,decide_eq_true_iff,Value.text.injEq]
  | _ => exact iff_of_false Bool.false_ne_true fun same => by cases same

theorem remapLeafAttr_lookup {reverse : Bool} {node result : Fields Object} {attr : Value Object}
    (remapped : remapLeafAttr runtime mapping reverse node attr = .ok result) {key : String} (attrApart : key ≠ "attr")
    (valApart : key ≠ "val") (sourceApart : key ≠ "source") : result.lookup key = node.lookup key := by
  unfold remapLeafAttr at remapped
  split at remapped
  next =>
    cases remapped
    exact rfl
  next =>
    cases reverse with
    | true =>
      rw [if_pos rfl] at remapped
      unfold remapLeafAttrReverse at remapped
      split at remapped
      next =>
        dsimp only at remapped
        split at remapped
        next =>
          obtain ⟨value,_,made⟩ := bind_ok.mp remapped
          obtain rfl := pure_ok.mp made
          rw [Dict.lookup_put,if_neg valApart,Dict.lookup_put,if_neg attrApart]
        next =>
          obtain rfl := pure_ok.mp remapped
          rw [Dict.lookup_put,if_neg attrApart]
      next =>
        obtain ⟨value,_,made⟩ := bind_ok.mp remapped
        obtain rfl := pure_ok.mp made
        rw [Dict.lookup_put,if_neg attrApart]
    | false =>
      rw [if_neg Bool.false_ne_true] at remapped
      unfold remapLeafAttrForward at remapped
      split at remapped
      next =>
        obtain rfl := pure_ok.mp remapped
        rw [Dict.lookup_put,if_neg sourceApart,Dict.lookup_put,if_neg attrApart]
      next =>
        obtain ⟨value,_,made⟩ := bind_ok.mp remapped
        obtain rfl := pure_ok.mp made
        rw [Dict.lookup_put,if_neg sourceApart,Dict.lookup_put,if_neg attrApart]

theorem popped_lookup (node : Fields Object) {key : String} (apart : key ≠ "source") :
    (popped "source" node).lookup key = node.lookup key :=
  Dict.lookup_erase node apart

def spatialOp (reverse : Bool) (op : Value Object) : Value Object :=
  if op.isText "st_dwithin" || op.isText "dwithin" then .text (if reverse then "dwithin" else "st_dwithin") else op

theorem remapSpatialOp_op (reverse : Bool) (node : Fields Object) :
    opOf (remapSpatialOp reverse node) = spatialOp reverse (opOf node) := by
  unfold remapSpatialOp spatialOp
  split
  next =>
    unfold opOf
    rw [Dict.lookup_put,if_pos rfl]
    exact rfl
  next => exact rfl

theorem remapSpatialOp_lookup (reverse : Bool) (node : Fields Object) {key : String} (apart : key ≠ "op") :
    (remapSpatialOp reverse node).lookup key = node.lookup key := by
  unfold remapSpatialOp
  split
  next => rw [Dict.lookup_put,if_neg apart]
  next => exact rfl

theorem remapLeafNode_parts {reverse : Bool} {node result : Fields Object}
    (remapped : remapLeafNode runtime mapping reverse node = .ok result) :
    ∃ between, remapLeafAttr runtime mapping reverse node ((node.lookup "attr").getD .null) = .ok between ∧
      result.lookup "attr" = between.lookup "attr" ∧ opOf result = spatialOp reverse (opOf node) ∧
      result.lookup "conditions" = node.lookup "conditions" ∧ result.lookup "condition" = node.lookup "condition" := by
  obtain ⟨between,renamed,made⟩ := bind_ok.mp remapped
  obtain rfl := pure_ok.mp made
  have kept {key : String} (apart : key ≠ "source") :
      (if reverse = true then popped "source" between else between).lookup key = between.lookup key := by
    cases reverse with
    | true => exact popped_lookup between apart
    | false => exact rfl
  refine ⟨between,renamed,?_,?_,?_,?_⟩
  · rw [remapSpatialOp_lookup reverse _ (by decide),kept (by decide)]
  · rw [remapSpatialOp_op]
    unfold opOf
    rw [kept (by decide),remapLeafAttr_lookup renamed (by decide) (by decide) (by decide)]
  · rw [remapSpatialOp_lookup reverse _ (by decide),kept (by decide),
      remapLeafAttr_lookup renamed (by decide) (by decide) (by decide)]
  · rw [remapSpatialOp_lookup reverse _ (by decide),kept (by decide),
      remapLeafAttr_lookup renamed (by decide) (by decide) (by decide)]

theorem renamed_unnamed {rename : String → String} {attr result : Value Object} (unnamed : ∀ name, attr ≠ .text name)
    (made : renamed rename attr = .ok result) : result = attr := by
  unfold renamed at made
  split at made
  next name => exact absurd rfl (unnamed name)
  next =>
    split at made
    next => exact (Except.ok.inj made).symm
    next => cases made

theorem remapLeafAttr_unnamed {reverse : Bool} {node result : Fields Object} {attr : Value Object}
    (found : node.lookup "attr" = some attr) (unnamed : ∀ name, attr = .text name → name = "")
    (remapped : remapLeafAttr runtime mapping reverse node attr = .ok result) : result.lookup "attr" = some attr := by
  unfold remapLeafAttr at remapped
  split at remapped
  next =>
    cases remapped
    exact found
  next truthy =>
    have textless (name : String) : attr ≠ .text name := by
      intro same
      obtain rfl := unnamed name same
      subst same
      exact truthy rfl
    have neither (name : String) : ¬ attr.isText name = true := fun same => textless name (isText_iff.mp same)
    cases reverse with
    | true =>
      rw [if_pos rfl] at remapped
      unfold remapLeafAttrReverse at remapped
      rw [if_neg (neither _)] at remapped
      obtain ⟨value,made,same⟩ := bind_ok.mp remapped
      obtain rfl := pure_ok.mp same
      rw [Dict.lookup_put,if_pos rfl,renamed_unnamed textless made]
    | false =>
      rw [if_neg Bool.false_ne_true] at remapped
      unfold remapLeafAttrForward at remapped
      rw [if_neg (neither _)] at remapped
      obtain ⟨value,made,same⟩ := bind_ok.mp remapped
      obtain rfl := pure_ok.mp same
      rw [Dict.lookup_put,if_neg (by decide),Dict.lookup_put,if_pos rfl,renamed_unnamed textless made]

theorem childless {mapped : Fields Object} {group place : String} (named : opOf mapped = .text group)
    (logical : runtime.lower group ∈ logicalOperators) (listed : mapped.lookup "conditions" = some (.list []))
    (alone : mapped.lookup "condition" = none) :
    validateNode runtime none (depth + 1) (.dict mapped) place ≠ .ok () := by
  intro validated
  obtain ⟨data,spelled,same,found,accepted⟩ := validateNode_accepted validated
  cases same
  rw [opOf_named found] at named
  cases named
  cases accepted with
  | leaf _ plain _ => exact plain logical
  | conditions nodes _ relisted given _ =>
    cases listed.symm.trans relisted
    rcases given with some | ⟨node,hit⟩
    · exact some rfl
    · cases alone.symm.trans hit
  | condition node _ _ unlisted _ _ =>
    rw [listed] at unlisted
    cases unlisted

theorem validated_named {mapped : Fields Object} {place : String} {attr : Value Object}
    (plain : ∀ group, opOf mapped = .text group → runtime.lower group ∉ logicalOperators)
    (validated : validateNode runtime none (depth + 1) (.dict mapped) place = .ok ())
    (found : mapped.lookup "attr" = some attr) : ∃ name, attr = .text name ∧ name ≠ "" := by
  obtain ⟨data,spelled,same,hit,accepted⟩ := validateNode_accepted validated
  cases same
  have apart := plain spelled (opOf_named hit)
  cases accepted with
  | leaf _ _ checked =>
    unfold validateLeafNode at checked
    dsimp only at checked
    rw [found] at checked
    split at checked
    next => cases checked
    next =>
      split at checked
      next name same =>
        cases same
        refine ⟨name,rfl,?_⟩
        rintro rfl
        cases checked
      next => cases checked
  | conditions _ logical => exact absurd logical apart
  | condition _ _ logical => exact absurd logical apart

/-- The tree comes back as a dict that the factory validates. -/
def Comes (runtime : Runtime Object) (mapping : FieldMapping Object) (depth : Nat) (specification : Specification Object) :
    Prop := ∃ dsl mapped place, remapDslNode runtime mapping false depth (.dict specification.toDict) = .ok dsl ∧
  remapDslNode runtime mapping true depth (.dict dsl) = .ok mapped ∧
  validateNode runtime none depth (.dict mapped) place = .ok ()

theorem lower_group (lowers : Lowers runtime) {group : String} (logical : group ∈ logicalOperators) :
    runtime.lower group = group := by
  rcases List.mem_cons.mp logical with rfl | others
  · exact lowers .and
  · rcases List.mem_cons.mp others with rfl | last
    · exact lowers .or
    · obtain rfl := List.mem_singleton.mp last
      exact lowers .not

theorem isLogical_iff {group : String} : isLogical (.text group : Value Object) = true ↔ group ∈ logicalOperators := by
  simp [isLogical,Value.isText,logicalOperators,SpecificationOperator.value,or_assoc]

theorem childless_remapped (reverse : Bool) {node : Fields Object} (spelled : isLogical (opOf node) = true)
    (empty : conditionsOf node = .list []) : remapDslNode runtime mapping reverse (depth + 1) (.dict node) =
      .ok (popped "source" (Dict.put "conditions" (.list []) node)) := by
  change (if isLogical (opOf node) = true then (conditionsOf node).iterate >>= _ else _) = _
  rw [if_pos spelled,empty]
  exact rfl

theorem logical_leaf (lowers : Lowers runtime) {leaf : AttributeSpecification Object}
    (logical : leaf.op.value ∈ logicalOperators) : ¬ Comes runtime mapping (depth + 1) (.attribute leaf) := by
  intro comes
  obtain ⟨dsl,mapped,place,there,back,validated⟩ := comes
  have spelled : isLogical (.text leaf.op.value : Value Object) = true := isLogical_iff.mpr logical
  have forth : remapDslNode runtime mapping false (depth + 1) (.dict (Specification.attribute leaf).toDict) = _ :=
    childless_remapped false spelled rfl
  obtain rfl := Except.ok.inj (forth.symm.trans there)
  have again : remapDslNode runtime mapping true (depth + 1) (.dict (popped "source" (Dict.put "conditions" (.list [])
      (Specification.attribute leaf).toDict))) = _ := childless_remapped true spelled rfl
  obtain rfl := Except.ok.inj (again.symm.trans back)
  exact childless rfl (by rw [lower_group lowers logical]; exact logical) rfl rfl validated

theorem leaf_comes (lowers : Lowers runtime) {leaf : AttributeSpecification Object}
    (comes : Comes runtime mapping (depth + 1) (.attribute leaf)) : WellFormed (.attribute leaf) := by
  by_cases logical : leaf.op.value ∈ logicalOperators
  · exact absurd comes (logical_leaf lowers logical)
  by_cases named : ∃ name, leaf.attr = .text name ∧ name ≠ ""
  · obtain ⟨attr,op,val⟩ := leaf
    obtain ⟨name,rfl,filled⟩ := named
    exact .leaf filled logical
  · have unnamed : ∀ name, leaf.attr = .text name → name = "" := by
      intro name same
      by_contra filled
      exact named ⟨name,same,filled⟩
    obtain ⟨dsl,mapped,place,there,back,validated⟩ := comes
    change (if isLogical (.text leaf.op.value) = true then _ else
      remapLeafNode runtime mapping false (Specification.attribute leaf).toDict) = _ at there
    rw [if_neg (by rw [(isLogical_plain logical).1]; exact Bool.false_ne_true)] at there
    obtain ⟨_,forth,attrForth,opForth,_⟩ := remapLeafNode_parts there
    have engine : opOf dsl = .text (engineOp leaf.op) := by
      rw [opForth]
      change spatialOp false (.text leaf.op.value) = _
      cases leaf.op with
      | _ => exact rfl
    change (if isLogical (opOf dsl) = true then _ else remapLeafNode runtime mapping true dsl) = _ at back
    rw [engine,if_neg (by rw [(isLogical_plain logical).2]; exact Bool.false_ne_true)] at back
    obtain ⟨_,again,attrBack,opBack,_⟩ := remapLeafNode_parts back
    have app : opOf mapped = .text leaf.op.value := by
      rw [opBack,engine]
      cases leaf.op with
      | _ => exact rfl
    have sent : dsl.lookup "attr" = some leaf.attr := attrForth.trans (remapLeafAttr_unnamed rfl unnamed forth)
    rw [sent] at again
    have returned : mapped.lookup "attr" = some leaf.attr := attrBack.trans (remapLeafAttr_unnamed sent unnamed again)
    have plain : ∀ group, opOf mapped = .text group → runtime.lower group ∉ logicalOperators := by
      intro group same
      cases app.symm.trans same
      rw [lowers]
      exact logical
    exact absurd (validated_named plain validated returned) named

theorem group_comes (lowers : Lowers runtime) {group : String} (logical : group ∈ logicalOperators)
    {specifications : List (Specification Object)} {dsl mapped : Fields Object} {place : String}
    (there : remapDslNode runtime mapping false (depth + 1)
      (.dict [("op",.text group),("conditions",.list (toDicts specifications))]) = .ok dsl)
    (back : remapDslNode runtime mapping true (depth + 1) (.dict dsl) = .ok mapped)
    (validated : validateNode runtime none (depth + 1) (.dict mapped) place = .ok ()) :
    specifications ≠ [] ∧ ∀ specification ∈ specifications, Comes runtime mapping depth specification := by
  have spelled : isLogical (.text group : Value Object) = true := isLogical_iff.mpr logical
  rw [group_remapped false spelled] at there
  obtain ⟨dsls,forth,rfl⟩ := map_ok.mp there
  rw [group_remapped true spelled] at back
  obtain ⟨mappeds,again,rfl⟩ := map_ok.mp back
  rw [toDicts_eq,mapM_forall₂,List.forall₂_map_left_iff] at forth
  rw [mapM_forall₂,List.forall₂_map_left_iff] at again
  obtain ⟨data,op,same,named,accepted⟩ := validateNode_accepted validated
  cases same
  cases named
  cases accepted with
  | leaf _ plain _ => exact absurd (by rw [lower_group lowers logical]; exact logical) plain
  | condition _ _ _ unlisted _ _ => cases unlisted
  | conditions nodes _ listed given each =>
    cases listed
    constructor
    · rintro rfl
      obtain rfl := List.forall₂_nil_left_iff.mp forth
      obtain rfl := List.forall₂_nil_left_iff.mp again
      rcases given with some | ⟨node,hit⟩
      · exact some rfl
      · cases hit
    · intro specification member
      obtain ⟨dsl,present,sent⟩ := (exists_related forth).1 specification member
      obtain ⟨mapped,inside,returned⟩ := (exists_related again).1 dsl present
      obtain ⟨place,checked⟩ := each (.dict mapped) (List.mem_map_of_mem inside)
      exact ⟨dsl,mapped,place,sent,returned,checked⟩

mutual
theorem comes_wellFormed (lowers : Lowers runtime) : (specification : Specification Object) → ∀ depth,
    Comes runtime mapping depth specification → WellFormed specification ∧ specification.depth ≤ depth
  | specification,0,comes => by
    obtain ⟨_,_,_,there,_⟩ := comes
    cases there
  | .attribute leaf,depth + 1,comes => ⟨leaf_comes lowers comes,Nat.le_add_left 1 depth⟩
  | .and specifications,depth + 1,comes => by
    obtain ⟨dsl,mapped,place,there,back,validated⟩ := comes
    have parts := group_comes lowers (by decide) there back validated
    have inner := all_wellFormed lowers specifications depth parts.2
    exact ⟨.and parts.1 inner.1,Nat.succ_le_succ inner.2⟩
  | .or specifications,depth + 1,comes => by
    obtain ⟨dsl,mapped,place,there,back,validated⟩ := comes
    have parts := group_comes lowers (by decide) there back validated
    have inner := all_wellFormed lowers specifications depth parts.2
    exact ⟨.or parts.1 inner.1,Nat.succ_le_succ inner.2⟩
  | .not specification,depth + 1,comes => by
    obtain ⟨dsl,mapped,place,there,back,validated⟩ := comes
    have parts : [specification] ≠ [] ∧ _ := group_comes lowers (by decide) there back validated
    have inner := comes_wellFormed lowers specification depth (parts.2 specification List.mem_cons_self)
    exact ⟨.not inner.1,Nat.succ_le_succ inner.2⟩
theorem all_wellFormed (lowers : Lowers runtime) : (specifications : List (Specification Object)) → ∀ depth,
    (∀ specification ∈ specifications, Comes runtime mapping depth specification) →
      (∀ specification ∈ specifications, WellFormed specification) ∧ depthOf specifications ≤ depth
  | [],depth,_ => ⟨fun _ member => absurd member List.not_mem_nil,Nat.zero_le _⟩
  | specification::rest,depth,come => by
    have first := comes_wellFormed lowers specification depth (come specification List.mem_cons_self)
    have others := all_wellFormed lowers rest depth fun other member => come other (List.mem_cons_of_mem _ member)
    exact ⟨List.forall_mem_cons.mpr ⟨first.1,others.1⟩,max_le first.2 others.2⟩
end

theorem roundTrip_wellFormed (lowers : Lowers runtime) {specification built : Specification Object}
    (returned : roundTrip runtime mapping specification = .ok (.fromSpecification built)) :
    WellFormed specification ∧ specification.depth ≤ runtime.recursionLimit := by
  obtain ⟨dsl,mapped,there,back,validated,_⟩ := roundTrip_ok.mp returned
  exact comes_wellFormed lowers specification _ ⟨dsl,mapped,"<root>",there,back,validated⟩

theorem leaf_named {specification : Specification Object} (wellFormed : WellFormed specification)
    {leaf : AttributeSpecification Object} (member : leaf ∈ specification.leaves) (same : leaf.attr = .text name) :
    name ≠ "" := by
  induction wellFormed with
  | leaf named _ =>
    obtain rfl := List.mem_singleton.mp member
    cases same
    exact named
  | and _ _ ih =>
    obtain ⟨part,inside,below⟩ := mem_leavesOf.mp member
    exact ih part inside below
  | or _ _ ih =>
    obtain ⟨part,inside,below⟩ := mem_leavesOf.mp member
    exact ih part inside below
  | not _ ih => exact ih member

theorem leaf_preserved (lowers : Lowers runtime) (named : name ≠ "") (limit : 0 < runtime.recursionLimit)
    (foreign : name ≠ mapping.externalIdField)
    (preserved : Preserved runtime mapping (.attribute ⟨.text name,.isNotNull,.null⟩)) :
    mapping.restored name = name := by
  have plain : SpecificationOperator.isNotNull.value ∉ logicalOperators := by decide
  have casts : compared mapping (.attribute ⟨.text name,.isNotNull,.null⟩) =
      .ok (.attribute ⟨.text name,.isNotNull,.null⟩ : Specification Object) := by
    rw [compared,if_neg]
    rw [Value.isText,decide_eq_false foreign]
    exact Bool.false_ne_true
  obtain ⟨built,returned,same⟩ := preserved _ casts
  obtain ⟨dsl,mapped,there,back,_,made⟩ := roundTrip_ok.mp returned
  obtain ⟨less,more⟩ := Nat.exists_eq_add_one_of_ne_zero (Nat.ne_zero_of_lt limit)
  rw [more] at there back made
  obtain rfl := Except.ok.inj ((leaf_forward named plain .null).symm.trans there)
  obtain ⟨value,_,rfl⟩ := map_ok.mp ((leaf_reverse plain .null).symm.trans back)
  have plains : ∀ leaf ∈ (Specification.attribute ⟨.text (mapping.restored name),.isNotNull,value⟩).leaves,
      leaf.op.value ∉ logicalOperators := by
    intro leaf member
    rw [List.mem_singleton.mp member]
    exact plain
  obtain rfl := build_toDict lowers _ plains made
  exact found_field value .null same

theorem preserved_iff (lowers : Lowers runtime) (limit : 0 < runtime.recursionLimit) (injective : mapping.Injective)
    (fields : String → Prop) :
    (∀ specification, WellFormed specification → specification.depth ≤ runtime.recursionLimit →
      (∀ leaf ∈ specification.leaves, ∀ name, leaf.attr = .text name → fields name) →
      Preserved runtime mapping specification) ↔
    ∀ name, fields name → name ≠ "" → mapping.Survives name := by
  constructor
  · intro preserved name given named
    by_cases external : name = mapping.externalIdField
    · exact .inl external
    · refine (FieldMapping.restored_iff injective named).mp (leaf_preserved lowers named limit external ?_)
      refine preserved _ (.leaf named (by decide)) limit fun leaf member other same => ?_
      obtain rfl := List.mem_singleton.mp member
      cases same
      exact given
  · intro survive specification wellFormed room ranges
    refine tree_preserved lowers wellFormed room fun leaf member name same => ?_
    have named := leaf_named wellFormed member same
    exact (FieldMapping.restored_iff injective named).mpr (survive name (ranges leaf member name same) named)

end ConditionConverter

end CqrsDdd.StatefulAbac
