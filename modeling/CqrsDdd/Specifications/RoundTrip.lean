import CqrsDdd.Specifications.BackEnds

/-! From a specification to its dict and back. The factory validates the dict and builds
it in two walks, each as deep as the specification; what it builds is the specification,
whatever its leaves compare with. -/
namespace CqrsDdd.Specifications

open SpecificationOperator SpecificationFactory Attempts

variable {Object : Type}

/-- Leaves name an attribute and an operator that is not logical, and groups are not empty. -/
inductive WellFormed : Specification Object → Prop
  | leaf {name : String} {op : SpecificationOperator} {val : Value Object} (named : name ≠ "")
      (plain : op.value ∉ logicalOperators) : WellFormed (.attribute ⟨.text name,op,val⟩)
  | and {specifications : List (Specification Object)} (some : specifications ≠ [])
      (each : ∀ specification ∈ specifications, WellFormed specification) : WellFormed (.and specifications)
  | or {specifications : List (Specification Object)} (some : specifications ≠ [])
      (each : ∀ specification ∈ specifications, WellFormed specification) : WellFormed (.or specifications)
  | not {specification : Specification Object} (inner : WellFormed specification) : WellFormed (.not specification)

mutual
/-- How deep the calls of the factory go. -/
def Specification.depth : Specification Object → Nat
  | .attribute _ => 1
  | .and specifications => depthOf specifications + 1
  | .or specifications => depthOf specifications + 1
  | .not specification => specification.depth + 1
def depthOf : List (Specification Object) → Nat
  | [] => 0
  | specification::rest => max specification.depth (depthOf rest)
end

theorem depth_le_depthOf {specifications : List (Specification Object)} {specification : Specification Object}
    (member : specification ∈ specifications) : specification.depth ≤ depthOf specifications := by
  induction specifications with
  | nil => cases member
  | cons first rest ih =>
    rw [depthOf]
    rcases List.mem_cons.mp member with rfl | later
    · exact le_max_left _ _
    · exact (ih later).trans (le_max_right _ _)

/-- Both walks over the dict return, the second with the specification. -/
structure Accepts (runtime : Runtime Object) (depth : Nat) (specification : Specification Object) : Prop where
  validated : ∀ path, validateNode runtime none depth (.dict specification.toDict) path = .ok ()
  built : build runtime depth (.dict specification.toDict) = .ok specification

namespace Accepts

variable {runtime : Runtime Object} {depth : Nat} {specifications : List (Specification Object)}

theorem leaf (lowers : Lowers runtime) {name : String} {op : SpecificationOperator} {val : Value Object}
    (named : name ≠ "") (plain : op.value ∉ logicalOperators) :
    Accepts runtime (depth + 1) (.attribute ⟨.text name,op,val⟩) where
  validated path := by
    have filled : op.value ≠ "" := by cases op <;> decide
    have known : op.value ∈ validOperators := by cases op <;> decide
    change (if op.value = "" then _ else _) = _
    rw [if_neg filled,lowers,if_neg plain]
    unfold validateLeafNode
    dsimp only
    rw [if_neg (not_not.mpr known)]
    change (if name = "" then _ else _) = _
    rw [if_neg named]
    exact rfl
  built := by
    rw [← lowers op] at plain
    exact (build_leaf rfl plain).mpr ⟨_,buildLeaf_toDict lowers _,rfl⟩

theorem group_validated (op : String) (filled : op ≠ "") (logical : runtime.lower op ∈ logicalOperators)
    (some : specifications ≠ []) (each : ∀ specification ∈ specifications, Accepts runtime depth specification)
    (path : String) :
    validateNode runtime none (depth + 1) (.dict [("op",.text op),("conditions",.list (toDicts specifications))]) path =
      .ok () := by
  change (if op = "" then _ else _) = _
  rw [if_neg filled,if_pos logical]
  unfold validateLogicalNode
  have truthy : Value.isTruthy runtime (.list (toDicts specifications)) = true := by
    rw [toDicts_eq,Value.isTruthy,Bool.not_eq_true',List.isEmpty_eq_false_iff,ne_eq,List.map_eq_nil_iff]
    exact some
  change (if !Value.isTruthy runtime (.list (toDicts specifications)) && _ then _ else _) = _
  rw [truthy]
  change (toDicts specifications).zipIdx.forM _ = _
  apply forM_ok.mpr
  intro entry member
  have inside := (List.mem_zipIdx_iff_getElem?.mp member)
  have present : entry.1 ∈ toDicts specifications := List.mem_of_getElem? inside
  rw [toDicts_eq] at present
  obtain ⟨specification,own,same⟩ := List.mem_map.mp present
  rw [← same]
  exact (each specification own).validated _

theorem group_built (each : ∀ specification ∈ specifications, Accepts runtime depth specification) :
    (toDicts specifications).mapM (build runtime depth) = .ok specifications := by
  rw [toDicts_eq,mapM_forall₂,List.forall₂_map_left_iff]
  exact List.forall₂_same.mpr fun specification member => (each specification member).built

theorem and (lowers : Lowers runtime) (some : specifications ≠ [])
    (each : ∀ specification ∈ specifications, Accepts runtime depth specification) :
    Accepts runtime (depth + 1) (.and specifications) where
  validated path := by
    have conjunction : runtime.lower "and" = "and" := lowers .and
    rw [Specification.toDict]
    exact group_validated "and" (by decide) (by rw [conjunction]; decide) some each path
  built := by
    have conjunction : runtime.lower "and" = SpecificationOperator.and.value := lowers .and
    rw [Specification.toDict,build_logical rfl,if_pos conjunction]
    change (toDicts specifications).mapM (build runtime depth) >>= _ = _
    rw [group_built each]
    exact rfl

theorem or (lowers : Lowers runtime) (some : specifications ≠ [])
    (each : ∀ specification ∈ specifications, Accepts runtime depth specification) :
    Accepts runtime (depth + 1) (.or specifications) where
  validated path := by
    have disjunction : runtime.lower "or" = "or" := lowers .or
    rw [Specification.toDict]
    exact group_validated "or" (by decide) (by rw [disjunction]; decide) some each path
  built := by
    have disjunction : runtime.lower "or" = SpecificationOperator.or.value := lowers .or
    rw [Specification.toDict,build_logical rfl,if_neg (by rw [disjunction]; decide),if_pos disjunction]
    change (toDicts specifications).mapM (build runtime depth) >>= _ = _
    rw [group_built each]
    exact rfl

theorem not (lowers : Lowers runtime) {specification : Specification Object}
    (inner : Accepts runtime depth specification) : Accepts runtime (depth + 1) (.not specification) where
  validated path := by
    have negation : runtime.lower "not" = "not" := lowers .not
    rw [Specification.toDict]
    have alone : toDicts [specification] = [.dict specification.toDict] := by rw [toDicts,toDicts]
    rw [← alone]
    refine group_validated "not" (by decide) (by rw [negation]; decide) (List.cons_ne_nil _ _) ?_ path
    exact fun other member => List.mem_singleton.mp member ▸ inner
  built := by
    rw [Specification.toDict]
    exact (build_not rfl (lowers .not)).mpr ⟨_,_,rfl,inner.built,rfl⟩

end Accepts

theorem WellFormed.accepts {runtime : Runtime Object} (lowers : Lowers runtime) {specification : Specification Object}
    (wellFormed : WellFormed specification) {depth : Nat} (room : specification.depth ≤ depth) :
    Accepts runtime depth specification := by
  induction wellFormed generalizing depth with
  | leaf named plain =>
    obtain ⟨less,rfl⟩ := Nat.exists_eq_add_one_of_ne_zero (Nat.one_le_iff_ne_zero.mp room)
    exact .leaf lowers named plain
  | and some _ ih =>
    rw [Specification.depth] at room
    obtain ⟨less,rfl⟩ := Nat.exists_eq_add_one_of_ne_zero (Nat.ne_zero_of_lt room)
    exact .and lowers some fun part member => ih part member ((depth_le_depthOf member).trans (Nat.le_of_succ_le_succ room))
  | or some _ ih =>
    rw [Specification.depth] at room
    obtain ⟨less,rfl⟩ := Nat.exists_eq_add_one_of_ne_zero (Nat.ne_zero_of_lt room)
    exact .or lowers some fun part member => ih part member ((depth_le_depthOf member).trans (Nat.le_of_succ_le_succ room))
  | not _ ih =>
    rw [Specification.depth] at room
    obtain ⟨less,rfl⟩ := Nat.exists_eq_add_one_of_ne_zero (Nat.ne_zero_of_lt room)
    exact .not lowers (ih (Nat.le_of_succ_le_succ room))

/-- With as many nested calls as the specification is deep, `from_dict` gives it back: it is satisfied by the same
candidates, and has the same dict. -/
theorem fromDict_toDict {runtime : Runtime Object} (lowers : Lowers runtime) {specification : Specification Object}
    (wellFormed : WellFormed specification) (room : specification.depth ≤ runtime.recursionLimit) :
    ∃ built, fromDict runtime none (.dict specification.toDict) = .ok built ∧
      (∀ registry attributes, built.isSatisfiedBy registry attributes = specification.isSatisfiedBy registry attributes) ∧
      built.toDict = specification.toDict := by
  have accepts := wellFormed.accepts lowers room
  exact ⟨specification,bind_ok.mpr ⟨(),accepts.validated _,accepts.built⟩,fun _ _ => rfl,rfl⟩

def notBob : Specification Empty :=
  .not (.and [.attribute ⟨.text "name",.eq,.text "bob"⟩,.attribute ⟨.text "age",.notIn,.list [.number 3,.null]⟩])

theorem wellFormed_notBob : WellFormed notBob := by
  refine .not (.and (List.cons_ne_nil _ _) ?_)
  intro specification member
  rcases List.mem_cons.mp member with rfl | later
  · exact .leaf (by decide) (by decide)
  · obtain rfl := List.mem_singleton.mp later
    exact .leaf (by decide) (by decide)

theorem fromDict_toDict_notBob : Lowers Runtime.ascii ∧ WellFormed notBob ∧
    notBob.depth ≤ Runtime.ascii.recursionLimit ∧
    ∃ built, fromDict Runtime.ascii none (.dict notBob.toDict) = .ok built ∧
      (∀ registry attributes, built.isSatisfiedBy registry attributes = notBob.isSatisfiedBy registry attributes) ∧
      built.toDict = notBob.toDict := by
  have room : notBob.depth ≤ Runtime.ascii.recursionLimit := by decide
  exact ⟨BackEnds.lowers_ascii,wellFormed_notBob,room,fromDict_toDict BackEnds.lowers_ascii wellFormed_notBob room⟩

end CqrsDdd.Specifications
