import CqrsDdd.Specifications.Factory

/-! The validation that collects every error instead of stopping at the first. It walks the
tree on its own, so what the two report is compared node by node. -/
namespace CqrsDdd.Specifications

variable {Object : Type}

structure CollectedError where
  path : String
  message : String
  deriving DecidableEq, Repr

def CollectedError.text (error : CollectedError) : String := error.path ++ ": " ++ error.message

/-- The list that a walk has appended to when it returns, or when it raises. -/
structure Collected where
  errors : List CollectedError
  raised : Option Failure
  deriving DecidableEq, Repr

namespace SpecificationFactory

open SpecificationOperator

def noted (path message : String) : Collected := ⟨[⟨path,message⟩],none⟩

/-- A loop over children; an exception ends it. -/
def collectEach {Child : Type} (collect : Child → Collected) : List Child → Collected
  | [] => ⟨[],none⟩
  | child::rest =>
    let first := collect child
    if first.raised.isSome then first
    else
      let others := collectEach collect rest
      ⟨first.errors ++ others.errors,others.raised⟩

def collectLogicalErrors (runtime : Runtime Object) (collectErrors : Value Object → String → Collected)
    (data : Fields Object) (op path : String) : Collected :=
  let conditions := (data.lookup "conditions").getD .null
  if !conditions.isTruthy runtime && (data.lookup "condition").isNone then
    noted path ("logical '" ++ op ++ "' requires 'conditions'")
  else match conditions,data.lookup "condition" with
    | .list children,_ =>
      collectEach (fun entry => collectErrors entry.1 (path ++ ".conditions[" ++ toString entry.2 ++ "]"))
        children.zipIdx
    | .null,some condition => collectErrors condition (path ++ ".condition")
    | .null,none => ⟨[],none⟩
    | _,_ => noted path "'conditions' must be a list"

def collectLeafErrors (allowedFields : Option (List String)) (data : Fields Object) (op path : String) : Collected :=
  let unknown : List CollectedError := if op ∈ validOperators then [] else [⟨path,"unknown operator '" ++ op ++ "'"⟩]
  let missing : List CollectedError := [⟨path,"missing 'attr'"⟩]
  let attrErrors := match data.lookup "attr" with
    | some (.text attr) =>
      if attr = "" then missing
      else if allowedFields.any fun allowed => attr ∉ allowed then [⟨path,"field '" ++ attr ++ "' not allowed"⟩]
      else []
    | _ => missing
  ⟨unknown ++ attrErrors,none⟩

/-- The walk of `_collect_errors`, at most `depth` calls deep. -/
def collectErrors (runtime : Runtime Object) (allowedFields : Option (List String)) :
    Nat → Value Object → String → Collected
  | 0,_,_ => ⟨[],some .recursionError⟩
  | depth + 1,.dict data,path =>
    match data.lookup "op" with
    | some (.text op) =>
      if op = "" then noted path "missing or empty 'op' key"
      else if runtime.lower op ∈ logicalOperators then
        collectLogicalErrors runtime (collectErrors runtime allowedFields depth) data op path
      else collectLeafErrors allowedFields data (runtime.lower op) path
    | _ => noted path "missing or empty 'op' key"
  | _ + 1,data,path => noted path ("expected dict, got " ++ data.typeName runtime)

def validate (runtime : Runtime Object) (allowedFields : Option (List String)) (depth : Nat) (data : Value Object) :
    Except Failure (List String) :=
  let collected := collectErrors runtime allowedFields depth data "<root>"
  collected.raised.elim (.ok (collected.errors.map CollectedError.text)) .error

/-- What the collecting walk has when the other one returns or raises; an unknown operator is raised
without a path. -/
def Reports (collected : Collected) : Except Failure Unit → Prop
  | .ok () => collected = ⟨[],none⟩
  | .error (.validation _ path) => ∃ first rest, collected.errors = first::rest ∧ first.path = path
  | .error (.operatorNotFound _) => collected.errors ≠ []
  | .error failure => collected = ⟨[],some failure⟩

theorem noted_reports (path message text : String) : Reports (noted path message) (.error (.validation text path)) :=
  ⟨⟨path,message⟩,[],rfl,rfl⟩

theorem Reports.append {collected : Collected} {failure : Failure} (reports : Reports collected (.error failure))
    (returned : collected.raised = none) (others : Collected) :
    Reports ⟨collected.errors ++ others.errors,others.raised⟩ (.error failure) := by
  cases failure with
  | validation message path =>
    obtain ⟨first,rest,same,own⟩ := reports
    exact ⟨first,rest ++ others.errors,by rw [same,List.cons_append],own⟩
  | operatorNotFound op => exact List.append_ne_nil_of_left_ne_nil reports _
  | _ =>
    obtain rfl : collected = _ := reports
    cases returned

theorem collectEach_reports {Child : Type} {collect : Child → Collected} {validateOne : Child → Except Failure Unit}
    (each : ∀ child, Reports (collect child) (validateOne child)) (children : List Child) :
    Reports (collectEach collect children) (children.forM validateOne) := by
  induction children with
  | nil => exact rfl
  | cons child rest ih =>
    have first := each child
    change Reports (collectEach collect (child::rest)) (validateOne child >>= fun _ => rest.forM validateOne)
    rw [collectEach]
    cases validated : validateOne child with
    | ok passed =>
      rw [validated] at first
      have silent : collect child = ⟨[],none⟩ := first
      rw [silent]
      exact ih
    | error failure =>
      rw [validated] at first
      cases raised : (collect child).raised with
      | some exception => exact first
      | none => exact first.append raised _

theorem collectLogicalErrors_reports (runtime : Runtime Object) {collect : Value Object → String → Collected}
    {validateOne : Value Object → String → Except Failure Unit}
    (each : ∀ value path, Reports (collect value path) (validateOne value path)) (data : Fields Object)
    (op path : String) : Reports (collectLogicalErrors runtime collect data op path)
      (validateLogicalNode runtime validateOne data op path) := by
  unfold collectLogicalErrors validateLogicalNode
  dsimp only
  generalize (data.lookup "conditions").getD .null = conditions
  generalize data.lookup "condition" = condition
  by_cases absent : (!conditions.isTruthy runtime && condition.isNone) = true
  · rw [if_pos absent,if_pos absent]
    exact noted_reports _ _ _
  · rw [if_neg absent,if_neg absent]
    cases conditions with
    | list children => exact collectEach_reports (fun _ => each _ _) _
    | null =>
      cases condition with
      | some child => exact each child _
      | none => exact rfl
    | bool _ | number _ | text _ | tuple _ | dict _ | object _ => exact noted_reports _ _ _

theorem collectLeafErrors_reports (runtime : Runtime Object) (allowedFields : Option (List String))
    (data : Fields Object) (op path : String) : Reports (collectLeafErrors allowedFields data op path)
      (validateLeafNode runtime allowedFields data op path) := by
  unfold collectLeafErrors validateLeafNode
  dsimp only
  by_cases known : op ∈ validOperators
  · rw [if_pos known,if_neg (not_not.mpr known)]
    cases data.lookup "attr" with
    | none => exact noted_reports _ _ _
    | some value =>
      cases value with
      | text attr =>
        by_cases empty : attr = ""
        · simp only [if_pos empty]
          exact noted_reports _ _ _
        · simp only [if_neg empty]
          by_cases refused : (allowedFields.any fun allowed => decide (attr ∉ allowed)) = true
          · rw [if_pos refused,if_pos refused]
            exact noted_reports _ _ _
          · rw [if_neg refused,if_neg refused]
            exact rfl
      | null | bool _ | number _ | list _ | tuple _ | dict _ | object _ => exact noted_reports _ _ _
  · rw [if_neg known,if_pos known]
    exact List.cons_ne_nil _ _

theorem collectErrors_reports (runtime : Runtime Object) (allowedFields : Option (List String)) (depth : Nat)
    (data : Value Object) (path : String) : Reports (collectErrors runtime allowedFields depth data path)
      (validateNode runtime allowedFields depth data path) := by
  induction depth generalizing data path with
  | zero => exact rfl
  | succ depth ih =>
    cases data with
    | dict data =>
      unfold collectErrors validateNode
      cases data.lookup "op" with
      | none => exact noted_reports _ _ _
      | some value =>
        cases value with
        | text op =>
          by_cases empty : op = ""
          · simp only [if_pos empty]
            exact noted_reports _ _ _
          · simp only [if_neg empty]
            by_cases logical : runtime.lower op ∈ logicalOperators
            · rw [if_pos logical,if_pos logical]
              exact collectLogicalErrors_reports runtime ih data op path
            · rw [if_neg logical,if_neg logical]
              exact collectLeafErrors_reports runtime allowedFields data _ path
        | null | bool _ | number _ | list _ | tuple _ | dict _ | object _ => exact noted_reports _ _ _
    | null | bool _ | number _ | text _ | list _ | tuple _ | object _ => exact noted_reports _ _ _

theorem Reports.clear_iff {collected : Collected} {outcome : Except Failure Unit}
    (reports : Reports collected outcome) : collected = ⟨[],none⟩ ↔ outcome = .ok () := by
  cases outcome with
  | ok passed => exact ⟨fun _ => rfl,fun _ => reports⟩
  | error failure =>
    refine ⟨fun clear => ?_,fun raised => by cases raised⟩
    subst clear
    cases failure with
    | validation message path =>
      obtain ⟨first,rest,same,_⟩ := reports
      cases same
    | operatorNotFound op => exact absurd rfl reports
    | _ => cases reports

theorem validators_agree (runtime : Runtime Object) (allowedFields : Option (List String)) (depth : Nat)
    (data : Value Object) :
    (validate runtime allowedFields depth data = .ok [] ↔
      validateNode runtime allowedFields depth data "<root>" = .ok ()) ∧
    ∀ message path, validateNode runtime allowedFields depth data "<root>" = .error (.validation message path) →
      ∃ first rest, (collectErrors runtime allowedFields depth data "<root>").errors = first::rest ∧
        first.path = path := by
  have reports := collectErrors_reports runtime allowedFields depth data "<root>"
  refine ⟨?_,fun message path raised => ?_⟩
  · rw [← reports.clear_iff,validate]
    generalize collectErrors runtime allowedFields depth data "<root>" = collected
    obtain ⟨errors,_ | failure⟩ := collected
    · simp
    · simp
  · rw [raised] at reports
    exact reports

end SpecificationFactory

end CqrsDdd.Specifications
