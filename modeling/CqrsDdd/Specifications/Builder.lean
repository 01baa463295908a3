import CqrsDdd.Specifications.Evaluation
import CqrsDdd.Transition

/-! The fluent builder of specification trees: a list of conditions and a stack of open
groups, changed in place by every call. A group that does not close is taken off
the stack before it is refused, and its conditions are lost with it. -/
namespace CqrsDdd.Specifications

variable {Object : Type}

/-- A leaf asks the registry that it was made with; `custom` is any other class, as its `is_satisfied_by`. -/
inductive ISpecification (Object : Type)
  | attribute (registry : Registry Object) (leaf : AttributeSpecification Object)
  | custom (isSatisfiedBy : Fields Object → Except Failure Bool)
  | and (specifications : List (ISpecification Object))
  | or (specifications : List (ISpecification Object))
  | not (specification : ISpecification Object)

namespace ISpecification

mutual
def isSatisfiedBy (candidate : Fields Object) : ISpecification Object → Except Failure Bool
  | .attribute registry leaf => leaf.isSatisfiedBy registry candidate
  | .custom asked => asked candidate
  | .and specifications => allSatisfied candidate specifications
  | .or specifications => anySatisfied candidate specifications
  | .not specification => do return !(← specification.isSatisfiedBy candidate)
def allSatisfied (candidate : Fields Object) : List (ISpecification Object) → Except Failure Bool
  | [] => .ok true
  | specification::rest => do
    if ← specification.isSatisfiedBy candidate then allSatisfied candidate rest else return false
def anySatisfied (candidate : Fields Object) : List (ISpecification Object) → Except Failure Bool
  | [] => .ok false
  | specification::rest => do
    if ← specification.isSatisfiedBy candidate then return true else anySatisfied candidate rest
end

theorem allSatisfied_single (candidate : Fields Object) (specification : ISpecification Object) :
    allSatisfied candidate [specification] = specification.isSatisfiedBy candidate := by
  unfold allSatisfied
  rcases specification.isSatisfiedBy candidate with failure | _ | _
  · exact rfl
  · exact rfl
  · exact rfl

theorem anySatisfied_single (candidate : Fields Object) (specification : ISpecification Object) :
    anySatisfied candidate [specification] = specification.isSatisfiedBy candidate := by
  unfold anySatisfied
  rcases specification.isSatisfiedBy candidate with failure | _ | _
  · exact rfl
  · exact rfl
  · exact rfl

end ISpecification

inductive GroupOperator
  | and | or | not
  deriving DecidableEq, Repr

/-- `message` is the text of a `ValueError` of the builder; the enumeration refuses a text with one of its own. -/
inductive BuilderError
  | message (text : String)
  | notAnOperator (text : String)
  deriving DecidableEq, Repr

def combine (op : GroupOperator) (specs : List (ISpecification Object)) :
    Except BuilderError (ISpecification Object) :=
  match op,specs with
  | _,[] => .error (.message "Cannot create an empty group")
  | .and,[spec] => .ok spec
  | .and,specs => .ok (.and specs)
  | .or,[spec] => .ok spec
  | .or,specs => .ok (.or specs)
  | .not,[spec] => .ok (.not spec)
  | .not,_ => .error (.message "NOT group must contain exactly one condition")

/-- `SpecificationOperator | str`. -/
inductive OperatorArgument
  | member (op : SpecificationOperator)
  | text (content : String)

def OperatorArgument.resolve : OperatorArgument → Except BuilderError SpecificationOperator
  | .member op => .ok op
  | .text content => (SpecificationOperator.ofValue content).mapError fun _ => .notAnOperator content

/-- The stack has the innermost open group first. -/
structure SpecificationBuilder (Object : Type) where
  registry : Registry Object
  specs : List (ISpecification Object)
  stack : List (GroupOperator × List (ISpecification Object))

namespace SpecificationBuilder

def new (registry : Registry Object) : SpecificationBuilder Object := ⟨registry,[],[]⟩

/-- `_current_list().extend`. -/
def extend (builder : SpecificationBuilder Object) (added : List (ISpecification Object)) :
    SpecificationBuilder Object :=
  match builder.stack with
  | (op,specs)::rest => {builder with stack := (op,specs ++ added)::rest}
  | [] => {builder with specs := builder.specs ++ added}

inductive Call (Object : Type)
  | condition (attr : String) (op : OperatorArgument) (val : Value Object)
  | add (spec : ISpecification Object)
  | group (op : GroupOperator)
  | endGroup

/-- `where`. -/
def condition (builder : SpecificationBuilder Object) (attr : String) (op : OperatorArgument) (val : Value Object) :
    SpecificationBuilder Object × Except BuilderError Unit :=
  match op.resolve with
  | .error error => (builder,.error error)
  | .ok op => (builder.extend [.attribute builder.registry ⟨.text attr,op,val⟩],.ok ())

def add (builder : SpecificationBuilder Object) (spec : ISpecification Object) :
    SpecificationBuilder Object × Except BuilderError Unit :=
  (builder.extend [spec],.ok ())

/-- `and_group`, `or_group` and `not_group`. -/
def openGroup (builder : SpecificationBuilder Object) (op : GroupOperator) :
    SpecificationBuilder Object × Except BuilderError Unit :=
  ({builder with stack := (op,[])::builder.stack},.ok ())

def endGroup (builder : SpecificationBuilder Object) : SpecificationBuilder Object × Except BuilderError Unit :=
  match builder.stack with
  | [] => (builder,.error (.message "No open group to close"))
  | (groupOp,specs)::rest =>
    let popped := {builder with stack := rest}
    match combine groupOp specs with
    | .error error => (popped,.error error)
    | .ok composite => (popped.extend [composite],.ok ())

def build (builder : SpecificationBuilder Object) : Except BuilderError (ISpecification Object) :=
  if !builder.stack.isEmpty then
    .error (.message (toString builder.stack.length ++ " group(s) still open — call end_group() before build()"))
  else if builder.specs.isEmpty then .error (.message "No conditions added to builder")
  else combine .and builder.specs

def perform (builder : SpecificationBuilder Object) : Call Object → SpecificationBuilder Object × Except BuilderError Unit
  | .condition attr op val => builder.condition attr op val
  | .add spec => builder.add spec
  | .group op => builder.openGroup op
  | .endGroup => builder.endGroup

/-- The builder after a call, raised or not. -/
def step (builder : SpecificationBuilder Object) (call : Call Object) : SpecificationBuilder Object :=
  (builder.perform call).1

/-- A call that raises leaves the builder as it was. -/
def Atomic (builder : SpecificationBuilder Object) (call : Call Object) : Prop :=
  ∀ error, (builder.perform call).2 = .error error → builder.step call = builder

/-- An open group that is closed has a condition, and only one if it is a negation. -/
def Closable (builder : SpecificationBuilder Object) (call : Call Object) : Prop :=
  call matches .endGroup → ∀ op specs rest, builder.stack = (op,specs)::rest →
    specs ≠ [] ∧ (op = .not → specs.length = 1)

theorem combine_ok_iff (op : GroupOperator) (specs : List (ISpecification Object)) :
    (∃ composite, combine op specs = .ok composite) ↔ specs ≠ [] ∧ (op = .not → specs.length = 1) := by
  rcases specs with _ | ⟨first,_ | ⟨second,rest⟩⟩
  · cases op <;> simp [combine]
  · cases op <;> simp [combine]
  · cases op <;> simp [combine]

theorem atomic_iff_closable (builder : SpecificationBuilder Object) (call : Call Object) :
    Atomic builder call ↔ Closable builder call := by
  cases call with
  | condition attr op val =>
    refine ⟨fun _ ended => Bool.noConfusion ended,fun _ error raised => ?_⟩
    unfold step
    simp only [perform,condition] at raised ⊢
    cases resolved : op.resolve with
    | error _ => exact rfl
    | ok member =>
      rw [resolved] at raised
      cases raised
  | add spec => exact ⟨fun _ ended => Bool.noConfusion ended,fun _ _ raised => by cases raised⟩
  | group op => exact ⟨fun _ ended => Bool.noConfusion ended,fun _ _ raised => by cases raised⟩
  | endGroup =>
    obtain ⟨registry,specs,stack⟩ := builder
    cases stack with
    | nil => exact ⟨fun _ _ _ _ _ met => absurd met (List.cons_ne_nil _ _).symm,fun _ _ _ => rfl⟩
    | cons top rest =>
      obtain ⟨op,inner⟩ := top
      have closes := combine_ok_iff op inner
      have performed : (perform ⟨registry,specs,(op,inner)::rest⟩ (.endGroup : Call Object)) =
          match combine op inner with
          | .error error => (⟨registry,specs,rest⟩,.error error)
          | .ok composite => ((⟨registry,specs,rest⟩ : SpecificationBuilder Object).extend [composite],.ok ()) := rfl
      unfold Atomic step
      rw [performed]
      cases combined : combine op inner with
      | error failure =>
        refine ⟨fun atomic => ?_,fun closable => ?_⟩
        · -- the group that was taken off is missed
          have lost := congrArg (fun builder => builder.stack.length) (atomic failure rfl)
          exact absurd lost (Nat.ne_of_lt (Nat.lt_succ_self _))
        · obtain ⟨composite,made⟩ := closes.mpr (closable rfl op inner rest rfl)
          cases combined.symm.trans made
      | ok composite =>
        refine ⟨fun _ _ _ _ _ met => ?_,fun _ _ raised => by cases raised⟩
        cases met
        exact closes.mp ⟨composite,combined⟩

section Meaning

/-- The condition that a bracketed sequence of calls spells out. -/
inductive Formula (Object : Type)
  | condition (spec : ISpecification Object)
  | group (op : GroupOperator) (parts : List (Formula Object))

mutual
/-- The answer of a formula, its conditions asked from left to right until one decides. -/
def Formula.answer (candidate : Fields Object) : Formula Object → Except Failure Bool
  | .condition spec => spec.isSatisfiedBy candidate
  | .group .and parts => answerAll candidate parts
  | .group .or parts => answerAny candidate parts
  | .group .not parts => do return !(← answerAll candidate parts)
def answerAll (candidate : Fields Object) : List (Formula Object) → Except Failure Bool
  | [] => .ok true
  | part::rest => do if ← part.answer candidate then answerAll candidate rest else return false
def answerAny (candidate : Fields Object) : List (Formula Object) → Except Failure Bool
  | [] => .ok false
  | part::rest => do if ← part.answer candidate then return true else answerAny candidate rest
end

mutual
def Formula.Holds (candidate : Fields Object) : Formula Object → Prop
  | .condition spec => spec.isSatisfiedBy candidate = .ok true
  | .group .and parts => HoldAll candidate parts
  | .group .or parts => HoldAny candidate parts
  | .group .not parts => ¬HoldAll candidate parts
def HoldAll (candidate : Fields Object) : List (Formula Object) → Prop
  | [] => True
  | part::rest => part.Holds candidate ∧ HoldAll candidate rest
def HoldAny (candidate : Fields Object) : List (Formula Object) → Prop
  | [] => False
  | part::rest => part.Holds candidate ∨ HoldAny candidate rest
end

mutual
def Formula.conditions : Formula Object → List (ISpecification Object)
  | .condition spec => [spec]
  | .group _ parts => conditionsOf parts
def conditionsOf : List (Formula Object) → List (ISpecification Object)
  | [] => []
  | part::rest => part.conditions ++ conditionsOf rest
end

/-- A well-bracketed sequence of calls and what it spells out; a condition with an operator that does
not exist is refused and says nothing. -/
inductive Bracketed (registry : Registry Object) : List (Call Object) → List (Formula Object) → Prop
  | nil : Bracketed registry [] []
  | condition {attr : String} {op : OperatorArgument} {val : Value Object} {member : SpecificationOperator}
      {calls : List (Call Object)} {formulas : List (Formula Object)} (resolved : op.resolve = .ok member)
      (rest : Bracketed registry calls formulas) :
      Bracketed registry (.condition attr op val::calls)
        (.condition (.attribute registry ⟨.text attr,member,val⟩)::formulas)
  | refused {attr : String} {op : OperatorArgument} {val : Value Object} {error : BuilderError}
      {calls : List (Call Object)} {formulas : List (Formula Object)} (refused : op.resolve = .error error)
      (rest : Bracketed registry calls formulas) : Bracketed registry (.condition attr op val::calls) formulas
  | add {spec : ISpecification Object} {calls : List (Call Object)} {formulas : List (Formula Object)}
      (rest : Bracketed registry calls formulas) :
      Bracketed registry (.add spec::calls) (.condition spec::formulas)
  | group {op : GroupOperator} {inner calls : List (Call Object)} {parts formulas : List (Formula Object)}
      (filled : parts ≠ []) (single : op = .not → parts.length = 1) (inside : Bracketed registry inner parts)
      (rest : Bracketed registry calls formulas) :
      Bracketed registry (.group op::(inner ++ .endGroup::calls)) (.group op parts::formulas)

def Means (spec : ISpecification Object) (formula : Formula Object) : Prop :=
  ∀ candidate, spec.isSatisfiedBy candidate = formula.answer candidate

variable {specs : List (ISpecification Object)} {parts : List (Formula Object)}

theorem answerAll_of_means (means : List.Forall₂ Means specs parts) (candidate : Fields Object) :
    ISpecification.allSatisfied candidate specs = answerAll candidate parts := by
  induction means with
  | nil => exact rfl
  | cons first _ ih => rw [ISpecification.allSatisfied,answerAll,first candidate,ih]

theorem answerAny_of_means (means : List.Forall₂ Means specs parts) (candidate : Fields Object) :
    ISpecification.anySatisfied candidate specs = answerAny candidate parts := by
  induction means with
  | nil => exact rfl
  | cons first _ ih => rw [ISpecification.anySatisfied,answerAny,first candidate,ih]

theorem combine_means {op : GroupOperator} {composite : ISpecification Object}
    (means : List.Forall₂ Means specs parts) (combined : combine op specs = .ok composite) :
    Means composite (.group op parts) := by
  intro candidate
  have all := answerAll_of_means means candidate
  have any := answerAny_of_means means candidate
  rcases specs with _ | ⟨first,_ | ⟨second,rest⟩⟩
  · cases op <;> cases combined
  · rw [ISpecification.allSatisfied_single] at all
    rw [ISpecification.anySatisfied_single] at any
    cases op <;> cases combined
    · exact all
    · exact any
    · rw [ISpecification.isSatisfiedBy,Formula.answer,all]
  · cases op <;> cases combined
    · exact all
    · exact any

theorem extend_nil (builder : SpecificationBuilder Object) : builder.extend [] = builder := by
  obtain ⟨registry,specs,_ | ⟨⟨op,inner⟩,rest⟩⟩ := builder
  · exact congrArg (fun specs => (⟨registry,specs,[]⟩ : SpecificationBuilder Object)) (List.append_nil specs)
  · exact congrArg (fun inner => (⟨registry,specs,(op,inner)::rest⟩ : SpecificationBuilder Object))
      (List.append_nil inner)

theorem extend_extend (builder : SpecificationBuilder Object) (first second : List (ISpecification Object)) :
    (builder.extend first).extend second = builder.extend (first ++ second) := by
  obtain ⟨registry,specs,_ | ⟨⟨op,inner⟩,rest⟩⟩ := builder
  · exact congrArg (fun specs => (⟨registry,specs,[]⟩ : SpecificationBuilder Object))
      (List.append_assoc specs first second)
  · exact congrArg (fun inner => (⟨registry,specs,(op,inner)::rest⟩ : SpecificationBuilder Object))
      (List.append_assoc inner first second)

theorem extend_registry (builder : SpecificationBuilder Object) (added : List (ISpecification Object)) :
    (builder.extend added).registry = builder.registry := by
  obtain ⟨registry,specs,_ | ⟨top,rest⟩⟩ := builder
  · exact rfl
  · exact rfl

theorem step_endGroup {builder : SpecificationBuilder Object} {op : GroupOperator}
    {composite : ISpecification Object} (combined : combine op specs = .ok composite) :
    ({builder with stack := (op,specs)::builder.stack} : SpecificationBuilder Object).step .endGroup =
      builder.extend [composite] := by
  unfold step perform endGroup
  simp only [combined]

/-- A well-bracketed sequence adds, to whatever group is open, one condition for each formula. -/
theorem run_bracketed {registry : Registry Object} {calls : List (Call Object)} {formulas : List (Formula Object)}
    (bracketed : Bracketed registry calls formulas) (builder : SpecificationBuilder Object)
    (own : builder.registry = registry) :
    ∃ specs, List.Forall₂ Means specs formulas ∧ Transition.run step builder calls = builder.extend specs := by
  induction bracketed generalizing builder with
  | nil => exact ⟨[],.nil,builder.extend_nil.symm⟩
  | @condition attr op val member calls formulas resolved _ ih =>
    have stepped : builder.step (.condition attr op val) =
        builder.extend [.attribute registry ⟨.text attr,member,val⟩] := by
      unfold step perform SpecificationBuilder.condition
      simp only [resolved,own]
    obtain ⟨specs,means,ran⟩ := ih (builder.extend [_]) ((builder.extend_registry _).trans own)
    refine ⟨_::specs,.cons (fun _ => rfl) means,?_⟩
    rw [Transition.run_cons,stepped,ran,extend_extend]
    exact rfl
  | @refused attr op val error calls formulas refused _ ih =>
    have stepped : builder.step (.condition attr op val) = builder := by
      unfold step perform SpecificationBuilder.condition
      simp only [refused]
    rw [Transition.run_cons,stepped]
    exact ih builder own
  | @add spec calls formulas _ ih =>
    obtain ⟨specs,means,ran⟩ := ih (builder.extend [spec]) ((builder.extend_registry _).trans own)
    refine ⟨spec::specs,.cons (fun _ => rfl) means,?_⟩
    rw [Transition.run_cons]
    exact ran.trans (extend_extend builder [spec] specs)
  | @group op inner calls parts formulas filled single _ _ inside rest =>
    obtain ⟨specs,means,ran⟩ := inside {builder with stack := (op,[])::builder.stack} own
    have length := means.length_eq
    obtain ⟨composite,combined⟩ := (combine_ok_iff op specs).mpr
      ⟨fun none => filled (List.length_eq_zero_iff.mp (by rw [← length,none]; rfl)),
        fun negation => length.trans (single negation)⟩
    obtain ⟨others,meanOthers,ranOthers⟩ := rest (builder.extend [composite]) ((builder.extend_registry _).trans own)
    refine ⟨composite::others,.cons (combine_means means combined) meanOthers,?_⟩
    rw [Transition.run_cons,Transition.run_append,Transition.run_cons]
    have opened : builder.step (.group op) = {builder with stack := (op,[])::builder.stack} := rfl
    have closed : Transition.run step ({builder with stack := (op,[])::builder.stack}) inner =
        {builder with stack := (op,specs)::builder.stack} := ran
    rw [opened,closed,step_endGroup combined,ranOthers]
    exact extend_extend builder [composite] others

mutual
theorem Formula.answer_of_answered (candidate : Fields Object) : ∀ formula : Formula Object,
    (∀ spec ∈ formula.conditions, ∃ satisfied, spec.isSatisfiedBy candidate = .ok satisfied) →
    ∃ satisfied, formula.answer candidate = .ok satisfied ∧ (satisfied = true ↔ formula.Holds candidate)
  | .condition spec, answered => by
    obtain ⟨satisfied,asked⟩ := answered spec List.mem_cons_self
    refine ⟨satisfied,asked,?_⟩
    rw [Formula.Holds,asked]
    exact ⟨fun yes => congrArg _ yes,fun same => Except.ok.inj same⟩
  | .group .and parts, answered => answerAll_of_answered candidate parts answered
  | .group .or parts, answered => answerAny_of_answered candidate parts answered
  | .group .not parts, answered => by
    obtain ⟨satisfied,asked,holds⟩ := answerAll_of_answered candidate parts answered
    refine ⟨!satisfied,?_,?_⟩
    · rw [Formula.answer,asked]
      exact rfl
    · rw [Formula.Holds,← holds]
      simp
theorem answerAll_of_answered (candidate : Fields Object) : ∀ parts : List (Formula Object),
    (∀ spec ∈ conditionsOf parts, ∃ satisfied, spec.isSatisfiedBy candidate = .ok satisfied) →
    ∃ satisfied, answerAll candidate parts = .ok satisfied ∧ (satisfied = true ↔ HoldAll candidate parts)
  | [], _ => ⟨true,rfl,by simp [HoldAll]⟩
  | part::rest, answered => by
    obtain ⟨first,asked,holds⟩ := part.answer_of_answered candidate fun spec member =>
      answered spec (List.mem_append_left _ member)
    obtain ⟨others,askedRest,holdsRest⟩ := answerAll_of_answered candidate rest fun spec member =>
      answered spec (List.mem_append_right _ member)
    rw [answerAll,asked,HoldAll,← holds,← holdsRest]
    cases first with
    | false => exact ⟨false,rfl,by simp⟩
    | true => exact ⟨others,askedRest,by simp⟩
theorem answerAny_of_answered (candidate : Fields Object) : ∀ parts : List (Formula Object),
    (∀ spec ∈ conditionsOf parts, ∃ satisfied, spec.isSatisfiedBy candidate = .ok satisfied) →
    ∃ satisfied, answerAny candidate parts = .ok satisfied ∧ (satisfied = true ↔ HoldAny candidate parts)
  | [], _ => ⟨false,rfl,by simp [HoldAny]⟩
  | part::rest, answered => by
    obtain ⟨first,asked,holds⟩ := part.answer_of_answered candidate fun spec member =>
      answered spec (List.mem_append_left _ member)
    obtain ⟨others,askedRest,holdsRest⟩ := answerAny_of_answered candidate rest fun spec member =>
      answered spec (List.mem_append_right _ member)
    rw [answerAny,asked,HoldAny,← holds,← holdsRest]
    cases first with
    | false => exact ⟨others,askedRest,by simp⟩
    | true => exact ⟨true,rfl,by simp⟩
end

/-- What `build` gives after the calls is satisfied by the candidates that satisfy all of the formulas. -/
def BuildsWhatIsBracketed (registry : Registry Object) (calls : List (Call Object)) : Prop :=
  ∀ formulas, Bracketed registry calls formulas → formulas ≠ [] →
    ∃ spec, (Transition.run step (new registry) calls).build = .ok spec ∧ ∀ candidate,
      spec.isSatisfiedBy candidate = answerAll candidate formulas ∧
      ((∀ condition ∈ conditionsOf formulas, ∃ satisfied, condition.isSatisfiedBy candidate = .ok satisfied) →
        (spec.isSatisfiedBy candidate = .ok true ↔ HoldAll candidate formulas))

theorem builds_what_is_bracketed (registry : Registry Object) (calls : List (Call Object)) :
    BuildsWhatIsBracketed registry calls := by
  intro formulas bracketed filled
  obtain ⟨specs,means,ran⟩ := run_bracketed bracketed (new registry) rfl
  have some : specs ≠ [] := fun none =>
    filled (List.length_eq_zero_iff.mp (by rw [← means.length_eq,none]; rfl))
  obtain ⟨spec,combined⟩ := (combine_ok_iff .and specs).mpr ⟨some,fun negation => by cases negation⟩
  have meaning := combine_means means combined
  refine ⟨spec,?_,fun candidate => ⟨meaning candidate,fun answered => ?_⟩⟩
  · have collected : Transition.run step (new registry) calls = ⟨registry,specs,[]⟩ := ran
    unfold build
    simp [collected,some,combined]
  · obtain ⟨satisfied,asked,holds⟩ := answerAll_of_answered candidate formulas answered
    have same : spec.isSatisfiedBy candidate = .ok satisfied := (meaning candidate).trans asked
    rw [same,← holds]
    exact ⟨fun equal => Except.ok.inj equal,fun yes => congrArg _ yes⟩

end Meaning

/-- Only a group that does not close makes a call lose what was collected. -/
theorem atomic_iff_groups_close (registry : Registry Object) (calls : List (Call Object)) :
    Transition.Meets step Atomic (new registry) calls ∧ BuildsWhatIsBracketed registry calls ↔
      Transition.Meets step Closable (new registry) calls := by
  have same : Transition.Meets step Atomic (new registry) calls ↔ Transition.Meets step Closable (new registry) calls :=
    Transition.meets_congr (fun _ => True) (fun _ _ _ => trivial)
      (fun builder call _ => atomic_iff_closable builder call) trivial calls
  exact ⟨fun both => same.mp both.1,fun closable => ⟨same.mpr closable,builds_what_is_bracketed registry calls⟩⟩

def nothing : Registry Empty := ⟨fun _ _ => .null,fun _ _ _ => .ok false⟩

/-- A negation of two conditions is refused, and both are gone. -/
theorem refused_negation_is_lost : ¬ Transition.Meets step Atomic (new nothing)
    [.group .not,.condition "a" (.text "=") (.number 1),.condition "b" (.text "=") (.number 2),.endGroup] := by
  intro atomic
  have lost := atomic.2.2.2.1 (.message "NOT group must contain exactly one condition") rfl
  exact absurd (congrArg (fun builder => builder.stack.length) lost) (by decide)

end SpecificationBuilder
end CqrsDdd.Specifications
