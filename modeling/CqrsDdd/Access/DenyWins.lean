import CqrsDdd.Access.Pep

/-! Composition of evaluators where deny wins. The loop ends at the first deny and keeps
the first allow; what it allows depends on neither place. -/
namespace CqrsDdd.Access

open Identity

variable {Object : Type}

def AuthorizationDecision.Denies (decision : AuthorizationDecision) : Prop :=
  decision.reason ≠ "abstain" ∧ decision.allowed = false

def AuthorizationDecision.Abstains (decision : AuthorizationDecision) : Prop :=
  decision.reason = "abstain" ∧ decision.allowed = false

namespace PolicyEnforcementPoint

variable (request : Request Object)

theorem stops_iff (decision : AuthorizationDecision) :
    (decision.reason ≠ "abstain" && !decision.allowed) = true ↔ decision.Denies := by
  rw [Bool.and_eq_true,decide_eq_true_iff,Bool.not_eq_true',AuthorizationDecision.Denies]

variable {request}

theorem compose_deny {evaluator : Evaluator Object} (denies : (evaluator request).Denies)
    (candidate : Option AuthorizationDecision) (rest : List (Evaluator Object)) :
    compose request candidate (evaluator::rest) = evaluator request :=
  if_pos ((stops_iff _).mpr denies)

theorem compose_next {evaluator : Evaluator Object} (passes : ¬(evaluator request).Denies)
    (candidate : Option AuthorizationDecision) (rest : List (Evaluator Object)) :
    compose request candidate (evaluator::rest) =
      compose request (if (evaluator request).allowed && candidate.isNone then some (evaluator request) else candidate) rest :=
  if_neg fun stops => passes ((stops_iff _).mp stops)

def Allowing (candidate : Option AuthorizationDecision) : Prop := ∀ decision, candidate = some decision → decision.allowed = true

theorem compose_allowed {candidate : Option AuthorizationDecision} (allowing : Allowing candidate)
    (evaluators : List (Evaluator Object)) :
    (compose request candidate evaluators).allowed = true ↔
      (candidate.isSome = true ∨ ∃ evaluator ∈ evaluators, (evaluator request).allowed = true) ∧
        ∀ evaluator ∈ evaluators, ¬(evaluator request).Denies := by
  induction evaluators generalizing candidate with
  | nil =>
    cases candidate with
    | none => simp [compose]
    | some decision => simpa [compose] using allowing decision rfl
  | cons evaluator rest ih =>
    by_cases denies : (evaluator request).Denies
    · rw [compose_deny denies,denies.2]
      refine iff_of_false Bool.false_ne_true fun allowed => ?_
      exact allowed.2 evaluator List.mem_cons_self denies
    · rw [compose_next denies,List.forall_mem_cons,and_iff_right denies]
      cases allows : (evaluator request).allowed with
      | false =>
        rw [Bool.false_and,if_neg Bool.false_ne_true,ih allowing]
        simp [allows]
      | true =>
        cases candidate with
        | some decision =>
          rw [Option.isNone_some,Bool.and_false,if_neg Bool.false_ne_true,ih allowing]
          simp
        | none =>
          have found : Allowing (some (evaluator request)) := by
            rintro decision ⟨⟩
            exact allows
          rw [Option.isNone_none,Bool.and_true,if_pos rfl,ih found]
          simp [allows]

theorem compose_abstain {evaluator : Evaluator Object} (abstains : (evaluator request).Abstains)
    (before after : List (Evaluator Object)) (candidate : Option AuthorizationDecision) :
    compose request candidate (before ++ evaluator::after) = compose request candidate (before ++ after) := by
  induction before generalizing candidate with
  | nil =>
    have passes : ¬(evaluator request).Denies := fun denies => denies.1 abstains.1
    rw [List.nil_append,compose_next passes,abstains.2]
    exact rfl
  | cons first rest ih =>
    by_cases denies : (first request).Denies
    · rw [List.cons_append,List.cons_append,compose_deny denies,compose_deny denies]
    · rw [List.cons_append,List.cons_append,compose_next denies,compose_next denies,ih]

variable (pep : PolicyEnforcementPoint Object) (request)

def allows (evaluators : List (Evaluator Object)) : Bool :=
  (evaluate { pep with evaluators := evaluators } none request).1.allowed

def Granted (evaluators : List (Evaluator Object)) : Prop :=
  (∃ evaluator ∈ evaluators, (evaluator request).allowed = true) ∧ ∀ evaluator ∈ evaluators, ¬(evaluator request).Denies

theorem allows_iff (evaluators : List (Evaluator Object)) :
    allows request pep evaluators = true ↔ bypasses pep.bypassRoles request.principal = true ∨ Granted request evaluators := by
  unfold allows evaluate
  dsimp only
  by_cases bypass : bypasses pep.bypassRoles request.principal = true
  · rw [if_pos bypass]
    exact iff_of_true rfl (.inl bypass)
  · rw [if_neg bypass,compose_allowed fun decision none => by cases none]
    simp [bypass,Granted]

theorem granted_perm {evaluators others : List (Evaluator Object)} (permuted : evaluators.Perm others) :
    Granted request evaluators ↔ Granted request others := by
  have same (evaluator : Evaluator Object) : evaluator ∈ evaluators ↔ evaluator ∈ others := permuted.mem_iff
  simp only [Granted,same]

structure DenyWins : Prop where
  allowed : ∀ evaluators, allows request pep evaluators = true ↔
    bypasses pep.bypassRoles request.principal = true ∨ Granted request evaluators
  permuted : ∀ evaluators others : List (Evaluator Object), evaluators.Perm others →
    allows request pep evaluators = allows request pep others
  abstaining : ∀ before after : List (Evaluator Object), ∀ evaluator : Evaluator Object, (evaluator request).Abstains →
    evaluate { pep with evaluators := before ++ evaluator::after } none request =
      evaluate { pep with evaluators := before ++ after } none request
  denying : ∀ before after : List (Evaluator Object), ∀ evaluator : Evaluator Object, (evaluator request).Denies →
    allows request pep (before ++ after) = false → allows request pep (before ++ evaluator::after) = false

theorem deny_wins : DenyWins request pep where
  allowed := allows_iff request pep
  permuted evaluators others permuted := by
    rw [Bool.eq_iff_iff,allows_iff,allows_iff,granted_perm request permuted]
  abstaining before after evaluator abstains := by
    unfold evaluate
    dsimp only
    rw [compose_abstain abstains]
  denying before after evaluator denies refused := by
    have stays : ¬allows request pep (before ++ evaluator::after) = true := by
      rw [allows_iff]
      rintro (bypass | granted)
      · have allowed := (allows_iff request pep (before ++ after)).mpr (.inl bypass)
        exact Bool.false_ne_true (refused.symm.trans allowed)
      · exact granted.2 evaluator (List.mem_append_right _ List.mem_cons_self) denies
    exact Bool.eq_false_iff.mpr stays

end PolicyEnforcementPoint

end CqrsDdd.Access
