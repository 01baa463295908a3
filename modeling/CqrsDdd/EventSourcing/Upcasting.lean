import CqrsDdd.Attempts
import CqrsDdd.EventSourcing.Loader
import CqrsDdd.Links

/-! Registration of upcasters, and what a registry does with a stored event. A chain is
one walk over the upcasters of the event type in the order of their source versions;
it follows the links from the stored version until none starts. -/
namespace CqrsDdd.EventSourcing

open Attempts Links Messaging

variable {Object Failure : Type}

namespace EventUpcaster

abbrev ChainOf (upcasters : List (EventUpcaster Object Failure)) :=
  Path (EventUpcaster.sourceVersion : EventUpcaster Object Failure → Int) EventUpcaster.targetVersion upcasters

def applyAll (links : List (EventUpcaster Object Failure)) (data : Payload Object) : Except Failure (Payload Object) :=
  links.foldlM (fun data upcaster => upcaster.upcast data) data

end EventUpcaster

namespace UpcasterRegistry

def registered (registry : UpcasterRegistry Object Failure) (eventType : String) : List (EventUpcaster Object Failure) :=
  (registry.get eventType).getD []

def duplicate (upcaster : EventUpcaster Object Failure) : String :=
  "Duplicate upcaster for " ++ upcaster.eventType ++ " v" ++ toString upcaster.sourceVersion ++ " → v" ++
    toString upcaster.targetVersion ++ "; already registered."

def register (registry : UpcasterRegistry Object Failure) (upcaster : EventUpcaster Object Failure) :
    Except String (UpcasterRegistry Object Failure) :=
  if (registry.registered upcaster.eventType).any (·.sourceVersion = upcaster.sourceVersion) then
    .error (duplicate upcaster)
  else .ok (registry.set upcaster.eventType (registry.registered upcaster.eventType ++ [upcaster]))

def registerAll (registry : UpcasterRegistry Object Failure) :
    List (EventUpcaster Object Failure) → Except String (UpcasterRegistry Object Failure)
  | [] => .ok registry
  | upcaster::rest => do registerAll (← registry.register upcaster) rest

def Distinct (upcasters : List (EventUpcaster Object Failure)) : Prop :=
  upcasters.Pairwise fun first second => first.sourceVersion ≠ second.sourceVersion

def ofType (eventType : String) (upcasters : List (EventUpcaster Object Failure)) : List (EventUpcaster Object Failure) :=
  upcasters.filter (·.eventType = eventType)

variable {registry after : UpcasterRegistry Object Failure} {upcaster : EventUpcaster Object Failure}
  {upcasters : List (EventUpcaster Object Failure)}

theorem ofType_own {eventType : String} (own : upcaster.eventType = eventType) : ofType eventType [upcaster] = [upcaster] :=
  List.filter_cons_of_pos (decide_eq_true own)

theorem ofType_other {eventType : String} (differs : upcaster.eventType ≠ eventType) : ofType eventType [upcaster] = [] :=
  List.filter_cons_of_neg fun equal => differs (of_decide_eq_true equal)

theorem ofType_cons (eventType : String) (upcaster : EventUpcaster Object Failure)
    (rest : List (EventUpcaster Object Failure)) :
    ofType eventType (upcaster::rest) = ofType eventType [upcaster] ++ ofType eventType rest :=
  List.filter_append [upcaster] rest

theorem mem_ofType {eventType : String} : upcaster ∈ ofType eventType upcasters ↔
    upcaster ∈ upcasters ∧ upcaster.eventType = eventType := by
  rw [ofType,List.mem_filter,decide_eq_true_iff]

theorem register_ok (accepted : registry.register upcaster = .ok after) (eventType : String) :
    after.registered eventType = registry.registered eventType ++ ofType eventType [upcaster] := by
  unfold register at accepted
  split at accepted
  next => cases accepted
  next =>
    cases accepted
    unfold registered
    rw [Dict.get_set]
    split
    next same =>
      subst same
      rw [ofType_own rfl]
      exact rfl
    next differs =>
      rw [ofType_other (Ne.symm differs),List.append_nil]

theorem registerAll_ok (accepted : registry.registerAll upcasters = .ok after) (eventType : String) :
    after.registered eventType = registry.registered eventType ++ ofType eventType upcasters := by
  induction upcasters generalizing registry with
  | nil =>
    cases accepted
    exact (List.append_nil _).symm
  | cons upcaster rest ih =>
    obtain ⟨between,first,accepted⟩ := bind_ok.mp accepted
    rw [ih accepted,register_ok first,List.append_assoc]
    exact congrArg _ (ofType_cons eventType upcaster rest).symm

theorem distinct_append {others : List (EventUpcaster Object Failure)} :
    Distinct (upcasters ++ others) ↔ Distinct upcasters ∧ Distinct others ∧
      ∀ first ∈ upcasters, ∀ second ∈ others, first.sourceVersion ≠ second.sourceVersion := List.pairwise_append

theorem register_accepts : (∃ after, registry.register upcaster = .ok after) ↔
    ∀ first ∈ registry.registered upcaster.eventType, first.sourceVersion ≠ upcaster.sourceVersion := by
  unfold register
  split
  next taken =>
    obtain ⟨first,member,same⟩ := List.any_eq_true.mp taken
    exact iff_of_false (fun ⟨_,accepted⟩ => by cases accepted) fun each => each first member (of_decide_eq_true same)
  next free =>
    refine iff_of_true ⟨_,rfl⟩ fun first member same => free (List.any_eq_true.mpr ⟨first,member,decide_eq_true same⟩)

theorem register_distinct (distinct : ∀ eventType, Distinct (registry.registered eventType))
    (accepted : registry.register upcaster = .ok after) (eventType : String) : Distinct (after.registered eventType) := by
  rw [register_ok accepted]
  refine distinct_append.mpr ⟨distinct eventType,(List.pairwise_singleton _ _).filter _,fun first member second inside => ?_⟩
  obtain ⟨alone,same⟩ := mem_ofType.mp inside
  obtain rfl := List.mem_singleton.mp alone
  rw [← same] at member
  exact register_accepts.mp ⟨after,accepted⟩ first member

theorem registerAll_distinct (distinct : ∀ eventType, Distinct (registry.registered eventType))
    (accepted : registry.registerAll upcasters = .ok after) (eventType : String) : Distinct (after.registered eventType) := by
  induction upcasters generalizing registry with
  | nil =>
    cases accepted
    exact distinct eventType
  | cons upcaster rest ih =>
    obtain ⟨between,first,accepted⟩ := bind_ok.mp accepted
    exact ih (register_distinct distinct first) accepted

theorem registerAll_accepts
    (distinct : ∀ eventType, Distinct (registry.registered eventType ++ ofType eventType upcasters)) :
    ∃ after, registry.registerAll upcasters = .ok after := by
  induction upcasters generalizing registry with
  | nil => exact ⟨registry,rfl⟩
  | cons upcaster rest ih =>
    have apart := (distinct_append.mp (distinct upcaster.eventType)).2.2
    obtain ⟨between,first⟩ := register_accepts.mpr fun other member => apart other member upcaster
      (mem_ofType.mpr ⟨List.mem_cons_self,rfl⟩)
    have onward : ∀ eventType, Distinct (between.registered eventType ++ ofType eventType rest) := by
      intro eventType
      rw [register_ok first,List.append_assoc,← ofType_cons]
      exact distinct eventType
    obtain ⟨after,accepted⟩ := ih onward
    exact ⟨after,bind_ok.mpr ⟨between,first,accepted⟩⟩

theorem chainFor_perm (registry : UpcasterRegistry Object Failure) (eventType : String) :
    (registry.chainFor eventType).Perm (registry.registered eventType) :=
  List.perm_insertionSort _ _

theorem chainFor_sorted (distinct : ∀ eventType, Distinct (registry.registered eventType)) (eventType : String) :
    (registry.chainFor eventType).Pairwise fun first second => first.sourceVersion < second.sourceVersion := by
  have apart : Distinct (registry.chainFor eventType) :=
    ((registry.chainFor_perm eventType).pairwise_iff fun differs => Ne.symm differs).mpr (distinct eventType)
  have ordered : (registry.chainFor eventType).Pairwise fun first second => first.sourceVersion ≤ second.sourceVersion :=
    List.pairwise_insertionSort _ _
  exact (ordered.and apart).imp fun both => lt_of_le_of_ne both.1 both.2

theorem chain_walk {eventType : String} {chain : List (EventUpcaster Object Failure)}
    (own : ∀ upcaster ∈ chain, upcaster.eventType = eventType) (data : Payload Object) (version : Int) :
    UpcasterChain.upcast eventType chain data version =
      (EventUpcaster.applyAll (walk EventUpcaster.sourceVersion EventUpcaster.targetVersion chain version).1 data).map
        fun upcasted => (upcasted,(walk EventUpcaster.sourceVersion EventUpcaster.targetVersion chain version).2) := by
  induction chain generalizing data version with
  | nil => exact rfl
  | cons upcaster rest ih =>
    obtain ⟨here,own⟩ := List.forall_mem_cons.mp own
    rw [UpcasterChain.upcast,walk]
    by_cases starts : upcaster.sourceVersion = version
    · rw [if_pos ⟨here,starts⟩,if_pos starts]
      unfold EventUpcaster.applyAll
      rw [List.foldlM_cons]
      cases upcaster.upcast data with
      | error failure => exact rfl
      | ok upcasted => exact ih own upcasted upcaster.targetVersion
    · rw [if_neg fun both => starts both.2,if_neg starts]
      exact ih own data version

/-- The upcasters that are followed lead from the stored version, each once and in increasing order, to a version that no
upcaster of the event type starts from. -/
structure Follows (upcasters : List (EventUpcaster Object Failure)) (eventType : String) (version : Int)
    (links : List (EventUpcaster Object Failure)) (final : Int) : Prop where
  chain : EventUpcaster.ChainOf (ofType eventType upcasters) version links final
  ascending : links.Pairwise fun first second => first.sourceVersion < second.sourceVersion
  newest : ∀ upcaster ∈ upcasters, upcaster.eventType = eventType → upcaster.sourceVersion ≠ final

/-- What a registry has of the upcasters that it accepted. -/
structure Accepted (registry : UpcasterRegistry Object Failure) (upcasters : List (EventUpcaster Object Failure)) : Prop where
  registered : ∀ eventType, registry.registered eventType = ofType eventType upcasters
  distinct : ∀ eventType, Distinct (registry.registered eventType)

theorem accepted_of_registerAll (accepted : registerAll Dict.empty upcasters = .ok registry) :
    Accepted registry upcasters := by
  have none : ∀ eventType, Distinct (registered (Dict.empty : UpcasterRegistry Object Failure) eventType) := fun _ => .nil
  exact ⟨registerAll_ok accepted,registerAll_distinct none accepted⟩

namespace Accepted

variable {eventType : String}

theorem mem_chain (accepted : Accepted registry upcasters) :
    upcaster ∈ registry.chainFor eventType ↔ upcaster ∈ ofType eventType upcasters := by
  rw [(registry.chainFor_perm eventType).mem_iff,accepted.registered]

theorem upcast_walk (accepted : Accepted registry upcasters) (data : Payload Object) (version : Int) :
    registry.upcast eventType data version =
      (EventUpcaster.applyAll
        (walk EventUpcaster.sourceVersion EventUpcaster.targetVersion (registry.chainFor eventType) version).1 data).map
        fun upcasted => (upcasted,
          (walk EventUpcaster.sourceVersion EventUpcaster.targetVersion (registry.chainFor eventType) version).2) :=
  chain_walk (fun _ member => (mem_ofType.mp (accepted.mem_chain.mp member)).2) data version

variable (forward : ∀ upcaster ∈ upcasters, upcaster.sourceVersion < upcaster.targetVersion)

include forward

theorem walk_chain (accepted : Accepted registry upcasters) (eventType : String) (version : Int) :
    EventUpcaster.ChainOf (registry.chainFor eventType) version
      (walk EventUpcaster.sourceVersion EventUpcaster.targetVersion (registry.chainFor eventType) version).1
      (walk EventUpcaster.sourceVersion EventUpcaster.targetVersion (registry.chainFor eventType) version).2 :=
  walk_path (chainFor_sorted accepted.distinct eventType)
    (fun upcaster member => forward upcaster (mem_ofType.mp (accepted.mem_chain.mp member)).1) version

theorem follows (accepted : Accepted registry upcasters) (version : Int) :
    Follows upcasters eventType version
      (walk EventUpcaster.sourceVersion EventUpcaster.targetVersion (registry.chainFor eventType) version).1
      (walk EventUpcaster.sourceVersion EventUpcaster.targetVersion (registry.chainFor eventType) version).2 := by
  have path := (accepted.walk_chain forward eventType version).of_mem_iff fun _ => accepted.mem_chain
  refine ⟨path,(path.increasing fun upcaster member => forward upcaster (mem_ofType.mp member).1).2,?_⟩
  exact fun upcaster member own => path.stuck upcaster (mem_ofType.mpr ⟨member,own⟩)

theorem upcast_link (accepted : Accepted registry upcasters) (member : upcaster ∈ upcasters)
    (data : Payload Object) : registry.upcast upcaster.eventType data upcaster.sourceVersion =
      upcaster.upcast data >>= fun upcasted => registry.upcast upcaster.eventType upcasted upcaster.targetVersion := by
  have inside := accepted.mem_chain.mpr (mem_ofType.mpr ⟨member,rfl⟩)
  have onward := accepted.walk_chain forward upcaster.eventType upcaster.targetVersion
  obtain ⟨links,ends⟩ := Path.unique (distinct_of_sorted (chainFor_sorted accepted.distinct upcaster.eventType))
    (accepted.walk_chain forward _ upcaster.sourceVersion) (.follow inside onward)
  rw [accepted.upcast_walk,links,ends]
  unfold EventUpcaster.applyAll
  rw [List.foldlM_cons]
  cases upcaster.upcast data with
  | error failure => exact rfl
  | ok upcasted => exact (accepted.upcast_walk upcasted upcaster.targetVersion).symm

end Accepted

theorem registerAll_perm {order : List (EventUpcaster Object Failure)} (perm : order.Perm upcasters)
    (accepted : registerAll Dict.empty upcasters = .ok registry) :
    ∃ other, registerAll Dict.empty order = .ok other ∧ ∀ eventType, other.chainFor eventType = registry.chainFor eventType := by
  have known := accepted_of_registerAll accepted
  have typed : ∀ eventType, (ofType eventType order).Perm (registry.registered eventType) := by
    intro eventType
    rw [known.registered]
    exact perm.filter _
  have accepts : ∃ other, registerAll Dict.empty order = .ok other := registerAll_accepts fun eventType =>
    ((typed eventType).pairwise_iff fun differs => Ne.symm differs).mpr (known.distinct eventType)
  obtain ⟨other,again⟩ := accepts
  have same := accepted_of_registerAll again
  refine ⟨other,again,fun eventType => ?_⟩
  apply List.Perm.eq_of_pairwise (fun first second _ _ before after => absurd before after.asymm)
    (chainFor_sorted same.distinct eventType) (chainFor_sorted known.distinct eventType)
  refine (other.chainFor_perm eventType).trans (.trans ?_ (registry.chainFor_perm eventType).symm)
  rw [same.registered]
  exact typed eventType

theorem upcast_newest (upcasters : List (EventUpcaster Object Failure)) {registry : UpcasterRegistry Object Failure}
    (accepted : registerAll Dict.empty upcasters = .ok registry)
    (forward : ∀ upcaster ∈ upcasters, upcaster.sourceVersion < upcaster.targetVersion)
    (eventType : String) (data : Payload Object) (version : Int) :
    (∃ links final, Follows upcasters eventType version links final ∧
      registry.upcast eventType data version =
        (EventUpcaster.applyAll links data).map fun upcasted => (upcasted,final)) ∧
    (∀ order : List (EventUpcaster Object Failure), order.Perm upcasters → ∃ other,
      registerAll Dict.empty order = .ok other ∧
        other.upcast eventType data version = registry.upcast eventType data version) ∧
    ∀ upcaster ∈ upcasters, upcaster.eventType = eventType → upcaster.sourceVersion = version →
      registry.upcast eventType data version =
        upcaster.upcast data >>= fun upcasted => registry.upcast eventType upcasted upcaster.targetVersion := by
  have known := accepted_of_registerAll accepted
  refine ⟨⟨_,_,known.follows forward version,known.upcast_walk data version⟩,fun order perm => ?_,?_⟩
  · obtain ⟨other,again,same⟩ := registerAll_perm perm accepted
    refine ⟨other,again,?_⟩
    unfold UpcasterRegistry.upcast
    rw [same]
  · intro upcaster member own starts
    subst own starts
    exact known.upcast_link forward member data

def adding (field : String) (sourceVersion targetVersion : Int) : EventUpcaster Empty Empty where
  eventType := "OrderCreated"
  sourceVersion := sourceVersion
  targetVersion := targetVersion
  upcast data := .ok (data ++ [(field,.null)])

/-- From the third version on to the fourth, and from the first to the third, in this order. -/
def orders : List (EventUpcaster Empty Empty) := [adding "currency" 3 4,adding "channel" 1 3]

theorem upcast_newest_orders : ∃ registry, registerAll Dict.empty orders = .ok registry ∧
    ((∃ links final, Follows orders "OrderCreated" 1 links final ∧ registry.upcast "OrderCreated" [] 1 =
        (EventUpcaster.applyAll links []).map fun upcasted => (upcasted,final)) ∧
      (∀ order : List (EventUpcaster Empty Empty), order.Perm orders → ∃ other,
        registerAll Dict.empty order = .ok other ∧
          other.upcast "OrderCreated" [] 1 = registry.upcast "OrderCreated" [] 1) ∧
      ∀ upcaster ∈ orders, upcaster.eventType = "OrderCreated" → upcaster.sourceVersion = 1 →
        registry.upcast "OrderCreated" [] 1 =
          upcaster.upcast [] >>= fun upcasted => registry.upcast "OrderCreated" upcasted upcaster.targetVersion) := by
  have accepted : registerAll Dict.empty orders = .ok (Dict.empty.set "OrderCreated" orders) := by rfl
  refine ⟨_,accepted,upcast_newest orders accepted ?_ "OrderCreated" [] 1⟩
  exact List.forall_mem_cons.mpr ⟨by decide,List.forall_mem_cons.mpr ⟨by decide,fun _ member => absurd member List.not_mem_nil⟩⟩

end UpcasterRegistry

end CqrsDdd.EventSourcing
