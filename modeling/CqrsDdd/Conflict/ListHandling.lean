import CqrsDdd.Conflict.Blending

/-! Lists under a deep merge. The documentation of the strategy knows two ways, to replace
the existing list and to append to it. A list identity key, `"id"` by default, diverts both
to a third one. -/
namespace CqrsDdd.Conflict

open OrderedMerge

namespace DeepMergeStrategy

variable {attributes : Attributes} {strategy : DeepMergeStrategy}

/-- What lists are merged like by the documentation. -/
def documented (strategy : DeepMergeStrategy) : ListHandling := if strategy.appendLists then .append else .replace

def value (program : Alloc (Node Nat)) (counter : Nat) : Except MergeError Json :=
  (program counter).map fun answer => answer.1.content

theorem value_of_yields {program : Alloc (Node Nat)} {json : Json} (yields : Yields program fun node => node.content = json)
    (counter : Nat) : value program counter = .ok json := by
  obtain ⟨node,next,ran,same⟩ := yields counter
  rw [value,ran]
  exact congrArg Except.ok same

/-- Whether an item has something under the list identity key; a callable gives an identity to each item. -/
def Carries (attributes : Attributes) (strategy : DeepMergeStrategy) (item : Node Nat) : Prop :=
  match strategy.listIdentityKey with
  | .absent => False
  | .callable _ => True
  | .field key =>
    match item with
    | .dict _ entries => key ∈ entries.map Prod.fst
    | item => (attributes item key).isSome = true

inductive Keyless (attributes : Attributes) (strategy : DeepMergeStrategy) : Node Nat → Prop
  | scalar (address : Nat) (value : Scalar) : Keyless attributes strategy (.scalar address value)
  | list {address : Nat} {items : List (Node Nat)} (bare : ∀ item ∈ items, ¬Carries attributes strategy item)
      (inner : ∀ item ∈ items, Keyless attributes strategy item) : Keyless attributes strategy (.list address items)
  | dict {address : Nat} {entries : List (String × Node Nat)}
      (inner : ∀ entry ∈ entries, Keyless attributes strategy entry.2) : Keyless attributes strategy (.dict address entries)

/-- Lists at every depth are appended or replaced as documented; replacing is promised of items
that carry no identity key. -/
def ListsAsDocumented (attributes : Attributes) (strategy : DeepMergeStrategy) : Prop :=
  ∀ existing incoming counter,
    (strategy.appendLists = false → Keyless attributes strategy existing ∧ Keyless attributes strategy incoming) →
    value (merge attributes strategy existing incoming) counter =
      .ok (blend strategy.documented existing.content incoming.content)

theorem handles_falsy (falsy : strategy.listIdentityKey.isFalsy = true) :
    Handles attributes strategy strategy.documented fun _ => True where
  entry _ _ _ _ := trivial
  blended _ _ _ _ := trivial
  lists l1 address l2 _ _ _ := by
    rw [mergeLists,if_pos falsy,documented]
    cases strategy.appendLists with
    | false =>
      refine .of_pure ?_
      rw [Node.content,Node.contentItems_eq]
      exact rfl
    | true =>
      refine yields_newObject.bind fun created _ => .of_pure ?_
      rw [Node.content,Node.contentItems_eq,List.map_append]
      exact rfl

inductive Hollow : Json → Prop
  | scalar (value : Scalar) : Hollow (.scalar () value)
  | list : Hollow (.list () [])
  | dict {entries : List (String × Json)} (inner : ∀ entry ∈ entries, Hollow entry.2) : Hollow (.dict () entries)

theorem hollow_blend {handling : ListHandling} {existing incoming : Json} (hollow : Hollow existing) (comes : Hollow incoming)
    (replaces : handling = .replace) : Hollow (blend handling existing incoming) := by
  subst replaces
  induction comes generalizing existing with
  | scalar value => exact .scalar value
  | list =>
    cases hollow with
    | scalar | list | dict => exact .list
  | @dict entries inner ih =>
    cases hollow with
    | scalar | list => exact .dict inner
    | dict held =>
      rw [blend,blendEntries_eq]
      exact .dict (merged_values held inner fun old hollow entry member => ih entry member hollow)

theorem hollow_of_keyless {identity : Node Nat → Except MergeError Identity} (called : strategy.listIdentityKey = .callable identity)
    {node : Node Nat} (keyless : Keyless attributes strategy node) : Hollow node.content := by
  induction keyless with
  | scalar address value => exact .scalar value
  | @list address items bare =>
    cases items with
    | nil => exact .list
    | cons item rest =>
      have carries : Carries attributes strategy item := by
        rw [Carries,called]
        trivial
      exact absurd carries (bare item List.mem_cons_self)
  | @dict address entries inner ih =>
    rw [Node.content,Node.contentEntries_eq]
    refine .dict fun entry member => ?_
    obtain ⟨source,inside,rfl⟩ := List.mem_map.mp member
    exact ih source inside

theorem handles_hollow (truthy : strategy.listIdentityKey.isFalsy = false) : Handles attributes strategy .replace Hollow where
  entry entries hollow := by
    cases hollow with
    | dict inner => exact inner
  blended existing incoming hollow comes := hollow_blend hollow comes rfl
  lists l1 address l2 hollow comes _ := by
    have first : l1 = [] := by
      cases l1 with
      | nil => exact rfl
      | cons => cases hollow
    have second : l2 = [] := by
      cases l2 with
      | nil => exact rfl
      | cons => cases comes
    subst first second
    rw [mergeLists,if_neg (by rw [truthy]; exact Bool.false_ne_true)]
    exact fun counter => ⟨_,_,rfl,rfl⟩

def emptyDict (address : Nat) : Node Nat := .dict address []

theorem merge_same (truthy : strategy.listIdentityKey.isFalsy = false) (first second counter : Nat) {identity : Identity}
    (identified : getIdentity attributes strategy (emptyDict first) = .ok identity)
    (same : getIdentity attributes strategy (emptyDict second) = .ok identity) (address other : Nat) :
    value (merge attributes strategy (.list address [emptyDict first]) (.list other [emptyDict second])) counter =
      .ok (.list () [.dict () []]) := by
  have ran : resultMap attributes strategy [] [emptyDict first] = .ok [(identity,emptyDict first)] := by
    rw [resultMap,identified]
    exact rfl
  have merged : mergeItems attributes strategy [(identity,emptyDict first)] [emptyDict second] counter =
      .ok ([(identity,.dict (counter + first) [])],counter + counter) := by
    have found : [(identity,emptyDict first)].lookup identity = some (emptyDict first) := List.lookup_cons_self
    have lifted : (liftM (Except.ok identity : Except MergeError Identity) : Alloc Identity) = pure identity := rfl
    rw [mergeItems,same,lifted,pure_bind,found]
    change Except.ok (Dict.put identity (.dict (counter + first) []) [(identity,emptyDict first)],counter + counter) = _
    rw [Dict.put,if_pos rfl]
  rw [value,merge,mergeLists,if_neg (by rw [truthy]; exact Bool.false_ne_true),ran]
  change Except.map _ (mergeItems attributes strategy [(identity,emptyDict first)] [emptyDict second] counter >>= fun answer =>
    Except.ok (Node.list answer.2 (answer.1.map Prod.snd),answer.2 + 1)) = _
  rw [merged]
  exact rfl

theorem appended_once (truthy : strategy.listIdentityKey.isFalsy = false) (appends : strategy.appendLists = true) :
    ¬ListsAsDocumented attributes strategy := by
  intro documents
  have promised := documents (.list 0 [emptyDict 1]) (.list 0 [emptyDict 1]) 2 fun replaces => by
    rw [appends] at replaces
    cases replaces
  have two : blend strategy.documented (Node.list 0 [emptyDict 1]).content (Node.list 0 [emptyDict 1]).content =
      .list () [.dict () [],.dict () []] := by
    rw [DeepMergeStrategy.documented,if_pos appends]
    exact rfl
  rw [two] at promised
  cases identified : getIdentity attributes strategy (emptyDict 1) with
  | error raised =>
    have ran : value (merge attributes strategy (.list 0 [emptyDict 1]) (.list 0 [emptyDict 1])) 2 = .error raised := by
      rw [value,merge,mergeLists,if_neg (by rw [truthy]; exact Bool.false_ne_true),resultMap,identified]
      exact rfl
    rw [ran] at promised
    cases promised
  | ok identity =>
    rw [merge_same truthy 1 1 2 identified identified 0 0] at promised
    cases promised

theorem replaced_kept {name : String} (named : strategy.listIdentityKey = .field name) (given : name ≠ "")
    (replaces : strategy.appendLists = false) : ¬ListsAsDocumented attributes strategy := by
  intro documents
  have keyless (address other : Nat) : Keyless attributes strategy (.list address [emptyDict other]) := by
    refine .list (List.forall_mem_singleton.mpr ?_) (List.forall_mem_singleton.mpr (.dict fun _ member => ?_))
    · rw [Carries,named]
      exact List.not_mem_nil
    · exact absurd member List.not_mem_nil
  have promised := documents (.list 0 [emptyDict 1]) (.list 2 [emptyDict 3]) 4 fun _ => ⟨keyless 0 1,keyless 2 3⟩
  have one : blend strategy.documented (Node.list 0 [emptyDict 1]).content (Node.list 2 [emptyDict 3]).content =
      .list () [.dict () []] := by
    rw [DeepMergeStrategy.documented,replaces]
    exact rfl
  have truthy : ¬strategy.listIdentityKey.isFalsy = true := by
    rw [named,IdentityKey.isFalsy,decide_eq_true_iff]
    exact given
  have identified (address : Nat) : getIdentity attributes strategy (emptyDict address) = .ok (.number address) := by
    rw [getIdentity,named]
    exact if_neg given
  have ran : resultMap attributes strategy [] [emptyDict 1] = .ok [(.number 1,emptyDict 1)] := by
    rw [resultMap,identified]
    exact rfl
  have merged : mergeItems attributes strategy [(.number 1,emptyDict 1)] [emptyDict 3] 4 =
      .ok ([(.number 1,emptyDict 1),(.number 3,emptyDict 3)],4) := by
    rw [mergeItems,identified]
    exact rfl
  rw [one,value,merge,mergeLists,if_neg truthy,ran] at promised
  change Except.map _ (mergeItems attributes strategy [(.number 1,emptyDict 1)] [emptyDict 3] 4 >>= fun answer =>
    Except.ok (Node.list answer.2 (answer.1.map Prod.snd),answer.2 + 1)) = _ at promised
  rw [merged] at promised
  cases promised

/-- Lists are merged as documented where no list identity key is set. A callable leaves replacing
without promises, since each item has an identity then. -/
theorem lists_as_documented_iff : ListsAsDocumented attributes strategy ↔
    strategy.listIdentityKey.isFalsy = true ∨
      strategy.appendLists = false ∧ ∃ identity, strategy.listIdentityKey = .callable identity := by
  constructor
  · intro documents
    cases truthy : strategy.listIdentityKey.isFalsy with
    | true => exact .inl rfl
    | false =>
      cases appends : strategy.appendLists with
      | true => exact absurd documents (appended_once truthy appends)
      | false =>
        refine .inr ⟨rfl,?_⟩
        cases key : strategy.listIdentityKey with
        | absent =>
          rw [key] at truthy
          cases truthy
        | field name =>
          rw [key] at truthy
          exact absurd documents (replaced_kept key (of_decide_eq_false truthy) appends)
        | callable identity => exact ⟨identity,rfl⟩
  · rintro (falsy | ⟨replaces,identity,called⟩) existing incoming counter keyless
    · exact value_of_yields (merge_yields (handles_falsy falsy) incoming existing trivial trivial) counter
    · obtain ⟨held,comes⟩ := keyless replaces
      have truthy : strategy.listIdentityKey.isFalsy = false := by
        rw [called]
        exact rfl
      rw [DeepMergeStrategy.documented,replaces]
      exact value_of_yields (merge_yields (handles_hollow truthy) incoming existing (hollow_of_keyless called held)
        (hollow_of_keyless called comes)) counter

/-- By default two items with one identity are not appended, but merged. -/
theorem default_key_diverts_append : ¬ListsAsDocumented (fun _ _ => none) ⟨true,.field "id"⟩ := by
  intro documents
  have promised := documents (.list 0 [.dict 1 [("id",.scalar 2 (.number 1))]])
    (.list 3 [.dict 4 [("id",.scalar 2 (.number 1))]]) 5 fun replaces => by cases replaces
  have merged : value (merge (fun _ _ => none) ⟨true,.field "id"⟩ (.list 0 [.dict 1 [("id",.scalar 2 (.number 1))]])
      (.list 3 [.dict 4 [("id",.scalar 2 (.number 1))]])) 5 = .ok (.list () [.dict () [("id",.scalar () (.number 1))]]) := rfl
  rw [merged] at promised
  cases promised

end DeepMergeStrategy

end CqrsDdd.Conflict
