import CqrsDdd.Conflict.ListHandling

/-! The laws of merging lists by identity. They hold of values in which each item of a list has
an identity of its own; `0`, `""` and the other falsy ones are none, since the address
of the item stands for them. -/
namespace CqrsDdd.Conflict

open OrderedMerge

/-- Each list consists of dicts with pairwise distinct identities. -/
inductive Identified (key : String) : Json → Prop
  | scalar (value : Scalar) : Identified key (.scalar () value)
  | list {items : List Json} (own : ∀ item ∈ items, (item.identity key).isSome = true)
      (apart : (items.map (Node.identity key)).Nodup) (inner : ∀ item ∈ items, Identified key item) :
      Identified key (.list () items)
  | dict {entries : List (String × Json)} (apart : Distinct entries) (inner : ∀ entry ∈ entries, Identified key entry.2) :
      Identified key (.dict () entries)

section Values

variable {key : String} {first second third : Json}

theorem identified_entries {entries : List (String × Json)} (identified : Identified key (.dict () entries)) :
    Distinct entries ∧ ∀ entry ∈ entries, Identified key entry.2 := by
  cases identified with
  | dict apart inner => exact ⟨apart,inner⟩

theorem identified_items {items : List Json} (identified : Identified key (.list () items)) :
    (∀ item ∈ items, (item.identity key).isSome = true) ∧ (items.map (Node.identity key)).Nodup ∧
      ∀ item ∈ items, Identified key item := by
  cases identified with
  | list own apart inner => exact ⟨own,apart,inner⟩

theorem keyed_distinct {items : List Json} (apart : (items.map (Node.identity key)).Nodup) :
    Distinct (keyed (Node.identity key) items) := by
  unfold Distinct
  rwa [keyed_keys]

theorem blend_dicts (entries others : List (String × Json)) : blend (.byIdentity key) (.dict () entries) (.dict () others) =
    .dict () (merged (blend (.byIdentity key)) entries others) := by
  rw [blend,blendEntries_eq]

theorem blend_lists (items others : List Json) : blend (.byIdentity key) (.list () items) (.list () others) =
    .list () ((merged (blend (.byIdentity key)) (keyed (Node.identity key) items)
      (keyed (Node.identity key) others)).map Prod.snd) := by
  rw [blend,blendItems_eq]

theorem identity_dict {item : Json} (own : (item.identity key).isSome = true) :
    ∃ entries value, item = .dict () entries ∧ entries.lookup key = some (.scalar () value) ∧
      item.identity key = some value.hashed ∧ value.truthy = true := by
  cases item with
  | scalar | list => cases own
  | dict address entries =>
    rw [Node.identity] at own ⊢
    cases found : entries.lookup key with
    | none =>
      rw [found] at own
      cases own
    | some stored =>
      rw [found] at own
      cases stored with
      | list | dict => cases own
      | scalar address value =>
        dsimp only at own ⊢
        cases truthy : value.truthy with
        | true => exact ⟨entries,value,rfl,found,rfl,truthy⟩
        | false =>
          rw [truthy] at own
          cases own

theorem identity_blend {old new : Json} (own : (new.identity key).isSome = true) (same : old.identity key = new.identity key)
    (identified : Identified key new) : (blend (.byIdentity key) old new).identity key = new.identity key := by
  obtain ⟨entries,value,rfl,found,hashed,truthy⟩ := identity_dict own
  obtain ⟨others,other,rfl,held,_,_⟩ := identity_dict (same ▸ own : (old.identity key).isSome = true)
  rw [blend_dicts,hashed,Node.identity,lookup_merged (identified_entries identified).1,found,held]
  exact if_pos truthy

theorem keyed_blend {items others : List Json} (identified : Identified key (.list () items))
    (comes : Identified key (.list () others)) :
    keyed (Node.identity key) ((merged (blend (.byIdentity key)) (keyed (Node.identity key) items)
        (keyed (Node.identity key) others)).map Prod.snd) =
      merged (blend (.byIdentity key)) (keyed (Node.identity key) items) (keyed (Node.identity key) others) := by
  obtain ⟨_,apart,_⟩ := identified_items identified
  obtain ⟨own,distinct,inner⟩ := identified_items comes
  exact keyed_merged apart distinct fun old _ new member same => identity_blend (own new member) same (inner new member)

theorem identified_blend (identified : Identified key first) (comes : Identified key second) :
    Identified key (blend (.byIdentity key) first second) := by
  induction comes generalizing first with
  | scalar value => exact .scalar value
  | @dict entries apart inner ih =>
    cases identified with
    | scalar | list => exact .dict apart inner
    | dict held others =>
      rw [blend_dicts]
      exact .dict (merged_distinct held apart)
        (merged_values others inner fun old identified entry member => ih entry member identified)
  | @list items own apart inner ih =>
    cases identified with
    | scalar | dict => exact .list own apart inner
    | @list others held distinct outer =>
      have kept := keyed_blend (.list held distinct outer) (.list own apart inner)
      have within {members : List Json} {entry : Option Identity × Json}
          (member : entry ∈ keyed (Node.identity key) members) : entry.2 ∈ members ∧ entry.2.identity key = entry.1 := by
        obtain ⟨item,inside,rfl⟩ := List.mem_map.mp member
        exact ⟨inside,rfl⟩
      have values : ∀ entry ∈ merged (blend (.byIdentity key)) (keyed (Node.identity key) others)
          (keyed (Node.identity key) items), Identified key entry.2 :=
        merged_values (fun entry member => outer _ (within member).1) (fun entry member => inner _ (within member).1)
          fun old identified entry member => ih _ (within member).1 identified
      rw [blend_lists]
      refine .list ?_ ?_ ?_
      · intro item member
        have listed := @List.mem_map_of_mem _ _ _ _ (Node.identity key) member
        rw [← keyed_keys,kept,mem_merged_keys (keyed_distinct apart),keyed_keys,keyed_keys] at listed
        rcases listed with before | after
        · obtain ⟨other,inside,same⟩ := List.mem_map.mp before
          exact same ▸ held other inside
        · obtain ⟨other,inside,same⟩ := List.mem_map.mp after
          exact same ▸ own other inside
      · rw [← keyed_keys,kept]
        exact merged_distinct (keyed_distinct distinct) (keyed_distinct apart)
      · intro item member
        obtain ⟨entry,inside,rfl⟩ := List.mem_map.mp member
        exact values entry inside

theorem blend_self (identified : Identified key first) : blend (.byIdentity key) first first = first := by
  induction identified with
  | scalar value => exact rfl
  | dict apart inner ih => rw [blend_dicts,merged_self apart ih]
  | @list items own apart inner ih =>
    have same : ∀ entry ∈ keyed (Node.identity key) items, blend (.byIdentity key) entry.2 entry.2 = entry.2 := by
      intro entry member
      obtain ⟨item,inside,rfl⟩ := List.mem_map.mp member
      exact ih item inside
    rw [blend_lists,merged_self (keyed_distinct apart) same,keyed_values]

theorem blend_again (identified : Identified key first) (comes : Identified key second) :
    blend (.byIdentity key) (blend (.byIdentity key) first second) second = blend (.byIdentity key) first second := by
  induction comes generalizing first with
  | scalar value => exact rfl
  | @dict entries apart inner ih =>
    cases identified with
    | scalar | list => exact blend_self (.dict apart inner)
    | @dict others held outer =>
      rw [blend_dicts,blend_dicts]
      refine congrArg _ (merged_again held apart (fun name old new earlier later => ?_) fun entry member =>
        blend_self (inner entry member))
      exact ih (name,new) (Dict.mem_of_lookup later) (outer (name,old) (Dict.mem_of_lookup earlier))
  | @list items own apart inner ih =>
    cases identified with
    | scalar | dict => exact blend_self (.list own apart inner)
    | @list others held distinct outer =>
      rw [blend_lists,blend_lists,keyed_blend (.list held distinct outer) (.list own apart inner)]
      refine congrArg (fun entries => Node.list () (entries.map Prod.snd))
        (merged_again (keyed_distinct distinct) (keyed_distinct apart) (fun name old new earlier later => ?_) fun entry member => ?_)
      · exact ih new (mem_keyed later).1 (outer old (mem_keyed earlier).1)
      · obtain ⟨item,inside,rfl⟩ := List.mem_map.mp member
        exact blend_self (inner item inside)

inductive Alike (key : String) : Json → Json → Prop
  | scalars (value other : Scalar) : Alike key (.scalar () value) (.scalar () other)
  | lists {items others : List Json} (inner : ∀ identity item other,
      stored (keyed (Node.identity key) items) identity = some item →
      stored (keyed (Node.identity key) others) identity = some other → Alike key item other) :
      Alike key (.list () items) (.list () others)
  | dicts {entries others : List (String × Json)} (inner : ∀ name value other, entries.lookup name = some value →
      others.lookup name = some other → Alike key value other) : Alike key (.dict () entries) (.dict () others)

theorem blend_assoc (identified : Identified key first) (between : Identified key second) (comes : Identified key third)
    (left : Alike key first second) (right : Alike key second third) :
    blend (.byIdentity key) (blend (.byIdentity key) first second) third =
      blend (.byIdentity key) first (blend (.byIdentity key) second third) := by
  induction comes generalizing first second with
  | scalar value => exact rfl
  | @dict entries apart inner ih =>
    cases right with
    | dicts following =>
      cases left with
      | dicts preceding =>
        obtain ⟨firsts,ones⟩ := identified_entries identified
        obtain ⟨seconds,twos⟩ := identified_entries between
        rw [blend_dicts,blend_dicts,blend_dicts,blend_dicts]
        refine congrArg _ (merged_assoc firsts seconds apart fun name one two three foundOne foundTwo foundThree => ?_)
        exact ih (name,three) (Dict.mem_of_lookup foundThree) (ones _ (Dict.mem_of_lookup foundOne))
          (twos _ (Dict.mem_of_lookup foundTwo)) (preceding name one two foundOne foundTwo)
          (following name two three foundTwo foundThree)
  | @list items own apart inner ih =>
    cases right with
    | lists following =>
      cases left with
      | lists preceding =>
        obtain ⟨_,firsts,ones⟩ := identified_items identified
        obtain ⟨_,seconds,twos⟩ := identified_items between
        rw [blend_lists,blend_lists,blend_lists,blend_lists,keyed_blend identified between,
          keyed_blend between (.list own apart inner)]
        refine congrArg (fun entries => Node.list () (entries.map Prod.snd)) (merged_assoc (keyed_distinct firsts)
          (keyed_distinct seconds) (keyed_distinct apart) fun name one two three foundOne foundTwo foundThree => ?_)
        exact ih three (mem_keyed foundThree).1 (ones one (mem_keyed foundOne).1) (twos two (mem_keyed foundTwo).1)
          (preceding name one two foundOne foundTwo) (following name two three foundTwo foundThree)

section Places

inductive Step
  | key (name : String)
  | item (identity : Identity)

/-- What a dict has under a key, or a list under an identity. -/
def child (key : String) : Json → Step → Option Json
  | .dict _ entries,.key name => entries.lookup name
  | .list _ items,.item identity => stored (keyed (Node.identity key) items) (some identity)
  | _,_ => none

def place (key : String) : List Step → Json → Option Json
  | [],json => some json
  | step::path,json => (child key json step).bind (place key path)

theorem identified_child {step : Step} {inner : Json} (identified : Identified key first)
    (found : child key first step = some inner) : Identified key inner := by
  cases identified with
  | scalar value => cases step <;> cases found
  | dict _ values =>
    cases step with
    | key name => exact values (name,inner) (Dict.mem_of_lookup found)
    | item identity => cases found
  | list _ _ values =>
    cases step with
    | key name => cases found
    | item identity => exact values inner (mem_keyed found).1

/-- Values that are merged part by part. -/
inductive Joined : Json → Json → Prop
  | lists (items others : List Json) : Joined (.list () items) (.list () others)
  | dicts (entries others : List (String × Json)) : Joined (.dict () entries) (.dict () others)

theorem child_joined (identified : Identified key first) (comes : Identified key second) (joined : Joined first second)
    (step : Step) : child key (blend (.byIdentity key) first second) step =
      match child key second step with
      | some new => some (combined (blend (.byIdentity key)) (child key first step) new)
      | none => child key first step := by
  cases joined with
  | dicts entries others =>
    rw [blend_dicts]
    cases step with
    | key name =>
      rw [child,lookup_merged (identified_entries comes).1 name,child]
      cases others.lookup name with
      | none => exact rfl
      | some new => exact rfl
    | item identity => exact rfl
  | lists items others =>
    rw [blend_lists]
    cases step with
    | key name => exact rfl
    | item identity =>
      rw [child,keyed_blend identified comes]
      refine (lookup_merged (keyed_distinct (identified_items comes).2.1) _).trans ?_
      have same : stored (keyed (Node.identity key) others) (some identity) =
          child key (.list () others) (.item identity) := rfl
      rw [stored] at same
      rw [same]
      cases child key (.list () others) (.item identity) with
      | none => exact rfl
      | some new => exact rfl

theorem joined_of_children {step : Step} {old new : Json} (earlier : child key first step = some old)
    (later : child key second step = some new) : Joined first second := by
  cases step with
  | key name =>
    cases first with
    | scalar | list => cases earlier
    | dict _ entries =>
      cases second with
      | scalar | list => cases later
      | dict _ others => exact .dicts entries others
  | item identity =>
    cases first with
    | scalar | dict => cases earlier
    | list _ items =>
      cases second with
      | scalar | dict => cases later
      | list _ others => exact .lists items others

theorem child_blend {step : Step} {old new : Json} (identified : Identified key first) (comes : Identified key second)
    (earlier : child key first step = some old) (later : child key second step = some new) :
    child key (blend (.byIdentity key) first second) step = some (blend (.byIdentity key) old new) := by
  rw [child_joined identified comes (joined_of_children earlier later),later,earlier]
  exact rfl

theorem place_blend {path : List Step} {old new : Json} (identified : Identified key first) (comes : Identified key second)
    (earlier : place key path first = some old) (later : place key path second = some new) :
    place key path (blend (.byIdentity key) first second) = some (blend (.byIdentity key) old new) ∧
      Identified key old ∧ Identified key new := by
  induction path generalizing first second with
  | nil =>
    cases earlier
    cases later
    exact ⟨rfl,identified,comes⟩
  | cons step path ih =>
    obtain ⟨inner,here,earlier⟩ := Option.bind_eq_some_iff.mp earlier
    obtain ⟨other,there,later⟩ := Option.bind_eq_some_iff.mp later
    rw [place,child_blend identified comes here there]
    exact ih (identified_child identified here) (identified_child comes there) earlier later

theorem place_concat (path : List Step) (step : Step) (json : Json) :
    place key (path ++ [step]) json = (place key path json).bind (child key · step) := by
  induction path generalizing json with
  | nil =>
    change (child key json step).bind (place key []) = child key json step
    exact Option.bind_fun_some _
  | cons first path ih =>
    rw [List.cons_append,place,place,Option.bind_assoc]
    exact congrArg (Option.bind _) (funext ih)

theorem place_alone {path : List Step} {old new inner : Json} {step : Step} (identified : Identified key first)
    (comes : Identified key second) (earlier : place key path first = some old) (later : place key path second = some new)
    (joined : Joined old new) (alone : child key old step = some inner ∧ child key new step = none ∨
      child key old step = none ∧ child key new step = some inner) :
    place key (path ++ [step]) (blend (.byIdentity key) first second) = some inner := by
  obtain ⟨there,held,comes⟩ := place_blend identified comes earlier later
  rw [place_concat,there,Option.bind_some,child_joined held comes joined]
  rcases alone with ⟨here,absent⟩ | ⟨absent,here⟩
  · rw [absent,here]
  · rw [here,absent]
    exact rfl

end Places

end Values

namespace DeepMergeStrategy

variable {attributes : Attributes} {appends : Bool} {name : String}

theorem getIdentity_own (given : name ≠ "") {item : Node Nat} {identity : Identity}
    (own : item.identity name = some identity) :
    getIdentity attributes ⟨appends,.field name⟩ item = .ok identity := by
  cases item with
  | scalar | list => cases own
  | dict address entries =>
    rw [Node.identity] at own
    cases found : entries.lookup name with
    | none =>
      rw [found] at own
      cases own
    | some stored =>
      rw [found] at own
      cases stored with
      | list | dict => cases own
      | scalar other value =>
        dsimp only at own
        split at own
        next truthy =>
          cases own
          change (if name = "" then _ else _) = _
          rw [if_neg given,found]
          exact if_pos truthy
        next => cases own

def contents (entries : List (Identity × Node Nat)) : List (Option Identity × Json) :=
  entries.map (Prod.map some Node.content)

theorem contents_put (identity : Identity) (item : Node Nat) (entries : List (Identity × Node Nat)) :
    contents (Dict.put identity item entries) = Dict.put (some identity) item.content (contents entries) :=
  put_mapped Node.content (fun _ _ => Option.some.inj) identity item entries

theorem resultMap_ok (given : name ≠ "") {items : List (Node Nat)} (own : ∀ item ∈ items, (item.identity name).isSome = true)
    (collected : List (Identity × Node Nat)) :
    ∃ entries, resultMap attributes ⟨appends,.field name⟩ collected items = .ok entries ∧
      contents entries = merged (fun _ new => new) (contents collected)
        (keyed (Node.identity name) (items.map Node.content)) := by
  induction items generalizing collected with
  | nil => exact ⟨collected,rfl,rfl⟩
  | cons item rest ih =>
    obtain ⟨identity,same⟩ := Option.isSome_iff_exists.mp (own item List.mem_cons_self)
    obtain ⟨entries,ran,holds⟩ := ih (fun other member => own other (List.mem_cons_of_mem _ member))
      (Dict.put identity item collected)
    refine ⟨entries,?_,?_⟩
    · rw [resultMap,getIdentity_own given same]
      exact ran
    · have latest : upsert (fun _ new => new) (contents collected) (item.content.identity name,item.content) =
          Dict.put (some identity) item.content (contents collected) := by
        rw [Node.identity_content,same,upsert]
        cases stored (contents collected) (some identity) with
        | none => exact rfl
        | some old => exact rfl
      rw [holds,contents_put,← latest]
      exact rfl

theorem mergeItems_yields (given : name ≠ "") {l2 : List (Node Nat)}
    (own : ∀ item ∈ l2, (item.identity name).isSome = true)
    (inner : ∀ item ∈ l2, Identified name item.content ∧ ∀ old : Node Nat, Identified name old.content →
      Yields (merge attributes ⟨appends,.field name⟩ old item) fun merged =>
        merged.content = blend (.byIdentity name) old.content item.content)
    {entries : List (Identity × Node Nat)} (held : ∀ entry ∈ entries, Identified name entry.2.content) :
    Yields (mergeItems attributes ⟨appends,.field name⟩ entries l2) fun result =>
      contents result = blendItems (.byIdentity name) name (contents entries) (l2.map Node.content) := by
  induction l2 generalizing entries with
  | nil => exact .of_pure rfl
  | cons item rest ih =>
    obtain ⟨identity,same⟩ := Option.isSome_iff_exists.mp (own item List.mem_cons_self)
    obtain ⟨identified,merges⟩ := inner item List.mem_cons_self
    have puts (other : Node Nat) (identified : Identified name other.content) :
        ∀ entry ∈ Dict.put identity other entries, Identified name entry.2.content := by
      intro entry member
      rcases mem_put member with rfl | before
      · exact identified
      · exact held entry before
    have later {result : List (Identity × Node Nat)} (held : ∀ entry ∈ result, Identified name entry.2.content) :=
      ih (fun other member => own other (List.mem_cons_of_mem _ member))
        (fun other member => inner other (List.mem_cons_of_mem _ member)) held
    have found : stored (contents entries) (some identity) = (entries.lookup identity).map Node.content :=
      lookup_mapped Node.content (fun _ _ => Option.some.inj) entries identity
    rw [mergeItems,getIdentity_own given same,List.map_cons,blendItems,Node.identity_content,same,found]
    refine (Yields.of_ok rfl rfl : Yields (liftM (Except.ok identity : Except MergeError Identity)) (· = identity)).bind
      fun result equal => ?_
    subst equal
    cases old : entries.lookup result with
    | none =>
      have rest := later (puts item identified)
      rw [contents_put] at rest
      exact rest
    | some existing =>
      have before : Identified name existing.content := held _ (Dict.mem_of_lookup old)
      refine (merges existing before).bind fun merged equal => ?_
      have rest := later (puts merged (equal ▸ identified_blend before identified))
      rw [contents_put,equal] at rest
      exact rest

theorem contents_values (entries : List (Identity × Node Nat)) :
    (contents entries).map Prod.snd = (entries.map Prod.snd).map Node.content := by
  unfold contents
  rw [List.map_map,List.map_map]
  exact rfl

theorem handles_identified (given : name ≠ "") :
    Handles attributes ⟨appends,.field name⟩ (.byIdentity name) (Identified name) where
  entry entries identified := (identified_entries identified).2
  blended existing incoming := identified_blend
  lists l1 address l2 identified comes merges := by
    obtain ⟨own,apart,inner⟩ := identified_items identified
    obtain ⟨others,_,values⟩ := identified_items comes
    have truthy : ¬(DeepMergeStrategy.mk appends (.field name)).listIdentityKey.isFalsy = true := by
      rw [IdentityKey.isFalsy,decide_eq_true_iff]
      exact given
    have named {items : List (Node Nat)} (own : ∀ item ∈ items.map Node.content, (item.identity name).isSome = true) :
        ∀ item ∈ items, (item.identity name).isSome = true := by
      intro item member
      rw [← Node.identity_content]
      exact own _ (List.mem_map_of_mem member)
    obtain ⟨entries,ran,holds⟩ := @resultMap_ok attributes appends name given l1 (named own) []
    have collected : contents entries = keyed (Node.identity name) (l1.map Node.content) :=
      holds.trans (merged_empty (keyed_distinct apart))
    have held : ∀ entry ∈ entries, Identified name entry.2.content := by
      intro entry member
      have within : (some entry.1,entry.2.content) ∈ contents entries := List.mem_map_of_mem member
      rw [collected] at within
      obtain ⟨item,inside,same⟩ := List.mem_map.mp within
      have equal : item = entry.2.content := (Prod.mk.inj same).2
      exact equal ▸ inner item inside
    rw [mergeLists,if_neg truthy]
    refine (Yields.of_ok ran rfl : Yields _ (· = entries)).bind fun result equal => ?_
    subst equal
    refine (mergeItems_yields given (named others) (fun item member =>
      ⟨values _ (List.mem_map_of_mem member),fun old identified =>
        merges item member old identified (values _ (List.mem_map_of_mem member))⟩) held).bind fun items same => ?_
    refine yields_newObject.bind fun created _ => .of_pure ?_
    rw [Node.content,Node.contentItems_eq,← contents_values,same,collected]
    exact rfl

/-- Merging is idempotent and associative. Where both have dicts or lists, it has all keys and one item for each identity,
and what only one of them has is there as it was. -/
structure LawfulMerge (attributes : Attributes) (strategy : DeepMergeStrategy) (name : String) (a b : Node Nat) : Prop where
  again : ∀ counter, value (merge attributes strategy a b >>= fun merged => merge attributes strategy merged b) counter =
    value (merge attributes strategy a b) counter
  self : ∀ counter, value (merge attributes strategy a a) counter = .ok a.content
  keys : ∀ counter, ∃ result, value (merge attributes strategy a b) counter = .ok result ∧
    ∀ path d1 d2, place name path a.content = some (.dict () d1) → place name path b.content = some (.dict () d2) →
      ∃ entries, place name path result = some (.dict () entries) ∧
        ∀ key, key ∈ entries.map Prod.fst ↔ key ∈ d1.map Prod.fst ∨ key ∈ d2.map Prod.fst
  items : ∀ counter, ∃ result, value (merge attributes strategy a b) counter = .ok result ∧ Identified name result ∧
    ∀ path l1 l2, place name path a.content = some (.list () l1) → place name path b.content = some (.list () l2) →
      ∃ items, place name path result = some (.list () items) ∧ (items.map (Node.identity name)).Nodup ∧
        ∀ identity, identity ∈ items.map (Node.identity name) ↔
          identity ∈ l1.map (Node.identity name) ∨ identity ∈ l2.map (Node.identity name)
  alone : ∀ counter, ∃ result, value (merge attributes strategy a b) counter = .ok result ∧
    ∀ path old new, place name path a.content = some old → place name path b.content = some new → Joined old new →
      ∀ step inner, child name old step = some inner ∧ child name new step = none ∨
          child name old step = none ∧ child name new step = some inner →
        place name (path ++ [step]) result = some inner
  associative : ∀ c : Node Nat, Identified name c.content → Alike name a.content b.content →
    Alike name b.content c.content → ∀ counter,
      value (merge attributes strategy a b >>= fun merged => merge attributes strategy merged c) counter =
        value (merge attributes strategy b c >>= fun merged => merge attributes strategy a merged) counter

variable {a b c : Node Nat}

theorem merge_identified (given : name ≠ "") (identified : Identified name a.content) (comes : Identified name b.content) :
    Yields (merge attributes ⟨appends,.field name⟩ a b) fun merged =>
      merged.content = blend (.byIdentity name) a.content b.content :=
  merge_yields (handles_identified given) b a identified comes

theorem merge_lawful (given : name ≠ "") (identified : Identified name a.content) (comes : Identified name b.content) :
    LawfulMerge attributes ⟨appends,.field name⟩ name a b where
  again counter := by
    have twice : Yields (merge attributes ⟨appends,.field name⟩ a b >>= fun merged =>
        merge attributes ⟨appends,.field name⟩ merged b) fun merged =>
          merged.content = blend (.byIdentity name) a.content b.content :=
      (merge_identified given identified comes).bind fun merged same => by
        have inner : Identified name merged.content := same ▸ identified_blend identified comes
        have next := @merge_identified attributes appends name _ _ given inner comes
        rw [same,blend_again identified comes] at next
        exact next
    rw [value_of_yields twice,value_of_yields (merge_identified given identified comes)]
  self counter := by
    rw [value_of_yields (merge_identified given identified identified),blend_self identified]
  keys counter := by
    refine ⟨_,value_of_yields (merge_identified given identified comes) counter,fun path d1 d2 here there => ?_⟩
    obtain ⟨found,_,second⟩ := place_blend identified comes here there
    rw [blend_dicts] at found
    exact ⟨_,found,fun key => mem_merged_keys (identified_entries second).1⟩
  items counter := by
    refine ⟨_,value_of_yields (merge_identified given identified comes) counter,identified_blend identified comes,
      fun path l1 l2 here there => ?_⟩
    obtain ⟨found,first,second⟩ := place_blend identified comes here there
    have distinct := keyed_distinct (identified_items second).2.1
    have earlier := keyed_distinct (identified_items first).2.1
    rw [blend_lists] at found
    refine ⟨_,found,?_,fun identity => ?_⟩
    · rw [← keyed_keys,keyed_blend first second]
      exact merged_distinct earlier distinct
    · rw [← keyed_keys,keyed_blend first second,mem_merged_keys distinct,keyed_keys,keyed_keys]
  alone counter := ⟨_,value_of_yields (merge_identified given identified comes) counter,
    fun _ _ _ here there joined _ _ single => place_alone identified comes here there joined single⟩
  associative c last left right counter := by
    have first : Yields (merge attributes ⟨appends,.field name⟩ a b >>= fun merged =>
        merge attributes ⟨appends,.field name⟩ merged c) fun merged =>
          merged.content = blend (.byIdentity name) (blend (.byIdentity name) a.content b.content) c.content :=
      (merge_identified given identified comes).bind fun merged same => by
        have inner : Identified name merged.content := same ▸ identified_blend identified comes
        have next := @merge_identified attributes appends name _ _ given inner last
        rwa [same] at next
    have second : Yields (merge attributes ⟨appends,.field name⟩ b c >>= fun merged =>
        merge attributes ⟨appends,.field name⟩ a merged) fun merged =>
          merged.content = blend (.byIdentity name) a.content (blend (.byIdentity name) b.content c.content) :=
      (merge_identified given comes last).bind fun merged same => by
        have inner : Identified name merged.content := same ▸ identified_blend comes last
        have next := @merge_identified attributes appends name _ _ given identified inner
        rwa [same] at next
    rw [value_of_yields first,value_of_yields second,blend_assoc identified comes last left right]

def order (value : Int) : Node Nat := .dict 0 [("items",.list 1 [.dict 2 [("id",.scalar 3 (.number value))]])]

def basket (items : List (Int × Int)) (key : String) : Node Nat :=
  .dict 0 [("items",.list 1 (items.map fun item =>
    .dict 2 [("id",.scalar 3 (.number item.1)),("quantity",.scalar 4 (.number item.2))])),(key,.scalar 5 (.number 9))]

def itemOf (item : Int × Int) : Json :=
  .dict () [("id",.scalar () (.number item.1)),("quantity",.scalar () (.number item.2))]

theorem basket_identified {first second : Int × Int} (some : first.1 ≠ 0 ∧ second.1 ≠ 0) (apart : first.1 ≠ second.1)
    {key : String} (other : "items" ≠ key) : Identified "id" (basket [first,second] key).content := by
  have item (line : Int × Int) : Identified "id" (itemOf line) :=
    .dict (by simp [Distinct]) (by simp [Identified.scalar])
  have shape : (basket [first,second] key).content =
      .dict () [("items",.list () [itemOf first,itemOf second]),(key,.scalar () (.number 9))] := rfl
  rw [shape]
  refine .dict (by simpa [Distinct] using other) ?_
  simp only [List.forall_mem_cons]
  refine ⟨.list ?_ ?_ ?_,.scalar _,by simp⟩
  · simp [itemOf,Node.identity,Scalar.truthy,some]
  · simp [itemOf,Node.identity,Scalar.truthy,Scalar.hashed,some,apart]
  · simp only [List.forall_mem_cons]
    exact ⟨item first,item second,by simp⟩

theorem merge_lawful_order :
    LawfulMerge (fun _ _ => none) ⟨false,.field "id"⟩ "id" (basket [(1,2),(2,5)] "note") (basket [(2,7),(3,1)] "total") ∧
    ∃ merged, value (merge (fun _ _ => none) ⟨false,.field "id"⟩ (basket [(1,2),(2,5)] "note")
        (basket [(2,7),(3,1)] "total")) 6 = .ok merged ∧
      place "id" [.key "items",.item (.number 2),.key "quantity"] merged = some (.scalar () (.number 7)) ∧
      place "id" [.key "items",.item (.number 3),.key "quantity"] merged = some (.scalar () (.number 1)) ∧
      place "id" [.key "note"] merged = some (.scalar () (.number 9)) :=
  ⟨merge_lawful (by decide) (basket_identified (by decide) (by decide) (by decide))
    (basket_identified (by decide) (by decide) (by decide)),_,rfl,rfl,rfl,rfl⟩

/-- An item with the identity `0` is there twice after its dict was merged with itself. -/
theorem zero_is_no_identity : ¬value (merge (fun _ _ => none) ⟨false,.field "id"⟩ (order 0) (order 0)) 4 =
    .ok (order 0).content := by
  intro same
  have twice : value (merge (fun _ _ => none) ⟨false,.field "id"⟩ (order 0) (order 0)) 4 =
      .ok (.dict () [("items",.list () [.dict () [("id",.scalar () (.number 0))],
        .dict () [("id",.scalar () (.number 0))]])]) := rfl
  rw [twice] at same
  cases same

end DeepMergeStrategy

end CqrsDdd.Conflict
