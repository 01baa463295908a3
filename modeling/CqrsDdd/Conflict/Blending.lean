import CqrsDdd.Conflict.DeepMerge

/-! What a merge does to values: dicts are blended key by key, and lists are replaced, appended
or blended by the identities of their items. The strategy blends the values of its objects,
whatever their addresses are, where its settings leave nothing to addresses. -/
namespace CqrsDdd.Conflict

open OrderedMerge

abbrev Json := Node Unit

namespace Node

variable {Address : Type}

mutual

def content : Node Address → Json
  | .scalar _ value => .scalar () value
  | .list _ items => .list () (contentItems items)
  | .dict _ entries => .dict () (contentEntries entries)

def contentItems : List (Node Address) → List Json
  | [] => []
  | item::rest => content item::contentItems rest

def contentEntries : List (String × Node Address) → List (String × Json)
  | [] => []
  | (key,value)::rest => (key,content value)::contentEntries rest

end

theorem contentItems_eq (items : List (Node Address)) : contentItems items = items.map content := by
  induction items with
  | nil => exact rfl
  | cons item rest ih => rw [contentItems,ih,List.map_cons]

theorem contentEntries_eq (entries : List (String × Node Address)) :
    contentEntries entries = entries.map fun entry => (entry.1,entry.2.content) := by
  induction entries with
  | nil => exact rfl
  | cons entry rest ih =>
    obtain ⟨key,value⟩ := entry
    rw [contentEntries,ih,List.map_cons]

theorem movedItems_eq (offset : Nat) (items : List (Node Nat)) : movedItems offset items = items.map (moved offset) := by
  induction items with
  | nil => exact rfl
  | cons item rest ih => rw [movedItems,ih,List.map_cons]

theorem movedEntries_eq (offset : Nat) (entries : List (String × Node Nat)) :
    movedEntries offset entries = entries.map fun entry => (entry.1,entry.2.moved offset) := by
  induction entries with
  | nil => exact rfl
  | cons entry rest ih =>
    obtain ⟨key,value⟩ := entry
    rw [movedEntries,ih,List.map_cons]

theorem induct {motive : Node Address → Prop} (scalar : ∀ address value, motive (.scalar address value))
    (list : ∀ address items, (∀ item ∈ items, motive item) → motive (.list address items))
    (dict : ∀ address entries, (∀ entry ∈ entries, motive entry.2) → motive (.dict address entries))
    (node : Node Address) : motive node :=
  @Node.rec Address motive (fun items => ∀ item ∈ items, motive item) (fun entries => ∀ entry ∈ entries, motive entry.2)
    (fun entry => motive entry.2) scalar list dict (fun _ member => absurd member List.not_mem_nil)
    (fun _ _ first rest => List.forall_mem_cons.mpr ⟨first,rest⟩) (fun _ member => absurd member List.not_mem_nil)
    (fun _ _ first rest => List.forall_mem_cons.mpr ⟨first,rest⟩) (fun _ _ value => value) node

theorem moved_content (offset : Nat) (node : Node Nat) : (node.moved offset).content = node.content := by
  induction node using induct with
  | scalar address value => exact rfl
  | list address items ih =>
    rw [moved,content,content,contentItems_eq,contentItems_eq,movedItems_eq,List.map_map]
    exact congrArg _ (List.map_congr_left ih)
  | dict address entries ih =>
    rw [moved,content,content,contentEntries_eq,contentEntries_eq,movedEntries_eq,List.map_map]
    exact congrArg _ (List.map_congr_left fun entry member => Prod.ext rfl (ih entry member))

def identity (key : String) : Node Address → Option Identity
  | .dict _ entries =>
    match entries.lookup key with
    | some (.scalar _ value) => if value.truthy then some value.hashed else none
    | _ => none
  | _ => none

theorem identity_content (key : String) (item : Node Address) : item.content.identity key = item.identity key := by
  cases item with
  | scalar | list => exact rfl
  | dict address entries =>
    rw [content,contentEntries_eq,identity,identity,Dict.lookup_map]
    cases entries.lookup key with
    | none => exact rfl
    | some value => cases value <;> exact rfl

end Node

inductive ListHandling
  | replace
  | append
  | byIdentity (key : String)

section Blending

variable (handling : ListHandling)

mutual

def blend (existing : Json) : Json → Json
  | .dict _ second =>
    match existing with
    | .dict _ first => .dict () (blendEntries first second)
    | _ => .dict () second
  | .list _ second =>
    match existing with
    | .list _ first =>
      match handling with
      | .replace => .list () second
      | .append => .list () (first ++ second)
      | .byIdentity key => .list () ((blendItems key (keyed (Node.identity key) first) second).map Prod.snd)
    | _ => .list () second
  | .scalar _ value => .scalar () value

def blendEntries (entries : List (String × Json)) : List (String × Json) → List (String × Json)
  | [] => entries
  | (key,value)::rest =>
    match entries.lookup key with
    | some old => blendEntries (Dict.put key (blend old value) entries) rest
    | none => blendEntries (Dict.put key value entries) rest

def blendItems (key : String) (items : List (Option Identity × Json)) : List Json → List (Option Identity × Json)
  | [] => items
  | item::rest =>
    match stored items (Node.identity key item) with
    | some old => blendItems key (Dict.put (Node.identity key item) (blend old item) items) rest
    | none => blendItems key (Dict.put (Node.identity key item) item items) rest

end

variable {handling}

theorem blendEntries_eq (first second : List (String × Json)) :
    blendEntries handling first second = merged (blend handling) first second := by
  induction second generalizing first with
  | nil => exact rfl
  | cons entry rest ih =>
    obtain ⟨key,value⟩ := entry
    change _ = merged (blend handling) (upsert (blend handling) first (key,value)) rest
    rw [blendEntries]
    dsimp only [upsert,stored]
    cases first.lookup key with
    | none => exact ih _
    | some old => exact ih _

theorem blendItems_eq (key : String) (first : List (Option Identity × Json)) (second : List Json) :
    blendItems handling key first second = merged (blend handling) first (keyed (Node.identity key) second) := by
  induction second generalizing first with
  | nil => exact rfl
  | cons item rest ih =>
    change _ = merged (blend handling) (upsert (blend handling) first (item.identity key,item))
      (keyed (Node.identity key) rest)
    rw [blendItems]
    dsimp only [upsert]
    cases stored first (item.identity key) with
    | none => exact ih _
    | some old => exact ih _

end Blending

section Refinement

/-- From every counter the program ends without an exception, with what the condition says. -/
def Yields {Result : Type} (program : Alloc Result) (condition : Result → Prop) : Prop :=
  ∀ counter, ∃ result next, program counter = .ok (result,next) ∧ condition result

variable {Result Other : Type}

theorem Yields.of_pure {condition : Result → Prop} {result : Result} (holds : condition result) :
    Yields (pure result) condition :=
  fun counter => ⟨result,counter,rfl,holds⟩

theorem Yields.bind {first : Alloc Result} {next : Result → Alloc Other} {between : Result → Prop} {condition : Other → Prop}
    (yields : Yields first between) (rest : ∀ result, between result → Yields (next result) condition) :
    Yields (first >>= next) condition := by
  intro counter
  obtain ⟨result,after,ran,holds⟩ := yields counter
  obtain ⟨other,last,ends,concludes⟩ := rest result holds after
  refine ⟨other,last,?_,concludes⟩
  change (first counter >>= fun answer => next answer.1 answer.2) = _
  rw [ran]
  exact ends

theorem yields_deepcopy : Yields DeepMergeStrategy.deepcopy fun _ => True := fun counter => ⟨counter,_,rfl,trivial⟩

theorem yields_newObject : Yields DeepMergeStrategy.newObject fun _ => True := fun counter => ⟨counter,_,rfl,trivial⟩

theorem Yields.of_ok {program : Except MergeError Result} {condition : Result → Prop} {result : Result}
    (ran : program = .ok result) (holds : condition result) : Yields (liftM program) condition :=
  fun counter => ⟨result,counter,by rw [ran]; rfl,holds⟩

open DeepMergeStrategy

variable {attributes : Attributes} {strategy : DeepMergeStrategy} {handling : ListHandling} {Fit : Json → Prop}

/-- Which values the strategy handles so: their entries and their blends are such values again,
and lists of them are merged as the handling says, if their items are. -/
structure Handles (attributes : Attributes) (strategy : DeepMergeStrategy) (handling : ListHandling) (Fit : Json → Prop) :
    Prop where
  entry : ∀ entries, Fit (.dict () entries) → ∀ entry ∈ entries, Fit entry.2
  blended : ∀ existing incoming, Fit existing → Fit incoming → Fit (blend handling existing incoming)
  lists : ∀ l1 address l2, Fit (.list () (l1.map Node.content)) → Fit (.list () (l2.map Node.content)) →
    (∀ item ∈ l2, ∀ old : Node Nat, Fit old.content → Fit item.content →
      Yields (merge attributes strategy old item) fun merged => merged.content = blend handling old.content item.content) →
    Yields (mergeLists attributes strategy l1 address l2 fun resultMap => mergeItems attributes strategy resultMap l2)
      fun merged => merged.content =
        blend handling (.list () (l1.map Node.content)) (.list () (l2.map Node.content))

theorem contentEntries_mapped (entries : List (String × Node Nat)) :
    Node.contentEntries entries = entries.map (Prod.map id Node.content) :=
  Node.contentEntries_eq entries

theorem mergeEntries_yields (handles : Handles attributes strategy handling Fit) {d2 : List (String × Node Nat)}
    (values : ∀ entry ∈ d2, Fit entry.2.content ∧ ∀ old : Node Nat, Fit old.content →
      Yields (merge attributes strategy old entry.2) fun merged =>
        merged.content = blend handling old.content entry.2.content)
    {result : List (String × Node Nat)} (fits : ∀ entry ∈ result, Fit entry.2.content) :
    Yields (mergeEntries attributes strategy result d2) fun merged =>
      Node.contentEntries merged = blendEntries handling (Node.contentEntries result) (Node.contentEntries d2) := by
  induction d2 generalizing result with
  | nil => exact .of_pure rfl
  | cons entry rest ih =>
    obtain ⟨key,value⟩ := entry
    obtain ⟨fit,merges⟩ := values (key,value) List.mem_cons_self
    have later := fun entry member => values entry (List.mem_cons_of_mem _ member)
    have puts (stored : Node Nat) (fit : Fit stored.content) :
        ∀ entry ∈ Dict.put key stored result, Fit entry.2.content := by
      intro entry member
      rcases mem_put member with rfl | before
      · exact fit
      · exact fits entry before
    have content (stored : Node Nat) : Node.contentEntries (Dict.put key stored result) =
        Dict.put key stored.content (Node.contentEntries result) := by
      rw [contentEntries_mapped,contentEntries_mapped,put_mapped _ Function.injective_id]
      exact rfl
    have found : (Node.contentEntries result).lookup key = (result.lookup key).map Node.content := by
      rw [contentEntries_mapped]
      exact lookup_mapped _ Function.injective_id result key
    rw [mergeEntries,Node.contentEntries,blendEntries,found]
    cases old : result.lookup key with
    | none =>
      have rest := ih later (puts value fit)
      rw [content] at rest
      exact rest
    | some old' =>
      have held : Fit old'.content := fits _ (Dict.mem_of_lookup old)
      refine (merges old' held).bind fun merged same => ?_
      have rest := ih later (puts merged (same ▸ handles.blended _ _ held fit))
      rw [content,same] at rest
      exact rest

theorem merge_yields (handles : Handles attributes strategy handling Fit) (incoming : Node Nat) :
    ∀ existing : Node Nat, Fit existing.content → Fit incoming.content →
      Yields (merge attributes strategy existing incoming) fun merged =>
        merged.content = blend handling existing.content incoming.content := by
  induction incoming using Node.induct with
  | scalar address value => exact fun existing _ _ => .of_pure rfl
  | list address l2 ih =>
    intro existing fit fits
    cases existing with
    | scalar | dict => exact .of_pure rfl
    | list old l1 =>
      rw [Node.content,Node.contentItems_eq] at fit fits
      rw [merge,Node.content,Node.content,Node.contentItems_eq,Node.contentItems_eq]
      exact handles.lists l1 address l2 fit fits fun item member old fit => ih item member old fit
  | dict address d2 ih =>
    intro existing fit fits
    cases existing with
    | scalar | list => exact .of_pure rfl
    | dict old d1 =>
      have values : ∀ entry ∈ d2, Fit entry.2.content := by
        intro entry member
        rw [Node.content,Node.contentEntries_eq] at fits
        exact handles.entry _ fits _ (List.mem_map_of_mem member)
      rw [merge,mergeDicts]
      refine yields_deepcopy.bind fun offset _ => ?_
      have copied : Node.contentEntries (Node.movedEntries offset d1) = Node.contentEntries d1 := by
        rw [Node.contentEntries_eq,Node.contentEntries_eq,Node.movedEntries_eq,List.map_map]
        exact List.map_congr_left fun entry _ => Prod.ext rfl (Node.moved_content offset entry.2)
      have held : ∀ entry ∈ Node.movedEntries offset d1, Fit entry.2.content := by
        intro entry member
        rw [Node.content,← copied,Node.contentEntries_eq] at fit
        exact handles.entry _ fit _ (List.mem_map_of_mem member)
      refine (mergeEntries_yields handles (fun entry member =>
        ⟨values entry member,fun old fit => ih entry member old fit (values entry member)⟩) held).bind fun merged same => ?_
      refine .of_pure ?_
      rw [Node.content,same,copied]
      exact rfl

end Refinement

end CqrsDdd.Conflict
