import CqrsDdd.Specifications.Evaluation

/-! The walk of a dotted path through an object graph. At a sequence the walk takes one part
of the path for the elements and returns, so that the parts after it are left out. -/
namespace CqrsDdd.Specifications

variable {Object : Type}

/-- `_resolve_field`. -/
def resolve (registry : Registry Object) (obj : Value Object) (path : String) : Value Object :=
  resolvePath registry (splitOn '.' path) obj

/-- `obj.get(part)` or `getattr(obj, part, None)`. -/
def member (registry : Registry Object) (part : String) : Value Object → Value Object
  | .dict fields => (fields.lookup part).getD .null
  | value => registry.getattr value part

mutual
/-- One part of a path on the elements of sequences, at any depth, and `next` on what it gives. -/
def mapPart (registry : Registry Object) (part : String) (next : Value Object → Value Object) :
    Value Object → Value Object
  | .null => .null
  | .list items => .list (mapParts registry part next items)
  | .tuple items => .list (mapParts registry part next items)
  | .dict fields => next (member registry part (.dict fields))
  | value => next (member registry part value)
def mapParts (registry : Registry Object) (part : String) (next : Value Object → Value Object) :
    List (Value Object) → List (Value Object)
  | [] => []
  | item::rest => mapPart registry part next item::mapParts registry part next rest
end

/-- The whole of a path, resolved on the elements of every sequence on the way. -/
def resolveWhole (registry : Registry Object) : List String → Value Object → Value Object
  | [] => id
  | part::rest => mapPart registry part (resolveWhole registry rest)

theorem mapParts_eq (registry : Registry Object) (part : String) (next : Value Object → Value Object)
    (items : List (Value Object)) : mapParts registry part next items = items.map (mapPart registry part next) := by
  induction items with
  | nil => exact rfl
  | cons item rest ih => rw [mapParts,ih,List.map_cons]

theorem resolveWhole_list (registry : Registry Object) (part : String) (rest : List String)
    (items : List (Value Object)) : resolveWhole registry (part::rest) (.list items) =
      .list (items.map (resolveWhole registry (part::rest))) := by
  rw [resolveWhole,mapPart,mapParts_eq]

theorem resolveWhole_tuple (registry : Registry Object) (part : String) (rest : List String)
    (items : List (Value Object)) : resolveWhole registry (part::rest) (.tuple items) =
      .list (items.map (resolveWhole registry (part::rest))) := by
  rw [resolveWhole,mapPart,mapParts_eq]

mutual
theorem resolvePart_eq (registry : Registry Object) (part : String) :
    ∀ value : Value Object, resolvePart registry part value = mapPart registry part id value
  | .null => rfl
  | .list items => congrArg Value.list (resolveItems_eq registry part items)
  | .tuple items => congrArg Value.list (resolveItems_eq registry part items)
  | .dict _ | .bool _ | .number _ | .text _ | .object _ => rfl
theorem resolveItems_eq (registry : Registry Object) (part : String) :
    ∀ items : List (Value Object), resolveItems registry part items = mapParts registry part id items
  | [] => rfl
  | item::rest => congrArg₂ List.cons (resolvePart_eq registry part item) (resolveItems_eq registry part rest)
end

/-- A value that the walk goes through: no `None` and no sequence. -/
def Value.Plain : Value Object → Prop
  | .null | .list _ | .tuple _ => False
  | _ => True

theorem mapPart_plain (registry : Registry Object) (part : String) (next : Value Object → Value Object)
    {value : Value Object} (plain : value.Plain) :
    mapPart registry part next value = next (member registry part value) := by
  cases value with
  | null | list _ | tuple _ => exact plain.elim
  | dict _ | bool _ | number _ | text _ | object _ => exact rfl

theorem resolvePath_plain (registry : Registry Object) (part : String) (rest : List String) {value : Value Object}
    (plain : value.Plain) :
    resolvePath registry (part::rest) value = resolvePath registry rest (member registry part value) := by
  cases value with
  | null | list _ | tuple _ => exact plain.elim
  | dict _ | bool _ | number _ | text _ | object _ => exact rfl

/-- The walk comes to a sequence with these parts of the path left. -/
inductive Reaches (registry : Registry Object) : List String → Value Object → List String → List (Value Object) → Prop
  | list {part : String} {rest : List String} {items : List (Value Object)} :
      Reaches registry (part::rest) (.list items) (part::rest) items
  | tuple {part : String} {rest : List String} {items : List (Value Object)} :
      Reaches registry (part::rest) (.tuple items) (part::rest) items
  | through {part : String} {rest remaining : List String} {value : Value Object} {items : List (Value Object)}
      (plain : value.Plain) (next : Reaches registry rest (member registry part value) remaining items) :
      Reaches registry (part::rest) value remaining items

/-- The parts lead from one value through plain ones to the other. -/
def Leads (registry : Registry Object) : List String → Value Object → Value Object → Prop
  | [],value,last => value = last
  | part::rest,value,last => value.Plain ∧ Leads registry rest (member registry part value) last

mutual
/-- A value that loses nothing with the rest of a path: `None`, a list of such values, or one that the rest leads
back to. -/
def Unmoved (registry : Registry Object) (rest : List String) : Value Object → Prop
  | .null => True
  | .list items => AllUnmoved registry rest items
  | .tuple _ => False
  | .dict fields => Leads registry rest (.dict fields) (.dict fields)
  | value => Leads registry rest value value
def AllUnmoved (registry : Registry Object) (rest : List String) : List (Value Object) → Prop
  | [] => True
  | item::others => Unmoved registry rest item ∧ AllUnmoved registry rest others
end

mutual
/-- What one part gives on an element, or on the elements of a nested sequence, is unmoved by the rest. -/
def Lands (registry : Registry Object) (part : String) (rest : List String) : Value Object → Prop
  | .null => True
  | .list items => AllLand registry part rest items
  | .tuple items => AllLand registry part rest items
  | .dict fields => Unmoved registry rest (member registry part (.dict fields))
  | value => Unmoved registry rest (member registry part value)
def AllLand (registry : Registry Object) (part : String) (rest : List String) : List (Value Object) → Prop
  | [] => True
  | item::others => Lands registry part rest item ∧ AllLand registry part rest others
end

/-- A sequence is met with one part of the path left, or with elements on which the parts after it change nothing. -/
def Spared (registry : Registry Object) (path : List String) (obj : Value Object) : Prop :=
  ∀ part rest items, Reaches registry path obj (part::rest) items → rest = [] ∨ AllLand registry part rest items

theorem Leads.resolves {registry : Registry Object} {rest : List String} {value last : Value Object}
    (leads : Leads registry rest value last) : resolveWhole registry rest value = last := by
  induction rest generalizing value with
  | nil => exact leads
  | cons part rest ih => exact (mapPart_plain registry part _ leads.1).trans (ih leads.2)

theorem leads_of_resolves {registry : Registry Object} {rest : List String} {value last : Value Object}
    (plain : last.Plain) (resolves : resolveWhole registry rest value = last) : Leads registry rest value last := by
  induction rest generalizing value with
  | nil => exact resolves
  | cons part rest ih =>
    have through : value.Plain := by
      cases value with
      | null | list _ | tuple _ =>
        subst resolves
        exact plain.elim
      | dict _ | bool _ | number _ | text _ | object _ => trivial
    exact ⟨through,ih ((mapPart_plain registry part _ through).symm.trans resolves)⟩

theorem leads_iff {registry : Registry Object} {rest : List String} {value : Value Object} (plain : value.Plain) :
    Leads registry rest value value ↔ resolveWhole registry rest value = value :=
  ⟨Leads.resolves,leads_of_resolves plain⟩

mutual
theorem unmoved_iff (registry : Registry Object) (part : String) (rest : List String) : ∀ value : Value Object,
    Unmoved registry (part::rest) value ↔ resolveWhole registry (part::rest) value = value
  | .null => iff_of_true trivial rfl
  | .list items => by
    rw [Unmoved,allUnmoved_iff registry part rest items,resolveWhole_list,Value.list.injEq]
  | .tuple items => by
    rw [resolveWhole_tuple]
    exact iff_of_false id fun same => by cases same
  | .dict _ | .bool _ | .number _ | .text _ | .object _ => leads_iff trivial
theorem allUnmoved_iff (registry : Registry Object) (part : String) (rest : List String) :
    ∀ items : List (Value Object), AllUnmoved registry (part::rest) items ↔
      items.map (resolveWhole registry (part::rest)) = items
  | [] => iff_of_true trivial rfl
  | item::others => by
    rw [AllUnmoved,unmoved_iff registry part rest item,allUnmoved_iff registry part rest others,List.map_cons,
      List.cons.injEq]
end

mutual
theorem lands_iff (registry : Registry Object) (part next : String) (rest : List String) : ∀ value : Value Object,
    Lands registry part (next::rest) value ↔
      mapPart registry part id value = mapPart registry part (resolveWhole registry (next::rest)) value
  | .null => iff_of_true trivial rfl
  | .list items => by rw [Lands,allLand_iff registry part next rest items,mapPart,mapPart,Value.list.injEq]
  | .tuple items => by rw [Lands,allLand_iff registry part next rest items,mapPart,mapPart,Value.list.injEq]
  | .dict fields => (unmoved_iff registry next rest _).trans eq_comm
  | .bool _ | .number _ | .text _ | .object _ => (unmoved_iff registry next rest _).trans eq_comm
theorem allLand_iff (registry : Registry Object) (part next : String) (rest : List String) :
    ∀ items : List (Value Object), AllLand registry part (next::rest) items ↔
      mapParts registry part id items = mapParts registry part (resolveWhole registry (next::rest)) items
  | [] => iff_of_true trivial rfl
  | item::others => by
    rw [AllLand,lands_iff registry part next rest item,allLand_iff registry part next rest others,mapParts,mapParts,
      List.cons.injEq]
end

theorem Reaches.resolves {registry : Registry Object} {path : List String} {obj : Value Object} {part : String}
    {rest : List String} {items : List (Value Object)} (reaches : Reaches registry path obj (part::rest) items) :
    resolvePath registry path obj = .list (mapParts registry part id items) := by
  generalize same : part::rest = remaining at reaches
  induction reaches with
  | list =>
    cases same
    exact resolvePart_eq registry part _
  | tuple =>
    cases same
    exact resolvePart_eq registry part _
  | through plain _ ih => exact (resolvePath_plain registry _ _ plain).trans (ih same)

/-- At every sequence on the way the result is the rest of the path on each element exactly when the parts after
the next one change nothing. -/
theorem resolve_maps_iff_spared (registry : Registry Object) (obj : Value Object) (path : String) :
    (∀ part rest items, Reaches registry (splitOn '.' path) obj (part::rest) items →
      resolve registry obj path = .list (items.map (resolveWhole registry (part::rest)))) ↔
    Spared registry (splitOn '.' path) obj := by
  refine forall₃_congr fun part rest items => forall_congr' fun reaches => ?_
  have whole : (items.map (resolveWhole registry (part::rest))) =
      mapParts registry part (resolveWhole registry rest) items := (mapParts_eq registry part _ items).symm
  rw [resolve,reaches.resolves,whole,Value.list.injEq]
  cases rest with
  | nil => exact iff_of_true rfl (.inl rfl)
  | cons next rest =>
    exact (allLand_iff registry part next rest items).symm.trans (or_iff_right (List.cons_ne_nil next rest)).symm

theorem resolve_attributes (registry : Registry Object) (attributes : Fields Object) (path : String) :
    resolve registry (.dict attributes) path = resolveField registry attributes path := by
  unfold resolve resolveField
  cases parts : splitOn '.' path with
  | nil => exact absurd (List.map_eq_nil_iff.mp parts) (List.splitOn_ne_nil _ _)
  | cons part rest => exact rfl

def plainRegistry : Registry Empty := ⟨fun _ _ => .null,fun _ _ _ => .ok false⟩

/-- The last part of `a.b.c` is lost where `a` is a list. -/
theorem last_part_lost : ¬ ∀ part rest items,
    Reaches plainRegistry (splitOn '.' "a.b.c") (.dict [("a",.list [.dict [("b",.dict [("c",.number 1)])]])])
      (part::rest) items →
    resolve plainRegistry (.dict [("a",.list [.dict [("b",.dict [("c",.number 1)])]])]) "a.b.c" =
      .list (items.map (resolveWhole plainRegistry (part::rest))) := by
  intro maps
  have mapped := maps "b" ["c"] [.dict [("b",.dict [("c",.number 1)])]] (.through trivial .list)
  cases mapped

end CqrsDdd.Specifications
