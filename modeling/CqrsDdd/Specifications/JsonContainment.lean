import CqrsDdd.Dict
import Mathlib.Data.List.Nodup
import Mathlib.Logic.Relation
import Mathlib.Order.Defs.PartialOrder

/-! JSON documents and their containment in one another, as the in-memory operators decide it.
Containment is a preorder; the operator that asks for its converse has an answer of its own
for a field that is null. -/
namespace CqrsDdd.Specifications

/-- The number of an integer or a float. A number in JSON may be too large for a float, but none is a NaN. -/
inductive Number
  | finite (value : Rat)
  | infinite (negative : Bool)
  deriving DecidableEq, Repr

inductive Json
  | null
  | bool (value : Bool)
  | number (value : Number)
  | text (content : String)
  | list (items : List Json)
  | dict (entries : List (String × Json))

namespace Json

/-- Booleans are the numbers zero and one to `==`. -/
def number? : Json → Option Number
  | .bool value => some (.finite (if value then 1 else 0))
  | .number value => some value
  | .null | .text _ | .list _ | .dict _ => none

def text? : Json → Option String
  | .text content => some content
  | .null | .bool _ | .number _ | .list _ | .dict _ => none

/-- Neither a dict nor a list. -/
def isPlain : Json → Bool
  | .null | .bool _ | .number _ | .text _ => true
  | .list _ | .dict _ => false

/-- `==` of two values that are not both dicts and not both lists. -/
def equals (first second : Json) : Bool :=
  match first,second with
  | .null,.null => true
  | .text content,second => second.text? = some content
  | first,second => first.number?.isSome && first.number? = second.number?

mutual

def dictContains (haystack : Json) : Json → Bool
  | .dict needle =>
    match haystack with
    | .dict entries => containsEntries entries needle
    | _ => haystack.equals (.dict needle)
  | .list needle =>
    match haystack with
    | .list items => containsItems items needle
    | _ => haystack.equals (.list needle)
  | needle => haystack.equals needle

def containsEntries (haystack : List (String × Json)) : List (String × Json) → Bool
  | [] => true
  | (key,value)::rest =>
    (match haystack.lookup key with
      | some found => dictContains found value
      | none => false) && containsEntries haystack rest

def containsItems (haystack : List Json) : List Json → Bool
  | [] => true
  | item::rest => haystack.any (fun held => dictContains held item) && containsItems haystack rest

end

mutual

/-- The keys of each dict in the value are distinct. -/
def distinct : Json → Bool
  | .dict entries => decide (entries.map Prod.fst).Nodup && distinctEntries entries
  | .list items => distinctItems items
  | .null | .bool _ | .number _ | .text _ => true

def distinctEntries : List (String × Json) → Bool
  | [] => true
  | (_,value)::rest => value.distinct && distinctEntries rest

def distinctItems : List Json → Bool
  | [] => true
  | item::rest => item.distinct && distinctItems rest

end

theorem distinctEntries_iff {entries : List (String × Json)} :
    distinctEntries entries = true ↔ ∀ entry ∈ entries, entry.2.distinct = true := by
  induction entries with
  | nil => simp [distinctEntries]
  | cons entry rest ih => rw [distinctEntries,Bool.and_eq_true,ih,List.forall_mem_cons]

theorem distinctItems_iff {items : List Json} : distinctItems items = true ↔ ∀ item ∈ items, item.distinct = true := by
  induction items with
  | nil => simp [distinctItems]
  | cons item rest ih => rw [distinctItems,Bool.and_eq_true,ih,List.forall_mem_cons]

theorem distinct_dict {entries : List (String × Json)} :
    (dict entries).distinct = true ↔ (entries.map Prod.fst).Nodup ∧ ∀ entry ∈ entries, entry.2.distinct = true := by
  rw [distinct,Bool.and_eq_true,decide_eq_true_iff,distinctEntries_iff]

theorem distinct_list {items : List Json} : (list items).distinct = true ↔ ∀ item ∈ items, item.distinct = true := by
  rw [distinct,distinctItems_iff]

theorem containsItems_iff {haystack needle : List Json} :
    containsItems haystack needle = true ↔ ∀ item ∈ needle, ∃ held ∈ haystack, dictContains held item = true := by
  induction needle with
  | nil => simp [containsItems]
  | cons item rest ih => rw [containsItems,Bool.and_eq_true,ih,List.any_eq_true,List.forall_mem_cons]

theorem containsEntries_iff {haystack needle : List (String × Json)} :
    containsEntries haystack needle = true ↔
      ∀ entry ∈ needle, ∃ found, haystack.lookup entry.1 = some found ∧ dictContains found entry.2 = true := by
  induction needle with
  | nil => simp [containsEntries]
  | cons entry rest ih =>
    obtain ⟨key,value⟩ := entry
    rw [containsEntries,Bool.and_eq_true,ih,List.forall_mem_cons]
    refine and_congr_left fun _ => ?_
    cases haystack.lookup key with
    | none => simp
    | some found => simp

theorem contains_list {haystack : Json} {needle : List Json} :
    dictContains haystack (.list needle) = true ↔
      ∃ items, haystack = .list items ∧ ∀ item ∈ needle, ∃ held ∈ items, dictContains held item = true := by
  cases haystack with
  | list items =>
    rw [dictContains]
    refine containsItems_iff.trans ⟨fun each => ⟨items,rfl,each⟩,?_⟩
    rintro ⟨_,same,each⟩
    cases same
    exact each
  | null | bool _ | number _ | text _ | dict _ => simp [dictContains,equals,number?,text?]

theorem contains_dict {haystack : Json} {needle : List (String × Json)} :
    dictContains haystack (.dict needle) = true ↔ ∃ entries, haystack = .dict entries ∧
      ∀ entry ∈ needle, ∃ found, entries.lookup entry.1 = some found ∧ dictContains found entry.2 = true := by
  cases haystack with
  | dict entries =>
    rw [dictContains]
    refine containsEntries_iff.trans ⟨fun each => ⟨entries,rfl,each⟩,?_⟩
    rintro ⟨_,same,each⟩
    cases same
    exact each
  | null | bool _ | number _ | text _ | list _ => simp [dictContains,equals,number?,text?]

@[elab_as_elim] theorem induction {motive : Json → Prop} (null : motive .null) (bool : ∀ value, motive (.bool value))
    (number : ∀ value, motive (.number value)) (text : ∀ content, motive (.text content))
    (list : ∀ items, (∀ item ∈ items, motive item) → motive (.list items))
    (dict : ∀ entries, (∀ entry ∈ entries, motive entry.2) → motive (.dict entries)) (value : Json) : motive value :=
  @Json.rec motive (fun items => ∀ item ∈ items, motive item) (fun entries => ∀ entry ∈ entries, motive entry.2)
    (fun entry => motive entry.2) null bool number text list dict
    (fun _ member => absurd member List.not_mem_nil)
    (fun _ _ head tail => List.forall_mem_cons.mpr ⟨head,tail⟩)
    (fun _ member => absurd member List.not_mem_nil)
    (fun _ _ head tail => List.forall_mem_cons.mpr ⟨head,tail⟩)
    (fun _ _ value => value) value

theorem contains_refl (value : Json) (distinct : value.distinct = true) : dictContains value value = true := by
  induction value using induction with
  | null => exact rfl
  | bool value => simp [dictContains,equals,number?]
  | number value => simp [dictContains,equals,number?]
  | text content => simp [dictContains,equals,text?]
  | list items each =>
    refine contains_list.mpr ⟨items,rfl,fun item member => ⟨item,member,each item member ?_⟩⟩
    exact distinct_list.mp distinct item member
  | dict entries each =>
    obtain ⟨keys,values⟩ := distinct_dict.mp distinct
    refine contains_dict.mpr ⟨entries,rfl,fun entry member => ⟨entry.2,?_,each entry member (values entry member)⟩⟩
    exact Dict.lookup_of_mem keys member

theorem contains_plain {haystack needle : Json} (plain : needle.isPlain = true) :
    dictContains haystack needle = haystack.equals needle := by
  cases needle with
  | null | bool _ | number _ | text _ => simp [dictContains]
  | list items => cases plain
  | dict entries => cases plain

theorem plain_of_equals {first second : Json} (same : first.equals second = true) : first.isPlain = true := by
  cases first with
  | null | bool _ | number _ | text _ => exact rfl
  | list items => simp [equals,number?] at same
  | dict entries => simp [equals,number?] at same

theorem equals_trans {first second third : Json} (head : first.equals second = true)
    (tail : second.equals third = true) : first.equals third = true := by
  have plain := plain_of_equals tail
  cases second with
  | null =>
    cases first with
    | null => exact tail
    | bool _ | number _ | text _ | list _ | dict _ => simp [equals,number?,text?] at head
  | text content =>
    cases first with
    | text written =>
      obtain rfl : content = written := by simpa [equals,text?] using head
      exact tail
    | null | bool _ | number _ | list _ | dict _ => simp [equals,number?] at head
  | bool value | number value =>
    cases first with
    | bool other | number other => cases third <;> simp_all [equals,number?]
    | null | text _ | list _ | dict _ => simp [equals,number?,text?] at head
  | list items => cases plain
  | dict entries => cases plain

theorem contains_trans_plain {first second third : Json} (plain : third.isPlain = true)
    (head : dictContains first second = true) (tail : dictContains second third = true) :
    dictContains first third = true := by
  rw [contains_plain plain] at tail ⊢
  rw [contains_plain (plain_of_equals tail)] at head
  exact equals_trans head tail

theorem contains_trans {first second third : Json} (head : dictContains first second = true)
    (tail : dictContains second third = true) : dictContains first third = true := by
  induction third using induction generalizing first second with
  | null => exact contains_trans_plain rfl head tail
  | bool value => exact contains_trans_plain rfl head tail
  | number value => exact contains_trans_plain rfl head tail
  | text content => exact contains_trans_plain rfl head tail
  | list needle each =>
    obtain ⟨items,rfl,held⟩ := contains_list.mp tail
    obtain ⟨outer,rfl,kept⟩ := contains_list.mp head
    refine contains_list.mpr ⟨outer,rfl,fun item member => ?_⟩
    obtain ⟨middle,among,inside⟩ := held item member
    obtain ⟨whole,there,around⟩ := kept middle among
    exact ⟨whole,there,each item member around inside⟩
  | dict needle each =>
    obtain ⟨entries,rfl,held⟩ := contains_dict.mp tail
    obtain ⟨outer,rfl,kept⟩ := contains_dict.mp head
    refine contains_dict.mpr ⟨outer,rfl,fun entry member => ?_⟩
    obtain ⟨middle,found,inside⟩ := held entry member
    obtain ⟨whole,there,around⟩ := kept (entry.1,middle) (Dict.mem_of_lookup found)
    exact ⟨whole,there,each entry member around inside⟩

/-- One key or list element more, at any depth. -/
inductive Grows : Json → Json → Prop
  | item (before : List Json) (added : Json) (after : List Json) :
    Grows (.list (before ++ after)) (.list (before ++ added::after))
  | key (before : List (String × Json)) (key : String) (value : Json) (after : List (String × Json)) :
    Grows (.dict (before ++ after)) (.dict (before ++ (key,value)::after))
  | inItem {small big : Json} (before after : List Json) (grown : Grows small big) :
    Grows (.list (before ++ small::after)) (.list (before ++ big::after))
  | inKey {small big : Json} (before : List (String × Json)) (key : String) (after : List (String × Json))
    (grown : Grows small big) : Grows (.dict (before ++ (key,small)::after)) (.dict (before ++ (key,big)::after))

theorem list_contains {items needle : List Json} (each : ∀ item ∈ needle, item ∈ items ∨
    ∃ held ∈ items, dictContains held item = true) (distinct : (list items).distinct = true) :
    dictContains (.list items) (.list needle) = true := by
  refine contains_list.mpr ⟨items,rfl,fun item member => ?_⟩
  rcases each item member with same | held
  · exact ⟨item,same,contains_refl item (distinct_list.mp distinct item same)⟩
  · exact held

theorem dict_contains {entries needle : List (String × Json)} (each : ∀ entry ∈ needle, entry ∈ entries ∨
    ∃ found, (entry.1,found) ∈ entries ∧ dictContains found entry.2 = true) (distinct : (dict entries).distinct = true) :
    dictContains (.dict entries) (.dict needle) = true := by
  obtain ⟨keys,values⟩ := distinct_dict.mp distinct
  refine contains_dict.mpr ⟨entries,rfl,fun entry member => ?_⟩
  rcases each entry member with same | ⟨found,inside,held⟩
  · exact ⟨entry.2,Dict.lookup_of_mem keys same,contains_refl entry.2 (values entry same)⟩
  · exact ⟨found,Dict.lookup_of_mem keys inside,held⟩

theorem contains_of_grows {small big : Json} (grown : Grows small big) (distinct : big.distinct = true) :
    dictContains big small = true := by
  induction grown with
  | item before added after =>
    refine list_contains (fun item member => .inl ?_) distinct
    exact (List.sublist_cons_self added after).append_left before |>.subset member
  | key before key value after =>
    refine dict_contains (fun entry member => .inl ?_) distinct
    exact (List.sublist_cons_self (key,value) after).append_left before |>.subset member
  | @inItem small big before after grown ih =>
    have here : big ∈ before ++ big::after := List.mem_append_right _ List.mem_cons_self
    refine list_contains (fun item member => ?_) distinct
    rcases List.mem_append.mp member with earlier | later
    · exact .inl (List.mem_append_left _ earlier)
    · rcases List.mem_cons.mp later with rfl | later
      · exact .inr ⟨big,here,ih (distinct_list.mp distinct big here)⟩
      · exact .inl (List.mem_append_right _ (List.mem_cons_of_mem _ later))
  | @inKey small big before key after grown ih =>
    have here : (key,big) ∈ before ++ (key,big)::after := List.mem_append_right _ List.mem_cons_self
    refine dict_contains (fun entry member => ?_) distinct
    rcases List.mem_append.mp member with earlier | later
    · exact .inl (List.mem_append_left _ earlier)
    · rcases List.mem_cons.mp later with rfl | later
      · exact .inr ⟨big,here,ih ((distinct_dict.mp distinct).2 (key,big) here)⟩
      · exact .inl (List.mem_append_right _ (List.mem_cons_of_mem _ later))

end Json

/-- A JSON value as a program can hold it: no dict has a key twice. -/
structure Document where
  value : Json
  distinct : value.distinct = true

namespace Document

/-- The larger document contains the smaller one. -/
instance : Preorder Document where
  le small big := Json.dictContains big.value small.value = true
  le_refl document := Json.contains_refl document.value document.distinct
  le_trans _ _ _ head tail := Json.contains_trans tail head

theorem le_iff {small big : Document} : small ≤ big ↔ Json.dictContains big.value small.value = true := Iff.rfl

def Adds (small big : Document) : Prop := Json.Grows small.value big.value

theorem le_of_adds {small big : Document} (added : Relation.ReflTransGen Adds small big) : small ≤ big := by
  induction added with
  | refl => exact le_refl small
  | tail _ last ih => exact le_trans ih (Json.contains_of_grows last (Document.distinct _))

end Document

def JsonContainsOperator.evaluate (fieldValue conditionValue : Json) : Bool :=
  match fieldValue with
  | .null => false
  | fieldValue => Json.dictContains fieldValue conditionValue

def JsonContainedByOperator.evaluate (fieldValue conditionValue : Json) : Bool :=
  match fieldValue with
  | .null => false
  | fieldValue => Json.dictContains conditionValue fieldValue

theorem JsonContainedByOperator.evaluate_of_ne {fieldValue : Json} (present : fieldValue ≠ .null)
    (conditionValue : Json) : evaluate fieldValue conditionValue = Json.dictContains conditionValue fieldValue := by
  cases fieldValue with
  | null => exact absurd rfl present
  | bool _ | number _ | text _ | list _ | dict _ => exact rfl

theorem JsonContainedByOperator.converse (fieldValue conditionValue : Json) :
    evaluate fieldValue conditionValue = JsonContainsOperator.evaluate conditionValue fieldValue := by
  cases fieldValue with
  | null =>
    cases conditionValue with
    | null => exact rfl
    | bool _ | number _ | text _ | list _ | dict _ =>
      simp [evaluate,JsonContainsOperator.evaluate,Json.dictContains,Json.equals,Json.number?,Json.text?]
  | bool _ | number _ | text _ | list _ | dict _ =>
    cases conditionValue with
    | null =>
      simp [evaluate,JsonContainsOperator.evaluate,Json.dictContains,Json.equals,Json.number?]
    | bool _ | number _ | text _ | list _ | dict _ => exact rfl

def Json.child (key : String) : Json → Option Json
  | .dict entries => entries.lookup key
  | .null | .bool _ | .number _ | .text _ | .list _ => none

/-- The condition of this operator and of the next ones is taken as its `str`. -/
def JsonHasKeyOperator.evaluate (fieldValue : Json) (key : String) : Bool := (fieldValue.child key).isSome

def JsonHasAnyOperator.evaluate (fieldValue : Json) (keys : List String) : Bool :=
  match fieldValue with
  | .dict entries => keys.any fun key => (entries.lookup key).isSome
  | _ => false

def JsonHasAllOperator.evaluate (fieldValue : Json) (keys : List String) : Bool :=
  match fieldValue with
  | .dict entries => keys.all fun key => (entries.lookup key).isSome
  | _ => false

/-- The loop over the parts of the path, which passes over empty ones. -/
def Json.walk : List (List Char) → Json → Bool
  | [],_ => true
  | part::rest,current =>
    if part.isEmpty then walk rest current
    else (current.child (String.ofList part)).elim false (walk rest)

def JsonPathExistsOperator.evaluate (fieldValue : Json) (path : String) : Bool :=
  match fieldValue with
  | .null => false
  | fieldValue => fieldValue.walk (((path.toList.dropWhile (· = '$')).dropWhile (· = '.')).splitOn '.')

theorem Json.child_of_contains {haystack needle value : Json} {key : String}
    (held : dictContains haystack needle = true) (present : needle.child key = some value) :
    ∃ found, haystack.child key = some found ∧ dictContains found value = true := by
  cases needle with
  | dict needle =>
    obtain ⟨entries,rfl,each⟩ := contains_dict.mp held
    exact each (key,value) (Dict.mem_of_lookup present)
  | null | bool _ | number _ | text _ | list _ => cases present

theorem Json.walk_of_contains {parts : List (List Char)} {haystack needle : Json}
    (held : dictContains haystack needle = true) (walked : needle.walk parts = true) : haystack.walk parts = true := by
  induction parts generalizing haystack needle with
  | nil => exact rfl
  | cons part rest ih =>
    rw [walk] at walked ⊢
    by_cases empty : part.isEmpty = true
    · rw [if_pos empty] at walked ⊢
      exact ih held walked
    · rw [if_neg empty] at walked ⊢
      cases present : needle.child (String.ofList part) with
      | none =>
        rw [present] at walked
        cases walked
      | some value =>
        obtain ⟨found,there,inside⟩ := child_of_contains held present
        rw [present] at walked
        rw [there]
        exact ih inside walked

theorem JsonPathExistsOperator.mono {haystack needle : Json} (held : Json.dictContains haystack needle = true)
    {path : String} (there : evaluate needle path = true) : evaluate haystack path = true := by
  cases haystack with
  | null =>
    cases needle with
    | null => cases there
    | bool _ | number _ | text _ | list _ | dict _ => simp [Json.dictContains,Json.equals,Json.number?] at held
  | bool _ | number _ | text _ | list _ | dict _ =>
    cases needle with
    | null => cases there
    | bool _ | number _ | text _ | list _ | dict _ => exact Json.walk_of_contains held there

theorem JsonHasAllOperator.mono {haystack needle : Json} (held : Json.dictContains haystack needle = true)
    {keys : List String} (there : evaluate needle keys = true) : evaluate haystack keys = true := by
  cases needle with
  | dict needle =>
    obtain ⟨entries,rfl,each⟩ := Json.contains_dict.mp held
    refine List.all_eq_true.mpr fun key asked => ?_
    obtain ⟨value,present⟩ := Option.isSome_iff_exists.mp (List.all_eq_true.mp there key asked)
    obtain ⟨found,inside,_⟩ := each _ (Dict.mem_of_lookup present)
    exact Option.isSome_of_mem inside
  | null | bool _ | number _ | text _ | list _ => cases there

theorem containment_preorder :
    (∀ document : Document, Json.dictContains document.value document.value = true) ∧
      (∀ first second third : Document, Json.dictContains first.value second.value = true →
        Json.dictContains second.value third.value = true → Json.dictContains first.value third.value = true) ∧
      (∀ small big needle : Document, Relation.ReflTransGen Document.Adds small big →
        Json.dictContains small.value needle.value = true → Json.dictContains big.value needle.value = true) ∧
      (∀ field condition : Document, field.value ≠ .null →
        JsonContainedByOperator.evaluate field.value condition.value =
          Json.dictContains condition.value field.value) ∧
      (∀ condition : Document, JsonContainedByOperator.evaluate .null condition.value = false) ∧
      ∀ field condition : Document, JsonContainedByOperator.evaluate field.value condition.value =
        JsonContainsOperator.evaluate condition.value field.value := by
  refine ⟨fun document => ?reflexive,fun first second third head tail => ?transitive,
    fun small big needle added held => ?monotone,fun field condition present => ?contained,fun condition => rfl,
    fun field condition => JsonContainedByOperator.converse field.value condition.value⟩
  case reflexive => exact Document.le_iff.mp (le_refl document)
  case transitive =>
    have below : third ≤ second := tail
    exact Document.le_iff.mp (le_trans below head)
  case monotone =>
    have below : needle ≤ small := held
    exact Document.le_iff.mp (le_trans below (Document.le_of_adds added))
  case contained => exact JsonContainedByOperator.evaluate_of_ne present condition.value

/-- A null is contained in a null, and a field that is null is contained in nothing. -/
theorem null_not_contained : ¬ ∀ field condition : Document,
    JsonContainedByOperator.evaluate field.value condition.value = Json.dictContains condition.value field.value := by
  intro converse
  have contained : JsonContainedByOperator.evaluate .null .null = true := (converse ⟨.null,rfl⟩ ⟨.null,rfl⟩).trans rfl
  cases contained

end CqrsDdd.Specifications
