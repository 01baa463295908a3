import Mathlib.Data.List.Nodup

/-! Insertion-ordered dictionaries. Setting a key that is present keeps its
place; the keys of a dictionary are distinct by construction. -/
namespace CqrsDdd

structure Dict (Key Value : Type*) where
  entries : List (Key × Value)
  distinct : (entries.map Prod.fst).Nodup

namespace Dict
variable {Key Value : Type*} [DecidableEq Key]

omit [DecidableEq Key] in
@[ext] theorem ext {first second : Dict Key Value} (same : first.entries = second.entries) : first = second := by
  obtain ⟨entries,_⟩ := first
  obtain ⟨others,_⟩ := second
  cases same
  rfl

def put (key : Key) (value : Value) : List (Key × Value) → List (Key × Value)
  | [] => [(key,value)]
  | entry::rest => if entry.1 = key then (key,value)::rest else entry::put key value rest

theorem put_keys (key : Key) (value : Value) (entries : List (Key × Value)) :
    (put key value entries).map Prod.fst =
      if key ∈ entries.map Prod.fst then entries.map Prod.fst else entries.map Prod.fst ++ [key] := by
  induction entries with
  | nil => simp [put]
  | cons entry rest ih =>
    by_cases same : entry.1 = key
    · simp [put,same]
    · by_cases present : key ∈ rest.map Prod.fst
      · simp only [put,if_neg same,List.map_cons,ih,if_pos present]
        rw [if_pos (List.mem_cons_of_mem _ present)]
      · simp only [put,if_neg same,List.map_cons,ih,if_neg present]
        rw [if_neg (by simpa [Ne.symm same] using present)]
        rfl

theorem put_distinct (key : Key) (value : Value) (entries : List (Key × Value))
    (distinct : (entries.map Prod.fst).Nodup) : ((put key value entries).map Prod.fst).Nodup := by
  rw [put_keys]
  split
  next => exact distinct
  next fresh => exact List.Nodup.append distinct (List.nodup_singleton _) (by simpa using fresh)

def empty : Dict Key Value := ⟨[],List.nodup_nil⟩

def set (dict : Dict Key Value) (key : Key) (value : Value) : Dict Key Value :=
  ⟨put key value dict.entries,put_distinct key value dict.entries dict.distinct⟩

def get (dict : Dict Key Value) (key : Key) : Option Value := dict.entries.lookup key

/-- `dict.update`. -/
def update (dict others : Dict Key Value) : Dict Key Value :=
  others.entries.foldl (fun updated entry => updated.set entry.1 entry.2) dict

def erase (dict : Dict Key Value) (key : Key) : Dict Key Value :=
  ⟨dict.entries.filter fun entry => entry.1 ≠ key,dict.distinct.sublist (List.filter_sublist.map Prod.fst)⟩

/-- The entries whose value is kept, in their order. -/
def filter (dict : Dict Key Value) (keep : Value → Bool) : Dict Key Value :=
  ⟨dict.entries.filter fun entry => keep entry.2,dict.distinct.sublist (List.filter_sublist.map Prod.fst)⟩

def keys (dict : Dict Key Value) : List Key := dict.entries.map Prod.fst

def values (dict : Dict Key Value) : List Value := dict.entries.map Prod.snd

theorem lookup_put (key other : Key) (value : Value) (entries : List (Key × Value)) :
    (put key value entries).lookup other = if other = key then some value else entries.lookup other := by
  induction entries with
  | nil =>
    by_cases same : other = key
    · simp [put,same]
    · simp [put,List.lookup_cons,same,beq_false_of_ne same]
  | cons entry rest ih =>
    obtain ⟨first,old⟩ := entry
    by_cases hit : first = key
    · by_cases same : other = key
      · simp [put,hit,same]
      · simp [put,hit,List.lookup_cons,same,beq_false_of_ne same]
    · by_cases same : other = first
      · subst same
        simp [put,hit]
      · simp [put,hit,List.lookup_cons,beq_false_of_ne same,ih]

theorem get_set (dict : Dict Key Value) (key other : Key) (value : Value) :
    (dict.set key value).get other = if other = key then some value else dict.get other :=
  lookup_put key other value dict.entries

@[simp] theorem get_empty (key : Key) : (empty : Dict Key Value).get key = none := rfl

@[simp] theorem get_set_same (dict : Dict Key Value) (key : Key) (value : Value) :
    (dict.set key value).get key = some value := by
  rw [get_set,if_pos rfl]

theorem get_foldl_set {keyOf : Value → Key} {values : List Value} {dict : Dict Key Value} {key : Key} {value : Value}
    (found : (values.foldl (fun dict value => dict.set (keyOf value) value) dict).get key = some value) :
    (value ∈ values ∧ keyOf value = key) ∨ dict.get key = some value := by
  induction values generalizing dict with
  | nil => exact .inr found
  | cons first rest ih =>
    rcases ih found with ⟨member,same⟩ | earlier
    · exact .inl ⟨List.mem_cons_of_mem first member,same⟩
    · rw [get_set] at earlier
      split at earlier
      next same =>
        cases earlier
        exact .inl ⟨List.mem_cons_self,same.symm⟩
      next => exact .inr earlier

theorem get_foldl_entries (entries : List (Key × Value)) (dict : Dict Key Value) (key : Key) :
    (entries.foldl (fun dict entry => dict.set entry.1 entry.2) dict).get key =
      (entries.reverse.lookup key).or (dict.get key) := by
  induction entries generalizing dict with
  | nil => exact rfl
  | cons entry rest ih =>
    obtain ⟨first,value⟩ := entry
    rw [List.foldl_cons,ih,List.reverse_cons,List.lookup_append,Option.or_assoc,get_set]
    refine congrArg (Option.or _) ?_
    by_cases same : key = first
    · simp [same]
    · simp [List.lookup_cons,beq_false_of_ne same,same]

theorem lookup_map {Other : Type*} (entries : List (Key × Value)) (make : Value → Other) (key : Key) :
    (entries.map fun entry => (entry.1,make entry.2)).lookup key = (entries.lookup key).map make := by
  induction entries with
  | nil => exact rfl
  | cons entry rest ih =>
    rw [List.map_cons,List.lookup_cons,List.lookup_cons,ih]
    cases key == entry.1 with
    | true => exact rfl
    | false => exact rfl

theorem get_set_other (dict : Dict Key Value) {key other : Key} (value : Value) (differs : other ≠ key) :
    (dict.set key value).get other = dict.get other := by
  rw [get_set,if_neg differs]

theorem lookup_erase (entries : List (Key × Value)) {key other : Key} (differs : other ≠ key) :
    (entries.filter fun entry => entry.1 ≠ key).lookup other = entries.lookup other := by
  induction entries with
  | nil => rfl
  | cons entry rest ih =>
    obtain ⟨first,stored⟩ := entry
    by_cases same : first = key
    · subst same
      simpa [List.lookup_cons,beq_false_of_ne differs] using ih
    · rw [List.filter_cons_of_pos (by simpa using same),List.lookup_cons,List.lookup_cons,ih]

theorem get_erase_other (dict : Dict Key Value) {key other : Key} (differs : other ≠ key) :
    (dict.erase key).get other = dict.get other :=
  lookup_erase dict.entries differs

theorem lookup_of_mem {entries : List (Key × Value)} (distinct : (entries.map Prod.fst).Nodup) {key : Key}
    {value : Value} (member : (key,value) ∈ entries) : entries.lookup key = some value := by
  induction entries with
  | nil => simp at member
  | cons entry rest ih =>
    obtain ⟨fresh,tail⟩ := List.nodup_cons.mp distinct
    rcases List.mem_cons.mp member with here | later
    · subst here
      simp
    · have differs : key ≠ entry.1 := fun same => fresh (same ▸ List.mem_map_of_mem later)
      obtain ⟨other,stored⟩ := entry
      simp [List.lookup_cons,beq_false_of_ne differs,ih tail later]

theorem mem_of_lookup {entries : List (Key × Value)} {key : Key} {value : Value}
    (found : entries.lookup key = some value) : (key,value) ∈ entries := by
  induction entries with
  | nil => cases found
  | cons entry rest ih =>
    obtain ⟨other,stored⟩ := entry
    by_cases same : key = other
    · subst same
      obtain rfl : stored = value := by simpa using found
      exact List.mem_cons_self
    · rw [List.lookup_cons,beq_false_of_ne same] at found
      exact List.mem_cons_of_mem _ (ih found)

theorem get_of_mem_values (dict : Dict Key Value) {value : Value} (member : value ∈ dict.values) :
    ∃ key, dict.get key = some value := by
  obtain ⟨⟨key,stored⟩,present,rfl⟩ := List.mem_map.mp member
  exact ⟨key,lookup_of_mem dict.distinct present⟩

theorem mem_iff_get (dict : Dict Key Value) {key : Key} {value : Value} :
    (key,value) ∈ dict.entries ↔ dict.get key = some value :=
  ⟨fun member => lookup_of_mem dict.distinct member,fun found => mem_of_lookup found⟩

theorem get_of_get_erase (dict : Dict Key Value) {key other : Key} {value : Value}
    (found : (dict.erase key).get other = some value) : dict.get other = some value :=
  dict.mem_iff_get.mp (List.mem_filter.mp ((dict.erase key).mem_iff_get.mpr found)).1

theorem get_erase_same (dict : Dict Key Value) (key : Key) : (dict.erase key).get key = none := by
  cases found : (dict.erase key).get key with
  | none => rfl
  | some value => exact absurd rfl (of_decide_eq_true (List.mem_filter.mp ((dict.erase key).mem_iff_get.mpr found)).2)

theorem get_update_other (dict others : Dict Key Value) {key : Key} (absent : others.get key = none) :
    (dict.update others).get key = dict.get key := by
  have differs : ∀ entry ∈ others.entries, key ≠ entry.1 := by
    intro entry member same
    rw [same,(mem_iff_get others).mp member] at absent
    cases absent
  unfold update
  generalize others.entries = entries at differs ⊢
  induction entries generalizing dict with
  | nil => rfl
  | cons entry rest ih =>
    have later := ih (dict.set entry.1 entry.2) fun other member => differs other (List.mem_cons_of_mem entry member)
    rw [List.foldl_cons,later]
    exact get_set_other dict entry.2 (differs entry List.mem_cons_self)

theorem put_of_lookup {entries : List (Key × Value)} {key : Key} {value : Value}
    (found : entries.lookup key = some value) : put key value entries = entries := by
  induction entries with
  | nil => cases found
  | cons entry rest ih =>
    obtain ⟨first,stored⟩ := entry
    by_cases same : first = key
    · subst same
      rw [List.lookup_cons,beq_self_eq_true] at found
      rw [put,if_pos rfl,Option.some.inj found]
    · rw [List.lookup_cons,beq_false_of_ne (Ne.symm same)] at found
      rw [put,if_neg same,ih found]

theorem set_of_get {dict : Dict Key Value} {key : Key} {value : Value} (found : dict.get key = some value) :
    dict.set key value = dict := Dict.ext (put_of_lookup found)

theorem all_iff_get (dict : Dict Key Value) (test : Key × Value → Bool) :
    dict.entries.all test = true ↔ ∀ key value, dict.get key = some value → test (key,value) = true := by
  rw [List.all_eq_true]
  exact ⟨fun all key value found => all (key,value) (dict.mem_iff_get.mpr found),
    fun all entry member => all entry.1 entry.2 (dict.mem_iff_get.mp member)⟩

theorem all_set {dict : Dict Key Value} {key : Key} {value : Value} (test : Key × Value → Bool)
    (fits : ∀ old, dict.get key = some old → old = value) :
    (dict.set key value).entries.all test = (dict.entries.all test && test (key,value)) := by
  rw [Bool.eq_iff_iff,Bool.and_eq_true,all_iff_get,all_iff_get]
  constructor
  · intro all
    refine ⟨fun other stored found => all other stored ?_,all key value (get_set_same dict key value)⟩
    rw [get_set]
    split
    next same =>
      subst same
      exact congrArg some (fits stored found).symm
    next => exact found
  · rintro ⟨all,last⟩ other stored found
    rw [get_set] at found
    split at found
    next same =>
      subst same
      exact Option.some.inj found ▸ last
    next => exact all other stored found

theorem find_put {key : Key} {value : Value} {wanted : Value → Bool} (hits : wanted value = true)
    {entries : List (Key × Value)} (first : ∀ old, (entries.map Prod.snd).find? wanted = some old →
      ∀ entry ∈ entries, entry.2 = old → entry.1 = key) :
    ((put key value entries).map Prod.snd).find? wanted = some value := by
  induction entries with
  | nil => exact List.find?_cons_of_pos hits
  | cons entry rest ih =>
    by_cases same : entry.1 = key
    · rw [put,if_pos same]
      exact List.find?_cons_of_pos hits
    · have skipped : ¬wanted entry.2 = true := fun found =>
        same (first entry.2 (List.find?_cons_of_pos found) entry List.mem_cons_self rfl)
      rw [put,if_neg same,List.map_cons,List.find?_cons_of_neg skipped]
      apply ih
      intro old found other member
      exact first old ((List.find?_cons_of_neg skipped).trans found) other (List.mem_cons_of_mem entry member)

theorem get_filter (dict : Dict Key Value) (keep : Value → Bool) (key : Key) :
    (dict.filter keep).get key = (dict.get key).filter keep := by
  cases found : (dict.filter keep).get key with
  | some value =>
    obtain ⟨member,kept⟩ := List.mem_filter.mp ((dict.filter keep).mem_iff_get.mpr found)
    rw [dict.mem_iff_get.mp member,Option.filter_some,if_pos kept]
  | none =>
    cases stored : dict.get key with
    | none => rfl
    | some value =>
      cases kept : keep value with
      | false => rw [Option.filter_some,kept,if_neg Bool.false_ne_true]
      | true =>
        have member : (key,value) ∈ (dict.filter keep).entries :=
          List.mem_filter.mpr ⟨dict.mem_iff_get.mpr stored,kept⟩
        rw [(dict.filter keep).mem_iff_get.mp member] at found
        cases found

theorem put_filter_kept {key : Key} {value : Value} {keep : Value → Bool} (kept : keep value = true)
    {entries : List (Key × Value)} (old : ∀ entry ∈ entries, entry.1 = key → keep entry.2 = true) :
    (put key value entries).filter (fun entry => keep entry.2) =
      put key value (entries.filter fun entry => keep entry.2) := by
  induction entries with
  | nil => simp [put,kept]
  | cons entry rest ih =>
    have later := ih fun other member => old other (List.mem_cons_of_mem entry member)
    by_cases same : entry.1 = key
    · simp [put,same,kept,old entry List.mem_cons_self same]
    · rw [put,if_neg same]
      cases stays : keep entry.2 with
      | true => simp only [List.filter_cons,stays,later,if_true,put,if_neg same]
      | false => simp only [List.filter_cons,stays,later,Bool.false_eq_true,if_false]

theorem put_filter_dropped {key : Key} {value : Value} {keep : Value → Bool} (dropped : keep value = false)
    {entries : List (Key × Value)} (old : ∀ entry ∈ entries, entry.1 = key → keep entry.2 = false) :
    (put key value entries).filter (fun entry => keep entry.2) = entries.filter fun entry => keep entry.2 := by
  induction entries with
  | nil => simp [put,dropped]
  | cons entry rest ih =>
    have later := ih fun other member => old other (List.mem_cons_of_mem entry member)
    by_cases same : entry.1 = key
    · simp [put,same,dropped,old entry List.mem_cons_self same]
    · rw [put,if_neg same,List.filter_cons,List.filter_cons,later]

theorem filter_set_kept (dict : Dict Key Value) {key : Key} {value : Value} {keep : Value → Bool}
    (kept : keep value = true) (old : ∀ stored, dict.get key = some stored → keep stored = true) :
    (dict.set key value).filter keep = (dict.filter keep).set key value :=
  Dict.ext (put_filter_kept kept fun entry member same => old entry.2 (same ▸ dict.mem_iff_get.mp member))

theorem filter_set_dropped (dict : Dict Key Value) {key : Key} {value : Value} {keep : Value → Bool}
    (dropped : keep value = false) (old : ∀ stored, dict.get key = some stored → keep stored = false) :
    (dict.set key value).filter keep = dict.filter keep :=
  Dict.ext (put_filter_dropped dropped fun entry member same => old entry.2 (same ▸ dict.mem_iff_get.mp member))

theorem filter_erase (dict : Dict Key Value) (key : Key) (keep : Value → Bool) :
    (dict.erase key).filter keep = (dict.filter keep).erase key := by
  apply Dict.ext
  simp only [erase,filter,List.filter_filter,Bool.and_comm]

theorem filter_erase_dropped (dict : Dict Key Value) {key : Key} {keep : Value → Bool}
    (old : ∀ stored, dict.get key = some stored → keep stored = false) :
    (dict.erase key).filter keep = dict.filter keep := by
  apply Dict.ext
  simp only [erase,filter,List.filter_filter]
  refine List.filter_congr fun entry member => ?_
  by_cases same : entry.1 = key
  · rw [old entry.2 (same ▸ dict.mem_iff_get.mp member),Bool.false_and]
  · simp [same]

end Dict

end CqrsDdd
