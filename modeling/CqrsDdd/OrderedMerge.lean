import CqrsDdd.Dict

/-! Merging dictionaries in insertion order. An entry of the second dictionary is combined with
the entry of its key in the first, in that entry's place, or put at the end. What holds of
the combination of two values under one key, holds of merging. -/
namespace CqrsDdd.OrderedMerge

variable {Key Value : Type*} [DecidableEq Key]

/-- A value, combined with the earlier one where there is one. -/
def combined (combine : Value → Value → Value) (earlier : Option Value) (value : Value) : Value :=
  match earlier with
  | some old => combine old value
  | none => value

/-- `List.lookup`, with the equality of the keys that everything here is about. -/
abbrev stored (entries : List (Key × Value)) (key : Key) : Option Value := entries.lookup key

def upsert (combine : Value → Value → Value) (entries : List (Key × Value)) (entry : Key × Value) : List (Key × Value) :=
  Dict.put entry.1 (combined combine (stored entries entry.1) entry.2) entries

def merged (combine : Value → Value → Value) (first second : List (Key × Value)) : List (Key × Value) :=
  second.foldl (upsert combine) first

def Distinct (entries : List (Key × Value)) : Prop := (entries.map Prod.fst).Nodup

variable {combine : Value → Value → Value} {first second third : List (Key × Value)}

omit [DecidableEq Key] in
theorem distinct_cons {entry : Key × Value} {rest : List (Key × Value)} :
    Distinct (entry::rest) ↔ entry.1 ∉ rest.map Prod.fst ∧ Distinct rest :=
  List.nodup_cons

theorem lookup_absent {entries : List (Key × Value)} {key : Key} (absent : key ∉ entries.map Prod.fst) :
    entries.lookup key = none :=
  List.lookup_eq_none_iff.mpr fun entry member => by
    simpa using fun same : key = entry.1 => absent (same ▸ List.mem_map_of_mem member)

theorem lookup_eq_iff {entries : List (Key × Value)} (distinct : Distinct entries) {key : Key} {value : Value} :
    entries.lookup key = some value ↔ (key,value) ∈ entries :=
  ⟨Dict.mem_of_lookup,Dict.lookup_of_mem distinct⟩

theorem entries_ext {entries others : List (Key × Value)} (distinct : Distinct entries)
    (order : entries.map Prod.fst = others.map Prod.fst)
    (values : ∀ key, entries.lookup key = others.lookup key) : entries = others := by
  induction entries generalizing others with
  | nil => exact (List.map_eq_nil_iff.mp order.symm).symm
  | cons entry rest ih =>
    cases others with
    | nil => cases order
    | cons other others =>
      obtain ⟨key,value⟩ := entry
      obtain ⟨otherKey,otherValue⟩ := other
      obtain ⟨rfl,tails⟩ := List.cons.inj order
      obtain ⟨fresh,distinct⟩ := distinct_cons.mp distinct
      have here : some value = some otherValue := by simpa using values key
      cases here
      refine congrArg _ (ih distinct tails fun sought => ?_)
      have there := values sought
      by_cases same : sought = key
      · subst same
        have absent : sought ∉ others.map Prod.fst := fun member => fresh (tails ▸ member)
        rw [lookup_absent fresh,lookup_absent absent]
      · simpa [List.lookup_cons,beq_false_of_ne same] using there

theorem upsert_keys (entries : List (Key × Value)) (entry : Key × Value) :
    (upsert combine entries entry).map Prod.fst =
      if entry.1 ∈ entries.map Prod.fst then entries.map Prod.fst else entries.map Prod.fst ++ [entry.1] :=
  Dict.put_keys _ _ _

theorem lookup_upsert (entries : List (Key × Value)) (entry : Key × Value) (key : Key) :
    (upsert combine entries entry).lookup key =
      if key = entry.1 then some (combined combine (entries.lookup entry.1) entry.2) else entries.lookup key :=
  Dict.lookup_put _ _ _ _

theorem merged_keys (distinct : Distinct second) :
    (merged combine first second).map Prod.fst =
      first.map Prod.fst ++ (second.map Prod.fst).filter fun key => key ∉ first.map Prod.fst := by
  induction second generalizing first with
  | nil => simp [merged]
  | cons entry rest ih =>
    obtain ⟨fresh,distinct⟩ := distinct_cons.mp distinct
    change (merged combine (upsert combine first entry) rest).map Prod.fst = _
    rw [ih distinct,upsert_keys,List.map_cons]
    by_cases present : entry.1 ∈ first.map Prod.fst
    · rw [if_pos present,List.filter_cons_of_neg (by simpa using present)]
    · rw [if_neg present,List.filter_cons_of_pos (by simpa using present),List.append_assoc]
      refine congrArg (first.map Prod.fst ++ entry.1::·) (List.filter_congr fun key member => ?_)
      have other : key ≠ entry.1 := fun same => fresh (same ▸ member)
      simp [other]

theorem mem_merged_keys (distinct : Distinct second) {key : Key} :
    key ∈ (merged combine first second).map Prod.fst ↔ key ∈ first.map Prod.fst ∨ key ∈ second.map Prod.fst := by
  rw [merged_keys distinct,List.mem_append,List.mem_filter,decide_eq_true_iff]
  tauto

theorem merged_distinct (distinct : Distinct first) (others : Distinct second) : Distinct (merged combine first second) := by
  unfold Distinct
  rw [merged_keys others]
  refine List.Nodup.append distinct (others.filter _) fun key member filtered => ?_
  exact of_decide_eq_true (List.mem_filter.mp filtered).2 member

theorem lookup_merged (distinct : Distinct second) (key : Key) :
    (merged combine first second).lookup key =
      match second.lookup key with
      | some value => some (combined combine (first.lookup key) value)
      | none => first.lookup key := by
  induction second generalizing first with
  | nil => exact rfl
  | cons entry rest ih =>
    obtain ⟨fresh,distinct⟩ := distinct_cons.mp distinct
    change (merged combine (upsert combine first entry) rest).lookup key = _
    rw [ih distinct,lookup_upsert]
    by_cases same : key = entry.1
    · subst same
      rw [lookup_absent fresh,if_pos rfl,List.lookup_cons,beq_self_eq_true]
    · rw [if_neg same,List.lookup_cons,beq_false_of_ne same]

/-- A value of the merged dictionary is from one of the two or combined from both. -/
theorem lookup_merged_cases (distinct : Distinct second) {key : Key} {value : Value}
    (found : (merged combine first second).lookup key = some value) :
    (first.lookup key = some value ∧ second.lookup key = none) ∨
    (first.lookup key = none ∧ second.lookup key = some value) ∨
    ∃ old new, first.lookup key = some old ∧ second.lookup key = some new ∧ value = combine old new := by
  rw [lookup_merged distinct] at found
  cases later : second.lookup key with
  | none =>
    rw [later] at found
    exact .inl ⟨found,rfl⟩
  | some new =>
    rw [later] at found
    cases earlier : first.lookup key with
    | none =>
      rw [earlier] at found
      cases found
      exact .inr (.inl ⟨rfl,rfl⟩)
    | some old =>
      rw [earlier] at found
      cases found
      exact .inr (.inr ⟨old,new,rfl,rfl,rfl⟩)

theorem keys_within_merged (within : ∀ key ∈ second.map Prod.fst, key ∈ first.map Prod.fst) (distinct : Distinct second) :
    (merged combine first second).map Prod.fst = first.map Prod.fst := by
  have nothing : ((second.map Prod.fst).filter fun key => key ∉ first.map Prod.fst) = [] :=
    List.filter_eq_nil_iff.mpr fun key member => by simpa using within key member
  rw [merged_keys distinct,nothing,List.append_nil]

theorem merged_self (distinct : Distinct first) (same : ∀ entry ∈ first, combine entry.2 entry.2 = entry.2) :
    merged combine first first = first := by
  refine entries_ext (merged_distinct distinct distinct) (keys_within_merged (fun _ member => member) distinct) fun key => ?_
  rw [lookup_merged distinct]
  cases found : first.lookup key with
  | none => exact rfl
  | some value => exact congrArg some (same (key,value) (Dict.mem_of_lookup found))

theorem merged_again (distinct : Distinct first) (others : Distinct second)
    (again : ∀ key old new, first.lookup key = some old → second.lookup key = some new →
      combine (combine old new) new = combine old new)
    (same : ∀ entry ∈ second, combine entry.2 entry.2 = entry.2) :
    merged combine (merged combine first second) second = merged combine first second := by
  have once : Distinct (merged combine first second) := merged_distinct distinct others
  have within : ∀ key ∈ second.map Prod.fst, key ∈ (merged combine first second).map Prod.fst :=
    fun key member => (mem_merged_keys others).mpr (.inr member)
  refine entries_ext (merged_distinct once others) (keys_within_merged within others) fun key => ?_
  rw [lookup_merged others,lookup_merged others]
  cases later : second.lookup key with
  | none => exact rfl
  | some new =>
    cases earlier : first.lookup key with
    | none => exact congrArg some (same (key,new) (Dict.mem_of_lookup later))
    | some old => exact congrArg some (again key old new earlier later)

theorem merged_assoc (distinct : Distinct first) (others : Distinct second) (last : Distinct third)
    (assoc : ∀ key one two three, first.lookup key = some one → second.lookup key = some two →
      third.lookup key = some three → combine (combine one two) three = combine one (combine two three)) :
    merged combine (merged combine first second) third = merged combine first (merged combine second third) := by
  have left : Distinct (merged combine first second) := merged_distinct distinct others
  have right : Distinct (merged combine second third) := merged_distinct others last
  refine entries_ext (merged_distinct left last) ?_ fun key => ?_
  · rw [merged_keys last,merged_keys others,merged_keys right,merged_keys last,List.filter_append,List.append_assoc,
      List.filter_filter]
    refine congrArg (fun keys => first.map Prod.fst ++ (List.filter _ (second.map Prod.fst) ++ keys))
      (List.filter_congr fun key member => ?_)
    by_cases one : key ∈ first.map Prod.fst
    · simp [one]
    · by_cases two : key ∈ second.map Prod.fst
      · simp [one,two]
      · simp [one,two]
  · rw [lookup_merged last,lookup_merged others,lookup_merged right,lookup_merged last]
    cases three : third.lookup key with
    | none => exact rfl
    | some z =>
      cases two : second.lookup key with
      | none => exact rfl
      | some y =>
        cases one : first.lookup key with
        | none => exact rfl
        | some x => exact congrArg some (assoc key x y z one two three)

theorem mem_put {key : Key} {value : Value} {entries : List (Key × Value)} {entry : Key × Value}
    (member : entry ∈ Dict.put key value entries) : entry = (key,value) ∨ entry ∈ entries := by
  induction entries with
  | nil => exact .inl (List.mem_singleton.mp member)
  | cons first rest ih =>
    rw [Dict.put] at member
    split at member
    next =>
      rcases List.mem_cons.mp member with here | later
      · exact .inl here
      · exact .inr (List.mem_cons_of_mem _ later)
    next =>
      rcases List.mem_cons.mp member with here | later
      · exact .inr (here ▸ List.mem_cons_self)
      · exact (ih later).imp id (List.mem_cons_of_mem _)

theorem merged_values {property : Value → Prop} (firsts : ∀ entry ∈ first, property entry.2)
    (seconds : ∀ entry ∈ second, property entry.2)
    (combines : ∀ old, property old → ∀ entry ∈ second, property (combine old entry.2)) :
    ∀ entry ∈ merged combine first second, property entry.2 := by
  induction second generalizing first with
  | nil => exact firsts
  | cons new rest ih =>
    refine ih (fun entry member => ?_) (fun entry member => seconds entry (List.mem_cons_of_mem _ member))
      fun old holds entry member => combines old holds entry (List.mem_cons_of_mem _ member)
    rcases mem_put member with same | before
    · rw [same]
      dsimp only
      cases found : stored first new.1 with
      | none => exact seconds new List.mem_cons_self
      | some old => exact combines old (firsts _ (Dict.mem_of_lookup found)) new List.mem_cons_self
    · exact firsts entry before

section Mapped

variable {Other Stored : Type*} [DecidableEq Other] {name : Key → Other} (make : Value → Stored)

theorem lookup_mapped (injective : Function.Injective name) (entries : List (Key × Value)) (key : Key) :
    (entries.map (Prod.map name make)).lookup (name key) = (entries.lookup key).map make := by
  induction entries with
  | nil => exact rfl
  | cons entry rest ih =>
    obtain ⟨first,value⟩ := entry
    rw [List.map_cons,Prod.map_apply,List.lookup_cons,List.lookup_cons,ih]
    by_cases same : key = first
    · rw [same,beq_self_eq_true,beq_self_eq_true,Option.map_some]
    · rw [beq_false_of_ne same,beq_false_of_ne fun other => same (injective other)]

theorem put_mapped (injective : Function.Injective name) (key : Key) (value : Value) (entries : List (Key × Value)) :
    (Dict.put key value entries).map (Prod.map name make) =
      Dict.put (name key) (make value) (entries.map (Prod.map name make)) := by
  induction entries with
  | nil => exact rfl
  | cons entry rest ih =>
    obtain ⟨first,old⟩ := entry
    rw [List.map_cons,Prod.map_apply,Dict.put,Dict.put]
    by_cases same : first = key
    · rw [if_pos same,if_pos (congrArg name same),List.map_cons,Prod.map_apply]
    · rw [if_neg same,if_neg fun other => same (injective other),List.map_cons,Prod.map_apply,ih]

end Mapped

/-- Entries put into an empty dictionary, a later one over an earlier one of its key. -/
theorem merged_empty {entries : List (Key × Value)} (distinct : Distinct entries) :
    merged (fun _ new => new) [] entries = entries := by
  have keys : (merged (fun _ new => new) [] entries).map Prod.fst = entries.map Prod.fst := by
    rw [merged_keys distinct]
    simp
  refine entries_ext (merged_distinct List.nodup_nil distinct) keys fun key => ?_
  rw [lookup_merged distinct]
  cases entries.lookup key with
  | none => exact rfl
  | some value => exact rfl

section Keyed

def keyed (keyOf : Value → Key) (values : List Value) : List (Key × Value) := values.map fun value => (keyOf value,value)

variable {keyOf : Value → Key}

omit [DecidableEq Key] in
theorem keyed_values (values : List Value) : (keyed keyOf values).map Prod.snd = values := by
  unfold keyed
  rw [List.map_map]
  exact List.map_id values

omit [DecidableEq Key] in
theorem keyed_keys (values : List Value) : (keyed keyOf values).map Prod.fst = values.map keyOf := by
  simp [keyed]

omit [DecidableEq Key] in
theorem keyed_of_values {entries : List (Key × Value)} (own : ∀ entry ∈ entries, entry.1 = keyOf entry.2) :
    keyed keyOf (entries.map Prod.snd) = entries := by
  unfold keyed
  rw [List.map_map]
  have same : ∀ entry ∈ entries, ((fun value => (keyOf value,value)) ∘ Prod.snd) entry = id entry :=
    fun entry member => Prod.ext (own entry member).symm rfl
  rw [List.map_congr_left same,List.map_id]

theorem mem_keyed {values : List Value} {key : Key} {value : Value}
    (found : (keyed keyOf values).lookup key = some value) : value ∈ values ∧ keyOf value = key := by
  obtain ⟨other,member,same⟩ := List.mem_map.mp (Dict.mem_of_lookup found)
  cases same
  exact ⟨member,rfl⟩

/-- Values that keep their key when they are combined are found under it after merging. -/
theorem keyed_merged {values others : List Value} (distinct : (values.map keyOf).Nodup) (others_distinct : (others.map keyOf).Nodup)
    (keeps : ∀ old ∈ values, ∀ new ∈ others, keyOf old = keyOf new → keyOf (combine old new) = keyOf new) :
    keyed keyOf ((merged combine (keyed keyOf values) (keyed keyOf others)).map Prod.snd) =
      merged combine (keyed keyOf values) (keyed keyOf others) := by
  have firsts : Distinct (keyed keyOf values) := by
    unfold Distinct
    rwa [keyed_keys]
  have seconds : Distinct (keyed keyOf others) := by
    unfold Distinct
    rwa [keyed_keys]
  refine keyed_of_values fun entry member => ?_
  have found := (lookup_eq_iff (merged_distinct firsts seconds)).mpr member
  rcases lookup_merged_cases seconds found with ⟨earlier,_⟩ | ⟨_,later⟩ | ⟨old,new,earlier,later,combined⟩
  · exact (mem_keyed earlier).2.symm
  · exact (mem_keyed later).2.symm
  · obtain ⟨oldMember,oldKey⟩ := mem_keyed earlier
    obtain ⟨newMember,newKey⟩ := mem_keyed later
    rw [combined,keeps old oldMember new newMember (oldKey.trans newKey.symm),newKey]

end Keyed

end CqrsDdd.OrderedMerge
