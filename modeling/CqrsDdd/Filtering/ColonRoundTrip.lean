import CqrsDdd.Attempts
import CqrsDdd.Filtering.Syntaxes
import CqrsDdd.Trimming

/-! Clauses written as `field:op:value`, joined by commas and read again. The splitter
takes a comma segment with two colons for a new clause and drops the blank ones, so the
clauses come back as long as the elements of their lists are neither. -/
namespace CqrsDdd.Filtering.ColonSeparatedSyntax

open Specifications Trimming

variable {Object : Type}

/-- What the clauses rely on: `strip` trims blanks, which commas and colons are not, `lower`
keeps commas, and a text is a number or raises `ValueError`. -/
structure Documented (runtime : Runtime Object) (blank : Char → Bool) : Prop where
  colon : blank ':' = false
  comma : blank ',' = false
  strip : ∀ text, runtime.strip text = String.ofList (trim blank text.toList)
  lower : ∀ text, ',' ∈ text.toList → ',' ∈ (runtime.lower text).toList
  int : ∀ text, runtime.int (.text text) = .error .valueError ∨ ∃ number, runtime.int (.text text) = .ok number
  float : ∀ text, runtime.float text = .error .valueError ∨ ∃ thing, runtime.float text = .ok (.object thing)

def listOps : List String := ["in","not_in","between","not_between"]

/-- Field and operator are free of the separators; only the operators that take a list have a value with commas. -/
structure Clause (runtime : Runtime Object) where
  field : String
  op : String
  value : String
  named : field ≠ "" ∧ op ≠ ""
  plainField : ':' ∉ field.toList ∧ ',' ∉ field.toList
  plainOp : ':' ∉ op.toList ∧ ',' ∉ op.toList
  single : unalias (runtime.lower (runtime.strip op)) ∉ listOps → ',' ∉ value.toList

namespace Clause

variable {runtime : Runtime Object}

def operator (clause : Clause runtime) : String := unalias (runtime.lower (runtime.strip clause.op))

def render (clause : Clause runtime) : String := clause.field ++ ":" ++ clause.op ++ ":" ++ clause.value

/-- The clause with its alias resolved and a value text parsed on its own, all without the blanks around them. -/
def reading (clause : Clause runtime) (value : String) : Except Failure (Value Object) := do
  let val ← parseValue runtime (runtime.strip value) clause.operator
  return .dict [("op",.text clause.operator),("attr",.text (runtime.strip clause.field)),("val",val)]

def parsed (clause : Clause runtime) : Except Failure (Value Object) := clause.reading clause.value

/-- No element after the first is blank or looks like a clause. -/
def ElementsKept (clause : Clause runtime) : Prop :=
  ∀ element ∈ (splitOn ',' clause.value).tail, runtime.strip element ≠ "" ∧ element.toList.count ':' < 2

instance (clause : Clause runtime) : Decidable clause.ElementsKept :=
  inferInstanceAs (Decidable (∀ element ∈ (splitOn ',' clause.value).tail,
    runtime.strip element ≠ "" ∧ element.toList.count ':' < 2))

end Clause

def render {runtime : Runtime Object} (clauses : List (Clause runtime)) : String := ",".intercalate (clauses.map Clause.render)

def conjunction : List (Value Object) → Value Object
  | [] => .dict []
  | [clause] => clause
  | clauses => .dict [("op",.text SpecificationOperator.and.value),("conditions",.list clauses)]

theorem parseFilter_eq (runtime : Runtime Object) (raw : String) : parseFilter runtime (.text raw) =
    conjunction <$> (((smartSplit runtime raw).map runtime.strip).filter (· ≠ "")).mapM (parseClause runtime) := by
  unfold parseFilter
  dsimp only
  cases (((smartSplit runtime raw).map runtime.strip).filter (· ≠ "")).mapM (parseClause runtime) with
  | error failure => rfl
  | ok clauses =>
    cases clauses with
    | nil => rfl
    | cons first rest =>
      cases rest with
      | nil => rfl
      | cons second others => rfl

theorem addSegment_append (clauses : List String) {last : List String} (some : last ≠ []) (segment : String) :
    addSegment (clauses ++ last) segment = clauses ++ addSegment last segment := by
  unfold addSegment
  split
  next => rfl
  next =>
    split
    next => rw [List.append_assoc]
    next =>
      obtain ⟨init,final,rfl⟩ := List.eq_nil_or_concat last |>.resolve_left some
      simp [← List.append_assoc]

theorem addSegment_some {clauses : List String} (some : clauses ≠ []) (segment : String) :
    addSegment clauses segment ≠ [] := by
  unfold addSegment
  split
  next => exact some
  next =>
    split
    next => simp
    next =>
      split
      next => simp
      next => simp

theorem foldl_addSegment_append (segments clauses : List String) {last : List String} (some : last ≠ []) :
    segments.foldl addSegment (clauses ++ last) = clauses ++ segments.foldl addSegment last := by
  induction segments generalizing last with
  | nil => rfl
  | cons segment rest ih =>
    rw [List.foldl_cons,addSegment_append clauses some,ih (addSegment_some some segment),List.foldl_cons]

def promoted (segment : String) : Bool := decide (2 ≤ segment.toList.count ':')

theorem addSegment_promoted (clauses : List String) {segment : String} (starts : promoted segment = true) :
    addSegment clauses segment = clauses ++ [segment] := by
  have two := of_decide_eq_true starts
  have some : segment ≠ "" := fun same => by simp [same] at two
  rw [addSegment,if_neg some,if_pos two]

theorem addSegment_length {clauses : List String} (some : clauses ≠ []) (segment : String) :
    (addSegment clauses segment).length = clauses.length + if promoted segment then 1 else 0 := by
  obtain ⟨init,final,rfl⟩ := List.eq_nil_or_concat clauses |>.resolve_left some
  unfold addSegment promoted
  by_cases nothing : segment = ""
  · simp [nothing]
  · by_cases two : 2 ≤ segment.toList.count ':'
    · simp [nothing,two]
    · simp [nothing,two]

theorem foldl_addSegment_length (segments : List String) {clauses : List String} (some : clauses ≠ []) :
    (segments.foldl addSegment clauses).length = clauses.length + segments.countP promoted := by
  induction segments generalizing clauses with
  | nil => rfl
  | cons segment rest ih =>
    rw [List.foldl_cons,ih (addSegment_some some segment),addSegment_length some,List.countP_cons]
    omega

theorem foldl_addSegment_promoted (segments : List String) {clauses : List String}
    (all : ∀ clause ∈ clauses, promoted clause = true) (some : clauses ≠ []) :
    ∀ clause ∈ segments.foldl addSegment clauses, promoted clause = true := by
  induction segments generalizing clauses with
  | nil => exact all
  | cons segment rest ih =>
    refine ih (fun clause member => ?_) (addSegment_some some segment)
    obtain ⟨init,final,rfl⟩ := List.eq_nil_or_concat clauses |>.resolve_left some
    unfold addSegment at member
    split at member
    next => exact all clause member
    next =>
      split at member
      next two =>
        rcases List.mem_append.mp member with old | new
        · exact all clause old
        · rw [List.mem_singleton.mp new]
          exact decide_eq_true two
      next =>
        simp only [List.concat_eq_append,List.getLast?_concat,List.dropLast_concat,List.mem_append,
          List.mem_singleton] at member
        rcases member with old | rfl
        · exact all clause (by simp [old])
        · have two := of_decide_eq_true (all final (by simp))
          refine decide_eq_true ?_
          simp only [String.toList_append,List.count_append]
          omega

def suffixed (kept : List String) : List Char := kept.flatMap fun segment => ','::segment.toList

theorem foldl_addSegment_joined (segments : List String) (first : String)
    (none : ∀ segment ∈ segments, promoted segment = false) : segments.foldl addSegment [first] =
      [String.ofList (first.toList ++ suffixed (segments.filter (· ≠ "")))] := by
  induction segments generalizing first with
  | nil => simp [suffixed]
  | cons segment rest ih =>
    have single := of_decide_eq_false (none segment List.mem_cons_self)
    rw [List.foldl_cons,addSegment,if_neg single]
    split
    next nothing =>
      rw [ih first fun other member => none other (List.mem_cons_of_mem segment member),nothing,
        List.filter_cons_of_neg (by simp)]
    next some =>
      change rest.foldl addSegment [first ++ "," ++ segment] = _
      rw [ih _ fun other member => none other (List.mem_cons_of_mem segment member),
        List.filter_cons_of_pos (by simpa using some)]
      simp [suffixed]

namespace Clause

variable {runtime : Runtime Object}

def front (clause : Clause runtime) : List Char := clause.field.toList ++ ':'::(clause.op.toList ++ [':'])

theorem render_toList (clause : Clause runtime) : clause.render.toList = clause.front ++ clause.value.toList := by
  simp [render,front]

theorem comma_front (clause : Clause runtime) : ',' ∉ clause.front := by
  simp [front,clause.plainField.2,clause.plainOp.2]

theorem segments (clause : Clause runtime) : ∃ first rest, clause.value.toList.splitOn ',' = first::rest ∧
    clause.render.toList.splitOn ',' = (clause.front ++ first)::rest := by
  obtain ⟨first,rest,split⟩ := List.exists_cons_of_ne_nil (List.splitOn_ne_nil ',' clause.value.toList)
  refine ⟨first,rest,split,?_⟩
  rw [render_toList,splitOn_append_left clause.comma_front,split,List.modifyHead_cons]

def parts (clause : Clause runtime) : List String :=
  ((splitOn ',' clause.render).map runtime.strip).foldl addSegment []

end Clause

theorem render_splitOn {runtime : Runtime Object} {clauses : List (Clause runtime)} (some : clauses ≠ []) :
    (render clauses).toList.splitOn ',' = clauses.flatMap fun clause => clause.render.toList.splitOn ',' := by
  obtain ⟨clause,rest,rfl⟩ := List.exists_cons_of_ne_nil some
  have comma : ",".toList = [','] := rfl
  rw [render,String.toList_intercalate,comma,List.map_map]
  induction rest generalizing clause with
  | nil => simp
  | cons next rest ih =>
    have later := ih next (List.cons_ne_nil next rest)
    rw [List.map_cons] at later
    rw [List.map_cons,List.map_cons,List.intercalate_cons_cons,List.append_assoc,List.singleton_append,List.splitOn_append_cons_self,
      later]
    rfl

section Reading

variable {runtime : Runtime Object} {blank : Char → Bool}

theorem Clause.promoted_first (documented : Documented runtime blank) (clause : Clause runtime) (first : List Char) :
    promoted (runtime.strip (String.ofList (clause.front ++ first))) = true := by
  refine decide_eq_true ?_
  rw [documented.strip,String.toList_ofList,String.toList_ofList,count_trim documented.colon]
  simp only [Clause.front,List.count_append,List.count_cons_self,List.count_nil]
  omega

theorem Clause.foldl_parts (documented : Documented runtime blank) (clause : Clause runtime) (before : List String) :
    ((splitOn ',' clause.render).map runtime.strip).foldl addSegment before = before ++ clause.parts := by
  obtain ⟨first,rest,_,segments⟩ := clause.segments
  have starts := clause.promoted_first documented first
  rw [Clause.parts,splitOn,segments,List.map_cons,List.map_cons,List.foldl_cons,List.foldl_cons,
    addSegment_promoted before starts,addSegment_promoted [] starts,List.nil_append]
  exact foldl_addSegment_append _ before (List.cons_ne_nil _ _)

theorem smartSplit_render (documented : Documented runtime blank) {clauses : List (Clause runtime)}
    (some : clauses ≠ []) : smartSplit runtime (render clauses) = clauses.flatMap Clause.parts := by
  have folds (clauses : List (Clause runtime)) (before : List String) :
      ((clauses.flatMap fun clause => clause.render.toList.splitOn ',').map (runtime.strip ∘ String.ofList)).foldl
        addSegment before = before ++ clauses.flatMap Clause.parts := by
    induction clauses generalizing before with
    | nil => simp
    | cons clause rest ih =>
      have own := clause.foldl_parts documented before
      rw [splitOn,List.map_map] at own
      rw [List.flatMap_cons,List.map_append,List.foldl_append,own,ih,List.flatMap_cons,List.append_assoc]
  rw [smartSplit,splitOn,render_splitOn some,List.map_map]
  exact folds clauses []

theorem tokens_eq {field op : List Char} (plainField : ':' ∉ field) (plainOp : ':' ∉ op) (value : List Char) :
    tokens (String.ofList (field ++ ':'::(op ++ ':'::value))) =
      [String.ofList field,String.ofList op,String.ofList value] := by
  obtain ⟨first,rest,split⟩ := List.exists_cons_of_ne_nil (List.splitOn_ne_nil ':' value)
  have whole : ":".intercalate ((first::rest).map String.ofList) = String.ofList value := by
    have colon : ":".toList = [':'] := rfl
    rw [← String.toList_inj,String.toList_intercalate,colon,List.map_map,← split,String.toList_ofList]
    have same : String.toList ∘ String.ofList = id := funext fun text => String.toList_ofList
    rw [same,List.map_id,List.intercalate_splitOn]
  unfold tokens splitOn
  rw [String.toList_ofList,List.splitOn_append_cons_self_of_not_mem plainField,
    List.splitOn_append_cons_self_of_not_mem plainOp,split]
  simp only [List.map_cons] at whole ⊢
  rw [whole]

def Clause.lead (blank : Char → Bool) (clause : Clause runtime) : List Char :=
  clause.field.toList.dropWhile blank ++ ':'::(clause.op.toList ++ [':'])

theorem Clause.trim_front (documented : Documented runtime blank) (clause : Clause runtime) (value : List Char) :
    trim blank (clause.front ++ value) = clause.lead blank ++ value.rdropWhile blank := by
  have shape : clause.front ++ value = clause.field.toList ++ ':'::(clause.op.toList ++ ':'::value) := by
    simp [Clause.front]
  rw [shape,trim_stop documented.colon,rdropWhile_stop documented.colon]
  simp [Clause.lead]

theorem Clause.trim_lead (documented : Documented runtime blank) (clause : Clause runtime) (value : List Char) :
    trim blank (clause.lead blank ++ value) = clause.lead blank ++ value.rdropWhile blank := by
  have shape : clause.lead blank ++ value =
      clause.field.toList.dropWhile blank ++ ':'::(clause.op.toList ++ ':'::value) := by
    simp [Clause.lead]
  rw [shape,trim_stop documented.colon,rdropWhile_stop documented.colon,List.dropWhile_idempotent]
  simp [Clause.lead]

theorem strip_dropWhile (documented : Documented runtime blank) (text : List Char) :
    runtime.strip (String.ofList (text.dropWhile blank)) = runtime.strip (String.ofList text) := by
  simp only [documented.strip,String.toList_ofList,trim_dropWhile]

theorem strip_rdropWhile (documented : Documented runtime blank) (text : List Char) :
    runtime.strip (String.ofList (text.rdropWhile blank)) = runtime.strip (String.ofList text) := by
  simp only [documented.strip,String.toList_ofList,trim_rdropWhile]

theorem Clause.parseClause_eq (documented : Documented runtime blank) (clause : Clause runtime) (value : List Char) :
    parseClause runtime (runtime.strip (String.ofList (clause.lead blank ++ value))) =
      clause.reading (String.ofList value) := by
  have plain : ':' ∉ clause.field.toList.dropWhile blank := fun member =>
    clause.plainField.1 ((mem_dropWhile documented.colon).mp member)
  have read : tokens (runtime.strip (String.ofList (clause.lead blank ++ value))) =
      [String.ofList (clause.field.toList.dropWhile blank),clause.op,String.ofList (value.rdropWhile blank)] := by
    have split := tokens_eq plain clause.plainOp.1 (value.rdropWhile blank)
    rw [documented.strip,String.toList_ofList,clause.trim_lead documented,Clause.lead]
    rw [String.ofList_toList] at split
    simpa using split
  unfold parseClause
  rw [read]
  dsimp only
  rw [strip_dropWhile documented,strip_rdropWhile documented,String.ofList_toList]
  rfl

theorem parseSimpleValue_ok (documented : Documented runtime blank) (text : String) :
    ∃ value, parseSimpleValue runtime text = .ok value ∧ ∀ items, value ≠ .list items := by
  unfold parseSimpleValue
  rcases documented.int text with raised | ⟨number,read⟩
  · rw [raised]
    rcases documented.float text with raised | ⟨thing,read⟩
    · rw [raised]
      exact ⟨_,rfl,fun _ same => (nomatch same)⟩
    · rw [read]
      exact ⟨_,rfl,fun _ same => (nomatch same)⟩
  · rw [read]
    exact ⟨_,rfl,fun _ same => (nomatch same)⟩

theorem comma_strip (documented : Documented runtime blank) (text : String) :
    ',' ∈ (runtime.strip text).toList ↔ ',' ∈ text.toList := by
  rw [documented.strip,String.toList_ofList,← List.count_pos_iff,count_trim documented.comma,List.count_pos_iff]

theorem parseValue_single (documented : Documented runtime blank) {text : String} (single : ',' ∉ text.toList)
    (op : String) : ∃ value, parseValue runtime (runtime.strip text) op = .ok value ∧ ∀ items, value ≠ .list items := by
  have plain : ¬(op ∈ ["in","not_in","between","not_between"] ∧ ',' ∈ (runtime.strip text).toList) :=
    fun both => single ((comma_strip documented text).mp both.2)
  unfold parseValue
  split
  next => exact ⟨_,rfl,fun _ same => (nomatch same)⟩
  next =>
    split
    next => exact ⟨_,rfl,fun _ same => (nomatch same)⟩
    next =>
      split
      next => exact ⟨_,rfl,fun _ same => (nomatch same)⟩
      next => exact parseSimpleValue_ok documented (runtime.strip text)

theorem parseValue_several (documented : Documented runtime blank) {text op : String} (takes : op ∈ listOps)
    (several : ',' ∈ text.toList) : parseValue runtime (runtime.strip text) op = .list <$>
      ((text.toList.splitOn ',').map (trim blank)).mapM fun part => parseSimpleValue runtime (String.ofList part) := by
  have inside := (comma_strip documented text).mpr several
  have lowered := documented.lower (runtime.strip text) inside
  have differs {word : String} (plain : ',' ∉ word.toList) : runtime.lower (runtime.strip text) ≠ word :=
    fun same => plain (same ▸ lowered)
  rw [parseValue,if_neg (differs (by decide)),if_neg (differs (by decide)),if_neg (differs (by decide)),
    if_pos ⟨takes,inside⟩,← splitOn_trim documented.comma several]
  simp only [splitOn,documented.strip,String.toList_ofList,List.mapM_map,Function.comp_def]

theorem reading_inj {clause : Clause runtime} {text other : String} {value : Value Object}
    (parsed : parseValue runtime (runtime.strip other) clause.operator = .ok value) :
    clause.reading text = clause.reading other ↔
      parseValue runtime (runtime.strip text) clause.operator = .ok value := by
  unfold Clause.reading
  rw [parsed]
  cases read : parseValue runtime (runtime.strip text) clause.operator with
  | error failure => exact ⟨fun same => (nomatch same),fun same => (nomatch same)⟩
  | ok value' =>
    constructor
    · intro same
      have fields := Value.dict.inj (Except.ok.inj same)
      simp only [List.cons.injEq,Prod.mk.injEq,true_and,and_true] at fields
      rw [fields]
    · intro same
      rw [Except.ok.inj same]

/-- The value text that is left of a clause none of whose elements is promoted. -/
def leftOf (blank : Char → Bool) (first : List Char) (rest : List (List Char)) : List Char :=
  first.rdropWhile blank ++ ((rest.map (trim blank)).filter (· ≠ [])).flatMap (','::·)

theorem suffixed_filter (documented : Documented runtime blank) (rest : List (List Char)) :
    suffixed ((rest.map (runtime.strip ∘ String.ofList)).filter (· ≠ "")) =
      ((rest.map (trim blank)).filter (· ≠ [])).flatMap (','::·) := by
  induction rest with
  | nil => rfl
  | cons segment rest ih =>
    have stripped : runtime.strip (String.ofList segment) = String.ofList (trim blank segment) := by
      rw [documented.strip,String.toList_ofList]
    unfold suffixed at ih ⊢
    rw [List.map_cons,List.map_cons,Function.comp_apply,stripped]
    by_cases nothing : trim blank segment = []
    · rw [List.filter_cons_of_neg (by simp [nothing]),List.filter_cons_of_neg (by simp [nothing]),ih]
    · rw [List.filter_cons_of_pos (by simpa using nothing),List.filter_cons_of_pos (by simpa using nothing),
        List.flatMap_cons,List.flatMap_cons,ih,String.toList_ofList]

theorem Clause.parts_joined (documented : Documented runtime blank) (clause : Clause runtime) {first : List Char}
    {rest : List (List Char)} (segments : clause.render.toList.splitOn ',' = (clause.front ++ first)::rest)
    (none : ∀ segment ∈ rest, segment.count ':' < 2) :
    clause.parts = [String.ofList (clause.lead blank ++ leftOf blank first rest)] := by
  have kept : ∀ segment ∈ rest.map (runtime.strip ∘ String.ofList), promoted segment = false := by
    intro segment member
    obtain ⟨letters,present,rfl⟩ := List.mem_map.mp member
    refine decide_eq_false ?_
    rw [Function.comp_apply,documented.strip,String.toList_ofList,String.toList_ofList,count_trim documented.colon]
    exact Nat.not_le.mpr (none letters present)
  rw [Clause.parts,splitOn,segments,List.map_cons,List.map_cons,List.map_map,List.foldl_cons,
    addSegment_promoted [] (clause.promoted_first documented first),List.nil_append,
    foldl_addSegment_joined _ _ kept,suffixed_filter documented,documented.strip,String.toList_ofList,
    String.toList_ofList,clause.trim_front documented,List.append_assoc]
  rfl

theorem mem_trim (documented : Documented runtime blank) {text : List Char} :
    ',' ∈ trim blank text ↔ ',' ∈ text := by
  rw [← List.count_pos_iff,count_trim documented.comma,List.count_pos_iff]

theorem Clause.reads_back (documented : Documented runtime blank) (clause : Clause runtime) {first : List Char}
    {rest : List (List Char)} (split : clause.value.toList.splitOn ',' = first::rest) :
    clause.reading (String.ofList (leftOf blank first rest)) = clause.parsed ↔
      ∀ segment ∈ rest, trim blank segment ≠ [] := by
  have plain : ∀ piece ∈ first::rest, ',' ∉ piece := fun piece member => not_mem_piece (by rw [split]; exact member)
  have plainFirst := plain first List.mem_cons_self
  have gone : ',' ∉ first.rdropWhile blank := fun inside => plainFirst ((List.rdropWhile_prefix blank _).subset inside)
  have value : clause.value.toList = first ++ rest.flatMap (','::·) := by
    rw [← intercalate_eq,← split,List.intercalate_splitOn]
  let kept := (rest.map (trim blank)).filter (· ≠ [])
  cases rest with
  | nil =>
    have same : clause.value = String.ofList first := by
      rw [← String.toList_inj,value,String.toList_ofList]
      simp
    refine ⟨fun _ _ member => absurd member List.not_mem_nil,fun _ => ?_⟩
    simp only [Clause.parsed,Clause.reading,leftOf,same,List.map_nil,List.filter_nil,List.flatMap_nil,List.append_nil,
      strip_rdropWhile documented]
  | cons second others =>
    have several : ',' ∈ clause.value.toList := by
      rw [value]
      simp
    have takes : clause.operator ∈ listOps := by
      by_contra other
      exact clause.single other several
    have expected := parseValue_several documented takes several
    have returns (part : List Char) : ∃ value, parseSimpleValue runtime (String.ofList part) = .ok value :=
      (parseSimpleValue_ok documented (String.ofList part)).imp fun _ => And.left
    obtain ⟨outputs,all,length⟩ := Attempts.mapM_total returns ((first::second::others).map (trim blank))
    rw [split,all] at expected
    rw [Clause.parsed,reading_inj expected]
    have trimmed : ∀ piece ∈ kept, piece ≠ [] ∧ trim blank piece = piece ∧ ',' ∉ piece := by
      intro piece member
      obtain ⟨mapped,some⟩ := List.mem_filter.mp member
      obtain ⟨segment,present,rfl⟩ := List.mem_map.mp mapped
      refine ⟨of_decide_eq_true some,trim_trim blank segment,fun inside => ?_⟩
      exact plain segment (List.mem_cons_of_mem first present) ((mem_trim documented).mp inside)
    by_cases nothing : kept = []
    · -- Nothing is left of the list but its first element, which is read as a single value.
      have left : leftOf blank first (second::others) = first.rdropWhile blank := by
        change first.rdropWhile blank ++ kept.flatMap (','::·) = _
        rw [nothing,List.flatMap_nil,List.append_nil]
      have single : ',' ∉ (String.ofList (leftOf blank first (second::others))).toList := by
        rwa [String.toList_ofList,left]
      obtain ⟨value,read,noList⟩ := parseValue_single documented single clause.operator
      refine ⟨fun same => absurd (Except.ok.inj (read.symm.trans same)) (noList outputs),fun all => ?_⟩
      have dropped := List.filter_eq_nil_iff.mp nothing (trim blank second) (by simp)
      exact absurd (all second List.mem_cons_self) (by simpa using dropped)
    · have joined : leftOf blank first (second::others) = [','].intercalate (first.rdropWhile blank::kept) :=
        (intercalate_eq ',' _ kept).symm
      have pieces : (String.ofList (leftOf blank first (second::others))).toList.splitOn ',' =
          first.rdropWhile blank::kept := by
        rw [String.toList_ofList,joined]
        refine List.splitOn_intercalate ',' (fun piece member => ?_) (List.cons_ne_nil _ _)
        rcases List.mem_cons.mp member with rfl | later
        · exact gone
        · exact (trimmed piece later).2.2
      have inside : ',' ∈ (String.ofList (leftOf blank first (second::others))).toList := by
        obtain ⟨piece,more,same⟩ := List.exists_cons_of_ne_nil nothing
        rw [String.toList_ofList,joined,same,intercalate_eq]
        simp
      have again : (first.rdropWhile blank::kept).map (trim blank) = trim blank first::kept := by
        rw [List.map_cons,trim_rdropWhile,List.map_congr_left fun piece member => (trimmed piece member).2.1,
          List.map_id']
      have found := parseValue_several documented takes inside
      rw [pieces,again] at found
      rw [found]
      constructor
      · intro same
        obtain ⟨outputs',some,length'⟩ := Attempts.mapM_total returns (trim blank first::kept)
        rw [some] at same
        have equal : outputs' = outputs := Value.list.inj (Except.ok.inj same)
        rw [← equal,length',List.map_cons,List.length_cons,List.length_cons] at length
        have none := List.length_filter_eq_length_iff.mp (Nat.succ.inj length)
        intro segment member
        simpa using none (trim blank segment) (List.mem_map_of_mem member)
      · intro none
        have whole : kept = (second::others).map (trim blank) := by
          refine List.filter_eq_self.mpr fun piece member => ?_
          obtain ⟨segment,present,rfl⟩ := List.mem_map.mp member
          simpa using none segment present
        rw [whole,← List.map_cons,all]
        rfl

theorem Clause.parts_length (documented : Documented runtime blank) (clause : Clause runtime) {first : List Char}
    {rest : List (List Char)} (segments : clause.render.toList.splitOn ',' = (clause.front ++ first)::rest) :
    clause.parts.length = 1 + rest.countP (fun segment => 2 ≤ segment.count ':') := by
  rw [Clause.parts,splitOn,segments,List.map_cons,List.map_cons,List.map_map,List.foldl_cons,
    addSegment_promoted [] (clause.promoted_first documented first),List.nil_append,
    foldl_addSegment_length _ (List.cons_ne_nil _ _),List.countP_map,List.length_singleton]
  congr 2
  funext segment
  simp only [Function.comp_apply,promoted,documented.strip,String.toList_ofList,count_trim documented.colon]

theorem Clause.parts_promoted (documented : Documented runtime blank) (clause : Clause runtime) :
    ∀ part ∈ clause.parts, promoted part = true := by
  obtain ⟨first,rest,_,segments⟩ := clause.segments
  have starts := clause.promoted_first documented first
  rw [Clause.parts,splitOn,segments,List.map_cons,List.map_cons,List.foldl_cons,addSegment_promoted [] starts,
    List.nil_append]
  refine foldl_addSegment_promoted _ (fun part member => ?_) (List.cons_ne_nil _ _)
  rw [List.mem_singleton.mp member]
  exact starts

theorem parseFilter_render (documented : Documented runtime blank) {clauses : List (Clause runtime)}
    (some : clauses ≠ []) : parseFilter runtime (.text (render clauses)) =
      conjunction <$> ((clauses.flatMap Clause.parts).map runtime.strip).mapM (parseClause runtime) := by
  rw [parseFilter_eq,smartSplit_render documented some,List.filter_eq_self.mpr]
  intro part member
  obtain ⟨text,present,rfl⟩ := List.mem_map.mp member
  obtain ⟨clause,_,inside⟩ := List.mem_flatMap.mp present
  have two := of_decide_eq_true (clause.parts_promoted documented text inside)
  refine decide_eq_true fun nothing => ?_
  have counted := count_trim documented.colon text.toList
  rw [← String.toList_ofList (l := trim blank text.toList),← documented.strip,nothing] at counted
  rw [← counted] at two
  simp at two

/-- A leaf has an operator, a field and a value. -/
def Leaf (value : Value Object) : Prop := ∃ op attr val, value = .dict [op,attr,val]

theorem conjunction_inj {first second : List (Value Object)} (some : first ≠ []) (some' : second ≠ [])
    (leaves : ∀ value ∈ first, Leaf value) (leaves' : ∀ value ∈ second, Leaf value)
    (same : conjunction first = conjunction second) : first = second := by
  have apart {value : Value Object} (leaf : Leaf value) (conditions : List (Value Object)) :
      value ≠ .dict [("op",.text SpecificationOperator.and.value),("conditions",.list conditions)] := by
    obtain ⟨op,attr,val,rfl⟩ := leaf
    intro equal
    exact absurd (congrArg List.length (Value.dict.inj equal)) (by simp)
  obtain ⟨value,rest,rfl⟩ := List.exists_cons_of_ne_nil some
  obtain ⟨other,others,rfl⟩ := List.exists_cons_of_ne_nil some'
  cases rest with
  | nil =>
    cases others with
    | nil => exact congrArg (fun value => [value]) same
    | cons next more => exact absurd same (apart (leaves value List.mem_cons_self) _)
  | cons next more =>
    cases others with
    | nil => exact absurd same.symm (apart (leaves' other List.mem_cons_self) _)
    | cons next' more' =>
      have fields := Value.dict.inj same
      simp only [List.cons.injEq,Prod.mk.injEq,true_and,and_true] at fields
      exact Value.list.inj fields

theorem parseClause_leaf {part : String} {value : Value Object} (read : parseClause runtime part = .ok value) :
    Leaf value := by
  unfold parseClause at read
  split at read
  next =>
    obtain ⟨val,_,same⟩ := Attempts.bind_ok.mp read
    rw [← Attempts.pure_ok.mp same]
    exact ⟨_,_,_,rfl⟩
  next => cases read

theorem Clause.parsed_leaf (documented : Documented runtime blank) (clause : Clause runtime) :
    ∃ value, clause.parsed = .ok value ∧ Leaf value := by
  have total : ∃ value, parseValue runtime (runtime.strip clause.value) clause.operator = .ok value := by
    by_cases several : ',' ∈ clause.value.toList
    · have takes : clause.operator ∈ listOps := by
        by_contra other
        exact clause.single other several
      have returns (part : List Char) : ∃ value, parseSimpleValue runtime (String.ofList part) = .ok value :=
        (parseSimpleValue_ok documented (String.ofList part)).imp fun _ => And.left
      obtain ⟨outputs,all,_⟩ := Attempts.mapM_total returns ((clause.value.toList.splitOn ',').map (trim blank))
      rw [parseValue_several documented takes several,all]
      exact ⟨_,rfl⟩
    · exact (parseValue_single documented several clause.operator).imp fun _ => And.left
  obtain ⟨value,read⟩ := total
  rw [Clause.parsed,Clause.reading,read]
  exact ⟨_,rfl,_,_,_,rfl⟩

theorem Clause.elementsKept_iff (documented : Documented runtime blank) (clause : Clause runtime) :
    clause.ElementsKept ↔
      ∃ part, clause.parts = [part] ∧ parseClause runtime (runtime.strip part) = clause.parsed := by
  obtain ⟨first,rest,split,segments⟩ := clause.segments
  have elements : (splitOn ',' clause.value).tail = rest.map String.ofList := by
    rw [splitOn,split]
    rfl
  have kept : clause.ElementsKept ↔
      (∀ segment ∈ rest, trim blank segment ≠ []) ∧ ∀ segment ∈ rest, segment.count ':' < 2 := by
    unfold Clause.ElementsKept
    rw [elements,List.forall_mem_map]
    have blankness (segment : List Char) : runtime.strip (String.ofList segment) ≠ "" ↔ trim blank segment ≠ [] := by
      rw [documented.strip,String.toList_ofList,ne_eq,ne_eq,String.ofList_eq_empty_iff]
    simp only [blankness,String.toList_ofList]
    exact forall₂_and
  rw [kept,← clause.reads_back documented split]
  constructor
  · intro ⟨reads,single⟩
    refine ⟨_,clause.parts_joined documented segments single,?_⟩
    rw [clause.parseClause_eq documented,reads]
  · intro ⟨part,alone,read⟩
    have length := clause.parts_length documented segments
    rw [alone,List.length_singleton] at length
    have single : ∀ segment ∈ rest, segment.count ':' < 2 := by
      have none : rest.countP (fun segment => 2 ≤ segment.count ':') = 0 := by omega
      intro segment member
      simpa using List.countP_eq_zero.mp none segment member
    have joined := clause.parts_joined documented segments single
    rw [alone,List.singleton_inj] at joined
    rw [joined,clause.parseClause_eq documented] at read
    exact ⟨read,single⟩

theorem Clause.parts_least (documented : Documented runtime blank) (clause : Clause runtime) :
    1 ≤ clause.parts.length := by
  obtain ⟨first,rest,_,segments⟩ := clause.segments
  rw [clause.parts_length documented segments]
  omega

theorem length_le_parts (documented : Documented runtime blank) (clauses : List (Clause runtime)) :
    clauses.length ≤ (clauses.flatMap Clause.parts).length := by
  induction clauses with
  | nil => exact Nat.le_refl 0
  | cons clause rest ih =>
    have own := clause.parts_least documented
    rw [List.flatMap_cons,List.length_append,List.length_cons]
    omega

theorem parts_alone (documented : Documented runtime blank) (clauses : List (Clause runtime))
    (length : (clauses.flatMap Clause.parts).length = clauses.length) :
    ∀ clause ∈ clauses, ∃ part, clause.parts = [part] := by
  induction clauses with
  | nil => exact fun _ member => absurd member List.not_mem_nil
  | cons clause rest ih =>
    have own := clause.parts_least documented
    have others := length_le_parts documented rest
    rw [List.flatMap_cons,List.length_append,List.length_cons] at length
    intro other member
    rcases List.mem_cons.mp member with rfl | later
    · exact List.length_eq_one_iff.mp (by omega)
    · exact ih (by omega) other later

theorem mapM_parts_iff (clauses : List (Clause runtime)) (outputs : List (Value Object))
    (alone : ∀ clause ∈ clauses, ∃ part, clause.parts = [part])
    (expected : clauses.mapM Clause.parsed = .ok outputs) :
    ((clauses.flatMap Clause.parts).map runtime.strip).mapM (parseClause runtime) = .ok outputs ↔
      ∀ clause ∈ clauses, ∃ part, clause.parts = [part] ∧
        parseClause runtime (runtime.strip part) = clause.parsed := by
  induction clauses generalizing outputs with
  | nil => exact ⟨fun _ _ member => absurd member List.not_mem_nil,fun _ => expected⟩
  | cons clause rest ih =>
    obtain ⟨part,own⟩ := alone clause List.mem_cons_self
    rw [List.mapM_cons,Attempts.bind_ok] at expected
    obtain ⟨value,first,expected⟩ := expected
    obtain ⟨values,later,same⟩ := Attempts.bind_ok.mp expected
    obtain rfl := Attempts.pure_ok.mp same
    have others := ih values (fun other member => alone other (List.mem_cons_of_mem clause member)) later
    rw [List.flatMap_cons,own,List.singleton_append,List.map_cons,List.mapM_cons,Attempts.bind_ok,List.forall_mem_cons,
      ← others]
    constructor
    · rintro ⟨read,here,rest⟩
      obtain ⟨reads,more,same⟩ := Attempts.bind_ok.mp rest
      obtain ⟨rfl,rfl⟩ := List.cons.inj (Attempts.pure_ok.mp same)
      exact ⟨⟨part,own,here.trans first.symm⟩,more⟩
    · rintro ⟨⟨other,alone,here⟩,more⟩
      rw [own,List.singleton_inj] at alone
      subst alone
      exact ⟨value,here.trans first,Attempts.bind_ok.mpr ⟨values,more,rfl⟩⟩

/-- The clauses come back in order exactly when no element after the first of a list is
blank or looks like a clause. -/
theorem parses_back_iff (documented : Documented runtime blank) (clauses : List (Clause runtime))
    (some : clauses ≠ []) : parseFilter runtime (.text (render clauses)) = conjunction <$> clauses.mapM Clause.parsed ↔
      ∀ clause ∈ clauses, clause.ElementsKept := by
  have expected : ∃ outputs, clauses.mapM Clause.parsed = .ok outputs ∧ outputs.length = clauses.length :=
    Attempts.mapM_total (fun clause => (clause.parsed_leaf documented).imp fun _ => And.left) clauses
  obtain ⟨outputs,all,length⟩ := expected
  have leaves : ∀ value ∈ outputs, Leaf value := by
    intro value member
    obtain ⟨clause,_,read⟩ := (Attempts.mapM_ok all).2 value member
    obtain ⟨leaf,read',isLeaf⟩ := clause.parsed_leaf documented
    rwa [Except.ok.inj (read.symm.trans read')]
  simp only [Clause.elementsKept_iff documented]
  rw [parseFilter_render documented some,all]
  constructor
  · intro same
    cases read : ((clauses.flatMap Clause.parts).map runtime.strip).mapM (parseClause runtime) with
    | error failure =>
      rw [read] at same
      cases same
    | ok values =>
      rw [read] at same
      have related := (Attempts.mapM_forall₂.mp read).length_eq
      rw [List.length_map] at related
      have found : ∀ value ∈ values, Leaf value := by
        intro value member
        obtain ⟨part,_,here⟩ := (Attempts.mapM_ok read).2 value member
        exact parseClause_leaf here
      have many := List.length_pos_of_ne_nil some
      have least := length_le_parts documented clauses
      have equal : values = outputs := conjunction_inj (List.ne_nil_of_length_pos (by omega))
        (List.ne_nil_of_length_pos (by omega)) found leaves (Except.ok.inj same)
      rw [equal] at read related
      exact (mapM_parts_iff clauses outputs (parts_alone documented clauses (related.trans length)) all).mp read
  · intro each
    have alone : ∀ clause ∈ clauses, ∃ part, clause.parts = [part] :=
      fun clause member => (each clause member).imp fun _ => And.left
    rw [(mapM_parts_iff clauses outputs alone all).mpr each]

end Reading

theorem ascii_documented : Documented Runtime.ascii Char.isWhitespace where
  colon := by decide
  comma := by decide
  strip _ := rfl
  lower text member := by
    have mapped := List.mem_map_of_mem (f := Char.toLower) member
    change ',' ∈ (String.ofList (text.toList.map Char.toLower)).toList
    rwa [String.toList_ofList]
  int _ := .inl rfl
  float _ := .inl rfl

def referenceIn (value : String) : Clause Runtime.ascii where
  field := "ref"
  op := "in"
  value := value
  named := by decide
  plainField := by decide
  plainOp := by decide
  single other := absurd (by decide) other

def nameIs : Clause Runtime.ascii where
  field := "name"
  op := "="
  value := "urn:isbn:a"
  named := by decide
  plainField := by decide
  plainOp := by decide
  single _ := by decide

theorem parses_back_iff_names : parseFilter Runtime.ascii (.text (render [referenceIn "a:b,c",nameIs])) =
    conjunction <$> [referenceIn "a:b,c",nameIs].mapM Clause.parsed :=
  (parses_back_iff ascii_documented [referenceIn "a:b,c",nameIs] (List.cons_ne_nil _ _)).mpr (by decide)

/-- The second name in the list becomes a clause of its own. -/
theorem list_element_promoted :
    parseFilter Runtime.ascii (.text (render [referenceIn "urn:isbn:a,urn:isbn:b"])) ≠
      conjunction <$> [referenceIn "urn:isbn:a,urn:isbn:b"].mapM Clause.parsed := by
  intro same
  have actual : parseFilter Runtime.ascii (.text (render [referenceIn "urn:isbn:a,urn:isbn:b"])) =
      .ok (.dict [("op",.text "and"),("conditions",.list [
        .dict [("op",.text "in"),("attr",.text "ref"),("val",.text "urn:isbn:a")],
        .dict [("op",.text "isbn"),("attr",.text "urn"),("val",.text "b")]])]) := rfl
  have expected : conjunction <$> [referenceIn "urn:isbn:a,urn:isbn:b"].mapM Clause.parsed =
      .ok (.dict [("op",.text "in"),("attr",.text "ref"),
        ("val",.list [.text "urn:isbn:a",.text "urn:isbn:b"])]) := rfl
  rw [actual,expected] at same
  exact absurd (congrArg List.length (Value.dict.inj (Except.ok.inj same))) (by simp)

end CqrsDdd.Filtering.ColonSeparatedSyntax
