import CqrsDdd.RegularExpressions
import CqrsDdd.Specifications.MemoryOperators
import CqrsDdd.Specifications.MongoFilters

/-! LIKE in memory and in MongoDB. Both translate the pattern into a regular expression character
by character; the one in memory leaves the characters as they are, the other escapes
them first. -/
namespace CqrsDdd.Specifications

open RegularExpressions

variable {Object : Type}

section Sql

/-- A place of a LIKE pattern: any sequence, any one character, or the character itself. -/
def likePlace (char : Char) : Place Char :=
  if char = '%' then .many fun _ => true
  else if char = '_' then .one fun _ => true
  else .one fun symbol => symbol = char

def sqlLike (pattern text : String) : Bool := accepts (pattern.toList.map likePlace) text.toList

end Sql

/-- The filter that a string operator compiles to. -/
inductive StringFilter
  | regex (field pattern options : String)
  | notRegex (field pattern : String)
  deriving DecidableEq, Repr

namespace MongoOperators

/-- What `re.escape` puts a backslash before. -/
def escapes : List Char :=
  ['(',')','[',']','\x7b','\x7d','?','*','+','-','|','^','$','\\','.','&','~','#',' ','\t','\n','\r','\x0b','\x0c']

/-- `_regex_escape`. -/
def regexEscape (content : String) : String :=
  String.ofList (content.toList.flatMap fun char => if char ∈ escapes then ['\\',char] else [char])

def compileString (field op : String) (val : Value Object) : Except MongoError (Option StringFilter) :=
  match SpecificationOperator.ofValue op with
  | .error _ => .ok none
  | .ok specOp =>
    match val with
    | .text val =>
      let options := if specOp ∈ [.ilike,.icontains,.istartswith,.iendswith,.iregex] then "i" else ""
      match specOp with
      | .contains | .icontains => .ok (some (.regex field (regexEscape val) options))
      | .startswith | .istartswith => .ok (some (.regex field ("^" ++ regexEscape val) options))
      | .endswith | .iendswith => .ok (some (.regex field (regexEscape val ++ "$") options))
      | .like | .ilike =>
        .ok (some (.regex field ("^" ++ MemoryOperators.sqlPatternToRegex (regexEscape val) ++ "$") options))
      | .regex | .iregex => .ok (some (.regex field val options))
      | .notLike => .ok (some (.notRegex field ("^" ++ MemoryOperators.sqlPatternToRegex (regexEscape val) ++ "$")))
      | _ => .ok none
    | _ => .error (.query ("String operator " ++ op ++ " requires string value"))

end MongoOperators

namespace Patterns

open MemoryOperators MongoOperators

def isWildcard (char : Char) : Bool := char = '%' || char = '_'

/-- A translation that gives both wildcards a dot and lets every other character stand for itself. -/
def Translates (token : Char → Token) : Prop :=
  ∀ char, (token char).place =
    if char = '%' then .many fun symbol => symbol ≠ '\n'
    else if char = '_' then .one fun symbol => symbol ≠ '\n'
    else .one fun symbol => symbol = char

/-- No newline can be where a wildcard is, and none is taken for the end of the text. -/
def Clear (pattern text : String) : Prop :=
  '\n' ∉ text.toList ∨ (∀ char ∈ pattern.toList, isWildcard char = false) ∧ text.toList ≠ pattern.toList ++ ['\n']

theorem matched_eq_sqlLike {token : Char → Token} (translates : Translates token) {pattern text : String}
    (clear : Clear pattern text) : matched (pattern.toList.map token) text.toList = sqlLike pattern text := by
  unfold matched sqlLike
  rw [List.map_map]
  rcases clear with flat | ⟨literal,apart⟩
  · have last : text.toList.getLast? ≠ some '\n' := fun ends => flat (List.mem_of_getLast? ends)
    rw [decide_eq_false last,Bool.false_and,Bool.or_false]
    refine accepts_congr (List.forall₂_map_left_iff.mpr (List.forall₂_map_right_iff.mpr ?_)) List.suffix_rfl
    refine List.forall₂_same.mpr fun char _ => ?_
    have other : ∀ symbol ∈ text.toList, symbol ≠ '\n' := fun symbol member same => flat (same ▸ member)
    simp only [Function.comp_apply,translates char,likePlace]
    split
    next => exact fun symbol member => decide_eq_true (other symbol member)
    next =>
      split
      next => exact fun symbol member => decide_eq_true (other symbol member)
      next => exact fun _ _ => rfl
  · have named (char : Char) (member : char ∈ pattern.toList) : char ≠ '%' ∧ char ≠ '_' := by
      simpa [isWildcard] using literal char member
    have first : pattern.toList.map (Token.place ∘ token) =
        pattern.toList.map fun letter => .one fun symbol => decide (symbol = letter) :=
      List.map_congr_left fun char member => by
        rw [Function.comp_apply,translates char,if_neg (named char member).1,if_neg (named char member).2]
    have second : pattern.toList.map likePlace =
        pattern.toList.map fun letter => .one fun symbol => decide (symbol = letter) :=
      List.map_congr_left fun char member => by
        rw [likePlace,if_neg (named char member).1,if_neg (named char member).2]
    rw [first,second,accepts_word,accepts_word]
    have ended : ¬(text.toList.getLast? = some '\n' ∧ text.toList.dropLast = pattern.toList) := by
      rintro ⟨ends,before⟩
      exact apart (before ▸ (List.dropLast_append_getLast? '\n' ends).symm)
    rw [← Bool.decide_and,decide_eq_false ended,Bool.or_false]

def memoryToken (char : Char) : Token :=
  if char = '%' then .anyMany else if char = '_' then .any else .literal char

def mongoToken (char : Char) : Token :=
  if char = '%' then .anyMany else if char = '_' then .any
  else if char ∈ escapes then .escaped char else .literal char

theorem memoryToken_translates : Translates memoryToken := by
  intro char
  unfold memoryToken
  split
  next => exact rfl
  next =>
    split
    next => exact rfl
    next => exact rfl

theorem mongoToken_translates : Translates mongoToken := by
  intro char
  unfold mongoToken
  split
  next => exact rfl
  next =>
    split
    next => exact rfl
    next =>
      split
      next => exact rfl
      next => exact rfl

theorem sqlPatternToRegex_spells (pattern : String) :
    "^" ++ sqlPatternToRegex pattern ++ "$" = spell (pattern.toList.map memoryToken) := by
  unfold sqlPatternToRegex spell
  rw [List.flatMap_map]
  refine congrArg (fun body => "^" ++ String.ofList body ++ "$") (List.flatMap_congr fun char _ => ?_)
  unfold memoryToken
  split
  next => exact rfl
  next =>
    split
    next => exact rfl
    next => exact rfl

theorem regexEscape_spells (pattern : String) :
    "^" ++ sqlPatternToRegex (regexEscape pattern) ++ "$" = spell (pattern.toList.map mongoToken) := by
  unfold sqlPatternToRegex regexEscape spell
  rw [List.flatMap_map,String.toList_ofList,List.flatMap_assoc]
  refine congrArg (fun body => "^" ++ String.ofList body ++ "$") (List.flatMap_congr fun char _ => ?_)
  unfold mongoToken
  by_cases many : char = '%'
  · subst many
    decide
  · by_cases one : char = '_'
    · subst one
      decide
    · rw [if_neg many,if_neg one]
      split
      next => simp [many,one,Token.text]
      next => simp [many,one,Token.text]

theorem escapes_formed : ∀ char ∈ escapes, char.isAlphanum = false ∧ char ≠ '\x00' := by simp [escapes]

theorem special_escaped : ∀ char ∈ Token.special, char ∈ escapes ∨ char = '\x00' := by simp [Token.special,escapes]

theorem mongoToken_formed {char : Char} (given : char ≠ '\x00') : (mongoToken char).WellFormed := by
  unfold mongoToken
  split
  next => trivial
  next =>
    split
    next => trivial
    next =>
      split
      next escaped => exact escapes_formed char escaped
      next literal => exact fun special => (special_escaped char special).elim literal given

theorem memoryToken_formed {char : Char} (plain : char ∉ Token.special) : (memoryToken char).WellFormed := by
  unfold memoryToken
  split
  next => trivial
  next =>
    split
    next => trivial
    next => exact plain

/-- No character of the pattern means something to the engines. -/
def Plain (pattern : String) : Prop := ∀ char ∈ pattern.toList, char ∉ Token.special

variable {python : Python Object} {mongo : String → String → Except Failure Bool} {field : Value Object}

theorem evaluate_like (given : field ≠ .null) (condition : Value Object) :
    evaluate python .like field condition = like python false field condition := by
  have some : field.isNull ≠ true := fun null => given (Value.isNull_iff.mp null)
  exact if_neg some

theorem evaluate_notLike (given : field ≠ .null) (condition : Value Object) :
    evaluate python .notLike field condition = (!·) <$> evaluate python .like field condition := by
  have some : field.isNull ≠ true := fun null => given (Value.isNull_iff.mp null)
  rw [evaluate_like given]
  exact if_neg some

theorem like_eq_sqlLike (documented : Documented (python.reMatch false)) {pattern : String} (plain : Plain pattern)
    (clear : Clear pattern (python.runtime.textOf field)) :
    like python false field (.text pattern) = .ok (sqlLike pattern (python.runtime.textOf field)) := by
  have formed : ∀ token ∈ pattern.toList.map memoryToken, token.WellFormed := by
    intro token member
    obtain ⟨char,inside,rfl⟩ := List.mem_map.mp member
    exact memoryToken_formed (plain char inside)
  have answered := documented _ formed (python.runtime.textOf field)
  rw [← sqlPatternToRegex_spells,matched_eq_sqlLike memoryToken_translates clear] at answered
  exact answered

theorem regex_eq_sqlLike (documented : Documented mongo) {pattern text : String} (given : '\x00' ∉ pattern.toList)
    (clear : Clear pattern text) :
    mongo ("^" ++ sqlPatternToRegex (regexEscape pattern) ++ "$") text = .ok (sqlLike pattern text) := by
  have formed : ∀ token ∈ pattern.toList.map mongoToken, token.WellFormed := by
    intro token member
    obtain ⟨char,inside,rfl⟩ := List.mem_map.mp member
    exact mongoToken_formed fun same => given (same ▸ inside)
  have answered := documented _ formed text
  rw [← regexEscape_spells,matched_eq_sqlLike mongoToken_translates clear] at answered
  exact answered

/-- LIKE and NOT LIKE in memory answer as SQL does, and the compiled expression accepts the same texts. -/
structure FollowsSql (python : Python Object) (mongo : String → String → Except Failure Bool) (field : Value Object)
    (pattern : String) : Prop where
  like : evaluate python .like field (.text pattern) = .ok (sqlLike pattern (python.runtime.textOf field))
  notLike : evaluate python .notLike field (.text pattern) = .ok (!sqlLike pattern (python.runtime.textOf field))
  compiled : ∀ name, ∃ regex,
    compileString name "like" (.text pattern : Value Object) = .ok (some (.regex name regex "")) ∧
      mongo regex (python.runtime.textOf field) = .ok (sqlLike pattern (python.runtime.textOf field))

theorem clear_follows (documented : Documented (python.reMatch false)) (documentedMongo : Documented mongo)
    (given : field ≠ .null) {pattern : String} (plain : Plain pattern)
    (clear : Clear pattern (python.runtime.textOf field)) : FollowsSql python mongo field pattern := by
  have answered := (evaluate_like given (.text pattern)).trans (like_eq_sqlLike documented plain clear)
  refine ⟨answered,?_,fun name => ⟨_,rfl,regex_eq_sqlLike documentedMongo (fun null => ?_) clear⟩⟩
  · rw [evaluate_notLike given,answered]
    exact rfl
  · exact plain '\x00' null (by decide)

theorem dots_refuse {text : List Char} (newline : '\n' ∈ text) :
    matched (List.replicate text.length .any) text = false := by
  have short (count : Nat) (other : List Char) (long : other.length < count) :
      accepts ((List.replicate count Token.any).map Token.place) other = false := by
    induction other generalizing count with
    | nil =>
      obtain ⟨count,rfl⟩ := Nat.exists_eq_add_of_lt long
      exact rfl
    | cons char rest ih =>
      cases count with
      | zero => exact absurd long (Nat.not_lt_zero _)
      | succ count =>
        have later := ih count (Nat.lt_of_succ_lt_succ long)
        rw [List.replicate_succ,List.map_cons,Token.place,accepts,later,Bool.and_false]
  have refused (other : List Char) (newline : '\n' ∈ other) :
      accepts ((List.replicate other.length Token.any).map Token.place) other = false := by
    induction other with
    | nil => cases newline
    | cons char rest ih =>
      rw [List.length_cons,List.replicate_succ,List.map_cons,Token.place,accepts]
      rcases List.mem_cons.mp newline with rfl | later
      · exact rfl
      · rw [ih later,Bool.and_false]
  have positive : 0 < text.length := List.length_pos_of_mem newline
  rw [matched,refused text newline,short text.length text.dropLast (by rw [List.length_dropLast]; omega)]
  exact Bool.and_false _

theorem underscores_accept (text : List Char) :
    accepts ((List.replicate text.length '_').map likePlace) text = true := by
  induction text with
  | nil => exact rfl
  | cons char rest ih =>
    rw [List.length_cons,List.replicate_succ,List.map_cons]
    exact ih

/-- Without metacharacters in the pattern only newlines come between LIKE and SQL: where
there is none every pattern is followed, and where there is one some pattern is not. -/
theorem follows_sql (documented : Documented (python.reMatch false)) (documentedMongo : Documented mongo)
    (given : field ≠ .null) :
    (∀ pattern, Plain pattern → Clear pattern (python.runtime.textOf field) →
      FollowsSql python mongo field pattern) ∧
    ((∀ pattern, Plain pattern → FollowsSql python mongo field pattern) ↔
      '\n' ∉ (python.runtime.textOf field).toList) := by
  refine ⟨fun pattern plain clear => clear_follows documented documentedMongo given plain clear,?_,?_⟩
  · intro follows newline
    generalize same : (python.runtime.textOf field).toList = text at newline
    let dots := String.ofList (List.replicate text.length '_')
    have plain : Plain dots := by
      intro char inside
      rw [String.toList_ofList] at inside
      rw [List.eq_of_mem_replicate inside]
      decide
    have formed : ∀ token ∈ List.replicate text.length Token.any, token.WellFormed := by
      intro token member
      rw [List.eq_of_mem_replicate member]
      trivial
    have spelled : "^" ++ sqlPatternToRegex dots ++ "$" = spell (List.replicate text.length .any) := by
      rw [sqlPatternToRegex_spells,String.toList_ofList,List.map_replicate]
      exact rfl
    have answered := documented _ formed (python.runtime.textOf field)
    rw [← spelled,same,dots_refuse newline] at answered
    have sql := (evaluate_like given _).symm.trans (follows dots plain).like
    have accepted : sqlLike dots (python.runtime.textOf field) = true := by
      rw [sqlLike,String.toList_ofList,same]
      exact underscores_accept text
    rw [accepted] at sql
    exact Bool.false_ne_true (Except.ok.inj (answered.symm.trans sql))
  · exact fun flat pattern plain => clear_follows documented documentedMongo given plain (.inl flat)

def fragmentPython : Python Empty where
  runtime := .ascii
  equals _ _ := false
  compare _ _ _ := .error .typeError
  reMatch _ := fragment
  reSearch _ := fragment
  others _ _ _ := .error .typeError

theorem follows_sql_order : FollowsSql fragmentPython fragment (.text "order-17") "order%7" :=
  (follows_sql fragment_documented fragment_documented (fun null => by cases null)).1 "order%7"
    (by simp [Plain,Token.special]) (.inl (by decide))

/-- The dot of a pattern stands for any character in memory. -/
theorem dot_is_not_literal : ¬ ∃ python : Python Empty, Documented (python.reMatch false) ∧
    evaluate python .like (.text "abc") (.text "a.c") = .ok (sqlLike "a.c" "abc") := by
  rintro ⟨python,documented,follows⟩
  have spelled : "^" ++ sqlPatternToRegex "a.c" ++ "$" = spell [.literal 'a',.any,.literal 'c'] := by decide
  have formed : ∀ token ∈ [Token.literal 'a',.any,.literal 'c'], token.WellFormed := by
    simp [Token.WellFormed]
    decide
  have answered := documented _ formed "abc"
  rw [← spelled] at answered
  have refused : sqlLike "a.c" "abc" = false := by decide
  have evaluated : evaluate python .like (.text "abc") (.text "a.c") =
      python.reMatch false ("^" ++ sqlPatternToRegex "a.c" ++ "$") "abc" := rfl
  rw [evaluated,answered,refused] at follows
  cases follows

end Patterns

end CqrsDdd.Specifications
