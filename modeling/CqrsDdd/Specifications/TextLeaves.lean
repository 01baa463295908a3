import CqrsDdd.Specifications.Patterns
import CqrsDdd.Specifications.SqlOperators

/-! A database beside the interpreter, and the leaves on a text that both read alike: an
emptiness check, LIKE where the pattern means nothing else to the engine of regular
expressions, and a part, a beginning or an end without wildcards. -/
namespace CqrsDdd.Specifications

open SpecificationOperator ThreeValued Database RegularExpressions Patterns

variable {Object : Type}

structure World (Object : Type) where
  python : Python Object
  database : Database Object
  columns : List String
  getattr : Value Object → String → Value Object
  others : SpecificationOperator → String → Value Object → Except Failure (ColumnClause Object)

namespace World

def model (world : World Object) : Model Object := ⟨world.python.runtime,world.columns,world.others⟩

def registry (world : World Object) : Registry Object := ⟨world.getattr,MemoryOperators.evaluate world.python⟩

/-- The interpreter tells `None` and texts from all else and does not order `None`, and the database compares values that
are not null as it does. -/
structure Faithful (world : World Object) : Prop where
  text : ∀ value content, world.python.equals value (.text content) = value.isText content
  nullLeft : ∀ value, world.python.equals .null value = value.isNull
  nullRight : ∀ value, world.python.equals value .null = value.isNull
  unordered : ∀ comparison left right result, world.python.compare comparison left right = .ok result →
    left.isNull = false ∧ right.isNull = false
  equal : ∀ left right, left.isNull = false → right.isNull = false →
    world.database.equal left right = world.python.equals left right
  compare : ∀ comparison left right result, world.python.compare comparison left right = .ok result →
    world.database.compare comparison left right = result

/-- The database reads the leaf as the operator in memory does. -/
def Agrees (world : World Object) (row : Fields Object) (column : String) (op : SpecificationOperator)
    (expected : Value Object) : Prop :=
  ∀ clause result, SqlOperators.apply world.model op column expected = .ok clause →
    MemoryOperators.evaluate world.python op (cell row column) expected = .ok result →
    world.database.truth row clause = .ofBool result

variable {world : World Object} {row : Fields Object} {column : String} {expected : Value Object}

theorem known_null {test : Value Object → Value Object → Bool} {left right : Value Object} (null : left.isNull = true) :
    known test left right = .unknown := by
  rw [known,null]
  exact rfl

theorem known_values {test : Value Object → Value Object → Bool} {left right : Value Object} (first : left.isNull = false)
    (second : right.isNull = false) : known test left right = .ofBool (test left right) := by
  rw [known,first,second]
  exact rfl

/-- What SQLAlchemy and the database say of LIKE and of the parts of a text. -/
structure Likes (database : Database Object) : Prop where
  like : ∀ content pattern, database.test .like (.text content) (.text pattern) = sqlLike pattern content
  contains : ∀ content part, database.test .contains (.text content) (.text part) = sqlLike ("%" ++ part ++ "%") content
  startswith : ∀ content part, database.test .startswith (.text content) (.text part) = sqlLike (part ++ "%") content
  endswith : ∀ content part, database.test .endswith (.text content) (.text part) = sqlLike ("%" ++ part) content

theorem agrees_iff_reading {op : SpecificationOperator} {clause : ColumnClause Object} {result read : Bool}
    (compiled : SqlOperators.apply world.model op column expected = .ok clause)
    (evaluated : MemoryOperators.evaluate world.python op (cell row column) expected = .ok result)
    (reading : world.database.truth row clause = .ofBool read) :
    world.Agrees row column op expected ↔ read = result := by
  constructor
  · intro agrees
    have same := agrees clause result compiled evaluated
    rw [reading] at same
    exact Truth.ofBool_inj.mp same
  · intro same other answer made answered
    cases compiled.symm.trans made
    cases evaluated.symm.trans answered
    rw [reading,same]

theorem isText_eq_not_isTruthy (runtime : Runtime Object) (value : Value Object) :
    value.isText "" = (!value.isTruthy runtime) ↔
      (∃ content, value = .text content) ∨ value.isTruthy runtime = true := by
  cases value with
  | text content =>
    refine iff_of_true ?_ (.inl ⟨content,rfl⟩)
    change decide (content = "") = !decide (content ≠ "")
    rw [decide_not,Bool.not_not]
  | null | bool _ | number _ | list _ | tuple _ | dict _ | object _ => simp [Value.isText]

/-- An emptiness check of a field that is not null compares it with the empty text in the database, and asks for its
truth in memory. -/
theorem emptiness_agrees_iff (faithful : world.Faithful) (given : (cell row column).isNull = false)
    {op : SpecificationOperator} (empty : op = .isEmpty ∨ op = .isNotEmpty) : world.Agrees row column op expected ↔
      (∃ content, cell row column = .text content) ∨ (cell row column).isTruthy world.python.runtime = true := by
  have read : world.database.truth row (.equals column (.text "")) = .ofBool ((cell row column).isText "") := by
    rw [truth,known_values given rfl,faithful.equal _ _ given rfl,faithful.text]
  rw [← isText_eq_not_isTruthy]
  rcases empty with rfl | rfl
  · exact agrees_iff_reading rfl rfl read
  · have negated : world.database.truth row (.not (.equals column (.text ""))) =
        .ofBool (!(cell row column).isText "") := by
      rw [truth,read,Truth.not_ofBool]
    exact (agrees_iff_reading rfl rfl negated).trans Bool.not_eq_eq_eq_not

theorem anywhere_iff {pattern : String} {symbols : List Char} :
    accepts (("%" ++ pattern).toList.map likePlace) symbols = true ↔
      ∃ rest, rest <:+ symbols ∧ accepts (pattern.toList.map likePlace) rest = true := by
  rw [String.toList_append,List.map_append]
  exact accepts_any

/-- A part that stands for itself in LIKE. -/
def Literal (part : String) : Prop := ∀ char ∈ part.toList, isWildcard char = false

section Parts

variable {content part : String} (literal : Literal part)

include literal

theorem likePlaces_literal :
    part.toList.map likePlace = part.toList.map fun letter => .one fun symbol => decide (symbol = letter) := by
  refine List.map_congr_left fun char member => ?_
  have plain : char ≠ '%' ∧ char ≠ '_' := by simpa [isWildcard] using literal char member
  rw [likePlace,if_neg plain.1,if_neg plain.2]

theorem begins_iff {symbols : List Char} : accepts ((part ++ "%").toList.map likePlace) symbols = true ↔
    part.toList <+: symbols := by
  rw [String.toList_append,List.map_append,likePlaces_literal literal,accepts_word_append]
  constructor
  · rintro ⟨rest,same,_⟩
    exact ⟨rest,same⟩
  · rintro ⟨rest,same⟩
    exact ⟨rest,same,accepts_any.mpr ⟨[],List.nil_suffix,rfl⟩⟩

theorem sqlLike_startswith : sqlLike (part ++ "%") content = decide (part.toList <+: content.toList) := by
  rw [Bool.eq_iff_iff,decide_eq_true_iff]
  exact begins_iff literal

theorem sqlLike_endswith : sqlLike ("%" ++ part) content = decide (part.toList <:+ content.toList) := by
  rw [Bool.eq_iff_iff,decide_eq_true_iff]
  refine anywhere_iff.trans ?_
  rw [likePlaces_literal literal]
  constructor
  · rintro ⟨rest,behind,accepted⟩
    rw [accepts_word,decide_eq_true_iff] at accepted
    exact accepted ▸ behind
  · exact fun behind => ⟨part.toList,behind,(accepts_word _ _).trans (decide_eq_true rfl)⟩

theorem sqlLike_contains : sqlLike ("%" ++ part ++ "%") content = decide (part.toList <:+: content.toList) := by
  rw [Bool.eq_iff_iff,decide_eq_true_iff,String.append_assoc,List.infix_iff_prefix_suffix]
  refine anywhere_iff.trans (exists_congr fun rest => ?_)
  rw [begins_iff literal,and_comm]

end Parts

section Texts

variable {content pattern part : String} (stored : cell row column = .text content)

include stored

theorem tests_text (test : TextTest) : world.database.truth row (.tests test column (.text pattern)) =
    .ofBool (world.database.test test (.text content) (.text pattern)) := by
  rw [truth,stored]
  exact known_values rfl rfl

theorem like_agrees (likes : Likes world.database) (documented : Documented (world.python.reMatch false))
    (plain : Plain pattern) (clear : Clear pattern content) : world.Agrees row column .like (.text pattern) := by
  have evaluated : MemoryOperators.evaluate world.python .like (cell row column) (.text pattern) =
      .ok (sqlLike pattern content) := by
    rw [stored,evaluate_like (fun null => by cases null)]
    exact like_eq_sqlLike documented plain clear
  refine (agrees_iff_reading rfl evaluated (tests_text stored .like)).mpr ?_
  exact likes.like content pattern

theorem notLike_agrees (likes : Likes world.database) (documented : Documented (world.python.reMatch false))
    (plain : Plain pattern) (clear : Clear pattern content) : world.Agrees row column .notLike (.text pattern) := by
  have agrees := like_agrees stored likes documented plain clear
  intro clause result compiled evaluated
  rw [stored,evaluate_notLike (fun null => by cases null),← stored] at evaluated
  obtain ⟨answer,liked,rfl⟩ := Attempts.map_ok.mp evaluated
  cases compiled
  rw [truth,agrees _ _ rfl liked,Truth.not_ofBool]

theorem part_agrees (likes : Likes world.database) (literal : Literal part) {op : SpecificationOperator}
    (parts : op = .contains ∨ op = .startswith ∨ op = .endswith) : world.Agrees row column op (.text part) := by
  rcases parts with rfl | rfl | rfl
  · refine (agrees_iff_reading rfl (by rw [stored]; exact rfl) (tests_text stored .contains)).mpr ?_
    exact (likes.contains content part).trans (sqlLike_contains literal)
  · refine (agrees_iff_reading rfl (by rw [stored]; exact rfl) (tests_text stored .startswith)).mpr ?_
    exact (likes.startswith content part).trans (sqlLike_startswith literal)
  · refine (agrees_iff_reading rfl (by rw [stored]; exact rfl) (tests_text stored .endswith)).mpr ?_
    exact (likes.endswith content part).trans (sqlLike_endswith literal)

end Texts

end World

end CqrsDdd.Specifications
