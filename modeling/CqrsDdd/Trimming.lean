import Mathlib.Data.List.DropRight
import Mathlib.Data.List.Infix

/-! Lists without their blanks at both ends, and lists joined by a separator. A separator
that is no blank stops the trimming, so trimming a joined list trims its outer parts. -/
namespace CqrsDdd.Trimming

variable {Letter : Type*} {blank : Letter → Bool}

def trim (blank : Letter → Bool) (text : List Letter) : List Letter := (text.dropWhile blank).rdropWhile blank

theorem dropWhile_stop {stop : Letter} (solid : blank stop = false) (before after : List Letter) :
    (before ++ stop::after).dropWhile blank = before.dropWhile blank ++ stop::after := by
  induction before with
  | nil => rw [List.nil_append,List.dropWhile_cons_of_neg (by simp [solid]),List.dropWhile_nil,List.nil_append]
  | cons letter rest ih =>
    rw [List.cons_append]
    cases here : blank letter with
    | true => rw [List.dropWhile_cons_of_pos here,List.dropWhile_cons_of_pos here,ih]
    | false =>
      rw [List.dropWhile_cons_of_neg (by simp [here]),List.dropWhile_cons_of_neg (by simp [here]),List.cons_append]

theorem rdropWhile_stop {stop : Letter} (solid : blank stop = false) (before after : List Letter) :
    (before ++ stop::after).rdropWhile blank = before ++ stop::after.rdropWhile blank := by
  simp only [List.rdropWhile,List.reverse_append,List.reverse_cons,List.append_assoc,List.singleton_append]
  rw [dropWhile_stop solid]
  simp

theorem trim_stop {stop : Letter} (solid : blank stop = false) (before after : List Letter) :
    trim blank (before ++ stop::after) = before.dropWhile blank ++ stop::after.rdropWhile blank := by
  rw [trim,dropWhile_stop solid,rdropWhile_stop solid]

theorem blank_or_solid (blank : Letter → Bool) (text : List Letter) :
    (∀ letter ∈ text, blank letter = true) ∨
      ∃ before stop after, text = before ++ stop::after ∧ (∀ letter ∈ before, blank letter = true) ∧
        blank stop = false := by
  induction text with
  | nil => exact .inl fun _ member => absurd member List.not_mem_nil
  | cons letter rest ih =>
    cases here : blank letter with
    | false => exact .inr ⟨[],letter,rest,rfl,fun _ member => absurd member List.not_mem_nil,here⟩
    | true =>
      rcases ih with all | ⟨before,stop,after,same,blanks,solid⟩
      · exact .inl (List.forall_mem_cons.mpr ⟨here,all⟩)
      · exact .inr ⟨letter::before,stop,after,by rw [same,List.cons_append],List.forall_mem_cons.mpr ⟨here,blanks⟩,solid⟩

theorem trim_dropWhile (blank : Letter → Bool) (text : List Letter) :
    trim blank (text.dropWhile blank) = trim blank text := by
  rw [trim,List.dropWhile_idempotent,trim]

theorem trim_rdropWhile (blank : Letter → Bool) (text : List Letter) :
    trim blank (text.rdropWhile blank) = trim blank text := by
  rcases blank_or_solid blank text with all | ⟨before,stop,after,rfl,_,solid⟩
  · have nothing : text.rdropWhile blank = [] := List.rdropWhile_eq_nil_iff.mpr all
    rw [nothing,trim,trim,List.dropWhile_eq_nil_iff.mpr all,List.dropWhile_nil]
  · rw [rdropWhile_stop solid,trim_stop solid,trim_stop solid,List.rdropWhile_idempotent]

theorem trim_trim (blank : Letter → Bool) (text : List Letter) : trim blank (trim blank text) = trim blank text := by
  calc trim blank ((text.dropWhile blank).rdropWhile blank)
      = trim blank (text.dropWhile blank) := trim_rdropWhile blank _
    _ = trim blank text := trim_dropWhile blank text

theorem mem_dropWhile {stop : Letter} (solid : blank stop = false) {text : List Letter} :
    stop ∈ text.dropWhile blank ↔ stop ∈ text := by
  induction text with
  | nil => rfl
  | cons letter rest ih =>
    cases here : blank letter with
    | true =>
      have other : stop ≠ letter := fun same => by rw [same,here] at solid; cases solid
      rw [List.dropWhile_cons_of_pos here,ih,List.mem_cons,or_iff_right other]
    | false => rw [List.dropWhile_cons_of_neg (by simp [here])]

theorem intercalate_eq (separator : Letter) (first : List Letter) (rest : List (List Letter)) :
    [separator].intercalate (first::rest) = first ++ rest.flatMap (separator::·) := by
  induction rest generalizing first with
  | nil => simp
  | cons next rest ih =>
    rw [List.intercalate_cons_cons,ih,List.flatMap_cons,List.append_assoc]
    rfl

variable [DecidableEq Letter]

theorem count_dropWhile {stop : Letter} (solid : blank stop = false) (text : List Letter) :
    (text.dropWhile blank).count stop = text.count stop := by
  induction text with
  | nil => rfl
  | cons letter rest ih =>
    cases here : blank letter with
    | true =>
      have other : letter ≠ stop := fun same => by rw [← same,here] at solid; cases solid
      rw [List.dropWhile_cons_of_pos here,ih,List.count_cons_of_ne other]
    | false => rw [List.dropWhile_cons_of_neg (by simp [here])]

theorem count_trim {stop : Letter} (solid : blank stop = false) (text : List Letter) :
    (trim blank text).count stop = text.count stop := by
  rw [trim,List.rdropWhile,List.count_reverse,count_dropWhile solid,List.count_reverse,count_dropWhile solid]

theorem splitOn_append_left {separator : Letter} {before : List Letter} (absent : separator ∉ before)
    (text : List Letter) : (before ++ text).splitOn separator = (text.splitOn separator).modifyHead (before ++ ·) := by
  obtain ⟨head,tail,split⟩ := List.exists_cons_of_ne_nil (List.splitOn_ne_nil separator text)
  rw [split,List.modifyHead_cons]
  induction before with
  | nil => rw [List.nil_append,List.nil_append,split]
  | cons letter rest ih =>
    have differs : ¬(letter == separator) = true := fun same => absent (by simp [eq_of_beq same])
    rw [List.cons_append,List.splitOn_cons_eq_if_modifyHead,if_neg differs,
      ih fun member => absent (List.mem_cons_of_mem letter member),List.modifyHead_cons,List.cons_append]

theorem not_mem_piece {separator : Letter} {text piece : List Letter} (member : piece ∈ text.splitOn separator) :
    separator ∉ piece := by
  induction text generalizing piece with
  | nil =>
    rw [List.splitOn_nil,List.mem_singleton] at member
    rw [member]
    exact List.not_mem_nil
  | cons letter rest ih =>
    rw [List.splitOn_cons_eq_if_modifyHead] at member
    split at member
    next =>
      rcases List.mem_cons.mp member with rfl | later
      · exact List.not_mem_nil
      · exact ih later
    next differs =>
      obtain ⟨head,tail,split⟩ := List.exists_cons_of_ne_nil (List.splitOn_ne_nil separator rest)
      rw [split,List.modifyHead_cons] at member
      rcases List.mem_cons.mp member with rfl | later
      · have absent := ih (by rw [split]; exact List.mem_cons_self)
        intro inside
        rcases List.mem_cons.mp inside with same | deeper
        · exact differs (by simp [same])
        · exact absent deeper
      · exact ih (by rw [split]; exact List.mem_cons_of_mem _ later)

/-- The pieces of a text with a separator are trimmed alike whether or not the text was trimmed first. -/
theorem splitOn_trim {separator : Letter} (solid : blank separator = false) {text : List Letter}
    (member : separator ∈ text) :
    ((trim blank text).splitOn separator).map (trim blank) = (text.splitOn separator).map (trim blank) := by
  have left (text : List Letter) (member : separator ∈ text) :
      ((text.dropWhile blank).splitOn separator).map (trim blank) = (text.splitOn separator).map (trim blank) := by
    obtain ⟨before,after,rfl,absent⟩ := List.eq_append_cons_of_mem member
    have gone : separator ∉ before.dropWhile blank := fun inside => absent ((mem_dropWhile solid).mp inside)
    rw [dropWhile_stop solid,List.splitOn_append_cons_self_of_not_mem gone,
      List.splitOn_append_cons_self_of_not_mem absent,List.map_cons,List.map_cons,trim_dropWhile]
  have right (text : List Letter) (member : separator ∈ text) :
      ((text.rdropWhile blank).splitOn separator).map (trim blank) = (text.splitOn separator).map (trim blank) := by
    obtain ⟨before,after,reversed,absent⟩ := List.eq_append_cons_of_mem (List.mem_reverse.mpr member)
    have same : text = after.reverse ++ separator::before.reverse := by
      rw [← List.reverse_reverse text,reversed]
      simp
    have last : separator ∉ before.reverse := by simpa using absent
    have gone : separator ∉ before.reverse.rdropWhile blank := fun inside =>
      last ((List.rdropWhile_prefix blank _).subset inside)
    rw [same,rdropWhile_stop solid,List.splitOn_append_cons_self,List.splitOn_append_cons_self,
      List.splitOn_eq_singleton last,List.splitOn_eq_singleton gone]
    simp only [List.map_append,List.map_cons,List.map_nil,trim_rdropWhile]
  rw [trim,right _ ((mem_dropWhile solid).mpr member),left text member]

end CqrsDdd.Trimming
