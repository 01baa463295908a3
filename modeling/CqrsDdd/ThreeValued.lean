import Mathlib.Data.List.Forall2

/-! Three-valued truth with the connectives of SQL, and what a three-valued reading says
of a two-valued one: it confirms it where it holds exactly when the other does, and it
refutes it where it fails exactly when the other does. Negation exchanges the two. -/
namespace CqrsDdd.ThreeValued

inductive Truth
  | holds
  | fails
  | unknown
  deriving DecidableEq, Repr

namespace Truth

def ofBool (value : Bool) : Truth := if value then holds else fails

def not : Truth → Truth
  | holds => fails
  | fails => holds
  | unknown => unknown

def all (values : List Truth) : Truth :=
  if fails ∈ values then fails else if unknown ∈ values then unknown else holds

def any (values : List Truth) : Truth :=
  if holds ∈ values then holds else if unknown ∈ values then unknown else fails

@[simp] theorem ofBool_eq_holds {value : Bool} : ofBool value = holds ↔ value = true := by
  cases value <;> simp [ofBool]

@[simp] theorem ofBool_eq_fails {value : Bool} : ofBool value = fails ↔ value = false := by
  cases value <;> simp [ofBool]

theorem ofBool_inj {first second : Bool} : ofBool first = ofBool second ↔ first = second := by
  cases first <;> cases second <;> simp [ofBool]

theorem not_ofBool (value : Bool) : (ofBool value).not = ofBool (!value) := by
  cases value with
  | true => exact rfl
  | false => exact rfl

@[simp] theorem not_eq_holds {value : Truth} : value.not = holds ↔ value = fails := by
  cases value <;> simp [not]

@[simp] theorem not_eq_fails {value : Truth} : value.not = fails ↔ value = holds := by
  cases value <;> simp [not]

theorem all_eq_fails {values : List Truth} : all values = fails ↔ fails ∈ values := by
  unfold all
  split
  next failing => exact iff_of_true rfl failing
  next passing =>
    refine iff_of_false ?_ passing
    split
    next => exact fun same => (by cases same)
    next => exact fun same => (by cases same)

theorem all_eq_holds {values : List Truth} : all values = holds ↔ ∀ value ∈ values, value = holds := by
  unfold all
  split
  next failing => exact iff_of_false (fun same => (by cases same)) fun each => (by cases each fails failing)
  next passing =>
    split
    next open_ => exact iff_of_false (fun same => (by cases same)) fun each => (by cases each unknown open_)
    next closed =>
      refine iff_of_true rfl fun value member => ?_
      cases value with
      | holds => exact rfl
      | fails => exact absurd member passing
      | unknown => exact absurd member closed

theorem any_eq_holds {values : List Truth} : any values = holds ↔ holds ∈ values := by
  unfold any
  split
  next passing => exact iff_of_true rfl passing
  next failing =>
    refine iff_of_false ?_ failing
    split
    next => exact fun same => (by cases same)
    next => exact fun same => (by cases same)

theorem any_eq_fails {values : List Truth} : any values = fails ↔ ∀ value ∈ values, value = fails := by
  unfold any
  split
  next passing => exact iff_of_false (fun same => (by cases same)) fun each => (by cases each holds passing)
  next failing =>
    split
    next open_ => exact iff_of_false (fun same => (by cases same)) fun each => (by cases each unknown open_)
    next closed =>
      refine iff_of_true rfl fun value member => ?_
      cases value with
      | fails => exact rfl
      | holds => exact absurd member failing
      | unknown => exact absurd member closed

/-- The reading holds exactly when the value does. -/
def Confirms (reading : Truth) (value : Bool) : Prop := reading = holds ↔ value = true

/-- The reading fails exactly when the value does. -/
def Refutes (reading : Truth) (value : Bool) : Prop := reading = fails ↔ value = false

theorem confirms_ofBool (value : Bool) : Confirms (ofBool value) value := ofBool_eq_holds

theorem refutes_ofBool (value : Bool) : Refutes (ofBool value) value := ofBool_eq_fails

theorem eq_ofBool {reading : Truth} {value : Bool} (confirms : Confirms reading value) (refutes : Refutes reading value) :
    reading = ofBool value := by
  cases value with
  | true => exact confirms.mpr rfl
  | false => exact refutes.mpr rfl

theorem confirms_not {reading : Truth} {value : Bool} : Confirms reading.not (!value) ↔ Refutes reading value := by
  unfold Confirms Refutes
  rw [not_eq_holds,Bool.not_eq_true']

theorem refutes_not {reading : Truth} {value : Bool} : Refutes reading.not (!value) ↔ Confirms reading value := by
  unfold Confirms Refutes
  rw [not_eq_fails,Bool.not_eq_false']

/-- What a reading has to say of a value: to confirm it, or under an odd number of negations to refute it. -/
def Reads (positive : Bool) (reading : Truth) (value : Bool) : Prop :=
  if positive then Confirms reading value else Refutes reading value

theorem reads_ofBool {positive : Bool} {known value : Bool} : Reads positive (ofBool known) value ↔ known = value := by
  unfold Reads Confirms Refutes
  split
  next =>
    rw [ofBool_eq_holds]
    exact Bool.eq_iff_iff.symm
  next =>
    rw [ofBool_eq_fails]
    cases known <;> cases value <;> simp

theorem reads_self (positive value : Bool) : Reads positive (ofBool value) value := reads_ofBool.mpr rfl

theorem reads_unknown {positive : Bool} {value : Bool} : Reads positive unknown value ↔ value = !positive := by
  unfold Reads Confirms Refutes
  cases positive <;> cases value <;> simp

theorem reads_not {positive : Bool} {reading : Truth} {value : Bool} :
    Reads positive reading.not (!value) ↔ Reads (!positive) reading value := by
  cases positive with
  | true => exact confirms_not
  | false => exact refutes_not

variable {readings : List Truth} {values : List Bool}

theorem all_confirms (related : List.Forall₂ Confirms readings values) : Confirms (all readings) (values.all id) := by
  unfold Confirms
  rw [all_eq_holds,List.all_eq_true]
  induction related with
  | nil => simp
  | cons head _ ih =>
    rw [List.forall_mem_cons,List.forall_mem_cons]
    exact and_congr head ih

theorem all_refutes (related : List.Forall₂ Refutes readings values) : Refutes (all readings) (values.all id) := by
  unfold Refutes
  rw [all_eq_fails]
  induction related with
  | nil => simp
  | cons head _ ih =>
    rw [List.mem_cons,ih,List.all_cons,Bool.and_eq_false_iff]
    exact or_congr (eq_comm.trans head) Iff.rfl

theorem any_confirms (related : List.Forall₂ Confirms readings values) : Confirms (any readings) (values.any id) := by
  unfold Confirms
  rw [any_eq_holds]
  induction related with
  | nil => simp
  | cons head _ ih =>
    rw [List.mem_cons,ih,List.any_cons,Bool.or_eq_true]
    exact or_congr (eq_comm.trans head) Iff.rfl

theorem any_refutes (related : List.Forall₂ Refutes readings values) : Refutes (any readings) (values.any id) := by
  unfold Refutes
  rw [any_eq_fails,List.any_eq_false]
  induction related with
  | nil => simp
  | cons head _ ih =>
    rw [List.forall_mem_cons,List.forall_mem_cons]
    exact and_congr (head.trans (by simp)) ih

section Cons

variable {positive value : Bool} {reading : Truth} {rest : List Truth}

/-- A conjunction that is false by its first part is read without the others. -/
theorem all_reads_false (reads : Reads positive reading false) : Reads positive (all (reading::rest)) false := by
  cases positive with
  | true =>
    have confirms : Confirms reading false := reads
    exact iff_of_false (fun holding => Bool.false_ne_true (confirms.mp (all_eq_holds.mp holding reading List.mem_cons_self)))
      Bool.false_ne_true
  | false =>
    have refutes : Refutes reading false := reads
    exact iff_of_true (all_eq_fails.mpr (List.mem_cons.mpr (.inl (refutes.mpr rfl).symm))) rfl

theorem all_reads_true (reads : Reads positive reading true) (later : Reads positive (all rest) value) :
    Reads positive (all (reading::rest)) value := by
  cases positive with
  | true =>
    have confirms : Confirms reading true := reads
    have remaining : Confirms (all rest) value := later
    change all (reading::rest) = holds ↔ _
    rw [all_eq_holds,List.forall_mem_cons,← all_eq_holds,and_iff_right (confirms.mpr rfl)]
    exact remaining
  | false =>
    have refutes : Refutes reading true := reads
    have remaining : Refutes (all rest) value := later
    change all (reading::rest) = fails ↔ _
    rw [all_eq_fails,List.mem_cons,← all_eq_fails,
      or_iff_right fun same => Bool.false_ne_true (refutes.mp same.symm).symm]
    exact remaining

/-- A disjunction that is true by its first part is read without the others. -/
theorem any_reads_true (reads : Reads positive reading true) : Reads positive (any (reading::rest)) true := by
  cases positive with
  | true =>
    have confirms : Confirms reading true := reads
    exact iff_of_true (any_eq_holds.mpr (List.mem_cons.mpr (.inl (confirms.mpr rfl).symm))) rfl
  | false =>
    have refutes : Refutes reading true := reads
    exact iff_of_false
      (fun failing => Bool.false_ne_true (refutes.mp (any_eq_fails.mp failing reading List.mem_cons_self)).symm)
      Bool.false_ne_true.symm

theorem any_reads_false (reads : Reads positive reading false) (later : Reads positive (any rest) value) :
    Reads positive (any (reading::rest)) value := by
  cases positive with
  | true =>
    have confirms : Confirms reading false := reads
    have remaining : Confirms (any rest) value := later
    change any (reading::rest) = holds ↔ _
    rw [any_eq_holds,List.mem_cons,← any_eq_holds,or_iff_right fun same => Bool.false_ne_true (confirms.mp same.symm)]
    exact remaining
  | false =>
    have refutes : Refutes reading false := reads
    have remaining : Refutes (any rest) value := later
    change any (reading::rest) = fails ↔ _
    rw [any_eq_fails,List.forall_mem_cons,← any_eq_fails,and_iff_right (refutes.mpr rfl)]
    exact remaining

end Cons

theorem forall₂_ofBool {related : Truth → Bool → Prop} (each : ∀ value, related (ofBool value) value) (values : List Bool) :
    List.Forall₂ related (values.map ofBool) values := by
  induction values with
  | nil => exact .nil
  | cons value rest ih => exact .cons (each value) ih

theorem all_ofBool (values : List Bool) : all (values.map ofBool) = ofBool (values.all id) :=
  eq_ofBool (all_confirms (forall₂_ofBool confirms_ofBool values)) (all_refutes (forall₂_ofBool refutes_ofBool values))

theorem any_ofBool (values : List Bool) : any (values.map ofBool) = ofBool (values.any id) :=
  eq_ofBool (any_confirms (forall₂_ofBool confirms_ofBool values)) (any_refutes (forall₂_ofBool refutes_ofBool values))

end Truth

end CqrsDdd.ThreeValued
