import CqrsDdd.Specifications.Values

/-! Casts of leaf values to a type that the dict names. A cast keeps the value where the
conversion raises ValueError or TypeError, and lets every other exception pass. -/
namespace CqrsDdd.Specifications

open Attempts

variable {Object : Type}

/-- The conversions of the standard library, each of a value that is not of the type already. -/
structure Conversions (Object : Type) where
  int : Value Object → Except Failure (Value Object)
  float : Value Object → Except Failure (Value Object)
  date : Value Object → Except Failure (Value Object)
  datetime : Value Object → Except Failure (Value Object)
  time : Value Object → Except Failure (Value Object)
  interval : Value Object → Except Failure (Value Object)
  uuid : Value Object → Except Failure (Value Object)
  jsonLoads : Value Object → Except Failure (Value Object)
  bytes : Value Object → Except Failure (Value Object)

namespace Casting

variable (runtime : Runtime Object) (conversions : Conversions Object)

def castBoolean : Value Object → Value Object
  | .bool value => .bool value
  | .text content => .bool (decide (runtime.lower content ∈ ["true","1","yes"]))
  | value => .bool (value.isTruthy runtime)

/-- A text that is JSON for null gives none. -/
def castJson : Value Object → Except Failure (Option (Value Object))
  | .dict fields => .ok (some (.dict fields))
  | .list items => .ok (some (.list items))
  | value => do
    match ← conversions.jsonLoads value with
    | .null => return none
    | loaded => return some loaded

def stripChar (char : Char) (content : List Char) : List Char :=
  ((content.dropWhile (· = char)).reverse.dropWhile (· = char)).reverse

def parseListValue : Value Object → Value Object
  | .list items => .list items
  | .tuple items => .list items
  | .text raw =>
    let stripped := (runtime.strip raw).toList
    let bracketed := stripped.head? = some '[' ∧ stripped.getLast? = some ']'
    let content := if bracketed then (runtime.strip (String.ofList (stripped.drop 1).dropLast)).toList else stripped
    if content = [] then .list []
    else .list ((splitOn ',' (String.ofList content)).map fun item =>
      .text (String.ofList (stripChar '"' (stripChar '\'' (runtime.strip item).toList))))
  | value => .list [value]

def inferAuto (content : String) : Except Failure (Value Object) :=
  match conversions.int (.text content) with
  | .ok value => .ok value
  | .error .valueError =>
    match conversions.float (.text content) with
    | .ok value => .ok value
    | .error .valueError =>
      if runtime.lower content ∈ ["true","yes","1"] then .ok (.bool true)
      else if runtime.lower content ∈ ["false","no","0"] then .ok (.bool false)
      else .ok (.text content)
    | .error failure => .error failure
  | .error failure => .error failure

/-- The conversion that a lowered type names; an unknown type passes the value through. -/
def conversionOf (vt : String) (value : Value Object) : Except Failure (Value Object) :=
  if vt ∈ ["string","text","str"] then .ok (.text (runtime.textOf value))
  else if vt ∈ ["integer","int","smallinteger","biginteger"] then conversions.int value
  else if vt ∈ ["float","double","decimal","numeric"] then conversions.float value
  else if vt ∈ ["boolean","bool"] then .ok (castBoolean runtime value)
  else match vt with
    | "date" => conversions.date value
    | "datetime" => conversions.datetime value
    | "time" => conversions.time value
    | "interval" => conversions.interval value
    | "uuid" => conversions.uuid value
    | "json" => do return (← castJson conversions value).getD value
    | "largebinary" => conversions.bytes value
    | "list" => .ok (parseListValue runtime value)
    | "auto" =>
      match value with
      | .text content => inferAuto runtime conversions content
      | _ => .ok value
    | _ => .ok value

def castExplicit (valueType value : Value Object) : Except Failure (Value Object) := do
  conversionOf runtime conversions (← valueType.lower runtime) value

/-- A cast of what is no list. -/
def castItem (valueType value : Value Object) : Except Failure (Value Object) :=
  match castExplicit runtime conversions valueType value with
  | .error .valueError | .error .typeError => .ok value
  | result => result

mutual
/-- `cast_value` with a type. -/
def castValue (valueType : Value Object) : Value Object → Except Failure (Value Object)
  | .list items => do return .list (← castValues valueType items)
  | value => castItem runtime conversions valueType value
def castValues (valueType : Value Object) : List (Value Object) → Except Failure (List (Value Object))
  | [] => .ok []
  | item::rest => do return (← castValue valueType item)::(← castValues valueType rest)
end

/-- The exceptions that `cast_value` does not catch. -/
def Passes (failure : Failure) : Prop := failure ≠ .valueError ∧ failure ≠ .typeError

mutual
/-- The type is a text wherever a value meets it, and its conversion raises at most ValueError and TypeError. -/
def Castable (valueType : Value Object) : Value Object → Prop
  | .list items => AllCastable valueType items
  | value => ∃ name, valueType = .text name ∧
      ∀ failure, conversionOf runtime conversions (runtime.lower name) value = .error failure → ¬Passes failure
def AllCastable (valueType : Value Object) : List (Value Object) → Prop
  | [] => True
  | item::rest => Castable valueType item ∧ AllCastable valueType rest
end

variable {runtime conversions}

theorem castItem_ok (valueType value : Value Object) :
    (∃ cast, castItem runtime conversions valueType value = .ok cast) ↔ ∃ name, valueType = .text name ∧
      ∀ failure, conversionOf runtime conversions (runtime.lower name) value = .error failure → ¬Passes failure := by
  cases valueType with
  | text name =>
    have spelled : castExplicit runtime conversions (.text name) value =
        conversionOf runtime conversions (runtime.lower name) value := rfl
    unfold castItem
    rw [spelled]
    cases converted : conversionOf runtime conversions (runtime.lower name) value with
    | ok cast =>
      refine ⟨fun _ => ⟨name,rfl,fun failure raised => ?_⟩,fun _ => ⟨cast,rfl⟩⟩
      cases converted.symm.trans raised
    | error failure =>
      constructor
      · rintro ⟨cast,kept⟩
        refine ⟨name,rfl,fun other raised passes => ?_⟩
        cases converted.symm.trans raised
        split at kept
        next caught => exact passes.1 (Except.error.inj caught)
        next caught => exact passes.2 (Except.error.inj caught)
        next => cases kept
      · rintro ⟨other,same,caught⟩
        have stopped := caught failure (Value.text.inj same ▸ converted)
        split
        next => exact ⟨value,rfl⟩
        next => exact ⟨value,rfl⟩
        next notValue notType =>
          exact absurd ⟨fun same => notValue (congrArg _ same),fun same => notType (congrArg _ same)⟩ stopped
  | null | bool _ | number _ | list _ | tuple _ | dict _ | object _ =>
    constructor
    · rintro ⟨cast,kept⟩
      cases kept
    · rintro ⟨name,same,_⟩
      cases same

mutual
theorem castValue_ok (valueType : Value Object) : (value : Value Object) →
    ((∃ cast, castValue runtime conversions valueType value = .ok cast) ↔
      Castable runtime conversions valueType value)
  | .list items => by
    rw [Castable,castValue,← castValues_ok valueType items]
    constructor
    · rintro ⟨cast,kept⟩
      obtain ⟨values,all,_⟩ := bind_ok.mp kept
      exact ⟨values,all⟩
    · rintro ⟨values,all⟩
      exact ⟨.list values,bind_ok.mpr ⟨values,all,rfl⟩⟩
  | .null | .bool _ | .number _ | .text _ | .tuple _ | .dict _ | .object _ => by
    rw [Castable,castValue]
    · exact castItem_ok valueType _
    all_goals simp
theorem castValues_ok (valueType : Value Object) : (items : List (Value Object)) →
    ((∃ values, castValues runtime conversions valueType items = .ok values) ↔
      AllCastable runtime conversions valueType items)
  | [] => ⟨fun _ => trivial,fun _ => ⟨[],rfl⟩⟩
  | item::rest => by
    rw [AllCastable,castValues,← castValue_ok valueType item,← castValues_ok valueType rest]
    constructor
    · rintro ⟨values,kept⟩
      obtain ⟨cast,first,kept⟩ := bind_ok.mp kept
      obtain ⟨others,later,_⟩ := bind_ok.mp kept
      exact ⟨⟨cast,first⟩,others,later⟩
    · rintro ⟨⟨cast,first⟩,others,later⟩
      exact ⟨cast::others,bind_ok.mpr ⟨cast,first,bind_ok.mpr ⟨others,later,rfl⟩⟩⟩
end

end Casting

/-- The runtime with the casts of the factory. -/
def Runtime.casting (runtime : Runtime Object) (conversions : Conversions Object) : Runtime Object :=
  {runtime with castValue := fun value valueType => Casting.castValue runtime conversions valueType value}

namespace Casting

variable {conversions : Conversions Object}

mutual
theorem castable_casting (runtime : Runtime Object) (valueType : Value Object) : (value : Value Object) →
    (Castable (runtime.casting conversions) conversions valueType value ↔ Castable runtime conversions valueType value)
  | .list items => by
    rw [Castable,Castable]
    exact allCastable_casting runtime valueType items
  | .null | .bool _ | .number _ | .text _ | .tuple _ | .dict _ | .object _ => by
    rw [Castable,Castable]
    · rfl
    all_goals simp
theorem allCastable_casting (runtime : Runtime Object) (valueType : Value Object) : (items : List (Value Object)) →
    (AllCastable (runtime.casting conversions) conversions valueType items ↔
      AllCastable runtime conversions valueType items)
  | [] => Iff.rfl
  | item::rest => by
    rw [AllCastable,AllCastable,castable_casting runtime valueType item,allCastable_casting runtime valueType rest]
end

end Casting

end CqrsDdd.Specifications
