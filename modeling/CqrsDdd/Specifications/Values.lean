import CqrsDdd.Attempts
import Mathlib.Data.List.Infix

/-! The values of query parameters and specification dicts, and the operations on
them that raise on a value of the wrong kind. -/
namespace CqrsDdd.Specifications

inductive Failure
  | filterParse (message : String)
  | fieldNotAllowed (message : String)
  | validation (message path : String)
  | operatorNotFound (operator : String)
  | attributeError
  | indexError
  | keyError
  | overflowError
  | recursionError
  | typeError
  | valueError
  deriving DecidableEq, Repr

/-- `Object` stands for what is of no built-in kind and neither a mapping nor iterable, a float for instance. -/
inductive Value (Object : Type)
  | null
  | bool (value : Bool)
  | number (value : Int)
  | text (content : String)
  | list (items : List (Value Object))
  | tuple (items : List (Value Object))
  | dict (fields : List (String × Value Object))
  | object (thing : Object)

/-- The entries of a dict; of two with one key the first one counts. -/
abbrev Fields (Object : Type) := List (String × Value Object)

variable {Object : Type}

/-- What the interpreter and the standard library bring, and `cast_value`, which changes only the value
of a leaf. `str` is that of a value which is not a text. -/
structure Runtime (Object : Type) where
  lower : String → String
  strip : String → String
  str : Value Object → String
  repr : Value Object → String
  typeName : Object → String
  truthy : Object → Bool
  int : Value Object → Except Failure Int
  float : String → Except Failure (Value Object)
  jsonLoads : String → Except String (Value Object)
  castValue : Value Object → Value Object → Except Failure (Value Object)
  /-- How deep nodes may be nested; the interpreter counts frames, and the walks take two of them for a node. -/
  recursionLimit : Nat

def Runtime.ascii : Runtime Empty where
  lower text := String.ofList (text.toList.map Char.toLower)
  strip text := String.ofList (((text.toList.dropWhile Char.isWhitespace).reverse.dropWhile Char.isWhitespace).reverse)
  str _ := ""
  repr value := match value with
    | .text content => "'" ++ content ++ "'"
    | _ => ""
  typeName thing := nomatch thing
  truthy thing := nomatch thing
  int value := match value with
    | .number number => .ok number
    | .bool flag => .ok (if flag then 1 else 0)
    | .text _ => .error .valueError
    | _ => .error .typeError
  float _ := .error .valueError
  jsonLoads _ := .error "Expecting value"
  castValue value _ := .ok value
  recursionLimit := 1000

def Runtime.textOf (runtime : Runtime Object) : Value Object → String
  | .text content => content
  | value => runtime.str value

/-- `text.split(separator)`. -/
def splitOn (separator : Char) (text : String) : List String := (text.toList.splitOn separator).map String.ofList

namespace Value

def isTruthy (runtime : Runtime Object) : Value Object → Bool
  | .null => false
  | .bool value => value
  | .number value => value ≠ 0
  | .text content => content ≠ ""
  | .list items | .tuple items => !items.isEmpty
  | .dict fields => !fields.isEmpty
  | .object thing => runtime.truthy thing

def typeName (runtime : Runtime Object) : Value Object → String
  | .null => "NoneType"
  | .bool _ => "bool"
  | .number _ => "int"
  | .text _ => "str"
  | .list _ => "list"
  | .tuple _ => "tuple"
  | .dict _ => "dict"
  | .object thing => runtime.typeName thing

def isText (name : String) : Value Object → Bool
  | .text content => content = name
  | _ => false

/-- `key in value`, which asks a text for a substring and a sequence for an item. -/
def holds (key : String) : Value Object → Except Failure Bool
  | .dict fields => .ok (fields.lookup key).isSome
  | .text content => .ok (decide (key.toList <:+: content.toList))
  | .list items | .tuple items => .ok (items.any (isText key))
  | _ => .error .typeError

/-- `value[key]`. -/
def item (key : String) : Value Object → Except Failure (Value Object)
  | .dict fields => (fields.lookup key).elim (.error .keyError) .ok
  | _ => .error .typeError

theorem item_ok {fields : Fields Object} {key : String} {value : Value Object}
    (found : item key (.dict fields) = .ok value) : fields.lookup key = some value := by
  change (fields.lookup key).elim _ _ = _ at found
  cases hit : fields.lookup key with
  | none =>
    rw [hit] at found
    cases found
  | some entry =>
    rw [hit] at found
    exact congrArg some (Except.ok.inj found)

/-- `value.get(key, default)`. -/
def get (value : Value Object) (key : String) (default : Value Object) : Except Failure (Value Object) :=
  match value with
  | .dict fields => .ok ((fields.lookup key).getD default)
  | _ => .error .attributeError

/-- `value.lower()`. -/
def lower (runtime : Runtime Object) : Value Object → Except Failure String
  | .text content => .ok (runtime.lower content)
  | _ => .error .attributeError

def letters (content : String) : List (Value Object) := content.toList.map fun char => .text (String.singleton char)

/-- The items that a loop over the value meets. -/
def iterate : Value Object → Except Failure (List (Value Object))
  | .list items | .tuple items => .ok items
  | .text content => .ok (letters content)
  | .dict fields => .ok (fields.map fun entry => .text entry.1)
  | _ => .error .typeError

/-- `value[0]`. -/
def first : Value Object → Except Failure (Value Object)
  | .list items | .tuple items => items.head?.elim (.error .indexError) .ok
  | .text content => (letters content).head?.elim (.error .indexError) .ok
  | .dict _ => .error .keyError
  | _ => .error .typeError

theorem first_mem {value child : Value Object} {items : List (Value Object)} (iterated : value.iterate = .ok items)
    (found : value.first = .ok child) : child ∈ items := by
  have head : ∀ several : List (Value Object),
      several.head?.elim (Except.error Failure.indexError) Except.ok = .ok child → child ∈ several := by
    intro several taken
    cases several with
    | nil => cases taken
    | cons one others =>
      obtain rfl := Except.ok.inj taken
      exact List.mem_cons_self
  cases value with
  | list several | tuple several =>
    obtain rfl := Except.ok.inj iterated
    exact head several found
  | text content =>
    obtain rfl := Except.ok.inj iterated
    exact head (letters content) found
  | dict fields => cases found
  | null | bool _ | number _ | object _ => cases found

end Value

end CqrsDdd.Specifications
