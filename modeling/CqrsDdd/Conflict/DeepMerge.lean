import CqrsDdd.OrderedMerge

/-! `DeepMergeStrategy`. Objects carry the address that `id` answers, since items without
an identity of their own are told apart by it. A deep copy moves all containers of a dict to
addresses that are not in use yet; scalars are shared. -/
namespace CqrsDdd.Conflict

inductive Scalar
  | null
  | bool (value : Bool)
  | number (value : Int)
  | text (content : String)
  deriving DecidableEq, Repr

inductive Node (Address : Type)
  | scalar (address : Address) (value : Scalar)
  | list (address : Address) (items : List (Node Address))
  | dict (address : Address) (entries : List (String × Node Address))

/-- A key of the result map; booleans are numbers. -/
inductive Identity
  | null
  | number (value : Int)
  | text (content : String)
  deriving DecidableEq, Repr

inductive MergeError
  | typeError (message : String)
  deriving DecidableEq, Repr

abbrev Alloc (Result : Type) := StateT Nat (Except MergeError) Result

def Scalar.truthy : Scalar → Bool
  | .null => false
  | .bool value => value
  | .number value => value ≠ 0
  | .text content => content ≠ ""

def Scalar.hashed : Scalar → Identity
  | .null => .null
  | .bool value => .number (if value then 1 else 0)
  | .number value => .number value
  | .text content => .text content

namespace Node

variable {Address : Type}

def address : Node Address → Address
  | .scalar address _ | .list address _ | .dict address _ => address

def truthy : Node Address → Bool
  | .scalar _ value => value.truthy
  | .list _ items => !items.isEmpty
  | .dict _ entries => !entries.isEmpty

def hashed : Node Address → Except MergeError Identity
  | .scalar _ value => .ok value.hashed
  | .list _ _ => .error (.typeError "unhashable type: 'list'")
  | .dict _ _ => .error (.typeError "unhashable type: 'dict'")

mutual

def moved (offset : Nat) : Node Nat → Node Nat
  | .scalar address value => .scalar address value
  | .list address items => .list (offset + address) (movedItems offset items)
  | .dict address entries => .dict (offset + address) (movedEntries offset entries)

def movedItems (offset : Nat) : List (Node Nat) → List (Node Nat)
  | [] => []
  | item::rest => moved offset item::movedItems offset rest

def movedEntries (offset : Nat) : List (String × Node Nat) → List (String × Node Nat)
  | [] => []
  | (key,value)::rest => (key,moved offset value)::movedEntries offset rest

end

end Node

/-- `list_identity_key`. -/
inductive IdentityKey
  | absent
  | field (name : String)
  | callable (identity : Node Nat → Except MergeError Identity)

/-- `not list_identity_key`. -/
def IdentityKey.isFalsy : IdentityKey → Bool
  | .absent => true
  | .field name => name = ""
  | .callable _ => false

structure DeepMergeStrategy where
  appendLists : Bool
  listIdentityKey : IdentityKey

namespace DeepMergeStrategy

/-- What `hasattr` and `getattr` find on an object that is no dict. -/
abbrev Attributes := Node Nat → String → Option (Except MergeError Identity)

variable (attributes : Attributes) (strategy : DeepMergeStrategy)

/-- All addresses in use are below the counter, so that adding it makes new ones. -/
def deepcopy : Alloc Nat := fun counter => .ok (counter,counter + counter)

def newObject : Alloc Nat := fun counter => .ok (counter,counter + 1)

def getIdentity (item : Node Nat) : Except MergeError Identity :=
  match strategy.listIdentityKey with
  | .callable identity => identity item
  | .absent => .ok (.number item.address)
  | .field key =>
    match item with
    | .dict address entries =>
      if key = "" then .ok (.number address)
      else
        match entries.lookup key with
        | some value => if value.truthy then value.hashed else .ok (.number address)
        | none => .ok (.number address)
    | item => (attributes item key).getD (.ok (.number item.address))

/-- The comprehension over the items of the first list. -/
def resultMap : List (Identity × Node Nat) → List (Node Nat) → Except MergeError (List (Identity × Node Nat))
  | collected,[] => .ok collected
  | collected,item::rest => do
    let identity ← getIdentity attributes strategy item
    resultMap (Dict.put identity item collected) rest

def mergeLists (l1 : List (Node Nat)) (address : Nat) (l2 : List (Node Nat))
    (update : List (Identity × Node Nat) → Alloc (List (Identity × Node Nat))) : Alloc (Node Nat) :=
  if strategy.listIdentityKey.isFalsy then
    if strategy.appendLists then do
      let created ← newObject
      return .list created (l1 ++ l2)
    else
      return .list address l2
  else do
    let merged ← update (← resultMap attributes strategy [] l1)
    let created ← newObject
    return .list created (merged.map Prod.snd)

def mergeDicts (address : Nat) (d1 : List (String × Node Nat))
    (update : List (String × Node Nat) → Alloc (List (String × Node Nat))) : Alloc (Node Nat) := do
  let offset ← deepcopy
  return .dict (offset + address) (← update (Node.movedEntries offset d1))

mutual

def merge (existing : Node Nat) : Node Nat → Alloc (Node Nat)
  | .dict address d2 =>
    match existing with
    | .dict copied d1 => mergeDicts copied d1 fun result => mergeEntries result d2
    | _ => return .dict address d2
  | .list address l2 =>
    match existing with
    | .list _ l1 => mergeLists attributes strategy l1 address l2 fun resultMap => mergeItems resultMap l2
    | _ => return .list address l2
  | .scalar address value => return .scalar address value

/-- The loop of `_merge_dicts` over the entries of the second dict. -/
def mergeEntries (result : List (String × Node Nat)) : List (String × Node Nat) → Alloc (List (String × Node Nat))
  | [] => return result
  | (key,value)::rest => do
    match result.lookup key with
    | some old =>
      let merged ← merge old value
      mergeEntries (Dict.put key merged result) rest
    | none => mergeEntries (Dict.put key value result) rest

/-- The loop of `_merge_lists` over the items of the second list. -/
def mergeItems (resultMap : List (Identity × Node Nat)) : List (Node Nat) → Alloc (List (Identity × Node Nat))
  | [] => return resultMap
  | item::rest => do
    let identity ← getIdentity attributes strategy item
    match resultMap.lookup identity with
    | some old =>
      let merged ← merge old item
      mergeItems (Dict.put identity merged resultMap) rest
    | none => mergeItems (Dict.put identity item resultMap) rest

end

end DeepMergeStrategy

end CqrsDdd.Conflict
