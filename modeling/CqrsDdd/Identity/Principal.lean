import CqrsDdd.Specifications.Values
import Mathlib.Data.Finset.Basic
import Mathlib.Data.Finset.Dedup

/-! The principal of the identity package. -/
namespace CqrsDdd.Identity

open Specifications

inductive AuthMethod
  | jwt
  | oauth2
  | ldap
  | apikey
  | db
  deriving DecidableEq, Repr

structure Principal (Object : Type) where
  userId : String
  username : String
  roles : Finset String := ∅
  permissions : Finset String := ∅
  claims : Fields Object := []
  tenantId : Option String := none
  mfaVerified : Bool := false
  authMethod : AuthMethod := .jwt
  sessionId : Option String := none
  expiresAt : Option Nat := none

namespace Principal
variable {Object : Type}

def hasRole (principal : Principal Object) (role : String) : Bool := role ∈ principal.roles ∨ "*" ∈ principal.roles

def hasAnyRole (principal : Principal Object) (roles : Finset String) : Bool :=
  decide (∃ role ∈ roles, principal.hasRole role)

def hasPermission (principal : Principal Object) (permission : String) : Bool :=
  permission ∈ principal.permissions ∨ "*" ∈ principal.permissions

end Principal
end CqrsDdd.Identity
