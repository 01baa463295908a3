import CqrsDdd.Expiring
import CqrsDdd.Specifications.Values
import CqrsDdd.StorePrograms

/-! The in-memory session store and the manager of OAuth2 states. Times are in seconds. -/
namespace CqrsDdd.Identity

open Expiring Specifications StorePrograms

abbrev InMemorySessionStore (Data : Type) := Table Int String Data

namespace InMemorySessionStore

variable {Data : Type}

def store (now : Int) (key : String) (data : Data) (ttl : Option Int) (sessions : InMemorySessionStore Data) :
    InMemorySessionStore Data :=
  sessions.set key ⟨data,ttl.bind fun seconds => if seconds > 0 then some (now + seconds) else none⟩

/-- An entry that a reader finds expired is dropped. -/
def get (now : Int) (key : String) (sessions : InMemorySessionStore Data) : Option Data × InMemorySessionStore Data :=
  (look sessions now key,prune sessions now key)

def delete (key : String) (sessions : InMemorySessionStore Data) : InMemorySessionStore Data := sessions.erase key

theorem absent_erase {sessions : InMemorySessionStore Data} {key : String} (other : String)
    (absent : Dict.get sessions key = none) : Dict.get (sessions.erase other) key = none := by
  by_cases same : key = other
  · rw [same,Dict.get_erase_same]
  · rw [Dict.get_erase_other sessions same,absent]

def atomic : AtomicStore (InMemorySessionStore Data) Int String Data where
  get := get
  put := store
  delete _ := delete
  Absent key sessions := Dict.get sessions key = none
  get_absent now key sessions absent := by
    change (Dict.get sessions key).bind _ = none
    rw [absent]
    rfl
  absent_get now key other sessions absent := by
    change Dict.get (prune sessions now other) key = none
    unfold prune
    split
    next =>
      split
      next => exact absent_erase other absent
      next => exact absent
    next => exact absent
  absent_put now key other data ttl sessions differs absent := by
    change Dict.get (sessions.set other _) key = none
    rw [Dict.get_set_other sessions _ differs,absent]
  absent_delete _ key other sessions absent := absent_erase other absent
  absent_deleted _ key sessions := Dict.get_erase_same sessions key

theorem run_get {Result : Type} (key : String) (next : Int → Option Data → Program Int String Data Result) (now : Int)
    (sessions : InMemorySessionStore Data) : (Program.get key next).run atomic now sessions =
      (next now (look sessions now key)).run atomic now (prune sessions now key) := rfl

theorem reads_fades {Result : Type} {program : Program Int String Data Result} (reads : program.Reads) (now : Int)
    (sessions : InMemorySessionStore Data) : Fades now sessions (program.run atomic now sessions).2 := by
  induction reads generalizing sessions with
  | done result => exact Fades.refl now sessions
  | get key next _ ih => exact (prune_fades now sessions key).trans (ih now _ _)
  | delete key next _ ih => exact (erase_fades now sessions key).trans (ih now _)

end InMemorySessionStore

structure OAuthStateData (Object : Type) where
  state : String
  pkceVerifier : Option String := none
  redirectUri : Option String := none
  nonce : Option String := none
  createdAt : Int
  provider : Option String := none
  extra : Option (Fields Object) := none

/-- What `to_dict` writes of it. -/
structure OAuthStateDict (Object : Type) where
  state : Option String
  createdAt : Option Int
  pkceVerifier : Option String := none
  redirectUri : Option String := none
  nonce : Option String := none
  provider : Option String := none
  extra : Option (Fields Object) := none

namespace OAuthStateData

variable {Object : Type}

def given (text : Option String) : Option String := text.filter (· ≠ "")

def toDict (data : OAuthStateData Object) : OAuthStateDict Object where
  state := some data.state
  createdAt := some data.createdAt
  pkceVerifier := given data.pkceVerifier
  redirectUri := given data.redirectUri
  nonce := given data.nonce
  provider := given data.provider
  extra := data.extra.filter fun fields => !fields.isEmpty

/-- A state without a date is given the present one. -/
def fromDict (now : Int) (data : OAuthStateDict Object) : Except String (OAuthStateData Object) :=
  match data.state with
  | none => .error "Missing required 'state' in OAuth state data"
  | some state => .ok {
      state
      pkceVerifier := data.pkceVerifier
      redirectUri := data.redirectUri
      nonce := data.nonce
      createdAt := data.createdAt.getD now
      provider := data.provider
      extra := data.extra }

end OAuthStateData

structure OAuthStateManager where
  stateTtl : Int := 600

namespace OAuthStateManager

variable {Object : Type}

abbrev Call (Object Result : Type) := Program Int String (OAuthStateDict Object) Result

def stateKey (state : String) : String := "oauth_state:" ++ state

def storeState (manager : OAuthStateManager) (stateData : OAuthStateData Object) : Call Object Unit :=
  .put (stateKey stateData.state) stateData.toDict (some manager.stateTtl) fun _ => .done ()

def getState (state : String) : Call Object (Except String (Option (OAuthStateData Object))) :=
  .get (stateKey state) fun now found => match found with
    | none => .done (.ok none)
    | some data => .done ((OAuthStateData.fromDict now data).map some)

def deleteState (state : String) : Call Object Unit := .delete (stateKey state) fun _ => .done ()

/-- Deletes the state that it found, to prevent replay. -/
def validateState (state : String) : Call Object (Except String (Option (OAuthStateData Object))) :=
  (getState state).bind fun found => match found with
    | .error message => .done (.error message)
    | .ok none => .done (.ok none)
    | .ok (some stateData) => (deleteState state).bind fun _ => .done (.ok (some stateData))

end OAuthStateManager
end CqrsDdd.Identity
