import CqrsDdd.Transition
import Mathlib.Logic.Function.Basic

/-! Calls of a Redis lock strategy, for one key. A strategy object keeps a local entry for
the key and shares it between the calls made on it. A call waits before a request to the
server and for its reply, so that other calls, the expiry of the key, errors and
cancellations fall in between. -/
namespace CqrsDdd.Locking

/-- An entry of `_lock_metadata`. Times are in microseconds. -/
structure LockMetadata (Token : Type) where
  acquiredAt : Int
  ttl : Int
  sessionId : Option String
  token : Token
  refCount : Int
  deriving DecidableEq, Repr

namespace LockMetadata
variable {Token : Type}

/-- `_prune_expired_metadata`, for the entry of one key. -/
def prune (now : Int) (metadata : Option (LockMetadata Token)) : Option (LockMetadata Token) :=
  metadata.filter fun entry => ¬ entry.acquiredAt+entry.ttl < now

/-- A call of the session has the lock of the entry extended. -/
def Reentrant (entry : LockMetadata Token) (sessionId : Option String) (now : Int) : Prop :=
  sessionId ≠ none ∧ sessionId ≠ some "" ∧ entry.sessionId = sessionId ∧ now < entry.acquiredAt+entry.ttl

instance (entry : LockMetadata Token) (sessionId : Option String) (now : Int) :
    Decidable (entry.Reentrant sessionId now) :=
  inferInstanceAs (Decidable (_ ∧ _))

def extended (entry : LockMetadata Token) (ttl now : Int) : LockMetadata Token := {entry with acquiredAt := now, ttl := ttl}

end LockMetadata

def ttlMs (ttl : Int) : Int := ttl.tdiv 1000

namespace Redis

inductive Reply
  | integer (value : Int)
  | error
  deriving DecidableEq, Repr

inductive Request (Token : Type)
  | acquire (sessionId : Option String) (ttl : Int)
  | release (token : Token)
  | extend (token : Token) (ttl : Int)
  deriving DecidableEq, Repr

namespace Request
variable {Token : Type}

def ttl : Request Token → Int
  | .acquire _ ttl | .extend _ ttl => ttl
  | .release _ => 0

def sessionId : Request Token → Option String
  | .acquire sessionId _ => sessionId
  | .release _ | .extend _ _ => none

def isAcquire : Request Token → Bool
  | .acquire _ _ => true
  | .release _ | .extend _ _ => false

/-- The token that is handed to the call. -/
def token? : Request Token → Option Token
  | .acquire _ _ => none
  | .release token | .extend token _ => some token

theorem not_acquire {request : Request Token} {token : Token} (handed : request.token? = some token) :
    request.isAcquire ≠ true := by
  cases request with
  | acquire => cases handed
  | release => exact Bool.false_ne_true
  | extend => exact Bool.false_ne_true

end Request

/-- How a call ends: `timedOut` is the `LockAcquisitionError`, `technical` the `RedisLockError`,
`raised` an exception that nothing wraps. -/
inductive Outcome (Token : Type)
  | returned (token : Token)
  | timedOut
  | technical
  | raised
  | cancelled
  | released
  | answered (extended : Bool)
  deriving DecidableEq, Repr

/-- Where a call waits: before a request to the server or for its reply. -/
inductive Stage (Token : Type)
  | idle
  | extending (token : Token)
  | extended (token : Token) (reply : Reply)
  | trying
  | tried (reply : Reply)
  | cleaning
  | cleaned
  | releasing (token : Token)
  | released
  | exited (outcome : Outcome Token)
  deriving DecidableEq, Repr

/-- What a move of a call acts on: what the server stores, the entry of its strategy object, and itself. -/
structure Moment (Keys Token : Type) where
  keys : Keys
  metadata : Option (LockMetadata Token)
  stage : Stage Token

namespace Moment
variable {Keys Token : Type}

/-- `_acquire_internal`, up to the first request. -/
def acquireInternal (moment : Moment Keys Token) (sessionId : Option String) (now : Int) : Moment Keys Token :=
  let metadata := LockMetadata.prune now moment.metadata
  match metadata with
  | none => {moment with metadata := metadata, stage := .trying}
  | some entry =>
    if entry.Reentrant sessionId now then {moment with metadata := metadata, stage := .extending entry.token}
    else {moment with metadata := metadata, stage := .trying}

theorem acquireInternal_keys (moment : Moment Keys Token) (sessionId : Option String) (now : Int) :
    (moment.acquireInternal sessionId now).keys = moment.keys := by
  unfold acquireInternal
  dsimp only
  split
  next => rfl
  next => split <;> rfl

/-- `extend` has found the key. An acquirer counts itself, which raises `lost` when the entry has gone meanwhile. -/
def granted (request : Request Token) (lost : Outcome Token) (token : Token) (now : Int) (moment : Moment Keys Token) :
    Moment Keys Token :=
  let metadata := moment.metadata.map (·.extended request.ttl now)
  if request.isAcquire then
    match metadata with
    | none => {moment with stage := .exited lost}
    | some entry =>
      {moment with metadata := some {entry with refCount := entry.refCount+1}, stage := .exited (.returned token)}
  else {moment with metadata := metadata, stage := .exited (.answered true)}

theorem granted_keys (request : Request Token) (lost : Outcome Token) (token : Token) (now : Int)
    (moment : Moment Keys Token) : (moment.granted request lost token now).keys = moment.keys := by
  unfold granted
  dsimp only
  split
  next => split <;> rfl
  next => rfl

/-- The lock has been taken with the token of the call. -/
def store (request : Request Token) (uuid : Token) (now : Int) (moment : Moment Keys Token) : Moment Keys Token :=
  {moment with metadata := some ⟨now,request.ttl,request.sessionId,uuid,1⟩, stage := .exited (.returned uuid)}

def cancel (moment : Moment Keys Token) : Moment Keys Token :=
  match moment.stage with
  | .idle | .exited _ => moment
  | _ => {moment with stage := .exited .cancelled}

theorem cancel_keys (moment : Moment Keys Token) : moment.cancel.keys = moment.keys := by
  unfold cancel
  split <;> rfl

end Moment

/-- The calls that are ever made: on which strategy object, with what, and the token that each draws. -/
structure Calls (Call Client Token : Type) where
  client : Call → Client
  request : Call → Request Token
  uuid : Call → Token
  distinct : Function.Injective uuid

structure World (Call Client Keys Token : Type) where
  keys : Keys
  metadata : Client → Option (LockMetadata Token)
  stage : Call → Stage Token

inductive Event (Call Move : Type)
  | move (call : Call) (move : Move)
  | expire
  deriving DecidableEq, Repr

/-- What a move of a call with the request and the token does, and what the expiry of the key does. -/
structure Machine (Keys Token Move : Type) where
  advance : Request Token → Token → Move → Moment Keys Token → Moment Keys Token
  expire : Keys → Keys

namespace Calls
variable {Call Client Keys Token : Type}

def moment (calls : Calls Call Client Token) (world : World Call Client Keys Token) (call : Call) : Moment Keys Token :=
  ⟨world.keys,world.metadata (calls.client call),world.stage call⟩

end Calls

def World.initial {Call Client Keys Token : Type} (keys : Keys) : World Call Client Keys Token :=
  ⟨keys,fun _ => none,fun _ => .idle⟩

namespace Machine
variable {Call Client Keys Token Move : Type} [DecidableEq Call] [DecidableEq Client]

def moved (machine : Machine Keys Token Move) (calls : Calls Call Client Token) (world : World Call Client Keys Token)
    (call : Call) (move : Move) : Moment Keys Token :=
  machine.advance (calls.request call) (calls.uuid call) move (calls.moment world call)

def step (machine : Machine Keys Token Move) (calls : Calls Call Client Token) (world : World Call Client Keys Token) :
    Event Call Move → World Call Client Keys Token
  | .move call move =>
    let after := machine.moved calls world call move
    ⟨after.keys,Function.update world.metadata (calls.client call) after.metadata,
      Function.update world.stage call after.stage⟩
  | .expire => {world with keys := machine.expire world.keys}

theorem stage_self (machine : Machine Keys Token Move) (calls : Calls Call Client Token)
    (world : World Call Client Keys Token) (call : Call) (move : Move) :
    (machine.step calls world (.move call move)).stage call = (machine.moved calls world call move).stage :=
  Function.update_self call _ world.stage

theorem stage_other (machine : Machine Keys Token Move) (calls : Calls Call Client Token)
    (world : World Call Client Keys Token) {call other : Call} (differs : other ≠ call) (move : Move) :
    (machine.step calls world (.move call move)).stage other = world.stage other :=
  Function.update_of_ne differs _ world.stage

theorem metadata_mine (machine : Machine Keys Token Move) (calls : Calls Call Client Token)
    (world : World Call Client Keys Token) {call : Call} {client : Client} (mine : client = calls.client call)
    (move : Move) :
    (machine.step calls world (.move call move)).metadata client = (machine.moved calls world call move).metadata := by
  subst mine
  exact Function.update_self (calls.client call) _ world.metadata

theorem metadata_other (machine : Machine Keys Token Move) (calls : Calls Call Client Token)
    (world : World Call Client Keys Token) {call : Call} {client : Client} (differs : client ≠ calls.client call)
    (move : Move) : (machine.step calls world (.move call move)).metadata client = world.metadata client :=
  Function.update_of_ne differs _ world.metadata

variable (machine : Machine Keys Token Move) (calls : Calls Call Client Token)

/-- A move of one of the calls leaves the server and the entry of its strategy object as they are. -/
def Quiet (chosen : Call → Bool) (world : World Call Client Keys Token) : Event Call Move → Prop
  | .move call move => chosen call = true →
      (machine.moved calls world call move).keys = world.keys ∧
      (machine.moved calls world call move).metadata = world.metadata (calls.client call)
  | .expire => True

end Machine

structure World.Agree {Call Client Keys Token : Type} (chosen : Call → Bool) (world other : World Call Client Keys Token) :
    Prop where
  keys : other.keys = world.keys
  metadata : other.metadata = world.metadata
  stage : ∀ call, chosen call = false → other.stage call = world.stage call

def Event.call? {Call Move : Type} : Event Call Move → Option Call
  | .move call _ => some call
  | .expire => none

def Event.without {Call Move : Type} (chosen : Call → Bool) (events : List (Event Call Move)) : List (Event Call Move) :=
  events.filter fun event => match event with
    | .move call _ => !chosen call
    | .expire => true

namespace Machine
variable {Call Client Keys Token Move : Type} [DecidableEq Call] [DecidableEq Client]
  {machine : Machine Keys Token Move} {calls : Calls Call Client Token} {chosen : Call → Bool}

theorem agree_quiet {world other : World Call Client Keys Token} (agree : world.Agree chosen other) {call : Call}
    (one : chosen call = true) {move : Move} (quiet : machine.Quiet calls chosen world (.move call move)) :
    (machine.step calls world (.move call move)).Agree chosen other := by
  obtain ⟨keys,metadata⟩ := quiet one
  refine ⟨agree.keys.trans keys.symm,agree.metadata.trans (funext fun client => ?_),fun another out => ?_⟩
  · by_cases mine : client = calls.client call
    · rw [metadata_mine machine calls world mine,metadata,mine]
    · rw [metadata_other machine calls world mine]
  · have differs : another ≠ call := fun same => Bool.noConfusion (out.symm.trans (same ▸ one))
    rw [stage_other machine calls world differs]
    exact agree.stage another out

theorem agree_moved {world other : World Call Client Keys Token} (agree : world.Agree chosen other) {call : Call}
    (out : chosen call = false) (move : Move) :
    (machine.step calls world (.move call move)).Agree chosen (machine.step calls other (.move call move)) := by
  have same : machine.moved calls other call move = machine.moved calls world call move := by
    unfold moved Calls.moment
    rw [agree.keys,agree.metadata,agree.stage call out]
  refine ⟨congrArg Moment.keys same,funext fun client => ?_,fun another free => ?_⟩
  · by_cases mine : client = calls.client call
    · rw [metadata_mine machine calls world mine,metadata_mine machine calls other mine,same]
    · rw [metadata_other machine calls world mine,metadata_other machine calls other mine,agree.metadata]
  · by_cases own : another = call
    · subst own
      rw [stage_self,stage_self,same]
    · rw [stage_other machine calls world own,stage_other machine calls other own]
      exact agree.stage another free

theorem run_without {world other : World Call Client Keys Token} (agree : world.Agree chosen other)
    {events : List (Event Call Move)} (quiet : Transition.Meets (machine.step calls) (machine.Quiet calls chosen) world events) :
    (Transition.run (machine.step calls) world events).Agree chosen
      (Transition.run (machine.step calls) other (Event.without chosen events)) := by
  induction events generalizing world other with
  | nil => exact agree
  | cons event rest ih =>
    obtain ⟨quiet,later⟩ := quiet
    cases event with
    | expire => exact ih ⟨congrArg machine.expire agree.keys,agree.metadata,agree.stage⟩ later
    | move call move =>
      cases one : chosen call with
      | true =>
        rw [Event.without,List.filter_cons_of_neg (by simp [one])]
        exact ih (agree_quiet agree one quiet) later
      | false =>
        rw [Event.without,List.filter_cons_of_pos (by simp [one])]
        exact ih (agree_moved agree one move) later

end Machine

end Redis

end CqrsDdd.Locking
