import CqrsDdd.Dict
import CqrsDdd.Locking.RedisCalls
import Mathlib.Data.Prod.Lex

/-! The FIFO lock strategy over one Redis server, for one resource and mode. The server
runs a script in one step, over the lock key and the queue of the waiting tokens. -/
namespace CqrsDdd.Locking.FifoRedis

open Redis

/-- What the server stores: the lock key, and the queue with the score of each token. -/
structure Keys (Token : Type) where
  lock : Option Token
  queue : Dict Token Int

namespace Keys
variable {Token : Type} [LinearOrder Token]

def zaddNX (keys : Keys Token) (score : Int) (token : Token) : Keys Token :=
  if (keys.queue.get token).isNone then {keys with queue := keys.queue.set token score} else keys

/-- Members of the same score are ordered by themselves. -/
def zrank (keys : Keys Token) (token : Token) : Option Nat :=
  (keys.queue.get token).map fun score =>
    (keys.queue.entries.filter fun entry => toLex (entry.2,entry.1) < toLex (score,token)).length

def zrem (keys : Keys Token) (token : Token) : Keys Token := {keys with queue := keys.queue.erase token}

/-- An expire time that is not positive is an error; what the script has done by then stays. -/
def fairAcquireScript (keys : Keys Token) (token : Token) (ttlMs now : Int) : Keys Token × Reply :=
  let queued := keys.zaddNX now token
  if queued.zrank token = some 0 then
    if ttlMs ≤ 0 then (queued,.error)
    else if queued.lock.isNone then ({queued with lock := some token}.zrem token,.integer 1)
    else (queued,.integer 0)
  else (queued,.integer 0)

def releaseScript (keys : Keys Token) (token : Token) : Keys Token :=
  (if keys.lock = some token then {keys with lock := none} else keys).zrem token

/-- `PEXPIRE` with a time that is not positive deletes the key. -/
def extendScript (keys : Keys Token) (token : Token) (ttlMs : Int) : Keys Token × Reply :=
  if keys.lock = some token then (if ttlMs ≤ 0 then {keys with lock := none} else keys,.integer 1)
  else (keys,.integer 0)

end Keys

inductive Move
  | start (now : Int)
  | script (now : Int)
  | answer (now : Int)
  | giveUp
  | raise
  | cancel
  deriving DecidableEq, Repr

abbrev Moment (Token : Type) := Redis.Moment (Keys Token) Token

namespace Moment
variable {Token : Type}

/-- `extend` has returned `False`: an acquirer goes on as any other. -/
def refused (request : Request Token) (moment : Moment Token) : Moment Token :=
  if request.isAcquire then {moment with stage := .trying} else {moment with stage := .exited (.answered false)}

def answer (request : Request Token) (uuid : Token) (now : Int) (moment : Moment Token) : Moment Token :=
  match moment.stage with
  | .extended token reply =>
    if reply = .integer 1 then moment.granted request .raised token now else moment.refused request
  | .tried reply =>
    if reply = .error then {moment with stage := .exited .technical}
    else if reply = .integer 1 then moment.store request uuid now
    else {moment with stage := .trying}
  | .cleaned => {moment with stage := .exited .timedOut}
  | .released => {moment with metadata := none, stage := .exited .released}
  | _ => moment

/-- The loop of `_try_fair_acquire_with_retry` ends only at its head. -/
def giveUp (moment : Moment Token) : Moment Token :=
  match moment.stage with
  | .trying => {moment with stage := .cleaning}
  | _ => moment

/-- The call of Redis raises an `Exception`, before the server has run the script or after it. -/
def raise (request : Request Token) (moment : Moment Token) : Moment Token :=
  match moment.stage with
  | .extending _ | .extended _ _ => moment.refused request
  | .trying | .tried _ => {moment with stage := .exited .technical}
  | .cleaning | .cleaned => {moment with stage := .exited .raised}
  | .releasing _ | .released => {moment with stage := .exited .released}
  | .idle | .exited _ => moment

theorem refused_keys (request : Request Token) (moment : Moment Token) : (moment.refused request).keys = moment.keys := by
  unfold refused
  split <;> rfl

variable [LinearOrder Token]

def releaseInternal (moment : Moment Token) (token : Token) : Moment Token :=
  match moment.metadata with
  | none => {moment with stage := .releasing token}
  | some entry =>
    if entry.token = token then
      let metadata := some {entry with refCount := entry.refCount-1}
      if 0 < entry.refCount-1 then {moment with metadata := metadata, stage := .exited .released}
      else {moment with metadata := metadata, stage := .releasing token}
    else {moment with stage := .releasing token}

def start (request : Request Token) (now : Int) (moment : Moment Token) : Moment Token :=
  match moment.stage,request with
  | .idle,.acquire sessionId _ => moment.acquireInternal sessionId now
  | .idle,.release token => moment.releaseInternal token
  | .idle,.extend token _ => {moment with stage := .extending token}
  | _,_ => moment

def script (request : Request Token) (uuid : Token) (now : Int) (moment : Moment Token) : Moment Token :=
  match moment.stage with
  | .extending token =>
    let done := moment.keys.extendScript token (ttlMs request.ttl)
    {moment with keys := done.1, stage := .extended token done.2}
  | .trying =>
    let done := moment.keys.fairAcquireScript uuid (ttlMs request.ttl) now
    {moment with keys := done.1, stage := .tried done.2}
  | .cleaning => {moment with keys := moment.keys.zrem uuid, stage := .cleaned}
  | .releasing token => {moment with keys := moment.keys.releaseScript token, stage := .released}
  | _ => moment

def advance (request : Request Token) (uuid : Token) (move : Move) (moment : Moment Token) : Moment Token :=
  match move with
  | .start now => moment.start request now
  | .script now => moment.script request uuid now
  | .answer now => moment.answer request uuid now
  | .giveUp => moment.giveUp
  | .raise => moment.raise request
  | .cancel => moment.cancel

theorem releaseInternal_keys (moment : Moment Token) (token : Token) :
    (moment.releaseInternal token).keys = moment.keys := by
  unfold releaseInternal
  split
  next => rfl
  next =>
    split
    next => dsimp only; split <;> rfl
    next => rfl

theorem advance_keys (request : Request Token) (uuid : Token) {move : Move} (other : ∀ now, move ≠ .script now)
    (moment : Moment Token) : (moment.advance request uuid move).keys = moment.keys := by
  cases move with
  | start now =>
    unfold advance start
    dsimp only
    split
    next => exact moment.acquireInternal_keys _ now
    next => exact moment.releaseInternal_keys _
    next => rfl
    next => rfl
  | script now => exact absurd rfl (other now)
  | answer now =>
    unfold advance answer
    dsimp only
    split
    next =>
      split
      next => exact moment.granted_keys request .raised _ now
      next => exact moment.refused_keys request
    next => split <;> [rfl;(split <;> rfl)]
    next => rfl
    next => rfl
    next => rfl
  | giveUp =>
    unfold advance giveUp
    dsimp only
    split <;> rfl
  | raise =>
    unfold advance raise
    dsimp only
    split <;> first | rfl | exact moment.refused_keys request
  | cancel => exact moment.cancel_keys

end Moment

abbrev World (Call Client Token : Type) := Redis.World Call Client (Keys Token) Token

abbrev Event (Call : Type) := Redis.Event Call Move

abbrev Calls := Redis.Calls

def machine {Token : Type} [LinearOrder Token] : Machine (Keys Token) Token Move where
  advance := Moment.advance
  expire keys := {keys with lock := none}

namespace Calls
variable {Call Client Token : Type} [DecidableEq Call] [DecidableEq Client] [LinearOrder Token]

abbrev step (calls : Calls Call Client Token) (world : World Call Client Token) (event : Event Call) :
    World Call Client Token :=
  machine.step calls world event

def reached (calls : Calls Call Client Token) (events : List (Event Call)) : World Call Client Token :=
  Transition.run calls.step (.initial ⟨none,Dict.empty⟩) events

theorem reached_snoc (calls : Calls Call Client Token) (past : List (Event Call)) (event : Event Call) :
    calls.reached (past ++ [event]) = calls.step (calls.reached past) event :=
  Transition.run_append calls.step (.initial ⟨none,Dict.empty⟩) past [event]

end Calls

end CqrsDdd.Locking.FifoRedis
