import CqrsDdd.Locking.FifoSafety
import Mathlib.Data.Finset.Card
import Mathlib.Data.String.Basic

/-! Releases with a token that is not the holder's, for both Redis lock strategies. The key
is seen as a quorum of the servers sees it, and a token of Redlock is the part after the
key. Which attempt at a free key succeeds is left open: the queue of the FIFO lock and the
retries of Redlock are two ways to choose. -/
namespace CqrsDdd.Locking

open Redis

/-- The stages of a call that releases the token. -/
def Redis.Stage.OfRelease {Token : Type} (token : Token) : Stage Token → Prop
  | .idle | .released | .exited _ => True
  | .releasing own => own = token
  | .extending _ | .extended _ _ | .trying | .tried _ | .cleaning | .cleaned => False

namespace StaleReleases

inductive Strategy
  | redlock
  | fifo
  deriving DecidableEq, Repr

/-- `reply` is what the server answers to an attempt, as far as the key allows it. -/
inductive Move
  | start (now : Int)
  | serve (reply : Reply)
  | answer (now : Int)
  | giveUp
  | raise
  | cancel
  deriving DecidableEq, Repr

abbrev Moment (Token : Type) := Redis.Moment (Option Token) Token

namespace Moment
variable {Token : Type}

/-- `extend` has returned `False`: an acquirer goes on as any other, and Redlock drops the entry first. -/
def refused (strategy : Strategy) (request : Request Token) (moment : Moment Token) : Moment Token :=
  if request.isAcquire then
    match strategy with
    | .redlock => {moment with metadata := none, stage := .trying}
    | .fifo => {moment with stage := .trying}
  else {moment with stage := .exited (.answered false)}

/-- What an acquirer raises when its entry has been popped: Redlock wraps the `KeyError`. -/
def lost : Strategy → Outcome Token
  | .redlock => .technical
  | .fifo => .raised

def answer (strategy : Strategy) (request : Request Token) (uuid : Token) (now : Int) (moment : Moment Token) :
    Moment Token :=
  match moment.stage with
  | .extended token reply =>
    if reply = .integer 1 then moment.granted request (lost strategy) token now else moment.refused strategy request
  | .tried reply =>
    if reply = .error then {moment with stage := .exited .technical}
    else if reply = .integer 1 then moment.store request uuid now
    else match strategy with
      | .redlock => {moment with stage := .exited .timedOut}
      | .fifo => {moment with stage := .trying}
  | .cleaned => {moment with stage := .exited .timedOut}
  | .released => {moment with metadata := none, stage := .exited .released}
  | _ => moment

/-- The time of `acquire` is up. -/
def giveUp (strategy : Strategy) (moment : Moment Token) : Moment Token :=
  match strategy,moment.stage with
  | .fifo,.trying => {moment with stage := .cleaning}
  | .redlock,.trying | .redlock,.tried _ => {moment with stage := .exited .timedOut}
  | _,_ => moment

/-- The request raises an `Exception`. Redlock pops the entry even then. -/
def raise (strategy : Strategy) (request : Request Token) (moment : Moment Token) : Moment Token :=
  match moment.stage with
  | .extending _ | .extended _ _ => moment.refused strategy request
  | .trying | .tried _ => {moment with stage := .exited .technical}
  | .cleaning | .cleaned => {moment with stage := .exited .raised}
  | .releasing _ | .released =>
    match strategy with
    | .redlock => {moment with metadata := none, stage := .exited .released}
    | .fifo => {moment with stage := .exited .released}
  | .idle | .exited _ => moment

variable [DecidableEq Token]

def releaseInternal (strategy : Strategy) (moment : Moment Token) (token : Token) : Moment Token :=
  match moment.metadata with
  | none => {moment with stage := .releasing token}
  | some entry =>
    if strategy = .redlock ∨ entry.token = token then
      let metadata := some {entry with refCount := entry.refCount-1}
      if 0 < entry.refCount-1 then {moment with metadata := metadata, stage := .exited .released}
      else {moment with metadata := metadata, stage := .releasing token}
    else {moment with stage := .releasing token}

def start (strategy : Strategy) (request : Request Token) (now : Int) (moment : Moment Token) : Moment Token :=
  match moment.stage,request with
  | .idle,.acquire sessionId _ => moment.acquireInternal sessionId now
  | .idle,.release token => moment.releaseInternal strategy token
  | .idle,.extend token _ => {moment with stage := .extending token}
  | _,_ => moment

def serve (request : Request Token) (uuid : Token) (reply : Reply) (moment : Moment Token) : Moment Token :=
  match moment.stage with
  | .extending token =>
    if moment.keys = some token then
      {moment with keys := if ttlMs request.ttl ≤ 0 then none else moment.keys, stage := .extended token (.integer 1)}
    else {moment with stage := .extended token (.integer 0)}
  | .trying =>
    if reply = .integer 1 then
      if moment.keys.isNone then {moment with keys := some uuid, stage := .tried (.integer 1)}
      else {moment with stage := .tried (.integer 0)}
    else {moment with stage := .tried reply}
  | .cleaning => {moment with stage := .cleaned}
  | .releasing token => {moment with keys := if moment.keys = some token then none else moment.keys, stage := .released}
  | _ => moment

def advance (strategy : Strategy) (request : Request Token) (uuid : Token) (move : Move) (moment : Moment Token) :
    Moment Token :=
  match move with
  | .start now => moment.start strategy request now
  | .serve reply => moment.serve request uuid reply
  | .answer now => moment.answer strategy request uuid now
  | .giveUp => moment.giveUp strategy
  | .raise => moment.raise strategy request
  | .cancel => moment.cancel

end Moment

def machine {Token : Type} [DecidableEq Token] (strategy : Strategy) : Machine (Option Token) Token Move where
  advance := Moment.advance strategy
  expire _ := none

/-- The move of a release acts on the entry of the key, whoever's it is. -/
def Touches {Token : Type} (strategy : Strategy) (stage : Stage Token) : Move → Prop
  | .start _ => strategy = .redlock ∧ stage = .idle
  | .answer _ => stage = .released
  | .raise => strategy = .redlock ∧ (stage = .released ∨ ∃ token, stage = .releasing token)
  | .serve _ | .giveUp | .cancel => False

namespace Moment
variable {Token : Type} [DecidableEq Token] {strategy : Strategy} {token uuid : Token} {moment : Moment Token}

theorem releaseInternal_keys (strategy : Strategy) (moment : Moment Token) (token : Token) :
    (releaseInternal strategy moment token).keys = moment.keys := by
  unfold releaseInternal
  split
  next => rfl
  next =>
    split
    next => dsimp only; split <;> rfl
    next => rfl

theorem releaseInternal_stage (strategy : Strategy) (moment : Moment Token) (token : Token) :
    (releaseInternal strategy moment token).stage.OfRelease token := by
  unfold releaseInternal
  split
  next => rfl
  next =>
    split
    next => dsimp only; split <;> [trivial;rfl]
    next => rfl

theorem releaseInternal_foreign {entry : LockMetadata Token} (stored : moment.metadata = some entry)
    (foreign : entry.token ≠ token) :
    (releaseInternal strategy moment token).metadata = some entry ↔ strategy = .fifo := by
  unfold releaseInternal
  rw [stored]
  cases strategy with
  | fifo => simp [foreign]
  | redlock =>
    have counted : some {entry with refCount := entry.refCount-1} ≠ some entry := by
      intro same
      have count := congrArg LockMetadata.refCount (Option.some.inj same)
      dsimp only at count
      omega
    dsimp only
    rw [if_pos (.inl rfl)]
    split <;> exact iff_of_false counted (by decide)

theorem release_stage (fits : moment.stage.OfRelease token) (move : Move) :
    (advance strategy (.release token) uuid move moment).stage.OfRelease token := by
  obtain ⟨keys,metadata,stage⟩ := moment
  cases stage with
  | idle =>
    cases move with
    | start now => exact releaseInternal_stage strategy _ token
    | giveUp => cases strategy <;> trivial
    | _ => trivial
  | releasing own =>
    cases move with
    | start now => exact fits
    | answer now => exact fits
    | giveUp => cases strategy <;> exact fits
    | raise => cases strategy <;> trivial
    | _ => trivial
  | released =>
    cases move with
    | giveUp => cases strategy <;> trivial
    | raise => cases strategy <;> trivial
    | _ => trivial
  | exited outcome =>
    cases move with
    | giveUp => cases strategy <;> trivial
    | _ => trivial
  | _ => exact fits.elim

theorem release_keys (fits : moment.stage.OfRelease token) (differs : moment.keys ≠ some token) (move : Move) :
    (advance strategy (.release token) uuid move moment).keys = moment.keys := by
  obtain ⟨keys,metadata,stage⟩ := moment
  cases stage with
  | idle =>
    cases move with
    | start now => exact releaseInternal_keys strategy _ token
    | giveUp => cases strategy <;> rfl
    | _ => rfl
  | releasing own =>
    cases (fits : own = token)
    cases move with
    | serve reply => exact if_neg differs
    | giveUp => cases strategy <;> rfl
    | raise => cases strategy <;> rfl
    | _ => rfl
  | released =>
    cases move with
    | giveUp => cases strategy <;> rfl
    | raise => cases strategy <;> rfl
    | _ => rfl
  | exited outcome =>
    cases move with
    | giveUp => cases strategy <;> rfl
    | _ => rfl
  | _ => exact fits.elim

theorem release_metadata (fits : moment.stage.OfRelease token) {entry : LockMetadata Token}
    (stored : moment.metadata = some entry) (foreign : entry.token ≠ token) (move : Move) :
    (advance strategy (.release token) uuid move moment).metadata = some entry ↔
      ¬Touches strategy moment.stage move := by
  obtain ⟨keys,metadata,stage⟩ := moment
  cases stage with
  | idle =>
    cases move with
    | start now =>
      refine (releaseInternal_foreign stored foreign).trans ?_
      cases strategy <;> simp [Touches]
    | giveUp => cases strategy <;> exact iff_of_true stored id
    | answer now => exact iff_of_true stored (by simp [Touches])
    | raise => exact iff_of_true stored (by simp [Touches])
    | _ => exact iff_of_true stored id
  | releasing own =>
    cases move with
    | start now => exact iff_of_true stored (by simp [Touches])
    | answer now => exact iff_of_true stored (by simp [Touches])
    | giveUp => cases strategy <;> exact iff_of_true stored id
    | raise =>
      cases strategy with
      | redlock => exact iff_of_false (by simp [advance,raise]) (by simp [Touches])
      | fifo => exact iff_of_true stored (by simp [Touches])
    | _ => exact iff_of_true stored id
  | released =>
    cases move with
    | start now => exact iff_of_true stored (by simp [Touches])
    | answer now => exact iff_of_false (by simp [advance,answer]) (by simp [Touches])
    | giveUp => cases strategy <;> exact iff_of_true stored id
    | raise =>
      cases strategy with
      | redlock => exact iff_of_false (by simp [advance,raise]) (by simp [Touches])
      | fifo => exact iff_of_true stored (by simp [Touches])
    | _ => exact iff_of_true stored id
  | exited outcome =>
    cases move with
    | start now => exact iff_of_true stored (by simp [Touches])
    | answer now => exact iff_of_true stored (by simp [Touches])
    | giveUp => cases strategy <;> exact iff_of_true stored id
    | raise => exact iff_of_true stored (by simp [Touches])
    | _ => exact iff_of_true stored id
  | _ => exact fits.elim

theorem release_none (fits : moment.stage.OfRelease token) (none : moment.metadata = none) (move : Move) :
    (advance strategy (.release token) uuid move moment).metadata = Option.none := by
  obtain ⟨keys,metadata,stage⟩ := moment
  cases (none : metadata = Option.none)
  cases stage with
  | idle => cases move <;> cases strategy <;> rfl
  | releasing own => cases move <;> cases strategy <;> rfl
  | released => cases move <;> cases strategy <;> rfl
  | exited outcome => cases move <;> cases strategy <;> rfl
  | _ => exact fits.elim

end Moment

variable {Call Client Token : Type} [DecidableEq Call] [DecidableEq Client] [DecidableEq Token]

section Statements
variable (strategy : Strategy) (calls : Calls Call Client Token)

def reached (events : List (Event Call Move)) : World Call Client (Option Token) Token :=
  Transition.run ((machine strategy).step calls) (.initial none) events

def Unharmed (events : List (Event Call Move)) : Prop :=
  ∀ earlier call move token, earlier ++ [.move call move] <+: events → calls.request call = .release token →
    (∀ entry, (reached strategy calls earlier).metadata (calls.client call) = some entry → entry.token ≠ token →
      (reached strategy calls (earlier ++ [.move call move])).metadata (calls.client call) = some entry) ∧
    ((reached strategy calls earlier).keys ≠ some token →
      (reached strategy calls (earlier ++ [.move call move])).keys = (reached strategy calls earlier).keys)

def movers (events : List (Event Call Move)) : Finset Call := (events.filterMap Event.call?).toFinset

def acquired (events : List (Event Call Move)) (token : Token) : Nat :=
  ((movers events).filter fun call => (calls.request call).isAcquire = true ∧
    (reached strategy calls events).stage call = .exited (.returned token)).card

def released (events : List (Event Call Move)) (token : Token) : Nat :=
  ((movers events).filter fun call => calls.request call = .release token ∧
    (reached strategy calls events).stage call ≠ .idle).card

/-- Some release has deleted the key while its token was released fewer times than acquired. -/
def UnlockedEarly (events : List (Event Call Move)) : Prop :=
  ∃ earlier call move token, earlier ++ [.move call move] <+: events ∧ calls.request call = .release token ∧
    (reached strategy calls earlier).keys = some token ∧
    (reached strategy calls (earlier ++ [.move call move])).keys = none ∧
    released strategy calls earlier token < acquired strategy calls earlier token

/-- The chosen calls are releases, and whenever one of them moves its token is neither that of the entry nor in the key. -/
def Foreign (events : List (Event Call Move)) (chosen : Call → Bool) : Prop :=
  ∀ call, chosen call = true → ∃ token, calls.request call = .release token ∧
    ∀ earlier move, earlier ++ [.move call move] <+: events →
      (∀ entry, (reached strategy calls earlier).metadata (calls.client call) = some entry → entry.token ≠ token) ∧
      (reached strategy calls earlier).keys ≠ some token

def Harmless (events : List (Event Call Move)) : Prop :=
  Unharmed strategy calls events ∧ ∀ chosen, Foreign strategy calls events chosen →
    UnlockedEarly strategy calls events → UnlockedEarly strategy calls (Event.without chosen events)

def Spares (world : World Call Client (Option Token) Token) : Event Call Move → Prop
  | .move call move => ∀ token entry, calls.request call = .release token →
      world.metadata (calls.client call) = some entry → entry.token ≠ token → ¬Touches strategy (world.stage call) move
  | .expire => True

end Statements

variable {strategy : Strategy} {calls : Calls Call Client Token}

theorem reached_snoc (strategy : Strategy) (calls : Calls Call Client Token) (past : List (Event Call Move))
    (event : Event Call Move) :
    reached strategy calls (past ++ [event]) = (machine strategy).step calls (reached strategy calls past) event :=
  Transition.run_append ((machine strategy).step calls) (.initial none) past [event]

theorem reached_fits (strategy : Strategy) (calls : Calls Call Client Token) (events : List (Event Call Move))
    {call : Call} {token : Token} (releases : calls.request call = .release token) :
    ((reached strategy calls events).stage call).OfRelease token := by
  induction events using List.reverseRecOn with
  | nil => trivial
  | append_singleton past event fits =>
    rw [reached_snoc]
    cases event with
    | expire => exact fits
    | move other move =>
      by_cases same : call = other
      · subst same
        rw [Machine.stage_self,Machine.moved,releases]
        exact Moment.release_stage fits move
      · rw [Machine.stage_other _ calls _ same]
        exact fits

theorem metadata_after (past : List (Event Call Move)) {call : Call} {token : Token}
    (releases : calls.request call = .release token) (move : Move) :
    (reached strategy calls (past ++ [.move call move])).metadata (calls.client call) =
      (Moment.advance strategy (.release token) (calls.uuid call) move
        (calls.moment (reached strategy calls past) call)).metadata := by
  rw [reached_snoc,Machine.metadata_mine _ calls _ rfl,Machine.moved,releases]
  rfl

theorem keys_after (past : List (Event Call Move)) {call : Call} {token : Token}
    (releases : calls.request call = .release token)
    (differs : (reached strategy calls past).keys ≠ some token) (move : Move) :
    (reached strategy calls (past ++ [.move call move])).keys = (reached strategy calls past).keys := by
  rw [reached_snoc]
  change ((machine strategy).moved calls _ call move).keys = _
  rw [Machine.moved,releases]
  exact Moment.release_keys (reached_fits strategy calls past releases) differs move

theorem meets_of_unharmed {events : List (Event Call Move)} (unharmed : Unharmed strategy calls events) :
    Transition.Meets ((machine strategy).step calls) (Spares strategy calls) (.initial none) events := by
  apply Transition.meets_of_prefixes
  intro earlier event before
  cases event with
  | expire => trivial
  | move call move =>
    intro token entry releases stored foreign
    have kept := (unharmed earlier call move token before releases).1 entry stored foreign
    rw [metadata_after earlier releases] at kept
    exact (Moment.release_metadata (reached_fits strategy calls earlier releases) stored foreign move).mp kept

theorem unharmed_of_meets {events : List (Event Call Move)}
    (meets : Transition.Meets ((machine strategy).step calls) (Spares strategy calls) (.initial none) events) :
    Unharmed strategy calls events := by
  intro earlier call move token before releases
  refine ⟨fun entry stored foreign => ?_,fun differs => keys_after earlier releases differs move⟩
  obtain ⟨_,spares,_⟩ := (Transition.meets_append _ _ _ earlier [_]).mp (meets.earlier before)
  rw [metadata_after earlier releases]
  exact (Moment.release_metadata (reached_fits strategy calls earlier releases) stored foreign move).mpr
    (spares token entry releases stored foreign)

theorem agree_without {events : List (Event Call Move)} (unharmed : Unharmed strategy calls events)
    {chosen : Call → Bool} (foreign : Foreign strategy calls events chosen) {earlier : List (Event Call Move)}
    (before : earlier <+: events) :
    (reached strategy calls earlier).Agree chosen (reached strategy calls (Event.without chosen earlier)) := by
  apply Machine.run_without ⟨rfl,rfl,fun _ _ => rfl⟩
  apply Transition.meets_of_prefixes
  intro past event within
  cases event with
  | expire => trivial
  | move call move =>
    intro one
    obtain ⟨token,releases,apart⟩ := foreign call one
    obtain ⟨others,differs⟩ := apart past move (within.trans before)
    have keys := keys_after past releases differs move
    have metadata : (reached strategy calls (past ++ [.move call move])).metadata (calls.client call) =
        (reached strategy calls past).metadata (calls.client call) := by
      cases stored : (reached strategy calls past).metadata (calls.client call) with
      | some entry =>
        exact (unharmed past call move token (within.trans before) releases).1 entry stored (others entry stored)
      | none =>
        rw [metadata_after past releases]
        exact Moment.release_none (reached_fits strategy calls past releases) stored move
    rw [reached_snoc] at keys metadata
    rw [Machine.metadata_mine _ calls _ rfl] at metadata
    exact ⟨keys,metadata⟩

theorem mem_movers {events : List (Event Call Move)} {call : Call} :
    call ∈ movers events ↔ ∃ move, .move call move ∈ events := by
  simp only [movers,List.mem_toFinset,List.mem_filterMap]
  constructor
  · rintro ⟨event,member,same⟩
    cases event with
    | expire => cases same
    | move other move =>
      cases same
      exact ⟨move,member⟩
  · rintro ⟨move,member⟩
    exact ⟨.move call move,member,rfl⟩

theorem mem_movers_without {chosen : Call → Bool} {events : List (Event Call Move)} {call : Call} :
    call ∈ movers (Event.without chosen events) ↔ call ∈ movers events ∧ chosen call = false := by
  simp only [mem_movers,Event.without,List.mem_filter,Bool.not_eq_eq_eq_not,Bool.not_true,exists_and_right]

theorem counts_without {events : List (Event Call Move)} {chosen : Call → Bool}
    (agree : (reached strategy calls events).Agree chosen (reached strategy calls (Event.without chosen events)))
    (releases : ∀ call, chosen call = true → ∃ token, calls.request call = .release token) (token : Token) :
    released strategy calls (Event.without chosen events) token ≤ released strategy calls events token ∧
      acquired strategy calls events token ≤ acquired strategy calls (Event.without chosen events) token := by
  constructor
  · apply Finset.card_le_card
    intro call member
    obtain ⟨moved,same,begun⟩ := Finset.mem_filter.mp member
    obtain ⟨moved,out⟩ := mem_movers_without.mp moved
    rw [agree.stage call out] at begun
    exact Finset.mem_filter.mpr ⟨moved,same,begun⟩
  · apply Finset.card_le_card
    intro call member
    obtain ⟨moved,acquires,returned⟩ := Finset.mem_filter.mp member
    have out : chosen call = false := by
      by_contra one
      obtain ⟨own,release⟩ := releases call (Bool.eq_true_of_not_eq_false one)
      rw [release] at acquires
      cases acquires
    rw [← agree.stage call out] at returned
    exact Finset.mem_filter.mpr ⟨mem_movers_without.mpr ⟨moved,out⟩,acquires,returned⟩

theorem harmless_iff (strategy : Strategy) (calls : Calls Call Client Token) (events : List (Event Call Move)) :
    Harmless strategy calls events ↔
      Transition.Meets ((machine strategy).step calls) (Spares strategy calls) (.initial none) events := by
  refine ⟨fun harmless => meets_of_unharmed harmless.1,fun meets => ⟨unharmed_of_meets meets,?_⟩⟩
  intro chosen foreign early
  obtain ⟨earlier,call,move,token,before,releases,holds,deleted,fewer⟩ := early
  have unharmed := unharmed_of_meets meets
  have agree := agree_without unharmed foreign ((List.prefix_append earlier [_]).trans before)
  have after := agree_without unharmed foreign before
  -- A foreign release does not move while its token is in the key.
  have out : chosen call = false := by
    by_contra one
    obtain ⟨own,release,apart⟩ := foreign call (Bool.eq_true_of_not_eq_false one)
    cases releases.symm.trans release
    exact (apart earlier move before).2 holds
  have left : Event.without chosen (earlier ++ [.move call move]) = Event.without chosen earlier ++ [.move call move] := by
    simp [Event.without,out]
  have counts := counts_without agree (fun call one => (foreign call one).imp fun _ facts => facts.1) token
  refine ⟨Event.without chosen earlier,call,move,token,?_,releases,agree.keys.trans holds,?_,
    counts.1.trans_lt (fewer.trans_le counts.2)⟩
  · rw [← left]
    exact before.filter _
  · rw [← left]
    exact after.keys.trans deleted

/-- The first acquirer holds the lock until it expires; then the second acquires it twice. The first releases late,
and the second once. -/
def lateRelease : Calls (Fin 5) Unit String where
  client _ := ()
  request call := match call with
    | 0 => .acquire none 30000000
    | 1 | 2 => .acquire (some "session-2") 30000000
    | 3 => .release "41c2b6e8"
    | 4 => .release "9d0f7a52"
  uuid call := match call with
    | 0 => "41c2b6e8"
    | 1 => "9d0f7a52"
    | 2 => "b37a1c04"
    | 3 => "e85d2f19"
    | 4 => "f60b93ad"
  distinct := by
    intro first second
    revert first second
    decide

def untilLate : List (Event (Fin 5) Move) :=
  [.move 0 (.start 0),.move 0 (.serve (.integer 1)),.move 0 (.answer 1),.expire,.move 1 (.start 31000000),
    .move 1 (.serve (.integer 1)),.move 1 (.answer 31000001),.move 2 (.start 31000002),
    .move 2 (.serve (.integer 1)),.move 2 (.answer 31000003)]

def late : List (Event (Fin 5) Move) :=
  [.move 3 (.start 31000004),.move 3 (.serve (.integer 1)),.move 3 (.answer 31000005),.move 4 (.start 31000006),
    .move 4 (.serve (.integer 1))]

/-- Redlock counts the entry of the second down when the first releases, FIFO drops it; the first release of the
second then deletes the key that it has acquired twice. -/
theorem late_release_unlocks :
    (¬Harmless .redlock lateRelease (untilLate ++ late) ∧ UnlockedEarly .redlock lateRelease (untilLate ++ late)) ∧
    ¬Harmless .fifo lateRelease (untilLate ++ late) ∧ UnlockedEarly .fifo lateRelease (untilLate ++ late) := by
  refine ⟨⟨fun harmless => ?_,untilLate ++ late.take 4,4,.serve (.integer 1),"9d0f7a52",?_⟩,fun harmless => ?_,
    untilLate ++ late.take 4,4,.serve (.integer 1),"9d0f7a52",?_⟩
  · have kept := (harmless.1 untilLate 3 (.start 31000004) "41c2b6e8" (by decide) rfl).1
      ⟨31000003,30000000,some "session-2","9d0f7a52",2⟩ (by decide) (by decide)
    exact absurd kept (by decide)
  · decide
  · have kept := (harmless.1 (untilLate ++ late.take 2) 3 (.answer 31000005) "41c2b6e8" (by decide) rfl).1
      ⟨31000003,30000000,some "session-2","9d0f7a52",2⟩ (by decide) (by decide)
    exact absurd kept (by decide)
  · decide

section Fifo
variable {Call Client Token : Type} [DecidableEq Call] [DecidableEq Client] [LinearOrder Token]

/-- The FIFO lock without its queue. -/
def forget (moment : FifoRedis.Moment Token) : Moment Token := ⟨moment.keys.lock,moment.metadata,moment.stage⟩

/-- A script of an acquirer is an attempt with the reply to which the queue leads. -/
def served (request : Request Token) (uuid : Token) (moment : FifoRedis.Moment Token) : FifoRedis.Move → Move
  | .start now => .start now
  | .script now => .serve (moment.keys.fairAcquireScript uuid (ttlMs request.ttl) now).2
  | .answer now => .answer now
  | .giveUp => .giveUp
  | .raise => .raise
  | .cancel => .cancel

theorem forget_script (request : Request Token) (uuid : Token) (now : Int) (moment : FifoRedis.Moment Token) :
    forget (FifoRedis.Moment.script request uuid now moment) =
      Moment.serve request uuid (moment.keys.fairAcquireScript uuid (ttlMs request.ttl) now).2 (forget moment) := by
  obtain ⟨keys,metadata,stage⟩ := moment
  cases stage with
  | extending token =>
    by_cases found : keys.lock = some token
    · by_cases positive : ttlMs request.ttl ≤ 0
      · simp [forget,FifoRedis.Moment.script,Moment.serve,FifoRedis.Keys.extendScript,found,positive]
      · simp [forget,FifoRedis.Moment.script,Moment.serve,FifoRedis.Keys.extendScript,found,positive]
    · simp [forget,FifoRedis.Moment.script,Moment.serve,FifoRedis.Keys.extendScript,found]
  | trying =>
    rcases keys.fairAcquireScript_cases uuid (ttlMs request.ttl) now with ⟨one,free,set,_⟩ | ⟨negative,same⟩
    · simp [forget,FifoRedis.Moment.script,Moment.serve,one,free,set]
    · simp [forget,FifoRedis.Moment.script,Moment.serve,negative,same]
  | releasing token =>
    by_cases found : keys.lock = some token
    · simp [forget,FifoRedis.Moment.script,Moment.serve,FifoRedis.Keys.releaseScript_lock,found]
    · simp [forget,FifoRedis.Moment.script,Moment.serve,FifoRedis.Keys.releaseScript_lock,found]
  | _ => rfl

theorem forget_advance (request : Request Token) (uuid : Token) (move : FifoRedis.Move) (moment : FifoRedis.Moment Token) :
    forget (FifoRedis.Moment.advance request uuid move moment) =
      Moment.advance .fifo request uuid (served request uuid moment move) (forget moment) := by
  obtain ⟨keys,metadata,stage⟩ := moment
  cases move with
  | script now => exact forget_script request uuid now _
  | start now =>
    cases stage with
    | idle =>
      cases request with
      | acquire sessionId ttl =>
        simp only [FifoRedis.Moment.advance,FifoRedis.Moment.start,served,Moment.advance,Moment.start,forget,
          Moment.acquireInternal]
        split
        next => rfl
        next => split <;> rfl
      | release token =>
        simp only [FifoRedis.Moment.advance,FifoRedis.Moment.start,served,Moment.advance,Moment.start,forget,
          FifoRedis.Moment.releaseInternal,Moment.releaseInternal]
        cases metadata with
        | none => rfl
        | some entry =>
          by_cases same : entry.token = token
          · simp only [same,or_true,if_true]
            split <;> rfl
          · simp [same]
      | extend token ttl => rfl
    | _ => cases request <;> rfl
  | answer now =>
    cases stage with
    | extended token reply =>
      by_cases one : reply = .integer 1
      · subst one
        cases metadata <;> cases request <;> rfl
      · simp only [FifoRedis.Moment.advance,FifoRedis.Moment.answer,served,Moment.advance,Moment.answer,forget,if_neg one]
        cases request <;> rfl
    | tried reply =>
      by_cases failed : reply = .error
      · subst failed
        rfl
      · by_cases one : reply = .integer 1
        · subst one
          rfl
        · simp only [FifoRedis.Moment.advance,FifoRedis.Moment.answer,served,Moment.advance,Moment.answer,forget,
            if_neg failed,if_neg one]
    | _ => rfl
  | giveUp => cases stage <;> rfl
  | raise => cases stage <;> cases request <;> rfl
  | cancel => cases stage <;> rfl

def forgetWorld (world : FifoRedis.World Call Client Token) : World Call Client (Option Token) Token :=
  ⟨world.keys.lock,world.metadata,world.stage⟩

def servedEvent (calls : Calls Call Client Token) (world : FifoRedis.World Call Client Token) :
    FifoRedis.Event Call → Event Call Move
  | .move call move => .move call (served (calls.request call) (calls.uuid call) (calls.moment world call) move)
  | .expire => .expire

def servedRun (calls : Calls Call Client Token) :
    FifoRedis.World Call Client Token → List (FifoRedis.Event Call) → List (Event Call Move)
  | _,[] => []
  | world,event::rest => servedEvent calls world event::servedRun calls (FifoRedis.machine.step calls world event) rest

theorem forget_step (calls : Calls Call Client Token) (world : FifoRedis.World Call Client Token)
    (event : FifoRedis.Event Call) :
    forgetWorld (FifoRedis.machine.step calls world event) =
      (machine .fifo).step calls (forgetWorld world) (servedEvent calls world event) := by
  cases event with
  | expire => rfl
  | move call move =>
    have moved := forget_advance (calls.request call) (calls.uuid call) move (calls.moment world call)
    change _ = (machine .fifo).moved calls (forgetWorld world) call _ at moved
    unfold Machine.step
    dsimp only [servedEvent]
    rw [← moved]
    rfl

theorem forget_run (calls : Calls Call Client Token) (world : FifoRedis.World Call Client Token)
    (events : List (FifoRedis.Event Call)) :
    forgetWorld (Transition.run (FifoRedis.machine.step calls) world events) =
      Transition.run ((machine .fifo).step calls) (forgetWorld world) (servedRun calls world events) := by
  induction events generalizing world with
  | nil => rfl
  | cons event rest ih =>
    rw [Transition.run_cons,ih,servedRun,Transition.run_cons,forget_step]

end Fifo

end StaleReleases

end CqrsDdd.Locking
