import CqrsDdd.Locking.FifoRedis
import Mathlib.Data.String.Basic

/-! Mutual exclusion and queue order of the FIFO lock over all runs. The key is set only
by a call whose token heads the queue, and a call that returns a token has set the key to
it, or has found the token of its session in it. -/
namespace CqrsDdd.Locking

open Redis

namespace FifoRedis

namespace Keys
variable {Token : Type} [LinearOrder Token]

/-- The token is queued, and no queued token comes before it by score and token. -/
def Heads (keys : Keys Token) (token : Token) : Prop :=
  ∃ score, keys.queue.get token = some score ∧
    ∀ other otherScore, keys.queue.get other = some otherScore → toLex (score,token) ≤ toLex (otherScore,other)

theorem heads_of_zrank {keys : Keys Token} {token : Token} (first : keys.zrank token = some 0) : keys.Heads token := by
  obtain ⟨score,queued,none⟩ := Option.map_eq_some_iff.mp first
  refine ⟨score,queued,fun other otherScore found => not_lt.mp fun before => ?_⟩
  have member : (other,otherScore) ∈
      keys.queue.entries.filter fun entry => toLex (entry.2,entry.1) < toLex (score,token) :=
    List.mem_filter.mpr ⟨keys.queue.mem_iff_get.mpr found,decide_eq_true before⟩
  rw [List.length_eq_zero_iff.mp none] at member
  exact List.not_mem_nil member

@[simp] theorem zaddNX_lock (keys : Keys Token) (score : Int) (token : Token) : (keys.zaddNX score token).lock = keys.lock := by
  unfold zaddNX
  split
  next => rfl
  next => rfl

theorem fairAcquireScript_cases (keys : Keys Token) (token : Token) (ttlMs now : Int) :
    ((keys.fairAcquireScript token ttlMs now).2 = .integer 1 ∧ keys.lock = none ∧
      (keys.fairAcquireScript token ttlMs now).1.lock = some token ∧ (keys.zaddNX now token).Heads token) ∨
    ((keys.fairAcquireScript token ttlMs now).2 ≠ .integer 1 ∧
      (keys.fairAcquireScript token ttlMs now).1 = keys.zaddNX now token) := by
  unfold fairAcquireScript
  dsimp only
  by_cases first : (keys.zaddNX now token).zrank token = some 0
  · rw [if_pos first]
    split
    next => exact .inr ⟨fun one => (by cases one),rfl⟩
    next =>
      split
      next free =>
        refine .inl ⟨rfl,?_,rfl,heads_of_zrank first⟩
        simpa using free
      next => exact .inr ⟨fun one => (by cases one),rfl⟩
  · rw [if_neg first]
    exact .inr ⟨fun one => (by cases one),rfl⟩

theorem releaseScript_lock (keys : Keys Token) (token : Token) :
    (keys.releaseScript token).lock = if keys.lock = some token then none else keys.lock := by
  unfold releaseScript
  split
  next => rfl
  next => rfl

theorem extendScript_cases (keys : Keys Token) (token : Token) (ttlMs : Int) :
    (keys.lock = some token ∧ (keys.extendScript token ttlMs).1.lock = if ttlMs ≤ 0 then none else some token) ∨
    (keys.lock ≠ some token ∧ keys.extendScript token ttlMs = (keys,.integer 0)) := by
  unfold extendScript
  split
  next found =>
    refine .inl ⟨found,?_⟩
    split
    next => rfl
    next => exact found
  next other => exact .inr ⟨other,rfl⟩

end Keys

/-- What is known of the past of a call: it has set the key to its own token, some call has
set it to a token, a call of a session on the same strategy object has, and an extend
script of the call has found a token in the key. -/
structure Evidence (Token : Type) where
  took : Prop
  held : Token → Prop
  owned : Option String → Token → Prop
  found : Token → Prop

namespace Evidence
variable {Token : Type}

structure Le (evidence more : Evidence Token) : Prop where
  took : evidence.took → more.took
  held : ∀ token, evidence.held token → more.held token
  owned : ∀ sessionId token, evidence.owned sessionId token → more.owned sessionId token
  found : ∀ token, evidence.found token → more.found token

def Explains (evidence : Evidence Token) (request : Request Token) (uuid : Token) : Stage Token → Prop
  | .extending token => request.isAcquire = true → evidence.owned request.sessionId token
  | .extended token reply =>
    request.isAcquire = true → reply = .integer 1 → evidence.found token ∧ evidence.owned request.sessionId token
  | .tried reply => reply = .integer 1 → evidence.took
  | .exited (.returned token) =>
    (token = uuid ∧ evidence.took) ∨ (evidence.found token ∧ evidence.owned request.sessionId token)
  | _ => True

theorem Le.explains {evidence more : Evidence Token} (le : evidence.Le more) {request : Request Token} {uuid : Token}
    {stage : Stage Token} (explains : evidence.Explains request uuid stage) : more.Explains request uuid stage := by
  cases stage with
  | extending token => exact fun acquires => le.owned _ token (explains acquires)
  | extended token reply =>
    intro acquires one
    obtain ⟨found,owned⟩ := explains acquires one
    exact ⟨le.found token found,le.owned _ token owned⟩
  | tried reply => exact fun one => le.took (explains one)
  | exited outcome =>
    cases outcome with
    | returned token =>
      rcases explains with ⟨same,took⟩ | ⟨found,owned⟩
      · exact .inl ⟨same,le.took took⟩
      · exact .inr ⟨le.found token found,le.owned _ token owned⟩
    | _ => trivial
  | _ => trivial

end Evidence

namespace Moment
variable {Token : Type} {evidence : Evidence Token} {request : Request Token} {uuid : Token}

structure Justified (evidence : Evidence Token) (request : Request Token) (uuid : Token) (moment : Moment Token) :
    Prop where
  lock : ∀ token, moment.keys.lock = some token → evidence.held token
  metadata : ∀ entry, moment.metadata = some entry → evidence.owned entry.sessionId entry.token
  stage : evidence.Explains request uuid moment.stage

theorem Justified.more {moment : Moment Token} (justified : Justified evidence request uuid moment)
    {more : Evidence Token} (le : evidence.Le more) : Justified more request uuid moment where
  lock token holds := le.held token (justified.lock token holds)
  metadata entry stored := le.owned _ _ (justified.metadata entry stored)
  stage := le.explains justified.stage

theorem Justified.acquireInternal {moment : Moment Token} (justified : Justified evidence request uuid moment)
    (now : Int) : Justified evidence request uuid (moment.acquireInternal request.sessionId now) := by
  unfold Moment.acquireInternal
  dsimp only
  split
  next pruned =>
    refine ⟨justified.lock,fun entry stored => ?_,trivial⟩
    dsimp only at stored
    rw [pruned] at stored
    cases stored
  next entry kept =>
    have stored : moment.metadata = some entry := (Option.filter_eq_some_iff.mp kept).1
    have own : ∀ other, LockMetadata.prune now moment.metadata = some other → evidence.owned other.sessionId other.token :=
      fun other found => justified.metadata other (Option.filter_eq_some_iff.mp found).1
    split
    next reentrant =>
      refine ⟨justified.lock,own,fun _ => ?_⟩
      rw [← reentrant.2.2.1]
      exact justified.metadata entry stored
    next => exact ⟨justified.lock,own,trivial⟩

theorem Justified.refused {moment : Moment Token} (justified : Justified evidence request uuid moment) :
    Justified evidence request uuid (moment.refused request) := by
  unfold Moment.refused
  split
  next => exact ⟨justified.lock,justified.metadata,trivial⟩
  next => exact ⟨justified.lock,justified.metadata,trivial⟩

theorem Justified.granted {moment : Moment Token} (justified : Justified evidence request uuid moment) {token : Token}
    (known : request.isAcquire = true → evidence.found token ∧ evidence.owned request.sessionId token) (now : Int) :
    Justified evidence request uuid (moment.granted request .raised token now) := by
  have own : ∀ other, moment.metadata.map (·.extended request.ttl now) = some other →
      evidence.owned other.sessionId other.token := by
    intro other extended
    obtain ⟨entry,stored,rfl⟩ := Option.map_eq_some_iff.mp extended
    exact justified.metadata entry stored
  unfold Moment.granted
  dsimp only
  split
  next acquires =>
    split
    next => exact ⟨justified.lock,justified.metadata,trivial⟩
    next entry extended =>
      refine ⟨justified.lock,fun other same => ?_,.inr (known acquires)⟩
      cases same
      exact own entry extended
  next => exact ⟨justified.lock,own,trivial⟩

theorem Justified.answer {moment : Moment Token} (justified : Justified evidence request uuid moment)
    (owner : evidence.took → evidence.owned request.sessionId uuid) (now : Int) :
    Justified evidence request uuid (moment.answer request uuid now) := by
  unfold Moment.answer
  split
  next token reply waits =>
    have known := justified.stage
    rw [waits] at known
    split
    next one => exact justified.granted (fun acquires => known acquires one) now
    next => exact justified.refused
  next reply waits =>
    have known := justified.stage
    rw [waits] at known
    split
    next => exact ⟨justified.lock,justified.metadata,trivial⟩
    next =>
      split
      next one =>
        refine ⟨justified.lock,fun entry same => ?_,.inl ⟨rfl,known one⟩⟩
        cases same
        exact owner (known one)
      next => exact ⟨justified.lock,justified.metadata,trivial⟩
  next => exact ⟨justified.lock,justified.metadata,trivial⟩
  next => exact ⟨justified.lock,fun entry none => (by cases none),trivial⟩
  next => exact justified

theorem Justified.giveUp {moment : Moment Token} (justified : Justified evidence request uuid moment) :
    Justified evidence request uuid moment.giveUp := by
  unfold Moment.giveUp
  split
  next => exact ⟨justified.lock,justified.metadata,trivial⟩
  next => exact justified

theorem Justified.raise {moment : Moment Token} (justified : Justified evidence request uuid moment) :
    Justified evidence request uuid (moment.raise request) := by
  unfold Moment.raise
  split
  all_goals first
    | exact justified
    | exact justified.refused
    | exact ⟨justified.lock,justified.metadata,trivial⟩

theorem Justified.cancel {moment : Moment Token} (justified : Justified evidence request uuid moment) :
    Justified evidence request uuid moment.cancel := by
  unfold Moment.cancel
  split
  next => exact justified
  next => exact justified
  next => exact ⟨justified.lock,justified.metadata,trivial⟩

variable [LinearOrder Token]

theorem Justified.releaseInternal {moment : Moment Token} (justified : Justified evidence request uuid moment)
    (token : Token) : Justified evidence request uuid (moment.releaseInternal token) := by
  unfold Moment.releaseInternal
  split
  next => exact ⟨justified.lock,justified.metadata,trivial⟩
  next entry stored =>
    have own : ∀ other, some {entry with refCount := entry.refCount-1} = some other →
        evidence.owned other.sessionId other.token := by
      intro other same
      cases same
      exact justified.metadata entry stored
    split
    next =>
      split
      next => exact ⟨justified.lock,own,trivial⟩
      next => exact ⟨justified.lock,own,trivial⟩
    next => exact ⟨justified.lock,justified.metadata,trivial⟩

theorem Justified.start {moment : Moment Token} (justified : Justified evidence request uuid moment) (now : Int) :
    Justified evidence request uuid (moment.start request now) := by
  unfold Moment.start
  split
  next => exact justified.acquireInternal now
  next => exact justified.releaseInternal _
  next => exact ⟨justified.lock,justified.metadata,fun acquires => (by cases acquires)⟩
  next => exact justified

theorem Justified.script {moment : Moment Token} (justified : Justified evidence request uuid moment) (now : Int)
    (found : ∀ token, moment.stage = .extending token → moment.keys.lock = some token → evidence.found token)
    (took : moment.stage = .trying → moment.keys.lock = none →
      (moment.script request uuid now).keys.lock = some uuid → (moment.keys.zaddNX now uuid).Heads uuid →
        evidence.took ∧ evidence.held uuid) :
    Justified evidence request uuid (moment.script request uuid now) := by
  revert took
  unfold Moment.script
  split
  next token waits =>
    intro _
    have known := justified.stage
    rw [waits] at known
    rcases moment.keys.extendScript_cases token (ttlMs request.ttl) with ⟨here,after⟩ | ⟨_,same⟩
    · refine ⟨fun other holds => ?_,justified.metadata,fun acquires _ => ⟨found token waits here,known acquires⟩⟩
      dsimp only at holds
      rw [after] at holds
      split at holds
      next => cases holds
      next => exact justified.lock other (here.trans holds)
    · rw [same]
      exact ⟨justified.lock,justified.metadata,fun _ one => (by cases one)⟩
  next waits =>
    intro took
    rcases moment.keys.fairAcquireScript_cases uuid (ttlMs request.ttl) now with ⟨_,free,set,heads⟩ | ⟨reply,same⟩
    · have known := took waits free set heads
      refine ⟨fun other holds => ?_,justified.metadata,fun _ => known.1⟩
      dsimp only at holds
      rw [set] at holds
      cases holds
      exact known.2
    · refine ⟨fun other holds => ?_,justified.metadata,fun one => absurd one reply⟩
      dsimp only at holds
      rw [same,Keys.zaddNX_lock] at holds
      exact justified.lock other holds
  next => exact fun _ => ⟨justified.lock,justified.metadata,trivial⟩
  next token _ =>
    intro _
    refine ⟨fun other holds => ?_,justified.metadata,trivial⟩
    dsimp only at holds
    rw [Keys.releaseScript_lock] at holds
    split at holds
    next => cases holds
    next => exact justified.lock other holds
  next => exact fun _ => justified

end Moment

end FifoRedis

/-- The stages a call of the request can be in. -/
def Redis.Request.Fits {Token : Type} (request : Request Token) : Stage Token → Prop
  | .extending token | .extended token _ => request.isAcquire = true ∨ request.token? = some token
  | .trying | .tried _ | .cleaning | .cleaned => request.isAcquire = true
  | .releasing token => request.token? = some token
  | .idle | .released | .exited _ => True

namespace FifoRedis

namespace Moment
variable {Token : Type} {request : Request Token} {uuid : Token}

theorem refused_fits (request : Request Token) (moment : Moment Token) : request.Fits (moment.refused request).stage := by
  unfold refused
  split
  next acquires => exact acquires
  next => trivial

theorem granted_fits (request : Request Token) (token : Token) (now : Int) (moment : Moment Token) :
    request.Fits (moment.granted request .raised token now).stage := by
  unfold Moment.granted
  dsimp only
  split
  next => split <;> trivial
  next => trivial

variable [LinearOrder Token]

theorem start_fits {moment : Moment Token} (fits : request.Fits moment.stage) (now : Int) :
    request.Fits (moment.start request now).stage := by
  unfold start
  split
  next =>
    unfold Moment.acquireInternal
    dsimp only
    split
    next => rfl
    next => split <;> [exact .inl rfl;rfl]
  next =>
    unfold releaseInternal
    split
    next => rfl
    next =>
      split
      next => dsimp only; split <;> [trivial;rfl]
      next => rfl
  next => exact .inr rfl
  next => exact fits

theorem advance_fits {moment : Moment Token} (fits : request.Fits moment.stage) (move : Move) :
    request.Fits (moment.advance request uuid move).stage := by
  cases move with
  | start now => exact start_fits fits now
  | script now =>
    unfold advance script
    dsimp only
    split
    all_goals
      next waits => first | exact fits | (rw [waits] at fits; exact fits) | trivial
  | answer now =>
    unfold advance answer
    dsimp only
    split
    next =>
      split
      next => exact granted_fits request _ now moment
      next => exact refused_fits request moment
    next waits =>
      rw [waits] at fits
      split <;> [trivial;(split <;> [trivial;exact fits])]
    next => trivial
    next => trivial
    next => exact fits
  | giveUp =>
    unfold advance giveUp
    dsimp only
    split
    next waits =>
      rw [waits] at fits
      exact fits
    next => exact fits
  | raise =>
    unfold advance raise
    dsimp only
    split <;> first | exact refused_fits request moment | exact fits | trivial
  | cancel =>
    unfold advance Moment.cancel
    dsimp only
    split <;> first | exact fits | trivial

theorem advance_lock {moment : Moment Token} (fits : request.Fits moment.stage) {token : Token}
    (aims : request.token? = some token ∨ moment.stage = .extending token) (differs : moment.keys.lock ≠ some token)
    (move : Move) : (moment.advance request uuid move).keys.lock = moment.keys.lock := by
  by_cases scripted : ∃ now, move = .script now
  · obtain ⟨now,rfl⟩ := scripted
    unfold advance script
    dsimp only
    split
    next aimed waits =>
      rw [waits] at fits aims
      have same : aimed = token := by
        rcases aims with handed | extending
        · rcases fits with acquires | own
          · exact absurd acquires (Request.not_acquire handed)
          · exact Option.some.inj (own.symm.trans handed)
        · exact Stage.extending.inj extending
      rw [same]
      rcases moment.keys.extendScript_cases token (ttlMs request.ttl) with ⟨here,_⟩ | ⟨_,kept⟩
      · exact absurd here differs
      · exact congrArg (·.1.lock) kept
    next waits =>
      rw [waits] at fits aims
      rcases aims with handed | extending
      · exact absurd fits (Request.not_acquire handed)
      · cases extending
    next => rfl
    next aimed waits =>
      rw [waits] at fits aims
      have same : aimed = token := by
        rcases aims with handed | extending
        · exact Option.some.inj (fits.symm.trans handed)
        · cases extending
      rw [Keys.releaseScript_lock,same,if_neg differs]
    next => rfl
  · exact congrArg Keys.lock (advance_keys request uuid (fun now same => scripted ⟨now,same⟩) moment)

end Moment

namespace Calls
variable {Call Client Token : Type} [DecidableEq Call] [DecidableEq Client] [LinearOrder Token]

/-- A script of the call has set the free key to its token, which headed the queue. -/
def Took (calls : Calls Call Client Token) (events : List (Event Call)) (call : Call) : Prop :=
  ∃ earlier now, earlier ++ [.move call (.script now)] <+: events ∧ (calls.reached earlier).keys.lock = none ∧
    (calls.reached (earlier ++ [.move call (.script now)])).keys.lock = some (calls.uuid call) ∧
    ((calls.reached earlier).keys.zaddNX now (calls.uuid call)).Heads (calls.uuid call)

def Found (calls : Calls Call Client Token) (events : List (Event Call)) (call : Call) (token : Token) : Prop :=
  ∃ earlier now, earlier ++ [.move call (.script now)] <+: events ∧
    (calls.reached earlier).stage call = .extending token ∧ (calls.reached earlier).keys.lock = some token

def Owned (calls : Calls Call Client Token) (events : List (Event Call)) (client : Client)
    (sessionId : Option String) (token : Token) : Prop :=
  ∃ owner, calls.uuid owner = token ∧ calls.client owner = client ∧ (calls.request owner).sessionId = sessionId ∧
    calls.Took events owner

def evidence (calls : Calls Call Client Token) (events : List (Event Call)) (call : Call) : Evidence Token where
  took := calls.Took events call
  held token := ∃ owner, calls.uuid owner = token ∧ calls.Took events owner
  owned := calls.Owned events (calls.client call)
  found := calls.Found events call

structure Inv (calls : Calls Call Client Token) (past : List (Event Call)) (world : World Call Client Token) : Prop where
  reached : world = calls.reached past
  lock : ∀ token, world.keys.lock = some token → ∃ owner, calls.uuid owner = token ∧ calls.Took past owner
  justified : ∀ call,
    Moment.Justified (calls.evidence past call) (calls.request call) (calls.uuid call) (calls.moment world call)
  fits : ∀ call, (calls.request call).Fits (world.stage call)

variable {calls : Calls Call Client Token}

theorem Took.later {past : List (Event Call)} {call : Call} (took : calls.Took past call) (event : Event Call) :
    calls.Took (past ++ [event]) call := by
  obtain ⟨earlier,now,before,facts⟩ := took
  exact ⟨earlier,now,before.trans (List.prefix_append past [event]),facts⟩

theorem evidence_later (calls : Calls Call Client Token) (past : List (Event Call)) (event : Event Call) (call : Call) :
    (calls.evidence past call).Le (calls.evidence (past ++ [event]) call) where
  took took := took.later event
  held := fun _ ⟨owner,same,took⟩ => ⟨owner,same,took.later event⟩
  owned := fun _ _ ⟨owner,same,client,session,took⟩ => ⟨owner,same,client,session,took.later event⟩
  found := fun _ ⟨earlier,now,before,facts⟩ => ⟨earlier,now,before.trans (List.prefix_append past [event]),facts⟩

theorem Inv.moved {past : List (Event Call)} {world : World Call Client Token} (inv : calls.Inv past world)
    (call : Call) (move : Move) :
    Moment.Justified (calls.evidence (past ++ [.move call move]) call) (calls.request call) (calls.uuid call)
      (machine.moved calls world call move) := by
  have justified := (inv.justified call).more (calls.evidence_later past (.move call move) call)
  have owner : (calls.evidence (past ++ [.move call move]) call).took →
      (calls.evidence (past ++ [.move call move]) call).owned (calls.request call).sessionId (calls.uuid call) :=
    fun took => ⟨call,rfl,rfl,rfl,took⟩
  cases move with
  | start now => exact justified.start now
  | script now =>
    apply justified.script now
    · intro token waits holds
      exact ⟨past,now,List.prefix_rfl,inv.reached ▸ waits,inv.reached ▸ holds⟩
    · intro _ free set heads
      have took : calls.Took (past ++ [.move call (.script now)]) call := by
        refine ⟨past,now,List.prefix_rfl,inv.reached ▸ free,?_,inv.reached ▸ heads⟩
        rw [reached_snoc,← inv.reached]
        exact set
      exact ⟨took,call,rfl,took⟩
  | answer now => exact justified.answer owner now
  | giveUp => exact justified.giveUp
  | raise => exact justified.raise
  | cancel => exact justified.cancel

theorem Inv.step {past : List (Event Call)} {world : World Call Client Token} (inv : calls.Inv past world)
    (event : Event Call) : calls.Inv (past ++ [event]) (calls.step world event) := by
  have next : calls.step world event = calls.reached (past ++ [event]) := by
    rw [reached_snoc,← inv.reached]
  cases event with
  | expire =>
    refine ⟨next,fun _ holds => (by cases holds),fun call => ?_,inv.fits⟩
    have justified := (inv.justified call).more (calls.evidence_later past .expire call)
    exact ⟨fun _ holds => (by cases holds),justified.metadata,justified.stage⟩
  | move call move =>
    have after := inv.moved call move
    refine ⟨next,after.lock,fun other => ?_,fun other => ?_⟩
    · have justified := (inv.justified other).more (calls.evidence_later past (.move call move) other)
      refine ⟨after.lock,fun entry stored => ?_,?_⟩
      · change (calls.step world (.move call move)).metadata (calls.client other) = some entry at stored
        by_cases mine : calls.client other = calls.client call
        · rw [Machine.metadata_mine machine calls world mine] at stored
          change calls.Owned _ (calls.client other) _ _
          rw [mine]
          exact after.metadata entry stored
        · rw [Machine.metadata_other machine calls world mine] at stored
          exact justified.metadata entry stored
      · change (calls.evidence _ other).Explains _ _ ((calls.step world (.move call move)).stage other)
        by_cases same : other = call
        · subst same
          rw [Machine.stage_self]
          exact after.stage
        · rw [Machine.stage_other machine calls world same]
          exact justified.stage
    · by_cases same : other = call
      · subst same
        rw [Machine.stage_self]
        exact Moment.advance_fits (inv.fits other) move
      · rw [Machine.stage_other machine calls world same]
        exact inv.fits other

theorem inv_initial (calls : Calls Call Client Token) : calls.Inv [] (.initial ⟨none,Dict.empty⟩) where
  reached := rfl
  lock _ holds := by cases holds
  justified _ := ⟨fun _ holds => (by cases holds),fun _ stored => (by cases stored),trivial⟩
  fits _ := trivial

theorem inv_reached (calls : Calls Call Client Token) (events : List (Event Call)) :
    calls.Inv events (calls.reached events) :=
  Transition.run_history calls.Inv (fun _ _ event inv (_ : True) => inv.step event) [] (.initial ⟨none,Dict.empty⟩) events
    calls.inv_initial (Transition.meets_of_forall calls.step (fun _ _ => True) (fun _ _ => trivial) _ events)

theorem exclusive_and_fair (calls : Calls Call Client Token) (events : List (Event Call)) :
    (∀ token, (calls.reached events).keys.lock = some token →
      ∃! owner, calls.uuid owner = token ∧ calls.Took events owner) ∧
    (∀ call token, (calls.reached events).stage call = .exited (.returned token) →
      (token = calls.uuid call ∧ calls.Took events call) ∨
      (calls.Found events call token ∧
        calls.Owned events (calls.client call) (calls.request call).sessionId token)) ∧
    ∀ earlier call move token, earlier ++ [.move call move] <+: events →
      (calls.request call).token? = some token ∨ (calls.reached earlier).stage call = .extending token →
      (calls.reached earlier).keys.lock ≠ some token →
      (calls.reached (earlier ++ [.move call move])).keys.lock = (calls.reached earlier).keys.lock := by
  have inv := calls.inv_reached events
  refine ⟨fun token holds => ?_,fun call token returned => ?_,?_⟩
  · obtain ⟨owner,same,took⟩ := inv.lock token holds
    exact ⟨owner,⟨same,took⟩,fun other facts => calls.distinct (facts.1.trans same.symm)⟩
  · have explained := (inv.justified call).stage
    change (calls.evidence events call).Explains _ _ ((calls.reached events).stage call) at explained
    rwa [returned] at explained
  · intro earlier call move token _ aims differs
    rw [reached_snoc]
    exact Moment.advance_lock ((calls.inv_reached earlier).fits call) aims differs move

def nested : Calls Bool Unit String where
  client _ := ()
  request _ := .acquire (some "session-1") 30000000
  uuid call := if call then "9d0f7a52" else "41c2b6e8"
  distinct := by
    intro first second same
    cases first <;> cases second <;> first | rfl | exact absurd same (by decide)

/-- The second call returns the token of the first and sets nothing. -/
theorem nested_acquire_sets_nothing :
    ∃ events call token, (nested.reached events).stage call = .exited (.returned token) ∧
      ¬(token = nested.uuid call ∧ nested.Took events call) :=
  ⟨[.move false (.start 0),.move false (.script 1),.move false (.answer 2),.move true (.start 3),
    .move true (.script 4),.move true (.answer 5)],true,"41c2b6e8",by decide,fun took => absurd took.1 (by decide)⟩

end Calls

end FifoRedis

end CqrsDdd.Locking
