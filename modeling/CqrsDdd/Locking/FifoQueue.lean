import CqrsDdd.Locking.FifoRedis
import Mathlib.Data.String.Basic

/-! The queue of the FIFO lock over all runs. A call enters it with its first script and
is to leave it on every way out, but neither an error nor a cancellation takes it out. -/
namespace CqrsDdd.Locking

open Redis

def Redis.Stage.inQueue {Token : Type} : Stage Token → Bool
  | .trying | .cleaning => true
  | .tried reply => reply ≠ .integer 1
  | .idle | .extending _ | .extended _ _ | .cleaned | .releasing _ | .released | .exited _ => false

namespace FifoRedis

namespace Keys
variable {Token : Type} [LinearOrder Token]

theorem zaddNX_other (keys : Keys Token) (score : Int) {token other : Token} (differs : other ≠ token) :
    (keys.zaddNX score token).queue.get other = keys.queue.get other := by
  unfold zaddNX
  split
  next => exact keys.queue.get_set_other score differs
  next => rfl

theorem fairAcquireScript_queue (keys : Keys Token) (token : Token) (ttlMs now : Int) :
    ((keys.fairAcquireScript token ttlMs now).2 = .integer 1 →
      (keys.fairAcquireScript token ttlMs now).1.queue.get token = none) ∧
    ∀ other, other ≠ token → (keys.fairAcquireScript token ttlMs now).1.queue.get other = keys.queue.get other := by
  have stays : ∀ other, other ≠ token → (keys.zaddNX now token).queue.get other = keys.queue.get other :=
    fun other differs => keys.zaddNX_other now differs
  unfold fairAcquireScript
  dsimp only
  by_cases first : (keys.zaddNX now token).zrank token = some 0
  · rw [if_pos first]
    split
    next => exact ⟨fun one => (by cases one),stays⟩
    next =>
      split
      next =>
        refine ⟨fun _ => Dict.get_erase_same _ token,fun other differs => ?_⟩
        exact (Dict.get_erase_other _ differs).trans (stays other differs)
      next => exact ⟨fun one => (by cases one),stays⟩
  · rw [if_neg first]
    exact ⟨fun one => (by cases one),stays⟩

theorem zrem_none {keys : Keys Token} {other : Token} (absent : keys.queue.get other = none) (token : Token) :
    (keys.zrem token).queue.get other = none := by
  by_cases same : other = token
  · subst same
    exact Dict.get_erase_same keys.queue other
  · exact (Dict.get_erase_other keys.queue same).trans absent

theorem releaseScript_queue (keys : Keys Token) (token : Token) :
    (keys.releaseScript token).queue = keys.queue.erase token := by
  unfold releaseScript
  split <;> rfl

theorem extendScript_queue (keys : Keys Token) (token : Token) (ttlMs : Int) :
    (keys.extendScript token ttlMs).1.queue = keys.queue := by
  unfold extendScript
  split
  next => dsimp only; split <;> rfl
  next => rfl

end Keys

namespace Moment
variable {Token : Type} [LinearOrder Token] {request : Request Token} {uuid : Token}

/-- The move is the last of the call, and nothing has been cleaned up before it. -/
def Drops (moment : Moment Token) : Move → Prop
  | .raise | .cancel => True
  | .answer _ => moment.stage = .tried .error
  | .start _ | .script _ | .giveUp => False

theorem advance_other (moment : Moment Token) (move : Move) {other : Token} (differs : other ≠ uuid) {score : Int}
    (queued : (moment.advance request uuid move).keys.queue.get other = some score) :
    moment.keys.queue.get other = some score := by
  by_cases scripted : ∃ now, move = .script now
  · obtain ⟨now,rfl⟩ := scripted
    unfold advance script at queued
    dsimp only at queued
    split at queued
    next =>
      rw [Keys.extendScript_queue] at queued
      exact queued
    next => exact ((moment.keys.fairAcquireScript_queue uuid _ now).2 other differs).symm.trans queued
    next => exact Dict.get_of_get_erase _ queued
    next =>
      rw [Keys.releaseScript_queue] at queued
      exact Dict.get_of_get_erase _ queued
    next => exact queued
  · rwa [advance_keys request uuid fun now same => scripted ⟨now,same⟩] at queued

theorem script_tidy {moment : Moment Token}
    (tidy : moment.stage.inQueue = false → moment.keys.queue.get uuid = none) (now : Int)
    (out : (moment.script request uuid now).stage.inQueue = false) :
    (moment.script request uuid now).keys.queue.get uuid = none := by
  revert out
  unfold script
  split
  next waits =>
    rw [waits] at tidy
    intro _
    dsimp only
    rw [Keys.extendScript_queue]
    exact tidy rfl
  next =>
    intro out
    exact (moment.keys.fairAcquireScript_queue uuid _ now).1 (by simpa [Stage.inQueue] using out)
  next => exact fun _ => Dict.get_erase_same moment.keys.queue uuid
  next token waits =>
    rw [waits] at tidy
    intro _
    dsimp only
    rw [Keys.releaseScript_queue]
    exact Keys.zrem_none (tidy rfl) token
  next => exact tidy

omit [LinearOrder Token] in
theorem inQueue_cases {stage : Stage Token} (inside : stage.inQueue = true) :
    stage = .trying ∨ stage = .cleaning ∨ ∃ reply, stage = .tried reply ∧ reply ≠ .integer 1 := by
  cases stage with
  | trying => exact .inl rfl
  | cleaning => exact .inr (.inl rfl)
  | tried reply => exact .inr (.inr ⟨reply,rfl,of_decide_eq_true inside⟩)
  | _ => cases inside

theorem drops_of_out {moment : Moment Token} {move : Move} (other : ∀ now, move ≠ .script now)
    (inside : moment.stage.inQueue = true) (out : (moment.advance request uuid move).stage.inQueue = false) :
    moment.Drops move := by
  obtain ⟨keys,metadata,stage⟩ := moment
  cases move with
  | script now => exact absurd rfl (other now)
  | raise => trivial
  | cancel => trivial
  | start now =>
    rcases inQueue_cases inside with rfl | rfl | ⟨reply,rfl,_⟩
    · cases out
    · cases out
    · exact Bool.noConfusion (inside.symm.trans out)
  | answer now =>
    rcases inQueue_cases inside with rfl | rfl | ⟨reply,rfl,negative⟩
    · cases out
    · cases out
    · by_cases failed : reply = .error
      · exact congrArg Stage.tried failed
      · simp only [advance,answer,if_neg failed,if_neg negative] at out
        cases out
  | giveUp =>
    rcases inQueue_cases inside with rfl | rfl | ⟨reply,rfl,_⟩
    · cases out
    · cases out
    · exact Bool.noConfusion (inside.symm.trans out)

theorem exits_of_drops (request : Request Token) (uuid : Token) {moment : Moment Token} {move : Move} (inside : moment.stage.inQueue = true)
    (drops : moment.Drops move) :
    (∃ outcome, (moment.advance request uuid move).stage = .exited outcome) ∧
      (moment.advance request uuid move).keys = moment.keys := by
  obtain ⟨keys,metadata,stage⟩ := moment
  cases move with
  | start now => exact absurd drops id
  | script now => exact absurd drops id
  | giveUp => exact absurd drops id
  | raise => rcases inQueue_cases inside with rfl | rfl | ⟨reply,rfl,_⟩ <;> exact ⟨⟨_,rfl⟩,rfl⟩
  | cancel => rcases inQueue_cases inside with rfl | rfl | ⟨reply,rfl,_⟩ <;> exact ⟨⟨_,rfl⟩,rfl⟩
  | answer now =>
    cases (drops : stage = .tried .error)
    exact ⟨⟨_,rfl⟩,rfl⟩

theorem advance_tidy {moment : Moment Token}
    (tidy : moment.stage.inQueue = false → moment.keys.queue.get uuid = none) {move : Move}
    (clean : moment.Drops move → moment.keys.queue.get uuid = none)
    (out : (moment.advance request uuid move).stage.inQueue = false) :
    (moment.advance request uuid move).keys.queue.get uuid = none := by
  by_cases scripted : ∃ now, move = .script now
  · obtain ⟨now,rfl⟩ := scripted
    exact script_tidy tidy now out
  · have other : ∀ now, move ≠ .script now := fun now same => scripted ⟨now,same⟩
    rw [advance_keys request uuid other]
    cases inside : moment.stage.inQueue with
    | false => exact tidy inside
    | true => exact clean (drops_of_out other inside out)

end Moment

namespace Calls
variable {Call Client Token : Type} [DecidableEq Call] [DecidableEq Client] [LinearOrder Token]

/-- A call drops out by an error or a cancellation only while its token is not queued. -/
def Cleans (calls : Calls Call Client Token) (world : World Call Client Token) : Event Call → Prop
  | .move call move => Moment.Drops (calls.moment world call) move → world.keys.queue.get (calls.uuid call) = none
  | .expire => True

/-- No call that has exited left its token in the queue: each queued token is that of a call under way. -/
def NoOrphans (calls : Calls Call Client Token) (world : World Call Client Token) : Prop :=
  (∀ call outcome, world.stage call = .exited outcome → world.keys.queue.get (calls.uuid call) = none) ∧
    ∀ token score, world.keys.queue.get token = some score →
      ∃ call, calls.uuid call = token ∧ (world.stage call).inQueue = true

structure Tidy (calls : Calls Call Client Token) (world : World Call Client Token) : Prop where
  out : ∀ call, (world.stage call).inQueue = false → world.keys.queue.get (calls.uuid call) = none
  drawn : ∀ token score, world.keys.queue.get token = some score → ∃ call, calls.uuid call = token

variable {calls : Calls Call Client Token}

omit [DecidableEq Call] [DecidableEq Client] in
theorem Tidy.noOrphans {world : World Call Client Token} (tidy : calls.Tidy world) : calls.NoOrphans world := by
  refine ⟨fun call outcome exited => tidy.out call (by rw [exited]; rfl),fun token score queued => ?_⟩
  obtain ⟨call,rfl⟩ := tidy.drawn token score queued
  refine ⟨call,rfl,?_⟩
  by_contra outside
  rw [tidy.out call (Bool.eq_false_of_not_eq_true outside)] at queued
  cases queued

omit [DecidableEq Call] [DecidableEq Client] in
theorem tidy_initial (calls : Calls Call Client Token) : calls.Tidy (.initial ⟨none,Dict.empty⟩) :=
  ⟨fun _ _ => rfl,fun _ _ queued => by cases queued⟩

theorem Tidy.step {world : World Call Client Token} (tidy : calls.Tidy world) {event : Event Call}
    (cleans : calls.Cleans world event) : calls.Tidy (calls.step world event) := by
  cases event with
  | expire => exact ⟨tidy.out,tidy.drawn⟩
  | move call move =>
    refine ⟨fun other outside => ?_,fun token score queued => ?_⟩
    · by_cases same : other = call
      · subst same
        rw [Machine.stage_self] at outside
        exact Moment.advance_tidy (tidy.out other) cleans outside
      · rw [Machine.stage_other machine calls world same] at outside
        have differs : calls.uuid other ≠ calls.uuid call := fun equal => same (calls.distinct equal)
        by_contra queued
        obtain ⟨score,queued⟩ := Option.ne_none_iff_exists'.mp queued
        have before := Moment.advance_other (calls.moment world call) move differs queued
        exact absurd ((tidy.out other outside).symm.trans before) (by simp)
    · by_cases own : token = calls.uuid call
      · exact ⟨call,own.symm⟩
      · exact tidy.drawn token score (Moment.advance_other (calls.moment world call) move own queued)

theorem tidy_reached {events : List (Event Call)} (meets : Transition.Meets calls.step calls.Cleans (.initial ⟨none,Dict.empty⟩) events) :
    calls.Tidy (calls.reached events) :=
  Transition.run_invariant calls.Tidy (fun _ _ tidy cleans => tidy.step cleans) (.initial ⟨none,Dict.empty⟩) events
    calls.tidy_initial meets

theorem no_orphans_iff (calls : Calls Call Client Token) (events : List (Event Call)) :
    (∀ earlier, earlier <+: events → calls.NoOrphans (calls.reached earlier)) ↔
      Transition.Meets calls.step calls.Cleans (.initial ⟨none,Dict.empty⟩) events := by
  constructor
  · intro orphanless
    induction events using List.reverseRecOn with
    | nil => trivial
    | append_singleton past event ih =>
      have meets := ih fun earlier before => orphanless earlier (before.trans (List.prefix_append past [event]))
      have tidy := tidy_reached meets
      refine (Transition.meets_append calls.step calls.Cleans (.initial ⟨none,Dict.empty⟩) past [event]).mpr ⟨meets,?_,trivial⟩
      cases event with
      | expire => trivial
      | move call move =>
        intro drops
        by_contra queued
        have inside : ((calls.reached past).stage call).inQueue = true := by
          by_contra outside
          exact queued (tidy.out call (Bool.eq_false_of_not_eq_true outside))
        obtain ⟨⟨outcome,exits⟩,kept⟩ := Moment.exits_of_drops (calls.request call)
          (calls.uuid call) inside drops
        have left := (orphanless (past ++ [.move call move]) List.prefix_rfl).1 call outcome
        rw [reached_snoc,Machine.stage_self] at left
        exact queued ((congrArg (·.queue.get (calls.uuid call)) kept).symm.trans (left exits))
  · intro meets earlier before
    exact (tidy_reached (meets.earlier before)).noOrphans

def contested : Calls (Fin 4) Unit String where
  client _ := ()
  request call := if call = 2 then .release "41c2b6e8" else .acquire none 30000000
  uuid call := match call with
    | 0 => "41c2b6e8"
    | 1 => "9d0f7a52"
    | 2 => "b37a1c04"
    | 3 => "e85d2f19"
  distinct := by
    intro first second
    revert first second
    decide

/-- The second script of the second acquirer fails. Its token stays at the head of the queue, and the third
acquirer does not get the lock that the first has released. -/
theorem failed_call_stays_queued :
    ∃ events, ¬contested.NoOrphans (contested.reached events) ∧ (contested.reached events).keys.lock = none ∧
      (contested.reached events).stage 1 = .exited .technical ∧
      (contested.reached events).stage 3 = .tried (.integer 0) :=
  ⟨[.move 0 (.start 0),.move 0 (.script 1),.move 0 (.answer 2),.move 1 (.start 3),.move 1 (.script 4),
    .move 1 (.answer 5),.move 1 .raise,.move 2 (.start 6),.move 2 (.script 7),.move 2 (.answer 8),
    .move 3 (.start 9),.move 3 (.script 10)],
    fun orphanless => absurd (orphanless.1 1 .technical (by decide)) (by decide),by decide,by decide,by decide⟩

end Calls

end FifoRedis

end CqrsDdd.Locking
