import CqrsDdd.Locking.CriticalSection

/-! Which acquisitions compete for one lock. The in-memory strategy has one lock for each
type and id; the Redis strategies write type, id and mode into one text, so that the mode
splits a lock and a colon within a type or an id can join two. -/
namespace CqrsDdd.Locking

open CriticalSection

namespace RedlockLockStrategy

def makeKey (resource : ResourceIdentifier) : String :=
  "lock:" ++ resource.resourceType ++ ":" ++ resource.resourceId ++ ":" ++ modeText resource.lockMode

end RedlockLockStrategy

namespace FifoRedisLockStrategy

def lockKey (keyPrefix : String) (resource : ResourceIdentifier) : String :=
  keyPrefix ++ ":" ++ resource.resourceType ++ ":" ++ resource.resourceId ++ ":" ++ modeText resource.lockMode

def queueKey (keyPrefix : String) (resource : ResourceIdentifier) : String :=
  keyPrefix ++ ":queue:" ++ resource.resourceType ++ ":" ++ resource.resourceId ++ ":" ++ modeText resource.lockMode

end FifoRedisLockStrategy

namespace LockKeys

structure Agree (keyPrefix : String) (first second : ResourceIdentifier) : Prop where
  redlock : RedlockLockStrategy.makeKey first = RedlockLockStrategy.makeKey second ↔ first.key = second.key
  fifo : FifoRedisLockStrategy.lockKey keyPrefix first = FifoRedisLockStrategy.lockKey keyPrefix second ↔
    first.key = second.key
  queue : FifoRedisLockStrategy.queueKey keyPrefix first = FifoRedisLockStrategy.queueKey keyPrefix second ↔
    first.key = second.key
  apart : FifoRedisLockStrategy.lockKey keyPrefix first ≠ FifoRedisLockStrategy.queueKey keyPrefix second ∧
    FifoRedisLockStrategy.lockKey keyPrefix second ≠ FifoRedisLockStrategy.queueKey keyPrefix first

def Shifted (type id otherType otherId : String) : Prop :=
  ∃ middle, otherType = type ++ ":" ++ middle ∧ id = middle ++ ":" ++ otherId

def Collide (type id otherType otherId : String) : Prop :=
  (type = otherType ∧ id = otherId) ∨ Shifted type id otherType otherId ∨ Shifted otherType otherId type id

/-- The type is `queue`, or begins with it, and the rest names the other resource. -/
def Queues (first second : ResourceIdentifier) : Prop :=
  (first.resourceType = "queue" ∧ first.resourceId = second.resourceType ++ ":" ++ second.resourceId) ∨
    ∃ rest, first.resourceType = "queue:" ++ rest ∧
      Collide rest first.resourceId second.resourceType second.resourceId

/-- One resource is not asked for in two modes, and no colon within a type or an id can be taken for a separator. -/
structure Unambiguous (first second : ResourceIdentifier) : Prop where
  mode : first.key = second.key → first.lockMode = second.lockMode
  types : first.lockMode = second.lockMode →
    ¬Shifted first.resourceType first.resourceId second.resourceType second.resourceId ∧
    ¬Shifted second.resourceType second.resourceId first.resourceType first.resourceId
  queues : first.lockMode = second.lockMode → ¬Queues first second ∧ ¬Queues second first

theorem cons_eq_iff {Letter : Type} (colon : Letter) {type id otherType otherId : List Letter} :
    type ++ colon::id = otherType ++ colon::otherId ↔ (type = otherType ∧ id = otherId) ∨
      (∃ middle, otherType = type ++ colon::middle ∧ id = middle ++ colon::otherId) ∨
      ∃ middle, type = otherType ++ colon::middle ∧ otherId = middle ++ colon::id := by
  constructor
  · intro same
    rcases List.append_eq_append_iff.mp same with ⟨rest,longer,after⟩ | ⟨rest,longer,after⟩
    · cases rest with
      | nil =>
        refine .inl ⟨?_,(List.cons.inj after).2⟩
        rw [longer,List.append_nil]
      | cons letter middle =>
        obtain ⟨rfl,split⟩ := List.cons.inj after
        exact .inr (.inl ⟨middle,longer,split⟩)
    · cases rest with
      | nil =>
        refine .inl ⟨?_,(List.cons.inj after).2.symm⟩
        rw [longer,List.append_nil]
      | cons letter middle =>
        obtain ⟨rfl,split⟩ := List.cons.inj after
        exact .inr (.inr ⟨middle,longer,split⟩)
  · rintro (⟨rfl,rfl⟩ | ⟨middle,rfl,rfl⟩ | ⟨middle,rfl,rfl⟩) <;> simp

theorem colon_toList (type id : String) : (type ++ ":" ++ id).toList = type.toList ++ ':'::id.toList := by
  simp

theorem shifted_iff (type id otherType otherId : String) : Shifted type id otherType otherId ↔
    ∃ middle, otherType.toList = type.toList ++ ':'::middle ∧ id.toList = middle ++ ':'::otherId.toList := by
  constructor
  · rintro ⟨middle,rfl,rfl⟩
    exact ⟨middle.toList,colon_toList type middle,colon_toList middle otherId⟩
  · rintro ⟨middle,after,before⟩
    refine ⟨String.ofList middle,String.ext ?_,String.ext ?_⟩
    · simpa using after
    · simpa using before

theorem colon_eq_iff (type id otherType otherId : String) :
    type ++ ":" ++ id = otherType ++ ":" ++ otherId ↔ Collide type id otherType otherId := by
  unfold Collide
  rw [shifted_iff,shifted_iff,← String.toList_inj,colon_toList,colon_toList,cons_eq_iff,String.toList_inj,String.toList_inj]

theorem mode_eq_iff (body other : String) (mode otherMode : LockMode) :
    body ++ ":" ++ modeText mode = other ++ ":" ++ modeText otherMode ↔ body = other ∧ mode = otherMode := by
  constructor
  · intro same
    have last := congrArg (fun text => text.toList.getLast?) same
    cases mode <;> cases otherMode
    · exact ⟨by simpa [modeText,String.append_left_inj] using same,rfl⟩
    · simp [modeText] at last
    · simp [modeText] at last
    · exact ⟨by simpa [modeText,String.append_left_inj] using same,rfl⟩
  · rintro ⟨rfl,rfl⟩
    rfl

theorem text_eq_iff (start type id otherType otherId : String) (mode otherMode : LockMode) :
    start ++ type ++ ":" ++ id ++ ":" ++ modeText mode =
      start ++ otherType ++ ":" ++ otherId ++ ":" ++ modeText otherMode ↔
    mode = otherMode ∧ Collide type id otherType otherId := by
  have body (type id : String) : start ++ type ++ ":" ++ id = start ++ (type ++ ":" ++ id) := by
    rw [String.append_assoc,String.append_assoc,String.append_assoc]
  rw [mode_eq_iff,body,body,String.append_right_inj,colon_eq_iff,and_comm]

theorem makeKey_eq_iff (first second : ResourceIdentifier) :
    RedlockLockStrategy.makeKey first = RedlockLockStrategy.makeKey second ↔ first.lockMode = second.lockMode ∧
      Collide first.resourceType first.resourceId second.resourceType second.resourceId :=
  text_eq_iff "lock:" _ _ _ _ _ _

theorem lockKey_eq_iff (keyPrefix : String) (first second : ResourceIdentifier) :
    FifoRedisLockStrategy.lockKey keyPrefix first = FifoRedisLockStrategy.lockKey keyPrefix second ↔
      first.lockMode = second.lockMode ∧
        Collide first.resourceType first.resourceId second.resourceType second.resourceId :=
  text_eq_iff (keyPrefix ++ ":") _ _ _ _ _ _

theorem queueKey_eq_iff (keyPrefix : String) (first second : ResourceIdentifier) :
    FifoRedisLockStrategy.queueKey keyPrefix first = FifoRedisLockStrategy.queueKey keyPrefix second ↔
      first.lockMode = second.lockMode ∧
        Collide first.resourceType first.resourceId second.resourceType second.resourceId :=
  text_eq_iff (keyPrefix ++ ":queue:") _ _ _ _ _ _

theorem queueKey_eq (keyPrefix : String) (resource : ResourceIdentifier) :
    FifoRedisLockStrategy.queueKey keyPrefix resource = keyPrefix ++ ":" ++ "queue" ++ ":" ++
      (resource.resourceType ++ ":" ++ resource.resourceId) ++ ":" ++ modeText resource.lockMode := by
  apply String.ext
  simp [FifoRedisLockStrategy.queueKey]

theorem collide_queue (first second : ResourceIdentifier) :
    Collide first.resourceType first.resourceId "queue" (second.resourceType ++ ":" ++ second.resourceId) ↔
      Queues first second := by
  unfold Queues
  constructor
  · rintro (equal | ⟨middle,longer,_⟩ | ⟨middle,longer,after⟩)
    · exact .inl equal
    · have colon : ':' ∈ "queue".toList := by
        rw [longer,colon_toList]
        simp
      exact absurd colon (by decide)
    · exact .inr ⟨middle,longer,(colon_eq_iff _ _ _ _).mp after.symm⟩
  · rintro (equal | ⟨rest,longer,after⟩)
    · exact .inl equal
    · exact .inr (.inr ⟨rest,longer,((colon_eq_iff _ _ _ _).mpr after).symm⟩)

theorem lockKey_eq_queueKey_iff (keyPrefix : String) (first second : ResourceIdentifier) :
    FifoRedisLockStrategy.lockKey keyPrefix first = FifoRedisLockStrategy.queueKey keyPrefix second ↔
      first.lockMode = second.lockMode ∧ Queues first second := by
  rw [queueKey_eq,← collide_queue]
  exact text_eq_iff (keyPrefix ++ ":") _ _ _ _ _ _

theorem key_eq_iff (first second : ResourceIdentifier) : first.key = second.key ↔
    first.resourceType = second.resourceType ∧ first.resourceId = second.resourceId := by
  simp [ResourceIdentifier.key]

theorem Shifted.types_differ {type id otherType otherId : String} (shifted : Shifted type id otherType otherId) :
    type ≠ otherType := by
  obtain ⟨middle,longer,_⟩ := shifted
  intro same
  have lengths := congrArg (fun text => text.toList.length) (same.trans longer)
  rw [colon_toList,List.length_append,List.length_cons] at lengths
  omega

theorem lock_keys_agree_iff (keyPrefix : String) (first second : ResourceIdentifier) :
    Agree keyPrefix first second ↔ Unambiguous first second := by
  constructor
  · intro agree
    have keys := (lockKey_eq_iff keyPrefix first second).symm.trans agree.fifo
    refine ⟨fun same => (keys.mpr same).1,fun mode => ⟨fun shifted => ?_,fun shifted => ?_⟩,
      fun mode => ⟨fun queues => ?_,fun queues => ?_⟩⟩
    · have same := keys.mp ⟨mode,.inr (.inl shifted)⟩
      exact shifted.types_differ ((key_eq_iff first second).mp same).1
    · have same := keys.mp ⟨mode,.inr (.inr shifted)⟩
      exact shifted.types_differ ((key_eq_iff first second).mp same).1.symm
    · exact agree.apart.1 ((lockKey_eq_queueKey_iff keyPrefix first second).mpr ⟨mode,queues⟩)
    · exact agree.apart.2 ((lockKey_eq_queueKey_iff keyPrefix second first).mpr ⟨mode.symm,queues⟩)
  · intro clear
    have keys : (first.lockMode = second.lockMode ∧
        Collide first.resourceType first.resourceId second.resourceType second.resourceId) ↔ first.key = second.key := by
      rw [key_eq_iff]
      constructor
      · rintro ⟨mode,equal | shifted | shifted⟩
        · exact equal
        · exact absurd shifted (clear.types mode).1
        · exact absurd shifted (clear.types mode).2
      · intro same
        exact ⟨clear.mode ((key_eq_iff first second).mpr same),.inl same⟩
    refine ⟨(makeKey_eq_iff first second).trans keys,(lockKey_eq_iff keyPrefix first second).trans keys,
      (queueKey_eq_iff keyPrefix first second).trans keys,fun same => ?_,fun same => ?_⟩
    · obtain ⟨mode,queues⟩ := (lockKey_eq_queueKey_iff keyPrefix first second).mp same
      exact (clear.queues mode).1 queues
    · obtain ⟨mode,queues⟩ := (lockKey_eq_queueKey_iff keyPrefix second first).mp same
      exact (clear.queues mode.symm).2 queues

/-- A write and a read lock of one resource, two resources with a colon in a name, and a resource of the type `queue`. -/
theorem keys_disagree :
    ¬Agree "lock" ⟨"Account","123",.write⟩ ⟨"Account","123",.read⟩ ∧
    ¬Agree "lock" ⟨"tenant:7","order",.write⟩ ⟨"tenant","7:order",.write⟩ ∧
    ¬Agree "lock" ⟨"queue","Account:123",.write⟩ ⟨"Account","123",.write⟩ :=
  ⟨fun agree => absurd (agree.redlock.mpr rfl) (by decide),
    fun agree => absurd (agree.redlock.mp (by decide)) (by decide),
    fun agree => absurd (by decide) agree.apart.1⟩

end LockKeys

end CqrsDdd.Locking
