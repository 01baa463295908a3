import CqrsDdd.Dict
import CqrsDdd.Transition
import Mathlib.Data.List.Perm.Basic

/-! The pool of tenant databases: an engine and a session factory for each tenant, in the order
of their last use. Engines are told apart by the number of engines made before them. The
pool is kept under a lock, so that its calls come one after the other. -/
namespace CqrsDdd

namespace Dict

variable {Key Value : Type*} [DecidableEq Key]

/-- `OrderedDict.move_to_end`, which leaves a dict without the key as it is. -/
def moveToEnd (dict : Dict Key Value) (key : Key) : Dict Key Value :=
  match dict.get key with
  | some value => (dict.erase key).set key value
  | none => dict

theorem get_moveToEnd (dict : Dict Key Value) (key other : Key) : (dict.moveToEnd key).get other = dict.get other := by
  unfold moveToEnd
  cases found : dict.get key with
  | none => exact rfl
  | some value =>
    dsimp only
    rw [get_set]
    split
    next same => rw [same,found]
    next differs => exact get_erase_other dict differs

theorem mem_keys_iff (dict : Dict Key Value) (key : Key) : key ∈ dict.keys ↔ (dict.get key).isSome = true := by
  rw [Option.isSome_iff_exists]
  constructor
  · intro member
    obtain ⟨⟨_,value⟩,inside,rfl⟩ := List.mem_map.mp member
    exact ⟨value,dict.mem_iff_get.mp inside⟩
  · rintro ⟨value,found⟩
    exact List.mem_map_of_mem (dict.mem_iff_get.mpr found)

omit [DecidableEq Key] in
theorem length_keys (dict : Dict Key Value) : dict.keys.length = dict.entries.length := List.length_map _

theorem length_congr {dict other : Dict Key Value} (same : ∀ key, (dict.get key).isSome = (other.get key).isSome) :
    dict.entries.length = other.entries.length := by
  have permuted : dict.keys.Perm other.keys := (List.perm_ext_iff_of_nodup dict.distinct other.distinct).mpr fun key => by
    change key ∈ dict.keys ↔ key ∈ other.keys
    rw [mem_keys_iff,mem_keys_iff,same]
  rw [← length_keys,← length_keys,permuted.length_eq]

theorem length_moveToEnd (dict : Dict Key Value) (key : Key) : (dict.moveToEnd key).entries.length = dict.entries.length :=
  length_congr fun other => by rw [get_moveToEnd]

theorem length_set (dict : Dict Key Value) (key : Key) (value : Value) :
    (dict.set key value).entries.length ≤ dict.entries.length + 1 := by
  have keys : (dict.set key value).entries.map Prod.fst = _ := put_keys key value dict.entries
  have counted := congrArg List.length keys
  rw [List.length_map] at counted
  rw [counted]
  split
  next => rw [List.length_map]; exact Nat.le_succ _
  next => rw [List.length_append,List.length_map]; exact Nat.le_refl _

theorem length_erase (dict : Dict Key Value) (key : Key) : (dict.erase key).entries.length ≤ dict.entries.length :=
  List.length_filter_le _ _

end Dict

namespace Multitenancy

structure Engine where
  tenant : String
  serial : Nat
  deriving DecidableEq, Repr

structure SessionFactory where
  bind : Engine
  deriving DecidableEq, Repr

inductive PoolError
  | stopIteration
  | keyError
  | creation (message : String)
  | dispose (message : String)
  deriving DecidableEq, Repr

/-- The pool, all engines that were made, and those that `dispose` was called on. -/
structure TenantConnectionPool where
  maxPools : Nat
  engines : Dict String Engine
  sessionFactories : Dict String SessionFactory
  made : List Engine
  disposed : List Engine

/-- What raises during a call. -/
structure Raises where
  creation : Option String
  dispose : Engine → Option String

namespace TenantConnectionPool

def create (maxPools : Nat) : TenantConnectionPool := ⟨maxPools,.empty,.empty,[],[]⟩

/-- Both are popped, and then `dispose` is called. -/
def remove (pool : TenantConnectionPool) (tenantId : String) (engine : Engine) : TenantConnectionPool :=
  { pool with
    engines := pool.engines.erase tenantId
    sessionFactories := pool.sessionFactories.erase tenantId
    disposed := engine::pool.disposed }

/-- The loop of `_evict_if_needed`, one engine in each round; what `dispose` raises is only logged. -/
def evictRounds : Nat → TenantConnectionPool → Except PoolError Unit × TenantConnectionPool
  | 0,pool => if pool.maxPools ≤ pool.engines.entries.length then (.error .stopIteration,pool) else (.ok (),pool)
  | rounds + 1,pool =>
    if pool.maxPools ≤ pool.engines.entries.length then
      match pool.engines.entries with
      | [] => (.error .stopIteration,pool)
      | (oldestTenant,oldestEngine)::_ => evictRounds rounds (pool.remove oldestTenant oldestEngine)
    else (.ok (),pool)

def evictIfNeeded (pool : TenantConnectionPool) : Except PoolError Unit × TenantConnectionPool :=
  evictRounds pool.engines.entries.length pool

def createEngine (raises : Raises) (tenantId : String) (pool : TenantConnectionPool) :
    Except PoolError Engine × TenantConnectionPool :=
  match raises.creation with
  | some message => (.error (.creation message),pool)
  | none =>
    let engine := ⟨tenantId,pool.made.length⟩
    (.ok engine,{ pool with made := pool.made ++ [engine], engines := pool.engines.set tenantId engine })

def touch (pool : TenantConnectionPool) (tenantId : String) : TenantConnectionPool :=
  { pool with
    engines := pool.engines.moveToEnd tenantId
    sessionFactories := pool.sessionFactories.moveToEnd tenantId }

def getEngine (raises : Raises) (tenantId : String) (pool : TenantConnectionPool) :
    Except PoolError Engine × TenantConnectionPool :=
  match pool.engines.get tenantId with
  | some engine => (.ok engine,pool.touch tenantId)
  | none =>
    match pool.evictIfNeeded with
    | (.error raised,evicted) => (.error raised,evicted)
    | (.ok (),evicted) => createEngine raises tenantId evicted

def createSessionFactory (tenantId : String) (engine : Engine) (pool : TenantConnectionPool) :
    Except PoolError SessionFactory × TenantConnectionPool :=
  (.ok ⟨engine⟩,{ pool with sessionFactories := pool.sessionFactories.set tenantId ⟨engine⟩ })

def getSessionFactory (raises : Raises) (tenantId : String) (pool : TenantConnectionPool) :
    Except PoolError SessionFactory × TenantConnectionPool :=
  match pool.sessionFactories.get tenantId with
  | some factory =>
    match pool.engines.get tenantId with
    | some _ => (.ok factory,pool.touch tenantId)
    | none => (.error .keyError,pool)
  | none =>
    match pool.evictIfNeeded with
    | (.error raised,evicted) => (.error raised,evicted)
    | (.ok (),evicted) =>
      match evicted.engines.get tenantId with
      | some engine => createSessionFactory tenantId engine evicted
      | none =>
        match createEngine raises tenantId evicted with
        | (.error raised,after) => (.error raised,after)
        | (.ok engine,after) => createSessionFactory tenantId engine after

def closeEngine (raises : Raises) (tenantId : String) (pool : TenantConnectionPool) :
    Except PoolError Unit × TenantConnectionPool :=
  match pool.engines.get tenantId with
  | some engine =>
    match raises.dispose engine with
    | some message => (.error (.dispose message),pool.remove tenantId engine)
    | none => (.ok (),pool.remove tenantId engine)
  | none => (.ok (),pool)

/-- What `dispose` raises is only logged. -/
def closeAll (pool : TenantConnectionPool) : TenantConnectionPool :=
  { pool with
    engines := .empty
    sessionFactories := .empty
    disposed := pool.engines.values.reverse ++ pool.disposed }

inductive Call
  | getEngine (tenantId : String)
  | getSessionFactory (tenantId : String)
  | closeEngine (tenantId : String)
  | closeAll

inductive Answer
  | engine (engine : Engine)
  | factory (factory : SessionFactory)
  | nothing
  deriving DecidableEq, Repr

def serve (pool : TenantConnectionPool) : Call × Raises → Except PoolError Answer × TenantConnectionPool
  | (.getEngine tenantId,raises) => let (result,after) := getEngine raises tenantId pool; (result.map .engine,after)
  | (.getSessionFactory tenantId,raises) =>
    let (result,after) := getSessionFactory raises tenantId pool
    (result.map .factory,after)
  | (.closeEngine tenantId,raises) => let (result,after) := closeEngine raises tenantId pool; (result.map fun _ => .nothing,after)
  | (.closeAll,_) => (.ok .nothing,pool.closeAll)

def step (pool : TenantConnectionPool) (call : Call × Raises) : TenantConnectionPool := (pool.serve call).2

end TenantConnectionPool

end Multitenancy

end CqrsDdd
