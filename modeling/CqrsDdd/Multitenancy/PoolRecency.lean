import CqrsDdd.Multitenancy.PoolInvariant
import CqrsDdd.Recency

/-! Which engine the pool gives up. Engines stand in the order of the last requests for their
tenants, as long as no factory is asked for over an engine that was made without one. -/
namespace CqrsDdd

namespace Dict

variable {Key Value : Type*} [DecidableEq Key]

theorem keys_erase (dict : Dict Key Value) (key : Key) : (dict.erase key).keys = dict.keys.filter (· ≠ key) := by
  rw [keys,keys,erase,List.filter_map]
  exact rfl

theorem keys_set_absent (dict : Dict Key Value) {key : Key} (value : Value) (absent : key ∉ dict.keys) :
    (dict.set key value).keys = dict.keys ++ [key] :=
  (put_keys key value dict.entries).trans (if_neg absent)

theorem keys_moveToEnd (dict : Dict Key Value) {key : Key} (present : key ∈ dict.keys) :
    (dict.moveToEnd key).keys = dict.keys.filter (· ≠ key) ++ [key] := by
  obtain ⟨value,found⟩ := Option.isSome_iff_exists.mp ((dict.mem_keys_iff key).mp present)
  have absent : key ∉ (dict.erase key).keys := by rw [keys_erase]; simp
  rw [moveToEnd,found]
  exact (keys_set_absent _ value absent).trans (congrArg (· ++ [key]) (keys_erase dict key))

end Dict

namespace Multitenancy

open Recency

namespace TenantConnectionPool

inductive Request
  | getEngine (tenantId : String)
  | getSessionFactory (tenantId : String)

def Request.tenantId : Request → String
  | .getEngine tenantId | .getSessionFactory tenantId => tenantId

def Request.call : Request → Call
  | .getEngine tenantId => .getEngine tenantId
  | .getSessionFactory tenantId => .getSessionFactory tenantId

def request (pool : TenantConnectionPool) (asked : Request × Raises) : TenantConnectionPool :=
  pool.step (asked.1.call,asked.2)

/-- What is left of the order without the tenant, with the tenant at its end or not in it. -/
def Reordered (tenantId : String) (keys after : List String) : Prop :=
  ∃ front, front.Sublist keys ∧ tenantId ∉ front ∧ (after = front ∨ after = front ++ [tenantId])

/-- What a request may do: nothing is disposed of, or the first engine is, for a tenant without one. -/
structure Served (tenantId : String) (pool after : TenantConnectionPool) : Prop where
  reordered : Reordered tenantId pool.engines.keys after.engines.keys
  disposed : after.disposed = pool.disposed ∨ ∃ oldest rest, pool.engines.entries = oldest::rest ∧
    after.disposed = oldest.2::pool.disposed ∧ tenantId ∉ pool.engines.keys ∧
      pool.maxPools ≤ pool.engines.entries.length

variable {pool : TenantConnectionPool} {maxPools : Nat} {tenantId : String}

theorem evictRounds_room (rounds : Nat) (room : ¬pool.maxPools ≤ pool.engines.entries.length) :
    evictRounds rounds pool = (.ok (),pool) := by
  cases rounds with
  | zero => exact if_neg room
  | succ rounds => exact if_neg room

theorem evictIfNeeded_full (kept : Kept maxPools pool) {oldest : String × Engine} {rest : List (String × Engine)}
    (entries : pool.engines.entries = oldest::rest) (full : pool.maxPools ≤ pool.engines.entries.length) :
    pool.evictIfNeeded = (.ok (),pool.remove oldest.1 oldest.2) := by
  obtain ⟨oldestTenant,oldestEngine⟩ := oldest
  have fewer : (pool.remove oldestTenant oldestEngine).engines.entries.length < pool.engines.entries.length :=
    List.length_filter_lt_length_iff_exists.mpr ⟨(oldestTenant,oldestEngine),entries ▸ List.mem_cons_self,by simp⟩
  have room : ¬(pool.remove oldestTenant oldestEngine).maxPools ≤
      (pool.remove oldestTenant oldestEngine).engines.entries.length := by
    have limit := kept.limit
    have bounded := kept.bounded
    change ¬pool.maxPools ≤ _
    omega
  rw [evictIfNeeded,entries,List.length_cons,evictRounds,if_pos full,entries]
  exact evictRounds_room _ room

theorem served_touch (present : tenantId ∈ pool.engines.keys) : Served tenantId pool (pool.touch tenantId) where
  reordered := by
    refine ⟨pool.engines.keys.filter (· ≠ tenantId),List.filter_sublist,by simp,.inr ?_⟩
    exact pool.engines.keys_moveToEnd present
  disposed := .inl rfl

theorem evictIfNeeded_served (positive : 1 ≤ maxPools) (kept : Kept maxPools pool) (absent : tenantId ∉ pool.engines.keys) :
    ∃ evicted, pool.evictIfNeeded = (.ok (),evicted) ∧ tenantId ∉ evicted.engines.keys ∧ Served tenantId pool evicted := by
  by_cases full : pool.maxPools ≤ pool.engines.entries.length
  · cases entries : pool.engines.entries with
    | nil =>
      rw [kept.limit,entries] at full
      exact absurd (positive.trans full) (Nat.not_succ_le_zero 0)
    | cons oldest rest =>
      have fewer : (pool.remove oldest.1 oldest.2).engines.keys.Sublist pool.engines.keys := by
        rw [remove,Dict.keys_erase]
        exact List.filter_sublist
      have gone : tenantId ∉ (pool.remove oldest.1 oldest.2).engines.keys := fun member => absent (fewer.subset member)
      exact ⟨_,evictIfNeeded_full kept entries full,gone,⟨_,fewer,gone,.inl rfl⟩,
        .inr ⟨oldest,rest,entries,rfl,absent,full⟩⟩
  · exact ⟨pool,evictRounds_room _ full,absent,⟨_,List.Sublist.refl _,absent,.inl rfl⟩,.inl rfl⟩

theorem Served.create {evicted : TenantConnectionPool} (served : Served tenantId pool evicted)
    (absent : tenantId ∉ evicted.engines.keys) (raises : Raises) :
    Served tenantId pool (createEngine raises tenantId evicted).2 := by
  unfold createEngine
  cases raises.creation with
  | some message => exact served
  | none =>
    refine ⟨?_,served.disposed⟩
    obtain ⟨front,fewer,gone,same | same⟩ := served.reordered
    · exact ⟨front,fewer,gone,.inr ((Dict.keys_set_absent _ _ absent).trans (congrArg (· ++ [tenantId]) same))⟩
    · rw [same] at absent
      exact absurd (List.mem_append_right _ List.mem_cons_self) absent

theorem getEngine_served (positive : 1 ≤ maxPools) (kept : Kept maxPools pool) (raises : Raises) (tenantId : String) :
    Served tenantId pool (getEngine raises tenantId pool).2 := by
  unfold getEngine
  cases found : pool.engines.get tenantId with
  | some engine => exact served_touch ((pool.engines.mem_keys_iff tenantId).mpr (by rw [found]; exact rfl))
  | none =>
    have absent : tenantId ∉ pool.engines.keys := fun member => by
      rw [pool.engines.mem_keys_iff,found] at member
      cases member
    obtain ⟨evicted,ran,gone,served⟩ := evictIfNeeded_served positive kept absent
    dsimp only
    rw [ran]
    exact served.create gone raises

/-- No factory is asked for over an engine without one, but in a pool with room and for the tenant asked for last. -/
def Orderly (pool : TenantConnectionPool) (asked : Request × Raises) : Prop :=
  match asked.1 with
  | .getEngine _ => True
  | .getSessionFactory tenantId => tenantId ∈ pool.engines.keys → pool.sessionFactories.get tenantId = none →
      pool.engines.entries.length < pool.maxPools ∧ pool.engines.keys.getLast? = some tenantId

theorem getSessionFactory_served (positive : 1 ≤ maxPools) (kept : Kept maxPools pool) (raises : Raises)
    (orderly : Orderly pool (.getSessionFactory tenantId,raises)) :
    Served tenantId pool (getSessionFactory raises tenantId pool).2 := by
  unfold getSessionFactory
  cases held : pool.sessionFactories.get tenantId with
  | some factory =>
    have found := kept.bound tenantId factory held
    dsimp only
    rw [found]
    exact served_touch ((pool.engines.mem_keys_iff tenantId).mpr (by rw [found]; exact rfl))
  | none =>
    by_cases present : tenantId ∈ pool.engines.keys
    · obtain ⟨room,last⟩ := orderly present held
      obtain ⟨engine,found⟩ := Option.isSome_iff_exists.mp ((pool.engines.mem_keys_iff tenantId).mp present)
      have ran : pool.evictIfNeeded = (.ok (),pool) := evictRounds_room _ (Nat.not_le_of_lt room)
      dsimp only
      rw [ran]
      dsimp only
      rw [found]
      refine ⟨?_,.inl rfl⟩
      obtain ⟨front,split⟩ := List.getLast?_eq_some_iff.mp last
      have distinct : (front ++ [tenantId]).Nodup := split ▸ pool.engines.distinct
      have apart := (List.nodup_append.mp distinct).2.2
      refine ⟨front,split ▸ List.sublist_append_left front [tenantId],fun member => ?_,.inr split⟩
      exact apart tenantId member tenantId List.mem_cons_self rfl
    · obtain ⟨evicted,ran,gone,served⟩ := evictIfNeeded_served positive kept present
      have absent : evicted.engines.get tenantId = none := by
        cases found : evicted.engines.get tenantId with
        | none => exact rfl
        | some engine => exact absurd ((evicted.engines.mem_keys_iff tenantId).mpr (by rw [found]; exact rfl)) gone
      have created := served.create gone raises
      dsimp only
      rw [ran]
      dsimp only
      rw [absent]
      dsimp only
      revert created
      cases createEngine raises tenantId evicted with
      | mk result after =>
        intro created
        cases result with
        | error raised => exact created
        | ok engine => exact ⟨created.reordered,created.disposed⟩

theorem request_served (positive : 1 ≤ maxPools) (kept : Kept maxPools pool) (asked : Request × Raises)
    (orderly : Orderly pool asked) : Served asked.1.tenantId pool (pool.request asked) := by
  obtain ⟨asked,raises⟩ := asked
  cases asked with
  | getEngine tenantId => exact getEngine_served positive kept raises tenantId
  | getSessionFactory tenantId => exact getSessionFactory_served positive kept raises orderly

theorem Reordered.ordered {history keys after : List String} (reordered : Reordered tenantId keys after)
    (ordered : Ordered history keys) : Ordered (history ++ [tenantId]) after := by
  obtain ⟨front,fewer,absent,rfl | rfl⟩ := reordered
  · exact ordered_others (ordered.sublist fewer) absent
  · exact ordered_last (ordered.sublist fewer) absent

def askedFor (requests : List (Request × Raises)) : List String := requests.map fun next => next.1.tenantId

/-- Nothing is disposed of, or the tenant has no engine, the pool is full, and the engine disposed of is that
of the tenant that was asked for last before all others. -/
def EvictsOldest (maxPools : Nat) (history : List String) (tenantId : String) (pool after : TenantConnectionPool) : Prop :=
  after.disposed = pool.disposed ∨ ∃ engine, after.disposed = engine::pool.disposed ∧
    pool.engines.get tenantId = none ∧ pool.engines.entries.length = maxPools ∧
      pool.engines.get engine.tenant = some engine ∧
        ∀ other ∈ pool.engines.keys, other ≠ engine.tenant → Before history engine.tenant other

def LeastRecentlyUsed (maxPools : Nat) (requests : List (Request × Raises)) : Prop :=
  ∀ earlier next, earlier ++ [next] <+: requests →
    let pool := Transition.run request (create maxPools) earlier
    EvictsOldest maxPools (askedFor earlier) next.1.tenantId pool (pool.request next)

/-- What holds between requests. -/
structure Recent (maxPools : Nat) (requests : List (Request × Raises)) (pool : TenantConnectionPool) : Prop where
  kept : Kept maxPools pool
  ordered : Ordered (askedFor requests) pool.engines.keys

theorem request_recent (positive : 1 ≤ maxPools) {requests : List (Request × Raises)} {next : Request × Raises}
    (recent : Recent maxPools requests pool) (orderly : Orderly pool next) :
    Recent maxPools (requests ++ [next]) (pool.request next) where
  kept := (serve_kept positive recent.kept (next.1.call,next.2)).1
  ordered := by
    rw [askedFor,List.map_append]
    exact (request_served positive recent.kept next orderly).reordered.ordered recent.ordered

theorem run_recent (positive : 1 ≤ maxPools) {requests : List (Request × Raises)}
    (meets : Transition.Meets request Orderly (create maxPools) requests) :
    Recent maxPools requests (Transition.run request (create maxPools) requests) :=
  Transition.run_history (Recent maxPools) (fun _ _ _ recent orderly => request_recent positive recent orderly) [] _ requests
    ⟨create_kept maxPools,List.Pairwise.nil⟩ meets

theorem evictsOldest_of_orderly (positive : 1 ≤ maxPools) {requests : List (Request × Raises)} {next : Request × Raises}
    (recent : Recent maxPools requests pool) (orderly : Orderly pool next) :
    EvictsOldest maxPools (askedFor requests) next.1.tenantId pool (pool.request next) := by
  rcases (request_served positive recent.kept next orderly).disposed with same | ⟨oldest,rest,entries,gone,absent,full⟩
  · exact .inl same
  · have first : pool.engines.get oldest.1 = some oldest.2 :=
      pool.engines.mem_iff_get.mp (show (oldest.1,oldest.2) ∈ pool.engines.entries from entries ▸ List.mem_cons_self)
    have named := (recent.kept.own oldest.1 oldest.2 first).1
    have order := recent.ordered
    rw [Ordered,Dict.keys,entries,List.map_cons] at order
    refine .inr ⟨oldest.2,gone,?_,?_,named ▸ first,fun other member differs => ?_⟩
    · cases found : pool.engines.get next.1.tenantId with
      | none => exact rfl
      | some engine => exact absurd ((pool.engines.mem_keys_iff _).mpr (by rw [found]; exact rfl)) absent
    · exact Nat.le_antisymm recent.kept.bounded (recent.kept.limit ▸ full)
    · rw [Dict.keys,entries,List.map_cons] at member
      rcases List.mem_cons.mp member with rfl | later
      · exact absurd named.symm differs
      · exact named ▸ List.rel_of_pairwise_cons order later

theorem getSessionFactory_disposes (positive : 1 ≤ maxPools) (kept : Kept maxPools pool) (raises : Raises)
    (unbound : pool.sessionFactories.get tenantId = none) (full : pool.maxPools ≤ pool.engines.entries.length) :
    ∃ engine, (getSessionFactory raises tenantId pool).2.disposed = engine::pool.disposed := by
  cases entries : pool.engines.entries with
  | nil =>
    rw [kept.limit,entries] at full
    exact absurd (positive.trans full) (Nat.not_succ_le_zero 0)
  | cons oldest rest =>
    refine ⟨oldest.2,?_⟩
    unfold getSessionFactory
    rw [unbound]
    dsimp only
    rw [evictIfNeeded_full kept entries full]
    dsimp only
    cases (pool.remove oldest.1 oldest.2).engines.get tenantId with
    | some engine => exact rfl
    | none =>
      dsimp only
      unfold createEngine
      cases raises.creation with
      | none => exact rfl
      | some message => exact rfl

theorem orderly_of_evictsOldest (positive : 1 ≤ maxPools) {history : List String} {next : Request × Raises}
    (kept : Kept maxPools pool) (full : pool.maxPools ≤ pool.engines.entries.length)
    (evicts : EvictsOldest maxPools history next.1.tenantId pool (pool.request next)) : Orderly pool next := by
  obtain ⟨asked,raises⟩ := next
  cases asked with
  | getEngine tenantId => trivial
  | getSessionFactory tenantId =>
    intro present unbound
    obtain ⟨engine,disposed⟩ := getSessionFactory_disposes positive kept raises unbound full
    rcases evicts with same | ⟨_,_,absent,_⟩
    · exact absurd (disposed.symm.trans same) (List.cons_ne_self _ _)
    · rw [pool.engines.mem_keys_iff] at present
      change pool.engines.get tenantId = none at absent
      rw [absent] at present
      cases present

/-- While the requests are orderly the pool gives up engines as it should, and a request to a full pool
does so only when it is orderly as well. -/
theorem least_recently_used (positive : 1 ≤ maxPools) (requests : List (Request × Raises))
    (meets : Transition.Meets request Orderly (create maxPools) requests) :
    LeastRecentlyUsed maxPools requests ∧
      ∀ next, let pool := Transition.run request (create maxPools) requests
        pool.maxPools ≤ pool.engines.entries.length →
          (EvictsOldest maxPools (askedFor requests) next.1.tenantId pool (pool.request next) ↔ Orderly pool next) := by
  refine ⟨fun earlier next before => ?_,fun next => ?_⟩
  · obtain ⟨met,orderly,_⟩ := (Transition.meets_append _ _ _ _ _).mp (meets.earlier before)
    exact evictsOldest_of_orderly positive (run_recent positive met) orderly
  · have recent := run_recent positive meets
    exact fun full => ⟨orderly_of_evictsOldest positive recent.kept full,evictsOldest_of_orderly positive recent⟩

/-- With room for one engine, that of Acme goes when Globex is asked for. -/
theorem least_recently_used_two :
    LeastRecentlyUsed 1 [(.getSessionFactory "acme",calm),(.getEngine "globex",calm)] ∧
      ∀ next, let pool := Transition.run request (create 1) [(.getSessionFactory "acme",calm),(.getEngine "globex",calm)]
        pool.maxPools ≤ pool.engines.entries.length →
          (EvictsOldest 1 ["acme","globex"] next.1.tenantId pool (pool.request next) ↔ Orderly pool next) := by
  refine least_recently_used (Nat.le_refl 1) [(.getSessionFactory "acme",calm),(.getEngine "globex",calm)] ⟨?_,trivial,trivial⟩
  exact fun present _ => absurd present List.not_mem_nil

/-- Two engines are kept, one of them for Globex, and a factory for Globex disposes of the other. -/
theorem kept_tenant_evicts :
    ¬LeastRecentlyUsed 2 [(.getEngine "acme",calm),(.getEngine "globex",calm),(.getSessionFactory "globex",calm)] := by
  intro used
  have evicts := used [(.getEngine "acme",calm),(.getEngine "globex",calm)] (.getSessionFactory "globex",calm)
    (List.prefix_refl _)
  rcases evicts with same | ⟨_,_,absent,_⟩
  · exact absurd same (by decide)
  · cases absent

end TenantConnectionPool

end Multitenancy

end CqrsDdd
