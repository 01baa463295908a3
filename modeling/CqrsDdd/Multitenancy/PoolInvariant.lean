import CqrsDdd.Multitenancy.ConnectionPool

/-! The invariant of the tenant connection pool over every sequence of calls, whatever raises.
The two dicts are changed together, and `dispose` is called on what leaves the pool. -/
namespace CqrsDdd.Multitenancy

namespace TenantConnectionPool

structure Consistent (pool : TenantConnectionPool) : Prop where
  bound : ∀ tenantId factory, pool.sessionFactories.get tenantId = some factory →
    pool.engines.get tenantId = some factory.bind
  own : ∀ tenantId engine, pool.engines.get tenantId = some engine →
    engine.tenant = tenantId ∧ engine ∈ pool.made ∧ engine ∉ pool.disposed
  removed : ∀ engine ∈ pool.made, pool.engines.get engine.tenant = some engine ∨ engine ∈ pool.disposed
  numbered : ∀ engine ∈ pool.made, engine.serial < pool.made.length
  called : ∀ engine ∈ pool.disposed, engine ∈ pool.made

/-- What holds between calls. -/
structure Kept (maxPools : Nat) (pool : TenantConnectionPool) : Prop extends Consistent pool where
  limit : pool.maxPools = maxPools
  bounded : pool.engines.entries.length ≤ maxPools

variable {pool after : TenantConnectionPool} {tenantId : String} {engine : Engine} {maxPools : Nat}

theorem create_kept (maxPools : Nat) : Kept maxPools (create maxPools) where
  bound _ _ found := by cases found
  own _ _ found := by cases found
  removed _ member := absurd member List.not_mem_nil
  numbered _ member := absurd member List.not_mem_nil
  called _ member := absurd member List.not_mem_nil
  limit := rfl
  bounded := Nat.zero_le _

theorem remove_get (other : String) :
    (pool.remove tenantId engine).engines.get other = if other = tenantId then none else pool.engines.get other := by
  split
  next same => exact same ▸ Dict.get_erase_same _ _
  next differs => exact Dict.get_erase_other _ differs

theorem Consistent.remove (consistent : Consistent pool) (found : pool.engines.get tenantId = some engine) :
    Consistent (pool.remove tenantId engine) where
  bound other factory held := by
    have before := Dict.get_of_get_erase _ held
    have differs : other ≠ tenantId := by
      rintro rfl
      exact Option.some_ne_none factory (held.symm.trans (Dict.get_erase_same _ _))
    rw [remove_get,if_neg differs]
    exact consistent.bound other factory before
  own other kept held := by
    rw [remove_get] at held
    split at held
    next => cases held
    next differs =>
      obtain ⟨named,made,undisposed⟩ := consistent.own other kept held
      refine ⟨named,made,fun disposed => ?_⟩
      rcases List.mem_cons.mp disposed with rfl | before
      · exact differs (named.symm.trans (consistent.own tenantId kept found).1)
      · exact undisposed before
  removed made member := by
    rw [remove_get]
    rcases consistent.removed made member with kept | disposed
    · by_cases same : made.tenant = tenantId
      · rw [same,found] at kept
        cases kept
        exact .inr List.mem_cons_self
      · rw [if_neg same]
        exact .inl kept
    · exact .inr (List.mem_cons_of_mem _ disposed)
  numbered := consistent.numbered
  called disposed member := by
    rcases List.mem_cons.mp member with rfl | before
    · exact (consistent.own tenantId disposed found).2.1
    · exact consistent.called disposed before

theorem Consistent.touch (consistent : Consistent pool) (tenantId : String) : Consistent (pool.touch tenantId) where
  bound other factory held := by
    rw [TenantConnectionPool.touch,Dict.get_moveToEnd] at held ⊢
    exact consistent.bound other factory held
  own other kept held := by
    rw [TenantConnectionPool.touch,Dict.get_moveToEnd] at held
    exact consistent.own other kept held
  removed made member := by
    rw [TenantConnectionPool.touch,Dict.get_moveToEnd]
    exact consistent.removed made member
  numbered := consistent.numbered
  called := consistent.called

theorem Kept.touch (kept : Kept maxPools pool) (tenantId : String) : Kept maxPools (pool.touch tenantId) where
  toConsistent := kept.toConsistent.touch tenantId
  limit := kept.limit
  bounded := (Dict.length_moveToEnd _ _).trans_le kept.bounded

theorem Kept.remove (kept : Kept maxPools pool) (found : pool.engines.get tenantId = some engine) :
    Kept maxPools (pool.remove tenantId engine) where
  toConsistent := kept.toConsistent.remove found
  limit := kept.limit
  bounded := (Dict.length_erase _ _).trans kept.bounded

/-- The pool after an eviction: consistent, with room for one more, and no one's engine new. -/
structure Roomy (maxPools : Nat) (before after : TenantConnectionPool) : Prop extends Consistent after where
  limit : after.maxPools = maxPools
  room : after.engines.entries.length < maxPools
  absent : ∀ tenantId, before.engines.get tenantId = none → after.engines.get tenantId = none
  factories : ∀ tenantId, before.sessionFactories.get tenantId = none → after.sessionFactories.get tenantId = none

theorem remove_absent {other : String} {engine : Engine} (absent : pool.engines.get other = none) :
    (pool.remove tenantId engine).engines.get other = none := by
  rw [remove_get,absent,ite_self]

theorem remove_factory {other : String} {engine : Engine} (absent : pool.sessionFactories.get other = none) :
    (pool.remove tenantId engine).sessionFactories.get other = none := by
  by_cases same : other = tenantId
  · exact same ▸ Dict.get_erase_same _ _
  · exact (Dict.get_erase_other _ same).trans absent

theorem roomy_already (limit : pool.maxPools = maxPools) (consistent : Consistent pool)
    (room : ¬pool.maxPools ≤ pool.engines.entries.length) : Roomy maxPools pool pool :=
  ⟨consistent,limit,limit ▸ Nat.lt_of_not_le room,fun _ absent => absent,fun _ absent => absent⟩

theorem evictRounds_roomy {rounds : Nat} (positive : 1 ≤ maxPools) (limit : pool.maxPools = maxPools)
    (consistent : Consistent pool) (enough : pool.engines.entries.length ≤ rounds) :
    ∃ after, evictRounds rounds pool = (.ok (),after) ∧ Roomy maxPools pool after := by
  induction rounds generalizing pool with
  | zero =>
    have room : ¬pool.maxPools ≤ pool.engines.entries.length := by omega
    exact ⟨pool,if_neg room,roomy_already limit consistent room⟩
  | succ rounds ih =>
    rw [evictRounds]
    by_cases full : pool.maxPools ≤ pool.engines.entries.length
    · rw [if_pos full]
      cases entries : pool.engines.entries with
      | nil =>
        rw [entries,List.length_nil] at full
        omega
      | cons oldest rest =>
        obtain ⟨oldestTenant,oldestEngine⟩ := oldest
        have member : (oldestTenant,oldestEngine) ∈ pool.engines.entries := entries ▸ List.mem_cons_self
        have found := pool.engines.mem_iff_get.mp member
        have fewer : (pool.remove oldestTenant oldestEngine).engines.entries.length < pool.engines.entries.length :=
          List.length_filter_lt_length_iff_exists.mpr ⟨_,member,by simp⟩
        obtain ⟨after,ran,roomy⟩ :=
          @ih (pool.remove oldestTenant oldestEngine) limit (consistent.remove found) (by omega)
        exact ⟨after,ran,roomy.toConsistent,roomy.limit,roomy.room,
          fun tenantId absent => roomy.absent tenantId (remove_absent absent),
          fun tenantId absent => roomy.factories tenantId (remove_factory absent)⟩
    · exact ⟨pool,if_neg full,roomy_already limit consistent full⟩

theorem evictIfNeeded_roomy (positive : 1 ≤ maxPools) (kept : Kept maxPools pool) :
    ∃ after, pool.evictIfNeeded = (.ok (),after) ∧ Roomy maxPools pool after :=
  evictRounds_roomy positive kept.limit kept.toConsistent (Nat.le_refl _)

theorem Roomy.kept {before : TenantConnectionPool} (roomy : Roomy maxPools before after) : Kept maxPools after :=
  ⟨roomy.toConsistent,roomy.limit,Nat.le_of_lt roomy.room⟩

theorem createEngine_kept (raises : Raises) (consistent : Consistent pool) (limit : pool.maxPools = maxPools)
    (room : pool.engines.entries.length < maxPools) (absent : pool.engines.get tenantId = none) :
    Kept maxPools (createEngine raises tenantId pool).2 ∧
      ∀ engine, (createEngine raises tenantId pool).1 = .ok engine →
        (createEngine raises tenantId pool).2.engines.get tenantId = some engine := by
  unfold createEngine
  cases raises.creation with
  | some message => exact ⟨⟨consistent,limit,Nat.le_of_lt room⟩,fun _ created => by cases created⟩
  | none =>
    have fresh : (⟨tenantId,pool.made.length⟩ : Engine) ∉ pool.made := fun member =>
      Nat.lt_irrefl _ (consistent.numbered _ member)
    refine ⟨⟨⟨?_,?_,?_,?_,?_⟩,limit,?_⟩,?_⟩
    · intro other factory held
      have before := consistent.bound other factory held
      have differs : other ≠ tenantId := by
        rintro rfl
        exact Option.some_ne_none _ (before.symm.trans absent)
      exact (Dict.get_set_other _ _ differs).trans before
    · intro other kept held
      rw [Dict.get_set] at held
      split at held
      next same =>
        cases held
        exact ⟨same.symm,List.mem_append_right _ List.mem_cons_self,fun disposed => fresh (consistent.called _ disposed)⟩
      next =>
        obtain ⟨named,made,undisposed⟩ := consistent.own other kept held
        exact ⟨named,List.mem_append_left _ made,undisposed⟩
    · intro made member
      rcases List.mem_append.mp member with before | new
      · refine (consistent.removed made before).imp (fun kept => ?_) id
        have differs : made.tenant ≠ tenantId := by
          intro same
          rw [same,absent] at kept
          cases kept
        exact (Dict.get_set_other _ _ differs).trans kept
      · rw [List.mem_singleton.mp new]
        exact .inl (Dict.get_set_same _ _ _)
    · intro made member
      rw [List.length_append,List.length_singleton]
      rcases List.mem_append.mp member with before | new
      · exact Nat.lt_succ_of_lt (consistent.numbered made before)
      · rw [List.mem_singleton.mp new]
        exact Nat.lt_succ_self _
    · exact fun disposed member => List.mem_append_left _ (consistent.called disposed member)
    · exact (Dict.length_set _ _ _).trans room
    · intro engine created
      cases created
      exact Dict.get_set_same _ _ _

/-- What a call may return: the kept engine of the tenant, on which `dispose` was not called, or the factory of it. -/
def Returns (pool : TenantConnectionPool) : Call → Answer → Prop
  | .getEngine tenantId,.engine engine =>
    engine.tenant = tenantId ∧ pool.engines.get tenantId = some engine ∧ engine ∉ pool.disposed
  | .getSessionFactory tenantId,.factory factory =>
    factory.bind.tenant = tenantId ∧ pool.sessionFactories.get tenantId = some factory ∧
      pool.engines.get tenantId = some factory.bind ∧ factory.bind ∉ pool.disposed
  | .closeEngine _,.nothing | .closeAll,.nothing => True
  | _,_ => False

theorem getEngine_kept (positive : 1 ≤ maxPools) (kept : Kept maxPools pool) (raises : Raises) (tenantId : String) :
    Kept maxPools (getEngine raises tenantId pool).2 ∧
      ∀ engine, (getEngine raises tenantId pool).1 = .ok engine →
        (getEngine raises tenantId pool).2.engines.get tenantId = some engine := by
  unfold getEngine
  cases found : pool.engines.get tenantId with
  | some engine =>
    refine ⟨kept.touch tenantId,fun other same => ?_⟩
    cases same
    exact (Dict.get_moveToEnd _ _ _).trans found
  | none =>
    obtain ⟨evicted,ran,roomy⟩ := evictIfNeeded_roomy positive kept
    dsimp only
    rw [ran]
    exact createEngine_kept raises roomy.toConsistent roomy.limit roomy.room (roomy.absent tenantId found)

theorem createSessionFactory_kept (kept : Kept maxPools pool) (found : pool.engines.get tenantId = some engine) :
    Kept maxPools (createSessionFactory tenantId engine pool).2 where
  bound other factory held := by
    change (pool.sessionFactories.set tenantId ⟨engine⟩).get other = some factory at held
    rw [Dict.get_set] at held
    split at held
    next same =>
      cases held
      exact same ▸ found
    next => exact kept.bound other factory held
  own := kept.own
  removed := kept.removed
  numbered := kept.numbered
  called := kept.called
  limit := kept.limit
  bounded := kept.bounded

theorem createSessionFactory_found (found : pool.engines.get tenantId = some engine) (factory : SessionFactory)
    (created : (createSessionFactory tenantId engine pool).1 = .ok factory) :
    (createSessionFactory tenantId engine pool).2.sessionFactories.get tenantId = some factory ∧
      (createSessionFactory tenantId engine pool).2.engines.get tenantId = some factory.bind := by
  cases created
  exact ⟨Dict.get_set_same _ _ _,found⟩

theorem getSessionFactory_kept (positive : 1 ≤ maxPools) (kept : Kept maxPools pool) (raises : Raises) (tenantId : String) :
    Kept maxPools (getSessionFactory raises tenantId pool).2 ∧
      ∀ factory, (getSessionFactory raises tenantId pool).1 = .ok factory →
        (getSessionFactory raises tenantId pool).2.sessionFactories.get tenantId = some factory ∧
          (getSessionFactory raises tenantId pool).2.engines.get tenantId = some factory.bind := by
  unfold getSessionFactory
  cases held : pool.sessionFactories.get tenantId with
  | some factory =>
    have found := kept.bound tenantId factory held
    dsimp only
    rw [found]
    refine ⟨kept.touch tenantId,fun other same => ?_⟩
    cases same
    exact ⟨(Dict.get_moveToEnd _ _ _).trans held,(Dict.get_moveToEnd _ _ _).trans found⟩
  | none =>
    obtain ⟨evicted,ran,roomy⟩ := evictIfNeeded_roomy positive kept
    dsimp only
    rw [ran]
    dsimp only
    cases found : evicted.engines.get tenantId with
    | some engine => exact ⟨createSessionFactory_kept roomy.kept found,createSessionFactory_found found⟩
    | none =>
      obtain ⟨made,stored⟩ := createEngine_kept raises roomy.toConsistent roomy.limit roomy.room found
      dsimp only
      revert made stored
      cases created : createEngine raises tenantId evicted with
      | mk result after =>
        intro made stored
        cases result with
        | error raised => exact ⟨made,fun _ same => by cases same⟩
        | ok engine => exact ⟨createSessionFactory_kept made (stored engine rfl),createSessionFactory_found (stored engine rfl)⟩

theorem closeEngine_kept (kept : Kept maxPools pool) (raises : Raises) (tenantId : String) :
    Kept maxPools (closeEngine raises tenantId pool).2 := by
  unfold closeEngine
  cases found : pool.engines.get tenantId with
  | none => exact kept
  | some engine =>
    dsimp only
    cases raises.dispose engine with
    | none => exact kept.remove found
    | some message => exact kept.remove found

theorem closeAll_kept (kept : Kept maxPools pool) : Kept maxPools pool.closeAll where
  bound _ _ held := by cases held
  own _ _ held := by cases held
  removed made member := by
    refine .inr (List.mem_append.mpr ((kept.removed made member).imp (fun held => ?_) id))
    exact List.mem_reverse.mpr (List.mem_map_of_mem (pool.engines.mem_iff_get.mpr held))
  numbered := kept.numbered
  called disposed member := by
    rcases List.mem_append.mp member with closed | before
    · obtain ⟨tenantId,found⟩ := pool.engines.get_of_mem_values (List.mem_reverse.mp closed)
      exact (kept.own tenantId disposed found).2.1
    · exact kept.called disposed before
  limit := kept.limit
  bounded := Nat.zero_le _

theorem serve_kept (positive : 1 ≤ maxPools) (kept : Kept maxPools pool) (call : Call × Raises) :
    Kept maxPools (pool.serve call).2 ∧
      ∀ answer, (pool.serve call).1 = .ok answer → Returns (pool.serve call).2 call.1 answer := by
  obtain ⟨call,raises⟩ := call
  cases call with
  | getEngine tenantId =>
    obtain ⟨next,stored⟩ := getEngine_kept positive kept raises tenantId
    refine ⟨next,fun answer same => ?_⟩
    obtain ⟨engine,returned,rfl⟩ : ∃ engine, (getEngine raises tenantId pool).1 = .ok engine ∧ Answer.engine engine = answer := by
      change (getEngine raises tenantId pool).1.map Answer.engine = .ok answer at same
      cases result : (getEngine raises tenantId pool).1 with
      | error raised =>
        rw [result] at same
        cases same
      | ok engine =>
        rw [result] at same
        cases same
        exact ⟨engine,rfl,rfl⟩
    have found := stored engine returned
    obtain ⟨named,_,undisposed⟩ := next.own tenantId engine found
    exact ⟨named,found,undisposed⟩
  | getSessionFactory tenantId =>
    obtain ⟨next,stored⟩ := getSessionFactory_kept positive kept raises tenantId
    refine ⟨next,fun answer same => ?_⟩
    obtain ⟨factory,returned,rfl⟩ :
        ∃ factory, (getSessionFactory raises tenantId pool).1 = .ok factory ∧ Answer.factory factory = answer := by
      change (getSessionFactory raises tenantId pool).1.map Answer.factory = .ok answer at same
      cases result : (getSessionFactory raises tenantId pool).1 with
      | error raised =>
        rw [result] at same
        cases same
      | ok factory =>
        rw [result] at same
        cases same
        exact ⟨factory,rfl,rfl⟩
    obtain ⟨held,found⟩ := stored factory returned
    obtain ⟨named,_,undisposed⟩ := next.own tenantId factory.bind found
    exact ⟨named,held,found,undisposed⟩
  | closeEngine tenantId =>
    refine ⟨closeEngine_kept kept raises tenantId,fun answer same => ?_⟩
    change (closeEngine raises tenantId pool).1.map (fun _ => Answer.nothing) = .ok answer at same
    cases result : (closeEngine raises tenantId pool).1 with
    | error raised =>
      rw [result] at same
      cases same
    | ok done =>
      rw [result] at same
      cases same
      trivial
  | closeAll =>
    refine ⟨closeAll_kept kept,fun answer same => ?_⟩
    cases same
    trivial

def calm : Raises := ⟨none,fun _ => none⟩

end TenantConnectionPool

end CqrsDdd.Multitenancy
