import CqrsDdd.EventStores.Pagination
import CqrsDdd.EventStores.TenantReads

/-! Reading under a tenant is reading a plain store of the events that were appended
under it. A plain store that got the same calls holds the same events at the same
positions, so the tenant's own are restricted from there. -/
namespace CqrsDdd.EventStores

open Generator Paging Multitenancy InMemoryEventStore MultitenantEventStoreMixin

variable {Object : Type} {specification : Filter Object} {tenant : Tenant} {events : List (StoredEvent Object)}

def Filter.Composable (specification : Filter Object) : Prop :=
  ∀ other, specification = some other → other.composable = true

structure IEventStore.Agrees (first second : IEventStore Object) (specification : Filter Object) : Prop where
  getEvents : ∀ aggregateId afterVersion,
    first.getEvents aggregateId afterVersion specification = second.getEvents aggregateId afterVersion specification
  getByAggregate : ∀ aggregateId aggregateType,
    first.getByAggregate aggregateId aggregateType specification =
      second.getByAggregate aggregateId aggregateType specification
  getAll : first.getAll specification = second.getAll specification
  getEventsAfter : ∀ position limit,
    first.getEventsAfter position limit specification = second.getEventsAfter position limit specification
  getEventsFromPosition : ∀ limit current,
    first.getEventsFromPosition limit specification current = second.getEventsFromPosition limit specification current
  getAllStreaming : ∀ batchSize pos,
    first.getAllStreaming batchSize specification pos = second.getAllStreaming batchSize specification pos
  getLatestPosition : first.getLatestPosition specification = second.getLatestPosition specification

theorem IEventStore.Agrees.symm {first second : IEventStore Object} (agrees : first.Agrees second specification) :
    second.Agrees first specification where
  getEvents aggregateId afterVersion := (agrees.getEvents aggregateId afterVersion).symm
  getByAggregate aggregateId aggregateType := (agrees.getByAggregate aggregateId aggregateType).symm
  getAll := agrees.getAll.symm
  getEventsAfter position limit := (agrees.getEventsAfter position limit).symm
  getEventsFromPosition limit current := (agrees.getEventsFromPosition limit current).symm
  getAllStreaming batchSize pos := (agrees.getAllStreaming batchSize pos).symm
  getLatestPosition := agrees.getLatestPosition.symm

/-- The specification that a read under the tenant hands on. -/
def tenantFilter (tenant : Tenant) (specification : Filter Object) : ISpecification Object :=
  composeSpecs (buildTenantSpecification tenant.id) specification

def owned (tenant : Tenant) (events : List (StoredEvent Object)) : List (StoredEvent Object) :=
  events.filter fun event => event.tenantId = some tenant.id

theorem restricted_tenant (specification : Filter Object) :
    restricted (some tenant.id) specification = .ok (some (tenantFilter tenant specification)) := by
  unfold restricted
  rw [isSystemTenant_tenant,MultitenantRepository.requireTenantContext_tenant]
  exact rfl

theorem tenantFilter_own (composable : specification.Composable) {event : StoredEvent Object}
    (own : event.tenantId = some tenant.id) :
    (tenantFilter tenant specification).isSatisfiedBy event = specification.keeps event := by
  have accepted : (buildTenantSpecification tenant.id).isSatisfiedBy event = .ok true :=
    congrArg Except.ok (decide_eq_true own)
  cases specification with
  | none => exact accepted
  | some other =>
    rw [tenantFilter,composeSpecs,if_pos (composable other rfl),ISpecification.both_isSatisfiedBy,accepted]
    exact rfl

theorem tenantFilter_foreign (specification : Filter Object) {event : StoredEvent Object}
    (foreign : event.tenantId ≠ some tenant.id) :
    (tenantFilter tenant specification).isSatisfiedBy event = .ok false := by
  have rejected : (buildTenantSpecification tenant.id).isSatisfiedBy event = .ok false :=
    congrArg Except.ok (decide_eq_false foreign)
  cases specification with
  | none => exact rejected
  | some other =>
    rw [tenantFilter,composeSpecs]
    by_cases composable : other.composable = true
    · rw [if_pos composable,ISpecification.both_isSatisfiedBy,rejected]
      exact rfl
    · rw [if_neg composable]
      exact rejected

theorem tenantFilter_composable (specification : Filter Object) :
    (tenantFilter tenant specification).composable = true := by
  cases specification with
  | none => exact rfl
  | some other =>
    rw [tenantFilter,composeSpecs]
    split
    next => exact rfl
    next => exact rfl

theorem tenantFilter_tenantFilter (specification : Filter Object) :
    tenantFilter tenant (some (tenantFilter tenant specification)) = tenantFilter tenant specification := by
  apply ISpecification.ext
  · ext event : 1
    by_cases own : event.tenantId = some tenant.id
    · refine tenantFilter_own (fun other same => ?_) own
      rw [← Option.some.inj same]
      exact tenantFilter_composable specification
    · rw [tenantFilter_foreign _ own,tenantFilter_foreign _ own]
  · rw [tenantFilter_composable,tenantFilter_composable]

theorem applySpecification_tenant (composable : specification.Composable) (events : List (StoredEvent Object)) :
    applySpecification events (some (tenantFilter tenant specification)) =
      applySpecification (owned tenant events) specification := by
  unfold applySpecification
  induction events with
  | nil => exact rfl
  | cons event rest ih =>
    unfold owned
    by_cases own : event.tenantId = some tenant.id
    · rw [List.filter_cons_of_pos (by simpa using own),Attempts.select,Attempts.select,ih]
      have same := tenantFilter_own composable own
      rw [Filter.keeps,same]
      exact rfl
    · rw [List.filter_cons_of_neg (by simpa using own),Attempts.select,ih]
      have rejected := tenantFilter_foreign specification own
      rw [Filter.keeps,rejected]
      exact rfl

def Ascending (events : List (StoredEvent Object)) : Prop :=
  Increasing StoredEvent.place events ∧ ∀ event ∈ events, 0 ≤ event.place

theorem owned_positioned (positioned : Positioned events) : Positioned (owned tenant events) :=
  fun event member => positioned event (List.mem_of_mem_filter member)

theorem gather_tenant (composable : specification.Composable) (position limit : Int) (i j : Nat)
    (out : List (StoredEvent Object)) (positioned : Positioned events) :
    gather (some (tenantFilter tenant specification)) position limit i out events =
      gather specification position limit j out (owned tenant events) := by
  induction events generalizing i j out with
  | nil => exact rfl
  | cons event rest ih =>
    have placed := positioned event List.mem_cons_self
    have others : Positioned rest := fun other member => positioned other (List.mem_cons_of_mem event member)
    have skipped := ih (i + 1) j out others
    unfold owned at skipped ⊢
    rw [gather,placed,Option.getD_some,Filter.keeps]
    by_cases own : event.tenantId = some tenant.id
    · rw [List.filter_cons_of_pos (by simpa using own),gather,placed,Option.getD_some,tenantFilter_own composable own]
      have passed := ih (i + 1) (j + 1) out others
      have taken := ih (i + 1) (j + 1) (out ++ [event]) others
      unfold owned at passed taken
      rw [passed,taken]
    · rw [List.filter_cons_of_neg (by simpa using own),tenantFilter_foreign specification own,skipped]
      split
      next => exact rfl
      next => exact rfl

theorem filter_owned (keep : StoredEvent Object → Bool) :
    owned tenant (events.filter keep) = (owned tenant events).filter keep := by
  unfold owned
  rw [List.filter_filter,List.filter_filter]
  refine List.filter_congr fun event _ => ?_
  exact Bool.and_comm _ _

theorem highestPosition_matching {others matching : List (StoredEvent Object)} (positioned : Positioned matching) :
    highestPosition events matching = highestPosition others matching := by
  unfold highestPosition
  cases matching with
  | nil => exact rfl
  | cons event rest =>
    have placed : event.position = some event.place := positioned event List.mem_cons_self
    rw [List.filterMap_cons,placed]
    exact rfl

theorem gather_page (composable : specification.Composable) (positioned : Positioned events) (position limit : Int) :
    MultitenantEventStoreMixin.getEventsAfter (some tenant.id) events position limit specification =
      gather specification position limit 0 [] (owned tenant events) := by
  unfold MultitenantEventStoreMixin.getEventsAfter
  rw [restricted_tenant]
  exact gather_tenant composable position limit 0 0 [] positioned

theorem gather_own_page (composable : specification.Composable) (positioned : Positioned events) (position limit : Int) :
    MultitenantEventStoreMixin.getEventsAfter (some tenant.id) events position limit
        (some (tenantFilter tenant specification)) =
      gather specification position limit 0 [] (owned tenant events) := by
  unfold MultitenantEventStoreMixin.getEventsAfter
  rw [restricted_tenant,tenantFilter_tenantFilter]
  exact gather_tenant composable position limit 0 0 [] positioned

theorem filter_tenant (composable : specification.Composable) (tenant : Tenant) (events : List (StoredEvent Object))
    (keep : StoredEvent Object → Bool) :
    (do applySpecification (events.filter keep) (← restricted (some tenant.id) specification)) =
      applySpecification ((owned tenant events).filter keep) specification := by
  rw [restricted_tenant,← filter_owned]
  exact applySpecification_tenant composable (events.filter keep)

theorem over_agrees (composable : specification.Composable) (positioned : Positioned events) :
    (underContext (some tenant.id) events).Agrees (plain (owned tenant events)) specification where
  getEvents aggregateId afterVersion := filter_tenant composable tenant events _
  getByAggregate aggregateId aggregateType := by
    cases aggregateType with
    | none => exact filter_tenant composable tenant events _
    | some aggregateType =>
      have both := filter_tenant composable tenant (events.filter fun event => event.aggregateId = aggregateId)
        fun event => event.aggregateType = some aggregateType
      rw [filter_owned] at both
      exact both
  getAll := by
    change (do applySpecification events (← restricted (some tenant.id) specification)) = _
    rw [restricted_tenant]
    exact applySpecification_tenant composable events
  getEventsAfter position limit := gather_page composable positioned position limit
  getEventsFromPosition limit current := by
    change (restricted (some tenant.id) specification >>= fun filter => _) = _
    rw [restricted_tenant]
    exact congrArg (· >>= fun page => .ok (pageTurn (limit.getD 1000) current page))
      (gather_own_page composable positioned current (limit.getD 1000))
  getAllStreaming batchSize pos := by
    change (restricted (some tenant.id) specification >>= fun filter => _) = _
    rw [restricted_tenant]
    exact congrArg (· >>= fun page => .ok (batchTurn pos page)) (gather_own_page composable positioned pos batchSize)
  getLatestPosition := by
    change (restricted (some tenant.id) specification >>= fun filter => _) = _
    rw [restricted_tenant]
    change (applySpecification events (some (tenantFilter tenant specification)) >>= fun matching => _) = _
    rw [applySpecification_tenant composable]
    change _ = applySpecification (owned tenant events) specification >>= fun matching => _
    cases selected : applySpecification (owned tenant events) specification with
    | error failure => exact rfl
    | ok matching =>
      have positions : Positioned matching := fun event member =>
        owned_positioned positioned event (Attempts.select_ok selected event member).1
      exact congrArg Except.ok (highestPosition_matching positions)

/-- The calls to append, each in the context of a tenant. -/
abbrev History (Object : Type) := List (Tenant × InMemoryEventStore.Append Object)

def History.log (history : History Object) : Except (Failure Object) (List (StoredEvent Object)) :=
  history.foldlM (fun events call => MultitenantEventStoreMixin.perform (some call.1.id) events call.2) []

def History.appenders (history : History Object) : List Tenant :=
  history.flatMap fun call => call.2.events.map fun _ => call.1

def History.plain (history : History Object) : List (StoredEvent Object) := contents (history.map Prod.snd)

def History.stamped (history : History Object) : List (StoredEvent Object) :=
  List.zipWith (fun appender event => injectTenantIntoEvent appender.id event) history.appenders history.plain

/-- The plain store restricted to the events that were appended under the tenant, with the tenant's id. -/
def History.appendedUnder (history : History Object) (tenant : Tenant) : List (StoredEvent Object) :=
  ((history.appenders.zip history.plain).filter fun entry => entry.1 = tenant).map fun entry =>
    injectTenantIntoEvent tenant.id entry.2

namespace History

theorem perform_tenant (tenant : Tenant) (events : List (StoredEvent Object))
    (call : InMemoryEventStore.Append Object) : MultitenantEventStoreMixin.perform (some tenant.id) events call =
      .ok (InMemoryEventStore.perform events (injectTenant tenant.id call)) := by
  unfold MultitenantEventStoreMixin.perform
  rw [isSystemTenant_tenant,MultitenantRepository.requireTenantContext_tenant]
  exact rfl

theorem injectTenant_events (tenantId : String) (call : InMemoryEventStore.Append Object) :
    (injectTenant tenantId call).events = call.events.map (injectTenantIntoEvent tenantId) := by
  cases call with
  | append stored => exact rfl
  | appendBatch batch => exact rfl

theorem plain_concat (history : History Object) (call : Tenant × InMemoryEventStore.Append Object) :
    plain (history ++ [call]) = InMemoryEventStore.perform history.plain call.2 := by
  unfold plain contents
  rw [List.map_append,Transition.run_append]
  exact rfl

theorem appenders_concat (history : History Object) (call : Tenant × InMemoryEventStore.Append Object) :
    appenders (history ++ [call]) = history.appenders ++ call.2.events.map fun _ => call.1 := by
  unfold appenders
  rw [List.flatMap_append,List.flatMap_singleton]

theorem log_concat (history : History Object) (call : Tenant × InMemoryEventStore.Append Object) :
    log (history ++ [call]) =
      history.log >>= fun events => .ok (InMemoryEventStore.perform events (injectTenant call.1.id call.2)) := by
  unfold log
  rw [List.foldlM_append]
  simp [perform_tenant]

theorem length_perform (events : List (StoredEvent Object)) (call : InMemoryEventStore.Append Object) :
    (InMemoryEventStore.perform events call).length = events.length + call.events.length := by
  rw [perform_eq_appendBatch,appendBatchInternal,List.length_append,List.length_mapIdx]

theorem length_appenders (history : History Object) : history.appenders.length = history.plain.length := by
  induction history using List.reverseRecOn with
  | nil => exact rfl
  | append_singleton history call ih =>
    rw [appenders_concat,plain_concat,length_perform,List.length_append,ih,List.length_map]

theorem stamp_batch (appender : Tenant) (start : Int) (batch : List (StoredEvent Object)) :
    (batch.map (injectTenantIntoEvent appender.id)).mapIdx (fun i stored =>
        {stored with position := some (stored.position.getD (start + i))}) =
      List.zipWith (fun appender event => injectTenantIntoEvent appender.id event) (batch.map fun _ => appender)
        (batch.mapIdx fun i stored => {stored with position := some (stored.position.getD (start + i))}) := by
  apply List.ext_getElem?
  intro i
  rw [List.getElem?_zipWith]
  simp only [List.getElem?_mapIdx,List.getElem?_map]
  cases batch[i]? with
  | none => exact rfl
  | some stored => exact rfl

theorem log_eq (history : History Object) : history.log = .ok history.stamped := by
  unfold stamped
  induction history using List.reverseRecOn with
  | nil => exact rfl
  | append_singleton history call ih =>
    rw [log_concat,ih,appenders_concat,plain_concat,perform_eq_appendBatch _ call.2,appendBatchInternal,
      List.zipWith_append (length_appenders history)]
    change Except.ok _ = Except.ok _
    rw [perform_eq_appendBatch,injectTenant_events,appendBatchInternal,stamp_batch,List.length_zipWith,
      length_appenders,Nat.min_self]

theorem plain_positioned (history : History Object) : Positioned history.plain := by
  induction history using List.reverseRecOn with
  | nil => exact fun event member => absurd member List.not_mem_nil
  | append_singleton history call ih =>
    rw [plain_concat,perform_eq_appendBatch,appendBatchInternal]
    intro event member
    rcases List.mem_append.mp member with earlier | later
    · exact ih event earlier
    · obtain ⟨i,inside,rfl⟩ := List.mem_mapIdx.mp later
      exact rfl

theorem stamped_positioned (history : History Object) : Positioned history.stamped := by
  intro event member
  unfold stamped at member
  rw [← List.map_uncurry_zip_eq_zipWith] at member
  obtain ⟨entry,appended,rfl⟩ := List.mem_map.mp member
  exact plain_positioned history entry.2 (List.of_mem_zip appended).2

theorem owned_stamped (history : History Object) (tenant : Tenant) :
    owned tenant history.stamped = history.appendedUnder tenant := by
  have zipped : history.stamped =
      (history.appenders.zip history.plain).map fun entry => injectTenantIntoEvent entry.1.id entry.2 := by
    unfold stamped
    rw [List.map_zip_eq_zipWith]
    exact rfl
  unfold owned appendedUnder
  rw [zipped,List.filter_map]
  have same : (history.appenders.zip history.plain).filter
      ((fun event => decide (event.tenantId = some tenant.id)) ∘ fun entry => injectTenantIntoEvent entry.1.id entry.2) =
      (history.appenders.zip history.plain).filter fun entry => entry.1 = tenant := by
    refine List.filter_congr fun entry _ => ?_
    exact decide_eq_decide.mpr ⟨fun stamped => Tenant.ext (Option.some.inj stamped),
      fun appended => congrArg (fun appender : Tenant => some appender.id) appended⟩
  rw [same]
  apply List.map_congr_left
  intro entry member
  rw [of_decide_eq_true (List.mem_filter.mp member).2]

theorem appendedUnder_positioned (history : History Object) (tenant : Tenant) :
    Positioned (history.appendedUnder tenant) := by
  intro event member
  obtain ⟨entry,appended,rfl⟩ := List.mem_map.mp member
  have stored := (List.of_mem_zip (List.mem_of_mem_filter appended)).2
  exact plain_positioned history entry.2 stored

theorem appendedUnder_ascending {history : History Object}
    (fresh : ∀ call ∈ history, InMemoryEventStore.Unpositioned call.2) (tenant : Tenant) :
    Ascending (history.appendedUnder tenant) := by
  have indexed : Indexed history.plain := contents_indexed fun call member => by
    obtain ⟨entry,present,rfl⟩ := List.mem_map.mp member
    exact fresh entry present
  constructor
  · have stored : (history.appenders.zip history.plain).map Prod.snd = history.plain :=
      List.map_snd_zip (length_appenders history).ge
    have ordered := indexed.increasing
    rw [← stored] at ordered
    exact List.pairwise_map.mpr ((List.pairwise_map.mp ordered).filter _)
  · intro event member
    obtain ⟨entry,appended,rfl⟩ := List.mem_map.mp member
    obtain ⟨i,found⟩ := List.mem_iff_getElem?.mp (List.of_mem_zip (List.mem_of_mem_filter appended)).2
    change 0 ≤ entry.2.place
    rw [indexed.place found]
    exact Int.natCast_nonneg i

end History

theorem exists_keep {listing : List (StoredEvent Object)} (listed : applySpecification events specification = .ok listing) :
    ∃ keep : StoredEvent Object → Bool, (∀ event ∈ events, specification.keeps event = .ok (keep event)) ∧
      listing = InMemoryEventStore.getAll events (some keep) := by
  have answers : ∀ event ∈ events,
      specification.keeps event = .ok ((specification.keeps event).toOption.getD false) := by
    intro event member
    obtain ⟨chosen,answered⟩ := Attempts.select_answered listed event member
    rw [answered]
    exact rfl
  exact ⟨_,answers,Except.ok.inj (listed.symm.trans (Attempts.select_of_answers answers))⟩

theorem gather_eq_collect {keep : StoredEvent Object → Bool} (position : Int) (limit i : Nat)
    (out : List (StoredEvent Object)) (answers : ∀ event ∈ events, specification.keeps event = .ok (keep event)) :
    gather specification position limit i out events = .ok (collect (some keep) position limit i out events) := by
  induction events generalizing i out with
  | nil => exact rfl
  | cons event rest ih =>
    obtain ⟨first,others⟩ := List.forall_mem_cons.mp answers
    rw [gather,collect,first,ih (i + 1) out others,ih (i + 1) (out ++ [event]) others]
    by_cases ahead : position < event.position.getD i
    · rw [if_pos ahead,if_pos ahead]
      change (if keep event = true then _ else _) = Except.ok (if keep event = true then _ else _)
      cases keep event with
      | false => exact rfl
      | true =>
        rw [if_pos rfl,if_pos rfl]
        by_cases full : limit ≤ (out ++ [event]).length
        · rw [if_pos full,if_pos (Int.ofNat_le.mpr full)]
          exact rfl
        · rw [if_neg full,if_neg (mt Int.ofNat_le.mp full)]
    · rw [if_neg ahead,if_neg ahead]

theorem pageTurn_eq (getEventsAfter : Int → Nat → List (StoredEvent Object)) (size : Nat) (current : Int) :
    pageTurn size current (getEventsAfter current size) = streamFrom getEventsAfter size current := by
  unfold pageTurn streamFrom
  by_cases short : (getEventsAfter current size).length < size
  · rw [if_pos short,if_pos (Int.ofNat_lt.mpr short)]
  · exact (if_neg (mt Int.ofNat_lt.mp short)).trans (if_neg short).symm

/-- Pages, stream and batches give the events of the listing behind their position, each once and in its order,
whatever their size. -/
structure IEventStore.Pages (reads : IEventStore Object) (specification : Filter Object)
    (listing : List (StoredEvent Object)) : Prop where
  getEventsAfter : ∀ position limit : Int, 1 ≤ limit →
    reads.getEventsAfter position limit specification =
      .ok ((after StoredEvent.place listing position).take limit.toNat)
  getEventsFromPosition : ∀ (limit : Option Int) (position : Int), 1 ≤ limit.getD 1000 →
    Yields (raising (reads.getEventsFromPosition limit specification)) position
      (after StoredEvent.place listing position)
  getAllStreaming : ∀ batchSize : Int, 1 ≤ batchSize →
    ∃ batches, Yields (raising (reads.getAllStreaming batchSize specification)) (-1) batches ∧
      batches.flatten = listing

theorem IEventStore.Agrees.pages {first second : IEventStore Object} {listing : List (StoredEvent Object)}
    (agrees : first.Agrees second specification) (pages : second.Pages specification listing) :
    first.Pages specification listing := by
  constructor
  · intro position limit room
    rw [agrees.getEventsAfter]
    exact pages.getEventsAfter position limit room
  · intro limit position room
    rw [funext (agrees.getEventsFromPosition limit)]
    exact pages.getEventsFromPosition limit position room
  · intro batchSize room
    rw [funext (agrees.getAllStreaming batchSize)]
    exact pages.getAllStreaming batchSize room

section Answering

variable {keep : StoredEvent Object → Bool} (answers : ∀ event ∈ events, specification.keeps event = .ok (keep event))

include answers

theorem gather_page_of_answers (position : Int) (size : Nat) : gather specification position size 0 [] events =
    .ok (InMemoryEventStore.getEventsAfter events (some keep) position size) :=
  gather_eq_collect position size 0 [] answers

theorem raising_getAllStreaming (size : Nat) : raising ((plain events).getAllStreaming size specification) =
    InMemoryEventStore.getAllStreaming events size (some keep) := by
  ext pos : 1
  have turn : (plain events).getAllStreaming size specification pos =
      .ok (InMemoryEventStore.getAllStreaming events size (some keep) pos) :=
    congrArg (· >>= fun page => Except.ok (batchTurn pos page)) (gather_page_of_answers answers pos size)
  unfold raising
  rw [turn]

end Answering

theorem plain_pages (positioned : Positioned events) (ascending : Ascending events)
    {listing : List (StoredEvent Object)} (listed : applySpecification events specification = .ok listing) :
    (plain events).Pages specification listing := by
  obtain ⟨keep,answers,rfl⟩ := exists_keep listed
  have pages := gather_page_of_answers answers
  have serves := serves_getAll positioned (some keep)
  have ordered : Increasing StoredEvent.place (InMemoryEventStore.getAll events (some keep)) := ascending.1.filter _
  constructor
  · intro position limit room
    obtain ⟨size,rfl⟩ := Int.eq_ofNat_of_zero_le (by omega : 0 ≤ limit)
    exact (pages position size).trans (congrArg Except.ok (serves position size (by omega)))
  · intro limit position room
    obtain ⟨size,same⟩ := Int.eq_ofNat_of_zero_le (by omega : 0 ≤ limit.getD 1000)
    have turns : raising ((plain events).getEventsFromPosition limit specification) =
        streamFrom (InMemoryEventStore.getEventsAfter events (some keep)) size := by
      ext current : 1
      have turn : (plain events).getEventsFromPosition limit specification current =
          .ok (pageTurn size current (InMemoryEventStore.getEventsAfter events (some keep) current size)) := by
        change (gather specification current (limit.getD 1000) 0 [] events >>= fun page =>
          Except.ok (pageTurn (limit.getD 1000) current page)) = _
        rw [same,pages]
        exact rfl
      unfold raising
      rw [turn]
      exact pageTurn_eq _ size current
    rw [turns]
    exact ⟨_,streamFrom_run serves ordered (getAll_positioned positioned _) size (by omega) position⟩
  · intro batchSize room
    obtain ⟨size,rfl⟩ := Int.eq_ofNat_of_zero_le (by omega : 0 ≤ batchSize)
    rw [raising_getAllStreaming answers]
    obtain ⟨batches,yields,joined⟩ := getAllStreaming_yields positioned ascending.1 (some keep)
      (by omega : 1 ≤ size) (-1)
    refine ⟨batches,yields,joined.trans (List.filter_eq_self.mpr fun event member => ?_)⟩
    have start := ascending.2 event (List.mem_of_mem_filter member)
    rw [decide_eq_true_eq]
    omega

theorem increasing_of_singles (positioned : Positioned events) {filter : Specification Object} {pos : Int}
    {batches : List (List (StoredEvent Object))}
    (yields : Yields (InMemoryEventStore.getAllStreaming events 1 filter) pos batches) :
    Increasing StoredEvent.place batches.flatten ∧ ∀ event ∈ batches.flatten, pos < event.place := by
  have serves := serves_getAll positioned filter
  refine yields.rec_on (motive := fun pos batches => Increasing StoredEvent.place batches.flatten ∧
    ∀ event ∈ batches.flatten, pos < event.place) (fun pos yielded stops => ?_)
    (fun pos later yielded rest goes _ ih => ?_)
  all_goals
    have page := serves pos 1 le_rfl
  · rw [InMemoryEventStore.getAllStreaming,page] at stops
    cases ends : ((after StoredEvent.place (InMemoryEventStore.getAll events filter) pos).take 1).getLast? with
    | none =>
      simp only [ends,Turn.stop.injEq] at stops
      subst stops
      exact ⟨List.Pairwise.nil,fun event member => absurd member List.not_mem_nil⟩
    | some last => simp [ends] at stops
  · rw [InMemoryEventStore.getAllStreaming,page] at goes
    cases behind : after StoredEvent.place (InMemoryEventStore.getAll events filter) pos with
    | nil => simp [behind] at goes
    | cons first others =>
      have member : first ∈ after StoredEvent.place (InMemoryEventStore.getAll events filter) pos :=
        behind ▸ List.mem_cons_self
      obtain ⟨listed,ahead⟩ := mem_after.mp member
      simp only [behind,List.take_succ_cons,List.take_zero,List.getLast?_singleton,
        getAll_positioned positioned filter first listed,Option.getD_some,Turn.next.injEq] at goes
      obtain ⟨rfl,rfl⟩ := goes
      change Increasing StoredEvent.place (first :: rest.flatten) ∧ ∀ event ∈ first :: rest.flatten, pos < event.place
      refine ⟨List.pairwise_cons.mpr ⟨ih.2,ih.1⟩,fun event there => ?_⟩
      rcases List.mem_cons.mp there with rfl | later
      · exact ahead
      · exact ahead.trans (ih.2 event later)

theorem ascending_of_pages (positioned : Positioned events) (pages : (plain events).Pages none events) :
    Ascending events := by
  have answers : ∀ event ∈ events, Filter.keeps none event = .ok true := fun _ _ => rfl
  obtain ⟨batches,yields,joined⟩ := pages.getAllStreaming ((1 : Nat) : Int) (by decide)
  rw [raising_getAllStreaming answers] at yields
  obtain ⟨increasing,ahead⟩ := increasing_of_singles positioned yields
  rw [joined] at increasing ahead
  exact ⟨increasing,ahead⟩

theorem reads_restrict (history : History Object) (tenant : Tenant) :
    ∃ events, history.log = .ok events ∧
      (∀ specification : Filter Object, specification.Composable →
        (underContext (some tenant.id) events).Agrees (plain (history.appendedUnder tenant)) specification) ∧
      ((∀ specification : Filter Object, specification.Composable →
        ∀ listing, (underContext (some tenant.id) events).getAll specification = .ok listing →
          (underContext (some tenant.id) events).Pages specification listing) ↔
        Ascending (history.appendedUnder tenant)) ∧
      ((∀ call ∈ history, InMemoryEventStore.Unpositioned call.2) → Ascending (history.appendedUnder tenant)) := by
  have restrict : ∀ specification : Filter Object, specification.Composable →
      (underContext (some tenant.id) history.stamped).Agrees (plain (history.appendedUnder tenant)) specification := by
    intro specification composable
    rw [← History.owned_stamped]
    exact over_agrees composable (History.stamped_positioned history)
  have positioned := History.appendedUnder_positioned history tenant
  refine ⟨history.stamped,History.log_eq history,restrict,⟨fun paged => ?_,fun ascending => ?_⟩,
    fun fresh => History.appendedUnder_ascending fresh tenant⟩
  · have composable : Filter.Composable (none : Filter Object) := fun _ absent => by cases absent
    have agrees := restrict none composable
    have listed : (plain (history.appendedUnder tenant)).getAll none = .ok (history.appendedUnder tenant) := by
      have answers : ∀ event ∈ history.appendedUnder tenant, Filter.keeps none event = .ok ((fun _ => true) event) :=
        fun _ _ => rfl
      exact (Attempts.select_of_answers answers).trans (congrArg Except.ok (List.filter_true _))
    exact ascending_of_pages positioned (agrees.symm.pages (paged none composable _ (agrees.getAll.trans listed)))
  · intro specification composable listing listed
    have agrees := restrict specification composable
    rw [agrees.getAll] at listed
    exact agrees.pages (plain_pages positioned ascending listed)

def storedAt (eventId : String) (position : Option Int) : StoredEvent Unit :=
  {toStoredEvent := plainEvent eventId, position := position, tenantId := none}

/-- Behind the position 5 of the first event a stream does not see the position 3 of the second. -/
theorem preset_positions_skip : ¬ ∀ (history : History Unit) (tenant : Tenant) (events listing : List (StoredEvent Unit)),
    history.log = .ok events → (underContext (some tenant.id) events).getAll none = .ok listing →
      (underContext (some tenant.id) events).Pages none listing := by
  intro claim
  let first := injectTenantIntoEvent "acme" (storedAt "x" (some 5))
  let second := injectTenantIntoEvent "acme" (storedAt "y" (some 3))
  have pages := claim [(acme,.appendBatch [storedAt "x" (some 5),storedAt "y" (some 3)])] acme [first,second]
    [first,second] rfl rfl
  obtain ⟨batches,yields,joined⟩ := pages.getAllStreaming 1 (by decide)
  have skipped : Yields (raising ((underContext (some acme.id) [first,second]).getAllStreaming 1 none)) (-1) [[first]] :=
    ⟨2,rfl⟩
  rw [yields.unique skipped] at joined
  cases joined

theorem reads_restrict_interleaved : ∃ events,
    History.log [(acme,.append (storedAt "x" none)),(globex,.append (storedAt "y" none)),
      (acme,.appendBatch [storedAt "z" none])] = .ok events ∧
    (underContext (some acme.id) events).Agrees (plain [injectTenantIntoEvent "acme" (storedAt "x" (some 0)),
      injectTenantIntoEvent "acme" (storedAt "z" (some 2))]) none ∧
    (underContext (some acme.id) events).Pages none [injectTenantIntoEvent "acme" (storedAt "x" (some 0)),
      injectTenantIntoEvent "acme" (storedAt "z" (some 2))] := by
  obtain ⟨events,logged,agrees,pages,ascending⟩ := reads_restrict [(acme,.append (storedAt "x" none)),
    (globex,.append (storedAt "y" none)),(acme,.appendBatch [storedAt "z" none])] acme
  have composable : Filter.Composable (none : Filter Unit) := fun _ absent => by cases absent
  have fresh := ascending (by simp [InMemoryEventStore.Unpositioned,InMemoryEventStore.Append.events,storedAt])
  refine ⟨events,logged,agrees none composable,pages.mpr fresh none composable _ ?_⟩
  rw [(agrees none composable).getAll]
  exact rfl

end CqrsDdd.EventStores
