import CqrsDdd.Analytics.Buffer

/-! Rows of the analytics buffer over all runs: what the sink took, what a `push_batch`
has out of the buffer and what is buffered are the rows added, in order, until a
`push_batch` is cancelled. -/
namespace CqrsDdd.Analytics

variable {Call Row : Type} {Value : Type*}

def rowsOf (table : String) (entries : List (String × Value)) : List Value :=
  (entries.filter fun entry => entry.1 = table).map Prod.snd

theorem rowsOf_append (table : String) (first second : List (String × Value)) :
    rowsOf table (first ++ second) = rowsOf table first ++ rowsOf table second := by
  rw [rowsOf,List.filter_append,List.map_append,rowsOf,rowsOf]

theorem rowsOf_singleton (table other : String) (value : Value) :
    rowsOf table [(other,value)] = if other = table then [value] else [] := by
  by_cases same : other = table <;> simp [rowsOf,same]

def Activity.rows (table : String) : Activity Call Row → List Row
  | .pushing push => if push.table = table then push.rows else []
  | .idle | .sleeping | .waiting _ | .joining _ => []

def Activity.calm : Activity Call Row → Bool
  | .idle | .sleeping => true
  | .waiting _ | .pushing _ | .joining _ => false

theorem Activity.after_ne_pushing (running : Bool) (request : Request Row) (outcome : Outcome) (push : Push Row) :
    (.after running request outcome : Activity Call Row) ≠ .pushing push := by
  unfold Activity.after
  split
  next =>
    split
    next => exact fun same => (by cases same)
    next => exact fun same => (by cases same)
  next =>
    split
    next => exact fun same => (by cases same)
    next => exact fun same => (by cases same)
  next => exact fun same => (by cases same)
  next => exact fun same => (by cases same)
  next => exact fun same => (by cases same)

theorem Activity.rows_of_ne_pushing {activity : Activity Call Row} (other : ∀ push, activity ≠ .pushing push)
    (table : String) : activity.rows table = [] := by
  cases activity with
  | pushing push => exact absurd rfl (other push)
  | idle => exact rfl
  | sleeping => exact rfl
  | waiting request => exact rfl
  | joining task => exact rfl

namespace AnalyticsBuffer

def takenRows (buffer : AnalyticsBuffer Call Row) (table : String) : List Row := (rowsOf table buffer.taken).flatten

/-- The rows of a table in the batches taken, and then those buffered. -/
def stored (buffer : AnalyticsBuffer Call Row) (table : String) : List Row := buffer.takenRows table ++ buffer.rows table

def inFlight (buffer : AnalyticsBuffer Call Row) (table : String) : List Row :=
  buffer.lock.elim [] fun call => (buffer.activity call).rows table

def held (buffer : AnalyticsBuffer Call Row) (table : String) : List Row :=
  buffer.takenRows table ++ (buffer.inFlight table ++ buffer.rows table)

def Quiet (buffer : AnalyticsBuffer Call Row) : Prop := ∀ call, (buffer.activity call).calm = true

def Conserved (buffer : AnalyticsBuffer Call Row) : Prop := ∀ table, buffer.stored table = rowsOf table buffer.added

def Whole (buffer : AnalyticsBuffer Call Row) : Prop := ∀ table, buffer.held table = rowsOf table buffer.added

def Inv (buffer : AnalyticsBuffer Call Row) : Prop :=
  ∀ call push, buffer.activity call = .pushing push → buffer.lock = some call ∧ push.rows ≠ []

def Alone (buffer : AnalyticsBuffer Call Row) (call : Call) : Prop :=
  ∀ other push, buffer.activity other = .pushing push → other = call

theorem Inv.alone {buffer : AnalyticsBuffer Call Row} (inv : buffer.Inv) {call : Call}
    (lock : buffer.lock = none ∨ buffer.lock = some call) : buffer.Alone call := by
  intro other push pushing
  obtain ⟨own,_⟩ := inv other push pushing
  rcases lock with free | holds
  · cases free.symm.trans own
  · exact Option.some.inj (own.symm.trans holds)

theorem held_of_free {buffer : AnalyticsBuffer Call Row} (free : buffer.lock = none) (table : String) :
    buffer.held table = buffer.stored table := by
  rw [held,inFlight,free]
  exact rfl

theorem inFlight_of_pushing {buffer : AnalyticsBuffer Call Row} (inv : buffer.Inv) {call : Call} {push : Push Row}
    (pushing : buffer.activity call = .pushing push) (table : String) :
    buffer.inFlight table = if push.table = table then push.rows else [] := by
  rw [inFlight,(inv call push pushing).1,Option.elim_some,pushing]
  exact rfl

theorem Quiet.held {buffer : AnalyticsBuffer Call Row} (quiet : buffer.Quiet) (table : String) :
    buffer.held table = buffer.stored table := by
  have nothing : buffer.inFlight table = [] := by
    unfold inFlight
    cases buffer.lock with
    | none => exact rfl
    | some call =>
      have calm := quiet call
      apply Activity.rows_of_ne_pushing
      intro push pushing
      rw [pushing] at calm
      cases calm
  rw [AnalyticsBuffer.held,nothing,List.nil_append]
  exact rfl

structure Carries (buffer : AnalyticsBuffer Call Row) (added : List (String × Row)) (total : String → List Row) : Prop where
  inv : buffer.Inv
  added : buffer.added = added
  held : ∀ table, buffer.held table = total table

variable [DecidableEq Call]

theorem activity_setActivity (buffer : AnalyticsBuffer Call Row) (call other : Call) (activity : Activity Call Row) :
    (buffer.setActivity call activity).activity other = if other = call then activity else buffer.activity other :=
  Function.update_apply _ _ _ _

theorem setActivity_carries {buffer : AnalyticsBuffer Call Row} (inv : buffer.Inv) {call : Call}
    {activity : Activity Call Row} (before : ∀ push, buffer.activity call ≠ .pushing push)
    (after : ∀ push, activity ≠ .pushing push) :
    (buffer.setActivity call activity).Carries buffer.added buffer.held where
  inv other push pushing := by
    rw [activity_setActivity] at pushing
    split at pushing
    next => exact absurd pushing (after push)
    next => exact inv other push pushing
  added := rfl
  held table := by
    have same : (buffer.setActivity call activity).inFlight table = buffer.inFlight table := by
      change buffer.lock.elim [] (fun other => ((buffer.setActivity call activity).activity other).rows table) = _
      unfold inFlight
      cases buffer.lock with
      | none => exact rfl
      | some other =>
        simp only [Option.elim_some]
        rw [activity_setActivity]
        split
        next own =>
          subst own
          rw [Activity.rows_of_ne_pushing before,Activity.rows_of_ne_pushing after]
        next => exact rfl
    rw [held,same]
    exact rfl

theorem leave_carries {buffer : AnalyticsBuffer Call Row} {call : Call} (alone : buffer.Alone call)
    (request : Request Row) (outcome : Outcome) : (buffer.leave call request outcome).Carries buffer.added buffer.stored where
  inv other push pushing := by
    unfold leave at pushing
    rw [activity_setActivity] at pushing
    split at pushing
    next => exact absurd pushing (Activity.after_ne_pushing _ request outcome push)
    next differs => exact absurd (alone other push pushing) differs
  added := rfl
  held := held_of_free rfl

omit [DecidableEq Call] in
theorem rows_set (buffer : AnalyticsBuffer Call Row) (table other : String) (rows : List Row) :
    ({buffer with buffers := buffer.buffers.set table rows} : AnalyticsBuffer Call Row).rows other =
      if other = table then rows else buffer.rows other := by
  unfold AnalyticsBuffer.rows
  rw [Dict.get_set]
  split
  next => exact rfl
  next => exact rfl

theorem flushTable_carries {buffer : AnalyticsBuffer Call Row} {call : Call} (alone : buffer.Alone call) {table : String}
    (some : buffer.rows table ≠ []) (request : Request Row) (tables : List String) :
    (buffer.flushTable call request table tables).Carries buffer.added buffer.stored where
  inv other push pushing := by
    unfold flushTable at pushing
    rw [activity_setActivity] at pushing
    split at pushing
    next own =>
      cases pushing
      exact ⟨own ▸ rfl,some⟩
    next differs => exact absurd (alone other push pushing) differs
  added := rfl
  held other := by
    have flight : (buffer.flushTable call request table tables).inFlight other =
        if table = other then buffer.rows table else [] := by
      change ((buffer.flushTable call request table tables).activity call).rows other = _
      unfold flushTable
      rw [activity_setActivity,if_pos rfl]
      exact rfl
    rw [held,flight]
    change buffer.takenRows other ++ (_ ++ ((buffer.buffers.erase table).get other).getD []) = _
    by_cases same : table = other
    · subst same
      rw [if_pos rfl,Dict.get_erase_same,Option.getD_none,List.append_nil]
      exact rfl
    · rw [if_neg same,List.nil_append,Dict.get_erase_other _ (Ne.symm same)]
      exact rfl

theorem flushTables_carries {buffer : AnalyticsBuffer Call Row} {call : Call} (alone : buffer.Alone call)
    (periodic : Bool) (tables : List String) :
    (buffer.flushTables call periodic tables).Carries buffer.added buffer.stored := by
  induction tables with
  | nil =>
    have left := @leave_carries _ _ _ {buffer with lastFlush := buffer.monotonic} call alone (.flushAll periodic) .returned
    exact left
  | cons table tables ih =>
    unfold flushTables
    split
    next => exact ih
    next some =>
      apply flushTable_carries alone
      intro none
      exact some (List.isEmpty_iff.mpr none)

omit [DecidableEq Call] in
theorem rows_appendRow (buffer : AnalyticsBuffer Call Row) (table other : String) (row : Row) :
    (buffer.appendRow table row).rows other = if other = table then buffer.rows table ++ [row] else buffer.rows other :=
  rows_set buffer table other _

omit [DecidableEq Call] in
theorem stored_appendRow (buffer : AnalyticsBuffer Call Row) (table other : String) (row : Row) :
    (buffer.appendRow table row).stored other = buffer.stored other ++ rowsOf other [(table,row)] := by
  change buffer.takenRows other ++ (buffer.appendRow table row).rows other =
    buffer.takenRows other ++ buffer.rows other ++ _
  rw [rowsOf_singleton,rows_appendRow]
  by_cases same : table = other
  · subst same
    rw [if_pos rfl,if_pos rfl,List.append_assoc]
  · rw [if_neg (Ne.symm same),if_neg same,List.append_nil]

theorem append_carries (settings : Settings) {buffer : AnalyticsBuffer Call Row} {call : Call} (alone : buffer.Alone call)
    (table : String) (row : Row) : (buffer.append settings call table row).Carries (buffer.added ++ [(table,row)])
      fun other => buffer.stored other ++ rowsOf other [(table,row)] := by
  rw [← funext fun other => buffer.stored_appendRow table other row]
  have apart : (buffer.appendRow table row).Alone call := alone
  unfold append
  dsimp only
  split
  next =>
    apply flushTable_carries apart
    rw [rows_appendRow,if_pos rfl]
    simp
  next => exact leave_carries apart _ _

theorem enter_carries (settings : Settings) {buffer : AnalyticsBuffer Call Row} {call : Call} (alone : buffer.Alone call)
    (request : Request Row) : ∃ new, (buffer.enter settings call request).Carries (buffer.added ++ new)
      fun table => buffer.stored table ++ rowsOf table new := by
  cases request with
  | add table row => exact ⟨[(table,row)],append_carries settings alone table row⟩
  | flushAll periodic =>
    refine ⟨[],?_⟩
    have same : (fun table => buffer.stored table ++ rowsOf table ([] : List (String × Row))) = buffer.stored :=
      funext fun table => List.append_nil _
    rw [same,List.append_nil]
    exact flushTables_carries alone periodic buffer.buffers.keys

omit [DecidableEq Call] in
theorem stored_sinkTakes {buffer : AnalyticsBuffer Call Row} (inv : buffer.Inv) {call : Call} {push : Push Row}
    (pushing : buffer.activity call = .pushing push) (table : String) :
    (buffer.sinkTakes push).stored table = buffer.held table := by
  rw [held,inFlight_of_pushing inv pushing]
  change (rowsOf table (buffer.taken ++ [(push.table,push.rows)])).flatten ++ buffer.rows table = _
  rw [rowsOf_append,rowsOf_singleton,List.flatten_append,List.append_assoc]
  split
  next =>
    rw [List.flatten_singleton]
    exact rfl
  next => exact rfl

omit [DecidableEq Call] in
theorem stored_prepend {buffer : AnalyticsBuffer Call Row} (inv : buffer.Inv) {call : Call} {push : Push Row}
    (pushing : buffer.activity call = .pushing push) (table : String) :
    (buffer.prepend push).stored table = buffer.held table := by
  change buffer.takenRows table ++ (buffer.prepend push).rows table = _
  rw [held,inFlight_of_pushing inv pushing,prepend,rows_set]
  by_cases same : push.table = table
  · subst same
    rw [if_pos rfl,if_pos rfl]
  · rw [if_neg (Ne.symm same),if_neg same,List.nil_append]

theorem pushed_carries {buffer : AnalyticsBuffer Call Row} (inv : buffer.Inv) {call : Call} {push : Push Row}
    (pushing : buffer.activity call = .pushing push) : (buffer.pushed call push).Carries buffer.added buffer.held := by
  have alone : (buffer.sinkTakes push).Alone call := inv.alone (.inr (inv call push pushing).1)
  rw [← funext (stored_sinkTakes inv pushing)]
  unfold pushed
  split
  next => exact leave_carries alone push.request .returned
  next periodic _ => exact flushTables_carries alone periodic push.tables

theorem readd_carries {buffer : AnalyticsBuffer Call Row} (inv : buffer.Inv) {call : Call} {push : Push Row}
    (pushing : buffer.activity call = .pushing push) (exc : String) :
    (buffer.readd call push exc).Carries buffer.added buffer.held := by
  have alone : (buffer.prepend push).Alone call := inv.alone (.inr (inv call push pushing).1)
  rw [← funext (stored_prepend inv pushing)]
  exact leave_carries alone push.request (push.error exc)

omit [DecidableEq Call] in
theorem Inv.carries {buffer : AnalyticsBuffer Call Row} (inv : buffer.Inv) : buffer.Carries buffer.added buffer.held :=
  ⟨inv,rfl,fun _ => rfl⟩

theorem wait_carries {buffer : AnalyticsBuffer Call Row} (inv : buffer.Inv) {call : Call}
    (before : ∀ push, buffer.activity call ≠ .pushing push) (request : Request Row) :
    (buffer.wait call request).Carries buffer.added buffer.held :=
  @setActivity_carries Call Row _ {buffer with waiters := buffer.waiters ++ [call]} inv call _ before
    fun _ same => (by cases same)

omit [DecidableEq Call] in
theorem whenIdle_carries {buffer begun : AnalyticsBuffer Call Row} (inv : buffer.Inv) {call : Call}
    (begins : (∀ push, buffer.activity call ≠ .pushing push) → begun.Carries buffer.added buffer.held) :
    (buffer.whenIdle call begun).Carries buffer.added buffer.held := by
  unfold whenIdle
  split
  next idle =>
    apply begins
    intro push
    rw [idle]
    exact fun same => (by cases same)
  next => exact inv.carries

theorem start_carries {buffer : AnalyticsBuffer Call Row} (inv : buffer.Inv) {task : Call}
    (before : ∀ push, buffer.activity task ≠ .pushing push) : (buffer.start task).Carries buffer.added buffer.held := by
  unfold start
  split
  next => exact inv.carries
  next =>
    exact @setActivity_carries Call Row _
      {buffer with running := true, lastFlush := buffer.monotonic, flushTask := some task} inv task _ before
      fun _ same => (by cases same)

theorem stop_carries {buffer : AnalyticsBuffer Call Row} (inv : buffer.Inv) {call : Call}
    (before : ∀ push, buffer.activity call ≠ .pushing push) : (buffer.stop call).Carries buffer.added buffer.held := by
  unfold stop
  dsimp only
  split
  next task _ =>
    exact @setActivity_carries Call Row _ {buffer with running := false} inv call _ before fun _ same => (by cases same)
  next => exact @wait_carries Call Row _ {buffer with running := false} inv call before _

theorem periodicFlush_carries (settings : Settings) {buffer : AnalyticsBuffer Call Row} (inv : buffer.Inv) {task : Call}
    (before : ∀ push, buffer.activity task ≠ .pushing push) :
    (buffer.periodicFlush settings task).Carries buffer.added buffer.held := by
  unfold periodicFlush
  split
  next => exact wait_carries inv before _
  next =>
    apply setActivity_carries inv before
    intro push
    split
    next => exact fun same => (by cases same)
    next => exact fun same => (by cases same)

theorem cancel_carries {buffer : AnalyticsBuffer Call Row} (inv : buffer.Inv) {call : Call}
    (before : ∀ push, buffer.activity call ≠ .pushing push) : (buffer.cancel call).Carries buffer.added buffer.held := by
  unfold cancel
  split
  next => exact setActivity_carries inv before fun _ same => (by cases same)
  next request _ =>
    exact @setActivity_carries Call Row _
      {buffer with waiters := buffer.waiters.erase call, outcomes := buffer.outcomes ++ [(call,.cancelled)]} inv call _
      before (Activity.after_ne_pushing _ request .cancelled)
  next push pushing => exact absurd pushing (before push)
  next => exact inv.carries
  next => exact inv.carries

def Allowed (buffer : AnalyticsBuffer Call Row) : BufferEvent Call Row → Prop
  | .cancel call => ∀ push, buffer.activity call ≠ .pushing push
  | _ => True

omit [DecidableEq Call] in
theorem Carries.unchanged {buffer after : AnalyticsBuffer Call Row} (carries : after.Carries buffer.added buffer.held) :
    ∃ new, after.Carries (buffer.added ++ new) fun table => buffer.held table ++ rowsOf table new :=
  ⟨[],carries.inv,carries.added.trans (List.append_nil _).symm,fun table =>
    (carries.held table).trans (List.append_nil _).symm⟩

theorem acquire_carries (settings : Settings) {buffer : AnalyticsBuffer Call Row} (inv : buffer.Inv) (call : Call) :
    ∃ new, (buffer.step settings (.acquire call)).Carries (buffer.added ++ new)
      fun table => buffer.held table ++ rowsOf table new := by
  unfold step
  dsimp only
  split
  next request _ =>
    split
    next enters =>
      have alone : ({buffer with waiters := buffer.waiters.tail} : AnalyticsBuffer Call Row).Alone call :=
        inv.alone (.inl enters.1)
      rw [funext (held_of_free enters.1)]
      exact enter_carries settings alone request
    next => exact inv.carries.unchanged
  next => exact inv.carries.unchanged

theorem step_carries (settings : Settings) {buffer : AnalyticsBuffer Call Row} (inv : buffer.Inv)
    {event : BufferEvent Call Row} (allowed : buffer.Allowed event) :
    ∃ new, (buffer.step settings event).Carries (buffer.added ++ new)
      fun table => buffer.held table ++ rowsOf table new := by
  have idle : ∀ {call activity}, buffer.activity call = activity → (∀ push, activity ≠ .pushing push) →
      ∀ push, buffer.activity call ≠ .pushing push := fun same other push => same ▸ other push
  cases event with
  | acquire call => exact acquire_carries settings inv call
  | add call table row => exact (whenIdle_carries inv fun before => wait_carries inv before _).unchanged
  | flushAll call => exact (whenIdle_carries inv fun before => wait_carries inv before _).unchanged
  | start task => exact (whenIdle_carries inv fun before => start_carries inv before).unchanged
  | stop call => exact (whenIdle_carries inv fun before => stop_carries inv before).unchanged
  | wake task =>
    apply Carries.unchanged
    unfold step
    dsimp only
    split
    next same => exact periodicFlush_carries settings inv (idle same fun _ same => (by cases same))
    next => exact inv.carries
  | take call =>
    apply Carries.unchanged
    unfold step
    dsimp only
    split
    next push pushing => exact pushed_carries inv pushing
    next => exact inv.carries
  | raise call exc =>
    apply Carries.unchanged
    unfold step
    dsimp only
    split
    next push pushing => exact readd_carries inv pushing exc
    next => exact inv.carries
  | cancel call => exact (cancel_carries inv allowed).unchanged
  | join call =>
    apply Carries.unchanged
    unfold step
    dsimp only
    split
    next task same =>
      split
      next =>
        exact @wait_carries Call Row _ {buffer with flushTask := none} inv call
          (idle same fun _ same => (by cases same)) _
      next => exact inv.carries
    next => exact inv.carries
  | elapse seconds =>
    apply Carries.unchanged
    exact ⟨inv,rfl,fun _ => rfl⟩

omit [DecidableEq Call] in
theorem length_held (buffer : AnalyticsBuffer Call Row) (table : String) :
    (buffer.held table).length = (buffer.stored table).length+(buffer.inFlight table).length := by
  simp only [held,stored,List.length_append]
  omega

def Bounded (buffer : AnalyticsBuffer Call Row) : Prop :=
  ∀ table, (buffer.held table).length ≤ (rowsOf table buffer.added).length

theorem step_whole (settings : Settings) {buffer : AnalyticsBuffer Call Row} (inv : buffer.Inv) (bounded : buffer.Bounded)
    (event : BufferEvent Call Row) : (buffer.step settings event).Inv ∧ (buffer.step settings event).Bounded ∧
      ((buffer.step settings event).Whole ↔ buffer.Whole ∧ buffer.Allowed event) := by
  by_cases allowed : buffer.Allowed event
  · obtain ⟨new,after,added,held⟩ := step_carries settings inv allowed
    refine ⟨after,fun table => ?_,?_⟩
    · rw [held,added,rowsOf_append,List.length_append,List.length_append]
      exact Nat.add_le_add_right (bounded table) _
    · rw [and_iff_left allowed]
      refine forall_congr' fun table => ?_
      rw [held,added,rowsOf_append]
      exact List.append_left_inj _
  · obtain ⟨call,push,rfl,pushing⟩ : ∃ call push, event = .cancel call ∧ buffer.activity call = .pushing push := by
      cases event with
      | cancel call =>
        obtain ⟨push,pushing⟩ := not_forall.mp allowed
        exact ⟨call,push,rfl,not_not.mp pushing⟩
      | _ => exact absurd trivial allowed
    have left : (buffer.step settings (.cancel call)).Carries buffer.added buffer.stored := by
      change (buffer.cancel call).Carries _ _
      unfold cancel
      rw [pushing]
      exact leave_carries (inv.alone (.inr (inv call push pushing).1)) push.request .cancelled
    refine ⟨left.inv,fun table => ?_,iff_of_false (fun whole => ?_) fun both => allowed both.2⟩
    · rw [left.held,left.added]
      have bound := bounded table
      rw [length_held] at bound
      omega
    · -- The table of the batch is short of its rows, and there was at least one.
      have same := whole push.table
      rw [left.held,left.added] at same
      have bound := bounded push.table
      rw [length_held,← same,inFlight_of_pushing inv pushing,if_pos rfl] at bound
      have rows := List.length_pos_of_ne_nil (inv call push pushing).2
      omega

theorem whole_reached (settings : Settings) (events : List (BufferEvent Call Row)) :
    (reached settings events).Inv ∧ (reached settings events).Bounded ∧
      ((reached settings events).Whole ↔ Transition.Meets (step settings) Allowed initial events) := by
  induction events using List.reverseRecOn with
  | nil =>
    refine ⟨fun call push pushing => (by cases pushing),fun table => ?_,iff_of_true (fun table => ?_) trivial⟩
    · exact Nat.le_refl 0
    · exact rfl
  | append_singleton past event ih =>
    obtain ⟨inv,bounded,whole⟩ := ih
    obtain ⟨after,still,stays⟩ := step_whole settings inv bounded event
    rw [reached,Transition.run_append,Transition.meets_append]
    exact ⟨after,still,stays.trans (and_congr whole (and_iff_left trivial).symm)⟩

/-- At a quiet moment nothing is lost, doubled or out of order exactly when no `push_batch` was cancelled before it. -/
theorem conserved_iff (settings : Settings) (events : List (BufferEvent Call Row)) :
    (∀ earlier, earlier <+: events → (reached settings earlier).Quiet → (reached settings earlier).Conserved) ↔
      ∀ earlier, earlier <+: events → (reached settings earlier).Quiet →
        Transition.Meets (step settings) Allowed initial earlier := by
  refine forall_congr' fun earlier => forall_congr' fun _ => forall_congr' fun quiet => ?_
  rw [← (whole_reached settings earlier).2.2]
  exact forall_congr' fun table => by rw [quiet.held]

/-- A stop cancels a periodic flush in its `push_batch`: the row is neither taken nor buffered afterwards. -/
theorem stop_drops_rows :
    ¬∀ earlier, earlier <+: [.add 0 "orders" 7,.acquire 0,.start 1,.elapse 30,.wake 1,.acquire 1,.stop 2,.cancel 1,
        .join 2,(.acquire 2 : BufferEvent (Fin 3) Nat)] →
      (reached ⟨1000,30⟩ earlier).Quiet → (reached ⟨1000,30⟩ earlier).Conserved := by
  intro conserved
  have short := conserved _ (List.prefix_refl _) (by unfold Quiet; decide) "orders"
  exact absurd short (by decide)

end AnalyticsBuffer

end CqrsDdd.Analytics
