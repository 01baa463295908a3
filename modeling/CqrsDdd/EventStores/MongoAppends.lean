import Mathlib.Logic.Function.Basic
import CqrsDdd.EventStores.Pagination

/-! Concurrent appends to the MongoDB event store and a reader that keeps a
checkpoint. A call first increments the counter for each of its events and later
inserts its documents, so that a position may become visible behind the
checkpoint; the reader misses an event exactly where that happens. -/
namespace CqrsDdd.EventStores.MongoEventStore

open Paging

variable {Object : Type}

/-- A call of `append` or `append_batch`: the events without a position yet, and
the documents that are not inserted yet. -/
structure Writer (Object : Type) where
  unallocated : List (StoredEvent Object)
  allocated : List (StoredEventModel Object)

structure State (Object : Type) where
  counter : Nat
  writers : Nat → Writer Object
  documents : List (StoredEventModel Object)
  checkpoint : Int
  returned : List (StoredEvent Object)

inductive Action
  | write (writer : Nat)
  | read
  deriving DecidableEq, Repr

def initial (calls : List (List (StoredEvent Object))) : State Object :=
  {counter := 0, writers := fun writer => ⟨calls.getD writer [],[]⟩, documents := [], checkpoint := 0, returned := []}

def withPosition (event : StoredEvent Object) (position : Int) : StoredEventModel Object :=
  {toStoredEvent := event.toStoredEvent, position := position, tenantId := event.tenantId}

def duplicateKey (documents : List (StoredEventModel Object)) (document : StoredEventModel Object) : Bool :=
  documents.any fun stored => stored.eventId = document.eventId

/-- The next operation of a call: `_next_position`, or the insert of its next document;
a duplicate key ends the call. -/
def write (state : State Object) (writer : Nat) : State Object :=
  match (state.writers writer).unallocated with
  | event::rest =>
    {state with
      counter := state.counter + 1
      writers := Function.update state.writers writer
        ⟨rest,(state.writers writer).allocated ++ [withPosition event ((state.counter + 1 : Nat) : Int)]⟩}
  | [] =>
    match (state.writers writer).allocated with
    | [] => state
    | document::rest =>
      if duplicateKey state.documents document then
        {state with writers := Function.update state.writers writer ⟨[],[]⟩}
      else
        {state with
          documents := state.documents ++ [document]
          writers := Function.update state.writers writer ⟨[],rest⟩}

def read (limit : Nat) (state : State Object) : State Object :=
  let batch := getEventsAfter state.documents none state.checkpoint limit
  {state with
    returned := state.returned ++ batch
    checkpoint := (batch.getLast?.bind (·.position)).getD state.checkpoint}

def step (limit : Nat) (state : State Object) : Action → State Object
  | .write writer => write state writer
  | .read => read limit state

def inserted (state : State Object) : Action → Option (StoredEventModel Object)
  | .read => none
  | .write writer =>
    match (state.writers writer).unallocated,(state.writers writer).allocated with
    | [],document::_ => if duplicateKey state.documents document then none else some document
    | _,_ => none

/-- An insert lands behind the reader's checkpoint, where the reader still has to come. -/
def InsertsAhead (state : State Object) (action : Action) : Prop :=
  ∀ document ∈ inserted state action, state.checkpoint < document.position

def Drained (limit : Nat) (state : State Object) : Prop :=
  getEventsAfter state.documents none state.checkpoint limit = []

def NoEventSkipped (calls : List (List (StoredEvent Object))) (limit : Nat) (schedule : List Action) : Prop :=
  ∃ reads, let final := Transition.run (step limit) (initial calls) (schedule ++ List.replicate reads .read)
    Drained limit final ∧ ∀ document ∈ final.documents, document.toDataclass ∈ final.returned

def Finished (state : State Object) : Prop := ∀ writer, state.writers writer = ⟨[],[]⟩

theorem write_cases (state : State Object) (writer : Nat) :
    (∃ event rest, (state.writers writer).unallocated = event::rest ∧ inserted state (.write writer) = none ∧
      write state writer = {state with
        counter := state.counter + 1
        writers := Function.update state.writers writer
          ⟨rest,(state.writers writer).allocated ++ [withPosition event ((state.counter + 1 : Nat) : Int)]⟩}) ∨
    (∃ document rest, (state.writers writer).allocated = document::rest ∧
      inserted state (.write writer) = some document ∧
      write state writer = {state with
        documents := state.documents ++ [document]
        writers := Function.update state.writers writer ⟨[],rest⟩}) ∨
    (inserted state (.write writer) = none ∧
      write state writer = {state with writers := Function.update state.writers writer ⟨[],[]⟩}) ∨
    (inserted state (.write writer) = none ∧ write state writer = state) := by
  cases waiting : (state.writers writer).unallocated with
  | cons event rest => exact .inl ⟨event,rest,rfl,by simp [inserted,waiting],by simp [write,waiting]⟩
  | nil =>
    cases ready : (state.writers writer).allocated with
    | nil => exact .inr (.inr (.inr ⟨by simp [inserted,waiting,ready],by simp [write,waiting,ready]⟩))
    | cons document rest =>
      cases twice : duplicateKey state.documents document with
      | true => exact .inr (.inr (.inl ⟨by simp [inserted,waiting,ready,twice],by simp [write,waiting,ready,twice]⟩))
      | false => exact .inr (.inl ⟨document,rest,rfl,by simp [inserted,waiting,ready,twice],
          by simp [write,waiting,ready,twice]⟩)

/-- Positions come from the counter, each is given once, and what the reader holds is stored. -/
structure Sound (state : State Object) : Prop where
  distinct : (state.documents.map (·.position)).Nodup
  stored : ∀ document ∈ state.documents, document.position ≤ state.counter
  allocated : ∀ writer, ∀ document ∈ (state.writers writer).allocated, document.position ≤ state.counter
  own : ∀ writer, ((state.writers writer).allocated.map (·.position)).Nodup
  apart : ∀ writer, ∀ document ∈ (state.writers writer).allocated,
    ∀ other ∈ state.documents, other.position ≠ document.position
  across : ∀ first second, first ≠ second → ∀ document ∈ (state.writers first).allocated,
    ∀ other ∈ (state.writers second).allocated, other.position ≠ document.position
  visible : ∀ event ∈ state.returned, ∃ document ∈ state.documents, document.toDataclass = event

theorem initial_sound (calls : List (List (StoredEvent Object))) : Sound (initial calls) where
  distinct := List.nodup_nil
  stored := fun _ member => absurd member List.not_mem_nil
  allocated := fun _ _ member => absurd member List.not_mem_nil
  own := fun _ => List.nodup_nil
  apart := fun _ _ member => absurd member List.not_mem_nil
  across := fun _ _ _ _ member => absurd member List.not_mem_nil
  visible := fun _ member => absurd member List.not_mem_nil

theorem mem_update_allocated {writers : Nat → Writer Object} {writer other : Nat} {changed : Writer Object}
    {document : StoredEventModel Object}
    (member : document ∈ (Function.update writers writer changed other).allocated) :
    (other = writer ∧ document ∈ changed.allocated) ∨ (other ≠ writer ∧ document ∈ (writers other).allocated) := by
  by_cases same : other = writer
  · subst same
    rw [Function.update_self] at member
    exact .inl ⟨rfl,member⟩
  · rw [Function.update_of_ne same] at member
    exact .inr ⟨same,member⟩

theorem update_own {writers : Nat → Writer Object} {writer : Nat} {changed : Writer Object}
    (own : ∀ other, ((writers other).allocated.map (·.position)).Nodup)
    (kept : (changed.allocated.map (·.position)).Nodup) (other : Nat) :
    ((Function.update writers writer changed other).allocated.map (·.position)).Nodup := by
  by_cases same : other = writer
  · subst same
    rw [Function.update_self]
    exact kept
  · rw [Function.update_of_ne same]
    exact own other

theorem Sound.allocate {state : State Object} (sound : Sound state) (writer : Nat) (event : StoredEvent Object)
    (rest : List (StoredEvent Object)) :
    Sound {state with
      counter := state.counter + 1
      writers := Function.update state.writers writer
        ⟨rest,(state.writers writer).allocated ++ [withPosition event ((state.counter + 1 : Nat) : Int)]⟩} := by
  -- A held document was held before or is the new one, whose position no one else has.
  have held : ∀ other document, document ∈ (Function.update state.writers writer
      ⟨rest,(state.writers writer).allocated ++ [withPosition event ((state.counter + 1 : Nat) : Int)]⟩ other).allocated →
      document ∈ (state.writers other).allocated ∨ (other = writer ∧ document.position = state.counter + 1) := by
    intro other document member
    rcases mem_update_allocated member with ⟨rfl,mine⟩ | ⟨_,theirs⟩
    · rcases List.mem_append.mp mine with old | new
      · exact .inl old
      · rw [List.mem_singleton.mp new]
        exact .inr ⟨rfl,rfl⟩
    · exact .inl theirs
  refine ⟨sound.distinct,fun document member => ?_,fun other document member => ?_,update_own sound.own ?_,
    fun other document member stored present => ?_,fun first second differ document member other present => ?_,
    sound.visible⟩
  · have bound := sound.stored document member
    push_cast
    omega
  · push_cast
    rcases held other document member with old | ⟨_,new⟩
    · have bound := sound.allocated other document old
      omega
    · omega
  · rw [List.map_append,List.map_singleton]
    refine (sound.own writer).append (List.nodup_singleton _) fun position old new => ?_
    obtain ⟨document,member,rfl⟩ := List.mem_map.mp old
    have bound := sound.allocated writer document member
    rw [List.mem_singleton.mp new] at bound
    simp only [withPosition] at bound
    omega
  · rcases held other document member with old | ⟨_,new⟩
    · exact sound.apart other document old stored present
    · have bound := sound.stored stored present
      omega
  · rcases held first document member with old | ⟨rfl,new⟩
    · rcases held second other present with known | ⟨_,fresh⟩
      · exact sound.across first second differ document old other known
      · have bound := sound.allocated first document old
        omega
    · rcases held second other present with known | ⟨rfl,_⟩
      · have bound := sound.allocated second other known
        omega
      · exact absurd rfl differ

theorem Sound.insert {state : State Object} (sound : Sound state) {writer : Nat} {document : StoredEventModel Object}
    {rest : List (StoredEventModel Object)} (ready : (state.writers writer).allocated = document::rest) :
    Sound {state with
      documents := state.documents ++ [document]
      writers := Function.update state.writers writer ⟨[],rest⟩} := by
  have mine : document ∈ (state.writers writer).allocated := by
    rw [ready]
    exact List.mem_cons_self
  have own := sound.own writer
  rw [ready,List.map_cons,List.nodup_cons] at own
  have held : ∀ other held, held ∈ (Function.update state.writers writer ⟨[],rest⟩ other).allocated →
      held ∈ (state.writers other).allocated ∧ document.position ≠ held.position := by
    intro other held member
    rcases mem_update_allocated member with ⟨rfl,kept⟩ | ⟨differ,theirs⟩
    · refine ⟨ready ▸ List.mem_cons_of_mem document kept,fun same => own.1 ?_⟩
      exact List.mem_map.mpr ⟨held,kept,same.symm⟩
    · exact ⟨theirs,sound.across other writer differ held theirs document mine⟩
  refine ⟨?_,fun stored member => ?_,fun other kept member => ?_,update_own sound.own own.2,
    fun other kept member stored present => ?_,fun first second differ kept member other present => ?_,
    fun event member => ?_⟩
  · rw [List.map_append,List.map_singleton]
    refine sound.distinct.append (List.nodup_singleton _) fun position old new => ?_
    obtain ⟨stored,member,rfl⟩ := List.mem_map.mp old
    exact sound.apart writer document mine stored member (List.mem_singleton.mp new)
  · rcases List.mem_append.mp member with old | new
    · exact sound.stored stored old
    · rw [List.mem_singleton.mp new]
      exact sound.allocated writer document mine
  · exact sound.allocated other kept (held other kept member).1
  · obtain ⟨before,differs⟩ := held other kept member
    rcases List.mem_append.mp present with old | new
    · exact sound.apart other kept before stored old
    · rw [List.mem_singleton.mp new]
      exact differs
  · exact sound.across first second differ kept (held first kept member).1 other (held second other present).1
  · obtain ⟨stored,present,same⟩ := sound.visible event member
    exact ⟨stored,List.mem_append_left _ present,same⟩

theorem Sound.abandon {state : State Object} (sound : Sound state) (writer : Nat) :
    Sound {state with writers := Function.update state.writers writer ⟨[],[]⟩} := by
  have held : ∀ other document, document ∈ (Function.update state.writers writer ⟨[],[]⟩ other).allocated →
      document ∈ (state.writers other).allocated := by
    intro other document member
    rcases mem_update_allocated member with ⟨_,none⟩ | ⟨_,theirs⟩
    · exact absurd none List.not_mem_nil
    · exact theirs
  exact ⟨sound.distinct,sound.stored,fun other document member => sound.allocated other document (held _ _ member),
    update_own sound.own List.nodup_nil,fun other document member => sound.apart other document (held _ _ member),
    fun first second differ document member other present =>
      sound.across first second differ document (held _ _ member) other (held _ _ present),sound.visible⟩

theorem write_sound {state : State Object} (sound : Sound state) (writer : Nat) : Sound (write state writer) := by
  rcases write_cases state writer with ⟨event,rest,_,_,result⟩ | ⟨document,rest,ready,_,result⟩ | ⟨_,result⟩ |
    ⟨_,result⟩
  · rw [result]
    exact sound.allocate writer event rest
  · rw [result]
    exact sound.insert ready
  · rw [result]
    exact sound.abandon writer
  · rw [result]
    exact sound

theorem exists_page (documents : List (StoredEventModel Object)) (distinct : (documents.map (·.position)).Nodup)
    (checkpoint : Int) (limit : Nat) : ∃ size, 1 ≤ size ∧ getEventsAfter documents none checkpoint limit =
      (after StoredEvent.place (StoredEventModel.listing documents none) checkpoint).take size := by
  by_cases unlimited : limit = 0
  · subst unlimited
    refine ⟨(after StoredEvent.place (StoredEventModel.listing documents none) checkpoint).length + 1,by omega,?_⟩
    rw [List.take_of_length_le (by omega),← StoredEventModel.select_eq_after distinct]
    simp [getEventsAfter]
  · exact ⟨limit,by omega,serves_listing distinct none checkpoint limit (by omega)⟩

theorem read_cases {state : State Object} (sound : Sound state) (limit : Nat) :
    (after StoredEvent.place (StoredEventModel.listing state.documents none) state.checkpoint = [] ∧
      Drained limit state ∧ read limit state = state) ∨
    ∃ page last, last ∈ page ∧ state.checkpoint < last.place ∧
      after StoredEvent.place (StoredEventModel.listing state.documents none) state.checkpoint =
        page ++ after StoredEvent.place (StoredEventModel.listing state.documents none) last.place ∧
      read limit state = {state with returned := state.returned ++ page, checkpoint := last.place} := by
  obtain ⟨size,nonempty,taken⟩ := exists_page state.documents sound.distinct state.checkpoint limit
  rcases page_cases (StoredEventModel.listing_increasing sound.distinct none)
    (StoredEventModel.listing_positioned state.documents none) nonempty taken with
    ⟨empty,page⟩ | ⟨last,ends,placed,ahead,splits⟩
  · exact .inl ⟨empty,page,by simp [read,page]⟩
  · exact .inr ⟨_,last,List.mem_of_getLast? ends,ahead,splits,by simp [read,ends,placed]⟩

theorem mem_listing_documents {documents : List (StoredEventModel Object)}
    (distinct : (documents.map (·.position)).Nodup) {event : StoredEvent Object} :
    event ∈ StoredEventModel.listing documents none ↔ ∃ document ∈ documents, document.toDataclass = event := by
  rw [(StoredEventModel.listing_lists distinct (StoredEventModel.agrees_none documents)).2 event,List.mem_map]
  simp [satisfied]

theorem read_sound {state : State Object} (sound : Sound state) (limit : Nat) : Sound (read limit state) := by
  rcases read_cases sound limit with ⟨_,_,same⟩ | ⟨page,last,_,_,splits,result⟩
  · rw [same]
    exact sound
  · rw [result]
    refine ⟨sound.distinct,sound.stored,sound.allocated,sound.own,sound.apart,sound.across,fun event member => ?_⟩
    rcases List.mem_append.mp member with old | new
    · exact sound.visible event old
    · have behind : event ∈ after StoredEvent.place (StoredEventModel.listing state.documents none)
          state.checkpoint := by
        rw [splits]
        exact List.mem_append_left _ new
      exact (mem_listing_documents sound.distinct).mp (List.mem_of_mem_filter behind)

theorem step_sound {limit : Nat} {state : State Object} (sound : Sound state) (action : Action) :
    Sound (step limit state action) := by
  cases action with
  | write writer => exact write_sound sound writer
  | read => exact read_sound sound limit

/-- Everything stored up to the checkpoint has been returned. -/
def Caught (state : State Object) : Prop :=
  ∀ document ∈ state.documents, document.position ≤ state.checkpoint → document.toDataclass ∈ state.returned

def Missed (document : StoredEventModel Object) (state : State Object) : Prop :=
  document ∈ state.documents ∧ document.position ≤ state.checkpoint ∧ document.toDataclass ∉ state.returned

theorem write_caught {state : State Object} (caught : Caught state) {writer : Nat}
    (ahead : InsertsAhead state (.write writer)) : Caught (write state writer) := by
  rcases write_cases state writer with ⟨_,_,_,_,result⟩ | ⟨document,_,_,inserts,result⟩ | ⟨_,result⟩ | ⟨_,result⟩
  · rw [result]
    exact caught
  · rw [result]
    intro stored member passed
    rcases List.mem_append.mp member with old | new
    · exact caught stored old passed
    · have behind := ahead document inserts
      rw [List.mem_singleton.mp new] at passed
      exact absurd passed (by simpa using behind)
  · rw [result]
    exact caught
  · rw [result]
    exact caught

theorem read_caught {state : State Object} (sound : Sound state) (caught : Caught state) (limit : Nat) :
    Caught (read limit state) := by
  rcases read_cases sound limit with ⟨_,_,same⟩ | ⟨page,last,_,_,splits,result⟩
  · rw [same]
    exact caught
  · rw [result]
    intro document member passed
    by_cases before : document.position ≤ state.checkpoint
    · exact List.mem_append_left _ (caught document member before)
    · -- The document lies behind the old checkpoint and not behind the new one, so it is on the page.
      have behind : document.toDataclass ∈ after StoredEvent.place (StoredEventModel.listing state.documents none)
          state.checkpoint := by
        refine mem_after.mpr ⟨(mem_listing_documents sound.distinct).mpr ⟨document,member,rfl⟩,?_⟩
        rw [StoredEventModel.toDataclass_place]
        omega
      rw [splits] at behind
      rcases List.mem_append.mp behind with there | later
      · exact List.mem_append_right _ there
      · exact absurd passed (not_le.mpr (mem_after.mp later).2)

theorem step_caught {limit : Nat} {state : State Object} (sound : Sound state) (caught : Caught state)
    {action : Action} (ahead : InsertsAhead state action) : Caught (step limit state action) := by
  cases action with
  | write writer => exact write_caught caught ahead
  | read => exact read_caught sound caught limit

theorem step_missed {limit : Nat} {state : State Object} (sound : Sound state) {document : StoredEventModel Object}
    (missed : Missed document state) (action : Action) : Missed document (step limit state action) := by
  obtain ⟨stored,passed,unseen⟩ := missed
  cases action with
  | write writer =>
    show Missed document (write state writer)
    rcases write_cases state writer with ⟨_,_,_,_,result⟩ | ⟨_,_,_,_,result⟩ | ⟨_,result⟩ | ⟨_,result⟩
    · rw [result]
      exact ⟨stored,passed,unseen⟩
    · rw [result]
      exact ⟨List.mem_append_left _ stored,passed,unseen⟩
    · rw [result]
      exact ⟨stored,passed,unseen⟩
    · rw [result]
      exact ⟨stored,passed,unseen⟩
  | read =>
    show Missed document (read limit state)
    rcases read_cases sound limit with ⟨_,_,same⟩ | ⟨page,last,_,ahead,splits,result⟩
    · rw [same]
      exact ⟨stored,passed,unseen⟩
    · rw [result]
      refine ⟨stored,passed.trans ahead.le,fun seen => ?_⟩
      rcases List.mem_append.mp seen with old | new
      · exact unseen old
      · have behind : document.toDataclass ∈ after StoredEvent.place
            (StoredEventModel.listing state.documents none) state.checkpoint := by
          rw [splits]
          exact List.mem_append_left _ new
        exact absurd passed (not_le.mpr (mem_after.mp behind).2)

theorem missed_of_insert_behind {state : State Object} (sound : Sound state) {limit : Nat} {action : Action}
    {document : StoredEventModel Object} (inserts : inserted state action = some document)
    (behind : document.position ≤ state.checkpoint) : Missed document (step limit state action) := by
  cases action with
  | read => cases inserts
  | write writer =>
    show Missed document (write state writer)
    rcases write_cases state writer with ⟨_,_,_,none,_⟩ | ⟨other,rest,ready,some,result⟩ | ⟨none,_⟩ | ⟨none,_⟩
    · exact absurd (none.symm.trans inserts) (by simp)
    · obtain rfl : other = document := Option.some.inj (some.symm.trans inserts)
      rw [result]
      refine ⟨List.mem_append_right _ (List.mem_singleton.mpr rfl),behind,fun seen => ?_⟩
      obtain ⟨stored,present,same⟩ := sound.visible other.toDataclass seen
      have mine : other ∈ (state.writers writer).allocated := by
        rw [ready]
        exact List.mem_cons_self
      exact sound.apart writer other mine stored present (congrArg StoredEvent.place same)
    · exact absurd (none.symm.trans inserts) (by simp)
    · exact absurd (none.symm.trans inserts) (by simp)

theorem meets_reads (limit : Nat) (state : State Object) (reads : Nat) :
    Transition.Meets (step limit) InsertsAhead state (List.replicate reads .read) := by
  induction reads generalizing state with
  | zero => trivial
  | succ reads ih => exact ⟨fun _ none => by simp [inserted] at none,ih (read limit state)⟩

theorem exists_drained (limit : Nat) {state : State Object} (sound : Sound state) :
    ∃ reads, Drained limit (Transition.run (step limit) state (List.replicate reads .read)) := by
  induction left : (after StoredEvent.place (StoredEventModel.listing state.documents none) state.checkpoint).length
    using Nat.strongRecOn generalizing state with
  | ind size ih =>
    rcases read_cases sound limit with ⟨_,drained,_⟩ | ⟨page,last,member,_,splits,result⟩
    · exact ⟨0,drained⟩
    · have fewer : (after StoredEvent.place (StoredEventModel.listing (read limit state).documents none)
          (read limit state).checkpoint).length < size := by
        rw [result,← left,splits,List.length_append]
        exact Nat.lt_add_of_pos_left (List.length_pos_of_mem member)
      obtain ⟨reads,drained⟩ := ih _ fewer (read_sound sound limit) rfl
      exact ⟨reads + 1,drained⟩

theorem returned_of_drained {limit : Nat} {state : State Object} (sound : Sound state) (caught : Caught state)
    (drained : Drained limit state) {document : StoredEventModel Object} (stored : document ∈ state.documents) :
    document.toDataclass ∈ state.returned := by
  rcases read_cases sound limit with ⟨empty,_,_⟩ | ⟨page,last,member,_,_,result⟩
  · refine caught document stored ?_
    by_contra behind
    have listed := (mem_listing_documents sound.distinct).mpr ⟨document,stored,rfl⟩
    have there : document.toDataclass ∈ after StoredEvent.place (StoredEventModel.listing state.documents none)
        state.checkpoint := mem_after.mpr ⟨listed,not_le.mp behind⟩
    rw [empty] at there
    exact List.not_mem_nil there
  · have more := congrArg State.returned result
    rw [Drained] at drained
    simp only [read,drained,List.append_nil] at more
    rw [List.self_eq_append_right.mp more] at member
    exact absurd member List.not_mem_nil

theorem meets_of_all_returned {limit : Nat} {state : State Object} (sound : Sound state) {schedule : List Action}
    {reads : List Action}
    (all : ∀ document ∈ (Transition.run (step limit) state (schedule ++ reads)).documents,
      document.toDataclass ∈ (Transition.run (step limit) state (schedule ++ reads)).returned) :
    Transition.Meets (step limit) InsertsAhead state schedule := by
  induction schedule generalizing state with
  | nil => trivial
  | cons action rest ih =>
    refine ⟨fun document inserts => ?_,ih (step_sound sound action) all⟩
    by_contra behind
    have missed : Missed document (step limit state action) :=
      missed_of_insert_behind sound (Option.mem_def.mp inserts) (by omega)
    have final := @Transition.run_invariant _ _ (step limit) (fun _ _ => True)
      (fun state => Sound state ∧ Missed document state)
      (fun _ action kept _ => ⟨step_sound kept.1 action,step_missed kept.1 kept.2 action⟩)
      (step limit state action) (rest ++ reads) ⟨step_sound sound action,missed⟩
      (Transition.meets_of_forall _ _ (fun _ _ => trivial) _ _)
    exact final.2.2.2 (all document final.2.1)

theorem run_sound_caught {limit : Nat} {state : State Object} {schedule : List Action} (sound : Sound state)
    (caught : Caught state) (meets : Transition.Meets (step limit) InsertsAhead state schedule) :
    Sound (Transition.run (step limit) state schedule) ∧ Caught (Transition.run (step limit) state schedule) :=
  Transition.run_invariant (fun state => Sound state ∧ Caught state)
    (fun _ action kept ahead => ⟨step_sound kept.1 action,step_caught kept.1 kept.2 ahead⟩) state schedule
    ⟨sound,caught⟩ meets

theorem no_event_skipped_iff_inserts_ahead (calls : List (List (StoredEvent Object))) (limit : Nat)
    (schedule : List Action) :
    NoEventSkipped calls limit schedule ↔
      Transition.Meets (step limit) InsertsAhead (initial calls) schedule := by
  have start := initial_sound calls
  constructor
  · rintro ⟨reads,_,all⟩
    exact meets_of_all_returned start all
  · intro meets
    obtain ⟨sound,caught⟩ := run_sound_caught start (fun _ member => absurd member List.not_mem_nil) meets
    obtain ⟨reads,drained⟩ := exists_drained limit sound
    obtain ⟨finalSound,finalCaught⟩ := run_sound_caught sound caught (meets_reads limit _ reads)
    rw [NoEventSkipped]
    refine ⟨reads,?_⟩
    rw [Transition.run_append]
    exact ⟨drained,fun document stored => returned_of_drained finalSound finalCaught drained stored⟩

/-- The first call has the position 1 and inserts it after the reader has seen the position 2. -/
theorem event_inserted_behind_the_checkpoint_is_skipped :
    Finished (Transition.run (step 10) (initial [[⟨plainEvent "x",none,none⟩],[⟨plainEvent "y",none,none⟩]])
      [.write 0,.write 1,.write 1,.read,.write 0]) ∧
    ¬ NoEventSkipped [[⟨plainEvent "x",none,none⟩],[⟨plainEvent "y",none,none⟩]] 10
      [.write 0,.write 1,.write 1,.read,.write 0] := by
  constructor
  · intro writer
    rcases writer with _ | _ | writer
    · rfl
    · rfl
    · rfl
  · rintro ⟨reads,_,all⟩
    have meets := meets_of_all_returned (initial_sound _) all
    obtain ⟨_,_,_,_,ahead,_⟩ := meets
    exact absurd (ahead (withPosition ⟨plainEvent "x",none,none⟩ 1) rfl) (by decide)

end CqrsDdd.EventStores.MongoEventStore
