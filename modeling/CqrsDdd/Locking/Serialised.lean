import CqrsDdd.Locking.CriticalSection
import CqrsDdd.Transition
import Mathlib.Logic.Function.Basic

/-! Guarded commands side by side. The unit of work of `Mediator.send` encloses the
guard, so the locks are given back before the commit publishes the writes; the
commands are serial only while nobody takes a lock in between. -/
namespace CqrsDdd.Locking

variable {Id Value : Type} [DecidableEq Id]

abbrev ResourceKey := String ×ₗ String

inductive Program (Value : Type)
  | done
  | fail
  | read (key : ResourceKey) (next : Value → Program Value)
  | write (key : ResourceKey) (value : Value) (next : Program Value)

namespace Program

def Within (keys : List ResourceKey) : Program Value → Prop
  | .done | .fail => True
  | .read key next => key ∈ keys ∧ ∀ value, (next value).Within keys
  | .write key _ next => key ∈ keys ∧ next.Within keys

end Program

/-- A command reads and writes the resources it declares, and no others. -/
structure GuardedCommand (Value : Type) where
  resources : List ResourceIdentifier
  program : Program Value
  within : program.Within (resources.map ResourceIdentifier.key)

namespace GuardedCommand

def requested (command : GuardedCommand Value) : List ResourceIdentifier := CriticalSection.requested command.resources

def keys (command : GuardedCommand Value) : List ResourceKey := command.requested.map ResourceIdentifier.key

end GuardedCommand

abbrev Store (Value : Type) := ResourceKey → Value

abbrev Writes (Value : Type) := List (ResourceKey × Value)

/-- A unit of work reads its own writes, and committed data otherwise; at commit its writes are published. -/
def publish (store : Store Value) (writes : Writes Value) : Store Value := fun key => (writes.lookup key).getD (store key)

/-- The handler alone over a store: the writes it ends with, or none where it raises. -/
def exec (store : Store Value) : Writes Value → Program Value → Option (Writes Value)
  | writes, .done => some writes
  | _, .fail => none
  | writes, .read key next => exec store writes (next (publish store writes key))
  | writes, .write key value next => exec store ((key,value)::writes) next

theorem Program.Within.mono {keys others : List ResourceKey} (subset : ∀ key ∈ keys, key ∈ others)
    {program : Program Value} (within : program.Within keys) : program.Within others := by
  induction program with
  | done | fail => trivial
  | read key next ih => exact ⟨subset key within.1,fun value => ih value (within.2 value)⟩
  | write key value next ih => exact ⟨subset key within.1,ih within.2⟩

theorem GuardedCommand.within_keys (command : GuardedCommand Value) : command.program.Within command.keys := by
  refine command.within.mono fun key member => ?_
  obtain ⟨resource,declared,rfl⟩ := List.mem_map.mp member
  obtain ⟨asked,inside,same⟩ := CriticalSection.requested_complete declared
  exact List.mem_map.mpr ⟨asked,inside,same⟩

theorem GuardedCommand.keys_nodup (command : GuardedCommand Value) : command.keys.Nodup := by
  rw [keys,List.nodup_iff_pairwise_ne,List.pairwise_map]
  exact (CriticalSection.requested_sorted command.resources).imp fun smaller => ne_of_lt smaller

theorem exec_congr {keys : List ResourceKey} {store other : Store Value} (same : ∀ key ∈ keys, store key = other key)
    {program : Program Value} (within : program.Within keys) (writes : Writes Value) :
    exec store writes program = exec other writes program := by
  induction program generalizing writes with
  | done | fail => rfl
  | read key next ih =>
    have seen : publish store writes key = publish other writes key := by simp [publish,same key within.1]
    simp only [exec,seen]
    exact ih _ (within.2 _) writes
  | write key value next ih => exact ih within.2 _

theorem publish_untouched {store : Store Value} {writes : Writes Value} {key : ResourceKey}
    (untouched : ∀ entry ∈ writes, entry.1 ≠ key) : publish store writes key = store key := by
  have absent : writes.lookup key = none := by
    rw [List.lookup_eq_none_iff]
    exact fun entry member => by simpa using (untouched entry member).symm
  rw [publish,absent]
  rfl

def serial (commands : Id → GuardedCommand Value) (store : Store Value) (order : List Id) : Store Value :=
  order.foldl (fun store id => ((exec store [] (commands id).program).map (publish store)).getD store) store

omit [DecidableEq Id] in
theorem serial_append_one (commands : Id → GuardedCommand Value) (store : Store Value) (order : List Id) (id : Id) :
    serial commands store (order ++ [id]) =
      ((exec (serial commands store order) [] (commands id).program).map (publish (serial commands store order))).getD
        (serial commands store order) := by
  simp only [serial,List.foldl_append,List.foldl_cons,List.foldl_nil]

/-- Where a command is in `send`: entering its critical section, in its handler, leaving
the section, or at the exit of its unit of work; `none` as result is an exception. -/
inductive CommandPhase (Value : Type)
  | acquiring (held wanted : List ResourceIdentifier)
  | running (program : Program Value) (writes : Writes Value)
  | releasing (locks : List ResourceIdentifier) (result : Option (Writes Value))
  | exiting (result : Option (Writes Value))
  | closed

/-- `refuse` is an acquisition that fails; `finish` ends the unit of work, with a commit that succeeds or not. -/
inductive CommandAction (Id : Type)
  | acquire (id : Id)
  | refuse (id : Id)
  | act (id : Id)
  | release (id : Id)
  | finish (id : Id) (commits : Bool)

structure Traffic (Id Value : Type) where
  store : Store Value
  holder : ResourceKey → Option Id
  phase : Id → CommandPhase Value
  committed : List Id

namespace Traffic

/-- Once nothing is wanted any more the handler runs. -/
def enterBody (command : GuardedCommand Value) (held wanted : List ResourceIdentifier) : CommandPhase Value :=
  if wanted.isEmpty then .running command.program [] else .acquiring held wanted

def leave (locks : List ResourceIdentifier) (result : Option (Writes Value)) : CommandPhase Value :=
  if locks.isEmpty then .exiting result else .releasing locks result

def start (commands : Id → GuardedCommand Value) (store : Store Value) : Traffic Id Value :=
  ⟨store,fun _ => none,fun id => enterBody (commands id) [] (commands id).requested,[]⟩

def setPhase (traffic : Traffic Id Value) (id : Id) (phase : CommandPhase Value) : Traffic Id Value :=
  {traffic with phase := Function.update traffic.phase id phase}

def runHandler (command : GuardedCommand Value) (store : Store Value) (writes : Writes Value) :
    Program Value → CommandPhase Value
  | .done => leave command.requested.reverse (some writes)
  | .fail => leave command.requested.reverse none
  | .read key next => .running (next (publish store writes key)) writes
  | .write key value next => .running next ((key,value)::writes)

def step (commands : Id → GuardedCommand Value) (traffic : Traffic Id Value) : CommandAction Id → Traffic Id Value
  | .acquire id =>
    match traffic.phase id with
    | .acquiring held (resource::rest) =>
      if traffic.holder resource.key = none then
        {traffic.setPhase id (enterBody (commands id) (held ++ [resource]) rest) with
          holder := Function.update traffic.holder resource.key (some id)}
      else traffic
    | _ => traffic
  | .refuse id =>
    match traffic.phase id with
    | .acquiring held (_::_) => traffic.setPhase id (leave held.reverse none)
    | _ => traffic
  | .act id =>
    match traffic.phase id with
    | .running program writes => traffic.setPhase id (runHandler (commands id) traffic.store writes program)
    | _ => traffic
  | .release id =>
    match traffic.phase id with
    | .releasing (resource::rest) result =>
      {traffic.setPhase id (leave rest result) with
        holder := Function.update traffic.holder resource.key none}
    | _ => traffic
  | .finish id commits =>
    match traffic.phase id with
    | .exiting (some writes) =>
      if commits then
        {traffic.setPhase id .closed with
          store := publish traffic.store writes
          committed := traffic.committed ++ [id]}
      else traffic.setPhase id .closed
    | .exiting none => traffic.setPhase id .closed
    | _ => traffic

def Pending (command : GuardedCommand Value) (phase : CommandPhase Value) (key : ResourceKey) : Prop :=
  match phase with
  | .releasing _ (some _) | .exiting (some _) => key ∈ command.keys
  | _ => False

/-- No lock is taken on a resource of a command that has left its handler and is still to commit. -/
def Covered (commands : Id → GuardedCommand Value) (traffic : Traffic Id Value) : CommandAction Id → Prop
  | .acquire id => ∀ held resource rest, traffic.phase id = .acquiring held (resource::rest) →
      ∀ other, ¬ Pending (commands other) (traffic.phase other) resource.key
  | .refuse _ | .act _ | .release _ | .finish _ _ => True

def uncommitted : CommandPhase Value → Writes Value
  | .running _ writes | .releasing _ (some writes) | .exiting (some writes) => writes
  | _ => []

def Holds (command : GuardedCommand Value) (phase : CommandPhase Value) (key : ResourceKey) : Prop :=
  match phase with
  | .acquiring held _ => key ∈ held.map ResourceIdentifier.key
  | .running _ _ => key ∈ command.keys
  | .releasing locks _ => key ∈ locks.map ResourceIdentifier.key
  | .exiting _ | .closed => False

def Claims (command : GuardedCommand Value) (phase : CommandPhase Value) (key : ResourceKey) : Prop :=
  Holds command phase key ∨ Pending command phase key

def Sound (command : GuardedCommand Value) (store : Store Value) : CommandPhase Value → Prop
  | .running program writes => exec store writes program = exec store [] command.program ∧
      program.Within command.keys ∧ ∀ entry ∈ writes, entry.1 ∈ command.keys
  | .releasing _ (some writes) | .exiting (some writes) =>
    exec store [] command.program = some writes ∧ ∀ entry ∈ writes, entry.1 ∈ command.keys
  | _ => True

def Shaped (command : GuardedCommand Value) : CommandPhase Value → Prop
  | .acquiring held wanted => held ++ wanted = command.requested
  | .releasing locks _ => (locks.map ResourceIdentifier.key).Nodup
  | _ => True

structure Serial (commands : Id → GuardedCommand Value) (initial : Store Value) (traffic : Traffic Id Value) : Prop where
  held : ∀ id key, Holds (commands id) (traffic.phase id) key → traffic.holder key = some id
  apart : ∀ id other key, Claims (commands id) (traffic.phase id) key →
    Claims (commands other) (traffic.phase other) key → id = other
  shaped : ∀ id, Shaped (commands id) (traffic.phase id)
  sound : ∀ id, Sound (commands id) traffic.store (traffic.phase id)
  store : traffic.store = serial commands initial traffic.committed
  closed : ∀ id ∈ traffic.committed, traffic.phase id = .closed
  once : traffic.committed.Nodup

theorem Serial.move {commands : Id → GuardedCommand Value} {initial : Store Value} {traffic after : Traffic Id Value}
    (before : Serial commands initial traffic) {id : Id} {phase : CommandPhase Value} (running : traffic.phase id ≠ .closed)
    (moved : after.phase = Function.update traffic.phase id phase) (store : after.store = traffic.store)
    (committed : after.committed = traffic.committed)
    (own : ∀ key, Holds (commands id) phase key → after.holder key = some id)
    (others : ∀ other key, other ≠ id → Holds (commands other) (traffic.phase other) key → after.holder key = some other)
    (apart : ∀ other key, other ≠ id → Claims (commands id) phase key →
      ¬ Claims (commands other) (traffic.phase other) key)
    (shaped : Shaped (commands id) phase) (sound : Sound (commands id) traffic.store phase) :
    Serial commands initial after := by
  have self : after.phase id = phase := by rw [moved,Function.update_self]
  have rest {other : Id} (differs : other ≠ id) : after.phase other = traffic.phase other := by
    rw [moved,Function.update_of_ne differs]
  refine ⟨fun other key holds => ?_,fun first second key claims also => ?_,fun other => ?_,fun other => ?_,?_,
    fun other member => ?_,by rw [committed]; exact before.once⟩
  · by_cases same : other = id
    · subst same
      exact own key (self ▸ holds)
    · exact others other key same (rest same ▸ holds)
  · by_cases one : first = id
    · by_cases two : second = id
      · rw [one,two]
      · subst one
        exact absurd (rest two ▸ also) (apart second key two (self ▸ claims))
    · by_cases two : second = id
      · subst two
        exact absurd (rest one ▸ claims) (apart first key one (self ▸ also))
      · exact before.apart first second key (rest one ▸ claims) (rest two ▸ also)
  · by_cases same : other = id
    · subst same
      exact self ▸ shaped
    · exact rest same ▸ before.shaped other
  · rw [store]
    by_cases same : other = id
    · subst same
      exact self ▸ sound
    · exact rest same ▸ before.sound other
  · rw [store,committed]
    exact before.store
  · rw [committed] at member
    have finished := before.closed other member
    have differs : other ≠ id := by
      rintro rfl
      exact running finished
    rw [rest differs]
    exact finished

theorem Serial.narrow {commands : Id → GuardedCommand Value} {initial : Store Value} {traffic : Traffic Id Value}
    (before : Serial commands initial traffic) {id : Id} {phase : CommandPhase Value} (running : traffic.phase id ≠ .closed)
    (holds : ∀ key, Holds (commands id) phase key → Holds (commands id) (traffic.phase id) key)
    (pending : ∀ key, Pending (commands id) phase key → Claims (commands id) (traffic.phase id) key)
    (shaped : Shaped (commands id) phase) (sound : Sound (commands id) traffic.store phase) :
    Serial commands initial (traffic.setPhase id phase) := by
  refine before.move running rfl rfl rfl (fun key now => before.held id key (holds key now))
    (fun other key _ now => before.held other key now) (fun other key differs claims also => ?_) shaped sound
  have mine : Claims (commands id) (traffic.phase id) key := claims.elim (fun now => .inl (holds key now)) (pending key)
  exact differs (before.apart other id key also mine)

theorem leave_holds {command : GuardedCommand Value} {locks : List ResourceIdentifier} {result : Option (Writes Value)}
    {key : ResourceKey} (holds : Holds command (leave locks result) key) : key ∈ locks.map ResourceIdentifier.key := by
  unfold leave at holds
  split at holds
  next => exact holds.elim
  next => exact holds

theorem leave_pending {command : GuardedCommand Value} {locks : List ResourceIdentifier}
    {result : Option (Writes Value)} {key : ResourceKey} :
    Pending command (leave locks result) key ↔ result.isSome ∧ key ∈ command.keys := by
  unfold leave
  split <;> cases result <;> simp [Pending]

theorem leave_shaped {command : GuardedCommand Value} {locks : List ResourceIdentifier}
    {result : Option (Writes Value)} (nodup : (locks.map ResourceIdentifier.key).Nodup) :
    Shaped command (leave locks result) := by
  unfold leave
  split
  next => trivial
  next => exact nodup

theorem leave_sound {command : GuardedCommand Value} {store : Store Value} {locks : List ResourceIdentifier}
    {result : Option (Writes Value)} (sound : ∀ writes, result = some writes →
      exec store [] command.program = some writes ∧ ∀ entry ∈ writes, entry.1 ∈ command.keys) :
    Sound command store (leave locks result) := by
  unfold leave
  split
  next =>
    cases result with
    | none => trivial
    | some writes => exact sound writes rfl
  next =>
    cases result with
    | none => trivial
    | some writes => exact sound writes rfl

theorem Serial.acquire {commands : Id → GuardedCommand Value} {initial : Store Value} {traffic : Traffic Id Value}
    (before : Serial commands initial traffic) (id : Id) (covered : Covered commands traffic (.acquire id)) :
    Serial commands initial (traffic.step commands (.acquire id)) := by
  cases now : traffic.phase id with
  | running program writes | releasing locks result | exiting result | closed => simpa [step,now] using before
  | acquiring held wanted =>
    cases wanted with
    | nil => simpa [step,now] using before
    | cons resource rest =>
      simp only [step,now]
      split
      next free =>
        have whole : held ++ resource::rest = (commands id).requested := by simpa [Shaped,now] using before.shaped id
        have holds (key : ResourceKey) (holds : Holds (commands id) (enterBody (commands id) (held ++ [resource]) rest) key) :
            key ∈ held.map ResourceIdentifier.key ∨ key = resource.key := by
          have member : key ∈ (held ++ [resource]).map ResourceIdentifier.key := by
            unfold enterBody at holds
            split at holds
            next last =>
              rw [List.isEmpty_iff.mp last] at whole
              simpa [Holds,GuardedCommand.keys,← whole] using holds
            next => exact holds
          simpa using member
        have unpending (key : ResourceKey) :
            ¬ Pending (commands id) (enterBody (commands id) (held ++ [resource]) rest) key := by
          unfold enterBody
          split <;> simp [Pending]
        refine before.move (by simp [now]) rfl rfl rfl (fun key claims => ?_) (fun other key differs claims => ?_)
          (fun other key differs claims also => ?_) ?_ ?_
        · change Function.update traffic.holder resource.key (some id) key = some id
          rw [Function.update_apply]
          split
          next => rfl
          next differs => exact before.held id key (by simpa [Holds,now] using (holds key claims).resolve_right differs)
        · have old := before.held other key claims
          have elsewhere : key ≠ resource.key := by
            rintro rfl
            rw [free] at old
            cases old
          exact (Function.update_of_ne elsewhere _ _).trans old
        · rcases holds key (claims.resolve_right (unpending key)) with inside | rfl
          · have mine : Claims (commands id) (traffic.phase id) key := .inl (by simpa [Holds,now] using inside)
            exact differs (before.apart other id key also mine)
          · rcases also with locked | waiting
            · have old := before.held other _ locked
              rw [free] at old
              cases old
            · exact covered held resource rest now other waiting
        · unfold enterBody
          split
          next => trivial
          next => simpa [Shaped] using whole
        · unfold enterBody
          split
          next => exact ⟨rfl,(commands id).within_keys,by simp⟩
          next => trivial
      next => exact before

theorem Serial.refuse {commands : Id → GuardedCommand Value} {initial : Store Value} {traffic : Traffic Id Value}
    (before : Serial commands initial traffic) (id : Id) : Serial commands initial (traffic.step commands (.refuse id)) := by
  cases now : traffic.phase id with
  | running program writes | releasing locks result | exiting result | closed => simpa [step,now] using before
  | acquiring held wanted =>
    cases wanted with
    | nil => simpa [step,now] using before
    | cons resource rest =>
      have whole : held ++ resource::rest = (commands id).requested := by simpa [Shaped,now] using before.shaped id
      have nodup : (held.map ResourceIdentifier.key).Nodup := by
        have all := (commands id).keys_nodup
        rw [GuardedCommand.keys,← whole,List.map_append] at all
        exact all.of_append_left
      simp only [step,now]
      refine before.narrow (by simp [now]) (fun key holds => ?_) (fun key pending => ?_) (leave_shaped ?_)
        (leave_sound fun writes none => by cases none)
      · simpa [Holds,now] using leave_holds holds
      · simpa using (leave_pending.mp pending).1
      · rw [List.map_reverse]
        exact List.nodup_reverse.mpr nodup

theorem Serial.act {commands : Id → GuardedCommand Value} {initial : Store Value} {traffic : Traffic Id Value}
    (before : Serial commands initial traffic) (id : Id) : Serial commands initial (traffic.step commands (.act id)) := by
  cases now : traffic.phase id with
  | acquiring held wanted | releasing locks result | exiting result | closed => simpa [step,now] using before
  | running program writes =>
    have sound := before.sound id
    rw [now] at sound
    obtain ⟨same,within,own⟩ := sound
    have keys {key : ResourceKey} (member : key ∈ (commands id).keys) : Holds (commands id) (traffic.phase id) key := by
      rw [now]
      exact member
    have leaves {result : Option (Writes Value)} (sound : ∀ final, result = some final →
        exec traffic.store [] (commands id).program = some final ∧ ∀ entry ∈ final, entry.1 ∈ (commands id).keys) :
        Serial commands initial (traffic.setPhase id (leave (commands id).requested.reverse result)) := by
      refine before.narrow (by simp [now]) (fun key holds => keys ?_) (fun key pending => .inl (keys ?_))
        (leave_shaped ?_) (leave_sound sound)
      · simpa [GuardedCommand.keys] using leave_holds holds
      · exact (leave_pending.mp pending).2
      · rw [List.map_reverse]
        exact List.nodup_reverse.mpr (commands id).keys_nodup
    simp only [step,now]
    cases program with
    | done =>
      refine leaves fun final ended => ?_
      obtain rfl := Option.some.inj ended
      exact ⟨same.symm,own⟩
    | fail => exact leaves fun final ended => by cases ended
    | read key next =>
      exact before.narrow (by simp [now]) (fun key holds => keys holds) (fun key pending => pending.elim) trivial
        ⟨same,within.2 _,own⟩
    | write key value next =>
      refine before.narrow (by simp [now]) (fun key holds => keys holds) (fun key pending => pending.elim) trivial
        ⟨same,within.2,fun entry member => ?_⟩
      rcases List.mem_cons.mp member with rfl | old
      · exact within.1
      · exact own entry old

theorem Serial.release {commands : Id → GuardedCommand Value} {initial : Store Value} {traffic : Traffic Id Value}
    (before : Serial commands initial traffic) (id : Id) : Serial commands initial (traffic.step commands (.release id)) := by
  cases now : traffic.phase id with
  | acquiring held wanted | running program writes | exiting result | closed => simpa [step,now] using before
  | releasing locks result =>
    cases locks with
    | nil => simpa [step,now] using before
    | cons resource rest =>
      have shaped := before.shaped id
      rw [now] at shaped
      obtain ⟨fresh,nodup⟩ := List.nodup_cons.mp shaped
      have had (key : ResourceKey) (holds : Holds (commands id) (leave rest result) key) :
          Holds (commands id) (traffic.phase id) key := by
        rw [now]
        exact List.mem_cons_of_mem _ (leave_holds holds)
      have mine : traffic.holder resource.key = some id := by
        refine before.held id resource.key ?_
        rw [now]
        exact List.mem_cons_self
      simp only [step,now]
      refine before.move (by simp [now]) rfl rfl rfl (fun key holds => ?_) (fun other key differs holds => ?_)
        (fun other key differs claims also => ?_) (leave_shaped nodup) (leave_sound fun writes ended => ?_)
      · have elsewhere : key ≠ resource.key := fun same => fresh (same ▸ leave_holds holds)
        exact (Function.update_of_ne elsewhere _ _).trans (before.held id key (had key holds))
      · have old := before.held other key holds
        have elsewhere : key ≠ resource.key := by
          rintro rfl
          exact differs (Option.some.inj (old.symm.trans mine))
        exact (Function.update_of_ne elsewhere _ _).trans old
      · refine differs (before.apart other id key also ?_)
        rcases claims with holds | pending
        · exact .inl (had key holds)
        · obtain ⟨ended,member⟩ := leave_pending.mp pending
          obtain ⟨writes,rfl⟩ := Option.isSome_iff_exists.mp ended
          exact .inr (by rw [now]; exact member)
      · have sound := before.sound id
        rw [now,ended] at sound
        exact sound

theorem Sound.congr {command : GuardedCommand Value} {store other : Store Value} {phase : CommandPhase Value}
    (sound : Sound command store phase)
    (same : ∀ key, Claims command phase key → store key = other key) : Sound command other phase := by
  unfold Sound at sound ⊢
  split
  next program writes =>
    have agree (key : ResourceKey) (member : key ∈ command.keys) : store key = other key := same key (.inl member)
    rw [← exec_congr agree sound.2.1,← exec_congr agree command.within_keys]
    exact sound
  next locks writes =>
    rw [← exec_congr (fun key member => same key (.inr member)) command.within_keys]
    exact sound
  next writes =>
    rw [← exec_congr (fun key member => same key (.inr member)) command.within_keys]
    exact sound
  next => trivial

theorem Serial.commit {commands : Id → GuardedCommand Value} {initial : Store Value} {traffic after : Traffic Id Value}
    (before : Serial commands initial traffic) {id : Id} {writes : Writes Value}
    (now : traffic.phase id = .exiting (some writes)) (moved : after.phase = Function.update traffic.phase id .closed)
    (holder : after.holder = traffic.holder) (store : after.store = publish traffic.store writes)
    (committed : after.committed = traffic.committed ++ [id]) : Serial commands initial after := by
  have sound := before.sound id
  rw [now] at sound
  obtain ⟨result,own⟩ := sound
  have self : after.phase id = .closed := by rw [moved,Function.update_self]
  have rest {other : Id} (differs : other ≠ id) : after.phase other = traffic.phase other := by
    rw [moved,Function.update_of_ne differs]
  have idle {key : ResourceKey} : ¬ Claims (commands id) .closed key := by rintro (holds | pending) <;> contradiction
  refine ⟨fun other key holds => ?_,fun first second key claims also => ?_,fun other => ?_,fun other => ?_,?_,
    fun other member => ?_,?_⟩
  · by_cases same : other = id
    · subst same
      exact absurd (.inl (self ▸ holds)) idle
    · rw [holder]
      exact before.held other key (rest same ▸ holds)
  · have one : first ≠ id := fun same => idle (by rw [same,self] at claims; exact claims)
    have two : second ≠ id := fun same => idle (by rw [same,self] at also; exact also)
    exact before.apart first second key (rest one ▸ claims) (rest two ▸ also)
  · by_cases same : other = id
    · subst same
      rw [self]
      trivial
    · rw [rest same]
      exact before.shaped other
  · by_cases same : other = id
    · subst same
      rw [self]
      trivial
    · rw [rest same,store]
      refine (before.sound other).congr fun key claims => (publish_untouched fun entry member touched => ?_).symm
      have pending : Claims (commands id) (traffic.phase id) key := by
        rw [now,← touched]
        exact .inr (own entry member)
      exact same (before.apart other id key claims pending)
  · rw [store,committed,serial_append_one,← before.store,result]
    rfl
  · rw [committed] at member
    rcases List.mem_append.mp member with old | new
    · have finished := before.closed other old
      have differs : other ≠ id := by
        rintro rfl
        rw [now] at finished
        cases finished
      rw [rest differs]
      exact finished
    · rw [List.mem_singleton.mp new]
      exact self
  · rw [committed]
    refine List.Nodup.append before.once (List.nodup_singleton _) (List.disjoint_singleton.mpr fun old => ?_)
    have finished := before.closed id old
    rw [now] at finished
    cases finished

theorem Serial.finish {commands : Id → GuardedCommand Value} {initial : Store Value} {traffic : Traffic Id Value}
    (before : Serial commands initial traffic) (id : Id) (commits : Bool) :
    Serial commands initial (traffic.step commands (.finish id commits)) := by
  have dropped (running : traffic.phase id ≠ .closed) : Serial commands initial (traffic.setPhase id .closed) :=
    before.narrow running (fun key holds => holds.elim) (fun key pending => pending.elim) trivial trivial
  cases now : traffic.phase id with
  | acquiring held wanted | running program writes | releasing locks result | closed => simpa [step,now] using before
  | exiting result =>
    cases result with
    | none =>
      simp only [step,now]
      exact dropped (by simp [now])
    | some writes =>
      cases commits with
      | false =>
        simp only [step,now]
        exact dropped (by simp [now])
      | true =>
        simp only [step,now]
        exact before.commit now rfl rfl rfl rfl

theorem Serial.step {commands : Id → GuardedCommand Value} {initial : Store Value} (traffic : Traffic Id Value)
    (action : CommandAction Id) (before : Serial commands initial traffic) (covered : Covered commands traffic action) :
    Serial commands initial (traffic.step commands action) := by
  cases action with
  | acquire id => exact before.acquire id covered
  | refuse id => exact before.refuse id
  | act id => exact before.act id
  | release id => exact before.release id
  | finish id commits => exact before.finish id commits

omit [DecidableEq Id] in
theorem serial_start (commands : Id → GuardedCommand Value) (initial : Store Value) :
    Serial commands initial (start commands initial) := by
  have entering (id : Id) : (start commands initial).phase id = .acquiring [] (commands id).requested ∨
      (commands id).requested = [] ∧ (start commands initial).phase id = .running (commands id).program [] := by
    simp only [start,enterBody]
    split
    next empty => exact .inr ⟨List.isEmpty_iff.mp empty,rfl⟩
    next => exact .inl rfl
  have unheld {id : Id} {key : ResourceKey} : ¬ Claims (commands id) ((start commands initial).phase id) key := by
    rcases entering id with phase | ⟨empty,phase⟩
    · simp [phase,Claims,Holds,Pending]
    · simp [phase,Claims,Holds,Pending,GuardedCommand.keys,empty]
  refine ⟨fun id key holds => absurd (.inl holds) unheld,fun id other key claims => absurd claims unheld,fun id => ?_,
    fun id => ?_,rfl,by simp [start],List.nodup_nil⟩
  · rcases entering id with phase | ⟨empty,phase⟩
    · simp [phase,Shaped]
    · simp [phase,Shaped]
  · rcases entering id with phase | ⟨empty,phase⟩
    · simp [phase,Sound]
    · rw [phase]
      exact ⟨rfl,(commands id).within_keys,by simp⟩

/-- While no lock is taken between the release and the commit of a command that declared
it, the store is that of the committed commands one after the other, in the order of
their commits, and nobody is about to read what another one has written and not committed. -/
theorem serialised_while_covered (commands : Id → GuardedCommand Value) (initial : Store Value)
    (actions : List (CommandAction Id))
    (covered : Transition.Meets (Traffic.step commands) (Covered commands) (start commands initial) actions) :
    let traffic := Transition.run (Traffic.step commands) (start commands initial) actions
    traffic.store = serial commands initial traffic.committed ∧ traffic.committed.Nodup ∧
      ∀ id other key next writes, traffic.phase id = .running (.read key next) writes → other ≠ id →
        ∀ entry ∈ uncommitted (traffic.phase other), entry.1 ≠ key := by
  intro traffic
  have holds : Serial commands initial traffic :=
    Transition.run_invariant (Serial commands initial) Serial.step _ actions (serial_start commands initial) covered
  refine ⟨holds.store,holds.once,fun id other key next writes reading differs entry member touched => ?_⟩
  have sound := holds.sound id
  rw [reading] at sound
  have mine : Claims (commands id) (traffic.phase id) key := by
    rw [reading]
    exact .inl sound.2.1.1
  refine differs (holds.apart other id key ?_ mine)
  have written := holds.sound other
  cases now : traffic.phase other with
  | acquiring held wanted => simp [now,uncommitted] at member
  | closed => simp [now,uncommitted] at member
  | running program own =>
    rw [now] at written member
    exact .inl (touched ▸ written.2.2 entry member)
  | releasing locks result =>
    cases result with
    | none => simp [now,uncommitted] at member
    | some own =>
      rw [now] at written member
      exact .inr (touched ▸ written.2 entry member)
  | exiting result =>
    cases result with
    | none => simp [now,uncommitted] at member
    | some own =>
      rw [now] at written member
      exact .inr (touched ▸ written.2 entry member)

def account : ResourceIdentifier := ⟨"Account","123",.write⟩

def savings : ResourceIdentifier := ⟨"Account","456",.write⟩

def deposit (resource : ResourceIdentifier) : GuardedCommand Nat where
  resources := [resource]
  program := .read resource.key fun balance => .write resource.key (balance+1) .done
  within := by simp [Program.Within]

def deposits : Nat → GuardedCommand Nat := fun _ => deposit account

def transfer : GuardedCommand Nat where
  resources := [savings,account]
  program := .read account.key fun balance => .read savings.key fun saved =>
    .write account.key 0 (.write savings.key (saved+balance) .done)
  within := by simp [Program.Within]

def saving : Nat → GuardedCommand Nat
  | 0 => deposit account
  | 1 => deposit savings
  | _ => transfer

/-- The two deposits run side by side; the transfer waits for the account, has it when the
first deposit is committed, and then waits for the savings. -/
def overlapping : List (CommandAction Nat) :=
  [.acquire 0,.acquire 1,.act 0,.act 1,.acquire 2,.act 1,.act 0,.act 0,.release 0,.finish 0 true,.acquire 2,.acquire 2,
    .act 1,.release 1,.finish 1 true,.acquire 2,.act 2,.act 2,.act 2,.act 2,.act 2,.release 2,.release 2,.finish 2 true]

theorem deposits_serialised :
    let traffic := Transition.run (Traffic.step saving) (start saving fun _ => 0) overlapping
    traffic.committed = [0,1,2] ∧ traffic.store = serial saving (fun _ => 0) traffic.committed ∧
      traffic.store account.key = 0 ∧ traffic.store savings.key = 2 := by
  refine ⟨by decide +kernel,(serialised_while_covered saving (fun _ => 0) overlapping ?_).1,by decide +kernel,by decide +kernel⟩
  refine ⟨?_,?_,trivial,trivial,?_,trivial,trivial,trivial,trivial,trivial,?_,?_,
    trivial,trivial,trivial,?_,trivial,trivial,trivial,trivial,trivial,trivial,trivial,trivial,trivial⟩
  -- at no acquisition is another command between its handler and its commit
  all_goals
    intro held resource rest now other
    rcases other with _ | _ | _ | other
    all_goals exact fun pending => pending

/-- Both deposits lock the account for themselves, and one of them is lost: the second one
takes the lock when the first one has released it and not yet committed. -/
theorem deposit_lost :
    let traffic := Transition.run (Traffic.step deposits) (start deposits fun _ => 0)
      [.acquire 0,.act 0,.act 0,.act 0,.release 0,.acquire 1,.act 1,.act 1,.act 1,.release 1,.finish 0 true,.finish 1 true]
    ¬ ∃ order : List Nat, order.Perm traffic.committed ∧ traffic.store = serial deposits (fun _ => 0) order := by
  rintro traffic ⟨order,perm,same⟩
  obtain ⟨first,second,rfl⟩ := List.length_eq_two.mp perm.length_eq
  have one : traffic.store account.key = 1 := by decide +kernel
  have two : serial deposits (fun _ => 0) [first,second] account.key = 2 := rfl
  rw [same,two] at one
  cases one

end Traffic

end CqrsDdd.Locking
