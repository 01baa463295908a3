import CqrsDdd.Attempts
import CqrsDdd.Mongo.Repository

/-! Optimistic concurrency of the aggregates: when an add succeeds if and only if no other
has since the entity was loaded or last saved. The entity does not learn the version
under which it is stored, so a second save of what is stored is refused. -/
namespace CqrsDdd.Mongo

open Messaging (Value)
open Projections

variable {Client Object : Type}

/-- The add succeeds exactly where it was not overtaken, and counts the version up by one; a failure is a concurrency
error that leaves the document as it is. -/
def Outcome.Right (outcome : Outcome Object) : Prop :=
  (outcome.answer = .saved ↔ outcome.overtaken = false) ∧
  (outcome.answer = .saved → ∃ version, versionOf outcome.before = some version ∧
    versionOf outcome.after = some (version + 1)) ∧
  (outcome.answer ≠ .saved → outcome.answer = .optimisticConcurrencyError ∧ outcome.after = outcome.before)

def Loaded.Tracks (loaded : Loaded Object) (world : World Client Object) : Prop :=
  loaded.mark ≤ world.saves.length ∧ versionOf (world.collection.get loaded.entity.id) =
    loaded.storedVersion.map (· + ((world.saves.drop loaded.mark).count loaded.entity.id : Int))

/-- The entity has the version under which it was stored when its client loaded or last saved it, or the document now has
neither of the two. -/
def Loaded.Current [DecidableEq Object] (loaded : Loaded Object) (world : World Client Object) : Prop :=
  ∀ doc, world.collection.get loaded.entity.id = some doc →
    (∃ version, loaded.storedVersion = some version ∧ loaded.entity.version = .number version) ∨
    (matchesVersion loaded.entity.version doc = false ∧ versionOf (some doc) ≠ loaded.storedVersion)

def Allowed [DecidableEq Object] (world : World Client Object) : Step Client Object → Prop
  | .updateOne client => ∀ loaded, world.clients client = some loaded → loaded.stage = .ready → loaded.Current world
  | .insertOne client => ∀ loaded, world.clients client = some loaded → loaded.stage = .absent →
    world.collection.get loaded.entity.id = none
  | _ => True

structure Inv (world : World Client Object) : Prop where
  present : ∀ id ∈ world.saves, world.collection.get id ≠ none
  tracks : ∀ client loaded, world.clients client = some loaded → loaded.Tracks world
  unmatched : ∀ client loaded, world.clients client = some loaded → loaded.stage = .unmatched →
    world.collection.get loaded.entity.id = none ∨ loaded.overtaken world.saves = true
  right : ∀ outcome ∈ world.outcomes, outcome.Right

theorem Loaded.overtaken_iff (loaded : Loaded Object) (saves : List String) :
    loaded.overtaken saves = true ↔ 0 < (saves.drop loaded.mark).count loaded.entity.id := by
  rw [List.count_pos_iff]
  exact decide_eq_true_iff

variable {world : World Client Object}

theorem Loaded.Tracks.overtaken_false {loaded : Loaded Object} (tracks : loaded.Tracks world) {version : Int}
    (stored : loaded.storedVersion = some version) (same : versionOf (world.collection.get loaded.entity.id) = some version) :
    loaded.overtaken world.saves = false := by
  have counted := tracks.2
  rw [stored,same] at counted
  have none : (world.saves.drop loaded.mark).count loaded.entity.id = 0 := by
    have equal : version = version + _ := Option.some.inj counted
    omega
  rw [← Bool.not_eq_true,loaded.overtaken_iff,none]
  exact Nat.lt_irrefl 0

theorem Loaded.Tracks.overtaken_true {loaded : Loaded Object} (tracks : loaded.Tracks world)
    (moved : versionOf (world.collection.get loaded.entity.id) ≠ loaded.storedVersion) :
    loaded.overtaken world.saves = true := by
  rw [loaded.overtaken_iff]
  apply Nat.pos_of_ne_zero
  intro none
  apply moved
  rw [tracks.2,none]
  cases loaded.storedVersion with
  | none => rfl
  | some version => exact congrArg some (Int.add_zero version)

theorem Inv.atStage (inv : Inv world) {client : Client} {stage : Stage} {act : Loaded Object → World Client Object}
    (kept : ∀ loaded, world.clients client = some loaded → loaded.stage = stage → Inv (act loaded)) :
    Inv (world.atStage client stage act) := by
  unfold World.atStage
  split
  next loaded there =>
    split
    next same => exact kept loaded there same
    next => exact inv
  next => exact inv

theorem matchesVersion_number [DecidableEq Object] (version : Int) (doc : Record Object) :
    matchesVersion (.number version) doc = true ↔ versionOf (some doc) = some version := by
  unfold matchesVersion versionOf
  dsimp only
  cases doc.get "version" with
  | none => simp
  | some stored =>
    cases stored with
    | number stored => simp
    | null => simp
    | text content => simp
    | other object => simp

theorem versionOf_set (doc : Record Object) (version : Int) :
    versionOf (some (doc.set "version" (.number version))) = some version := by
  unfold versionOf
  dsimp only
  rw [Dict.get_set_same]

theorem versionOf_update (doc : Record Object) (attributes : Attributes Object) :
    versionOf (some (doc.update attributes.val)) = versionOf (some doc) := by
  unfold versionOf
  dsimp only
  rw [Dict.get_update_other doc attributes.val attributes.property.1]

theorem incremented_number {doc : Record Object} {version : Int} (stored : versionOf (some doc) = some version) :
    incremented doc = some (doc.set "version" (.number (version + 1))) := by
  unfold versionOf at stored
  dsimp only at stored
  split at stored
  next found =>
    cases stored
    unfold incremented
    rw [found]
  next => cases stored

theorem inv_initial (collection : Dict String (Record Object)) :
    Inv (World.initial collection : World Client Object) where
  present _ member := nomatch member
  tracks _ _ there := nomatch there
  unmatched _ _ there := nomatch there
  right _ member := nomatch member

section
variable [DecidableEq Client]

theorem held_after {clients : Client → Option (Loaded Object)} {client other : Client} {loaded : Option (Loaded Object)}
    {held : Loaded Object} (there : Function.update clients client loaded other = some held) :
    (other = client ∧ loaded = some held) ∨ (other ≠ client ∧ clients other = some held) := by
  by_cases same : other = client
  · rw [same,Function.update_self] at there
    exact .inl ⟨same,there⟩
  · rw [Function.update_of_ne same] at there
    exact .inr ⟨same,there⟩

theorem Inv.hold (inv : Inv world) (client : Client) (loaded : Option (Loaded Object))
    (tracks : ∀ held, loaded = some held → held.Tracks world)
    (unmatched : ∀ held, loaded = some held → held.stage = .unmatched →
      world.collection.get held.entity.id = none ∨ held.overtaken world.saves = true) :
    Inv (world.hold client loaded) where
  present := inv.present
  tracks other held there := by
    rcases held_after there with ⟨_,own⟩ | ⟨_,earlier⟩
    · exact tracks held own
    · exact inv.tracks other held earlier
  unmatched other held there := by
    rcases held_after there with ⟨_,own⟩ | ⟨_,earlier⟩
    · exact unmatched held own
    · exact inv.unmatched other held earlier
  right := inv.right

theorem Inv.failed (inv : Inv world) {client : Client} {loaded : Loaded Object}
    (there : world.clients client = some loaded) (overtaken : loaded.overtaken world.saves = true) :
    Inv (world.failed client loaded .optimisticConcurrencyError) := by
  have held := inv.hold client (some {loaded with stage := .ready})
    (fun _ same => Option.some.inj same ▸ inv.tracks client loaded there) fun _ same stage => by
      rw [← Option.some.inj same] at stage
      cases stage
  refine ⟨held.present,held.tracks,held.unmatched,fun outcome member => ?_⟩
  rcases List.mem_append.mp member with earlier | last
  · exact inv.right outcome earlier
  · obtain rfl := List.mem_singleton.mp last
    refine ⟨⟨fun same => (nomatch same),fun same => ?_⟩,fun same => (nomatch same),fun _ => ⟨rfl,rfl⟩⟩
    cases overtaken.symm.trans same

theorem Inv.saved (inv : Inv world) {client : Client} {loaded : Loaded Object} {doc : Record Object} {version : Int}
    (current : loaded.overtaken world.saves = false)
    (before : versionOf (world.collection.get loaded.entity.id) = some version)
    (after : versionOf (some doc) = some (version + 1)) : Inv (world.saved client loaded doc) where
  present id member := by
    intro absent
    rw [World.saved,Dict.get_set] at absent
    split at absent
    next => cases absent
    next differs =>
      rcases List.mem_append.mp member with earlier | last
      · exact inv.present id earlier absent
      · exact differs (List.mem_singleton.mp last)
  tracks other held again := by
    rcases held_after again with ⟨_,own⟩ | ⟨_,earlier⟩
    · cases own
      have done : ((world.saves ++ [loaded.entity.id]).drop (world.saves.length + 1)) = [] :=
        List.drop_eq_nil_of_le (by simp)
      refine ⟨by simp [World.saved],?_⟩
      change versionOf ((world.collection.set loaded.entity.id doc).get loaded.entity.id) =
        (versionOf (some doc)).map (· + (((world.saves ++ [loaded.entity.id]).drop (world.saves.length + 1)).count
          loaded.entity.id : Int))
      rw [Dict.get_set_same,done,after]
      exact congrArg some (Int.add_zero _).symm
    · obtain ⟨bound,counted⟩ := inv.tracks other held earlier
      refine ⟨bound.trans (by simp [World.saved]),?_⟩
      change versionOf ((world.collection.set loaded.entity.id doc).get held.entity.id) =
        held.storedVersion.map (· + (((world.saves ++ [loaded.entity.id]).drop held.mark).count held.entity.id : Int))
      rw [List.drop_append_of_le_length bound,List.count_append,Dict.get_set]
      by_cases same : held.entity.id = loaded.entity.id
      · rw [if_pos same,after,same,List.count_singleton_self]
        rw [same,before] at counted
        cases stored : held.storedVersion with
        | none =>
          rw [stored] at counted
          cases counted
        | some old =>
          rw [stored] at counted
          have equal : version = old + _ := Option.some.inj counted
          apply congrArg some
          push_cast
          omega
      · rw [if_neg same,counted,List.count_singleton,if_neg (by simpa using Ne.symm same)]
        rfl
  unmatched other held again := by
    rcases held_after again with ⟨_,own⟩ | ⟨_,earlier⟩
    · cases own
      intro stage
      cases stage
    · intro stage
      have bound := (inv.tracks other held earlier).1
      by_cases same : held.entity.id = loaded.entity.id
      · right
        rw [Loaded.overtaken_iff,World.saved,List.drop_append_of_le_length bound,same,List.count_append,
          List.count_singleton_self]
        exact Nat.succ_pos _
      · rcases inv.unmatched other held earlier stage with absent | overtaken
        · left
          exact (Dict.get_set_other _ doc same).trans absent
        · right
          rw [Loaded.overtaken_iff] at overtaken ⊢
          rw [World.saved,List.drop_append_of_le_length bound,List.count_append]
          exact Nat.lt_of_lt_of_le overtaken (Nat.le_add_right _ _)
  right outcome member := by
    rcases List.mem_append.mp member with earlier | last
    · exact inv.right outcome earlier
    · obtain rfl := List.mem_singleton.mp last
      exact ⟨⟨fun _ => current,fun _ => rfl⟩,fun _ => ⟨version,before,after⟩,fun different => absurd rfl different⟩

theorem Inv.findOne (inv : Inv world) {client : Client} {loaded : Loaded Object}
    (there : world.clients client = some loaded) (stage : loaded.stage = .unmatched) :
    Inv (world.findOne client loaded) := by
  unfold World.findOne
  split
  next doc found =>
    rcases inv.unmatched client loaded there stage with absent | overtaken
    · cases found.symm.trans absent
    · exact inv.failed there overtaken
  next =>
    refine inv.hold client _ (fun held own => ?_) fun held own later => ?_
    · cases own
      exact inv.tracks client loaded there
    · cases own
      cases later

theorem Inv.insertOne (inv : Inv world) {client : Client} {loaded : Loaded Object}
    (absent : world.collection.get loaded.entity.id = none) : Inv (world.insertOne client loaded) := by
  unfold World.insertOne
  rw [absent]
  have current : loaded.overtaken world.saves = false := by
    rw [← Bool.not_eq_true,Loaded.overtaken,decide_eq_true_iff]
    exact fun member => inv.present _ (List.mem_of_mem_drop member) absent
  have first : versionOf (some ((toDoc loaded.entity).set "version" (.number 1))) = some (0 + 1) := versionOf_set _ 1
  refine inv.saved current ?_ first
  rw [absent]
  rfl

theorem Inv.load (inv : Inv world) (cls : ModelClass Object) (client : Client) (id : String) (data : Record Object) :
    Inv (world.load cls client id data) := by
  have named {entity : AggregateRoot Object} {data : Record Object}
      (made : (AggregateRoot.init cls id data).toOption = some entity) : entity.id = id := by
    cases built : AggregateRoot.init cls id data with
    | error message =>
      rw [built] at made
      cases made
    | ok result =>
      rw [built] at made
      obtain ⟨attributes,_,built⟩ := Attempts.bind_ok.mp built
      cases made
      rw [← Attempts.pure_ok.mp built]
  unfold World.load
  refine inv.hold client _ (fun held own => ?_) fun held own stage => ?_
  · obtain ⟨entity,made,same⟩ := Option.map_eq_some_iff.mp own
    have asked : entity.id = id := by
      split at made
      next => exact named made
      next => exact named made
    cases same
    refine ⟨le_rfl,?_⟩
    change versionOf (world.collection.get entity.id) = (versionOf (world.collection.get id)).map
      (· + ((world.saves.drop world.saves.length).count entity.id : Int))
    rw [asked,List.drop_length]
    cases versionOf (world.collection.get id) with
    | none => rfl
    | some version => exact congrArg some (Int.add_zero version).symm
  · obtain ⟨entity,made,same⟩ := Option.map_eq_some_iff.mp own
    cases same
    cases stage

variable [DecidableEq Object]

theorem Inv.updateOne (inv : Inv world) {client : Client} {loaded : Loaded Object}
    (there : world.clients client = some loaded) (current : loaded.Current world) :
    Inv (world.updateOne client loaded) := by
  have tracks := inv.tracks client loaded there
  unfold World.updateOne
  cases found : world.collection.get loaded.entity.id with
  | none =>
    refine inv.hold client _ (fun held own => ?_) fun held own _ => ?_
    · cases own
      exact tracks
    · cases own
      exact .inl found
  | some doc =>
    cases hit : matchesVersion loaded.entity.version doc with
    | true =>
      rw [Option.filter_some_pos hit]
      rcases current doc found with ⟨version,stored,known⟩ | ⟨missed,_⟩
      · rw [known,matchesVersion_number] at hit
        have same : versionOf (some (doc.update (toDoc loaded.entity))) = some version :=
          (versionOf_update doc loaded.entity.attributes).trans hit
        dsimp only
        rw [incremented_number same]
        refine inv.saved (tracks.overtaken_false stored ?_) ?_ (versionOf_set _ (version + 1))
        · rw [found,hit]
        · rw [found,hit]
      · cases hit.symm.trans missed
    | false =>
      rw [Option.filter_some_neg (by simp [hit])]
      have moved : versionOf (some doc) ≠ loaded.storedVersion := by
        rcases current doc found with ⟨version,stored,known⟩ | ⟨_,moved⟩
        · rw [known] at hit
          rw [stored]
          intro same
          rw [(matchesVersion_number version doc).mpr same] at hit
          cases hit
        · exact moved
      refine inv.hold client _ (fun held own => ?_) fun held own _ => ?_
      · cases own
        exact tracks
      · cases own
        exact .inr (tracks.overtaken_true (by rwa [found]))

theorem Inv.step (inv : Inv world) (cls : ModelClass Object) (action : Step Client Object)
    (allowed : Allowed world action) : Inv (world.step cls action) := by
  cases action with
  | load client id data =>
    change Inv (if _ then world.load cls client id data else world)
    split
    next => exact inv.load cls client id data
    next => exact inv
  | modify client attributes =>
    refine inv.atStage fun loaded there stage => inv.hold client _ (fun held own => ?_) fun held own later => ?_
    · cases own
      exact inv.tracks client loaded there
    · cases own
      cases stage.symm.trans later
  | updateOne client => exact inv.atStage fun loaded there stage => inv.updateOne there (allowed loaded there stage)
  | findOne client => exact inv.atStage fun loaded there stage => inv.findOne there stage
  | insertOne client => exact inv.atStage fun loaded there stage => inv.insertOne (allowed loaded there stage)

theorem adds_right (cls : ModelClass Object) (collection : Dict String (Record Object))
    (actions : List (Step Client Object))
    (allowed : Transition.Meets (World.step cls) Allowed (World.initial collection) actions) :
    ∀ outcome ∈ (Transition.run (World.step cls) (World.initial collection) actions).outcomes, outcome.Right :=
  (Transition.run_invariant Inv (fun _ action inv allowed => inv.step cls action allowed) _ actions
    (inv_initial collection) allowed).right

def bare : ModelClass Empty := ⟨fun _ => .ok ⟨Dict.empty,rfl,rfl⟩⟩

/-- Two clients create one aggregate; the second to add it comes too late. -/
theorem adds_right_raced :
    (Transition.run (World.step bare) (World.initial Dict.empty : World Bool Empty) [.load true "a" Dict.empty,
      .load false "a" Dict.empty,.updateOne true,.findOne true,.insertOne true,.updateOne false,
      .findOne false]).outcomes.length = 2 ∧
    ∀ outcome ∈ (Transition.run (World.step bare) (World.initial Dict.empty : World Bool Empty)
      [.load true "a" Dict.empty,.load false "a" Dict.empty,.updateOne true,.findOne true,.insertOne true,
        .updateOne false,.findOne false]).outcomes, outcome.Right := by
  refine ⟨rfl,adds_right bare Dict.empty _ ⟨trivial,trivial,?_,trivial,?_,?_,trivial,trivial⟩⟩
  · intro loaded there stage doc found
    cases there
    cases found
  · intro loaded there stage
    cases there
    rfl
  · intro loaded there stage doc found
    cases there
    exact .inl ⟨0,rfl,rfl⟩

/-- One client alone, which loads what it has added or adds it once more. -/
theorem lone_client_refused : ∃ reloading reusing : List (Step Unit Empty),
    (∃ outcome ∈ (Transition.run (World.step bare) (World.initial Dict.empty) reloading).outcomes,
      outcome.answer = .optimisticConcurrencyError ∧ outcome.overtaken = false) ∧
    ∃ outcome ∈ (Transition.run (World.step bare) (World.initial Dict.empty) reusing).outcomes,
      outcome.answer = .optimisticConcurrencyError ∧ outcome.overtaken = false := by
  let adding : List (Step Unit Empty) := [.load () "a" Dict.empty,.updateOne (),.findOne (),.insertOne ()]
  refine ⟨adding ++ [.load () "a" Dict.empty,.updateOne (),.findOne ()],adding ++ [.updateOne (),.findOne ()],
    ⟨_,List.mem_cons_of_mem _ List.mem_cons_self,rfl,rfl⟩,⟨_,List.mem_cons_of_mem _ List.mem_cons_self,rfl,rfl⟩⟩

end
end CqrsDdd.Mongo
