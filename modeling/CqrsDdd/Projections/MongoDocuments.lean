import Mathlib.Data.List.Infix
import CqrsDdd.Projections.Stores

/-! The documents of a collection under upserts to the MongoDB projection store. The
duplicate check looks for the event id in the whole collection, so that an event
that has updated one document is skipped for every other one. -/
namespace CqrsDdd.Projections.MongoProjectionStore

open Messaging

variable {Object : Type}

/-- An upsert and the document it is addressed to. -/
structure Addressed (Object : Type) where
  docId : DocId Object
  upsert : EventUpsert Object

def Addressed.filter (call : Addressed Object) : Record Object := filterDoc call.docId

def document (store : Store) (call : Addressed Object) : Record Object := replacement store call.docId call.upsert.call

/-- Two calls ask for the same fields. -/
def SameDocument (first second : Addressed Object) : Prop := ∀ field, first.filter.get field = second.filter.get field

theorem SameDocument.symm {first second : Addressed Object} (same : SameDocument first second) :
    SameDocument second first :=
  fun field => (same field).symm

theorem SameDocument.trans {first second third : Addressed Object} (same : SameDocument first second)
    (other : SameDocument second third) : SameDocument first third :=
  fun field => (same field).trans (other field)

theorem assignId_get (store : Store) (data filter : Record Object) {column : String} (plain : column ≠ "_id")
    (other : column ≠ store.idField) : (assignId store data filter).get column = data.get column := by
  rw [assignId]
  split
  next => rfl
  next => exact Dict.get_set_other _ _ plain
  next =>
    split
    next => rw [Dict.get_set_other _ _ plain,Dict.get_erase_other _ other]
    next => exact Dict.get_set_other _ _ plain
    next => rfl

theorem normalizeIdField_get (store : Store) (data filter : Record Object) {column : String}
    (other : column ≠ store.idField) :
    (normalizeIdField store data filter).get column = (assignId store data filter).get column := by
  simp only [normalizeIdField]
  split
  next => rfl
  next => rfl
  next => rfl
  next => exact Dict.get_erase_other _ other

theorem document_version (store : Store) (call : Addressed Object) :
    (document store call).get "_version" = some (.number call.upsert.eventPosition) := by
  have plain := store.plain
  simp only [List.mem_cons,List.not_mem_nil,or_false,not_or] at plain
  rw [document,replacement,normalizeIdField_get store _ _ (Ne.symm plain.2.1),
    assignId_get store _ _ (by decide) (Ne.symm plain.2.1)]
  simp only [EventUpsert.call]
  rw [Dict.get_set_other _ _ (by decide),Dict.get_set_other _ _ (by decide),Dict.get_set_same]

theorem atLeast_document (store : Store) (call : Addressed Object) (eventPosition : Int) :
    atLeast (document store call) eventPosition = .ok (decide (eventPosition ≤ call.upsert.eventPosition)) := by
  rw [atLeast,document_version]

theorem replaceFirst_find_same {selected : Record Object → Bool} {replaced : Record Object}
    {documents : List (Record Object)} (chosen : selected replaced = true) {existing : Record Object}
    (found : documents.find? selected = some existing) :
    (replaceFirst selected replaced documents).find? selected = some replaced := by
  induction documents with
  | nil => cases found
  | cons first rest ih =>
    rw [replaceFirst]
    split
    next => rw [List.find?_cons_of_pos chosen]
    next passed =>
      rw [List.find?_cons_of_neg passed] at found ⊢
      exact ih found

theorem replaceFirst_find_other {selected other : Record Object → Bool} {replaced existing : Record Object}
    {documents : List (Record Object)} (found : documents.find? selected = some existing)
    (before : other existing = false) (later : other replaced = false) :
    (replaceFirst selected replaced documents).find? other = documents.find? other := by
  induction documents with
  | nil => cases found
  | cons first rest ih =>
    rw [replaceFirst]
    split
    next hit =>
      rw [List.find?_cons_of_pos hit] at found
      obtain rfl := Option.some.inj found
      rw [List.find?_cons_of_neg (by simp [later]),List.find?_cons_of_neg (by simp [before])]
    next passed =>
      rw [List.find?_cons_of_neg passed] at found
      rw [List.find?_cons,List.find?_cons,ih found]

theorem mem_replaceFirst {selected : Record Object → Bool} {replaced stored : Record Object}
    {documents : List (Record Object)} (member : stored ∈ replaceFirst selected replaced documents) :
    stored = replaced ∨ stored ∈ documents := by
  induction documents with
  | nil => cases member
  | cons first rest ih =>
    rw [replaceFirst] at member
    split at member
    next =>
      rcases List.mem_cons.mp member with same | later
      · exact .inl same
      · exact .inr (List.mem_cons_of_mem first later)
    next =>
      rcases List.mem_cons.mp member with same | later
      · exact .inr (same ▸ List.mem_cons_self)
      · exact (ih later).imp id (List.mem_cons_of_mem first)

variable [DecidableEq Object]

/-- The collection after an upsert; one that raises leaves it as it was. -/
def step (store : Store) (documents : List (Record Object)) (call : Addressed Object) : List (Record Object) :=
  match upsert store documents call.docId call.upsert.call with
  | .ok (replaced,_) => replaced
  | .error _ => documents

def reached (store : Store) (calls : List (Addressed Object)) : List (Record Object) :=
  Transition.run (step store) [] calls

/-- After every upsert of the sequence, each document addressed so far is the one of an upsert with the
highest position addressed to it, and an upsert is skipped only for what its own document reflects. -/
structure LastPositionWins (store : Store) (calls : List (Addressed Object)) : Prop where
  latest : ∀ past, past <+: calls → ∀ call ∈ past, ∃ winner ∈ past, SameDocument call winner ∧
    (∀ other ∈ past, SameDocument call other → other.upsert.eventPosition ≤ winner.upsert.eventPosition) ∧
    (reached store past).find? (selects call.filter) = some (document store winner)
  skipped : ∀ past call, past ++ [call] <+: calls → ∀ documents,
    upsert store (reached store past) call.docId call.upsert.call = .ok (documents,false) →
    ∃ stored, (reached store past).find? (selects call.filter) = some stored ∧
      (lastEventIs stored call.upsert.eventId = true ∨ atLeast stored call.upsert.eventPosition = .ok true)

/-- Each call writes the document that it asks for, and none that another call asks for, under an `_id` of its own. -/
def WellAddressed (store : Store) (calls : List (Addressed Object)) : Prop :=
  ∀ call ∈ calls, ∀ other ∈ calls,
    (selects other.filter (document store call) = true ↔ SameDocument call other) ∧
    (SameDocument call other → (document store call).get "_id" = (document store other).get "_id") ∧
    (¬ SameDocument call other → (document store call).get "_id" = none ∨
      (document store call).get "_id" ≠ (document store other).get "_id")

/-- The `_id` that an upsert asks for: that of its data, else of its key, else what its data have as the id field or as
`id`. -/
def givenId (store : Store) (call : Addressed Object) : Option (Value Object) :=
  call.upsert.data.get "_id" <|> call.filter.get "_id" <|> call.upsert.data.get store.idField <|>
    call.upsert.data.get "id"

def labelled (store : Store) (call : Addressed Object) : Record Object :=
  (givenId store call).elim call.upsert.data fun id => call.upsert.data.set "_id" id

/-- No field of a key is one that the store drops or writes itself; with their `_id`s, the data of an upsert carry its own
key and no other one's, and the `_id`s are those of the documents. -/
structure WellKeyed (store : Store) (calls : List (Addressed Object)) : Prop where
  plain : ∀ call ∈ calls, ∀ field value, call.filter.get field = some value →
    field ∉ [store.idField,"_version","_last_event_id","_last_event_position"]
  carried : ∀ call ∈ calls, ∀ other ∈ calls, selects other.filter (labelled store call) = true ↔ SameDocument call other
  consistent : ∀ call ∈ calls, ∀ other ∈ calls, SameDocument call other → givenId store call = givenId store other
  distinct : ∀ call ∈ calls, ∀ other ∈ calls, ¬ SameDocument call other →
    givenId store call = none ∨ givenId store call ≠ givenId store other

/-- An event that is the last one of some document is not later than the document the call addresses. -/
def Unshadowed (documents : List (Record Object)) (call : Addressed Object) : Prop :=
  isDuplicateEvent documents (some call.upsert.eventId) = true →
    ∃ stored, documents.find? (selects call.filter) = some stored ∧
      atLeast stored call.upsert.eventPosition = .ok true

theorem selects_iff {filter stored : Record Object} :
    selects filter stored = true ↔ ∀ field value, filter.get field = some value →
      stored.get field = some value ∨ (value = .null ∧ stored.get field = none) := by
  simp only [selects,List.all_eq_true,Bool.or_eq_true,Bool.and_eq_true,decide_eq_true_eq]
  constructor
  · intro every field value found
    exact every (field,value) (Dict.mem_of_lookup found)
  · intro every entry member
    exact every entry.1 entry.2 (Dict.lookup_of_mem filter.distinct member)

theorem SameDocument.selects {first second : Addressed Object} (same : SameDocument first second) :
    selects first.filter = selects second.filter := by
  funext stored
  rw [Bool.eq_iff_iff,selects_iff,selects_iff]
  constructor
  · intro every field value found
    exact every field value ((same field).trans found)
  · intro every field value found
    exact every field value ((same field).symm.trans found)

omit [DecidableEq Object] in
theorem document_id (store : Store) (call : Addressed Object) : (document store call).get "_id" = givenId store call := by
  have plain := store.plain
  simp only [List.mem_cons,List.not_mem_nil,or_false,not_or] at plain
  have own : ∀ field, field ∉ ["_version","_last_event_id","_last_event_position"] →
      (((call.upsert.data.set "_version" (.number call.upsert.eventPosition)).set "_last_event_id"
        (.text call.upsert.eventId)).set "_last_event_position" (.number call.upsert.eventPosition)).get field =
      call.upsert.data.get field := by
    intro field other
    simp only [List.mem_cons,List.not_mem_nil,or_false,not_or] at other
    rw [Dict.get_set_other _ _ other.2.2,Dict.get_set_other _ _ other.2.1,Dict.get_set_other _ _ other.1]
  rw [document,replacement,normalizeIdField_get store _ _ (Ne.symm plain.1)]
  simp only [EventUpsert.call,Value.ofText,assignId]
  rw [own "_id" (by decide),own store.idField (by simp [plain]),own "id" (by decide),givenId,
    Addressed.filter]
  cases mine : call.upsert.data.get "_id" with
  | some id => exact (own "_id" (by decide)).trans mine
  | none =>
    cases (filterDoc call.docId).get "_id" with
    | some id => exact Dict.get_set_same _ _ _
    | none =>
      cases call.upsert.data.get store.idField with
      | some id => exact Dict.get_set_same _ _ _
      | none =>
        cases call.upsert.data.get "id" with
        | some id => exact Dict.get_set_same _ _ _
        | none => exact (own "_id" (by decide)).trans mine

omit [DecidableEq Object] in
theorem document_get (store : Store) (call : Addressed Object) {field : String} (other : field ≠ "_id")
    (plain : field ∉ [store.idField,"_version","_last_event_id","_last_event_position"]) :
    (document store call).get field = call.upsert.data.get field := by
  simp only [List.mem_cons,List.not_mem_nil,or_false,not_or] at plain
  rw [document,replacement,normalizeIdField_get store _ _ plain.1,assignId_get store _ _ other plain.1]
  simp only [EventUpsert.call]
  rw [Dict.get_set_other _ _ plain.2.2.2,Dict.get_set_other _ _ plain.2.2.1,Dict.get_set_other _ _ plain.2.1]

omit [DecidableEq Object] in
theorem labelled_get (store : Store) (call : Addressed Object) {field : String} (other : field ≠ "_id") :
    (labelled store call).get field = call.upsert.data.get field := by
  unfold labelled
  cases givenId store call with
  | none => rfl
  | some id => exact Dict.get_set_other _ _ other

omit [DecidableEq Object] in
theorem labelled_id (store : Store) (call : Addressed Object) : (labelled store call).get "_id" = givenId store call := by
  unfold labelled
  cases given : givenId store call with
  | none =>
    cases own : call.upsert.data.get "_id" with
    | none => exact own
    | some id =>
      rw [givenId,own] at given
      cases given
  | some id => exact Dict.get_set_same _ _ _

theorem WellKeyed.wellAddressed {store : Store} {calls : List (Addressed Object)} (keyed : WellKeyed store calls) :
    WellAddressed store calls := by
  intro call member other present
  rw [document_id,document_id]
  refine ⟨?_,keyed.consistent call member other present,keyed.distinct call member other present⟩
  have kept : ∀ field value, other.filter.get field = some value →
      (document store call).get field = (labelled store call).get field := by
    intro field value found
    by_cases id : field = "_id"
    · rw [id,document_id,labelled_id]
    · rw [document_get store call id (keyed.plain other present field value found),labelled_get store call id]
  rw [← keyed.carried call member other present,selects_iff,selects_iff]
  constructor
  · intro every field value found
    rw [← kept field value found]
    exact every field value found
  · intro every field value found
    rw [kept field value found]
    exact every field value found

/-- Every document is the one of an upsert, and each document addressed is that of the latest. -/
structure Reflects (store : Store) (past : List (Addressed Object)) (documents : List (Record Object)) : Prop where
  known : ∀ stored ∈ documents, ∃ call ∈ past, stored = document store call
  latest : ∀ call ∈ past, ∃ winner ∈ past, SameDocument call winner ∧
    (∀ other ∈ past, SameDocument call other → other.upsert.eventPosition ≤ winner.upsert.eventPosition) ∧
    documents.find? (selects call.filter) = some (document store winner)

theorem step_duplicate {store : Store} {documents : List (Record Object)} {call : Addressed Object}
    (duplicate : isDuplicateEvent documents (some call.upsert.eventId) = true) :
    upsert store documents call.docId call.upsert.call = .ok (documents,false) := by
  have seen : isDuplicateEvent documents call.upsert.call.eventId = true := duplicate
  simp [upsert,seen,pure,Except.pure]

theorem upsert_found {store : Store} {documents : List (Record Object)} {call winner : Addressed Object}
    (fresh : isDuplicateEvent documents (some call.upsert.eventId) = false)
    (found : documents.find? (selects call.filter) = some (document store winner))
    (identified : (document store call).get "_id" = (document store winner).get "_id") :
    upsert store documents call.docId call.upsert.call =
      if call.upsert.eventPosition ≤ winner.upsert.eventPosition then .ok (documents,false)
      else .ok (replaceFirst (selects call.filter) (document store call) documents,true) := by
  have unseen : isDuplicateEvent documents call.upsert.call.eventId = false := fresh
  have stale : isStale documents call.docId call.upsert.call.eventPosition =
      .ok (decide (call.upsert.eventPosition ≤ winner.upsert.eventPosition)) := by
    change shouldSkipStaleEvent documents call.filter call.upsert.eventPosition = _
    rw [shouldSkipStaleEvent,found]
    exact atLeast_document store winner call.upsert.eventPosition
  have replaces : replaceOne documents (filterDoc call.docId) (replacement store call.docId call.upsert.call) =
      .ok (replaceFirst (selects call.filter) (document store call) documents) := by
    change replaceOne documents call.filter (document store call) = _
    rw [replaceOne,found]
    cases id : (document store call).get "_id" with
    | none => simp [← identified,id]
    | some value => simp [← identified,id]
  rw [upsert]
  simp only [unseen,stale,replaces,bind,Except.bind,pure,Except.pure,Bool.false_eq_true,if_false]
  by_cases older : call.upsert.eventPosition ≤ winner.upsert.eventPosition
  · simp [older]
  · simp [older]

theorem upsert_missing {store : Store} {documents : List (Record Object)} {call : Addressed Object}
    (fresh : isDuplicateEvent documents (some call.upsert.eventId) = false)
    (missing : documents.find? (selects call.filter) = none)
    (unique : ∀ stored ∈ documents, (document store call).get "_id" = none ∨
      (document store call).get "_id" ≠ stored.get "_id") :
    upsert store documents call.docId call.upsert.call = .ok (documents ++ [document store call],true) := by
  have unseen : isDuplicateEvent documents call.upsert.call.eventId = false := fresh
  have stale : isStale documents call.docId call.upsert.call.eventPosition = .ok false := by
    change shouldSkipStaleEvent documents call.filter call.upsert.eventPosition = _
    rw [shouldSkipStaleEvent,missing]
  have inserts : replaceOne documents (filterDoc call.docId) (replacement store call.docId call.upsert.call) =
      .ok (documents ++ [document store call]) := by
    change replaceOne documents call.filter (document store call) = _
    rw [replaceOne,missing]
    cases id : (document store call).get "_id" with
    | none => rfl
    | some value =>
      have free : (documents.any fun other => other.get "_id" = some value) = false := by
        refine List.any_eq_false.mpr fun stored member => ?_
        rcases unique stored member with none | differs
        · rw [id] at none
          cases none
        · rw [decide_eq_true_eq]
          exact fun same => differs (id.trans same.symm)
      simp [free]
  simp [upsert,unseen,stale,inserts,bind,Except.bind,pure,Except.pure]

theorem WellAddressed.sublist {store : Store} {calls fewer : List (Addressed Object)}
    (addressed : WellAddressed store calls) (part : fewer ⊆ calls) : WellAddressed store fewer :=
  fun call member other present => addressed call (part member) other (part present)

theorem Reflects.found {store : Store} {past : List (Addressed Object)} {documents : List (Record Object)}
    (reflects : Reflects store past documents) {call : Addressed Object} {stored : Record Object}
    (addressed : WellAddressed store (past ++ [call]))
    (found : documents.find? (selects call.filter) = some stored) :
    ∃ winner ∈ past, SameDocument call winner ∧ stored = document store winner ∧
      ∀ other ∈ past, SameDocument call other → other.upsert.eventPosition ≤ winner.upsert.eventPosition := by
  obtain ⟨writer,member,rfl⟩ := reflects.known stored (List.mem_of_find?_eq_some found)
  have same : SameDocument writer call := ((addressed writer (List.mem_append_left _ member) call
    (List.mem_append_right _ List.mem_cons_self)).1).mp (List.find?_some found)
  obtain ⟨winner,present,joined,highest,latest⟩ := reflects.latest writer member
  rw [same.selects,found] at latest
  refine ⟨winner,present,same.symm.trans joined,Option.some.inj latest,fun other there alike => ?_⟩
  exact highest other there (same.trans alike)

theorem Reflects.missing {store : Store} {past : List (Addressed Object)} {documents : List (Record Object)}
    (reflects : Reflects store past documents) {call : Addressed Object}
    (addressed : WellAddressed store (past ++ [call]))
    (found : documents.find? (selects call.filter) = none) :
    (∀ other ∈ past, ¬ SameDocument call other) ∧
      ∀ stored ∈ documents, (document store call).get "_id" = none ∨
        (document store call).get "_id" ≠ stored.get "_id" := by
  have apart : ∀ other ∈ past, ¬ SameDocument call other := by
    intro other old alike
    obtain ⟨_,_,_,_,stored⟩ := reflects.latest other old
    rw [← alike.selects,found] at stored
    cases stored
  refine ⟨apart,fun stored present => ?_⟩
  obtain ⟨writer,member,rfl⟩ := reflects.known stored present
  exact (addressed call (List.mem_append_right _ List.mem_cons_self) writer (List.mem_append_left _ member)).2.2
    (apart writer member)

theorem Reflects.skip {store : Store} {past : List (Addressed Object)} {documents : List (Record Object)}
    (reflects : Reflects store past documents) {call winner : Addressed Object} (member : winner ∈ past)
    (same : SameDocument call winner)
    (found : documents.find? (selects call.filter) = some (document store winner))
    (highest : ∀ other ∈ past, SameDocument call other → other.upsert.eventPosition ≤ winner.upsert.eventPosition)
    (older : call.upsert.eventPosition ≤ winner.upsert.eventPosition) : Reflects store (past ++ [call]) documents := by
  refine ⟨fun stored present => ?_,fun asked present => ?_⟩
  · obtain ⟨writer,there,shape⟩ := reflects.known stored present
    exact ⟨writer,List.mem_append_left _ there,shape⟩
  · by_cases this : SameDocument asked call
    · refine ⟨winner,List.mem_append_left _ member,this.trans same,fun other there alike => ?_,?_⟩
      · rcases List.mem_append.mp there with old | new
        · exact highest other old (this.symm.trans alike)
        · rw [List.mem_singleton.mp new]
          exact older
      · rw [this.selects]
        exact found
    · have old : asked ∈ past := (List.mem_append.mp present).resolve_right fun new => by
        rw [List.mem_singleton.mp new] at this
        exact this fun _ => rfl
      obtain ⟨latest,there,joined,top,stored⟩ := reflects.latest asked old
      refine ⟨latest,List.mem_append_left _ there,joined,fun other among alike => ?_,stored⟩
      rcases List.mem_append.mp among with before | new
      · exact top other before alike
      · rw [List.mem_singleton.mp new] at alike
        exact absurd alike this

theorem Reflects.write {store : Store} {past : List (Addressed Object)} {documents later : List (Record Object)}
    (reflects : Reflects store past documents) {call : Addressed Object}
    (parts : ∀ stored ∈ later, stored = document store call ∨ stored ∈ documents)
    (written : later.find? (selects call.filter) = some (document store call))
    (others : ∀ asked ∈ past, ¬ SameDocument asked call →
      later.find? (selects asked.filter) = documents.find? (selects asked.filter))
    (newer : ∀ other ∈ past, SameDocument call other → other.upsert.eventPosition ≤ call.upsert.eventPosition) :
    Reflects store (past ++ [call]) later := by
  refine ⟨fun stored present => ?_,fun asked present => ?_⟩
  · rcases parts stored present with shape | old
    · exact ⟨call,List.mem_append_right _ List.mem_cons_self,shape⟩
    · obtain ⟨writer,there,shape⟩ := reflects.known stored old
      exact ⟨writer,List.mem_append_left _ there,shape⟩
  · by_cases this : SameDocument asked call
    · refine ⟨call,List.mem_append_right _ List.mem_cons_self,this,fun other there alike => ?_,?_⟩
      · rcases List.mem_append.mp there with old | new
        · exact newer other old (this.symm.trans alike)
        · rw [List.mem_singleton.mp new]
      · rw [this.selects]
        exact written
    · have old : asked ∈ past := (List.mem_append.mp present).resolve_right fun new => by
        rw [List.mem_singleton.mp new] at this
        exact this fun _ => rfl
      obtain ⟨latest,there,joined,top,stored⟩ := reflects.latest asked old
      refine ⟨latest,List.mem_append_left _ there,joined,fun other among alike => ?_,(others asked old this).trans stored⟩
      rcases List.mem_append.mp among with before | new
      · exact top other before alike
      · rw [List.mem_singleton.mp new] at alike
        exact absurd alike this

theorem not_selects {store : Store} {calls : List (Addressed Object)} (addressed : WellAddressed store calls)
    {writer asked : Addressed Object} (member : writer ∈ calls) (present : asked ∈ calls)
    (differ : ¬ SameDocument writer asked) : selects asked.filter (document store writer) = false :=
  Bool.eq_false_iff.mpr fun hit => differ ((addressed writer member asked present).1.mp hit)

theorem step_reflects {store : Store} {past : List (Addressed Object)} {documents : List (Record Object)}
    (reflects : Reflects store past documents) {call : Addressed Object}
    (addressed : WellAddressed store (past ++ [call])) (unshadowed : Unshadowed documents call) :
    Reflects store (past ++ [call]) (step store documents call) := by
  have here : call ∈ past ++ [call] := List.mem_append_right _ List.mem_cons_self
  have among : ∀ other ∈ past, other ∈ past ++ [call] := fun other member => List.mem_append_left _ member
  cases duplicate : isDuplicateEvent documents (some call.upsert.eventId) with
  | true =>
    obtain ⟨stored,found,late⟩ := unshadowed duplicate
    obtain ⟨winner,member,same,rfl,highest⟩ := reflects.found addressed found
    rw [atLeast_document] at late
    rw [step,step_duplicate duplicate]
    exact reflects.skip member same found highest (of_decide_eq_true (Except.ok.inj late))
  | false =>
    cases found : documents.find? (selects call.filter) with
    | some stored =>
      obtain ⟨winner,member,same,rfl,highest⟩ := reflects.found addressed found
      have identified := (addressed call here winner (among winner member)).2.1 same
      rw [step,upsert_found duplicate found identified]
      by_cases older : call.upsert.eventPosition ≤ winner.upsert.eventPosition
      · rw [if_pos older]
        exact reflects.skip member same found highest older
      · rw [if_neg older]
        have own : selects call.filter (document store call) = true := (addressed call here call here).1.mpr fun _ => rfl
        refine reflects.write (fun stored present => mem_replaceFirst present) (replaceFirst_find_same own found)
          (fun asked old differ => ?_) (fun other old alike => (highest other old alike).trans (not_le.mp older).le)
        refine replaceFirst_find_other found ?_ ?_
        · exact not_selects addressed (among winner member) (among asked old) fun alike => differ (alike.symm.trans same.symm)
        · exact not_selects addressed here (among asked old) fun alike => differ alike.symm
    | none =>
      obtain ⟨apart,unique⟩ := reflects.missing addressed found
      have own : selects call.filter (document store call) = true := (addressed call here call here).1.mpr fun _ => rfl
      rw [step,upsert_missing duplicate found unique]
      refine reflects.write (fun stored present => ?_) ?_ (fun asked old differ => ?_)
        (fun other old alike => absurd alike (apart other old))
      · rcases List.mem_append.mp present with old | new
        · exact .inr old
        · exact .inl (List.mem_singleton.mp new)
      · rw [List.find?_append,found,Option.none_or,List.find?_cons_of_pos own]
      · have passed := not_selects addressed here (among asked old) fun alike => differ alike.symm
        rw [List.find?_append,List.find?_cons_of_neg (by simp [passed]),List.find?_nil,Option.or_none]

theorem run_reflects {store : Store} {past rest : List (Addressed Object)} {documents : List (Record Object)}
    (addressed : WellAddressed store (past ++ rest)) (reflects : Reflects store past documents)
    (meets : Transition.Meets (step store) Unshadowed documents rest) :
    Reflects store (past ++ rest) (Transition.run (step store) documents rest) := by
  induction rest generalizing past documents with
  | nil => simpa using reflects
  | cons call rest ih =>
    obtain ⟨unshadowed,later⟩ := meets
    have joined : past ++ call::rest = (past ++ [call]) ++ rest := by simp
    rw [joined] at addressed ⊢
    have next := step_reflects reflects (addressed.sublist (List.subset_append_left _ _)) unshadowed
    exact ih addressed next later

theorem reached_reflects {store : Store} {calls past : List (Addressed Object)} (addressed : WellAddressed store calls)
    (meets : Transition.Meets (step store) Unshadowed [] calls) (before : past <+: calls) :
    Reflects store past (reached store past) := by
  have start : Reflects store ([] : List (Addressed Object)) [] :=
    ⟨fun _ member => absurd member List.not_mem_nil,fun _ member => absurd member List.not_mem_nil⟩
  have fewer : WellAddressed store ([] ++ past) := addressed.sublist before.subset
  exact run_reflects fewer start (meets.earlier before)

theorem late_of_skipped {store : Store} {past : List (Addressed Object)} {documents later : List (Record Object)}
    {call : Addressed Object} (reflects : Reflects store past documents)
    (addressed : WellAddressed store (past ++ [call])) (unshadowed : Unshadowed documents call)
    (skipped : upsert store documents call.docId call.upsert.call = .ok (later,false)) :
    ∃ stored, documents.find? (selects call.filter) = some stored ∧
      atLeast stored call.upsert.eventPosition = .ok true := by
  have here : call ∈ past ++ [call] := List.mem_append_right _ List.mem_cons_self
  cases duplicate : isDuplicateEvent documents (some call.upsert.eventId) with
  | true => exact unshadowed duplicate
  | false =>
    cases found : documents.find? (selects call.filter) with
    | some stored =>
      obtain ⟨winner,member,same,rfl,_⟩ := reflects.found addressed found
      have identified := (addressed call here winner (List.mem_append_left _ member)).2.1 same
      rw [upsert_found duplicate found identified] at skipped
      by_cases older : call.upsert.eventPosition ≤ winner.upsert.eventPosition
      · exact ⟨_,rfl,by rw [atLeast_document,decide_eq_true older]⟩
      · rw [if_neg older] at skipped
        simp at skipped
    | none =>
      obtain ⟨_,unique⟩ := reflects.missing addressed found
      rw [upsert_missing duplicate found unique] at skipped
      simp at skipped

theorem last_position_wins_iff_unshadowed (store : Store) (calls : List (Addressed Object))
    (keyed : WellKeyed store calls) :
    LastPositionWins store calls ↔ Transition.Meets (step store) Unshadowed [] calls := by
  have addressed := keyed.wellAddressed
  constructor
  · intro wins
    refine Transition.meets_of_prefixes fun past call before duplicate => ?_
    obtain ⟨winner,_,_,highest,found⟩ := wins.latest (past ++ [call]) before call
      (List.mem_append_right _ List.mem_cons_self)
    have stays : reached store (past ++ [call]) = reached store past := by
      rw [reached,Transition.run_append,Transition.run_cons,Transition.run_nil,step,step_duplicate duplicate]
      rfl
    rw [stays] at found
    refine ⟨_,found,?_⟩
    rw [atLeast_document,decide_eq_true (highest call (List.mem_append_right _ List.mem_cons_self) fun _ => rfl)]
  · intro meets
    refine ⟨fun past before call member => (reached_reflects addressed meets before).latest call member,
      fun past call before documents skipped => ?_⟩
    have earlier : past <+: calls := (List.prefix_append past [call]).trans before
    have unshadowed : Unshadowed (reached store past) call :=
      ((Transition.meets_append _ _ _ past [call]).mp (meets.earlier before)).2.1
    obtain ⟨stored,found,late⟩ := late_of_skipped (reached_reflects addressed meets earlier)
      (addressed.sublist before.subset) unshadowed skipped
    exact ⟨stored,found,.inr late⟩

def simpleKey : DocId Object → Option (Value Object)
  | .text id => some (.text id)
  | .number id => some (.number id)
  | .composite _ _ => none

omit [DecidableEq Object] in
theorem filter_of_simple {call : Addressed Object} {key : Value Object} (simple : simpleKey call.docId = some key) :
    call.filter = Dict.empty.set "_id" key ∧ key ≠ .null := by
  obtain ⟨docId,upsert⟩ := call
  cases docId with
  | text id =>
    obtain rfl := Option.some.inj simple
    exact ⟨rfl,by simp⟩
  | number id =>
    obtain rfl := Option.some.inj simple
    exact ⟨rfl,by simp⟩
  | composite fields nonempty => cases simple

omit [DecidableEq Object] in
theorem givenId_of_simple (store : Store) {call : Addressed Object} {key : Value Object}
    (simple : simpleKey call.docId = some key) (bare : call.upsert.data.get "_id" = none) :
    givenId store call = some key := by
  rw [givenId,bare,(filter_of_simple simple).1,Dict.get_set_same]
  rfl

theorem selects_id {key theirKey : Value Object} {stored : Record Object} (stands : stored.get "_id" = some key)
    (real : theirKey ≠ .null) : selects (Dict.empty.set "_id" theirKey) stored = true ↔ key = theirKey := by
  rw [selects_iff]
  constructor
  · intro every
    rcases every "_id" theirKey (Dict.get_set_same _ _ _) with same | ⟨null,_⟩
    · exact Option.some.inj (stands.symm.trans same)
    · exact absurd null real
  · rintro rfl field value found
    rw [Dict.get_set] at found
    split at found
    next hit =>
      rw [hit,stands]
      exact .inl found
    next => cases found

theorem wellKeyed_of_simple (store : Store) {calls : List (Addressed Object)}
    (simple : ∀ call ∈ calls, (simpleKey call.docId).isSome = true)
    (bare : ∀ call ∈ calls, call.upsert.data.get "_id" = none) : WellKeyed store calls := by
  have keys : ∀ call ∈ calls, ∃ key, call.filter = Dict.empty.set "_id" key ∧ key ≠ .null ∧
      givenId store call = some key := by
    intro call member
    obtain ⟨key,mine⟩ := Option.isSome_iff_exists.mp (simple call member)
    obtain ⟨filter,real⟩ := filter_of_simple mine
    exact ⟨key,filter,real,givenId_of_simple store mine (bare call member)⟩
  have alike : ∀ call ∈ calls, ∀ other ∈ calls, SameDocument call other ↔ givenId store call = givenId store other := by
    intro call member other present
    obtain ⟨key,filter,_,id⟩ := keys call member
    obtain ⟨theirKey,theirFilter,_,theirId⟩ := keys other present
    rw [SameDocument,filter,theirFilter,id,theirId,Option.some_inj]
    constructor
    · intro same
      have both := same "_id"
      rw [Dict.get_set_same,Dict.get_set_same] at both
      exact Option.some.inj both
    · rintro rfl field
      rfl
  refine ⟨fun call member field value found => ?_,fun call member other present => ?_,
    fun call member other present same => (alike call member other present).mp same,
    fun call member other present differ => .inr fun same => differ ((alike call member other present).mpr same)⟩
  · obtain ⟨key,filter,_,_⟩ := keys call member
    have plain := store.plain
    simp only [List.mem_cons,List.not_mem_nil,or_false,not_or] at plain
    rw [filter,Dict.get_set] at found
    split at found
    next hit => simp [hit,Ne.symm plain.1]
    next => cases found
  · obtain ⟨key,_,_,id⟩ := keys call member
    obtain ⟨theirKey,theirFilter,real,theirId⟩ := keys other present
    have stands : (labelled store call).get "_id" = some key := by
      rw [labelled,id]
      exact Dict.get_set_same _ _ _
    rw [alike call member other present,id,theirId,theirFilter,Option.some_inj]
    exact selects_id stands real

/-- A document with a total, written for the event `e1` at the position 1. -/
def totalOf (id : String) : Addressed Unit := ⟨.text id,⟨Dict.empty.set "total" (.number 10),1,"e1"⟩⟩

theorem last_position_wins_iff_unshadowed_of_two :
    LastPositionWins ⟨"id",by decide⟩ [totalOf "a",totalOf "b",totalOf "a"] ↔
      Transition.Meets (step ⟨"id",by decide⟩) Unshadowed [] [totalOf "a",totalOf "b",totalOf "a"] :=
  last_position_wins_iff_unshadowed ⟨"id",by decide⟩ [totalOf "a",totalOf "b",totalOf "a"]
    (wellKeyed_of_simple _ (by decide) (by decide))

def orderOf (eventPosition : Int) (eventId : String) : Addressed Unit :=
  ⟨.composite ((Dict.empty.set "tenant_id" (.text "a")).set "id" (.number 7)) (by decide),
    ⟨(Dict.empty.set "tenant_id" (.text "a")).set "id" (.number 7),eventPosition,eventId⟩⟩

theorem not_lastPositionWins {store : Store} {calls : List (Addressed Object)} {call : Addressed Object}
    (member : call ∈ calls) (missing : (reached store calls).find? (selects call.filter) = none) :
    ¬ LastPositionWins store calls := by
  intro wins
  obtain ⟨_,_,_,_,found⟩ := wins.latest calls (List.prefix_refl calls) call member
  rw [missing] at found
  cases found

/-- One event updates two documents: the second one is skipped and never written. And under a key that has the id field, a
document is never found again: the second upsert to it raises. -/
theorem an_event_updates_only_one_document :
    WellKeyed ⟨"id",by decide⟩ [totalOf "a",totalOf "b"] ∧
    upsert ⟨"id",by decide⟩ (reached ⟨"id",by decide⟩ [totalOf "a"]) (totalOf "b").docId (totalOf "b").upsert.call =
      .ok (reached ⟨"id",by decide⟩ [totalOf "a"],false) ∧
    (reached ⟨"id",by decide⟩ [totalOf "a",totalOf "b"]).find? (selects (totalOf "b").filter) = none ∧
    ¬ LastPositionWins ⟨"id",by decide⟩ [totalOf "a",totalOf "b"] ∧
    upsert ⟨"id",by decide⟩ (reached ⟨"id",by decide⟩ [orderOf 1 "e1"]) (orderOf 2 "e2").docId
      (orderOf 2 "e2").upsert.call = .error .rejected ∧
    ¬ LastPositionWins ⟨"id",by decide⟩ [orderOf 1 "e1",orderOf 2 "e2"] := by
  have missing : (reached ⟨"id",by decide⟩ [totalOf "a",totalOf "b"]).find? (selects (totalOf "b").filter) = none := rfl
  have lost : (reached ⟨"id",by decide⟩ [orderOf 1 "e1",orderOf 2 "e2"]).find? (selects (orderOf 2 "e2").filter) = none := by
    decide
  exact ⟨wellKeyed_of_simple _ (by decide) (by decide),step_duplicate (by decide),missing,
    not_lastPositionWins (by simp) missing,rfl,not_lastPositionWins (by simp) lost⟩

end CqrsDdd.Projections.MongoProjectionStore
