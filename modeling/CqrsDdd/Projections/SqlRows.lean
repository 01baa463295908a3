import CqrsDdd.Attempts
import CqrsDdd.Projections.Stores

/-! The row of one key under a sequence of upserts to the SQL projection store. The
statement never updates the version columns, so the row keeps the position of
its first upsert and takes the data of every later one with a higher position. -/
namespace CqrsDdd.Projections.SQLAlchemyProjectionStore

open Messaging

variable {Object : Type}

def written (docId : DocId Object) (request : EventUpsert Object) : Record Object :=
  addEventMetadata (prepareUpsertData docId request.data) (some request.eventPosition) (some request.eventId)

/-- The statement of an upsert inserts the row of the key: its names are identifiers, it has a column
that is neither a key nor a version column, the database takes it, and its data carry the key. -/
def Inserts (store : Store Object) (collection : String) (docId : DocId Object) (request : EventUpsert Object) : Prop :=
  isIdentifier collection = true ∧ (∀ entry ∈ keyFields store docId, isIdentifier entry.1 = true) ∧
    (∀ column ∈ (written docId request).keys, isIdentifier column = true) ∧
    (updateColumns ((keyFields store docId).map Prod.fst) (written docId request)).isEmpty = false ∧
    store.accepts (written docId request) = true ∧
    ∀ entry ∈ keyFields store docId, (written docId request).get entry.1 = some entry.2

theorem written_version (docId : DocId Object) (request : EventUpsert Object) :
    (written docId request).get "_version" = some (.number request.eventPosition) := by
  simp only [written,addEventMetadata,Option.elim_some]
  rw [Dict.get_set_other _ _ (by decide),Dict.get_set_other _ _ (by decide),Dict.get_set_same]

theorem written_position (docId : DocId Object) (request : EventUpsert Object) :
    (written docId request).get "_last_event_position" = some (.number request.eventPosition) := by
  simp only [written,addEventMetadata,Option.elim_some,Dict.get_set_same]

theorem written_data (docId : DocId Object) (request : EventUpsert Object) {column : String}
    (own : column ∉ excludeFromUpdate) :
    (written docId request).get column = (prepareUpsertData docId request.data).get column := by
  simp only [excludeFromUpdate,List.mem_cons,List.not_mem_nil,or_false,not_or] at own
  simp only [written,addEventMetadata,Option.elim_some]
  rw [Dict.get_set_other _ _ own.2.2,Dict.get_set_other _ _ own.2.1,Dict.get_set_other _ _ own.1]

theorem forM_validateIdentifier (context : String) (names : List String) :
    names.forM (validateIdentifier context) = .ok () ↔ ∀ name ∈ names, isIdentifier name = true := by
  have one : ∀ name, validateIdentifier context name = .ok () ↔ isIdentifier name = true := by
    intro name
    cases valid : isIdentifier name with
    | true => simp [validateIdentifier,valid]
    | false => simp [validateIdentifier,valid]
  rw [Attempts.forM_ok]
  exact forall₂_congr fun name _ => one name

theorem whereFromDocId_eq {store : Store Object} {docId : DocId Object}
    (valid : ∀ entry ∈ keyFields store docId, isIdentifier entry.1 = true) :
    whereFromDocId store docId = .ok ((keyFields store docId).map Prod.fst) := by
  have names : ((keyFields store docId).map Prod.fst).forM (validateIdentifier "column name") = .ok () :=
    (forM_validateIdentifier _ _).mpr fun name member => by
      obtain ⟨entry,present,rfl⟩ := List.mem_map.mp member
      exact valid entry present
  simp only [whereFromDocId,names,bind,Except.bind,pure,Except.pure]

theorem valid_of_whereFromDocId {store : Store Object} {docId : DocId Object} {columns : List String}
    (found : whereFromDocId store docId = .ok columns) :
    (∀ entry ∈ keyFields store docId, isIdentifier entry.1 = true) ∧
      columns = (keyFields store docId).map Prod.fst := by
  rw [whereFromDocId] at found
  cases checked : ((keyFields store docId).map Prod.fst).forM (validateIdentifier "column name") with
  | error failure => simp [checked,bind,Except.bind] at found
  | ok result =>
    simp only [checked,bind,Except.bind,pure,Except.pure,Except.ok.injEq] at found
    refine ⟨fun entry member => ?_,found.symm⟩
    exact (forM_validateIdentifier _ _).mp checked entry.1 (List.mem_map_of_mem member)

theorem shouldSkipUpsert_none {store : Store Object} {docId : DocId Object}
    (valid : ∀ entry ∈ keyFields store docId, isIdentifier entry.1 = true) (request : EventUpsert Object) :
    shouldSkipUpsert store docId none request.call = .ok false := by
  have found : get store docId none = .ok none := by
    simp only [get,whereFromDocId_eq valid,bind,Except.bind,pure,Except.pure]
  have fresh : isDuplicate store docId none (some request.eventId) = .ok false := by
    unfold isDuplicate
    split
    next => rfl
    next => rfl
    next => simp [found,bind,Except.bind,pure,Except.pure]
  simp [shouldSkipUpsert,EventUpsert.call,fresh,shouldSkipStaleEvent,found,bind,Except.bind,pure,Except.pure]

theorem shouldSkipUpsert_stale {store : Store Object} {docId : DocId Object} {row : Record Object} {version : Int}
    (valid : ∀ entry ∈ keyFields store docId, isIdentifier entry.1 = true)
    (stored : row.get "_version" = some (.number version)) {request : EventUpsert Object}
    (stale : request.eventPosition ≤ version) :
    shouldSkipUpsert store docId (some row) request.call = .ok true := by
  have found : get store docId (some row) = .ok (some row) := by
    simp only [get,whereFromDocId_eq valid,bind,Except.bind,pure,Except.pure]
  have later : shouldSkipStaleEvent store docId (some row) request.eventPosition = .ok true := by
    simp [shouldSkipStaleEvent,found,atLeast,stored,stale,bind,Except.bind]
  have answered : ∃ duplicate, isDuplicate store docId (some row) (some request.eventId) = .ok duplicate := by
    unfold isDuplicate
    split
    next => exact ⟨false,rfl⟩
    next => exact ⟨false,rfl⟩
    next eventId _ _ => exact ⟨lastEventIs row eventId,by simp [found,bind,Except.bind,pure,Except.pure]⟩
  obtain ⟨duplicate,answer⟩ := answered
  cases duplicate with
  | true => simp [shouldSkipUpsert,EventUpsert.call,answer,bind,Except.bind,pure,Except.pure]
  | false => simp [shouldSkipUpsert,EventUpsert.call,answer,later,bind,Except.bind]

theorem foldl_update_get (row : Record Object) (conflictColumns : List String) (data : Record Object) {column : String}
    (excluded : column ∈ excludeFromUpdate) :
    ((updateColumns conflictColumns data).foldl (fun updated entry => updated.set entry.1 entry.2) row).get column =
      row.get column := by
  have differ : ∀ entry ∈ updateColumns conflictColumns data, column ≠ entry.1 := by
    intro entry member same
    have kept := (List.mem_filter.mp member).2
    simp only [Bool.decide_and,Bool.and_eq_true,decide_eq_true_eq] at kept
    exact kept.2 (same ▸ excluded)
  generalize updateColumns conflictColumns data = entries at differ
  induction entries generalizing row with
  | nil => rfl
  | cons entry rest ih =>
    rw [List.foldl_cons,ih _ fun other member => differ other (List.mem_cons_of_mem entry member)]
    exact Dict.get_set_other row entry.2 (differ entry List.mem_cons_self)

variable [DecidableEq Object]

/-- The row of the key after an upsert; one that raises leaves it as it was. -/
def step (store : Store Object) (collection : String) (docId : DocId Object) (row : Option (Record Object))
    (request : EventUpsert Object) : Option (Record Object) :=
  match upsert store collection docId row request.call with
  | .ok (stored,_) => stored
  | .error _ => row

/-- After every upsert of the sequence, the row holds the data and the position of one with the highest
position so far, and none of those so far changes it any more. -/
def LastPositionWins (store : Store Object) (collection : String) (docId : DocId Object)
    (upserts : List (EventUpsert Object)) : Prop :=
  ∀ past, past <+: upserts → past ≠ [] → ∃ row, ∃ winner ∈ past,
    Transition.run (step store collection docId) none past = some row ∧
    (∀ other ∈ past, other.eventPosition ≤ winner.eventPosition) ∧
    (∀ column value, (prepareUpsertData docId winner.data).get column = some value → column ∉ excludeFromUpdate →
      row.get column = some value) ∧
    row.get "_version" = some (.number winner.eventPosition) ∧
    row.get "_last_event_position" = some (.number winner.eventPosition) ∧
    ∀ other ∈ past, step store collection docId (some row) other = some row

theorem upsertImpl_cases {store : Store Object} {docId : DocId Object} {row stored : Option (Record Object)}
    {data : Record Object} (done : upsertImpl store docId row data = .ok stored) :
    (∀ entry ∈ keyFields store docId, isIdentifier entry.1 = true) ∧ (∀ column ∈ data.keys, isIdentifier column = true) ∧
      (updateColumns ((keyFields store docId).map Prod.fst) data).isEmpty = false ∧ store.accepts data = true ∧
      ((∀ entry ∈ keyFields store docId, data.get entry.1 = some entry.2) ∧
        stored = some (row.elim data fun existing => (updateColumns ((keyFields store docId).map Prod.fst) data).foldl
          (fun updated entry => updated.set entry.1 entry.2) existing) ∨
      stored = row ∧ ¬ ∀ entry ∈ keyFields store docId, data.get entry.1 = some entry.2) := by
  rw [upsertImpl] at done
  cases named : data.keys.forM (validateIdentifier "column name") with
  | error failure => simp [named,bind,Except.bind] at done
  | ok result =>
    cases keyed : whereFromDocId store docId with
    | error failure => simp [named,keyed,bind,Except.bind] at done
    | ok columns =>
      obtain ⟨valid,rfl⟩ := valid_of_whereFromDocId keyed
      simp only [named,keyed,bind,Except.bind,pure,Except.pure] at done
      split at done
      next => cases done
      next accepted =>
        simp only [Bool.or_eq_true,Bool.not_eq_true',not_or,Bool.not_eq_false,Bool.not_eq_true] at accepted
        refine ⟨valid,(forM_validateIdentifier _ _).mp named,accepted.1,accepted.2,?_⟩
        split at done
        next carried =>
          refine .inl ⟨fun entry member => of_decide_eq_true (List.all_eq_true.mp carried entry member),?_⟩
          exact (Except.ok.inj done).symm
        next foreign =>
          refine .inr ⟨(Except.ok.inj done).symm,fun carried => foreign ?_⟩
          exact List.all_eq_true.mpr fun entry member => decide_eq_true (carried entry member)

theorem upsertImpl_of_inserts {store : Store Object} {collection : String} {docId : DocId Object}
    {request : EventUpsert Object} (inserts : Inserts store collection docId request) :
    upsertImpl store docId none (written docId request) = .ok (some (written docId request)) := by
  obtain ⟨_,keys,columns,own,taken,carried⟩ := inserts
  have names := (forM_validateIdentifier "column name" (written docId request).keys).mpr columns
  have key : ((keyFields store docId).all fun entry => (written docId request).get entry.1 = some entry.2) = true :=
    List.all_eq_true.mpr fun entry member => decide_eq_true (carried entry member)
  simp [upsertImpl,names,whereFromDocId_eq keys,own,taken,key,bind,Except.bind,pure,Except.pure]

theorem step_cases (store : Store Object) (collection : String) (docId : DocId Object) (row : Option (Record Object))
    (request : EventUpsert Object) :
    step store collection docId row request = row ∨
      isIdentifier collection = true ∧ ∃ stored, upsertImpl store docId row (written docId request) = .ok stored ∧
        step store collection docId row request = stored := by
  have data : addEventMetadata (prepareUpsertData docId request.call.data) request.call.eventPosition
      request.call.eventId = written docId request := rfl
  simp only [step,upsert,data]
  cases table : isIdentifier collection with
  | false => exact .inl (by simp [validateIdentifier,table,bind,Except.bind])
  | true =>
    simp only [validateIdentifier,table,if_true,bind,Except.bind,pure,Except.pure]
    cases shouldSkipUpsert store docId row request.call with
    | error failure => exact .inl rfl
    | ok skipped =>
      cases skipped with
      | true => exact .inl rfl
      | false =>
        cases result : upsertImpl store docId row (written docId request) with
        | error failure => exact .inl rfl
        | ok stored => exact .inr ⟨trivial,stored,rfl,rfl⟩

theorem step_of_inserts {store : Store Object} {collection : String} {docId : DocId Object}
    {request : EventUpsert Object} (inserts : Inserts store collection docId request) :
    step store collection docId none request = some (written docId request) := by
  have table : validateIdentifier "table name" collection = .ok () := by simp [validateIdentifier,inserts.1]
  have data : addEventMetadata (prepareUpsertData docId request.call.data) request.call.eventPosition
      request.call.eventId = written docId request := rfl
  simp only [step,upsert,data,table,shouldSkipUpsert_none inserts.2.1,upsertImpl_of_inserts inserts,bind,Except.bind,
    pure,Except.pure,Bool.false_eq_true,if_false]

theorem inserts_of_step {store : Store Object} {collection : String} {docId : DocId Object}
    {request : EventUpsert Object} {row : Record Object} (stored : step store collection docId none request = some row) :
    Inserts store collection docId request := by
  rcases step_cases store collection docId none request with same | ⟨table,result,done,taken⟩
  · exact absurd (same.symm.trans stored) (by simp)
  · obtain ⟨keys,columns,own,accepted,⟨carried,_⟩ | ⟨nothing,_⟩⟩ := upsertImpl_cases done
    · exact ⟨table,keys,columns,own,accepted,carried⟩
    · exact absurd ((nothing.symm.trans taken.symm).trans stored) (by simp)

theorem step_version {store : Store Object} {collection : String} {docId : DocId Object} {row : Record Object}
    {version : Value Object} (stored : row.get "_version" = some version) (request : EventUpsert Object) :
    ∃ later, step store collection docId (some row) request = some later ∧ later.get "_version" = some version := by
  rcases step_cases store collection docId (some row) request with same | ⟨_,result,done,taken⟩
  · exact ⟨row,same,stored⟩
  · obtain ⟨_,_,_,_,⟨_,updated⟩ | ⟨unchanged,_⟩⟩ := upsertImpl_cases done
    · refine ⟨_,taken.trans updated,?_⟩
      rw [Option.elim_some,foldl_update_get _ _ _ (by decide)]
      exact stored
    · exact ⟨row,taken.trans unchanged,stored⟩

theorem run_version (store : Store Object) (collection : String) {docId : DocId Object} {row : Record Object}
    {version : Value Object} (stored : row.get "_version" = some version) (upserts : List (EventUpsert Object)) :
    ∃ later, Transition.run (step store collection docId) (some row) upserts = some later ∧
      later.get "_version" = some version :=
  Transition.run_invariant (fun row => ∃ later, row = some later ∧ later.get "_version" = some version)
    (fun row request known _ => by
      obtain ⟨later,rfl,kept⟩ := known
      exact step_version kept request)
    (some row) upserts ⟨row,rfl,stored⟩ (Transition.meets_of_forall _ _ (fun _ _ => trivial) _ _)

theorem step_stale {store : Store Object} {collection : String} {docId : DocId Object} {row : Record Object}
    {version : Int} (stored : row.get "_version" = some (.number version)) {request : EventUpsert Object}
    (stale : request.eventPosition ≤ version) : step store collection docId (some row) request = some row := by
  by_cases valid : ∀ entry ∈ keyFields store docId, isIdentifier entry.1 = true
  · have skip := shouldSkipUpsert_stale valid stored stale
    simp only [step,upsert,skip,bind,Except.bind,pure,Except.pure,if_true]
    cases validateIdentifier "table name" collection with
    | error failure => rfl
    | ok result => rfl
  · rcases step_cases store collection docId (some row) request with same | ⟨_,_,done,_⟩
    · exact same
    · exact absurd (upsertImpl_cases done).1 valid

theorem run_stale {store : Store Object} {collection : String} {docId : DocId Object} {row : Record Object}
    {version : Int} (stored : row.get "_version" = some (.number version)) {upserts : List (EventUpsert Object)}
    (stale : ∀ request ∈ upserts, request.eventPosition ≤ version) :
    Transition.run (step store collection docId) (some row) upserts = some row :=
  Transition.run_invariant (fun current => current = some row)
    (fun current request same older => by
      subst same
      exact step_stale stored older)
    (some row) upserts rfl (Transition.meets_of_mem (some row) stale)

theorem last_position_wins_iff_first_is_highest (store : Store Object) (collection : String) (docId : DocId Object)
    (upserts : List (EventUpsert Object)) :
    LastPositionWins store collection docId upserts ↔ ∀ first rest, upserts = first::rest →
      Inserts store collection docId first ∧ ∀ later ∈ rest, later.eventPosition ≤ first.eventPosition := by
  constructor
  · rintro wins first rest rfl
    obtain ⟨row,_,_,stored,_⟩ := wins [first] (List.prefix_append [first] rest) (List.cons_ne_nil _ _)
    have inserts := inserts_of_step stored
    refine ⟨inserts,fun later member => ?_⟩
    obtain ⟨final,winner,_,reached,highest,_,version,_,_⟩ := wins _ (List.prefix_refl _) (List.cons_ne_nil _ _)
    -- The version is that of the first upsert, and has to be the highest.
    obtain ⟨kept,same,fixed⟩ := run_version store collection
      (written_version docId first) rest
    rw [Transition.run_cons,step_of_inserts inserts] at reached
    obtain rfl := Option.some.inj (same.symm.trans reached)
    have equal : winner.eventPosition = first.eventPosition := Value.number.inj (Option.some.inj (version.symm.trans fixed))
    exact equal ▸ highest later (List.mem_cons_of_mem first member)
  · intro condition past before nonempty
    obtain ⟨first,rest,rfl⟩ := List.exists_cons_of_ne_nil nonempty
    obtain ⟨more,rfl⟩ := before
    obtain ⟨inserts,older⟩ := condition first (rest ++ more) rfl
    have stale : ∀ later ∈ rest, later.eventPosition ≤ first.eventPosition :=
      fun later member => older later (List.mem_append_left _ member)
    have all : ∀ other ∈ first::rest, other.eventPosition ≤ first.eventPosition := by
      intro other member
      rcases List.mem_cons.mp member with rfl | later
      · exact le_refl _
      · exact stale other later
    have version := written_version docId first
    refine ⟨written docId first,first,List.mem_cons_self,?_,all,fun column value found own => ?_,version,
      written_position docId first,fun other member => step_stale version (all other member)⟩
    · rw [Transition.run_cons,step_of_inserts inserts]
      exact run_stale version stale
    · rw [written_data docId first own]
      exact found

def orderTotal (total position : Int) (eventId : String) : EventUpsert Unit :=
  ⟨(Dict.empty.set "id" (.text "o")).set "total" (.number total),position,eventId⟩

/-- After the positions 1, 3 and 2 the row has the data of the position 2 and the version 1. -/
theorem a_later_upsert_does_not_raise_the_version :
    (Transition.run (step ⟨"id",fun _ => true⟩ "orders" (.text "o")) none
      [orderTotal 10 1 "e1",orderTotal 30 3 "e3",orderTotal 20 2 "e2"]).map
        (fun row => (row.get "total",row.get "_version")) = some (some (.number 20),some (.number 1)) ∧
    ¬ LastPositionWins ⟨"id",fun _ => true⟩ "orders" (.text "o")
      [orderTotal 10 1 "e1",orderTotal 30 3 "e3",orderTotal 20 2 "e2"] := by
  have final : (Transition.run (step ⟨"id",fun _ => true⟩ "orders" (.text "o")) none
      [orderTotal 10 1 "e1",orderTotal 30 3 "e3",orderTotal 20 2 "e2"]).map
        (fun row => (row.get "total",row.get "_version")) = some (some (.number 20),some (.number 1)) := by decide
  refine ⟨final,fun wins => ?_⟩
  obtain ⟨row,winner,_,reached,highest,_,version,_⟩ := wins _ (List.prefix_refl _) (List.cons_ne_nil _ _)
  rw [reached,Option.map_some,version] at final
  have one : winner.eventPosition = 1 := Value.number.inj (Option.some.inj (Prod.mk.inj (Option.some.inj final)).2)
  have three := highest (orderTotal 30 3 "e3") (by simp)
  rw [one] at three
  exact absurd three (by decide)

end CqrsDdd.Projections.SQLAlchemyProjectionStore
