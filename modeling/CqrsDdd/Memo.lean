import CqrsDdd.Dict

/-! A function whose answers are kept in a store under a key of the call. A call
without a key is always computed; the store may forget an answer at any time.
The store is unnoticed exactly when calls that share a key agree. -/
namespace CqrsDdd.Memo

variable {Call Key Answer Stored View : Type*} [DecidableEq Key]

structure Table (Call Key Answer Stored : Type*) where
  key : Call → Option Key
  compute : Call → Answer
  dump : Answer → Stored
  load : Stored → Option Answer
  restores : ∀ answer, load (dump answer) = some answer

inductive Step (Call Key : Type*)
  | call (call : Call)
  | forget (key : Key)

def calls (steps : List (Step Call Key)) : List Call :=
  steps.filterMap fun step => match step with
    | .call call => some call
    | .forget _ => none

namespace Table

def lookup (table : Table Call Key Answer Stored) (store : Dict Key Stored) (call : Call) : Option Answer :=
  (table.key call).bind fun key => (store.get key).bind table.load

def answer (table : Table Call Key Answer Stored) (store : Dict Key Stored) (call : Call) : Answer :=
  (table.lookup store call).getD (table.compute call)

def after (table : Table Call Key Answer Stored) (store : Dict Key Stored) (call : Call) : Dict Key Stored :=
  match table.key call,table.lookup store call with
  | some key,none => store.set key (table.dump (table.compute call))
  | _,_ => store

def answers (table : Table Call Key Answer Stored) : Dict Key Stored → List (Step Call Key) → List Answer
  | _,[] => []
  | store,.call call::rest => table.answer store call::answers table (table.after store call) rest
  | store,.forget key::rest => answers table (store.erase key) rest

def Shares (table : Table Call Key Answer Stored) (first second : Call) : Prop :=
  ∃ key, table.key first = some key ∧ table.key second = some key

variable (table : Table Call Key Answer Stored) (view : Answer → View)

theorem lookup_shares {store : Dict Key Stored} {first second : Call} (shares : table.Shares first second) :
    table.lookup store first = table.lookup store second := by
  obtain ⟨key,left,right⟩ := shares
  simp [lookup,left,right]

/-- What a call finds after another one: what it found before, or the answer computed under its key. -/
theorem lookup_after (store : Dict Key Stored) (first second : Call) :
    table.lookup (table.after store first) second = table.lookup store second ∨
      table.Shares first second ∧ table.lookup store first = none ∧
        table.lookup (table.after store first) second = some (table.compute first) := by
  unfold after
  split
  next key keyed missed =>
    cases other : table.key second with
    | none => exact .inl (by simp [lookup,other])
    | some stored =>
      by_cases same : stored = key
      · subst same
        refine .inr ⟨⟨stored,keyed,other⟩,missed,?_⟩
        simp [lookup,other,table.restores]
      · exact .inl (by simp [lookup,other,Dict.get_set_other store _ same])
  next => exact .inl rfl

theorem lookup_kept {store : Dict Key Stored} {second : Call} {found : Answer}
    (hit : table.lookup store second = some found) (first : Call) :
    table.lookup (table.after store first) second = some found := by
  rcases table.lookup_after store first second with same | ⟨shares,missed,_⟩
  · exact same.trans hit
  · rw [table.lookup_shares shares,hit] at missed
    cases missed

theorem lookup_answer (store : Dict Key Stored) {first second : Call} (shares : table.Shares first second) :
    table.lookup (table.after store first) second = some (table.answer store first) := by
  cases hit : table.lookup store first with
  | some found =>
    rw [table.lookup_shares shares] at hit
    rw [table.lookup_kept hit,answer,table.lookup_shares shares,hit]
    rfl
  | none =>
    obtain ⟨key,keyed,other⟩ := shares
    have stored : table.after store first = store.set key (table.dump (table.compute first)) := by
      simp only [after,keyed,hit]
    rw [stored,answer,hit]
    simp [lookup,other,table.restores]

/-- What the store holds is seen like what every coming call computes. -/
def Sound (store : Dict Key Stored) (coming : List Call) : Prop :=
  ∀ call ∈ coming, ∀ found, table.lookup store call = some found → view found = view (table.compute call)

theorem answers_of_sound {store : Dict Key Stored} {steps : List (Step Call Key)}
    (sound : table.Sound view store (calls steps))
    (agree : (calls steps).Pairwise fun first second =>
      table.Shares first second → view (table.compute first) = view (table.compute second)) :
    (table.answers store steps).map view = (calls steps).map fun call => view (table.compute call) := by
  induction steps generalizing store with
  | nil => rfl
  | cons step rest ih =>
    cases step with
    | forget key =>
      refine ih (fun call coming found hit => sound call coming found ?_) agree
      obtain ⟨stored,keyed,hit⟩ := Option.bind_eq_some_iff.mp hit
      obtain ⟨text,kept,hit⟩ := Option.bind_eq_some_iff.mp hit
      simp [lookup,keyed,Dict.get_of_get_erase store kept,hit]
    | call first =>
      obtain ⟨alike,agree⟩ := List.pairwise_cons.mp agree
      have here : view (table.answer store first) = view (table.compute first) := by
        cases hit : table.lookup store first with
        | none => simp [answer,hit]
        | some found => simpa [answer,hit] using sound first List.mem_cons_self found hit
      have later : table.Sound view (table.after store first) (calls rest) := by
        intro call coming found hit
        rcases table.lookup_after store first call with same | ⟨shares,_,computed⟩
        · exact sound call (List.mem_cons_of_mem first coming) found (same ▸ hit)
        · obtain rfl := Option.some.inj (computed.symm.trans hit)
          exact alike call coming shares
      exact congrArg₂ List.cons here (ih later agree)

theorem answers_found {store : Dict Key Stored} {coming : List Call}
    (same : (table.answers store (coming.map .call)).map view = coming.map fun call => view (table.compute call)) :
    table.Sound view store coming := by
  induction coming generalizing store with
  | nil => exact fun call absent => absurd absent List.not_mem_nil
  | cons first rest ih =>
    obtain ⟨here,later⟩ := List.cons.inj same
    intro call member found hit
    rcases List.mem_cons.mp member with rfl | member
    · simpa [answer,hit] using here
    · exact ih later call member found (table.lookup_kept hit first)

theorem agree_of_answers {store : Dict Key Stored} {coming : List Call}
    (same : (table.answers store (coming.map .call)).map view = coming.map fun call => view (table.compute call)) :
    coming.Pairwise fun first second =>
      table.Shares first second → view (table.compute first) = view (table.compute second) := by
  induction coming generalizing store with
  | nil => exact List.Pairwise.nil
  | cons first rest ih =>
    obtain ⟨here,later⟩ := List.cons.inj same
    refine List.pairwise_cons.mpr ⟨fun second member shares => ?_,ih later⟩
    exact here.symm.trans (table.answers_found view later second member _ (table.lookup_answer store shares))

omit [DecidableEq Key] in
theorem calls_map (coming : List Call) : calls (coming.map fun call => (Step.call call : Step Call Key)) = coming := by
  simp [calls,List.filterMap_map]

theorem sound_empty (coming : List Call) : table.Sound view .empty coming := by
  intro call _ found hit
  obtain ⟨_,_,hit⟩ := Option.bind_eq_some_iff.mp hit
  cases hit

/-- Whatever is forgotten on the way, the store goes unnoticed exactly when calls with one key agree. -/
theorem answers_iff (coming : List Call) :
    (∀ steps, calls steps = coming →
      (table.answers .empty steps).map view = coming.map fun call => view (table.compute call)) ↔
    coming.Pairwise fun first second =>
      table.Shares first second → view (table.compute first) = view (table.compute second) := by
  constructor
  · intro same
    exact table.agree_of_answers view (same (coming.map .call) (calls_map coming))
  · rintro agree steps rfl
    exact table.answers_of_sound view (table.sound_empty view (calls steps)) agree

end Table
end CqrsDdd.Memo
