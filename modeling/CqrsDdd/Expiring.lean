import CqrsDdd.Dict
import Mathlib.Order.Lattice

/-! Dictionaries whose entries may expire. `look` is what a reader sees at a moment;
an expired entry stays until somebody prunes it. -/
namespace CqrsDdd.Expiring

structure Entry (Time Value : Type*) where
  value : Value
  expiresAt : Option Time

abbrev Table (Time Key Value : Type*) := Dict Key (Entry Time Value)

variable {Time Key Value : Type*} [LinearOrder Time]

def Entry.expired (entry : Entry Time Value) (now : Time) : Bool :=
  match entry.expiresAt with
  | some deadline => decide (deadline < now)
  | none => false

theorem Entry.expired_later {entry : Entry Time Value} {now later : Time} (passed : now ≤ later)
    (expired : entry.expired now = true) : entry.expired later = true := by
  unfold Entry.expired at expired ⊢
  split at expired
  next deadline _ => exact decide_eq_true (lt_of_lt_of_le (of_decide_eq_true expired) passed)
  next => cases expired

variable [DecidableEq Key]

def look (table : Table Time Key Value) (now : Time) (key : Key) : Option Value :=
  (table.get key).bind fun entry => if entry.expired now then none else some entry.value

def prune (table : Table Time Key Value) (now : Time) (key : Key) : Table Time Key Value :=
  match table.get key with
  | some entry => if entry.expired now then table.erase key else table
  | none => table

theorem look_some {table : Table Time Key Value} {now : Time} {key : Key} {value : Value}
    (seen : look table now key = some value) :
    ∃ entry, table.get key = some entry ∧ entry.expired now = false ∧ entry.value = value := by
  obtain ⟨entry,found,read⟩ := Option.bind_eq_some_iff.mp seen
  cases expired : entry.expired now with
  | true =>
    rw [expired] at read
    cases read
  | false =>
    rw [expired] at read
    exact ⟨entry,found,expired,Option.some.inj read⟩

theorem look_of_get {table : Table Time Key Value} {now : Time} {key : Key} {entry : Entry Time Value}
    (found : table.get key = some entry) (fresh : entry.expired now = false) :
    look table now key = some entry.value := by
  unfold look
  rw [found,Option.bind_some,fresh]
  rfl

theorem look_later {table : Table Time Key Value} {now later : Time} (passed : now ≤ later) {key : Key} {value : Value}
    (seen : look table later key = some value) : look table now key = some value := by
  obtain ⟨entry,found,fresh,rfl⟩ := look_some seen
  apply look_of_get found
  by_contra expired
  exact Bool.false_ne_true (fresh.symm.trans (Entry.expired_later passed (Bool.not_eq_false _ ▸ expired)))

theorem look_set_other (table : Table Time Key Value) (now : Time) {key other : Key} (entry : Entry Time Value)
    (differs : other ≠ key) : look (table.set key entry) now other = look table now other := by
  unfold look
  rw [Dict.get_set_other table entry differs]

theorem look_set_self {table : Table Time Key Value} {now : Time} {key : Key} {entry : Entry Time Value} {value : Value}
    (seen : look (table.set key entry) now key = some value) : entry.value = value := by
  obtain ⟨found,stored,_,rfl⟩ := look_some seen
  rw [Dict.get_set,if_pos rfl] at stored
  rw [Option.some.inj stored]

theorem look_erase_self (table : Table Time Key Value) (now : Time) (key : Key) :
    look (table.erase key) now key = none := by
  unfold look
  rw [Dict.get_erase_same]
  rfl

theorem look_erase_other (table : Table Time Key Value) (now : Time) {key other : Key} (differs : other ≠ key) :
    look (table.erase key) now other = look table now other := by
  unfold look
  rw [Dict.get_erase_other table differs]

/-- Whatever a reader finds after a change was there before it. -/
def Fades (now : Time) (before after : Table Time Key Value) : Prop :=
  ∀ later, now ≤ later → ∀ key value, look after later key = some value → look before later key = some value

theorem Fades.refl (now : Time) (table : Table Time Key Value) : Fades now table table :=
  fun _ _ _ _ seen => seen

theorem Fades.trans {now : Time} {first middle last : Table Time Key Value} (earlier : Fades now first middle)
    (later : Fades now middle last) : Fades now first last :=
  fun time passed key value seen => earlier time passed key value (later time passed key value seen)

theorem Fades.none {now : Time} {before after : Table Time Key Value} (fades : Fades now before after) {key : Key}
    (gone : look before now key = none) : look after now key = none := by
  cases seen : look after now key with
  | none => rfl
  | some value => cases gone.symm.trans (fades now le_rfl key value seen)

theorem erase_fades (now : Time) (table : Table Time Key Value) (key : Key) : Fades now table (table.erase key) := by
  intro later passed other value seen
  by_cases same : other = key
  · rw [same,look_erase_self] at seen
    cases seen
  · rwa [look_erase_other table later same] at seen

theorem prune_fades (now : Time) (table : Table Time Key Value) (key : Key) : Fades now table (prune table now key) := by
  unfold prune
  split
  next =>
    split
    next => exact erase_fades now table key
    next => exact Fades.refl now table
  next => exact Fades.refl now table

end CqrsDdd.Expiring
