import CqrsDdd.Dict
import CqrsDdd.Transition
import CqrsDdd.Trimming
import Mathlib.Data.Finset.Card
import Mathlib.Data.Finset.Union

/-! Backup codes. A code is shown in groups of four letters and kept as it is shown; what a
user types is brought into that form when it has eight letters, and only then. -/
namespace CqrsDdd.Identity

abbrev Text := List Char

/-- `str.isspace` of one character. -/
def isSpace (char : Char) : Bool :=
  let code := char.toNat
  (9 ≤ code && code ≤ 13) || (28 ≤ code && code ≤ 32) || (0x2000 ≤ code && code ≤ 0x200a) ||
    [0x85,0xa0,0x1680,0x2028,0x2029,0x202f,0x205f,0x3000].contains code

def strip (text : Text) : Text := Trimming.trim isSpace text

/-- `str.upper`; the letters beyond ASCII are those of the Unicode tables. -/
def upper (unicode : Char → Text) (text : Text) : Text :=
  text.flatMap fun char => if char.toNat < 128 then [char.toUpper] else unicode char

/-- `ALPHABET`. -/
def alphabet : Text :=
  "ABCDEFGHIJKLMNOPQRSTUVWXYZ".toList.filter (fun char => char ≠ 'O' ∧ char ≠ 'I') ++
    "0123456789".toList.filter (fun char => char ≠ '0' ∧ char ≠ '1')

/-- What `_generate_code` draws. -/
structure RawCode (codeLength : Nat) where
  letters : Text
  sized : letters.length = codeLength
  chosen : ∀ letter ∈ letters, letter ∈ alphabet

def groups : Text → List Text
  | [] => []
  | first::second::third::fourth::rest => [first,second,third,fourth]::groups rest
  | short => [short]

def formatCode (code : Text) : Text := ['-'].intercalate (groups code)

structure BackupCodesService where
  codeLength : Nat
  defaultCount : Int

/-- `choice` are the codes as they are drawn one after the other. -/
def BackupCodesService.drawn (service : BackupCodesService) (count : Int) (choice : Nat → RawCode service.codeLength) :
    List (RawCode service.codeLength) :=
  (List.range (if count = 0 then service.defaultCount else count).toNat).map choice

def BackupCodesService.generate (service : BackupCodesService) (count : Int)
    (choice : Nat → RawCode service.codeLength) : List Text :=
  (service.drawn count choice).map fun code => formatCode code.letters

/-- The unused codes of each user. -/
abbrev Codes := Dict String (Finset Text)

namespace InMemoryBackupCodesService

variable (service : BackupCodesService) (unicode : Char → Text)

/-- `self._codes.get(user_id, set())`. -/
def held (codes : Codes) (userId : String) : Finset Text := (codes.get userId).getD ∅

def generate (userId : String) (count : Int) (choice : Nat → RawCode service.codeLength) (codes : Codes) :
    List Text × Codes :=
  let drawn := service.generate count choice
  (drawn,codes.set userId (held codes userId ∪ drawn.toFinset))

def normalizeCode (code : Text) : Text :=
  let code := upper unicode (strip code)
  if code.length = 8 ∧ '-' ∉ code then code.take 4 ++ '-'::code.drop 4 else code

def consume (userId : String) (code : Text) (codes : Codes) : Bool × Codes :=
  let normalized := normalizeCode unicode code
  match codes.get userId with
  | none => (false,codes)
  | some userCodes =>
    if normalized ∈ userCodes then (true,codes.set userId (userCodes.erase normalized)) else (false,codes)

def revoke (userId : String) (codes : Codes) : Codes := codes.set userId ∅

def getRemainingCount (userId : String) (codes : Codes) : Nat := (held codes userId).card

inductive Call (codeLength : Nat)
  | generate (userId : String) (count : Int) (choice : Nat → RawCode codeLength)
  | consume (userId : String) (code : Text)
  | revoke (userId : String)

def step (codes : Codes) : Call service.codeLength → Codes
  | .generate userId count choice => (generate service userId count choice codes).2
  | .consume userId code => (consume unicode userId code codes).2
  | .revoke userId => revoke userId codes

variable {service unicode} {codes : Codes}

theorem consume_answer (userId : String) (code : Text) :
    (consume unicode userId code codes).1 = true ↔ normalizeCode unicode code ∈ held codes userId := by
  unfold consume held
  cases codes.get userId with
  | none => simp
  | some userCodes =>
    dsimp only [Option.getD_some]
    split
    next member => exact iff_of_true rfl member
    next absent => exact iff_of_false Bool.false_ne_true absent

theorem held_set (userId other : String) (several : Finset Text) :
    held (codes.set userId several) other = if other = userId then several else held codes other := by
  unfold held
  rw [Dict.get_set]
  split
  next => exact rfl
  next => exact rfl

theorem held_generate (userId other : String) (count : Int) (choice : Nat → RawCode service.codeLength) :
    held (generate service userId count choice codes).2 other =
      if other = userId then held codes userId ∪ (service.generate count choice).toFinset else held codes other :=
  held_set userId other _

theorem held_consume (userId other : String) (code : Text) :
    held (consume unicode userId code codes).2 other =
      if other = userId then (held codes userId).erase (normalizeCode unicode code) else held codes other := by
  unfold consume
  by_cases same : other = userId
  · subst same
    rw [if_pos rfl]
    cases found : codes.get other with
    | none => simp [held,found]
    | some userCodes =>
      have own : held codes other = userCodes := by rw [held,found]; exact rfl
      dsimp only
      split
      next => rw [held_set,if_pos rfl,own]
      next absent => rw [own,Finset.erase_eq_of_notMem absent]
  · rw [if_neg same]
    cases codes.get userId with
    | none => exact rfl
    | some userCodes =>
      dsimp only
      split
      next => rw [held_set,if_neg same]
      next => exact rfl

theorem held_revoke (userId other : String) :
    held (revoke userId codes) other = if other = userId then ∅ else held codes other :=
  held_set userId other ∅

end InMemoryBackupCodesService

theorem groups_flatten (code : Text) : (groups code).flatten = code := by
  induction code using groups.induct with
  | case1 => exact rfl
  | case2 first second third fourth rest ih => rw [groups,List.flatten_cons,ih]; exact rfl
  | case3 short empty long =>
    rw [groups]
    · simp
    · exact empty
    · exact long

theorem without_dashes (pieces : List Text) :
    (['-'].intercalate pieces).filter (· ≠ '-') = pieces.flatten.filter (· ≠ '-') := by
  cases pieces with
  | nil => exact rfl
  | cons first rest =>
    rw [Trimming.intercalate_eq,List.flatten_cons,List.filter_append,List.filter_append]
    congr 1
    induction rest with
    | nil => exact rfl
    | cons next rest ih =>
      rw [List.flatMap_cons,List.filter_append,ih,List.flatten_cons,List.filter_append]
      simp

theorem filter_formatCode {code : Text} (plain : '-' ∉ code) : (formatCode code).filter (· ≠ '-') = code := by
  rw [formatCode,without_dashes,groups_flatten,List.filter_eq_self]
  intro letter member
  have differs : letter ≠ '-' := fun same => plain (same ▸ member)
  simpa using differs

theorem formatCode_inj {first second : Text} (plain : '-' ∉ first) (other : '-' ∉ second)
    (same : formatCode first = formatCode second) : first = second := by
  rw [← filter_formatCode plain,same,filter_formatCode other]

theorem formatCode_short {code : Text} (short : code.length ≤ 4) : formatCode code = code := by
  match code with
  | [] | [_] | [_,_] | [_,_,_] | [_,_,_,_] => exact rfl
  | _::_::_::_::_::_ =>
    simp only [List.length_cons] at short
    omega

theorem formatCode_long {first second third fourth fifth : Char} {rest : Text} :
    formatCode (first::second::third::fourth::fifth::rest) =
      [first,second,third,fourth] ++ '-'::formatCode (fifth::rest) := by
  have more : ∃ next others, groups (fifth::rest) = next::others := by
    match rest with
    | [] | [_] | [_,_] => exact ⟨_,_,rfl⟩
    | _::_::_::_ => exact ⟨_,_,rfl⟩
  obtain ⟨next,others,split⟩ := more
  rw [formatCode,formatCode,groups,split,List.intercalate_cons_cons]
  exact rfl

theorem formatCode_dashed {code : Text} (long : 4 < code.length) : '-' ∈ formatCode code := by
  match code with
  | [] | [_] | [_,_] | [_,_,_] | [_,_,_,_] =>
    simp only [List.length_cons,List.length_nil] at long
    omega
  | _::_::_::_::_::_ =>
    rw [formatCode_long]
    exact List.mem_append_right _ List.mem_cons_self

theorem formatCode_eight {code : Text} (eight : code.length = 8) :
    formatCode code = code.take 4 ++ '-'::code.drop 4 := by
  match code with
  | [_,_,_,_,_,_,_,_] => exact rfl
  | [] | [_] | [_,_] | [_,_,_] | [_,_,_,_] | [_,_,_,_,_] | [_,_,_,_,_,_] | [_,_,_,_,_,_,_] => cases eight
  | _::_::_::_::_::_::_::_::_::_ =>
    simp only [List.length_cons] at eight
    omega

end CqrsDdd.Identity
