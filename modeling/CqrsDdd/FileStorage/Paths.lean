import CqrsDdd.FileSystems
import CqrsDdd.Trimming

/-! Storage paths: which texts are taken as paths, what they are normalised to and the
paths of blobs, which are made of four segments. -/
namespace CqrsDdd.FileStorage
open FileSystems

abbrev Text := List Char

inductive PathError
  /-- A `ValueError` about a text that has nothing in it. -/
  | empty (name : String)
  | separators (name : String) (value : Text)
  | traversal (path : Text)
  deriving DecidableEq, Repr

/-- The text of the error, with the `repr` of Python as a parameter. -/
def PathError.message (repr : Text → String) : PathError → String
  | .empty name => name ++ " must be a non-empty string"
  | .separators name value => name ++ " must not contain path separators: " ++ repr value
  | .traversal path => "Path traversal detected: " ++ repr path

section Validation

/-- `\.\.(/|$)` at the front; the dollar also stands before a last newline. -/
def climbs : Text → Bool
  | '.' :: '.' :: rest => rest = [] || rest = ['\n'] || rest.head? = some '/'
  | _ => false

/-- `/\.\.(/|$)|\\`, searched for. -/
def searchUnsafe : Text → Bool
  | [] => false
  | char::rest => char = '\\' || (char = '/' && climbs rest) || searchUnsafe rest

/-- `_UNSAFE_SEGMENT.search`. -/
def unsafeSegment (path : Text) : Bool := climbs path || searchUnsafe path

/-- Two slashes at the start are kept, and three or more are one. -/
def initialSlashes : Text → Nat
  | '/' :: '/' :: '/' :: _ => 1
  | '/' :: '/' :: _ => 2
  | '/' :: _ => 1
  | _ => 0

/-- `posixpath.normpath`. -/
def normpath (path : Text) : Text :=
  if path = [] then dot
  else
    let slashes := initialSlashes path
    let comps := normalised (slashes ≠ 0) (path.splitOn '/')
    let joined := List.replicate slashes '/' ++ ['/'].intercalate comps
    if joined = [] then dot else joined

def validatePath (path : Text) : Except PathError Text :=
  if path = [] then .error (.empty "Path")
  else if path.head? = some '/' then .error (.traversal path)
  else if unsafeSegment path then .error (.traversal path)
  else if dotdot.isPrefixOf (normpath path) then .error (.traversal path)
  else .ok (normpath path)

end Validation

structure Segment where
  value : Text
  nonempty : value ≠ []
  noSlash : '/' ∉ value
  noBackslash : '\\' ∉ value
  notDot : value ≠ dot
  notDotdot : value ≠ dotdot

def validateSegment (value : Text) (name : String) : Except PathError Segment :=
  if empty : value = [] then .error (.empty name)
  else if separators : '/' ∈ value ∨ '\\' ∈ value then .error (.separators name value)
  else if dots : value = dot ∨ value = dotdot then .error (.traversal value)
  else .ok ⟨value,empty,(not_or.mp separators).1,(not_or.mp separators).2,(not_or.mp dots).1,(not_or.mp dots).2⟩

structure BlobPath where
  tenantId : Segment
  entityType : Segment
  entityId : Segment
  filename : Segment

namespace BlobPath

def init (tenantId entityType entityId filename : Text) : Except PathError BlobPath := do
  let tenant ← validateSegment tenantId "tenant_id"
  let type ← validateSegment entityType "entity_type"
  let entity ← validateSegment entityId "entity_id"
  let file ← validateSegment filename "filename"
  return ⟨tenant,type,entity,file⟩

def segments (path : BlobPath) : List Text :=
  [path.tenantId.value,path.entityType.value,path.entityId.value,path.filename.value]

def str (path : BlobPath) : Text := ['/'].intercalate path.segments

def build (tenantId entityType entityId filename : Text) : Except PathError Text := do
  return (← init tenantId entityType entityId filename).str

end BlobPath

section Search

theorem climbs_component {comp : Text} (plain : '/' ∉ comp) (rest : Text) :
    climbs (comp ++ '/' :: rest) = decide (comp = dotdot) := by
  match comp,plain with
  | [],_ => exact rfl
  | [first],_ =>
    have differs : [first] ≠ dotdot := fun same => by cases same
    rw [decide_eq_false differs]
    unfold climbs
    split
    next more same => cases same
    next => rfl
  | first::second::more,plain =>
    by_cases dots : first = '.' ∧ second = '.'
    · obtain ⟨rfl,rfl⟩ := dots
      cases more with
      | nil => exact rfl
      | cons third others =>
        have slash : third ≠ '/' := fun same => plain (by simp [same])
        have newline : third :: others ++ '/' :: rest ≠ ['\n'] := by simp
        have differs : '.' :: '.' :: third :: others ≠ dotdot := fun same => by cases same
        rw [decide_eq_false differs]
        simp only [List.cons_append,climbs]
        simp [slash]
    · have differs : first::second::more ≠ dotdot := by
        intro same
        obtain ⟨rfl,later⟩ := List.cons.inj same
        exact dots ⟨rfl,(List.cons.inj later).1⟩
      rw [decide_eq_false differs]
      unfold climbs
      split
      next others same =>
        obtain ⟨rfl,later⟩ := List.cons.inj same
        exact absurd ⟨rfl,(List.cons.inj later).1⟩ dots
      next => rfl

theorem climbs_alone {comp : Text} (plain : '/' ∉ comp) :
    climbs comp = decide (comp = dotdot ∨ comp = dotdot ++ ['\n']) := by
  unfold climbs
  split
  next rest =>
    have slash : rest.head? ≠ some '/' := fun same =>
      plain (List.mem_cons_of_mem _ (List.mem_cons_of_mem _ (List.mem_of_head? same)))
    simp [dotdot,slash]
  next other =>
    refine (decide_eq_false ?_).symm
    rintro (rfl | rfl)
    · exact other [] rfl
    · exact other ['\n'] rfl

theorem searchUnsafe_component {comp : Text} (plain : '/' ∉ comp) (rest : Text) :
    searchUnsafe (comp ++ '/' :: rest) = (decide ('\\' ∈ comp) || unsafeSegment rest) := by
  induction comp with
  | nil => exact rfl
  | cons char comp ih =>
    obtain ⟨slash,later⟩ := not_or.mp (mt List.mem_cons.mpr plain)
    rw [List.cons_append,searchUnsafe,ih later,decide_eq_false (Ne.symm slash),Bool.false_and,Bool.or_false,
      ← Bool.or_assoc,← Bool.decide_or]
    simp only [List.mem_cons,eq_comm]

theorem searchUnsafe_alone {comp : Text} (plain : '/' ∉ comp) : searchUnsafe comp = decide ('\\' ∈ comp) := by
  induction comp with
  | nil => exact rfl
  | cons char comp ih =>
    obtain ⟨slash,later⟩ := not_or.mp (mt List.mem_cons.mpr plain)
    rw [searchUnsafe,ih later,decide_eq_false (Ne.symm slash),Bool.false_and,Bool.or_false,← Bool.decide_or]
    simp only [List.mem_cons,eq_comm]

/-- What the search finds, said of the components. -/
def UnsafeComponents (comps : List Text) : Prop :=
  (∃ comp ∈ comps, comp = dotdot ∨ '\\' ∈ comp) ∨ comps.getLast? = some (dotdot ++ ['\n'])

theorem unsafeSegment_iff {comps : List Text} (some : comps ≠ []) (plain : ∀ comp ∈ comps, '/' ∉ comp) :
    unsafeSegment (['/'].intercalate comps) = true ↔ UnsafeComponents comps := by
  induction comps with
  | nil => exact absurd rfl some
  | cons comp rest ih =>
    have first := plain comp List.mem_cons_self
    cases rest with
    | nil =>
      rw [List.intercalate_singleton,unsafeSegment,climbs_alone first,searchUnsafe_alone first,UnsafeComponents]
      simp only [Bool.or_eq_true,decide_eq_true_eq,List.mem_singleton,exists_eq_left,List.getLast?_singleton,Option.some.injEq]
      tauto
    | cons second others =>
      have later := ih (List.cons_ne_nil second others) fun comp member => plain comp (List.mem_cons_of_mem _ member)
      rw [List.intercalate_cons_cons,List.append_assoc,List.singleton_append,unsafeSegment,climbs_component first,
        searchUnsafe_component first,Bool.or_eq_true,Bool.or_eq_true,later,UnsafeComponents,UnsafeComponents,
        List.getLast?_cons_cons,decide_eq_true_eq,decide_eq_true_eq]
      constructor
      · rintro (same | back | ⟨other,member,bad⟩ | last)
        · exact .inl ⟨comp,List.mem_cons_self,.inl same⟩
        · exact .inl ⟨comp,List.mem_cons_self,.inr back⟩
        · exact .inl ⟨other,List.mem_cons_of_mem comp member,bad⟩
        · exact .inr last
      · rintro (⟨other,member,bad⟩ | last)
        · rcases List.mem_cons.mp member with rfl | inside
          · exact bad.imp_right .inl
          · exact .inr (.inr (.inl ⟨other,inside,bad⟩))
        · exact .inr (.inr (.inr last))

end Search

section Accepted

def names (path : Text) : List Text := (path.splitOn '/').filter fun comp => Leads comp

def spelled (names : List Text) : Text := if names = [] then dot else ['/'].intercalate names

/-- The paths that `validate_path` takes. -/
structure Accepted (path : Text) : Prop where
  nonempty : path ≠ []
  relative : path.head? ≠ some '/'
  safe : ¬UnsafeComponents (path.splitOn '/')
  first : ∀ name, (names path).head? = some name → ¬dotdot <+: name

/-- A name of an accepted path: it leads down and stands in one component. -/
structure Plain (name : Text) : Prop where
  leads : Leads name
  down : name ≠ dotdot
  noSlash : '/' ∉ name
  noBackslash : '\\' ∉ name

theorem splitOn_plain {path comp : Text} (member : comp ∈ path.splitOn '/') : '/' ∉ comp :=
  Trimming.not_mem_piece member

theorem unsafeSegment_path {path : Text} : unsafeSegment path = true ↔ UnsafeComponents (path.splitOn '/') := by
  have same := unsafeSegment_iff (List.splitOn_ne_nil '/' path) fun _ member => splitOn_plain member
  rwa [List.intercalate_splitOn] at same

theorem plain_of_safe {path name : Text} (safe : ¬UnsafeComponents (path.splitOn '/')) (member : name ∈ names path) :
    Plain name := by
  obtain ⟨inside,leads⟩ := List.mem_filter.mp member
  refine ⟨of_decide_eq_true leads,fun up => safe (.inl ⟨name,inside,.inl up⟩),splitOn_plain inside,
    fun back => safe (.inl ⟨name,inside,.inr back⟩)⟩

theorem initialSlashes_relative {path : Text} (relative : path.head? ≠ some '/') : initialSlashes path = 0 := by
  unfold initialSlashes
  split
  next => exact absurd rfl relative
  next => exact absurd rfl relative
  next => exact absurd rfl relative
  next => rfl

theorem intercalate_ne_nil {list : List Text} (some : list ≠ []) (leads : ∀ name ∈ list, Leads name) :
    ['/'].intercalate list ≠ [] := by
  obtain ⟨name,rest,rfl⟩ := List.exists_cons_of_ne_nil some
  have first := (leads name List.mem_cons_self).1
  cases rest with
  | nil => rwa [List.intercalate_singleton]
  | cons second others =>
    rw [List.intercalate_cons_cons]
    exact fun empty => first (List.append_eq_nil_iff.mp (List.append_eq_nil_iff.mp empty).1).1

theorem normpath_of_safe {path : Text} (nonempty : path ≠ []) (relative : path.head? ≠ some '/')
    (safe : ¬UnsafeComponents (path.splitOn '/')) : normpath path = spelled (names path) := by
  have down : dotdot ∉ path.splitOn '/' := fun inside => safe (.inl ⟨dotdot,inside,.inl rfl⟩)
  rw [normpath,if_neg nonempty,initialSlashes_relative relative]
  simp only [normalised_down down,List.replicate_zero,List.nil_append]
  change (if ['/'].intercalate (names path) = [] then dot else ['/'].intercalate (names path)) = _
  rw [spelled]
  by_cases none : names path = []
  · rw [none]
    rfl
  · rw [if_neg none,if_neg (intercalate_ne_nil none fun name member => (plain_of_safe safe member).leads)]

theorem names_spelled {list : List Text} (plain : ∀ name ∈ list, Leads name ∧ '/' ∉ name) : names (spelled list) = list := by
  unfold names spelled
  split
  next none =>
    rw [none]
    rfl
  next some =>
    rw [List.splitOn_intercalate '/' (fun name member => (plain name member).2) some]
    exact List.filter_eq_self.mpr fun name member => decide_eq_true (plain name member).1

theorem dotdot_prefix_spelled {list : List Text} (plain : ∀ name ∈ list, Leads name ∧ '/' ∉ name) :
    dotdot.isPrefixOf (spelled list) = true ↔ ∃ name, list.head? = some name ∧ dotdot <+: name := by
  rw [List.isPrefixOf_iff_prefix]
  cases list with
  | nil =>
    constructor
    · intro starts
      exact absurd starts (by decide)
    · rintro ⟨_,absent,_⟩
      cases absent
  | cons name rest =>
    obtain ⟨⟨nonempty,solid⟩,noSlash⟩ := plain name List.mem_cons_self
    have some : (∃ other, (name::rest).head? = some other ∧ dotdot <+: other) ↔ dotdot <+: name := by simp
    rw [some,spelled,if_neg (List.cons_ne_nil name rest)]
    cases rest with
    | nil => rw [List.intercalate_singleton]
    | cons second others =>
      rw [List.intercalate_cons_cons,List.append_assoc]
      match name,nonempty,solid,noSlash with
      | [char],_,solid,_ =>
        constructor
        · rintro ⟨tail,same⟩
          exact absurd (congrArg (fun char => [char]) (List.cons.inj same).1.symm) solid
        · rintro ⟨tail,same⟩
          cases same
      | first::next::more,_,_,_ =>
        simp only [dotdot,List.cons_append,List.cons_prefix_cons,List.nil_prefix]

theorem validatePath_ok_iff {path result : Text} :
    validatePath path = .ok result ↔ Accepted path ∧ result = spelled (names path) := by
  unfold validatePath
  split
  next empty =>
    constructor
    · intro taken
      cases taken
    · exact fun both => absurd empty both.1.nonempty
  next nonempty =>
    split
    next absolute =>
      constructor
      · intro taken
        cases taken
      · exact fun both => absurd absolute both.1.relative
    next relative =>
      split
      next bad =>
        constructor
        · intro taken
          cases taken
        · exact fun both => absurd (unsafeSegment_path.mp bad) both.1.safe
      next found =>
        have safe := mt unsafeSegment_path.mpr found
        rw [normpath_of_safe nonempty relative safe]
        have plain : ∀ name ∈ names path, Leads name ∧ '/' ∉ name := fun name member =>
          ⟨(plain_of_safe safe member).leads,(plain_of_safe safe member).noSlash⟩
        have dots := dotdot_prefix_spelled plain
        split
        next climbing =>
          obtain ⟨name,first,starts⟩ := dots.mp climbing
          constructor
          · intro taken
            cases taken
          · exact fun both => absurd starts (both.1.first name first)
        next still =>
          constructor
          · intro taken
            exact ⟨⟨nonempty,relative,safe,fun name first starts => still (dots.mpr ⟨name,first,starts⟩)⟩,
              (Except.ok.inj taken).symm⟩
          · exact fun both => congrArg Except.ok both.2.symm

theorem Accepted.plain {path : Text} (accepted : Accepted path) : ∀ name ∈ names path, Plain name :=
  fun _ member => plain_of_safe accepted.safe member

theorem Accepted.components {path : Text} (accepted : Accepted path) :
    ∀ name ∈ names path, Leads name ∧ '/' ∉ name := fun name member =>
  ⟨(accepted.plain name member).leads,(accepted.plain name member).noSlash⟩

theorem names_of_ok {path result : Text} (taken : validatePath path = .ok result) : names result = names path := by
  obtain ⟨accepted,rfl⟩ := validatePath_ok_iff.mp taken
  exact names_spelled accepted.components

theorem Accepted.resolve {path : Text} (accepted : Accepted path) (start : Location) :
    FileSystems.resolve start (path.splitOn '/') = start ++ names path :=
  resolve_down (fun up => accepted.safe (.inl ⟨dotdot,up,.inl rfl⟩)) start

theorem resolve_of_ok {path result : Text} (taken : validatePath path = .ok result) (start : Location) :
    FileSystems.resolve start (result.splitOn '/') = start ++ names path := by
  obtain ⟨accepted,rfl⟩ := validatePath_ok_iff.mp taken
  have down : dotdot ∉ (spelled (names path)).splitOn '/' := by
    intro up
    have leads : Leads dotdot := ⟨by decide,by decide⟩
    have inside : dotdot ∈ names (spelled (names path)) := List.mem_filter.mpr ⟨up,decide_eq_true leads⟩
    rw [names_spelled accepted.components] at inside
    exact (accepted.plain dotdot inside).down rfl
  rw [resolve_down down]
  exact congrArg (start ++ ·) (names_spelled accepted.components)

theorem relative_of_components {text : Text} (filled : [] ∉ text.splitOn '/') : text.head? ≠ some '/' := by
  intro slash
  obtain ⟨rest,rfl⟩ := List.head?_eq_some_iff.mp slash
  refine filled ?_
  rw [List.splitOn_cons_eq_if_modifyHead,if_pos (beq_self_eq_true '/')]
  exact List.mem_cons_self

theorem validatePath_again {path result : Text} (taken : validatePath path = .ok result) :
    validatePath result = .ok result ↔ (names path).getLast? ≠ some (dotdot ++ ['\n']) := by
  obtain ⟨accepted,rfl⟩ := validatePath_ok_iff.mp taken
  have same := names_spelled accepted.components
  by_cases none : names path = []
  · rw [none]
    exact ⟨fun _ => by decide,fun _ => by decide⟩
  have split : (spelled (names path)).splitOn '/' = names path := by
    rw [spelled,if_neg none,List.splitOn_intercalate '/' (fun name member => (accepted.components name member).2) none]
  have inside : ¬∃ comp ∈ names path, comp = dotdot ∨ '\\' ∈ comp := by
    rintro ⟨comp,member,up | back⟩
    · exact (accepted.plain comp member).down up
    · exact (accepted.plain comp member).noBackslash back
  constructor
  · intro again last
    have safe := (validatePath_ok_iff.mp again).1.safe
    rw [split] at safe
    exact safe (.inr last)
  · intro last
    refine validatePath_ok_iff.mpr ⟨⟨?_,?_,?_,?_⟩,(congrArg spelled same).symm⟩
    · rw [spelled,if_neg none]
      exact intercalate_ne_nil none fun name member => (accepted.components name member).1
    · refine relative_of_components fun nothing => ?_
      rw [split] at nothing
      exact (accepted.components [] nothing).1.1 rfl
    · rw [split]
      exact not_or.mpr ⟨inside,last⟩
    · rw [same]
      exact accepted.first

/-- A path does not leave the place it starts at, and its normal form leads where it does; paths that are taken have
this normal form exactly if they lead to one place, and the form itself is taken again as it is, but for a newline
behind two dots. -/
def Canonical (path result : Text) : Prop :=
  (∀ start, start <+: FileSystems.resolve start (result.splitOn '/')) ∧
    (∀ start, FileSystems.resolve start (result.splitOn '/') = FileSystems.resolve start (path.splitOn '/')) ∧
    (∀ other spelling, validatePath other = .ok spelling →
      (spelling = result ↔ ∀ start, FileSystems.resolve start (other.splitOn '/') =
        FileSystems.resolve start (path.splitOn '/'))) ∧
    (validatePath result = .ok result ↔ (names path).getLast? ≠ some (dotdot ++ ['\n']))

theorem validatePath_canonical {path result : Text} (taken : validatePath path = .ok result) : Canonical path result := by
  obtain ⟨accepted,shape⟩ := validatePath_ok_iff.mp taken
  refine ⟨fun start => ?_,fun start => ?_,fun other spelling also => ?_,validatePath_again taken⟩
  · rw [resolve_of_ok taken]
    exact List.prefix_append start _
  · rw [resolve_of_ok taken,accepted.resolve]
  · obtain ⟨takes,rfl⟩ := validatePath_ok_iff.mp also
    constructor
    · intro same start
      have names : names other = names path := by
        rw [← names_of_ok also,same,names_of_ok taken]
      rw [takes.resolve,accepted.resolve,names]
    · intro same
      have names := same []
      rw [takes.resolve,accepted.resolve,List.nil_append,List.nil_append] at names
      rw [shape,names]

theorem canonical_redundant : Canonical "a/./b//c".toList "a/b/c".toList :=
  validatePath_canonical (rfl : validatePath "a/./b//c".toList = .ok "a/b/c".toList)

end Accepted

section Blobs

theorem Segment.leads (segment : Segment) : Leads segment.value := ⟨segment.nonempty,segment.notDot⟩

theorem validateSegment_ok_iff {value : Text} {name : String} {segment : Segment} :
    validateSegment value name = .ok segment ↔ segment.value = value := by
  unfold validateSegment
  constructor
  · intro taken
    split at taken
    next => cases taken
    next =>
      split at taken
      next => cases taken
      next =>
        split at taken
        next => cases taken
        next =>
          obtain rfl := Except.ok.inj taken
          exact rfl
  · rintro rfl
    rw [dif_neg segment.nonempty,dif_neg (not_or.mpr ⟨segment.noSlash,segment.noBackslash⟩),
      dif_neg (not_or.mpr ⟨segment.notDot,segment.notDotdot⟩)]

namespace BlobPath

theorem init_ok_iff {tenantId entityType entityId filename : Text} {path : BlobPath} :
    init tenantId entityType entityId filename = .ok path ↔ path.segments = [tenantId,entityType,entityId,filename] := by
  unfold init
  simp only [bind,Except.bind,pure,Except.pure]
  constructor
  · intro made
    split at made
    next => cases made
    next tenant first =>
      split at made
      next => cases made
      next type second =>
        split at made
        next => cases made
        next entity third =>
          split at made
          next => cases made
          next file fourth =>
            obtain rfl := Except.ok.inj made
            rw [segments,validateSegment_ok_iff.mp first,validateSegment_ok_iff.mp second,
              validateSegment_ok_iff.mp third,validateSegment_ok_iff.mp fourth]
  · intro same
    obtain ⟨first,second,third,fourth,_⟩ : path.tenantId.value = tenantId ∧ path.entityType.value = entityType ∧
        path.entityId.value = entityId ∧ path.filename.value = filename ∧ True := by simpa [segments] using same
    rw [validateSegment_ok_iff.mpr first,validateSegment_ok_iff.mpr second,validateSegment_ok_iff.mpr third,
      validateSegment_ok_iff.mpr fourth]

theorem mem_segments {path : BlobPath} {name : Text} (member : name ∈ path.segments) :
    ∃ segment : Segment, segment.value = name := by
  simp only [segments,List.mem_cons,List.not_mem_nil,or_false] at member
  rcases member with rfl | rfl | rfl | rfl <;> exact ⟨_,rfl⟩

theorem segments_leads (path : BlobPath) : ∀ name ∈ path.segments, Leads name ∧ '/' ∉ name := by
  intro name member
  obtain ⟨segment,rfl⟩ := mem_segments member
  exact ⟨segment.leads,segment.noSlash⟩

theorem str_spelled (path : BlobPath) : path.str = spelled path.segments := (if_neg (List.cons_ne_nil _ _)).symm

theorem names_str (path : BlobPath) : names path.str = path.segments := by
  rw [str_spelled,names_spelled path.segments_leads]

theorem validatePath_str (path : BlobPath) : validatePath path.str =
    if dotdot <+: path.tenantId.value ∨ path.filename.value = dotdot ++ ['\n'] then .error (.traversal path.str)
    else .ok path.str := by
  have split : path.str.splitOn '/' = path.segments :=
    List.splitOn_intercalate '/' (fun name member => (path.segments_leads name member).2) (List.cons_ne_nil _ _)
  have nonempty : path.str ≠ [] :=
    intercalate_ne_nil (List.cons_ne_nil _ _) fun name member => (path.segments_leads name member).1
  have relative : path.str.head? ≠ some '/' := by
    refine relative_of_components fun nothing => ?_
    rw [split] at nothing
    exact (path.segments_leads [] nothing).1.1 rfl
  have bad : UnsafeComponents path.segments ↔ path.filename.value = dotdot ++ ['\n'] := by
    constructor
    · rintro (⟨comp,member,bad⟩ | last)
      · obtain ⟨segment,rfl⟩ := mem_segments member
        rcases bad with up | back
        · exact absurd up segment.notDotdot
        · exact absurd back segment.noBackslash
      · exact Option.some.inj last
    · exact fun same => .inr (congrArg some same)
  unfold validatePath
  rw [if_neg nonempty,if_neg relative]
  by_cases last : path.filename.value = dotdot ++ ['\n']
  · have unsafePath : unsafeSegment path.str = true := by
      rw [unsafeSegment_path,split]
      exact bad.mpr last
    rw [if_pos unsafePath,if_pos (Or.inr last)]
  · have safe : ¬UnsafeComponents (path.str.splitOn '/') := by
      rw [split]
      exact mt bad.mp last
    rw [if_neg (mt unsafeSegment_path.mp safe),normpath_of_safe nonempty relative safe,names_str,← str_spelled]
    have dots := dotdot_prefix_spelled path.segments_leads
    rw [← str_spelled] at dots
    by_cases starts : dotdot <+: path.tenantId.value
    · rw [if_pos (dots.mpr ⟨_,rfl,starts⟩),if_pos (Or.inl starts)]
    · have still : ¬dotdot.isPrefixOf path.str = true := by
        intro climbing
        obtain ⟨name,first,before⟩ := dots.mp climbing
        obtain rfl := Option.some.inj first
        exact starts before
      rw [if_neg still,if_neg (not_or.mpr ⟨starts,last⟩)]

theorem build_ok {tenantId entityType entityId filename path : Text}
    (built : build tenantId entityType entityId filename = .ok path) :
    ∃ blob : BlobPath, blob.segments = [tenantId,entityType,entityId,filename] ∧ path = blob.str := by
  unfold build at built
  simp only [bind,Except.bind,pure,Except.pure] at built
  split at built
  next => cases built
  next blob made => exact ⟨blob,init_ok_iff.mp made,(Except.ok.inj built).symm⟩

/-- A blob path gives back the texts it was built of, no others build it, and the storage takes it as it is unless two
dots start its tenant or stand before a newline at its end. -/
def Readable (tenantId entityType entityId filename path : Text) : Prop :=
  names path = [tenantId,entityType,entityId,filename] ∧
    (∀ tenant type entity file, build tenant type entity file = .ok path →
      [tenant,type,entity,file] = [tenantId,entityType,entityId,filename]) ∧
    (validatePath path = .ok path ↔ ¬(dotdot <+: tenantId ∨ filename = dotdot ++ ['\n']))

theorem readable_build {tenantId entityType entityId filename path : Text}
    (built : build tenantId entityType entityId filename = .ok path) :
    Readable tenantId entityType entityId filename path := by
  obtain ⟨blob,segments,rfl⟩ := build_ok built
  refine ⟨blob.names_str.trans segments,fun tenant type entity file again => ?_,?_⟩
  · obtain ⟨other,others,same⟩ := build_ok again
    rw [← others,← other.names_str,← same,blob.names_str,segments]
  · obtain ⟨rfl,_,_,rfl,_⟩ : blob.tenantId.value = tenantId ∧ blob.entityType.value = entityType ∧
        blob.entityId.value = entityId ∧ blob.filename.value = filename ∧ True := by simpa [BlobPath.segments] using segments
    rw [validatePath_str]
    split
    next bad => exact ⟨fun taken => (nomatch taken),fun good => absurd bad good⟩
    next good => exact ⟨fun _ => good,fun _ => rfl⟩

theorem readable_scan : Readable "t1".toList "invoice".toList "inv-123".toList "scan.pdf".toList
    "t1/invoice/inv-123/scan.pdf".toList := readable_build rfl

end BlobPath

end Blobs

end CqrsDdd.FileStorage
