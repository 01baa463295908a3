import CqrsDdd.Dict
import Mathlib.Data.List.Infix

/-! File systems without links: locations, what a path leads to, the normal form of a
path, and trees of directories and files in which all that is above an entry is a
directory by construction. -/
namespace CqrsDdd

namespace Dict
variable {Key Value : Type*} [DecidableEq Key]

/-- The entries whose key is kept, in their order. -/
def restrict (dict : Dict Key Value) (keep : Key → Bool) : Dict Key Value :=
  ⟨dict.entries.filter fun entry => keep entry.1,dict.distinct.sublist (List.filter_sublist.map Prod.fst)⟩

theorem get_restrict (dict : Dict Key Value) (keep : Key → Bool) (key : Key) :
    (dict.restrict keep).get key = if keep key then dict.get key else none := by
  refine Option.ext fun value => ?_
  rw [← mem_iff_get,restrict,List.mem_filter,mem_iff_get]
  split
  next kept => simp [kept]
  next dropped => simp [dropped]

theorem put_restrict (key : Key) (value : Value) (keep : Key → Bool) (entries : List (Key × Value)) :
    (put key value entries).filter (fun entry => keep entry.1) =
      if keep key then put key value (entries.filter fun entry => keep entry.1)
      else entries.filter fun entry => keep entry.1 := by
  induction entries with
  | nil => cases kept : keep key <;> simp [put,kept]
  | cons entry rest ih =>
    by_cases same : entry.1 = key
    · cases kept : keep key <;> simp [put,same,kept]
    · rw [put,if_neg same,List.filter_cons,List.filter_cons,ih]
      cases stays : keep entry.1 <;> cases kept : keep key <;> simp [put,same]

theorem restrict_set (dict : Dict Key Value) (keep : Key → Bool) (key : Key) (value : Value) :
    (dict.set key value).restrict keep =
      if keep key then (dict.restrict keep).set key value else dict.restrict keep := by
  have same := put_restrict key value keep dict.entries
  split
  next kept =>
    rw [if_pos kept] at same
    exact Dict.ext same
  next dropped =>
    rw [if_neg dropped] at same
    exact Dict.ext same

theorem restrict_erase (dict : Dict Key Value) (keep : Key → Bool) (key : Key) :
    (dict.erase key).restrict keep = (dict.restrict keep).erase key := by
  apply Dict.ext
  simp only [erase,restrict,List.filter_filter,Bool.and_comm]

theorem erase_of_get {dict : Dict Key Value} {key : Key} (absent : dict.get key = none) : dict.erase key = dict := by
  refine Dict.ext (List.filter_eq_self.mpr fun entry member => ?_)
  have differs : entry.1 ≠ key := by
    rintro rfl
    rw [(mem_iff_get dict).mp member] at absent
    cases absent
  simpa using differs

theorem get_erase (dict : Dict Key Value) (key other : Key) :
    (dict.erase key).get other = if other = key then none else dict.get other := by
  split
  next same => exact same ▸ get_erase_same dict key
  next differs => exact get_erase_other dict differs

end Dict

namespace FileSystems

abbrev Name := List Char

abbrev Location := List Name

def dot : Name := ['.']

def dotdot : Name := ['.','.']

section Paths

/-- One step of a walk. -/
def enter (location : Location) (name : Name) : Location :=
  if name = [] ∨ name = dot then location
  else if name = dotdot then location.dropLast
  else location ++ [name]

def resolve (start : Location) (names : List Name) : Location := names.foldl enter start

def Leads (name : Name) : Prop := name ≠ [] ∧ name ≠ dot

instance (name : Name) : Decidable (Leads name) := inferInstanceAs (Decidable (_ ∧ _))

theorem enter_idle {name : Name} (idle : ¬Leads name) (location : Location) : enter location name = location := by
  refine if_pos ?_
  by_contra leads
  exact idle (not_or.mp leads)

theorem enter_down {name : Name} (leads : Leads name) (down : name ≠ dotdot) (location : Location) :
    enter location name = location ++ [name] := by
  rw [enter,if_neg (not_or.mpr leads),if_neg down]

theorem resolve_down {names : List Name} (down : dotdot ∉ names) (start : Location) :
    resolve start names = start ++ names.filter fun name => Leads name := by
  induction names generalizing start with
  | nil => exact (List.append_nil start).symm
  | cons name rest ih =>
    obtain ⟨first,later⟩ := not_or.mp (mt List.mem_cons.mpr down)
    rw [resolve,List.foldl_cons,List.filter_cons]
    by_cases leads : Leads name
    · rw [enter_down leads (Ne.symm first),if_pos (decide_eq_true leads)]
      exact (ih later _).trans (List.append_assoc start [name] _)
    · rw [enter_idle leads,if_neg (mt of_decide_eq_true leads)]
      exact ih later start

/-- One round of the loop that normalises the components of a path; the last kept one comes first. -/
def pushComponent (rooted : Bool) (kept : List Name) (comp : Name) : List Name :=
  if comp = [] ∨ comp = dot then kept
  else if comp ≠ dotdot ∨ (rooted = false ∧ kept = []) ∨ kept.head? = some dotdot then comp::kept
  else kept.tail

def normalised (rooted : Bool) (comps : List Name) : List Name := (comps.foldl (pushComponent rooted) []).reverse

/-- Nothing is dropped from a path that never goes up but what leads nowhere. -/
theorem normalised_down {rooted : Bool} {comps : List Name} (down : dotdot ∉ comps) :
    normalised rooted comps = comps.filter fun comp => Leads comp := by
  suffices general : ∀ kept : List Name, comps.foldl (pushComponent rooted) kept =
      (comps.filter fun comp => Leads comp).reverse ++ kept by
    rw [normalised,general,List.append_nil,List.reverse_reverse]
  induction comps with
  | nil => exact fun _ => rfl
  | cons comp rest ih =>
    intro kept
    obtain ⟨first,later⟩ := not_or.mp (mt List.mem_cons.mpr down)
    rw [List.foldl_cons,ih later,List.filter_cons,pushComponent]
    by_cases leads : Leads comp
    · rw [if_neg (not_or.mpr leads),if_pos (Or.inl (Ne.symm first)),if_pos (decide_eq_true leads),List.reverse_cons,
        List.append_assoc,List.singleton_append]
    · rw [if_pos (by by_contra neither; exact leads (not_or.mp neither)),if_neg (mt of_decide_eq_true leads)]

end Paths

inductive Node (Content : Type)
  | directory
  | file (content : Content)
  deriving DecidableEq, Repr

inductive OsError
  | fileExists
  | fileNotFound
  | notADirectory
  | isADirectory
  deriving DecidableEq, Repr

/-- All that is above an entry is a directory. -/
def Closed {Content : Type} (nodes : Dict Location (Node Content)) : Prop :=
  ∀ location parent, parent <+: location → parent ≠ location → nodes.get location ≠ none →
    nodes.get parent = some .directory

structure FileSystem (Content : Type) where
  nodes : Dict Location (Node Content)
  closed : Closed nodes

namespace FileSystem

section Nodes

variable {Content : Type}

def node (fs : FileSystem Content) (location : Location) : Option (Node Content) := fs.nodes.get location

/-- `is_file`, with what the file holds. -/
def file (fs : FileSystem Content) (location : Location) : Option Content :=
  match fs.node location with
  | some (.file content) => some content
  | _ => none

theorem file_iff {fs : FileSystem Content} {location : Location} {content : Content} :
    fs.file location = some content ↔ fs.node location = some (.file content) := by
  unfold file
  split
  next stored found =>
    rw [found]
    constructor
    · exact fun same => Option.some.inj same ▸ rfl
    · intro same
      cases same
      rfl
  next other => exact ⟨fun absent => (nomatch absent),fun found => absurd found (other content)⟩

def isDirectory (fs : FileSystem Content) (location : Location) : Bool :=
  match fs.node location with
  | some .directory => true
  | _ => false

theorem isDirectory_iff {fs : FileSystem Content} {location : Location} :
    fs.isDirectory location = true ↔ fs.node location = some .directory := by
  unfold isDirectory
  split
  next found => simp [found]
  next other => exact ⟨fun absent => absurd absent Bool.false_ne_true,fun found => absurd found other⟩

theorem file_congr {fs other : FileSystem Content} {location : Location} (same : fs.node location = other.node location) :
    fs.file location = other.file location := by
  rw [file,file,same]

@[ext] theorem ext {first second : FileSystem Content} (same : first.nodes = second.nodes) : first = second := by
  cases first
  cases second
  cases same
  rfl

end Nodes

section Writes

variable {Content : Type}

theorem get_directories (levels : List Location) (nodes : Dict Location (Node Content)) (location : Location) :
    (levels.foldl (fun nodes level => nodes.set level .directory) nodes).get location =
      if location ∈ levels then some .directory else nodes.get location := by
  induction levels generalizing nodes with
  | nil => exact rfl
  | cons level rest ih =>
    rw [List.foldl_cons,ih,Dict.get_set]
    by_cases inside : location ∈ rest
    · rw [if_pos inside,if_pos (List.mem_cons_of_mem level inside)]
    · by_cases same : location = level
      · rw [if_neg inside,if_pos same,if_pos (List.mem_cons.mpr (Or.inl same))]
      · rw [if_neg inside,if_neg same,if_neg (mt List.mem_cons.mp (not_or.mpr ⟨same,inside⟩))]

def withDirectories (fs : FileSystem Content) (location : Location) : FileSystem Content where
  nodes := location.inits.foldl (fun nodes level => nodes.set level .directory) fs.nodes
  closed := by
    intro below parent under strict there
    rw [get_directories] at there ⊢
    split
    next => rfl
    next outside =>
      split at there
      next inside =>
        have above := (List.mem_inits below location).mp inside
        exact absurd ((List.mem_inits parent location).mpr (under.trans above)) outside
      next => exact fs.closed below parent under strict there

def empty : FileSystem Content := ⟨Dict.empty,fun _ _ _ _ there => absurd rfl there⟩

theorem node_withDirectories (fs : FileSystem Content) (location other : Location) :
    (fs.withDirectories location).node other = if other <+: location then some .directory else fs.node other := by
  rw [node,withDirectories,get_directories]
  simp only [List.mem_inits]
  rfl

/-- `mkdir` with `parents` and `exist_ok`. -/
def makeDirectories (fs : FileSystem Content) (location : Location) : Except OsError (FileSystem Content) :=
  if (fs.file location).isSome then .error .fileExists
  else if location.inits.any fun level => (fs.file level).isSome then .error .notADirectory
  else .ok (fs.withDirectories location)

theorem makeDirectories_ok {fs after : FileSystem Content} {location : Location}
    (made : fs.makeDirectories location = .ok after) :
    after = fs.withDirectories location ∧ ∀ level, level <+: location → fs.file level = none := by
  unfold makeDirectories at made
  split at made
  next => cases made
  next =>
    split at made
    next => cases made
    next free =>
      refine ⟨(Except.ok.inj made).symm,fun level above => ?_⟩
      rw [List.any_eq_true] at free
      exact Option.not_isSome_iff_eq_none.mp fun stored => free ⟨level,(List.mem_inits level location).mpr above,stored⟩

theorem makeDirectories_of_free {fs : FileSystem Content} {location : Location}
    (free : ∀ level, level <+: location → fs.file level = none) :
    fs.makeDirectories location = .ok (fs.withDirectories location) := by
  have files : ¬(location.inits.any fun level => (fs.file level).isSome) = true := by
    rw [List.any_eq_true]
    rintro ⟨level,above,stored⟩
    rw [free level ((List.mem_inits level location).mp above)] at stored
    cases stored
  have here : ¬(fs.file location).isSome = true := by
    rw [free location List.prefix_rfl]
    exact Bool.false_ne_true
  rw [makeDirectories,if_neg here,if_neg files]

theorem closed_set {nodes : Dict Location (Node Content)} (closed : Closed nodes) {location : Location}
    (other : nodes.get location ≠ some .directory)
    (above : ∀ parent, parent <+: location → parent ≠ location → nodes.get parent = some .directory) (content : Content) :
    Closed (nodes.set location (.file content)) := by
  intro below parent under strict there
  have inner : nodes.get parent = some .directory := by
    by_cases here : below = location
    · exact above parent (here ▸ under) (here ▸ strict)
    · rw [Dict.get_set_other nodes _ here] at there
      exact closed below parent under strict there
  have differs : parent ≠ location := fun same => other (same ▸ inner)
  exact (Dict.get_set_other nodes _ differs).trans inner

theorem closed_erase {nodes : Dict Location (Node Content)} (closed : Closed nodes) {location : Location}
    (other : nodes.get location ≠ some .directory) : Closed (nodes.erase location) := by
  intro below parent under strict there
  rw [Dict.get_erase] at there
  split at there
  next => exact absurd rfl there
  next =>
    have inner := closed below parent under strict there
    have differs : parent ≠ location := fun same => other (same ▸ inner)
    exact (Dict.get_erase_other nodes differs).trans inner

theorem above_dropLast {location parent : Location} (under : parent <+: location) (strict : parent ≠ location) :
    parent <+: location.dropLast := by
  obtain ⟨rest,rfl⟩ := under
  have some : rest ≠ [] := by
    rintro rfl
    exact strict (List.append_nil parent).symm
  rw [List.dropLast_append_of_ne_nil some]
  exact List.prefix_append parent _

theorem directories_above (fs : FileSystem Content) {location : Location}
    (last : fs.node location.dropLast = some .directory) {parent : Location} (under : parent <+: location)
    (strict : parent ≠ location) : fs.node parent = some .directory := by
  by_cases same : parent = location.dropLast
  · exact same ▸ last
  · refine fs.closed location.dropLast parent (above_dropLast under strict) same ?_
    rw [← node,last]
    exact Option.some_ne_none _

/-- What stands against a file at a location. -/
def refusal (fs : FileSystem Content) (location : Location) : Option OsError :=
  if fs.isDirectory location then some .isADirectory
  else
    match fs.node location.dropLast with
    | none => some .fileNotFound
    | some (.file _) => some .notADirectory
    | some .directory => none

theorem refusal_eq_none {fs : FileSystem Content} {location : Location} :
    fs.refusal location = none ↔ fs.node location ≠ some .directory ∧ fs.node location.dropLast = some .directory := by
  unfold refusal
  split
  next there => exact ⟨fun absent => (nomatch absent),fun both => absurd (isDirectory_iff.mp there) both.1⟩
  next there =>
    split
    next absent => rw [absent]; simp
    next stored => rw [stored]; simp
    next found => exact ⟨fun _ => ⟨mt isDirectory_iff.mpr there,found⟩,fun _ => rfl⟩

/-- To open a location for writing and to leave a content there. -/
def write (fs : FileSystem Content) (location : Location) (content : Content) : Except OsError (FileSystem Content) :=
  match free : fs.refusal location with
  | some refused => .error refused
  | none => .ok ⟨fs.nodes.set location (.file content),closed_set fs.closed (refusal_eq_none.mp free).1
      (fun _ under strict => directories_above fs (refusal_eq_none.mp free).2 under strict) content⟩

/-- `unlink`, which takes files only. -/
def unlink (fs : FileSystem Content) (location : Location) : Except OsError (FileSystem Content) :=
  if there : fs.isDirectory location then .error .isADirectory
  else if (fs.node location).isNone then .error .fileNotFound
  else .ok ⟨fs.nodes.erase location,closed_erase fs.closed (mt isDirectory_iff.mpr there)⟩

theorem write_refused {fs : FileSystem Content} {location : Location} {refused : OsError}
    (found : fs.refusal location = some refused) (content : Content) : fs.write location content = .error refused := by
  unfold write
  split
  next other same =>
    rw [found] at same
    exact congrArg Except.error (Option.some.inj same).symm
  next free =>
    rw [found] at free
    cases free

theorem write_free {fs : FileSystem Content} {location : Location} (free : fs.refusal location = none)
    (content : Content) :
    ∃ after, fs.write location content = .ok after ∧ after.nodes = fs.nodes.set location (.file content) := by
  unfold write
  split
  next refused same =>
    rw [free] at same
    cases same
  next => exact ⟨_,rfl,rfl⟩

theorem write_ok {fs after : FileSystem Content} {location : Location} {content : Content}
    (written : fs.write location content = .ok after) :
    after.nodes = fs.nodes.set location (.file content) ∧ fs.refusal location = none := by
  cases free : fs.refusal location with
  | some refused =>
    rw [write_refused free] at written
    cases written
  | none =>
    obtain ⟨other,same,nodes⟩ := write_free free content
    rw [written] at same
    obtain rfl := Except.ok.inj same
    exact ⟨nodes,rfl⟩

theorem node_write {fs after : FileSystem Content} {location : Location} {content : Content}
    (written : fs.write location content = .ok after) (other : Location) :
    after.node other = if other = location then some (.file content) else fs.node other := by
  rw [node,(write_ok written).1,Dict.get_set]
  rfl

theorem unlink_ok {fs after : FileSystem Content} {location : Location} (gone : fs.unlink location = .ok after) :
    after.nodes = fs.nodes.erase location := by
  unfold unlink at gone
  split at gone
  next => cases gone
  next there =>
    split at gone
    next => cases gone
    next =>
      obtain rfl := Except.ok.inj gone
      exact rfl

theorem unlink_error {fs : FileSystem Content} {location : Location} {failure : OsError}
    (refused : fs.unlink location = .error failure) : fs.file location = none := by
  unfold unlink at refused
  unfold file
  split at refused
  next there => rw [isDirectory_iff.mp there]
  next =>
    split at refused
    next absent => rw [Option.isNone_iff_eq_none.mp absent]
    next => cases refused

theorem node_unlink {fs after : FileSystem Content} {location : Location} (gone : fs.unlink location = .ok after)
    (other : Location) : after.node other = if other = location then none else fs.node other := by
  rw [node,unlink_ok gone,Dict.get_erase]
  rfl

section Files

variable {fs made after : FileSystem Content} {location : Location}

theorem file_makeDirectories (ok : fs.makeDirectories location = .ok made) (other : Location) :
    made.file other = fs.file other := by
  obtain ⟨rfl,free⟩ := makeDirectories_ok ok
  by_cases above : other <+: location
  · rw [free other above,file,node_withDirectories,if_pos above]
  · refine file_congr ?_
    rw [node_withDirectories,if_neg above]

theorem file_write {content : Content} (written : fs.write location content = .ok after) (other : Location) :
    after.file other = if other = location then some content else fs.file other := by
  have found := node_write written other
  by_cases same : other = location
  · rw [if_pos same] at found ⊢
    exact file_iff.mpr found
  · rw [if_neg same] at found ⊢
    exact file_congr found

theorem file_unlink (gone : fs.unlink location = .ok after) (other : Location) :
    after.file other = if other = location then none else fs.file other := by
  have found := node_unlink gone other
  by_cases same : other = location
  · rw [if_pos same] at found ⊢
    rw [file,found]
  · rw [if_neg same] at found ⊢
    exact file_congr found

end Files

end Writes

section Restrictions

variable {Content : Type}

/-- What is above a kept location is kept. -/
def Downward (keep : Location → Bool) : Prop :=
  ∀ location parent, parent <+: location → keep location = true → keep parent = true

/-- A part of a file system that has all that is above what it has. -/
def restrict (fs : FileSystem Content) (keep : Location → Bool) (downward : Downward keep) : FileSystem Content where
  nodes := fs.nodes.restrict keep
  closed := by
    intro location parent under strict there
    rw [Dict.get_restrict] at there ⊢
    split at there
    next kept => rw [if_pos (downward location parent under kept),fs.closed location parent under strict there]
    next => exact absurd rfl there

variable {fs after : FileSystem Content} {keep : Location → Bool} {downward : Downward keep} {location : Location}

theorem node_restrict (kept : keep location = true) : (fs.restrict keep downward).node location = fs.node location := by
  rw [node,restrict,Dict.get_restrict,if_pos kept]
  rfl

theorem file_restrict (kept : keep location = true) : (fs.restrict keep downward).file location = fs.file location :=
  file_congr (node_restrict kept)

theorem isDirectory_restrict (kept : keep location = true) :
    (fs.restrict keep downward).isDirectory location = fs.isDirectory location := by
  rw [isDirectory,isDirectory,node_restrict kept]

theorem directories_restrict (levels : List Location) (nodes : Dict Location (Node Content))
    (kept : ∀ level ∈ levels, keep level = true) :
    (levels.foldl (fun nodes level => nodes.set level .directory) nodes).restrict keep =
      levels.foldl (fun nodes level => nodes.set level .directory) (nodes.restrict keep) := by
  induction levels generalizing nodes with
  | nil => exact rfl
  | cons level rest ih =>
    rw [List.foldl_cons,List.foldl_cons,ih _ fun other member => kept other (List.mem_cons_of_mem level member),
      Dict.restrict_set,if_pos (kept level List.mem_cons_self)]

theorem makeDirectories_restrict (kept : keep location = true) :
    (fs.restrict keep downward).makeDirectories location =
      (fs.makeDirectories location).map fun after => after.restrict keep downward := by
  have above : ∀ level ∈ location.inits, keep level = true := fun level member =>
    downward location level ((List.mem_inits level location).mp member) kept
  have same : (location.inits.any fun level => ((fs.restrict keep downward).file level).isSome) =
      location.inits.any fun level => (fs.file level).isSome := by
    rw [Bool.eq_iff_iff,List.any_eq_true,List.any_eq_true]
    refine exists_congr fun level => and_congr_right fun member => ?_
    rw [file_restrict (above level member)]
  unfold makeDirectories
  rw [same,file_restrict kept]
  split
  next => rfl
  next =>
    split
    next => rfl
    next => exact congrArg Except.ok (ext (directories_restrict location.inits fs.nodes above).symm)

theorem refusal_restrict (kept : keep location = true) :
    (fs.restrict keep downward).refusal location = fs.refusal location := by
  have last := downward location location.dropLast (List.dropLast_prefix location) kept
  rw [refusal,refusal,isDirectory_restrict kept,node_restrict last]

theorem write_restrict (kept : keep location = true) (content : Content) :
    (fs.restrict keep downward).write location content =
      (fs.write location content).map fun after => after.restrict keep downward := by
  cases free : fs.refusal location with
  | some refused =>
    rw [write_refused free,write_refused ((refusal_restrict kept).trans free)]
    rfl
  | none =>
    obtain ⟨after,whole,nodes⟩ := write_free free content
    have free' : (fs.restrict keep downward).refusal location = none := (refusal_restrict kept).trans free
    obtain ⟨smaller,part,fewer⟩ := write_free free' content
    rw [whole,part]
    refine congrArg Except.ok (ext ?_)
    change smaller.nodes = after.nodes.restrict keep
    rw [fewer,nodes,Dict.restrict_set,if_pos kept]
    rfl

theorem unlink_restrict (kept : keep location = true) :
    (fs.restrict keep downward).unlink location =
      (fs.unlink location).map fun after => after.restrict keep downward := by
  unfold unlink
  simp only [isDirectory_restrict kept,node_restrict kept]
  split
  next => rfl
  next =>
    split
    next => rfl
    next =>
      refine congrArg Except.ok (ext ?_)
      exact (Dict.restrict_erase fs.nodes keep location).symm

theorem write_dropped (dropped : keep location = false) {content : Content} (written : fs.write location content = .ok after) :
    after.restrict keep downward = fs.restrict keep downward := by
  refine ext ?_
  change after.nodes.restrict keep = fs.nodes.restrict keep
  rw [(write_ok written).1,Dict.restrict_set,if_neg (Bool.eq_false_iff.mp dropped)]

theorem unlink_dropped (dropped : keep location = false) (gone : fs.unlink location = .ok after) :
    after.restrict keep downward = fs.restrict keep downward := by
  have absent : (fs.nodes.restrict keep).get location = none := by
    rw [Dict.get_restrict,if_neg (Bool.eq_false_iff.mp dropped)]
  refine ext ?_
  change after.nodes.restrict keep = fs.nodes.restrict keep
  rw [unlink_ok gone,Dict.restrict_erase,Dict.erase_of_get absent]

theorem withDirectories_dropped (there : ∀ level, level <+: location → keep level = true → fs.node level = some .directory) :
    (fs.withDirectories location).restrict keep downward = fs.restrict keep downward := by
  suffices general : ∀ levels : List Location, (∀ level ∈ levels, level <+: location) →
      ∀ nodes : Dict Location (Node Content), nodes.restrict keep = fs.nodes.restrict keep →
      (levels.foldl (fun nodes level => nodes.set level .directory) nodes).restrict keep = fs.nodes.restrict keep from
    ext (general location.inits (fun level member => (List.mem_inits level location).mp member) fs.nodes rfl)
  intro levels
  induction levels with
  | nil => exact fun _ _ same => same
  | cons level rest ih =>
    intro above nodes same
    refine ih (fun other member => above other (List.mem_cons_of_mem level member)) _ ?_
    rw [Dict.restrict_set,same]
    split
    next kept =>
      have found : (fs.nodes.restrict keep).get level = some .directory := by
        rw [Dict.get_restrict,if_pos kept]
        exact there level (above level List.mem_cons_self) kept
      exact Dict.set_of_get found
    next => rfl

end Restrictions

end FileSystem

end FileSystems

end CqrsDdd
