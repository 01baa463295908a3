import CqrsDdd.FileStorage.Paths
import CqrsDdd.Noninterference
import Mathlib.Logic.Function.Basic

/-! Blobs in the directories of one machine. Whatever paths the callers name, only
what is below the root is read, written or removed, and the storage answers as a
ledger from normal forms of paths to contents does. -/
namespace CqrsDdd.FileStorage
open FileSystems FileSystems.FileSystem

abbrev Bytes := List UInt8

/-- What an iterator of chunks may raise: an `OSError`, or anything else. -/
inductive StreamFailure
  | os (text : String)
  | other (text : String)
  deriving DecidableEq, Repr

inductive Data
  | bytes (content : Bytes)
  | chunks (content : List Bytes) (failure : Option StreamFailure)

/-- What reaches the file. -/
def Data.written : Data → Bytes
  | .bytes content => content
  | .chunks content _ => content.flatten

def Data.failure : Data → Option StreamFailure
  | .bytes _ => none
  | .chunks _ failure => failure

structure FileMetadata where
  contentType : String := "application/octet-stream"
  size : Option Nat := none
  checksum : Option String := none
  customMetadata : Dict String String := Dict.empty

structure StoredFileReference where
  path : Text
  metadata : FileMetadata
  storageBackend : String := ""

inductive WriteFailure
  | os (error : OsError)
  | stream (text : String)
  deriving DecidableEq, Repr

inductive Failure
  | refused (error : PathError)
  /-- `BlobNotFoundError` -/
  | notFound (path : Text)
  /-- `UploadError` -/
  | upload (path : Text) (cause : WriteFailure)
  | os (error : OsError)
  | stream (text : String)
  deriving DecidableEq, Repr

def Failure.message (repr : Text → String) (osText : OsError → String) : Failure → String
  | .refused error => error.message repr
  | .notFound path => "Blob not found: " ++ String.ofList path
  | .upload path (.os error) => "Failed to write " ++ String.ofList path ++ ": " ++ osText error
  | .upload path (.stream text) => "Failed to write " ++ String.ofList path ++ ": " ++ text
  | .os error => osText error
  | .stream text => text

/-- The root, resolved; the digest of a content; and the order in which the operating system lists files. -/
structure LocalBlobStorage where
  root : Location
  sha256 : Bytes → String
  walk : List Location → List Location
  walks : ∀ locations, (walk locations).Perm locations

inductive Call
  | upload (path : Text) (data : Data) (metadata : Option FileMetadata)
  | download (path : Text)
  | delete (path : Text)
  | existsBlob (path : Text)
  | getMetadata (path : Text)
  | copy (source destination : Text)
  | listPrefix (start : Text)

inductive Reply
  | stored (reference : StoredFileReference)
  | content (bytes : Bytes)
  | done
  | flag (found : Bool)
  | metadata (metadata : FileMetadata)
  | listing (references : List StoredFileReference)
  | failed (failure : Failure)

namespace LocalBlobStorage

section Operations

variable (storage : LocalBlobStorage) (fs : FileSystem Bytes)

/-- `self._root / safe` -/
def target (safe : Text) : Location := resolve storage.root (safe.splitOn '/')

def upload (path : Text) (data : Data) (metadata : Option FileMetadata) : FileSystem Bytes × Reply :=
  match validatePath path with
  | .error error => (fs,.failed (.refused error))
  | .ok safe =>
    match fs.makeDirectories (storage.target safe).dropLast with
    | .error error => (fs,.failed (.os error))
    | .ok made =>
      match made.write (storage.target safe) data.written with
      | .error error => (made,.failed (.upload safe (.os error)))
      | .ok after =>
        match data.failure with
        | some (.os text) => (after,.failed (.upload safe (.stream text)))
        | some (.other text) => (after,.failed (.stream text))
        | none => (after,.stored
            { path := safe
              metadata :=
                { contentType := (metadata.map FileMetadata.contentType).getD "application/octet-stream"
                  size := some data.written.length
                  checksum := some (storage.sha256 data.written)
                  customMetadata := (metadata.map FileMetadata.customMetadata).getD Dict.empty }
              storageBackend := "local" })

/-- The chunks that `download` streams, put together. -/
def download (path : Text) : Reply :=
  match validatePath path with
  | .error error => .failed (.refused error)
  | .ok safe =>
    match fs.file (storage.target safe) with
    | none => .failed (.notFound safe)
    | some content => .content content

/-- An `OSError` of `unlink` is suppressed. -/
def delete (path : Text) : FileSystem Bytes × Reply :=
  match validatePath path with
  | .error error => (fs,.failed (.refused error))
  | .ok safe =>
    match fs.unlink (storage.target safe) with
    | .error _ => (fs,.done)
    | .ok after => (after,.done)

def existsBlob (path : Text) : Reply :=
  match validatePath path with
  | .error error => .failed (.refused error)
  | .ok safe => .flag (fs.file (storage.target safe)).isSome

def getMetadata (path : Text) : Reply :=
  match validatePath path with
  | .error error => .failed (.refused error)
  | .ok safe =>
    match fs.file (storage.target safe) with
    | none => .failed (.notFound safe)
    | some content => .metadata { size := some content.length,checksum := some (storage.sha256 content) }

/-- The destination is opened for writing before the source is read: a blob copied onto itself is emptied. -/
def copied (source destination : Location) (content : Bytes) : Bytes := if source = destination then [] else content

def copy (source destination : Text) : FileSystem Bytes × Reply :=
  match validatePath source with
  | .error error => (fs,.failed (.refused error))
  | .ok srcSafe =>
    match validatePath destination with
    | .error error => (fs,.failed (.refused error))
    | .ok dstSafe =>
      match fs.file (storage.target srcSafe) with
      | none => (fs,.failed (.notFound srcSafe))
      | some content =>
        match fs.makeDirectories (storage.target dstSafe).dropLast with
        | .error error => (fs,.failed (.os error))
        | .ok made =>
          let moved := copied (storage.target srcSafe) (storage.target dstSafe) content
          match made.write (storage.target dstSafe) moved with
          | .error error => (made,.failed (.os error))
          | .ok after => (after,.stored
              { path := dstSafe
                metadata := { size := some moved.length,checksum := some (storage.sha256 moved) }
                storageBackend := "local" })

/-- The files that `os.walk` finds strictly below a location. -/
def filesBelow (base : Location) : List Location :=
  (fs.nodes.entries.map Prod.fst).filter fun location => (fs.file location).isSome && base.isPrefixOf location && base ≠ location

/-- What `_iter_prefix` yields for one file. -/
def listed (location : Location) : StoredFileReference :=
  { path := spelled (location.drop storage.root.length)
    metadata := { size := (fs.file location).map List.length }
    storageBackend := "local" }

/-- Where a listing starts. -/
def base (safe : Text) : Location := if safe = [] then storage.root else storage.target safe

def listPrefix (start : Text) : Reply :=
  match if start = [] then .ok [] else validatePath start with
  | .error error => .failed (.refused error)
  | .ok safe => .listing ((storage.walk (filesBelow fs (storage.base safe))).map (storage.listed fs))

def perform : Call → FileSystem Bytes × Reply
  | .upload path data metadata => storage.upload fs path data metadata
  | .download path => (fs,storage.download fs path)
  | .delete path => storage.delete fs path
  | .existsBlob path => (fs,storage.existsBlob fs path)
  | .getMetadata path => (fs,storage.getMetadata fs path)
  | .copy source destination => storage.copy fs source destination
  | .listPrefix start => (fs,storage.listPrefix fs start)

def step (call : Call) : FileSystem Bytes := (storage.perform fs call).1

def answer (call : Call) : Reply := (storage.perform fs call).2

end Operations

section Confinement

variable {storage : LocalBlobStorage} {fs : FileSystem Bytes}

def Reaches (storage : LocalBlobStorage) (location : Location) : Call → Prop
  | .upload path _ _ | .download path | .delete path | .existsBlob path | .getMetadata path =>
    ∃ safe, validatePath path = .ok safe ∧ location = storage.target safe
  | .copy source destination =>
    ∃ safe, (validatePath source = .ok safe ∨ validatePath destination = .ok safe) ∧ location = storage.target safe
  | .listPrefix start =>
    ∃ safe, (if start = [] then .ok [] else validatePath start) = .ok safe ∧ storage.base safe <+: location

inductive Touched (storage : LocalBlobStorage) (fs : FileSystem Bytes) (call : Call) : FileSystem Bytes → Prop
  | same : Touched storage fs call fs
  | made {location : Location} {after : FileSystem Bytes} (reached : storage.Reaches location call)
      (ok : fs.makeDirectories location.dropLast = .ok after) : Touched storage fs call after
  | written {location : Location} {content : Bytes} {made after : FileSystem Bytes} (reached : storage.Reaches location call)
      (ok : fs.makeDirectories location.dropLast = .ok made) (written : made.write location content = .ok after) :
      Touched storage fs call after
  | removed {location : Location} {after : FileSystem Bytes} (reached : storage.Reaches location call)
      (gone : fs.unlink location = .ok after) : Touched storage fs call after

theorem target_of_ok {path safe : Text} (taken : validatePath path = .ok safe) :
    storage.target safe = storage.root ++ names path := resolve_of_ok taken storage.root

theorem touched_upload (path : Text) (data : Data) (metadata : Option FileMetadata) :
    Touched storage fs (.upload path data metadata) (storage.upload fs path data metadata).1 := by
  unfold upload
  split
  next => exact .same
  next safe taken =>
    split
    next => exact .same
    next made ok =>
      split
      next => exact .made ⟨safe,taken,rfl⟩ ok
      next after written => split <;> exact .written ⟨safe,taken,rfl⟩ ok written

theorem touched_delete (path : Text) : Touched storage fs (.delete path) (storage.delete fs path).1 := by
  unfold delete
  split
  next => exact .same
  next safe taken =>
    split
    next => exact .same
    next after gone => exact .removed ⟨safe,taken,rfl⟩ gone

theorem touched_copy (source destination : Text) :
    Touched storage fs (.copy source destination) (storage.copy fs source destination).1 := by
  unfold copy
  split
  next => exact .same
  next srcSafe _ =>
    split
    next => exact .same
    next dstSafe taken =>
      split
      next => exact .same
      next content _ =>
        split
        next => exact .same
        next made ok =>
          dsimp only
          split
          next => exact .made ⟨dstSafe,.inr taken,rfl⟩ ok
          next after written => exact .written ⟨dstSafe,.inr taken,rfl⟩ ok written

theorem touched_step (call : Call) : Touched storage fs call (storage.step fs call) := by
  cases call with
  | upload path data metadata => exact touched_upload path data metadata
  | delete path => exact touched_delete path
  | copy source destination => exact touched_copy source destination
  | download path => exact .same
  | existsBlob path => exact .same
  | getMetadata path => exact .same
  | listPrefix start => exact .same

theorem root_of_ok {path safe : Text} (taken : validatePath path = .ok safe) : storage.root <+: storage.target safe := by
  rw [target_of_ok taken]
  exact List.prefix_append storage.root _

theorem below_of_reaches {location : Location} {call : Call} (reached : storage.Reaches location call) :
    storage.root <+: location := by
  cases call with
  | upload path data metadata =>
    obtain ⟨safe,taken,rfl⟩ := reached
    exact root_of_ok taken
  | copy source destination =>
    obtain ⟨safe,taken | taken,rfl⟩ := reached
    · exact root_of_ok taken
    · exact root_of_ok taken
  | listPrefix start =>
    obtain ⟨safe,taken,under⟩ := reached
    refine List.IsPrefix.trans ?_ under
    unfold base
    split at taken
    next =>
      obtain rfl := Except.ok.inj taken
      rw [if_pos rfl]
    next =>
      split
      next => exact List.prefix_rfl
      next => exact root_of_ok taken
  | download path | delete path | existsBlob path | getMetadata path =>
    obtain ⟨safe,taken,rfl⟩ := reached
    exact root_of_ok taken

/-- Of what is not below the root, a call makes the missing directories that lead to it, and nothing else. -/
def Outside (root : Location) (before after : FileSystem Bytes) : Prop :=
  ∀ location, ¬root <+: location → after.node location = before.node location ∨
    (location <+: root ∧ before.file location = none ∧ after.node location = some .directory)

theorem outside_made {location : Location} {after : FileSystem Bytes} (below : storage.root <+: location)
    (ok : fs.makeDirectories location.dropLast = .ok after) : Outside storage.root fs after := by
  obtain ⟨rfl,free⟩ := makeDirectories_ok ok
  intro other outside
  rw [node_withDirectories]
  split
  next above =>
    refine .inr ⟨?_,free other above,rfl⟩
    have both := above.trans (List.dropLast_prefix location)
    exact (List.prefix_or_prefix_of_prefix both below).resolve_right outside
  next => exact .inl rfl

theorem outside_of_touched {call : Call} {after : FileSystem Bytes} (touched : Touched storage fs call after) :
    Outside storage.root fs after := by
  cases touched with
  | same => exact fun _ _ => .inl rfl
  | made reached ok => exact outside_made (below_of_reaches reached) ok
  | written reached ok written =>
    intro other outside
    have differs : other ≠ _ := fun same => outside (same ▸ below_of_reaches reached)
    rw [node_write written,if_neg differs]
    exact outside_made (below_of_reaches reached) ok other outside
  | removed reached gone =>
    intro other outside
    have differs : other ≠ _ := fun same => outside (same ▸ below_of_reaches reached)
    rw [node_unlink gone,if_neg differs]
    exact .inl rfl

theorem Outside.trans {root : Location} {before between after : FileSystem Bytes}
    (first : Outside root before between) (second : Outside root between after) : Outside root before after := by
  intro location outside
  rcases first location outside with same | ⟨above,free,made⟩
  · rcases second location outside with later | ⟨above,free,made⟩
    · exact .inl (later.trans same)
    · exact .inr ⟨above,(file_congr same).symm.trans free,made⟩
  · rcases second location outside with later | ⟨_,_,again⟩
    · exact .inr ⟨above,free,later.trans made⟩
    · exact .inr ⟨above,free,again⟩

theorem outside_run (calls : List Call) : Outside storage.root fs (Transition.run storage.step fs calls) := by
  induction calls generalizing fs with
  | nil => exact fun _ _ => .inl rfl
  | cons call rest ih => exact (outside_of_touched (touched_step call)).trans ih

end Confinement

section Parts

variable {storage : LocalBlobStorage} {fs : FileSystem Bytes} {keep : Location → Bool} {downward : Downward keep}

/-- The outcome of a call as it shows in a part of the file system. -/
def shown (keep : Location → Bool) (downward : Downward keep) (outcome : FileSystem Bytes × Reply) :
    FileSystem Bytes × Reply := (outcome.1.restrict keep downward,outcome.2)

theorem upload_restrict {path : Text} {data : Data} {metadata : Option FileMetadata}
    (kept : ∀ safe, validatePath path = .ok safe → keep (storage.target safe) = true) :
    storage.upload (fs.restrict keep downward) path data metadata = shown keep downward (storage.upload fs path data metadata) := by
  unfold upload
  split
  next => rfl
  next safe taken =>
    have here := kept safe taken
    rw [makeDirectories_restrict (downward _ _ (List.dropLast_prefix _) here)]
    cases fs.makeDirectories (storage.target safe).dropLast with
    | error error => rfl
    | ok made =>
      dsimp only [Except.map]
      rw [write_restrict here]
      cases made.write (storage.target safe) data.written with
      | error error => rfl
      | ok after =>
        dsimp only [Except.map]
        rcases data.failure with _ | (_ | _) <;> rfl

theorem download_restrict {path : Text} (kept : ∀ safe, validatePath path = .ok safe → keep (storage.target safe) = true) :
    storage.download (fs.restrict keep downward) path = storage.download fs path := by
  unfold download
  split
  next => rfl
  next safe taken => rw [file_restrict (kept safe taken)]

theorem existsBlob_restrict {path : Text}
    (kept : ∀ safe, validatePath path = .ok safe → keep (storage.target safe) = true) :
    storage.existsBlob (fs.restrict keep downward) path = storage.existsBlob fs path := by
  unfold existsBlob
  split
  next => rfl
  next safe taken => rw [file_restrict (kept safe taken)]

theorem getMetadata_restrict {path : Text}
    (kept : ∀ safe, validatePath path = .ok safe → keep (storage.target safe) = true) :
    storage.getMetadata (fs.restrict keep downward) path = storage.getMetadata fs path := by
  unfold getMetadata
  split
  next => rfl
  next safe taken => rw [file_restrict (kept safe taken)]

theorem delete_restrict {path : Text} (kept : ∀ safe, validatePath path = .ok safe → keep (storage.target safe) = true) :
    storage.delete (fs.restrict keep downward) path = shown keep downward (storage.delete fs path) := by
  unfold delete
  split
  next => rfl
  next safe taken =>
    rw [unlink_restrict (kept safe taken)]
    cases fs.unlink (storage.target safe) <;> rfl

theorem copy_restrict {source destination : Text}
    (kept : ∀ safe, validatePath source = .ok safe ∨ validatePath destination = .ok safe → keep (storage.target safe) = true) :
    storage.copy (fs.restrict keep downward) source destination =
      shown keep downward (storage.copy fs source destination) := by
  unfold copy
  split
  next => rfl
  next srcSafe src =>
    split
    next => rfl
    next dstSafe dst =>
      have here := kept dstSafe (.inr dst)
      rw [file_restrict (kept srcSafe (.inl src)),makeDirectories_restrict (downward _ _ (List.dropLast_prefix _) here)]
      cases fs.file (storage.target srcSafe) with
      | none => rfl
      | some content =>
        cases fs.makeDirectories (storage.target dstSafe).dropLast with
        | error error => rfl
        | ok made =>
          dsimp only [Except.map]
          rw [write_restrict here]
          cases made.write (storage.target dstSafe) (copied (storage.target srcSafe) (storage.target dstSafe) content) <;> rfl

theorem filesBelow_restrict {base : Location} (kept : ∀ location, base <+: location → keep location = true) :
    filesBelow (fs.restrict keep downward) base = filesBelow fs base := by
  unfold filesBelow
  rw [List.filter_map,List.filter_map]
  refine congrArg (List.map Prod.fst) ?_
  change (fs.nodes.entries.filter fun entry => keep entry.1).filter _ = _
  rw [List.filter_filter]
  refine List.filter_congr fun entry _ => ?_
  by_cases below : base <+: entry.1
  · have same : (fs.restrict keep downward).file entry.1 = fs.file entry.1 := file_restrict (kept entry.1 below)
    simp [kept entry.1 below,same]
  · have none : base.isPrefixOf entry.1 = false := Bool.eq_false_iff.mpr (mt List.isPrefixOf_iff_prefix.mp below)
    simp [none]

theorem mem_filesBelow {base location : Location} : location ∈ filesBelow fs base ↔
    (∃ content, fs.file location = some content) ∧ base <+: location ∧ base ≠ location := by
  unfold filesBelow
  rw [List.mem_filter,Bool.and_eq_true,Bool.and_eq_true,List.isPrefixOf_iff_prefix,decide_eq_true_eq,Option.isSome_iff_exists,
    and_assoc]
  refine and_iff_right_of_imp fun found => ?_
  obtain ⟨⟨content,stored⟩,_⟩ := found
  exact List.mem_map.mpr ⟨(location,_),(Dict.mem_iff_get fs.nodes).mpr (file_iff.mp stored),rfl⟩

theorem listPrefix_restrict {start : Text}
    (kept : ∀ location safe, (if start = [] then .ok [] else validatePath start) = .ok safe → storage.base safe <+: location →
      keep location = true) :
    storage.listPrefix (fs.restrict keep downward) start = storage.listPrefix fs start := by
  unfold listPrefix
  split
  next => rfl
  next safe taken =>
    have below : ∀ location, storage.base safe <+: location → keep location = true := fun location under =>
      kept location safe taken under
    rw [filesBelow_restrict below]
    refine congrArg Reply.listing (List.map_congr_left fun location member => ?_)
    have inside := mem_filesBelow.mp ((storage.walks _).mem_iff.mp member)
    rw [listed,listed,file_restrict (below location inside.2.1)]

theorem perform_restrict {call : Call} (kept : ∀ location, storage.Reaches location call → keep location = true) :
    storage.perform (fs.restrict keep downward) call = shown keep downward (storage.perform fs call) := by
  cases call with
  | upload path data metadata => exact upload_restrict fun safe taken => kept _ ⟨safe,taken,rfl⟩
  | delete path => exact delete_restrict fun safe taken => kept _ ⟨safe,taken,rfl⟩
  | copy source destination => exact copy_restrict fun safe taken => kept _ ⟨safe,taken,rfl⟩
  | download path => exact congrArg (Prod.mk _) (download_restrict fun safe taken => kept _ ⟨safe,taken,rfl⟩)
  | existsBlob path => exact congrArg (Prod.mk _) (existsBlob_restrict fun safe taken => kept _ ⟨safe,taken,rfl⟩)
  | getMetadata path => exact congrArg (Prod.mk _) (getMetadata_restrict fun safe taken => kept _ ⟨safe,taken,rfl⟩)
  | listPrefix start =>
    exact congrArg (Prod.mk _) (listPrefix_restrict fun location safe taken under => kept location ⟨safe,taken,under⟩)

/-- Whether a location is above the root or below it. -/
def around (root location : Location) : Bool := root.isPrefixOf location || location.isPrefixOf root

theorem around_iff {root location : Location} : around root location = true ↔ root <+: location ∨ location <+: root := by
  rw [around,Bool.or_eq_true,List.isPrefixOf_iff_prefix,List.isPrefixOf_iff_prefix]

theorem downward_around (root : Location) : Downward (around root) := by
  intro location parent under kept
  rw [around_iff] at kept ⊢
  rcases kept with below | above
  · exact (List.prefix_or_prefix_of_prefix below under)
  · exact .inr (under.trans above)

/-- Nothing outside of the root is written or removed, but for the missing directories above it, and the answers do
not depend on what is there. -/
theorem confined (storage : LocalBlobStorage) (fs : FileSystem Bytes) (calls : List Call) :
    Outside storage.root fs (Transition.run storage.step fs calls) ∧
      Noninterference.answers storage.step storage.answer fs calls =
        Noninterference.answers storage.step storage.answer
          (fs.restrict (around storage.root) (downward_around storage.root)) calls := by
  refine ⟨outside_run calls,?_⟩
  induction calls generalizing fs with
  | nil => rfl
  | cons call rest ih =>
    have same : storage.perform (fs.restrict (around storage.root) (downward_around storage.root)) call =
        shown (around storage.root) (downward_around storage.root) (storage.perform fs call) :=
      perform_restrict fun location reached => around_iff.mpr (.inl (below_of_reaches reached))
    rw [Noninterference.answers,Noninterference.answers,ih,answer,answer,step,step,same]
    rfl

end Parts

section Ledgers

abbrev Ledger := List Text → Option Bytes

def ledger (storage : LocalBlobStorage) (fs : FileSystem Bytes) : Ledger := fun names => fs.file (storage.root ++ names)

/-- Whether the answer to an upload or a copy says that the file was written, in whole or in part. -/
def wrote : Reply → Bool
  | .stored _ | .failed (.upload _ (.stream _)) | .failed (.stream _) => true
  | _ => false

def record (ledger : Ledger) : Call → Reply → Ledger
  | .upload path data _,reply => if wrote reply then Function.update ledger (names path) (some data.written) else ledger
  | .copy source destination,reply =>
    if wrote reply then Function.update ledger (names destination)
      (if names source = names destination then some [] else ledger (names source))
    else ledger
  | .delete path,.done => Function.update ledger (names path) none
  | _,_ => ledger

/-- The answer that a ledger gives to a call. -/
def Explains (storage : LocalBlobStorage) (ledger : Ledger) : Call → Reply → Prop
  | .upload path data metadata,reply =>
    match validatePath path with
    | .error error => reply = .failed (.refused error)
    | .ok safe => ∀ reference, reply = .stored reference → data.failure = none ∧ reference =
      { path := safe
        metadata :=
          { contentType := (metadata.map FileMetadata.contentType).getD "application/octet-stream"
            size := some data.written.length
            checksum := some (storage.sha256 data.written)
            customMetadata := (metadata.map FileMetadata.customMetadata).getD Dict.empty }
        storageBackend := "local" }
  | .download path,reply =>
    match validatePath path,ledger (names path) with
    | .error error,_ => reply = .failed (.refused error)
    | .ok safe,none => reply = .failed (.notFound safe)
    | .ok _,some content => reply = .content content
  | .delete path,reply =>
    match validatePath path with
    | .error error => reply = .failed (.refused error)
    | .ok _ => reply = .done
  | .existsBlob path,reply =>
    match validatePath path with
    | .error error => reply = .failed (.refused error)
    | .ok _ => reply = .flag (ledger (names path)).isSome
  | .getMetadata path,reply =>
    match validatePath path,ledger (names path) with
    | .error error,_ => reply = .failed (.refused error)
    | .ok safe,none => reply = .failed (.notFound safe)
    | .ok _,some content => reply = .metadata { size := some content.length,checksum := some (storage.sha256 content) }
  | .copy source destination,reply =>
    match validatePath source,validatePath destination,ledger (names source) with
    | .error error,_,_ => reply = .failed (.refused error)
    | .ok _,.error error,_ => reply = .failed (.refused error)
    | .ok safe,.ok _,none => reply = .failed (.notFound safe)
    | .ok _,.ok safe,some content => ∀ reference, reply = .stored reference → reference =
      { path := safe
        metadata :=
          { size := some (if names source = names destination then [] else content).length
            checksum := some (storage.sha256 (if names source = names destination then [] else content)) }
        storageBackend := "local" }
  | .listPrefix start,reply =>
    match if start = [] then .ok [] else validatePath start with
    | .error error => reply = .failed (.refused error)
    | .ok _ => ∃ references, reply = .listing references ∧ ∀ reference, reference ∈ references ↔
      ∃ key content, ledger key = some content ∧ names start <+: key ∧ names start ≠ key ∧ reference =
        { path := spelled key,metadata := { size := some content.length },storageBackend := "local" }

def Explained (storage : LocalBlobStorage) : Ledger → List (Call × Reply) → Prop
  | _,[] => True
  | ledger,(call,reply)::rest => Explains storage ledger call reply ∧ Explained storage (record ledger call reply) rest

variable {storage : LocalBlobStorage} {fs : FileSystem Bytes}

theorem ledger_write {made after : FileSystem Bytes} {key : List Text} {content : Bytes} {location : Location}
    (ok : fs.makeDirectories location = .ok made) (written : made.write (storage.root ++ key) content = .ok after) :
    ledger storage after = Function.update (ledger storage fs) key (some content) := by
  funext other
  rw [ledger,file_write written,file_makeDirectories ok]
  by_cases same : other = key
  · rw [same,if_pos rfl,Function.update_self]
  · rw [Function.update_of_ne same,if_neg (mt List.append_cancel_left same)]
    rfl

theorem ledger_made {made : FileSystem Bytes} {location : Location} (ok : fs.makeDirectories location = .ok made) :
    ledger storage made = ledger storage fs := funext fun _ => file_makeDirectories ok _

theorem ledger_upload (path : Text) (data : Data) (metadata : Option FileMetadata) :
    ledger storage (storage.upload fs path data metadata).1 =
      record (ledger storage fs) (.upload path data metadata) (storage.upload fs path data metadata).2 := by
  unfold upload
  split
  next => rfl
  next safe taken =>
    rw [target_of_ok taken]
    split
    next => rfl
    next made ok =>
      split
      next => exact ledger_made ok
      next after written =>
        have same := ledger_write ok written
        split <;> exact same

theorem ledger_delete (path : Text) :
    ledger storage (storage.delete fs path).1 = record (ledger storage fs) (.delete path) (storage.delete fs path).2 := by
  unfold delete
  split
  next => rfl
  next safe taken =>
    rw [target_of_ok taken]
    split
    next error refused =>
      refine (Function.update_eq_self_iff.mpr ?_).symm
      exact (unlink_error refused).symm
    next after gone =>
      funext other
      rw [ledger,file_unlink gone,record]
      by_cases same : other = names path
      · rw [same,if_pos rfl,Function.update_self]
      · rw [Function.update_of_ne same,if_neg (mt List.append_cancel_left same)]
        rfl

theorem copied_names {first second : List Text} (content : Bytes) :
    copied (storage.root ++ first) (storage.root ++ second) content = if first = second then [] else content := by
  simp only [copied,List.append_cancel_left_eq]

theorem ledger_copy (source destination : Text) :
    ledger storage (storage.copy fs source destination).1 =
      record (ledger storage fs) (.copy source destination) (storage.copy fs source destination).2 := by
  unfold copy
  split
  next => rfl
  next srcSafe src =>
    split
    next => rfl
    next dstSafe dst =>
      rw [target_of_ok src,target_of_ok dst]
      split
      next => rfl
      next content found =>
        split
        next => rfl
        next made ok =>
          dsimp only
          split
          next => exact ledger_made ok
          next after written =>
            rw [copied_names] at written
            refine (ledger_write ok written).trans ?_
            change _ = Function.update _ _ _
            split
            next => rfl
            next => rw [← found]; rfl

theorem ledger_step (call : Call) :
    ledger storage (storage.step fs call) = record (ledger storage fs) call (storage.answer fs call) := by
  cases call with
  | upload path data metadata => exact ledger_upload path data metadata
  | delete path => exact ledger_delete path
  | copy source destination => exact ledger_copy source destination
  | download path => rfl
  | existsBlob path => rfl
  | getMetadata path => rfl
  | listPrefix start => rfl

theorem explains_upload (path : Text) (data : Data) (metadata : Option FileMetadata) :
    Explains storage (ledger storage fs) (.upload path data metadata) (storage.upload fs path data metadata).2 := by
  unfold Explains upload
  dsimp only
  cases validatePath path with
  | error error => rfl
  | ok safe =>
    intro reference same
    dsimp only at same
    split at same
    next => cases same
    next =>
      split at same
      next => cases same
      next =>
        split at same
        next => cases same
        next => cases same
        next none =>
          cases same
          exact ⟨none,rfl⟩

theorem explains_download (path : Text) :
    Explains storage (ledger storage fs) (.download path) (storage.download fs path) := by
  unfold Explains download
  dsimp only
  cases taken : validatePath path with
  | error error => rfl
  | ok safe =>
    dsimp only
    rw [target_of_ok taken,← ledger]
    cases ledger storage fs (names path) <;> rfl

theorem explains_delete (path : Text) :
    Explains storage (ledger storage fs) (.delete path) (storage.delete fs path).2 := by
  unfold Explains delete
  dsimp only
  cases validatePath path with
  | error error => rfl
  | ok safe =>
    dsimp only
    split <;> rfl

theorem explains_existsBlob (path : Text) :
    Explains storage (ledger storage fs) (.existsBlob path) (storage.existsBlob fs path) := by
  unfold Explains existsBlob
  dsimp only
  cases taken : validatePath path with
  | error error => rfl
  | ok safe =>
    dsimp only
    rw [target_of_ok taken]
    rfl

theorem explains_getMetadata (path : Text) :
    Explains storage (ledger storage fs) (.getMetadata path) (storage.getMetadata fs path) := by
  unfold Explains getMetadata
  dsimp only
  cases taken : validatePath path with
  | error error => rfl
  | ok safe =>
    dsimp only
    rw [target_of_ok taken,← ledger]
    cases ledger storage fs (names path) <;> rfl

theorem explains_copy (source destination : Text) :
    Explains storage (ledger storage fs) (.copy source destination) (storage.copy fs source destination).2 := by
  unfold Explains copy
  dsimp only
  cases src : validatePath source with
  | error error => rfl
  | ok srcSafe =>
    cases dst : validatePath destination with
    | error error => rfl
    | ok dstSafe =>
      dsimp only
      rw [target_of_ok src,target_of_ok dst,← ledger]
      cases ledger storage fs (names source) with
      | none => rfl
      | some content =>
        dsimp only
        rw [copied_names]
        intro reference same
        split at same
        next => cases same
        next =>
          split at same
          next => cases same
          next =>
            cases same
            rfl

theorem base_of_ok {start safe : Text} (taken : (if start = [] then .ok [] else validatePath start) = .ok safe) :
    storage.base safe = storage.root ++ names start := by
  unfold base
  split at taken
  next empty =>
    obtain rfl := Except.ok.inj taken
    rw [if_pos rfl,empty]
    exact (List.append_nil storage.root).symm
  next =>
    split
    next empty =>
      have same := names_of_ok taken
      rw [← same,empty]
      exact (List.append_nil storage.root).symm
    next => exact target_of_ok taken

theorem listed_of_file {key : List Text} {content : Bytes} (stored : ledger storage fs key = some content) :
    storage.listed fs (storage.root ++ key) =
      { path := spelled key,metadata := { size := some content.length },storageBackend := "local" } := by
  rw [listed,List.drop_left,← ledger,stored]
  rfl

theorem explains_listPrefix (start : Text) :
    Explains storage (ledger storage fs) (.listPrefix start) (storage.listPrefix fs start) := by
  unfold Explains listPrefix
  dsimp only
  cases taken : (if start = [] then Except.ok [] else validatePath start) with
  | error error => rfl
  | ok safe =>
    refine ⟨_,rfl,fun reference => ?_⟩
    rw [List.mem_map]
    constructor
    · rintro ⟨location,member,rfl⟩
      obtain ⟨⟨content,stored⟩,under,strict⟩ := mem_filesBelow.mp ((storage.walks _).mem_iff.mp member)
      rw [base_of_ok taken] at under strict
      obtain ⟨rest,rfl⟩ := under
      rw [List.append_assoc] at stored strict ⊢
      refine ⟨names start ++ rest,content,stored,List.prefix_append _ _,fun same => strict ?_,listed_of_file stored⟩
      rw [← same]
    · rintro ⟨key,content,stored,under,strict,rfl⟩
      refine ⟨storage.root ++ key,(storage.walks _).mem_iff.mpr (mem_filesBelow.mpr ⟨⟨content,stored⟩,?_,?_⟩),
        listed_of_file stored⟩
      · rw [base_of_ok taken]
        exact (List.prefix_append_right_inj storage.root).mpr under
      · rw [base_of_ok taken]
        exact fun same => strict (List.append_cancel_left same)

theorem explains_answer (call : Call) : Explains storage (ledger storage fs) call (storage.answer fs call) := by
  cases call with
  | upload path data metadata => exact explains_upload path data metadata
  | download path => exact explains_download path
  | delete path => exact explains_delete path
  | existsBlob path => exact explains_existsBlob path
  | getMetadata path => exact explains_getMetadata path
  | copy source destination => exact explains_copy source destination
  | listPrefix start => exact explains_listPrefix start

/-- Whatever the history, each call is answered from what the calls before it wrote to paths of the same normal form. -/
theorem explained (storage : LocalBlobStorage) (fs : FileSystem Bytes) (calls : List Call) :
    Explained storage (ledger storage fs) (Noninterference.answers storage.step storage.answer fs calls) := by
  induction calls generalizing fs with
  | nil => trivial
  | cons call rest ih =>
    refine ⟨explains_answer call,?_⟩
    rw [← ledger_step]
    exact ih (storage.step fs call)

end Ledgers

end LocalBlobStorage

end CqrsDdd.FileStorage
