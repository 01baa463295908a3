import CqrsDdd.FileStorage.LocalStorage

/-! Tenants that name their blobs by `BlobPath` in one local storage: nothing of one
tenant stands in the way of another's calls or shows in their answers, and no
upload of theirs finds a directory or a file where it must not be. -/
namespace CqrsDdd.FileStorage
open FileSystems FileSystems.FileSystem

/-- What names a blob next to its tenant. -/
structure BlobName where
  entityType : Text
  entityId : Text
  filename : Text

def BlobName.path (name : BlobName) (tenant : Text) : Except PathError Text :=
  BlobPath.build tenant name.entityType name.entityId name.filename

inductive BlobOperation
  | upload (name : BlobName) (data : Data) (metadata : Option FileMetadata)
  | download (name : BlobName)
  | delete (name : BlobName)
  | existsBlob (name : BlobName)
  | getMetadata (name : BlobName)
  | copy (source destination : BlobName)
  /-- `list_prefix` of the tenant's directory. -/
  | listAll

structure TenantBlobCall where
  tenant : Text
  operation : BlobOperation

namespace TenantBlobCall

/-- The call of the storage, once its paths are built. -/
def call (one : TenantBlobCall) : Except PathError Call :=
  match one.operation with
  | .upload name data metadata => (name.path one.tenant).map fun path => .upload path data metadata
  | .download name => (name.path one.tenant).map .download
  | .delete name => (name.path one.tenant).map .delete
  | .existsBlob name => (name.path one.tenant).map .existsBlob
  | .getMetadata name => (name.path one.tenant).map .getMetadata
  | .copy source destination => do
    let first ← source.path one.tenant
    let second ← destination.path one.tenant
    return .copy first second
  | .listAll => .ok (.listPrefix one.tenant)

section Machine

variable (storage : LocalBlobStorage) (fs : FileSystem Bytes)

def perform (one : TenantBlobCall) : FileSystem Bytes × Reply :=
  match one.call with
  | .error error => (fs,.failed (.refused error))
  | .ok call => storage.perform fs call

def step (one : TenantBlobCall) : FileSystem Bytes := (perform storage fs one).1

def answer (one : TenantBlobCall) : Reply := (perform storage fs one).2

end Machine

/-- A tenant lists its own directory only if its id is a segment. -/
def Listable (one : TenantBlobCall) : Prop :=
  one.operation = .listAll → ∃ segment : Segment, segment.value = one.tenant

/-- The root is there, the blobs are four levels below it and the directories are above them. -/
structure Laid (root : Location) (fs : FileSystem Bytes) : Prop where
  there : fs.node root = some .directory
  shallow : ∀ names, names.length < 4 → fs.file (root ++ names) = none
  blobs : ∀ names, names.length = 4 → fs.node (root ++ names) ≠ some .directory

/-- What a tenant has to itself, below the root, and what is not below the root. -/
def mine (root : Location) (tenant : Text) (location : Location) : Bool :=
  (root ++ [tenant]).isPrefixOf location || !(root.isPrefixOf location && root ≠ location)

section Shares

variable {root location : Location} {tenant : Text}

theorem mine_iff : mine root tenant location = true ↔
    root ++ [tenant] <+: location ∨ ¬(root <+: location ∧ root ≠ location) := by
  rw [mine,Bool.or_eq_true,List.isPrefixOf_iff_prefix,Bool.not_eq_true',← Bool.not_eq_true,Bool.and_eq_true,
    List.isPrefixOf_iff_prefix,decide_eq_true_eq]

theorem downward_mine (root : Location) (tenant : Text) : Downward (mine root tenant) := by
  intro location parent under kept
  rw [mine_iff] at kept ⊢
  by_cases below : root <+: parent ∧ root ≠ parent
  · refine .inl ?_
    obtain ⟨rest,rfl⟩ := below.1
    rcases kept with own | outside
    · obtain ⟨more,rfl⟩ := own
      rw [List.append_assoc] at under
      have inner := (List.prefix_append_right_inj root).mp under
      cases rest with
      | nil => exact absurd (List.append_nil root).symm below.2
      | cons first others =>
        obtain ⟨rfl,_⟩ := List.cons_prefix_cons.mp inner
        exact (List.prefix_append_right_inj root).mpr (List.prefix_append [first] others)
    · refine absurd ⟨below.1.trans under,?_⟩ outside
      rintro rfl
      exact below.2 (under.eq_of_length_le (below.1.length_le)).symm
  · exact .inr below

theorem mine_other {other : Text} (differs : other ≠ tenant) (under : root ++ [tenant] <+: location) :
    mine root other location = false := by
  obtain ⟨rest,rfl⟩ := under
  refine Bool.eq_false_iff.mpr fun kept => ?_
  rcases mine_iff.mp kept with own | outside
  · rw [List.append_assoc] at own
    have inner := (List.prefix_append_right_inj root).mp own
    exact differs (List.cons_prefix_cons.mp inner).1
  · refine outside ⟨List.append_assoc root [tenant] rest ▸ List.prefix_append root _,fun same => ?_⟩
    have lengths := congrArg List.length same
    simp only [List.length_append,List.length_cons,List.length_nil] at lengths
    omega

end Shares

section Steps

variable {storage : LocalBlobStorage} {fs : FileSystem Bytes}

def Blob (root : Location) (tenant : Text) (location : Location) : Prop :=
  ∃ path : BlobPath, path.tenantId.value = tenant ∧ location = root ++ path.segments

theorem Blob.own {root location : Location} {tenant : Text} (blob : Blob root tenant location) :
    root ++ [tenant] <+: location := by
  obtain ⟨path,rfl,rfl⟩ := blob
  exact (List.prefix_append_right_inj root).mpr ⟨_,rfl⟩

theorem blob_of_path {name : BlobName} {tenant path safe : Text} (built : name.path tenant = .ok path)
    (taken : validatePath path = .ok safe) : Blob storage.root tenant (storage.target safe) := by
  obtain ⟨blob,segments,rfl⟩ := BlobPath.build_ok built
  refine ⟨blob,(List.cons.inj segments).1,?_⟩
  rw [LocalBlobStorage.target_of_ok taken,BlobPath.names_str]

theorem of_map {name : BlobName} {tenant : Text} {make : Text → Call} {call : Call}
    (called : (name.path tenant).map make = .ok call) : ∃ path, name.path tenant = .ok path ∧ make path = call := by
  cases built : name.path tenant with
  | error error =>
    rw [built] at called
    cases called
  | ok path =>
    rw [built] at called
    exact ⟨path,rfl,Except.ok.inj called⟩

theorem blob_of_reaches {one : TenantBlobCall} {call : Call} (called : one.call = .ok call) {location : Location}
    (reached : storage.Reaches location call) :
    Blob storage.root one.tenant location ∨ (one.operation = .listAll ∧ call = .listPrefix one.tenant) := by
  obtain ⟨tenant,operation⟩ := one
  cases operation with
  | upload name _ _ | download name | delete name | existsBlob name | getMetadata name =>
    obtain ⟨path,built,rfl⟩ := of_map called
    obtain ⟨safe,taken,rfl⟩ := reached
    exact .inl (blob_of_path built taken)
  | copy source destination =>
    simp only [TenantBlobCall.call,bind,Except.bind,pure,Except.pure] at called
    split at called
    next => cases called
    next first builtFirst =>
      split at called
      next => cases called
      next second builtSecond =>
        obtain rfl := Except.ok.inj called
        obtain ⟨safe,taken | taken,rfl⟩ := reached
        · exact .inl (blob_of_path builtFirst taken)
        · exact .inl (blob_of_path builtSecond taken)
  | listAll => exact .inr ⟨rfl,(Except.ok.inj called).symm⟩

theorem names_segment (segment : Segment) : names segment.value = [segment.value] := by
  have same : names (spelled [segment.value]) = [segment.value] := names_spelled fun name member => by
    obtain rfl := List.mem_singleton.mp member
    exact ⟨segment.leads,segment.noSlash⟩
  rwa [spelled,if_neg (List.cons_ne_nil _ _),List.intercalate_singleton] at same

theorem mine_of_reaches {one : TenantBlobCall} (listable : Listable one) {call : Call} (called : one.call = .ok call)
    {location : Location} (reached : storage.Reaches location call) : mine storage.root one.tenant location = true := by
  refine mine_iff.mpr (.inl ?_)
  rcases blob_of_reaches called reached with blob | ⟨lists,rfl⟩
  · exact blob.own
  · obtain ⟨segment,same⟩ := listable lists
    obtain ⟨safe,taken,under⟩ := reached
    rw [LocalBlobStorage.base_of_ok taken,← same,names_segment,same] at under
    exact under

theorem perform_share {one : TenantBlobCall} (listable : Listable one) :
    perform storage (fs.restrict (mine storage.root one.tenant) (downward_mine storage.root one.tenant)) one =
      LocalBlobStorage.shown (mine storage.root one.tenant) (downward_mine storage.root one.tenant)
        (perform storage fs one) := by
  unfold perform
  split
  next => rfl
  next call called =>
    exact LocalBlobStorage.perform_restrict fun location reached => mine_of_reaches listable called reached

theorem touched_blob {one : TenantBlobCall} {call : Call} (called : one.call = .ok call) :
    storage.step fs call = fs ∨
      ∃ location, Blob storage.root one.tenant location ∧
        (fs.makeDirectories location.dropLast = .ok (storage.step fs call) ∨
          (∃ content made, fs.makeDirectories location.dropLast = .ok made ∧
            made.write location content = .ok (storage.step fs call)) ∨
          fs.unlink location = .ok (storage.step fs call)) := by
  have blob : ∀ location, storage.Reaches location call →
      Blob storage.root one.tenant location ∨ storage.step fs call = fs := fun location reached =>
    (blob_of_reaches called reached).imp_right fun lists => by rw [lists.2]; rfl
  have touched : LocalBlobStorage.Touched storage fs call (storage.step fs call) := LocalBlobStorage.touched_step call
  generalize storage.step fs call = after at touched blob
  cases touched with
  | same => exact .inl rfl
  | made reached ok => exact (blob _ reached).symm.imp_right fun own => ⟨_,own,.inl ok⟩
  | written reached ok written => exact (blob _ reached).symm.imp_right fun own => ⟨_,own,.inr (.inl ⟨_,_,ok,written⟩)⟩
  | removed reached gone => exact (blob _ reached).symm.imp_right fun own => ⟨_,own,.inr (.inr gone)⟩

section Laying

variable {root location : Location} {tenant : Text}

theorem Blob.length (blob : Blob root tenant location) : location.length = root.length + 4 := by
  obtain ⟨path,_,rfl⟩ := blob
  rw [List.length_append]
  rfl

theorem Blob.below (blob : Blob root tenant location) : root <+: location := by
  obtain ⟨path,_,rfl⟩ := blob
  exact List.prefix_append root _

theorem Laid.above (laid : Laid root fs) {level : Location} (under : level <+: root) : fs.node level = some .directory := by
  by_cases same : level = root
  · exact same ▸ laid.there
  · refine fs.closed root level under same fun absent => ?_
    cases absent.symm.trans laid.there

theorem Laid.free (laid : Laid root fs) (blob : Blob root tenant location) :
    ∀ level, level <+: location.dropLast → fs.file level = none := by
  intro level under
  have both := under.trans (List.dropLast_prefix location)
  rcases List.prefix_or_prefix_of_prefix both blob.below with above | below
  · rw [file,laid.above above]
  · obtain ⟨rest,rfl⟩ := below
    refine laid.shallow rest ?_
    have lengths := under.length_le
    rw [List.length_append,List.length_dropLast,blob.length] at lengths
    omega

theorem Laid.put (laid : Laid root fs) (blob : Blob root tenant location) :
    ∃ made, fs.makeDirectories location.dropLast = .ok made ∧ made.refusal location = none := by
  refine ⟨_,makeDirectories_of_free (laid.free blob),refusal_eq_none.mpr ⟨?_,?_⟩⟩
  · have strict : ¬location <+: location.dropLast := fun under => by
      have lengths := under.length_le
      rw [List.length_dropLast,blob.length] at lengths
      omega
    rw [node_withDirectories,if_neg strict]
    obtain ⟨path,_,rfl⟩ := blob
    exact laid.blobs path.segments rfl
  · rw [node_withDirectories,if_pos List.prefix_rfl]

theorem Blob.ne_of_length (blob : Blob root tenant location) {names : List Text} (short : names.length < 4) :
    root ++ names ≠ location := by
  rintro rfl
  have lengths := blob.length
  rw [List.length_append] at lengths
  omega

theorem Laid.made (laid : Laid root fs) (blob : Blob root tenant location) {after : FileSystem Bytes}
    (ok : fs.makeDirectories location.dropLast = .ok after) : Laid root after := by
  refine ⟨?_,fun names short => (file_makeDirectories ok _).trans (laid.shallow names short),fun names exact => ?_⟩
  · obtain ⟨rfl,_⟩ := makeDirectories_ok ok
    rw [node_withDirectories]
    split
    next => rfl
    next => exact laid.there
  · obtain ⟨rfl,_⟩ := makeDirectories_ok ok
    have deep : ¬root ++ names <+: location.dropLast := fun under => by
      have lengths := under.length_le
      rw [List.length_append,List.length_dropLast,blob.length] at lengths
      omega
    rw [node_withDirectories,if_neg deep]
    exact laid.blobs names exact

theorem Laid.written (laid : Laid root fs) (blob : Blob root tenant location) {content : Bytes} {after : FileSystem Bytes}
    (written : fs.write location content = .ok after) : Laid root after := by
  refine ⟨?_,fun names short => ?_,fun names exact => ?_⟩
  · have differs : root ≠ location := List.append_nil root ▸ blob.ne_of_length (by decide)
    rw [node_write written,if_neg differs]
    exact laid.there
  · rw [file_write written,if_neg (blob.ne_of_length short)]
    exact laid.shallow names short
  · rw [node_write written]
    split
    next => exact fun same => nomatch same
    next => exact laid.blobs names exact

theorem Laid.removed (laid : Laid root fs) (blob : Blob root tenant location) {after : FileSystem Bytes}
    (gone : fs.unlink location = .ok after) : Laid root after := by
  refine ⟨?_,fun names short => ?_,fun names exact => ?_⟩
  · have differs : root ≠ location := List.append_nil root ▸ blob.ne_of_length (by decide)
    rw [node_unlink gone,if_neg differs]
    exact laid.there
  · rw [file_unlink gone,if_neg (blob.ne_of_length short)]
    exact laid.shallow names short
  · rw [node_unlink gone]
    split
    next => exact fun same => nomatch same
    next => exact laid.blobs names exact

theorem made_other (laid : Laid root fs) (blob : Blob root tenant location) {other : Text} (differs : other ≠ tenant)
    {after : FileSystem Bytes} (ok : fs.makeDirectories location.dropLast = .ok after) :
    after.restrict (mine root other) (downward_mine root other) = fs.restrict (mine root other) (downward_mine root other) := by
  obtain ⟨rfl,_⟩ := makeDirectories_ok ok
  refine withDirectories_dropped fun level under kept => ?_
  have both := under.trans (List.dropLast_prefix location)
  rcases List.prefix_or_prefix_of_prefix both blob.below with above | below
  · exact laid.above above
  · by_cases same : root = level
    · exact same ▸ laid.there
    · rcases mine_iff.mp kept with own | outside
      · obtain ⟨path,rfl,rfl⟩ := blob
        have inner := (List.prefix_append_right_inj root).mp (own.trans both)
        exact absurd (List.cons_prefix_cons.mp inner).1 differs
      · exact absurd ⟨below,same⟩ outside

end Laying

theorem laid_step {one : TenantBlobCall} (laid : Laid storage.root fs) : Laid storage.root (step storage fs one) := by
  unfold step perform
  split
  next => exact laid
  next call called =>
    rcases (touched_blob called : storage.step fs call = fs ∨ _) with same | ⟨location,blob,made | ⟨_,_,made,written⟩ | gone⟩
    · change Laid storage.root (storage.step fs call)
      rwa [same]
    · exact laid.made blob made
    · exact (laid.made blob made).written blob written
    · exact laid.removed blob gone

theorem step_other {one : TenantBlobCall} (laid : Laid storage.root fs) {other : Text} (differs : other ≠ one.tenant) :
    (step storage fs one).restrict (mine storage.root other) (downward_mine storage.root other) =
      fs.restrict (mine storage.root other) (downward_mine storage.root other) := by
  unfold step perform
  split
  next => rfl
  next call called =>
    rcases (touched_blob called : storage.step fs call = fs ∨ _) with same | ⟨location,blob,made | ⟨_,_,made,written⟩ | gone⟩
    · change (storage.step fs call).restrict _ _ = _
      rw [same]
    · exact made_other laid blob differs made
    · exact (write_dropped (mine_other differs blob.own) written).trans (made_other laid blob differs made)
    · exact unlink_dropped (mine_other differs blob.own) gone

/-- An answer that tells of a directory or a file in the way. -/
def blocked : Reply → Bool
  | .failed (.os _) | .failed (.upload _ (.os _)) => true
  | _ => false

theorem free_upload {tenant path : Text} {name : BlobName} (laid : Laid storage.root fs)
    (built : name.path tenant = .ok path) (data : Data) (metadata : Option FileMetadata) :
    blocked (storage.upload fs path data metadata).2 = false := by
  unfold LocalBlobStorage.upload
  split
  next => rfl
  next safe taken =>
    obtain ⟨made,ok,free⟩ := laid.put (blob_of_path built taken)
    obtain ⟨after,written,_⟩ := write_free free data.written
    rw [ok]
    dsimp only
    rw [written]
    dsimp only
    split <;> rfl

theorem free_copy {tenant path source : Text} {name : BlobName} (laid : Laid storage.root fs)
    (built : name.path tenant = .ok path) : blocked (storage.copy fs source path).2 = false := by
  unfold LocalBlobStorage.copy
  split
  next => rfl
  next srcSafe _ =>
    split
    next => rfl
    next safe taken =>
      split
      next => rfl
      next content _ =>
        obtain ⟨made,ok,free⟩ := laid.put (blob_of_path built taken)
        obtain ⟨after,written,_⟩ := write_free free
          (LocalBlobStorage.copied (storage.target srcSafe) (storage.target safe) content)
        rw [ok]
        dsimp only
        rw [written]
        rfl

theorem free_answer (laid : Laid storage.root fs) (one : TenantBlobCall) : blocked (answer storage fs one) = false := by
  unfold answer perform
  split
  next => rfl
  next call called =>
    obtain ⟨tenant,operation⟩ := one
    cases operation with
    | upload name data metadata =>
      obtain ⟨path,built,rfl⟩ := of_map called
      exact free_upload laid built data metadata
    | download name =>
      obtain ⟨path,built,rfl⟩ := of_map called
      simp only [LocalBlobStorage.perform,LocalBlobStorage.download]
      split
      next => rfl
      next => split <;> rfl
    | delete name =>
      obtain ⟨path,built,rfl⟩ := of_map called
      simp only [LocalBlobStorage.perform,LocalBlobStorage.delete]
      split
      next => rfl
      next => split <;> rfl
    | existsBlob name =>
      obtain ⟨path,built,rfl⟩ := of_map called
      simp only [LocalBlobStorage.perform,LocalBlobStorage.existsBlob]
      split
      next => rfl
      next => rfl
    | getMetadata name =>
      obtain ⟨path,built,rfl⟩ := of_map called
      simp only [LocalBlobStorage.perform,LocalBlobStorage.getMetadata]
      split
      next => rfl
      next => split <;> rfl
    | copy source destination =>
      simp only [TenantBlobCall.call,bind,Except.bind,pure,Except.pure] at called
      split at called
      next => cases called
      next first _ =>
        split at called
        next => cases called
        next second built =>
          obtain rfl := Except.ok.inj called
          exact free_copy laid built
    | listAll =>
      obtain rfl := Except.ok.inj called
      simp only [LocalBlobStorage.perform,LocalBlobStorage.listPrefix]
      split
      next => rfl
      next => rfl

/-- Each tenant is answered as if it were alone, and nothing stands in the way of an upload or a copy. -/
def Undisturbed (storage : LocalBlobStorage) (fs : FileSystem Bytes) (calls : List TenantBlobCall) : Prop :=
  (∀ tenant, (Noninterference.answers (step storage) (answer storage) fs calls).filter
      (fun entry => entry.1.tenant = tenant) =
    Noninterference.answers (step storage) (answer storage)
      (fs.restrict (mine storage.root tenant) (downward_mine storage.root tenant))
      (calls.filter fun one => one.tenant = tenant)) ∧
    ∀ entry ∈ Noninterference.answers (step storage) (answer storage) fs calls, blocked entry.2 = false

theorem undisturbed (storage : LocalBlobStorage) (fs : FileSystem Bytes) (laid : Laid storage.root fs)
    (calls : List TenantBlobCall) (listable : ∀ one ∈ calls, Listable one) : Undisturbed storage fs calls := by
  have separates : Noninterference.Separates (step storage) (answer storage) TenantBlobCall.tenant
      (fun tenant fs => fs.restrict (mine storage.root tenant) (downward_mine storage.root tenant)) (Laid storage.root)
      (fun _ one => Listable one) :=
    ⟨fun _ _ laid _ => laid_step laid,fun _ _ laid _ _ differs => step_other laid differs,
      fun _ _ _ listable => congrArg Prod.fst (perform_share listable),
      fun _ _ _ listable => (congrArg Prod.snd (perform_share listable)).trans rfl⟩
  refine ⟨fun tenant => Noninterference.answers_of_party separates tenant laid (Transition.meets_of_mem fs listable),?_⟩
  intro entry member
  induction calls generalizing fs with
  | nil => cases member
  | cons one rest ih =>
    rcases List.mem_cons.mp member with rfl | later
    · exact free_answer laid one
    · exact ih (step storage fs one) (laid_step laid) (fun other inside => listable other (List.mem_cons_of_mem one inside)) later

end Steps

section Runs

theorem laid_fresh (root : Location) : Laid root (empty.withDirectories root) := by
  refine ⟨?_,fun names _ => ?_,fun names exact => ?_⟩
  · rw [node_withDirectories,if_pos List.prefix_rfl]
  · unfold file
    rw [node_withDirectories]
    split
    next found =>
      split at found
      next => cases found
      next => cases found
    next => rfl
  · have deep : ¬root ++ names <+: root := fun under => by
      have lengths := under.length_le
      rw [List.length_append] at lengths
      omega
    rw [node_withDirectories,if_neg deep]
    exact fun absent => nomatch absent

def blobs : LocalBlobStorage where
  root := ["srv".toList,"blobs".toList]
  sha256 _ := ""
  walk := id
  walks _ := List.Perm.refl _

def scan : BlobName := ⟨"invoice".toList,"7".toList,"scan.pdf".toList⟩

theorem undisturbed_scans : Undisturbed blobs (empty.withDirectories blobs.root)
    [⟨"acme".toList,.upload scan (.bytes [1,2]) none⟩,⟨"globex".toList,.upload scan (.bytes [3]) none⟩,
      ⟨"acme".toList,.download scan⟩,⟨"acme".toList,.listAll⟩] := by
  refine undisturbed blobs _ (laid_fresh blobs.root) _ fun one member lists => ?_
  have acme : one.tenant = "acme".toList := by
    simp only [List.mem_cons,List.not_mem_nil,or_false] at member
    rcases member with rfl | rfl | rfl | rfl
    · cases lists
    · cases lists
    · cases lists
    · rfl
  exact ⟨⟨"acme".toList,by decide,by decide,by decide,by decide,by decide⟩,acme.symm⟩

end Runs

end TenantBlobCall

end CqrsDdd.FileStorage
