import RouteLane.Backend.FailedRefresh
import RouteLane.Backend.JournalSchema
import RouteLane.Lib.Sessions
import RouteLane.Lib.UserFiles

/-!
# The file of the journal on disk

The store of the helper keeps the journal in one file of a private folder.  A save replaces
the file, a clear removes it, and whatever fails, kills the helper or cuts the power on the
way, a load finds no file or a whole one that was saved.
-/

namespace RouteLane

open Fallible Faults Program Files

abbrev StoreM := Program UserFolder Unit PrivilegedError

/-- The encodings of the journal, and `serde_json` between values and bytes. -/
structure StateCodec where
  journal : JournalCodecs
  toVec : JsonValue → List UInt8
  fromSlice : List UInt8 → Except String JsonValue

namespace StateCodec

variable (c : StateCodec)

/-- What is written to the file of a record. -/
def bytes (record : StoredAppliedState) : List UInt8 :=
  c.toVec ((Codec.journal c.journal).encode record)

def decode (json : List UInt8) : Except PrivilegedError StoredAppliedState :=
  decodeJournal c.journal (c.fromSlice json)

/-- The encodings, and `serde_json`, read the record back. -/
structure Faithful (record : StoredAppliedState) : Prop where
  journal : record.Fits
  text : c.fromSlice (c.bytes record) = .ok ((Codec.journal c.journal).encode record)

theorem Faithful.decode {c : StateCodec} {record : StoredAppliedState} (h : c.Faithful record) :
    c.decode (c.bytes record) = .ok record := by
  rw [StateCodec.decode, h.text, decodeJournal_encode h.journal]

end StateCodec

namespace StateFile

/-! ## The store -/

/-- `state_error`. -/
def stateError (message : String) : PrivilegedError := "applied-state persistence failed: " ++ message

/-- The name of `STATE_FILE` in its folder. -/
def fileName : String := "applied-plan.json"

def temporaryName (pid nonce : ℕ) : String :=
  ".applied-plan." ++ toString pid ++ "." ++ toString nonce ++ ".tmp"

def folderTexts : FolderTexts PrivilegedError where
  create := stateError "create state directory"
  inspect := stateError "inspect state directory"
  foreign := stateError "state directory must be a root-owned real directory"
  secure := stateError "secure state directory permissions"

/-- `ensure_root_owned_directory`. -/
def ensureRootOwnedDirectory : StoreM Unit := ensureFolder folderTexts 0 (some 0)

/-- `validate_root_owned_file_attributes`. -/
def validateRootOwnedFile (metadata : FileAttributes) : Except PrivilegedError Unit :=
  failIf (metadata.kind ≠ .regular ∨ metadata.uid ≠ 0 ∨ metadata.mode ≠ 0o600)
    (stateError "persisted state must be a root-owned, non-symlink 0600 file")

/-- The attributes of the files the store creates. -/
def privateFile : FileAttributes := ⟨.regular, 0, 0o600⟩

variable (c : StateCodec)

def stateReader : Reader PrivilegedError StoredAppliedState where
  openFile := stateError "open persisted applied state"
  inspect := stateError "read state metadata"
  tooLarge := stateError "persisted applied state exceeds the size limit"
  read := stateError "read persisted applied state"
  validate := validateRootOwnedFile
  limit := maxStateBytes
  decode := c.decode

/-- `FileAppliedStateStore::load`. -/
def load : StoreM (Option StoredAppliedState) := do
  ensureRootOwnedDirectory
  loadFile (stateReader c) fileName

def storeTexts : StoreTexts PrivilegedError where
  create := stateError "create temporary state file"
  write := stateError "write temporary state file"
  sync := stateError "sync temporary state file"
  replace := stateError "atomically replace applied state"
  syncFolder := stateError "sync state directory"
  tooLarge := stateError "applied state exceeds the persistence size limit"
  clock := stateError "read system clock"

/-- `FileAppliedStateStore::save`. -/
def save (pid : ℕ) (clock : Option ℕ) (record : StoredAppliedState) : StoreM Unit := do
  ensureRootOwnedDirectory
  storeFile storeTexts maxStateBytes (temporaryName pid) fileName privateFile (c.bytes record) clock

/-- `FileAppliedStateStore::clear`. -/
def clear : StoreM Unit := do
  ensureRootOwnedDirectory
  if ← inspect (stateError "remove persisted applied state") fun d => (d.find fileName).isSome then
    command (stateError "remove persisted applied state") (Folder.remove fileName)
    command (stateError "sync state directory") Folder.syncFolder
  else return ()

/-! ## What the operations do -/

theorem fileName_ne_temporaryName (pid nonce : ℕ) : fileName ≠ temporaryName pid nonce := by
  intro h
  have htemporary : temporaryName pid nonce =
      ".applied-plan." ++ toString pid ++ "." ++ toString nonce ++ ".tmp" := rfl
  rw [htemporary] at h
  have hhead := congrArg (fun text : String => text.toList.head?) h
  simp [fileName, String.toList_append] at hhead

section Specs

variable {c} {d d' : UserFolder} {m : Unit} {r : Regime UserFolder}
  {A : Set (Option (File FileAttributes))} {record : StoredAppliedState}

/-- The checks of the folder touch no file. -/
theorem ensureRootOwnedDirectory_ensures (hr : ∀ e, SameFiles d e.state → r.keeps e) :
    Ensures r d m ensureRootOwnedDirectory (fun _ d' _ => SameFiles d d')
      (fun d' _ => SameFiles d d' ∧ (r.mayFail ∨ ¬Owned (some 0) d)) :=
  ensureFolder_ensures (fun _ => Option.some.inj) hr

/-- The file of a record, where there is one. -/
def fileOf (c : StateCodec) (record : Option StoredAppliedState) : Option (File FileAttributes) :=
  record.map fun r => ⟨privateFile, c.bytes r⟩

/-- The files of records that can be read back. -/
def Stored (c : StateCodec) (A : Set (Option StoredAppliedState)) :
    Set (Option (File FileAttributes)) :=
  { file | ∃ record ∈ A, file = fileOf c record ∧
    ∀ r, record = some r → c.Faithful r ∧ (c.bytes r).length ≤ maxStateBytes }

theorem stored_mono {A B : Set (Option StoredAppliedState)} (h : A ⊆ B) : Stored c A ⊆ Stored c B := by
  rintro _ ⟨record, hmem, hfile, hrecord⟩
  exact ⟨record, h hmem, hfile, hrecord⟩

variable {A : Set (Option StoredAppliedState)}

theorem none_mem_stored (h : none ∈ A) : none ∈ Stored c A := ⟨none, h, rfl, fun _ hr => by cases hr⟩

theorem file_mem_stored (h : some record ∈ A) (hfaithful : c.Faithful record)
    (hfits : (c.bytes record).length ≤ maxStateBytes) :
    some ⟨privateFile, c.bytes record⟩ ∈ Stored c A := by
  refine ⟨some record, h, rfl, fun r hr => ?_⟩
  obtain rfl := Option.some.inj hr
  exact ⟨hfaithful, hfits⟩

/-- The file of a record is read as the record. -/
theorem found_of_stored {file : Option (File FileAttributes)} (h : file ∈ Stored c A) :
    ∃ record ∈ A, file = fileOf c record ∧ (stateReader c).found file = .ok record := by
  obtain ⟨record, hmem, rfl, hstored⟩ := h
  refine ⟨record, hmem, rfl, ?_⟩
  cases record with
  | none => rfl
  | some record =>
    obtain ⟨hfaithful, hfits⟩ := hstored record rfl
    have hcontents : (stateReader c).contents ⟨privateFile, c.bytes record⟩ = .ok record := by
      have hread : (stateReader c).contents ⟨privateFile, c.bytes record⟩ =
        if (c.bytes record).length ≤ maxStateBytes then c.decode (c.bytes record)
        else .error (stateReader c).tooLarge := rfl
      rw [hread, if_pos hfits, hfaithful.decode]
    have hfound : (stateReader c).found (some ⟨privateFile, c.bytes record⟩) =
        ((stateReader c).contents ⟨privateFile, c.bytes record⟩).map some := rfl
    exact hfound.trans (congrArg (Except.map some) hcontents)

/-- A load finds what the name stands for, and fails only where a command does or where the
folder is not root's. -/
theorem load_ensures (hr : ∀ e, SameFiles d e.state → r.keeps e)
    (hfile : d.find fileName ∈ Stored c A) :
    Ensures r d m (load c) (fun v d' _ => v ∈ A ∧ d.find fileName = fileOf c v ∧ SameFiles d d')
      (fun d' _ => SameFiles d d' ∧ (r.mayFail ∨ ¬Owned (some 0) d)) := by
  refine Ensures.bind (ensureRootOwnedDirectory_ensures hr) ?_
  rintro - d1 m1 hsame
  obtain ⟨record, hmem, hrecord, hfound⟩ := found_of_stored hfile
  refine (loadFile_ensures fun _ => hr _ hsame).conseq (fun v d' _ h => ?_) fun d' _ h => ?_
  · obtain ⟨rfl, hv⟩ := h
    rw [hsame.find, hfound] at hv
    obtain rfl := Except.ok.inj hv
    exact ⟨hmem, hrecord, hsame⟩
  · obtain ⟨rfl, hfail⟩ := h
    refine ⟨hsame, .inl (hfail.resolve_right ?_)⟩
    rintro ⟨e, he⟩
    rw [hsame.find, hfound] at he
    cases he

/-- A save leaves what was there or, unless it is too large, the record; once it returned, the
record. -/
theorem save_ensures {pid : ℕ} {clock : Option ℕ} (hfile : d.Holds fileName (Stored c A)) :
    Ensures (always fun e => Leaves fileName (fileOf c (some record))
        ((c.bytes record).length ≤ maxStateBytes) d e.state) d m (save c pid clock record)
      (fun _ d' _ => (c.bytes record).length ≤ maxStateBytes ∧
        d'.Holds fileName {fileOf c (some record)})
      (fun d' _ => Leaves fileName (fileOf c (some record))
        ((c.bytes record).length ≤ maxStateBytes) d d') := by
  refine Ensures.bind ((ensureRootOwnedDirectory_ensures fun e hsame => hsame.leaves).conseq
    (fun _ _ _ h => h) fun d' _ h => h.1.leaves) ?_
  rintro - d1 m1 hsame
  exact ensures_weaken (storeFile_ensures (fileName_ne_temporaryName pid) (hsame.holds hfile))
    (fun _ he => hsame.leaves_trans he) (fun _ _ _ h => h) fun _ _ h => hsame.leaves_trans h

/-- A clear leaves what was there or no file; once it removed the file, none. -/
theorem clear_ensures {B : Set (Option (File FileAttributes))} (hfile : d.Holds fileName B) :
    Ensures (always fun e => Leaves fileName none True d e.state) d m clear
      (fun _ d' _ => d'.find fileName = none ∧
        d'.Holds fileName (if (d.find fileName).isSome then {none} else B))
      (fun d' _ => Leaves fileName none True d d') := by
  refine Ensures.bind ((ensureRootOwnedDirectory_ensures fun e hsame => hsame.leaves).conseq
    (fun _ _ _ h => h) fun d' _ h => h.1.leaves) ?_
  rintro - d1 m1 hsame
  refine Ensures.bind (Q := fun found d' _ => d' = d1 ∧ found = (d.find fileName).isSome)
    (Ensures.inspect (fun _ _ => ⟨hsame.leaves, hsame.leaves⟩)
      fun _ => ⟨hsame.leaves, rfl, by rw [hsame.find]⟩) ?_
  rintro - d2 m2 ⟨rfl, rfl⟩
  cases hfound : (d.find fileName).isSome with
  | false =>
    refine Ensures.pure ⟨?_, hsame.holds hfile⟩
    rw [hsame.find]
    exact Option.isNone_iff_eq_none.1 (Option.isSome_eq_false_iff.1 hfound)
  | true =>
    have hgone : (d2.link fileName none).find fileName = none := Folder.find_link none
    have hlinked : Leaves fileName none True d (d2.link fileName none) := by
      refine ⟨fun B hB => ?_, fun _ _ => .inr ⟨trivial, hgone⟩⟩
      exact ((hsame.holds hB).mono Set.subset_union_left).link (.inr ⟨trivial, rfl⟩)
        fun i hi => by cases hi
    refine Ensures.bind (Q := fun _ d' _ => d' = d2.link fileName none)
      (Ensures.command (fun _ _ => ⟨hsame.leaves, hsame.leaves⟩) fun d3 hremove _ => ?_) ?_
    · rw [Folder.remove_eq_some hremove]
      exact ⟨hlinked, rfl⟩
    · rintro - d3 m3 rfl
      refine Ensures.command (fun _ _ => ⟨hlinked, hlinked⟩) fun d4 hsync _ => ?_
      have hsynced := (hlinked.holds _ hfile).syncFolder hsync
      rw [hgone] at hsynced
      have hleaves : Leaves fileName none True d d4 := by
        refine ⟨fun B _ => ?_, fun _ _ => .inr ⟨trivial, hsynced.find_mem⟩⟩
        exact hsynced.mono (Set.singleton_subset_iff.2 (.inr ⟨trivial, rfl⟩))
      exact ⟨hleaves, hsynced.find_mem, hsynced⟩

end Specs

/-! ## Refinement of the store -/

section Refinement

variable {c : StateCodec} {d : UserFolder} {store : Option StoredAppliedState} {system : System}
  {m : Backend} {p : Primitives} {record : StoredAppliedState}

/-- The folder has the file of the journal, whole. -/
def Shows (c : StateCodec) (d : UserFolder) (store : Option StoredAppliedState) : Prop :=
  (∃ A, d.Holds fileName (Stored c A)) ∧ d.find fileName = fileOf c store ∧
    fileOf c store ∈ Stored c {store}

/-- Every run on the folder is a run on the store of the backend's model: it returns the same,
leaves the same journal, and is killed with a journal that model can be killed with. -/
def Refines {α : Type} (c : StateCodec) (d : UserFolder) (file : StoreM α) (system : System)
    (m : Backend) (model : BackendM α) : Prop :=
  ∀ faults, ∃ syncFaults modelFaults,
    let o := file ⟨d, (), faults⟩
    let o' := model ⟨{ system with syncFaults := syncFaults }, m, modelFaults⟩
    (∀ v, o.result = .ok v ↔ o'.result = .ok v) ∧
      Shows c o.world.machine o'.world.machine.store ∧
      ∀ e ∈ o.events, Shows c e.state system.store ∨
        ∃ e' ∈ (model ⟨{ system with syncFaults := fun _ => false }, m, fun _ => false⟩).events,
          Shows c e.state e'.state.store

theorem modelSave_done (hfits : p.stateBytes record ≤ maxStateBytes) (failed : Bool) :
    RouteLane.save p record ⟨{ system with syncFaults := fun _ => failed }, m, fun _ => false⟩ =
      ⟨if failed then .error "applied-state persistence failed: sync state directory" else .ok (),
        ⟨{ system with store := some record, syncFaults := fun _ => failed }, m, fun _ => false⟩,
        [⟨{ system with store := some record, syncFaults := fun _ => failed }, false⟩,
          ⟨{ system with store := some record, syncFaults := fun _ => failed }, failed⟩]⟩ := by
  cases failed <;>
    simp [RouteLane.save, require, hfits, syncDirectory, bind, Program.bind, pure, Program.pure,
      Program.command, Program.ask, World.tick]

theorem modelSave_failed :
    (∀ v, (RouteLane.save p record ⟨system, m, fun _ => true⟩).result ≠ .ok v) ∧
      (RouteLane.save p record ⟨system, m, fun _ => true⟩).world.machine.store = system.store := by
  by_cases hfits : p.stateBytes record ≤ maxStateBytes <;>
    simp [RouteLane.save, require, hfits, bind, Program.bind, pure, Program.pure, Program.command,
      World.tick, fail]

/-- What an operation leaves is a journal of before or the next one. -/
theorem leaves_subset {A : Set (Option StoredAppliedState)} {next : Option StoredAppliedState}
    {may : Prop} (hnext : may → fileOf c next ∈ Stored c {next}) :
    Stored c A ∪ { file | may ∧ file = fileOf c next } ⊆ Stored c (insert next A) := by
  rintro file (hold | ⟨hmay, rfl⟩)
  · exact stored_mono (Set.subset_insert _ _) hold
  · exact stored_mono (Set.singleton_subset_iff.2 (Set.mem_insert _ _)) (hnext hmay)

/-- A folder that is left by an operation shows the journal of before, or the next one. -/
theorem shows_of_leaves {d' : UserFolder} {next : Option StoredAppliedState} {may : Prop}
    (hnext : may → fileOf c next ∈ Stored c {next}) (h : Shows c d store)
    (hleaves : Leaves fileName (fileOf c next) may d d') :
    Shows c d' store ∨ may ∧ Shows c d' next := by
  obtain ⟨⟨A, hA⟩, hfind, hstore⟩ := h
  have hA' := (hleaves.holds _ hA).mono (leaves_subset hnext)
  rcases hleaves.find _ hA with hold | ⟨hmay, hnew⟩
  · exact .inl ⟨⟨_, hA'⟩, hold.trans hfind, hstore⟩
  · exact .inr ⟨hmay, ⟨_, hA'⟩, hnew, hnext hmay⟩

theorem refines_save (hbytes : ∀ r, p.stateBytes r = (c.bytes r).length) {pid : ℕ}
    {clock : Option ℕ} (hfaithful : c.Faithful record) (h : Shows c d system.store) :
    Refines c d (save c pid clock record) system m (RouteLane.save p record) := by
  obtain ⟨A, hA⟩ := h.1
  have hnext : (c.bytes record).length ≤ maxStateBytes →
      fileOf c (some record) ∈ Stored c {some record} :=
    file_mem_stored (Set.mem_singleton _) hfaithful
  intro faults
  have hensures : Ensures _ d () (save c pid clock record) _ _ := save_ensures hA
  obtain ⟨hkeeps, -, hpost⟩ := hensures faults (fun _ _ => trivial) fun _ _ => trivial
  have hevents : ∀ e ∈ (save c pid clock record ⟨d, (), faults⟩).events,
      Shows c e.state system.store ∨ ∃ e' ∈ (RouteLane.save p record
        ⟨{ system with syncFaults := fun _ => false }, m, fun _ => false⟩).events,
        Shows c e.state e'.state.store := by
    intro e he
    refine (shows_of_leaves hnext h (hkeeps e he)).imp_right fun hshows => ?_
    rw [modelSave_done ((hbytes record).le.trans hshows.1) false]
    exact ⟨_, List.mem_cons_self, hshows.2⟩
  cases hresult : (save c pid clock record ⟨d, (), faults⟩).result with
  | ok u =>
    rw [hresult] at hpost
    obtain ⟨hfits, hholds⟩ := hpost
    have hfits' : p.stateBytes record ≤ maxStateBytes := (hbytes record).le.trans hfits
    refine ⟨fun _ => false, fun _ => false, fun v => ?_, ?_, hevents⟩
    · rw [modelSave_done hfits' false, hresult]
      rfl
    · rw [modelSave_done hfits' false]
      exact ⟨⟨{some record}, hholds.mono (Set.singleton_subset_iff.2 (hnext hfits))⟩,
        hholds.find_mem, hnext hfits⟩
  | error e =>
    rw [hresult] at hpost
    rcases shows_of_leaves hnext h hpost with hold | ⟨hfits, hnew⟩
    · refine ⟨fun _ => false, fun _ => true, fun v => ?_, ?_, hevents⟩
      · rw [hresult]
        exact ⟨fun hv => (by cases hv), fun hv => absurd hv (modelSave_failed.1 v)⟩
      · rw [modelSave_failed.2]
        exact hold
    · have hfits' : p.stateBytes record ≤ maxStateBytes := (hbytes record).le.trans hfits
      refine ⟨fun _ => true, fun _ => false, fun v => ?_, ?_, hevents⟩
      · rw [modelSave_done hfits' true, hresult]
        constructor <;> (intro hv; cases hv)
      · rw [modelSave_done hfits' true]
        exact hnew

theorem refines_load (h : Shows c d system.store) :
    Refines c d (load c) system m RouteLane.load := by
  obtain ⟨⟨A, hA⟩, hfind, hstore⟩ := h
  have hshows : ∀ d', SameFiles d d' → Shows c d' system.store := fun d' hsame =>
    ⟨⟨A, hsame.holds hA⟩, hsame.find.trans hfind, hstore⟩
  intro faults
  obtain ⟨hkeeps, -, hpost⟩ := load_ensures
    (r := always fun e => SameFiles d e.state) (m := ()) (c := c) (A := {system.store})
    (fun _ he => he) (hfind ▸ hstore) faults (fun _ _ => trivial) fun _ _ => trivial
  have hevents : ∀ e ∈ (load c ⟨d, (), faults⟩).events, Shows c e.state system.store :=
    fun e he => hshows _ (hkeeps e he)
  cases hresult : (load c ⟨d, (), faults⟩).result with
  | ok v =>
    rw [hresult] at hpost
    refine ⟨fun _ => false, fun _ => false, fun v' => ?_, hshows _ hpost.2.2,
      fun e he => .inl (hevents e he)⟩
    rw [hresult, Set.mem_singleton_iff.1 hpost.1]
    rfl
  | error e =>
    rw [hresult] at hpost
    refine ⟨fun _ => false, fun _ => true, fun v' => ?_, hshows _ hpost.1,
      fun e he => .inl (hevents e he)⟩
    rw [hresult]
    constructor <;> (intro hv; cases hv)

theorem modelClear_done (hsome : system.store.isSome) (failed : Bool) :
    RouteLane.clear ⟨{ system with syncFaults := fun _ => failed }, m, fun _ => false⟩ =
      ⟨if failed then .error "applied-state persistence failed: sync state directory" else .ok (),
        ⟨{ system with store := none, syncFaults := fun _ => failed }, m, fun _ => false⟩,
        [⟨{ system with syncFaults := fun _ => failed }, false⟩,
          ⟨{ system with store := none, syncFaults := fun _ => failed }, false⟩,
          ⟨{ system with store := none, syncFaults := fun _ => failed }, failed⟩]⟩ := by
  cases failed <;>
    simp [RouteLane.clear, hsome, syncDirectory, bind, Program.bind, Program.command,
      Program.inspect, Program.ask, World.tick]

theorem modelClear_none (hnone : system.store = none) :
    RouteLane.clear ⟨{ system with syncFaults := fun _ => false }, m, fun _ => false⟩ =
      ⟨.ok (), ⟨{ system with syncFaults := fun _ => false }, m, fun _ => false⟩,
        [⟨{ system with syncFaults := fun _ => false }, false⟩]⟩ := by
  simp [RouteLane.clear, hnone, bind, Program.bind, pure, Program.pure, Program.inspect, World.tick]

theorem modelClear_failed :
    RouteLane.clear ⟨{ system with syncFaults := fun _ => false }, m, fun _ => true⟩ =
      ⟨.error "applied-state persistence failed: create state directory",
        ⟨{ system with syncFaults := fun _ => false }, m, fun _ => true⟩,
        [⟨{ system with syncFaults := fun _ => false }, true⟩]⟩ := by
  simp [RouteLane.clear, bind, Program.bind, Program.inspect, World.tick]

theorem refines_clear (h : Shows c d system.store) : Refines c d clear system m RouteLane.clear := by
  obtain ⟨A, hA⟩ := h.1
  intro faults
  obtain ⟨hkeeps, -, hpost⟩ := clear_ensures (m := ()) hA faults
    (fun _ _ => trivial) fun _ _ => trivial
  have hnone : fileOf c none ∈ Stored c {none} := none_mem_stored (Set.mem_singleton _)
  have hshows : ∀ d', Leaves fileName none True d d' → Shows c d' system.store ∨ Shows c d' none :=
    fun d' hleaves => (shows_of_leaves (fun _ => hnone) h hleaves).imp_right And.right
  have hsome : (d.find fileName).isSome = system.store.isSome := by
    rw [h.2.1, fileOf, Option.isSome_map]
  by_cases hempty : system.store = none
  · -- there is nothing to remove, and nothing is
    have hstill : ∀ d', Leaves fileName none True d d' → Shows c d' none := fun d' hleaves =>
      (hshows d' hleaves).elim (fun h => hempty ▸ h) id
    have hevents : ∀ e ∈ (clear ⟨d, (), faults⟩).events, Shows c e.state none :=
      fun e he => hstill _ (hkeeps e he)
    cases hresult : (clear ⟨d, (), faults⟩).result with
    | ok u =>
      rw [hresult, hsome, hempty] at hpost
      refine ⟨fun _ => false, fun _ => false, fun v => ?_, ?_, fun e he => .inl ?_⟩
      · rw [modelClear_none hempty, hresult]
      · rw [modelClear_none hempty]
        rw [hempty]
        exact ⟨⟨A, hpost.2⟩, hpost.1, hnone⟩
      · rw [hempty]
        exact hevents e he
    | error e =>
      rw [hresult] at hpost
      refine ⟨fun _ => false, fun _ => true, fun v => ?_, ?_, fun e he => .inl ?_⟩
      · rw [modelClear_failed, hresult]
        constructor <;> (intro hv; cases hv)
      · rw [modelClear_failed]
        rw [hempty]
        exact hstill _ hpost
      · rw [hempty]
        exact hevents e he
  · have hsome' : system.store.isSome := Option.isSome_iff_ne_none.2 hempty
    have hevents : ∀ e ∈ (clear ⟨d, (), faults⟩).events, Shows c e.state system.store ∨
        ∃ e' ∈ (RouteLane.clear ⟨{ system with syncFaults := fun _ => false }, m, fun _ => false⟩).events,
          Shows c e.state e'.state.store := by
      intro e he
      refine (hshows _ (hkeeps e he)).imp_right fun hgone => ?_
      rw [modelClear_done hsome' false]
      exact ⟨_, List.mem_cons_of_mem _ List.mem_cons_self, hgone⟩
    cases hresult : (clear ⟨d, (), faults⟩).result with
    | ok u =>
      rw [hresult] at hpost
      obtain ⟨hgone, hholds⟩ := hpost
      rw [hsome, if_pos hsome'] at hholds
      refine ⟨fun _ => false, fun _ => false, fun v => ?_, ?_, hevents⟩
      · rw [modelClear_done hsome' false, hresult]
        rfl
      · rw [modelClear_done hsome' false]
        exact ⟨⟨{none}, hholds.mono (Set.singleton_subset_iff.2 hnone)⟩, hgone, hnone⟩
    | error e =>
      rw [hresult] at hpost
      rcases hshows _ hpost with hold | hgone
      · refine ⟨fun _ => false, fun _ => true, fun v => ?_, ?_, hevents⟩
        · rw [modelClear_failed, hresult]
          constructor <;> (intro hv; cases hv)
        · rw [modelClear_failed]
          exact hold
      · refine ⟨fun _ => true, fun _ => false, fun v => ?_, ?_, hevents⟩
        · rw [modelClear_done hsome' true, hresult]
          constructor <;> (intro hv; cases hv)
        · rw [modelClear_done hsome' true]
          exact hgone

end Refinement

end StateFile

/-! ## Calls of the store -/

inductive StateCall where
  | load
  /-- With the id of the process and the clock, for the name of the temporary file. -/
  | save (pid : ℕ) (clock : Option ℕ) (record : StoredAppliedState)
  | clear
  deriving DecidableEq

namespace StateCall

open StateFile

def run (c : StateCodec) : StateCall → StoreM (Option StoredAppliedState)
  | .load => StateFile.load c
  | .save pid clock record => do
    StateFile.save c pid clock record
    return none
  | .clear => do
    StateFile.clear
    return none

/-- The call of the backend's model. -/
def runModel (p : Primitives) : StateCall → BackendM (Option StoredAppliedState)
  | .load => RouteLane.load
  | .save _ _ record => do
    RouteLane.save p record
    return none
  | .clear => do
    RouteLane.clear
    return none

/-- What is saved can be read back. -/
def Faithful (c : StateCodec) : StateCall → Prop
  | .save _ _ record => c.Faithful record
  | _ => True

/-- The journals there may be once the call was begun. -/
def begun (A : Set (Option StoredAppliedState)) : StateCall → Set (Option StoredAppliedState)
  | .load => A
  | .save _ _ record => insert (some record) A
  | .clear => insert none A

/-- The journals there may be once the call returned; a clear that finds no file syncs
nothing. -/
def done (found : Bool) (A : Set (Option StoredAppliedState)) :
    StateCall → Set (Option StoredAppliedState)
  | .load => A
  | .save _ _ record => {some record}
  | .clear => if found then {none} else A

variable {c : StateCodec} {d : UserFolder} {m : Unit} {call : StateCall}
  {A : Set (Option StoredAppliedState)}

/-- A call that was begun leaves a journal of before or its own, and one that returned only
its own. -/
theorem run_ensures (hcall : call.Faithful c) (hfile : d.Holds fileName (Stored c A)) :
    Ensures (always fun e => e.state.Holds fileName (Stored c (call.begun A))) d m (call.run c)
      (fun _ d' _ => d'.Holds fileName (Stored c (call.done (d.find fileName).isSome A)))
      (fun d' _ => d'.Holds fileName (Stored c (call.begun A))) := by
  cases call with
  | load =>
    exact ensures_weaken (load_ensures (fun _ he => he) hfile.find_mem)
      (fun e (he : SameFiles d e.state) => he.holds hfile) (fun _ _ _ h => h.2.2.holds hfile)
      fun _ _ h => h.1.holds hfile
  | save pid clock record =>
    have hnext : (c.bytes record).length ≤ maxStateBytes →
        fileOf c (some record) ∈ Stored c {some record} :=
      file_mem_stored (Set.mem_singleton _) hcall
    have hleft : ∀ d', Leaves fileName (fileOf c (some record))
        ((c.bytes record).length ≤ maxStateBytes) d d' →
        d'.Holds fileName (Stored c (insert (some record) A)) := fun _ h =>
      (h.holds _ hfile).mono (leaves_subset hnext)
    refine Ensures.bind (ensures_weaken (save_ensures hfile) (fun _ he => hleft _ he)
      (fun _ _ _ h => h) fun _ h => hleft _) ?_
    rintro - d' m' ⟨hfits, hholds⟩
    exact Ensures.pure (hholds.mono (Set.singleton_subset_iff.2 (hnext hfits)))
  | clear =>
    have hnone : ({none} : Set (Option (File FileAttributes))) ⊆ Stored c {none} :=
      Set.singleton_subset_iff.2 (none_mem_stored (Set.mem_singleton _))
    have hsubset : Stored c A ∪ { file | True ∧ file = fileOf c none } ⊆ Stored c (insert none A) :=
      leaves_subset fun _ => hnone (Set.mem_singleton _)
    have hleft : ∀ d', Leaves fileName none True d d' →
        d'.Holds fileName (Stored c (insert none A)) := fun _ h =>
      (h.holds _ hfile).mono hsubset
    refine Ensures.bind (ensures_weaken (clear_ensures hfile) (fun _ he => hleft _ he)
      (fun _ _ _ h => h) fun _ _ => hleft _) ?_
    rintro - d' m' ⟨-, hholds⟩
    refine Ensures.pure (hholds.mono ?_)
    rw [done]
    split
    · exact hnone
    · exact subset_rfl

theorem refines_bind_pure {α β : Type} {system : System} {b : Backend} {file : StoreM α}
    {model : BackendM α} (value : β) (h : Refines c d file system b model) :
    Refines c d (file >>= fun _ => pure value) system b (model >>= fun _ => pure value) := by
  intro faults
  obtain ⟨syncFaults, modelFaults, hresult, hshows, hevents⟩ := h faults
  refine ⟨syncFaults, modelFaults, ?_⟩
  rw [bind_pure_eq, bind_pure_eq, bind_pure_eq]
  refine ⟨fun v => ?_, hshows, hevents⟩
  cases hfile : (file ⟨d, (), faults⟩).result with
  | ok a => rw [(hresult a).1 hfile]
  | error e =>
    cases hmodel : (model ⟨{ system with syncFaults := syncFaults }, b, modelFaults⟩).result with
    | ok a =>
      rw [(hresult a).2 hmodel] at hfile
      cases hfile
    | error e' => constructor <;> (intro hv; cases hv)

/-- Whatever fails, every call on the file is a call on the store of the backend's model. -/
theorem file_refines_store {p : Primitives} {system : System} {b : Backend}
    (hbytes : ∀ r, p.stateBytes r = (c.bytes r).length) (hcall : call.Faithful c)
    (h : Shows c d system.store) : Refines c d (call.run c) system b (call.runModel p) := by
  cases call with
  | load => exact refines_load h
  | save pid clock record => exact refines_bind_pure none (refines_save hbytes hcall h)
  | clear => exact refines_bind_pure none (refines_clear h)

end StateCall

/-! ## Runs of the store -/

/-- What becomes of the folder between calls, and of the journals that may be in it: a disk loses
the power; a `tmpfs`, as the helper's folder is one, is empty after a boot. -/
inductive StateHappens (d : UserFolder) (A : Set (Option StoredAppliedState)) :
    UserFolder → Set (Option StoredAppliedState) → Prop
  | lost {d' : UserFolder} : d.Lost d' → StateHappens d A d' A
  | booted (self : Option FileAttributes) : StateHappens d A (Folder.empty self) {none}

/-- Calls of the store from an empty folder on, with the journals that may be in it. -/
def stateSessions (c : StateCodec) : Sessions UserFolder PrivilegedError StateCall
    (Option StoredAppliedState) (Set (Option StoredAppliedState)) where
  call := StateCall.run c
  admitted := StateCall.Faithful c
  begun call _ A := call.begun A
  done call d A := call.done (d.find StateFile.fileName).isSome A
  happens := StateHappens
  fresh d A := ∃ self, d = Folder.empty self ∧ A = {none}

section Runs

open StateFile

variable {c : StateCodec} {d : UserFolder} {A : Set (Option StoredAppliedState)}

theorem holds_empty (self : Option FileAttributes) :
    (Folder.empty self).Holds fileName (Stored c {none}) :=
  (Folder.holds_empty self).mono
    (Set.singleton_subset_iff.2 (none_mem_stored (Set.mem_singleton _)))

theorem holds_of_reaches (h : (stateSessions c).Reaches d A) : d.Holds fileName (Stored c A) := by
  refine h.invariant (I := fun d A => d.Holds fileName (Stored c A)) ?_
    (fun call d A hcall hfile => StateCall.run_ensures hcall hfile) ?_
  · rintro _ _ ⟨self, rfl, rfl⟩
    exact holds_empty self
  · intro d A d' A' hfile hhappens
    cases hhappens with
    | lost hlost => exact hfile.lost hlost
    | booted self => exact holds_empty self

/-- Whatever was killed, failed or lost before, a load finds one of the journals there may be;
where nothing fails and the folder is root's, it does find one. -/
theorem load_of_reaches (h : (stateSessions c).Reaches d A) :
    (∀ faults v, (StateFile.load c ⟨d, (), faults⟩).result = .ok v → v ∈ A) ∧
      (Owned (some 0) d → ∃ v ∈ A, (StateFile.load c ⟨d, (), fun _ => false⟩).result = .ok v) := by
  refine ⟨fun faults v hv => ?_, fun howned => ?_⟩
  · obtain ⟨-, -, hpost⟩ := load_ensures (r := always fun _ => True) (m := ())
      (fun _ _ => trivial) (holds_of_reaches h).find_mem faults (fun _ _ => trivial) fun _ _ => trivial
    rw [hv] at hpost
    exact hpost.1
  · obtain ⟨-, -, hpost⟩ := load_ensures (r := ⟨False, fun _ => True, fun _ => True⟩) (m := ())
      (fun _ _ => trivial) (holds_of_reaches h).find_mem (fun _ => false) (fun _ hi => by cases hi)
      fun _ _ => trivial
    cases hresult : (StateFile.load c ⟨d, (), fun _ => false⟩).result with
    | ok v =>
      rw [hresult] at hpost
      exact ⟨v, hpost.1, rfl⟩
    | error e =>
      rw [hresult] at hpost
      exact absurd howned (hpost.2.resolve_left id)

/-! ### A save that is killed -/

variable {pid nonce : ℕ} {record : StoredAppliedState}

/-- A save finds the folder as it needs it. -/
structure Takes (pid nonce : ℕ) (d : UserFolder) : Prop where
  owned : Owned (some 0) d
  free : d.entry (temporaryName pid nonce) = none

/-- The folder once the journal has its name, and before the folder is synced. -/
def stored (c : StateCodec) (pid nonce : ℕ) (record : StoredAppliedState) (d : UserFolder) :
    UserFolder :=
  (ensured 0 d).replaced (temporaryName pid nonce) fileName ⟨privateFile, c.bytes record⟩

theorem ensureRootOwnedDirectory_does (h : Owned (some 0) d) :
    Does ensureRootOwnedDirectory d () () (ensured 0 d) :=
  ensureFolder_does _ (fun _ => Option.some.inj) h

theorem run_save_does (h : Takes pid nonce d) (hfits : (c.bytes record).length ≤ maxStateBytes) :
    Does ((StateCall.save pid (some nonce) record).run c) d () none
      (stored c pid nonce record d).settled :=
  (Does.bind (ensureRootOwnedDirectory_does h.owned)
    (storeFile_does (d := ensured 0 d) hfits h.free)).bind (gives_pure _).does

theorem run_save_passes (h : Takes pid nonce d) (hfits : (c.bytes record).length ≤ maxStateBytes) :
    Passes ((StateCall.save pid (some nonce) record).run c) d () (stored c pid nonce record d) :=
  (Does.bind_passes (ensureRootOwnedDirectory_does h.owned)
    (storeFile_passes (d := ensured 0 d) hfits h.free)).bind _

/-- The plan of the tunnel is in force. -/
def tunnelJournal (generation : ℕ) : StoredAppliedState where
  active := some { tunnelPlan with generation := generation }
  activeNftFingerprint := some "nft"

def tunnelDocument (generation : ℕ) : JsonValue :=
  (Codec.journal numberCodecs).encode (tunnelJournal generation)

/-- A `serde_json` that reads two journals of the tunnel. -/
def tunnelCodec : StateCodec where
  journal := numberCodecs
  toVec document := textBytes (document.print none)
  fromSlice bytes :=
    if bytes = textBytes ((tunnelDocument 9).print none) then .ok (tunnelDocument 9)
    else if bytes = textBytes ((tunnelDocument 10).print none) then .ok (tunnelDocument 10)
    else .error "expected value at line 1 column 1"

/-- The first journal is saved in the folder of the helper. -/
def tunnelSaved : UserFolder :=
  (stored tunnelCodec 7 1 (tunnelJournal 9) (Folder.empty (some ⟨.directory, 0, 0o755⟩))).settled

/-- The helper is killed while it saves the second, before the folder is synced. -/
def tunnelUnsynced : UserFolder := stored tunnelCodec 7 2 (tunnelJournal 10) tunnelSaved

theorem tunnelJournal_fits {generation : ℕ} (h : generation < 2 ^ 64) :
    (tunnelJournal generation).Fits := by
  constructor <;> rintro _ ⟨⟩
  exact { tunnelPlan_fits with generation := h }

theorem bytes_tunnelJournal (generation : ℕ) : tunnelCodec.bytes (tunnelJournal generation) =
    textBytes ((tunnelDocument generation).print none) := rfl

theorem length_tunnelJournal : (tunnelCodec.bytes (tunnelJournal 9)).length = 834 ∧
    (tunnelCodec.bytes (tunnelJournal 10)).length = 835 := by
  decide +kernel

theorem tunnelJournal_small : (tunnelCodec.bytes (tunnelJournal 9)).length ≤ maxStateBytes ∧
    (tunnelCodec.bytes (tunnelJournal 10)).length ≤ maxStateBytes := by
  rw [length_tunnelJournal.1, length_tunnelJournal.2]
  decide

theorem fromSlice_first {bytes : List UInt8}
    (h : bytes = textBytes ((tunnelDocument 9).print none)) :
    tunnelCodec.fromSlice bytes = .ok (tunnelDocument 9) := if_pos h

theorem fromSlice_second {bytes : List UInt8}
    (h : bytes = textBytes ((tunnelDocument 10).print none)) :
    tunnelCodec.fromSlice bytes = .ok (tunnelDocument 10) := by
  have hother : bytes ≠ textBytes ((tunnelDocument 9).print none) := by
    rintro rfl
    have hlength := congrArg List.length h
    rw [← bytes_tunnelJournal, ← bytes_tunnelJournal, length_tunnelJournal.1,
      length_tunnelJournal.2] at hlength
    cases hlength
  exact (if_neg hother).trans (if_pos h)

theorem tunnelJournal_faithful : tunnelCodec.Faithful (tunnelJournal 9) where
  journal := tunnelJournal_fits (by decide)
  text := fromSlice_first (bytes_tunnelJournal 9)

theorem tunnelJournal_faithful_second : tunnelCodec.Faithful (tunnelJournal 10) where
  journal := tunnelJournal_fits (by decide)
  text := fromSlice_second (bytes_tunnelJournal 10)

theorem takes_empty : Takes 7 1 (Folder.empty (some ⟨.directory, 0, 0o755⟩)) where
  owned := owned_of_self rfl
  free := rfl

theorem takes_tunnelSaved : Takes 7 2 tunnelSaved where
  owned := owned_of_self rfl
  free := rfl

theorem reaches_tunnelSaved :
    (stateSessions tunnelCodec).Reaches tunnelSaved {some (tunnelJournal 9)} :=
  have hempty : (stateSessions tunnelCodec).Reaches _ {none} :=
    .fresh ⟨some ⟨.directory, 0, 0o755⟩, rfl, rfl⟩
  hempty.does (i := StateCall.save 7 (some 1) (tunnelJournal 9)) tunnelJournal_faithful
    (run_save_does takes_empty tunnelJournal_small.1)

/-- The power is lost after that, and a load finds the first journal or the second. -/
theorem load_of_reaches_unsynced :
    tunnelUnsynced.Lost tunnelUnsynced.reverted ∧
      tunnelUnsynced.reverted.entry fileName ≠ tunnelUnsynced.entry fileName ∧
      ∃ v ∈ ({some (tunnelJournal 10), some (tunnelJournal 9)} : Set (Option StoredAppliedState)),
        (StateFile.load tunnelCodec ⟨tunnelUnsynced.reverted, (), fun _ => false⟩).result =
          .ok v := by
  have hkilled : (stateSessions tunnelCodec).Reaches tunnelUnsynced
      {some (tunnelJournal 10), some (tunnelJournal 9)} :=
    reaches_tunnelSaved.passes (i := StateCall.save 7 (some 2) (tunnelJournal 10))
      tunnelJournal_faithful_second (run_save_passes takes_tunnelSaved tunnelJournal_small.2)
  have hlost := Folder.lost_reverted tunnelUnsynced
  have howned : Owned (some 0) tunnelUnsynced.reverted := owned_of_self rfl
  exact ⟨hlost, by decide +kernel, (load_of_reaches (hkilled.happened (.lost hlost))).2 howned⟩

/-- The second journal is saved over the first. -/
theorem file_refines_store_save :
    Refines tunnelCodec tunnelSaved
      ((StateCall.save 7 (some 2) (tunnelJournal 10)).run tunnelCodec)
      { armedSystem with store := some (tunnelJournal 9) } Backend.fresh
      ((StateCall.save 7 (some 2) (tunnelJournal 10)).runModel
        { countPrimitives with stateBytes := fun r => (tunnelCodec.bytes r).length }) :=
  StateCall.file_refines_store (fun _ => rfl) tunnelJournal_faithful_second
    ⟨⟨_, holds_of_reaches reaches_tunnelSaved⟩, rfl,
      file_mem_stored (Set.mem_singleton _) tunnelJournal_faithful tunnelJournal_small.1⟩

end Runs

end RouteLane
