import RouteLane.Config.Repository
import RouteLane.Lib.Sessions
import RouteLane.Lib.UserFiles
import RouteLane.Net.JsonText

/-!
# The configuration on disk

The interface keeps its configuration in one file, with the one before it beside it as a
backup.  A save writes the new configuration and the copy of the old one under names of
their own and renames both; the folder is synced once, at the end.  Wherever this fails, is
killed or loses power, both files are whole, and a save that returned is what is loaded.
-/

namespace RouteLane

open Fallible Faults Program Files

/-- A random `Uuid` as it is written. -/
structure Uuid where
  text : String
  length_eq : text.length = 36

abbrev ConfigM := Program UserFolder Unit String

/-- The repository at the path of `config_path`, with what it uses of the system and of
`serde_json`. -/
structure ConfigRepository where
  library : ConfigLibrary
  toVecPretty : JsonValue → List UInt8
  fromStr : String → Except String JsonValue
  /-- The effective user. -/
  user : ℕ
  /-- The folder, as it is displayed. -/
  parent : String
  /-- What the system says of an error. -/
  osError : String

/-- `MAX_CONFIG_BYTES`. -/
def maxConfigBytes : ℕ := 1048576

namespace ConfigRepository

/-! ## The repository -/

def configFile : String := "config.json"

def backupFile : String := "config.json.bak"

def temporaryName (uuid : Uuid) : String := ".config.json." ++ uuid.text ++ ".tmp"

def backupTemporaryName (uuid : Uuid) : String := ".config.json." ++ uuid.text ++ ".bak.tmp"

variable (c : ConfigRepository)

/-- The path of a file, as it is displayed. -/
def display (name : String) : String := c.parent ++ "/" ++ name

def folderTexts : FolderTexts String where
  create := "could not create " ++ c.parent
  inspect := c.osError
  foreign := "configuration directory is not a real directory"
  secure := c.osError

/-- `validate_metadata`. -/
def validateMetadata (metadata : FileAttributes) : Except String Unit := do
  failIf (metadata.kind ≠ .regular) "configuration path is not a regular file"
  failIf (metadata.uid ≠ c.user) "configuration is not owned by the current user"
  failIf (metadata.mode &&& 0o022 ≠ 0)
    "configuration permissions must not grant group or other write access"

/-- `Path::exists`: an error is a no, and so is a link that leads nowhere. -/
def pathExists : ConfigM Bool := do
  match ← attempt (inspect c.osError fun d => (d.find configFile).any
      fun file => file.attributes.kind ≠ .symlink false) with
  | .ok found => return found
  | .error _ => return false

/-- `validate_existing_file`. -/
def validateExistingFile : ConfigM Unit := do
  let file ← inspectSome c.osError c.osError fun d : UserFolder => d.find configFile
  ofExcept (c.validateMetadata file.attributes)

/-- Open the file, without following a link. -/
def openFile : ConfigM (File FileAttributes) := do
  let failed := "could not safely open " ++ c.display configFile
  let file ← inspectSome failed failed fun d : UserFolder => d.find configFile
  demand (!file.attributes.isSymlink) failed
  return file

/-- `open_existing_file`. -/
def openExistingFile : ConfigM (File FileAttributes) := do
  let file ← c.openFile
  let metadata ← inspect c.osError fun _ => file.attributes
  ofExcept (c.validateMetadata metadata)
  return file

def privateFile : FileAttributes := ⟨.regular, c.user, 0o600⟩

/-- `write_private_file`. -/
def writePrivateFile (name : String) (bytes : List UInt8) : ConfigM Unit :=
  writeFile ("could not safely create " ++ c.display name) c.osError c.osError name c.privateFile
    bytes

/-- `copy_private_file` of the configuration. -/
def copyPrivateFile (destination : String) : ConfigM Unit := do
  let file ← c.openExistingFile
  let bytes ← inspect c.osError fun _ => file.bytes
  c.writePrivateFile destination bytes

/-- Make the configuration there is the backup. -/
def backUp (uuid : Uuid) : ConfigM Unit :=
  guarded (backupTemporaryName uuid) do
    c.copyPrivateFile (backupTemporaryName uuid)
    command ("could not atomically replace configuration backup " ++ c.display backupFile)
      (Folder.rename (backupTemporaryName uuid) backupFile)

/-- Do something if the file is there. -/
def ifThere (p : ConfigM Unit) : ConfigM Unit := do
  if ← c.pathExists then p else return ()

/-- Write a configuration, back up the one there is and replace it. -/
def replace (uuid backupUuid : Uuid) (bytes : List UInt8) : ConfigM Unit :=
  guarded (temporaryName uuid) do
    c.writePrivateFile (temporaryName uuid) bytes
    c.ifThere (c.backUp backupUuid)
    command ("could not atomically replace configuration " ++ c.display configFile)
      (Folder.rename (temporaryName uuid) configFile)

/-- `ConfigRepository::save`. -/
def save (uuid backupUuid : Uuid) (config : ConfigV4) : ConfigM Unit := do
  let document ← ofExcept (config.save c.library)
  let bytes := c.toVecPretty document
  ensureFolder c.folderTexts c.user none
  c.ifThere c.validateExistingFile
  c.replace uuid backupUuid bytes
  command c.osError Folder.syncFolder

/-- The end of `load_config_file`. -/
def parse (bytes : List UInt8) : Except String ConfigV4 :=
  match String.fromUTF8? ⟨bytes.toArray⟩ with
  | none => .error "configuration is not valid UTF-8"
  | some json => loadConfig c.library (c.fromStr json)

/-- `load_config_file`. -/
def loadConfigFile : ConfigM ConfigV4 := do
  c.validateExistingFile
  let file ← c.openFile
  let metadata ← inspect c.osError fun _ => file.attributes
  ofExcept (c.validateMetadata metadata)
  demand (file.bytes.length ≤ maxConfigBytes)
    ("configuration is " ++ toString file.bytes.length ++ " bytes; maximum is " ++
      toString maxConfigBytes)
  let bytes ← inspect ("could not read " ++ c.display configFile) fun _ =>
    file.bytes.take (maxConfigBytes + 1)
  demand (bytes.length ≤ maxConfigBytes)
    ("configuration is larger than the maximum of " ++ toString maxConfigBytes ++ " bytes")
  ofExcept (c.parse bytes)

/-- `ConfigV4::default`. -/
def default : ConfigV4 := ⟨currentSchemaVersion, false, .tr, []⟩

/-- `ConfigRepository::load`. -/
def load : ConfigM ConfigV4 := do
  if ← c.pathExists then c.loadConfigFile else return default

/-! ## Names -/

section Names

variable (uuid other : Uuid)

theorem head?_temporaryName : (temporaryName uuid).toList.head? = some '.' := by
  simp [temporaryName, String.toList_append]

theorem head?_backupTemporaryName : (backupTemporaryName uuid).toList.head? = some '.' := by
  simp [backupTemporaryName, String.toList_append]

theorem ne_of_head? {name hidden : String} (h : hidden.toList.head? = some '.')
    (hname : name.toList.head? = some 'c') : name ≠ hidden := by
  rintro rfl
  rw [h] at hname
  exact absurd hname (by decide)

theorem configFile_ne_temporaryName : configFile ≠ temporaryName uuid :=
  ne_of_head? (head?_temporaryName uuid) (by decide)

theorem configFile_ne_backupTemporaryName : configFile ≠ backupTemporaryName uuid :=
  ne_of_head? (head?_backupTemporaryName uuid) (by decide)

theorem backupFile_ne_temporaryName : backupFile ≠ temporaryName uuid :=
  ne_of_head? (head?_temporaryName uuid) (by decide)

theorem backupFile_ne_backupTemporaryName : backupFile ≠ backupTemporaryName uuid :=
  ne_of_head? (head?_backupTemporaryName uuid) (by decide)

theorem configFile_ne_backupFile : configFile ≠ backupFile := by decide

theorem temporaryName_ne_backupTemporaryName :
    temporaryName uuid ≠ backupTemporaryName other := by
  intro h
  have hlength := congrArg String.length h
  simp only [temporaryName, backupTemporaryName, String.length_append, uuid.length_eq,
    other.length_eq] at hlength
  exact absurd hlength (by decide)

end Names

/-! ## What a save leaves -/

/-- The files the configuration and its backup may be. -/
structure Versions where
  current : Set (Option (File FileAttributes))
  backup : Set (Option (File FileAttributes))

/-- Both files are on disk, and among these. -/
def Versions.Hold (w : Versions) (d : UserFolder) : Prop :=
  d.Holds configFile w.current ∧ d.Holds backupFile w.backup

/-- The copies of files. -/
def copies (A : Set (Option (File FileAttributes))) : Set (Option (File FileAttributes)) :=
  { copy | ∃ file, some file ∈ A ∧ copy = some ⟨c.privateFile, file.bytes⟩ }

/-- The file of a configuration that can be saved. -/
def fileOf (config : ConfigV4) : Set (Option (File FileAttributes)) :=
  { file | ∃ document, config.save c.library = .ok document ∧
    file = some ⟨c.privateFile, c.toVecPretty document⟩ }

/-- What there may be once the backup was begun. -/
def backedUp (w : Versions) : Versions := ⟨w.current, w.backup ∪ c.copies w.current⟩

/-- What there may be once a save was begun. -/
def begun (config : ConfigV4) (w : Versions) : Versions :=
  ⟨w.current ∪ c.fileOf config, w.backup ∪ c.copies w.current⟩

/-- What there may be once it returned: the configuration, and the one before it as the backup,
which stays as it was where there was none or where it was not seen. -/
def done (config : ConfigV4) (d : UserFolder) : Versions :=
  ⟨c.fileOf config, {d.find backupFile} ∪ c.copies {d.find configFile}⟩

section Specs

variable {c} {d d' : UserFolder} {m : Unit} {w : Versions} {uuid backupUuid : Uuid}
  {config : ConfigV4} {J : UserFolder → Prop}

theorem Versions.Hold.mono {w' : Versions} (h : w.Hold d) (hcurrent : w.current ⊆ w'.current)
    (hbackup : w.backup ⊆ w'.backup) : w'.Hold d := ⟨h.1.mono hcurrent, h.2.mono hbackup⟩

theorem Versions.Hold.sameFiles (h : w.Hold d) (hsame : SameFiles d d') : w.Hold d' :=
  ⟨hsame.holds h.1, hsame.holds h.2⟩

/-- A file of another name is no matter. -/
theorem Versions.Hold.beside {temporary : String} (h : w.Hold d) (hcurrent : configFile ≠ temporary)
    (hbackup : backupFile ≠ temporary) (hbeside : Folder.Beside temporary d d') : w.Hold d' :=
  ⟨h.1.beside hcurrent hbeside, h.2.beside hbackup hbeside⟩

theorem Versions.Hold.begun (h : w.Hold d) : (c.begun config w).Hold d :=
  h.mono Set.subset_union_left Set.subset_union_left

/-- What keeps still keeps what it keeps. -/
theorem still {α : Type} {p : ConfigM α} {Q : α → UserFolder → Unit → Prop}
    (h : Ensures (always fun e => e.state = d) d m p Q fun d' _ => d' = d) (hJ : J d) :
    Ensures (always fun e => J e.state) d m p Q fun d' _ => J d' :=
  ensures_weaken h (fun _ he => he ▸ hJ) (fun _ _ _ hq => hq) fun _ _ he => he ▸ hJ

theorem pathExists_ensures :
    Ensures (always fun e => e.state = d) d m c.pathExists (fun _ d' _ => d' = d)
      fun d' _ => d' = d := by
  refine Ensures.bind (Q := fun _ d' _ => d' = d) ?_ ?_
  · refine (Ensures.attempt (Q := fun _ d' _ => d' = d) (E := fun d' _ => d' = d)
      (Ensures.inspect (fun _ _ => ⟨rfl, rfl⟩) fun _ => ⟨rfl, rfl⟩)).conseq
      (fun result _ _ h => ?_) fun _ _ h => h
    cases result <;> exact h
  · rintro result d1 m1 rfl
    cases result <;> exact Ensures.pure rfl

/-- Doing something if the file is there does it, or nothing. -/
theorem ifThere_ensures {p : ConfigM Unit} {Q : Unit → UserFolder → Unit → Prop} (hJ : J d)
    (hQ : Q () d m) (hp : Ensures (always fun e => J e.state) d m p Q fun d' _ => J d') :
    Ensures (always fun e => J e.state) d m (c.ifThere p) Q fun d' _ => J d' := by
  refine Ensures.bind (still pathExists_ensures hJ) ?_
  rintro found d1 m1 rfl
  cases found with
  | true => exact hp
  | false => exact Ensures.pure hQ

theorem validateExistingFile_ensures :
    Ensures (always fun e => e.state = d) d m c.validateExistingFile (fun _ d' _ => d' = d)
      fun d' _ => d' = d := by
  refine Ensures.bind (Q := fun _ d' _ => d' = d)
    (Ensures.inspectSome (fun _ _ => ⟨rfl, rfl⟩) (fun _ _ => ⟨rfl, rfl⟩) fun _ _ _ => ⟨rfl, rfl⟩) ?_
  rintro file d1 m1 rfl
  exact ofExcept_ensures (fun _ _ => rfl) fun _ _ => rfl

theorem openExistingFile_ensures :
    Ensures (always fun e => e.state = d) d m c.openExistingFile
      (fun file d' _ => d' = d ∧ d.find configFile = some file) fun d' _ => d' = d := by
  refine Ensures.bind (Q := fun file d' _ => d' = d ∧ d.find configFile = some file)
    (Ensures.bind (Q := fun file d' _ => d' = d ∧ d.find configFile = some file)
      (Ensures.inspectSome (fun _ _ => ⟨rfl, rfl⟩) (fun _ _ => ⟨rfl, rfl⟩)
        fun file hfile _ => ⟨rfl, rfl, hfile⟩) ?_) ?_
  · rintro file d1 m1 ⟨rfl, hfile⟩
    refine Ensures.bind (Q := fun _ d' _ => d' = d1) (demand_ensures (fun _ => rfl) fun _ => rfl) ?_
    rintro - d2 m2 rfl
    exact Ensures.pure ⟨rfl, hfile⟩
  · rintro file d1 m1 ⟨rfl, hfile⟩
    refine Ensures.bind (Q := fun _ d' _ => d' = d1)
      (Ensures.inspect (fun _ _ => ⟨rfl, rfl⟩) fun _ => ⟨rfl, rfl⟩) ?_
    rintro metadata d2 m2 rfl
    refine Ensures.bind (Q := fun _ d' _ => d' = d2)
      (ofExcept_ensures (fun _ _ => rfl) fun _ _ => rfl) ?_
    rintro - d3 m3 rfl
    exact Ensures.pure ⟨rfl, hfile⟩

/-- A copy is written beside the other files. -/
theorem copyPrivateFile_ensures {destination : String} :
    Ensures (always fun e => Folder.Beside destination d e.state) d m
      (c.copyPrivateFile destination)
      (fun _ d' _ => Folder.Beside destination d d' ∧ ∃ file, d.find configFile = some file ∧
        d'.OnDisk destination ⟨c.privateFile, file.bytes⟩)
      fun d' _ => Folder.Beside destination d d' := by
  refine Ensures.bind (still (J := Folder.Beside destination d) openExistingFile_ensures
    (.refl destination d)) ?_
  rintro file d1 m1 ⟨rfl, hfile⟩
  refine Ensures.bind (Q := fun bytes d' _ => d' = d1 ∧ bytes = file.bytes)
    (Ensures.inspect (fun _ _ => ⟨.refl destination d1, .refl destination d1⟩)
      fun _ => ⟨.refl destination d1, rfl, rfl⟩) ?_
  rintro - d2 m2 ⟨rfl, rfl⟩
  exact ensures_weaken writeFile_ensures (fun _ he => he)
    (fun _ _ _ h => ⟨h.2.1, file, hfile, h.2.2⟩) fun _ _ h => h.2

theorem Versions.Hold.backedUp (h : w.Hold d) : (c.backedUp w).Hold d :=
  h.mono subset_rfl Set.subset_union_left

/-- A backup leaves the backup of before or the copy, and no other name is touched. -/
theorem backUp_ensures (h : w.Hold d) :
    Ensures (always fun e => (c.backedUp w).Hold e.state) d m (c.backUp backupUuid)
      (fun _ d' _ => (c.backedUp w).Hold d' ∧
        d'.find backupFile ∈ {d.find backupFile} ∪ c.copies {d.find configFile} ∧
        ∀ name file, name ≠ backupTemporaryName backupUuid → name ≠ backupFile →
          d.OnDisk name file → d'.OnDisk name file)
      fun d' _ => (c.backedUp w).Hold d' := by
  have hbeside : ∀ d', Folder.Beside (backupTemporaryName backupUuid) d d' →
      (c.backedUp w).Hold d' := fun d' hb =>
    (h.beside (configFile_ne_backupTemporaryName _) (backupFile_ne_backupTemporaryName _) hb).backedUp
  refine guarded_ensures (fun d' hd' => ?_) (Ensures.bind
    (ensures_weaken copyPrivateFile_ensures (fun _ he => hbeside _ he) (fun _ _ _ hq => hq)
      fun d' _ he => hbeside d' he) ?_)
  · exact ⟨hd'.1.link_of_ne (configFile_ne_backupTemporaryName _) none,
      hd'.2.link_of_ne (backupFile_ne_backupTemporaryName _) none⟩
  rintro - d1 m1 ⟨hb, file, hfile, hdisk⟩
  refine Ensures.command (fun _ _ => ⟨hbeside d1 hb, hbeside d1 hb⟩) fun d2 hrename _ => ?_
  obtain ⟨hreplacing, hfind⟩ :=
    Folder.replacing_rename hb (backupFile_ne_backupTemporaryName _) hdisk hrename
  have hcopy : ∀ A, some file ∈ A → some ⟨c.privateFile, file.bytes⟩ ∈ c.copies A :=
    fun A hA => ⟨file, hA, rfl⟩
  have hhold : (c.backedUp w).Hold d2 := by
    refine ⟨(hreplacing.others _ _ (configFile_ne_backupTemporaryName _)
      configFile_ne_backupFile h.1).1, (hreplacing.holds _ h.2).mono (Set.insert_subset ?_ ?_)⟩
    · exact .inr (hcopy _ (hfile ▸ h.1.find_mem))
    · exact Set.subset_union_left
  refine ⟨hhold, hhold, ?_, hreplacing.disk⟩
  rw [hfind]
  exact .inr (hcopy _ (hfile ▸ rfl))

/-- Replacing the configuration leaves the new one, and the backup of before or the copy. -/
theorem replace_ensures {document : JsonValue} (hdocument : config.save c.library = .ok document)
    (h : w.Hold d) :
    Ensures (always fun e => (c.begun config w).Hold e.state) d m
      (c.replace uuid backupUuid (c.toVecPretty document))
      (fun _ d' _ => (c.begun config w).Hold d' ∧
        d'.find configFile = some ⟨c.privateFile, c.toVecPretty document⟩ ∧
        d'.find backupFile ∈ {d.find backupFile} ∪ c.copies {d.find configFile})
      (fun d' _ => (c.begun config w).Hold d') := by
  have hbacked : ∀ d', (c.backedUp w).Hold d' → (c.begun config w).Hold d' := fun d' hd' =>
    hd'.mono Set.subset_union_left subset_rfl
  have hbeside : ∀ d', Folder.Beside (temporaryName uuid) d d' → w.Hold d' := fun d' hb =>
    h.beside (configFile_ne_temporaryName _) (backupFile_ne_temporaryName _) hb
  refine guarded_ensures (fun d' hd' => ?_) (Ensures.bind
    (ensures_weaken writeFile_ensures (fun _ he => (hbeside _ he).begun)
      (fun _ _ _ hq => hq) fun d' _ he => (hbeside d' he.2).begun) ?_)
  · exact ⟨hd'.1.link_of_ne (configFile_ne_temporaryName _) none,
      hd'.2.link_of_ne (backupFile_ne_temporaryName _) none⟩
  rintro - d1 m1 ⟨-, hb, hdisk⟩
  have h1 := hbeside d1 hb
  have hsame : d1.find configFile = d.find configFile ∧ d1.find backupFile = d.find backupFile :=
    ⟨hb.find (configFile_ne_temporaryName _) h.1, hb.find (backupFile_ne_temporaryName _) h.2⟩
  refine Ensures.bind (Q := fun _ d' _ => (c.backedUp w).Hold d' ∧
    d'.find backupFile ∈ {d.find backupFile} ∪ c.copies {d.find configFile} ∧
    d'.OnDisk (temporaryName uuid) ⟨c.privateFile, c.toVecPretty document⟩)
    (ifThere_ensures h1.begun ⟨h1.backedUp, .inl hsame.2, hdisk⟩
      (ensures_weaken (backUp_ensures h1) (fun _ he => hbacked _ he)
        (fun _ d' _ hq => ⟨hq.1, ?_, hq.2.2 _ _ ?_ ?_ hdisk⟩) fun d' _ he => hbacked d' he)) ?_
  · rw [← hsame.1, ← hsame.2]
    exact hq.2.1
  · exact temporaryName_ne_backupTemporaryName _ _
  · exact (backupFile_ne_temporaryName _).symm
  rintro - d2 m2 ⟨h2, hbackup, hdisk⟩
  refine Ensures.command (fun _ _ => ⟨hbacked d2 h2, hbacked d2 h2⟩) fun d3 hrename _ => ?_
  obtain ⟨hreplacing, hfind⟩ := Folder.replacing_rename (.refl _ d2)
    (configFile_ne_temporaryName _) hdisk hrename
  obtain ⟨hother, hsame⟩ := hreplacing.others _ _ (backupFile_ne_temporaryName _)
    configFile_ne_backupFile.symm h2.2
  have hhold : (c.begun config w).Hold d3 := by
    refine ⟨(hreplacing.holds _ h2.1).mono (Set.insert_subset ?_ Set.subset_union_left), hother⟩
    exact .inr ⟨document, hdocument, rfl⟩
  refine ⟨hhold, hhold, hfind, ?_⟩
  rw [hsame]
  exact hbackup

/-- However a save ends, both files are whole: each is what it was or what it was to become. -/
theorem save_ensures (h : w.Hold d) :
    Ensures (always fun e => (c.begun config w).Hold e.state) d m (c.save uuid backupUuid config)
      (fun _ d' _ => (c.done config d).Hold d') (fun d' _ => (c.begun config w).Hold d') := by
  refine Ensures.bind (Q := fun document d' _ => d' = d ∧ config.save c.library = .ok document)
    (ofExcept_ensures (fun document hdocument => ⟨rfl, hdocument⟩) fun _ _ => h.begun) ?_
  rintro document d1 m1 ⟨rfl, hdocument⟩
  have hfile : some ⟨c.privateFile, c.toVecPretty document⟩ ∈ c.fileOf config :=
    ⟨document, hdocument, rfl⟩
  refine Ensures.bind (Q := fun _ d' _ => SameFiles d1 d')
    (ensures_weaken (ensureFolder_ensures (r := always fun e => SameFiles d1 e.state)
      (fun _ hu => by cases hu) fun _ he => he) (fun _ he => (h.sameFiles he).begun)
      (fun _ _ _ hq => hq) fun _ _ he => (h.sameFiles he.1).begun) ?_
  rintro - d2 m2 hsame
  have h2 := h.sameFiles hsame
  refine Ensures.bind (ifThere_ensures (Q := fun _ d' _ => d' = d2) h2.begun rfl
    (still validateExistingFile_ensures h2.begun)) ?_
  rintro - d3 m3 rfl
  refine Ensures.bind (replace_ensures hdocument h2) ?_
  rintro - d4 m4 ⟨hhold, hcurrent, hbackup⟩
  refine Ensures.command (fun _ _ => ⟨hhold, hhold⟩) fun d5 hsync _ => ?_
  have hconfig := hhold.1.syncFolder hsync
  have hback := hhold.2.syncFolder hsync
  rw [hcurrent] at hconfig
  rw [hsame.find, hsame.find] at hbackup
  refine ⟨⟨?_, ?_⟩, ?_, ?_⟩
  · exact hconfig.mono (Set.singleton_subset_iff.2 (.inr hfile))
  · exact hback.mono (Set.singleton_subset_iff.2 hhold.2.find_mem)
  · exact hconfig.mono (Set.singleton_subset_iff.2 hfile)
  · exact hback.mono (Set.singleton_subset_iff.2 hbackup)

end Specs

/-! ## Runs of saves -/

/-- Saves on a folder of which the two files are on disk; between them the power may be lost. -/
def sessions : Sessions UserFolder String (Uuid × Uuid × ConfigV4) Unit Versions where
  call i := c.save i.1 i.2.1 i.2.2
  admitted _ := True
  begun i _ w := c.begun i.2.2 w
  done i d _ := c.done i.2.2 d
  happens d w d' w' := d.Lost d' ∧ w' = w
  fresh d w := w.Hold d

/-- What is made of the file by a load that nothing disturbs. -/
def contents : Option (File FileAttributes) → Except String ConfigV4
  | none => .ok default
  | some file =>
    if file.attributes.kind = .symlink false then .ok default
    else do
      c.validateMetadata file.attributes
      failIf (maxConfigBytes < file.bytes.length)
        ("configuration is " ++ toString file.bytes.length ++ " bytes; maximum is " ++
          toString maxConfigBytes)
      c.parse file.bytes

section Runs

variable {c} {d d' : UserFolder} {w : Versions} {uuid backupUuid : Uuid} {config : ConfigV4}

theorem hold_of_reaches (h : c.sessions.Reaches d w) : w.Hold d :=
  h.invariant (I := fun d w => w.Hold d) (fun _ _ hfresh => hfresh)
    (fun _ _ _ _ hhold => save_ensures hhold)
    (by
      rintro d w d' _ hhold ⟨hlost, rfl⟩
      exact ⟨hhold.1.lost hlost, hhold.2.lost hlost⟩)

theorem pathExists_gives : Gives c.pathExists d ()
    (.ok ((d.find configFile).any fun file => file.attributes.kind ≠ .symlink false)) :=
  (gives_inspect c.osError _).attempt.bind_ok (gives_pure _)

theorem inspectFile_gives {file : File FileAttributes} (hfile : d.find configFile = some file)
    (e : String) :
    Gives (inspectSome e e fun d : UserFolder => d.find configFile) d () (.ok file) := by
  have hread := gives_inspectSome (s := d) (m := ()) e e fun d : UserFolder => d.find configFile
  rwa [hfile] at hread

theorem kind_of_validateMetadata {metadata : FileAttributes}
    (h : c.validateMetadata metadata = .ok ()) : metadata.kind = .regular := by
  have hkind := (check_eq_ok.1 h).1
  exact not_not.1 (failIf_eq_ok.1 hkind)

theorem openFile_gives {file : File FileAttributes} (hfile : d.find configFile = some file)
    (hvalid : c.validateMetadata file.attributes = .ok ()) :
    Gives c.openFile d () (.ok file) := by
  have hlink : file.attributes.isSymlink = false := by
    rw [FileAttributes.isSymlink, kind_of_validateMetadata hvalid]
  refine (inspectFile_gives hfile _).bind_ok ((gives_demand_pos ?_ _).bind_ok (gives_pure file))
  rw [hlink]
  rfl

theorem loadConfigFile_gives {file : File FileAttributes} (hfile : d.find configFile = some file) :
    Gives c.loadConfigFile d () (do
      c.validateMetadata file.attributes
      failIf (maxConfigBytes < file.bytes.length)
        ("configuration is " ++ toString file.bytes.length ++ " bytes; maximum is " ++
          toString maxConfigBytes)
      c.parse file.bytes) := by
  have hthere := inspectFile_gives hfile
  have hcheck := gives_ofExcept (s := d) (m := ()) (c.validateMetadata file.attributes)
  cases hvalid : c.validateMetadata file.attributes with
  | error e =>
    exact ((hthere _).bind_ok (hcheck.of_eq hvalid)).bind_error
  | ok u =>
    refine ((hthere _).bind_ok (hcheck.of_eq hvalid)).bind_ok
      ((openFile_gives hfile hvalid).bind_ok ?_)
    refine (gives_inspect c.osError _).bind_ok ((hcheck.of_eq hvalid).bind_ok ?_)
    by_cases hfits : file.bytes.length ≤ maxConfigBytes
    · have htake : file.bytes.take (maxConfigBytes + 1) = file.bytes :=
        List.take_of_length_le (hfits.trans (Nat.le_succ _))
      refine (gives_demand_pos hfits _).bind_ok ((gives_inspect _ _).bind_ok ?_)
      rw [htake, failIf, if_neg (not_lt.2 hfits)]
      exact (gives_demand_pos hfits _).bind_ok (gives_ofExcept _)
    · rw [failIf, if_pos (not_le.1 hfits)]
      exact (gives_demand_neg hfits _).bind_error

/-- An undisturbed load takes the file for what it is. -/
theorem load_gives : Gives c.load d () (c.contents (d.find configFile)) := by
  refine pathExists_gives.bind_ok ?_
  cases hfile : d.find configFile with
  | none => exact gives_pure default
  | some file =>
    by_cases hlost : file.attributes.kind = .symlink false
    · rw [contents, if_pos hlost]
      simp only [Option.any_some, hlost]
      exact gives_pure default
    · rw [contents, if_neg hlost]
      simp only [Option.any_some, ne_eq, hlost, not_false_eq_true, decide_true, if_true]
      exact loadConfigFile_gives hfile

/-- Whatever was killed, failed or lost before, both files are whole: each is one of those there
may be, and a load reads the configuration that is there. -/
theorem load_of_reached (h : c.sessions.Reaches d w) :
    d.find configFile ∈ w.current ∧ d.find backupFile ∈ w.backup ∧
      (c.load (quiet d ())).result = c.contents (d.find configFile) :=
  ⟨(hold_of_reaches h).1.find_mem, (hold_of_reaches h).2.find_mem, load_gives.1⟩

/-! ## Saved configurations -/

/-- The profile `save` writes. -/
def inactive (profile : Profile) : Profile := { profile with enabled := false }

theorem save_eq_ok {document : JsonValue} : config.save c.library = .ok document ↔
    (∀ profile ∈ config.profiles, (inactive profile).Valid c.library.toLowercase) ∧
      checkConfigProfiles c.library.toLowercase [] [] (config.profiles.map inactive) = .ok () ∧
      document = (Codec.configV4 c.library.toNetworkText).encode
        { config with schemaVersion := currentSchemaVersion
                      profiles := config.profiles.map inactive } := by
  have hsaved : ∀ profile saved, profileToSave c.library profile = .ok saved ↔
      (inactive profile).Valid c.library.toLowercase ∧ saved = inactive profile := by
    intro profile saved
    rw [profileToSave, check_eq_ok, mapError_eq_ok, ← validateProfile_eq_ok]
    exact and_congr Iff.rfl ⟨fun h => (Except.ok.inj h).symm, fun h => h ▸ rfl⟩
  rw [ConfigV4.save]
  simp only [bind_eq_ok, mapM_eq_ok_iff hsaved]
  constructor
  · rintro ⟨profiles, ⟨hvalid, rfl⟩, _, hcheck, h⟩
    exact ⟨hvalid, hcheck, (Except.ok.inj h).symm⟩
  · rintro ⟨hvalid, hcheck, rfl⟩
    exact ⟨_, ⟨hvalid, rfl⟩, (), hcheck, rfl⟩

/-- The configuration a saved one is loaded as. -/
def loadedAs (config : ConfigV4) : ConfigV4 :=
  { config with schemaVersion := currentSchemaVersion
                profiles := config.profiles.map properProfile }

theorem loadConfig_of_save {document : JsonValue} (h : config.save c.library = .ok document)
    (hfits : ∀ profile ∈ config.profiles, PrioritiesFit profile.rules) :
    loadConfig c.library (.ok document) = .ok (loadedAs config) := by
  obtain ⟨hvalid, hcheck, rfl⟩ := save_eq_ok.1 h
  have hfits' : ∀ profile ∈ config.profiles.map inactive, PrioritiesFit profile.rules :=
    List.forall_mem_map.2 hfits
  rw [loadConfig, fromJson_encode rfl hfits']
  show (ConfigDocument.v4 _).intoCurrent c.library = _
  refine intoCurrent_eq_ok.2 ⟨_, rfl, ?_, ?_, ?_⟩
  · exact List.forall_mem_map.2 fun profile hprofile =>
      valid_normalizeLaneNames (hvalid profile hprofile)
  · rw [checkConfigProfiles_map (g := properProfile) (fun _ => rfl) fun _ => rfl]
    exact hcheck
  · rw [loadedAs, List.map_map]
    rfl

/-- What `serde_json` writes is text, and is read back. -/
def WritesBack (document : JsonValue) : Prop :=
  ∃ json, String.fromUTF8? ⟨(c.toVecPretty document).toArray⟩ = some json ∧
    c.fromStr json = .ok document

/-- The file of a configuration is read as the configuration if it is not too large to be. -/
theorem contents_of_fileOf {file : Option (File FileAttributes)} (h : file ∈ c.fileOf config)
    (hfits : ∀ profile ∈ config.profiles, PrioritiesFit profile.rules)
    (hwrites : ∀ document, config.save c.library = .ok document → c.WritesBack document) :
    ∃ document, config.save c.library = .ok document ∧ c.contents file =
      if (c.toVecPretty document).length ≤ maxConfigBytes then .ok (loadedAs config)
      else .error ("configuration is " ++ toString (c.toVecPretty document).length ++
        " bytes; maximum is " ++ toString maxConfigBytes) := by
  obtain ⟨document, hdocument, rfl⟩ := h
  refine ⟨document, hdocument, ?_⟩
  obtain ⟨json, htext, hjson⟩ := hwrites document hdocument
  have hvalid : c.validateMetadata c.privateFile = .ok () := by
    simp [validateMetadata, privateFile, failIf, bind, Except.bind]
  have hparse : c.parse (c.toVecPretty document) = .ok (loadedAs config) := by
    rw [parse, htext]
    simp only [hjson]
    exact loadConfig_of_save hdocument hfits
  rw [contents, if_neg (by simp [privateFile]), hvalid, hparse]
  by_cases hsize : (c.toVecPretty document).length ≤ maxConfigBytes
  · rw [if_pos hsize, failIf, if_neg (not_lt.2 hsize)]
    rfl
  · rw [if_neg hsize, failIf, if_pos (not_le.1 hsize)]
    rfl

/-- A save that returned is what is loaded, however often the power is lost in between: unless
it is larger than what is read, which the save does not check. -/
theorem load_after_save {d'' : UserFolder} {faults : ℕ → Bool} (h : w.Hold d)
    (hsaved : (c.save uuid backupUuid config ⟨d, (), faults⟩).result = .ok ())
    (hlost : Relation.ReflTransGen Folder.Lost
      (c.save uuid backupUuid config ⟨d, (), faults⟩).world.machine d'')
    (hfits : ∀ profile ∈ config.profiles, PrioritiesFit profile.rules)
    (hwrites : ∀ document, config.save c.library = .ok document → c.WritesBack document) :
    ∃ document, config.save c.library = .ok document ∧ (c.load (quiet d'' ())).result =
      if (c.toVecPretty document).length ≤ maxConfigBytes then .ok (loadedAs config)
      else .error ("configuration is " ++ toString (c.toVecPretty document).length ++
        " bytes; maximum is " ++ toString maxConfigBytes) := by
  have hensures : Ensures _ d () (c.save uuid backupUuid config) _ _ := save_ensures h
  obtain ⟨-, -, hpost⟩ := hensures faults (fun _ _ => trivial) fun _ _ => trivial
  rw [hsaved] at hpost
  have hhold : d''.Holds configFile (c.fileOf config) := by
    induction hlost with
    | refl => exact hpost.1
    | tail _ hlost ih => exact ih.lost hlost
  rw [load_gives.1]
  exact contents_of_fileOf hhold.find_mem hfits hwrites

/-! ## A save that nothing disturbs -/

/-- A folder that takes a save with these two for its temporary files. -/
structure Takes (c : ConfigRepository) (uuid backupUuid : Uuid) (d : UserFolder) : Prop where
  owned : Owned none d
  file : ∀ file, d.find configFile = some file → c.validateMetadata file.attributes = .ok ()
  free : d.entry (temporaryName uuid) = none
  backupFree : d.entry (backupTemporaryName backupUuid) = none

variable (c) in
/-- The folder with the new configuration beside the one there is, which is backed up. -/
def backed (uuid backupUuid : Uuid) (bytes : List UInt8) (d : UserFolder) : UserFolder :=
  let d' := (ensured c.user d).written (temporaryName uuid) ⟨c.privateFile, bytes⟩
  match d.find configFile with
  | none => d'
  | some file => d'.replaced (backupTemporaryName backupUuid) backupFile ⟨c.privateFile, file.bytes⟩

variable (c) in
/-- The folder once the new one has its name, and before the folder is synced. -/
def stored (uuid backupUuid : Uuid) (bytes : List UInt8) (d : UserFolder) : UserFolder :=
  (c.backed uuid backupUuid bytes d).moved (temporaryName uuid) configFile d.fresh

theorem ifThere_does {p : ConfigM Unit}
    (h : ∀ file, d.find configFile = some file → c.validateMetadata file.attributes = .ok () ∧
      Does p d () () d') (hnone : d.find configFile = none → d' = d) :
    Does (c.ifThere p) d () () d' := by
  refine pathExists_gives.does.bind ?_
  cases hfile : d.find configFile with
  | none =>
    rw [hnone hfile]
    exact gives_pure ()
  | some file =>
    obtain ⟨hvalid, hdoes⟩ := h file hfile
    simp only [Option.any_some, kind_of_validateMetadata hvalid]
    exact hdoes

/-- The configuration there is is backed up. -/
theorem backUp_does (h : c.Takes uuid backupUuid d) (hhold : w.Hold d) {bytes : List UInt8} :
    Does (c.ifThere (c.backUp backupUuid))
      ((ensured c.user d).written (temporaryName uuid) ⟨c.privateFile, bytes⟩) () ()
      (c.backed uuid backupUuid bytes d) := by
  have hfind : ((ensured c.user d).written (temporaryName uuid)
      ⟨c.privateFile, bytes⟩).find configFile = d.find configFile :=
    Folder.beside_written.find (configFile_ne_temporaryName uuid) hhold.1
  refine ifThere_does (fun file hfile => ?_) fun hnone => ?_
  · have hvalid := h.file file (hfind ▸ hfile)
    refine ⟨hvalid, ?_⟩
    rw [backed, hfind.symm.trans hfile]
    have hopen : Gives c.openExistingFile _ () (.ok file) :=
      (openFile_gives hfile hvalid).bind_ok ((gives_inspect c.osError _).bind_ok
        (((gives_ofExcept _).of_eq hvalid).bind_ok (gives_pure file)))
    have hfree : ((ensured c.user d).written (temporaryName uuid)
        ⟨c.privateFile, bytes⟩).entry (backupTemporaryName backupUuid) = none :=
      (Folder.entry_link_of_ne (temporaryName_ne_backupTemporaryName _ _).symm _).trans h.backupFree
    have hcopy : Does (c.copyPrivateFile (backupTemporaryName backupUuid)) _ () () _ :=
      hopen.does.bind ((gives_inspect c.osError _).does.bind (writeFile_does _ _ _ hfree))
    exact Does.guarded (hcopy.bind (does_command _ rename_written))
  · rw [backed, hfind.symm.trans hnone]

theorem rename_backed {bytes : List UInt8} :
    Folder.rename (temporaryName uuid) configFile (c.backed uuid backupUuid bytes d) =
      some (c.stored uuid backupUuid bytes d) := by
  refine Folder.rename_eq_moved ?_
  rw [backed]
  split
  · exact Folder.entry_written
  · exact (Folder.entry_replaced_of_ne (temporaryName_ne_backupTemporaryName _ _)
      (backupFile_ne_temporaryName _).symm).trans Folder.entry_written

/-- What comes before the new configuration gets its name. -/
theorem Takes.ready (h : c.Takes uuid backupUuid d) {document : JsonValue}
    (hdocument : config.save c.library = .ok document) :
    Does (ofExcept (config.save c.library) : ConfigM JsonValue) d () document d ∧
      Does (ensureFolder c.folderTexts c.user none : ConfigM Unit) d () () (ensured c.user d) ∧
      Does (c.ifThere c.validateExistingFile) (ensured c.user d) () () (ensured c.user d) ∧
      Does (c.writePrivateFile (temporaryName uuid) (c.toVecPretty document)) (ensured c.user d) ()
        () ((ensured c.user d).written (temporaryName uuid)
          ⟨c.privateFile, c.toVecPretty document⟩) := by
  refine ⟨(gives_ofExcept _).of_eq hdocument, ?_, ?_, writeFile_does _ _ _ h.free⟩
  · exact ensureFolder_does _ (fun _ hu => by cases hu) h.owned
  · refine ifThere_does (fun file hfile => ?_) fun _ => rfl
    have hvalid := h.file file hfile
    exact ⟨hvalid, (inspectFile_gives hfile _).bind_ok ((gives_ofExcept _).of_eq hvalid)⟩

/-- A save that nothing disturbs returns. -/
theorem save_does (h : c.Takes uuid backupUuid d) (hhold : w.Hold d) {document : JsonValue}
    (hdocument : config.save c.library = .ok document) :
    Does (c.save uuid backupUuid config) d () ()
      (c.stored uuid backupUuid (c.toVecPretty document) d).settled := by
  obtain ⟨hsave, hensure, hvalidate, hwrite⟩ := h.ready hdocument
  have hreplace : Does (c.replace uuid backupUuid (c.toVecPretty document)) (ensured c.user d) () ()
      (c.stored uuid backupUuid (c.toVecPretty document) d) :=
    Does.guarded (hwrite.bind ((backUp_does h hhold).bind (does_command _ rename_backed)))
  exact hsave.bind (hensure.bind (hvalidate.bind (hreplace.bind (does_command _ rfl))))

/-- On its way it passes through a folder that is not synced yet. -/
theorem save_passes (h : c.Takes uuid backupUuid d) (hhold : w.Hold d) {document : JsonValue}
    (hdocument : config.save c.library = .ok document) :
    Passes (c.save uuid backupUuid config) d ()
      (c.stored uuid backupUuid (c.toVecPretty document) d) := by
  obtain ⟨hsave, hensure, hvalidate, hwrite⟩ := h.ready hdocument
  have hreplace : Passes (c.replace uuid backupUuid (c.toVecPretty document)) (ensured c.user d) ()
      (c.stored uuid backupUuid (c.toVecPretty document) d) :=
    Passes.guarded (hwrite.bind_passes ((backUp_does h hhold).bind_passes
      (passes_command _ rename_backed)))
  exact hsave.bind_passes (hensure.bind_passes (hvalidate.bind_passes (hreplace.bind _)))

/-! ## A save that is killed -/

def workConfig : ConfigV4 := ⟨currentSchemaVersion, true, .en, [workProfile]⟩

/-- What is written of a configuration with these profiles. -/
def documentOf (config : ConfigV4) (profiles : List Profile) : JsonValue :=
  (Codec.configV4 .numbers).encode { config with profiles := profiles }

def workDocument : JsonValue := documentOf workConfig [inactive workProfile]

/-- A repository with a `serde_json` that reads this document. -/
def workRepository : ConfigRepository where
  library := ⟨.numbers, id, fun _ => ""⟩
  toVecPretty document := textBytes (document.print (some 0))
  fromStr json :=
    if json = workDocument.print (some 0) then .ok workDocument
    else .error "expected value at line 1 column 1"
  user := 1000
  parent := "/home/user/.config/routelane"
  osError := "Input/output error (os error 5)"

def someUuid : Uuid := ⟨"6f8c8c1e-3c2b-4a5d-9e0f-0123456789ab", by decide⟩

theorem hold_empty : Versions.Hold ⟨{none}, {none}⟩ (Folder.empty none) :=
  ⟨Folder.holds_empty none, Folder.holds_empty none⟩

/-- The configuration of nothing is saved in a folder that is not there yet. -/
def firstSaved : UserFolder :=
  (workRepository.stored someUuid someUuid
    (workRepository.toVecPretty (documentOf default [])) (Folder.empty none)).settled

/-- It is replaced, and the client killed before the folder is synced. -/
def workUnsynced : UserFolder :=
  workRepository.stored someUuid someUuid (workRepository.toVecPretty workDocument) firstSaved

/-- What there may be then. -/
def workVersions : Versions :=
  workRepository.begun workConfig (workRepository.done default (Folder.empty none))

theorem takes_empty : workRepository.Takes someUuid someUuid (Folder.empty none) where
  owned _ h := by cases h
  file _ h := by cases h
  free := rfl
  backupFree := rfl

theorem takes_firstSaved : workRepository.Takes someUuid someUuid firstSaved where
  owned := by
    rintro _ ⟨⟩
    exact ⟨rfl, fun _ h => by cases h⟩
  file := by
    have hfind : firstSaved.find configFile = some ⟨workRepository.privateFile,
      workRepository.toVecPretty (documentOf default [])⟩ := rfl
    intro file hfile
    obtain rfl := Option.some.inj (hfind.symm.trans hfile)
    rfl
  free := rfl
  backupFree := rfl

theorem document_default : default.save workRepository.library = .ok (documentOf default []) := by
  decide +kernel

theorem document_workConfig : workConfig.save workRepository.library = .ok workDocument := by
  decide +kernel

theorem reaches_workUnsynced : workRepository.sessions.Reaches workUnsynced workVersions := by
  have hempty : workRepository.sessions.Reaches (Folder.empty none) ⟨{none}, {none}⟩ :=
    .fresh hold_empty
  have hfirst : workRepository.sessions.Reaches firstSaved
      (workRepository.done default (Folder.empty none)) :=
    hempty.does (i := (someUuid, someUuid, default)) trivial
      (save_does takes_empty hold_empty document_default)
  exact hfirst.passes (i := (someUuid, someUuid, workConfig)) trivial
    (save_passes takes_firstSaved (hold_of_reaches hfirst) document_workConfig)

/-- The power is lost then, and with it the name the file was given. -/
theorem load_of_reached_unsynced :
    workUnsynced.Lost workUnsynced.reverted ∧
      workUnsynced.reverted.entry configFile ≠ workUnsynced.entry configFile ∧
      workUnsynced.reverted.find configFile ∈ workVersions.current ∧
      workUnsynced.reverted.find backupFile ∈ workVersions.backup ∧
      (workRepository.load (quiet workUnsynced.reverted ())).result =
        workRepository.contents (workUnsynced.reverted.find configFile) := by
  refine ⟨Folder.lost_reverted _, by decide +kernel, ?_⟩
  exact load_of_reached (reaches_workUnsynced.happened ⟨Folder.lost_reverted _, rfl⟩)

/-- The configuration is saved in the folder of the one of nothing. -/
def workSaved : Outcome UserFolder Unit String Unit :=
  workRepository.save someUuid someUuid workConfig ⟨firstSaved, (), fun _ => false⟩

theorem fromStr_of_eq {json : String} (h : json = workDocument.print (some 0)) :
    workRepository.fromStr json = .ok workDocument := if_pos h

theorem writesBack_workDocument : workRepository.WritesBack workDocument :=
  ⟨_, textOfBytes_textBytes (workDocument.print (some 0)), fromStr_of_eq rfl⟩

/-- The power is lost after the save returned; the profile is loaded inactive, and the name of
its lane trimmed. -/
theorem load_after_save_work :
    workSaved.world.machine.Lost workSaved.world.machine.reverted ∧
      ∃ document, workConfig.save workRepository.library = .ok document ∧
        (workRepository.load (quiet workSaved.world.machine.reverted ())).result =
          if (workRepository.toVecPretty document).length ≤ maxConfigBytes then
            .ok (loadedAs workConfig)
          else .error ("configuration is " ++
            toString (workRepository.toVecPretty document).length ++ " bytes; maximum is " ++
            toString maxConfigBytes) := by
  have hfirst : Versions.Hold _ firstSaved :=
    hold_of_reaches (Sessions.Reaches.does (.fresh hold_empty) (i := (someUuid, someUuid, default))
      trivial (save_does takes_empty hold_empty document_default))
  have hsaved : workSaved.result = .ok () :=
    (save_does takes_firstSaved hfirst document_workConfig).1
  have hlost := Folder.lost_reverted workSaved.world.machine
  refine ⟨hlost, load_after_save hfirst hsaved (.single hlost) ?_ ?_⟩
  · intro profile hprofile
    obtain rfl := List.mem_singleton.1 hprofile
    exact fun rule hrule => absurd hrule List.not_mem_nil
  · intro document hdocument
    obtain rfl := Except.ok.inj (document_workConfig.symm.trans hdocument)
    exact writesBack_workDocument

end Runs

end ConfigRepository

end RouteLane
