import RouteLane.Config.Repository
import RouteLane.Daemon.State
import RouteLane.Lib.Sessions
import RouteLane.Lib.UserFiles
import RouteLane.Net.JsonText

/-!
# The desired profile on disk

The daemon keeps the profile it was asked for in a file of its own, in the schema of its time,
and replaces the file when it is asked for another.  What a save wrote is read back, with the
names of the lanes trimmed; and whatever fails, is killed or loses power on the way, a load
finds one of the profiles that were saved.
-/

namespace RouteLane

open Fallible Faults Program Files JsonValue

/-! ## The document -/

section Document

variable (text : NetworkText)

def desiredParts (desired : Option Profile) : List (String × Option JsonValue) :=
  [("schema_version", some (Codec.number.encode currentSchemaVersion)),
    ("profile", some ((Codec.profile text).option.encode desired))]

def desiredFields : List String := ["schema_version", "profile"]

/-- `encode_desired_profile`, up to the document it writes. -/
def encodeDesiredProfile (desired : Option Profile) : JsonValue :=
  .object (written (desiredParts text desired))

/-- `DesiredProfileV4`. -/
def readDesiredV4 (v : JsonValue) : Except String (Option Profile) := do
  let fields ← structFields desiredFields 1 v
  let _ ← readField .number fields "schema_version"
  readOption (Codec.profile text) fields "profile"

/-- `DesiredProfileV3`. -/
def readDesiredV3 (v : JsonValue) : Except String (Option ProfileV3) := do
  let fields ← structFields desiredFields 1 v
  let _ ← readField .number fields "schema_version"
  match fields.lookup "profile" with
  | none | some .null => return none
  | some profile => (readProfileV3 text profile).map some

/-- `decode_desired_profile`, on the document the file parses to or the error of parsing it. -/
def decodeDesiredProfile (display : JsonValue → String) (json : Except String JsonValue) :
    Except String (Option Profile) := do
  let document ← json
  let value := document.toValue
  if value = .null then return none
  else match value.get "schema_version" with
    | some version =>
      match version.asU64 with
      | some 4 => readDesiredV4 text value
      | some 3 => (readDesiredV3 text value).map fun old => old.map ProfileV3.toProfile
      | _ => .error ("unsupported desired profile schema version " ++ display version)
    | none => (readProfileV2 text value).map fun old => some old.toProfile

variable {text}

theorem readDesiredV4_encode {desired : Option Profile}
    (h : ∀ profile ∈ desired, PrioritiesFit profile.rules) :
    readDesiredV4 text (encodeDesiredProfile text desired).toValue = .ok desired := by
  have hnodup : ((desiredParts text desired).map Prod.fst).Nodup := by
    show desiredFields.Nodup
    decide
  have hfields : structFields desiredFields 1 (encodeDesiredProfile text desired).toValue =
      .ok (toFields (written (desiredParts text desired))) := structFields_written rfl hnodup
  refine bind_eq_ok.2 ⟨_, hfields, bind_eq_ok.2 ⟨currentSchemaVersion, ?_, ?_⟩⟩
  · exact readField_written hnodup List.mem_cons_self (Codec.number_readsBack (by decide))
  · exact readOption_written hnodup (List.mem_cons_of_mem _ List.mem_cons_self)
      fun profile hprofile => Codec.profile_readsBack (h profile hprofile)

/-- What is written of a desired profile is read back. -/
theorem decodeDesiredProfile_encode {display : JsonValue → String} {desired : Option Profile}
    (h : ∀ profile ∈ desired, PrioritiesFit profile.rules) :
    decodeDesiredProfile text display (.ok (encodeDesiredProfile text desired)) = .ok desired := by
  have hread : readDesiredV4 text _ = _ := readDesiredV4_encode h
  have hnodup : ((desiredParts text desired).map Prod.fst).Nodup := by
    show desiredFields.Nodup
    decide
  have hdistinct : ((written (desiredParts text desired)).map Prod.fst).Nodup :=
    (map_fst_written_sublist _).nodup hnodup
  have hvalue : (encodeDesiredProfile text desired).toValue =
      .object (toFields (written (desiredParts text desired))) := toValue_object_of_nodup hdistinct
  have hlookup : (toFields (written (desiredParts text desired))).lookup "schema_version" =
      some (.number 4) := by
    rw [lookup_toFields_written hnodup (o := some (Codec.number.encode currentSchemaVersion))
      List.mem_cons_self]
    rfl
  have hnull : (encodeDesiredProfile text desired).toValue ≠ .null := by
    intro h
    rw [hvalue] at h
    cases h
  have hversion : (encodeDesiredProfile text desired).toValue.get "schema_version" =
      some (.number 4) := by
    rw [hvalue]
    exact hlookup
  refine bind_eq_ok.2 ⟨_, rfl, ?_⟩
  simp only [if_neg hnull, hversion, asU64, hread]

end Document

/-! ## The repository -/

abbrev DesiredM := Program UserFolder Unit DaemonError

/-- The repository, with what it uses of the system and of `serde_json`. -/
structure AtomicJsonConfigRepository where
  library : ConfigLibrary
  toVec : JsonValue → List UInt8
  fromSlice : List UInt8 → Except String JsonValue
  display : JsonValue → String
  /-- The effective user. -/
  user : ℕ

namespace AtomicJsonConfigRepository

/-- `DaemonError::config`. -/
def configError (message : String) : DaemonError := ⟨"DAEMON_CONFIG_FAILED", message⟩

def fileName : String := "desired-profile.json"

def temporaryName (pid nonce : ℕ) : String :=
  ".desired-profile." ++ toString pid ++ "." ++ toString nonce ++ ".tmp"

/-- `MAX_CONFIG_BYTES`. -/
def maxBytes : ℕ := 1048576

variable (c : AtomicJsonConfigRepository)

def folderTexts : FolderTexts DaemonError where
  create := configError "create config directory"
  inspect := configError "inspect config directory"
  foreign := configError "config directory must be a real directory owned by the daemon user"
  secure := configError "secure config directory"

/-- `validate_owned_private_file`. -/
def validateOwnedPrivateFile (metadata : FileAttributes) : Except DaemonError Unit :=
  failIf (metadata.kind ≠ .regular ∨ metadata.uid ≠ c.user ∨ metadata.mode &&& 0o077 ≠ 0)
    (configError "desired profile must be a user-owned, non-symlink 0600 file")

/-- `validate_existing_destination`. -/
def validateExistingDestination : DesiredM Unit := do
  match ← inspect (configError "inspect existing desired profile") fun d : UserFolder =>
      d.find fileName with
  | none => return ()
  | some file => ofExcept (c.validateOwnedPrivateFile file.attributes)

/-- What a load makes of the profile it read. -/
def accept : Option Profile → Except DaemonError (Option Profile)
  | none => .ok none
  | some profile => do
    let profile := normalizeLaneNames profile
    (validateProfile c.library.toLowercase profile).mapError fun e =>
      configError ("validate desired profile: " ++ c.library.debugDomainError e)
    return some profile

/-- What a load makes of the bytes of the file. -/
def decode (json : List UInt8) : Except DaemonError (Option Profile) := do
  let desired ← (decodeDesiredProfile c.library.toNetworkText c.display (c.fromSlice json)).mapError
    fun e => configError ("decode desired profile: " ++ e)
  c.accept desired

def reader : Reader DaemonError (Option Profile) where
  openFile := configError "open desired-profile.json"
  inspect := configError "inspect config file"
  tooLarge := configError "desired profile file is too large"
  read := configError "read desired profile"
  validate := c.validateOwnedPrivateFile
  limit := maxBytes
  decode := c.decode

/-- `AtomicJsonConfigRepository::load`. -/
def load : DesiredM (Option Profile) := do
  let found ← loadFile c.reader fileName
  return found.join

def storeTexts : StoreTexts DaemonError where
  create := configError "create temp config"
  write := configError "write temp config"
  sync := configError "sync temp config"
  replace := configError "replace desired profile"
  syncFolder := configError "sync config directory"
  tooLarge := configError "desired profile is too large"
  clock := configError "read system clock"

def privateFile : FileAttributes := ⟨.regular, c.user, 0o600⟩

/-- What is written of a desired profile. -/
def bytes (desired : Option Profile) : List UInt8 :=
  c.toVec (encodeDesiredProfile c.library.toNetworkText desired)

/-- `AtomicJsonConfigRepository::save`. -/
def save (pid : ℕ) (clock : Option ℕ) (desired : Option Profile) : DesiredM Unit := do
  ensureFolder folderTexts c.user (some c.user)
  c.validateExistingDestination
  storeFile storeTexts maxBytes (temporaryName pid) fileName c.privateFile (c.bytes desired) clock

/-! ## What a save leaves -/

theorem fileName_ne_temporaryName (pid nonce : ℕ) : fileName ≠ temporaryName pid nonce := by
  intro h
  have hlength : fileName.length = (".desired-profile." ++ toString pid ++ "." ++
      toString nonce ++ ".tmp").length := congrArg String.length h
  have hname : fileName.length = 20 := by decide
  have hhead : ".desired-profile.".length = 17 := by decide
  have htail : ".tmp".length = 4 := by decide
  rw [String.length_append, String.length_append, String.length_append,
    String.length_append] at hlength
  omega

/-- The file of a desired profile, where one was ever saved. -/
def fileOf (saved : Option (Option Profile)) : Option (File FileAttributes) :=
  saved.map fun desired => ⟨c.privateFile, c.bytes desired⟩

/-- A desired profile as the daemon saves it, which `serde_json` reads back. -/
structure Savable (desired : Option Profile) : Prop where
  fits : ∀ profile ∈ desired, PrioritiesFit profile.rules
  valid : ∀ profile ∈ desired, profile.Valid c.library.toLowercase
  text : c.fromSlice (c.bytes desired) =
    .ok (encodeDesiredProfile c.library.toNetworkText desired)

/-- The files of desired profiles that are not too large. -/
def Stored (A : Set (Option (Option Profile))) : Set (Option (File FileAttributes)) :=
  { file | ∃ saved ∈ A, file = c.fileOf saved ∧
    ∀ desired ∈ saved, c.Savable desired ∧ (c.bytes desired).length ≤ maxBytes }

section Specs

variable {c} {d d' : UserFolder} {m : Unit} {A : Set (Option (Option Profile))}
  {desired : Option Profile}

theorem accept_eq (h : ∀ profile ∈ desired, profile.Valid c.library.toLowercase) :
    c.accept desired = .ok (desired.map normalizeLaneNames) := by
  cases desired with
  | none => rfl
  | some profile =>
    have hvalid := validateProfile_eq_ok.2 (valid_normalizeLaneNames (h profile rfl))
    exact check_eq_ok.2 ⟨mapError_eq_ok.2 hvalid, rfl⟩

theorem decode_bytes (h : c.Savable desired) :
    c.decode (c.bytes desired) = .ok (desired.map normalizeLaneNames) := by
  rw [decode, h.text, decodeDesiredProfile_encode h.fits]
  exact accept_eq h.valid

/-- What a load makes of the file of a desired profile. -/
theorem found_of_stored {file : Option (File FileAttributes)} (h : file ∈ c.Stored A) :
    ∃ saved ∈ A, c.reader.found file =
      .ok (saved.map fun desired => desired.map normalizeLaneNames) := by
  obtain ⟨saved, hmem, rfl, hstored⟩ := h
  refine ⟨saved, hmem, ?_⟩
  cases saved with
  | none => rfl
  | some desired =>
    obtain ⟨hsavable, hfits⟩ := hstored desired rfl
    have hvalid : c.validateOwnedPrivateFile c.privateFile = .ok () := by
      simp [validateOwnedPrivateFile, privateFile, failIf]
    have hcontents : c.reader.contents ⟨c.privateFile, c.bytes desired⟩ =
        .ok (desired.map normalizeLaneNames) := by
      have hread : c.reader.contents ⟨c.privateFile, c.bytes desired⟩ =
          (c.validateOwnedPrivateFile c.privateFile >>= fun _ =>
            if (c.bytes desired).length ≤ maxBytes then c.decode (c.bytes desired)
            else .error c.reader.tooLarge) := rfl
      rw [hread, hvalid, if_pos hfits, decode_bytes hsavable]
      rfl
    have hfound : c.reader.found (some ⟨c.privateFile, c.bytes desired⟩) =
        (c.reader.contents ⟨c.privateFile, c.bytes desired⟩).map some := rfl
    exact hfound.trans (congrArg (Except.map some) hcontents)

theorem stored_mono {A B : Set (Option (Option Profile))} (h : A ⊆ B) : c.Stored A ⊆ c.Stored B := by
  rintro _ ⟨saved, hmem, hfile, hsaved⟩
  exact ⟨saved, h hmem, hfile, hsaved⟩

theorem file_mem_stored (h : c.Savable desired) (hfits : (c.bytes desired).length ≤ maxBytes) :
    some ⟨c.privateFile, c.bytes desired⟩ ∈ c.Stored {some desired} := by
  refine ⟨some desired, rfl, rfl, fun desired' hdesired => ?_⟩
  obtain rfl := Option.some.inj hdesired
  exact ⟨h, hfits⟩

theorem validateExistingDestination_ensures :
    Ensures (always fun e => e.state = d) d m c.validateExistingDestination (fun _ d' _ => d' = d)
      fun d' _ => d' = d := by
  refine Ensures.bind (Q := fun _ d' _ => d' = d)
    (Ensures.inspect (fun _ _ => ⟨rfl, rfl⟩) fun _ => ⟨rfl, rfl⟩) ?_
  rintro found d1 m1 rfl
  cases found with
  | none => exact Ensures.pure rfl
  | some file => exact ofExcept_ensures (fun _ _ => rfl) fun _ _ => rfl

/-- However a save ends, the file is one that was saved before or, once it returned, the new
one. -/
theorem save_ensures {pid : ℕ} {clock : Option ℕ} (h : c.Savable desired)
    (hfile : d.Holds fileName (c.Stored A)) :
    Ensures (always fun e => e.state.Holds fileName (c.Stored (insert (some desired) A))) d m
      (c.save pid clock desired)
      (fun _ d' _ => d'.Holds fileName (c.Stored {some desired}))
      (fun d' _ => d'.Holds fileName (c.Stored (insert (some desired) A))) := by
  have hsame : ∀ d', SameFiles d d' → d'.Holds fileName (c.Stored (insert (some desired) A)) :=
    fun d' hd' => (hd'.holds hfile).mono (stored_mono (Set.subset_insert _ _))
  refine Ensures.bind (Q := fun _ d' _ => SameFiles d d')
    (ensures_weaken (ensureFolder_ensures (r := always fun e => SameFiles d e.state)
      (fun _ => Option.some.inj) fun _ he => he) (fun _ he => hsame _ he) (fun _ _ _ hq => hq)
      fun d' _ he => hsame d' he.1) ?_
  rintro - d1 m1 hd1
  refine Ensures.bind (ensures_weaken validateExistingDestination_ensures
    (fun _ he => hsame _ (he ▸ hd1)) (fun _ _ _ hq => hq) fun d' _ he => hsame d' (he ▸ hd1)) ?_
  rintro - d2 m2 rfl
  have hleft : ∀ d', Leaves fileName (some ⟨c.privateFile, c.bytes desired⟩)
      ((c.bytes desired).length ≤ maxBytes) d d' →
      d'.Holds fileName (c.Stored (insert (some desired) A)) := by
    intro d' hleaves
    refine (hleaves.holds _ hfile).mono ?_
    rintro file (hold | ⟨hfits, rfl⟩)
    · exact stored_mono (Set.subset_insert _ _) hold
    · exact stored_mono (Set.singleton_subset_iff.2 (Set.mem_insert _ _)) (file_mem_stored h hfits)
  exact ensures_weaken (storeFile_ensures (fileName_ne_temporaryName pid) (hd1.holds hfile))
    (fun _ he => hleft _ (hd1.leaves_trans he))
    (fun _ _ _ hq => hq.2.mono (Set.singleton_subset_iff.2 (file_mem_stored h hq.1)))
    fun _ _ he => hleft _ (hd1.leaves_trans he)

end Specs

/-! ## Runs of the daemon -/

/-- Saves from an empty folder on, with the profiles that may be in it; between them the power
may be lost. -/
def sessions : Sessions UserFolder DaemonError (ℕ × Option ℕ × Option Profile) Unit
    (Set (Option (Option Profile))) where
  call i := c.save i.1 i.2.1 i.2.2
  admitted i := c.Savable i.2.2
  begun i _ A := insert (some i.2.2) A
  done i _ _ := {some i.2.2}
  happens d A d' A' := d.Lost d' ∧ A' = A
  fresh d A := ∃ self, d = Folder.empty self ∧ A = {none}

section Runs

variable {c} {d : UserFolder} {A : Set (Option (Option Profile))}

theorem holds_of_reaches (h : c.sessions.Reaches d A) : d.Holds fileName (c.Stored A) := by
  refine h.invariant (I := fun d A => d.Holds fileName (c.Stored A)) ?_
    (fun _ _ _ hsavable hfile => save_ensures hsavable hfile) ?_
  · rintro _ _ ⟨self, rfl, rfl⟩
    refine (Folder.holds_empty self).mono (Set.singleton_subset_iff.2 ⟨none, rfl, rfl, ?_⟩)
    intro desired hdesired
    cases hdesired
  · rintro d A d' _ hfile ⟨hlost, rfl⟩
    exact hfile.lost hlost

/-- Whatever was killed, failed or lost before, a daemon that starts takes up one of the desired
profiles there may be, with the names of its lanes trimmed, or none if none was ever saved. -/
theorem desired_of_reaches (h : c.sessions.Reaches d A) :
    ∃ saved ∈ A, (c.load (quiet d ())).result = .ok (saved.join.map normalizeLaneNames) := by
  obtain ⟨saved, hmem, hfound⟩ := found_of_stored (holds_of_reaches h).find_mem
  refine ⟨saved, hmem, ?_⟩
  have hload := (loadFile_undisturbed (m := ())).2 hfound
  have hjoin : (c.load (quiet d ())).result =
      (loadFile c.reader fileName (quiet d ())).result.map Option.join :=
    congrArg Outcome.result (bind_pure_eq Option.join (quiet d ()))
  rw [hjoin, hload]
  cases saved <;> rfl

/-! ## A save that nothing disturbs -/

variable {pid nonce : ℕ} {desired : Option Profile}

/-- A folder that takes a save with these two in the name of its temporary file. -/
structure Takes (c : AtomicJsonConfigRepository) (pid nonce : ℕ) (d : UserFolder) : Prop where
  owned : Owned (some c.user) d
  destination : ∀ file, d.find fileName = some file →
    c.validateOwnedPrivateFile file.attributes = .ok ()
  free : d.entry (temporaryName pid nonce) = none

variable (c) in
/-- The folder once the profile has its name, and before the folder is synced. -/
def stored (pid nonce : ℕ) (desired : Option Profile) (d : UserFolder) : UserFolder :=
  (ensured c.user d).replaced (temporaryName pid nonce) fileName
    ⟨c.privateFile, c.bytes desired⟩

theorem Takes.ready (h : c.Takes pid nonce d) :
    Does (ensureFolder folderTexts c.user (some c.user) : DesiredM Unit) d () () (ensured c.user d) ∧
      Does c.validateExistingDestination (ensured c.user d) () () (ensured c.user d) := by
  refine ⟨ensureFolder_does _ (fun _ => Option.some.inj) h.owned, (gives_inspect _ _).does.bind ?_⟩
  cases hfile : (ensured c.user d).find fileName with
  | none => exact gives_pure ()
  | some file => exact (gives_ofExcept _).of_eq (h.destination file hfile)

theorem save_does (h : c.Takes pid nonce d) (hfits : (c.bytes desired).length ≤ maxBytes) :
    Does (c.save pid (some nonce) desired) d () () (c.stored pid nonce desired d).settled :=
  h.ready.1.bind (h.ready.2.bind (storeFile_does hfits h.free))

theorem save_passes (h : c.Takes pid nonce d) (hfits : (c.bytes desired).length ≤ maxBytes) :
    Passes (c.save pid (some nonce) desired) d () (c.stored pid nonce desired d) :=
  h.ready.1.bind_passes (h.ready.2.bind_passes (storeFile_passes hfits h.free))

/-! ## A save that is killed -/

/-- What is written of a desired profile. -/
def desiredText (desired : Option Profile) : List UInt8 :=
  textBytes ((encodeDesiredProfile .numbers desired).print none)

/-- A repository with a `serde_json` that reads the document of a profile, and that of none. -/
def workRepository : AtomicJsonConfigRepository where
  library := ⟨.numbers, id, fun _ => ""⟩
  toVec document := textBytes (document.print none)
  fromSlice bytes :=
    if bytes = desiredText (some workProfile) then
      .ok (encodeDesiredProfile .numbers (some workProfile))
    else if bytes = desiredText none then .ok (encodeDesiredProfile .numbers none)
    else .error "expected value at line 1 column 1"
  display document := document.print none
  user := 1000

/-- The profile is saved in a folder that is not there yet. -/
def workSaved : UserFolder :=
  (workRepository.stored 7 1 (some workProfile) (Folder.empty none)).settled

/-- It is taken back, and the daemon killed before the folder is synced. -/
def workUnsynced : UserFolder := workRepository.stored 7 2 none workSaved

theorem fromSlice_some {bytes : List UInt8} (h : bytes = desiredText (some workProfile)) :
    workRepository.fromSlice bytes = .ok (encodeDesiredProfile .numbers (some workProfile)) :=
  if_pos h

theorem fromSlice_none {bytes : List UInt8} (h : bytes = desiredText none) :
    workRepository.fromSlice bytes = .ok (encodeDesiredProfile .numbers none) := by
  have hother : bytes ≠ desiredText (some workProfile) := by
    rw [h]
    decide +kernel
  exact (if_neg hother).trans (if_pos h)

theorem savable_some : workRepository.Savable (some workProfile) where
  fits := by
    rintro _ ⟨⟩ rule hrule
    exact absurd hrule List.not_mem_nil
  valid := by
    rintro _ ⟨⟩
    exact validateProfile_eq_ok.1 (by decide +kernel)
  text := fromSlice_some rfl

theorem savable_none : workRepository.Savable none where
  fits _ h := by cases h
  valid _ h := by cases h
  text := fromSlice_none rfl

theorem takes_empty : workRepository.Takes 7 1 (Folder.empty none) where
  owned _ h := by cases h
  destination _ h := by cases h
  free := rfl

theorem takes_workSaved : workRepository.Takes 7 2 workSaved where
  owned := owned_of_self rfl
  destination := by
    have hfind : workSaved.find fileName =
        some ⟨workRepository.privateFile, workRepository.bytes (some workProfile)⟩ := rfl
    intro file hfile
    obtain rfl := Option.some.inj (hfind.symm.trans hfile)
    rfl
  free := rfl

/-- The profile that is in use is the one before then. -/
theorem desired_of_reaches_unsynced :
    workUnsynced.Lost workUnsynced.reverted ∧
      workUnsynced.reverted.entry fileName ≠ workUnsynced.entry fileName ∧
      ∃ saved ∈ ({some none, some (some workProfile)} : Set (Option (Option Profile))),
        (workRepository.load (quiet workUnsynced.reverted ())).result =
          .ok (saved.join.map normalizeLaneNames) := by
  have hempty : workRepository.sessions.Reaches (Folder.empty none) {none} :=
    .fresh ⟨none, rfl, rfl⟩
  have hsaved : workRepository.sessions.Reaches workSaved {some (some workProfile)} :=
    hempty.does (i := (7, some 1, some workProfile)) savable_some
      (save_does takes_empty (by decide +kernel))
  have hkilled : workRepository.sessions.Reaches workUnsynced {some none, some (some workProfile)} :=
    hsaved.passes (i := (7, some 2, none)) savable_none
      (save_passes takes_workSaved (by decide +kernel))
  have hlost := Folder.lost_reverted workUnsynced
  exact ⟨hlost, by decide +kernel, desired_of_reaches (hkilled.happened ⟨hlost, rfl⟩)⟩

end Runs

end AtomicJsonConfigRepository

end RouteLane
