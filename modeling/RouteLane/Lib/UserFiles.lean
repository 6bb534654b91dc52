import RouteLane.Lib.Files

/-!
# Private files

Folders and files that belong to one user.  A process sees to its folder before it uses it,
reads a file after it checked its attributes and its length, and stores one by replacing it.
-/

namespace Files

open Faults Program Folder

variable {μ ε : Type}

/-! ## Folders of one user -/

inductive FileKind where
  | regular
  | directory
  /-- With whether it leads anywhere. -/
  | symlink (resolves : Bool)
  | other
  deriving DecidableEq, Repr

/-- What `lstat` tells: the kind, the owner and the permission bits. -/
structure FileAttributes where
  kind : FileKind
  uid : ℕ
  mode : ℕ
  deriving DecidableEq, Repr

def FileAttributes.isSymlink (a : FileAttributes) : Bool :=
  match a.kind with
  | .symlink _ => true
  | _ => false

abbrev UserFolder := Folder FileAttributes FileAttributes

/-- `create_dir_all` of a user. -/
def createDirAll (user : ℕ) (d : UserFolder) : Option UserFolder :=
  match d.self with
  | none => some { d with self := some ⟨.directory, user, 0o755⟩ }
  | some attributes =>
    if attributes.kind = .directory ∨ attributes.kind = .symlink true then some d else none

/-- `set_permissions` of the folder. -/
def setPermissions (mode : ℕ) (d : UserFolder) : Option UserFolder :=
  d.self.map fun attributes => { d with self := some { attributes with mode := mode } }

/-- Where seeing to a folder can fail. -/
structure FolderTexts (ε : Type) where
  create : ε
  inspect : ε
  foreign : ε
  secure : ε

/-- See that the folder is there and a real one, of the owner if one is asked for, and close it
to all others. -/
def ensureFolder (texts : FolderTexts ε) (user : ℕ) (owner : Option ℕ) :
    Program UserFolder μ ε Unit := do
  command texts.create (createDirAll user)
  let metadata ← inspectSome texts.inspect texts.inspect Folder.self
  demand (metadata.kind = .directory ∧ ∀ uid ∈ owner, metadata.uid = uid) texts.foreign
  command texts.secure (setPermissions 0o700)

/-- The folder itself is a real one, of the owner if one is asked for, or not there yet. -/
def Owned (owner : Option ℕ) (d : UserFolder) : Prop :=
  ∀ a, d.self = some a → a.kind = .directory ∧ ∀ uid ∈ owner, a.uid = uid

/-- Only the attributes of the folder itself may differ. -/
def SameFiles (d d' : UserFolder) : Prop := ∃ self, d' = { d with self := self }

section Owned

variable {d d' : UserFolder} {name : String} {A : Set (Option (File FileAttributes))} {user : ℕ}
  {owner : Option ℕ}

theorem owned_of_self {mode : ℕ} (h : d.self = some ⟨.directory, user, mode⟩) :
    Owned (some user) d := by
  intro a ha
  obtain rfl := Option.some.inj (h.symm.trans ha)
  exact ⟨rfl, fun _ => Option.some.inj⟩

theorem SameFiles.refl (d : UserFolder) : SameFiles d d := ⟨d.self, rfl⟩

theorem SameFiles.trans {d'' : UserFolder} (h : SameFiles d d') (h' : SameFiles d' d'') :
    SameFiles d d'' := by
  obtain ⟨self, rfl⟩ := h
  obtain ⟨self', rfl⟩ := h'
  exact ⟨self', rfl⟩

theorem SameFiles.holds (h : SameFiles d d') (hA : d.Holds name A) : d'.Holds name A := by
  obtain ⟨self, rfl⟩ := h
  exact hA

theorem SameFiles.find (h : SameFiles d d') : d'.find name = d.find name := by
  obtain ⟨self, rfl⟩ := h
  rfl

theorem createDirAll_eq_some (h : createDirAll user d = some d') :
    SameFiles d d' ∧ d'.self.isSome ∧ (Owned owner d → (∀ uid ∈ owner, user = uid) → Owned owner d') := by
  unfold createDirAll at h
  split at h
  · obtain rfl := Option.some.inj h
    refine ⟨⟨_, rfl⟩, rfl, fun _ hself a ha => ?_⟩
    obtain rfl := Option.some.inj ha
    exact ⟨rfl, hself⟩
  · rename_i hself
    split at h
    · obtain rfl := Option.some.inj h
      exact ⟨.refl d, by rw [hself]; rfl, fun howned _ => howned⟩
    · cases h

theorem createDirAll_eq_none (h : createDirAll user d = none) : ¬Owned owner d := by
  intro howned
  unfold createDirAll at h
  split at h
  · cases h
  · rename_i a hself
    rw [if_pos (.inl (howned a hself).1)] at h
    cases h

theorem setPermissions_eq_some {mode : ℕ} (h : setPermissions mode d = some d') :
    SameFiles d d' := by
  unfold setPermissions at h
  obtain ⟨a, -, rfl⟩ := Option.map_eq_some_iff.1 h
  exact ⟨_, rfl⟩

/-- Seeing to the folder touches no file, and fails where a command does or where the folder is
not the owner's. -/
theorem ensureFolder_ensures {texts : FolderTexts ε} {r : Regime UserFolder} {m : μ}
    (huser : ∀ uid ∈ owner, user = uid) (hr : ∀ e, SameFiles d e.state → r.keeps e) :
    Ensures r d m (ensureFolder texts user owner) (fun _ d' _ => SameFiles d d')
      (fun d' _ => SameFiles d d' ∧ (r.mayFail ∨ ¬Owned owner d)) := by
  refine Ensures.bind
    (Q := fun _ d' _ => SameFiles d d' ∧ d'.self.isSome ∧ (Owned owner d → Owned owner d'))
    (Ensures.command (fun hfail _ => ?_) fun d1 hcreate _ => ?_) ?_
  · exact ⟨hr _ (.refl d), .refl d, hfail.imp_right createDirAll_eq_none⟩
  · obtain ⟨hsame, hself, howned⟩ := createDirAll_eq_some hcreate
    exact ⟨hr _ hsame, hsame, hself, fun h => howned h huser⟩
  rintro - d1 m1 ⟨hsame, hself, howned⟩
  refine Ensures.bind (Q := fun a d' _ => d' = d1 ∧ d1.self = some a)
    (Ensures.inspectSome (fun hfail _ => ?_) (fun hnone _ => ?_) fun a ha _ => ?_) ?_
  · exact ⟨hr _ hsame, hsame, .inl hfail⟩
  · rw [hnone] at hself
    cases hself
  · exact ⟨hr _ hsame, rfl, ha⟩
  rintro a d2 m2 ⟨rfl, ha⟩
  refine Ensures.bind (Q := fun _ d' _ => d' = d2)
    (demand_ensures (fun _ => rfl) fun hforeign => ?_) ?_
  · exact ⟨hsame, .inr fun h => hforeign (howned h a ha)⟩
  rintro - d3 m3 rfl
  refine Ensures.command (fun hfail _ => ?_) fun d4 hmode _ => ?_
  · refine ⟨hr _ hsame, hsame, .inl (hfail.resolve_right fun hnone => ?_)⟩
    rw [setPermissions, ha] at hnone
    cases hnone
  · have hend := hsame.trans (setPermissions_eq_some hmode)
    exact ⟨hr _ hend, hend⟩

end Owned

/-! ## A private file -/

/-- Where reading a file can fail. -/
structure ReadTexts (ε : Type) where
  openFile : ε
  inspect : ε
  tooLarge : ε
  read : ε

/-- Where writing one can. -/
structure StoreTexts (ε : Type) extends ReplaceTexts ε where
  tooLarge : ε
  clock : ε

section Private

variable {β : Type}

/-- How a file is read: where that can fail, how its attributes are checked, how large it may
be and what is made of its bytes. -/
structure Reader (ε β : Type) extends ReadTexts ε where
  validate : FileAttributes → Except ε Unit
  limit : ℕ
  decode : List UInt8 → Except ε β

/-- What is made of a file that is read undisturbed. -/
def Reader.contents (reader : Reader ε β) (file : File FileAttributes) : Except ε β := do
  reader.validate file.attributes
  if file.bytes.length ≤ reader.limit then reader.decode file.bytes else .error reader.tooLarge

/-- What is made of a file that may be missing; links are not followed. -/
def Reader.found (reader : Reader ε β) : Option (File FileAttributes) → Except ε (Option β)
  | none => .ok none
  | some file =>
    if file.attributes.isSymlink then .error reader.openFile else (reader.contents file).map some

/-- Read a file that was opened, never further than the limit. -/
def readOpened (reader : Reader ε β) (file : File FileAttributes) : Program UserFolder μ ε β := do
  let metadata ← inspect reader.inspect fun _ => file.attributes
  ofExcept (reader.validate metadata)
  demand (file.bytes.length ≤ reader.limit) reader.tooLarge
  let bytes ← inspect reader.read fun _ => file.bytes.take (reader.limit + 1)
  demand (bytes.length ≤ reader.limit) reader.tooLarge
  ofExcept (reader.decode bytes)

/-- Load a file that may be missing. -/
def loadFile (reader : Reader ε β) (name : String) : Program UserFolder μ ε (Option β) := do
  match ← inspect reader.openFile fun d : UserFolder => d.find name with
  | none => return none
  | some file => do
    demand (!file.attributes.isSymlink) reader.openFile
    let value ← readOpened reader file
    return some value

/-- Replace a file by way of a temporary one, which has its name of the clock: there is none
before the epoch. -/
def storeFile (texts : StoreTexts ε) (limit : ℕ) (temporary : ℕ → String) (name : String)
    (attributes : FileAttributes) (bytes : List UInt8) (clock : Option ℕ) :
    Program UserFolder μ ε Unit := do
  demand (bytes.length ≤ limit) texts.tooLarge
  match clock with
  | none => fail texts.clock
  | some nonce => replaceFile texts.toReplaceTexts (temporary nonce) name attributes bytes

/-- The name stands for what it did, or for the next file if that may be put there. -/
structure Leaves (name : String) (next : Option (File FileAttributes)) (may : Prop)
    (d d' : UserFolder) : Prop where
  holds : ∀ A, d.Holds name A → d'.Holds name (A ∪ { file | may ∧ file = next })
  find : ∀ A, d.Holds name A → d'.find name = d.find name ∨ may ∧ d'.find name = next

variable {d d' d'' : UserFolder} {name : String} {next : Option (File FileAttributes)} {may : Prop}
  {A : Set (Option (File FileAttributes))} {m : μ}

theorem SameFiles.leaves (h : SameFiles d d') : Leaves name next may d d' :=
  ⟨fun _ hA => (h.holds hA).mono Set.subset_union_left, fun _ _ => .inl h.find⟩

theorem SameFiles.leaves_trans (h : SameFiles d d') (h' : Leaves name next may d' d'') :
    Leaves name next may d d'' :=
  ⟨fun A hA => h'.holds A (h.holds hA), fun A hA => h.find ▸ h'.find A (h.holds hA)⟩

theorem Folder.Replacing.leaves {temporary : String} {file : File FileAttributes}
    (h : Folder.Replacing temporary name file d d') (hmay : may) :
    Leaves name (some file) may d d' where
  holds A hA := (h.holds A hA).mono (Set.insert_subset (.inr ⟨hmay, rfl⟩) Set.subset_union_left)
  find A hA := (h.find A hA).imp_right fun hfind => ⟨hmay, hfind⟩

/-- However it is interrupted, storing a file leaves the one of before or, unless it is too
large, the new one; and the new one once it returned. -/
theorem storeFile_ensures {texts : StoreTexts ε} {limit : ℕ} {temporary : ℕ → String}
    {attributes : FileAttributes} {bytes : List UInt8} {clock : Option ℕ}
    (hne : ∀ nonce, name ≠ temporary nonce) (hA : d.Holds name A) :
    Ensures (always fun e => Leaves name (some ⟨attributes, bytes⟩) (bytes.length ≤ limit) d e.state)
      d m (storeFile texts limit temporary name attributes bytes clock)
      (fun _ d' _ => bytes.length ≤ limit ∧ d'.Holds name {some ⟨attributes, bytes⟩})
      (fun d' _ => Leaves name (some ⟨attributes, bytes⟩) (bytes.length ≤ limit) d d') := by
  refine Ensures.bind (Q := fun _ d' _ => d' = d ∧ bytes.length ≤ limit)
    (demand_ensures (fun hfits => ⟨rfl, hfits⟩) fun _ => (SameFiles.refl d).leaves) ?_
  rintro - d1 m1 ⟨rfl, hfits⟩
  cases clock with
  | none => exact Ensures.fail (SameFiles.refl d1).leaves
  | some nonce =>
    exact ensures_weaken (replaceFile_ensures (hne nonce) hA) (fun _ he => he.leaves hfits)
      (fun _ _ _ h => ⟨hfits, h.2⟩) fun _ _ h => h.leaves hfits

variable {r : Regime UserFolder} {reader : Reader ε β}

/-- Reading a file makes of it what there is to make, unless a command fails. -/
theorem readOpened_ensures {file : File FileAttributes} (hr : ∀ failed, r.keeps ⟨d, failed⟩) :
    Ensures r d m (readOpened reader file)
      (fun b d' _ => d' = d ∧ reader.contents file = .ok b)
      (fun d' _ => d' = d ∧ (r.mayFail ∨ ∃ e, reader.contents file = .error e)) := by
  refine Ensures.bind (Q := fun metadata d' _ => d' = d ∧ metadata = file.attributes)
    (Ensures.inspect (fun hmay _ => ⟨hr _, rfl, .inl hmay⟩) fun _ => ⟨hr _, rfl, rfl⟩) ?_
  rintro - d1 m1 ⟨rfl, rfl⟩
  refine Ensures.bind (Q := fun _ d' _ => d' = d1 ∧ reader.validate file.attributes = .ok ())
    (ofExcept_ensures (fun _ hvalid => ⟨rfl, hvalid⟩) fun e he => ⟨rfl, .inr ⟨e, ?_⟩⟩) ?_
  · rw [Reader.contents, he]
    rfl
  rintro - d2 m2 ⟨rfl, hvalid⟩
  have hcontents : reader.contents file = if file.bytes.length ≤ reader.limit then
      reader.decode file.bytes else .error reader.tooLarge := by
    rw [Reader.contents, hvalid]
    rfl
  refine Ensures.bind (Q := fun _ d' _ => d' = d2 ∧ file.bytes.length ≤ reader.limit)
    (demand_ensures (fun hfits => ⟨rfl, hfits⟩) fun hno => ⟨rfl, .inr ⟨reader.tooLarge, ?_⟩⟩) ?_
  · rw [hcontents, if_neg hno]
  rintro - d3 m3 ⟨rfl, hfits⟩
  rw [hcontents, if_pos hfits]
  have htake : file.bytes.take (reader.limit + 1) = file.bytes :=
    List.take_of_length_le (hfits.trans (Nat.le_succ _))
  refine Ensures.bind (Q := fun bytes d' _ => d' = d3 ∧ bytes = file.bytes)
    (Ensures.inspect (fun hmay _ => ⟨hr _, rfl, .inl hmay⟩) fun _ => ⟨hr _, rfl, htake⟩) ?_
  rintro - d4 m4 ⟨rfl, rfl⟩
  refine Ensures.bind (Q := fun _ d' _ => d' = d4)
    (demand_ensures (fun _ => rfl) fun hno => absurd hfits hno) ?_
  rintro - d5 m5 rfl
  exact ofExcept_ensures (fun b hb => ⟨rfl, hb⟩) fun e he => ⟨rfl, .inr ⟨e, he⟩⟩

/-- A load makes of the file what there is to make, and nothing of no file. -/
theorem loadFile_ensures (hr : ∀ failed, r.keeps ⟨d, failed⟩) :
    Ensures r d m (loadFile reader name)
      (fun v d' _ => d' = d ∧ reader.found (d.find name) = .ok v)
      (fun d' _ => d' = d ∧ (r.mayFail ∨ ∃ e, reader.found (d.find name) = .error e)) := by
  refine Ensures.bind (Q := fun found d' _ => d' = d ∧ found = d.find name)
    (Ensures.inspect (fun hmay _ => ⟨hr _, rfl, .inl hmay⟩) fun _ => ⟨hr _, rfl, rfl⟩) ?_
  rintro - d1 m1 ⟨rfl, rfl⟩
  cases hfile : d1.find name with
  | none => exact Ensures.pure ⟨rfl, rfl⟩
  | some file =>
    cases hlink : file.attributes.isSymlink with
    | true =>
      refine Ensures.bind (Q := fun _ _ _ => False) (demand_ensures (fun h => ?_)
        fun _ => ⟨rfl, .inr ⟨reader.openFile, ?_⟩⟩) fun _ _ _ h => absurd h id
      · rw [hlink] at h
        cases h
      · rw [Reader.found, hlink, if_pos rfl]
    | false =>
      have hfound : reader.found (some file) = (reader.contents file).map some := by
        rw [Reader.found, hlink]
        rfl
      refine Ensures.bind (Q := fun _ d' _ => d' = d1)
        (demand_ensures (fun _ => rfl) fun hno => absurd (by rw [hlink]; rfl) hno) ?_
      rintro - d2 m2 rfl
      refine Ensures.bind ((readOpened_ensures hr).conseq (fun _ _ _ h => h) fun d' _ h => ?_) ?_
      · refine ⟨h.1, h.2.imp_right fun ⟨e, he⟩ => ⟨e, ?_⟩⟩
        rw [hfound, he]
        rfl
      · rintro b d3 m3 ⟨rfl, hb⟩
        refine Ensures.pure ⟨rfl, ?_⟩
        rw [hfound, hb]
        rfl

/-- Undisturbed, a load returns what there is to make of the file. -/
theorem loadFile_undisturbed {v : Option β} :
    (loadFile reader name (quiet d m)).result = .ok v ↔ reader.found (d.find name) = .ok v := by
  have hensures : Ensures ⟨False, fun _ => True, fun _ => True⟩ d m (loadFile reader name) _ _ :=
    loadFile_ensures fun _ => trivial
  obtain ⟨-, -, hpost⟩ := hensures (fun _ => false) (fun _ h => by cases h) fun _ _ => trivial
  cases hresult : (loadFile reader name (quiet d m)).result with
  | ok v' =>
    rw [show (loadFile reader name ⟨d, m, fun _ => false⟩).result = .ok v' from hresult] at hpost
    rw [hpost.2]
  | error e =>
    rw [show (loadFile reader name ⟨d, m, fun _ => false⟩).result = .error e from hresult] at hpost
    obtain ⟨e', he'⟩ := hpost.2.resolve_left id
    rw [he']
    constructor <;> (intro h; cases h)

end Private

/-! ## Undisturbed runs -/

section Undisturbed

variable {d : UserFolder} {m : μ} {user : ℕ} {owner : Option ℕ}

/-- The folder once it was seen to. -/
def ensured (user : ℕ) (d : UserFolder) : UserFolder :=
  { d with self := some { d.self.getD ⟨.directory, user, 0o755⟩ with mode := 0o700 } }

theorem ensureFolder_does (texts : FolderTexts ε) (huser : ∀ uid ∈ owner, user = uid)
    (howned : Owned owner d) :
    Does (ensureFolder texts user owner : Program UserFolder μ ε Unit) d m () (ensured user d) := by
  let attributes : FileAttributes := d.self.getD ⟨.directory, user, 0o755⟩
  let created : UserFolder := { d with self := some attributes }
  have hcreate : createDirAll user d = some created := by
    rcases d with ⟨_ | a, nodes, synced, entry, earlier, fresh⟩
    · rfl
    · exact if_pos (.inl (howned a rfl).1)
  have hreal : attributes.kind = .directory ∧ ∀ uid ∈ owner, attributes.uid = uid := by
    cases hself : d.self with
    | none => simpa [attributes, hself] using huser
    | some a => simpa [attributes, hself] using howned a hself
  have hread : Gives (inspectSome texts.inspect texts.inspect Folder.self :
      Program UserFolder μ ε FileAttributes) created m (.ok attributes) :=
    gives_inspectSome _ _ _
  exact (does_command _ hcreate).bind (hread.does.bind
    ((gives_demand_pos hreal _).does.bind (does_command _ rfl)))

variable {texts : StoreTexts ε} {limit nonce : ℕ} {temporary : ℕ → String} {name : String}
  {attributes : FileAttributes} {bytes : List UInt8}

theorem storeFile_does (hfits : bytes.length ≤ limit) (hfree : d.entry (temporary nonce) = none) :
    Does (storeFile texts limit temporary name attributes bytes (some nonce) :
        Program UserFolder μ ε Unit) d m ()
      (d.replaced (temporary nonce) name ⟨attributes, bytes⟩).settled :=
  (gives_demand_pos hfits _).does.bind (replaceFile_does hfree)

theorem storeFile_passes (hfits : bytes.length ≤ limit)
    (hfree : d.entry (temporary nonce) = none) :
    Passes (storeFile texts limit temporary name attributes bytes (some nonce) :
        Program UserFolder μ ε Unit) d m
      (d.replaced (temporary nonce) name ⟨attributes, bytes⟩) :=
  (gives_demand_pos hfits _).does.bind_passes (replaceFile_passes hfree)

end Undisturbed

end Files
