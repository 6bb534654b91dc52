import RouteLane.Lib.Checks

/-!
# Files that are replaced

A folder as the processes see it, and what may be left of it when the power is lost: of a
file its contents only if they were synced, and of a name any of the files it stood for
since the folder was synced.  Who replaces a file writes a new one beside it, syncs that,
gives it the name and syncs the folder; then the name stands for the old file or for the
new one wherever this is interrupted, and for the new one when it is done.
-/

namespace Files

open Faults Program

variable {δ α μ ε : Type}

structure File (α : Type) where
  attributes : α
  bytes : List UInt8
  deriving DecidableEq, Repr

/-- A folder: names stand for nodes, and nodes have files. -/
structure Folder (δ α : Type) where
  /-- The attributes of the folder itself, where it is there. -/
  self : Option δ
  nodes : ℕ → Option (File α)
  /-- The file of the node is on disk as processes see it. -/
  synced : ℕ → Bool
  entry : String → Option ℕ
  /-- What the name stood for since the folder was synced, and may still stand for on disk. -/
  earlier : String → List (Option ℕ)
  /-- The first node that was never used. -/
  fresh : ℕ

namespace Folder

def empty (self : Option δ) : Folder δ α where
  self := self
  nodes _ := none
  synced _ := true
  entry _ := none
  earlier _ := []
  fresh := 0

/-- The file a name stands for. -/
def find (d : Folder δ α) (name : String) : Option (File α) := (d.entry name).bind d.nodes

/-! ## What processes do -/

/-- Let a name stand for something else. -/
def link (d : Folder δ α) (name : String) (node : Option ℕ) : Folder δ α :=
  { d with entry := Function.update d.entry name node
           earlier := Function.update d.earlier name (d.entry name :: d.earlier name) }

/-- Make an empty file under a name that stands for none. -/
def createNew (name : String) (attributes : α) (d : Folder δ α) : Option (Folder δ α) :=
  if (d.entry name).isSome then none
  else some
    (link { d with nodes := Function.update d.nodes d.fresh (some ⟨attributes, []⟩)
                   synced := Function.update d.synced d.fresh false
                   fresh := d.fresh + 1 } name (some d.fresh))

/-- Append to the file a name stands for. -/
def append (name : String) (byte : UInt8) (d : Folder δ α) : Option (Folder δ α) := do
  let node ← d.entry name
  let file ← d.nodes node
  return { d with nodes := Function.update d.nodes node
                    (some { file with bytes := file.bytes ++ [byte] })
                  synced := Function.update d.synced node false }

/-- `fsync` of a file. -/
def syncFile (name : String) (d : Folder δ α) : Option (Folder δ α) := do
  let node ← d.entry name
  return { d with synced := Function.update d.synced node true }

def rename (old new : String) (d : Folder δ α) : Option (Folder δ α) := do
  let node ← d.entry old
  return (d.link new (some node)).link old none

def remove (name : String) (d : Folder δ α) : Option (Folder δ α) :=
  if (d.entry name).isSome then some (d.link name none) else none

/-- `fsync` of the folder. -/
def syncFolder (d : Folder δ α) : Option (Folder δ α) := some { d with earlier := fun _ => [] }

/-- The power is lost, and comes back; the folder itself was on disk before. -/
structure Lost (d d' : Folder δ α) : Prop where
  self : d'.self = d.self
  entry : ∀ name, d'.entry name ∈ d.entry name :: d.earlier name
  earlier : ∀ name, d'.earlier name = []
  nodes : ∀ node, d.synced node = true → d'.nodes node = d.nodes node
  synced : ∀ node, d'.synced node = true
  fresh : d'.fresh = d.fresh

/-- What is left if nothing came to the disk after the folder was last synced. -/
def reverted (d : Folder δ α) : Folder δ α where
  self := d.self
  nodes node := if d.synced node then d.nodes node else none
  synced _ := true
  entry name := (d.entry name :: d.earlier name).getLast (List.cons_ne_nil _ _)
  earlier _ := []
  fresh := d.fresh

theorem lost_reverted (d : Folder δ α) : d.Lost d.reverted where
  self := rfl
  entry _ := List.getLast_mem _
  earlier _ := rfl
  nodes _ hsynced := if_pos hsynced
  synced _ := rfl
  fresh := rfl

/-! ## What a name may stand for -/

/-- Whatever the name may stand for is on disk, and in `A`. -/
def Holds (d : Folder δ α) (name : String) (A : Set (Option (File α))) : Prop :=
  ∀ node ∈ d.entry name :: d.earlier name, node.bind d.nodes ∈ A ∧
    ∀ i, node = some i → i < d.fresh ∧ d.synced i = true

variable {d d' d'' : Folder δ α} {name old new : String} {A B : Set (Option (File α))}

theorem holds_empty (self : Option δ) : (empty self : Folder δ α).Holds name {none} := by
  intro node hnode
  obtain rfl := List.mem_singleton.1 hnode
  exact ⟨rfl, fun i hi => by cases hi⟩

theorem Holds.mono (h : d.Holds name A) (hAB : A ⊆ B) : d.Holds name B := fun node hnode =>
  ⟨hAB (h node hnode).1, (h node hnode).2⟩

theorem Holds.find_mem (h : d.Holds name A) : d.find name ∈ A := (h _ List.mem_cons_self).1

/-- Nothing is lost of a name but that it may stand for something earlier again. -/
theorem Holds.lost (h : d.Holds name A) (hlost : d.Lost d') : d'.Holds name A := by
  intro node hnode
  rw [hlost.earlier, List.mem_singleton] at hnode
  obtain ⟨hmem, hdisk⟩ := h (d'.entry name) (hlost.entry name)
  rw [hnode]
  constructor
  · cases hentry : d'.entry name with
    | none => rwa [hentry] at hmem
    | some i =>
      rw [hentry] at hmem
      rw [Option.bind_some, hlost.nodes i (hdisk i hentry).2]
      exact hmem
  · intro i hi
    rw [hlost.fresh]
    exact ⟨(hdisk i hi).1, hlost.synced i⟩

/-- Only one name was touched, and no file that was there before. -/
structure Beside (temporary : String) (d d' : Folder δ α) : Prop where
  entry : ∀ name, name ≠ temporary → d'.entry name = d.entry name
  earlier : ∀ name, name ≠ temporary → d'.earlier name = d.earlier name
  nodes : ∀ node, node < d.fresh → d'.nodes node = d.nodes node
  synced : ∀ node, node < d.fresh → d.synced node = true → d'.synced node = true
  fresh : d.fresh ≤ d'.fresh
  self : d'.self = d.self

theorem Beside.refl (temporary : String) (d : Folder δ α) : Beside temporary d d where
  entry _ _ := rfl
  earlier _ _ := rfl
  nodes _ _ := rfl
  synced _ _ h := h
  fresh := le_rfl
  self := rfl

theorem Beside.trans {temporary : String} (h : Beside temporary d d')
    (h' : Beside temporary d' d'') : Beside temporary d d'' where
  entry name hname := (h'.entry name hname).trans (h.entry name hname)
  earlier name hname := (h'.earlier name hname).trans (h.earlier name hname)
  nodes node hnode := (h'.nodes node (hnode.trans_le h.fresh)).trans (h.nodes node hnode)
  synced node hnode hsynced :=
    h'.synced node (hnode.trans_le h.fresh) (h.synced node hnode hsynced)
  fresh := h.fresh.trans h'.fresh
  self := h'.self.trans h.self

theorem Holds.beside {temporary : String} (h : d.Holds name A) (hname : name ≠ temporary)
    (hbeside : Beside temporary d d') : d'.Holds name A := by
  intro node hnode
  rw [hbeside.entry name hname, hbeside.earlier name hname] at hnode
  obtain ⟨hmem, hdisk⟩ := h node hnode
  constructor
  · cases node with
    | none => exact hmem
    | some i =>
      rw [Option.bind_some, hbeside.nodes i (hdisk i rfl).1]
      exact hmem
  · intro i hi
    obtain ⟨hlt, hsynced⟩ := hdisk i hi
    exact ⟨hlt.trans_le hbeside.fresh, hbeside.synced i hlt hsynced⟩

theorem Beside.find {temporary : String} (h : Beside temporary d d') (hname : name ≠ temporary)
    (hdisk : d.Holds name A) : d'.find name = d.find name := by
  rw [Folder.find, h.entry name hname, Folder.find]
  cases hentry : d.entry name with
  | none => rfl
  | some i =>
    have hlt := ((hdisk (d.entry name) List.mem_cons_self).2 i hentry).1
    rw [Option.bind_some, Option.bind_some, h.nodes i hlt]

/-- The name stands for this file, which is on disk. -/
def OnDisk (d : Folder δ α) (name : String) (file : File α) : Prop :=
  ∃ node, d.entry name = some node ∧ node < d.fresh ∧ d.synced node = true ∧
    d.nodes node = some file

theorem OnDisk.beside {temporary : String} {file : File α} (h : d.OnDisk name file)
    (hname : name ≠ temporary) (hbeside : Beside temporary d d') : d'.OnDisk name file := by
  obtain ⟨node, hentry, hlt, hsynced, hfile⟩ := h
  exact ⟨node, (hbeside.entry name hname).trans hentry, hlt.trans_le hbeside.fresh,
    hbeside.synced node hlt hsynced, (hbeside.nodes node hlt).trans hfile⟩

/-- The name stands for a file written since. -/
def Written (d d' : Folder δ α) (name : String) (file : File α) : Prop :=
  ∃ node, d'.entry name = some node ∧ d.fresh ≤ node ∧ node < d'.fresh ∧
    d'.nodes node = some file

theorem entry_link_of_ne {other : String} (h : other ≠ name) (node : Option ℕ) :
    (d.link name node).entry other = d.entry other := Function.update_of_ne h _ _

theorem earlier_link_of_ne {other : String} (h : other ≠ name) (node : Option ℕ) :
    (d.link name node).earlier other = d.earlier other := Function.update_of_ne h _ _

theorem entry_link (node : Option ℕ) : (d.link name node).entry name = node :=
  Function.update_self _ _ _

theorem earlier_link (node : Option ℕ) :
    (d.link name node).earlier name = d.entry name :: d.earlier name := Function.update_self _ _ _

/-- A name that is let stand for something on disk may still stand for what it did. -/
theorem Holds.link (h : d.Holds name A) {node : Option ℕ} (hmem : node.bind d.nodes ∈ A)
    (hdisk : ∀ i, node = some i → i < d.fresh ∧ d.synced i = true) :
    (d.link name node).Holds name A := by
  intro other hother
  rw [entry_link, earlier_link] at hother
  rcases List.mem_cons.1 hother with rfl | hother
  · exact ⟨hmem, hdisk⟩
  · exact h other hother

theorem Holds.link_of_ne {other : String} (h : d.Holds name A) (hne : name ≠ other)
    (node : Option ℕ) : (d.link other node).Holds name A := by
  intro same hsame
  rw [entry_link_of_ne hne, earlier_link_of_ne hne] at hsame
  exact h same hsame

theorem find_link_of_ne {other : String} (hne : name ≠ other) (node : Option ℕ) :
    (d.link other node).find name = d.find name := by
  rw [Folder.find, entry_link_of_ne hne]
  rfl

theorem find_link (node : Option ℕ) : (d.link name node).find name = node.bind d.nodes := by
  rw [Folder.find, entry_link]
  rfl

/-! ## What the commands do -/

theorem createNew_eq_some {attributes : α} (h : createNew name attributes d = some d') :
    Beside name d d' ∧ Written d d' name ⟨attributes, []⟩ := by
  unfold createNew at h
  split at h
  · cases h
  obtain rfl := Option.some.inj h
  constructor
  · refine ⟨fun _ => (entry_link_of_ne · _), fun _ => (earlier_link_of_ne · _), ?_, ?_,
      Nat.le_succ _, rfl⟩
    · intro node hnode
      exact Function.update_of_ne hnode.ne _ _
    · intro node hnode hsynced
      exact (Function.update_of_ne hnode.ne _ _).trans hsynced
  · exact ⟨d.fresh, entry_link _, le_rfl, Nat.lt_succ_self _, Function.update_self _ _ _⟩

theorem append_eq_some {byte : UInt8} {file : File α} (hbeside : Beside name d d')
    (hwritten : Written d d' name file) (h : append name byte d' = some d'') :
    Beside name d d'' ∧ Written d d'' name { file with bytes := file.bytes ++ [byte] } := by
  obtain ⟨node, hentry, hold, hlt, hfile⟩ := hwritten
  unfold append at h
  rw [hentry, Option.bind_eq_bind, Option.bind_some, hfile] at h
  obtain rfl := Option.some.inj h
  constructor
  · refine ⟨hbeside.entry, hbeside.earlier, ?_, ?_, hbeside.fresh, hbeside.self⟩
    · intro other hother
      exact (Function.update_of_ne (hother.trans_le hold).ne _ _).trans (hbeside.nodes other hother)
    · intro other hother hsynced
      exact (Function.update_of_ne (hother.trans_le hold).ne _ _).trans
        (hbeside.synced other hother hsynced)
  · exact ⟨node, hentry, hold, hlt, Function.update_self _ _ _⟩

theorem syncFile_eq_some {file : File α} (hbeside : Beside name d d')
    (hwritten : Written d d' name file) (h : syncFile name d' = some d'') :
    Beside name d d'' ∧ d''.OnDisk name file := by
  obtain ⟨node, hentry, hold, hlt, hfile⟩ := hwritten
  unfold syncFile at h
  rw [hentry, Option.bind_eq_bind, Option.bind_some] at h
  obtain rfl := Option.some.inj h
  constructor
  · refine ⟨hbeside.entry, hbeside.earlier, hbeside.nodes, ?_, hbeside.fresh, hbeside.self⟩
    intro other hother hsynced
    exact (Function.update_of_ne (hother.trans_le hold).ne _ _).trans
      (hbeside.synced other hother hsynced)
  · exact ⟨node, hentry, hlt, Function.update_self _ _ _, hfile⟩

theorem remove_eq_some (h : remove name d = some d') : d' = d.link name none := by
  unfold remove at h
  split at h
  · exact (Option.some.inj h).symm
  · cases h

theorem beside_link (temporary : String) (node : Option ℕ) :
    Beside temporary d (d.link temporary node) where
  entry _ h := entry_link_of_ne h node
  earlier _ h := earlier_link_of_ne h node
  nodes _ _ := rfl
  synced _ _ h := h
  fresh := le_rfl
  self := rfl

theorem Holds.syncFolder (h : d.Holds name A) (hsync : syncFolder d = some d') :
    d'.Holds name {d.find name} := by
  obtain rfl := Option.some.inj hsync
  intro node hnode
  obtain rfl := List.mem_singleton.1 hnode
  exact ⟨rfl, (h _ List.mem_cons_self).2⟩

/-- A file beside it is on its way to the name: the name stands for what it did, or for that
file, and every other name for what it did. -/
structure Replacing (temporary name : String) (file : File α) (d d' : Folder δ α) : Prop where
  holds : ∀ A, d.Holds name A → d'.Holds name (insert (some file) A)
  find : ∀ A, d.Holds name A → d'.find name = d.find name ∨ d'.find name = some file
  others : ∀ other A, other ≠ temporary → other ≠ name → d.Holds other A →
    d'.Holds other A ∧ d'.find other = d.find other
  disk : ∀ other file', other ≠ temporary → other ≠ name → d.OnDisk other file' →
    d'.OnDisk other file'
  self : d'.self = d.self

variable {temporary : String} {file : File α}

theorem Beside.replacing (h : Beside temporary d d') (hne : name ≠ temporary) :
    Replacing temporary name file d d' where
  holds _ hA := (hA.beside hne h).mono (Set.subset_insert _ _)
  find _ hA := .inl (h.find hne hA)
  others _ _ hother _ hA := ⟨hA.beside hother h, h.find hother hA⟩
  disk _ _ hother _ hdisk := hdisk.beside hother h
  self := h.self

theorem Replacing.beside (h : Replacing temporary name file d d') (hne : name ≠ temporary)
    (hbeside : Beside temporary d' d'') : Replacing temporary name file d d'' where
  holds A hA := (h.holds A hA).beside hne hbeside
  find A hA := by
    rw [hbeside.find hne (h.holds A hA)]
    exact h.find A hA
  others other A hother hname hA := by
    obtain ⟨hholds, hfind⟩ := h.others other A hother hname hA
    exact ⟨hholds.beside hother hbeside, (hbeside.find hother hholds).trans hfind⟩
  disk other file' hother hname hdisk := (h.disk other file' hother hname hdisk).beside hother hbeside
  self := hbeside.self.trans h.self

theorem OnDisk.link_of_ne {other : String} (h : d.OnDisk name file) (hne : name ≠ other)
    (node : Option ℕ) : (d.link other node).OnDisk name file := by
  obtain ⟨i, hentry, hrest⟩ := h
  exact ⟨i, (entry_link_of_ne hne node).trans hentry, hrest⟩

/-- Renaming a file that is on disk replaces the file of the name. -/
theorem replacing_rename (hbeside : Beside temporary d d') (hne : name ≠ temporary)
    (hdisk : d'.OnDisk temporary file) (h : rename temporary name d' = some d'') :
    Replacing temporary name file d d'' ∧ d''.find name = some file := by
  obtain ⟨node, hentry, hlt, hsynced, hfile⟩ := hdisk
  unfold rename at h
  rw [hentry, Option.bind_eq_bind, Option.bind_some] at h
  obtain rfl := Option.some.inj h
  have hmem : (some node).bind d'.nodes = some file := hfile
  have hfind : ((d'.link name (some node)).link temporary none).find name = some file := by
    rw [find_link_of_ne hne, find_link, hmem]
  refine ⟨⟨fun A hA => ?_, fun _ _ => .inr hfind, fun other A hother hname hA => ?_,
    fun other file' hother hname hdisk => ?_, hbeside.self⟩, hfind⟩
  · have hA' := (hA.beside hne hbeside).mono (Set.subset_insert (some file) A)
    have hdisk : ∀ i, some node = some i → i < d'.fresh ∧ d'.synced i = true := by
      rintro i hi
      obtain rfl := Option.some.inj hi
      exact ⟨hlt, hsynced⟩
    exact (hA'.link (hmem ▸ Set.mem_insert _ _) hdisk).link_of_ne hne none
  · refine ⟨((hA.beside hother hbeside).link_of_ne hname _).link_of_ne hother none, ?_⟩
    rw [find_link_of_ne hother, find_link_of_ne hname, hbeside.find hother hA]
  · exact ((hdisk.beside hother hbeside).link_of_ne hname _).link_of_ne hother none

theorem Replacing.syncFolder (h : Replacing temporary name file d d')
    (hsync : syncFolder d' = some d'') : Replacing temporary name file d d'' := by
  have hkeeps : ∀ other A, d'.Holds other A → d''.Holds other A := fun other A hA =>
    (hA.syncFolder hsync).mono (Set.singleton_subset_iff.2 hA.find_mem)
  refine ⟨fun A hA => hkeeps _ _ (h.holds A hA), fun A hA => ?_,
    fun other A hother hname hA => ⟨hkeeps _ _ (h.others other A hother hname hA).1, ?_⟩,
    fun other file' hother hname hdisk => ?_, ?_⟩
  · obtain rfl := Option.some.inj hsync
    exact h.find A hA
  · obtain rfl := Option.some.inj hsync
    exact (h.others other A hother hname hA).2
  · obtain rfl := Option.some.inj hsync
    exact h.disk other file' hother hname hdisk
  · obtain rfl := Option.some.inj hsync
    exact h.self

end Folder

/-! ## Programs -/

open Folder

/-- Create a file, write it byte after byte and sync it. -/
def writeFile (create write sync : ε) (name : String) (attributes : α) (bytes : List UInt8) :
    Program (Folder δ α) μ ε Unit := do
  command create (createNew name attributes)
  forEach (fun byte => command write (append name byte)) bytes
  command sync (syncFile name)

/-- Whatever fails, a file is written beside the others. -/
theorem writeFile_ensures {create write sync : ε} {name : String} {attributes : α}
    {bytes : List UInt8} {d : Folder δ α} {m : μ} :
    Ensures (always fun e => Beside name d e.state) d m
      (writeFile create write sync name attributes bytes)
      (fun _ d' m' => m' = m ∧ Beside name d d' ∧ d'.OnDisk name ⟨attributes, bytes⟩)
      (fun d' m' => m' = m ∧ Beside name d d') := by
  refine Ensures.bind (Q := fun _ d' m' => m' = m ∧ Beside name d d' ∧
    Written d d' name ⟨attributes, []⟩) (Ensures.command ?_ ?_) ?_
  · exact fun _ _ => ⟨.refl name d, rfl, .refl name d⟩
  · intro d' hcreate _
    obtain ⟨hbeside, hwritten⟩ := createNew_eq_some hcreate
    exact ⟨hbeside, rfl, hbeside, hwritten⟩
  rintro - d1 m1 ⟨rfl, hbeside, hwritten⟩
  refine Ensures.bind (Ensures.forEach (J := fun done d' m' => m' = m1 ∧ Beside name d d' ∧
    Written d d' name ⟨attributes, done⟩) ?_ ⟨rfl, hbeside, hwritten⟩) ?_
  · rintro done byte rest - d2 m2 ⟨rfl, hbeside, hwritten⟩
    refine Ensures.command (fun _ _ => ⟨hbeside, rfl, hbeside⟩) fun d3 happend _ => ?_
    obtain ⟨hbeside, hwritten⟩ := append_eq_some hbeside hwritten happend
    exact ⟨hbeside, rfl, hbeside, hwritten⟩
  · rintro - d2 m2 ⟨rfl, hbeside, hwritten⟩
    refine Ensures.command (fun _ _ => ⟨hbeside, rfl, hbeside⟩) fun d3 hsync _ => ?_
    obtain ⟨hbeside, hsynced⟩ := syncFile_eq_some hbeside hwritten hsync
    exact ⟨hbeside, rfl, hbeside, hsynced⟩

/-- Where replacing a file can fail. -/
structure ReplaceTexts (ε : Type) where
  create : ε
  write : ε
  sync : ε
  replace : ε
  syncFolder : ε

section Replace

variable (texts : ReplaceTexts ε) (temporary name : String) (attributes : α) (bytes : List UInt8)

/-- Write a file beside another, give it the other's name and see that this stays so. -/
def replaceSteps : Program (Folder δ α) μ ε Unit := do
  writeFile texts.create texts.write texts.sync temporary attributes bytes
  command texts.replace (rename temporary name)
  command texts.syncFolder syncFolder

/-- Remove a file again where something fails. -/
def guarded (p : Program (Folder δ α) μ ε Unit) : Program (Folder δ α) μ ε Unit := do
  match ← attempt p with
  | .ok () => return ()
  | .error e => do
    let _ ← (attempt (command e (remove temporary)) : Program (Folder δ α) μ ε (Except ε Unit))
    fail e

/-- Replace a file; what was written is removed again where that fails. -/
def replaceFile : Program (Folder δ α) μ ε Unit :=
  guarded temporary (replaceSteps texts temporary name attributes bytes)

end Replace

section ReplaceRules

variable {texts : ReplaceTexts ε} {temporary name : String} {attributes : α}
  {bytes : List UInt8} {d : Folder δ α} {m : μ} {A : Set (Option (File α))}

theorem replaceSteps_ensures (hne : name ≠ temporary) (hA : d.Holds name A) :
    Ensures (always fun e => Replacing temporary name ⟨attributes, bytes⟩ d e.state) d m
      (replaceSteps texts temporary name attributes bytes)
      (fun _ d' _ => Replacing temporary name ⟨attributes, bytes⟩ d d' ∧
        d'.Holds name {some ⟨attributes, bytes⟩})
      (fun d' _ => Replacing temporary name ⟨attributes, bytes⟩ d d') := by
  refine Ensures.bind (ensures_weaken writeFile_ensures (fun e he => he.replacing hne)
    (fun _ _ _ h => h) fun d' _ h => h.2.replacing hne) ?_
  rintro - d1 m1 ⟨-, hbeside, hdisk⟩
  have hstart : Replacing temporary name ⟨attributes, bytes⟩ d d1 := hbeside.replacing hne
  refine Ensures.bind (Q := fun _ d' _ => Replacing temporary name ⟨attributes, bytes⟩ d d' ∧
    d'.find name = some ⟨attributes, bytes⟩)
    (Ensures.command (fun _ _ => ⟨hstart, hstart⟩) fun d2 hrename _ => ?_) ?_
  · obtain ⟨hreplacing, hfind⟩ := replacing_rename hbeside hne hdisk hrename
    exact ⟨hreplacing, hreplacing, hfind⟩
  · rintro - d2 m2 ⟨hreplacing, hfind⟩
    refine Ensures.command (fun _ _ => ⟨hreplacing, hreplacing⟩) fun d3 hsync _ => ?_
    refine ⟨hreplacing.syncFolder hsync, hreplacing.syncFolder hsync, ?_⟩
    rw [← hfind]
    exact (hreplacing.holds A hA).syncFolder hsync

/-- What a program keeps, it keeps with the file removed again, if that is no matter. -/
theorem guarded_ensures {J : Folder δ α → Prop} {p : Program (Folder δ α) μ ε Unit}
    {Q : Unit → Folder δ α → μ → Prop} (hJ : ∀ d', J d' → J (d'.link temporary none))
    (h : Ensures (always fun e => J e.state) d m p Q fun d' _ => J d') :
    Ensures (always fun e => J e.state) d m (guarded temporary p) Q fun d' _ => J d' := by
  refine Ensures.bind (Ensures.attempt h) ?_
  rintro (e | ⟨⟩) d1 m1 h
  · have hremove : Ensures (always fun e => J e.state) d1 m1 (command e (remove temporary))
        (fun _ d' _ => J d') (fun d' _ => J d') := by
      refine Ensures.command (fun _ _ => ⟨h, h⟩) fun d2 hremove _ => ?_
      rw [remove_eq_some hremove]
      exact ⟨hJ d1 h, hJ d1 h⟩
    refine Ensures.bind (Ensures.attempt hremove) ?_
    rintro (_ | _) d2 m2 hend <;> exact Ensures.fail hend
  · exact Ensures.pure h

/-- However it is interrupted, replacing a file leaves the old one or the new one under the
name; once it is done there is only the new one, power loss or not. -/
theorem replaceFile_ensures (hne : name ≠ temporary) (hA : d.Holds name A) :
    Ensures (always fun e => Replacing temporary name ⟨attributes, bytes⟩ d e.state) d m
      (replaceFile texts temporary name attributes bytes)
      (fun _ d' _ => Replacing temporary name ⟨attributes, bytes⟩ d d' ∧
        d'.Holds name {some ⟨attributes, bytes⟩})
      (fun d' _ => Replacing temporary name ⟨attributes, bytes⟩ d d') :=
  guarded_ensures (fun _ h => h.beside hne (beside_link temporary none))
    (replaceSteps_ensures hne hA)

end ReplaceRules

/-! ## Undisturbed runs -/

namespace Folder

/-- With a new file that is on disk. -/
def written (d : Folder δ α) (name : String) (file : File α) : Folder δ α :=
  link { d with nodes := Function.update d.nodes d.fresh (some file)
                synced := Function.update d.synced d.fresh true
                fresh := d.fresh + 1 } name (some d.fresh)

/-- With a file given another name. -/
def moved (d : Folder δ α) (old new : String) (node : ℕ) : Folder δ α :=
  (d.link new (some node)).link old none

/-- With everything in it on disk. -/
def settled (d : Folder δ α) : Folder δ α := { d with earlier := fun _ => [] }

variable {d : Folder δ α} {name temporary old new : String} {file : File α} {node : ℕ}

theorem entry_written : (d.written name file).entry name = some d.fresh := entry_link _

theorem rename_eq_moved (h : d.entry old = some node) :
    rename old new d = some (d.moved old new node) := by
  rw [rename, h]
  rfl

theorem beside_written : Beside name d (d.written name file) where
  entry _ h := entry_link_of_ne h _
  earlier _ h := earlier_link_of_ne h _
  nodes _ h := Function.update_of_ne h.ne _ _
  synced _ h hsynced := (Function.update_of_ne h.ne _ _).trans hsynced
  fresh := Nat.le_succ _
  self := rfl

end Folder

section Undisturbed

variable {d : Folder δ α} {m : μ} {temporary name : String} {attributes : α} {bytes : List UInt8}

theorem writeFile_does (create write sync : ε) (hfree : d.entry name = none) :
    Does (writeFile create write sync name attributes bytes : Program (Folder δ α) μ ε Unit) d m ()
      (d.written name ⟨attributes, bytes⟩) := by
  let state : List UInt8 → Folder δ α := fun done =>
    link { d with nodes := Function.update d.nodes d.fresh (some ⟨attributes, done⟩)
                  synced := Function.update d.synced d.fresh false
                  fresh := d.fresh + 1 } name (some d.fresh)
  have hentry (done : List UInt8) : (state done).entry name = some d.fresh := entry_link _
  have hcreate : createNew name attributes d = some (state []) := by
    rw [createNew, hfree]
    rfl
  have happend (done : List UInt8) (byte : UInt8) :
      append name byte (state done) = some (state (done ++ [byte])) := by
    have hfile : (state done).nodes d.fresh = some ⟨attributes, done⟩ := Function.update_self _ _ _
    rw [append, hentry, Option.bind_eq_bind, Option.bind_some, hfile]
    simp [state, link, Function.update_idem]
  have hsync : syncFile name (state bytes) = some (d.written name ⟨attributes, bytes⟩) := by
    rw [syncFile, hentry]
    simp [state, link, written, Function.update_idem]
  have hwrite : Does (forEach (fun byte => command write (append name byte)) bytes :
      Program (Folder δ α) μ ε Unit) (state []) m () (state bytes) :=
    does_forEach state fun done byte => does_command write (happend done byte)
  exact (does_command create hcreate).bind (hwrite.bind (does_command sync hsync))

theorem Does.guarded {p : Program (Folder δ α) μ ε Unit} {d' : Folder δ α}
    (h : Does p d m () d') : Does (Files.guarded temporary p) d m () d' :=
  h.attempt.bind (gives_pure ())

theorem Passes.guarded {p : Program (Folder δ α) μ ε Unit} {d' : Folder δ α}
    (h : Passes p d m d') : Passes (Files.guarded temporary p) d m d' :=
  h.attempt.bind _

/-- The folder once a file was replaced, and before it is synced. -/
def Folder.replaced (d : Folder δ α) (temporary name : String) (file : File α) : Folder δ α :=
  (d.written temporary file).moved temporary name d.fresh

theorem rename_written {file : File α} :
    rename temporary name (d.written temporary file) = some (d.replaced temporary name file) :=
  rename_eq_moved entry_written

theorem Folder.entry_replaced_of_ne {other : String} {file : File α} (hother : other ≠ temporary)
    (hname : other ≠ name) : (d.replaced temporary name file).entry other = d.entry other := by
  rw [replaced, moved, entry_link_of_ne hother, entry_link_of_ne hname, written,
    entry_link_of_ne hother]

variable {texts : ReplaceTexts ε}

theorem replaceFile_does (hfree : d.entry temporary = none) :
    Does (replaceFile texts temporary name attributes bytes : Program (Folder δ α) μ ε Unit) d m ()
      (d.replaced temporary name ⟨attributes, bytes⟩).settled :=
  Does.guarded ((writeFile_does _ _ _ hfree).bind
    ((does_command _ rename_written).bind (does_command _ rfl)))

/-- On its way it passes through a folder that is not synced yet. -/
theorem replaceFile_passes (hfree : d.entry temporary = none) :
    Passes (replaceFile texts temporary name attributes bytes : Program (Folder δ α) μ ε Unit) d m
      (d.replaced temporary name ⟨attributes, bytes⟩) :=
  Passes.guarded ((writeFile_does _ _ _ hfree).bind_passes
    ((passes_command _ rename_written).bind _))

end Undisturbed

end Files
