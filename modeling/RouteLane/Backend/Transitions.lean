import RouteLane.Backend.Spec

/-!
# What a transition leaves behind

A transition writes a pending journal, journals each interface setting before it is
changed, and ends with the journal of the new plan or, when it gives up, with one of the
journals listed in `TransitionFailed`.  The two theorems `transitionWith_spec` and
`persist_spec` are all that the operations above need to know of it.
-/

namespace RouteLane

open Nft Faults Program

section Checks

variable {J : Option StoredAppliedState → Prop} {flag : Option StoredAppliedState → Bool}
  {v : JournalView} {m : Backend}

theorem require_spec {c : Prop} [Decidable c] {e : PrivilegedError} :
    Journals J flag v m (require c e) (fun b _ v' m' => c ∧ b = false ∧ v' = v ∧ m' = m)
      (fun b v' m' => ¬c ∧ b = false ∧ v' = v ∧ m' = m) := by
  unfold require
  split
  · rename_i hc
    exact Shows.pure ⟨hc, rfl, rfl, rfl⟩
  · rename_i hc
    exact Shows.fail ⟨hc, rfl, rfl, rfl⟩

theorem lift_spec {α : Type} {x : Except PrivilegedError α} :
    Journals J flag v m (lift x) (fun b a v' m' => x = .ok a ∧ b = false ∧ v' = v ∧ m' = m)
      (fun b v' m' => (∃ e, x = .error e) ∧ b = false ∧ v' = v ∧ m' = m) := by
  cases x with
  | ok a => exact Shows.pure ⟨rfl, rfl, rfl, rfl⟩
  | error e => exact Shows.fail ⟨⟨e, rfl⟩, rfl, rfl, rfl⟩

/-- What follows a check is only run where it holds. -/
theorem returns_require_bind {α : Type} {P : α → Prop} {c : Prop} [Decidable c]
    {e : PrivilegedError} {q : BackendM α} (hq : c → Returns P q) :
    Returns P (require c e >>= fun _ => q) := by
  by_cases hc : c
  · exact Returns.bind fun _ => hq hc
  · intro w a ha
    have hrun : (require c e >>= fun _ => q) w = Program.bind (require c e) (fun _ => q) w := rfl
    rw [hrun, require, if_neg hc] at ha
    exact absurd ha (by simp [Program.bind, Program.fail])

end Checks

/-! ## The journal of a committed plan -/

/-- What `persist_committed_with_receipt` makes of the journal, if it agrees to write it. -/
def committedStore (state : Option KernelPlan) (nftFingerprint : Option String)
    (restoreReceipt : Option RestoreReceipt) (extras : CommittedExtras) :
    Option (Option StoredAppliedState) :=
  match state, nftFingerprint with
  | some plan, some fingerprint =>
    some (some (committedRecord plan fingerprint restoreReceipt extras))
  | none, none =>
    if extras.isEmpty then
      some (restoreReceipt.map fun receipt => .committed none none (some receipt))
    else none
  | _, _ => none

section Persist

variable {J : Option StoredAppliedState → Prop} {flag : Option StoredAppliedState → Bool}
  {v : JournalView} {m : Backend} {p : Primitives}

/-- A failed write, where the write itself may have been refused. -/
def PersistFailed (flag : Option StoredAppliedState → Bool) (v : JournalView)
    (written : Option (Option StoredAppliedState)) (b : Bool) (v' : JournalView) : Prop :=
  (v'.store = v.store ∧ (b = true → flag v.store = true)) ∨
    (written = some v'.store ∧ ¬v.Synced)

theorem WriteFailed.persist {written : Option StoredAppliedState} {b : Bool} {v' : JournalView}
    (h : WriteFailed flag v written b v') : PersistFailed flag v (some written) b v' := by
  rcases h with hsame | ⟨hwritten, hsynced⟩
  · exact Or.inl hsame
  · exact Or.inr ⟨congrArg some hwritten.symm, hsynced⟩

theorem PersistFailed.refused {written : Option (Option StoredAppliedState)} :
    PersistFailed flag v written false v :=
  Or.inl ⟨rfl, fun h => absurd h Bool.false_ne_true⟩

theorem persist_spec {state : Option KernelPlan} {nftFingerprint : Option String}
    {restoreReceipt : Option RestoreReceipt} {extras : CommittedExtras} (hv : J v.store)
    (hJ : ∀ written, committedStore state nftFingerprint restoreReceipt extras = some written →
      J written) :
    Journals J flag v m
      (persistCommittedWithReceipt p state nftFingerprint restoreReceipt extras)
      (fun _ _ v' m' => committedStore state nftFingerprint restoreReceipt extras = some v'.store ∧
        v.Follows v' ∧ m' = m)
      (fun b v' m' => v.Follows v' ∧ m' = m ∧
        PersistFailed flag v (committedStore state nftFingerprint restoreReceipt extras) b v') := by
  refine Shows.bind (Shows.conseq require_spec (fun _ _ _ _ h => h) ?_) ?_
  · rintro b v' m' ⟨-, rfl, rfl, rfl⟩
    exact ⟨.refl _, rfl, .refused⟩
  · rintro b _ v' m' ⟨hextras, rfl, rfl, rfl⟩
    simp only [Bool.false_or]
    cases state with
    | some plan =>
      cases nftFingerprint with
      | some fingerprint =>
        refine Shows.conseq (save_spec hv (hJ _ rfl)) ?_ ?_
        · rintro b _ v'' m'' ⟨hstore, hfollows, rfl⟩
          exact ⟨congrArg some hstore.symm, hfollows, rfl⟩
        · rintro b v'' m'' ⟨hfollows, rfl, hfailed⟩
          exact ⟨hfollows, rfl, hfailed.persist⟩
      | none => exact Shows.fail ⟨.refl _, rfl, .refused⟩
    | none =>
      cases nftFingerprint with
      | some fingerprint => exact Shows.fail ⟨.refl _, rfl, .refused⟩
      | none =>
        have hempty : extras.isEmpty = true := by simpa using hextras
        have hwritten : committedStore none none restoreReceipt extras =
            some (restoreReceipt.map fun receipt => .committed none none (some receipt)) :=
          if_pos hempty
        rw [hwritten] at hJ ⊢
        cases restoreReceipt with
        | some receipt =>
          refine Shows.conseq (save_spec hv (hJ _ rfl)) ?_ ?_
          · rintro b _ v'' m'' ⟨hstore, hfollows, rfl⟩
            exact ⟨congrArg some hstore.symm, hfollows, rfl⟩
          · rintro b v'' m'' ⟨hfollows, rfl, hfailed⟩
            exact ⟨hfollows, rfl, hfailed.persist⟩
        | none =>
          refine Shows.conseq (clear_spec hv (hJ _ rfl)) ?_ ?_
          · rintro b _ v'' m'' ⟨hstore, hfollows, rfl⟩
            exact ⟨congrArg some hstore.symm, hfollows, rfl⟩
          · rintro b v'' m'' ⟨hfollows, rfl, hfailed⟩
            exact ⟨hfollows, rfl, hfailed.persist⟩

end Persist

/-! ## Interface settings -/

/-- Receipts of changes of a device that had no receipt. -/
structure NewReceipts (settings : List InterfaceSettingReceipt)
    (identities : List InterfaceIdentity) (receipts : List InterfaceSettingReceipt) : Prop where
  changes : ∀ receipt ∈ receipts, receipt.previous = 0 ∧ receipt.applied = 1
  devices : (receipts.map InterfaceSettingReceipt.identity).Sublist
    (identities.filter fun identity =>
      !settings.any fun receipt => decide (receipt.identity = identity))

namespace NewReceipts

variable {settings receipts : List InterfaceSettingReceipt} {identity : InterfaceIdentity}
  {identities : List InterfaceIdentity}

theorem nil : NewReceipts settings identities [] :=
  ⟨fun _ h => absurd h List.not_mem_nil, List.nil_sublist _⟩

theorem skip (h : NewReceipts settings identities receipts) :
    NewReceipts settings (identity :: identities) receipts := by
  refine ⟨h.changes, h.devices.trans ?_⟩
  exact (List.sublist_cons_self _ _).filter _

theorem cons {receipt : InterfaceSettingReceipt} (h : NewReceipts settings identities receipts)
    (hidentity : receipt.identity = identity) (hprevious : receipt.previous = 0)
    (happlied : receipt.applied = 1)
    (hnew : ¬(settings.any fun receipt => decide (receipt.identity = identity)) = true) :
    NewReceipts settings (identity :: identities) (receipt :: receipts) := by
  constructor
  · intro receipt' hmem
    rcases List.mem_cons.1 hmem with rfl | hmem
    · exact ⟨hprevious, happlied⟩
    · exact h.changes receipt' hmem
  · rw [List.filter_cons_of_pos (by simpa using hnew), List.map_cons, hidentity]
    exact h.devices.cons_cons identity

end NewReceipts

section Settings

variable {J : Option StoredAppliedState → Prop} {flag : Option StoredAppliedState → Bool}
  {v : JournalView} {m : Backend} {p : Primitives}

/-- A receipt is proposed for a setting that is off, and to switch it on. -/
theorem proposeMarkAwareRpf_spec {identity : InterfaceIdentity} (hv : J v.store) :
    Journals J flag v m (proposeMarkAwareRpf identity)
      (fun b proposed v' m' => v' = v ∧ m' = m ∧ (b = true → flag v.store = true) ∧
        ∀ receipt, proposed = some receipt →
          receipt.identity = identity ∧ receipt.previous = 0 ∧ receipt.applied = 1)
      (fun b v' m' => v' = v ∧ m' = m ∧ (b = true → flag v.store = true)) := by
  have hquiet : Untouched (proposeMarkAwareRpf identity) := by
    unfold proposeMarkAwareRpf
    refine Quiet.bind (untouched_validateIdentity _) fun _ => ?_
    refine Quiet.bind (untouched_readRpFilter _) fun _ => ?_
    refine Quiet.bind (untouched_readRpFilter _) fun _ => ?_
    refine Quiet.bind (untouched_require _ _) fun _ => ?_
    split
    · exact Quiet.pure none
    · refine Quiet.bind (untouched_readSrcValidMark _) fun _ => ?_
      refine Quiet.bind (untouched_readSrcValidMark _) fun _ => ?_
      refine Quiet.bind (untouched_require _ _) fun _ => ?_
      split
      · exact Quiet.pure none
      · exact Quiet.pure _
  have hvalue : Returns (fun proposed => ∀ receipt, proposed = some receipt →
      receipt.identity = identity ∧ receipt.previous = 0 ∧ receipt.applied = 1)
      (proposeMarkAwareRpf identity) := by
    unfold proposeMarkAwareRpf
    refine Returns.bind fun _ => Returns.bind fun _ => Returns.bind fun _ => Returns.bind fun _ => ?_
    split
    · exact Returns.pure fun _ h => absurd h (by simp)
    · refine Returns.bind fun global => Returns.bind fun previous => ?_
      refine returns_require_bind fun hread => ?_
      split
      · exact Returns.pure fun _ h => absurd h (by simp)
      · rename_i hoff
        refine Returns.pure ?_
        rintro receipt ⟨⟩
        have hzero : previous = 0 := by omega
        exact ⟨rfl, hzero, rfl⟩
  refine Shows.conseq (Shows.returns hvalue (Shows.quiet hquiet hv)) ?_ (fun _ _ _ h => h)
  rintro b proposed v' m' ⟨hproposed, rfl, rfl, hb⟩
  exact ⟨rfl, rfl, hb, hproposed⟩

/-- The journal of a transition with these settings on their way. -/
def StoredAppliedState.withPending (record : StoredAppliedState)
    (receipts : List InterfaceSettingReceipt) : StoredAppliedState :=
  { record with pendingInterfaceSettings := record.pendingInterfaceSettings ++ receipts }

@[simp] theorem StoredAppliedState.withPending_nil (record : StoredAppliedState) :
    record.withPending [] = record := by
  simp [StoredAppliedState.withPending]

theorem StoredAppliedState.withPending_cons (record : StoredAppliedState)
    (receipt : InterfaceSettingReceipt) (receipts : List InterfaceSettingReceipt) :
    (record.withPending [receipt]).withPending receipts =
      record.withPending (receipt :: receipts) := by
  simp [StoredAppliedState.withPending]

/-- What the loop over the interfaces of a plan leaves in the journal. -/
def SettingsLeft (record : StoredAppliedState) (identities : List InterfaceIdentity)
    (applied : List InterfaceSettingReceipt) (v : JournalView) (m : Backend)
    (result : StoredAppliedState × Except PrivilegedError (List InterfaceSettingReceipt))
    (v' : JournalView) (m' : Backend) : Prop :=
  v.Follows v' ∧ m' = m ∧ match result.2 with
    | .ok settings => ∃ l, NewReceipts record.interfaceSettings identities l ∧
        settings = applied ++ l ∧ v'.store = some (record.withPending l)
    | .error _ => ∃ l, NewReceipts record.interfaceSettings identities l ∧
        v'.store = some (record.withPending l)

theorem ensureSettingsOf_spec {identities : List InterfaceIdentity} :
    ∀ {record : StoredAppliedState} {applied : List InterfaceSettingReceipt} {v : JournalView},
      v.store = some record →
      (∀ l, NewReceipts record.interfaceSettings identities l → J (some (record.withPending l))) →
      Journals J flag v m (ensureSettingsOf p applied record identities)
        (fun _ => SettingsLeft record identities applied v m) (fun _ _ _ => False) := by
  induction identities with
  | nil =>
    intro record applied v hstore _
    exact Shows.pure ⟨.refl v, rfl, [], .nil, by simp, by simpa using hstore⟩
  | cons identity rest ih =>
    intro record applied v hstore hJ
    have hv : J v.store := by simpa [hstore] using hJ [] .nil
    unfold ensureSettingsOf
    split
    · refine Shows.conseq (ih hstore fun l hl => hJ l hl.skip) ?_ (fun _ _ _ h => h)
      rintro b ⟨record', settings | settings⟩ v' m' ⟨hfollows, rfl, l, hl, hleft⟩
      · exact ⟨hfollows, rfl, l, hl.skip, hleft⟩
      · exact ⟨hfollows, rfl, l, hl.skip, hleft⟩
    · rename_i hnew
      refine Shows.bind (Shows.attempt (Q := fun _ proposed v' m' => v' = v ∧ m' = m ∧
        ∀ receipt, proposed = .ok (some receipt) →
          receipt.identity = identity ∧ receipt.previous = 0 ∧ receipt.applied = 1)
        (Shows.conseq (proposeMarkAwareRpf_spec hv) ?_ ?_)) ?_
      · rintro b proposed v' m' ⟨rfl, rfl, -, hproposed⟩
        exact ⟨rfl, rfl, fun receipt h => hproposed receipt (Except.ok.inj h)⟩
      · rintro b v' m' ⟨rfl, rfl, -⟩ e
        exact ⟨rfl, rfl, fun receipt h => absurd h (by simp)⟩
      · rintro b (e | _ | receipt) v' m' ⟨rfl, rfl, hproposed⟩
        · exact Shows.pure ⟨.refl _, rfl, [], .nil, by simpa using hstore⟩
        · refine Shows.conseq (ih hstore fun l hl => hJ l hl.skip) ?_ (fun _ _ _ h => h)
          rintro b ⟨record', settings | settings⟩ v' m' ⟨hfollows, rfl, l, hl, hleft⟩
          · exact ⟨hfollows, rfl, l, hl.skip, hleft⟩
          · exact ⟨hfollows, rfl, l, hl.skip, hleft⟩
        · obtain ⟨hidentity, hprevious, happlied⟩ := hproposed receipt rfl
          have hextend : ∀ l, NewReceipts record.interfaceSettings rest l →
              NewReceipts record.interfaceSettings (identity :: rest) (receipt :: l) :=
            fun l hl => hl.cons hidentity hprevious happlied hnew
          have hone := hextend [] .nil
          refine Shows.bind (Shows.attempt (Q := fun _ saved v'' m'' => v'.Follows v'' ∧
            m'' = m' ∧ (saved = .ok () → v''.store = some (record.withPending [receipt])) ∧
            (v''.store = some record ∨ v''.store = some (record.withPending [receipt])))
            (Shows.conseq (save_spec hv (hJ [receipt] hone)) ?_ ?_)) ?_
          · rintro b _ v'' m'' ⟨hwritten, hfollows, rfl⟩
            exact ⟨hfollows, rfl, fun _ => hwritten, Or.inr hwritten⟩
          · rintro b v'' m'' ⟨hfollows, rfl, hfailed⟩ e
            refine ⟨hfollows, rfl, fun h => absurd h (by simp), ?_⟩
            rcases hfailed with ⟨hsame, -⟩ | ⟨hwritten, -⟩
            · exact Or.inl (hsame.trans hstore)
            · exact Or.inr hwritten
          · rintro b (e | _) v'' m'' ⟨hfollows, rfl, hsaved, hleft⟩
            · refine Shows.pure ⟨hfollows, rfl, ?_⟩
              rcases hleft with hsame | hwritten
              · exact ⟨[], .nil, by simpa using hsame⟩
              · exact ⟨[receipt], hone, hwritten⟩
            · have hwritten := hsaved rfl
              have hJ' : ∀ l, NewReceipts record.interfaceSettings rest l →
                  J (some ((record.withPending [receipt]).withPending l)) := by
                intro l hl
                rw [record.withPending_cons]
                exact hJ _ (hextend l hl)
              have hv'' : J v''.store := by
                rw [hwritten]
                exact hJ [receipt] hone
              refine Shows.quiet_attempt_bind (untouched_writeMarkAwareRpf receipt) hv''
                fun _ result _ => ?_
              cases result with
              | error e => exact Shows.pure ⟨hfollows, rfl, [receipt], hone, hwritten⟩
              | ok _ =>
                refine Shows.conseq (ih hwritten hJ') ?_ (fun _ _ _ h => h)
                rintro b ⟨record', settings | settings⟩ v₃ m₃ ⟨hfollows', rfl, l, hl, hleft⟩
                · refine ⟨hfollows.trans hfollows', rfl, receipt :: l, hextend l hl, ?_⟩
                  rw [← record.withPending_cons]
                  exact hleft
                · obtain ⟨hsettings, hstored⟩ := hleft
                  refine ⟨hfollows.trans hfollows', rfl, receipt :: l, hextend l hl, ?_, ?_⟩
                  · rw [hsettings, List.append_assoc, List.singleton_append]
                  · rw [← record.withPending_cons]
                    exact hstored

end Settings

/-! ## Transitions -/

/-- What a transition is asked for. -/
structure Move where
  plan : KernelPlan
  restoreReceipt : Option RestoreReceipt
  lost : LostUnicast
  runtime : Option RuntimeRecord
  runtimeRestore : Option RuntimeRestoreReceipt

namespace Move

variable (p : Primitives) (t : Move) (m : Backend)

def expectations : JournaledExpectations := journaledExpectations p m.current t.lost t.plan

/-- The journal while the transition is on its way. -/
def pending (receipts : List InterfaceSettingReceipt) : StoredAppliedState :=
  (pendingRecord p m.current m.currentNftFingerprint t.plan t.lost t.restoreReceipt
    m.committedExtras t.runtime).withPending receipts

/-- What commits together with the plan. -/
def extras (receipts : List InterfaceSettingReceipt) : CommittedExtras :=
  ⟨m.interfaceSettings ++ receipts, t.runtime, t.runtimeRestore⟩

/-- The journal of the transition once it is through. -/
def committed (receipts : List InterfaceSettingReceipt) : StoredAppliedState :=
  committedRecord t.plan (t.expectations p m).committedNftFingerprint t.restoreReceipt
    (t.extras m receipts)

/-- The memory of the transition once it is through. -/
def after (receipts : List InterfaceSettingReceipt) : Backend :=
  { m with
    current := some t.plan
    currentNftFingerprint := some (t.expectations p m).committedNftFingerprint
    interfaceSettings := m.interfaceSettings ++ receipts
    runtimeRestore := t.runtimeRestore
    restoreReceipt := t.restoreReceipt }

/-- The receipts the transition can add. -/
def Adds (receipts : List InterfaceSettingReceipt) : Prop :=
  NewReceipts m.interfaceSettings (markAwareIdentities t.plan) receipts

/-- A plan that is not a restore has a generation of its own: callers check it. -/
def Advances : Prop :=
  t.restoreReceipt = none → ∀ plan, m.current = some plan → t.plan.generation ≠ plan.generation

end Move

/-- The memory while a transition is on its way. -/
def Backend.moving (m : Backend) : Backend := { m with restoreReceipt := none }

/-- The journal after a transition was rolled back. -/
def Backend.repaired (m : Backend) : Option (Option StoredAppliedState) :=
  committedStore m.current m.currentNftFingerprint none m.committedExtras

/-- Every journal a transition can write satisfies `J`. -/
structure Move.Within (J : Option StoredAppliedState → Prop) (p : Primitives) (t : Move)
    (m : Backend) : Prop where
  pending : ∀ l, t.Adds m l → J (some (t.pending p m l))
  repaired : ∀ written, m.repaired = some written → J written
  committed : ∀ l, t.Adds m l → J (some (t.committed p m l))

/-- Where a transition that gave up left the journal and the memory. -/
inductive TransitionFailed (flag : Option StoredAppliedState → Bool) (p : Primitives) (t : Move)
    (v : JournalView) (m : Backend) : Bool → JournalView → Backend → Prop
  | refused {b : Bool} {v' : JournalView} : v'.store = v.store →
      (b = true → flag v.store = true) → TransitionFailed flag p t v m b v' m
  | unsynced {b : Bool} {v' : JournalView} : v'.store = some (t.pending p m []) → ¬v.Synced →
      TransitionFailed flag p t v m b v' m
  | pending {b : Bool} {v' : JournalView} (l : List InterfaceSettingReceipt) : t.Adds m l →
      v'.store = some (t.pending p m l) → TransitionFailed flag p t v m b v' m.moving
  | repaired {b : Bool} {v' : JournalView} : m.repaired = some v'.store →
      TransitionFailed flag p t v m b v' m.moving
  | committed {b : Bool} {v' : JournalView} (l : List InterfaceSettingReceipt) : t.Adds m l →
      v'.store = some (t.committed p m l) → ¬v.Synced →
      TransitionFailed flag p t v m b v' m.moving

/-- Nothing was written, or one of the journals of the transition is left. -/
theorem TransitionFailed.left {flag : Option StoredAppliedState → Bool} {p : Primitives} {t : Move}
    {v v' : JournalView} {m m' : Backend} {b : Bool} (h : TransitionFailed flag p t v m b v' m') :
    (v'.store = v.store ∧ (b = true → flag v.store = true)) ∨
      ∀ J, t.Within J p m → J v'.store := by
  cases h with
  | refused hsame hb => exact Or.inl ⟨hsame, hb⟩
  | unsynced hstore _ =>
    rw [hstore]
    exact Or.inr fun J hJ => hJ.pending [] .nil
  | pending l hl hstore =>
    rw [hstore]
    exact Or.inr fun J hJ => hJ.pending l hl
  | repaired hwritten => exact Or.inr fun J hJ => hJ.repaired _ hwritten
  | committed l hl hstore _ =>
    rw [hstore]
    exact Or.inr fun J hJ => hJ.committed l hl

section Transition

variable {J : Option StoredAppliedState → Prop} {flag : Option StoredAppliedState → Bool}
  {v : JournalView} {m : Backend} {p : Primitives} {t : Move}

theorem returns_applyPlan {blake3 : Blake3} {conflict : KernelState → Option String}
    {current : Option KernelPlan} {next : KernelPlan} (restoring : Bool)
    (hadvances : restoring = false → ∀ plan, current = some plan →
      next.generation ≠ plan.generation) :
    Returns (fun applied => applied = next)
      (if restoring then transitionPlan blake3 conflict current next
        else applyPlan blake3 conflict current next) := by
  have htransition : Returns (fun applied => applied = next)
      (transitionPlan blake3 conflict current next) := by
    refine Returns.bind fun captured => ?_
    cases captured with
    | error e => exact Returns.fail
    | ok captured =>
      dsimp only
      split
      · exact Returns.fail
      · exact Returns.bind fun _ => Returns.pure rfl
  cases restoring with
  | true => exact htransition
  | false =>
    show Returns _ (applyPlan blake3 conflict current next)
    unfold applyPlan
    cases current with
    | none => exact htransition
    | some plan =>
      show Returns _ (if next.generation < plan.generation then _ else _)
      split
      · exact Returns.fail
      · rw [if_neg (hadvances rfl plan rfl)]
        exact htransition

/-- Rolling back: the journal stays as it is, or tells of the previous plan again. -/
theorem undoTransition_spec {lost : LostUnicast} {l : List InterfaceSettingReceipt}
    {rolledBack : Bool} (hv : J v.store)
    (hrepaired : ∀ written, m.repaired = some written → J written) {m' : Backend} :
    Journals J flag v m' (undoTransition p m.current m.currentNftFingerprint lost
        m.committedExtras l rolledBack)
      (fun _ _ v' m'' => v.Follows v' ∧ m'' = m' ∧ m.repaired = some v'.store)
      (fun _ v' m'' => v.Follows v' ∧ m'' = m' ∧
        (v'.store = v.store ∨ m.repaired = some v'.store)) := by
  have hrepair : Journals J flag v m'
      (repairCommittedJournalAfterRollback p m.current m.currentNftFingerprint lost
        m.committedExtras rolledBack)
      (fun _ _ v' m'' => v.Follows v' ∧ m'' = m' ∧ m.repaired = some v'.store)
      (fun _ v' m'' => v.Follows v' ∧ m'' = m' ∧
        (v'.store = v.store ∨ m.repaired = some v'.store)) := by
    refine Shows.quiet_bind (untouched_require _ _) hv (fun _ _ => ⟨.refl v, rfl, Or.inl rfl⟩)
      fun _ _ _ => ?_
    refine Shows.quiet_bind (untouched_onKernel _) hv (fun _ _ => ⟨.refl v, rfl, Or.inl rfl⟩)
      fun _ _ _ => ?_
    refine Shows.conseq (persist_spec hv hrepaired) ?_ ?_
    · rintro b _ v' m'' ⟨hwritten, hfollows, rfl⟩
      exact ⟨hfollows, rfl, hwritten⟩
    · rintro b v' m'' ⟨hfollows, rfl, ⟨hsame, -⟩ | ⟨hwritten, -⟩⟩
      · exact ⟨hfollows, rfl, Or.inl hsame⟩
      · exact ⟨hfollows, rfl, Or.inr hwritten⟩
  refine Shows.bind hrepair ?_
  rintro b _ v' m'' ⟨hfollows, rfl, hwritten⟩
  have hv' : J v'.store := hrepaired _ hwritten
  refine Shows.quiet_bind (untouched_restoreSettingReceipts _) hv'
    (fun _ _ => ⟨hfollows, rfl, Or.inr hwritten⟩) fun _ diverged _ => ?_
  refine Shows.conseq (Shows.quiet (untouched_require _ _) hv') ?_ ?_
  · rintro b _ v'' m''' ⟨rfl, rfl, -⟩
    exact ⟨hfollows, rfl, hwritten⟩
  · rintro b v'' m''' ⟨rfl, rfl, -⟩
    exact ⟨hfollows, rfl, Or.inr hwritten⟩

/-- A roll back after the kernel had taken the plan always ends in an error. -/
theorem rollBackTaken_spec {lost : LostUnicast} {l : List InterfaceSettingReceipt}
    {runner : CommandKernelRunner} {e : PrivilegedError} (hv : J v.store)
    (hrepaired : ∀ written, m.repaired = some written → J written) {m' : Backend} :
    Journals J flag v m' (rollBackTaken p (undoTransition p m.current m.currentNftFingerprint lost
        m.committedExtras l) runner m.current e)
      (fun _ _ _ _ => False)
      (fun _ v' m'' => v.Follows v' ∧ m'' = m' ∧
        (v'.store = v.store ∨ m.repaired = some v'.store)) := by
  refine Shows.quiet_bind (untouched_withRunner _ _) hv (fun _ _ => ⟨.refl v, rfl, Or.inl rfl⟩)
    fun _ result _ => ?_
  refine Shows.bind (Shows.attempt (Q := fun _ _ v' m'' => v.Follows v' ∧ m'' = m' ∧
    (v'.store = v.store ∨ m.repaired = some v'.store))
    (Shows.conseq (undoTransition_spec hv hrepaired) ?_ ?_)) ?_
  · rintro b _ v' m'' ⟨hfollows, rfl, hwritten⟩
    exact ⟨hfollows, rfl, Or.inr hwritten⟩
  · exact fun b v' m'' h e => h
  · exact fun b repair v' m'' h => Shows.fail h

theorem commitTaken_spec {u : JournalView} {l : List InterfaceSettingReceipt}
    {runner : CommandKernelRunner} (hwithin : t.Within J p m) (hl : t.Adds m l)
    (hu : u.Follows v) (hstore : v.store = some (t.pending p m l)) :
    Journals J flag v m.moving
      (commitTaken p (undoTransition p m.current m.currentNftFingerprint t.lost
        m.committedExtras l) runner m.current t.plan (t.expectations p m) t.restoreReceipt
        (t.extras m l))
      (fun _ _ v' m' => u.Follows v' ∧ v'.store = some (t.committed p m l) ∧ m' = t.after p m l)
      (fun _ v' m' => u.Follows v' ∧ ∀ b, TransitionFailed flag p t u m b v' m') := by
  have hv : J v.store := by
    rw [hstore]
    exact hwithin.pending l hl
  have hrollback : ∀ {w : JournalView} {e : PrivilegedError}, u.Follows w → J w.store →
      (∀ w' : JournalView, w'.store = w.store → ∀ b, TransitionFailed flag p t u m b w' m.moving) →
      Journals J flag w m.moving
        (rollBackTaken p (undoTransition p m.current m.currentNftFingerprint t.lost
          m.committedExtras l) runner m.current e)
        (fun _ _ v' m' => u.Follows v' ∧ v'.store = some (t.committed p m l) ∧
          m' = t.after p m l)
        (fun _ v' m' => u.Follows v' ∧ ∀ b, TransitionFailed flag p t u m b v' m') := by
    intro w e hw hJ hleft
    refine Shows.conseq (rollBackTaken_spec hJ hwithin.repaired) (fun _ _ _ _ h => h.elim) ?_
    rintro b w' m' ⟨hfollows, rfl, hsame | hwritten⟩
    · exact ⟨hw.trans hfollows, hleft w' hsame⟩
    · exact ⟨hw.trans hfollows, fun _ => .repaired hwritten⟩
  have hstill : ∀ w' : JournalView, w'.store = v.store →
      ∀ b, TransitionFailed flag p t u m b w' m.moving :=
    fun w' hsame b => .pending l hl (hsame.trans hstore)
  refine Shows.quiet_attempt_bind (untouched_onKernel _) hv fun _ live _ => ?_
  cases live with
  | error e => exact hrollback hu hv hstill
  | ok fingerprint =>
    have hrouting : Untouched (committedRoutingFingerprint p) :=
      Quiet.bind (untouched_onKernel _) fun _ => Quiet.pure _
    refine Shows.quiet_attempt_bind hrouting hv fun _ routing _ => ?_
    cases routing with
    | error e => exact hrollback hu hv hstill
    | ok routing =>
      show Journals J flag v m.moving (if _ then _ else _) _ _
      split
      · rename_i hexact
        obtain rfl := hexact.2
        refine Shows.bind (Shows.attempt (Q := fun _ persisted v' m' => v.Follows v' ∧
          m' = m.moving ∧ (persisted = .ok () → v'.store = some (t.committed p m l)) ∧
          J v'.store ∧ ∀ w' : JournalView, w'.store = v'.store →
            persisted = .ok () ∨ ∀ b, TransitionFailed flag p t u m b w' m.moving)
          (Shows.conseq (persist_spec hv ?_) ?_ ?_)) ?_
        · rintro written ⟨⟩
          exact hwithin.committed l hl
        · rintro b _ v' m' ⟨hwritten, hfollows, rfl⟩
          have hcommitted := (Option.some.inj hwritten).symm
          refine ⟨hfollows, rfl, fun _ => hcommitted, ?_, fun _ _ => Or.inl rfl⟩
          rw [hcommitted]
          exact hwithin.committed l hl
        · rintro b v' m' ⟨hfollows, rfl, hfailed⟩ e
          refine ⟨hfollows, rfl, fun h => absurd h (by simp), ?_, fun w' hw' => Or.inr fun b => ?_⟩
          · rcases hfailed with ⟨hsame, -⟩ | ⟨hwritten, -⟩
            · rwa [hsame]
            · rw [← Option.some.inj hwritten]
              exact hwithin.committed l hl
          · rcases hfailed with ⟨hsame, -⟩ | ⟨hwritten, hsynced⟩
            · exact hstill w' (hw'.trans hsame) b
            · exact .committed l hl (hw'.trans (Option.some.inj hwritten).symm)
                fun h => hsynced (hu.synced h)
        · rintro b (e | _) v' m' ⟨hfollows, rfl, hcommitted, hJ, hleft⟩
          · exact hrollback (hu.trans hfollows) hJ
              fun w' hw' => (hleft w' hw').resolve_left (by simp)
          · exact Shows.modify ⟨hu.trans hfollows, hcommitted rfl, rfl⟩
      · exact hrollback hu hv hstill

theorem transitionSaved_spec {u : JournalView} (hwithin : t.Within J p m)
    (hadvances : t.Advances m) (hu : u.Follows v) (hstore : v.store = some (t.pending p m [])) :
    Journals J flag v m.moving
      (transitionSaved p m.current m.currentNftFingerprint m.committedExtras t.plan t.lost
        t.restoreReceipt t.runtime t.runtimeRestore (t.pending p m []))
      (fun _ _ v' m' => u.Follows v' ∧ ∃ l, t.Adds m l ∧ v'.store = some (t.committed p m l) ∧
        m' = t.after p m l)
      (fun _ v' m' => u.Follows v' ∧ ∀ b, TransitionFailed flag p t u m b v' m') := by
  have hpending : ∀ l, (t.pending p m []).withPending l = t.pending p m l := by
    intro l
    simp [Move.pending, StoredAppliedState.withPending, pendingRecord]
  have hsettings : Journals J flag v m.moving (ensureInterfaceSettings p (t.pending p m []) t.plan)
      (fun _ => SettingsLeft (t.pending p m []) (markAwareIdentities t.plan) [] v m.moving)
      (fun _ _ _ => False) := by
    refine ensureSettingsOf_spec hstore fun l hl => ?_
    rw [hpending]
    exact hwithin.pending l hl
  refine Shows.bind (Shows.conseq hsettings (fun _ _ _ _ h => h) fun _ _ _ h => h.elim) ?_
  rintro b ⟨record, e | settings⟩ v' m' ⟨hfollows, rfl, l, hl, hleft⟩
  · have hstore' : v'.store = some (t.pending p m l) := by rw [hleft, hpending]
    have hv' : J v'.store := by
      rw [hstore']
      exact hwithin.pending l hl
    refine Shows.quiet_bind (untouched_restoreSettingReceipts _) hv'
      (fun _ _ => ⟨hu.trans hfollows, fun _ => .pending l hl hstore'⟩) fun _ restored _ => ?_
    refine Shows.bind (Shows.attempt (Q := fun _ _ v'' m'' => v'.Follows v'' ∧ m'' = m.moving ∧
      (v''.store = v'.store ∨ m.repaired = some v''.store))
      (Shows.conseq (persist_spec hv' hwithin.repaired) ?_ ?_)) ?_
    · rintro b _ v'' m'' ⟨hwritten, hfollows', rfl⟩
      exact ⟨hfollows', rfl, Or.inr hwritten⟩
    · rintro b v'' m'' ⟨hfollows', rfl, ⟨hsame, -⟩ | ⟨hwritten, -⟩⟩ e
      · exact ⟨hfollows', rfl, Or.inl hsame⟩
      · exact ⟨hfollows', rfl, Or.inr hwritten⟩
    · rintro b repair v'' m'' ⟨hfollows', rfl, hsame | hwritten⟩
      · exact Shows.fail ⟨(hu.trans hfollows).trans hfollows', fun _ =>
          .pending l hl (hsame.trans hstore')⟩
      · exact Shows.fail ⟨(hu.trans hfollows).trans hfollows', fun _ => .repaired hwritten⟩
  · obtain ⟨rfl, hleft⟩ := hleft
    have hl : t.Adds m settings := hl
    have hstore' : v'.store = some (t.pending p m settings) := by rw [← hpending]; exact hleft
    have hv' : J v'.store := by
      rw [hstore']
      exact hwithin.pending settings hl
    have hstill : u.Follows v' ∧ ∀ b, TransitionFailed flag p t u m b v' m.moving :=
      ⟨hu.trans hfollows, fun _ => .pending settings hl hstore'⟩
    have happlied : ∀ {conflict}, Journals J flag v' m.moving
        (withRunner (.new m.current t.lost) (if t.restoreReceipt.isSome
          then transitionPlan p.blake3 conflict m.current t.plan
          else applyPlan p.blake3 conflict m.current t.plan))
        (fun _ res w m'' => (∀ applied, res.1 = .ok applied → applied = t.plan) ∧ w = v' ∧
          m'' = m.moving)
        (fun _ w m'' => w = v' ∧ m'' = m.moving) := by
      intro conflict
      refine Shows.conseq (Shows.returns (Returns.within (returns_applyPlan _ ?_))
        (Shows.quiet (untouched_withRunner _ _) hv')) ?_ ?_
      · exact fun hnone => hadvances (by simpa using hnone)
      · rintro b res w m'' ⟨hplan, rfl, rfl, -⟩
        exact ⟨hplan, rfl, rfl⟩
      · rintro b w m'' ⟨rfl, rfl, -⟩
        exact ⟨rfl, rfl⟩
    refine Shows.bind (Shows.conseq happlied (fun _ _ _ _ h => h) ?_) ?_
    · rintro b v'' m'' ⟨rfl, rfl⟩
      exact hstill
    · rintro b ⟨e | applied, runner⟩ v'' m'' ⟨hplan, rfl, rfl⟩
      · refine Shows.bind (Shows.attempt (Q := fun _ _ w m'' => v''.Follows w ∧ m'' = m.moving ∧
          (w.store = v''.store ∨ m.repaired = some w.store))
          (Shows.conseq (undoTransition_spec hv' hwithin.repaired) ?_ ?_)) ?_
        · rintro b _ w m'' ⟨hfollows', rfl, hwritten⟩
          exact ⟨hfollows', rfl, Or.inr hwritten⟩
        · exact fun b w m'' h e => h
        · rintro b (repair | _) w m'' ⟨hfollows', rfl, hsame | hwritten⟩
          · exact Shows.fail ⟨hstill.1.trans hfollows', fun _ =>
              .pending settings hl (hsame.trans hstore')⟩
          · exact Shows.fail ⟨hstill.1.trans hfollows', fun _ => .repaired hwritten⟩
          · exact Shows.fail ⟨hstill.1.trans hfollows', fun _ =>
              .pending settings hl (hsame.trans hstore')⟩
          · exact Shows.fail ⟨hstill.1.trans hfollows', fun _ => .repaired hwritten⟩
      · obtain rfl := hplan applied rfl
        refine Shows.conseq (commitTaken_spec hwithin hl hstill.1 hstore') ?_ (fun _ _ _ h => h)
        rintro b _ w m'' ⟨hfollows', hwritten, rfl⟩
        exact ⟨hfollows', settings, hl, hwritten, rfl⟩

/-- What a transition leaves, whatever fails. -/
theorem transitionWith_spec (hv : J v.store) (hwithin : t.Within J p m)
    (hadvances : t.Advances m) :
    Journals J flag v m
      (Backend.transitionWith p t.plan t.restoreReceipt t.lost t.runtime t.runtimeRestore)
      (fun _ _ v' m' => v.Follows v' ∧ ∃ l, t.Adds m l ∧ v'.store = some (t.committed p m l) ∧
        m' = t.after p m l)
      (fun b v' m' => v.Follows v' ∧ TransitionFailed flag p t v m b v' m') := by
  have hpending : t.pending p m [] = pendingRecord p m.current m.currentNftFingerprint t.plan
      t.lost t.restoreReceipt m.committedExtras t.runtime := StoredAppliedState.withPending_nil _
  refine Shows.get_bind ?_
  refine Shows.quiet_bind (untouched_onKernel _) hv (fun b hb => ⟨.refl _, .refused rfl hb⟩)
    fun b _ hb => ?_
  rw [← hpending]
  refine Shows.bind (Shows.conseq (save_spec hv (hwithin.pending [] .nil))
    (fun _ _ _ _ h => h) ?_) ?_
  · rintro b' v'' m'' ⟨hfollows, rfl, hfailed⟩
    refine ⟨hfollows, ?_⟩
    rcases hfailed with ⟨hsame, hb'⟩ | ⟨hwritten, hsynced⟩
    · exact .refused hsame (flag_or hb hb')
    · exact .unsynced hwritten hsynced
  · rintro b' _ v'' m'' ⟨hwritten, hfollows, rfl⟩
    refine Shows.modify_bind ?_
    refine Shows.conseq (transitionSaved_spec hwithin hadvances hfollows hwritten)
      (fun _ _ _ _ h => h) ?_
    exact fun b₃ w m₃ ⟨hfollows', hfailed⟩ => ⟨hfollows', hfailed _⟩

end Transition

end RouteLane
