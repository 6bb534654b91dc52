import RouteLane.Backend.Transitions

/-!
# What reading and finishing a journal leaves behind

Reading adopts what the journal says; reconciling also finishes what was interrupted.
Each is described by a function of the journal and the memory, or by the list of the
journals it can leave.
-/

namespace RouteLane

open Nft Faults Program

/-! ## Reading -/

/-- The memory after a journal of the current schema was read. -/
def Backend.inspected (m : Backend) (record : StoredAppliedState) : Backend :=
  { m with
    current := record.active
    currentNftFingerprint := record.activeNftFingerprint
    interfaceSettings := record.interfaceSettings
    restoreReceipt := record.restoreReceipt
    legacy := none
    initialized := true }

/-- The memory after a schema-1 journal was read. -/
def Backend.adoptedV1 (m : Backend) (record : StoredAppliedState) : Backend :=
  { m with
    current := none
    currentNftFingerprint := none
    interfaceSettings := []
    restoreReceipt := none
    legacy := record.legacyV1
    initialized := true }

/-- The memory after a schema-2 journal was read. -/
def Backend.adoptedV2 (m : Backend) (record : StoredAppliedState) : Backend :=
  { m with
    current := none
    currentNftFingerprint := none
    interfaceSettings := []
    restoreReceipt := none
    legacy := none
    legacyV2 := record.legacyV2
    runtime := none
    runtimeRestore := none
    runtimeLoaded := true
    initialized := true }

/-- What reading the journal makes of the memory. -/
inductive Inspected (p : Primitives) (m : Backend) : Option StoredAppliedState → Backend → Prop
  | none : Inspected p m none { m with initialized := true }
  | legacyV2 {record : StoredAppliedState} : record.legacyV2.isSome = true →
      validateLegacyV2Envelope record = .ok () → Inspected p m (some record) (m.adoptedV2 record)
  | legacyV1 {record : StoredAppliedState} : record.legacyV2 = .none →
      record.legacyV1.isSome = true → validateLegacyEnvelope record = .ok () →
      Inspected p m (some record) (m.adoptedV1 record)
  | current {record : StoredAppliedState} : record.legacyV2 = .none → record.legacyV1 = .none →
      validateJournal p record = .ok () → Inspected p m (some record) (m.inspected record)

/-- Whether a journaled grant belongs to this boot, this network namespace and the policy
journaled with it. -/
def RuntimeRecord.Matches (p : Primitives) (v : JournalView) (record : RuntimeRecord) : Prop :=
  v.bootId = some record.grant.bootId ∧ v.networkNamespace = record.grant.networkNamespace ∧
    p.policyHash record.profile record.resolutions = record.grant.policyHash

/-- The memory after the journaled runtime was read. -/
def Backend.runtimeRead (m : Backend) (store : Option StoredAppliedState)
    (mismatch : Option String) : Backend :=
  { m with
    runtimeRestore := (store.getD {}).runtimeRestore
    runtime := (store.getD {}).runtime.map (ArmedRuntime.loaded · mismatch)
    runtimeLoaded := true }

/-- What `load_runtime` makes of the memory: nothing, the second time. -/
inductive RuntimeLoaded (p : Primitives) (v : JournalView) (m : Backend) : Backend → Prop
  | again : m.runtimeLoaded = true → RuntimeLoaded p v m m
  | read (mismatch : Option String) : m.runtimeLoaded = false →
      (mismatch = none → ∀ record, (v.store.getD {}).runtime = some record →
        record.Matches p v) →
      RuntimeLoaded p v m (m.runtimeRead v.store mismatch)

theorem RuntimeLoaded.current {p : Primitives} {v : JournalView} {m m' : Backend}
    (h : RuntimeLoaded p v m m') : m'.current = m.current := by
  cases h with
  | again _ => rfl
  | read _ _ _ => rfl

section Reading

variable {J : Option StoredAppliedState → Prop} {flag : Option StoredAppliedState → Bool}
  {v : JournalView} {m : Backend} {p : Primitives}

theorem ensureInspectionReady_spec (hv : J v.store) :
    Journals J flag v m (ensureInspectionReady p)
      (fun b _ v' m' => v' = v ∧ (b = true → flag v.store = true) ∧ Inspected p m v.store m')
      (fun b v' m' => v' = v ∧ m' = m ∧ (b = true → flag v.store = true)) := by
  refine Shows.bind (load_spec hv) ?_
  rintro b record v' m' ⟨hrecord, rfl, rfl, hb⟩
  cases record with
  | none =>
    refine Shows.modify ⟨rfl, by simpa using hb, ?_⟩
    rw [← hrecord]
    exact .none
  | some record =>
    rw [← hrecord] at hb ⊢
    show Journals J flag v' m' (if _ then _ else if _ then _ else _) _ _
    split
    · rename_i hlegacy
      refine Shows.bind (Shows.conseq lift_spec (fun _ _ _ _ h => h) ?_) ?_
      · rintro b' v'' m'' ⟨-, rfl, rfl, rfl⟩
        exact ⟨rfl, rfl, by simpa using hb⟩
      · rintro b' _ v'' m'' ⟨hvalid, rfl, rfl, rfl⟩
        exact Shows.modify ⟨rfl, by simpa using hb, .legacyV2 hlegacy hvalid⟩
    · rename_i hv2
      have hv2 : record.legacyV2 = none := by simpa using hv2
      split
      · rename_i hlegacy
        refine Shows.bind (Shows.conseq lift_spec (fun _ _ _ _ h => h) ?_) ?_
        · rintro b' v'' m'' ⟨-, rfl, rfl, rfl⟩
          exact ⟨rfl, rfl, by simpa using hb⟩
        · rintro b' _ v'' m'' ⟨hvalid, rfl, rfl, rfl⟩
          exact Shows.modify ⟨rfl, by simpa using hb, .legacyV1 hv2 hlegacy hvalid⟩
      · rename_i hv1
        have hv1 : record.legacyV1 = none := by simpa using hv1
        refine Shows.bind (Shows.conseq lift_spec (fun _ _ _ _ h => h) ?_) ?_
        · rintro b' v'' m'' ⟨-, rfl, rfl, rfl⟩
          exact ⟨rfl, rfl, by simpa using hb⟩
        · rintro b' _ v'' m'' ⟨hvalid, rfl, rfl, rfl⟩
          exact Shows.modify ⟨rfl, by simpa using hb, .current hv2 hv1 hvalid⟩

/-- The check of a grant finds nothing only where the grant matches. -/
theorem grantMismatch_spec {record : RuntimeRecord} (hv : J v.store) :
    Journals J flag v m (grantMismatch p record)
      (fun b mismatch v' m' => v' = v ∧ m' = m ∧ (b = true → flag v.store = true) ∧
        (mismatch = none → record.Matches p v))
      (fun _ _ _ => False) := by
  refine Shows.bind (Shows.attempt (Q := fun b boot v' m' => v' = v ∧ m' = m ∧
    (b = true → flag v.store = true) ∧ ∀ id, boot = .ok id → v.bootId = some id)
    (Shows.conseq (Shows.readSome JournalView.bootId (fun _ => rfl) hv) ?_ ?_)) ?_
  · rintro b id v' m' ⟨hid, rfl, rfl, hb⟩
    exact ⟨rfl, rfl, hb, fun id' h => by rw [hid, Except.ok.inj h]⟩
  · rintro b v' m' ⟨rfl, rfl, hb⟩ e
    exact ⟨rfl, rfl, hb, fun _ h => absurd h (by simp)⟩
  · rintro b boot v' m' ⟨rfl, rfl, hb, hboot⟩
    refine Shows.bind (Shows.attempt (Q := fun b id v'' m'' => v'' = v' ∧ m'' = m' ∧
      (b = true → flag v'.store = true) ∧ ∀ n, id = .ok n → v'.networkNamespace = n)
      (Shows.conseq (Shows.read JournalView.networkNamespace (fun _ => rfl) hv) ?_ ?_)) ?_
    · rintro b n v'' m'' ⟨rfl, rfl, rfl, hb⟩
      exact ⟨rfl, rfl, hb, fun n h => by rw [Except.ok.inj h]⟩
    · rintro b v'' m'' ⟨rfl, rfl, hb⟩ e
      exact ⟨rfl, rfl, hb, fun _ h => absurd h (by simp)⟩
    · rintro b' namespaceId v'' m'' ⟨rfl, rfl, hb', hnamespace⟩
      have hor : (b || (b' || false)) = true → flag v''.store = true :=
        flag_or hb (flag_or hb' flag_false)
      cases boot with
      | error e => exact Shows.pure ⟨rfl, rfl, hor, fun h => absurd h (by simp)⟩
      | ok boot =>
        cases namespaceId with
        | error e => exact Shows.pure ⟨rfl, rfl, hor, fun h => absurd h (by simp)⟩
        | ok namespaceId =>
          show Journals J flag v'' m'' (if _ then _ else if _ then _ else _) _ _
          split
          · exact Shows.pure ⟨rfl, rfl, hor, fun h => absurd h (by simp)⟩
          · rename_i hsame
            split
            · exact Shows.pure ⟨rfl, rfl, hor, fun h => absurd h (by simp)⟩
            · rename_i hpolicy
              obtain ⟨hid, hn⟩ := not_or.1 hsame
              refine Shows.pure ⟨rfl, rfl, hor, fun _ => ⟨?_, ?_, not_not.1 hpolicy⟩⟩
              · rw [hboot boot rfl, not_not.1 hid]
              · rw [hnamespace namespaceId rfl, not_not.1 hn]

theorem loadRuntime_spec (hv : J v.store) :
    Journals J flag v m (loadRuntime p)
      (fun b _ v' m' => v' = v ∧ (b = true → flag v.store = true) ∧ RuntimeLoaded p v m m')
      (fun b v' m' => v' = v ∧ m' = m ∧ (b = true → flag v.store = true)) := by
  refine Shows.get_bind ?_
  split
  · rename_i hloaded
    exact Shows.pure ⟨rfl, flag_false, .again hloaded⟩
  · rename_i hloaded
    have hloaded : m.runtimeLoaded = false := Bool.eq_false_of_not_eq_true hloaded
    refine Shows.bind (load_spec hv) ?_
    rintro b record v' m' ⟨rfl, rfl, rfl, hb⟩
    refine Shows.modify_bind ?_
    cases hruntime : (v'.store.getD {}).runtime with
    | none =>
      have hread := RuntimeLoaded.read (p := p) (v := v') none hloaded
        fun _ record h => absurd (hruntime.symm.trans h) (by simp)
      refine Shows.modify ⟨rfl, flag_or hb flag_false, ?_⟩
      rw [Backend.runtimeRead, hruntime] at hread
      exact hread
    | some runtime =>
      refine Shows.bind (Shows.conseq (grantMismatch_spec hv) (fun _ _ _ _ h => h)
        fun _ _ _ h => h.elim) ?_
      rintro b' mismatch w m'' ⟨rfl, rfl, hb', hmatches⟩
      refine Shows.modify ⟨rfl, flag_or hb (flag_or hb' flag_false), ?_⟩
      have hread := RuntimeLoaded.read (p := p) (v := w) mismatch hloaded fun hnone record h => by
        rw [← Option.some.inj (hruntime.symm.trans h)]
        exact hmatches hnone
      rw [Backend.runtimeRead, hruntime] at hread
      exact hread

end Reading

/-! ## Reconciling -/

/-- The journal of the empty state, with the receipt of the restore that led to it. -/
def emptiedStore (restoreReceipt : Option RestoreReceipt) : Option StoredAppliedState :=
  restoreReceipt.map fun receipt => .committed none none (some receipt)

/-- What finishing a pending transition makes of the journal. -/
def StoredAppliedState.repaired (record : StoredAppliedState) :
    Option (Option StoredAppliedState) :=
  committedStore record.active record.activeNftFingerprint none (.of record)

/-- A journal that `ensure_reconciled` has to finish. -/
def StoredAppliedState.unfinished (record : StoredAppliedState) : Bool :=
  record.pending.isSome || record.cleanupPending || record.orphanCleanup.isSome

/-- The journals that reconciling can write. -/
inductive RecoveryWrites (record : StoredAppliedState) : Option StoredAppliedState → Prop
  | orphan (ownership : OrphanedOwnership) : record.orphanCleanup.isSome = true →
      RecoveryWrites record (some (orphanJournal ownership))
  | orphanDone : record.orphanCleanup.isSome = true → RecoveryWrites record none
  | cleaned : record.cleanupPending = true →
      RecoveryWrites record (emptiedStore record.restoreReceipt)
  | repaired {written : Option StoredAppliedState} : record.pending.isSome = true →
      record.repaired = some written → RecoveryWrites record written
  | empty : record.active = none → record.restoreReceipt = none → RecoveryWrites record none

/-- Where reconciling got to. -/
inductive Reconciled (p : Primitives) (record : StoredAppliedState) (m : Backend) :
    Option StoredAppliedState → Backend → Prop
  | legacyV2 : record.legacyV2.isSome = true → validateLegacyV2Envelope record = .ok () →
      Reconciled p record m (some record) (m.adoptedV2 record)
  | legacyV1 : record.legacyV2 = none → record.legacyV1.isSome = true →
      validateLegacyEnvelope record = .ok () →
      Reconciled p record m (some record) (m.adoptedV1 record)
  | orphan : validateJournal p record = .ok () → record.orphanCleanup.isSome = true →
      Reconciled p record m none (m.cleared none)
  | cleaned : validateJournal p record = .ok () → record.cleanupPending = true →
      Reconciled p record m (emptiedStore record.restoreReceipt)
        { m.cleared record.restoreReceipt with interfaceSettings := [] }
  | repaired {written : Option StoredAppliedState} : validateJournal p record = .ok () →
      record.pending.isSome = true → record.repaired = some written →
      Reconciled p record m written { m.adopting record none with runtimeLoaded := false }
  | committed {active : KernelPlan} : validateJournal p record = .ok () →
      record.interrupted = false → record.active = some active →
      Reconciled p record m (some record) (m.adopting record record.restoreReceipt)
  | empty : validateJournal p record = .ok () → record.interrupted = false →
      record.active = none →
      Reconciled p record m (record.restoreReceipt.map fun _ => record)
        (m.cleared record.restoreReceipt)

/-- Where reconciling gave up; it leaves the memory alone. -/
inductive ReconcileFailed (flag : Option StoredAppliedState → Bool) (v : JournalView)
    (record : StoredAppliedState) : Bool → JournalView → Prop
  | unwritten {b : Bool} {v' : JournalView} : v'.store = v.store →
      (b = true → flag v.store = true) → ReconcileFailed flag v record b v'
  | orphan {b : Bool} {v' : JournalView} (ownership : OrphanedOwnership) :
      record.orphanCleanup.isSome = true → v'.store = some (orphanJournal ownership) →
      ReconcileFailed flag v record b v'
  | unsynced {b : Bool} {v' : JournalView} : RecoveryWrites record v'.store → ¬v.Synced →
      ReconcileFailed flag v record b v'

theorem ReconcileFailed.later {flag : Option StoredAppliedState → Bool} {v v' : JournalView}
    {record : StoredAppliedState} {b b' : Bool} (h : ReconcileFailed flag v record b' v')
    (hb : b = true → flag v.store = true) : ReconcileFailed flag v record (b || b') v' := by
  cases h with
  | unwritten hsame hb' => exact .unwritten hsame (flag_or hb hb')
  | orphan ownership horphan hleft => exact .orphan ownership horphan hleft
  | unsynced hwrites hsynced => exact .unsynced hwrites hsynced

theorem ReconcileFailed.store {flag : Option StoredAppliedState → Bool} {v v' : JournalView}
    {record : StoredAppliedState} {b : Bool} (h : ReconcileFailed flag v record b v') :
    v'.store = v.store ∨ RecoveryWrites record v'.store := by
  cases h with
  | unwritten hsame _ => exact Or.inl hsame
  | orphan ownership horphan hleft =>
    rw [hleft]
    exact Or.inr (.orphan ownership horphan)
  | unsynced hwrites _ => exact Or.inr hwrites

section Orphans

variable {J : Option StoredAppliedState → Prop} {flag : Option StoredAppliedState → Bool}
  {v : JournalView} {m : Backend} {p : Primitives}

/-- Writing an orphan journal leaves an orphan journal, if it leaves anything new. -/
theorem saveOrphan_spec {ownership : OrphanedOwnership} (hv : J v.store)
    (hJ : ∀ ownership, J (some (orphanJournal ownership))) :
    Journals J flag v m (save p (orphanJournal ownership))
      (fun _ _ v' m' => v.Follows v' ∧ m' = m ∧ v'.store = some (orphanJournal ownership))
      (fun b v' m' => v.Follows v' ∧ m' = m ∧
        ((v'.store = v.store ∧ (b = true → flag v.store = true)) ∨
          ∃ ownership, v'.store = some (orphanJournal ownership))) := by
  refine Shows.conseq (save_spec hv (hJ ownership)) ?_ ?_
  · rintro b _ v' m' ⟨hwritten, hfollows, rfl⟩
    exact ⟨hfollows, rfl, hwritten⟩
  · rintro b v' m' ⟨hfollows, rfl, hsame | ⟨hwritten, -⟩⟩
    · exact ⟨hfollows, rfl, Or.inl hsame⟩
    · exact ⟨hfollows, rfl, Or.inr ⟨_, hwritten⟩⟩

/-- The journal tells of an orphan. -/
def TellsOrphan (store : Option StoredAppliedState) : Prop :=
  ∃ ownership, store = some (orphanJournal ownership)

/-- A part of the removal of an orphan starts from an orphan journal and leaves one. -/
def KeepsOrphan (J : Option StoredAppliedState → Prop) (flag : Option StoredAppliedState → Bool)
    {α : Type} (q : BackendM α) : Prop :=
  ∀ (v : JournalView) (m : Backend), TellsOrphan v.store →
    Journals J flag v m q (fun _ _ v' m' => v.Follows v' ∧ m' = m ∧ TellsOrphan v'.store)
      (fun _ v' m' => v.Follows v' ∧ m' = m ∧ TellsOrphan v'.store)

namespace KeepsOrphan

variable {α β : Type} {q : BackendM α} {f : α → BackendM β}

theorem bind (hq : KeepsOrphan J flag q) (hf : ∀ a, KeepsOrphan J flag (f a)) :
    KeepsOrphan J flag (q >>= f) := by
  intro v m hv
  refine Shows.bind (hq v m hv) ?_
  rintro b a v' m' ⟨hfollows, rfl, hv'⟩
  refine Shows.conseq (hf a v' m' hv') ?_ ?_
  · rintro b' _ v'' m'' ⟨hfollows', rfl, hv''⟩
    exact ⟨hfollows.trans hfollows', rfl, hv''⟩
  · rintro b' v'' m'' ⟨hfollows', rfl, hv''⟩
    exact ⟨hfollows.trans hfollows', rfl, hv''⟩

theorem quiet (hJ : ∀ ownership, J (some (orphanJournal ownership))) (hq : Untouched q) :
    KeepsOrphan J flag q := by
  rintro v m ⟨ownership, hv⟩
  have hJv : J v.store := by
    rw [hv]
    exact hJ ownership
  refine Shows.conseq (Shows.quiet hq hJv) ?_ ?_
  · rintro b _ v' m' ⟨rfl, rfl, -⟩
    exact ⟨.refl _, rfl, ownership, hv⟩
  · rintro b v' m' ⟨rfl, rfl, -⟩
    exact ⟨.refl _, rfl, ownership, hv⟩

theorem save (hJ : ∀ ownership, J (some (orphanJournal ownership)))
    (ownership : OrphanedOwnership) :
    KeepsOrphan J flag (RouteLane.save p (orphanJournal ownership)) := by
  rintro v m ⟨before, hv⟩
  have hJv : J v.store := by
    rw [hv]
    exact hJ before
  refine Shows.conseq (saveOrphan_spec hJv hJ) ?_ ?_
  · rintro b _ v' m' ⟨hfollows, rfl, hwritten⟩
    exact ⟨hfollows, rfl, ownership, hwritten⟩
  · rintro b v' m' ⟨hfollows, rfl, ⟨hsame, -⟩ | hwritten⟩
    · exact ⟨hfollows, rfl, before, hsame.trans hv⟩
    · exact ⟨hfollows, rfl, hwritten⟩

theorem removeOrphanRules (hJ : ∀ ownership, J (some (orphanJournal ownership)))
    (rules : List RuleOwnership) :
    ∀ ownership, KeepsOrphan J flag (RouteLane.removeOrphanRules p ownership rules) := by
  induction rules with
  | nil => exact fun ownership => quiet hJ (Quiet.pure ownership)
  | cons rule rules ih =>
    intro ownership
    refine bind (quiet hJ (untouched_onKernel _)) fun _ => ?_
    exact bind (save hJ _) fun _ => ih _

theorem removeOrphanRoutes (hJ : ∀ ownership, J (some (orphanJournal ownership)))
    (routes : List RouteOwnership) :
    ∀ ownership, KeepsOrphan J flag (RouteLane.removeOrphanRoutes p ownership routes) := by
  induction routes with
  | nil => exact fun ownership => quiet hJ (Quiet.pure ownership)
  | cons route routes ih =>
    intro ownership
    refine bind (quiet hJ (untouched_onKernel _)) fun _ => ?_
    exact bind (save hJ _) fun _ => ih _

theorem removeOrphanTable (hJ : ∀ ownership, J (some (orphanJournal ownership)))
    (ownership : OrphanedOwnership) :
    KeepsOrphan J flag (RouteLane.removeOrphanTable p ownership) := by
  unfold RouteLane.removeOrphanTable
  split
  · exact quiet hJ (Quiet.pure ())
  · refine bind (quiet hJ (untouched_onKernel _)) fun _ => ?_
    refine bind (quiet hJ (untouched_require _ _)) fun _ => ?_
    exact bind (quiet hJ (untouched_onKernel _)) fun _ => save hJ _

/-- Such a part comes first. -/
theorem andThen (hq : KeepsOrphan J flag q) (hv : TellsOrphan v.store)
    {R : Bool → β → JournalView → Backend → Prop} {E : Bool → JournalView → Backend → Prop}
    (hE : ∀ b v', v.Follows v' → TellsOrphan v'.store → E b v' m)
    (hf : ∀ b a v', v.Follows v' → TellsOrphan v'.store →
      Journals J flag v' m (f a) (fun b' => R (b || b')) (fun b' => E (b || b'))) :
    Journals J flag v m (q >>= f) R E := by
  refine Shows.bind (Shows.conseq (hq v m hv) (fun _ _ _ _ h => h) ?_) ?_
  · rintro b v' m' ⟨hfollows, rfl, hv'⟩
    exact hE b v' hfollows hv'
  · rintro b a v' m' ⟨hfollows, rfl, hv'⟩
    exact hf b a v' hfollows hv'

end KeepsOrphan

/-- An orphan is removed, or some of it is still journaled. -/
theorem resumeOrphanCleanup_spec {record : StoredAppliedState} (hv : J v.store)
    (hstore : v.store = some record) (horphan : record.orphanCleanup.isSome = true)
    (hJ : ∀ ownership, J (some (orphanJournal ownership))) (hnone : J none) :
    Journals J flag v m (resumeOrphanCleanup p)
      (fun _ _ v' m' => v.Follows v' ∧ m' = m ∧ v'.store = none)
      (fun b v' m' => v.Follows v' ∧ m' = m ∧ ReconcileFailed flag v record b v') := by
  have hstill : ∀ b, (b = true → flag v.store = true) →
      v.Follows v ∧ m = m ∧ ReconcileFailed flag v record b v :=
    fun b hb => ⟨.refl v, rfl, .unwritten rfl hb⟩
  refine Shows.bind (Shows.conseq (load_spec hv) (fun _ _ _ _ h => h) ?_) ?_
  · rintro b v' m' ⟨rfl, rfl, hb⟩
    exact hstill b hb
  rintro b loaded v' m' ⟨rfl, rfl, rfl, hb⟩
  obtain ⟨ownership, hownership⟩ := Option.isSome_iff_exists.1 horphan
  rw [hstore]
  refine Shows.quiet_bind (untouched_lift _) hv (fun b' hb' => hstill _ (flag_or hb hb'))
    fun b₁ _ hb₁ => ?_
  simp only [hownership]
  refine Shows.quiet_bind (untouched_onKernel _) hv
    (fun b' hb' => hstill _ (flag_or hb (flag_or hb₁ hb'))) fun b₂ captured hb₂ => ?_
  refine Shows.quiet_bind (untouched_onKernel _) hv
    (fun b' hb' => hstill _ (flag_or hb (flag_or hb₁ (flag_or hb₂ hb'))))
    fun b₃ fingerprint hb₃ => ?_
  refine Shows.quiet_bind (untouched_lift _) hv
    (fun b' hb' => hstill _ (flag_or hb (flag_or hb₁ (flag_or hb₂ (flag_or hb₃ hb')))))
    fun b₄ owned hb₄ => ?_
  refine Shows.bind (Shows.conseq (saveOrphan_spec hv hJ) (fun _ _ _ _ h => h) ?_) ?_
  · rintro b' w m'' ⟨hfollows, rfl, ⟨hsame, hb'⟩ | ⟨left, hleft⟩⟩
    · exact ⟨hfollows, rfl, .unwritten hsame
        (flag_or hb (flag_or hb₁ (flag_or hb₂ (flag_or hb₃ (flag_or hb₄ hb')))))⟩
    · exact ⟨hfollows, rfl, .orphan left horphan hleft⟩
  rintro b' _ w m'' ⟨hfollows, rfl, hwritten⟩
  -- from here on the journal tells of what is left of the orphan
  have hfailed : ∀ {b : Bool} {u : JournalView}, w.Follows u → TellsOrphan u.store →
      v'.Follows u ∧ m'' = m'' ∧ ReconcileFailed flag v' record b u :=
    fun hu htells => ⟨hfollows.trans hu, rfl, htells.elim fun left hleft =>
      .orphan left horphan hleft⟩
  refine (KeepsOrphan.removeOrphanRules hJ _ _).andThen ⟨owned, hwritten⟩
    (fun _ _ hu htells => hfailed hu htells) fun _ owned w₁ hw₁ hleft => ?_
  refine (KeepsOrphan.removeOrphanRoutes hJ _ _).andThen hleft
    (fun _ _ hu htells => hfailed (hw₁.trans hu) htells) fun _ owned w₂ hw₂ hleft => ?_
  refine (KeepsOrphan.removeOrphanTable hJ _).andThen hleft
    (fun _ _ hu htells => hfailed ((hw₁.trans hw₂).trans hu) htells) fun _ _ w₃ hw₃ hleft => ?_
  refine (KeepsOrphan.quiet hJ (untouched_onKernel _)).andThen hleft
    (fun _ _ hu htells => hfailed (((hw₁.trans hw₂).trans hw₃).trans hu) htells)
    fun _ captured w₄ hw₄ hleft => ?_
  refine (KeepsOrphan.quiet hJ (untouched_require _ _)).andThen hleft
    (fun _ _ hu htells => hfailed ((((hw₁.trans hw₂).trans hw₃).trans hw₄).trans hu) htells)
    fun _ _ w₅ hw₅ hleft => ?_
  have hw := (((hw₁.trans hw₂).trans hw₃).trans hw₄).trans hw₅
  have hJw : J w₅.store := by
    obtain ⟨left, hleft⟩ := hleft
    rw [hleft]
    exact hJ left
  refine Shows.conseq (clear_spec hJw hnone) ?_ ?_
  · rintro b _ u m₃ ⟨hcleared, hu, rfl⟩
    exact ⟨hfollows.trans (hw.trans hu), rfl, hcleared⟩
  · rintro b u m₃ ⟨hu, rfl, ⟨hsame, -⟩ | ⟨hcleared, hsynced⟩⟩
    · rw [← hsame] at hleft
      exact hfailed (hw.trans hu) hleft
    · refine ⟨hfollows.trans (hw.trans hu), rfl, .unsynced ?_ fun h => ?_⟩
      · rw [hcleared]
        exact .orphanDone horphan
      · exact hsynced ((hfollows.trans hw).synced h)

end Orphans

section Reconcile

variable {J : Option StoredAppliedState → Prop} {flag : Option StoredAppliedState → Bool}
  {v : JournalView} {m : Backend} {p : Primitives} {record : StoredAppliedState}

theorem resumeCleanup_spec (hv : J v.store) (hvalid : validateJournal p record = .ok ())
    (hcleanup : record.cleanupPending = true) (hJ : J (emptiedStore record.restoreReceipt)) :
    Journals J flag v m (resumeCleanup p record)
      (fun _ _ v' m' => v.Follows v' ∧ Reconciled p record m v'.store m')
      (fun b v' m' => v.Follows v' ∧ m' = m ∧ ReconcileFailed flag v record b v') := by
  have hstill : ∀ b, (b = true → flag v.store = true) →
      v.Follows v ∧ m = m ∧ ReconcileFailed flag v record b v :=
    fun b hb => ⟨.refl v, rfl, .unwritten rfl hb⟩
  refine Shows.quiet_bind (untouched_onKernel _) hv hstill fun b₁ _ hb₁ => ?_
  refine Shows.quiet_bind (untouched_withRunner _ _) hv
    (fun b hb => hstill _ (flag_or hb₁ hb)) fun b₂ result hb₂ => ?_
  refine Shows.quiet_bind (untouched_lift _) hv
    (fun b hb => hstill _ (flag_or hb₁ (flag_or hb₂ hb))) fun b₃ _ hb₃ => ?_
  refine Shows.quiet_bind (untouched_restoreSettingReceipts _) hv
    (fun b hb => hstill _ (flag_or hb₁ (flag_or hb₂ (flag_or hb₃ hb)))) fun b₄ _ hb₄ => ?_
  have hfinish : ∀ {b : Bool} {v' : JournalView}, v.Follows v' →
      WriteFailed flag v (emptiedStore record.restoreReceipt) b v' →
      v.Follows v' ∧ m = m ∧ ReconcileFailed flag v record (b₁ || (b₂ || (b₃ || (b₄ || b)))) v' := by
    rintro b v' hfollows (⟨hsame, h⟩ | ⟨hwritten, hsynced⟩)
    · exact ⟨hfollows, rfl, .unwritten hsame
        (flag_or hb₁ (flag_or hb₂ (flag_or hb₃ (flag_or hb₄ h))))⟩
    · refine ⟨hfollows, rfl, .unsynced ?_ hsynced⟩
      rw [hwritten]
      exact .cleaned hcleanup
  have hdone : ∀ {v' : JournalView}, v.Follows v' →
      v'.store = emptiedStore record.restoreReceipt → v.Follows v' ∧
        Reconciled p record m v'.store
          { m.cleared record.restoreReceipt with interfaceSettings := [] } := by
    rintro v' hfollows hwritten
    rw [hwritten]
    exact ⟨hfollows, .cleaned hvalid hcleanup⟩
  cases hreceipt : record.restoreReceipt with
  | some receipt =>
    rw [hreceipt] at hJ hfinish hdone
    refine Shows.bind (Shows.conseq (save_spec hv hJ) (fun _ _ _ _ h => h) ?_) ?_
    · rintro b v' m' ⟨hfollows, rfl, hfailed⟩
      exact hfinish hfollows hfailed
    · rintro b _ v' m' ⟨hwritten, hfollows, rfl⟩
      exact Shows.modify (hdone hfollows hwritten)
  | none =>
    rw [hreceipt] at hJ hfinish hdone
    refine Shows.bind (Shows.conseq (clear_spec hv hJ) (fun _ _ _ _ h => h) ?_) ?_
    · rintro b v' m' ⟨hfollows, rfl, hfailed⟩
      exact hfinish hfollows hfailed
    · rintro b _ v' m' ⟨hwritten, hfollows, rfl⟩
      exact Shows.modify (hdone hfollows hwritten)

theorem resumePending_spec {pending : KernelPlan} {expectations : JournaledExpectations}
    (hv : J v.store) (hvalid : validateJournal p record = .ok ())
    (hpending : record.pending.isSome = true)
    (hJ : ∀ written, record.repaired = some written → J written) :
    Journals J flag v m (resumePending p record pending expectations)
      (fun _ _ v' m' => v.Follows v' ∧ Reconciled p record m v'.store m')
      (fun b v' m' => v.Follows v' ∧ m' = m ∧ ReconcileFailed flag v record b v') := by
  have hstill : ∀ b, (b = true → flag v.store = true) →
      v.Follows v ∧ m = m ∧ ReconcileFailed flag v record b v :=
    fun b hb => ⟨.refl v, rfl, .unwritten rfl hb⟩
  refine Shows.quiet_bind (untouched_onKernel _) hv hstill fun b₁ _ hb₁ => ?_
  refine Shows.quiet_bind (untouched_withRunner _ _) hv
    (fun b hb => hstill _ (flag_or hb₁ hb)) fun b₂ result hb₂ => ?_
  refine Shows.quiet_bind (untouched_lift _) hv
    (fun b hb => hstill _ (flag_or hb₁ (flag_or hb₂ hb))) fun b₃ _ hb₃ => ?_
  refine Shows.quiet_bind (untouched_withRunner _ _) hv
    (fun b hb => hstill _ (flag_or hb₁ (flag_or hb₂ (flag_or hb₃ hb)))) fun b₄ exact hb₄ => ?_
  refine Shows.quiet_bind (untouched_lift _) hv
    (fun b hb => hstill _ (flag_or hb₁ (flag_or hb₂ (flag_or hb₃ (flag_or hb₄ hb)))))
    fun b₅ _ hb₅ => ?_
  refine Shows.quiet_bind (untouched_restoreSettingReceipts _) hv (fun b hb => hstill _
    (flag_or hb₁ (flag_or hb₂ (flag_or hb₃ (flag_or hb₄ (flag_or hb₅ hb)))))) fun b₆ _ hb₆ => ?_
  refine Shows.bind (Shows.conseq (persist_spec hv hJ) (fun _ _ _ _ h => h) ?_) ?_
  · rintro b v' m' ⟨hfollows, rfl, ⟨hsame, hb⟩ | ⟨hwritten, hsynced⟩⟩
    · exact ⟨hfollows, rfl, .unwritten hsame (flag_or hb₁ (flag_or hb₂ (flag_or hb₃
        (flag_or hb₄ (flag_or hb₅ (flag_or hb₆ hb))))))⟩
    · exact ⟨hfollows, rfl, .unsynced (.repaired hpending hwritten) hsynced⟩
  · rintro b _ v' m' ⟨hwritten, hfollows, rfl⟩
    exact Shows.modify ⟨hfollows, .repaired hvalid hpending hwritten⟩

theorem adoptCommitted_spec (hv : J v.store) (hstore : v.store = some record)
    (hvalid : validateJournal p record = .ok ()) (hnot : record.interrupted = false)
    (hJ : record.active = none → record.restoreReceipt = none → J none) :
    Journals J flag v m (adoptCommitted p record)
      (fun _ _ v' m' => v.Follows v' ∧ Reconciled p record m v'.store m')
      (fun b v' m' => v.Follows v' ∧ m' = m ∧ ReconcileFailed flag v record b v') := by
  have hstill : ∀ b, (b = true → flag v.store = true) →
      v.Follows v ∧ m = m ∧ ReconcileFailed flag v record b v :=
    fun b hb => ⟨.refl v, rfl, .unwritten rfl hb⟩
  unfold adoptCommitted
  cases hactive : record.active with
  | some active =>
    simp only
    refine Shows.quiet_bind (untouched_onKernel _) hv hstill fun b complete hb => ?_
    cases complete with
    | false => exact Shows.fail (hstill _ (flag_or hb flag_false))
    | true =>
      simp only [if_true]
      refine Shows.modify ⟨.refl v, ?_⟩
      rw [hstore]
      exact .committed hvalid hnot hactive
  | none =>
    have hempty := Reconciled.empty (m := m) hvalid hnot hactive
    cases hreceipt : record.restoreReceipt with
    | some receipt =>
      rw [hreceipt] at hempty
      simp only [Option.isNone_some, Bool.false_eq_true, if_false]
      refine Shows.modify ⟨.refl _, ?_⟩
      rw [hstore]
      exact hempty
    | none =>
      rw [hreceipt] at hempty
      simp only [Option.isNone_none, if_true]
      refine Shows.bind (Shows.conseq (clear_spec hv (hJ hactive hreceipt))
        (fun _ _ _ _ h => h) ?_) ?_
      · rintro b v' m' ⟨hfollows, rfl, ⟨hsame, hb⟩ | ⟨hwritten, hsynced⟩⟩
        · exact ⟨hfollows, rfl, .unwritten hsame hb⟩
        · refine ⟨hfollows, rfl, .unsynced ?_ hsynced⟩
          rw [hwritten]
          exact .empty hactive hreceipt
      · rintro b _ v' m' ⟨hwritten, hfollows, rfl⟩
        refine Shows.modify ⟨hfollows, ?_⟩
        rw [hwritten]
        exact hempty

/-- Reconciling a journal finishes what it tells of, or gives up with a journal that still
tells of it, unless the state directory could not be synced. -/
theorem reconcile_spec (hstore : v.store = some record) (hv : J v.store)
    (hJ : ∀ written, RecoveryWrites record written → J written) :
    Journals J flag v m (reconcile p record)
      (fun _ _ v' m' => v.Follows v' ∧ Reconciled p record m v'.store m')
      (fun b v' m' => v.Follows v' ∧ m' = m ∧ ReconcileFailed flag v record b v') := by
  have hstill : ∀ b, (b = true → flag v.store = true) →
      v.Follows v ∧ m = m ∧ ReconcileFailed flag v record b v :=
    fun b hb => ⟨.refl v, rfl, .unwritten rfl hb⟩
  unfold reconcile
  split
  · rename_i hlegacy
    refine Shows.bind (Shows.conseq lift_spec (fun _ _ _ _ h => h) ?_) ?_
    · rintro b v' m' ⟨-, rfl, rfl, rfl⟩
      exact hstill false flag_false
    · rintro b _ v' m' ⟨hvalid, rfl, rfl, rfl⟩
      refine Shows.modify ⟨.refl _, ?_⟩
      rw [hstore]
      exact .legacyV2 hlegacy hvalid
  rename_i hv2
  have hv2 : record.legacyV2 = none := by simpa using hv2
  split
  · rename_i hlegacy
    refine Shows.bind (Shows.conseq lift_spec (fun _ _ _ _ h => h) ?_) ?_
    · rintro b v' m' ⟨-, rfl, rfl, rfl⟩
      exact hstill false flag_false
    · rintro b _ v' m' ⟨hvalid, rfl, rfl, rfl⟩
      refine Shows.modify ⟨.refl _, ?_⟩
      rw [hstore]
      exact .legacyV1 hv2 hlegacy hvalid
  rename_i hv1
  have hv1 : record.legacyV1 = none := by simpa using hv1
  refine Shows.bind (Shows.conseq lift_spec (fun _ _ _ _ h => h) ?_) ?_
  · rintro b v' m' ⟨-, rfl, rfl, rfl⟩
    exact hstill false flag_false
  rintro b _ v' m' ⟨hvalid, rfl, rfl, rfl⟩
  simp only [Bool.false_or]
  split
  · rename_i horphan
    refine Shows.bind (Shows.conseq (resumeOrphanCleanup_spec hv hstore horphan
      (fun ownership => hJ _ (.orphan ownership horphan)) (hJ _ (.orphanDone horphan)))
      (fun _ _ _ _ h => h) fun _ _ _ h => h) ?_
    rintro b _ w m'' ⟨hfollows, rfl, hnone⟩
    refine Shows.modify ⟨hfollows, ?_⟩
    rw [hnone]
    exact .orphan hvalid horphan
  rename_i horphan
  have horphan : record.orphanCleanup = none := by simpa using horphan
  split
  · rename_i hcleanup
    exact resumeCleanup_spec hv hvalid hcleanup (hJ _ (.cleaned hcleanup))
  rename_i hcleanup
  have hcleanup : record.cleanupPending = false := Bool.eq_false_of_not_eq_true hcleanup
  split
  · rename_i pending expectations hpending _
    have hpending : record.pending.isSome = true := by rw [hpending]; rfl
    exact resumePending_spec hv hvalid hpending fun written h => hJ _ (.repaired hpending h)
  · exact Shows.fail (hstill false flag_false)
  · rename_i hpending
    have hnot : record.interrupted = false := by
      simp [StoredAppliedState.interrupted, hpending, hcleanup, horphan, hv1, hv2]
    exact adoptCommitted_spec hv hstore hvalid hnot fun hactive hreceipt =>
      hJ _ (.empty hactive hreceipt)

/-- What `ensure_reconciled` makes of the journal and the memory. -/
inductive EnsuredReconciled (p : Primitives) (v : JournalView) (m : Backend) :
    JournalView → Backend → Prop
  | absent : v.store = none → EnsuredReconciled p v m v { m with initialized := true }
  | already {record : StoredAppliedState} : v.store = some record → m.initialized = true →
      record.unfinished = false → EnsuredReconciled p v m v m
  | reconciled {record : StoredAppliedState} {v' : JournalView} {m' : Backend} :
      v.store = some record → (m.initialized = false ∨ record.unfinished = true) →
      Reconciled p record m v'.store m' → EnsuredReconciled p v m v' m'

/-- The journal reconciling ends with is the one it found or one it wrote. -/
theorem Reconciled.store {store : Option StoredAppliedState} {m' : Backend}
    (h : Reconciled p record m store m') : store = some record ∨ RecoveryWrites record store := by
  cases h with
  | legacyV2 _ _ => exact Or.inl rfl
  | legacyV1 _ _ _ => exact Or.inl rfl
  | orphan _ horphan => exact Or.inr (.orphanDone horphan)
  | cleaned _ hcleanup => exact Or.inr (.cleaned hcleanup)
  | repaired _ hpending hwritten => exact Or.inr (.repaired hpending hwritten)
  | committed _ _ _ => exact Or.inl rfl
  | empty _ _ hactive =>
    cases hreceipt : record.restoreReceipt with
    | none => exact Or.inr (.empty hactive hreceipt)
    | some receipt => exact Or.inl rfl

theorem EnsuredReconciled.store {v' : JournalView} {m' : Backend}
    (h : EnsuredReconciled p v m v' m') : v'.store = v.store ∨
      ∃ record, v.store = some record ∧ RecoveryWrites record v'.store := by
  cases h with
  | absent _ => exact Or.inl rfl
  | already _ _ _ => exact Or.inl rfl
  | reconciled hstore _ hreconciled =>
    rcases hreconciled.store with hsame | hwrites
    · exact Or.inl (hsame.trans hstore.symm)
    · exact Or.inr ⟨_, hstore, hwrites⟩

theorem ensureReconciled_spec (hv : J v.store)
    (hJ : ∀ record written, v.store = some record → RecoveryWrites record written → J written) :
    Journals J flag v m (ensureReconciled p)
      (fun _ _ v' m' => v.Follows v' ∧ EnsuredReconciled p v m v' m')
      (fun b v' m' => v.Follows v' ∧ m' = m ∧ ((v'.store = v.store ∧
        (b = true → flag v.store = true)) ∨ ∃ record, v.store = some record ∧
          ReconcileFailed flag v record b v')) := by
  refine Shows.bind (Shows.conseq (load_spec hv) (fun _ _ _ _ h => h) ?_) ?_
  · rintro b v' m' ⟨rfl, rfl, hb⟩
    exact ⟨.refl _, rfl, Or.inl ⟨rfl, hb⟩⟩
  rintro b loaded v' m' ⟨rfl, rfl, rfl, hb⟩
  refine Shows.get_bind ?_
  cases hstore : v'.store with
  | none => exact Shows.modify ⟨.refl _, .absent hstore⟩
  | some record =>
    have hdo : (!m'.initialized || record.pending.isSome || record.cleanupPending ||
        record.orphanCleanup.isSome) = (!m'.initialized || record.unfinished) := by
      simp only [StoredAppliedState.unfinished, Bool.or_assoc]
    show Journals J flag v' m' (if _ then _ else _) _ _
    rw [hdo]
    split
    · rename_i hunfinished
      refine Shows.conseq (reconcile_spec hstore hv fun written => hJ record written hstore) ?_ ?_
      · rintro b' _ w m'' ⟨hfollows, hreconciled⟩
        refine ⟨hfollows, .reconciled hstore ?_ hreconciled⟩
        simpa using hunfinished
      · rintro b' w m'' ⟨hfollows, rfl, hfailed⟩
        exact ⟨hfollows, rfl, Or.inr ⟨record, rfl, hfailed.later hb⟩⟩
    · rename_i hdone
      have hdone : m'.initialized = true ∧ record.unfinished = false := by simpa using hdone
      exact Shows.pure ⟨.refl _, .already hstore hdone.1 hdone.2⟩

end Reconcile

end RouteLane
