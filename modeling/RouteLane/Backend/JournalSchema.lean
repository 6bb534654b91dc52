import RouteLane.Backend.JournalRecords
import RouteLane.Net.JsonText

/-!
# The file of the journal

The journal as JSON.  One file has had three schemas: the first has no version, the second
says 2 and the current one 3.  A journal of an earlier schema is read strictly and wrapped
for cleanup.
-/

namespace RouteLane

open Fallible JsonValue

/-- How addresses, networks and the hashes of plans stand in a journal. -/
structure JournalCodecs where
  network : NetworkText
  planHash : Codec PlanHash
  planHash_readsBack : ∀ hash, planHash.ReadsBack hash

/-- `JOURNAL_VERSION`. -/
def journalVersion : ℕ := 3

/-! ## Records -/

section Records

/-- The fields of `PendingExpectations`, and of `PendingExpectationsV2`. -/
def expectationParts (e : JournaledExpectations) : List (String × Option JsonValue) :=
  [("guard_nft_fingerprint", some (Codec.string.encode e.guardNftFingerprint)),
    ("guardless_transaction_nft_fingerprint",
      some (Codec.string.encode e.guardlessTransactionNftFingerprint)),
    ("activated_nft_fingerprint", some (Codec.string.encode e.activatedNftFingerprint)),
    ("committed_nft_fingerprint", some (Codec.string.encode e.committedNftFingerprint)),
    ("committed_routing_fingerprint", some (Codec.string.encode e.committedRoutingFingerprint)),
    ("routing_model_fingerprint", some (Codec.string.encode e.routingModelFingerprint)),
    ("lost_unicast",
      if e.lostUnicast = ∅ then none else some (Codec.lostUnicast.encode e.lostUnicast))]

def expectationFields : List String :=
  ["guard_nft_fingerprint", "guardless_transaction_nft_fingerprint", "activated_nft_fingerprint",
    "committed_nft_fingerprint", "committed_routing_fingerprint", "routing_model_fingerprint",
    "lost_unicast"]

def Codec.expectations : Codec JournaledExpectations where
  encode e := .object (written (expectationParts e))
  decode v := do
    let fields ← structFields expectationFields 6 v
    let guard ← readField .string fields "guard_nft_fingerprint"
    let guardless ← readField .string fields "guardless_transaction_nft_fingerprint"
    let activated ← readField .string fields "activated_nft_fingerprint"
    let committed ← readField .string fields "committed_nft_fingerprint"
    let routing ← readField .string fields "committed_routing_fingerprint"
    let model ← readField .string fields "routing_model_fingerprint"
    let lost ← readDefault .lostUnicast fields "lost_unicast" ∅
    return { guardNftFingerprint := guard
             guardlessTransactionNftFingerprint := guardless
             activatedNftFingerprint := activated
             committedNftFingerprint := committed
             lostUnicast := lost
             committedRoutingFingerprint := routing
             routingModelFingerprint := model }

variable (c : JournalCodecs)

/-- The fields of `OrphanedOwnership`, and of the strict `OrphanedOwnershipV2`. -/
def orphanParts (find : FieldReader) (orphan : OrphanedOwnership) :
    List (String × Option JsonValue) :=
  [("nft_fingerprint", some (Codec.string.option.encode orphan.nftFingerprint)),
    ("routing", some ((Codec.routingOwnership c.network find).encode orphan.routing))]

def Codec.orphan (find : FieldReader) : Codec OrphanedOwnership where
  encode orphan := .object (written (orphanParts c find orphan))
  decode v := do
    let fields ← structFields ["nft_fingerprint", "routing"] 2 v
    let fingerprint ← readOption .string fields "nft_fingerprint"
    let routing ← readField (.routingOwnership c.network find) fields "routing"
    return ⟨fingerprint, routing⟩

/-! ### Schema 1 -/

def journalV1Parts (legacy : LegacyJournalV1) : List (String × Option JsonValue) :=
  [("active", some ((Codec.legacyPlanV1 c.network).option.encode legacy.active)),
    ("active_nft_fingerprint", some (Codec.string.option.encode legacy.activeNftFingerprint)),
    ("pending", some ((Codec.legacyPlanV1 c.network).option.encode legacy.pending)),
    ("pending_expectations", some (Codec.undecoded.option.encode legacy.pendingExpectations)),
    ("cleanup_pending", some (Codec.bool.encode legacy.cleanupPending)),
    ("restore_receipt", some (Codec.undecoded.option.encode legacy.restoreReceipt)),
    ("orphan_cleanup", some (Codec.undecoded.option.encode legacy.orphanCleanup))]

/-- The fields `LegacyJournalV1` knows. -/
def journalV1Fields : List String :=
  ["active", "active_nft_fingerprint", "pending", "pending_expectations", "cleanup_pending",
    "restore_receipt", "orphan_cleanup"]

def Codec.journalV1 : Codec LegacyJournalV1 where
  encode legacy := .object (written (journalV1Parts c legacy))
  decode v := do
    let fields ← structFields journalV1Fields 3 v
    let active ← readOption (.legacyPlanV1 c.network) fields "active"
    let fingerprint ← readOption .string fields "active_nft_fingerprint"
    let pending ← readOption (.legacyPlanV1 c.network) fields "pending"
    let expectations ← readOption .undecoded fields "pending_expectations"
    let cleanup ← readDefault .bool fields "cleanup_pending" false
    let receipt ← readOption .undecoded fields "restore_receipt"
    let orphan ← readOption .undecoded fields "orphan_cleanup"
    return ⟨active, fingerprint, pending, expectations, cleanup, receipt, orphan⟩

/-! ### Schema 2 -/

def journalV2Parts (legacy : LegacyJournalV2) : List (String × Option JsonValue) :=
  [("journal_version", some (Codec.u32.encode legacy.journalVersion)),
    ("active", some ((Codec.kernelPlan c.network structFields).option.encode legacy.active)),
    ("active_nft_fingerprint", some (Codec.string.option.encode legacy.activeNftFingerprint)),
    ("pending", some ((Codec.kernelPlan c.network structFields).option.encode legacy.pending)),
    ("pending_expectations", some (Codec.expectations.option.encode legacy.pendingExpectations)),
    ("cleanup_pending", some (Codec.bool.encode legacy.cleanupPending)),
    ("restore_receipt", some ((Codec.restoreReceipt c.planHash).option.encode legacy.restoreReceipt)),
    ("orphan_cleanup", skipNone (.orphan c structFields) legacy.orphanCleanup),
    ("interface_settings", skipEmpty .settingReceipt legacy.interfaceSettings),
    ("pending_interface_settings", skipEmpty .settingReceipt legacy.pendingInterfaceSettings),
    ("legacy_v1", skipNone (.journalV1 c) legacy.legacyV1),
    ("runtime", skipNone (.runtimeRecordV2 c.network c.planHash) legacy.runtime),
    ("pending_runtime", skipNone (.runtimeRecordV2 c.network c.planHash) legacy.pendingRuntime),
    ("runtime_restore", skipNone (.runtimeRestoreV2 c.network c.planHash) legacy.runtimeRestore)]

/-- The fields `LegacyJournalV2` knows. -/
def journalV2Fields : List String :=
  ["journal_version", "active", "active_nft_fingerprint", "pending", "pending_expectations",
    "cleanup_pending", "restore_receipt", "orphan_cleanup", "interface_settings",
    "pending_interface_settings", "legacy_v1", "runtime", "pending_runtime", "runtime_restore"]

def Codec.journalV2 : Codec LegacyJournalV2 where
  encode legacy := .object (written (journalV2Parts c legacy))
  decode v := do
    let fields ← structFields journalV2Fields 4 v
    let version ← readField .u32 fields "journal_version"
    let active ← readOption (.kernelPlan c.network structFields) fields "active"
    let fingerprint ← readOption .string fields "active_nft_fingerprint"
    let pending ← readOption (.kernelPlan c.network structFields) fields "pending"
    let expectations ← readOption .expectations fields "pending_expectations"
    let cleanup ← readDefault .bool fields "cleanup_pending" false
    let receipt ← readOption (.restoreReceipt c.planHash) fields "restore_receipt"
    let orphan ← readOption (.orphan c structFields) fields "orphan_cleanup"
    let settings ← readDefault Codec.settingReceipt.list fields "interface_settings" []
    let pendingSettings ← readDefault Codec.settingReceipt.list fields "pending_interface_settings" []
    let legacyV1 ← readOption (.journalV1 c) fields "legacy_v1"
    let runtime ← readOption (.runtimeRecordV2 c.network c.planHash) fields "runtime"
    let pendingRuntime ← readOption (.runtimeRecordV2 c.network c.planHash) fields "pending_runtime"
    let restore ← readOption (.runtimeRestoreV2 c.network c.planHash) fields "runtime_restore"
    return ⟨version, active, fingerprint, pending, expectations, cleanup, receipt, orphan, settings,
      pendingSettings, legacyV1, runtime, pendingRuntime, restore⟩

/-- `LegacyJournalV2::decode`, which reads the document itself. -/
def LegacyJournalV2.decode (json : JsonValue) : Except PrivilegedError LegacyJournalV2 := do
  let record ← ((Codec.journalV2 c).decode json).mapError fun e =>
    "decode legacy v2 journal: " ++ e
  failIf (record.journalVersion ≠ 2) "expected applied-state journal version 2"
  return record

/-! ### The current schema -/

def journalParts (record : StoredAppliedState) : List (String × Option JsonValue) :=
  [("journal_version", some (Codec.u32.encode (UInt32.ofNat journalVersion))),
    ("active", some ((Codec.kernelPlan c.network openFields).option.encode record.active)),
    ("active_nft_fingerprint", some (Codec.string.option.encode record.activeNftFingerprint)),
    ("pending", some ((Codec.kernelPlan c.network openFields).option.encode record.pending)),
    ("pending_expectations", some (Codec.expectations.option.encode record.pendingExpectations)),
    ("cleanup_pending", some (Codec.bool.encode record.cleanupPending)),
    ("restore_receipt", some ((Codec.restoreReceipt c.planHash).option.encode record.restoreReceipt)),
    ("orphan_cleanup", skipNone (.orphan c openFields) record.orphanCleanup),
    ("interface_settings", skipEmpty .settingReceipt record.interfaceSettings),
    ("pending_interface_settings", skipEmpty .settingReceipt record.pendingInterfaceSettings),
    ("legacy_v1", skipNone (.journalV1 c) record.legacyV1),
    ("legacy_v2", skipNone (.journalV2 c) record.legacyV2),
    ("runtime", skipNone (.runtimeRecord c.network c.planHash) record.runtime),
    ("pending_runtime", skipNone (.runtimeRecord c.network c.planHash) record.pendingRuntime),
    ("runtime_restore", skipNone (.runtimeRestore c.network c.planHash) record.runtimeRestore)]

/-- The fields `StoredAppliedState` knows. -/
def journalFields : List String :=
  ["journal_version", "active", "active_nft_fingerprint", "pending", "pending_expectations",
    "cleanup_pending", "restore_receipt", "orphan_cleanup", "interface_settings",
    "pending_interface_settings", "legacy_v1", "legacy_v2", "runtime", "pending_runtime",
    "runtime_restore"]

/-- The version is read as a number; the reader has made sure that it is the current one. -/
def Codec.journal : Codec StoredAppliedState where
  encode record := .object (written (journalParts c record))
  decode v := do
    let fields ← structFields journalFields 4 v
    let _ ← readField .u32 fields "journal_version"
    let active ← readOption (.kernelPlan c.network openFields) fields "active"
    let fingerprint ← readOption .string fields "active_nft_fingerprint"
    let pending ← readOption (.kernelPlan c.network openFields) fields "pending"
    let expectations ← readOption .expectations fields "pending_expectations"
    let cleanup ← readDefault .bool fields "cleanup_pending" false
    let receipt ← readOption (.restoreReceipt c.planHash) fields "restore_receipt"
    let orphan ← readOption (.orphan c openFields) fields "orphan_cleanup"
    let settings ← readDefault Codec.settingReceipt.list fields "interface_settings" []
    let pendingSettings ← readDefault Codec.settingReceipt.list fields "pending_interface_settings" []
    let legacyV1 ← readOption (.journalV1 c) fields "legacy_v1"
    let legacyV2 ← readOption (.journalV2 c) fields "legacy_v2"
    let runtime ← readOption (.runtimeRecord c.network c.planHash) fields "runtime"
    let pendingRuntime ← readOption (.runtimeRecord c.network c.planHash) fields "pending_runtime"
    let restore ← readOption (.runtimeRestore c.network c.planHash) fields "runtime_restore"
    return ⟨active, fingerprint, pending, expectations, cleanup, receipt, orphan, settings,
      pendingSettings, legacyV1, legacyV2, runtime, pendingRuntime, restore⟩

/-- `decode_journal`, on the document the file parses to or the error of parsing it. -/
def decodeJournal (json : Except String JsonValue) : Except PrivilegedError StoredAppliedState := do
  let document ← json.mapError fun e => "decode persisted applied state: " ++ e
  let value := document.toValue
  match value.get "journal_version" with
  | none =>
    let legacy ← ((Codec.journalV1 c).decode value).mapError fun e =>
      "decode unversioned schema-1 applied state: " ++ e
    return { legacyV1 := some legacy }
  | some version =>
    if version.asU64 = some 2 then
      let legacy ← LegacyJournalV2.decode c document
      return { legacyV2 := some legacy }
    else if version.asU64 ≠ some journalVersion then
      .error ("unsupported applied-state journal version " ++ version.print none)
    else
      ((Codec.journal c).decode value).mapError fun e => "decode persisted applied state: " ++ e

end Records

/-! ## Round trips -/

/-- The numbers of what was expected are those the source keeps in so many bits. -/
def JournaledExpectations.Fits (e : JournaledExpectations) : Prop :=
  ∀ lost ∈ e.lostUnicast, lost.2 < 2 ^ 32

structure LegacyJournalV1.Fits (legacy : LegacyJournalV1) : Prop where
  active : ∀ plan, legacy.active = some plan → plan.Fits
  pending : ∀ plan, legacy.pending = some plan → plan.Fits

structure LegacyJournalV2.Fits (legacy : LegacyJournalV2) : Prop where
  active : ∀ plan, legacy.active = some plan → plan.Fits
  pending : ∀ plan, legacy.pending = some plan → plan.Fits
  expectations : ∀ e, legacy.pendingExpectations = some e → e.Fits
  receipt : ∀ receipt, legacy.restoreReceipt = some receipt → receipt.Fits
  orphan : ∀ orphan, legacy.orphanCleanup = some orphan → orphan.routing.Fits
  settings : ∀ setting ∈ legacy.interfaceSettings, setting.Fits
  pendingSettings : ∀ setting ∈ legacy.pendingInterfaceSettings, setting.Fits
  legacyV1 : ∀ v1, legacy.legacyV1 = some v1 → v1.Fits
  runtime : ∀ runtime, legacy.runtime = some runtime → runtime.Fits
  pendingRuntime : ∀ runtime, legacy.pendingRuntime = some runtime → runtime.Fits
  restore : ∀ restore, legacy.runtimeRestore = some restore → restore.Fits

/-- The numbers of a journal are those the source keeps in so many bits. -/
structure StoredAppliedState.Fits (record : StoredAppliedState) : Prop where
  active : ∀ plan, record.active = some plan → plan.Fits
  pending : ∀ plan, record.pending = some plan → plan.Fits
  expectations : ∀ e, record.pendingExpectations = some e → e.Fits
  receipt : ∀ receipt, record.restoreReceipt = some receipt → receipt.Fits
  orphan : ∀ orphan, record.orphanCleanup = some orphan → orphan.routing.Fits
  settings : ∀ setting ∈ record.interfaceSettings, setting.Fits
  pendingSettings : ∀ setting ∈ record.pendingInterfaceSettings, setting.Fits
  legacyV1 : ∀ v1, record.legacyV1 = some v1 → v1.Fits
  legacyV2 : ∀ v2, record.legacyV2 = some v2 → v2.Fits
  runtime : ∀ runtime, record.runtime = some runtime → runtime.Fits
  pendingRuntime : ∀ runtime, record.pendingRuntime = some runtime → runtime.Fits
  restore : ∀ restore, record.runtimeRestore = some restore → restore.Fits

section RoundTrips

variable {c : JournalCodecs}

theorem expectations_readsBack {e : JournaledExpectations} (h : e.Fits) :
    Codec.expectations.ReadsBack e := by
  have hnodup : ((expectationParts e).map Prod.fst).Nodup := by
    show expectationFields.Nodup
    decide
  have hstring (key text : String)
      (hpart : (key, some (Codec.string.encode text)) ∈ expectationParts e) :
      readField .string (toFields (written (expectationParts e))) key = .ok text :=
    readField_written hnodup hpart (Codec.string_readsBack text)
  have hlost : readDefault .lostUnicast (toFields (written (expectationParts e)))
      "lost_unicast" ∅ = .ok e.lostUnicast := by
    have hpart : ("lost_unicast", if e.lostUnicast = ∅ then none
        else some (Codec.lostUnicast.encode e.lostUnicast)) ∈ expectationParts e := by
      simp [expectationParts]
    rw [readDefault, lookup_toFields_written hnodup hpart]
    by_cases hempty : e.lostUnicast = ∅
    · simp [hempty]
    · rw [if_neg hempty]
      exact (Codec.lostUnicast_readsBack h).decode
  refine ⟨?_, by simp [Codec.expectations]⟩
  refine bind_eq_ok.2 ⟨_, structFields_written rfl (by decide), ?_⟩
  refine bind_eq_ok.2 ⟨_, hstring _ e.guardNftFingerprint (by simp [expectationParts]), ?_⟩
  refine bind_eq_ok.2 ⟨_, hstring _ e.guardlessTransactionNftFingerprint
    (by simp [expectationParts]), ?_⟩
  refine bind_eq_ok.2 ⟨_, hstring _ e.activatedNftFingerprint (by simp [expectationParts]), ?_⟩
  refine bind_eq_ok.2 ⟨_, hstring _ e.committedNftFingerprint (by simp [expectationParts]), ?_⟩
  refine bind_eq_ok.2 ⟨_, hstring _ e.committedRoutingFingerprint (by simp [expectationParts]), ?_⟩
  refine bind_eq_ok.2 ⟨_, hstring _ e.routingModelFingerprint (by simp [expectationParts]), ?_⟩
  exact bind_eq_ok.2 ⟨_, hlost, rfl⟩

theorem orphan_readsBack {find : FieldReader} {orphan : OrphanedOwnership}
    (hfind : FindsWritten find) (h : orphan.routing.Fits) :
    (Codec.orphan c find).ReadsBack orphan := by
  have hnodup : ((orphanParts c find orphan).map Prod.fst).Nodup := by
    show ["nft_fingerprint", "routing"].Nodup
    decide
  refine ⟨?_, by simp [Codec.orphan]⟩
  refine bind_eq_ok.2 ⟨_, structFields_written rfl (by decide), ?_⟩
  refine bind_eq_ok.2 ⟨_, readOption_written hnodup (o := orphan.nftFingerprint)
    (by simp [orphanParts]) fun text _ => Codec.string_readsBack text, ?_⟩
  exact bind_eq_ok.2 ⟨_, readField_written hnodup (a := orphan.routing)
    (by simp [orphanParts]) (Codec.routingOwnership_readsBack hfind h), rfl⟩

theorem journalV1_readsBack {legacy : LegacyJournalV1} (h : legacy.Fits) :
    (Codec.journalV1 c).ReadsBack legacy := by
  have hnodup : ((journalV1Parts c legacy).map Prod.fst).Nodup := by
    show journalV1Fields.Nodup
    decide
  refine ⟨?_, by simp [Codec.journalV1]⟩
  refine bind_eq_ok.2 ⟨_, structFields_written rfl (by decide), ?_⟩
  refine bind_eq_ok.2 ⟨_, readOption_written hnodup (o := legacy.active)
    (by simp [journalV1Parts]) fun plan hplan =>
      Codec.legacyPlanV1_readsBack (h.active plan hplan), ?_⟩
  refine bind_eq_ok.2 ⟨_, readOption_written hnodup (o := legacy.activeNftFingerprint)
    (by simp [journalV1Parts]) fun text _ => Codec.string_readsBack text, ?_⟩
  refine bind_eq_ok.2 ⟨_, readOption_written hnodup (o := legacy.pending)
    (by simp [journalV1Parts]) fun plan hplan =>
      Codec.legacyPlanV1_readsBack (h.pending plan hplan), ?_⟩
  refine bind_eq_ok.2 ⟨_, readOption_written hnodup (o := legacy.pendingExpectations)
    (by simp [journalV1Parts]) fun v _ => Codec.undecoded_readsBack v, ?_⟩
  refine bind_eq_ok.2 ⟨_, readDefault_written hnodup (a := legacy.cleanupPending)
    (by simp [journalV1Parts]) (Codec.bool_readsBack _).decode, ?_⟩
  refine bind_eq_ok.2 ⟨_, readOption_written hnodup (o := legacy.restoreReceipt)
    (by simp [journalV1Parts]) fun v _ => Codec.undecoded_readsBack v, ?_⟩
  exact bind_eq_ok.2 ⟨_, readOption_written hnodup (o := legacy.orphanCleanup)
    (by simp [journalV1Parts]) fun v _ => Codec.undecoded_readsBack v, rfl⟩

theorem journalV2_readsBack {legacy : LegacyJournalV2} (h : legacy.Fits) :
    (Codec.journalV2 c).ReadsBack legacy := by
  have hnodup : ((journalV2Parts c legacy).map Prod.fst).Nodup := by
    show journalV2Fields.Nodup
    decide
  refine ⟨?_, by simp [Codec.journalV2]⟩
  refine bind_eq_ok.2 ⟨_, structFields_written rfl (by decide), ?_⟩
  refine bind_eq_ok.2 ⟨_, readField_written hnodup (a := legacy.journalVersion)
    (by simp [journalV2Parts]) (Codec.u32_readsBack _), ?_⟩
  refine bind_eq_ok.2 ⟨_, readOption_written hnodup (o := legacy.active)
    (by simp [journalV2Parts]) fun plan hplan =>
      Codec.kernelPlan_readsBack findsWritten_structFields (h.active plan hplan), ?_⟩
  refine bind_eq_ok.2 ⟨_, readOption_written hnodup (o := legacy.activeNftFingerprint)
    (by simp [journalV2Parts]) fun text _ => Codec.string_readsBack text, ?_⟩
  refine bind_eq_ok.2 ⟨_, readOption_written hnodup (o := legacy.pending)
    (by simp [journalV2Parts]) fun plan hplan =>
      Codec.kernelPlan_readsBack findsWritten_structFields (h.pending plan hplan), ?_⟩
  refine bind_eq_ok.2 ⟨_, readOption_written hnodup (o := legacy.pendingExpectations)
    (by simp [journalV2Parts]) fun e he => expectations_readsBack (h.expectations e he), ?_⟩
  refine bind_eq_ok.2 ⟨_, readDefault_written hnodup (a := legacy.cleanupPending)
    (by simp [journalV2Parts]) (Codec.bool_readsBack _).decode, ?_⟩
  refine bind_eq_ok.2 ⟨_, readOption_written hnodup (o := legacy.restoreReceipt)
    (by simp [journalV2Parts]) fun receipt hreceipt =>
      Codec.restoreReceipt_readsBack c.planHash_readsBack (h.receipt receipt hreceipt), ?_⟩
  refine bind_eq_ok.2 ⟨_, readOption_skipNone hnodup (o := legacy.orphanCleanup)
    (by simp [journalV2Parts]) fun orphan ho =>
      orphan_readsBack findsWritten_structFields (h.orphan orphan ho), ?_⟩
  refine bind_eq_ok.2 ⟨_, readDefault_skipEmpty hnodup (l := legacy.interfaceSettings)
    (by simp [journalV2Parts]) fun setting hsetting =>
      Codec.settingReceipt_readsBack (h.settings setting hsetting), ?_⟩
  refine bind_eq_ok.2 ⟨_, readDefault_skipEmpty hnodup (l := legacy.pendingInterfaceSettings)
    (by simp [journalV2Parts]) fun setting hsetting =>
      Codec.settingReceipt_readsBack (h.pendingSettings setting hsetting), ?_⟩
  refine bind_eq_ok.2 ⟨_, readOption_skipNone hnodup (o := legacy.legacyV1)
    (by simp [journalV2Parts]) fun v1 hv1 => journalV1_readsBack (h.legacyV1 v1 hv1), ?_⟩
  refine bind_eq_ok.2 ⟨_, readOption_skipNone hnodup (o := legacy.runtime)
    (by simp [journalV2Parts]) fun runtime hruntime =>
      Codec.runtimeRecordV2_readsBack c.planHash_readsBack (h.runtime runtime hruntime), ?_⟩
  refine bind_eq_ok.2 ⟨_, readOption_skipNone hnodup (o := legacy.pendingRuntime)
    (by simp [journalV2Parts]) fun runtime hruntime =>
      Codec.runtimeRecordV2_readsBack c.planHash_readsBack (h.pendingRuntime runtime hruntime), ?_⟩
  exact bind_eq_ok.2 ⟨_, readOption_skipNone hnodup (o := legacy.runtimeRestore)
    (by simp [journalV2Parts]) fun restore hrestore =>
      Codec.runtimeRestoreV2_readsBack c.planHash_readsBack (h.restore restore hrestore), rfl⟩

theorem journal_readsBack {record : StoredAppliedState} (h : record.Fits) :
    (Codec.journal c).ReadsBack record := by
  have hnodup : ((journalParts c record).map Prod.fst).Nodup := by
    show journalFields.Nodup
    decide
  refine ⟨?_, by simp [Codec.journal]⟩
  refine bind_eq_ok.2 ⟨_, structFields_written rfl (by decide), ?_⟩
  refine bind_eq_ok.2 ⟨_, readField_written hnodup (a := UInt32.ofNat journalVersion)
    (by simp [journalParts]) (Codec.u32_readsBack _), ?_⟩
  refine bind_eq_ok.2 ⟨_, readOption_written hnodup (o := record.active)
    (by simp [journalParts]) fun plan hplan =>
      Codec.kernelPlan_readsBack findsWritten_openFields (h.active plan hplan), ?_⟩
  refine bind_eq_ok.2 ⟨_, readOption_written hnodup (o := record.activeNftFingerprint)
    (by simp [journalParts]) fun text _ => Codec.string_readsBack text, ?_⟩
  refine bind_eq_ok.2 ⟨_, readOption_written hnodup (o := record.pending)
    (by simp [journalParts]) fun plan hplan =>
      Codec.kernelPlan_readsBack findsWritten_openFields (h.pending plan hplan), ?_⟩
  refine bind_eq_ok.2 ⟨_, readOption_written hnodup (o := record.pendingExpectations)
    (by simp [journalParts]) fun e he => expectations_readsBack (h.expectations e he), ?_⟩
  refine bind_eq_ok.2 ⟨_, readDefault_written hnodup (a := record.cleanupPending)
    (by simp [journalParts]) (Codec.bool_readsBack _).decode, ?_⟩
  refine bind_eq_ok.2 ⟨_, readOption_written hnodup (o := record.restoreReceipt)
    (by simp [journalParts]) fun receipt hreceipt =>
      Codec.restoreReceipt_readsBack c.planHash_readsBack (h.receipt receipt hreceipt), ?_⟩
  refine bind_eq_ok.2 ⟨_, readOption_skipNone hnodup (o := record.orphanCleanup)
    (by simp [journalParts]) fun orphan ho =>
      orphan_readsBack findsWritten_openFields (h.orphan orphan ho), ?_⟩
  refine bind_eq_ok.2 ⟨_, readDefault_skipEmpty hnodup (l := record.interfaceSettings)
    (by simp [journalParts]) fun setting hsetting =>
      Codec.settingReceipt_readsBack (h.settings setting hsetting), ?_⟩
  refine bind_eq_ok.2 ⟨_, readDefault_skipEmpty hnodup (l := record.pendingInterfaceSettings)
    (by simp [journalParts]) fun setting hsetting =>
      Codec.settingReceipt_readsBack (h.pendingSettings setting hsetting), ?_⟩
  refine bind_eq_ok.2 ⟨_, readOption_skipNone hnodup (o := record.legacyV1)
    (by simp [journalParts]) fun v1 hv1 => journalV1_readsBack (h.legacyV1 v1 hv1), ?_⟩
  refine bind_eq_ok.2 ⟨_, readOption_skipNone hnodup (o := record.legacyV2)
    (by simp [journalParts]) fun v2 hv2 => journalV2_readsBack (h.legacyV2 v2 hv2), ?_⟩
  refine bind_eq_ok.2 ⟨_, readOption_skipNone hnodup (o := record.runtime)
    (by simp [journalParts]) fun runtime hruntime =>
      Codec.runtimeRecord_readsBack c.planHash_readsBack (h.runtime runtime hruntime), ?_⟩
  refine bind_eq_ok.2 ⟨_, readOption_skipNone hnodup (o := record.pendingRuntime)
    (by simp [journalParts]) fun runtime hruntime =>
      Codec.runtimeRecord_readsBack c.planHash_readsBack (h.pendingRuntime runtime hruntime), ?_⟩
  exact bind_eq_ok.2 ⟨_, readOption_skipNone hnodup (o := record.runtimeRestore)
    (by simp [journalParts]) fun restore hrestore =>
      Codec.runtimeRestore_readsBack c.planHash_readsBack (h.restore restore hrestore), rfl⟩

/-- A journal of the current schema is read back from the file. -/
theorem decodeJournal_encode {record : StoredAppliedState} (h : record.Fits) :
    decodeJournal c (.ok ((Codec.journal c).encode record)) = .ok record := by
  have hnodup : ((journalParts c record).map Prod.fst).Nodup := by
    show journalFields.Nodup
    decide
  have hvalue : ((Codec.journal c).encode record).toValue =
      .object (toFields (written (journalParts c record))) :=
    toValue_object_of_nodup ((map_fst_written_sublist _).nodup hnodup)
  have hversion : ((Codec.journal c).encode record).toValue.get "journal_version" =
      some (.number 3) := by
    rw [hvalue, JsonValue.get, JsonValue.asObject, Option.bind_some,
      lookup_toFields_written hnodup (o := some (Codec.u32.encode (UInt32.ofNat journalVersion)))
        (by simp [journalParts])]
    rfl
  have hread : (Codec.journal c).ReadsBack record := journal_readsBack h
  unfold decodeJournal
  show (match ((Codec.journal c).encode record).toValue.get "journal_version" with
    | none => _
    | some version => _) = _
  rw [hversion]
  show (((Codec.journal c).decode ((Codec.journal c).encode record).toValue).mapError _) = _
  rw [hread.decode]
  rfl

end RoundTrips

/-! ## Documents of each schema -/

section Schemas

variable {c : JournalCodecs} {json : JsonValue} {record : StoredAppliedState}

/-- The version a document gives itself. -/
def JsonValue.version (json : JsonValue) : Option JsonValue := json.toValue.get "journal_version"

/-- The fields a document may have: those of the schema it says it is of. -/
def schemaFields (version : Option JsonValue) : List String :=
  match version with
  | none => journalV1Fields
  | some v => if v.asU64 = some 2 then journalV2Fields else journalFields

/-- Which reader a document goes to, and what the reader makes of it. -/
theorem decodeJournal_ok_iff :
    decodeJournal c (.ok json) = .ok record ↔
      (json.version = none ∧ ∃ legacy, (Codec.journalV1 c).decode json.toValue = .ok legacy ∧
        record = { legacyV1 := some legacy }) ∨
      (∃ v, json.version = some v ∧ v.asU64 = some 2 ∧
        ∃ legacy, LegacyJournalV2.decode c json = .ok legacy ∧ record = { legacyV2 := some legacy }) ∨
      ∃ v, json.version = some v ∧ v.asU64 = some journalVersion ∧
        (Codec.journal c).decode json.toValue = .ok record := by
  unfold decodeJournal
  show (match json.version with
    | none => _
    | some version => _) = _ ↔ _
  cases json.version with
  | none =>
    simp only [bind_eq_ok, mapError_eq_ok, true_and, reduceCtorEq, false_and, exists_false, or_false]
    exact ⟨fun ⟨legacy, hdecode, hrecord⟩ => ⟨legacy, hdecode, (Except.ok.inj hrecord).symm⟩,
      fun ⟨legacy, hdecode, hrecord⟩ => ⟨legacy, hdecode, congrArg Except.ok hrecord.symm⟩⟩
  | some v =>
    simp only [reduceCtorEq, false_and, false_or, Option.some.injEq, exists_eq_left']
    by_cases htwo : v.asU64 = some 2
    · have hother : ¬(v.asU64 = some journalVersion ∧
          (Codec.journal c).decode json.toValue = .ok record) := by
        rw [htwo]
        exact fun h => absurd h.1 (by decide)
      rw [if_pos htwo, or_iff_left hother, bind_eq_ok, and_iff_right htwo]
      exact ⟨fun ⟨legacy, hdecode, hrecord⟩ => ⟨legacy, hdecode, (Except.ok.inj hrecord).symm⟩,
        fun ⟨legacy, hdecode, hrecord⟩ => ⟨legacy, hdecode, congrArg Except.ok hrecord.symm⟩⟩
    · rw [if_neg htwo, or_iff_right fun h => htwo h.1]
      by_cases hcurrent : v.asU64 = some journalVersion
      · rw [if_neg (not_not.2 hcurrent), mapError_eq_ok, and_iff_right hcurrent]
      · simp [hcurrent]

/-- A document of an earlier schema is wrapped, and nothing else. -/
theorem decodeJournal_legacy (h : decodeJournal c (.ok json) = .ok record)
    (hlegacy : ∀ v, json.version = some v → v.asU64 ≠ some journalVersion) :
    (json.version = none ∧ ∃ legacy, record = { legacyV1 := some legacy }) ∨
      (∃ v, json.version = some v ∧ v.asU64 = some 2) ∧
        ∃ legacy, record = { legacyV2 := some legacy } := by
  rcases decodeJournal_ok_iff.1 h with ⟨hversion, legacy, -, hrecord⟩ | hrest
  · exact Or.inl ⟨hversion, legacy, hrecord⟩
  · rcases hrest with ⟨v, hversion, htwo, legacy, -, hrecord⟩ | ⟨v, hversion, hcurrent, -⟩
    · exact Or.inr ⟨⟨v, hversion, htwo⟩, legacy, hrecord⟩
    · exact absurd hcurrent (hlegacy v hversion)

/-- What a reader of a record does not know makes it fail. -/
theorem structFields_toValue_unknown {known : List String} {needed : ℕ}
    {fields : List (String × JsonValue)} {field : String × JsonValue} (hfield : field ∈ fields)
    (hunknown : field.1 ∉ known) {found : List (String × JsonValue)} :
    structFields known needed (JsonValue.object fields).toValue ≠ .ok found := by
  intro h
  rw [toValue] at h
  obtain ⟨-, hall⟩ := structFields_eq_ok h
  have hmem : field.1 ∈ (lastWins (toFields fields)).map Prod.fst := by
    rw [mem_keys_lastWins, map_fst_toFields]
    exact List.mem_map_of_mem hfield
  obtain ⟨kept, hkept, hname⟩ := List.mem_map.1 hmem
  exact hunknown (hname ▸ hall kept hkept)

/-- An unknown field at the top of a document makes its reader fail. -/
theorem decodeJournal_unknown {fields : List (String × JsonValue)} {field : String × JsonValue}
    (hfield : field ∈ fields)
    (hunknown : field.1 ∉ schemaFields (JsonValue.object fields).version) :
    decodeJournal c (.ok (.object fields)) ≠ .ok record := by
  intro h
  rcases decodeJournal_ok_iff.1 h with ⟨hversion, legacy, hdecode, -⟩ | hrest
  · rw [hversion] at hunknown
    obtain ⟨found, hfound, -⟩ := bind_eq_ok.1 hdecode
    exact structFields_toValue_unknown hfield hunknown hfound
  · rcases hrest with ⟨v, hversion, htwo, legacy, hdecode, -⟩ | ⟨v, hversion, hcurrent, hdecode⟩
    · rw [hversion, schemaFields, if_pos htwo] at hunknown
      obtain ⟨read, hread, -⟩ := bind_eq_ok.1 hdecode
      obtain ⟨found, hfound, -⟩ := bind_eq_ok.1 (mapError_eq_ok.1 hread)
      exact hunknown ((structFields_eq_ok hfound).2 field hfield)
    · have htwo : v.asU64 ≠ some 2 := by
        rw [hcurrent]
        decide
      rw [hversion, schemaFields, if_neg htwo] at hunknown
      obtain ⟨found, hfound, -⟩ := bind_eq_ok.1 hdecode
      exact structFields_toValue_unknown hfield hunknown hfound

theorem exists_error_of_ne_ok {α : Type} {x : Except String α} (h : ∀ a, x ≠ .ok a) :
    ∃ e, x = .error e := by
  cases x with
  | error e => exact ⟨e, rfl⟩
  | ok a => exact absurd rfl (h a)

variable (c) in
/-- What the helper writes it reads back; a document of an earlier schema becomes nothing but
the record of that schema, and every other document is refused. -/
theorem decodeJournal_exact :
    (∀ record : StoredAppliedState, record.Fits →
      decodeJournal c (.ok ((Codec.journal c).encode record)) = .ok record) ∧
    (∀ json record, json.version = none → decodeJournal c (.ok json) = .ok record →
      ∃ legacy, record = { legacyV1 := some legacy }) ∧
    (∀ json record v, json.version = some v → v.asU64 = some 2 →
      decodeJournal c (.ok json) = .ok record → ∃ legacy, record = { legacyV2 := some legacy }) ∧
    (∀ json v, json.version = some v → v.asU64 ≠ some 2 → v.asU64 ≠ some journalVersion →
      ∃ e, decodeJournal c (.ok json) = .error e) ∧
    (∀ fields, (∃ field ∈ fields, field.1 ∉ schemaFields (JsonValue.object fields).version) →
      ∃ e, decodeJournal c (.ok (.object fields)) = .error e) ∧
    ∀ json record, decodeJournal c (.ok json) = .ok record →
      (∀ v, json.version = some v → v.asU64 ≠ some journalVersion) →
        record.active = none ∧ record.pending = none ∧ record.runtime = none ∧
          record.pendingRuntime = none ∧ record.runtimeRestore = none := by
  refine ⟨fun record h => decodeJournal_encode h, ?_, ?_, ?_, ?_, ?_⟩
  · intro json record hversion h
    rcases decodeJournal_legacy h (by simp [hversion]) with ⟨-, hwrapped⟩ | ⟨⟨v, hv, -⟩, -⟩
    · exact hwrapped
    · rw [hversion] at hv
      cases hv
  · intro json record v hversion htwo h
    have hlegacy : ∀ w, json.version = some w → w.asU64 ≠ some journalVersion := by
      intro w hw
      obtain rfl := Option.some.inj (hversion.symm.trans hw)
      rw [htwo]
      decide
    rcases decodeJournal_legacy h hlegacy with ⟨hnone, -⟩ | ⟨-, hwrapped⟩
    · rw [hversion] at hnone
      cases hnone
    · exact hwrapped
  · intro json v hversion htwo hcurrent
    refine exists_error_of_ne_ok fun record h => ?_
    have hlegacy : ∀ w, json.version = some w → w.asU64 ≠ some journalVersion := by
      intro w hw
      obtain rfl := Option.some.inj (hversion.symm.trans hw)
      exact hcurrent
    rcases decodeJournal_legacy h hlegacy with ⟨hnone, -⟩ | ⟨⟨w, hw, hw2⟩, -⟩
    · rw [hversion] at hnone
      cases hnone
    · obtain rfl := Option.some.inj (hversion.symm.trans hw)
      exact htwo hw2
  · intro fields ⟨field, hfield, hunknown⟩
    exact exists_error_of_ne_ok fun record => decodeJournal_unknown hfield hunknown
  · intro json record h hlegacy
    rcases decodeJournal_legacy h hlegacy with ⟨-, legacy, rfl⟩ | ⟨-, legacy, rfl⟩ <;>
      exact ⟨rfl, rfl, rfl, rfl, rfl⟩

end Schemas

/-! ## A journal of each schema -/

/-- The hash of a plan, as the numbers of its bytes. -/
def Codec.hashBytes : Codec PlanHash where
  encode hash := (Codec.unsigned 8).list.encode ((textBytes hash).map UInt8.toNat)
  decode v := do
    let bytes ← (Codec.unsigned 8).list.decode v
    match textOfBytes (bytes.map UInt8.ofNat) with
    | some hash => .ok hash
    | none => .error "invalid value, expected a hash"

theorem Codec.hashBytes_readsBack (hash : PlanHash) : Codec.hashBytes.ReadsBack hash := by
  have hbytes : (Codec.unsigned 8).list.ReadsBack ((textBytes hash).map UInt8.toNat) := by
    refine Codec.list_readsBack fun n hn => Codec.unsigned_readsBack ?_
    obtain ⟨byte, -, rfl⟩ := List.mem_map.1 hn
    exact byte.toNat_lt
  refine ⟨bind_eq_ok.2 ⟨_, hbytes.decode, ?_⟩, hbytes.something⟩
  have hmap : ((textBytes hash).map UInt8.toNat).map UInt8.ofNat = textBytes hash := by
    rw [List.map_map]
    exact (List.map_congr_left fun byte _ => UInt8.ofNat_toNat).trans (List.map_id _)
  rw [hmap, textOfBytes_textBytes]

def numberCodecs : JournalCodecs := ⟨.numbers, .hashBytes, Codec.hashBytes_readsBack⟩

def tunnelIdentity : InterfaceIdentity := ⟨3, "wg0", "wireguard", none⟩

theorem tunnelIdentity_fits : tunnelIdentity.Fits := by
  show (3 : ℕ) < 2 ^ 32
  decide

/-- An application goes through the tunnel, and everything else is left as it is. -/
def tunnelPlan : KernelPlan where
  primary := ⟨⟨some "a", none⟩, ⟨.lane "a", .blocked⟩⟩
  localNetworks := []
  localAddresses := [.v4 0x0a020002#32]
  generation := 2
  profileId := "p"
  lanes := [{ identity := some tunnelIdentity, sourceV4 := [0x0a020002#32], sourceV6 := [],
              id := "a", interface := "wg0", routeV4 := some .device, routeV6 := none,
              availability := .available, table := 52001, mark := 0x524c0001,
              rulePriority := 10000, failurePolicy := .block }]
  rules := [⟨.v4, "r", 10, .cgroup "routelane/a", .mark 0x524c0001⟩,
    ⟨.v6, "r", 10, .cgroup "routelane/a", .block⟩]

theorem tunnelPlan_fits : tunnelPlan.Fits where
  generation := by decide
  lanes := by
    intro lane hlane
    obtain rfl := List.mem_singleton.1 hlane
    refine ⟨?_, by decide, by decide, by decide⟩
    rintro _ ⟨⟩
    exact tunnelIdentity_fits
  rules := by
    intro rule hrule
    rcases List.mem_pair.1 hrule with rfl | rfl
    · refine ⟨by decide, ?_⟩
      rintro _ ⟨⟩
      decide
    · exact ⟨by decide, fun _ hmark => by cases hmark⟩

def tunnelRules : List Rule :=
  [⟨"r", true, 10, .application ⟨some "browser.desktop", "/usr/bin/browser", true,
      some ⟨"/usr/bin/browser", ["--new-window"]⟩⟩, .any, .route "a"⟩]

def tunnelLanes : List Lane := [⟨"a", "Tunnel", "wg0", none, .block⟩]

def tunnelGrant : RuntimeGrant where
  ownerUid := 1000
  bootId := "boot"
  networkNamespace := 4026531840
  policyHash := "policy"
  interfaces := OrderedMap.empty.insert "a" tunnelIdentity

theorem tunnelGrant_fits : tunnelGrant.Fits where
  ownerUid := by decide
  networkNamespace := by decide
  interfaces := by
    intro identity hidentity
    obtain rfl : identity = tunnelIdentity := List.mem_singleton.1 hidentity
    exact tunnelIdentity_fits

theorem tunnelRules_fit : PrioritiesFit tunnelRules := by
  intro rule hrule
  obtain rfl := List.mem_singleton.1 hrule
  decide

def tunnelRuntime : RuntimeRecord where
  grant := tunnelGrant
  profile := ⟨"p", "Profile", true, tunnelLanes, tunnelRules,
    ⟨.preserveSystem, .lane "a", [], false⟩⟩
  resolutions := ⟨.empty⟩
  decision := tunnelPlan.primary

theorem tunnelRuntime_fits : tunnelRuntime.Fits := ⟨tunnelGrant_fits, tunnelRules_fit⟩

/-- The first plan is being replaced while the route of its lane was lost. -/
def pendingJournal : StoredAppliedState where
  active := some { tunnelPlan with generation := 1 }
  activeNftFingerprint := some "nft"
  pending := some tunnelPlan
  pendingExpectations := some
    { guardNftFingerprint := "guard", guardlessTransactionNftFingerprint := "guardless",
      activatedNftFingerprint := "activated", committedNftFingerprint := "committed",
      lostUnicast := {(.v4, 52001)}, committedRoutingFingerprint := "routing",
      routingModelFingerprint := "model" }
  restoreReceipt := some
    { failedGeneration := 1, failedPlanHash := "failed", previousGeneration := none,
      previousPlanHash := none }
  interfaceSettings := [⟨tunnelIdentity, 1, 2⟩]
  runtime := some tunnelRuntime
  runtimeRestore := some
    { tokenHash := "token", ownerUid := 1000, issuedForGeneration := 1,
      issuedForPlanHash := "issued", previousPlan := some tunnelPlan, previousRecord := none }

/-- The journal of a plan of the first helper. -/
def nestedV1 : LegacyJournalV1 where
  active := some
    { generation := 1
      profileId := "p"
      lanes := [⟨"a", "wg0", some .device, none, .available, 52001, 1, 10000, .direct⟩]
      rules := [⟨"r", 10, .any, .mark 1⟩] }
  activeNftFingerprint := some "nft"
  pending := none
  pendingExpectations := none
  cleanupPending := false
  restoreReceipt := some ⟨.bool true, rfl, by simp⟩
  orphanCleanup := none

/-- A schema-2 journal, with a terminal route and the journal it was made from. -/
def nestedV2 : LegacyJournalV2 where
  journalVersion := 2
  active := some tunnelPlan
  activeNftFingerprint := some "nft"
  pending := none
  pendingExpectations := none
  cleanupPending := true
  restoreReceipt := none
  orphanCleanup := some ⟨some "orphan", ⟨{⟨.v4, 52001, none, "wg0", true⟩}, ∅⟩⟩
  interfaceSettings := []
  pendingInterfaceSettings := []
  legacyV1 := some nestedV1
  runtime := some
    { grant := tunnelGrant
      profile := ⟨"p", "Profile", true, tunnelLanes, tunnelRules, ⟨.lane "a", [], false⟩⟩
      resolutions := ⟨.empty⟩
      decision := tunnelPlan.primary }
  pendingRuntime := none
  runtimeRestore := none

theorem pendingJournal_fits : pendingJournal.Fits where
  active := by
    rintro _ ⟨⟩
    exact { tunnelPlan_fits with generation := by decide }
  pending := by
    rintro _ ⟨⟩
    exact tunnelPlan_fits
  expectations := by
    rintro _ ⟨⟩ lost hlost
    obtain rfl := Finset.mem_singleton.1 hlost
    decide
  receipt := by
    rintro _ ⟨⟩
    refine ⟨by decide, ?_⟩
    rintro _ ⟨⟩
  orphan := by simp [pendingJournal]
  settings := by
    intro setting hsetting
    obtain rfl := List.mem_singleton.1 hsetting
    exact ⟨tunnelIdentity_fits, by decide, by decide⟩
  pendingSettings := by simp [pendingJournal]
  legacyV1 := by simp [pendingJournal]
  legacyV2 := by simp [pendingJournal]
  runtime := by
    rintro _ ⟨⟩
    exact tunnelRuntime_fits
  pendingRuntime := by simp [pendingJournal]
  restore := by
    rintro _ ⟨⟩
    refine ⟨by decide, by decide, ?_, ?_⟩
    · rintro _ ⟨⟩
      exact tunnelPlan_fits
    · rintro _ ⟨⟩

theorem nestedV1_fits : nestedV1.Fits where
  active := by
    rintro _ ⟨⟩
    refine ⟨by decide, fun lane hlane => ?_, fun rule hrule => ?_⟩
    · obtain rfl := List.mem_singleton.1 hlane
      exact ⟨by decide, by decide, by decide⟩
    · obtain rfl := List.mem_singleton.1 hrule
      refine ⟨by decide, ?_⟩
      rintro _ ⟨⟩
      decide
  pending := by simp [nestedV1]

theorem nestedV2_fits : nestedV2.Fits where
  active := by
    rintro _ ⟨⟩
    exact tunnelPlan_fits
  pending := by simp [nestedV2]
  expectations := by simp [nestedV2]
  receipt := by simp [nestedV2]
  orphan := by
    rintro _ ⟨⟩
    refine ⟨fun route hroute => ?_, fun rule hrule => ?_⟩
    · obtain rfl := Finset.mem_singleton.1 hroute
      decide
    · exact absurd hrule (Finset.notMem_empty _)
  settings := by simp [nestedV2]
  pendingSettings := by simp [nestedV2]
  legacyV1 := by
    rintro _ ⟨⟩
    exact nestedV1_fits
  runtime := by
    rintro _ ⟨⟩
    exact ⟨tunnelGrant_fits, tunnelRules_fit⟩
  pendingRuntime := by simp [nestedV2]
  restore := by simp [nestedV2]

theorem nestedJournal_fits : ({ legacyV2 := some nestedV2 } : StoredAppliedState).Fits := by
  constructor <;> rintro _ ⟨⟩
  exact nestedV2_fits

theorem decodeJournal_exact_nested :
    decodeJournal numberCodecs (.ok ((Codec.journal numberCodecs).encode pendingJournal)) =
        .ok pendingJournal ∧
      decodeJournal numberCodecs
          (.ok ((Codec.journal numberCodecs).encode { legacyV2 := some nestedV2 })) =
        .ok { legacyV2 := some nestedV2 } :=
  have hreads := (decodeJournal_exact numberCodecs).1
  ⟨hreads pendingJournal pendingJournal_fits, hreads _ nestedJournal_fits⟩

end RouteLane
