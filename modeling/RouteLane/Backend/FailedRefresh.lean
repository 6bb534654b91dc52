import RouteLane.Backend.Refresh
import RouteLane.Kernel.CrashSafety
import RouteLane.Policy.Readiness

/-!
# A failed refresh and its runtime

A refresh takes the runtime out of the memory before it starts the transition, and the
journals of a transition copy the runtime from the memory.  So the pending journal, the
journal after the rollback and whatever a later recovery makes of them carry no runtime:
a refresh that fails after its journal was saved always loses the record it should keep.
-/

namespace RouteLane

open Nft Faults Program

/-- A transition is on its way. -/
def pendingSaved (store : Option StoredAppliedState) : Bool :=
  store.any fun record => record.pending.isSome

/-- What a journal says is in force is in force: the plan and the runtime armed with it. -/
def KeepsInForce (before : StoredAppliedState) (store : Option StoredAppliedState) : Prop :=
  ∃ record, store = some record ∧ record.active = before.active ∧ record.runtime = before.runtime

/-- Where a refresh can end that failed after its journal was saved: it was killed while
that journal was in place, or it rolled back, as far as it could, and told of its error. -/
inductive RefreshFails (p : Primitives) (topology : TopologySnapshot) (now : ℕ)
    (w : World System Backend) : System → Prop
  | killed {e : Event System} : e ∈ (refreshRuntime p topology now w).events →
      pendingSaved e.state.store = true → RefreshFails p topology now w e.state
  | told {e : Event System} {status : RuntimeStatus} :
      e ∈ (refreshRuntime p topology now w).events → pendingSaved e.state.store = true →
      (refreshRuntime p topology now w).result = .ok status → status.lastError.isSome = true →
      RefreshFails p topology now w (refreshRuntime p topology now w).world.machine

/-- What restarts, changes of the environment and recoveries, each of which can be killed
or fail, can make of a system. -/
inductive Recovers (p : Primitives) : System → System → Prop
  | refl (s : System) : Recovers p s s
  | changed {s t u : System} : Recovers p s t → u.store = t.store → Recovers p s u
  | killed {s t : System} {m : Backend} {faults : ℕ → Bool} {e : Event System} :
      Recovers p s t → e ∈ (ensureReconciled p ⟨t, m, faults⟩).events → Recovers p s e.state
  | ran {s t : System} {m : Backend} {faults : ℕ → Bool} : Recovers p s t →
      Recovers p s (ensureReconciled p ⟨t, m, faults⟩).world.machine

/-- A journal that carries no runtime, or has another plan in force. -/
def RuntimeLost (before : StoredAppliedState) (store : Option StoredAppliedState) : Prop :=
  ∀ record, store = some record →
    record.runtime = none ∨ record.interrupted = false ∧ record.active ≠ before.active

/-- The journals of a refresh: the one it found, and ones that lose its runtime. -/
def FoundOrLost (before : StoredAppliedState) (store : Option StoredAppliedState) : Prop :=
  store = some before ∨ RuntimeLost before store

namespace RuntimeLost

variable {before : StoredAppliedState}

theorem none : RuntimeLost before none := fun _ h => absurd h (by simp)

theorem of_runtime {record : StoredAppliedState} (h : record.runtime = .none) :
    RuntimeLost before (some record) := by
  rintro record ⟨⟩
  exact Or.inl h

theorem not_keepsInForce {store : Option StoredAppliedState} {runtime : RuntimeRecord}
    (h : RuntimeLost before store) (hruntime : before.runtime = some runtime) :
    ¬KeepsInForce before store := by
  rintro ⟨record, hstore, hactive, hkept⟩
  rcases h record hstore with hnone | ⟨-, hother⟩
  · rw [hkept, hruntime] at hnone
    exact absurd hnone (by simp)
  · exact hother hactive

/-- A journal of a committed plan carries the runtime it is written with. -/
theorem committedStore {state : Option KernelPlan} {nftFingerprint : Option String}
    {restoreReceipt : Option RestoreReceipt} {extras : CommittedExtras}
    (hextras : extras.runtime = .none) (written : Option StoredAppliedState)
    (h : RouteLane.committedStore state nftFingerprint restoreReceipt extras = some written) :
    RuntimeLost before written := by
  unfold RouteLane.committedStore at h
  split at h
  · obtain rfl := Option.some.inj h
    exact of_runtime hextras
  · split at h
    · obtain rfl := Option.some.inj h
      cases restoreReceipt with
      | none => exact none
      | some receipt => exact of_runtime rfl
    · exact absurd h (by simp)
  · exact absurd h (by simp)

/-- Recovery brings no runtime back. -/
theorem recoveryWrites {record : StoredAppliedState} {written : Option StoredAppliedState}
    (h : RuntimeLost before (some record)) (hwrites : RecoveryWrites record written) :
    RuntimeLost before written := by
  cases hwrites with
  | orphan ownership _ => exact of_runtime rfl
  | orphanDone _ => exact none
  | cleaned _ =>
    unfold emptiedStore
    cases record.restoreReceipt with
    | none => exact none
    | some receipt => exact of_runtime rfl
  | repaired hpending hwritten =>
    rcases h record rfl with hnone | ⟨hnot, -⟩
    · exact committedStore hnone _ hwritten
    · simp [StoredAppliedState.interrupted, hpending] at hnot
  | empty _ _ => exact none

end RuntimeLost

section Run

variable {p : Primitives} {before : StoredAppliedState} {m : Backend} {runtime : ArmedRuntime}
  {topology : TopologySnapshot} {now : ℕ}

/-- The transition of a refresh writes no journal that keeps what was in force. -/
theorem refreshWithin_lost (hactive : m.current = before.active) :
    RefreshWithin (RuntimeLost before) p m.taken runtime topology now := by
  intro current candidate lost hcurrent hplan
  constructor
  · intro l _
    exact .of_runtime rfl
  · exact RuntimeLost.committedStore rfl
  · rintro l _ record ⟨⟩
    refine Or.inr ⟨rfl, ?_⟩
    have hcurrent : before.active = some current := hactive.symm.trans hcurrent
    rw [hcurrent]
    intro hsame
    obtain rfl : candidate = current := Option.some.inj hsame
    exact nextGeneration_ne _ (generation_of_compileRuntimePlan hplan).symm

/-- The memory holds the plan of an uninterrupted journal once the refresh is prepared. -/
theorem Prepared.current {v v' : JournalView} {unverified : Bool} {m' : Backend}
    (h : Prepared p v m unverified v' m') (hstore : v.store = some before)
    (hnot : before.interrupted = false) : v' = v ∧ m'.current = before.active := by
  have hv : v.interrupted = false := by rw [JournalView.interrupted, hstore]; exact hnot
  cases h with
  | replayed hinterrupted _ _ _ => exact absurd (hinterrupted.symm.trans hv) (by decide)
  | read _ hinspected hloaded =>
    refine ⟨rfl, ?_⟩
    rw [hstore] at hinspected
    have hcurrent : ∀ m₁ : Backend, Inspected p m (some before) m₁ → m₁.current = before.active := by
      rintro m₁ (_ | ⟨hlegacy, -⟩ | ⟨-, hlegacy, -⟩ | _)
      · simp [StoredAppliedState.interrupted, hlegacy] at hnot
      · simp [StoredAppliedState.interrupted, hlegacy] at hnot
      · rfl
    exact hloaded.current.trans (hcurrent _ hinspected)

/-- A refresh of an uninterrupted journal writes only journals that lose what was in force,
and ends with one of them if it ever saved a pending one. -/
theorem refreshRuntime_loses {v : JournalView} (hstore : v.store = some before)
    (hnot : before.interrupted = false) :
    Journals (FoundOrLost before) pendingSaved v m
      (refreshRuntime p topology now)
      (fun b _ v' _ => b = true → RuntimeLost before v'.store) (fun _ _ _ => True) := by
  have hv : v.interrupted = false := by rw [JournalView.interrupted, hstore]; exact hnot
  have hunsaved : ¬pendingSaved v.store = true := by
    rw [hstore]
    intro hpending
    simp [StoredAppliedState.interrupted, show before.pending.isSome = true from hpending] at hnot
  have hrefresh : ∀ (unverified : Bool) (v₁ : JournalView) (m₁ : Backend) (runtime : ArmedRuntime),
      Prepared p v m unverified v₁ m₁ → m₁.runtime = some runtime →
      RefreshWithin (RuntimeLost before) p m₁.taken runtime topology now :=
    fun _ _ _ _ hprepared _ => refreshWithin_lost (hprepared.current hstore hnot).2
  refine Shows.conseq (refreshRuntime_spec (Or.inl hstore) ?_ ?_) ?_ fun _ _ _ _ => trivial
  · intro record written hrecord hinterrupted
    obtain rfl := Option.some.inj (hstore.symm.trans hrecord)
    exact absurd (hinterrupted.symm.trans hnot) (by decide)
  · intro unverified v₁ m₁ runtime hprepared hruntime current candidate lost hcurrent hplan
    have hwithin := hrefresh unverified v₁ m₁ runtime hprepared hruntime current candidate lost
      hcurrent hplan
    exact ⟨fun l hl => Or.inr (hwithin.pending l hl),
      fun written h => Or.inr (hwithin.repaired written h),
      fun l hl => Or.inr (hwithin.committed l hl)⟩
  · rintro b status v' m' ⟨-, hended⟩ hb
    cases hended with
    | waits _ hflag => exact absurd (hflag hb) hunsaved
    | unprepared _ _ hfailed _ =>
      cases hfailed with
      | unread _ hflag => exact absurd (hflag hb) hunsaved
      | unreplayed hrecord hinterrupted _ =>
        obtain rfl := Option.some.inj (hstore.symm.trans hrecord)
        exact absurd (hinterrupted.symm.trans hnot) (by decide)
      | replayed hinterrupted _ => exact absurd (hinterrupted.symm.trans hv) (by decide)
      | inspected _ _ hflag => exact absurd (hflag hb) hunsaved
    | prepared _ hprepared hflag hended =>
      obtain ⟨rfl, -⟩ := hprepared.current hstore hnot
      rcases hended.left with ⟨hsame, hflag'⟩ | ⟨runtime, hruntime, hwritten⟩
      · exact absurd (flag_or (hflag hv) hflag' hb) hunsaved
      · exact hwritten _ (hrefresh _ _ _ runtime hprepared hruntime)

/-- Reconciling writes no journal that brings back what was lost. -/
theorem ensureReconciled_keepsLost {v : JournalView} (hv : RuntimeLost before v.store) :
    Journals (RuntimeLost before) pendingSaved v m (ensureReconciled p)
      (fun _ _ v' _ => RuntimeLost before v'.store)
      (fun _ v' _ => RuntimeLost before v'.store) := by
  have hwrites : ∀ record written, v.store = some record → RecoveryWrites record written →
      RuntimeLost before written := by
    intro record written hstore hwrites
    rw [hstore] at hv
    exact hv.recoveryWrites hwrites
  refine Shows.conseq (ensureReconciled_spec hv hwrites) ?_ ?_
  · rintro b _ v' m' ⟨-, hended⟩
    rcases hended.store with hsame | ⟨record, hstore, h⟩
    · rwa [hsame]
    · exact hwrites record _ hstore h
  · rintro b v' m' ⟨-, -, ⟨hsame, -⟩ | ⟨record, hstore, hfailed⟩⟩
    · rwa [hsame]
    · rcases hfailed.store with hsame | h
      · rwa [hsame]
      · exact hwrites record _ hstore h

/-- Recovering, however often and however it goes, brings back nothing that was lost. -/
theorem Recovers.lost {s t : System} (h : Recovers p s t) (hs : RuntimeLost before s.store) :
    RuntimeLost before t.store := by
  induction h with
  | refl => exact hs
  | changed _ hsame ih =>
    rw [hsame]
    exact ih
  | @killed t m faults e _ he ih =>
    exact (ensureReconciled_keepsLost (v := t.view) ih t faults rfl).1 e he
  | @ran t m faults _ ih =>
    have hpost := (ensureReconciled_keepsLost (p := p) (m := m) (v := t.view) ih t faults rfl).2
    split at hpost
    · exact hpost
    · exact hpost

/-- **No failed refresh keeps what was in force.**  Whatever happens after it, short of a
new request of a client, the journal never again tells of the plan and the runtime that
were committed before. -/
theorem failed_refresh_loses_runtime (p : Primitives) (s : System) (m : Backend)
    (faults : ℕ → Bool) (before : StoredAppliedState) (runtime : RuntimeRecord)
    (topology : TopologySnapshot) (now : ℕ) (hstore : s.store = some before)
    (hcommitted : before.interrupted = false) (hruntime : before.runtime = some runtime)
    {failed later : System} (hfails : RefreshFails p topology now ⟨s, m, faults⟩ failed)
    (hlater : Recovers p failed later) : ¬KeepsInForce before later.store := by
  have hloses : Journals (FoundOrLost before) pendingSaved s.view m
      (refreshRuntime p topology now) (fun b _ v' _ => b = true → RuntimeLost before v'.store)
      (fun _ _ _ => True) := refreshRuntime_loses hstore hcommitted
  obtain ⟨hevents, hpost⟩ := hloses s faults rfl
  have hlost : RuntimeLost before failed.store := by
    cases hfails with
    | killed he hsaved =>
      rcases hevents _ he with hsame | hlost
      · have hsaved : pendingSaved (some before) = true := hsame ▸ hsaved
        have hpending : before.pending.isSome = true := hsaved
        simp [StoredAppliedState.interrupted, hpending] at hcommitted
      · exact hlost
    | told he hsaved hresult _ =>
      rw [hresult] at hpost
      exact hpost (List.any_eq_true.2 ⟨_, he, hsaved⟩)
  exact (hlater.lost hlost).not_keepsInForce hruntime

end Run

/-! ## A refresh that loses its runtime -/

/-- Digests that tell apart what a small deployment goes through. -/
def countDigest (n : ℕ) : String :=
  String.ofList (List.replicate (n % 64) 'a' ++ List.replicate (64 - n % 64) 'b')

def chainWeight : ChainName → ℕ
  | .state generation _ => generation
  | .transaction generation _ => 2 * generation
  | _ => 0

def countPrimitives : Primitives where
  blake3 := ⟨fun content => countDigest content.localAddresses.length, id,
    fun document => countDigest (document.length + ((chainNames document).map chainWeight).sum)⟩
  toLowercase := id
  routingFingerprint _ := ""
  routingModelFingerprint _ _ := ""
  policyHash profile _ := profile.id
  tokenHash := id
  stateBytes _ := 0
  planBytes _ := 0
  activationBytes _ := 0
  domainErrorText _ := ""
  planErrorText _ := ""
  validationErrorText _ := ""
  conflicts _ _ := none
  conflictsForUpdate _ _ _ := none
  rulesInOrder _ := []
  routesInOrder _ := []
  orphanDocumentError _ := none
  legacyStateChain _ := .guard
  legacyNftFingerprint _ := ""
  legacyDocument _ _ _ := []

/-- A profile without lanes: everything is blocked but the machine's own addresses. -/
def bareProfile : Profile where
  id := "p"
  name := "P"
  enabled := true
  lanes := []
  rules := []
  routing := ⟨.preserveSystem, .followSystemDefault, [], true⟩

def bareTopology (addresses : List IpAddr) : TopologySnapshot where
  interfaces := .empty
  observed := true
  assignedAddresses := addresses

/-- What the profile compiles to. -/
def barePlan (generation : ℕ) (addresses : List IpAddr) : KernelPlan where
  primary := noPrimary
  localNetworks := []
  localAddresses := addresses
  generation := generation
  profileId := "p"
  lanes := []
  rules := []

def bareRuntime : RuntimeRecord :=
  ⟨⟨1000, "boot", 1, "p", .empty⟩, bareProfile, ⟨.empty⟩, noPrimary⟩

def oneAddress : List IpAddr := [.v4 0x0a020002#32]

def twoAddresses : List IpAddr := [.v4 0x0a020002#32, .v4 0x0a020003#32]

/-- The journal of a plan that is in force and of the runtime it was armed with. -/
def journalOf (plan : KernelPlan) (runtime : RuntimeRecord) : StoredAppliedState :=
  committedRecord plan
    (nftDocumentFingerprint countPrimitives.blake3
      (renderNftDocument countPrimitives.blake3 (some plan) none false))
    none ⟨[], some runtime, none⟩

/-- The kernel has the plan the journal tells of. -/
def systemOf (plan : KernelPlan) (runtime : RuntimeRecord) (settings : InterfaceSettings) : System :=
  ⟨committedKernel countPrimitives.blake3 plan, [], some (journalOf plan runtime),
    fun _ => false, settings, some "boot", 1, "token"⟩

/-- The two uplinks check the source of what comes in, and not yet by its mark. -/
def uplinkSettings : InterfaceSettings where
  identity name := ((uplinks "eth0").interface name).bind InterfaceTopology.identity
  rpFilter _ := some 1
  srcValidMark _ := some 0

/-- The uplinks of both lanes were granted while the first carried the system's default. -/
def routedRuntime : RuntimeRecord where
  grant := ⟨1000, "boot", 1, "p", frozenBindings routedProfile (uplinks "eth0")⟩
  profile := routedProfile
  resolutions := ⟨.empty⟩
  decision := routedPlan.primary

def routedSystem : System := systemOf routedPlan routedRuntime uplinkSettings

def armedJournal : StoredAppliedState := journalOf (barePlan 1 oneAddress) bareRuntime

def armedSystem : System :=
  systemOf (barePlan 1 oneAddress) bareRuntime ⟨fun _ => none, fun _ => none, fun _ => none⟩

/-- An address was added, and the helper, just started, cannot install the guard. -/
def guardFailure : Outcome System Backend PrivilegedError RuntimeStatus :=
  refreshRuntime countPrimitives (bareTopology twoAddresses) 0
    ⟨armedSystem, .fresh, fun i => i == 29⟩

theorem failed_refresh_loses_runtime_guard :
    ¬KeepsInForce armedJournal guardFailure.world.machine.store := by
  have hsaved : (guardFailure.events.any fun e => pendingSaved e.state.store) = true := by
    decide +kernel
  have htold : (guardFailure.result.toOption.bind RuntimeStatus.lastError).isSome = true := by
    decide +kernel
  obtain ⟨e, he, hsaved⟩ := List.any_eq_true.1 hsaved
  have hfails : RefreshFails countPrimitives (bareTopology twoAddresses) 0
      ⟨armedSystem, .fresh, fun i => i == 29⟩ guardFailure.world.machine := by
    cases hresult : guardFailure.result with
    | error e => simp [hresult, Except.toOption] at htold
    | ok status =>
      refine .told he hsaved hresult ?_
      simpa [hresult, Except.toOption] using htold
  exact failed_refresh_loses_runtime countPrimitives armedSystem .fresh _ armedJournal bareRuntime
    (bareTopology twoAddresses) 0 rfl rfl rfl hfails (.refl _)

/-- The guard cannot be installed, the rollback succeeds, and the journal tells of the same
plan, without its runtime. -/
theorem guard_failure_drops_runtime :
    loaderAccepts countPrimitives armedJournal = .ok () ∧ armedSystem.store = some armedJournal ∧
      armedJournal.runtime = some bareRuntime ∧
      (guardFailure.events.any fun e => pendingSaved e.state.store) = true ∧
      guardFailure.world.machine.store = some { armedJournal with runtime := none } ∧
      ¬KeepsInForce armedJournal guardFailure.world.machine.store := by
  have hstore : guardFailure.world.machine.store = some { armedJournal with runtime := none } := by
    decide +kernel
  refine ⟨by decide +kernel, rfl, rfl, by decide +kernel, hstore, ?_⟩
  rw [hstore]
  rintro ⟨record, hrecord, -, hruntime⟩
  obtain rfl := Option.some.inj hrecord
  exact absurd hruntime (by decide)

end RouteLane
