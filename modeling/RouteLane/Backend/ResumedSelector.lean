import RouteLane.Backend.FailedRefresh
import RouteLane.Backend.RuntimeRecords
import RouteLane.Runtime.Resumption

/-!
# Selectors across refreshes and restarts

The helper keeps the selector of its runtime in memory and drops it when a refresh fails or
the process ends; the next refresh resumes one from the record.  `resumed_selectors_bound`
follows this through every history of refreshes and restarts.
-/

namespace RouteLane

open Fallible Nft Faults Program Steps

/-! ## The journal and the memory -/

/-- The runtime of the journal is that of an activation. -/
def GrantedStore (store : Option StoredAppliedState) : Prop :=
  ∀ record, store = some record → ∀ runtime, record.runtime = some runtime → runtime.Granted

/-- The selector of a runtime, if it is in memory, is bound to what was granted. -/
structure ArmedRuntime.Bound (runtime : ArmedRuntime) : Prop where
  granted : runtime.record.Granted
  bindings : ∀ selector, runtime.selector = some selector →
    selector.bindings = runtime.record.grant.interfaces

def Backend.Bound (m : Backend) : Prop := ∀ runtime, m.runtime = some runtime → runtime.Bound

/-- What is granted does not depend on the decision. -/
theorem undecided_granted : Undecided RuntimeRecord.Granted :=
  fun _ _ h => ⟨h.lanes_nodup, h.interfaces⟩

section Prepare

variable {p : Primitives} {v v' : JournalView} {m m' : Backend}

theorem Backend.Bound.of_none (h : m.runtime = none) : m.Bound :=
  fun runtime hruntime => by rw [h] at hruntime; cases hruntime

theorem Backend.Bound.record (h : m.Bound) : MemoryRecord RuntimeRecord.Granted m :=
  fun runtime hruntime => (h runtime hruntime).granted

theorem Backend.Bound.of_runtime (h : m.Bound) (hsame : m'.runtime = m.runtime) : m'.Bound :=
  fun runtime hruntime => h runtime (hsame.symm.trans hruntime)

theorem Backend.Bound.kept (h : m.Bound)
    (hkept : m'.runtime = m.runtime ∨ m'.runtime = none) : m'.Bound := by
  rcases hkept with hsame | hnone
  · exact h.of_runtime hsame
  · exact .of_none hnone

/-- A runtime read from the journal has no selector yet. -/
theorem RuntimeLoaded.bound (h : RuntimeLoaded p v m m') (hv : GrantedStore v.store)
    (hm : m.Bound) : m'.Bound := by
  cases h with
  | again _ => exact hm
  | read mismatch _ _ =>
    intro runtime hruntime
    obtain ⟨record, hrecord, rfl⟩ := Option.map_eq_some_iff.1 hruntime
    refine ⟨?_, fun selector hselector => by cases hselector⟩
    cases hstore : v.store with
    | none => rw [hstore] at hrecord; cases hrecord
    | some stored => rw [hstore] at hrecord; exact hv stored hstore record hrecord

theorem Prepared.bound {unverified : Bool} (h : Prepared p v m unverified v' m')
    (hv : GrantedStore v.store) (hm : m.Bound) : m'.Bound ∧ GrantedStore v'.store := by
  refine ⟨?_, (h.record hv hm.record).2⟩
  cases h with
  | replayed _ _ hreconciled hloaded =>
    exact hloaded.bound (hreconciled.storeRecord hv) ((hm.kept hreconciled.runtime).of_runtime rfl)
  | read _ hinspected hloaded => exact hloaded.bound hv (hm.kept hinspected.runtime)

end Prepare

/-! ## A refresh -/

/-- The selector a refresh of the runtime works with. -/
def ArmedRuntime.working (runtime : ArmedRuntime) (topology : TopologySnapshot) : PrimarySelector :=
  runtime.selector.getD (runtime.record.resumed topology)

/-- Where a refresh has to resume a selector, every device of the grant is there. -/
def Resumable (p : Primitives) (v : JournalView) (m : Backend) (topology : TopologySnapshot) :
    Prop :=
  ∀ unverified v' m' runtime, Prepared p v m unverified v' m' → m'.runtime = some runtime →
    runtime.phase ≠ .needsReauthorization → runtime.selector = none →
    runtime.record.Present topology

section Refresh

variable {p : Primitives} {flag : Option StoredAppliedState → Bool} {v v' : JournalView}
  {m m' : Backend} {topology : TopologySnapshot} {now : ℕ} {runtime runtime' : ArmedRuntime}
  {b : Bool}

theorem selector_refreshCandidate (current : KernelPlan) :
    (refreshCandidate p runtime current topology now).selector =
      ((runtime.working topology).feed ⟨runtime.record.profile.routing,
        restrictToGrant topology runtime.record.grant, now⟩) := rfl

/-- The selector a refresh works with is bound to the grant when the one it resumes is. -/
theorem ArmedRuntime.Bound.working (h : runtime.Bound) (hcaptured : Captured topology) :
    (runtime.working topology).bindings = runtime.record.grant.interfaces ↔
      (runtime.selector = none → runtime.record.Present topology) := by
  unfold ArmedRuntime.working
  cases hselector : runtime.selector with
  | none =>
    rw [Option.getD_none, bindings_resumed_iff h.granted hcaptured]
    exact ⟨fun hpresent _ => hpresent, fun hpresent => hpresent rfl⟩
  | some selector =>
    rw [Option.getD_some]
    exact ⟨fun _ hnone => absurd hnone (by simp), fun _ => h.bindings selector hselector⟩

theorem CandidateCommitted.bound {current candidate : KernelPlan} {decision : PrimaryDecision}
    {lost : LostUnicast} {outcome : Except PrivilegedError Unit}
    (h : CandidateCommitted flag p v m runtime current decision candidate lost now b runtime'
      outcome v' m') (hbound : runtime.Bound) : runtime'.Bound := by
  cases h with
  | unchanged _ _ => exact ⟨hbound.granted, hbound.bindings⟩
  | heldBack _ _ => exact ⟨hbound.granted, hbound.bindings⟩
  | failed _ _ _ _ => exact ⟨hbound.granted, hbound.bindings⟩
  | committed _ _ _ _ _ =>
    exact ⟨⟨hbound.granted.lanes_nodup, hbound.granted.interfaces⟩, hbound.bindings⟩

theorem ArmedRefreshed.bound {unverified : Bool} {outcome : Except PrivilegedError Unit}
    (h : ArmedRefreshed flag p v m runtime topology now unverified b runtime' outcome v' m')
    (hcaptured : Captured topology) (hbound : runtime.Bound)
    (hpresent : runtime.phase ≠ .needsReauthorization → runtime.selector = none →
      runtime.record.Present topology) : runtime'.Bound := by
  have hcomputed (current : KernelPlan) (hphase : runtime.phase ≠ .needsReauthorization) :
      (runtime.computed (refreshCandidate p runtime current topology now)).Bound := by
    refine ⟨hbound.granted, fun selector hselector => ?_⟩
    obtain rfl := Option.some.inj hselector
    rw [selector_refreshCandidate, PrimarySelector.bindings_feed]
    exact (hbound.working hcaptured).2 (hpresent hphase)
  cases h with
  | unauthorized _ => exact hbound
  | unobserved _ _ _ => exact hbound
  | uncompiled hphase _ _ _ => exact hcomputed _ hphase
  | @unproved current _ _ _ hphase _ _ _ _ =>
    have hleft := hcomputed current hphase
    unfold ArmedRuntime.unproved
    split
    · exact ⟨hleft.granted, hleft.bindings⟩
    · exact hleft
  | proved _ hphase _ _ _ _ hcommitted => exact hcommitted.bound (hcomputed _ hphase)

/-- A runtime whose refresh failed has no selector any more. -/
theorem ArmedRuntime.Bound.failed (h : runtime.Bound) (e : PrivilegedError) :
    (runtime.failed e).Bound := ⟨h.granted, fun selector hselector => by cases hselector⟩

theorem PreparedRefreshed.bound {unverified : Bool}
    (h : PreparedRefreshed flag p v m topology now unverified b v' m') (hcaptured : Captured topology)
    (hm : m.Bound) (hpresent : ∀ runtime, m.runtime = some runtime →
      runtime.phase ≠ .needsReauthorization → runtime.selector = none →
      runtime.record.Present topology) : m'.Bound := by
  cases h with
  | inactive _ => exact hm
  | told hruntime hrefreshed =>
    rintro _ ⟨⟩
    exact hrefreshed.bound hcaptured (hm _ hruntime) (hpresent _ hruntime)
  | failed hruntime hrefreshed _ _ =>
    rintro _ ⟨⟩
    exact (hrefreshed.bound hcaptured (hm _ hruntime) (hpresent _ hruntime)).failed _
  | stalled hruntime hrefreshed _ =>
    rintro _ ⟨⟩
    have hleft := hrefreshed.bound hcaptured (hm _ hruntime) (hpresent _ hruntime)
    exact ⟨hleft.granted, fun selector hselector => by cases hselector⟩

/-- A refresh binds no selector to anything but the grant. -/
theorem Refreshed.bound (h : Refreshed flag p v m topology now b v' m')
    (hcaptured : Captured topology) (hv : GrantedStore v.store) (hm : m.Bound)
    (hresumable : Resumable p v m topology) : m'.Bound := by
  cases h with
  | waits _ _ =>
    intro runtime hruntime
    obtain ⟨held, hheld, rfl⟩ := Option.map_eq_some_iff.1 hruntime
    exact ⟨(hm held hheld).granted, (hm held hheld).bindings⟩
  | prepared _ hprepared _ hended =>
    refine hended.bound hcaptured (hprepared.bound hv hm).1 ?_
    intro runtime hruntime
    exact hresumable _ _ _ runtime hprepared hruntime
  | unprepared _ _ hfailed hruntime =>
    rintro _ ⟨⟩
    exact ⟨(hm.kept hfailed.runtime _ hruntime).granted, fun selector hselector => by cases hselector⟩

theorem RefreshGaveUp.bound (h : RefreshGaveUp flag p v m now b v' m') : m'.Bound := by
  cases h with
  | unprepared _ _ _ hnone => exact .of_none hnone

/-- Every journal a refresh goes through has the runtime of an activation, and what it leaves
in the memory is bound to its grant. -/
theorem refreshRuntime_granted (flag : Option StoredAppliedState → Bool) (p : Primitives)
    (topology : TopologySnapshot) (now : ℕ) (hv : GrantedStore v.store) (hm : m.Bound) :
    Journals GrantedStore flag v m (refreshRuntime p topology now)
      (fun _ _ v' m' => GrantedStore v'.store ∧
        (Captured topology → Resumable p v m topology → m'.Bound))
      (fun _ v' m' => GrantedStore v'.store ∧ m'.Bound) := by
  have hrecord : MemoryRecord RuntimeRecord.Granted m := hm.record
  refine Shows.conseq (refreshRuntime_spec hv ?_ ?_) ?_ ?_
  · intro record written hstore _ hwrites
    rw [hstore] at hv
    exact StoreRecord.recoveryWrites hv hwrites
  · intro unverified v₁ m₁ runtime hprepared hruntime
    exact refreshWithin_record undecided_granted ((hprepared.record hv hrecord).1 runtime hruntime)
  · rintro b status v' m' ⟨-, hrefreshed⟩
    exact ⟨hrefreshed.storeRecord undecided_granted hv hrecord, fun hcaptured hresumable =>
      hrefreshed.bound hcaptured hv hm hresumable⟩
  · intro b v' m' hgaveUp
    exact ⟨(hgaveUp.record hv).1, hgaveUp.bound⟩

end Refresh

/-! ## An activation -/

section Activation

variable {flag : Option StoredAppliedState → Bool} {p : Primitives} {v v' : JournalView}
  {m m' : Backend} {activation : RuntimeActivation} {topology : TopologySnapshot} {b : Bool}

theorem validateProfile_of_validateActivation (h : validateActivation p activation topology = .ok ()) :
    validateProfile p.toLowercase activation.profile = .ok () := by
  unfold validateActivation at h
  simp only [Fallible.check_eq_ok] at h
  exact mapError_eq_ok.1 h.2.2.1

/-- A transition to a granted runtime only writes journals with the runtime of an
activation. -/
theorem moveWithin_granted {t : Move} (hm : m.Bound)
    (ht : ∀ record, t.runtime = some record → record.Granted) : t.Within GrantedStore p m := by
  have hextras : ∀ record, m.committedExtras.runtime = some record → record.Granted := by
    intro record hrecord
    obtain ⟨runtime, hruntime, rfl⟩ := Option.map_eq_some_iff.1 hrecord
    exact (hm runtime hruntime).granted
  exact ⟨fun l _ => StoreRecord.of_runtime hextras, StoreRecord.committedStore hextras,
    fun l _ => StoreRecord.of_runtime ht⟩

/-- The end of an activation: the plan is committed and its runtime armed. -/
theorem armRuntime_granted {plan : KernelPlan} {lost : LostUnicast} {record : RuntimeRecord}
    {receipt : RuntimeRestoreReceipt} {selector : PrimarySelector} {token : String}
    (hv : GrantedStore v.store) (hm : m.Bound) (hrecord : record.Granted)
    (hselector : selector.bindings = record.grant.interfaces)
    (hgeneration : ∀ current, m.current = some current → plan.generation ≠ current.generation) :
    Journals GrantedStore flag v m
      (do Backend.transitionWith p plan none lost (some record) (some receipt)
          modify fun backend =>
            { backend with runtime := some ⟨record, some selector, .armed, none, none, none⟩ }
          return token)
      (fun _ _ v' m' => GrantedStore v'.store ∧ m'.Bound)
      (fun _ v' m' => GrantedStore v'.store ∧ m'.Bound) := by
  let t : Move := ⟨plan, none, lost, some record, some receipt⟩
  have hwithin : t.Within GrantedStore p m := by
    refine moveWithin_granted hm ?_
    rintro _ ⟨⟩
    exact hrecord
  refine Shows.bind (Shows.conseq (transitionWith_spec (t := t) hv hwithin fun _ => hgeneration)
    (fun _ _ _ _ h => h) ?_) ?_
  · rintro b v' m' ⟨-, hfailed⟩
    refine ⟨?_, hm.of_runtime hfailed.runtime⟩
    rcases hfailed.left with ⟨hsame, -⟩ | hwritten
    · rwa [hsame]
    · exact hwritten _ hwithin
  · rintro b _ v' m' ⟨-, l, hl, hstore, rfl⟩
    refine Shows.modify_bind (Shows.pure ⟨?_, ?_⟩)
    · rw [hstore]
      exact hwithin.committed l hl
    · rintro _ ⟨⟩
      refine ⟨hrecord, ?_⟩
      rintro _ ⟨⟩
      exact hselector

/-- What an activation arms is bound to what it grants. -/
theorem activateRuntime_granted (flag : Option StoredAppliedState → Bool) (p : Primitives)
    (activation : RuntimeActivation) (uid : ℕ) (now : ℕ) (hcaptured : Captured topology)
    (hv : GrantedStore v.store) (hm : m.Bound) :
    Journals GrantedStore flag v m (activateRuntime p activation uid topology now)
      (fun _ _ v' m' => GrantedStore v'.store ∧ m'.Bound)
      (fun _ v' m' => GrantedStore v'.store ∧ m'.Bound) := by
  refine Shows.bind (Shows.conseq lift_spec (fun _ _ _ _ h => h) ?_) ?_
  · rintro b v' m' ⟨-, -, rfl, rfl⟩
    exact ⟨hv, hm⟩
  rintro b _ v' m' ⟨hvalid, -, rfl, rfl⟩
  have hprofile := validateProfile_of_validateActivation hvalid
  have hwrites : ∀ record written, v'.store = some record → record.interrupted = true →
      RecoveryWrites record written → GrantedStore written := by
    intro record written hstore _ hwrites
    rw [hstore] at hv
    exact StoreRecord.recoveryWrites hv hwrites
  refine Shows.bind (Shows.conseq (prepareRuntimeOperation_spec hv hwrites)
    (fun _ _ _ _ h => h) ?_) ?_
  · exact fun b' w m₁ ⟨_, hfailed⟩ => ⟨hfailed.storeRecord hv, hm.kept hfailed.runtime⟩
  rintro b' unverified w m₁ ⟨hprepared, -⟩
  obtain ⟨hm₁, hw⟩ := hprepared.bound hv hm
  have hquit : ∀ b, (b = true → flag w.store = true) → GrantedStore w.store ∧ m₁.Bound :=
    fun _ _ => ⟨hw, hm₁⟩
  refine Shows.quiet_bind untouched_refuseLegacyActivation hw hquit fun _ _ _ => ?_
  refine Shows.get_bind ?_
  refine Shows.quiet_bind (untouched_require _ _) hw hquit fun _ _ _ => ?_
  refine Shows.quiet_bind (Quiet.inspectSome _ _ _) hw hquit fun _ bootId _ => ?_
  refine Shows.quiet_bind (Quiet.inspect _ _) hw hquit fun _ networkNamespace _ => ?_
  refine Shows.bind (Shows.conseq lift_spec (fun _ _ _ _ h => h) ?_) ?_
  · rintro b₁ w' m₂ ⟨-, -, rfl, rfl⟩
    exact ⟨hw, hm₁⟩
  rintro b₁ plan w' m₂ ⟨hplan, -, rfl, rfl⟩
  refine Shows.quiet_bind (untouched_revalidateCurrentOwnershipFor _ _) hw hquit fun _ lost _ => ?_
  refine Shows.quiet_bind (Quiet.inspect _ _) hw hquit fun _ token _ => ?_
  refine armRuntime_granted hw hm₁ ⟨validateProfile_lanes_nodup hprofile, topology, hcaptured, rfl⟩
    ?_ ?_
  · exact bindings_new_granted (validateProfile_lanes_nodup hprofile) hcaptured rfl
  · intro current hcurrent
    have hgeneration := generation_of_compileRuntimePlan hplan
    rw [hcurrent] at hgeneration
    rw [hgeneration]
    exact nextGeneration_ne _

end Activation

/-! ## Histories -/

/-- What activations, refreshes and restarts of the helper can lead to from a system and a
memory: each may fail anywhere or be killed anywhere, and only the helper writes the
journal. -/
inductive Refreshes (p : Primitives) (s : System) (m : Backend) : System → Backend → Prop
  | start : Refreshes p s m s m
  | changed {t u : System} {m' : Backend} : Refreshes p s m t m' → u.store = t.store →
      Refreshes p s m u m'
  | restarted {t : System} {m' : Backend} : Refreshes p s m t m' → Refreshes p s m t .fresh
  | activated {t : System} {m' : Backend} {faults : ℕ → Bool} {activation : RuntimeActivation}
      {uid : ℕ} {topology : TopologySnapshot} {now : ℕ} : Refreshes p s m t m' →
      Captured topology →
      Refreshes p s m (activateRuntime p activation uid topology now ⟨t, m', faults⟩).world.machine
        (activateRuntime p activation uid topology now ⟨t, m', faults⟩).world.memory
  | activationKilled {t : System} {m' : Backend} {faults : ℕ → Bool}
      {activation : RuntimeActivation} {uid : ℕ} {topology : TopologySnapshot} {now : ℕ}
      {e : Event System} : Refreshes p s m t m' → Captured topology →
      e ∈ (activateRuntime p activation uid topology now ⟨t, m', faults⟩).events →
      Refreshes p s m e.state .fresh
  | refreshed {t : System} {m' : Backend} {faults : ℕ → Bool} {topology : TopologySnapshot}
      {now : ℕ} : Refreshes p s m t m' → Captured topology → Resumable p t.view m' topology →
      Refreshes p s m (refreshRuntime p topology now ⟨t, m', faults⟩).world.machine
        (refreshRuntime p topology now ⟨t, m', faults⟩).world.memory
  | refreshKilled {t : System} {m' : Backend} {faults : ℕ → Bool} {topology : TopologySnapshot}
      {now : ℕ} {e : Event System} : Refreshes p s m t m' →
      e ∈ (refreshRuntime p topology now ⟨t, m', faults⟩).events → Refreshes p s m e.state .fresh

theorem Refreshes.bound {p : Primitives} {s t : System} {m m' : Backend}
    (h : Refreshes p s m t m') (hs : GrantedStore s.store) (hm : m.Bound) :
    GrantedStore t.store ∧ m'.Bound := by
  have hfresh : Backend.fresh.Bound := .of_none rfl
  induction h with
  | start => exact ⟨hs, hm⟩
  | changed _ hsame ih => exact ⟨hsame ▸ ih.1, ih.2⟩
  | restarted _ ih => exact ⟨ih.1, hfresh⟩
  | @activated t m' faults activation uid topology now _ hcaptured ih =>
    have hpost := (activateRuntime_granted (v := t.view) (fun _ => true) p activation uid now
      hcaptured ih.1 ih.2 t faults rfl).2
    split at hpost
    · exact hpost
    · exact hpost
  | @activationKilled t m' faults activation uid topology now e _ hcaptured he ih =>
    exact ⟨(activateRuntime_granted (v := t.view) (fun _ => true) p activation uid now hcaptured
      ih.1 ih.2 t faults rfl).1 e he, hfresh⟩
  | @refreshed t m' faults topology now _ hcaptured hresumable ih =>
    have hpost := (refreshRuntime_granted (v := t.view) (fun _ => true) p topology now ih.1 ih.2
      t faults rfl).2
    split at hpost
    · exact ⟨hpost.1, hpost.2 hcaptured hresumable⟩
    · exact hpost
  | @refreshKilled t m' faults topology now e _ he ih =>
    exact ⟨(refreshRuntime_granted (v := t.view) (fun _ => true) p topology now ih.1 ih.2
      t faults rfl).1 e he, hfresh⟩

/-- **Resumed selectors.**  In every history in which each refresh that has to resume a
selector finds the devices of the grant, the selector in the memory is bound to exactly what
was granted.  And at any point of it, the selector the next refresh works with is bound so,
and is the one that was never interrupted, exactly if that refresh finds them too. -/
theorem resumed_selectors_bound (p : Primitives) {s t : System} {m m' : Backend}
    (hs : GrantedStore s.store) (hm : m.Bound) (h : Refreshes p s m t m') :
    (∀ runtime selector, m'.runtime = some runtime → runtime.selector = some selector →
      selector.bindings = runtime.record.grant.interfaces) ∧
    ∀ unverified v' m₁ runtime topology, Prepared p t.view m' unverified v' m₁ →
      m₁.runtime = some runtime → Captured topology →
      ((runtime.working topology).bindings = runtime.record.grant.interfaces ↔
        (runtime.selector = none → runtime.record.Present topology)) ∧
      (runtime.selector = none → (runtime.working topology = runtime.record.uninterrupted ↔
        runtime.record.Present topology)) := by
  obtain ⟨hstore, hmemory⟩ := h.bound hs hm
  constructor
  · intro runtime selector hruntime
    exact (hmemory runtime hruntime).bindings selector
  · intro unverified v' m₁ runtime topology hprepared hruntime hcaptured
    have hbound := (hprepared.bound hstore hmemory).1 runtime hruntime
    refine ⟨hbound.working hcaptured, fun hnone => ?_⟩
    rw [ArmedRuntime.working, hnone, Option.getD_none]
    exact resumed_eq_uninterrupted_iff hbound.granted hcaptured

/-! ## A device that is away when the helper comes back -/

theorem captured_uplinks : Captured (uplinks "eth0") :=
  ⟨fun _ => none, uplinkDocuments, by decide +kernel⟩

/-- One uplink is there, and has the default of the system. -/
def oneUplink (ifindex : ℕ) (name : String) (address : Ipv4Addr) : TopologySnapshot where
  interfaces := .ofList [(name, uplink ifindex name address)]
  defaults := ⟨.interface name, .none⟩
  observed := true
  assignedAddresses := [.v4 address]

def oneUplinkDocuments (ifindex : ℕ) (name : String) (address : Ipv4Addr) : TopologyInput where
  links := .ok [⟨ifindex, name, ["UP", "LOWER_UP"], "UP", "ether", none, none⟩]
  addresses := .ok [⟨ifindex, name,
    [⟨"inet", .v4 address, .string "global", [], false, false, false, none, none⟩]⟩]
  routes := ⟨.ok [⟨some "default", some name, none, none, 0, [], [], none, none⟩], .ok []⟩
  rules := ⟨.ok [], .ok []⟩

theorem captured_eth0 : Captured (oneUplink 2 "eth0" 0x0a010002#32) :=
  ⟨fun _ => none, oneUplinkDocuments 2 "eth0" 0x0a010002#32, by decide +kernel⟩

/-- The second lane is preferred, the first is its backup. -/
def returningProfile : Profile :=
  { pairProfile with routing := ⟨.usePrimary, .lane "b", ["a"], true⟩ }

/-- Both devices were granted; the second then went away and the backup took over. -/
def returningRecord : RuntimeRecord where
  grant := ⟨1000, "boot", 1, "p", frozenBindings returningProfile (uplinks "eth0")⟩
  profile := returningProfile
  resolutions := ⟨.empty⟩
  decision := ⟨⟨some "b", some "b"⟩, ⟨.lane "a", .blocked⟩⟩

theorem granted_returningRecord : returningRecord.Granted :=
  ⟨by decide, uplinks "eth0", captured_uplinks, rfl⟩

/-- The plan of the backup. -/
def returningPlan : KernelPlan where
  primary := returningRecord.decision
  localNetworks := []
  localAddresses := [.v4 0x0a010002#32]
  generation := 1
  profileId := "p"
  lanes := compileLanes (oneUplink 2 "eth0" 0x0a010002#32) returningProfile.lanes
  rules := []

def returningSystem : System := systemOf returningPlan returningRecord uplinkSettings

/-- The second device is back, and the helper, just started, refreshes. -/
def returned : Outcome System Backend PrivilegedError RuntimeStatus :=
  refreshRuntime countPrimitives (uplinks "eth0") 0 ⟨returningSystem, .fresh, fun _ => false⟩

theorem present_uplinks {record : RuntimeRecord} (h : record.grant = returningRecord.grant) :
    record.Present (uplinks "eth0") := by
  intro id identity hfind
  rw [h] at hfind
  have hall : ∀ identity ∈ returningRecord.grant.interfaces.values,
      ((uplinks "eth0").interface identity.name).bind InterfaceTopology.identity =
        some identity := by decide +kernel
  exact Option.bind_eq_some_iff.1 (hall identity (OrderedMap.mem_values_iff.2 ⟨id, hfind⟩))

/-- The second device of the grant is away. -/
theorem absent_oneUplink : ¬returningRecord.Present (oneUplink 2 "eth0" 0x0a010002#32) := by
  intro hpresent
  have hfind : returningRecord.grant.interfaces.find? "b" =
      some ⟨3, "wg0", "ether", none⟩ := by decide +kernel
  obtain ⟨entry, hentry, -⟩ := hpresent "b" _ hfind
  have hnone : (oneUplink 2 "eth0" 0x0a010002#32).interface "wg0" = none := by decide +kernel
  exact absurd (hnone.symm.trans hentry) (by simp)

theorem refreshes_returned : Refreshes countPrimitives returningSystem .fresh
    returned.world.machine returned.world.memory := by
  refine .refreshed .start captured_uplinks ?_
  intro unverified v' m' runtime hprepared hruntime _ _
  refine present_uplinks ?_
  have hstore : StoreRecord (fun record => record.grant = returningRecord.grant)
      returningSystem.store := by
    refine StoreRecord.of_runtime ?_
    rintro _ ⟨⟩
    rfl
  exact (hprepared.record hstore (.of_none rfl)).1 runtime hruntime

def returnedPlan : KernelPlan :=
  { returningPlan with
    generation := 2
    lanes := compileLanes (uplinks "eth0") returningProfile.lanes
    localAddresses := (uplinks "eth0").assignedAddresses }

/-- The journal of the refresh: both devices were made to follow marks. -/
def returnedJournal : StoredAppliedState :=
  { journalOf returnedPlan returningRecord with
    interfaceSettings := [⟨⟨2, "eth0", "ether", none⟩, 0, 1⟩, ⟨⟨3, "wg0", "ether", none⟩, 0, 1⟩] }

theorem store_returned : returned.world.machine.store = some returnedJournal := by decide +kernel

/-- The memory of the helper that was started again and has read its journal. -/
def rereadMemory : Backend :=
  (Backend.fresh.inspected returnedJournal).runtimeRead (some returnedJournal) none

theorem runtime_rereadMemory : rereadMemory.runtime = some (.loaded returningRecord none) := rfl

theorem prepared_returned : ∃ unverified, Prepared countPrimitives returned.world.machine.view
    .fresh unverified returned.world.machine.view rereadMemory := by
  have hstore : returned.world.machine.view.store = some returnedJournal := store_returned
  have huninterrupted : returned.world.machine.view.interrupted = false := by
    rw [JournalView.interrupted, hstore]
    rfl
  have hinspected : Inspected countPrimitives .fresh returned.world.machine.view.store
      (Backend.fresh.inspected returnedJournal) := by
    rw [hstore]
    exact .current rfl rfl (by decide +kernel)
  have hloaded : RuntimeLoaded countPrimitives returned.world.machine.view
      (Backend.fresh.inspected returnedJournal) rereadMemory := by
    have hread := RuntimeLoaded.read (p := countPrimitives) (v := returned.world.machine.view)
      (m := Backend.fresh.inspected returnedJournal) none rfl fun _ record hrecord => by
        rw [hstore] at hrecord
        obtain rfl := Option.some.inj hrecord
        exact ⟨by decide +kernel, by decide +kernel, rfl⟩
    rwa [hstore] at hread
  exact ⟨_, .read huninterrupted hinspected hloaded⟩

theorem resumed_selectors_bound_returning :
    (∃ runtime selector, returned.world.memory.runtime = some runtime ∧
      runtime.selector = some selector ∧ selector.bindings = runtime.record.grant.interfaces) ∧
    ∃ unverified, Prepared countPrimitives returned.world.machine.view .fresh unverified
        returned.world.machine.view rereadMemory ∧
      ∃ runtime, rereadMemory.runtime = some runtime ∧
        runtime.working (uplinks "eth0") = runtime.record.uninterrupted ∧
        (runtime.working (oneUplink 2 "eth0" 0x0a010002#32)).bindings ≠
          runtime.record.grant.interfaces := by
  have hstore : GrantedStore returningSystem.store := by
    refine StoreRecord.of_runtime ?_
    rintro _ ⟨⟩
    exact granted_returningRecord
  have hmemory : Backend.fresh.Bound := .of_none rfl
  constructor
  · have hselector : (returned.world.memory.runtime.bind ArmedRuntime.selector).isSome = true := by
      decide +kernel
    obtain ⟨selector, hselector⟩ := Option.isSome_iff_exists.1 hselector
    obtain ⟨runtime, hruntime, hselector⟩ := Option.bind_eq_some_iff.1 hselector
    exact ⟨runtime, selector, hruntime, hselector,
      (resumed_selectors_bound countPrimitives hstore hmemory refreshes_returned).1 runtime selector
        hruntime hselector⟩
  · obtain ⟨unverified, hprepared⟩ := prepared_returned
    have hworks {topology : TopologySnapshot} := (resumed_selectors_bound countPrimitives hstore
      hmemory refreshes_returned.restarted).2 _ _ _ _ topology hprepared runtime_rereadMemory
    refine ⟨unverified, hprepared, _, runtime_rereadMemory, ?_, ?_⟩
    · exact ((hworks captured_uplinks).2 rfl).2 (present_uplinks rfl)
    · intro hbound
      exact absent_oneUplink ((hworks captured_eth0).1.1 hbound rfl)

/-- The helper restarts while the granted device is away.  When the device is back, and is
the only one, the selector that was never interrupted takes it; the resumed one is bound to
nothing there and blocks. -/
theorem absent_device_lost :
    let grant := returningRecord.grant
    let away := restrictToGrant (oneUplink 2 "eth0" 0x0a010002#32) grant
    let back := restrictToGrant (oneUplink 3 "wg0" 0x0a020002#32) grant
    let resumed := (ArmedRuntime.loaded returningRecord none).working
      (oneUplink 2 "eth0" 0x0a010002#32)
    returningRecord.Granted ∧ resumed.bindings ≠ grant.interfaces ∧
      ((resumed.feed ⟨returningProfile.routing, away, 0⟩).update
        returningProfile.routing back 1).2.effective.get .v4 = .blocked ∧
      ((returningRecord.uninterrupted.feed ⟨returningProfile.routing, away, 0⟩).update
        returningProfile.routing back 1).2.effective.get .v4 = .lane "b" := by
  refine ⟨granted_returningRecord, ?_, by decide +kernel, by decide +kernel⟩
  decide +kernel

end RouteLane
