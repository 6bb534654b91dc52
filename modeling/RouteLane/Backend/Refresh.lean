import RouteLane.Backend.Reconciliation

/-!
# What a refresh leaves behind

The monitor's request: the journal is read, or what it tells of is finished, the stored
policy is recompiled against what the grant leaves of the topology, and a plan that is not
the one in force is committed.  A refresh never reports an error of its own transition; it
tells it in the status.
-/

namespace RouteLane

open Fallible Nft Faults Program

/-! ## Preparation -/

/-- The memory after a replay, before the runtime is read again. -/
def Backend.replayed (m : Backend) : Backend :=
  { m with recoveryHeldBack := none, runtimeLoaded := false }

/-- Whether the journal tells of something that was interrupted. -/
def JournalView.interrupted (v : JournalView) : Bool := v.store.any StoredAppliedState.interrupted

/-- What preparing an operation of the runtime makes of the journal and the memory, and
whether the memory was adopted without a look at the kernel. -/
inductive Prepared (p : Primitives) (v : JournalView) (m : Backend) :
    Bool → JournalView → Backend → Prop
  | replayed {v' : JournalView} {m₁ m' : Backend} : v.interrupted = true → v.Follows v' →
      EnsuredReconciled p v m v' m₁ → RuntimeLoaded p v' m₁.replayed m' →
      Prepared p v m false v' m'
  | read {m₁ m' : Backend} : v.interrupted = false → Inspected p m v.store m₁ →
      RuntimeLoaded p v m₁ m' → Prepared p v m (!m.initialized && m'.current.isSome) v m'

/-- Where preparing an operation of the runtime gave up. -/
inductive PrepareFailed (flag : Option StoredAppliedState → Bool) (p : Primitives)
    (v : JournalView) (m : Backend) : Bool → JournalView → Backend → Prop
  | unread {b : Bool} {v' : JournalView} : v'.store = v.store →
      (b = true → flag v.store = true) → PrepareFailed flag p v m b v' m
  | unreplayed {b : Bool} {v' : JournalView} {record : StoredAppliedState} :
      v.store = some record → record.interrupted = true → ReconcileFailed flag v record b v' →
      PrepareFailed flag p v m b v' m
  | replayed {b : Bool} {v' : JournalView} {m₁ : Backend} : v.interrupted = true →
      EnsuredReconciled p v m v' m₁ → PrepareFailed flag p v m b v' m₁.replayed
  | inspected {b : Bool} {m₁ : Backend} : v.interrupted = false → Inspected p m v.store m₁ →
      (b = true → flag v.store = true) → PrepareFailed flag p v m b v m₁

theorem PrepareFailed.later {flag : Option StoredAppliedState → Bool} {p : Primitives}
    {v v' : JournalView} {m m' : Backend} {b b' : Bool} (h : PrepareFailed flag p v m b' v' m')
    (hb : b = true → flag v.store = true) : PrepareFailed flag p v m (b || b') v' m' := by
  cases h with
  | unread hsame hb' => exact .unread hsame (flag_or hb hb')
  | unreplayed hstore hinterrupted hfailed =>
    exact .unreplayed hstore hinterrupted (hfailed.later hb)
  | replayed hinterrupted hreconciled => exact .replayed hinterrupted hreconciled
  | inspected hnot hinspected hb' => exact .inspected hnot hinspected (flag_or hb hb')

section Prepare

variable {J : Option StoredAppliedState → Prop} {flag : Option StoredAppliedState → Bool}
  {v : JournalView} {m : Backend} {p : Primitives}

theorem prepareRuntimeOperation_spec (hv : J v.store)
    (hJ : ∀ record written, v.store = some record → record.interrupted = true →
      RecoveryWrites record written → J written) :
    Journals J flag v m (prepareRuntimeOperation p)
      (fun b unverified v' m' => Prepared p v m unverified v' m' ∧
        (v.interrupted = false → b = true → flag v.store = true))
      (fun b v' m' => v.Follows v' ∧ PrepareFailed flag p v m b v' m') := by
  refine Shows.get_bind ?_
  refine Shows.bind (Shows.conseq (journalInterrupted_spec hv) (fun _ _ _ _ h => h) ?_) ?_
  · rintro b v' m' ⟨rfl, rfl, hb⟩
    exact ⟨.refl _, .unread rfl hb⟩
  rintro b interrupted v' m' ⟨hinterrupted, rfl, rfl, hb⟩
  cases interrupted with
  | true =>
    have hwrites : ∀ record written, v'.store = some record → RecoveryWrites record written →
        J written := by
      intro record written hstore
      refine hJ record written hstore ?_
      rw [hstore] at hinterrupted
      exact hinterrupted.symm
    refine Shows.bind (Shows.conseq (ensureReconciled_spec hv hwrites) (fun _ _ _ _ h => h) ?_) ?_
    · rintro b' w m'' ⟨hfollows, rfl, ⟨hsame, hb'⟩ | ⟨record, hstore, hfailed⟩⟩
      · exact ⟨hfollows, .unread hsame (flag_or hb hb')⟩
      · rw [hstore] at hinterrupted
        exact ⟨hfollows, .unreplayed hstore hinterrupted.symm (hfailed.later hb)⟩
    · rintro b' _ w m'' ⟨hfollows, hreconciled⟩
      have hJw : J w.store := by
        rcases hreconciled.store with hsame | ⟨record, hstore, h⟩
        · rwa [hsame]
        · exact hwrites record _ hstore h
      refine Shows.modify_bind ?_
      refine Shows.bind (Shows.conseq (loadRuntime_spec hJw) (fun _ _ _ _ h => h) ?_) ?_
      · rintro b₂ u m₃ ⟨rfl, rfl, -⟩
        exact ⟨hfollows, .replayed hinterrupted.symm hreconciled⟩
      · rintro b₂ _ u m₃ ⟨rfl, -, hloaded⟩
        refine Shows.pure ⟨.replayed hinterrupted.symm hfollows hreconciled hloaded, ?_⟩
        intro hnot
        exact absurd (hinterrupted.trans hnot) (by decide)
  | false =>
    refine Shows.bind (Shows.conseq (ensureInspectionReady_spec hv) (fun _ _ _ _ h => h) ?_) ?_
    · rintro b' w m'' ⟨rfl, rfl, hb'⟩
      exact ⟨.refl _, .unread rfl (flag_or hb hb')⟩
    · rintro b' _ w m'' ⟨rfl, hb', hinspected⟩
      refine Shows.bind (Shows.conseq (loadRuntime_spec hv) (fun _ _ _ _ h => h) ?_) ?_
      · rintro b₂ u m₃ ⟨rfl, rfl, hb₂⟩
        exact ⟨.refl _, .inspected hinterrupted.symm hinspected (flag_or hb (flag_or hb' hb₂))⟩
      · rintro b₂ _ u m₃ ⟨rfl, hb₂, hloaded⟩
        refine Shows.get_bind (Shows.pure ⟨.read hinterrupted.symm hinspected hloaded, ?_⟩)
        exact fun _ => flag_or hb (flag_or hb' (flag_or hb₂ flag_false))

end Prepare

/-! ## The candidate -/

theorem nextGeneration_ne (generation : ℕ) : nextGeneration generation ≠ generation := by
  unfold nextGeneration
  omega

/-- A plan of the runtime was compiled from the profile it is asked for, and is valid. -/
theorem compileRuntimePlan_eq_ok {p : Primitives} {profile : Profile}
    {topology : TopologySnapshot} {resolutions : ResolutionSnapshot} {decision : PrimaryDecision}
    {generation : ℕ} {plan : KernelPlan} :
    compileRuntimePlan p profile topology resolutions decision generation = .ok plan ↔
      compileProfileWithPrimary p.toLowercase profile topology resolutions decision generation =
          .ok plan ∧
        validatePrivilegedPlan plan = .ok () ∧ p.planBytes plan ≤ maxPlanJsonBytes := by
  unfold compileRuntimePlan
  rw [Fallible.bind_eq_ok]
  constructor
  · rintro ⟨plan', hcompiled, hrest⟩
    rw [Fallible.check_eq_ok, Fallible.check_eq_ok, Fallible.failIf_eq_ok, not_lt] at hrest
    obtain ⟨hvalid, hsize, hplan⟩ := hrest
    obtain rfl := Except.ok.inj hplan
    exact ⟨mapError_eq_ok.1 hcompiled, mapError_eq_ok.1 hvalid, hsize⟩
  · rintro ⟨hcompiled, hvalid, hsize⟩
    refine ⟨plan, mapError_eq_ok.2 hcompiled, ?_⟩
    rw [Fallible.check_eq_ok, Fallible.check_eq_ok, Fallible.failIf_eq_ok, not_lt]
    exact ⟨mapError_eq_ok.2 hvalid, hsize, rfl⟩

theorem generation_of_compileRuntimePlan {p : Primitives} {profile : Profile}
    {topology : TopologySnapshot} {resolutions : ResolutionSnapshot} {decision : PrimaryDecision}
    {generation : ℕ} {plan : KernelPlan}
    (h : compileRuntimePlan p profile topology resolutions decision generation = .ok plan) :
    plan.generation = generation := by
  obtain ⟨compiled, hcompiles⟩ := compileProfileWithPrimary_eq_ok (compileRuntimePlan_eq_ok.1 h).1
  rw [hcompiles.plan_eq]

/-! ## Refreshing an armed runtime -/

/-- The runtime with what its refresh computed. -/
def ArmedRuntime.computed (runtime : ArmedRuntime) (computed : RefreshCandidate) : ArmedRuntime :=
  { runtime with selector := some computed.selector, failbackInMs := computed.failbackInMs }

/-- The runtime with nothing left to do. -/
def ArmedRuntime.settled (runtime : ArmedRuntime) : ArmedRuntime :=
  { runtime with phase := .armed, lastError := none, heldBack := none }

/-- The candidate that was held back last, if it is this one. -/
def ArmedRuntime.heldFor (runtime : ArmedRuntime) (hash : PlanHash) : Option HeldBackCandidate :=
  runtime.heldBack.filter fun held => held.planHash = hash

/-- What a refresh is about to commit. -/
def refreshMove (runtime : ArmedRuntime) (decision : PrimaryDecision) (m : Backend)
    (candidate : KernelPlan) (lost : LostUnicast) : Move :=
  ⟨candidate, none, lost, some { runtime.record with decision := decision }, m.runtimeRestore⟩

/-- The wait before the held-back candidate is tried again. -/
def ArmedRuntime.echoed (runtime : ArmedRuntime) (held : HeldBackCandidate) (now : ℕ) :
    ArmedRuntime :=
  { runtime with
    failbackInMs := sooner runtime.failbackInMs (max (asMillis (held.retryAt - now)) 1) }

/-- The runtime after its candidate failed to commit. -/
def ArmedRuntime.withheld (runtime : ArmedRuntime) (hash : PlanHash) (now : ℕ) : ArmedRuntime :=
  let wait := nextRetryWait ((runtime.heldFor hash).map HeldBackCandidate.wait)
  { runtime with
    phase := .switching
    heldBack := some ⟨hash, now + wait, wait⟩
    failbackInMs := sooner runtime.failbackInMs (asMillis wait) }

/-- The runtime after the live state was not proved. -/
def ArmedRuntime.unproved (runtime : ArmedRuntime) (unverified : Bool) : ArmedRuntime :=
  if unverified then { runtime with phase := .needsReauthorization } else runtime

/-- A candidate that has to be committed now. -/
structure CandidateDue (p : Primitives) (runtime : ArmedRuntime) (current : KernelPlan)
    (decision : PrimaryDecision) (candidate : KernelPlan) (now : ℕ) : Prop where
  different : ¬(candidate.contentHash p.blake3 = current.contentHash p.blake3 ∧
    decision = runtime.record.decision)
  retry : ∀ held, runtime.heldFor (candidate.contentHash p.blake3) = some held →
    held.retryAt ≤ now

/-- How the refresh of an armed runtime ends once its candidate was compiled and the live
state proved. -/
inductive CandidateCommitted (flag : Option StoredAppliedState → Bool) (p : Primitives)
    (v : JournalView) (m : Backend) (runtime : ArmedRuntime) (current : KernelPlan)
    (decision : PrimaryDecision) (candidate : KernelPlan) (lost : LostUnicast) (now : ℕ) :
    Bool → ArmedRuntime → Except PrivilegedError Unit → JournalView → Backend → Prop
  | unchanged : candidate.contentHash p.blake3 = current.contentHash p.blake3 →
      decision = runtime.record.decision →
      CandidateCommitted flag p v m runtime current decision candidate lost now false
        runtime.settled (.ok ()) v m
  | heldBack {held : HeldBackCandidate} :
      runtime.heldFor (candidate.contentHash p.blake3) = some held → now < held.retryAt →
      CandidateCommitted flag p v m runtime current decision candidate lost now false
        (runtime.echoed held now) (.ok ()) v m
  | failed {b : Bool} {v' : JournalView} {m' : Backend} (e : PrivilegedError) :
      CandidateDue p runtime current decision candidate now → v.Follows v' →
      TransitionFailed flag p (refreshMove runtime decision m candidate lost) v m b v' m' →
      CandidateCommitted flag p v m runtime current decision candidate lost now b
        (runtime.withheld (candidate.contentHash p.blake3) now) (.error e) v' m'
  | committed {b : Bool} {v' : JournalView} (l : List InterfaceSettingReceipt) :
      CandidateDue p runtime current decision candidate now →
      (refreshMove runtime decision m candidate lost).Adds m l → v.Follows v' →
      v'.store = some ((refreshMove runtime decision m candidate lost).committed p m l) →
      CandidateCommitted flag p v m runtime current decision candidate lost now b
        { runtime.settled with record := { runtime.record with decision := decision } } (.ok ())
        v' ((refreshMove runtime decision m candidate lost).after p m l)

/-- How the refresh of an armed runtime ends. -/
inductive ArmedRefreshed (flag : Option StoredAppliedState → Bool) (p : Primitives)
    (v : JournalView) (m : Backend) (runtime : ArmedRuntime) (topology : TopologySnapshot)
    (now : ℕ) (unverified : Bool) :
    Bool → ArmedRuntime → Except PrivilegedError Unit → JournalView → Backend → Prop
  | unauthorized : runtime.phase = .needsReauthorization →
      ArmedRefreshed flag p v m runtime topology now unverified false runtime (.ok ()) v m
  | unobserved (e : PrivilegedError) : runtime.phase ≠ .needsReauthorization →
      topology.observed = false ∨ m.current = none →
      ArmedRefreshed flag p v m runtime topology now unverified false runtime (.error e) v m
  | uncompiled {current : KernelPlan} {e : PrivilegedError} :
      runtime.phase ≠ .needsReauthorization → topology.observed = true →
      m.current = some current → (refreshCandidate p runtime current topology now).plan = .error e →
      ArmedRefreshed flag p v m runtime topology now unverified false
        (runtime.computed (refreshCandidate p runtime current topology now)) (.error e) v m
  | unproved {current candidate : KernelPlan} {b : Bool} (e : PrivilegedError) :
      runtime.phase ≠ .needsReauthorization → topology.observed = true →
      m.current = some current →
      (refreshCandidate p runtime current topology now).plan = .ok candidate →
      (b = true → flag v.store = true) →
      ArmedRefreshed flag p v m runtime topology now unverified b
        ((runtime.computed (refreshCandidate p runtime current topology now)).unproved unverified)
        (.error e) v m
  | proved {current candidate : KernelPlan} (lost : LostUnicast) {b b' : Bool}
      {runtime' : ArmedRuntime} {outcome : Except PrivilegedError Unit} {v' : JournalView}
      {m' : Backend} : runtime.phase ≠ .needsReauthorization → topology.observed = true →
      m.current = some current →
      (refreshCandidate p runtime current topology now).plan = .ok candidate →
      (b = true → flag v.store = true) →
      CandidateCommitted flag p v m
        (runtime.computed (refreshCandidate p runtime current topology now)) current
        (refreshCandidate p runtime current topology now).decision candidate lost now b' runtime'
        outcome v' m' →
      ArmedRefreshed flag p v m runtime topology now unverified (b || b') runtime' outcome v' m'

/-- Every journal the refresh of an armed runtime can write satisfies `J`. -/
def RefreshWithin (J : Option StoredAppliedState → Prop) (p : Primitives) (m : Backend)
    (runtime : ArmedRuntime) (topology : TopologySnapshot) (now : ℕ) : Prop :=
  ∀ (current candidate : KernelPlan) (lost : LostUnicast), m.current = some current →
    (refreshCandidate p runtime current topology now).plan = .ok candidate →
    (refreshMove runtime (refreshCandidate p runtime current topology now).decision m candidate
      lost).Within J p m

section Left

variable {flag : Option StoredAppliedState → Bool} {p : Primitives} {v v' : JournalView}
  {m m' : Backend} {runtime runtime' : ArmedRuntime} {now : ℕ} {b : Bool}
  {outcome : Except PrivilegedError Unit}

theorem CandidateCommitted.left {current candidate : KernelPlan} {decision : PrimaryDecision}
    {lost : LostUnicast}
    (h : CandidateCommitted flag p v m runtime current decision candidate lost now b runtime'
      outcome v' m') :
    (v'.store = v.store ∧ (b = true → flag v.store = true)) ∨
      ∀ J, (refreshMove runtime decision m candidate lost).Within J p m → J v'.store := by
  cases h with
  | unchanged _ _ => exact Or.inl ⟨rfl, flag_false⟩
  | heldBack _ _ => exact Or.inl ⟨rfl, flag_false⟩
  | failed _ _ _ hfailed => exact hfailed.left
  | committed l _ hl _ hwritten =>
    rw [hwritten]
    exact Or.inr fun J hJ => hJ.committed l hl

theorem ArmedRefreshed.left {topology : TopologySnapshot} {unverified : Bool}
    (h : ArmedRefreshed flag p v m runtime topology now unverified b runtime' outcome v' m') :
    (v'.store = v.store ∧ (b = true → flag v.store = true)) ∨
      ∀ J, RefreshWithin J p m runtime topology now → J v'.store := by
  cases h with
  | unauthorized _ => exact Or.inl ⟨rfl, flag_false⟩
  | unobserved _ _ _ => exact Or.inl ⟨rfl, flag_false⟩
  | uncompiled _ _ _ _ => exact Or.inl ⟨rfl, flag_false⟩
  | unproved _ _ _ _ _ hb => exact Or.inl ⟨rfl, hb⟩
  | proved lost _ _ hcurrent hplan hb hcommitted =>
    rcases hcommitted.left with ⟨hsame, hb'⟩ | hwritten
    · exact Or.inl ⟨hsame, flag_or hb hb'⟩
    · exact Or.inr fun J hJ => hwritten J (hJ _ _ lost hcurrent hplan)

theorem ArmedRefreshed.within {J : Option StoredAppliedState → Prop} {topology : TopologySnapshot}
    {unverified : Bool}
    (h : ArmedRefreshed flag p v m runtime topology now unverified b runtime' outcome v' m')
    (hv : J v.store) (hJ : RefreshWithin J p m runtime topology now) : J v'.store := by
  rcases h.left with ⟨hsame, -⟩ | hwritten
  · rwa [hsame]
  · exact hwritten J hJ

end Left

section Refresh

variable {J : Option StoredAppliedState → Prop} {flag : Option StoredAppliedState → Bool}
  {v : JournalView} {m : Backend} {p : Primitives} {runtime : ArmedRuntime}
  {topology : TopologySnapshot} {now : ℕ}

theorem commitCandidate_spec {current candidate : KernelPlan} {decision : PrimaryDecision}
    {lost : LostUnicast} (hv : J v.store) (hcurrent : m.current = some current)
    (hgeneration : candidate.generation ≠ current.generation)
    (hJ : (refreshMove runtime decision m candidate lost).Within J p m) :
    Journals J flag v m (commitCandidate p runtime current decision candidate lost now)
      (fun b result v' m' => CandidateCommitted flag p v m runtime current decision candidate lost
        now b result.1 result.2 v' m')
      (fun _ _ _ => False) := by
  have hadvances : (refreshMove runtime decision m candidate lost).Advances m := by
    intro _ plan hplan
    obtain rfl := Option.some.inj (hcurrent.symm.trans hplan)
    exact hgeneration
  unfold commitCandidate
  simp only
  split
  · rename_i hsame
    exact Shows.pure (.unchanged hsame.1 hsame.2)
  rename_i hdifferent
  split
  · rename_i held hheld
    obtain ⟨hheld, hnow⟩ := Option.filter_eq_some_iff.1 hheld
    exact Shows.pure (.heldBack hheld (by simpa using hnow))
  rename_i hretry
  have hdue : CandidateDue p runtime current decision candidate now := by
    refine ⟨hdifferent, fun held hheld => ?_⟩
    by_contra hnow
    have hstill : (runtime.heldFor (candidate.contentHash p.blake3)).filter
        (fun held => now < held.retryAt) = some held := by
      rw [hheld]
      simpa using hnow
    exact absurd (hretry.symm.trans hstill) (by simp)
  have htransition : Journals J flag v m (attempt (Backend.transitionWith p candidate none lost
        (some { runtime.record with decision := decision }) m.runtimeRestore))
      (fun b (outcome : Except PrivilegedError Unit) v' m' => v.Follows v' ∧
        ((outcome = .ok () ∧ ∃ l, (refreshMove runtime decision m candidate lost).Adds m l ∧
          v'.store = some ((refreshMove runtime decision m candidate lost).committed p m l) ∧
          m' = (refreshMove runtime decision m candidate lost).after p m l) ∨
        (∃ e, outcome = .error e) ∧
          TransitionFailed flag p (refreshMove runtime decision m candidate lost) v m b v' m'))
      (fun _ _ _ => False) := by
    refine Shows.attempt (Shows.conseq (transitionWith_spec
      (t := refreshMove runtime decision m candidate lost) hv hJ hadvances) ?_ ?_)
    · rintro b _ v' m' ⟨hfollows, hcommitted⟩
      exact ⟨hfollows, Or.inl ⟨rfl, hcommitted⟩⟩
    · rintro b v' m' ⟨hfollows, hfailed⟩ e
      exact ⟨hfollows, Or.inr ⟨⟨e, rfl⟩, hfailed⟩⟩
  refine Shows.get_bind (Shows.bind htransition ?_)
  rintro b outcome v' m' ⟨hfollows, ⟨rfl, l, hl, hwritten, rfl⟩ | ⟨⟨e, rfl⟩, hfailed⟩⟩
  · exact Shows.pure (.committed l hdue hl hfollows hwritten)
  · rw [← Bool.or_false b] at hfailed
    exact Shows.pure (.failed e hdue hfollows hfailed)

theorem refreshArmed_spec {unverified : Bool} (hv : J v.store)
    (hJ : RefreshWithin J p m runtime topology now) :
    Journals J flag v m (refreshArmed p runtime topology now unverified)
      (fun b result v' m' => ArmedRefreshed flag p v m runtime topology now unverified b result.1
        result.2 v' m')
      (fun _ _ _ => False) := by
  unfold refreshArmed
  split
  · rename_i hphase
    exact Shows.pure (.unauthorized hphase)
  rename_i hphase
  split
  · rename_i hobserved
    exact Shows.pure (.unobserved _ hphase (Or.inl hobserved))
  rename_i hobserved
  have hobserved : topology.observed = true := by simpa using hobserved
  refine Shows.get_bind ?_
  cases hcurrent : m.current with
  | none => exact Shows.pure (.unobserved _ hphase (Or.inr hcurrent))
  | some current =>
    simp only
    cases hplan : (refreshCandidate p runtime current topology now).plan with
    | error e => exact Shows.pure (.uncompiled hphase hobserved hcurrent hplan)
    | ok candidate =>
      simp only
      refine Shows.quiet_attempt_bind (untouched_revalidateCurrentOwnershipFor p candidate) hv
        fun b lost hb => ?_
      cases lost with
      | error e =>
        have hb : (b || false) = true → flag v.store = true := flag_or hb flag_false
        cases unverified with
        | true => exact Shows.pure (.unproved _ hphase hobserved hcurrent hplan hb)
        | false => exact Shows.pure (.unproved _ hphase hobserved hcurrent hplan hb)
      | ok lost =>
        have hgeneration : candidate.generation ≠ current.generation := by
          rw [generation_of_compileRuntimePlan hplan]
          exact nextGeneration_ne _
        have hwithin : (refreshMove
            (runtime.computed (refreshCandidate p runtime current topology now))
            (refreshCandidate p runtime current topology now).decision m candidate lost).Within
            J p m := hJ current candidate lost hcurrent hplan
        refine Shows.conseq (commitCandidate_spec hv hcurrent hgeneration hwithin) ?_
          (fun _ _ _ h => h)
        intro b' result v' m' hcommitted
        exact .proved lost hphase hobserved hcurrent hplan hb hcommitted

end Refresh

/-! ## A whole refresh -/

/-- The memory while its runtime is refreshed. -/
def Backend.taken (m : Backend) : Backend := { m with runtime := none }

/-- The wait of the next recovery that fails. -/
def Backend.nextWait (m : Backend) : ℕ := nextRetryWait (m.recoveryHeldBack.map Prod.snd)

/-- The memory after a recovery was held back. -/
def Backend.holding (m : Backend) (now : ℕ) : Backend :=
  { m with recoveryHeldBack := some (now + m.nextWait, m.nextWait) }

/-- The memory after a refresh failed on an uninterrupted journal. -/
def Backend.failing (m : Backend) (runtime : ArmedRuntime) (e : PrivilegedError) : Backend :=
  { m with runtime := some (runtime.failed e) }

/-- The memory after a refresh left the journal interrupted, or could not tell. -/
def Backend.stalling (m : Backend) (runtime : ArmedRuntime) (e : PrivilegedError) (now : ℕ) :
    Backend :=
  { m.holding now with
    runtime := some { runtime.failed e with
      failbackInMs := sooner runtime.failbackInMs (asMillis m.nextWait) } }

/-- How a refresh ends once it was prepared. -/
inductive PreparedRefreshed (flag : Option StoredAppliedState → Bool) (p : Primitives)
    (v : JournalView) (m : Backend) (topology : TopologySnapshot) (now : ℕ) (unverified : Bool) :
    Bool → JournalView → Backend → Prop
  | inactive : m.runtime = none → PreparedRefreshed flag p v m topology now unverified false v m
  | told {runtime runtime' : ArmedRuntime} {b : Bool} {v' : JournalView} {m' : Backend} :
      m.runtime = some runtime →
      ArmedRefreshed flag p v m.taken runtime topology now unverified b runtime' (.ok ()) v' m' →
      PreparedRefreshed flag p v m topology now unverified b v'
        { m' with runtime := some runtime' }
  | failed {runtime runtime' : ArmedRuntime} {e : PrivilegedError} {b b' : Bool}
      {v' : JournalView} {m' : Backend} : m.runtime = some runtime →
      ArmedRefreshed flag p v m.taken runtime topology now unverified b runtime' (.error e) v' m' →
      v'.interrupted = false → (b' = true → flag v'.store = true) →
      PreparedRefreshed flag p v m topology now unverified (b || b') v' (m'.failing runtime' e)
  | stalled {runtime runtime' : ArmedRuntime} {e : PrivilegedError} {b b' : Bool}
      {v' : JournalView} {m' : Backend} : m.runtime = some runtime →
      ArmedRefreshed flag p v m.taken runtime topology now unverified b runtime' (.error e) v' m' →
      (b' = true → flag v'.store = true) →
      PreparedRefreshed flag p v m topology now unverified (b || b') v' (m'.stalling runtime' e now)

/-- Nothing was written, or one of the journals of the transition is left. -/
theorem PreparedRefreshed.left {flag : Option StoredAppliedState → Bool} {p : Primitives}
    {v v' : JournalView} {m m' : Backend} {topology : TopologySnapshot} {now : ℕ}
    {unverified b : Bool} (h : PreparedRefreshed flag p v m topology now unverified b v' m') :
    (v'.store = v.store ∧ (b = true → flag v.store = true)) ∨
      ∃ runtime, m.runtime = some runtime ∧
        ∀ J, RefreshWithin J p m.taken runtime topology now → J v'.store := by
  have hend : ∀ {b b' : Bool} {runtime runtime' : ArmedRuntime} {e : PrivilegedError}
      {v' : JournalView} {m' : Backend}, m.runtime = some runtime →
      ArmedRefreshed flag p v m.taken runtime topology now unverified b runtime' (.error e) v' m' →
      (b' = true → flag v'.store = true) →
      (v'.store = v.store ∧ ((b || b') = true → flag v.store = true)) ∨
        ∃ runtime, m.runtime = some runtime ∧
          ∀ J, RefreshWithin J p m.taken runtime topology now → J v'.store := by
    intro b b' runtime runtime' e v' m' hruntime hrefreshed hb'
    rcases hrefreshed.left with ⟨hsame, hb⟩ | hwritten
    · rw [hsame] at hb'
      exact Or.inl ⟨hsame, flag_or hb hb'⟩
    · exact Or.inr ⟨runtime, hruntime, hwritten⟩
  cases h with
  | inactive _ => exact Or.inl ⟨rfl, flag_false⟩
  | told hruntime hrefreshed =>
    rcases hrefreshed.left with hsame | hwritten
    · exact Or.inl hsame
    · exact Or.inr ⟨_, hruntime, hwritten⟩
  | failed hruntime hrefreshed _ hb' => exact hend hruntime hrefreshed hb'
  | stalled hruntime hrefreshed hb' => exact hend hruntime hrefreshed hb'

section Prepared

variable {J : Option StoredAppliedState → Prop} {flag : Option StoredAppliedState → Bool}
  {v : JournalView} {m : Backend} {p : Primitives} {topology : TopologySnapshot} {now : ℕ}

theorem statusSnapshot_spec {Q : Bool → RuntimeStatus → JournalView → Backend → Prop}
    {E : Bool → JournalView → Backend → Prop} (h : Q false m.status v m) :
    Journals J flag v m statusSnapshot Q E := Shows.get_bind (Shows.pure h)

theorem holdBackRecovery_spec :
    Journals J flag v m (holdBackRecovery now)
      (fun b wait v' m' => b = false ∧ wait = m.nextWait ∧ v' = v ∧ m' = m.holding now)
      (fun _ _ _ => False) :=
  Shows.get_bind (Shows.modify_bind (Shows.pure ⟨rfl, rfl, rfl, rfl⟩))

theorem refreshPrepared_spec {unverified : Bool} (hv : J v.store)
    (hJ : ∀ runtime, m.runtime = some runtime → RefreshWithin J p m.taken runtime topology now) :
    Journals J flag v m (refreshPrepared p topology now unverified)
      (fun b status v' m' => status = m'.status ∧
        PreparedRefreshed flag p v m topology now unverified b v' m')
      (fun _ _ _ => False) := by
  unfold refreshPrepared
  refine Shows.get_bind ?_
  cases hruntime : m.runtime with
  | none => exact statusSnapshot_spec ⟨rfl, .inactive hruntime⟩
  | some runtime =>
    refine Shows.modify_bind ?_
    refine Shows.bind (Shows.conseq (refreshArmed_spec (m := m.taken) hv (hJ runtime hruntime))
      (fun _ _ _ _ h => h) fun _ _ _ h => h) ?_
    rintro b ⟨runtime', outcome⟩ v' m' hrefreshed
    cases outcome with
    | ok _ =>
      refine Shows.modify_bind (statusSnapshot_spec ⟨rfl, ?_⟩)
      rw [Bool.or_false]
      exact .told hruntime hrefreshed
    | error e =>
      have hv' : J v'.store := hrefreshed.within hv (hJ runtime hruntime)
      refine Shows.bind (Shows.attempt (Q := fun b' interrupted v'' m'' => v'' = v' ∧ m'' = m' ∧
        (b' = true → flag v'.store = true) ∧ ∀ known, interrupted = .ok known →
          v'.interrupted = known) (Shows.conseq (journalInterrupted_spec hv') ?_ ?_)) ?_
      · rintro b' interrupted v'' m'' ⟨rfl, rfl, rfl, hb'⟩
        exact ⟨rfl, rfl, hb', fun known h => Except.ok.inj h⟩
      · rintro b' v'' m'' ⟨rfl, rfl, hb'⟩ e
        exact ⟨rfl, rfl, hb', fun known h => absurd h (by simp)⟩
      · rintro b' interrupted v'' m'' ⟨rfl, rfl, hb', hknown⟩
        have hstalled := PreparedRefreshed.stalled hruntime hrefreshed hb'
        rcases interrupted with e' | (_ | _)
        · refine Shows.bind (Shows.conseq holdBackRecovery_spec (fun _ _ _ _ h => h)
            fun _ _ _ h => h) ?_
          rintro b₃ _ w m₃ ⟨rfl, rfl, rfl, rfl⟩
          refine Shows.pure_bind (Shows.modify_bind (statusSnapshot_spec ⟨rfl, ?_⟩))
          simp only [Bool.or_false]
          exact hstalled
        · have hfailed := PreparedRefreshed.failed hruntime hrefreshed (hknown false rfl) hb'
          refine Shows.pure_bind (Shows.modify_bind (statusSnapshot_spec ⟨rfl, ?_⟩))
          simp only [Bool.or_false]
          exact hfailed
        · refine Shows.bind (Shows.conseq holdBackRecovery_spec (fun _ _ _ _ h => h)
            fun _ _ _ h => h) ?_
          rintro b₃ _ w m₃ ⟨rfl, rfl, rfl, rfl⟩
          refine Shows.pure_bind (Shows.modify_bind (statusSnapshot_spec ⟨rfl, ?_⟩))
          simp only [Bool.or_false]
          exact hstalled

end Prepared

/-- The memory after a refresh that could not be prepared, and tells so. -/
def Backend.unprepared (m : Backend) (runtime : ArmedRuntime) (e : PrivilegedError) (now : ℕ) :
    Backend :=
  { m.holding now with
    runtime := some { runtime with
      phase := .degraded
      lastError := some e
      selector := none
      failbackInMs := some (asMillis m.nextWait) } }

/-- The memory after a refresh that has to wait for a recovery. -/
def Backend.waiting (m : Backend) (retryAt now : ℕ) : Backend :=
  { m with
    runtime := m.runtime.map fun runtime =>
      { runtime with failbackInMs := some (max (asMillis (retryAt - now)) 1) } }

/-- A refresh that goes on to its preparation. -/
def Backend.Tries (m : Backend) (v : JournalView) (now : ℕ) : Prop :=
  m.heldUntil now = none ∨ v.interrupted = false

/-- How a refresh that answers ends. -/
inductive Refreshed (flag : Option StoredAppliedState → Bool) (p : Primitives) (v : JournalView)
    (m : Backend) (topology : TopologySnapshot) (now : ℕ) :
    Bool → JournalView → Backend → Prop
  | waits {b : Bool} {retryAt : ℕ} : m.heldUntil now = some retryAt →
      (b = true → flag v.store = true) →
      Refreshed flag p v m topology now b v (m.waiting retryAt now)
  | prepared {b b' unverified : Bool} {v₁ v' : JournalView} {m₁ m' : Backend} : m.Tries v now →
      Prepared p v m unverified v₁ m₁ →
      (v.interrupted = false → b = true → flag v.store = true) →
      PreparedRefreshed flag p v₁ m₁ topology now unverified b' v' m' →
      Refreshed flag p v m topology now (b || b') v' m'
  | unprepared {b : Bool} {v' : JournalView} {m₁ : Backend} {runtime : ArmedRuntime}
      {e : PrivilegedError} : m.Tries v now → v.Follows v' → PrepareFailed flag p v m b v' m₁ →
      m₁.runtime = some runtime →
      Refreshed flag p v m topology now b v' (m₁.unprepared runtime e now)

/-- How a refresh that gives up ends: there is no runtime to tell it. -/
inductive RefreshGaveUp (flag : Option StoredAppliedState → Bool) (p : Primitives)
    (v : JournalView) (m : Backend) (now : ℕ) : Bool → JournalView → Backend → Prop
  | unprepared {b : Bool} {v' : JournalView} {m₁ : Backend} : m.Tries v now → v.Follows v' →
      PrepareFailed flag p v m b v' m₁ → m₁.runtime = none →
      RefreshGaveUp flag p v m now b v' (m₁.holding now)

theorem Refreshed.later {flag : Option StoredAppliedState → Bool} {p : Primitives}
    {v v' : JournalView} {m m' : Backend} {topology : TopologySnapshot} {now : ℕ} {b b' : Bool}
    (h : Refreshed flag p v m topology now b' v' m') (hb : b = true → flag v.store = true) :
    Refreshed flag p v m topology now (b || b') v' m' := by
  cases h with
  | waits hheld hb' => exact .waits hheld (flag_or hb hb')
  | prepared htries hprepared hb' hended =>
    rw [← Bool.or_assoc]
    exact .prepared htries hprepared (fun hnot => flag_or hb (hb' hnot)) hended
  | unprepared htries hfollows hfailed hruntime =>
    exact .unprepared htries hfollows (hfailed.later hb) hruntime

theorem RefreshGaveUp.later {flag : Option StoredAppliedState → Bool} {p : Primitives}
    {v v' : JournalView} {m m' : Backend} {now : ℕ} {b b' : Bool}
    (h : RefreshGaveUp flag p v m now b' v' m') (hb : b = true → flag v.store = true) :
    RefreshGaveUp flag p v m now (b || b') v' m' := by
  cases h with
  | unprepared htries hfollows hfailed hruntime =>
    exact .unprepared htries hfollows (hfailed.later hb) hruntime

section Whole

variable {J : Option StoredAppliedState → Prop} {flag : Option StoredAppliedState → Bool}
  {v : JournalView} {m : Backend} {p : Primitives} {topology : TopologySnapshot} {now : ℕ}

theorem Prepared.within {unverified : Bool} {v' : JournalView} {m' : Backend}
    (h : Prepared p v m unverified v' m') (hv : J v.store)
    (hJ : ∀ record written, v.store = some record → record.interrupted = true →
      RecoveryWrites record written → J written) : J v'.store := by
  cases h with
  | replayed hinterrupted _ hreconciled _ =>
    rcases hreconciled.store with hsame | ⟨record, hstore, hwrites⟩
    · rwa [hsame]
    · refine hJ record _ hstore ?_ hwrites
      rw [JournalView.interrupted, hstore] at hinterrupted
      exact hinterrupted
  | read _ _ _ => exact hv

theorem refreshUnheld_spec (hv : J v.store) (htries : m.Tries v now)
    (hJ : ∀ record written, v.store = some record → record.interrupted = true →
      RecoveryWrites record written → J written)
    (hrefresh : ∀ unverified v₁ m₁ runtime, Prepared p v m unverified v₁ m₁ →
      m₁.runtime = some runtime → RefreshWithin J p m₁.taken runtime topology now) :
    Journals J flag v m (refreshUnheld p topology now)
      (fun b status v' m' => status = m'.status ∧ Refreshed flag p v m topology now b v' m')
      (fun b v' m' => RefreshGaveUp flag p v m now b v' m') := by
  unfold refreshUnheld
  refine Shows.bind (Shows.attempt (Q := fun b unverified v' m' =>
    (∃ known, unverified = .ok known ∧ Prepared p v m known v' m' ∧
      (v.interrupted = false → b = true → flag v.store = true)) ∨
    (∃ e, unverified = .error e) ∧ v.Follows v' ∧ PrepareFailed flag p v m b v' m')
    (Shows.conseq (prepareRuntimeOperation_spec hv hJ) ?_ ?_)) ?_
  · exact fun b known v' m' h => Or.inl ⟨known, rfl, h⟩
  · exact fun b v' m' h e => Or.inr ⟨⟨e, rfl⟩, h⟩
  · rintro b unverified v' m' (⟨known, rfl, hprepared, hb⟩ | ⟨⟨e, rfl⟩, hfollows, hfailed⟩)
    · refine Shows.conseq (refreshPrepared_spec (hprepared.within hv hJ)
        fun runtime => hrefresh known v' m' runtime hprepared) ?_ (fun _ _ _ h => h.elim)
      rintro b' status w m'' ⟨rfl, hended⟩
      exact ⟨rfl, .prepared htries hprepared hb hended⟩
    · refine Shows.bind (Shows.conseq holdBackRecovery_spec (fun _ _ _ _ h => h)
        fun _ _ _ h => h.elim) ?_
      rintro b' _ w m'' ⟨rfl, rfl, rfl, rfl⟩
      refine Shows.get_bind ?_
      simp only [Bool.false_or]
      cases hruntime : (m'.holding now).runtime with
      | none =>
        refine Shows.fail ?_
        rw [Bool.or_false]
        exact .unprepared htries hfollows hfailed hruntime
      | some runtime =>
        refine Shows.modify_bind (statusSnapshot_spec ⟨rfl, ?_⟩)
        rw [Bool.or_false]
        exact .unprepared htries hfollows hfailed hruntime

/-- What a refresh leaves, whatever fails. -/
theorem refreshRuntime_spec (hv : J v.store)
    (hJ : ∀ record written, v.store = some record → record.interrupted = true →
      RecoveryWrites record written → J written)
    (hrefresh : ∀ unverified v₁ m₁ runtime, Prepared p v m unverified v₁ m₁ →
      m₁.runtime = some runtime → RefreshWithin J p m₁.taken runtime topology now) :
    Journals J flag v m (refreshRuntime p topology now)
      (fun b status v' m' => status = m'.status ∧ Refreshed flag p v m topology now b v' m')
      (fun b v' m' => RefreshGaveUp flag p v m now b v' m') := by
  refine Shows.get_bind ?_
  cases hheld : m.heldUntil now with
  | none => exact refreshUnheld_spec hv (Or.inl hheld) hJ hrefresh
  | some retryAt =>
    refine Shows.bind (Shows.attempt (Q := fun b interrupted v' m' => v' = v ∧ m' = m ∧
      (b = true → flag v.store = true) ∧ ∀ known, interrupted = .ok known →
        v.interrupted = known) (Shows.conseq (journalInterrupted_spec hv) ?_ ?_)) ?_
    · rintro b interrupted v' m' ⟨rfl, rfl, rfl, hb⟩
      exact ⟨rfl, rfl, hb, fun known h => Except.ok.inj h⟩
    · rintro b v' m' ⟨rfl, rfl, hb⟩ e
      exact ⟨rfl, rfl, hb, fun known h => absurd h (by simp)⟩
    · rintro b interrupted v' m' ⟨rfl, rfl, hb, hknown⟩
      rcases interrupted with e | (_ | _)
      · refine Shows.modify_bind (statusSnapshot_spec ⟨rfl, .waits hheld ?_⟩)
        exact flag_or hb flag_false
      · refine Shows.conseq (refreshUnheld_spec hv (Or.inr (hknown false rfl)) hJ hrefresh) ?_ ?_
        · exact fun b' status w m'' ⟨hstatus, hended⟩ => ⟨hstatus, hended.later hb⟩
        · exact fun b' w m'' hgaveUp => hgaveUp.later hb
      · refine Shows.modify_bind (statusSnapshot_spec ⟨rfl, .waits hheld ?_⟩)
        exact flag_or hb flag_false

theorem PrepareFailed.within {b : Bool} {v' : JournalView} {m' : Backend}
    (h : PrepareFailed flag p v m b v' m') (hv : J v.store)
    (hJ : ∀ record written, v.store = some record → record.interrupted = true →
      RecoveryWrites record written → J written) : J v'.store := by
  cases h with
  | unread hsame _ => rwa [hsame]
  | unreplayed hstore hinterrupted hfailed =>
    rcases hfailed.store with hsame | hwrites
    · rwa [hsame]
    · exact hJ _ _ hstore hinterrupted hwrites
  | replayed hinterrupted hreconciled =>
    rcases hreconciled.store with hsame | ⟨record, hstore, hwrites⟩
    · rwa [hsame]
    · refine hJ record _ hstore ?_ hwrites
      rw [JournalView.interrupted, hstore] at hinterrupted
      exact hinterrupted
  | inspected _ _ _ => exact hv

/-- A refresh goes from a journal that satisfies `J` to one that does, by way of such. -/
theorem refreshRuntime_within (hv : J v.store)
    (hJ : ∀ record written, v.store = some record → record.interrupted = true →
      RecoveryWrites record written → J written)
    (hrefresh : ∀ unverified v₁ m₁ runtime, Prepared p v m unverified v₁ m₁ →
      m₁.runtime = some runtime → RefreshWithin J p m₁.taken runtime topology now) :
    Journals J flag v m (refreshRuntime p topology now) (fun _ _ v' _ => J v'.store)
      (fun _ v' _ => J v'.store) := by
  refine Shows.conseq (refreshRuntime_spec hv hJ hrefresh) ?_ ?_
  · rintro b _ v' m' ⟨-, hended⟩
    cases hended with
    | waits _ _ => exact hv
    | prepared _ hprepared _ hended =>
      rcases hended.left with ⟨hsame, -⟩ | ⟨runtime, hruntime, hwritten⟩
      · rw [hsame]
        exact hprepared.within hv hJ
      · exact hwritten J (hrefresh _ _ _ runtime hprepared hruntime)
    | unprepared _ _ hfailed _ => exact hfailed.within hv hJ
  · intro b v' m' hgaveUp
    cases hgaveUp with
    | unprepared _ _ hfailed _ => exact hfailed.within hv hJ

end Whole

end RouteLane
