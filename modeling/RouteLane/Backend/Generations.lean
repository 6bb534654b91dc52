import RouteLane.Backend.FailedRefresh
import RouteLane.Backend.Preservation

/-!
# The generations of the backend

A client may apply a plan of any generation that is not older than the one in force.  An
activation, a refresh and a restore count on from there by themselves, on 64 bits and
without a check: the generation they put on its way is one more than the committed one, and
so the greater one, unless the committed one is `u64::MAX`.  Above that comes zero, which
no plan may have.  Activations and refreshes compile a plan and are refused it; a restore
journals it.
-/

namespace RouteLane

open Nft Faults Program

/-! ## Counting on -/

/-- The generation of the plan a journal has in force, and zero without one. -/
def StoredAppliedState.committedGeneration (record : StoredAppliedState) : ℕ :=
  (record.active.map KernelPlan.generation).getD 0

/-- One more, and so the greater one, exactly below `u64::MAX`. -/
theorem nextGeneration_counts_iff (generation : ℕ) :
    (generation < nextGeneration generation ∧ nextGeneration generation = generation + 1) ↔
      generation + 1 < 2 ^ 64 := by
  unfold nextGeneration
  omega

/-- What a journal has on its way counts on from what it has in force, and passes `P`. -/
def CountsOn (P : KernelPlan → Prop) (store : Option StoredAppliedState) : Prop :=
  ∀ record plan, store = some record → record.pending = some plan →
    plan.generation = nextGeneration record.committedGeneration ∧ P plan

/-- The journals of an operation: the one it found, and ones that count on. -/
def FoundOrCounts (P : KernelPlan → Prop) (found store : Option StoredAppliedState) : Prop :=
  store = found ∨ CountsOn P store

/-! ## Journals with nothing on its way -/

section Settled

variable {P : KernelPlan → Prop}

theorem CountsOn.none : CountsOn P none := by
  intro record plan hstore
  cases hstore

theorem CountsOn.of_pending {record : StoredAppliedState} (h : record.pending = .none) :
    CountsOn P (some record) := by
  rintro record plan ⟨⟩ hpending
  rw [h] at hpending
  cases hpending

/-- A committed plan leaves nothing on its way. -/
theorem committedStore_pending {state : Option KernelPlan} {nftFingerprint : Option String}
    {restoreReceipt : Option RestoreReceipt} {extras : CommittedExtras}
    {record : StoredAppliedState}
    (h : committedStore state nftFingerprint restoreReceipt extras = some (some record)) :
    record.pending = none := by
  unfold committedStore at h
  split at h
  · obtain rfl := Option.some.inj (Option.some.inj h)
    rfl
  · split at h
    · obtain ⟨receipt, -, rfl⟩ := Option.map_eq_some_iff.1 (Option.some.inj h)
      rfl
    · cases h
  · cases h

/-- Neither does a recovery. -/
theorem RecoveryWrites.pending {record written : StoredAppliedState}
    (h : RecoveryWrites record (some written)) : written.pending = none := by
  generalize hstore : some written = store at h
  cases h with
  | orphan ownership _ =>
    obtain rfl := Option.some.inj hstore
    rfl
  | orphanDone _ => cases hstore
  | cleaned _ =>
    obtain ⟨receipt, -, rfl⟩ := Option.map_eq_some_iff.1 hstore.symm
    rfl
  | repaired _ hwritten =>
    rw [← hstore] at hwritten
    exact committedStore_pending hwritten
  | empty _ _ => cases hstore

theorem CountsOn.recoveryWrites {record : StoredAppliedState}
    {written : Option StoredAppliedState} (h : RecoveryWrites record written) :
    CountsOn P written := by
  cases written with
  | none => exact CountsOn.none
  | some written => exact .of_pending h.pending

/-- The journals of a transition count on if its plan does. -/
theorem Move.within_countsOn {p : Primitives} {t : Move} {m : Backend}
    (hgeneration : t.plan.generation =
      nextGeneration ((m.current.map KernelPlan.generation).getD 0)) (hplan : P t.plan) :
    t.Within (CountsOn P) p m where
  pending := by
    rintro l - record plan ⟨⟩ hpending
    obtain rfl := Option.some.inj hpending
    exact ⟨hgeneration, hplan⟩
  repaired := by
    intro written hwritten
    cases written with
    | none => exact CountsOn.none
    | some record => exact .of_pending (committedStore_pending hwritten)
  committed := fun l _ => .of_pending rfl

theorem Move.Within.weaken {J J' : Option StoredAppliedState → Prop} {p : Primitives} {t : Move}
    {m : Backend} (h : t.Within J p m) (hJ : ∀ store, J store → J' store) : t.Within J' p m :=
  ⟨fun l hl => hJ _ (h.pending l hl), fun written hw => hJ _ (h.repaired written hw),
    fun l hl => hJ _ (h.committed l hl)⟩

end Settled

/-! ## The operations that count on -/

section Operations

variable {flag : Option StoredAppliedState → Bool} {p : Primitives} {v : JournalView}
  {m : Backend} {P : KernelPlan → Prop} {found : Option StoredAppliedState}

theorem FoundOrCounts.recoveryWrites {record : StoredAppliedState}
    {written : Option StoredAppliedState} (h : RecoveryWrites record written) :
    FoundOrCounts P found written := Or.inr (CountsOn.recoveryWrites h)

/-- What was compiled for the next generation is the next generation, and not zero. -/
theorem compiled_counts {profile : Profile} {topology : TopologySnapshot}
    {resolutions : ResolutionSnapshot} {decision : PrimaryDecision} {generation : ℕ}
    {plan : KernelPlan} (h : compileRuntimePlan p profile topology resolutions decision
      (nextGeneration generation) = .ok plan) :
    plan.generation = nextGeneration generation ∧ plan.generation ≠ 0 := by
  refine ⟨generation_of_compileRuntimePlan h, ?_⟩
  have hvalid := (compileRuntimePlan_eq_ok.1 h).2.1
  exact (validatePrivilegedPlan_eq_ok.1 hvalid).generation_ne_zero

/-- A transition to a plan that counts on only saves journals that do. -/
theorem transitionWith_counts {t : Move} (hv : FoundOrCounts P found v.store)
    (hgeneration : t.plan.generation =
      nextGeneration ((m.current.map KernelPlan.generation).getD 0)) (hplan : P t.plan) :
    Journals (FoundOrCounts P found) flag v m
      (Backend.transitionWith p t.plan t.restoreReceipt t.lost t.runtime t.runtimeRestore)
      (fun _ _ v' _ => FoundOrCounts P found v'.store) (fun _ _ _ => True) := by
  have hwithin : t.Within (FoundOrCounts P found) p m :=
    (Move.within_countsOn hgeneration hplan).weaken fun _ => Or.inr
  have hadvances : t.Advances m := by
    intro _ current hcurrent
    rw [hgeneration, hcurrent]
    exact nextGeneration_ne _
  refine Shows.conseq (transitionWith_spec hv hwithin hadvances) ?_ fun _ _ _ _ => trivial
  rintro b _ v' m' ⟨-, l, hl, hwritten, -⟩
  rw [hwritten]
  exact hwithin.committed l hl

theorem prepareRuntimeOperation_counts (hv : FoundOrCounts P found v.store) :
    Journals (FoundOrCounts P found) flag v m (prepareRuntimeOperation p)
      (fun _ _ v' _ => FoundOrCounts P found v'.store) (fun _ _ _ => True) := by
  have hJ : ∀ record written, v.store = some record → record.interrupted = true →
      RecoveryWrites record written → FoundOrCounts P found written :=
    fun _ _ _ _ hwrites => .recoveryWrites hwrites
  refine Shows.conseq (prepareRuntimeOperation_spec hv hJ) ?_ fun _ _ _ _ => trivial
  rintro b unverified v' m' ⟨hprepared, -⟩
  exact hprepared.within hv hJ

theorem activateRuntime_counts (hv : FoundOrCounts (·.generation ≠ 0) found v.store)
    (activation : RuntimeActivation) (uid : ℕ) (topology : TopologySnapshot) (now : ℕ) :
    Journals (FoundOrCounts (·.generation ≠ 0) found) flag v m
      (activateRuntime p activation uid topology now) (fun _ _ _ _ => True)
      (fun _ _ _ => True) := by
  refine Shows.quiet_bind (untouched_lift _) hv (fun _ _ => trivial) fun _ _ _ => ?_
  refine Shows.bind (prepareRuntimeOperation_counts hv) fun _ _ w m₁ hw => ?_
  have hquit : ∀ b, (b = true → flag w.store = true) → True := fun _ _ => trivial
  refine Shows.quiet_bind untouched_refuseLegacyActivation hw hquit fun _ _ _ => ?_
  refine Shows.get_bind ?_
  refine Shows.quiet_bind (untouched_require _ _) hw hquit fun _ _ _ => ?_
  refine Shows.quiet_bind (Quiet.inspectSome _ _ _) hw hquit fun _ bootId _ => ?_
  refine Shows.quiet_bind (Quiet.inspect _ _) hw hquit fun _ networkNamespace _ => ?_
  refine Shows.bind (Shows.conseq lift_spec (fun _ _ _ _ h => h) fun _ _ _ _ => trivial) ?_
  rintro b plan w' m₂ ⟨hplan, -, rfl, rfl⟩
  obtain ⟨hgeneration, hzero⟩ := compiled_counts hplan
  refine Shows.quiet_bind (untouched_revalidateCurrentOwnershipFor _ _) hw hquit fun _ lost _ => ?_
  refine Shows.quiet_bind (Quiet.inspect _ _) hw hquit fun _ token _ => ?_
  refine Shows.bind (transitionWith_counts (t := ⟨plan, none, lost, some _, some _⟩) hw
    hgeneration hzero) fun _ _ v' m' _ => ?_
  exact Shows.modify_bind (Shows.pure trivial)

theorem refreshRuntime_counts (hv : FoundOrCounts (·.generation ≠ 0) found v.store)
    (topology : TopologySnapshot) (now : ℕ) :
    Journals (FoundOrCounts (·.generation ≠ 0) found) flag v m (refreshRuntime p topology now)
      (fun _ _ _ _ => True) (fun _ _ _ => True) := by
  refine Shows.conseq (refreshRuntime_spec hv ?_ ?_) (fun _ _ _ _ _ => trivial)
    fun _ _ _ _ => trivial
  · exact fun _ _ _ _ hwrites => .recoveryWrites hwrites
  · intro unverified v₁ m₁ runtime hprepared hruntime current candidate lost hcurrent hplan
    obtain ⟨hgeneration, hzero⟩ := compiled_counts hplan
    refine (Move.within_countsOn ?_ hzero).weaken fun _ => Or.inr
    rw [hcurrent]
    exact hgeneration

theorem restoreRuntime_counts (hv : FoundOrCounts (fun _ => True) found v.store)
    (token : String) (uid : ℕ) :
    Journals (FoundOrCounts (fun _ => True) found) flag v m (restoreRuntime p token uid)
      (fun _ _ _ _ => True) (fun _ _ _ => True) := by
  refine Shows.bind (prepareRuntimeOperation_counts hv) fun _ _ w m₁ hw => ?_
  have hquit : ∀ b, (b = true → flag w.store = true) → True := fun _ _ => trivial
  refine Shows.quiet_bind untouched_refuseLegacyActivation hw hquit fun _ _ _ => ?_
  refine Shows.get_bind ?_
  cases m₁.runtimeRestore with
  | none => exact Shows.fail trivial
  | some receipt =>
    refine Shows.quiet_bind (untouched_require _ _) hw hquit fun _ _ _ => ?_
    cases hcurrent : m₁.current with
    | none => exact Shows.fail trivial
    | some current =>
      refine Shows.quiet_bind (untouched_require _ _) hw hquit fun _ _ _ => ?_
      cases receipt.previousPlan with
      | none =>
        refine Shows.bind (Shows.conseq (preserves_cleanupWithReceipt p (Or.inr CountsOn.none)
          (fun record hpending => Or.inr (.of_pending hpending))
          (fun _ _ hwrites => .recoveryWrites hwrites) none flag w m₁ hw)
          (fun _ _ _ _ h => h) fun _ _ _ _ => trivial) fun _ _ v' m' _ => ?_
        exact statusSnapshot_spec trivial
      | some previous =>
        refine Shows.quiet_bind (untouched_revalidateCurrentOwnershipFor _ _) hw hquit
          fun _ lost _ => ?_
        refine Shows.bind (transitionWith_counts
          (t := ⟨{ previous with generation := nextGeneration current.generation }, none, lost,
            receipt.previousRecord, none⟩) hw (by rw [hcurrent]; rfl) trivial)
          fun _ _ v' m' _ => ?_
        exact Shows.modify_bind (statusSnapshot_spec trivial)

end Operations

/-! ## The next generation -/

/-- The operations that take the next generation by themselves. -/
inductive RuntimeOperation where
  | activate (activation : RuntimeActivation) (uid : ℕ) (topology : TopologySnapshot) (now : ℕ)
  | refresh (topology : TopologySnapshot) (now : ℕ)
  | restore (token : String) (uid : ℕ)

namespace RuntimeOperation

/-- Whether it compiles the plan it asks for; a restore takes up an old one. -/
def compiles : RuntimeOperation → Bool
  | activate _ _ _ _ | refresh _ _ => true
  | restore _ _ => false

variable (p : Primitives)

/-- What the operation leaves behind on its way, wherever it fails or is killed. -/
def events : RuntimeOperation → World System Backend → List (Event System)
  | activate activation uid topology now, w =>
    (activateRuntime p activation uid topology now w).events
  | refresh topology now, w => (refreshRuntime p topology now w).events
  | restore token uid, w => (restoreRuntime p token uid w).events

/-- Every journal of an operation is the one it found or counts on. -/
theorem events_count (operation : RuntimeOperation) (w : World System Backend) {e : Event System}
    (he : e ∈ operation.events p w) :
    FoundOrCounts (fun plan => operation.compiles = true → plan.generation ≠ 0)
      w.machine.store e.state.store := by
  have hmore : ∀ {P : KernelPlan → Prop}, (∀ plan, P plan → operation.compiles = true →
      plan.generation ≠ 0) → FoundOrCounts P w.machine.store e.state.store →
      FoundOrCounts (fun plan => operation.compiles = true → plan.generation ≠ 0)
        w.machine.store e.state.store := by
    rintro P hP (hfound | hcounts)
    · exact Or.inl hfound
    · refine Or.inr fun record plan hstore hpending => ?_
      obtain ⟨hgeneration, hplan⟩ := hcounts record plan hstore hpending
      exact ⟨hgeneration, hP plan hplan⟩
  cases operation with
  | activate activation uid topology now =>
    have hactivate : Journals (FoundOrCounts (·.generation ≠ 0) w.machine.store) (fun _ => true)
        w.machine.view w.memory (activateRuntime p activation uid topology now)
        (fun _ _ _ _ => True) fun _ _ _ => True :=
      activateRuntime_counts (Or.inl rfl) activation uid topology now
    exact hmore (fun _ hzero _ => hzero) ((hactivate w.machine w.faults rfl).1 e he)
  | refresh topology now =>
    have hrefresh : Journals (FoundOrCounts (·.generation ≠ 0) w.machine.store) (fun _ => true)
        w.machine.view w.memory (refreshRuntime p topology now) (fun _ _ _ _ => True)
        fun _ _ _ => True :=
      refreshRuntime_counts (Or.inl rfl) topology now
    exact hmore (fun _ hzero _ => hzero) ((hrefresh w.machine w.faults rfl).1 e he)
  | restore token uid =>
    have hrestore : Journals (FoundOrCounts (fun _ => True) w.machine.store) (fun _ => true)
        w.machine.view w.memory (restoreRuntime p token uid) (fun _ _ _ _ => True)
        fun _ _ _ => True :=
      restoreRuntime_counts (Or.inl rfl) token uid
    exact hmore (fun _ _ hcompiles => absurd hcompiles Bool.false_ne_true)
      ((hrestore w.machine w.faults rfl).1 e he)

end RuntimeOperation

/-- **The next generation.**  Whatever state the helper is in and wherever the operation
fails, the generation an activation, a refresh or a restore puts on its way is the next one
after the one in force; it is greater, by one and without wrapping, exactly if the one in
force is below `u64::MAX`.  Above `u64::MAX` activations and refreshes put nothing on its
way. -/
theorem next_generation_iff (p : Primitives) (operation : RuntimeOperation)
    (w : World System Backend) {e : Event System} {record : StoredAppliedState}
    {plan : KernelPlan} (he : e ∈ operation.events p w) (hstore : e.state.store = some record)
    (hpending : record.pending = some plan) (hnew : w.machine.store ≠ some record) :
    plan.generation = nextGeneration record.committedGeneration ∧
      (record.committedGeneration < plan.generation ∧
          plan.generation = record.committedGeneration + 1 ↔
        record.committedGeneration + 1 < 2 ^ 64) ∧
      (operation.compiles = true → record.committedGeneration + 1 ≠ 2 ^ 64) := by
  rcases operation.events_count p w he with hfound | hcounts
  · exact absurd (hfound.symm.trans hstore) hnew
  obtain ⟨hgeneration, hzero⟩ := hcounts record plan hstore hpending
  refine ⟨hgeneration, ?_, fun hcompiles hmax => ?_⟩
  · rw [hgeneration]
    exact nextGeneration_counts_iff _
  · apply hzero hcompiles
    rw [hgeneration, nextGeneration, hmax, Nat.mod_self]

/-! ## A helper that runs out of generations -/

/-- What a journal counts from and what it counts on to. -/
def countedStep (store : Option StoredAppliedState) : Option (ℕ × ℕ) :=
  store.bind fun record => record.pending.map fun plan =>
    (record.committedGeneration, plan.generation)

theorem countedStep_eq_some {store : Option StoredAppliedState} {counted : ℕ × ℕ}
    (h : countedStep store = some counted) : ∃ record plan, store = some record ∧
      record.pending = some plan ∧ (record.committedGeneration, plan.generation) = counted := by
  obtain ⟨record, hstore, hrecord⟩ := Option.bind_eq_some_iff.1 h
  obtain ⟨plan, hpending, hcounted⟩ := Option.map_eq_some_iff.1 hrecord
  exact ⟨record, plan, hstore, hpending, hcounted⟩

/-- The refresh whose guard could not be installed had counted on from one. -/
theorem next_generation_guard :
    ∃ (record : StoredAppliedState) (plan : KernelPlan), record.pending = some plan ∧
      record.committedGeneration = 1 ∧ record.committedGeneration < plan.generation := by
  have hcounted : (guardFailure.events.map fun e => countedStep e.state.store).contains
      (some (1, 2)) = true := by
    decide +kernel
  obtain ⟨e, he, hcounted⟩ := List.mem_map.1 (List.contains_iff_mem.1 hcounted)
  obtain ⟨record, plan, hstore, hpending, hpair⟩ := countedStep_eq_some hcounted
  obtain ⟨hcommitted, -⟩ := Prod.mk.inj hpair
  have hnew : armedSystem.store ≠ some record := by
    intro hsame
    obtain rfl := Option.some.inj hsame
    cases hpending
  have hbelow : record.committedGeneration + 1 < 2 ^ 64 := by
    rw [hcommitted]
    decide
  exact ⟨record, plan, hpending, hcommitted,
    ((next_generation_iff countPrimitives (.refresh (bareTopology twoAddresses) 0)
      ⟨armedSystem, .fresh, fun i => i == 29⟩ he hstore hpending hnew).2.1.2 hbelow).1⟩

/-- The helper before its first plan. -/
def emptySystem : System :=
  ⟨⟨none, .empty⟩, [], none, fun _ => false, ⟨fun _ => none, fun _ => none, fun _ => none⟩,
    some "boot", 1, "token"⟩

/-- A client applies a plan of this generation. -/
def applied (generation : ℕ) : Outcome System Backend PrivilegedError Unit :=
  apply countPrimitives (barePlan generation oneAddress) ⟨emptySystem, .fresh, fun _ => false⟩

/-- And activates the profile over it. -/
def activated (generation : ℕ) : Outcome System Backend PrivilegedError String :=
  activateRuntime countPrimitives ⟨runtimeProtocolVersion, bareProfile, ⟨.empty⟩, generation⟩
    1000 (bareTopology oneAddress) 0 (applied generation).world

def committedGenerationOf (w : World System Backend) : Option ℕ :=
  w.memory.current.map KernelPlan.generation

/-- A client applies `u64::MAX`, and no activation succeeds any more; or it applies the
generation below and activates, and a restore of what was there before journals generation
zero over `u64::MAX`, which no helper loads. -/
theorem generation_wraps :
    (committedGenerationOf (applied (2 ^ 64 - 1)).world = some (2 ^ 64 - 1) ∧
      nextGeneration (2 ^ 64 - 1) = 0 ∧
      (activated (2 ^ 64 - 1)).result.toBool = false) ∧
    (activated (2 ^ 64 - 2)).result.toBool = true ∧
    committedGenerationOf (activated (2 ^ 64 - 2)).world = some (2 ^ 64 - 1) ∧
    ∃ e ∈ (RuntimeOperation.restore "token" 1000).events countPrimitives
        (activated (2 ^ 64 - 2)).world,
      ∃ record plan, e.state.store = some record ∧ record.pending = some plan ∧
        ¬record.committedGeneration < plan.generation ∧
        (loaderAccepts countPrimitives record).toBool = false := by
  refine ⟨⟨by decide +kernel, by decide, by decide +kernel⟩, by decide +kernel,
    by decide +kernel, ?_⟩
  have hwrapped : (((RuntimeOperation.restore "token" 1000).events countPrimitives
      (activated (2 ^ 64 - 2)).world).any fun e =>
        decide (countedStep e.state.store = some (2 ^ 64 - 1, 0)) &&
          e.state.store.all fun record =>
            !(loaderAccepts countPrimitives record).toBool) = true := by
    decide +kernel
  obtain ⟨e, he, hwrapped⟩ := List.any_eq_true.1 hwrapped
  obtain ⟨hcounted, hrefused⟩ := Bool.and_eq_true_iff.1 hwrapped
  obtain ⟨record, plan, hstore, hpending, hpair⟩ :=
    countedStep_eq_some (of_decide_eq_true hcounted)
  obtain ⟨-, hzero⟩ := Prod.mk.inj hpair
  refine ⟨e, he, record, plan, hstore, hpending, ?_, ?_⟩
  · rw [hzero]
    exact Nat.not_lt_zero _
  · rw [hstore] at hrefused
    exact (Bool.not_eq_true' _).mp hrefused

end RouteLane
