import RouteLane.Backend.Refresh

/-!
# The record of a runtime

What an activation records of its runtime is kept in the journal and in the memory.
Recoveries and refreshes copy it from the one to the other and take other decisions into it;
so whatever does not depend on the decision goes on to hold of it.
-/

namespace RouteLane

open Fallible Nft Faults Program

/-- The runtime of the journal, if there is one, satisfies `R`. -/
def StoreRecord (R : RuntimeRecord → Prop) (store : Option StoredAppliedState) : Prop :=
  ∀ record, store = some record → ∀ runtime, record.runtime = some runtime → R runtime

/-- The runtime in the memory, if there is one, satisfies `R`. -/
def MemoryRecord (R : RuntimeRecord → Prop) (m : Backend) : Prop :=
  ∀ runtime, m.runtime = some runtime → R runtime.record

/-- What holds of a record whatever was decided. -/
def Undecided (R : RuntimeRecord → Prop) : Prop :=
  ∀ record decision, R record → R { record with decision := decision }

namespace StoreRecord

variable {R : RuntimeRecord → Prop} {record : StoredAppliedState}

theorem none : StoreRecord R none := fun _ h => absurd h (by simp)

theorem of_runtime (h : ∀ runtime, record.runtime = some runtime → R runtime) :
    StoreRecord R (some record) := by
  rintro record ⟨⟩
  exact h

theorem of_none (h : record.runtime = .none) : StoreRecord R (some record) := by
  refine of_runtime fun runtime hruntime => ?_
  rw [h] at hruntime
  cases hruntime

theorem committedStore {state : Option KernelPlan} {nftFingerprint : Option String}
    {restoreReceipt : Option RestoreReceipt} {extras : CommittedExtras}
    (hextras : ∀ runtime, extras.runtime = some runtime → R runtime)
    (written : Option StoredAppliedState)
    (h : RouteLane.committedStore state nftFingerprint restoreReceipt extras = some written) :
    StoreRecord R written := by
  unfold RouteLane.committedStore at h
  split at h
  · obtain rfl := Option.some.inj h
    exact of_runtime hextras
  · split at h
    · obtain rfl := Option.some.inj h
      cases restoreReceipt with
      | none => exact none
      | some receipt => exact of_none rfl
    · exact absurd h (by simp)
  · exact absurd h (by simp)

/-- A recovery keeps the record or drops it. -/
theorem recoveryWrites {written : Option StoredAppliedState} (h : StoreRecord R (some record))
    (hwrites : RecoveryWrites record written) : StoreRecord R written := by
  cases hwrites with
  | orphan ownership _ => exact of_none rfl
  | orphanDone _ => exact none
  | cleaned _ =>
    unfold emptiedStore
    cases record.restoreReceipt with
    | none => exact none
    | some receipt => exact of_none rfl
  | repaired _ hwritten => exact committedStore (h record rfl) _ hwritten
  | empty _ _ => exact none

end StoreRecord

section Memory

variable {R : RuntimeRecord → Prop} {p : Primitives} {flag : Option StoredAppliedState → Bool}
  {v v' : JournalView} {m m' : Backend} {b : Bool}

theorem MemoryRecord.of_none (h : m.runtime = none) : MemoryRecord R m := by
  intro runtime hruntime
  rw [h] at hruntime
  cases hruntime

theorem MemoryRecord.of_runtime (h : MemoryRecord R m) (hsame : m'.runtime = m.runtime) :
    MemoryRecord R m' := fun runtime hruntime => h runtime (hsame.symm.trans hruntime)

theorem MemoryRecord.kept (h : MemoryRecord R m)
    (hkept : m'.runtime = m.runtime ∨ m'.runtime = none) : MemoryRecord R m' := by
  rcases hkept with hsame | hnone
  · exact h.of_runtime hsame
  · exact .of_none hnone

/-- Only a legacy journal makes the memory forget its runtime. -/
theorem Reconciled.runtime {record : StoredAppliedState} {store : Option StoredAppliedState}
    (h : Reconciled p record m store m') : m'.runtime = m.runtime ∨ m'.runtime = none := by
  cases h with
  | legacyV2 _ _ => exact Or.inr rfl
  | legacyV1 _ _ _ => exact Or.inl rfl
  | orphan _ _ => exact Or.inl rfl
  | cleaned _ _ => exact Or.inl rfl
  | repaired _ _ _ => exact Or.inl rfl
  | committed _ _ _ => exact Or.inl rfl
  | empty _ _ _ => exact Or.inl rfl

theorem Inspected.runtime {store : Option StoredAppliedState} (h : Inspected p m store m') :
    m'.runtime = m.runtime ∨ m'.runtime = .none := by
  cases h with
  | none => exact Or.inl rfl
  | legacyV2 _ _ => exact Or.inr rfl
  | legacyV1 _ _ _ => exact Or.inl rfl
  | current _ _ _ => exact Or.inl rfl

theorem EnsuredReconciled.runtime (h : EnsuredReconciled p v m v' m') :
    m'.runtime = m.runtime ∨ m'.runtime = none := by
  cases h with
  | absent _ => exact Or.inl rfl
  | already _ _ _ => exact Or.inl rfl
  | reconciled _ _ hreconciled => exact hreconciled.runtime

/-- A transition that gave up leaves the runtime in the memory alone. -/
theorem TransitionFailed.runtime {t : Move} (h : TransitionFailed flag p t v m b v' m') :
    m'.runtime = m.runtime := by
  cases h with
  | refused _ _ => rfl
  | unsynced _ _ => rfl
  | pending _ _ _ => rfl
  | repaired _ => rfl
  | committed _ _ _ _ => rfl

theorem RuntimeLoaded.record (h : RuntimeLoaded p v m m') (hv : StoreRecord R v.store)
    (hm : MemoryRecord R m) : MemoryRecord R m' := by
  cases h with
  | again _ => exact hm
  | read mismatch _ _ =>
    intro runtime hruntime
    obtain ⟨record, hrecord, rfl⟩ := Option.map_eq_some_iff.1 hruntime
    cases hstore : v.store with
    | none => rw [hstore] at hrecord; cases hrecord
    | some stored => rw [hstore] at hrecord; exact hv stored hstore record hrecord

theorem EnsuredReconciled.storeRecord (h : EnsuredReconciled p v m v' m')
    (hv : StoreRecord R v.store) : StoreRecord R v'.store := by
  rcases h.store with hsame | ⟨record, hstore, hwrites⟩
  · rwa [hsame]
  · rw [hstore] at hv
    exact hv.recoveryWrites hwrites

theorem Prepared.record {unverified : Bool} (h : Prepared p v m unverified v' m')
    (hv : StoreRecord R v.store) (hm : MemoryRecord R m) :
    MemoryRecord R m' ∧ StoreRecord R v'.store := by
  cases h with
  | replayed _ _ hreconciled hloaded =>
    have hv' : StoreRecord R v'.store := hreconciled.storeRecord hv
    exact ⟨hloaded.record hv' ((hm.kept hreconciled.runtime).of_runtime rfl), hv'⟩
  | read _ hinspected hloaded => exact ⟨hloaded.record hv (hm.kept hinspected.runtime), hv⟩

theorem PrepareFailed.storeRecord (h : PrepareFailed flag p v m b v' m')
    (hv : StoreRecord R v.store) : StoreRecord R v'.store := by
  refine h.within hv fun record written hstore _ hwrites => ?_
  rw [hstore] at hv
  exact hv.recoveryWrites hwrites

theorem PrepareFailed.runtime (h : PrepareFailed flag p v m b v' m') :
    m'.runtime = m.runtime ∨ m'.runtime = none := by
  cases h with
  | unread _ _ => exact Or.inl rfl
  | unreplayed _ _ _ => exact Or.inl rfl
  | replayed _ hreconciled => exact hreconciled.runtime
  | inspected _ hinspected _ => exact hinspected.runtime

end Memory

/-! ## A refresh -/

section Refresh

variable {R : RuntimeRecord → Prop} {p : Primitives} {flag : Option StoredAppliedState → Bool}
  {v v' : JournalView} {m m' : Backend} {topology : TopologySnapshot} {now : ℕ}
  {runtime runtime' : ArmedRuntime} {b : Bool}

/-- The journals of a refresh have its record, with another decision, or none. -/
theorem refreshWithin_record (hR : Undecided R) (h : R runtime.record) :
    RefreshWithin (StoreRecord R) p m.taken runtime topology now := by
  intro current candidate lost _ _
  constructor
  · intro l _
    exact .of_none rfl
  · refine StoreRecord.committedStore fun record hrecord => ?_
    cases hrecord
  · intro l _
    refine .of_runtime fun record hrecord => ?_
    obtain rfl := Option.some.inj hrecord
    exact hR _ _ h

theorem CandidateCommitted.record {current candidate : KernelPlan} {decision : PrimaryDecision}
    {lost : LostUnicast} {outcome : Except PrivilegedError Unit}
    (h : CandidateCommitted flag p v m runtime current decision candidate lost now b runtime'
      outcome v' m') (hR : Undecided R) (hrecord : R runtime.record) : R runtime'.record := by
  cases h with
  | unchanged _ _ => exact hrecord
  | heldBack _ _ => exact hrecord
  | failed _ _ _ _ => exact hrecord
  | committed _ _ _ _ _ => exact hR _ _ hrecord

theorem ArmedRefreshed.record {unverified : Bool} {outcome : Except PrivilegedError Unit}
    (h : ArmedRefreshed flag p v m runtime topology now unverified b runtime' outcome v' m')
    (hR : Undecided R) (hrecord : R runtime.record) : R runtime'.record := by
  cases h with
  | unauthorized _ => exact hrecord
  | unobserved _ _ _ => exact hrecord
  | uncompiled _ _ _ _ => exact hrecord
  | unproved _ _ _ _ _ _ =>
    unfold ArmedRuntime.unproved
    split
    · exact hrecord
    · exact hrecord
  | proved _ _ _ _ _ _ hcommitted => exact hcommitted.record hR hrecord

theorem PreparedRefreshed.record {unverified : Bool}
    (h : PreparedRefreshed flag p v m topology now unverified b v' m') (hR : Undecided R)
    (hm : MemoryRecord R m) : MemoryRecord R m' := by
  cases h with
  | inactive _ => exact hm
  | told hruntime hrefreshed =>
    rintro _ ⟨⟩
    exact hrefreshed.record hR (hm _ hruntime)
  | failed hruntime hrefreshed _ _ =>
    rintro _ ⟨⟩
    exact hrefreshed.record hR (hm _ hruntime)
  | stalled hruntime hrefreshed _ =>
    rintro _ ⟨⟩
    exact hrefreshed.record hR (hm _ hruntime)

theorem Refreshed.record (h : Refreshed flag p v m topology now b v' m') (hR : Undecided R)
    (hv : StoreRecord R v.store) (hm : MemoryRecord R m) : MemoryRecord R m' := by
  cases h with
  | waits _ _ =>
    intro runtime hruntime
    obtain ⟨held, hheld, rfl⟩ := Option.map_eq_some_iff.1 hruntime
    exact hm held hheld
  | prepared _ hprepared _ hended => exact hended.record hR (hprepared.record hv hm).1
  | unprepared _ _ hfailed hruntime =>
    have hrecord := hm.kept hfailed.runtime _ hruntime
    rintro _ ⟨⟩
    exact hrecord

theorem Refreshed.storeRecord (h : Refreshed flag p v m topology now b v' m')
    (hR : Undecided R) (hv : StoreRecord R v.store) (hm : MemoryRecord R m) :
    StoreRecord R v'.store := by
  cases h with
  | waits _ _ => exact hv
  | prepared _ hprepared _ hended =>
    obtain ⟨hm₁, hv₁⟩ := hprepared.record hv hm
    rcases hended.left with ⟨hsame, -⟩ | ⟨runtime, hruntime, hwritten⟩
    · rwa [hsame]
    · exact hwritten _ (refreshWithin_record hR (hm₁ runtime hruntime))
  | unprepared _ _ hfailed _ => exact hfailed.storeRecord hv

theorem RefreshGaveUp.record (h : RefreshGaveUp flag p v m now b v' m')
    (hv : StoreRecord R v.store) : StoreRecord R v'.store ∧ MemoryRecord R m' := by
  cases h with
  | unprepared _ _ hfailed hnone => exact ⟨hfailed.storeRecord hv, .of_none hnone⟩

/-- A refresh goes on from a record to the same record with other decisions. -/
theorem refreshRuntime_record (hR : Undecided R) (flag : Option StoredAppliedState → Bool)
    (p : Primitives) (topology : TopologySnapshot) (now : ℕ) (hv : StoreRecord R v.store)
    (hm : MemoryRecord R m) :
    Journals (StoreRecord R) flag v m (refreshRuntime p topology now)
      (fun _ _ v' m' => StoreRecord R v'.store ∧ MemoryRecord R m')
      (fun _ v' m' => StoreRecord R v'.store ∧ MemoryRecord R m') := by
  refine Shows.conseq (refreshRuntime_spec hv ?_ ?_) ?_ ?_
  · intro record written hstore _ hwrites
    rw [hstore] at hv
    exact hv.recoveryWrites hwrites
  · intro unverified v₁ m₁ runtime hprepared hruntime
    exact refreshWithin_record hR ((hprepared.record hv hm).1 runtime hruntime)
  · rintro b status v' m' ⟨-, hrefreshed⟩
    exact ⟨hrefreshed.storeRecord hR hv hm, hrefreshed.record hR hv hm⟩
  · intro b v' m' hgaveUp
    exact hgaveUp.record hv

end Refresh

end RouteLane
