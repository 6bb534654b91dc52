import RouteLane.Kernel.CrashStates
import RouteLane.Nft.Eval

/-!
# Phases of a transaction

A transaction shows the kernel five documents in turn.  They differ in the guard, the
marker of the pending plan and the generation in the marker of the active one, so the
journal tells them apart as long as their digests do.
-/

namespace RouteLane

open Nft Steps

/-! ## Names that tell documents apart -/

/-- Normalizing moves rules and drops handles; the chains stay. -/
theorem chainNames_normalize (document : Document) :
    chainNames (normalizeNftDocument document) = chainNames document := by
  have hname : Object.chainName? ∘ Object.normalize = Object.chainName? := by
    funext o
    cases o <;> rfl
  have hrule : (document.filter Object.isRule).filterMap Object.chainName? = [] := by
    rw [List.filterMap_eq_nil_iff]
    intro o ho
    cases o with
    | rule => rfl
    | empty | metainfo | table | chain => simp [Object.isRule] at ho
  have hkeep : (document.filter fun o => !o.isRule).filterMap Object.chainName? =
      document.filterMap Object.chainName? := by
    rw [List.filterMap_filter]
    congr 1
    funext o
    cases o <;> rfl
  rw [chainNames, normalizeNftDocument, List.filterMap_map, hname, List.filterMap_append, hrule,
    hkeep, List.append_nil, chainNames]

section Names

variable (blake3 : Blake3) (active pending : Option KernelPlan) (guard : Bool)

theorem chainNames_render : ∃ digest,
    chainNames (renderNftDocument blake3 active pending guard) =
      .seal digest :: (renderChains blake3 active pending guard).map Chain.name :=
  ⟨_, chainNames_renderNftDocument blake3 active pending guard⟩

theorem map_name_renderChains :
    (renderChains blake3 active pending guard).map Chain.name =
      (active.map (stateChainName blake3)).toList ++
        (pending.map (transactionChainName blake3)).toList ++
        ((active.map fun plan => (policyChains plan).map Chain.name).getD []) ++
        (if guard then [ChainName.guard] else []) := by
  cases active <;> cases pending <;> cases guard <;>
    simp [renderChains, Chain.regular, guardChain]

theorem guard_mem_chainNames :
    ChainName.guard ∈ chainNames (renderNftDocument blake3 active pending guard) ↔
      guard = true := by
  obtain ⟨digest, hnames⟩ := chainNames_render blake3 active pending guard
  rw [hnames, map_name_renderChains]
  cases active <;> cases pending <;>
    simp [stateChainName, transactionChainName, names_policyChains]

theorem transaction_mem_chainNames :
    (∃ generation digest, ChainName.transaction generation digest ∈
      chainNames (renderNftDocument blake3 active pending guard)) ↔ pending.isSome = true := by
  obtain ⟨digest, hnames⟩ := chainNames_render blake3 active pending guard
  rw [hnames, map_name_renderChains]
  cases active <;> cases pending <;>
    simp [stateChainName, transactionChainName, names_policyChains]

theorem state_mem_chainNames {generation : ℕ} :
    (∃ digest, ChainName.state generation digest ∈
      chainNames (renderNftDocument blake3 active pending guard)) ↔
      ∃ plan ∈ active, plan.generation = generation := by
  obtain ⟨digest, hnames⟩ := chainNames_render blake3 active pending guard
  rw [hnames, map_name_renderChains]
  cases active <;> cases pending <;>
    simp [stateChainName, transactionChainName, names_policyChains, eq_comm]

end Names

/-! ## The documents of a transaction -/

section Transaction

variable (blake3 : Blake3) (active : Option KernelPlan) (lost : LostUnicast) (pending : KernelPlan)

/-- The table the kernel shows in each phase; none where there is no table. -/
def phaseDocument : PendingNftPhase → Option Document
  | .untouched => active.map fun plan => renderNftDocument blake3 (some plan) none false
  | .guard => some (renderNftDocument blake3 active (some pending) true)
  | .guardlessTransaction => some (renderNftDocument blake3 active (some pending) false)
  | .activated => some (renderNftDocument blake3 (some pending) none true)
  | .committed => some (renderNftDocument blake3 (some pending) none false)
  | .rollbackAbsent => none

/-- The digests of the documents of one transaction do not collide. -/
def DigestsTellApart : Prop :=
  ∀ phase phase' d d', phaseDocument blake3 active pending phase = some d →
    phaseDocument blake3 active pending phase' = some d' →
    nftDocumentFingerprint blake3 d = nftDocumentFingerprint blake3 d' →
    normalizeNftDocument d = normalizeNftDocument d'

/-- The journal `transition_with` saves before it touches the kernel. -/
def transitionJournal : PendingJournal where
  active := active
  activeNftFingerprint :=
    (phaseDocument blake3 active pending .untouched).map (nftDocumentFingerprint blake3)
  pending := pending
  expectations := buildPendingExpectationsFrom blake3 active lost pending

variable {blake3 active lost pending}

/-- Documents of different phases are different tables, the plans being of different
generations. -/
theorem phaseDocument_inj (hgeneration : ∀ plan ∈ active, plan.generation ≠ pending.generation)
    {phase phase' : PendingNftPhase} {d d' : Document}
    (hd : phaseDocument blake3 active pending phase = some d)
    (hd' : phaseDocument blake3 active pending phase' = some d')
    (heq : normalizeNftDocument d = normalizeNftDocument d') : phase = phase' := by
  have hnames : chainNames d = chainNames d' := by
    rw [← chainNames_normalize d, heq, chainNames_normalize d']
  have hguard : (ChainName.guard ∈ chainNames d ↔ ChainName.guard ∈ chainNames d') := by
    rw [hnames]
  have htransaction : (∃ g m, ChainName.transaction g m ∈ chainNames d) ↔
      ∃ g m, ChainName.transaction g m ∈ chainNames d' := by rw [hnames]
  have hstate : (∃ m, ChainName.state pending.generation m ∈ chainNames d) ↔
      ∃ m, ChainName.state pending.generation m ∈ chainNames d' := by rw [hnames]
  cases active with
  | none =>
    cases phase <;> cases phase' <;>
      simp only [phaseDocument, Option.map_none, Option.some.injEq, reduceCtorEq] at hd hd' <;>
      subst hd hd' <;>
      first
        | rfl
        | (exfalso; simp [guard_mem_chainNames, transaction_mem_chainNames] at hguard htransaction)
  | some plan =>
    have hne := hgeneration plan rfl
    cases phase <;> cases phase' <;>
      simp only [phaseDocument, Option.map_some, Option.some.injEq, reduceCtorEq] at hd hd' <;>
      subst hd hd' <;>
      first
        | rfl
        | (exfalso
           simp [guard_mem_chainNames, transaction_mem_chainNames, state_mem_chainNames, hne]
             at hguard htransaction hstate)

/-- The journal reads the phase off the document of the phase. -/
theorem pendingNftPhase_phaseDocument (hdigests : DigestsTellApart blake3 active pending)
    (hgeneration : ∀ plan ∈ active, plan.generation ≠ pending.generation)
    {phase : PendingNftPhase} {d : Document}
    (hd : phaseDocument blake3 active pending phase = some d) :
    pendingNftPhase active (transitionJournal blake3 active lost pending).activeNftFingerprint
      (some (nftDocumentFingerprint blake3 d))
      (transitionJournal blake3 active lost pending).expectations = some phase := by
  have hother : ∀ phase' d', phaseDocument blake3 active pending phase' = some d' →
      phase' ≠ phase → nftDocumentFingerprint blake3 d ≠ nftDocumentFingerprint blake3 d' := by
    intro phase' d' hd' hne heq
    exact hne (phaseDocument_inj hgeneration hd' hd
      (hdigests phase' phase d' d hd' hd heq.symm))
  have hguard := hother .guard _ rfl
  have hguardless := hother .guardlessTransaction _ rfl
  have hactivated := hother .activated _ rfl
  -- Apart from the active plan's own table, the journal goes by its expectations.
  have hjournaled : phase ≠ .untouched → pendingNftPhase.journaledPhase
      (buildPendingExpectationsFrom blake3 active lost pending)
      (nftDocumentFingerprint blake3 d) = some phase := by
    intro huntouched
    rw [pendingNftPhase.journaledPhase]
    cases phase with
    | untouched => exact absurd rfl huntouched
    | guard =>
      obtain rfl := Option.some.inj hd
      exact if_pos rfl
    | guardlessTransaction =>
      obtain rfl := Option.some.inj hd
      exact (if_neg (hguard (by decide))).trans (if_pos rfl)
    | activated =>
      obtain rfl := Option.some.inj hd
      exact (if_neg (hguard (by decide))).trans
        ((if_neg (hguardless (by decide))).trans (if_pos rfl))
    | committed =>
      obtain rfl := Option.some.inj hd
      exact (if_neg (hguard (by decide))).trans ((if_neg (hguardless (by decide))).trans
        ((if_neg (hactivated (by decide))).trans (if_pos rfl)))
    | rollbackAbsent => cases hd
  cases active with
  | none =>
    refine hjournaled ?_
    rintro rfl
    cases hd
  | some plan =>
    have huntouched := hother .untouched _ rfl
    by_cases hphase : phase = .untouched
    · subst hphase
      obtain rfl := Option.some.inj hd
      exact if_pos rfl
    · exact (if_neg (huntouched (Ne.symm hphase))).trans (hjournaled hphase)

end Transaction

end RouteLane
