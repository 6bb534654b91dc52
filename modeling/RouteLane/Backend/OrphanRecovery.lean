import RouteLane.Backend.Progress

/-!
# Recovering an orphan

An orphan is RouteLane's own state that no journal tells of.  Its recovery journals what was
captured and removes it piece by piece, the rules first and the nft table last, so that a
recovery that was broken off can be taken up again.  The tables are flushed once for every
route that was captured, though, and the kernel refuses to flush an empty one: a table that
holds two routes of a family ends the recovery.
-/

namespace RouteLane

open Nft Faults Program

namespace RoutingOwnership

variable {s t : RoutingOwnership}

/-- No two routes are in the same table of the same family. -/
def OneRoutePerTable (s : RoutingOwnership) : Prop :=
  ∀ r ∈ s.routes, ∀ r' ∈ s.routes, r.family = r'.family → r.table = r'.table → r = r'

theorem OneRoutePerTable.part (h : t.OneRoutePerTable) (hpart : s.Part t) : s.OneRoutePerTable :=
  fun r hr r' hr' => h r (hpart.routes hr) r' (hpart.routes hr')

end RoutingOwnership

/-! ## What the recovery relies on -/

/-- The elements of a set come each once. -/
structure Primitives.Enumerates (p : Primitives) : Prop where
  rules_nodup : ∀ s, (p.rulesInOrder s).Nodup
  mem_rules : ∀ s r, r ∈ p.rulesInOrder s ↔ r ∈ s
  routes_nodup : ∀ s, (p.routesInOrder s).Nodup
  mem_routes : ∀ s r, r ∈ p.routesInOrder s ↔ r ∈ s

/-- The journal of every part of this routing is short enough to be saved. -/
def Primitives.OrphansFit (p : Primitives) (captured : RoutingOwnership) : Prop :=
  ∀ ownership : OrphanedOwnership, ownership.routing.Part captured →
    (∀ fingerprint ∈ ownership.nftFingerprint, ∃ document,
      fingerprint = nftDocumentFingerprint p.blake3 document) →
    p.stateBytes (orphanJournal ownership) ≤ maxStateBytes

/-! ## A recovery that was broken off -/

section OrphanLeft

variable {p : Primitives} {captured : RoutingOwnership} {kernel : KernelState}
  {ownership : OrphanedOwnership}

/-- What is left of the captured state belongs to the journal, and the nft table outlives the
routing. -/
structure OrphanLeft (p : Primitives) (captured : RoutingOwnership) (kernel : KernelState)
    (ownership : OrphanedOwnership) : Prop where
  journaled : ownership.routing.Part captured
  owned : kernel.routing.Part ownership.routing
  table : ∀ document ∈ kernel.nft,
    ownership.nftFingerprint = some (nftDocumentFingerprint p.blake3 document)
  gone : kernel.nft = none → kernel.routing = .empty

/-- A journal that tells exactly of what is live. -/
theorem OrphanLeft.exactly (hpart : kernel.routing.Part captured)
    (hgone : kernel.nft = none → kernel.routing = .empty) :
    OrphanLeft p captured kernel ⟨kernel.fingerprint p, kernel.routing⟩ where
  journaled := hpart
  owned := .refl _
  table document hdocument := by
    rw [KernelState.fingerprint, Option.mem_def.1 hdocument]
    rfl
  gone := hgone

theorem OrphanLeft.part (h : OrphanLeft p captured kernel ownership) :
    kernel.routing.Part captured := h.owned.trans h.journaled

/-- Whatever is removed of the routing while the table stays, the journal still owns the
rest. -/
theorem OrphanLeft.removed (h : OrphanLeft p captured kernel ownership)
    {routing : RoutingOwnership} (hpart : routing.Part kernel.routing) :
    OrphanLeft p captured { kernel with routing := routing } ownership where
  journaled := h.journaled
  owned := hpart.trans h.owned
  table := h.table
  gone hnone := by
    rw [h.gone hnone] at hpart
    exact hpart.eq_empty

/-- The nft table goes once the routing is gone. -/
theorem OrphanLeft.tableRemoved (h : OrphanLeft p captured kernel ownership)
    (hempty : kernel.routing = .empty) : OrphanLeft p captured ⟨none, .empty⟩ ownership where
  journaled := h.journaled
  owned := by
    rw [← hempty]
    exact h.owned
  table := nofun
  gone _ := rfl

/-- What a resumed recovery starts from: exactly what is live. -/
theorem OrphanLeft.resume (h : OrphanLeft p captured kernel ownership) :
    ownership.resumed kernel.routing (kernel.fingerprint p) =
      .ok ⟨kernel.fingerprint p, kernel.routing⟩ := by
  have hsubset : kernel.routing.routes ⊆ ownership.routing.routes ∧
      kernel.routing.rules ⊆ ownership.routing.rules := ⟨h.owned.routes, h.owned.rules⟩
  cases hnft : kernel.nft with
  | none =>
    have hempty := h.gone hnft
    rw [hempty] at hsubset ⊢
    simp [OrphanedOwnership.resumed, KernelState.fingerprint, hnft]
  | some document =>
    have hfingerprint := h.table document hnft
    simp only [OrphanedOwnership.resumed, KernelState.fingerprint, hnft, Option.map_some,
      hfingerprint, if_true, if_pos hsubset]
    rfl

/-- The kernel and the journal of a recovery on its way, or at its end. -/
def Recovering (p : Primitives) (captured : RoutingOwnership) (kernel : KernelState)
    (store : Option StoredAppliedState) : Prop :=
  (∃ ownership, store = some (orphanJournal ownership) ∧
    OrphanLeft p captured kernel ownership) ∨ (store = none ∧ kernel = ⟨none, .empty⟩)

theorem OrphanLeft.recovering (h : OrphanLeft p captured kernel ownership) :
    Recovering p captured kernel (some (orphanJournal ownership)) := Or.inl ⟨ownership, rfl, h⟩

end OrphanLeft

/-! ## The removal, piece by piece -/

section Removal

variable {p : Primitives} {captured : RoutingOwnership} {sure : Prop}

theorem OrphanLeft.fits {kernel : KernelState} (h : OrphanLeft p captured kernel
      ⟨kernel.fingerprint p, kernel.routing⟩) (hfits : p.OrphansFit captured)
    {routing : RoutingOwnership} (hpart : routing.Part kernel.routing) :
    p.stateBytes (orphanJournal ⟨kernel.fingerprint p, routing⟩) ≤ maxStateBytes := by
  refine hfits _ (hpart.trans h.part) fun fingerprint hfingerprint => ?_
  obtain ⟨document, -, rfl⟩ := Option.map_eq_some_iff.1 hfingerprint
  exact ⟨document, rfl⟩

/-- Deleting a rule and journaling it. -/
theorem removeOrphanPiece_proceeds {kernel : KernelState} {m : Backend} {context : String}
    {step : RoutingStep} {α : Type} {f : Unit → BackendM α}
    {Q : α → KernelState → Option StoredAppliedState → Backend → Prop}
    (hleft : OrphanLeft p captured kernel ⟨kernel.fingerprint p, kernel.routing⟩)
    (hfits : p.OrphansFit captured) (hremoval : step.isRemoval = true)
    (hsure : sure → applyRoutingStep kernel.routing step ≠ kernel.routing)
    (hf : applyRoutingStep kernel.routing step ≠ kernel.routing →
      OrphanLeft p captured (kernel.step step)
        ⟨(kernel.step step).fingerprint p, (kernel.step step).routing⟩ →
      Proceeds sure (Recovering p captured) (kernel.step step) (some (orphanJournal
        ⟨(kernel.step step).fingerprint p, (kernel.step step).routing⟩)) m (f ()) Q) :
    Proceeds sure (Recovering p captured) kernel
      (some (orphanJournal ⟨kernel.fingerprint p, kernel.routing⟩)) m
      (do onKernel (sendRemoval step context)
          save p (orphanJournal ⟨kernel.fingerprint p, applyRoutingStep kernel.routing step⟩)
          f ()) Q := by
  have hpart : (applyRoutingStep kernel.routing step).Part kernel.routing :=
    RoutingOwnership.Part.removal hremoval
  have hnext : OrphanLeft p captured (kernel.step step)
      ⟨(kernel.step step).fingerprint p, (kernel.step step).routing⟩ :=
    .exactly (hpart.trans hleft.part) (hleft.removed hpart).gone
  refine Proceeds.onKernel_bind (sendRemoval_completes hleft.recovering
    (hleft.removed hpart).recovering hsure) ?_
  rintro _ _ _ ⟨hchanges, rfl, rfl⟩
  refine Proceeds.save_bind (fun _ => hleft.fits hfits hpart) (hleft.removed hpart).recovering
    hnext.recovering ?_
  exact hf hchanges hnext

/-- The rules are all there, so each deletion finds its own. -/
theorem removeOrphanRules_proceeds {m : Backend} (hfits : p.OrphansFit captured)
    (rules : List RuleOwnership) (hnodup : rules.Nodup) :
    ∀ kernel : KernelState, OrphanLeft p captured kernel ⟨kernel.fingerprint p, kernel.routing⟩ →
      (∀ rule, rule ∈ rules ↔ rule ∈ kernel.routing.rules) →
      Proceeds sure (Recovering p captured) kernel
        (some (orphanJournal ⟨kernel.fingerprint p, kernel.routing⟩)) m
        (removeOrphanRules p ⟨kernel.fingerprint p, kernel.routing⟩ rules)
        fun ownership kernel' store m' =>
          kernel' = { kernel with routing := ⟨kernel.routing.routes, ∅⟩ } ∧
          ownership = ⟨kernel.fingerprint p, ⟨kernel.routing.routes, ∅⟩⟩ ∧
          store = some (orphanJournal ownership) ∧
          OrphanLeft p captured kernel' ownership ∧ m' = m := by
  induction rules with
  | nil =>
    intro kernel hleft hrules
    have hempty : kernel.routing = ⟨kernel.routing.routes, ∅⟩ := by
      refine RoutingOwnership.ext_mem (fun _ => Iff.rfl) fun rule => ?_
      rw [← hrules rule]
      simp
    have hkernel : kernel = { kernel with routing := ⟨kernel.routing.routes, ∅⟩ } := by
      rw [← hempty]
    refine Proceeds.pure ⟨hkernel, ?_, rfl, hleft, rfl⟩
    rw [← hempty]
  | cons rule rules ih =>
    intro kernel hleft hrules
    obtain ⟨hfresh, hnodup⟩ := List.nodup_cons.1 hnodup
    let step : RoutingStep := .deleteRule rule.family rule.priority rule.table rule.mark
    have hmem : rule ∈ kernel.routing.rules := (hrules rule).1 List.mem_cons_self
    have hunfold : removeOrphanRules p ⟨kernel.fingerprint p, kernel.routing⟩ (rule :: rules) = (do
        onKernel (sendRemoval step "remove verified orphan RouteLane policy rule")
        save p (orphanJournal ⟨kernel.fingerprint p, applyRoutingStep kernel.routing step⟩)
        removeOrphanRules p ⟨kernel.fingerprint p, applyRoutingStep kernel.routing step⟩ rules) := rfl
    rw [hunfold]
    refine removeOrphanPiece_proceeds (f := fun _ => removeOrphanRules p _ rules) hleft hfits rfl
      (fun _ hsame => ?_) ?_
    · have herase := congrArg RoutingOwnership.rules hsame
      exact Finset.erase_ne_self.2 hmem herase
    · intro _ hnext
      refine ih hnodup (kernel.step step) hnext fun other => ?_
      show other ∈ rules ↔ other ∈ kernel.routing.rules.erase rule
      rw [Finset.mem_erase, ← hrules other, List.mem_cons]
      constructor
      · intro hother
        exact ⟨fun heq => hfresh (heq ▸ hother), Or.inr hother⟩
      · rintro ⟨hne, heq | hother⟩
        · exact absurd heq hne
        · exact hother

/-- Each of these routes is there, and no two of them are flushed together. -/
structure Flushable (s : RoutingOwnership) (routes : List RouteOwnership) : Prop where
  present : ∀ r ∈ routes, r ∈ s.routes
  apart : routes.Pairwise fun r r' => ¬(r.family = r'.family ∧ r.table = r'.table)

theorem flushable_routesInOrder (horder : p.Enumerates) {s : RoutingOwnership} :
    Flushable s (p.routesInOrder s.routes) ↔ s.OneRoutePerTable := by
  have hmem := horder.mem_routes s.routes
  constructor
  · intro h r hr r' hr' hfamily htable
    by_contra hne
    have hsymm : Std.Symm fun r r' : RouteOwnership =>
        ¬(r.family = r'.family ∧ r.table = r'.table) :=
      ⟨fun _ _ hab hba => hab ⟨hba.1.symm, hba.2.symm⟩⟩
    exact h.apart.forall ((hmem r).2 hr) ((hmem r').2 hr') hne ⟨hfamily, htable⟩
  · intro h
    refine ⟨fun r hr => (hmem r).1 hr, ?_⟩
    refine (horder.routes_nodup s.routes).pairwise_of_forall_ne ?_
    rintro r hr r' hr' hne ⟨hfamily, htable⟩
    exact hne (h r ((hmem r).1 hr) r' ((hmem r').1 hr') hfamily htable)

/-- A flush finds something exactly where the table has a route. -/
theorem flushTable_ne {s : RoutingOwnership} {f : IpFamily} {table : ℕ} :
    applyRoutingStep s (.flushTable f table) ≠ s ↔
      ∃ r ∈ s.routes, r.family = f ∧ r.table = table := by
  constructor
  · intro hchanges
    by_contra hnone
    push Not at hnone
    refine hchanges (RoutingOwnership.ext_mem (fun r => ?_) fun _ => Iff.rfl)
    rw [mem_routes_removal rfl]
    exact ⟨fun h => h.1, fun hr => ⟨hr, fun h => hnone r hr h.1 h.2⟩⟩
  · rintro ⟨r, hr, hplace⟩ hsame
    rw [← hsame] at hr
    exact ((mem_routes_removal rfl).1 hr).2 hplace

/-- Flushing a table leaves the rest to be flushed as before. -/
theorem flushable_cons {s : RoutingOwnership} {route : RouteOwnership}
    {routes : List RouteOwnership} (hroute : route ∈ s.routes) :
    Flushable s (route :: routes) ↔
      Flushable (applyRoutingStep s (.flushTable route.family route.table)) routes := by
  have hmem : ∀ r, r ∈ (applyRoutingStep s (.flushTable route.family route.table)).routes ↔
      r ∈ s.routes ∧ ¬(r.family = route.family ∧ r.table = route.table) :=
    fun _ => mem_routes_removal rfl
  constructor
  · rintro ⟨hpresent, hapart⟩
    obtain ⟨hother, hrest⟩ := List.pairwise_cons.1 hapart
    refine ⟨fun r hr => (hmem r).2 ⟨hpresent r (List.mem_cons_of_mem _ hr), ?_⟩, hrest⟩
    exact fun hplace => hother r hr ⟨hplace.1.symm, hplace.2.symm⟩
  · rintro ⟨hpresent, hrest⟩
    refine ⟨fun r hr => ?_, List.pairwise_cons.2 ⟨fun r hr hplace => ?_, hrest⟩⟩
    · rcases List.mem_cons.1 hr with rfl | hr
      · exact hroute
      · exact ((hmem r).1 (hpresent r hr)).1
    · exact ((hmem r).1 (hpresent r hr)).2 ⟨hplace.1.symm, hplace.2.symm⟩

/-- The loop over the routes ends exactly when every flush finds something.  A table is
emptied as a whole, so a route of the list is there if its table has any. -/
theorem removeOrphanRoutes_proceeds {m : Backend} (hfits : p.OrphansFit captured)
    (routes : List RouteOwnership) :
    ∀ kernel : KernelState, OrphanLeft p captured kernel ⟨kernel.fingerprint p, kernel.routing⟩ →
      (sure → Flushable kernel.routing routes) →
      (∀ r ∈ kernel.routing.routes, r ∈ routes) →
      (∀ r ∈ routes, ∀ r' ∈ kernel.routing.routes, r'.family = r.family → r'.table = r.table →
        r ∈ kernel.routing.routes) →
      Proceeds sure (Recovering p captured) kernel
        (some (orphanJournal ⟨kernel.fingerprint p, kernel.routing⟩)) m
        (removeOrphanRoutes p ⟨kernel.fingerprint p, kernel.routing⟩ routes)
        fun ownership kernel' store m' => Flushable kernel.routing routes ∧
          kernel' = { kernel with routing := ⟨∅, kernel.routing.rules⟩ } ∧
          ownership = ⟨kernel.fingerprint p, ⟨∅, kernel.routing.rules⟩⟩ ∧
          store = some (orphanJournal ownership) ∧
          OrphanLeft p captured kernel' ownership ∧ m' = m := by
  induction routes with
  | nil =>
    intro kernel hleft _ hcover _
    have hempty : kernel.routing = ⟨∅, kernel.routing.rules⟩ := by
      refine RoutingOwnership.ext_mem (fun r => ?_) fun _ => Iff.rfl
      exact ⟨fun hr => absurd (hcover r hr) List.not_mem_nil, fun hr => by simp at hr⟩
    have hkernel : kernel = { kernel with routing := ⟨∅, kernel.routing.rules⟩ } := by
      rw [← hempty]
    refine Proceeds.pure ⟨⟨nofun, List.Pairwise.nil⟩, hkernel, ?_, rfl, hleft, rfl⟩
    rw [← hempty]
  | cons route routes ih =>
    intro kernel hleft hsure hcover hwhole
    let step : RoutingStep := .flushTable route.family route.table
    have hmem : ∀ r, r ∈ (kernel.step step).routing.routes ↔
        r ∈ kernel.routing.routes ∧ ¬(r.family = route.family ∧ r.table = route.table) :=
      fun _ => mem_routes_removal rfl
    have hunfold : removeOrphanRoutes p ⟨kernel.fingerprint p, kernel.routing⟩
        (route :: routes) = (do
          onKernel (sendRemoval step "flush verified orphan RouteLane routing table")
          save p (orphanJournal ⟨kernel.fingerprint p, applyRoutingStep kernel.routing step⟩)
          removeOrphanRoutes p ⟨kernel.fingerprint p, applyRoutingStep kernel.routing step⟩
            routes) := rfl
    rw [hunfold]
    refine removeOrphanPiece_proceeds (f := fun _ => removeOrphanRoutes p _ routes) hleft hfits rfl
      (fun hs => ?_) fun hchanges hnext => ?_
    · exact flushTable_ne.2 ⟨route, (hsure hs).present route List.mem_cons_self, rfl, rfl⟩
    obtain ⟨r, hr, hfamily, htable⟩ := flushTable_ne.1 hchanges
    have hroute : route ∈ kernel.routing.routes :=
      hwhole route List.mem_cons_self r hr hfamily htable
    have hiff : Flushable kernel.routing (route :: routes) ↔
        Flushable (kernel.step step).routing routes := flushable_cons hroute
    refine (ih (kernel.step step) hnext (fun hs => hiff.1 (hsure hs)) ?_ ?_).conseq ?_
    · intro other hother
      obtain ⟨hother, hplace⟩ := (hmem other).1 hother
      rcases List.mem_cons.1 (hcover other hother) with rfl | hlater
      · exact absurd ⟨rfl, rfl⟩ hplace
      · exact hlater
    · intro other hother found hfound hfamily' htable'
      obtain ⟨hfound, hplace⟩ := (hmem found).1 hfound
      refine (hmem other).2 ⟨hwhole other (List.mem_cons_of_mem _ hother) found hfound hfamily'
        htable', ?_⟩
      rw [← hfamily', ← htable']
      exact hplace
    · rintro ownership kernel' store m' ⟨hflushable, hrest⟩
      exact ⟨hiff.2 hflushable, hrest⟩

/-- The table goes last, and its journal entry with it. -/
theorem removeOrphanTable_proceeds {m : Backend} {kernel : KernelState}
    (hfits : p.OrphansFit captured)
    (hleft : OrphanLeft p captured kernel ⟨kernel.fingerprint p, .empty⟩)
    (hempty : kernel.routing = .empty) :
    Proceeds sure (Recovering p captured) kernel
      (some (orphanJournal ⟨kernel.fingerprint p, .empty⟩)) m
      (removeOrphanTable p ⟨kernel.fingerprint p, .empty⟩)
      fun _ kernel' store m' => kernel' = ⟨none, .empty⟩ ∧
        store = some (orphanJournal ⟨none, .empty⟩) ∧ m' = m := by
  cases hnft : kernel.nft with
  | none =>
    have hnone : kernel.fingerprint p = none := by
      rw [KernelState.fingerprint, hnft]
      rfl
    rw [hnone]
    refine Proceeds.pure ⟨?_, rfl, rfl⟩
    rw [← hnft, ← hempty]
  | some document =>
    have hsome : kernel.fingerprint p = some (nftDocumentFingerprint p.blake3 document) := by
      rw [KernelState.fingerprint, hnft]
      rfl
    rw [hsome] at hleft ⊢
    unfold removeOrphanTable
    refine Proceeds.onKernel_bind (liveNftFingerprint_completes hleft.recovering hnft) ?_
    rintro _ kernel _ ⟨rfl, rfl, rfl⟩
    refine Proceeds.require_bind (fun _ => rfl) fun _ => ?_
    have hdeleted := hleft.tableRemoved hempty
    have hgone : ({ kernel with nft := none } : KernelState) = ⟨none, .empty⟩ := by
      rw [← hempty]
    refine Proceeds.onKernel_bind (deleteTable_completes hleft.recovering
      (by rw [hgone]; exact hdeleted.recovering) (by rw [hnft]; rfl)) ?_
    rintro _ _ _ ⟨rfl, rfl⟩
    rw [hgone]
    have hdone : OrphanLeft p captured ⟨none, .empty⟩ ⟨none, .empty⟩ :=
      ⟨.empty, .empty, nofun, fun _ => rfl⟩
    exact Proceeds.save (fun _ => hfits _ .empty nofun) hdeleted.recovering hdone.recovering

/-- A recovery that was broken off can be taken up wherever that was, and ends exactly where
no two routes that are left share a table. -/
theorem resumeOrphanCleanup_proceeds {m : Backend} {kernel : KernelState}
    {ownership : OrphanedOwnership} (horder : p.Enumerates) (hfits : p.OrphansFit captured)
    (hleft : OrphanLeft p captured kernel ownership)
    (hsure : sure → kernel.routing.OneRoutePerTable) :
    Proceeds sure (Recovering p captured) kernel (some (orphanJournal ownership)) m
      (resumeOrphanCleanup p)
      fun _ kernel' store m' => kernel.routing.OneRoutePerTable ∧ kernel' = ⟨none, .empty⟩ ∧
        store = none ∧ m' = m := by
  refine Proceeds.load_bind hleft.recovering ?_
  refine Proceeds.lift_bind (fun _ => ⟨(), rfl⟩) fun _ _ => ?_
  refine Proceeds.onKernel_bind (captureSnapshot_completes hleft.recovering) ?_
  rintro _ kernel _ ⟨rfl, rfl, rfl⟩
  refine Proceeds.onKernel_bind (capturedFingerprint_completes hleft.recovering) ?_
  rintro _ kernel _ ⟨rfl, rfl, rfl⟩
  rw [hleft.resume]
  refine Proceeds.lift_bind (fun _ => ⟨_, rfl⟩) ?_
  rintro _ hresumed
  obtain rfl := Except.ok.inj hresumed
  have hexact : OrphanLeft p captured kernel ⟨kernel.fingerprint p, kernel.routing⟩ :=
    .exactly hleft.part hleft.gone
  refine Proceeds.save_bind (fun _ => hexact.fits hfits (.refl _)) hleft.recovering
    hexact.recovering ?_
  refine Proceeds.bind (removeOrphanRules_proceeds hfits _ (horder.rules_nodup _) kernel hexact
    (horder.mem_rules _)) ?_
  rintro _ _ _ _ ⟨rfl, rfl, rfl, hrules, rfl⟩
  have hflushable := flushable_routesInOrder horder (s := kernel.routing)
  refine Proceeds.bind (removeOrphanRoutes_proceeds hfits (p.routesInOrder kernel.routing.routes)
    { kernel with routing := ⟨kernel.routing.routes, ∅⟩ } hrules ?_ ?_ ?_) ?_
  · intro hs
    obtain ⟨hpresent, hapart⟩ := hflushable.2 (hsure hs)
    exact ⟨hpresent, hapart⟩
  · exact fun r hr => (horder.mem_routes _ r).2 hr
  · exact fun r hr _ _ _ _ => (horder.mem_routes _ r).1 hr
  rintro _ _ _ _ ⟨⟨hpresent, hapart⟩, rfl, rfl, rfl, hroutes, rfl⟩
  refine Proceeds.bind (removeOrphanTable_proceeds hfits hroutes rfl) ?_
  rintro _ _ _ _ ⟨rfl, rfl, rfl⟩
  have hdone : OrphanLeft p captured ⟨none, .empty⟩ ⟨none, .empty⟩ :=
    ⟨.empty, .empty, nofun, fun _ => rfl⟩
  refine Proceeds.onKernel_bind (captureSnapshot_completes hdone.recovering) ?_
  rintro _ _ _ ⟨rfl, rfl, rfl⟩
  refine Proceeds.require_bind (fun _ => ⟨rfl, rfl⟩) fun _ => ?_
  refine (Proceeds.clear hdone.recovering (Or.inr ⟨rfl, rfl⟩)).conseq ?_
  rintro _ _ _ _ ⟨rfl, rfl, rfl⟩
  exact ⟨hflushable.1 ⟨hpresent, hapart⟩, rfl, rfl, rfl⟩

/-- An orphan journal passes the checks of the loader. -/
theorem validateJournal_orphanJournal (ownership : OrphanedOwnership) :
    validateJournal p (orphanJournal ownership) = .ok () := by
  simp [validateJournal, orphanJournal, validateStoredPlan, validateStoredFingerprintPair,
    validatePendingExpectations, validateRestoreReceipt, validateSettingReceipts,
    validateOrphanJournal, Fallible.failIf]
  rfl

theorem ensureReconciled_orphan_proceeds {m : Backend} {kernel : KernelState}
    {ownership : OrphanedOwnership} (horder : p.Enumerates) (hfits : p.OrphansFit captured)
    (hleft : OrphanLeft p captured kernel ownership)
    (hsure : sure → kernel.routing.OneRoutePerTable) :
    Proceeds sure (Recovering p captured) kernel (some (orphanJournal ownership)) m
      (ensureReconciled p)
      fun _ kernel' store _ => kernel' = ⟨none, .empty⟩ ∧ store = none := by
  refine Proceeds.load_bind hleft.recovering ?_
  refine Proceeds.get_bind ?_
  have hunfinished : (!m.initialized || (orphanJournal ownership).pending.isSome ||
      (orphanJournal ownership).cleanupPending ||
      (orphanJournal ownership).orphanCleanup.isSome) = true := by
    simp [orphanJournal]
  dsimp only
  rw [if_pos hunfinished]
  refine Proceeds.lift_bind (fun _ => ⟨(), validateJournal_orphanJournal ownership⟩) fun _ _ => ?_
  refine Proceeds.bind (resumeOrphanCleanup_proceeds horder hfits hleft hsure) ?_
  rintro _ _ _ _ ⟨-, rfl, rfl, rfl⟩
  exact Proceeds.modify ⟨rfl, rfl⟩

end Removal

/-! ## The whole recovery -/

section Recovery

variable {p : Primitives} {sure : Prop} {kernel : KernelState} {store : Option StoredAppliedState}
  {m : Backend}

/-- What `capture_verified_orphaned_ownership` accepts. -/
structure Capturable (p : Primitives) (kernel : KernelState) : Prop where
  routing : validateOrphanRouting kernel.routing = .ok ()
  document : ∀ document ∈ kernel.nft, p.orphanDocumentError document = none
  marked : kernel.nft = none → kernel.routing = .empty

/-- What is captured is what is live. -/
theorem captureVerified_proceeds {J : KernelState → Option StoredAppliedState → Prop}
    (hJ : J kernel store) (hsure : sure → Capturable p kernel) :
    Proceeds sure J kernel store m (captureVerifiedOrphanedOwnership p)
      fun ownership kernel' store' m' => ownership = ⟨kernel.fingerprint p, kernel.routing⟩ ∧
        Capturable p kernel ∧ kernel' = kernel ∧ store' = store ∧ m' = m := by
  refine Proceeds.onKernel_bind (captureSnapshot_completes hJ) ?_
  rintro _ kernel _ ⟨rfl, rfl, rfl⟩
  refine Proceeds.lift_bind (fun hs => ⟨(), (hsure hs).routing⟩) fun _ hvalid => ?_
  cases hnft : kernel.nft with
  | none =>
    simp only [Option.isSome_none, Bool.false_eq_true, if_false]
    refine Proceeds.require_bind (fun hs => (hsure hs).marked hnft) fun hempty => ?_
    refine Proceeds.pure ⟨?_, ⟨hvalid, ?_, fun _ => hempty⟩, rfl, rfl, rfl⟩
    · rw [KernelState.fingerprint, hnft]
      rfl
    · intro document hdocument
      rw [hnft] at hdocument
      cases hdocument
  | some document =>
    simp only [Option.isSome_some, if_true]
    refine Proceeds.onKernel_bind (Completes.inspect (Q := fun table kernel' m' =>
      table = kernel.nft ∧ kernel' = kernel ∧ m' = _) hJ ⟨rfl, rfl, rfl⟩) ?_
    rintro _ kernel _ ⟨rfl, rfl, rfl⟩
    rw [hnft]
    simp only [Option.getD_some]
    cases herror : p.orphanDocumentError document with
    | some e =>
      refine Proceeds.fail fun hs => ?_
      have hnone := (hsure hs).document document hnft
      rw [herror] at hnone
      cases hnone
    | none =>
      refine Proceeds.pure ⟨?_, ⟨hvalid, ?_, ?_⟩, rfl, rfl, rfl⟩
      · rw [KernelState.fingerprint, hnft]
        rfl
      · intro other hother
        rw [← Option.some.inj (hnft.symm.trans hother)]
        exact herror
      · intro hnone
        rw [hnft] at hnone
        cases hnone

/-- Before the orphan is journaled nothing has changed; afterwards it can be finished. -/
def LeftBehind (p : Primitives) (kernel : KernelState) (store : Option StoredAppliedState)
    (kernel' : KernelState) (store' : Option StoredAppliedState) : Prop :=
  NotBegun kernel store kernel' store' ∨ Recovering p kernel.routing kernel' store'

/-- The recovery ends exactly where no two routes share a table. -/
theorem recoverOrphaned_proceeds (horder : p.Enumerates) (hfits : p.OrphansFit kernel.routing)
    (hunclaimed : Unclaimed p store) (hm : m.OwnsNothing) (haccepted : Capturable p kernel)
    (hsure : sure → kernel.routing.OneRoutePerTable) :
    Proceeds sure (LeftBehind p kernel store) kernel store m (recoverOrphaned p)
      fun _ kernel' store' _ => kernel.routing.OneRoutePerTable ∧ kernel' = ⟨none, .empty⟩ ∧
        (store' = none ∨ kernel = ⟨none, .empty⟩ ∧ store' = store) := by
  refine Proceeds.load_bind (Or.inl ⟨rfl, Or.inl rfl⟩) ?_
  refine Proceeds.bind ((ensureReconciled_unclaimed_proceeds hunclaimed).keeping
    fun _ _ h => Or.inl h) ?_
  rintro _ kernel store' m' ⟨⟨rfl, hstore⟩, hm'⟩
  have hbegin : LeftBehind p kernel store kernel store' := Or.inl ⟨rfl, hstore⟩
  have hm' := hm' hm
  refine Proceeds.get_bind ?_
  refine Proceeds.require_bind (fun _ => ?_) fun _ => ?_
  · rw [hm'.current, hm'.legacy, hm'.legacyV2]
    exact ⟨rfl, rfl, rfl⟩
  refine Proceeds.bind (captureVerified_proceeds hbegin fun _ => haccepted) ?_
  rintro _ kernel _ _ ⟨rfl, -, rfl, rfl, rfl⟩
  have hexact : OrphanLeft p kernel.routing kernel ⟨kernel.fingerprint p, kernel.routing⟩ :=
    .exactly (.refl _) haccepted.marked
  dsimp only
  split
  · rename_i hnothing
    obtain ⟨hnone, hempty⟩ := hnothing
    have hkernel : kernel = ⟨none, .empty⟩ := by
      rw [← hempty, ← (show kernel.nft = none by simpa [KernelState.fingerprint] using hnone)]
    refine Proceeds.pure ⟨?_, hkernel, ?_⟩
    · rw [hempty]
      exact fun r hr => absurd hr (Finset.notMem_empty r)
    · exact hstore.elim (fun h => Or.inr ⟨hkernel, h⟩) Or.inl
  · refine Proceeds.save_bind (fun _ => hexact.fits hfits (.refl _)) hbegin
      (Or.inr hexact.recovering) ?_
    refine ((resumeOrphanCleanup_proceeds horder hfits hexact hsure).keeping
      fun _ _ h => Or.inr h).conseq ?_
    rintro _ _ _ _ ⟨hone, rfl, rfl, -⟩
    exact ⟨hone, rfl, Or.inl rfl⟩

/-- Whatever a recovery left behind, reconciling takes it up. -/
theorem ensureReconciled_leftBehind_proceeds {kernel' : KernelState}
    {store' : Option StoredAppliedState} (horder : p.Enumerates)
    (hfits : p.OrphansFit kernel.routing) (hunclaimed : Unclaimed p store)
    (hleft : LeftBehind p kernel store kernel' store')
    (hsure : sure → kernel.routing.OneRoutePerTable) :
    Proceeds sure (LeftBehind p kernel store) kernel' store' m (ensureReconciled p)
      fun _ kernel'' store'' _ => NotBegun kernel store kernel' store' ∨
        (kernel'' = ⟨none, .empty⟩ ∧ store'' = none) := by
  rcases hleft with ⟨rfl, hstore⟩ | ⟨ownership, rfl, hleft⟩ | ⟨rfl, rfl⟩
  · have hunclaimed' : Unclaimed p store' := by
      rcases hstore with rfl | rfl
      · exact hunclaimed
      · exact unclaimed_none p
    refine ((ensureReconciled_unclaimed_proceeds hunclaimed').keeping ?_).conseq ?_
    · rintro _ store'' ⟨rfl, hsame⟩
      refine Or.inl ⟨rfl, ?_⟩
      rcases hsame with rfl | rfl
      · exact hstore
      · exact Or.inr rfl
    · exact fun _ _ _ _ _ => Or.inl ⟨rfl, hstore⟩
  · refine ((ensureReconciled_orphan_proceeds horder hfits hleft
      fun hs => (hsure hs).part hleft.part).keeping fun _ _ h => Or.inr h).conseq ?_
    exact fun _ _ _ _ h => Or.inr h
  · refine ((ensureReconciled_unclaimed_proceeds (unclaimed_none p)).keeping ?_).conseq ?_
    · rintro _ _ ⟨rfl, hsame⟩
      exact Or.inr (Or.inr ⟨hsame.elim id id, rfl⟩)
    · rintro _ _ _ _ ⟨⟨rfl, hsame⟩, -⟩
      exact Or.inr ⟨rfl, hsame.elim id id⟩

end Recovery

/-! ## Completion -/

/-- An orphan is removed in one call, and a removal that was broken off is finished when the
journal is reconciled next.  Before the orphan is journaled everything is as it was, but for a
journal that told of nothing. -/
structure RecoveryCompletes (p : Primitives) (system : System) (m : Backend) : Prop where
  recovers : (undisturbed (recoverOrphaned p) system m).result = .ok ()
  removes : (undisturbed (recoverOrphaned p) system m).world.machine.kernel = ⟨none, .empty⟩
  clears : (undisturbed (recoverOrphaned p) system m).world.machine.store = none ∨
    (system.kernel = ⟨none, .empty⟩ ∧
      (undisturbed (recoverOrphaned p) system m).world.machine.store = system.store)
  resumes : ∀ left, Interrupted (recoverOrphaned p) (ensureReconciled p) system m left → ∀ m',
    (undisturbed (ensureReconciled p) left m').result = .ok ()
  finishes : ∀ left, Interrupted (recoverOrphaned p) (ensureReconciled p) system m left → ∀ m',
    NotBegun system.kernel system.store left.kernel left.store ∨
      (undisturbed (ensureReconciled p) left m').world.machine.kernel = ⟨none, .empty⟩ ∧
        (undisturbed (ensureReconciled p) left m').world.machine.store = none

section Completion

variable {p : Primitives} {system : System} {m : Backend}

theorem capturable_of_accepted {ownership : OrphanedOwnership}
    (h : (undisturbed (captureVerifiedOrphanedOwnership p) system m).result = .ok ownership) :
    Capturable p system.kernel := by
  have hcapture : Proceeds False (fun _ _ => True) system.kernel system.store m
      (captureVerifiedOrphanedOwnership p) fun ownership kernel' store' m' =>
        ownership = ⟨system.kernel.fingerprint p, system.kernel.routing⟩ ∧
        Capturable p system.kernel ∧ kernel' = system.kernel ∧ store' = system.store ∧ m' = m :=
    captureVerified_proceeds trivial False.elim
  exact (hcapture.returned h).2.1

theorem leftBehind_of_interrupted {left : System} (horder : p.Enumerates)
    (hfits : p.OrphansFit system.kernel.routing) (hunclaimed : Unclaimed p system.store)
    (hm : m.OwnsNothing) (haccepted : Capturable p system.kernel)
    (h : Interrupted (recoverOrphaned p) (ensureReconciled p) system m left) :
    LeftBehind p system.kernel system.store left.kernel left.store :=
  h.invariant (recoverOrphaned_proceeds horder hfits hunclaimed hm haccepted False.elim)
    fun _ _ hleft =>
      ensureReconciled_leftBehind_proceeds horder hfits hunclaimed hleft False.elim

/-- Recovery completes exactly where no two of the live routes share a table. -/
theorem recoveryCompletes_iff (horder : p.Enumerates)
    (hfits : p.OrphansFit system.kernel.routing) (hunclaimed : Unclaimed p system.store)
    (hm : m.OwnsNothing) (haccepted : ∃ ownership,
      (undisturbed (captureVerifiedOrphanedOwnership p) system m).result = .ok ownership) :
    RecoveryCompletes p system m ↔ system.kernel.routing.OneRoutePerTable := by
  obtain ⟨ownership, haccepted⟩ := haccepted
  have haccepted := capturable_of_accepted haccepted
  constructor
  · intro h
    have hrecover := recoverOrphaned_proceeds horder hfits hunclaimed hm haccepted False.elim
    exact (hrecover.returned h.recovers).1
  · intro hone
    have hrecover := recoverOrphaned_proceeds horder hfits hunclaimed hm haccepted
      fun _ : True => hone
    obtain ⟨_, hresult, -, hkernel, hstore⟩ := hrecover.completes
    have hresume : ∀ left, Interrupted (recoverOrphaned p) (ensureReconciled p) system m left →
        ∀ m', ∃ a, (undisturbed (ensureReconciled p) left m').result = .ok a ∧
          (NotBegun system.kernel system.store left.kernel left.store ∨
            (undisturbed (ensureReconciled p) left m').world.machine.kernel = ⟨none, .empty⟩ ∧
              (undisturbed (ensureReconciled p) left m').world.machine.store = none) := by
      intro left hleft m'
      have hleft := leftBehind_of_interrupted horder hfits hunclaimed hm haccepted hleft
      exact (ensureReconciled_leftBehind_proceeds horder hfits hunclaimed hleft
        fun _ => hone).completes
    exact ⟨hresult, hkernel, hstore,
      fun left hleft m' => (hresume left hleft m').elim fun _ h => h.1,
      fun left hleft m' => (hresume left hleft m').elim fun _ h => h.2⟩

/-! ### A table with one route, and one with two -/

/-- Sets come in some order, and digests do not matter. -/
noncomputable def someOrder : Primitives where
  blake3 := ⟨fun _ => "", id, fun _ => ""⟩
  toLowercase := id
  routingFingerprint _ := ""
  routingModelFingerprint _ _ := ""
  policyHash profile _ := profile.id
  tokenHash := id
  stateBytes _ := 0
  planBytes _ := 0
  activationBytes _ := 0
  domainErrorText _ := ""
  planErrorText _ := ""
  validationErrorText _ := ""
  conflicts _ _ := none
  conflictsForUpdate _ _ _ := none
  rulesInOrder := Finset.toList
  routesInOrder := Finset.toList
  orphanDocumentError _ := none
  legacyStateChain _ := .guard
  legacyNftFingerprint _ := ""
  legacyDocument _ _ _ := []

theorem someOrder_enumerates : someOrder.Enumerates :=
  ⟨Finset.nodup_toList, fun _ _ => Finset.mem_toList, Finset.nodup_toList,
    fun _ _ => Finset.mem_toList⟩

theorem someOrder_fits (captured : RoutingOwnership) : someOrder.OrphansFit captured :=
  fun _ _ _ => Nat.zero_le _

/-- The orphan of one lane: its table has its default route and the terminal one. -/
def laneOrphan (lane : Finset RouteOwnership) : System where
  kernel := ⟨some [.table none], lane, {⟨.v4, 10000, 20000, 0x524c0001⟩}⟩
  linkdown := []
  store := none
  syncFaults _ := false
  settings := ⟨fun _ => none, fun _ => none, fun _ => none⟩
  bootId := none
  networkNamespace := 1
  token := ""

theorem fresh_ownsNothing : Backend.fresh.OwnsNothing := ⟨rfl, rfl, rfl⟩

/-- The default route of the lane, and the route that keeps it closed. -/
def laneDefault : RouteOwnership := ⟨.v4, 20000, some (.v4 0xc0000201#32), "wg0", false⟩

def laneTerminal : RouteOwnership := ⟨.v4, 20000, none, "", true⟩

/-- An orphan whose table lost its default route is removed. -/
theorem recoveryCompletes_terminalOnly :
    RecoveryCompletes someOrder (laneOrphan {laneTerminal}) .fresh :=
  (recoveryCompletes_iff someOrder_enumerates (someOrder_fits _) (unclaimed_none _)
    fresh_ownsNothing ⟨⟨some "", (laneOrphan {laneTerminal}).kernel.routing⟩, rfl⟩).2 (by
      unfold RoutingOwnership.OneRoutePerTable
      decide)

/-- A whole lane cannot be recovered: its table is flushed a second time. -/
theorem recovery_wholeLane_fails :
    (∃ ownership, (undisturbed (captureVerifiedOrphanedOwnership someOrder)
      (laneOrphan {laneDefault, laneTerminal}) .fresh).result = .ok ownership) ∧
    (undisturbed (recoverOrphaned someOrder) (laneOrphan {laneDefault, laneTerminal})
      .fresh).result ≠ .ok () := by
  have haccepted : (undisturbed (captureVerifiedOrphanedOwnership someOrder)
      (laneOrphan {laneDefault, laneTerminal}) .fresh).result =
        .ok ⟨some "", (laneOrphan {laneDefault, laneTerminal}).kernel.routing⟩ := rfl
  refine ⟨⟨_, haccepted⟩, fun h => ?_⟩
  have hrecover := recoverOrphaned_proceeds someOrder_enumerates (someOrder_fits _)
    (unclaimed_none _) fresh_ownsNothing
    (capturable_of_accepted haccepted) False.elim
  have hone := (hrecover.returned h).1
  have hsame := hone laneDefault (by decide) laneTerminal (by decide) rfl rfl
  exact absurd hsame (by decide)

end Completion

end RouteLane
