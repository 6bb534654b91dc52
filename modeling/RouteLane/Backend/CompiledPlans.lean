import RouteLane.Policy.PlannerSemantics
import RouteLane.Backend.FailedRefresh

/-!
# What the helper thinks of a compiled plan

The compiler checks a profile, the helper checks the plan.  Both count rules, but a rule
of the profile becomes one rule of the plan for each family and each resolved address, and
repeated verdicts are dropped.  `compiled_plan_accepted_iff` says which profiles end in a
plan the helper accepts.
-/

namespace RouteLane

open Fallible FirstMatch

/-- What decides a packet. -/
abbrev RoutingKey := IpFamily × CompiledTarget × CompiledAction

section Verdicts

variable (profile : Profile) (topology : TopologySnapshot) (resolutions : ResolutionSnapshot)
  (primary : PrimaryDecision)

/-- The verdicts a rule of the profile expands to. -/
def expansion (rule : Rule) : Set RoutingKey :=
  {verdict | ∃ targets, compileTargets resolutions rule = .ok targets ∧
    ∃ target ∈ targets, ∃ family ∈ targetFamilies target, ∃ action,
      compileAction (profileLanesById profile.lanes)
        (lanesById (compileLanes topology profile.lanes)) primary family rule.action =
          .ok (some action) ∧
      verdict = (family, target.canonical, action)}

/-- The verdicts the enabled rules expand to. -/
def verdicts : Set RoutingKey :=
  {verdict | ∃ rule ∈ profile.rules, rule.enabled = true ∧
    verdict ∈ expansion profile topology resolutions primary rule}

/-- The enabled rules expand to few enough verdicts, and none is for the application of a
rule without an id. -/
structure FitsHelper : Prop where
  count : (verdicts profile topology resolutions primary).encard ≤ maxRules
  named : ∀ family action,
    (family, .cgroup (applicationCgroup ""), action) ∉
      verdicts profile topology resolutions primary

end Verdicts

/-- `[A-Za-z0-9_-]`. -/
def isIdCharacter (c : Char) : Bool := c.isAlphanum || c == '-' || c == '_'

/-- The ids of application rules can be part of the name of a cgroup. -/
def ApplicationIdsFit (profile : Profile) : Prop :=
  ∀ rule ∈ profile.rules, rule.source ≠ .any → rule.id.toList.all isIdCharacter = true

section Compiled

variable {toLowercase : String → String} {profile : Profile} {topology : TopologySnapshot}
  {resolutions : ResolutionSnapshot} {primary : PrimaryDecision} {generation : ℕ}
  {plan : KernelPlan} {compiled : List CompiledRule}

theorem isRoutelaneApplicationCgroup_applicationCgroup (id : RuleId) :
    isRoutelaneApplicationCgroup (applicationCgroup id) =
      (!id.toList.isEmpty && id.toList.all isIdCharacter) := by
  have hlist : (applicationCgroup id).toList = "routelane.apps/".toList ++ id.toList := by
    simp [applicationCgroup]
  unfold isRoutelaneApplicationCgroup
  rw [hlist, List.drop_left]
  have hroot : "routelane.apps/".toList.isPrefixOf ("routelane.apps/".toList ++ id.toList) =
      true := by simp
  rw [hroot]
  rfl

variable (c : Compiles toLowercase profile topology resolutions primary generation plan compiled)

include c

/-- The verdicts of the compiled rules, repeated ones included, are those the enabled rules
expand to. -/
theorem routingKeys_compiled :
    {key | key ∈ compiled.map CompiledRule.routingKey} =
      verdicts profile topology resolutions primary := by
  have hrules := c.rules_eq
  rw [compileRules] at hrules
  ext key
  simp only [Set.mem_ofPred_eq, List.mem_map, verdicts, expansion]
  constructor
  · rintro ⟨r, hr, rfl⟩
    obtain ⟨rule, hrule, out, hout, hr⟩ := mem_collect hrules hr
    obtain ⟨hmem, henabled⟩ := mem_executionOrder.1 hrule
    obtain ⟨targets, htargets, target, htarget, family, hfamily, action, haction, rfl⟩ :=
      (mem_compileRule hout).1 hr
    exact ⟨rule, hmem, henabled, targets, htargets, target, htarget, family, hfamily, action,
      haction, rfl⟩
  · rintro ⟨rule, hmem, henabled, targets, htargets, target, htarget, family, hfamily, action,
      haction, rfl⟩
    obtain ⟨out, hout, hsub⟩ := step_of_collect hrules (mem_executionOrder.2 ⟨hmem, henabled⟩)
    refine ⟨compiledRule rule target family action, hsub ((mem_compileRule hout).2 ?_), rfl⟩
    exact ⟨targets, htargets, target, htarget, family, hfamily, action, haction, rfl⟩

/-- The plan has one rule for each verdict. -/
theorem length_rules :
    (plan.rules.length : ℕ∞) = (verdicts profile topology resolutions primary).encard := by
  have hset : {key | key ∈ compiled.map CompiledRule.routingKey} =
      ↑(compiled.map CompiledRule.routingKey).toFinset := by
    ext key
    simp
  rw [← routingKeys_compiled c, hset, Set.encard_coe_eq_coe_finsetCard, c.plan_eq,
    length_retainNew]

theorem rules_le_iff :
    plan.rules.length ≤ maxRules ↔
      (verdicts profile topology resolutions primary).encard ≤ maxRules := by
  rw [← length_rules c, Nat.cast_le]

omit c in
/-- A mark is the mark of a lane. -/
theorem mark_of_compileAction (hnd : (profile.lanes.map Lane.id).Nodup) {family : IpFamily}
    {action : RuleAction} {mark : ℕ}
    (h : compileAction (profileLanesById profile.lanes)
      (lanesById (compileLanes topology profile.lanes)) primary family action =
        .ok (some (.mark mark))) :
    ∃ lane ∈ compileLanes topology profile.lanes, lane.mark = mark := by
  obtain ⟨lane, hlane, hmark, -⟩ := lane_of_compileAction hnd h
  exact ⟨lane, hlane, hmark⟩

omit c in
theorem length_compileLanes (lanes : List Lane) :
    (compileLanes topology lanes).length = lanes.length := by
  rw [compileLanes, List.length_map, List.length_zipIdx]
  exact (perm_sortedLanes lanes).length_eq

omit c in
/-- Slots tell the lanes apart. -/
theorem nodup_slots {key : LanePlan → ℕ} {base : ℕ} (lanes : List Lane)
    (hkey : ∀ lane slot, key (compileLane topology lane slot) = base + slot) :
    ((compileLanes topology lanes).map key).Nodup := by
  have hmap : (compileLanes topology lanes).map key =
      (List.range' 0 (sortedLanes lanes).length).map (base + ·) := by
    rw [compileLanes, List.map_map, ← List.zipIdx_map_snd 0 (sortedLanes lanes), List.map_map]
    exact List.map_congr_left fun slotted _ => hkey slotted.1 slotted.2
  rw [hmap]
  exact (List.nodup_range' ..).map fun a b h => by simpa using h

theorem inRange_of_mem
    (hinterfaces : ∀ lane ∈ profile.lanes, isKernelInterfaceName lane.interface = true)
    {lanePlan : LanePlan} (h : lanePlan ∈ plan.lanes) : lanePlan.InRange := by
  have hlanes := (validateProfile_ok c.valid).1
  rw [c.lanes_eq] at h
  obtain ⟨lane, slot, hget, rfl⟩ := mem_compileLanes.1 h
  have hmem : lane ∈ profile.lanes :=
    (perm_sortedLanes _).mem_iff.1 (List.mem_iff_getElem?.2 ⟨slot, hget⟩)
  have hslot : slot < 100 := by
    have := (List.getElem?_eq_some_iff.1 hget).1
    rw [(perm_sortedLanes profile.lanes).length_eq] at this
    omega
  refine ⟨?_, ?_, ?_, hinterfaces lane hmem⟩
  · simp only [compileLane, tableBase, tableMax]
    omega
  · simp only [compileLane, markBase, markMax]
    omega
  · simp only [compileLane, rulePriorityBase, rulePriorityMax]
    omega

omit c in
/-- Only an application rule has a cgroup for its target. -/
theorem cgroup_mem_compileTargets {rule : Rule} {targets : List CompiledTarget} {path : String}
    (h : compileTargets resolutions rule = .ok targets) (hmem : .cgroup path ∈ targets) :
    rule.source ≠ .any ∧ path = applicationCgroup rule.id := by
  unfold compileTargets at h
  split at h
  · rename_i selector target hsource
    obtain rfl := Except.ok.inj h
    exact ⟨by simp [hsource], by simpa using hmem⟩
  · obtain rfl := Except.ok.inj h
    simp at hmem
  · obtain rfl := Except.ok.inj h
    simp at hmem
  · obtain rfl := Except.ok.inj h
    simp at hmem
  · split at h
    · cases h
    · obtain rfl := Except.ok.inj h
      simp at hmem
  · cases h
  · cases h

/-- The cgroups of the plan are RouteLane's exactly when no application rule without an id
has a verdict. -/
theorem cgroups_iff (hids : ApplicationIdsFit profile) :
    (∀ rule ∈ plan.rules, ∀ path, rule.target = .cgroup path →
        isRoutelaneApplicationCgroup path = true) ↔
      ∀ family action, (family, .cgroup (applicationCgroup ""), action) ∉
        verdicts profile topology resolutions primary := by
  constructor
  · rintro hcgroups family action ⟨rule, hmem, henabled, targets, htargets, target, htarget,
      family', hfamily, action', haction, heq⟩
    have hkey : (family, CompiledTarget.cgroup (applicationCgroup ""), action) ∈
        (plan.rules.map CompiledRule.routingKey) := by
      have hset : (family, CompiledTarget.cgroup (applicationCgroup ""), action) ∈
          {key | key ∈ compiled.map CompiledRule.routingKey} := by
        rw [routingKeys_compiled c]
        exact ⟨rule, hmem, henabled, targets, htargets, target, htarget, family', hfamily,
          action', haction, heq⟩
      rw [c.plan_eq]
      exact mem_map_retainNew.2 ⟨hset, List.not_mem_nil⟩
    obtain ⟨r, hr, hkey⟩ := List.mem_map.1 hkey
    have htarget' : r.target = .cgroup (applicationCgroup "") := by
      have hcanonical : r.target.canonical = .cgroup (applicationCgroup "") :=
        congrArg (·.2.1) hkey
      cases h : r.target with
      | any => simp [h, CompiledTarget.canonical] at hcanonical
      | network net => simp [h, CompiledTarget.canonical] at hcanonical
      | cgroup path => simpa [h, CompiledTarget.canonical] using hcanonical
    have haccepted := hcgroups r hr _ htarget'
    rw [isRoutelaneApplicationCgroup_applicationCgroup] at haccepted
    simp at haccepted
  · intro hnamed r hr path htarget
    obtain ⟨rule, hmem, henabled, targets, htargets, target, hmemTarget, family, hfamily, action,
      haction, rfl⟩ := c.exists_rule_of_mem hr
    obtain rfl : target = .cgroup path := htarget
    obtain ⟨hsource, rfl⟩ := cgroup_mem_compileTargets htargets hmemTarget
    rw [isRoutelaneApplicationCgroup_applicationCgroup, hids rule hmem hsource, Bool.and_true,
      Bool.not_eq_true']
    by_contra hempty
    have hid : rule.id = "" := by
      rw [← String.toList_inj]
      simpa using hempty
    exact hnamed family action ⟨rule, hmem, henabled, targets, htargets, _, hmemTarget, family,
      hfamily, action, haction, by rw [hid]; rfl⟩

end Compiled

/-- Rules with distinct keys have no duplicate among them. -/
theorem firstDuplicate_of_nodup :
    ∀ {rules : List CompiledRule} {seen : List RoutingKey},
      (rules.map CompiledRule.routingKey).Nodup →
      (∀ rule ∈ rules, rule.routingKey ∉ seen) →
      validateNewPlanRules.firstDuplicate seen rules = none := by
  intro rules
  induction rules with
  | nil => intro seen _ _; rfl
  | cons rule rest ih =>
    intro seen hnodup hfresh
    rw [List.map_cons, List.nodup_cons] at hnodup
    rw [validateNewPlanRules.firstDuplicate, if_neg (hfresh rule List.mem_cons_self)]
    refine ih hnodup.2 fun other hother hmem => ?_
    rcases List.mem_cons.1 hmem with heq | hmem
    · exact hnodup.1 (heq ▸ List.mem_map_of_mem hother)
    · exact hfresh other (List.mem_cons_of_mem _ hother) hmem

/-- **Which compiled plans the helper accepts**: those of profiles whose enabled rules
expand to no more verdicts than a plan may have rules. -/
theorem compiled_plan_accepted_iff (p : Primitives) {toLowercase : String → String}
    {profile : Profile} {topology : TopologySnapshot} {resolutions : ResolutionSnapshot}
    {primary : PrimaryDecision} {generation : ℕ} {plan : KernelPlan}
    (hinterfaces : ∀ lane ∈ profile.lanes, isKernelInterfaceName lane.interface = true)
    (hids : ApplicationIdsFit profile) (hgeneration : generation ≠ 0)
    (h : compileProfileWithPrimary toLowercase profile topology resolutions primary generation =
      .ok plan) :
    validatePrivilegedPlan plan = .ok () ∧ validateNewPlanRules p plan = .ok () ↔
      FitsHelper profile topology resolutions primary := by
  obtain ⟨compiled, c⟩ := compileProfileWithPrimary_eq_ok h
  have hnew : validateNewPlanRules p plan = .ok () := by
    have hnodup : (plan.rules.map CompiledRule.routingKey).Nodup := by
      rw [c.plan_eq]
      exact nodup_retainNew
    rw [validateNewPlanRules, firstDuplicate_of_nodup hnodup fun _ _ => List.not_mem_nil]
  rw [validatePrivilegedPlan_eq_ok]
  constructor
  · rintro ⟨hwf, -⟩
    exact ⟨(rules_le_iff c).1 hwf.rules_le, (cgroups_iff c hids).1 hwf.cgroups⟩
  · intro hfits
    refine ⟨?_, hnew⟩
    exact
      { generation_ne_zero := by rw [c.plan_eq]; exact hgeneration
        lanes_le := by
          rw [c.lanes_eq, length_compileLanes]
          exact (validateProfile_ok c.valid).1
        rules_le := (rules_le_iff c).2 hfits.count
        inRange := fun lane hlane => inRange_of_mem c hinterfaces hlane
        ids_nodup := by rw [c.lanes_eq]; exact compileLanes_ids_nodup c.ids_nodup
        tables_nodup := by rw [c.lanes_eq]; exact nodup_slots _ fun _ _ => rfl
        marks_nodup := by rw [c.lanes_eq]; exact nodup_slots _ fun _ _ => rfl
        priorities_nodup := by rw [c.lanes_eq]; exact nodup_slots _ fun _ _ => rfl
        cgroups := (cgroups_iff c hids).2 hfits.named
        marks_known := by
          intro r hr mark hmark
          obtain ⟨rule, -, -, targets, -, target, -, family, -, action, haction, rfl⟩ :=
            c.exists_rule_of_mem hr
          obtain rfl : action = .mark mark := hmark
          rw [c.lanes_eq]
          exact mark_of_compileAction c.ids_nodup haction }

/-- The profile with a stand-in for its first lane compiles to a plan that fits. -/
theorem compiled_plan_accepted_standIn :
    FitsHelper standInProfile standInTopology ⟨.empty⟩ noPrimary := by
  have h : compileProfileWithPrimary countPrimitives.toLowercase standInProfile standInTopology
      ⟨.empty⟩ noPrimary 1 = .ok standInPlan := by decide
  have hids : ApplicationIdsFit standInProfile := fun rule hrule hsource => by
    obtain rfl := List.mem_singleton.1 hrule
    exact absurd rfl hsource
  exact (compiled_plan_accepted_iff countPrimitives (by decide) hids (by decide) h).1
    ⟨by decide, rfl⟩

/-! ## A name with many addresses -/

/-- One rule, for a domain. -/
def crowdedRule : Rule := ⟨"r", true, 10, .any, .domain "crowded.example", .block⟩

def crowdedProfile : Profile :=
  ⟨"p", "P", true, [], [crowdedRule], ⟨.preserveSystem, .followSystemDefault, [], false⟩⟩

def hostNetwork (i : ℕ) : IpNet := .ofAddr (.v4 (BitVec.ofNat 32 i))

def resolvedTo (networks : List IpNet) : ResolutionSnapshot := ⟨.ofList [("r", networks)]⟩

/-- The domain resolves to one address more than a plan may have rules. -/
def crowdedResolutions : ResolutionSnapshot :=
  resolvedTo ((List.range (maxRules + 1)).map hostNetwork)

/-- The verdict on one of the addresses. -/
def hostKey (i : ℕ) : RoutingKey := (.v4, .network (hostNetwork i).trunc.trunc, .block)

theorem hostKey_injOn : Set.InjOn hostKey (Finset.range (maxRules + 1)) := by
  intro i hi j hj h
  have htrunc : (hostNetwork i).trunc.trunc = (hostNetwork j).trunc.trunc := by
    simpa [hostKey] using h
  have hself : (hostNetwork j).trunc.trunc.contains (.v4 (BitVec.ofNat 32 j)) = true := by
    simp [hostNetwork]
  rw [← htrunc] at hself
  have haddr : BitVec.ofNat 32 j = BitVec.ofNat 32 i := by simpa [hostNetwork] using hself
  have hnat := congrArg BitVec.toNat haddr
  have hi' : i < maxRules + 1 := by simpa using hi
  have hj' : j < maxRules + 1 := by simpa using hj
  simp only [BitVec.toNat_ofNat, maxRules] at hnat hi' hj'
  omega

/-- The targets of the rule are the networks its domain resolves to. -/
theorem compileTargets_crowdedRule (networks : List IpNet) :
    ∃ targets, compileTargets (resolvedTo networks) crowdedRule = .ok targets ∧
      ∀ network ∈ networks, .network network.trunc ∈ targets := by
  refine ⟨_, rfl, fun network hnetwork => ?_⟩
  refine List.mem_map_of_mem ?_
  exact mem_sorted_dedup.2 (List.mem_map_of_mem hnetwork)

theorem compileProfile_crowded (networks : List IpNet) :
    ∃ plan, compileProfileWithPrimary id crowdedProfile (bareTopology []) (resolvedTo networks)
      noPrimary 1 = .ok plan := by
  obtain ⟨targets, htargets, -⟩ := compileTargets_crowdedRule networks
  have hrule : ∃ out, compileRule (resolvedTo networks) (profileLanesById crowdedProfile.lanes)
      (lanesById (compileLanes (bareTopology []) crowdedProfile.lanes)) noPrimary crowdedRule =
        .ok out := by
    -- blocking is a verdict for every target and family
    refine ⟨targets.flatMap fun target => (targetFamilies target).flatMap fun family =>
      [compiledRule crowdedRule target family .block], bind_eq_ok.2 ⟨targets, htargets, ?_⟩⟩
    exact collect_eq_flatMap fun target _ => collect_eq_flatMap fun family _ => rfl
  obtain ⟨out, hout⟩ := hrule
  have hrules : compileRules (bareTopology []) (resolvedTo networks) noPrimary crowdedProfile =
      .ok (out ++ []) := collect_cons_eq_ok.2 ⟨out, [], hout, rfl, rfl⟩
  refine ⟨⟨noPrimary, (bareTopology []).connectedNetworks, [], 1, "p", [],
    retainNew CompiledRule.routingKey [] (out ++ [])⟩, ?_⟩
  rw [compileProfileWithPrimary]
  simp only [check_eq_ok, failIf_eq_ok]
  exact ⟨by decide, rfl, rfl, rfl, bind_eq_ok.2 ⟨_, hrules, rfl⟩⟩

theorem verdicts_crowded :
    ¬(verdicts crowdedProfile (bareTopology []) crowdedResolutions noPrimary).encard ≤
      maxRules := by
  intro hcount
  obtain ⟨targets, htargets, hmem⟩ :=
    compileTargets_crowdedRule ((List.range (maxRules + 1)).map hostNetwork)
  have hsub : hostKey '' ↑(Finset.range (maxRules + 1)) ⊆
      verdicts crowdedProfile (bareTopology []) crowdedResolutions noPrimary := by
    rintro _ ⟨i, hi, rfl⟩
    have hi' : i ∈ List.range (maxRules + 1) := by simpa using hi
    refine ⟨crowdedRule, List.mem_singleton.2 rfl, rfl, targets, htargets, _,
      hmem _ (List.mem_map_of_mem hi'), .v4, ?_, .block, rfl, rfl⟩
    simp [targetFamilies, hostNetwork, IpAddr.family]
  have hcard := (Set.encard_le_encard hsub).trans hcount
  rw [hostKey_injOn.encard_image, Set.encard_coe_eq_coe_finsetCard, Finset.card_range,
    Nat.cast_le] at hcard
  exact absurd hcard (by omega)

/-- A valid profile, compiled, that the helper refuses. -/
theorem crowded_plan_refused :
    ∃ plan, compileProfileWithPrimary id crowdedProfile (bareTopology []) crowdedResolutions
        noPrimary 1 = .ok plan ∧
      (∀ lane ∈ crowdedProfile.lanes, isKernelInterfaceName lane.interface = true) ∧
      ApplicationIdsFit crowdedProfile ∧
      ¬(validatePrivilegedPlan plan = .ok () ∧ validateNewPlanRules countPrimitives plan = .ok ()) := by
  obtain ⟨plan, hplan⟩ := compileProfile_crowded ((List.range (maxRules + 1)).map hostNetwork)
  have hinterfaces : ∀ lane ∈ crowdedProfile.lanes,
      isKernelInterfaceName lane.interface = true := fun lane hlane => by cases hlane
  have hids : ApplicationIdsFit crowdedProfile := fun rule hrule hsource => by
    obtain rfl := List.mem_singleton.1 hrule
    exact absurd rfl hsource
  refine ⟨plan, hplan, hinterfaces, hids, fun haccepted => verdicts_crowded ?_⟩
  obtain ⟨compiled, c⟩ := compileProfileWithPrimary_eq_ok hplan
  exact (rules_le_iff c).1 (validatePrivilegedPlan_eq_ok.1 haccepted.1).rules_le

end RouteLane
