import RouteLane.Health.Probes
import RouteLane.Kernel.RoutingSteps
import RouteLane.Nft.MarkedFlows

/-!
# What a clean report vouches for

A plan installs for every lane, in both families, a terminal route and a policy rule, and
a default route where the lane has one.  The probes look at a lane in the families in which
it has a default route, and at nothing but that route and the rule: the report comes back
clean whatever became of the terminal routes, and of a family without a default route.
-/

namespace RouteLane

/-! ## The resources of a plan in a snapshot -/

/-- The entry is this route of the table. -/
def Inspect.RouteEntry.isOwned (entry : Inspect.RouteEntry) (f : IpFamily) (table : ℕ) :
    OwnedRoute → Bool
  | .unicast gateway interface => entry.matchesDefault f table gateway interface
  | .terminal => entry.matchesTerminal f table

/-- What `install_steps` holds for one lane and one family. -/
def laneInstallSteps (lane : LanePlan) (f : IpFamily) : List RoutingStep :=
  laneRouteSteps none lane f ++ [ruleStep lane f]

theorem mem_installSteps {plan : KernelPlan} {step : RoutingStep} :
    step ∈ installSteps plan ↔ ∃ lane ∈ plan.lanes, ∃ f, step ∈ laneInstallSteps lane f := by
  have hrules : (installRules plan).filter (fun rule => rule ∉ previousRules none) =
      installRules plan := by simp [previousRules]
  rw [installSteps, transitionSteps, hrules, List.mem_append, mem_installRules]
  constructor
  · intro h
    rcases h with h | ⟨lane, hlane, f, rfl⟩
    · obtain ⟨lane, hlane, h⟩ := List.mem_flatMap.1 h
      obtain ⟨f, -, h⟩ := List.mem_flatMap.1 h
      exact ⟨lane, hlane, f, List.mem_append_left _ h⟩
    · exact ⟨lane, hlane, f, by simp [laneInstallSteps]⟩
  · rintro ⟨lane, hlane, f, h⟩
    rcases List.mem_append.1 h with h | h
    · left
      exact List.mem_flatMap.2 ⟨lane, hlane, List.mem_flatMap.2 ⟨f, mem_families f, h⟩⟩
    · right
      exact ⟨lane, hlane, f, List.mem_singleton.1 h⟩

namespace KernelSnapshot

/-- What a step creates is there, once; a rule has its priority for itself. -/
def Holds (snapshot : KernelSnapshot) : RoutingStep → Prop
  | .replaceRoute f table route =>
    ∃ entry, snapshot.routes.filter (fun entry => entry.isOwned f table route) = [entry]
  | .addRule f priority table mark =>
    ∃ rule, snapshot.rules.filter (fun rule => rule.family == f && rule.priority == priority) =
        [rule] ∧ rule.matchesPolicy f priority table mark = true
  | .deleteRoute _ _ _ | .deleteRule _ _ _ _ | .flushTable _ _ => True

/-- Everything a lane installs in a family is there, and nothing else is in its table. -/
def HoldsLane (snapshot : KernelSnapshot) (lane : LanePlan) (f : IpFamily) : Prop :=
  (∀ step ∈ laneInstallSteps lane f, snapshot.Holds step) ∧
    ∀ entry ∈ snapshot.routes, entry.family = f → entry.table = lane.table →
      ∃ route, .replaceRoute f lane.table route ∈ laneInstallSteps lane f ∧
        entry.isOwned f lane.table route = true

/-- The snapshot is that of a kernel which holds exactly the plan. -/
def HoldsPlan (blake3 : Blake3) (snapshot : KernelSnapshot) (plan : KernelPlan) : Prop :=
  snapshot.nftIsOwnedBy blake3 plan = true ∧
    ∀ lane ∈ plan.lanes, ∀ f, snapshot.HoldsLane lane f

/-- The default route of a lane in a family, if it has one, is there exactly, and so is its
rule then. -/
def Probed (snapshot : KernelSnapshot) (lane : LanePlan) (f : IpFamily) : Prop :=
  ∀ gateway, laneUnicastRoute lane f = some (.unicast gateway lane.interface) →
    snapshot.routeState f lane.table gateway lane.interface = .exact ∧
      snapshot.ruleState f lane.rulePriority lane.table lane.mark = .exact

/-- The terminal route is there; without a default route so is the rule, and nothing else
is in the table. -/
def Unprobed (snapshot : KernelSnapshot) (lane : LanePlan) (f : IpFamily) : Prop :=
  (∃ entry, snapshot.routes.filter (fun entry => entry.matchesTerminal f lane.table) =
      [entry]) ∧
    (laneUnicastRoute lane f = none →
      snapshot.ruleState f lane.rulePriority lane.table lane.mark = .exact ∧
        ∀ entry ∈ snapshot.routes, entry.family = f → entry.table = lane.table →
          entry.matchesTerminal f lane.table = true)

variable {snapshot : KernelSnapshot} {lane : LanePlan} {f : IpFamily}

theorem holds_ruleStep :
    snapshot.Holds (ruleStep lane f) ↔
      snapshot.ruleState f lane.rulePriority lane.table lane.mark = .exact :=
  ResourceState.of_eq_exact.symm

theorem probed_of_none (h : laneUnicastRoute lane f = none) : snapshot.Probed lane f := by
  simp [Probed, h]

theorem probed_iff_of_some {gateway : Option IpAddr}
    (h : laneUnicastRoute lane f = some (.unicast gateway lane.interface)) :
    snapshot.Probed lane f ↔
      snapshot.routeState f lane.table gateway lane.interface = .exact ∧
        snapshot.ruleState f lane.rulePriority lane.table lane.mark = .exact := by
  simp [Probed, h]

/-- A default route is in its table, and not the terminal route. -/
theorem matchesDefault_eq_and (entry : Inspect.RouteEntry) (table : ℕ) (gateway : Option IpAddr)
    (interface : String) :
    entry.matchesDefault f table gateway interface =
      (entry.matchesDefault f table gateway interface &&
        (entry.family == f && entry.table == table && !entry.matchesTerminal f table)) := by
  by_cases hdefault : entry.matchesDefault f table gateway interface = true
  · obtain ⟨hfamily, htable⟩ := Inspect.RouteEntry.matchesDefault_place hdefault
    have hterminal : entry.matchesTerminal f table = false := by
      by_contra hterminal
      rw [Bool.not_eq_false] at hterminal
      rw [Inspect.RouteEntry.matchesDefault_eq_false hterminal] at hdefault
      exact nomatch hdefault
    simp [hfamily, htable, hterminal]
  · simp [hdefault]

/-- The default route is exact when it is there once and shares its table with nothing but
the terminal route. -/
theorem routeState_eq_exact {table : ℕ} {gateway : Option IpAddr} {interface : String} :
    snapshot.routeState f table gateway interface = .exact ↔
      (∃ entry, snapshot.routes.filter
          (fun entry => entry.matchesDefault f table gateway interface) = [entry]) ∧
        ∀ entry ∈ snapshot.routes, entry.family = f → entry.table = table →
          entry.matchesDefault f table gateway interface = true ∨
            entry.matchesTerminal f table = true := by
  rw [routeState, ResourceState.of_eq_exact]
  constructor
  · rintro ⟨entry, hentries, hdefault⟩
    refine ⟨⟨entry, ?_⟩, fun other hmem hfamily htable => ?_⟩
    · have hinside : snapshot.routes.filter
            (fun entry => entry.matchesDefault f table gateway interface) =
          (snapshot.routes.filter fun route => route.family == f && route.table == table &&
            !route.matchesTerminal f table).filter
            (fun entry => entry.matchesDefault f table gateway interface) := by
        rw [List.filter_filter]
        exact List.filter_congr fun other _ => matchesDefault_eq_and other table _ _
      rw [hinside, hentries]
      simp [hdefault]
    · by_cases hterminal : other.matchesTerminal f table = true
      · exact Or.inr hterminal
      · left
        have hother : other ∈ [entry] := by
          rw [← hentries]
          simp [hmem, hfamily, htable, hterminal]
        rwa [List.mem_singleton.1 hother]
  · rintro ⟨⟨entry, hentries⟩, hothers⟩
    refine ⟨entry, ?_, ?_⟩
    · rw [← hentries]
      refine List.filter_congr fun other hmem => ?_
      by_cases hplace : other.family = f ∧ other.table = table
      · have hother := hothers other hmem hplace.1 hplace.2
        rw [matchesDefault_eq_and]
        by_cases hterminal : other.matchesTerminal f table = true
        · simp [hterminal]
        · simp [hplace, hother.resolve_right hterminal, hterminal]
      · rw [matchesDefault_eq_and]
        by_cases hdefault : other.matchesDefault f table gateway interface = true
        · exact absurd (Inspect.RouteEntry.matchesDefault_place hdefault) hplace
        · have hoff : (other.family == f && other.table == table) = false := by
            simpa using hplace
          simp [hoff]
    · have hentry : entry ∈ snapshot.routes.filter
          (fun entry => entry.matchesDefault f table gateway interface) :=
        hentries ▸ List.mem_singleton_self entry
      exact (List.mem_filter.1 hentry).2

/-- A lane is held in a family when what the probes look at is right, and what they do not
look at as well. -/
theorem holdsLane_iff :
    snapshot.HoldsLane lane f ↔ snapshot.Probed lane f ∧ snapshot.Unprobed lane f := by
  cases hroute : laneUnicastRoute lane f with
  | none =>
    have hsteps : laneInstallSteps lane f =
        [.replaceRoute f lane.table .terminal, ruleStep lane f] := by
      simp [laneInstallSteps, laneRouteSteps_none, hroute]
    rw [iff_true_intro (probed_of_none hroute), true_and]
    constructor
    · rintro ⟨hheld, hothers⟩
      rw [hsteps] at hheld hothers
      refine ⟨hheld _ List.mem_cons_self, fun _ => ⟨?_, fun entry hmem hfamily htable => ?_⟩⟩
      · exact holds_ruleStep.1 (hheld _ (by simp))
      · obtain ⟨route, hstep, howned⟩ := hothers entry hmem hfamily htable
        obtain rfl : route = .terminal := by simpa [ruleStep] using hstep
        exact howned
    · rintro ⟨hterminal, hrest⟩
      obtain ⟨hrule, hothers⟩ := hrest hroute
      rw [HoldsLane, hsteps]
      refine ⟨fun step hstep => ?_, fun entry hmem hfamily htable => ?_⟩
      · rcases List.mem_pair.1 hstep with rfl | rfl
        · exact hterminal
        · exact holds_ruleStep.2 hrule
      · exact ⟨.terminal, List.mem_cons_self, hothers entry hmem hfamily htable⟩
  | some route =>
    obtain ⟨gateway, rfl⟩ := exists_gateway_of_laneUnicastRoute hroute
    have hsteps : laneInstallSteps lane f =
        [.replaceRoute f lane.table (.unicast gateway lane.interface),
          .replaceRoute f lane.table .terminal, ruleStep lane f] := by
      simp [laneInstallSteps, laneRouteSteps_none, hroute]
    constructor
    · rintro ⟨hheld, hothers⟩
      rw [hsteps] at hheld hothers
      have hterminal := hheld (.replaceRoute f lane.table .terminal) (by simp)
      refine ⟨fun gateway' hgateway => ?_, hterminal, by simp [hroute]⟩
      obtain rfl : gateway = gateway' := by simpa [hroute] using hgateway
      refine ⟨routeState_eq_exact.2 ⟨hheld _ List.mem_cons_self, ?_⟩,
        holds_ruleStep.1 (hheld _ (by simp))⟩
      intro entry hmem hfamily htable
      obtain ⟨route, hstep, howned⟩ := hothers entry hmem hfamily htable
      have hwhich : route = .unicast gateway lane.interface ∨ route = .terminal := by
        simpa [ruleStep] using hstep
      rcases hwhich with rfl | rfl
      · exact Or.inl howned
      · exact Or.inr howned
    · rintro ⟨hprobed, hterminal, _⟩
      obtain ⟨hexact, hrule⟩ := hprobed gateway hroute
      obtain ⟨hdefault, hothers⟩ := routeState_eq_exact.1 hexact
      rw [HoldsLane, hsteps]
      refine ⟨fun step hstep => ?_, fun entry hmem hfamily htable => ?_⟩
      · simp only [List.mem_cons, List.not_mem_nil, or_false] at hstep
        rcases hstep with rfl | rfl | rfl
        · exact hdefault
        · exact hterminal
        · exact holds_ruleStep.2 hrule
      · rcases hothers entry hmem hfamily htable with howned | howned
        · exact ⟨_, List.mem_cons_self, howned⟩
        · exact ⟨.terminal, by simp, howned⟩

end KernelSnapshot

/-! ## What the probes find -/

/-- The codes that say a resource of RouteLane is not as the plan has it. -/
def DiagnosticCode.conflicts (code : DiagnosticCode) : Bool :=
  code == .nftablesFeatureMissing || code == .routingResourceConflict

namespace Findings

/-- A diagnostic says that a resource of RouteLane is not as the plan has it. -/
def conflicts (findings : Findings) : Bool :=
  findings.diagnostics.any fun diagnostic => diagnostic.code.conflicts

variable (findings : Findings) (texts : ProbeTexts) (lane : LanePlan) (snapshot : KernelSnapshot)

theorem conflicts_degrade (code : DiagnosticCode) (summary technicalDetail action : String) :
    (findings.degrade lane code summary technicalDetail action).conflicts =
      (findings.conflicts || code.conflicts) := by
  simp [conflicts, degrade]

/-- An interface that is missing or a route that leads nowhere is no conflict. -/
theorem conflicts_degrade_lane {code : DiagnosticCode} (hcode : code.conflicts = false)
    (summary technicalDetail action : String) :
    (findings.degrade lane code summary technicalDetail action).conflicts =
      findings.conflicts := by
  rw [conflicts_degrade, hcode, Bool.or_false]

theorem conflicts_diagnoseResource (family resource : String) (state : ResourceState) :
    (findings.diagnoseResource lane family resource state).conflicts =
      (findings.conflicts || state != .exact) := by
  cases state with
  | exact => exact (Bool.or_false _).symm
  | missing => exact conflicts_degrade _ _ _ _ _ _
  | foreign => exact conflicts_degrade _ _ _ _ _ _

theorem conflicts_inspectFamily (f : IpFamily) (gateway : Option IpAddr) :
    (findings.inspectFamily texts lane snapshot f gateway).conflicts =
      (findings.conflicts ||
        (snapshot.routeState f lane.table gateway lane.interface != .exact ||
          snapshot.ruleState f lane.rulePriority lane.table lane.mark != .exact)) := by
  simp only [inspectFamily, conflicts_diagnoseResource, Bool.or_assoc]
  split
  · rfl
  · rw [conflicts_degrade_lane _ _ (by rfl)]

/-- The probes of a lane find a conflict in what they look at, and nowhere else. -/
theorem conflicts_inspectLane :
    (findings.inspectLane texts snapshot lane).conflicts = false ↔
      findings.conflicts = false ∧ ∀ f, snapshot.Probed lane f := by
  have hpresent : (if snapshot.hasInterface lane.interface then findings
      else findings.degrade lane .laneInterfaceMissing s!"Lane {lane.id} interface is missing"
        s!"interface {texts.quoted lane.interface} is not present"
        "Restore the interface, then reapply the active profile.").conflicts =
      findings.conflicts := by
    split
    · rfl
    · exact conflicts_degrade_lane _ _ rfl _ _ _
  have hboth : (∀ f, snapshot.Probed lane f) ↔
      snapshot.Probed lane .v4 ∧ snapshot.Probed lane .v6 :=
    ⟨fun h => ⟨h .v4, h .v6⟩, fun h f => by cases f <;> simp [h]⟩
  unfold inspectLane
  simp only []
  by_cases havailable : lane.availability = .unavailable
  · have hroute : ∀ f, laneUnicastRoute lane f = none := by simp [laneUnicastRoute, havailable]
    rw [if_pos havailable, conflicts_degrade_lane _ _ rfl, hpresent]
    simp [KernelSnapshot.probed_of_none (hroute _)]
  · have hready : lane.availability = .available := by
      cases h : lane.availability with
      | available => rfl
      | unavailable => exact absurd h havailable
    have hnone4 : lane.routeV4 = none → snapshot.Probed lane .v4 := fun h =>
      KernelSnapshot.probed_of_none (by simp [laneUnicastRoute, hready, h])
    have hnone6 : lane.routeV6 = none → snapshot.Probed lane .v6 := fun h =>
      KernelSnapshot.probed_of_none (by simp [laneUnicastRoute, hready, h])
    have hsome4 : ∀ mode, lane.routeV4 = some mode → laneUnicastRoute lane .v4 =
        some (.unicast (mode.gateway.map .v4) lane.interface) := fun mode h => by
      simp [laneUnicastRoute, hready, h]
    have hsome6 : ∀ mode, lane.routeV6 = some mode → laneUnicastRoute lane .v6 =
        some (.unicast (mode.gateway.map .v6) lane.interface) := fun mode h => by
      simp [laneUnicastRoute, hready, h]
    rw [if_neg havailable, hboth]
    cases h4 : lane.routeV4 with
    | none =>
      rw [iff_true_intro (hnone4 h4), true_and]
      cases h6 : lane.routeV6 with
      | none =>
        rw [if_pos (by rfl), conflicts_degrade_lane _ _ rfl, hpresent]
        simp [hnone6 h6]
      | some mode6 =>
        rw [KernelSnapshot.probed_iff_of_some (hsome6 mode6 h6)]
        simp [conflicts_inspectFamily, hpresent]
    | some mode4 =>
      rw [KernelSnapshot.probed_iff_of_some (hsome4 mode4 h4)]
      cases h6 : lane.routeV6 with
      | none =>
        rw [iff_true_intro (hnone6 h6), and_true]
        simp [conflicts_inspectFamily, hpresent]
      | some mode6 =>
        rw [KernelSnapshot.probed_iff_of_some (hsome6 mode6 h6)]
        simp [conflicts_inspectFamily, hpresent, and_assoc]

/-- The probes of all lanes. -/
theorem conflicts_inspectLanes (lanes : List LanePlan) :
    (lanes.foldl (inspectLane texts snapshot) findings).conflicts = false ↔
      findings.conflicts = false ∧ ∀ lane ∈ lanes, ∀ f, snapshot.Probed lane f := by
  induction lanes generalizing findings with
  | nil => simp
  | cons lane rest ih =>
    rw [List.foldl_cons, ih, conflicts_inspectLane, List.forall_mem_cons, and_assoc]

theorem conflicts_start (blake3 : Blake3) (plan : KernelPlan) :
    (start blake3 plan snapshot).conflicts = false ↔
      snapshot.nftIsOwnedBy blake3 plan = true := by
  unfold start
  split
  · rename_i howned
    exact iff_of_true rfl howned
  · rename_i howned
    refine iff_of_false ?_ howned
    rw [Bool.not_eq_false]
    rfl

end Findings

/-- A report matches the plan exactly when the probes found what they looked for. -/
theorem kernelResourcesMatchPlan_iff {blake3 : Blake3} {texts : ProbeTexts} {plan : KernelPlan}
    {snapshot : KernelSnapshot} :
    kernelResourcesMatchPlan (evaluateHealth blake3 texts (some plan) snapshot) = true ↔
      snapshot.nftIsOwnedBy blake3 plan = true ∧
        ∀ lane ∈ plan.lanes, ∀ f, snapshot.Probed lane f := by
  have hreport : kernelResourcesMatchPlan (evaluateHealth blake3 texts (some plan) snapshot) =
      !(Findings.ofPlan blake3 texts plan snapshot).conflicts := by
    show (!(List.mergeSort _ _).any _) = _
    rw [List.Perm.any_eq (List.mergeSort_perm _ _)]
    rfl
  rw [hreport, Bool.not_eq_true', Findings.ofPlan, Findings.conflicts_inspectLanes,
    Findings.conflicts_start]

/-! ## When health verification is complete -/

/-- A report matches the plan exactly when the kernel holds the plan, if and only if the
probes find something amiss or there is nothing amiss in what they do not look at. -/
theorem health_complete_iff (blake3 : Blake3) (texts : ProbeTexts) (plan : KernelPlan)
    (snapshot : KernelSnapshot) :
    (kernelResourcesMatchPlan (evaluateHealth blake3 texts (some plan) snapshot) = true ↔
        snapshot.HoldsPlan blake3 plan) ↔
      (snapshot.nftIsOwnedBy blake3 plan = true →
        (∀ lane ∈ plan.lanes, ∀ f, snapshot.Probed lane f) →
          ∀ lane ∈ plan.lanes, ∀ f, snapshot.Unprobed lane f) := by
  rw [kernelResourcesMatchPlan_iff, KernelSnapshot.HoldsPlan]
  simp only [KernelSnapshot.holdsLane_iff]
  constructor
  · intro hcomplete howned hprobed lane hlane f
    exact ((hcomplete.1 ⟨howned, hprobed⟩).2 lane hlane f).2
  · intro hunprobed
    constructor
    · rintro ⟨howned, hprobed⟩
      exact ⟨howned, fun lane hlane f =>
        ⟨hprobed lane hlane f, hunprobed howned hprobed lane hlane f⟩⟩
    · rintro ⟨howned, hheld⟩
      exact ⟨howned, fun lane hlane f => (hheld lane hlane f).1⟩

/-- A plan with one lane, which is ready for IPv6 only. -/
def lane6Plan : KernelPlan := { crossedPlan with rules := [] }

/-- A kernel with the IPv6 default route and rule of that lane, and with nothing that fails
its marked traffic closed. -/
def openSnapshot : KernelSnapshot where
  routes := [⟨.v6, 20000, none, some "default", none, some "wg1", some 1024, some "boot", none,
    none, [], some "medium", .empty⟩]
  rules := [⟨.v6, 10000, some 20000, some ⟨0x524c0001, none⟩, some "all", none, .empty⟩]
  nftTables := {("inet", "routelane")}
  topology := { interfaces := .empty, observed := false, assignedAddresses := [] }
  nftGeneration := some 1
  nftPlanHash := some (lane6Plan.contentHash blankDigests)

/-- The report is clean although the kernel holds neither the terminal routes nor the IPv4
rule of the plan. -/
theorem openSnapshot_unnoticed :
    kernelResourcesMatchPlan
        (evaluateHealth blankDigests ⟨fun _ => "", id⟩ (some lane6Plan) openSnapshot) = true ∧
      .replaceRoute .v6 20000 .terminal ∈ installSteps lane6Plan ∧
      .addRule .v4 10000 20000 0x524c0001 ∈ installSteps lane6Plan ∧
      ¬openSnapshot.HoldsPlan blankDigests lane6Plan := by
  refine ⟨by decide +kernel, by decide, by decide, fun hheld => ?_⟩
  obtain ⟨entry, hentry⟩ := (hheld.2 lane6 List.mem_cons_self .v6).1
    (.replaceRoute .v6 20000 .terminal) (by decide)
  have hnone : openSnapshot.routes.filter (fun entry => entry.isOwned .v6 20000 .terminal) = [] := by
    decide
  rw [hnone] at hentry
  exact nomatch hentry

end RouteLane
