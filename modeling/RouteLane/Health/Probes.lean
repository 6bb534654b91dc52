import RouteLane.Health.Report
import RouteLane.Kernel.Snapshot

/-!
# Probes

`evaluate_health` compares a plan with a snapshot of the kernel: the nft table, and for
every lane its interface, its route and its rule.  What does not match degrades its lane
and is told in a diagnostic; no probe ever calls a policy failed.
-/

namespace RouteLane

/-- How Rust writes an address, and a text in quotes. -/
structure ProbeTexts where
  address : IpAddr → String
  quoted : String → String

/-- What an evaluation has found so far. -/
structure Findings where
  lanes : LaneHealth
  diagnostics : List Diagnostic

namespace Findings

/-- `degrade`, with the warning that says why. -/
def degrade (findings : Findings) (lane : LanePlan) (code : DiagnosticCode)
    (summary technicalDetail action : String) : Findings where
  lanes := findings.lanes.insert lane.id .degraded
  diagnostics := findings.diagnostics ++
    [{ code := code, summary := summary, technicalDetail := technicalDetail
       severity := .warning, subject := .lane lane.id, suggestedAction := some action }]

/-- `diagnose_resource`. -/
def diagnoseResource (findings : Findings) (lane : LanePlan) (family resource : String)
    (state : ResourceState) : Findings :=
  let summary := s!"Lane {lane.id} routing state does not match"
  let place := s!"table {lane.table} and priority {lane.rulePriority}"
  let action := "Remove the foreign resource or reapply the active profile."
  match state with
  | .exact => findings
  | .missing =>
    findings.degrade lane .routingResourceConflict summary
      s!"{family} {resource} is missing for {place}" action
  | .foreign =>
    findings.degrade lane .routingResourceConflict summary
      s!"{family} {resource} conflicts with the exact RouteLane resource for {place}" action

/-- `inspect_family`: the route of a lane is reachable, and its route and rule are in
their places. -/
def inspectFamily (texts : ProbeTexts) (findings : Findings) (lane : LanePlan)
    (snapshot : KernelSnapshot) (family : IpFamily) (gateway : Option IpAddr) : Findings :=
  let familyName := match family with | .v4 => "IPv4" | .v6 => "IPv6"
  let via := (gateway.map texts.address).getD "device-only link"
  let interface := texts.quoted lane.interface
  let findings :=
    if snapshot.routeReachable lane.interface family gateway then findings
    else findings.degrade lane .laneGatewayUnreachable
      s!"Lane {lane.id} {familyName} default route is unavailable"
      s!"default route via {via} is not reachable through interface {interface}"
      "Restore the default route or select another lane."
  (findings.diagnoseResource lane familyName "route"
      (snapshot.routeState family lane.table gateway lane.interface)).diagnoseResource
    lane familyName "policy rule"
    (snapshot.ruleState family lane.rulePriority lane.table lane.mark)

/-- `inspect_lane`.  A lane that is unavailable or has no route is not looked at further. -/
def inspectLane (texts : ProbeTexts) (snapshot : KernelSnapshot) (findings : Findings)
    (lane : LanePlan) : Findings :=
  let interface := texts.quoted lane.interface
  let findings :=
    if snapshot.hasInterface lane.interface then findings
    else findings.degrade lane .laneInterfaceMissing s!"Lane {lane.id} interface is missing"
      s!"interface {interface} is not present"
      "Restore the interface, then reapply the active profile."
  if lane.availability = .unavailable then
    findings.degrade lane .laneGatewayUnreachable
      s!"Lane {lane.id} is unavailable in the active plan"
      "the compiled lane availability is Unavailable"
      "Refresh topology and reapply the active profile."
  else if lane.routeV4.isNone && lane.routeV6.isNone then
    findings.degrade lane .laneGatewayUnreachable
      s!"Lane {lane.id} has no supported route"
      "the available lane has neither IPv4 nor IPv6 default-route evidence"
      "Configure a supported default route and reapply the active profile."
  else
    let findings :=
      match lane.routeV4 with
      | some route =>
        findings.inspectFamily texts lane snapshot .v4 (route.gateway.map IpAddr.v4)
      | none => findings
    match lane.routeV6 with
    | some route => findings.inspectFamily texts lane snapshot .v6 (route.gateway.map IpAddr.v6)
    | none => findings

/-- What an evaluation starts from: every lane is healthy, or degraded with the table. -/
def start (blake3 : Blake3) (plan : KernelPlan) (snapshot : KernelSnapshot) : Findings :=
  let lanes : LaneHealth := .ofList (plan.lanes.map fun lane => (lane.id, .healthy))
  if snapshot.nftIsOwnedBy blake3 plan then { lanes := lanes, diagnostics := [] }
  else
    { lanes := lanes.mapValues fun _ => .degraded
      diagnostics :=
        [{ code := .nftablesFeatureMissing
           summary := "RouteLane nftables state is unavailable"
           technicalDetail :=
             s!"inet/routelane does not exactly match generation {plan.generation} and its plan hash"
           severity := .warning
           subject := .nftablesTable
           suggestedAction := some "Reapply the active profile." }] }

/-- The whole evaluation of a plan. -/
def ofPlan (blake3 : Blake3) (texts : ProbeTexts) (plan : KernelPlan)
    (snapshot : KernelSnapshot) : Findings :=
  plan.lanes.foldl (inspectLane texts snapshot) (start blake3 plan snapshot)

/-- The weightiest of what was found. -/
def state (findings : Findings) : HealthState :=
  aggregateHealth (findings.lanes.values ++
    findings.diagnostics.map (fun diagnostic => diagnostic.severity.healthState) ++ [.healthy])

end Findings

def evaluateHealth (blake3 : Blake3) (texts : ProbeTexts) (plan : Option KernelPlan)
    (snapshot : KernelSnapshot) : HealthReport :=
  match plan with
  | none => .inactive
  | some plan =>
    let findings := Findings.ofPlan blake3 texts plan snapshot
    .fromParts findings.state findings.lanes findings.diagnostics

/-- `kernel_resources_match_plan`: what RouteLane owns is there; a lane may still be down. -/
def kernelResourcesMatchPlan (report : HealthReport) : Bool :=
  !report.diagnostics.any fun diagnostic =>
    diagnostic.code == .nftablesFeatureMissing || diagnostic.code == .routingResourceConflict

/-! ## What an evaluation can find -/

namespace Findings

/-- Lanes are healthy or degraded, and diagnostics warn. -/
structure Mild (findings : Findings) : Prop where
  lanes : ∀ state ∈ findings.lanes.values, state = .healthy ∨ state = .degraded
  diagnostics : ∀ diagnostic ∈ findings.diagnostics, diagnostic.severity = .warning

namespace Mild

variable {findings : Findings}

theorem degrade (h : findings.Mild) (lane : LanePlan) (code : DiagnosticCode)
    (summary technicalDetail action : String) :
    (findings.degrade lane code summary technicalDetail action).Mild where
  lanes := by
    intro state hstate
    obtain ⟨id, hid⟩ := OrderedMap.mem_values_iff.1 hstate
    rw [Findings.degrade, OrderedMap.find?_insert] at hid
    split at hid
    · exact Or.inr (Option.some.inj hid).symm
    · exact h.lanes state (OrderedMap.mem_values_iff.2 ⟨id, hid⟩)
  diagnostics := by
    intro diagnostic hmem
    rcases List.mem_append.1 hmem with hold | hnew
    · exact h.diagnostics diagnostic hold
    · rw [List.mem_singleton.1 hnew]

theorem diagnoseResource (h : findings.Mild) (lane : LanePlan) (family resource : String)
    (state : ResourceState) : (findings.diagnoseResource lane family resource state).Mild := by
  cases state with
  | exact => exact h
  | missing => exact h.degrade _ _ _ _ _
  | foreign => exact h.degrade _ _ _ _ _

theorem inspectFamily (h : findings.Mild) (texts : ProbeTexts) (lane : LanePlan)
    (snapshot : KernelSnapshot) (family : IpFamily) (gateway : Option IpAddr) :
    (findings.inspectFamily texts lane snapshot family gateway).Mild := by
  unfold Findings.inspectFamily
  apply diagnoseResource
  apply diagnoseResource
  split
  · exact h
  · exact h.degrade _ _ _ _ _

theorem inspectLane (h : findings.Mild) (texts : ProbeTexts) (snapshot : KernelSnapshot)
    (lane : LanePlan) : (findings.inspectLane texts snapshot lane).Mild := by
  have hpresent : (if snapshot.hasInterface lane.interface then findings
      else findings.degrade lane .laneInterfaceMissing s!"Lane {lane.id} interface is missing"
        s!"interface {texts.quoted lane.interface} is not present"
        "Restore the interface, then reapply the active profile.").Mild := by
    split
    · exact h
    · exact h.degrade _ _ _ _ _
  unfold Findings.inspectLane
  simp only []
  split
  · exact hpresent.degrade _ _ _ _ _
  · split
    · exact hpresent.degrade _ _ _ _ _
    · cases lane.routeV4 <;> cases lane.routeV6
      · exact hpresent
      · exact hpresent.inspectFamily _ _ _ _ _
      · exact hpresent.inspectFamily _ _ _ _ _
      · exact (hpresent.inspectFamily _ _ _ _ _).inspectFamily _ _ _ _ _

theorem start (blake3 : Blake3) (plan : KernelPlan) (snapshot : KernelSnapshot) :
    (Findings.start blake3 plan snapshot).Mild := by
  unfold Findings.start
  split
  · refine ⟨fun state hstate => Or.inl ?_, by simp⟩
    obtain ⟨id, hid⟩ := OrderedMap.mem_values_iff.1 hstate
    obtain ⟨lane, -, heq⟩ := List.mem_map.1 (OrderedMap.mem_of_find?_ofList hid)
    exact (Prod.mk.inj heq).2.symm
  · refine ⟨fun state hstate => Or.inr ?_, by simp⟩
    obtain ⟨id, hid⟩ := OrderedMap.mem_values_iff.1 hstate
    rw [OrderedMap.find?_mapValues] at hid
    obtain ⟨-, -, heq⟩ := Option.map_eq_some_iff.1 hid
    exact heq.symm

/-- Every probe leaves the findings mild. -/
theorem ofPlan (blake3 : Blake3) (texts : ProbeTexts) (plan : KernelPlan)
    (snapshot : KernelSnapshot) : (Findings.ofPlan blake3 texts plan snapshot).Mild :=
  List.foldlRecOn plan.lanes _ (start blake3 plan snapshot)
    fun _ h lane _ => h.inspectLane texts snapshot lane

end Mild

end Findings

/-- An evaluation never calls a plan failed: it is healthy, or degraded. -/
theorem evaluateHealth_state (blake3 : Blake3) (texts : ProbeTexts) (plan : KernelPlan)
    (snapshot : KernelSnapshot) :
    (evaluateHealth blake3 texts (some plan) snapshot).state = .healthy ∨
      (evaluateHealth blake3 texts (some plan) snapshot).state = .degraded := by
  have hmild := Findings.Mild.ofPlan blake3 texts plan snapshot
  have hmem : (Findings.ofPlan blake3 texts plan snapshot).state ∈ _ :=
    aggregateHealth_mem (by simp)
  show (Findings.ofPlan blake3 texts plan snapshot).state = _ ∨ _
  rcases List.mem_append.1 hmem with hfound | hlast
  · rcases List.mem_append.1 hfound with hlane | hdiagnostic
    · exact hmild.lanes _ hlane
    · obtain ⟨diagnostic, hdiag, heq⟩ := List.mem_map.1 hdiagnostic
      rw [hmild.diagnostics diagnostic hdiag] at heq
      exact Or.inr heq.symm
  · exact Or.inl (List.mem_singleton.1 hlast)

end RouteLane
