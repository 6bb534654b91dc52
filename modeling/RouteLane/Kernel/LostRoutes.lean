import RouteLane.Kernel.Checks
import RouteLane.Kernel.Conflicts
import RouteLane.Kernel.Exactness
import RouteLane.Kernel.Readers

/-!
# Routes the kernel dropped

When a link goes down the kernel takes the unicast default of a lane away by itself.  The
helper goes on from there only if nothing else differs from the committed plan and the next
plan gives the route up; a route that the next plan still uses was deleted by someone else.
The state of the kernel is what the commands of the helper print of it.
-/

namespace RouteLane

namespace Live

open Nft Faults Program Inspect

/-! ## The documents -/

/-- What the reading commands print.  The table is `none` when `nft list table` fails, for
want of a table, and otherwise the listing with its interfaces resolved. -/
structure Kernel where
  routes : IpFamily → JsonValue
  rules : IpFamily → JsonValue
  nftTables : JsonValue
  nftTable : Option Document

abbrev Reader := Program Kernel Unit RunnerError

inductive SnapshotSource where
  | ipv4Routes
  | ipv6Routes
  | ipv4Rules
  | ipv6Rules
  | nft
  deriving DecidableEq, Repr

/-- The label of a document in an error. -/
def SnapshotSource.label : SnapshotSource → String
  | .ipv4Routes => "IPv4 routes"
  | .ipv6Routes => "IPv6 routes"
  | .ipv4Rules => "IPv4 rules"
  | .ipv6Rules => "IPv6 rules"
  | .nft => "nftables"

/-- The entries of a document that is an array of them. -/
def parseEntries {α : Type} (source : SnapshotSource) (parse : JsonValue → Option α)
    (document : JsonValue) : Except SnapshotSource (List α) :=
  match document.asArray.bind fun entries => entries.mapM parse with
  | some parsed => .ok parsed
  | none => .error source

/-- `NftTable` of an `NftObject`, if it is one. -/
def parseNftObject (object : JsonValue) : Option (Option (String × String)) := do
  let fields ← object.asObject
  match fields.lookup "table" with
  | none | some .null => return none
  | some table =>
    let family ← (table.get "family").bind JsonValue.asStr
    let name ← (table.get "name").bind JsonValue.asStr
    return some (family, name)

/-- `parse_nft_tables`. -/
def parseNftTables (document : JsonValue) : Except SnapshotSource (Finset (String × String)) :=
  match ((document.get "nftables").bind JsonValue.asArray).bind fun objects =>
      objects.mapM parseNftObject with
  | some objects => .ok (objects.filterMap id).toFinset
  | none => .error .nft

/-- The routes of one interface, as `topology_from_routes` collects them. -/
abbrev RouteEvidence := Option (RouteMode Ipv4Addr) × Option (RouteMode Ipv6Addr)

/-- What one default route adds: a gateway always, the bare device if there is nothing yet. -/
def addEvidence (evidence : RouteEvidence) (f : IpFamily) :
    Option IpAddr → RouteEvidence
  | some (.v4 gateway) => if f = .v4 then (some (.via gateway), evidence.2) else evidence
  | some (.v6 gateway) => if f = .v6 then (evidence.1, some (.via gateway)) else evidence
  | none =>
    match f with
    | .v4 => (evidence.1.or (some .device), evidence.2)
    | .v6 => (evidence.1, evidence.2.or (some .device))

/-- `topology_from_routes`. -/
def topologyFromRoutes (routes : List Inspect.RouteEntry) : TopologySnapshot where
  interfaces :=
    (routes.foldl (fun collected route =>
      match route.destination == some "default", route.interface with
      | true, some interface =>
        collected.insert interface
          (addEvidence ((collected.find? interface).getD (none, none)) route.family route.gateway)
      | _, _ => collected) OrderedMap.empty).mapValues fun evidence =>
        ⟨none, false, evidence.1, evidence.2, [], [], []⟩
  observed := false
  assignedAddresses := []

/-- `CapturedSnapshot`. -/
structure CapturedSnapshot where
  snapshot : KernelSnapshot
  routes : IpFamily → JsonValue
  rules : IpFamily → JsonValue

section Reading

variable (t : AddressText)

/-- `KernelSnapshot::parse`. -/
def parseSnapshot (routes rules : IpFamily → JsonValue) (nft : JsonValue) :
    Except SnapshotSource KernelSnapshot := do
  let ipv4Routes ← parseEntries .ipv4Routes (parseRoute t .v4) (routes .v4)
  let ipv6Routes ← parseEntries .ipv6Routes (parseRoute t .v6) (routes .v6)
  let ipv4Rules ← parseEntries .ipv4Rules (parseRule .v4) (rules .v4)
  let ipv6Rules ← parseEntries .ipv6Rules (parseRule .v6) (rules .v6)
  let tables ← parseNftTables nft
  return ⟨ipv4Routes ++ ipv6Routes, ipv4Rules ++ ipv6Rules, tables,
    topologyFromRoutes (ipv4Routes ++ ipv6Routes), none, none⟩

/-- What `capture_snapshot` makes of the five documents. -/
def Kernel.capture (kernel : Kernel) : Except SnapshotSource CapturedSnapshot :=
  (parseSnapshot t kernel.routes kernel.rules kernel.nftTables).map fun snapshot =>
    ⟨snapshot, kernel.routes, kernel.rules⟩

/-- `capture_snapshot`. -/
def captureSnapshot : Reader CapturedSnapshot := do
  let ipv4Routes ← inspect "inspect IPv4 routing tables" fun kernel => kernel.routes .v4
  let ipv6Routes ← inspect "inspect IPv6 routing tables" fun kernel => kernel.routes .v6
  let ipv4Rules ← inspect "inspect IPv4 policy rules" fun kernel => kernel.rules .v4
  let ipv6Rules ← inspect "inspect IPv6 policy rules" fun kernel => kernel.rules .v6
  let nft ← inspect "inspect nftables tables" Kernel.nftTables
  let routes : IpFamily → JsonValue := fun | .v4 => ipv4Routes | .v6 => ipv6Routes
  let rules : IpFamily → JsonValue := fun | .v4 => ipv4Rules | .v6 => ipv6Rules
  match parseSnapshot t routes rules nft with
  | .ok snapshot => return ⟨snapshot, routes, rules⟩
  | .error source => fail ("failed to parse " ++ source.label ++ " snapshot")

end Reading

/-! ## Live ownership -/

/-- `RoutingOwnership` as the helper keeps it. -/
structure RoutingRecords where
  routes : Finset RouteRecord
  rules : Finset RuleOwnership
  deriving DecidableEq

/-- `plan_routing_ownership`, with its gateways written out. -/
def planRoutingRecords (t : AddressText) (plan : KernelPlan) : RoutingRecords :=
  ⟨(planRoutingOwnership plan).routes.image (RouteOwnership.record t),
    (planRoutingOwnership plan).rules⟩

/-- Collect what an entry is taken for, and give up on the second of a kind. -/
def collectEntries {α : Type} [DecidableEq α] (read : JsonValue → Except String (Option α))
    (duplicated : String) : List JsonValue → Finset α → Except String (Finset α)
  | [], collected => .ok collected
  | entry :: rest, collected =>
    match read entry with
    | .error e => .error e
    | .ok none => collectEntries read duplicated rest collected
    | .ok (some record) =>
      if record ∈ collected then .error duplicated
      else collectEntries read duplicated rest (insert record collected)

/-- `collect_live_routes`. -/
def collectLiveRoutes (document : JsonValue) (f : IpFamily) (ownership : RoutingRecords) :
    Except String RoutingRecords :=
  match document.asArray with
  | none => .error "invalid live route JSON"
  | some entries =>
    (collectEntries (fun route => liveRoute route f)
      "live RouteLane routing-table entry is duplicated" entries ownership.routes).map
        fun routes => { ownership with routes := routes }

/-- `collect_live_rules`. -/
def collectLiveRules (document : JsonValue) (f : IpFamily) (ownership : RoutingRecords) :
    Except String RoutingRecords :=
  match document.asArray with
  | none => .error "invalid live policy-rule JSON"
  | some entries =>
    (collectEntries (fun rule => liveRule rule f)
      "live RouteLane policy-rule entry is duplicated" entries ownership.rules).map
        fun rules => { ownership with rules := rules }

/-- `live_routing_ownership`. -/
def liveRoutingOwnership (captured : CapturedSnapshot) : Except String RoutingRecords := do
  let ownership ← collectLiveRoutes (captured.routes .v4) .v4 ⟨∅, ∅⟩
  let ownership ← collectLiveRoutes (captured.routes .v6) .v6 ownership
  let ownership ← collectLiveRules (captured.rules .v4) .v4 ownership
  collectLiveRules (captured.rules .v6) .v6 ownership

/-- The table of an entry whose flags are exactly `linkdown`. -/
def linkdownTable (route : JsonValue) : Option ℕ :=
  if ((route.get "flags").bind JsonValue.asArray).any linkdownFlags then
    ((route.get "table").bind jsonNumber).filter fun table =>
      tableBase ≤ table ∧ table ≤ tableMax
  else none

/-- `linkdown_unicast`. -/
def linkdownUnicast (captured : CapturedSnapshot) : Finset (IpFamily × ℕ) :=
  (families.flatMap fun f =>
    (((captured.routes f).asArray.getD []).filterMap linkdownTable).map
      fun table => (f, table)).toFinset

/-! ## Ownership of a plan -/

section Checks

variable (t : AddressText) (blake3 : Blake3)

/-- Whether the tables of the machine have RouteLane's. -/
def hasOwnTable (captured : CapturedSnapshot) : Bool :=
  captured.snapshot.hasNftTable "inet" "routelane"

/-- A value of the helper, or its error. -/
def orFail {α : Type} : Except String α → Reader α
  | .ok a => return a
  | .error e => fail e

/-- `read_nft_table`. -/
def readNftTable : Reader Document :=
  inspectSome "inspect exact RouteLane nftables table" "inspect exact RouteLane nftables table"
    Kernel.nftTable

/-- `nft_marker_present`. -/
def nftMarkerPresent (plan : KernelPlan) : Reader Bool := do
  let document ← readNftTable
  return decide (stateChainName blake3 plan ∈ chainNames document)

/-- `live_nft_fingerprint`. -/
def liveNftFingerprint : Reader String := do
  let document ← readNftTable
  return nftDocumentFingerprint blake3 document

/-- `captured_plan_present`. -/
def capturedPlanPresent (captured : CapturedSnapshot) (plan : KernelPlan) : Reader Bool :=
  if hasOwnTable captured then do
    let live ← orFail (liveRoutingOwnership captured)
    let expected := planRoutingRecords t plan
    return decide (expected.routes ⊆ live.routes ∧ expected.rules ⊆ live.rules)
  else return false

/-- A conflict as an error prints it. -/
def conflictText : ResourceConflict → String
  | .routingTableInUse table => "RoutingTableInUse(" ++ toString table ++ ")"
  | .rulePriorityInUse priority => "RulePriorityInUse(" ++ toString priority ++ ")"

/-- `verify_persisted_ownership_basis`. -/
def verifyPersistedOwnershipBasis (plan routing : KernelPlan) (expectedNftFingerprint : String) :
    Reader Bool := do
  let captured ← captureSnapshot t
  match detectResourceConflicts routing captured.snapshot with
  | .error conflict =>
    fail ("persisted plan conflicts with live kernel resources: " ++ conflictText conflict)
  | .ok () =>
    let live ← orFail (liveRoutingOwnership captured)
    if live ≠ planRoutingRecords t routing then
      fail ("persisted plan does not exactly own all live RouteLane route and policy-rule " ++
        "resources")
    else if hasOwnTable captured then
      if ← nftMarkerPresent blake3 plan then
        let fingerprint ← liveNftFingerprint blake3
        if fingerprint ≠ expectedNftFingerprint then
          fail ("persisted plan ownership marker is present but the live inet/routelane " ++
            "table differs from the exact committed state")
        else capturedPlanPresent t captured routing
      else fail "persisted plan does not own the live inet/routelane table"
    else capturedPlanPresent t captured routing

/-- The place of a route: its family and its table. -/
def RouteRecord.place (route : RouteRecord) : IpFamily × ℕ := (route.family, route.table)

/-- `tolerated_lost_unicast`. -/
def toleratedLostUnicast (plan : KernelPlan) (expectedNftFingerprint : String)
    (next : KernelPlan) : Reader LostUnicast := do
  let captured ← captureSnapshot t
  let live ← orFail (liveRoutingOwnership captured)
  let expected := planRoutingRecords t plan
  if ∃ entry ∈ linkdownUnicast captured, next.usesUnicast entry.1 entry.2 = true then
    fail "a lane without carrier is still used by the fresh plan; refusing apply"
  else if live.rules ≠ expected.rules ∨ ¬live.routes ⊆ expected.routes then
    fail "committed RouteLane kernel resources were modified; refusing apply"
  else if ∃ route ∈ expected.routes \ live.routes, route.terminal = true ∨
      next.usesUnicast route.family route.table = true then
    fail "committed RouteLane kernel resources are incomplete; refusing apply"
  else
    let lost : LostUnicast := (expected.routes \ live.routes).image RouteRecord.place
    if ← verifyPersistedOwnershipBasis t blake3 plan (routingBasis lost plan)
        expectedNftFingerprint then return lost
    else fail "committed RouteLane kernel resources are incomplete; refusing apply"

end Checks

/-! ## What is tolerated -/

/-- A unicast default of RouteLane that the kernel shows without carrier. -/
def Kernel.Linkdown (kernel : Kernel) (f : IpFamily) (table : ℕ) : Prop :=
  ∃ route ∈ (kernel.routes f).asArray.getD [], linkdownTable route = some table

/-- The live kernel is that of a committed plan, apart from some unicast defaults the kernel
dropped and the next plan gives up. -/
structure Tolerable (t : AddressText) (blake3 : Blake3) (plan : KernelPlan)
    (fingerprint : String) (next : KernelPlan) (kernel : Kernel) (captured : CapturedSnapshot)
    (live : RoutingRecords) (lost : LostUnicast) : Prop where
  capture : kernel.capture t = .ok captured
  ownership : liveRoutingOwnership captured = .ok live
  rules : live.rules = (planRoutingRecords t plan).rules
  routes : live.routes = (planRoutingRecords t (routingBasis lost plan)).routes
  missing : ∀ route ∈ (planRoutingRecords t plan).routes, route ∉ live.routes →
    route.terminal = false ∧ next.usesUnicast route.family route.table = false
  linkdown : ∀ f table, kernel.Linkdown f table → next.usesUnicast f table = false
  table : hasOwnTable captured = true ∧ ∃ document, kernel.nftTable = some document ∧
    stateChainName blake3 plan ∈ chainNames document ∧
    nftDocumentFingerprint blake3 document = fingerprint

/-- The places of the routes that are missing. -/
def missingPlaces (t : AddressText) (plan : KernelPlan) (live : RoutingRecords) : LostUnicast :=
  ((planRoutingRecords t plan).routes \ live.routes).image RouteRecord.place

theorem mem_linkdownUnicast {kernel : Kernel} {t : AddressText} {captured : CapturedSnapshot}
    (h : kernel.capture t = .ok captured) {entry : IpFamily × ℕ} :
    entry ∈ linkdownUnicast captured ↔ kernel.Linkdown entry.1 entry.2 := by
  obtain ⟨f, table⟩ := entry
  have hroutes : captured.routes = kernel.routes := by
    rw [Kernel.capture] at h
    cases hparse : parseSnapshot t kernel.routes kernel.rules kernel.nftTables with
    | error e => simp [hparse, Except.map] at h
    | ok snapshot =>
      rw [hparse] at h
      rw [← Except.ok.inj h]
  simp only [linkdownUnicast, hroutes, Kernel.Linkdown, List.mem_toFinset, List.mem_flatMap,
    List.mem_map, List.mem_filterMap, Prod.mk.injEq]
  constructor
  · rintro ⟨f', -, table', ⟨route, hroute, htable⟩, rfl, rfl⟩
    exact ⟨route, hroute, htable⟩
  · rintro ⟨route, hroute, htable⟩
    exact ⟨f, mem_families f, table, ⟨route, hroute, htable⟩, rfl, rfl⟩

theorem RouteOwnership.record_injective (t : AddressText) :
    Function.Injective (RouteOwnership.record t) := by
  intro a b h
  obtain ⟨f, table, gateway, interface, terminal⟩ := a
  obtain ⟨f', table', gateway', interface', terminal'⟩ := b
  simp only [RouteOwnership.record, RouteRecord.mk.injEq] at h
  have hprint : Function.Injective t.print := by
    intro x y hxy
    have := congrArg t.parse hxy
    rw [t.parse_print, t.parse_print] at this
    exact Option.some.inj this
  simp only [RouteOwnership.mk.injEq]
  exact ⟨h.1, h.2.1, Option.map_injective hprint h.2.2.1, h.2.2.2⟩

/-! ## The basis of a plan -/

/-- A lane of the basis. -/
def basisLane (lost : LostUnicast) (lane : LanePlan) : LanePlan :=
  { lane with
    routeV4 := if (.v4, lane.table) ∈ lost then none else lane.routeV4
    routeV6 := if (.v6, lane.table) ∈ lost then none else lane.routeV6 }

@[simp] theorem basisLane_table (lost : LostUnicast) (lane : LanePlan) :
    (basisLane lost lane).table = lane.table := rfl

theorem laneUnicastRoute_basisLane (lost : LostUnicast) (lane : LanePlan) (f : IpFamily) :
    laneUnicastRoute (basisLane lost lane) f =
      if (f, lane.table) ∈ lost then none else laneUnicastRoute lane f := by
  cases f with
  | v4 => by_cases h : (IpFamily.v4, lane.table) ∈ lost <;> simp [laneUnicastRoute, basisLane, h]
  | v6 => by_cases h : (IpFamily.v6, lane.table) ∈ lost <;> simp [laneUnicastRoute, basisLane, h]

theorem laneForTable_routingBasis (lost : LostUnicast) (plan : KernelPlan) (table : ℕ) :
    laneForTable (routingBasis lost plan) table =
      (laneForTable plan table).map (basisLane lost) :=
  List.find?_map

/-- The basis of a plan keeps the terminal routes, and the unicast defaults elsewhere. -/
theorem mem_routes_routingBasis {plan : KernelPlan}
    (hplan : (plan.lanes.map LanePlan.table).Nodup) {lost : LostUnicast} {r : RouteOwnership} :
    r ∈ (planRoutingOwnership (routingBasis lost plan)).routes ↔
      r ∈ (planRoutingOwnership plan).routes ∧
        (r.terminal = true ∨ (r.family, r.table) ∉ lost) := by
  rw [mem_routes_plan (by rwa [tables_routingBasis]), mem_routes_plan hplan,
    laneForTable_routingBasis]
  cases hlane : laneForTable plan r.table with
  | none => simp
  | some lane =>
    have htable := (laneForTable_some hlane).2
    have hterminal : r = routeOwnership r.family r.table .terminal → r.terminal = true := by
      intro h
      rw [h]
      rfl
    simp only [Option.map_some, Option.some.injEq, exists_eq_left', Settled,
      laneUnicastRoute_basisLane, basisLane_table, htable, and_false, or_false]
    by_cases hlost : (r.family, r.table) ∈ lost
    · cases hr : r.terminal with
      | true => simp [hlost]
      | false => simp [hlost]; grind
    · simp [hlost]

theorem rules_routingBasis (lost : LostUnicast) (plan : KernelPlan) :
    (planRoutingOwnership (routingBasis lost plan)).rules = (planRoutingOwnership plan).rules := by
  ext r
  rw [mem_rules_plan, mem_rules_plan, routingBasis]
  simp [laneRule]

/-! ## What the checks find -/

section Ensures

variable {r : Regime Kernel} {kernel : Kernel} {m : Unit} {t : AddressText} {blake3 : Blake3}

/-- A reading command returns what it read or fails, and the kernel stays. -/
theorem inspect_ensures {α : Type} {E : Kernel → Unit → Prop} {e : RunnerError}
    {read : Kernel → α} (hfine : r.Fine kernel) (hE : r.mayFail → E kernel m) :
    Ensures r kernel m (inspect e read) (fun a k' m' => a = read kernel ∧ k' = kernel ∧ m' = m)
      E := by
  refine (Ensures.read hfine).conseq (fun _ _ _ h => h) ?_
  rintro k' m' ⟨rfl, rfl, hmay, -⟩
  exact hE hmay

theorem captureSnapshot_ensures (hfine : r.Fine kernel) :
    Ensures r kernel m (captureSnapshot t)
      (fun captured k' m' => k' = kernel ∧ m' = m ∧ kernel.capture t = .ok captured)
      (fun k' _ => k' = kernel ∧ (r.mayFail ∨ ∀ captured, kernel.capture t ≠ .ok captured)) := by
  refine Ensures.bind (inspect_ensures hfine fun hmay => ⟨rfl, Or.inl hmay⟩) ?_
  rintro _ _ _ ⟨rfl, rfl, rfl⟩
  refine Ensures.bind (inspect_ensures hfine fun hmay => ⟨rfl, Or.inl hmay⟩) ?_
  rintro _ _ _ ⟨rfl, rfl, rfl⟩
  refine Ensures.bind (inspect_ensures hfine fun hmay => ⟨rfl, Or.inl hmay⟩) ?_
  rintro _ _ _ ⟨rfl, rfl, rfl⟩
  refine Ensures.bind (inspect_ensures hfine fun hmay => ⟨rfl, Or.inl hmay⟩) ?_
  rintro _ _ _ ⟨rfl, rfl, rfl⟩
  refine Ensures.bind (inspect_ensures hfine fun hmay => ⟨rfl, Or.inl hmay⟩) ?_
  rintro _ k _ ⟨rfl, rfl, rfl⟩
  have hroutes : (fun | .v4 => k.routes .v4 | .v6 => k.routes .v6 : IpFamily → JsonValue) =
      k.routes := by
    funext f
    cases f <;> rfl
  have hrules : (fun | .v4 => k.rules .v4 | .v6 => k.rules .v6 : IpFamily → JsonValue) =
      k.rules := by
    funext f
    cases f <;> rfl
  simp only [hroutes, hrules]
  have hcapture : k.capture t = (parseSnapshot t k.routes k.rules k.nftTables).map fun snapshot =>
    (⟨snapshot, k.routes, k.rules⟩ : CapturedSnapshot) := rfl
  cases hparse : parseSnapshot t k.routes k.rules k.nftTables with
  | error source =>
    rw [hparse] at hcapture
    refine Ensures.fail ⟨rfl, Or.inr fun captured h => ?_⟩
    rw [hcapture] at h
    cases h
  | ok snapshot =>
    rw [hparse] at hcapture
    exact Ensures.pure ⟨rfl, trivial, hcapture⟩

theorem orFail_ensures {α : Type} {E : Kernel → Unit → Prop} {value : Except String α}
    (hE : (∀ a, value ≠ .ok a) → E kernel m) :
    Ensures r kernel m (orFail value) (fun a k' m' => k' = kernel ∧ m' = m ∧ value = .ok a) E := by
  cases value with
  | error e => exact Ensures.fail (hE fun a h => by cases h)
  | ok a => exact Ensures.pure ⟨rfl, rfl, rfl⟩

theorem readNftTable_ensures (hfine : r.Fine kernel) :
    Ensures r kernel m readNftTable
      (fun document k' m' => k' = kernel ∧ m' = m ∧ kernel.nftTable = some document)
      (fun k' _ => k' = kernel ∧ (r.mayFail ∨ kernel.nftTable = none)) := by
  refine Ensures.inspectSome ?_ ?_ ?_
  · exact fun hmay hknown => ⟨hfine _ hknown, rfl, Or.inl hmay⟩
  · exact fun hnone hknown => ⟨hfine _ hknown, rfl, Or.inr hnone⟩
  · exact fun document hsome hknown => ⟨hfine _ hknown, rfl, rfl, hsome⟩

theorem nftMarkerPresent_ensures {plan : KernelPlan} (hfine : r.Fine kernel) :
    Ensures r kernel m (nftMarkerPresent blake3 plan)
      (fun present k' m' => k' = kernel ∧ m' = m ∧ ∃ document, kernel.nftTable = some document ∧
        present = decide (stateChainName blake3 plan ∈ chainNames document))
      (fun k' _ => k' = kernel ∧ (r.mayFail ∨ kernel.nftTable = none)) := by
  refine Ensures.bind (readNftTable_ensures hfine) ?_
  rintro document _ _ ⟨rfl, rfl, htable⟩
  exact Ensures.pure ⟨rfl, rfl, document, htable, rfl⟩

theorem liveNftFingerprint_ensures (hfine : r.Fine kernel) :
    Ensures r kernel m (liveNftFingerprint blake3)
      (fun fingerprint k' m' => k' = kernel ∧ m' = m ∧
        ∃ document, kernel.nftTable = some document ∧
          fingerprint = nftDocumentFingerprint blake3 document)
      (fun k' _ => k' = kernel ∧ (r.mayFail ∨ kernel.nftTable = none)) := by
  refine Ensures.bind (readNftTable_ensures hfine) ?_
  rintro document _ _ ⟨rfl, rfl, htable⟩
  exact Ensures.pure ⟨rfl, rfl, document, htable, rfl⟩

theorem capturedPlanPresent_ensures {captured : CapturedSnapshot} {live : RoutingRecords}
    (hlive : liveRoutingOwnership captured = .ok live) {plan : KernelPlan}
    {E : Kernel → Unit → Prop} :
    Ensures r kernel m (capturedPlanPresent t captured plan)
      (fun present k' m' => k' = kernel ∧ m' = m ∧
        (present = true ↔ hasOwnTable captured = true ∧
          (planRoutingRecords t plan).routes ⊆ live.routes ∧
          (planRoutingRecords t plan).rules ⊆ live.rules)) E := by
  unfold capturedPlanPresent
  cases htable : hasOwnTable captured with
  | false => exact Ensures.pure ⟨rfl, rfl, by simp⟩
  | true =>
    refine Ensures.bind (orFail_ensures fun hnone => absurd hlive (hnone live)) ?_
    rintro found _ _ ⟨rfl, rfl, hfound⟩
    obtain rfl := Except.ok.inj (hlive.symm.trans hfound)
    exact Ensures.pure ⟨rfl, rfl, by simp⟩

/-- The kernel is exactly what a plan owns on this basis. -/
structure OwnedExactly (t : AddressText) (blake3 : Blake3) (plan routing : KernelPlan)
    (fingerprint : String) (kernel : Kernel) : Prop where
  ownership : ∃ captured, kernel.capture t = .ok captured ∧
    detectResourceConflicts routing captured.snapshot = .ok () ∧
    liveRoutingOwnership captured = .ok (planRoutingRecords t routing) ∧
    hasOwnTable captured = true
  table : ∃ document, kernel.nftTable = some document ∧
    stateChainName blake3 plan ∈ chainNames document ∧
    nftDocumentFingerprint blake3 document = fingerprint

theorem verifyPersistedOwnershipBasis_ensures {plan routing : KernelPlan} {fingerprint : String}
    (hfine : r.Fine kernel) :
    Ensures r kernel m (verifyPersistedOwnershipBasis t blake3 plan routing fingerprint)
      (fun present k' m' => k' = kernel ∧ m' = m ∧
        (present = true ↔ OwnedExactly t blake3 plan routing fingerprint kernel))
      (fun k' _ => k' = kernel ∧
        (r.mayFail ∨ ¬ OwnedExactly t blake3 plan routing fingerprint kernel)) := by
  refine Ensures.bind ((captureSnapshot_ensures hfine).conseq (fun _ _ _ h => h) ?_) ?_
  · rintro k' m' ⟨rfl, hmay | hnone⟩
    · exact ⟨rfl, Or.inl hmay⟩
    · exact ⟨rfl, Or.inr fun h => h.ownership.elim fun captured h => hnone captured h.1⟩
  rintro captured k _ ⟨rfl, rfl, hcapture⟩
  -- What is known of the captured snapshot is known of any.
  have hsame : ∀ other, k.capture t = .ok other → other = captured := by
    intro other hother
    rw [hcapture] at hother
    exact (Except.ok.inj hother).symm
  cases hconflict : detectResourceConflicts routing captured.snapshot with
  | error conflict =>
    refine Ensures.fail ⟨rfl, Or.inr fun h => ?_⟩
    obtain ⟨other, hother, hfree, -⟩ := h.ownership
    rw [hsame other hother, hconflict] at hfree
    cases hfree
  | ok _ =>
    refine Ensures.bind (orFail_ensures fun hnone => ⟨rfl, Or.inr fun h => ?_⟩) ?_
    · obtain ⟨other, hother, -, hlive, -⟩ := h.ownership
      rw [hsame other hother] at hlive
      exact hnone _ hlive
    rintro live k _ ⟨rfl, rfl, hlive⟩
    by_cases hexact : live = planRoutingRecords t routing
    · subst hexact
      rw [if_neg (not_not.mpr rfl)]
      cases htable : hasOwnTable captured with
      | false =>
        rw [if_neg Bool.false_ne_true]
        refine (capturedPlanPresent_ensures hlive).conseq ?_ fun _ _ h => h
        rintro present _ _ ⟨rfl, rfl, hpresent⟩
        refine ⟨rfl, rfl, ?_⟩
        rw [hpresent, htable]
        simp only [Bool.false_eq_true, false_and, false_iff]
        intro h
        obtain ⟨other, hother, -, -, hown⟩ := h.ownership
        rw [hsame other hother, htable] at hown
        cases hown
      | true =>
        rw [if_pos rfl]
        have hgone : r.mayFail ∨ k.nftTable = none → r.mayFail ∨
            ¬ OwnedExactly t blake3 plan routing fingerprint k := by
          refine Or.imp_right fun hnone h => ?_
          obtain ⟨document, hdocument, -⟩ := h.table
          rw [hnone] at hdocument
          cases hdocument
        refine Ensures.bind ((nftMarkerPresent_ensures hfine).conseq (fun _ _ _ h => h)
          fun _ _ h => ⟨h.1, hgone h.2⟩) ?_
        rintro present k _ ⟨rfl, rfl, document, hdocument, rfl⟩
        by_cases hmarker : stateChainName blake3 plan ∈ chainNames document
        · rw [decide_eq_true hmarker, if_pos rfl]
          refine Ensures.bind ((liveNftFingerprint_ensures hfine).conseq (fun _ _ _ h => h)
            fun _ _ h => ⟨h.1, hgone h.2⟩) ?_
          rintro found k _ ⟨rfl, rfl, other, hother, rfl⟩
          obtain rfl := Option.some.inj (hdocument.symm.trans hother)
          by_cases hfingerprint : nftDocumentFingerprint blake3 document = fingerprint
          · rw [if_neg (not_not.mpr hfingerprint)]
            refine (capturedPlanPresent_ensures hlive).conseq ?_ fun _ _ h => h
            rintro present _ _ ⟨rfl, rfl, hpresent⟩
            refine ⟨rfl, rfl, hpresent.trans ?_⟩
            refine iff_of_true ⟨htable, Finset.Subset.refl _, Finset.Subset.refl _⟩ ?_
            exact ⟨⟨captured, hcapture, hconflict, hlive, htable⟩, document, hdocument, hmarker,
              hfingerprint⟩
          · rw [if_pos hfingerprint]
            refine Ensures.fail ⟨rfl, Or.inr fun h => ?_⟩
            obtain ⟨other, hother, -, hexact⟩ := h.table
            rw [Option.some.inj (hdocument.symm.trans hother)] at hfingerprint
            exact hfingerprint hexact
        · rw [decide_eq_false hmarker, if_neg Bool.false_ne_true]
          refine Ensures.fail ⟨rfl, Or.inr fun h => ?_⟩
          obtain ⟨other, hother, hexact, -⟩ := h.table
          rw [Option.some.inj (hdocument.symm.trans hother)] at hmarker
          exact hmarker hexact
    · rw [if_pos hexact]
      refine Ensures.fail ⟨rfl, Or.inr fun h => ?_⟩
      obtain ⟨other, hother, -, hown, -⟩ := h.ownership
      rw [hsame other hother, hlive] at hown
      exact hexact (Except.ok.inj hown)

/-- Between two bases of one plan only the places of the missing routes matter. -/
theorem routes_missingPlaces {plan : KernelPlan}
    (hplan : (plan.lanes.map LanePlan.table).Nodup) {live : RoutingRecords} {lost : LostUnicast}
    (hlive : live.routes = (planRoutingRecords t (routingBasis lost plan)).routes) :
    (planRoutingRecords t (routingBasis (missingPlaces t plan live) plan)).routes =
      live.routes := by
  have hmissing : ∀ r ∈ (planRoutingOwnership plan).routes, r.terminal = false →
      ((r.family, r.table) ∈ missingPlaces t plan live ↔ (r.family, r.table) ∈ lost) := by
    intro r hr hunicast
    simp only [missingPlaces, hlive, planRoutingRecords, Finset.mem_image, Finset.mem_sdiff,
      RouteRecord.place]
    constructor
    · rintro ⟨_, ⟨⟨other, hother, rfl⟩, hgone⟩, hplace⟩
      by_contra hkept
      refine hgone ⟨other, (mem_routes_routingBasis hplan).mpr ⟨hother, Or.inr ?_⟩, rfl⟩
      rwa [show (other.family, other.table) = (r.family, r.table) from hplace]
    · intro hlost
      refine ⟨r.record t, ⟨⟨r, hr, rfl⟩, ?_⟩, rfl⟩
      rintro ⟨other, hother, heq⟩
      obtain rfl := RouteOwnership.record_injective t heq
      rcases ((mem_routes_routingBasis hplan).mp hother).2 with hterminal | hkept
      · rw [hunicast] at hterminal
        cases hterminal
      · exact hkept hlost
  rw [hlive]
  apply congrArg (Finset.image (RouteOwnership.record t))
  ext r
  rw [mem_routes_routingBasis hplan, mem_routes_routingBasis hplan]
  refine and_congr_right fun hr => ?_
  cases hterminal : r.terminal with
  | true => simp
  | false => simp only [Bool.false_eq_true, false_or, hmissing r hr hterminal]

theorem toleratedLostUnicast_ensures {plan next : KernelPlan} {fingerprint : String}
    (hplan : (plan.lanes.map LanePlan.table).Nodup) (hfine : r.Fine kernel) :
    Ensures r kernel m (toleratedLostUnicast t blake3 plan fingerprint next)
      (fun lost k' m' => k' = kernel ∧ m' = m ∧ ∃ captured live,
        Tolerable t blake3 plan fingerprint next kernel captured live lost ∧
          lost = missingPlaces t plan live)
      (fun k' _ => k' = kernel ∧ (r.mayFail ∨ ∀ captured live lost,
        Tolerable t blake3 plan fingerprint next kernel captured live lost →
          detectResourceConflicts (routingBasis (missingPlaces t plan live) plan)
            captured.snapshot ≠ .ok ())) := by
  refine Ensures.bind ((captureSnapshot_ensures hfine).conseq (fun _ _ _ h => h) ?_) ?_
  · rintro k' m' ⟨rfl, hmay | hnone⟩
    · exact ⟨rfl, Or.inl hmay⟩
    · exact ⟨rfl, Or.inr fun captured live lost h => absurd h.capture (hnone captured)⟩
  rintro captured k _ ⟨rfl, rfl, hcapture⟩
  have hsame : ∀ other, k.capture t = .ok other → other = captured := by
    intro other hother
    rw [hcapture] at hother
    exact (Except.ok.inj hother).symm
  refine Ensures.bind (orFail_ensures fun hnone => ⟨rfl, Or.inr fun other live lost h => ?_⟩) ?_
  · have hown := h.ownership
    rw [hsame other h.capture] at hown
    exact absurd hown (hnone live)
  rintro live k _ ⟨rfl, rfl, hlive⟩
  have hsameLive : ∀ {other found lost},
      Tolerable t blake3 plan fingerprint next k other found lost → found = live := by
    intro other found lost h
    have hown := h.ownership
    rw [hsame other h.capture, hlive] at hown
    exact (Except.ok.inj hown).symm
  -- Given a tolerable kernel, only a conflict keeps the last check from passing.
  have howned : ∀ {other found lost}, Tolerable t blake3 plan fingerprint next k other found lost →
      detectResourceConflicts (routingBasis (missingPlaces t plan live) plan) captured.snapshot =
        .ok () →
      OwnedExactly t blake3 plan (routingBasis (missingPlaces t plan live) plan) fingerprint k := by
    intro other found lost h hfree
    obtain rfl := hsameLive h
    obtain rfl := hsame other h.capture
    have hrecords : found = planRoutingRecords t (routingBasis (missingPlaces t plan found) plan) := by
      have hroutes := routes_missingPlaces hplan h.routes
      have hrules := h.rules.trans (rules_routingBasis (missingPlaces t plan found) plan).symm
      cases found
      exact congrArg₂ RoutingRecords.mk hroutes.symm hrules
    exact ⟨⟨other, hcapture, hfree, hlive.trans (congrArg _ hrecords), h.table.1⟩, h.table.2⟩
  by_cases hcarrier : ∃ entry ∈ linkdownUnicast captured, next.usesUnicast entry.1 entry.2 = true
  · rw [if_pos hcarrier]
    refine Ensures.fail ⟨rfl, Or.inr fun other found lost h => ?_⟩
    obtain ⟨entry, hentry, hused⟩ := hcarrier
    rw [h.linkdown _ _ ((mem_linkdownUnicast hcapture).mp hentry)] at hused
    cases hused
  rw [if_neg hcarrier]
  by_cases hmodified : live.rules ≠ (planRoutingRecords t plan).rules ∨
      ¬live.routes ⊆ (planRoutingRecords t plan).routes
  · rw [if_pos hmodified]
    refine Ensures.fail ⟨rfl, Or.inr fun other found lost h => ?_⟩
    obtain rfl := hsameLive h
    rcases hmodified with hrules | hroutes
    · exact absurd h.rules hrules
    · refine absurd ?_ hroutes
      rw [h.routes]
      refine Finset.image_subset_image fun route hroute => ?_
      exact ((mem_routes_routingBasis hplan).mp hroute).1
  rw [if_neg hmodified]
  obtain ⟨hrules, hsubset⟩ := not_or.mp hmodified
  by_cases hincomplete : ∃ route ∈ (planRoutingRecords t plan).routes \ live.routes,
      route.terminal = true ∨ next.usesUnicast route.family route.table = true
  · rw [if_pos hincomplete]
    refine Ensures.fail ⟨rfl, Or.inr fun other found lost h => ?_⟩
    obtain rfl := hsameLive h
    obtain ⟨route, hroute, hused⟩ := hincomplete
    obtain ⟨hmem, hgone⟩ := Finset.mem_sdiff.mp hroute
    obtain ⟨hunicast, hfree⟩ := h.missing route hmem hgone
    rw [hunicast, hfree] at hused
    simp at hused
  rw [if_neg hincomplete]
  refine Ensures.bind ((verifyPersistedOwnershipBasis_ensures hfine).conseq (fun _ _ _ h => h) ?_) ?_
  · rintro k' m' ⟨rfl, hmay | hnot⟩
    · exact ⟨rfl, Or.inl hmay⟩
    · refine ⟨rfl, Or.inr fun other found lost h hfree => hnot ?_⟩
      obtain rfl := hsameLive h
      obtain rfl := hsame other h.capture
      exact howned h hfree
  rintro present k _ ⟨rfl, rfl, hpresent⟩
  cases present with
  | false =>
    refine Ensures.fail ⟨rfl, Or.inr fun other found lost h hfree => ?_⟩
    obtain rfl := hsameLive h
    obtain rfl := hsame other h.capture
    exact Bool.false_ne_true (hpresent.mpr (howned h hfree))
  | true =>
    refine Ensures.pure ⟨rfl, rfl, captured, live, ?_, rfl⟩
    obtain ⟨⟨other, hother, -, hown, htable⟩, hnft⟩ := hpresent.mp rfl
    rw [hsame other hother] at hown htable
    have hrecords := Except.ok.inj (hlive.symm.trans hown)
    refine ⟨hcapture, hlive, not_not.mp hrules, congrArg RoutingRecords.routes hrecords, ?_, ?_,
      htable, hnft⟩
    · intro route hroute hgone
      have hfine := not_exists.mp hincomplete route
      simpa [hroute, hgone] using hfine
    · intro f table hdown
      have hmem : (f, table) ∈ linkdownUnicast captured := (mem_linkdownUnicast hcapture).mpr hdown
      simpa [hmem] using not_exists.mp hcarrier (f, table)

end Ensures

/-- A kernel is tolerated only if it is that of the committed plan but for some unicast
defaults the next plan gives up; and if it is, only a failing command or a conflict keeps it
from being tolerated, with exactly the places of the missing routes. -/
theorem toleratedLostUnicast_exact (t : AddressText) (blake3 : Blake3) {plan : KernelPlan}
    (hplan : validatePrivilegedPlan plan = .ok ()) (fingerprint : String) (next : KernelPlan)
    (w : World Kernel Unit) :
    (∀ lost, (toleratedLostUnicast t blake3 plan fingerprint next w).result = .ok lost →
      ∃ captured live, Tolerable t blake3 plan fingerprint next w.machine captured live lost ∧
        lost = missingPlaces t plan live) ∧
    ((∀ i, w.faults i = false) → ∀ captured live lost,
      Tolerable t blake3 plan fingerprint next w.machine captured live lost →
      detectResourceConflicts (routingBasis (missingPlaces t plan live) plan)
        captured.snapshot = .ok () →
      (toleratedLostUnicast t blake3 plan fingerprint next w).result =
        .ok (missingPlaces t plan live)) := by
  obtain ⟨kernel, m, faults⟩ := w
  have htables := tables_nodup_of_valid hplan
  constructor
  · intro lost hlost
    have h : Ensures (always fun _ => True) kernel m
        (toleratedLostUnicast t blake3 plan fingerprint next) _ _ :=
      toleratedLostUnicast_ensures htables fun _ _ => trivial
    have hrun := h faults (fun _ _ => trivial) fun _ _ => trivial
    rw [hlost] at hrun
    exact hrun.2.2.2.2
  · intro hfaults captured live lost htolerable hfree
    have h : Ensures ⟨False, fun _ => True, fun _ => True⟩ kernel m
        (toleratedLostUnicast t blake3 plan fingerprint next) _ _ :=
      toleratedLostUnicast_ensures htables fun _ _ => trivial
    have hrun := h faults (fun i hi => Bool.false_ne_true ((hfaults i).symm.trans hi))
      fun _ _ => trivial
    cases hresult :
        (toleratedLostUnicast t blake3 plan fingerprint next ⟨kernel, m, faults⟩).result with
    | error e =>
      rw [hresult] at hrun
      rcases hrun.2.2.2 with hmay | hnone
      · exact hmay.elim
      · exact absurd hfree (hnone captured live lost htolerable)
    | ok found =>
      rw [hresult] at hrun
      obtain ⟨-, -, other, found, hfound, rfl⟩ := hrun.2.2
      have hcapture := hfound.capture
      rw [htolerable.capture] at hcapture
      obtain rfl := Except.ok.inj hcapture
      have hlive := hfound.ownership
      rw [htolerable.ownership] at hlive
      rw [Except.ok.inj hlive]

/-- A terminal route as `ip` prints it. -/
def terminalEntry (fields : List (String × JsonValue)) : JsonValue :=
  .object ([("type", .string "unreachable"), ("dst", .string "default"), ("table", .number 20000),
    ("metric", .number terminalRouteMetric), ("protocol", .string "boot")] ++ fields)

/-- The rule of a lane as `ip` prints it. -/
def ruleEntry : JsonValue :=
  .object [("priority", .number 10000), ("src", .string "all"), ("table", .number 20000),
    ("fwmark", .number 0x524c0001)]

/-- The kernel of the plan with one lane, whose default route is gone. -/
def droppedDefault : Kernel where
  routes
    | .v4 => .array [terminalEntry []]
    | .v6 => .array [terminalEntry [("dev", .string "lo"), ("flags", .array [])]]
  rules _ := .array [ruleEntry]
  nftTables := .object [("nftables", .array [.object [("table",
    .object [("family", .string "inet"), ("name", .string "routelane")])]])]
  nftTable := some (renderNftDocument blankDigests (some beforePlan) none false)

/-- What the checks find in it. -/
theorem droppedDefault_checks :
    ∃ captured, droppedDefault.capture .numbers = .ok captured ∧
      liveRoutingOwnership captured =
        .ok (planRoutingRecords .numbers (routingBasis {(.v4, 20000)} beforePlan)) ∧
      detectResourceConflicts (routingBasis {(.v4, 20000)} beforePlan) captured.snapshot = .ok () ∧
      hasOwnTable captured = true := by
  have hcheck : (match droppedDefault.capture .numbers with
      | .ok captured =>
        decide (liveRoutingOwnership captured =
          .ok (planRoutingRecords .numbers (routingBasis {(.v4, 20000)} beforePlan))) &&
        decide (detectResourceConflicts (routingBasis {(.v4, 20000)} beforePlan)
          captured.snapshot = .ok ()) && hasOwnTable captured
      | .error _ => false) = true := by
    decide +kernel
  cases hcapture : droppedDefault.capture .numbers with
  | error source =>
    rw [hcapture] at hcheck
    cases hcheck
  | ok captured =>
    rw [hcapture] at hcheck
    simp only [Bool.and_eq_true, decide_eq_true_eq] at hcheck
    exact ⟨captured, rfl, hcheck.1.1, hcheck.1.2, hcheck.2⟩

theorem toleratedLostUnicast_droppedDefault :
    (toleratedLostUnicast .numbers blankDigests beforePlan "" (linkPlan [] 0x524c0001 2)
      ⟨droppedDefault, (), fun _ => false⟩).result = .ok {(.v4, 20000)} := by
  have hplan : validatePrivilegedPlan beforePlan = .ok () := by decide
  obtain ⟨captured, hcapture, hlive, hfree, htable⟩ := droppedDefault_checks
  have hmissing : missingPlaces .numbers beforePlan
      (planRoutingRecords .numbers (routingBasis {(.v4, 20000)} beforePlan)) = {(.v4, 20000)} := by
    decide +kernel
  have hrules : (planRoutingRecords .numbers (routingBasis {(.v4, 20000)} beforePlan)).rules =
      (planRoutingRecords .numbers beforePlan).rules := rules_routingBasis _ _
  have hgone : ∀ route ∈ (planRoutingRecords .numbers beforePlan).routes,
      route ∉ (planRoutingRecords .numbers (routingBasis {(.v4, 20000)} beforePlan)).routes →
        route.terminal = false ∧
          (linkPlan [] 0x524c0001 2).usesUnicast route.family route.table = false := by
    decide +kernel
  have hmarker : stateChainName blankDigests beforePlan ∈
      chainNames (renderNftDocument blankDigests (some beforePlan) none false) := by
    decide +kernel
  have htolerable : Tolerable .numbers blankDigests beforePlan "" (linkPlan [] 0x524c0001 2)
      droppedDefault captured
      (planRoutingRecords .numbers (routingBasis {(.v4, 20000)} beforePlan)) {(.v4, 20000)} :=
    ⟨hcapture, hlive, hrules, rfl, hgone, fun _ _ _ => rfl, htable, _, rfl, hmarker, rfl⟩
  have h := (toleratedLostUnicast_exact .numbers blankDigests hplan "" (linkPlan [] 0x524c0001 2)
    ⟨droppedDefault, (), fun _ => false⟩).2 (fun _ => rfl) _ _ _ htolerable
  rw [hmissing] at h
  exact h hfree

end Live

end RouteLane
