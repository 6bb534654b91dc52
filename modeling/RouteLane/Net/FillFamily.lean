import RouteLane.Net.ParseTopology

/-!
# The routes and rules of a family

What `fill_family` finds in the routes and policy rules of a family, said without the
order in which it looks: which routes are candidates of an interface, which of them is the
best, what makes the default ambiguous, and which interface is left.
-/

namespace RouteLane

open Fallible

/-! ## One route -/

namespace RouteEntry

/-- The route is in the main table and its device and next hop are up. -/
def live (route : RouteEntry) : Bool :=
  decide (routeTable route.table = .ok 254) &&
    !route.flags.any fun flag => flag == "linkdown" || flag == "dead"

/-- A default of the system that no single interface can be told to carry: it is not
unicast, or it has several next hops. -/
def obstructs (route : RouteEntry) : Bool :=
  route.live && route.isDefault && (route.terminal || !route.nexthops.isEmpty)

/-- A unicast default of the system with one next hop, through a device. -/
def defaultVia (name : String) (route : RouteEntry) : Bool :=
  route.live && route.isDefault && !route.terminal && route.nexthops.isEmpty &&
    route.dev == some name

/-- A unicast route of the main table that is no default, through a device. -/
def leadsVia (name : String) (route : RouteEntry) : Bool :=
  route.live && !route.isDefault && !route.terminal && route.dev == some name

/-- The gateway is of the other family. -/
def mismatched (family : IpFamily) (route : RouteEntry) : Bool :=
  route.gateway.any fun gateway => gateway.family != family

end RouteEntry

/-- The route through which a list of candidates of an interface goes: none has a smaller
metric. -/
def IsBest (candidates : List RouteEntry) (route : RouteEntry) : Prop :=
  route ∈ candidates ∧ ∀ other ∈ candidates, route.metric ≤ other.metric

/-- Two of the best candidates disagree on the gateway. -/
def Equivocal (candidates : List RouteEntry) : Prop :=
  ∃ route other, IsBest candidates route ∧ IsBest candidates other ∧
    route.gateway ≠ other.gateway

section Best

variable {candidates : List RouteEntry} {route best : RouteEntry} {rest : List RouteEntry}

theorem isBest_head
    (h : candidates.insertionSort (fun a b => a.metric ≤ b.metric) = best :: rest) :
    IsBest candidates best := by
  have htotal : Std.Total fun a b : RouteEntry => a.metric ≤ b.metric := ⟨fun a b => le_total _ _⟩
  have htrans : IsTrans RouteEntry fun a b => a.metric ≤ b.metric := ⟨fun _ _ _ => le_trans⟩
  have hsorted := List.pairwise_insertionSort (fun a b : RouteEntry => a.metric ≤ b.metric) candidates
  have hmem (r : RouteEntry) : r ∈ best :: rest ↔ r ∈ candidates := by
    rw [← h, List.mem_insertionSort]
  rw [h] at hsorted
  refine ⟨(hmem best).1 List.mem_cons_self, ?_⟩
  intro other hother
  rcases List.mem_cons.1 ((hmem other).2 hother) with rfl | hother
  · exact le_refl _
  · exact (List.pairwise_cons.1 hsorted).1 other hother

/-- The candidates as good as a best one are the best ones. -/
theorem isBest_iff (h : IsBest candidates best) :
    IsBest candidates route ↔ route ∈ candidates ∧ route.metric = best.metric := by
  constructor
  · intro hroute
    exact ⟨hroute.1, le_antisymm (hroute.2 best h.1) (h.2 route hroute.1)⟩
  · intro ⟨hmem, hmetric⟩
    exact ⟨hmem, fun other hother => hmetric ▸ h.2 other hother⟩

/-- The loop over the candidates compares every gateway with that of the first one. -/
theorem equivocal_iff
    (h : candidates.insertionSort (fun a b => a.metric ≤ b.metric) = best :: rest) :
    Equivocal candidates ↔ ((best :: rest).any fun route =>
      route.metric == best.metric && route.gateway != best.gateway) = true := by
  have hbest := isBest_head h
  have hmem (r : RouteEntry) : r ∈ best :: rest ↔ r ∈ candidates := by
    rw [← h, List.mem_insertionSort]
  rw [List.any_eq_true]
  constructor
  · intro ⟨r, r', hr, hr', hne⟩
    by_cases hgateway : r.gateway = best.gateway
    · have hother : r'.gateway ≠ best.gateway := fun heq => hne (hgateway.trans heq.symm)
      exact ⟨r', (hmem r').2 hr'.1, by simp [((isBest_iff hbest).1 hr').2, hother]⟩
    · exact ⟨r, (hmem r).2 hr.1, by simp [((isBest_iff hbest).1 hr).2, hgateway]⟩
  · intro ⟨r, hr, hdiffers⟩
    rw [Bool.and_eq_true, beq_iff_eq, bne_iff_ne] at hdiffers
    exact ⟨r, best, (isBest_iff hbest).2 ⟨(hmem r).1 hr, hdiffers.1⟩, hbest, hdiffers.2⟩

end Best

/-! ## The loop over the routes -/

/-- The device of a route, where the topology has it. -/
def RouteEntry.interface? (interfaces : OrderedMap String InterfaceTopology) (route : RouteEntry) :
    Option (String × InterfaceTopology) :=
  route.dev.bind fun name => (interfaces.find? name).map fun entry => (name, entry)

/-- What the loop says of a default it cannot use. -/
def obstruction (family : IpFamily) (route : RouteEntry) : String :=
  if route.terminal then familyText family ++ ": terminal or unsupported system default route"
  else "system default is multipath; choose a primary connection explicitly"

/-- More networks an interface is connected to. -/
def connect (networks : List IpNet) (entry : InterfaceTopology) : InterfaceTopology :=
  { entry with connectedNetworks := entry.connectedNetworks ++ networks }

@[simp] theorem connect_nil (entry : InterfaceTopology) : connect [] entry = entry := by
  simp [connect]

@[simp] theorem connect_connect (networks networks' : List IpNet) (entry : InterfaceTopology) :
    connect networks' (connect networks entry) = connect (networks ++ networks') entry := by
  simp [connect]

/-- One round of the loop over the routes, by what the route is. -/
theorem scanRoute_eq {parseNet : String → Option IpNet} {family : IpFamily} {route : RouteEntry}
    {table : ℕ} (htable : routeTable route.table = .ok table) (scan : RouteScan) :
    scanRoute parseNet family scan route =
      if route.obstructs then .ok { scan with ambiguity := some (obstruction family route) }
      else
        match route.interface? scan.interfaces with
        | none => .ok scan
        | some (name, entry) =>
          if route.leadsVia name then
            .ok { scan with
              interfaces := scan.interfaces.insert name
                (connect (connectedNetwork parseNet family route).toList entry) }
          else if route.defaultVia name && entry.linkReady then
            if route.mismatched family then .error "gateway address family mismatch"
            else
              .ok { scan with
                candidates := scan.candidates.insert name
                  ((scan.candidates.find? name).getD [] ++ [route]) }
          else .ok scan := by
  have hskip (hlive : route.live = false) :
      route.obstructs = false ∧ (∀ name, route.leadsVia name = false) ∧
        ∀ name, route.defaultVia name = false := by
    simp [RouteEntry.obstructs, RouteEntry.leadsVia, RouteEntry.defaultVia, hlive]
  unfold scanRoute
  rw [htable]
  show (if table ≠ 254 then Except.ok scan else _) = _
  by_cases hmain : table = 254
  · rw [if_neg (by simpa using hmain)]
    cases hdown : route.flags.any fun flag => flag == "linkdown" || flag == "dead" with
    | true =>
      obtain ⟨hobstructs, hleads, hdefault⟩ := hskip (by simp [RouteEntry.live, hdown])
      simp only [hobstructs, hleads, hdefault]
      cases route.interface? scan.interfaces <;> rfl
    | false =>
      have hlive : route.live = true := by simp [RouteEntry.live, hdown, htable, hmain]
      rw [RouteEntry.obstructs, RouteEntry.interface?]
      simp only [RouteEntry.leadsVia, RouteEntry.defaultVia, hlive]
      cases hterminal : route.terminal with
      | true =>
        cases hdefault : route.isDefault with
        | true => simp [obstruction, hterminal, pure, Except.pure]
        | false => cases route.dev.bind _ <;> simp [pure, Except.pure]
      | false =>
        cases hdefault : route.isDefault with
        | false =>
          cases route.dev with
          | none => simp [pure, Except.pure]
          | some name =>
            cases hfind : scan.interfaces.find? name <;> simp [hfind, connect, pure, Except.pure]
        | true =>
          cases hnexthops : route.nexthops.isEmpty with
          | false => simp [obstruction, hterminal, pure, Except.pure]
          | true =>
            cases route.dev with
            | none => simp [pure, Except.pure]
            | some name =>
              cases hfind : scan.interfaces.find? name with
              | none => simp [hfind, pure, Except.pure]
              | some entry =>
                cases hready : entry.linkReady with
                | false => simp [hfind, hready, pure, Except.pure]
                | true =>
                  cases hmismatched : route.mismatched family <;>
                    simp_all [RouteEntry.mismatched, failIf, bind, Except.bind, pure, Except.pure]
  · obtain ⟨hobstructs, hleads, hdefault⟩ := hskip (by simp [RouteEntry.live, htable, hmain])
    rw [if_pos hmain]
    simp only [hobstructs, hleads, hdefault]
    cases route.interface? scan.interfaces <;> rfl

/-- The loop over the routes gets past the route. -/
def RouteEntry.Readable (family : IpFamily) (interfaces : OrderedMap String InterfaceTopology)
    (route : RouteEntry) : Prop :=
  (∃ table, routeTable route.table = .ok table) ∧
    ∀ name entry, interfaces.find? name = some entry → entry.linkReady = true →
      route.defaultVia name = true → route.mismatched family = false

/-- The routes through which an interface could be the system's default. -/
def candidatesOf (routes : List RouteEntry) (name : String) (entry : InterfaceTopology) :
    List RouteEntry :=
  if entry.linkReady then routes.filter (RouteEntry.defaultVia name) else []

/-- The networks the routes connect an interface to. -/
def networksOf (parseNet : String → Option IpNet) (family : IpFamily) (routes : List RouteEntry)
    (name : String) : List IpNet :=
  (routes.filter (RouteEntry.leadsVia name)).flatMap fun route =>
    (connectedNetwork parseNet family route).toList

/-- What the loop has found once it is through some routes. -/
structure Scanned (parseNet : String → Option IpNet) (family : IpFamily)
    (interfaces : OrderedMap String InterfaceTopology) (routes : List RouteEntry)
    (scan : RouteScan) : Prop where
  ambiguity : scan.ambiguity.isSome = true ↔ ∃ route ∈ routes, route.obstructs = true
  interface : ∀ name, scan.interfaces.find? name =
    (interfaces.find? name).map (connect (networksOf parseNet family routes name))
  candidates : ∀ name, (scan.candidates.find? name).getD [] =
    ((interfaces.find? name).map (candidatesOf routes name)).getD []
  nonempty : ∀ name, scan.candidates.find? name ≠ some []

section Scan

variable {parseNet : String → Option IpNet} {family : IpFamily} {route : RouteEntry}
  {interfaces : OrderedMap String InterfaceTopology} {routes : List RouteEntry} {scan : RouteScan}

theorem networksOf_snoc (name : String) :
    networksOf parseNet family (routes ++ [route]) name =
      networksOf parseNet family routes name ++
        if route.leadsVia name then (connectedNetwork parseNet family route).toList else [] := by
  cases h : route.leadsVia name <;> simp [networksOf, List.filter_append, h]

theorem candidatesOf_snoc (name : String) (entry : InterfaceTopology) :
    candidatesOf (routes ++ [route]) name entry =
      candidatesOf routes name entry ++
        if entry.linkReady && route.defaultVia name then [route] else [] := by
  cases hready : entry.linkReady <;> cases hvia : route.defaultVia name <;>
    simp [candidatesOf, List.filter_append, hready, hvia]

theorem candidatesOf_snoc_of_not {name : String} (h : route.defaultVia name = false) :
    candidatesOf (routes ++ [route]) name = candidatesOf routes name := by
  funext entry
  simp [candidatesOf_snoc, h]

theorem scanned_nil : Scanned parseNet family interfaces [] ⟨interfaces, .empty, none⟩ where
  ambiguity := by simp
  interface name := by cases h : interfaces.find? name <;> simp [networksOf]
  candidates name := by cases h : interfaces.find? name <;> simp [candidatesOf]
  nonempty name := by simp

/-- A route that is neither an obstruction nor anything to an interface leaves all as it is. -/
theorem Scanned.skip (h : Scanned parseNet family interfaces routes scan)
    (hobstructs : route.obstructs = false)
    (hleads : ∀ name entry, interfaces.find? name = some entry → route.leadsVia name = false)
    (hdefault : ∀ name entry, interfaces.find? name = some entry → entry.linkReady = true →
      route.defaultVia name = false) :
    Scanned parseNet family interfaces (routes ++ [route]) scan where
  ambiguity := by simp [h.ambiguity, hobstructs]
  interface name := by
    rw [h.interface name]
    cases hentry : interfaces.find? name with
    | none => rfl
    | some entry => simp [networksOf_snoc, hleads name entry hentry]
  candidates name := by
    rw [h.candidates name]
    cases hentry : interfaces.find? name with
    | none => rfl
    | some entry =>
      cases hready : entry.linkReady with
      | false => simp [candidatesOf_snoc, hready]
      | true => simp [candidatesOf_snoc, hdefault name entry hentry hready]
  nonempty := h.nonempty

theorem RouteEntry.dev_of_leadsVia {name : String} (h : route.leadsVia name = true) :
    route.dev = some name := by
  simp only [RouteEntry.leadsVia, Bool.and_eq_true, beq_iff_eq] at h
  exact h.2

theorem RouteEntry.dev_of_defaultVia {name : String} (h : route.defaultVia name = true) :
    route.dev = some name := by
  simp only [RouteEntry.defaultVia, Bool.and_eq_true, beq_iff_eq] at h
  exact h.2

/-- A route is at most one of the three things the loop looks for. -/
theorem RouteEntry.obstructs_of_leadsVia {name : String} (h : route.leadsVia name = true) :
    route.obstructs = false ∧ ∀ other, route.defaultVia other = false := by
  simp only [RouteEntry.leadsVia, Bool.and_eq_true, Bool.not_eq_true'] at h
  simp [RouteEntry.obstructs, RouteEntry.defaultVia, h]

theorem RouteEntry.obstructs_of_defaultVia {name : String} (h : route.defaultVia name = true) :
    route.obstructs = false ∧ ∀ other, route.leadsVia other = false := by
  simp only [RouteEntry.defaultVia, Bool.and_eq_true, Bool.not_eq_true'] at h
  simp [RouteEntry.obstructs, RouteEntry.leadsVia, h]

/-- The loop looks the device of a route up in the topology it started from. -/
theorem Scanned.interface? (h : Scanned parseNet family interfaces routes scan) :
    route.interface? scan.interfaces = (route.interface? interfaces).map fun found =>
      (found.1, connect (networksOf parseNet family routes found.1) found.2) := by
  unfold RouteEntry.interface?
  cases route.dev with
  | none => rfl
  | some name =>
    show (scan.interfaces.find? name).map _ = ((interfaces.find? name).map _).map _
    rw [h.interface name]
    cases interfaces.find? name <;> rfl

theorem RouteEntry.interface?_eq_some {name : String} {entry : InterfaceTopology} :
    route.interface? interfaces = some (name, entry) ↔
      route.dev = some name ∧ interfaces.find? name = some entry := by
  simp only [RouteEntry.interface?, Option.bind_eq_some_iff, Option.map_eq_some_iff,
    Prod.mk.injEq]
  constructor
  · rintro ⟨_, hdev, _, hfind, rfl, rfl⟩
    exact ⟨hdev, hfind⟩
  · intro ⟨hdev, hfind⟩
    exact ⟨name, hdev, entry, hfind, rfl, rfl⟩

/-- The loop gets past a readable route, and counts it. -/
theorem Scanned.step (h : Scanned parseNet family interfaces routes scan)
    (hreadable : route.Readable family interfaces) :
    ∃ scan', scanRoute parseNet family scan route = .ok scan' ∧
      Scanned parseNet family interfaces (routes ++ [route]) scan' := by
  obtain ⟨⟨table, htable⟩, hgateway⟩ := hreadable
  rw [scanRoute_eq htable, h.interface?]
  cases hobstructs : route.obstructs with
  | true =>
    have hleads (name : String) : route.leadsVia name = false := by
      by_contra hvia
      simp [(RouteEntry.obstructs_of_leadsVia (Bool.of_not_eq_false hvia)).1] at hobstructs
    have hdefault (name : String) : route.defaultVia name = false := by
      by_contra hvia
      simp [(RouteEntry.obstructs_of_defaultVia (Bool.of_not_eq_false hvia)).1] at hobstructs
    refine ⟨{ scan with ambiguity := some (obstruction family route) }, rfl, ?_, ?_, ?_, h.nonempty⟩
    · exact iff_of_true rfl ⟨route, by simp, hobstructs⟩
    · intro name
      rw [networksOf_snoc, hleads name, h.interface name]
      simp
    · intro name
      rw [candidatesOf_snoc_of_not (hdefault name)]
      exact h.candidates name
  | false =>
    cases hfound : route.interface? interfaces with
    | none =>
      have hdev {name : String} {entry : InterfaceTopology}
          (hentry : interfaces.find? name = some entry) : route.dev ≠ some name := by
        intro hdev
        rw [RouteEntry.interface?_eq_some.2 ⟨hdev, hentry⟩] at hfound
        cases hfound
      refine ⟨scan, rfl, h.skip hobstructs ?_ ?_⟩
      · intro name entry hentry
        exact Bool.eq_false_iff.2 fun hvia => hdev hentry (RouteEntry.dev_of_leadsVia hvia)
      · intro name entry hentry _
        exact Bool.eq_false_iff.2 fun hvia => hdev hentry (RouteEntry.dev_of_defaultVia hvia)
    | some found =>
      obtain ⟨name, entry⟩ := found
      obtain ⟨hdev, hentry⟩ := RouteEntry.interface?_eq_some.1 hfound
      have hname {other : String} (hother : route.dev = some other) : other = name :=
        Option.some.inj (hother.symm.trans hdev)
      by_cases hleads : route.leadsVia name = true
      · have hdefault := (RouteEntry.obstructs_of_leadsVia hleads).2
        refine ⟨_, if_pos hleads, ?_, ?_, ?_, h.nonempty⟩
        · simp [h.ambiguity, hobstructs]
        · intro other
          show (scan.interfaces.insert name _).find? other = _
          rw [OrderedMap.find?_insert, networksOf_snoc]
          by_cases heq : other = name
          · subst heq
            simp [hentry, hleads]
          · have hother : route.leadsVia other = false :=
              Bool.eq_false_iff.2 fun hvia => heq (hname (RouteEntry.dev_of_leadsVia hvia))
            simp [heq, hother, h.interface other]
        · intro other
          rw [candidatesOf_snoc_of_not (hdefault other)]
          exact h.candidates other
      · by_cases hvia : route.defaultVia name = true ∧ entry.linkReady = true
        · have hmatches : route.mismatched family = false := hgateway name entry hentry hvia.2 hvia.1
          have hnone := (RouteEntry.obstructs_of_defaultVia hvia.1).2
          refine ⟨{ scan with
            candidates := scan.candidates.insert name
              ((scan.candidates.find? name).getD [] ++ [route]) }, ?_, ?_, ?_, ?_, ?_⟩
          · simp [hleads, hvia, hmatches, connect]
          · simp [h.ambiguity, hobstructs]
          · intro other
            rw [networksOf_snoc, hnone other, h.interface other]
            simp
          · intro other
            show ((scan.candidates.insert name _).find? other).getD [] = _
            rw [OrderedMap.find?_insert]
            by_cases heq : other = name
            · subst heq
              have hbefore := h.candidates other
              simp [hentry, candidatesOf_snoc, hvia, hbefore]
            · have hother : route.defaultVia other = false :=
                Bool.eq_false_iff.2 fun hvia => heq (hname (RouteEntry.dev_of_defaultVia hvia))
              rw [if_neg heq, candidatesOf_snoc_of_not hother]
              exact h.candidates other
          · intro other
            show (scan.candidates.insert name _).find? other ≠ _
            rw [OrderedMap.find?_insert]
            split
            · simp
            · exact h.nonempty other
        · refine ⟨scan, ?_, h.skip hobstructs ?_ ?_⟩
          · have hnot : (route.defaultVia name && entry.linkReady) = false := by
              simpa using hvia
            simp [hleads, hnot, connect]
          · intro other _ _
            refine Bool.eq_false_iff.2 fun hother => hleads ?_
            rw [← hname (RouteEntry.dev_of_leadsVia hother)]
            exact hother
          · intro other entry' hentry' hready
            refine Bool.eq_false_iff.2 fun hother => hvia ?_
            obtain rfl := hname (RouteEntry.dev_of_defaultVia hother)
            obtain rfl := Option.some.inj (hentry.symm.trans hentry')
            exact ⟨hother, hready⟩

/-- The loop does not get past any other route. -/
theorem Scanned.readable (h : Scanned parseNet family interfaces routes scan) {scan' : RouteScan}
    (hscan : scanRoute parseNet family scan route = .ok scan') :
    route.Readable family interfaces := by
  have htable : ∃ table, routeTable route.table = .ok table := by
    unfold scanRoute at hscan
    obtain ⟨table, htable, -⟩ := bind_eq_ok.1 hscan
    exact ⟨table, htable⟩
  refine ⟨htable, ?_⟩
  intro name entry hentry hready hvia
  obtain ⟨table, htable⟩ := htable
  have hfound : route.interface? interfaces = some (name, entry) :=
    RouteEntry.interface?_eq_some.2 ⟨RouteEntry.dev_of_defaultVia hvia, hentry⟩
  obtain ⟨hobstructs, hleads⟩ := RouteEntry.obstructs_of_defaultVia hvia
  rw [scanRoute_eq htable, h.interface?, hfound] at hscan
  by_contra hmismatched
  simp [hobstructs, hleads name, hvia, hready, connect, Bool.of_not_eq_false hmismatched] at hscan

variable (parseNet family interfaces) in
/-- The loop over the routes. -/
theorem scanned_routes (routes : List RouteEntry) :
    ((∀ route ∈ routes, route.Readable family interfaces) →
      ∃ scan, routes.foldlM (scanRoute parseNet family) ⟨interfaces, .empty, none⟩ = .ok scan) ∧
    ∀ scan, routes.foldlM (scanRoute parseNet family) ⟨interfaces, .empty, none⟩ = .ok scan →
      (∀ route ∈ routes, route.Readable family interfaces) ∧
        Scanned parseNet family interfaces routes scan := by
  refine foldlM_history (A := fun seen => ∀ r ∈ seen, r.Readable family interfaces) ?_ ?_ ?_
    (fun _ hr => absurd hr List.not_mem_nil) scanned_nil routes
  · intro pre route hall r hr
    exact hall r (List.mem_append_left _ hr)
  · intro pre route scan hscan hall
    exact hscan.step (hall route (by simp))
  · intro pre route scan scan' hall hscan hstep r hr
    rcases List.mem_append.1 hr with hr | hr
    · exact hall r hr
    · obtain rfl := List.mem_singleton.1 hr
      exact hscan.readable hstep

end Scan

/-! ## The loop over the candidates -/

/-- The route an interface goes through, when its candidates agree on one and it has a source
address. -/
def exit? (family : IpFamily) (candidates : List RouteEntry) (entry : InterfaceTopology) :
    Option RouteEntry :=
  match candidates.insertionSort (fun a b => a.metric ≤ b.metric) with
  | [] => none
  | best :: rest =>
    if (best :: rest).any fun route =>
        route.metric == best.metric && route.gateway != best.gateway then none
    else if entry.hasSource family then some best
    else none

/-- The interface, with its route if there is one. -/
def takeExit (family : IpFamily) (candidates : List RouteEntry) (entry : InterfaceTopology) :
    InterfaceTopology :=
  match exit? family candidates entry with
  | none => entry
  | some best => setRoute entry best.gateway family

section Choice

variable {family : IpFamily} {candidates : List RouteEntry} {entry : InterfaceTopology}
  {best : RouteEntry}

theorem insertionSort_eq_nil_iff {α : Type} {r : α → α → Prop} [DecidableRel r] {l : List α} :
    l.insertionSort r = [] ↔ l = [] := by
  rw [← List.length_eq_zero_iff, List.length_insertionSort, List.length_eq_zero_iff]

theorem not_equivocal_nil : ¬Equivocal [] := by
  intro ⟨route, _, hroute, _⟩
  exact absurd hroute.1 List.not_mem_nil

theorem exit?_eq_none :
    exit? family candidates entry = none ↔
      candidates = [] ∨ Equivocal candidates ∨ entry.hasSource family = false := by
  unfold exit?
  split
  · rename_i h
    simp [insertionSort_eq_nil_iff.1 h]
  · rename_i first rest h
    have hne : candidates ≠ [] := by
      rintro rfl
      cases h
    rw [equivocal_iff h]
    split
    · rename_i hany
      simp [hany]
    · rename_i hany
      cases hsource : entry.hasSource family <;> simp [hany, hne]

theorem exit?_eq_some (h : exit? family candidates entry = some best) :
    IsBest candidates best ∧ ¬Equivocal candidates ∧ entry.hasSource family = true := by
  have hsome : exit? family candidates entry ≠ none := by simp [h]
  rw [Ne, exit?_eq_none, not_or, not_or, Bool.not_eq_false] at hsome
  refine ⟨?_, hsome.2⟩
  unfold exit? at h
  split at h
  · cases h
  · rename_i first rest hsorted
    split at h
    · cases h
    split at h
    · obtain rfl := Option.some.inj h
      exact isBest_head hsorted
    · cases h

theorem chooseRoute_of_equivocal (h : Equivocal candidates) (scan : CandidateScan)
    (name : String) :
    chooseRoute family scan (name, candidates) =
      { scan with ambiguity := some ("multiple equal default routes for " ++ name) } := by
  simp only [chooseRoute]
  split
  · rename_i hsorted
    exact absurd (insertionSort_eq_nil_iff.1 hsorted ▸ h) not_equivocal_nil
  · rename_i hsorted
    rw [if_pos ((equivocal_iff hsorted).1 h)]

theorem chooseRoute_of_not_equivocal (h : ¬Equivocal candidates) (scan : CandidateScan)
    (name : String) :
    chooseRoute family scan (name, candidates) =
      match scan.interfaces.find? name with
      | none => scan
      | some entry =>
        match exit? family candidates entry with
        | none => scan
        | some best =>
          { scan with
            interfaces := scan.interfaces.insert name (setRoute entry best.gateway family)
            available := scan.available ++ [(best.metric, name)] } := by
  simp only [chooseRoute, exit?]
  cases hsorted : candidates.insertionSort fun a b => a.metric ≤ b.metric with
  | nil => cases scan.interfaces.find? name <;> rfl
  | cons best rest =>
    have hagree := fun hany => h ((equivocal_iff hsorted).2 hany)
    simp only [if_neg hagree]
    cases scan.interfaces.find? name with
    | none => rfl
    | some entry => cases hsource : entry.hasSource family <;> simp [hsource]

/-- What the loop has found once it is through the candidates of some interfaces. -/
structure Chosen (family : IpFamily) (before : CandidateScan)
    (seen : List (String × List RouteEntry)) (scan : CandidateScan) : Prop where
  ambiguity : scan.ambiguity.isSome = true ↔
    before.ambiguity.isSome = true ∨ ∃ found ∈ seen, Equivocal found.2
  interface : ∀ name, scan.interfaces.find? name =
    (before.interfaces.find? name).map (takeExit family ((seen.lookup name).getD []))
  available : ∀ metric name, (metric, name) ∈ scan.available ↔
    ∃ candidates entry best, (name, candidates) ∈ seen ∧
      before.interfaces.find? name = some entry ∧
      exit? family candidates entry = some best ∧ best.metric = metric
  nodup : (scan.available.map Prod.snd).Nodup

theorem takeExit_of_none (h : exit? family candidates entry = none) :
    takeExit family candidates entry = entry := by
  rw [takeExit, h]

theorem lookup_snoc {α : Type} {name other : String} {v : α} {seen : List (String × α)} :
    (seen ++ [(name, v)]).lookup other =
      (seen.lookup other).or (if other = name then some v else none) := by
  rw [List.lookup_append, OrderedMap.lookup_cons_entry]
  rfl

section Loop

variable {before scan : CandidateScan} {seen : List (String × List RouteEntry)} {name : String}

theorem lookup_eq_none_of_fresh (hfresh : ∀ found ∈ seen, found.1 ≠ name) :
    seen.lookup name = none := by
  rw [List.lookup_eq_none_iff]
  intro found hfound
  rw [bne_iff_ne]
  exact (hfresh found hfound).symm

theorem exit?_nil : exit? family [] entry = none := exit?_eq_none.2 (Or.inl rfl)

/-- Before its turn an interface is as it was. -/
theorem Chosen.interface_of_fresh (h : Chosen family before seen scan)
    (hfresh : ∀ found ∈ seen, found.1 ≠ name) :
    scan.interfaces.find? name = before.interfaces.find? name := by
  rw [h.interface name, lookup_eq_none_of_fresh hfresh]
  cases before.interfaces.find? name with
  | none => rfl
  | some entry => exact congrArg some (takeExit_of_none exit?_nil)

theorem Chosen.ambiguity_snoc (h : Chosen family before seen scan) {scan' : CandidateScan}
    (hscan : scan'.ambiguity.isSome = true ↔ scan.ambiguity.isSome = true ∨ Equivocal candidates) :
    scan'.ambiguity.isSome = true ↔
      before.ambiguity.isSome = true ∨
        ∃ found ∈ seen ++ [(name, candidates)], Equivocal found.2 := by
  rw [hscan, h.ambiguity]
  simp only [List.mem_append, List.mem_singleton, or_and_right, exists_or, exists_eq_left, or_assoc]

/-- Candidates that give the interface no route change nothing but the ambiguity. -/
theorem Chosen.skip (h : Chosen family before seen scan)
    (hnone : ∀ entry, before.interfaces.find? name = some entry →
      exit? family candidates entry = none) {ambiguity : Option String}
    (hambiguity : ambiguity.isSome = true ↔ scan.ambiguity.isSome = true ∨ Equivocal candidates) :
    Chosen family before (seen ++ [(name, candidates)]) { scan with ambiguity := ambiguity } where
  ambiguity := h.ambiguity_snoc hambiguity
  interface other := by
    show scan.interfaces.find? other = _
    rw [h.interface other, lookup_snoc]
    cases hentry : before.interfaces.find? other with
    | none => rfl
    | some entry =>
      cases hseen : seen.lookup other with
      | some _ => rfl
      | none =>
        by_cases heq : other = name
        · subst heq
          simp [takeExit_of_none exit?_nil, takeExit_of_none (hnone entry hentry)]
        · simp [heq]
  available metric other := by
    show (metric, other) ∈ scan.available ↔ _
    rw [h.available]
    constructor
    · intro ⟨found, entry, best, hmem, hrest⟩
      exact ⟨found, entry, best, List.mem_append_left _ hmem, hrest⟩
    · intro ⟨found, entry, best, hmem, hentry, hexit, hmetric⟩
      rcases List.mem_append.1 hmem with hmem | hmem
      · exact ⟨found, entry, best, hmem, hentry, hexit, hmetric⟩
      · obtain ⟨rfl, rfl⟩ := Prod.mk.inj (List.mem_singleton.1 hmem)
        rw [hnone entry hentry] at hexit
        cases hexit
  nodup := h.nodup

/-- Candidates that give the interface a route make it available. -/
theorem Chosen.take (h : Chosen family before seen scan)
    (hfresh : ∀ found ∈ seen, found.1 ≠ name)
    (hentry : before.interfaces.find? name = some entry)
    (hexit : exit? family candidates entry = some best) :
    Chosen family before (seen ++ [(name, candidates)])
      { scan with
        interfaces := scan.interfaces.insert name (setRoute entry best.gateway family)
        available := scan.available ++ [(best.metric, name)] } where
  ambiguity := by
    refine h.ambiguity_snoc ?_
    simp [(exit?_eq_some hexit).2.1]
  interface other := by
    show (scan.interfaces.insert name _).find? other = _
    rw [OrderedMap.find?_insert, lookup_snoc]
    by_cases heq : other = name
    · subst heq
      simp [hentry, lookup_eq_none_of_fresh hfresh, takeExit, hexit]
    · simp [heq, h.interface other]
  available metric other := by
    show (metric, other) ∈ scan.available ++ [(best.metric, name)] ↔ _
    rw [List.mem_append, h.available, List.mem_singleton, Prod.mk.injEq]
    constructor
    · rintro (⟨found, entry', best', hmem, hrest⟩ | ⟨rfl, rfl⟩)
      · exact ⟨found, entry', best', List.mem_append_left _ hmem, hrest⟩
      · exact ⟨candidates, entry, best, by simp, hentry, hexit, rfl⟩
    · intro ⟨found, entry', best', hmem, hentry', hexit', hmetric⟩
      rcases List.mem_append.1 hmem with hmem | hmem
      · exact Or.inl ⟨found, entry', best', hmem, hentry', hexit', hmetric⟩
      · obtain ⟨rfl, rfl⟩ := Prod.mk.inj (List.mem_singleton.1 hmem)
        obtain rfl := Option.some.inj (hentry.symm.trans hentry')
        obtain rfl := Option.some.inj (hexit.symm.trans hexit')
        exact Or.inr ⟨hmetric.symm, rfl⟩
  nodup := by
    show ((scan.available ++ [(best.metric, name)]).map Prod.snd).Nodup
    rw [List.map_append, List.nodup_append]
    refine ⟨h.nodup, by simp, ?_⟩
    intro other hother other' hother'
    obtain ⟨⟨metric, other⟩, hmem, rfl⟩ := List.mem_map.1 hother
    obtain rfl := List.mem_singleton.1 hother'
    obtain ⟨found, -, -, hseen, -⟩ := (h.available metric other).1 hmem
    exact hfresh (other, found) hseen

/-- One round of the loop. -/
theorem Chosen.step (h : Chosen family before seen scan)
    (hfresh : ∀ found ∈ seen, found.1 ≠ name) :
    Chosen family before (seen ++ [(name, candidates)])
      (chooseRoute family scan (name, candidates)) := by
  by_cases hequivocal : Equivocal candidates
  · rw [chooseRoute_of_equivocal hequivocal]
    refine h.skip ?_ ?_
    · intro entry _
      exact exit?_eq_none.2 (Or.inr (Or.inl hequivocal))
    · simp [hequivocal]
  have hkeep : scan.ambiguity.isSome = true ↔
      scan.ambiguity.isSome = true ∨ Equivocal candidates := by simp [hequivocal]
  rw [chooseRoute_of_not_equivocal hequivocal, h.interface_of_fresh hfresh]
  cases hentry : before.interfaces.find? name with
  | none =>
    refine h.skip ?_ hkeep
    intro entry hentry'
    rw [hentry] at hentry'
    cases hentry'
  | some entry =>
    cases hexit : exit? family candidates entry with
    | none =>
      simp only [hexit]
      refine h.skip ?_ hkeep
      intro entry' hentry'
      obtain rfl := Option.some.inj (hentry.symm.trans hentry')
      exact hexit
    | some best =>
      simp only [hexit]
      exact h.take hfresh hentry hexit

/-- The loop over the candidates. -/
theorem chosen_foldl {before : CandidateScan} (hbefore : before.available = [])
    {entries : List (String × List RouteEntry)} (hnodup : (entries.map Prod.fst).Nodup) :
    Chosen family before entries (entries.foldl (chooseRoute family) before) := by
  have hnil : Chosen family before [] before := by
    refine ⟨by simp, ?_, ?_, by simp [hbefore]⟩
    · intro name
      cases before.interfaces.find? name with
      | none => rfl
      | some entry => exact congrArg some (takeExit_of_none exit?_nil).symm
    · simp [hbefore]
  refine Steps.run_history (chooseRoute family)
    (I := fun seen scan => (seen.map Prod.fst).Nodup → Chosen family before seen scan)
    (fun _ => hnil) ?_ entries hnodup
  intro seen found scan hseen hdistinct
  rw [List.map_append, List.nodup_append] at hdistinct
  refine (hseen hdistinct.1).step ?_
  intro other hother
  exact hdistinct.2.2 other.1 (List.mem_map_of_mem hother) found.1 (by simp)

end Loop

end Choice

/-! ## Policy rules -/

/-- A rule that selects by nothing that is not known, and all addresses. -/
structure PlainRule (rule : List (String × JsonValue)) : Prop where
  known : ∀ field ∈ rule, field.1 ∈ knownSelectors
  everyone : ∀ key ∈ ["src", "dst", "from", "to"], ∀ v, rule.lookup key = some v →
    v.asStr = some "all"
  flags : ∀ v, rule.lookup "flags" = some v → v.asArray = some []

/-- The priority of a rule. -/
def rulePriority (rule : List (String × JsonValue)) : Option ℕ :=
  (rule.lookup "priority").bind jsonNumber

/-- One of the three rules every system has. -/
structure BuiltinRule (rule : List (String × JsonValue)) : Prop where
  plain : PlainRule rule
  unmarked : rule.lookup "fwmark" = none ∧ rule.lookup "fwmask" = none
  builtin : ∃ place ∈ [(0, 255), (32766, 254), (32767, 253)],
    rulePriority rule = some place.1 ∧ routeTable (rule.lookup "table") = .ok place.2

/-- The rule of one of RouteLane's slots. -/
structure RouteLaneRule (rule : List (String × JsonValue)) : Prop where
  plain : PlainRule rule
  mask : ∀ v, rule.lookup "fwmask" = some v → jsonHexNumber v = some (2 ^ 32 - 1)
  slot : ∃ slot, tableBase + slot ≤ tableMax ∧
    routeTable (rule.lookup "table") = .ok (tableBase + slot) ∧
    (rule.lookup "fwmark").bind jsonHexNumber = some (markBase + slot) ∧
    rulePriority rule = some (rulePriorityBase + slot)

/-- The rule is a builtin one or an exact RouteLane tuple. -/
def OrdinaryRule (rule : JsonValue) : Prop :=
  ∃ object, rule.asObject = some object ∧ (BuiltinRule object ∨ RouteLaneRule object)

section Rules

variable {rule : JsonValue} {object : List (String × JsonValue)}

theorem Option.any_eq_false_iff {α : Type} {o : Option α} {p : α → Bool} :
    o.any p = false ↔ ∀ v, o = some v → p v = false := by
  cases o <;> simp

/-- The guards of `ordinary_rule` keep the plain rules. -/
theorem plainRule_iff :
    PlainRule object ↔
      (object.any fun field => !knownSelectors.contains field.1) = false ∧
      (["src", "dst", "from", "to"].any fun key =>
        (object.lookup key).any fun v => v.asStr != some "all") = false ∧
      ((object.lookup "flags").any fun v => !(v.asArray.any List.isEmpty)) = false := by
  have hempty (v : JsonValue) : (!(v.asArray.any List.isEmpty)) = false ↔ v.asArray = some [] := by
    cases v.asArray <;> simp
  simp only [List.any_eq_false, Option.any_eq_false_iff, Bool.not_eq_true, hempty]
  constructor
  · intro h
    refine ⟨?_, ?_, h.flags⟩
    · intro field hfield
      simpa using h.known field hfield
    · intro key hkey v hv
      simpa using h.everyone key hkey v hv
  · intro ⟨hknown, heveryone, hflags⟩
    refine ⟨?_, ?_, hflags⟩
    · intro field hfield
      simpa using hknown field hfield
    · intro key hkey v hv
      simpa using heveryone key hkey v hv

theorem builtinRule_iff (hplain : PlainRule object) {table : ℕ}
    (htable : routeTable (object.lookup "table") = .ok table) :
    BuiltinRule object ↔
      ((object.lookup "fwmark").isNone && (object.lookup "fwmask").isNone &&
        ((rulePriority object == some 0 && table == 255) ||
          (rulePriority object == some 32766 && table == 254) ||
          (rulePriority object == some 32767 && table == 253))) = true := by
  simp only [Bool.and_eq_true, Bool.or_eq_true, beq_iff_eq, Option.isNone_iff_eq_none, or_assoc]
  constructor
  · intro h
    refine ⟨h.unmarked, ?_⟩
    simpa [htable] using h.builtin
  · intro ⟨hunmarked, hbuiltin⟩
    refine ⟨hplain, hunmarked, ?_⟩
    simpa [htable] using hbuiltin

theorem routeLaneRule_iff (hplain : PlainRule object) {table : ℕ}
    (htable : routeTable (object.lookup "table") = .ok table) :
    RouteLaneRule object ↔
      (tableBase ≤ table ∧ table ≤ tableMax ∧
        ∀ v, object.lookup "fwmask" = some v → jsonHexNumber v = some (2 ^ 32 - 1)) ∧
      (object.lookup "fwmark").bind jsonHexNumber = some (markBase + (table - tableBase)) ∧
      rulePriority object = some (rulePriorityBase + (table - tableBase)) := by
  constructor
  · intro h
    obtain ⟨slot, hmax, hslot, hmark, hpriority⟩ := h.slot
    obtain rfl := Except.ok.inj (htable.symm.trans hslot)
    rw [Nat.add_sub_cancel_left]
    exact ⟨⟨Nat.le_add_right _ _, hmax, h.mask⟩, hmark, hpriority⟩
  · intro ⟨⟨hbase, hmax, hmask⟩, hmark, hpriority⟩
    have hslot : tableBase + (table - tableBase) = table := by omega
    exact ⟨hplain, hmask, table - tableBase, by omega, by rw [hslot, htable], hmark, hpriority⟩

theorem ordinaryRule_eq_true : ordinaryRule rule = .ok true ↔ OrdinaryRule rule := by
  unfold ordinaryRule OrdinaryRule
  cases rule.asObject with
  | none => simp
  | some object =>
    by_cases hplain : PlainRule object
    · obtain ⟨hknown, heveryone, hflags⟩ := plainRule_iff.1 hplain
      have hunique : (∃ o, some object = some o ∧ (BuiltinRule o ∨ RouteLaneRule o)) ↔
          BuiltinRule object ∨ RouteLaneRule object := by simp
      simp only [hknown, heveryone, hflags, Bool.false_eq_true, if_false]
      rw [hunique]
      cases htable : routeTable (object.lookup "table") with
      | error e =>
        refine iff_of_false (by intro h; cases h) ?_
        rintro (h | h)
        · obtain ⟨place, -, -, hplace⟩ := h.builtin
          rw [htable] at hplace
          cases hplace
        · obtain ⟨slot, -, hslot, -⟩ := h.slot
          rw [htable] at hslot
          cases hslot
      | ok table =>
        rw [builtinRule_iff hplain htable, routeLaneRule_iff hplain htable]
        by_cases hbuiltin : ((object.lookup "fwmark").isNone && (object.lookup "fwmask").isNone &&
            ((rulePriority object == some 0 && table == 255) ||
              (rulePriority object == some 32766 && table == 254) ||
              (rulePriority object == some 32767 && table == 253))) = true
        · exact iff_of_true (if_pos hbuiltin) (Or.inl hbuiltin)
        · simp only [bind, Except.bind, rulePriority] at hbuiltin ⊢
          rw [if_neg hbuiltin, or_iff_right hbuiltin]
          by_cases hrange : tableBase ≤ table ∧ table ≤ tableMax
          · cases hmask : object.lookup "fwmask" with
            | none => simp [hrange, pure, Except.pure]
            | some v =>
              by_cases hfull : jsonHexNumber v = some 4294967295 <;>
                simp [hrange, hfull, pure, Except.pure]
          · simp [hrange, ← and_assoc, pure, Except.pure]
    · have hrefused : ¬(BuiltinRule object ∨ RouteLaneRule object) :=
        fun h => hplain (h.elim BuiltinRule.plain RouteLaneRule.plain)
      refine iff_of_false ?_ fun ⟨_, hobject, h⟩ => hrefused (Option.some.inj hobject ▸ h)
      intro h
      simp only at h
      split at h
      · cases h
      split at h
      · cases h
      split at h
      · cases h
      · rename_i hknown heveryone hflags
        exact hplain (plainRule_iff.2 ⟨Bool.eq_false_iff.2 hknown, Bool.eq_false_iff.2 heveryone,
          Bool.eq_false_iff.2 hflags⟩)

end Rules

/-- The loop over the policy rules. -/
theorem scanned_rules (family : IpFamily) (ambiguity : Option String) (rules : List JsonValue) :
    ((∀ rule ∈ rules, ∃ ordinary, ordinaryRule rule = .ok ordinary) →
      ∃ found, rules.foldlM (scanRule family) ambiguity = .ok found) ∧
    ∀ found, rules.foldlM (scanRule family) ambiguity = .ok found →
      (∀ rule ∈ rules, ∃ ordinary, ordinaryRule rule = .ok ordinary) ∧
        (found.isSome = true ↔
          ambiguity.isSome = true ∨ ∃ rule ∈ rules, ¬OrdinaryRule rule) := by
  refine foldlM_history (A := fun seen => ∀ rule ∈ seen, ∃ ordinary, ordinaryRule rule = .ok ordinary)
    ?_ ?_ ?_ (fun _ hr => absurd hr List.not_mem_nil)
    (I := fun seen (found : Option String) => found.isSome = true ↔
      ambiguity.isSome = true ∨ ∃ rule ∈ seen, ¬OrdinaryRule rule) (by simp) rules
  · intro pre rule hall r hr
    exact hall r (List.mem_append_left _ hr)
  · intro pre rule found hfound hall
    obtain ⟨ordinary, hordinary⟩ := hall rule (by simp)
    refine ⟨_, bind_eq_ok.2 ⟨ordinary, hordinary, rfl⟩, ?_⟩
    cases ordinary with
    | true => simp [hfound, ordinaryRule_eq_true.1 hordinary]
    | false =>
      have hforeign : ¬OrdinaryRule rule := by
        rw [← ordinaryRule_eq_true, hordinary]
        simp
      simp [hforeign]
  · intro pre rule found found' hall _ hstep r hr
    rcases List.mem_append.1 hr with hr | hr
    · exact hall r hr
    · obtain rfl := List.mem_singleton.1 hr
      obtain ⟨ordinary, hordinary, -⟩ := bind_eq_ok.1 hstep
      exact ⟨ordinary, hordinary⟩

/-! ## The selection -/

section Selection

variable {ambiguity : Option String} {available : List (ℕ × String)} {name : String}

/-- The only interface, or the only one of the smallest metric. -/
def Leads (available : List (ℕ × String)) (name : String) : Prop :=
  ∃ metric, (metric, name) ∈ available ∧
    ∀ other ∈ available, other.2 ≠ name → metric < other.1

theorem eq_of_name (hnodup : (available.map Prod.snd).Nodup) {a b : ℕ × String}
    (ha : a ∈ available) (hb : b ∈ available) (h : a.2 = b.2) : a = b :=
  List.inj_on_of_nodup_map hnodup ha hb h

/-- What the sort by metric and name leaves. -/
theorem sorted_available (available : List (ℕ × String)) :
    (available.insertionSort fun a b => a.1 < b.1 ∨ a.1 = b.1 ∧ a.2 ≤ b.2).Pairwise
      fun a b => a.1 ≤ b.1 := by
  have htotal : Std.Total fun a b : ℕ × String => a.1 < b.1 ∨ a.1 = b.1 ∧ a.2 ≤ b.2 := by
    refine ⟨fun a b => ?_⟩
    rcases lt_trichotomy a.1 b.1 with h | h | h
    · exact Or.inl (Or.inl h)
    · rcases le_total a.2 b.2 with h' | h'
      · exact Or.inl (Or.inr ⟨h, h'⟩)
      · exact Or.inr (Or.inr ⟨h.symm, h'⟩)
    · exact Or.inr (Or.inl h)
  have htrans : IsTrans (ℕ × String) fun a b => a.1 < b.1 ∨ a.1 = b.1 ∧ a.2 ≤ b.2 := by
    refine ⟨fun a b c hab hbc => ?_⟩
    rcases hab with hab | ⟨hab, hab'⟩
    · rcases hbc with hbc | ⟨hbc, -⟩ <;> left <;> omega
    · rcases hbc with hbc | ⟨hbc, hbc'⟩
      · left
        omega
      · exact Or.inr ⟨hab.trans hbc, hab'.trans hbc'⟩
  refine (List.pairwise_insertionSort _ available).imp ?_
  intro a b h
  omega

/-- The first of the sorted list leads when it is before all others. -/
theorem leads_iff (hnodup : (available.map Prod.snd).Nodup) {first : ℕ × String}
    {rest : List (ℕ × String)}
    (h : available.insertionSort (fun a b => a.1 < b.1 ∨ a.1 = b.1 ∧ a.2 ≤ b.2) = first :: rest) :
    Leads available name ↔ first.2 = name ∧ ∀ other ∈ rest, first.1 < other.1 := by
  have hperm : available.Perm (first :: rest) := h ▸ (List.perm_insertionSort _ available).symm
  have hsorted : (first :: rest).Pairwise fun a b => a.1 ≤ b.1 := h ▸ sorted_available available
  have hdistinct : first ∉ rest := by
    have hnodup' : (first :: rest).Nodup := hperm.nodup_iff.1 hnodup.of_map
    exact (List.nodup_cons.1 hnodup').1
  have hfirst : first ∈ available := hperm.mem_iff.2 List.mem_cons_self
  constructor
  · intro ⟨metric, hmem, hless⟩
    have hname : first.2 = name := by
      by_contra hne
      have hlt := hless first hfirst hne
      rcases List.mem_cons.1 (hperm.mem_iff.1 hmem) with rfl | hlater
      · exact hne rfl
      · have hle := (List.pairwise_cons.1 hsorted).1 _ hlater
        omega
    refine ⟨hname, ?_⟩
    obtain rfl := eq_of_name hnodup hfirst hmem hname
    intro other hother
    have hmem' : other ∈ available := hperm.mem_iff.2 (List.mem_cons_of_mem _ hother)
    refine hless other hmem' fun heq => hdistinct ?_
    rw [← eq_of_name hnodup hmem' hfirst heq]
    exact hother
  · intro ⟨hname, hless⟩
    refine ⟨first.1, hname ▸ hfirst, ?_⟩
    intro other hother hne
    rcases List.mem_cons.1 (hperm.mem_iff.1 hother) with rfl | hlater
    · exact absurd hname hne
    · exact hless other hlater

theorem selectDefault_eq_none :
    selectDefault ambiguity available = .none ↔ ambiguity = none ∧ available = [] := by
  cases ambiguity with
  | some reason => simp [selectDefault]
  | none =>
    rw [← insertionSort_eq_nil_iff (r := fun a b => a.1 < b.1 ∨ a.1 = b.1 ∧ a.2 ≤ b.2)]
    simp only [selectDefault]
    split
    · simp [*]
    · simp [*]
    · split <;> simp [*]

theorem selectDefault_eq_interface (hnodup : (available.map Prod.snd).Nodup) :
    selectDefault ambiguity available = .interface name ↔
      ambiguity = none ∧ Leads available name := by
  cases ambiguity with
  | some reason => simp [selectDefault]
  | none =>
    simp only [selectDefault]
    split
    · rename_i h
      simp [insertionSort_eq_nil_iff.1 h, Leads]
    · rename_i h
      simp [leads_iff hnodup h]
    · rename_i metric first metric' second rest h
      have hsorted : ((metric, first) :: (metric', second) :: rest).Pairwise fun a b => a.1 ≤ b.1 :=
        h ▸ sorted_available available
      obtain ⟨hhead, htail⟩ := List.pairwise_cons.1 hsorted
      rw [leads_iff hnodup h]
      split
      · rename_i heq
        simp [heq]
      · rename_i hne
        have hall : ∀ other ∈ (metric', second) :: rest, metric < other.1 := by
          intro other hother
          have hle : metric ≤ metric' := hhead _ List.mem_cons_self
          rcases List.mem_cons.1 hother with rfl | hother
          · exact lt_of_le_of_ne hle hne
          · have hle' : metric' ≤ other.1 := (List.pairwise_cons.1 htail).1 other hother
            omega
        simp only [DefaultSelection.interface.injEq, true_and]
        exact ⟨fun heq => ⟨heq, hall⟩, fun h => h.1⟩

end Selection

/-! ## A family -/

/-- Every route and every rule of a family can be read. -/
structure FamilyReadable (family : IpFamily) (interfaces : OrderedMap String InterfaceTopology)
    (routes : List RouteEntry) (rules : List JsonValue) : Prop where
  routes : ∀ route ∈ routes, route.Readable family interfaces
  rules : ∀ rule ∈ rules, ∃ ordinary, ordinaryRule rule = .ok ordinary

/-- There is a reason to call the default ambiguous before any two interfaces are compared. -/
def Conflicting (interfaces : OrderedMap String InterfaceTopology) (routes : List RouteEntry)
    (rules : List JsonValue) : Prop :=
  (∃ route ∈ routes, route.obstructs = true) ∨
    (∃ name entry, interfaces.find? name = some entry ∧
      Equivocal (candidatesOf routes name entry)) ∨
    ∃ rule ∈ rules, ¬OrdinaryRule rule

/-- The system can leave by an interface, at best with a metric. -/
def ExitOf (family : IpFamily) (interfaces : OrderedMap String InterfaceTopology)
    (routes : List RouteEntry) (name : String) (metric : ℕ) : Prop :=
  ∃ entry best, interfaces.find? name = some entry ∧ entry.hasSource family = true ∧
    IsBest (candidatesOf routes name entry) best ∧ best.metric = metric

/-- An interface after the routes of a family. -/
def fillEntry (parseNet : String → Option IpNet) (family : IpFamily) (routes : List RouteEntry)
    (name : String) (entry : InterfaceTopology) : InterfaceTopology :=
  sortNetworks (takeExit family (candidatesOf routes name entry)
    (connect (networksOf parseNet family routes name) entry))

/-- A snapshot after the routes and rules of a family. -/
structure Filled (parseNet : String → Option IpNet) (family : IpFamily)
    (snapshot : TopologySnapshot) (routes : List RouteEntry) (rules : List JsonValue)
    (filled : TopologySnapshot) : Prop where
  interface : ∀ name, filled.interfaces.find? name =
    (snapshot.interfaces.find? name).map (fillEntry parseNet family routes name)
  only : ∀ name, filled.defaults.get family = .interface name ↔
    ¬Conflicting snapshot.interfaces routes rules ∧
      ∃ metric, ExitOf family snapshot.interfaces routes name metric ∧
        ∀ other metric', ExitOf family snapshot.interfaces routes other metric' →
          other ≠ name → metric < metric'
  absent : filled.defaults.get family = .none ↔
    ¬Conflicting snapshot.interfaces routes rules ∧
      ∀ name metric, ¬ExitOf family snapshot.interfaces routes name metric
  others : ∀ other, other ≠ family → filled.defaults.get other = snapshot.defaults.get other
  assigned : filled.assignedAddresses = snapshot.assignedAddresses

section Fill

variable {parseNet : String → Option IpNet} {family : IpFamily} {routes : List RouteEntry}
  {rules : List JsonValue} {interfaces : OrderedMap String InterfaceTopology} {scan : RouteScan}
  {chosen : CandidateScan}

/-- The candidates the loop over the routes keeps for an interface. -/
theorem Scanned.find?_candidates (h : Scanned parseNet family interfaces routes scan)
    {name : String} {candidates : List RouteEntry} :
    scan.candidates.find? name = some candidates ↔
      candidates ≠ [] ∧ ∃ entry, interfaces.find? name = some entry ∧
        candidatesOf routes name entry = candidates := by
  have hfound := h.candidates name
  constructor
  · intro hfind
    have hne : candidates ≠ [] := fun heq => h.nonempty name (heq ▸ hfind)
    refine ⟨hne, ?_⟩
    rw [hfind] at hfound
    cases hentry : interfaces.find? name with
    | none =>
      rw [hentry] at hfound
      exact absurd hfound hne
    | some entry =>
      rw [hentry] at hfound
      exact ⟨entry, rfl, hfound.symm⟩
  · intro ⟨hne, entry, hentry, hcandidates⟩
    rw [hentry] at hfound
    cases hfind : scan.candidates.find? name with
    | none =>
      rw [hfind] at hfound
      exact absurd (hcandidates.symm.trans hfound.symm) hne
    | some found =>
      rw [hfind] at hfound
      exact congrArg some (hfound.trans hcandidates)

theorem exit?_connect (candidates : List RouteEntry) (networks : List IpNet)
    (entry : InterfaceTopology) :
    exit? family candidates (connect networks entry) = exit? family candidates entry := by
  cases family <;> rfl

/-- The loop over the candidates finds two gateways where there are two. -/
theorem exists_equivocal_iff (h : Scanned parseNet family interfaces routes scan) :
    (∃ found ∈ scan.candidates.entries, Equivocal found.2) ↔
      ∃ name entry, interfaces.find? name = some entry ∧
        Equivocal (candidatesOf routes name entry) := by
  constructor
  · intro ⟨found, hfound, hequivocal⟩
    obtain ⟨-, entry, hentry, hcandidates⟩ :=
      h.find?_candidates.1 (OrderedMap.find?_eq_some_iff.2 hfound)
    exact ⟨found.1, entry, hentry, hcandidates ▸ hequivocal⟩
  · intro ⟨name, entry, hentry, hequivocal⟩
    have hne : candidatesOf routes name entry ≠ [] := by
      intro hnil
      exact not_equivocal_nil (hnil ▸ hequivocal)
    exact ⟨(name, candidatesOf routes name entry),
      OrderedMap.find?_eq_some_iff.1 (h.find?_candidates.2 ⟨hne, entry, hentry, rfl⟩), hequivocal⟩

/-- What the loop over the candidates makes available is what the system can leave by, unless
an interface has two gateways. -/
theorem mem_available_iff (h : Scanned parseNet family interfaces routes scan)
    (hchosen : Chosen family ⟨scan.interfaces, [], scan.ambiguity⟩ scan.candidates.entries chosen)
    (hagree : ¬∃ name entry, interfaces.find? name = some entry ∧
      Equivocal (candidatesOf routes name entry)) {name : String} {metric : ℕ} :
    (metric, name) ∈ chosen.available ↔ ExitOf family interfaces routes name metric := by
  rw [hchosen.available]
  constructor
  · intro ⟨candidates, found, best, hmem, hfound, hexit, hmetric⟩
    obtain ⟨-, entry, hentry, rfl⟩ := h.find?_candidates.1 (OrderedMap.find?_eq_some_iff.2 hmem)
    have hconnected : some (connect (networksOf parseNet family routes name) entry) = some found := by
      rw [← hfound, h.interface name, hentry]
      rfl
    obtain rfl := Option.some.inj hconnected
    rw [exit?_connect] at hexit
    obtain ⟨hbest, -, hsource⟩ := exit?_eq_some hexit
    exact ⟨entry, best, hentry, hsource, hbest, hmetric⟩
  · intro ⟨entry, best, hentry, hsource, hbest, hmetric⟩
    have hne : candidatesOf routes name entry ≠ [] := List.ne_nil_of_mem hbest.1
    cases hexit : exit? family (candidatesOf routes name entry) entry with
    | none =>
      rcases exit?_eq_none.1 hexit with hnil | hequivocal | hnone
      · exact absurd hnil hne
      · exact absurd ⟨name, entry, hentry, hequivocal⟩ hagree
      · rw [hsource] at hnone
        cases hnone
    | some taken =>
      refine ⟨candidatesOf routes name entry, connect (networksOf parseNet family routes name) entry,
        taken, ?_, ?_, ?_, ?_⟩
      · exact OrderedMap.find?_eq_some_iff.1 (h.find?_candidates.2 ⟨hne, entry, hentry, rfl⟩)
      · show scan.interfaces.find? name = _
        rw [h.interface name, hentry]
        rfl
      · rw [exit?_connect, hexit]
      · have htaken := (exit?_eq_some hexit).1
        rw [((isBest_iff hbest).1 htaken).2, hmetric]

theorem nodup_keys {α : Type} (m : OrderedMap String α) : (m.entries.map Prod.fst).Nodup := by
  rw [List.Nodup, List.pairwise_map]
  exact m.sorted.imp fun h => h.ne

theorem hasSource_connect (networks : List IpNet) (entry : InterfaceTopology) :
    (connect networks entry).hasSource family = entry.hasSource family := by
  cases family <;> rfl

/-- What the rest of `fill_family` makes of the routes it has scanned. -/
theorem filled_of_scanned {snapshot : TopologySnapshot} {ambiguity : Option String}
    (h : Scanned parseNet family snapshot.interfaces routes scan)
    (hchosen : Chosen family ⟨scan.interfaces, [], scan.ambiguity⟩ scan.candidates.entries chosen)
    (hrules : ambiguity.isSome = true ↔
      chosen.ambiguity.isSome = true ∨ ∃ rule ∈ rules, ¬OrdinaryRule rule)
    {filled : TopologySnapshot}
    (hinterfaces : filled.interfaces = chosen.interfaces.mapValues sortNetworks)
    (hdefault : filled.defaults.get family = selectDefault ambiguity chosen.available)
    (hothers : ∀ other, other ≠ family → filled.defaults.get other = snapshot.defaults.get other)
    (hassigned : filled.assignedAddresses = snapshot.assignedAddresses) :
    Filled parseNet family snapshot routes rules filled := by
  have hconflict : ambiguity = none ↔ ¬Conflicting snapshot.interfaces routes rules := by
    have hsome : ambiguity.isSome = true ↔ Conflicting snapshot.interfaces routes rules := by
      rw [hrules, hchosen.ambiguity, h.ambiguity, exists_equivocal_iff h, or_assoc]
      rfl
    rw [← hsome]
    cases ambiguity <;> simp
  have hagree (hquiet : ¬Conflicting snapshot.interfaces routes rules) :
      ¬∃ name entry, snapshot.interfaces.find? name = some entry ∧
        Equivocal (candidatesOf routes name entry) :=
    fun hequivocal => hquiet (Or.inr (Or.inl hequivocal))
  refine ⟨?_, ?_, ?_, hothers, hassigned⟩
  · intro name
    rw [hinterfaces, OrderedMap.find?_mapValues, hchosen.interface name]
    show ((scan.interfaces.find? name).map _).map sortNetworks = _
    rw [h.interface name]
    cases hentry : snapshot.interfaces.find? name with
    | none => rfl
    | some entry =>
      have hcandidates : (scan.candidates.entries.lookup name).getD [] =
          candidatesOf routes name entry := by
        have hfound := h.candidates name
        rw [hentry] at hfound
        exact hfound
      simp only [Option.map_some, hcandidates, fillEntry]
  · intro name
    rw [hdefault, selectDefault_eq_interface hchosen.nodup, hconflict]
    refine and_congr_right fun hquiet => ?_
    unfold Leads
    refine exists_congr fun metric => and_congr (mem_available_iff h hchosen (hagree hquiet)) ?_
    constructor
    · intro hless other metric' hexit hne
      exact hless (metric', other) ((mem_available_iff h hchosen (hagree hquiet)).2 hexit) hne
    · intro hless other hother hne
      exact hless other.2 other.1 ((mem_available_iff h hchosen (hagree hquiet)).1 hother) hne
  · rw [hdefault, selectDefault_eq_none, hconflict, List.eq_nil_iff_forall_not_mem]
    refine and_congr_right fun hquiet => ?_
    constructor
    · intro hnone name metric hexit
      exact hnone (metric, name) ((mem_available_iff h hchosen (hagree hquiet)).2 hexit)
    · intro hnone found hfound
      exact hnone found.2 found.1 ((mem_available_iff h hchosen (hagree hquiet)).1 hfound)

/-- `fill_family` reads what can be read, and nothing else. -/
theorem fillFamily_spec (snapshot : TopologySnapshot) :
    (FamilyReadable family snapshot.interfaces routes rules →
      ∃ filled, fillFamily parseNet snapshot family routes rules = .ok filled) ∧
    ∀ filled, fillFamily parseNet snapshot family routes rules = .ok filled →
      FamilyReadable family snapshot.interfaces routes rules ∧
        Filled parseNet family snapshot routes rules filled := by
  have hscan := scanned_routes parseNet family snapshot.interfaces routes
  constructor
  · intro hreadable
    obtain ⟨scan, hroutes⟩ := hscan.1 hreadable.routes
    obtain ⟨ambiguity, hrules⟩ := (scanned_rules family
      (scan.candidates.entries.foldl (chooseRoute family)
        ⟨scan.interfaces, [], scan.ambiguity⟩).ambiguity rules).1 hreadable.rules
    exact ⟨_, bind_eq_ok.2 ⟨scan, hroutes, bind_eq_ok.2 ⟨ambiguity, hrules, rfl⟩⟩⟩
  · intro filled h
    obtain ⟨scan, hroutes, h⟩ := bind_eq_ok.1 h
    obtain ⟨ambiguity, hrules, h⟩ := bind_eq_ok.1 h
    obtain rfl := Except.ok.inj h
    obtain ⟨hreadable, hscanned⟩ := hscan.2 scan hroutes
    obtain ⟨hordinary, hambiguity⟩ := (scanned_rules family _ rules).2 ambiguity hrules
    have hchosen : Chosen family ⟨scan.interfaces, [], scan.ambiguity⟩ scan.candidates.entries _ :=
      chosen_foldl rfl (nodup_keys scan.candidates)
    refine ⟨⟨hreadable, hordinary⟩, filled_of_scanned hscanned hchosen hambiguity rfl ?_ ?_ rfl⟩
    · cases family <;> rfl
    · intro other hne
      cases family <;> cases other <;> first | rfl | exact absurd rfl hne

end Fill

end RouteLane
