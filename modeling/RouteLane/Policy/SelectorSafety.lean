import RouteLane.Lib.Steps
import RouteLane.Policy.PrimarySelector

/-!
# Runs of the primary selector

Whatever policies, snapshots and clock readings a selector is fed, the exit it settles on
is blocked or a lane that is ready on the very device it was bound to.  Whether it is also
one that somebody asked for is another matter: an exit that was preferred under an earlier
system default stays when the default moves on.
-/

namespace RouteLane

open Steps

/-- What one update of a selector is given. -/
structure SelectorInput where
  policy : RoutingPolicy
  topology : TopologySnapshot
  now : ℕ

namespace PrimarySelector

/-- One update. -/
def feed (selector : PrimarySelector) (input : SelectorInput) : PrimarySelector :=
  (selector.update input.policy input.topology input.now).1

/-- A selector as `new` starts it, or as `resume` does from an earlier decision. -/
def start (profile : Profile) (frozen : TopologySnapshot) :
    Option PrimaryDecision → PrimarySelector
  | none => new profile frozen
  | some previous => resume profile frozen previous

end PrimarySelector

/-- A lane is ready for a family on the device that was frozen for it. -/
def FrozenReady (bindings : OrderedMap LaneId InterfaceIdentity) (topology : TopologySnapshot)
    (family : IpFamily) (id : LaneId) : Prop :=
  ∃ identity entry, bindings.find? id = some identity ∧
    topology.interface identity.name = some entry ∧ entry.identity = some identity ∧
    entry.ready family = true

variable {bindings : OrderedMap LaneId InterfaceIdentity} {policy : RoutingPolicy}
  {topology : TopologySnapshot} {family : IpFamily} {now : ℕ} {state : FamilyState}

theorem boundReady_iff {id : LaneId} : boundReady bindings topology family id = true ↔
    topology.observed = true ∧ FrozenReady bindings topology family id := by
  simp only [boundReady, FrozenReady, Bool.and_eq_true, Option.any_eq_true, decide_eq_true_eq]
  constructor
  · rintro ⟨hobserved, identity, hidentity, entry, hentry, hsame, hready⟩
    exact ⟨hobserved, identity, entry, hidentity, hentry, hsame, hready⟩
  · rintro ⟨hobserved, identity, entry, hidentity, hentry, hsame, hready⟩
    exact ⟨hobserved, identity, hidentity, entry, hentry, hsame, hready⟩

/-! ## One update of a family -/

/-- The preferred lane has been back for long enough. -/
def failbackDue (state : FamilyState) (preferred : Option LaneId) (now : ℕ) : Bool :=
  match state.readySince with
  | none => false
  | some since => decide (state.preferred = preferred ∧ since + failbackDelay ≤ now)

/-- The timer of an update: it fires when the failback is due, and otherwise the exit stays. -/
theorem effective_timer (preferred : Option LaneId) (primary : LaneId) (effective : FamilyExit) :
    (match checkedSub now
        ((if state.preferred ≠ preferred then none else state.readySince).getD now) with
      | none => FamilyState.mk preferred effective (some now)
      | some elapsed =>
        if failbackDelay ≤ elapsed then ⟨preferred, .lane primary, none⟩
        else ⟨preferred, effective,
          some ((if state.preferred ≠ preferred then none else state.readySince).getD now)⟩).effective =
      if failbackDue state preferred now then .lane primary else effective := by
  have hpositive : ¬ failbackDelay ≤ 0 := by
    rw [failbackDelay]
    omega
  unfold failbackDue
  -- The proof does not depend on how long the delay is.
  generalize failbackDelay = delay at hpositive ⊢
  have hrestarted : checkedSub now now = some 0 := by simp [checkedSub]
  by_cases hsame : state.preferred = preferred
  · cases hsince : state.readySince with
    | none => simp [hsame, hrestarted, hpositive]
    | some since =>
      simp only [hsame, ne_eq, not_true_eq_false, if_false, Option.getD_some, true_and,
        decide_eq_true_eq]
      by_cases hpast : since ≤ now
      · have hsub : checkedSub now since = some (now - since) := if_pos hpast
        by_cases helapsed : delay ≤ now - since
        · have hfires : since + delay ≤ now := by omega
          simp only [hsub, if_pos helapsed, if_pos hfires]
        · have hwaits : ¬ since + delay ≤ now := by omega
          simp only [hsub, if_neg helapsed, if_neg hwaits]
      · have hsub : checkedSub now since = none := if_neg hpast
        have hwaits : ¬ since + delay ≤ now := by omega
        simp only [hsub, if_neg hwaits]
  · cases state.readySince <;> simp [hsame, hrestarted, hpositive]

/-- The exit an update settles on. -/
theorem effective_updateFamily :
    (updateFamily bindings policy topology family now state).effective =
      if (preferredLane bindings policy topology family).2 then .blocked
      else if exitStays bindings policy topology family
          (preferredLane bindings policy topology family).1 state.effective then
        match returningLane bindings topology family
            (preferredLane bindings policy topology family).1 state.effective with
        | some primary =>
          if failbackDue state (preferredLane bindings policy topology family).1 now then
            .lane primary
          else state.effective
        | none => state.effective
      else ((chooseExit bindings policy topology family
        (preferredLane bindings policy topology family).1).map FamilyExit.lane).getD .blocked := by
  unfold updateFamily
  generalize preferredLane bindings policy topology family = preference
  obtain ⟨preferred, ambiguous⟩ := preference
  simp only
  cases ambiguous with
  | true => rfl
  | false =>
    cases hstays : exitStays bindings policy topology family preferred state.effective with
    | false => rfl
    | true =>
      simp only [Bool.false_eq_true, if_false, Bool.not_true, if_true]
      cases hreturning : returningLane bindings topology family preferred state.effective with
      | none => rfl
      | some primary => exact effective_timer preferred primary state.effective

/-- An exit is only chosen, kept or returned to when it is ready. -/
theorem boundReady_updateFamily {id : LaneId}
    (h : (updateFamily bindings policy topology family now state).effective = .lane id) :
    boundReady bindings topology family id = true := by
  rw [effective_updateFamily] at h
  generalize preferredLane bindings policy topology family = preference at h
  obtain ⟨preferred, ambiguous⟩ := preference
  cases ambiguous with
  | true => cases h
  | false =>
    rw [if_neg Bool.false_ne_true] at h
    cases hstays : exitStays bindings policy topology family preferred state.effective with
    | false =>
      rw [hstays, if_neg Bool.false_ne_true] at h
      obtain ⟨chosen, hchosen, rfl⟩ : ∃ chosen,
          chooseExit bindings policy topology family preferred = some chosen ∧ chosen = id := by
        cases hchoose : chooseExit bindings policy topology family preferred with
        | none => simp [hchoose] at h
        | some chosen => exact ⟨chosen, rfl, by simpa [hchoose] using h⟩
      rw [chooseExit] at hchosen
      rcases Option.or_eq_some_iff.1 hchosen with hpreferred | ⟨-, hbackup⟩
      · exact (Option.filter_eq_some_iff.1 hpreferred).2
      · split at hbackup
        · have hfound := List.find?_some hbackup
          exact (Bool.and_eq_true _ _ ▸ hfound).2
        · cases hbackup
    | true =>
      rw [hstays, if_pos rfl] at h
      have hkept : ∀ id, state.effective = .lane id →
          boundReady bindings topology family id = true := by
        intro id heffective
        rw [heffective, exitStays, Bool.and_eq_true] at hstays
        exact hstays.1
      cases hreturning : returningLane bindings topology family preferred state.effective with
      | none =>
        simp only [hreturning] at h
        exact hkept id h
      | some primary =>
        simp only [hreturning] at h
        by_cases hdue : failbackDue state preferred now = true
        · rw [if_pos hdue] at h
          obtain rfl := FamilyExit.lane.inj h
          have hback := (Option.filter_eq_some_iff.1 hreturning).2
          rw [Bool.and_eq_true] at hback
          exact hback.1
        · rw [if_neg hdue] at h
          exact hkept id h

/-- The preferred lane or a backup that may be used could take the traffic. -/
def ExitAvailable (bindings : OrderedMap LaneId InterfaceIdentity) (policy : RoutingPolicy)
    (topology : TopologySnapshot) (family : IpFamily) : Prop :=
  (∃ id, (preferredLane bindings policy topology family).1 = some id ∧
    FrozenReady bindings topology family id) ∨
  policy.automaticFailover = true ∧ ∃ id ∈ policy.backups, FrozenReady bindings topology family id

/-- When some lane could take the traffic, one does. -/
theorem updateFamily_ne_blocked (hobserved : topology.observed = true)
    (hpreference : (preferredLane bindings policy topology family).2 = false)
    (havailable : ExitAvailable bindings policy topology family) :
    (updateFamily bindings policy topology family now state).effective ≠ .blocked := by
  have hready : ∀ id, FrozenReady bindings topology family id →
      boundReady bindings topology family id = true :=
    fun id hid => boundReady_iff.2 ⟨hobserved, hid⟩
  unfold ExitAvailable at havailable
  rw [effective_updateFamily]
  generalize preferredLane bindings policy topology family = preference at hpreference havailable ⊢
  obtain ⟨preferred, ambiguous⟩ := preference
  obtain rfl : ambiguous = false := hpreference
  rw [if_neg Bool.false_ne_true]
  cases hstays : exitStays bindings policy topology family preferred state.effective with
  | true =>
    have heffective : state.effective ≠ .blocked := by
      intro hblocked
      rw [hblocked] at hstays
      cases hstays
    rw [if_pos rfl]
    cases returningLane bindings topology family preferred state.effective with
    | none => exact heffective
    | some primary =>
      by_cases hdue : failbackDue state preferred now = true
      · simp [hdue]
      · simpa [hdue] using heffective
  | false =>
    rw [if_neg Bool.false_ne_true]
    have hchosen : (chooseExit bindings policy topology family preferred).isSome = true := by
      by_cases hpreferred : ∃ id, preferred = some id ∧ FrozenReady bindings topology family id
      · obtain ⟨id, rfl, hid⟩ := hpreferred
        simp [chooseExit, hready id hid]
      · obtain ⟨hfailover, id, hid, hbackup⟩ := havailable.resolve_left hpreferred
        have hother : preferred ≠ some id := fun heq => hpreferred ⟨id, heq, hbackup⟩
        have hfound : (policy.backups.find? fun id => decide (preferred ≠ some id) &&
            boundReady bindings topology family id).isSome = true := by
          rw [List.find?_isSome]
          exact ⟨id, hid, by simp [hother, hready id hbackup]⟩
        rw [chooseExit, if_pos hfailover, Option.isSome_or, hfound, Bool.or_true]
    obtain ⟨id, hid⟩ := Option.isSome_iff_exists.1 hchosen
    simp [hid]

/-! ## Runs -/

section Runs

variable {selector : PrimarySelector}

theorem PrimarySelector.bindings_feed (input : SelectorInput) (selector : PrimarySelector) :
    (selector.feed input).bindings = selector.bindings := by
  unfold feed update forPolicy
  split <;> rfl

/-- No update touches what the lanes are bound to. -/
theorem bindings_run (inputs : List SelectorInput) :
    (run PrimarySelector.feed selector inputs).bindings = selector.bindings :=
  run_frame _ fun input _ s => s.bindings_feed input

/-- What an update decides is what it leaves in its states. -/
theorem effective_update {input : SelectorInput} :
    ((selector.update input.policy input.topology input.now).2.effective.get family) =
      (updateFamily selector.bindings input.policy input.topology family input.now
        ((selector.forPolicy input.policy).states.get family)).effective := by
  cases family <;> rfl

theorem preferred_update {input : SelectorInput} :
    ((selector.update input.policy input.topology input.now).2.preferred.get family) =
      (updateFamily selector.bindings input.policy input.topology family input.now
        ((selector.forPolicy input.policy).states.get family)).preferred := by
  cases family <;> rfl

theorem bindings_start (profile : Profile) (frozen : TopologySnapshot)
    (previous : Option PrimaryDecision) :
    (PrimarySelector.start profile frozen previous).bindings = frozenBindings profile frozen := by
  cases previous <;> rfl

end Runs

/-- The system default names one interface or none, and if the policy follows it, at most
one lane is bound there. -/
def DefaultUnambiguous (bindings : OrderedMap LaneId InterfaceIdentity) (policy : RoutingPolicy)
    (topology : TopologySnapshot) (family : IpFamily) : Prop :=
  ∃ default, topology.systemDefault family = .ok default ∧
    (policy.primary = .followSystemDefault → ∀ name ∈ default,
      (lanesBoundTo bindings name).length ≤ 1)

theorem DefaultUnambiguous.preferredLane_snd (h : DefaultUnambiguous bindings policy topology family) :
    (preferredLane bindings policy topology family).2 = false := by
  obtain ⟨default, hdefault, halias⟩ := h
  unfold preferredLane
  cases hprimary : policy.primary with
  | lane id => rfl
  | followSystemDefault =>
    rw [hdefault]
    cases default with
    | none => rfl
    | some name =>
      have hbound := halias hprimary name rfl
      cases hlanes : lanesBoundTo bindings name with
      | nil => simp [hlanes]
      | cons id rest =>
        rw [hlanes] at hbound
        cases rest with
        | nil => simp [hlanes]
        | cons => simp at hbound

/-- **Selector safety.**  After every update the exit of a family is blocked or a lane that
is ready on the device frozen for it; and it is not blocked while the system default is
unambiguous and the preferred lane, or a backup that may be used, is ready like that. -/
theorem selector_exit_safe (profile : Profile) (frozen : TopologySnapshot)
    (previous : Option PrimaryDecision) (past : List SelectorInput) (input : SelectorInput)
    (family : IpFamily) :
    let decision := ((run PrimarySelector.feed (.start profile frozen previous) past).update
      input.policy input.topology input.now).2
    (decision.effective.get family = .blocked ∨ ∃ id, decision.effective.get family = .lane id ∧
      FrozenReady (frozenBindings profile frozen) input.topology family id) ∧
    (input.topology.observed = true →
      DefaultUnambiguous (frozenBindings profile frozen) input.policy input.topology family →
      ExitAvailable (frozenBindings profile frozen) input.policy input.topology family →
      decision.effective.get family ≠ .blocked) := by
  have hbindings : (run PrimarySelector.feed (.start profile frozen previous) past).bindings =
      frozenBindings profile frozen := by
    rw [bindings_run, bindings_start]
  intro decision
  have heffective : decision.effective.get family = _ := effective_update
  rw [hbindings] at heffective
  rw [heffective]
  constructor
  · cases hexit : (updateFamily (frozenBindings profile frozen) input.policy input.topology family
        input.now (((run PrimarySelector.feed (.start profile frozen previous) past).forPolicy
          input.policy).states.get family)).effective with
    | blocked => exact Or.inl rfl
    | lane id => exact Or.inr ⟨id, rfl, (boundReady_iff.1 (boundReady_updateFamily hexit)).2⟩
  · intro hobserved hdefault havailable
    exact updateFamily_ne_blocked hobserved hdefault.preferredLane_snd havailable

/-- A link that is up, with an address and a default route of its own. -/
def uplink (ifindex : ℕ) (name : String) (address : Ipv4Addr) : InterfaceTopology where
  identity := some ⟨ifindex, name, "ether", none⟩
  linkReady := true
  routeV4 := some .device
  routeV6 := none
  sourceV4 := [address]
  sourceV6 := []
  connectedNetworks := []

/-- Two uplinks, the system's default on one of them. -/
def uplinks (default : String) : TopologySnapshot where
  interfaces := .ofList [("eth0", uplink 2 "eth0" 0x0a010002#32),
    ("wg0", uplink 3 "wg0" 0x0a020002#32)]
  defaults := ⟨.interface default, .none⟩
  observed := true
  assignedAddresses := [.v4 0x0a010002#32, .v4 0x0a020002#32]

/-- Unmatched traffic follows the system default, with these backups. -/
def followingProfile (lanes : List Lane) (backups : List LaneId) : Profile where
  id := "p"
  name := "P"
  enabled := true
  lanes := lanes
  rules := []
  routing := ⟨.usePrimary, .followSystemDefault, backups, true⟩

/-- Two lanes share the interface of the default, a third is their backup. -/
def aliasProfile : Profile :=
  followingProfile [⟨"a", "A", "eth0", none, .block⟩, ⟨"b", "B", "eth0", none, .block⟩,
    ⟨"c", "C", "wg0", none, .block⟩] ["c"]

/-- The system default is clear, a backup is ready, and still nothing goes out. -/
theorem alias_default_blocks :
    validateProfile id aliasProfile = .ok () ∧
      (uplinks "eth0").systemDefault .v4 = .ok (some "eth0") ∧
      (aliasProfile.routing.automaticFailover = true ∧ ∃ backup ∈ aliasProfile.routing.backups,
        FrozenReady (frozenBindings aliasProfile (uplinks "eth0")) (uplinks "eth0") .v4 backup) ∧
      ((PrimarySelector.new aliasProfile (uplinks "eth0")).update aliasProfile.routing
        (uplinks "eth0") 0).2.effective.get .v4 = .blocked := by
  have hready : boundReady (frozenBindings aliasProfile (uplinks "eth0")) (uplinks "eth0") .v4 "c" =
      true := by decide +kernel
  refine ⟨by decide +kernel, rfl, ⟨rfl, "c", List.mem_singleton.2 rfl, ?_⟩, by decide +kernel⟩
  exact (boundReady_iff.1 hready).2

theorem selector_exit_safe_backup :
    (((PrimarySelector.new aliasProfile (uplinks "eth0")).update
        aliasProfile.routing (uplinks "wg0") 0).2.effective.get .v4) ≠ .blocked := by
  have hready : boundReady (frozenBindings aliasProfile (uplinks "eth0")) (uplinks "wg0") .v4 "c" =
      true := by decide +kernel
  have hdefault : DefaultUnambiguous (frozenBindings aliasProfile (uplinks "eth0"))
      aliasProfile.routing (uplinks "wg0") .v4 := by
    refine ⟨some "wg0", rfl, fun _ name hname => ?_⟩
    obtain rfl := Option.mem_some_iff.1 hname
    decide +kernel
  exact (selector_exit_safe aliasProfile (uplinks "eth0") none []
    ⟨aliasProfile.routing, uplinks "wg0", 0⟩ .v4).2 rfl hdefault
      (Or.inr ⟨rfl, "c", List.mem_singleton.2 rfl, (boundReady_iff.1 hready).2⟩)

/-! ## Consent -/

/-- Somebody asked for this exit: the policy's preference or, with failover, its backups. -/
def ConsentedExit (policy : RoutingPolicy) (preferred : Option LaneId) : FamilyExit → Prop
  | .blocked => True
  | .lane id => preferred = some id ∨ policy.automaticFailover = true ∧ id ∈ policy.backups

/-- The exit in use still works, and the update lets it stay although nobody asks for it any
more: with failover, as long as the preferred lane has not been ready for the whole delay. -/
def Lingers (bindings : OrderedMap LaneId InterfaceIdentity) (input : SelectorInput)
    (family : IpFamily) (state : FamilyState) : Prop :=
  let preference := preferredLane bindings input.policy input.topology family
  input.policy.automaticFailover = true ∧ preference.2 = false ∧
    ∃ id, state.effective = .lane id ∧ boundReady bindings input.topology family id = true ∧
      preference.1 ≠ some id ∧ id ∉ input.policy.backups ∧
      ¬ ((∃ primary ∈ preference.1, boundReady bindings input.topology family primary = true) ∧
        failbackDue state preference.1 input.now = true)

/-- An update settles on an exit somebody asked for, unless the exit in use lingers. -/
theorem consented_updateFamily_iff {input : SelectorInput} :
    ConsentedExit input.policy (preferredLane bindings input.policy input.topology family).1
        (updateFamily bindings input.policy input.topology family input.now state).effective ↔
      ¬ Lingers bindings input family state := by
  rw [effective_updateFamily]
  unfold Lingers
  generalize preferredLane bindings input.policy input.topology family = preference
  obtain ⟨preferred, ambiguous⟩ := preference
  cases ambiguous with
  | true => exact iff_of_true trivial fun h => by cases h.2.1
  | false =>
    simp only [Bool.false_eq_true, if_false]
    cases hstays : exitStays bindings input.policy input.topology family preferred
        state.effective with
    | false =>
      rw [if_neg Bool.false_ne_true]
      refine iff_of_true ?_ ?_
      · cases hchosen : chooseExit bindings input.policy input.topology family preferred with
        | none => trivial
        | some id =>
          show preferred = some id ∨ _
          rw [chooseExit] at hchosen
          rcases Option.or_eq_some_iff.1 hchosen with hpreferred | ⟨-, hbackup⟩
          · exact Or.inl (Option.filter_eq_some_iff.1 hpreferred).1
          · split at hbackup
            · rename_i hfailover
              exact Or.inr ⟨hfailover, List.mem_of_find?_eq_some hbackup⟩
            · cases hbackup
      · rintro ⟨hfailover, -, id, heffective, hready, -⟩
        rw [heffective, exitStays, hready, hfailover] at hstays
        cases hstays
    | true =>
      rw [if_pos rfl]
      obtain ⟨id, heffective, hready, hasked⟩ : ∃ id, state.effective = .lane id ∧
          boundReady bindings input.topology family id = true ∧
          (input.policy.automaticFailover = true ∨ preferred = some id) := by
        cases heffective : state.effective with
        | blocked =>
          rw [heffective] at hstays
          cases hstays
        | lane id =>
          rw [heffective, exitStays, Bool.and_eq_true, Bool.or_eq_true, decide_eq_true_eq] at hstays
          exact ⟨id, rfl, hstays⟩
      -- The exit stays unless the preferred lane has been back for the whole delay.
      have hstay : ¬ ((∃ primary ∈ preferred,
            boundReady bindings input.topology family primary = true) ∧
          failbackDue state preferred input.now = true) →
          (ConsentedExit input.policy preferred state.effective ↔
            ¬ (input.policy.automaticFailover = true ∧ True ∧
              ∃ id, state.effective = .lane id ∧
                boundReady bindings input.topology family id = true ∧ preferred ≠ some id ∧
                id ∉ input.policy.backups ∧ ¬ ((∃ primary ∈ preferred,
                  boundReady bindings input.topology family primary = true) ∧
                    failbackDue state preferred input.now = true))) := by
        intro hwaits
        rw [heffective]
        constructor
        · rintro hconsented ⟨-, -, id', heq, -, hother, hbackup, -⟩
          obtain rfl := FamilyExit.lane.inj heq
          rcases hconsented with hpreferred | ⟨-, hmem⟩
          · exact hother hpreferred
          · exact hbackup hmem
        · intro hlingers
          by_contra hunasked
          obtain ⟨hother, hbackup⟩ := not_or.1 hunasked
          have hfailover := hasked.resolve_right hother
          exact hlingers ⟨hfailover, trivial, id, rfl, hready, hother,
            fun hmem => hbackup ⟨hfailover, hmem⟩, hwaits⟩
      cases hreturning : returningLane bindings input.topology family preferred
          state.effective with
      | none =>
        by_cases hpreferred : preferred = some id
        · refine iff_of_true ?_ ?_
          · show ConsentedExit _ _ state.effective
            rw [heffective]
            exact Or.inl hpreferred
          · rintro ⟨-, -, id', heq, -, hother, -⟩
            rw [heffective] at heq
            obtain rfl := FamilyExit.lane.inj heq
            exact hother hpreferred
        · refine hstay ?_
          rintro ⟨⟨primary, hprimary, hback⟩, -⟩
          obtain rfl := Option.mem_def.1 hprimary
          have hne : primary ≠ id := fun heq => hpreferred (congrArg some heq)
          simp [returningLane, heffective, hback, Ne.symm hne] at hreturning
      | some primary =>
        obtain ⟨hprimary, hback⟩ := Option.filter_eq_some_iff.1 hreturning
        rw [Bool.and_eq_true] at hback
        by_cases hdue : failbackDue state preferred input.now = true
        · simp only [hdue, if_true]
          refine iff_of_true (Or.inl hprimary) ?_
          rintro ⟨-, -, _, -, -, -, -, hwaits⟩
          exact hwaits ⟨⟨primary, hprimary, hback.1⟩, trivial⟩
        · simp only [if_neg hdue]
          exact hstay fun h => hdue h.2

/-- The exits of a decision are ones somebody asked for. -/
def Consented (policy : RoutingPolicy) (decision : PrimaryDecision) : Prop :=
  ∀ family, ConsentedExit policy (decision.preferred.get family) (decision.effective.get family)

/-- An exit in use lingers through this update.  A new policy has no exit in use. -/
def SelectorLingers (selector : PrimarySelector) (input : SelectorInput) : Prop :=
  ∃ family, Lingers selector.bindings input family
    ((selector.forPolicy input.policy).states.get family)

theorem preferred_updateFamily :
    (updateFamily bindings policy topology family now state).preferred =
      (preferredLane bindings policy topology family).1 := by
  unfold updateFamily
  generalize preferredLane bindings policy topology family = preference
  obtain ⟨preferred, ambiguous⟩ := preference
  simp only
  split
  · rfl
  · split
    · rfl
    · split
      · rfl
      · split
        · rfl
        · split <;> rfl

theorem consented_update_iff {selector : PrimarySelector} {input : SelectorInput} :
    Consented input.policy (selector.update input.policy input.topology input.now).2 ↔
      ¬ SelectorLingers selector input := by
  rw [SelectorLingers, not_exists]
  refine forall_congr' fun family => ?_
  rw [effective_update, preferred_update, preferred_updateFamily]
  exact consented_updateFamily_iff

/-- **Selector consent.**  Over every run of a selector, every decision settles on exits
somebody asked for exactly when no update lets an exit linger. -/
theorem selector_consented_iff (profile : Profile) (frozen : TopologySnapshot)
    (previous : Option PrimaryDecision) (inputs : List SelectorInput) :
    (∀ past input, past ++ [input] <+: inputs →
      Consented input.policy ((run PrimarySelector.feed (.start profile frozen previous) past).update
        input.policy input.topology input.now).2) ↔
    ∀ past input, past ++ [input] <+: inputs →
      ¬ SelectorLingers (run PrimarySelector.feed (.start profile frozen previous) past) input := by
  refine forall_congr' fun past => forall_congr' fun input => ?_
  exact imp_congr_right fun _ => consented_update_iff

/-- Two lanes follow the system default, and there are no backups. -/
def pairProfile : Profile :=
  followingProfile [⟨"a", "A", "eth0", none, .block⟩, ⟨"b", "B", "wg0", none, .block⟩] []

/-- The system default moves to the other lane, and the traffic stays where it was. -/
theorem moved_default_lingers :
    let first := (PrimarySelector.new pairProfile (uplinks "eth0")).update pairProfile.routing
      (uplinks "eth0") 0
    let second := first.1.update pairProfile.routing (uplinks "wg0") 1
    validateProfile id pairProfile = .ok () ∧ second.2.preferred.get .v4 = some "b" ∧
      second.2.effective.get .v4 = .lane "a" ∧ "a" ∉ pairProfile.routing.backups ∧
      ¬ Consented pairProfile.routing second.2 := by
  intro first second
  have hpreferred : second.2.preferred.get .v4 = some "b" := by decide +kernel
  have heffective : second.2.effective.get .v4 = .lane "a" := by decide +kernel
  refine ⟨by decide +kernel, hpreferred, heffective, by decide, fun hconsented => ?_⟩
  have hexit := hconsented .v4
  rw [hpreferred, heffective] at hexit
  rcases hexit with hlane | ⟨-, hbackup⟩
  · exact absurd hlane (by decide)
  · exact absurd hbackup (by decide)

end RouteLane
