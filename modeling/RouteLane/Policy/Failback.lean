import RouteLane.Policy.SelectorSafety

/-!
# The failback hold

An exit that works is only left for the preferred lane, and only after the preferred lane
was ready without a break for the whole of the hold.  The timer that measures this is one
number; what it means is a statement about the updates since it was started.
-/

namespace RouteLane

open Steps

theorem failbackDelay_eq : failbackDelay = 5 * 10 ^ 9 := by
  rw [failbackDelay]
  norm_num

/-- The lane is the preferred one at an update, and ready. -/
structure Returning (bindings : OrderedMap LaneId InterfaceIdentity) (family : IpFamily)
    (id : LaneId) (input : SelectorInput) : Prop where
  preferred : preferredLane bindings input.policy input.topology family = (some id, false)
  ready : boundReady bindings input.topology family id = true

/-- Whether a lane may carry the traffic: it is preferred, or failover is automatic. -/
def Permitted (bindings : OrderedMap LaneId InterfaceIdentity) (family : IpFamily) (id : LaneId)
    (input : SelectorInput) : Prop :=
  input.policy.automaticFailover = true ∨
    (preferredLane bindings input.policy input.topology family).1 = some id

section Update

variable {bindings : OrderedMap LaneId InterfaceIdentity} {policy : RoutingPolicy}
  {topology : TopologySnapshot} {family : IpFamily} {now : ℕ} {state : FamilyState}

theorem exitStays_iff {preferred : Option LaneId} {id : LaneId} :
    exitStays bindings policy topology family preferred (.lane id) = true ↔
      boundReady bindings topology family id = true ∧
        (policy.automaticFailover = true ∨ preferred = some id) := by
  simp [exitStays]

/-- A timer that runs after an update was started by it, or goes on from the update before;
either way the preferred lane is back. -/
theorem readySince_updateFamily {since : ℕ}
    (h : (updateFamily bindings policy topology family now state).readySince = some since) :
    ∃ id, preferredLane bindings policy topology family = (some id, false) ∧
      boundReady bindings topology family id = true ∧
      (updateFamily bindings policy topology family now state).preferred = some id ∧
      (since = now ∨ state.readySince = some since ∧ state.preferred = some id ∧ since ≤ now) := by
  have hdelay : 0 < failbackDelay := by
    rw [failbackDelay_eq]
    norm_num
  unfold updateFamily at h ⊢
  generalize preferredLane bindings policy topology family = preference at h ⊢
  obtain ⟨preferred, ambiguous⟩ := preference
  cases ambiguous with
  | true => cases h
  | false =>
    simp only [Bool.false_eq_true, if_false] at h ⊢
    cases hstays : exitStays bindings policy topology family preferred state.effective with
    | false =>
      rw [hstays] at h
      cases h
    | true =>
      simp only [hstays, Bool.not_true, Bool.false_eq_true, if_false] at h ⊢
      cases hreturning : returningLane bindings topology family preferred state.effective with
      | none =>
        rw [hreturning] at h
        cases h
      | some primary =>
        obtain ⟨rfl, hback⟩ := Option.filter_eq_some_iff.1 hreturning
        rw [Bool.and_eq_true] at hback
        refine ⟨primary, rfl, hback.1, ?_⟩
        simp only [hreturning] at h ⊢
        have hstarted : ∀ started,
            started = (if state.preferred ≠ some primary then none else state.readySince).getD now →
            started = now ∨ state.readySince = some started ∧ state.preferred = some primary := by
          rintro started rfl
          by_cases hsame : state.preferred = some primary
          · cases hsince : state.readySince with
            | none => simp [hsame]
            | some since => simp [hsame]
          · simp [hsame]
        generalize (if state.preferred ≠ some primary then none else state.readySince).getD now =
          started at h hstarted ⊢
        have hstarted := hstarted started rfl
        by_cases hpast : started ≤ now
        · have hsub : checkedSub now started = some (now - started) := if_pos hpast
          rw [hsub] at h ⊢
          by_cases helapsed : failbackDelay ≤ now - started
          · simp only [if_pos helapsed] at h
            cases h
          · simp only [if_neg helapsed] at h ⊢
            obtain rfl : started = since := Option.some.inj h
            refine ⟨trivial, hstarted.imp_right fun hrunning => ?_⟩
            exact ⟨hrunning.1, hrunning.2, hpast⟩
        · have hsub : checkedSub now started = none := if_neg hpast
          rw [hsub] at h ⊢
          exact ⟨rfl, Or.inl (Option.some.inj h).symm⟩

/-- A working exit is only left for the preferred lane, when its failback is due. -/
theorem effective_of_exitStays {id other : LaneId} (hexit : state.effective = .lane id)
    (hstays : exitStays bindings policy topology family
      (preferredLane bindings policy topology family).1 state.effective = true)
    (hunambiguous : (preferredLane bindings policy topology family).2 = false)
    (h : (updateFamily bindings policy topology family now state).effective = .lane other)
    (hother : other ≠ id) :
    preferredLane bindings policy topology family = (some other, false) ∧
      boundReady bindings topology family other = true ∧
      failbackDue state (some other) now = true := by
  rw [effective_updateFamily, if_neg (by simp [hunambiguous]), if_pos hstays] at h
  have hpreference : preferredLane bindings policy topology family =
      ((preferredLane bindings policy topology family).1, false) := by rw [← hunambiguous]
  cases hreturning : returningLane bindings topology family
      (preferredLane bindings policy topology family).1 state.effective with
  | none =>
    simp only [hreturning] at h
    rw [hexit] at h
    exact absurd (FamilyExit.lane.inj h).symm hother
  | some primary =>
    simp only [hreturning] at h
    obtain ⟨hpreferred, hback⟩ := Option.filter_eq_some_iff.1 hreturning
    rw [Bool.and_eq_true] at hback
    by_cases hdue : failbackDue state (preferredLane bindings policy topology family).1 now = true
    · rw [if_pos hdue] at h
      obtain rfl := FamilyExit.lane.inj h
      rw [hpreferred] at hdue hpreference
      exact ⟨hpreference, hback.1, hdue⟩
    · rw [if_neg hdue, hexit] at h
      exact absurd (FamilyExit.lane.inj h).symm hother

/-- The exit an update settles on is ready, and may carry the traffic. -/
theorem permitted_updateFamily {id : LaneId}
    (h : (updateFamily bindings policy topology family now state).effective = .lane id) :
    boundReady bindings topology family id = true ∧
      (policy.automaticFailover = true ∨
        (preferredLane bindings policy topology family).1 = some id) := by
  refine ⟨boundReady_updateFamily h, ?_⟩
  rw [effective_updateFamily] at h
  split at h
  · cases h
  · split at h
    · rename_i hstays
      cases hreturning : returningLane bindings topology family
          (preferredLane bindings policy topology family).1 state.effective with
      | none =>
        simp only [hreturning] at h
        rw [h] at hstays
        exact (exitStays_iff.1 hstays).2
      | some primary =>
        simp only [hreturning] at h
        split at h
        · obtain rfl := FamilyExit.lane.inj h
          exact Or.inr (Option.filter_eq_some_iff.1 hreturning).1
        · rw [h] at hstays
          exact (exitStays_iff.1 hstays).2
    · cases hchosen : chooseExit bindings policy topology family
          (preferredLane bindings policy topology family).1 with
      | none => simp [hchosen] at h
      | some chosen =>
        obtain rfl : chosen = id := by simpa [hchosen] using h
        rw [chooseExit] at hchosen
        rcases Option.or_eq_some_iff.1 hchosen with hpreferred | ⟨-, hbackup⟩
        · exact Or.inr (Option.filter_eq_some_iff.1 hpreferred).1
        · split at hbackup
          · rename_i hfailover
            exact Or.inl hfailover
          · cases hbackup

end Update

/-! ## Runs -/

/-- Consecutive updates under one policy at each of which a lane was preferred and ready,
none of them read the clock before the first, which read `first`. -/
structure Held (bindings : OrderedMap LaneId InterfaceIdentity) (policy : RoutingPolicy)
    (family : IpFamily) (id : LaneId) (first : ℕ) (hold : List SelectorInput) : Prop where
  starts : hold.head?.map SelectorInput.now = some first
  returning : ∀ input ∈ hold, Returning bindings family id input
  notBefore : ∀ input ∈ hold, first ≤ input.now
  policy_eq : ∀ input ∈ hold, input.policy = policy

section Runs

variable {bindings : OrderedMap LaneId InterfaceIdentity} {policy : RoutingPolicy}
  {family : IpFamily} {id : LaneId} {first : ℕ} {hold : List SelectorInput}
  {input : SelectorInput} {selector : PrimarySelector}

theorem Held.single (h : Returning bindings family id input) :
    Held bindings input.policy family id input.now [input] :=
  ⟨rfl, by simpa using h, by simp, by simp⟩

theorem Held.snoc (h : Held bindings input.policy family id first hold)
    (hinput : Returning bindings family id input) (hnow : first ≤ input.now) :
    Held bindings input.policy family id first (hold ++ [input]) := by
  have hmem : ∀ {w}, w ∈ hold ++ [input] → w ∈ hold ∨ w = input := by
    intro w hw
    simpa using hw
  constructor
  · cases hold with
    | nil => cases h.starts
    | cons _ _ => exact h.starts
  · intro w hw
    rcases hmem hw with hw | rfl
    · exact h.returning w hw
    · exact hinput
  · intro w hw
    rcases hmem hw with hw | rfl
    · exact h.notBefore w hw
    · exact hnow
  · intro w hw
    rcases hmem hw with hw | rfl
    · exact h.policy_eq w hw
    · rfl

theorem states_feed : (selector.feed input).states.get family =
    updateFamily selector.bindings input.policy input.topology family input.now
      ((selector.forPolicy input.policy).states.get family) := by
  cases family <;> rfl

theorem policy_feed : (selector.feed input).policy = some input.policy := by
  unfold PrimarySelector.feed PrimarySelector.update PrimarySelector.forPolicy
  split
  · rfl
  · rename_i hsame
    exact not_not.1 hsame

/-- What a running timer says about the updates so far. -/
def TimerTells (selector : PrimarySelector) (family : IpFamily) (past : List SelectorInput) :
    Prop :=
  ∀ first, (selector.states.get family).readySince = some first →
    ∃ policy id before hold, selector.policy = some policy ∧
      (selector.states.get family).preferred = some id ∧ past = before ++ hold ∧
      Held selector.bindings policy family id first hold

/-- A timer that runs after an update was started by it, or still tells the same. -/
theorem timerTells_feed {past : List SelectorInput} (h : TimerTells selector family past) :
    TimerTells (selector.feed input) family (past ++ [input]) := by
  intro first hfirst
  rw [states_feed] at hfirst ⊢
  rw [policy_feed, selector.bindings_feed input]
  obtain ⟨id, hpreferred, hready, hkept, htimer⟩ := readySince_updateFamily hfirst
  have hreturning : Returning selector.bindings family id input := ⟨hpreferred, hready⟩
  rcases htimer with rfl | ⟨hrunning, hsame, hnow⟩
  · exact ⟨input.policy, id, past, [input], rfl, hkept, rfl, .single hreturning⟩
  · by_cases hpolicy : selector.policy = some input.policy
    · have hstates : selector.forPolicy input.policy = selector := if_neg (not_not.2 hpolicy)
      rw [hstates] at hrunning hsame
      obtain ⟨policy, id', before, hold, hpolicy', hpreferred', rfl, hheld⟩ := h first hrunning
      obtain rfl : policy = input.policy := Option.some.inj (hpolicy'.symm.trans hpolicy)
      obtain rfl : id' = id := Option.some.inj (hpreferred'.symm.trans hsame)
      exact ⟨_, id', before, hold ++ [input], rfl, hkept, by rw [List.append_assoc],
        hheld.snoc hreturning hnow⟩
    · have hstates : (selector.forPolicy input.policy).states = ⟨.default, .default⟩ := by
        unfold PrimarySelector.forPolicy
        rw [if_pos hpolicy]
      rw [hstates] at hrunning
      cases family <;> cases hrunning

theorem timerTells_run (profile : Profile) (frozen : TopologySnapshot)
    (previous : Option PrimaryDecision) (past : List SelectorInput) :
    TimerTells (run PrimarySelector.feed (.start profile frozen previous) past) family past := by
  induction past using List.reverseRecOn with
  | nil =>
    intro first hfirst
    cases previous <;> cases family <;> cases hfirst
  | append_singleton past input ih =>
    rw [run_snoc]
    exact timerTells_feed ih

end Runs

/-- **Failback hold.**  However a selector was started and whatever it was fed: an exit that
is still ready and may carry the traffic is only left for another lane when that lane was
the preferred one and ready at every update of a run of consecutive updates, the last of
them this one, that took at least five seconds and never read the clock before its first
update; and an exit that is not ready, or may not carry the traffic, is left at once. -/
theorem failback_held (profile : Profile) (frozen : TopologySnapshot)
    (previous : Option PrimaryDecision) (past : List SelectorInput) (input : SelectorInput)
    (family : IpFamily) (exit : LaneId) :
    let selector := run PrimarySelector.feed (.start profile frozen previous) past
    let bindings := frozenBindings profile frozen
    selector.policy = some input.policy →
    (selector.states.get family).effective = .lane exit →
    (boundReady bindings input.topology family exit = true →
      Permitted bindings family exit input → ∀ other, other ≠ exit →
      (selector.update input.policy input.topology input.now).2.effective.get family =
        .lane other →
      ∃ before hold first, past ++ [input] = before ++ hold ∧ hold.getLast? = some input ∧
        Held bindings input.policy family other first hold ∧ first + 5 * 10 ^ 9 ≤ input.now) ∧
    (¬(boundReady bindings input.topology family exit = true ∧ Permitted bindings family exit input) →
      (selector.update input.policy input.topology input.now).2.effective.get family ≠
        .lane exit) := by
  intro selector bindings hpolicy hexit
  have hbindings : selector.bindings = bindings := by
    rw [bindings_run, bindings_start]
  have hstates : selector.forPolicy input.policy = selector := if_neg (not_not.2 hpolicy)
  have heffective : (selector.update input.policy input.topology input.now).2.effective.get family =
      (updateFamily bindings input.policy input.topology family input.now
        (selector.states.get family)).effective := by
    rw [effective_update, hstates, hbindings]
  rw [heffective]
  constructor
  · intro hready hpermitted other hother hleft
    have hunambiguous : (preferredLane bindings input.policy input.topology family).2 = false := by
      rw [effective_updateFamily] at hleft
      split at hleft
      · cases hleft
      · rename_i hambiguous
        exact Bool.eq_false_of_not_eq_true hambiguous
    have hstays : exitStays bindings input.policy input.topology family
        (preferredLane bindings input.policy input.topology family).1
        (selector.states.get family).effective = true := by
      rw [hexit]
      exact exitStays_iff.2 ⟨hready, hpermitted⟩
    obtain ⟨hpreferred, hback, hdue⟩ :=
      effective_of_exitStays hexit hstays hunambiguous hleft hother
    have hreturning : Returning bindings family other input := ⟨hpreferred, hback⟩
    unfold failbackDue at hdue
    split at hdue
    · exact absurd hdue Bool.false_ne_true
    · rename_i first hfirst
      obtain ⟨hsame, hnow⟩ := of_decide_eq_true hdue
      obtain ⟨policy, id, before, hold, hpolicy', hpreferred', hpast, hheld⟩ :=
        timerTells_run profile frozen previous past first hfirst
      obtain rfl : policy = input.policy := Option.some.inj (hpolicy'.symm.trans hpolicy)
      obtain rfl : id = other := Option.some.inj (hpreferred'.symm.trans hsame)
      rw [failbackDelay_eq] at hnow
      have hfirst : first ≤ input.now := by omega
      refine ⟨before, hold ++ [input], first, ?_, List.getLast?_concat, ?_, hnow⟩
      · rw [hpast, List.append_assoc]
      · rw [← hbindings]
        rw [← hbindings] at hreturning
        exact hheld.snoc hreturning hfirst
  · intro hgone hkept
    obtain ⟨hready, hpermitted⟩ := permitted_updateFamily hkept
    exact hgone ⟨hready, hpermitted⟩

/-- The system default moves from the one lane to the other and stays there. -/
def movedDefault : List SelectorInput :=
  [⟨pairProfile.routing, uplinks "eth0", 0⟩, ⟨pairProfile.routing, uplinks "wg0", 1⟩]

theorem failback_held_moved :
    ∃ before hold first,
      movedDefault ++ [⟨pairProfile.routing, uplinks "wg0", 5 * 10 ^ 9 + 1⟩] = before ++ hold ∧
      hold.getLast? = some ⟨pairProfile.routing, uplinks "wg0", 5 * 10 ^ 9 + 1⟩ ∧
      Held (frozenBindings pairProfile (uplinks "eth0")) pairProfile.routing .v4 "b" first hold ∧
      first + 5 * 10 ^ 9 ≤ 5 * 10 ^ 9 + 1 :=
  (failback_held pairProfile (uplinks "eth0") none movedDefault
    ⟨pairProfile.routing, uplinks "wg0", 5 * 10 ^ 9 + 1⟩ .v4 "a" (by decide +kernel)
    (by decide +kernel)).1 (by decide +kernel) (Or.inl rfl) "b" (by decide) (by decide +kernel)

end RouteLane
