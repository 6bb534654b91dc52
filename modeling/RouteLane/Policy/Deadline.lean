import RouteLane.Policy.Failback

/-!
# The next deadline of a selector

A refresh sleeps until the deadline the selector names.  As long as nothing changes, the
selector stands still until then, moves at the first update that is not earlier, and never
moves when it names no deadline.
-/

namespace RouteLane

open Steps

/-! ## One family -/

/-- A family goes back to the lane that is preferred from a lane that is not. -/
def FailsBack (before after : FamilyState) : Prop :=
  ∃ primary exit, before.preferred = some primary ∧ before.effective = .lane exit ∧
    exit ≠ primary ∧ after = ⟨some primary, .lane primary, none⟩

/-- What the updates of a state do as long as nothing but the clock changes: without a timer
nothing, and with one nothing until it is due. -/
structure Resting (bindings : OrderedMap LaneId InterfaceIdentity) (policy : RoutingPolicy)
    (topology : TopologySnapshot) (family : IpFamily) (state : FamilyState) : Prop where
  idle : state.readySince = none → ∀ now,
    updateFamily bindings policy topology family now state = state
  waits : ∀ since, state.readySince = some since → ∀ now, since ≤ now →
    now < since + failbackDelay → updateFamily bindings policy topology family now state = state
  fires : ∀ since, state.readySince = some since → ∀ now, since + failbackDelay ≤ now →
    FailsBack state (updateFamily bindings policy topology family now state)

section Family

variable {bindings : OrderedMap LaneId InterfaceIdentity} {policy : RoutingPolicy}
  {topology : TopologySnapshot} {family : IpFamily} {now : ℕ} {state : FamilyState}

/-- A lane that was chosen because nothing else worked stays, and nothing returns. -/
theorem chooseExit_stays {preferred : Option LaneId} {id : LaneId}
    (h : chooseExit bindings policy topology family preferred = some id) :
    exitStays bindings policy topology family preferred (.lane id) = true ∧
      returningLane bindings topology family preferred (.lane id) = none := by
  rw [exitStays_iff]
  unfold chooseExit at h
  rcases Option.or_eq_some_iff.1 h with hpreferred | ⟨hnone, hbackup⟩
  · obtain ⟨rfl, hready⟩ := Option.filter_eq_some_iff.1 hpreferred
    refine ⟨⟨hready, Or.inr rfl⟩, ?_⟩
    simp [returningLane]
  · split at hbackup
    · rename_i hfailover
      have hfound := List.find?_some hbackup
      rw [Bool.and_eq_true] at hfound
      refine ⟨⟨hfound.2, Or.inl hfailover⟩, ?_⟩
      rw [Option.filter_eq_none_iff] at hnone
      refine Option.filter_eq_none_iff.2 fun other hother hback => ?_
      rw [Bool.and_eq_true] at hback
      exact hnone other hother hback.1
    · cases hbackup

section Cases

variable {preferred : Option LaneId}

theorem updateFamily_ambiguous
    (h : preferredLane bindings policy topology family = (preferred, true)) :
    updateFamily bindings policy topology family now state = ⟨preferred, .blocked, none⟩ := by
  unfold updateFamily
  rw [h]
  rfl

theorem updateFamily_choose
    (h : preferredLane bindings policy topology family = (preferred, false))
    (hstays : exitStays bindings policy topology family preferred state.effective = false) :
    updateFamily bindings policy topology family now state =
      ⟨preferred, ((chooseExit bindings policy topology family preferred).map
        FamilyExit.lane).getD .blocked, none⟩ := by
  unfold updateFamily
  rw [h]
  simp [hstays]

theorem updateFamily_stay
    (h : preferredLane bindings policy topology family = (preferred, false))
    (hstays : exitStays bindings policy topology family preferred state.effective = true)
    (hreturning : returningLane bindings topology family preferred state.effective = none) :
    updateFamily bindings policy topology family now state =
      ⟨preferred, state.effective, none⟩ := by
  unfold updateFamily
  rw [h]
  simp [hstays, hreturning]

/-- With the preferred lane back, the timer decides. -/
theorem updateFamily_returning {primary : LaneId}
    (h : preferredLane bindings policy topology family = (preferred, false))
    (hstays : exitStays bindings policy topology family preferred state.effective = true)
    (hreturning : returningLane bindings topology family preferred state.effective =
      some primary) {started : ℕ}
    (hstarted : (if state.preferred ≠ preferred then none else state.readySince).getD now =
      started) :
    updateFamily bindings policy topology family now state =
      if started + failbackDelay ≤ now then ⟨preferred, .lane primary, none⟩
      else ⟨preferred, state.effective, some (if started ≤ now then started else now)⟩ := by
  unfold updateFamily
  rw [h]
  simp only [hstays, hreturning, hstarted, Bool.not_true, Bool.false_eq_true, if_false]
  by_cases hpast : started ≤ now
  · have hsub : checkedSub now started = some (now - started) := if_pos hpast
    rw [hsub, if_pos hpast]
    by_cases hdue : started + failbackDelay ≤ now
    · have helapsed : failbackDelay ≤ now - started := by omega
      rw [if_pos hdue]
      exact if_pos helapsed
    · have helapsed : ¬failbackDelay ≤ now - started := by omega
      rw [if_neg hdue]
      exact if_neg helapsed
  · have hsub : checkedSub now started = none := if_neg hpast
    have hdue : ¬started + failbackDelay ≤ now := by omega
    rw [hsub, if_neg hpast, if_neg hdue]

end Cases

theorem failbackDelay_pos : 0 < failbackDelay := by
  rw [failbackDelay_eq]
  norm_num

/-- Whatever state an update started from, the state it leaves rests, and a timer in it was
not started later. -/
theorem resting_updateFamily :
    Resting bindings policy topology family
        (updateFamily bindings policy topology family now state) ∧
      ∀ since, (updateFamily bindings policy topology family now state).readySince =
        some since → since ≤ now := by
  have hdelay := failbackDelay_pos
  rcases hpreference : preferredLane bindings policy topology family with ⟨preferred, ambiguous⟩
  -- a state without a timer that every later update computes again
  have hrests : ∀ rested : FamilyState, rested.readySince = none →
      (∀ later, updateFamily bindings policy topology family later rested = rested) →
      Resting bindings policy topology family rested ∧
        ∀ since, rested.readySince = some since → since ≤ now := by
    intro rested hnone hsame
    refine ⟨⟨fun _ => hsame, fun since hsince => ?_, fun since hsince => ?_⟩, fun since hsince => ?_⟩
    all_goals
      rw [hnone] at hsince
      cases hsince
  cases ambiguous with
  | true =>
    rw [updateFamily_ambiguous hpreference]
    exact hrests _ rfl fun later => updateFamily_ambiguous hpreference
  | false =>
    cases hstays : exitStays bindings policy topology family preferred state.effective with
    | false =>
      rw [updateFamily_choose hpreference hstays]
      refine hrests _ rfl fun later => ?_
      cases hchosen : chooseExit bindings policy topology family preferred with
      | none =>
        rw [updateFamily_choose hpreference rfl, hchosen]
      | some id =>
        obtain ⟨hkept, hnone⟩ := chooseExit_stays hchosen
        exact updateFamily_stay hpreference hkept hnone
    | true =>
      cases hreturning : returningLane bindings topology family preferred state.effective with
      | none =>
        rw [updateFamily_stay hpreference hstays hreturning]
        exact hrests _ rfl fun later => updateFamily_stay hpreference hstays hreturning
      | some primary =>
        obtain ⟨rfl, hback⟩ := Option.filter_eq_some_iff.1 hreturning
        rw [Bool.and_eq_true] at hback
        rw [updateFamily_returning hpreference hstays hreturning rfl]
        generalize (if state.preferred ≠ some primary then none else state.readySince).getD now =
          started
        split
        · refine hrests _ rfl fun later => ?_
          have hkept : exitStays bindings policy topology family (some primary)
              (.lane primary) = true := exitStays_iff.2 ⟨hback.1, Or.inr rfl⟩
          have hnone : returningLane bindings topology family (some primary)
              (.lane primary) = none := by simp [returningLane]
          exact updateFamily_stay hpreference hkept hnone
        · have hsince : (if started ≤ now then started else now) ≤ now := by
            split <;> omega
          generalize (if started ≤ now then started else now) = since at hsince
          -- from here on the timer runs from `since`
          have hrunning : ∀ later, updateFamily bindings policy topology family later
              ⟨some primary, state.effective, some since⟩ =
              if since + failbackDelay ≤ later then ⟨some primary, .lane primary, none⟩
              else ⟨some primary, state.effective,
                some (if since ≤ later then since else later)⟩ := by
            intro later
            refine updateFamily_returning hpreference ?_ ?_ ?_
            · exact hstays
            · exact hreturning
            · rw [if_neg (not_not.2 rfl), Option.getD_some]
          refine ⟨⟨fun hnone => ?_, ?_, ?_⟩, ?_⟩
          · cases hnone
          · rintro _ ⟨rfl⟩ later hlater hbefore
            rw [hrunning, if_neg (by omega), if_pos hlater]
          · rintro _ ⟨rfl⟩ later hdue
            rw [hrunning, if_pos hdue]
            cases hexit : state.effective with
            | blocked =>
              rw [hexit] at hstays
              cases hstays
            | lane exit =>
              have hother := of_decide_eq_true hback.2
              rw [hexit] at hother
              exact ⟨primary, exit, rfl, rfl, fun hsame => hother (hsame ▸ rfl), rfl⟩
          · rintro _ ⟨rfl⟩
            exact hsince

end Family

/-! ## The selector -/

namespace PrimarySelector

/-- Further updates that differ in nothing but the clock. -/
def refeed (policy : RoutingPolicy) (topology : TopologySnapshot) (selector : PrimarySelector)
    (times : List ℕ) : PrimarySelector :=
  run (fun selector now => selector.feed ⟨policy, topology, now⟩) selector times

end PrimarySelector

section Selector

variable {selector : PrimarySelector} {policy : RoutingPolicy} {topology : TopologySnapshot}
  {now : ℕ}

/-- An update under the policy of the last one. -/
theorem feed_same (hpolicy : selector.policy = some policy) :
    selector.feed ⟨policy, topology, now⟩ = { selector with
      states := ⟨updateFamily selector.bindings policy topology .v4 now selector.states.v4,
        updateFamily selector.bindings policy topology .v6 now selector.states.v6⟩ } := by
  have hsame : selector.forPolicy policy = selector := if_neg (not_not.2 hpolicy)
  unfold PrimarySelector.feed PrimarySelector.update
  simp only [hsame]

theorem checkedAdd_eq_some {since delay sum : ℕ} :
    checkedAdd since delay = some sum ↔ since + delay ≤ maxDuration ∧ since + delay = sum := by
  unfold checkedAdd
  split
  · rename_i hfits
    simp [hfits]
  · rename_i hfits
    simp [hfits]

/-- The deadline is the earliest end of a timer. -/
theorem nextDeadline_eq_some {deadline : ℕ} (h : selector.nextDeadline = some deadline) :
    (∃ family since, (selector.states.get family).readySince = some since ∧
        since + failbackDelay = deadline) ∧
      ∀ family since, (selector.states.get family).readySince = some since →
        since + failbackDelay ≤ maxDuration → deadline ≤ since + failbackDelay := by
  unfold PrimarySelector.nextDeadline at h
  rw [List.min?_eq_some_iff] at h
  obtain ⟨hmem, hleast⟩ := h
  constructor
  · obtain ⟨state, hstate, hdeadline⟩ := List.mem_filterMap.1 hmem
    obtain ⟨since, hsince, hadd⟩ := Option.bind_eq_some_iff.1 hdeadline
    have hend := (checkedAdd_eq_some.1 hadd).2
    rcases List.mem_pair.1 hstate with rfl | rfl
    · exact ⟨.v4, since, hsince, hend⟩
    · exact ⟨.v6, since, hsince, hend⟩
  · intro family since hsince hfits
    refine hleast _ (List.mem_filterMap.2 ⟨selector.states.get family, ?_, ?_⟩)
    · cases family <;> simp [FamilyPair.get]
    · rw [hsince, Option.bind_some, checkedAdd_eq_some]
      exact ⟨hfits, rfl⟩

/-- Without a deadline no timer runs. -/
theorem readySince_of_nextDeadline {family : IpFamily} (h : selector.nextDeadline = none)
    (hfits : ∀ since, (selector.states.get family).readySince = some since →
      since + failbackDelay ≤ maxDuration) :
    (selector.states.get family).readySince = none := by
  cases hsince : (selector.states.get family).readySince with
  | none => rfl
  | some since =>
    unfold PrimarySelector.nextDeadline at h
    rw [List.min?_eq_none_iff, List.filterMap_eq_nil_iff] at h
    have hnone := h (selector.states.get family) (by cases family <;> simp [FamilyPair.get])
    rw [hsince] at hnone
    have hadd := checkedAdd_eq_some.2 ⟨hfits since hsince, rfl⟩
    rw [Option.bind_some, hadd] at hnone
    cases hnone

/-- What an update leaves: every family rests, and no timer of it was started later. -/
structure AtRest (policy : RoutingPolicy) (topology : TopologySnapshot) (now : ℕ)
    (selector : PrimarySelector) : Prop where
  policy_eq : selector.policy = some policy
  resting : ∀ family, Resting selector.bindings policy topology family
    (selector.states.get family)
  started : ∀ family since, (selector.states.get family).readySince = some since → since ≤ now

theorem atRest_feed (input : SelectorInput) :
    AtRest input.policy input.topology input.now (selector.feed input) := by
  refine ⟨policy_feed, fun family => ?_, fun family since hsince => ?_⟩
  · rw [states_feed, selector.bindings_feed]
    exact resting_updateFamily.1
  · rw [states_feed] at hsince
    exact resting_updateFamily.2 since hsince

namespace AtRest

theorem fits (h : AtRest policy topology now selector)
    (hnow : now + failbackDelay ≤ maxDuration) (family : IpFamily) (since : ℕ)
    (hsince : (selector.states.get family).readySince = some since) :
    since + failbackDelay ≤ maxDuration := by
  have hstarted := h.started family since hsince
  omega

/-- An update that comes before the end of every timer changes nothing. -/
theorem feed_before (h : AtRest policy topology now selector) {later : ℕ} (hlater : now ≤ later)
    (hbefore : ∀ family since, (selector.states.get family).readySince = some since →
      later < since + failbackDelay) :
    selector.feed ⟨policy, topology, later⟩ = selector := by
  have hfamily : ∀ family, updateFamily selector.bindings policy topology family later
      (selector.states.get family) = selector.states.get family := by
    intro family
    cases hsince : (selector.states.get family).readySince with
    | none => exact (h.resting family).idle hsince later
    | some since =>
      have hstarted := h.started family since hsince
      exact (h.resting family).waits since hsince later (by omega) (hbefore family since hsince)
  have hv4 := hfamily .v4
  have hv6 := hfamily .v6
  simp only [FamilyPair.get] at hv4 hv6
  rw [feed_same h.policy_eq, hv4, hv6]

theorem refeed_before (h : AtRest policy topology now selector) {times : List ℕ}
    (htimes : ∀ time ∈ times, now ≤ time)
    (hbefore : ∀ time ∈ times, ∀ family since,
      (selector.states.get family).readySince = some since → time < since + failbackDelay) :
    selector.refeed policy topology times = selector := by
  induction times with
  | nil => rfl
  | cons time times ih =>
    have hsame := h.feed_before (htimes time List.mem_cons_self)
      (hbefore time List.mem_cons_self)
    unfold PrimarySelector.refeed at ih ⊢
    rw [run_cons, hsame]
    exact ih (fun time htime => htimes time (List.mem_cons_of_mem _ htime))
      fun time htime => hbefore time (List.mem_cons_of_mem _ htime)

end AtRest

/-- **The deadline is exact.**  After any update, further updates under the same policy and
topology and with a clock that does not go back repeat its decision until the deadline, and
the first that is not earlier fails a family back; without a deadline all of them repeat it. -/
theorem nextDeadline_exact (selector : PrimarySelector) (policy : RoutingPolicy)
    (topology : TopologySnapshot) (now : ℕ) (hnow : now + failbackDelay ≤ maxDuration)
    (times : List ℕ) (later : ℕ) (hclock : (now :: (times ++ [later])).Pairwise (· ≤ ·)) :
    let after := (selector.update policy topology now).1
    let decision := (selector.update policy topology now).2
    let next := ((after.refeed policy topology times).update policy topology later).2
    (∀ deadline, after.nextDeadline = some deadline →
      (later < deadline → next = decision) ∧
      ((∀ time ∈ times, time < deadline) → deadline ≤ later →
        ∃ family primary exit, decision.preferred.get family = some primary ∧
          decision.effective.get family = .lane exit ∧ exit ≠ primary ∧
          next.effective.get family = .lane primary)) ∧
    (after.nextDeadline = none → next = decision) := by
  intro after decision next
  have hrest : AtRest policy topology now after := atRest_feed ⟨policy, topology, now⟩
  have hfits := hrest.fits hnow
  obtain ⟨hstart, hsorted⟩ := List.pairwise_cons.1 hclock
  have hlast : ∀ time ∈ times, time ≤ later := by
    intro time htime
    exact (List.pairwise_append.1 hsorted).2.2 time htime later List.mem_cons_self
  have hnext : ∀ s : PrimarySelector, (s.update policy topology later).2 =
      (s.feed ⟨policy, topology, later⟩).decision := fun _ => rfl
  have hbegin : ∀ time ∈ times, now ≤ time := fun time htime =>
    hstart time (List.mem_append_left _ htime)
  have hlater : now ≤ later := hstart later (List.mem_append_right _ List.mem_cons_self)
  -- all updates come before the end of every timer
  have hsame : (∀ family since, (after.states.get family).readySince = some since →
      later < since + failbackDelay) → next = decision := by
    intro hbefore
    have hrefeed : after.refeed policy topology times = after :=
      hrest.refeed_before hbegin fun time htime family since hsince =>
        lt_of_le_of_lt (hlast time htime) (hbefore family since hsince)
    show ((after.refeed policy topology times).update policy topology later).2 = decision
    rw [hrefeed, hnext, hrest.feed_before hlater hbefore]
    rfl
  refine ⟨fun deadline hdeadline => ⟨fun hbefore => ?_, fun htimes hdue => ?_⟩, fun hnone => ?_⟩
  · obtain ⟨-, hleast⟩ := nextDeadline_eq_some hdeadline
    refine hsame fun family since hsince => ?_
    exact lt_of_lt_of_le hbefore (hleast family since hsince (hfits family since hsince))
  · obtain ⟨⟨family, since, hsince, hend⟩, hleast⟩ := nextDeadline_eq_some hdeadline
    have hrefeed : after.refeed policy topology times = after :=
      hrest.refeed_before hbegin fun time htime other started hstarted =>
        lt_of_lt_of_le (htimes time htime)
          (hleast other started hstarted (hfits other started hstarted))
    obtain ⟨primary, exit, hpreferred, hexit, hother, hfailed⟩ :=
      (hrest.resting family).fires since hsince later (by omega)
    refine ⟨family, primary, exit, ?_, ?_, hother, ?_⟩
    · have hdecision : decision.preferred.get family = (after.states.get family).preferred := by
        cases family <;> rfl
      rw [hdecision, hpreferred]
    · have hdecision : decision.effective.get family = (after.states.get family).effective := by
        cases family <;> rfl
      rw [hdecision, hexit]
    · have heffective : next.effective.get family = (updateFamily after.bindings policy topology
          family later (after.states.get family)).effective := by
        show ((after.refeed policy topology times).update policy topology later).2.effective.get
          family = _
        rw [hrefeed, hnext, feed_same hrest.policy_eq]
        cases family <;> rfl
      rw [heffective, hfailed]
  · refine hsame fun family since hsince => ?_
    rw [readySince_of_nextDeadline hnone (hfits family)] at hsince
    cases hsince

end Selector

/-- The system default has just moved to the other lane, and the deadline ends the hold. -/
theorem nextDeadline_exact_moved :
    let selector := (PrimarySelector.start pairProfile (uplinks "eth0") none).feed
      ⟨pairProfile.routing, uplinks "eth0", 0⟩
    let after := (selector.update pairProfile.routing (uplinks "wg0") 1).1
    after.nextDeadline = some (5 * 10 ^ 9 + 1) ∧
      ∃ family primary exit,
        (selector.update pairProfile.routing (uplinks "wg0") 1).2.preferred.get family =
          some primary ∧
        (selector.update pairProfile.routing (uplinks "wg0") 1).2.effective.get family =
          .lane exit ∧ exit ≠ primary ∧
        ((after.refeed pairProfile.routing (uplinks "wg0") [2 * 10 ^ 9]).update
          pairProfile.routing (uplinks "wg0") (5 * 10 ^ 9 + 1)).2.effective.get family =
          .lane primary := by
  have hdeadline : (((PrimarySelector.start pairProfile (uplinks "eth0") none).feed
      ⟨pairProfile.routing, uplinks "eth0", 0⟩).update pairProfile.routing
        (uplinks "wg0") 1).1.nextDeadline = some (5 * 10 ^ 9 + 1) := by decide +kernel
  exact ⟨hdeadline, ((nextDeadline_exact _ pairProfile.routing (uplinks "wg0") 1
    (by decide +kernel) [2 * 10 ^ 9] (5 * 10 ^ 9 + 1) (by norm_num)).1 _ hdeadline).2
      (by norm_num) le_rfl⟩

end RouteLane
