import RouteLane.Backend.Operations
import RouteLane.Net.ParseTopology
import RouteLane.Policy.PlannerSemantics

/-!
# RouteLane meets its own resources

Three checks know the tuple of a lane's table, mark and rule priority: the one a plan passes
before it is installed, the reader of the topology, and the one orphaned resources pass.
The last two want the same slot in all three ranges; the first wants each value in its range
and no more.  So what a plan installs is recognised and recoverable exactly when its lanes
have one slot each.
-/

namespace RouteLane

open Fallible

/-- The lane has one slot: its table, mark and priority are equally far into their ranges. -/
def LanePlan.OneSlot (lane : LanePlan) : Prop :=
  lane.mark - markBase = lane.table - tableBase ∧
    lane.rulePriority - rulePriorityBase = lane.table - tableBase

instance (lane : LanePlan) : Decidable lane.OneSlot :=
  inferInstanceAs (Decidable (_ ∧ _))

/-! ## A rule as it is printed -/

/-- The fields of a document show the rule: there are no others than those of a lane's rule,
the addresses are not limited, and the numbers, in any form the readers know, are its own. -/
structure ShowsRule (rule : RuleOwnership) (object : List (String × JsonValue)) : Prop where
  fields : ∀ field ∈ object, field.1 ∈ ["priority", "table", "fwmark", "src", "dst"]
  addresses : ∀ key ∈ ["src", "dst"], ∀ v, object.lookup key = some v → v = .string "all"
  priority : (object.lookup "priority").bind jsonNumber = some rule.priority
  table : (object.lookup "table").bind jsonNumber = some rule.table
  mark : (object.lookup "fwmark").bind jsonHexNumber = some rule.mark

/-- Fields that show a rule. -/
def RuleOwnership.printed (rule : RuleOwnership) : List (String × JsonValue) :=
  [("priority", .number rule.priority), ("src", .string "all"),
    ("fwmark", .number rule.mark), ("table", .number rule.table)]

theorem jsonNumber_number {n : ℕ} (h : n < 2 ^ 32) : jsonNumber (.number n) = some n := by
  have hfit : (some n : Option ℕ).filter (fun n => n < 2 ^ 32) = some n :=
    Option.filter_eq_some_iff.2 ⟨rfl, decide_eq_true h⟩
  rw [jsonNumber, JsonValue.asU64, hfit, Option.some_or]

theorem jsonHexNumber_number {n : ℕ} (h : n < 2 ^ 32) : jsonHexNumber (.number n) = some n := by
  rw [jsonHexNumber, jsonNumber_number h, Option.some_or]

/-- Every rule of 32-bit numbers can be shown. -/
theorem shows_printed {rule : RuleOwnership} (hpriority : rule.priority < 2 ^ 32)
    (htable : rule.table < 2 ^ 32) (hmark : rule.mark < 2 ^ 32) : ShowsRule rule rule.printed where
  fields := by simp [RuleOwnership.printed]
  addresses key hkey v hv := by
    obtain rfl | rfl : key = "src" ∨ key = "dst" := by simpa using hkey
    · exact (Option.some.inj hv).symm
    · cases hv
  priority := jsonNumber_number hpriority
  table := jsonNumber_number htable
  mark := jsonHexNumber_number hmark

/-! ## The reader of the topology -/

theorem ShowsRule.lookup_eq_none {rule : RuleOwnership} {object : List (String × JsonValue)}
    (h : ShowsRule rule object) {key : String}
    (hkey : key ∉ ["priority", "table", "fwmark", "src", "dst"]) : object.lookup key = none := by
  rw [List.lookup_eq_none_iff]
  intro field hfield
  rw [bne_iff_ne]
  rintro rfl
  exact hkey (h.fields field hfield)

/-- The reader takes a rule for one of the system's own exactly when it is at a lane's place
in all three ranges; at the tables of the lanes no other rule is the system's. -/
theorem ordinaryRule_of_shows {rule : RuleOwnership} {object : List (String × JsonValue)}
    (h : ShowsRule rule object) (htable : tableBase ≤ rule.table ∧ rule.table ≤ tableMax) :
    ordinaryRule (.object object) =
      .ok (decide (rule.mark = markBase + (rule.table - tableBase) ∧
        rule.priority = rulePriorityBase + (rule.table - tableBase))) := by
  have hknown : (object.any fun field => !knownSelectors.contains field.1) = false := by
    rw [List.any_eq_false]
    intro field hfield
    have hmem := h.fields field hfield
    simp only [List.mem_cons, List.not_mem_nil, or_false] at hmem
    rcases hmem with hk | hk | hk | hk | hk <;> rw [hk] <;> decide
  have haddresses : (["src", "dst", "from", "to"].any fun key =>
      (object.lookup key).any fun v => v.asStr != some "all") = false := by
    rw [List.any_eq_false]
    intro key hkey
    have hlimited : ∀ v, object.lookup key = some v → v = .string "all" := by
      intro v hv
      by_cases hmem : key ∈ ["src", "dst"]
      · exact h.addresses key hmem v hv
      · have hnone : object.lookup key = none := by
          refine h.lookup_eq_none ?_
          simp only [List.mem_cons, List.not_mem_nil, or_false, not_or] at hkey hmem ⊢
          rcases hkey with rfl | rfl | rfl | rfl
          · exact absurd rfl hmem.1
          · exact absurd rfl hmem.2
          all_goals decide
        rw [hnone] at hv
        cases hv
    cases hv : object.lookup key with
    | none => simp
    | some v => simp [hlimited v hv, JsonValue.asStr]
  have hflags : object.lookup "flags" = none := h.lookup_eq_none (by decide)
  have hmask : object.lookup "fwmask" = none := h.lookup_eq_none (by decide)
  obtain ⟨mark, hmarkField, hmark⟩ := Option.bind_eq_some_iff.1 h.mark
  obtain ⟨table, htableField, htableNumber⟩ := Option.bind_eq_some_iff.1 h.table
  have hroute : routeTable (object.lookup "table") = .ok rule.table := by
    rw [htableField, routeTable, htableNumber]
    rfl
  unfold ordinaryRule
  simp only [JsonValue.asObject, hknown, haddresses, hflags, hmask, hroute, hmarkField, h.priority,
    Option.bind_some, hmark]
  show (if tableBase ≤ rule.table ∧ rule.table ≤ tableMax ∧ True then _ else _) = _
  rw [if_pos ⟨htable.1, htable.2, trivial⟩, Bool.decide_and]
  simp only [pure, Except.pure, beq_eq_decide, Option.some.injEq]

/-! ## The check of orphaned resources -/

theorem checkedSub_of_le {n base : ℕ} (h : base ≤ n) : checkedSub n base = some (n - base) :=
  if_pos h

/-- The rule of a lane in its ranges has mixed slots exactly when the lane has. -/
theorem mixed_laneRule {lane : LanePlan} (h : lane.InRange) (f : IpFamily) :
    (laneRule lane f).mixed = false ↔ lane.OneSlot := by
  simp only [RuleOwnership.mixed, laneRule, ruleOwnership, checkedSub_of_le h.table_mem.1,
    checkedSub_of_le h.mark_mem.1, checkedSub_of_le h.rulePriority_mem.1, Bool.or_eq_false_iff,
    bne_eq_false_iff_eq, Option.some.injEq, LanePlan.OneSlot]
  constructor
  · rintro ⟨hpriority, hmark⟩
    exact ⟨hmark.symm, hpriority.symm⟩
  · rintro ⟨hmark, hpriority⟩
    exact ⟨hpriority.symm, hmark.symm⟩

/-- No table of a plan has two rules of a family. -/
theorem not_crowded_plan {plan : KernelPlan} (hplan : plan.WellFormed) {rule : RuleOwnership}
    (hrule : rule ∈ (planRoutingOwnership plan).rules) :
    (planRoutingOwnership plan).crowded rule = false := by
  obtain ⟨lane, hlane, f, rfl⟩ := mem_rules_plan.1 hrule
  rw [RoutingOwnership.crowded, bne_eq_false_iff_eq, Finset.card_eq_one]
  refine ⟨laneRule lane f, Finset.ext fun other => ?_⟩
  rw [Finset.mem_filter, Finset.mem_singleton]
  constructor
  · rintro ⟨hother, hfamily, htable⟩
    obtain ⟨lane', hlane', f', rfl⟩ := mem_rules_plan.1 hother
    obtain rfl : lane' = lane := hplan.eq_of_table_eq hlane' hlane htable
    obtain rfl : f' = f := hfamily
    rfl
  · rintro rfl
    exact ⟨hrule, rfl, rfl⟩

/-- A plan owns one route of a kind in a table and family. -/
theorem route_unique_plan {plan : KernelPlan} (hplan : plan.WellFormed) {a b : RouteOwnership}
    (ha : a ∈ (planRoutingOwnership plan).routes) (hb : b ∈ (planRoutingOwnership plan).routes)
    (hfamily : a.family = b.family) (htable : a.table = b.table)
    (hterminal : a.terminal = b.terminal) : a = b := by
  obtain ⟨lane, hlane, hsettled⟩ := (mem_routes_plan hplan.tables_nodup).1 ha
  obtain ⟨lane', hlane', hsettled'⟩ := (mem_routes_plan hplan.tables_nodup).1 hb
  obtain rfl : lane = lane' := by
    rw [htable, hlane'] at hlane
    exact (Option.some.inj hlane).symm
  cases hkind : a.terminal with
  | false =>
    obtain ⟨route, hroute, heq⟩ := settled_unicast hsettled hkind
    obtain ⟨route', hroute', heq'⟩ := settled_unicast hsettled' (hterminal ▸ hkind)
    rw [heq, heq']
    rw [hfamily, hroute'] at hroute
    rw [hfamily, Option.some.inj hroute]
  | true =>
    have hgiven : ∀ {r : RouteOwnership}, r.terminal = true → Settled lane False r →
        r = routeOwnership r.family lane.table .terminal := by
      intro r hr hset
      rcases hset with hset | ⟨hunicast, -⟩
      · exact hset
      · rw [hr] at hunicast
        cases hunicast
    rw [hgiven hkind hsettled, hgiven (hterminal ▸ hkind) hsettled', hfamily]

/-- The orphan check accepts what a plan owns exactly when its lanes have one slot each. -/
theorem validateOrphanRouting_plan {plan : KernelPlan} (hplan : plan.WellFormed) :
    validateOrphanRouting (planRoutingOwnership plan) = .ok () ↔
      ∀ lane ∈ plan.lanes, lane.OneSlot := by
  have hcrowded : ¬ ∃ rule ∈ (planRoutingOwnership plan).rules,
      (planRoutingOwnership plan).crowded rule = true := by
    rintro ⟨rule, hrule, hmany⟩
    rw [not_crowded_plan hplan hrule] at hmany
    cases hmany
  have hroutes : ¬ ∃ route ∈ (planRoutingOwnership plan).routes,
      ((planRoutingOwnership plan).routes.filter fun candidate =>
        candidate.family = route.family ∧ candidate.table = route.table ∧
          candidate.terminal = route.terminal).card ≠ 1 := by
    rintro ⟨route, hroute, hmany⟩
    refine hmany (Finset.card_eq_one.2 ⟨route, Finset.ext fun other => ?_⟩)
    rw [Finset.mem_filter, Finset.mem_singleton]
    constructor
    · rintro ⟨hother, hfamily, htable, hterminal⟩
      exact route_unique_plan hplan hother hroute hfamily htable hterminal
    · rintro rfl
      exact ⟨hroute, rfl, rfl, rfl⟩
  rw [validateOrphanRouting]
  simp only [check_eq_ok, failIf_eq_ok]
  constructor
  · rintro ⟨hmixed, -⟩ lane hlane
    rw [← mixed_laneRule (hplan.inRange lane hlane) .v4, ← Bool.not_eq_true]
    intro hbad
    exact hmixed ⟨laneRule lane .v4, mem_rules_plan.2 ⟨lane, hlane, .v4, rfl⟩, hbad,
      fun other hother hmany => absurd ⟨other, hother, hmany⟩ hcrowded⟩
  · intro hslots
    refine ⟨?_, hcrowded, hroutes⟩
    rintro ⟨rule, hrule, hmixed, -⟩
    obtain ⟨lane, hlane, f, rfl⟩ := mem_rules_plan.1 hrule
    rw [(mixed_laneRule (hplan.inRange lane hlane) f).2 (hslots lane hlane)] at hmixed
    cases hmixed

/-! ## A plan and its own resources -/

/-- What an accepted plan installs is recognised by the reader of the topology, in any form
its rules are printed in, and passes the check of orphaned resources, exactly when every
lane of the plan has one slot. -/
theorem own_resources_recognised_iff {plan : KernelPlan}
    (h : validatePrivilegedPlan plan = .ok ()) :
    ((∀ rule ∈ (planRoutingOwnership plan).rules, ∀ object, ShowsRule rule object →
        ordinaryRule (.object object) = .ok true) ∧
      validateOrphanRouting (planRoutingOwnership plan) = .ok ()) ↔
      ∀ lane ∈ plan.lanes, lane.OneSlot := by
  have hplan := validatePrivilegedPlan_eq_ok.1 h
  rw [validateOrphanRouting_plan hplan]
  constructor
  · rintro ⟨-, hslots⟩
    exact hslots
  · intro hslots
    refine ⟨?_, hslots⟩
    intro rule hrule object hshows
    obtain ⟨lane, hlane, f, rfl⟩ := mem_rules_plan.1 hrule
    have hrange := hplan.inRange lane hlane
    have hslot := hslots lane hlane
    have hmark := hrange.mark_mem.1
    have hpriority := hrange.rulePriority_mem.1
    rw [ordinaryRule_of_shows hshows hrange.table_mem]
    refine congrArg _ (decide_eq_true ⟨?_, ?_⟩)
    · show lane.mark = markBase + (lane.table - tableBase)
      rw [← hslot.1]
      omega
    · show lane.rulePriority = rulePriorityBase + (lane.table - tableBase)
      rw [← hslot.2]
      omega

theorem own_resources_recognised_standIn :
    ((∀ rule ∈ (planRoutingOwnership standInPlan).rules, ∀ object, ShowsRule rule object →
        ordinaryRule (.object object) = .ok true) ∧
      validateOrphanRouting (planRoutingOwnership standInPlan) = .ok ()) ↔
      ∀ lane ∈ standInPlan.lanes, lane.OneSlot :=
  own_resources_recognised_iff (by decide)

/-- The lanes the planner numbers have one slot each, so the helper recognises what it
installs of any profile. -/
theorem oneSlot_of_compiled {toLowercase : String → String} {profile : Profile}
    {topology : TopologySnapshot} {resolutions : ResolutionSnapshot} {primary : PrimaryDecision}
    {generation : ℕ} {plan : KernelPlan}
    (h : compileProfileWithPrimary toLowercase profile topology resolutions primary generation =
      .ok plan) : ∀ lane ∈ plan.lanes, lane.OneSlot := by
  obtain ⟨compiled, c⟩ := compileProfileWithPrimary_eq_ok h
  intro lane hlane
  rw [c.lanes_eq, compileLanes, List.mem_map] at hlane
  obtain ⟨slotted, -, rfl⟩ := hlane
  show markBase + slotted.2 - markBase = tableBase + slotted.2 - tableBase ∧
    rulePriorityBase + slotted.2 - rulePriorityBase = tableBase + slotted.2 - tableBase
  omega

/-- A plan of one lane with the mark of the next slot. -/
def mixedPlan : KernelPlan :=
  { standInPlan with
    lanes := [{ compileLane standInTopology ⟨"a", "A", "wg0", none, .block⟩ 0 with
      mark := markBase + 1 }]
    rules := [] }

/-- The plan is accepted, and the rule it installs is read as a foreign one; as an orphan it
is refused. -/
theorem mixed_plan_not_recognised :
    validatePrivilegedPlan mixedPlan = .ok () ∧
      ¬((∀ rule ∈ (planRoutingOwnership mixedPlan).rules, ∀ object, ShowsRule rule object →
          ordinaryRule (.object object) = .ok true) ∧
        validateOrphanRouting (planRoutingOwnership mixedPlan) = .ok ()) ∧
      (∃ rule ∈ (planRoutingOwnership mixedPlan).rules, ShowsRule rule rule.printed ∧
        ordinaryRule (.object rule.printed) = .ok false) ∧
      validateOrphanRouting (planRoutingOwnership mixedPlan) ≠ .ok () := by
  have hvalid : validatePrivilegedPlan mixedPlan = .ok () := by decide
  have horphan : validateOrphanRouting (planRoutingOwnership mixedPlan) ≠ .ok () := by
    rw [Ne, validateOrphanRouting_plan (validatePrivilegedPlan_eq_ok.1 hvalid)]
    decide
  refine ⟨hvalid, fun hboth => horphan hboth.2, ?_, horphan⟩
  refine ⟨⟨.v4, 10000, 20000, 0x524c0002⟩, mem_rules_plan.2 ⟨_, List.mem_cons_self, .v4, rfl⟩, ?_,
    by decide⟩
  exact shows_printed (by decide) (by decide) (by decide)

end RouteLane
