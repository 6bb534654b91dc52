import RouteLane.Kernel.Snapshot
import RouteLane.Kernel.RoutingSteps

/-!
# Resource conflicts

Before a plan touches the kernel, the tables and priorities of its lanes are looked at in
both families: what is there has to be RouteLane's own, of the plan that is applied where
that plan owns the place, and of the plan itself elsewhere.  Nothing there is no conflict.
-/

namespace RouteLane

inductive ResourceConflict where
  | routingTableInUse (table : ℕ)
  | rulePriorityInUse (priority : ℕ)
  deriving DecidableEq, Repr

/-- `exactly_one`: none or one, and an error for more. -/
def exactlyOne {α : Type} : List α → Option (Option α)
  | [] => some none
  | [a] => some (some a)
  | _ => none

/-- `owned_route`: the unicast default the current plan owns in a table, if it owns it. -/
def ownedRoute (current : KernelPlan) (f : IpFamily) (table : ℕ) :
    Option (Option (Option OwnedRoute)) :=
  exactlyOne ((current.lanes.filter fun lane => lane.table == table).map fun lane =>
    laneUnicastRoute lane f)

/-- `owned_rule`. -/
def ownedRule (current : KernelPlan) (priority : ℕ) : Option (Option (ℕ × ℕ)) :=
  exactlyOne ((current.lanes.filter fun lane => lane.rulePriority == priority).map fun lane =>
    (lane.table, lane.mark))

/-- The entry is the unicast route of the table, if one is allowed there. -/
def Inspect.RouteEntry.matchesUnicast (entry : Inspect.RouteEntry) (f : IpFamily) (table : ℕ) :
    Option OwnedRoute → Bool
  | some (.unicast gateway interface) => entry.matchesDefault f table gateway interface
  | _ => false

/-- What `check_route` makes of a table in which this unicast route is allowed: every entry
is that route or the terminal route, and none is there twice. -/
def checkTable (snapshot : KernelSnapshot) (f : IpFamily) (table : ℕ)
    (allowed : Option OwnedRoute) : Except ResourceConflict Unit :=
  let entries := snapshot.routes.filter fun route => route.family == f && route.table == table
  let terminal := entries.filter fun route => route.matchesTerminal f table
  let unicast := entries.filter fun route => !route.matchesTerminal f table
  if unicast.all (fun route => route.matchesUnicast f table allowed) &&
      decide (unicast.length ≤ 1 ∧ terminal.length ≤ 1) then .ok ()
  else .error (.routingTableInUse table)

/-- `check_route`. -/
def checkRoute (snapshot : KernelSnapshot) (f : IpFamily) (lane : LanePlan)
    (current : Option KernelPlan) : Except ResourceConflict Unit :=
  match current.map fun current => ownedRoute current f lane.table with
  | some none => .error (.routingTableInUse lane.table)
  | some (some (some owned)) => checkTable snapshot f lane.table owned
  | _ => checkTable snapshot f lane.table (laneUnicastRoute lane f)

/-- What `check_rule` makes of a priority: it is free, or taken by this rule alone. -/
def checkPriority (snapshot : KernelSnapshot) (f : IpFamily) (priority table mark : ℕ) :
    Except ResourceConflict Unit :=
  match snapshot.rules.filter fun rule => rule.family == f && rule.priority == priority with
  | [] => .ok ()
  | [rule] =>
    if rule.matchesPolicy f priority table mark then .ok ()
    else .error (.rulePriorityInUse priority)
  | _ => .error (.rulePriorityInUse priority)

/-- `check_rule`. -/
def checkRule (snapshot : KernelSnapshot) (f : IpFamily) (lane : LanePlan)
    (current : Option KernelPlan) : Except ResourceConflict Unit :=
  match current.map fun current => ownedRule current lane.rulePriority with
  | some none => .error (.rulePriorityInUse lane.rulePriority)
  | some (some (some owned)) => checkPriority snapshot f lane.rulePriority owned.1 owned.2
  | _ => checkPriority snapshot f lane.rulePriority lane.table lane.mark

/-- The lanes of a plan, each in both families. -/
def KernelPlan.places (plan : KernelPlan) : List (LanePlan × IpFamily) :=
  plan.lanes.flatMap fun lane => families.map fun f => (lane, f)

/-- `detect_resource_conflicts_with_owner`: the routes of all lanes first, then the rules. -/
def detectResourceConflictsWithOwner (plan : KernelPlan) (current : Option KernelPlan)
    (snapshot : KernelSnapshot) : Except ResourceConflict Unit := do
  plan.places.forM fun place => checkRoute snapshot place.2 place.1 current
  plan.places.forM fun place => checkRule snapshot place.2 place.1 current

/-- `detect_resource_conflicts`. -/
def detectResourceConflicts (plan : KernelPlan) (snapshot : KernelSnapshot) :
    Except ResourceConflict Unit := detectResourceConflictsWithOwner plan none snapshot

/-- `detect_resource_conflicts_for_update`. -/
def detectResourceConflictsForUpdate (next current : KernelPlan) (snapshot : KernelSnapshot) :
    Except ResourceConflict Unit := detectResourceConflictsWithOwner next (some current) snapshot

/-! ## Removals -/

section Sublist

variable {snapshot snapshot' : KernelSnapshot} {f : IpFamily}

/-- Taking entries out of a table brings no conflict about. -/
theorem checkTable_sublist {table : ℕ} {allowed : Option OwnedRoute}
    (h : snapshot'.routes.Sublist snapshot.routes)
    (hfree : checkTable snapshot f table allowed = .ok ()) :
    checkTable snapshot' f table allowed = .ok () := by
  have hentries := h.filter fun route => route.family == f && route.table == table
  have hterminal := hentries.filter fun route => route.matchesTerminal f table
  have hunicast := hentries.filter fun route => !route.matchesTerminal f table
  unfold checkTable at hfree ⊢
  dsimp only at hfree ⊢
  split at hfree
  · rename_i hcheck
    rw [Bool.and_eq_true, decide_eq_true_eq, List.all_eq_true] at hcheck
    obtain ⟨hall, hunicastLength, hterminalLength⟩ := hcheck
    refine if_pos ?_
    rw [Bool.and_eq_true, decide_eq_true_eq, List.all_eq_true]
    exact ⟨fun route hroute => hall route (hunicast.subset hroute),
      hunicast.length_le.trans hunicastLength, hterminal.length_le.trans hterminalLength⟩
  · cases hfree

theorem checkPriority_sublist {priority table mark : ℕ}
    (h : snapshot'.rules.Sublist snapshot.rules)
    (hfree : checkPriority snapshot f priority table mark = .ok ()) :
    checkPriority snapshot' f priority table mark = .ok () := by
  have hentries := h.filter fun rule => rule.family == f && rule.priority == priority
  unfold checkPriority at hfree ⊢
  split at hfree
  · rename_i hnone
    rw [hnone, List.sublist_nil] at hentries
    rw [hentries]
  · rename_i rule hone
    rw [hone] at hentries
    rcases List.sublist_cons_iff.1 hentries with hgone | ⟨rest, hkept, hrest⟩
    · rw [List.sublist_nil.1 hgone]
    · rw [hkept, List.sublist_nil.1 hrest]
      exact hfree
  · cases hfree

/-- A check that every place passes, every place passes after a removal. -/
theorem forM_ok_mono {α ε : Type} {check check' : α → Except ε Unit} {l : List α}
    (h : ∀ a ∈ l, check a = .ok () → check' a = .ok ()) (hok : l.forM check = .ok ()) :
    l.forM check' = .ok () := by
  induction l with
  | nil => rfl
  | cons a l ih =>
    have hcons : ∀ c : α → Except ε Unit, (a :: l).forM c = (c a >>= fun _ => l.forM c) :=
      fun _ => rfl
    rw [hcons] at hok ⊢
    cases ha : check a with
    | error e =>
      rw [ha] at hok
      cases hok
    | ok _ =>
      rw [ha] at hok
      rw [h a List.mem_cons_self ha]
      exact ih (fun b hb => h b (List.mem_cons_of_mem _ hb)) hok

/-- Removing resources brings no conflict about. -/
theorem detectResourceConflicts_sublist {plan : KernelPlan}
    (hroutes : snapshot'.routes.Sublist snapshot.routes)
    (hrules : snapshot'.rules.Sublist snapshot.rules)
    (hfree : detectResourceConflicts plan snapshot = .ok ()) :
    detectResourceConflicts plan snapshot' = .ok () := by
  unfold detectResourceConflicts detectResourceConflictsWithOwner at hfree ⊢
  cases hplaces : plan.places.forM fun place => checkRoute snapshot place.2 place.1 none with
  | error e =>
    rw [hplaces] at hfree
    cases hfree
  | ok _ =>
    rw [hplaces] at hfree
    have hplaces' : (plan.places.forM fun place => checkRoute snapshot' place.2 place.1 none) =
        .ok () := forM_ok_mono (fun _ _ => checkTable_sublist hroutes) hplaces
    rw [hplaces']
    exact forM_ok_mono (fun _ _ => checkPriority_sublist hrules) hfree

end Sublist

end RouteLane
