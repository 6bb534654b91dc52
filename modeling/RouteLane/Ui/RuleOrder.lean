import RouteLane.Domain.Validation
import RouteLane.Lib.Orders
import RouteLane.Lib.Records

/-!
# Moving a rule

The rule list of the editor shows the rules in execution order.  `move_rule` swaps a rule
with a neighbour of that order by giving every rule a new priority, ten times its place;
the rules themselves stay where they are in the profile.
-/

namespace RouteLane

open Orders Records

inductive ReorderDirection where
  | up
  | down
  deriving DecidableEq, Repr

/-- The place of the neighbour on that side, of so many places. -/
def ReorderDirection.neighbor (count index : ℕ) : ReorderDirection → Option ℕ
  | .up => if index = 0 then none else some (index - 1)
  | .down => if index + 1 < count then some (index + 1) else none

/-- The comparison of `move_rule`, on pairs of an id and a priority. -/
def placedBefore (a b : RuleId × ℕ) : Prop := a.2 < b.2 ∨ a.2 = b.2 ∧ a.1 ≤ b.1

instance : DecidableRel placedBefore := fun a b =>
  inferInstanceAs (Decidable (a.2 < b.2 ∨ a.2 = b.2 ∧ a.1 ≤ b.1))

/-- The priority of the rule at a place, when both `expect`s hold. -/
def placePriority (index : ℕ) : Option ℕ :=
  if index + 1 < 2 ^ 32 ∧ (index + 1) * 10 < 2 ^ 32 then some ((index + 1) * 10) else none

/-- The first rule with the id gets the priority. -/
def setPriority (id : RuleId) (priority : ℕ) (rules : List Rule) : List Rule :=
  modifyFirst Rule.id id (fun rule => { rule with priority := priority }) rules

/-- The loop of `move_rule` over the new order, from this place on. -/
def renumber : ℕ → List RuleId → List Rule → Option (List Rule)
  | _, [], rules => some rules
  | index, id :: rest, rules =>
    if id ∈ rules.map Rule.id then
      (placePriority index).bind fun priority =>
        renumber (index + 1) rest (setPriority id priority rules)
    else renumber (index + 1) rest rules

/-- `move_rule`: whether the rule moved, and the profile after it.  `none` is a failed
`expect`. -/
def moveRule (profile : Profile) (id : RuleId) (direction : ReorderDirection) :
    Option (Bool × Profile) :=
  let ordered := (profile.rules.map fun rule => (rule.id, rule.priority)).insertionSort placedBefore
  match ordered.findIdx? fun entry => entry.1 == id with
  | none => some (false, profile)
  | some index =>
    match direction.neighbor ordered.length index with
    | none => some (false, profile)
    | some neighbor =>
      (renumber 0 ((swapAt ordered index neighbor).map Prod.fst) profile.rules).map fun rules =>
        (true, { profile with rules := rules })

/-! ## The execution order -/

/-- The ids of rules in execution order. -/
def executionIds (rules : List Rule) : List RuleId :=
  (rules.insertionSort Rule.executionLe).map Rule.id

theorem executionIds_perm (rules : List Rule) : (executionIds rules).Perm (rules.map Rule.id) :=
  (List.perm_insertionSort _ rules).map Rule.id

@[simp] theorem length_executionIds (rules : List Rule) :
    (executionIds rules).length = rules.length := by
  rw [executionIds, List.length_map, List.length_insertionSort]

/-- `move_rule` sorts as the planner does. -/
theorem map_fst_ordered (rules : List Rule) :
    ((rules.map fun rule => (rule.id, rule.priority)).insertionSort placedBefore).map Prod.fst =
      executionIds rules := by
  rw [← List.map_insertionSort Rule.executionLe placedBefore _ rules fun a _ b _ => Iff.rfl,
    List.map_map, executionIds]
  rfl

/-! ## Numbering the rules -/

/-- A rule with the priority of its place in an order whose first place is `index`. -/
def numbered (index : ℕ) (order : List RuleId) (rule : Rule) : Rule :=
  if rule.id ∈ order then { rule with priority := (index + order.idxOf rule.id + 1) * 10 }
  else rule

@[simp] theorem numbered_id (index : ℕ) (order : List RuleId) (rule : Rule) :
    (numbered index order rule).id = rule.id := by
  rw [numbered]
  split <;> rfl

/-- Numbering changes the priority and nothing else. -/
theorem numbered_eq (index : ℕ) (order : List RuleId) (rule : Rule) :
    { numbered index order rule with priority := rule.priority } = rule := by
  rw [numbered]
  split <;> rfl

@[simp] theorem map_id_numbered (index : ℕ) (order : List RuleId) (rules : List Rule) :
    (rules.map (numbered index order)).map Rule.id = rules.map Rule.id := by
  rw [List.map_map]
  exact List.map_congr_left fun rule _ => numbered_id index order rule

/-- The loop numbers the rules by the order; no `expect` fails before the priorities leave
`u32`. -/
theorem renumber_eq_some {order : List RuleId} (horder : order.Nodup) :
    ∀ {index : ℕ} {rules : List Rule}, (rules.map Rule.id).Nodup →
      (∀ id ∈ order, id ∈ rules.map Rule.id) → (index + order.length) * 10 < 2 ^ 32 →
      renumber index order rules = some (rules.map (numbered index order)) := by
  induction order with
  | nil =>
    intro index rules _ _ _
    rw [renumber]
    congr 1
    exact (List.map_id' rules).symm.trans (List.map_congr_left fun rule _ => by simp [numbered])
  | cons id rest ih =>
    intro index rules hids hmem hbound
    rw [List.nodup_cons] at horder
    rw [List.length_cons] at hbound
    have hplace : placePriority index = some ((index + 1) * 10) := if_pos ⟨by omega, by omega⟩
    have hset : setPriority id ((index + 1) * 10) rules = rules.map _ :=
      modifyFirst_eq_map hids id _
    have hsame : (setPriority id ((index + 1) * 10) rules).map Rule.id = rules.map Rule.id := by
      rw [setPriority, map_modifyFirst]
      exact fun _ => rfl
    rw [renumber, if_pos (hmem id List.mem_cons_self), hplace, Option.bind_some,
      ih horder.2 (hsame ▸ hids) (fun other hother => hsame ▸ hmem other (List.mem_cons_of_mem _ hother))
        (by omega), hset, List.map_map]
    congr 1
    refine List.map_congr_left fun rule _ => ?_
    show numbered (index + 1) rest (if rule.id = id then _ else rule) = _
    by_cases hid : rule.id = id
    · subst hid
      simp [numbered, horder.1]
    · have hne : id ≠ rule.id := Ne.symm hid
      rw [if_neg hid]
      by_cases hrest : rule.id ∈ rest
      · simp only [numbered, List.mem_cons, hid, hrest, if_true, or_true,
          List.idxOf_cons_ne _ hne]
        congr 1
        omega
      · simp [numbered, hid, hrest]

/-- Numbered by an order of all their ids, the rules execute in that order. -/
theorem executionIds_numbered {rules : List Rule} {order : List RuleId}
    (hids : (rules.map Rule.id).Nodup) (horder : (rules.map Rule.id).Perm order) (index : ℕ) :
    executionIds (rules.map (numbered index order)) = order := by
  refine map_insertionSort_eq (horder.nodup_iff.1 hids) (by rwa [map_id_numbered]) ?_
  have hpriority : ∀ rule ∈ rules.map (numbered index order),
      rule.priority = (index + order.idxOf rule.id + 1) * 10 := by
    intro rule hrule
    obtain ⟨original, hmem, rfl⟩ := List.mem_map.1 hrule
    have hplaced : original.id ∈ order := horder.mem_iff.1 (List.mem_map.2 ⟨original, hmem, rfl⟩)
    rw [numbered_id, numbered, if_pos hplaced]
  intro a ha b hb hab
  have hle : a.priority ≤ b.priority := by
    rcases hab with hlt | ⟨heq, -⟩
    · exact hlt.le
    · exact heq.le
  rw [hpriority a ha, hpriority b hb] at hle
  omega

/-! ## Moving -/

/-- The second place is next to the first on that side. -/
def ReorderDirection.Beside (i j : ℕ) : ReorderDirection → Prop
  | .up => j + 1 = i
  | .down => j = i + 1

def ReorderDirection.opposite : ReorderDirection → ReorderDirection
  | .up => .down
  | .down => .up

theorem ReorderDirection.beside_opposite {direction : ReorderDirection} {i j : ℕ} :
    direction.opposite.Beside j i ↔ direction.Beside i j := by
  cases direction
  · exact eq_comm
  · exact eq_comm

theorem ReorderDirection.neighbor_eq_some {direction : ReorderDirection} {count i j : ℕ}
    (hi : i < count) :
    direction.neighbor count i = some j ↔ direction.Beside i j ∧ j < count := by
  cases direction with
  | up =>
    rw [neighbor, Beside]
    by_cases hzero : i = 0
    · simp [hzero]
    · rw [if_neg hzero, Option.some.injEq]
      omega
  | down =>
    rw [neighbor, Beside]
    by_cases hlt : i + 1 < count
    · rw [if_pos hlt, Option.some.injEq]
      omega
    · rw [if_neg hlt]
      simp only [reduceCtorEq, false_iff]
      omega

section Move

variable {profile : Profile} {id : RuleId} {direction : ReorderDirection}

/-- The rule has a neighbour on that side of the execution order. -/
def HasNeighbor (profile : Profile) (id : RuleId) (direction : ReorderDirection) (i j : ℕ) : Prop :=
  (executionIds profile.rules)[i]? = some id ∧ direction.Beside i j ∧ j < profile.rules.length

theorem HasNeighbor.lt {i j : ℕ} (h : HasNeighbor profile id direction i j) :
    i < profile.rules.length := by
  have hi := (List.getElem?_eq_some_iff.1 h.1).1
  rwa [length_executionIds] at hi

/-- `move_rule` in terms of the execution order. -/
theorem moveRule_eq (profile : Profile) (id : RuleId) (direction : ReorderDirection) :
    moveRule profile id direction =
      match (executionIds profile.rules).findIdx? fun other => other == id with
      | none => some (false, profile)
      | some index =>
        match direction.neighbor profile.rules.length index with
        | none => some (false, profile)
        | some neighbor =>
          (renumber 0 (swapAt (executionIds profile.rules) index neighbor) profile.rules).map
            fun rules => (true, { profile with rules := rules }) := by
  have hfind : ((profile.rules.map fun rule => (rule.id, rule.priority)).insertionSort
      placedBefore).findIdx? (fun entry => entry.1 == id) =
        (executionIds profile.rules).findIdx? fun other => other == id := by
    rw [← map_fst_ordered, List.findIdx?_map]
    rfl
  simp only [moveRule, hfind, map_swapAt, map_fst_ordered, List.length_insertionSort,
    List.length_map]

theorem nodup_executionIds (hids : (profile.rules.map Rule.id).Nodup) :
    (executionIds profile.rules).Nodup :=
  (executionIds_perm profile.rules).nodup_iff.2 hids

/-- A rule with a neighbour changes places with it: the rules are numbered by the order
with the two swapped. -/
theorem moveRule_of_hasNeighbor (hids : (profile.rules.map Rule.id).Nodup)
    (hcount : profile.rules.length ≤ 10000) {i j : ℕ}
    (h : HasNeighbor profile id direction i j) :
    moveRule profile id direction = some (true, { profile with
      rules := profile.rules.map (numbered 0 (swapAt (executionIds profile.rules) i j)) }) := by
  have hperm := swapAt_perm (executionIds profile.rules) i j
  have hrenumber : renumber 0 (swapAt (executionIds profile.rules) i j) profile.rules =
      some (profile.rules.map (numbered 0 (swapAt (executionIds profile.rules) i j))) := by
    refine renumber_eq_some (hperm.nodup_iff.2 (nodup_executionIds hids)) hids ?_ ?_
    · intro other hother
      exact (executionIds_perm _).mem_iff.1 (hperm.mem_iff.1 hother)
    · rw [length_swapAt, length_executionIds]
      omega
  rw [moveRule_eq, (findIdx?_eq_some_iff (nodup_executionIds hids)).2 h.1]
  simp only [(ReorderDirection.neighbor_eq_some h.lt).2 h.2, hrenumber, Option.map_some]

/-- Any other rule stays. -/
theorem moveRule_of_not_hasNeighbor (hids : (profile.rules.map Rule.id).Nodup)
    (h : ∀ i j, ¬ HasNeighbor profile id direction i j) :
    moveRule profile id direction = some (false, profile) := by
  rw [moveRule_eq]
  cases hindex : (executionIds profile.rules).findIdx? fun other => other == id with
  | none => rfl
  | some i =>
    have hi := (findIdx?_eq_some_iff (nodup_executionIds hids)).1 hindex
    have hlt := (List.getElem?_eq_some_iff.1 hi).1
    rw [length_executionIds] at hlt
    cases hneighbor : direction.neighbor profile.rules.length i with
    | none => simp only [hneighbor]
    | some j => exact absurd ⟨hi, (ReorderDirection.neighbor_eq_some hlt).1 hneighbor⟩ (h i j)

/-- Moved rules keep everything but their priority, and their place in the profile. -/
theorem forall₂_numbered (index : ℕ) (order : List RuleId) (rules : List Rule) :
    List.Forall₂ (fun rule rule' => { rule' with priority := rule.priority } = rule) rules
      (rules.map (numbered index order)) := by
  rw [List.forall₂_map_right_iff, List.forall₂_same]
  exact fun rule _ => numbered_eq index order rule

end Move

/-- `move_rule` swaps a rule with its neighbour in the execution order and touches nothing
but priorities; it says whether the rule has that neighbour, and leaves the profile alone
when it has not.  The move the other way brings the order back. -/
theorem moveRule_swaps (profile : Profile) (id : RuleId) (direction : ReorderDirection)
    (hids : (profile.rules.map Rule.id).Nodup) (hcount : profile.rules.length ≤ 10000) :
    ∃ moved profile', moveRule profile id direction = some (moved, profile') ∧
      (moved = true ↔ ∃ i j, HasNeighbor profile id direction i j) ∧
      (moved = false → profile' = profile) ∧
      { profile' with rules := profile.rules } = profile ∧
      List.Forall₂ (fun rule rule' => { rule' with priority := rule.priority } = rule)
        profile.rules profile'.rules ∧
      ∀ i j, HasNeighbor profile id direction i j →
        executionIds profile'.rules = swapAt (executionIds profile.rules) i j ∧
        ∃ back, moveRule profile' id direction.opposite = some (true, back) ∧
          executionIds back.rules = executionIds profile.rules := by
  by_cases hmove : ∃ i j, HasNeighbor profile id direction i j
  · obtain ⟨i, j, hneighbor⟩ := hmove
    have horder (i j : ℕ) :
        (profile.rules.map Rule.id).Perm (swapAt (executionIds profile.rules) i j) :=
      ((swapAt_perm _ i j).trans (executionIds_perm _)).symm
    refine ⟨true, _, moveRule_of_hasNeighbor hids hcount hneighbor,
      iff_of_true rfl ⟨i, j, hneighbor⟩, nofun, rfl, forall₂_numbered 0 _ _, ?_⟩
    intro i' j' hneighbor'
    -- the rule is at one place only, and so is its neighbour
    have hi : i' = i := by
      have hnodup := nodup_executionIds hids
      exact Option.some.inj (((findIdx?_eq_some_iff hnodup).2 hneighbor'.1).symm.trans
        ((findIdx?_eq_some_iff hnodup).2 hneighbor.1))
    have hj : j' = j := by
      have hbeside := hneighbor.2.1
      have hbeside' := hneighbor'.2.1
      rw [hi] at hbeside'
      cases direction with
      | up => exact Nat.succ.inj (hbeside'.trans hbeside.symm)
      | down => exact hbeside'.trans hbeside.symm
    subst hi hj
    have hswapped := executionIds_numbered hids (horder i' j') 0
    have hilt : i' < (executionIds profile.rules).length := by
      rw [length_executionIds]
      exact hneighbor.lt
    have hjlt : j' < (executionIds profile.rules).length := by
      rw [length_executionIds]
      exact hneighbor.2.2
    refine ⟨hswapped, _, moveRule_of_hasNeighbor (by rwa [map_id_numbered])
      (by rwa [List.length_map]) (i := j') (j := i') ⟨?_, ?_, ?_⟩, ?_⟩
    · rw [hswapped, getElem?_swapAt_right hilt hjlt]
      exact hneighbor.1
    · exact ReorderDirection.beside_opposite.2 hneighbor.2.1
    · rw [List.length_map]
      exact hneighbor.lt
    · have hback := swapAt_swapAt hilt hjlt
      rw [executionIds_numbered (by rwa [map_id_numbered])
        (by rw [map_id_numbered, hswapped, hback]; exact (executionIds_perm _).symm), hswapped,
        hback]
  · have hnone : ∀ i j, ¬ HasNeighbor profile id direction i j :=
      fun i j h => hmove ⟨i, j, h⟩
    refine ⟨false, profile, moveRule_of_not_hasNeighbor hids hnone, ?_, fun _ => rfl, rfl,
      List.forall₂_same.2 fun rule _ => rfl, fun i j h => absurd h (hnone i j)⟩
    simp [hmove]

/-- Two rules of one priority: their ids decide which comes first. -/
def tiedProfile : Profile where
  id := "work"
  name := "Work"
  enabled := false
  lanes := []
  rules := [⟨"b", true, 10, .any, .any, .block⟩, ⟨"a", true, 10, .any, .domain "a.example", .direct⟩]
  routing := ⟨.preserveSystem, .followSystemDefault, [], false⟩

theorem moveRule_swaps_tied :
    executionIds tiedProfile.rules = ["a", "b"] ∧
      ∃ profile', moveRule tiedProfile "b" .up = some (true, profile') ∧
        executionIds profile'.rules = ["b", "a"] := by
  have horder : executionIds tiedProfile.rules = ["a", "b"] := by decide
  have hneighbor : HasNeighbor tiedProfile "b" .up 1 0 := ⟨by rw [horder]; rfl, rfl, by decide⟩
  obtain ⟨moved, profile', hmove, hmoved, -, -, -, hswap⟩ :=
    moveRule_swaps tiedProfile "b" .up (by decide) (by decide)
  obtain rfl := hmoved.2 ⟨1, 0, hneighbor⟩
  refine ⟨horder, profile', hmove, ?_⟩
  rw [(hswap 1 0 hneighbor).1, horder]
  rfl

end RouteLane
