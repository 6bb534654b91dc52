import Mathlib.Order.Bounds.Basic
import Mathlib.Data.List.Nodup

/-!
# Closures by rounds

A list of elements is extended, round by round, by everything in a pool that follows an
element already selected, until a round finds nothing.  Elements are told apart by a key.
The loop ends on every pool, and what it ends with is the least set that contains the start
and is closed under following.
-/

namespace Closure

variable {α κ : Type} [DecidableEq κ] (key : α → κ) (follows : α → α → Bool) (pool : List α)

/-- What a round finds: elements not selected yet that follow a selected one. -/
def found (selected : List α) : List α :=
  pool.filter fun a => !selected.any (fun b => key b == key a) && selected.any fun b => follows b a

/-- Rounds until one finds nothing; `none` where the fuel runs out first. -/
def saturate : ℕ → List α → Option (List α)
  | 0, _ => none
  | fuel + 1, selected =>
    if (found key follows pool selected).isEmpty then some selected
    else saturate fuel (selected ++ found key follows pool selected)

/-- The sets that contain the start and are closed under following. -/
def closedSets (start : List α) : Set (Set α) :=
  {S | (∀ a ∈ start, a ∈ S) ∧ ∀ b ∈ S, ∀ a ∈ pool, follows b a = true → a ∈ S}

section Rounds

variable {key follows pool} {selected : List α}

theorem mem_found {a : α} : a ∈ found key follows pool selected ↔
    a ∈ pool ∧ key a ∉ selected.map key ∧ ∃ b ∈ selected, follows b a = true := by
  have hkey : (selected.any fun b => key b == key a) = true ↔ key a ∈ selected.map key := by
    rw [List.any_eq_true, List.mem_map]
    exact ⟨fun ⟨b, hb, heq⟩ => ⟨b, hb, beq_iff_eq.1 heq⟩, fun ⟨b, hb, heq⟩ => ⟨b, hb, beq_iff_eq.2 heq⟩⟩
  rw [found, List.mem_filter, Bool.and_eq_true, Bool.not_eq_true', ← Bool.not_eq_true, hkey,
    List.any_eq_true]

/-- The elements of the pool that are not selected yet. -/
def remaining (key : α → κ) (pool selected : List α) : List α :=
  pool.filter fun a => decide (key a ∉ selected.map key)

/-- Every round that finds something leaves fewer elements remaining. -/
theorem length_remaining_lt (h : found key follows pool selected ≠ []) :
    (remaining key pool (selected ++ found key follows pool selected)).length <
      (remaining key pool selected).length := by
  obtain ⟨a, ha⟩ := List.exists_mem_of_ne_nil _ h
  obtain ⟨hpool, hnew, -⟩ := mem_found.1 ha
  have hsub : remaining key pool (selected ++ found key follows pool selected) =
      (remaining key pool selected).filter fun c =>
        decide (key c ∉ (found key follows pool selected).map key) := by
    rw [remaining, remaining, List.filter_filter]
    refine List.filter_congr fun c _ => ?_
    simp only [List.map_append, List.mem_append, not_or, Bool.decide_and, Bool.and_comm]
  rw [hsub]
  refine List.length_filter_lt_length_iff_exists.2 ⟨a, ?_, ?_⟩
  · exact List.mem_filter.2 ⟨hpool, decide_eq_true hnew⟩
  · rw [decide_eq_true_eq, not_not]
    exact List.mem_map.2 ⟨a, ha, rfl⟩

/-- The loop ends: there are more rounds than remaining elements. -/
theorem saturate_isSome {fuel : ℕ} (h : (remaining key pool selected).length < fuel) :
    (saturate key follows pool fuel selected).isSome = true := by
  induction fuel generalizing selected with
  | zero => omega
  | succ fuel ih =>
    rw [saturate]
    split
    · rfl
    · rename_i hfound
      have hless := length_remaining_lt (fun hnil => hfound (by rw [hnil]; rfl))
      exact ih (by omega)

/-- What every round keeps: the selected elements are of the pool, have keys of their own, and
lie in every closed set that contains the start. -/
structure Grown (key : α → κ) (follows : α → α → Bool) (pool start selected : List α) : Prop where
  start_subset : ∀ a ∈ start, a ∈ selected
  subset_pool : ∀ a ∈ selected, a ∈ pool
  nodup : (selected.map key).Nodup
  least : ∀ S ∈ closedSets follows pool start, ∀ a ∈ selected, a ∈ S

variable {start : List α}

theorem Grown.round (hpool : (pool.map key).Nodup) (h : Grown key follows pool start selected) :
    Grown key follows pool start (selected ++ found key follows pool selected) where
  start_subset a ha := List.mem_append_left _ (h.start_subset a ha)
  subset_pool a ha := by
    rcases List.mem_append.1 ha with ha | ha
    · exact h.subset_pool a ha
    · exact (mem_found.1 ha).1
  nodup := by
    rw [List.map_append, List.nodup_append]
    refine ⟨h.nodup, hpool.sublist (List.filter_sublist.map key), ?_⟩
    intro k hk k' hk' heq
    obtain ⟨a, ha, rfl⟩ := List.mem_map.1 hk'
    exact (mem_found.1 ha).2.1 (heq ▸ hk)
  least S hS a ha := by
    rcases List.mem_append.1 ha with ha | ha
    · exact h.least S hS a ha
    · obtain ⟨hmem, -, b, hb, hfollows⟩ := mem_found.1 ha
      exact hS.2 b (h.least S hS b hb) a hmem hfollows

/-- A round that finds nothing: what is selected is closed. -/
theorem Grown.closed (hpool : (pool.map key).Nodup) (h : Grown key follows pool start selected)
    (hdone : found key follows pool selected = []) :
    {a | a ∈ selected} ∈ closedSets follows pool start := by
  refine ⟨h.start_subset, fun b hb a ha hfollows => ?_⟩
  by_contra hnot
  have hnew : key a ∉ selected.map key := by
    intro hmem
    obtain ⟨c, hc, heq⟩ := List.mem_map.1 hmem
    exact hnot (List.inj_on_of_nodup_map hpool (h.subset_pool c hc) ha heq ▸ hc)
  have hfound : a ∈ found key follows pool selected := mem_found.2 ⟨ha, hnew, b, hb, hfollows⟩
  rw [hdone] at hfound
  cases hfound

theorem Grown.saturate (hpool : (pool.map key).Nodup) {fuel : ℕ} {result : List α}
    (h : Grown key follows pool start selected)
    (hresult : saturate key follows pool fuel selected = some result) :
    Grown key follows pool start result ∧ found key follows pool result = [] := by
  induction fuel generalizing selected with
  | zero => cases hresult
  | succ fuel ih =>
    rw [Closure.saturate] at hresult
    split at hresult
    · rename_i hdone
      rw [← Option.some.inj hresult]
      exact ⟨h, List.isEmpty_iff.1 hdone⟩
    · exact ih (h.round hpool) hresult

end Rounds

/-- **The least closed set.**  The loop ends with every element of it, once. -/
theorem saturate_isLeast (hpool : (pool.map key).Nodup) {start : List α}
    (hstart : start.Sublist pool) :
    ∃ result, saturate key follows pool (pool.length + 1) start = some result ∧
      (result.map key).Nodup ∧ IsLeast (closedSets follows pool start) {a | a ∈ result} := by
  have hremaining : (remaining key pool start).length < pool.length + 1 :=
    Nat.lt_succ_of_le (List.length_filter_le _ _)
  have hends : (saturate key follows pool (pool.length + 1) start).isSome = true :=
    saturate_isSome hremaining
  obtain ⟨result, hresult⟩ := Option.isSome_iff_exists.1 hends
  have hgrown : Grown key follows pool start start :=
    ⟨fun _ ha => ha, fun _ ha => hstart.subset ha, hpool.sublist (hstart.map key),
      fun _ hS a ha => hS.1 a ha⟩
  obtain ⟨hend, hdone⟩ := hgrown.saturate hpool hresult
  exact ⟨result, hresult, hend.nodup, hend.closed hpool hdone, fun S hS a ha => hend.least S hS a ha⟩

end Closure
