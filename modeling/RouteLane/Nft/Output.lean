import RouteLane.Nft.Blocks

/-!
# The output chain

What the output chain of a rendered document does to a packet, first rule by rule
and then in terms of the plan.  `outputResult` is the meaning of the chain with its
selection and restore chains followed to their end; the claims about new and about
marked flows are read off it.
-/

namespace RouteLane

open Nft Chains

/-! ## The chains, one by one -/

/-- Some lane of a plan has this mark and is ready for the family. -/
def KernelPlan.laneReady (plan : KernelPlan) (f : IpFamily) (m : ℕ) : Bool :=
  plan.lanes.any fun l => l.ready f && l.mark == m

/-- Whether a packet matches an explicit rule of the chain.  Network rules look at the
destination only. -/
def explicitHit (p : Packet) (rule : CompiledRule) : Bool :=
  match rule.target with
  | .network n => n.contains p.daddr
  | target => rule.family == p.family && target.matches p.daddr p.cgroup

/-- A new packet of the direction that opened the connection. -/
def opensFlow (p : Packet) : Bool :=
  p.ct.any fun c => c.state == .new && c.direction == .original

theorem explicitMatch_isMatch (rule : CompiledRule) : ∀ e ∈ explicitMatch rule, e.isMatch = true := by
  rw [explicitMatch]
  cases rule.target <;> simp [familyMatch, destination, equal, Expr.isMatch]

theorem all_holds_explicitMatch (p : Packet) (rule : CompiledRule) :
    (explicitMatch rule).all (Expr.holds p) = explicitHit p rule := by
  rw [explicitMatch, explicitHit]
  cases rule.target with
  | any => simp [CompiledTarget.matches]
  | network n => simp
  | cgroup path =>
    have hpath : (equal (.socketCgroup 2) (.str path)).holds p = (p.cgroup == some path) := by
      rw [holds_equal, Bool.eq_iff_iff]
      cases hc : p.cgroup <;> simp [Operand.read, hc]
    simp [CompiledTarget.matches, hpath]

theorem exec_explicitVerdict_ne (plan : KernelPlan) (rule : CompiledRule) (p s' : Packet) :
    exec (explicitVerdict plan rule) p ≠ .next s' ∧
      exec (explicitVerdict plan rule) p ≠ .skip s' := by
  rw [explicitVerdict]
  cases explicitMark plan rule with
  | none => simp [exec]
  | some m =>
    simp only
    split <;> simp [exec]

/-- The explicit rules: the first that matches decides. -/
theorem runRules_explicit (plan : KernelPlan) (p : Packet) :
    runRules exec (plan.rules.map (explicitRule plan)) p =
      match plan.rules.find? (explicitHit p) with
      | some rule => exec (explicitVerdict plan rule) p
      | none => .next p := by
  have hrule : ∀ rule ∈ plan.rules, runRule exec (explicitRule plan rule) p =
      if explicitHit p rule then exec (explicitVerdict plan rule) p else .skip p := by
    intro rule _
    rw [explicitRule, runRule_matches (explicitMatch_isMatch rule), all_holds_explicitMatch,
      runRule_cons_next exec rfl, runRule_singleton]
  rw [runRules_find exec (explicitRule plan) (explicitHit p) _
    (fun rule s' => exec_explicitVerdict_ne plan rule p s') plan.rules hrule]
  cases plan.rules.find? (explicitHit p) <;> rfl

/-- Marked flows that no rule claims go back to their lane. -/
theorem runRules_restoreGotos (p : Packet) :
    runRules exec (families.map fun f => [familyMatch f, owned (.ct .mark), .goto (.restore f)]) p =
      if ownMark p.ctMark then .goto (.restore p.family) p else .next p := by
  have hrule : ∀ f, runRule exec [familyMatch f, owned (.ct .mark), .goto (.restore f)] p =
      if (f == p.family && ownMark p.ctMark) then .goto (.restore f) p else .skip p := by
    intro f
    have hm : ∀ e ∈ [familyMatch f, owned (.ct .mark)], e.isMatch = true := by
      simp [familyMatch, equal, owned, Expr.isMatch]
    have := runRule_matches hm [.goto (.restore f)] p
    simpa [holds_owned (readsMark_ct p), exec] using this
  cases hf : p.family <;> cases ho : ownMark p.ctMark <;>
    simp [families, runRules_cons, hrule, hf, ho]

/-- Destinations on a local network leave the chain. -/
theorem runRules_localNetworks (networks : List IpNet) (p : Packet) :
    runRules exec (networks.map fun n => [destination n, .ret]) p =
      if networks.any (fun n => n.contains p.daddr) then .ret p else .next p := by
  have hret : ∀ s' : Packet, (Flow.ret p : Flow Packet ChainName Verdict) ≠ .next s' ∧
      (Flow.ret p : Flow Packet ChainName Verdict) ≠ .skip s' := fun s' => ⟨by simp, by simp⟩
  refine runRules_any exec (fun n => [destination n, .ret]) (fun n => n.contains p.daddr) hret
    networks ?_
  intro n _
  have hm : ∀ e ∈ [destination n], e.isMatch = true := by simp [destination, Expr.isMatch]
  have := runRule_matches hm [.ret] p
  simpa [exec] using this

theorem runRules_unmatched (plan : KernelPlan) (p : Packet) :
    runRules exec (families.map (unmatchedRule plan)) p =
      exec (unmatchedVerdict plan p.family) p := by
  have hne : ∀ f s', exec (unmatchedVerdict plan f) p ≠ .next s' ∧
      exec (unmatchedVerdict plan f) p ≠ .skip s' := by
    intro f s'
    rw [unmatchedVerdict]
    cases primaryMark plan f <;> simp [exec]
  have hrule : ∀ f, runRule exec (unmatchedRule plan f) p =
      if f == p.family then exec (unmatchedVerdict plan f) p else .skip p := by
    intro f
    have hm : ∀ e ∈ [familyMatch f], e.isMatch = true := by
      simp [familyMatch, equal, Expr.isMatch]
    have hmatch := runRule_matches hm [.counter none, unmatchedVerdict plan f] p
    rw [runRule_cons_next exec rfl, runRule_singleton] at hmatch
    simpa [unmatchedRule] using hmatch
  have hfind := runRules_find exec (unmatchedRule plan) (fun f => f == p.family)
    (fun f => exec (unmatchedVerdict plan f) p) hne families fun f _ => hrule f
  rw [hfind]
  cases p.family <;> rfl

/-- What the output chain itself does, its jumps not followed. -/
def outputFlow (plan : KernelPlan) (p : Packet) : Flow Packet ChainName Verdict :=
  if controlExempt plan.localNetworks p then .ret p
  else if foreignMark p.mark || foreignMark p.ctMark then .stop (.reject none) p
  else
    match plan.rules.find? (explicitHit p) with
    | some rule => exec (explicitVerdict plan rule) p
    | none =>
      if ownMark p.ctMark then .goto (.restore p.family) p
      else if unmanagedSession p then .ret p
      else if plan.localNetworks.any (fun n => n.contains p.daddr) then .ret p
      else exec (unmatchedVerdict plan p.family) p

theorem runRules_outputRules (plan : KernelPlan) (p : Packet) :
    runRules exec (outputRules plan) p = outputFlow plan p := by
  rw [outputRules, outputFlow]
  simp only [List.append_assoc]
  rw [runRules_append, runRules_controls]
  cases controlExempt plan.localNetworks p with
  | true => rfl
  | false =>
    simp only [Bool.false_eq_true, if_false]
    rw [runRules_append, runRules_foreignMarkRules (readsMark_meta p)]
    cases foreignMark p.mark with
    | true => simp
    | false =>
      simp only [Bool.false_eq_true, if_false, Bool.false_or]
      rw [runRules_append, runRules_foreignMarkRules (readsMark_ct p)]
      cases foreignMark p.ctMark with
      | true => simp
      | false =>
        simp only [Bool.false_eq_true, if_false]
        rw [runRules_append, runRules_explicit]
        cases plan.rules.find? (explicitHit p) with
        | some rule =>
          have hne := exec_explicitVerdict_ne plan rule p
          cases hv : exec (explicitVerdict plan rule) p with
          | next s' => exact absurd hv (hne s').1
          | skip s' => exact absurd hv (hne s').2
          | ret s' => simp only [hv]
          | goto n s' => simp only [hv]
          | stop v s' => simp only [hv]
        | none =>
          simp only
          rw [runRules_append, runRules_restoreGotos]
          cases ownMark p.ctMark with
          | true => simp
          | false =>
            simp only [Bool.false_eq_true, if_false]
            rw [runRules_append, runRules_preserveUnmanagedSessions]
            cases unmanagedSession p with
            | true => simp
            | false =>
              simp only [Bool.false_eq_true, if_false]
              rw [runRules_append, runRules_localNetworks]
              cases plan.localNetworks.any fun n => n.contains p.daddr with
              | true => simp
              | false => simp [runRules_unmatched]

/-! ## The selection and restore chains -/

section Chains

variable {plan : KernelPlan} {p : Packet} {c : Conntrack}

/-- The end of the restore chain of a family: the mark of the connection if a ready lane
has it, a reject otherwise. -/
def restoreResult (plan : KernelPlan) (f : IpFamily) (p : Packet) : Option Verdict × Packet :=
  if plan.laneReady f p.ctMark then (none, p.setMark p.ctMark) else (some (.reject none), p)

theorem runRule_restoreRule (hct : p.ct = some c) (lane : LanePlan) :
    runRule exec (restoreRule lane) p =
      if lane.mark == p.ctMark then .ret (p.setMark p.ctMark) else .skip p := by
  have hm : ∀ e ∈ [equal (.ct .mark) (.num lane.mark)], e.isMatch = true := by
    simp [equal, Expr.isMatch]
  have hmatch := runRule_matches hm [.mangle (.meta .mark) (.operand (.ct .mark)), .ret] p
  have hhold : (equal (.ct .mark) (.num lane.mark)).holds p = (lane.mark == p.ctMark) := by
    rw [holds_equal, Bool.eq_iff_iff, decide_eq_true_iff, beq_iff_eq]
    simp only [Operand.read, hct, Packet.ctMark, Option.map_some, Option.getD_some,
      Option.some.injEq, Datum.num.injEq]
    exact eq_comm
  have htail : runRule exec [.mangle (.meta .mark) (.operand (.ct .mark)), .ret] p =
      .ret (p.setMark p.ctMark) := by
    simp [runRule_cons, exec, Source.read, Operand.read, hct, Packet.ctMark]
  rw [htail] at hmatch
  simpa [restoreRule, hhold] using hmatch

theorem runRules_restoreChain (plan : KernelPlan) (hct : p.ct = some c) (f : IpFamily) :
    runRules exec (restoreChain plan f).rules p =
      if plan.laneReady f p.ctMark then .ret (p.setMark p.ctMark) else .stop (.reject none) p := by
  have hret : ∀ s' : Packet,
      (Flow.ret (p.setMark p.ctMark) : Flow Packet ChainName Verdict) ≠ .next s' ∧
      (Flow.ret (p.setMark p.ctMark) : Flow Packet ChainName Verdict) ≠ .skip s' :=
    fun s' => ⟨by simp, by simp⟩
  have hany := runRules_any exec restoreRule (fun l => l.mark == p.ctMark) hret
    (plan.lanes.filter fun l => l.ready f) fun lane _ => runRule_restoreRule hct lane
  rw [restoreChain, Chain.regular, runRules_append, hany, List.any_filter, KernelPlan.laneReady]
  cases plan.lanes.any fun l => l.ready f && l.mark == p.ctMark <;>
    simp [runRules_cons, exec]

/-- The end of the selection chain of a lane. -/
def selectResult (plan : KernelPlan) (f : IpFamily) (m : ℕ) (p : Packet) :
    Option Verdict × Packet :=
  if p.ctMark = 0 then
    if unmanagedSession p then (none, p)
    else if plan.laneReady f m && opensFlow p then (none, p.setMarks m)
    else (some (.reject none), p)
  else restoreResult plan f p

theorem runRule_selectRule (lane : LanePlan) :
    runRule exec (selectRule lane) p =
      if opensFlow p then .ret (p.setMarks lane.mark) else .skip p := by
  have hm : ∀ e ∈ [Expr.match (.ct .state) .mem (.one (.str "new")),
      equal (.ct .direction) (.str "original")], e.isMatch = true := by
    simp [equal, Expr.isMatch]
  have hmatch := runRule_matches hm [.mangle (.meta .mark) (.num lane.mark),
    .mangle (.ct .mark) (.operand (.meta .mark)), .ret] p
  have hhold : [Expr.match (.ct .state) .mem (.one (.str "new")),
      equal (.ct .direction) (.str "original")].all (Expr.holds p) = opensFlow p := by
    rw [opensFlow]
    cases hc : p.ct with
    | none => simp [holds_match, Operand.read, hc]
    | some c =>
      cases hs : c.state <;> cases hd : c.direction <;>
        simp [holds_match, holds_equal, Operand.read, hc, Op.test, Right.holds, hs, hd,
          CtState.text, CtDirection.text]
  have htail : runRule exec [.mangle (.meta .mark) (.num lane.mark),
      .mangle (.ct .mark) (.operand (.meta .mark)), .ret] p = .ret (p.setMarks lane.mark) := by
    simp [runRule_cons, exec, Source.read, Operand.read, Packet.setMarks]
  rw [htail, hhold] at hmatch
  exact hmatch

/-- What the selection chain of a lane does, its jump not followed. -/
theorem runRules_selectChain (hct : p.ct = some c) (f : IpFamily) (lane : LanePlan) :
    runRules exec (selectChain f lane).rules p =
      if p.ctMark = 0 then
        if unmanagedSession p then .ret p
        else if lane.ready f && opensFlow p then .ret (p.setMarks lane.mark)
        else .stop (.reject none) p
      else .goto (.restore f) p := by
  have hgoto : runRule exec [.match (.ct .mark) .ne (.one (.num 0)), .goto (.restore f)] p =
      if p.ctMark = 0 then .skip p else .goto (.restore f) p := by
    have hmark := Packet.ctMark_of_ct hct
    by_cases hz : c.mark = 0
    · simp [runRule_cons, exec, Operand.read, hct, Op.test, Right.holds, hmark, hz]
    · simp [runRule_cons, exec, Operand.read, hct, Op.test, Right.holds, hmark, hz]
  rw [selectChain, Chain.regular]
  simp only [List.append_assoc]
  rw [runRules_append, runRules_cons, hgoto]
  by_cases hz : p.ctMark = 0
  · simp only [hz, if_true, runRules_nil]
    rw [runRules_append, runRules_preserveUnmanagedSessions]
    cases unmanagedSession p with
    | true => simp
    | false =>
      simp only [Bool.false_eq_true, if_false]
      cases lane.ready f with
      | false => simp [runRules_cons, exec]
      | true =>
        cases ho : opensFlow p with
        | true => simp [runRules_cons, runRule_selectRule, ho]
        | false => simp [runRules_cons, runRule_selectRule, ho, exec]
  · simp [hz]

/-! ## Following the jumps -/

variable {blake3 : Blake3} {pending : Option KernelPlan} {guard : Bool}

theorem chainRules_restore (hwf : plan.WellFormed) (f : IpFamily) :
    chainRules (renderNftDocument blake3 (some plan) pending guard) (.restore f) =
      some (restoreChain plan f).rules := by
  have hmem : restoreChain plan f ∈ policyChains plan := by
    rw [policyChains]
    exact List.mem_append_left _ (List.mem_flatMap.2 ⟨f, mem_families f, List.mem_cons_self⟩)
  exact chainRules_chain (fun q hq => Option.some.inj hq ▸ hwf) (mem_renderChains_policy hmem)

theorem chainRules_select (hwf : plan.WellFormed) (f : IpFamily) {lane : LanePlan}
    (hlane : lane ∈ plan.lanes) :
    chainRules (renderNftDocument blake3 (some plan) pending guard) (.select f lane.mark) =
      some (selectChain f lane).rules := by
  have hmem : selectChain f lane ∈ policyChains plan := by
    rw [policyChains]
    refine List.mem_append_left _ (List.mem_flatMap.2 ⟨f, mem_families f, ?_⟩)
    exact List.mem_cons_of_mem _ (List.mem_map.2 ⟨lane, hlane, rfl⟩)
  exact chainRules_chain (fun q hq => Option.some.inj hq ▸ hwf) (mem_renderChains_policy hmem)

/-- The evaluation of a chain that begins with a jump to a restore chain. -/
theorem evalChain_goto_restore (hwf : plan.WellFormed) (hct : p.ct = some c) {f : IpFamily}
    {rules : List (List Expr)} {fuel : ℕ} (h : runRules exec rules p = .goto (.restore f) p) :
    evalChain exec (chainRules (renderNftDocument blake3 (some plan) pending guard)) (fuel + 1)
      rules p = some (restoreResult plan f p) := by
  rw [evalChain_of_goto exec h (chainRules_restore hwf f), restoreResult]
  have hrun := runRules_restoreChain plan hct f
  split
  · rename_i hready
    rw [if_pos hready] at hrun
    exact evalChain_of_ret exec hrun
  · rename_i hready
    rw [if_neg hready] at hrun
    exact evalChain_of_stop exec hrun

/-- The readiness of a mark is that of the one lane that has it. -/
theorem laneReady_eq (hwf : plan.WellFormed) {lane : LanePlan} (hlane : lane ∈ plan.lanes)
    (f : IpFamily) : plan.laneReady f lane.mark = lane.ready f := by
  rw [KernelPlan.laneReady, Bool.eq_iff_iff, List.any_eq_true]
  constructor
  · rintro ⟨l, hl, h⟩
    rw [Bool.and_eq_true, beq_iff_eq] at h
    rw [hwf.eq_of_mark_eq hl hlane h.2] at h
    exact h.1
  · intro h
    exact ⟨lane, hlane, by simp [h]⟩

/-- The evaluation of a chain that begins with a jump to a selection chain. -/
theorem evalChain_goto_select (hwf : plan.WellFormed) (hct : p.ct = some c) {f : IpFamily}
    {lane : LanePlan} (hlane : lane ∈ plan.lanes) {rules : List (List Expr)} {fuel : ℕ}
    (h : runRules exec rules p = .goto (.select f lane.mark) p) :
    evalChain exec (chainRules (renderNftDocument blake3 (some plan) pending guard)) (fuel + 2)
      rules p = some (selectResult plan f lane.mark p) := by
  rw [evalChain_of_goto exec h (chainRules_select hwf f hlane), selectResult,
    laneReady_eq hwf hlane]
  have hrun := runRules_selectChain hct f lane
  by_cases hz : p.ctMark = 0
  · rw [if_pos hz] at hrun ⊢
    split
    · rename_i hu
      rw [if_pos hu] at hrun
      exact evalChain_of_ret exec hrun
    · rename_i hu
      rw [if_neg hu] at hrun
      split
      · rename_i hr
        rw [if_pos hr] at hrun
        exact evalChain_of_ret exec hrun
      · rename_i hr
        rw [if_neg hr] at hrun
        exact evalChain_of_stop exec hrun
  · rw [if_neg hz] at hrun ⊢
    exact evalChain_goto_restore hwf hct hrun

/-- The end of a verdict that names a mark: the selection chain of its lane, or a reject. -/
def markResult (plan : KernelPlan) (f : IpFamily) (m : Option ℕ) (p : Packet) :
    Option Verdict × Packet :=
  match m with
  | some m =>
    if plan.lanes.any (fun l => l.mark == m) then selectResult plan f m p
    else (some (.reject (some f)), p)
  | none => (some (.reject (some f)), p)

/-- What the output chain of a plan does to a packet of a connection. -/
def outputResult (plan : KernelPlan) (p : Packet) : Option Verdict × Packet :=
  if controlExempt plan.localNetworks p then (none, p)
  else if foreignMark p.mark || foreignMark p.ctMark then (some (.reject none), p)
  else
    match plan.rules.find? (explicitHit p) with
    | some rule => markResult plan rule.family (explicitMark plan rule) p
    | none =>
      if ownMark p.ctMark then restoreResult plan p.family p
      else if unmanagedSession p then (none, p)
      else if plan.localNetworks.any (fun n => n.contains p.daddr) then (none, p)
      else markResult plan p.family (primaryMark plan p.family) p

/-- The primary mark is the mark of a lane of the plan that is ready. -/
theorem mem_of_primaryMark {f : IpFamily} {m : ℕ} (h : primaryMark plan f = some m) :
    ∃ lane ∈ plan.lanes, lane.mark = m ∧ lane.ready f = true := by
  rw [primaryMark] at h
  cases he : plan.primary.effective.get f with
  | blocked => simp [he] at h
  | lane id =>
    rw [he] at h
    obtain ⟨lane, hlane, hmark⟩ := Option.map_eq_some_iff.1 h
    have hready := List.find?_some hlane
    simp only [Bool.and_eq_true] at hready
    exact ⟨lane, List.mem_of_find?_eq_some hlane, hmark, hready.2⟩

/-- The verdict that names a mark. -/
def markVerdict (plan : KernelPlan) (f : IpFamily) (m : Option ℕ) : Expr :=
  match m with
  | some m => if plan.lanes.any (fun l => l.mark == m) then .goto (.select f m) else .reject (some f)
  | none => .reject (some f)

theorem explicitVerdict_eq (plan : KernelPlan) (rule : CompiledRule) :
    explicitVerdict plan rule = markVerdict plan rule.family (explicitMark plan rule) := by
  cases hm : explicitMark plan rule <;> simp only [explicitVerdict, markVerdict, hm]

theorem unmatchedVerdict_eq (plan : KernelPlan) (f : IpFamily) :
    unmatchedVerdict plan f = markVerdict plan f (primaryMark plan f) := by
  cases hprimary : primaryMark plan f with
  | none => simp [unmatchedVerdict, markVerdict, hprimary]
  | some m =>
    obtain ⟨lane, hlane, hm, -⟩ := mem_of_primaryMark hprimary
    have hany : plan.lanes.any (fun l => l.mark == m) = true :=
      List.any_eq_true.2 ⟨lane, hlane, by simp [hm]⟩
    simp only [unmatchedVerdict, markVerdict, hprimary, hany, if_true]

/-- The evaluation of a chain that ends in a verdict naming a mark. -/
theorem evalChain_markVerdict (hwf : plan.WellFormed) (hct : p.ct = some c) {f : IpFamily}
    {m : Option ℕ} {rules : List (List Expr)} {fuel : ℕ}
    (h : runRules exec rules p = exec (markVerdict plan f m) p) :
    evalChain exec (chainRules (renderNftDocument blake3 (some plan) pending guard)) (fuel + 2)
      rules p = some (markResult plan f m p) := by
  cases m with
  | none => exact evalChain_of_stop exec h
  | some m =>
    simp only [markVerdict, markResult] at h ⊢
    split
    · rename_i hany
      rw [if_pos hany] at h
      obtain ⟨lane, hlane, hm⟩ := List.any_eq_true.1 hany
      obtain rfl : lane.mark = m := by simpa using hm
      exact evalChain_goto_select hwf hct hlane h
    · rename_i hany
      rw [if_neg hany] at h
      exact evalChain_of_stop exec h

/-- The rendered output chain, evaluated with its selection and restore chains. -/
theorem evalChainOf_output (hwf : plan.WellFormed) (hct : p.ct = some c) :
    evalChainOf (renderNftDocument blake3 (some plan) pending guard) .output p =
      some (outputResult plan p) := by
  have hmem : outputChain plan ∈ policyChains plan := by simp [policyChains]
  have hrules : rulesOf (renderNftDocument blake3 (some plan) pending guard) .output =
      outputRules plan :=
    rulesOf_chain (fun q hq => Option.some.inj hq ▸ hwf) (mem_renderChains_policy hmem)
  have hrun := runRules_outputRules plan p
  rw [evalChainOf, hrules, outputResult]
  rw [outputFlow] at hrun
  by_cases hexempt : controlExempt plan.localNetworks p = true
  · rw [if_pos hexempt] at hrun ⊢
    exact evalChain_of_ret exec hrun
  rw [if_neg hexempt] at hrun ⊢
  by_cases hforeign : (foreignMark p.mark || foreignMark p.ctMark) = true
  · rw [if_pos hforeign] at hrun ⊢
    exact evalChain_of_stop exec hrun
  rw [if_neg hforeign] at hrun ⊢
  cases hfind : plan.rules.find? (explicitHit p) with
  | some rule =>
    simp only [hfind, explicitVerdict_eq] at hrun
    exact evalChain_markVerdict hwf hct hrun
  | none =>
    simp only [hfind] at hrun
    simp only
    by_cases hown : ownMark p.ctMark = true
    · rw [if_pos hown] at hrun ⊢
      exact evalChain_goto_restore hwf hct hrun
    rw [if_neg hown] at hrun ⊢
    by_cases hsession : unmanagedSession p = true
    · rw [if_pos hsession] at hrun ⊢
      exact evalChain_of_ret exec hrun
    rw [if_neg hsession] at hrun ⊢
    by_cases hlocal : (plan.localNetworks.any fun n => n.contains p.daddr) = true
    · rw [if_pos hlocal] at hrun ⊢
      exact evalChain_of_ret exec hrun
    rw [if_neg hlocal, unmatchedVerdict_eq] at hrun
    rw [if_neg hlocal]
    exact evalChain_markVerdict hwf hct hrun

end Chains

end RouteLane
