import RouteLane.Daemon.Order

/-!
# Activation is all or nothing

An activation that fails leaves what the daemon holds as applied, whichever of its exits it
takes: the desired profile is all it may have changed, and only to what it saved.  What the
helper had already activated is restored, once, before the failure is returned.
-/

namespace RouteLane

open Tasks

/-! ## Failures -/

/-- Whether a write records a failure of an activation. -/
def StateWrite.recordsFailure : StateWrite → Bool
  | .recordFailure _ | .recordRolledBackFailure _ | .recordKernelRestoreFailure _
  | .recordVerificationFailure _ _ => true
  | _ => false

/-- What the daemon holds as applied is the same in both states. -/
structure DaemonState.SameApplied (state later : DaemonState) : Prop where
  applied : later.applied = state.applied
  appliedProfile : later.appliedProfile = state.appliedProfile
  generation : later.generation = state.generation

theorem sameApplied_write {w : StateWrite}
    (h : w.recordsFailure = true ∨ ∃ profile, w = .beginApply profile) (daemon : Daemon) :
    daemon.state.SameApplied (daemon.write w).state := by
  have hwritten : daemon.state.SameApplied (daemon.state.write w).1 := by
    rcases h with h | ⟨profile, rfl⟩
    · cases w with
      | recordFailure _ | recordRolledBackFailure _ | recordKernelRestoreFailure _
      | recordVerificationFailure _ _ => exact ⟨rfl, rfl, rfl⟩
      | _ => cases h
    · exact ⟨rfl, rfl, rfl⟩
  rw [daemon.state_write]
  split
  · exact ⟨hwritten.applied, hwritten.appliedProfile, hwritten.generation⟩
  · exact hwritten

theorem desired_write {w : StateWrite} (h : w.recordsFailure = true) (daemon : Daemon) :
    (daemon.write w).state.desired = daemon.state.desired := by
  have hwritten : (daemon.state.write w).1.desired = daemon.state.desired := by
    cases w with
    | recordFailure _ | recordRolledBackFailure _ | recordKernelRestoreFailure _
    | recordVerificationFailure _ _ => rfl
    | _ => cases h
  rw [daemon.state_write]
  split
  · exact hwritten
  · exact hwritten

theorem desired_write_beginApply (profile : Profile) (daemon : Daemon) :
    (daemon.write (.beginApply profile)).state.desired = some profile := by
  rw [daemon.state_write]
  split <;> rfl

namespace Service

/-! ## What the parts of an activation do -/

abbrev ServiceDeed : Type := Deed Daemon Section Call Call.Reply

/-- The receipt a question hands back to the helper. -/
def restored : ServiceDeed → Option String
  | .asked (.restoreRuntime receipt) _ => some receipt
  | _ => none

/-- The helper or the topology is looked at. -/
inductive Looks : ServiceDeed → Prop
  | inspect (answer : Except DaemonError InspectResponse) : Looks (.asked .inspect answer)
  | topology (profile : Profile) (answer : Except DaemonError TopologySnapshot) :
      Looks (.asked (.topology profile) answer)

theorem Looks.restored {deed : ServiceDeed} (h : Looks deed) : Service.restored deed = none := by
  cases h <;> rfl

section Parts

variable {p : Primitives} {texts : ProbeTexts} {deeds : List ServiceDeed} {α : Type}

theorem ends_write {w : StateWrite} {u : Unit} (h : Ends (write w) deeds u) :
    ∃ found, deeds = [.did (.write w) found] := by
  unfold write at h
  rw [Task.step_bind] at h
  obtain ⟨found, rest, rfl, hrest⟩ := ends_act.1 h
  split at hrest
  · exact absurd hrest not_ends_panicked
  · obtain ⟨rfl, -⟩ := ends_done.1 hrest
    exact ⟨found, rfl⟩

theorem ends_failWith {error : DaemonError} {result : Except DaemonError α}
    (h : Ends (failWith error) deeds result) :
    ∃ found, deeds = [.did (.write (.recordFailure error)) found] := by
  obtain ⟨first, _, rest, rfl, hwrite, hrest⟩ := ends_bind.1 h
  obtain ⟨found, rfl⟩ := ends_write hwrite
  obtain ⟨rfl, -⟩ := ends_done.1 hrest
  exact ⟨found, rfl⟩

/-- What was activated is handed back once, and one failure is recorded after it. -/
theorem ends_rolledBack {receipt : String} {record : StateWrite} {error : DaemonError}
    {result : Except DaemonError α} (hrecord : record.recordsFailure = true)
    (h : Ends (rolledBack receipt record error) deeds result) :
    ∃ reply w found, deeds = [.asked (.restoreRuntime receipt) reply, .did (.write w) found] ∧
      w.recordsFailure = true := by
  obtain ⟨first, reply, rest, rfl, hrestore, hrest⟩ := ends_bind.1 h
  unfold restoreRuntimeReceipt at hrestore
  rw [Task.question_bind] at hrestore
  obtain ⟨answer, tail, rfl, htail⟩ := ends_ask.1 hrestore
  cases answer with
  | ok status =>
    obtain ⟨rfl, rfl⟩ := ends_done.1 htail
    obtain ⟨written, _, tail, rfl, hwrite, htail⟩ := ends_bind.1 hrest
    obtain ⟨found, rfl⟩ := ends_write hwrite
    obtain ⟨rfl, -⟩ := ends_done.1 htail
    exact ⟨_, record, found, rfl, hrecord⟩
  | error failed =>
    obtain ⟨written, _, last, rfl, hwrite, hlast⟩ := ends_bind.1 htail
    obtain ⟨found, rfl⟩ := ends_write hwrite
    obtain ⟨rfl, rfl⟩ := ends_done.1 hlast
    obtain ⟨rfl, -⟩ := ends_done.1 hrest
    exact ⟨_, _, found, rfl, rfl⟩

theorem ends_withLiveTopology {profile : Option Profile} {snapshot : KernelSnapshot}
    {result : Except DaemonError KernelSnapshot}
    (h : Ends (withLiveTopology profile snapshot) deeds result) : ∀ deed ∈ deeds, Looks deed := by
  cases profile with
  | none =>
    obtain ⟨rfl, -⟩ := ends_done.1 h
    exact fun _ hdeed => absurd hdeed List.not_mem_nil
  | some profile =>
    obtain ⟨answer, tail, rfl, htail⟩ := ends_ask.1 h
    have hnone : tail = [] := by
      cases answer with
      | error e => exact (ends_done.1 htail).1
      | ok observed => exact (ends_done.1 htail).1
    rw [hnone]
    intro deed hdeed
    rw [List.mem_singleton.1 hdeed]
    exact .topology profile answer

theorem ends_inspectRuntime {profile : Option Profile} {plan : KernelPlan}
    {expectedPolicy : PlanHash} {result : Except DaemonError VerifiedRuntime}
    (h : Ends (inspectRuntime p texts profile plan expectedPolicy) deeds result) :
    ∀ deed ∈ deeds, Looks deed := by
  unfold inspectRuntime Service.inspect at h
  rw [Task.question_bind] at h
  obtain ⟨answer, tail, rfl, htail⟩ := ends_ask.1 h
  have hlooks : ∀ deed ∈ tail, Looks deed := by
    cases answer with
    | error e =>
      obtain ⟨rfl, -⟩ := ends_done.1 htail
      exact fun _ hdeed => absurd hdeed List.not_mem_nil
    | ok inspected =>
      dsimp only at htail
      split at htail
      · obtain ⟨rfl, -⟩ := ends_done.1 htail
        exact fun _ hdeed => absurd hdeed List.not_mem_nil
      · obtain ⟨first, observed, rest, rfl, hfirst, hrest⟩ := ends_bind.1 htail
        have hnone : rest = [] := by
          cases observed with
          | error e => exact (ends_done.1 hrest).1
          | ok snapshot => exact (ends_done.1 hrest).1
        rw [hnone, List.append_nil]
        exact ends_withLiveTopology hfirst
  intro deed hdeed
  rcases List.mem_cons.1 hdeed with rfl | hdeed
  · exact .inspect answer
  · exact hlooks deed hdeed

/-- From the helper's activation on: an activation that does not stand is looked at, handed
back and recorded. -/
theorem ends_verifyActivation {profile : Profile} {resolutions : ResolutionSnapshot}
    {expectedGeneration : ℕ} {response : RuntimeApplyResponse} {error : DaemonError}
    (h : Ends (verifyActivation p texts profile resolutions expectedGeneration response) deeds
      (.error error)) :
    ∃ looks reply w found, (∀ deed ∈ looks, Looks deed) ∧ w.recordsFailure = true ∧
      deeds = looks ++
        [.asked (.restoreRuntime response.rollbackReceipt) reply, .did (.write w) found] := by
  unfold verifyActivation at h
  dsimp only at h
  split at h
  · obtain ⟨reply, w, found, rfl, hw⟩ := ends_rolledBack rfl h
    exact ⟨[], reply, w, found, fun _ hdeed => absurd hdeed List.not_mem_nil, hw, rfl⟩
  · obtain ⟨looks, verified, rest, rfl, hlooks, hrest⟩ := ends_bind.1 h
    have hback : ∃ reply w found, rest =
        [.asked (.restoreRuntime response.rollbackReceipt) reply, .did (.write w) found] ∧
          w.recordsFailure = true := by
      cases verified with
      | error e => exact ends_rolledBack rfl hrest
      | ok verified =>
        dsimp only at hrest
        split at hrest
        · obtain ⟨_, _, tail, -, -, htail⟩ := ends_bind.1 hrest
          obtain ⟨-, hresult⟩ := ends_done.1 htail
          cases hresult
        · exact ends_rolledBack rfl hrest
    obtain ⟨reply, w, found, rfl, hw⟩ := hback
    exact ⟨looks, reply, w, found, ends_inspectRuntime hlooks, hw, rfl⟩

end Parts

/-! ## The activation -/

/-- What an activation that fails has done: it recorded one failure, after it took the
desired profile over if that was saved, and handed back what the helper had activated. -/
structure AllOrNothing (profile : Profile) (deeds : List ServiceDeed) : Prop where
  applied : ∀ l found, .did l found ∈ deeds →
    found.state.SameApplied (l.perform found).state
  desired : ∀ before l found after, deeds = before ++ .did l found :: after →
    (l.perform found).state.desired = found.state.desired ∨
      ((l.perform found).state.desired = some profile ∧
        .asked (.saveConfig (some profile)) (.ok ()) ∈ before)
  restored : ∀ activation response,
    .asked (.activateRuntime activation) (.ok response) ∈ deeds →
      deeds.filterMap Service.restored = [response.rollbackReceipt]

section Activation

variable {p : Primitives} {texts : ProbeTexts} {profile : Profile} {deeds : List ServiceDeed}

/-- The steps of a failed activation are writes of failures, and the desired profile is taken
over only after the first question, which saved it. -/
theorem AllOrNothing.of_writes
    (hwrites : ∀ l found, .did l found ∈ deeds → ∃ w, l = .write w ∧
      (w.recordsFailure = true ∨ w = .beginApply profile ∧
        ∃ rest, deeds = .asked (.saveConfig (some profile)) (.ok ()) :: rest))
    (hrestored : ∀ activation response,
      .asked (.activateRuntime activation) (.ok response) ∈ deeds →
        deeds.filterMap Service.restored = [response.rollbackReceipt]) :
    AllOrNothing profile deeds where
  applied l found hdid := by
    obtain ⟨w, rfl, hw⟩ := hwrites l found hdid
    exact sameApplied_write (hw.imp_right fun h => ⟨profile, h.1⟩) found
  desired before l found after hdeeds := by
    obtain ⟨w, rfl, hw⟩ := hwrites l found (hdeeds ▸ List.mem_append_right _ List.mem_cons_self)
    rcases hw with hfailure | ⟨rfl, rest, hsaved⟩
    · exact Or.inl (desired_write hfailure found)
    · refine Or.inr ⟨desired_write_beginApply profile found, ?_⟩
      rw [hsaved] at hdeeds
      cases before with
      | nil => cases (List.cons.inj hdeeds).1
      | cons first before =>
        rw [(List.cons.inj hdeeds).1]
        exact List.mem_cons_self
  restored := hrestored

/-- A failed activation ends with the failure it records. -/
theorem AllOrNothing.of_last {w : StateWrite} {found : Daemon} (hw : w.recordsFailure = true)
    (hbegun : ∀ l found, .did l found ∈ deeds → l = .write (.beginApply profile) ∧
      ∃ rest, deeds = .asked (.saveConfig (some profile)) (.ok ()) :: rest)
    (hrestored : ∀ activation response,
      .asked (.activateRuntime activation) (.ok response) ∈ deeds →
        deeds.filterMap Service.restored = [response.rollbackReceipt]) :
    AllOrNothing profile (deeds ++ [.did (.write w) found]) := by
  refine .of_writes (fun l found' hdid => ?_) fun activation response hmem => ?_
  · rcases List.mem_append.1 hdid with hbefore | hlast
    · obtain ⟨rfl, rest, rfl⟩ := hbegun l found' hbefore
      exact ⟨_, rfl, Or.inr ⟨rfl, _, rfl⟩⟩
    · obtain ⟨rfl, rfl⟩ := Deed.did.inj (List.mem_singleton.1 hlast)
      exact ⟨w, rfl, Or.inl hw⟩
  · rcases List.mem_append.1 hmem with hbefore | hlast
    · rw [List.filterMap_append, hrestored activation response hbefore]
      rfl
    · cases List.mem_singleton.1 hlast

/-- **An activation that fails changes nothing the daemon holds as applied.** -/
theorem apply_allOrNothing {error : DaemonError}
    (h : Ends (applyProfileLocked p texts profile) deeds (.error error)) :
    AllOrNothing profile deeds := by
  unfold applyProfileLocked at h
  cases hvalid : validateProfile p.toLowercase profile with
  | error e =>
    rw [hvalid] at h
    obtain ⟨found, rfl⟩ := ends_failWith h
    show AllOrNothing profile ([] ++ [_])
    exact .of_last rfl (by simp) (by simp)
  | ok u =>
    rw [hvalid] at h
    obtain ⟨saved, afterSave, rfl, hsaved⟩ := ends_ask.1 h
    cases saved with
    | error e =>
      obtain ⟨found, rfl⟩ := ends_failWith hsaved
      show AllOrNothing profile ([_] ++ [_])
      exact .of_last rfl (by simp) (by simp)
    | ok u =>
      obtain ⟨begun, afterBegin, rfl, hbegun⟩ := ends_act.1 hsaved
      obtain ⟨resolved, afterResolve, rfl, hresolved⟩ := ends_ask.1 hbegun
      cases resolved with
      | error e =>
        obtain ⟨found, rfl⟩ := ends_failWith hresolved
        show AllOrNothing profile ([_, _, _] ++ [_])
        exact .of_last rfl (by simp) (by simp)
      | ok resolutions =>
        obtain ⟨activated, afterActivate, rfl, hactivated⟩ := ends_ask.1 hresolved
        cases activated with
        | error e =>
          obtain ⟨found, rfl⟩ := ends_failWith hactivated
          show AllOrNothing profile ([_, _, _, _] ++ [_])
          exact .of_last rfl (by simp) (by simp)
        | ok response =>
          obtain ⟨looks, reply, w, found, hlooks, hw, rfl⟩ := ends_verifyActivation hactivated
          -- all that follows the activation before the failure is looked at or handed back
          have hafter : ∀ deed ∈ looks ++ [Deed.asked (Call.restoreRuntime response.rollbackReceipt)
              reply], (∀ l found, deed ≠ .did l found) ∧
                ∀ activation answer, deed ≠ .asked (.activateRuntime activation) answer := by
            intro deed hdeed
            rcases List.mem_append.1 hdeed with hlook | hback
            · cases hlooks deed hlook <;> simp
            · rw [List.mem_singleton.1 hback]
              simp
          have hreceipts : (looks ++ [Deed.asked (Call.restoreRuntime response.rollbackReceipt)
              reply]).filterMap Service.restored = [response.rollbackReceipt] := by
            rw [List.filterMap_append, List.filterMap_eq_nil_iff.2 fun deed hdeed =>
              (hlooks deed hdeed).restored]
            rfl
          have hsplit : looks ++ [Deed.asked (Call.restoreRuntime response.rollbackReceipt) reply,
              .did (.write w) found] = (looks ++ [Deed.asked
                (Call.restoreRuntime response.rollbackReceipt) reply]) ++ [.did (.write w) found] := by
            simp
          rw [hsplit]
          generalize looks ++ [Deed.asked (Call.restoreRuntime response.rollbackReceipt) reply] =
            after at hafter hreceipts
          show AllOrNothing profile ((_ :: _ :: _ :: _ :: after) ++ [_])
          refine .of_last hw (fun l found hdid => ?_) fun activation answer hmem => ?_
          · simp only [List.mem_cons, reduceCtorEq, false_or] at hdid
            rcases hdid with hbegin | hdid
            · exact ⟨(Deed.did.inj hbegin).1, _, rfl⟩
            · exact absurd rfl ((hafter _ hdid).1 l found)
          · simp only [List.mem_cons, reduceCtorEq, false_or] at hmem
            rcases hmem with hother | hother | hsame | hmem
            · cases hother
            · cases hother
            · cases hsame
              rw [← hreceipts]
              rfl
            · exact absurd rfl ((hafter _ hmem).2 activation _)

end Activation

/-! ### A helper that arms something else -/

/-- A world in which the helper answers an activation with another plan. -/
def mismatchedWorld : (call : Call) → call.Reply
  | .saveConfig _ => .ok ()
  | .resolutions _ => .ok ⟨.empty⟩
  | .activateRuntime _ => .ok ⟨.inactive 0, barePlan 5 [], "receipt"⟩
  | .restoreRuntime _ => .ok (.inactive 0)
  | call => world .empty call

/-- The activation is handed back. -/
theorem mismatched_allOrNothing :
    let deeds := history service (fun _ => mismatchedWorld) 0
      (applyProfileLocked countPrimitives plainTexts bareProfile) (Daemon.new none)
    AllOrNothing bareProfile deeds ∧ deeds.filterMap restored = ["receipt"] := by
  have hresult : (Tasks.exec service (fun _ => mismatchedWorld) 0
      (applyProfileLocked countPrimitives plainTexts bareProfile) (Daemon.new none)).result =
      some (.error ⟨"DAEMON_HELPER_RESPONSE_MISMATCH",
        "privileged helper armed a runtime that does not match the requested profile"⟩) := by
    rfl
  exact ⟨apply_allOrNothing (ends_history hresult), by decide +kernel⟩

end Service

end RouteLane
