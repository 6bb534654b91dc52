import RouteLane.Domain.Validation
import RouteLane.Lib.Records
import RouteLane.Ui.RuleTarget

/-!
# Editing a rule

A draft of the rule editor becomes a new rule, or the target and action of one there is.
The editor asks beforehand whether some other rule says the same; the validator finds out
afterwards, from the rules themselves.  The main result is that the two agree, and that a
draft the editor takes can be saved.
-/

namespace RouteLane

open Fallible Records

structure RuleDraft where
  target : String
  action : RuleAction
  deriving DecidableEq, Repr

inductive RuleDraftError where
  | target (error : TargetInputError)
  | missingLane
  | duplicateRule
  deriving DecidableEq, Repr

/-- `find_duplicate_rule`: the same routing intent, while a rule may edit itself. -/
def findDuplicateRule (profile : Profile) (candidate : Rule) (excluding : Option RuleId) :
    Option Rule :=
  profile.rules.find? fun rule =>
    decide (excluding ≠ some rule.id) && rule.duplicateKey == candidate.duplicateKey

/-- The source of the rule that is edited; a new rule has any. -/
def draftSource (profile : Profile) (editing : Option RuleId) : RuleSource :=
  ((editing.bind fun id => profile.rules.find? fun rule => rule.id == id).map Rule.source).getD .any

/-- The action routes to a lane the profile does not have. -/
def missesLane (profile : Profile) : RuleAction → Bool
  | .route id => decide (id ∉ profile.lanes.map Lane.id)
  | _ => false

/-- `validate_rule_draft_for_edit`. -/
def validateRuleDraftForEdit (text : TargetText) (profile : Profile) (draft : RuleDraft)
    (editing : Option RuleId) : Except RuleDraftError (RuleTarget × RuleAction) :=
  match parseRuleTarget text draft.target with
  | .error e => .error (.target e)
  | .ok target =>
    if missesLane profile draft.action then .error .missingLane
    else
      let candidate : Rule :=
        { id := editing.getD "", enabled := true, priority := 0,
          source := draftSource profile editing, target := target, action := draft.action }
      if (findDuplicateRule profile candidate editing).isSome then .error .duplicateRule
      else .ok (target, draft.action)

/-- `validate_rule_draft`. -/
def validateRuleDraft (text : TargetText) (profile : Profile) (draft : RuleDraft) :
    Except RuleDraftError (RuleTarget × RuleAction) :=
  validateRuleDraftForEdit text profile draft none

/-- The rules `save_rule` submits. -/
def saveRule (rule : Rule) (rules : List Rule) : List Rule := upsert Rule.id rule rules

/-- A rule for every process has no desktop id of its own. -/
theorem nodup_desktopId_saveRule {rules : List Rule} {rule : Rule}
    (hids : (rules.map Rule.id).Nodup) (hdesktop : (rules.filterMap Rule.desktopId).Nodup)
    (hsource : rule.source = .any) : ((saveRule rule rules).filterMap Rule.desktopId).Nodup := by
  rw [saveRule, ((upsert_perm hids).filterMap Rule.desktopId).nodup_iff,
    List.filterMap_cons_none (desktopId_of_any hsource)]
  exact (List.filter_sublist.filterMap Rule.desktopId).nodup hdesktop

/-! ## How the validator finds a duplicate -/

theorem checkRouteLanes_ne_duplicate {lanes : List Lane} {rules : List Rule} (a b : RuleId) :
    checkRouteLanes lanes rules ≠ .error (.duplicateRule a b) := by
  induction rules with
  | nil => simp [checkRouteLanes]
  | cons rule rest ih =>
    rw [checkRouteLanes]
    cases rule.action with
    | route id =>
      by_cases hid : id ∈ lanes.map Lane.id
      · simpa only [if_pos hid] using ih
      · simp [hid]
    | direct => exact ih
    | block => exact ih

theorem checkFallbacks_ne_duplicate {lanes rest : List Lane} (a b : RuleId) :
    checkFallbacks lanes rest ≠ .error (.duplicateRule a b) := by
  induction rest with
  | nil => simp [checkFallbacks]
  | cons lane rest ih =>
    rw [checkFallbacks]
    cases lane.fallbackLane with
    | none => exact ih
    | some fallback =>
      simp only
      split
      · simp
      · split
        · simp
        · exact ih

theorem checkCycles_ne_duplicate {lanes rest : List Lane} (a b : RuleId) :
    checkCycles lanes rest ≠ .error (.duplicateRule a b) := by
  induction rest with
  | nil => simp [checkCycles]
  | cons lane rest ih =>
    rw [checkCycles]
    split
    · simp
    · exact ih

/-- Rules that are in order otherwise are refused for nothing but a duplicate. -/
theorem checkRules_ok_or_duplicate {rules : List Rule} {ids : List RuleId}
    {desktopIds : List String} {contents : List (RuleKey × RuleId)}
    (hids : Fresh ids (rules.map Rule.id)) (happs : ∀ rule ∈ rules, rule.ApplicationValid)
    (hdesktop : Fresh desktopIds (rules.filterMap Rule.desktopId)) :
    checkRules ids desktopIds contents rules = .ok () ∨
      ∃ a b, checkRules ids desktopIds contents rules = .error (.duplicateRule a b) := by
  induction rules generalizing ids desktopIds contents with
  | nil => exact Or.inl rfl
  | cons rule rest ih =>
    rw [List.map_cons, fresh_cons] at hids
    rw [List.forall_mem_cons] at happs
    have happlication : checkApplication desktopIds rule =
        .ok (rule.desktopId.toList ++ desktopIds) ∧
        Fresh (rule.desktopId.toList ++ desktopIds) (rest.filterMap Rule.desktopId) := by
      rw [checkApplication_eq_ok, List.filterMap_cons] at *
      cases hid : rule.desktopId with
      | none =>
        rw [hid] at hdesktop
        exact ⟨⟨happs.1, by simp, rfl⟩, hdesktop⟩
      | some id =>
        rw [hid, fresh_cons] at hdesktop
        exact ⟨⟨happs.1, by simpa using hdesktop.1, rfl⟩, hdesktop.2⟩
    rw [checkRules, if_neg hids.1, happlication.1]
    cases hcontent : contents.lookup rule.duplicateKey with
    | some existing => exact Or.inr ⟨existing, rule.id, rfl⟩
    | none => exact ih hids.2 happs.2 happlication.2

/-- With everything before the rules in order, a profile is refused for a duplicate
when its rules are. -/
theorem validateProfile_duplicate_iff {toLowercase : String → String} (profile : Profile)
    (hlanes : profile.lanes.length ≤ 100) (hrules : profile.rules.length ≤ 10000)
    (hchecked : checkLanes toLowercase [] [] profile.lanes = .ok ())
    (hrouting : profile.routing.validate profile.lanes = .ok ()) (a b : RuleId) :
    validateProfile toLowercase profile = .error (.duplicateRule a b) ↔
      checkRules [] [] [] profile.rules = .error (.duplicateRule a b) := by
  rw [validateProfile, failIf, if_neg (not_lt.2 hlanes), failIf, if_neg (not_lt.2 hrules),
    hchecked, hrouting]
  cases hcontents : checkRules [] [] [] profile.rules with
  | error e => exact Iff.rfl
  | ok u =>
    refine iff_of_false ?_ (by simp)
    intro h
    cases hroutes : checkRouteLanes profile.lanes profile.rules with
    | error e =>
      rw [hroutes] at h
      exact checkRouteLanes_ne_duplicate a b (hroutes.trans h)
    | ok u =>
      cases hfallbacks : checkFallbacks profile.lanes profile.lanes with
      | error e =>
        rw [hroutes, hfallbacks] at h
        exact checkFallbacks_ne_duplicate a b (hfallbacks.trans h)
      | ok u =>
        rw [hroutes, hfallbacks] at h
        exact checkCycles_ne_duplicate a b h

/-! ## Drafts -/

/-- The rule a draft is about: a new one, or one of the profile.  It is no application rule. -/
inductive EditedRule (profile : Profile) : Option RuleId → Rule → Prop
  | added {base : Rule} (hid : base.id ∉ profile.rules.map Rule.id) (hsource : base.source = .any) :
      EditedRule profile none base
  | edited {base : Rule} (hbase : base ∈ profile.rules) (hsource : base.source = .any) :
      EditedRule profile (some base.id) base

/-- The rule with the target and action of the draft. -/
def Rule.withDraft (base : Rule) (target : RuleTarget) (action : RuleAction) : Rule :=
  { base with target := target, action := action }

/-- The profile the editor submits. -/
def savedProfile (profile : Profile) (base : Rule) (target : RuleTarget) (action : RuleAction) :
    Profile :=
  { profile with rules := saveRule (base.withDraft target action) profile.rules }

section Drafts

variable {toLowercase : String → String} {profile : Profile} {editing : Option RuleId}
  {base : Rule} {target : RuleTarget} {action : RuleAction}

theorem EditedRule.source (h : EditedRule profile editing base) : base.source = .any := by
  cases h with
  | added _ hsource => exact hsource
  | edited _ hsource => exact hsource

theorem EditedRule.draftSource (h : EditedRule profile editing base)
    (hids : (profile.rules.map Rule.id).Nodup) : draftSource profile editing = .any := by
  cases h with
  | added => rfl
  | edited hbase hsource =>
    have hfind : profile.rules.find? (fun rule => rule.id == base.id) = some base :=
      FirstMatch.find?_key_of_mem hids hbase
    rw [RouteLane.draftSource, Option.bind_some, hfind, Option.map_some, hsource, Option.getD_some]

/-- The editor looks at the rules with other ids. -/
theorem EditedRule.excluding (h : EditedRule profile editing base) {other : Rule}
    (hother : other ∈ profile.rules) : editing ≠ some other.id ↔ other.id ≠ base.id := by
  cases h with
  | added hid =>
    refine iff_of_true nofun fun heq => hid ?_
    exact heq ▸ List.mem_map_of_mem hother
  | edited =>
    rw [Ne, Option.some.injEq, eq_comm]

/-- The candidate of the editor has the content of the rule that is saved. -/
theorem EditedRule.findDuplicateRule_eq_none (h : EditedRule profile editing base)
    {candidate : Rule} (hcandidate : candidate.duplicateKey = (base.withDraft target action).duplicateKey) :
    findDuplicateRule profile candidate editing = none ↔
      ∀ other ∈ profile.rules, other.id ≠ base.id →
        other.duplicateKey ≠ (base.withDraft target action).duplicateKey := by
  rw [findDuplicateRule, List.find?_eq_none, hcandidate]
  refine forall₂_congr fun other hother => ?_
  have hexcluding := h.excluding hother
  rw [Bool.and_eq_true, not_and, decide_eq_true_eq, hexcluding, beq_iff_eq]

/-- What is in order in a valid profile is in order after a rule is saved. -/
theorem EditedRule.saved_sound (h : EditedRule profile editing base)
    (hvalid : profile.Valid toLowercase) (hcount : profile.rules.length < 10000)
    (target : RuleTarget) (action : RuleAction) :
    ((savedProfile profile base target action).rules.map Rule.id).Nodup ∧
      (∀ rule ∈ (savedProfile profile base target action).rules, rule.ApplicationValid) ∧
      ((savedProfile profile base target action).rules.filterMap Rule.desktopId).Nodup ∧
      (savedProfile profile base target action).rules.length ≤ 10000 := by
  refine ⟨nodup_map_key_upsert hvalid.ruleIds, ?_, ?_, ?_⟩
  · intro rule hrule
    rcases (mem_upsert hvalid.ruleIds).1 hrule with rfl | ⟨hrule, -⟩
    · exact applicationValid_of_any h.source
    · exact hvalid.applications rule hrule
  · exact nodup_desktopId_saveRule hvalid.ruleIds hvalid.desktopIds h.source
  · exact length_upsert_le.trans hcount

/-- A saved rule with a known lane and a content of its own keeps the profile valid. -/
theorem EditedRule.saved_valid (h : EditedRule profile editing base)
    (hvalid : profile.Valid toLowercase) (hcount : profile.rules.length < 10000)
    (hlane : missesLane profile action = false)
    (hkeys : ∀ other ∈ profile.rules, other.id ≠ base.id →
      other.duplicateKey ≠ (base.withDraft target action).duplicateKey) :
    (savedProfile profile base target action).Valid toLowercase := by
  obtain ⟨hids, happs, hdesktop, hlength⟩ := h.saved_sound hvalid hcount target action
  refine { hvalid with
    rules_le := hlength, ruleIds := hids, applications := happs, desktopIds := hdesktop
    contents := (nodup_map_upsert_iff hvalid.ruleIds hvalid.contents).2 hkeys
    routes := ?_ }
  intro rule hrule id hid
  rcases (mem_upsert hvalid.ruleIds).1 hrule with rfl | ⟨hrule, -⟩
  · have haction : action = .route id := hid
    rw [haction, missesLane, decide_eq_false_iff_not, not_not] at hlane
    exact hlane
  · exact hvalid.routes rule hrule id hid

/-- The saved profile is refused for a duplicate when another rule has the content. -/
theorem EditedRule.saved_duplicate_iff (h : EditedRule profile editing base)
    (hvalid : profile.Valid toLowercase) (hcount : profile.rules.length < 10000) :
    (∃ a b, validateProfile toLowercase (savedProfile profile base target action) =
      .error (.duplicateRule a b)) ↔
      ¬ ∀ other ∈ profile.rules, other.id ≠ base.id →
        other.duplicateKey ≠ (base.withDraft target action).duplicateKey := by
  obtain ⟨hids, happs, hdesktop, hlength⟩ := h.saved_sound hvalid hcount target action
  have hkeys : ((savedProfile profile base target action).rules.map Rule.duplicateKey).Nodup ↔
      ∀ other ∈ profile.rules, other.id ≠ base.id →
        other.duplicateKey ≠ (base.withDraft target action).duplicateKey :=
    nodup_map_upsert_iff hvalid.ruleIds hvalid.contents
  have hiff := validateProfile_duplicate_iff (savedProfile profile base target action)
    hvalid.lanes_le hlength (checkLanes_nil_eq_ok.2 ⟨hvalid.laneIds, hvalid.named, hvalid.laneNames⟩)
    (validate_eq_ok.2 hvalid.routing)
  have hcases : checkRules [] [] [] (savedProfile profile base target action).rules = .ok () ∨ _ :=
    checkRules_ok_or_duplicate (fresh_empty.2 hids) happs (fresh_empty.2 hdesktop)
  have hok : checkRules [] [] [] (savedProfile profile base target action).rules = .ok () ↔
      ((savedProfile profile base target action).rules.map Rule.duplicateKey).Nodup := by
    rw [checkRules_nil_eq_ok]
    tauto
  simp only [hiff]
  rw [← hkeys, ← hok]
  constructor
  · rintro ⟨a, b, herror⟩ hok
    rw [herror] at hok
    cases hok
  · exact hcases.resolve_left

/-- No rule of a valid profile routes to the lane the draft misses. -/
theorem key_ne_of_missesLane (hvalid : profile.Valid toLowercase)
    (hlane : missesLane profile action = true) {other : Rule} (hother : other ∈ profile.rules) :
    other.duplicateKey ≠ (base.withDraft target action).duplicateKey := by
  intro heq
  have haction : other.action = action := congrArg RuleKey.action heq
  cases action with
  | route id =>
    rw [missesLane, decide_eq_true_eq] at hlane
    exact hlane (hvalid.routes other hother id haction)
  | direct => cases hlane
  | block => cases hlane

end Drafts

/-- The profile with a rule added or changed as the editor accepted it is a valid one, and
the editor takes a draft for a duplicate exactly when the validator would take the rule for
one. -/
theorem validateRuleDraftForEdit_savable (toLowercase : String → String) (text : TargetText)
    (profile : Profile) (draft : RuleDraft) (editing : Option RuleId) (base : Rule)
    (hvalid : validateProfile toLowercase profile = .ok ()) (hcount : profile.rules.length < 10000)
    (hbase : EditedRule profile editing base) :
    (∀ target action, validateRuleDraftForEdit text profile draft editing = .ok (target, action) →
      validateProfile toLowercase (savedProfile profile base target action) = .ok ()) ∧
    (validateRuleDraftForEdit text profile draft editing = .error .duplicateRule ↔
      ∃ target, parseRuleTarget text draft.target = .ok target ∧
        ∃ existing duplicate,
          validateProfile toLowercase (savedProfile profile base target draft.action) =
            .error (.duplicateRule existing duplicate)) := by
  rw [validateProfile_eq_ok] at hvalid
  rw [validateRuleDraftForEdit]
  cases htarget : parseRuleTarget text draft.target with
  | error e => simp
  | ok target =>
    let candidate : Rule :=
      ⟨editing.getD "", true, 0, draftSource profile editing, target, draft.action⟩
    -- the candidate differs from the saved rule in its id, priority and enabled flag only
    have hcandidate : candidate.duplicateKey = (base.withDraft target draft.action).duplicateKey := by
      simp [candidate, Rule.duplicateKey, Rule.withDraft, hbase.draftSource hvalid.ruleIds,
        hbase.source]
    have hnone := hbase.findDuplicateRule_eq_none hcandidate
    have hduplicate : (∃ existing duplicate,
        validateProfile toLowercase (savedProfile profile base target draft.action) =
          .error (.duplicateRule existing duplicate)) ↔ _ :=
      hbase.saved_duplicate_iff hvalid hcount
    simp only [Except.ok.injEq, exists_eq_left']
    rw [hduplicate]
    cases hlane : missesLane profile draft.action with
    | true =>
      have hkeys : ∀ other ∈ profile.rules, other.id ≠ base.id →
          other.duplicateKey ≠ (base.withDraft target draft.action).duplicateKey :=
        fun other hother _ => key_ne_of_missesLane hvalid hlane hother
      exact ⟨by simp, iff_of_false (by simp) (not_not.2 hkeys)⟩
    | false =>
      rw [← hnone]
      cases hfound : findDuplicateRule profile candidate editing with
      | some other => simp
      | none =>
        refine ⟨?_, by simp⟩
        intro target' action' haccepted
        cases haccepted
        exact validateProfile_eq_ok.2 (hbase.saved_valid hvalid hcount hlane (hnone.1 hfound))

/-- Two rules for every process. -/
def editorProfile : Profile where
  id := "work"
  name := "Work"
  enabled := false
  lanes := []
  rules := [⟨"a", true, 10, .any, .domain "existing.example", .block⟩,
    ⟨"b", true, 20, .any, .domain "other.example", .block⟩]
  routing := ⟨.preserveSystem, .followSystemDefault, [], false⟩

/-- A rule may be saved under another spelling of its own target; of the other rule's it is a
duplicate. -/
theorem validateRuleDraftForEdit_savable_own :
    (∃ base, validateRuleDraftForEdit .numbers editorProfile ⟨"Existing.Example.", .block⟩
        (some "a") = .ok (.domain "existing.example", .block) ∧
      validateProfile id (savedProfile editorProfile base (.domain "existing.example") .block) =
        .ok ()) ∧
    ∃ base existing duplicate,
      validateProfile id (savedProfile editorProfile base (.domain "other.example") .block) =
        .error (.duplicateRule existing duplicate) := by
  let base : Rule := ⟨"a", true, 10, .any, .domain "existing.example", .block⟩
  have hmem : base ∈ editorProfile.rules := by decide
  have hbase : EditedRule editorProfile (some "a") base := .edited hmem rfl
  have hsavable (draft : RuleDraft) :=
    validateRuleDraftForEdit_savable id .numbers editorProfile draft (some "a") base (by decide)
      (by decide) hbase
  have hown : validateRuleDraftForEdit .numbers editorProfile ⟨"Existing.Example.", .block⟩
      (some "a") = .ok (.domain "existing.example", .block) := by decide
  have hother : validateRuleDraftForEdit .numbers editorProfile ⟨"other.example", .block⟩
      (some "a") = .error .duplicateRule := by decide
  refine ⟨⟨base, hown, (hsavable _).1 _ _ hown⟩, base, ?_⟩
  obtain ⟨target, htarget, hduplicate⟩ := (hsavable _).2.1 hother
  have hparsed : parseRuleTarget .numbers "other.example" = .ok (.domain "other.example") := by
    decide
  cases hparsed.symm.trans htarget
  exact hduplicate

end RouteLane
