import RouteLane.Domain.Validation
import RouteLane.Lib.Records

/-!
# Editing connections

The connection pages add, rename and delete lanes and choose the primary one.  Each edit
makes a few checks of its own; the daemon goes by `validate_profile`.  The main result is
that what an edit lets through is a valid profile, and that a lane can be deleted exactly
when nothing but rules refers to it.
-/

namespace RouteLane

open Fallible Records

/-- `canonical_lane_name`. -/
def canonicalLaneName (toLowercase : String → String) (profile : Profile)
    (excludedLane : Option LaneId) (input : String) : Except DomainError String :=
  let canonical := String.ofList (trim input.toList)
  match laneNameKey toLowercase canonical with
  | none => .error (.emptyLaneName (excludedLane.getD "new"))
  | some key =>
    if profile.lanes.any fun lane =>
        decide (excludedLane ≠ some lane.id) && laneNameKey toLowercase lane.name == some key then
      .error (.duplicateLaneName key)
    else .ok canonical

/-! ## Lanes -/

namespace Settings

inductive LaneEditError where
  | emptyName
  | duplicateName
  | emptyInterface
  | notFound
  deriving DecidableEq, Repr

def LaneEditError.ofDomain : DomainError → LaneEditError
  | .emptyLaneName _ => .emptyName
  | .duplicateLaneName _ => .duplicateName
  | _ => .notFound

end Settings

/-- `add_lane`, with the id it makes up. -/
def addLane (toLowercase : String → String) (profile : Profile) (id : LaneId)
    (name interface : String) (failurePolicy : LaneFailurePolicy) :
    Except Settings.LaneEditError Profile :=
  match canonicalLaneName toLowercase profile none name with
  | .error e => .error (.ofDomain e)
  | .ok name =>
    let interface := trim interface.toList
    if interface.isEmpty then .error .emptyInterface
    else
      .ok { profile with
        lanes := profile.lanes ++ [⟨id, name, String.ofList interface, none, failurePolicy⟩] }

/-- `rename_lane`. -/
def renameLane (toLowercase : String → String) (profile : Profile) (laneId : LaneId)
    (name : String) : Except Settings.LaneEditError Profile :=
  match canonicalLaneName toLowercase profile (some laneId) name with
  | .error e => .error (.ofDomain e)
  | .ok name =>
    if laneId ∈ profile.lanes.map Lane.id then
      .ok { profile with
        lanes := modifyFirst Lane.id laneId (fun lane => { lane with name := name }) profile.lanes }
    else .error .notFound

/-- `delete_lane`: the lane goes, and the rules routed to it go with it. -/
def deleteLane (profile : Profile) (laneId : LaneId) : Profile :=
  { profile with
    lanes := profile.lanes.filter fun lane => lane.id ≠ laneId
    rules := profile.rules.filter fun rule => rule.action ≠ .route laneId }

namespace Connections

inductive LaneEditError where
  | emptyName
  | invalidName
  | missingInterface
  | notFound
  | fallbackInUse
  | routingInUse
  deriving DecidableEq, Repr

end Connections

/-- `routing_references`. -/
def routingReferences (profile : Profile) (laneId : LaneId) : Bool :=
  decide (profile.routing.primary = .lane laneId) || decide (laneId ∈ profile.routing.backups)

/-- `delete_candidate`. -/
def deleteCandidate (toLowercase : String → String) (profile : Profile) (laneId : LaneId) :
    Except Connections.LaneEditError Profile :=
  if laneId ∉ profile.lanes.map Lane.id then .error .notFound
  else if profile.lanes.any fun lane => lane.fallbackLane == some laneId then .error .fallbackInUse
  else if routingReferences profile laneId then .error .routingInUse
  else
    match validateProfile toLowercase (deleteLane profile laneId) with
    | .error _ => .error .fallbackInUse
    | .ok () => .ok (deleteLane profile laneId)

/-! ## The primary lane -/

structure PrimaryDraft where
  profileId : ProfileId
  primary : PrimarySelection
  backups : List LaneId
  automaticFailover : Bool
  deriving DecidableEq, Repr

/-- The text of `invalid` is the `Debug` text of the error it has here. -/
inductive PrimaryEditError where
  | staleProfile
  | unknownLane (id : LaneId)
  | invalid (error : DomainError)
  deriving DecidableEq, Repr

/-- The lanes a draft names, the primary one first. -/
def PrimaryDraft.referenced (draft : PrimaryDraft) : List LaneId :=
  match draft.primary with
  | .lane id => id :: draft.backups
  | .followSystemDefault => draft.backups

/-- `validate_primary_draft`. -/
def validatePrimaryDraft (toLowercase : String → String) (profile : Profile)
    (draft : PrimaryDraft) : Except PrimaryEditError Profile :=
  if draft.profileId ≠ profile.id then .error .staleProfile
  else
    match draft.referenced.find? fun id => decide (id ∉ profile.lanes.map Lane.id) with
    | some id => .error (.unknownLane id)
    | none =>
      let candidate := { profile with
        routing := ⟨profile.routing.unmatchedTraffic, draft.primary, draft.backups,
          draft.automaticFailover⟩ }
      match validateProfile toLowercase candidate with
      | .error e => .error (.invalid e)
      | .ok () => .ok candidate

/-! ## What an edit of the lanes leaves in order -/

section Lanes

variable {toLowercase : String → String} {profile : Profile}

/-- A name the editor takes is no other lane's. -/
theorem canonicalLaneName_eq_ok {excludedLane : Option LaneId} {input name : String}
    (h : canonicalLaneName toLowercase profile excludedLane input = .ok name) :
    ∃ key, laneNameKey toLowercase name = some key ∧
      ∀ lane ∈ profile.lanes, excludedLane ≠ some lane.id →
        laneNameKey toLowercase lane.name ≠ some key := by
  rw [canonicalLaneName] at h
  cases hkey : laneNameKey toLowercase (String.ofList (trim input.toList)) with
  | none => simp [hkey] at h
  | some key =>
    simp only [hkey, guard_eq_ok, Except.ok.injEq] at h
    obtain ⟨hnone, rfl⟩ := h
    refine ⟨key, hkey, ?_⟩
    intro lane hlane hexcluded heq
    refine hnone (List.any_eq_true.2 ⟨lane, hlane, ?_⟩)
    simp [hexcluded, heq]

/-! ## Adding -/

theorem addLane_valid {id : LaneId} {name interface : String} {failurePolicy : LaneFailurePolicy}
    {profile' : Profile} (h : profile.Valid toLowercase) (hcount : profile.lanes.length < 100)
    (hid : id ∉ profile.lanes.map Lane.id)
    (hadd : addLane toLowercase profile id name interface failurePolicy = .ok profile') :
    profile'.Valid toLowercase := by
  rw [addLane] at hadd
  cases hname : canonicalLaneName toLowercase profile none name with
  | error e => simp [hname] at hadd
  | ok name =>
    simp only [hname, guard_eq_ok, Except.ok.injEq] at hadd
    obtain ⟨-, rfl⟩ := hadd
    obtain ⟨key, hkey, hother⟩ := canonicalLaneName_eq_ok hname
    have hsub (added : Lane) : ∀ other ∈ profile.lanes.map Lane.id,
        other ∈ (profile.lanes ++ [added]).map Lane.id := by
      intro other hmem
      rw [List.map_append]
      exact List.mem_append_left _ hmem
    refine { h with
      lanes_le := by simpa using hcount
      laneIds := ?_, named := ?_, laneNames := ?_
      routing := h.routing.mono (hsub _)
      routes := fun rule hrule lane hlane => hsub _ lane (h.routes rule hrule lane hlane)
      fallbacks := ?_
      acyclic := fun lane _ => h.ends_of_sub ?_ lane.id }
    · rw [List.map_append, List.nodup_append]
      refine ⟨h.laneIds, List.nodup_singleton _, ?_⟩
      rintro a ha b hb rfl
      rw [List.mem_singleton.1 hb] at ha
      exact hid ha
    · rw [List.forall_mem_append]
      refine ⟨h.named, ?_⟩
      simp [hkey]
    · rw [List.map_append, List.nodup_append]
      refine ⟨h.laneNames, List.nodup_singleton _, ?_⟩
      rintro a ha b hb rfl
      obtain ⟨lane, hlane, rfl⟩ := List.mem_map.1 ha
      exact hother lane hlane nofun ((List.mem_singleton.1 hb).trans hkey)
    · rw [List.forall_mem_append]
      refine ⟨fun lane hlane next hnext => ?_, ?_⟩
      · have hfallback := h.fallbacks lane hlane next hnext
        exact ⟨hsub _ next hfallback.1, hfallback.2⟩
      · simp
    · rw [List.forall_mem_append]
      refine ⟨fun lane hlane next hnext => ⟨lane, hlane, rfl, hnext⟩, ?_⟩
      simp

/-! ## Renaming -/

theorem renameLane_valid {laneId : LaneId} {name : String} {profile' : Profile}
    (h : profile.Valid toLowercase)
    (hrename : renameLane toLowercase profile laneId name = .ok profile') :
    profile'.Valid toLowercase := by
  rw [renameLane] at hrename
  cases hname : canonicalLaneName toLowercase profile (some laneId) name with
  | error e => simp [hname] at hrename
  | ok name =>
    simp only [hname] at hrename
    split at hrename
    · obtain rfl := Except.ok.inj hrename
      obtain ⟨key, hkey, hother⟩ := canonicalLaneName_eq_ok hname
      have hfresh : ∀ lane ∈ profile.lanes, lane.id ≠ laneId →
          laneNameKey toLowercase lane.name ≠ some key := by
        intro lane hlane hne
        exact hother lane hlane fun heq => hne (Option.some.inj heq).symm
      rw [modifyFirst_eq_map h.laneIds]
      refine h.relabel ?_ ?_ ?_ ?_
      · intro lane
        split <;> rfl
      · intro lane
        split <;> rfl
      · intro lane hlane
        by_cases hid : lane.id = laneId
        · simp [hid, hkey]
        · simpa [hid] using h.named lane hlane
      · -- two lanes differ in their ids, so at most one of them got the new name
        rw [List.Nodup, List.pairwise_map]
        have hpairs := (List.pairwise_map.1 h.laneIds).and (List.pairwise_map.1 h.laneNames)
        refine hpairs.imp_of_mem ?_
        rintro a b ha hb ⟨hne, hnames⟩
        by_cases haid : a.id = laneId
        · have hbid : b.id ≠ laneId := fun heq => hne (haid.trans heq.symm)
          simpa [haid, hbid, hkey] using (hfresh b hb hbid).symm
        · by_cases hbid : b.id = laneId
          · simpa [haid, hbid, hkey] using hfresh a ha haid
          · simpa [haid, hbid] using hnames
    · cases hrename

/-! ## Deleting -/

/-- Only rules refer to the lane. -/
structure Deletable (profile : Profile) (laneId : LaneId) : Prop where
  known : laneId ∈ profile.lanes.map Lane.id
  fallback : ∀ lane ∈ profile.lanes, lane.fallbackLane ≠ some laneId
  primary : profile.routing.primary ≠ .lane laneId
  backup : laneId ∉ profile.routing.backups

/-- The other lanes stay. -/
theorem mem_ids_deleteLane {laneId id : LaneId} :
    id ∈ (deleteLane profile laneId).lanes.map Lane.id ↔
      id ∈ profile.lanes.map Lane.id ∧ id ≠ laneId := by
  rw [deleteLane, List.mem_map, List.mem_map]
  constructor
  · rintro ⟨lane, hlane, rfl⟩
    obtain ⟨hlane, hne⟩ := List.mem_filter.1 hlane
    exact ⟨⟨lane, hlane, rfl⟩, by simpa using hne⟩
  · rintro ⟨⟨lane, hlane, rfl⟩, hne⟩
    exact ⟨lane, List.mem_filter.2 ⟨hlane, by simpa using hne⟩, rfl⟩

theorem deleteLane_valid {laneId : LaneId} (h : profile.Valid toLowercase)
    (hdelete : Deletable profile laneId) : (deleteLane profile laneId).Valid toLowercase := by
  have hlanes : ∀ lane ∈ (deleteLane profile laneId).lanes, lane ∈ profile.lanes :=
    fun lane hlane => List.mem_of_mem_filter hlane
  have hrules : ∀ rule ∈ (deleteLane profile laneId).rules, rule ∈ profile.rules :=
    fun rule hrule => List.mem_of_mem_filter hrule
  refine {
    lanes_le := (List.length_filter_le _ _).trans h.lanes_le
    rules_le := (List.length_filter_le _ _).trans h.rules_le
    laneIds := (List.filter_sublist.map _).nodup h.laneIds
    named := fun lane hlane => h.named lane (hlanes lane hlane)
    laneNames := (List.filter_sublist.map _).nodup h.laneNames
    routing := ⟨?_, ?_, h.routing.nodup⟩
    ruleIds := (List.filter_sublist.map _).nodup h.ruleIds
    applications := fun rule hrule => h.applications rule (hrules rule hrule)
    desktopIds := (List.filter_sublist.filterMap _).nodup h.desktopIds
    contents := (List.filter_sublist.map _).nodup h.contents
    routes := ?_
    fallbacks := ?_
    acyclic := fun lane _ => h.ends_of_sub ?_ lane.id }
  · intro id hid
    refine mem_ids_deleteLane.2 ⟨h.routing.primary id hid, ?_⟩
    rintro rfl
    exact hdelete.primary hid
  · intro id hid
    obtain ⟨hknown, hne⟩ := h.routing.backups id hid
    refine ⟨mem_ids_deleteLane.2 ⟨hknown, ?_⟩, hne⟩
    rintro rfl
    exact hdelete.backup hid
  · intro rule hrule id hid
    refine mem_ids_deleteLane.2 ⟨h.routes rule (hrules rule hrule) id hid, ?_⟩
    rintro rfl
    have hkept := (List.mem_filter.1 hrule).2
    simp [hid] at hkept
  · intro lane hlane next hnext
    obtain ⟨hknown, hne⟩ := h.fallbacks lane (hlanes lane hlane) next hnext
    refine ⟨mem_ids_deleteLane.2 ⟨hknown, ?_⟩, hne⟩
    rintro rfl
    exact hdelete.fallback lane (hlanes lane hlane) hnext
  · intro lane hlane next hnext
    exact ⟨lane, hlanes lane hlane, rfl, hnext⟩

/-- `delete_candidate` deletes what only rules refer to; the validation behind its checks
never fails. -/
theorem deleteCandidate_eq_ok {laneId : LaneId} {profile' : Profile}
    (h : profile.Valid toLowercase) :
    deleteCandidate toLowercase profile laneId = .ok profile' ↔
      Deletable profile laneId ∧ deleteLane profile laneId = profile' := by
  have hdeletable : Deletable profile laneId ↔ laneId ∈ profile.lanes.map Lane.id ∧
      (profile.lanes.any fun lane => lane.fallbackLane == some laneId) = false ∧
      routingReferences profile laneId = false := by
    have hfallback : (profile.lanes.any fun lane => lane.fallbackLane == some laneId) = false ↔
        ∀ lane ∈ profile.lanes, lane.fallbackLane ≠ some laneId := by simp
    have hrouting : routingReferences profile laneId = false ↔
        profile.routing.primary ≠ .lane laneId ∧ laneId ∉ profile.routing.backups := by
      rw [routingReferences, Bool.or_eq_false_iff, decide_eq_false_iff_not,
        decide_eq_false_iff_not]
    rw [hfallback, hrouting]
    constructor
    · intro hdelete
      exact ⟨hdelete.known, hdelete.fallback, hdelete.primary, hdelete.backup⟩
    · rintro ⟨hknown, hfallback, hprimary, hbackup⟩
      exact ⟨hknown, hfallback, hprimary, hbackup⟩
  rw [deleteCandidate, guard_eq_ok, guard_eq_ok, guard_eq_ok, not_not, Bool.not_eq_true,
    Bool.not_eq_true]
  constructor
  · rintro ⟨hknown, hfallback, hrouting, hdeleted⟩
    have hdelete := hdeletable.2 ⟨hknown, hfallback, hrouting⟩
    rw [validateProfile_eq_ok.2 (deleteLane_valid h hdelete)] at hdeleted
    exact ⟨hdelete, Except.ok.inj hdeleted⟩
  · rintro ⟨hdelete, rfl⟩
    obtain ⟨hknown, hfallback, hrouting⟩ := hdeletable.1 hdelete
    refine ⟨hknown, hfallback, hrouting, ?_⟩
    rw [validateProfile_eq_ok.2 (deleteLane_valid h hdelete)]

end Lanes

/-! ## Every edit -/

theorem validatePrimaryDraft_valid {toLowercase : String → String} {profile profile' : Profile}
    {draft : PrimaryDraft} (h : validatePrimaryDraft toLowercase profile draft = .ok profile') :
    validateProfile toLowercase profile' = .ok () := by
  rw [validatePrimaryDraft, guard_eq_ok] at h
  obtain ⟨-, h⟩ := h
  split at h
  · cases h
  · simp only at h
    split at h
    · cases h
    · next hcandidate =>
      obtain rfl := Except.ok.inj h
      exact hcandidate

/-- Every edit of the connections leaves a valid profile, and a lane is deleted exactly when
only rules refer to it: then the lane and these rules go, and nothing else changes. -/
theorem connectionEdits_valid (toLowercase : String → String) (profile : Profile)
    (hvalid : validateProfile toLowercase profile = .ok ()) (hcount : profile.lanes.length < 100) :
    (∀ id name interface failurePolicy profile', id ∉ profile.lanes.map Lane.id →
      addLane toLowercase profile id name interface failurePolicy = .ok profile' →
      validateProfile toLowercase profile' = .ok ()) ∧
    (∀ laneId name profile', renameLane toLowercase profile laneId name = .ok profile' →
      validateProfile toLowercase profile' = .ok ()) ∧
    (∀ draft profile', validatePrimaryDraft toLowercase profile draft = .ok profile' →
      validateProfile toLowercase profile' = .ok ()) ∧
    ∀ laneId,
      ((∃ profile', deleteCandidate toLowercase profile laneId = .ok profile') ↔
        laneId ∈ profile.lanes.map Lane.id ∧
        (∀ lane ∈ profile.lanes, lane.fallbackLane ≠ some laneId) ∧
        profile.routing.primary ≠ .lane laneId ∧ laneId ∉ profile.routing.backups) ∧
      ∀ profile', deleteCandidate toLowercase profile laneId = .ok profile' →
        validateProfile toLowercase profile' = .ok () ∧
        profile' = { profile with
          lanes := profile.lanes.filter fun lane => lane.id ≠ laneId
          rules := profile.rules.filter fun rule => rule.action ≠ .route laneId } := by
  simp only [validateProfile_eq_ok] at hvalid ⊢
  refine ⟨fun id name interface failurePolicy profile' hid hadd =>
      addLane_valid hvalid hcount hid hadd,
    fun laneId name profile' hrename => renameLane_valid hvalid hrename,
    fun draft profile' hdraft => validateProfile_eq_ok.1 (validatePrimaryDraft_valid hdraft), ?_⟩
  intro laneId
  simp only [deleteCandidate_eq_ok hvalid]
  refine ⟨?_, ?_⟩
  · constructor
    · rintro ⟨profile', hdelete, -⟩
      exact ⟨hdelete.known, hdelete.fallback, hdelete.primary, hdelete.backup⟩
    · rintro ⟨hknown, hfallback, hprimary, hbackup⟩
      exact ⟨_, ⟨hknown, hfallback, hprimary, hbackup⟩, rfl⟩
  · rintro profile' ⟨hdelete, rfl⟩
    exact ⟨deleteLane_valid hvalid hdelete, rfl⟩

/-- Two lanes, the one standing in for the other, and a rule on the first. -/
def connectedProfile : Profile where
  id := "work"
  name := "Work"
  enabled := false
  lanes := [⟨"vpn", "tunnel", "wg0", some "wan", .block⟩, ⟨"wan", "uplink", "eth0", none, .direct⟩]
  rules := [⟨"a", true, 10, .any, .domain "a.example", .route "vpn"⟩,
    ⟨"b", true, 20, .any, .domain "b.example", .block⟩]
  routing := ⟨.usePrimary, .lane "wan", [], true⟩

/-- The lane with the fallback can be deleted, and its rule goes with it. -/
theorem connectionEdits_valid_delete :
    ∃ profile', deleteCandidate id connectedProfile "vpn" = .ok profile' ∧
      validateProfile id profile' = .ok () ∧ profile'.rules.map Rule.id = ["b"] := by
  obtain ⟨-, -, -, hdelete⟩ := connectionEdits_valid id connectedProfile (by decide) (by decide)
  obtain ⟨hiff, heq⟩ := hdelete "vpn"
  obtain ⟨profile', hprofile'⟩ := hiff.2 (by decide)
  obtain ⟨hvalid, rfl⟩ := heq profile' hprofile'
  exact ⟨_, hprofile', hvalid, by decide⟩

end RouteLane
