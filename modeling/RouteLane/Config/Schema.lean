import RouteLane.Domain.Profile
import RouteLane.Net.Derived
import RouteLane.Net.NetworkText

/-!
# Configuration documents

The configuration file has had four schemas: one without a version, and the versions 2 to 4.
A document is read strictly as the one its version says.  Older profiles keep data types of
their own; what they hold, lanes and rules, has one encoding throughout.
-/

namespace RouteLane

open Fallible JsonValue

/-! ## Documents -/

inductive Language where
  | en
  | tr
  deriving DecidableEq, Repr

/-- A rule of the unversioned schema. -/
structure PersistedRule where
  targetStr : String
  isDomain : Bool
  interface : String
  deriving DecidableEq, Repr

/-- The unversioned schema. -/
structure PersistedState where
  language : Language
  altInterface : Option String
  rules : List PersistedRule
  deriving DecidableEq, Repr

structure ProfileV2 where
  id : ProfileId
  name : String
  enabled : Bool
  lanes : List Lane
  rules : List Rule
  deriving DecidableEq, Repr

structure ConfigV2 where
  schemaVersion : ℕ
  language : Language
  profiles : List ProfileV2
  deriving DecidableEq, Repr

structure RoutingPolicyV3 where
  primary : PrimarySelection
  backups : List LaneId
  automaticFailover : Bool
  deriving DecidableEq, Repr

/-- A profile before unmatched traffic could be left to the system. -/
structure ProfileV3 where
  id : ProfileId
  name : String
  enabled : Bool
  lanes : List Lane
  rules : List Rule
  routing : RoutingPolicyV3
  deriving DecidableEq, Repr

structure ConfigV3 where
  schemaVersion : ℕ
  routingNoticePending : Bool
  language : Language
  profiles : List ProfileV3
  deriving DecidableEq, Repr

structure ConfigV4 where
  schemaVersion : ℕ
  /-- Retained until the user acknowledges the migrated routing scope. -/
  routingNoticePending : Bool
  language : Language
  profiles : List Profile
  deriving DecidableEq, Repr

inductive ConfigDocument where
  | v4 (current : ConfigV4)
  | v3 (old : ConfigV3)
  | v2 (old : ConfigV2)
  | legacy (state : PersistedState)
  deriving DecidableEq, Repr

/-- `CURRENT_SCHEMA_VERSION`. -/
def currentSchemaVersion : ℕ := 4

/-! ## Enumerations -/

/-- The variant a document names, and what the variant holds. -/
def readVariant : JsonValue → Except String (String × Option JsonValue)
  | .string tag => .ok (tag, none)
  | .object [(tag, v)] => .ok (tag, some v)
  | .object _ => .error "invalid value, expected map with a single key"
  | _ => .error "invalid type, expected string or map"

/-- A variant that holds nothing. -/
def unitVariant {α : Type} (a : α) : Option JsonValue → Except String α
  | none | some .null => .ok a
  | some _ => .error "invalid type, expected unit"

/-- A variant that holds one value. -/
def newtypeVariant {α β : Type} (c : Codec β) (f : β → α) : Option JsonValue → Except String α
  | none => .error "invalid type: unit variant, expected newtype variant"
  | some v => (c.decode v).map f

def Codec.language : Codec Language where
  encode
    | .en => .string "en"
    | .tr => .string "tr"
  decode v := do
    let variant ← readVariant v
    if variant.1 = "en" then unitVariant .en variant.2
    else if variant.1 = "tr" then unitVariant .tr variant.2
    else .error "unknown variant"

def Codec.failurePolicy : Codec LaneFailurePolicy where
  encode
    | .block => .string "Block"
    | .direct => .string "Direct"
    | .inactive => .string "Inactive"
  decode v := do
    let variant ← readVariant v
    if variant.1 = "Block" then unitVariant .block variant.2
    else if variant.1 = "Direct" then unitVariant .direct variant.2
    else if variant.1 = "Inactive" then unitVariant .inactive variant.2
    else .error "unknown variant"

def Codec.unmatchedTraffic : Codec UnmatchedTraffic where
  encode
    | .preserveSystem => .string "PreserveSystem"
    | .usePrimary => .string "UsePrimary"
  decode v := do
    let variant ← readVariant v
    if variant.1 = "PreserveSystem" then unitVariant .preserveSystem variant.2
    else if variant.1 = "UsePrimary" then unitVariant .usePrimary variant.2
    else .error "unknown variant"

def Codec.primarySelection : Codec PrimarySelection where
  encode
    | .followSystemDefault => .string "FollowSystemDefault"
    | .lane id => .object [("Lane", .string id)]
  decode v := do
    let variant ← readVariant v
    if variant.1 = "FollowSystemDefault" then unitVariant .followSystemDefault variant.2
    else if variant.1 = "Lane" then newtypeVariant .string .lane variant.2
    else .error "unknown variant"

def Codec.ruleAction : Codec RuleAction where
  encode
    | .route id => .object [("Route", .string id)]
    | .direct => .string "Direct"
    | .block => .string "Block"
  decode v := do
    let variant ← readVariant v
    if variant.1 = "Route" then newtypeVariant .string .route variant.2
    else if variant.1 = "Direct" then unitVariant .direct variant.2
    else if variant.1 = "Block" then unitVariant .block variant.2
    else .error "unknown variant"

section Targets

variable (text : NetworkText)

def Codec.address : Codec IpAddr where
  encode address := .string (String.ofList (text.printAddress address))
  decode
    | .string s =>
      match text.parseAddress s.toList with
      | some address => .ok address
      | none => .error "invalid IP address syntax"
    | _ => .error "invalid type, expected IP address"

def Codec.network : Codec IpNet where
  encode network := .string (String.ofList (text.printNetwork network))
  decode
    | .string s =>
      match text.parseNetwork s.toList with
      | some network => .ok network
      | none => .error "invalid IP address syntax"
    | _ => .error "invalid type, expected IP network"

def Codec.ruleTarget : Codec RuleTarget where
  encode
    | .any => .string "Any"
    | .domain name => .object [("Domain", .string name)]
    | .wildcardDomain pattern => .object [("WildcardDomain", .string pattern)]
    | .ip address => .object [("Ip", (Codec.address text).encode address)]
    | .cidr network => .object [("Cidr", (Codec.network text).encode network)]
    | .servicePack id => .object [("ServicePack", .string id)]
  decode v := do
    let variant ← readVariant v
    if variant.1 = "Any" then unitVariant .any variant.2
    else if variant.1 = "Domain" then newtypeVariant .string .domain variant.2
    else if variant.1 = "WildcardDomain" then newtypeVariant .string .wildcardDomain variant.2
    else if variant.1 = "Ip" then newtypeVariant (.address text) .ip variant.2
    else if variant.1 = "Cidr" then newtypeVariant (.network text) .cidr variant.2
    else if variant.1 = "ServicePack" then newtypeVariant .string .servicePack variant.2
    else .error "unknown variant"

end Targets

theorem Codec.language_readsBack (l : Language) : Codec.language.ReadsBack l := by
  cases l <;> exact ⟨rfl, nofun⟩

theorem Codec.failurePolicy_readsBack (p : LaneFailurePolicy) :
    Codec.failurePolicy.ReadsBack p := by
  cases p <;> exact ⟨rfl, nofun⟩

theorem Codec.unmatchedTraffic_readsBack (u : UnmatchedTraffic) :
    Codec.unmatchedTraffic.ReadsBack u := by
  cases u <;> exact ⟨rfl, nofun⟩

theorem Codec.primarySelection_readsBack (p : PrimarySelection) :
    Codec.primarySelection.ReadsBack p := by
  cases p <;> exact ⟨rfl, nofun⟩

theorem Codec.ruleAction_readsBack (a : RuleAction) : Codec.ruleAction.ReadsBack a := by
  cases a <;> exact ⟨rfl, nofun⟩

section Targets

variable {text : NetworkText}

theorem Codec.address_readsBack (address : IpAddr) : (Codec.address text).ReadsBack address := by
  refine ⟨?_, nofun⟩
  show (match text.parseAddress (String.ofList (text.printAddress address)).toList with
    | some address => Except.ok address
    | none => _) = _
  rw [String.toList_ofList, text.parse_printAddress]

theorem Codec.network_readsBack (network : IpNet) : (Codec.network text).ReadsBack network := by
  refine ⟨?_, nofun⟩
  show (match text.parseNetwork (String.ofList (text.printNetwork network)).toList with
    | some network => Except.ok network
    | none => _) = _
  rw [String.toList_ofList, text.parse_printNetwork]

theorem Codec.ruleTarget_readsBack (t : RuleTarget) : (Codec.ruleTarget text).ReadsBack t := by
  cases t with
  | any => exact ⟨rfl, nofun⟩
  | domain => exact ⟨rfl, nofun⟩
  | wildcardDomain => exact ⟨rfl, nofun⟩
  | ip address =>
    refine ⟨?_, nofun⟩
    show ((Codec.address text).decode ((Codec.address text).encode address).toValue).map _ = _
    rw [(Codec.address_readsBack address).decode]
    rfl
  | cidr network =>
    refine ⟨?_, nofun⟩
    show ((Codec.network text).decode ((Codec.network text).encode network).toValue).map _ = _
    rw [(Codec.network_readsBack network).decode]
    rfl
  | servicePack => exact ⟨rfl, nofun⟩

end Targets

/-! ## Records -/

/-- The fields a record is read from without `deny_unknown_fields`: others are passed over. -/
def openFields (known : List String) (needed : ℕ) :
    JsonValue → Except String (List (String × JsonValue))
  | .object fields => do
    failIf (¬((fields.filter fun field => field.1 ∈ known).map Prod.fst).Nodup) "duplicate field"
    return fields
  | v => structFields known needed v

theorem openFields_written {parts : List (String × Option JsonValue)} {known : List String}
    {needed : ℕ} (hparts : parts.map Prod.fst = known) (hnodup : known.Nodup) :
    openFields known needed (JsonValue.object (written parts)).toValue =
      .ok (JsonValue.toFields (written parts)) := by
  have hdistinct : ((written parts).map Prod.fst).Nodup :=
    (hparts ▸ map_fst_written_sublist parts).nodup hnodup
  rw [JsonValue.toValue_object_of_nodup hdistinct, openFields]
  refine check_eq_ok.2 ⟨failIf_eq_ok.2 ?_, rfl⟩
  rw [not_not]
  refine (List.filter_sublist.map Prod.fst).nodup ?_
  rw [JsonValue.map_fst_toFields]
  exact hdistinct

/-- A `u32` of the records here, which keep it as a number. -/
def Codec.number : Codec ℕ where
  encode := .number
  decode
    | .number n => if n < 2 ^ 32 then .ok n else .error "invalid value, expected u32"
    | _ => .error "invalid type, expected u32"

theorem Codec.number_readsBack {n : ℕ} (h : n < 2 ^ 32) : Codec.number.ReadsBack n :=
  ⟨if_pos h, nofun⟩

def launchParts (launch : ApplicationLaunch) : List (String × Option JsonValue) :=
  [("executable", some (Codec.string.encode launch.executable)),
    ("arguments", some (Codec.string.list.encode launch.arguments))]

def Codec.launch : Codec ApplicationLaunch where
  encode launch := .object (written (launchParts launch))
  decode v := do
    let fields ← openFields ["executable", "arguments"] 2 v
    let executable ← readField .string fields "executable"
    let arguments ← readField Codec.string.list fields "arguments"
    return ⟨executable, arguments⟩

def selectorParts (selector : ApplicationSelector) : List (String × Option JsonValue) :=
  [("desktop_id", some (Codec.string.option.encode selector.desktopId)),
    ("executable_path", some (Codec.string.encode selector.executablePath)),
    ("include_children", some (Codec.bool.encode selector.includeChildren)),
    ("launch", skipNone .launch selector.launch)]

def selectorFields : List String := ["desktop_id", "executable_path", "include_children", "launch"]

def Codec.selector : Codec ApplicationSelector where
  encode selector := .object (written (selectorParts selector))
  decode v := do
    let fields ← openFields selectorFields 3 v
    let desktopId ← readOption .string fields "desktop_id"
    let executablePath ← readField .string fields "executable_path"
    let includeChildren ← readField .bool fields "include_children"
    let launch ← readOption .launch fields "launch"
    return ⟨desktopId, executablePath, includeChildren, launch⟩

def Codec.ruleSource : Codec RuleSource where
  encode
    | .any => .string "Any"
    | .application selector => .object [("Application", Codec.selector.encode selector)]
  decode v := do
    let variant ← readVariant v
    if variant.1 = "Any" then unitVariant .any variant.2
    else if variant.1 = "Application" then newtypeVariant .selector .application variant.2
    else .error "unknown variant"

def laneParts (lane : Lane) : List (String × Option JsonValue) :=
  [("id", some (Codec.string.encode lane.id)), ("name", some (Codec.string.encode lane.name)),
    ("interface", some (Codec.string.encode lane.interface)),
    ("fallback_lane", some (Codec.string.option.encode lane.fallbackLane)),
    ("failure_policy", some (Codec.failurePolicy.encode lane.failurePolicy))]

def laneFields : List String := ["id", "name", "interface", "fallback_lane", "failure_policy"]

def Codec.lane : Codec Lane where
  encode lane := .object (written (laneParts lane))
  decode v := do
    let fields ← openFields laneFields 5 v
    let id ← readField .string fields "id"
    let name ← readDefault .string fields "name" ""
    let interface ← readField .string fields "interface"
    let fallbackLane ← readOption .string fields "fallback_lane"
    let failurePolicy ← readField .failurePolicy fields "failure_policy"
    return ⟨id, name, interface, fallbackLane, failurePolicy⟩

def routingParts (routing : RoutingPolicy) : List (String × Option JsonValue) :=
  [("unmatched_traffic", some (Codec.unmatchedTraffic.encode routing.unmatchedTraffic)),
    ("primary", some (Codec.primarySelection.encode routing.primary)),
    ("backups", some (Codec.string.list.encode routing.backups)),
    ("automatic_failover", some (Codec.bool.encode routing.automaticFailover))]

def routingFields : List String :=
  ["unmatched_traffic", "primary", "backups", "automatic_failover"]

def Codec.routing : Codec RoutingPolicy where
  encode routing := .object (written (routingParts routing))
  decode v := do
    let fields ← structFields routingFields 4 v
    let unmatchedTraffic ← readField .unmatchedTraffic fields "unmatched_traffic"
    let primary ← readField .primarySelection fields "primary"
    let backups ← readField Codec.string.list fields "backups"
    let automaticFailover ← readField .bool fields "automatic_failover"
    return ⟨unmatchedTraffic, primary, backups, automaticFailover⟩

section Profiles

variable (text : NetworkText)

def ruleParts (rule : Rule) : List (String × Option JsonValue) :=
  [("id", some (Codec.string.encode rule.id)), ("enabled", some (Codec.bool.encode rule.enabled)),
    ("priority", some (Codec.number.encode rule.priority)),
    ("source", some (Codec.ruleSource.encode rule.source)),
    ("target", some ((Codec.ruleTarget text).encode rule.target)),
    ("action", some (Codec.ruleAction.encode rule.action))]

def ruleFields : List String := ["id", "enabled", "priority", "source", "target", "action"]

def Codec.rule : Codec Rule where
  encode rule := .object (written (ruleParts text rule))
  decode v := do
    let fields ← openFields ruleFields 6 v
    let id ← readField .string fields "id"
    let enabled ← readField .bool fields "enabled"
    let priority ← readField .number fields "priority"
    let source ← readField .ruleSource fields "source"
    let target ← readField (.ruleTarget text) fields "target"
    let action ← readField .ruleAction fields "action"
    return ⟨id, enabled, priority, source, target, action⟩

def profileParts (profile : Profile) : List (String × Option JsonValue) :=
  [("id", some (Codec.string.encode profile.id)), ("name", some (Codec.string.encode profile.name)),
    ("enabled", some (Codec.bool.encode profile.enabled)),
    ("lanes", some (Codec.lane.list.encode profile.lanes)),
    ("rules", some ((Codec.rule text).list.encode profile.rules)),
    ("routing", some (Codec.routing.encode profile.routing))]

def profileFields : List String := ["id", "name", "enabled", "lanes", "rules", "routing"]

def Codec.profile : Codec Profile where
  encode profile := .object (written (profileParts text profile))
  decode v := do
    let fields ← openFields profileFields 6 v
    let id ← readField .string fields "id"
    let name ← readField .string fields "name"
    let enabled ← readField .bool fields "enabled"
    let lanes ← readField Codec.lane.list fields "lanes"
    let rules ← readField (Codec.rule text).list fields "rules"
    let routing ← readField .routing fields "routing"
    return ⟨id, name, enabled, lanes, rules, routing⟩

def configParts (config : ConfigV4) : List (String × Option JsonValue) :=
  [("schema_version", some (Codec.number.encode config.schemaVersion)),
    ("routing_notice_pending", some (Codec.bool.encode config.routingNoticePending)),
    ("language", some (Codec.language.encode config.language)),
    ("profiles", some ((Codec.profile text).list.encode config.profiles))]

def configFields : List String :=
  ["schema_version", "routing_notice_pending", "language", "profiles"]

def Codec.configV4 : Codec ConfigV4 where
  encode config := .object (written (configParts text config))
  decode v := do
    let fields ← structFields configFields 1 v
    let schemaVersion ← readField .number fields "schema_version"
    let routingNoticePending ← readDefault .bool fields "routing_notice_pending" false
    let language ← readDefault .language fields "language" .tr
    let profiles ← readDefault (Codec.profile text).list fields "profiles" []
    return ⟨schemaVersion, routingNoticePending, language, profiles⟩

/-! ### Earlier schemas, which are only read -/

def readRoutingV3 (v : JsonValue) : Except String RoutingPolicyV3 := do
  let fields ← structFields ["primary", "backups", "automatic_failover"] 3 v
  let primary ← readField .primarySelection fields "primary"
  let backups ← readField Codec.string.list fields "backups"
  let automaticFailover ← readField .bool fields "automatic_failover"
  return ⟨primary, backups, automaticFailover⟩

/-- The value of a field that is there. -/
def readWith {α : Type} (read : JsonValue → Except String α) (fields : List (String × JsonValue))
    (key : String) : Except String α :=
  match fields.lookup key with
  | none => .error ("missing field " ++ key)
  | some v => read v

/-- A list of records that may be missing. -/
def readItems {α : Type} (read : JsonValue → Except String α) (fields : List (String × JsonValue))
    (key : String) : Except String (List α) :=
  match fields.lookup key with
  | none => .ok []
  | some (.array items) => items.mapM read
  | some _ => .error "invalid type, expected a sequence"

def readProfileV3 (v : JsonValue) : Except String ProfileV3 := do
  let fields ← structFields profileFields 6 v
  let id ← readField .string fields "id"
  let name ← readField .string fields "name"
  let enabled ← readField .bool fields "enabled"
  let lanes ← readField Codec.lane.list fields "lanes"
  let rules ← readField (Codec.rule text).list fields "rules"
  let routing ← readWith readRoutingV3 fields "routing"
  return ⟨id, name, enabled, lanes, rules, routing⟩

def readProfileV2 (v : JsonValue) : Except String ProfileV2 := do
  let fields ← structFields ["id", "name", "enabled", "lanes", "rules"] 5 v
  let id ← readField .string fields "id"
  let name ← readField .string fields "name"
  let enabled ← readField .bool fields "enabled"
  let lanes ← readField Codec.lane.list fields "lanes"
  let rules ← readField (Codec.rule text).list fields "rules"
  return ⟨id, name, enabled, lanes, rules⟩

/-- `version_two` and `version_three`. -/
def readVersion (expected : ℕ) (fields : List (String × JsonValue)) : Except String ℕ := do
  let version ← readField .number fields "schema_version"
  failIf (version ≠ expected)
    ("expected configuration schema version " ++ toString expected)
  return version

def readConfigV3 (v : JsonValue) : Except String ConfigV3 := do
  let fields ← structFields configFields 1 v
  let schemaVersion ← readVersion 3 fields
  let routingNoticePending ← readDefault .bool fields "routing_notice_pending" false
  let language ← readDefault .language fields "language" .tr
  let profiles ← readItems (readProfileV3 text) fields "profiles"
  return ⟨schemaVersion, routingNoticePending, language, profiles⟩

def readConfigV2 (v : JsonValue) : Except String ConfigV2 := do
  let fields ← structFields ["schema_version", "language", "profiles"] 1 v
  let schemaVersion ← readVersion 2 fields
  let language ← readDefault .language fields "language" .tr
  let profiles ← readItems (readProfileV2 text) fields "profiles"
  return ⟨schemaVersion, language, profiles⟩

def readPersistedRule (v : JsonValue) : Except String PersistedRule := do
  let fields ← structFields ["target_str", "is_domain", "interface"] 3 v
  let targetStr ← readField .string fields "target_str"
  let isDomain ← readField .bool fields "is_domain"
  let interface ← readField .string fields "interface"
  return ⟨targetStr, isDomain, interface⟩

def readPersistedState (v : JsonValue) : Except String PersistedState := do
  let fields ← structFields ["language", "alt_interface", "rules"] 0 v
  let language ← readDefault .language fields "language" .tr
  let altInterface ← readOption .string fields "alt_interface"
  let rules ← readItems readPersistedRule fields "rules"
  return ⟨language, altInterface, rules⟩

/-- The fields of the unversioned schema, one of the last two among them. -/
def looksLegacy (fields : List (String × JsonValue)) : Bool :=
  fields.all (fun field => field.1 ∈ ["language", "alt_interface", "rules"]) &&
    ((fields.lookup "alt_interface").isSome || (fields.lookup "rules").isSome)

/-- `ConfigDocument::from_json`, on the document the text parses to or the error of parsing it. -/
def ConfigDocument.fromJson (json : Except String JsonValue) : Except String ConfigDocument := do
  let document ← json.mapError fun _ => "configuration is not valid JSON"
  let value := document.toValue
  match value.asObject with
  | none => .error "configuration root must be an object"
  | some root =>
    match root.lookup "schema_version" with
    | some version =>
      match version.asU64 with
      | some 4 => do
        let current ← ((Codec.configV4 text).decode value).mapError fun _ =>
          "version 4 configuration is invalid"
        return .v4 current
      | some 3 => do
        let old ← (readConfigV3 text value).mapError fun _ => "version 3 configuration is invalid"
        return .v3 old
      | some 2 => do
        let old ← (readConfigV2 text value).mapError fun _ => "version 2 configuration is invalid"
        return .v2 old
      | some version => .error ("unsupported configuration schema version " ++ toString version)
      | none => .error "schema_version must be the integer 4"
    | none =>
      if looksLegacy root then do
        let state ← (readPersistedState value).mapError fun _ => "legacy configuration is invalid"
        return .legacy state
      else .error "configuration does not match the legacy schema"

end Profiles

/-! ## What is written is read back -/

theorem Codec.launch_readsBack (launch : ApplicationLaunch) : Codec.launch.ReadsBack launch := by
  have hnodup : ((launchParts launch).map Prod.fst).Nodup := by
    show ["executable", "arguments"].Nodup
    decide
  refine ⟨?_, nofun⟩
  refine bind_eq_ok.2 ⟨_, openFields_written rfl (by decide), ?_⟩
  refine bind_eq_ok.2 ⟨_, readField_written hnodup (a := launch.executable) (by simp [launchParts])
    (Codec.string_readsBack _), ?_⟩
  exact bind_eq_ok.2 ⟨_, readField_written hnodup (a := launch.arguments) (by simp [launchParts])
    (Codec.list_readsBack fun s _ => Codec.string_readsBack s), rfl⟩

theorem Codec.selector_readsBack (selector : ApplicationSelector) :
    Codec.selector.ReadsBack selector := by
  have hnodup : ((selectorParts selector).map Prod.fst).Nodup := by
    show selectorFields.Nodup
    decide
  refine ⟨?_, nofun⟩
  refine bind_eq_ok.2 ⟨_, openFields_written rfl (by decide), ?_⟩
  refine bind_eq_ok.2 ⟨_, readOption_written hnodup (o := selector.desktopId)
    (by simp [selectorParts]) fun s _ => Codec.string_readsBack s, ?_⟩
  refine bind_eq_ok.2 ⟨_, readField_written hnodup (a := selector.executablePath)
    (by simp [selectorParts]) (Codec.string_readsBack _), ?_⟩
  refine bind_eq_ok.2 ⟨_, readField_written hnodup (a := selector.includeChildren)
    (by simp [selectorParts]) (Codec.bool_readsBack _), ?_⟩
  exact bind_eq_ok.2 ⟨_, readOption_skipNone hnodup (o := selector.launch)
    (by simp [selectorParts]) fun launch _ => Codec.launch_readsBack launch, rfl⟩

theorem Codec.ruleSource_readsBack (source : RuleSource) : Codec.ruleSource.ReadsBack source := by
  cases source with
  | any => exact ⟨rfl, nofun⟩
  | application selector =>
    refine ⟨?_, nofun⟩
    show (Codec.selector.decode (Codec.selector.encode selector).toValue).map _ = _
    rw [(Codec.selector_readsBack selector).decode]
    rfl

theorem Codec.lane_readsBack (lane : Lane) : Codec.lane.ReadsBack lane := by
  have hnodup : ((laneParts lane).map Prod.fst).Nodup := by
    show laneFields.Nodup
    decide
  refine ⟨?_, nofun⟩
  refine bind_eq_ok.2 ⟨_, openFields_written rfl (by decide), ?_⟩
  refine bind_eq_ok.2 ⟨_, readField_written hnodup (a := lane.id) (by simp [laneParts])
    (Codec.string_readsBack _), ?_⟩
  refine bind_eq_ok.2 ⟨_, readDefault_written hnodup (a := lane.name) (by simp [laneParts])
    (Codec.string_readsBack _).decode, ?_⟩
  refine bind_eq_ok.2 ⟨_, readField_written hnodup (a := lane.interface) (by simp [laneParts])
    (Codec.string_readsBack _), ?_⟩
  refine bind_eq_ok.2 ⟨_, readOption_written hnodup (o := lane.fallbackLane) (by simp [laneParts])
    fun s _ => Codec.string_readsBack s, ?_⟩
  exact bind_eq_ok.2 ⟨_, readField_written hnodup (a := lane.failurePolicy) (by simp [laneParts])
    (Codec.failurePolicy_readsBack _), rfl⟩

theorem Codec.routing_readsBack (routing : RoutingPolicy) : Codec.routing.ReadsBack routing := by
  have hnodup : ((routingParts routing).map Prod.fst).Nodup := by
    show routingFields.Nodup
    decide
  refine ⟨?_, nofun⟩
  refine bind_eq_ok.2 ⟨_, structFields_written rfl (by decide), ?_⟩
  refine bind_eq_ok.2 ⟨_, readField_written hnodup (a := routing.unmatchedTraffic)
    (by simp [routingParts]) (Codec.unmatchedTraffic_readsBack _), ?_⟩
  refine bind_eq_ok.2 ⟨_, readField_written hnodup (a := routing.primary)
    (by simp [routingParts]) (Codec.primarySelection_readsBack _), ?_⟩
  refine bind_eq_ok.2 ⟨_, readField_written hnodup (a := routing.backups) (by simp [routingParts])
    (Codec.list_readsBack fun s _ => Codec.string_readsBack s), ?_⟩
  exact bind_eq_ok.2 ⟨_, readField_written hnodup (a := routing.automaticFailover)
    (by simp [routingParts]) (Codec.bool_readsBack _), rfl⟩

section Written

variable {text : NetworkText}

theorem Codec.rule_readsBack {rule : Rule} (h : rule.priority < 2 ^ 32) :
    (Codec.rule text).ReadsBack rule := by
  have hnodup : ((ruleParts text rule).map Prod.fst).Nodup := by
    show ruleFields.Nodup
    decide
  refine ⟨?_, nofun⟩
  refine bind_eq_ok.2 ⟨_, openFields_written rfl (by decide), ?_⟩
  refine bind_eq_ok.2 ⟨_, readField_written hnodup (a := rule.id) (by simp [ruleParts])
    (Codec.string_readsBack _), ?_⟩
  refine bind_eq_ok.2 ⟨_, readField_written hnodup (a := rule.enabled) (by simp [ruleParts])
    (Codec.bool_readsBack _), ?_⟩
  refine bind_eq_ok.2 ⟨_, readField_written hnodup (a := rule.priority) (by simp [ruleParts])
    (Codec.number_readsBack h), ?_⟩
  refine bind_eq_ok.2 ⟨_, readField_written hnodup (a := rule.source) (by simp [ruleParts])
    (Codec.ruleSource_readsBack _), ?_⟩
  refine bind_eq_ok.2 ⟨_, readField_written hnodup (a := rule.target) (by simp [ruleParts])
    (Codec.ruleTarget_readsBack _), ?_⟩
  exact bind_eq_ok.2 ⟨_, readField_written hnodup (a := rule.action) (by simp [ruleParts])
    (Codec.ruleAction_readsBack _), rfl⟩

/-- Every priority is a `u32`. -/
def PrioritiesFit (rules : List Rule) : Prop := ∀ rule ∈ rules, rule.priority < 2 ^ 32

theorem Codec.profile_readsBack {profile : Profile} (h : PrioritiesFit profile.rules) :
    (Codec.profile text).ReadsBack profile := by
  have hnodup : ((profileParts text profile).map Prod.fst).Nodup := by
    show profileFields.Nodup
    decide
  refine ⟨?_, nofun⟩
  refine bind_eq_ok.2 ⟨_, openFields_written rfl (by decide), ?_⟩
  refine bind_eq_ok.2 ⟨_, readField_written hnodup (a := profile.id) (by simp [profileParts])
    (Codec.string_readsBack _), ?_⟩
  refine bind_eq_ok.2 ⟨_, readField_written hnodup (a := profile.name) (by simp [profileParts])
    (Codec.string_readsBack _), ?_⟩
  refine bind_eq_ok.2 ⟨_, readField_written hnodup (a := profile.enabled) (by simp [profileParts])
    (Codec.bool_readsBack _), ?_⟩
  refine bind_eq_ok.2 ⟨_, readField_written hnodup (a := profile.lanes) (by simp [profileParts])
    (Codec.list_readsBack fun lane _ => Codec.lane_readsBack lane), ?_⟩
  refine bind_eq_ok.2 ⟨_, readField_written hnodup (a := profile.rules) (by simp [profileParts])
    (Codec.list_readsBack fun rule hrule => Codec.rule_readsBack (h rule hrule)), ?_⟩
  exact bind_eq_ok.2 ⟨_, readField_written hnodup (a := profile.routing) (by simp [profileParts])
    (Codec.routing_readsBack _), rfl⟩

theorem Codec.configV4_readsBack {config : ConfigV4} (hversion : config.schemaVersion < 2 ^ 32)
    (h : ∀ profile ∈ config.profiles, PrioritiesFit profile.rules) :
    (Codec.configV4 text).ReadsBack config := by
  have hnodup : ((configParts text config).map Prod.fst).Nodup := by
    show configFields.Nodup
    decide
  refine ⟨?_, nofun⟩
  refine bind_eq_ok.2 ⟨_, structFields_written rfl (by decide), ?_⟩
  refine bind_eq_ok.2 ⟨_, readField_written hnodup (a := config.schemaVersion)
    (by simp [configParts]) (Codec.number_readsBack hversion), ?_⟩
  refine bind_eq_ok.2 ⟨_, readDefault_written hnodup (a := config.routingNoticePending)
    (by simp [configParts]) (Codec.bool_readsBack _).decode, ?_⟩
  refine bind_eq_ok.2 ⟨_, readDefault_written hnodup (a := config.language)
    (by simp [configParts]) (Codec.language_readsBack _).decode, ?_⟩
  exact bind_eq_ok.2 ⟨_, readDefault_written hnodup (a := config.profiles)
    (by simp [configParts])
    (Codec.list_readsBack fun profile hp => Codec.profile_readsBack (h profile hp)).decode, rfl⟩

/-- A configuration of the current schema is read back from its document. -/
theorem fromJson_encode {config : ConfigV4} (hversion : config.schemaVersion = currentSchemaVersion)
    (h : ∀ profile ∈ config.profiles, PrioritiesFit profile.rules) :
    ConfigDocument.fromJson text (.ok ((Codec.configV4 text).encode config)) =
      .ok (.v4 config) := by
  have hnodup : ((configParts text config).map Prod.fst).Nodup := by
    show configFields.Nodup
    decide
  have hdistinct : ((written (configParts text config)).map Prod.fst).Nodup :=
    (map_fst_written_sublist _).nodup hnodup
  have hvalue : ((Codec.configV4 text).encode config).toValue =
      .object (toFields (written (configParts text config))) :=
    toValue_object_of_nodup hdistinct
  have hlookup : (toFields (written (configParts text config))).lookup "schema_version" =
      some (.number 4) := by
    rw [lookup_toFields_written hnodup (o := some (Codec.number.encode config.schemaVersion))
      (by simp [configParts]), hversion]
    rfl
  have hread : (Codec.configV4 text).decode ((Codec.configV4 text).encode config).toValue =
      .ok config := (Codec.configV4_readsBack (by rw [hversion]; decide) h).decode
  rw [hvalue] at hread
  refine bind_eq_ok.2 ⟨_, rfl, ?_⟩
  simp only [hvalue, asObject, hlookup, asU64, hread]
  rfl

end Written

end RouteLane
