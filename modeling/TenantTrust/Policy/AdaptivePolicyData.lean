import TenantTrust.Policy.Decision
import TenantTrust.Trust.EvidenceStorage

/-! The policy data that a tenant may publish, and what the policy reads of it. -/

namespace TenantTrust.Policy

open Library Identity Api Trust

/-- The reason code of an `AdaptiveAuthorizationPolicyError`. -/
structure AdaptiveAuthorizationPolicyError where
  reasonCode : String
  deriving DecidableEq, Repr

def policyActions : List PolicyAction :=
  [.profileRead, .recordRead, .recordWrite, .recordExport, .tenantAdmin, .memberManage,
    .certificateManage, .adminKeyRotate]

def roleText : TenantRole → String
  | .tenantAdmin => "tenant-admin"
  | .tenantMember => "tenant-member"

def sensitivityText : Sensitivity → String
  | .confidential => "confidential"
  | .sensitive => "sensitive"
  | .critical => "critical"
  | .restricted => "restricted"

structure ActionDefinition where
  sensitivity : Sensitivity
  allowedRoles : List TenantRole
  stepUpRequired : Bool
  deriving DecidableEq, Repr

/-- `ACTION_DEFINITIONS` -/
def actionDefinition : PolicyAction → ActionDefinition
  | .profileRead | .recordRead | .recordWrite =>
      ⟨.confidential, [.tenantMember, .tenantAdmin], false⟩
  | .recordExport => ⟨.sensitive, [.tenantAdmin], true⟩
  | .tenantAdmin | .memberManage | .certificateManage | .adminKeyRotate =>
      ⟨.critical, [.tenantAdmin], true⟩

def configurationFields : List ScriptString :=
  ["actionRules", "calibrationStatus", "policyProfile", "quarantineAction", "schemaVersion",
    "scoreBands", "stepUpMaximumAgeSeconds", "tenantId"].map script

/-- `PROFILE_ID`: at most 64 characters, and no hyphen at either end. -/
def isProfileId (text : ScriptString) : Bool :=
  text.length ≤ 64 && text.all (fun unit => isLowerAlphanumeric unit || oneOf "-" unit) &&
  text.head?.any isLowerAlphanumeric && text.getLast?.any isLowerAlphanumeric

end TenantTrust.Policy

namespace TenantTrust.Library.JsonValue

open Trust (script)

/-- A member that the object is known to have. -/
def get (value : JsonValue) (name : String) : JsonValue := (value.member? (script name)).getD .null

def text? : JsonValue → Option ScriptString
  | string text => some text
  | _ => none

def isText (value : JsonValue) (text : String) : Bool := value.text? = some (script text)

/-- The text of the value as a regular expression tests it or a property lookup takes it, where
that text can be a name: the text of an object has brackets, that of a longer array commas. -/
def patternText : JsonValue → Option ScriptString
  | string text => some text
  | number value => some (.ofChars value.text)
  | bool value => some (script (if value then "true" else "false"))
  | array [] | array [null] => some []
  | array [item] => patternText item
  | null | array (_ :: _ :: _) | object _ => none

def finite? : JsonValue → Option ℚ
  | number (.finite value _) => some value.value
  | _ => none

/-- The decimal that the text of a number stands for. -/
def decimal? : JsonValue → Option ℚ
  | number (.finite value _) => some value.numeral.value
  | _ => none

end TenantTrust.Library.JsonValue

namespace TenantTrust.Policy

open Library Identity Api Trust

def requireExactFields (value : JsonValue) (fields : List ScriptString) (reasonCode : String) :
    Except AdaptiveAuthorizationPolicyError Unit :=
  match value with
  | .object members => require ((JsonValue.sortMembers members).map Prod.fst = fields) ⟨reasonCode⟩
  | _ => .error ⟨reasonCode⟩

def validScore (value : JsonValue) : Bool := value.finite?.any fun score => 0 ≤ score && score ≤ 100

def validateScoreBands (value : JsonValue) : Except AdaptiveAuthorizationPolicyError Unit := do
  let invalid := "POLICY_SCORE_BANDS_INVALID"
  requireExactFields value (["conditionalBelow", "maximum", "quarantineBelow",
    "restrictedBelow"].map script) invalid
  let score := fun name : String => ((value.get name).finite?).getD 0
  require (["quarantineBelow", "restrictedBelow", "conditionalBelow", "maximum"].all
      (fun name => validScore (value.get name)) ∧
    0 < score "quarantineBelow" ∧ score "quarantineBelow" < score "restrictedBelow" ∧
    score "restrictedBelow" < score "conditionalBelow" ∧
    score "conditionalBelow" < score "maximum" ∧ score "maximum" = 100) ⟨invalid⟩

def validateRoles (value : JsonValue) (definition : ActionDefinition) :
    Except AdaptiveAuthorizationPolicyError Unit :=
  match value with
  | .array items => require (1 ≤ items.length ∧ items.length ≤ definition.allowedRoles.length ∧
      (items.filterMap JsonValue.text?).Nodup ∧
      items.all fun item => definition.allowedRoles.any fun role => item.isText (roleText role))
      ⟨"POLICY_ACTION_RULE_INVALID"⟩
  | _ => .error ⟨"POLICY_ACTION_RULE_INVALID"⟩

def actionNamed? (value : JsonValue) : Option PolicyAction :=
  value.patternText.bind fun key => policyActions.find? fun action => key = script action.text

/-- One round of the loop; `seen` are the actions so far, of which only strings can recur. -/
def validateActionRule (seen : List ScriptString) (rule : JsonValue) :
    Except AdaptiveAuthorizationPolicyError (List ScriptString) := do
  let invalid := "POLICY_ACTION_RULE_INVALID"
  requireExactFields rule
    (["action", "minimumScore", "roles", "sensitivity", "stepUpRequired"].map script) invalid
  let action ← requireSome (actionNamed? (rule.get "action")) ⟨invalid⟩
  let definition := actionDefinition action
  let stepUpRequired ← match rule.get "stepUpRequired" with
    | .bool value => .ok value
    | _ => .error ⟨invalid⟩
  require ((rule.get "action").text?.all (· ∉ seen) ∧
    (rule.get "sensitivity").isText (sensitivityText definition.sensitivity) ∧
    validScore (rule.get "minimumScore") ∧
    (definition.stepUpRequired → stepUpRequired = true)) ⟨invalid⟩
  validateRoles (rule.get "roles") definition
  return seen ++ (rule.get "action").text?.toList

def validateActionRules (value : JsonValue) : Except AdaptiveAuthorizationPolicyError Unit :=
  match value with
  | .array rules => do
      require (rules.length = policyActions.length) ⟨"POLICY_ACTION_RULES_INVALID"⟩
      let _ ← rules.foldlM validateActionRule []
      return ()
  | _ => .error ⟨"POLICY_ACTION_RULES_INVALID"⟩

/-- `Number.isSafeInteger` and the bounds of the maximum age. -/
def validStepUpMaximumAge (value : JsonValue) : Bool :=
  value.finite?.any fun age => age.den = 1 && 1 ≤ age && age ≤ 900

def policyConfigurationOf (value : JsonValue) : JsonValue :=
  ((value.get "tenant_trust_policy").get "authorization").get "configuration"

def validateAdaptiveAuthorizationPolicyData (value : JsonValue) (expectedTenantId : ScriptString) :
    Except AdaptiveAuthorizationPolicyError JsonValue := do
  requireExactFields value [script "tenant_trust_policy"] "POLICY_DATA_INVALID"
  let root := value.get "tenant_trust_policy"
  requireExactFields root [script "authorization"] "POLICY_DATA_INVALID"
  let authorization := root.get "authorization"
  requireExactFields authorization [script "configuration"] "POLICY_DATA_INVALID"
  let configuration := authorization.get "configuration"
  requireExactFields configuration configurationFields "POLICY_CONFIGURATION_INVALID"
  require (isTenantId expectedTenantId ∧
    (configuration.get "tenantId").text? = some expectedTenantId ∧
    (configuration.get "schemaVersion").isText "1.0.0" ∧
    (configuration.get "policyProfile").patternText.any isProfileId ∧
    (configuration.get "calibrationStatus").isText "unvalidated-prototype-defaults" ∧
    (configuration.get "quarantineAction").isText "restrict-access" ∧
    validStepUpMaximumAge (configuration.get "stepUpMaximumAgeSeconds"))
    ⟨"POLICY_CONFIGURATION_INVALID"⟩
  validateScoreBands (configuration.get "scoreBands")
  validateActionRules (configuration.get "actionRules")
  return value

/-- The identifier with the hexadecimal digits that follow the tag of a text. -/
def identifierOf {domain : Domain} (text : ScriptString) : Identifier domain :=
  ⟨((text.drop 4).filterMap Hex.value).foldl (fun value digit => 16 * value + digit) 0⟩

def textOf (value : JsonValue) : Option String :=
  value.text?.map fun text => String.ofList (ScriptString.text text)

def roleNamed? (value : JsonValue) : Option TenantRole :=
  [TenantRole.tenantAdmin, .tenantMember].find? fun role => value.isText (roleText role)

def sensitivityNamed? (value : JsonValue) : Option Sensitivity :=
  [Sensitivity.confidential, .sensitive, .critical, .restricted].find? fun sensitivity =>
    value.isText (sensitivityText sensitivity)

/-- A rule as the policy language compares it. Only a string equals the action of an input. -/
def readRule (rule : JsonValue) : Option ActionRule := do
  let action ← policyActions.find? fun action => (rule.get "action").isText action.text
  let minimumScore ← (rule.get "minimumScore").decimal?
  let .array roles := rule.get "roles" | none
  let sensitivity ← sensitivityNamed? (rule.get "sensitivity")
  let .bool stepUpRequired := rule.get "stepUpRequired" | none
  return ⟨action, minimumScore, roles.filterMap roleNamed?, sensitivity, stepUpRequired⟩

def readScoreBands (bands : JsonValue) : Option ScoreBands :=
  return ⟨← (bands.get "quarantineBelow").decimal?, ← (bands.get "restrictedBelow").decimal?,
    ← (bands.get "conditionalBelow").decimal?, ← (bands.get "maximum").decimal?⟩

/-- What `decision.rego` reads below `data.tenant_trust_policy.authorization.configuration`; a
rule that it cannot compare with an input is left out. -/
def readConfiguration (value : JsonValue) : Option PolicyConfiguration := do
  let configuration := policyConfigurationOf value
  let tenantId ← (configuration.get "tenantId").text?
  let .array rules := configuration.get "actionRules" | none
  return {
    schemaVersion := ← textOf (configuration.get "schemaVersion")
    calibrationStatus := ← textOf (configuration.get "calibrationStatus")
    tenantId := identifierOf tenantId
    scoreBands := ← readScoreBands (configuration.get "scoreBands")
    stepUpMaximumAgeSeconds := ← (configuration.get "stepUpMaximumAgeSeconds").decimal?
    quarantineAction := ← textOf (configuration.get "quarantineAction")
    actionRules := rules.filterMap readRule }

/-- A finite number and the decimal that is written for it. -/
theorem finite_decimal {value : JsonValue} {score : ℚ} (found : value.finite? = some score) :
    ∃ number : Binary64, number.value = score ∧ value.decimal? = some number.numeral.value := by
  cases value with
  | number x =>
      cases x with
      | finite number bounded => exact ⟨number, Option.some.inj found, rfl⟩
      | infinite negative => cases found
  | _ => cases found

theorem validScore_decimal {value : JsonValue} (valid : validScore value = true) :
    ∃ number : Binary64, value.finite? = some number.value ∧
      value.decimal? = some number.numeral.value := by
  have ⟨score, found, _⟩ := (Option.any_eq_true _ _).mp valid
  have ⟨number, same, decimal⟩ := finite_decimal found
  exact ⟨number, by rw [found, same], decimal⟩

theorem textOf_isText {value : JsonValue} {text : String} (holds : value.isText text = true) :
    textOf value = some (String.ofList (ScriptString.text (script text))) := by
  rw [textOf, of_decide_eq_true holds, Option.map_some]

structure ScoreBands.Ordered (bands : ScoreBands) : Prop where
  positive : 0 < bands.quarantineBelow
  quarantine : bands.quarantineBelow < bands.restrictedBelow
  restricted : bands.restrictedBelow < bands.conditionalBelow
  conditional : bands.conditionalBelow < bands.maximum
  maximum : bands.maximum = 100

/-- The decimals of the bands are ordered as the numbers that the validator compares. -/
theorem readScoreBands_of_valid {value : JsonValue} {done : Unit}
    (valid : validateScoreBands value = .ok done) :
    ∃ bands, readScoreBands value = some bands ∧ bands.Ordered := by
  simp only [validateScoreBands, Checked.bind_eq_ok, Checked.require_eq_ok] at valid
  obtain ⟨_, _, scores, order⟩ := valid
  simp only [List.all_cons, List.all_nil, Bool.and_true, Bool.and_eq_true] at scores
  obtain ⟨quarantine, quarantineFound, first⟩ := validScore_decimal scores.1
  obtain ⟨restricted, restrictedFound, second⟩ := validScore_decimal scores.2.1
  obtain ⟨conditional, conditionalFound, third⟩ := validScore_decimal scores.2.2.1
  obtain ⟨maximum, maximumFound, fourth⟩ := validScore_decimal scores.2.2.2
  simp only [quarantineFound, restrictedFound, conditionalFound, maximumFound,
    Option.getD_some] at order
  obtain ⟨positive, belowRestricted, belowConditional, belowMaximum, whole⟩ := order
  refine ⟨⟨quarantine.numeral.value, restricted.numeral.value, conditional.numeral.value,
    maximum.numeral.value⟩, ?_, ?_⟩
  · rw [readScoreBands, first, second, third, fourth]
    rfl
  · exact {
      positive := Binary64.numeral_value_pos positive
      quarantine := Binary64.numeral_value_strictMono belowRestricted
      restricted := Binary64.numeral_value_strictMono belowConditional
      conditional := Binary64.numeral_value_strictMono belowMaximum
      maximum := by
        have written := Binary64.numeral_value_natCast (n := 100) whole (by norm_num)
        exact written.trans (Nat.cast_ofNat) }

/-- The maximum age that the validator accepts is written as itself. -/
theorem readAge_of_valid {value : JsonValue} (valid : validStepUpMaximumAge value = true) :
    ∃ age : ℚ, value.decimal? = some age ∧ 1 ≤ age ∧ age ≤ 900 := by
  have ⟨age, found, holds⟩ := (Option.any_eq_true _ _).mp valid
  simp only [Bool.and_eq_true, decide_eq_true_eq] at holds
  have ⟨⟨whole, least⟩, most⟩ := holds
  have ⟨number, same, decimal⟩ := finite_decimal found
  have counted : age = (age.num.toNat : ℚ) := by
    have nonneg : 0 ≤ age.num := Rat.num_nonneg.mpr (by linarith)
    have integral : age = (age.num : ℚ) := (Rat.den_eq_one_iff age).mp whole |>.symm
    have cast : ((age.num.toNat : ℤ) : ℚ) = (age.num : ℚ) := by
      rw [Int.toNat_of_nonneg nonneg]
    calc
      age = (age.num : ℚ) := integral
      _ = (age.num.toNat : ℚ) := cast.symm
  have small : age.num.toNat ≤ 1000000 := by
    have bound : (age.num.toNat : ℚ) ≤ 900 := by rwa [← counted]
    have natBound : age.num.toNat ≤ 900 := by exact_mod_cast bound
    omega
  have written := Binary64.numeral_value_natCast (same.trans counted) small
  refine ⟨age, ?_, least, most⟩
  rw [decimal, written, ← counted]

/-- The action of a rule that the policy language can compare with the action of an input. -/
theorem readRule_action {rule : JsonValue} {read : ActionRule} (found : readRule rule = some read) :
    (rule.get "action").text? = some (script read.action.text) := by
  simp only [readRule, Option.bind_eq_bind, Option.bind_eq_some_iff] at found
  have ⟨action, named, minimumScore, _, rest⟩ := found
  have text := List.find?_some named
  split at rest
  · simp only [Option.bind_eq_some_iff] at rest
    have ⟨_, _, rest⟩ := rest
    split at rest
    · cases rest
      exact of_decide_eq_true text
    · cases rest
  · cases rest

theorem validateActionRule_seen {seen after : List ScriptString} {rule : JsonValue}
    (valid : validateActionRule seen rule = .ok after) :
    after = seen ++ (rule.get "action").text?.toList ∧
      ∀ text ∈ (rule.get "action").text?, text ∉ seen := by
  simp only [validateActionRule, Checked.bind_eq_ok] at valid
  obtain ⟨_, _, _, _, checked⟩ := valid
  split at checked
  · simp only [Checked.bind_eq_ok, Checked.require_eq_ok, Checked.pure_eq_ok,
      exists_const] at checked
    obtain ⟨_, _, fields, _, _, same⟩ := checked
    refine ⟨same.symm, ?_⟩
    intro text found
    have fresh := fields.1
    rw [Option.mem_def.mp found, Option.all_some] at fresh
    exact of_decide_eq_true fresh
  · simp only [Checked.bind_eq_ok] at checked
    obtain ⟨_, failed, _⟩ := checked
    cases failed

/-- No action is the text of two of the rules that the loop has passed. -/
theorem validateActionRules_seen {seen after : List ScriptString} {rules : List JsonValue}
    (distinct : seen.Nodup) (valid : rules.foldlM validateActionRule seen = .ok after) :
    (seen ++ rules.filterMap fun rule => (rule.get "action").text?).Nodup := by
  induction rules generalizing seen with
  | nil => simpa using distinct
  | cons rule rules ih =>
      rw [List.foldlM_cons, Checked.bind_eq_ok] at valid
      have ⟨next, first, rest⟩ := valid
      have ⟨same, fresh⟩ := validateActionRule_seen first
      cases text : (rule.get "action").text? with
      | none =>
          rw [text, Option.toList_none, List.append_nil] at same
          subst same
          have later := ih distinct rest
          simpa [List.filterMap_cons, text] using later
      | some action =>
          rw [text, Option.toList_some] at same
          have new : action ∉ seen := fresh action (by rw [text]; rfl)
          subst same
          have longer : (seen ++ [action]).Nodup := by
            rw [List.nodup_append]
            refine ⟨distinct, List.nodup_singleton action, ?_⟩
            intro earlier member other single
            rw [List.mem_singleton.mp single]
            intro equal
            exact new (equal ▸ member)
          have later := ih longer rest
          simpa [List.filterMap_cons, text] using later

theorem readRules_sublist (rules : List JsonValue) :
    ((rules.filterMap readRule).map fun rule => script rule.action.text).Sublist
      (rules.filterMap fun rule => (rule.get "action").text?) := by
  induction rules with
  | nil => exact List.Sublist.slnil
  | cons rule rules ih =>
      cases read : readRule rule with
      | none =>
          rw [List.filterMap_cons_none read]
          cases text : (rule.get "action").text? with
          | none => simpa only [List.filterMap_cons, text] using ih
          | some action => simpa only [List.filterMap_cons, text] using ih.cons action
      | some found =>
          rw [List.filterMap_cons_some read, List.map_cons]
          simpa only [List.filterMap_cons, readRule_action read] using ih.cons_cons _

theorem readRules_of_valid {value : JsonValue} {done : Unit}
    (valid : validateActionRules value = .ok done) :
    ∃ rules, value = .array rules ∧ ((rules.filterMap readRule).map ActionRule.action).Nodup := by
  cases value with
  | array rules =>
      simp only [validateActionRules, Checked.bind_eq_ok, Checked.require_eq_ok] at valid
      obtain ⟨_, _, _, checked, _⟩ := valid
      have texts := validateActionRules_seen List.nodup_nil checked
      rw [List.nil_append] at texts
      have distinct := (readRules_sublist rules).nodup texts
      refine ⟨rules, rfl, ?_⟩
      apply List.Nodup.of_map fun action : PolicyAction => script action.text
      rwa [List.map_map]
  | _ => cases valid

/-- What the validator promises the policy about a configuration. -/
structure PolicyConfiguration.Accepted (configuration : PolicyConfiguration)
    (tenantId : TenantId) : Prop where
  schemaVersion : configuration.schemaVersion = "1.0.0"
  calibrationStatus : configuration.calibrationStatus = "unvalidated-prototype-defaults"
  tenantId : configuration.tenantId = tenantId
  scoreBands : configuration.scoreBands.Ordered
  stepUpMaximumAge : 1 ≤ configuration.stepUpMaximumAgeSeconds ∧
    configuration.stepUpMaximumAgeSeconds ≤ 900
  quarantineAction : configuration.quarantineAction = "restrict-access"
  actionRules : (configuration.actionRules.map ActionRule.action).Nodup

/-- The policy reads a configuration of the tenant from all data that is accepted. -/
theorem readConfiguration_of_accepted {value data : JsonValue} {expectedTenantId : ScriptString}
    (accepted : validateAdaptiveAuthorizationPolicyData value expectedTenantId = .ok data) :
    data = value ∧ ∃ configuration, readConfiguration data = some configuration ∧
      configuration.Accepted (identifierOf expectedTenantId) := by
  simp only [validateAdaptiveAuthorizationPolicyData, Checked.bind_eq_ok, Checked.require_eq_ok,
    Checked.pure_eq_ok, exists_const] at accepted
  obtain ⟨_, _, _, _, _, _, _, _, fields, _, bands, _, rules, same⟩ := accepted
  refine ⟨same.symm, ?_⟩
  subst same
  obtain ⟨_, tenant, version, _, calibration, quarantine, age⟩ := fields
  obtain ⟨bandsRead, readBands, ordered⟩ := readScoreBands_of_valid bands
  obtain ⟨maximumAge, readAge, least, most⟩ := readAge_of_valid age
  obtain ⟨items, readItems, distinct⟩ := readRules_of_valid rules
  refine ⟨⟨"1.0.0", "unvalidated-prototype-defaults", identifierOf expectedTenantId,
    bandsRead, maximumAge, "restrict-access", items.filterMap readRule⟩, ?_,
    rfl, rfl, rfl, ordered, ⟨least, most⟩, rfl, distinct⟩
  simp only [readConfiguration, policyConfigurationOf, tenant, readItems, readBands, readAge,
    textOf_isText version, textOf_isText calibration, textOf_isText quarantine,
    Option.bind_eq_bind, Option.bind_some, Option.pure_def]
  rfl

end TenantTrust.Policy
