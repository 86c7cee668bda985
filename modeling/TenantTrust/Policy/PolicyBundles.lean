import Mathlib.Data.List.MinMax
import TenantTrust.Library.JsonStrings
import TenantTrust.Policy.AdaptivePolicyData
import TenantTrust.Trust.ConfigurationStore

/-! The policy bundles of the tenants, and the procedures that publish, activate and look them
up. -/

namespace TenantTrust.Policy

open Library Identity Trust

inductive PolicyVersionState where
  | published | active | superseded
  deriving DecidableEq, Repr

/-- A row of `trust.policy_versions`. -/
structure PolicyVersionRow where
  tenantId : ScriptString
  policyVersionId : ScriptString
  policyName : ScriptString
  bundleVersion : Nat
  bundleHashSha256 : ScriptString
  entrypoint : ScriptString
  state : PolicyVersionState
  replacesPolicyVersionId : Option ScriptString
  publishedBySubjectId : ScriptString
  bundleDocument : JsonValue
  bundleCanonicalJson : List Char
  validationEngine : ScriptString
  validationEngineVersion : ScriptString
  regoVersion : Option ScriptString
  validatedAt : Timestamp
  activatedAt : Option Timestamp
  supersededAt : Option Timestamp
  createdAt : Timestamp
  updatedAt : Timestamp

def PolicyVersionRow.key (row : PolicyVersionRow) : ScriptString × ScriptString :=
  (row.tenantId, row.policyVersionId)

/-- The bundles of one name of one tenant. -/
def PolicyVersionRow.series (row : PolicyVersionRow) : ScriptString × ScriptString :=
  (row.tenantId, row.policyName)

inductive PolicyBundleEventType where
  | published | activated | superseded
  deriving DecidableEq, Repr

/-- A row of `trust.policy_bundle_events`. -/
structure PolicyBundleEvent where
  tenantId : ScriptString
  eventType : PolicyBundleEventType
  policyVersionId : ScriptString
  previousActivePolicyVersionId : Option ScriptString
  actorSubjectId : ScriptString
  reasonCode : String
  occurredAt : Timestamp
  deriving DecidableEq, Repr

abbrev PolicyVersionTable := Table PolicyVersionRow PolicyVersionRow.key

/-- The events are listed newest first. -/
structure PolicyStore where
  versions : PolicyVersionTable
  events : List PolicyBundleEvent

def PolicyStore.empty : PolicyStore := ⟨Table.empty, []⟩

/-- What the identity schema answers about the session during one call. -/
structure PolicySession where
  tenantId : ScriptString
  subjectId : ScriptString
  actorIsActive : Bool
  actorIsTenantAdmin : Bool
  tenantActive : Bool
  clock : Timestamp

/-- How the services write a time, and how the database reads one. -/
structure TimeText where
  iso : Timestamp → ScriptString
  timestamptz : List Char → Option Timestamp

/-! ### Patterns -/

def isPolicyVersionId : ScriptString → Bool := matchesEach (identifierPattern "pol_")

/-- Lower-case letters, digits and inner hyphens, at most 63 of them. -/
def isPolicyName (text : ScriptString) : Bool :=
  text.length ≤ 63 && text.all (fun unit => isLowerAlphanumeric unit || oneOf "-" unit) &&
  text.head?.any isLowerAlphanumeric && text.getLast?.any isLowerAlphanumeric

def isDecimalDigit (unit : CodeUnit) : Bool := oneOf "0123456789" unit

def isVersionNumber (text : ScriptString) : Bool :=
  text = script "0" ||
    text.all isDecimalDigit && text.head?.any fun unit => !oneOf "0" unit

/-- Three version numbers with dots between them. -/
def isSemver (text : ScriptString) : Bool :=
  let parts := text.splitOn 46
  parts.length = 3 && parts.all isVersionNumber

def isLowerLetter (unit : CodeUnit) : Bool := 97 ≤ unit.val && unit.val ≤ 122

def isEntrypointSegment (text : ScriptString) : Bool :=
  text.head?.any isLowerLetter && text.all fun unit => isLowerAlphanumeric unit || oneOf "_" unit

/-- `policy_versions_entrypoint_format` -/
def isEntrypoint (text : ScriptString) : Bool :=
  let segments := text.splitOn 47
  3 ≤ text.length && text.length ≤ 255 && 2 ≤ segments.length &&
    segments.all isEntrypointSegment

def ENTRYPOINT : ScriptString := script "tenant_trust/authorization/decision"

def MAX_BUNDLE_CHARACTERS : Nat := 1048576

/-! ### The table -/

/-- `policy_versions_lifecycle` -/
def PolicyVersionRow.LifecycleCheck (row : PolicyVersionRow) : Prop :=
  match row.state, row.activatedAt, row.supersededAt with
  | .published, none, none => True
  | .active, some _, none => True
  | .superseded, some activated, some superseded => activated ≤ superseded
  | _, _, _ => False

instance (row : PolicyVersionRow) : Decidable row.LifecycleCheck := by
  unfold PolicyVersionRow.LifecycleCheck
  split <;> infer_instance

def isObject : JsonValue → Bool
  | .object _ => true
  | _ => false

/-- `policy_versions_validated_bundle_shape`, for a row with a document: a check that is unknown,
as of a `NULL` Rego version, is no violation. -/
def PolicyVersionRow.ShapeCheck (row : PolicyVersionRow) : Prop :=
  isObject row.bundleDocument = true ∧
  (2 ≤ row.bundleCanonicalJson.length ∧ row.bundleCanonicalJson.length ≤ MAX_BUNDLE_CHARACTERS) ∧
  row.validationEngine = script "opa" ∧ isSemver row.validationEngineVersion = true ∧
  row.regoVersion.all (· = script "v1") = true

instance (row : PolicyVersionRow) : Decidable row.ShapeCheck :=
  inferInstanceAs (Decidable (_ ∧ (_ ∧ _) ∧ _ ∧ _ ∧ _))

/-- The checks of the table on one row. -/
def PolicyVersionRow.check (row : PolicyVersionRow) : Except SqlError Unit := do
  require (isPolicyName row.policyName) (.checkViolation "policy_versions_name_format")
  require (0 < row.bundleVersion) (.checkViolation "policy_versions_bundle_version_positive")
  require (isSha256 row.bundleHashSha256) (.checkViolation "policy_versions_bundle_hash_format")
  require (isEntrypoint row.entrypoint) (.checkViolation "policy_versions_entrypoint_format")
  require (row.replacesPolicyVersionId ≠ some row.policyVersionId)
    (.checkViolation "policy_versions_not_self_replacing")
  require row.LifecycleCheck (.checkViolation "policy_versions_lifecycle")
  require (row.createdAt ≤ row.updatedAt) (.checkViolation "policy_versions_timestamps_ordered")
  require row.ShapeCheck (.checkViolation "policy_versions_validated_bundle_shape")

/-- The unique index over the active rows, for a row about to be written. -/
def oneActiveName (versions : PolicyVersionTable) (row : PolicyVersionRow) : Prop :=
  row.state = .active → ∀ other ∈ versions,
    other.state = .active → other.series = row.series → other.key = row.key

instance (versions : PolicyVersionTable) (row : PolicyVersionRow) :
    Decidable (oneActiveName versions row) :=
  inferInstanceAs (Decidable (_ → ∀ other ∈ versions, _))

def insertVersion (row : PolicyVersionRow) (versions : PolicyVersionTable) :
    Except SqlError PolicyVersionTable := do
  row.check
  let inserted ← requireSome (versions.insertNew row) (.uniqueViolation "policy_versions_pk")
  require (∀ other ∈ versions, other.series = row.series →
      other.bundleVersion ≠ row.bundleVersion)
    (.uniqueViolation "policy_versions_name_bundle_unique")
  require (oneActiveName versions row)
    (.uniqueViolation "policy_versions_one_active_name_per_tenant")
  return inserted

/-- An update of the state and the times of one row. -/
def updateVersion (row : PolicyVersionRow) (versions : PolicyVersionTable) :
    Except SqlError PolicyVersionTable := do
  row.check
  require (oneActiveName versions row)
    (.uniqueViolation "policy_versions_one_active_name_per_tenant")
  return versions.replace row

/-! ### Documents -/

/-- A text as `jsonb` holds it. -/
def jsonb? (text : List Char) : Option JsonValue := do
  let document ← JsonValue.parse text
  if document.strings.all ScriptString.isText then some document else none

/-- The text of a value under `->>`. -/
def valueText? : JsonValue → Option (List Char)
  | .null => none
  | .string text => some text.text
  | value => some value.stringify

/-- `<>`, which is not true of an absent value. -/
def differs (found : Option (List Char)) (expected : ScriptString) : Bool :=
  found.any (· ≠ expected.text)

def memberText? (document : JsonValue) (name : String) : Option (List Char) :=
  (document.member? (script name)).bind valueText?

def validationText? (document : JsonValue) (name : String) : Option (List Char) :=
  (document.member? (script "validation")).bind (memberText? · name)

def naturalText? (digits : List Char) : Option Nat :=
  if digits ≠ [] ∧ digits.all Char.isDigit then some (Nat.ofDigitChars 10 digits 0) else none

def integerText? : List Char → Option Int
  | '-' :: digits => (naturalText? digits).map fun n => -(n : Int)
  | digits => (naturalText? digits).map Int.ofNat

/-- The cast of a value to `integer`. The numbers of a document do not keep their scale here, so an
integer that the text writes as `1.0`, which the cast refuses, is read as one. -/
def integer? : JsonValue → Option Int
  | .number (.finite value _) =>
      if value.numeral.value.den = 1 then some value.numeral.value.num else none
  | .string text => integerText? text.text
  | _ => none

/-- The cast of a value to `timestamptz`. -/
def TimeText.time? (time : TimeText) : JsonValue → Option Timestamp
  | .string text => time.timestamptz text.text
  | _ => none

/-- A cast, which leaves an absent value absent. -/
def castValue {α : Type} (cast : JsonValue → Option α) (found : Option JsonValue) :
    Except SqlError (Option α) :=
  match found with
  | none | some .null => .ok none
  | some value => (requireSome (cast value) .invalidText).map some

def arrayLength? : JsonValue → Option Nat
  | .array items => some items.length
  | _ => none

/-- The arguments of a publication; the Rego version may be `NULL`. -/
structure PublishCall where
  session : PolicySession
  policyVersionId : ScriptString
  policyName : ScriptString
  bundleVersion : Nat
  bundleHashSha256 : ScriptString
  entrypoint : ScriptString
  bundleCanonicalJson : List Char
  validationEngineVersion : ScriptString
  regoVersion : Option ScriptString
  reasonCode : String
  occurredAt : Timestamp

section Procedures

variable (crypto : Crypto) (time : TimeText)

/-- The digest of a text, in hexadecimal digits. -/
def textDigest (text : List Char) : ScriptString := sha256Hex crypto (Utf8.encode text)

/-- What the document must say of the arguments, where it says anything. -/
def checkDocument (call : PublishCall) (document : JsonValue) : Except SqlError Unit := do
  let invalid := SqlError.raised "Policy bundle document is invalid."
  let .object members := document | .error invalid
  require (members.length = 9) invalid
  require (¬ differs (memberText? document "schemaVersion") (script "1.0.0") ∧
    ¬ differs (memberText? document "tenantId") call.session.tenantId ∧
    ¬ differs (memberText? document "policyVersionId") call.policyVersionId ∧
    ¬ differs (memberText? document "policyName") call.policyName) invalid
  let version ← castValue integer? (document.member? (script "bundleVersion"))
  require (∀ stated ∈ version, stated = call.bundleVersion) invalid
  require (¬ differs (memberText? document "entrypoint") call.entrypoint) invalid
  require (∀ modules ∈ document.member? (script "modules"),
    ∃ length ∈ arrayLength? modules, 1 ≤ length ∧ length ≤ 32) invalid
  require (∀ data ∈ document.member? (script "data"), isObject data) invalid
  require (∀ validation ∈ document.member? (script "validation"), isObject validation) invalid
  require (¬ differs (validationText? document "engine") (script "opa") ∧
    ¬ differs (validationText? document "engineVersion") call.validationEngineVersion ∧
    ¬ call.regoVersion.any (differs (validationText? document "regoVersion"))) invalid
  let checkedAt ← castValue time.time?
    ((document.member? (script "validation")).bind (·.member? (script "checkedAt")))
  require (∀ stated ∈ checkedAt, stated = call.occurredAt) invalid
  require (textDigest crypto call.bundleCanonicalJson = call.bundleHashSha256) invalid

def PublishCall.InputValid (call : PublishCall) : Prop :=
  withinChangeWindow call.session.clock call.occurredAt ∧ isPolicyName call.policyName ∧
  1 ≤ call.bundleVersion ∧ isSha256 call.bundleHashSha256 ∧ call.entrypoint = ENTRYPOINT ∧
  (2 ≤ call.bundleCanonicalJson.length ∧
    call.bundleCanonicalJson.length ≤ MAX_BUNDLE_CHARACTERS) ∧
  isSemver call.validationEngineVersion ∧ call.regoVersion.all (· = script "v1") ∧
  isReasonCode call.reasonCode

instance (call : PublishCall) : Decidable call.InputValid :=
  inferInstanceAs (Decidable (_ ∧ _ ∧ _ ∧ _ ∧ _ ∧ (_ ∧ _) ∧ _ ∧ _ ∧ _))

/-- `ORDER BY bundle_version DESC LIMIT 1` -/
def latestBundle? (versions : PolicyVersionTable) (series : ScriptString × ScriptString) :
    Option PolicyVersionRow :=
  (versions.rows.filter (·.series = series)).argmax PolicyVersionRow.bundleVersion

def activeBundle? (versions : PolicyVersionTable) (series : ScriptString × ScriptString) :
    Option PolicyVersionRow :=
  versions.rows.find? fun row => row.series = series ∧ row.state = .active

def publishedRow (call : PublishCall) (document : JsonValue)
    (previous : Option PolicyVersionRow) : PolicyVersionRow where
  tenantId := call.session.tenantId
  policyVersionId := call.policyVersionId
  policyName := call.policyName
  bundleVersion := call.bundleVersion
  bundleHashSha256 := call.bundleHashSha256
  entrypoint := call.entrypoint
  state := .published
  replacesPolicyVersionId := previous.map (·.policyVersionId)
  publishedBySubjectId := call.session.subjectId
  bundleDocument := document
  bundleCanonicalJson := call.bundleCanonicalJson
  validationEngine := script "opa"
  validationEngineVersion := call.validationEngineVersion
  regoVersion := call.regoVersion
  validatedAt := call.occurredAt
  activatedAt := none
  supersededAt := none
  createdAt := call.occurredAt
  updatedAt := max call.session.clock call.occurredAt

def publishedEvent (call : PublishCall) : PolicyBundleEvent where
  tenantId := call.session.tenantId
  eventType := .published
  policyVersionId := call.policyVersionId
  previousActivePolicyVersionId := none
  actorSubjectId := call.session.subjectId
  reasonCode := call.reasonCode
  occurredAt := call.occurredAt

/-- `trust.publish_policy_bundle` -/
def publishPolicyBundle (call : PublishCall) (store : PolicyStore) :
    Except SqlError (PolicyStore × PolicyVersionRow) := do
  require (isPolicyVersionId call.policyVersionId) .invalidText
  require (call.bundleVersion ≤ MAX_INTEGER) (.raised "integer out of range")
  require call.session.actorIsTenantAdmin (.raised "Policy bundle publication denied.")
  require call.InputValid (.raised "Policy bundle publication input is invalid.")
  let document ← requireSome (jsonb? call.bundleCanonicalJson)
    (.raised "Policy bundle document is invalid.")
  checkDocument crypto time call document
  require call.session.tenantActive (.raised "Policy bundle publication denied.")
  let previous := latestBundle? store.versions (call.session.tenantId, call.policyName)
  let nextBundleVersion := previous.elim 1 (·.bundleVersion + 1)
  require (nextBundleVersion ≤ MAX_INTEGER) (.raised "integer out of range")
  require (call.bundleVersion = nextBundleVersion)
    (.raised "Policy bundle version is not the next tenant version.")
  let row := publishedRow call document previous
  let versions ← insertVersion row store.versions
  return (⟨versions, publishedEvent call :: store.events⟩, row)

structure ActivateCall where
  session : PolicySession
  policyVersionId : ScriptString
  reasonCode : String
  occurredAt : Timestamp

def supersededBundle (call : ActivateCall) (row : PolicyVersionRow) : PolicyVersionRow :=
  { row with
    state := .superseded
    supersededAt := some call.occurredAt
    updatedAt := max call.session.clock call.occurredAt }

def activatedBundle (call : ActivateCall) (row : PolicyVersionRow) : PolicyVersionRow :=
  { row with
    state := .active
    activatedAt := some call.occurredAt
    supersededAt := none
    updatedAt := max call.session.clock call.occurredAt }

def ActivateCall.event (call : ActivateCall) (eventType : PolicyBundleEventType)
    (policyVersionId : ScriptString) (previous : Option ScriptString) : PolicyBundleEvent where
  tenantId := call.session.tenantId
  eventType := eventType
  policyVersionId := policyVersionId
  previousActivePolicyVersionId := previous
  actorSubjectId := call.session.subjectId
  reasonCode := call.reasonCode
  occurredAt := call.occurredAt

/-- The bundle that was active gives way, unless it was activated only later. -/
def supersedeBundle (call : ActivateCall) (previous : Option PolicyVersionRow)
    (store : PolicyStore) : Except SqlError PolicyStore :=
  match previous with
  | some row => do
      require (∀ activated ∈ row.activatedAt, activated ≤ call.occurredAt)
        (.raised "Policy bundle activation time is invalid.")
      let versions ← updateVersion (supersededBundle call row) store.versions
      return ⟨versions,
        call.event .superseded row.policyVersionId (some row.policyVersionId) :: store.events⟩
  | none => .ok store

/-- `trust.activate_policy_bundle` -/
def activatePolicyBundle (call : ActivateCall) (store : PolicyStore) :
    Except SqlError (PolicyStore × PolicyVersionRow) := do
  require (isPolicyVersionId call.policyVersionId) .invalidText
  require call.session.actorIsTenantAdmin (.raised "Policy bundle activation denied.")
  require (withinChangeWindow call.session.clock call.occurredAt ∧ isReasonCode call.reasonCode)
    (.raised "Policy bundle activation input is invalid.")
  let target ← requireSome (store.versions.get? (call.session.tenantId, call.policyVersionId))
    (.raised "Policy bundle activation denied.")
  require (target.state = .published ∧ target.createdAt ≤ call.occurredAt)
    (.raised "Policy bundle activation denied.")
  let previous := activeBundle? store.versions target.series
  let superseded ← supersedeBundle call previous store
  let versions ← updateVersion (activatedBundle call target) superseded.versions
  return (⟨versions, call.event .activated call.policyVersionId
    (previous.map (·.policyVersionId)) :: superseded.events⟩, activatedBundle call target)

/-- `trust.get_active_policy_bundle` -/
def getActivePolicyBundle (session : PolicySession) (policyName : ScriptString)
    (store : PolicyStore) : Except SqlError (List PolicyVersionRow) := do
  require session.actorIsActive (.raised "Active policy bundle lookup denied.")
  return store.versions.rows.filter fun row =>
    row.series = (session.tenantId, policyName) ∧ row.state = .active

inductive PolicyBundleCall where
  | publish (call : PublishCall)
  | activate (call : ActivateCall)

def applyBundle : Transaction PolicyStore PolicyBundleCall PolicyVersionRow SqlError
  | .publish call => publishPolicyBundle crypto time call
  | .activate call => activatePolicyBundle call

abbrev runBundles : PolicyStore → List PolicyBundleCall → PolicyStore :=
  Transaction.run (applyBundle crypto time)

end Procedures

end TenantTrust.Policy
