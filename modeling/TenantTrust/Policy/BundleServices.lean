import TenantTrust.Library.ScriptValues
import TenantTrust.Policy.PolicyBundles

/-! The services that publish, activate and look up policy bundles: what they accept, the document
that they build, and how they confirm the answers of the database. -/

namespace TenantTrust.Policy

open Library Identity Api Trust

/-- A `PolicyBundleError` with its reason code, the error of the policy data, or one of the
database. -/
inductive PolicyBundleFailure where
  | refused (reasonCode : String)
  | policyData (failure : AdaptiveAuthorizationPolicyError)
  | database (failure : SqlError)
  deriving DecidableEq, Repr

structure PolicyModule where
  path : ScriptString
  source : ScriptString
  deriving DecidableEq

structure ValidationReceipt where
  engine : ScriptString
  engineVersion : ScriptString
  regoVersion : ScriptString
  deriving DecidableEq

/-- The context of a request, as the tenant context package makes it. -/
structure PolicyContext where
  tenantId : ScriptString
  subjectId : ScriptString
  roles : List TenantRole
  tenant_valid : isTenantId tenantId = true
  subject_valid : isSubjectId subjectId = true

/-- What the database knows of the session of a request while it runs. -/
structure SessionAnswers where
  actorIsActive : Bool
  actorIsTenantAdmin : Bool
  tenantActive : Bool
  clock : Timestamp

def PolicyContext.session (context : PolicyContext) (answers : SessionAnswers) : PolicySession where
  tenantId := context.tenantId
  subjectId := context.subjectId
  actorIsActive := answers.actorIsActive
  actorIsTenantAdmin := answers.actorIsTenantAdmin
  tenantActive := answers.tenantActive
  clock := answers.clock

/-- A request whose name is a string. Its reason code is any value that may pass the test of its
text. -/
structure PublishRequest where
  policyName : ScriptString
  bundleVersion : Nat
  entrypoint : ScriptString
  modules : List PolicyModule
  data : JsonValue
  data_distinct : data.NamesDistinct
  reasonCode : Passed String

/-- The text that the driver sends for a value: an array goes out in braces. -/
def sentText : Passed String → String
  | .plain text => text
  | .object _ text => "\x7b\"" ++ text ++ "\"\x7d"

/-- What the services run on: digests, the texts of times, the order of paths and the compiler. -/
structure BundlePlatform where
  crypto : Crypto
  time : TimeText
  localeCompare : ScriptString → ScriptString → Bool
  compile : List PolicyModule → JsonValue → Option ValidationReceipt

def MAX_MODULES : Nat := 32
def MAX_MODULE_BYTES : Nat := 131072
def MAX_BUNDLE_BYTES : Nat := 1048576
def MAX_SAFE_INTEGER : Nat := 9007199254740991

/-! ### Modules -/

/-- `replace(/\r\n?/gu, "\n")` -/
def normalizeNewlines : ScriptString → ScriptString
  | [] => []
  | [unit] => if unit = 13 then [10] else [unit]
  | unit :: next :: rest =>
      if unit = 13 then
        if next = 10 then 10 :: normalizeNewlines rest else 10 :: normalizeNewlines (next :: rest)
      else unit :: normalizeNewlines (next :: rest)

/-- `Buffer.byteLength(text, "utf8")` -/
def byteLength (text : ScriptString) : Nat := (Utf8.encode text.text).length

/-- A name of at most 248 characters before `.rego`. -/
def isModulePath (path : ScriptString) : Bool :=
  let name := path.take (path.length - 5)
  path.drop (path.length - 5) = script ".rego" && name.head?.any isLowerAlphanumeric &&
    name.length ≤ 248 && name.all fun unit => isLowerAlphanumeric unit || oneOf "_./-" unit

/-- Where a line ends: `\n`, `\r` and the two separators of Unicode. -/
def isLineTerminator (unit : CodeUnit) : Bool :=
  unit = 10 || unit = 13 || unit = 0x2028 || unit = 0x2029

/-- `\s` -/
def isWhiteSpace (unit : CodeUnit) : Bool :=
  (9 ≤ unit.val && unit.val ≤ 13) || unit = 32 || unit = 0xA0 || unit = 0x1680 ||
    (0x2000 ≤ unit.val && unit.val ≤ 0x200A) || unit = 0x2028 || unit = 0x2029 ||
    unit = 0x202F || unit = 0x205F || unit = 0x3000 || unit = 0xFEFF

/-- The rests of a text from the beginning of each of its lines. -/
def lineStarts (text : ScriptString) : List ScriptString :=
  text :: text.tails.filterMap fun rest => match rest with
    | unit :: rest => if isLineTerminator unit then some rest else none
    | [] => none

/-- `\s*package\s+tenant_trust\.authorization\s*$` at the beginning of a text. -/
def startsWithPackage (text : ScriptString) : Bool :=
  let keyword := script "package"
  let name := script "tenant_trust.authorization"
  let declaration := text.dropWhile isWhiteSpace
  let afterKeyword := declaration.drop keyword.length
  let named := afterKeyword.dropWhile isWhiteSpace
  let rest := named.drop name.length
  keyword.isPrefixOf declaration && afterKeyword.head?.any isWhiteSpace && name.isPrefixOf named &&
    ((rest.takeWhile isWhiteSpace).any isLineTerminator || rest.all isWhiteSpace)

def declaresPackage (source : ScriptString) : Bool := (lineStarts source).any startsWithPackage

def normalizeModule (module_ : PolicyModule) : Except PolicyBundleFailure PolicyModule := do
  let source := normalizeNewlines module_.source
  require (isModulePath module_.path ∧ script ".." ∉ module_.path.splitOn 47 ∧
    1 ≤ byteLength source ∧ byteLength source ≤ MAX_MODULE_BYTES ∧ 0 ∉ source ∧
    declaresPackage source) (.refused "BUNDLE_MODULE_INVALID")
  return ⟨module_.path, source⟩

section Services

variable (platform : BundlePlatform)

def normalizeModules (modules : List PolicyModule) :
    Except PolicyBundleFailure (List PolicyModule) := do
  require (1 ≤ modules.length ∧ modules.length ≤ MAX_MODULES) (.refused "BUNDLE_MODULES_INVALID")
  let normalized ← modules.mapM normalizeModule
  let sorted := normalized.insertionSort fun left right =>
    platform.localeCompare left.path right.path
  require (sorted.map (·.path)).Nodup (.refused "BUNDLE_MODULES_INVALID")
  return sorted

/-! ### Requests -/

/-- The canonical text, unless a number is not finite. -/
def canonicalize (value : JsonValue) : Except PolicyBundleFailure (List Char) := do
  require (value.numbersFinite = true) (.refused "BUNDLE_DATA_INVALID")
  return canonicalValue value

def cloneJson (value : JsonValue) : Except PolicyBundleFailure JsonValue := do
  let canonical ← canonicalize value
  require ((Utf8.encode canonical).length ≤ MAX_BUNDLE_BYTES) (.refused "BUNDLE_TOO_LARGE")
  requireSome (JsonValue.parse canonical) (.refused "BUNDLE_DATA_INVALID")

def ACCESS_CONTROL : ScriptString := script "access-control"

structure NormalizedBundle where
  modules : List PolicyModule
  data : JsonValue

/-- The data of the access-control policy have a form of their own. -/
def validateData (policyName : ScriptString) (data : JsonValue) (tenantId : ScriptString) :
    Except PolicyBundleFailure JsonValue :=
  if policyName = ACCESS_CONTROL then
    (validateAdaptiveAuthorizationPolicyData data tenantId).mapError .policyData
  else .ok data

def normalizePublishRequest (input : PublishRequest) (tenantId : ScriptString) :
    Except PolicyBundleFailure NormalizedBundle := do
  require (isPolicyName input.policyName ∧ 1 ≤ input.bundleVersion ∧
    input.bundleVersion ≤ MAX_SAFE_INTEGER ∧ input.entrypoint = ENTRYPOINT ∧
    isReasonCode input.reasonCode.read) (.refused "PUBLISH_REQUEST_INVALID")
  let data ← cloneJson input.data
  let modules ← normalizeModules platform input.modules
  let validated ← validateData input.policyName data tenantId
  return ⟨modules, validated⟩

def ValidationReceipt.normalize (receipt : ValidationReceipt) :
    Except PolicyBundleFailure ValidationReceipt := do
  require (receipt.engine = script "opa" ∧ isSemver receipt.engineVersion ∧
    receipt.regoVersion = script "v1") (.refused "BUNDLE_VALIDATION_FAILED")
  return receipt

/-- A member of a document. -/
def entry (name : String) (value : JsonValue) : ScriptString × JsonValue := (script name, value)

def PolicyModule.document (module_ : PolicyModule) : JsonValue :=
  .object [entry "path" (.string module_.path), entry "source" (.string module_.source)]

def ValidationReceipt.document (receipt : ValidationReceipt) (checkedAt : ScriptString) :
    JsonValue :=
  .object [entry "engine" (.string receipt.engine),
    entry "engineVersion" (.string receipt.engineVersion),
    entry "regoVersion" (.string receipt.regoVersion), entry "checkedAt" (.string checkedAt)]

/-- What a publication states in its document. -/
structure BundleContent where
  tenantId : ScriptString
  policyVersionId : ScriptString
  policyName : ScriptString
  bundleVersion : Nat
  entrypoint : ScriptString
  modules : List PolicyModule
  data : JsonValue
  receipt : ValidationReceipt
  checkedAt : ScriptString

def BundleContent.document (content : BundleContent) : JsonValue :=
  .object [entry "schemaVersion" (.string (script "1.0.0")),
    entry "tenantId" (.string content.tenantId),
    entry "policyVersionId" (.string content.policyVersionId),
    entry "policyName" (.string content.policyName),
    entry "bundleVersion" (.number (.ofRat content.bundleVersion)),
    entry "entrypoint" (.string content.entrypoint),
    entry "modules" (.array (content.modules.map PolicyModule.document)),
    entry "data" content.data,
    entry "validation" (content.receipt.document content.checkedAt)]

def hashPolicyBundleDocument (document : JsonValue) : Except PolicyBundleFailure ScriptString := do
  let canonical ← canonicalize document
  return textDigest platform.crypto canonical

def requireAdmin (context : PolicyContext) : Except PolicyBundleFailure Unit :=
  require (TenantRole.tenantAdmin ∈ context.roles) (.refused "TENANT_ADMIN_REQUIRED")

/-- The content of the bundle that a request asks to publish. -/
def contentOf (context : PolicyContext) (request : PublishRequest)
    (policyVersionId : ScriptString) (occurredAt : Timestamp) :
    Except PolicyBundleFailure BundleContent := do
  requireAdmin context
  let normalized ← normalizePublishRequest platform request context.tenantId
  require (isPolicyVersionId policyVersionId) (.refused "POLICY_VERSION_ID_INVALID")
  let compiled ← requireSome (platform.compile normalized.modules normalized.data)
    (.refused "BUNDLE_VALIDATION_FAILED")
  let receipt ← compiled.normalize
  return {
    tenantId := context.tenantId
    policyVersionId := policyVersionId
    policyName := request.policyName
    bundleVersion := request.bundleVersion
    entrypoint := request.entrypoint
    modules := normalized.modules
    data := normalized.data
    receipt := receipt
    checkedAt := platform.time.iso occurredAt }

/-- The arguments of the statement that publishes a bundle. -/
def publishStatement (context : PolicyContext) (answers : SessionAnswers)
    (request : PublishRequest) (policyVersionId : ScriptString) (occurredAt : Timestamp)
    (receipt : ValidationReceipt) (canonical : List Char) (digest : ScriptString) :
    PublishCall where
  session := context.session answers
  policyVersionId := policyVersionId
  policyName := request.policyName
  bundleVersion := request.bundleVersion
  bundleHashSha256 := digest
  entrypoint := request.entrypoint
  bundleCanonicalJson := canonical
  validationEngineVersion := receipt.engineVersion
  regoVersion := some receipt.regoVersion
  reasonCode := sentText request.reasonCode
  occurredAt := occurredAt

/-- The statement that the service sends to publish a bundle. -/
def publication (context : PolicyContext) (answers : SessionAnswers) (request : PublishRequest)
    (policyVersionId : ScriptString) (occurredAt : Timestamp) :
    Except PolicyBundleFailure PublishCall := do
  let content ← contentOf platform context request policyVersionId occurredAt
  let bundleCanonicalJson ← canonicalize content.document
  let bundleHashSha256 ← hashPolicyBundleDocument platform content.document
  return publishStatement context answers request policyVersionId occurredAt content.receipt
    bundleCanonicalJson bundleHashSha256

/-! ### Answers -/

/-- The row with the document that its canonical text reads as. -/
def mapBundle (row : PolicyVersionRow) : Except PolicyBundleFailure PolicyVersionRow := do
  let document ← requireSome (JsonValue.parse row.bundleCanonicalJson)
    (.refused "POLICY_BUNDLE_RESULT_INVALID")
  return { row with bundleDocument := document }

def isNumber (value : JsonValue) (n : Nat) : Bool :=
  match value with
  | .number x => x = .ofRat n
  | _ => false

/-- `document.validation.regoVersion === value.regoVersion` -/
def statesRego (validation : JsonValue) : Option ScriptString → Bool
  | some regoVersion => (validation.get "regoVersion").text? = some regoVersion
  | none =>
      match validation.member? (script "regoVersion") with
      | some .null => true
      | _ => false

def modulesPresent : JsonValue → Bool
  | .array items => 1 ≤ items.length
  | _ => false

def validateBundle (value : PolicyVersionRow) (expectedTenantId : ScriptString) :
    Except PolicyBundleFailure PolicyVersionRow := do
  let invalid := PolicyBundleFailure.refused "POLICY_BUNDLE_RESULT_INVALID"
  let document := value.bundleDocument
  let validation := document.get "validation"
  require (value.tenantId = expectedTenantId ∧ isTenantId value.tenantId ∧
    isPolicyVersionId value.policyVersionId ∧ isPolicyName value.policyName ∧
    (1 ≤ value.bundleVersion ∧ value.bundleVersion ≤ MAX_SAFE_INTEGER) ∧
    isSha256 value.bundleHashSha256 ∧ value.entrypoint = ENTRYPOINT ∧
    isSubjectId value.publishedBySubjectId) invalid
  require (isObject document ∧ (document.get "schemaVersion").isText "1.0.0" ∧
    (document.get "tenantId").text? = some value.tenantId ∧
    (document.get "policyVersionId").text? = some value.policyVersionId ∧
    (document.get "policyName").text? = some value.policyName ∧
    isNumber (document.get "bundleVersion") value.bundleVersion ∧
    (document.get "entrypoint").text? = some value.entrypoint ∧
    modulesPresent (document.get "modules") ∧ isObject (document.get "data") ∧
    isObject validation ∧ (validation.get "engine").text? = some value.validationEngine ∧
    (validation.get "engineVersion").text? = some value.validationEngineVersion ∧
    statesRego validation value.regoVersion ∧
    (validation.get "checkedAt").text? = some (platform.time.iso value.validatedAt)) invalid
  let digest ← hashPolicyBundleDocument platform document
  require (digest = value.bundleHashSha256) invalid
  let canonical ← canonicalize document
  require (canonical = value.bundleCanonicalJson) invalid
  return value

/-! ### Operations -/

/-- `publish` -/
def publishBundle (context : PolicyContext) (answers : SessionAnswers) (request : PublishRequest)
    (policyVersionId : ScriptString) (occurredAt : Timestamp) (store : PolicyStore) :
    Except PolicyBundleFailure (PolicyStore × PolicyVersionRow) := do
  let call ← publication platform context answers request policyVersionId occurredAt
  let (next, row) ←
    (publishPolicyBundle platform.crypto platform.time call store).mapError .database
  let result ← mapBundle row
  let published ← validateBundle platform result context.tenantId
  require (published.state = .published ∧ published.policyVersionId = policyVersionId ∧
    published.bundleVersion = request.bundleVersion ∧
    published.bundleHashSha256 = call.bundleHashSha256 ∧
    published.publishedBySubjectId = context.subjectId)
    (.refused "POLICY_BUNDLE_WRITE_UNCONFIRMED")
  return (next, published)

structure ActivationRequest where
  policyVersionId : ScriptString
  reasonCode : Passed String

/-- The statement that the service sends to activate a bundle. -/
def activation (context : PolicyContext) (answers : SessionAnswers) (request : ActivationRequest)
    (occurredAt : Timestamp) : Except PolicyBundleFailure ActivateCall := do
  requireAdmin context
  require (isPolicyVersionId request.policyVersionId ∧ isReasonCode request.reasonCode.read)
    (.refused "ACTIVATION_REQUEST_INVALID")
  return ⟨context.session answers, request.policyVersionId, sentText request.reasonCode, occurredAt⟩

/-- `activate` -/
def activateBundle (context : PolicyContext) (answers : SessionAnswers)
    (request : ActivationRequest) (occurredAt : Timestamp) (store : PolicyStore) :
    Except PolicyBundleFailure (PolicyStore × PolicyVersionRow) := do
  let call ← activation context answers request occurredAt
  let (next, row) ← (activatePolicyBundle call store).mapError .database
  let result ← mapBundle row
  let active ← validateBundle platform result context.tenantId
  require (active.state = .active ∧ active.policyVersionId = request.policyVersionId ∧
    active.activatedAt ≠ none ∧ active.supersededAt = none)
    (.refused "POLICY_BUNDLE_WRITE_UNCONFIRMED")
  return (next, active)

/-- `getActive` of the repository -/
def getActive (context : PolicyContext) (answers : SessionAnswers) (policyName : ScriptString)
    (store : PolicyStore) : Except PolicyBundleFailure (Option PolicyVersionRow) := do
  let rows ← (getActivePolicyBundle (context.session answers) policyName store).mapError .database
  match rows with
  | [] => return none
  | [row] => (mapBundle row).map some
  | _ => .error (.refused "ACTIVE_POLICY_BUNDLE_INVALID")

/-- `lookupActive` -/
def lookupActive (context : PolicyContext) (answers : SessionAnswers) (policyName : ScriptString)
    (store : PolicyStore) : Except PolicyBundleFailure PolicyVersionRow := do
  require (isPolicyName policyName) (.refused "POLICY_NAME_INVALID")
  let found ← getActive context answers policyName store
  let result ← requireSome found (.refused "ACTIVE_POLICY_BUNDLE_MISSING")
  let active ← validateBundle platform result context.tenantId
  require (active.state = .active ∧ active.policyName = policyName)
    (.refused "ACTIVE_POLICY_BUNDLE_INVALID")
  return active

/-! ### The requests of a run -/

inductive BundleRequest where
  | publish (context : PolicyContext) (answers : SessionAnswers) (request : PublishRequest)
      (policyVersionId : ScriptString) (occurredAt : Timestamp)
  | activate (context : PolicyContext) (answers : SessionAnswers) (request : ActivationRequest)
      (occurredAt : Timestamp)

def serveBundle : Transaction PolicyStore BundleRequest PolicyVersionRow PolicyBundleFailure
  | .publish context answers request policyVersionId occurredAt =>
      publishBundle platform context answers request policyVersionId occurredAt
  | .activate context answers request occurredAt =>
      activateBundle platform context answers request occurredAt

end Services

end TenantTrust.Policy
