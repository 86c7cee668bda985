import TenantTrust.Api.TenantStore

/-! The five protected requests of the tenant repository, on the rows that the application role
is shown. -/

namespace TenantTrust.Api

open Library Identity

inductive DataError where
  | invalidRequest (message : String)
  | idempotencyConflict
  | api (error : ApiError)
  deriving DecidableEq, Repr

inductive AuthorizationModeId where
  | pkiRbacBaseline | adaptiveTrustOpa
  deriving DecidableEq, Repr

/-- The digest of the client's idempotency key and the identifier that the factory drew. -/
structure SensitiveKey where
  keyHash : Sha256Digest
  candidate : OperationId
  deriving DecidableEq, Repr

inductive DataRequest where
  | getProfile
  | listRecords
  | getRecord (recordId : ResourceId)
  | exportRecords (recordIds : List ResourceId) (sensitive : SensitiveKey)
  | reviewMembership (subjectId : SubjectId) (sensitive : SensitiveKey)
  deriving DecidableEq, Repr

namespace DataRequest

def action : DataRequest → PolicyAction
  | getProfile => .profileRead
  | listRecords | getRecord _ => .recordRead
  | exportRecords _ _ => .recordExport
  | reviewMembership _ _ => .tenantAdmin

def sensitive? : DataRequest → Option SensitiveKey
  | getProfile | listRecords | getRecord _ => none
  | exportRecords _ sensitive | reviewMembership _ sensitive => some sensitive

/-- What `hashSensitiveRequest` is given beside the action, in order. -/
def resourceIdentifiers : DataRequest → List Nat
  | getProfile | listRecords | getRecord _ => []
  | exportRecords recordIds _ => (recordIds.map ResourceId.value).insertionSort (· ≤ ·)
  | reviewMembership subjectId _ => [subjectId.value]

/-- `normalizeRecordIds` -/
def normalize : DataRequest → Except DataError Unit
  | exportRecords recordIds _ =>
      require (1 ≤ recordIds.length ∧ recordIds.length ≤ 25 ∧ recordIds.Nodup)
        (.invalidRequest "A bounded list of unique record IDs is required.")
  | getProfile | listRecords | getRecord _ | reviewMembership _ _ => return ()

end DataRequest

/-- What is decided outside the data path, whose answers are given: the state of the presented
certificate, the policy decision of the adaptive mode with the rows that it reads and writes, the
authorizer of the baseline mode, and the digest. -/
structure RequestDecisions where
  mode : AuthorizationModeId
  revalidate : Authentication → TenantContext → Except ApiError Unit
  policy : Authentication → TenantContext → DataRequest → Except ApiError Unit
  sensitiveOperationAuthorizer : Option OperationId → TenantContext → DataRequest → Bool
  sha256 : PolicyAction → List Nat → Sha256Digest

/-- What the caller is told; a recorded denial has been committed before. -/
def ApiError.reported : ApiError → ApiError
  | .recordedPolicyDenial => .accessDenied
  | failure => failure

namespace RequestDecisions

/-- `authorizeBaselineOperation` and `authorizeSensitiveOperation` -/
def authorizeBaseline (decisions : RequestDecisions) (context : TenantContext)
    (request : DataRequest) (operationId : Option OperationId) : Except ApiError Unit := do
  let eligibility ← requireSome (resolveRoleAction context request.action) .accessDenied
  if request.sensitive?.isSome then do
    require (eligibility.disposition = .requiresControls ∧ eligibility.role = .tenantAdmin ∧
      eligibility.scope = .tenant) .accessDenied
    require (decisions.sensitiveOperationAuthorizer operationId context request) .accessDenied
  else require (eligibility.disposition = .allow) .accessDenied

def authorize (decisions : RequestDecisions) (authentication : Authentication)
    (context : TenantContext) (request : DataRequest) (operationId : Option OperationId) :
    Except ApiError Unit :=
  match decisions.mode with
  | .pkiRbacBaseline => decisions.authorizeBaseline context request operationId
  | .adaptiveTrustOpa => do
      let _ ← evaluateAuthorizationMode context request.action
      (decisions.policy authentication context request).mapError ApiError.reported

end RequestDecisions

structure TenantProfile where
  tenantId : TenantId
  tenantDisplayName : String
  subjectId : SubjectId
  displayName : String
  subjectKind : SubjectKind
  roles : List TenantRole
  memberSince : Timestamp
  authorityVersions : AuthorityVersions
  deriving DecidableEq, Repr

structure TenantRecord where
  recordId : ResourceId
  ownerSubjectId : SubjectId
  name : String
  version : Nat
  createdAt : Timestamp
  updatedAt : Timestamp
  deriving DecidableEq, Repr

def mapRecord (row : ResourceRow) : TenantRecord where
  recordId := row.resourceId
  ownerSubjectId := row.ownerSubjectId
  name := row.resourceName
  version := row.version
  createdAt := row.createdAt
  updatedAt := row.updatedAt

/-- `operationMetadata` -/
structure OperationMetadata where
  operationId : OperationId
  action : PolicyAction
  tenantId : TenantId
  requestedBy : SubjectId
  idempotentReplay : Bool
  authorizationModeId : AuthorizationModeId
  deriving DecidableEq, Repr

structure ReviewedMembership where
  subjectId : SubjectId
  displayName : String
  subjectState : ActivityState
  subjectVersion : Nat
  membershipState : ActivityState
  membershipVersion : Nat
  roles : List TenantRole
  deriving DecidableEq, Repr

inductive DataReply where
  | profile (profile : TenantProfile)
  | records (records : List TenantRecord)
  | record (record : TenantRecord)
  | exported (operation : OperationMetadata) (recordCount : Nat) (records : List TenantRecord)
  | membership (operation : OperationMetadata) (targetSubjectId : SubjectId)
      (membership : ReviewedMembership)
  deriving DecidableEq, Repr

/-- `audit.reserve_api_sensitive_operation` -/
def reserveSensitiveOperation (receipt : OperationReceipt)
    (receipts : Table OperationReceipt OperationReceipt.key) :
    Except DataError (Table OperationReceipt OperationReceipt.key × OperationId × Bool) :=
  match receipts.get? receipt.key with
  | some existing => do
      require (existing.requestHash = receipt.requestHash) .idempotencyConflict
      return (receipts, existing.operationId, true)
  | none => do
      let taken := DataError.api (.database
        (.uniqueViolation "api_sensitive_operation_receipts_operation_id_unique"))
      require (∀ other ∈ receipts, other.operationId ≠ receipt.operationId) taken
      let inserted ← requireSome (receipts.insertNew receipt) taken
      return (inserted, receipt.operationId, false)

namespace TenantStore

/-- The authority query of `withTenantContext`; a member without a role gives no row. -/
def authority? (view : TenantStore) (tenantId : TenantId) (subjectId : SubjectId) :
    Option Authority := do
  let tenant ← view.tenants.get? tenantId
  let membership ← view.memberships.get? (tenantId, subjectId)
  let subject ← view.subjects.get? subjectId
  let roles := view.rolesOf tenantId subjectId
  if roles = [] then none
  else some {
    tenantState := tenant.state
    subjectState := subject.state
    membershipState := membership.state
    tenantVersion := tenant.version
    subjectVersion := subject.version
    membershipVersion := membership.version
    roles := roles }

def profile? (view : TenantStore) (context : TenantContext) : Option TenantProfile := do
  let tenant ← view.tenants.get? context.tenantId
  let membership ← view.memberships.get? (context.tenantId, context.subjectId)
  let subject ← view.subjects.get? context.subjectId
  return {
    tenantId := context.tenantId
    tenantDisplayName := tenant.displayName
    subjectId := context.subjectId
    displayName := subject.displayName
    subjectKind := subject.subjectKind
    roles := context.roles
    memberSince := membership.createdAt
    authorityVersions := context.versions }

/-- The rows of the tenant, in the order of their identifiers. -/
def resourcesOf (view : TenantStore) (tenantId : TenantId) : List ResourceRow :=
  (view.resources.shown fun row => row.tenantId = tenantId).listing ResourceRow.resourceId

def reviewedMembership? (view : TenantStore) (tenantId : TenantId) (subjectId : SubjectId) :
    Option ReviewedMembership := do
  let membership ← view.memberships.get? (tenantId, subjectId)
  let subject ← view.subjects.get? subjectId
  let roles := view.rolesOf tenantId subjectId
  if roles = [] then none
  else some {
    subjectId := subjectId
    displayName := subject.displayName
    subjectState := subject.state
    subjectVersion := subject.version
    membershipState := membership.state
    membershipVersion := membership.version
    roles := roles }

end TenantStore

/-- The authorization of a request at the place where a mode asks for it. -/
def RequestDecisions.authorizeIn (decisions : RequestDecisions) (mode : AuthorizationModeId)
    (authentication : Authentication) (context : TenantContext) (request : DataRequest)
    (operationId : Option OperationId) : Except DataError Unit :=
  if decisions.mode = mode then
    (decisions.authorize authentication context request operationId).mapError .api
  else .ok ()

/-- The receipt and the authorization of a sensitive operation. The adaptive mode decides before
the receipt is reserved, the baseline mode decides about the reserved operation. -/
def reserveAndAuthorize (decisions : RequestDecisions) (authentication : Authentication)
    (context : TenantContext) (request : DataRequest) (sensitive : SensitiveKey)
    (receipts : Table OperationReceipt OperationReceipt.key) :
    Except DataError (Table OperationReceipt OperationReceipt.key × OperationMetadata) := do
  decisions.authorizeIn .adaptiveTrustOpa authentication context request none
  let (receipts, operationId, replayed) ← reserveSensitiveOperation {
    tenantId := context.tenantId
    actorSubjectId := context.subjectId
    action := request.action
    idempotencyKeyHash := sensitive.keyHash
    requestHash := decisions.sha256 request.action request.resourceIdentifiers
    operationId := sensitive.candidate } receipts
  decisions.authorizeIn .pkiRbacBaseline authentication context request (some operationId)
  return (receipts, {
    operationId := operationId
    action := request.action
    tenantId := context.tenantId
    requestedBy := context.subjectId
    idempotentReplay := replayed
    authorizationModeId := decisions.mode })

/-- The operation of a request inside its tenant context. -/
def DataRequest.operation (decisions : RequestDecisions) (authentication : Authentication)
    (context : TenantContext) (view : TenantStore)
    (receipts : Table OperationReceipt OperationReceipt.key) :
    DataRequest →
      Except DataError (Table OperationReceipt OperationReceipt.key × DataReply)
  | request@getProfile => do
      (decisions.authorize authentication context request none).mapError .api
      let profile ← requireSome (view.profile? context) (.api .accessDenied)
      return (receipts, .profile profile)
  | request@listRecords => do
      (decisions.authorize authentication context request none).mapError .api
      let rows := (view.resourcesOf context.tenantId).take 100
      return (receipts, .records (rows.map mapRecord))
  | request@(getRecord recordId) => do
      (decisions.authorize authentication context request none).mapError .api
      let row ← requireSome (view.resources.get? (context.tenantId, recordId)) (.api .accessDenied)
      return (receipts, .record (mapRecord row))
  | request@(exportRecords recordIds sensitive) => do
      let (receipts, metadata) ←
        reserveAndAuthorize decisions authentication context request sensitive receipts
      let rows := (view.resourcesOf context.tenantId).filter (·.resourceId ∈ recordIds)
      require (rows.length = recordIds.length) (.api .accessDenied)
      return (receipts, .exported metadata rows.length (rows.map mapRecord))
  | request@(reviewMembership subjectId sensitive) => do
      let (receipts, metadata) ←
        reserveAndAuthorize decisions authentication context request sensitive receipts
      let reviewed ← requireSome (view.reviewedMembership? context.tenantId subjectId)
        (.api .accessDenied)
      return (receipts, .membership metadata subjectId reviewed)

/-- A request of the repository, `withTenantContext` included. Every statement of its
transaction is evaluated on one state; a failure leaves nothing behind in these tables. -/
def serveRequest (decisions : RequestDecisions) (authentication : Authentication)
    (request : DataRequest) (store : TenantStore) : Except DataError (TenantStore × DataReply) := do
  request.normalize
  (assertPresentedCertificate authentication).mapError .api
  let actor : Actor := ⟨authentication.tenantId, authentication.subjectId⟩
  require (store.currentActorIsActive actor) (.api .accessDenied)
  let view := store.seenBy actor
  let authority ← requireSome (view.authority? actor.tenantId actor.subjectId) (.api .accessDenied)
  let context ← (resolveTenantContext actor.tenantId actor.subjectId authority).mapError .api
  (decisions.revalidate authentication context).mapError .api
  let (receipts, reply) ←
    request.operation decisions authentication context view store.receipts
  return ({ store with receipts := receipts }, reply)

end TenantTrust.Api
