import TenantTrust.Identity.Lifecycle
import TenantTrust.Orchestration.Completion

/-! The security-action queue as a transactional store: every procedure that touches it,
together with the writes of its surroundings that it reads. -/

namespace TenantTrust.Orchestration

open Library Identity Audit

/-- Trust, policy and step-up rows come from other services; any row may appear at any
time. Each call carries its own clock, session and worker timestamps. -/
inductive QueueOp where
  | requestQuarantine (session : Session) (p : QuarantineRequest)
  | enqueueSeverity (clock : Timestamp) (p : SeverityRequest)
  | authorizeRecovery (session : Session) (p : RecoveryRequest)
  | claim (call : ClaimCall)
  | succeed (report : SuccessReport)
  | fail (report : FailureReport)
  | recoverLeases (clock : Timestamp) (recoveredBy : String) (recoveredAt : Timestamp)
  | certificates (op : InventoryOp)
  | recordTransition (row : TrustTransition)
  | recordProvenance (row : PolicyDecisionProvenance)
  | recordStepUpProof (row : StepUpProof)
  | consumeStepUp (session : Session) (p : ProofPresentation)

inductive QueueReply where
  | request (row : SecurityActionRequest)
  | action (row : SecurityAction)
  | authorization (row : RecoveryAuthorization)
  | claimed (row : Option ClaimedAction)
  | recovered (count : Nat)
  | stepUp (proof : Option StepUpProof)
  | certificate (row : RecordedCertificate)
  | recorded

/-- The row and the pointer that the trust engine moves to it. -/
def recordTransition (row : TrustTransition) (db : Database) : Except SqlError Database := do
  let transitions ← requireSome (db.transitions.insertNew row)
    (.uniqueViolation "subject_trust_transitions_pk")
  return { db with
    transitions := transitions
    currentTransitions := db.currentTransitions.upsert
      ⟨row.tenantId, row.subjectId, row.transitionId⟩ }

def applyQueue : Transaction Database QueueOp QueueReply SqlError
  | .requestQuarantine session p, db => do
      let (db, row) ← requestQuarantineAction session p db
      return (db, .request row)
  | .enqueueSeverity clock p, db => do
      let (db, row) ← enqueueSeveritySecurityAction clock p db
      return (db, .action row)
  | .authorizeRecovery session p, db => do
      let (db, row) ← authorizeSecurityRecovery session p db
      return (db, .authorization row)
  | .claim call, db => do
      let (db, row) ← claimSecurityAction call db
      return (db, .claimed row)
  | .succeed report, db => do
      let (db, row) ← markSecurityActionSucceeded report db
      return (db, .action row)
  | .fail report, db => do
      let (db, row) ← markSecurityActionFailed report db
      return (db, .action row)
  | .recoverLeases clock recoveredBy recoveredAt, db => do
      let (db, count) ← recoverExpiredLeases clock recoveredBy recoveredAt db
      return (db, .recovered count)
  | .certificates op, db => do
      let (inventory, row) ← applyInventory op db.inventory
      return ({ db with inventory := inventory }, .certificate row)
  | .recordTransition row, db => do
      let db ← recordTransition row db
      return (db, .recorded)
  | .recordProvenance row, db => do
      let provenance ← requireSome (db.provenance.insertNew row)
        (.uniqueViolation "policy_decision_provenance_pk")
      return ({ db with provenance := provenance }, .recorded)
  | .recordStepUpProof row, db => do
      let proofs ← requireSome (db.stepUpProofs.insertNew row)
        (.uniqueViolation "step_up_proofs_pk")
      return ({ db with stepUpProofs := proofs }, .recorded)
  | .consumeStepUp session p, db => do
      let (proofs, consumed) ← consumeStepUpProof session p db.stepUpProofs
      return ({ db with stepUpProofs := proofs }, .stepUp consumed)

/-- The migrations create the orchestration tables empty; the others may hold any rows. -/
structure Database.Fresh (db : Database) : Prop where
  states : db.states = Table.empty
  actions : db.actions = Table.empty
  attempts : db.attempts = Table.empty
  authorizations : db.authorizations = Table.empty
  invalidations : db.invalidations = Table.empty

theorem Database.empty_fresh : Database.empty.Fresh := ⟨rfl, rfl, rfl, rfl, rfl⟩

abbrev runQueue : Database → List QueueOp → Database := Transaction.run applyQueue

abbrev commitQueue : Database → QueueOp → Database := Transaction.commit applyQueue

theorem runQueue_append (db : Database) (front back : List QueueOp) :
    runQueue db (front ++ back) = runQueue (runQueue db front) back :=
  Transaction.run_append db front back

theorem commitQueue_cases (db : Database) (op : QueueOp) :
    commitQueue db op = db ∨ ∃ reply, applyQueue op db = .ok (commitQueue db op, reply) :=
  Transaction.commit_cases applyQueue db op

abbrev Database.Reachable : Database → Prop := Transaction.Reachable applyQueue Database.Fresh

namespace Scenario

/-! One tenant with an administrator and a member whose trust has recovered; the member
holds one certificate. -/

def target : Target := ⟨⟨1⟩, ⟨1⟩, ⟨1⟩⟩

def session (subject : Nat) : Session where
  tenantId := target.tenantId
  subjectId := ⟨subject⟩
  actorIsActive := true
  actorIsTenantAdmin := subject = 2
  activeMember := fun _ => true
  activeIssuer := fun _ => true
  clock := 0

def certificate : Certificate where
  tenantId := target.tenantId
  certificateId := target.certificateId
  subjectId := target.subjectId
  issuerId := ⟨1⟩
  profileId := 1
  serialNumber := ⟨1⟩
  fingerprintSha256 := ⟨1⟩
  publicKeySha256 := some ⟨1⟩
  publicKeyAlgorithm := .ed25519
  notBefore := -2000
  notAfter := 1000000
  issuedAt := -1000
  requestedBySubjectId := ⟨1⟩
  requestId := ⟨1⟩
  idempotencyKey := .requested 1
  issuedEventId := ⟨1⟩
  correlationId := ⟨1⟩
  supersedesCertificateId := none
  state := .active
  stateChangedAt := -1000
  lastEventId := ⟨1⟩
  version := 1
  createdAt := -1000
  updatedAt := -1000

def transition : TrustTransition where
  tenantId := target.tenantId
  subjectId := target.subjectId
  transitionId := ⟨1⟩
  newScore := 80
  newBand := .high
  newRecoveryStreak := 0
  transitionKind := .recovered
  evaluatedAt := 0
  explanation := .object [("transitionControl", .object [("recovery", .object [
    ("distinctSourceCount", .number 2), ("requiredQualifyingStreak", .number 2),
    ("eligible", .bool true)])])]

def proof : StepUpProof where
  tenantId := target.tenantId
  subjectId := ⟨2⟩
  proofIdHashSha256 := ⟨1⟩
  action := "tenant:admin"
  sessionIdHashSha256 := ⟨1⟩
  verifiedAt := 0
  expiresAt := 1000
  consumedAt := none
  consumedByRequestId := none

def provenance : PolicyDecisionProvenance where
  tenantId := target.tenantId
  decisionId := ⟨2⟩
  correlationId := ⟨2⟩
  actorSubjectId := target.subjectId
  certificateId := target.certificateId
  outcome := .quarantine
  trustTransitionId := some ⟨1⟩

def deployment : Database := { Database.empty with
  inventory := ⟨⟨[certificate], List.nodup_singleton _⟩, Table.empty⟩
  transitions := ⟨[transition], List.nodup_singleton _⟩
  currentTransitions := ⟨[⟨⟨1⟩, ⟨1⟩, ⟨1⟩⟩], List.nodup_singleton _⟩
  provenance := ⟨[provenance], List.nodup_singleton _⟩
  stepUpProofs := ⟨[proof], List.nodup_singleton _⟩ }

def quarantine (action : Nat) (actionType : QuarantineActionType) : QueueOp :=
  .requestQuarantine (session 1) {
    actionId := ⟨action⟩
    decisionId := ⟨action⟩
    requestId := ⟨action⟩
    correlationId := ⟨action⟩
    targetCertificateId := target.certificateId
    policyAction := "record:read"
    actionType := actionType
    reasonCode := "TRUST_TOO_LOW"
    resourceIdHashSha256 := ⟨1⟩
    trustTransitionId := ⟨1⟩
    policyVersionId := 1
    policyInputHashSha256 := ⟨1⟩
    requestedAt := 0 }

def claim (token : Nat) : QueueOp := .claim {
  workerId := "worker-1"
  claimToken := ⟨token⟩
  claimedAt := 0
  locked := []
  randomToken := fun key => ⟨100 + key.2.value⟩ }

def success (action token : Nat) (state : SecurityActionState) : QueueOp := .succeed {
  tenantId := target.tenantId
  actionId := ⟨action⟩
  claimToken := some ⟨token⟩
  resultState := state
  externalReference := none
  succeededAt := 0 }

def restoration : QueueOp := .authorizeRecovery (session 2) {
  authorizationId := ⟨1⟩
  actionId := ⟨3⟩
  decisionId := ⟨3⟩
  requestId := ⟨3⟩
  correlationId := ⟨3⟩
  idempotencyKey := .requested 3
  targetSubjectId := target.subjectId
  targetCertificateId := target.certificateId
  actionType := .restoreAccess
  trustTransitionId := ⟨1⟩
  expectedStateVersion := 2
  reasonCode := "ACCESS_RECOVERY_ELIGIBLE"
  eligibilityHashSha256 := ⟨1⟩
  stepUpProofIdHashSha256 := ⟨1⟩
  sessionIdHashSha256 := ⟨1⟩
  causeResolutionReference := none
  authorizedAt := 0 }

def severity (actionType : SecurityActionType) : QueueOp := .enqueueSeverity 0 {
  tenantId := target.tenantId
  actionId := ⟨2⟩
  decisionId := ⟨2⟩
  targetSubjectId := target.subjectId
  targetCertificateId := target.certificateId
  actionType := actionType
  reasonCode := "SEVERE_EVIDENCE"
  triggerContextHashSha256 := ⟨1⟩
  requestedAt := 0 }

def revocation : QueueOp := .certificates (.revoke (session 2) {
  eventId := ⟨2⟩
  correlationId := ⟨2⟩
  requestId := ⟨2⟩
  certificateId := target.certificateId
  reasonCode := .keyCompromise
  revokedAt := 0
  idempotencyKey := .requested 2
  issuerConfirmationId := "confirmation-2" })

/-- A renewal in the last quarter of the lifetime. -/
def renewalRequest : CertificateRequest where
  certificateId := ⟨2⟩
  eventId := ⟨3⟩
  correlationId := ⟨3⟩
  requestId := ⟨3⟩
  subjectId := target.subjectId
  issuerId := ⟨1⟩
  profileId := 1
  serialNumber := ⟨2⟩
  fingerprintSha256 := ⟨2⟩
  publicKeySha256 := some ⟨2⟩
  publicKeyAlgorithm := .ed25519
  notBefore := 800000
  notAfter := 2000000
  issuedAt := 800000
  idempotencyKey := .requested 3

def renewal : QueueOp := .certificates
  (.renew { session 1 with clock := 800000 } renewalRequest target.certificateId ⟨4⟩)

def failure (action token : Nat) : QueueOp := .fail {
  tenantId := target.tenantId
  actionId := ⟨action⟩
  claimToken := some ⟨token⟩
  failureCode := "REVOKED_CERTIFICATE_REPLACEMENT_REQUIRED"
  failedAt := 0
  retryDelaySeconds := 1 }

def restricted : List QueueOp :=
  [quarantine 1 .restrictAccess, claim 1, success 1 1
    ⟨.restricted, .allowed, .active, .notRequired⟩]

def suspended : List QueueOp :=
  [quarantine 1 .suspendSubject, claim 1,
    success 1 1 ⟨.suspended, .blocked, .active, .notRequired⟩]

def revoked : List QueueOp :=
  [severity .revokeCertificate, claim 1, revocation,
    success 2 1 ⟨.suspended, .blocked, .revoked, .required⟩]

def restores : QueueOp := success 3 2 ⟨.normal, .allowed, .active, .notRequired⟩

def restored : List QueueOp :=
  suspended ++ [restoration, severity .blockRenewal, claim 2, restores]

theorem deployment_fresh : deployment.Fresh := ⟨rfl, rfl, rfl, rfl, rfl⟩

end Scenario

end TenantTrust.Orchestration
