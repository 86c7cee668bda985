import TenantTrust.Audit.EventTimes
import TenantTrust.Audit.FabricOutbox
import TenantTrust.Library.Checked
import Mathlib.Data.List.Sort

/-! The verifier of an audit trail: it recomputes the commitments of a bundle of events, compares
them with the ledger, and checks the links between the events. -/

namespace TenantTrust.Audit

open Library Identity Orchestration

/-- An event document and the members that the verifier reads. -/
structure CausalEvent where
  document : String
  eventId : EventId
  tenantId : TenantId
  subjectId : Option SubjectId
  correlationId : CorrelationId
  causationId : Option EventId
  occurredAt : EventTime
  payload : AuditEventPayload
  deriving DecidableEq, Repr

def CausalEvent.eventType (event : CausalEvent) : AuditEventType :=
  match event.payload with
  | .certificate kind _ => .certificate kind
  | .trust _ => .trustUpdated
  | .policy kind _ => .policy kind
  | .decision _ => .accessDecided
  | .securityAction status _ => .securityAction status

/-- The schemas of the events, their canonical text and the digests. -/
structure CommitmentScheme where
  schemaAccepts : CausalEvent → Bool
  canonicalPreimage : String → CausalEvent → String
  eventKeyHash : String → TenantId → EventId → Sha256Digest
  commitmentHash : String → Sha256Digest

structure AuditCommitment where
  canonicalPreimageJson : String
  ledgerKey : LedgerKey
  ledgerValue : AuditLedgerValue
  deriving DecidableEq, Repr

structure VerificationRecord where
  tenantId : TenantId
  eventId : EventId
  channelName : String
  event : CausalEvent
  canonicalPreimageJson : String
  ledgerKey : LedgerKey
  ledgerValue : AuditLedgerValue
  deliveryStatus : AuditOutboxState
  transactionId : Option TransactionId
  validationCode : Option ℤ
  blockNumber : Option ℤ
  deriving DecidableEq, Repr

structure EvidenceAnchor where
  transitionId : TransitionId
  subjectId : SubjectId
  evidenceId : Identifier .evidence
  evidenceEventId : EventId
  evidenceCorrelationId : CorrelationId
  deriving DecidableEq, Repr

structure VerificationBundle where
  tenantId : TenantId
  correlationId : CorrelationId
  records : List VerificationRecord
  evidenceAnchors : List EvidenceAnchor
  deriving DecidableEq, Repr

def VerificationBundle.events (bundle : VerificationBundle) : List CausalEvent :=
  bundle.records.map VerificationRecord.event

/-- What a reader of the ledger of the channel answers. -/
abbrev CommitmentReader := TenantId → AuditRecordType → Sha256Digest → Option AuditLedgerValue

def maximumSafeInteger : ℤ := 9007199254740991

section Commitments

variable (scheme : CommitmentScheme)

def buildAuditCommitment (channelName : String) (event : CausalEvent) :
    Except String AuditCommitment := do
  require (isAuditChannel channelName) "channelName must be a versioned tenant audit channel name"
  require (scheme.schemaAccepts event) "Selected audit event failed its canonical schema"
  let canonicalPreimageJson := scheme.canonicalPreimage channelName event
  let recordType := auditEventSelections event.eventType
  let eventKeyHash := scheme.eventKeyHash channelName event.tenantId event.eventId
  return ⟨canonicalPreimageJson, ⟨recordType, eventKeyHash⟩,
    ⟨recordType, eventKeyHash, scheme.commitmentHash canonicalPreimageJson⟩⟩

def verifyAuditCommitment (channelName : String) (event : CausalEvent) (ledgerKey : LedgerKey)
    (ledgerValue : AuditLedgerValue) : Bool :=
  match buildAuditCommitment scheme channelName event with
  | .ok expected => ledgerKey = expected.ledgerKey && ledgerValue = expected.ledgerValue
  | .error _ => false

/-- The record is one of this tenant and correlation, and its commitment was delivered. -/
def VerificationRecord.durable (record : VerificationRecord) (tenantId : TenantId)
    (correlationId : CorrelationId) : Bool :=
  record.tenantId = tenantId && record.eventId = record.event.eventId &&
  record.event.tenantId = tenantId && record.event.correlationId = correlationId &&
  isAuditChannel record.channelName && record.deliveryStatus = .committed &&
  record.transactionId.isSome && record.validationCode = some 0 &&
  record.blockNumber.any fun block => 0 ≤ block && block ≤ maximumSafeInteger

def validateDurableRecord (record : VerificationRecord) (tenantId : TenantId)
    (correlationId : CorrelationId) : Except String AuditCommitment := do
  require (record.durable tenantId correlationId)
    (if record.deliveryStatus = .committed then "VERIFICATION_SOURCE_INVALID"
      else "AUDIT_DELIVERY_NOT_COMMITTED")
  let expected ← (buildAuditCommitment scheme record.channelName record.event).mapError
    fun _ => "OFFCHAIN_COMMITMENT_MISMATCH"
  require (record.canonicalPreimageJson = expected.canonicalPreimageJson ∧
      record.ledgerKey = expected.ledgerKey ∧ record.ledgerValue = expected.ledgerValue ∧
      verifyAuditCommitment scheme record.channelName record.event record.ledgerKey
        record.ledgerValue = true)
    "OFFCHAIN_COMMITMENT_MISMATCH"
  return expected

structure VerifiedEvent where
  eventId : EventId
  eventType : AuditEventType
  recordType : AuditRecordType
  transactionId : Option TransactionId
  blockNumber : Option ℤ
  deriving DecidableEq, Repr

def verifyRecord (readCommitment : CommitmentReader) (tenantId : TenantId)
    (correlationId : CorrelationId) (record : VerificationRecord) :
    Except String VerifiedEvent := do
  let expected ← validateDurableRecord scheme record tenantId correlationId
  let ledgerValue ← requireSome
    (readCommitment tenantId expected.ledgerValue.recordType
      expected.ledgerValue.eventKeyHashSha256) "LEDGER_COMMITMENT_UNAVAILABLE"
  require (ledgerValue = expected.ledgerValue ∧
      verifyAuditCommitment scheme record.channelName record.event expected.ledgerKey ledgerValue
        = true)
    "LEDGER_COMMITMENT_MISMATCH"
  return ⟨record.eventId, record.event.eventType, expected.ledgerValue.recordType,
    record.transactionId, record.blockNumber⟩

end Commitments

section Links

variable (events : List CausalEvent) (evidenceAnchors : List EvidenceAnchor)

def oneBy (predicate : CausalEvent → Bool) (reasonCode : String) : Except String CausalEvent :=
  match events.filter predicate with
  | [only] => .ok only
  | _ => .error reasonCode

def eventById (eventId : EventId) : Option CausalEvent :=
  events.find? fun event => event.eventId = eventId

def isAnchored (eventId : EventId) : Bool :=
  evidenceAnchors.any fun anchor => anchor.evidenceEventId = eventId

def verifyCausation (event : CausalEvent) : Except String Unit :=
  match event.causationId with
  | none => .ok ()
  | some causationId => do
      require ((eventById events causationId).isSome || isAnchored evidenceAnchors causationId)
        "CAUSATION_LINK_MISSING"
      require ((eventById events causationId).all fun cause =>
          !parsesLater cause.occurredAt event.occurredAt)
        "CAUSATION_TIME_INVALID"

def CausalEvent.isTransition (transitionId : TransitionId) (event : CausalEvent) : Bool :=
  match event.payload with
  | .trust payload => payload.transitionId = transitionId
  | _ => false

def CausalEvent.newScore? (event : CausalEvent) : Option ℚ :=
  match event.payload with
  | .trust payload => some payload.newScore
  | _ => none

def CausalEvent.activatesPolicy (policyVersionId : Nat) (event : CausalEvent) : Bool :=
  match event.payload with
  | .policy .activated payload =>
      payload.policyVersionId = policyVersionId && payload.state = .active
  | _ => false

def CausalEvent.concernsCertificate (certificateId : CertificateId) (event : CausalEvent) : Bool :=
  match event.payload with
  | .certificate _ payload => payload.certificateId = certificateId
  | _ => false

def CausalEvent.activatesCertificate (certificateId : CertificateId) (event : CausalEvent) :
    Bool :=
  match event.payload with
  | .certificate _ payload => payload.certificateId = certificateId && payload.state = .active
  | _ => false

def CausalEvent.decides (decisionId : DecisionId) (event : CausalEvent) : Bool :=
  match event.payload with
  | .decision payload => payload.decisionId = decisionId
  | _ => false

/-- The count of evidence links of a trust transition; other events have none. -/
def verifyEvidence (event : CausalEvent) : Except String Nat :=
  match event.payload with
  | .trust payload => do
      let anchors := evidenceAnchors.filter fun anchor =>
        anchor.transitionId = payload.transitionId
      require ((anchors.map EvidenceAnchor.evidenceId).insertionSort (· ≤ ·) =
            payload.evidenceIds.insertionSort (· ≤ ·) ∧
          (∀ anchor ∈ anchors, some anchor.subjectId = event.subjectId) ∧
          ∃ anchor ∈ anchors, some anchor.evidenceEventId = event.causationId)
        "EVIDENCE_LINK_INVALID"
      return anchors.length
  | _ => .ok 0

structure DecisionLinks where
  trust : Nat
  policy : Nat
  certificate : Nat
  deriving DecidableEq, Repr

def verifyTrustLink (decision : CausalEvent) (payload : DecisionEventPayload) :
    Except String Nat :=
  match payload.trustTransitionId with
  | none => .ok 0
  | some transitionId => do
      let trust ← oneBy events (CausalEvent.isTransition transitionId)
        "TRUST_TRANSITION_LINK_INVALID"
      require (trust.subjectId = decision.subjectId ∧
          trust.newScore? = some payload.trustScore ∧
          parsesLater trust.occurredAt decision.occurredAt = false)
        "TRUST_TRANSITION_LINK_INVALID"
      return 1

/-- The counts of links of a decision; other events have none. -/
def verifyDecision (event : CausalEvent) : Except String DecisionLinks :=
  match event.payload with
  | .decision payload => do
      let trust ← verifyTrustLink events event payload
      let policy ← oneBy events (CausalEvent.activatesPolicy payload.policyVersionId)
        "POLICY_LINK_INVALID"
      require (parsesLater policy.occurredAt event.occurredAt = false) "POLICY_LINK_INVALID"
      let certificate ← oneBy events (CausalEvent.activatesCertificate payload.certificateId)
        "CERTIFICATE_LINK_INVALID"
      require (certificate.subjectId = event.subjectId) "CERTIFICATE_LINK_INVALID"
      require (parsesLater certificate.occurredAt event.occurredAt = false)
        "CERTIFICATE_LINK_INVALID"
      return ⟨trust, 1, 1⟩
  | _ => .ok ⟨0, 0, 0⟩

structure ActionLinks where
  decision : Nat
  certificateAction : Nat
  deriving DecidableEq, Repr

def CausalEvent.decidedCertificate? (event : CausalEvent) : Option CertificateId :=
  match event.payload with
  | .decision payload => some payload.certificateId
  | _ => none

/-- The counts of links of a security action; other events have none. -/
def verifyAction (event : CausalEvent) : Except String ActionLinks :=
  match event.payload with
  | .securityAction _ payload => do
      let decision ← oneBy events (CausalEvent.decides payload.decisionId)
        "DECISION_ACTION_LINK_INVALID"
      require (event.causationId = some decision.eventId ∧
          event.subjectId = decision.subjectId)
        "DECISION_ACTION_LINK_INVALID"
      match payload.targetCertificateId with
      | none => return ⟨1, 0⟩
      | some targetCertificateId =>
          require (some targetCertificateId = decision.decidedCertificate?)
            "CERTIFICATE_ACTION_LINK_INVALID"
          let _ ← oneBy events (CausalEvent.concernsCertificate targetCertificateId)
            "CERTIFICATE_ACTION_LINK_INVALID"
          return ⟨1, 1⟩
  | _ => .ok ⟨0, 0⟩

structure LinkCounts where
  evidence : Nat
  trustTransition : Nat
  policy : Nat
  decision : Nat
  certificate : Nat
  certificateAction : Nat
  deriving DecidableEq, Repr

def verifyLinks : Except String LinkCounts := do
  require (events.map CausalEvent.eventId).Nodup "DUPLICATE_EVENT_ID"
  events.forM (verifyCausation events evidenceAnchors)
  let evidence ← events.mapM (verifyEvidence evidenceAnchors)
  let decisions ← events.mapM (verifyDecision events)
  let actions ← events.mapM (verifyAction events)
  let counts : LinkCounts := {
    evidence := evidence.sum
    trustTransition := (decisions.map DecisionLinks.trust).sum
    policy := (decisions.map DecisionLinks.policy).sum
    decision := (actions.map ActionLinks.decision).sum
    certificate := (decisions.map DecisionLinks.certificate).sum
    certificateAction := (actions.map ActionLinks.certificateAction).sum }
  require (counts.evidence ≠ 0 ∧ counts.trustTransition ≠ 0 ∧ counts.policy ≠ 0 ∧
      counts.decision ≠ 0 ∧ counts.certificateAction ≠ 0)
    "CAUSAL_CHAIN_INCOMPLETE"
  return counts

end Links

structure VerificationReport where
  tenantId : TenantId
  correlationId : CorrelationId
  eventCount : Nat
  commitmentCount : Nat
  links : LinkCounts
  events : List VerifiedEvent
  deriving DecidableEq, Repr

/-- `createCausalAuditVerifier.verify` on the bundle that was loaded. -/
def verifyBundle (scheme : CommitmentScheme) (readCommitment : CommitmentReader)
    (tenantId : TenantId) (correlationId : CorrelationId) (bundle : VerificationBundle) :
    Except String VerificationReport := do
  require (bundle.tenantId = tenantId ∧ bundle.correlationId = correlationId ∧
      bundle.records ≠ [])
    "VERIFICATION_SOURCE_INVALID"
  let verifiedEvents ← bundle.records.mapM
    (verifyRecord scheme readCommitment tenantId correlationId)
  let links ← verifyLinks bundle.events bundle.evidenceAnchors
  return ⟨tenantId, correlationId, verifiedEvents.length, verifiedEvents.length, links,
    verifiedEvents⟩

end TenantTrust.Audit
