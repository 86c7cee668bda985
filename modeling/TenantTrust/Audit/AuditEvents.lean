import TenantTrust.Orchestration.Tables

/-! The events that are selected for audit commitment, and what a commitment puts on the ledger. -/

namespace TenantTrust.Audit

open Library Identity Orchestration

inductive AuditRecordType where
  | accessDecision | certificateLifecycle | policyChange | securityAction | trustTransition
  deriving DecidableEq, Repr

def AuditRecordType.text : AuditRecordType → String
  | .accessDecision => "access-decision"
  | .certificateLifecycle => "certificate-lifecycle"
  | .policyChange => "policy-change"
  | .securityAction => "security-action"
  | .trustTransition => "trust-transition"

inductive CertificateEventKind where
  | requested | issued | renewed | superseded | revoked | expired
  deriving DecidableEq, Repr

inductive PolicyEventKind where
  | published | activated | rolledBack
  deriving DecidableEq, Repr

inductive SecurityActionEventStatus where
  | requested | succeeded | failed
  deriving DecidableEq, Repr

inductive AuditEventType where
  | certificate (kind : CertificateEventKind)
  | trustUpdated
  | policy (kind : PolicyEventKind)
  | accessDecided
  | securityAction (status : SecurityActionEventStatus)
  deriving DecidableEq, Repr

/-- `AUDIT_EVENT_SELECTIONS` -/
def auditEventSelections : AuditEventType → AuditRecordType
  | .certificate _ => .certificateLifecycle
  | .trustUpdated => .trustTransition
  | .policy _ => .policyChange
  | .accessDecided => .accessDecision
  | .securityAction _ => .securityAction

inductive CertificateEventState where
  | requested | active | superseded | revoked | expired
  deriving DecidableEq, Repr

inductive PolicyBundleState where
  | published | active | superseded
  deriving DecidableEq, Repr

structure CertificateEventPayload where
  certificateId : CertificateId
  state : CertificateEventState
  deriving DecidableEq, Repr

structure TrustEventPayload where
  transitionId : TransitionId
  newScore : ℚ
  evidenceIds : List (Identifier .evidence)
  deriving DecidableEq, Repr

structure PolicyEventPayload where
  policyVersionId : Nat
  state : PolicyBundleState
  deriving DecidableEq, Repr

structure DecisionEventPayload where
  decisionId : DecisionId
  certificateId : CertificateId
  trustTransitionId : Option TransitionId
  trustScore : ℚ
  policyVersionId : Nat
  deriving DecidableEq, Repr

structure SecurityActionEventPayload where
  actionId : ActionId
  decisionId : DecisionId
  actionType : SecurityActionType
  status : SecurityActionEventStatus
  targetCertificateId : Option CertificateId
  reasonCode : String
  authorityClass : ActionAuthorityClass
  attemptNumber : Nat
  recoveryAuthorizationId : Option RecoveryAuthorizationId
  recoveryTrustTransitionId : Option TransitionId
  authorizedBySubjectId : Option SubjectId
  causeResolutionReference : Option String
  externalReference : Option ExternalReference
  certificateEventId : Option EventId
  failureCode : Option String
  deriving DecidableEq, Repr

/-- The payload of an event together with the type that selects its schema. -/
inductive AuditEventPayload where
  | certificate (kind : CertificateEventKind) (payload : CertificateEventPayload)
  | trust (payload : TrustEventPayload)
  | policy (kind : PolicyEventKind) (payload : PolicyEventPayload)
  | decision (payload : DecisionEventPayload)
  | securityAction (status : SecurityActionEventStatus) (payload : SecurityActionEventPayload)
  deriving DecidableEq, Repr

inductive AggregateId where
  | certificate (certificateId : CertificateId)
  | trustTransition (transitionId : TransitionId)
  | policyVersion (policyVersionId : Nat)
  | decision (decisionId : DecisionId)
  | action (actionId : ActionId)
  deriving DecidableEq, Repr

inductive EventIdempotencyKey where
  | securityActionAudit (actionId : ActionId) (status : SecurityActionEventStatus)
      (attemptNumber : Nat)
  | other (text : String)
  deriving DecidableEq, Repr

structure Producer where
  service : String
  instanceId : String
  deriving DecidableEq, Repr

structure AuditEvent where
  eventId : EventId
  tenantId : TenantId
  subjectId : Option SubjectId
  aggregateId : AggregateId
  correlationId : CorrelationId
  causationId : Option EventId
  idempotencyKey : EventIdempotencyKey
  occurredAt : Timestamp
  recordedAt : Timestamp
  producer : Producer
  payload : AuditEventPayload
  deriving DecidableEq, Repr

def AuditEvent.eventType (event : AuditEvent) : AuditEventType :=
  match event.payload with
  | .certificate kind _ => .certificate kind
  | .trust _ => .trustUpdated
  | .policy kind _ => .policy kind
  | .decision _ => .accessDecided
  | .securityAction status _ => .securityAction status

/-- What the chaincode answers to a commitment. -/
inductive SubmissionStatus where
  | created | duplicate
  deriving DecidableEq, Repr

/-- The fields of a ledger value that are not fixed by its schema version. -/
structure AuditLedgerValue where
  recordType : AuditRecordType
  eventKeyHashSha256 : Sha256Digest
  commitmentHashSha256 : Sha256Digest
  deriving DecidableEq, Repr

/-- The key `audit~recordType~eventKeyHashSha256`. -/
structure LedgerKey where
  recordType : AuditRecordType
  eventKeyHashSha256 : Sha256Digest
  deriving DecidableEq, Repr

def AuditLedgerValue.key (value : AuditLedgerValue) : LedgerKey :=
  ⟨value.recordType, value.eventKeyHashSha256⟩

end TenantTrust.Audit
