import TenantTrust.Identity.Certificates

/-! Step-up proofs and their single consumption. -/

namespace TenantTrust.Audit

open Library Identity

structure StepUpProof where
  tenantId : TenantId
  subjectId : SubjectId
  proofIdHashSha256 : Sha256Digest
  action : String
  sessionIdHashSha256 : Sha256Digest
  verifiedAt : Timestamp
  expiresAt : Timestamp
  consumedAt : Option Timestamp
  consumedByRequestId : Option RequestId
  deriving DecidableEq, Repr

def StepUpProof.key (proof : StepUpProof) : TenantId × Sha256Digest :=
  (proof.tenantId, proof.proofIdHashSha256)

/-- The arguments of `audit.consume_step_up_proof`. -/
structure ProofPresentation where
  proofIdHashSha256 : Sha256Digest
  sessionIdHashSha256 : Sha256Digest
  action : String
  requestId : RequestId
  consumedAt : Timestamp
  deriving DecidableEq, Repr

def StepUpProof.consumable (session : Session) (p : ProofPresentation) (proof : StepUpProof) :
    Bool :=
  proof.subjectId = session.subjectId && proof.sessionIdHashSha256 = p.sessionIdHashSha256 &&
  proof.action = p.action && proof.consumedAt = none &&
  proof.verifiedAt ≤ p.consumedAt && p.consumedAt ≤ proof.expiresAt

/-- The proof that was consumed, if any, is the second component. -/
def consumeStepUpProof (session : Session) (p : ProofPresentation)
    (proofs : Table StepUpProof StepUpProof.key) :
    Except SqlError (Table StepUpProof StepUpProof.key × Option StepUpProof) := do
  require (session.actorIsActive ∧ p.consumedAt ≤ session.clock + seconds 2)
    (.raised "Step-up proof consumption denied.")
  match (proofs.get? (session.tenantId, p.proofIdHashSha256)).filter
      (StepUpProof.consumable session p) with
  | none => return (proofs, none)
  | some proof =>
      return (proofs.replace { proof with
        consumedAt := some p.consumedAt
        consumedByRequestId := some p.requestId }, some proof)

end TenantTrust.Audit
