import TenantTrust.Audit.StepUp

/-! Step-up factors, challenges and the proofs that answered challenges yield. -/

namespace TenantTrust.Audit

open Library Identity

abbrev StepUpFactorId := Identifier .stepUpFactor

abbrev StepUpChallengeId := Identifier .stepUpChallenge

variable {PublicKey : Type}

structure StepUpFactor (PublicKey : Type) where
  tenantId : TenantId
  subjectId : SubjectId
  factorId : StepUpFactorId
  publicKey : PublicKey
  active : Bool
  deriving DecidableEq

def StepUpFactor.key (factor : StepUpFactor PublicKey) : TenantId × SubjectId × StepUpFactorId :=
  (factor.tenantId, factor.subjectId, factor.factorId)

/-- A challenge is `verified` exactly when it has a verification time. -/
structure StepUpChallenge where
  tenantId : TenantId
  subjectId : SubjectId
  challengeId : StepUpChallengeId
  factorId : StepUpFactorId
  action : String
  nonce : Nat
  sessionIdHashSha256 : Sha256Digest
  issuedAt : Timestamp
  expiresAt : Timestamp
  verifiedAt : Option Timestamp
  deriving DecidableEq, Repr

def StepUpChallenge.key (challenge : StepUpChallenge) : TenantId × StepUpChallengeId :=
  (challenge.tenantId, challenge.challengeId)

/-- The column `challenge_id` of `step_up_proofs`, which no consumption reads. -/
structure ProofChallenge where
  tenantId : TenantId
  proofIdHashSha256 : Sha256Digest
  challengeId : StepUpChallengeId
  deriving DecidableEq, Repr

def ProofChallenge.key (row : ProofChallenge) : TenantId × Sha256Digest :=
  (row.tenantId, row.proofIdHashSha256)

structure StepUpStore (PublicKey : Type) where
  factors : Table (StepUpFactor PublicKey) StepUpFactor.key
  challenges : Table StepUpChallenge StepUpChallenge.key
  proofChallenges : Table ProofChallenge ProofChallenge.key
  proofs : Table StepUpProof StepUpProof.key

/-- The actions in the constraints of challenges and proofs. -/
def challengeActions : List String := ["record:export", "tenant:admin"]

/-- The arguments of `audit.issue_step_up_challenge`. -/
structure ChallengeIssue where
  challengeId : StepUpChallengeId
  factorId : StepUpFactorId
  action : String
  nonce : Nat
  sessionIdHashSha256 : Sha256Digest
  issuedAt : Timestamp
  expiresAt : Timestamp
  deriving DecidableEq, Repr

def ChallengeIssue.challenge (p : ChallengeIssue) (session : Session) : StepUpChallenge where
  tenantId := session.tenantId
  subjectId := session.subjectId
  challengeId := p.challengeId
  factorId := p.factorId
  action := p.action
  nonce := p.nonce
  sessionIdHashSha256 := p.sessionIdHashSha256
  issuedAt := p.issuedAt
  expiresAt := p.expiresAt
  verifiedAt := none

def StepUpStore.factor? (store : StepUpStore PublicKey) (session : Session)
    (factorId : StepUpFactorId) : Option (StepUpFactor PublicKey) :=
  (store.factors.get? (session.tenantId, session.subjectId, factorId)).filter StepUpFactor.active

def issueStepUpChallenge (session : Session) (p : ChallengeIssue)
    (store : StepUpStore PublicKey) : Except SqlError (StepUpStore PublicKey × StepUpChallenge) :=
  do
  require (session.actorIsActive ∧ p.action ∈ challengeActions ∧
      p.issuedAt ≤ session.clock + seconds 2 ∧ session.clock - minutes 5 ≤ p.issuedAt ∧
      p.issuedAt < p.expiresAt ∧ p.expiresAt ≤ p.issuedAt + seconds 120 ∧
      (store.factor? session p.factorId).isSome)
    (.raised "Step-up challenge issuance denied.")
  let challenges ← requireSome (store.challenges.insertNew (p.challenge session))
    (.uniqueViolation "step_up_challenges_pk")
  return ({ store with challenges := challenges }, p.challenge session)

/-- An issued challenge of the actor with the public key of its factor. -/
def getStepUpChallenge (session : Session) (challengeId : StepUpChallengeId)
    (store : StepUpStore PublicKey) : Except SqlError (Option (StepUpChallenge × PublicKey)) := do
  require session.actorIsActive (.raised "Step-up challenge lookup denied.")
  return do
    let challenge ← (store.challenges.get? (session.tenantId, challengeId)).filter fun challenge =>
      challenge.subjectId = session.subjectId && challenge.verifiedAt = none &&
      session.clock ≤ challenge.expiresAt
    let factor ← store.factor? session challenge.factorId
    return (challenge, factor.publicKey)

/-- The arguments of `audit.complete_step_up_challenge`. -/
structure ChallengeCompletion where
  challengeId : StepUpChallengeId
  proofIdHashSha256 : Sha256Digest
  verifiedAt : Timestamp
  expiresAt : Timestamp
  deriving DecidableEq, Repr

def ChallengeCompletion.proof (p : ChallengeCompletion) (session : Session)
    (challenge : StepUpChallenge) : StepUpProof where
  tenantId := session.tenantId
  subjectId := session.subjectId
  proofIdHashSha256 := p.proofIdHashSha256
  action := challenge.action
  sessionIdHashSha256 := challenge.sessionIdHashSha256
  verifiedAt := p.verifiedAt
  expiresAt := p.expiresAt
  consumedAt := none
  consumedByRequestId := none

def completeStepUpChallenge (session : Session) (p : ChallengeCompletion)
    (store : StepUpStore PublicKey) : Except SqlError (StepUpStore PublicKey × StepUpProof) := do
  let denied := SqlError.raised "Step-up challenge completion denied."
  let challenge ← requireSome ((store.challenges.get? (session.tenantId, p.challengeId)).filter
    fun challenge => challenge.subjectId = session.subjectId) denied
  require (challenge.verifiedAt = none ∧ challenge.issuedAt ≤ p.verifiedAt ∧
    p.verifiedAt ≤ challenge.expiresAt ∧ p.verifiedAt ≤ session.clock + seconds 2 ∧
    p.verifiedAt < p.expiresAt ∧ p.expiresAt ≤ p.verifiedAt + seconds 300) denied
  let proof := p.proof session challenge
  let proofs ← requireSome (store.proofs.insertNew proof) (.uniqueViolation "step_up_proofs_pk")
  require (∀ row ∈ store.proofChallenges.rows, ¬ (row.tenantId = session.tenantId ∧
    row.challengeId = p.challengeId)) (.uniqueViolation "step_up_proofs_challenge_unique")
  let proofChallenges ← requireSome (store.proofChallenges.insertNew
      ⟨session.tenantId, p.proofIdHashSha256, p.challengeId⟩)
    (.uniqueViolation "step_up_proofs_pk")
  return ({ store with
    challenges := store.challenges.upsert { challenge with verifiedAt := some p.verifiedAt }
    proofChallenges := proofChallenges
    proofs := proofs }, proof)

/-- Consumption on the whole store. -/
def consumeProof (session : Session) (p : ProofPresentation) (store : StepUpStore PublicKey) :
    Except SqlError (StepUpStore PublicKey × Option StepUpProof) := do
  let (proofs, consumed) ← consumeStepUpProof session p store.proofs
  return ({ store with proofs := proofs }, consumed)

end TenantTrust.Audit
