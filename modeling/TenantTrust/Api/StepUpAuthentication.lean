import TenantTrust.Api.ProtectedOperation
import TenantTrust.Audit.StepUpChallenges

/-! Step-up authentication as the API offers it: a challenge is issued, its signature is verified,
and the proof is presented with a request. -/

namespace TenantTrust.Api

open Library Identity Audit Policy Orchestration

inductive StepUpAuthenticationError where
  | challengeInvalid
  | signatureInvalid
  deriving DecidableEq, Repr

namespace StepUpPolicy

def challengeLifetime : Int := seconds 120
def proofLifetime : Int := seconds 300
def supportedActions : List PolicyAction := [.recordExport, .tenantAdmin]

end StepUpPolicy

/-- What `randomUUID` and `randomBytes` return for a challenge. -/
structure ChallengeRandomness where
  challengeId : StepUpChallengeId
  nonce : Nat
  sessionIdHashSha256 : Sha256Digest
  deriving DecidableEq, Repr

def createStepUpChallengeMaterial (action : PolicyAction) (factorId : StepUpFactorId)
    (now : Timestamp) (random : ChallengeRandomness) :
    Except StepUpAuthenticationError ChallengeIssue := do
  require (action ∈ StepUpPolicy.supportedActions) .challengeInvalid
  return {
    challengeId := random.challengeId
    factorId := factorId
    action := action.text
    nonce := random.nonce
    sessionIdHashSha256 := random.sessionIdHashSha256
    issuedAt := now
    expiresAt := now + StepUpPolicy.challengeLifetime }

/-- The members of the document that the holder of a factor signs. -/
structure SigningPayload where
  action : String
  challengeId : StepUpChallengeId
  expiresAt : Timestamp
  factorId : StepUpFactorId
  issuedAt : Timestamp
  nonce : Nat
  sessionIdHashSha256 : Sha256Digest
  subjectId : SubjectId
  tenantId : TenantId
  deriving DecidableEq, Repr

def createStepUpSigningPayload (challenge : StepUpChallenge) :
    Except StepUpAuthenticationError SigningPayload := do
  require (challenge.action ∈ StepUpPolicy.supportedActions.map PolicyAction.text)
    .challengeInvalid
  return {
    action := challenge.action
    challengeId := challenge.challengeId
    expiresAt := challenge.expiresAt
    factorId := challenge.factorId
    issuedAt := challenge.issuedAt
    nonce := challenge.nonce
    sessionIdHashSha256 := challenge.sessionIdHashSha256
    subjectId := challenge.subjectId
    tenantId := challenge.tenantId }

variable {PublicKey Signature : Type}

/-- The signature check of the cryptography module is a parameter. -/
def verifyStepUpChallengeSignature (verify : PublicKey → SigningPayload → Signature → Bool)
    (challenge : StepUpChallenge) (publicKey : PublicKey) (signature : Signature) :
    Except StepUpAuthenticationError SigningPayload := do
  let payload ← createStepUpSigningPayload challenge
  require (verify publicKey payload signature) .signatureInvalid
  return payload

def createStepUpProofMaterial (challengeId : StepUpChallengeId)
    (proofIdHashSha256 : Sha256Digest) (now : Timestamp) : ChallengeCompletion where
  challengeId := challengeId
  proofIdHashSha256 := proofIdHashSha256
  verifiedAt := now
  expiresAt := now + StepUpPolicy.proofLifetime

/-- A call of the repository within a tenant context. -/
structure ActorCall where
  authentication : Authentication
  authority : Option Authority
  session : Session
  times : RequestTimes
  statusTimedOut : Bool

def ActorCall.actorSession (call : ActorCall) : Session :=
  { call.session with
    tenantId := call.authentication.tenantId
    subjectId := call.authentication.subjectId }

/-- What `withTenantContext` establishes before the operation. -/
def ActorCall.enter (call : ActorCall) (inventory : Inventory) :
    Except ApiError (TenantContext × RequestState) := do
  assertPresentedCertificate call.authentication
  let authority ← requireSome call.authority .accessDenied
  let context ← resolveTenantContext call.authentication.tenantId call.authentication.subjectId
    authority
  let state ← validateRequestState call.actorSession call.times call.statusTimedOut
    call.authentication context inventory
  return (context, state)

/-- The database with the tables of step-up authentication. -/
structure StepUpSystem (PublicKey : Type) where
  db : Database
  factors : Table (StepUpFactor PublicKey) StepUpFactor.key
  challenges : Table StepUpChallenge StepUpChallenge.key
  proofChallenges : Table ProofChallenge ProofChallenge.key

namespace StepUpSystem

def store (system : StepUpSystem PublicKey) : StepUpStore PublicKey :=
  ⟨system.factors, system.challenges, system.proofChallenges, system.db.stepUpProofs⟩

def withStore (system : StepUpSystem PublicKey) (store : StepUpStore PublicKey) :
    StepUpSystem PublicKey where
  db := { system.db with stepUpProofs := store.proofs }
  factors := store.factors
  challenges := store.challenges
  proofChallenges := store.proofChallenges

end StepUpSystem

/-- Every `StepUpAuthenticationError` is reported as `AccessDeniedError`. -/
def liftStepUp {α : Type} : Except StepUpAuthenticationError α → Except ApiError α
  | .ok value => .ok value
  | .error _ => .error .accessDenied

/-- `repository.issueStepUpChallenge`. The material is made at the step-up time of the call. -/
def issueChallenge (call : ActorCall) (action : PolicyAction) (factorId : StepUpFactorId)
    (random : ChallengeRandomness) (system : StepUpSystem PublicKey) :
    Except ApiError (StepUpSystem PublicKey × StepUpChallenge) := do
  let (context, state) ← call.enter system.db.inventory
  let _ ← evaluateAuthorizationMode context action
  let issue ← liftStepUp (createStepUpChallengeMaterial action factorId call.times.stepUpAt random)
  assertFresh state call.times.operationAt
  let (store, challenge) ← liftSql (issueStepUpChallenge call.actorSession issue system.store)
  return (system.withStore store, challenge)

/-- `repository.verifyStepUpChallenge` -/
def verifyChallenge (verify : PublicKey → SigningPayload → Signature → Bool) (call : ActorCall)
    (challengeId : StepUpChallengeId) (signature : Signature) (proofIdHashSha256 : Sha256Digest)
    (system : StepUpSystem PublicKey) : Except ApiError (StepUpSystem PublicKey × StepUpProof) := do
  let (context, state) ← call.enter system.db.inventory
  assertFresh state call.times.provenanceAt
  let found ← liftSql (getStepUpChallenge call.actorSession challengeId system.store)
  let (challenge, publicKey) ← requireSome found .accessDenied
  require (challenge.tenantId = context.tenantId ∧ challenge.subjectId = context.subjectId)
    .accessDenied
  let _ ← liftStepUp (verifyStepUpChallengeSignature verify challenge publicKey signature)
  let completion := createStepUpProofMaterial challengeId proofIdHashSha256 call.times.stepUpAt
  assertFresh state call.times.operationAt
  let (store, proof) ← liftSql (completeStepUpChallenge call.actorSession completion system.store)
  return (system.withStore store, proof)

/-- The operations of the API that the policy decides, with the routes that lead to them. -/
inductive ApiOperation where
  | getProfile | listRecords | getRecord | exportRecords | reviewMembership
  deriving DecidableEq, Repr

def ApiOperation.action : ApiOperation → PolicyAction
  | .getProfile => .profileRead
  | .listRecords | .getRecord => .recordRead
  | .exportRecords => .recordExport
  | .reviewMembership => .tenantAdmin

/-- Only a sensitive operation consumes a proof. -/
def ApiOperation.sensitive : ApiOperation → Bool
  | .getProfile | .listRecords | .getRecord => false
  | .exportRecords | .reviewMembership => true

def ProtectedRequest.call (r : ProtectedRequest) : ActorCall where
  authentication := r.authentication
  authority := r.authority
  session := r.session
  times := r.times
  statusTimedOut := r.statusTimedOut

/-- A request enters its tenant context like every other call. -/
theorem withTenantContext_eq (r : ProtectedRequest) (db : Database) :
    withTenantContext r db = (do
      let (context, state) ← r.call.enter db.inventory
      authorizeProtectedOperation r context state db) := by
  simp only [withTenantContext, ActorCall.enter, bind_assoc, pure_bind]
  rfl

end TenantTrust.Api
