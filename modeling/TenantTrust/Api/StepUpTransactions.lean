import TenantTrust.Api.StepUpAuthentication
import TenantTrust.Audit.StepUpStoreChanges

/-! Step-up authentication under concurrent transactions: calls that issue a challenge, verify a
signature or present a proof run statement by statement, and end in a commit or a rollback. -/

namespace TenantTrust.Api

open Library Identity Audit Policy Orchestration

variable {PublicKey Signature : Type}

/-- The calls that work with step-up authentication. `audit.authorize_security_recovery` consumes
a proof like a request. -/
inductive StepUpCall (Signature : Type) where
  | issue (call : ActorCall) (action : PolicyAction) (factorId : StepUpFactorId)
      (random : ChallengeRandomness)
  | verify (call : ActorCall) (challengeId : StepUpChallengeId) (signature : Signature)
      (proofIdHashSha256 : Sha256Digest)
  | request (r : ProtectedRequest)
  | recover (tenantId : TenantId) (subjectId : SubjectId) (p : ProofPresentation)

namespace StepUpCall

/-- The actor that `identity.set_tenant_actor_context` binds for the transaction. -/
def actor : StepUpCall Signature → TenantId × SubjectId
  | .issue call _ _ _ => (call.authentication.tenantId, call.authentication.subjectId)
  | .verify call _ _ _ => (call.authentication.tenantId, call.authentication.subjectId)
  | .request r => (r.authentication.tenantId, r.authentication.subjectId)
  | .recover tenantId subjectId _ => (tenantId, subjectId)

/-- What the database observes while a statement of the call runs. -/
def session (call : StepUpCall Signature) (observed : Session) : Session :=
  { observed with tenantId := call.actor.1, subjectId := call.actor.2 }

end StepUpCall

/-- How far a transaction has come. -/
inductive StepUpStage where
  | bound
  | entered (context : TenantContext) (state : RequestState)
  | answered (state : RequestState)
  | presented (context : TenantContext) (state : RequestState) (eligibility : RoleActionRule)
      (stepUp : Option StepUpInput)
  | decided (evaluation : Evaluation)
  | done

def StepUpStage.finished : StepUpStage → Bool
  | .decided _ | .done => true
  | .bound | .entered _ _ | .answered _ | .presented _ _ _ _ => false

structure StepUpTransaction (Signature : Type) where
  connection : Nat
  call : StepUpCall Signature
  stage : StepUpStage
  writes : StepUpWrites

/-- The consumption of a presented proof, with the row that it writes. -/
def consumePresentation (session : Session) (p : ProofPresentation)
    (store : StepUpStore PublicKey) : Except ApiError (StepUpProof × StepUpWrites) := do
  let (proofs, consumed) ← liftSql (consumeStepUpProof session p store.proofs)
  let proof ← requireSome consumed .accessDenied
  return (proof, ⟨none, none, proofs.get? proof.key⟩)

/-- The next statement of a transaction, on the committed rows. -/
def StepUpTransaction.advance (verify : PublicKey → SigningPayload → Signature → Bool)
    (t : StepUpTransaction Signature) (observed : Session) (store : StepUpStore PublicKey) :
    Except ApiError (StepUpStage × StepUpWrites) :=
  let session := t.call.session observed
  match t.stage, t.call with
  | .entered context state, .issue call action factorId random => do
      let _ ← evaluateAuthorizationMode context action
      let issue ← liftStepUp
        (createStepUpChallengeMaterial action factorId call.times.stepUpAt random)
      assertFresh state call.times.operationAt
      let (_, challenge) ← liftSql (issueStepUpChallenge session issue store)
      return (.done, ⟨some challenge, none, none⟩)
  | .entered context state, .verify call challengeId signature _ => do
      assertFresh state call.times.provenanceAt
      let found ← liftSql (getStepUpChallenge session challengeId store)
      let (challenge, publicKey) ← requireSome found .accessDenied
      require (challenge.tenantId = context.tenantId ∧ challenge.subjectId = context.subjectId)
        .accessDenied
      let _ ← liftStepUp (verifyStepUpChallengeSignature verify challenge publicKey signature)
      return (.answered state, .nothing)
  | .answered state, .verify call challengeId _ proofIdHashSha256 => do
      let completion :=
        createStepUpProofMaterial challengeId proofIdHashSha256 call.times.stepUpAt
      assertFresh state call.times.operationAt
      let (after, proof) ← liftSql (completeStepUpChallenge session completion store)
      return (.done, ⟨after.challenges.get? (session.tenantId, challengeId),
        some ⟨session.tenantId, proofIdHashSha256, challengeId⟩, some proof⟩)
  | .entered context state, .request r => do
      let eligibility ← evaluateAuthorizationMode context r.action
      match if r.sensitive then r.policyRequest.stepUpPresentation else none with
      | none => return (.presented context state eligibility none, .nothing)
      | some presented => do
          assertFresh state r.times.consumptionAt
          let (proof, writes) ← consumePresentation session (r.presentation presented) store
          return (.presented context state eligibility (some (stepUpInput proof)), writes)
  | .presented context state eligibility stepUp, .request r => do
      let evaluation ← decide r.environment r.authentication context state eligibility r.action
        r.policyRequest stepUp
      assertFresh state r.times.provenanceAt
      return (.decided evaluation, t.writes)
  | .bound, .recover _ _ p => do
      let (_, writes) ← consumePresentation session p store
      return (.done, writes)
  | _, _ => .error .accessDenied

/-- The committed rows, the open transactions, the signatures that the holders of keys have made,
with their times, and the transactions that were committed. -/
structure StepUpDeployment (PublicKey Signature : Type) where
  inventory : Inventory
  store : StepUpStore PublicKey
  transactions : Table (StepUpTransaction Signature) StepUpTransaction.connection
  signatures : List (PublicKey × SigningPayload × Timestamp)
  committed : List (StepUpTransaction Signature)

inductive StepUpOp (PublicKey Signature : Type) where
  | sign (publicKey : PublicKey) (payload : SigningPayload) (at_ : Timestamp)
  | enroll (factor : StepUpFactor PublicKey)
  | changeInventory (inventory : Inventory)
  | begin (connection : Nat) (call : StepUpCall Signature)
  | statement (connection : Nat) (observed : Session)
  | commit (connection : Nat)
  | rollback (connection : Nat)

/-- An operation that cannot run now. -/
inductive StepUpFailure where
  | waits
  | noTransaction
  deriving DecidableEq, Repr

/-- A failed call ends its transaction. -/
inductive StepUpReply where
  | done
  | aborted (failure : ApiError)
  deriving DecidableEq, Repr

namespace StepUpDeployment

variable (d : StepUpDeployment PublicKey Signature)

def put (t : StepUpTransaction Signature) : StepUpDeployment PublicKey Signature :=
  { d with transactions := d.transactions.upsert t }

def drop (connection : Nat) : StepUpDeployment PublicKey Signature :=
  { d with transactions := d.transactions.delete connection }

/-- The tenant context of the call; a recovery is bound by its caller. -/
def enter (call : StepUpCall Signature) : Except ApiError StepUpStage :=
  let enterActor := fun actor : ActorCall => do
    let (context, state) ← actor.enter d.inventory
    return StepUpStage.entered context state
  match call with
  | .issue actor _ _ _ => enterActor actor
  | .verify actor _ _ _ => enterActor actor
  | .request r => enterActor r.call
  | .recover _ _ _ => return .bound

def begin (connection : Nat) (call : StepUpCall Signature) :
    Except StepUpFailure (StepUpDeployment PublicKey Signature × StepUpReply) := do
  require (d.transactions.get? connection = none) .waits
  match d.enter call with
  | .ok stage => return (d.put ⟨connection, call, stage, .nothing⟩, .done)
  | .error failure => return (d, .aborted failure)

def statement (verify : PublicKey → SigningPayload → Signature → Bool)
    (t : StepUpTransaction Signature) (observed : Session) :
    Except StepUpFailure (StepUpDeployment PublicKey Signature × StepUpReply) := do
  require (t.stage.finished = false) .waits
  match t.advance verify observed d.store with
  | .error failure => return (d.drop t.connection, .aborted failure)
  | .ok (stage, writes) => do
      require (∀ other ∈ d.transactions, other.connection ≠ t.connection →
        writes.conflicts other.writes = false) .waits
      return (d.put { t with stage := stage, writes := writes }, .done)

def commit (t : StepUpTransaction Signature) :
    Except StepUpFailure (StepUpDeployment PublicKey Signature × StepUpReply) := do
  require (t.stage.finished = true) .waits
  return ({ d.drop t.connection with
    store := d.store.write t.writes
    committed := d.committed ++ [t] }, .done)

def rollback (t : StepUpTransaction Signature) :
    Except StepUpFailure (StepUpDeployment PublicKey Signature × StepUpReply) :=
  return (d.drop t.connection, .done)

/-- `identity.enroll_step_up_factor`, once its checks have passed. -/
def enroll (factor : StepUpFactor PublicKey) :
    Except StepUpFailure (StepUpDeployment PublicKey Signature × StepUpReply) :=
  match d.store.factors.insertNew factor with
  | some factors => return ({ d with store := { d.store with factors := factors } }, .done)
  | none => return (d, .aborted (.database (.uniqueViolation "step_up_factors_pk")))

end StepUpDeployment

def applyStepUp (verify : PublicKey → SigningPayload → Signature → Bool) :
    Transaction (StepUpDeployment PublicKey Signature) (StepUpOp PublicKey Signature) StepUpReply
      StepUpFailure
  | .sign publicKey payload at_, d =>
      return ({ d with signatures := d.signatures ++ [(publicKey, payload, at_)] }, .done)
  | .enroll factor, d => d.enroll factor
  | .changeInventory inventory, d => return ({ d with inventory := inventory }, .done)
  | .begin connection call, d => d.begin connection call
  | .statement connection observed, d => do
      let t ← requireSome (d.transactions.get? connection) .noTransaction
      d.statement verify t observed
  | .commit connection, d => do
      let t ← requireSome (d.transactions.get? connection) .noTransaction
      d.commit t
  | .rollback connection, d => do
      let t ← requireSome (d.transactions.get? connection) .noTransaction
      d.rollback t

abbrev runStepUp (verify : PublicKey → SigningPayload → Signature → Bool) :
    StepUpDeployment PublicKey Signature → List (StepUpOp PublicKey Signature) →
      StepUpDeployment PublicKey Signature :=
  Transaction.run (applyStepUp verify)

/-- Signatures cannot be forged: what a call submits was made by the holder of the key before. -/
def Unforged (verify : PublicKey → SigningPayload → Signature → Bool)
    (d : StepUpDeployment PublicKey Signature) : StepUpOp PublicKey Signature → Prop
  | .begin _ (.verify _ _ signature _) => ∀ publicKey payload,
      verify publicKey payload signature = true → ∃ at_, (publicKey, payload, at_) ∈ d.signatures
  | _ => True

/-- Nobody has asked for a challenge yet. -/
structure StepUpDeployment.Fresh (d : StepUpDeployment PublicKey Signature) : Prop where
  challenges : d.store.challenges = Table.empty
  proofChallenges : d.store.proofChallenges = Table.empty
  proofs : d.store.proofs = Table.empty
  transactions : d.transactions = Table.empty
  committed : d.committed = []

end TenantTrust.Api
