import TenantTrust.Api.RequestState
import TenantTrust.Identity.CertificateLocks

/-! Requests of `withTenantContext` beside lifecycle calls, as transactions that run statement by
statement on the committed certificates. -/

namespace TenantTrust.Api

open Library Identity

def liftStatus {α : Type} : Except StatusDenial α → Except ApiError α
  | .ok value => .ok value
  | .error denial => .error denial.response

/-- The condition of `PRESENTED_CERTIFICATE_QUERY`. -/
def Authentication.presents (authentication : Authentication) (row : Certificate) : Bool :=
  row.tenantId = authentication.tenantId && row.subjectId = authentication.subjectId &&
  row.issuerId = authentication.certificate.issuerId &&
  row.profileId = authentication.certificate.profileId &&
  row.serialNumber = authentication.certificate.serialNumber &&
  row.fingerprintSha256 = authentication.certificate.fingerprintSha256 &&
  row.notBefore = authentication.certificate.notBefore &&
  row.notAfter = authentication.certificate.notAfter

/-- The part of `validate` before the status service is called. -/
def discoverCertificate (authentication : Authentication) (inventory : Inventory) :
    Except ApiError CertificateId := do
  assertPresentedCertificate authentication
  match presentedCertificates authentication inventory with
  | [] => .error .certificateNotAccepted
  | [discovered] => return discovered.certificateId
  | _ :: _ :: _ => .error .requestStateUnavailable

/-- The part of the status service before its query. -/
def checkValidity (presented : PresentedCertificate) (checkedAt : Timestamp) :
    Except StatusDenial Unit := do
  require (presented.notBefore ≤ checkedAt) .certificateNotYetValid
  require (checkedAt < presented.notAfter) .certificateExpired

/-- The part of the status service after its query. -/
def judgeRecord (record : Certificate) (observedAt checkedAt : Timestamp)
    (certificateId : CertificateId) (authentication : Authentication) :
    Except StatusDenial AcceptedStatus := do
  require (isPositiveVersion record.version ∧ record.tenantId = authentication.tenantId ∧
    record.certificateId = certificateId ∧ record.subjectId = authentication.subjectId ∧
    record.notBefore = authentication.certificate.notBefore ∧
    record.notAfter = authentication.certificate.notAfter) .statusSourceInvalid
  require (checkedAt - observedAt ≤ maximumSourceAge ∧
    -futureClockSkew ≤ checkedAt - observedAt) .statusSourceStale
  acceptState record observedAt checkedAt authentication.certificate.notAfter

def requestStateOf (context : TenantContext) (certificateId : CertificateId)
    (verdict : AcceptedStatus) : RequestState where
  certificateId := certificateId
  certificateStatusVersion := verdict.statusVersion
  authorityVersions := context.versions
  observedAt := verdict.statusObservedAt
  checkedAt := verdict.checkedAt
  validUntil := min (verdict.statusObservedAt + maximumSourceAge) verdict.cacheableUntil

/-- How far a request has come. A row that was found is locked until the transaction ends. -/
inductive RequestStage where
  | entered (context : TenantContext)
  | discovered (context : TenantContext) (certificateId : CertificateId)
  | checked (context : TenantContext) (certificateId : CertificateId) (checkedAt : Timestamp)
  | asked (context : TenantContext) (certificateId : CertificateId) (checkedAt : Timestamp)
      (session : Session)
  | answered (context : TenantContext) (certificateId : CertificateId)
      (checkedAt observedAt : Timestamp) (record : Option Certificate)
  | validated (record : Certificate) (state : RequestState)
  | ended

/-- The steps of a request, with what its caller and the clock of the application answer. The
status query is a statement that starts with `ask` and gets its lock with `grant`. -/
inductive RequestStep where
  | discover
  | check (now : Timestamp)
  | ask (session : Session)
  | grant
  | accept (now : Timestamp)
  | query (now : Timestamp)
  | commit

inductive Work where
  | request (authentication : Authentication) (stage : RequestStage)
  | lifecycle (op : InventoryOp) (ended : Bool)

def Work.rolledBack : Work → Work
  | .request authentication _ => .request authentication .ended
  | .lifecycle op _ => .lifecycle op true

/-- An ended transaction stays, so its number is not used again. -/
structure OpenTransaction where
  number : ℕ
  work : Work

def RequestStage.lock? : RequestStage → Option CertificateLock
  | .answered _ _ _ _ record => record.map .share
  | .validated record _ => some (.share record)
  | .entered _ | .discovered _ _ | .checked _ _ _ | .asked _ _ _ _ | .ended => none

def OpenTransaction.lock? (t : OpenTransaction) : Option CertificateLock :=
  match t.work with
  | .request _ stage => stage.lock?
  | .lifecycle op ended => if ended then none else some (.update op)

/-- The committed certificates, the clock of the database and the transactions. -/
structure CertificateDeployment where
  inventory : Inventory
  databaseClock : Timestamp
  transactions : Table OpenTransaction OpenTransaction.number

inductive CertificateOp where
  | tick (elapsed : ℕ)
  | enter (number : ℕ) (authentication : Authentication) (authority : Option Authority)
  | step (number : ℕ) (step : RequestStep)
  | change (number : ℕ) (op : InventoryOp)
  | finish (number : ℕ)
  | rollback (number : ℕ)

/-- An operation that cannot run now. -/
inductive Refusal where
  | waits
  | notNow
  deriving DecidableEq, Repr

inductive StepReply where
  | done
  | issued
  | committed
  | failed (error : ApiError)
  deriving DecidableEq, Repr

def RequestStep.reply : RequestStep → StepReply
  | .query _ => .issued
  | .commit => .committed
  | .discover | .check _ | .ask _ | .grant | .accept _ => .done

/-- The next stage of a request; `none` when the step is not the next one. -/
def RequestStage.advance (stage : RequestStage) (authentication : Authentication)
    (d : CertificateDeployment) : RequestStep → Option (Except ApiError RequestStage)
  | .discover =>
      match stage with
      | .entered context => some do
          let certificateId ← discoverCertificate authentication d.inventory
          return .discovered context certificateId
      | _ => none
  | .check now =>
      match stage with
      | .discovered context certificateId => some do
          liftStatus (checkValidity authentication.certificate now)
          return .checked context certificateId now
      | _ => none
  | .ask session =>
      match stage with
      | .checked context certificateId checkedAt =>
          some (.ok (.asked context certificateId checkedAt { session with
            tenantId := authentication.tenantId
            subjectId := authentication.subjectId
            clock := d.databaseClock }))
      | _ => none
  | .grant =>
      match stage with
      | .asked context certificateId checkedAt session => some do
          let record ← liftStatus
            (lockCurrentActorCertificateStatus session certificateId authentication d.inventory)
          return .answered context certificateId checkedAt session.clock record
      | _ => none
  | .accept now =>
      match stage with
      | .answered context certificateId checkedAt observedAt found => some do
          let record ← liftStatus (requireSome found .certificateUnknown)
          let verdict ← liftStatus
            (judgeRecord record observedAt checkedAt certificateId authentication)
          let state := requestStateOf context certificateId verdict
          assertFresh state now
          return .validated record state
      | _ => none
  | .query now =>
      match stage with
      | .validated record state => some do
          assertFresh state now
          return .validated record state
      | _ => none
  | .commit =>
      match stage with
      | .validated _ _ => some (.ok .ended)
      | _ => none

namespace CertificateDeployment

variable (d : CertificateDeployment)

def put (number : ℕ) (work : Work) : CertificateDeployment :=
  { d with transactions := d.transactions.upsert ⟨number, work⟩ }

/-- No other transaction holds a lock that excludes the lock. -/
def free (number : ℕ) (lock : Option CertificateLock) : Prop :=
  ∀ other ∈ d.transactions, other.number ≠ number →
    (lock.any fun wanted => other.lock?.any wanted.conflicts) = false

instance (number : ℕ) (lock : Option CertificateLock) : Decidable (d.free number lock) :=
  inferInstanceAs (Decidable (∀ other ∈ d.transactions, _))

/-- The start of a transaction, up to the tenant context of its actor. -/
def enter (number : ℕ) (authentication : Authentication) (authority : Option Authority) :
    Except Refusal (CertificateDeployment × StepReply) := do
  require (d.transactions.get? number = none) .notNow
  let context : Except ApiError TenantContext := do
    assertPresentedCertificate authentication
    let authority ← requireSome authority .accessDenied
    resolveTenantContext authentication.tenantId authentication.subjectId authority
  match context with
  | .ok context => return (d.put number (.request authentication (.entered context)), .done)
  | .error failure => return (d.put number (.request authentication .ended), .failed failure)

/-- A failed step rolls the transaction back. -/
def step (number : ℕ) (step : RequestStep) :
    Except Refusal (CertificateDeployment × StepReply) := do
  let t ← requireSome (d.transactions.get? number) .notNow
  match t.work with
  | .lifecycle _ _ => .error .notNow
  | .request authentication stage => do
      let outcome ← requireSome (stage.advance authentication d step) .notNow
      match outcome with
      | .error failure => return (d.put number (.request authentication .ended), .failed failure)
      | .ok next => do
          require (d.free number next.lock?) .waits
          return (d.put number (.request authentication next), step.reply)

/-- A lifecycle call starts and locks its row. -/
def change (number : ℕ) (op : InventoryOp) :
    Except Refusal (CertificateDeployment × StepReply) := do
  require (d.transactions.get? number = none) .notNow
  require (d.free number (some (.update op))) .waits
  return (d.put number (.lifecycle op false), .done)

/-- The state after the commit of a lifecycle call. -/
def conclude (number : ℕ) (op : InventoryOp) : CertificateDeployment where
  inventory := Transaction.commit applyInventory d.inventory op
  databaseClock := d.databaseClock
  transactions := d.transactions.upsert ⟨number, .lifecycle op true⟩

/-- A lifecycle call takes effect with its commit; the row that it reads is its own until then. -/
def finish (number : ℕ) : Except Refusal (CertificateDeployment × StepReply) := do
  let t ← requireSome (d.transactions.get? number) .notNow
  match t.work with
  | .lifecycle op false => return (d.conclude number op, .committed)
  | _ => .error .notNow

def rollback (number : ℕ) : Except Refusal (CertificateDeployment × StepReply) := do
  let t ← requireSome (d.transactions.get? number) .notNow
  return (d.put number t.work.rolledBack, .done)

end CertificateDeployment

def applyCertificates :
    Transaction CertificateDeployment CertificateOp StepReply Refusal
  | .tick elapsed, d => return ({ d with databaseClock := d.databaseClock + elapsed }, .done)
  | .enter number authentication authority, d => d.enter number authentication authority
  | .step number step, d => d.step number step
  | .change number op, d => d.change number op
  | .finish number, d => d.finish number
  | .rollback number, d => d.rollback number

abbrev runCertificates : CertificateDeployment → List CertificateOp → CertificateDeployment :=
  Transaction.run applyCertificates

end TenantTrust.Api
