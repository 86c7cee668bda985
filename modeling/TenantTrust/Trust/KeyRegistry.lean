import TenantTrust.Library.ByteText
import TenantTrust.Trust.FloodControl

/-! The public keys of the evidence sources, and the calls that change them or the state of a
source. -/

namespace TenantTrust.Trust

open Library Identity

/-- `^[A-Za-z0-9_-]{43}$` -/
def isPublicKeyText (text : String) : Bool :=
  let allowed := fun c : Char => c.isAlphanum || c = '_' || c = '-'
  matchesPattern allowed allowed 42 42 text

/-- `trust.ed25519_public_key_base64url` -/
structure Ed25519PublicKey where
  text : String
  valid : isPublicKeyText text = true
  deriving DecidableEq, Repr

/-- The 32 bytes of a key. Several texts may name the same ones. -/
def Ed25519PublicKey.material (key : Ed25519PublicKey) : Bytes :=
  Base64Url.decode (key.text.toList.map fun c => Fin.ofNat _ c.toNat)

structure KeyRotation where
  rotatedBy : SubjectId
  rotatedAt : Instant
  deriving DecidableEq, Repr

structure KeyRevocation where
  revokedBy : SubjectId
  revokedAt : Instant
  reasonCode : String
  deriving DecidableEq, Repr

/-- State and its columns together, as `evidence_source_keys_state_shape` requires them. A
revoked key keeps the columns of its rotation. -/
inductive EvidenceSourceKeyState where
  | active
  | rotated (rotation : KeyRotation)
  | revoked (rotation : Option KeyRotation) (revocation : KeyRevocation)
  deriving DecidableEq, Repr

namespace EvidenceSourceKeyState

def isRevoked : EvidenceSourceKeyState → Bool
  | .revoked _ _ => true
  | .active | .rotated _ => false

def rotation : EvidenceSourceKeyState → Option KeyRotation
  | .active => none
  | .rotated rotation => some rotation
  | .revoked rotation _ => rotation

def revocation : EvidenceSourceKeyState → Option KeyRevocation
  | .active | .rotated _ => none
  | .revoked _ revocation => some revocation

end EvidenceSourceKeyState

structure EvidenceSourceKey where
  tenantId : TenantId
  sourceId : SourceId
  keyId : EvidenceSourceKeyId
  keyVersion : Nat
  publicKey : Ed25519PublicKey
  publicKeySha256 : Sha256Digest
  state : EvidenceSourceKeyState
  enrolledBy : SubjectId
  enrolledAt : Instant
  createdAt : Instant
  updatedAt : Instant
  deriving DecidableEq, Repr

namespace EvidenceSourceKey

def key (row : EvidenceSourceKey) : EpochKey := (row.tenantId, row.sourceId, row.keyId)

def source (row : EvidenceSourceKey) : SourceKey := (row.tenantId, row.sourceId)

/-- `evidence_source_keys_time_order` -/
def timesOrdered (row : EvidenceSourceKey) : Bool :=
  row.createdAt ≤ row.updatedAt && row.enrolledAt ≤ row.createdAt + interval 2 &&
  row.state.rotation.all (fun rotation => rotation.rotatedAt ≥ row.enrolledAt) &&
  row.state.revocation.all (fun revocation => revocation.revokedAt ≥ row.enrolledAt)

/-- The columns that `evidence_source_keys_keep_history` lets an update write. -/
def withState (row : EvidenceSourceKey) (state : EvidenceSourceKeyState)
    (updatedAt : Instant) : EvidenceSourceKey :=
  { row with state := state, updatedAt := updatedAt }

end EvidenceSourceKey

abbrev EvidenceSourceKeys := Table EvidenceSourceKey EvidenceSourceKey.key

namespace EvidenceSourceKeys

/-- The keys of a source, in the order in which they were inserted. -/
def history (keys : EvidenceSourceKeys) (source : SourceKey) : List EvidenceSourceKey :=
  keys.rows.filter fun row => row.source = source

/-- `evidence_source_keys_one_active` lets no source have two. -/
def active? (keys : EvidenceSourceKeys) (source : SourceKey) : Option EvidenceSourceKey :=
  (keys.history source).find? fun row => row.state = .active

/-- `max(key_version) + 1` -/
def nextVersion (keys : EvidenceSourceKeys) (source : SourceKey) : Nat :=
  ((keys.history source).map EvidenceSourceKey.keyVersion).foldl max 0 + 1

/-- An insertion under the constraints of the table. -/
def insertKey (row : EvidenceSourceKey) (keys : EvidenceSourceKeys) :
    Except SqlError EvidenceSourceKeys := do
  require row.timesOrdered (.checkViolation "evidence_source_keys_time_order")
  let next ← requireSome (keys.insertNew row) (.uniqueViolation "evidence_source_keys_pk")
  require (∀ other ∈ keys.history row.source, other.keyVersion ≠ row.keyVersion)
    (.uniqueViolation "evidence_source_keys_version_unique")
  require (∀ other ∈ keys.history row.source, other.publicKeySha256 ≠ row.publicKeySha256)
    (.uniqueViolation "evidence_source_keys_material_unique")
  require (∀ other ∈ keys.history row.source, other.state ≠ .active)
    (.uniqueViolation "evidence_source_keys_one_active")
  return next

/-- An update of the state of a key under the constraint of the table. -/
def updateKey (row : EvidenceSourceKey) (state : EvidenceSourceKeyState) (updatedAt : Instant)
    (keys : EvidenceSourceKeys) : Except SqlError EvidenceSourceKeys := do
  require (row.withState state updatedAt).timesOrdered
    (.checkViolation "evidence_source_keys_time_order")
  return keys.replace (row.withState state updatedAt)

end EvidenceSourceKeys

structure KeyRegistry where
  evidence : EvidenceDatabase
  keys : EvidenceSourceKeys

/-- The actor that the transaction-local settings name. -/
structure RegistryActor where
  clock : Instant
  tenantId : TenantId
  subjectId : SubjectId
  isTenantAdmin : Bool
  deriving DecidableEq, Repr

/-- What the identity schema and the configuration table answer during one call. -/
structure TenantView where
  activeMember : TenantId → SubjectId → Bool
  activeInfluence : TenantId → Option Influence

namespace KeyRegistry

def source? (registry : KeyRegistry) (source : SourceKey) : Option EvidenceSource :=
  registry.evidence.sources.get? source

/-- The active key of a source, as the joins with the registry read it. -/
def activeKey (registry : KeyRegistry) (tenantId : TenantId) (sourceId : SourceId) :
    Option (EvidenceSourceKeyId × Sha256Digest) :=
  (registry.keys.active? (tenantId, sourceId)).map fun row => (row.keyId, row.publicKeySha256)

def adminSession (registry : KeyRegistry) (actor : RegistryActor) : AdminSession where
  clock := actor.clock
  tenantId := actor.tenantId
  subjectId := actor.subjectId
  isTenantAdmin := actor.isTenantAdmin
  activeKey := registry.activeKey

def guardSession (registry : KeyRegistry) (view : TenantView) : GuardSession where
  activeMember := view.activeMember
  activeKey := registry.activeKey
  activeInfluence := view.activeInfluence

end KeyRegistry

/-- The arguments of an enrolment or a rotation; the time is `p_enrolled_at` or
`p_rotated_at`. -/
structure KeyCall where
  sourceId : SourceId
  keyId : EvidenceSourceKeyId
  publicKey : Ed25519PublicKey
  at_ : Instant
  deriving DecidableEq, Repr

/-- The row that a call inserts. -/
def KeyCall.row (p : KeyCall) (sha256 : Bytes → Sha256Digest) (actor : RegistryActor)
    (keyVersion : Nat) : EvidenceSourceKey where
  tenantId := actor.tenantId
  sourceId := p.sourceId
  keyId := p.keyId
  keyVersion := keyVersion
  publicKey := p.publicKey
  publicKeySha256 := sha256 p.publicKey.material
  state := .active
  enrolledBy := actor.subjectId
  enrolledAt := p.at_
  createdAt := actor.clock
  updatedAt := actor.clock

/-- The source after a change of its verification key. -/
def EvidenceSource.withKey (source : EvidenceSource) (publicKeySha256 : Option Sha256Digest)
    (state : EvidenceSourceState) (updatedAt : Instant) : EvidenceSource :=
  { source.withState state updatedAt with verificationKeySha256 := publicKeySha256 }

/-- The source and the key that a call returns columns of. -/
structure KeyChange where
  source : EvidenceSource
  key : EvidenceSourceKey

def enrollEvidenceSource (sha256 : Bytes → Sha256Digest) (actor : RegistryActor) (p : KeyCall)
    (registry : KeyRegistry) : Except SqlError (KeyRegistry × KeyChange) := do
  let denied := SqlError.raised "Evidence source enrollment denied."
  require actor.isTenantAdmin denied
  require (p.at_ ≤ actor.clock + interval 2)
    (.raised "Evidence source enrollment time is invalid.")
  let source ← requireSome (registry.source? (actor.tenantId, p.sourceId)) denied
  require (source.state = .planned ∧ source.verificationAlgorithm = .ed25519 ∧
    source.verificationKeySha256 = none ∧
    registry.keys.history (actor.tenantId, p.sourceId) = []) denied
  let row := p.row sha256 actor 1
  let keys ← registry.keys.insertKey row
  let source := source.withKey row.publicKeySha256 .active (max actor.clock p.at_)
  let evidence ← storeSource source registry.evidence
  return (⟨evidence, keys⟩, ⟨source, row⟩)

/-- The current key of a source ends when the next one is appended. -/
def rotateCurrentKey (actor : RegistryActor) (at_ : Instant) (current : Option EvidenceSourceKey)
    (keys : EvidenceSourceKeys) : Except SqlError EvidenceSourceKeys :=
  match current with
  | none => .ok keys
  | some row => keys.updateKey row (.rotated ⟨actor.subjectId, at_⟩) (max actor.clock at_)

def rotateEvidenceSourceKey (sha256 : Bytes → Sha256Digest) (actor : RegistryActor) (p : KeyCall)
    (registry : KeyRegistry) : Except SqlError (KeyRegistry × KeyChange) := do
  let denied := SqlError.raised "Evidence source key rotation denied."
  let invalidTime := SqlError.raised "Evidence source key rotation time is invalid."
  require actor.isTenantAdmin denied
  require (p.at_ ≤ actor.clock + interval 2) invalidTime
  let source ← requireSome (registry.source? (actor.tenantId, p.sourceId)) denied
  require ((source.state = .active ∨ source.state = .suspended) ∧
    source.verificationAlgorithm = .ed25519 ∧
    registry.keys.history (actor.tenantId, p.sourceId) ≠ []) denied
  let current := registry.keys.active? (actor.tenantId, p.sourceId)
  require (source.state = .active → current.isSome)
    (.raised "Evidence source active key state is inconsistent.")
  require (current.all fun row => row.enrolledAt ≤ p.at_) invalidTime
  let keys ← rotateCurrentKey actor p.at_ current registry.keys
  let row := p.row sha256 actor (keys.nextVersion (actor.tenantId, p.sourceId))
  let keys ← keys.insertKey row
  let source := source.withKey row.publicKeySha256 .active (max actor.clock p.at_)
  let evidence ← storeSource source registry.evidence
  return (⟨evidence, keys⟩, ⟨source, row⟩)

structure KeyRevocationCall where
  sourceId : SourceId
  keyId : EvidenceSourceKeyId
  reasonCode : String
  revokedAt : Instant
  deriving DecidableEq, Repr

/-- Only the revocation of the active key suspends the source. -/
def EvidenceSource.afterRevocation (source : EvidenceSource) (row : EvidenceSourceKey)
    (updatedAt : Instant) : EvidenceSource :=
  if row.state = .active then source.withKey none .suspended updatedAt
  else source.withState source.state updatedAt

def revokeEvidenceSourceKey (actor : RegistryActor) (p : KeyRevocationCall)
    (registry : KeyRegistry) : Except SqlError (KeyRegistry × KeyChange) := do
  let denied := SqlError.raised "Evidence source key revocation denied."
  require actor.isTenantAdmin denied
  require (isReasonCode p.reasonCode ∧ p.revokedAt ≤ actor.clock + interval 2)
    (.raised "Evidence source key revocation input is invalid.")
  let source ← requireSome (registry.source? (actor.tenantId, p.sourceId)) denied
  let row ← requireSome (registry.keys.get? (actor.tenantId, p.sourceId, p.keyId)) denied
  require (¬ row.state.isRevoked ∧ row.enrolledAt ≤ p.revokedAt) denied
  let updatedAt := max actor.clock p.revokedAt
  let revoked := EvidenceSourceKeyState.revoked row.state.rotation
    ⟨actor.subjectId, p.revokedAt, p.reasonCode⟩
  let keys ← registry.keys.updateKey row revoked updatedAt
  let source := source.afterRevocation row updatedAt
  let evidence ← storeSource source registry.evidence
  return (⟨evidence, keys⟩, ⟨source, row.withState revoked updatedAt⟩)

/-- The key material that a service verifies a signature with. -/
def resolveEvidenceVerificationContext (view : TenantView) (tenantId : TenantId)
    (subjectId : SubjectId) (sourceId : SourceId) (keyId : EvidenceSourceKeyId)
    (registry : KeyRegistry) : Option (EvidenceSource × EvidenceSourceKey) := do
  let source ← registry.source? (tenantId, sourceId)
  let row ← registry.keys.get? (tenantId, sourceId, keyId)
  if view.activeMember tenantId subjectId ∧ source.state = .active ∧
      source.verificationAlgorithm = .ed25519 ∧
      source.verificationKeySha256 = some row.publicKeySha256 ∧ row.state = .active then
    some (source, row)
  else none

inductive RegistryOp where
  | enroll (actor : RegistryActor) (call : KeyCall)
  | rotate (actor : RegistryActor) (call : KeyCall)
  | revoke (actor : RegistryActor) (call : KeyRevocationCall)
  | configure (actor : RegistryActor) (call : SafeguardsCall)
  | setSuspension (actor : RegistryActor) (call : SuspensionCall)
  | submit (view : TenantView) (now innerNow : Instant) (candidate : ReplayCandidate)

def applyRegistry (sha256 : Bytes → Sha256Digest) (digests : EvidenceDigests) :
    Transaction KeyRegistry RegistryOp (Option GuardDecision) SqlError
  | .enroll actor call, registry => do
      let (registry, _) ← enrollEvidenceSource sha256 actor call registry
      return (registry, none)
  | .rotate actor call, registry => do
      let (registry, _) ← rotateEvidenceSourceKey sha256 actor call registry
      return (registry, none)
  | .revoke actor call, registry => do
      let (registry, _) ← revokeEvidenceSourceKey actor call registry
      return (registry, none)
  | .configure actor call, registry => do
      let (evidence, _) ← configureEvidenceSourceSafeguards (registry.adminSession actor) call
        registry.evidence
      return ({ registry with evidence := evidence }, none)
  | .setSuspension actor call, registry => do
      let (evidence, _) ← setEvidenceSourceSuspension (registry.adminSession actor) call
        registry.evidence
      return ({ registry with evidence := evidence }, none)
  | .submit view now innerNow candidate, registry => do
      let (evidence, decision) ← applyEvidenceReplayGuard digests (registry.guardSession view)
        now innerNow candidate registry.evidence
      return ({ registry with evidence := evidence }, some decision)

abbrev runRegistry (sha256 : Bytes → Sha256Digest) (digests : EvidenceDigests) :
    KeyRegistry → List RegistryOp → KeyRegistry :=
  Transaction.run (applyRegistry sha256 digests)

/-- Sources are registered as planned metadata without a key, and nothing else has happened. -/
structure KeyRegistry.Fresh (registry : KeyRegistry) : Prop where
  planned : ∀ source ∈ registry.evidence.sources,
    source.state = .planned ∧ source.verificationKeySha256 = none
  keys : registry.keys = Table.empty
  controlEvents : registry.evidence.controlEvents = []

end TenantTrust.Trust
