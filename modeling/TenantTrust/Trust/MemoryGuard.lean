import TenantTrust.Trust.GuardOutcomes
import Mathlib.Logic.Function.Basic

/-! The replay guard that keeps its state in memory. -/

namespace TenantTrust.Trust

open Library Identity

/-- The fields of a protected record that the guard compares with the candidate, and whether the
record is one that `requireProtectedEvidence` lets pass. -/
structure ProtectedBinding where
  tenantId : TenantId
  subjectId : SubjectId
  sourceId : SourceId
  eventId : EvidenceEventId
  contentHashSha256 : Sha256Digest
  valid : Bool
  deriving DecidableEq, Repr

structure MemoryCandidate extends ReplayCandidate where
  maximumAgeSeconds : Int
  protectedEvidence : Option ProtectedBinding
  deriving DecidableEq, Repr

/-- `requireReplayCandidate` -/
def MemoryCandidate.isValid (p : MemoryCandidate) : Bool :=
  p.wellFormed && 1 ≤ p.maximumAgeSeconds && p.maximumAgeSeconds ≤ 86400

/-- The protected record of an item is that of the candidate. -/
def MemoryCandidate.isBound (p : MemoryCandidate) : Bool :=
  p.protectedEvidence.all fun binding =>
    binding.valid && binding.tenantId = p.tenantId && binding.subjectId = p.subjectId &&
    binding.sourceId = p.sourceId && binding.eventId = p.eventId &&
    binding.contentHashSha256 = p.contentHashSha256

structure MemoryEpoch where
  highestSourceSequence : Int
  latestObservedAt : Timestamp
  nonceHashes : List Sha256Digest
  deriving DecidableEq, Repr

structure MemoryRate where
  windowStartedAt : Timestamp
  acceptedCount : Nat
  rateLimitedCount : Nat
  deriving DecidableEq, Repr

def MemoryRate.countRateLimited (rate : MemoryRate) : MemoryRate :=
  { rate with rateLimitedCount := rate.rateLimitedCount + 1 }

structure MemoryRejection where
  tenantId : TenantId
  sourceId : SourceId
  keyId : EvidenceSourceKeyId
  reasonCode : GuardReason
  eventIdSha256 : Sha256Digest
  nonceSha256 : Sha256Digest
  contentHashSha256 : Sha256Digest
  sourceSequence : Int
  rejectedAt : Timestamp
  deriving DecidableEq, Repr

structure StoredEvidence where
  binding : ProtectedBinding
  retainedUntil : Timestamp
  deriving DecidableEq, Repr

structure MemoryGuard where
  acceptedEventIds : List (TenantId × EvidenceEventId)
  epochs : EpochKey → Option MemoryEpoch
  sourceRates : SourceKey → Option MemoryRate
  suspendedSources : List SourceKey
  rejections : List MemoryRejection
  storedEvidence : TenantId × EvidenceEventId → Option StoredEvidence

inductive EvidenceIngestionUnavailable where
  | unavailable
  deriving DecidableEq, Repr

namespace MemoryGuard

def empty : MemoryGuard := ⟨[], fun _ => none, fun _ => none, [], [], fun _ => none⟩

/-- The stored window until it has run out, and a new one from then on. -/
def rateState (safeguards : Safeguards) (now : Timestamp) (source : SourceKey)
    (guard : MemoryGuard) : MemoryRate :=
  match guard.sourceRates source with
  | none => ⟨now, 0, 0⟩
  | some rate =>
      if now ≥ rate.windowStartedAt + safeguards.rateLimitWindowSeconds * 1000 then ⟨now, 0, 0⟩
      else rate

def setRate (source : SourceKey) (rate : MemoryRate) (guard : MemoryGuard) : MemoryGuard :=
  { guard with sourceRates := Function.update guard.sourceRates source (some rate) }

/-- The checks after those of the source and its window. -/
def reasonCode (digests : EvidenceDigests) (now : Timestamp) (p : MemoryCandidate)
    (guard : MemoryGuard) : Option IngestionRejectionReason :=
  let observedAt := milliseconds p.observedAt
  let expiresAt := milliseconds p.expiresAt
  let maximumAgeMilliseconds := p.maximumAgeSeconds * 1000
  let state := guard.epochs p.epoch
  if observedAt ≥ expiresAt then some .timeWindowInvalid
  else if observedAt > now + 30 * 1000 then some .observedInFuture
  else if observedAt < now - maximumAgeMilliseconds then some .stale
  else if expiresAt ≤ now then some .expired
  else if expiresAt > observedAt + maximumAgeMilliseconds then some .ttlExceeded
  else if p.event ∈ guard.acceptedEventIds then some .eventReplayed
  else if state.any fun epoch => digests.nonce p.nonce ∈ epoch.nonceHashes then
    some .nonceReplayed
  else if state.any fun epoch => p.sourceSequence = epoch.highestSourceSequence then
    some .sequenceReplayed
  else if state.any fun epoch => p.sourceSequence < epoch.highestSourceSequence then
    some .sequenceReordered
  else if state.any fun epoch => observedAt < epoch.latestObservedAt then
    some .observationReordered
  else none

def recordRejection (digests : EvidenceDigests) (now : Timestamp) (p : MemoryCandidate)
    (reason : GuardReason) (highest : Option Int) (guard : MemoryGuard) :
    MemoryGuard × Except EvidenceIngestionUnavailable GuardDecision :=
  ({ guard with rejections := guard.rejections ++ [{
      tenantId := p.tenantId
      sourceId := p.sourceId
      keyId := p.keyId
      reasonCode := reason
      eventIdSha256 := digests.event p.eventId
      nonceSha256 := digests.nonce p.nonce
      contentHashSha256 := p.contentHashSha256
      sourceSequence := p.sourceSequence
      rejectedAt := now }] },
    .ok (.refused reason highest))

/-- The branch of a call that finds its window full. -/
def rateLimit (safeguards : Safeguards) (source : SourceKey) (rate : MemoryRate)
    (guard : MemoryGuard) : MemoryGuard :=
  let limited := rate.countRateLimited
  let counted := guard.setRate source limited
  if limited.rateLimitedCount ≥ safeguards.rateLimitSuspensionThreshold then
    { counted with suspendedSources := source :: counted.suspendedSources }
  else counted

/-- The retention period is thirty days. -/
def accept (digests : EvidenceDigests) (now : Timestamp) (p : MemoryCandidate)
    (rate : MemoryRate) (guard : MemoryGuard) : MemoryGuard :=
  let nonceHashes := ((guard.epochs p.epoch).map MemoryEpoch.nonceHashes).getD []
  { guard with
    acceptedEventIds := p.event :: guard.acceptedEventIds
    epochs := Function.update guard.epochs p.epoch
      (some ⟨p.sourceSequence, milliseconds p.observedAt, digests.nonce p.nonce :: nonceHashes⟩)
    sourceRates := Function.update guard.sourceRates p.source
      (some { rate with acceptedCount := rate.acceptedCount + 1 })
    storedEvidence := match p.protectedEvidence with
      | some binding => Function.update guard.storedEvidence p.event
          (some ⟨binding, now + 30 * 86400000⟩)
      | none => guard.storedEvidence }

end MemoryGuard

/-- `createInMemoryEvidenceReplayGuard`; a call that throws may still have opened a window. -/
def applyMemoryReplayGuard (digests : EvidenceDigests) (safeguards : Safeguards)
    (now : Timestamp) (p : MemoryCandidate) (guard : MemoryGuard) :
    MemoryGuard × Except EvidenceIngestionUnavailable GuardDecision :=
  if p.isValid then
    let highest := (guard.epochs p.epoch).map MemoryEpoch.highestSourceSequence
    let rate := guard.rateState safeguards now p.source
    let opened := guard.setRate p.source rate
    if p.source ∈ guard.suspendedSources then
      opened.recordRejection digests now p .verificationContextNotFound highest
    else if rate.acceptedCount ≥ safeguards.rateLimitMaxEvents then
      (opened.rateLimit safeguards p.source rate).recordRejection digests now p
        (.rejected .rateLimited) highest
    else
      match opened.reasonCode digests now p with
      | some reason => opened.recordRejection digests now p (.rejected reason) highest
      | none =>
          if p.isBound then
            (opened.accept digests now p rate, .ok (.granted (instantOf now) p.sourceSequence))
          else (opened, .error .unavailable)
  else (guard, .error .unavailable)

/-! The branches of a call. -/

section Branches

variable {digests : EvidenceDigests} {safeguards : Safeguards} {now : Timestamp}
  {p : MemoryCandidate} {guard : MemoryGuard}

/-- The guard after it has opened or found the window of a call. -/
def MemoryGuard.opened (safeguards : Safeguards) (now : Timestamp) (p : MemoryCandidate)
    (guard : MemoryGuard) : MemoryGuard :=
  guard.setRate p.source (guard.rateState safeguards now p.source)

def MemoryGuard.highest (p : MemoryCandidate) (guard : MemoryGuard) : Option Int :=
  (guard.epochs p.epoch).map MemoryEpoch.highestSourceSequence

theorem applyMemoryReplayGuard_suspended (valid : p.isValid = true)
    (member : p.source ∈ guard.suspendedSources) :
    applyMemoryReplayGuard digests safeguards now p guard =
      (guard.opened safeguards now p).recordRejection digests now p .verificationContextNotFound
        (guard.highest p) := by
  simp only [applyMemoryReplayGuard, valid, member, if_true]
  rfl

theorem applyMemoryReplayGuard_rateLimited (valid : p.isValid = true)
    (listed : p.source ∉ guard.suspendedSources)
    (full : (guard.rateState safeguards now p.source).acceptedCount ≥
      safeguards.rateLimitMaxEvents) :
    applyMemoryReplayGuard digests safeguards now p guard =
      ((guard.opened safeguards now p).rateLimit safeguards p.source
        (guard.rateState safeguards now p.source)).recordRejection digests now p
          (.rejected .rateLimited) (guard.highest p) := by
  simp only [applyMemoryReplayGuard, valid, listed, full, if_true, if_false]
  rfl

theorem applyMemoryReplayGuard_refused (valid : p.isValid = true)
    (listed : p.source ∉ guard.suspendedSources)
    (room : ¬ (guard.rateState safeguards now p.source).acceptedCount ≥
      safeguards.rateLimitMaxEvents) {reason : IngestionRejectionReason}
    (checked : guard.reasonCode digests now p = some reason) :
    applyMemoryReplayGuard digests safeguards now p guard =
      (guard.opened safeguards now p).recordRejection digests now p (.rejected reason)
        (guard.highest p) := by
  have same : (guard.setRate p.source (guard.rateState safeguards now p.source)).reasonCode
      digests now p = some reason := checked
  simp only [applyMemoryReplayGuard, valid, listed, room, same, if_true, if_false]
  rfl

theorem applyMemoryReplayGuard_granted (valid : p.isValid = true)
    (listed : p.source ∉ guard.suspendedSources)
    (room : ¬ (guard.rateState safeguards now p.source).acceptedCount ≥
      safeguards.rateLimitMaxEvents)
    (checked : guard.reasonCode digests now p = none) (bound : p.isBound = true) :
    applyMemoryReplayGuard digests safeguards now p guard =
      ((guard.opened safeguards now p).accept digests now p
        (guard.rateState safeguards now p.source),
        .ok (.granted (instantOf now) p.sourceSequence)) := by
  have same : (guard.setRate p.source (guard.rateState safeguards now p.source)).reasonCode
      digests now p = none := checked
  simp only [applyMemoryReplayGuard, valid, listed, room, same, bound, if_true, if_false]
  rfl

end Branches

end TenantTrust.Trust
