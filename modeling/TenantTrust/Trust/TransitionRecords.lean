import TenantTrust.Policy.Decision
import TenantTrust.Trust.ConfigurationStore
import TenantTrust.Trust.TransitionExplanation

/-! The procedure that records a trust transition, and the lookup of the current score. -/

namespace TenantTrust.Trust

open Library Identity Policy

/-- A row of `trust.subject_trust_transitions`; `previousBand` is `none` for `uninitialized`. -/
structure TransitionRow where
  tenantId : TenantId
  subjectId : SubjectId
  transitionId : TransitionId
  eventId : EventId
  updateVersion : ℕ
  previousTransitionId : Option TransitionId
  previousScore : ℚ
  previousBand : Option TrustBand
  previousRecoveryStreak : ℤ
  newScore : ℚ
  newBand : TrustBand
  newRecoveryStreak : ℤ
  weightedScore : ℚ
  smoothedScore : ℚ
  transitionKind : TransitionKind
  modelVersion : String
  configurationVersion : ℕ
  observedAt : Timestamp
  evaluatedAt : Timestamp
  explanation : TrustExplanation
  explanationHashSha256 : Sha256Digest
  recordedAt : Timestamp
  deriving DecidableEq

def TransitionRow.key (row : TransitionRow) : TenantId × TransitionId :=
  (row.tenantId, row.transitionId)

/-- A row of `trust.trust_transition_events`. -/
structure TransitionEventRow where
  tenantId : TenantId
  subjectId : SubjectId
  eventId : EventId
  transitionId : TransitionId
  event : TrustEvent
  eventSha256 : Sha256Digest
  recordedAt : Timestamp
  deriving DecidableEq

def TransitionEventRow.key (row : TransitionEventRow) : TenantId × EventId :=
  (row.tenantId, row.eventId)

structure CurrentTransition where
  tenantId : TenantId
  subjectId : SubjectId
  transitionId : TransitionId
  updateVersion : ℕ
  deriving DecidableEq, Repr

def CurrentTransition.key (current : CurrentTransition) : TenantId × SubjectId :=
  (current.tenantId, current.subjectId)

structure TransitionDatabase where
  trust : TrustDatabase
  transitions : Table TransitionRow TransitionRow.key
  events : Table TransitionEventRow TransitionEventRow.key
  currentTransitions : Table CurrentTransition CurrentTransition.key

/-- The number that a JavaScript number arrives as in a `numeric` parameter or in a JSON text. -/
def decimalOf (score : ℚ) : ℚ := written (.ofRat score)

/-- The parameters of `record_subject_trust_transition`. -/
structure TransitionCall where
  tenantId : TenantId
  subjectId : SubjectId
  transitionId : TransitionId
  eventId : EventId
  correlationId : CorrelationId
  causationEventId : EvidenceEventId
  updateVersion : ℕ
  previousTransitionId : Option TransitionId
  previousScore : ℚ
  previousBand : Option TrustBand
  previousRecoveryStreak : ℤ
  newScore : ℚ
  newBand : TrustBand
  newRecoveryStreak : ℤ
  weightedScore : ℚ
  smoothedScore : ℚ
  transitionKind : TransitionKind
  observedAt : Timestamp
  evaluatedAt : Timestamp
  modelVersion : String
  configurationVersion : ℕ
  contributions : List ContributionRecord
  explanation : TrustExplanation
  explanationHashSha256 : Sha256Digest
  event : TrustEvent
  eventSha256 : Sha256Digest
  deriving DecidableEq

/-- The arguments that the repository passes for a record of the service. -/
def TransitionDocuments.call (record : TransitionDocuments) : TransitionCall :=
  let explanation := record.explanation
  { tenantId := explanation.tenantId
    subjectId := explanation.subjectId
    transitionId := explanation.transitionId
    eventId := record.event.eventId
    correlationId := record.event.correlationId
    causationEventId := record.event.causationId
    updateVersion := explanation.updateVersion
    previousTransitionId := explanation.previousState.transitionId
    previousScore := decimalOf explanation.previousState.score
    previousBand := explanation.previousState.band
    previousRecoveryStreak := explanation.previousState.recoveryStreak
    newScore := decimalOf explanation.newState.score
    newBand := explanation.newState.band
    newRecoveryStreak := explanation.newState.recoveryStreak
    weightedScore := written explanation.weightedScore
    smoothedScore := decimalOf explanation.temporalCalculation.score
    transitionKind := explanation.transitionControl.transition
    observedAt := explanation.observedAt
    evaluatedAt := explanation.evaluatedAt
    modelVersion := explanation.modelVersion
    configurationVersion := explanation.configurationVersion
    contributions := explanation.contributions
    explanation := explanation
    explanationHashSha256 := record.explanationHashSha256
    event := record.event
    eventSha256 := record.eventSha256 }

/-- The comparison of the explanation with the other parameters. -/
def TransitionCall.explanationMatches (p : TransitionCall) : Prop :=
  let explanation := p.explanation
  explanation.transitionId = p.transitionId ∧ explanation.tenantId = p.tenantId ∧
  explanation.subjectId = p.subjectId ∧ explanation.updateVersion = p.updateVersion ∧
  explanation.modelVersion = p.modelVersion ∧
  explanation.configurationVersion = p.configurationVersion ∧
  decimalOf explanation.previousState.score = p.previousScore ∧
  explanation.previousState.band = p.previousBand ∧
  explanation.previousState.recoveryStreak = p.previousRecoveryStreak ∧
  decimalOf explanation.newState.score = p.newScore ∧
  explanation.newState.band = p.newBand ∧
  (explanation.newState.recoveryStreak : ℤ) = p.newRecoveryStreak ∧
  written explanation.weightedScore = p.weightedScore ∧
  decimalOf explanation.temporalCalculation.score = p.smoothedScore ∧
  explanation.transitionControl.transition = p.transitionKind ∧
  explanation.contributions = p.contributions ∧
  explanation.evidenceReferences.length = 5 ∧
  (∀ reference ∈ explanation.evidenceReferences, ∃ entry ∈ p.contributions,
    entry.componentId = reference.evidenceType ∧ entry.evidenceId = reference.evidenceId ∧
      entry.sourceEventId = reference.sourceEventId) ∧
  ∀ entry ∈ p.contributions, ∃ reference ∈ explanation.evidenceReferences,
    entry.componentId = reference.evidenceType ∧ entry.evidenceId = reference.evidenceId ∧
      entry.sourceEventId = reference.sourceEventId

instance (p : TransitionCall) : Decidable p.explanationMatches := by
  unfold TransitionCall.explanationMatches
  infer_instance

def TransitionCall.eventMatches (p : TransitionCall) : Prop :=
  let event := p.event
  event.eventId = p.eventId ∧ event.tenantId = p.tenantId ∧ event.subjectId = p.subjectId ∧
  event.aggregateId = p.transitionId ∧ event.correlationId = p.correlationId ∧
  event.causationId = p.causationEventId ∧
  decimalOf event.previousScore = p.previousScore ∧ decimalOf event.newScore = p.newScore ∧
  event.previousBand = p.previousBand ∧ event.newBand = p.newBand ∧
  event.modelVersion = p.modelVersion ∧ event.configurationVersion = p.configurationVersion ∧
  event.explanationHashSha256 = p.explanationHashSha256 ∧
  event.evidenceIds.length = 5 ∧
  (∀ evidenceId ∈ event.evidenceIds, ∃ entry ∈ p.contributions, entry.evidenceId = evidenceId) ∧
  ∀ entry ∈ p.contributions, entry.evidenceId ∈ event.evidenceIds

instance (p : TransitionCall) : Decidable p.eventMatches := by
  unfold TransitionCall.eventMatches
  infer_instance

/-- `v_previous_rank`, by which `uninitialized` is below every band. -/
def bandRank : Option TrustBand → ℕ
  | none => 0
  | some band => band.rank + 1

/-- The consistency of the kind with the bands and scores. -/
def TransitionCall.changeConsistent (p : TransitionCall) : Prop :=
  let previousRank := bandRank p.previousBand
  let newRank := bandRank (some p.newBand)
  (p.previousBand.isSome → match p.transitionKind with
    | .held => newRank = previousRank
    | .deteriorated => newRank < previousRank
    | .recovered => newRank = previousRank + 1
    | .criticalOverride => True) ∧
  (p.transitionKind = .criticalOverride → p.newBand = .low ∧ p.newScore ≤ p.previousScore)

instance (p : TransitionCall) : Decidable p.changeConsistent := by
  unfold TransitionCall.changeConsistent
  cases p.transitionKind <;> infer_instance

/-- What the configuration table and the clock answer during one call. -/
structure TransitionSession where
  clock : Timestamp
  configuration : TenantId → ℕ → Option ConfigurationParameters

def TransitionCall.row (p : TransitionCall) (recordedAt : Timestamp) : TransitionRow where
  tenantId := p.tenantId
  subjectId := p.subjectId
  transitionId := p.transitionId
  eventId := p.eventId
  updateVersion := p.updateVersion
  previousTransitionId := p.previousTransitionId
  previousScore := roundNumeric 2 p.previousScore
  previousBand := p.previousBand
  previousRecoveryStreak := p.previousRecoveryStreak
  newScore := roundNumeric 2 p.newScore
  newBand := p.newBand
  newRecoveryStreak := p.newRecoveryStreak
  weightedScore := roundNumeric 2 p.weightedScore
  smoothedScore := roundNumeric 2 p.smoothedScore
  transitionKind := p.transitionKind
  modelVersion := p.modelVersion
  configurationVersion := p.configurationVersion
  observedAt := p.observedAt
  evaluatedAt := p.evaluatedAt
  explanation := p.explanation
  explanationHashSha256 := p.explanationHashSha256
  recordedAt := recordedAt

def TransitionCall.eventRow (p : TransitionCall) (recordedAt : Timestamp) : TransitionEventRow :=
  ⟨p.tenantId, p.subjectId, p.eventId, p.transitionId, p.event, p.eventSha256, recordedAt⟩

/-- The first check of the procedure; the values of the enumerations are typed. -/
def TransitionCall.inputValid (p : TransitionCall) (clock : Timestamp) : Prop :=
  1 ≤ p.updateVersion ∧ inScoreRange p.previousScore ∧ inScoreRange p.newScore ∧
  inScoreRange p.weightedScore ∧ inScoreRange p.smoothedScore ∧
  0 ≤ p.previousRecoveryStreak ∧ p.previousRecoveryStreak ≤ 1 ∧
  0 ≤ p.newRecoveryStreak ∧ p.newRecoveryStreak ≤ 1 ∧
  isModelVersion p.modelVersion ∧ 1 ≤ p.configurationVersion ∧
  p.observedAt ≤ p.evaluatedAt ∧ p.evaluatedAt ≤ clock + seconds 2

instance (p : TransitionCall) (clock : Timestamp) : Decidable (p.inputValid clock) :=
  inferInstanceAs (Decidable (_ ∧ _))

def TransitionCall.contributionsValid (p : TransitionCall) : Prop :=
  p.contributions.length = 5 ∧ (p.contributions.map ContributionRecord.componentId).Nodup ∧
  (p.contributions.map ContributionRecord.evidenceId).Nodup ∧
  (p.contributions.map ContributionRecord.sourceEventId).Nodup

instance (p : TransitionCall) : Decidable p.contributionsValid :=
  inferInstanceAs (Decidable (_ ∧ _))

/-- A row of the same transition that another call left. -/
def TransitionCall.repeats (p : TransitionCall) (existing : TransitionRow)
    (db : TransitionDatabase) : Prop :=
  existing.subjectId = p.subjectId ∧ existing.eventId = p.eventId ∧
  existing.updateVersion = p.updateVersion ∧
  existing.explanationHashSha256 = p.explanationHashSha256 ∧
  ∃ event ∈ db.events.rows, event.tenantId = p.tenantId ∧ event.transitionId = p.transitionId ∧
    event.eventSha256 = p.eventSha256

instance (p : TransitionCall) (existing : TransitionRow) (db : TransitionDatabase) :
    Decidable (p.repeats existing db) := inferInstanceAs (Decidable (_ ∧ _))

/-- The version that is current for the subject and has the number of the call. -/
def currentState? (p : TransitionCall) (db : TrustDatabase) : Option TrustStateVersion :=
  if currentVersion? db p.tenantId p.subjectId = some p.updateVersion then
    db.versions.get? (p.tenantId, p.subjectId, p.updateVersion)
  else none

/-- The comparison of the previous state with the transition that is current. -/
def checkPrevious (p : TransitionCall) (parameters : ConfigurationParameters)
    (db : TransitionDatabase) : Except SqlError Unit :=
  match db.currentTransitions.get? (p.tenantId, p.subjectId) with
  | none => require (p.previousTransitionId = none ∧ p.previousBand = none ∧
      p.previousScore = parameters.initialScore ∧ p.previousRecoveryStreak = 0)
      (.raised "Trust transition previous state conflict.")
  | some current => do
      require (p.previousTransitionId = some current.transitionId ∧
        current.updateVersion < p.updateVersion) (.raised "Trust transition ordering conflict.")
      let previous ← requireSome (db.transitions.get? (p.tenantId, current.transitionId))
        (.raised "query returned no rows")
      require (previous.newScore = p.previousScore ∧ some previous.newBand = p.previousBand ∧
        previous.newRecoveryStreak = p.previousRecoveryStreak)
        (.raised "Trust transition previous state conflict.")

structure TransitionConfirmation where
  tenantId : TenantId
  subjectId : SubjectId
  transitionId : TransitionId
  eventId : EventId
  updateVersion : ℕ
  explanationHashSha256 : Sha256Digest
  eventSha256 : Sha256Digest
  recordedAt : Timestamp
  deriving DecidableEq, Repr

def TransitionCall.confirmation (p : TransitionCall) (recordedAt : Timestamp) :
    TransitionConfirmation :=
  ⟨p.tenantId, p.subjectId, p.transitionId, p.eventId, p.updateVersion, p.explanationHashSha256,
    p.eventSha256, recordedAt⟩

/-- The inserts, with the constraints that the checks before leave open. -/
def insertTransition (p : TransitionCall) (recordedAt : Timestamp) (db : TransitionDatabase) :
    Except SqlError TransitionDatabase := do
  require (∀ other ∈ db.transitions.rows, other.eventId ≠ p.eventId)
    (.uniqueViolation "subject_trust_transitions_event_unique")
  require (∀ other ∈ db.transitions.rows, ¬(other.tenantId = p.tenantId ∧
    other.subjectId = p.subjectId ∧ other.updateVersion = p.updateVersion))
    (.uniqueViolation "subject_trust_transitions_state_unique")
  let transitions ← requireSome (db.transitions.insertNew (p.row recordedAt))
    (.uniqueViolation "subject_trust_transitions_pk")
  require (∀ other ∈ db.events.rows, other.eventId ≠ p.eventId)
    (.uniqueViolation "trust_transition_events_id_global_unique")
  let events ← requireSome (db.events.insertNew (p.eventRow recordedAt))
    (.uniqueViolation "trust_transition_events_pk")
  return { db with
    transitions := transitions
    events := events
    currentTransitions := db.currentTransitions.upsert
      ⟨p.tenantId, p.subjectId, p.transitionId, p.updateVersion⟩ }

def recordSubjectTrustTransition (digests : TransitionDigests) (session : TransitionSession)
    (p : TransitionCall) (db : TransitionDatabase) :
    Except SqlError (TransitionDatabase × TransitionConfirmation) := do
  require (p.inputValid session.clock) (.raised "Trust transition input is invalid.")
  require p.contributionsValid (.raised "Trust transition contributions are invalid.")
  require (digests.explanation p.explanation = p.explanationHashSha256 ∧
    digests.event p.event = p.eventSha256) (.raised "Trust transition digests are invalid.")
  match db.transitions.get? (p.tenantId, p.transitionId) with
  | some existing => do
      require (p.repeats existing db) (.raised "Trust transition identity conflict.")
      return (db, p.confirmation existing.recordedAt)
  | none => do
      let state ← requireSome (currentState? p db.trust)
        (.raised "Current trust state does not match the transition.")
      require (state.modelVersion = p.modelVersion ∧
        state.configurationVersion = p.configurationVersion ∧
        state.observedAt = instantOf p.observedAt)
        (.raised "Current trust state does not match the transition.")
      let parameters ← requireSome
        ((session.configuration p.tenantId p.configurationVersion).filter
          (·.modelVersion = p.modelVersion))
        (.raised "Trust configuration does not match the transition.")
      require (contributionsMatch state parameters.weights p.contributions p.weightedScore)
        (.raised "Trust transition contributions do not match durable state.")
      checkPrevious p parameters db
      require p.changeConsistent (.raised "Trust transition state change is inconsistent.")
      require p.explanationMatches (.raised "Trust explanation does not match transition fields.")
      require p.eventMatches (.raised "Trust event does not match transition fields.")
      let next ← insertTransition p session.clock db
      return (next, p.confirmation session.clock)

structure LookupSession where
  tenantId : TenantId
  subjectId : SubjectId
  actorIsActive : Bool
  now : Timestamp
  configuration : TenantId → ℕ → Option ConfigurationParameters

/-- `v_age_seconds` -/
def ageSeconds (now evaluatedAt : Timestamp) : ℚ :=
  roundNumeric 3 (max 0 ((now - evaluatedAt : ℚ) / 1000))

/-- The current transition of the actor with the limit of its configuration. -/
def currentTransition? (session : LookupSession) (db : TransitionDatabase) :
    Option (TransitionRow × ℤ) := do
  let current ← db.currentTransitions.get? (session.tenantId, session.subjectId)
  let transition ← (db.transitions.get? (session.tenantId, current.transitionId)).filter fun row =>
    row.subjectId = session.subjectId && row.updateVersion = current.updateVersion
  let parameters ← (session.configuration session.tenantId transition.configurationVersion).filter
    (·.modelVersion = transition.modelVersion)
  return (transition, parameters.staleAfterSeconds)

/-- `trust.get_current_actor_trust_score` -/
def getCurrentActorTrustScore (session : LookupSession) (db : TransitionDatabase) :
    Except SqlError TrustInput := do
  require (session.actorIsActive = true) (.raised "Current trust lookup denied.")
  match currentTransition? session db with
  | none => return {
      tenantId := session.tenantId
      subjectId := session.subjectId
      state := .missing
      usableForPolicy := false
      requiredOutcome := some .deny
      reasonCode := some "TRUST_STATE_MISSING"
      policyScore := none
      policyBand := none
      lastKnownScore := none
      lastKnownBand := none
      ageSeconds := none
      staleAfterSeconds := none
      transitionId := none
      updateVersion := none
      configurationVersion := none }
  | some (transition, staleAfterSeconds) =>
      let age := ageSeconds session.now transition.evaluatedAt
      let fresh : Bool := age ≤ staleAfterSeconds
      return {
        tenantId := session.tenantId
        subjectId := session.subjectId
        state := if fresh then .fresh else .stale
        usableForPolicy := fresh
        requiredOutcome := if fresh then none else some .deny
        reasonCode := if fresh then none else some "TRUST_STATE_STALE"
        policyScore := if fresh then some transition.newScore else none
        policyBand := if fresh then some transition.newBand else none
        lastKnownScore := some transition.newScore
        lastKnownBand := some transition.newBand
        ageSeconds := some age
        staleAfterSeconds := some staleAfterSeconds
        transitionId := some transition.transitionId
        updateVersion := some transition.updateVersion
        configurationVersion := some transition.configurationVersion }

end TenantTrust.Trust
