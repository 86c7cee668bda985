import TenantTrust.Trust.ConsumptionRuns
import TenantTrust.Trust.ExactScore
import TenantTrust.Trust.PollingIndependence
import TenantTrust.Trust.TransitionRecords

/-! Runs of evidence consumption and transition recording for one subject, and whether a stale
observation can make the current score usable. -/

namespace TenantTrust.Trust

open Library Identity Policy

/-- What stays the same during a run; the versions of a configuration do not change. -/
structure TrustService where
  arith : Arithmetic
  two : PowerOfTwo
  digests : TransitionDigests
  configurations : TenantId → ℕ → Option ConfigurationParameters

inductive TransitionOp where
  | consume (op : ConsumptionOp)
  | record (clock : Timestamp) (call : ExplanationCall)

inductive TransitionReply where
  | consumed (reply : ConsumptionReply)
  | recorded (confirmation : TransitionConfirmation)
  deriving DecidableEq, Repr

inductive TransitionFailure where
  | service (code : String)
  | sql (error : SqlError)

def TrustService.apply (service : TrustService) :
    Transaction TransitionDatabase TransitionOp TransitionReply TransitionFailure
  | .consume op, db => do
      let (trust, reply) ← (applyConsumption op db.trust).mapError .sql
      return ({ db with trust := trust }, .consumed reply)
  | .record clock call, db => do
      let documents ← (buildTrustTransitionExplanation service.arith service.two service.digests
        call).mapError .service
      let (next, confirmation) ← (recordSubjectTrustTransition service.digests
        ⟨clock, service.configurations⟩ documents.call db).mapError .sql
      return (next, .recorded confirmation)

abbrev SubjectKey := TenantId × SubjectId

def ExplanationCall.subject (call : ExplanationCall) : SubjectKey :=
  (call.input.tenantId, call.input.subjectId)

/-- The observation of a call is fresh when it is evaluated. -/
def TrustService.ObservedFresh (service : TrustService) (call : ExplanationCall) : Prop :=
  secondsBetween service.arith call.evaluatedAt call.input.observedAt ≤
    call.input.configuration.staleAfterSeconds

/-- A recorded transition that applied a fresh observation of the subject. -/
structure TransitionDatabase.Applied (db : TransitionDatabase) (subject : SubjectKey)
    (row : TransitionRow) : Prop where
  recorded : row ∈ db.transitions
  owner : (row.tenantId, row.subjectId) = subject
  fresh : row.explanation.temporalCalculation.observationStatus = .fresh

def TrustService.lookup (service : TrustService) (subject : SubjectKey) (actorIsActive : Bool)
    (now : Timestamp) : LookupSession :=
  ⟨subject.1, subject.2, actorIsActive, now, service.configurations⟩

/-- Without a fresh observation in the last seconds the lookup leaves the score unusable. -/
def TrustService.Withholds (service : TrustService) (subject : SubjectKey)
    (staleAfterSeconds : ℕ) (db : TransitionDatabase) : Prop :=
  ∀ actorIsActive now answer,
    getCurrentActorTrustScore (service.lookup subject actorIsActive now) db = .ok answer →
    (∀ row, db.Applied subject row → staleAfterSeconds < ageSeconds now row.evaluatedAt) →
    answer.state ≠ .fresh ∧ answer.usableForPolicy = false ∧
      answer.requiredOutcome = some .deny

/-- A transition of the subject that a call records is evaluated while its observation is fresh, or
no later than another that was recorded for a fresh observation. -/
def TrustService.Refreshing (service : TrustService) (subject : SubjectKey)
    (db : TransitionDatabase) : TransitionOp → Prop
  | .consume _ => True
  | .record clock call => call.subject = subject →
      (service.apply (.record clock call) db).isOk = true →
      db.transitions.get? (subject.1, call.transitionId) = none →
      service.ObservedFresh call ∨
        ∃ row, db.Applied subject row ∧ call.evaluatedAt ≤ row.evaluatedAt

/-- The calls for the subject pass the configuration. -/
def TransitionOp.Under (configuration : TransitionConfigurationValue) (subject : SubjectKey) :
    TransitionOp → Prop
  | .consume _ => True
  | .record _ call => call.subject = subject → call.input.configuration = configuration

/-- The stored version of the configuration has its limit. -/
def TrustService.Stores (service : TrustService) (configuration : TransitionConfigurationValue)
    (tenantId : TenantId) : Prop :=
  ∀ parameters,
    service.configurations tenantId configuration.configurationVersion = some parameters →
      parameters.staleAfterSeconds = configuration.staleAfterSeconds

section Build

variable {arith : Arithmetic} {two : PowerOfTwo}

theorem unfedResult_status (configuration : TemporalTrustConfiguration)
    (previous : Option TemporalState) (observation : Option TrustObservation)
    (evaluatedAt : Timestamp) :
    (unfedResult arith two configuration previous observation evaluatedAt).observationStatus =
      observationStatus arith configuration evaluatedAt observation := by
  unfold unfedResult
  split
  · dsimp only
    split <;> rfl
  · rfl

/-- The status that a calculation reports is the one its observation has. -/
theorem advance_status {configuration : TemporalTrustConfiguration}
    {previous : Option TemporalState} {observation : TrustObservation} {evaluatedAt : Timestamp}
    {result : SmoothingResult}
    (advanced : advanceSmoothedTrustScore arith two configuration previous (some observation)
      evaluatedAt = .ok result) :
    result.observationStatus =
      observationStatus arith configuration evaluatedAt (some observation) := by
  simp only [advanceSmoothedTrustScore, normalizePreviousTemporalState, normalizeObservation,
    Checked.bind_eq_ok, Checked.require_eq_ok, Checked.pure_eq_ok, exists_const] at advanced
  obtain ⟨_, ⟨_, rfl⟩, _, ⟨_, rfl⟩, advanced⟩ := advanced
  by_cases fresh : observationStatus arith configuration evaluatedAt (some observation) = .fresh
  · simp only [if_pos fresh, Checked.bind_eq_ok, Checked.require_eq_ok, Checked.pure_eq_ok,
      exists_const] at advanced
    rw [← advanced.2, fresh]
    rfl
  · simp only [if_neg fresh, Checked.pure_eq_ok] at advanced
    rw [← advanced, unfedResult_status]

theorem observationStatus_fresh {configuration : TemporalTrustConfiguration}
    {evaluatedAt : Timestamp} {observation : TrustObservation} :
    observationStatus arith configuration evaluatedAt (some observation) = .fresh ↔
      secondsBetween arith evaluatedAt observation.observedAt ≤
        configuration.staleAfterSeconds := by
  simp only [observationStatus]
  split
  · rename_i late
    exact iff_of_false (by simp) (not_le.mpr late)
  · rename_i early
    exact iff_of_true rfl (not_lt.mp early)

theorem normalized_staleAfterSeconds {value : TransitionConfigurationValue}
    {configuration : TransitionConfiguration}
    (normalized : normalizeTransitionConfiguration value = .ok configuration) :
    configuration.temporal.staleAfterSeconds = value.staleAfterSeconds ∧
      configuration.configurationVersion = value.configurationVersion := by
  simp only [normalizeTransitionConfiguration, defineTemporalTrustConfiguration,
    Checked.bind_eq_ok, Checked.require_eq_ok, Checked.mapError_eq_ok, Checked.pure_eq_ok,
    exists_const] at normalized
  obtain ⟨_, _, _, temporal, defined, rfl⟩ := normalized
  split at defined
  · cases defined
    exact ⟨rfl, rfl⟩
  · cases defined

/-- What the explanation of a call says of the call. -/
structure TrustExplanation.Explains (explanation : TrustExplanation) (service : TrustService)
    (call : ExplanationCall) : Prop where
  transitionId : explanation.transitionId = call.transitionId
  owner : (explanation.tenantId, explanation.subjectId) = call.subject
  evaluatedAt : explanation.evaluatedAt = call.evaluatedAt
  configurationVersion :
    explanation.configurationVersion = call.input.configuration.configurationVersion
  status : explanation.temporalCalculation.observationStatus = .fresh ↔ service.ObservedFresh call

theorem calculate_status {configuration : TransitionConfiguration} {call : ExplanationCall}
    {previous : Option PreviousTransition} {weighted : WeightedTrustScore}
    {temporal : SmoothingResult} {controlled : TransitionControlResult}
    (calculated : calculateTransition arith two configuration call previous =
      .ok (weighted, temporal, controlled)) :
    temporal.observationStatus = .fresh ↔
      secondsBetween arith call.evaluatedAt call.input.observedAt ≤
        configuration.temporal.staleAfterSeconds := by
  simp only [calculateTransition, Checked.bind_eq_ok] at calculated
  obtain ⟨_, _, result, advanced, calculated⟩ := calculated
  have same : result = temporal := by
    split at calculated <;>
      simp only [Checked.bind_eq_ok, Checked.pure_eq_ok, Prod.mk.injEq] at calculated
    · obtain ⟨_, _, _, _, _, same, _⟩ := calculated
      exact same
    · obtain ⟨_, _, _, _, _, same, _⟩ := calculated
      exact same
  rw [← same, advance_status advanced]
  exact observationStatus_fresh

theorem build_explains {service : TrustService} {call : ExplanationCall}
    {documents : TransitionDocuments}
    (built : buildTrustTransitionExplanation service.arith service.two service.digests call =
      .ok documents) : documents.explanation.Explains service call := by
  simp only [buildTrustTransitionExplanation, Checked.bind_eq_ok,
    Checked.require_eq_ok, Checked.mapError_eq_ok, exists_const, Prod.exists] at built
  obtain ⟨_, _, _, _, configuration, normalized, _, _, _, _, _, weighted, temporal, controlled,
    calculated, built⟩ := built
  obtain ⟨_, _, _, _, finished⟩ := built
  have same := normalized_staleAfterSeconds normalized
  cases Checked.pure_eq_ok.mp finished
  refine ⟨rfl, rfl, rfl, same.2, ?_⟩
  rw [TrustService.ObservedFresh, ← same.1]
  exact calculate_status calculated

end Build

section Record

variable {digests : TransitionDigests} {session : TransitionSession} {p : TransitionCall}
  {db next : TransitionDatabase} {confirmation : TransitionConfirmation}

/-- What a call that records a new transition changes. -/
structure Records (session : TransitionSession) (p : TransitionCall)
    (db next : TransitionDatabase) : Prop where
  isNew : db.transitions.get? (p.tenantId, p.transitionId) = none
  inserted : db.transitions.insertNew (p.row session.clock) = some next.transitions
  current : next.currentTransitions = db.currentTransitions.upsert
    ⟨p.tenantId, p.subjectId, p.transitionId, p.updateVersion⟩
  configured : ∃ parameters, session.configuration p.tenantId p.configurationVersion =
    some parameters ∧ parameters.modelVersion = p.modelVersion

theorem insertTransition_tables {recordedAt : Timestamp}
    (inserted : insertTransition p recordedAt db = .ok next) :
    db.transitions.insertNew (p.row recordedAt) = some next.transitions ∧
      next.currentTransitions = db.currentTransitions.upsert
        ⟨p.tenantId, p.subjectId, p.transitionId, p.updateVersion⟩ := by
  simp only [insertTransition, Checked.bind_eq_ok, Checked.require_eq_ok,
    Checked.requireSome_eq_ok, Checked.pure_eq_ok, exists_const] at inserted
  obtain ⟨_, _, transitions, rows, _, _, _, rfl⟩ := inserted
  exact ⟨rows, rfl⟩

theorem record_cases
    (recorded : recordSubjectTrustTransition digests session p db = .ok (next, confirmation)) :
    (next = db ∧ (db.transitions.get? (p.tenantId, p.transitionId)).isSome) ∨
      Records session p db next := by
  simp only [recordSubjectTrustTransition, Checked.bind_eq_ok, Checked.require_eq_ok,
    exists_const] at recorded
  obtain ⟨_, _, _, recorded⟩ := recorded
  cases earlier : db.transitions.get? (p.tenantId, p.transitionId) with
  | some existing =>
      simp only [earlier, Checked.bind_eq_ok, Checked.require_eq_ok, Checked.pure_eq_ok,
        exists_const, Prod.mk.injEq] at recorded
      exact Or.inl ⟨recorded.2.1.symm, Option.isSome_some⟩
  | none =>
      right
      simp only [earlier, Checked.bind_eq_ok, Checked.require_eq_ok, Checked.requireSome_eq_ok,
        Checked.pure_eq_ok, exists_const, Prod.mk.injEq, Option.filter_eq_some_iff,
        decide_eq_true_eq] at recorded
      obtain ⟨_, _, _, parameters, configured, _, _, _, _, _, _, _, inserted, rfl, _⟩ :=
        recorded
      have tables := insertTransition_tables inserted
      exact ⟨earlier, tables.1, tables.2, parameters, configured⟩

end Record

section Lookup

variable {session : LookupSession} {db : TransitionDatabase}

/-- The row that the lookup reads for a subject. -/
structure TransitionDatabase.Current (db : TransitionDatabase) (subject : SubjectKey)
    (row : TransitionRow) : Prop where
  found : ∃ current, db.currentTransitions.get? subject = some current ∧
    db.transitions.get? (subject.1, current.transitionId) = some row
  owner : (row.tenantId, row.subjectId) = subject

theorem currentTransition?_current {row : TransitionRow} {staleAfterSeconds : ℤ}
    (found : currentTransition? session db = some (row, staleAfterSeconds)) :
    db.Current (session.tenantId, session.subjectId) row ∧
      ∃ parameters,
        session.configuration session.tenantId row.configurationVersion = some parameters ∧
          parameters.staleAfterSeconds = staleAfterSeconds := by
  simp only [currentTransition?, Option.bind_eq_bind, Option.bind_eq_some_iff,
    Option.filter_eq_some_iff, Bool.and_eq_true, decide_eq_true_eq, Option.pure_def,
    Option.some.injEq, Prod.mk.injEq] at found
  obtain ⟨current, named, transition, ⟨stored, owned, _⟩, parameters, ⟨configured, _⟩, same,
    limit⟩ := found
  rw [same] at stored owned configured
  have key := congrArg Prod.fst (Table.get?_key stored)
  exact ⟨⟨⟨current, named, stored⟩, Prod.ext key owned⟩, parameters, configured, limit⟩

/-- A score is usable only while the transition that it is of is young enough. -/
theorem lookup_cases {answer : TrustInput}
    (answered : getCurrentActorTrustScore session db = .ok answer) :
    (answer.state ≠ .fresh ∧ answer.usableForPolicy = false ∧
        answer.requiredOutcome = some .deny) ∨
      ∃ row staleAfterSeconds, currentTransition? session db = some (row, staleAfterSeconds) ∧
        ageSeconds session.now row.evaluatedAt ≤ staleAfterSeconds := by
  simp only [getCurrentActorTrustScore, Checked.bind_eq_ok, Checked.require_eq_ok,
    exists_const] at answered
  have shown := answered.2
  cases found : currentTransition? session db with
  | none =>
      rw [found] at shown
      cases shown
      exact Or.inl ⟨Freshness.noConfusion, rfl, rfl⟩
  | some pair =>
      rw [found] at shown
      by_cases young : ageSeconds session.now pair.1.evaluatedAt ≤ pair.2
      · exact Or.inr ⟨pair.1, pair.2, rfl, young⟩
      · cases shown
        left
        simp only [young, decide_false, Bool.false_eq_true, if_false, ne_eq, reduceCtorEq,
          not_false_eq_true, and_self]

/-- The answer of the lookup for a transition that is young enough. -/
theorem lookup_young {row : TransitionRow} {staleAfterSeconds : ℤ}
    (active : session.actorIsActive = true)
    (found : currentTransition? session db = some (row, staleAfterSeconds))
    (young : ageSeconds session.now row.evaluatedAt ≤ staleAfterSeconds) :
    ∃ answer, getCurrentActorTrustScore session db = .ok answer ∧
      answer.usableForPolicy = true := by
  simp only [getCurrentActorTrustScore, Checked.bind_eq_ok, Checked.require_eq_ok, exists_const,
    active, found, true_and]
  exact ⟨_, rfl, decide_eq_true young⟩

theorem ageSeconds_antitone (now : Timestamp) {early late : Timestamp} (ordered : early ≤ late) :
    ageSeconds now late ≤ ageSeconds now early := by
  apply roundNumeric_mono 3 (le_max_left _ _)
  apply max_le_max_left
  have cast : (early : ℚ) ≤ late := by exact_mod_cast ordered
  linarith

theorem ageSeconds_of_le {now evaluatedAt : Timestamp} (ordered : evaluatedAt ≤ now) :
    ageSeconds now evaluatedAt = (now - evaluatedAt : ℚ) / 1000 := by
  obtain ⟨n, past⟩ := Int.eq_ofNat_of_zero_le (Int.sub_nonneg.mpr ordered)
  have cast : (now - evaluatedAt : ℚ) = n := by exact_mod_cast congrArg (Int.cast (R := ℚ)) past
  have nonneg : (0 : ℚ) ≤ n / 1000 := by positivity
  rw [ageSeconds, cast, max_eq_right nonneg]
  exact @roundNumeric_of_grid 3 _ n (by norm_num)

end Lookup

section Runs

variable {service : TrustService} {subject : SubjectKey}
  {configuration : TransitionConfigurationValue} {db next : TransitionDatabase}

/-- The transition that is current was evaluated no later than one with a fresh observation. -/
def TransitionDatabase.Covered (db : TransitionDatabase) (subject : SubjectKey)
    (configuration : TransitionConfigurationValue) : Prop :=
  ∀ row, db.Current subject row →
    row.configurationVersion = configuration.configurationVersion ∧
      ∃ fresh, db.Applied subject fresh ∧ row.evaluatedAt ≤ fresh.evaluatedAt

theorem TransitionDatabase.Covered.withholds (covered : db.Covered subject configuration)
    (stores : service.Stores configuration subject.1) :
    service.Withholds subject configuration.staleAfterSeconds db := by
  intro actorIsActive now answer answered old
  rcases lookup_cases answered with denied | ⟨row, limit, found, young⟩
  · exact denied
  · exfalso
    obtain ⟨current, parameters, configured, same⟩ := currentTransition?_current found
    obtain ⟨version, fresh, applied, ordered⟩ := covered row current
    rw [version] at configured
    have stored : limit = configuration.staleAfterSeconds :=
      same.symm.trans (stores parameters configured)
    have late := old fresh applied
    have aged := ageSeconds_antitone now ordered
    have young : ageSeconds now row.evaluatedAt ≤ configuration.staleAfterSeconds := by
      rw [stored] at young
      exact_mod_cast young
    linarith

theorem TransitionDatabase.Applied.mono {row : TransitionRow} (applied : db.Applied subject row)
    (kept : ∀ other ∈ db.transitions, other ∈ next.transitions) : next.Applied subject row :=
  ⟨kept row applied.recorded, applied.owner, applied.fresh⟩

/-- The row that a recorded call leaves as the current one of its subject. -/
theorem Records.found {session : TransitionSession} {p : TransitionCall}
    (records : Records session p db next) :
    next.currentTransitions.get? (p.tenantId, p.subjectId) =
        some ⟨p.tenantId, p.subjectId, p.transitionId, p.updateVersion⟩ ∧
      next.transitions.get? (p.tenantId, p.transitionId) = some (p.row session.clock) := by
  constructor
  · rw [records.current, Table.get?_upsert]
    exact if_pos rfl
  · rw [Table.get?_insertNew records.inserted]
    exact if_pos rfl

theorem Records.kept {session : TransitionSession} {p : TransitionCall}
    (records : Records session p db next) :
    ∀ other ∈ db.transitions, other ∈ next.transitions := by
  intro other member
  exact (Table.mem_insertNew records.inserted other).mpr (Or.inl member)

theorem Records.currentTransition? {clock : Timestamp} {p : TransitionCall}
    (records : Records ⟨clock, service.configurations⟩ p db next)
    (owner : (p.tenantId, p.subjectId) = subject) (now : Timestamp) :
    ∃ parameters, service.configurations p.tenantId p.configurationVersion = some parameters ∧
      Trust.currentTransition? (service.lookup subject true now) next =
        some (p.row clock, parameters.staleAfterSeconds) := by
  obtain ⟨named, stored⟩ := records.found
  obtain ⟨parameters, configured, model⟩ := records.configured
  refine ⟨parameters, configured, ?_⟩
  simp only [Trust.currentTransition?, Option.bind_eq_bind, Option.bind_eq_some_iff,
    Option.filter_eq_some_iff, Bool.and_eq_true, decide_eq_true_eq, Option.pure_def]
  rw [← owner]
  exact ⟨_, named, _, ⟨stored, rfl, rfl⟩, parameters, ⟨configured, model⟩, rfl⟩

theorem Records.covered {session : TransitionSession} {p : TransitionCall}
    (records : Records session p db next) (covered : db.Covered subject configuration)
    (refreshing : (p.tenantId, p.subjectId) = subject →
      p.configurationVersion = configuration.configurationVersion ∧
        (p.explanation.temporalCalculation.observationStatus = .fresh ∨
          ∃ row, db.Applied subject row ∧ p.evaluatedAt ≤ row.evaluatedAt)) :
    next.Covered subject configuration := by
  intro row current
  obtain ⟨named, namedCurrent, stored⟩ := current.found
  by_cases own : (p.tenantId, p.subjectId) = subject
  · have same := records.found
    rw [← own] at namedCurrent stored
    rw [same.1] at namedCurrent
    cases namedCurrent
    rw [same.2] at stored
    cases stored
    obtain ⟨version, fresh⟩ := refreshing own
    refine ⟨version, ?_⟩
    rcases fresh with fresh | ⟨row, applied, ordered⟩
    · have member := (Table.mem_insertNew records.inserted _).mpr (Or.inr rfl)
      exact ⟨_, ⟨member, own, fresh⟩, le_refl _⟩
    · exact ⟨row, applied.mono records.kept, ordered⟩
  · rw [records.current, Table.get?_upsert, CurrentTransition.key, if_neg own] at namedCurrent
    rw [Table.get?_insertNew records.inserted] at stored
    split at stored
    · cases stored
      exact absurd current.owner own
    · obtain ⟨version, fresh, applied, ordered⟩ :=
        covered row ⟨⟨named, namedCurrent, stored⟩, current.owner⟩
      exact ⟨version, fresh, applied.mono records.kept, ordered⟩

/-- A recorded operation is that of its documents. -/
theorem apply_record {clock : Timestamp} {call : ExplanationCall} {reply : TransitionReply}
    (succeeded : service.apply (.record clock call) db = .ok (next, reply)) :
    ∃ documents : TransitionDocuments, documents.explanation.Explains service call ∧
      ((next = db ∧ (db.transitions.get? (call.input.tenantId, call.transitionId)).isSome) ∨
        Records ⟨clock, service.configurations⟩ documents.call db next) := by
  simp only [TrustService.apply, Checked.bind_eq_ok, Checked.mapError_eq_ok, Checked.pure_eq_ok,
    Prod.mk.injEq, Prod.exists] at succeeded
  obtain ⟨documents, built, _, _, recorded, rfl, _⟩ := succeeded
  have explains := build_explains built
  refine ⟨documents, explains, ?_⟩
  have key : (documents.explanation.tenantId, documents.explanation.transitionId) =
      (call.input.tenantId, call.transitionId) :=
    Prod.ext (Prod.ext_iff.mp explains.owner).1 explains.transitionId
  rw [← key]
  exact record_cases recorded

theorem covered_step {op : TransitionOp} {reply : TransitionReply}
    (covered : db.Covered subject configuration) (under : op.Under configuration subject)
    (refreshing : service.Refreshing subject db op)
    (succeeded : service.apply op db = .ok (next, reply)) :
    next.Covered subject configuration := by
  cases op with
  | consume op =>
      simp only [TrustService.apply, Checked.bind_eq_ok, Checked.mapError_eq_ok,
        Checked.pure_eq_ok, Prod.mk.injEq, Prod.exists] at succeeded
      obtain ⟨_, _, _, rfl, _⟩ := succeeded
      intro row current
      obtain ⟨version, fresh, applied, ordered⟩ := covered row ⟨current.found, current.owner⟩
      exact ⟨version, fresh, ⟨applied.recorded, applied.owner, applied.fresh⟩, ordered⟩
  | record clock call =>
      obtain ⟨documents, explains, ⟨rfl, _⟩ | records⟩ := apply_record succeeded
      · exact covered
      · apply records.covered covered
        intro own
        have named : call.subject = subject := explains.owner.symm.trans own
        refine ⟨?_, ?_⟩
        · rw [← under named]
          exact explains.configurationVersion
        · have isNew : db.transitions.get? (subject.1, call.transitionId) = none := by
            rw [← own, ← explains.transitionId]
            exact records.isNew
          have accepted : (service.apply (.record clock call) db).isOk = true := by
            rw [succeeded]
            rfl
          rcases refreshing named accepted isNew with fresh | ⟨row, applied, ordered⟩
          · exact Or.inl (explains.status.mpr fresh)
          · exact Or.inr ⟨row, applied, explains.evaluatedAt.trans_le ordered⟩

theorem withholds_run (stores : service.Stores configuration subject.1)
    {start : TransitionDatabase} (fresh : start.currentTransitions.get? subject = none)
    {ops : List TransitionOp} (under : ∀ op ∈ ops, op.Under configuration subject)
    (refreshing : Transaction.Guarded service.apply (service.Refreshing subject) start ops) :
    service.Withholds subject configuration.staleAfterSeconds
      (Transaction.run service.apply start ops) := by
  have initial : start.Covered subject configuration := by
    intro row current
    obtain ⟨named, present, _⟩ := current.found
    rw [fresh] at present
    cases present
  have guarded : Transaction.Guarded service.apply
      (fun db op => op.Under configuration subject ∧ service.Refreshing subject db op)
      start ops := by
    rw [Transaction.guarded_iff]
    intro front op back split_
    have member : op ∈ ops := by simp [split_]
    exact ⟨under op member,
      (Transaction.guarded_iff start ops).mp refreshing front op back split_⟩
  have step : ∀ (db : TransitionDatabase) op next reply, db.Covered subject configuration →
      op.Under configuration subject ∧ service.Refreshing subject db op →
      service.apply op db = .ok (next, reply) → next.Covered subject configuration :=
    fun db op next reply covered guard succeeded =>
      covered_step covered guard.1 guard.2 succeeded
  have covered := Transaction.run_preserves_guarded
    (fun db : TransitionDatabase => db.Covered subject configuration) step start ops guarded
    initial
  exact covered.withholds stores

/-- A new transition for which the condition fails keeps the score usable for too long. -/
theorem not_withholds_of_not_refreshing (stores : service.Stores configuration subject.1)
    {clock : Timestamp} {call : ExplanationCall} {reply : TransitionReply}
    (named : call.subject = subject) (under : call.input.configuration = configuration)
    (isNew : db.transitions.get? (subject.1, call.transitionId) = none)
    (succeeded : service.apply (.record clock call) db = .ok (next, reply))
    (fails : ¬ service.Refreshing subject db (.record clock call)) :
    ¬ service.Withholds subject configuration.staleAfterSeconds next := by
  obtain ⟨documents, explains, ⟨_, earlier⟩ | records⟩ := apply_record succeeded
  · rw [show (call.input.tenantId, call.transitionId) = (subject.1, call.transitionId) by
      rw [← named]; rfl, isNew] at earlier
    cases earlier
  · intro withholds
    have owner : (documents.call.tenantId, documents.call.subjectId) = subject :=
      explains.owner.trans named
    obtain ⟨parameters, configured, current⟩ := records.currentTransition? owner
      (call.evaluatedAt + seconds configuration.staleAfterSeconds)
    have limit : parameters.staleAfterSeconds = configuration.staleAfterSeconds := by
      apply stores parameters
      rw [← configured, ← under, ← explains.configurationVersion, ← owner]
      rfl
    let now := call.evaluatedAt + seconds configuration.staleAfterSeconds
    have waited : (now : ℚ) = call.evaluatedAt + configuration.staleAfterSeconds * 1000 := by
      simp [now, seconds]
    have past : call.evaluatedAt ≤ now :=
      le_add_of_nonneg_right (mul_nonneg (Int.natCast_nonneg _) (by norm_num))
    have young : ageSeconds now call.evaluatedAt ≤ (parameters.staleAfterSeconds : ℚ) := by
      rw [ageSeconds_of_le past, limit, waited]
      apply le_of_eq
      push_cast
      ring
    rw [← explains.evaluatedAt] at young
    obtain ⟨answer, answered, usable⟩ := lookup_young rfl current young
    have old : ∀ row, next.Applied subject row →
        configuration.staleAfterSeconds < ageSeconds now row.evaluatedAt := by
      intro row applied
      have before : row.evaluatedAt < call.evaluatedAt := by
        by_contra reached
        apply fails
        intro _ _ _
        rcases (Table.mem_insertNew records.inserted row).mp applied.recorded with earlier | rfl
        · exact Or.inr ⟨row, ⟨earlier, applied.owner, applied.fresh⟩, not_lt.mp reached⟩
        · exact Or.inl (explains.status.mp applied.fresh)
      rw [ageSeconds_of_le (before.le.trans past), waited]
      have cast : (row.evaluatedAt : ℚ) < call.evaluatedAt := by exact_mod_cast before
      linarith
    have denied := withholds true now answer answered old
    rw [usable] at denied
    cases denied.2.1

/-- Which runs leave the score unusable once the fresh observations are too old: those whose
transitions are evaluated with a fresh observation or not after one. -/
theorem stale_evidence_withheld (stores : service.Stores configuration subject.1) :
    (∀ (start : TransitionDatabase) ops, start.currentTransitions.get? subject = none →
      (∀ op ∈ ops, op.Under configuration subject) →
      Transaction.Guarded service.apply (service.Refreshing subject) start ops →
      ∀ front back, ops = front ++ back →
        service.Withholds subject configuration.staleAfterSeconds
          (Transaction.run service.apply start front)) ∧
    ∀ (db next : TransitionDatabase) clock call reply, call.subject = subject →
      call.input.configuration = configuration →
      db.transitions.get? (subject.1, call.transitionId) = none →
      service.apply (.record clock call) db = .ok (next, reply) →
      ¬ service.Refreshing subject db (.record clock call) →
      ¬ service.Withholds subject configuration.staleAfterSeconds next := by
  constructor
  · intro start ops fresh under refreshing front back split_
    have guarded := refreshing
    rw [split_, Transaction.guarded_append] at guarded
    apply withholds_run stores fresh _ guarded.1
    intro op member
    apply under op
    rw [split_]
    exact List.mem_append_left back member
  · intro db next clock call reply named under isNew succeeded fails
    exact not_withholds_of_not_refreshing stores named under isNew succeeded fails

end Runs

namespace StaleScenario

/-! One subject whose five components are consumed early and evaluated later. -/

def subject : SubjectKey := (Consumption.tenant, Consumption.subject)

def configuration : TransitionConfigurationValue where
  modelVersion := "1.0.0"
  configurationVersion := 1
  initialScore := 50
  smoothingAlpha := 1 / 2
  staleAfterSeconds := 60
  weights := ScoreScenario.configuration.weights

def parameters : ConfigurationParameters where
  modelVersion := "1.0.0"
  initialScore := 50
  smoothingAlpha := 1 / 2
  maximumSourceInfluence := 1
  staleAfterSeconds := 60
  weights := ScoreScenario.weightTenThousandths.map fun n : ℕ => n / 10 ^ 4

def service : TrustService where
  arith := .binary64
  two := PollingScenario.wholePowers
  digests := ⟨fun _ => ⟨1⟩, fun _ => ⟨2⟩⟩
  configurations := fun _ _ => some parameters

theorem stores : service.Stores configuration subject.1 := by
  intro stored same
  cases same
  rfl

def components : Components ℕ := ⟨50, 10, 20, 30, 40⟩

def sequence : Components ℕ := ⟨5, 1, 2, 3, 4⟩

def references : List EvidenceReference :=
  trustComponentIds.map fun componentId =>
    ⟨⟨sequence.get componentId⟩, ⟨sequence.get componentId⟩, componentId⟩

def call (evaluatedAt : Timestamp) : ExplanationCall where
  transitionId := ⟨1⟩
  eventId := ⟨1⟩
  producer := ⟨"trust-engine", .ofChars "one".toList⟩
  evaluatedAt := evaluatedAt
  input := {
    tenantId := subject.1
    subjectId := subject.2
    updateVersion := 1
    correlationId := ⟨1⟩
    causationId := ⟨5⟩
    components := components.map fun n : ℕ => some (.ofRat n)
    evidenceReferences := references
    configuration := configuration
    observedAt := 6000
    source := ⟨.plain ⟨1⟩, some 1, []⟩
    criticalEvidence := none }
  previousTransition := none

def start : TransitionDatabase := ⟨Consumption.published, Table.empty, Table.empty, Table.empty⟩

/-- The components, and their evaluation. -/
def ops (evaluatedAt : Timestamp) : List TransitionOp :=
  [1, 2, 3, 4, 5].map (fun n => .consume (Consumption.consume n)) ++
    [.record evaluatedAt (call evaluatedAt)]

theorem under (evaluatedAt : Timestamp) :
    ∀ op ∈ ops evaluatedAt, op.Under configuration subject := by
  intro op member
  rcases List.mem_append.mp member with consumed | recorded
  · obtain ⟨n, _, rfl⟩ := List.mem_map.mp consumed
    trivial
  · rw [List.mem_singleton.mp recorded]
    exact fun _ => rfl

def statuses (db : TransitionDatabase) : List ObservationStatus :=
  db.transitions.rows.map fun row => row.explanation.temporalCalculation.observationStatus

def answer (now : Timestamp) (db : TransitionDatabase) : Except SqlError (Freshness × Bool) :=
  (getCurrentActorTrustScore (service.lookup subject true now) db).map fun shown =>
    (shown.state, shown.usableForPolicy)

/-- The same components, evaluated when they are stale and when they are fresh. -/
theorem evaluated :
    statuses (Transaction.run service.apply start (ops 100000)) = [.stale] ∧
      answer 100000 (Transaction.run service.apply start (ops 100000)) = .ok (.fresh, true) ∧
      statuses (Transaction.run service.apply start (ops 20000)) = [.fresh] ∧
      answer 20000 (Transaction.run service.apply start (ops 20000)) = .ok (.fresh, true) ∧
      secondsBetween service.arith 20000 6000 ≤ 60 := by
  decide +kernel

/-- What the lookup answers in the state after a run. -/
theorem answered {now : Timestamp} {db : TransitionDatabase}
    (shown : answer now db = .ok (.fresh, true)) : ∃ reply,
    getCurrentActorTrustScore (service.lookup subject true now) db = .ok reply ∧
      reply.usableForPolicy = true := by
  obtain ⟨reply, returned, values⟩ := Checked.map_eq_ok.mp shown
  exact ⟨reply, returned, congrArg Prod.snd values⟩

end StaleScenario

open StaleScenario in
/-- A cold start on a stale observation is usable. -/
theorem stale_evidence_usable :
    ¬ ∀ (service : TrustService) subject configuration, service.Stores configuration subject.1 →
      ∀ (start : TransitionDatabase) ops, start.currentTransitions.get? subject = none →
        (∀ op ∈ ops, op.Under configuration subject) →
        service.Withholds subject configuration.staleAfterSeconds
          (Transaction.run service.apply start ops) := by
  intro claim
  have withheld := claim service subject configuration stores start (ops 100000) rfl (under 100000)
  obtain ⟨recorded, shown, _⟩ := evaluated
  obtain ⟨reply, returned, usable⟩ := answered shown
  have denied := withheld true 100000 reply returned (by
    intro row applied
    have status := List.mem_map_of_mem
      (f := fun row : TransitionRow => row.explanation.temporalCalculation.observationStatus)
      applied.recorded
    rw [applied.fresh] at status
    change ObservationStatus.fresh ∈ statuses _ at status
    rw [recorded] at status
    cases List.mem_singleton.mp status)
  rw [usable] at denied
  cases denied.2.1

open StaleScenario in
theorem stale_evidence_withheld_promptly :
    service.Withholds subject 60 (Transaction.run service.apply start (ops 20000)) ∧
      ∃ reply, getCurrentActorTrustScore (service.lookup subject true 20000)
          (Transaction.run service.apply start (ops 20000)) = .ok reply ∧
        reply.usableForPolicy = true := by
  obtain ⟨_, _, _, shown, fresh⟩ := evaluated
  have refreshing : Transaction.Guarded service.apply (service.Refreshing subject) start
      (ops 20000) := by
    rw [ops, Transaction.guarded_append]
    refine ⟨⟨trivial, trivial, trivial, trivial, trivial, trivial⟩, ?_, trivial⟩
    exact fun _ _ _ => Or.inl fresh
  have withheld := (stale_evidence_withheld stores).1 start (ops 20000) rfl (under 20000)
    refreshing (ops 20000) [] (List.append_nil _).symm
  exact ⟨withheld, answered shown⟩

end TenantTrust.Trust
