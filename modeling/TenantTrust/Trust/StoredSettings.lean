import TenantTrust.Trust.ExactScore
import TenantTrust.Trust.ReplaySafety
import TenantTrust.Trust.SettingRequests

/-! Which numeric settings the columns keep as they were requested. -/

namespace TenantTrust.Trust

open Library Identity

section Places

variable {x : Binary64} {places : ℕ}

theorem written_reads (x : Binary64) : Binary64.ofRat (written x) = x :=
  Binary64.numeral_rounds x

theorem HasPlaces.rounds (short : HasPlaces places x) :
    roundNumeric places (written x) = written x := by
  obtain ⟨n, grid⟩ := short
  exact roundNumeric_of_grid grid

/-- A number that comes back from its column was written with the places of the column. -/
theorem hasPlaces_of_reads (few : places ≤ 6) (nonneg : 0 ≤ x.value) (below : x.value ≤ 100)
    (reads : Binary64.ofRat (roundNumeric places (written x)) = x) : HasPlaces places x := by
  have writtenNonneg := written_nonneg nonneg
  have writtenBelow : written x ≤ 100 := by
    have bound := written_le 100 (by decide) (by exact_mod_cast below)
    rwa [Nat.cast_ofNat] at bound
  have scale : (0 : ℚ) < 10 ^ places := by positivity
  have floorNonneg : 0 ≤ ⌊written x * 10 ^ places + 1 / 2⌋ := by
    apply Int.floor_nonneg.mpr
    positivity
  obtain ⟨n, floor⟩ := Int.eq_ofNat_of_zero_le floorNonneg
  have stored : roundNumeric places (written x) = n / 10 ^ places := by
    rw [roundNumeric_of_nonneg writtenNonneg, floor, Int.cast_natCast]
  have small : (n : ℚ) / 10 ^ places ≤ 1000000 := by
    have hundred : roundNumeric places 100 = 100 :=
      roundNumeric_of_grid (n := 100 * 10 ^ places) (by
        push_cast
        rw [mul_div_cancel_right₀ _ scale.ne'])
    have bound := roundNumeric_mono places writtenNonneg writtenBelow
    rw [hundred, stored] at bound
    exact bound.trans (by norm_num)
  refine ⟨n, ?_⟩
  rw [← reads, stored]
  exact written_ofRat few small

theorem written_pos (positive : 0 < x.value) : 0 < written x := by
  apply lt_of_le_of_ne (written_nonneg positive.le)
  intro zero
  have reads := written_reads x
  rw [← zero] at reads
  have value : x.value = 0 := by
    rw [← reads]
    exact Binary64.nearest_zero
  exact positive.ne' value

theorem written_le_one (below : x.value ≤ 1) : written x ≤ 1 := by
  have bound := written_le 1 (by decide) (by exact_mod_cast below)
  rwa [Nat.cast_one] at bound

theorem written_le_hundred (below : x.value ≤ 100) : written x ≤ 100 := by
  have bound := written_le 100 (by decide) (by exact_mod_cast below)
  rwa [Nat.cast_ofNat] at bound

end Places

/-- Weights written with four places add up to exactly one. -/
theorem totalWeight_written {model : TrustModelConfiguration}
    (short : ∀ componentId, HasPlaces 4 (model.weights.get componentId)) :
    totalWeight (model.weights.map written) = 1 := by
  choose units grid using short
  have near := abs_le.mp (sum_written_weights_near model)
  simp only [trustComponentIds, List.map_cons, List.map_nil, List.sum_cons, List.sum_nil,
    grid] at near
  have total : totalWeight (model.weights.map written)
      = (units .identity + units .device + units .behaviour + units .certificate
        + units .compliance : ℕ) / 10 ^ 4 := by
    have each : ∀ componentId, (model.weights.map written).get componentId
        = units componentId / 10 ^ 4 := by
      intro componentId
      rw [Components.get_map, grid]
    have identity := each .identity
    have device := each .device
    have behaviour := each .behaviour
    have certificate := each .certificate
    have compliance := each .compliance
    simp only [Components.get] at identity device behaviour certificate compliance
    rw [totalWeight, identity, device, behaviour, certificate, compliance]
    push_cast
    ring
  rw [total]
  generalize sum : units .identity + units .device + units .behaviour + units .certificate
    + units .compliance = n
  have cast : (units .identity + units .device + units .behaviour + units .certificate
      + units .compliance : ℚ) = n := by
    rw [← sum]
    push_cast
    ring
  have low : (9999 : ℚ) < n := by linarith
  have high : (n : ℚ) < 10001 := by linarith
  have exact_ : n = 10000 := by
    have least : 9999 < n := by exact_mod_cast low
    have most : n < 10001 := by exact_mod_cast high
    omega
  rw [exact_]
  norm_num

/-- The decimals of a draft fit the columns that they are stored in. -/
structure NormalizedDraft.FitsColumns (draft : NormalizedDraft) : Prop where
  initialScore : HasPlaces 2 draft.initialScore
  smoothingAlpha : HasPlaces 4 draft.smoothingAlpha
  maximumSourceInfluence : HasPlaces 4 draft.maximumSourceInfluence
  weights : ∀ componentId, HasPlaces 4 (draft.model.weights.get componentId)

/-- What an accepted request guarantees. -/
structure NormalizedDraft.Accepted (draft : NormalizedDraft) : Prop where
  initialScore : 0 ≤ draft.initialScore.value ∧ draft.initialScore.value ≤ 100
  smoothingAlpha : 0 < draft.smoothingAlpha.value ∧ draft.smoothingAlpha.value ≤ 1
  maximumSourceInfluence : 0 < draft.maximumSourceInfluence.value ∧
    draft.maximumSourceInfluence.value ≤ 1
  staleAfterSeconds : 1 ≤ draft.staleAfterSeconds ∧ draft.staleAfterSeconds ≤ 2592000
  reasonCode : isReasonCode draft.reasonCode = true

theorem normalizeDraftRequest_accepted {input : DraftRequest} {draft : NormalizedDraft}
    (normalized : normalizeDraftRequest input = .ok draft) : draft.Accepted := by
  simp only [normalizeDraftRequest, Checked.bind_eq_ok, Checked.require_eq_ok,
    Checked.requireSome_eq_ok, Checked.mapError_eq_ok, Checked.pure_eq_ok, exists_const]
    at normalized
  obtain ⟨influence, _, bounds, model, _, initialScore, _, alpha, _, stale, _, temporal, defined,
    reason, rfl⟩ := normalized
  unfold defineTemporalTrustConfiguration at defined
  split at defined
  · rename_i valid
    exact ⟨valid.1, valid.2.1, bounds, valid.2.2, reason⟩
  · cases defined

/-- The administrator may create a draft at this time, and another version exists. -/
structure DraftPermitted (session : Session) (tenantActive : Bool) (occurredAt : Instant)
    (context : AdministratorContext) (store : ConfigurationStore) : Prop where
  admin : session.actorIsTenantAdmin = true
  tenant : tenantActive = true
  window : withinChangeWindow session.clock occurredAt = true
  subject : session.subjectId = context.subjectId
  version : ∃ version, nextConfigurationVersion store.configurations = .ok version

/-- The draft is stored, and its row is confirmed to the administrator. -/
def DraftConfirmed (draft : NormalizedDraft) (call : DraftCall) (context : AdministratorContext)
    (store : ConfigurationStore) : Prop :=
  ∃ next row result, createTrustConfigurationDraft call store = .ok (next, row) ∧
    row ∈ next.configurations ∧
    validateDraftResult (mapConfiguration row) context draft = .ok result

section Drafts

variable {draft : NormalizedDraft}

theorem stored_of_fits (fits : draft.FitsColumns) :
    draft.parameters.stored = draft.parameters := by
  have weights : (draft.model.weights.map written).map (roundNumeric 4)
      = draft.model.weights.map written := by
    have each : ∀ componentId,
        roundNumeric 4 ((draft.model.weights.map written).get componentId)
          = written (draft.model.weights.get componentId) := by
      intro componentId
      rw [Components.get_map]
      exact (fits.weights componentId).rounds
    exact congrArg Components.tabulate (funext each)
  simp only [ConfigurationParameters.stored, NormalizedDraft.parameters,
    fits.initialScore.rounds, fits.smoothingAlpha.rounds, fits.maximumSourceInfluence.rounds,
    weights]

theorem parameters_valid (accepted : draft.Accepted) (fits : draft.FitsColumns) :
    draft.parameters.Valid := by
  obtain ⟨scoreLeast, scoreMost⟩ := accepted.initialScore
  obtain ⟨alphaLeast, alphaMost⟩ := accepted.smoothingAlpha
  obtain ⟨influenceLeast, influenceMost⟩ := accepted.maximumSourceInfluence
  obtain ⟨staleLeast, staleMost⟩ := accepted.staleAfterSeconds
  refine ⟨draft.model.version_valid, ⟨written_nonneg scoreLeast, written_le_hundred scoreMost⟩,
    ⟨written_pos alphaLeast, written_le_one alphaMost⟩,
    ⟨written_pos influenceLeast, written_le_one influenceMost⟩, ?_, ?_,
    totalWeight_written fits.weights⟩
  · change (1 : ℤ) ≤ draft.staleAfterSeconds ∧ (draft.staleAfterSeconds : ℤ) ≤ 2592000
    omega
  · intro componentId _
    obtain ⟨least, most⟩ := draft.model.weights_valid componentId
    change 0 ≤ (draft.model.weights.map written).get componentId ∧
      (draft.model.weights.map written).get componentId ≤ 1
    rw [Components.get_map]
    exact ⟨written_nonneg least, written_le_one most⟩

theorem check_of_valid {row : TrustConfigurationRow} (valid : row.parameters.Valid)
    (version : 0 < row.configurationVersion) (lifecycle : row.LifecycleCheck)
    (ordered : row.createdAt ≤ row.updatedAt) : row.check = .ok () := by
  obtain ⟨model, score, alpha, influence, stale, weights, total⟩ := valid
  simp only [TrustConfigurationRow.check, Checked.bind_eq_ok, Checked.require_eq_ok,
    exists_const]
  exact ⟨version, model, score, alpha, influence, stale, weights, total, lifecycle, ordered⟩

theorem nextConfigurationVersion_fresh {configurations : ConfigurationTable} {version : Nat}
    (found : nextConfigurationVersion configurations = .ok version) :
    0 < version ∧ configurations.get? version = none := by
  simp only [nextConfigurationVersion, Checked.bind_eq_ok, Checked.require_eq_ok,
    Checked.pure_eq_ok, exists_const] at found
  obtain ⟨_, rfl⟩ := found
  refine ⟨Nat.succ_pos _, (Table.get?_eq_none _ _).mpr fun row member same => ?_⟩
  have most : row.configurationVersion ≤
      (configurations.rows.map TrustConfigurationRow.configurationVersion).foldr max 0 :=
    List.le_max_of_le (List.mem_map_of_mem member) le_rfl
  omega

/-- A draft that fits is stored as it was requested. -/
theorem createTrustConfigurationDraft_stores {session : Session} {tenantActive : Bool}
    {occurredAt : Instant} {context : AdministratorContext} {store : ConfigurationStore}
    (permitted : DraftPermitted session tenantActive occurredAt context store)
    (accepted : draft.Accepted) (fits : draft.FitsColumns) :
    ∃ next row, createTrustConfigurationDraft (draft.call session tenantActive occurredAt) store =
        .ok (next, row) ∧ row ∈ next.configurations ∧ 1 ≤ row.configurationVersion ∧
      row.parameters = draft.parameters ∧ row.state = .draft ∧
      row.createdBySubjectId = context.subjectId := by
  obtain ⟨version, numbered⟩ := permitted.version
  obtain ⟨positive, free⟩ := nextConfigurationVersion_fresh numbered
  have valid := parameters_valid accepted fits
  let call := draft.call session tenantActive occurredAt
  have stored : (draftRow call version).parameters = draft.parameters := stored_of_fits fits
  have lifecycle : (draftRow call version).LifecycleCheck := trivial
  have checked : (draftRow call version).check = .ok () := by
    apply check_of_valid _ positive lifecycle (le_max_right _ _)
    rw [stored]
    exact valid
  have inserted : insertConfiguration (draftRow call version) store.configurations =
      .ok (store.configurations.insert (draftRow call version) free) := by
    simp only [insertConfiguration, Checked.bind_eq_ok, Checked.requireSome_eq_ok,
      Checked.require_eq_ok, Checked.pure_eq_ok, exists_const]
    refine ⟨(), checked, _, Table.insertNew_eq_some.mpr ⟨free, rfl⟩, ?_, rfl⟩
    intro active
    cases active
  refine ⟨⟨store.configurations.insert (draftRow call version) free,
    draftEvent call (activeConfiguration? store.configurations) version :: store.events⟩,
    draftRow call version, ?_, ?_, positive, stored, rfl, permitted.subject⟩
  · simp only [createTrustConfigurationDraft, Checked.bind_eq_ok, Checked.require_eq_ok,
      Checked.pure_eq_ok, exists_const]
    exact ⟨permitted.admin, ⟨permitted.window, accepted.reasonCode, valid⟩, permitted.tenant,
      version, numbered, _, inserted, rfl⟩
  · exact (Table.mem_insert _ _ _ free).mpr (.inr rfl)

theorem defineTrustModelConfiguration_weights (model : TrustModelConfiguration) :
    defineTrustModelConfiguration ⟨model.modelVersion, model.weights.map some⟩ = .ok model := by
  obtain ⟨version, ⟨identity, device, behaviour, certificate, compliance⟩, isVersion, valid,
    total⟩ := model
  have ranges : ∀ componentId ∈ trustComponentIds, _ := fun componentId _ => valid componentId
  unfold defineTrustModelConfiguration
  rw [dif_pos isVersion]
  exact (dif_pos ranges).trans (dif_pos total)

theorem weights_read (weights : Components Binary64) :
    (weights.map written).map Binary64.ofRat = weights := by
  have each : ∀ componentId, Binary64.ofRat ((weights.map written).get componentId)
      = weights.get componentId := by
    intro componentId
    rw [Components.get_map, written_reads]
  exact congrArg Components.tabulate (funext each)

/-- A row with the parameters of the request is confirmed. -/
theorem validateDraftResult_confirms {row : TrustConfigurationRow} {context : AdministratorContext}
    (accepted : draft.Accepted) (version : 1 ≤ row.configurationVersion)
    (parameters : row.parameters = draft.parameters) (state : row.state = .draft)
    (subject : row.createdBySubjectId = context.subjectId) :
    validateDraftResult (mapConfiguration row) context draft = .ok (mapConfiguration row) := by
  have initialScore : (mapConfiguration row).initialScore = draft.initialScore := by
    rw [mapConfiguration, parameters]
    exact written_reads _
  have alpha : (mapConfiguration row).smoothingAlpha = draft.smoothingAlpha := by
    rw [mapConfiguration, parameters]
    exact written_reads _
  have influence : (mapConfiguration row).maximumSourceInfluence
      = draft.maximumSourceInfluence := by
    rw [mapConfiguration, parameters]
    exact written_reads _
  have weights : (mapConfiguration row).weights = draft.model.weights := by
    rw [mapConfiguration, parameters]
    exact weights_read _
  have modelVersion : (mapConfiguration row).modelVersion = draft.model.modelVersion := by
    rw [mapConfiguration, parameters]
    rfl
  have stale : (mapConfiguration row).staleAfterSeconds = draft.staleAfterSeconds := by
    rw [mapConfiguration, parameters]
    rfl
  have least : 1 ≤ (mapConfiguration row).staleAfterSeconds := by
    rw [stale]
    exact_mod_cast accepted.staleAfterSeconds.1
  have valid : validateConfiguration (mapConfiguration row) = .ok (mapConfiguration row) := by
    simp only [validateConfiguration, Checked.bind_eq_ok, Checked.require_eq_ok,
      Checked.mapError_eq_ok, Checked.pure_eq_ok, exists_const, and_true]
    rw [initialScore, alpha, influence, weights, modelVersion]
    exact ⟨⟨version, accepted.initialScore, accepted.smoothingAlpha,
      accepted.maximumSourceInfluence, least⟩, draft.model,
      defineTrustModelConfiguration_weights _⟩
  simp only [validateDraftResult, Checked.bind_eq_ok, Checked.require_eq_ok,
    Checked.pure_eq_ok, exists_const]
  refine ⟨mapConfiguration row, valid, ⟨state, subject, modelVersion, initialScore, alpha,
    influence, stale, ?_⟩, rfl⟩
  intro componentId _
  rw [weights]

/-- A confirmed row holds what was requested. -/
theorem fits_of_confirmed {version : Nat} {session : Session} {tenantActive : Bool}
    {occurredAt : Instant} {context : AdministratorContext} {result : ConfigurationView}
    (accepted : draft.Accepted)
    (confirmed : validateDraftResult
      (mapConfiguration (draftRow (draft.call session tenantActive occurredAt) version)) context
        draft = .ok result) : draft.FitsColumns := by
  simp only [validateDraftResult, validateConfiguration, Checked.bind_eq_ok,
    Checked.require_eq_ok, Checked.mapError_eq_ok, Checked.pure_eq_ok, exists_const]
    at confirmed
  obtain ⟨_, ⟨_, _, _, rfl⟩, ⟨_, _, _, initialScore, alpha, influence, _, weights⟩, _⟩ := confirmed
  obtain ⟨scoreLeast, scoreMost⟩ := accepted.initialScore
  obtain ⟨alphaLeast, alphaMost⟩ := accepted.smoothingAlpha
  obtain ⟨influenceLeast, influenceMost⟩ := accepted.maximumSourceInfluence
  refine ⟨hasPlaces_of_reads (by decide) scoreLeast scoreMost initialScore,
    hasPlaces_of_reads (by decide) alphaLeast.le (by linarith) alpha,
    hasPlaces_of_reads (by decide) influenceLeast.le (by linarith) influence, ?_⟩
  intro componentId
  obtain ⟨least, most⟩ := draft.model.weights_valid componentId
  apply hasPlaces_of_reads (by decide) least (by linarith)
  have reads := weights componentId (mem_trustComponentIds componentId)
  rwa [mapConfiguration, Components.get_map, draftRow, ConfigurationParameters.stored,
    Components.get_map, NormalizedDraft.call, NormalizedDraft.parameters,
    Components.get_map] at reads

theorem draftConfirmed_iff {session : Session} {tenantActive : Bool}
    {occurredAt : Instant} {context : AdministratorContext} {store : ConfigurationStore}
    (permitted : DraftPermitted session tenantActive occurredAt context store)
    (accepted : draft.Accepted) :
    DraftConfirmed draft (draft.call session tenantActive occurredAt) context store ↔
      draft.FitsColumns := by
  constructor
  · intro confirmed
    obtain ⟨next, row, result, created, _, confirmed⟩ := confirmed
    simp only [createTrustConfigurationDraft, Checked.bind_eq_ok, Checked.require_eq_ok,
      Checked.pure_eq_ok, exists_const, Prod.mk.injEq] at created
    obtain ⟨_, _, _, _, _, _, _, _, rfl⟩ := created
    exact fits_of_confirmed accepted confirmed
  · intro fits
    obtain ⟨next, row, created, member, version, parameters, state, subject⟩ :=
      createTrustConfigurationDraft_stores permitted accepted fits
    exact ⟨next, row, _, created, member,
      validateDraftResult_confirms accepted version parameters state subject⟩

end Drafts

/-- The administrator may configure the source at this time. -/
structure SafeguardsPermitted (session : AdminSession) (sourceId : SourceId)
    (occurredAt : Instant) (db : EvidenceDatabase) : Prop where
  admin : session.isTenantAdmin = true
  window : occurredAt ≤ session.clock + interval 2
  source : ∃ source, db.sources.get? (session.tenantId, sourceId) = some source ∧
    source.state ≠ .retired ∧ source.createdAt ≤ max session.clock occurredAt ∧
    0 < source.version

/-- The safeguards are stored, and their row is confirmed to the administrator. -/
def SafeguardsConfirmed (session : AdminSession) (safeguards : NormalizedSafeguards)
    (occurredAt : Instant) (db : EvidenceDatabase) : Prop :=
  ∃ next source result,
    configureEvidenceSourceSafeguards session (safeguards.call occurredAt) db =
      .ok (next, source) ∧
    next.sources.get? (session.tenantId, safeguards.sourceId) = some source ∧
    validateSafeguardsResult (mapSafeguards source) safeguards = .ok result

section Safeguards

variable {safeguards : NormalizedSafeguards}

/-- What an accepted request guarantees. -/
structure NormalizedSafeguards.Accepted (safeguards : NormalizedSafeguards) : Prop where
  maximumInfluence : 1 / 10000 ≤ written safeguards.maximumInfluence ∧
    safeguards.maximumInfluence.value ≤ 1
  positive : 0 ≤ safeguards.maximumInfluence.value
  window : 1 ≤ safeguards.rateLimitWindowSeconds ∧ safeguards.rateLimitWindowSeconds ≤ 3600
  maxEvents : 1 ≤ safeguards.rateLimitMaxEvents ∧ safeguards.rateLimitMaxEvents ≤ 100000
  threshold : 1 ≤ safeguards.rateLimitSuspensionThreshold ∧
    safeguards.rateLimitSuspensionThreshold ≤ 1000

theorem requireIntegerInRange_eq_ok {value : Option Int} {minimum maximum integer : Int}
    {reasonCode : String}
    (accepted : requireIntegerInRange value minimum maximum reasonCode = .ok integer) :
    minimum ≤ integer ∧ integer ≤ maximum := by
  simp only [requireIntegerInRange, Checked.bind_eq_ok, Checked.requireSome_eq_ok,
    Checked.require_eq_ok, Checked.pure_eq_ok, exists_const] at accepted
  obtain ⟨_, _, bounds, rfl⟩ := accepted
  exact bounds

theorem normalizeSafeguardsRequest_accepted {input : SafeguardsRequest}
    (normalized : normalizeSafeguardsRequest input = .ok safeguards) : safeguards.Accepted := by
  simp only [normalizeSafeguardsRequest, Checked.bind_eq_ok, Checked.require_eq_ok,
    Checked.requireSome_eq_ok, Checked.pure_eq_ok, exists_const] at normalized
  obtain ⟨influence, _, ⟨least, most⟩, window, windowed, maxEvents, limited, threshold,
    suspended, rfl⟩ := normalized
  have smallest : written (.ofRat (1 / 10000)) = 1 / 10000 := by
    have same : written (.ofRat ((1 : ℕ) / 10 ^ 4)) = (1 : ℕ) / 10 ^ 4 :=
      written_ofRat (by decide) (by norm_num)
    norm_num at same ⊢
    exact same
  have ordered : Binary64.ofRat (1 / 10000) ≤ influence := least
  have positive : 0 ≤ (Binary64.ofRat (1 / 10000)).value :=
    Binary64.nearest_nonneg (by norm_num)
  exact ⟨⟨smallest.symm.le.trans (written_mono ordered), most⟩, positive.trans least,
    requireIntegerInRange_eq_ok windowed, requireIntegerInRange_eq_ok limited,
    requireIntegerInRange_eq_ok suspended⟩

/-- The safeguards of an accepted request as its columns store them. -/
def NormalizedSafeguards.stored (accepted : safeguards.Accepted) : Safeguards where
  rateLimitWindowSeconds := safeguards.rateLimitWindowSeconds.toNat
  rateLimitMaxEvents := safeguards.rateLimitMaxEvents.toNat
  rateLimitSuspensionThreshold := safeguards.rateLimitSuspensionThreshold.toNat
  maximumInfluence := ⟨roundNumeric 4 (written safeguards.maximumInfluence),
    roundNumeric_inRange ⟨accepted.maximumInfluence.1,
      written_le_one accepted.maximumInfluence.2⟩⟩
  windowInRange := by have bounds := accepted.window; omega
  maxEventsInRange := by have bounds := accepted.maxEvents; omega
  thresholdInRange := by have bounds := accepted.threshold; omega

theorem safeguards?_eq (accepted : safeguards.Accepted) (occurredAt : Instant) :
    (safeguards.call occurredAt).safeguards? = some (safeguards.stored accepted) := by
  have influence : 1 / 10000 ≤ written safeguards.maximumInfluence ∧
      written safeguards.maximumInfluence ≤ 1 :=
    ⟨accepted.maximumInfluence.1, written_le_one accepted.maximumInfluence.2⟩
  unfold SafeguardsCall.safeguards?
  exact (dif_pos accepted.window).trans <| (dif_pos accepted.maxEvents).trans <|
    (dif_pos accepted.threshold).trans (dif_pos influence)

/-- A permitted call always stores the safeguards, rounded to the places of their columns. -/
theorem configureEvidenceSourceSafeguards_stores {session : AdminSession}
    {occurredAt : Instant} {db : EvidenceDatabase} (accepted : safeguards.Accepted)
    (permitted : SafeguardsPermitted session safeguards.sourceId occurredAt db) :
    ∃ next source, configureEvidenceSourceSafeguards session (safeguards.call occurredAt) db =
        .ok (next, source) ∧
      next.sources.get? (session.tenantId, safeguards.sourceId) = some source ∧
      source.sourceId = safeguards.sourceId ∧ source.state ≠ .retired ∧ 2 ≤ source.version ∧
      source.safeguards = safeguards.stored accepted := by
  obtain ⟨source, found, present, ordered, version⟩ := permitted.source
  have key : source.key = (session.tenantId, safeguards.sourceId) :=
    (Table.get?_eq_some _ _ _).mp found |>.2
  let configured : EvidenceSource := { source with
    safeguards := safeguards.stored accepted
    version := source.version + 1
    updatedAt := max session.clock occurredAt }
  have written : storeSource configured db =
      .ok { db with sources := db.sources.upsert configured } := by
    simp only [storeSource, Checked.bind_eq_ok, Checked.require_eq_ok, Checked.pure_eq_ok,
      exists_const, and_true]
    exact ordered
  let updated : EvidenceDatabase := { db with sources := db.sources.upsert configured }
  let next : EvidenceDatabase := { updated.deleteRate configured.key with
    controlEvents := db.controlEvents ++ [configured.controlEvent (.configured session.subjectId)
      "SAFEGUARDS_CONFIGURED" occurredAt] }
  refine ⟨next, configured, ?_, ?_, congrArg Prod.snd key, present, Nat.succ_le_succ version, rfl⟩
  · simp only [configureEvidenceSourceSafeguards, Checked.bind_eq_ok, Checked.require_eq_ok,
      Checked.requireSome_eq_ok, Checked.pure_eq_ok, exists_const]
    exact ⟨⟨permitted.admin, permitted.window⟩, _, safeguards?_eq accepted occurredAt, source,
      found, present, _, written, rfl⟩
  · change (db.sources.upsert configured).get? _ = _
    rw [Table.get?_upsert]
    exact if_pos key

theorem safeguardsConfirmed_iff {session : AdminSession} {occurredAt : Instant}
    {db : EvidenceDatabase} (accepted : safeguards.Accepted)
    (permitted : SafeguardsPermitted session safeguards.sourceId occurredAt db) :
    SafeguardsConfirmed session safeguards occurredAt db ↔
      HasPlaces 4 safeguards.maximumInfluence := by
  obtain ⟨next, source, stored, found, sameSource, present, version, same⟩ :=
    configureEvidenceSourceSafeguards_stores accepted permitted
  have answer : (mapSafeguards source).maximumInfluence =
      .ofRat (roundNumeric 4 (written safeguards.maximumInfluence)) := by
    rw [mapSafeguards, same]
    rfl
  constructor
  · intro confirmed
    obtain ⟨_, _, _, again, _, confirmed⟩ := confirmed
    rw [stored, Except.ok.injEq, Prod.mk.injEq] at again
    obtain ⟨rfl, rfl⟩ := again
    simp only [validateSafeguardsResult, Checked.bind_eq_ok, Checked.require_eq_ok,
      exists_const] at confirmed
    obtain ⟨⟨_, _, _, _, _, _, reads⟩, _⟩ := confirmed
    rw [answer] at reads
    have below := accepted.maximumInfluence.2
    exact hasPlaces_of_reads (by decide) accepted.positive (by linarith) reads
  · intro short
    have window := accepted.window
    have maxEvents := accepted.maxEvents
    have threshold := accepted.threshold
    refine ⟨next, source, mapSafeguards source, stored, found, ?_⟩
    simp only [validateSafeguardsResult, Checked.bind_eq_ok, Checked.require_eq_ok,
      Checked.pure_eq_ok, exists_const, and_true]
    refine ⟨sameSource, present, version, ?_, ?_, ?_, ?_⟩
    · rw [mapSafeguards, same]
      exact Int.toNat_of_nonneg (by omega)
    · rw [mapSafeguards, same]
      exact Int.toNat_of_nonneg (by omega)
    · rw [mapSafeguards, same]
      exact Int.toNat_of_nonneg (by omega)
    · rw [answer, short.rounds]
      exact written_reads _

end Safeguards

namespace SettingScenario

def session : Session where
  tenantId := ⟨1⟩
  subjectId := ⟨2⟩
  actorIsActive := true
  actorIsTenantAdmin := true
  activeMember := fun _ => true
  activeIssuer := fun _ => true
  clock := 0

def context : AdministratorContext := ⟨⟨1⟩, ⟨2⟩⟩

def admin : AdminSession := ⟨0, ⟨1⟩, ⟨2⟩, true, fun _ _ => none⟩

/-- A request for an initial score that is given in thousandths. -/
def draftRequest (thousandths : ℕ) : DraftRequest where
  modelVersion := "1.0.0"
  initialScore := some (.ofRat (thousandths / 10 ^ 3))
  smoothingAlpha := some (.ofRat (2500 / 10 ^ 4))
  maximumSourceInfluence := some (.ofRat (5000 / 10 ^ 4))
  staleAfterSeconds := some 300
  weights := ScoreScenario.configuration.weights
  reasonCode := "MODEL_TUNED"

def safeguardsRequest : SafeguardsRequest :=
  ⟨⟨2⟩, some 60, some 100, some 3, some (.ofRat (5000 / 10 ^ 4))⟩

def decimals (draft : NormalizedDraft) : List Binary64 × Components ScriptFloat :=
  ([draft.initialScore, draft.smoothingAlpha, draft.maximumSourceInfluence],
    draft.model.weights.map some)

/-- What the administrator is told of a draft that is stored. -/
def reportOf (draft : NormalizedDraft) : Option String :=
  match createTrustConfigurationDraft (draft.call session true 0) .empty with
  | .error _ => none
  | .ok (_, row) =>
      match validateDraftResult (mapConfiguration row) context draft with
      | .error reason => some reason
      | .ok _ => none

theorem draft_permitted : DraftPermitted session true 0 context .empty :=
  ⟨rfl, rfl, rfl, rfl, 1, rfl⟩

theorem safeguards_permitted : SafeguardsPermitted admin ⟨2⟩ 0 FloodScenario.start :=
  ⟨rfl, by decide, FloodScenario.source, rfl, by decide, by decide, by decide⟩

/-- Two draft requests and a safeguards request through the services. -/
theorem answers :
    (normalizeDraftRequest (draftRequest 12345)).map reportOf =
        .ok (some "CONFIGURATION_WRITE_UNCONFIRMED") ∧
      (normalizeDraftRequest (draftRequest 12340)).map decimals =
        .ok ([.ofRat (1234 / 10 ^ 2), .ofRat (2500 / 10 ^ 4), .ofRat (5000 / 10 ^ 4)],
          ScoreScenario.configuration.weights) ∧
      (normalizeSafeguardsRequest safeguardsRequest).map
        (fun safeguards => (safeguards.sourceId, safeguards.maximumInfluence)) =
        .ok (⟨2⟩, .ofRat (5000 / 10 ^ 4)) := by
  decide +kernel

end SettingScenario

/-- A draft comes back as it was requested if and only if the score is written with two places
and the other decimals are written with four; safeguards if and only if their influence is written
with four. -/
theorem settings_confirmed_iff (draftInput : DraftRequest) (draft : NormalizedDraft)
    (session : Session) (tenantActive : Bool) (context : AdministratorContext)
    (store : ConfigurationStore) (safeguardsInput : SafeguardsRequest)
    (safeguards : NormalizedSafeguards) (admin : AdminSession) (db : EvidenceDatabase)
    (occurredAt : Instant) :
    (normalizeDraftRequest draftInput = .ok draft →
      DraftPermitted session tenantActive occurredAt context store →
      (DraftConfirmed draft (draft.call session tenantActive occurredAt) context store ↔
        draft.FitsColumns)) ∧
    (normalizeSafeguardsRequest safeguardsInput = .ok safeguards →
      SafeguardsPermitted admin safeguards.sourceId occurredAt db →
      (SafeguardsConfirmed admin safeguards occurredAt db ↔
        HasPlaces 4 safeguards.maximumInfluence)) := by
  constructor
  · intro normalized permitted
    exact draftConfirmed_iff permitted (normalizeDraftRequest_accepted normalized)
  · intro normalized permitted
    exact safeguardsConfirmed_iff (normalizeSafeguardsRequest_accepted normalized) permitted

open SettingScenario in
/-- An initial score of 12.345 is stored as 12.35 and reported as not confirmed. -/
theorem initialScore_unconfirmed :
    ¬ ((∀ input draft session tenantActive occurredAt context store,
        normalizeDraftRequest input = .ok draft →
        DraftPermitted session tenantActive occurredAt context store →
        DraftConfirmed draft (draft.call session tenantActive occurredAt) context store) ∧
      ∀ input safeguards session occurredAt db,
        normalizeSafeguardsRequest input = .ok safeguards →
        SafeguardsPermitted session safeguards.sourceId occurredAt db →
        SafeguardsConfirmed session safeguards occurredAt db) := by
  intro claim
  obtain ⟨draft, normalized, report⟩ := Checked.map_eq_ok.mp answers.1
  have confirmed := claim.1 _ draft session true 0 context .empty normalized draft_permitted
  obtain ⟨next, row, result, created, _, confirmed⟩ := confirmed
  rw [reportOf, created] at report
  simp only [confirmed, reduceCtorEq] at report

open SettingScenario in
/-- An initial score of 12.34 and an influence of one half. -/
theorem settings_confirmed : ∃ draft safeguards,
    normalizeDraftRequest (draftRequest 12340) = .ok draft ∧
    DraftConfirmed draft (draft.call session true 0) context .empty ∧
    normalizeSafeguardsRequest safeguardsRequest = .ok safeguards ∧
    SafeguardsConfirmed admin safeguards 0 FloodScenario.start := by
  obtain ⟨draft, normalized, values⟩ := Checked.map_eq_ok.mp answers.2.1
  obtain ⟨safeguards, safe, influence⟩ := Checked.map_eq_ok.mp answers.2.2
  simp only [decimals, Prod.mk.injEq, List.cons.injEq, and_true] at values influence
  obtain ⟨⟨initialScore, alpha, cap⟩, weights⟩ := values
  obtain ⟨sourceId, maximumInfluence⟩ := influence
  have tenThousandths : ∀ n : ℕ, n ≤ 10000 → HasPlaces 4 (.ofRat (n / 10 ^ 4)) := by
    intro n small
    have bound : (n : ℚ) ≤ 10000 := by exact_mod_cast small
    exact ⟨n, written_ofRat (by decide) (by norm_num; linarith)⟩
  have ⟨draftIff, safeguardsIff⟩ := settings_confirmed_iff (draftRequest 12340) draft session true
    context .empty safeguardsRequest safeguards admin FloodScenario.start 0
  refine ⟨draft, safeguards, normalized, ?_, safe, ?_⟩
  · apply (draftIff normalized draft_permitted).mpr
    refine ⟨?_, ?_, ?_, ?_⟩
    · rw [initialScore]
      exact ⟨1234, written_ofRat (by decide) (by norm_num)⟩
    · rw [alpha]
      exact tenThousandths 2500 (by decide)
    · rw [cap]
      exact tenThousandths 5000 (by decide)
    · apply ScoreScenario.hasPlaces (by decide) _ weights
      intro componentId
      cases componentId <;> norm_num [Components.get, ScoreScenario.weightTenThousandths]
  · apply (safeguardsIff safe (sourceId ▸ safeguards_permitted)).mpr
    rw [maximumInfluence]
    exact tenThousandths 5000 (by decide)

end TenantTrust.Trust
