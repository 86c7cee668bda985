import TenantTrust.Orchestration.BoundActions

/-! The service that enqueues severity actions, and what repeated requests come to while the
worker moves the action through its states. -/

namespace TenantTrust.Orchestration

open Library Identity Audit

/-- What `mapStatus` makes of a row of `security_actions`. -/
structure SeverityActionStatus where
  tenantId : TenantId
  actionId : ActionId
  status : ActionExecutionStatus
  attemptCount : Nat
  lastFailureCode : Option String
  nextAttemptAt : Timestamp
  succeededAt : Option Timestamp
  deriving DecidableEq, Repr

inductive ServiceFailure where
  | database (failure : SqlError)
  | service (reasonCode : String)
  deriving DecidableEq, Repr

/-- `infinity` is no date. -/
def iso (value : WithTop Timestamp) : Except String Timestamp :=
  if finite : value ≠ ⊤ then .ok (value.untop finite)
  else .error "SECURITY_ACTION_SOURCE_INVALID"

def ActionExecution.succeededAt? : ActionExecution → Option Timestamp
  | succeeded _ succeededAt => some succeededAt
  | _ => none

def mapStatus (row : SecurityAction) : Except String SeverityActionStatus := do
  let nextAttemptAt ← iso row.nextAttemptAt
  require (∀ code ∈ row.lastFailureCode, isReasonCode code = true)
    "SECURITY_ACTION_STATUS_INVALID"
  return {
    tenantId := row.target.tenantId
    actionId := row.actionId
    status := row.execution.status
    attemptCount := row.attemptCount
    lastFailureCode := row.lastFailureCode
    nextAttemptAt := nextAttemptAt
    succeededAt := row.execution.succeededAt? }

def reportEnqueued (row : SecurityAction) : Except String SeverityActionStatus := do
  let status ← mapStatus row
  require (status.status = .pending ∨ status.status = .failed) "SECURITY_ACTION_REQUEST_INVALID"
  return status

/-- The statement is committed before the service looks at its row. -/
def enqueueSeverityAction (clock : Timestamp) (p : SeverityRequest) (db : Database) :
    Database × Except ServiceFailure SeverityActionStatus :=
  if (p.actionType = .blockRenewal ∨ p.actionType = .revokeCertificate) ∧
      isReasonCode p.reasonCode = true then
    match enqueueSeveritySecurityAction clock p db with
    | .error failure => (db, .error (.database failure))
    | .ok (next, row) => (next, (reportEnqueued row).mapError .service)
  else (db, .error (.service "SECURITY_ACTION_REQUEST_INVALID"))

/-- The same request at another time. -/
def SeverityRequest.again (p : SeverityRequest) (requestedAt : Timestamp) : SeverityRequest :=
  { p with requestedAt := requestedAt }

theorem mapStatus_eq_ok {row : SecurityAction} (coded : row.failureCoded) :
    (∃ status, mapStatus row = .ok status) ↔ row.nextAttemptAt ≠ ⊤ := by
  constructor
  · intro mapped never
    obtain ⟨status, mapped⟩ := mapped
    simp only [mapStatus, iso, never, ne_eq, not_true_eq_false, dite_false, Checked.bind_eq_ok,
      reduceCtorEq, false_and, exists_false] at mapped
  · intro finite
    simp only [mapStatus, iso, dif_pos finite, Checked.bind_eq_ok, Checked.require_eq_ok,
      Checked.pure_eq_ok, exists_const, Except.ok.injEq, exists_eq_left']
    exact ⟨_, coded, rfl⟩

theorem mapStatus_status {row : SecurityAction} {status : SeverityActionStatus}
    (mapped : mapStatus row = .ok status) : status.status = row.execution.status := by
  simp only [mapStatus, Checked.bind_eq_ok, Checked.require_eq_ok, Checked.pure_eq_ok,
    exists_const] at mapped
  obtain ⟨_, _, _, rfl⟩ := mapped
  rfl

theorem reportEnqueued_eq_ok {row : SecurityAction} {status : SeverityActionStatus} :
    reportEnqueued row = .ok status ↔ mapStatus row = .ok status ∧ row.execution.isClaimable := by
  simp only [reportEnqueued, Checked.bind_eq_ok, Checked.require_eq_ok, Checked.pure_eq_ok,
    exists_const]
  constructor
  · intro reported
    obtain ⟨status, mapped, open_, rfl⟩ := reported
    rw [mapStatus_status mapped] at open_
    exact ⟨mapped, (isClaimable_iff _).mpr open_⟩
  · intro reported
    obtain ⟨mapped, claimable⟩ := reported
    have open_ := (isClaimable_iff _).mp claimable
    rw [← mapStatus_status mapped] at open_
    exact ⟨status, mapped, open_, rfl⟩

/-- Two requests of which one repeats the other. -/
def EnqueueRequest.Same (p q : EnqueueRequest) : Prop :=
  { p with requestedAt := q.requestedAt } = q

theorem repeats_same {p : EnqueueRequest} {action : SecurityAction}
    (decision : action.sameDecision p = true) (repeats : action.repeats p = true) :
    p.Same action.bound := by
  obtain ⟨actionId, ⟨tenantId, subjectId, certificateId⟩, decisionId, correlationId, actionType,
    authorityClass, reasonCode, hash, requestedAt⟩ := p
  obtain ⟨actionId', ⟨tenantId', subjectId', certificateId'⟩, decisionId', correlationId',
    actionType', authorityClass', _, reasonCode', hash', _, _, _, _, _, _, requestedAt'⟩ := action
  simp only [SecurityAction.sameDecision, SecurityAction.repeats, Bool.and_eq_true,
    decide_eq_true_eq] at decision repeats
  obtain ⟨⟨⟨rfl, rfl⟩, rfl⟩, rfl⟩ := decision
  obtain ⟨⟨⟨⟨⟨rfl, rfl⟩, rfl⟩, rfl⟩, rfl⟩, rfl⟩ := repeats
  rfl

theorem same_repeats {p : EnqueueRequest} {action : SecurityAction}
    (same : p.Same action.bound) :
    action.sameDecision p = true ∧ action.repeats p = true := by
  obtain ⟨actionId, ⟨tenantId, subjectId, certificateId⟩, decisionId, correlationId, actionType,
    authorityClass, reasonCode, hash, requestedAt⟩ := p
  obtain ⟨actionId', ⟨tenantId', subjectId', certificateId'⟩, decisionId', correlationId',
    actionType', authorityClass', _, reasonCode', hash', _, _, _, _, _, _, requestedAt'⟩ := action
  simp only [EnqueueRequest.Same, SecurityAction.bound, EnqueueRequest.mk.injEq,
    Target.mk.injEq] at same
  simp only [SecurityAction.sameDecision, SecurityAction.repeats, Bool.and_eq_true,
    decide_eq_true_eq]
  obtain ⟨rfl, ⟨rfl, rfl, rfl⟩, rfl, rfl, rfl, rfl, rfl, rfl, _⟩ := same
  exact ⟨⟨⟨⟨rfl, rfl⟩, rfl⟩, rfl⟩, ⟨⟨⟨⟨⟨rfl, rfl⟩, rfl⟩, rfl⟩, rfl⟩, rfl⟩⟩

/-- The one action of a decision is the one that a request of that decision finds. -/
theorem find_sameDecision {actions : ActionTable} (bound : BoundActions actions)
    {p : EnqueueRequest} {action : SecurityAction} (present : action ∈ actions)
    (same : action.sameDecision p = true) :
    actions.rows.find? (SecurityAction.sameDecision p) = some action := by
  cases found : actions.rows.find? (SecurityAction.sameDecision p) with
  | none => exact absurd same (List.find?_eq_none.mp found action present)
  | some other =>
      have member : other ∈ actions := List.mem_of_find?_eq_some found
      have otherSame := (sameDecision_iff p other).mp (List.find?_some found)
      have key := bound.decisions other member action present
        (otherSame.trans ((sameDecision_iff p action).mp same).symm)
      rw [actions.unique member present key]

/-- A replay is answered with the stored action exactly when it is dated in the window. -/
theorem enqueueSecurityActionInternal_replay {clock : Timestamp} {p : EnqueueRequest}
    {db next : Database} {action row : SecurityAction} {state : SubjectSecurityState}
    (bound : BoundActions db.actions) (coded : isReasonCode p.reasonCode = true)
    (posture : db.states.get? p.target = some state) (present : action ∈ db.actions)
    (same : p.Same action.bound) :
    enqueueSecurityActionInternal clock p db = .ok (next, row) ↔
      withinRequestWindow clock p.requestedAt = true ∧ next = db ∧ row = action := by
  obtain ⟨decision, repeats⟩ := same_repeats same
  have found := find_sameDecision bound present decision
  have states := initializeSecurityState_found posture
  simp only [enqueueSecurityActionInternal, Checked.bind_eq_ok, Checked.require_eq_ok,
    Checked.requireSome_eq_ok, exists_const, found, states, Checked.pure_eq_ok, Prod.mk.injEq,
    repeats, true_and, coded, posture, Option.some.injEq, exists_eq_left']
  constructor
  · intro answered
    obtain ⟨window, rfl, rfl⟩ := answered
    exact ⟨window, rfl, rfl⟩
  · intro answered
    obtain ⟨window, rfl, rfl⟩ := answered
    exact ⟨window, rfl, rfl⟩

/-- What an accepted request left in the database. -/
structure SeverityRecorded (p : SeverityRequest) (action : SecurityAction) (db : Database) :
    Prop where
  bound : BoundActions db.actions
  coded : isReasonCode p.reasonCode = true
  severity : p.actionType = .blockRenewal ∨ p.actionType = .revokeCertificate
  present : action ∈ db.actions
  posture : ∃ state, db.states.get? (p.enqueue action.correlationId).target = some state
  decision : ∃ provenance, db.provenance.get? (p.tenantId, p.decisionId) = some provenance ∧
    (provenance.actorSubjectId = p.targetSubjectId ∧
      provenance.certificateId = p.targetCertificateId ∧
      provenance.outcome = .quarantine ∧ provenance.trustTransitionId.isSome) ∧
    provenance.correlationId = action.correlationId
  same : (p.enqueue action.correlationId).Same action.bound

theorem enqueueSeveritySecurityAction_recorded {clock : Timestamp} {p : SeverityRequest}
    {db next : Database} {row : SecurityAction} (bound : BoundActions db.actions)
    (severity : p.actionType = .blockRenewal ∨ p.actionType = .revokeCertificate)
    (succeeds : enqueueSeveritySecurityAction clock p db = .ok (next, row)) :
    SeverityRecorded p row next := by
  simp only [enqueueSeveritySecurityAction, Checked.bind_eq_ok, Checked.require_eq_ok,
    Checked.requireSome_eq_ok, exists_const] at succeeds
  obtain ⟨_, provenance, recorded, checks, enqueued⟩ := succeeds
  obtain ⟨coded, _, posture, same, result⟩ := enqueueSecurityActionInternal_cases enqueued
  have advanced := enqueueSecurityActionInternal_advances enqueued
  have stored : row ∈ next.actions ∧ (p.enqueue provenance.correlationId).Same row.bound := by
    obtain ⟨actions, found, repeats⟩ | ⟨version, authorized, rfl, _, inserted⟩ := result
    · rw [actions]
      exact ⟨List.mem_of_find?_eq_some found, repeats_same (List.find?_some found) repeats⟩
    · exact ⟨(Table.mem_insertNew inserted _).mpr (.inr rfl), rfl⟩
  have correlation : provenance.correlationId = row.correlationId :=
    congrArg EnqueueRequest.correlationId stored.2
  refine ⟨bound.after advanced.actions, coded, severity, stored.1, ?_, ?_, ?_⟩
  · rw [← correlation]
    exact posture
  · refine ⟨provenance, ?_, checks, correlation⟩
    rw [same]
    exact recorded
  · rw [← correlation]
    exact stored.2

/-- The record of the request lasts, whatever is done to its action. -/
theorem SeverityRecorded.run {p : SeverityRequest} {action : SecurityAction} {db : Database}
    (recorded : SeverityRecorded p action db) (reachable : db.Reachable) (ops : List QueueOp) :
    ∃ later, later.key = action.key ∧ SeverityRecorded p later (runQueue db ops) := by
  obtain ⟨later, present, kept⟩ := runQueue_keeps recorded.present ops
  obtain ⟨provenance, found, checks, correlation⟩ := recorded.decision
  obtain ⟨state, posture⟩ := recorded.posture
  have sameCorrelation : later.correlationId = action.correlationId :=
    congrArg EnqueueRequest.correlationId kept.bound
  refine ⟨later, SecurityAction.key_of_bound kept.bound, reachable_bound (reachable.run ops),
    recorded.coded, recorded.severity, present, ?_, ⟨provenance, runQueue_provenance found ops,
    checks, correlation.trans sameCorrelation.symm⟩, ?_⟩
  · exact runQueue_state posture ops
  · rw [kept.bound, sameCorrelation]
    exact recorded.same

theorem enqueueSeveritySecurityAction_replay {clock requestedAt : Timestamp}
    {p : SeverityRequest} {action row : SecurityAction} {db next : Database}
    (recorded : SeverityRecorded p action db) :
    enqueueSeveritySecurityAction clock (p.again requestedAt) db = .ok (next, row) ↔
      withinRequestWindow clock requestedAt = true ∧ next = db ∧ row = action := by
  obtain ⟨provenance, found, checks, correlation⟩ := recorded.decision
  obtain ⟨state, posture⟩ := recorded.posture
  have same : ((p.again requestedAt).enqueue provenance.correlationId).Same action.bound := by
    rw [correlation]
    exact recorded.same
  rw [← correlation] at posture
  have replay : enqueueSecurityActionInternal clock
      ((p.again requestedAt).enqueue provenance.correlationId) db = .ok (next, row) ↔ _ :=
    enqueueSecurityActionInternal_replay recorded.bound recorded.coded posture recorded.present
      same
  refine Iff.trans ?_ replay
  simp only [enqueueSeveritySecurityAction, Checked.bind_eq_ok, Checked.require_eq_ok,
    Checked.requireSome_eq_ok, exists_const]
  constructor
  · intro answered
    obtain ⟨_, other, otherFound, _, enqueued⟩ := answered
    have sameRow := otherFound.symm.trans found
    cases sameRow
    exact enqueued
  · intro enqueued
    exact ⟨recorded.severity, provenance, found, checks, enqueued⟩

/-- Another request under the key of the action or of its decision is refused by the database. -/
theorem enqueueSeveritySecurityAction_conflict {clock : Timestamp} {p q : SeverityRequest}
    {action row : SecurityAction} {db next : Database} (recorded : SeverityRecorded p action db)
    (tenant : q.tenantId = p.tenantId)
    (reused : q.actionId = p.actionId ∨
      (q.decisionId = p.decisionId ∧ q.actionType = p.actionType))
    (accepted : enqueueSeveritySecurityAction clock q db = .ok (next, row)) :
    q.again p.requestedAt = p := by
  simp only [enqueueSeveritySecurityAction, Checked.bind_eq_ok, Checked.require_eq_ok,
    Checked.requireSome_eq_ok, exists_const] at accepted
  obtain ⟨_, provenance, _, _, enqueued⟩ := accepted
  obtain ⟨_, _, _, _, result⟩ := enqueueSecurityActionInternal_cases enqueued
  have same := recorded.same
  have tenantId : p.tenantId = action.target.tenantId :=
    congrArg (fun bound => bound.target.tenantId) same
  have actionId : p.actionId = action.actionId := congrArg EnqueueRequest.actionId same
  have decisionId : p.decisionId = action.decisionId := congrArg EnqueueRequest.decisionId same
  have actionType : p.actionType = action.actionType := congrArg EnqueueRequest.actionType same
  have authorityClass : .severityRule = action.authorityClass :=
    congrArg EnqueueRequest.authorityClass same
  have key : ∀ other : SecurityAction, other.target.tenantId = q.tenantId →
      other.actionId = p.actionId → other.key = action.key := by
    intro other otherTenant otherAction
    rw [SecurityAction.key, SecurityAction.key, otherTenant, tenant, tenantId, otherAction,
      actionId]
  have decisionKey : q.decisionId = p.decisionId ∧ q.actionType = p.actionType →
      (q.enqueue provenance.correlationId).decisionKey = action.bound.decisionKey := by
    intro sameDecision
    simp only [EnqueueRequest.decisionKey, SeverityRequest.enqueue, SecurityAction.bound, tenant,
      sameDecision.1, sameDecision.2, tenantId, decisionId, actionType, authorityClass]
  obtain ⟨_, found, repeats⟩ | ⟨version, authorized, rfl, absent, inserted⟩ := result
  · have sameDecision := List.find?_some found
    have member : row ∈ db.actions := List.mem_of_find?_eq_some found
    have rowSame := repeats_same sameDecision repeats
    have rowKey : row.key = action.key := by
      obtain sameAction | sameDecisionKey := reused
      · have rowAction : q.actionId = row.actionId := congrArg EnqueueRequest.actionId rowSame
        have rowTenant : q.tenantId = row.target.tenantId :=
          congrArg (fun bound => bound.target.tenantId) rowSame
        exact key row rowTenant.symm (rowAction.symm.trans sameAction)
      · have rowDecision := (sameDecision_iff _ row).mp sameDecision
        exact recorded.bound.decisions row member action recorded.present
          (rowDecision.trans (decisionKey sameDecisionKey))
    have rowAction := db.actions.unique member recorded.present rowKey
    rw [rowAction] at rowSame
    have both : { q.enqueue provenance.correlationId with requestedAt := p.requestedAt } =
        { p.enqueue action.correlationId with requestedAt := p.requestedAt } := by
      have left := congrArg (fun bound => { bound with requestedAt := p.requestedAt }) rowSame
      have right := congrArg (fun bound => { bound with requestedAt := p.requestedAt }) same
      exact left.trans right.symm
    simp only [SeverityRequest.enqueue, EnqueueRequest.mk.injEq, Target.mk.injEq] at both
    obtain
      ⟨actions, ⟨_, subjects, certificates⟩, decisions, _, types, _, reasons, hashes, _⟩ := both
    obtain ⟨_, _, _, _, _, _, _, _, _⟩ := q
    obtain ⟨_, _, _, _, _, _, _, _, _⟩ := p
    simp only at tenant actions subjects certificates decisions types reasons hashes
    subst tenant actions subjects certificates decisions types reasons hashes
    rfl
  · exfalso
    obtain sameAction | sameDecisionKey := reused
    · exact Table.insertNew_fresh inserted action recorded.present (key _ rfl sameAction).symm
    · have none_ := List.find?_eq_none.mp absent action recorded.present
      exact none_ ((sameDecision_iff _ action).mpr (decisionKey sameDecisionKey).symm)

/-- How a repeated or a conflicting request is answered once a request has been accepted. -/
structure SeverityReplayLaw (p : SeverityRequest) (action : SecurityAction) (db : Database) :
    Prop where
  unchanged : ∀ clock requestedAt, (enqueueSeverityAction clock (p.again requestedAt) db).1 = db
  current : ∀ clock requestedAt status,
    (enqueueSeverityAction clock (p.again requestedAt) db).2 = .ok status →
    mapStatus action = .ok status
  answered : ∀ clock requestedAt,
    (∃ status, (enqueueSeverityAction clock (p.again requestedAt) db).2 = .ok status) ↔
      withinRequestWindow clock requestedAt = true ∧ action.execution.isClaimable = true ∧
        action.nextAttemptAt ≠ ⊤
  refused : ∀ clock q, q.tenantId = p.tenantId →
    (q.actionId = p.actionId ∨ q.decisionId = p.decisionId ∧ q.actionType = p.actionType) →
    q.again p.requestedAt ≠ p →
    ∃ failure, enqueueSeverityAction clock q db = (db, .error failure)

theorem SeverityRecorded.law {p : SeverityRequest} {action : SecurityAction} {db : Database}
    (recorded : SeverityRecorded p action db) : SeverityReplayLaw p action db := by
  have checks : ∀ requestedAt, ((p.again requestedAt).actionType = .blockRenewal ∨
      (p.again requestedAt).actionType = .revokeCertificate) ∧
      isReasonCode (p.again requestedAt).reasonCode = true :=
    fun _ => ⟨recorded.severity, recorded.coded⟩
  have answers : ∀ clock requestedAt, withinRequestWindow clock requestedAt = true →
      enqueueSeverityAction clock (p.again requestedAt) db =
        (db, (reportEnqueued action).mapError .service) := by
    intro clock requestedAt window
    have answered := (enqueueSeveritySecurityAction_replay recorded).mpr
      (And.intro window (And.intro (Eq.refl db) (Eq.refl action)))
    rw [enqueueSeverityAction, if_pos (checks requestedAt), answered]
  have refuses : ∀ clock requestedAt, ¬ withinRequestWindow clock requestedAt = true →
      ∃ failure, enqueueSeverityAction clock (p.again requestedAt) db = (db, .error failure) := by
    intro clock requestedAt outside
    rw [enqueueSeverityAction, if_pos (checks requestedAt)]
    cases called : enqueueSeveritySecurityAction clock (p.again requestedAt) db with
    | error failure => exact ⟨_, rfl⟩
    | ok result =>
        exact absurd ((enqueueSeveritySecurityAction_replay recorded).mp called).1 outside
  constructor
  · intro clock requestedAt
    by_cases window : withinRequestWindow clock requestedAt = true
    · rw [answers clock requestedAt window]
    · obtain ⟨failure, refused⟩ := refuses clock requestedAt window
      rw [refused]
  · intro clock requestedAt status answered
    by_cases window : withinRequestWindow clock requestedAt = true
    · rw [answers clock requestedAt window, Checked.mapError_eq_ok, reportEnqueued_eq_ok]
        at answered
      exact answered.1
    · obtain ⟨failure, refused⟩ := refuses clock requestedAt window
      rw [refused] at answered
      cases answered
  · intro clock requestedAt
    have coded := recorded.bound.coded action recorded.present
    rw [← mapStatus_eq_ok coded]
    by_cases window : withinRequestWindow clock requestedAt = true
    · simp only [answers clock requestedAt window, Checked.mapError_eq_ok, reportEnqueued_eq_ok,
        window, true_and, exists_and_right]
      exact and_comm
    · obtain ⟨failure, refused⟩ := refuses clock requestedAt window
      simp only [refused, window, reduceCtorEq, exists_false, false_and]
  · intro clock q tenant reused different
    rw [enqueueSeverityAction]
    split
    · cases called : enqueueSeveritySecurityAction clock q db with
      | error failure => exact ⟨_, rfl⟩
      | ok result =>
          exact absurd (enqueueSeveritySecurityAction_conflict recorded tenant reused called)
            different
    · exact ⟨_, rfl⟩

/-- After any work of the queue the identical request is answered with the current status of its
action exactly while the action waits for its next attempt; the database never changes, and no
other request passes under the same action or decision key. -/
theorem severity_replays {db next : Database} (reachable : db.Reachable) {clock : Timestamp}
    {p : SeverityRequest} {status : SeverityActionStatus}
    (accepted : enqueueSeverityAction clock p db = (next, .ok status)) (ops : List QueueOp) :
    ∃ action, (runQueue next ops).actions.get? (p.tenantId, p.actionId) = some action ∧
      SeverityReplayLaw p action (runQueue next ops) := by
  unfold enqueueSeverityAction at accepted
  split at accepted
  · rename_i checks
    cases called : enqueueSeveritySecurityAction clock p db with
    | error failure =>
        rw [called] at accepted
        cases accepted
    | ok result =>
        rw [called] at accepted
        have sameNext : result.1 = next := congrArg Prod.fst accepted
        rw [← sameNext]
        have recorded := enqueueSeveritySecurityAction_recorded (reachable_bound reachable)
          checks.1 called
        have committed : result.1.Reachable := by
          have step := reachable.commit (.enqueueSeverity clock p)
          rwa [Transaction.commit_ok] at step
          simp only [applyQueue, called]
          rfl
        obtain ⟨later, key, kept⟩ := recorded.run committed ops
        refine ⟨later, ?_, kept.law⟩
        have tenantId : p.tenantId = later.target.tenantId :=
          congrArg (fun bound => bound.target.tenantId) kept.same
        have actionId : p.actionId = later.actionId :=
          congrArg EnqueueRequest.actionId kept.same
        rw [tenantId, actionId]
        exact Table.get?_of_mem kept.present
  · cases accepted

namespace Scenario

def renewalBlock : SeverityRequest where
  tenantId := target.tenantId
  actionId := ⟨2⟩
  decisionId := ⟨2⟩
  targetSubjectId := target.subjectId
  targetCertificateId := target.certificateId
  actionType := .blockRenewal
  reasonCode := "SEVERE_EVIDENCE"
  triggerContextHashSha256 := ⟨1⟩
  requestedAt := 0

def queued : Database := (enqueueSeverityAction 0 renewalBlock deployment).1

def queuedStatus : SeverityActionStatus where
  tenantId := target.tenantId
  actionId := ⟨2⟩
  status := .pending
  attemptCount := 0
  lastFailureCode := none
  nextAttemptAt := 0
  succeededAt := none

/-- The first request is answered, and so is its repetition until a worker takes the action. -/
theorem renewalBlock_answers :
    (enqueueSeverityAction 0 renewalBlock deployment).2 = .ok queuedStatus ∧
      (enqueueSeverityAction 0 (renewalBlock.again 0) (runQueue queued [claim 1])).2 =
        .error (.service "SECURITY_ACTION_REQUEST_INVALID") := by
  decide +kernel

theorem deployment_reachable : deployment.Reachable := ⟨deployment, [], deployment_fresh, rfl⟩

end Scenario

open Scenario in
/-- A repetition while a worker executes the action is an error. -/
theorem executing_replay_refused :
    ¬ ∀ (db : Database) (clock : Timestamp) (p : SeverityRequest) (next : Database)
        (status : SeverityActionStatus), db.Reachable →
      enqueueSeverityAction clock p db = (next, .ok status) →
      ∀ ops again requestedAt, withinRequestWindow again requestedAt = true →
        ∃ replayed, enqueueSeverityAction again (p.again requestedAt) (runQueue next ops) =
          (runQueue next ops, .ok replayed) := by
  intro claim
  have accepted : enqueueSeverityAction 0 renewalBlock deployment = (queued, .ok queuedStatus) :=
    Prod.ext rfl renewalBlock_answers.1
  obtain ⟨replayed, answered⟩ := claim deployment 0 renewalBlock queued queuedStatus
    deployment_reachable accepted [Scenario.claim 1] 0 0 (by decide)
  have refused := renewalBlock_answers.2
  rw [answered] at refused
  cases refused

open Scenario in
/-- The request to block a renewal, repeated after a worker took its action and failed. -/
theorem severity_replays_failed : ∃ action,
    (runQueue queued [claim 1, failure 2 1]).actions.get? (⟨1⟩, ⟨2⟩) = some action ∧
      action.execution = .failed ∧
      SeverityReplayLaw renewalBlock action (runQueue queued [claim 1, failure 2 1]) := by
  obtain ⟨action, found, law⟩ : ∃ action,
      (runQueue queued [claim 1, failure 2 1]).actions.get? (⟨1⟩, ⟨2⟩) = some action ∧
        SeverityReplayLaw renewalBlock action (runQueue queued [claim 1, failure 2 1]) :=
    severity_replays deployment_reachable (Prod.ext rfl renewalBlock_answers.1) _
  have failed : ((runQueue queued [claim 1, failure 2 1]).actions.get? (⟨1⟩, ⟨2⟩)).map
      SecurityAction.execution = some .failed := by
    decide +kernel
  rw [found, Option.map_some, Option.some.injEq] at failed
  exact ⟨action, found, failed, law⟩

end TenantTrust.Orchestration
