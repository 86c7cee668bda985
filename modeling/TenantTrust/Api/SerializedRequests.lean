import TenantTrust.Api.CertificateSerialization
import TenantTrust.Api.Suspension

/-! Runs of concurrent requests and lifecycle calls: what has held of the presented certificate
since a request read it. -/

namespace TenantTrust.Api

open Library Identity Orchestration

/-- The row that a request has read under its lock, with the time of the statement. -/
def RequestStage.reads? : RequestStage → Option (Certificate × Timestamp)
  | .answered _ _ _ observedAt record => record.map fun row => (row, observedAt)
  | .validated record state => some (record, state.observedAt)
  | .entered _ | .discovered _ _ | .checked _ _ _ | .asked _ _ _ _ | .ended => none

namespace CertificateDeployment

/-- A request is in a stage. -/
def Stage (d : CertificateDeployment) (number : ℕ) (authentication : Authentication)
    (stage : RequestStage) : Prop :=
  d.transactions.get? number = some ⟨number, .request authentication stage⟩

def Reads (d : CertificateDeployment) (number : ℕ) (authentication : Authentication)
    (row : Certificate) (observedAt : Timestamp) : Prop :=
  ∃ stage, d.Stage number authentication stage ∧ stage.reads? = some (row, observedAt)

/-- The request holds a share lock on the row, and the row is the committed one. -/
def Shares (d : CertificateDeployment) (number : ℕ) (row : Certificate) : Prop :=
  d.lockOf number = some (.share row) ∧ row ∈ d.inventory.certificates

end CertificateDeployment

/-- Since the statement that read the row, no earlier than its time, the request has shared the
row in every state of the run. -/
def LockedSince (start : CertificateDeployment) (ops : List CertificateOp) (number : ℕ)
    (row : Certificate) (observedAt : Timestamp) : Prop :=
  ∃ before during, ops = before ++ .step number .grant :: during ∧
    observedAt ≤ (runCertificates start before).databaseClock ∧
    ∀ mid rest, during = mid ++ rest →
      (runCertificates start (before ++ .step number .grant :: mid)).Shares number row

section Reads

variable {authentication : Authentication} {d next start : CertificateDeployment} {number : ℕ}
  {row : Certificate} {observedAt : Timestamp} {stage later : RequestStage} {step : RequestStep}
  {op : CertificateOp} {reply : StepReply}

theorem reads_lock (reads : stage.reads? = some (row, observedAt)) :
    stage.lock? = some (.share row) := by
  cases stage with
  | answered context certificateId checkedAt observed record =>
      obtain ⟨_, found, same⟩ := Option.map_eq_some_iff.mp reads
      cases same
      rw [found]
      rfl
  | validated record state =>
      cases reads
      rfl
  | entered | discovered | checked | asked | ended => cases reads

theorem CertificateDeployment.Sound.shares (sound : d.Sound)
    (reads : d.Reads number authentication row observedAt) : d.Shares number row := by
  obtain ⟨stage, found, reads⟩ := reads
  have locked := reads_lock reads
  refine ⟨?_, (sound.stages number authentication stage found).fits locked⟩
  rw [CertificateDeployment.lockOf, found]
  exact locked

/-- A row is read by the granted statement, and what was read stays until the end. -/
theorem Advances.reads (advances : Advances authentication d stage step later)
    (reads : later.reads? = some (row, observedAt)) :
    stage.reads? = some (row, observedAt) ∨
      step = .grant ∧ (stage.Sound d authentication → observedAt ≤ d.databaseClock) := by
  cases advances with
  | grant locked =>
      obtain ⟨_, _, same⟩ := Option.map_eq_some_iff.mp reads
      cases same
      exact Or.inr ⟨rfl, fun sound => sound.2.2⟩
  | accept judged =>
      cases reads
      rw [requestStateOf, (judgeRecord_eq_ok judged).2.1]
      exact Or.inl rfl
  | query fresh => exact Or.inl reads
  | discover | check | ask | commit => cases reads

theorem put_stage {changed : ℕ} {work : Work} (present : (d.put changed work).Stage number
    authentication stage) :
    (changed = number ∧ work = .request authentication stage) ∨
      d.Stage number authentication stage := by
  rw [CertificateDeployment.Stage, put_get?] at present
  split at present
  · cases present
    exact Or.inl ⟨rfl, rfl⟩
  · exact Or.inr present

/-- The step that lets a request read a row is the grant of its lock. -/
theorem reads_step (sound : d.Sound) (succeeded : applyCertificates op d = .ok (next, reply))
    (before : ¬ d.Reads number authentication row observedAt)
    (after : next.Reads number authentication row observedAt) :
    op = .step number .grant ∧ observedAt ≤ d.databaseClock := by
  obtain ⟨stage, present, reads⟩ := after
  have kept : ¬ d.Stage number authentication stage := by
    intro earlier
    exact before ⟨stage, earlier, reads⟩
  have unlocked : ∀ changed work, work.lock? = none →
      ¬ (d.put changed work).Stage number authentication stage := by
    intro changed work none_ present
    rcases put_stage present with ⟨_, rfl⟩ | earlier
    · rw [show Work.lock? (.request authentication stage) = stage.lock? from rfl,
        reads_lock reads] at none_
      cases none_
    · exact kept earlier
  cases op with
  | tick elapsed =>
      obtain ⟨rfl, _⟩ := Prod.mk.inj (Checked.pure_eq_ok.mp succeeded)
      exact absurd present kept
  | enter changed other authority =>
      obtain ⟨_, entered, none_, _, rfl⟩ := enter_cases succeeded
      exact absurd present (unlocked changed _ none_)
  | step changed step =>
      obtain ⟨other, earlier, _, ended | taken⟩ := step_cases succeeded
      · obtain ⟨_, _, rfl⟩ := ended
        exact absurd present (unlocked changed _ rfl)
      · obtain ⟨later, _, stepped⟩ := taken
        rw [stepped.next_eq] at present
        rcases put_stage present with ⟨rfl, same⟩ | elsewhere
        · cases same
          rcases stepped.advances.reads reads with already | ⟨rfl, timely⟩
          · exact absurd ⟨earlier, stepped.found, already⟩ before
          · exact ⟨rfl, timely (sound.stages _ _ earlier stepped.found)⟩
        · exact absurd elsewhere kept
  | change changed op =>
      simp only [applyCertificates, CertificateDeployment.change, Checked.bind_eq_ok,
        Checked.require_eq_ok, Checked.pure_eq_ok, exists_const, Prod.mk.injEq] at succeeded
      obtain ⟨_, _, rfl, _⟩ := succeeded
      rcases put_stage present with ⟨_, same⟩ | earlier
      · cases same
      · exact absurd earlier kept
  | finish changed =>
      obtain ⟨op, _, rfl⟩ := finish_cases succeeded
      exact absurd present (unlocked changed (.lifecycle op true) rfl)
  | rollback changed =>
      obtain ⟨work, _, rfl⟩ := rollback_cases succeeded
      exact absurd present (unlocked changed _ (rolledBack_lock? work))

end Reads

section Runs

variable {authentication : Authentication} {start : CertificateDeployment} {number : ℕ}
  {row : Certificate} {observedAt : Timestamp}

theorem sound_fresh (fresh : start.transactions = Table.empty) : start.Sound where
  held := by
    have none_ : start.lockOf = fun _ => none := by
      funext number
      rw [CertificateDeployment.lockOf, fresh]
      rfl
    rw [none_]
    exact RowLocks.held_none
  stages := by
    intro number authentication stage found
    rw [fresh] at found
    cases found

theorem sound_run (sound : start.Sound) (ops : List CertificateOp) :
    (runCertificates start ops).Sound :=
  Transaction.run_preserves (fun _ _ _ _ sound succeeded => sound_step sound succeeded) start ops
    sound

theorem locked_since (fresh : start.transactions = Table.empty) {ops : List CertificateOp}
    (reads : (runCertificates start ops).Reads number authentication row observedAt) :
    LockedSince start ops number row observedAt := by
  have none_ : ¬ start.Reads number authentication row observedAt := by
    rintro ⟨stage, found, _⟩
    rw [CertificateDeployment.Stage, fresh] at found
    cases found
  obtain ⟨front, op, back, reply, split_, notYet, succeeded, held⟩ := Transaction.run_since
    (P := fun d : CertificateDeployment => d.Reads number authentication row observedAt)
    start ops none_ reads
  have first := held [] back rfl
  have sound := sound_run (sound_fresh fresh) front
  obtain ⟨rfl, timely⟩ := reads_step sound succeeded notYet first
  refine ⟨front, back, split_, timely, ?_⟩
  intro mid rest between
  exact (sound_run (sound_fresh fresh) _).shares (held mid rest between)

end Runs

section Barred

variable {authentication : Authentication} {d next : CertificateDeployment} {number : ℕ}
  {key : TenantId × CertificateId} {stage later : RequestStage} {step : RequestStep}
  {op : CertificateOp} {reply : StepReply}

/-- The committed row of the key is presented and is no longer active. -/
def Withdrawn (d : CertificateDeployment) (authentication : Authentication)
    (key : TenantId × CertificateId) : Prop :=
  ∃ row ∈ d.inventory.certificates, row.key = key ∧ authentication.presents row = true ∧
    row.state ≠ .active

/-- A stage that cannot lead to a protected query once the certificate is withdrawn. -/
def RequestStage.Barred (authentication : Authentication) (key : TenantId × CertificateId) :
    RequestStage → Prop
  | .entered _ | .ended => True
  | .discovered _ certificateId | .checked _ certificateId _ | .asked _ certificateId _ _ =>
      (authentication.tenantId, certificateId) = key
  | .answered _ _ _ _ record => ∀ row, record = some row → row.state ≠ .active
  | .validated _ _ => False

structure Bars (number : ℕ) (authentication : Authentication) (key : TenantId × CertificateId)
    (d : CertificateDeployment) : Prop where
  sound : d.Sound
  withdrawn : Withdrawn d authentication key
  stage : ∃ stage, d.Stage number authentication stage ∧ stage.Barred authentication key

theorem Withdrawn.mono (withdrawn : Withdrawn d authentication key)
    (extends_ : d.inventory.Extends next.inventory) : Withdrawn next authentication key := by
  obtain ⟨row, member, named, presents, ended⟩ := withdrawn
  obtain ⟨later, present, continues⟩ := extends_.persists row member
  refine ⟨later, present, continues.key.trans named,
    (presents_continues continues).trans presents, ?_⟩
  rw [continues.terminal ended]
  exact ended

theorem Advances.barred (advances : Advances authentication d stage step later)
    (withdrawn : Withdrawn d authentication key) (sound : stage.Sound d authentication)
    (barred : stage.Barred authentication key) : later.Barred authentication key := by
  obtain ⟨row, member, named, presents, ended⟩ := withdrawn
  cases advances with
  | discover discovered =>
      have same := discoverCertificate_unique discovered member presents
      rw [← named]
      exact Prod.ext (presents_tenant presents).symm same.symm
  | check => exact barred
  | ask => exact barred
  | grant locked =>
      intro found same
      obtain ⟨present, keyed⟩ := lock_eq_ok locked same
      have reached : found.key = row.key := by
        rw [keyed, sound.2.1, named]
        exact barred
      rw [d.inventory.certificates.unique present member reached]
      exact ended
  | accept judged => exact barred _ rfl (judgeRecord_eq_ok judged).1
  | query fresh => exact barred
  | commit => trivial

theorem applyCertificates_extends (succeeded : applyCertificates op d = .ok (next, reply)) :
    d.inventory.Extends next.inventory := by
  cases op with
  | tick elapsed =>
      obtain ⟨rfl, _⟩ := Prod.mk.inj (Checked.pure_eq_ok.mp succeeded)
      exact .refl _
  | enter changed authentication authority =>
      obtain ⟨_, _, _, _, rfl⟩ := enter_cases succeeded
      exact .refl _
  | step changed step =>
      obtain ⟨_, _, _, ⟨_, _, rfl⟩ | ⟨_, _, stepped⟩⟩ := step_cases succeeded
      · exact .refl _
      · rw [stepped.next_eq]
        exact .refl _
  | change changed op =>
      simp only [applyCertificates, CertificateDeployment.change, Checked.bind_eq_ok,
        Checked.require_eq_ok, Checked.pure_eq_ok, exists_const, Prod.mk.injEq] at succeeded
      obtain ⟨_, _, rfl, _⟩ := succeeded
      exact .refl _
  | finish changed =>
      obtain ⟨op, _, rfl⟩ := finish_cases succeeded
      exact commit_extends d.inventory op
  | rollback changed =>
      obtain ⟨_, _, rfl⟩ := rollback_cases succeeded
      exact .refl _

theorem put_stage_of_ne {changed : ℕ} {work : Work} (apart : number ≠ changed) :
    (d.put changed work).Stage number authentication stage ↔
      d.Stage number authentication stage := by
  rw [CertificateDeployment.Stage, put_get?, if_neg apart, CertificateDeployment.Stage]

theorem put_stage_self :
    (d.put number (.request authentication stage)).Stage number authentication stage := by
  rw [CertificateDeployment.Stage, put_get?, if_pos rfl]

/-- A request that has not read its withdrawn certificate never reads it as active. -/
theorem Bars.kept (bars : Bars number authentication key d)
    (succeeded : applyCertificates op d = .ok (next, reply)) :
    Bars number authentication key next := by
  refine ⟨sound_step bars.sound succeeded, bars.withdrawn.mono
    (applyCertificates_extends succeeded), ?_⟩
  obtain ⟨stage, present, barred⟩ := bars.stage
  have others : ∀ changed work, number ≠ changed →
      ∃ stage, (d.put changed work).Stage number authentication stage ∧
        stage.Barred authentication key := by
    intro changed work apart
    exact ⟨stage, (put_stage_of_ne apart).mpr present, barred⟩
  cases op with
  | tick elapsed =>
      obtain ⟨rfl, _⟩ := Prod.mk.inj (Checked.pure_eq_ok.mp succeeded)
      exact ⟨stage, present, barred⟩
  | enter changed other authority =>
      obtain ⟨unused, _, _, _, rfl⟩ := enter_cases succeeded
      apply others
      rintro rfl
      rw [CertificateDeployment.Stage, unused] at present
      cases present
  | step changed step =>
      obtain ⟨other, earlier, found, outcome⟩ := step_cases succeeded
      by_cases mine : number = changed
      · subst mine
        cases present.symm.trans found
        rcases outcome with ⟨_, _, rfl⟩ | ⟨later, _, stepped⟩
        · exact ⟨.ended, put_stage_self, trivial⟩
        · rw [stepped.next_eq]
          refine ⟨later, put_stage_self, stepped.advances.barred bars.withdrawn ?_ barred⟩
          exact bars.sound.stages number authentication stage present
      · rcases outcome with ⟨_, _, rfl⟩ | ⟨later, _, stepped⟩
        · exact others changed _ mine
        · rw [stepped.next_eq]
          exact others changed _ mine
  | change changed op =>
      simp only [applyCertificates, CertificateDeployment.change, Checked.bind_eq_ok,
        Checked.require_eq_ok, Checked.pure_eq_ok, exists_const, Prod.mk.injEq] at succeeded
      obtain ⟨unused, _, rfl, _⟩ := succeeded
      apply others
      rintro rfl
      rw [CertificateDeployment.Stage, unused] at present
      cases present
  | finish changed =>
      obtain ⟨op, found, rfl⟩ := finish_cases succeeded
      have apart : number ≠ changed := by
        rintro rfl
        cases present.symm.trans found
      exact others changed (.lifecycle op true) apart
  | rollback changed =>
      obtain ⟨work, found, rfl⟩ := rollback_cases succeeded
      by_cases mine : number = changed
      · subst mine
        cases present.symm.trans found
        exact ⟨.ended, put_stage_self, trivial⟩
      · exact others changed _ mine

end Barred

section Requests

variable {authentication : Authentication} {d next start : CertificateDeployment} {number : ℕ}
  {row : Certificate} {observedAt now : Timestamp}

/-- The request reads its presented certificate, which was active and locked ever since. -/
structure Served (start : CertificateDeployment) (ops : List CertificateOp) (number : ℕ)
    (authentication : Authentication) (row : Certificate) (observedAt : Timestamp) : Prop where
  reads : (runCertificates start ops).Reads number authentication row observedAt
  presented : authentication.presents row = true
  active : row.state = .active
  locked : LockedSince start ops number row observedAt

theorem served_of_validated (fresh : start.transactions = Table.empty) {ops : List CertificateOp}
    {state : RequestState}
    (found : (runCertificates start ops).Stage number authentication (.validated row state)) :
    Served start ops number authentication row state.observedAt := by
  have sound := (sound_run (sound_fresh fresh) ops).stages number authentication _ found
  have reads : (runCertificates start ops).Reads number authentication row state.observedAt :=
    ⟨_, found, rfl⟩
  exact ⟨reads, sound.1, sound.2.2.1, locked_since fresh reads⟩

theorem commit_validated {reply : StepReply}
    (succeeded : applyCertificates (.step number .commit) d = .ok (next, reply))
    (committed : reply = .committed) :
    ∃ authentication row state, d.Stage number authentication (.validated row state) := by
  obtain ⟨authentication, stage, _, ⟨failure, failed, _⟩ | ⟨later, _, stepped⟩⟩ :=
    step_cases succeeded
  · rw [committed] at failed
    cases failed
  · have found := stepped.found
    cases stepped.advances with
    | commit => exact ⟨authentication, _, _, found⟩

theorem query_validated {reply : StepReply}
    (succeeded : applyCertificates (.step number (.query now)) d = .ok (next, reply))
    (issued : reply = .issued) :
    ∃ authentication row state, d.Stage number authentication (.validated row state) ∧
      assertFresh state now = .ok () := by
  obtain ⟨authentication, stage, _, ⟨failure, failed, _⟩ | ⟨later, _, stepped⟩⟩ :=
    step_cases succeeded
  · rw [issued] at failed
    cases failed
  · have found := stepped.found
    cases stepped.advances with
    | query fresh => exact ⟨authentication, _, _, found, fresh⟩

theorem withdrawn_not_queried {ops : List CertificateOp} {context : TenantContext}
    {reply : StepReply} (sound : d.Sound)
    (entered : d.Stage number authentication (.entered context))
    (member : row ∈ d.inventory.certificates) (presents : authentication.presents row = true)
    (ended : row.state ≠ .active)
    (succeeded : applyCertificates (.step number (.query now)) (runCertificates d ops) =
      .ok (next, reply)) : reply ≠ .issued := by
  intro issued
  have initial : Bars number authentication row.key d :=
    ⟨sound, ⟨row, member, rfl, presents, ended⟩, _, entered, trivial⟩
  have bars : Bars number authentication row.key (runCertificates d ops) :=
    Transaction.run_preserves (fun _ _ _ _ bars succeeded => bars.kept succeeded) d ops initial
  obtain ⟨other, read, state, found, _⟩ := query_validated succeeded issued
  obtain ⟨stage, present, barred⟩ := bars.stage
  cases present.symm.trans found
  exact barred

/-- Requests and the lifecycle of certificates are serialized. By the clock of the database what
was validated is fresh up to the time by which that clock is ahead of the query's reading. -/
theorem requests_serialized (fresh : start.transactions = Table.empty) {ops : List CertificateOp} :
    (∀ front number back next,
      ops = front ++ .step number .commit :: back →
      applyCertificates (.step number .commit) (runCertificates start front) =
        .ok (next, .committed) →
      ∃ authentication row observedAt, Served start front number authentication row observedAt) ∧
    (∀ front number now back next,
      ops = front ++ .step number (.query now) :: back →
      applyCertificates (.step number (.query now)) (runCertificates start front) =
        .ok (next, .issued) →
      ∃ authentication row observedAt, Served start front number authentication row observedAt ∧
        now < observedAt + maximumSourceAge ∧ now < authentication.certificate.notAfter ∧
        ∀ skew, (runCertificates start front).databaseClock ≤ now + skew →
          (runCertificates start front).databaseClock < observedAt + maximumSourceAge + skew ∧
          (runCertificates start front).databaseClock <
            authentication.certificate.notAfter + skew) ∧
    ∀ front mid number now back next reply authentication context row,
      ops = front ++ mid ++ .step number (.query now) :: back →
      (runCertificates start front).Stage number authentication (.entered context) →
      row ∈ (runCertificates start front).inventory.certificates →
      authentication.presents row = true → row.state ≠ .active →
      applyCertificates (.step number (.query now)) (runCertificates start (front ++ mid)) =
        .ok (next, reply) → reply ≠ .issued := by
  refine ⟨?_, ?_, ?_⟩
  · intro front number back next _ succeeded
    obtain ⟨authentication, row, state, found⟩ := commit_validated succeeded rfl
    exact ⟨authentication, row, state.observedAt, served_of_validated fresh found⟩
  · intro front number now back next split_ succeeded
    obtain ⟨authentication, row, state, found, fresh_⟩ := query_validated succeeded rfl
    obtain ⟨_, _, _, young, valid⟩ :=
      (sound_run (sound_fresh fresh) front).stages number authentication _ found
    have limit : now < state.validUntil := (Checked.require_eq_ok.mp fresh_).2
    have withinAge : now < state.observedAt + maximumSourceAge := lt_of_lt_of_le limit young
    have withinTerm : now < authentication.certificate.notAfter := lt_of_lt_of_le limit valid
    refine ⟨authentication, row, state.observedAt, served_of_validated fresh found, withinAge,
      withinTerm, fun skew near => ⟨?_, ?_⟩⟩
    · exact lt_of_le_of_lt near (Int.add_lt_add_right withinAge skew)
    · exact lt_of_le_of_lt near (Int.add_lt_add_right withinTerm skew)
  · intro front mid number now back next reply authentication context row _ entered member
      presents ended succeeded
    rw [runCertificates, Transaction.run_append] at succeeded
    exact withdrawn_not_queried (sound_run (sound_fresh fresh) front) entered member presents ended
      succeeded

end Requests

namespace SerialScenario

/-! A request and a revocation of its certificate that starts while the request is served. -/

def start : CertificateDeployment := ⟨Scenario.deployment.inventory, 0, Table.empty⟩

def authentication : Authentication := RequestScenario.presented Scenario.certificate

def revocation : InventoryOp := .revoke (Scenario.session 2) {
  eventId := ⟨2⟩
  correlationId := ⟨2⟩
  requestId := ⟨2⟩
  certificateId := Scenario.target.certificateId
  reasonCode := .keyCompromise
  revokedAt := 0
  idempotencyKey := .requested 2
  issuerConfirmationId := "confirmation-2" }

def authority : Authority := ⟨.active, .active, .active, 1, 1, 1, [.tenantMember]⟩

def context : TenantContext := ⟨⟨1⟩, ⟨1⟩, [.tenantMember], ⟨1, 1, 1⟩⟩

/-- A request up to the acceptance of its status record. -/
def validation (number : ℕ) (now : Timestamp) : List CertificateOp :=
  [.enter number authentication (some authority), .step number .discover,
    .step number (.check now), .step number (.ask (Scenario.session 1)), .step number .grant,
    .step number (.accept now)]

def querying : List CertificateOp :=
  validation 1 0 ++ [.change 2 revocation, .step 1 (.query 0), .tick 1000]

def served : List CertificateOp := querying ++ [.step 1 (.query 1500)]

def revoked : List CertificateOp :=
  served ++ [.step 1 .commit, .change 2 revocation, .finish 2]

def reply (ops : List CertificateOp) (op : CertificateOp) : Except Refusal StepReply :=
  (applyCertificates op (runCertificates start ops)).map Prod.snd

/-- The revocation waits for the request, which commits; the next request is turned away. -/
theorem replies :
    reply (validation 1 0) (.change 2 revocation) = .error .waits ∧
      reply served (.step 1 .commit) = .ok .committed ∧
      reply (served ++ [.step 1 .commit, .change 2 revocation]) (.finish 2) = .ok .committed ∧
      reply (revoked ++ (validation 3 1000).take 5) (.step 3 (.accept 1000)) =
        .ok (.failed .certificateNotAccepted) ∧
      reply querying (.step 1 (.query 1500)) = .ok .issued ∧
      validateRequestState (authentication.statusSession start (Scenario.session 1))
          ⟨0, 0, 0, 0, 0, 0, 0⟩ false authentication context start.inventory =
        .ok (RequestScenario.passedState Scenario.certificate.certificateId) := by
  decide +kernel

end SerialScenario

open SerialScenario in
/-- The commit, and the query before it, which is issued while the revocation waits. -/
theorem requests_serialized_once :
    (∃ authentication row observedAt, Served start served 1 authentication row observedAt) ∧
    ∃ authentication row observedAt,
      Served start querying 1 authentication row observedAt ∧
        (runCertificates start querying).databaseClock < observedAt + maximumSourceAge := by
  obtain ⟨_, committed, _, _, issued, _⟩ := replies
  constructor
  · obtain ⟨⟨next, answer⟩, succeeded, same⟩ := Checked.map_eq_ok.mp committed
    cases same
    exact (requests_serialized rfl).1 served 1 [] next rfl succeeded
  · obtain ⟨⟨next, answer⟩, succeeded, same⟩ := Checked.map_eq_ok.mp issued
    cases same
    obtain ⟨presented, row, observedAt, served_, _, _, near⟩ :=
      (requests_serialized rfl).2.1 querying 1 1500 [] next rfl succeeded
    have ahead := (near 0 (by decide)).1
    rw [add_zero] at ahead
    exact ⟨presented, row, observedAt, served_, ahead⟩

open SerialScenario in
theorem quiet_validation_once : ∃ row,
    (runCertificates (start.put 1 (.request authentication (.entered context)))
      ((validationSteps (Scenario.session 1) ⟨0, 0, 0, 0, 0, 0, 0⟩).map
        (.step 1))).transactions.get? 1 =
        some ⟨1, .request authentication (.validated row
          (RequestScenario.passedState Scenario.certificate.certificateId))⟩ := by
  obtain ⟨_, _, _, _, _, validated⟩ := replies
  have unlocked : ∀ other, other ≠ 1 →
      (start.put 1 (.request authentication (.entered context))).lockOf other = none := by
    intro other apart
    rw [put_lockOf, if_neg apart]
    rfl
  exact ((quiet_validation unlocked (by rw [put_get?, if_pos rfl])).1 _).mpr validated

end TenantTrust.Api
