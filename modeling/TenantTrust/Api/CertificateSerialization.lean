import TenantTrust.Api.RequestTransactions

/-! Requests are serialized with the lifecycle of the certificate that they present. -/

namespace TenantTrust.Api

open Library Identity

section Rows

variable {authentication : Authentication} {d next : CertificateDeployment}

theorem presentedCertificates_eq (authentication : Authentication) (inventory : Inventory) :
    presentedCertificates authentication inventory =
      inventory.certificates.rows.filter authentication.presents := rfl

/-- What a certificate presents does not change with its state. -/
theorem presents_continues {old new : Certificate} (continues : old.Continues new) :
    authentication.presents new = authentication.presents old := by
  unfold Authentication.presents
  rw [continues.identity]

theorem presents_tenant {row : Certificate} (presents : authentication.presents row = true) :
    row.tenantId = authentication.tenantId := by
  simp only [Authentication.presents, Bool.and_eq_true, decide_eq_true_eq] at presents
  exact presents.1.1.1.1.1.1.1

/-- The committed row of an identifier is one that the request presents. -/
def Found (d : CertificateDeployment) (authentication : Authentication)
    (certificateId : CertificateId) : Prop :=
  ∃ row ∈ d.inventory.certificates, row.key = (authentication.tenantId, certificateId) ∧
    authentication.presents row = true

theorem Found.mono {certificateId : CertificateId} (found : Found d authentication certificateId)
    (extends_ : d.inventory.Extends next.inventory) :
    Found next authentication certificateId := by
  obtain ⟨row, member, key, presents⟩ := found
  obtain ⟨later, present, continues⟩ := extends_.persists row member
  exact ⟨later, present, continues.key.trans key, (presents_continues continues).trans presents⟩

theorem discoverCertificate_eq_ok {inventory : Inventory} {certificateId : CertificateId}
    (discovered : discoverCertificate authentication inventory = .ok certificateId) :
    ∃ row, presentedCertificates authentication inventory = [row] ∧
      row.certificateId = certificateId := by
  simp only [discoverCertificate, Checked.bind_eq_ok] at discovered
  obtain ⟨_, _, discovered⟩ := discovered
  split at discovered
  · cases discovered
  · rename_i row single
    exact ⟨row, single, Checked.pure_eq_ok.mp discovered⟩
  · cases discovered

/-- A row that is presented is the only one that is found. -/
theorem discoverCertificate_unique {inventory : Inventory} {certificateId : CertificateId}
    (discovered : discoverCertificate authentication inventory = .ok certificateId)
    {row : Certificate} (member : row ∈ inventory.certificates)
    (presents : authentication.presents row = true) : row.certificateId = certificateId := by
  obtain ⟨only, single, same⟩ := discoverCertificate_eq_ok discovered
  have listed : row ∈ presentedCertificates authentication inventory := by
    rw [presentedCertificates_eq]
    exact List.mem_filter.mpr ⟨member, presents⟩
  rw [single, List.mem_singleton] at listed
  rw [listed]
  exact same

theorem found_of_discovered {certificateId : CertificateId}
    (discovered : discoverCertificate authentication d.inventory = .ok certificateId) :
    Found d authentication certificateId := by
  obtain ⟨row, single, same⟩ := discoverCertificate_eq_ok discovered
  have listed : row ∈ presentedCertificates authentication d.inventory := by
    rw [single]
    exact List.mem_singleton_self row
  rw [presentedCertificates_eq] at listed
  obtain ⟨member, presents⟩ := List.mem_filter.mp listed
  exact ⟨row, member, Prod.ext (presents_tenant presents) same, presents⟩

theorem lock_eq_ok {session : Session} {certificateId : CertificateId} {inventory : Inventory}
    {record : Option Certificate}
    (locked : lockCurrentActorCertificateStatus session certificateId authentication inventory =
      .ok record) {row : Certificate} (found : record = some row) :
    row ∈ inventory.certificates ∧ row.key = (session.tenantId, certificateId) := by
  simp only [lockCurrentActorCertificateStatus, Checked.bind_eq_ok, Checked.require_eq_ok,
    Checked.pure_eq_ok, exists_const] at locked
  obtain ⟨_, rfl⟩ := locked
  have named := List.find?_some found
  simp only [Bool.and_eq_true, decide_eq_true_eq] at named
  exact ⟨List.mem_of_find?_eq_some found, Prod.ext named.1.1.1.1.1 named.1.1.1.2⟩

theorem judgeRecord_eq_ok {record : Certificate} {observedAt checkedAt : Timestamp}
    {certificateId : CertificateId} {verdict : AcceptedStatus}
    (judged : judgeRecord record observedAt checkedAt certificateId authentication =
      .ok verdict) :
    record.state = .active ∧ verdict.statusObservedAt = observedAt ∧
      verdict.cacheableUntil ≤ authentication.certificate.notAfter := by
  simp only [judgeRecord, Checked.bind_eq_ok, Checked.require_eq_ok, exists_const] at judged
  obtain ⟨_, _, accepted⟩ := judged
  have active := acceptState_active accepted
  simp only [acceptState, active, Checked.bind_eq_ok, Checked.require_eq_ok, Checked.pure_eq_ok,
    exists_const] at accepted
  obtain ⟨_, rfl⟩ := accepted
  exact ⟨active, rfl, min_le_right _ _⟩

theorem liftStatus_eq_ok {α : Type} {outcome : Except StatusDenial α} {value : α} :
    liftStatus outcome = .ok value ↔ outcome = .ok value := by
  cases outcome <;> simp [liftStatus]

end Rows

section Stages

variable {authentication : Authentication} {d next : CertificateDeployment}
  {stage later : RequestStage} {step : RequestStep}

/-- A step that a request takes, with what it found. -/
inductive Advances (authentication : Authentication) (d : CertificateDeployment) :
    RequestStage → RequestStep → RequestStage → Prop
  | discover {context : TenantContext} {certificateId : CertificateId}
      (discovered : discoverCertificate authentication d.inventory = .ok certificateId) :
      Advances authentication d (.entered context) .discover (.discovered context certificateId)
  | check {context : TenantContext} {certificateId : CertificateId} {now : Timestamp} :
      Advances authentication d (.discovered context certificateId) (.check now)
        (.checked context certificateId now)
  | ask {context : TenantContext} {certificateId : CertificateId} {checkedAt : Timestamp}
      {session : Session} :
      Advances authentication d (.checked context certificateId checkedAt) (.ask session)
        (.asked context certificateId checkedAt { session with
          tenantId := authentication.tenantId
          subjectId := authentication.subjectId
          clock := d.databaseClock })
  | grant {context : TenantContext} {certificateId : CertificateId} {checkedAt : Timestamp}
      {session : Session} {record : Option Certificate}
      (locked : lockCurrentActorCertificateStatus session certificateId authentication
        d.inventory = .ok record) :
      Advances authentication d (.asked context certificateId checkedAt session) .grant
        (.answered context certificateId checkedAt session.clock record)
  | accept {context : TenantContext} {certificateId : CertificateId}
      {checkedAt observedAt now : Timestamp} {record : Certificate} {verdict : AcceptedStatus}
      (judged : judgeRecord record observedAt checkedAt certificateId authentication =
        .ok verdict) :
      Advances authentication d
        (.answered context certificateId checkedAt observedAt (some record)) (.accept now)
        (.validated record (requestStateOf context certificateId verdict))
  | query {record : Certificate} {state : RequestState} {now : Timestamp}
      (fresh : assertFresh state now = .ok ()) :
      Advances authentication d (.validated record state) (.query now) (.validated record state)
  | commit {record : Certificate} {state : RequestState} :
      Advances authentication d (.validated record state) .commit .ended

theorem advance_cases
    (advanced : stage.advance authentication d step = some (.ok later)) :
    Advances authentication d stage step later := by
  cases step <;> cases stage <;>
    simp only [RequestStage.advance, Option.some.injEq, reduceCtorEq, Checked.bind_eq_ok,
      Checked.pure_eq_ok, liftStatus_eq_ok, Checked.requireSome_eq_ok, Except.ok.injEq]
      at advanced
  case discover.entered context =>
    obtain ⟨certificateId, discovered, rfl⟩ := advanced
    exact .discover discovered
  case check.discovered context certificateId =>
    obtain ⟨_, _, rfl⟩ := advanced
    exact .check
  case ask.checked context certificateId checkedAt =>
    rw [← advanced]
    exact .ask
  case grant.asked context certificateId checkedAt session =>
    obtain ⟨record, locked, rfl⟩ := advanced
    exact .grant locked
  case accept.answered context certificateId checkedAt observedAt found =>
    obtain ⟨record, rfl, verdict, judged, _, _, rfl⟩ := advanced
    exact .accept judged
  case query.validated record state =>
    obtain ⟨_, fresh, rfl⟩ := advanced
    exact .query fresh
  case commit.validated record state =>
    rw [← advanced]
    exact .commit

/-- What a request knows in each stage. -/
def RequestStage.Sound (d : CertificateDeployment) (authentication : Authentication) :
    RequestStage → Prop
  | .entered _ | .ended => True
  | .discovered _ certificateId | .checked _ certificateId _ =>
      Found d authentication certificateId
  | .asked _ certificateId _ session => Found d authentication certificateId ∧
      session.tenantId = authentication.tenantId ∧ session.clock ≤ d.databaseClock
  | .answered _ _ _ _ record => ∀ row, record = some row →
      authentication.presents row = true ∧ row ∈ d.inventory.certificates
  | .validated row state => authentication.presents row = true ∧ row ∈ d.inventory.certificates ∧
      row.state = .active ∧ state.validUntil ≤ state.observedAt + maximumSourceAge ∧
      state.validUntil ≤ authentication.certificate.notAfter

/-- A stage stays sound while others run, as long as the row that it has locked is kept. -/
theorem RequestStage.Sound.mono (sound : stage.Sound d authentication)
    (extends_ : d.inventory.Extends next.inventory) (later : d.databaseClock ≤ next.databaseClock)
    (kept : ∀ row, stage.lock? = some (.share row) → row ∈ next.inventory.certificates) :
    stage.Sound next authentication := by
  cases stage with
  | entered context => trivial
  | ended => trivial
  | discovered context certificateId => exact sound.mono extends_
  | checked context certificateId checkedAt => exact sound.mono extends_
  | asked context certificateId checkedAt session =>
      exact ⟨sound.1.mono extends_, sound.2.1, sound.2.2.trans later⟩
  | answered context certificateId checkedAt observedAt record =>
      rintro row rfl
      exact ⟨(sound row rfl).1, kept row rfl⟩
  | validated row state => exact ⟨sound.1, kept row rfl, sound.2.2⟩

theorem Advances.sound (advances : Advances authentication d stage step later)
    (sound : stage.Sound d authentication) : later.Sound d authentication := by
  cases advances with
  | discover discovered => exact found_of_discovered discovered
  | check => exact sound
  | ask => exact ⟨sound, rfl, le_refl _⟩
  | grant locked =>
      rintro row same
      obtain ⟨member, key⟩ := lock_eq_ok locked same
      obtain ⟨found, present, named, presents⟩ := sound.1
      rw [sound.2.1, ← named] at key
      rw [d.inventory.certificates.unique member present key]
      exact ⟨presents, present⟩
  | accept judged =>
      obtain ⟨presents, member⟩ := sound _ rfl
      obtain ⟨active, observed, limit⟩ := judgeRecord_eq_ok judged
      exact ⟨presents, member, active, min_le_left _ _, (min_le_right _ _).trans limit⟩
  | query fresh => exact sound
  | commit => trivial

/-- A lock is taken by the statement that reads the row and is kept from then on. -/
theorem Advances.lock (advances : Advances authentication d stage step later) :
    later.lock? = stage.lock? ∨ later.lock? = none ∨ step = .grant := by
  cases advances with
  | grant locked => exact Or.inr (Or.inr rfl)
  | commit => exact Or.inr (Or.inl rfl)
  | discover | check | ask | accept | query => exact Or.inl rfl

end Stages

section Locks

variable {d next : CertificateDeployment} {number : ℕ} {work : Work}

def Work.lock? (work : Work) : Option CertificateLock := OpenTransaction.lock? ⟨0, work⟩

/-- The lock that a transaction holds. -/
def CertificateDeployment.lockOf (d : CertificateDeployment) (number : ℕ) :
    Option CertificateLock :=
  (d.transactions.get? number).bind OpenTransaction.lock?

theorem put_get? (d : CertificateDeployment) (number : ℕ) (work : Work) (other : ℕ) :
    (d.put number work).transactions.get? other =
      if other = number then some ⟨number, work⟩ else d.transactions.get? other := by
  rw [CertificateDeployment.put, Table.get?_upsert]
  exact if_congr eq_comm rfl rfl

theorem put_lockOf (d : CertificateDeployment) (number : ℕ) (work : Work) (other : ℕ) :
    (d.put number work).lockOf other = if other = number then work.lock? else d.lockOf other := by
  rw [CertificateDeployment.lockOf, put_get?]
  split
  · rfl
  · rfl

theorem free_apart {lock held : CertificateLock} {other : ℕ}
    (free : d.free number (some lock)) (apart : number ≠ other)
    (found : d.lockOf other = some held) : ¬ lock.conflicts held = true := by
  obtain ⟨t, present, locked⟩ := Option.bind_eq_some_iff.mp found
  have member := Table.get?_mem present
  have named : t.number = other := Table.get?_key present
  have clear := free t member (by rw [named]; exact apart.symm)
  rw [locked] at clear
  simpa using clear

/-- The committed state together with what the open transactions rely on. -/
structure CertificateDeployment.Sound (d : CertificateDeployment) : Prop where
  held : certificateLocks.Held d.inventory d.lockOf
  stages : ∀ number authentication stage,
    d.transactions.get? number = some ⟨number, .request authentication stage⟩ →
      stage.Sound d authentication

theorem CertificateDeployment.Sound.put (sound : d.Sound)
    (stageSound : ∀ authentication stage, work = .request authentication stage →
      stage.Sound d authentication)
    (locked : ∀ lock, work.lock? = some lock →
      lock.fits d.inventory ∧ d.free number (some lock)) :
    (d.put number work).Sound where
  held := by
    cases lock : work.lock? with
    | none =>
        have gone : ∀ other, (d.put number work).lockOf other =
            if other = number then none else d.lockOf other := by
          intro other
          rw [put_lockOf, lock]
        exact sound.held.drop gone
    | some lock_ =>
        obtain ⟨fits, free⟩ := locked lock_ lock
        have taken : ∀ other, (d.put number work).lockOf other =
            if other = number then some lock_ else d.lockOf other := by
          intro other
          rw [put_lockOf, lock]
        apply sound.held.put fits _ taken
        intro other held apart found
        exact free_apart free apart found
  stages := by
    intro other authentication stage found
    rw [put_get?] at found
    split at found
    · cases found
      exact stageSound authentication stage rfl
    · exact sound.stages other authentication stage found

end Locks

section Steps

variable {d next : CertificateDeployment} {number : ℕ} {op : CertificateOp}
  {reply : StepReply}

/-- A request that takes a step. -/
structure Stepped (d next : CertificateDeployment) (number : ℕ) (step : RequestStep)
    (authentication : Authentication) (stage later : RequestStage) : Prop where
  found : d.transactions.get? number = some ⟨number, .request authentication stage⟩
  advances : Advances authentication d stage step later
  free : d.free number later.lock?
  next_eq : next = d.put number (.request authentication later)

theorem get?_number {t : OpenTransaction} (found : d.transactions.get? number = some t) :
    t = ⟨number, t.work⟩ := by
  have named : t.number = number := Table.get?_key found
  cases t
  cases named
  rfl

/-- A step is taken, or its failure ends the request. -/
theorem step_cases {step : RequestStep} (succeeded : d.step number step = .ok (next, reply)) :
    ∃ authentication stage,
      d.transactions.get? number = some ⟨number, .request authentication stage⟩ ∧
      ((∃ failure, reply = .failed failure ∧ next = d.put number (.request authentication .ended)) ∨
        ∃ later, reply = step.reply ∧ Stepped d next number step authentication stage later) := by
  simp only [CertificateDeployment.step, Checked.bind_eq_ok, Checked.requireSome_eq_ok]
    at succeeded
  obtain ⟨t, found, succeeded⟩ := succeeded
  cases work : t.work with
  | lifecycle op ended =>
      rw [work] at succeeded
      cases succeeded
  | request authentication stage =>
      rw [get?_number found, work] at found
      simp only [work, Checked.bind_eq_ok, Checked.requireSome_eq_ok] at succeeded
      obtain ⟨outcome, advanced, succeeded⟩ := succeeded
      refine ⟨authentication, stage, found, ?_⟩
      cases outcome with
      | error failure =>
          obtain ⟨rfl, rfl⟩ := Prod.mk.inj (Checked.pure_eq_ok.mp succeeded)
          exact Or.inl ⟨failure, rfl, rfl⟩
      | ok later =>
          simp only [Checked.bind_eq_ok, Checked.require_eq_ok, Checked.pure_eq_ok, exists_const,
            Prod.mk.injEq] at succeeded
          obtain ⟨free, same, answer⟩ := succeeded
          exact Or.inr ⟨later, answer.symm, found, advance_cases advanced, free, same.symm⟩

theorem RequestStage.Sound.fits {stage : RequestStage} {authentication : Authentication}
    (sound : stage.Sound d authentication) {lock : CertificateLock}
    (locked : stage.lock? = some lock) : lock.fits d.inventory := by
  cases stage with
  | answered context certificateId checkedAt observedAt record =>
      obtain ⟨row, found, rfl⟩ := Option.map_eq_some_iff.mp locked
      exact (sound row found).2
  | validated row state =>
      cases locked
      exact sound.2.1
  | entered | discovered | checked | asked | ended => cases locked

theorem CertificateDeployment.Sound.ended (sound : d.Sound) (authentication : Authentication) :
    (d.put number (.request authentication .ended)).Sound := by
  apply sound.put
  · intro other stage same
    cases same
    trivial
  · intro lock locked
    cases locked

theorem CertificateDeployment.Sound.stepped {step : RequestStep}
    {authentication : Authentication} {stage later : RequestStage} (sound : d.Sound)
    (stepped : Stepped d next number step authentication stage later) : next.Sound := by
  have laterSound := stepped.advances.sound
    (sound.stages number authentication stage stepped.found)
  rw [stepped.next_eq]
  apply sound.put
  · intro other stage same
    cases same
    exact laterSound
  · intro lock locked
    have free := stepped.free
    rw [show later.lock? = some lock from locked] at free
    exact ⟨laterSound.fits locked, free⟩

theorem enter_cases {authentication : Authentication} {authority : Option Authority}
    (succeeded : d.enter number authentication authority = .ok (next, reply)) :
    d.transactions.get? number = none ∧ ∃ stage, stage.lock? = none ∧
      (∀ other, stage.Sound other authentication) ∧
      next = d.put number (.request authentication stage) := by
  simp only [CertificateDeployment.enter, Checked.bind_eq_ok, Checked.require_eq_ok,
    exists_const] at succeeded
  obtain ⟨unused, succeeded⟩ := succeeded
  refine ⟨unused, ?_⟩
  split at succeeded
  · rename_i context _
    obtain ⟨rfl, _⟩ := Prod.mk.inj (Checked.pure_eq_ok.mp succeeded)
    exact ⟨.entered context, rfl, fun _ => trivial, rfl⟩
  · obtain ⟨rfl, _⟩ := Prod.mk.inj (Checked.pure_eq_ok.mp succeeded)
    exact ⟨.ended, rfl, fun _ => trivial, rfl⟩

theorem finish_cases (succeeded : d.finish number = .ok (next, reply)) :
    ∃ op, d.transactions.get? number = some ⟨number, .lifecycle op false⟩ ∧
      next = d.conclude number op := by
  simp only [CertificateDeployment.finish, Checked.bind_eq_ok, Checked.requireSome_eq_ok]
    at succeeded
  obtain ⟨t, found, succeeded⟩ := succeeded
  rw [get?_number found] at found
  split at succeeded
  · rename_i op work
    rw [work] at found
    exact ⟨op, found, ((Prod.mk.inj (Checked.pure_eq_ok.mp succeeded)).1).symm⟩
  · cases succeeded

theorem rollback_cases (succeeded : d.rollback number = .ok (next, reply)) :
    ∃ work, d.transactions.get? number = some ⟨number, work⟩ ∧
      next = d.put number work.rolledBack := by
  simp only [CertificateDeployment.rollback, Checked.bind_eq_ok, Checked.requireSome_eq_ok,
    Checked.pure_eq_ok, Prod.mk.injEq] at succeeded
  obtain ⟨t, found, same, _⟩ := succeeded
  rw [get?_number found] at found
  exact ⟨t.work, found, same.symm⟩

@[simp] theorem rolledBack_lock? (work : Work) : work.rolledBack.lock? = none := by
  cases work <;> rfl

theorem commit_extends (inventory : Inventory) (op : InventoryOp) :
    inventory.Extends (Transaction.commit applyInventory inventory op) := by
  rcases Transaction.commit_cases applyInventory inventory op with same | ⟨_, succeeded⟩
  · rw [same]
    exact .refl inventory
  · exact applyInventory_extends succeeded

theorem conclude_get? (d : CertificateDeployment) (number : ℕ) (op : InventoryOp) (other : ℕ) :
    (d.conclude number op).transactions.get? other =
      if other = number then some ⟨number, .lifecycle op true⟩
      else d.transactions.get? other :=
  put_get? d number (.lifecycle op true) other

/-- A lifecycle call changes no row that a request has locked. -/
theorem CertificateDeployment.Sound.concluded (sound : d.Sound) {op : InventoryOp}
    (found : d.transactions.get? number = some ⟨number, .lifecycle op false⟩) :
    (d.conclude number op).Sound := by
  have mine : d.lockOf number = some (.update op) := by
    rw [CertificateDeployment.lockOf, found]
    rfl
  have gone : ∀ other, (d.conclude number op).lockOf other =
      if other = number then none else d.lockOf other := by
    intro other
    exact put_lockOf d number (.lifecycle op true) other
  have held : certificateLocks.Held (d.conclude number op).inventory
      (d.conclude number op).lockOf := sound.held.commit mine gone
  refine ⟨held, ?_⟩
  intro other authentication stage present
  have before : d.transactions.get? other = some ⟨other, .request authentication stage⟩ := by
    rw [conclude_get?] at present
    split at present
    · cases present
    · exact present
  have later : d.databaseClock ≤ (d.conclude number op).databaseClock := le_refl _
  apply (sound.stages other authentication stage before).mono (commit_extends d.inventory op) later
  intro row locked
  have lock : (d.conclude number op).lockOf other = some (.share row) := by
    rw [CertificateDeployment.lockOf, present]
    exact locked
  exact held.fits other _ lock

theorem sound_step (sound : d.Sound)
    (succeeded : applyCertificates op d = .ok (next, reply)) : next.Sound := by
  cases op with
  | tick elapsed =>
      obtain ⟨rfl, _⟩ := Prod.mk.inj (Checked.pure_eq_ok.mp succeeded)
      refine ⟨sound.held, ?_⟩
      intro number authentication stage found
      have earlier := sound.stages number authentication stage found
      refine earlier.mono (.refl _) (Int.le_add_of_nonneg_right (Int.natCast_nonneg elapsed)) ?_
      intro row locked
      exact earlier.fits locked
  | enter number authentication authority =>
      obtain ⟨_, stage, unlocked, stageSound, rfl⟩ := enter_cases succeeded
      apply sound.put
      · intro other stage same
        cases same
        exact stageSound d
      · intro lock locked
        rw [show Work.lock? (.request authentication stage) = none from unlocked] at locked
        cases locked
  | step number step =>
      obtain ⟨authentication, stage, _, ended | taken⟩ := step_cases succeeded
      · obtain ⟨_, _, rfl⟩ := ended
        exact sound.ended authentication
      · obtain ⟨later, _, stepped⟩ := taken
        exact sound.stepped stepped
  | change number op =>
      simp only [applyCertificates, CertificateDeployment.change, Checked.bind_eq_ok,
        Checked.require_eq_ok, Checked.pure_eq_ok, exists_const, Prod.mk.injEq] at succeeded
      obtain ⟨_, free, rfl, _⟩ := succeeded
      apply sound.put
      · intro other stage same
        cases same
      · intro lock locked
        cases locked
        exact ⟨trivial, free⟩
  | finish number =>
      obtain ⟨op, found, rfl⟩ := finish_cases succeeded
      exact sound.concluded found
  | rollback number =>
      obtain ⟨work, _, rfl⟩ := rollback_cases succeeded
      apply sound.put
      · intro authentication stage same
        cases work with
        | request other earlier =>
            cases same
            trivial
        | lifecycle op ended => cases same
      · intro lock locked
        rw [rolledBack_lock?] at locked
        cases locked

end Steps

section Quiet

variable {d origin : CertificateDeployment} {number : ℕ} {authentication : Authentication}
  {context : TenantContext} {session : Session} {times : RequestTimes}

/-- The rest of a validation after the certificate has been found. -/
def validateFound (authentication : Authentication) (context : TenantContext) (session : Session)
    (times : RequestTimes) (inventory : Inventory) (certificateId : CertificateId) :
    Except ApiError (Certificate × RequestState) := do
  liftStatus (checkValidity authentication.certificate times.checkedAt)
  let found ← liftStatus
    (lockCurrentActorCertificateStatus session certificateId authentication inventory)
  let record ← liftStatus (requireSome found .certificateUnknown)
  let verdict ← liftStatus
    (judgeRecord record session.clock times.checkedAt certificateId authentication)
  let state := requestStateOf context certificateId verdict
  assertFresh state times.acceptedAt
  return (record, state)

/-- The statements of a validation, on one state of the certificates. -/
def validation (authentication : Authentication) (context : TenantContext) (session : Session)
    (times : RequestTimes) (inventory : Inventory) :
    Except ApiError (Certificate × RequestState) := do
  let certificateId ← discoverCertificate authentication inventory
  validateFound authentication context session times inventory certificateId

theorem validateStatus_eq (checkedAt : Timestamp) (certificateId : CertificateId)
    (inventory : Inventory) :
    validateStatus session checkedAt false certificateId authentication inventory = (do
      checkValidity authentication.certificate checkedAt
      let found ← lockCurrentActorCertificateStatus session certificateId authentication inventory
      let record ← requireSome found .certificateUnknown
      judgeRecord record session.clock checkedAt certificateId authentication) := by
  simp only [validateStatus, checkValidity, judgeRecord, bind_assoc]
  rfl

/-- The request state of a validation, from the status service in one piece. -/
theorem validateFound_state (inventory : Inventory) (certificateId : CertificateId) :
    (validateFound authentication context session times inventory certificateId).map Prod.snd =
      (do
        let verdict ← liftStatus
          (validateStatus session times.checkedAt false certificateId authentication inventory)
        let state := requestStateOf context certificateId verdict
        assertFresh state times.acceptedAt
        return state) := by
  rw [validateStatus_eq, validateFound]
  cases checkValidity authentication.certificate times.checkedAt with
  | error denial => rfl
  | ok _ =>
      cases lockCurrentActorCertificateStatus session certificateId authentication inventory with
      | error denial => rfl
      | ok found =>
          cases found with
          | none => rfl
          | some record =>
              simp only [bind, Except.bind, requireSome, liftStatus]
              cases judgeRecord record session.clock times.checkedAt certificateId
                  authentication with
              | error denial => rfl
              | ok verdict =>
                  dsimp only
                  cases assertFresh (requestStateOf context certificateId verdict)
                    times.acceptedAt <;> rfl

/-- The validation in one piece is the validation statement by statement. -/
theorem validateRequestState_eq (inventory : Inventory) :
    validateRequestState session times false authentication context inventory =
      (validation authentication context session times inventory).map Prod.snd := by
  rw [validateRequestState, validation, discoverCertificate]
  cases assertPresentedCertificate authentication with
  | error failure => rfl
  | ok _ =>
      cases presentedCertificates authentication inventory with
      | nil => rfl
      | cons first rest =>
          cases rest with
          | cons second others => rfl
          | nil =>
              refine Eq.trans ?_ (validateFound_state inventory first.certificateId).symm
              simp only [bind, Except.bind]
              cases validateStatus session times.checkedAt false first.certificateId
                authentication inventory <;> rfl

/-- What a step comes to that no lock delays; one that is not the next changes nothing. -/
def RequestStage.attempt (stage : RequestStage) (authentication : Authentication)
    (d : CertificateDeployment) (step : RequestStep) : Except ApiError RequestStage :=
  (stage.advance authentication d step).getD (.ok stage)

/-- The stage that the store holds afterwards. -/
def RequestStage.left : Except ApiError RequestStage → RequestStage
  | .ok stage => stage
  | .error _ => .ended

/-- The certificates and the clock stand still and no other transaction holds a lock. -/
structure Alone (origin : CertificateDeployment) (number : ℕ) (d : CertificateDeployment) :
    Prop where
  inventory : d.inventory = origin.inventory
  clock : d.databaseClock = origin.databaseClock
  unlocked : ∀ other, other ≠ number → d.lockOf other = none

theorem Alone.free (alone : Alone origin number d) (lock : Option CertificateLock) :
    d.free number lock := by
  intro other member apart
  have none_ := alone.unlocked other.number apart
  rw [CertificateDeployment.lockOf, show d.transactions.get? other.number = some other from
    Table.get?_of_mem member] at none_
  rw [show other.lock? = none from none_]
  cases lock <;> rfl

theorem Alone.put (alone : Alone origin number d) (work : Work) :
    Alone origin number (d.put number work) where
  inventory := alone.inventory
  clock := alone.clock
  unlocked := by
    intro other apart
    rw [put_lockOf, if_neg apart]
    exact alone.unlocked other apart

theorem advance_congr (alone : Alone origin number d) (stage : RequestStage)
    (step : RequestStep) :
    stage.advance authentication d step = stage.advance authentication origin step := by
  cases step <;> cases stage <;>
    simp only [RequestStage.advance, alone.inventory, alone.clock]

/-- The reply to a step that no lock delays. -/
theorem Alone.applied {stage : RequestStage} (alone : Alone origin number d) (step : RequestStep)
    (found : d.transactions.get? number = some ⟨number, .request authentication stage⟩) :
    applyCertificates (.step number step) d =
      match stage.advance authentication origin step with
      | none => .error .notNow
      | some (.error failure) =>
          .ok (d.put number (.request authentication .ended), .failed failure)
      | some (.ok later) => .ok (d.put number (.request authentication later), step.reply) := by
  have opened : applyCertificates (.step number step) d = d.step number step := rfl
  rw [opened, ← advance_congr alone]
  cases advanced : stage.advance authentication d step with
  | none =>
      simp only [CertificateDeployment.step, found, requireSome, bind, Except.bind, advanced]
  | some outcome =>
      cases outcome with
      | error failure =>
          simp only [CertificateDeployment.step, found, requireSome, bind, Except.bind, advanced,
            pure, Except.pure]
      | ok later =>
          simp only [CertificateDeployment.step, found, requireSome, bind, Except.bind, advanced,
            pure, Except.pure, Checked.require_ok (alone.free later.lock?)]

theorem Alone.step {stage : RequestStage} (alone : Alone origin number d) (step : RequestStep)
    (found : d.transactions.get? number = some ⟨number, .request authentication stage⟩) :
    Alone origin number (Transaction.commit applyCertificates d (.step number step)) ∧
      (Transaction.commit applyCertificates d (.step number step)).transactions.get? number =
        some ⟨number, .request authentication
          (.left (stage.attempt authentication origin step))⟩ := by
  have stored : ∀ later, (d.put number (.request authentication later)).transactions.get? number =
      some ⟨number, .request authentication later⟩ := by
    intro later
    rw [put_get?, if_pos rfl]
  have applied := alone.applied step found
  rw [RequestStage.attempt]
  cases advanced : stage.advance authentication origin step with
  | none =>
      rw [advanced] at applied
      rw [Transaction.commit_error applied]
      exact ⟨alone, found⟩
  | some outcome =>
      cases outcome with
      | error failure =>
          rw [advanced] at applied
          rw [Transaction.commit_ok applied]
          exact ⟨alone.put _, stored _⟩
      | ok later =>
          rw [advanced] at applied
          rw [Transaction.commit_ok applied]
          exact ⟨alone.put _, stored _⟩

/-- The steps of a validation. -/
def validationSteps (session : Session) (times : RequestTimes) : List RequestStep :=
  [.discover, .check times.checkedAt, .ask session, .grant, .accept times.acceptedAt]

/-- The actor's session at the start of the status query. -/
def Authentication.statusSession (authentication : Authentication) (d : CertificateDeployment)
    (session : Session) : Session :=
  { session with
    tenantId := authentication.tenantId
    subjectId := authentication.subjectId
    clock := d.databaseClock }

/-- What several steps come to, up to the first that fails. -/
def RequestStage.attemptAll (stage : RequestStage) (authentication : Authentication)
    (d : CertificateDeployment) (steps : List RequestStep) : Except ApiError RequestStage :=
  steps.foldlM (fun reached step => RequestStage.attempt reached authentication d step) stage

theorem attemptAll_ended (steps : List RequestStep) :
    RequestStage.ended.attemptAll authentication d steps = .ok .ended := by
  induction steps with
  | nil => rfl
  | cons step steps ih =>
      have idle : RequestStage.ended.attempt authentication d step = .ok .ended := by
        cases step <;> rfl
      rw [RequestStage.attemptAll, List.foldlM_cons, idle]
      exact ih

theorem attemptAll_cons {stage : RequestStage} {step : RequestStep} (steps : List RequestStep) :
    stage.attemptAll authentication d (step :: steps) =
      (stage.attempt authentication d step).bind
        fun later => later.attemptAll authentication d steps :=
  List.foldlM_cons

theorem attemptAll_failed {stage : RequestStage} {step : RequestStep} {failure : ApiError}
    (failed : stage.advance authentication d step = some (.error failure))
    (steps : List RequestStep) :
    stage.attemptAll authentication d (step :: steps) = .error failure := by
  rw [attemptAll_cons, RequestStage.attempt, failed]
  rfl

theorem attemptAll_taken {stage later : RequestStage} {step : RequestStep}
    (taken : stage.advance authentication d step = some (.ok later)) (steps : List RequestStep) :
    stage.attemptAll authentication d (step :: steps) =
      later.attemptAll authentication d steps := by
  rw [attemptAll_cons, RequestStage.attempt, taken]
  rfl

/-- The stage that a validation ends in. -/
def RequestStage.ofValidation (outcome : Except ApiError (Certificate × RequestState)) :
    Except ApiError RequestStage :=
  outcome.map fun pair => .validated pair.1 pair.2

theorem attempt_answer (d : CertificateDeployment) (authentication : Authentication)
    (context : TenantContext) (times : RequestTimes) (certificateId : CertificateId)
    (found : Option Certificate) :
    (RequestStage.answered context certificateId times.checkedAt d.databaseClock found).attemptAll
        authentication d [.accept times.acceptedAt] =
      RequestStage.ofValidation (do
        let record ← liftStatus (requireSome found .certificateUnknown)
        let verdict ← liftStatus
          (judgeRecord record d.databaseClock times.checkedAt certificateId authentication)
        let state := requestStateOf context certificateId verdict
        assertFresh state times.acceptedAt
        return (record, state)) := by
  cases found with
  | none => rfl
  | some record =>
      simp only [RequestStage.attemptAll, List.foldlM_cons, List.foldlM_nil,
        RequestStage.attempt, Option.getD_some, RequestStage.advance, requireSome, liftStatus,
        bind, Except.bind, pure, Except.pure]
      cases judgeRecord record d.databaseClock times.checkedAt certificateId authentication with
      | error denial => rfl
      | ok verdict =>
          dsimp only
          cases assertFresh (requestStateOf context certificateId verdict) times.acceptedAt <;> rfl

theorem attempt_discovery (d : CertificateDeployment) (authentication : Authentication)
    (context : TenantContext) (session : Session) (times : RequestTimes)
    (certificateId : CertificateId) :
    (RequestStage.discovered context certificateId).attemptAll authentication d
        [.check times.checkedAt, .ask session, .grant, .accept times.acceptedAt] =
      RequestStage.ofValidation (validateFound authentication context
        (authentication.statusSession d session) times d.inventory certificateId) := by
  rw [validateFound]
  cases checked : liftStatus (checkValidity authentication.certificate times.checkedAt) with
  | error failure =>
      have failed : (RequestStage.discovered context certificateId).advance authentication d
          (.check times.checkedAt) = some (.error failure) := by
        simp only [RequestStage.advance, checked, bind, Except.bind]
      rw [attemptAll_failed failed]
      rfl
  | ok _ =>
      have first : (RequestStage.discovered context certificateId).advance authentication d
          (.check times.checkedAt) =
            some (.ok (.checked context certificateId times.checkedAt)) := by
        simp only [RequestStage.advance, checked, bind, Except.bind, pure, Except.pure]
      have second : (RequestStage.checked context certificateId times.checkedAt).advance
          authentication d (.ask session) = some (.ok (.asked context certificateId
            times.checkedAt (authentication.statusSession d session))) := rfl
      rw [attemptAll_taken first, attemptAll_taken second]
      cases locked : liftStatus (lockCurrentActorCertificateStatus
          (authentication.statusSession d session) certificateId authentication d.inventory) with
      | error failure =>
          have failed : (RequestStage.asked context certificateId times.checkedAt
              (authentication.statusSession d session)).advance authentication d .grant =
                some (.error failure) := by
            simp only [RequestStage.advance, locked, bind, Except.bind]
          rw [attemptAll_failed failed]
          rfl
      | ok found =>
          have third : (RequestStage.asked context certificateId times.checkedAt
              (authentication.statusSession d session)).advance authentication d .grant =
                some (.ok (.answered context certificateId times.checkedAt d.databaseClock
                  found)) := by
            simp only [RequestStage.advance, locked, bind, Except.bind, pure, Except.pure]
            rfl
          rw [attemptAll_taken third]
          exact attempt_answer d authentication context times certificateId found

/-- The steps of a validation have the outcome of the validation. -/
theorem attempt_validation (d : CertificateDeployment) (authentication : Authentication)
    (context : TenantContext) (session : Session) (times : RequestTimes) :
    (RequestStage.entered context).attemptAll authentication d (validationSteps session times) =
      RequestStage.ofValidation (validation authentication context
        (authentication.statusSession d session) times d.inventory) := by
  rw [validationSteps, validation]
  cases discovered : discoverCertificate authentication d.inventory with
  | error failure =>
      have failed : (RequestStage.entered context).advance authentication d .discover =
          some (.error failure) := by
        simp only [RequestStage.advance, discovered, bind, Except.bind]
      rw [attemptAll_failed failed]
      rfl
  | ok certificateId =>
      have first : (RequestStage.entered context).advance authentication d .discover =
          some (.ok (.discovered context certificateId)) := by
        simp only [RequestStage.advance, discovered, bind, Except.bind, pure, Except.pure]
      rw [attemptAll_taken first]
      exact attempt_discovery d authentication context session times certificateId

theorem Alone.steps (alone : Alone origin number d) (steps : List RequestStep)
    {stage : RequestStage}
    (found : d.transactions.get? number = some ⟨number, .request authentication stage⟩) :
    (runCertificates d (steps.map (.step number))).transactions.get? number =
      some ⟨number, .request authentication
        (.left (stage.attemptAll authentication origin steps))⟩ := by
  induction steps generalizing d stage with
  | nil => exact found
  | cons step steps ih =>
      obtain ⟨still, reached⟩ := alone.step step found
      have later := ih still reached
      rw [attemptAll_cons]
      cases attempted : stage.attempt authentication origin step with
      | ok next =>
          rw [attempted] at later
          exact later
      | error failure =>
          rw [attempted, RequestStage.left, attemptAll_ended] at later
          exact later

theorem reply_ne_failed (step : RequestStep) (failure : ApiError) :
    step.reply ≠ .failed failure := by
  cases step <;> nofun

/-- A step of a list fails if the first does or a later one after it. -/
theorem failing_cons {step : RequestStep} {steps : List RequestStep} {failure : ApiError} :
    (∃ front other back next, step :: steps = front ++ other :: back ∧
        applyCertificates (.step number other) (runCertificates d (front.map (.step number))) =
          .ok (next, .failed failure)) ↔
      (∃ next, applyCertificates (.step number step) d = .ok (next, .failed failure)) ∨
        ∃ front other back next, steps = front ++ other :: back ∧
          applyCertificates (.step number other)
            (runCertificates (Transaction.commit applyCertificates d (.step number step))
              (front.map (.step number))) = .ok (next, .failed failure) := by
  constructor
  · rintro ⟨front, other, back, next, split, failed⟩
    cases front with
    | nil =>
        obtain ⟨rfl, rfl⟩ := List.cons.inj split
        exact Or.inl ⟨next, failed⟩
    | cons first front =>
        obtain ⟨rfl, rfl⟩ := List.cons.inj split
        exact Or.inr ⟨front, other, back, next, rfl, failed⟩
  · rintro (⟨next, failed⟩ | ⟨front, other, back, next, rfl, failed⟩)
    · exact ⟨[], step, steps, next, rfl, failed⟩
    · exact ⟨step :: front, other, back, next, rfl, failed⟩

/-- A step of a run fails exactly with the failure that the steps come to. -/
theorem Alone.fails (alone : Alone origin number d) (steps : List RequestStep)
    {stage : RequestStage} {failure : ApiError}
    (found : d.transactions.get? number = some ⟨number, .request authentication stage⟩) :
    (∃ front step back next, steps = front ++ step :: back ∧
        applyCertificates (.step number step) (runCertificates d (front.map (.step number))) =
          .ok (next, .failed failure)) ↔
      stage.attemptAll authentication origin steps = .error failure := by
  induction steps generalizing d stage with
  | nil => simp [RequestStage.attemptAll, pure, Except.pure]
  | cons step steps ih =>
      obtain ⟨still, reached⟩ := alone.step step found
      have later := ih still reached
      have applied := alone.applied step found
      -- either the first step fails or a later one does
      rw [failing_cons, attemptAll_cons]
      cases advanced : stage.advance authentication origin step with
      | none =>
          rw [RequestStage.attempt, advanced] at later
          simp only [applied, advanced, RequestStage.attempt, reduceCtorEq, exists_false,
            false_or]
          exact later
      | some outcome =>
          rw [RequestStage.attempt, advanced] at later
          cases outcome with
          | error reason =>
              rw [Option.getD_some, RequestStage.left, attemptAll_ended] at later
              simp only [applied, advanced, later, RequestStage.attempt, Option.getD_some,
                Except.bind, Except.ok.injEq, Prod.mk.injEq, StepReply.failed.injEq, reduceCtorEq,
                Except.error.injEq, or_false, exists_eq_left']
          | ok next =>
              have silent := reply_ne_failed step failure
              simp only [applied, advanced, Except.ok.injEq, Prod.mk.injEq, silent, and_false,
                exists_false, false_or, RequestStage.attempt]
              exact later

/-- Where nothing else runs, the statements of a validation come to the request state that the
validation in one piece gives, and fail with its failure where it fails. -/
theorem quiet_validation (unlocked : ∀ other, other ≠ number → d.lockOf other = none)
    (entered : d.transactions.get? number =
      some ⟨number, .request authentication (.entered context)⟩) :
    (∀ state, (∃ row, (runCertificates d ((validationSteps session times).map
        (.step number))).transactions.get? number =
      some ⟨number, .request authentication (.validated row state)⟩) ↔
    validateRequestState (authentication.statusSession d session) times false authentication
      context d.inventory = .ok state) ∧
    ∀ failure, (∃ front step back next, validationSteps session times = front ++ step :: back ∧
        applyCertificates (.step number step) (runCertificates d (front.map (.step number))) =
          .ok (next, .failed failure)) ↔
    validateRequestState (authentication.statusSession d session) times false authentication
      context d.inventory = .error failure := by
  have alone : Alone d number d := ⟨rfl, rfl, unlocked⟩
  simp only [alone.steps _ entered, alone.fails _ entered, attempt_validation,
    validateRequestState_eq]
  cases validation authentication context (authentication.statusSession d session) times
      d.inventory with
  | error failure => simp [RequestStage.ofValidation, RequestStage.left, Except.map]
  | ok pair => simp [RequestStage.ofValidation, RequestStage.left, Except.map, eq_comm]

end Quiet

end TenantTrust.Api
