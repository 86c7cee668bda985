import TenantTrust.Identity.RevocationRecovery

/-! A confirmed revocation whose recording or reply was lost, and the repetition of its request. -/

namespace TenantTrust.Identity

open Library

/-- A revocation and its repetition, with whatever else the inventory records before, between and
during the two calls. -/
structure RevocationRun where
  earlier : List InventoryOp
  first : RevocationCall
  during : List InventoryOp
  recordingLost : Bool
  between : List InventoryOp
  retry : RevocationCall
  meanwhile : List InventoryOp

namespace RevocationRun

variable (run : RevocationRun)

def loaded : Inventory := Transaction.run applyInventory .empty run.earlier

/-- What the recording of the first call finds. -/
def stored : Inventory := Transaction.run applyInventory run.loaded run.during

/-- What the first call leaves, as far as it got. -/
def left : Inventory :=
  if run.recordingLost then run.stored else run.first.left run.loaded run.stored

def reloaded : Inventory := Transaction.run applyInventory run.left run.between

/-- What the recording of the repetition finds. -/
def restored : Inventory := Transaction.run applyInventory run.reloaded run.meanwhile

def final : Inventory := run.retry.left run.reloaded run.restored

/-- The certificate that the request names, in one of these inventories. -/
def target? (inventory : Inventory) : Option Certificate :=
  inventory.certificate? run.first.context.tenantId run.first.request.certificateId

/-- The certificate is active when it is read and when its revocation is to be recorded, the actor
is entitled, the issuer's confirmation is valid, and its time is within the procedure's bound. -/
structure Confirmed (target : Certificate) (issuer : TenantIssuer)
    (confirmation : IssuerConfirmation) : Prop where
  found : run.target? run.loaded = some target
  active : target.state = .active
  unknown : run.first.existing run.loaded = none
  entitled : run.first.Entitled target
  resolved : requireRevocationIssuer run.first.context.tenantId target run.first.issuer =
    .ok issuer
  answers : run.first.revokeAtIssuer (run.first.instruction target issuer) =
    .ok (some confirmation)
  valid : validateIssuerConfirmation (some confirmation) (run.first.instruction target issuer)
    run.first.checkedAt = .ok confirmation
  standing : ∀ row, run.target? run.stored = some row → row.state = .active
  permitted : (run.first.parameters confirmation).Permitted run.first.recording target

/-- The same actor repeats the request, and the issuer answers with its first confirmation. -/
structure Repeats (target : Certificate) (issuer : TenantIssuer)
    (confirmation : IssuerConfirmation) : Prop where
  context : run.retry.context = run.first.context
  request : run.retry.request = run.first.request
  sameIssuer : run.retry.issuer = run.first.issuer
  entitled : run.retry.Entitled target
  answers : run.retry.revokeAtIssuer (run.retry.instruction target issuer) =
    .ok (some confirmation)

def Revoked (inventory : Inventory) : Prop :=
  ∃ row, run.target? inventory = some row ∧ row.state = .revoked

/-- The time that the issuer confirmed is not after the clock of the database, and nothing else has
used the identifiers of the revocation. -/
def RecordedInTime (confirmation : IssuerConfirmation) : Prop :=
  ∃ row, run.target? run.stored = some row ∧
    (run.first.parameters confirmation).Recordable run.first.recording row run.stored

/-- The certificate is still active, the repetition was not requested after the time that the
issuer confirmed, and the recording is in time. -/
def RetriedInTime (confirmation : IssuerConfirmation) : Prop :=
  run.retry.requestedAt ≤ confirmation.revokedAt ∧
    confirmation.revokedAt ≤ run.retry.checkedAt + seconds 2 ∧
    ∃ row, run.target? run.restored = some row ∧ row.state = .active ∧
      (run.retry.parameters confirmation).Recordable run.retry.recording row run.restored

variable {run} {target : Certificate} {issuer : TenantIssuer} {confirmation : IssuerConfirmation}

theorem loaded_sound (run : RevocationRun) : run.loaded.Sound :=
  Inventory.empty_sound.run run.earlier

theorem stored_sound (run : RevocationRun) : run.stored.Sound := run.loaded_sound.run run.during

theorem left_sound (run : RevocationRun) : run.left.Sound := by
  rw [left]
  split
  · exact run.stored_sound
  · exact RevocationCall.left_sound run.stored_sound

theorem reloaded_sound (run : RevocationRun) : run.reloaded.Sound := run.left_sound.run run.between

theorem restored_sound (run : RevocationRun) : run.restored.Sound :=
  run.reloaded_sound.run run.meanwhile

/-- A row of the certificate in one inventory goes on in another that keeps it. -/
theorem target?_keeps {before after : Inventory} {row : Certificate}
    (found : run.target? before = some row) (keeps : after.Keeps row) :
    ∃ next, run.target? after = some next ∧ row.Continues next := by
  rcases keeps with ⟨next, lookup, continues⟩
  have named := (certificate?_mem found).2
  have tenant : row.tenantId = run.first.context.tenantId := congrArg Prod.fst named
  have certificateId : row.certificateId = run.first.request.certificateId :=
    congrArg Prod.snd named
  rw [tenant, certificateId] at lookup
  exact ⟨next, lookup, continues⟩

theorem Confirmed.version (confirmed : run.Confirmed target issuer confirmation) :
    target.version = 1 := by
  have versioned := run.loaded_sound.versioned target (certificate?_mem confirmed.found).1
  rwa [confirmed.active, if_pos rfl] at versioned

theorem Confirmed.tenant (confirmed : run.Confirmed target issuer confirmation) :
    target.tenantId = run.first.context.tenantId :=
  congrArg Prod.fst (certificate?_mem confirmed.found).2

theorem Confirmed.certificateId (confirmed : run.Confirmed target issuer confirmation) :
    target.certificateId = run.first.request.certificateId :=
  congrArg Prod.snd (certificate?_mem confirmed.found).2

theorem Confirmed.stored (confirmed : run.Confirmed target issuer confirmation) :
    ∃ row, run.target? run.stored = some row ∧ target.Continues row :=
  target?_keeps confirmed.found ((Inventory.keeps_of_found confirmed.found).run run.during)

/-- The times of a confirmation that was valid in the first call. -/
theorem Confirmed.times (confirmed : run.Confirmed target issuer confirmation) :
    RevocationCall.Matches confirmation run.first.request target ∧
      run.first.requestedAt ≤ confirmation.revokedAt ∧
      confirmation.revokedAt ≤ run.first.checkedAt + seconds 2 :=
  ((RevocationCall.validateIssuerConfirmation_iff confirmed.tenant).mp confirmed.valid).2

theorem permitted_continues {p : RevocationRequest} {session : Session} {row : Certificate}
    (permitted : p.Permitted session target) (continues : target.Continues row) :
    p.Permitted session row := by
  have subjectId := congrArg CertificateIdentity.subjectId continues.identity
  have issuerId := congrArg CertificateIdentity.issuerId continues.identity
  have issuedAt := congrArg CertificateIdentity.issuedAt continues.identity
  have notAfter := congrArg CertificateIdentity.notAfter continues.identity
  exact ⟨permitted.actor, issuedAt.trans_le permitted.issued,
    permitted.unexpired.trans_eq notAfter.symm, permitted.bound,
    by rw [subjectId]; exact permitted.entitled, by rw [issuerId]; exact permitted.issuer⟩

/-- The first call is recorded exactly if it comes in time. -/
theorem Confirmed.first_ok_iff (confirmed : run.Confirmed target issuer confirmation) :
    (∃ result, (run.first.revoke run.loaded run.stored).2 = .ok result) ↔
      run.RecordedInTime confirmation := by
  rcases confirmed.stored with ⟨row, found, continues⟩
  have facts := confirmed.times
  rw [confirmed.entitled.revoke_eq confirmed.resolved confirmed.unknown confirmed.found
      confirmed.active confirmed.version,
    RevocationCall.confirm_ok_iff confirmed.entitled confirmed.answers confirmed.tenant
      confirmed.certificateId facts.1 facts.2 run.stored_sound found
      (confirmed.standing row found) confirmed.version
      (permitted_continues confirmed.permitted continues)]
  constructor
  · intro recordable
    exact ⟨row, found, recordable⟩
  · intro recorded
    rcases recorded with ⟨other, same, recordable⟩
    rw [found, Option.some.injEq] at same
    rwa [same]

/-- A call that is recorded leaves the certificate revoked. -/
theorem revoked_of_confirm {call : RevocationCall} {stored after : Inventory} {row : Certificate}
    {reply : RevocationReply} (context : call.context = run.first.context)
    (request : call.request = run.first.request) (entitled : call.Entitled target)
    (answers : call.revokeAtIssuer (call.instruction target issuer) = .ok (some confirmation))
    (tenant : target.tenantId = call.context.tenantId)
    (found : run.target? stored = some row) (active : row.state = .active)
    (succeeds : call.confirm ⟨target, call.instruction target issuer⟩ stored =
      .ok (after, reply)) : run.Revoked after := by
  rcases RevocationCall.confirm_ok answers tenant succeeds with
    ⟨_, _, _, recorded, _, records, _⟩
  have session : call.recording.tenantId = run.first.context.tenantId := by
    rw [entitled.recording.1, context]
  have found' : stored.certificate? call.recording.tenantId
      (call.parameters confirmation).certificateId = some row := by
    rw [session, RevocationCall.parameters, request]
    exact found
  rcases (recordCertificateRevocation_leaves found' active records).1.certificate with
    ⟨revoked, lookup, _, state, _⟩
  rw [session, RevocationCall.parameters, request] at lookup
  exact ⟨revoked, lookup, state⟩

/-- Whatever happens later, a revoked certificate stays revoked. -/
theorem Revoked.kept {before after : Inventory} (revoked : run.Revoked before)
    (keeps : ∀ row, before.Keeps row → after.Keeps row) : run.Revoked after := by
  rcases revoked with ⟨row, found, state⟩
  rcases target?_keeps found (keeps row (Inventory.keeps_of_found found)) with
    ⟨next, lookup, continues⟩
  exact ⟨next, lookup, (continues.terminal (by rw [state]; decide)).trans state⟩

theorem Revoked.final (revoked : run.Revoked run.restored) : run.Revoked run.final :=
  revoked.kept fun _ keeps => RevocationCall.left_keeps keeps

theorem Confirmed.reply_lost (confirmed : run.Confirmed target issuer confirmation)
    (recorded : run.RecordedInTime confirmation) (reached : run.recordingLost = false) :
    run.Revoked run.restored := by
  rcases confirmed.first_ok_iff.mpr recorded with ⟨⟨after, reply⟩, succeeds⟩
  have left : run.left = after := by
    rw [RevocationRun.left, reached]
    exact RevocationCall.left_ok succeeds
  rcases confirmed.stored with ⟨row, found, _⟩
  have confirms := succeeds
  rw [confirmed.entitled.revoke_eq confirmed.resolved confirmed.unknown confirmed.found
    confirmed.active confirmed.version] at confirms
  have revoked : run.Revoked run.left := by
    rw [left]
    exact revoked_of_confirm rfl rfl confirmed.entitled confirmed.answers confirmed.tenant found
      (confirmed.standing row found) confirms
  exact revoked.kept fun _ keeps => (keeps.run run.between).run run.meanwhile

theorem Confirmed.reloaded (confirmed : run.Confirmed target issuer confirmation) :
    ∃ row, run.target? run.reloaded = some row ∧ target.Continues row := by
  have stored : run.stored.Keeps target :=
    (Inventory.keeps_of_found confirmed.found).run run.during
  have left : run.left.Keeps target := by
    rw [RevocationRun.left]
    split
    · exact stored
    · exact RevocationCall.left_keeps stored
  exact target?_keeps confirmed.found (left.run run.between)

/-- While no revocation of the tenant has the key, the repetition does not find one. -/
theorem retry_unknown (repeats : run.Repeats target issuer confirmation)
    (unrecorded : (run.retry.parameters confirmation).Unrecorded run.retry.recording.tenantId
      target.issuerId run.restored) : run.retry.existing run.reloaded = none := by
  have session : run.retry.recording.tenantId = run.retry.context.tenantId :=
    repeats.entitled.recording.1
  have absent : run.reloaded.revocationEvent? run.retry.context.tenantId
      run.retry.request.idempotencyKey = none := by
    cases known : run.reloaded.revocationEvent? run.retry.context.tenantId
        run.retry.request.idempotencyKey with
    | none => rfl
    | some event =>
        have kept := revocationEvent?_run known run.meanwhile
        have member := List.mem_of_find?_eq_some kept
        have matching := List.find?_some kept
        simp only [Bool.and_eq_true, decide_eq_true_eq] at matching
        have free := ((unrecorded event member).2
          (matching.1.1.trans session.symm)).1 matching.2
        exact absurd matching.1.2 free.1
  exact RevocationCall.existing_none absent

section Retried

variable {row : Certificate}

theorem Confirmed.retry_row (confirmed : run.Confirmed target issuer confirmation)
    (found : run.target? run.restored = some row) (active : row.state = .active) :
    target.Continues row ∧ ∃ old, run.target? run.reloaded = some old ∧
      target.Continues old ∧ old.state = .active ∧ old.version = 1 := by
  rcases confirmed.reloaded with ⟨old, lookup, continues⟩
  rcases target?_keeps lookup ((Inventory.keeps_of_found lookup).run run.meanwhile) with
    ⟨next, same, later⟩
  obtain rfl : row = next := Option.some.inj (found.symm.trans same)
  have standing : old.state = .active := by
    by_contra ended
    exact ended ((later.terminal ended).symm.trans active)
  have versioned := run.reloaded_sound.versioned old (certificate?_mem lookup).1
  rw [standing, if_pos rfl] at versioned
  exact ⟨continues.trans later, old, lookup, continues, standing, versioned⟩

/-- The repetition of a confirmed request for a certificate that is still active. -/
theorem Repeats.revoked_iff (repeats : run.Repeats target issuer confirmation)
    (confirmed : run.Confirmed target issuer confirmation)
    (found : run.target? run.restored = some row) (active : row.state = .active) :
    run.Revoked run.final ↔ run.RetriedInTime confirmation := by
  rcases confirmed.retry_row found active with ⟨continues, old, lookup, since, standing, version⟩
  have context := repeats.context
  have request := repeats.request
  have named := (certificate?_mem lookup).2
  have tenant : old.tenantId = run.retry.context.tenantId := by
    rw [context]
    exact congrArg Prod.fst named
  have certificateId : old.certificateId = run.retry.request.certificateId := by
    rw [request]
    exact congrArg Prod.snd named
  have entitled := repeats.entitled.continues since
  have reloaded : run.reloaded.certificate? run.retry.context.tenantId
      run.retry.request.certificateId = some old := by
    rw [context, request]
    exact lookup
  have restored : run.restored.certificate? run.retry.context.tenantId
      run.retry.request.certificateId = some row := by
    rw [context, request]
    exact found
  have resolved : requireRevocationIssuer run.retry.context.tenantId old run.retry.issuer =
      .ok issuer := by
    have first := confirmed.resolved
    rw [requireRevocationIssuer] at first ⊢
    rwa [context, repeats.sameIssuer, congrArg CertificateIdentity.issuerId since.identity]
  have answers : run.retry.revokeAtIssuer (run.retry.instruction old issuer) =
      .ok (some confirmation) := by
    rw [RevocationCall.instruction_continues since]
    exact repeats.answers
  have called : run.retry.existing run.reloaded = none →
      (run.retry.revoke run.reloaded run.restored).2 =
        run.retry.confirm ⟨old, run.retry.instruction old issuer⟩ run.restored := by
    intro unknown
    rw [entitled.revoke_eq resolved unknown reloaded standing version]
  have matched : RevocationCall.Matches confirmation run.retry.request old := by
    have facts := confirmed.times.1
    have identity := since.identity
    rw [request]
    exact ⟨facts.status, facts.tenantId.trans (congrArg CertificateIdentity.tenantId identity).symm,
      facts.certificateId.trans (congrArg CertificateIdentity.certificateId identity).symm,
      facts.issuerId.trans (congrArg CertificateIdentity.issuerId identity).symm,
      facts.serialNumber.trans (congrArg CertificateIdentity.serialNumber identity).symm,
      facts.fingerprintSha256.trans
        (congrArg CertificateIdentity.fingerprintSha256 identity).symm,
      facts.reasonCode, facts.issuerConfirmationId⟩
  have permitted : confirmation.revokedAt ≤ run.retry.recording.clock + seconds 2 →
      (run.retry.parameters confirmation).Permitted run.retry.recording row := by
    intro bound
    have first := permitted_continues confirmed.permitted continues
    have standing := (repeats.entitled.continues continues).standing
    exact ⟨entitled.recording.2.2, first.issued, first.unexpired, bound,
      by rw [entitled.recording.2.1]; exact standing.imp id fun admin => admin.2.2,
      (repeats.entitled.continues continues).active⟩
  constructor
  · intro revoked
    cases unknown : run.retry.existing run.reloaded with
    | some existing =>
        rw [final, RevocationCall.left_existing unknown] at revoked
        rcases revoked with ⟨other, same, state⟩
        rw [found, Option.some.injEq] at same
        rw [← same, active] at state
        cases state
    | none =>
        cases result : run.retry.confirm ⟨old, run.retry.instruction old issuer⟩ run.restored with
        | error failure =>
            rw [final, RevocationCall.left, called unknown, result] at revoked
            rcases revoked with ⟨other, same, state⟩
            rw [found, Option.some.injEq] at same
            rw [← same, active] at state
            cases state
        | ok pair =>
            rcases RevocationCall.confirm_ok answers tenant result with
              ⟨_, requested, checked, recorded, _, records, _⟩
            have bound := recordCertificateRevocation_bound (by
              rw [entitled.recording.1]
              exact restored) active records
            have recordable := (RevocationCall.confirm_ok_iff entitled answers tenant certificateId
              matched ⟨requested, checked⟩ run.restored_sound restored active version
              (permitted bound)).mp ⟨pair, result⟩
            exact ⟨requested, checked, row, found, active, recordable⟩
  · intro retried
    rcases retried with ⟨requested, checked, other, same, _, recordable⟩
    obtain rfl : row = other := Option.some.inj (found.symm.trans same)
    have bound : confirmation.revokedAt ≤ run.retry.recording.clock + seconds 2 := by
      have occurred : confirmation.revokedAt ≤ run.retry.recording.clock := recordable.occurred
      unfold Timestamp seconds at *
      omega
    have unrecorded := recordable.unrecorded
    rw [congrArg CertificateIdentity.issuerId continues.identity] at unrecorded
    have unknown := retry_unknown repeats unrecorded
    rcases (RevocationCall.confirm_ok_iff entitled answers tenant certificateId matched
      ⟨requested, checked⟩ run.restored_sound restored active version (permitted bound)).mpr
      recordable with ⟨⟨after, reply⟩, confirms⟩
    have succeeds := (called unknown).trans confirms
    rw [final, RevocationCall.left_ok succeeds]
    exact revoked_of_confirm context request entitled answers tenant found active confirms

end Retried

/-- A confirmed revocation is recorded, and is recorded after a lost recording or reply, exactly if
the confirmed time is not ahead of the database clock and, where the recording was lost, something
else has revoked the certificate or the repetition is not later than the confirmed time. -/
theorem confirmed_revocation_recorded_iff (run : RevocationRun) (target : Certificate)
    (issuer : TenantIssuer) (confirmation : IssuerConfirmation)
    (confirmed : run.Confirmed target issuer confirmation)
    (repeats : run.Repeats target issuer confirmation) :
    ((∃ result, (run.first.revoke run.loaded run.stored).2 = .ok result) ∧
        run.Revoked run.final) ↔
      run.RecordedInTime confirmation ∧ (run.recordingLost = false ∨ run.Revoked run.restored ∨
        run.RetriedInTime confirmation) := by
  rw [confirmed.first_ok_iff]
  constructor
  · intro holds
    rcases holds with ⟨recorded, revoked⟩
    refine ⟨recorded, ?_⟩
    rcases confirmed.reloaded with ⟨old, lookup, _⟩
    rcases target?_keeps lookup ((Inventory.keeps_of_found lookup).run run.meanwhile) with
      ⟨row, found, _⟩
    by_cases active : row.state = .active
    · exact Or.inr (Or.inr ((repeats.revoked_iff confirmed found active).mp revoked))
    · rcases target?_keeps found (RevocationCall.left_keeps (Inventory.keeps_of_found found)) with
        ⟨last, final, continues⟩
      rcases revoked with ⟨other, same, state⟩
      obtain rfl : last = other := Option.some.inj (final.symm.trans same)
      exact Or.inr (Or.inl ⟨row, found, (continues.terminal active).symm.trans state⟩)
  · intro holds
    rcases holds with ⟨recorded, reached | revoked | retried⟩
    · exact ⟨recorded, (confirmed.reply_lost recorded reached).final⟩
    · exact ⟨recorded, revoked.final⟩
    · rcases retried with ⟨requested, checked, row, found, active, recordable⟩
      exact ⟨recorded, (repeats.revoked_iff confirmed found active).mpr
        ⟨requested, checked, row, found, active, recordable⟩⟩

end RevocationRun

namespace RevocationScenario

def sessionAt (clock : Timestamp) : Session where
  tenantId := ⟨1⟩
  subjectId := ⟨1⟩
  actorIsActive := true
  actorIsTenantAdmin := false
  activeMember := fun subject => subject = ⟨1⟩
  activeIssuer := fun issuer => issuer = ⟨1⟩
  clock := clock

def issuance : CertificateRequest where
  certificateId := ⟨1⟩
  eventId := ⟨1⟩
  correlationId := ⟨1⟩
  requestId := ⟨1⟩
  subjectId := ⟨1⟩
  issuerId := ⟨1⟩
  profileId := enrollmentProfile
  serialNumber := ⟨10⟩
  fingerprintSha256 := ⟨11⟩
  publicKeySha256 := some ⟨12⟩
  publicKeyAlgorithm := .ed25519
  notBefore := 0
  notAfter := minutes 60
  issuedAt := 0
  idempotencyKey := .requested 1

def certificate : Certificate := issuance.row (sessionAt 0) none

def issuer : TenantIssuer where
  tenantId := ⟨1⟩
  issuerId := ⟨1⟩
  isActive := true
  allowedCertificateOperations := [.issue, .renew, .revoke]
  issuerName := "Tenant Alpha CA"
  authorityUrl := "https://tenant-alpha-ca.local"
  issuerCertificatePem := ""

/-- The authority revokes two seconds after the hour began. -/
def confirmation : IssuerConfirmation where
  status := "revoked"
  tenantId := ⟨1⟩
  certificateId := ⟨1⟩
  issuerId := ⟨1⟩
  serialNumber := ⟨10⟩
  fingerprintSha256 := ⟨11⟩
  reasonCode := .keyCompromise
  issuerConfirmationId := "step-ca:revocation:0001"
  revokedAt := seconds 2

def call (requestedAt databaseClock : Timestamp) (id : Nat) : RevocationCall where
  context := ⟨⟨1⟩, ⟨1⟩, [.tenantMember]⟩
  request := ⟨⟨2⟩, ⟨1⟩, .keyCompromise, .requested 2⟩
  issuer := some issuer
  revokeAtIssuer _ := .ok (some confirmation)
  eventId := ⟨id⟩
  correlationId := ⟨id⟩
  requestedAt := requestedAt
  checkedAt := requestedAt + seconds 1
  reading := sessionAt databaseClock
  recording := sessionAt databaseClock

/-- The recording of the first call is lost, and the request is repeated half a second later. -/
def run (databaseClock : Timestamp) : RevocationRun where
  earlier := [.issue (sessionAt 0) issuance]
  first := call (seconds 1) databaseClock 2
  during := []
  recordingLost := true
  between := []
  retry := call 1500 (seconds 3) 3
  meanwhile := []

theorem entitled (requestedAt databaseClock : Timestamp) (id : Nat) :
    (call requestedAt databaseClock id).Entitled certificate where
  reading := ⟨rfl, rfl, rfl⟩
  recording := ⟨rfl, rfl, rfl⟩
  standing := Or.inl rfl
  active := rfl

def inventory : Inventory :=
  Transaction.run applyInventory .empty [.issue (sessionAt 0) issuance]

theorem stored : inventory.certificate? ⟨1⟩ ⟨1⟩ = some certificate := by
  decide +kernel

theorem unknown (databaseClock : Timestamp) :
    (run databaseClock).first.existing inventory = none := by
  have absent : inventory.revocationEvent? ⟨1⟩ (.requested 2) = none := by decide +kernel
  exact RevocationCall.existing_none absent

theorem resolved : requireRevocationIssuer ⟨1⟩ certificate (some issuer) = .ok issuer := by
  decide +kernel

theorem confirmed {databaseClock : Timestamp} (bound : seconds 2 ≤ databaseClock + seconds 2) :
    (run databaseClock).Confirmed certificate issuer confirmation where
  found := stored
  active := rfl
  unknown := unknown databaseClock
  entitled := entitled _ _ _
  resolved := resolved
  answers := rfl
  valid := by
    have facts : RevocationCall.Matches confirmation (run databaseClock).first.request
        certificate := ⟨rfl, rfl, rfl, rfl, rfl, rfl, rfl, by decide +kernel⟩
    exact (RevocationCall.validateIssuerConfirmation_iff rfl).mpr
      ⟨rfl, facts, (by decide : seconds 1 ≤ seconds 2),
        (by decide : seconds 2 ≤ seconds 1 + seconds 1 + seconds 2)⟩
  standing := by
    intro row lookup
    obtain rfl : certificate = row := Option.some.inj (stored.symm.trans lookup)
    rfl
  permitted := ⟨rfl, (by decide : 0 ≤ seconds 2), (by decide : seconds 2 < minutes 60), bound,
    Or.inl rfl, rfl⟩

theorem repeats (databaseClock : Timestamp) :
    (run databaseClock).Repeats certificate issuer confirmation :=
  ⟨rfl, rfl, rfl, entitled _ _ _, rfl⟩

theorem unrecorded (id : Nat) (fresh : id ≠ 1) (p : RevocationRequest) (event : p.eventId = ⟨id⟩) :
    p.Unrecorded ⟨1⟩ ⟨1⟩ inventory := by
  intro old member
  have only : old = issuance.event (sessionAt 0) .issued none := by
    have rows : inventory.events.rows = [issuance.event (sessionAt 0) .issued none] := by
      decide +kernel
    rw [Table.mem_def, rows] at member
    exact List.mem_singleton.mp member
  subst only
  refine ⟨?_, fun _ => ⟨fun revoked => ?_, fun _ => ?_⟩⟩
  · rw [event]
    simpa [CertificateRequest.event, issuance] using fresh.symm
  · exact absurd revoked (by decide)
  · simp [CertificateRequest.event]

end RevocationScenario

open RevocationScenario in
theorem confirmed_revocation_recorded_scenario :
    ((∃ result, ((run (seconds 3)).first.revoke (run (seconds 3)).loaded
        (run (seconds 3)).stored).2 = .ok result) ∧
      (run (seconds 3)).Revoked (run (seconds 3)).final) := by
  apply (RevocationRun.confirmed_revocation_recorded_iff (run (seconds 3)) certificate issuer
    confirmation (confirmed (by decide)) (repeats _)).mpr
  have first : (run (seconds 3)).RecordedInTime confirmation :=
    ⟨certificate, stored, by decide, by decide, unrecorded 2 (by decide) _ rfl⟩
  refine ⟨first, Or.inr (Or.inr ⟨by decide, by decide, certificate, stored, rfl, ?_⟩)⟩
  exact ⟨by decide, by decide, unrecorded 3 (by decide) _ rfl⟩

/-- With the clock of the database a second behind the authority's, the revocation is lost. -/
theorem confirmed_revocation_unrecorded :
    ¬ ∀ (run : RevocationRun) target issuer confirmation,
      run.Confirmed target issuer confirmation → run.Repeats target issuer confirmation →
        (∃ result, (run.first.revoke run.loaded run.stored).2 = .ok result) ∧
          run.Revoked run.final := by
  open RevocationScenario in
  intro claim
  have behind : seconds 2 ≤ seconds 1 + seconds 2 := by decide
  rcases (claim (run (seconds 1)) certificate issuer confirmation (confirmed behind)
    (repeats _)).1 with ⟨result, recorded⟩
  have refused : (match ((run (seconds 1)).first.revoke (run (seconds 1)).loaded
      (run (seconds 1)).stored).2 with
    | .ok _ => true
    | .error _ => false) = false := by decide +kernel
  rw [recorded] at refused
  cases refused

end TenantTrust.Identity
