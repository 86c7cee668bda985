import TenantTrust.Identity.Lifecycle
import TenantTrust.Library.RowLocks

/-! The locks on certificate rows: requests read a row `FOR SHARE`, lifecycle calls `FOR UPDATE`. -/

namespace TenantTrust.Identity

open Library

/-- The row that a lifecycle call reads `FOR UPDATE`; an issuance reads none. -/
def InventoryOp.target : InventoryOp → Option (TenantId × CertificateId)
  | .issue _ _ => none
  | .renew session _ supersedes _ => some (session.tenantId, supersedes)
  | .revoke session p => some (session.tenantId, p.certificateId)
  | .expire _ p => some (p.tenantId, p.certificateId)

inductive CertificateLock where
  | share (row : Certificate)
  | update (op : InventoryOp)

namespace CertificateLock

def target : CertificateLock → Option (TenantId × CertificateId)
  | share row => some row.key
  | update op => op.target

/-- Two share locks of one row do not exclude each other. -/
def conflicts : CertificateLock → CertificateLock → Bool
  | share _, share _ => false
  | first, second => first.target.isSome && first.target = second.target

theorem conflicts_symm {first second : CertificateLock}
    (conflict : first.conflicts second = true) : second.conflicts first = true := by
  cases first <;> cases second <;>
    simp only [conflicts, Bool.and_eq_true, decide_eq_true_eq, Bool.false_eq_true] at conflict ⊢
  all_goals exact ⟨by rw [← conflict.2]; exact conflict.1, conflict.2.symm⟩

/-- A row that is locked is the committed one. -/
def fits (inventory : Inventory) : CertificateLock → Prop
  | share row => row ∈ inventory.certificates
  | update _ => True

/-- The end of a transaction: a lifecycle call takes effect, on the row that it locked. -/
def commit (inventory : Inventory) : CertificateLock → Inventory
  | share _ => inventory
  | update op => Transaction.commit applyInventory inventory op

end CertificateLock

section Frame

variable {before after : Inventory} {reply : RecordedCertificate} {row : Certificate}

theorem updateState_frame {target : Certificate} {state : CertificateState}
    {changedAt clock : Timestamp} {eventId : EventId}
    (succeeds : updateState target state changedAt eventId clock before = .ok after)
    (member : row ∈ before.certificates) (apart : target.key ≠ row.key) :
    row ∈ after.certificates := by
  refine (updateState_mem succeeds row).mpr ⟨row, member, ?_⟩
  rw [changeState, if_neg (Ne.symm apart)]

theorem recordCertificateIssuance_frame {session : Session} {p : CertificateRequest}
    (succeeds : recordCertificateIssuance session p before = .ok (after, reply))
    (member : row ∈ before.certificates) : row ∈ after.certificates := by
  simp only [recordCertificateIssuance, Checked.bind_eq_ok, Checked.require_eq_ok,
    exists_const] at succeeds
  obtain ⟨_, succeeds⟩ := succeeds
  split at succeeds
  · simp only [Checked.bind_eq_ok, Checked.require_eq_ok, Checked.pure_eq_ok, exists_const,
      Prod.mk.injEq] at succeeds
    rw [← succeeds.2.1]
    exact member
  · simp only [Checked.bind_eq_ok, Checked.pure_eq_ok, Prod.mk.injEq] at succeeds
    obtain ⟨_, inserted, _, logged, rfl, _⟩ := succeeds
    rw [insertLifecycleEvent_certificates logged]
    exact (insertCertificate_mem inserted row).mpr (Or.inl member)

theorem recordDueCertificateExpiration_frame {clock : Timestamp} {p : ExpirationRequest}
    (succeeds : recordDueCertificateExpiration clock p before = .ok (after, reply))
    (member : row ∈ before.certificates) (apart : (p.tenantId, p.certificateId) ≠ row.key) :
    row ∈ after.certificates := by
  simp only [recordDueCertificateExpiration, Checked.bind_eq_ok,
    Checked.requireSome_eq_ok] at succeeds
  obtain ⟨target, found, succeeds⟩ := succeeds
  split at succeeds
  · simp only [Checked.bind_eq_ok, Checked.require_eq_ok, Checked.requireSome_eq_ok,
      Checked.pure_eq_ok, exists_const, Prod.mk.injEq] at succeeds
    obtain ⟨_, _, _, rfl, _⟩ := succeeds
    exact member
  · simp only [Checked.bind_eq_ok, Checked.require_eq_ok, Checked.pure_eq_ok, exists_const,
      Prod.mk.injEq] at succeeds
    obtain ⟨_, _, changed, _, logged, rfl, _⟩ := succeeds
    rw [insertLifecycleEvent_certificates logged]
    apply updateState_frame changed member
    rwa [(certificate?_mem found).2]

/-- A lifecycle call leaves every row as it is but the one that it locked. -/
theorem applyInventory_frame {op : InventoryOp}
    (succeeds : applyInventory op before = .ok (after, reply))
    (member : row ∈ before.certificates) (apart : op.target ≠ some row.key) :
    row ∈ after.certificates := by
  have elsewhere : ∀ key, op.target = some key → key ≠ row.key := by
    rintro key named rfl
    exact apart named
  cases op with
  | issue session p => exact recordCertificateIssuance_frame succeeds member
  | renew session p supersedes supersededEventId =>
      rcases recordCertificateRenewal_cases succeeds with rfl | renewed
      · exact member
      · obtain ⟨predecessor, _, named, _, _, rows⟩ := renewed
        refine (rows row).mpr ⟨row, Or.inl member, ?_⟩
        rw [changeState, if_neg]
        rw [named]
        exact fun same => elsewhere _ rfl same.symm
  | revoke session p =>
      rcases recordCertificateRevocation_cases succeeds with rfl | revoked
      · exact member
      · obtain ⟨target, _, _, named, _, changed, same⟩ := revoked
        rw [same]
        apply updateState_frame changed member
        rw [named]
        exact elsewhere _ rfl
  | expire clock p => exact recordDueCertificateExpiration_frame succeeds member (elsewhere _ rfl)

end Frame

theorem CertificateLock.fits_commit {inventory : Inventory} {first second : CertificateLock}
    (fits : first.fits inventory) (free : ¬ first.conflicts second = true) :
    first.fits (second.commit inventory) := by
  cases first with
  | update op => trivial
  | share row =>
      cases second with
      | share other => exact fits
      | update op =>
          have apart : op.target ≠ some row.key := by
            intro same
            apply free
            simp [CertificateLock.conflicts, CertificateLock.target, same]
          rcases Transaction.commit_cases applyInventory inventory op with same | ⟨_, succeeded⟩
          · rw [CertificateLock.commit, same]
            exact fits
          · exact applyInventory_frame succeeded fits apart

/-- Row locks on certificates. -/
def certificateLocks : RowLocks Inventory CertificateLock where
  fits := fun inventory lock => lock.fits inventory
  commit := fun inventory lock => lock.commit inventory
  conflicts := fun first second => first.conflicts second = true
  symm := CertificateLock.conflicts_symm
  frame := fun fits _ free => CertificateLock.fits_commit fits free

end TenantTrust.Identity
