import TenantTrust.Orchestration.Successes

/-! Renewals around a blocked posture. Only the certificate inventory decides about them, so
a revocation stops them for good, and a suspension or a renewal block alone does not. -/

namespace TenantTrust.Orchestration

open Library Identity

theorem Effect.inventory_extends {before after : Database} (effect : Effect before after) :
    before.inventory.Extends after.inventory := by
  cases effect with
  | environment _ _ _ _ _ inventory => exact inventory
  | createState _ _ _ => exact .refl _
  | enqueue _ _ _ => exact .refl _
  | authorize _ _ _ _ _ _ _ _ _ _ => exact .refl _
  | expire _ => exact .refl _
  | suppress _ succeeds =>
      rcases suppress_states succeeds with ⟨attempts, _, rfl⟩
      exact .refl _
  | execute _ _ _ _ _ succeeds =>
      rcases startExecution_cases succeeds with ⟨_, attempts, _, rfl, _⟩
      exact .refl _
  | succeed _ _ => exact .refl _
  | fail _ _ => exact .refl _

theorem inventoryRevoked_iff {inventory : Inventory} {tenantId : TenantId}
    {certificateId : CertificateId} :
    inventoryRevoked inventory tenantId certificateId ↔
      ∃ certificate ∈ inventory.certificates, certificate.key = (tenantId, certificateId) ∧
        certificate.state = .revoked := by
  unfold inventoryRevoked
  constructor
  · intro revoked
    split at revoked
    · rename_i certificate found
      rcases certificate?_mem found with ⟨member, key⟩
      exact ⟨certificate, member, key, of_decide_eq_true revoked⟩
    · cases revoked
  · intro revoked
    rcases revoked with ⟨certificate, member, key, state⟩
    have found : inventory.certificate? tenantId certificateId = some certificate :=
      (Table.get?_eq_some _ _ _).mpr ⟨member, key⟩
    simp [found, state]

theorem inventoryRevoked_extends {before after : Inventory} (extends_ : before.Extends after)
    {tenantId : TenantId} {certificateId : CertificateId}
    (revoked : inventoryRevoked before tenantId certificateId) :
    inventoryRevoked after tenantId certificateId := by
  rcases inventoryRevoked_iff.mp revoked with ⟨old, member, key, state⟩
  rcases extends_.persists old member with ⟨new, newMember, continues⟩
  refine inventoryRevoked_iff.mpr ⟨new, newMember, continues.key.trans key, ?_⟩
  rw [continues.terminal (by simp [state]), state]

theorem inventoryRevoked_run {db : Database} {tenantId : TenantId}
    {certificateId : CertificateId} (revoked : inventoryRevoked db.inventory tenantId certificateId)
    (ops : List QueueOp) :
    inventoryRevoked (runQueue db ops).inventory tenantId certificateId :=
  run_invariant (fun now => inventoryRevoked now.inventory tenantId certificateId)
    (fun _ _ holds effect => inventoryRevoked_extends effect.inventory_extends holds) db ops revoked

theorem linked_run {db : Database} (linked : db.inventory.Linked) (ops : List QueueOp) :
    (runQueue db ops).inventory.Linked :=
  run_invariant (fun now => now.inventory.Linked)
    (fun _ _ holds effect => holds.extends effect.inventory_extends) db ops linked

/-- A revocation is recorded as succeeded only after the inventory shows it. -/
theorem revoked_of_success {start : Database} (fresh : start.Fresh) (ops : List QueueOp)
    {action : SecurityAction} (member : action ∈ (runQueue start ops).actions)
    (revokes : action.actionType = .revokeCertificate)
    (done : action.execution.status = .succeeded) :
    inventoryRevoked (runQueue start ops).inventory action.target.tenantId
      action.target.certificateId := by
  rcases succeeded_origin fresh ops member done with
    ⟨front, report, back, old, state, rfl, _, final, success⟩
  have legal := success.legal
  have same : action.actionType = old.actionType ∧ action.target = old.target := by
    rw [← final]
    simp [succeedAction, legal.action_key]
  have checks := legal.inventory
  simp only [requireInventoryState, Checked.bind_eq_ok, Checked.require_eq_ok,
    exists_const] at checks
  have confirmed := checks.1 (same.1 ▸ revokes)
  rw [runQueue_append, same.2]
  exact inventoryRevoked_run confirmed _

/-- Once a revocation has succeeded, the certificate is never renewed again, and no
certificate of the tenant descends from it. -/
theorem revoked_certificate_never_renewed {start : Database} (fresh : start.Fresh)
    (linked : start.inventory.Linked) (ops : List QueueOp) {action : SecurityAction}
    (member : action ∈ (runQueue start ops).actions)
    (revokes : action.actionType = .revokeCertificate)
    (done : action.execution.status = .succeeded) (later : List QueueOp) :
    (∀ session p supersededEventId, session.tenantId = action.target.tenantId →
      ∃ failure, applyQueue (.certificates (.renew session p action.target.certificateId
        supersededEventId)) (runQueue start (ops ++ later)) = .error failure) ∧
    ∀ new old, old.key = (action.target.tenantId, action.target.certificateId) →
      ¬ Relation.TransGen (runQueue start (ops ++ later)).inventory.Supersedes new old := by
  have present := linked_run linked (ops ++ later)
  have revoked : inventoryRevoked (runQueue start (ops ++ later)).inventory
      action.target.tenantId action.target.certificateId := by
    rw [runQueue_append]
    exact inventoryRevoked_run (revoked_of_success fresh ops member revokes done) later
  rcases inventoryRevoked_iff.mp revoked with ⟨certificate, certificateMember, key, state⟩
  constructor
  · intro session p supersededEventId tenant
    cases result : applyQueue (.certificates (.renew session p action.target.certificateId
        supersededEventId)) (runQueue start (ops ++ later)) with
    | error failure => exact ⟨failure, rfl⟩
    | ok pair =>
        simp only [applyQueue, applyInventory, Checked.bind_eq_ok] at result
        rcases result with ⟨⟨inventory, row⟩, renewed, _⟩
        rcases recordCertificateRenewal_superseded present renewed with
          ⟨predecessor, predecessorMember, predecessorKey, open_⟩
        have same : predecessor = certificate :=
          Table.unique _ predecessorMember certificateMember (by rw [predecessorKey, key, tenant])
        rw [same, state] at open_
        rcases open_ with active | superseded
        · cases active
        · cases superseded
  · intro new old oldKey chain
    have superseded := present.chain chain
    have oldMember : old ∈ (runQueue start (ops ++ later)).inventory.certificates := by
      cases chain with
      | single step => exact step.2.1
      | tail _ step => exact step.2.1
    rw [Table.unique _ oldMember certificateMember (oldKey.trans key.symm), state] at superseded
    cases superseded

theorem revocation_ends_renewal : ∃ failure, applyQueue Scenario.renewal
    (runQueue Scenario.deployment (Scenario.revoked ++ [])) = .error failure := by
  have linked : Scenario.deployment.inventory.Linked := by
    intro new member supersedes names
    rcases List.mem_singleton.mp member with rfl
    cases names
  have done : ∃ action ∈ (runQueue Scenario.deployment Scenario.revoked).actions,
      action.actionType = .revokeCertificate ∧ action.execution.status = .succeeded ∧
        action.target = Scenario.target := by decide
  rcases done with ⟨action, member, revokes, succeeded, target⟩
  have never := (revoked_certificate_never_renewed Scenario.deployment_fresh linked
    Scenario.revoked member revokes succeeded []).1
  rw [target] at never
  exact never _ _ _ rfl

/-- After the run the renewal of the target is blocked, and still an active certificate of
the member supersedes the target. -/
def RenewedWhileBlocked (ops : List QueueOp) : Prop :=
  (∃ state ∈ (runQueue Scenario.deployment ops).states,
    state.target = Scenario.target ∧ state.posture.renewal = .blocked) ∧
  ∃ new ∈ (runQueue Scenario.deployment ops).inventory.certificates,
    new.state = .active ∧ new.subjectId = Scenario.target.subjectId ∧
      new.supersedesCertificateId = some Scenario.target.certificateId

/-- A suspended member renews its certificate, and so does one with a renewal block. -/
theorem blocked_certificate_is_renewed :
    RenewedWhileBlocked (Scenario.suspended ++ [Scenario.renewal]) ∧
    RenewedWhileBlocked [Scenario.severity .blockRenewal, Scenario.claim 1,
      Scenario.success 2 1 ⟨.normal, .blocked, .active, .notRequired⟩, Scenario.renewal] := by
  refine ⟨⟨by decide, by decide⟩, by decide, by decide⟩

end TenantTrust.Orchestration
