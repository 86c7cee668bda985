import TenantTrust.Identity.CertificateHistory

/-! Which certificate replaced which, over any sequence of inventory writes. -/

namespace TenantTrust.Identity

open Library

/-- The key of the certificate that a row says it supersedes. -/
def Certificate.parentKey (certificate : Certificate) : Option (TenantId × CertificateId) :=
  certificate.supersedesCertificateId.map fun old => (certificate.tenantId, old)

theorem Certificate.parentKey_eq {new old : Certificate} :
    new.parentKey = some old.key ↔
      new.supersedesCertificateId = some old.certificateId ∧ new.tenantId = old.tenantId := by
  cases names : new.supersedesCertificateId with
  | none => simp [Certificate.parentKey, names]
  | some supersedes => simp [Certificate.parentKey, names, Certificate.key, and_comm]

theorem Certificate.parentKey_identity {old new : Certificate}
    (same : new.toCertificateIdentity = old.toCertificateIdentity) :
    new.parentKey = old.parentKey := by
  simp only [Certificate.parentKey, same]

theorem Inventory.supersedes_iff {inventory : Inventory} {new old : Certificate} :
    inventory.Supersedes new old ↔
      inventory.certificates.ParentOf Certificate.parentKey new old := by
  rw [Inventory.Supersedes, Table.ParentOf, Certificate.parentKey_eq]

/-- Succession is a forest in which the replaced certificates are those of a given kind. -/
structure Inventory.Succession (inventory : Inventory) (replaced : Certificate → Prop) :
    Prop where
  grounded : inventory.certificates.Grounded Certificate.parentKey
  exact : ∀ old ∈ inventory.certificates, replaced old ↔ ∃ new, inventory.Supersedes new old
  single : ∀ first second old, inventory.Supersedes first old → inventory.Supersedes second old →
    first = second
  freshKey : ∀ new old, inventory.Supersedes new old → new.publicKeySha256 ≠ old.publicKeySha256

variable {before : Inventory} {replaced : Certificate → Prop}

theorem Inventory.empty_succession : Inventory.empty.Succession replaced where
  grounded := Table.empty_grounded
  exact old member := absurd member (Table.not_mem_empty old)
  single _ _ old step := absurd step.2.1 (Table.not_mem_empty old)
  freshKey _ old step := absurd step.2.1 (Table.not_mem_empty old)

/-- A link in a table that has just grown is an old link, or the one that the new row makes. -/
theorem Inventory.Succession.supersedes_inserted (succession : before.Succession replaced)
    {row : Certificate} {certificates : Table Certificate Certificate.key}
    (events : Table LifecycleEvent LifecycleEvent.key)
    (inserted : before.certificates.insertNew row = some certificates)
    (known : ∀ k, row.parentKey = some k → ∃ old ∈ before.certificates, old.key = k)
    (new old : Certificate) :
    Inventory.Supersedes ⟨certificates, events⟩ new old ↔
      before.Supersedes new old ∨
        (new = row ∧ old ∈ before.certificates ∧ row.parentKey = some old.key) := by
  have fresh : ∀ old ∈ before.certificates, old.key ≠ row.key := Table.insertNew_fresh inserted
  have notNamed : ∀ child ∈ before.certificates, child.parentKey ≠ some row.key := by
    intro child member names
    rcases List.append_of_mem member with ⟨front, back, split⟩
    rcases succession.grounded front child back split _ names with ⟨earlier, present, same⟩
    have kept : earlier ∈ before.certificates := by
      rw [Table.mem_def, split]
      exact List.mem_append_left _ present
    exact fresh earlier kept same
  rw [Inventory.supersedes_iff, Inventory.supersedes_iff, Table.ParentOf, Table.ParentOf,
    Table.mem_insertNew inserted, Table.mem_insertNew inserted]
  constructor
  · intro step
    rcases step with ⟨child | rfl, origin | rfl, names⟩
    · exact Or.inl ⟨child, origin, names⟩
    · exact absurd names (notNamed new child)
    · exact Or.inr ⟨rfl, origin, names⟩
    · rcases known _ names with ⟨earlier, present, same⟩
      exact absurd same (fresh earlier present)
  · intro step
    rcases step with ⟨child, origin, names⟩ | ⟨rfl, origin, names⟩
    · exact ⟨Or.inl child, Or.inl origin, names⟩
    · exact ⟨Or.inr rfl, Or.inl origin, names⟩

/-- Recording a row replaces the certificate that it names, which nothing had replaced. -/
theorem Inventory.Succession.opens (succession : before.Succession replaced)
    {row : Certificate} {certificates : Table Certificate Certificate.key}
    (events : Table LifecycleEvent LifecycleEvent.key)
    (inserted : before.certificates.insertNew row = some certificates)
    (known : ∀ k, row.parentKey = some k → ∃ old ∈ before.certificates, old.key = k)
    (standing : ¬ replaced row)
    (free : ∀ old ∈ before.certificates, row.parentKey = some old.key →
      ¬ replaced old ∧ row.publicKeySha256 ≠ old.publicKeySha256) :
    Inventory.Succession ⟨certificates, events⟩
      (fun old => replaced old ∨ row.parentKey = some old.key) := by
  have links := succession.supersedes_inserted events inserted known
  have fresh : ∀ old ∈ before.certificates, old.key ≠ row.key := Table.insertNew_fresh inserted
  have alone : ∀ old ∈ before.certificates, row.parentKey = some old.key →
      ∀ new, ¬ before.Supersedes new old := by
    intro old member names new step
    exact (free old member names).1 ((succession.exact old member).mpr ⟨new, step⟩)
  constructor
  · exact succession.grounded.insertNew inserted known
  · intro old member
    constructor
    · intro outdated
      rcases (Table.mem_insertNew inserted old).mp member with kept | rfl
      · rcases outdated with already | names
        · rcases (succession.exact old kept).mp already with ⟨new, step⟩
          exact ⟨new, (links new old).mpr (Or.inl step)⟩
        · exact ⟨row, (links row old).mpr (Or.inr ⟨rfl, kept, names⟩)⟩
      · rcases outdated with already | names
        · exact absurd already standing
        · rcases known _ names with ⟨earlier, present, same⟩
          exact absurd same (fresh earlier present)
    · intro successor
      rcases successor with ⟨new, step⟩
      rcases (links new old).mp step with step | ⟨_, _, names⟩
      · exact Or.inl ((succession.exact old step.2.1).mpr ⟨new, step⟩)
      · exact Or.inr names
  · intro first second old one two
    rcases (links first old).mp one with one | ⟨rfl, kept, names⟩
    · rcases (links second old).mp two with two | ⟨rfl, kept, names⟩
      · exact succession.single first second old one two
      · exact absurd one (alone old kept names first)
    · rcases (links second old).mp two with two | ⟨same, _, _⟩
      · exact absurd two (alone old kept names second)
      · exact same.symm
  · intro new old step
    rcases (links new old).mp step with step | ⟨rfl, kept, names⟩
    · exact succession.freshKey new old step
    · exact (free old kept names).2

/-- A transition moves states only; it replaces what it is said to replace. -/
theorem Inventory.Succession.transition (succession : before.Succession replaced)
    {f : Certificate → Certificate} {keeps : ∀ row, (f row).key = row.key}
    {events : Table LifecycleEvent LifecycleEvent.key}
    (identity : ∀ row, (f row).toCertificateIdentity = row.toCertificateIdentity)
    {outdated : Certificate → Prop}
    (same : ∀ old ∈ before.certificates, outdated (f old) ↔ replaced old) :
    Inventory.Succession ⟨before.certificates.update f keeps, events⟩ outdated := by
  have rows := Table.mem_update before.certificates f keeps
  have parents : ∀ row, (f row).parentKey = row.parentKey :=
    fun row => Certificate.parentKey_identity (identity row)
  have links : ∀ new old,
      Inventory.Supersedes ⟨before.certificates.update f keeps, events⟩ new old ↔
      ∃ child origin, before.Supersedes child origin ∧ f child = new ∧ f origin = old := by
    intro new old
    rw [Inventory.supersedes_iff, Table.ParentOf, rows, rows]
    constructor
    · intro step
      rcases step with ⟨⟨child, member, rfl⟩, ⟨origin, present, rfl⟩, names⟩
      rw [parents, keeps] at names
      exact ⟨child, origin, Inventory.supersedes_iff.mpr ⟨member, present, names⟩, rfl, rfl⟩
    · intro step
      rcases step with ⟨child, origin, step, rfl, rfl⟩
      rcases Inventory.supersedes_iff.mp step with ⟨member, present, names⟩
      exact ⟨⟨child, member, rfl⟩, ⟨origin, present, rfl⟩, by rw [parents, keeps, names]⟩
  have only : ∀ left ∈ before.certificates, ∀ right ∈ before.certificates, f left = f right →
      left = right := by
    intro left one right two equal
    apply before.certificates.unique one two
    rw [← keeps left, ← keeps right, equal]
  constructor
  · exact succession.grounded.update f keeps fun row _ => parents row
  · intro old member
    rcases (rows old).mp member with ⟨origin, present, rfl⟩
    rw [same origin present, succession.exact origin present]
    constructor
    · intro successor
      rcases successor with ⟨child, step⟩
      exact ⟨f child, (links _ _).mpr ⟨child, origin, step, rfl, rfl⟩⟩
    · intro successor
      rcases successor with ⟨new, step⟩
      rcases (links _ _).mp step with ⟨child, other, step, _, equal⟩
      rw [only other step.2.1 origin present equal] at step
      exact ⟨child, step⟩
  · intro first second old one two
    rcases (links _ _).mp one with ⟨left, origin, earlier, rfl, rfl⟩
    rcases (links _ _).mp two with ⟨right, other, later, rfl, equal⟩
    rw [only other later.2.1 origin earlier.2.1 equal] at later
    rw [succession.single left right origin earlier later]
  · intro new old step
    rcases (links _ _).mp step with ⟨child, origin, earlier, rfl, rfl⟩
    have child_ := congrArg CertificateIdentity.publicKeySha256 (identity child)
    have origin_ := congrArg CertificateIdentity.publicKeySha256 (identity origin)
    rw [child_, origin_]
    exact succession.freshKey child origin earlier

def Certificate.Superseded (certificate : Certificate) : Prop := certificate.state = .superseded

/-- Exactly the superseded certificates have a successor, after every step. -/
theorem Inventory.Succession.step {after : Inventory}
    (succession : before.Succession Certificate.Superseded) (step : before.Step after) :
    after.Succession Certificate.Superseded := by
  cases step with
  | @issued row event certificates events first opened type cause inserted logged =>
      have orphan : row.parentKey = none := by simp [Certificate.parentKey, first]
      have standing : ¬ row.Superseded := by simp [Certificate.Superseded, opened.active]
      have next := succession.opens events inserted (by simp [orphan]) standing
        (by simp [orphan])
      simpa [orphan] using next
  | @ended target event clock events present ended type cause checks logged =>
      refine succession.transition (event.endsRow_identity target clock) ?_
      intro old member
      by_cases same : old.key = target.key
      · rw [before.certificates.unique member present same, Certificate.Superseded,
          Certificate.Superseded, (event.endsRow_self target clock).1, ended.active]
        rcases type with revoked | expired
        · simp [revoked, LifecycleEventType.state]
        · simp [expired, LifecycleEventType.state]
      · rw [event.endsRow_other target clock same]
  | @renewed predecessor row event closing clock certificates logged events present names tenant
      freshKey opened type cause ended closes after shared checks inserted first second =>
      have parent : row.parentKey = some predecessor.key :=
        Certificate.parentKey_eq.mpr ⟨names, tenant⟩
      have standing : ¬ row.Superseded := by simp [Certificate.Superseded, opened.active]
      have known : ∀ k, row.parentKey = some k → ∃ old ∈ before.certificates, old.key = k := by
        intro k named
        exact ⟨predecessor, present, Option.some.inj (parent.symm.trans named)⟩
      have free : ∀ old ∈ before.certificates, row.parentKey = some old.key →
          ¬ old.Superseded ∧ row.publicKeySha256 ≠ old.publicKeySha256 := by
        intro old member named
        have same : old = predecessor := by
          apply before.certificates.unique member present
          exact Option.some.inj (named.symm.trans parent)
        rw [same]
        exact ⟨by simp [Certificate.Superseded, ended.active], freshKey⟩
      have midway := succession.opens logged inserted known standing free
      refine midway.transition (closing.endsRow_identity predecessor clock) ?_
      intro old member
      by_cases same : old.key = predecessor.key
      · have kept : predecessor ∈ certificates :=
          (Table.mem_insertNew inserted predecessor).mpr (Or.inl present)
        rw [certificates.unique member kept same, Certificate.Superseded,
          (closing.endsRow_self predecessor clock).1, closes]
        simp [LifecycleEventType.state, parent]
      · have apart : row.parentKey ≠ some old.key := by
          intro named
          exact same (Option.some.inj (named.symm.trans parent))
        rw [closing.endsRow_other predecessor clock same]
        simp [apart]

end TenantTrust.Identity
