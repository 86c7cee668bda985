import TenantTrust.Audit.StepUpChallenges
import TenantTrust.Library.RowLocks

/-! What a transaction writes to the tables of step-up authentication, and what its commit does to
them. -/

namespace TenantTrust.Audit

open Library Identity

variable {PublicKey : Type}

/-- The rows of step-up authentication that a transaction has written; no call writes more than
one row of a table. -/
structure StepUpWrites where
  challenge : Option StepUpChallenge
  link : Option ProofChallenge
  proof : Option StepUpProof
  deriving DecidableEq, Repr

def StepUpWrites.nothing : StepUpWrites := ⟨none, none, none⟩

def ProofChallenge.challengeKey (row : ProofChallenge) : TenantId × StepUpChallengeId :=
  (row.tenantId, row.challengeId)

namespace StepUpWrites

def clash {Key : Type} [DecidableEq Key] (left right : Option Key) : Bool :=
  left.isSome && left = right

/-- One of the rows is locked by the other transaction, or waits for its unique key. -/
def conflicts (left right : StepUpWrites) : Bool :=
  clash (left.challenge.map StepUpChallenge.key) (right.challenge.map StepUpChallenge.key) ||
  clash (left.link.map ProofChallenge.key) (right.link.map ProofChallenge.key) ||
  clash (left.link.map ProofChallenge.challengeKey) (right.link.map ProofChallenge.challengeKey) ||
  clash (left.proof.map StepUpProof.key) (right.proof.map StepUpProof.key)

end StepUpWrites

def StepUpStore.write (store : StepUpStore PublicKey) (writes : StepUpWrites) :
    StepUpStore PublicKey where
  factors := store.factors
  challenges := store.challenges.write writes.challenge
  proofChallenges := store.proofChallenges.write writes.link
  proofs := store.proofs.write writes.proof

/-- The proof says of its challenge what the challenge says of itself. -/
structure StepUpChallenge.Yields (challenge : StepUpChallenge) (proof : StepUpProof) : Prop where
  tenantId : proof.tenantId = challenge.tenantId
  subjectId : proof.subjectId = challenge.subjectId
  action : proof.action = challenge.action
  sessionIdHashSha256 : proof.sessionIdHashSha256 = challenge.sessionIdHashSha256
  verifiedAt : challenge.verifiedAt = some proof.verifiedAt

/-- A change that one statement of a call may make to the committed rows. -/
inductive StoreChange (signed : StepUpChallenge → Prop) (store : StepUpStore PublicKey) :
    StepUpWrites → Prop
  | unchanged : StoreChange signed store .nothing
  | issued {challenge : StepUpChallenge} (unanswered : challenge.verifiedAt = none)
      (new : store.challenges.get? challenge.key = none) :
      StoreChange signed store ⟨some challenge, none, none⟩
  | answered {challenge : StepUpChallenge} {link : ProofChallenge} {proof : StepUpProof}
      (found : store.challenges.get? challenge.key = some challenge)
      (unanswered : challenge.verifiedAt = none) (holder : signed challenge)
      (answer :
        { challenge with verifiedAt := some proof.verifiedAt : StepUpChallenge }.Yields proof)
      (unconsumed : proof.consumedAt = none) (newProof : store.proofs.get? proof.key = none)
      (newLink : store.proofChallenges.get? link.key = none) (same : link.key = proof.key)
      (links : link.challengeKey = challenge.key)
      (single : ∀ row ∈ store.proofChallenges, row.challengeKey ≠ challenge.key) :
      StoreChange signed store
        ⟨some { challenge with verifiedAt := some proof.verifiedAt }, some link, some proof⟩
  | consumed {proof : StepUpProof} {consumedAt : Timestamp} {requestId : RequestId}
      (found : store.proofs.get? proof.key = some proof) (unconsumed : proof.consumedAt = none) :
      StoreChange signed store ⟨none, none, some { proof with
        consumedAt := some consumedAt
        consumedByRequestId := some requestId }⟩

variable {signed : StepUpChallenge → Prop} {store : StepUpStore PublicKey}
  {writes left right : StepUpWrites}

theorem StoreChange.mono {weaker : StepUpChallenge → Prop}
    (implies : ∀ challenge, signed challenge → weaker challenge)
    (change : StoreChange signed store writes) : StoreChange weaker store writes := by
  cases change with
  | unchanged => exact .unchanged
  | issued unanswered new => exact .issued unanswered new
  | answered found unanswered holder answer unconsumed newProof newLink same links single =>
      exact .answered found unanswered (implies _ holder) answer unconsumed newProof newLink same
        links single
  | consumed found unconsumed => exact .consumed found unconsumed

/-- Only the challenges and the proofs matter. -/
theorem StoreChange.of_tables {other : StepUpStore PublicKey}
    (change : StoreChange signed store writes) (challenges : other.challenges = store.challenges)
    (links : other.proofChallenges = store.proofChallenges)
    (proofs : other.proofs = store.proofs) : StoreChange signed other writes := by
  cases change with
  | unchanged => exact .unchanged
  | issued unanswered new => exact .issued unanswered (challenges ▸ new)
  | answered found unanswered holder answer unconsumed newProof newLink same links_ single =>
      exact .answered (challenges ▸ found) unanswered holder answer unconsumed (proofs ▸ newProof)
        (links ▸ newLink) same links_ (links ▸ single)
  | consumed found unconsumed => exact .consumed (proofs ▸ found) unconsumed

namespace StepUpWrites

theorem clash_symm {Key : Type} [DecidableEq Key] {left right : Option Key}
    (clashes : clash left right = true) : clash right left = true := by
  simp only [clash, Bool.and_eq_true_iff, decide_eq_true_iff] at clashes ⊢
  have ⟨present, same⟩ := clashes
  exact ⟨same ▸ present, same.symm⟩

theorem conflicts_symm (conflict : left.conflicts right = true) : right.conflicts left = true := by
  simp only [conflicts, Bool.or_eq_true_iff] at conflict ⊢
  exact conflict.imp (Or.imp (Or.imp clash_symm clash_symm) clash_symm) clash_symm

/-- Transactions that do not lock each other out write different keys. -/
structure Apart (left right : StepUpWrites) : Prop where
  challenge : ∀ k, left.challenge.map StepUpChallenge.key = some k →
    right.challenge.map StepUpChallenge.key ≠ some k
  link : ∀ k, left.link.map ProofChallenge.key = some k →
    right.link.map ProofChallenge.key ≠ some k
  challengeOfLink : ∀ k, left.link.map ProofChallenge.challengeKey = some k →
    right.link.map ProofChallenge.challengeKey ≠ some k
  proof : ∀ k, left.proof.map StepUpProof.key = some k → right.proof.map StepUpProof.key ≠ some k

theorem apart_of_clash {Key : Type} [DecidableEq Key] {left right : Option Key}
    (free : clash left right = false) (k : Key) (mine : left = some k) : right ≠ some k := by
  rintro rfl
  subst mine
  simp [clash] at free

theorem apart_of_conflicts (free : left.conflicts right = false) : Apart left right := by
  simp only [conflicts, Bool.or_eq_false_iff] at free
  have ⟨⟨⟨challenge, link⟩, challengeOfLink⟩, proof⟩ := free
  exact ⟨apart_of_clash challenge, apart_of_clash link, apart_of_clash challengeOfLink,
    apart_of_clash proof⟩

end StepUpWrites

/-- A pending change still fits after the commit of one that it does not conflict with. -/
theorem StoreChange.frame (change : StoreChange signed store left)
    (free : left.conflicts right = false) : StoreChange signed (store.write right) left := by
  have apart := StepUpWrites.apart_of_conflicts free
  cases change with
  | unchanged => exact .unchanged
  | issued unanswered new =>
      apply StoreChange.issued unanswered
      exact (Table.get?_write_of_ne _ (apart.challenge _ rfl)).trans new
  | consumed found unconsumed =>
      have kept := (Table.get?_write_of_ne store.proofs (apart.proof _ rfl)).trans found
      exact .consumed kept unconsumed
  | answered found unanswered holder answer unconsumed newProof newLink same links single =>
      have kept := (Table.get?_write_of_ne store.challenges (apart.challenge _ rfl)).trans found
      apply StoreChange.answered kept unanswered holder answer unconsumed
      · exact (Table.get?_write_of_ne _ (apart.proof _ rfl)).trans newProof
      · exact (Table.get?_write_of_ne _ (apart.link _ rfl)).trans newLink
      · exact same
      · exact links
      · intro row member
        have cases_ := Table.mem_write member
        cases cases_ with
        | inl written =>
            intro equal
            apply apart.challengeOfLink _ rfl
            rw [written, Option.map_some, equal, links]
        | inr old => exact single row old

/-- The locks of the tables of step-up authentication. -/
def stepUpLocks (PublicKey : Type) (signed : StepUpChallenge → Prop) :
    RowLocks (StepUpStore PublicKey) StepUpWrites where
  fits := StoreChange signed
  commit := StepUpStore.write
  conflicts := fun left right => left.conflicts right = true
  symm := StepUpWrites.conflicts_symm
  frame := fun change _ free => change.frame (Bool.eq_false_iff.mpr free)

/-- Every proof answers one challenge, which its holder had signed, and no challenge has two. -/
structure StoreSound (signed : StepUpChallenge → Prop) (store : StepUpStore PublicKey) : Prop where
  linked : ∀ proof ∈ store.proofs, ∃ link ∈ store.proofChallenges, link.key = proof.key
  answered : ∀ link ∈ store.proofChallenges, ∃ proof ∈ store.proofs, proof.key = link.key ∧
    ∃ challenge ∈ store.challenges, challenge.key = link.challengeKey ∧
      challenge.Yields proof ∧ signed challenge
  single : ∀ first ∈ store.proofChallenges, ∀ second ∈ store.proofChallenges,
    first.challengeKey = second.challengeKey → first = second

theorem StoreSound.mono {weaker : StepUpChallenge → Prop} (sound : StoreSound signed store)
    (implies : ∀ challenge, signed challenge → weaker challenge) : StoreSound weaker store where
  linked := sound.linked
  answered link member := by
    have ⟨proof, stored, same, challenge, kept, key, answers, holder⟩ := sound.answered link member
    exact ⟨proof, stored, same, challenge, kept, key, answers, implies _ holder⟩
  single := sound.single

theorem mem_write_of_new {Row Key : Type} {key : Row → Key} [DecidableEq Key]
    {table : Table Row key} {row old : Row} (new : table.get? (key row) = none)
    (member : old ∈ table) : old ∈ table.write (some row) := by
  apply Table.mem_write_of_ne member
  intro same
  exact (Table.get?_eq_none table _).mp new old member (Option.some.inj same).symm

theorem mem_write_self {Row Key : Type} {key : Row → Key} [DecidableEq Key]
    (table : Table Row key) (row : Row) : row ∈ table.write (some row) :=
  Table.get?_mem (Table.get?_write_self table row)

theorem StoreSound.write (sound : StoreSound signed store)
    (insensitive : ∀ challenge verifiedAt, signed challenge →
      signed { challenge with verifiedAt := verifiedAt })
    (change : StoreChange signed store writes) : StoreSound signed (store.write writes) := by
  cases change with
  | unchanged => exact sound
  | issued unanswered new =>
      refine ⟨sound.linked, ?_, sound.single⟩
      intro link member
      have ⟨proof, stored, same, challenge, kept, key, answers, holder⟩ :=
        sound.answered link member
      exact ⟨proof, stored, same, challenge, mem_write_of_new new kept, key, answers, holder⟩
  | consumed found unconsumed =>
      rename_i proof consumedAt requestId
      have replaced : ∀ old ∈ store.proofs, ∃ row ∈ store.proofs.write (some { proof with
          consumedAt := some consumedAt, consumedByRequestId := some requestId }),
          row.key = old.key ∧ ∀ challenge : StepUpChallenge, challenge.Yields old →
            challenge.Yields row := by
        intro old member
        by_cases mine : old.key = proof.key
        · have same : old = proof := Table.unique _ member (Table.get?_mem found) mine
          subst same
          refine ⟨_, mem_write_self _ _, rfl, ?_⟩
          intro challenge answers
          exact ⟨answers.tenantId, answers.subjectId, answers.action,
            answers.sessionIdHashSha256, answers.verifiedAt⟩
        · refine ⟨old, Table.mem_write_of_ne member ?_, rfl, fun _ answers => answers⟩
          intro same
          exact mine (Option.some.inj same).symm
      refine ⟨?_, ?_, sound.single⟩
      · intro row member
        cases Table.mem_write member with
        | inl written =>
            cases written
            exact sound.linked proof (Table.get?_mem found)
        | inr old => exact sound.linked row old
      · intro link member
        have ⟨old, stored, same, challenge, kept, key, answers, holder⟩ :=
          sound.answered link member
        have ⟨row, written, sameKey, keeps⟩ := replaced old stored
        exact ⟨row, written, sameKey.trans same, challenge, kept, key, keeps challenge answers,
          holder⟩
  | answered found unanswered holder answer unconsumed newProof newLink same links single =>
      rename_i challenge link proof
      refine ⟨?_, ?_, ?_⟩
      · intro row member
        cases Table.mem_write member with
        | inl written =>
            cases written
            exact ⟨link, mem_write_self _ _, same⟩
        | inr old =>
            have ⟨other, kept, key⟩ := sound.linked row old
            exact ⟨other, mem_write_of_new newLink kept, key⟩
      · intro other member
        cases Table.mem_write member with
        | inl written =>
            cases written
            exact ⟨proof, mem_write_self _ _, same.symm, _, mem_write_self _ _, links.symm, answer,
              insensitive challenge _ holder⟩
        | inr old =>
            have ⟨row, stored, key, answered, kept, of_, answers, signs⟩ := sound.answered other old
            refine ⟨row, mem_write_of_new newProof stored, key, answered, ?_, of_, answers, signs⟩
            apply Table.mem_write_of_ne kept
            intro equal
            apply single other old
            rw [← of_]
            exact (Option.some.inj equal).symm
      · intro first member second member' equal
        cases Table.mem_write member with
        | inl written =>
            cases written
            cases Table.mem_write member' with
            | inl written' =>
                cases written'
                rfl
            | inr old => exact absurd (equal.symm.trans links) (single second old)
        | inr old =>
            cases Table.mem_write member' with
            | inl written' =>
                cases written'
                exact absurd (equal.trans links) (single first old)
            | inr old' => exact sound.single first old second old' equal

/-! What the statements of the calls do. -/

section Statements

variable {session : Session}

theorem issueStepUpChallenge_change {p : ChallengeIssue} {after : StepUpStore PublicKey}
    {challenge : StepUpChallenge}
    (issued : issueStepUpChallenge session p store = .ok (after, challenge)) :
    StoreChange signed store ⟨some challenge, none, none⟩ := by
  simp only [issueStepUpChallenge, Checked.bind_eq_ok, Checked.requireSome_eq_ok,
    Checked.pure_eq_ok, Prod.mk.injEq] at issued
  have ⟨_, _, challenges, inserted, _, same⟩ := issued
  have ⟨new, _⟩ := Table.insertNew_eq_some.mp inserted
  subst same
  exact .issued rfl new

/-- An answered lookup returns an open challenge of the actor with the key of its factor. -/
theorem getStepUpChallenge_found {challengeId : StepUpChallengeId} {challenge : StepUpChallenge}
    {publicKey : PublicKey}
    (found : getStepUpChallenge session challengeId store = .ok (some (challenge, publicKey))) :
    store.challenges.get? (session.tenantId, challengeId) = some challenge ∧
      ∃ factor ∈ store.factors, factor.publicKey = publicKey ∧
        factor.key = (challenge.tenantId, challenge.subjectId, challenge.factorId) := by
  simp only [getStepUpChallenge, Checked.bind_eq_ok, Checked.pure_eq_ok] at found
  obtain ⟨_, _, rows⟩ := found
  obtain ⟨row, kept, rest⟩ := Option.bind_eq_some_iff.mp rows
  obtain ⟨factor, active, same⟩ := Option.bind_eq_some_iff.mp rest
  cases same
  obtain ⟨stored, mine⟩ := Option.filter_eq_some_iff.mp kept
  obtain ⟨enrolled, _⟩ := Option.filter_eq_some_iff.mp active
  refine ⟨stored, factor, Table.get?_mem enrolled, rfl, ?_⟩
  have tenant : challenge.tenantId = session.tenantId := congrArg Prod.fst (Table.get?_key stored)
  have subject : challenge.subjectId = session.subjectId := by
    simp only [Bool.and_eq_true_iff, decide_eq_true_iff] at mine
    exact mine.1.1
  rw [tenant, subject]
  exact Table.get?_key enrolled

theorem completeStepUpChallenge_change {p : ChallengeCompletion} {after : StepUpStore PublicKey}
    {proof : StepUpProof} {challenge : StepUpChallenge}
    (present : store.challenges.get? (session.tenantId, p.challengeId) = some challenge)
    (holder : signed challenge)
    (completed : completeStepUpChallenge session p store = .ok (after, proof)) :
    ∃ answered, after.challenges.get? (session.tenantId, p.challengeId) = some answered ∧
      StoreChange signed store ⟨some answered,
        some ⟨session.tenantId, p.proofIdHashSha256, p.challengeId⟩, some proof⟩ := by
  simp only [completeStepUpChallenge, Checked.bind_eq_ok, Checked.require_eq_ok,
    Checked.requireSome_eq_ok, Checked.pure_eq_ok, Prod.mk.injEq, exists_const] at completed
  obtain ⟨row, kept, ⟨unanswered, _⟩, proofs, inserted, single, links, linked, stored, same⟩ :=
    completed
  obtain ⟨found, mine⟩ := Option.filter_eq_some_iff.mp kept
  have equal : row = challenge := Option.some.inj (found.symm.trans present)
  subst equal
  obtain ⟨newProof, _⟩ := Table.insertNew_eq_some.mp inserted
  obtain ⟨newLink, _⟩ := Table.insertNew_eq_some.mp linked
  have key : row.key = (session.tenantId, p.challengeId) := Table.get?_key found
  have tenant : session.tenantId = row.tenantId := (congrArg Prod.fst key).symm
  have subject : session.subjectId = row.subjectId := (decide_eq_true_iff.mp mine).symm
  refine ⟨{ row with verifiedAt := some p.verifiedAt }, ?_, ?_⟩
  · rw [← stored, ← key]
    exact (Table.get?_upsert _ _ _).trans (if_pos rfl)
  · subst same
    have own : store.challenges.get? row.key = some row := by rw [key, found]
    refine StoreChange.answered own unanswered holder
      ⟨tenant, subject, rfl, rfl, rfl⟩ rfl newProof newLink rfl key.symm ?_
    intro other member equal
    apply single other member
    rw [key] at equal
    exact Prod.mk.inj equal

/-- A consumed proof had not been consumed before, and its row says by which request it was. -/
theorem consumeStepUpProof_consumed {p : ProofPresentation}
    {proofs : Table StepUpProof StepUpProof.key} {proof : StepUpProof}
    (consumed : consumeStepUpProof session p store.proofs = .ok (proofs, some proof)) :
    store.proofs.get? proof.key = some proof ∧ proof.key = (session.tenantId, p.proofIdHashSha256) ∧
      proof.consumable session p = true ∧
      proofs.get? proof.key = some { proof with
        consumedAt := some p.consumedAt
        consumedByRequestId := some p.requestId } := by
  simp only [consumeStepUpProof, Checked.bind_eq_ok, Checked.require_eq_ok,
    exists_const] at consumed
  obtain ⟨_, rest⟩ := consumed
  split at rest
  · cases rest
  · rename_i row kept
    cases rest
    obtain ⟨found, consumable⟩ := Option.filter_eq_some_iff.mp kept
    have key : proof.key = (session.tenantId, p.proofIdHashSha256) := Table.get?_key found
    rw [← key] at found
    refine ⟨found, key, consumable, ?_⟩
    have written : store.proofs.get? { proof with
        consumedAt := some p.consumedAt
        consumedByRequestId := some p.requestId : StepUpProof }.key = some proof := found
    exact (Table.get?_replace store.proofs written _).trans (if_pos rfl)

end Statements

end TenantTrust.Audit
