import TenantTrust.Api.StepUpTransactions
import TenantTrust.Api.Suspension

/-! The invariant of step-up authentication under every interleaving of its transactions. -/

namespace TenantTrust.Api

open Library Identity Audit Policy Orchestration

variable {PublicKey Signature : Type}

/-- The holder of the factor that the challenge is for has signed it. -/
def SignedBy (factors : Table (StepUpFactor PublicKey) StepUpFactor.key)
    (signatures : List (PublicKey × SigningPayload × Timestamp)) (challenge : StepUpChallenge) :
    Prop :=
  ∃ factor ∈ factors, factor.key = (challenge.tenantId, challenge.subjectId, challenge.factorId) ∧
    ∃ payload at_, createStepUpSigningPayload challenge = .ok payload ∧
      (factor.publicKey, payload, at_) ∈ signatures

theorem signedBy_insensitive {factors : Table (StepUpFactor PublicKey) StepUpFactor.key}
    {signatures : List (PublicKey × SigningPayload × Timestamp)} (challenge : StepUpChallenge)
    (verifiedAt : Option Timestamp) (signed : SignedBy factors signatures challenge) :
    SignedBy factors signatures { challenge with verifiedAt := verifiedAt } := signed

theorem SignedBy.mono {factors more : Table (StepUpFactor PublicKey) StepUpFactor.key}
    {signatures later : List (PublicKey × SigningPayload × Timestamp)}
    {challenge : StepUpChallenge} (signed : SignedBy factors signatures challenge)
    (enrolled : ∀ factor ∈ factors, factor ∈ more)
    (made : ∀ signature ∈ signatures, signature ∈ later) : SignedBy more later challenge := by
  have ⟨factor, member, key, payload, at_, formed, kept⟩ := signed
  exact ⟨factor, enrolled factor member, key, payload, at_, formed, made _ kept⟩

/-- The proof that a request carries to its decision is the one that it consumes. -/
inductive Presents (r : ProtectedRequest) : Option StepUpInput → StepUpWrites → Prop
  | nothing : Presents r none .nothing
  | proof {presented : StepUpPresentation} {proof : StepUpProof}
      (presentation : r.policyRequest.stepUpPresentation = some presented)
      (key : proof.key = (r.authentication.tenantId, presented.proofIdHashSha256))
      (subjectId : proof.subjectId = r.authentication.subjectId)
      (session : proof.sessionIdHashSha256 = presented.sessionIdHashSha256)
      (action : proof.action = r.action.text) :
      Presents r (some (stepUpInput proof)) ⟨none, none, some { proof with
        consumedAt := some r.times.stepUpAt
        consumedByRequestId := some r.policyRequest.requestId }⟩

/-- What a transaction has written at each stage of its call. -/
inductive Staged (signedKey : TenantId × StepUpChallengeId → Prop) :
    StepUpCall Signature → StepUpStage → StepUpWrites → Prop
  | bound {call : StepUpCall Signature} : Staged signedKey call .bound .nothing
  | entered {call : StepUpCall Signature} {context : TenantContext} {state : RequestState} :
      Staged signedKey call (.entered context state) .nothing
  | issued {call : ActorCall} {action : PolicyAction} {factorId : StepUpFactorId}
      {random : ChallengeRandomness} {challenge : StepUpChallenge} :
      Staged signedKey (.issue call action factorId random) .done ⟨some challenge, none, none⟩
  | answered {call : ActorCall} {challengeId : StepUpChallengeId} {signature : Signature}
      {hash : Sha256Digest} {state : RequestState}
      (signed : signedKey (call.authentication.tenantId, challengeId)) :
      Staged signedKey (.verify call challengeId signature hash) (.answered state) .nothing
  | verified {call : ActorCall} {challengeId : StepUpChallengeId} {signature : Signature}
      {hash : Sha256Digest} {challenge : StepUpChallenge} {link : ProofChallenge}
      {proof : StepUpProof} : Staged signedKey (.verify call challengeId signature hash) .done
        ⟨some challenge, some link, some proof⟩
  | presented {r : ProtectedRequest} {context : TenantContext} {state : RequestState}
      {eligibility : RoleActionRule} {stepUp : Option StepUpInput} {writes : StepUpWrites}
      (presents : Presents r stepUp writes) :
      Staged signedKey (.request r) (.presented context state eligibility stepUp) writes
  | decided {r : ProtectedRequest} {context : TenantContext} {state : RequestState}
      {eligibility : RoleActionRule} {stepUp : Option StepUpInput} {writes : StepUpWrites}
      {evaluation : Evaluation} (presents : Presents r stepUp writes)
      (decides : decide r.environment r.authentication context state eligibility r.action
        r.policyRequest stepUp = .ok evaluation) :
      Staged signedKey (.request r) (.decided evaluation) writes
  | recovered {tenantId : TenantId} {subjectId : SubjectId} {p : ProofPresentation}
      {proof : StepUpProof} :
      Staged signedKey (.recover tenantId subjectId p) .done ⟨none, none, some proof⟩

theorem Staged.mono {signedKey weaker : TenantId × StepUpChallengeId → Prop}
    {call : StepUpCall Signature} {stage : StepUpStage} {writes : StepUpWrites}
    (staged : Staged signedKey call stage writes) (implies : ∀ key, signedKey key → weaker key) :
    Staged weaker call stage writes := by
  cases staged with
  | bound => exact .bound
  | entered => exact .entered
  | issued => exact .issued
  | answered signed => exact .answered (implies _ signed)
  | verified => exact .verified
  | presented presents => exact .presented presents
  | decided presents decides => exact .decided presents decides
  | recovered => exact .recovered

/-- The proof row that the transaction consumes. -/
def StepUpTransaction.consumes (t : StepUpTransaction Signature) : Option StepUpProof :=
  match t.call with
  | .request _ | .recover _ _ _ => t.writes.proof
  | .issue _ _ _ _ | .verify _ _ _ _ => none

namespace StepUpDeployment

def Signed (d : StepUpDeployment PublicKey Signature) : StepUpChallenge → Prop :=
  SignedBy d.store.factors d.signatures

def SignedKey (d : StepUpDeployment PublicKey Signature) (key : TenantId × StepUpChallengeId) :
    Prop :=
  ∃ challenge, d.store.challenges.get? key = some challenge ∧ d.Signed challenge

def pending (d : StepUpDeployment PublicKey Signature) (connection : Nat) : Option StepUpWrites :=
  (d.transactions.get? connection).map StepUpTransaction.writes

def consumedKeys (d : StepUpDeployment PublicKey Signature) : List (TenantId × Sha256Digest) :=
  d.committed.filterMap fun t => t.consumes.map StepUpProof.key

end StepUpDeployment

/-- A signature that a call submits was made before. -/
def Honest (verify : PublicKey → SigningPayload → Signature → Bool)
    (signatures : List (PublicKey × SigningPayload × Timestamp)) :
    StepUpCall Signature → Prop
  | .verify _ _ signature _ => ∀ publicKey payload, verify publicKey payload signature = true →
      ∃ at_, (publicKey, payload, at_) ∈ signatures
  | _ => True

theorem Honest.mono {verify : PublicKey → SigningPayload → Signature → Bool}
    {signatures later : List (PublicKey × SigningPayload × Timestamp)}
    {call : StepUpCall Signature} (honest : Honest verify signatures call)
    (made : ∀ signature ∈ signatures, signature ∈ later) : Honest verify later call := by
  cases call with
  | verify call challengeId signature hash =>
      intro publicKey payload accepted
      have ⟨at_, kept⟩ := honest publicKey payload accepted
      exact ⟨at_, made _ kept⟩
  | _ => trivial

structure StepUpDeployment.Sound (verify : PublicKey → SigningPayload → Signature → Bool)
    (d : StepUpDeployment PublicKey Signature) : Prop where
  store : StoreSound d.Signed d.store
  held : (stepUpLocks PublicKey d.Signed).Held d.store d.pending
  staged : ∀ t ∈ d.transactions, Staged d.SignedKey t.call t.stage t.writes
  honest : ∀ t ∈ d.transactions, Honest verify d.signatures t.call
  kept : ∀ t ∈ d.committed, Staged d.SignedKey t.call t.stage t.writes ∧
    ∀ proof, t.consumes = some proof → proof ∈ d.store.proofs ∧ proof.consumedAt ≠ none
  once : d.consumedKeys.Nodup
  origin : ∀ proof ∈ d.store.proofs, proof.consumedAt ≠ none → proof.key ∈ d.consumedKeys

section Statements

variable {verify : PublicKey → SigningPayload → Signature → Bool}
  {d : StepUpDeployment PublicKey Signature} {session observed : Session}

theorem liftStepUp_eq_ok {α : Type} {step : Except StepUpAuthenticationError α} {value : α} :
    liftStepUp step = .ok value ↔ step = .ok value := by
  cases step with
  | ok other => simp [liftStepUp]
  | error failure => simp [liftStepUp]

theorem consumePresentation_change {p : ProofPresentation} {proof : StepUpProof}
    {writes : StepUpWrites}
    (consumed : consumePresentation session p d.store = .ok (proof, writes)) :
    proof.key = (session.tenantId, p.proofIdHashSha256) ∧ proof.consumable session p = true ∧
      writes = ⟨none, none, some { proof with
        consumedAt := some p.consumedAt
        consumedByRequestId := some p.requestId }⟩ ∧
      StoreChange d.Signed d.store writes := by
  simp only [consumePresentation, Checked.bind_eq_ok, liftSql_eq_ok, Checked.requireSome_eq_ok,
    Checked.pure_eq_ok, Prod.exists, Prod.mk.injEq] at consumed
  obtain ⟨proofs, consumption, found, row, taken, same, written⟩ := consumed
  subst same
  subst taken
  obtain ⟨present, key, consumable, after⟩ := consumeStepUpProof_consumed found
  rw [after] at written
  have unconsumed : row.consumedAt = none := by
    simp only [StepUpProof.consumable, Bool.and_eq_true_iff, decide_eq_true_iff] at consumable
    exact consumable.1.1.2
  refine ⟨key, consumable, written.symm, ?_⟩
  rw [← written]
  exact .consumed present unconsumed

/-- The signature check of a call that submits what the holder made leaves a signed challenge. -/
theorem signedKey_of_verified {challengeId : StepUpChallengeId} {challenge : StepUpChallenge}
    {publicKey : PublicKey} {signature : Signature} {payload : SigningPayload}
    (honest : ∀ publicKey payload, verify publicKey payload signature = true →
      ∃ at_, (publicKey, payload, at_) ∈ d.signatures)
    (found : getStepUpChallenge session challengeId d.store = .ok (some (challenge, publicKey)))
    (verified : verifyStepUpChallengeSignature verify challenge publicKey signature =
      .ok payload) : d.SignedKey (session.tenantId, challengeId) := by
  obtain ⟨present, factor, enrolled, holds, key⟩ := getStepUpChallenge_found found
  simp only [verifyStepUpChallengeSignature, Checked.bind_eq_ok, Checked.require_eq_ok,
    Checked.pure_eq_ok, exists_const] at verified
  obtain ⟨formed, created, accepted, _⟩ := verified
  obtain ⟨at_, made⟩ := honest publicKey formed accepted
  refine ⟨challenge, present, factor, enrolled, key, formed, at_, created, ?_⟩
  rw [holds]
  exact made

/-- A statement writes rows that fit the committed ones, and brings its call to the next stage. -/
theorem advance_change {t : StepUpTransaction Signature} {stage : StepUpStage}
    {writes : StepUpWrites} (staged : Staged d.SignedKey t.call t.stage t.writes)
    (fits : StoreChange d.Signed d.store t.writes) (honest : Honest verify d.signatures t.call)
    (advanced : t.advance verify observed d.store = .ok (stage, writes)) :
    Staged d.SignedKey t.call stage writes ∧ StoreChange d.Signed d.store writes := by
  obtain ⟨connection, call, current, written⟩ := t
  cases staged with
  | bound =>
      cases call with
      | recover tenantId subjectId p =>
          simp only [StepUpTransaction.advance, Checked.bind_eq_ok, Checked.pure_eq_ok,
            Prod.exists, Prod.mk.injEq] at advanced
          obtain ⟨proof, rows, consumed, next, same⟩ := advanced
          subst next
          subst same
          obtain ⟨_, _, form, change⟩ := consumePresentation_change consumed
          refine ⟨?_, change⟩
          rw [form]
          exact .recovered
      | issue => cases advanced
      | verify => cases advanced
      | request => cases advanced
  | entered =>
      cases call with
      | issue call action factorId random =>
          simp only [StepUpTransaction.advance, Checked.bind_eq_ok, liftSql_eq_ok,
            Checked.pure_eq_ok, Prod.exists, Prod.mk.injEq] at advanced
          obtain ⟨_, _, _, _, _, _, _, challenge, issued, next, same⟩ := advanced
          subst next
          subst same
          exact ⟨.issued, issueStepUpChallenge_change issued⟩
      | verify call challengeId signature hash =>
          simp only [StepUpTransaction.advance, Checked.bind_eq_ok, liftSql_eq_ok,
            liftStepUp_eq_ok, Checked.requireSome_eq_ok, Checked.pure_eq_ok, Prod.exists,
            Prod.mk.injEq] at advanced
          obtain ⟨_, _, _, found, challenge, publicKey, present, _, _, payload, verified, next,
            same⟩ := advanced
          subst next
          subst same
          subst present
          exact ⟨.answered (signedKey_of_verified honest found verified), .unchanged⟩
      | request r =>
          simp only [StepUpTransaction.advance, Checked.bind_eq_ok] at advanced
          obtain ⟨_, _, rest⟩ := advanced
          split at rest
          · cases rest
            exact ⟨.presented .nothing, .unchanged⟩
          · rename_i presented sent
            simp only [Checked.bind_eq_ok, Checked.pure_eq_ok, Prod.exists,
              Prod.mk.injEq] at rest
            obtain ⟨_, _, proof, rows, consumed, next, same⟩ := rest
            subst next
            subst same
            obtain ⟨key, consumable, form, change⟩ := consumePresentation_change consumed
            simp only [StepUpProof.consumable, Bool.and_eq_true_iff, decide_eq_true_iff]
              at consumable
            obtain ⟨⟨⟨⟨⟨subject, hash⟩, action⟩, _⟩, _⟩, _⟩ := consumable
            have presentation : r.policyRequest.stepUpPresentation = some presented := by
              split at sent
              · exact sent
              · cases sent
            refine ⟨?_, change⟩
            rw [form]
            exact .presented (.proof presentation key subject hash action)
      | recover => cases advanced
  | answered signed =>
      rename_i call challengeId signature hash state
      simp only [StepUpTransaction.advance, Checked.bind_eq_ok, liftSql_eq_ok,
        Checked.pure_eq_ok, Prod.exists, Prod.mk.injEq] at advanced
      obtain ⟨_, _, after, proof, completed, next, same⟩ := advanced
      obtain ⟨challenge, present, holder⟩ := signed
      obtain ⟨answered, row, change⟩ := completeStepUpChallenge_change present holder completed
      subst next
      rw [← same]
      have read : after.challenges.get?
          (((StepUpCall.verify call challengeId signature hash).session observed).tenantId,
            challengeId) = some answered := row
      rw [read]
      exact ⟨.verified, change⟩
  | presented presents =>
      simp only [StepUpTransaction.advance, Checked.bind_eq_ok, Checked.pure_eq_ok,
        Prod.mk.injEq] at advanced
      obtain ⟨evaluation, decides, _, _, next, same⟩ := advanced
      subst next
      subst same
      exact ⟨.decided presents decides, fits⟩
  | issued => cases advanced
  | verified => cases advanced
  | decided => cases advanced
  | recovered => cases advanced

end Statements

/-- A transaction that consumes a proof changes an unconsumed row; what another one writes is not
consumed. -/
inductive Consumption (store : StepUpStore PublicKey) (t : StepUpTransaction Signature) : Prop
  | consumes {proof old : StepUpProof} (written : t.writes.proof = some proof)
      (taken : t.consumes = some proof)
      (present : store.proofs.get? proof.key = some old) (unconsumed : old.consumedAt = none)
      (consumed : proof.consumedAt ≠ none) : Consumption store t
  | leaves (spares : t.consumes = none) (new : ∀ proof, t.writes.proof = some proof →
      proof.consumedAt = none ∧ store.proofs.get? proof.key = none) : Consumption store t

theorem consumption_of_proof {signed : StepUpChallenge → Prop}
    {store : StepUpStore PublicKey} {proof : StepUpProof} {t : StepUpTransaction Signature}
    (change : StoreChange signed store ⟨none, none, some proof⟩)
    (written : t.writes.proof = some proof) (taken : t.consumes = some proof) :
    Consumption store t := by
  cases change with
  | consumed found unconsumed => exact .consumes written taken found unconsumed nofun

theorem Staged.consumption {signedKey : TenantId × StepUpChallengeId → Prop}
    {signed : StepUpChallenge → Prop} {store : StepUpStore PublicKey}
    {t : StepUpTransaction Signature} (staged : Staged signedKey t.call t.stage t.writes)
    (change : StoreChange signed store t.writes) : Consumption store t := by
  obtain ⟨connection, call, stage, writes⟩ := t
  have presented : ∀ {r : ProtectedRequest} {stepUp : Option StepUpInput}, call = .request r →
      Presents r stepUp writes → Consumption store ⟨connection, call, stage, writes⟩ := by
    intro r stepUp same presents
    subst same
    cases presents with
    | nothing => exact .leaves rfl nofun
    | proof => exact consumption_of_proof change rfl rfl
  cases staged with
  | bound => cases call <;> exact .leaves rfl nofun
  | entered => cases call <;> exact .leaves rfl nofun
  | issued => exact .leaves rfl nofun
  | answered => exact .leaves rfl nofun
  | verified =>
      refine .leaves rfl ?_
      intro proof written
      cases written
      cases change with
      | answered _ _ _ _ unconsumed newProof => exact ⟨unconsumed, newProof⟩
  | presented presents => exact presented rfl presents
  | decided presents => exact presented rfl presents
  | recovered => exact consumption_of_proof change rfl rfl

namespace StepUpDeployment

variable {verify : PublicKey → SigningPayload → Signature → Bool}
  {d : StepUpDeployment PublicKey Signature} {t : StepUpTransaction Signature}

theorem pending_put (connection : Nat) : (d.put t).pending connection =
    if connection = t.connection then some t.writes else d.pending connection := by
  have lookup := Table.get?_upsert d.transactions t connection
  by_cases mine : connection = t.connection
  · rw [if_pos mine]
    rw [if_pos mine.symm] at lookup
    rw [pending, put, lookup, Option.map_some]
  · rw [if_neg mine]
    rw [if_neg fun same => mine same.symm] at lookup
    rw [pending, put, lookup, pending]

theorem pending_drop (connection other : Nat) : (d.drop connection).pending other =
    if other = connection then none else d.pending other := by
  have lookup := Table.get?_delete d.transactions connection other
  rw [pending, drop, lookup]
  split
  · rfl
  · rfl

theorem mem_put {other : StepUpTransaction Signature} (member : other ∈ (d.put t).transactions) :
    other = t ∨ other ∈ d.transactions := by
  have found := Table.get?_of_mem member
  rw [put, Table.get?_upsert] at found
  split at found
  · exact Or.inl (Option.some.inj found).symm
  · exact Or.inr (Table.get?_mem found)

theorem mem_drop {connection : Nat} {other : StepUpTransaction Signature}
    (member : other ∈ (d.drop connection).transactions) : other ∈ d.transactions :=
  List.mem_of_mem_filter member

theorem pending_of_mem (member : t ∈ d.transactions) : d.pending t.connection = some t.writes := by
  rw [pending, Table.get?_of_mem member, Option.map_some]

theorem exists_of_pending {connection : Nat} {writes : StepUpWrites}
    (found : d.pending connection = some writes) :
    ∃ other ∈ d.transactions, other.connection = connection ∧ other.writes = writes := by
  have ⟨other, present, same⟩ := Option.map_eq_some_iff.mp found
  exact ⟨other, Table.get?_mem present, Table.get?_key present, same⟩

theorem Sound.put (sound : d.Sound verify) (staged : Staged d.SignedKey t.call t.stage t.writes)
    (honest : Honest verify d.signatures t.call) (fits : StoreChange d.Signed d.store t.writes)
    (free : ∀ other ∈ d.transactions, other.connection ≠ t.connection →
      t.writes.conflicts other.writes = false) : (d.put t).Sound verify where
  store := sound.store
  held := by
    apply sound.held.put fits _ pending_put
    intro connection writes other found conflict
    have ⟨held, member, same, written⟩ := exists_of_pending found
    have apart := free held member fun equal => other (equal.symm.trans same)
    rw [written] at apart
    exact Bool.false_ne_true (apart.symm.trans conflict)
  staged other member := by
    cases mem_put member with
    | inl same =>
        rw [same]
        exact staged
    | inr old => exact sound.staged other old
  honest other member := by
    cases mem_put member with
    | inl same =>
        rw [same]
        exact honest
    | inr old => exact sound.honest other old
  kept := sound.kept
  once := sound.once
  origin := sound.origin

theorem Sound.drop (sound : d.Sound verify) (connection : Nat) :
    (d.drop connection).Sound verify where
  store := sound.store
  held := sound.held.drop (pending_drop connection)
  staged other member := sound.staged other (mem_drop member)
  honest other member := sound.honest other (mem_drop member)
  kept := sound.kept
  once := sound.once
  origin := sound.origin

/-- What happens when a transaction is committed. -/
def committing (d : StepUpDeployment PublicKey Signature) (t : StepUpTransaction Signature) :
    StepUpDeployment PublicKey Signature :=
  { d.drop t.connection with
    store := d.store.write t.writes
    committed := d.committed ++ [t] }

theorem SignedKey.commit (change : StoreChange d.Signed d.store t.writes)
    {key : TenantId × StepUpChallengeId} (signed : d.SignedKey key) :
    (d.committing t).SignedKey key := by
  have ⟨challenge, present, holder⟩ := signed
  revert change
  generalize same : t.writes = writes
  intro change
  have rows : (d.committing t).store.challenges = d.store.challenges.write writes.challenge := by
    rw [← same]
    rfl
  cases change with
  | unchanged => exact ⟨challenge, by rw [rows]; exact present, holder⟩
  | consumed => exact ⟨challenge, by rw [rows]; exact present, holder⟩
  | issued unanswered new =>
      refine ⟨challenge, ?_, holder⟩
      rw [rows]
      refine (Table.get?_write_of_ne _ ?_).trans present
      intro equal
      cases equal
      rw [new] at present
      cases present
  | @answered answered link proof found unanswered holds =>
      by_cases mine : answered.key = key
      · subst mine
        refine ⟨{ answered with verifiedAt := some proof.verifiedAt }, ?_, holds⟩
        rw [rows]
        exact Table.get?_write_self d.store.challenges
          { answered with verifiedAt := some proof.verifiedAt }
      · refine ⟨challenge, ?_, holder⟩
        rw [rows]
        refine (Table.get?_write_of_ne _ ?_).trans present
        intro equal
        exact mine (Option.some.inj equal)

/-- A consumed proof stays as it is. -/
theorem consumed_kept {store : StepUpStore PublicKey} (consumption : Consumption store t)
    {proof : StepUpProof} (member : proof ∈ store.proofs) (consumed : proof.consumedAt ≠ none) :
    proof ∈ (store.write t.writes).proofs ∧
      ∀ row, t.writes.proof = some row → row.key ≠ proof.key := by
  have apart : ∀ row, t.writes.proof = some row → row.key ≠ proof.key := by
    intro row written equal
    have found := Table.get?_of_mem member
    rw [← equal] at found
    cases consumption with
    | consumes written' _ present unconsumed =>
        rw [written] at written'
        cases written'
        rw [present] at found
        cases found
        exact consumed unconsumed
    | leaves _ new =>
        rw [(new row written).2] at found
        cases found
  refine ⟨?_, apart⟩
  apply Table.mem_write_of_ne member
  intro equal
  have ⟨row, written, same⟩ := Option.map_eq_some_iff.mp equal
  exact apart row written same

theorem Sound.commit (sound : d.Sound verify) (member : t ∈ d.transactions) :
    (d.committing t).Sound verify := by
  have fits : StoreChange d.Signed d.store t.writes :=
    sound.held.fits t.connection t.writes (pending_of_mem member)
  have consumption := (sound.staged t member).consumption fits
  have signedKey : ∀ key, d.SignedKey key → (d.committing t).SignedKey key :=
    fun key signed => SignedKey.commit fits signed
  have keys : (d.committing t).consumedKeys =
      d.consumedKeys ++ (t.consumes.map StepUpProof.key).toList := by
    simp only [consumedKeys, committing, List.filterMap_append, List.filterMap_cons,
      List.filterMap_nil]
    cases t.consumes with
    | none => rfl
    | some proof => rfl
  constructor
  · exact sound.store.write signedBy_insensitive fits
  · exact sound.held.commit (pending_of_mem member) (pending_drop t.connection)
  · intro other open_
    exact (sound.staged other (mem_drop open_)).mono signedKey
  · intro other open_
    exact sound.honest other (mem_drop open_)
  · intro other done
    cases List.mem_append.mp done with
    | inl old =>
        have ⟨staged, kept⟩ := sound.kept other old
        refine ⟨staged.mono signedKey, ?_⟩
        intro proof taken
        have ⟨stored, consumed⟩ := kept proof taken
        exact ⟨(consumed_kept consumption stored consumed).1, consumed⟩
    | inr last =>
        cases List.mem_singleton.mp last
        refine ⟨(sound.staged t member).mono signedKey, ?_⟩
        intro proof taken
        cases consumption with
        | consumes written taken' _ _ consumed =>
            rw [taken] at taken'
            cases taken'
            refine ⟨?_, consumed⟩
            have rows : (d.committing t).store.proofs = d.store.proofs.write t.writes.proof := rfl
            rw [rows, written]
            exact mem_write_self _ _
        | leaves spares =>
            rw [spares] at taken
            cases taken
  · rw [keys]
    cases consumption with
    | leaves spares =>
        rw [spares]
        exact (List.append_nil _).symm ▸ sound.once
    | consumes written taken present unconsumed =>
        rename_i proof old
        rw [taken]
        apply List.nodup_append.mpr
        refine ⟨sound.once, List.nodup_singleton _, ?_⟩
        rintro key listed other last rfl
        cases List.mem_singleton.mp last
        have ⟨earlier, committed, took⟩ := List.mem_filterMap.mp listed
        have ⟨row, taken', same⟩ := Option.map_eq_some_iff.mp took
        have ⟨stored, consumed⟩ := (sound.kept earlier committed).2 row taken'
        have found := Table.get?_of_mem stored
        rw [same, present] at found
        cases found
        exact consumed unconsumed
  · intro proof stored consumed
    rw [keys, List.mem_append]
    cases Table.mem_write stored with
    | inr old => exact Or.inl (sound.origin proof old consumed)
    | inl written =>
        right
        cases consumption with
        | consumes written' taken =>
            rw [written] at written'
            cases written'
            rw [taken]
            exact List.mem_singleton_self _
        | leaves _ new => exact absurd (new proof written).1 consumed

/-- Signatures that are made and factors that are enrolled disturb nothing. -/
theorem Sound.grow (sound : d.Sound verify) {next : StepUpDeployment PublicKey Signature}
    (signed : ∀ challenge, d.Signed challenge → next.Signed challenge)
    (made : ∀ signature ∈ d.signatures, signature ∈ next.signatures)
    (challenges : next.store.challenges = d.store.challenges)
    (links : next.store.proofChallenges = d.store.proofChallenges)
    (proofs : next.store.proofs = d.store.proofs)
    (transactions : next.transactions = d.transactions)
    (committed : next.committed = d.committed) : next.Sound verify := by
  have signedKey : ∀ key, d.SignedKey key → next.SignedKey key := by
    intro key found
    have ⟨challenge, present, holder⟩ := found
    exact ⟨challenge, by rw [challenges]; exact present, signed challenge holder⟩
  have changes : ∀ {writes}, StoreChange d.Signed d.store writes →
      StoreChange next.Signed next.store writes := by
    intro writes change
    have weaker := change.mono signed
    exact weaker.of_tables challenges links proofs
  constructor
  · have weaker := sound.store.mono signed
    constructor
    · rw [links, proofs]
      exact weaker.linked
    · rw [links, proofs, challenges]
      exact weaker.answered
    · rw [links]
      exact weaker.single
  · constructor
    · intro connection writes found
      apply changes
      apply sound.held.fits connection writes
      rw [pending, ← transactions]
      exact found
    · intro connection other writes held different found found'
      apply sound.held.apart connection other writes held different
      · rw [pending, ← transactions]
        exact found
      · rw [pending, ← transactions]
        exact found'
  · rw [transactions]
    exact fun t open_ => (sound.staged t open_).mono signedKey
  · rw [transactions]
    exact fun t open_ => (sound.honest t open_).mono made
  · rw [committed, proofs]
    exact fun t done => ⟨(sound.kept t done).1.mono signedKey, (sound.kept t done).2⟩
  · rw [consumedKeys, committed]
    exact sound.once
  · rw [consumedKeys, committed, proofs]
    exact sound.origin

theorem Sound.begin (sound : d.Sound verify) {connection : Nat} {call : StepUpCall Signature}
    (honest : Honest verify d.signatures call) {next : StepUpDeployment PublicKey Signature}
    {reply : StepUpReply} (succeeds : d.begin connection call = .ok (next, reply)) :
    next.Sound verify := by
  simp only [StepUpDeployment.begin, Checked.bind_eq_ok] at succeeds
  obtain ⟨_, _, rest⟩ := succeeds
  split at rest
  · rename_i stage entered
    cases rest
    have staged : Staged d.SignedKey call stage .nothing := by
      cases call with
      | recover tenantId subjectId p =>
          cases entered
          exact .bound
      | _ =>
          simp only [enter, Checked.bind_eq_ok, Checked.pure_eq_ok, Prod.exists] at entered
          obtain ⟨_, _, _, same⟩ := entered
          subst same
          exact .entered
    exact sound.put staged honest .unchanged fun _ _ _ => rfl
  · cases rest
    exact sound

theorem Sound.statement (sound : d.Sound verify) (member : t ∈ d.transactions)
    {observed : Session} {next : StepUpDeployment PublicKey Signature} {reply : StepUpReply}
    (succeeds : d.statement verify t observed = .ok (next, reply)) : next.Sound verify := by
  simp only [StepUpDeployment.statement, Checked.bind_eq_ok] at succeeds
  obtain ⟨_, _, rest⟩ := succeeds
  split at rest
  · cases rest
    exact sound.drop t.connection
  · rename_i stage writes advanced
    simp only [Checked.bind_eq_ok, Checked.require_eq_ok, Checked.pure_eq_ok, Prod.mk.injEq,
      exists_const] at rest
    obtain ⟨free, same, _⟩ := rest
    subst same
    have fits := sound.held.fits t.connection t.writes (pending_of_mem member)
    obtain ⟨staged, change⟩ :=
      advance_change (sound.staged t member) fits (sound.honest t member) advanced
    exact sound.put staged (sound.honest t member) change free

/-- Every operation keeps the invariant, if it submits no forged signature. -/
theorem Sound.apply (sound : d.Sound verify) {op : StepUpOp PublicKey Signature}
    (unforged : Unforged verify d op) {next : StepUpDeployment PublicKey Signature}
    {reply : StepUpReply} (succeeds : applyStepUp verify op d = .ok (next, reply)) :
    next.Sound verify := by
  cases op with
  | sign publicKey payload at_ =>
      cases succeeds
      have made : ∀ signature ∈ d.signatures,
          signature ∈ d.signatures ++ [(publicKey, payload, at_)] :=
        fun _ kept => List.mem_append_left _ kept
      exact sound.grow (fun _ signed => signed.mono (fun _ enrolled => enrolled) made) made rfl rfl
        rfl rfl rfl
  | enroll factor =>
      simp only [applyStepUp, enroll] at succeeds
      split at succeeds
      · rename_i factors inserted
        cases succeeds
        have kept : ∀ old ∈ d.store.factors, old ∈ factors :=
          fun old member => (Table.mem_insertNew inserted old).mpr (Or.inl member)
        exact sound.grow (fun _ signed => signed.mono kept fun _ made => made)
          (fun _ made => made) rfl rfl rfl rfl rfl
      · cases succeeds
        exact sound
  | changeInventory inventory =>
      cases succeeds
      exact sound.grow (fun _ signed => signed) (fun _ made => made) rfl rfl rfl rfl rfl
  | begin connection call =>
      have honest : Honest verify d.signatures call := by
        cases call with
        | verify => exact unforged
        | _ => trivial
      exact sound.begin honest succeeds
  | statement connection observed =>
      simp only [applyStepUp, Checked.bind_eq_ok, Checked.requireSome_eq_ok] at succeeds
      obtain ⟨t, found, ran⟩ := succeeds
      exact sound.statement (Table.get?_mem found) ran
  | commit connection =>
      simp only [applyStepUp, StepUpDeployment.commit, Checked.bind_eq_ok,
        Checked.requireSome_eq_ok, Checked.pure_eq_ok, Prod.mk.injEq] at succeeds
      obtain ⟨t, found, _, _, same, _⟩ := succeeds
      rw [← same]
      exact sound.commit (Table.get?_mem found)
  | rollback connection =>
      simp only [applyStepUp, rollback, Checked.bind_eq_ok, Checked.requireSome_eq_ok,
        Checked.pure_eq_ok, Prod.mk.injEq] at succeeds
      obtain ⟨t, found, same, _⟩ := succeeds
      rw [← same]
      exact sound.drop t.connection

theorem Fresh.sound (fresh : d.Fresh) : d.Sound verify where
  store := by
    constructor
    · rw [fresh.proofs]
      exact fun proof member => absurd member (Table.not_mem_empty proof)
    · rw [fresh.proofChallenges]
      exact fun link member => absurd member (Table.not_mem_empty link)
    · rw [fresh.proofChallenges]
      exact fun link member => absurd member (Table.not_mem_empty link)
  held := by
    have idle : d.pending = fun _ => none := by
      funext connection
      rw [pending, fresh.transactions]
      rfl
    rw [idle]
    exact RowLocks.held_none
  staged := by
    rw [fresh.transactions]
    exact fun t member => absurd member (Table.not_mem_empty t)
  honest := by
    rw [fresh.transactions]
    exact fun t member => absurd member (Table.not_mem_empty t)
  kept := by
    rw [fresh.committed]
    exact fun t member => absurd member List.not_mem_nil
  once := by
    rw [consumedKeys, fresh.committed]
    exact List.nodup_nil
  origin := by
    rw [fresh.proofs]
    exact fun proof member => absurd member (Table.not_mem_empty proof)

theorem Sound.run (sound : d.Sound verify) (ops : List (StepUpOp PublicKey Signature))
    (unforged : Transaction.Guarded (applyStepUp verify) (Unforged verify) d ops) :
    (runStepUp verify d ops).Sound verify := by
  have preserved : ∀ (before : StepUpDeployment PublicKey Signature)
      (op : StepUpOp PublicKey Signature) (after : StepUpDeployment PublicKey Signature)
      (reply : StepUpReply), before.Sound verify → Unforged verify before op →
        applyStepUp verify op before = .ok (after, reply) → after.Sound verify :=
    fun _ _ _ _ holds honest succeeds => holds.apply honest succeeds
  exact Transaction.run_preserves_guarded (StepUpDeployment.Sound verify) preserved d ops unforged
    sound

end StepUpDeployment

end TenantTrust.Api
