import TenantTrust.Api.StepUpDemands
import TenantTrust.Api.StepUpInvariant

/-! Step-up proofs are bound to their request and used once, whatever the transactions do. -/

namespace TenantTrust.Policy

open Library Identity Api Trust Orchestration

variable {data : PolicyData} {rule : ActionRule} {input : DecisionInput} {result : PolicyResult}

theorem ruleResult_allow (allowed : (ruleResult data rule input).outcome = .allow)
    (required : rule.stepUpRequired = true) : stepUpProofValid data rule input = true := by
  unfold ruleResult at allowed
  rw [required, Bool.true_and] at allowed
  split at allowed
  · cases allowed
  · split at allowed
    · cases allowed
    · split at allowed
      · cases allowed
      · cases valid : stepUpProofValid data rule input with
        | true => rfl
        | false =>
            rw [valid] at allowed
            cases allowed

/-- An allowed action whose rule asks for step-up comes with a valid proof. -/
theorem stepUpProofValid_of_allow (answered : policyResult data input = some result)
    (allowed : result.outcome = .allow) (configured : configuredRule data input = some (some rule))
    (required : rule.stepUpRequired = true) : stepUpProofValid data rule input = true := by
  unfold policyResult at answered
  have denied : ∀ reason, (denyResult reason).outcome ≠ .allow := fun _ => nofun
  have ⟨_, answered⟩ := passed_branch answered allowed (denied _)
  have ⟨_, answered⟩ := passed_branch answered allowed (denied _)
  have ⟨_, answered⟩ := passed_branch answered allowed (denied _)
  have ⟨_, answered⟩ := passed_branch answered allowed (denied _)
  have ⟨_, answered⟩ := passed_branch answered allowed (denied _)
  have ⟨_, answered⟩ := skipped_branch answered allowed nofun
  rw [configured] at answered
  cases answered
  exact ruleResult_allow allowed required

end TenantTrust.Policy

namespace TenantTrust.Api

open Library Identity Audit Policy Trust Orchestration

variable {PublicKey Signature : Type}

/-- A committed transaction let its request through, and the rule of the action asks for
step-up. -/
structure CommittedAllow (d : StepUpDeployment PublicKey Signature)
    (t : StepUpTransaction Signature) (r : ProtectedRequest) (evaluation : Evaluation) : Prop where
  committed : t ∈ d.committed
  call : t.call = .request r
  decided : t.stage = .decided evaluation
  allowed : evaluation.decision.result.outcome = .allow
  required : ∃ rule, configuredRule r.environment.data evaluation.input = some (some rule) ∧
    rule.stepUpRequired = true

/-- The proof carries the tenant, the subject, the action and the session of the request, and so
does the challenge that it answers, which the holder of a factor of the subject signed. -/
structure SignedFor (d : StepUpDeployment PublicKey Signature) (r : ProtectedRequest)
    (proof : StepUpProof) (signedAt : Timestamp) : Prop where
  stored : proof ∈ d.store.proofs
  consumer : proof.consumedByRequestId = some r.policyRequest.requestId
  tenantId : proof.tenantId = r.authentication.tenantId
  subjectId : proof.subjectId = r.authentication.subjectId
  action : proof.action = r.action.text
  session : ∃ presented, r.policyRequest.stepUpPresentation = some presented ∧
    proof.proofIdHashSha256 = presented.proofIdHashSha256 ∧
    proof.sessionIdHashSha256 = presented.sessionIdHashSha256
  holder : ∃ link ∈ d.store.proofChallenges, link.key = proof.key ∧
    ∃ challenge ∈ d.store.challenges, challenge.key = link.challengeKey ∧ challenge.Yields proof ∧
      ∃ factor ∈ d.store.factors,
        factor.key = (r.authentication.tenantId, r.authentication.subjectId, challenge.factorId) ∧
        ∃ payload, createStepUpSigningPayload challenge = .ok payload ∧
          (factor.publicKey, payload, signedAt) ∈ d.signatures

/-- The maximum age of the policy, in milliseconds. -/
def ProtectedRequest.maximumAge (r : ProtectedRequest) : ℚ :=
  r.environment.data.configuration.stepUpMaximumAgeSeconds * 1000

/-- The age of a proof counts from its verification. -/
def VerifiedRecently (r : ProtectedRequest) (proof : StepUpProof) (_ : Timestamp) : Prop :=
  proof.verifiedAt ≤ r.policyRequest.requestedAt ∧
    (r.policyRequest.requestedAt - proof.verifiedAt : ℚ) ≤ r.maximumAge

/-- The age of the signature. -/
def SignedRecently (r : ProtectedRequest) (_ : StepUpProof) (signedAt : Timestamp) : Prop :=
  (r.policyRequest.requestedAt - signedAt : ℚ) ≤ r.maximumAge

def StepUpDeployment.OfChallenge (d : StepUpDeployment PublicKey Signature) (proof : StepUpProof)
    (key : TenantId × StepUpChallengeId) : Prop :=
  ∃ link ∈ d.store.proofChallenges, link.key = proof.key ∧ link.challengeKey = key

/-- What holds of step-up authentication after a run, for a notion of a recent proof. -/
structure BoundAndSingleUse (recent : ProtectedRequest → StepUpProof → Timestamp → Prop)
    (verify : PublicKey → SigningPayload → Signature → Bool)
    (start : StepUpDeployment PublicKey Signature) (ops : List (StepUpOp PublicKey Signature)) :
    Prop where
  challenged : ∀ proof ∈ (runStepUp verify start ops).store.proofs,
    ∃ challenge ∈ (runStepUp verify start ops).store.challenges,
      (runStepUp verify start ops).OfChallenge proof challenge.key
  oneProof : ∀ first ∈ (runStepUp verify start ops).store.proofs,
    ∀ second ∈ (runStepUp verify start ops).store.proofs,
    ∀ key, (runStepUp verify start ops).OfChallenge first key →
      (runStepUp verify start ops).OfChallenge second key → first = second
  oneRequest : (runStepUp verify start ops).consumedKeys.Nodup
  consumed : ∀ proof ∈ (runStepUp verify start ops).store.proofs,
    proof.consumedAt ≠ none ↔ proof.key ∈ (runStepUp verify start ops).consumedKeys
  bound : ∀ t r evaluation, CommittedAllow (runStepUp verify start ops) t r evaluation →
    ∃ proof signedAt, t.consumes = some proof ∧
      SignedFor (runStepUp verify start ops) r proof signedAt ∧ recent r proof signedAt
  released : ∀ t ∈ (runStepUp verify start ops).transactions, ∀ proof, t.consumes = some proof →
    ∃ row, (runStepUp verify start (ops ++ [.rollback t.connection])).store.proofs.get?
      proof.key = some row ∧ row.consumedAt = none

namespace StepUpDeployment

variable {verify : PublicKey → SigningPayload → Signature → Bool}
  {d : StepUpDeployment PublicKey Signature} {t : StepUpTransaction Signature}

theorem rollback_store (connection : Nat) :
    (Transaction.commit (applyStepUp verify) d (.rollback connection)).store = d.store := by
  have kept : ∀ next reply, applyStepUp verify (.rollback connection) d = .ok (next, reply) →
      next.store = d.store := by
    intro next reply succeeds
    simp only [applyStepUp, rollback, Checked.bind_eq_ok, Checked.requireSome_eq_ok,
      Checked.pure_eq_ok, Prod.mk.injEq] at succeeds
    obtain ⟨t, _, same, _⟩ := succeeds
    rw [← same]
    rfl
  cases Transaction.commit_cases (applyStepUp verify) d (.rollback connection) with
  | inl aborted => rw [aborted]
  | inr ran =>
      obtain ⟨reply, succeeded⟩ := ran
      exact kept _ reply succeeded

theorem Sound.released (sound : d.Sound verify) (member : t ∈ d.transactions)
    {proof : StepUpProof} (taken : t.consumes = some proof) :
    ∃ row, d.store.proofs.get? proof.key = some row ∧ row.consumedAt = none := by
  have fits := sound.held.fits t.connection t.writes (pending_of_mem member)
  cases (sound.staged t member).consumption fits with
  | consumes written taken' present unconsumed =>
      rw [taken] at taken'
      cases taken'
      exact ⟨_, present, unconsumed⟩
  | leaves spares =>
      rw [spares] at taken
      cases taken

theorem Sound.oneProof (sound : d.Sound verify) {first second : StepUpProof}
    (member : first ∈ d.store.proofs) (member' : second ∈ d.store.proofs)
    {key : TenantId × StepUpChallengeId} (answers : d.OfChallenge first key)
    (answers' : d.OfChallenge second key) : first = second := by
  have ⟨link, kept, same, of_⟩ := answers
  have ⟨link', kept', same', of_'⟩ := answers'
  have equal := sound.store.single link kept link' kept' (of_.trans of_'.symm)
  subst equal
  exact Table.unique _ member member' (same.symm.trans same')

theorem Sound.challenged (sound : d.Sound verify) {proof : StepUpProof}
    (member : proof ∈ d.store.proofs) :
    ∃ challenge ∈ d.store.challenges, d.OfChallenge proof challenge.key := by
  have ⟨link, kept, same⟩ := sound.store.linked proof member
  have ⟨_, _, _, challenge, present, key, _⟩ := sound.store.answered link kept
  exact ⟨challenge, present, link, kept, same, key.symm⟩

theorem Sound.consumed_iff (sound : d.Sound verify) {proof : StepUpProof}
    (member : proof ∈ d.store.proofs) :
    proof.consumedAt ≠ none ↔ proof.key ∈ d.consumedKeys := by
  constructor
  · exact sound.origin proof member
  · intro listed
    have ⟨t, done, took⟩ := List.mem_filterMap.mp listed
    have ⟨row, taken, same⟩ := Option.map_eq_some_iff.mp took
    have ⟨stored, consumed⟩ := (sound.kept t done).2 row taken
    have equal := Table.unique _ stored member same
    rwa [← equal]

/-- A committed ALLOW behind step-up consumed a proof of its own subject, action and session. -/
theorem Sound.bound (sound : d.Sound verify) {r : ProtectedRequest} {evaluation : Evaluation}
    (allow : CommittedAllow d t r evaluation) :
    ∃ proof signedAt, t.consumes = some proof ∧ SignedFor d r proof signedAt ∧
      VerifiedRecently r proof signedAt := by
  obtain ⟨connection, call, stage, writes⟩ := t
  have ⟨committed, called, decided, allowed, rule, configured, required⟩ := allow
  cases called
  cases decided
  have ⟨staged, kept⟩ := sound.kept _ committed
  cases staged with
  | decided presents decides =>
      have ⟨trust, bundle, result, _, answered, _, _, formed⟩ := decide_eq_ok.mp decides
      subst formed
      have valid := stepUpProofValid_of_allow answered allowed configured required
      cases presents with
      | nothing => cases valid
      | @proof presented proof presentation key subject session action =>
          have ⟨stored, _⟩ := kept _ rfl
          have tenant : proof.tenantId = r.authentication.tenantId := congrArg Prod.fst key
          have hash : proof.proofIdHashSha256 = presented.proofIdHashSha256 :=
            congrArg Prod.snd key
          have ⟨link, linked, same⟩ := sound.store.linked _ stored
          have ⟨row, present, rowKey, challenge, asked, challengeKey, yields, factor, enrolled,
            factorKey, payload, signedAt, created, made⟩ := sound.store.answered link linked
          have equal := Table.unique _ present stored (rowKey.trans same)
          subst equal
          refine ⟨_, signedAt, rfl, ⟨stored, rfl, tenant, subject, action,
            ⟨presented, presentation, hash, session⟩, link, linked, same, challenge, asked,
            challengeKey, yields, factor, enrolled, ?_, payload, created, made⟩, ?_⟩
          · rw [factorKey, ← yields.tenantId, ← yields.subjectId]
            exact congrArg₂ (fun tenantId subjectId => (tenantId, subjectId, challenge.factorId))
              tenant subject
          · simp only [stepUpProofValid, decisionInput, stepUpInput, Bool.and_eq_true] at valid
            exact ⟨of_decide_eq_true valid.1.1.2, of_decide_eq_true valid.2⟩

end StepUpDeployment

/-- In every interleaving a challenge yields at most one proof, a proof is consumed by at most one
committed request, a committed ALLOW that asks for step-up has consumed a proof of its own that was
verified recently, and a rollback leaves the proof unconsumed. -/
theorem step_up_bound_and_single_use {verify : PublicKey → SigningPayload → Signature → Bool}
    {start : StepUpDeployment PublicKey Signature} (fresh : start.Fresh)
    (ops : List (StepUpOp PublicKey Signature))
    (unforged : Transaction.Guarded (applyStepUp verify) (Unforged verify) start ops) :
    BoundAndSingleUse VerifiedRecently verify start ops := by
  have sound := fresh.sound.run ops unforged
  constructor
  · exact fun proof member => sound.challenged member
  · exact fun first member second member' key => sound.oneProof member member'
  · exact sound.once
  · exact fun proof member => sound.consumed_iff member
  · exact fun t r evaluation allow => sound.bound allow
  · intro t member proof taken
    rw [runStepUp, Transaction.run_concat, StepUpDeployment.rollback_store]
    exact sound.released member taken

namespace InterleavingScenario

/-! The administrator of the demand signs a challenge at time 0 and exports once the proof is
verified. -/

open StepUpScenario

def start : StepUpDeployment ℕ (ℕ × SigningPayload) where
  inventory := database.inventory
  store := ⟨Table.empty.upsert enrolledFactor, Table.empty, Table.empty, Table.empty⟩
  transactions := Table.empty
  signatures := []
  committed := []

theorem start_fresh : start.Fresh := ⟨rfl, rfl, rfl, rfl, rfl⟩

/-- The request at a time, with its proof. -/
def requestAt (time : Timestamp) : ProtectedRequest :=
  (request false .exportRecords).retried ⟨⟨9⟩, time, ⟨⟨1⟩, ⟨1⟩⟩, time,
    ⟨time, time, time, time, time, time, time⟩, time⟩

def callAt (time : Timestamp) : ActorCall := (requestAt time).call

def sessionAt (time : Timestamp) : Session := (callAt time).session

def payload : SigningPayload where
  action := "record:export"
  challengeId := ⟨1⟩
  expiresAt := 120000
  factorId := ⟨1⟩
  issuedAt := 0
  nonce := 1
  sessionIdHashSha256 := ⟨1⟩
  subjectId := certificate.subjectId
  tenantId := tenant

def prepared : List (StepUpOp ℕ (ℕ × SigningPayload)) :=
  [.begin 1 (.issue (callAt 0) .recordExport ⟨1⟩ ⟨⟨1⟩, 1, ⟨1⟩⟩), .statement 1 (sessionAt 0),
    .commit 1, .sign 1 payload 0]

def verification (time : Timestamp) : StepUpOp ℕ (ℕ × SigningPayload) :=
  .begin 2 (.verify (callAt time) ⟨1⟩ (1, payload) ⟨1⟩)

def completed (verifiedAt requestedAt : Timestamp) : List (StepUpOp ℕ (ℕ × SigningPayload)) :=
  [.statement 2 (sessionAt verifiedAt), .statement 2 (sessionAt verifiedAt), .commit 2,
    .begin 3 (.request (requestAt requestedAt)), .statement 3 (sessionAt requestedAt),
    .statement 3 (sessionAt requestedAt), .commit 3]

def run (verifiedAt requestedAt : Timestamp) : List (StepUpOp ℕ (ℕ × SigningPayload)) :=
  prepared ++ verification verifiedAt :: completed verifiedAt requestedAt

theorem run_unforged (verifiedAt requestedAt : Timestamp) :
    Transaction.Guarded (applyStepUp signedBy) (Unforged signedBy) start
      (run verifiedAt requestedAt) := by
  refine ⟨trivial, trivial, trivial, trivial, ?_, trivial, trivial, trivial, trivial, trivial,
    trivial, trivial, trivial⟩
  intro publicKey signed accepted
  have same : ((1, payload) : ℕ × SigningPayload) = (publicKey, signed) :=
    decide_eq_true_iff.mp accepted
  cases same
  refine ⟨0, ?_⟩
  have kept : (1, payload, 0) ∈ (runStepUp signedBy start prepared).signatures := by
    decide +kernel
  exact kept

/-- A request of that time was let through behind step-up. -/
def allowsAt (requestedAt : Timestamp) (d : StepUpDeployment ℕ (ℕ × SigningPayload)) : Bool :=
  d.committed.any fun t => match t.call, t.stage with
    | .request r, .decided evaluation =>
        evaluation.decision.result.outcome = .allow &&
        r.policyRequest.requestedAt = requestedAt && r.maximumAge = 300000 &&
        match configuredRule r.environment.data evaluation.input with
        | some (some rule) => rule.stepUpRequired
        | some none | none => false
    | _, _ => false

theorem committedAllow_of_allowsAt {requestedAt : Timestamp}
    {d : StepUpDeployment ℕ (ℕ × SigningPayload)} (allows : allowsAt requestedAt d = true) :
    ∃ t r evaluation, CommittedAllow d t r evaluation ∧
      r.policyRequest.requestedAt = requestedAt ∧ r.maximumAge = 300000 := by
  have ⟨t, done, holds⟩ := List.any_eq_true.mp allows
  split at holds
  · rename_i r evaluation called decided
    have ⟨front, required⟩ := Bool.and_eq_true_iff.mp holds
    have ⟨front, age⟩ := Bool.and_eq_true_iff.mp front
    have ⟨allowed, time⟩ := Bool.and_eq_true_iff.mp front
    refine ⟨t, r, evaluation, ⟨done, called, decided, decide_eq_true_iff.mp allowed, ?_⟩,
      decide_eq_true_iff.mp time, decide_eq_true_iff.mp age⟩
    split at required
    · rename_i rule configured
      exact ⟨rule, configured, required⟩
    · cases required
    · cases required
  · cases holds

end InterleavingScenario

open InterleavingScenario StepUpScenario in
theorem step_up_bound_and_single_use_export :
    (∃ t r evaluation,
      CommittedAllow (runStepUp signedBy start (run 119000 200000)) t r evaluation) ∧
      BoundAndSingleUse VerifiedRecently signedBy start (run 119000 200000) := by
  have allows : allowsAt 200000 (runStepUp signedBy start (run 119000 200000)) = true := by
    decide +kernel
  have ⟨t, r, evaluation, allow, _⟩ := committedAllow_of_allowsAt allows
  exact ⟨⟨t, r, evaluation, allow⟩,
    step_up_bound_and_single_use start_fresh (run 119000 200000) (run_unforged 119000 200000)⟩

open InterleavingScenario StepUpScenario in
/-- A challenge that is signed at once and verified at the end of its life makes a proof whose
signature is older than the maximum age when the proof is still recent. -/
theorem older_signature_is_let_through :
    ¬ ∀ (start : StepUpDeployment ℕ (ℕ × SigningPayload)) (_ : start.Fresh)
        (ops : List (StepUpOp ℕ (ℕ × SigningPayload))),
        Transaction.Guarded (applyStepUp signedBy) (Unforged signedBy) start ops →
          BoundAndSingleUse SignedRecently signedBy start ops := by
  intro claim
  have guarantee := claim start start_fresh _ (run_unforged 119000 418000)
  have allows : allowsAt 418000 (runStepUp signedBy start (run 119000 418000)) = true := by
    decide +kernel
  have ⟨t, r, evaluation, allow, requested, age⟩ := committedAllow_of_allowsAt allows
  have ⟨proof, signedAt, _, signed, recent⟩ := guarantee.bound t r evaluation allow
  have ⟨_, _, _, _, _, _, _, _, _, _, payload, _, made⟩ := signed.holder
  have once : (runStepUp signedBy start (run 119000 418000)).signatures =
      [(1, InterleavingScenario.payload, 0)] := by
    decide +kernel
  rw [once] at made
  have early : signedAt = 0 := by
    have same := List.mem_singleton.mp made
    exact (Prod.mk.inj (Prod.mk.inj same).2).2
  rw [SignedRecently, requested, age, early] at recent
  norm_num at recent

end TenantTrust.Api
