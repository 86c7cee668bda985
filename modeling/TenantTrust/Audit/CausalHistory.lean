import TenantTrust.Audit.CausalVerification
import TenantTrust.Library.Lineage

/-! What a verified bundle says about the history of its events. -/

namespace TenantTrust.Audit

open Library Identity Orchestration

section Relations

variable (events : List CausalEvent) (evidenceAnchors : List EvidenceAnchor)

/-- An event of the list names another one as its cause. -/
def CausedBy (effect cause : CausalEvent) : Prop :=
  effect ∈ events ∧ cause ∈ events ∧ effect.causationId = some cause.eventId

/-- A decision names the event as its trust transition, its policy version or its certificate. -/
inductive RestsOn (payload : DecisionEventPayload) (event : CausalEvent) : Prop where
  | trust (transitionId : TransitionId) (named : payload.trustTransitionId = some transitionId)
      (transition : event.isTransition transitionId = true)
  | policy (active : event.activatesPolicy payload.policyVersionId = true)
  | certificate (active : event.activatesCertificate payload.certificateId = true)

/-- What may not occur after the first event: its cause, and what it decides on. -/
inductive Precedes (effect origin : CausalEvent) : Prop where
  | cause (caused : CausedBy events effect origin)
  | basis (payload : DecisionEventPayload) (decided : effect.payload = .decision payload)
      (reported : effect ∈ events ∧ origin ∈ events) (rests : RestsOn payload origin)

/-- Nothing is left to follow, or evidence that was delivered. -/
def IsOrigin (event : CausalEvent) : Prop :=
  event.causationId = none ∨
    ∃ anchor ∈ evidenceAnchors, event.causationId = some anchor.evidenceEventId

/-- The events met when causes are followed from an event. -/
structure TracedBack (event : CausalEvent) (trail : List CausalEvent) : Prop where
  starts : trail.head? = some event
  distinct : trail.Nodup
  reported : ∀ met ∈ trail, met ∈ events
  follows : trail.IsChain fun effect cause => effect.causationId = some cause.eventId ∧
    cause.occurredAt.instant ≤ effect.occurredAt.instant
  ends : ∃ origin, trail.getLast? = some origin ∧ IsOrigin evidenceAnchors origin

/-- One event of the list has the property, and it did not occur after the decision. -/
def OneEarlier (decision : CausalEvent) (property : CausalEvent → Prop) : Prop :=
  ∃ event ∈ events, property event ∧ (∀ other ∈ events, property other → other = event) ∧
    event.occurredAt.instant ≤ decision.occurredAt.instant

structure DecisionLinked (decision : CausalEvent) (payload : DecisionEventPayload) : Prop where
  trust : ∃ transitionId, payload.trustTransitionId = some transitionId ∧
    OneEarlier events decision (fun event => event.isTransition transitionId = true) ∧
    ∀ event ∈ events, event.isTransition transitionId = true →
      event.subjectId = decision.subjectId ∧ event.newScore? = some payload.trustScore
  policy : OneEarlier events decision fun event =>
    event.activatesPolicy payload.policyVersionId = true
  certificate : OneEarlier events decision fun event =>
    event.activatesCertificate payload.certificateId = true
  holder : ∀ event ∈ events, event.activatesCertificate payload.certificateId = true →
    event.subjectId = decision.subjectId

structure CausalHistory : Prop where
  ordered : ∀ effect cause, CausedBy events effect cause →
    cause.occurredAt.instant ≤ effect.occurredAt.instant
  founded : ∀ event ∈ events, ∃ trail, TracedBack events evidenceAnchors event trail
  acyclic : ∀ event, ¬ Relation.TransGen (CausedBy events) event event
  decided : ∀ decision ∈ events, ∀ payload, decision.payload = .decision payload →
    DecisionLinked events decision payload

/-- One event of the same instant names another as its cause. -/
def SimultaneousCause (effect cause : CausalEvent) : Prop :=
  CausedBy events effect cause ∧ effect.occurredAt.instant = cause.occurredAt.instant

/-- What the verifier leaves open: times that it cannot compare, causes among events of one
instant, and decisions without a trust transition. -/
structure Conclusive : Prop where
  legible : ∀ effect origin, Precedes events effect origin →
    Illegible origin.occurredAt effect.occurredAt →
    origin.occurredAt.instant ≤ effect.occurredAt.instant
  apart : ∀ event, ¬ Relation.TransGen (SimultaneousCause events) event event
  trusted : ∀ decision ∈ events, ∀ payload, decision.payload = .decision payload →
    payload.trustTransitionId ≠ none

/-- A cause that is named was delivered as evidence, or it is an event that parses no later. -/
structure CausationChecked (event : CausalEvent) : Prop where
  present : event.causationId = none ∨
    (∃ anchor ∈ evidenceAnchors, event.causationId = some anchor.evidenceEventId) ∨
    ∃ cause ∈ events, event.causationId = some cause.eventId
  timed : ∀ cause ∈ events, event.causationId = some cause.eventId →
    parsesLater cause.occurredAt event.occurredAt = false

end Relations

section Checks

variable {events : List CausalEvent} {evidenceAnchors : List EvidenceAnchor}

theorem oneBy_eq_ok {predicate : CausalEvent → Bool} {reasonCode : String} {found : CausalEvent}
    (passed : oneBy events predicate reasonCode = .ok found) :
    found ∈ events ∧ predicate found = true ∧
      ∀ other ∈ events, predicate other = true → other = found := by
  unfold oneBy at passed
  split at passed
  · rename_i only same
    cases passed
    have members : ∀ event, event ∈ events ∧ predicate event = true ↔ event = found := by
      intro event
      rw [← List.mem_filter, same, List.mem_singleton]
    obtain ⟨member, holds⟩ := (members found).mpr rfl
    exact ⟨member, holds, fun other present again => (members other).mp ⟨present, again⟩⟩
  · cases passed

theorem eventById_of_mem (unique : (events.map CausalEvent.eventId).Nodup) {event : CausalEvent}
    (member : event ∈ events) : eventById events event.eventId = some event := by
  unfold eventById
  induction events with
  | nil => cases member
  | cons first rest ih =>
      rw [List.map_cons, List.nodup_cons] at unique
      rcases List.mem_cons.mp member with rfl | deeper
      · rw [List.find?_cons, decide_eq_true rfl]
      · have other : first.eventId ≠ event.eventId := by
          intro same
          exact unique.1 (same ▸ List.mem_map_of_mem deeper)
        rw [List.find?_cons, decide_eq_false other]
        exact ih unique.2 deeper

theorem verifyCausation_eq_ok (unique : (events.map CausalEvent.eventId).Nodup)
    {event : CausalEvent} (passed : verifyCausation events evidenceAnchors event = .ok ()) :
    CausationChecked events evidenceAnchors event := by
  unfold verifyCausation at passed
  split at passed
  · rename_i none_
    refine ⟨Or.inl none_, fun cause _ names => ?_⟩
    rw [none_] at names
    cases names
  · rename_i causationId given
    simp only [Checked.bind_eq_ok, Checked.require_eq_ok, exists_const, Bool.or_eq_true] at passed
    obtain ⟨present, timed⟩ := passed
    constructor
    · right
      rcases present with found | anchored
      · right
        obtain ⟨cause, found⟩ := Option.isSome_iff_exists.mp found
        have same := List.find?_some found
        rw [decide_eq_true_eq] at same
        exact ⟨cause, List.mem_of_find?_eq_some found, by rw [given, same]⟩
      · left
        obtain ⟨anchor, member, same⟩ := List.any_eq_true.mp anchored
        rw [decide_eq_true_eq] at same
        exact ⟨anchor, member, by rw [given, same]⟩
    · intro cause member names
      rw [given, Option.some_inj] at names
      rw [names, eventById_of_mem unique member, Option.all_some, Bool.not_eq_true'] at timed
      exact timed

/-- The transition, the policy version and the certificate that a decision was checked against. -/
structure DecisionChecked (events : List CausalEvent) (decision : CausalEvent)
    (payload : DecisionEventPayload) : Prop where
  unique : ∀ event ∈ events, RestsOn payload event →
    parsesLater event.occurredAt decision.occurredAt = false
  trust : ∀ transitionId, payload.trustTransitionId = some transitionId →
    ∃ trust ∈ events, trust.isTransition transitionId = true ∧
      (∀ other ∈ events, other.isTransition transitionId = true → other = trust) ∧
      trust.subjectId = decision.subjectId ∧ trust.newScore? = some payload.trustScore
  policy : ∃ policy ∈ events, policy.activatesPolicy payload.policyVersionId = true ∧
    ∀ other ∈ events, other.activatesPolicy payload.policyVersionId = true → other = policy
  certificate : ∃ certificate ∈ events,
    certificate.activatesCertificate payload.certificateId = true ∧
      (∀ other ∈ events, other.activatesCertificate payload.certificateId = true →
        other = certificate) ∧
      certificate.subjectId = decision.subjectId

theorem verifyDecision_eq_ok {decision : CausalEvent} {payload : DecisionEventPayload}
    {links : DecisionLinks} (decided : decision.payload = .decision payload)
    (passed : verifyDecision events decision = .ok links) :
    DecisionChecked events decision payload := by
  simp only [verifyDecision, decided, Checked.bind_eq_ok, Checked.require_eq_ok,
    Checked.pure_eq_ok, exists_const] at passed
  obtain ⟨count, trustLinked, policy, policyFound, policyTimed, certificate, certificateFound,
    holder, certificateTimed, _⟩ := passed
  obtain ⟨policyMember, policyActive, policyOnly⟩ := oneBy_eq_ok policyFound
  obtain ⟨certificateMember, certificateActive, certificateOnly⟩ := oneBy_eq_ok certificateFound
  have trusted : ∀ transitionId, payload.trustTransitionId = some transitionId →
      ∃ trust ∈ events, trust.isTransition transitionId = true ∧
        (∀ other ∈ events, other.isTransition transitionId = true → other = trust) ∧
        trust.subjectId = decision.subjectId ∧ trust.newScore? = some payload.trustScore ∧
        parsesLater trust.occurredAt decision.occurredAt = false := by
    intro transitionId named
    simp only [verifyTrustLink, named, Checked.bind_eq_ok, Checked.require_eq_ok, exists_const]
      at trustLinked
    obtain ⟨trust, found, ⟨subject, score, timed⟩, _⟩ := trustLinked
    obtain ⟨member, transition, only⟩ := oneBy_eq_ok found
    exact ⟨trust, member, transition, only, subject, score, timed⟩
  refine ⟨?_, ?_, ⟨policy, policyMember, policyActive, policyOnly⟩,
    ⟨certificate, certificateMember, certificateActive, certificateOnly, holder⟩⟩
  · intro event member rests
    cases rests with
    | trust transitionId named transition =>
        obtain ⟨trust, _, _, only, _, _, timed⟩ := trusted transitionId named
        rw [only event member transition]
        exact timed
    | policy active =>
        rw [policyOnly event member active]
        exact policyTimed
    | certificate active =>
        rw [certificateOnly event member active]
        exact certificateTimed
  · intro transitionId named
    obtain ⟨trust, member, transition, only, subject, score, _⟩ := trusted transitionId named
    exact ⟨trust, member, transition, only, subject, score⟩

end Checks

variable {scheme : CommitmentScheme} {readCommitment : CommitmentReader} {tenantId : TenantId}
  {correlationId : CorrelationId} {bundle : VerificationBundle} {report : VerificationReport}

/-- What a bundle that is verified was checked for. -/
structure BundleChecked (bundle : VerificationBundle) : Prop where
  unique : (bundle.events.map CausalEvent.eventId).Nodup
  causation : ∀ event ∈ bundle.events,
    CausationChecked bundle.events bundle.evidenceAnchors event
  decisions : ∀ decision ∈ bundle.events, ∀ payload, decision.payload = .decision payload →
    DecisionChecked bundle.events decision payload

theorem verifyBundle_checked
    (verified : verifyBundle scheme readCommitment tenantId correlationId bundle = .ok report) :
    BundleChecked bundle := by
  simp only [verifyBundle, verifyLinks, Checked.bind_eq_ok, Checked.require_eq_ok,
    Checked.pure_eq_ok, exists_const, Checked.forM_eq_ok] at verified
  obtain ⟨_, _, _, _, ⟨unique, causation, _, _, decisions, processed, _⟩, _⟩ := verified
  refine ⟨unique, fun event member => verifyCausation_eq_ok unique (causation event member), ?_⟩
  intro decision member payload decided
  obtain ⟨_, _, passed⟩ := Checked.mapM_eq_ok processed decision member
  exact verifyDecision_eq_ok decided passed

namespace BundleChecked

variable (checked : BundleChecked bundle)

include checked

theorem precedes_timed (legible : ∀ effect origin, Precedes bundle.events effect origin →
      Illegible origin.occurredAt effect.occurredAt →
      origin.occurredAt.instant ≤ effect.occurredAt.instant)
    {effect origin : CausalEvent} (precedes : Precedes bundle.events effect origin) :
    origin.occurredAt.instant ≤ effect.occurredAt.instant := by
  apply not_later_of_parses _ (legible effect origin precedes)
  cases precedes with
  | cause caused =>
      exact (checked.causation effect caused.1).timed origin caused.2.1 caused.2.2
  | basis payload decided reported rests =>
      exact (checked.decisions effect reported.1 payload decided).unique origin reported.2 rests

omit checked in
/-- On a cycle of causes none of which occurs later than its effect, nothing happens later. -/
theorem simultaneous_of_cycle (ordered : ∀ effect cause, CausedBy bundle.events effect cause →
      cause.occurredAt.instant ≤ effect.occurredAt.instant) {event : CausalEvent}
    (cycle : Relation.TransGen (CausedBy bundle.events) event event) :
    Relation.TransGen (SimultaneousCause bundle.events) event event := by
  have falls : ∀ {effect origin : CausalEvent},
      Relation.TransGen (CausedBy bundle.events) effect origin →
      origin.occurredAt.instant ≤ effect.occurredAt.instant ∧
        (origin.occurredAt.instant = effect.occurredAt.instant →
          Relation.TransGen (SimultaneousCause bundle.events) effect origin) := by
    intro effect origin reached
    induction reached with
    | single caused =>
        exact ⟨ordered _ _ caused, fun same => .single ⟨caused, same.symm⟩⟩
    | tail _ caused ih =>
        have earlier := ordered _ _ caused
        refine ⟨earlier.trans ih.1, fun same => ?_⟩
        have middle := le_antisymm ih.1 (same ▸ earlier)
        exact (ih.2 middle).tail ⟨caused, middle.trans same.symm⟩
  exact (falls cycle).2 rfl

/-- Following causes ends at an event without a cause, or at delivered evidence. -/
theorem traced (ordered : ∀ effect cause, CausedBy bundle.events effect cause →
      cause.occurredAt.instant ≤ effect.occurredAt.instant)
    (acyclic : ∀ event, ¬ Relation.TransGen (CausedBy bundle.events) event event)
    {event : CausalEvent} (member : event ∈ bundle.events) :
    ∃ trail, TracedBack bundle.events bundle.evidenceAnchors event trail := by
  obtain ⟨trail, starts, distinct, follows, reported, last, reached, stops⟩ :=
    exists_trail (fun _ _ caused => caused.2.1) acyclic member
  refine ⟨trail, starts, distinct, reported, follows.imp ?_, last, reached, ?_⟩
  · intro effect cause caused
    exact ⟨caused.2.2, ordered effect cause caused⟩
  · have present := reported last (List.mem_of_getLast? reached)
    rcases (checked.causation last present).present with none_ | anchored | ⟨cause, other, names⟩
    · exact Or.inl none_
    · exact Or.inr anchored
    · exact absurd ⟨present, other, names⟩ (stops cause)

theorem linked (legible : ∀ effect origin, Precedes bundle.events effect origin →
      Illegible origin.occurredAt effect.occurredAt →
      origin.occurredAt.instant ≤ effect.occurredAt.instant)
    {decision : CausalEvent} (member : decision ∈ bundle.events) {payload : DecisionEventPayload}
    (decided : decision.payload = .decision payload)
    (named : payload.trustTransitionId ≠ none) :
    DecisionLinked bundle.events decision payload := by
  have timed : ∀ event ∈ bundle.events, RestsOn payload event →
      event.occurredAt.instant ≤ decision.occurredAt.instant := fun event present rests =>
    checked.precedes_timed legible (.basis payload decided ⟨member, present⟩ rests)
  have links := checked.decisions decision member payload decided
  obtain ⟨transitionId, given⟩ := Option.ne_none_iff_exists'.mp named
  obtain ⟨trust, reported, transition, only, subject, score⟩ := links.trust transitionId given
  obtain ⟨policy, policyReported, active, policyOnly⟩ := links.policy
  obtain ⟨certificate, certificateReported, valid, certificateOnly, holder⟩ := links.certificate
  constructor
  · refine ⟨transitionId, given, ⟨trust, reported, transition, only,
      timed trust reported (.trust transitionId given transition)⟩, ?_⟩
    intro event present again
    rw [only event present again]
    exact ⟨subject, score⟩
  · exact ⟨policy, policyReported, active, policyOnly,
      timed policy policyReported (.policy active)⟩
  · exact ⟨certificate, certificateReported, valid, certificateOnly,
      timed certificate certificateReported (.certificate valid)⟩
  · intro event present again
    rw [certificateOnly event present again]
    exact holder

end BundleChecked

theorem CausalHistory.conclusive
    (history : CausalHistory bundle.events bundle.evidenceAnchors) :
    Conclusive bundle.events := by
  constructor
  · intro effect origin precedes _
    cases precedes with
    | cause caused => exact history.ordered effect origin caused
    | basis payload decided reported rests =>
        have linked := history.decided effect reported.1 payload decided
        cases rests with
        | trust transitionId named transition =>
            obtain ⟨_, given, ⟨trust, _, _, only, timed⟩, _⟩ := linked.trust
            rw [named, Option.some_inj] at given
            subst given
            rw [only origin reported.2 transition]
            exact timed
        | policy active =>
            obtain ⟨_, _, _, only, timed⟩ := linked.policy
            rw [only origin reported.2 active]
            exact timed
        | certificate active =>
            obtain ⟨_, _, _, only, timed⟩ := linked.certificate
            rw [only origin reported.2 active]
            exact timed
  · intro event cycle
    exact history.acyclic event (Relation.TransGen.mono (fun _ _ caused => caused.1) _ _ cycle)
  · intro decision member payload decided none_
    obtain ⟨_, given, _⟩ := (history.decided decision member payload decided).trust
    rw [none_] at given
    cases given

namespace VerificationScenario

/-- A time in the first minute of a day. -/
def at_ (n : Nat) : EventTime where
  date := ⟨2026, 1, 1⟩
  separator := .letter
  milliseconds := (n % 60 : ℕ) * 1000
  dateValid := by decide
  timeValid := by
    have least : (0 : ℚ) ≤ (n % 60 : ℕ) := Nat.cast_nonneg _
    have most : ((n % 60 : ℕ) : ℚ) < 60 := by exact_mod_cast Nat.mod_lt n (by norm_num)
    constructor
    · linarith
    · linarith

def event (n : Nat) (causationId : Option EventId) (payload : AuditEventPayload) :
    CausalEvent where
  document := ""
  eventId := ⟨n⟩
  tenantId := ⟨1⟩
  subjectId := some ⟨1⟩
  correlationId := ⟨1⟩
  causationId := causationId
  occurredAt := at_ n
  payload := payload

/-- A certificate, a trust transition, a policy, a decision and an action; the argument is the
cause of the policy's activation. -/
def events (cause : EventId) : List CausalEvent := [
  event 1 none (.certificate .issued ⟨⟨1⟩, .active⟩),
  event 2 (some ⟨9⟩) (.trust ⟨⟨1⟩, 62, [⟨1⟩]⟩),
  event 3 (some cause) (.policy .activated ⟨1, .active⟩),
  event 4 (some ⟨3⟩) (.decision ⟨⟨1⟩, ⟨1⟩, some ⟨1⟩, 62, 1⟩),
  event 5 (some ⟨4⟩) (.securityAction .requested {
    actionId := ⟨1⟩
    decisionId := ⟨1⟩
    actionType := .restrictAccess
    status := .requested
    targetCertificateId := some ⟨1⟩
    reasonCode := "TRUST_RESTRICTED"
    authorityClass := .policyQuarantine
    attemptNumber := 0
    recoveryAuthorizationId := none
    recoveryTrustTransitionId := none
    authorizedBySubjectId := none
    causeResolutionReference := none
    externalReference := none
    certificateEventId := none
    failureCode := none })]

def openScheme : CommitmentScheme where
  schemaAccepts _ := true
  canonicalPreimage channelName event := channelName ++ event.document
  eventKeyHash _ _ eventId := ⟨eventId.value⟩
  commitmentHash text := ⟨text.length⟩

def record (event : CausalEvent) : VerificationRecord where
  tenantId := ⟨1⟩
  eventId := event.eventId
  channelName := "tt-audit-alpha-v1"
  event := event
  canonicalPreimageJson := "tt-audit-alpha-v1"
  ledgerKey := ⟨auditEventSelections event.eventType, ⟨event.eventId.value⟩⟩
  ledgerValue := ⟨auditEventSelections event.eventType, ⟨event.eventId.value⟩, ⟨17⟩⟩
  deliveryStatus := .committed
  transactionId := some ⟨event.eventId.value⟩
  validationCode := some 0
  blockNumber := some 40

def chain (cause : EventId) : VerificationBundle where
  tenantId := ⟨1⟩
  correlationId := ⟨1⟩
  records := (events cause).map record
  evidenceAnchors := [⟨⟨1⟩, ⟨1⟩, ⟨1⟩, ⟨9⟩, ⟨1⟩⟩]

def ledger : CommitmentReader := fun _ recordType key => some ⟨recordType, key, ⟨17⟩⟩

def evidenceLinks (cause : EventId) : Except String Nat :=
  (verifyBundle openScheme ledger ⟨1⟩ ⟨1⟩ (chain cause)).map fun report => report.links.evidence

/-- The bundle is verified when the transition caused the policy, and when it caused itself. -/
theorem evaluated : evidenceLinks ⟨2⟩ = .ok 1 ∧ evidenceLinks ⟨3⟩ = .ok 1 ∧
    (∀ first ∈ events ⟨2⟩, ∀ second ∈ events ⟨2⟩,
      Illegible first.occurredAt second.occurredAt → first = second) ∧
    ∀ only ∈ events ⟨2⟩, only.causationId ≠ some only.eventId := by
  decide +kernel

theorem chain_events (cause : EventId) : (chain cause).events = events cause := rfl

theorem conclusive : Conclusive (chain ⟨2⟩).events := by
  obtain ⟨_, _, distinct, notSelf⟩ := evaluated
  rw [chain_events]
  have single : ∀ first ∈ events ⟨2⟩, ∀ second ∈ events ⟨2⟩,
      Illegible first.occurredAt second.occurredAt → first = second := distinct
  constructor
  · intro effect origin precedes unclear
    have members : origin ∈ events ⟨2⟩ ∧ effect ∈ events ⟨2⟩ := by
      cases precedes with
      | cause caused => exact ⟨caused.2.1, caused.1⟩
      | basis _ _ reported _ => exact ⟨reported.2, reported.1⟩
    rw [single origin members.1 effect members.2 unclear]
  · intro start cycle
    obtain ⟨cause, caused, _⟩ := Relation.TransGen.head'_iff.mp cycle
    obtain ⟨day, time⟩ := Prod.ext_iff.mp (toLex_inj.mp caused.2)
    have same := single start caused.1.1 cause caused.1.2.1
      (Or.inr (Or.inr ⟨day, congrArg Int.floor time⟩))
    exact notSelf start caused.1.1 (same ▸ caused.1.2.2)
  · intro decision member payload decided
    simp only [events, List.mem_cons, List.not_mem_nil, or_false] at member
    rcases member with rfl | rfl | rfl | rfl | rfl <;> cases decided
    exact Option.some_ne_none _

end VerificationScenario

end TenantTrust.Audit
