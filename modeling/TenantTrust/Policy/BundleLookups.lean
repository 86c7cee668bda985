import TenantTrust.Policy.BundleRoundTrip

/-! A lookup reads what was activated last: it answers with the very bundle that the last accepted
activation of its series was answered with. -/

namespace TenantTrust.Policy

open Library Identity Api Trust

/-- Whether an accepted request activated a bundle of the series. -/
def activatesIn (series : Series) : BundleRequest × PolicyVersionRow → Bool
  | (.activate .., view) => view.series = series
  | (.publish .., _) => false

/-- The answer to the last of the accepted requests that activated a bundle of the series. -/
def lastActivation? (served : List (BundleRequest × PolicyVersionRow)) (series : Series) :
    Option PolicyVersionRow :=
  (served.filter (activatesIn series)).getLast?.map Prod.snd

theorem lastActivation?_concat (served : List (BundleRequest × PolicyVersionRow))
    (entry : BundleRequest × PolicyVersionRow) (series : Series) :
    lastActivation? (served ++ [entry]) series =
      if activatesIn series entry then some entry.2 else lastActivation? served series := by
  rw [lastActivation?, List.filter_append]
  split
  case isTrue activates =>
    rw [List.filter_cons_of_pos activates, List.filter_nil, List.getLast?_concat]
    rfl
  case isFalse other =>
    rw [List.filter_cons_of_neg other, List.filter_nil, List.append_nil]
    rfl

section Steps

variable {platform : BundlePlatform} {registry : BundleRegistry} {store next : PolicyStore}
  {context : PolicyContext} {answers : SessionAnswers} {occurredAt : Timestamp}
  {view row : PolicyVersionRow} {series : Series}

/-- A publication leaves the active rows as they are. -/
theorem active_of_published {request : PublishRequest} {policyVersionId : ScriptString}
    (published : publishBundle platform context answers request policyVersionId occurredAt store =
      .ok (next, view)) (active : row.state = .active) :
    row ∈ next.versions ↔ row ∈ store.versions := by
  obtain ⟨call, _, stored, _⟩ := publishBundle_row published
  have writes := BundleRegistry.publishPolicyBundle_writes stored
  rw [Table.mem_insertNew writes.inserted]
  constructor
  · rintro (old | rfl)
    · exact old
    · obtain ⟨document, previous, _, written⟩ := writes.written
      rw [written] at active
      cases active
  · exact Or.inl

/-- An activation is answered with an active row of the store that it leaves. -/
theorem activateBundle_stored {request : ActivationRequest}
    (holds : registry.Serves platform store)
    (activated : activateBundle platform context answers request occurredAt store =
      .ok (next, view)) : view ∈ next.versions ∧ view.state = .active := by
  have served := serves_activated holds activated
  obtain ⟨call, row, document, _, stored, parsed, written⟩ := activateBundle_row activated
  obtain ⟨target, _, _, same, _, writes⟩ := BundleRegistry.activatePolicyBundle_writes stored
  have member : row ∈ next.versions := by
    rw [same]
    exact Table.get?_mem writes.target_row
  obtain ⟨content, edition, _, shown⟩ := served.display.position_at member
  have read : JsonValue.parse row.bundleCanonicalJson = some row.bundleDocument := by
    rw [shown]
    exact (served.confirmed _ _ content edition).read
  rw [read, Option.some.injEq] at parsed
  have whole : view = row := by rw [written, ← parsed]
  rw [whole]
  exact ⟨member, by rw [same]; rfl⟩

/-- An activation leaves the active rows of the other series as they are. -/
theorem active_of_activated {request : ActivationRequest}
    (activated : activateBundle platform context answers request occurredAt store =
      .ok (next, view)) (foreign : row.series ≠ view.series) (active : row.state = .active) :
    row ∈ next.versions ↔ row ∈ store.versions := by
  obtain ⟨call, activeRow, document, _, stored, _, written⟩ := activateBundle_row activated
  obtain ⟨target, found, _, same, _, writes⟩ := BundleRegistry.activatePolicyBundle_writes stored
  have series : view.series = target.series := by rw [written, same]; rfl
  rw [series] at foreign
  constructor
  · intro present
    rcases writes.mem_cases present with old | rfl | ⟨old, _, rfl⟩
    · exact old
    · exact absurd rfl foreign
    · cases active
  · intro present
    exact Table.get?_mem (writes.foreign_kept (Table.get?_mem found) present foreign).1

end Steps

/-- The series are those that the accepted requests made, and the last activation of each series is
answered with its active row. -/
structure Reported (platform : BundlePlatform) (served : List (BundleRequest × PolicyVersionRow))
    (store : PolicyStore) : Prop where
  serves : (served.foldl BundleRegistry.serve .empty).Serves platform store
  last : ∀ (series : Series) (row : PolicyVersionRow), lastActivation? served series = some row ↔
    row ∈ store.versions ∧ row.series = series ∧ row.state = .active

section Runs

variable (platform : BundlePlatform)

theorem reported_empty : Reported platform [] .empty where
  serves := ⟨BundleRegistry.shows_empty, fun _ _ _ edition => nomatch edition⟩
  last := by
    intro series row
    constructor
    · intro found
      cases found
    · intro stored
      exact absurd stored.1 (Table.not_mem_empty row)

variable {platform}

theorem Reported.step {served : List (BundleRequest × PolicyVersionRow)}
    {store next : PolicyStore} {request : BundleRequest} {view : PolicyVersionRow}
    (holds : Reported platform served store)
    (accepted : serveBundle platform request store = .ok (next, view)) :
    Reported platform (served ++ [(request, view)]) next := by
  cases request with
  | publish context answers request policyVersionId occurredAt =>
      constructor
      · rw [List.foldl_concat]
        exact serves_published holds.serves accepted
      · intro series row
        rw [lastActivation?_concat, activatesIn, if_neg Bool.false_ne_true, holds.last]
        refine and_congr_left fun active => ?_
        exact (active_of_published accepted active.2).symm
  | activate context answers request occurredAt =>
      have serves := serves_activated holds.serves accepted
      obtain ⟨stored, inForce⟩ := activateBundle_stored holds.serves accepted
      constructor
      · rw [List.foldl_concat]
        exact serves
      · intro series row
        rw [lastActivation?_concat, activatesIn]
        by_cases same : view.series = series
        · rw [if_pos (decide_eq_true same), Option.some.injEq]
          constructor
          · rintro rfl
            exact ⟨stored, same, inForce⟩
          · rintro ⟨member, here, active⟩
            exact serves.display.active_unique stored member (same.trans here.symm) inForce active
        · rw [if_neg (mt of_decide_eq_true same), holds.last]
          refine and_congr_left fun active => ?_
          have foreign : row.series ≠ view.series := fun here => same (here.symm.trans active.1)
          exact (active_of_activated accepted foreign active.2).symm

variable (platform) (requests : List BundleRequest)

theorem bundles_reported :
    Reported platform (Transaction.accepted (serveBundle platform) .empty requests)
      (servedStore platform requests) :=
  Transaction.run_recorded (Reported platform) (fun _ _ _ _ _ => Reported.step)
    (reported_empty platform) requests

/-- What a lookup is to answer after the accepted requests. -/
def lastAnswer (served : List (BundleRequest × PolicyVersionRow)) (context : PolicyContext)
    (answers : SessionAnswers) (policyName : ScriptString) :
    Except PolicyBundleFailure PolicyVersionRow :=
  if isPolicyName policyName ≠ true then .error (.refused "POLICY_NAME_INVALID")
  else if answers.actorIsActive ≠ true then
    .error (.database (.raised "Active policy bundle lookup denied."))
  else (lastActivation? served (context.tenantId, policyName)).elim
    (.error (.refused "ACTIVE_POLICY_BUNDLE_MISSING")) .ok

/-- After every run of requests a lookup answers with the reply to the last accepted activation of
its series. -/
theorem lookup_reads_last_activation (context : PolicyContext) (answers : SessionAnswers)
    (policyName : ScriptString) :
    lookupActive platform context answers policyName (servedStore platform requests) =
      lastAnswer (Transaction.accepted (serveBundle platform) .empty requests) context answers
        policyName := by
  have holds := bundles_reported platform requests
  have serves : (servedRegistry platform requests).Serves platform
    (servedStore platform requests) := holds.serves
  obtain ⟨updatedAt, rows⟩ := activeRows serves.display (context.tenantId, policyName)
  have last : lastActivation? (Transaction.accepted (serveBundle platform) .empty requests)
      (context.tenantId, policyName) =
        ((servedRegistry platform requests).inForce? (context.tenantId, policyName)).map
          fun current => current.1.shown current.2 updatedAt := by
    apply Option.ext
    intro row
    rw [holds.last, ← Option.mem_toList, ← rows, List.mem_filter, decide_eq_true_eq]
    rfl
  rw [lookupActive_rows serves rows, BundleRegistry.answer, lastAnswer, last,
    Option.elim_map]
  rfl

end Runs

end TenantTrust.Policy
