import TenantTrust.Policy.BundleRegistry
import TenantTrust.Policy.BundleServices

/-! What the services of policy bundles answer after any run of requests: the lookup returns the
bundle that was activated last, with the document that its publication built. -/

namespace TenantTrust.Policy

open Library Identity Api Trust

section Canonical

variable {value : JsonValue} {text : List Char}

theorem canonicalize_eq_ok :
    canonicalize value = .ok text ↔ value.numbersFinite = true ∧ canonicalValue value = text := by
  simp only [canonicalize, Checked.bind_eq_ok, Checked.require_eq_ok, Checked.pure_eq_ok,
    exists_const]

theorem cloneJson_sorted (distinct : value.NamesDistinct) {copy : JsonValue}
    (cloned : cloneJson value = .ok copy) : value.WellFormed ∧ copy = value.sorted := by
  simp only [cloneJson, Checked.bind_eq_ok, Checked.require_eq_ok, Checked.requireSome_eq_ok,
    exists_const] at cloned
  obtain ⟨text, canonical, _, parsed⟩ := cloned
  obtain ⟨finite, rfl⟩ := canonicalize_eq_ok.mp canonical
  have wellFormed := distinct.wellFormed finite
  rw [parse_canonicalValue wellFormed, Option.some.injEq] at parsed
  exact ⟨wellFormed, parsed.symm⟩

theorem jsonb?_parse {document : JsonValue} (read : jsonb? text = some document) :
    JsonValue.parse text = some document := by
  simp only [jsonb?, Option.bind_eq_bind, Option.bind_eq_some_iff] at read
  obtain ⟨parsed, found, chosen⟩ := read
  split at chosen
  · cases chosen
    exact found
  · cases chosen

theorem validateAdaptive_same {expected : ScriptString} {validated : JsonValue}
    (succeeded : validateAdaptiveAuthorizationPolicyData value expected = .ok validated) :
    validated = value := by
  simp only [validateAdaptiveAuthorizationPolicyData, Checked.bind_eq_ok,
    Checked.pure_eq_ok] at succeeded
  obtain ⟨_, _, _, _, _, _, _, _, _, _, _, _, _, _, same⟩ := succeeded
  exact same.symm

end Canonical

section Documents

theorem modulesFields_distinct : (["path", "source"].map script).Nodup := by decide

theorem validationFields_distinct :
    (["engine", "engineVersion", "regoVersion", "checkedAt"].map script).Nodup := by decide

theorem documentFields_distinct :
    (["schemaVersion", "tenantId", "policyVersionId", "policyName", "bundleVersion", "entrypoint",
      "modules", "data", "validation"].map script).Nodup := by decide

theorem document_distinct (content : BundleContent) (data : content.data.NamesDistinct) :
    content.document.NamesDistinct := by
  have modules : ∀ value ∈ content.modules.map PolicyModule.document, value.NamesDistinct := by
    intro value member
    obtain ⟨module_, _, rfl⟩ := List.mem_map.mp member
    refine .object modulesFields_distinct ?_
    simp only [List.forall_mem_cons]
    exact ⟨.string _, .string _, nofun⟩
  have validation : (content.receipt.document content.checkedAt).NamesDistinct := by
    refine .object validationFields_distinct ?_
    simp only [List.forall_mem_cons]
    exact ⟨.string _, .string _, .string _, .string _, nofun⟩
  refine .object documentFields_distinct ?_
  simp only [List.forall_mem_cons]
  exact ⟨.string _, .string _, .string _, .string _, .number _, .string _, .array modules, data,
    validation, nofun⟩

end Documents

section Requests

variable {platform : BundlePlatform} {context : PolicyContext} {answers : SessionAnswers}
  {request : PublishRequest} {policyVersionId : ScriptString} {occurredAt : Timestamp}
  {content : BundleContent} {call : PublishCall}

theorem mapM_length {Failure α β : Type} {process : α → Except Failure β} {entries : List α}
    {results : List β} (processed : entries.mapM process = .ok results) :
    results.length = entries.length := by
  induction entries generalizing results with
  | nil =>
      cases Checked.pure_eq_ok.mp processed
      rfl
  | cons entry rest ih =>
      rw [List.mapM_cons, Checked.bind_eq_ok] at processed
      obtain ⟨first, _, processed⟩ := processed
      rw [Checked.bind_eq_ok] at processed
      obtain ⟨others, finished, same⟩ := processed
      cases Checked.pure_eq_ok.mp same
      rw [List.length_cons, List.length_cons, ih finished]

theorem normalizeModules_length {modules normalized : List PolicyModule}
    (succeeded : normalizeModules platform modules = .ok normalized) :
    1 ≤ normalized.length ∧ normalized.length ≤ MAX_MODULES := by
  simp only [normalizeModules, Checked.bind_eq_ok, Checked.require_eq_ok, Checked.pure_eq_ok,
    exists_const] at succeeded
  obtain ⟨bounds, each, processed, _, rfl⟩ := succeeded
  rw [List.length_insertionSort, mapM_length processed]
  exact bounds

/-- What the service has checked of the content that it builds for a request. -/
structure Builds (context : PolicyContext) (request : PublishRequest)
    (policyVersionId checkedAt : ScriptString) (content : BundleContent) : Prop where
  tenantId : content.tenantId = context.tenantId
  versionId : content.policyVersionId = policyVersionId
  policyName : content.policyName = request.policyName
  bundleVersion : content.bundleVersion = request.bundleVersion
  entrypoint : content.entrypoint = request.entrypoint
  checkedAt : content.checkedAt = checkedAt
  identified : isPolicyVersionId policyVersionId = true
  named : isPolicyName request.policyName = true
  numbered : 1 ≤ request.bundleVersion ∧ request.bundleVersion ≤ MAX_SAFE_INTEGER
  entered : request.entrypoint = ENTRYPOINT
  reasoned : isReasonCode request.reasonCode.read = true
  modules : 1 ≤ content.modules.length ∧ content.modules.length ≤ MAX_MODULES
  data : request.data.WellFormed ∧ content.data = request.data.sorted
  compiled : content.receipt.engine = script "opa" ∧
    isSemver content.receipt.engineVersion = true ∧ content.receipt.regoVersion = script "v1"

theorem contentOf_builds
    (built : contentOf platform context request policyVersionId occurredAt = .ok content) :
    Builds context request policyVersionId (platform.time.iso occurredAt) content := by
  simp only [contentOf, requireAdmin, normalizePublishRequest, ValidationReceipt.normalize,
    Checked.bind_eq_ok, Checked.require_eq_ok, Checked.requireSome_eq_ok, Checked.pure_eq_ok,
    exists_const] at built
  obtain ⟨_, normalized, ⟨⟨named, positive, safe, entered, reasoned⟩, data, cloned, modules,
    counted, validated, checked, rfl⟩, identified, compiled, _, receipt, ⟨known, rfl⟩, rfl⟩ :=
    built
  obtain ⟨wellFormed, copied⟩ := cloneJson_sorted request.data_distinct cloned
  have same : validated = data := by
    unfold validateData at checked
    split at checked
    · exact validateAdaptive_same (Checked.mapError_eq_ok.mp checked)
    · exact (Except.ok.inj checked).symm
  exact ⟨rfl, rfl, rfl, rfl, rfl, rfl, identified, named, ⟨positive, safe⟩, entered, reasoned,
    normalizeModules_length counted, ⟨wellFormed, same.trans copied⟩, known⟩

theorem Builds.distinct {checkedAt : ScriptString}
    (builds : Builds context request policyVersionId checkedAt content) :
    content.document.NamesDistinct := by
  apply document_distinct
  rw [builds.data.2]
  exact builds.data.1.sorted.namesDistinct

/-- The statement carries the canonical text of the content and its digest. -/
theorem publication_content
    (sent : publication platform context answers request policyVersionId occurredAt = .ok call) :
    ∃ content, contentOf platform context request policyVersionId occurredAt = .ok content ∧
      content.document.WellFormed ∧
      call = publishStatement context answers request policyVersionId occurredAt content.receipt
        (canonicalValue content.document)
        (textDigest platform.crypto (canonicalValue content.document)) := by
  simp only [publication, hashPolicyBundleDocument, Checked.bind_eq_ok, Checked.pure_eq_ok,
    canonicalize_eq_ok] at sent
  obtain ⟨content, built, text, ⟨finite, rfl⟩, digest, ⟨text', ⟨_, rfl⟩, rfl⟩, rfl⟩ := sent
  exact ⟨content, built, (contentOf_builds built).distinct.wellFormed finite, rfl⟩

end Requests

section Answers

variable {platform : BundlePlatform} {row result : PolicyVersionRow} {tenantId : ScriptString}
  {reign : Reign} {updatedAt : Timestamp}

/-- The row carries this content: its document is the content's up to the order of members. -/
structure Carries (platform : BundlePlatform) (row : PolicyVersionRow) (content : BundleContent) :
    Prop where
  document : JsonValue.Same content.document row.bundleDocument
  text : row.bundleCanonicalJson = canonicalValue content.document
  digest : row.bundleHashSha256 = textDigest platform.crypto (canonicalValue content.document)
  tenantId : row.tenantId = content.tenantId
  policyVersionId : row.policyVersionId = content.policyVersionId
  policyName : row.policyName = content.policyName
  bundleVersion : row.bundleVersion = content.bundleVersion

/-- A row whose document is what its canonical text reads as and that the service accepts. -/
structure Confirmed (platform : BundlePlatform) (row : PolicyVersionRow) : Prop where
  read : JsonValue.parse row.bundleCanonicalJson = some row.bundleDocument
  valid : validateBundle platform row row.tenantId = .ok row

theorem mapBundle_confirmed
    (read : JsonValue.parse row.bundleCanonicalJson = some row.bundleDocument) :
    mapBundle row = .ok row := by
  rw [mapBundle, read]
  rfl

theorem validateBundle_same (valid : validateBundle platform row tenantId = .ok result) :
    result = row ∧ row.tenantId = tenantId := by
  simp only [validateBundle, Checked.bind_eq_ok, Checked.require_eq_ok, Checked.pure_eq_ok,
    exists_const] at valid
  obtain ⟨⟨same, _⟩, _, _, _, _, _, _, _, rfl⟩ := valid
  exact ⟨rfl, same⟩

/-- The checks of an answer do not read the state of the row. -/
theorem Confirmed.shown (confirmed : Confirmed platform row) :
    Confirmed platform (row.shown reign updatedAt) := by
  refine ⟨confirmed.read, ?_⟩
  have valid := confirmed.valid
  simp only [validateBundle, Checked.bind_eq_ok, Checked.require_eq_ok, Checked.pure_eq_ok,
    exists_const] at valid ⊢
  obtain ⟨first, second, digest, hashed, same, text, canonical, written, _⟩ := valid
  exact ⟨first, second, digest, hashed, same, text, canonical, written, trivial⟩

end Answers

section Operations

variable {platform : BundlePlatform} {context : PolicyContext} {answers : SessionAnswers}
  {store next : PolicyStore} {view row : PolicyVersionRow} {occurredAt : Timestamp}

/-- The answer of a publication is the row that the database inserted, and it carries what the
request asked to publish. -/
theorem publishBundle_row {request : PublishRequest} {policyVersionId : ScriptString}
    (published : publishBundle platform context answers request policyVersionId occurredAt store =
      .ok (next, view)) : ∃ call,
      publication platform context answers request policyVersionId occurredAt = .ok call ∧
      publishPolicyBundle platform.crypto platform.time call store = .ok (next, view) ∧
      Confirmed platform view ∧ ∃ content,
        contentOf platform context request policyVersionId occurredAt = .ok content ∧
        Carries platform view content := by
  simp only [publishBundle, Checked.bind_eq_ok, Checked.mapError_eq_ok, Checked.require_eq_ok,
    Checked.pure_eq_ok, exists_const] at published
  obtain ⟨call, sent, ⟨after, row⟩, stored, result, mapped, answer, valid, confirmed, same⟩ :=
    published
  obtain ⟨rfl, rfl⟩ := Prod.mk.inj same
  obtain ⟨document, previous, read, written⟩ :=
    (BundleRegistry.publishPolicyBundle_writes stored).written
  have parsed : JsonValue.parse row.bundleCanonicalJson = some row.bundleDocument := by
    rw [written]
    exact jsonb?_parse read
  rw [mapBundle_confirmed parsed, Except.ok.injEq] at mapped
  subst mapped
  obtain ⟨rfl, tenant⟩ := validateBundle_same valid
  obtain ⟨content, built, wellFormed, same⟩ := publication_content sent
  have builds := contentOf_builds built
  refine ⟨call, sent, stored, ⟨parsed, by rw [tenant]; exact valid⟩, content, built, ?_⟩
  rw [written] at parsed ⊢
  rw [same] at parsed ⊢
  constructor
  · have sorted : document = content.document.sorted := by
      change JsonValue.parse (canonicalValue content.document) = some document at parsed
      rw [parse_canonicalValue wellFormed, Option.some.injEq] at parsed
      exact parsed.symm
    change JsonValue.Same content.document document
    rw [sorted]
    exact wellFormed.same_sorted
  · rfl
  · rfl
  · exact builds.tenantId.symm
  · exact builds.versionId.symm
  · exact builds.policyName.symm
  · exact builds.bundleVersion.symm

/-- The answer of an activation is the row that the database updated, with the document that its
canonical text reads as. -/
theorem activateBundle_row {request : ActivationRequest}
    (activated : activateBundle platform context answers request occurredAt store =
      .ok (next, view)) : ∃ call row document, call.occurredAt = occurredAt ∧
      activatePolicyBundle call store = .ok (next, row) ∧
      JsonValue.parse row.bundleCanonicalJson = some document ∧
      view = { row with bundleDocument := document } := by
  simp only [activateBundle, activation, requireAdmin, mapBundle, Checked.bind_eq_ok,
    Checked.mapError_eq_ok, Checked.require_eq_ok, Checked.requireSome_eq_ok, Checked.pure_eq_ok,
    exists_const] at activated
  obtain ⟨call, ⟨_, _, rfl⟩, ⟨after, row⟩, stored, result, ⟨document, parsed, rfl⟩, answer, valid,
    _, same⟩ := activated
  obtain ⟨rfl, rfl⟩ := Prod.mk.inj same
  obtain ⟨rfl, _⟩ := validateBundle_same valid
  exact ⟨_, row, document, rfl, stored, parsed, rfl⟩

/-- What an accepted request does to the series. -/
def BundleRegistry.serve (registry : BundleRegistry) :
    BundleRequest × PolicyVersionRow → BundleRegistry
  | (.publish .., view) => registry.publish view
  | (.activate _ _ _ occurredAt, view) => registry.activate view occurredAt

/-- The store shows the series, and the services accept each of their editions. -/
structure BundleRegistry.Serves (platform : BundlePlatform) (registry : BundleRegistry)
    (store : PolicyStore) : Prop where
  display : registry.Shows store
  confirmed : ∀ (series : Series) (n : Nat) (content : PolicyVersionRow),
    (registry series).contents[n]? = some content → Confirmed platform content

theorem serves_published {registry : BundleRegistry} {request : PublishRequest}
    {policyVersionId : ScriptString} (holds : registry.Serves platform store)
    (published : publishBundle platform context answers request policyVersionId occurredAt store =
      .ok (next, view)) : (registry.publish view).Serves platform next := by
  obtain ⟨call, _, stored, confirmed, _⟩ := publishBundle_row published
  refine ⟨BundleRegistry.shows_published holds.display stored, ?_⟩
  intro series n content edition
  rcases BundleRegistry.contents_publish edition with old | rfl
  · exact holds.confirmed series n content old
  · exact confirmed

theorem activate_congr (registry : BundleRegistry) (series : view.series = row.series)
    (version : view.bundleVersion = row.bundleVersion) :
    registry.activate view occurredAt = registry.activate row occurredAt := by
  unfold BundleRegistry.activate
  simp only [series, version]

theorem serves_activated {registry : BundleRegistry} {request : ActivationRequest}
    (holds : registry.Serves platform store)
    (activated : activateBundle platform context answers request occurredAt store =
      .ok (next, view)) : (registry.activate view occurredAt).Serves platform next := by
  obtain ⟨call, row, document, time, stored, _, written⟩ := activateBundle_row activated
  have series : view.series = row.series := by rw [written]; rfl
  have version : view.bundleVersion = row.bundleVersion := by rw [written]
  rw [activate_congr registry series version, ← time]
  refine ⟨BundleRegistry.shows_activated holds.display stored, ?_⟩
  intro other n content edition
  rw [BundleRegistry.contents_activate] at edition
  exact holds.confirmed other n content edition

end Operations

section Lookup

variable {platform : BundlePlatform} {registry : BundleRegistry} {store : PolicyStore}
  {series : Series} {n : Nat} {content : PolicyVersionRow}

/-- The edition of a series that is in force, with its reign. -/
def BundleRegistry.inForce? (registry : BundleRegistry) (series : Series) :
    Option (PolicyVersionRow × Reign) :=
  (registry series).current?.bind fun n =>
    (registry series).contents[n]?.map fun content => (content, (registry series).reign? n)

/-- A list without repetitions whose members are all one value has that value only. -/
theorem eq_singleton {α : Type} {list : List α} {value : α} (distinct : list.Nodup)
    (member : value ∈ list) (same : ∀ other ∈ list, other = value) : list = [value] := by
  rw [List.eq_replicate_of_mem same] at distinct member ⊢
  have single := List.nodup_replicate.mp distinct
  have nonempty := (List.mem_replicate.mp member).1
  have one : list.length = 1 := by omega
  rw [one]
  rfl

/-- The active rows of a series are the edition in force, where there is one. -/
theorem activeRows (holds : registry.Shows store) (series : Series) : ∃ updatedAt,
    (store.versions.rows.filter fun row => row.series = series ∧ row.state = .active) =
      ((registry.inForce? series).map fun current => current.1.shown current.2 updatedAt).toList
      := by
  cases current : (registry series).current? with
  | none =>
      refine ⟨0, ?_⟩
      rw [BundleRegistry.inForce?, current, Option.bind_none, Option.map_none, Option.toList_none,
        List.filter_eq_nil_iff]
      intro row member chosen
      obtain ⟨here, active⟩ := of_decide_eq_true chosen
      obtain ⟨since, reigned, _⟩ := holds.active_current member active
      rw [here] at reigned
      rw [Editions.current?_eq_some.mpr ⟨since, reigned⟩] at current
      cases current
  | some n =>
      obtain ⟨since, reigned⟩ := Editions.current?_eq_some.mp current
      have edition := List.getElem?_eq_getElem (Editions.current?_lt current)
      obtain ⟨old, found, _, same⟩ := BundleRegistry.activeBundle?_current holds edition reigned
      obtain ⟨member, here, active⟩ := BundleRegistry.activeBundle?_spec found
      refine ⟨old.updatedAt, ?_⟩
      rw [BundleRegistry.inForce?, current, Option.bind_some, edition, Option.map_some,
        Option.map_some, reigned, ← same, Option.toList_some]
      apply eq_singleton ((List.Nodup.of_map _ store.versions.distinct).filter _)
      · exact List.mem_filter.mpr ⟨member, decide_eq_true ⟨here, active⟩⟩
      · intro other listed
        obtain ⟨present, chosen⟩ := List.mem_filter.mp listed
        obtain ⟨sameSeries, otherActive⟩ := of_decide_eq_true chosen
        exact holds.active_unique present member (sameSeries.trans here.symm) otherActive active

theorem inForce?_spec {reign : Reign}
    (current : registry.inForce? series = some (content, reign)) : ∃ (n : Nat) (since : Timestamp),
      (registry series).contents[n]? = some content ∧ reign = some (since, none) := by
  simp only [BundleRegistry.inForce?, Option.bind_eq_some_iff, Option.map_eq_some_iff,
    Prod.mk.injEq] at current
  obtain ⟨n, number, content', edition, rfl, rfl⟩ := current
  obtain ⟨since, reigned⟩ := Editions.current?_eq_some.mp number
  exact ⟨n, since, edition, reigned⟩

/-- The repository finds the edition in force. -/
theorem getActive_inForce (holds : registry.Serves platform store) {context : PolicyContext}
    {answers : SessionAnswers} {policyName : ScriptString} (active : answers.actorIsActive = true)
    {updatedAt : Timestamp}
    (rows : (store.versions.rows.filter fun row =>
        row.series = (context.tenantId, policyName) ∧ row.state = .active) =
      ((registry.inForce? (context.tenantId, policyName)).map fun current =>
        current.1.shown current.2 updatedAt).toList) :
    getActive context answers policyName store =
      .ok ((registry.inForce? (context.tenantId, policyName)).map fun current =>
        current.1.shown current.2 updatedAt) := by
  have answered : getActivePolicyBundle (context.session answers) policyName store =
      .ok ((registry.inForce? (context.tenantId, policyName)).map fun current =>
        current.1.shown current.2 updatedAt).toList := by
    rw [← rows, getActivePolicyBundle, require, PolicyContext.session, if_pos active]
    rfl
  rw [getActive, answered]
  cases current : registry.inForce? (context.tenantId, policyName) with
  | none => rfl
  | some found =>
      obtain ⟨content, reign⟩ := found
      obtain ⟨n, since, edition, _⟩ := inForce?_spec current
      have confirmed := holds.confirmed _ n content edition
      rw [Option.map_some, Option.toList_some]
      change (mapBundle (content.shown reign updatedAt)).map some = _
      rw [mapBundle_confirmed confirmed.shown.read]
      rfl

/-- What a lookup is to answer. -/
def BundleRegistry.answer (registry : BundleRegistry) (context : PolicyContext)
    (answers : SessionAnswers) (policyName : ScriptString) (updatedAt : Timestamp) :
    Except PolicyBundleFailure PolicyVersionRow :=
  if isPolicyName policyName ≠ true then .error (.refused "POLICY_NAME_INVALID")
  else if answers.actorIsActive ≠ true then
    .error (.database (.raised "Active policy bundle lookup denied."))
  else (registry.inForce? (context.tenantId, policyName)).elim
    (.error (.refused "ACTIVE_POLICY_BUNDLE_MISSING"))
    fun current => .ok (current.1.shown current.2 updatedAt)

/-- A lookup answers with the edition in force. -/
theorem lookupActive_rows (holds : registry.Serves platform store) {context : PolicyContext}
    {answers : SessionAnswers} {policyName : ScriptString} {updatedAt : Timestamp}
    (rows : (store.versions.rows.filter fun row =>
        row.series = (context.tenantId, policyName) ∧ row.state = .active) =
      ((registry.inForce? (context.tenantId, policyName)).map fun current =>
        current.1.shown current.2 updatedAt).toList) :
    lookupActive platform context answers policyName store =
      registry.answer context answers policyName updatedAt := by
  rw [BundleRegistry.answer]
  by_cases named : isPolicyName policyName = true
  · rw [if_neg (not_not_intro named), lookupActive, require, if_pos named]
    by_cases active : answers.actorIsActive = true
    · rw [if_neg (not_not_intro active), getActive_inForce holds active rows]
      cases current : registry.inForce? (context.tenantId, policyName) with
      | none => rfl
      | some found =>
          obtain ⟨content, reign⟩ := found
          obtain ⟨n, since, edition, reigned⟩ := inForce?_spec current
          have series := (holds.display.placed _ n content edition).1
          have tenant : content.tenantId = context.tenantId := congrArg Prod.fst series
          have name : content.policyName = policyName := congrArg Prod.snd series
          have valid : validateBundle platform (content.shown reign updatedAt) content.tenantId =
              .ok (content.shown reign updatedAt) :=
            (holds.confirmed _ n content edition).shown.valid
          have state : bundleState reign = .active := by rw [reigned]; rfl
          change (validateBundle platform (content.shown reign updatedAt) context.tenantId >>=
            _) = _
          rw [← tenant, valid]
          change (require (bundleState reign = .active ∧ content.policyName = policyName) _ >>=
            _) = _
          rw [require, if_pos ⟨state, name⟩]
          rfl
    · rw [if_pos active, getActive, getActivePolicyBundle, require, PolicyContext.session,
        if_neg active]
      rfl
  · rw [if_pos named, lookupActive, require, if_neg named]
    rfl

theorem lookupActive_current (holds : registry.Serves platform store) (context : PolicyContext)
    (answers : SessionAnswers) (policyName : ScriptString) : ∃ updatedAt,
    lookupActive platform context answers policyName store =
      registry.answer context answers policyName updatedAt := by
  obtain ⟨updatedAt, rows⟩ := activeRows holds.display (context.tenantId, policyName)
  exact ⟨updatedAt, lookupActive_rows holds rows⟩

end Lookup

section Runs

variable (platform : BundlePlatform) (requests : List BundleRequest)

/-- What the accepted requests of a run made of the series. -/
def servedRegistry : BundleRegistry :=
  (Transaction.accepted (serveBundle platform) .empty requests).foldl BundleRegistry.serve .empty

def servedStore : PolicyStore := Transaction.run (serveBundle platform) .empty requests

theorem bundles_serve :
    (servedRegistry platform requests).Serves platform (servedStore platform requests) := by
  apply Transaction.run_simulated
  · intro registry store request next view holds succeeded
    cases request with
    | publish context answers request policyVersionId occurredAt =>
        exact serves_published holds succeeded
    | activate context answers request occurredAt => exact serves_activated holds succeeded
  · exact ⟨BundleRegistry.shows_empty, fun _ _ _ edition => nomatch edition⟩

/-- Every edition carries what one of these publications asked for. -/
def RequestedBy (served : List (BundleRequest × PolicyVersionRow)) : Prop :=
  ∀ (series : Series) (n : Nat) (row : PolicyVersionRow),
    (served.foldl BundleRegistry.serve .empty series).contents[n]? = some row →
    ∃ context answers request policyVersionId occurredAt content,
      (BundleRequest.publish context answers request policyVersionId occurredAt, row) ∈ served ∧
      contentOf platform context request policyVersionId occurredAt = .ok content ∧
      Carries platform row content

variable {platform}

theorem RequestedBy.step {served : List (BundleRequest × PolicyVersionRow)}
    {store next : PolicyStore} {op : BundleRequest} {reply : PolicyVersionRow}
    (requested : RequestedBy platform served)
    (applied : serveBundle platform op store = .ok (next, reply)) :
    RequestedBy platform (served ++ [(op, reply)]) := by
  intro series n row edition
  rw [List.foldl_concat] at edition
  have earlier : (served.foldl BundleRegistry.serve .empty series).contents[n]? = some row →
      ∃ context answers request policyVersionId occurredAt content,
        (BundleRequest.publish context answers request policyVersionId occurredAt, row) ∈
          served ++ [(op, reply)] ∧
        contentOf platform context request policyVersionId occurredAt = .ok content ∧
        Carries platform row content := by
    intro old
    obtain ⟨context, answers, request, policyVersionId, occurredAt, content, member, carried⟩ :=
      requested series n row old
    exact ⟨context, answers, request, policyVersionId, occurredAt, content,
      List.mem_append_left _ member, carried⟩
  cases op with
  | publish context answers request policyVersionId occurredAt =>
      rcases BundleRegistry.contents_publish edition with old | rfl
      · exact earlier old
      · obtain ⟨_, _, _, _, content, built, carries⟩ := publishBundle_row applied
        exact ⟨context, answers, request, policyVersionId, occurredAt, content,
          List.mem_append_right _ List.mem_cons_self, built, carries⟩
  | activate context answers request occurredAt =>
      rw [BundleRegistry.serve, BundleRegistry.contents_activate] at edition
      exact earlier edition

variable (platform)

theorem edition_requested : RequestedBy platform
    (Transaction.accepted (serveBundle platform) .empty requests) := by
  have start : RequestedBy platform [] := fun _ _ _ absent => nomatch absent
  exact Transaction.run_recorded (fun served _ => RequestedBy platform served)
    (fun _ _ _ _ _ => .step) start requests

/-- After every run of requests the rows and the events are those of the series, a lookup answers
with the edition in force, and every edition carries what a publication of the run asked for. -/
theorem bundles_served :
    (servedRegistry platform requests).Shows (servedStore platform requests) ∧
    (∀ context answers policyName, ∃ updatedAt,
      lookupActive platform context answers policyName (servedStore platform requests) =
        (servedRegistry platform requests).answer context answers policyName updatedAt) ∧
    ∀ (series : Series) (n : Nat) (row : PolicyVersionRow),
      (servedRegistry platform requests series).contents[n]? = some row →
      ∃ context answers request policyVersionId occurredAt content,
        BundleRequest.publish context answers request policyVersionId occurredAt ∈ requests ∧
        contentOf platform context request policyVersionId occurredAt = .ok content ∧
        Carries platform row content := by
  have holds := bundles_serve platform requests
  refine ⟨holds.display, lookupActive_current holds, ?_⟩
  intro series n row edition
  obtain ⟨context, answers, request, policyVersionId, occurredAt, content, member, carried⟩ :=
    edition_requested platform requests series n row edition
  exact ⟨context, answers, request, policyVersionId, occurredAt, content,
    Transaction.mem_of_accepted member, carried⟩

end Runs

end TenantTrust.Policy
