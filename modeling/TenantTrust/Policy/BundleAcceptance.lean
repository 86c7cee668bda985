import TenantTrust.Library.WholeNumbers
import TenantTrust.Policy.BundleRoundTrip
import TenantTrust.Trust.StoredRoundTrip

/-! When the database stores a bundle that the service has built: beyond the checks of the service
it asks for a text and a number within its bounds, for strings that `jsonb` holds, for data that
are an object, and for the next number and a new identifier. -/

namespace TenantTrust.Policy

open Library Identity Api Trust

theorem ofRat_natCast {n : Nat} (small : n ≤ MAX_SAFE_INTEGER) :
    ∃ x : Binary64, x.value = n ∧ ∃ bounded, Number.ofRat n = .finite x bounded := by
  have rounded : Binary64.nearest (n : ℚ) = n := by
    have exact_ := Binary64.nearest_intCast (n := n)
      (by rw [Nat.abs_cast]; exact_mod_cast Nat.lt_succ_of_le small)
    exact_mod_cast exact_
  have bounded : |(Binary64.ofRat n).value| < 2 ^ 1024 := by
    have least : (n : ℚ) ≤ MAX_SAFE_INTEGER := by exact_mod_cast small
    have most : (MAX_SAFE_INTEGER : ℚ) < 2 ^ 1024 := by
      have powers : (2 : ℚ) ^ 53 ≤ 2 ^ 1024 := pow_le_pow_right₀ (by norm_num) (by norm_num)
      refine lt_of_lt_of_le ?_ powers
      norm_num [MAX_SAFE_INTEGER]
    change |Binary64.nearest (n : ℚ)| < 2 ^ 1024
    rw [rounded, Nat.abs_cast]
    exact lt_of_le_of_lt least most
  exact ⟨.ofRat n, rounded, bounded, dif_pos bounded⟩

theorem ofRat_finite {n : Nat} (small : n ≤ MAX_SAFE_INTEGER) :
    (Number.ofRat n).isFinite = true := by
  obtain ⟨_, _, _, same⟩ := ofRat_natCast small
  rw [same]
  rfl

/-- The database reads a version number that the service wrote as that number. -/
theorem integer?_ofRat {n : Nat} (small : n ≤ MAX_INTEGER) :
    integer? (.number (.ofRat n)) = some (n : Int) := by
  obtain ⟨x, value, _, same⟩ := ofRat_natCast (small.trans (by decide))
  have written := Binary64.numeral_of_natCast value (lt_of_le_of_lt small (by decide))
  rw [same, integer?, written]
  simp

section Documents

variable {context : PolicyContext} {request : PublishRequest}
  {policyVersionId checkedAt : ScriptString} {content : BundleContent}

/-- Every content that the service builds has a canonical text. -/
theorem Builds.wellFormed (builds : Builds context request policyVersionId checkedAt content) :
    content.document.WellFormed := by
  apply builds.distinct.wellFormed
  have data : content.data.numbersFinite = true := by
    rw [builds.data.2]
    exact builds.data.1.sorted.numbersFinite
  have version : (JsonValue.number (.ofRat content.bundleVersion)).numbersFinite = true := by
    rw [builds.bundleVersion]
    exact ofRat_finite builds.numbered.2
  have modules : JsonValue.itemsFinite (content.modules.map PolicyModule.document) = true := by
    rw [JsonValue.itemsFinite_iff]
    intro value member
    obtain ⟨module_, _, rfl⟩ := List.mem_map.mp member
    rfl
  rw [BundleContent.document, JsonValue.numbersFinite, JsonValue.membersFinite_iff]
  simp only [List.forall_mem_cons, entry]
  exact ⟨rfl, rfl, rfl, rfl, version, rfl, modules, data, rfl,
    fun _ absent => absurd absent List.not_mem_nil⟩

theorem document_member (name : String) (value : JsonValue)
    (builds : Builds context request policyVersionId checkedAt content)
    (listed : (script name, value) ∈ [entry "schemaVersion" (.string (script "1.0.0")),
      entry "tenantId" (.string content.tenantId),
      entry "policyVersionId" (.string content.policyVersionId),
      entry "policyName" (.string content.policyName),
      entry "bundleVersion" (.number (.ofRat content.bundleVersion)),
      entry "entrypoint" (.string content.entrypoint),
      entry "modules" (.array (content.modules.map PolicyModule.document)),
      entry "data" content.data,
      entry "validation" (content.receipt.document content.checkedAt)]) :
    content.document.sorted.member? (script name) = some value.sorted :=
  builds.wellFormed.member?_sorted_of_mem listed

theorem get_of_member {document value : JsonValue} {name : String}
    (found : document.member? (script name) = some value) : document.get name = value := by
  rw [JsonValue.get, found]
  rfl

theorem isObject_sorted (value : JsonValue) : isObject value.sorted = isObject value := by
  cases value with
  | object members =>
      rw [JsonValue.sorted_object]
      rfl
  | array items =>
      rw [JsonValue.sorted_array]
      rfl
  | _ => rfl

theorem document_object (content : BundleContent) :
    ∃ members, content.document.sorted = .object members ∧ members.length = 9 := by
  refine ⟨_, JsonValue.sorted_object _, ?_⟩
  rw [List.length_map, (JsonValue.sortMembers_perm _).length_eq]
  rfl

theorem validation_member (name : String) (value : JsonValue) {receipt : ValidationReceipt}
    (listed : (script name, value) ∈ [entry "engine" (.string receipt.engine),
      entry "engineVersion" (.string receipt.engineVersion),
      entry "regoVersion" (.string receipt.regoVersion), entry "checkedAt" (.string checkedAt)]) :
    (receipt.document checkedAt).sorted.member? (script name) = some value.sorted := by
  have wellFormed : (receipt.document checkedAt).WellFormed := by
    refine .object validationFields_distinct ?_
    simp only [List.forall_mem_cons]
    exact ⟨.string _, .string _, .string _, .string _, nofun⟩
  exact wellFormed.member?_sorted_of_mem listed

/-- The fields of the document as the database and the lookup find them. -/
structure DocumentFields (content : BundleContent) (document : JsonValue) : Prop where
  schemaVersion : document.member? (script "schemaVersion") = some (.string (script "1.0.0"))
  tenantId : document.member? (script "tenantId") = some (.string content.tenantId)
  policyVersionId : document.member? (script "policyVersionId") =
    some (.string content.policyVersionId)
  policyName : document.member? (script "policyName") = some (.string content.policyName)
  bundleVersion : document.member? (script "bundleVersion") =
    some (.number (.ofRat content.bundleVersion))
  entrypoint : document.member? (script "entrypoint") = some (.string content.entrypoint)
  modules : ∃ items, document.member? (script "modules") = some (.array items) ∧
    items.length = content.modules.length
  data : document.member? (script "data") = some content.data.sorted
  validation : ∃ members, document.member? (script "validation") = some (.object members) ∧
    (JsonValue.object members).member? (script "engine") = some (.string content.receipt.engine) ∧
    (JsonValue.object members).member? (script "engineVersion") =
      some (.string content.receipt.engineVersion) ∧
    (JsonValue.object members).member? (script "regoVersion") =
      some (.string content.receipt.regoVersion) ∧
    (JsonValue.object members).member? (script "checkedAt") = some (.string content.checkedAt)

theorem documentFields (builds : Builds context request policyVersionId checkedAt content) :
    DocumentFields content content.document.sorted where
  schemaVersion := document_member "schemaVersion" (.string _) builds (by simp [entry])
  tenantId := document_member "tenantId" (.string _) builds (by simp [entry])
  policyVersionId := document_member "policyVersionId" (.string _) builds (by simp [entry])
  policyName := document_member "policyName" (.string _) builds (by simp [entry])
  bundleVersion := document_member "bundleVersion" (.number _) builds (by simp [entry])
  entrypoint := document_member "entrypoint" (.string _) builds (by simp [entry])
  modules := by
    refine ⟨_, (document_member "modules"
      (.array (content.modules.map PolicyModule.document)) builds (by simp [entry])).trans
      (congrArg some (JsonValue.sorted_array _)), ?_⟩
    rw [List.length_map, List.length_map]
  data := document_member "data" content.data builds (by simp [entry])
  validation := by
    have shape := JsonValue.sorted_object [entry "engine" (.string content.receipt.engine),
      entry "engineVersion" (.string content.receipt.engineVersion),
      entry "regoVersion" (.string content.receipt.regoVersion),
      entry "checkedAt" (.string content.checkedAt)]
    refine ⟨_, (document_member "validation"
      (content.receipt.document content.checkedAt) builds (by simp [entry])).trans
      (congrArg some shape), ?_⟩
    rw [← shape]
    exact ⟨validation_member "engine" (.string _) (by simp [entry]),
      validation_member "engineVersion" (.string _) (by simp [entry]),
      validation_member "regoVersion" (.string _) (by simp [entry]),
      validation_member "checkedAt" (.string _) (by simp [entry])⟩

/-- What `jsonb` refuses of a text that the service wrote are strings that are no text. -/
theorem jsonb?_canonical {value document : JsonValue} (wellFormed : value.WellFormed) :
    jsonb? (canonicalValue value) = some document ↔
      document = value.sorted ∧ ∀ s ∈ value.strings, s.isText = true := by
  have strings : value.sorted.strings.all ScriptString.isText = true ↔
      ∀ s ∈ value.strings, s.isText = true := by
    rw [List.all_eq_true]
    constructor
    · intro each s occurs
      exact each s (wellFormed.mem_strings_sorted.mpr occurs)
    · intro each s occurs
      exact each s (wellFormed.mem_strings_sorted.mp occurs)
  have read : jsonb? (canonicalValue value) =
      if value.sorted.strings.all ScriptString.isText then some value.sorted else none := by
    rw [jsonb?, parse_canonicalValue wellFormed]
    rfl
  rw [read]
  split
  case isTrue plain =>
    rw [Option.some.injEq]
    exact ⟨fun same => ⟨same.symm, strings.mp plain⟩, fun both => both.1.symm⟩
  case isFalse other =>
    exact ⟨fun same => absurd same.symm (Option.some_ne_none document),
      fun both => absurd (strings.mpr both.2) other⟩

theorem differs_self (text : ScriptString) : differs (some text.text) text = false := by
  simp [differs]

/-- The document of a content agrees with the statement that carries it, whose data must be an
object. -/
theorem checkDocument_content {crypto : Crypto} {time : TimeText} {call : PublishCall}
    {document : JsonValue} (fields : DocumentFields content document)
    (counted : ∃ members, document = .object members ∧ members.length = 9)
    (builds : Builds context request policyVersionId checkedAt content)
    (small : request.bundleVersion ≤ MAX_INTEGER)
    (tenant : call.session.tenantId = context.tenantId)
    (version : call.policyVersionId = policyVersionId) (name : call.policyName = request.policyName)
    (number : call.bundleVersion = request.bundleVersion)
    (entered : call.entrypoint = request.entrypoint)
    (engine : call.validationEngineVersion = content.receipt.engineVersion)
    (rego : call.regoVersion = some content.receipt.regoVersion)
    (reads : time.timestamptz checkedAt.text = some call.occurredAt)
    (digest : textDigest crypto call.bundleCanonicalJson = call.bundleHashSha256) :
    checkDocument crypto time call document = .ok () ↔ isObject content.data = true := by
  obtain ⟨items, modules, length⟩ := fields.modules
  obtain ⟨members, validation, opa, engineVersion, regoVersion, checked⟩ := fields.validation
  obtain ⟨all, rfl, nine⟩ := counted
  have stated : castValue integer? (some (.number (.ofRat content.bundleVersion))) =
      .ok (some (call.bundleVersion : Int)) := by
    change (requireSome (integer? (.number (.ofRat content.bundleVersion))) _).map some = _
    rw [builds.bundleVersion, integer?_ofRat small, number]
    rfl
  have dated : castValue time.time? (some (.string content.checkedAt)) =
      .ok (some call.occurredAt) := by
    change (requireSome (time.timestamptz content.checkedAt.text) _).map some = _
    rw [builds.checkedAt, reads]
    rfl
  have bounds : 1 ≤ items.length ∧ items.length ≤ 32 := by
    rw [length]
    exact builds.modules
  have objects : isObject (.object members) = true := rfl
  simp only [checkDocument, Checked.bind_eq_ok, Checked.require_eq_ok, memberText?,
    validationText?, fields.schemaVersion, fields.tenantId, fields.policyVersionId,
    fields.policyName, fields.bundleVersion, fields.entrypoint, fields.data, modules, validation,
    opa, engineVersion, regoVersion, checked, Option.bind_some, valueText?, stated, dated]
  simp [nine, builds.tenantId, tenant, builds.versionId, version, builds.policyName, name,
    builds.entrypoint, entered, builds.compiled.1, engine, rego, digest, differs_self,
    arrayLength?, bounds, isObject_sorted, objects]

end Documents

section Rows

variable {store next : PolicyStore} {registry : BundleRegistry} {call : PublishCall}
  {document : JsonValue} {row : PolicyVersionRow}

theorem entrypoint_valid : isEntrypoint ENTRYPOINT = true := by decide

theorem canonical_length {value : JsonValue} (object : isObject value = true) :
    2 ≤ (canonicalValue value).length := by
  cases value with
  | object members => simp [canonicalValue]
  | _ => cases object

/-- A row for the next number under a new identifier passes every constraint of the table. -/
theorem insertVersion_published (holds : registry.Shows store) (valid : call.InputValid)
    (object : isObject document = true)
    (next_ : call.bundleVersion =
      (registry (call.session.tenantId, call.policyName)).contents.length + 1)
    (fresh : store.versions.get? (call.session.tenantId, call.policyVersionId) = none) :
    ∃ versions, insertVersion (publishedRow call document
      (latestBundle? store.versions (call.session.tenantId, call.policyName))) store.versions =
        .ok versions := by
  obtain ⟨_, named, positive, hashed, entered, lengths, semver, rego, _⟩ := valid
  generalize previous : latestBundle? store.versions (call.session.tenantId, call.policyName) =
    latest
  have distinct : latest.map (·.policyVersionId) ≠ some call.policyVersionId := by
    intro same
    obtain ⟨old, rfl, identifier⟩ := Option.map_eq_some_iff.mp same
    have listed := List.mem_filter.mp (List.argmax_mem previous)
    have series : old.series = (call.session.tenantId, call.policyName) :=
      of_decide_eq_true listed.2
    have tenant : old.tenantId = call.session.tenantId := congrArg Prod.fst series
    have key : old.key = (call.session.tenantId, call.policyVersionId) := Prod.ext tenant identifier
    exact (Table.get?_eq_none _ _).mp fresh old listed.1 key
  have unused : ∀ other ∈ store.versions, other.series =
      (publishedRow call document latest).series →
      other.bundleVersion ≠ (publishedRow call document latest).bundleVersion := by
    intro other member series number
    obtain ⟨content, edition, least, _⟩ := holds.position_at member
    rw [series] at edition
    have below := (List.getElem?_eq_some_iff.mp edition).1
    change other.bundleVersion - 1 <
      (registry (call.session.tenantId, call.policyName)).contents.length at below
    change other.bundleVersion = call.bundleVersion at number
    omega
  have dormant : oneActiveName store.versions (publishedRow call document latest) := nofun
  have ordered : (publishedRow call document latest).createdAt ≤
      (publishedRow call document latest).updatedAt := le_max_right _ _
  have shape : (publishedRow call document latest).ShapeCheck :=
    ⟨object, lengths, rfl, semver, rego⟩
  have lifecycle : (publishedRow call document latest).LifecycleCheck := trivial
  have entry_ : isEntrypoint (publishedRow call document latest).entrypoint = true := by
    change isEntrypoint call.entrypoint = true
    rw [entered]
    exact entrypoint_valid
  have inserted : store.versions.insertNew (publishedRow call document latest) =
      some (store.versions.insert (publishedRow call document latest) fresh) := dif_pos fresh
  have checks : (publishedRow call document latest).check = .ok () := by
    simp only [PolicyVersionRow.check, Checked.bind_eq_ok, Checked.require_eq_ok, exists_const]
    exact ⟨named, positive, hashed, entry_, distinct, lifecycle, ordered, shape⟩
  refine ⟨store.versions.insert (publishedRow call document latest) fresh, ?_⟩
  simp only [insertVersion, Checked.bind_eq_ok, Checked.require_eq_ok, Checked.requireSome_eq_ok,
    Checked.pure_eq_ok, exists_const]
  exact ⟨(), checks, _, inserted, unused, dormant, rfl⟩

end Rows

section Acceptance

variable {platform : BundlePlatform} {context : PolicyContext} {answers : SessionAnswers}
  {request : PublishRequest} {policyVersionId : ScriptString} {occurredAt : Timestamp}
  {content : BundleContent} {registry : BundleRegistry} {store next : PolicyStore}

/-- What the database asks of a bundle beyond the checks of the service. -/
structure Storable (registry : BundleRegistry) (store : PolicyStore) (context : PolicyContext)
    (answers : SessionAnswers) (request : PublishRequest) (policyVersionId : ScriptString)
    (occurredAt : Timestamp) (content : BundleContent) : Prop where
  administrator : answers.actorIsTenantAdmin = true
  tenant : answers.tenantActive = true
  timely : withinChangeWindow answers.clock occurredAt = true
  next_ : request.bundleVersion =
    (registry (context.tenantId, request.policyName)).contents.length + 1
  bounded : request.bundleVersion ≤ MAX_INTEGER
  unused : store.versions.get? (context.tenantId, policyVersionId) = none
  short : (canonicalValue content.document).length ≤ MAX_BUNDLE_CHARACTERS
  object : isObject content.data = true
  plain : ∀ s ∈ content.document.strings, s.isText = true
  reason : request.reasonCode.isPlain = true

theorem isReasonCode_sentText {reasonCode : Passed String}
    (tested : isReasonCode reasonCode.read = true) :
    isReasonCode (sentText reasonCode) = true ↔ reasonCode.isPlain = true := by
  cases reasonCode with
  | plain text => exact iff_of_true tested rfl
  | object reference text =>
      -- An opening brace is no capital letter.
      exact iff_of_false (by simp [isReasonCode, matchesPattern, sentText])
        (by simp [Passed.isPlain])

variable (platform context answers request policyVersionId occurredAt content) in
/-- The statement that carries a content. -/
def statement : PublishCall :=
  publishStatement context answers request policyVersionId occurredAt content.receipt
    (canonicalValue content.document)
    (textDigest platform.crypto (canonicalValue content.document))

theorem publication_statement
    (built : contentOf platform context request policyVersionId occurredAt = .ok content) :
    publication platform context answers request policyVersionId occurredAt =
      .ok (statement platform context answers request policyVersionId occurredAt content) := by
  have text := canonicalize_eq_ok.mpr ⟨(contentOf_builds built).wellFormed.numbersFinite, rfl⟩
  rw [publication, built]
  change (canonicalize content.document >>= _) = _
  rw [text]
  change (hashPolicyBundleDocument platform content.document >>= _) = _
  rw [hashPolicyBundleDocument, text]
  rfl

variable (answers) in
/-- The database stores a statement of the service exactly when it is storable. -/
theorem publishPolicyBundle_accepts (lawful : platform.crypto.Lawful)
    (holds : registry.Shows store)
    (builds : Builds context request policyVersionId (platform.time.iso occurredAt) content)
    (reads : platform.time.timestamptz (platform.time.iso occurredAt).text = some occurredAt) :
    (∃ next row, publishPolicyBundle platform.crypto platform.time
      (statement platform context answers request policyVersionId occurredAt content) store =
        .ok (next, row)) ↔
      Storable registry store context answers request policyVersionId occurredAt content := by
  have wellFormed := builds.wellFormed
  have digest : isSha256 (textDigest platform.crypto (canonicalValue content.document)) = true :=
    sha256Hex_form lawful _
  have objects : isObject content.document = true := rfl
  have latest : (latestBundle? store.versions (context.tenantId, request.policyName)).elim 1
      (·.bundleVersion + 1) =
        (registry (context.tenantId, request.policyName)).contents.length + 1 :=
    BundleRegistry.latestBundle?_length holds
  have checks (small : request.bundleVersion ≤ MAX_INTEGER) :
      checkDocument platform.crypto platform.time
        (statement platform context answers request policyVersionId occurredAt content)
        content.document.sorted = .ok () ↔ isObject content.data = true :=
    checkDocument_content (documentFields builds) (document_object content) builds small rfl rfl rfl
      rfl rfl rfl rfl reads rfl
  constructor
  · rintro ⟨next, row, stored⟩
    simp only [publishPolicyBundle, Checked.bind_eq_ok, Checked.require_eq_ok,
      Checked.requireSome_eq_ok, Checked.pure_eq_ok, exists_const, Prod.mk.injEq] at stored
    obtain ⟨_, small, administrator, ⟨timely, _, _, _, _, ⟨_, short⟩, _, _, reason⟩, document,
      read, _, checked, tenant, _, numbered, versions, inserted, _⟩ := stored
    obtain ⟨rfl, plain⟩ := (jsonb?_canonical wellFormed).mp read
    obtain ⟨fresh, _⟩ := Table.insertNew_eq_some.mp (BundleRegistry.insertVersion_eq_ok inserted)
    exact ⟨administrator, tenant, timely, numbered.trans latest, small, fresh, short,
      (checks small).mp checked, plain, (isReasonCode_sentText builds.reasoned).mp reason⟩
  · intro storable
    have valid : (statement platform context answers request policyVersionId occurredAt
        content).InputValid :=
      ⟨storable.timely, builds.named, builds.numbered.1, digest, builds.entered,
        ⟨canonical_length objects, storable.short⟩, builds.compiled.2.1,
        decide_eq_true builds.compiled.2.2,
        (isReasonCode_sentText builds.reasoned).mpr storable.reason⟩
    have read := (jsonb?_canonical wellFormed).mpr ⟨rfl, storable.plain⟩
    have sortedObject : isObject content.document.sorted = true := by
      rw [isObject_sorted]
      exact objects
    obtain ⟨versions, inserted⟩ := insertVersion_published holds valid sortedObject storable.next_
      storable.unused
    refine ⟨⟨versions, publishedEvent (statement platform context answers request policyVersionId
      occurredAt content) :: store.events⟩, publishedRow (statement platform context answers request
      policyVersionId occurredAt content) content.document.sorted
      (latestBundle? store.versions (context.tenantId, request.policyName)), ?_⟩
    simp only [publishPolicyBundle, Checked.bind_eq_ok, Checked.require_eq_ok,
      Checked.requireSome_eq_ok, Checked.pure_eq_ok, exists_const, Prod.mk.injEq]
    exact ⟨builds.identified, storable.bounded, storable.administrator, valid, _, read, (),
      (checks storable.bounded).mpr storable.object, storable.tenant,
      latest.trans_le (storable.next_.symm.trans_le storable.bounded),
      storable.next_.trans latest.symm, versions, inserted, rfl, rfl⟩

/-- The service confirms the row of every statement that it sends, where the data are an object. -/
theorem validateBundle_built (lawful : platform.crypto.Lawful)
    (builds : Builds context request policyVersionId (platform.time.iso occurredAt) content)
    (object : isObject content.data = true) (previous : Option PolicyVersionRow) :
    validateBundle platform (publishedRow
        (statement platform context answers request policyVersionId occurredAt content)
        content.document.sorted previous) context.tenantId =
      .ok (publishedRow
        (statement platform context answers request policyVersionId occurredAt content)
        content.document.sorted previous) := by
  have fields := documentFields builds
  obtain ⟨items, modules, length⟩ := fields.modules
  obtain ⟨members, validation, opa, engineVersion, regoVersion, checked⟩ := fields.validation
  have wellFormed := builds.wellFormed
  have text : canonicalize content.document.sorted = .ok (canonicalValue content.document) :=
    canonicalize_eq_ok.mpr ⟨wellFormed.sorted.numbersFinite, canonicalValue_sorted wellFormed⟩
  have digest : hashPolicyBundleDocument platform content.document.sorted =
      .ok (textDigest platform.crypto (canonicalValue content.document)) := by
    rw [hashPolicyBundleDocument, text]
    rfl
  have form : isSha256 (textDigest platform.crypto (canonicalValue content.document)) = true :=
    sha256Hex_form lawful _
  simp only [validateBundle, Checked.bind_eq_ok, Checked.require_eq_ok, Checked.pure_eq_ok,
    exists_const]
  have objects : isObject content.document.sorted = true := isObject_sorted _
  have dataObject : isObject content.data.sorted = true := by
    rw [isObject_sorted]
    exact object
  have counted : modulesPresent (.array items) = true := by
    rw [modulesPresent, length]
    exact decide_eq_true builds.modules.1
  have number : isNumber (.number (.ofRat content.bundleVersion)) request.bundleVersion = true := by
    rw [builds.bundleVersion]
    exact decide_eq_true rfl
  refine ⟨⟨rfl, context.tenant_valid, builds.identified, builds.named, builds.numbered, form,
    builds.entered, context.subject_valid⟩, ?_, _, digest, rfl, _, text, rfl, trivial⟩
  simp only [publishedRow, statement, publishStatement, PolicyContext.session,
    get_of_member fields.schemaVersion, get_of_member fields.tenantId,
    get_of_member fields.policyVersionId, get_of_member fields.policyName,
    get_of_member fields.bundleVersion, get_of_member fields.entrypoint, get_of_member fields.data,
    get_of_member modules, get_of_member validation, get_of_member opa,
    get_of_member engineVersion, get_of_member regoVersion, get_of_member checked,
    JsonValue.text?, statesRego, builds.tenantId, builds.versionId, builds.policyName,
    builds.entrypoint, builds.checkedAt, builds.compiled.1, and_true, true_and]
  exact ⟨objects, by decide, number, counted, dataObject, rfl, decide_true _⟩

/-- In every reachable state the service publishes a bundle that it has built exactly when the
database finds it storable. -/
theorem publication_accepted {requests : List BundleRequest} (lawful : platform.crypto.Lawful)
    (reads : platform.time.timestamptz (platform.time.iso occurredAt).text = some occurredAt)
    (built : contentOf platform context request policyVersionId occurredAt = .ok content) :
    (∃ next view, publishBundle platform context answers request policyVersionId occurredAt
      (servedStore platform requests) = .ok (next, view)) ↔
      Storable (servedRegistry platform requests) (servedStore platform requests) context answers
        request policyVersionId occurredAt content := by
  have holds := (bundles_serve platform requests).display
  have builds := contentOf_builds built
  have accepts := publishPolicyBundle_accepts answers lawful holds builds reads
  constructor
  · rintro ⟨next, view, published⟩
    obtain ⟨call, sent, stored, _⟩ := publishBundle_row published
    rw [publication_statement built, Except.ok.injEq] at sent
    rw [← sent] at stored
    exact accepts.mp ⟨next, view, stored⟩
  · intro storable
    obtain ⟨next, row, stored⟩ := accepts.mpr storable
    obtain ⟨document, previous, read, written⟩ :=
      (BundleRegistry.publishPolicyBundle_writes stored).written
    obtain ⟨rfl, _⟩ := (jsonb?_canonical builds.wellFormed).mp read
    have parsed : JsonValue.parse row.bundleCanonicalJson = some row.bundleDocument := by
      rw [written]
      exact jsonb?_parse read
    have valid : validateBundle platform row context.tenantId = .ok row := by
      rw [written]
      exact validateBundle_built lawful builds storable.object previous
    refine ⟨next, row, ?_⟩
    simp only [publishBundle, Checked.bind_eq_ok, Checked.mapError_eq_ok, Checked.require_eq_ok,
      Checked.pure_eq_ok, exists_const]
    refine ⟨_, publication_statement built, (next, row), stored, row, mapBundle_confirmed parsed,
      row, valid, ?_, rfl⟩
    rw [written]
    exact ⟨rfl, rfl, rfl, rfl, rfl⟩

end Acceptance

namespace BundleScenario

def epoch : ScriptString := script "1970-01-01T00:00:00.000Z"

def platform : BundlePlatform where
  crypto := StorageScenario.crypto
  time := ⟨fun _ => epoch, fun text => if text = epoch.text then some 0 else none⟩
  localeCompare := fun left right => left ≤ right
  compile := fun _ _ => some ⟨script "opa", script "1.2.3", script "v1"⟩

def context : PolicyContext where
  tenantId := script "tnt_00000000-0000-4000-8000-000000000001"
  subjectId := script "sub_00000000-0000-4000-8000-000000000002"
  roles := [.tenantAdmin]
  tenant_valid := by decide
  subject_valid := by decide

def answers : SessionAnswers := ⟨true, true, true, 0⟩

def policyVersionId : ScriptString := script "pol_00000000-0000-4000-8000-000000000003"

/-- A request for the first bundle of a policy, with these data. -/
def asking (data : JsonValue) (distinct : data.NamesDistinct) : PublishRequest where
  policyName := script "baseline"
  bundleVersion := 1
  entrypoint := ENTRYPOINT
  modules := [⟨script "main.rego", script "package tenant_trust.authorization"⟩]
  data := data
  data_distinct := distinct
  reasonCode := .plain "POLICY_PUBLISHED"

def contentWith (data : JsonValue) : BundleContent where
  tenantId := context.tenantId
  policyVersionId := policyVersionId
  policyName := script "baseline"
  bundleVersion := 1
  entrypoint := ENTRYPOINT
  modules := [⟨script "main.rego", script "package tenant_trust.authorization"⟩]
  data := data
  receipt := ⟨script "opa", script "1.2.3", script "v1"⟩
  checkedAt := epoch

theorem object_distinct : (JsonValue.object []).NamesDistinct := .object List.nodup_nil nofun

theorem list_distinct : (JsonValue.array []).NamesDistinct := .array nofun

theorem object_built : contentOf platform context (asking (.object []) object_distinct)
    policyVersionId 0 = .ok (contentWith (.object [])) := by
  rfl

theorem list_built : contentOf platform context (asking (.array []) list_distinct)
    policyVersionId 0 = .ok (contentWith (.array [])) := by
  rfl

theorem object_text : (canonicalValue (contentWith (.object [])).document).length ≤
      MAX_BUNDLE_CHARACTERS ∧
    ∀ s ∈ (contentWith (.object [])).document.strings, s.isText = true := by
  decide +kernel

/-- The service builds both bundles; the database stores the one whose data are an object. -/
theorem publication_accepted_once :
    (∃ next view, publishBundle platform context answers (asking (.object []) object_distinct)
      policyVersionId 0 (servedStore platform []) = .ok (next, view)) ∧
    ¬ ∃ next view, publishBundle platform context answers (asking (.array []) list_distinct)
      policyVersionId 0 (servedStore platform []) = .ok (next, view) := by
  constructor
  · apply (publication_accepted StorageScenario.lawful rfl object_built).mpr
    exact ⟨rfl, rfl, rfl, rfl, by decide, rfl, object_text.1, rfl, object_text.2, rfl⟩
  · intro accepted
    have storable := (publication_accepted StorageScenario.lawful rfl list_built).mp accepted
    exact absurd storable.object (by decide)

end BundleScenario

end TenantTrust.Policy
