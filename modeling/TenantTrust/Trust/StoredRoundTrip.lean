import TenantTrust.Trust.EvidenceStorage

/-! Evidence that was protected is retrieved as it was. -/

namespace TenantTrust.Trust

open Library

theorem matchesEach_replicate {p : CodeUnit → Bool} {s : ScriptString}
    (each : ∀ unit ∈ s, p unit = true) : matchesEach (List.replicate s.length p) s = true := by
  induction s with
  | nil => rfl
  | cons unit rest ih =>
      rw [List.length_cons, List.replicate_succ, matchesEach, each unit List.mem_cons_self,
        ih fun other member => each other (List.mem_cons_of_mem _ member)]
      rfl

theorem safeDigestEqual_self {digest : ScriptString} (form : isSha256 digest) :
    safeDigestEqual digest digest = true := by
  simp [safeDigestEqual, form]

section Envelopes

variable {a b unsigned : JsonValue}

theorem truthy_of_same (same : JsonValue.Same a b) : truthy a = truthy b := by
  cases same with
  | string => rfl
  | _ => rfl

theorem unsignedEvidenceEnvelope_ok (found : unsignedEvidenceEnvelope a = .ok unsigned) :
    ∃ members signature, a = .object members ∧ a.member? (script "signature") = some signature
      ∧ truthy signature ∧ unsigned
        = .object (members.filter fun member => member.1 ≠ script "signature") := by
  cases a with
  | object members =>
      simp only [unsignedEvidenceEnvelope, Checked.bind_eq_ok, Checked.require_eq_ok,
        exists_const, Checked.pure_eq_ok, Option.any_eq_true] at found
      obtain ⟨⟨signature, present, true⟩, rfl⟩ := found
      exact ⟨members, signature, rfl, present, true, rfl⟩
  | _ => cases found

theorem unsigned_wellFormed (wellFormed : a.WellFormed)
    (found : unsignedEvidenceEnvelope a = .ok unsigned) : unsigned.WellFormed := by
  obtain ⟨members, _, rfl, _, _, rfl⟩ := unsignedEvidenceEnvelope_ok found
  refine .object ?_ fun member inside => wellFormed.member (List.mem_of_mem_filter inside)
  exact wellFormed.distinct_names.sublist (List.filter_sublist.map _)

theorem mem_names_filter {members : List (ScriptString × JsonValue)} {name dropped : ScriptString} :
    name ∈ (members.filter fun member => member.1 ≠ dropped).map Prod.fst
      ↔ name ∈ members.map Prod.fst ∧ name ≠ dropped := by
  simp only [List.mem_map, List.mem_filter, decide_eq_true_eq]
  constructor
  · rintro ⟨member, ⟨inside, other⟩, rfl⟩
    exact ⟨⟨member, inside, rfl⟩, other⟩
  · rintro ⟨⟨member, inside, rfl⟩, other⟩
    exact ⟨member, ⟨inside, other⟩, rfl⟩

/-- Dropping the signature respects equality. -/
theorem unsigned_same (same : JsonValue.Same a b) (left : a.WellFormed) (right : b.WellFormed)
    (found : unsignedEvidenceEnvelope a = .ok unsigned) :
    ∃ other, unsignedEvidenceEnvelope b = .ok other ∧ JsonValue.Same unsigned other := by
  obtain ⟨members, signature, rfl, present, true, rfl⟩ := unsignedEvidenceEnvelope_ok found
  obtain ⟨twin, otherPresent, equal⟩ := same.member? left right present
  rw [truthy_of_same equal] at true
  cases same with
  | @object _ others names values =>
      refine ⟨.object (others.filter fun member => member.1 ≠ script "signature"), ?_, ?_⟩
      · simp only [unsignedEvidenceEnvelope, Checked.bind_eq_ok, Checked.require_eq_ok,
          exists_const, Checked.pure_eq_ok, Option.any_eq_true, and_true]
        exact ⟨twin, otherPresent, true⟩
      · refine .object (fun name => ?_) fun name v w first second => ?_
        · rw [mem_names_filter, mem_names_filter, names name]
        · exact values name v w (List.mem_of_mem_filter first) (List.mem_of_mem_filter second)

end Envelopes

section Protection

variable {crypto : Crypto} (lawful : crypto.Lawful)

include lawful in
theorem sha256Hex_form (bytes : Bytes) : isSha256 (sha256Hex crypto bytes) = true := by
  have length : (sha256Hex crypto bytes).length = 64 := by
    rw [sha256Hex, Hex.length_encode, lawful.digest_length]
  rw [isSha256, ← length]
  exact matchesEach_replicate fun _ member => Hex.isDigit_of_mem_encode member

theorem storageAadJson_wellFormed (metadata : StorageMetadata) :
    (storageAadJson metadata).WellFormed := by
  have finite : (Number.ofRat EvidenceStoragePolicy.formatVersion).isFinite = true := by
    decide +kernel
  refine .object ?_ ?_
  · change (["cipher", "contentHashSha256", "encryptionKeyId", "eventId", "formatVersion",
      "sourceId", "subjectId", "tenantId"].map script).Nodup
    decide +kernel
  · simp only [List.forall_mem_cons]
    exact ⟨.string _, .string _, .string _, .string _, .number finite, .string _, .string _,
      .string _, fun _ none => absurd none List.not_mem_nil⟩

/-- The authenticated data that binds a ciphertext to its record. -/
def aadOf (metadata : StorageMetadata) : Bytes :=
  Utf8.encode (canonicalValue (storageAadJson metadata))

theorem storageAad_ok (metadata : StorageMetadata) :
    storageAad metadata = .ok (aadOf metadata) := by
  rw [storageAad, canonicalizeEvidenceJson_ok (storageAadJson_wellFormed metadata)]
  rfl

theorem requireCanonicalBase64Url_encode {bytes : Bytes} {size : ℕ} (length : bytes.length = size)
    (label : String) :
    requireCanonicalBase64Url (Base64Url.encode bytes) size label = .ok bytes := by
  simp only [requireCanonicalBase64Url, Base64Url.decode_encode, Checked.bind_eq_ok,
    Checked.require_eq_ok, exists_const, Checked.pure_eq_ok, and_true]
  exact length

/-- The identity fields of an envelope, as its record holds them. -/
structure Binds (envelope : JsonValue) (metadata : StorageMetadata) : Prop where
  tenantId : envelope.stringMember? (script "tenantId") = some metadata.tenantId
  subjectId : envelope.stringMember? (script "subjectId") = some metadata.subjectId
  sourceId : envelope.stringMember? (script "sourceId") = some metadata.sourceId
  eventId : envelope.stringMember? (script "eventId") = some metadata.eventId

theorem Binds.of_same {a b : JsonValue} {metadata : StorageMetadata} (binds : Binds a metadata)
    (same : JsonValue.Same a b) (left : a.WellFormed) (right : b.WellFormed) :
    Binds b metadata where
  tenantId := same.stringMember? left right binds.tenantId
  subjectId := same.stringMember? left right binds.subjectId
  sourceId := same.stringMember? left right binds.sourceId
  eventId := same.stringMember? left right binds.eventId

/-- The bytes that are encrypted. -/
def canonicalBytesOf (envelope : JsonValue) : Bytes := Utf8.encode (canonicalValue envelope)

theorem canonicalBytesOf_pos (wellFormed : a.WellFormed) : 1 ≤ (canonicalBytesOf a).length := by
  obtain ⟨c, tail, shape, _⟩ := wellFormed.sorted.stringify_head
  have text := Utf8.length_le_encode (canonicalValue a)
  rw [canonicalValue_eq, shape, List.length_cons] at text
  rw [canonicalBytesOf, canonicalValue_eq, shape]
  omega

variable (crypto) in
/-- The record of some bytes under this metadata. -/
def protectedRecord (protector : EvidenceProtector) (metadata : StorageMetadata)
    (canonicalBytes iv : Bytes) : ProtectedEvidence :=
  let sealed := crypto.encrypt (protector.tenantKey crypto metadata.tenantId) iv (aadOf metadata)
    canonicalBytes
  { metadata with
    formatVersion := EvidenceStoragePolicy.formatVersion
    cipher := EvidenceStoragePolicy.cipher
    ivBase64Url := Base64Url.encode iv
    authenticationTagBase64Url := Base64Url.encode sealed.2
    ciphertextBase64Url := Base64Url.encode sealed.1
    canonicalSha256 := sha256Hex crypto canonicalBytes
    canonicalByteLength := canonicalBytes.length }

variable {protector : EvidenceProtector} {envelope : JsonValue} {metadata : StorageMetadata}
  {iv canonicalBytes : Bytes}

variable (crypto) in
theorem protect_ok (wellFormed : envelope.WellFormed) (binds : Binds envelope metadata)
    (form : metadata.WellFormed) (key : metadata.encryptionKeyId = protector.encryptionKeyId)
    (size : (canonicalBytesOf envelope).length ≤ EvidenceStoragePolicy.maximumCanonicalBytes)
    (ivLength : iv.length = EvidenceStoragePolicy.ivBytes) :
    protector.protect crypto envelope metadata.contentHashSha256 iv
      = .ok (protectedRecord crypto protector metadata (canonicalBytesOf envelope) iv) := by
  obtain ⟨tenantId, subjectId, sourceId, eventId, contentHash, keyId⟩ := metadata
  obtain rfl : keyId = protector.encryptionKeyId := key
  have nonempty := canonicalBytesOf_pos wellFormed
  unfold EvidenceProtector.protect
  simp only [canonicalizeEvidenceJson_ok wellFormed, binds.tenantId, binds.subjectId,
    binds.sourceId, binds.eventId, storageAad_ok, requireStorageBinding, requireSome,
    Checked.bind_eq_ok, Checked.require_eq_ok, Except.ok.injEq, exists_eq_left', exists_const,
    Checked.pure_eq_ok]
  exact ⟨form, ⟨nonempty, size⟩, ivLength, rfl⟩

variable (protector) in
include lawful in
theorem requireProtectedEvidence_ok (form : metadata.WellFormed)
    (nonempty : 1 ≤ canonicalBytes.length)
    (size : canonicalBytes.length ≤ EvidenceStoragePolicy.maximumCanonicalBytes)
    (ivLength : iv.length = EvidenceStoragePolicy.ivBytes) :
    requireProtectedEvidence (protectedRecord crypto protector metadata canonicalBytes iv)
      = .ok ⟨iv,
        (crypto.encrypt (protector.tenantKey crypto metadata.tenantId) iv (aadOf metadata)
          canonicalBytes).2,
        (crypto.encrypt (protector.tenantKey crypto metadata.tenantId) iv (aadOf metadata)
          canonicalBytes).1⟩ := by
  have keyLength := lawful.derived_length protector.masterKey
    (Utf8.encode (script "tenant-trust-evidence-storage-v1").text)
    (Utf8.encode metadata.tenantId.text)
  have tagLength := lawful.tag_length _ iv (aadOf metadata) canonicalBytes keyLength ivLength
  have textLength :=
    lawful.ciphertext_length _ iv (aadOf metadata) canonicalBytes keyLength ivLength
  unfold requireProtectedEvidence protectedRecord
  simp only [requireStorageBinding, Checked.bind_eq_ok, Checked.require_eq_ok, exists_const,
    Checked.pure_eq_ok]
  refine ⟨form, ⟨trivial, trivial, sha256Hex_form lawful _, nonempty, size⟩, iv,
    requireCanonicalBase64Url_encode ivLength _, _,
    requireCanonicalBase64Url_encode tagLength _, ?_, ?_⟩
  · rw [Base64Url.decode_encode]
    exact ⟨textLength, rfl⟩
  · rw [Base64Url.decode_encode]
    rfl

include lawful in
theorem unprotect_ok (form : metadata.WellFormed)
    (key : metadata.encryptionKeyId = protector.encryptionKeyId)
    (nonempty : 1 ≤ canonicalBytes.length)
    (size : canonicalBytes.length ≤ EvidenceStoragePolicy.maximumCanonicalBytes)
    (ivLength : iv.length = EvidenceStoragePolicy.ivBytes) :
    protector.unprotect crypto (protectedRecord crypto protector metadata canonicalBytes iv)
      = .ok canonicalBytes := by
  have keyLength := lawful.derived_length protector.masterKey
    (Utf8.encode (script "tenant-trust-evidence-storage-v1").text)
    (Utf8.encode metadata.tenantId.text)
  have opened := lawful.decrypt_encrypt _ iv (aadOf metadata) canonicalBytes keyLength ivLength
  have checked := requireProtectedEvidence_ok lawful protector form nonempty size ivLength
  have digest := safeDigestEqual_self (sha256Hex_form lawful canonicalBytes)
  unfold EvidenceProtector.unprotect
  rw [Checked.mapError_eq_ok]
  simp only [checked, storageAad_ok, Checked.bind_eq_ok, Checked.require_eq_ok, exists_const,
    Except.ok.injEq, exists_eq_left', Checked.requireSome_eq_ok, Checked.pure_eq_ok]
  exact ⟨key, canonicalBytes, opened, ⟨rfl, digest⟩, rfl⟩

include lawful in
/-- Retrieval of a record whose content hash is that of the unsigned envelope. -/
theorem retrieve_ok {unsigned : JsonValue} (retainedUntil : ScriptString)
    (wellFormed : envelope.WellFormed) (binds : Binds envelope metadata)
    (form : metadata.WellFormed) (key : metadata.encryptionKeyId = protector.encryptionKeyId)
    (size : (canonicalBytesOf envelope).length ≤ EvidenceStoragePolicy.maximumCanonicalBytes)
    (ivLength : iv.length = EvidenceStoragePolicy.ivBytes)
    (signed : unsignedEvidenceEnvelope envelope = .ok unsigned)
    (hash : metadata.contentHashSha256 = sha256Hex crypto (canonicalBytesOf unsigned)) :
    retrieve crypto protector (.ok (some
      { protectedRecord crypto protector metadata (canonicalBytesOf envelope) iv with
        retainedUntil }))
      = .ok (some {
          canonicalBytes := canonicalBytesOf envelope
          envelope := envelope.sorted
          contentHashSha256 := metadata.contentHashSha256
          canonicalSha256 := sha256Hex crypto (canonicalBytesOf envelope)
          retainedUntil }) := by
  have nonempty := canonicalBytesOf_pos wellFormed
  have opened := unprotect_ok lawful form key nonempty size ivLength
  have text : JsonValue.parse (Utf8.decode (canonicalBytesOf envelope)) = some envelope.sorted := by
    rw [canonicalBytesOf, Utf8.decode_encode, parse_canonicalValue wellFormed]
  have bound := binds.of_same wellFormed.same_sorted wellFormed wellFormed.sorted
  obtain ⟨twin, sortedSigned, same⟩ :=
    unsigned_same wellFormed.same_sorted wellFormed wellFormed.sorted signed
  have unsignedWell := unsigned_wellFormed wellFormed signed
  have twinWell := unsigned_wellFormed wellFormed.sorted sortedSigned
  have content : sha256Hex crypto (Utf8.encode (canonicalValue twin))
      = metadata.contentHashSha256 := by
    rw [hash, canonicalBytesOf, (canonicalValue_eq_iff unsignedWell twinWell).mpr same]
  have digest : safeDigestEqual (sha256Hex crypto (Utf8.encode (canonicalValue twin)))
      metadata.contentHashSha256 = true := by
    rw [content]
    exact safeDigestEqual_self form.2.2.2.2.1
  unfold retrieve
  simp only [opened, text, canonicalizeEvidenceJson_ok wellFormed.sorted,
    canonicalizeEvidenceJson_ok twinWell, sortedSigned, Checked.bind_eq_ok, Checked.require_eq_ok,
    exists_const, Except.ok.injEq, exists_eq_left', requireSome, Checked.pure_eq_ok]
  exact ⟨⟨congrArg Utf8.encode (canonicalValue_sorted wellFormed).symm, bound.tenantId,
    bound.subjectId, bound.sourceId, bound.eventId, digest⟩, rfl⟩

theorem protect_iv_length {contentHashSha256 : ScriptString} {record : ProtectedEvidence}
    (made : protector.protect crypto envelope contentHashSha256 iv = .ok record) :
    iv.length = EvidenceStoragePolicy.ivBytes := by
  simp only [EvidenceProtector.protect, Checked.bind_eq_ok, Checked.require_eq_ok,
    exists_const] at made
  obtain ⟨_, _, _, _, _, _, _, _, _, _, _, _, _, ivLength, _⟩ := made
  exact ivLength

end Protection

/-- The four identity fields are identifiers of their kinds. -/
def HasIdentity (envelope : JsonValue) : Prop :=
  (envelope.stringMember? (script "tenantId")).any isTenantId
    ∧ (envelope.stringMember? (script "subjectId")).any isSubjectId
    ∧ (envelope.stringMember? (script "sourceId")).any isSourceId
    ∧ (envelope.stringMember? (script "eventId")).any isEventId

theorem HasIdentity.binds {envelope : JsonValue} (identity : HasIdentity envelope)
    (protector : EvidenceProtector) {contentHashSha256 : ScriptString}
    (hash : isSha256 contentHashSha256) :
    ∃ metadata : StorageMetadata, Binds envelope metadata ∧ metadata.WellFormed
      ∧ metadata.contentHashSha256 = contentHashSha256
      ∧ metadata.encryptionKeyId = protector.encryptionKeyId := by
  obtain ⟨tenant, subject, source, event⟩ := identity
  obtain ⟨tenantId, tenantField, tenantForm⟩ := Option.any_eq_true _ _ |>.mp tenant
  obtain ⟨subjectId, subjectField, subjectForm⟩ := Option.any_eq_true _ _ |>.mp subject
  obtain ⟨sourceId, sourceField, sourceForm⟩ := Option.any_eq_true _ _ |>.mp source
  obtain ⟨eventId, eventField, eventForm⟩ := Option.any_eq_true _ _ |>.mp event
  exact ⟨⟨tenantId, subjectId, sourceId, eventId, contentHashSha256, protector.encryptionKeyId⟩,
    ⟨tenantField, subjectField, sourceField, eventField⟩,
    ⟨tenantForm, subjectForm, sourceForm, eventForm, hash, protector.encryptionKeyId_valid⟩,
    rfl, rfl⟩

/-- Protection makes a record, and what it makes is retrieved as the same envelope with the same
content hash. -/
structure RoundTrips (crypto : Crypto) (protector : EvidenceProtector) (envelope : JsonValue)
    (contentHashSha256 : ScriptString) (iv : Bytes) (retainedUntil : ScriptString) : Prop where
  made : iv.length = EvidenceStoragePolicy.ivBytes →
    ∃ record, protector.protect crypto envelope contentHashSha256 iv = .ok record
  retrieved : ∀ record, protector.protect crypto envelope contentHashSha256 iv = .ok record →
    ∃ found, retrieve crypto protector (.ok (some { record with retainedUntil }))
        = .ok (some found)
      ∧ JsonValue.Same envelope found.envelope ∧ found.contentHashSha256 = contentHashSha256

theorem roundTrips_of_signed {crypto : Crypto} (lawful : crypto.Lawful)
    (protector : EvidenceProtector) {envelope unsigned : JsonValue} (iv : Bytes)
    (retainedUntil : ScriptString) (wellFormed : envelope.WellFormed)
    (identity : HasIdentity envelope)
    (size : (canonicalBytesOf envelope).length ≤ EvidenceStoragePolicy.maximumCanonicalBytes)
    (signed : unsignedEvidenceEnvelope envelope = .ok unsigned) :
    RoundTrips crypto protector envelope (sha256Hex crypto (canonicalBytesOf unsigned)) iv
      retainedUntil := by
  obtain ⟨metadata, binds, form, hash, key⟩ :=
    identity.binds protector (sha256Hex_form lawful (canonicalBytesOf unsigned))
  constructor
  · intro ivLength
    have made := protect_ok crypto wellFormed binds form key size ivLength
    rw [hash] at made
    exact ⟨_, made⟩
  · intro record made
    have ivLength := protect_iv_length made
    have same := protect_ok crypto wellFormed binds form key size ivLength
    rw [hash, made] at same
    cases same
    exact ⟨_, retrieve_ok lawful retainedUntil wellFormed binds form key size ivLength signed hash,
      wellFormed.same_sorted, hash⟩

/-- Canonical texts tell JSON values apart exactly up to the order of members, reading one gives
back its value, and stored evidence that is signed is retrieved as it was. -/
theorem stored_evidence_round_trips :
    (∀ left right : JsonValue, left.WellFormed → right.WellFormed →
      JsonValue.Same left right →
        canonicalizeEvidenceJson left = canonicalizeEvidenceJson right)
    ∧ (∀ left right : JsonValue, left.WellFormed → right.WellFormed →
      canonicalizeEvidenceJson left = canonicalizeEvidenceJson right →
        JsonValue.Same left right)
    ∧ (∀ value : JsonValue, value.WellFormed →
      ∃ text parsed, canonicalizeEvidenceJson value = .ok text
        ∧ JsonValue.parse text = some parsed ∧ canonicalizeEvidenceJson parsed = .ok text)
    ∧ ∀ (crypto : Crypto) (protector : EvidenceProtector) (envelope unsigned : JsonValue)
        (iv : Bytes) (retainedUntil : ScriptString),
      crypto.Lawful → envelope.WellFormed → HasIdentity envelope →
      (canonicalBytesOf envelope).length ≤ EvidenceStoragePolicy.maximumCanonicalBytes →
      unsignedEvidenceEnvelope envelope = .ok unsigned →
        RoundTrips crypto protector envelope (sha256Hex crypto (canonicalBytesOf unsigned)) iv
          retainedUntil := by
  refine ⟨?_, ?_, ?_, ?_⟩
  · intro left right leftWell rightWell same
    rw [canonicalizeEvidenceJson_ok leftWell, canonicalizeEvidenceJson_ok rightWell,
      (canonicalValue_eq_iff leftWell rightWell).mpr same]
  · intro left right leftWell rightWell equal
    rw [canonicalizeEvidenceJson_ok leftWell, canonicalizeEvidenceJson_ok rightWell] at equal
    exact (canonicalValue_eq_iff leftWell rightWell).mp (Except.ok.inj equal)
  · intro value wellFormed
    refine ⟨_, _, canonicalizeEvidenceJson_ok wellFormed, parse_canonicalValue wellFormed, ?_⟩
    rw [canonicalizeEvidenceJson_ok wellFormed.sorted, canonicalValue_sorted wellFormed]
  · intro crypto protector envelope unsigned iv retainedUntil lawful wellFormed identity size signed
    exact roundTrips_of_signed lawful protector iv retainedUntil wellFormed identity size signed

namespace StorageScenario

/-- A stand-in for the cipher that keeps the plaintext. -/
def crypto : Crypto where
  hkdfSha256 := fun _ _ _ => List.replicate 32 0
  sha256 := fun _ => List.replicate 32 0
  encrypt := fun _ _ _ plaintext => (plaintext, List.replicate 16 0)
  decrypt := fun _ _ _ _ ciphertext => some ciphertext

theorem lawful : crypto.Lawful where
  derived_length := fun _ _ _ => rfl
  digest_length := fun _ => rfl
  ciphertext_length := fun _ _ _ _ _ _ => rfl
  tag_length := fun _ _ _ _ _ _ => rfl
  decrypt_encrypt := fun _ _ _ _ _ _ => rfl

def protector : EvidenceProtector where
  masterKey := List.replicate 32 7
  encryptionKeyId := script "local-evidence-v1"
  masterKey_length := rfl
  encryptionKeyId_valid := by decide +kernel

def iv : Bytes := List.replicate 12 1

def identifier (tag : String) : JsonValue :=
  .string (script (tag ++ "00000000-0000-4000-8000-000000000001"))

def members : List (ScriptString × JsonValue) := [
  (script "tenantId", identifier "tnt_"),
  (script "subjectId", identifier "sub_"),
  (script "sourceId", identifier "src_"),
  (script "eventId", identifier "evt_")]

def withoutSignature : JsonValue := .object members

def signed : JsonValue := .object ((script "signature", .bool true) :: members)

def otherHash : ScriptString := List.replicate 64 49

def reordered : JsonValue := .object (members ++ [(script "signature", .bool true)])

/-- Whether a protected envelope is retrieved. -/
def comesBack (envelope : JsonValue) (contentHashSha256 : ScriptString) : Bool :=
  match protector.protect crypto envelope contentHashSha256 iv with
  | .ok record =>
      match retrieve crypto protector (.ok (some { record with retainedUntil := [] })) with
      | .ok (some _) => true
      | _ => false
  | .error _ => false

theorem comesBack_of_roundTrips {envelope : JsonValue} {contentHashSha256 : ScriptString}
    (trips : RoundTrips crypto protector envelope contentHashSha256 iv []) :
    comesBack envelope contentHashSha256 = true := by
  obtain ⟨record, made⟩ := trips.made rfl
  obtain ⟨found, retrieved, _⟩ := trips.retrieved record made
  rw [comesBack, made]
  simp only [retrieved]

theorem wellFormed_of_members {list : List (ScriptString × JsonValue)}
    (distinct : (list.map Prod.fst).Nodup)
    (each : ∀ member ∈ list, member.2 = .bool true ∨ member ∈ members) :
    (JsonValue.object list).WellFormed := by
  refine .object distinct fun member found => ?_
  rcases each member found with flag | field
  · rw [flag]
    exact .bool true
  · simp only [members, List.mem_cons, List.not_mem_nil, or_false] at field
    rcases field with rfl | rfl | rfl | rfl <;> exact .string _

/-- The members of each document are named apart, both envelopes name their record, and the
signature may stand at either end. -/
theorem documents_named :
    (members.map Prod.fst).Nodup ∧
      (script "signature" :: members.map Prod.fst).Nodup ∧
      (members.map Prod.fst ++ [script "signature"]).Nodup ∧
      (HasIdentity withoutSignature ∧ HasIdentity signed) ∧
      (signed.member? (script "signature")).any truthy = true ∧
      canonicalValue signed = canonicalValue reordered := by
  unfold HasIdentity
  decide +kernel

theorem withoutSignature_wellFormed : withoutSignature.WellFormed :=
  wellFormed_of_members documents_named.1 fun _ found => Or.inr found

theorem signed_wellFormed : signed.WellFormed :=
  wellFormed_of_members documents_named.2.1 fun _ found =>
    (List.mem_cons.mp found).imp (fun same => by rw [same]) id

theorem reordered_wellFormed : reordered.WellFormed := by
  have distinct :
      ((members ++ [(script "signature", JsonValue.bool true)]).map Prod.fst).Nodup := by
    rw [List.map_append]
    exact documents_named.2.2.1
  exact wellFormed_of_members distinct fun _ found =>
    (List.mem_append.mp found).symm.imp (fun last => by rw [List.mem_singleton.mp last]) id

theorem withoutSignature_hasIdentity : HasIdentity withoutSignature :=
  documents_named.2.2.2.1.1

theorem signed_hasIdentity : HasIdentity signed :=
  documents_named.2.2.2.1.2

theorem signed_unsigned : unsignedEvidenceEnvelope signed = .ok withoutSignature := by
  have present := documents_named.2.2.2.2.1
  have others : ∀ name ∈ members.map Prod.fst, name ≠ script "signature" := by
    intro name found same
    exact (List.nodup_cons.mp documents_named.2.1).1 (same ▸ found)
  have rest : (((script "signature", JsonValue.bool true) :: members).filter
      fun member => member.1 ≠ script "signature") = members := by
    rw [List.filter_cons_of_neg (by simp)]
    exact List.filter_eq_self.mpr fun member found =>
      decide_eq_true (others _ (List.mem_map_of_mem found))
  unfold signed at present ⊢
  simp only [unsignedEvidenceEnvelope, Checked.bind_eq_ok, Checked.require_eq_ok, exists_const,
    Checked.pure_eq_ok, rest]
  exact ⟨present, rfl⟩

/-- Both envelopes are small enough to protect, and neither comes back under another hash. -/
theorem documents_protected :
    isSha256 otherHash = true ∧
      (canonicalBytesOf withoutSignature).length ≤ EvidenceStoragePolicy.maximumCanonicalBytes ∧
      (canonicalBytesOf signed).length ≤ EvidenceStoragePolicy.maximumCanonicalBytes ∧
      comesBack withoutSignature otherHash = false ∧ comesBack signed otherHash = false := by
  decide +kernel

theorem signed_same_reordered : JsonValue.Same signed reordered :=
  (canonicalValue_eq_iff signed_wellFormed reordered_wellFormed).mp documents_named.2.2.2.2.2

end StorageScenario

open StorageScenario in
theorem stored_evidence_round_trips_signed :
    canonicalizeEvidenceJson signed = canonicalizeEvidenceJson reordered
    ∧ JsonValue.Same reordered signed
    ∧ (∃ text parsed, canonicalizeEvidenceJson signed = .ok text
      ∧ JsonValue.parse text = some parsed ∧ canonicalizeEvidenceJson parsed = .ok text)
    ∧ RoundTrips crypto protector signed (sha256Hex crypto (canonicalBytesOf withoutSignature))
        iv [] := by
  obtain ⟨independent, distinguishes, parses, stored⟩ := stored_evidence_round_trips
  have equal := independent signed reordered signed_wellFormed reordered_wellFormed
    signed_same_reordered
  exact ⟨equal, distinguishes reordered signed reordered_wellFormed signed_wellFormed equal.symm,
    parses signed signed_wellFormed,
    stored crypto protector signed withoutSignature iv [] lawful signed_wellFormed
      signed_hasIdentity documents_protected.2.2.1 signed_unsigned⟩

open StorageScenario in
/-- Protection does not look at the signature or at the content hash; retrieval refuses an envelope
without a signature, and one whose content has another hash. -/
theorem unsigned_evidence_is_not_retrieved :
    (¬ ∀ (crypto : Crypto) (protector : EvidenceProtector) (envelope : JsonValue)
        (contentHashSha256 : ScriptString) (iv : Bytes) (retainedUntil : ScriptString),
      crypto.Lawful → envelope.WellFormed → HasIdentity envelope → isSha256 contentHashSha256 →
      (canonicalBytesOf envelope).length ≤ EvidenceStoragePolicy.maximumCanonicalBytes →
        RoundTrips crypto protector envelope contentHashSha256 iv retainedUntil)
    ∧ ¬ ∀ (crypto : Crypto) (protector : EvidenceProtector) (envelope unsigned : JsonValue)
        (contentHashSha256 : ScriptString) (iv : Bytes) (retainedUntil : ScriptString),
      crypto.Lawful → envelope.WellFormed → HasIdentity envelope → isSha256 contentHashSha256 →
      (canonicalBytesOf envelope).length ≤ EvidenceStoragePolicy.maximumCanonicalBytes →
      unsignedEvidenceEnvelope envelope = .ok unsigned →
        RoundTrips crypto protector envelope contentHashSha256 iv retainedUntil := by
  obtain ⟨form, plainFits, signedFits, plainLost, signedLost⟩ := documents_protected
  constructor
  · intro always
    have trips := always crypto protector withoutSignature otherHash iv [] lawful
      withoutSignature_wellFormed withoutSignature_hasIdentity form plainFits
    exact Bool.false_ne_true (plainLost.symm.trans (comesBack_of_roundTrips trips))
  · intro always
    have trips := always crypto protector signed withoutSignature otherHash iv [] lawful
      signed_wellFormed signed_hasIdentity form signedFits signed_unsigned
    exact Bool.false_ne_true (signedLost.symm.trans (comesBack_of_roundTrips trips))

end TenantTrust.Trust
