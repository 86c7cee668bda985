import Mathlib.Data.List.Nodup
import TenantTrust.Policy.BundleRoundTrip

/-! The history of the policy bundles of a series: the service lists the editions from the newest to
the first, each as it stands and with the last event of it. -/

namespace TenantTrust.Policy

open Library Identity Api Trust

/-! ### The listing -/

/-- A bundle with the last event that is recorded of it. -/
structure BundleView where
  bundle : PolicyVersionRow
  latestEventType : Option PolicyBundleEventType
  latestReasonCode : Option String

def latestEvent? (store : PolicyStore) (key : ScriptString × ScriptString) :
    Option PolicyBundleEvent :=
  store.events.find? fun event => event.key = key

def viewOf (store : PolicyStore) (row : PolicyVersionRow) : BundleView :=
  let latest := latestEvent? store row.key
  ⟨row, latest.map (·.eventType), latest.map (·.reasonCode)⟩

/-- `ORDER BY bundle_version DESC` -/
def bundlesOf (store : PolicyStore) (series : Series) : List PolicyVersionRow :=
  (store.versions.rows.filter (·.series = series)).mergeSort fun newer older =>
    older.bundleVersion ≤ newer.bundleVersion

/-- `trust.list_policy_bundle_history` -/
def listPolicyBundleHistory (session : PolicySession) (policyName : ScriptString)
    (store : PolicyStore) : Except SqlError (List BundleView) := do
  require session.actorIsTenantAdmin (.raised "Policy bundle history denied.")
  return (bundlesOf store (session.tenantId, policyName)).map (viewOf store)

def mapView (view : BundleView) : Except PolicyBundleFailure BundleView := do
  let bundle ← mapBundle view.bundle
  return { view with bundle := bundle }

/-- `listHistory` of the repository -/
def listHistory (context : PolicyContext) (answers : SessionAnswers) (policyName : ScriptString)
    (store : PolicyStore) : Except PolicyBundleFailure (List BundleView) := do
  let rows ←
    (listPolicyBundleHistory (context.session answers) policyName store).mapError .database
  rows.mapM mapView

section Services

variable (platform : BundlePlatform)

/-- The bundles of an answer, none of which may be of another name or of a number already seen. -/
def validateHistory (tenantId policyName : ScriptString) : List Nat → List BundleView →
    Except PolicyBundleFailure (List BundleView)
  | _, [] => .ok []
  | versions, view :: rest => do
      let bundle ← validateBundle platform view.bundle tenantId
      require (bundle.policyName = policyName ∧ bundle.bundleVersion ∉ versions)
        (.refused "POLICY_BUNDLE_HISTORY_INVALID")
      let others ← validateHistory tenantId policyName (bundle.bundleVersion :: versions) rest
      return { view with bundle := bundle } :: others

/-- Each number is below the one before it. -/
def descending : List BundleView → Bool
  | newer :: older :: rest =>
      older.bundle.bundleVersion < newer.bundle.bundleVersion && descending (older :: rest)
  | _ => true

/-- `history` -/
def history (context : PolicyContext) (answers : SessionAnswers) (policyName : ScriptString)
    (store : PolicyStore) : Except PolicyBundleFailure (List BundleView) := do
  requireAdmin context
  require (isPolicyName policyName) (.refused "POLICY_NAME_INVALID")
  let rows ← listHistory context answers policyName store
  require (rows ≠ []) (.refused "POLICY_BUNDLE_HISTORY_INVALID")
  let views ← validateHistory platform context.tenantId policyName [] rows
  require (descending views) (.refused "POLICY_BUNDLE_HISTORY_INVALID")
  return views

end Services

/-! ### The rows of a series -/

section Rows

variable {registry : BundleRegistry} {store : PolicyStore} {series : Series}
  {row : PolicyVersionRow}

theorem mem_bundlesOf :
    row ∈ bundlesOf store series ↔ row ∈ store.versions ∧ row.series = series := by
  rw [bundlesOf, (List.mergeSort_perm _ _).mem_iff, List.mem_filter, decide_eq_true_eq]
  rfl

theorem bundlesOf_descending (holds : registry.Shows store) (series : Series) :
    (bundlesOf store series).Pairwise fun newer older =>
      older.bundleVersion < newer.bundleVersion := by
  have sorted : (bundlesOf store series).Pairwise fun newer older =>
      decide (older.bundleVersion ≤ newer.bundleVersion) = true := by
    apply List.pairwise_mergeSort
    · intro first second third newer older
      rw [decide_eq_true_eq] at newer older ⊢
      omega
    · intro first second
      rw [Bool.or_eq_true, decide_eq_true_eq, decide_eq_true_eq]
      omega
  have distinct : (bundlesOf store series).Nodup :=
    (List.mergeSort_perm _ _).nodup_iff.mpr
      ((List.Nodup.of_map _ store.versions.distinct).filter _)
  refine (sorted.and distinct).imp_of_mem ?_
  intro newer older newerListed olderListed both
  obtain ⟨newerStored, newerSeries⟩ := mem_bundlesOf.mp newerListed
  obtain ⟨olderStored, olderSeries⟩ := mem_bundlesOf.mp olderListed
  refine lt_of_le_of_ne (of_decide_eq_true both.1) fun same => both.2 ?_
  exact holds.version_unique newerStored olderStored (newerSeries.trans olderSeries.symm) same.symm

/-- The numbers of a series run from its length down to one. -/
theorem bundlesOf_versions (holds : registry.Shows store) (series : Series) :
    (bundlesOf store series).map (·.bundleVersion) =
      (List.range' 1 (registry series).contents.length).reverse := by
  have decreasing : ((bundlesOf store series).map (·.bundleVersion)).Pairwise
      fun newer older => older < newer := List.pairwise_map.mpr (bundlesOf_descending holds series)
  have counted : (List.range' 1 (registry series).contents.length).reverse.Pairwise
      fun newer older => older < newer := List.pairwise_reverse.mpr List.pairwise_lt_range'
  refine List.Perm.eq_of_pairwise ?_ decreasing counted ?_
  · intro first second _ _ below above
    omega
  rw [List.perm_ext_iff_of_nodup (decreasing.imp fun below => below.ne')
    (counted.imp fun below => below.ne')]
  intro version
  rw [List.mem_map, List.mem_reverse, List.mem_range'_1]
  constructor
  · rintro ⟨row, listed, rfl⟩
    obtain ⟨stored, here⟩ := mem_bundlesOf.mp listed
    obtain ⟨content, edition, least, _⟩ := holds.position_at stored
    rw [here] at edition
    have below := (List.getElem?_eq_some_iff.mp edition).1
    omega
  · rintro ⟨least, most⟩
    have below : version - 1 < (registry series).contents.length := by omega
    obtain ⟨row, stored, here, number, _⟩ := holds.row_of (List.getElem?_eq_getElem below)
    exact ⟨row, mem_bundlesOf.mpr ⟨stored, here⟩, by omega⟩

/-- The event that brings a bundle into a state. -/
def eventInto : PolicyVersionState → PolicyBundleEventType
  | .published => .published
  | .active => .activated
  | .superseded => .superseded

/-- The last event of a row is the one that brought it into its state. -/
theorem latestEvent?_state (holds : registry.Shows store) (stored : row ∈ store.versions) :
    (latestEvent? store row.key).map (·.eventType) = some (eventInto row.state) := by
  obtain ⟨content, edition, _, shown⟩ := holds.position_at stored
  have recorded := (holds.displayed _ _ content edition).events
  have key : content.key = row.key := by rw [shown]; rfl
  have state : row.state =
      bundleState ((registry row.series).reign? (row.bundleVersion - 1)) :=
    congrArg PolicyVersionRow.state shown
  rw [key] at recorded
  have kinds := congrArg (fun events => events.head?.map Prod.fst) recorded
  rw [PolicyStore.history, List.head?_map, List.head?_filter, Option.map_map] at kinds
  rw [latestEvent?, state]
  refine kinds.trans ?_
  rcases (registry row.series).reign? (row.bundleVersion - 1) with _ | ⟨since, _ | ended⟩ <;> rfl

end Rows

/-! ### The answer -/

section Answers

variable {platform : BundlePlatform} {registry : BundleRegistry} {store : PolicyStore}
  {context : PolicyContext} {answers : SessionAnswers} {policyName : ScriptString}
  {row : PolicyVersionRow}

/-- The views list the editions of a series, the newest first. -/
structure ListsEditions (registry : BundleRegistry) (series : Series) (views : List BundleView) :
    Prop where
  versions : views.map (·.bundle.bundleVersion) =
    (List.range' 1 (registry series).contents.length).reverse
  shown : ∀ view ∈ views, ∃ content : PolicyVersionRow,
    (registry series).contents[view.bundle.bundleVersion - 1]? = some content ∧
    view.bundle = content.shown ((registry series).reign? (view.bundle.bundleVersion - 1))
      view.bundle.updatedAt
  latest : ∀ view ∈ views, view.latestEventType = some (eventInto view.bundle.state)

theorem views_list (holds : registry.Shows store) (series : Series) :
    ListsEditions registry series ((bundlesOf store series).map (viewOf store)) where
  versions := by
    rw [List.map_map]
    exact bundlesOf_versions holds series
  shown := by
    intro view listed
    obtain ⟨row, among, rfl⟩ := List.mem_map.mp listed
    obtain ⟨stored, here⟩ := mem_bundlesOf.mp among
    obtain ⟨content, edition, _, same⟩ := holds.position_at stored
    rw [here] at edition same
    exact ⟨content, edition, same⟩
  latest := by
    intro view listed
    obtain ⟨row, among, rfl⟩ := List.mem_map.mp listed
    exact latestEvent?_state holds (mem_bundlesOf.mp among).1

/-- The services accept every stored row. -/
theorem BundleRegistry.Serves.row_confirmed (holds : registry.Serves platform store)
    (stored : row ∈ store.versions) : Confirmed platform row := by
  obtain ⟨content, edition, _, same⟩ := holds.display.position_at stored
  rw [same]
  exact (holds.confirmed _ _ content edition).shown

theorem mapM_views {rows : List PolicyVersionRow}
    (confirmed : ∀ row ∈ rows, Confirmed platform row) :
    (rows.map (viewOf store)).mapM mapView = .ok (rows.map (viewOf store)) := by
  induction rows with
  | nil => rfl
  | cons row rest ih =>
      have first : mapView (viewOf store row) = .ok (viewOf store row) := by
        change mapBundle row >>= _ = _
        rw [mapBundle_confirmed (confirmed row List.mem_cons_self).read]
        rfl
      have others := ih fun other listed => confirmed other (List.mem_cons_of_mem _ listed)
      rw [List.map_cons, List.mapM_cons, first, others]
      rfl

/-- Views of distinct numbers pass the loop of the service unchanged. -/
theorem validateHistory_views {tenantId : ScriptString} {rows : List PolicyVersionRow}
    {versions : List Nat} (confirmed : ∀ row ∈ rows, Confirmed platform row)
    (here : ∀ row ∈ rows, row.series = (tenantId, policyName))
    (sorted : rows.Pairwise fun newer older => older.bundleVersion < newer.bundleVersion)
    (below : ∀ row ∈ rows, ∀ version ∈ versions, row.bundleVersion < version) :
    validateHistory platform tenantId policyName versions (rows.map (viewOf store)) =
      .ok (rows.map (viewOf store)) := by
  induction rows generalizing versions with
  | nil => rfl
  | cons row rest ih =>
      have tenant : row.tenantId = tenantId := congrArg Prod.fst (here row List.mem_cons_self)
      have name : row.policyName = policyName := congrArg Prod.snd (here row List.mem_cons_self)
      have valid : validateBundle platform row tenantId = .ok row := by
        rw [← tenant]
        exact (confirmed row List.mem_cons_self).valid
      have unseen : row.bundleVersion ∉ versions := fun seen =>
        lt_irrefl _ (below row List.mem_cons_self _ seen)
      obtain ⟨above, ordered⟩ := List.pairwise_cons.mp sorted
      have others := ih (fun other listed => confirmed other (List.mem_cons_of_mem _ listed))
        (fun other listed => here other (List.mem_cons_of_mem _ listed)) ordered
        (by
          intro other listed version seen
          rcases List.mem_cons.mp seen with rfl | earlier
          · exact above other listed
          · exact below other (List.mem_cons_of_mem _ listed) version earlier)
      rw [List.map_cons, validateHistory]
      change validateBundle platform row tenantId >>= _ = _
      rw [valid]
      change require (row.policyName = policyName ∧ row.bundleVersion ∉ versions) _ >>= _ = _
      rw [require, if_pos ⟨name, unseen⟩]
      change validateHistory platform tenantId policyName (row.bundleVersion :: versions)
        (rest.map (viewOf store)) >>= _ = _
      rw [others]
      rfl

theorem descending_views {rows : List PolicyVersionRow}
    (sorted : rows.Pairwise fun newer older => older.bundleVersion < newer.bundleVersion) :
    descending (rows.map (viewOf store)) = true := by
  induction rows with
  | nil => rfl
  | cons newer rest ih =>
      obtain ⟨above, ordered⟩ := List.pairwise_cons.mp sorted
      cases rest with
      | nil => rfl
      | cons older others =>
          rw [List.map_cons, List.map_cons, descending, Bool.and_eq_true]
          exact ⟨decide_eq_true (above older List.mem_cons_self), ih ordered⟩

/-- What the history is to answer, given the views of the series. -/
def historyAnswer (context : PolicyContext) (answers : SessionAnswers) (policyName : ScriptString)
    (views : List BundleView) : Except PolicyBundleFailure (List BundleView) := do
  requireAdmin context
  require (isPolicyName policyName) (.refused "POLICY_NAME_INVALID")
  require answers.actorIsTenantAdmin (.database (.raised "Policy bundle history denied."))
  require (views ≠ []) (.refused "POLICY_BUNDLE_HISTORY_INVALID")
  return views

theorem listHistory_views (holds : registry.Serves platform store) :
    listHistory context answers policyName store = do
      require answers.actorIsTenantAdmin (.database (.raised "Policy bundle history denied."))
      return (bundlesOf store (context.tenantId, policyName)).map (viewOf store) := by
  by_cases admin : answers.actorIsTenantAdmin = true
  · rw [listHistory, listPolicyBundleHistory, require, PolicyContext.session, if_pos admin,
      require, if_pos admin]
    exact mapM_views fun row listed => holds.row_confirmed (mem_bundlesOf.mp listed).1
  · rw [listHistory, listPolicyBundleHistory, require, PolicyContext.session, if_neg admin,
      require, if_neg admin]
    rfl

/-- The service refuses nothing that the database lists. -/
theorem history_views (holds : registry.Serves platform store) (context : PolicyContext)
    (answers : SessionAnswers) (policyName : ScriptString) :
    history platform context answers policyName store =
      historyAnswer context answers policyName
        ((bundlesOf store (context.tenantId, policyName)).map (viewOf store)) := by
  have sorted := bundlesOf_descending holds.display (context.tenantId, policyName)
  have validated : validateHistory platform context.tenantId policyName []
      ((bundlesOf store (context.tenantId, policyName)).map (viewOf store)) =
        .ok ((bundlesOf store (context.tenantId, policyName)).map (viewOf store)) :=
    validateHistory_views
      (fun row listed => holds.row_confirmed (mem_bundlesOf.mp listed).1)
      (fun row listed => (mem_bundlesOf.mp listed).2) sorted
      (fun _ _ _ seen => absurd seen List.not_mem_nil)
  have ordered : descending ((bundlesOf store (context.tenantId, policyName)).map
      (viewOf store)) = true := descending_views sorted
  rw [history, historyAnswer, listHistory_views holds]
  refine congrArg (requireAdmin context >>= ·) (funext fun _ => ?_)
  refine congrArg (require (isPolicyName policyName = true) _ >>= ·) (funext fun _ => ?_)
  rw [bind_assoc]
  refine congrArg (require (answers.actorIsTenantAdmin = true) _ >>= ·) (funext fun _ => ?_)
  rw [pure_bind]
  refine congrArg (require (_ ≠ []) _ >>= ·) (funext fun _ => ?_)
  rw [validated]
  change require (descending _ = true) _ >>= _ = _
  rw [require, if_pos ordered]
  rfl

end Answers

section Runs

variable (platform : BundlePlatform) (requests : List BundleRequest)

/-- After every run of requests the history lists the editions of the series, the newest first,
unless there is none or the caller may not see them. -/
theorem history_lists_editions (context : PolicyContext) (answers : SessionAnswers)
    (policyName : ScriptString) : ∃ views,
    ListsEditions (servedRegistry platform requests) (context.tenantId, policyName) views ∧
    history platform context answers policyName (servedStore platform requests) =
      historyAnswer context answers policyName views := by
  have holds := bundles_serve platform requests
  exact ⟨_, views_list holds.display _, history_views holds context answers policyName⟩

end Runs

end TenantTrust.Policy
