import KafkaClient.ApiVersions

/-! The version ranges of the Kafka APIs as the client reads them. `ApiVersions`
(`protocol/Message.ts`) is a store of the ranges brokers advertise, keyed by api key, that gives
the range `defaultMinVersion ..= defaultMaxVersion` for a key it has not been told of;
`selectVersion` picks a preferred version, then a fallback, then the range's maximum.
`NetworkClient` keeps a map of its own, which `fetchApiVersions` fills, and reads it with
`getApiVersion` and `supportsApiVersion`. Versions are JavaScript numbers, modelled as integers. -/

namespace KafkaClient

/-- Whether a range holds a version: `version >= minVersion && version <= maxVersion`. -/
def ApiVersionRange.holds (range : ApiVersionRange) (version : Int) : Bool :=
  decide (range.minVersion ≤ version) && decide (version ≤ range.maxVersion)

def ApiVersionRange.Proper (range : ApiVersionRange) : Prop :=
  range.minVersion ≤ range.maxVersion

instance (range : ApiVersionRange) : Decidable range.Proper :=
  inferInstanceAs (Decidable (range.minVersion ≤ range.maxVersion))

theorem ApiVersionRange.holds_maxVersion {range : ApiVersionRange} (proper : range.Proper) :
    range.holds range.maxVersion = true := by
  simpa [holds] using proper

structure ApiVersions where
  versionRanges : JsMap Int ApiVersionRange := JsMap.empty
  defaultMinVersion : Int := 0
  defaultMaxVersion : Int := 0

namespace ApiVersions

def new (defaultMaxVersion : Int) : ApiVersions :=
  { defaultMaxVersion := defaultMaxVersion }

/-- `update(versionRanges)`: each range set under its api key, in order. -/
def update (versions : ApiVersions) (versionRanges : List ApiVersionRange) : ApiVersions :=
  { versions with
    versionRanges :=
      versionRanges.foldl (fun map range => map.set range.apiKey range) versions.versionRanges }

/-- `getVersionRange(apiKey)`: the stored range, or the default one. -/
def getVersionRange (versions : ApiVersions) (apiKey : Int) : ApiVersionRange :=
  match versions.versionRanges.get apiKey with
  | some range => range
  | none => ⟨apiKey, versions.defaultMinVersion, versions.defaultMaxVersion⟩

def maxVersion (versions : ApiVersions) (apiKey : Int) : Int :=
  (versions.getVersionRange apiKey).maxVersion

def minVersion (versions : ApiVersions) (apiKey : Int) : Int :=
  (versions.getVersionRange apiKey).minVersion

def isVersionSupported (versions : ApiVersions) (apiKey apiVersion : Int) : Bool :=
  (versions.getVersionRange apiKey).holds apiVersion

/-- `selectVersion(apiKey, preferredVersion, fallbackVersion)`: the preferred version if it is
given and the range holds it, else the fallback on the same terms, else the range's maximum. -/
def selectVersion (versions : ApiVersions) (apiKey : Int)
    (preferredVersion fallbackVersion : Option Int) : Int :=
  let range := versions.getVersionRange apiKey
  ((preferredVersion.filter range.holds).or (fallbackVersion.filter range.holds)).getD
    range.maxVersion

-- What the store answers

theorem getVersionRange_update (versions : ApiVersions) (versionRanges : List ApiVersionRange)
    (apiKey : Int) : (versions.update versionRanges).getVersionRange apiKey =
      ((versionRanges.filter (·.apiKey = apiKey)).getLast?).getD
        (versions.getVersionRange apiKey) := by
  simp only [getVersionRange, update, JsMap.get_foldl_set]
  cases (versionRanges.filter (·.apiKey = apiKey)).getLast? <;> rfl

theorem getVersionRange_foldl_update (batches : List (List ApiVersionRange))
    (versions : ApiVersions) (apiKey : Int) :
    (batches.foldl update versions).getVersionRange apiKey =
      ((batches.flatten.filter (·.apiKey = apiKey)).getLast?).getD
        (versions.getVersionRange apiKey) := by
  induction batches generalizing versions with
  | nil => rfl
  | cons batch batches ih =>
      rw [List.foldl_cons, ih, getVersionRange_update, List.flatten_cons, List.filter_append,
        List.getLast?_append]
      cases (batches.flatten.filter (·.apiKey = apiKey)).getLast? <;> rfl

/-- Every state the manager reaches answers a key with the last range advertised for it over all
its updates, and with `0 ..= defaultMaxVersion` for a key never advertised. -/
theorem getVersionRange_after_updates (defaultMaxVersion : Int)
    (batches : List (List ApiVersionRange)) (apiKey : Int) :
    (batches.foldl update (new defaultMaxVersion)).getVersionRange apiKey =
      ((batches.flatten.filter (·.apiKey = apiKey)).getLast?).getD
        ⟨apiKey, 0, defaultMaxVersion⟩ :=
  getVersionRange_foldl_update batches _ apiKey

-- The version `selectVersion` picks

def WellFormed (versions : ApiVersions) : Prop :=
  ∀ apiKey, (versions.getVersionRange apiKey).Proper

theorem WellFormed.new {defaultMaxVersion : Int} (nonneg : 0 ≤ defaultMaxVersion) :
    (ApiVersions.new defaultMaxVersion).WellFormed :=
  fun _ => nonneg

theorem WellFormed.foldl_update {versions : ApiVersions} (wf : versions.WellFormed)
    {batches : List (List ApiVersionRange)} (proper : ∀ range ∈ batches.flatten, range.Proper) :
    (batches.foldl update versions).WellFormed := by
  intro apiKey
  rw [getVersionRange_foldl_update]
  cases last : (batches.flatten.filter (·.apiKey = apiKey)).getLast? with
  | none => exact wf apiKey
  | some range => exact proper range (List.mem_of_mem_filter (List.mem_of_getLast?_eq_some last))

theorem isVersionSupported_selectVersion {versions : ApiVersions} {apiKey : Int}
    (proper : (versions.getVersionRange apiKey).Proper)
    (preferredVersion fallbackVersion : Option Int) :
    versions.isVersionSupported apiKey
      (versions.selectVersion apiKey preferredVersion fallbackVersion) = true := by
  dsimp only [isVersionSupported, selectVersion]
  cases chosen : (preferredVersion.filter (versions.getVersionRange apiKey).holds).or
      (fallbackVersion.filter (versions.getVersionRange apiKey).holds) with
  | none => exact ApiVersionRange.holds_maxVersion proper
  | some version =>
      rcases Option.or_eq_some.1 chosen with picked | ⟨-, picked⟩ <;>
        exact (Option.filter_eq_some.1 picked).2

/-- From `new ApiVersions(defaultMaxVersion)` with a maximum of at least 0, through updates that
advertise only ranges with `minVersion ≤ maxVersion`, `selectVersion` always picks a version that
`isVersionSupported` accepts. -/
theorem selectVersion_supported (defaultMaxVersion : Int) (batches : List (List ApiVersionRange))
    (nonneg : 0 ≤ defaultMaxVersion) (proper : ∀ range ∈ batches.flatten, range.Proper)
    (apiKey : Int) (preferredVersion fallbackVersion : Option Int) :
    (batches.foldl update (new defaultMaxVersion)).isVersionSupported apiKey
      ((batches.foldl update (new defaultMaxVersion)).selectVersion apiKey preferredVersion
        fallbackVersion) = true :=
  isVersionSupported_selectVersion ((WellFormed.new nonneg).foldl_update proper apiKey) _ _

example :
    0 ≤ (0 : Int) ∧ (∀ range ∈ [[(⟨3, 0, 12⟩ : ApiVersionRange)]].flatten, range.Proper) ∧
    ([[⟨3, 0, 12⟩]].foldl update (new 0)).selectVersion 3 (some 13) (some 9) = 9 ∧
    ([[⟨3, 0, 12⟩]].foldl update (new 0)).isVersionSupported 3
      (([[⟨3, 0, 12⟩]].foldl update (new 0)).selectVersion 3 (some 13) (some 9)) = true :=
  ⟨by decide, by decide, by decide,
    selectVersion_supported 0 [[⟨3, 0, 12⟩]] (by decide) (by decide) 3 (some 13) (some 9)⟩

/-- A broker range with `minVersion > maxVersion` makes `selectVersion` fall back to a maximum
the manager then rejects. -/
example : ((new 0).update [⟨3, 5, 1⟩]).selectVersion 3 (some 2) none = 1 ∧
    ((new 0).update [⟨3, 5, 1⟩]).isVersionSupported 3 1 = false := by
  decide

end ApiVersions

-- The client's own map

namespace NetworkClient

def getApiVersion (apiVersions : JsMap Int ApiVersionRange) (apiKey : Int) : Int × Int :=
  match apiVersions.get apiKey with
  | some version => (version.minVersion, version.maxVersion)
  | none => (0, 0)

/-- `supportsApiVersion(apiKey, apiVersion)`: `false` for a key with no stored range. -/
def supportsApiVersion (apiVersions : JsMap Int ApiVersionRange) (apiKey apiVersion : Int) : Bool :=
  match apiVersions.get apiKey with
  | some version => version.holds apiVersion
  | none => false

example : getApiVersion JsMap.empty 3 = (0, 0) ∧ supportsApiVersion JsMap.empty 3 0 = false :=
  ⟨rfl, rfl⟩

/-- After a successful `fetchApiVersions`, a key holds the last range the response advertised
for it. -/
theorem get_of_fetch {responseBuffer : Bytes} {response : ApiVersionsResponse}
    {apiVersions : JsMap Int ApiVersionRange}
    (parsed : ApiVersionsResponse.parse responseBuffer = some response)
    (fetched : fetchApiVersions responseBuffer = .ok apiVersions) (apiKey : Int) :
    apiVersions.get apiKey = (response.apiVersions.filter (·.apiKey = apiKey)).getLast? := by
  simp only [fetchApiVersions, parsed] at fetched
  split at fetched
  · cases fetched
  · cases fetched
    rw [JsMap.get_foldl_set, JsMap.get_empty, Option.or_none]

/-- After a successful `fetchApiVersions`, `supportsApiVersion(apiKey, v)` holds exactly when the
last range the response advertised for `apiKey` holds `v`, and `getApiVersion(apiKey)` gives that
range's bounds, or `(0, 0)` for a key the response did not advertise. -/
theorem supportsApiVersion_of_fetch {responseBuffer : Bytes} {response : ApiVersionsResponse}
    {apiVersions : JsMap Int ApiVersionRange}
    (parsed : ApiVersionsResponse.parse responseBuffer = some response)
    (fetched : fetchApiVersions responseBuffer = .ok apiVersions) (apiKey apiVersion : Int) :
    supportsApiVersion apiVersions apiKey apiVersion =
      ((response.apiVersions.filter (·.apiKey = apiKey)).getLast?).any (·.holds apiVersion) ∧
    getApiVersion apiVersions apiKey =
      (((response.apiVersions.filter (·.apiKey = apiKey)).getLast?).map
        fun range => (range.minVersion, range.maxVersion)).getD (0, 0) := by
  rw [supportsApiVersion, getApiVersion, get_of_fetch parsed fetched]
  cases (response.apiVersions.filter (·.apiKey = apiKey)).getLast? <;> exact ⟨rfl, rfl⟩

example :
    ApiVersionsResponse.parse [0, 0, 0, 0, 0, 0, 0, 0, 0, 1, 0, 3, 0, 0, 0, 13] =
      some ⟨0, [⟨3, 0, 13⟩], 0⟩ ∧
    fetchApiVersions [0, 0, 0, 0, 0, 0, 0, 0, 0, 1, 0, 3, 0, 0, 0, 13] =
      .ok (JsMap.empty.set 3 ⟨3, 0, 13⟩) ∧
    supportsApiVersion (JsMap.empty.set 3 ⟨3, 0, 13⟩) 3 12 = true ∧
    getApiVersion (JsMap.empty.set 3 ⟨3, 0, 13⟩) 3 = (0, 13) :=
  have parsed : ApiVersionsResponse.parse [0, 0, 0, 0, 0, 0, 0, 0, 0, 1, 0, 3, 0, 0, 0, 13] =
      some ⟨0, [⟨3, 0, 13⟩], 0⟩ := rfl
  have fetched : fetchApiVersions [0, 0, 0, 0, 0, 0, 0, 0, 0, 1, 0, 3, 0, 0, 0, 13] =
      .ok (JsMap.empty.set 3 ⟨3, 0, 13⟩) := rfl
  ⟨parsed, fetched, supportsApiVersion_of_fetch parsed fetched 3 12⟩

end NetworkClient

end KafkaClient
