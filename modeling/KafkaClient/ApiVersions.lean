import KafkaClient.ClusterMetadata

/-! The versions of the Kafka APIs: `apiVersion`, the client's table of the highest version it
implements of each API; `fetchApiVersions`, which stores the version ranges a broker advertises,
keyed by api key in a `Map`; and the version `refreshMetadata` gives its Metadata request, read
from that map. -/

namespace KafkaClient

/-- `ApiKeys.METADATA`. -/
def ApiKeys.metadata : Int := 3

/-- The versions of `apiVersion`'s table, by api key from `PRODUCE = 0` to
`CONSUMER_GROUP_HEARTBEAT = 68`. -/
def apiVersionTable : List Int :=
  [9, 13, 7, 12, 6, 3, 7, 3, 8, 8, 4, 9, 4, 5, 5, 5, 4, 1, 3, 7, 6, 2, 4, 4, 3, 3, 3, 1, 3, 3, 3,
    3, 4, 2, 2, 4, 2, 3, 3, 2, 2, 3, 2, 2, 1, 0, 0, 0, 1, 1, 0, 0, 0, 0, 0, 0, 0, 0, 0, 0, 0, 0, 0,
    0, 0, 0, 0, 0, 0]

/-- `apiVersion(apiKey)`: `versions[apiKey] || 0`. -/
def apiVersion (apiKey : Int) : Int :=
  if 0 ≤ apiKey then apiVersionTable.getD apiKey.toNat 0 else 0

/-- What `fetchApiVersions` throws once its request is answered: a `RangeError` of
`ApiVersionsResponse.parse`, or a `KafkaError`. -/
inductive FetchError where
  | rangeError
  /-- `Error fetching API versions: ${response.errorCode}` -/
  | errorCode (errorCode : Int)
  deriving DecidableEq, Repr

/-- `fetchApiVersions(broker)` once `broker.send(...)` resolved with `responseBuffer`: the new
`this.apiVersions`, cleared and then set from each range of the response, in order. On an error
the map is left as it was. -/
def fetchApiVersions (responseBuffer : Bytes) : Except FetchError (JsMap Int ApiVersionRange) :=
  match ApiVersionsResponse.parse responseBuffer with
  | none => .error .rangeError
  | some response =>
      if response.errorCode ≠ 0 then .error (.errorCode response.errorCode)
      else .ok (response.apiVersions.foldl (fun map version => map.set version.apiKey version)
        JsMap.empty)

/-- The `version` of `refreshMetadata`: `metadataVersionInfo ? metadataVersionInfo.maxVersion : 0`
for the stored METADATA range. -/
def metadataVersion (apiVersions : JsMap Int ApiVersionRange) : Int :=
  match apiVersions.get ApiKeys.metadata with
  | some metadataVersionInfo => metadataVersionInfo.maxVersion
  | none => 0

/-- The highest version a broker's range and the client's maximum both allow, the largest `v`
with `minVersion ≤ v ≤ min maxVersion clientMax`, when there is one. -/
def highestMutualVersion (range : ApiVersionRange) (clientMax : Int) : Option Int :=
  if range.minVersion ≤ min range.maxVersion clientMax then some (min range.maxVersion clientMax)
  else none

/-- The version of the Metadata request after a successful `fetchApiVersions`: the `maxVersion`
of the last METADATA range of the response, or 0 without one. -/
theorem metadataVersion_of_fetch {responseBuffer : Bytes} {response : ApiVersionsResponse}
    {apiVersions : JsMap Int ApiVersionRange}
    (parsed : ApiVersionsResponse.parse responseBuffer = some response)
    (fetched : fetchApiVersions responseBuffer = .ok apiVersions) :
    metadataVersion apiVersions =
      (((response.apiVersions.filter (·.apiKey = ApiKeys.metadata)).getLast?).map
        (·.maxVersion)).getD 0 := by
  simp only [fetchApiVersions, parsed] at fetched
  split at fetched
  · cases fetched
  · cases fetched
    rw [metadataVersion, JsMap.get_foldl_set, JsMap.get_empty, Option.or_none]
    cases (response.apiVersions.filter (·.apiKey = ApiKeys.metadata)).getLast? <;> rfl

/-- `refreshMetadata` sends the broker's METADATA `maxVersion`, or 0 without a METADATA range,
and never looks at `apiVersion(METADATA)`. That is the highest version both sides support only
while the broker's maximum is within the client's: a broker advertising METADATA versions 0 to
13 gets a version 13 request, one past the client's 12. -/
theorem metadata_version_ignores_client_maximum :
    (∀ responseBuffer response apiVersions,
      ApiVersionsResponse.parse responseBuffer = some response →
      fetchApiVersions responseBuffer = .ok apiVersions →
      (response.apiVersions.filter (·.apiKey = ApiKeys.metadata) = [] →
        metadataVersion apiVersions = 0) ∧
      ∀ range,
        (response.apiVersions.filter (·.apiKey = ApiKeys.metadata)).getLast? = some range →
        metadataVersion apiVersions = range.maxVersion ∧
        (range.minVersion ≤ range.maxVersion →
          range.maxVersion ≤ apiVersion ApiKeys.metadata →
          highestMutualVersion range (apiVersion ApiKeys.metadata) =
            some (metadataVersion apiVersions))) ∧
    (fetchApiVersions [0, 0, 0, 0, 0, 0, 0, 0, 0, 1, 0, 3, 0, 0, 0, 13]).map metadataVersion =
      .ok 13 ∧
    apiVersion ApiKeys.metadata = 12 ∧
    highestMutualVersion ⟨3, 0, 13⟩ (apiVersion ApiKeys.metadata) = some 12 := by
  refine ⟨fun responseBuffer response apiVersions parsed fetched => ⟨fun absent => ?_,
    fun range last => ?_⟩, rfl, rfl, rfl⟩
  · rw [metadataVersion_of_fetch parsed fetched, absent]
    rfl
  · have sent : metadataVersion apiVersions = range.maxVersion := by
      rw [metadataVersion_of_fetch parsed fetched, last]
      rfl
    refine ⟨sent, fun ordered within => ?_⟩
    rw [sent, highestMutualVersion, min_eq_left within, if_pos ordered]

end KafkaClient
