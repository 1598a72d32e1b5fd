import KafkaClient.Responses
import Mathlib.Data.String.Basic
import Mathlib.Data.List.Sort
import Mathlib.Data.Nat.Digits

/-! `ClusterMetadata`: the client's cache of brokers and topics. `updateMetadata` replaces the
broker map, merges the topics of a response that carry no error, and emits `'update'` with the
topics whose partitions it sees change. A JavaScript `Map` is its entries in insertion order, each
key once; `sort()` without a comparator orders numbers by their decimal strings. -/

namespace KafkaClient

/-! ## JavaScript maps -/

/-- A JavaScript `Map`: its entries in insertion order, each key once. -/
structure JsMap (κ ν : Type) where
  entries : List (κ × ν)
  keys_nodup : (entries.map Prod.fst).Nodup

namespace JsMap

variable {κ ν : Type}

def empty : JsMap κ ν := ⟨[], List.nodup_nil⟩

variable [DecidableEq κ]

/-- `map.get(key)`. -/
def get (map : JsMap κ ν) (key : κ) : Option ν :=
  (map.entries.find? fun entry => entry.1 = key).map Prod.snd

@[simp] theorem get_empty (key : κ) : (empty : JsMap κ ν).get key = none := rfl

theorem keys_replace (entries : List (κ × ν)) (key : κ) (value : ν) :
    (entries.map fun entry => if entry.1 = key then (key, value) else entry).map Prod.fst =
      entries.map Prod.fst := by
  rw [List.map_map]
  exact List.map_congr_left fun entry _ => by by_cases same : entry.1 = key <;> simp [same]

/-- `map.set(key, value)`: the value replaced in place, or the entry added at the end. -/
def set (map : JsMap κ ν) (key : κ) (value : ν) : JsMap κ ν :=
  if present : key ∈ map.entries.map Prod.fst then
    ⟨map.entries.map fun entry => if entry.1 = key then (key, value) else entry,
      (keys_replace map.entries key value).symm ▸ map.keys_nodup⟩
  else
    ⟨map.entries ++ [(key, value)], by
      rw [List.map_append, List.nodup_append]
      exact ⟨map.keys_nodup, List.nodup_singleton _, List.disjoint_singleton.mpr present⟩⟩

/-- Replacing the value of `key` keeps which entries have any given key. -/
theorem replace_keyed (key other : κ) (value : ν) (apart : other ≠ key ∨ other = key) :
    ((fun entry : κ × ν => decide (entry.1 = other)) ∘
      fun entry => if entry.1 = key then (key, value) else entry) =
      fun entry => decide (entry.1 = other) := by
  funext entry
  by_cases keyed : entry.1 = key
  · rcases apart with apart | rfl
    · simp [keyed, Ne.symm apart]
    · simp [keyed]
  · simp [keyed]

theorem get_set_self (map : JsMap κ ν) (key : κ) (value : ν) :
    (map.set key value).get key = some value := by
  unfold set get
  split
  · rename_i present
    obtain ⟨entry, member, found⟩ := List.mem_map.mp present
    rw [List.find?_map, replace_keyed key key value (.inr rfl)]
    cases keyed : map.entries.find? fun entry => entry.1 = key with
    | none => exact absurd (List.find?_eq_none.mp keyed entry member) (by simpa using found)
    | some entry => simp [by simpa using List.find?_some keyed]
  · rename_i absent
    have none : (map.entries.find? fun entry => entry.1 = key) = none := by
      rw [List.find?_eq_none]; intro entry member same
      exact absent (List.mem_map.mpr ⟨entry, member, by simpa using same⟩)
    simp [List.find?_append, none]

theorem get_set_of_ne (map : JsMap κ ν) {key other : κ} (value : ν) (apart : other ≠ key) :
    (map.set key value).get other = map.get other := by
  unfold set get
  split
  · rw [List.find?_map, replace_keyed key other value (.inl apart)]
    cases keyed : map.entries.find? fun entry => entry.1 = other with
    | none => rfl
    | some entry =>
        have same : entry.1 = other := by simpa using List.find?_some keyed
        simp [same, apart]
  · have none : ([(key, value)].find? fun entry => entry.1 = other) = none := by
      simp [Ne.symm apart]
    simp [List.find?_append, none]

/-- After a loop of `map.set(keyOf(value), value)`, a key holds the last value with that key, or
else what it held before. -/
theorem get_foldl_set {α : Type} (keyOf : α → κ) :
    ∀ (values : List α) (map : JsMap κ α) (key : κ),
      (values.foldl (fun map value => map.set (keyOf value) value) map).get key =
        ((values.filter fun value => keyOf value = key).getLast?).or (map.get key)
  | [], _, _ => by simp
  | value :: values, map, key => by
      rw [List.foldl_cons, get_foldl_set keyOf values]
      by_cases keyed : keyOf value = key
      · subst keyed
        rw [get_set_self, List.filter_cons_of_pos (by simp), List.getLast?_cons]
        cases (values.filter fun other => keyOf other = keyOf value).getLast? <;> rfl
      · rw [get_set_of_ne _ _ (Ne.symm keyed), List.filter_cons_of_neg (by simpa using keyed)]

end JsMap

/-- In a list whose keys are distinct, the last element with a key is the one element with it. -/
theorem getLast?_filter_key {α β : Type} [DecidableEq β] {keyOf : α → β} {values : List α}
    (distinct : (values.map keyOf).Nodup) (key : β) (value : α) :
    (values.filter fun other => keyOf other = key).getLast? = some value ↔
      value ∈ values ∧ keyOf value = key := by
  have kept (value : α) (last : (values.filter fun other => keyOf other = key).getLast? = some value) :
      value ∈ values ∧ keyOf value = key := by
    simpa using List.mem_of_getLast?_eq_some last
  refine ⟨kept value, fun ⟨member, keyed⟩ => ?_⟩
  cases found : (values.filter fun other => keyOf other = key).getLast? with
  | none =>
      rw [List.getLast?_eq_none_iff, List.filter_eq_nil_iff] at found
      exact absurd (by simpa using keyed) (found value member)
  | some last =>
      obtain ⟨listed, same⟩ := kept last found
      rw [List.inj_on_of_nodup_map distinct listed member (same.trans keyed.symm)]

/-! ## Numbers as strings, and `sort()` -/

/-- The value of a string of decimal digits, read from the left. -/
def digitsValue (chars : List Char) : Nat :=
  chars.foldl (fun value char => 10 * value + (char.toNat - 48)) 0

theorem digitChar_value : ∀ k < 10, (Nat.digitChar k).toNat - 48 = k := by decide

theorem toDigitsCore_value : ∀ (fuel n : Nat) (chars : List Char), n < fuel →
    (Nat.toDigitsCore 10 fuel n chars).foldl (fun value char => 10 * value + (char.toNat - 48)) 0 =
      chars.foldl (fun value char => 10 * value + (char.toNat - 48)) n
  | 0, _, _, small => absurd small (Nat.not_lt_zero _)
  | fuel + 1, n, chars, small => by
      have digit := digitChar_value (n % 10) (Nat.mod_lt _ (by decide))
      by_cases last : n / 10 = 0
      · simp only [Nat.toDigitsCore, last, if_true, List.foldl_cons, digit]
        congr 1
        omega
      · simp only [Nat.toDigitsCore, last, if_false]
        rw [toDigitsCore_value fuel (n / 10) _ (by omega), List.foldl_cons, digit]
        congr 1
        omega

theorem digitsValue_toDigits (n : Nat) : digitsValue (Nat.toDigits 10 n) = n :=
  toDigitsCore_value (n + 1) n [] (Nat.lt_succ_self n)

theorem natRepr_injective : Function.Injective Nat.repr := by
  intro m n same
  have digits : Nat.toDigits 10 m = Nat.toDigits 10 n := congrArg String.data same
  rw [← digitsValue_toDigits m, digits, digitsValue_toDigits]

/-- `String(x)` for an integer `x`: distinct integers have distinct strings. -/
theorem intToString_injective : Function.Injective (toString : Int → String) := by
  have minus (m k : Nat) : toString (Int.ofNat m) ≠ toString (Int.negSucc k) := by
    intro same
    have digits : Nat.toDigits 10 m = '-' :: Nat.toDigits 10 (k + 1) := congrArg String.data same
    have signed : digitsValue ('-' :: Nat.toDigits 10 (k + 1)) =
        digitsValue (Nat.toDigits 10 (k + 1)) := rfl
    have value : m = k + 1 := by
      rw [← digitsValue_toDigits m, digits, signed, digitsValue_toDigits]
    subst value
    exact List.cons_ne_self _ _ digits.symm
  rintro (m | m) (n | n) same
  · exact congrArg _ (natRepr_injective same)
  · exact absurd same (minus m n)
  · exact absurd same.symm (minus n m)
  · have digits : Nat.toDigits 10 (m + 1) = Nat.toDigits 10 (n + 1) := by
      simpa [toString, Nat.repr, List.asString] using congrArg String.data same
    have := congrArg digitsValue digits
    rw [digitsValue_toDigits, digitsValue_toDigits] at this
    rw [Nat.succ_injective this]

/-- The order in which `Array.prototype.sort()` without a comparator puts numbers: that of their
strings. -/
def jsNumberOrder (x y : Int) : Prop := toString x ≤ toString y

instance : DecidableRel jsNumberOrder := fun x y => inferInstanceAs (Decidable (toString x ≤ toString y))

instance : IsTotal Int jsNumberOrder := ⟨fun x y => le_total (toString x) (toString y)⟩

instance : IsTrans Int jsNumberOrder := ⟨fun _ _ _ => le_trans⟩

instance : IsAntisymm Int jsNumberOrder :=
  ⟨fun _ _ before after => intToString_injective (le_antisymm before after)⟩

/-- `[...values].sort()`. The sort is stable, and any stable sort by `jsNumberOrder` gives this
list. -/
def jsSort (values : List Int) : List Int := values.insertionSort jsNumberOrder

/-- Sorting is a function of the multiset: two lists sort alike exactly when one is a
permutation of the other. -/
theorem jsSort_eq_iff (a b : List Int) : jsSort a = jsSort b ↔ a.Perm b := by
  constructor
  · intro same
    have sorted : (jsSort a).Perm b := same ▸ List.perm_insertionSort _ b
    exact (List.perm_insertionSort _ a).symm.trans sorted
  · intro permuted
    exact List.eq_of_perm_of_sorted
      ((List.perm_insertionSort _ a).trans (permuted.trans (List.perm_insertionSort _ b).symm))
      (List.sorted_insertionSort _ a) (List.sorted_insertionSort _ b)

/-! ## The cache -/

/-- `hasArrayChanged(a, b)`: the lengths differ, or the sorted copies differ at some index. -/
def hasArrayChanged (a b : List Int) : Bool :=
  if a.length ≠ b.length then true
  else
    let sortedA := jsSort a
    let sortedB := jsSort b
    (sortedA.zip sortedB).any fun (x, y) => x != y

/-- Two lists of one length differ at some index exactly when they differ. -/
theorem zip_any_ne {α : Type} [DecidableEq α] (xs ys : List α) (same : xs.length = ys.length) :
    ((xs.zip ys).any fun (x, y) => x != y) = true ↔ xs ≠ ys := by
  induction xs generalizing ys with
  | nil => cases ys <;> simp_all
  | cons x xs ih =>
      cases ys with
      | nil => simp at same
      | cons y ys =>
          rw [List.zip_cons_cons, List.any_cons, Bool.or_eq_true, ih ys (by simpa using same)]
          simp only [bne_iff_ne, ne_eq, List.cons.injEq, not_and_or]

theorem hasArrayChanged_iff (a b : List Int) : hasArrayChanged a b = true ↔ ¬ a.Perm b := by
  unfold hasArrayChanged
  by_cases lengths : a.length = b.length
  · have sorted : (jsSort a).length = (jsSort b).length := by
      simp only [jsSort, List.length_insertionSort, lengths]
    simp only [lengths, ne_eq, not_true_eq_false, if_false]
    exact (zip_any_ne _ _ sorted).trans (not_congr (jsSort_eq_iff a b))
  · simp only [lengths, ne_eq, not_false_eq_true, if_true, true_iff]
    exact fun permuted => lengths permuted.length_eq

/-- `hasArrayChanged(a, b)` is false exactly when `b` is a permutation of `a`, though both copies
are sorted by their decimal strings. -/
theorem hasArrayChanged_false_iff_perm (a b : List Int) :
    hasArrayChanged a b = false ↔ a.Perm b := by
  rw [← Bool.not_eq_true, hasArrayChanged_iff, not_not]

/-- The body of the loop of `hasPartitionChanges`, for one updated partition: no existing
partition of its index, another leader or epoch, or another replica, ISR or offline replica set. -/
def partitionChanged (existingMap : JsMap Int PartitionMetadata) (partition : PartitionMetadata) :
    Bool :=
  match existingMap.get partition.partitionIndex with
  | none => true
  | some existingPartition =>
      existingPartition.leaderId != partition.leaderId ||
        existingPartition.leaderEpoch != partition.leaderEpoch ||
        hasArrayChanged existingPartition.replicaNodes partition.replicaNodes ||
        hasArrayChanged existingPartition.isrNodes partition.isrNodes ||
        hasArrayChanged existingPartition.offlineReplicas partition.offlineReplicas

/-- `hasPartitionChanges(existing, updated)`: the counts differ, or some updated partition
changed against the existing partitions keyed by index. -/
def hasPartitionChanges (existing updated : List PartitionMetadata) : Bool :=
  if existing.length ≠ updated.length then true
  else
    let existingMap := existing.foldl (fun map partition => map.set partition.partitionIndex partition)
      JsMap.empty
    updated.any (partitionChanged existingMap)

/-- The documented change of a partition against the stored partition of its index: another
leader or epoch, or another multiset of replicas, in-sync replicas or offline replicas. -/
def PartitionMetadata.Differs (existing partition : PartitionMetadata) : Prop :=
  existing.leaderId ≠ partition.leaderId ∨ existing.leaderEpoch ≠ partition.leaderEpoch ∨
    ¬ existing.replicaNodes.Perm partition.replicaNodes ∨
    ¬ existing.isrNodes.Perm partition.isrNodes ∨
    ¬ existing.offlineReplicas.Perm partition.offlineReplicas

instance (existing partition : PartitionMetadata) : Decidable (existing.Differs partition) :=
  inferInstanceAs (Decidable (_ ∨ _))

theorem changedFields_iff (existing partition : PartitionMetadata) :
    (existing.leaderId != partition.leaderId || existing.leaderEpoch != partition.leaderEpoch ||
      hasArrayChanged existing.replicaNodes partition.replicaNodes ||
      hasArrayChanged existing.isrNodes partition.isrNodes ||
      hasArrayChanged existing.offlineReplicas partition.offlineReplicas) = true ↔
      existing.Differs partition := by
  simp only [Bool.or_eq_true, bne_iff_ne, hasArrayChanged_iff, PartitionMetadata.Differs, or_assoc]

theorem partitionChanged_iff (existing : List PartitionMetadata)
    (distinct : (existing.map (·.partitionIndex)).Nodup) (partition : PartitionMetadata) :
    partitionChanged (existing.foldl (fun map stored => map.set stored.partitionIndex stored)
      JsMap.empty) partition = true ↔
      (∀ stored ∈ existing, stored.partitionIndex ≠ partition.partitionIndex) ∨
        ∃ stored ∈ existing, stored.partitionIndex = partition.partitionIndex ∧
          stored.Differs partition := by
  unfold partitionChanged
  rw [JsMap.get_foldl_set, JsMap.get_empty, Option.or_none]
  cases last : (existing.filter fun stored => stored.partitionIndex = partition.partitionIndex).getLast? with
  | none =>
      rw [List.getLast?_eq_none_iff, List.filter_eq_nil_iff] at last
      exact iff_of_true rfl (.inl fun stored member same => last stored member (by simpa using same))
  | some found =>
      obtain ⟨member, keyed⟩ := (getLast?_filter_key distinct _ found).mp last
      simp only [changedFields_iff]
      constructor
      · exact fun differs => .inr ⟨found, member, keyed, differs⟩
      · rintro (absent | ⟨other, listed, same, differs⟩)
        · exact absurd keyed (absent found member)
        · rwa [List.inj_on_of_nodup_map distinct member listed (keyed.trans same.symm)]

theorem hasPartitionChanges_iff (existing updated : List PartitionMetadata)
    (distinct : (existing.map (·.partitionIndex)).Nodup) (counted : existing.length = updated.length) :
    hasPartitionChanges existing updated = true ↔
      ∃ partition ∈ updated,
        (∀ stored ∈ existing, stored.partitionIndex ≠ partition.partitionIndex) ∨
          ∃ stored ∈ existing, stored.partitionIndex = partition.partitionIndex ∧
            stored.Differs partition := by
  simp only [hasPartitionChanges, counted, ne_eq, not_true_eq_false, if_false, List.any_eq_true,
    partitionChanged_iff existing distinct]

/-- The errors `findLeader` throws: a `KafkaError` for a topic or a partition missing from the
cache, a `LeaderNotAvailableError` for a partition without a leader. -/
inductive LookupError (Text : Type) where
  /-- `Topic ${topic} not found in metadata` -/
  | topicNotFound (topic : Text)
  /-- `Partition ${partition} not found for topic ${topic}` -/
  | partitionNotFound (partition : Int) (topic : Text)
  /-- `No leader for topic ${topic} partition ${partition}` -/
  | leaderNotAvailable (topic : Text) (partition : Int)
  deriving DecidableEq, Repr

/-- The rest of `findLeader` once the topic is found: its partition, and that partition's
leader. -/
def TopicMetadata.leader {Text : Type} (topicMetadata : TopicMetadata Text) (topic : Text)
    (partition : Int) : Except (LookupError Text) Int :=
  match topicMetadata.partitions.find? (·.partitionIndex = partition) with
  | none => .error (.partitionNotFound partition topic)
  | some partitionMetadata =>
      if partitionMetadata.leaderId < 0 then .error (.leaderNotAvailable topic partition)
      else .ok partitionMetadata.leaderId

/-- The fields of a `ClusterMetadata`, with the values its constructor gives them. -/
structure ClusterMetadata (Text : Type) where
  topics : JsMap Text (TopicMetadata Text) := .empty
  brokers : JsMap Int (Broker Text) := .empty
  clusterId : Option Text := none
  controllerId : Int := -1
  isMetadataInitialized : Bool := false

namespace ClusterMetadata

variable {Text : Type} [DecidableEq Text]

def getTopicMetadata (cache : ClusterMetadata Text) (topic : Text) : Option (TopicMetadata Text) :=
  cache.topics.get topic

def getBroker (cache : ClusterMetadata Text) (nodeId : Int) : Option (Broker Text) :=
  cache.brokers.get nodeId

def findLeader (cache : ClusterMetadata Text) (topic : Text) (partition : Int) :
    Except (LookupError Text) Int :=
  match cache.topics.get topic with
  | none => .error (.topicNotFound topic)
  | some topicMetadata => topicMetadata.leader topic partition

def getPartitionsForTopic (cache : ClusterMetadata Text) (topic : Text) : List PartitionMetadata :=
  match cache.topics.get topic with
  | none => []
  | some topicMetadata => topicMetadata.partitions

/-- The condition under which `updateMetadata` pushes a topic's name: not stored yet, another
partition count, or `hasPartitionChanges`. -/
def topicChanged (existingTopic : Option (TopicMetadata Text)) (topic : TopicMetadata Text) :
    Bool :=
  match existingTopic with
  | none => true
  | some existingTopic =>
      existingTopic.partitions.length != topic.partitions.length ||
        hasPartitionChanges existingTopic.partitions topic.partitions

/-- The body of the topics loop of `updateMetadata`, over the topic map and `updatedTopics`: a topic
with an error is skipped, any other is set, and its name pushed when it changed. -/
def updateTopic (state : JsMap Text (TopicMetadata Text) × List Text) (topic : TopicMetadata Text) :
    JsMap Text (TopicMetadata Text) × List Text :=
  if topic.errorCode ≠ 0 then state
  else
    (state.1.set topic.name topic,
      if topicChanged (state.1.get topic.name) topic then state.2 ++ [topic.name] else state.2)

/-- `updateMetadata(brokers, topics, clusterId, controllerId)`: the cache after the call, and the
topic names of the `'update'` event when it is emitted. -/
def updateMetadata (cache : ClusterMetadata Text) (brokers : List (Broker Text))
    (topics : List (TopicMetadata Text)) (clusterId : Option Text) (controllerId : Int) :
    ClusterMetadata Text × Option (List Text) :=
  let brokerMap := brokers.foldl (fun map broker => map.set broker.nodeId broker) JsMap.empty
  let (topicMap, updatedTopics) := topics.foldl updateTopic (cache.topics, [])
  let wasInitialized := cache.isMetadataInitialized
  (⟨topicMap, brokerMap, clusterId, controllerId, true⟩,
    if updatedTopics.length > 0 || !wasInitialized then some updatedTopics else none)

/-- The documented change of a topic: it was not stored, its partition count differs, or a
partition differs from the stored partition of its index. -/
def ListedChange (stored : Option (TopicMetadata Text)) (topic : TopicMetadata Text) : Prop :=
  match stored with
  | none => True
  | some existing =>
      existing.partitions.length ≠ topic.partitions.length ∨
        ∃ partition ∈ topic.partitions, ∃ existingPartition ∈ existing.partitions,
          existingPartition.partitionIndex = partition.partitionIndex ∧
            existingPartition.Differs partition

/-- The other change `hasPartitionChanges` reports: a partition whose index no stored partition
has. -/
def UnmatchedIndex (stored : Option (TopicMetadata Text)) (topic : TopicMetadata Text) : Prop :=
  match stored with
  | none => False
  | some existing =>
      ∃ partition ∈ topic.partitions, ∀ existingPartition ∈ existing.partitions,
        existingPartition.partitionIndex ≠ partition.partitionIndex

instance : ∀ (stored : Option (TopicMetadata Text)) (topic : TopicMetadata Text),
    Decidable (ListedChange stored topic)
  | none, _ => isTrue trivial
  | some _, _ => inferInstanceAs (Decidable (_ ∨ _))

instance : ∀ (stored : Option (TopicMetadata Text)) (topic : TopicMetadata Text),
    Decidable (UnmatchedIndex stored topic)
  | none, _ => isFalse id
  | some _, _ => inferInstanceAs (Decidable (∃ _ ∈ _, _))

omit [DecidableEq Text] in
theorem topicChanged_iff (stored : Option (TopicMetadata Text)) (topic : TopicMetadata Text)
    (distinct : ∀ existing, stored = some existing →
      (existing.partitions.map (·.partitionIndex)).Nodup) :
    topicChanged stored topic = true ↔ ListedChange stored topic ∨ UnmatchedIndex stored topic := by
  cases stored with
  | none => exact iff_of_true rfl (.inl trivial)
  | some existing =>
      simp only [topicChanged, ListedChange, UnmatchedIndex, Bool.or_eq_true, bne_iff_ne]
      by_cases counted : existing.partitions.length = topic.partitions.length
      · rw [hasPartitionChanges_iff _ _ (distinct existing rfl) counted]
        simp only [counted, ne_eq, not_true_eq_false, false_or, and_or_left, exists_or]
        exact or_comm
      · simp [counted]

/-- The topic map after the loop: every topic without an error set in turn. -/
theorem foldl_updateTopic_map : ∀ (topics : List (TopicMetadata Text))
    (state : JsMap Text (TopicMetadata Text) × List Text),
    (topics.foldl updateTopic state).1 =
      (topics.filter (·.errorCode = 0)).foldl (fun map topic => map.set topic.name topic) state.1
  | [], _ => rfl
  | topic :: topics, state => by
      by_cases failed : topic.errorCode = 0
      · rw [List.foldl_cons, foldl_updateTopic_map topics, List.filter_cons_of_pos (by simpa using failed),
          List.foldl_cons]
        simp [updateTopic, failed]
      · rw [List.foldl_cons, foldl_updateTopic_map topics, List.filter_cons_of_neg (by simpa using failed)]
        simp [updateTopic, failed]

/-- The names the loop pushes: those of the topics without an error that changed against the map
the loop started from, when no name repeats. -/
theorem foldl_updateTopic_names : ∀ (topics : List (TopicMetadata Text))
    (map : JsMap Text (TopicMetadata Text)) (names : List Text), (topics.map (·.name)).Nodup →
    (topics.foldl updateTopic (map, names)).2 =
      names ++ (topics.filter fun topic =>
        topic.errorCode = 0 ∧ topicChanged (map.get topic.name) topic).map (·.name)
  | [], _, _, _ => by simp
  | topic :: topics, map, names, distinct => by
      obtain ⟨fresh, distinct⟩ := List.nodup_cons.mp distinct
      by_cases failed : topic.errorCode = 0
      · have later : (topics.filter fun other => other.errorCode = 0 ∧
              topicChanged ((map.set topic.name topic).get other.name) other) =
            topics.filter fun other => other.errorCode = 0 ∧ topicChanged (map.get other.name) other :=
          List.filter_congr fun other listed => by
            rw [JsMap.get_set_of_ne _ _ fun same => fresh (List.mem_map.mpr ⟨other, listed, same⟩)]
        rw [List.foldl_cons, updateTopic, if_neg (not_not.mpr failed), foldl_updateTopic_names topics _ _
          distinct, later, List.filter_cons]
        by_cases changed : topicChanged (map.get topic.name) topic <;> simp [failed, changed]
      · rw [List.foldl_cons, updateTopic, if_pos failed, foldl_updateTopic_names topics _ _ distinct,
          List.filter_cons_of_neg (by simp [failed])]

/-- The names of the topics without an error that changed in the documented sense or have a
partition of an unmatched index, in the order of the response. -/
def reportedTopics (cache : ClusterMetadata Text) (topics : List (TopicMetadata Text)) : List Text :=
  (topics.filter fun topic => topic.errorCode = 0 ∧
    (ListedChange (cache.topics.get topic.name) topic ∨
      UnmatchedIndex (cache.topics.get topic.name) topic)).map (·.name)

theorem update_event_lists_changed_topics (cache : ClusterMetadata Text)
    (brokers : List (Broker Text)) (topics : List (TopicMetadata Text)) (clusterId : Option Text)
    (controllerId : Int) (distinct : (topics.map (·.name)).Nodup)
    (storedDistinct : ∀ name existing, cache.topics.get name = some existing →
      (existing.partitions.map (·.partitionIndex)).Nodup) :
    (cache.updateMetadata brokers topics clusterId controllerId).2 =
      if reportedTopics cache topics ≠ [] ∨ cache.isMetadataInitialized = false
      then some (reportedTopics cache topics) else none := by
  have names : (topics.foldl updateTopic (cache.topics, [])).2 = reportedTopics cache topics := by
    rw [foldl_updateTopic_names _ _ _ distinct, List.nil_append, reportedTopics]
    exact congrArg _ (List.filter_congr fun topic _ => decide_eq_decide.mpr
      (and_congr_right' (topicChanged_iff _ topic (storedDistinct topic.name))))
  simp only [updateMetadata]
  rw [names]
  exact if_congr (by simp [List.length_pos]) rfl rfl

/-- A second update, over a cache that stores two topics: the topic whose leader moved is
reported, the one whose ISR was only reordered is not, and the new topic is. -/
theorem second_update_lists_changed_topics :
    (([⟨0, [116], false, [⟨0, 0, 2, 5, [1, 2], [1, 2], []⟩], 0⟩, ⟨0, [117], false, [⟨0, 0, 2, 5, [1, 2], [1, 2], []⟩], 0⟩, ⟨0, [118], false, [⟨0, 0, 1, 5, [1], [1], []⟩], 0⟩] : List (TopicMetadata Bytes)).map (·.name)).Nodup ∧
    (∀ entry ∈ (({} : ClusterMetadata Bytes).updateMetadata [] [⟨0, [116], false, [⟨0, 0, 1, 5, [1, 2], [1, 2], []⟩], 0⟩, ⟨0, [117], false, [⟨0, 0, 2, 5, [1, 2], [2, 1], []⟩], 0⟩] none 1).1.topics.entries,
      (entry.2.partitions.map (·.partitionIndex)).Nodup) ∧
    reportedTopics (({} : ClusterMetadata Bytes).updateMetadata [] [⟨0, [116], false, [⟨0, 0, 1, 5, [1, 2], [1, 2], []⟩], 0⟩, ⟨0, [117], false, [⟨0, 0, 2, 5, [1, 2], [2, 1], []⟩], 0⟩] none 1).1 [⟨0, [116], false, [⟨0, 0, 2, 5, [1, 2], [1, 2], []⟩], 0⟩, ⟨0, [117], false, [⟨0, 0, 2, 5, [1, 2], [1, 2], []⟩], 0⟩, ⟨0, [118], false, [⟨0, 0, 1, 5, [1], [1], []⟩], 0⟩] = [[116], [118]] ∧
    ((({} : ClusterMetadata Bytes).updateMetadata [] [⟨0, [116], false, [⟨0, 0, 1, 5, [1, 2], [1, 2], []⟩], 0⟩, ⟨0, [117], false, [⟨0, 0, 2, 5, [1, 2], [2, 1], []⟩], 0⟩] none 1).1.updateMetadata [] [⟨0, [116], false, [⟨0, 0, 2, 5, [1, 2], [1, 2], []⟩], 0⟩, ⟨0, [117], false, [⟨0, 0, 2, 5, [1, 2], [1, 2], []⟩], 0⟩, ⟨0, [118], false, [⟨0, 0, 1, 5, [1], [1], []⟩], 0⟩] none 1).2 =
      if reportedTopics (({} : ClusterMetadata Bytes).updateMetadata [] [⟨0, [116], false, [⟨0, 0, 1, 5, [1, 2], [1, 2], []⟩], 0⟩, ⟨0, [117], false, [⟨0, 0, 2, 5, [1, 2], [2, 1], []⟩], 0⟩] none 1).1 [⟨0, [116], false, [⟨0, 0, 2, 5, [1, 2], [1, 2], []⟩], 0⟩, ⟨0, [117], false, [⟨0, 0, 2, 5, [1, 2], [1, 2], []⟩], 0⟩, ⟨0, [118], false, [⟨0, 0, 1, 5, [1], [1], []⟩], 0⟩] ≠ [] ∨
          (({} : ClusterMetadata Bytes).updateMetadata [] [⟨0, [116], false, [⟨0, 0, 1, 5, [1, 2], [1, 2], []⟩], 0⟩, ⟨0, [117], false, [⟨0, 0, 2, 5, [1, 2], [2, 1], []⟩], 0⟩] none 1).1.isMetadataInitialized = false
      then some (reportedTopics (({} : ClusterMetadata Bytes).updateMetadata [] [⟨0, [116], false, [⟨0, 0, 1, 5, [1, 2], [1, 2], []⟩], 0⟩, ⟨0, [117], false, [⟨0, 0, 2, 5, [1, 2], [2, 1], []⟩], 0⟩] none 1).1 [⟨0, [116], false, [⟨0, 0, 2, 5, [1, 2], [1, 2], []⟩], 0⟩, ⟨0, [117], false, [⟨0, 0, 2, 5, [1, 2], [1, 2], []⟩], 0⟩, ⟨0, [118], false, [⟨0, 0, 1, 5, [1], [1], []⟩], 0⟩]) else none :=
  have stored : ∀ entry ∈ (({} : ClusterMetadata Bytes).updateMetadata [] [⟨0, [116], false, [⟨0, 0, 1, 5, [1, 2], [1, 2], []⟩], 0⟩, ⟨0, [117], false, [⟨0, 0, 2, 5, [1, 2], [2, 1], []⟩], 0⟩] none 1).1.topics.entries,
      (entry.2.partitions.map (·.partitionIndex)).Nodup := by decide
  ⟨by decide, stored, by decide,
    update_event_lists_changed_topics _ [] _ none 1 (by decide) fun _ _ found => by
      obtain ⟨entry, listed, rfl⟩ := Option.map_eq_some'.1 found
      exact stored entry (List.mem_of_find?_eq_some listed)⟩

/-- A partition that moves to another index, the count unchanged: the code reports the topic,
though it is not stored anew, keeps its count, and no partition differs from the stored partition
of its index. -/
theorem moved_partition_reported :
    (((({} : ClusterMetadata Bytes).updateMetadata [] [⟨0, [116], false, [⟨0, 0, 1, 5, [1], [], []⟩], 0⟩]
        none 1).1.updateMetadata [] [⟨0, [116], false, [⟨0, 1, 1, 5, [1], [], []⟩], 0⟩] none 1).2 =
      some [[116]]) ∧
    ¬ ListedChange ((({} : ClusterMetadata Bytes).updateMetadata []
        [⟨0, [116], false, [⟨0, 0, 1, 5, [1], [], []⟩], 0⟩] none 1).1.topics.get [116])
      ⟨0, [116], false, [⟨0, 1, 1, 5, [1], [], []⟩], 0⟩ :=
  ⟨rfl, by decide⟩

/-- The entry a response refreshes a topic name to: the last one of that name without an error. -/
def refreshedEntry (topics : List (TopicMetadata Text)) (name : Text) :
    Option (TopicMetadata Text) :=
  (topics.filter fun topic => topic.errorCode = 0 ∧ topic.name = name).getLast?

/-- What `updateMetadata(brokers, topics, clusterId, controllerId)` leaves in the cache: the
brokers of the response alone, the refreshed topics, every other topic as it was, and the
cluster's ids. -/
structure RefreshedFrom (cache cache' : ClusterMetadata Text) (brokers : List (Broker Text))
    (topics : List (TopicMetadata Text)) (clusterId : Option Text) (controllerId : Int) : Prop where
  brokers_replaced : ∀ nodeId, cache'.getBroker nodeId = (brokers.filter (·.nodeId = nodeId)).getLast?
  refreshed : ∀ name topic, refreshedEntry topics name = some topic →
    cache'.getTopicMetadata name = some topic ∧
      (∀ partition, cache'.findLeader name partition = topic.leader name partition) ∧
      cache'.getPartitionsForTopic name = topic.partitions
  kept : ∀ name, refreshedEntry topics name = none →
    cache'.getTopicMetadata name = cache.getTopicMetadata name ∧
      (∀ partition, cache'.findLeader name partition = cache.findLeader name partition) ∧
      cache'.getPartitionsForTopic name = cache.getPartitionsForTopic name
  clusterId_set : cache'.clusterId = clusterId
  controllerId_set : cache'.controllerId = controllerId
  initialized : cache'.isMetadataInitialized = true

theorem get_updateMetadata_topics (cache : ClusterMetadata Text) (brokers : List (Broker Text))
    (topics : List (TopicMetadata Text)) (clusterId : Option Text) (controllerId : Int) (name : Text) :
    (cache.updateMetadata brokers topics clusterId controllerId).1.topics.get name =
      (refreshedEntry topics name).or (cache.topics.get name) := by
  simp only [updateMetadata]
  rw [foldl_updateTopic_map, JsMap.get_foldl_set, List.filter_filter, refreshedEntry]
  congr 2
  exact List.filter_congr fun topic _ => by simp [Bool.and_comm]

theorem updateMetadata_refreshes (cache : ClusterMetadata Text) (brokers : List (Broker Text))
    (topics : List (TopicMetadata Text)) (clusterId : Option Text) (controllerId : Int) :
    RefreshedFrom cache (cache.updateMetadata brokers topics clusterId controllerId).1 brokers topics
      clusterId controllerId where
  brokers_replaced nodeId := by simp [updateMetadata, getBroker, JsMap.get_foldl_set]
  refreshed name topic found := by
    simp only [getTopicMetadata, findLeader, getPartitionsForTopic, get_updateMetadata_topics, found,
      Option.or_some, implies_true, and_self]
  kept name absent := by
    simp only [getTopicMetadata, findLeader, getPartitionsForTopic, get_updateMetadata_topics, absent,
      Option.none_or, implies_true, and_self]
  clusterId_set := rfl
  controllerId_set := rfl
  initialized := rfl

end ClusterMetadata

end KafkaClient
