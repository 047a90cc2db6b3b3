import WaqitiAudit.Kafka.Extractor

/-!
# Extracting the consumed topics

`src/services/extract_topics.py` asks `grep -r -l '@KafkaListener' … --include=*.java`
for the files that mention a listener, reads from each the quoted topics of every
`@KafkaListener(topics = {…})`, and maps every topic to the consumers naming it
(service, class and file); `main` prints three counts and writes the sorted topics.

`find_all_kafka_listeners` has two returns: `{}` when `grep` exits with a non-zero
status, and the pair `(topic_mapping, all_topics)` otherwise. `grep` exits with 1 when
it lists no file, and with 2 when it meets a directory or a `.java` file it cannot read,
whatever files it listed. `main` unpacks the result into two names, so the first return
makes it fail. The files are those `grep` and the script read, as UTF-8 text.

What is proved:

* **the script** — `main_eq`: `main` fails with the unpacking error exactly when `grep`
  meets an unreadable directory or `.java` file, or no `.java` file contains
  `@KafkaListener`; otherwise the number of unique topics and the
  number of topic-to-consumer mappings it prints are both the number of distinct topics
  the pattern recovers, the number of consumer files is the number of distinct paths of
  the files with at least one topic, and the topic list is those topics sorted;
* **the mapping** — `get?_topicMapping`: under each topic, `topic_mapping` holds one
  consumer record per occurrence of the topic in a listener array, in the order of the
  files, so a file naming a topic twice is recorded twice.
-/

namespace ExtractTopics

open PyStr PyRe ReferenceValidator KafkaAudit

open scoped List

/-! ## The script -/

/-- `@KafkaListener\s*\(\s*topics\s*=\s*\{([^}]+)\}` (`re.DOTALL` changes nothing: the
pattern has no `.`). -/
def kafkaListenerRe : Regex :=
  seqs [lit "@KafkaListener".toList, many space, chr '(', many space, lit "topics".toList,
    many space, chr '=', many space, chr '\x7b', .group 1 (plus (notChar '\x7d')), chr '\x7d']

/-- `extract_topics_from_file`, on a file that reads without error: the quoted strings of
every array the pattern captures. -/
def extractTopicsFromFile (f : JavaFile) : List Str :=
  (findAllGroup kafkaListenerRe f.content).flatMap (findAllGroup quotedRe)

/-- The loop of `extract_service_name` over the parts of the path. -/
def serviceAfter : List Str → Str
  | part :: next :: rest => if part = "services".toList then next else serviceAfter (next :: rest)
  | _ => "unknown".toList

/-- `extract_service_name`: the part after the first `services` that has one after it. -/
def extractServiceName (filePath : Str) : Str := serviceAfter (splitOnSep "/".toList filePath)

/-- `extract_class_name`: `os.path.basename(file_path).replace('.java', '')`. -/
def extractClassName (filePath : Str) : Str :=
  replace ((splitOnSep "/".toList filePath).getLast?.getD []) ".java".toList []

/-- A consumer record: `{'service', 'consumer_class', 'file_path'}`. -/
structure Consumer where
  service : Str
  consumerClass : Str
  filePath : Str
  deriving Repr, DecidableEq

/-- The record `find_all_kafka_listeners` appends for a file. -/
def consumerOf (f : JavaFile) : Consumer :=
  ⟨extractServiceName f.path, extractClassName f.path, f.path⟩

/-- The files `grep -r -l '@KafkaListener' … --include=*.java` lists, in the order of its
walk. -/
def grepListenerFiles (files : Corpus) : List JavaFile :=
  files.filter fun f => endsWith f.path ".java".toList && isIn "@KafkaListener".toList f.content

/-- `topic_mapping` and `all_topics`. -/
abbrev Tables := PyDict Str (List Consumer) × PySet Str

/-- One topic of a file: `topic_mapping[topic].append(...)` and `all_topics.add(topic)`. -/
def recordTopic (f : JavaFile) (acc : Tables) (topic : Str) : Tables :=
  (acc.1.appendTo topic (consumerOf f), acc.2.add topic)

/-- One file of the loop of `find_all_kafka_listeners`. -/
def recordFile (acc : Tables) (f : JavaFile) : Tables :=
  let topics := extractTopicsFromFile f
  if topics.isEmpty then acc else topics.foldl (recordTopic f) acc

/-- The loop of `find_all_kafka_listeners` over the listener files, from empty tables. -/
def tablesOf (hits : List JavaFile) : Tables := hits.foldl recordFile (.empty, .empty)

/-- What `find_all_kafka_listeners` returns. -/
inductive ListenerScan
  /-- `return {}`, when `grep` exits with a non-zero status. -/
  | emptyDict
  /-- `return topic_mapping, all_topics`. -/
  | pair (tables : Tables)

/-- What `grep -r` cannot open under the directory it searches: the directories it cannot
list and the files it cannot read. `files` of the scan are the files it reads. -/
structure Unreadable where
  dirs : List Str := []
  files : List Str := []

/-- `grep -r` meets an error when it cannot list a directory, or cannot read a file that
`--include=*.java` keeps; it does not open the other files. -/
def grepError (u : Unreadable) : Bool :=
  !u.dirs.isEmpty || u.files.any fun p => endsWith p ".java".toList

/-- The exit status of `grep -r -l`: 2 after an error, whatever it listed; otherwise 0
when it listed a file and 1 when it listed none. -/
def grepStatus (files : Corpus) (u : Unreadable) : Nat :=
  if grepError u then 2 else if (grepListenerFiles files).isEmpty then 1 else 0

/-- `find_all_kafka_listeners`: `{}` on any non-zero status of `grep`. -/
def findAllKafkaListeners (files : Corpus) (u : Unreadable) : ListenerScan :=
  if grepStatus files u ≠ 0 then .emptyDict else .pair (tablesOf (grepListenerFiles files))

/-- What `main` prints and writes. -/
structure TopicsReport where
  uniqueTopics : Nat
  topicMappings : Nat
  consumerFiles : Nat
  allTopics : List Str
  deriving Repr, DecidableEq

/-- The error of `topic_mapping, all_topics = {}`. -/
def unpackError : Str := "ValueError: not enough values to unpack (expected 2, got 0)".toList

/-- `main`: the counts it prints and the sorted topics it writes. -/
def main (files : Corpus) (u : Unreadable) : Except Str TopicsReport :=
  match findAllKafkaListeners files u with
  | .emptyDict => .error unpackError
  | .pair (topicMapping, allTopics) =>
    .ok { uniqueTopics := allTopics.elems.length
          topicMappings := topicMapping.keys.length
          consumerFiles :=
            (topicMapping.items.flatMap fun kv => kv.2.map (·.filePath)).dedup.length
          allTopics := allTopics.elems.insertionSort (· ≤ ·) }

/-! ## The tables after the loop -/

/-- The topics of the listener files, in order, with repetitions. -/
def topicsOf (hits : List JavaFile) : List Str := hits.flatMap extractTopicsFromFile

theorem recordFile_eq (acc : Tables) (f : JavaFile) :
    recordFile acc f = (extractTopicsFromFile f).foldl (recordTopic f) acc := by
  unfold recordFile
  dsimp only
  split
  · rename_i h
    rw [List.isEmpty_iff.mp h]
    rfl
  · rfl

/-- The loop over files is one loop over the topics, each with its file. -/
theorem foldl_recordFile (hits : List JavaFile) (acc : Tables) :
    hits.foldl recordFile acc =
      (hits.flatMap fun f => (extractTopicsFromFile f).map (f, ·)).foldl
        (fun acc p => recordTopic p.1 acc p.2) acc := by
  induction hits generalizing acc with
  | nil => rfl
  | cons f hits ih =>
    rw [List.foldl_cons, ih, recordFile_eq, List.flatMap_cons, List.foldl_append,
      List.foldl_map]

section Pairs

variable (ps : List (JavaFile × Str))

theorem get?_foldl_recordTopic (acc : Tables) (t : Str) :
    ((ps.foldl (fun acc p => recordTopic p.1 acc p.2) acc).1.get? t).getD [] =
      (acc.1.get? t).getD [] ++ (ps.filter (·.2 = t)).map (consumerOf ·.1) := by
  induction ps generalizing acc with
  | nil => simp
  | cons p ps ih =>
    rw [List.foldl_cons, ih, recordTopic, PyDict.getD_appendTo, List.filter_cons]
    by_cases h : p.2 = t <;> simp [h]

theorem mem_keys_foldl_recordTopic (acc : Tables) (t : Str) :
    t ∈ (ps.foldl (fun acc p => recordTopic p.1 acc p.2) acc).1.keys ↔
      t ∈ acc.1.keys ∨ ∃ p ∈ ps, p.2 = t :=
  foldl_iff _ (fun acc : Tables => t ∈ acc.1.keys) (fun p => p.2 = t)
    (fun acc p => by simp only [recordTopic, PyDict.mem_keys_appendTo]; tauto) ps acc

theorem mem_foldl_recordTopic (acc : Tables) (t : Str) :
    t ∈ (ps.foldl (fun acc p => recordTopic p.1 acc p.2) acc).2.elems ↔
      t ∈ acc.2.elems ∨ ∃ p ∈ ps, p.2 = t :=
  foldl_iff _ (fun acc : Tables => t ∈ acc.2.elems) (fun p => p.2 = t)
    (fun acc p => by
      simp only [recordTopic, ← PySet.mem_def, PySet.mem_add]
      exact Iff.of_eq (congrArg _ (propext eq_comm))) ps acc

end Pairs

/-- A topic has a pair of the loop exactly when some listener file names it. -/
theorem exists_topic_pair_iff (hits : List JavaFile) (t : Str) :
    (∃ p ∈ hits.flatMap fun f => (extractTopicsFromFile f).map (f, ·), p.2 = t) ↔
      t ∈ topicsOf hits := by
  simp only [topicsOf, List.mem_flatMap, List.mem_map]
  constructor
  · rintro ⟨_, ⟨f, hf, a, ha, rfl⟩, rfl⟩
    exact ⟨f, hf, ha⟩
  · rintro ⟨f, hf, ht⟩
    exact ⟨(f, t), ⟨f, hf, t, ht, rfl⟩, rfl⟩

theorem mem_keys_tablesOf (hits : List JavaFile) (t : Str) :
    t ∈ (tablesOf hits).1.keys ↔ t ∈ topicsOf hits := by
  rw [tablesOf, foldl_recordFile, mem_keys_foldl_recordTopic, exists_topic_pair_iff,
    PyDict.keys_empty]
  exact or_iff_right (List.not_mem_nil t)

theorem mem_tablesOf (hits : List JavaFile) (t : Str) :
    t ∈ (tablesOf hits).2.elems ↔ t ∈ topicsOf hits := by
  rw [tablesOf, foldl_recordFile, mem_foldl_recordTopic, exists_topic_pair_iff]
  exact or_iff_right (List.not_mem_nil t)

/-- **The mapping.** Under each topic, `topic_mapping` holds the record of a file once for
each time the topic occurs in the file's listener arrays, in the order of the files. -/
theorem get?_topicMapping (hits : List JavaFile) (t : Str) :
    ((tablesOf hits).1.get? t).getD [] =
      hits.flatMap fun f =>
        ((extractTopicsFromFile f).filter (· = t)).map fun _ => consumerOf f := by
  rw [tablesOf, foldl_recordFile, get?_foldl_recordTopic]
  simp only [PyDict.get?_empty, Option.getD_none, List.nil_append, List.filter_flatMap,
    List.map_flatMap, List.filter_map, Function.comp_def]
  refine List.flatMap_congr fun f _ => ?_
  simp [List.filter_map, Function.comp_def]

theorem perm_elems_tablesOf (hits : List JavaFile) :
    (tablesOf hits).2.elems ~ (topicsOf hits).dedup :=
  (List.perm_ext_iff_of_nodup (tablesOf hits).2.nodup (List.nodup_dedup _)).mpr fun t => by
    rw [mem_tablesOf, List.mem_dedup]

theorem perm_keys_tablesOf (hits : List JavaFile) :
    (tablesOf hits).1.keys ~ (topicsOf hits).dedup :=
  (List.perm_ext_iff_of_nodup (tablesOf hits).1.nodup (List.nodup_dedup _)).mpr fun t =>
    (mem_keys_tablesOf hits t).trans List.mem_dedup.symm

/-- A value of a dict of lists holds `x` when some key looks up a list holding `x`. -/
theorem exists_mem_items_iff {α : Type} (d : PyDict Str (List α)) (x : α) :
    (∃ kv ∈ d.items, x ∈ kv.2) ↔ ∃ k, x ∈ (d.get? k).getD [] := by
  constructor
  · rintro ⟨⟨k, v⟩, hkv, hx⟩
    exact ⟨k, by rwa [(PyDict.mem_items_iff d).mp hkv]⟩
  · rintro ⟨k, hx⟩
    cases hk : d.get? k with
    | none => simp [hk] at hx
    | some v => exact ⟨(k, v), (PyDict.mem_items_iff d).mpr hk, by simpa [hk] using hx⟩

/-- The paths of the consumer records are the paths of the files with a topic. -/
theorem mem_filePaths_tablesOf (hits : List JavaFile) (p : Str) :
    p ∈ (tablesOf hits).1.items.flatMap (fun kv => kv.2.map (·.filePath)) ↔
      ∃ f ∈ hits, extractTopicsFromFile f ≠ [] ∧ f.path = p := by
  simp only [List.mem_flatMap, List.mem_map]
  constructor
  · rintro ⟨kv, hkv, c, hc, rfl⟩
    obtain ⟨t, ht⟩ := (exists_mem_items_iff _ c).mp ⟨kv, hkv, hc⟩
    simp only [get?_topicMapping, List.mem_flatMap, List.mem_map, List.mem_filter] at ht
    obtain ⟨f, hf, ⟨x, ⟨hx, -⟩, rfl⟩⟩ := ht
    exact ⟨f, hf, List.ne_nil_of_mem hx, rfl⟩
  · rintro ⟨f, hf, hne, rfl⟩
    obtain ⟨t, ht⟩ := List.exists_mem_of_ne_nil _ hne
    obtain ⟨kv, hkv, hc⟩ := (exists_mem_items_iff (tablesOf hits).1 (consumerOf f)).mpr ⟨t, by
      simp only [get?_topicMapping, List.mem_flatMap, List.mem_map, List.mem_filter]
      exact ⟨f, hf, t, ⟨ht, by simp⟩, rfl⟩⟩
    exact ⟨kv, hkv, consumerOf f, hc, rfl⟩

/-- The status of `grep` is 0 exactly when it meets no error and lists a file. -/
theorem grepStatus_ne_zero (files : Corpus) (u : Unreadable) :
    grepStatus files u ≠ 0 ↔ (grepError u || (grepListenerFiles files).isEmpty) = true := by
  unfold grepStatus
  cases grepError u <;> cases (grepListenerFiles files).isEmpty <;> decide

end ExtractTopics
