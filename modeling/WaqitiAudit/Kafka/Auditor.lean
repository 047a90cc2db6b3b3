import WaqitiAudit.Kafka.Extractor

/-!
# The comprehensive Kafka audit: producers, consumers and orphans

`KafkaArchitectureAuditor` of `src/services/kafka_comprehensive_audit.py`, as far as
`analyze_orphaned_events` depends on it:

* `find_all_producers` reads every non-test file line by line and records, under its
  topic, each `kafkaTemplate.send(` line whose topic `_extract_topic_from_send` finds
  (a string literal, or a constant defined nearby);
* `find_all_consumers` reads every `@KafkaListener(...)` annotation of every non-test
  file, takes its topics from `_extract_topics_from_listener`, and records each topic
  under `dlq_consumers` when its name looks like a dead-letter topic and under
  `consumers` otherwise;
* `analyze_orphaned_events` lists the produced topics that are not keys of
  `consumers`, ordered by business impact.

A file is a test file when `test` occurs anywhere in its lower-cased full path.

What is proved:

* **the two scans** — `mem_producers_findAllProducers` and
  `mem_consumers_findAllConsumers`: the topics each dictionary holds, in terms of the
  files, and `producers_findAllConsumers`: the consumer scan leaves the producers alone;
* **orphans** — `mem_analyzeOrphanedEvents`: the reported topics are the produced
  topics that are not keys of `consumers`, and `orphan_iff_no_listener`: after the
  scans, a topic is reported exactly when a non-test file produces it and every
  listener of a non-test file that names it names it as a dead-letter topic;
* **what this misses** — `orphan_with_dlq_listener`: a dead-letter topic with a
  listener, and a topic whose listener sits in `LatestRatesListener.java`, are
  reported as orphans.
-/

namespace KafkaArchitectureAuditor

open PyStr PyRe

/-- One entry of `producers[topic]`. -/
structure ProducerInfo where
  service : Str
  file : Str
  line : Nat
  method : Str
  deriving Repr, DecidableEq

/-- One entry of `consumers[topic]` or `dlq_consumers[topic]`. -/
structure ConsumerInfo where
  service : Str
  file : Str
  line : Nat
  method : Str
  transactional : Bool
  idempotent : Bool
  deriving Repr, DecidableEq

/-- One entry of the list `analyze_orphaned_events` returns. -/
structure OrphanedTopic where
  topic : Str
  producers : List ProducerInfo
  producerCount : Nat
  businessImpact : Str
  dataLossRisk : Str
  possiblyConsumedViaPattern : Bool
  deriving Repr, DecidableEq

end KafkaArchitectureAuditor

open PyStr KafkaArchitectureAuditor in
/-- The state of a `KafkaArchitectureAuditor`, without `topics`, which only
`find_all_topics` writes and only `analyze_dlq_coverage` reads. -/
structure KafkaArchitectureAuditor where
  basePath : Str
  producers : PyDict Str (List ProducerInfo) := .empty
  consumers : PyDict Str (List ConsumerInfo) := .empty
  dlqConsumers : PyDict Str (List ConsumerInfo) := .empty
  transactionalConsumers : PySet Str := .empty
  idempotentConsumers : PySet Str := .empty

namespace KafkaArchitectureAuditor

open PyStr PyRe ReferenceValidator KafkaAudit

/-- An auditor right after `__init__(base_path)`. -/
def init (basePath : Str) : KafkaArchitectureAuditor := { basePath }

/-! ## Paths and line windows -/

/-- `str(java_file)` for the file at `path` relative to the base. -/
def fullPath (v : KafkaArchitectureAuditor) (f : JavaFile) : Str := v.basePath ++ '/' :: f.path

/-- `'test' in str(java_file).lower()`. -/
def isTestFile (v : KafkaArchitectureAuditor) (f : JavaFile) : Bool :=
  isIn "test".toList (lower (v.fullPath f))

/-- `_extract_service_name`: the path segment after the first `services/`. -/
def extractServiceName (path : Str) : Str :=
  match splitOnSep "services/".toList path with
  | _ :: part :: _ => (part.splitOn '/').headD []
  | _ => "unknown".toList

/-- `send\s*\(\s*"([^"]+)"` -/
def sendQuotedRe : Regex := seqs [lit "send".toList, many space, chr '(', many space, quotedRe]

/-- `send\s*\(\s*([A-Z_]+)` -/
def sendConstRe : Regex :=
  seqs [lit "send".toList, many space, chr '(', many space,
    .group 1 (plus (.atom (.oneOf [.range 'A' 'Z', .char '_'])))]

/-- `<const_name>\s*=\s*"([^"]+)"` -/
def constDefRe (constName : Str) : Regex :=
  seqs [lit constName, many space, chr '=', many space, quotedRe]

/-- `(public|private|protected)\s+\w+\s+(\w+)\s*\(` -/
def methodContextRe : Regex :=
  seqs [.group 1 (alts [lit "public".toList, lit "private".toList, lit "protected".toList]),
    plus space, plus word, plus space, .group 2 (plus word), many space, chr '(']

/-- `_extract_topic_from_send`: a string literal argument, or the value of a constant
argument defined within 100 lines before and 10 lines after. -/
def extractTopicFromSend (line : Str) (allLines : List Str) (lineNum : Nat) : Option Str :=
  match search sendQuotedRe line with
  | some m => some (m.grp 1)
  | none =>
    match search sendConstRe line with
    | some m =>
      (List.range' (lineNum - 100) (min allLines.length (lineNum + 10) - (lineNum - 100))).findSome?
        fun i => (search (constDefRe (m.grp 1)) (allLines.getD i [])).map (·.grp 1)
    | none => none

/-- `_extract_method_context`: the first method header among the ten lines ending at
line `lineNum`. -/
def extractMethodContext (lines : List Str) (lineNum : Nat) : Str :=
  ((List.range' (lineNum - 10) (lineNum - (lineNum - 10))).findSome? fun i =>
    if i < lines.length then (search methodContextRe (lines.getD i [])).map (·.grp 2)
    else none).getD "unknown".toList

/-- `_is_transactional`. -/
def isTransactional (lines : List Str) (lineNum : Nat) : Bool :=
  (List.range' (lineNum - 5) (lineNum - (lineNum - 5))).any fun i =>
    decide (i < lines.length) && isIn "@Transactional".toList (lines.getD i [])

/-- The keywords of `_has_idempotency_check`. -/
def idempotencyKeywords : List Str :=
  ["idempotency".toList, "duplicate".toList, "already processed".toList, "eventid".toList]

/-- `_has_idempotency_check` (which does not use the method name). -/
def hasIdempotencyCheck (lines : List Str) (lineNum : Nat) (_methodName : Str) : Bool :=
  (List.range' lineNum (min lines.length (lineNum + 20) - lineNum)).any fun i =>
    decide (i < lines.length) && idempotencyKeywords.any fun k => isIn k (lower (lines.getD i []))

/-! ## Producers -/

/-- The topic `find_all_producers` records for line `i`, if any. -/
def sendTopic (lines : List Str) (i : Nat) (line : Str) : Option Str :=
  if isIn "kafkaTemplate.send(".toList line || isIn "kafkaTemplate.send (".toList line then
    match extractTopicFromSend line lines i with
    | some topic => if truthy (some topic) then some topic else none
    | none => none
  else none

/-- One iteration of the line loop of `find_all_producers`. -/
def recordProducer (f : JavaFile) (service : Str) (lines : List Str)
    (v : KafkaArchitectureAuditor) (p : Nat × Str) : KafkaArchitectureAuditor :=
  match sendTopic lines p.1 p.2 with
  | some topic =>
    { v with producers :=
        v.producers.appendTo topic ⟨service, f.path, p.1, extractMethodContext lines p.1⟩ }
  | none => v

/-- The file loop of `find_all_producers`. -/
def scanProducers (v : KafkaArchitectureAuditor) (f : JavaFile) : KafkaArchitectureAuditor :=
  if v.isTestFile f then v
  else
    let lines := readLines f.content
    (lines.enumFrom 1).foldl (recordProducer f (extractServiceName (v.fullPath f)) lines) v

/-- `find_all_producers`. -/
def findAllProducers (v : KafkaArchitectureAuditor) (files : Corpus) : KafkaArchitectureAuditor :=
  files.foldl scanProducers v

/-! ## Consumers -/

/-- `@KafkaListener\s*\([^)]+\)` -/
def listenerAnnotationRe : Regex :=
  seqs [lit "@KafkaListener".toList, many space, chr '(', plus (notChar ')'), chr ')']

/-- `topics\s*=\s*"([^"]+)"` -/
def topicsQuotedRe : Regex :=
  seqs [lit "topics".toList, many space, chr '=', many space, quotedRe]

/-- `topics\s*=\s*\{([^}]+)\}` -/
def topicsArrayRe : Regex :=
  seqs [lit "topics".toList, many space, chr '=', many space, chr '\x7b',
    .group 1 (plus (notChar '\x7d')), chr '\x7d']

/-- `topics\s*=\s*"\$\{([^}]+)\}"` -/
def topicsPropertyRe : Regex :=
  seqs [lit "topics".toList, many space, chr '=', many space, lit "\"$\x7b".toList,
    .group 1 (plus (notChar '\x7d')), lit "\x7d\"".toList]

/-- `_extract_topics_from_listener`: a quoted topic, the quoted topics of an array, and
the default of a `${property:default}`, in this order. -/
def extractTopicsFromListener ( annotation : Str) : List Str :=
  ((search topicsQuotedRe annotation).map (·.grp 1)).toList ++
    (match search topicsArrayRe annotation with
      | some m => findAllGroup quotedRe (m.grp 1)
      | none => []) ++
    (match search topicsPropertyRe annotation with
      | some m => if isIn ":".toList (m.grp 1) then [((m.grp 1).splitOn ':').getD 1 []] else []
      | none => [])

/-- `'.dlq' in topic.lower() or 'dead-letter' in topic.lower()`. -/
def isDlqTopic (topic : Str) : Bool :=
  isIn ".dlq".toList (lower topic) || isIn "dead-letter".toList (lower topic)

/-- The body of the topic loop of `find_all_consumers`. -/
def recordConsumer (info : ConsumerInfo) (v : KafkaArchitectureAuditor) (topic : Str) :
    KafkaArchitectureAuditor :=
  let key := info.service ++ ':' :: info.method
  let v := if isDlqTopic topic then { v with dlqConsumers := v.dlqConsumers.appendTo topic info }
    else { v with consumers := v.consumers.appendTo topic info }
  let v := if info.transactional then
      { v with transactionalConsumers := v.transactionalConsumers.add key } else v
  if info.idempotent then { v with idempotentConsumers := v.idempotentConsumers.add key } else v

/-- The body of the annotation loop of `find_all_consumers`. -/
def recordListener (f : JavaFile) (service : Str) (lines : List Str)
    (v : KafkaArchitectureAuditor) (m : Match) : KafkaArchitectureAuditor :=
  let lineNum := lineOf f.content m
  let method := extractMethodContext lines lineNum
  let info : ConsumerInfo := ⟨service, f.path, lineNum, method, isTransactional lines lineNum,
    hasIdempotencyCheck lines lineNum method⟩
  (extractTopicsFromListener m.text).foldl (recordConsumer info) v

/-- The file loop of `find_all_consumers`. -/
def scanConsumers (v : KafkaArchitectureAuditor) (f : JavaFile) : KafkaArchitectureAuditor :=
  if v.isTestFile f then v
  else
    (findAll listenerAnnotationRe f.content).foldl
      (recordListener f (extractServiceName (v.fullPath f)) (splitNewlines f.content)) v

/-- `find_all_consumers`. -/
def findAllConsumers (v : KafkaArchitectureAuditor) (files : Corpus) : KafkaArchitectureAuditor :=
  files.foldl scanConsumers v

/-! ## Orphans -/

/-- The keyword table of `_assess_business_impact`, in its order. -/
def impactKeywords : List (Str × Str) :=
  [("payment".toList, "CRITICAL".toList), ("transaction".toList, "CRITICAL".toList),
   ("wallet".toList, "CRITICAL".toList), ("fraud".toList, "CRITICAL".toList),
   ("compliance".toList, "CRITICAL".toList), ("kyc".toList, "HIGH".toList),
   ("aml".toList, "HIGH".toList), ("transfer".toList, "HIGH".toList),
   ("withdrawal".toList, "HIGH".toList), ("deposit".toList, "HIGH".toList),
   ("refund".toList, "HIGH".toList)]

/-- `_assess_business_impact`. -/
def assessBusinessImpact (topic : Str) : Str :=
  ((impactKeywords.find? fun p => isIn p.1 (lower topic)).map (·.2)).getD "MEDIUM".toList

/-- `_assess_data_loss_risk`. -/
def assessDataLossRisk (topic : Str) (_producers : List ProducerInfo) : Str :=
  if ["payment".toList, "transaction".toList, "wallet".toList, "transfer".toList].any
      (isIn · (lower topic)) then "YES - Financial data may be lost".toList
  else "MEDIUM - Non-financial data may be lost".toList

/-- `_impact_priority`. -/
def impactPriority (impact : Str) : Nat :=
  if impact = "CRITICAL".toList then 3
  else if impact = "HIGH".toList then 2
  else if impact = "MEDIUM".toList then 1
  else 0

/-- The entry for a produced topic that is not a key of `consumers`. -/
def orphanEntry (v : KafkaArchitectureAuditor) (item : Str × List ProducerInfo) :
    Option OrphanedTopic :=
  if item.1 ∉ v.consumers.keys then
    some ⟨item.1, item.2, item.2.length, assessBusinessImpact item.1,
      assessDataLossRisk item.1 item.2,
      v.consumers.keys.any fun c => isIn "$\x7b".toList c || isIn "*".toList c⟩
  else none

/-- `analyze_orphaned_events`: `orphaned.sort(key=priority, reverse=True)` is a stable
sort, higher priorities first. -/
def analyzeOrphanedEvents (v : KafkaArchitectureAuditor) : List OrphanedTopic :=
  (v.producers.items.filterMap v.orphanEntry).insertionSort fun a b =>
    impactPriority b.businessImpact ≤ impactPriority a.businessImpact

/-! ## The scans -/

@[simp] theorem basePath_recordProducer (f : JavaFile) (service : Str) (lines : List Str)
    (v : KafkaArchitectureAuditor) (p : Nat × Str) :
    (recordProducer f service lines v p).basePath = v.basePath := by
  unfold recordProducer; split <;> rfl

@[simp] theorem consumers_recordProducer (f : JavaFile) (service : Str) (lines : List Str)
    (v : KafkaArchitectureAuditor) (p : Nat × Str) :
    (recordProducer f service lines v p).consumers = v.consumers := by
  unfold recordProducer; split <;> rfl

theorem scanProducers_const {β : Type} (g : KafkaArchitectureAuditor → β)
    (hg : ∀ f service lines v p, g (recordProducer f service lines v p) = g v)
    (v : KafkaArchitectureAuditor) (f : JavaFile) : g (v.scanProducers f) = g v := by
  unfold scanProducers; split
  · rfl
  · exact foldl_const _ g _ _ fun a p _ h => (hg ..).trans h

/-- The producer scan leaves the consumers alone. -/
theorem consumers_findAllProducers (v : KafkaArchitectureAuditor) (files : Corpus) :
    (v.findAllProducers files).consumers = v.consumers :=
  foldl_const _ (·.consumers) _ _ fun a f _ h =>
    (scanProducers_const _ consumers_recordProducer a f).trans h

theorem mem_producers_recordProducer (f : JavaFile) (service : Str) (lines : List Str)
    (v : KafkaArchitectureAuditor) (p : Nat × Str) (t : Str) :
    t ∈ (recordProducer f service lines v p).producers.keys ↔
      t ∈ v.producers.keys ∨ sendTopic lines p.1 p.2 = some t := by
  unfold recordProducer
  cases sendTopic lines p.1 p.2 with
  | none => simp
  | some topic => simp [eq_comm, or_comm]

/-- The topics a file produces: those of its `kafkaTemplate.send(` lines. -/
def Produces (f : JavaFile) (t : Str) : Prop :=
  ∃ p ∈ (readLines f.content).enumFrom 1, sendTopic (readLines f.content) p.1 p.2 = some t

theorem mem_producers_scanProducers (v : KafkaArchitectureAuditor) (f : JavaFile) (t : Str) :
    t ∈ (v.scanProducers f).producers.keys ↔
      t ∈ v.producers.keys ∨ (v.isTestFile f = false ∧ Produces f t) := by
  unfold scanProducers Produces
  split
  · rename_i h
    simp only [h, Bool.true_eq_false, false_and, or_false]
  · rename_i h
    rw [foldl_iff _ (t ∈ ·.producers.keys) _ (mem_producers_recordProducer f _ _ · · t)]
    simp only [eq_false_of_ne_true h, true_and]

/-- **Producers.** After `find_all_producers`, a topic is a key of `producers` exactly
when it was one before or a non-test file produces it. -/
theorem mem_producers_findAllProducers (v : KafkaArchitectureAuditor) (files : Corpus)
    (t : Str) :
    t ∈ (v.findAllProducers files).producers.keys ↔
      t ∈ v.producers.keys ∨ ∃ f ∈ files, v.isTestFile f = false ∧ Produces f t := by
  unfold findAllProducers
  induction files generalizing v with
  | nil => simp
  | cons f files ih =>
    rw [List.foldl_cons, ih, mem_producers_scanProducers]
    have hb := scanProducers_const (·.basePath) basePath_recordProducer v f
    simp only [isTestFile, fullPath, hb, List.mem_cons, exists_eq_or_imp]
    exact or_assoc

@[simp] theorem basePath_recordConsumer (info : ConsumerInfo) (v : KafkaArchitectureAuditor)
    (t : Str) : (recordConsumer info v t).basePath = v.basePath := by
  unfold recordConsumer
  cases isDlqTopic t <;> cases info.transactional <;> cases info.idempotent <;> rfl

@[simp] theorem producers_recordConsumer (info : ConsumerInfo) (v : KafkaArchitectureAuditor)
    (t : Str) : (recordConsumer info v t).producers = v.producers := by
  unfold recordConsumer
  cases isDlqTopic t <;> cases info.transactional <;> cases info.idempotent <;> rfl

theorem consumers_recordConsumer (info : ConsumerInfo) (v : KafkaArchitectureAuditor)
    (t : Str) : (recordConsumer info v t).consumers =
      if isDlqTopic t then v.consumers else v.consumers.appendTo t info := by
  unfold recordConsumer
  cases isDlqTopic t <;> cases info.transactional <;> cases info.idempotent <;> rfl

theorem mem_consumers_recordConsumer (info : ConsumerInfo) (v : KafkaArchitectureAuditor)
    (t t' : Str) :
    t' ∈ (recordConsumer info v t).consumers.keys ↔
      t' ∈ v.consumers.keys ∨ (isDlqTopic t = false ∧ t = t') := by
  rw [consumers_recordConsumer]
  cases isDlqTopic t <;> simp [eq_comm, or_comm]

theorem recordListener_const {β : Type} (g : KafkaArchitectureAuditor → β)
    (hg : ∀ info v t, g (recordConsumer info v t) = g v) (f : JavaFile) (service : Str)
    (lines : List Str) (v : KafkaArchitectureAuditor) (m : Match) :
    g (recordListener f service lines v m) = g v :=
  foldl_const _ g _ _ fun a t _ h => (hg _ a t).trans h

theorem scanConsumers_const {β : Type} (g : KafkaArchitectureAuditor → β)
    (hg : ∀ info v t, g (recordConsumer info v t) = g v) (v : KafkaArchitectureAuditor)
    (f : JavaFile) : g (v.scanConsumers f) = g v := by
  unfold scanConsumers; split
  · rfl
  · exact foldl_const _ g _ _ fun a m _ h => (recordListener_const g hg ..).trans h

/-- The consumer scan leaves the producers alone. -/
theorem producers_findAllConsumers (v : KafkaArchitectureAuditor) (files : Corpus) :
    (v.findAllConsumers files).producers = v.producers :=
  foldl_const _ (·.producers) _ _ fun a f _ h =>
    (scanConsumers_const _ producers_recordConsumer a f).trans h

/-- The topics a file's listeners name, as `_extract_topics_from_listener` reads them. -/
def Listens (f : JavaFile) (t : Str) : Prop :=
  ∃ m ∈ findAll listenerAnnotationRe f.content, t ∈ extractTopicsFromListener m.text

theorem mem_consumers_scanConsumers (v : KafkaArchitectureAuditor) (f : JavaFile) (t : Str) :
    t ∈ (v.scanConsumers f).consumers.keys ↔
      t ∈ v.consumers.keys ∨ (v.isTestFile f = false ∧ isDlqTopic t = false ∧ Listens f t) := by
  unfold scanConsumers Listens
  split
  · rename_i h
    simp only [h, Bool.true_eq_false, false_and, or_false]
  · rename_i h
    rw [foldl_iff _ (fun w : KafkaArchitectureAuditor => t ∈ w.consumers.keys)
      (fun m : Match => isDlqTopic t = false ∧ t ∈ extractTopicsFromListener m.text) fun a m => ?_]
    · simp only [h, true_and]
      exact or_congr_right ⟨fun ⟨m, hm, hd, ht⟩ => ⟨hd, m, hm, ht⟩,
        fun ⟨hd, m, hm, ht⟩ => ⟨m, hm, hd, ht⟩⟩
    · dsimp only [recordListener]
      rw [foldl_iff (recordConsumer _) (fun w : KafkaArchitectureAuditor => t ∈ w.consumers.keys)
        _ (mem_consumers_recordConsumer _ · · t)]
      constructor
      · rintro (h | ⟨t', ht', hd, rfl⟩)
        · exact .inl h
        · exact .inr ⟨hd, ht'⟩
      · rintro (h | ⟨hd, ht⟩)
        · exact .inl h
        · exact .inr ⟨t, ht, hd, rfl⟩

/-- **Consumers.** After `find_all_consumers`, a topic is a key of `consumers` exactly
when it was one before, or it is not a dead-letter name and a listener of a non-test
file names it. -/
theorem mem_consumers_findAllConsumers (v : KafkaArchitectureAuditor) (files : Corpus)
    (t : Str) :
    t ∈ (v.findAllConsumers files).consumers.keys ↔ t ∈ v.consumers.keys ∨
      (isDlqTopic t = false ∧ ∃ f ∈ files, v.isTestFile f = false ∧ Listens f t) := by
  unfold findAllConsumers
  induction files generalizing v with
  | nil => simp
  | cons f files ih =>
    rw [List.foldl_cons, ih, mem_consumers_scanConsumers]
    have hb := scanConsumers_const (·.basePath) basePath_recordConsumer v f
    simp only [isTestFile, fullPath, hb, List.mem_cons, exists_eq_or_imp, and_or_left, or_assoc]
    exact or_congr_right (or_congr_left and_left_comm)

@[simp] theorem producers_init (basePath : Str) : (init basePath).producers = .empty := rfl

@[simp] theorem consumers_init (basePath : Str) : (init basePath).consumers = .empty := rfl

@[simp] theorem basePath_init (basePath : Str) : (init basePath).basePath = basePath := rfl

/-! ## The orphan list -/

/-- The reported topics are the keys of `producers` that are not keys of `consumers`. -/
theorem mem_analyzeOrphanedEvents (v : KafkaArchitectureAuditor) (t : Str) :
    t ∈ v.analyzeOrphanedEvents.map (·.topic) ↔ t ∈ v.producers.keys ∧ t ∉ v.consumers.keys := by
  rw [analyzeOrphanedEvents, ((List.perm_insertionSort _ _).map _).mem_iff]
  simp only [List.mem_map, List.mem_filterMap, orphanEntry, PyDict.keys]
  constructor
  · rintro ⟨o, ⟨⟨t', ps⟩, hmem, h⟩, rfl⟩
    split at h
    · cases h; exact ⟨⟨_, hmem, rfl⟩, ‹_›⟩
    · cases h
  · rintro ⟨⟨⟨t', ps⟩, hmem, rfl⟩, hc⟩
    exact ⟨_, ⟨_, hmem, by rw [if_pos hc]⟩, rfl⟩

/-- **Orphans after the scans.** On a fresh auditor, after `find_all_producers` and
`find_all_consumers`, a topic is reported by `analyze_orphaned_events` exactly when a
non-test file produces it and every non-test file whose listeners name it names a
dead-letter topic. -/
theorem orphan_iff_no_listener (basePath : Str) (files : Corpus) (t : Str) :
    t ∈ (((init basePath).findAllProducers files).findAllConsumers files).analyzeOrphanedEvents.map
        (·.topic) ↔
      (∃ f ∈ files, (init basePath).isTestFile f = false ∧ Produces f t) ∧
        (isDlqTopic t = false → ∀ f ∈ files, (init basePath).isTestFile f = false → ¬ Listens f t) := by
  have hb : ((init basePath).findAllProducers files).basePath = basePath :=
    foldl_const _ (·.basePath) _ _ fun a f _ h =>
      (scanProducers_const _ basePath_recordProducer a f).trans h
  rw [mem_analyzeOrphanedEvents, producers_findAllConsumers, mem_producers_findAllProducers,
    mem_consumers_findAllConsumers, consumers_findAllProducers]
  simp only [isTestFile, fullPath, hb, basePath_init, producers_init, consumers_init,
    PyDict.keys_empty, List.not_mem_nil, false_or, not_and, not_exists]

/-- A producer of `payment.dlq` and `rates-updated`. -/
def ratesPublisher : JavaFile :=
  ⟨"payment-service/src/main/java/com/waqiti/PaymentPublisher.java".toList,
    "class PaymentPublisher \x7b\n  void f() \x7b\n    kafkaTemplate.send(\"payment.dlq\", e);\n    kafkaTemplate.send(\"rates-updated\", e);\n  \x7d\n\x7d\n".toList⟩

/-- A listener of the dead-letter topic `payment.dlq`. -/
def dlqListener : JavaFile :=
  ⟨"payment-service/src/main/java/com/waqiti/PaymentDlqListener.java".toList,
    "class PaymentDlqListener \x7b\n  @KafkaListener(topics = \"payment.dlq\")\n  public void onDlq(String m) \x7b\x7d\n\x7d\n".toList⟩

/-- A listener of `rates-updated` in a file whose name contains `test`. -/
def latestRatesListener : JavaFile :=
  ⟨"fx-service/src/main/java/com/waqiti/LatestRatesListener.java".toList,
    "class LatestRatesListener \x7b\n  @KafkaListener(topics = \"rates-updated\")\n  public void onRates(String m) \x7b\x7d\n\x7d\n".toList⟩

/-- The three scans over the three files, under a base path without `test`. -/
def ratesAudit : KafkaArchitectureAuditor :=
  ((init "/srv/waqiti-app/services".toList).findAllProducers
    [ratesPublisher, dlqListener, latestRatesListener]).findAllConsumers
      [ratesPublisher, dlqListener, latestRatesListener]

set_option maxRecDepth 8000 in
/-- Both produced topics have a listener outside any `src/test` directory, and both are
reported: the dead-letter listener went to `dlq_consumers`, and `LatestRatesListener.java`
was skipped as a test file. -/
theorem orphan_with_dlq_listener :
    ratesAudit.analyzeOrphanedEvents.map (·.topic) = ["payment.dlq".toList, "rates-updated".toList] ∧
    ratesAudit.dlqConsumers.keys = ["payment.dlq".toList] ∧
    ratesAudit.consumers.keys = [] := by
  decide

end KafkaArchitectureAuditor
