import WaqitiAudit.Kafka.Auditor

/-!
# The comprehensive Kafka audit: dead-letter coverage

`find_all_topics` and `analyze_dlq_coverage` of `KafkaArchitectureAuditor`
(`src/services/kafka_comprehensive_audit.py`):

* `find_all_topics` collects the `public static final String` constants of
  `KafkaTopics.java` and, from every non-test file, the literal topics of
  `kafkaTemplate.send("…")` calls and of `@KafkaListener(… topics = …)` annotations;
* `analyze_dlq_coverage` takes the discovered topics whose lower-cased name contains
  `.dlq` or `dead-letter`, and strips `.dlq`, `-dlq`, `.dlt` and `-dlt` from each,
  wherever they occur and case-sensitively, to get `topics_with_dlq`; it lists the
  consumed topics that have a critical keyword and are not in that set, and the keys of
  `dlq_consumers` whose list of listeners is empty.

The set `self.topics` is kept outside `KafkaArchitectureAuditor`: `findAllTopics`
returns it and `analyzeDlqCoverage` takes it, as `main` runs the two one after the
other (`dlqAudit`).

What is proved:

* **topics** — `mem_findAllTopics`: the discovered topics are the constants and the
  topics of the non-test files;
* **topics needing a DLQ** — `mem_topicsNeedingDlq`: for any discovered topics and any
  consumer table, a consumed topic is listed exactly when it has a critical keyword and
  no discovered dead-letter topic has it as its base name; `dlq_suffix_not_recognised`:
  `payment-dlq` is no dead-letter name and `wallet.DLQ` keeps its suffix, so both
  `payment` and `wallet` are listed;
* **dead-letter topics without listeners** — `dlqListsNonempty_findAllConsumers`: every
  list of `dlq_consumers` holds a listener, from every table that had the property, so
  `dlqWithoutConsumers_dlqAudit`: `dlq_without_consumers` is empty for every corpus;
  `unheard_dlq_topic_unreported`: a discovered dead-letter topic without a listener is
  not reported.
-/

namespace KafkaArchitectureAuditor

open PyStr PyRe ReferenceValidator KafkaAudit

/-! ## Topics -/

/-- `base_path / "common/src/main/java/com/waqiti/common/kafka/KafkaTopics.java"`, relative
to the base. -/
def kafkaTopicsPath : Str := "common/src/main/java/com/waqiti/common/kafka/KafkaTopics.java".toList

/-- `public static final String\s+\w+\s*=\s*"([^"]+)"` -/
def topicConstantRe : Regex :=
  seqs [lit "public static final String".toList, plus space, plus word, many space, chr '=',
    many space, quotedRe]

/-- `kafkaTemplate\.send\s*\(\s*"([^"]+)"` -/
def sendPatternRe : Regex :=
  seqs [lit "kafkaTemplate.send".toList, many space, chr '(', many space, quotedRe]

/-- `@KafkaListener.*?topics\s*=\s*[{"]([^}"]+)[}"]` under `re.DOTALL`, where `.` matches
every character. -/
def listenerPatternRe : Regex :=
  seqs [lit "@KafkaListener".toList, lazyMany (.atom (.noneOf [])), lit "topics".toList,
    many space, chr '=', many space, .atom (.oneOf [.char '\x7b', .char '"']),
    .group 1 (plus (.atom (.noneOf [.char '\x7d', .char '"']))),
    .atom (.oneOf [.char '\x7d', .char '"'])]

/-- The topic of a listener match: `match.group(1).strip().replace('"', '')`, unless it
starts with `${`. -/
def listenerTopic (m : Match) : Option Str :=
  let topic := replace (strip (m.grp 1)) ['"'] []
  if "$\x7b".toList.isPrefixOf topic then none else some topic

/-- The constants of `KafkaTopics.java`, when the tree has that file. -/
def topicConstants (files : Corpus) : List Str :=
  match files.find? fun f => f.path = kafkaTopicsPath with
  | some f => findAllGroup topicConstantRe f.content
  | none => []

/-- The topics the walk of `find_all_topics` takes from one file. -/
def fileTopics (v : KafkaArchitectureAuditor) (f : JavaFile) : List Str :=
  if v.isTestFile f then []
  else
    findAllGroup sendPatternRe f.content ++
      (findAll listenerPatternRe f.content).filterMap listenerTopic

/-- `find_all_topics` on a fresh `self.topics`. -/
def findAllTopics (v : KafkaArchitectureAuditor) (files : Corpus) : PySet Str :=
  (topicConstants files ++ files.flatMap v.fileTopics).foldl PySet.add .empty

/-- **Topics.** The discovered topics are the constants of `KafkaTopics.java` and the
topics of the non-test files. -/
theorem mem_findAllTopics (v : KafkaArchitectureAuditor) (files : Corpus) (t : Str) :
    t ∈ v.findAllTopics files ↔ t ∈ topicConstants files ∨ ∃ f ∈ files, t ∈ v.fileTopics f := by
  rw [findAllTopics, foldl_iff _ (t ∈ ·) (t = ·) fun s x => PySet.mem_add s x t]
  simp [or_assoc]

/-! ## The analysis -/

/-- One entry of `topics_needing_dlq`. -/
structure DlqNeed where
  topic : Str
  consumers : Nat
  reason : Str
  deriving Repr, DecidableEq

/-- The dictionary `analyze_dlq_coverage` returns. -/
structure DlqAnalysis where
  topicsWithDlq : List Str
  topicsNeedingDlq : List DlqNeed
  dlqWithoutConsumers : List Str
  deriving Repr, DecidableEq

/-- `topic.replace('.dlq', '').replace('-dlq', '').replace('.dlt', '').replace('-dlt', '')`. -/
def dlqBase (topic : Str) : Str :=
  replace (replace (replace (replace topic ".dlq".toList []) "-dlq".toList []) ".dlt".toList [])
    "-dlt".toList []

/-- `critical_keywords`. -/
def criticalKeywords : List Str :=
  ["payment".toList, "wallet".toList, "transaction".toList, "fraud".toList,
    "compliance".toList, "transfer".toList]

/-- `any(keyword in topic.lower() for keyword in critical_keywords)`. -/
def isCriticalTopic (topic : Str) : Bool := criticalKeywords.any fun k => isIn k (lower topic)

/-- The loop that fills `topics_with_dlq`. -/
def topicsWithDlq (topics : PySet Str) : PySet Str :=
  topics.elems.foldl (fun s t => if isDlqTopic t then s.add (dlqBase t) else s) .empty

/-- The entry for a consumed topic that is critical and has no DLQ. -/
def dlqNeed (withDlq : PySet Str) (item : Str × List ConsumerInfo) : Option DlqNeed :=
  if isCriticalTopic item.1 ∧ item.1 ∉ withDlq then
    some ⟨item.1, item.2.length, "Critical topic missing DLQ".toList⟩
  else none

/-- `analyze_dlq_coverage`, with `self.topics` passed as `topics`. -/
def analyzeDlqCoverage (v : KafkaArchitectureAuditor) (topics : PySet Str) : DlqAnalysis :=
  let withDlq := topicsWithDlq topics
  { topicsWithDlq := withDlq.elems
    topicsNeedingDlq := v.consumers.items.filterMap (dlqNeed withDlq)
    dlqWithoutConsumers := v.dlqConsumers.items.filterMap fun p =>
      if p.2.length = 0 then some p.1 else none }

/-- `main` up to `analyze_dlq_coverage`: the topic, producer and consumer scans on a
fresh auditor, then the analysis. -/
def dlqAudit (basePath : Str) (files : Corpus) : DlqAnalysis :=
  (((init basePath).findAllProducers files).findAllConsumers files).analyzeDlqCoverage
    ((init basePath).findAllTopics files)

theorem mem_topicsWithDlq (topics : PySet Str) (b : Str) :
    b ∈ topicsWithDlq topics ↔ ∃ t ∈ topics, isDlqTopic t = true ∧ dlqBase t = b := by
  rw [topicsWithDlq, foldl_iff _ (b ∈ ·) (fun t => isDlqTopic t = true ∧ dlqBase t = b)
    fun s t => by split <;> simp [*, eq_comm], PySet.mem_def]
  exact or_iff_right (List.not_mem_nil b)

/-- **Topics needing a DLQ.** For any discovered topics and any consumer table, a topic
is listed exactly when it is consumed, has a critical keyword, and is the base name of
no discovered dead-letter topic. -/
theorem mem_topicsNeedingDlq (v : KafkaArchitectureAuditor) (topics : PySet Str) (T : Str) :
    T ∈ (v.analyzeDlqCoverage topics).topicsNeedingDlq.map (·.topic) ↔
      T ∈ v.consumers.keys ∧ isCriticalTopic T = true ∧
        ¬ ∃ t ∈ topics, isDlqTopic t = true ∧ dlqBase t = T := by
  rw [← mem_topicsWithDlq]
  simp only [analyzeDlqCoverage, List.mem_map, List.mem_filterMap, dlqNeed, PyDict.keys]
  constructor
  · rintro ⟨n, ⟨⟨t, cs⟩, hmem, h⟩, rfl⟩
    split at h
    · cases h; exact ⟨⟨_, hmem, rfl⟩, ‹_ ∧ _›⟩
    · cases h
  · rintro ⟨⟨⟨t, cs⟩, hmem, rfl⟩, hc⟩
    exact ⟨_, ⟨_, hmem, by rw [if_pos hc]⟩, rfl⟩

/-- A file that sends to `payment-dlq` and `wallet.DLQ` and listens to `payment` and
`wallet`. -/
def paymentDlqService : JavaFile :=
  ⟨"payment-service/src/main/java/com/waqiti/PaymentService.java".toList,
    "class PaymentService \x7b\n  void f() \x7b\n    kafkaTemplate.send(\"payment-dlq\", e);\n    kafkaTemplate.send(\"wallet.DLQ\", e);\n  \x7d\n  @KafkaListener(topics = \"payment\")\n  public void onPayment(String m) \x7b\x7d\n  @KafkaListener(topics = \"wallet\")\n  public void onWallet(String m) \x7b\x7d\n\x7d\n".toList⟩

set_option maxRecDepth 8000 in
/-- `payment-dlq` is not taken for a dead-letter topic (its name has no `.dlq`), and
`wallet.DLQ` is, but the case-sensitive `replace` leaves its base name `wallet.DLQ`: both
`payment` and `wallet` are listed as missing a DLQ. -/
theorem dlq_suffix_not_recognised :
    ((init "/srv/waqiti-app/services".toList).findAllTopics [paymentDlqService]).elems =
        ["payment-dlq".toList, "wallet.DLQ".toList, "payment".toList, "wallet".toList] ∧
      (dlqAudit "/srv/waqiti-app/services".toList [paymentDlqService]).topicsWithDlq =
        ["wallet.DLQ".toList] ∧
      (dlqAudit "/srv/waqiti-app/services".toList [paymentDlqService]).topicsNeedingDlq.map
        (·.topic) = ["payment".toList, "wallet".toList] := by
  decide

/-! ## Dead-letter topics without listeners -/

/-- Every list of `dlq_consumers` holds a listener. -/
def DlqListsNonempty (v : KafkaArchitectureAuditor) : Prop := ∀ p ∈ v.dlqConsumers.items, p.2 ≠ []

theorem dlqConsumers_recordConsumer (info : ConsumerInfo) (v : KafkaArchitectureAuditor)
    (t : Str) : (recordConsumer info v t).dlqConsumers =
      if isDlqTopic t then v.dlqConsumers.appendTo t info else v.dlqConsumers := by
  unfold recordConsumer
  cases isDlqTopic t <;> cases info.transactional <;> cases info.idempotent <;> rfl

@[simp] theorem dlqConsumers_recordProducer (f : JavaFile) (service : Str) (lines : List Str)
    (v : KafkaArchitectureAuditor) (p : Nat × Str) :
    (recordProducer f service lines v p).dlqConsumers = v.dlqConsumers := by
  unfold recordProducer; split <;> rfl

theorem dlqListsNonempty_recordConsumer (info : ConsumerInfo) (v : KafkaArchitectureAuditor)
    (t : Str) (h : v.DlqListsNonempty) : (recordConsumer info v t).DlqListsNonempty := by
  unfold DlqListsNonempty
  rw [dlqConsumers_recordConsumer]
  split
  · exact PyDict.ne_nil_of_mem_items_appendTo h
  · exact h

/-- **The consumer scan keeps the invariant.** By the loops of `find_all_consumers`:
files, then annotations, then topics. -/
theorem dlqListsNonempty_findAllConsumers (v : KafkaArchitectureAuditor) (files : Corpus)
    (h : v.DlqListsNonempty) : (v.findAllConsumers files).DlqListsNonempty := by
  refine foldl_inv _ _ (fun w f hw => ?_) files v h
  unfold scanConsumers
  split
  · exact hw
  · exact foldl_inv _ _ (fun u m hu => foldl_inv _ _
      (fun u' t hu' => dlqListsNonempty_recordConsumer _ u' t hu') _ u hu) _ w hw

theorem dlqConsumers_findAllProducers (v : KafkaArchitectureAuditor) (files : Corpus) :
    (v.findAllProducers files).dlqConsumers = v.dlqConsumers :=
  foldl_const _ (·.dlqConsumers) _ _ fun a f _ h =>
    (scanProducers_const _ dlqConsumers_recordProducer a f).trans h

theorem dlqWithoutConsumers_eq_nil (v : KafkaArchitectureAuditor) (topics : PySet Str)
    (h : v.DlqListsNonempty) : (v.analyzeDlqCoverage topics).dlqWithoutConsumers = [] :=
  List.filterMap_eq_nil_iff.mpr fun p hp => by simp [h p hp]

/-- **No dead-letter topic is ever reported without listeners.** For every corpus, the
keys of `dlq_consumers` are created by an append, so `dlq_without_consumers` is empty. -/
theorem dlqWithoutConsumers_dlqAudit (basePath : Str) (files : Corpus) :
    (dlqAudit basePath files).dlqWithoutConsumers = [] := by
  refine dlqWithoutConsumers_eq_nil _ _ (dlqListsNonempty_findAllConsumers _ files ?_)
  intro p hp
  rw [dlqConsumers_findAllProducers] at hp
  cases hp

set_option maxRecDepth 8000 in
/-- `payment.dlq` is sent to and never listened to, but `dlq_without_consumers` is
empty. -/
theorem unheard_dlq_topic_unreported :
    "payment.dlq".toList ∈ (init "/srv/waqiti-app/services".toList).findAllTopics [ratesPublisher] ∧
      isDlqTopic "payment.dlq".toList = true ∧
      (((init "/srv/waqiti-app/services".toList).findAllProducers [ratesPublisher]).findAllConsumers
        [ratesPublisher]).dlqConsumers.keys = [] ∧
      (dlqAudit "/srv/waqiti-app/services".toList [ratesPublisher]).dlqWithoutConsumers = [] := by
  decide

end KafkaArchitectureAuditor
