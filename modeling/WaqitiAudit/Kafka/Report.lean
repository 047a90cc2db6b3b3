import WaqitiAudit.Kafka.Dlq

/-!
# The comprehensive Kafka audit: the report

`analyze_transaction_idempotency`, `_identify_production_blockers` and `generate_report`
of `KafkaArchitectureAuditor` (`src/services/kafka_comprehensive_audit.py`), and `main`,
which runs the three scans on a fresh auditor and builds the report
(`comprehensiveAudit`):

* `analyze_transaction_idempotency` lists, topic by topic, the consumers of a topic with
  a financial keyword that are not `@Transactional`, and those without an idempotency
  check. Its keywords are not those of `analyze_dlq_coverage`: `withdrawal` and `deposit`
  count here, `fraud` and `compliance` do not;
* `_identify_production_blockers` takes the CRITICAL and HIGH orphans among the first
  ten orphans, the first ten topics needing a DLQ (HIGH) and the first five consumers
  without a transaction (CRITICAL), sorts them by severity, highest first, and keeps
  fifteen;
* `generate_report` puts a summary of counts in front of the analyses.

What is proved:

* **the blockers** — `identifyProductionBlockers_eq`: Python's sort is stable and every
  blocker is CRITICAL or HIGH, so the list is the CRITICAL orphans, then the consumers
  without a transaction, then the HIGH orphans, then the topics without a DLQ, each in
  the order of its loop, cut at fifteen;
* **the summary adds up** — `orphanedTopics_add_topicsWithBoth`: in every state, each
  topic with a producer is counted either as orphaned or as having both a producer and a
  consumer;
* **the consumer sets** — `consumerSets_findAllConsumers`: after the scans of any
  corpus, `transactional_consumers` and `idempotent_consumers` hold exactly the
  `service:method` names of the recorded listeners with the flag, dead-letter listeners
  included, so the summary counts distinct names and not listeners.
-/

namespace KafkaArchitectureAuditor

open PyStr PyRe ReferenceValidator KafkaAudit

/-! ## Transaction boundaries and idempotency -/

/-- One entry of `missing_transaction` or `missing_idempotency`. -/
structure ConsumerIssue where
  topic : Str
  consumer : Str
  file : Str
  line : Nat
  deriving Repr, DecidableEq

/-- The dictionary `analyze_transaction_idempotency` returns. -/
structure TransactionAnalysis where
  transactionalCount : Nat
  idempotentCount : Nat
  missingTransaction : List ConsumerIssue
  missingIdempotency : List ConsumerIssue
  deriving Repr, DecidableEq

/-- `critical_keywords` of `analyze_transaction_idempotency`. -/
def financialKeywords : List Str :=
  ["payment".toList, "wallet".toList, "transaction".toList, "transfer".toList,
    "withdrawal".toList, "deposit".toList]

/-- `is_critical` of `analyze_transaction_idempotency`. -/
def isFinancialTopic (topic : Str) : Bool := financialKeywords.any fun k => isIn k (lower topic)

/-- `f"{consumer['service']}:{consumer['method']}"`, also the name `find_all_consumers`
adds to `transactional_consumers` and `idempotent_consumers`. -/
def consumerKey (c : ConsumerInfo) : Str := c.service ++ ':' :: c.method

/-- The entry for the consumer `c` of `topic`. -/
def consumerIssue (topic : Str) (c : ConsumerInfo) : ConsumerIssue :=
  ⟨topic, consumerKey c, c.file, c.line⟩

/-- The loop shared by `missing_transaction` and `missing_idempotency`: topic by topic,
the consumers of a financial topic whose `flag` is not set. -/
def missingFlag (flag : ConsumerInfo → Bool) (v : KafkaArchitectureAuditor) :
    List ConsumerIssue :=
  v.consumers.items.flatMap fun p =>
    if isFinancialTopic p.1 then (p.2.filter fun c => !flag c).map (consumerIssue p.1) else []

/-- `consumers_without_transaction`. -/
def missingTransaction (v : KafkaArchitectureAuditor) : List ConsumerIssue :=
  missingFlag ConsumerInfo.transactional v

/-- `consumers_without_idempotency`. -/
def missingIdempotency (v : KafkaArchitectureAuditor) : List ConsumerIssue :=
  missingFlag ConsumerInfo.idempotent v

/-- `analyze_transaction_idempotency`. -/
def analyzeTransactionIdempotency (v : KafkaArchitectureAuditor) : TransactionAnalysis :=
  ⟨v.transactionalConsumers.elems.length, v.idempotentConsumers.elems.length,
    v.missingTransaction, v.missingIdempotency⟩

/-! ## Production blockers -/

/-- The fields of a blocker beyond the five that all three kinds have. -/
inductive BlockerDetail where
  /-- `producers`: `service:file:line` of the first three producers of an orphan. -/
  | producers (producers : List Str)
  /-- `consumers`: the number of consumers of a topic without a DLQ. -/
  | consumers (consumers : Nat)
  /-- `consumer` and `location` (`file:line`) of a consumer without a transaction. -/
  | consumer (consumer location : Str)
  deriving Repr, DecidableEq

/-- One entry of `production_blocking_issues`. -/
structure Blocker where
  severity : Str
  category : Str
  topic : Str
  issue : Str
  dataLossRisk : Str
  detail : BlockerDetail
  deriving Repr, DecidableEq

/-- `str(n)` of a count or a line number. -/
def strNat (n : Nat) : Str := (Nat.repr n).toList

/-- The blocker for an orphaned topic, when its business impact is CRITICAL or HIGH. -/
def orphanBlocker (event : OrphanedTopic) : Option Blocker :=
  if event.businessImpact ∈ ["CRITICAL".toList, "HIGH".toList] then
    some ⟨event.businessImpact, "ORPHANED_EVENT".toList, event.topic,
      "Topic has ".toList ++ strNat event.producerCount ++ " producer(s) but NO consumer".toList,
      event.dataLossRisk,
      .producers ((event.producers.take 3).map fun p =>
        p.service ++ ':' :: p.file ++ ':' :: strNat p.line)⟩
  else none

/-- The blocker for a critical topic without a Dead Letter Queue. -/
def dlqBlocker (info : DlqNeed) : Blocker :=
  ⟨"HIGH".toList, "MISSING_DLQ".toList, info.topic,
    "Critical topic missing Dead Letter Queue".toList, "YES - Failed messages will be lost".toList,
    .consumers info.consumers⟩

/-- The blocker for a consumer of a financial topic without `@Transactional`. -/
def transactionBlocker (c : ConsumerIssue) : Blocker :=
  ⟨"CRITICAL".toList, "MISSING_TRANSACTION".toList, c.topic,
    "Financial operation without @Transactional boundary".toList,
    "YES - Data inconsistency possible".toList, .consumer c.consumer (c.file ++ ':' :: strNat c.line)⟩

/-- The first loop of `_identify_production_blockers`, over `orphaned[:10]`. -/
def orphanBlockers (orphaned : List OrphanedTopic) : List Blocker :=
  (orphaned.take 10).filterMap orphanBlocker

/-- The second loop, over `topics_needing_dlq[:10]`. -/
def dlqBlockers (dlq : DlqAnalysis) : List Blocker := (dlq.topicsNeedingDlq.take 10).map dlqBlocker

/-- The third loop, over `missing_transaction[:5]`. -/
def transactionBlockers (tx : TransactionAnalysis) : List Blocker :=
  (tx.missingTransaction.take 5).map transactionBlocker

/-- The order of `sorted(blockers, key=priority, reverse=True)`: a higher priority first. -/
def BlockerBefore (a b : Blocker) : Prop := impactPriority b.severity ≤ impactPriority a.severity

instance : DecidableRel BlockerBefore := fun _ _ => Nat.decLe _ _

/-- `_identify_production_blockers`. Python's sort is stable, also with `reverse=True`,
and so is the insertion sort: of two blockers of one severity the earlier comes first. -/
def identifyProductionBlockers (orphaned : List OrphanedTopic) (dlq : DlqAnalysis)
    (tx : TransactionAnalysis) : List Blocker :=
  ((orphanBlockers orphaned ++ dlqBlockers dlq ++ transactionBlockers tx).insertionSort
    BlockerBefore).take 15

/-! ## The report -/

/-- `report['summary']`. -/
structure AuditSummary where
  totalTopicsDiscovered : Nat
  topicsWithProducers : Nat
  topicsWithConsumers : Nat
  topicsWithBothProducerAndConsumer : Nat
  orphanedTopics : Nat
  dlqTopics : Nat
  transactionalConsumers : Nat
  idempotentConsumers : Nat
  deriving Repr, DecidableEq

/-- The dictionary `generate_report` returns. -/
structure AuditReport where
  summary : AuditSummary
  orphanedEvents : List OrphanedTopic
  dlqAnalysis : DlqAnalysis
  transactionIdempotencyAnalysis : TransactionAnalysis
  productionBlockingIssues : List Blocker
  deriving Repr, DecidableEq

/-- `generate_report`, with `self.topics` passed as `topics`. The keys of a dict are
distinct, so `len(set(self.producers.keys()) & set(self.consumers.keys()))` is the number
of keys of `producers` that are keys of `consumers`. -/
def generateReport (v : KafkaArchitectureAuditor) (topics : PySet Str) : AuditReport :=
  let orphaned := v.analyzeOrphanedEvents
  let dlqAnalysis := v.analyzeDlqCoverage topics
  let transactionAnalysis := v.analyzeTransactionIdempotency
  ⟨⟨topics.elems.length, v.producers.keys.length, v.consumers.keys.length,
      (v.producers.keys.filter fun t => t ∈ v.consumers.keys).length, orphaned.length,
      v.dlqConsumers.keys.length, v.transactionalConsumers.elems.length,
      v.idempotentConsumers.elems.length⟩,
    orphaned.take 50, dlqAnalysis, transactionAnalysis,
    identifyProductionBlockers orphaned dlqAnalysis transactionAnalysis⟩

/-- `main`: `find_all_topics`, `find_all_producers` and `find_all_consumers` on a fresh
auditor, then `generate_report`. -/
def comprehensiveAudit (basePath : Str) (files : Corpus) : AuditReport :=
  (((init basePath).findAllProducers files).findAllConsumers files).generateReport
    ((init basePath).findAllTopics files)

/-! ## The blockers -/

@[simp] theorem impactPriority_critical : impactPriority "CRITICAL".toList = 3 := rfl

@[simp] theorem impactPriority_high : impactPriority "HIGH".toList = 2 := rfl

theorem impactPriority_le (s : Str) : impactPriority s ≤ 3 := by
  unfold impactPriority; split_ifs <;> omega

theorem severity_of_orphanBlocker {e : OrphanedTopic} {b : Blocker} (h : orphanBlocker e = some b) :
    b.severity = "CRITICAL".toList ∨ b.severity = "HIGH".toList := by
  unfold orphanBlocker at h
  split at h
  · cases h
    rcases List.mem_cons.mp ‹_› with h | h
    · exact .inl h
    · exact .inr (List.mem_singleton.mp h)
  · cases h

/-- Inserting a blocker past blockers of a higher priority. -/
theorem orderedInsert_append_of_lt {a : Blocker} :
    ∀ {C : List Blocker} (L : List Blocker),
      (∀ b ∈ C, impactPriority a.severity < impactPriority b.severity) →
      (C ++ L).orderedInsert BlockerBefore a = C ++ L.orderedInsert BlockerBefore a
  | [], _, _ => rfl
  | b :: C, L, h => by
    have hb := h b (List.mem_cons_self _ _)
    rw [List.cons_append, List.orderedInsert, if_neg (by unfold BlockerBefore; omega),
      orderedInsert_append_of_lt L fun b' hb' => h b' (List.mem_cons_of_mem _ hb')]
    rfl

/-- Inserting a blocker in front of blockers of at most its priority. -/
theorem orderedInsert_of_ge {a : Blocker} :
    ∀ {L : List Blocker}, (∀ b ∈ L, impactPriority b.severity ≤ impactPriority a.severity) →
      L.orderedInsert BlockerBefore a = a :: L
  | [], _ => rfl
  | b :: _, h => List.orderedInsert_of_le _ _ (h b (List.mem_cons_self _ _))

theorem severity_of_mem_filter {l : List Blocker} {s : Str} {b : Blocker}
    (h : b ∈ l.filter (·.severity == s)) : b.severity = s := by
  simpa using (List.mem_filter.mp h).2

/-- Filtering blockers of one severity by severity keeps all or nothing. -/
theorem filter_severity {l : List Blocker} {s : Str} (h : ∀ b ∈ l, b.severity = s) (s' : Str) :
    l.filter (·.severity == s') = if s = s' then l else [] := by
  split
  · exact List.filter_eq_self.mpr fun b hb => by simp [h b hb, *]
  · exact List.filter_eq_nil_iff.mpr fun b hb => by simp [h b hb, *]

/-- **A stable sort of two severities**: the CRITICAL blockers in their order, then the
HIGH ones in theirs. -/
theorem insertionSort_blockers : ∀ {l : List Blocker},
    (∀ b ∈ l, b.severity = "CRITICAL".toList ∨ b.severity = "HIGH".toList) →
    l.insertionSort BlockerBefore =
      l.filter (·.severity == "CRITICAL".toList) ++ l.filter (·.severity == "HIGH".toList)
  | [], _ => rfl
  | a :: l, h => by
    have hne : ("CRITICAL".toList == "HIGH".toList) = false := by decide
    rw [List.insertionSort, insertionSort_blockers fun b hb => h b (List.mem_cons_of_mem _ hb)]
    rcases h a (List.mem_cons_self _ _) with ha | ha
    · -- a CRITICAL blocker goes in front of everything
      rw [orderedInsert_of_ge fun b _ => by rw [ha, impactPriority_critical]; exact impactPriority_le _]
      simp [List.filter_cons, ha, hne]
    · -- a HIGH blocker goes after the CRITICAL ones and in front of the HIGH ones
      rw [orderedInsert_append_of_lt _ fun b hb => by
          rw [ha, severity_of_mem_filter hb]; decide,
        orderedInsert_of_ge fun b hb => by rw [ha, severity_of_mem_filter hb]]
      simp [List.filter_cons, ha, hne]

/-- **The production blockers.** For any orphans, DLQ analysis and transaction analysis,
`_identify_production_blockers` lists the CRITICAL orphans among the first ten, then the
first five consumers without a transaction, then the HIGH orphans, then the first ten
topics without a DLQ, and keeps the first fifteen of these. -/
theorem identifyProductionBlockers_eq (orphaned : List OrphanedTopic) (dlq : DlqAnalysis)
    (tx : TransactionAnalysis) :
    identifyProductionBlockers orphaned dlq tx =
      ((orphanBlockers orphaned).filter (·.severity == "CRITICAL".toList) ++
        transactionBlockers tx ++ (orphanBlockers orphaned).filter (·.severity == "HIGH".toList) ++
        dlqBlockers dlq).take 15 := by
  have ho : ∀ b ∈ orphanBlockers orphaned,
      b.severity = "CRITICAL".toList ∨ b.severity = "HIGH".toList := fun b hb =>
    let ⟨_, _, he⟩ := List.mem_filterMap.mp hb
    severity_of_orphanBlocker he
  have hd : ∀ b ∈ dlqBlockers dlq, b.severity = "HIGH".toList := fun b hb => by
    obtain ⟨_, _, rfl⟩ := List.mem_map.mp hb; rfl
  have ht : ∀ b ∈ transactionBlockers tx, b.severity = "CRITICAL".toList := fun b hb => by
    obtain ⟨_, _, rfl⟩ := List.mem_map.mp hb; rfl
  rw [identifyProductionBlockers, insertionSort_blockers fun b hb => by
    rcases List.mem_append.mp hb with hb | hb
    · rcases List.mem_append.mp hb with hb | hb
      · exact ho b hb
      · exact .inr (hd b hb)
    · exact .inl (ht b hb)]
  simp [List.filter_append, filter_severity hd, filter_severity ht]

/-! ## The summary -/

theorem length_analyzeOrphanedEvents (v : KafkaArchitectureAuditor) :
    v.analyzeOrphanedEvents.length = v.producers.items.countP fun p => p.1 ∉ v.consumers.keys := by
  rw [analyzeOrphanedEvents, List.length_insertionSort, List.length_filterMap_eq_countP]
  congr 1
  funext p
  by_cases h : p.1 ∈ v.consumers.keys <;> simp [orphanEntry, h]

/-- **The summary adds up.** In every state of the auditor, for any discovered topics,
`orphaned_topics + topics_with_both_producer_and_consumer = topics_with_producers`. -/
theorem orphanedTopics_add_topicsWithBoth (v : KafkaArchitectureAuditor) (topics : PySet Str) :
    (v.generateReport topics).summary.orphanedTopics +
        (v.generateReport topics).summary.topicsWithBothProducerAndConsumer =
      (v.generateReport topics).summary.topicsWithProducers := by
  simp only [generateReport, length_analyzeOrphanedEvents, PyDict.keys, List.length_map,
    ← List.countP_eq_length_filter, List.countP_map]
  rw [Nat.add_comm, @List.length_eq_countP_add_countP _ (fun p => p.1 ∈ v.consumers.keys)]
  simp only [decide_eq_true_eq]
  rfl

/-! ## The consumer sets -/

/-- The listeners recorded under the topic `t`, in `consumers` and in `dlq_consumers`. -/
def listenersOf (v : KafkaArchitectureAuditor) (t : Str) : List ConsumerInfo :=
  (v.consumers.get? t).getD [] ++ (v.dlqConsumers.get? t).getD []

/-- The listener `c` is recorded under some topic. -/
def Records (v : KafkaArchitectureAuditor) (c : ConsumerInfo) : Prop := ∃ t, c ∈ v.listenersOf t

/-- The set `set v` holds exactly the `service:method` names of the recorded listeners
whose `flag` is set. -/
def KeysOfFlag (flag : ConsumerInfo → Bool) (set : KafkaArchitectureAuditor → PySet Str)
    (v : KafkaArchitectureAuditor) : Prop :=
  ∀ k, k ∈ set v ↔ ∃ c, v.Records c ∧ flag c = true ∧ consumerKey c = k

theorem mem_listenersOf_recordConsumer (info : ConsumerInfo) (v : KafkaArchitectureAuditor)
    (t t' : Str) (c : ConsumerInfo) :
    c ∈ (recordConsumer info v t).listenersOf t' ↔ c ∈ v.listenersOf t' ∨ (t = t' ∧ c = info) := by
  unfold listenersOf
  rw [consumers_recordConsumer, dlqConsumers_recordConsumer]
  by_cases ht : t = t' <;> cases isDlqTopic t <;> simp [ht, or_comm, or_left_comm]

theorem records_recordConsumer (info : ConsumerInfo) (v : KafkaArchitectureAuditor) (t : Str)
    (c : ConsumerInfo) : (recordConsumer info v t).Records c ↔ v.Records c ∨ c = info := by
  simp only [Records, mem_listenersOf_recordConsumer, exists_or, exists_and_right, exists_eq',
    true_and]

theorem mem_transactionalConsumers_recordConsumer (info : ConsumerInfo)
    (v : KafkaArchitectureAuditor) (t k : Str) :
    k ∈ (recordConsumer info v t).transactionalConsumers ↔
      k ∈ v.transactionalConsumers ∨ (info.transactional = true ∧ consumerKey info = k) := by
  unfold recordConsumer consumerKey
  cases isDlqTopic t <;> cases info.transactional <;> cases info.idempotent <;> simp [eq_comm]

theorem mem_idempotentConsumers_recordConsumer (info : ConsumerInfo)
    (v : KafkaArchitectureAuditor) (t k : Str) :
    k ∈ (recordConsumer info v t).idempotentConsumers ↔
      k ∈ v.idempotentConsumers ∨ (info.idempotent = true ∧ consumerKey info = k) := by
  unfold recordConsumer consumerKey
  cases isDlqTopic t <;> cases info.transactional <;> cases info.idempotent <;> simp [eq_comm]

/-- One topic of one listener keeps `KeysOfFlag`, for a set that `recordConsumer` adds
the name to exactly when the flag is set. -/
theorem KeysOfFlag.recordConsumer {flag : ConsumerInfo → Bool}
    {set : KafkaArchitectureAuditor → PySet Str}
    (hset : ∀ info v t k, k ∈ set (recordConsumer info v t) ↔
      k ∈ set v ∨ (flag info = true ∧ consumerKey info = k))
    {v : KafkaArchitectureAuditor} (h : KeysOfFlag flag set v) (info : ConsumerInfo) (t : Str) :
    KeysOfFlag flag set (recordConsumer info v t) := by
  intro k
  simp only [hset, h k, records_recordConsumer, or_and_right, exists_or, exists_eq_left]

/-- The loops of `find_all_consumers` (files, annotations, topics) keep every property
that one topic of one listener keeps. -/
theorem findAllConsumers_inv (P : KafkaArchitectureAuditor → Prop)
    (h : ∀ info v t, P v → P (recordConsumer info v t)) (files : Corpus) :
    ∀ v, P v → P (v.findAllConsumers files) :=
  foldl_inv _ _ (fun w f hw => by
    unfold scanConsumers
    split
    · exact hw
    · exact foldl_inv _ _ (fun u m hu => foldl_inv _ _ (fun u' t hu' => h _ u' t hu') _ u hu) _ w hw)
    files

@[simp] theorem transactionalConsumers_recordProducer (f : JavaFile) (service : Str)
    (lines : List Str) (v : KafkaArchitectureAuditor) (p : Nat × Str) :
    (recordProducer f service lines v p).transactionalConsumers = v.transactionalConsumers := by
  unfold recordProducer; split <;> rfl

@[simp] theorem idempotentConsumers_recordProducer (f : JavaFile) (service : Str)
    (lines : List Str) (v : KafkaArchitectureAuditor) (p : Nat × Str) :
    (recordProducer f service lines v p).idempotentConsumers = v.idempotentConsumers := by
  unfold recordProducer; split <;> rfl

/-- A fresh auditor after the producer scan has recorded no listener and no name. -/
theorem keysOfFlag_findAllProducers (flag : ConsumerInfo → Bool)
    (set : KafkaArchitectureAuditor → PySet Str) (basePath : Str) (files : Corpus)
    (hset : set ((init basePath).findAllProducers files) = .empty) :
    KeysOfFlag flag set ((init basePath).findAllProducers files) := by
  intro k
  simp only [hset, PySet.not_mem_empty, false_iff, not_exists, not_and]
  rintro c ⟨t, hc⟩
  simp [listenersOf, consumers_findAllProducers, dlqConsumers_findAllProducers, init] at hc

/-- **The consumer sets.** After the producer and consumer scans of a fresh auditor,
over any corpus, `transactional_consumers` and `idempotent_consumers` hold exactly the
`service:method` names of the listeners recorded in `consumers` or `dlq_consumers` that
are transactional, respectively idempotent. -/
theorem consumerSets_findAllConsumers (basePath : Str) (files : Corpus) :
    KeysOfFlag ConsumerInfo.transactional transactionalConsumers
        (((init basePath).findAllProducers files).findAllConsumers files) ∧
      KeysOfFlag ConsumerInfo.idempotent idempotentConsumers
        (((init basePath).findAllProducers files).findAllConsumers files) :=
  ⟨findAllConsumers_inv _ (fun _ _ _ h => h.recordConsumer
      mem_transactionalConsumers_recordConsumer _ _) files _
    (keysOfFlag_findAllProducers _ _ basePath files
      (foldl_const _ (·.transactionalConsumers) _ _ fun a f _ h =>
        (scanProducers_const _ transactionalConsumers_recordProducer a f).trans h)),
   findAllConsumers_inv _ (fun _ _ _ h => h.recordConsumer
      mem_idempotentConsumers_recordConsumer _ _) files _
    (keysOfFlag_findAllProducers _ _ basePath files
      (foldl_const _ (·.idempotentConsumers) _ _ fun a f _ h =>
        (scanProducers_const _ idempotentConsumers_recordProducer a f).trans h))⟩

end KafkaArchitectureAuditor
