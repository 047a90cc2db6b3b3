import WaqitiAudit.Kafka.Extractor

/-!
# Categorizing the orphaned events

`src/services/orphaned_events_analysis.py` reads the `orphaned_events` of the report
`kafka_audit_extractor.py` writes (`KafkaAudit.analyzeTopics`):

* `categorize_orphaned_events` puts every event in one of nine categories by an
  `if`/`elif` chain over eight keyword lists, tested on the lowercased topic;
* `analyze_producer_patterns` counts, for every service (the second `/`-separated part
  of a producer's path), the producers of orphaned events it holds, and lists their topics;
* `generate_priority_report` prints the total and, in its own `priority_order`, the size
  of each category; `main` writes `priority_lists`, the topics of each category under a
  label `P0_critical_dlq` … `P4_other`.

What is proved:

* **a partition** — `categorizeOrphanedEvents_partition`: after the loop, `categories`
  still has its nine keys in order, and each holds exactly the events of its category, in
  their order;
* **the report adds up** — `priorityReport_counts`: the total of the report, and the sum
  of its priority breakdown, are the number of orphaned events, and the nine
  `priority_lists` hold every orphaned topic exactly once between them;
* **dead keywords** — `categoryOf_eq_pruned`: the keyword `.DLQ` can never match, since
  the topic is lowercased first, and `metrics-update` never decides a category, since any
  topic containing it contains `metrics`, tested in an earlier branch; the chain without
  them categorizes every topic the same way;
* **producers, not topics** — `analyzeProducerPatterns_eq`: the count of a service is its
  number of producer records, and its topic list has one entry per producer record, so a
  topic with several producers in one service is counted several times (the report
  prints these counts as "orphaned topics");
* **the service of a path** — `serviceOf_dot_path`: on the paths `./<service>/…` that
  `kafka_audit_extractor.py` writes when it walks the tree from `.`, the service is the
  first directory.
-/

namespace OrphanedEventsAnalysis

open PyStr KafkaAudit

open scoped List

/-! ## Categories -/

/-- `dlq_keywords`. -/
def dlqKeywords : List Str :=
  ["dlq".toList, ".DLQ".toList, "dead-letter".toList, "fallback".toList, "retry".toList]

/-- `compliance_keywords`. -/
def complianceKeywords : List Str :=
  ["compliance".toList, "aml".toList, "kyc".toList, "sar".toList, "sanctions".toList,
    "regulatory".toList, "legal".toList, "w9".toList, "form-8300".toList, "dora".toList,
    "escheatment".toList]

/-- `monitoring_keywords`. -/
def monitoringKeywords : List Str :=
  ["monitoring".toList, "metrics".toList, "dashboard".toList, "system-monitoring".toList,
    "health".toList, "performance".toList]

/-- `notification_keywords`. -/
def notificationKeywords : List Str :=
  ["notification".toList, "alert".toList, "email".toList, "sms".toList, "push".toList,
    "escalation".toList]

/-- `financial_keywords`. -/
def financialKeywords : List Str :=
  ["payment".toList, "transaction".toList, "transfer".toList, "balance".toList,
    "settlement".toList, "disbursement".toList, "refund".toList]

/-- `security_keywords`. -/
def securityKeywords : List Str :=
  ["fraud".toList, "security".toList, "breach".toList, "compromise".toList, "freeze".toList,
    "block".toList, "suspend".toList]

/-- `error_keywords`. -/
def errorKeywords : List Str :=
  ["error".toList, "failure".toList, "failed".toList, "exception".toList,
    "validation-errors".toList]

/-- `analytics_keywords`. -/
def analyticsKeywords : List Str :=
  ["analytics".toList, "reporting".toList, "metrics-update".toList,
    "chargeback-analytics".toList]

/-- The branches of the `if`/`elif` chain of `categorize_orphaned_events`, in order: each
sends a topic containing one of its keywords to its category. -/
def categoryRules : List (Str × List Str) :=
  [("critical_dlq".toList, dlqKeywords), ("compliance_regulatory".toList, complianceKeywords),
    ("system_monitoring".toList, monitoringKeywords),
    ("notification_alerts".toList, notificationKeywords),
    ("financial_transactions".toList, financialKeywords),
    ("security_fraud".toList, securityKeywords), ("error_handling".toList, errorKeywords),
    ("analytics_reporting".toList, analyticsKeywords)]

/-- The `if`/`elif` chain on a lowercased topic: the category of the first branch with a
keyword in the topic, `other` after the last. -/
def categoryBy (topic : Str) : List (Str × List Str) → Str
  | [] => "other".toList
  | (category, keywords) :: rules =>
    if keywords.any (isIn · topic) then category else categoryBy topic rules

/-- The category `categorize_orphaned_events` puts an event with this topic in. -/
def categoryOf (topic : Str) : Str := categoryBy (lower topic) categoryRules

/-- The keys of the literal `categories`, in order. -/
def categoryNames : List Str :=
  ["critical_dlq".toList, "compliance_regulatory".toList, "system_monitoring".toList,
    "notification_alerts".toList, "financial_transactions".toList, "security_fraud".toList,
    "error_handling".toList, "analytics_reporting".toList, "other".toList]

theorem categoryNames_nodup : categoryNames.Nodup := by decide

/-- `categories` before the loop: every key with an empty list. -/
def emptyCategories : PyDict Str (List OrphanedEvent) :=
  ⟨categoryNames.map (·, []),
    by simpa [List.map_map, Function.comp_def] using categoryNames_nodup⟩

/-- `categorize_orphaned_events` after loading the report: the categories, and the
events themselves. -/
def categorizeOrphanedEvents (orphaned : List OrphanedEvent) :
    PyDict Str (List OrphanedEvent) × List OrphanedEvent :=
  (orphaned.foldl (fun categories event => categories.appendTo (categoryOf event.topic) event)
    emptyCategories, orphaned)

/-! ## Producer patterns -/

/-- The service of a producer: `file_path.split('/')[1]`, or `unknown` when the path has
no `/`. -/
def serviceOf (filePath : Str) : Str :=
  match splitOnSep "/".toList filePath with
  | _ :: service :: _ => service
  | _ => "unknown".toList

/-- One producer of the inner loop of `analyze_producer_patterns` (its guard `if './':`
tests a non-empty literal, and always holds). -/
def countProducer (topic : Str) (acc : PyDict Str Nat × PyDict Str (List Str))
    (producer : Producer) : PyDict Str Nat × PyDict Str (List Str) :=
  let service := serviceOf producer.file
  (acc.1.set service ((acc.1.get? service).getD 0 + 1), acc.2.appendTo service topic)

/-- `analyze_producer_patterns`: `service_counts` and `service_topics`. -/
def analyzeProducerPatterns (orphanedEvents : List OrphanedEvent) :
    PyDict Str Nat × PyDict Str (List Str) :=
  orphanedEvents.foldl (fun acc event => event.producers.foldl (countProducer event.topic) acc)
    (.empty, .empty)

/-! ## The report -/

/-- `priority_order` of `generate_priority_report`: category, title and priority. -/
def priorityOrder : List (Str × Str × Str) :=
  [("critical_dlq".toList, "CRITICAL - Dead Letter Queue Topics".toList, "P0".toList),
    ("compliance_regulatory".toList, "HIGH - Compliance & Regulatory Topics".toList, "P1".toList),
    ("security_fraud".toList, "HIGH - Security & Fraud Detection".toList, "P1".toList),
    ("system_monitoring".toList, "MEDIUM - System Monitoring & Health".toList, "P2".toList),
    ("error_handling".toList, "MEDIUM - Error Handling & Validation".toList, "P2".toList),
    ("financial_transactions".toList, "MEDIUM - Financial Transactions".toList, "P2".toList),
    ("notification_alerts".toList, "LOW - Notifications & Alerts".toList, "P3".toList),
    ("analytics_reporting".toList, "LOW - Analytics & Reporting".toList, "P3".toList),
    ("other".toList, "LOW - Other Topics".toList, "P4".toList)]

/-- `total_orphaned`: the sizes of the values of `categories`, added. -/
def totalOrphaned (categories : PyDict Str (List OrphanedEvent)) : Nat :=
  (categories.items.map fun kv => kv.2.length).sum

/-- The `PRIORITY BREAKDOWN` lines: priority, title and the size of the category
(every category is a key, `keys_categorizeOrphanedEvents`). -/
def priorityBreakdown (categories : PyDict Str (List OrphanedEvent)) : List (Str × Str × Nat) :=
  priorityOrder.map fun (category, title, priority) =>
    (priority, title, ((categories.get? category).getD []).length)

/-- The labels and categories of `priority_lists` in `main`. -/
def priorityListLabels : List (Str × Str) :=
  [("P0_critical_dlq".toList, "critical_dlq".toList),
    ("P1_compliance".toList, "compliance_regulatory".toList),
    ("P1_security".toList, "security_fraud".toList),
    ("P2_monitoring".toList, "system_monitoring".toList),
    ("P2_errors".toList, "error_handling".toList),
    ("P2_financial".toList, "financial_transactions".toList),
    ("P3_notifications".toList, "notification_alerts".toList),
    ("P3_analytics".toList, "analytics_reporting".toList), ("P4_other".toList, "other".toList)]

/-- `priority_lists`: the topics of each category, under its label. -/
def priorityLists (categories : PyDict Str (List OrphanedEvent)) : List (Str × List Str) :=
  priorityListLabels.map fun (label, category) =>
    (label, ((categories.get? category).getD []).map (·.topic))

/-! ## The categories -/

theorem categoryBy_mem (topic : Str) :
    ∀ rules : List (Str × List Str),
      categoryBy topic rules ∈ rules.map (·.1) ++ ["other".toList]
  | [] => List.mem_singleton_self _
  | (c, ks) :: rules => by
    unfold categoryBy
    split
    · exact List.mem_cons_self _ _
    · exact List.mem_cons_of_mem _ (categoryBy_mem topic rules)

theorem categoryOf_mem (topic : Str) : categoryOf topic ∈ categoryNames :=
  categoryBy_mem _ categoryRules

theorem keys_categorizeOrphanedEvents (orphaned : List OrphanedEvent) :
    (categorizeOrphanedEvents orphaned).1.keys = categoryNames := by
  refine foldl_const _ PyDict.keys orphaned emptyCategories fun d e _ hd => ?_
  rw [PyDict.appendTo, PyDict.keys_set_of_mem _ _ (hd ▸ categoryOf_mem _), hd]

theorem get?_categorizeOrphanedEvents (orphaned : List OrphanedEvent) {n : Str}
    (hn : n ∈ categoryNames) :
    (categorizeOrphanedEvents orphaned).1.get? n =
      some (orphaned.filter (categoryOf ·.topic = n)) := by
  have hk : n ∈ (categorizeOrphanedEvents orphaned).1.keys := by
    rwa [keys_categorizeOrphanedEvents]
  obtain ⟨v, hv⟩ := Option.isSome_iff_exists.mp ((PyDict.mem_keys_iff_get?_isSome _ _).mp hk)
  have hempty : emptyCategories.get? n = some [] :=
    (PyDict.mem_items_iff _).mp (List.mem_map.mpr ⟨n, hn, rfl⟩)
  have := foldl_groupBy (fun e : OrphanedEvent => categoryOf e.topic) orphaned emptyCategories n
  rw [hempty, Option.getD_some, List.nil_append] at this
  rw [hv, ← this]
  simp only [categorizeOrphanedEvents] at hv
  simp [hv]

/-- **A partition.** After the loop of `categorize_orphaned_events`, `categories` has its
nine keys in the order of the literal, and under each the events of that category in
their order; so every event is in exactly one category. -/
theorem categorizeOrphanedEvents_partition (orphaned : List OrphanedEvent) :
    (categorizeOrphanedEvents orphaned).1.keys = categoryNames ∧
      ∀ n ∈ categoryNames, (categorizeOrphanedEvents orphaned).1.get? n =
        some (orphaned.filter (categoryOf ·.topic = n)) :=
  ⟨keys_categorizeOrphanedEvents orphaned, fun _ => get?_categorizeOrphanedEvents orphaned⟩

/-! ## The report adds up -/

/-- Filtering by each of a list of distinct names that covers every key, one after the
other, permutes the list. -/
theorem flatMap_filter_perm {α : Type} (key : α → Str) :
    ∀ names : List Str, names.Nodup → ∀ l : List α, (∀ x ∈ l, key x ∈ names) →
      (names.flatMap fun n => l.filter (key · = n)) ~ l
  | [], _, l, hl => by
    obtain rfl : l = [] := List.eq_nil_iff_forall_not_mem.mpr fun x hx => by simpa using hl x hx
    rfl
  | n :: names, hnd, l, hl => by
    rw [List.nodup_cons] at hnd
    have hrest : (names.flatMap fun m => l.filter (key · = m)) =
        names.flatMap fun m => (l.filter fun x => !decide (key x = n)).filter (key · = m) := by
      refine List.flatMap_congr fun m hm => ?_
      rw [List.filter_filter]
      refine List.filter_congr fun x _ => ?_
      by_cases h : key x = m
      · simp [h, show m ≠ n from fun e => hnd.1 (e ▸ hm)]
      · simp [h]
    rw [List.flatMap_cons, hrest]
    refine ((flatMap_filter_perm key names hnd.2 _ fun x hx => ?_).append_left _).trans
      (List.filter_append_perm _ l)
    obtain ⟨hx, hne⟩ := List.mem_filter.mp hx
    exact (List.mem_cons.mp (hl x hx)).resolve_left (by simpa using hne)

/-- The values of a dict, as the lookups of its keys. -/
theorem map_items_eq_map_keys {ν β : Type} (d : PyDict Str ν) (f : Str × ν → β)
    (dflt : ν) :
    d.items.map f = d.keys.map fun k => f (k, (d.get? k).getD dflt) := by
  rw [PyDict.keys, List.map_map]
  refine List.map_congr_left fun ⟨k, v⟩ hkv => ?_
  simp [(PyDict.mem_items_iff d).mp hkv]

/-- Summing the sizes of the categories over a list of distinct names that covers them
all counts every event once. -/
theorem sum_length_categories (orphaned : List OrphanedEvent) (names : List Str)
    (hnd : names.Nodup) (hcover : categoryNames ⊆ names) (hsub : names ⊆ categoryNames) :
    (names.map fun n => (((categorizeOrphanedEvents orphaned).1.get? n).getD []).length).sum =
      orphaned.length := by
  have hmap : (names.map fun n => (((categorizeOrphanedEvents orphaned).1.get? n).getD []).length) =
      names.map fun n => (orphaned.filter (categoryOf ·.topic = n)).length :=
    List.map_congr_left fun n hn => by rw [get?_categorizeOrphanedEvents orphaned (hsub hn)]; rfl
  have hperm := flatMap_filter_perm (fun e : OrphanedEvent => categoryOf e.topic) names hnd
    orphaned fun e _ => hcover (categoryOf_mem _)
  rw [hmap, ← hperm.length_eq, List.flatMap_def, List.length_flatten, List.map_map]
  rfl

/-- **The report adds up.** The total of `generate_priority_report` and the sum of its
priority breakdown are the number of orphaned events, and between them the nine
`priority_lists` of `main` hold every orphaned topic exactly once. -/
theorem priorityReport_counts (orphaned : List OrphanedEvent) :
    totalOrphaned (categorizeOrphanedEvents orphaned).1 = orphaned.length ∧
      ((priorityBreakdown (categorizeOrphanedEvents orphaned).1).map (·.2.2)).sum =
        orphaned.length ∧
      (priorityLists (categorizeOrphanedEvents orphaned).1).flatMap (·.2) ~
        orphaned.map (·.topic) := by
  refine ⟨?_, ?_, ?_⟩
  · rw [totalOrphaned, map_items_eq_map_keys _ _ [], keys_categorizeOrphanedEvents]
    exact sum_length_categories orphaned _ categoryNames_nodup (fun _ h => h) fun _ h => h
  · have hrows : (priorityBreakdown (categorizeOrphanedEvents orphaned).1).map (·.2.2) =
        (priorityOrder.map (·.1)).map fun n =>
          (((categorizeOrphanedEvents orphaned).1.get? n).getD []).length := by
      rw [priorityBreakdown, List.map_map, List.map_map]
      exact List.map_congr_left fun ⟨_, _, _⟩ _ => rfl
    rw [hrows]
    exact sum_length_categories orphaned _ (by decide) (by decide) (by decide)
  · have hsub : ∀ n ∈ priorityListLabels.map (·.2), n ∈ categoryNames := by decide
    have hperm := flatMap_filter_perm (fun e : OrphanedEvent => categoryOf e.topic)
      (priorityListLabels.map (·.2)) (by decide) orphaned
      fun e _ => (show categoryNames ⊆ priorityListLabels.map (·.2) by decide) (categoryOf_mem _)
    refine List.Perm.trans (List.Perm.of_eq ?_) (hperm.map (·.topic))
    rw [priorityLists, List.flatMap_map, List.map_flatMap, List.flatMap_map]
    refine List.flatMap_congr fun ⟨label, n⟩ h => ?_
    dsimp only
    rw [get?_categorizeOrphanedEvents orphaned (hsub n (List.mem_map_of_mem _ h))]
    rfl

/-! ## Dead keywords -/

theorem toNat_ofNat_of_lt {n : Nat} (h : n < 0xd800) : (Char.ofNat n).toNat = n :=
  toNat_ofNat_of_isValidChar (Or.inl h)

/-- `Char.toLower` never returns an ASCII capital. -/
theorem toLower_ne_upper (c d : Char) (hd : 65 ≤ d.toNat ∧ d.toNat ≤ 90) :
    c.toLower ≠ d := by
  unfold Char.toLower
  dsimp only
  split_ifs with h
  · intro he
    have := congrArg Char.toNat he
    rw [toNat_ofNat_of_lt (by omega)] at this
    omega
  · rintro rfl
    exact h ⟨hd.1, hd.2⟩

/-- A lowercased topic never contains `.DLQ`. -/
theorem isIn_dotDLQ_lower (topic : Str) : isIn ".DLQ".toList (lower topic) = false := by
  rw [Bool.eq_false_iff]
  intro h
  obtain ⟨c, -, hc⟩ := List.mem_map.mp
    (((isIn_iff_contiguous _ _).mp h).subset (show 'D' ∈ ".DLQ".toList by decide))
  exact toLower_ne_upper c 'D' (by decide) hc

/-- The chain without `.DLQ` and `metrics-update`. -/
def prunedRules : List (Str × List Str) :=
  [("critical_dlq".toList, dlqKeywords.erase ".DLQ".toList),
    ("compliance_regulatory".toList, complianceKeywords),
    ("system_monitoring".toList, monitoringKeywords),
    ("notification_alerts".toList, notificationKeywords),
    ("financial_transactions".toList, financialKeywords),
    ("security_fraud".toList, securityKeywords), ("error_handling".toList, errorKeywords),
    ("analytics_reporting".toList, analyticsKeywords.erase "metrics-update".toList)]

/-- Erasing a keyword that does not match changes no `any`. -/
theorem any_erase_of_false {l : List Str} {a : Str} {p : Str → Bool} (ha : p a = false) :
    (l.erase a).any p = l.any p := by
  rw [Bool.eq_iff_iff, List.any_eq_true, List.any_eq_true]
  refine ⟨fun ⟨x, hx, hp⟩ => ⟨x, List.erase_subset _ _ hx, hp⟩,
    fun ⟨x, hx, hp⟩ => ⟨x, ?_, hp⟩⟩
  exact (List.mem_erase_of_ne (by rintro rfl; simp [ha] at hp)).mpr hx

/-- Once the monitoring branch has failed, `metrics-update` cannot match. -/
theorem isIn_metricsUpdate {topic : Str}
    (h : monitoringKeywords.any (isIn · (lower topic)) = false) :
    isIn "metrics-update".toList (lower topic) = false := by
  have hm : isIn "metrics".toList (lower topic) = false := by
    simp only [monitoringKeywords, List.any_cons, Bool.or_eq_false_iff] at h
    exact h.2.1
  rw [Bool.eq_false_iff] at hm ⊢
  exact fun hu => hm (isIn_mono (by decide) ((isIn_iff_contiguous _ _).mp hu))

/-- **Dead keywords.** Without `.DLQ` and `metrics-update` the chain categorizes every
topic as `categorize_orphaned_events` does. -/
theorem categoryOf_eq_pruned (topic : Str) :
    categoryOf topic = categoryBy (lower topic) prunedRules := by
  simp only [categoryOf, categoryRules, prunedRules, categoryBy,
    @any_erase_of_false dlqKeywords _ (isIn · (lower topic)) (isIn_dotDLQ_lower topic)]
  cases hm : monitoringKeywords.any (isIn · (lower topic))
  · rw [@any_erase_of_false analyticsKeywords _ (isIn · (lower topic)) (isIn_metricsUpdate hm)]
  · rfl

/-! ## The service of a producer -/

theorem go_slash_append (t : Str) :
    ∀ (s cur : Str) (n : Nat), '/' ∉ s →
      splitOnSep.go "/".toList (n + s.length) (s ++ t) cur =
        splitOnSep.go "/".toList n t (s.reverse ++ cur)
  | [], cur, n, _ => rfl
  | c :: s, cur, n, h => by
    rw [List.mem_cons, not_or] at h
    rw [List.length_cons, ← Nat.add_assoc, List.cons_append, splitOnSep.go,
      if_neg (by simp [h.1]), go_slash_append t s (c :: cur) n h.2, List.reverse_cons,
      List.append_assoc, List.singleton_append]

theorem go_slash_cons (t cur : Str) (n : Nat) :
    splitOnSep.go "/".toList (n + 1) ('/' :: t) cur =
      cur.reverse :: splitOnSep.go "/".toList n t [] := by
  simp [splitOnSep.go]

/-- A producer found by `kafka_audit_extractor.py`, which walks the tree from `.`, has a
path `./<service>/…`; its service is that first directory. -/
theorem serviceOf_dot_path (service rest : Str) (h : '/' ∉ service) :
    serviceOf ("./".toList ++ service ++ '/' :: rest) = service := by
  have hlen : ("./".toList ++ service ++ '/' :: rest).length =
      (rest.length + 1 + service.length + 1) + ['.'].length := by simp; omega
  have hsplit : splitOnSep "/".toList ("./".toList ++ service ++ '/' :: rest) =
      ['.'] :: service :: splitOnSep.go "/".toList rest.length rest [] := by
    rw [splitOnSep, hlen, List.append_assoc,
      show "./".toList ++ (service ++ '/' :: rest) =
        ['.'] ++ '/' :: (service ++ '/' :: rest) from rfl,
      go_slash_append _ ['.'] [] _ (by decide), go_slash_cons, go_slash_append _ service [] _ h,
      go_slash_cons]
    simp
  rw [serviceOf, hsplit]

/-- The payment service's producer path. -/
theorem serviceOf_paymentPath :
    '/' ∉ "payment-service".toList ∧
      serviceOf ("./".toList ++ "payment-service".toList ++ '/' :: "src/P.java".toList) =
        "payment-service".toList :=
  ⟨by decide, serviceOf_dot_path _ _ (by decide)⟩

/-! ## Producers, not topics -/

theorem foldl_countProducer (topic s : Str) :
    ∀ (producers : List Producer) (acc : PyDict Str Nat × PyDict Str (List Str)),
      (((producers.foldl (countProducer topic) acc).1.get? s).getD 0 =
          (acc.1.get? s).getD 0 + (producers.filter (serviceOf ·.file = s)).length) ∧
        ((producers.foldl (countProducer topic) acc).2.get? s).getD [] =
          (acc.2.get? s).getD [] ++ (producers.filter (serviceOf ·.file = s)).map fun _ => topic
  | [], acc => by simp
  | p :: producers, acc => by
    obtain ⟨h₁, h₂⟩ := foldl_countProducer topic s producers (countProducer topic acc p)
    rw [List.foldl_cons, h₁, h₂]
    by_cases hs : serviceOf p.file = s
    · simp [countProducer, hs, List.filter_cons]
      omega
    · simp [countProducer, hs, List.filter_cons]

theorem foldl_countEvents (s : Str) :
    ∀ (es : List OrphanedEvent) (acc : PyDict Str Nat × PyDict Str (List Str)),
      let acc' := es.foldl (fun acc e => e.producers.foldl (countProducer e.topic) acc) acc
      ((acc'.1.get? s).getD 0 = (acc.1.get? s).getD 0 +
          ((es.flatMap (·.producers)).filter (serviceOf ·.file = s)).length) ∧
        (acc'.2.get? s).getD [] = (acc.2.get? s).getD [] ++
          es.flatMap fun e => (e.producers.filter (serviceOf ·.file = s)).map fun _ => e.topic
  | [], acc => by simp
  | e :: es, acc => by
    obtain ⟨h₁, h₂⟩ := foldl_countProducer e.topic s e.producers acc
    obtain ⟨h₃, h₄⟩ := foldl_countEvents s es (e.producers.foldl (countProducer e.topic) acc)
    dsimp only
    rw [List.foldl_cons, h₃, h₄, h₁, h₂]
    simp only [List.flatMap_cons, List.filter_append, List.length_append, List.append_assoc,
      and_true]
    omega

/-- **Producers, not topics.** `analyze_producer_patterns` counts, for each service, the
producer records of orphaned events whose file is in it, and lists the topic of the event
once for each such record. -/
theorem analyzeProducerPatterns_eq (orphanedEvents : List OrphanedEvent) (s : Str) :
    (((analyzeProducerPatterns orphanedEvents).1.get? s).getD 0 =
        ((orphanedEvents.flatMap (·.producers)).filter (serviceOf ·.file = s)).length) ∧
      ((analyzeProducerPatterns orphanedEvents).2.get? s).getD [] =
        orphanedEvents.flatMap fun e =>
          (e.producers.filter (serviceOf ·.file = s)).map fun _ => e.topic := by
  simpa using foldl_countEvents s orphanedEvents (.empty, .empty)

end OrphanedEventsAnalysis
