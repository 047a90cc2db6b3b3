import WaqitiAudit.Validator.Basic

/-!
# The Kafka audit extractor

`src/services/kafka_audit_extractor.py`: `extract_kafka_listeners` reads the topics
of every `@KafkaListener` annotation with one regular expression,
`extract_kafka_producers` the topic of every `send("...")` and `publishEvent(..., "...")`
call, `scan_services_directory` concatenates both over the `.java` files of the tree,
and `analyze_topics` groups them by topic.

What is proved:

* **grouping** — `get?_groupBy` and `mem_keys_groupBy`: `defaultdict(list)` filled by
  appending holds, under each topic, exactly the entries with that topic, in order;
* **orphans** — `mem_orphanedEvents`: an orphaned event is a produced topic that no
  consumer names, listed with all of its producers, and
  `mem_orphanedEvents_scan`: over a tree, a topic is orphaned exactly when some file
  produces it and no listener the pattern recovers names it;
* **what the pattern misses** — `orphan_with_listener`: the `groupId` part of the
  pattern is not optional on its own, and the array form is split only when its text
  starts with a quote, so a listener without `groupId`, or with `{ "t" }`, is not
  recovered and its topic is reported as an orphan.
-/

namespace KafkaAudit

open PyStr PyRe ReferenceValidator

/-- A consumer record: `{'topic', 'groupId', 'method', 'file'}`. -/
structure Listener where
  topic : Str
  groupId : Str
  method : Str
  file : Str
  deriving Repr, DecidableEq

/-- A producer record: `{'topic', 'file', 'line'}`. -/
structure Producer where
  topic : Str
  file : Str
  line : Nat
  deriving Repr, DecidableEq

/-- An entry of `orphaned_events`. -/
structure OrphanedEvent where
  topic : Str
  producers : List Producer
  reason : Str
  deriving Repr, DecidableEq

/-- An entry of `missing_producers`. -/
structure MissingProducer where
  topic : Str
  consumers : List Listener
  reason : Str
  deriving Repr, DecidableEq

/-- `stats`. -/
structure Stats where
  totalTopics : Nat
  consumedTopics : Nat
  producedTopics : Nat
  orphanedCount : Nat
  missingProducerCount : Nat
  deriving Repr, DecidableEq

/-- The dictionary `analyze_topics` returns. -/
structure Analysis where
  allTopics : List Str
  topicsConsumed : PyDict Str (List Listener)
  topicsProduced : PyDict Str (List Producer)
  orphanedEvents : List OrphanedEvent
  missingProducers : List MissingProducer
  stats : Stats

/-! ## Extraction -/

/-- The listener pattern:
`@KafkaListener\s*\(\s*(?:[^)]*topics\s*=\s*(?:\{([^}]+)\}|"([^"]+)")[^)]*groupId\s*=\s*"([^"]+)"[^)]*)?\)\s*[^{]*?\s*(?:public|private|protected)?\s*(?:\w+\s+)*(\w+)\s*\(`
(`re.DOTALL` changes nothing: the pattern has no `.`). -/
def listenerRe : Regex :=
  seqs [lit "@KafkaListener".toList, many space, chr '(', many space,
    opt (seqs [many (notChar ')'), lit "topics".toList, many space, chr '=', many space,
      alts [seqs [chr '\x7b', .group 1 (plus (notChar '\x7d')), chr '\x7d'],
        seqs [chr '"', .group 2 (plus (notChar '"')), chr '"']],
      many (notChar ')'), lit "groupId".toList, many space, chr '=', many space,
      chr '"', .group 3 (plus (notChar '"')), chr '"', many (notChar ')')]),
    chr ')', many space, lazyMany (notChar '\x7b'), many space,
    opt (alts [lit "public".toList, lit "private".toList, lit "protected".toList]), many space,
    many (.seq (plus word) (plus space)), .group 4 (plus word), many space, chr '(']

/-- `"([^"]+)"` -/
def quotedRe : Regex := seqs [chr '"', .group 1 (plus (notChar '"')), chr '"']

/-- `(?:kafkaTemplate|kafkaTemplateProducer|template|eventPublisher)\.send\s*\(\s*"([^"]+)"` -/
def sendRe : Regex :=
  seqs [alts [lit "kafkaTemplate".toList, lit "kafkaTemplateProducer".toList,
      lit "template".toList, lit "eventPublisher".toList],
    lit ".send".toList, many space, chr '(', many space, quotedRe]

/-- `\.publishEvent\([^,]+,\s*"([^"]+)"` -/
def publishRe : Regex :=
  seqs [lit ".publishEvent(".toList, plus (notChar ','), chr ',', many space, quotedRe]

/-- Python's `a or b` on two optional strings. -/
def pyOr (a b : Option Str) : Option Str := if truthy a then a else b

/-- The topics of one listener match: the array group split at its quoted strings when
it contains `{` or starts with `"`, the group itself otherwise. -/
def matchTopics (m : Match) : List Str :=
  match pyOr (m.group 1) (m.group 2) with
  | some g =>
    if truthy (some g) then
      if isIn "\x7b".toList g || "\"".toList.isPrefixOf g then findAllGroup quotedRe g else [g]
    else []
  | none => []

/-- `match.group(i) or "unknown"`. -/
def groupOrUnknown (m : Match) (i : Nat) : Str := (pyOr (m.group i) (some "unknown".toList)).getD []

/-- `extract_kafka_listeners`. -/
def extractKafkaListeners (f : JavaFile) : List Listener :=
  (findAll listenerRe f.content).flatMap fun m =>
    (matchTopics m).map fun t => ⟨t, groupOrUnknown m 3, groupOrUnknown m 4, f.path⟩

/-- A producer record for a match whose group 1 is the topic. -/
def producerAt (f : JavaFile) (m : Match) : Producer := ⟨m.grp 1, f.path, lineOf f.content m⟩

/-- `extract_kafka_producers`. -/
def extractKafkaProducers (f : JavaFile) : List Producer :=
  (findAll sendRe f.content).map (producerAt f) ++ (findAll publishRe f.content).map (producerAt f)

/-- `scan_services_directory` over the files `os.walk` yields, in its order. -/
def scanServicesDirectory (files : Corpus) : List Listener × List Producer :=
  let javaFiles := files.filter fun f => endsWith f.path ".java".toList
  (javaFiles.flatMap extractKafkaListeners, javaFiles.flatMap extractKafkaProducers)

/-! ## Analysis -/

/-- A `defaultdict(list)` filled by `d[key(x)].append(x)` for each `x` in turn. -/
def groupBy {α : Type} (key : α → Str) (xs : List α) : PyDict Str (List α) :=
  xs.foldl (fun d x => d.appendTo (key x) x) .empty

/-- `analyze_topics`. -/
def analyzeTopics (consumers : List Listener) (producers : List Producer) : Analysis :=
  let topicsConsumed := groupBy (·.topic) consumers
  let topicsProduced := groupBy (·.topic) producers
  let allTopics := (topicsConsumed.keys ++ topicsProduced.keys).dedup
  let orphanedEvents := topicsProduced.items.filterMap fun (t, ps) =>
    if t ∉ topicsConsumed.keys then some ⟨t, ps, "No consumers found".toList⟩ else none
  let missingProducers := topicsConsumed.items.filterMap fun (t, cs) =>
    if t ∉ topicsProduced.keys then some ⟨t, cs, "No producers found".toList⟩ else none
  { allTopics := allTopics.insertionSort (· ≤ ·)
    topicsConsumed, topicsProduced, orphanedEvents, missingProducers
    stats := ⟨allTopics.length, topicsConsumed.keys.length, topicsProduced.keys.length,
      orphanedEvents.length, missingProducers.length⟩ }

/-! ## Grouping -/

section Group

variable {α : Type} (key : α → Str)

theorem foldl_groupBy (xs : List α) (d : PyDict Str (List α)) (t : Str) :
    ((xs.foldl (fun d x => d.appendTo (key x) x) d).get? t).getD [] =
      (d.get? t).getD [] ++ xs.filter (key · = t) := by
  induction xs generalizing d with
  | nil => simp
  | cons x xs ih =>
    rw [List.foldl_cons, ih, List.filter_cons, PyDict.getD_appendTo]
    by_cases h : key x = t <;> simp [h]

theorem mem_keys_groupBy (xs : List α) (t : Str) :
    t ∈ (groupBy key xs).keys ↔ ∃ x ∈ xs, key x = t := by
  refine (foldl_iff _ (fun d : PyDict Str (List α) => t ∈ d.keys) (key · = t)
    (fun d x => ?_) xs _).trans (by simp)
  simp only [PyDict.mem_keys_appendTo]
  tauto

/-- Under each topic, `groupBy` holds the entries with that topic, in order. -/
theorem get?_groupBy (xs : List α) (t : Str) (h : t ∈ (groupBy key xs).keys) :
    (groupBy key xs).get? t = some (xs.filter (key · = t)) := by
  obtain ⟨v, hv⟩ := Option.isSome_iff_exists.mp ((PyDict.mem_keys_iff_get?_isSome _ _).mp h)
  have := foldl_groupBy key xs .empty t
  rw [← groupBy, hv] at this
  simpa [hv] using this

end Group

/-! ## Orphans -/

/-- **Orphaned events.** An entry of `orphaned_events` is a topic some producer names and
no consumer names, with all the producers of that topic in order. -/
theorem mem_orphanedEvents (consumers : List Listener) (producers : List Producer)
    (o : OrphanedEvent) :
    o ∈ (analyzeTopics consumers producers).orphanedEvents ↔
      (∃ p ∈ producers, p.topic = o.topic) ∧ (∀ c ∈ consumers, c.topic ≠ o.topic) ∧
        o.producers = producers.filter (·.topic = o.topic) ∧
        o.reason = "No consumers found".toList := by
  simp only [analyzeTopics, List.mem_filterMap, mem_keys_groupBy, not_exists, not_and]
  constructor
  · rintro ⟨⟨t, ps⟩, hmem, h⟩
    split at h
    · rename_i hc
      cases h
      have hget := (PyDict.mem_items_iff _).mp hmem
      have hk : t ∈ (groupBy (·.topic) producers).keys :=
        (PyDict.mem_keys_iff_get?_isSome _ _).mpr (by simp [hget])
      rw [get?_groupBy _ _ _ hk, Option.some_inj] at hget
      exact ⟨(mem_keys_groupBy _ _ _).mp hk, hc, hget.symm, rfl⟩
    · cases h
  · rintro ⟨hp, hc, hps, hr⟩
    have hk := (mem_keys_groupBy (·.topic) producers o.topic).mpr hp
    refine ⟨(o.topic, o.producers), (PyDict.mem_items_iff _).mpr ?_, ?_⟩
    · rw [get?_groupBy _ _ _ hk, hps]
    · rw [if_pos hc]
      cases o; cases hr; rfl

/-- The orphaned topics are the produced topics no consumer names. -/
theorem mem_orphanTopics (consumers : List Listener) (producers : List Producer) (t : Str) :
    t ∈ (analyzeTopics consumers producers).orphanedEvents.map (·.topic) ↔
      (∃ p ∈ producers, p.topic = t) ∧ ∀ c ∈ consumers, c.topic ≠ t := by
  simp only [List.mem_map, mem_orphanedEvents]
  constructor
  · rintro ⟨o, ⟨hp, hc, -⟩, rfl⟩
    exact ⟨hp, hc⟩
  · rintro ⟨hp, hc⟩
    exact ⟨⟨t, producers.filter (·.topic = t), "No consumers found".toList⟩, ⟨hp, hc, rfl, rfl⟩, rfl⟩

/-- A file of the tree that `scan_services_directory` reads. -/
def IsJava (f : JavaFile) : Prop := endsWith f.path ".java".toList = true

/-- **Orphans of a tree.** A topic is reported as orphaned exactly when some `.java` file
produces it and no listener the pattern recovers from a `.java` file names it. -/
theorem mem_orphanedEvents_scan (files : Corpus) (t : Str) :
    t ∈ (analyzeTopics (scanServicesDirectory files).1 (scanServicesDirectory files).2).orphanedEvents.map (·.topic) ↔
      (∃ f ∈ files, IsJava f ∧ ∃ p ∈ extractKafkaProducers f, p.topic = t) ∧
        ∀ f ∈ files, IsJava f → ∀ c ∈ extractKafkaListeners f, c.topic ≠ t := by
  simp only [mem_orphanTopics, scanServicesDirectory, List.mem_flatMap, List.mem_filter, IsJava]
  constructor
  · rintro ⟨⟨p, ⟨f, ⟨hf, hj⟩, hp⟩, hpt⟩, hc⟩
    exact ⟨⟨f, hf, hj, p, hp, hpt⟩, fun g hg hj c hc' => hc c ⟨g, ⟨hg, hj⟩, hc'⟩⟩
  · rintro ⟨⟨f, hf, hj, p, hp, hpt⟩, hc⟩
    exact ⟨⟨p, ⟨f, ⟨hf, hj⟩, hp⟩, hpt⟩, fun c ⟨g, ⟨hg, hj'⟩, hc'⟩ => hc g hg hj' c hc'⟩

/-- A producer of `payment-completed` and `ledger-posted`. -/
def paymentPublisher : JavaFile :=
  ⟨"/r/payment-service/src/main/java/PaymentPublisher.java".toList,
    "class PaymentPublisher \x7b\n  void f() \x7b\n    kafkaTemplate.send(\"payment-completed\", e);\n    kafkaTemplate.send(\"ledger-posted\", e);\n  \x7d\n\x7d\n".toList⟩

/-- Listeners of both topics: one without `groupId`, one with a spaced array. -/
def paymentListener : JavaFile :=
  ⟨"/r/ledger-service/src/main/java/PaymentListener.java".toList,
    "class PaymentListener \x7b\n  @KafkaListener(topics = \"payment-completed\")\n  public void onPayment(String m) \x7b\x7d\n  @KafkaListener(topics = \x7b \"ledger-posted\" \x7d, groupId = \"ledger\")\n  public void onLedger(String m) \x7b\x7d\n\x7d\n".toList⟩

set_option maxRecDepth 8000 in
/-- Both topics have a `@KafkaListener` naming them, and both are reported as
orphaned; the listener with the array is recorded under the topic ` "ledger-posted" `. -/
theorem orphan_with_listener :
    (analyzeTopics (scanServicesDirectory [paymentPublisher, paymentListener]).1
        (scanServicesDirectory [paymentPublisher, paymentListener]).2).orphanedEvents.map (·.topic) =
      ["payment-completed".toList, "ledger-posted".toList] ∧
    (scanServicesDirectory [paymentPublisher, paymentListener]).1.map (·.topic) =
      [" \"ledger-posted\" ".toList] := by
  decide

end KafkaAudit
