import WaqitiAudit.Kafka.Extractor

/-!
# The business impact of orphaned events

`src/services/kafka_business_impact_analyzer.py` reads the `orphaned_events` of the
report `kafka_audit_extractor.py` writes (`KafkaAudit.analyzeTopics`) and assesses each
orphan from its topic alone: `analyze_orphaned_event` gives it a criticality by the
keywords of `BUSINESS_CRITICALITY` its lowercased topic contains, `assess_data_loss_risk`
a risk by three other keyword lists, `estimate_fix_complexity` a complexity from its
number of producers, and the texts of `analyze_business_impact`,
`determine_expected_consumer` and `identify_broken_features`.
`generate_prioritized_fix_list` scores each analysis (criticality 40/30/20/10, risk
30/20/10, `(6 - complexity) * 4`, two points a producer up to ten) and sorts the
analyses by score, highest first; `main`, over the orphans it reads, adds a summary of
counts.

What is proved:

* **criticality is a maximum** — `criticalityOf_eq`: the loop over the keyword table,
  with its two guarded branches, returns the highest level among the keywords the topic
  contains (`LOW` when there is none), whatever the order of the table;
* **the fix list is a stable sort** — `generatePrioritizedFixList_sorted`: the list is a
  permutation of the analyses, ordered by score from the highest, with analyses of equal
  score in their input order;
* **CRITICAL before MEDIUM and LOW** — `critical_precedes_medium`: every CRITICAL topic
  scores at least 64 and every MEDIUM or LOW topic at most 56, so in the fix list no
  MEDIUM or LOW orphan comes before a CRITICAL one; a HIGH orphan can
  (`critical_precedes_medium_auditSecurity`);
* **the summary** — `summary_highDataLossRisk`: the HIGH risk count is the number of
  topics with one of the seven critical patterns, and never exceeds the number of
  CRITICAL and HIGH topics;
* **the complexity scale** — `estimateFixComplexity_bounds`: the estimate lies between 2
  and 5, so the value 1 of the documented scale never occurs.
-/

namespace KafkaBusinessImpactAnalyzer

open PyStr KafkaAudit

open scoped List

/-! ## Criticality -/

/-- `BUSINESS_CRITICALITY`, in the order of the dictionary. -/
def businessCriticality : List (Str × Str) :=
  [("payment".toList, "CRITICAL".toList), ("transaction".toList, "CRITICAL".toList),
    ("fraud".toList, "CRITICAL".toList), ("compliance".toList, "CRITICAL".toList),
    ("kyc".toList, "CRITICAL".toList), ("aml".toList, "CRITICAL".toList),
    ("wallet".toList, "HIGH".toList), ("account".toList, "HIGH".toList),
    ("notification".toList, "HIGH".toList), ("rewards".toList, "MEDIUM".toList),
    ("analytics".toList, "LOW".toList), ("monitoring".toList, "MEDIUM".toList),
    ("audit".toList, "HIGH".toList), ("security".toList, "CRITICAL".toList),
    ("risk".toList, "CRITICAL".toList)]

/-- The update of `criticality` by a keyword of level `level` that the topic contains. -/
def raiseCriticality (criticality level : Str) : Str :=
  if level = "CRITICAL".toList ∨
      (level = "HIGH".toList ∧ criticality ≠ "CRITICAL".toList) then level
  else if level = "MEDIUM".toList ∧ criticality ∉ ["CRITICAL".toList, "HIGH".toList] then level
  else criticality

/-- The loop of `analyze_orphaned_event` over `BUSINESS_CRITICALITY`, from `'LOW'`. -/
def criticalityOf (topic : Str) : Str :=
  businessCriticality.foldl (fun criticality (keyword, level) =>
    if isIn keyword (lower topic) then raiseCriticality criticality level else criticality)
    "LOW".toList

/-! ## Risk, complexity and the texts -/

/-- `critical_patterns` of `assess_data_loss_risk`. -/
def criticalPatterns : List Str :=
  ["payment".toList, "transaction".toList, "fraud".toList, "compliance".toList,
    "audit".toList, "kyc".toList, "aml".toList]

/-- `high_patterns`. -/
def highPatterns : List Str :=
  ["wallet".toList, "account".toList, "security".toList, "risk".toList]

/-- `medium_patterns`. -/
def mediumPatterns : List Str := ["notification".toList, "rewards".toList, "analytics".toList]

/-- Some pattern of `patterns` is in the lowercased topic (each `for pattern in ...` loop
that returns on the first hit). -/
def matchesAny (patterns : List Str) (topic : Str) : Bool := patterns.any (isIn · (lower topic))

/-- `assess_data_loss_risk`. -/
def assessDataLossRisk (topic : Str) : Str :=
  if matchesAny criticalPatterns topic then "HIGH - Financial/compliance data loss possible".toList
  else if matchesAny highPatterns topic then "MEDIUM - Important business data may be lost".toList
  else if matchesAny mediumPatterns topic then "LOW - Non-critical data loss".toList
  else "LOW - Impact unclear".toList

/-- `estimate_fix_complexity`. -/
def estimateFixComplexity (topic : Str) (producers : List Producer) : Nat :=
  let numProducers := producers.length
  let baseComplexity :=
    if numProducers = 1 then 2 else if numProducers ≤ 3 then 3
    else if numProducers ≤ 5 then 4 else 5
  let baseComplexity :=
    if matchesAny ["dlq".toList, "retry".toList, "error".toList, "validation".toList] topic then
      baseComplexity + 1
    else baseComplexity
  let baseComplexity :=
    if matchesAny ["compliance".toList, "aml".toList, "fraud".toList, "kyc".toList] topic then
      baseComplexity + 1
    else baseComplexity
  min 5 (max 1 baseComplexity)

/-- `analyze_business_impact`. -/
def analyzeBusinessImpact (topic : Str) : Str :=
  let has (k : String) := isIn k.toList (lower topic)
  if has "payment" then
    if has "completed" then
      "Payment completion workflow broken - downstream services not notified of successful payments".toList
    else if has "failed" then
      "Payment failure handling broken - failed payments not processed for retries/notifications".toList
    else if has "refund" then
      "Refund processing workflow broken - refund events not triggering dependent actions".toList
    else "Payment event processing broken - payment lifecycle events lost".toList
  else if has "fraud" then
    "Fraud detection alerts not being processed - potential financial losses and compliance violations".toList
  else if has "compliance" || has "aml" || has "kyc" then
    "Compliance workflow broken - regulatory reporting and monitoring compromised".toList
  else if has "notification" then
    "User notifications not sent - poor customer experience and missing critical alerts".toList
  else if has "wallet" then
    "Wallet state inconsistencies - balance updates and transaction history may be incomplete".toList
  else if has "account" then
    "Account lifecycle management broken - status changes and account operations not propagated".toList
  else if has "rewards" || has "loyalty" then
    "Rewards/loyalty program broken - points/cashback not calculated or awarded".toList
  else if has "risk" then
    "Risk assessment pipeline broken - risk scores and alerts not updated".toList
  else if has "audit" then
    "Audit trail incomplete - compliance and forensic capabilities compromised".toList
  else if has "security" then
    "Security incident response broken - security events not processed for threat detection".toList
  else if has "monitoring" || has "alert" then
    "System monitoring broken - alerts and metrics not processed for operational visibility".toList
  else "Unknown business impact - event processing workflow interrupted".toList

/-- `determine_expected_consumer`. -/
def determineExpectedConsumer (topic : Str) : Str :=
  let has (k : String) := isIn k.toList (lower topic)
  if has "payment" then "payment-service, ledger-service, notification-service".toList
  else if has "fraud" then "fraud-service, security-service, notification-service".toList
  else if has "compliance" || has "aml" then "compliance-service, audit-service".toList
  else if has "notification" then "notification-service".toList
  else if has "wallet" then "wallet-service, ledger-service".toList
  else if has "account" then "account-service, user-service".toList
  else if has "rewards" || has "loyalty" then "rewards-service".toList
  else if has "kyc" then "kyc-service, compliance-service, user-service".toList
  else if has "risk" then "risk-service, fraud-service".toList
  else if has "audit" then "audit-service".toList
  else if has "security" then "security-service".toList
  else if has "monitoring" then "monitoring-service".toList
  else "Unknown - needs investigation".toList

/-- `identify_broken_features`. -/
def identifyBrokenFeatures (topic : Str) : List Str :=
  let has (k : String) := isIn k.toList (lower topic)
  if has "payment-completed" then
    ["Rewards/cashback calculation".toList, "Transaction confirmations".toList,
      "Receipt generation".toList, "Merchant settlement".toList, "Ledger updates".toList]
  else if has "fraud" then
    ["Real-time fraud detection".toList, "Risk scoring updates".toList,
      "Account blocking/suspension".toList, "Fraud alerts to users".toList]
  else if has "notification" then
    ["SMS/Email notifications".toList, "Push notifications".toList,
      "In-app notifications".toList, "Alert delivery".toList]
  else if has "wallet" then
    ["Balance updates".toList, "Transaction history".toList,
      "Wallet state synchronization".toList]
  else if has "compliance" then
    ["Regulatory reporting".toList, "AML monitoring".toList, "Sanctions screening".toList,
      "Audit trail maintenance".toList]
  else []

/-- The dictionary `analyze_orphaned_event` returns. -/
structure OrphanAnalysis where
  topic : Str
  criticality : Str
  businessImpact : Str
  dataLossRisk : Str
  fixComplexity : Nat
  expectedConsumerService : Str
  producers : List Producer
  brokenFeatures : List Str
  deriving Repr, DecidableEq

/-- `analyze_orphaned_event`. -/
def analyzeOrphanedEvent (topic : Str) (producers : List Producer) : OrphanAnalysis where
  topic := topic
  criticality := criticalityOf topic
  businessImpact := analyzeBusinessImpact topic
  dataLossRisk := assessDataLossRisk topic
  fixComplexity := estimateFixComplexity topic producers
  expectedConsumerService := determineExpectedConsumer topic
  producers := producers
  brokenFeatures := identifyBrokenFeatures topic

/-! ## The prioritized fix list -/

/-- The criticality weight of the score. -/
def criticalityPoints (criticality : Str) : Int :=
  if criticality = "CRITICAL".toList then 40 else if criticality = "HIGH".toList then 30
  else if criticality = "MEDIUM".toList then 20 else 10

/-- The data loss risk weight: a substring test on the text of the risk. -/
def riskPoints (dataLossRisk : Str) : Int :=
  if isIn "HIGH".toList dataLossRisk then 30 else if isIn "MEDIUM".toList dataLossRisk then 20
  else 10

/-- The score `generate_prioritized_fix_list` gives one analysis. -/
def priorityScore (a : OrphanAnalysis) : Int :=
  criticalityPoints a.criticality + riskPoints a.dataLossRisk + (6 - (a.fixComplexity : Int)) * 4 +
    min 10 (a.producers.length * 2 : Int)

/-- `priority_scores.sort(key=lambda x: x[0], reverse=True)`: a pair goes before the
pairs of lower or equal score. -/
def ScoreBefore (x y : Int × OrphanAnalysis) : Prop := y.1 ≤ x.1

instance : DecidableRel ScoreBefore := fun _ _ => Int.decLe _ _

instance : IsTotal (Int × OrphanAnalysis) ScoreBefore := ⟨fun x y => le_total y.1 x.1⟩

instance : IsTrans (Int × OrphanAnalysis) ScoreBefore :=
  ⟨fun _ _ _ h₁ h₂ => le_trans h₂ h₁⟩

/-- `generate_prioritized_fix_list`. -/
def generatePrioritizedFixList (orphanedAnalysis : List OrphanAnalysis) : List OrphanAnalysis :=
  ((orphanedAnalysis.map fun a => (priorityScore a, a)).insertionSort ScoreBefore).map (·.2)

/-- `summary` of the detailed report. -/
structure ImpactSummary where
  totalOrphaned : Nat
  criticalImpact : Nat
  highImpact : Nat
  highDataLossRisk : Nat
  deriving Repr, DecidableEq

/-- The detailed report `main` writes, without its fixed timestamp. -/
structure ImpactReport where
  summary : ImpactSummary
  prioritizedFixes : List OrphanAnalysis
  detailedAnalysis : List OrphanAnalysis

/-- `main`, over the `orphaned_events` of the audit report it loads. -/
def main (orphanedEvents : List OrphanedEvent) : ImpactReport :=
  let orphanedAnalysis := orphanedEvents.map fun o => analyzeOrphanedEvent o.topic o.producers
  let criticalCount := (orphanedAnalysis.filter (·.criticality = "CRITICAL".toList)).length
  let highCount := (orphanedAnalysis.filter (·.criticality = "HIGH".toList)).length
  { summary :=
      { totalOrphaned := orphanedAnalysis.length
        criticalImpact := criticalCount
        highImpact := highCount
        highDataLossRisk := (orphanedAnalysis.filter (isIn "HIGH".toList ·.dataLossRisk)).length }
    prioritizedFixes := generatePrioritizedFixList orphanedAnalysis
    detailedAnalysis := orphanedAnalysis }

/-! ## Levels as ranks -/

/-- The four levels, from the highest. -/
def levels : List Str := ["CRITICAL".toList, "HIGH".toList, "MEDIUM".toList, "LOW".toList]

/-- The order of the levels: `CRITICAL` 3, `HIGH` 2, `MEDIUM` 1, anything else 0. -/
def levelRank (level : Str) : Nat :=
  if level = "CRITICAL".toList then 3 else if level = "HIGH".toList then 2
  else if level = "MEDIUM".toList then 1 else 0

/-- The level of a rank. -/
def levelOfRank : Nat → Str
  | 0 => "LOW".toList
  | 1 => "MEDIUM".toList
  | 2 => "HIGH".toList
  | _ => "CRITICAL".toList

theorem levelRank_le (level : Str) : levelRank level ≤ 3 := by
  unfold levelRank; split_ifs <;> omega

theorem levelRank_levelOfRank {n : Nat} (h : n ≤ 3) : levelRank (levelOfRank n) = n := by
  interval_cases n <;> rfl

theorem levelOfRank_mem : ∀ n, levelOfRank n ∈ levels
  | 0 | 1 | 2 => by decide
  | _ + 3 => List.mem_cons_self _ _

@[simp] theorem levelRank_low : levelRank "LOW".toList = 0 := by decide

theorem levelOfRank_levelRank : ∀ l ∈ levels, levelOfRank (levelRank l) = l := by decide

theorem criticalityPoints_eq (c : Str) : criticalityPoints c = 10 * levelRank c + 10 := by
  unfold criticalityPoints levelRank; split_ifs <;> rfl

/-- The guards of the loop raise the criticality to the higher of the two levels. -/
theorem raiseCriticality_eq :
    ∀ c ∈ levels, ∀ l ∈ levels,
      raiseCriticality c l = levelOfRank (max (levelRank c) (levelRank l)) := by
  decide

theorem level_mem_levels : ∀ e ∈ businessCriticality, e.2 ∈ levels := by decide

/-- The highest rank among the keywords of `table` the topic contains. -/
def matchedRank (table : List (Str × Str)) (topic : Str) : Nat :=
  ((table.filter fun e => isIn e.1 (lower topic)).map fun e => levelRank e.2).foldr max 0

theorem matchedRank_le (table : List (Str × Str)) (topic : Str) : matchedRank table topic ≤ 3 :=
  List.max_le_of_forall_le _ _ (by
    simp only [List.mem_map]
    rintro _ ⟨e, -, rfl⟩
    exact levelRank_le _)

/-- The loop from any level `c`, over a table of levels, ends at the higher of `c` and the
highest matched keyword. -/
theorem foldl_raiseCriticality (topic : Str) :
    ∀ (table : List (Str × Str)), (∀ e ∈ table, e.2 ∈ levels) → ∀ c ∈ levels,
      table.foldl (fun criticality (keyword, level) =>
          if isIn keyword (lower topic) then raiseCriticality criticality level
          else criticality) c =
        levelOfRank (max (levelRank c) (matchedRank table topic))
  | [], _, c, hc => by simp [matchedRank, levelOfRank_levelRank c hc]
  | (k, l) :: table, ht, c, hc => by
    have hl : l ∈ levels := ht _ (List.mem_cons_self _ _)
    have ht' := fun e he => ht e (List.mem_cons_of_mem _ he)
    rw [List.foldl_cons]
    dsimp only
    by_cases hm : isIn k (lower topic) = true
    · have hr := levelRank_levelOfRank (max_le (levelRank_le c) (levelRank_le l))
      rw [if_pos hm, raiseCriticality_eq c hc l hl,
        foldl_raiseCriticality topic table ht' _ (levelOfRank_mem _), hr, max_assoc]
      simp only [matchedRank, List.filter_cons, hm, if_true, List.map_cons, List.foldr_cons]
    · rw [if_neg hm, foldl_raiseCriticality topic table ht' c hc]
      simp only [matchedRank, List.filter_cons, hm, if_false, Bool.false_eq_true]

theorem levelRank_criticalityOf (topic : Str) :
    levelRank (criticalityOf topic) = matchedRank businessCriticality topic := by
  rw [criticalityOf, foldl_raiseCriticality topic _ level_mem_levels _ (by decide), levelRank_low,
    Nat.zero_max]
  exact levelRank_levelOfRank (matchedRank_le _ _)

/-- **Criticality is a maximum.** `analyze_orphaned_event` gives a topic the highest level
among the keywords of `BUSINESS_CRITICALITY` its lowercased text contains, and `LOW` when
it contains none; the order of the table plays no part. -/
theorem criticalityOf_eq (topic : Str) :
    criticalityOf topic = levelOfRank (matchedRank businessCriticality topic) := by
  rw [criticalityOf, foldl_raiseCriticality topic _ level_mem_levels _ (by decide), levelRank_low,
    Nat.zero_max]

theorem two_le_levelRank_iff (c : Str) :
    2 ≤ levelRank c ↔ c = "CRITICAL".toList ∨ c = "HIGH".toList := by
  unfold levelRank; split_ifs <;> simp_all

/-! ## Score bounds -/

/-- Every critical or high risk pattern is a keyword of level `HIGH` or above. -/
theorem risky_keyword : ∀ p ∈ criticalPatterns ++ highPatterns,
    ∃ e ∈ businessCriticality, e.1 = p ∧ 2 ≤ levelRank e.2 := by decide

/-- Every `CRITICAL` keyword is a critical or high risk pattern. -/
theorem critical_keyword_risky : ∀ e ∈ businessCriticality,
    levelRank e.2 = 3 → e.1 ∈ criticalPatterns ++ highPatterns := by decide

theorem matchesAny_append (ps qs : List Str) (topic : Str) :
    matchesAny (ps ++ qs) topic = (matchesAny ps topic || matchesAny qs topic) := by
  simp [matchesAny]

/-- A topic with a critical or high risk pattern is `HIGH` or `CRITICAL`. -/
theorem two_le_levelRank_of_matchesAny {topic : Str}
    (h : matchesAny (criticalPatterns ++ highPatterns) topic = true) :
    2 ≤ levelRank (criticalityOf topic) := by
  obtain ⟨p, hp, hm⟩ := List.any_eq_true.mp h
  obtain ⟨e, he, rfl, hr⟩ := risky_keyword p hp
  rw [levelRank_criticalityOf]
  exact List.le_max_of_le (List.mem_map_of_mem _ (List.mem_filter.mpr ⟨he, hm⟩)) hr

/-- A `CRITICAL` topic has a critical or high risk pattern. -/
theorem matchesAny_of_critical {topic : Str} (h : levelRank (criticalityOf topic) = 3) :
    matchesAny (criticalPatterns ++ highPatterns) topic = true := by
  rw [levelRank_criticalityOf] at h
  by_contra hn
  have hle : matchedRank businessCriticality topic ≤ 2 := by
    refine List.max_le_of_forall_le _ _ ?_
    simp only [List.mem_map, List.mem_filter]
    rintro _ ⟨e, ⟨he, hm⟩, rfl⟩
    have := levelRank_le e.2
    by_contra hlt
    exact hn (List.any_eq_true.mpr ⟨e.1, critical_keyword_risky e he (by omega), hm⟩)
  omega

theorem riskPoints_assessDataLossRisk (topic : Str) :
    riskPoints (assessDataLossRisk topic) =
      if matchesAny criticalPatterns topic then 30
      else if matchesAny highPatterns topic then 20 else 10 := by
  unfold assessDataLossRisk; split_ifs <;> decide

theorem estimateFixComplexity_bounds (topic : Str) (producers : List Producer) :
    2 ≤ estimateFixComplexity topic producers ∧
      estimateFixComplexity topic producers ≤ 5 := by
  unfold estimateFixComplexity
  dsimp only
  have hbase : 2 ≤ if producers.length = 1 then 2 else if producers.length ≤ 3 then 3
      else if producers.length ≤ 5 then 4 else 5 := by split_ifs <;> omega
  -- a keyword match only adds one
  have hbump (c : Bool) (b : Nat) (h : 2 ≤ b) : 2 ≤ if c = true then b + 1 else b := by
    split <;> omega
  exact ⟨le_min (by decide) (le_max_of_le_right (hbump _ _ (hbump _ _ hbase))), min_le_left _ _⟩

/-- The score of an analysis, as the sum of its four weights. -/
theorem priorityScore_analyzeOrphanedEvent (topic : Str) (producers : List Producer) :
    priorityScore (analyzeOrphanedEvent topic producers) =
      10 * levelRank (criticalityOf topic) + 10 + riskPoints (assessDataLossRisk topic) +
        (6 - (estimateFixComplexity topic producers : Int)) * 4 +
        min 10 (producers.length * 2 : Int) := by
  rw [priorityScore, criticalityPoints_eq]; rfl

/-- A `CRITICAL` topic scores at least 64. -/
theorem priorityScore_of_critical {topic : Str} (producers : List Producer)
    (h : levelRank (criticalityOf topic) = 3) :
    64 ≤ priorityScore (analyzeOrphanedEvent topic producers) := by
  have hrisk : 20 ≤ riskPoints (assessDataLossRisk topic) := by
    have hm := matchesAny_of_critical h
    rw [matchesAny_append, Bool.or_eq_true] at hm
    rw [riskPoints_assessDataLossRisk]
    split_ifs with h₁ h₂
    · omega
    · omega
    · exact (hm.elim h₁ h₂).elim
  have hc := estimateFixComplexity_bounds topic producers
  rw [priorityScore_analyzeOrphanedEvent, h]
  omega

/-- A `MEDIUM` or `LOW` topic scores at most 56. -/
theorem priorityScore_of_medium {topic : Str} (producers : List Producer)
    (h : levelRank (criticalityOf topic) ≤ 1) :
    priorityScore (analyzeOrphanedEvent topic producers) ≤ 56 := by
  have hrisk : riskPoints (assessDataLossRisk topic) = 10 := by
    have hm : matchesAny (criticalPatterns ++ highPatterns) topic = false := by
      by_contra hm
      have := two_le_levelRank_of_matchesAny (Bool.not_eq_false _ ▸ hm)
      omega
    rw [matchesAny_append, Bool.or_eq_false_iff] at hm
    rw [riskPoints_assessDataLossRisk, hm.1, hm.2]
    rfl
  have hc := estimateFixComplexity_bounds topic producers
  rw [priorityScore_analyzeOrphanedEvent, hrisk]
  omega

/-- A topic with the `HIGH` risk text has one of the critical patterns. -/
theorem isIn_high_assessDataLossRisk (topic : Str) :
    isIn "HIGH".toList (assessDataLossRisk topic) = matchesAny criticalPatterns topic := by
  unfold assessDataLossRisk
  cases matchesAny criticalPatterns topic <;> cases matchesAny highPatterns topic <;>
    cases matchesAny mediumPatterns topic <;> decide

/-- A topic with the `HIGH` risk text is `CRITICAL` or `HIGH`. -/
theorem criticality_of_high_risk {topic : Str}
    (h : isIn "HIGH".toList (assessDataLossRisk topic) = true) :
    criticalityOf topic = "CRITICAL".toList ∨ criticalityOf topic = "HIGH".toList := by
  rw [isIn_high_assessDataLossRisk] at h
  exact (two_le_levelRank_iff _).mp
    (two_le_levelRank_of_matchesAny (by rw [matchesAny_append, h, Bool.true_or]))

/-! ## The fix list -/

theorem map_snd_scored (as : List OrphanAnalysis) :
    (as.map fun a => (priorityScore a, a)).map (·.2) = as := by
  simp [List.map_map, Function.comp_def]

theorem perm_generatePrioritizedFixList (as : List OrphanAnalysis) :
    generatePrioritizedFixList as ~ as := by
  have := (List.perm_insertionSort ScoreBefore (as.map fun a => (priorityScore a, a))).map (·.2)
  rwa [map_snd_scored] at this

theorem sorted_generatePrioritizedFixList (as : List OrphanAnalysis) :
    (generatePrioritizedFixList as).Sorted (fun a b => priorityScore b ≤ priorityScore a) := by
  refine List.pairwise_map.mpr ((List.sorted_insertionSort ScoreBefore _).imp_of_mem ?_)
  simp only [List.mem_insertionSort, List.mem_map]
  rintro _ _ ⟨a, -, rfl⟩ ⟨b, -, rfl⟩ h
  exact h

theorem pair_sublist_generatePrioritizedFixList {as : List OrphanAnalysis} {a b : OrphanAnalysis}
    (hab : priorityScore a = priorityScore b) (h : [a, b] <+ as) :
    [a, b] <+ generatePrioritizedFixList as :=
  (List.pair_sublist_insertionSort
    (show ScoreBefore (priorityScore a, a) (priorityScore b, b) from le_of_eq hab.symm)
    (h.map fun a => (priorityScore a, a))).map Prod.snd

/-- **CRITICAL before MEDIUM and LOW.** In the fix list `main` writes, every orphan that
comes before a `CRITICAL` one is `CRITICAL` or `HIGH`. -/
theorem critical_precedes_medium (orphanedEvents : List OrphanedEvent) (a b : OrphanAnalysis)
    (hba : [b, a] <+ (main orphanedEvents).prioritizedFixes)
    (ha : a.criticality = "CRITICAL".toList) :
    b.criticality = "CRITICAL".toList ∨ b.criticality = "HIGH".toList := by
  have hmem : ∀ x ∈ [b, a],
      ∃ o ∈ orphanedEvents, analyzeOrphanedEvent o.topic o.producers = x :=
    fun x hx => List.mem_map.mp ((perm_generatePrioritizedFixList _).subset (hba.subset hx))
  have hle :=
    List.pairwise_pair.mp (List.Pairwise.sublist hba (sorted_generatePrioritizedFixList _))
  obtain ⟨oa, -, rfl⟩ := hmem a (by simp)
  obtain ⟨ob, -, rfl⟩ := hmem b (by simp)
  have hca := priorityScore_of_critical oa.producers
    (by rw [show criticalityOf oa.topic = "CRITICAL".toList from ha]; decide)
  by_contra hb
  have hcb := priorityScore_of_medium ob.producers
    (Nat.le_of_lt_succ (Nat.lt_of_not_le (mt (two_le_levelRank_iff _).mp hb)))
  omega

/-- An orphaned audit topic with five producers. -/
def auditOrphan : OrphanedEvent :=
  ⟨"audit-events".toList,
    List.replicate 5 ⟨"audit-events".toList, "./audit-service/A.java".toList, 1⟩,
    "No consumers found".toList⟩

/-- An orphaned security topic with six producers. -/
def securityOrphan : OrphanedEvent :=
  ⟨"security-events".toList,
    List.replicate 6 ⟨"security-events".toList, "./security-service/S.java".toList, 1⟩,
    "No consumers found".toList⟩

/-- The analysis `main` makes of an orphan. -/
def analysisOf (o : OrphanedEvent) : OrphanAnalysis := analyzeOrphanedEvent o.topic o.producers

/-- The HIGH audit topic (score 78) comes before the CRITICAL security topic (score 74). -/
theorem critical_precedes_medium_auditSecurity :
    [analysisOf auditOrphan, analysisOf securityOrphan] <+
        (main [auditOrphan, securityOrphan]).prioritizedFixes ∧
      (analysisOf securityOrphan).criticality = "CRITICAL".toList ∧
      ((analysisOf auditOrphan).criticality = "CRITICAL".toList ∨
        (analysisOf auditOrphan).criticality = "HIGH".toList) :=
  have hs : [analysisOf auditOrphan, analysisOf securityOrphan] <+
      (main [auditOrphan, securityOrphan]).prioritizedFixes := by decide
  have hc : (analysisOf securityOrphan).criticality = "CRITICAL".toList := by decide
  ⟨hs, hc, critical_precedes_medium [auditOrphan, securityOrphan] _ _ hs hc⟩

/-! ## The summary -/

/-- A count bounded by two others: every element `p` keeps is kept by `q` or by `r`. -/
theorem length_filter_le_add {α : Type} {p q r : α → Bool} (l : List α)
    (h : ∀ x ∈ l, p x = true → q x = true ∨ r x = true) :
    (l.filter p).length ≤ (l.filter q).length + (l.filter r).length := by
  induction l with
  | nil => rfl
  | cons a l ih =>
    have ih := ih fun x hx => h x (List.mem_cons_of_mem _ hx)
    have ha := h a (List.mem_cons_self _ _)
    simp only [List.filter_cons]
    split_ifs with hp hq hr hr <;> simp only [List.length_cons] at ih ⊢ <;>
      first | omega | exact absurd (ha hp) (by simp [*])

/-- **The summary.** The HIGH data loss risk count is the number of orphans whose topic
contains one of the seven critical patterns, and it is at most the number of `CRITICAL`
and `HIGH` orphans. -/
theorem summary_highDataLossRisk (orphanedEvents : List OrphanedEvent) :
    (main orphanedEvents).summary.highDataLossRisk =
        (orphanedEvents.filter fun o => matchesAny criticalPatterns o.topic).length ∧
      (main orphanedEvents).summary.highDataLossRisk ≤
        (main orphanedEvents).summary.criticalImpact +
          (main orphanedEvents).summary.highImpact := by
  refine ⟨?_, length_filter_le_add _ ?_⟩
  · simp only [main, List.filter_map, List.length_map, Function.comp_def, analyzeOrphanedEvent,
      isIn_high_assessDataLossRisk]
  · simp only [List.mem_map]
    rintro _ ⟨o, -, rfl⟩ h
    simpa only [decide_eq_true_eq] using criticality_of_high_risk h

end KafkaBusinessImpactAnalyzer
