import WaqitiAudit.Validator.Cycles
import WaqitiAudit.Validator.Report

/-!
# Whole runs: running twice, and the order of the walk

Two properties of `run_validation` over every corpus.

* **Running twice on one object** (`runValidation_twice`). `self.report` is created in
  `__init__` and every phase appends to it, while a second scan of an unchanged corpus
  leaves the table as it was (`scanAllClasses_idem`). So a second call appends the same
  findings again: every count of the report doubles, except `services_affected` and
  `classes_scanned`, which count distinct names.
* **The order of the walk** (`runValidation_perm`). The memberships phases 1–3 and
  the cycle detector consult are unions over the corpus, so for two orders of one
  corpus the import, bean and cycle lists are permutations of each other, and the
  method-call lists are too once the sample of known methods in `actual` (read from a
  set) is set aside. Phase 4 is different: it resolves a fallback to the *first*
  registered name with the right suffix, and `feign_clients` keeps the *last* Feign
  file per name, so its findings can depend on the order
  (`feignFindings_depend_on_order`). Since every Feign finding lands in the `errors`
  tier, the `critical` and `warnings` counts do not.
-/

namespace ReferenceValidator

open PyStr PyRe

/-! ## Reports of appended findings -/

theorem allIssues_append_perm (r r' : ValidationReport) :
    (r.append r').allIssues.Perm (r.allIssues ++ r'.allIssues) := by
  rw [List.perm_iff_count]
  intro x
  simp only [ValidationReport.allIssues, ValidationReport.append, List.count_append]
  omega

@[simp] theorem empty_append (r : ValidationReport) : ({} : ValidationReport).append r = r := by
  simp [ValidationReport.append]

theorem scanFile_withReport (v : ReferenceValidator) (r : ValidationReport) (f : JavaFile) :
    (v.withReport r).scanFile f = (v.scanFile f).withReport r := by
  unfold scanFile; split <;> rfl

/-- The scan does not read the report. -/
theorem scanAllClasses_withReport (v : ReferenceValidator) (r : ValidationReport)
    (files : Corpus) : (v.withReport r).scanAllClasses files = (v.scanAllClasses files).withReport r := by
  induction files generalizing v with
  | nil => rfl
  | cons f files ih => exact (congrArg (List.foldl scanFile · files) (scanFile_withReport v r f)).trans (ih _)

/-! ## Running twice -/

/-- The state after a first run on a fresh validator: the scanned table, and its
findings as the report. -/
theorem runValidation_init_fst (files : Corpus) :
    (init.runValidation files).1 =
      (init.scanAllClasses files).withReport (runFindings (init.scanAllClasses files) files) := by
  rw [runValidation_fst, init, empty_append]

/-- A second run on the object a first run left appends the same findings again. -/
theorem runValidation_rerun_fst (files : Corpus) :
    ((init.runValidation files).1.runValidation files).1 =
      (init.scanAllClasses files).withReport
        ((runFindings (init.scanAllClasses files) files).append
          (runFindings (init.scanAllClasses files) files)) := by
  rw [runValidation_fst, runValidation_init_fst, scanAllClasses_withReport, scanAllClasses_idem,
    runFindings_withReport, withReport_report, withReport_withReport]

theorem length_filter_append_perm (p : BrokenReference → Bool) (r : ValidationReport) :
    ((r.append r).allIssues.filter p).length = 2 * (r.allIssues.filter p).length := by
  rw [((allIssues_append_perm r r).filter p).length_eq, List.filter_append, List.length_append]
  omega

theorem servicesAffected_append_self (r : ValidationReport) :
    (countByService (r.append r).allIssues).keys.length =
      (countByService r.allIssues).keys.length :=
  length_keys_countByService_eq fun i => (allIssues_append_perm r r).mem_iff.trans (by simp)

/-- **Running twice.** For every corpus, a second `run_validation` on the object a first
run left reports every finding and every cycle pair twice: the four category counts,
`total_issues`, `critical`, `errors`, `warnings` and `circular_dependencies` double,
while `services_affected` and `classes_scanned` stay as they were. -/
theorem runValidation_twice (files : Corpus) :
    let (v₁, r₁) := init.runValidation files
    let r₂ := (v₁.runValidation files).2
    r₂.byCategory =
      { brokenImports := 2 * r₁.byCategory.brokenImports,
        brokenMethodCalls := 2 * r₁.byCategory.brokenMethodCalls,
        missingBeans := 2 * r₁.byCategory.missingBeans,
        brokenFeignClients := 2 * r₁.byCategory.brokenFeignClients } ∧
    r₂.summary =
      { r₁.summary with
        totalIssues := 2 * r₁.summary.totalIssues,
        critical := 2 * r₁.summary.critical,
        errors := 2 * r₁.summary.errors,
        warnings := 2 * r₁.summary.warnings,
        circularDependencies := 2 * r₁.summary.circularDependencies } := by
  simp only [runValidation_snd]
  rw [runValidation_rerun_fst, runValidation_init_fst]
  refine ⟨?_, ?_⟩
  · simp only [generateReport, withReport_report, ValidationReport.append, List.length_append]
    congr 1 <;> omega
  · rw [generateReport_summary, generateReport_summary]
    simp only [withReport_report, withReport_registry, length_filter_append_perm,
      (allIssues_append_perm _ _).length_eq, List.length_append, servicesAffected_append_self]
    simp only [ValidationReport.append, List.length_append]
    congr 1 <;> omega

/-- A file importing a class no file declares (the spec's scenario 2). -/
def missingImportFile : JavaFile :=
  ⟨"/r/services/x/Foo.java".toList,
    "package com.waqiti.x;\nimport com.waqiti.x.Missing;\npublic class Foo \x7b\x7d\n".toList⟩

set_option maxRecDepth 4000 in
/-- On the spec's scenario 2 the first run reports one issue and the second two. -/
theorem rerun_doubles_total :
    let (v₁, r₁) := init.runValidation [missingImportFile]
    r₁.summary.totalIssues = 1 ∧ (v₁.runValidation [missingImportFile]).2.summary.totalIssues = 2 := by
  decide

/-! ## The order of the walk -/

/-- A finding with its `actual` text cleared. A method-call finding quotes the first
five known methods of the class, read from a set, so only this field may depend on the
order in which the methods were added. -/
def BrokenReference.eraseActual (i : BrokenReference) : BrokenReference := { i with actual := [] }

/-- What two runs agree on outside phase 4: the lists of phases 1–3 and of the cycle
detector up to order (the method-call list up to `actual`), every count outside
`broken_feign_clients`, and `total_issues` and `errors` up to the difference in that
count. -/
structure RunsAgree (a b : ReferenceValidator × Report) : Prop where
  imports : a.1.report.brokenImports.Perm b.1.report.brokenImports
  methodCalls : (a.1.report.brokenMethodCalls.map (·.eraseActual)).Perm
    (b.1.report.brokenMethodCalls.map (·.eraseActual))
  beans : a.1.report.missingBeans.Perm b.1.report.missingBeans
  cycles : a.1.report.circularDependencies.Perm b.1.report.circularDependencies
  byCategory : a.2.byCategory =
    { b.2.byCategory with brokenFeignClients := a.2.byCategory.brokenFeignClients }
  critical : a.2.summary.critical = b.2.summary.critical
  warnings : a.2.summary.warnings = b.2.summary.warnings
  circularDependencies : a.2.summary.circularDependencies = b.2.summary.circularDependencies
  classesScanned : a.2.summary.classesScanned = b.2.summary.classesScanned
  totalIssues : a.2.summary.totalIssues + b.2.byCategory.brokenFeignClients =
    b.2.summary.totalIssues + a.2.byCategory.brokenFeignClients
  errors : a.2.summary.errors + b.2.byCategory.brokenFeignClients =
    b.2.summary.errors + a.2.byCategory.brokenFeignClients

section Order

variable {s s' : ReferenceValidator}

theorem SameTable.publics (h : SameTable s s') (N : Str) :
    N ∈ s.publicClasses ↔ N ∈ s'.publicClasses := h.roles .public N

theorem SameTable.components (h : SameTable s s') (N : Str) :
    N ∈ s.componentClasses ↔ N ∈ s'.componentClasses := h.roles .component N

theorem SameTable.services (h : SameTable s s') (N : Str) :
    N ∈ s.serviceClasses ↔ N ∈ s'.serviceClasses := h.roles .service N

theorem SameTable.repositories (h : SameTable s s') (N : Str) :
    N ∈ s.repositoryClasses ↔ N ∈ s'.repositoryClasses := h.roles .repository N

theorem importFindings_congr (h : SameTable s s') (f : JavaFile) :
    s.importFindings f = s'.importFindings f := by
  unfold importFindings importFinding
  simp only [h.registry, h.publics]

theorem entryFindings_congr (h : SameTable s s') (f : JavaFile) (p : Str × Str) :
    (s.entryFindings f p).map (·.eraseActual) = (s'.entryFindings f p).map (·.eraseActual) := by
  simp only [entryFindings, List.map_filterMap]
  congr 1
  funext m
  unfold callFinding
  simp only [h.registry, h.methods]
  split_ifs <;> rfl

theorem methodCallFindings_congr (h : SameTable s s') (f : JavaFile) :
    (s.methodCallFindings f).map (·.eraseActual) =
      (s'.methodCallFindings f).map (·.eraseActual) := by
  simp only [methodCallFindings, List.map_flatMap, entryFindings_congr h]

theorem beanFindings_congr (h : SameTable s s') (f : JavaFile) :
    s.beanFindings f = s'.beanFindings f := by
  unfold beanFindings beanFinding
  simp only [h.registry, h.components, h.services, h.repositories]

theorem cyclePairs_perm (h : SameTable s s') {files files' : Corpus} (hp : files.Perm files') :
    (cyclePairs (s.dependencyGraph files)).Perm (cyclePairs (s'.dependencyGraph files')) := by
  refine (List.perm_ext_iff_of_nodup (nodup_cyclePairs _) (nodup_cyclePairs _)).mpr
    fun ⟨a, b⟩ => ?_
  simp only [mem_cyclePairs, mem_dependencyGraph, ImportEdge, hp.mem_iff, h.registry]

/-- Every finding of phase 4 is an `ERROR` outside the critical tier. -/
theorem isPlainError_of_feignFinding {item : Str × FeignInfo} {i : BrokenReference}
    (h : s.feignFinding item = some i) : i.isPlainError = true := by
  unfold feignFinding at h
  split at h
  · cases h
  · dsimp only at h
    split at h
    · cases h; rfl
    · split at h
      · cases h; rfl
      · cases h

/-! ## Two reports that agree outside phase 4 -/

theorem countP_eraseActual_eq {l l' : List BrokenReference}
    (h : (l.map (·.eraseActual)).Perm (l'.map (·.eraseActual))) {p : BrokenReference → Bool}
    (hp : ∀ i, p i.eraseActual = p i) : l.countP p = l'.countP p := by
  simpa only [List.countP_map, Function.comp_def, hp] using h.countP_eq p

/-- With the same lists outside phase 4, a count over `all_issues` changes by the change
in phase 4's count. -/
theorem countP_allIssues_add {r r' : ValidationReport}
    (hI : r.brokenImports.Perm r'.brokenImports)
    (hM : (r.brokenMethodCalls.map (·.eraseActual)).Perm (r'.brokenMethodCalls.map (·.eraseActual)))
    (hB : r.missingBeans.Perm r'.missingBeans) (p : BrokenReference → Bool)
    (hp : ∀ i, p i.eraseActual = p i) :
    r.allIssues.countP p + r'.brokenFeignClients.countP p =
      r'.allIssues.countP p + r.brokenFeignClients.countP p := by
  simp only [ValidationReport.allIssues, List.countP_append, hI.countP_eq, hB.countP_eq,
    countP_eraseActual_eq hM hp]
  omega

theorem BrokenReference.tiers_of_isPlainError {i : BrokenReference} (h : i.isPlainError = true) :
    i.isCriticalError = false ∧ i.isWarning = false := by
  simp only [BrokenReference.isPlainError, Bool.and_eq_true, decide_eq_true_eq,
    Bool.not_eq_true'] at h
  simp [BrokenReference.isCriticalError, BrokenReference.isWarning, h]

/-- Validators whose reports agree outside phase 4, whose phase-4 findings are plain
errors and whose registries have the same keys give agreeing reports. -/
theorem runsAgree_generateReport {v v' : ReferenceValidator}
    (hI : v.report.brokenImports.Perm v'.report.brokenImports)
    (hM : (v.report.brokenMethodCalls.map (·.eraseActual)).Perm
      (v'.report.brokenMethodCalls.map (·.eraseActual)))
    (hB : v.report.missingBeans.Perm v'.report.missingBeans)
    (hC : v.report.circularDependencies.Perm v'.report.circularDependencies)
    (hF : ∀ i ∈ v.report.brokenFeignClients ++ v'.report.brokenFeignClients,
      i.isPlainError = true)
    (hK : v.classRegistry.keys.Perm v'.classRegistry.keys) :
    RunsAgree (v, v.generateReport) (v', v'.generateReport) := by
  have count := countP_allIssues_add hI hM hB
  have noTier : ∀ p : BrokenReference → Bool, (∀ i, i.isPlainError = true → p i = false) →
      v.report.brokenFeignClients.countP p = 0 ∧ v'.report.brokenFeignClients.countP p = 0 :=
    fun _ hp => ⟨List.countP_eq_zero.mpr fun i hi => by simp [hp i (hF i (by simp [hi]))],
      List.countP_eq_zero.mpr fun i hi => by simp [hp i (hF i (by simp [hi]))]⟩
  have critical := count (·.isCriticalError) fun _ => rfl
  have warnings := count (·.isWarning) fun _ => rfl
  have errors := count (·.isPlainError) fun _ => rfl
  have total := count (fun _ => true) fun _ => rfl
  have hCrit := noTier (·.isCriticalError) fun i h => (BrokenReference.tiers_of_isPlainError h).1
  have hWarn := noTier (·.isWarning) fun i h => (BrokenReference.tiers_of_isPlainError h).2
  have hErr : v.report.brokenFeignClients.countP (·.isPlainError) =
      v.report.brokenFeignClients.length ∧ v'.report.brokenFeignClients.countP (·.isPlainError) =
      v'.report.brokenFeignClients.length :=
    ⟨List.countP_eq_length.mpr fun i hi => hF i (by simp [hi]),
      List.countP_eq_length.mpr fun i hi => hF i (by simp [hi])⟩
  have hM' : v.report.brokenMethodCalls.length = v'.report.brokenMethodCalls.length := by
    simpa using hM.length_eq
  simp only [List.countP_true] at total
  refine ⟨hI, hM, hB, hC, ?_, ?_, ?_, hC.length_eq, hK.length_eq, ?_, ?_⟩
  · simp only [generateReport_byCategory, hI.length_eq, hM', hB.length_eq]
  all_goals
    simp only [generateReport_summary, generateReport_byCategory, ← List.countP_eq_length_filter]
    omega

end Order

/-- A run of a fresh validator: the table its scan builds, with `runFindings` as the
report, and the report generated from that state. -/
theorem runValidation_init (files : Corpus) :
    init.runValidation files =
      ((init.scanAllClasses files).withReport (runFindings (init.scanAllClasses files) files),
        ((init.scanAllClasses files).withReport
          (runFindings (init.scanAllClasses files) files)).generateReport) := by
  rw [← runValidation_init_fst]; rfl

theorem mem_feignFindings {s : ReferenceValidator} {i : BrokenReference}
    (h : i ∈ s.feignClients.items.filterMap s.feignFinding) : i.isPlainError = true :=
  let ⟨_, _, hi⟩ := List.mem_filterMap.mp h
  isPlainError_of_feignFinding hi

/-- **The order of the walk.** For any two orders of one corpus, fresh runs agree on
every list but `broken_feign_clients`, up to order (and, for method calls, up to the
`actual` sample of known methods), on every count but `broken_feign_clients` and
`services_affected`, and on `total_issues` and `errors` up to the difference in the
phase-4 count. -/
theorem runValidation_perm {files files' : Corpus} (h : files.Perm files') :
    RunsAgree (init.runValidation files) (init.runValidation files') := by
  have hT := sameTable_of_perm init h
  rw [runValidation_init, runValidation_init]
  refine runsAgree_generateReport ?_ ?_ ?_ (cyclePairs_perm hT h) ?_ hT.registry_perm
  · simp only [withReport_report, runFindings, funext (importFindings_congr hT)]
    exact h.flatMap_right _
  · simp only [withReport_report, runFindings, List.map_flatMap, methodCallFindings_congr hT]
    exact h.flatMap_right _
  · simp only [withReport_report, runFindings, funext (beanFindings_congr hT)]
    exact h.flatMap_right _
  · simp only [withReport_report, runFindings, List.mem_append]
    rintro i (hi | hi) <;> exact mem_feignFindings hi

/-- A Feign client of `com.waqiti.p` whose fallback is `PayFallback`. -/
def feignPayClient : JavaFile :=
  ⟨"/r/services/p/PayClient.java".toList,
    "package com.waqiti.p;\n@FeignClient(name = \"pay\", fallback = PayFallback.class)\npublic interface PayClient \x7b\x7d\n".toList⟩

/-- A `@Component` named `PayFallback` in `com.waqiti.p`. -/
def payFallbackComponent : JavaFile :=
  ⟨"/r/services/p/PayFallback.java".toList,
    "package com.waqiti.p;\n@Component\npublic class PayFallback \x7b\x7d\n".toList⟩

/-- A class without annotation, also named `PayFallback`, in `com.waqiti.q`. -/
def payFallbackPlain : JavaFile :=
  ⟨"/r/services/q/PayFallback.java".toList,
    "package com.waqiti.q;\npublic class PayFallback \x7b\x7d\n".toList⟩

theorem runValidation_perm_swap :
    [feignPayClient, payFallbackComponent, payFallbackPlain].Perm
        [feignPayClient, payFallbackPlain, payFallbackComponent] ∧
    RunsAgree (init.runValidation [feignPayClient, payFallbackComponent, payFallbackPlain])
      (init.runValidation [feignPayClient, payFallbackPlain, payFallbackComponent]) :=
  ⟨(List.Perm.swap _ _ _).cons _, runValidation_perm ((List.Perm.swap _ _ _).cons _)⟩

set_option maxRecDepth 8000 in
/-- Phase 4 resolves `PayFallback` to whichever of the two classes the walk registered
first: the `@Component` one, and no finding, or the other one, and a finding. -/
theorem feignFindings_depend_on_order :
    [feignPayClient, payFallbackComponent, payFallbackPlain].Perm
        [feignPayClient, payFallbackPlain, payFallbackComponent] ∧
    (init.runValidation [feignPayClient, payFallbackComponent, payFallbackPlain]).2.summary.totalIssues = 0 ∧
    (init.runValidation [feignPayClient, payFallbackPlain, payFallbackComponent]).2.summary.totalIssues = 1 :=
  ⟨(List.Perm.swap _ _ _).cons _, by decide⟩

end ReferenceValidator
