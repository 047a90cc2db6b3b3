import WaqitiAudit.Validator.Registry

/-!
# The report of a run

`generate_report` walks `all_issues` once, appending each finding to `critical`,
`errors` or `warnings`, and once more to count findings per service directory. This
file gives the closed forms of those loops (`groupBySeverity_eq`,
`mem_keys_countByService`), the contract of the report they produce
(`generateReport_spec`: the tiers `tierOf` reads from each finding's severity and
lowercased impact partition the findings, the arrays hold the findings' objects
`findingRecord`, the counts add up and are taken before the arrays are capped at 50 or
100), and the closed form of a whole run:
`runValidation` leaves the table the scan built and appends to the report exactly
`runFindings`, which depends on nothing but that table and the corpus
(`runValidation_fst`).
-/

namespace ReferenceValidator

open PyStr PyRe

/-! ## Grouping by severity -/

/-- A finding of the `critical` tier. -/
def BrokenReference.isCriticalError (i : BrokenReference) : Bool :=
  i.severity = "ERROR".toList && i.isCritical

/-- A finding of the `errors` tier. -/
def BrokenReference.isPlainError (i : BrokenReference) : Bool :=
  i.severity = "ERROR".toList && !i.isCritical

/-- A finding of the `warnings` tier. -/
def BrokenReference.isWarning (i : BrokenReference) : Bool := i.severity ≠ "ERROR".toList

/-- One iteration appends the finding to its tier. -/
theorem groupBySeverity_cons (i : BrokenReference) (is c e w : List BrokenReference) :
    groupBySeverity (i :: is) (c, e, w) =
      groupBySeverity is (c ++ (if i.isCriticalError then [i] else []),
        e ++ (if i.isPlainError then [i] else []), w ++ (if i.isWarning then [i] else [])) := by
  simp only [groupBySeverity]
  unfold BrokenReference.isCriticalError BrokenReference.isPlainError BrokenReference.isWarning
  generalize "ERROR".toList = E
  by_cases hs : i.severity = E <;> cases i.isCritical <;> simp [hs]

/-- The grouping loop appends each finding to the tier it belongs to. -/
theorem groupBySeverity_eq (is c e w : List BrokenReference) :
    groupBySeverity is (c, e, w) =
      (c ++ is.filter (·.isCriticalError), e ++ is.filter (·.isPlainError),
        w ++ is.filter (·.isWarning)) := by
  induction is generalizing c e w with
  | nil => simp [groupBySeverity]
  | cons i is ih =>
    rw [groupBySeverity_cons, ih]
    simp only [List.filter_cons, List.append_assoc]
    split_ifs <;> rfl

/-! ## Counting by service -/

/-- The service directory of a finding's file, if its path has one. -/
def BrokenReference.service (i : BrokenReference) : Option Str :=
  (search serviceDirRe i.sourceFile).map (·.grp 1)

/-- The services counted are those of the findings. -/
theorem mem_keys_countByService (issues : List BrokenReference) (N : Str) :
    N ∈ (countByService issues).keys ↔ ∃ i ∈ issues, i.service = some N := by
  refine (foldl_iff _ (fun d : PyDict Str Nat => N ∈ d.keys) (fun i => i.service = some N)
    (fun d i => ?_) issues _).trans (by simp only [PyDict.keys_empty, List.not_mem_nil, false_or])
  simp only [BrokenReference.service]
  cases search serviceDirRe i.sourceFile with
  | none => simp
  | some m => simp [eq_comm, or_comm]

theorem length_keys_countByService_eq {is is' : List BrokenReference}
    (h : ∀ i, i ∈ is ↔ i ∈ is') :
    (countByService is).keys.length = (countByService is').keys.length := by
  refine List.Perm.length_eq ((List.perm_ext_iff_of_nodup (countByService is).nodup
    (countByService is').nodup).mpr fun N => ?_)
  exact (mem_keys_countByService is N).trans
    ((exists_congr fun i => and_congr_left' (h i)).trans (mem_keys_countByService is' N).symm)

/-! ## The report -/

theorem generateReport_summary (v : ReferenceValidator) :
    v.generateReport.summary =
      { totalIssues := v.report.allIssues.length,
        critical := (v.report.allIssues.filter (·.isCriticalError)).length,
        errors := (v.report.allIssues.filter (·.isPlainError)).length,
        warnings := (v.report.allIssues.filter (·.isWarning)).length,
        circularDependencies := v.report.circularDependencies.length,
        servicesAffected := (countByService v.report.allIssues).keys.length,
        classesScanned := v.classRegistry.keys.length } := by
  simp [generateReport, groupBySeverity_eq]

theorem generateReport_byCategory (v : ReferenceValidator) :
    v.generateReport.byCategory =
      ⟨v.report.brokenImports.length, v.report.brokenMethodCalls.length,
        v.report.missingBeans.length, v.report.brokenFeignClients.length⟩ := rfl

theorem generateReport_arrays (v : ReferenceValidator) :
    v.generateReport.criticalIssues =
        ((v.report.allIssues.filter (·.isCriticalError)).take 50).map (·.entry) ∧
      v.generateReport.errors =
        ((v.report.allIssues.filter (·.isPlainError)).take 100).map (·.entry) ∧
      v.generateReport.warnings =
        ((v.report.allIssues.filter (·.isWarning)).take 100).map (·.entry) := by
  simp [generateReport, groupBySeverity_eq]

/-- Every finding is in exactly one tier. -/
theorem BrokenReference.tier_cases (i : BrokenReference) :
    (i.isCriticalError = true ∧ i.isPlainError = false ∧ i.isWarning = false) ∨
      (i.isCriticalError = false ∧ i.isPlainError = true ∧ i.isWarning = false) ∨
      (i.isCriticalError = false ∧ i.isPlainError = false ∧ i.isWarning = true) := by
  unfold BrokenReference.isCriticalError BrokenReference.isPlainError BrokenReference.isWarning
  generalize i.severity = s
  generalize "ERROR".toList = e
  by_cases hs : s = e <;> cases i.isCritical <;> simp [hs]

/-- The three tiers together are the findings, each once. -/
theorem tiers_perm : ∀ is : List BrokenReference,
    (is.filter (·.isCriticalError) ++ is.filter (·.isPlainError) ++
      is.filter (·.isWarning)).Perm is
  | [] => .nil
  | i :: is => by
    have ih := tiers_perm is
    rcases i.tier_cases with ⟨h₁, h₂, h₃⟩ | ⟨h₁, h₂, h₃⟩ | ⟨h₁, h₂, h₃⟩ <;>
      simp only [List.filter_cons, h₁, h₂, h₃, ite_true, ite_false, Bool.false_eq_true,
        List.cons_append]
    · exact ih.cons i
    · rw [List.append_assoc] at ih ⊢
      exact List.perm_middle.trans (ih.cons i)
    · exact List.perm_middle.trans (ih.cons i)

/-- `services_affected` counts the distinct services of the findings. -/
theorem length_keys_countByService (is : List BrokenReference) :
    (countByService is).keys.length = (is.filterMap (·.service)).dedup.length :=
  ((List.perm_ext_iff_of_nodup (countByService is).nodup (List.nodup_dedup _)).mpr fun N =>
    (mem_keys_countByService is N).trans (by simp)).length_eq

/-! ## What the report should say -/

/-- The tiers of the report. -/
inductive Tier where
  | critical
  | error
  | warning
  deriving DecidableEq

/-- The tier of a finding, read from its fields: an `ERROR` whose lowercased impact
contains `startup` or `compilation` is critical, any other `ERROR` is an error, and every
other severity a warning. -/
def tierOf (i : BrokenReference) : Tier :=
  if i.severity = "ERROR".toList then
    if "startup".toList <:+: lower i.impact ∨ "compilation".toList <:+: lower i.impact then
      .critical
    else .error
  else .warning

/-- The object the report holds for a finding, key by key. -/
def findingRecord (i : BrokenReference) : IssueEntry :=
  { source := i.sourceFile, line := i.lineNumber, type := i.referenceType, target := i.target,
    expected := i.expected, actual := i.actual, impact := i.impact, fix := i.recommendedFix }

theorem BrokenReference.tierOf_eq (i : BrokenReference) :
    (decide (tierOf i = .critical) = i.isCriticalError) ∧
      (decide (tierOf i = .error) = i.isPlainError) ∧
      (decide (tierOf i = .warning) = i.isWarning) := by
  have hc : i.isCritical = decide ("startup".toList <:+: lower i.impact ∨
      "compilation".toList <:+: lower i.impact) := by
    unfold BrokenReference.isCritical
    generalize "startup".toList = a
    generalize "compilation".toList = b
    rw [Bool.eq_iff_iff, Bool.or_eq_true, isIn_iff_contiguous, isIn_iff_contiguous,
      decide_eq_true_eq]
  unfold tierOf BrokenReference.isCriticalError BrokenReference.isPlainError
    BrokenReference.isWarning
  rw [hc]
  generalize "ERROR".toList = E
  split_ifs <;> simp_all

/-- What `generate_report` guarantees about the report `R` of a validator `v`. -/
structure ReportSpec (v : ReferenceValidator) (R : Report) : Prop where
  total_eq_tiers :
    R.summary.totalIssues = R.summary.critical + R.summary.errors + R.summary.warnings
  total_eq_categories : R.summary.totalIssues = R.byCategory.brokenImports +
    R.byCategory.brokenMethodCalls + R.byCategory.missingBeans + R.byCategory.brokenFeignClients
  tiers : (v.report.allIssues.filter (tierOf · = .critical) ++
    v.report.allIssues.filter (tierOf · = .error) ++
    v.report.allIssues.filter (tierOf · = .warning)).Perm v.report.allIssues
  critical : R.summary.critical = (v.report.allIssues.filter (tierOf · = .critical)).length
  errors : R.summary.errors = (v.report.allIssues.filter (tierOf · = .error)).length
  warnings : R.summary.warnings = (v.report.allIssues.filter (tierOf · = .warning)).length
  criticalIssues : R.criticalIssues =
    ((v.report.allIssues.filter (tierOf · = .critical)).take 50).map findingRecord
  errorEntries :
    R.errors = ((v.report.allIssues.filter (tierOf · = .error)).take 100).map findingRecord
  warningEntries :
    R.warnings = ((v.report.allIssues.filter (tierOf · = .warning)).take 100).map findingRecord
  circularDependencies : R.circularDependencies = v.report.circularDependencies.take 50
  circularCount : R.summary.circularDependencies = v.report.circularDependencies.length
  criticalCap : R.criticalIssues.length = min 50 R.summary.critical
  errorsCap : R.errors.length = min 100 R.summary.errors
  warningsCap : R.warnings.length = min 100 R.summary.warnings
  circularCap : R.circularDependencies.length = min 50 R.summary.circularDependencies
  servicesAffected :
    R.summary.servicesAffected = (v.report.allIssues.filterMap (·.service)).dedup.length

/-- **The report.** For any finding lists, the tiers partition the findings and their
counts add up to the total and to the categories; each array holds the objects of the
first 50 or 100 findings of its tier in input order, and every count is taken before
the caps. -/
theorem generateReport_spec (v : ReferenceValidator) : ReportSpec v v.generateReport := by
  have hfilter : ∀ is : List BrokenReference,
      is.filter (·.isCriticalError) = is.filter (tierOf · = .critical) ∧
        is.filter (·.isPlainError) = is.filter (tierOf · = .error) ∧
        is.filter (·.isWarning) = is.filter (tierOf · = .warning) := fun is =>
    ⟨List.filter_congr fun i _ => (i.tierOf_eq).1.symm,
      List.filter_congr fun i _ => (i.tierOf_eq).2.1.symm,
      List.filter_congr fun i _ => (i.tierOf_eq).2.2.symm⟩
  have hrecord : (fun i : BrokenReference => i.entry) = findingRecord := rfl
  obtain ⟨hc, he, hw⟩ := generateReport_arrays v
  have hperm := tiers_perm v.report.allIssues
  have hsum := hperm.length_eq
  simp only [List.length_append] at hsum
  have hcat : v.report.allIssues.length = v.report.brokenImports.length +
      v.report.brokenMethodCalls.length + v.report.missingBeans.length +
      v.report.brokenFeignClients.length := by
    simp [ValidationReport.allIssues, Nat.add_assoc]
  have hs := generateReport_summary v
  have hd : v.generateReport.circularDependencies = v.report.circularDependencies.take 50 := rfl
  obtain ⟨h₁, h₂, h₃⟩ := hfilter v.report.allIssues
  rw [h₁, h₂, h₃] at hperm hsum hs
  rw [h₁, hrecord] at hc
  rw [h₂, hrecord] at he
  rw [h₃, hrecord] at hw
  refine ⟨by simp only [hs]; omega, by simp only [hs, generateReport_byCategory]; omega,
    hperm, by rw [hs], by rw [hs], by rw [hs], hc, he, hw, hd, by rw [hs], ?_, ?_, ?_, ?_,
    by rw [hs, length_keys_countByService]⟩ <;>
    simp only [hs, hc, he, hw, hd, List.length_map, List.length_take]

/-! ## A whole run -/

/-- Componentwise `+=` of two reports. -/
def ValidationReport.append (r r' : ValidationReport) : ValidationReport :=
  ⟨r.brokenImports ++ r'.brokenImports, r.brokenMethodCalls ++ r'.brokenMethodCalls,
    r.missingBeans ++ r'.missingBeans, r.brokenFeignClients ++ r'.brokenFeignClients,
    r.circularDependencies ++ r'.circularDependencies⟩

/-- What the phases of one run append to the report, computed from the table `s` the
scan left. -/
def runFindings (s : ReferenceValidator) (files : Corpus) : ValidationReport :=
  ⟨files.flatMap s.importFindings, files.flatMap s.methodCallFindings,
    files.flatMap s.beanFindings, s.feignClients.items.filterMap s.feignFinding,
    cyclePairs (s.dependencyGraph files)⟩

/-- The validator `v` with its report replaced by `r`. -/
def withReport (v : ReferenceValidator) (r : ValidationReport) : ReferenceValidator :=
  { v with report := r }

@[simp] theorem withReport_report (v : ReferenceValidator) (r : ValidationReport) :
    (v.withReport r).report = r := rfl

@[simp] theorem withReport_withReport (v : ReferenceValidator) (r r' : ValidationReport) :
    (v.withReport r).withReport r' = v.withReport r' := rfl

@[simp] theorem withReport_registry (v : ReferenceValidator) (r : ValidationReport) :
    (v.withReport r).classRegistry = v.classRegistry := rfl

/-- The phases only read the table. -/
theorem runFindings_withReport (s : ReferenceValidator) (r : ValidationReport) (files : Corpus) :
    runFindings (s.withReport r) files = runFindings s files := rfl

/-- `run_validation` scans, then appends `runFindings` of the scanned table. -/
theorem runValidation_fst (v : ReferenceValidator) (files : Corpus) :
    (v.runValidation files).1 =
      (v.scanAllClasses files).withReport
        (v.report.append (runFindings (v.scanAllClasses files) files)) := by
  simp only [runValidation, detectCircularDependencies, validateFeignClients,
    validateSpringBeans, validateMethodCalls, validateImports, report_scanAllClasses]
  rfl

theorem runValidation_snd (v : ReferenceValidator) (files : Corpus) :
    (v.runValidation files).2 = (v.runValidation files).1.generateReport := rfl

end ReferenceValidator
