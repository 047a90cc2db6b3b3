import WaqitiAudit.Validator.Basic

/-!
# The reference validator: the phases

The methods of `ReferenceValidator` in `src/services/validate_references.py`, one
definition each, in the order `run_validation` calls them:

* `scanAllClasses` (phase 0) folds `scanFile` over the corpus: a file whose text has
  a `package` statement and a type declaration registers the name
  `package.Name` and adds it to the role sets, to `feign_clients` and to
  `class_methods` according to what the text contains;
* `validateImports`, `validateMethodCalls` and `validateSpringBeans` (phases 1–3)
  append the findings of each file, in corpus order, to their list of the report;
* `validateFeignClients` (phase 4) walks `feign_clients` in insertion order;
* `detectCircularDependencies` builds the import graph of the corpus and appends
  every pair `(a, b)` with `a → b` and `b → a`, walking the graph's items;
* `generateReport` classifies and counts the findings, and `runValidation` runs
  everything on the validator it is given.

Each phase reads a file's text afresh; nothing but the symbol table and the report
passes between phases.
-/

namespace ReferenceValidator

open PyStr PyRe

/-! ## Phase 0: the class registry -/

/-- What phase 0 reads from the text of a file that has both a `package` statement
and a type declaration. -/
structure ClassEntry where
  fqn : Str
  isPublic : Bool
  isComponent : Bool
  isService : Bool
  isRepository : Bool
  feignName : Option Str
  methods : List Str
  deriving Repr, DecidableEq

/-- The fully qualified name of a file's primary type: the first `package` statement
and the first type declaration. -/
def primaryName (content : Str) : Option Str :=
  match search packageRe content, search classRe content with
  | some pm, some cm => some (pm.grp 1 ++ '.' :: cm.grp 3)
  | _, _ => none

/-- The body of the loop of `scan_all_classes`, as far as it reads the text. -/
def classEntry (content : Str) : Option ClassEntry :=
  match search packageRe content, search classRe content with
  | some pm, some cm =>
    some
      { fqn := pm.grp 1 ++ '.' :: cm.grp 3
        isPublic := truthy (cm.group 1)
        isComponent := (search (annotationRe "Component".toList) content).isSome
        isService := (search (annotationRe "Service".toList) content).isSome
        isRepository := (search (annotationRe "Repository".toList) content).isSome
        feignName := (search feignRe content).map (·.grp 1)
        methods := ((findAll methodRe content).map (·.grp 2)).filter (· ∉ notMethodNames) }
  | _, _ => none

/-- `s.add(x)` when `b` holds. -/
def addIf (b : Bool) (s : PySet Str) (x : Str) : PySet Str := if b then s.add x else s

/-- The updates of `scan_all_classes` for one registered file. -/
def recordClass (v : ReferenceValidator) (f : JavaFile) (e : ClassEntry) :
    ReferenceValidator :=
  { v with
    classRegistry := v.classRegistry.set e.fqn f.path
    publicClasses := addIf e.isPublic v.publicClasses e.fqn
    componentClasses := addIf e.isComponent v.componentClasses e.fqn
    serviceClasses := addIf e.isService v.serviceClasses e.fqn
    repositoryClasses := addIf e.isRepository v.repositoryClasses e.fqn
    feignClients :=
      match e.feignName with
      | some n => v.feignClients.set e.fqn ⟨f.path, n, f.content⟩
      | none => v.feignClients
    classMethods := e.methods.foldl (fun d m => d.addTo e.fqn m) v.classMethods }

/-- One iteration of the loop of `scan_all_classes`. -/
def scanFile (v : ReferenceValidator) (f : JavaFile) : ReferenceValidator :=
  match classEntry f.content with
  | some e => v.recordClass f e
  | none => v

/-- `scan_all_classes` (phase 0). -/
def scanAllClasses (v : ReferenceValidator) (files : Corpus) : ReferenceValidator :=
  files.foldl scanFile v

/-! ## Phase 1: imports -/

/-- The finding, if any, for line `n` of the file at `path`. -/
def importFinding (v : ReferenceValidator) (path : Str) (n : Nat) (line : Str) :
    Option BrokenReference :=
  match matchPrefix importRe (strip line) with
  | none => none
  | some m =>
    let x := m.grp 1
    if isIn waqiti x then
      if x ∉ v.classRegistry.keys then
        if endsWith (strip line) "*;".toList then none
        else
          some
            { sourceFile := path, lineNumber := n, referenceType := "IMPORT".toList,
              target := x,
              expected := "Class ".toList ++ x ++ " should exist".toList,
              actual := "Class not found in codebase".toList,
              severity := "ERROR".toList, impact := "Compilation will fail".toList,
              recommendedFix := "Remove import or create class ".toList ++ x }
      else if x ∉ v.publicClasses then
        some
          { sourceFile := path, lineNumber := n, referenceType := "IMPORT".toList,
            target := x,
            expected := "Class ".toList ++ x ++ " should be public".toList,
            actual := "Class is not public".toList,
            severity := "WARNING".toList, impact := "May cause compilation issues".toList,
            recommendedFix := "Make class public or adjust visibility".toList }
      else none
    else none

/-- The import findings of one file, in line order. -/
def importFindings (v : ReferenceValidator) (f : JavaFile) : List BrokenReference :=
  ((readLines f.content).enumFrom 1).filterMap fun (n, line) => v.importFinding f.path n line

/-- `validate_imports` (phase 1). -/
def validateImports (v : ReferenceValidator) (files : Corpus) : ReferenceValidator :=
  { v with report.brokenImports := v.report.brokenImports ++ files.flatMap v.importFindings }

/-! ## Phase 2: method calls -/

/-- The catalogue `service_patterns`: a variable name and the class it is assumed to
hold. -/
def servicePatterns : List (Str × Str) :=
  [("ledgerService".toList, "com.waqiti.ledger.service.LedgerService".toList),
   ("walletService".toList, "com.waqiti.wallet.service.WalletService".toList),
   ("fraudDetectionService".toList, "com.waqiti.fraud.service.FraudDetectionService".toList),
   ("paymentService".toList, "com.waqiti.payment.service.PaymentService".toList),
   ("userService".toList, "com.waqiti.user.service.UserService".toList),
   ("accountService".toList, "com.waqiti.account.service.AccountService".toList),
   ("transactionService".toList, "com.waqiti.transaction.service.TransactionService".toList)]

/-- The finding, if any, for a call site `m` of the class `cls` in file `f`. -/
def callFinding (v : ReferenceValidator) (f : JavaFile) (cls : Str) (m : Match) :
    Option BrokenReference :=
  let name := m.grp 1
  if cls ∈ v.classRegistry.keys then
    if name ∉ v.classMethods.members cls then
      some
        { sourceFile := f.path, lineNumber := lineOf f.content m,
          referenceType := "METHOD_CALL".toList, target := cls ++ '.' :: name,
          expected := "Method ".toList ++ name ++ " should exist in ".toList ++ cls,
          actual := "Method not found. Available methods: ".toList ++
            ", ".toList.intercalate ((v.classMethods.members cls).elems.take 5) ++ "...".toList,
          severity := "ERROR".toList, impact := "Runtime error or compilation failure".toList,
          recommendedFix := "Implement ".toList ++ name ++ " in ".toList ++ cls ++
            " or fix method name".toList }
    else none
  else none

/-- The method-call findings of one catalogue entry in one file. -/
def entryFindings (v : ReferenceValidator) (f : JavaFile) (p : Str × Str) :
    List BrokenReference :=
  (findAll (callRe p.1) f.content).filterMap (v.callFinding f p.2)

/-- The method-call findings of one file, catalogue entry by catalogue entry. -/
def methodCallFindings (v : ReferenceValidator) (f : JavaFile) : List BrokenReference :=
  servicePatterns.flatMap (v.entryFindings f)

/-- `validate_method_calls` (phase 2). -/
def validateMethodCalls (v : ReferenceValidator) (files : Corpus) : ReferenceValidator :=
  { v with report.brokenMethodCalls :=
      v.report.brokenMethodCalls ++ files.flatMap v.methodCallFindings }

/-- A registered `LedgerService` without methods. -/
def ledgerServiceFile : JavaFile :=
  ⟨"/r/services/ledger/LedgerService.java".toList,
    "package com.waqiti.ledger.service;\npublic class LedgerService \x7b\x7d\n".toList⟩

/-- A file whose only call site is on a variable `subledgerService`. -/
def subledgerCaller : JavaFile :=
  ⟨"/r/services/x/Sub.java".toList,
    "package com.waqiti.x;\npublic class Sub \x7b\n  void f() \x7b subledgerService.close(); \x7d\n\x7d\n".toList⟩

set_option maxRecDepth 8000 in
/-- The catalogue pattern `ledgerService\.(\w+)\(` has no left word boundary, so the call
`subledgerService.close()` is reported as a call of `LedgerService.close`. -/
theorem methodCall_suffix_receiver :
    (((init.scanAllClasses [ledgerServiceFile, subledgerCaller]).validateMethodCalls
        [ledgerServiceFile, subledgerCaller]).report.brokenMethodCalls.map
        fun i => (i.sourceFile, i.lineNumber, i.target)) =
      [(subledgerCaller.path, 3, "com.waqiti.ledger.service.LedgerService.close".toList)] := by
  decide

/-! ## Phase 3: Spring beans -/

/-- The injected type of an `@Autowired`/`@Inject` match: the field type with generic
arguments erased, qualified through the file's imports when it is not written with
the internal prefix. -/
def resolveFieldType (content : Str) (m : Match) : Str :=
  let baseType := strip (sub genericRe [] (strip (m.grp 2)))
  if waqiti.isPrefixOf baseType then baseType
  else
    match search (qualifiedImportRe baseType) content with
    | some im => im.grp 1
    | none => baseType

/-- The finding, if any, for one injection site. -/
def beanFinding (v : ReferenceValidator) (f : JavaFile) (m : Match) :
    Option BrokenReference :=
  let t := resolveFieldType f.content m
  if isIn waqiti t then
    if t ∉ v.classRegistry.keys then
      some
        { sourceFile := f.path, lineNumber := lineOf f.content m,
          referenceType := "SPRING_BEAN".toList, target := t,
          expected := "Bean ".toList ++ t ++ " should exist".toList,
          actual := "Class not found".toList,
          severity := "ERROR".toList, impact := "Application startup will fail".toList,
          recommendedFix := "Create class ".toList ++ t ++ " or fix type".toList }
    else if t ∉ v.componentClasses ∧ t ∉ v.serviceClasses ∧ t ∉ v.repositoryClasses then
      some
        { sourceFile := f.path, lineNumber := lineOf f.content m,
          referenceType := "SPRING_BEAN".toList, target := t,
          expected := "Bean ".toList ++ t ++
            " should be annotated with @Component/@Service/@Repository".toList,
          actual := "Missing Spring annotation".toList,
          severity := "ERROR".toList, impact := "Bean not found exception at startup".toList,
          recommendedFix := "Add @Service or @Component to ".toList ++ t }
    else none
  else none

/-- The bean findings of one file. -/
def beanFindings (v : ReferenceValidator) (f : JavaFile) : List BrokenReference :=
  (findAll autowiredRe f.content).filterMap (v.beanFinding f)

/-- `validate_spring_beans` (phase 3). -/
def validateSpringBeans (v : ReferenceValidator) (files : Corpus) : ReferenceValidator :=
  { v with report.missingBeans := v.report.missingBeans ++ files.flatMap v.beanFindings }

/-! ## Phase 4: Feign clients -/

/-- The first registered name ending in `.<name>`, in registry order. -/
def resolveFallback (v : ReferenceValidator) (name : Str) : Option Str :=
  v.classRegistry.keys.find? fun cls => endsWith cls ('.' :: name)

/-- The finding, if any, for one item of `feign_clients`. -/
def feignFinding (v : ReferenceValidator) (item : Str × FeignInfo) :
    Option BrokenReference :=
  match search fallbackRe item.2.content with
  | none => none
  | some m =>
    let name := m.grp 1
    match v.resolveFallback name with
    | none =>
      some
        { sourceFile := item.2.file, lineNumber := 1, referenceType := "FEIGN_FALLBACK".toList,
          target := name,
          expected := "Fallback class ".toList ++ name ++ " should exist".toList,
          actual := "Fallback class not found".toList,
          severity := "ERROR".toList, impact := "Circuit breaker will not work".toList,
          recommendedFix := "Create fallback class ".toList ++ name }
    | some fqn =>
      if fqn ∉ v.componentClasses then
        some
          { sourceFile := item.2.file, lineNumber := 1,
            referenceType := "FEIGN_FALLBACK".toList, target := name,
            expected := "Fallback class ".toList ++ name ++ " should be @Component".toList,
            actual := "Missing @Component annotation".toList,
            severity := "ERROR".toList, impact := "Fallback will not be registered".toList,
            recommendedFix := "Add @Component to ".toList ++ name }
      else none

/-- `validate_feign_clients` (phase 4). -/
def validateFeignClients (v : ReferenceValidator) : ReferenceValidator :=
  { v with report.brokenFeignClients :=
      v.report.brokenFeignClients ++ v.feignClients.items.filterMap v.feignFinding }

/-! ## Circular dependencies -/

/-- The names `re.finditer(r'import\s+([\w.]+);', content)` yields, over the whole
text. -/
def importedNames (content : Str) : List Str := (findAll importRe content).map (·.grp 1)

/-- The import edges one file adds to the graph: from its primary type to every
internal, registered name it imports. -/
def fileDependencies (v : ReferenceValidator) (deps : PyDict Str (PySet Str))
    (f : JavaFile) : PyDict Str (PySet Str) :=
  match primaryName f.content with
  | some cur =>
    (importedNames f.content).foldl
      (fun d x => if isIn waqiti x ∧ x ∈ v.classRegistry.keys then d.addTo cur x else d) deps
  | none => deps

/-- The graph `dependencies` of `detect_circular_dependencies`. -/
def dependencyGraph (v : ReferenceValidator) (files : Corpus) : PyDict Str (PySet Str) :=
  files.foldl v.fileDependencies .empty

/-- The nested loop over `dependencies.items()`: every edge `a → b` whose reverse
edge is present. -/
def cyclePairs (deps : PyDict Str (PySet Str)) : List (Str × Str) :=
  deps.items.flatMap fun (a, ds) => (ds.elems.filter fun b => a ∈ deps.members b).map (a, ·)

/-- `detect_circular_dependencies`. -/
def detectCircularDependencies (v : ReferenceValidator) (files : Corpus) :
    ReferenceValidator :=
  { v with report.circularDependencies :=
      v.report.circularDependencies ++ cyclePairs (v.dependencyGraph files) }

/-! ## The report -/

/-- One entry of the `critical_issues`, `errors` and `warnings` arrays. -/
structure IssueEntry where
  source : Str
  line : Nat
  type : Str
  target : Str
  expected : Str
  actual : Str
  impact : Str
  fix : Str
  deriving Repr, DecidableEq

/-- The JSON object of one finding. -/
def BrokenReference.entry (i : BrokenReference) : IssueEntry :=
  ⟨i.sourceFile, i.lineNumber, i.referenceType, i.target, i.expected, i.actual, i.impact,
    i.recommendedFix⟩

/-- `summary`. -/
structure Summary where
  totalIssues : Nat
  critical : Nat
  errors : Nat
  warnings : Nat
  circularDependencies : Nat
  servicesAffected : Nat
  classesScanned : Nat
  deriving Repr, DecidableEq

/-- `by_category`. -/
structure ByCategory where
  brokenImports : Nat
  brokenMethodCalls : Nat
  missingBeans : Nat
  brokenFeignClients : Nat
  deriving Repr, DecidableEq

/-- The dictionary `generate_report` returns. -/
structure Report where
  summary : Summary
  byCategory : ByCategory
  criticalIssues : List IssueEntry
  errors : List IssueEntry
  warnings : List IssueEntry
  circularDependencies : List (Str × Str)
  servicesAffected : List (Str × Nat)
  deriving Repr, DecidableEq

/-- `all_issues`. -/
def ValidationReport.allIssues (r : ValidationReport) : List BrokenReference :=
  r.brokenImports ++ r.brokenMethodCalls ++ r.missingBeans ++ r.brokenFeignClients

/-- An `ERROR` whose impact mentions startup or compilation is critical. -/
def BrokenReference.isCritical (i : BrokenReference) : Bool :=
  isIn "startup".toList (lower i.impact) || isIn "compilation".toList (lower i.impact)

/-- The loop that groups the findings by severity into `critical`, `errors` and
`warnings`. -/
def groupBySeverity : List BrokenReference →
    List BrokenReference × List BrokenReference × List BrokenReference →
    List BrokenReference × List BrokenReference × List BrokenReference
  | [], acc => acc
  | i :: is, (c, e, w) =>
    groupBySeverity is
      (if i.severity = "ERROR".toList then
        if i.isCritical then (c ++ [i], e, w) else (c, e ++ [i], w)
      else (c, e, w ++ [i]))

/-- The loop that counts findings per service directory (`service_issues`). -/
def countByService (issues : List BrokenReference) : PyDict Str Nat :=
  issues.foldl
    (fun d i =>
      match search serviceDirRe i.sourceFile with
      | some m => d.set (m.grp 1) (((d.get? (m.grp 1)).getD 0) + 1)
      | none => d)
    .empty

/-- `sorted(items, key=lambda x: x[1], reverse=True)`: a stable sort, larger counts
first. -/
def sortByCountDesc (items : List (Str × Nat)) : List (Str × Nat) :=
  items.insertionSort fun a b => b.2 ≤ a.2

/-- `generate_report`. -/
def generateReport (v : ReferenceValidator) : Report :=
  let all := v.report.allIssues
  let (critical, errors, warnings) := groupBySeverity all ([], [], [])
  let serviceIssues := countByService all
  { summary :=
      { totalIssues := all.length, critical := critical.length, errors := errors.length,
        warnings := warnings.length,
        circularDependencies := v.report.circularDependencies.length,
        servicesAffected := serviceIssues.keys.length,
        classesScanned := v.classRegistry.keys.length }
    byCategory :=
      { brokenImports := v.report.brokenImports.length,
        brokenMethodCalls := v.report.brokenMethodCalls.length,
        missingBeans := v.report.missingBeans.length,
        brokenFeignClients := v.report.brokenFeignClients.length }
    criticalIssues := (critical.take 50).map (·.entry)
    errors := (errors.take 100).map (·.entry)
    warnings := (warnings.take 100).map (·.entry)
    circularDependencies := v.report.circularDependencies.take 50
    servicesAffected := (sortByCountDesc serviceIssues.items).take 20 }

/-- `run_validation`: all phases on this validator, then the report. The returned
validator is the object's state afterwards. -/
def runValidation (v : ReferenceValidator) (files : Corpus) : ReferenceValidator × Report :=
  let v := v.scanAllClasses files
  let v := v.validateImports files
  let v := v.validateMethodCalls files
  let v := v.validateSpringBeans files
  let v := v.validateFeignClients
  let v := v.detectCircularDependencies files
  (v, v.generateReport)

end ReferenceValidator
