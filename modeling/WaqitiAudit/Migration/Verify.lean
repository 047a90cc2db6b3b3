import WaqitiAudit.Migration.Fixpoint

/-!
# Verifying a migration

`MigrationVerifier` of `src/migration-tools/springboot3/verify-migration.py`.
`verify_migration` walks the Java files as the migrator does and runs `check_file` on
each: the five checks of `Migration/Rewrite`, or a single `file_error` issue when reading
the file raises. It counts files and issues in `stats` and files each issue under its
type in `issues`; `generate_report` writes the counts by type, and `main` exits with
status 1 when an issue was found or when that write raised.

What reading a file gives is a parameter: `readFile` reads the file system, and `fault`
names the files whose read raises (a decoding error, say) with the exception's message.

What is proved:

* **the bookkeeping** — `verifyMigration_eq`: over every walk and whichever reads fail,
  a fresh verifier counts each file, each file with an issue and each issue once, and
  files each issue under its own type, `other_issues` taking the types the `elif` chain
  does not name; `compilation_errors` stays empty;
* **the report adds up** — `issuesByType_sum`: the counts by type that `generate_report`
  writes add up to `total_issues`;
* **the exit status** — `main_exitStatus`: `main` exits with 1 exactly when writing the
  report raises (`generate_report` writes it with no `try`) or some file has an issue;
* **after a migration** — `verifier_after_runMigration`: after `run_migration` without
  dry run, over a project no file of which holds `@Type\s*\(`, under the working directory and
  outside the backup directory, when no file operation fails, the verifier files no
  `javax_import` and no `type_annotation` issue. The invariant `Migrated` says what a
  fault-free run has written after each file.
-/

namespace MigrationVerifier

open PyStr PyRe SpringBoot3Migrator

/-- `self.issues`, the issues by type. -/
structure IssueTable where
  javaxImports : List Issue := []
  typeAnnotations : List Issue := []
  securityDeprecations : List Issue := []
  duplicateImports : List Issue := []
  missingImports : List Issue := []
  compilationErrors : List Issue := []
  otherIssues : List Issue := []
  deriving Repr, DecidableEq

/-- `self.stats`. -/
structure VerifierStats where
  filesChecked : Nat := 0
  filesWithIssues : Nat := 0
  totalIssues : Nat := 0
  deriving Repr, DecidableEq

end MigrationVerifier

open MigrationVerifier in
/-- A `MigrationVerifier` object; its `project_root` is only logged and written to the
report. -/
structure MigrationVerifier where
  issues : IssueTable := {}
  stats : VerifierStats := {}
  deriving Repr, DecidableEq

namespace MigrationVerifier

open PyStr PyRe SpringBoot3Migrator

/-! ## The verifier -/

/-- `find_java_files`, the walk and the filter of `SpringBoot3Migrator.find_java_files`. -/
def findJavaFiles (walk : List Str) : List Str := SpringBoot3Migrator.findJavaFiles walk

/-- `open(file_path, 'r', encoding='utf-8').read()`: the text of the file, or the message
of the exception. -/
def readFile (fs : FileSystem) (fault : Str → Option Str) (p : Str) : Except Str Str :=
  match fault p, fs.files.get? p with
  | some msg, _ => .error msg
  | none, some content => .ok content
  | none, none => .error noSuchFile

/-- `check_file`, given what reading the file gave. -/
def checkFile (p : Str) : Except Str Str → List Issue
  | .ok content =>
    checkJavaxImports p content ++ checkTypeAnnotations p content ++
      checkSecurityDeprecations p content ++ checkDuplicateImports p content ++
      checkMissingImports p content
  | .error msg => [⟨p, 0, "Error reading file: ".toList ++ msg, "file_error".toList⟩]

/-- The `if`/`elif` chain of `verify_migration` that files an issue under its type. -/
def IssueTable.record (t : IssueTable) (issue : Issue) : IssueTable :=
  if issue.type = "javax_import".toList then { t with javaxImports := t.javaxImports ++ [issue] }
  else if issue.type = "type_annotation".toList then
    { t with typeAnnotations := t.typeAnnotations ++ [issue] }
  else if issue.type = "security_deprecation".toList then
    { t with securityDeprecations := t.securityDeprecations ++ [issue] }
  else if issue.type = "duplicate_import".toList then
    { t with duplicateImports := t.duplicateImports ++ [issue] }
  else if issue.type = "missing_import".toList then
    { t with missingImports := t.missingImports ++ [issue] }
  else { t with otherIssues := t.otherIssues ++ [issue] }

/-- One iteration of the loop of `verify_migration`, on the issues `check_file` returned. -/
def checkStep (v : MigrationVerifier) (issues : List Issue) : MigrationVerifier :=
  let v := { v with stats.filesChecked := v.stats.filesChecked + 1 }
  if issues.isEmpty then v
  else
    { issues := issues.foldl IssueTable.record v.issues,
      stats := { v.stats with filesWithIssues := v.stats.filesWithIssues + 1,
                              totalIssues := v.stats.totalIssues + issues.length } }

/-- `verify_migration`, without the report file `generate_report` writes. -/
def verifyMigration (v : MigrationVerifier) (fs : FileSystem) (walk : List Str)
    (fault : Str → Option Str) : MigrationVerifier :=
  (findJavaFiles walk).foldl (fun v p => v.checkStep (checkFile p (readFile fs fault p))) v

/-- `report['issues_by_type']` of `generate_report`, which leaves out
`compilation_errors`. -/
def issuesByType (t : IssueTable) : List (Str × Nat) :=
  [("javax_imports".toList, t.javaxImports.length),
   ("type_annotations".toList, t.typeAnnotations.length),
   ("security_deprecations".toList, t.securityDeprecations.length),
   ("duplicate_imports".toList, t.duplicateImports.length),
   ("missing_imports".toList, t.missingImports.length),
   ("other_issues".toList, t.otherIssues.length)]

/-- The JSON object `generate_report` writes, without its timestamp and project root. -/
structure VerificationReport where
  statistics : VerifierStats
  issuesByType : List (Str × Nat)
  detailedIssues : IssueTable
  deriving Repr, DecidableEq

/-- `generate_report`: it creates `migration-logs` and writes
`migration-logs/verification_report_<timestamp>.json` with no `try`, so the report is
written, or the exception that creating the directory, opening or writing the file
raises, whose message is `writeFault`, leaves it. -/
def generateReport (v : MigrationVerifier) (writeFault : Option Str) :
    Except Str VerificationReport :=
  match writeFault with
  | some msg => .error msg
  | none => .ok ⟨v.stats, issuesByType v.issues, v.issues⟩

/-- `verify_migration` with its last call, `generate_report`: the verifier after the loop
and the report it wrote, or the exception of the write. -/
def verifyMigrationReport (v : MigrationVerifier) (fs : FileSystem) (walk : List Str)
    (fault : Str → Option Str) (writeFault : Option Str) :
    Except Str (MigrationVerifier × VerificationReport) :=
  let v := v.verifyMigration fs walk fault
  (v.generateReport writeFault).map (v, ·)

/-- `main`'s exit status: an exception out of `verify_migration` ends the process with
status 1; otherwise 1 when `total_issues > 0`, else 0. -/
def main (fs : FileSystem) (walk : List Str) (fault : Str → Option Str)
    (writeFault : Option Str) : Nat :=
  match ({} : MigrationVerifier).verifyMigrationReport fs walk fault writeFault with
  | .error _ => 1
  | .ok (v, _) => if 0 < v.stats.totalIssues then 1 else 0

/-! ## What the table should hold -/

/-- The types the `elif` chain names. -/
def namedTypes : List Str :=
  ["javax_import".toList, "type_annotation".toList, "security_deprecation".toList,
    "duplicate_import".toList, "missing_import".toList]

/-- The table of a list of issues: each issue under its type, in order, and the types
the chain does not name under `other_issues`. -/
def IssueTable.ofIssues (l : List Issue) : IssueTable where
  javaxImports := l.filter (·.type == "javax_import".toList)
  typeAnnotations := l.filter (·.type == "type_annotation".toList)
  securityDeprecations := l.filter (·.type == "security_deprecation".toList)
  duplicateImports := l.filter (·.type == "duplicate_import".toList)
  missingImports := l.filter (·.type == "missing_import".toList)
  otherIssues := l.filter fun i => i.type ∉ namedTypes

/-- Two tables, list by list. -/
def IssueTable.append (t u : IssueTable) : IssueTable :=
  ⟨t.javaxImports ++ u.javaxImports, t.typeAnnotations ++ u.typeAnnotations,
    t.securityDeprecations ++ u.securityDeprecations, t.duplicateImports ++ u.duplicateImports,
    t.missingImports ++ u.missingImports, t.compilationErrors ++ u.compilationErrors,
    t.otherIssues ++ u.otherIssues⟩

/-- The number of issues of a table. -/
def IssueTable.size (t : IssueTable) : Nat :=
  t.javaxImports.length + t.typeAnnotations.length + t.securityDeprecations.length +
    t.duplicateImports.length + t.missingImports.length + t.compilationErrors.length +
    t.otherIssues.length

@[simp] theorem IssueTable.empty_append (u : IssueTable) : ({} : IssueTable).append u = u := rfl

@[simp] theorem IssueTable.append_ofIssues_nil (t : IssueTable) :
    t.append (IssueTable.ofIssues []) = t := by
  simp [IssueTable.append, IssueTable.ofIssues]

theorem IssueTable.append_assoc (t u w : IssueTable) :
    (t.append u).append w = t.append (u.append w) := by
  simp [IssueTable.append]

theorem IssueTable.ofIssues_append (l l' : List Issue) :
    IssueTable.ofIssues (l ++ l') = (IssueTable.ofIssues l).append (IssueTable.ofIssues l') := by
  simp [IssueTable.ofIssues, IssueTable.append]

/-- One issue is filed exactly where `ofIssues` puts it. -/
theorem IssueTable.record_eq (t : IssueTable) (i : Issue) :
    t.record i = t.append (IssueTable.ofIssues [i]) := by
  obtain ⟨file, line, msg, ty⟩ := i
  unfold IssueTable.record
  -- each named branch: `ofIssues` of an issue of that literal type evaluates to one list
  by_cases h₁ : ty = "javax_import".toList
  · rw [if_pos h₁]; subst h₁; show _ = t.append { javaxImports := [_] }
    simp only [IssueTable.append, List.append_nil]
  rw [if_neg h₁]
  by_cases h₂ : ty = "type_annotation".toList
  · rw [if_pos h₂]; subst h₂; show _ = t.append { typeAnnotations := [_] }
    simp only [IssueTable.append, List.append_nil]
  rw [if_neg h₂]
  by_cases h₃ : ty = "security_deprecation".toList
  · rw [if_pos h₃]; subst h₃; show _ = t.append { securityDeprecations := [_] }
    simp only [IssueTable.append, List.append_nil]
  rw [if_neg h₃]
  by_cases h₄ : ty = "duplicate_import".toList
  · rw [if_pos h₄]; subst h₄; show _ = t.append { duplicateImports := [_] }
    simp only [IssueTable.append, List.append_nil]
  rw [if_neg h₄]
  by_cases h₅ : ty = "missing_import".toList
  · rw [if_pos h₅]; subst h₅; show _ = t.append { missingImports := [_] }
    simp only [IssueTable.append, List.append_nil]
  rw [if_neg h₅]
  have hty : ty ∉ namedTypes := by
    simp only [namedTypes, List.mem_cons, List.mem_singleton, List.not_mem_nil, or_false, not_or]
    exact ⟨h₁, h₂, h₃, h₄, h₅⟩
  simp only [IssueTable.ofIssues, IssueTable.append, List.filter_cons, List.filter_nil, beq_iff_eq,
    h₁, h₂, h₃, h₄, h₅, hty, decide_eq_true_eq, not_false_eq_true, if_false, if_true,
    List.append_nil]

theorem IssueTable.foldl_record (l : List Issue) (t : IssueTable) :
    l.foldl IssueTable.record t = t.append (IssueTable.ofIssues l) := by
  induction l generalizing t with
  | nil => simp
  | cons i l ih =>
    rw [List.foldl_cons, ih, IssueTable.record_eq, IssueTable.append_assoc,
      ← IssueTable.ofIssues_append, List.singleton_append]

theorem IssueTable.size_record (t : IssueTable) (i : Issue) : (t.record i).size = t.size + 1 := by
  unfold IssueTable.record
  repeat' split
  all_goals simp only [IssueTable.size, List.length_append, List.length_singleton]; omega

theorem IssueTable.size_foldl_record (l : List Issue) (t : IssueTable) :
    (l.foldl IssueTable.record t).size = t.size + l.length := by
  induction l generalizing t with
  | nil => rfl
  | cons i l ih => rw [List.foldl_cons, ih, IssueTable.size_record, List.length_cons]; omega

/-- The table of a list holds each of its issues once. -/
theorem IssueTable.size_ofIssues (l : List Issue) : (IssueTable.ofIssues l).size = l.length := by
  have h := IssueTable.size_foldl_record l {}
  rw [IssueTable.foldl_record, IssueTable.empty_append] at h
  exact h.trans (Nat.zero_add _)

/-! ## The bookkeeping -/

/-- **The loop of `verify_migration`**, over the issue lists of the files in turn. -/
theorem foldl_checkStep : ∀ (rs : List (List Issue)) (v : MigrationVerifier),
    rs.foldl checkStep v =
      ⟨v.issues.append (IssueTable.ofIssues rs.flatten),
        ⟨v.stats.filesChecked + rs.length, v.stats.filesWithIssues + rs.countP (!·.isEmpty),
          v.stats.totalIssues + rs.flatten.length⟩⟩
  | [], v => by simp
  | r :: rs, v => by
    rw [List.foldl_cons, foldl_checkStep rs]
    cases r with
    | nil => simp [checkStep, Nat.add_assoc, Nat.add_comm 1]
    | cons i r =>
      simp only [checkStep, List.isEmpty_cons, Bool.false_eq_true, if_false,
        IssueTable.foldl_record, IssueTable.append_assoc, ← IssueTable.ofIssues_append,
        List.flatten_cons, List.length_cons, List.countP_cons, List.length_append,
        Bool.not_false, if_true]
      congr 2 <;> omega

/-- The issue lists `check_file` returns over a walk. -/
def results (fs : FileSystem) (walk : List Str) (fault : Str → Option Str) : List (List Issue) :=
  (findJavaFiles walk).map fun p => checkFile p (readFile fs fault p)

theorem verifyMigration_eq_foldl (v : MigrationVerifier) (fs : FileSystem) (walk : List Str)
    (fault : Str → Option Str) :
    v.verifyMigration fs walk fault = (results fs walk fault).foldl checkStep v := by
  rw [verifyMigration, results, List.foldl_map]

/-- **The bookkeeping of `verify_migration`.** From a fresh verifier, over every walk and
whichever reads fail, `files_checked` is the number of files, `files_with_issues` the
number of files with an issue and `total_issues` the number of issues, and the table
holds every issue under its type, in order. -/
theorem verifyMigration_eq (fs : FileSystem) (walk : List Str) (fault : Str → Option Str) :
    ({} : MigrationVerifier).verifyMigration fs walk fault =
      ⟨IssueTable.ofIssues (results fs walk fault).flatten,
        ⟨(results fs walk fault).length, (results fs walk fault).countP (!·.isEmpty),
          (results fs walk fault).flatten.length⟩⟩ := by
  rw [verifyMigration_eq_foldl, foldl_checkStep]
  simp only [IssueTable.empty_append, Nat.zero_add]

theorem sum_issuesByType (t : IssueTable) :
    ((issuesByType t).map (·.2)).sum = t.size - t.compilationErrors.length := by
  simp only [issuesByType, IssueTable.size, List.map_cons, List.map_nil, List.sum_cons,
    List.sum_nil]
  omega

/-- **The report adds up.** The counts by type that `generate_report` writes add up to
`total_issues`, for every walk and whichever reads fail. -/
theorem issuesByType_sum (fs : FileSystem) (walk : List Str) (fault : Str → Option Str) :
    ((issuesByType (({} : MigrationVerifier).verifyMigration fs walk fault).issues).map
        (·.2)).sum = (({} : MigrationVerifier).verifyMigration fs walk fault).stats.totalIssues := by
  rw [verifyMigration_eq_foldl, foldl_checkStep]
  dsimp only
  rw [sum_issuesByType, IssueTable.empty_append, IssueTable.size_ofIssues, Nat.zero_add]
  rfl

/-- **The exit status.** `main` exits with 1 exactly when writing the report raises or
`check_file` reports an issue for some file of the walk, and with 0 otherwise. -/
theorem main_exitStatus (fs : FileSystem) (walk : List Str) (fault : Str → Option Str)
    (writeFault : Option Str) :
    main fs walk fault writeFault =
      if writeFault.isSome ∨ ∃ p ∈ findJavaFiles walk, checkFile p (readFile fs fault p) ≠ []
      then 1 else 0 := by
  have hpos : 0 < (results fs walk fault).flatten.length ↔
      ∃ p ∈ findJavaFiles walk, checkFile p (readFile fs fault p) ≠ [] := by
    rw [List.length_pos, ne_eq, List.flatten_eq_nil_iff]
    simp [results]
  cases writeFault with
  | some msg => rfl
  | none =>
    simp only [main, verifyMigrationReport, generateReport, Except.map, Option.isSome_none,
      Bool.false_eq_true, false_or, ← hpos, verifyMigration_eq_foldl, foldl_checkStep,
      Nat.zero_add]

/-! ## After a migration -/

/-- The issues of one check carry its type. -/
theorem type_of_mem_patternIssues {patterns : List (Regex × Str)} {type p c : Str} {i : Issue}
    (h : i ∈ patternIssues patterns type p c) : i.type = type := by
  simp only [patternIssues, List.mem_flatMap, List.mem_map] at h
  obtain ⟨_, _, _, _, rfl⟩ := h
  rfl

theorem type_of_mem_checkDuplicateImports {p c : Str} {i : Issue}
    (h : i ∈ checkDuplicateImports p c) : i.type = "duplicate_import".toList := by
  unfold checkDuplicateImports at h
  dsimp only at h
  split at h
  · cases h
  · rw [List.mem_singleton.mp h]

theorem type_of_mem_checkMissingImports {p c : Str} {i : Issue}
    (h : i ∈ checkMissingImports p c) : i.type = "missing_import".toList := by
  unfold checkMissingImports at h
  rcases List.mem_append.mp h with h | h <;> split at h <;> simp_all

/-- On a migrated text, `check_file` reports only security deprecations, duplicate and
missing imports. -/
theorem type_of_mem_checkFile_migrated {original p : Str} (h : ¬ typeSourceHead <:+: original)
    {i : Issue}
    (hi : i ∈ checkFile p (.ok (migrateContent original).content)) :
    i.type = "security_deprecation".toList ∨ i.type = "duplicate_import".toList ∨
      i.type = "missing_import".toList := by
  simp only [checkFile, checkJavaxImports_after_migration h, checkTypeAnnotations_after_migration h,
    List.nil_append, List.mem_append] at hi
  rcases hi with (hi | hi) | hi
  · exact .inl (type_of_mem_patternIssues hi)
  · exact .inr (.inl (type_of_mem_checkDuplicateImports hi))
  · exact .inr (.inr (type_of_mem_checkMissingImports hi))

end MigrationVerifier

/-! ## A fault-free run of the migrator -/

namespace SpringBoot3Migrator

open PyStr PyRe

/-- A pattern loop that ends with `modified` unset changed nothing. -/
theorem rewritePass_of_modified_eq_false {rs : List Rewrite} {c : Str} {m : Bool}
    (h : (rewritePass rs c m).modified = false) : (rewritePass rs c m).content = c ∧ m = false := by
  suffices ∀ (rs : List Rewrite) (p : Pass), (rs.foldl rewriteStep p).modified = false →
      (rs.foldl rewriteStep p).content = p.content ∧ p.modified = false from this rs _ h
  intro rs
  induction rs with
  | nil => exact fun p hp => ⟨rfl, hp⟩
  | cons r rs ih =>
    intro p hp
    obtain ⟨hc, hm⟩ := ih (rewriteStep p r) hp
    rw [List.foldl_cons, hc]
    dsimp only [rewriteStep] at hm ⊢
    split at hm
    · cases hm
    · rename_i hne
      rw [if_neg hne]
      exact ⟨rfl, hm⟩

/-- A migration that changes nothing changes no text. -/
theorem content_of_modified_eq_false {c : Str} (h : (migrateContent c).modified = false) :
    (migrateContent c).content = c := by
  unfold migrateContent at h ⊢
  dsimp only at h ⊢
  obtain ⟨hs, hts⟩ := rewritePass_of_modified_eq_false h
  obtain ⟨ht, hjt⟩ := rewritePass_of_modified_eq_false hts
  obtain ⟨hj, -⟩ := rewritePass_of_modified_eq_false hjt
  rw [hs, hts, Bool.false_and, if_neg Bool.false_ne_true, ht, hj]

/-- `migrate_file` keeps the working directory, the dry-run flag and the backup
directory. -/
theorem migrateFile_frame (m : SpringBoot3Migrator) (p : Str) (fault : Fault) :
    (m.migrateFile p fault).1.cwd = m.cwd ∧ (m.migrateFile p fault).1.dryRun = m.dryRun ∧
      (m.migrateFile p fault).1.backup.backupDir = m.backup.backupDir := by
  unfold SpringBoot3Migrator.migrateFile
  split
  · exact ⟨rfl, rfl, rfl⟩
  · exact ⟨rfl, rfl, rfl⟩
  · rename_i original _ _
    generalize migrateContent original = r
    dsimp only
    split
    · split
      · rename_i hb
        obtain ⟨-, -, -, rfl, rfl⟩ := MigrationBackup.backupFile_eq_some hb
        split <;> exact ⟨rfl, rfl, rfl⟩
      · rename_i hb
        obtain ⟨rfl, -⟩ := MigrationBackup.backupFile_eq_none hb
        exact ⟨rfl, rfl, rfl⟩
    · exact ⟨rfl, rfl, rfl⟩

/-- `migrate_file` when no operation fails, on a file that exists and has a backup path. -/
theorem files_migrateFile_none {m : SpringBoot3Migrator} {p original bp : Str}
    (hget : m.fs.files.get? p = some original)
    (hbp : backupPathOf m.cwd m.backup.backupDir p = some bp) (hdry : m.dryRun = false) :
    (m.migrateFile p .none).1.fs.files =
      if (migrateContent original).modified then
        (m.fs.files.set bp original).set p (migrateContent original).content
      else m.fs.files := by
  unfold SpringBoot3Migrator.migrateFile
  rw [hget]
  dsimp only
  rw [hdry, Bool.not_false, Bool.and_true]
  split
  · simp only [MigrationBackup.backupFile, hbp, hget]
  · rfl

section Migrated

variable (pre : PyDict Str Str) (cwd d : Str)

/-- What a run in which every file operation succeeds has written after the files
`done`, against the files `pre` before the run: outside the backup directory `d`, a
processed file holds the text `migrate_file` computes from its content before the run,
and every other file is as before. -/
structure Migrated (done : List Str) (m : SpringBoot3Migrator) : Prop where
  cwd : m.cwd = cwd
  dryRun : m.dryRun = false
  dir : m.backup.backupDir = d
  files : ∀ q, underDir d q = false → m.fs.files.get? q =
    if q ∈ done then (pre.get? q).map fun c => (migrateContent c).content else pre.get? q

variable {pre cwd d} {done : List Str} {m : SpringBoot3Migrator}

/-- The file `p` now holds its migrated text, and nothing else outside `d` changed. -/
theorem Migrated.next (h : Migrated pre cwd d done m) {p : Str} {m' : SpringBoot3Migrator}
    (hc : m'.cwd = cwd) (hdry : m'.dryRun = false) (hdir : m'.backup.backupDir = d)
    (hf : ∀ q, underDir d q = false → m'.fs.files.get? q =
      if p = q then (pre.get? p).map (fun c => (migrateContent c).content)
      else m.fs.files.get? q) :
    Migrated pre cwd d (p :: done) m' := by
  refine ⟨hc, hdry, hdir, fun q hq => ?_⟩
  rw [hf q hq]
  by_cases hpq : p = q
  · subst hpq; simp
  · rw [if_neg hpq, h.files q hq]
    simp [List.mem_cons, Ne.symm hpq]

/-- One call of `migrate_file` in which no operation fails, on a file not yet processed,
outside the backup directory and under the working directory. -/
theorem Migrated.migrateFile (h : Migrated pre cwd d done m) {p : Str} (hp : p ∉ done)
    (hd : underDir d p = false) (hcwd : underDir cwd p = true) :
    Migrated pre cwd d (p :: done) (m.migrateFile p .none).1 := by
  have hpre : m.fs.files.get? p = pre.get? p := by rw [h.files p hd, if_neg hp]
  obtain ⟨hc, hdry, hdir⟩ := migrateFile_frame m p .none
  refine h.next (hc.trans h.cwd) (hdry.trans h.dryRun) (hdir.trans h.dir) fun q hq => ?_
  rw [← hpre]
  cases hget : m.fs.files.get? p with
  | none =>
    -- a missing file: `migrate_file` reports it and writes nothing
    have hm : (m.migrateFile p .none).1 = m := by
      unfold SpringBoot3Migrator.migrateFile
      rw [hget]
    rw [hm]
    split
    · subst_vars; exact hget
    · rfl
  | some original =>
    have hbp : backupPathOf m.cwd m.backup.backupDir p =
        some (d ++ '/' :: p.drop (cwd.length + 1)) := by
      simp [backupPathOf, relativeTo, h.cwd, h.dir, hcwd]
    rw [files_migrateFile_none hget hbp h.dryRun, Option.map_some']
    split
    · -- the backup goes into `d`, the migrated text over the file
      simp only [PyDict.get?_set]
      split
      · rfl
      · rw [if_neg (ne_of_underDir (underDir_of_backupPathOf (h.dir ▸ hbp)) hq)]
    · rename_i hmod
      split
      · subst_vars
        rw [hget, content_of_modified_eq_false (by simpa using hmod)]
      · rfl

theorem Migrated.runStep (h : Migrated pre cwd d done m) {p : Str} (hp : p ∉ done)
    (hd : underDir d p = false) (hcwd : underDir cwd p = true) :
    Migrated pre cwd d (p :: done) (m.runStep p .none) := by
  have h' : Migrated pre cwd d done { m with stats.filesProcessed := m.stats.filesProcessed + 1 } :=
    ⟨h.cwd, h.dryRun, h.dir, h.files⟩
  have hm := h'.migrateFile hp hd hcwd
  obtain ⟨hc, hdry, hb, hf⟩ := recordOutcome_frame
    ({ m with stats.filesProcessed := m.stats.filesProcessed + 1 }.migrateFile p .none).1 p
    ({ m with stats.filesProcessed := m.stats.filesProcessed + 1 }.migrateFile p .none).2.1
    ({ m with stats.filesProcessed := m.stats.filesProcessed + 1 }.migrateFile p .none).2.2
  exact ⟨hc.trans hm.cwd, hdry.trans hm.dryRun, hb ▸ hm.dir, fun q hq => hf ▸ hm.files q hq⟩

/-- **The invariant of a fault-free run**, over distinct files outside the backup
directory and under the working directory, none processed before. -/
theorem Migrated.processFiles : ∀ (files done : List Str) (m : SpringBoot3Migrator),
    Migrated pre cwd d done m → files.Nodup →
    (∀ p ∈ files, p ∉ done ∧ underDir d p = false ∧ underDir cwd p = true) →
    Migrated pre cwd d (files.reverse ++ done) (m.processFiles files fun _ => .none)
  | [], _, _, h, _, _ => h
  | p :: files, done, m, h, hn, hf => by
    have hp := hf p (List.mem_cons_self _ _)
    have hn := List.nodup_cons.mp hn
    rw [List.reverse_cons, List.append_assoc]
    exact Migrated.processFiles files (p :: done) _ (h.runStep hp.1 hp.2.1 hp.2.2) hn.2
      fun q hq => ⟨List.not_mem_cons_of_ne_of_not_mem (fun e => hn.1 (e ▸ hq))
        (hf q (List.mem_cons_of_mem _ hq)).1, (hf q (List.mem_cons_of_mem _ hq)).2⟩

end Migrated

/-- After a fault-free `run_migration` without dry run, every walked Java file holds its
migrated text, when the walk lists each file once, under the working directory and
outside the backup directory. -/
theorem get?_runMigration {cwd d : Str} {fs : FileSystem} {walk : List Str} (hnodup : walk.Nodup)
    (hsep : ∀ p ∈ walk, underDir d p = false) (hcwd : ∀ p ∈ walk, underDir cwd p = true)
    {p : Str} (hp : p ∈ findJavaFiles walk) :
    ((init cwd d false fs).runMigration walk fun _ => .none).fs.files.get? p =
      (fs.files.get? p).map fun c => (migrateContent c).content := by
  have hw : p ∈ walk := List.mem_of_mem_filter hp
  have h := Migrated.processFiles (findJavaFiles walk) [] (init cwd d false fs)
    ⟨rfl, rfl, rfl, fun _ _ => rfl⟩ (hnodup.filter _)
    fun q hq => ⟨List.not_mem_nil q, hsep q (List.mem_of_mem_filter hq),
      hcwd q (List.mem_of_mem_filter hq)⟩
  simp only [runMigration, h.dryRun, Bool.not_false, if_true]
  rw [MigrationBackup.saveManifest, h.files p (hsep p hw), if_pos (by simpa using hp)]
  rfl

end SpringBoot3Migrator

namespace MigrationVerifier

open PyStr SpringBoot3Migrator

/-- **After a migration.** Run `run_migration` without dry run on a project whose walked
files lie under the working directory and outside the backup directory and none of whose
files holds `@Type\s*\(`, with no file operation failing; then `verify_migration` over the same
walk, whichever of its reads fail, files no `javax_import` and no `type_annotation`
issue. -/
theorem verifier_after_runMigration (cwd d : Str) (fs : FileSystem) (walk : List Str)
    (hnodup : walk.Nodup) (hsep : ∀ p ∈ walk, underDir d p = false)
    (hcwd : ∀ p ∈ walk, underDir cwd p = true)
    (hb : ∀ kv ∈ fs.files.items, ¬ typeSourceHead <:+: kv.2)
    (fault : Str → Option Str) :
    (({} : MigrationVerifier).verifyMigration
        ((init cwd d false fs).runMigration walk fun _ => .none).fs walk fault).issues.javaxImports = [] ∧
      (({} : MigrationVerifier).verifyMigration
        ((init cwd d false fs).runMigration walk fun _ => .none).fs walk fault).issues.typeAnnotations = [] := by
  have htype : ∀ r ∈ results ((init cwd d false fs).runMigration walk fun _ => .none).fs walk fault,
      ∀ i ∈ r, i.type ∉ ["javax_import".toList, "type_annotation".toList] := by
    intro r hr i hi
    obtain ⟨p, hp, rfl⟩ := List.mem_map.mp hr
    unfold readFile at hi
    rw [get?_runMigration hnodup hsep hcwd hp] at hi
    split at hi
    · rw [List.mem_singleton.mp hi]; show "file_error".toList ∉ _; decide
    · rename_i c hc
      obtain ⟨original, ho, rfl⟩ := Option.map_eq_some'.mp hc
      rcases type_of_mem_checkFile_migrated (hb _ ((PyDict.mem_items_iff _).mpr ho)) hi with
        h | h | h <;> rw [h] <;> decide
    · rw [List.mem_singleton.mp hi]; show "file_error".toList ∉ _; decide
  rw [verifyMigration_eq_foldl, foldl_checkStep]
  dsimp only
  rw [IssueTable.empty_append]
  constructor <;>
  · refine List.filter_eq_nil_iff.mpr fun i hi => ?_
    obtain ⟨r, hr, hi⟩ := List.mem_flatten.mp hi
    have := htype r hr i hi
    simp_all

theorem verifier_after_runMigration_legacyProject :
    ["/w/src/Doc.java".toList].Nodup ∧
      (∀ p ∈ ["/w/src/Doc.java".toList], underDir "/w/backups".toList p = false) ∧
      (∀ p ∈ ["/w/src/Doc.java".toList], underDir "/w".toList p = true) ∧
      (∀ kv ∈ legacyProject.files.items, ¬ typeSourceHead <:+: kv.2) ∧
      (({} : MigrationVerifier).verifyMigration
          ((init "/w".toList "/w/backups".toList false legacyProject).runMigration
            ["/w/src/Doc.java".toList] fun _ => .none).fs
          ["/w/src/Doc.java".toList] fun _ => none).issues.javaxImports = [] ∧
      (({} : MigrationVerifier).verifyMigration
          ((init "/w".toList "/w/backups".toList false legacyProject).runMigration
            ["/w/src/Doc.java".toList] fun _ => .none).fs
          ["/w/src/Doc.java".toList] fun _ => none).issues.typeAnnotations = [] :=
  ⟨by decide, by decide, by decide, typeSourceHead_legacyProject,
    verifier_after_runMigration _ _ _ _ (by decide) (by decide) (by decide)
      typeSourceHead_legacyProject _⟩

end MigrationVerifier
