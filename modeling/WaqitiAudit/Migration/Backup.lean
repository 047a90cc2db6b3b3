import WaqitiAudit.Migration.Rewrite

/-!
# The Spring Boot 3 migration: backups, the manifest and rollback

`MigrationBackup`, `SpringBoot3Migrator.run_migration`
(`src/migration-tools/springboot3/migrate-to-springboot3.py`) and `MigrationRollback`
(`src/migration-tools/springboot3/rollback-migration.py`) as operations on a file
system. A run walks the Java files once; for each file `migrate_file` computes the new
text and, when it changed, copies the file into the backup directory, records the copy
in the in-memory `backup_manifest` and writes the new text. Only at the end of the run
does `save_manifest` persist the manifest, which is what the rollback script reads.

The file operations can fail. `Fault` says, for each file, which operation raises:
reading the file, the copy (after writing part of the backup), or the write (after
writing part of the new text).

What is proved:

* **the in-memory invariant** — `Safe` and `processFiles_safe`: at every point of every
  run, whichever operations fail, every file outside the backup directory that differs
  from its content before the run has an entry in `backup_manifest`, whose backup holds
  that content;
* **a completed run** — `completedRun_manifest`: after `run_migration` the persisted
  manifest names every changed file, and each backup it names holds the content before
  the run; `runMigration_backup_contract` states this with the invariant of every
  prefix of the run;
* **a stopped run** — `stopped_run_not_persisted`: a run stopped after its first file
  has changed that file and persisted no manifest;
* **the rollback script** — `rollbackScript` cannot run on Python 3.13 and earlier:
  `rollback-migration.py` annotates its methods with `Dict` and `List` without importing
  them, so defining `MigrationRollback` raises `NameError`. Where annotations are not
  evaluated, and run from the working directory of the migration (the manifest holds
  backup paths relative to it), `run_rollback` restores every file outside the backup
  directory (`completedRun_rollback`).
-/

open PyStr PyRe ReferenceValidator

/-- The files and directories the scripts see, by resolved path. `manifests` holds each
`backup_manifest.json` written, as the dictionary `json.load` reads back from it. -/
structure FileSystem where
  files : PyDict Str Str
  dirs : PySet Str
  manifests : PyDict Str (PyDict Str Str)

/-- `p` lies inside the directory `d`. -/
def underDir (d p : Str) : Bool := (d ++ ['/']).isPrefixOf p

/-- `p.relative_to(cwd)`; `none` where Python raises. -/
def relativeTo (cwd p : Str) : Option Str :=
  if underDir cwd p then some (p.drop (cwd.length + 1)) else none

/-- `backup_dir / file_path.relative_to(Path.cwd())`. -/
def backupPathOf (cwd backupDir p : Str) : Option Str :=
  (relativeTo cwd p).map (backupDir ++ '/' :: ·)

/-- `backup_dir / "backup_manifest.json"`. -/
def manifestPath (backupDir : Str) : Str := backupDir ++ "/backup_manifest.json".toList

/-- What goes wrong while one file is processed. -/
inductive Fault where
  /-- Every operation succeeds. -/
  | none
  /-- Reading the file raises. -/
  | readFails (msg : Str)
  /-- `shutil.copy2` raises after writing the first `written` characters of the backup. -/
  | copyFails (written : Nat)
  /-- `f.write` raises after writing the first `written` characters of the new text. -/
  | writeFails (written : Nat) (msg : Str)
  deriving Repr, DecidableEq

/-- A `MigrationBackup`: its directory and `backup_manifest`, of which the scripts only
ever read back the `backup_path` of an entry. -/
structure MigrationBackup where
  backupDir : Str
  backupManifest : PyDict Str Str := .empty

namespace MigrationBackup

/-- `backup_file`: the backup path, if the copy succeeded. -/
def backupFile (b : MigrationBackup) (cwd : Str) (fs : FileSystem) (p : Str) (fault : Fault) :
    Option Str × MigrationBackup × FileSystem :=
  match backupPathOf cwd b.backupDir p, fs.files.get? p with
  | some backupPath, some bytes =>
    match fault with
    | .copyFails n => (none, b, { fs with files := fs.files.set backupPath (bytes.take n) })
    | _ => (some backupPath, { b with backupManifest := b.backupManifest.set p backupPath },
        { fs with files := fs.files.set backupPath bytes })
  | _, _ => (none, b, fs)

/-- `restore_file`. -/
def restoreFile (b : MigrationBackup) (fs : FileSystem) (p : Str) : Bool × FileSystem :=
  match b.backupManifest.get? p with
  | some backupPath =>
    match fs.files.get? backupPath with
    | some c => (true, { fs with files := fs.files.set p c })
    | none => (false, fs)
  | none => (false, fs)

/-- `save_manifest`. -/
def saveManifest (b : MigrationBackup) (fs : FileSystem) : FileSystem :=
  { fs with manifests := fs.manifests.set (manifestPath b.backupDir) b.backupManifest }

end MigrationBackup

namespace SpringBoot3Migrator

/-- `migration_stats`. -/
structure MigrationStats where
  filesProcessed : Nat := 0
  filesModified : Nat := 0
  filesFailed : Nat := 0
  javaxImportsFixed : Nat := 0
  typeAnnotationsFixed : Nat := 0
  securityConfigsFixed : Nat := 0
  errors : List Str := []

end SpringBoot3Migrator

open SpringBoot3Migrator in
/-- A `SpringBoot3Migrator` object, together with the working directory it runs in and
the file system it acts on. -/
structure SpringBoot3Migrator where
  cwd : Str
  dryRun : Bool
  backup : MigrationBackup
  stats : MigrationStats := {}
  fs : FileSystem

namespace SpringBoot3Migrator

/-- `SpringBoot3Migrator(project_root, dry_run)`, whose `backups/migration_<timestamp>`
resolves to `backupDir` in the working directory `cwd`; the constructor of
`MigrationBackup` creates that directory. The model keeps every path resolved: the backup
paths of the manifest are written as `backups/migration_<timestamp>/<relative path>`,
relative to `cwd`. -/
def init (cwd backupDir : Str) (dryRun : Bool) (fs : FileSystem) : SpringBoot3Migrator :=
  { cwd, dryRun, backup := { backupDir }, fs := { fs with dirs := fs.dirs.add backupDir } }

/-- `f"Error processing {file_path}: {str(e)}"`. -/
def errorProcessing (p msg : Str) : Str := "Error processing ".toList ++ p ++ ": ".toList ++ msg

/-- The message of the exception `open` raises on a missing file. -/
def noSuchFile : Str := "[Errno 2] No such file or directory".toList

/-- The counters `migrate_file` increments while it rewrites. -/
def MigrationStats.count (s : MigrationStats) (r : Migration) : MigrationStats :=
  { s with javaxImportsFixed := s.javaxImportsFixed + r.javaxImportsFixed,
           typeAnnotationsFixed := s.typeAnnotationsFixed + r.typeAnnotationsFixed,
           securityConfigsFixed := s.securityConfigsFixed + r.securityConfigsFixed }

/-- `migrate_file`: the object afterwards, `modified`, and `errors`. -/
def migrateFile (m : SpringBoot3Migrator) (p : Str) (fault : Fault) :
    SpringBoot3Migrator × Bool × List Str :=
  match fault, m.fs.files.get? p with
  | .readFails msg, _ => (m, false, [errorProcessing p msg])
  | _, none => (m, false, [errorProcessing p noSuchFile])
  | _, some original =>
    let r := migrateContent original
    let m := { m with stats := m.stats.count r }
    if r.modified && !m.dryRun then
      match m.backup.backupFile m.cwd m.fs p fault with
      | (some _, b, fs) =>
        match fault with
        | .writeFails n msg =>
          ({ m with backup := b, fs := { fs with files := fs.files.set p (r.content.take n) } },
            false, [errorProcessing p msg])
        | _ => ({ m with backup := b, fs := { fs with files := fs.files.set p r.content } }, true, [])
      | (none, b, fs) => ({ m with backup := b, fs }, false, ["Failed to backup file: ".toList ++ p])
    else (m, r.modified, [])

/-- `import\s+javax\.(persistence|validation|servlet|annotation)\.` -/
def remainingJavaxRe : Regex :=
  seqs [lit "import".toList, plus space, lit "javax.".toList,
    .group 1 (alts [lit "persistence".toList, lit "validation".toList, lit "servlet".toList,
      lit "annotation".toList]), chr '.']

/-- `str(set(names))`, listing each name once. -/
def setRepr (names : List Str) : Str :=
  '\x7b' :: ", ".toList.intercalate (names.dedup.map fun n => '\x27' :: n ++ ['\x27']) ++ ['\x7d']

/-- `validate_migration`. -/
def validateMigration (fs : FileSystem) (p : Str) : List Str :=
  match fs.files.get? p with
  | none => ["Validation error for ".toList ++ p ++ ": ".toList ++ noSuchFile]
  | some content =>
    let imports := findAllGroup importRe content
    let duplicates := imports.filter fun imp => imports.count imp > 1
    (if (search remainingJavaxRe content).isSome then
      ["File still contains javax imports: ".toList ++ p] else []) ++
    (if (search typeUseRe content).isSome then
      ["File still contains @Type annotations: ".toList ++ p] else []) ++
    (if duplicates.isEmpty then [] else ["File contains duplicate imports: ".toList ++ setRepr duplicates])

/-- The bookkeeping of `run_migration` after `migrate_file` returned `modified` and
`errors`. -/
def recordOutcome (m : SpringBoot3Migrator) (p : Str) (modified : Bool) (errors : List Str) :
    SpringBoot3Migrator :=
  let m :=
    if modified then
      let m := { m with stats.filesModified := m.stats.filesModified + 1 }
      if !m.dryRun then { m with stats.errors := m.stats.errors ++ validateMigration m.fs p } else m
    else m
  if errors.isEmpty then m
  else { m with stats.filesFailed := m.stats.filesFailed + 1, stats.errors := m.stats.errors ++ errors }

/-- One iteration of the loop of `run_migration`. -/
def runStep (m : SpringBoot3Migrator) (p : Str) (fault : Fault) : SpringBoot3Migrator :=
  let r := { m with stats.filesProcessed := m.stats.filesProcessed + 1 }.migrateFile p fault
  recordOutcome r.1 p r.2.1 r.2.2

/-- `find_java_files` over the paths `rglob("*.java")` yields. -/
def findJavaFiles (walk : List Str) : List Str :=
  walk.filter fun p => !isIn "/test/".toList p && !isIn "/target/".toList p

/-- The loop of `run_migration` over `files`; stopping the process after `k` files leaves
`m.processFiles (files.take k) fault`. -/
def processFiles (m : SpringBoot3Migrator) (files : List Str) (fault : Str → Fault) :
    SpringBoot3Migrator :=
  files.foldl (fun m p => m.runStep p (fault p)) m

/-- `run_migration`, without the report it writes to the log directory. -/
def runMigration (m : SpringBoot3Migrator) (walk : List Str) (fault : Str → Fault) :
    SpringBoot3Migrator :=
  let m := m.processFiles (findJavaFiles walk) fault
  if !m.dryRun then { m with fs := m.backup.saveManifest m.fs } else m

end SpringBoot3Migrator

/-- `rollback_stats`. -/
structure RollbackStats where
  filesRestored : Nat := 0
  filesFailed : Nat := 0
  errors : List Str := []

namespace MigrationRollback

/-- `load_manifest`: `{}` when the file cannot be read. -/
def loadManifest (fs : FileSystem) (backupDir : Str) : PyDict Str Str :=
  (fs.manifests.get? (manifestPath backupDir)).getD .empty

/-- `rollback_file`: the file system afterwards, if the backup exists. -/
def rollbackFile (fs : FileSystem) (originalPath backupPath : Str) : Option FileSystem :=
  (fs.files.get? backupPath).map fun c => { fs with files := fs.files.set originalPath c }

/-- One iteration of the loop of `run_rollback`. -/
def rollbackStep (acc : FileSystem × RollbackStats) (entry : Str × Str) :
    FileSystem × RollbackStats :=
  let (fs, st) := acc
  match rollbackFile fs entry.1 entry.2 with
  | some fs' => (fs', { st with filesRestored := st.filesRestored + 1 })
  | none =>
    (fs, { st with filesFailed := st.filesFailed + 1
                   errors := st.errors ++ ["Failed to restore: ".toList ++ entry.1] })

/-- `MigrationRollback(backup_dir).run_rollback()`. -/
def runRollback (fs : FileSystem) (backupDir : Str) : FileSystem × RollbackStats :=
  if backupDir ∉ fs.dirs then (fs, {})
  else
    let manifest := loadManifest fs backupDir
    if manifest.items.isEmpty then (fs, {}) else manifest.items.foldl rollbackStep (fs, {})

/-- The exception the definition of `MigrationRollback` raises where annotations are
evaluated: `load_manifest`, `rollback_file` and `run_rollback` are annotated with `Dict`,
which the script never imports from `typing`. -/
def dictNameError : Str := "NameError: name 'Dict' is not defined".toList

/-- `rollback-migration.py --backup-dir <backupDir>`, run in the directory the paths are
resolved against. An interpreter that evaluates annotations when it runs a `def` (Python
3.13 and earlier) raises while it defines the class, before `main`; one that defers them
runs `run_rollback`. -/
def rollbackScript (eagerAnnotations : Bool) (fs : FileSystem) (backupDir : Str) :
    Except Str (FileSystem × RollbackStats) :=
  if eagerAnnotations then .error dictNameError else .ok (runRollback fs backupDir)

end MigrationRollback

/-! ## Paths -/

theorem underDir_of_backupPathOf {cwd d p bp : Str} (h : backupPathOf cwd d p = some bp) :
    underDir d bp = true := by
  obtain ⟨r, -, rfl⟩ := Option.map_eq_some'.mp h
  exact List.isPrefixOf_iff_prefix.mpr ⟨r, by simp⟩

theorem ne_of_underDir {d p q : Str} (hp : underDir d p = true) (hq : underDir d q = false) :
    p ≠ q := by
  rintro rfl
  rw [hp] at hq
  cases hq

/-- A backup never overwrites a file outside the backup directory. -/
theorem ne_of_backupPathOf {cwd d p bp q : Str} (h : backupPathOf cwd d p = some bp)
    (hq : underDir d q = false) : bp ≠ q :=
  ne_of_underDir (underDir_of_backupPathOf h) hq

theorem eq_append_drop_of_underDir {d p : Str} (h : underDir d p = true) :
    p = (d ++ ['/']) ++ p.drop (d.length + 1) := by
  obtain ⟨t, rfl⟩ := List.isPrefixOf_iff_prefix.mp h
  simp

/-- Distinct files have distinct backups. -/
theorem backupPathOf_inj {cwd d p q bp : Str} (hp : backupPathOf cwd d p = some bp)
    (hq : backupPathOf cwd d q = some bp) : p = q := by
  unfold backupPathOf relativeTo at hp hq
  split at hp <;> split at hq <;> simp at hp hq
  rename_i hp' hq'
  rw [eq_append_drop_of_underDir hp', eq_append_drop_of_underDir hq']
  have := hp.trans hq.symm
  simp only [List.append_cancel_left_eq, List.cons.injEq, true_and] at this
  rw [this]

namespace MigrationBackup

theorem backupFile_eq_some {b b' : MigrationBackup} {cwd p bp : Str} {fs fs' : FileSystem}
    {fault : Fault} (h : b.backupFile cwd fs p fault = (some bp, b', fs')) :
    backupPathOf cwd b.backupDir p = some bp ∧ ∃ bytes, fs.files.get? p = some bytes ∧
      b' = { b with backupManifest := b.backupManifest.set p bp } ∧
      fs' = { fs with files := fs.files.set bp bytes } := by
  unfold backupFile at h
  split at h
  · rename_i bp₀ bytes hbp hby
    split at h
    · simp at h
    · simp only [Prod.mk.injEq, Option.some.injEq] at h
      obtain ⟨rfl, rfl, rfl⟩ := h
      exact ⟨hbp, bytes, hby, rfl, rfl⟩
  · simp at h

theorem backupFile_eq_none {b b' : MigrationBackup} {cwd p : Str} {fs fs' : FileSystem}
    {fault : Fault} (h : b.backupFile cwd fs p fault = (none, b', fs')) :
    b' = b ∧ (fs' = fs ∨ ∃ bp c, backupPathOf cwd b.backupDir p = some bp ∧
      fs' = { fs with files := fs.files.set bp c }) := by
  unfold backupFile at h
  split at h
  · rename_i bp₀ bytes hbp _
    split at h
    · simp only [Prod.mk.injEq, true_and] at h
      obtain ⟨rfl, rfl⟩ := h
      exact ⟨rfl, .inr ⟨bp₀, _, hbp, rfl⟩⟩
    · simp at h
  · simp only [Prod.mk.injEq, true_and] at h
    obtain ⟨rfl, rfl⟩ := h
    exact ⟨rfl, .inl rfl⟩

end MigrationBackup

/-! ## The invariant of a run -/

namespace SpringBoot3Migrator

open MigrationBackup

section Invariant

variable (pre : PyDict Str Str) (d : Str)

/-- The invariant of a run in which the files `done` have been processed, against the
files `pre` before the run and the backup directory `d`: files outside `d` that were not
processed are as before; a file outside `d` that changed has an entry in
`backup_manifest`; and each entry is a processed file outside `d` whose backup path
holds its content before the run. -/
structure Safe (done : List Str) (m : SpringBoot3Migrator) : Prop where
  dir : m.backup.backupDir = d
  dirExists : d ∈ m.fs.dirs
  untouched : ∀ q, underDir d q = false → q ∉ done → m.fs.files.get? q = pre.get? q
  recorded : ∀ q, underDir d q = false → m.fs.files.get? q ≠ pre.get? q →
    q ∈ m.backup.backupManifest.keys
  backedUp : ∀ q bp, m.backup.backupManifest.get? q = some bp →
    q ∈ done ∧ underDir d q = false ∧ backupPathOf m.cwd d q = some bp ∧
      (pre.get? q).isSome ∧ m.fs.files.get? bp = pre.get? q

variable {pre d} {done : List Str} {m : SpringBoot3Migrator}

theorem Safe.congr {m' : SpringBoot3Migrator} (h : Safe pre d done m) (hc : m'.cwd = m.cwd)
    (hb : m'.backup = m.backup) (hf : m'.fs = m.fs) : Safe pre d done m' := by
  obtain ⟨cwd, dry, b, st, fs⟩ := m
  obtain ⟨cwd', dry', b', st', fs'⟩ := m'
  simp only at hc hb hf
  subst hc hb hf
  exact ⟨h.dir, h.dirExists, h.untouched, h.recorded, h.backedUp⟩

theorem Safe.mono (h : Safe pre d done m) (p : Str) : Safe pre d (p :: done) m :=
  ⟨h.dir, h.dirExists, fun q hq hn => h.untouched q hq fun hm => hn (List.mem_cons_of_mem _ hm),
    h.recorded, fun q bp hb =>
      let ⟨h₁, h₂⟩ := h.backedUp q bp hb
      ⟨List.mem_cons_of_mem _ h₁, h₂⟩⟩

/-- A write into the backup path of a file not yet processed keeps the invariant. -/
theorem Safe.writeBackup (h : Safe pre d done m) {p bp : Str} (hp : p ∉ done)
    (hbp : backupPathOf m.cwd d p = some bp) (c : Str) :
    Safe pre d done { m with fs := { m.fs with files := m.fs.files.set bp c } } where
  dir := h.dir
  dirExists := h.dirExists
  untouched q hq hn := by
    rw [PyDict.get?_set, if_neg (ne_of_backupPathOf hbp hq)]
    exact h.untouched q hq hn
  recorded q hq := by
    rw [PyDict.get?_set, if_neg (ne_of_backupPathOf hbp hq)]
    exact h.recorded q hq
  backedUp q bq hq := by
    obtain ⟨h₁, h₂, h₃, h₄, h₅⟩ := h.backedUp q bq hq
    refine ⟨h₁, h₂, h₃, h₄, ?_⟩
    rw [PyDict.get?_set, if_neg]
    · exact h₅
    · rintro rfl
      exact hp (by rw [backupPathOf_inj hbp h₃]; exact h₁)

/-- A backup recorded in the manifest, followed by any write of the file itself, keeps the
invariant with the file processed. -/
theorem Safe.record (h : Safe pre d done m) {p bp bytes : Str} (hp : p ∉ done)
    (hd : underDir d p = false) (hbp : backupPathOf m.cwd d p = some bp)
    (hby : m.fs.files.get? p = some bytes) (c : Str) :
    Safe pre d (p :: done)
      { m with backup := { m.backup with backupManifest := m.backup.backupManifest.set p bp },
               fs := { m.fs with files := (m.fs.files.set bp bytes).set p c } } where
  dir := h.dir
  dirExists := h.dirExists
  untouched q hq hn := by
    have hpq : p ≠ q := fun e => hn (e ▸ List.mem_cons_self _ _)
    simp only [PyDict.get?_set, if_neg hpq, if_neg (ne_of_backupPathOf hbp hq)]
    exact h.untouched q hq fun hm => hn (List.mem_cons_of_mem _ hm)
  recorded q hq hne := by
    rw [PyDict.mem_keys_set]
    by_cases hpq : p = q
    · exact .inl hpq.symm
    · simp only [PyDict.get?_set, if_neg hpq, if_neg (ne_of_backupPathOf hbp hq)] at hne
      exact .inr (h.recorded q hq hne)
  backedUp q bq hq := by
    have hpre : pre.get? p = some bytes := (h.untouched p hd hp).symm.trans hby
    rw [PyDict.get?_set] at hq
    split at hq
    · rename_i hpq
      subst hpq
      cases hq
      refine ⟨List.mem_cons_self _ _, hd, hbp, by simp [hpre], ?_⟩
      simp [PyDict.get?_set, (ne_of_backupPathOf hbp hd).symm, hpre]
    · rename_i hpq
      obtain ⟨h₁, h₂, h₃, h₄, h₅⟩ := h.backedUp q bq hq
      refine ⟨List.mem_cons_of_mem _ h₁, h₂, h₃, h₄, ?_⟩
      have hbq : bp ≠ bq := fun e => hpq (backupPathOf_inj hbp (e ▸ h₃))
      have hpb : p ≠ bq := (ne_of_backupPathOf h₃ hd).symm
      simp only [PyDict.get?_set, if_neg hpb, if_neg hbq]
      exact h₅

/-- One call of `migrate_file`, on a file not yet processed outside the backup directory,
keeps the invariant with the file processed, whichever operation fails. -/
theorem Safe.migrateFile (h : Safe pre d done m) {p : Str} (hp : p ∉ done)
    (hd : underDir d p = false) (fault : Fault) :
    Safe pre d (p :: done) (m.migrateFile p fault).1 := by
  unfold SpringBoot3Migrator.migrateFile
  split
  · exact h.mono p
  · exact h.mono p
  · rename_i original _ _
    generalize migrateContent original = r
    have h' : Safe pre d done { m with stats := m.stats.count r } := h.congr rfl rfl rfl
    dsimp only
    split
    · split
      · rename_i hb
        obtain ⟨hbp, bytes, hby, rfl, rfl⟩ := backupFile_eq_some hb
        rw [h.dir] at hbp
        split <;> exact h'.record hp hd hbp hby _
      · rename_i hb
        obtain ⟨rfl, rfl | ⟨bp, c, hbp, rfl⟩⟩ := backupFile_eq_none hb
        · exact h'.mono p
        · rw [h.dir] at hbp
          exact (h'.writeBackup hp hbp c).mono p
    · exact h'.mono p

/-- The bookkeeping after `migrate_file` touches only the statistics. -/
theorem recordOutcome_frame (m : SpringBoot3Migrator) (p : Str) (modified : Bool)
    (errors : List Str) :
    (m.recordOutcome p modified errors).cwd = m.cwd ∧
      (m.recordOutcome p modified errors).dryRun = m.dryRun ∧
      (m.recordOutcome p modified errors).backup = m.backup ∧
      (m.recordOutcome p modified errors).fs = m.fs := by
  simp only [recordOutcome]
  split_ifs <;> exact ⟨rfl, rfl, rfl, rfl⟩

theorem dryRun_migrateFile (m : SpringBoot3Migrator) (p : Str) (fault : Fault) :
    (m.migrateFile p fault).1.dryRun = m.dryRun := by
  unfold SpringBoot3Migrator.migrateFile
  split
  · rfl
  · rfl
  · rename_i original _ _
    generalize migrateContent original = r
    dsimp only
    split <;> (try split) <;> (try split) <;> rfl

theorem Safe.runStep (h : Safe pre d done m) {p : Str} (hp : p ∉ done)
    (hd : underDir d p = false) (fault : Fault) : Safe pre d (p :: done) (m.runStep p fault) :=
  let ⟨hc, _, hb, hf⟩ := recordOutcome_frame _ p _ _
  ((h.congr rfl rfl rfl : Safe pre d done
    { m with stats.filesProcessed := m.stats.filesProcessed + 1 }).migrateFile hp hd fault).congr
    hc hb hf

theorem dryRun_processFiles (m : SpringBoot3Migrator) (files : List Str) (fault : Str → Fault) :
    (m.processFiles files fault).dryRun = m.dryRun :=
  foldl_const _ dryRun files m fun m' p _ h' => by
    rw [← h', SpringBoot3Migrator.runStep, (recordOutcome_frame _ _ _ _).2.1, dryRun_migrateFile]

/-- **The invariant of a run.** Processing distinct files outside the backup directory,
none of them processed before, keeps the invariant. -/
theorem processFiles_safe (fault : Str → Fault) :
    ∀ (files done : List Str) (m : SpringBoot3Migrator), Safe pre d done m → files.Nodup →
      (∀ p ∈ files, p ∉ done ∧ underDir d p = false) →
      Safe pre d (files.reverse ++ done) (m.processFiles files fault)
  | [], _, _, h, _, _ => h
  | p :: files, done, m, h, hn, hf => by
    have hp := hf p (List.mem_cons_self _ _)
    have hn := List.nodup_cons.mp hn
    rw [List.reverse_cons, List.append_assoc]
    exact processFiles_safe fault files (p :: done) _ (h.runStep hp.1 hp.2 (fault p)) hn.2
      fun q hq => ⟨List.not_mem_cons_of_ne_of_not_mem (fun e => hn.1 (e ▸ hq))
        (hf q (List.mem_cons_of_mem _ hq)).1, (hf q (List.mem_cons_of_mem _ hq)).2⟩

end Invariant

theorem safe_init (cwd d : Str) (dryRun : Bool) (fs : FileSystem) :
    Safe fs.files d [] (init cwd d dryRun fs) where
  dir := rfl
  dirExists := by simp [init]
  untouched _ _ _ := rfl
  recorded _ _ h := absurd rfl h
  backedUp _ _ h := by simp [init] at h

end SpringBoot3Migrator

/-! ## Rollback -/

namespace MigrationRollback

/-- The loop of `run_rollback` over entries outside `d` whose backups lie in `d` and hold
the content `pre` of their file: it restores each file and writes nothing else. -/
theorem get?_foldl_rollbackStep (d : Str) (pre : PyDict Str Str) :
    ∀ (L : List (Str × Str)) (acc : FileSystem × RollbackStats),
      (∀ e ∈ L, underDir d e.1 = false ∧ underDir d e.2 = true ∧ (pre.get? e.1).isSome ∧
        acc.1.files.get? e.2 = pre.get? e.1) →
      ∀ q, (L.foldl rollbackStep acc).1.files.get? q =
        if q ∈ L.map Prod.fst then pre.get? q else acc.1.files.get? q
  | [], _, _, _ => by simp
  | (o, b) :: L, (fs, st), hL, q => by
    obtain ⟨h₁, -, h₃, h₄⟩ := hL (o, b) (List.mem_cons_self _ _)
    obtain ⟨c, hc⟩ := Option.isSome_iff_exists.mp h₃
    have hstep : rollbackStep (fs, st) (o, b) =
        ({ fs with files := fs.files.set o c }, { st with filesRestored := st.filesRestored + 1 }) := by
      dsimp only at h₄
      simp [rollbackStep, rollbackFile, h₄, hc]
    rw [List.foldl_cons, hstep, get?_foldl_rollbackStep d pre L _ ?_ q]
    · by_cases hq : q ∈ L.map Prod.fst
      · simp [hq]
      · by_cases hoq : o = q
        · subst hoq
          simp [hq, hc]
        · simp [hq, hoq, Ne.symm hoq]
    · intro e he
      obtain ⟨e₁, e₂, e₃, e₄⟩ := hL e (List.mem_cons_of_mem _ he)
      refine ⟨e₁, e₂, e₃, ?_⟩
      simp only [PyDict.get?_set, if_neg (ne_of_underDir e₂ h₁).symm]
      exact e₄

theorem runRollback_fst {fs : FileSystem} {d : Str} (h : d ∈ fs.dirs) :
    (runRollback fs d).1 = ((loadManifest fs d).items.foldl rollbackStep (fs, {})).1 := by
  unfold runRollback
  rw [if_neg (not_not_intro h)]
  dsimp only
  split
  · rename_i he
    rw [List.isEmpty_iff.mp he]
    rfl
  · rfl

end MigrationRollback

namespace SpringBoot3Migrator

open MigrationRollback

/-- What the manifest a run persists guarantees against the files `pre` before the run:
`backup_manifest.json` is in the backup directory `d`, it names every file outside `d`
that changed, and each backup path it names holds the content of its file before the
run. -/
def ManifestSafe (pre : PyDict Str Str) (d : Str) (fs : FileSystem) : Prop :=
  ∃ manifest, fs.manifests.get? (manifestPath d) = some manifest ∧
    (∀ q, underDir d q = false → fs.files.get? q ≠ pre.get? q → q ∈ manifest.keys) ∧
    ∀ q bp, manifest.get? q = some bp → fs.files.get? bp = pre.get? q

/-- Persisting the manifest of a state that keeps the invariant. -/
theorem Safe.manifestSafe {pre : PyDict Str Str} {d : Str} {done : List Str}
    {m : SpringBoot3Migrator} (h : Safe pre d done m) :
    ManifestSafe pre d (m.backup.saveManifest m.fs) :=
  ⟨m.backup.backupManifest, by simp [MigrationBackup.saveManifest, h.dir], h.recorded,
    fun q bp hb => (h.backedUp q bp hb).2.2.2.2⟩

/-- What `run_rollback` on the backup directory `d` of the file system `fs` guarantees
against the files `pre` before the run, where it runs: the persisted manifest names every
file outside `d` that changed, each backup it names holds the content before the run, and
the rollback restores every file outside `d` and writes no file the manifest does not
name. -/
structure RollbackSafe (pre : PyDict Str Str) (d : Str) (fs : FileSystem) : Prop where
  covered : ∀ q, underDir d q = false → fs.files.get? q ≠ pre.get? q →
    q ∈ (loadManifest fs d).keys
  backups : ∀ q bp, (loadManifest fs d).get? q = some bp → fs.files.get? bp = pre.get? q
  restores : ∀ q, underDir d q = false → (runRollback fs d).1.files.get? q = pre.get? q
  writesOnly : ∀ q, q ∉ (loadManifest fs d).keys →
    (runRollback fs d).1.files.get? q = fs.files.get? q

/-- Persisting the manifest of a state that keeps the invariant makes the rollback safe. -/
theorem Safe.rollbackSafe {pre : PyDict Str Str} {d : Str} {done : List Str}
    {m : SpringBoot3Migrator} (h : Safe pre d done m) :
    RollbackSafe pre d (m.backup.saveManifest m.fs) := by
  have hload : loadManifest (m.backup.saveManifest m.fs) d = m.backup.backupManifest := by
    simp [loadManifest, MigrationBackup.saveManifest, h.dir]
  have hfold := get?_foldl_rollbackStep d pre (m.backup.backupManifest.items)
    (m.backup.saveManifest m.fs, {}) fun ⟨q, bp⟩ he => by
      obtain ⟨-, h₂, h₃, h₄, h₅⟩ := h.backedUp q bp ((PyDict.mem_items_iff _).mp he)
      exact ⟨h₂, underDir_of_backupPathOf h₃, h₄, h₅⟩
  have hrun := @runRollback_fst (m.backup.saveManifest m.fs) d h.dirExists
  rw [hload] at hrun
  refine ⟨?_, ?_, ?_, ?_⟩ <;> simp only [hload, hrun, hfold]
  · exact h.recorded
  · exact fun q bp hb => (h.backedUp q bp hb).2.2.2.2
  · intro q hq
    split
    · rfl
    · rename_i hk
      exact not_not.mp fun hne => hk (h.recorded q hq hne)
  · exact fun q hk => if_neg hk

/-- A completed run without dry run, over a walk that lists each file once and none in
the backup directory, persists the manifest of a state that keeps the invariant. -/
theorem completedRun_safe (cwd d : Str) (fs : FileSystem) (walk : List Str)
    (fault : Str → Fault) (hnodup : walk.Nodup) (hsep : ∀ p ∈ walk, underDir d p = false) :
    ∃ done m, Safe fs.files d done m ∧
      ((init cwd d false fs).runMigration walk fault).fs = m.backup.saveManifest m.fs := by
  have h := processFiles_safe fault (findJavaFiles walk) [] _ (safe_init cwd d false fs)
    (hnodup.filter _) fun p hp => ⟨List.not_mem_nil p, hsep p (List.mem_of_mem_filter hp)⟩
  have hdry : ((init cwd d false fs).processFiles (findJavaFiles walk) fault).dryRun = false :=
    dryRun_processFiles _ _ _
  refine ⟨_, _, h, ?_⟩
  simp only [runMigration, hdry]
  rfl

/-- **A completed run** persists a manifest that names every changed file, each with a
backup of its content before the run. -/
theorem completedRun_manifest (cwd d : Str) (fs : FileSystem) (walk : List Str)
    (fault : Str → Fault) (hnodup : walk.Nodup) (hsep : ∀ p ∈ walk, underDir d p = false) :
    ManifestSafe fs.files d ((init cwd d false fs).runMigration walk fault).fs := by
  obtain ⟨_, _, h, hfs⟩ := completedRun_safe cwd d fs walk fault hnodup hsep
  exact hfs ▸ h.manifestSafe

/-- **The rollback after a completed run**, where `run_rollback` runs: it restores every
file outside the backup directory and writes only the files the manifest names. -/
theorem completedRun_rollback (cwd d : Str) (fs : FileSystem) (walk : List Str)
    (fault : Str → Fault) (hnodup : walk.Nodup) (hsep : ∀ p ∈ walk, underDir d p = false) :
    RollbackSafe fs.files d ((init cwd d false fs).runMigration walk fault).fs := by
  obtain ⟨_, _, h, hfs⟩ := completedRun_safe cwd d fs walk fault hnodup hsep
  exact hfs ▸ h.rollbackSafe

/-- **Backups and the manifest.** Stopped after any number `k` of files, a run keeps the
invariant over the files it processed; completed, it persists a manifest that names every
changed file with a backup of its content before the run. -/
theorem runMigration_backup_contract (cwd d : Str) (fs : FileSystem) (walk : List Str)
    (fault : Str → Fault) (hnodup : walk.Nodup) (hsep : ∀ p ∈ walk, underDir d p = false) :
    (∀ k, Safe fs.files d ((findJavaFiles walk).take k).reverse
      ((init cwd d false fs).processFiles ((findJavaFiles walk).take k) fault)) ∧
    ManifestSafe fs.files d ((init cwd d false fs).runMigration walk fault).fs := by
  refine ⟨fun k => ?_, completedRun_manifest cwd d fs walk fault hnodup hsep⟩
  simpa using processFiles_safe fault _ [] _ (safe_init cwd d false fs)
    ((hnodup.filter _).sublist (List.take_sublist k _)) fun p hp =>
      ⟨List.not_mem_nil p, hsep p (List.mem_of_mem_filter (List.mem_of_mem_take hp))⟩

/-- The working directory of the runs below. -/
def ledgerCwd : Str := "/w".toList

/-- `backups/migration_<timestamp>` of the runs below. -/
def ledgerBackupDir : Str := "/w/backups/migration_1".toList

/-- The two Java files of the runs below. -/
def entryJava : Str := "/w/services/ledger/Entry.java".toList

@[inherit_doc entryJava]
def plainJava : Str := "/w/services/ledger/Plain.java".toList

/-- A tree of two Java files, the first with a `javax` import. -/
def ledgerTree : FileSystem where
  files := (PyDict.empty.set entryJava "import javax.persistence.Id;\n".toList).set plainJava
    "class Plain \x7b\x7d\n".toList
  dirs := .empty
  manifests := .empty

theorem runMigration_backup_ledger :
    [entryJava, plainJava].Nodup ∧ (∀ p ∈ [entryJava, plainJava], underDir ledgerBackupDir p = false) ∧
    ManifestSafe ledgerTree.files ledgerBackupDir
      ((init ledgerCwd ledgerBackupDir false ledgerTree).runMigration [entryJava, plainJava]
        fun _ => .none).fs :=
  ⟨by decide, by decide, (runMigration_backup_contract ledgerCwd ledgerBackupDir ledgerTree
    [entryJava, plainJava] (fun _ => .none) (by decide) (by decide)).2⟩

/-- The run over `ledgerTree` stopped after its first file. -/
def stoppedRun : SpringBoot3Migrator :=
  (init ledgerCwd ledgerBackupDir false ledgerTree).processFiles
    ((findJavaFiles [entryJava, plainJava]).take 1) fun _ => .none

/-- **A stopped run.** It has rewritten the first file and recorded it in the in-memory
manifest, but persisted no manifest. -/
theorem stopped_run_not_persisted :
    stoppedRun.fs.files.get? entryJava ≠ ledgerTree.files.get? entryJava ∧
    entryJava ∈ stoppedRun.backup.backupManifest.keys ∧
    manifestPath ledgerBackupDir ∉ stoppedRun.fs.manifests.keys := by
  decide

end SpringBoot3Migrator
