import WaqitiAudit.Text.Literal
import WaqitiAudit.Migration.Backup

/-!
# A migrated file stays migrated

`migrate_file` runs fifteen `re.sub` rewrites in a fixed order. Each pattern is a literal
text with runs of `\s` in it, so `Text/Literal` applies: a rewrite removes every match
of its own pattern, and it creates no match of the patterns rewritten before it,
provided its replacement passes the test `Keeps`. `clearsInOrder` runs that test over
the whole list, and `decide` checks it once (`clearsInOrder_allRewrites`).

So after a migration none of the fifteen patterns matches anywhere in the text. Every
pattern source `needs_hibernate_imports` looks for starts with the text `@Type\s*\(`,
and no rewrite writes that text (`not_infix_sub`). So on a text without it, which is
every Java file that does not contain that piece of regex source, the migration
is the three rewrite passes and nothing else (`migrateContent_of_no_typeSource`), and
the result is a fixed point.

What is proved:

* **every pattern is gone** — `absent_after_migration`;
* **a second migration changes nothing** — `migrateContent_migrated`: it writes the
  same text, reports the file unmodified and counts no fix;
* **what the verifier still reports** — `verifier_after_migration`:
  `check_javax_imports` and `check_type_annotations` report nothing, and
  `check_security_deprecations` reports only `.authorizeRequests()`, which the migrator
  has no rewrite for;
* **what `validate_migration` reports in a run** — `runMigration_no_javax_left`: over a
  project no file of which holds `@Type\s*\(`, whichever file operations fail, no error of
  `run_migration` says a file still contains `javax` imports. The invariant `NoJavaxLeft`
  holds from the fresh migrator and through every step (`NoJavaxLeft.runStep`).
-/

namespace SpringBoot3Migrator

open PyStr PyRe

/-! ## The rewrite list -/

/-- The rewrites of `migrate_file`, in the order it applies them. -/
def allRewrites : List Rewrite :=
  javaxToJakartaPatterns ++ typePatterns.map (·.2) ++ securityPatterns

/-- The tokens of a rewrite's pattern. -/
def Rewrite.toks (r : Rewrite) : List Tok := r.regex.toks.getD []

/-- The test over a rewrite list: every pattern is literal, every rewrite clears its own
pattern, and it keeps the patterns of the rewrites `done` before it absent. -/
def clearsInOrder : List Rewrite → List Rewrite → Bool
  | _, [] => true
  | done, r :: rs =>
    r.regex.toks.isSome && Keeps r.toks r.toks r.replacement true &&
      done.all (fun q => Keeps q.toks r.toks r.replacement false) &&
      clearsInOrder (done ++ [r]) rs

theorem clearsInOrder_allRewrites : clearsInOrder [] allRewrites = true := by
  decide

theorem Rewrite.toks_eq {r : Rewrite} (h : r.regex.toks.isSome = true) :
    r.regex.toks = some r.toks := by
  rw [Rewrite.toks]
  cases hr : r.regex.toks with
  | none => rw [hr] at h; cases h
  | some ts => rfl

/-- A rewrite step writes the text `re.sub` computes, changed or not. -/
theorem content_rewriteStep (p : Pass) (r : Rewrite) :
    (rewriteStep p r).content = sub r.regex r.replacement p.content := by
  unfold rewriteStep
  dsimp only
  split
  · rfl
  · rename_i hne
    exact (not_not.mp hne).symm

/-- The text of a pattern loop is the rewrites applied in turn. -/
theorem content_rewritePass (rs : List Rewrite) (content : Str) (m : Bool) :
    (rewritePass rs content m).content =
      rs.foldl (fun c r => sub r.regex r.replacement c) content := by
  unfold rewritePass
  suffices ∀ p : Pass, (rs.foldl rewriteStep p).content =
      rs.foldl (fun c r => sub r.regex r.replacement c) p.content from this _
  induction rs with
  | nil => exact fun _ => rfl
  | cons r rs ih => exact fun p => (ih _).trans (by rw [content_rewriteStep]; rfl)

/-! ## No rewrite writes `@Type\s*\(` -/

theorem mem_allRewrites {r : Rewrite} :
    r ∈ allRewrites ↔ r ∈ javaxToJakartaPatterns ∨ r ∈ typePatterns.map (·.2) ∨
      r ∈ securityPatterns := by
  simp only [allRewrites, List.mem_append, or_assoc]

theorem keeps_typeSourceHead : ∀ r ∈ allRewrites,
    r.regex.toks.isSome = true ∧ Keeps [.lit typeSourceHead] r.toks r.replacement false = true := by
  decide

/-- A rewrite of the list writes `@Type\s*\(` into no text that lacks it. -/
theorem not_infix_sub {r : Rewrite} (hr : r ∈ allRewrites) {c : Str}
    (h : ¬ typeSourceHead <:+: c) : ¬ typeSourceHead <:+: sub r.regex r.replacement c :=
  absent_lit_iff.mp (sub_absent (Rewrite.toks_eq (keeps_typeSourceHead r hr).1)
    (keeps_typeSourceHead r hr).2 (absent_lit_iff.mpr h))

theorem not_infix_rewritePass {rs : List Rewrite} (hrs : ∀ r ∈ rs, r ∈ allRewrites) {c : Str}
    (h : ¬ typeSourceHead <:+: c) (m : Bool) :
    ¬ typeSourceHead <:+: (rewritePass rs c m).content := by
  rw [content_rewritePass]
  induction rs generalizing c with
  | nil => exact h
  | cons r rs ih =>
    exact ih (fun r' h' => hrs r' (List.mem_cons_of_mem _ h'))
      (not_infix_sub (hrs r (List.mem_cons_self _ _)) h)

/-- **The migration of a text without `@Type\s*\(`**: `migrate_file` applies its three
rewrite passes and nothing else, since `needs_hibernate_imports` is false on the text
after the `@Type` pass. -/
theorem migrateContent_of_no_typeSource {original : Str} (h : ¬ typeSourceHead <:+: original) :
    (migrateContent original).content =
      (rewritePass securityPatterns
        (rewritePass (typePatterns.map (·.2))
          (rewritePass javaxToJakartaPatterns original false).content
          (rewritePass javaxToJakartaPatterns original false).modified).content
        (rewritePass (typePatterns.map (·.2))
          (rewritePass javaxToJakartaPatterns original false).content
          (rewritePass javaxToJakartaPatterns original false).modified).modified).content := by
  have hj := not_infix_rewritePass (fun _ hr => mem_allRewrites.mpr (.inl hr)) h false
  have ht := not_infix_rewritePass (fun _ hr => mem_allRewrites.mpr (.inr (.inl hr))) hj
    (rewritePass javaxToJakartaPatterns original false).modified
  simp only [migrateContent, needsHibernateImports_eq_false_of_head ht, Bool.and_false]
  rfl

theorem not_infix_migrateContent {original : Str} (h : ¬ typeSourceHead <:+: original) :
    ¬ typeSourceHead <:+: (migrateContent original).content := by
  rw [migrateContent_of_no_typeSource h]
  exact not_infix_rewritePass (fun _ hr => mem_allRewrites.mpr (.inr (.inr hr)))
    (not_infix_rewritePass (fun _ hr => mem_allRewrites.mpr (.inr (.inl hr)))
      (not_infix_rewritePass (fun _ hr => mem_allRewrites.mpr (.inl hr)) h _) _) _

/-! ## Every pattern is gone -/

/-- The rewrites `rs`, applied after `done` to a text where the patterns of `done` are
absent, leave every pattern of `done` and `rs` absent. -/
theorem absent_foldl :
    ∀ (rs done : List Rewrite) (c : Str), clearsInOrder done rs = true →
      (∀ q ∈ done, q.regex.toks.isSome = true ∧ Absent q.toks c) →
      ∀ q ∈ done ++ rs, q.regex.toks.isSome = true ∧
        Absent q.toks (rs.foldl (fun c r => sub r.regex r.replacement c) c)
  | [], done, c, _, h => by simpa only [List.append_nil, List.foldl_nil] using h
  | r :: rs, done, c, hc, h => by
    simp only [clearsInOrder, Bool.and_eq_true, List.all_eq_true] at hc
    obtain ⟨⟨⟨hr, hself⟩, hdone⟩, hrest⟩ := hc
    have step : ∀ q ∈ done ++ [r], q.regex.toks.isSome = true ∧
        Absent q.toks (sub r.regex r.replacement c) := by
      intro q hq
      rcases List.mem_append.mp hq with hq | hq
      · exact ⟨(h q hq).1, sub_absent (Rewrite.toks_eq hr) (hdone q hq) (h q hq).2⟩
      · rw [List.mem_singleton.mp hq]
        exact ⟨hr, sub_clears (Rewrite.toks_eq hr) hself c⟩
    simpa only [List.append_assoc, List.singleton_append] using
      absent_foldl rs (done ++ [r]) _ hrest step

/-- **After a migration none of the fifteen patterns matches**, on a text without
`@Type\s*\(`. -/
theorem absent_after_migration {original : Str} (h : ¬ typeSourceHead <:+: original) :
    ∀ q ∈ allRewrites, q.regex.toks.isSome = true ∧
      Absent q.toks (migrateContent original).content := by
  rw [migrateContent_of_no_typeSource h]
  simp only [content_rewritePass, ← List.foldl_append]
  exact absent_foldl allRewrites [] original clearsInOrder_allRewrites (fun _ h => nomatch h)

/-! ## A second migration -/

/-- A pattern loop over patterns absent from the text changes nothing. -/
theorem rewritePass_of_absent {c : Str} (m : Bool) :
    ∀ {rs : List Rewrite}, (∀ r ∈ rs, r.regex.toks.isSome = true ∧ Absent r.toks c) →
      rewritePass rs c m = ⟨c, 0, m⟩
  | [], _ => rfl
  | r :: rs, h => by
    have hstep : rewriteStep ⟨c, 0, m⟩ r = ⟨c, 0, m⟩ := by
      have := sub_eq_self_of_absent (Rewrite.toks_eq (h r (List.mem_cons_self _ _)).1)
        r.replacement (h r (List.mem_cons_self _ _)).2
      simp only [rewriteStep, this, ne_eq, not_true_eq_false, if_false]
    rw [rewritePass, List.foldl_cons, hstep]
    exact rewritePass_of_absent m fun r' hr' => h r' (List.mem_cons_of_mem _ hr')

/-- **A migrated file stays migrated.** On a text without `@Type\s*\(`, migrating the
result again writes the same text, reports the file unmodified and counts no fix. -/
theorem migrateContent_migrated {original : Str} (h : ¬ typeSourceHead <:+: original) :
    migrateContent (migrateContent original).content =
      ⟨(migrateContent original).content, false, 0, 0, 0⟩ := by
  have ha := absent_after_migration h
  generalize (migrateContent original).content = t at ha ⊢
  have pass := fun (rs : List Rewrite) (hrs : ∀ r ∈ rs, r ∈ allRewrites) (m : Bool) =>
    rewritePass_of_absent m fun r hr => ha r (hrs r hr)
  unfold migrateContent
  rw [pass javaxToJakartaPatterns (fun _ h => mem_allRewrites.mpr (.inl h))]
  dsimp only
  rw [pass (typePatterns.map (·.2)) (fun _ h => mem_allRewrites.mpr (.inr (.inl h)))]
  dsimp only
  rw [Bool.false_and, if_neg Bool.false_ne_true,
    pass securityPatterns (fun _ h => mem_allRewrites.mpr (.inr (.inr h)))]

/-- A pattern with no match gives `patternIssues` nothing to report. -/
theorem patternIssues_of_findAll {patterns : List (Regex × Str)} {type filePath content : Str}
    (h : ∀ p ∈ patterns, findAll p.1 content = []) :
    patternIssues patterns type filePath content = [] := by
  rw [patternIssues, List.flatMap_eq_nil_iff]
  rintro ⟨r, repl⟩ hp
  simp only [h _ hp, List.map_nil]

/-- The patterns of the rewrite list match nowhere in a migrated text. -/
theorem findAll_after_migration {original : Str} (h : ¬ typeSourceHead <:+: original) {r : Rewrite}
    (hr : r ∈ allRewrites) : findAll r.regex (migrateContent original).content = [] :=
  have ha := absent_after_migration h r hr
  findAll_eq_nil_of_absent (Rewrite.toks_eq ha.1) ha.2

/-- A migrated text has no `javax` import for `check_javax_imports` to report. -/
theorem checkJavaxImports_after_migration {original : Str} (h : ¬ typeSourceHead <:+: original)
    (filePath : Str) : checkJavaxImports filePath (migrateContent original).content = [] := by
  have hf : ∀ r ∈ javaxToJakartaPatterns, findAll r.regex (migrateContent original).content = [] :=
    fun r hr => findAll_after_migration h (mem_allRewrites.mpr (.inl hr))
  generalize (migrateContent original).content = t at hf ⊢
  refine patternIssues_of_findAll fun q hq => ?_
  obtain ⟨pkg, hpkg, rfl⟩ := List.mem_map.mp hq
  exact hf _ (List.mem_map.mpr ⟨pkg, hpkg, rfl⟩)

/-- A migrated text has no `@Type` annotation for `check_type_annotations` to report. -/
theorem checkTypeAnnotations_after_migration {original : Str} (h : ¬ typeSourceHead <:+: original)
    (filePath : Str) : checkTypeAnnotations filePath (migrateContent original).content = [] := by
  have hf : ∀ r ∈ typePatterns.map (·.2), findAll r.regex (migrateContent original).content = [] :=
    fun r hr => findAll_after_migration h (mem_allRewrites.mpr (.inr (.inl hr)))
  generalize (migrateContent original).content = t at hf ⊢
  simp only [typePatterns, List.map_cons, List.map_nil, List.mem_cons, List.not_mem_nil, or_false,
    forall_eq_or_imp, forall_eq] at hf
  obtain ⟨hjsonb, -, hjson, hhyper⟩ := hf
  refine patternIssues_of_findAll ?_
  simp only [List.mem_cons, List.mem_singleton, List.not_mem_nil, or_false]
  rintro _ (rfl | rfl | rfl)
  · exact hjsonb
  · exact hjson
  · exact hhyper

/-- **What the verifier reports on a migrated file**, for a text without `@Type\s*\(`:
no `javax` import and no `@Type` annotation; of the security deprecations only
`.authorizeRequests()`, which no rewrite of the migrator touches. -/
theorem verifier_after_migration {original : Str} (h : ¬ typeSourceHead <:+: original) (filePath : Str) :
    checkJavaxImports filePath (migrateContent original).content = [] ∧
    checkTypeAnnotations filePath (migrateContent original).content = [] ∧
    checkSecurityDeprecations filePath (migrateContent original).content =
      patternIssues
        [(seqs [lit ".authorizeRequests".toList, many space, chr '(', many space, chr ')'],
          ".authorizeHttpRequests()".toList)]
        "security_deprecation".toList filePath (migrateContent original).content := by
  refine ⟨checkJavaxImports_after_migration h filePath,
    checkTypeAnnotations_after_migration h filePath, ?_⟩
  have hf : ∀ r ∈ securityPatterns, findAll r.regex (migrateContent original).content = [] :=
    fun r hr => findAll_after_migration h (mem_allRewrites.mpr (.inr (.inr hr)))
  generalize (migrateContent original).content = t at hf ⊢
  simp only [securityPatterns, List.mem_cons, List.not_mem_nil, or_false, forall_eq_or_imp,
    forall_eq] at hf
  simp only [checkSecurityDeprecations, patternIssues, List.flatMap_cons, List.flatMap_nil,
    hf.1, hf.2, List.map_nil, List.nil_append]

/-! ## `validate_migration` after a migration -/

/-- The matches of `import\s+javax\.(persistence|validation|servlet|annotation)\.` are
matches of the four `javax` rewrites it names. -/
theorem consumes_remainingJavaxRe {s t : Str} {caps caps' : Caps}
    (h : Consumes remainingJavaxRe s caps t caps') :
    ∃ pkg ∈ ["persistence".toList, "validation".toList, "servlet".toList, "annotation".toList],
      Consumes (javaxRe pkg) s caps t caps := by
  simp only [remainingJavaxRe, seqs, consumes_seq_iff, consumes_lit_iff, consumes_plus_space_iff,
    consumes_group_iff, alts, consumes_alt_iff, chr, consumes_atom_iff] at h
  obtain ⟨_, _, ⟨rfl, rfl⟩, _, _, ⟨rfl, ws, hws, hsp, rfl⟩, _, _, ⟨rfl, rfl⟩, m₂, _, ⟨_, hpkg, rfl⟩,
    rfl, c, hc, rfl⟩ := h
  obtain rfl : c = '.' := by simpa [Atom.test, ClassItem.test] using hc
  have key : ∀ (pkg : Str) (c₀ : Caps), Consumes (javaxRe pkg)
      ("import".toList ++ (ws ++ ("javax.".toList ++ (pkg ++ '.' :: t)))) c₀ t c₀ := fun pkg c₀ => by
    simp only [javaxRe, seqs, consumes_seq_iff, consumes_lit_iff, consumes_plus_space_iff]
    exact ⟨_, _, ⟨rfl, rfl⟩, _, _, ⟨rfl, ws, hws, hsp, rfl⟩, rfl, by simp⟩
  rcases hpkg with ⟨-, rfl⟩ | ⟨-, rfl⟩ | ⟨-, rfl⟩ | ⟨-, rfl⟩
  · exact ⟨_, List.mem_cons_self _ _, key _ _⟩
  · exact ⟨_, List.mem_cons_of_mem _ (List.mem_cons_self _ _), key _ _⟩
  · exact ⟨_, List.mem_cons_of_mem _ (List.mem_cons_of_mem _ (List.mem_cons_self _ _)), key _ _⟩
  · exact ⟨_, List.mem_cons_of_mem _ (List.mem_cons_of_mem _ (List.mem_cons_of_mem _
      (List.mem_cons_self _ _))), key _ _⟩

theorem remainingPackages_sub : ∀ pkg ∈ ["persistence".toList, "validation".toList,
    "servlet".toList, "annotation".toList], pkg ∈ javaxPackages := by
  decide

/-- The test of `validate_migration` for a `javax` import finds none in a migrated text. -/
theorem search_remainingJavaxRe_migrated {original : Str} (h : ¬ typeSourceHead <:+: original) :
    search remainingJavaxRe (migrateContent original).content = none := by
  refine search_eq_none_iff.mpr fun u hu => matchHere_eq_none_iff.mpr fun t caps hc => ?_
  obtain ⟨pkg, hpkg, hj⟩ := consumes_remainingJavaxRe hc
  have hr : (⟨javaxRe pkg, "import jakarta.".toList ++ pkg ++ ['.']⟩ : Rewrite) ∈ allRewrites :=
    List.mem_append_left _ (List.mem_append_left _ (List.mem_map.mpr
      ⟨pkg, remainingPackages_sub pkg hpkg, rfl⟩))
  have ha := absent_after_migration h _ hr
  obtain ⟨-, w, hw, rfl⟩ := (consumes_iff_spelled _ (Rewrite.toks_eq ha.1)).mp hj
  exact ha.2 w hw ((List.prefix_append w t).isInfix.trans hu.isInfix)

/-- The `javax` message of `validate_migration` differs from every message that starts
with a text that is neither a prefix of it nor extends it. -/
theorem javaxLeft_ne (l : Str)
    (hl : (l.isPrefixOf "File still contains javax imports: ".toList ||
      ("File still contains javax imports: ".toList).isPrefixOf l) = false) {e : Str}
    (he : l <+: e) (q : Str) : "File still contains javax imports: ".toList ++ q ≠ e := fun h => by
  have := List.prefix_or_prefix_of_prefix he (h ▸ List.prefix_append _ q)
  simp only [← List.isPrefixOf_iff_prefix] at this
  rcases this with h' | h'
  · rw [h', Bool.true_or] at hl
    exact Bool.noConfusion hl
  · rw [h', Bool.or_true] at hl
    exact Bool.noConfusion hl

theorem javaxLeft_not_mem_validateMigration {fs : FileSystem} {p c : Str}
    (hp : fs.files.get? p = some c) (hc : search remainingJavaxRe c = none) (q : Str) :
    "File still contains javax imports: ".toList ++ q ∉ validateMigration fs p := by
  simp only [validateMigration, hp, hc, Option.isSome_none, Bool.false_eq_true, if_false,
    List.nil_append, List.mem_append]
  rintro (h | h) <;> split at h
  · exact javaxLeft_ne "File still contains @".toList (by decide) (List.prefix_append _ _) q
      (List.mem_singleton.mp h)
  · cases h
  · cases h
  · exact javaxLeft_ne "File contains duplicate imports: ".toList (by decide)
      (List.prefix_append _ _) q (List.mem_singleton.mp h)

@[simp] theorem MigrationStats.errors_count (s : MigrationStats) (r : Migration) :
    (s.count r).errors = s.errors := rfl

/-- No file of the file system holds `@Type\s*\(`. -/
def NoTypeSource (fs : FileSystem) : Prop :=
  ∀ p c, fs.files.get? p = some c → ¬ typeSourceHead <:+: c

theorem NoTypeSource.set {fs : FileSystem} (h : NoTypeSource fs) {p v : Str}
    (hv : ¬ typeSourceHead <:+: v) :
    NoTypeSource { fs with files := fs.files.set p v } := fun q c hq => by
  rw [PyDict.get?_set] at hq
  split at hq
  · cases hq
    exact hv
  · exact h q c hq

theorem NoTypeSource.backupFile {fs fs' : FileSystem} (h : NoTypeSource fs)
    {b b' : MigrationBackup} {cwd p : Str} {fault : Fault} {x : Option Str}
    (hb : b.backupFile cwd fs p fault = (x, b', fs')) : NoTypeSource fs' := by
  unfold MigrationBackup.backupFile at hb
  split at hb
  · rename_i hp
    split at hb <;> cases hb
    · exact h.set fun hc => h p _ hp (hc.trans (List.take_prefix _ _).isInfix)
    · exact h.set (h p _ hp)
  · cases hb
    exact h

theorem migrateFile_spec {m : SpringBoot3Migrator} (h : NoTypeSource m.fs) (p : Str)
    (fault : Fault) :
    NoTypeSource (m.migrateFile p fault).1.fs ∧
      (m.migrateFile p fault).1.stats.errors = m.stats.errors ∧
      (∀ q, "File still contains javax imports: ".toList ++ q ∉ (m.migrateFile p fault).2.2) ∧
      ((m.migrateFile p fault).2.1 = true → m.dryRun = false →
        ∃ c, (m.migrateFile p fault).1.fs.files.get? p = some c ∧
          search remainingJavaxRe c = none) := by
  have err : ∀ q msg, "File still contains javax imports: ".toList ++ q ∉ [errorProcessing p msg] :=
    fun q msg hq => javaxLeft_ne "Error processing ".toList (by decide)
      ⟨p ++ ": ".toList ++ msg, by simp [errorProcessing, List.append_assoc]⟩ q (List.mem_singleton.mp hq)
  unfold migrateFile
  split
  · exact ⟨h, rfl, fun q => err q _, fun h => nomatch h⟩
  · exact ⟨h, rfl, fun q => err q _, fun h => nomatch h⟩
  · rename_i original _ hp
    have hno := not_infix_migrateContent (h p original hp)
    have hsearch := search_remainingJavaxRe_migrated (h p original hp)
    generalize migrateContent original = r at hno hsearch
    dsimp only
    split
    · split
      · rename_i hb
        have hfs := h.backupFile hb
        split
        · exact ⟨hfs.set fun hc => hno (hc.trans (List.take_prefix _ _).isInfix), rfl,
            fun q => err q _,
            fun h => nomatch h⟩
        · exact ⟨hfs.set hno, rfl, (fun q h => nomatch h), fun _ _ => ⟨r.content, by simp, hsearch⟩⟩
      · rename_i hb
        exact ⟨h.backupFile hb, rfl, fun q hq => javaxLeft_ne "Failed to backup file: ".toList
          (by decide) (List.prefix_append _ _) q (List.mem_singleton.mp hq), fun h => nomatch h⟩
    · rename_i hmod
      refine ⟨h, rfl, (fun q h => nomatch h), fun hr hd => absurd ?_ hmod⟩
      dsimp only at hr
      simp only [hr, hd, Bool.not_false, Bool.and_self]

/-- The errors after the bookkeeping of one file: those of `validate_migration` when the
file was modified outside a dry run, then those `migrate_file` returned. -/
theorem errors_recordOutcome (m : SpringBoot3Migrator) (p : Str) (modified : Bool)
    (errors : List Str) :
    (m.recordOutcome p modified errors).stats.errors =
      m.stats.errors ++ (if modified && !m.dryRun then validateMigration m.fs p else []) ++
        errors := by
  unfold SpringBoot3Migrator.recordOutcome
  cases modified <;> cases hd : m.dryRun <;> cases errors <;> simp [hd]

/-- What a run keeps: no file holds `@Type\s*\(`, and no error says a `javax` import is
left. -/
structure NoJavaxLeft (m : SpringBoot3Migrator) : Prop where
  files : NoTypeSource m.fs
  errors : ∀ q, "File still contains javax imports: ".toList ++ q ∉ m.stats.errors

theorem NoJavaxLeft.runStep {m : SpringBoot3Migrator} (h : NoJavaxLeft m) (p : Str)
    (fault : Fault) : NoJavaxLeft (m.runStep p fault) := by
  let m₀ : SpringBoot3Migrator := { m with stats.filesProcessed := m.stats.filesProcessed + 1 }
  obtain ⟨hfs, herr, hret, hval⟩ := @migrateFile_spec m₀ h.files p fault
  have hdry := dryRun_migrateFile m₀ p fault
  unfold SpringBoot3Migrator.runStep
  generalize m₀.migrateFile p fault = r at hfs herr hret hval hdry
  obtain ⟨m', modified, errors⟩ := r
  dsimp only at hfs herr hret hval hdry ⊢
  refine ⟨(recordOutcome_frame m' p modified errors).2.2.2 ▸ hfs, fun q hq => ?_⟩
  rw [errors_recordOutcome, herr, hdry] at hq
  rcases List.mem_append.mp hq with hq | hq
  · rcases List.mem_append.mp hq with hq | hq
    · exact h.errors q hq
    · split at hq
      · rename_i hmd
        simp only [Bool.and_eq_true, Bool.not_eq_true'] at hmd
        obtain ⟨c, hc, hs⟩ := hval hmd.1 hmd.2
        exact javaxLeft_not_mem_validateMigration hc hs q hq
      · cases hq
  · exact hret q hq

theorem NoJavaxLeft.processFiles {m : SpringBoot3Migrator} (h : NoJavaxLeft m) (files : List Str)
    (fault : Str → Fault) : NoJavaxLeft (m.processFiles files fault) :=
  foldl_inv _ NoJavaxLeft (fun _ p h => h.runStep p (fault p)) files m h

/-- **`validate_migration` never finds a `javax` import left.** In a run of
`run_migration` from a fresh migrator over a project none of whose files holds
`@Type\s*\(`, whichever file operations fail, no error of the run says that a file still
contains `javax` imports. -/
theorem runMigration_no_javax_left (cwd backupDir : Str) (dryRun : Bool) (fs : FileSystem)
    (walk : List Str) (fault : Str → Fault) (h : ∀ kv ∈ fs.files.items, ¬ typeSourceHead <:+: kv.2)
    (q : Str) :
    "File still contains javax imports: ".toList ++ q ∉
      (runMigration (init cwd backupDir dryRun fs) walk fault).stats.errors := by
  have h0 : NoJavaxLeft (init cwd backupDir dryRun fs) :=
    ⟨fun p c hp => h (p, c) ((PyDict.mem_items_iff _).mpr hp), fun _ hq => nomatch hq⟩
  have hrun := h0.processFiles (findJavaFiles walk) fault
  unfold runMigration
  dsimp only
  split
  · exact hrun.errors q
  · exact hrun.errors q

/-- An entity with `javax` imports, a `jsonb` column, an escape sequence and an
`antMatchers` call. -/
def legacyEntity : Str :=
  "import javax.persistence.Entity;\nimport javax.validation.constraints.NotNull;\n@Entity class Doc \x7b @Type(type = \"jsonb\") String data; String eol = \"\\n\"; \x7d\nhttp.authorizeRequests().antMatchers(\"/api\").permitAll();\n".toList

/-- `typeSourceHead` holds two backslashes and `legacyEntity` one. -/
theorem typeSourceHead_not_infix_legacyEntity : ¬ typeSourceHead <:+: legacyEntity :=
  fun h => absurd (h.sublist.count_le '\\') (by decide)

theorem migrateContent_migrated_legacyEntity :
    ¬ typeSourceHead <:+: legacyEntity ∧
      migrateContent (migrateContent legacyEntity).content =
        ⟨(migrateContent legacyEntity).content, false, 0, 0, 0⟩ :=
  ⟨typeSourceHead_not_infix_legacyEntity,
    migrateContent_migrated typeSourceHead_not_infix_legacyEntity⟩

theorem verifier_after_migration_legacyEntity :
    ¬ typeSourceHead <:+: legacyEntity ∧
      checkJavaxImports "Doc.java".toList (migrateContent legacyEntity).content = [] ∧
      checkTypeAnnotations "Doc.java".toList (migrateContent legacyEntity).content = [] ∧
      checkSecurityDeprecations "Doc.java".toList (migrateContent legacyEntity).content =
        patternIssues
          [(seqs [lit ".authorizeRequests".toList, many space, chr '(', many space, chr ')'],
            ".authorizeHttpRequests()".toList)]
          "security_deprecation".toList "Doc.java".toList (migrateContent legacyEntity).content :=
  ⟨typeSourceHead_not_infix_legacyEntity,
    verifier_after_migration typeSourceHead_not_infix_legacyEntity _⟩


/-- A project holding `legacyEntity`. -/
def legacyProject : FileSystem :=
  ⟨PyDict.empty.set "/w/src/Doc.java".toList legacyEntity, .empty, .empty⟩

theorem typeSourceHead_legacyProject :
    ∀ kv ∈ legacyProject.files.items, ¬ typeSourceHead <:+: kv.2 := fun kv hkv => by
  obtain rfl : kv = ("/w/src/Doc.java".toList, legacyEntity) := List.mem_singleton.mp hkv
  exact typeSourceHead_not_infix_legacyEntity

theorem runMigration_no_javax_left_legacyProject :
    (∀ kv ∈ legacyProject.files.items, ¬ typeSourceHead <:+: kv.2) ∧
      "File still contains javax imports: ".toList ++ "/w/src/Doc.java".toList ∉
        (runMigration (init "/w".toList "/w/backups/migration_1".toList false legacyProject)
          ["/w/src/Doc.java".toList] fun _ => .none).stats.errors :=
  ⟨typeSourceHead_legacyProject,
    runMigration_no_javax_left _ _ _ _ _ _ typeSourceHead_legacyProject _⟩

end SpringBoot3Migrator
