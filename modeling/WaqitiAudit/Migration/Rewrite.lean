import WaqitiAudit.Validator.Basic

/-!
# The Spring Boot 3 migration: rewriting a file, and verifying it

The text transformation of `SpringBoot3Migrator.migrate_file`
(`src/migration-tools/springboot3/migrate-to-springboot3.py`) and the five checks of
`MigrationVerifier` (`src/migration-tools/springboot3/verify-migration.py`) that look
at the text of one file.

`migrate_file` applies three lists of `re.sub` rewrites (`javax` to `jakarta` imports,
`@Type` to `@JdbcTypeCode`, Spring Security matchers), counting the matches of each
rewrite that changes the text, and in between adds the Hibernate imports when
`needs_hibernate_imports` says so. That test looks for the *source text* of the
`@Type` patterns in the file: every one of them contains a backslash.

What is proved:

* **the import step** — `needsHibernateImports_eq_false`: on a text without a
  backslash `needs_hibernate_imports` is false, and `migrateContent_of_no_backslash`:
  on such a text the migration is the three rewrite passes and nothing else, so the
  imports of `org.hibernate.annotations.JdbcTypeCode` and `org.hibernate.type.SqlTypes`
  are never added;
* **what the verifier then sees** — `migration_introduces_missing_imports`: a file with
  `@Type(type = "jsonb")` on which `check_missing_imports` reports nothing is rewritten
  to one on which it reports both imports as missing.
-/

namespace SpringBoot3Migrator

open PyStr PyRe ReferenceValidator

/-- One `(pattern, replacement)` pair of the migrator. -/
structure Rewrite where
  regex : Regex
  replacement : Str

/-- `import\s+javax\.<pkg>\.`, rewritten to `import jakarta.<pkg>.`. -/
def javaxRe (pkg : Str) : Regex :=
  seqs [lit "import".toList, plus space, lit ("javax.".toList ++ pkg ++ ['.'])]

/-- The packages of `javax_to_jakarta_patterns`, in order. -/
def javaxPackages : List Str :=
  ["persistence".toList, "validation".toList, "servlet".toList, "annotation".toList,
   "transaction".toList, "websocket".toList, "enterprise".toList, "inject".toList,
   "ws.rs".toList]

/-- `javax_to_jakarta_patterns`. -/
def javaxToJakartaPatterns : List Rewrite :=
  javaxPackages.map fun pkg => ⟨javaxRe pkg, "import jakarta.".toList ++ pkg ++ ['.']⟩

/-- `@Type\s*\(\s*<arg>\s*\)` -/
def typeCallRe (arg : Regex) : Regex :=
  seqs [lit "@Type".toList, many space, chr '(', many space, arg, many space, chr ')']

/-- `type\s*=\s*"jsonb"` -/
def jsonbArg : Regex := seqs [lit "type".toList, many space, chr '=', many space, lit "\"jsonb\"".toList]

/-- `@JdbcTypeCode(SqlTypes.JSON)` -/
def jdbcTypeCode : Str := "@JdbcTypeCode(SqlTypes.JSON)".toList

/-- `type_annotation_patterns` followed by `type_class_patterns`, each with the source
text of its pattern, which `needs_hibernate_imports` reads. -/
def typePatterns : List (Str × Rewrite) :=
  [("@Type\\s*\\(\\s*type\\s*=\\s*\"jsonb\"\\s*\\)".toList, ⟨typeCallRe jsonbArg, jdbcTypeCode⟩),
   ("@Type\\s*\\(\\s*type\\s*=\\s*\"jsonb\"\\s*\\)\\s*\\n".toList,
     ⟨.seq (typeCallRe jsonbArg) (.seq (many space) (chr '\n')), jdbcTypeCode ++ ['\n']⟩),
   ("@Type\\s*\\(\\s*JsonType\\.class\\s*\\)".toList,
     ⟨typeCallRe (lit "JsonType.class".toList), jdbcTypeCode⟩),
   ("@Type\\s*\\(\\s*io\\.hypersistence\\.utils\\.hibernate\\.type\\.json\\.JsonType\\.class\\s*\\)".toList,
     ⟨typeCallRe (lit "io.hypersistence.utils.hibernate.type.json.JsonType.class".toList),
       jdbcTypeCode⟩)]

/-- `\.<name>\s*\(` -/
def matcherRe (name : Str) : Regex := seqs [lit ('.' :: name), many space, chr '(']

/-- `security_patterns`. -/
def securityPatterns : List Rewrite :=
  [⟨matcherRe "antMatchers".toList, ".requestMatchers(".toList⟩,
   ⟨matcherRe "mvcMatchers".toList, ".requestMatchers(".toList⟩]

/-! ## `migrate_file` -/

/-- `needs_hibernate_imports`: `any(pattern[0] in content ...)`. -/
def needsHibernateImports (content : Str) : Bool := typePatterns.any fun p => isIn p.1 content

/-- `(import\s+[\w\.]+;)` -/
def importStatementRe : Regex :=
  .group 1 (seqs [lit "import".toList, plus space, plus wordDot, chr ';'])

/-- `import org.hibernate.annotations.JdbcTypeCode;` -/
def jdbcTypeCodeImport : Str := "import org.hibernate.annotations.JdbcTypeCode;".toList

/-- `import org.hibernate.type.SqlTypes;` -/
def sqlTypesImport : Str := "import org.hibernate.type.SqlTypes;".toList

/-- `add_hibernate_imports`: the missing ones of the two imports, after the last import
statement. -/
def addHibernateImports (content : Str) : Str :=
  if needsHibernateImports content then
    let hasJdbcTypeCode := isIn jdbcTypeCodeImport content
    let hasSqlTypes := isIn sqlTypesImport content
    if !hasJdbcTypeCode || !hasSqlTypes then
      match (findAll importStatementRe content).getLast? with
      | some last =>
        let insertPos := last.start + last.text.length
        let newImports := (if hasJdbcTypeCode then [] else [jdbcTypeCodeImport]) ++
          (if hasSqlTypes then [] else [sqlTypesImport])
        if newImports.isEmpty then content
        else content.take insertPos ++ '\n' :: "\n".toList.intercalate newImports ++ content.drop insertPos
      | none => content
    else content
  else content

/-- `@Type\s*\(` -/
def typeUseRe : Regex := seqs [lit "@Type".toList, many space, chr '(']

/-- `import\s+org\.hibernate\.annotations\.Type;\s*\n` -/
def typeImportRe : Regex :=
  seqs [lit "import".toList, plus space, lit "org.hibernate.annotations.Type;".toList, many space,
    chr '\n']

/-- `remove_old_type_import`. -/
def removeOldTypeImport (content : Str) : Str :=
  if (search typeUseRe content).isNone then sub typeImportRe [] content else content

/-- The state of one pattern loop of `migrate_file`: the text, the matches the loop has
counted, and `modified`. -/
structure Pass where
  content : Str
  fixed : Nat
  modified : Bool

/-- One iteration: a rewrite that changes the text is applied and its matches counted. -/
def rewriteStep (p : Pass) (r : Rewrite) : Pass :=
  let newContent := sub r.regex r.replacement p.content
  if newContent ≠ p.content then ⟨newContent, p.fixed + (findAll r.regex p.content).length, true⟩
  else p

/-- A pattern loop of `migrate_file`. -/
def rewritePass (rs : List Rewrite) (content : Str) (modified : Bool) : Pass :=
  rs.foldl rewriteStep ⟨content, 0, modified⟩

/-- What `migrate_file` computes for one text: the text it would write, `modified`, and
its increments of the three counters. -/
structure Migration where
  content : Str
  modified : Bool
  javaxImportsFixed : Nat
  typeAnnotationsFixed : Nat
  securityConfigsFixed : Nat
  deriving Repr, DecidableEq

/-- The text transformation of `migrate_file`. -/
def migrateContent (original : Str) : Migration :=
  let javax := rewritePass javaxToJakartaPatterns original false
  let types := rewritePass (typePatterns.map (·.2)) javax.content javax.modified
  let content :=
    if types.modified && needsHibernateImports types.content then
      removeOldTypeImport (addHibernateImports types.content)
    else types.content
  let security := rewritePass securityPatterns content types.modified
  ⟨security.content, security.modified, javax.fixed, types.fixed, security.fixed⟩

/-! ## The verifier's checks -/

/-- An issue dictionary of `MigrationVerifier`. -/
structure Issue where
  file : Str
  line : Nat
  issue : Str
  type : Str
  deriving Repr, DecidableEq

/-- The shared shape of `check_javax_imports`, `check_type_annotations` and
`check_security_deprecations`: one issue per match of each pattern, pattern by
pattern. -/
def patternIssues (patterns : List (Regex × Str)) (type filePath content : Str) : List Issue :=
  patterns.flatMap fun (r, replacement) =>
    (findAll r content).map fun m =>
      ⟨filePath, lineOf content m, "Found ".toList ++ m.text ++ " - should be ".toList ++ replacement,
        type⟩

/-- `check_javax_imports`. -/
def checkJavaxImports (filePath content : Str) : List Issue :=
  patternIssues (javaxPackages.map fun pkg => (javaxRe pkg, "jakarta.".toList ++ pkg))
    "javax_import".toList filePath content

/-- `check_type_annotations`. -/
def checkTypeAnnotations (filePath content : Str) : List Issue :=
  patternIssues
    [(typeCallRe jsonbArg, jdbcTypeCode), (typeCallRe (lit "JsonType.class".toList), jdbcTypeCode),
     (typeCallRe (lit "io.hypersistence.utils.hibernate.type.json.JsonType.class".toList),
       jdbcTypeCode)]
    "type_annotation".toList filePath content

/-- `check_security_deprecations`. -/
def checkSecurityDeprecations (filePath content : Str) : List Issue :=
  patternIssues
    [(matcherRe "antMatchers".toList, ".requestMatchers(".toList),
     (matcherRe "mvcMatchers".toList, ".requestMatchers(".toList),
     (seqs [lit ".authorizeRequests".toList, many space, chr '(', many space, chr ')'],
       ".authorizeHttpRequests()".toList)]
    "security_deprecation".toList filePath content

/-- The loop of `check_duplicate_imports`: the names seen, and those seen twice. -/
def duplicateScan (imports : List Str) : PySet Str × PySet Str :=
  imports.foldl (fun (seen, duplicates) imp =>
    (seen.add imp, if imp ∈ seen then duplicates.add imp else duplicates)) (.empty, .empty)

/-- `check_duplicate_imports`. -/
def checkDuplicateImports (filePath content : Str) : List Issue :=
  let duplicates := (duplicateScan (findAllGroup importRe content)).2
  if duplicates.elems.isEmpty then []
  else [⟨filePath, 0, "Duplicate imports found: ".toList ++ ", ".toList.intercalate duplicates.elems,
    "duplicate_import".toList⟩]

/-- `check_missing_imports`. -/
def checkMissingImports (filePath content : Str) : List Issue :=
  (if isIn "@JdbcTypeCode".toList content && !isIn jdbcTypeCodeImport content then
    [⟨filePath, 0, "Missing import: org.hibernate.annotations.JdbcTypeCode".toList,
      "missing_import".toList⟩] else []) ++
  (if isIn "SqlTypes.JSON".toList content && !isIn sqlTypesImport content then
    [⟨filePath, 0, "Missing import: org.hibernate.type.SqlTypes".toList,
      "missing_import".toList⟩] else [])

/-! ## The import step never runs on ordinary text -/

theorem backslash_mem_typePattern {p : Str × Rewrite} (hp : p ∈ typePatterns) : '\\' ∈ p.1 := by
  simp only [typePatterns, List.mem_cons, List.mem_singleton, List.not_mem_nil, or_false] at hp
  rcases hp with rfl | rfl | rfl | rfl <;> decide

/-- A text without a backslash contains none of the pattern sources. -/
theorem needsHibernateImports_eq_false {content : Str} (h : '\\' ∉ content) :
    needsHibernateImports content = false := by
  rw [needsHibernateImports, List.any_eq_false]
  intro p hp hin
  obtain ⟨s, t, hst⟩ := (isIn_iff_contiguous _ _).mp hin
  exact h (hst ▸ List.mem_append_left _ (List.mem_append_right _ (backslash_mem_typePattern hp)))

/-- `@Type\s*\(`, the text every pattern source of `needs_hibernate_imports` starts with. -/
def typeSourceHead : Str := "@Type\\s*\\(".toList

theorem typeSourceHead_startsPattern : ∀ p ∈ typePatterns, typeSourceHead <+: p.1 := by
  decide

/-- A text without a backslash does not contain `@Type\s*\(`. -/
theorem not_infix_typeSourceHead {content : Str} (h : '\\' ∉ content) :
    ¬ typeSourceHead <:+: content :=
  fun hc => h (hc.subset (by decide))

/-- A text without `@Type\s*\(` contains none of the pattern sources. -/
theorem needsHibernateImports_eq_false_of_head {content : Str}
    (h : ¬ typeSourceHead <:+: content) : needsHibernateImports content = false := by
  rw [needsHibernateImports, List.any_eq_false]
  intro p hp hin
  exact h ((typeSourceHead_startsPattern p hp).isInfix.trans ((isIn_iff_contiguous _ _).mp hin))

theorem not_mem_rewritePass {c : Char} {rs : List Rewrite} (hr : ∀ r ∈ rs, c ∉ r.replacement)
    {content : Str} (h : c ∉ content) (m : Bool) : c ∉ (rewritePass rs content m).content := by
  unfold rewritePass
  suffices ∀ p : Pass, c ∉ p.content → c ∉ (rs.foldl rewriteStep p).content from this _ h
  induction rs with
  | nil => exact fun _ h => h
  | cons r rs ih =>
    intro p hp
    refine ih (fun r' h' => hr r' (List.mem_cons_of_mem _ h')) _ ?_
    unfold rewriteStep
    dsimp only
    split
    · exact fun hc => (mem_sub hc).elim hp (hr r (List.mem_cons_self _ _))
    · exact hp

theorem backslash_not_mem_javax : ∀ r ∈ javaxToJakartaPatterns, '\\' ∉ r.replacement := by
  decide

theorem backslash_not_mem_types : ∀ r ∈ typePatterns.map (·.2), '\\' ∉ r.replacement := by
  decide

/-- **The migration of ordinary text.** On a text without a backslash, `migrate_file`
applies its three rewrite passes and nothing else: `add_hibernate_imports` and
`remove_old_type_import` never run. -/
theorem migrateContent_of_no_backslash {original : Str} (h : '\\' ∉ original) :
    (migrateContent original).content =
      (rewritePass securityPatterns
        (rewritePass (typePatterns.map (·.2))
          (rewritePass javaxToJakartaPatterns original false).content
          (rewritePass javaxToJakartaPatterns original false).modified).content
        (rewritePass (typePatterns.map (·.2))
          (rewritePass javaxToJakartaPatterns original false).content
          (rewritePass javaxToJakartaPatterns original false).modified).modified).content := by
  have hj := not_mem_rewritePass backslash_not_mem_javax h false
  have ht := not_mem_rewritePass backslash_not_mem_types hj
    (rewritePass javaxToJakartaPatterns original false).modified
  simp only [migrateContent, needsHibernateImports_eq_false ht, Bool.and_false]
  rfl

/-- An entity with a `jsonb` column, already importing `org.hibernate.annotations.Type`. -/
def jsonbEntity : Str :=
  "package com.waqiti.x;\n\nimport org.hibernate.annotations.Type;\n\npublic class Doc \x7b\n  @Type(type = \"jsonb\")\n  private String data;\n\x7d\n".toList

set_option maxRecDepth 8000 in
/-- `check_missing_imports` reports nothing on `jsonbEntity`; `migrate_file` rewrites its
`@Type` (so `check_type_annotations` is satisfied) without adding the imports, and
`check_missing_imports` reports both as missing on the result. -/
theorem migration_introduces_missing_imports :
    checkMissingImports "Doc.java".toList jsonbEntity = [] ∧
    (migrateContent jsonbEntity).modified = true ∧
    checkTypeAnnotations "Doc.java".toList (migrateContent jsonbEntity).content = [] ∧
    checkMissingImports "Doc.java".toList (migrateContent jsonbEntity).content =
      [⟨"Doc.java".toList, 0, "Missing import: org.hibernate.annotations.JdbcTypeCode".toList,
          "missing_import".toList⟩,
        ⟨"Doc.java".toList, 0, "Missing import: org.hibernate.type.SqlTypes".toList,
          "missing_import".toList⟩] := by
  decide

/-! ## The rewrite is not idempotent -/

/-- A pattern loop never sets `modified` back to false. -/
theorem modified_foldl_rewriteStep (rs : List Rewrite) (p : Pass) (h : p.modified = true) :
    (rs.foldl rewriteStep p).modified = true := by
  refine foldl_inv _ (fun p : Pass => p.modified = true) (fun p r hp => ?_) rs p h
  dsimp only [rewriteStep]
  split
  · rfl
  · exact hp

theorem modified_rewritePass_true (rs : List Rewrite) (content : Str) :
    (rewritePass rs content true).modified = true :=
  modified_foldl_rewriteStep rs _ rfl

/-- A loop whose first rewrite changes the text sets `modified`. -/
theorem modified_rewritePass_cons {r : Rewrite} {rs : List Rewrite} {content : Str} {m : Bool}
    (h : sub r.regex r.replacement content ≠ content) :
    (rewritePass (r :: rs) content m).modified = true :=
  modified_foldl_rewriteStep rs _ (by simp only [rewriteStep, if_pos h])

/-- `modified` never goes back to false: a file whose `javax` pass changes it is
reported modified. -/
theorem migrateContent_modified_of_javax {original : Str}
    (h : (rewritePass javaxToJakartaPatterns original false).modified = true) :
    (migrateContent original).modified = true := by
  simp only [migrateContent, h, modified_rewritePass_true]

/-- A file whose comment quotes the source of a `@Type` pattern, ends a line with
`import`, and holds an import of `org.hibernate.annotations.Type` before a line starting
with `javax.persistence.`. -/
def quotedPatternFile : Str :=
  "import javax.persistence.Id;\n/* @Type\\s*\\(\\s*JsonType\\.class\\s*\\) import\nimport org.hibernate.annotations.Type;\njavax.persistence. */\nimport com.waqiti.A;\n".toList

/-- The text `migrate_file` writes for `quotedPatternFile`. -/
def quotedPatternMigrated : Str :=
  "import jakarta.persistence.Id;\n/* @Type\\s*\\(\\s*JsonType\\.class\\s*\\) import\njavax.persistence. */\nimport com.waqiti.A;\nimport org.hibernate.annotations.JdbcTypeCode;\nimport org.hibernate.type.SqlTypes;\n".toList

set_option maxRecDepth 8000 in
/-- The `javax` pass sets `modified`, and the quoted pattern source makes
`needs_hibernate_imports` true. The imports are added after `import com.waqiti.A;`, and
`remove_old_type_import` then deletes the line between `import` and
`javax.persistence.`: the result holds a new `javax` import, which
`check_javax_imports` reports on line 2 and a second migration rewrites. -/
theorem removed_type_import_joins_javax_import :
    migrateContent quotedPatternFile = ⟨quotedPatternMigrated, true, 1, 0, 0⟩ ∧
      (checkJavaxImports "C.java".toList quotedPatternMigrated).map (·.line) = [2] ∧
      (migrateContent quotedPatternMigrated).modified = true :=
  ⟨by decide, by decide, migrateContent_modified_of_javax (modified_rewritePass_cons (by decide))⟩

end SpringBoot3Migrator
