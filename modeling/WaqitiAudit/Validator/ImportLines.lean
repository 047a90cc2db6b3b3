import WaqitiAudit.Validator.Cycles

/-!
# Phase 1 line by line, and the imports the cycle detector reads

`validate_imports` reads each file with `readlines()` and applies
`re.match(r'import\s+([\w.]+);', line.strip())` to every line: a line whose stripped
text *starts* with an import statement yields at most one finding, at its line number.
`detect_circular_dependencies` applies `re.finditer` with the same pattern to the whole
text, so it also reads import statements inside comments, after the first statement of
a line, and at the end of a longer word.

What is proved:

* **findings per line** — `brokenImports_at`: for every corpus, as the walk yields it
  (each path once), the findings phase 1 appends at a file and a line number are the one
  `importFinding` computes for that line, or none; no other position of the text
  contributes;
* **the wildcard test reads the whole line** — `wildcard_tail_hides_missing_import`: a
  line whose first statement imports a class no file declares, and which ends with a
  wildcard import, yields no finding at all;
* **the cycle detector reads comments** — `commented_import_makes_cycle`: an import in a
  comment, which phase 1 never sees, closes a cycle that is reported twice.
-/

namespace ReferenceValidator

open PyStr PyRe

/-! ## Findings per line -/

/-- The names `validate_imports` takes for the import statements of a text: the group of
`re.match` at the start of every stripped line. -/
def importStatements (content : Str) : List Str :=
  (readLines content).filterMap fun line => (matchPrefix importRe (strip line)).map (·.grp 1)

theorem importFinding_eq_some {v : ReferenceValidator} {path : Str} {n : Nat} {line : Str}
    {i : BrokenReference} (h : v.importFinding path n line = some i) :
    i.sourceFile = path ∧ i.lineNumber = n := by
  unfold importFinding at h
  split at h
  · cases h
  · dsimp only at h
    split_ifs at h <;> cases h <;> exact ⟨rfl, rfl⟩

theorem sourceFile_of_mem_importFindings {v : ReferenceValidator} {f : JavaFile}
    {i : BrokenReference} (h : i ∈ v.importFindings f) : i.sourceFile = f.path := by
  obtain ⟨⟨n, line⟩, -, hi⟩ := List.mem_filterMap.mp h
  exact (importFinding_eq_some hi).1

theorem importFinding_nil (v : ReferenceValidator) (path : Str) (n : Nat) :
    v.importFinding path n [] = none := rfl

/-- A line numbered from `m` has its finding numbered `m` or later. -/
theorem le_lineNumber_of_mem {v : ReferenceValidator} {path : Str} {m : Nat} {lines : List Str}
    {i : BrokenReference}
    (h : i ∈ (lines.enumFrom m).filterMap fun p => v.importFinding path p.1 p.2) :
    m ≤ i.lineNumber := by
  obtain ⟨⟨k, l⟩, hk, hi⟩ := List.mem_filterMap.mp h
  rw [(importFinding_eq_some hi).2]
  exact (List.mem_enumFrom hk).1

/-- Numbering the lines from `m`: the findings numbered `n` are those of the line at
`n - m`. -/
theorem filter_lineNumber_enumFrom (v : ReferenceValidator) (path : Str) (n : Nat) :
    ∀ (lines : List Str) (m : Nat), m ≤ n →
      (((lines.enumFrom m).filterMap fun p => v.importFinding path p.1 p.2).filter
        fun i => i.lineNumber = n) = (v.importFinding path n (lines.getD (n - m) [])).toList
  | [], m, _ => by rw [List.getD_nil, importFinding_nil]; rfl
  | line :: lines, m, hm => by
    rw [List.enumFrom_cons, List.filterMap_cons]
    by_cases hmn : m = n
    · subst hmn
      have hrest : ((lines.enumFrom (m + 1)).filterMap fun p =>
          v.importFinding path p.1 p.2).filter (fun i => i.lineNumber = m) = [] :=
        List.filter_eq_nil_iff.mpr fun i hi => by
          have := le_lineNumber_of_mem hi
          simp only [decide_eq_true_eq]
          omega
      rw [Nat.sub_self, List.getD_cons_zero]
      cases hf : v.importFinding path m line with
      | none => exact hrest
      | some i =>
        dsimp only
        rw [List.filter_cons, if_pos (decide_eq_true (importFinding_eq_some hf).2), hrest]
        rfl
    · have hsucc : n - m = n - (m + 1) + 1 := by omega
      rw [hsucc, List.getD_cons_succ, ← filter_lineNumber_enumFrom v path n lines (m + 1) (by omega)]
      cases hf : v.importFinding path m line with
      | none => rfl
      | some i => simp [List.filter_cons, (importFinding_eq_some hf).2, hmn]

/-- The findings of a file carry its path, so those at a path come from the files there. -/
theorem filter_sourceFile_flatMap (v : ReferenceValidator) (p : Str) :
    ∀ files : Corpus, (files.flatMap v.importFindings).filter (fun i => i.sourceFile = p) =
      (files.filter fun g => g.path = p).flatMap v.importFindings
  | [] => rfl
  | g :: gs => by
    rw [List.flatMap_cons, List.filter_append, filter_sourceFile_flatMap v p gs, List.filter_cons]
    by_cases hg : g.path = p
    · rw [if_pos (decide_eq_true hg), List.flatMap_cons,
        List.filter_eq_self.mpr fun i hi => by simp [sourceFile_of_mem_importFindings hi, hg]]
    · rw [if_neg (by simpa using hg),
        List.filter_eq_nil_iff.mpr fun i hi => by simp [sourceFile_of_mem_importFindings hi, hg],
        List.nil_append]

/-- A walk yields each path once, so a file is the only one at its path. -/
theorem filter_path_of_nodup : ∀ {files : Corpus} {f : JavaFile},
    (files.map (·.path)).Nodup → f ∈ files → files.filter (fun g => g.path = f.path) = [f]
  | g :: gs, f, hnd, hf => by
    obtain ⟨hg, hgs⟩ := List.nodup_cons.mp hnd
    rw [List.filter_cons]
    rcases List.mem_cons.mp hf with rfl | hf
    · rw [if_pos (decide_eq_true rfl), List.filter_eq_nil_iff.mpr fun h hh => by
        simpa using fun he => hg (List.mem_map.mpr ⟨h, hh, he⟩)]
    · have hne : g.path ≠ f.path := fun he => hg (List.mem_map.mpr ⟨f, hf, he.symm⟩)
      rw [if_neg (by simpa using hne), filter_path_of_nodup hgs hf]

/-- **Findings per line.** For every corpus with each path once, the findings phase 1
appends at line `n` of a file are those `importFinding` computes for that line. -/
theorem brokenImports_at (v : ReferenceValidator) (files : Corpus)
    (hpaths : (files.map (·.path)).Nodup) {f : JavaFile} (hf : f ∈ files) {n : Nat}
    (hn : 0 < n) :
    (v.validateImports files).report.brokenImports.filter
        (fun i => i.sourceFile = f.path ∧ i.lineNumber = n) =
      v.report.brokenImports.filter (fun i => i.sourceFile = f.path ∧ i.lineNumber = n) ++
        (v.importFinding f.path n ((readLines f.content).getD (n - 1) [])).toList := by
  have hsplit : (fun i : BrokenReference => decide (i.sourceFile = f.path ∧ i.lineNumber = n)) =
      fun i => decide (i.lineNumber = n) && decide (i.sourceFile = f.path) := by
    funext i
    rw [Bool.decide_and, Bool.and_comm]
  rw [validateImports, List.filter_append, hsplit, ← List.filter_filter (l := files.flatMap _),
    filter_sourceFile_flatMap, filter_path_of_nodup hpaths hf, List.flatMap_singleton,
    importFindings, filter_lineNumber_enumFrom v f.path n _ 1 hn]

/-! ## The wildcard test -/

/-- A file whose second line imports a missing class and then a wildcard package. -/
def wildcardTailFile : JavaFile :=
  ⟨"/r/services/x/Foo.java".toList,
    "package com.waqiti.x;\nimport com.waqiti.x.Missing; import com.waqiti.y.*;\npublic class Foo \x7b\x7d\n".toList⟩

set_option maxRecDepth 8000 in
/-- `[\w.]+;` cannot match a wildcard, so `line.strip().endswith('*;')` only holds of a line
whose first statement is not the wildcard one: the missing class it imports is not
reported. -/
theorem wildcard_tail_hides_missing_import :
    (matchPrefix importRe (strip ((readLines wildcardTailFile.content).getD 1 []))).map
        (·.grp 1) = some "com.waqiti.x.Missing".toList ∧
      "com.waqiti.x.Missing".toList ∉
        (init.scanAllClasses [wildcardTailFile]).classRegistry.keys ∧
      (init.runValidation [wildcardTailFile]).1.report.brokenImports = [] := by
  decide

/-! ## Imports in comments -/

/-- `com.waqiti.x.B`, whose import of `A` is commented out. -/
def commentedImporter : JavaFile :=
  ⟨"/r/services/x/B.java".toList,
    "package com.waqiti.x;\n// import com.waqiti.x.A;\npublic class B \x7b\x7d\n".toList⟩

set_option maxRecDepth 8000 in
/-- The cycle detector reads the commented import of `A` that phase 1 skips, and reports
the cycle `A → B → A` in both orders although `B` does not import `A`. -/
theorem commented_import_makes_cycle :
    importedNames commentedImporter.content = ["com.waqiti.x.A".toList] ∧
      importStatements commentedImporter.content = [] ∧
      (init.runValidation [cycleFileA, commentedImporter]).1.report.circularDependencies =
        [("com.waqiti.x.A".toList, "com.waqiti.x.B".toList),
         ("com.waqiti.x.B".toList, "com.waqiti.x.A".toList)] ∧
      (init.runValidation [cycleFileA, commentedImporter]).1.report.brokenImports = [] := by
  decide

end ReferenceValidator
