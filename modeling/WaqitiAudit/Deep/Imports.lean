import WaqitiAudit.Validator.Basic

/-!
# Deep validation: the class registry and truly missing imports

`build_class_registry` and `find_truly_missing_imports` of
`src/services/deep_validation.py`. The registry is filled from the text of every
non-test file that has a `package` statement, by two regular expressions:

* every match `N` of `(public\s+)?(class|interface|enum|@interface)\s+(\w+)`, anywhere
  in the text, registers `p.N`;
* for each such `N`, every match of `N\s*{[^}]*?(public\s+)?(static\s+)?(class|interface|enum)\s+(\w+)`
  registers `p.N.M` for its last group `M`.

The same files record their internal imports, and `find_truly_missing_imports` lists
every recorded import that is not a key of the registry.

What is proved:

* **the scan** — `mem_classFiles_buildClassRegistry` and
  `mem_importsMap_buildClassRegistry`: the registry holds exactly the names some file
  `Registers`, and `imports_map[F]` exactly the imports the files at `F` record;
* **the report** — `findTrulyMissingImports_iff`: an import is reported exactly when a
  file records it and no file registers it;
* **what the patterns miss** — `truly_missing_declared`: a `record` is never
  registered, and neither is a nested type of a class with an `extends` clause, so
  an import of either is reported although the corpus declares it.
-/

namespace DeepValidator

open PyStr PyRe

/-- A value of `class_definitions`. -/
structure ClassDefinition where
  type : Str
  isPublic : Bool
  file : Str
  deriving Repr, DecidableEq

/-- One entry of the list `find_truly_missing_imports` returns. -/
structure MissingImport where
  file : Str
  importedClass : Str
  type : Str
  deriving Repr, DecidableEq

end DeepValidator

open PyStr DeepValidator in
/-- The state of a `DeepValidator` object as the two methods use it. -/
structure DeepValidator where
  /-- `class_files`: fully qualified name to file path. -/
  classFiles : PyDict Str Str := .empty
  /-- `imports_map`, a `defaultdict(set)` from file path to imported names. -/
  importsMap : PyDict Str (PySet Str) := .empty
  classDefinitions : PyDict Str ClassDefinition := .empty

namespace DeepValidator

open PyStr PyRe ReferenceValidator

/-- A validator right after `__init__`. -/
def init : DeepValidator := {}

/-! ## The scan -/

/-- `(public\s+)?(class|interface|enum|@interface)\s+(\w+)` -/
def definitionRe : Regex :=
  seqs [opt (.group 1 (.seq (lit "public".toList) (plus space))),
    .group 2 (alts [lit "class".toList, lit "interface".toList, lit "enum".toList,
      lit "@interface".toList]),
    plus space, .group 3 (plus word)]

/-- `inner_pattern` for the class name `className`:
`<className>\s*{[^}]*?(public\s+)?(static\s+)?(class|interface|enum)\s+(\w+)`. -/
def innerRe (className : Str) : Regex :=
  seqs [lit className, many space, chr '{', lazyMany (notChar '}'),
    opt (.group 1 (.seq (lit "public".toList) (plus space))),
    opt (.group 2 (.seq (lit "static".toList) (plus space))),
    .group 3 (alts [lit "class".toList, lit "interface".toList, lit "enum".toList]),
    plus space, .group 4 (plus word)]

/-- `'/test/' in path or '/tests/' in path`. -/
def isTestPath (path : Str) : Bool := isIn "/test/".toList path || isIn "/tests/".toList path

/-- One iteration of the loop over the inner matches: `class_files[inner_fqn] = file`. -/
def registerInner (path fqn : Str) (classFiles : PyDict Str Str) (m : Match) :
    PyDict Str Str :=
  classFiles.set (fqn ++ '.' :: m.grp 4) path

/-- One iteration of the loop over the matches of the definition pattern. -/
def registerDefinition (f : JavaFile) (pkg : Str) (v : DeepValidator) (m : Match) :
    DeepValidator :=
  let fqn := pkg ++ '.' :: m.grp 3
  { v with
    classFiles := (findAll (innerRe (m.grp 3)) f.content).foldl (registerInner f.path fqn)
      (v.classFiles.set fqn f.path)
    classDefinitions := v.classDefinitions.set fqn ⟨m.grp 2, truthy (m.group 1), f.path⟩ }

/-- One iteration of the import loop: an internal name not ending in `*` is added to
`imports_map[file]`. -/
def recordImport (path : Str) (importsMap : PyDict Str (PySet Str)) (m : Match) :
    PyDict Str (PySet Str) :=
  if isIn waqiti (m.grp 1) && !endsWith (m.grp 1) "*".toList then importsMap.addTo path (m.grp 1)
  else importsMap

/-- The body of the loop of `build_class_registry` for one file. -/
def scanFile (v : DeepValidator) (f : JavaFile) : DeepValidator :=
  if isTestPath f.path then v
  else
    match search packageRe f.content with
    | none => v
    | some pm =>
      let v := (findAll definitionRe f.content).foldl (registerDefinition f (pm.grp 1)) v
      { v with importsMap := (findAll importRe f.content).foldl (recordImport f.path) v.importsMap }

/-- `build_class_registry`. -/
def buildClassRegistry (v : DeepValidator) (files : Corpus) : DeepValidator :=
  files.foldl scanFile v

/-- `find_truly_missing_imports`. -/
def findTrulyMissingImports (v : DeepValidator) : List MissingImport :=
  v.importsMap.items.flatMap fun (path, imports) =>
    (imports.elems.filter (· ∉ v.classFiles.keys)).map fun c => ⟨path, c, "MISSING_CLASS".toList⟩

/-! ## What one file contributes -/

/-- The names the scan registers for file `f`: `p.N` for every match `N` of the
definition pattern and `p.N.M` for every match `M` of the inner pattern of `N`, where
`p` is the first `package` statement. -/
def Registers (f : JavaFile) (x : Str) : Prop :=
  isTestPath f.path = false ∧ ∃ pm, search packageRe f.content = some pm ∧
    ∃ m ∈ findAll definitionRe f.content, x = pm.grp 1 ++ '.' :: m.grp 3 ∨
      ∃ im ∈ findAll (innerRe (m.grp 3)) f.content,
        x = (pm.grp 1 ++ '.' :: m.grp 3) ++ '.' :: im.grp 4

/-- The imports the scan records for file `f`. -/
def Imports (f : JavaFile) (x : Str) : Prop :=
  isTestPath f.path = false ∧ (search packageRe f.content).isSome ∧
    ∃ m ∈ findAll importRe f.content, m.grp 1 = x ∧ isIn waqiti x = true ∧
      endsWith x "*".toList = false

theorem mem_keys_registerDefinition (f : JavaFile) (pkg : Str) (v : DeepValidator) (m : Match)
    (x : Str) :
    x ∈ (registerDefinition f pkg v m).classFiles.keys ↔ x ∈ v.classFiles.keys ∨
      (x = pkg ++ '.' :: m.grp 3 ∨
        ∃ im ∈ findAll (innerRe (m.grp 3)) f.content, x = (pkg ++ '.' :: m.grp 3) ++ '.' :: im.grp 4) := by
  rw [registerDefinition, foldl_iff (registerInner f.path _) (x ∈ ·.keys)
    (fun im => x = (pkg ++ '.' :: m.grp 3) ++ '.' :: im.grp 4)
    (fun d im => by simp only [registerInner, PyDict.mem_keys_set, or_comm])]
  simp only [PyDict.mem_keys_set]
  exact (or_congr_left or_comm).trans or_assoc

@[simp] theorem importsMap_registerDefinition (f : JavaFile) (pkg : Str) (v : DeepValidator)
    (m : Match) : (registerDefinition f pkg v m).importsMap = v.importsMap := rfl

theorem mem_members_recordImport (path p x : Str) (d : PyDict Str (PySet Str)) (m : Match) :
    x ∈ (recordImport path d m).members p ↔ x ∈ d.members p ∨
      (path = p ∧ m.grp 1 = x ∧ isIn waqiti x = true ∧ endsWith x "*".toList = false) := by
  unfold recordImport
  split
  · rename_i h
    simp only [Bool.and_eq_true, Bool.not_eq_true'] at h
    rw [PyDict.mem_members_addTo]
    exact or_congr_right ⟨fun ⟨hp, hx⟩ => by subst hx; exact ⟨hp, rfl, h⟩,
      fun ⟨hp, hx, _⟩ => ⟨hp, hx.symm⟩⟩
  · rename_i h
    simp only [Bool.and_eq_true, Bool.not_eq_true', not_and] at h
    constructor
    · exact .inl
    · rintro (h' | ⟨-, rfl, h₁, h₂⟩)
      · exact h'
      · exact absurd h₂ (by simpa using h h₁)

theorem mem_classFiles_scanFile (v : DeepValidator) (f : JavaFile) (x : Str) :
    x ∈ (v.scanFile f).classFiles.keys ↔ x ∈ v.classFiles.keys ∨ Registers f x := by
  unfold scanFile
  cases ht : isTestPath f.path
  · simp only [Bool.false_eq_true, if_false]
    cases hp : search packageRe f.content with
    | none => exact (or_iff_left fun ⟨_, _, h, _⟩ => nomatch hp.symm.trans h).symm
    | some pm =>
      rw [foldl_iff (registerDefinition f (pm.grp 1)) (x ∈ ·.classFiles.keys) _
        (mem_keys_registerDefinition f (pm.grp 1) · · x)]
      simp only [Registers, ht, hp, true_and, Option.some.injEq, exists_eq_left']
  · exact (or_iff_left fun ⟨h, _⟩ => nomatch ht.symm.trans h).symm

theorem mem_importsMap_scanFile (v : DeepValidator) (f : JavaFile) (p x : Str) :
    x ∈ (v.scanFile f).importsMap.members p ↔
      x ∈ v.importsMap.members p ∨ (f.path = p ∧ Imports f x) := by
  unfold scanFile
  cases ht : isTestPath f.path
  · simp only [Bool.false_eq_true, if_false]
    cases hp : search packageRe f.content with
    | none => exact (or_iff_left fun ⟨_, _, h, _⟩ => absurd h (by rw [hp]; decide)).symm
    | some pm =>
      rw [foldl_iff (recordImport f.path) (x ∈ ·.members p) _
        (fun d m => mem_members_recordImport f.path p x d m),
        foldl_const (registerDefinition f (pm.grp 1)) (·.importsMap)
          (findAll definitionRe f.content) v fun a _ _ h => h]
      simp only [Imports, ht, hp, Option.isSome_some, true_and]
      exact or_congr_right
        ⟨fun ⟨m, hm, hc, h⟩ => ⟨hc, m, hm, h⟩, fun ⟨hc, m, hm, h⟩ => ⟨m, hm, hc, h⟩⟩
  · exact (or_iff_left fun ⟨_, h, _⟩ => nomatch ht.symm.trans h).symm

/-! ## The whole scan -/

section Scan

variable (files : Corpus)

/-- **The registry.** After `build_class_registry` on a fresh validator, a name is a
key of `class_files` exactly when some file of the corpus registers it. -/
theorem mem_classFiles_buildClassRegistry (x : Str) :
    x ∈ (init.buildClassRegistry files).classFiles.keys ↔ ∃ f ∈ files, Registers f x := by
  rw [buildClassRegistry, foldl_iff scanFile (x ∈ ·.classFiles.keys) _
    (mem_classFiles_scanFile · · x)]
  simp [init]

/-- **The imports.** `imports_map[p]` holds exactly the imports the files at path `p`
record. -/
theorem mem_importsMap_buildClassRegistry (p x : Str) :
    x ∈ (init.buildClassRegistry files).importsMap.members p ↔
      ∃ f ∈ files, f.path = p ∧ Imports f x := by
  rw [buildClassRegistry, foldl_iff scanFile (x ∈ ·.importsMap.members p) _
    (mem_importsMap_scanFile · · p x)]
  simp [init, PyDict.members]

end Scan

theorem mem_findTrulyMissingImports (v : DeepValidator) (i : MissingImport) :
    i ∈ v.findTrulyMissingImports ↔ i.type = "MISSING_CLASS".toList ∧
      i.importedClass ∈ v.importsMap.members i.file ∧ i.importedClass ∉ v.classFiles.keys := by
  simp only [findTrulyMissingImports, List.mem_flatMap, List.mem_map, List.mem_filter,
    decide_eq_true_eq]
  constructor
  · rintro ⟨⟨p, s⟩, hps, c, ⟨hc, hk⟩, rfl⟩
    have hget := (v.importsMap.mem_items_iff).mp hps
    exact ⟨rfl, by simpa [PyDict.members, hget] using hc, hk⟩
  · rintro ⟨ht, hc, hk⟩
    cases hget : v.importsMap.get? i.file with
    | none => simp [PyDict.members, hget] at hc
    | some s =>
      refine ⟨(i.file, s), (v.importsMap.mem_items_iff).mpr hget, i.importedClass,
        ⟨by simpa [PyDict.members, hget] using hc, hk⟩, ?_⟩
      cases i; simp_all

/-- **Truly missing imports.** After `build_class_registry` on a fresh validator,
`find_truly_missing_imports` reports the import `X` of the file at `F` exactly when a
file at `F` records the import and no file of the corpus registers `X`; every entry
has type `MISSING_CLASS`. -/
theorem findTrulyMissingImports_iff (files : Corpus) (i : MissingImport) :
    i ∈ (init.buildClassRegistry files).findTrulyMissingImports ↔
      i.type = "MISSING_CLASS".toList ∧ (∃ f ∈ files, f.path = i.file ∧ Imports f i.importedClass) ∧
        ∀ g ∈ files, ¬ Registers g i.importedClass := by
  rw [mem_findTrulyMissingImports, mem_importsMap_buildClassRegistry,
    mem_classFiles_buildClassRegistry, not_exists]
  simp only [not_and]

/-- A `record`: `(class|interface|enum|@interface)` does not name it. -/
def moneyRecord : JavaFile :=
  ⟨"/r/services/x/Money.java".toList,
    "package com.waqiti.x;\npublic record Money(long cents) \x7b\x7d\n".toList⟩

/-- A static nested class of a class with an `extends` clause. -/
def outerNested : JavaFile :=
  ⟨"/r/services/x/Outer.java".toList,
    "package com.waqiti.x;\npublic class Outer extends Exception \x7b\n  public static class Inner \x7b\x7d\n\x7d\n".toList⟩

/-- A file importing both. -/
def payImporter : JavaFile :=
  ⟨"/r/services/x/Pay.java".toList,
    "package com.waqiti.x;\nimport com.waqiti.x.Money;\nimport com.waqiti.x.Outer.Inner;\npublic class Pay \x7b\x7d\n".toList⟩

set_option maxRecDepth 8000 in
/-- The record `com.waqiti.x.Money` and the nested class `com.waqiti.x.Outer.Inner`
are both declared in the corpus, and both imports are reported as truly missing. -/
theorem truly_missing_declared :
    ⟨payImporter.path, "com.waqiti.x.Money".toList, "MISSING_CLASS".toList⟩ ∈
        (init.buildClassRegistry [moneyRecord, outerNested, payImporter]).findTrulyMissingImports ∧
      ⟨payImporter.path, "com.waqiti.x.Outer.Inner".toList, "MISSING_CLASS".toList⟩ ∈
        (init.buildClassRegistry [moneyRecord, outerNested, payImporter]).findTrulyMissingImports := by
  decide

end DeepValidator
