import WaqitiAudit.Validator.Phases

/-!
# Phase 0: what the symbol table holds

`scan_all_classes` folds over the corpus and, for each file with a `package`
statement and a type declaration, writes the file's fully qualified name `N` into
every cache. The caches do not all behave alike when several files give the same
`N` (spec §9, "last writer wins"):

* `class_registry` and `feign_clients` are dict assignments, so the last file
  wins (`registry_get?_scanAllClasses`, `feign_get?_scanAllClasses`);
* `public_classes`, the three role sets and `class_methods` only ever grow, so they
  hold the union over all files giving `N` (`mem_roleSet_scanAllClasses`,
  `mem_methods_scanAllClasses`).

From these step-and-fold lemmas follow the description of the table built from a
fresh validator (`scanAllClasses_symbolTable`), that a second scan of the same corpus
changes nothing (`scanAllClasses_idem`), and that the memberships every phase but
phase 4 consults do not depend on the order of the walk (`sameTable_of_perm`).
-/

namespace ReferenceValidator

open PyStr PyRe

/-! ## Roles -/

/-- The four name sets phase 0 fills from a file's declaration and annotations. -/
inductive Role where
  | public | component | service | repository
  deriving Repr, DecidableEq

/-- The set of names with a role: `public_classes`, `component_classes`,
`service_classes`, `repository_classes`. -/
def roleSet (v : ReferenceValidator) : Role → PySet Str
  | .public => v.publicClasses
  | .component => v.componentClasses
  | .service => v.serviceClasses
  | .repository => v.repositoryClasses

/-- Whether a file's entry gives its name the role. -/
def ClassEntry.hasRole (e : ClassEntry) : Role → Bool
  | .public => e.isPublic
  | .component => e.isComponent
  | .service => e.isService
  | .repository => e.isRepository

/-! ## The files registered under a name -/

/-- What phase 0 reads from `f`, if it registers `f` under `N`. -/
def declaredAs (N : Str) (f : JavaFile) : Option (JavaFile × ClassEntry) :=
  (classEntry f.content).bind fun e => if e.fqn = N then some (f, e) else none

/-- The files phase 0 registers under `N`, in corpus order, with what it reads. -/
def declarations (files : Corpus) (N : Str) : List (JavaFile × ClassEntry) :=
  files.filterMap (declaredAs N)

/-- The `feign_clients` values written under `N`, in corpus order. -/
def feignDeclarations (files : Corpus) (N : Str) : List FeignInfo :=
  (declarations files N).filterMap fun p => p.2.feignName.map (⟨p.1.path, ·, p.1.content⟩)

theorem declaredAs_fqn {N : Str} {f : JavaFile} {p : JavaFile × ClassEntry}
    (h : declaredAs N f = some p) : p.1 = f ∧ classEntry f.content = some p.2 ∧ p.2.fqn = N := by
  unfold declaredAs at h
  cases he : classEntry f.content with
  | none => simp [he] at h
  | some e =>
    rw [he, Option.some_bind] at h
    split at h
    · cases h; exact ⟨rfl, rfl, ‹_›⟩
    · cases h

theorem declarations_cons (f : JavaFile) (files : Corpus) (N : Str) :
    declarations (f :: files) N = (declaredAs N f).toList ++ declarations files N := by
  cases h : declaredAs N f <;> simp [declarations, h]

theorem mem_declarations {files : Corpus} {N : Str} {p : JavaFile × ClassEntry} :
    p ∈ declarations files N ↔ p.1 ∈ files ∧ classEntry p.1.content = some p.2 ∧ p.2.fqn = N := by
  simp only [declarations, List.mem_filterMap]
  constructor
  · rintro ⟨f, hf, h⟩
    obtain ⟨rfl, he, hN⟩ := declaredAs_fqn h
    exact ⟨hf, he, hN⟩
  · rintro ⟨hf, he, hN⟩
    exact ⟨p.1, hf, by simp [declaredAs, he, hN]⟩

theorem exists_mem_declarations {files : Corpus} {N : Str} {P : JavaFile × ClassEntry → Prop} :
    (∃ p ∈ declarations files N, P p) ↔ ∃ f ∈ files, ∃ p ∈ declaredAs N f, P p := by
  simp only [declarations, List.mem_filterMap, Option.mem_def]
  exact ⟨fun ⟨p, ⟨f, hf, hp⟩, h⟩ => ⟨f, hf, p, hp, h⟩, fun ⟨f, hf, p, hp, h⟩ => ⟨p, ⟨f, hf, hp⟩, h⟩⟩

/-! ## One step -/

section Step

variable (v : ReferenceValidator) (f : JavaFile) (e : ClassEntry)

@[simp] theorem report_recordClass : (v.recordClass f e).report = v.report := rfl

@[simp] theorem registry_recordClass :
    (v.recordClass f e).classRegistry = v.classRegistry.set e.fqn f.path := rfl

theorem roleSet_recordClass (r : Role) :
    (v.recordClass f e).roleSet r = addIf (e.hasRole r) (v.roleSet r) e.fqn := by
  cases r <;> rfl

@[simp] theorem feign_recordClass : (v.recordClass f e).feignClients =
    match e.feignName with
    | some n => v.feignClients.set e.fqn ⟨f.path, n, f.content⟩
    | none => v.feignClients := rfl

@[simp] theorem methods_recordClass : (v.recordClass f e).classMethods =
    e.methods.foldl (fun d m => d.addTo e.fqn m) v.classMethods := rfl

@[simp] theorem report_scanFile : (v.scanFile f).report = v.report := by
  unfold scanFile; split <;> rfl

theorem mem_addIf (b : Bool) (s : PySet Str) (x y : Str) :
    y ∈ addIf b s x ↔ y ∈ s ∨ (b = true ∧ y = x) := by
  cases b <;> simp [addIf]

theorem addIf_of_mem {b : Bool} {s : PySet Str} {x : Str} (h : b = true → x ∈ s) :
    addIf b s x = s := by
  cases b
  · rfl
  · exact PySet.add_of_mem (h rfl)

theorem mem_foldl_addTo (ms : List Str) (d : PyDict Str (PySet Str)) (k k' m : Str) :
    m ∈ (ms.foldl (fun d m => d.addTo k m) d).members k' ↔
      m ∈ d.members k' ∨ (k = k' ∧ m ∈ ms) := by
  induction ms generalizing d with
  | nil => simp
  | cons x ms ih =>
    simp only [List.foldl_cons, ih, PyDict.mem_members_addTo, List.mem_cons]
    tauto

theorem mem_keys_foldl_addTo (ms : List Str) (d : PyDict Str (PySet Str)) (k k' : Str) :
    k' ∈ (ms.foldl (fun d m => d.addTo k m) d).keys ↔ k' ∈ d.keys ∨ (k' = k ∧ ms ≠ []) := by
  induction ms generalizing d with
  | nil => simp
  | cons x ms ih =>
    simp only [List.foldl_cons, ih, PyDict.mem_keys_addTo]
    tauto

theorem registry_get?_scanFile (N : Str) :
    (v.scanFile f).classRegistry.get? N =
      ((declaredAs N f).map (·.1.path)).or (v.classRegistry.get? N) := by
  unfold scanFile declaredAs
  cases he : classEntry f.content with
  | none => rfl
  | some e => by_cases h : e.fqn = N <;> simp [h]

theorem mem_roleSet_scanFile (r : Role) (N : Str) :
    N ∈ (v.scanFile f).roleSet r ↔
      N ∈ v.roleSet r ∨ ∃ p ∈ declaredAs N f, p.2.hasRole r = true := by
  unfold scanFile declaredAs
  cases he : classEntry f.content with
  | none =>
    simp only [Option.none_bind, Option.mem_def, reduceCtorEq, false_and, exists_false, or_false]
  | some e =>
    by_cases h : e.fqn = N
    · subst h
      simp only [roleSet_recordClass, mem_addIf, and_true, Option.some_bind, ↓reduceIte,
        Option.mem_def, Option.some.injEq, exists_eq_left']
    · simp only [roleSet_recordClass, mem_addIf, Ne.symm h, and_false, or_false, Option.some_bind,
        h, ↓reduceIte, Option.mem_def, reduceCtorEq, false_and, exists_false]

theorem feign_get?_scanFile (N : Str) :
    (v.scanFile f).feignClients.get? N =
      ((declaredAs N f).bind fun p => p.2.feignName.map (⟨p.1.path, ·, p.1.content⟩)).or
        (v.feignClients.get? N) := by
  unfold scanFile declaredAs
  cases he : classEntry f.content with
  | none => rfl
  | some e =>
    by_cases h : e.fqn = N
    · subst h; cases hn : e.feignName <;> simp [hn]
    · cases hn : e.feignName <;> simp [hn, h]

theorem mem_methods_scanFile (N m : Str) :
    m ∈ (v.scanFile f).classMethods.members N ↔
      m ∈ v.classMethods.members N ∨ ∃ p ∈ declaredAs N f, m ∈ p.2.methods := by
  unfold scanFile declaredAs
  cases he : classEntry f.content with
  | none =>
    simp only [Option.none_bind, Option.mem_def, reduceCtorEq, false_and, exists_false, or_false]
  | some e =>
    by_cases h : e.fqn = N
    · subst h
      simp only [methods_recordClass, mem_foldl_addTo, true_and, Option.some_bind, ↓reduceIte,
        Option.mem_def, Option.some.injEq, exists_eq_left']
    · simp only [methods_recordClass, mem_foldl_addTo, h, false_and, or_false, Option.some_bind,
        ↓reduceIte, Option.mem_def, reduceCtorEq, exists_false]

theorem mem_registry_scanFile (N : Str) :
    N ∈ (v.scanFile f).classRegistry.keys ↔ N ∈ v.classRegistry.keys ∨ (declaredAs N f).isSome := by
  rw [PyDict.mem_keys_iff_get?_isSome, PyDict.mem_keys_iff_get?_isSome, registry_get?_scanFile]
  cases declaredAs N f <;> simp [Or.comm]

theorem mem_feignKeys_scanFile (N : Str) :
    N ∈ (v.scanFile f).feignClients.keys ↔
      N ∈ v.feignClients.keys ∨ ∃ p ∈ declaredAs N f, p.2.feignName.isSome := by
  rw [PyDict.mem_keys_iff_get?_isSome, PyDict.mem_keys_iff_get?_isSome, feign_get?_scanFile]
  cases declaredAs N f with
  | none =>
    simp only [Option.none_bind, Option.none_or, Option.mem_def, reduceCtorEq, false_and,
      exists_false, or_false]
  | some p =>
    cases p.2.feignName <;> simp only [Option.some_bind, Option.isSome_or, Option.isSome_map',
      Bool.or_eq_true, Option.mem_def, Option.some.injEq, exists_eq_left', Or.comm]

theorem mem_methodKeys_scanFile (N : Str) :
    N ∈ (v.scanFile f).classMethods.keys ↔
      N ∈ v.classMethods.keys ∨ ∃ p ∈ declaredAs N f, p.2.methods ≠ [] := by
  unfold scanFile declaredAs
  cases he : classEntry f.content with
  | none =>
    simp only [Option.none_bind, Option.mem_def, reduceCtorEq, ne_eq, false_and, exists_false,
      or_false]
  | some e =>
    by_cases h : e.fqn = N
    · subst h
      simp only [methods_recordClass, mem_keys_foldl_addTo, ne_eq, true_and, Option.some_bind,
        ↓reduceIte, Option.mem_def, Option.some.injEq, exists_eq_left']
    · simp only [methods_recordClass, mem_keys_foldl_addTo, Ne.symm h, ne_eq, false_and, or_false,
        Option.some_bind, h, ↓reduceIte, Option.mem_def, reduceCtorEq, exists_false]

end Step

section Scan

variable (v : ReferenceValidator) (files : Corpus) (N : Str)

@[simp] theorem report_scanAllClasses : (v.scanAllClasses files).report = v.report :=
  foldl_const scanFile report files v fun a' b _ h => by rw [report_scanFile, h]

theorem registry_get?_scanAllClasses :
    (v.scanAllClasses files).classRegistry.get? N =
      ((declarations files N).getLast?.map (·.1.path)).or (v.classRegistry.get? N) := by
  rw [scanAllClasses, foldl_lastWrite scanFile (·.classRegistry.get? N) _
    (fun a b => registry_get?_scanFile a b N), ← List.getLast?_map, declarations,
    List.map_filterMap]

theorem feign_get?_scanAllClasses :
    (v.scanAllClasses files).feignClients.get? N =
      (feignDeclarations files N).getLast?.or (v.feignClients.get? N) := by
  rw [scanAllClasses, foldl_lastWrite scanFile (·.feignClients.get? N) _
    (fun a b => feign_get?_scanFile a b N), feignDeclarations, declarations,
    List.filterMap_filterMap]

theorem mem_roleSet_scanAllClasses (r : Role) :
    N ∈ (v.scanAllClasses files).roleSet r ↔
      N ∈ v.roleSet r ∨ ∃ p ∈ declarations files N, p.2.hasRole r = true := by
  rw [scanAllClasses, foldl_iff scanFile (N ∈ ·.roleSet r) _
    (fun a b => mem_roleSet_scanFile a b r N), exists_mem_declarations]

theorem mem_methods_scanAllClasses (m : Str) :
    m ∈ (v.scanAllClasses files).classMethods.members N ↔
      m ∈ v.classMethods.members N ∨ ∃ p ∈ declarations files N, m ∈ p.2.methods := by
  rw [scanAllClasses, foldl_iff scanFile (m ∈ ·.classMethods.members N) _
    (fun a b => mem_methods_scanFile a b N m), exists_mem_declarations]

theorem mem_registry_scanAllClasses :
    N ∈ (v.scanAllClasses files).classRegistry.keys ↔
      N ∈ v.classRegistry.keys ∨ declarations files N ≠ [] := by
  rw [scanAllClasses, foldl_iff scanFile (N ∈ ·.classRegistry.keys) _
    (fun a b => mem_registry_scanFile a b N)]
  simp [declarations, List.filterMap_eq_nil_iff, Option.isSome_iff_ne_none]

theorem mem_feignKeys_scanAllClasses :
    N ∈ (v.scanAllClasses files).feignClients.keys ↔
      N ∈ v.feignClients.keys ∨ ∃ p ∈ declarations files N, p.2.feignName.isSome := by
  rw [scanAllClasses, foldl_iff scanFile (N ∈ ·.feignClients.keys) _
    (fun a b => mem_feignKeys_scanFile a b N), exists_mem_declarations]

theorem mem_methodKeys_scanAllClasses :
    N ∈ (v.scanAllClasses files).classMethods.keys ↔
      N ∈ v.classMethods.keys ∨ ∃ p ∈ declarations files N, p.2.methods ≠ [] := by
  rw [scanAllClasses, foldl_iff scanFile (N ∈ ·.classMethods.keys) _
    (fun a b => mem_methodKeys_scanFile a b N), exists_mem_declarations]

end Scan

/-! ## The table a fresh validator builds -/

theorem roleSet_init (r : Role) : init.roleSet r = PySet.empty := by cases r <;> rfl

@[simp] theorem registry_init : init.classRegistry = .empty := rfl

@[simp] theorem feign_init : init.feignClients = .empty := rfl

@[simp] theorem methods_init : init.classMethods = .empty := rfl

/-- **Phase 0 on a fresh validator.** For every corpus, in whatever order the walk
visits it, and every name `N`: `class_registry[N]` and `feign_clients[N]` come from the
last file registered under `N` (the last one with a `@FeignClient(name = ...)` for
the latter), while the four name sets and `class_methods[N]` collect what every file
registered under `N` contributes. Every name of a derived index is a key of
`class_registry`. -/
theorem scanAllClasses_symbolTable (files : Corpus) (N : Str) :
    let v := init.scanAllClasses files
    v.classRegistry.get? N = (declarations files N).getLast?.map (·.1.path) ∧
    (∀ r, N ∈ v.roleSet r ↔ ∃ p ∈ declarations files N, p.2.hasRole r = true) ∧
    v.feignClients.get? N = (feignDeclarations files N).getLast? ∧
    (∀ m, m ∈ v.classMethods.members N ↔ ∃ p ∈ declarations files N, m ∈ p.2.methods) ∧
    ((∃ r, N ∈ v.roleSet r) ∨ N ∈ v.feignClients.keys ∨ N ∈ v.classMethods.keys →
      N ∈ v.classRegistry.keys) := by
  have hne : ∀ {P : JavaFile × ClassEntry → Prop}, (∃ p ∈ declarations files N, P p) →
      declarations files N ≠ [] := fun ⟨_, hp, _⟩ h => by simp [h] at hp
  refine ⟨?_, fun r => ?_, ?_, fun m => ?_, ?_⟩
  · simpa using registry_get?_scanAllClasses init files N
  · rw [mem_roleSet_scanAllClasses, roleSet_init, or_iff_right (PySet.not_mem_empty N)]
  · simpa using feign_get?_scanAllClasses init files N
  · have hm : m ∉ init.classMethods.members N := PySet.not_mem_empty m
    rw [mem_methods_scanAllClasses, or_iff_right hm]
  · rw [mem_registry_scanAllClasses]
    rintro (⟨r, h⟩ | h | h)
    · exact .inr (hne ((mem_roleSet_scanAllClasses _ _ _ r).mp h |>.resolve_left (by simp [roleSet_init])))
    · exact .inr (hne ((mem_feignKeys_scanAllClasses _ _ _).mp h |>.resolve_left
        (by simp [PyDict.empty, PyDict.keys])))
    · exact .inr (hne ((mem_methodKeys_scanAllClasses _ _ _).mp h |>.resolve_left
        (by simp [PyDict.empty, PyDict.keys])))

/-- A public `com.waqiti.x.A` with a method `run`. -/
def dupPublic : JavaFile :=
  ⟨"/r/services/a/A.java".toList,
    "package com.waqiti.x;\npublic class A \x7b\n  void run() \x7b\x7d\n\x7d\n".toList⟩

/-- A second, package-private `com.waqiti.x.A` without methods. -/
def dupPlain : JavaFile :=
  ⟨"/r/services/b/A.java".toList, "package com.waqiti.x;\nclass A \x7b\n\x7d\n".toList⟩

set_option maxRecDepth 4000 in
/-- With two files giving `com.waqiti.x.A`, the registry points at the later one, which
is neither public nor has methods, yet the name is public and has the method `run` of
the earlier file. -/
theorem symbolTable_mixes_files :
    let v := init.scanAllClasses [dupPublic, dupPlain]
    v.classRegistry.get? "com.waqiti.x.A".toList = some dupPlain.path ∧
    (classEntry dupPlain.content).map (·.isPublic) = some false ∧
    "com.waqiti.x.A".toList ∈ v.publicClasses ∧
    (classEntry dupPlain.content).map (·.methods) = some [] ∧
    "run".toList ∈ v.classMethods.members "com.waqiti.x.A".toList := by
  decide

/-! ## Scanning twice -/

theorem foldl_addTo_of_mem {ms : List Str} {d : PyDict Str (PySet Str)} {k : Str}
    (h : ∀ m ∈ ms, m ∈ d.members k) : ms.foldl (fun d m => d.addTo k m) d = d := by
  induction ms with
  | nil => rfl
  | cons m ms ih =>
    rw [List.foldl_cons, PyDict.addTo_of_mem (h m (List.mem_cons_self _ _))]
    exact ih fun m' hm' => h m' (List.mem_cons_of_mem _ hm')

section Idem

variable (v : ReferenceValidator) (files : Corpus)

/-- A file of the corpus that phase 0 registers is among the declarations of its
name. -/
theorem mem_declarations_of_entry {f : JavaFile} {e : ClassEntry} (hf : f ∈ files)
    (he : classEntry f.content = some e) : (f, e) ∈ declarations files e.fqn :=
  mem_declarations.mpr ⟨hf, he, rfl⟩

theorem registry_scanAllClasses_idem :
    ((v.scanAllClasses files).scanAllClasses files).classRegistry =
      (v.scanAllClasses files).classRegistry := by
  refine PyDict.ext_iff.mpr ⟨?_, fun N => ?_⟩
  · refine foldl_const scanFile (·.classRegistry.keys) files _ fun a f hf ha => ?_
    dsimp only at ha ⊢
    unfold scanFile
    cases he : classEntry f.content with
    | none => exact ha
    | some e =>
      dsimp only
      have hmem : e.fqn ∈ a.classRegistry.keys := ha ▸ (mem_registry_scanAllClasses _ _ _).mpr
        (.inr fun h => by simpa [h] using mem_declarations_of_entry files hf he)
      rw [registry_recordClass, PyDict.keys_set_of_mem _ _ hmem, ha]
  · rw [registry_get?_scanAllClasses, registry_get?_scanAllClasses, ← Option.or_assoc,
      Option.or_self]

theorem feign_scanAllClasses_idem :
    ((v.scanAllClasses files).scanAllClasses files).feignClients =
      (v.scanAllClasses files).feignClients := by
  refine PyDict.ext_iff.mpr ⟨?_, fun N => ?_⟩
  · refine foldl_const scanFile (·.feignClients.keys) files _ fun a f hf ha => ?_
    dsimp only at ha ⊢
    unfold scanFile
    cases he : classEntry f.content with
    | none => exact ha
    | some e =>
      dsimp only
      rw [feign_recordClass]
      cases hn : e.feignName with
      | none => exact ha
      | some n =>
        have hmem : e.fqn ∈ a.feignClients.keys := ha ▸ (mem_feignKeys_scanAllClasses _ _ _).mpr
          (.inr ⟨_, mem_declarations_of_entry files hf he, by simp [hn]⟩)
        rw [PyDict.keys_set_of_mem _ _ hmem, ha]
  · rw [feign_get?_scanAllClasses, feign_get?_scanAllClasses, ← Option.or_assoc, Option.or_self]

theorem roleSet_scanAllClasses_idem (r : Role) :
    ((v.scanAllClasses files).scanAllClasses files).roleSet r =
      (v.scanAllClasses files).roleSet r := by
  refine foldl_const scanFile (·.roleSet r) files _ fun a f hf ha => ?_
  dsimp only at ha ⊢
  unfold scanFile
  cases he : classEntry f.content with
  | none => exact ha
  | some e =>
    dsimp only
    have hmem : e.hasRole r = true → e.fqn ∈ a.roleSet r := fun h => ha ▸
      (mem_roleSet_scanAllClasses _ _ _ r).mpr (.inr ⟨_, mem_declarations_of_entry files hf he, h⟩)
    rw [roleSet_recordClass, addIf_of_mem hmem, ha]

theorem methods_scanAllClasses_idem :
    ((v.scanAllClasses files).scanAllClasses files).classMethods =
      (v.scanAllClasses files).classMethods := by
  refine foldl_const scanFile (·.classMethods) files _ fun a f hf ha => ?_
  dsimp only at ha ⊢
  unfold scanFile
  cases he : classEntry f.content with
  | none => exact ha
  | some e =>
    dsimp only
    have hmem : ∀ m ∈ e.methods, m ∈ a.classMethods.members e.fqn := fun m hm => ha ▸
      (mem_methods_scanAllClasses _ _ _ m).mpr (.inr ⟨_, mem_declarations_of_entry files hf he, hm⟩)
    rw [methods_recordClass, foldl_addTo_of_mem hmem, ha]

/-- Scanning a corpus a second time changes nothing: the assignments of the second pass
end with the values the first pass left, and everything the sets would gain is already
there. -/
theorem scanAllClasses_idem :
    (v.scanAllClasses files).scanAllClasses files = v.scanAllClasses files :=
  ReferenceValidator.ext (by simp) (registry_scanAllClasses_idem v files)
    (roleSet_scanAllClasses_idem v files .public) (roleSet_scanAllClasses_idem v files .component)
    (roleSet_scanAllClasses_idem v files .service)
    (roleSet_scanAllClasses_idem v files .repository) (feign_scanAllClasses_idem v files)
    (methods_scanAllClasses_idem v files)

end Idem

/-! ## The order of the walk -/

/-- Two tables agree on every membership phases 1–3 and the cycle detector read: the
keys of `class_registry`, the four name sets and the sets of `class_methods`. -/
structure SameTable (s s' : ReferenceValidator) : Prop where
  registry : ∀ N, N ∈ s.classRegistry.keys ↔ N ∈ s'.classRegistry.keys
  roles : ∀ r N, N ∈ s.roleSet r ↔ N ∈ s'.roleSet r
  methods : ∀ N m, m ∈ s.classMethods.members N ↔ m ∈ s'.classMethods.members N

theorem declarations_perm {files files' : Corpus} (h : files.Perm files') (N : Str) :
    (declarations files N).Perm (declarations files' N) :=
  h.filterMap _

/-- The unions phase 0 builds do not depend on the order of the walk. -/
theorem sameTable_of_perm (v : ReferenceValidator) {files files' : Corpus}
    (h : files.Perm files') : SameTable (v.scanAllClasses files) (v.scanAllClasses files') where
  registry N := by
    simp only [mem_registry_scanAllClasses, ne_eq, ← List.length_eq_zero,
      (declarations_perm h N).length_eq]
  roles r N := by
    simp only [mem_roleSet_scanAllClasses, (declarations_perm h N).mem_iff]
  methods N m := by
    simp only [mem_methods_scanAllClasses, (declarations_perm h N).mem_iff]

/-- With the same keys, the registries list them in two orders. -/
theorem SameTable.registry_perm {s s' : ReferenceValidator} (h : SameTable s s') :
    s.classRegistry.keys.Perm s'.classRegistry.keys :=
  (List.perm_ext_iff_of_nodup s.classRegistry.nodup s'.classRegistry.nodup).mpr h.registry

end ReferenceValidator
