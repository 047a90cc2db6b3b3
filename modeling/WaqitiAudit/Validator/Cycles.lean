import WaqitiAudit.Validator.Registry

/-!
# Circular dependencies

`detect_circular_dependencies` builds a graph with an edge `a → b` whenever a file
whose primary type is `a` has an internal import of a registered name `b`
(`ImportEdge`), and then walks `dependencies.items()`: for every `a` and every `b` in
its set it appends `(a, b)` when `a` is in the set of `b`.

The walk is characterised exactly (`cyclePairs_dependencyGraph`,
`nodup_cyclePairs`): the list holds every *ordered* pair of mutual edges, each once.
So an unordered pair `{A, B}` with `A ≠ B` is reported twice, as `(A, B)` and as
`(B, A)`, and a file importing its own primary type gives `(A, A)`; the spec's
scenario 5 shows both orders (`circularDependencies_twice`).
-/

namespace ReferenceValidator

open PyStr PyRe

/-- `a → b` in the graph of `detect_circular_dependencies`. -/
def ImportEdge (v : ReferenceValidator) (files : Corpus) (a b : Str) : Prop :=
  ∃ f ∈ files, primaryName f.content = some a ∧ b ∈ importedNames f.content ∧
    isIn waqiti b = true ∧ b ∈ v.classRegistry.keys

theorem mem_members_foldl_edges (v : ReferenceValidator) (cur a b : Str) (xs : List Str)
    (d : PyDict Str (PySet Str)) :
    b ∈ (xs.foldl (fun d x => if isIn waqiti x ∧ x ∈ v.classRegistry.keys then d.addTo cur x
      else d) d).members a ↔
      b ∈ d.members a ∨ (cur = a ∧ b ∈ xs ∧ isIn waqiti b = true ∧ b ∈ v.classRegistry.keys) := by
  induction xs generalizing d with
  | nil => simp
  | cons x xs ih =>
    rw [List.foldl_cons, ih]
    split
    · rename_i hx
      have hb : b = x ∧ isIn waqiti b = true ∧ b ∈ v.classRegistry.keys ↔ b = x :=
        ⟨And.left, fun h => ⟨h, h ▸ hx⟩⟩
      simp only [PyDict.mem_members_addTo, List.mem_cons, or_and_right, and_or_left, hb, or_assoc]
    · rename_i hx
      have hb : b = x ∧ isIn waqiti b = true ∧ b ∈ v.classRegistry.keys ↔ False :=
        ⟨fun ⟨h, hp⟩ => hx (h ▸ hp), False.elim⟩
      simp only [List.mem_cons, or_and_right, and_or_left, hb, and_false, false_or]

theorem mem_members_fileDependencies (v : ReferenceValidator) (deps : PyDict Str (PySet Str))
    (f : JavaFile) (a b : Str) :
    b ∈ (v.fileDependencies deps f).members a ↔ b ∈ deps.members a ∨
      (primaryName f.content = some a ∧ b ∈ importedNames f.content ∧ isIn waqiti b = true ∧
        b ∈ v.classRegistry.keys) := by
  unfold fileDependencies
  cases primaryName f.content with
  | none => simp
  | some cur => simp [mem_members_foldl_edges]

/-- The sets of the graph hold exactly the import edges. -/
theorem mem_dependencyGraph (v : ReferenceValidator) (files : Corpus) (a b : Str) :
    b ∈ (v.dependencyGraph files).members a ↔ ImportEdge v files a b := by
  rw [dependencyGraph, foldl_iff v.fileDependencies (b ∈ ·.members a) _
    (fun d f => mem_members_fileDependencies v d f a b)]
  simp [PyDict.members, ImportEdge]

/-- The pairs the nested loop appends are the mutual edges of the graph. -/
theorem mem_cyclePairs (deps : PyDict Str (PySet Str)) (a b : Str) :
    (a, b) ∈ cyclePairs deps ↔ b ∈ deps.members a ∧ a ∈ deps.members b := by
  simp only [cyclePairs, List.mem_flatMap, List.mem_map, List.mem_filter, decide_eq_true_eq,
    Prod.mk.injEq]
  constructor
  · rintro ⟨⟨a', ds⟩, hmem, b', ⟨hb, hab⟩, rfl, rfl⟩
    have hget := (deps.mem_items_iff).mp hmem
    exact ⟨by simpa [PyDict.members, hget] using hb, hab⟩
  · rintro ⟨hb, hab⟩
    cases hget : deps.get? a with
    | none => simp [PyDict.members, hget] at hb
    | some ds =>
      exact ⟨(a, ds), (deps.mem_items_iff).mpr hget, b,
        ⟨by simpa [PyDict.members, hget] using hb, hab⟩, rfl, rfl⟩

/-- No pair is appended twice: the items have distinct keys and each set has distinct
members. -/
theorem nodup_cyclePairs (deps : PyDict Str (PySet Str)) : (cyclePairs deps).Nodup := by
  unfold cyclePairs
  refine List.nodup_flatMap.mpr ⟨fun p _ => ?_, ?_⟩
  · exact ((p.2.nodup.filter _).map fun x y h => by simpa using h)
  · refine (List.pairwise_map.mp deps.nodup).imp fun {p q} hpq => ?_
    simp only [Function.onFun, List.disjoint_left, List.mem_map]
    rintro _ ⟨x, -, rfl⟩ ⟨y, -, h⟩
    exact hpq (congrArg Prod.fst h).symm

/-- **What `detect_circular_dependencies` appends.** The pairs are exactly the ordered
pairs `(a, b)` with import edges both ways, and none is appended twice. -/
theorem cyclePairs_dependencyGraph (v : ReferenceValidator) (files : Corpus) :
    (∀ a b, (a, b) ∈ cyclePairs (v.dependencyGraph files) ↔
      ImportEdge v files a b ∧ ImportEdge v files b a) ∧
    (cyclePairs (v.dependencyGraph files)).Nodup :=
  ⟨fun a b => by rw [mem_cyclePairs, mem_dependencyGraph, mem_dependencyGraph],
    nodup_cyclePairs _⟩

/-! ## Scenario 5 of the spec, and a self-import -/

/-- `com.waqiti.x.A`, importing `B`. -/
def cycleFileA : JavaFile :=
  ⟨"/r/services/x/A.java".toList,
    "package com.waqiti.x;\nimport com.waqiti.x.B;\npublic class A \x7b\x7d\n".toList⟩

/-- `com.waqiti.x.B`, importing `A`. -/
def cycleFileB : JavaFile :=
  ⟨"/r/services/x/B.java".toList,
    "package com.waqiti.x;\nimport com.waqiti.x.A;\npublic class B \x7b\x7d\n".toList⟩

/-- `com.waqiti.x.C`, importing itself. -/
def cycleFileC : JavaFile :=
  ⟨"/r/services/x/C.java".toList,
    "package com.waqiti.x;\nimport com.waqiti.x.C;\npublic class C \x7b\x7d\n".toList⟩

set_option maxRecDepth 8000 in
/-- On the spec's scenario 5 plus a self-importing class, the report lists the pair
`{A, B}` in both orders and `C` paired with itself, and counts three cycles. -/
theorem circularDependencies_twice :
    (init.runValidation [cycleFileA, cycleFileB, cycleFileC]).1.report.circularDependencies =
      [("com.waqiti.x.A".toList, "com.waqiti.x.B".toList),
       ("com.waqiti.x.B".toList, "com.waqiti.x.A".toList),
       ("com.waqiti.x.C".toList, "com.waqiti.x.C".toList)] ∧
    (init.runValidation [cycleFileA, cycleFileB, cycleFileC]).2.summary.circularDependencies = 3 := by
  decide

end ReferenceValidator
