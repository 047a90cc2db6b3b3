import WaqitiAudit.Text.Str

/-!
# Python dictionaries and sets

`ReferenceValidator` keeps its symbol table in `dict`s and `set`s, and its phases
iterate over them.

* A `dict` is its list of items in insertion order, with no key twice: assigning to a
  present key replaces the value in place, a new key goes to the end.
* A `set` is a list with no element twice. The order in which Python iterates a set of
  strings depends on string hashes; here it is insertion order, and every result below
  that reads a set's order is stated up to permutation.

Both structures carry their no-duplicates invariant, so two dicts with the same keys
in the same order and the same lookups are equal (`PyDict.ext_iff`).
-/

namespace PyStr

/-- A Python `dict`: its items in insertion order, keys pairwise distinct. -/
structure PyDict (κ ν : Type) where
  items : List (κ × ν)
  nodup : (items.map Prod.fst).Nodup

/-- A Python `set`, as a duplicate-free list. -/
structure PySet (α : Type) where
  elems : List α
  nodup : elems.Nodup

namespace PySet

section
variable {α : Type}

instance : Membership α (PySet α) := ⟨fun s x => x ∈ s.elems⟩

theorem mem_def (x : α) (s : PySet α) : x ∈ s ↔ x ∈ s.elems := Iff.rfl

/-- `set()`. -/
def empty : PySet α := ⟨[], List.nodup_nil⟩

@[simp] theorem not_mem_empty (x : α) : x ∉ (empty : PySet α) := List.not_mem_nil x

end

variable {α : Type} [DecidableEq α]

instance (x : α) (s : PySet α) : Decidable (x ∈ s) := inferInstanceAs (Decidable (x ∈ s.elems))

/-- `s.add(x)`. -/
def add (s : PySet α) (x : α) : PySet α :=
  if h : x ∈ s.elems then s
  else ⟨s.elems ++ [x], List.nodup_append.mpr ⟨s.nodup, List.nodup_singleton x, by simpa using h⟩⟩

@[simp] theorem mem_add (s : PySet α) (x y : α) : y ∈ s.add x ↔ y ∈ s ∨ y = x := by
  unfold add
  split
  · exact ⟨Or.inl, fun h' => h'.elim id (· ▸ ‹_›)⟩
  · simp [mem_def]

theorem add_of_mem {s : PySet α} {x : α} (h : x ∈ s) : s.add x = s := dif_pos h

end PySet

namespace PyDict

variable {κ ν : Type} [DecidableEq κ]

/-- Lookup in a list of items: the first item with the key. -/
def lookupItems : List (κ × ν) → κ → Option ν
  | [], _ => none
  | (k', v) :: d, k => if k' = k then some v else lookupItems d k

/-- Assignment in a list of items: replace the first item with the key, or append. -/
def setItems : List (κ × ν) → κ → ν → List (κ × ν)
  | [], k, v => [(k, v)]
  | (k', v') :: d, k, v => if k' = k then (k, v) :: d else (k', v') :: setItems d k v

theorem mem_keys_setItems (d : List (κ × ν)) (k k' : κ) (v : ν) :
    k' ∈ (setItems d k v).map Prod.fst ↔ k' = k ∨ k' ∈ d.map Prod.fst := by
  induction d with
  | nil => simp [setItems]
  | cons p d ih =>
    obtain ⟨k₀, v₀⟩ := p
    by_cases h : k₀ = k
    · subst h
      simp only [setItems, ↓reduceIte, List.map_cons, List.mem_cons, or_self_left]
    · simp only [setItems, if_neg h, List.map_cons, List.mem_cons, ih]
      exact or_left_comm

theorem nodup_setItems {d : List (κ × ν)} (h : (d.map Prod.fst).Nodup) (k : κ) (v : ν) :
    ((setItems d k v).map Prod.fst).Nodup := by
  induction d with
  | nil => simp [setItems]
  | cons p d ih =>
    obtain ⟨k₀, v₀⟩ := p
    rw [List.map_cons, List.nodup_cons] at h
    by_cases h₀ : k₀ = k
    · subst h₀
      simpa only [setItems, ↓reduceIte, List.map_cons, List.nodup_cons] using h
    · simp only [setItems, if_neg h₀, List.map_cons, List.nodup_cons, mem_keys_setItems]
      exact ⟨by tauto, ih h.2⟩

theorem mem_keys_iff_lookupItems (d : List (κ × ν)) (k : κ) :
    k ∈ d.map Prod.fst ↔ (lookupItems d k).isSome := by
  induction d with
  | nil => simp [lookupItems]
  | cons p d ih =>
    obtain ⟨k₀, v₀⟩ := p
    by_cases h : k₀ = k
    · simp only [h, List.map_cons, List.mem_cons, true_or, lookupItems, ↓reduceIte,
        Option.isSome_some]
    · simp only [List.map_cons, List.mem_cons, lookupItems, if_neg h, ih]
      exact or_iff_right (Ne.symm h)

theorem items_ext : ∀ {d d' : List (κ × ν)}, (d.map Prod.fst).Nodup →
    d.map Prod.fst = d'.map Prod.fst → (∀ k, lookupItems d k = lookupItems d' k) → d = d'
  | [], [], _, _, _ => rfl
  | (k₀, v₀) :: d, (k₁, v₁) :: d', hn, hk, hg => by
    simp only [List.map_cons, List.cons.injEq] at hk
    obtain ⟨rfl, hk⟩ := hk
    rw [List.map_cons, List.nodup_cons] at hn
    have hv : v₀ = v₁ := by simpa [lookupItems] using hg k₀
    have hn' : k₀ ∉ d'.map Prod.fst := hk ▸ hn.1
    subst hv
    refine congrArg _ (items_ext hn.2 hk fun k => ?_)
    by_cases h : k₀ = k
    · subst h
      rw [Option.not_isSome_iff_eq_none.mp ((mem_keys_iff_lookupItems d k₀).not.mp hn.1),
        Option.not_isSome_iff_eq_none.mp ((mem_keys_iff_lookupItems d' k₀).not.mp hn')]
    · simpa [lookupItems, h] using hg k

theorem lookupItems_setItems (d : List (κ × ν)) (k k' : κ) (v : ν) :
    lookupItems (setItems d k v) k' = if k = k' then some v else lookupItems d k' := by
  induction d with
  | nil => simp [setItems, lookupItems]
  | cons p d ih =>
    obtain ⟨k₀, v₀⟩ := p
    by_cases h : k₀ = k
    · subst h; by_cases h' : k₀ = k' <;> simp [setItems, lookupItems, h']
    · simp only [setItems, if_neg h, lookupItems, ih]
      by_cases h' : k₀ = k' <;> by_cases h'' : k = k' <;> simp_all

theorem keys_setItems_of_mem (d : List (κ × ν)) {k : κ} (v : ν) (h : k ∈ d.map Prod.fst) :
    (setItems d k v).map Prod.fst = d.map Prod.fst := by
  induction d with
  | nil => simp at h
  | cons p d ih =>
    obtain ⟨k₀, v₀⟩ := p
    by_cases h₀ : k₀ = k
    · simp [setItems, h₀]
    · simp only [List.map_cons, List.mem_cons, setItems, if_neg h₀] at h ⊢
      rw [ih (h.resolve_left (Ne.symm h₀))]

theorem keys_setItems_of_not_mem (d : List (κ × ν)) {k : κ} (v : ν)
    (h : k ∉ d.map Prod.fst) : (setItems d k v).map Prod.fst = d.map Prod.fst ++ [k] := by
  induction d with
  | nil => rfl
  | cons p d ih =>
    obtain ⟨k₀, v₀⟩ := p
    simp only [List.map_cons, List.mem_cons, not_or] at h
    simp [setItems, Ne.symm h.1, ih h.2]

/-- `{}`. -/
def empty : PyDict κ ν := ⟨[], List.nodup_nil⟩

/-- `d.get(k)`. -/
def get? (d : PyDict κ ν) (k : κ) : Option ν := lookupItems d.items k

/-- `d[k] = v`. -/
def set (d : PyDict κ ν) (k : κ) (v : ν) : PyDict κ ν :=
  ⟨setItems d.items k v, nodup_setItems d.nodup k v⟩

/-- `d.keys()`, in iteration order. -/
def keys (d : PyDict κ ν) : List κ := d.items.map Prod.fst

@[simp] theorem get?_empty (k : κ) : (empty : PyDict κ ν).get? k = none := rfl

omit [DecidableEq κ] in
@[simp] theorem keys_empty : (empty : PyDict κ ν).keys = [] := rfl

@[simp] theorem get?_set (d : PyDict κ ν) (k k' : κ) (v : ν) :
    (d.set k v).get? k' = if k = k' then some v else d.get? k' :=
  lookupItems_setItems d.items k k' v

theorem mem_keys_iff_get?_isSome (d : PyDict κ ν) (k : κ) :
    k ∈ d.keys ↔ (d.get? k).isSome :=
  mem_keys_iff_lookupItems d.items k

@[simp] theorem mem_keys_set (d : PyDict κ ν) (k k' : κ) (v : ν) :
    k' ∈ (d.set k v).keys ↔ k' = k ∨ k' ∈ d.keys :=
  mem_keys_setItems d.items k k' v

theorem keys_set_of_mem (d : PyDict κ ν) {k : κ} (v : ν) (h : k ∈ d.keys) :
    (d.set k v).keys = d.keys :=
  keys_setItems_of_mem d.items v h

theorem keys_set_of_not_mem (d : PyDict κ ν) {k : κ} (v : ν) (h : k ∉ d.keys) :
    (d.set k v).keys = d.keys ++ [k] :=
  keys_setItems_of_not_mem d.items v h

theorem setItems_of_lookupItems {d : List (κ × ν)} {k : κ} {v : ν}
    (h : lookupItems d k = some v) : setItems d k v = d := by
  induction d with
  | nil => simp [lookupItems] at h
  | cons p d ih =>
    obtain ⟨k₀, v₀⟩ := p
    by_cases h₀ : k₀ = k
    · subst h₀
      simp only [lookupItems, if_true, Option.some.injEq] at h
      simp [setItems, h]
    · simp only [lookupItems, if_neg h₀] at h
      simp [setItems, h₀, ih h]

/-- Assigning a key the value it already has changes nothing. -/
theorem set_of_get? {d : PyDict κ ν} {k : κ} {v : ν} (h : d.get? k = some v) :
    d.set k v = d := by
  obtain ⟨items, hn⟩ := d
  simp only [set, mk.injEq]
  exact setItems_of_lookupItems h

theorem mem_items_iff_lookupItems : ∀ {d : List (κ × ν)}, (d.map Prod.fst).Nodup →
    ∀ {k : κ} {v : ν}, (k, v) ∈ d ↔ lookupItems d k = some v
  | [], _, _, _ => by simp [lookupItems]
  | (k₀, v₀) :: d, hn, k, v => by
    rw [List.map_cons, List.nodup_cons] at hn
    by_cases h : k₀ = k
    · subst h
      have : (k₀, v) ∉ d := fun hm => hn.1 (List.mem_map.mpr ⟨_, hm, rfl⟩)
      simp [lookupItems, this, eq_comm]
    · simp [lookupItems, h, Ne.symm h, mem_items_iff_lookupItems hn.2]

/-- An item of a dict is a key with the value it looks up. -/
theorem mem_items_iff (d : PyDict κ ν) {k : κ} {v : ν} : (k, v) ∈ d.items ↔ d.get? k = some v :=
  mem_items_iff_lookupItems d.nodup

/-- Two dicts are equal when they have the same keys in the same order and the same
lookups. -/
theorem ext_iff {d d' : PyDict κ ν} :
    d = d' ↔ d.keys = d'.keys ∧ ∀ k, d.get? k = d'.get? k := by
  refine ⟨fun h => h ▸ ⟨rfl, fun _ => rfl⟩, fun ⟨hk, hg⟩ => ?_⟩
  obtain ⟨items, hn⟩ := d
  obtain ⟨items', hn'⟩ := d'
  obtain rfl := items_ext hn hk hg
  rfl

end PyDict

namespace PyDict

variable {κ α : Type} [DecidableEq κ] [DecidableEq α]

/-- `d.get(k, set())` of a dict of sets. -/
def members (d : PyDict κ (PySet α)) (k : κ) : PySet α := (d.get? k).getD PySet.empty

/-- `d[k].add(x)` on a `defaultdict(set)`: a missing key starts from the empty set. -/
def addTo (d : PyDict κ (PySet α)) (k : κ) (x : α) : PyDict κ (PySet α) :=
  d.set k ((d.members k).add x)

@[simp] theorem mem_members_addTo (d : PyDict κ (PySet α)) (k k' : κ) (x y : α) :
    y ∈ (d.addTo k x).members k' ↔ y ∈ d.members k' ∨ (k = k' ∧ y = x) := by
  by_cases h : k = k'
  · subst h; simp [addTo, members]
  · simp [addTo, members, h]

theorem addTo_of_mem {d : PyDict κ (PySet α)} {k : κ} {x : α} (h : x ∈ d.members k) :
    d.addTo k x = d := by
  unfold addTo members at *
  cases hk : d.get? k with
  | none => simp [hk] at h
  | some s =>
    simp only [hk, Option.getD_some] at h ⊢
    rw [PySet.add_of_mem h, set_of_get? hk]

@[simp] theorem mem_keys_addTo (d : PyDict κ (PySet α)) (k k' : κ) (x : α) :
    k' ∈ (d.addTo k x).keys ↔ k' = k ∨ k' ∈ d.keys := mem_keys_set _ _ _ _

section Lists

variable {κ α : Type} [DecidableEq κ]

/-- `d[k].append(x)` on a `defaultdict(list)`: a missing key starts from `[]`. -/
def appendTo (d : PyDict κ (List α)) (k : κ) (x : α) : PyDict κ (List α) :=
  d.set k ((d.get? k).getD [] ++ [x])

@[simp] theorem mem_keys_appendTo (d : PyDict κ (List α)) (k k' : κ) (x : α) :
    k' ∈ (d.appendTo k x).keys ↔ k' = k ∨ k' ∈ d.keys := mem_keys_set _ _ _ _

@[simp] theorem getD_appendTo (d : PyDict κ (List α)) (k k' : κ) (x : α) :
    ((d.appendTo k x).get? k').getD [] = (d.get? k').getD [] ++ if k = k' then [x] else [] := by
  by_cases h : k = k'
  · subst h; simp [appendTo]
  · simp [appendTo, h]

/-- Appending keeps every list of a `defaultdict(list)` non-empty: a key exists only once
something was appended under it. -/
theorem ne_nil_of_mem_items_appendTo {d : PyDict κ (List α)} {k : κ} {x : α}
    (h : ∀ p ∈ d.items, p.2 ≠ []) : ∀ p ∈ (d.appendTo k x).items, p.2 ≠ [] := by
  rintro ⟨k', l⟩ hp
  rw [mem_items_iff, appendTo, get?_set] at hp
  split at hp
  · cases hp; simp
  · exact h _ ((mem_items_iff d).mpr hp)

end Lists

end PyDict

/-! ## Loops that fill a table

The scans of the scripts are `for` loops that update dictionaries and sets; as folds,
what they leave is described by the four lemmas below. -/

/-- A fold whose step adds `Q b` to a property adds every `Q b` of the list. -/
theorem foldl_iff {α β : Type} (step : α → β → α) (P : α → Prop) (Q : β → Prop)
    (h : ∀ a b, P (step a b) ↔ P a ∨ Q b) (L : List β) (a : α) :
    P (L.foldl step a) ↔ P a ∨ ∃ b ∈ L, Q b := by
  induction L generalizing a with
  | nil => simp
  | cons b L ih =>
    rw [List.foldl_cons, ih, h]
    simp only [List.mem_cons, exists_eq_or_imp]
    exact or_assoc

theorem getLast?_cons_or {α : Type} (c : α) (l : List α) :
    (c :: l).getLast? = l.getLast?.or (some c) := by
  rw [← List.singleton_append, List.getLast?_append]; rfl

/-- A fold whose step writes `w b`, when there is one, over a value: the value after
the fold is the last write. -/
theorem foldl_lastWrite {α β γ : Type} (step : α → β → α) (g : α → Option γ)
    (w : β → Option γ) (h : ∀ a b, g (step a b) = (w b).or (g a)) (L : List β) (a : α) :
    g (L.foldl step a) = (L.filterMap w).getLast?.or (g a) := by
  induction L generalizing a with
  | nil => rfl
  | cons b L ih =>
    rw [List.foldl_cons, ih, h]
    cases hw : w b with
    | none => simp [List.filterMap_cons, hw]
    | some c => simp [List.filterMap_cons, hw, getLast?_cons_or, Option.or_assoc]

/-- A fold that leaves a value alone at every step leaves it alone. -/
theorem foldl_const {α β γ : Type} (step : α → β → α) (g : α → γ) (L : List β) (a : α)
    (h : ∀ a' b, b ∈ L → g a' = g a → g (step a' b) = g a) : g (L.foldl step a) = g a := by
  suffices ∀ a', g a' = g a → g (L.foldl step a') = g a from this a rfl
  induction L with
  | nil => exact fun _ h => h
  | cons b L ih =>
    intro a' ha'
    exact ih (fun a'' b' hb => h a'' b' (List.mem_cons_of_mem _ hb)) _
      (h a' b (List.mem_cons_self _ _) ha')

/-- A fold whose step keeps an invariant keeps it. -/
theorem foldl_inv {α β : Type} (step : α → β → α) (P : α → Prop) (h : ∀ a b, P a → P (step a b)) :
    ∀ (L : List β) (a : α), P a → P (L.foldl step a)
  | [], _, ha => ha
  | b :: L, a, ha => foldl_inv step P h L _ (h a b ha)

end PyStr
