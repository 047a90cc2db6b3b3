import WaqitiAudit.Text.Re

/-!
# What a pattern matches

`Regex.run` finds a match by backtracking in Python's priority order. This file says
which matches there are, with no order: `Consumes r s caps t caps'` holds when `r` can
match the prefix of `s` that leaves `t`, recording its groups over `caps` as `caps'`.
An iteration of a star must consume input, as in the matcher.

What is proved:

* **soundness** — `run_sound`: whatever the matcher returns, the continuation returned
  it on a match;
* **completeness** — `run_complete`: if the continuation accepts some match, the matcher
  returns something, whichever match it tries first;
* **matches are prefixes** — `Consumes.suffix`: what is left is a suffix of the input;
* **the derived patterns** — `consumes_lit_iff`, `consumes_seqs_cons`,
  `consumes_many_atom_iff`, `consumes_plus_atom_iff`: the matches of a literal, a
  sequence and the stars of a character class;
* **the scans** — `matchHere_eq_none_iff`: `matchHere` fails exactly when there is no
  match; `search_eq_none_iff`, `findAll_eq_nil_iff` and `sub_eq_self`: a pattern that matches at no position
  leaves `re.finditer` empty and `re.sub` the identity; `subAux_skip`: stepping over `k`
  characters of a match is the scan of what follows them.
-/

namespace PyRe

open PyStr

/-- `Consumes r s caps t caps'`: `r` matches the prefix of `s` that leaves `t`, turning
the groups `caps` into `caps'`. -/
inductive Consumes : Regex → Str → Caps → Str → Caps → Prop where
  /-- A character the atom accepts. -/
  | atom {a : Atom} {c : Char} {t : Str} {caps : Caps} :
      a.test c = true → Consumes (.atom a) (c :: t) caps t caps
  /-- The empty pattern consumes nothing. -/
  | eps {s : Str} {caps : Caps} : Consumes .eps s caps s caps
  /-- The first pattern, then the second on what it leaves. -/
  | seq {r₁ r₂ : Regex} {s m t : Str} {caps caps₁ caps₂ : Caps} :
      Consumes r₁ s caps m caps₁ → Consumes r₂ m caps₁ t caps₂ →
      Consumes (.seq r₁ r₂) s caps t caps₂
  /-- The left branch. -/
  | altLeft {r₁ r₂ : Regex} {s t : Str} {caps caps' : Caps} :
      Consumes r₁ s caps t caps' → Consumes (.alt r₁ r₂) s caps t caps'
  /-- The right branch. -/
  | altRight {r₁ r₂ : Regex} {s t : Str} {caps caps' : Caps} :
      Consumes r₂ s caps t caps' → Consumes (.alt r₁ r₂) s caps t caps'
  /-- No more iterations. -/
  | starNil {r : Regex} {g : Bool} {s : Str} {caps : Caps} : Consumes (.star r g) s caps s caps
  /-- One more iteration, which consumes input. -/
  | starCons {r : Regex} {g : Bool} {s m t : Str} {caps caps₁ caps₂ : Caps} :
      Consumes r s caps m caps₁ → m.length < s.length → Consumes (.star r g) m caps₁ t caps₂ →
      Consumes (.star r g) s caps t caps₂
  /-- A group records the text its pattern consumed. -/
  | group {i : Nat} {r : Regex} {s t : Str} {caps caps' : Caps} :
      Consumes r s caps t caps' →
      Consumes (.group i r) s caps t ((i, s.take (s.length - t.length)) :: caps')
  /-- A lookahead at the end of the text. -/
  | notAheadNil {a : Atom} {caps : Caps} : Consumes (.notAhead a) [] caps [] caps
  /-- A lookahead before a character the atom refuses. -/
  | notAheadCons {a : Atom} {c : Char} {t : Str} {caps : Caps} :
      a.test c = false → Consumes (.notAhead a) (c :: t) caps (c :: t) caps

/-- What a match leaves is a suffix of its input. -/
theorem Consumes.suffix {r : Regex} {s t : Str} {caps caps' : Caps}
    (h : Consumes r s caps t caps') : t <:+ s := by
  induction h with
  | atom => exact List.suffix_cons _ _
  | seq _ _ ih₁ ih₂ => exact ih₂.trans ih₁
  | altLeft _ ih | altRight _ ih | group _ ih => exact ih
  | starCons _ _ _ _ ih => exact ih.trans ‹_›
  | eps | starNil | notAheadNil | notAheadCons => exact List.suffix_refl _

theorem or_eq_some_imp {α : Type} {x y : Option α} {b : α} (h : x.or y = some b) :
    x = some b ∨ y = some b :=
  (Option.or_eq_some.mp h).imp_right And.right

/-- One round of the star loop succeeds when the iteration or the stop does. -/
@[simp] theorem isSome_starLoop_succ {β : Type}
    (body : Str → Caps → (Caps → Str → Option β) → Option β) (g : Bool) (n : Nat) (s : Str)
    (caps : Caps) (k : Caps → Str → Option β) :
    (starLoop body g (n + 1) s caps k).isSome =
      ((body s caps fun caps' s' =>
          if s'.length < s.length then starLoop body g n s' caps' k else none).isSome ||
        (k caps s).isSome) := by
  cases g <;> simp [starLoop, Option.isSome_or, Bool.or_comm]

/-! ## Soundness -/

section Sound

variable {β : Type}

/-- The star loop returns only what a chain of iterations hands to the continuation. -/
theorem starLoop_sound {r : Regex} {g : Bool}
    (ih : ∀ {s : Str} {caps : Caps} {k : Caps → Str → Option β} {b : β}, r.run s caps k = some b →
      ∃ t caps', Consumes r s caps t caps' ∧ k caps' t = some b) (n : Nat) :
    ∀ {s : Str} {caps : Caps} {k : Caps → Str → Option β} {b : β},
      starLoop (fun s caps k => r.run s caps k) g n s caps k = some b →
      ∃ t caps', Consumes (.star r g) s caps t caps' ∧ k caps' t = some b := by
  induction n with
  | zero => exact fun h => ⟨_, _, .starNil, h⟩
  | succ n ihn =>
    intro s caps k b h
    have more : ∀ {b}, r.run s caps (fun caps' s' => if s'.length < s.length then
        starLoop (fun s caps k => r.run s caps k) g n s' caps' k else none) = some b →
        ∃ t caps', Consumes (.star r g) s caps t caps' ∧ k caps' t = some b := by
      intro b hb
      obtain ⟨m, caps₁, hr, hk⟩ := ih hb
      split at hk
      · obtain ⟨t, caps', hs, hk⟩ := ihn hk
        exact ⟨t, caps', .starCons hr ‹_› hs, hk⟩
      · cases hk
    cases g
    · rcases or_eq_some_imp h with h | h
      · exact ⟨_, _, .starNil, h⟩
      · exact more h
    · rcases or_eq_some_imp h with h | h
      · exact more h
      · exact ⟨_, _, .starNil, h⟩

/-- **Soundness.** The matcher returns only what the continuation returns on a match. -/
theorem run_sound (r : Regex) :
    ∀ {s : Str} {caps : Caps} {k : Caps → Str → Option β} {b : β}, r.run s caps k = some b →
      ∃ t caps', Consumes r s caps t caps' ∧ k caps' t = some b := by
  induction r with
  | atom a =>
    intro s caps k b h
    cases s with
    | nil => cases h
    | cons c t =>
      simp only [Regex.run] at h
      split at h
      · exact ⟨t, caps, .atom ‹_›, h⟩
      · cases h
  | eps => exact fun h => ⟨_, _, .eps, h⟩
  | seq r₁ r₂ ih₁ ih₂ =>
    intro s caps k b h
    obtain ⟨m, caps₁, h₁, hk⟩ := ih₁ h
    obtain ⟨t, caps₂, h₂, hk⟩ := ih₂ hk
    exact ⟨t, caps₂, .seq h₁ h₂, hk⟩
  | alt r₁ r₂ ih₁ ih₂ =>
    intro s caps k b h
    rcases or_eq_some_imp h with h | h
    · obtain ⟨t, caps', h', hk⟩ := ih₁ h
      exact ⟨t, caps', .altLeft h', hk⟩
    · obtain ⟨t, caps', h', hk⟩ := ih₂ h
      exact ⟨t, caps', .altRight h', hk⟩
  | star r g ih => exact starLoop_sound ih _
  | group i r ih =>
    intro s caps k b h
    obtain ⟨t, caps', h', hk⟩ := ih h
    exact ⟨t, _, .group h', hk⟩
  | notAhead a =>
    intro s caps k b h
    cases s with
    | nil => exact ⟨[], caps, .notAheadNil, h⟩
    | cons c t =>
      simp only [Regex.run] at h
      split at h
      · cases h
      · exact ⟨_, caps, .notAheadCons (Bool.eq_false_iff.mpr ‹_›), h⟩

end Sound

/-! ## Completeness -/

section Complete

variable {β : Type}

/-- With fuel for every character, the star loop tries every chain of iterations. -/
theorem starLoop_complete {r : Regex} {g : Bool}
    (ih : ∀ {s t : Str} {caps caps' : Caps} {k : Caps → Str → Option β},
      Consumes r s caps t caps' → (k caps' t).isSome → (r.run s caps k).isSome) (n : Nat) :
    ∀ {s t : Str} {caps caps' : Caps} {k : Caps → Str → Option β}, s.length ≤ n →
      Consumes (.star r g) s caps t caps' → (k caps' t).isSome →
      (starLoop (fun s caps k => r.run s caps k) g n s caps k).isSome := by
  induction n with
  | zero =>
    intro s t caps caps' k hn h hk
    cases h with
    | starNil => exact hk
    | starCons _ hlt _ => omega
  | succ n ihn =>
    intro s t caps caps' k hn h hk
    rw [isSome_starLoop_succ, Bool.or_eq_true]
    cases h with
    | starNil => exact .inr hk
    | starCons hr hlt hs =>
      refine .inl (ih hr ?_)
      rw [if_pos hlt]
      exact ihn (by omega) hs hk

/-- **Completeness.** If the continuation accepts some match, the matcher returns
something. -/
theorem run_complete (r : Regex) :
    ∀ {s t : Str} {caps caps' : Caps} {k : Caps → Str → Option β},
      Consumes r s caps t caps' → (k caps' t).isSome → (r.run s caps k).isSome := by
  induction r with
  | atom a =>
    intro s t caps caps' k h hk
    cases h with
    | atom ha => simpa only [Regex.run, ha, if_true] using hk
  | eps =>
    intro s t caps caps' k h hk
    cases h
    exact hk
  | seq r₁ r₂ ih₁ ih₂ =>
    intro s t caps caps' k h hk
    cases h with
    | seq h₁ h₂ => exact ih₁ h₁ (ih₂ h₂ hk)
  | alt r₁ r₂ ih₁ ih₂ =>
    intro s t caps caps' k h hk
    simp only [Regex.run, Option.isSome_or, Bool.or_eq_true]
    cases h with
    | altLeft h => exact .inl (ih₁ h hk)
    | altRight h => exact .inr (ih₂ h hk)
  | star r g ih => exact fun h hk => starLoop_complete ih _ le_rfl h hk
  | group i r ih =>
    intro s t caps caps' k h hk
    cases h with
    | group h => exact ih h hk
  | notAhead a =>
    intro s t caps caps' k h hk
    cases h with
    | notAheadNil => exact hk
    | notAheadCons ha => simpa only [Regex.run, ha] using hk

end Complete

/-! ## The matches of the derived patterns -/

section Derived

variable {s t : Str} {caps caps' : Caps}

theorem consumes_atom_iff {a : Atom} :
    Consumes (.atom a) s caps t caps' ↔ caps' = caps ∧ ∃ c, a.test c = true ∧ s = c :: t :=
  ⟨fun h => by cases h with | atom hc => exact ⟨rfl, _, hc, rfl⟩,
   fun ⟨hcaps, _, hc, hs⟩ => hs ▸ hcaps ▸ .atom hc⟩

theorem consumes_eps_iff : Consumes .eps s caps t caps' ↔ caps' = caps ∧ s = t :=
  ⟨fun h => by cases h; exact ⟨rfl, rfl⟩, fun ⟨h₁, h₂⟩ => h₁ ▸ h₂ ▸ .eps⟩

theorem consumes_seq_iff {r₁ r₂ : Regex} :
    Consumes (.seq r₁ r₂) s caps t caps' ↔
      ∃ m caps₁, Consumes r₁ s caps m caps₁ ∧ Consumes r₂ m caps₁ t caps' :=
  ⟨fun h => by cases h with | seq h₁ h₂ => exact ⟨_, _, h₁, h₂⟩,
   fun ⟨_, _, h₁, h₂⟩ => .seq h₁ h₂⟩

theorem consumes_alt_iff {r₁ r₂ : Regex} :
    Consumes (.alt r₁ r₂) s caps t caps' ↔ Consumes r₁ s caps t caps' ∨ Consumes r₂ s caps t caps' :=
  ⟨fun h => by cases h with | altLeft h => exact .inl h | altRight h => exact .inr h,
   fun h => h.elim .altLeft .altRight⟩

theorem consumes_group_iff {i : Nat} {r : Regex} :
    Consumes (.group i r) s caps t caps' ↔
      ∃ caps₁, Consumes r s caps t caps₁ ∧ caps' = (i, s.take (s.length - t.length)) :: caps₁ :=
  ⟨fun h => by cases h with | group h => exact ⟨_, h, rfl⟩, fun ⟨_, h, hc⟩ => hc ▸ .group h⟩

theorem consumes_seqs_cons (r : Regex) (rs : List Regex) :
    Consumes (seqs (r :: rs)) s caps t caps' ↔
      ∃ m caps₁, Consumes r s caps m caps₁ ∧ Consumes (seqs rs) m caps₁ t caps' := by
  cases rs with
  | nil =>
    simp only [seqs, consumes_eps_iff]
    exact ⟨fun h => ⟨t, caps', h, rfl, rfl⟩, fun ⟨_, _, h, h₁, h₂⟩ => h₂ ▸ h₁ ▸ h⟩
  | cons r' rs => exact consumes_seq_iff

/-- A literal matches itself and records nothing. -/
theorem consumes_lit_iff {l : Str} : Consumes (lit l) s caps t caps' ↔ caps' = caps ∧ s = l ++ t := by
  induction l generalizing s with
  | nil => exact consumes_eps_iff
  | cons c l ih =>
    rw [lit, consumes_seq_iff]
    constructor
    · rintro ⟨m, caps₁, h₁, h₂⟩
      obtain ⟨rfl, x, hx, rfl⟩ := consumes_atom_iff.mp h₁
      obtain ⟨rfl, rfl⟩ := ih.mp h₂
      obtain rfl : x = c := by simpa [Atom.test, ClassItem.test] using hx
      exact ⟨rfl, rfl⟩
    · rintro ⟨rfl, rfl⟩
      exact ⟨l ++ t, _, consumes_atom_iff.mpr ⟨rfl, c, by simp [Atom.test, ClassItem.test], rfl⟩,
        ih.mpr ⟨rfl, rfl⟩⟩

/-- The iterations of a pattern that consumes exactly one character of a class. -/
theorem consumes_star_of_single {r : Regex} {g : Bool} {p : Char → Bool}
    (hr : ∀ {s t : Str} {caps caps' : Caps}, Consumes r s caps t caps' ↔
      caps' = caps ∧ ∃ x, p x = true ∧ s = x :: t) :
    Consumes (.star r g) s caps t caps' ↔ caps' = caps ∧ ∃ w, (∀ x ∈ w, p x = true) ∧ s = w ++ t := by
  constructor
  · intro h
    generalize hR : Regex.star r g = R at h
    induction h with
    | starNil => exact ⟨rfl, [], (fun _ h => nomatch h), rfl⟩
    | starCons h₁ _ _ _ ih =>
      cases hR
      obtain ⟨rfl, x, hx, rfl⟩ := hr.mp h₁
      obtain ⟨rfl, w, hw, rfl⟩ := ih rfl
      exact ⟨rfl, x :: w, List.forall_mem_cons.mpr ⟨hx, hw⟩, rfl⟩
    | _ => cases hR
  · rintro ⟨rfl, w, hw, rfl⟩
    induction w with
    | nil => exact .starNil
    | cons x w ih =>
      rw [List.forall_mem_cons] at hw
      exact .starCons (hr.mpr ⟨rfl, x, hw.1, rfl⟩) (by simp) (ih hw.2)

theorem consumes_many_atom_iff {a : Atom} :
    Consumes (many (.atom a)) s caps t caps' ↔
      caps' = caps ∧ ∃ w, (∀ x ∈ w, a.test x = true) ∧ s = w ++ t :=
  consumes_star_of_single consumes_atom_iff

theorem consumes_plus_atom_iff {a : Atom} :
    Consumes (plus (.atom a)) s caps t caps' ↔
      caps' = caps ∧ ∃ w, w ≠ [] ∧ (∀ x ∈ w, a.test x = true) ∧ s = w ++ t := by
  rw [plus, consumes_seq_iff]
  constructor
  · rintro ⟨m, _, h₁, h₂⟩
    obtain ⟨rfl, x, hx, rfl⟩ := consumes_atom_iff.mp h₁
    obtain ⟨rfl, w, hw, rfl⟩ := consumes_star_of_single consumes_atom_iff |>.mp h₂
    exact ⟨rfl, x :: w, List.cons_ne_nil _ _, List.forall_mem_cons.mpr ⟨hx, hw⟩, rfl⟩
  · rintro ⟨rfl, _ | ⟨x, w⟩, hne, hw, rfl⟩
    · exact absurd rfl hne
    · rw [List.forall_mem_cons] at hw
      exact ⟨w ++ t, _, consumes_atom_iff.mpr ⟨rfl, x, hw.1, rfl⟩,
        (consumes_star_of_single consumes_atom_iff).mpr ⟨rfl, w, hw.2, rfl⟩⟩

theorem consumes_plus_space_iff :
    Consumes (plus space) s caps t caps' ↔
      caps' = caps ∧ ∃ ws, ws ≠ [] ∧ (∀ x ∈ ws, isSpaceChar x = true) ∧ s = ws ++ t := by
  simpa [Atom.test, ClassItem.test] using @consumes_plus_atom_iff s t caps caps' (.oneOf [.space])

end Derived

/-- `re.search` finds nothing exactly when no suffix of the text starts with a match. -/
theorem search_eq_none_iff {r : Regex} {s : Str} :
    search r s = none ↔ ∀ u, u <:+ s → matchHere r u = none := by
  suffices ∀ i, searchAux r i s = none ↔ ∀ u, u <:+ s → matchHere r u = none from this 0
  induction s with
  | nil =>
    intro i
    simp only [List.suffix_nil, forall_eq, searchAux, Option.map_eq_none']
  | cons c t ih =>
    intro i
    simp only [List.suffix_cons_iff, or_imp, forall_and, forall_eq, searchAux]
    split
    · simp_all
    · simp only [true_and, *, ih]

/-! ## The scans -/

theorem matchHere_sound {r : Regex} {s rest : Str} {caps : Caps}
    (h : matchHere r s = some (caps, rest)) : Consumes r s [] rest caps := by
  obtain ⟨t, caps', hc, hk⟩ := run_sound r h
  cases hk
  exact hc

/-- `matchHere` fails exactly when the pattern has no match at the start of the text. -/
theorem matchHere_eq_none_iff {r : Regex} {s : Str} :
    matchHere r s = none ↔ ∀ t caps, ¬ Consumes r s [] t caps := by
  constructor
  · intro h t caps hc
    have := @run_complete _ r _ _ _ _ (fun caps rest => some (caps, rest)) hc rfl
    rw [← matchHere, h] at this
    cases this
  · intro h
    cases hm : matchHere r s with
    | none => rfl
    | some p => exact absurd (matchHere_sound hm) (h _ _)

/-- `re.finditer` finds nothing exactly when no suffix of the text starts with a match. -/
theorem findAll_eq_nil_iff {r : Regex} {s : Str} :
    findAll r s = [] ↔ ∀ u, u <:+ s → matchHere r u = none := by
  suffices ∀ i, findAllAux r 0 i s = [] ↔ ∀ u, u <:+ s → matchHere r u = none from this 0
  induction s with
  | nil =>
    intro i
    simp only [List.suffix_nil, forall_eq, findAllAux.eq_1]
    split <;> simp_all
  | cons c t ih =>
    intro i
    simp only [List.suffix_cons_iff, or_imp, forall_and, forall_eq]
    rw [findAllAux.eq_2]
    split
    · simp_all
    · simp only [true_and, *, ih]

/-- `re.sub` leaves a text in which the pattern matches at no position as it is. -/
theorem sub_eq_self {r : Regex} {repl : Str} :
    ∀ {s : Str}, (∀ u, u <:+ s → matchHere r u = none) → sub r repl s = s
  | [], h => by simp only [sub, subAux, h [] (List.suffix_refl _), Option.isSome_none]; rfl
  | c :: t, h => by
    simp only [sub, subAux, h _ (List.suffix_refl _)]
    exact congrArg _ (sub_eq_self fun u hu => h u (hu.trans (List.suffix_cons c t)))

/-- Stepping over `k` characters of a match is the scan of what follows them. -/
theorem subAux_skip {r : Regex} {repl : Str} :
    ∀ (k : Nat) {t : Str}, k ≤ t.length → subAux r repl k t = sub r repl (t.drop k)
  | 0, _, _ => rfl
  | k + 1, c :: t, h => by
    simp only [subAux, List.drop_succ_cons]
    exact subAux_skip k (Nat.le_of_succ_le_succ h)

end PyRe
