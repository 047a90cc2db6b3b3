import WaqitiAudit.Text.Matches

/-!
# Literal patterns, and the matches `re.sub` can create

The rewrite patterns of the migrator are literal texts with runs of `\s` in them:
`import\s+javax\.persistence\.`, `@Type\s*\(\s*JsonType\.class\s*\)`,
`\.antMatchers\s*\(`. `Regex.toks` reads such a pattern as a list of tokens (`Tok`), and
its matches are exactly the words the tokens spell (`consumes_iff_spelled`).

`re.sub` rewrites a text by replacing matches of its pattern with a text `R` and keeping
every character at which the pattern does not match (`Rewritten`, `sub_rewritten`).
Whether a match of some other literal pattern `Q` can appear in the result is decided
on `R` alone (`Keeps`). A match of `Q` in the result must then lie outside every
replacement, or overlap one only where the replacement and the text it replaced agree.

What is proved:

* **the language of a literal pattern** — `consumes_iff_spelled`, with the scans read off
  it: `matchHere_eq_none_iff_spelled`, `findAll_eq_nil_of_absent`, `sub_eq_self_of_absent`;
* **what `re.sub` computes** — `sub_rewritten`;
* **what it can create** — `infix_of_rewritten`: under `Keeps`, a word of `Q` in the
  rewritten text was in the original; `sub_absent`: a pattern absent before the
  rewrite is absent after it; `sub_clears`: under the strict `Keeps`, no match of the
  rewritten pattern is left.
-/

namespace PyRe

open PyStr

/-! ## Tokens -/

/-- A piece of a literal pattern. -/
inductive Tok where
  /-- A literal text. -/
  | lit (c : Str)
  /-- `\s*`. -/
  | spaces
  /-- `\s`. -/
  | space1
  deriving Repr, DecidableEq

/-- `Spelled ts w`: the tokens `ts` spell the word `w`. -/
inductive Spelled : List Tok → Str → Prop where
  | nil : Spelled [] []
  | lit {c : Str} {ts : List Tok} {w : Str} : Spelled ts w → Spelled (.lit c :: ts) (c ++ w)
  | spaces {ts : List Tok} {ws w : Str} :
      (∀ x ∈ ws, isSpaceChar x = true) → Spelled ts w → Spelled (.spaces :: ts) (ws ++ w)
  | space1 {ts : List Tok} {x : Char} {w : Str} :
      isSpaceChar x = true → Spelled ts w → Spelled (.space1 :: ts) (x :: w)

/-- A text with no whitespace. -/
def SpaceFree (s : Str) : Prop := ∀ x ∈ s, isSpaceChar x = false

theorem eq_nil_of_spaces_of_spaceFree {l : Str} (h₁ : ∀ x ∈ l, isSpaceChar x = true)
    (h₂ : SpaceFree l) : l = [] :=
  List.eq_nil_iff_forall_not_mem.mpr fun x hx => absurd (h₁ x hx) (by simp [h₂ x hx])

theorem SpaceFree.mono {l l' : Str} (h : SpaceFree l') (hl : l ⊆ l') : SpaceFree l :=
  fun x hx => h x (hl hx)

namespace Spelled

theorem append {ts₁ ts₂ : List Tok} {w₁ w₂ : Str} (h₁ : Spelled ts₁ w₁) (h₂ : Spelled ts₂ w₂) :
    Spelled (ts₁ ++ ts₂) (w₁ ++ w₂) := by
  induction h₁ with
  | nil => exact h₂
  | lit _ ih => rw [List.append_assoc]; exact .lit ih
  | spaces hws _ ih => rw [List.append_assoc]; exact .spaces hws ih
  | space1 hx _ ih => exact .space1 hx ih

theorem of_append {ts₂ : List Tok} :
    ∀ {ts₁ : List Tok} {w : Str}, Spelled (ts₁ ++ ts₂) w →
      ∃ w₁ w₂, w = w₁ ++ w₂ ∧ Spelled ts₁ w₁ ∧ Spelled ts₂ w₂
  | [], w, h => ⟨[], w, rfl, .nil, h⟩
  | .lit _ :: _, _, .lit h => by
    obtain ⟨w₁, w₂, rfl, h₁, h₂⟩ := of_append h
    exact ⟨_, w₂, (List.append_assoc _ _ _).symm, .lit h₁, h₂⟩
  | .spaces :: _, _, .spaces hws h => by
    obtain ⟨w₁, w₂, rfl, h₁, h₂⟩ := of_append h
    exact ⟨_, w₂, (List.append_assoc _ _ _).symm, .spaces hws h₁, h₂⟩
  | .space1 :: _, _, .space1 hx h => by
    obtain ⟨w₁, w₂, rfl, h₁, h₂⟩ := of_append h
    exact ⟨_, w₂, rfl, .space1 hx h₁, h₂⟩

@[simp] theorem nil_iff {w : Str} : Spelled [] w ↔ w = [] :=
  ⟨fun h => by cases h; rfl, fun h => h ▸ .nil⟩

@[simp] theorem lit_iff {c w : Str} : Spelled [.lit c] w ↔ w = c :=
  ⟨fun h => by cases h with | lit h => rw [nil_iff.mp h, List.append_nil],
   fun h => by
    subst h
    have h' := @Spelled.lit w [] [] .nil
    rwa [List.append_nil] at h'⟩

@[simp] theorem space1_iff {w : Str} : Spelled [.space1] w ↔ ∃ x, isSpaceChar x = true ∧ w = [x] :=
  ⟨fun h => by cases h with | space1 hx h => exact ⟨_, hx, by rw [nil_iff.mp h]⟩,
   fun ⟨_, hx, h⟩ => h ▸ .space1 hx .nil⟩

@[simp] theorem spaces_iff {w : Str} : Spelled [.spaces] w ↔ ∀ x ∈ w, isSpaceChar x = true :=
  ⟨fun h => by cases h with | spaces hws h => rwa [nil_iff.mp h, List.append_nil],
   fun h => by
    have h' := @Spelled.spaces [] w [] h .nil
    rwa [List.append_nil] at h'⟩

end Spelled

/-! ## Reading a pattern as tokens -/

/-- The token of a one-character pattern: a literal character or `\s`. -/
def Atom.tok : Atom → Option Tok
  | .oneOf [.char c] => some (.lit [c])
  | .oneOf [.space] => some .space1
  | _ => none

/-- The tokens of a pattern built from literal characters, `\s` and `\s*`. -/
def Regex.toks : Regex → Option (List Tok)
  | .atom a => a.tok.map ([·])
  | .eps => some []
  | .seq r₁ r₂ => r₁.toks.bind fun ts₁ => r₂.toks.map (ts₁ ++ ·)
  | .star r _ => if r.toks = some [.space1] then some [.spaces] else none
  | .alt _ _ | .group _ _ | .notAhead _ => none

theorem Atom.tok_eq_some {a : Atom} {tk : Tok} (h : a.tok = some tk) :
    (∃ c, a = .oneOf [.char c] ∧ tk = .lit [c]) ∨ (a = .oneOf [.space] ∧ tk = .space1) := by
  unfold Atom.tok at h
  split at h
  · cases h
    exact .inl ⟨_, rfl, rfl⟩
  · cases h
    exact .inr ⟨rfl, rfl⟩
  · cases h

theorem exists_space1_iff {s t : Str} :
    (∃ w, Spelled [.space1] w ∧ s = w ++ t) ↔ ∃ x, isSpaceChar x = true ∧ s = x :: t :=
  ⟨fun ⟨_, hw, hs⟩ => by
    obtain ⟨x, hx, rfl⟩ := Spelled.space1_iff.mp hw
    exact ⟨x, hx, hs⟩,
   fun ⟨x, hx, hs⟩ => ⟨[x], .space1 hx .nil, hs⟩⟩

/-- **The language of a literal pattern.** Its matches are the words its tokens spell,
and it records no group. -/
theorem consumes_iff_spelled (r : Regex) :
    ∀ {ts : List Tok}, r.toks = some ts → ∀ {s t : Str} {caps caps' : Caps},
      Consumes r s caps t caps' ↔ caps' = caps ∧ ∃ w, Spelled ts w ∧ s = w ++ t := by
  induction r with
  | atom a =>
    intro ts hts s t caps caps'
    obtain ⟨tk, htk, rfl⟩ := Option.map_eq_some'.mp hts
    rw [consumes_atom_iff]
    rcases Atom.tok_eq_some htk with ⟨c, rfl, rfl⟩ | ⟨rfl, rfl⟩
    · simp [Atom.test, ClassItem.test]
    · simp only [Atom.test, ClassItem.test, List.any_cons, List.any_nil, Bool.or_false]
      exact and_congr_right fun _ => exists_space1_iff.symm
  | eps =>
    intro ts hts s t caps caps'
    cases hts
    simp only [Spelled.nil_iff, exists_eq_left, List.nil_append]
    exact ⟨fun h => by cases h; exact ⟨rfl, rfl⟩, fun ⟨h₁, h₂⟩ => h₁ ▸ h₂ ▸ .eps⟩
  | seq r₁ r₂ ih₁ ih₂ =>
    intro ts hts s t caps caps'
    obtain ⟨ts₁, h₁, hts⟩ := Option.bind_eq_some.mp hts
    obtain ⟨ts₂, h₂, rfl⟩ := Option.map_eq_some'.mp hts
    rw [consumes_seq_iff]
    constructor
    · rintro ⟨m, caps₁, hc₁, hc₂⟩
      obtain ⟨rfl, w₁, hw₁, rfl⟩ := (ih₁ h₁).mp hc₁
      obtain ⟨rfl, w₂, hw₂, rfl⟩ := (ih₂ h₂).mp hc₂
      exact ⟨rfl, w₁ ++ w₂, hw₁.append hw₂, (List.append_assoc _ _ _).symm⟩
    · rintro ⟨rfl, w, hw, rfl⟩
      obtain ⟨w₁, w₂, rfl, hw₁, hw₂⟩ := Spelled.of_append hw
      exact ⟨w₂ ++ t, _, (ih₁ h₁).mpr ⟨rfl, w₁, hw₁, List.append_assoc _ _ _⟩,
        (ih₂ h₂).mpr ⟨rfl, w₂, hw₂, rfl⟩⟩
  | alt | group | notAhead => intro ts hts; cases hts
  | star r g ih =>
    intro ts hts s t caps caps'
    unfold Regex.toks at hts
    split at hts
    · cases hts
      rw [consumes_star_of_single fun {_ _ _ _} => (ih ‹_›).trans (and_congr_right fun _ =>
        exists_space1_iff)]
      simp only [Spelled.spaces_iff]
    · cases hts

/-! ## The scans on a literal pattern -/

section Scans

variable {r : Regex} {ts : List Tok}

/-- No word of `ts` occurs in `s`. -/
def Absent (ts : List Tok) (s : Str) : Prop := ∀ w, Spelled ts w → ¬ w <:+: s

/-- A literal text is absent when it does not occur. -/
theorem absent_lit_iff {c s : Str} : Absent [.lit c] s ↔ ¬ c <:+: s := by
  constructor
  · intro h
    simpa using h _ (.lit .nil)
  · rintro h _ (hw : Spelled [.lit c] _)
    cases hw with
    | lit hw => cases hw; simpa using h

theorem matchHere_eq_none_iff_spelled (hr : r.toks = some ts) {s : Str} :
    matchHere r s = none ↔ ∀ w, Spelled ts w → ¬ w <+: s := by
  rw [matchHere_eq_none_iff]
  constructor
  · rintro h w hw ⟨t, rfl⟩
    exact h t [] ((consumes_iff_spelled r hr).mpr ⟨rfl, w, hw, rfl⟩)
  · intro h t caps hc
    obtain ⟨_, w, hw, rfl⟩ := (consumes_iff_spelled r hr).mp hc
    exact h w hw (List.prefix_append _ _)

theorem matchHere_eq_none_of_absent (hr : r.toks = some ts) {s u : Str} (h : Absent ts s)
    (hu : u <:+ s) : matchHere r u = none :=
  (matchHere_eq_none_iff_spelled hr).mpr fun w hw hwu => h w hw (hwu.isInfix.trans hu.isInfix)

theorem findAll_eq_nil_of_absent (hr : r.toks = some ts) {s : Str} (h : Absent ts s) :
    findAll r s = [] :=
  findAll_eq_nil_iff.mpr fun _ => matchHere_eq_none_of_absent hr h

theorem sub_eq_self_of_absent (hr : r.toks = some ts) (repl : Str) {s : Str} (h : Absent ts s) :
    sub r repl s = s :=
  sub_eq_self fun _ => matchHere_eq_none_of_absent hr h

end Scans

/-! ## What `re.sub` computes -/

/-- `Rewritten ts R o u`: `u` is `o` with some words of `ts` replaced by `R`, every other
character kept at a position where no word of `ts` starts. -/
inductive Rewritten (ts : List Tok) (R : Str) : Str → Str → Prop where
  | nil : Rewritten ts R [] []
  | keep {c : Char} {o u : Str} : (∀ w, Spelled ts w → ¬ w <+: c :: o) → Rewritten ts R o u →
      Rewritten ts R (c :: o) (c :: u)
  | repl {m o u : Str} : Spelled ts m → Rewritten ts R o u → Rewritten ts R (m ++ o) (R ++ u)

/-- **What `re.sub` computes**, for a literal pattern with no empty match. -/
theorem sub_rewritten {r : Regex} {ts : List Tok} (hr : r.toks = some ts)
    (hne : ∀ w, Spelled ts w → w ≠ []) (R : Str) :
    ∀ (n : Nat) (s : Str), s.length ≤ n → Rewritten ts R s (sub r R s)
  | _, [], _ => by
    have : matchHere r [] = none := (matchHere_eq_none_iff_spelled hr).mpr fun w hw hp =>
      hne w hw (List.prefix_nil.mp hp)
    simp only [sub, subAux, this, Option.isSome_none]
    exact .nil
  | n + 1, c :: t, hn => by
    rw [sub, subAux.eq_4]
    split
    · rename_i caps rest hm
      obtain ⟨_, w, hw, hs⟩ := (consumes_iff_spelled r hr).mp (matchHere_sound hm)
      have hlen : rest.length < t.length + 1 := by
        have := congrArg List.length hs
        simp only [List.length_append, List.length_cons] at this
        have := List.length_pos.mpr (hne w hw)
        omega
      have hrest : t.drop (t.length - rest.length) = rest := by
        have hsuf : rest <:+ c :: t := hs ▸ List.suffix_append w rest
        refine (List.suffix_iff_eq_drop.mp ((List.suffix_cons_iff.mp hsuf).resolve_left ?_)).symm
        intro h
        rw [h] at hlen
        simp at hlen
      rw [if_pos hlen, subAux_skip _ (Nat.sub_le _ _), hrest, hs]
      exact .repl hw (sub_rewritten hr hne R n rest (by simp at hn; omega))
    · rename_i hm
      rw [← sub]
      exact .keep ((matchHere_eq_none_iff_spelled hr).mp hm)
        (sub_rewritten hr hne R n t (Nat.le_of_succ_le_succ hn))

/-! ## Where a text can meet a word -/

/-- Two lemmas on lists: how a prefix and an infix of `a ++ b` sit across the seam. -/
theorem prefix_append_cases {α : Type} {K a b : List α} (h : K <+: a ++ b) :
    K <+: a ∨ ∃ K', K = a ++ K' ∧ K' <+: b := by
  obtain ⟨y, hy⟩ := h
  rcases List.append_eq_append_iff.mp hy with ⟨a', rfl, -⟩ | ⟨c', rfl, rfl⟩
  · exact .inl (List.prefix_append _ _)
  · exact .inr ⟨c', rfl, List.prefix_append _ _⟩

theorem infix_append_cases {α : Type} {w a b : List α} (h : w <:+: a ++ b) :
    w <:+: a ∨ w <:+: b ∨ ∃ σ β, σ ≠ [] ∧ β ≠ [] ∧ σ <:+ a ∧ β <+: b ∧ w = σ ++ β := by
  obtain ⟨x, y, hxy⟩ := h
  rcases List.append_eq_append_iff.mp hxy with ⟨a', rfl, -⟩ | ⟨c', hxw, rfl⟩
  · exact .inl ⟨x, a', rfl⟩
  · rcases List.append_eq_append_iff.mp hxw with ⟨a'', rfl, rfl⟩ | ⟨c'', rfl, rfl⟩
    · by_cases ha : a'' = []
      · subst ha
        exact .inr (.inl (List.prefix_append _ _).isInfix)
      by_cases hc : c' = []
      · subst hc
        rw [List.append_nil]
        exact .inl (List.suffix_append _ _).isInfix
      exact .inr (.inr ⟨a'', c', ha, hc, List.suffix_append _ _, List.prefix_append _ _, rfl⟩)
    · exact .inr (.inl ⟨c'', y, by rw [List.append_assoc]⟩)

/-- The first block of the tokens and the blocks after it: the literal texts between two
`\s`, joined across the `\s*` runs, which may be empty. -/
def blocks : List Tok → Str × List Str
  | [] => ([], [])
  | .lit c :: ts => (c ++ (blocks ts).1, (blocks ts).2)
  | .spaces :: ts => blocks ts
  | .space1 :: ts => ([], (blocks ts).1 :: (blocks ts).2)

/-- All the blocks. -/
def allBlocks (ts : List Tok) : List Str := (blocks ts).1 :: (blocks ts).2

/-- The text of a literal token; empty for whitespace. -/
def Tok.text : Tok → Str
  | .lit c => c
  | _ => []

/-- The literal text the tokens start with. -/
def firstLit : List Tok → Str
  | .lit c :: _ => c
  | _ => []

/-- The token of the reversed words. -/
def Tok.reverse : Tok → Tok
  | .lit c => .lit c.reverse
  | tk => tk

/-- The tokens that spell the reversed words. -/
def revToks (ts : List Tok) : List Tok := (ts.map Tok.reverse).reverse

/-- The literal text the tokens end with. -/
def lastLit (ts : List Tok) : Str := (firstLit (revToks ts)).reverse

/-- The longest prefix of `s` without whitespace. -/
def firstRun (s : Str) : Str := s.takeWhile fun x => !isSpaceChar x

/-- The longest suffix of `s` without whitespace. -/
def lastRun (s : Str) : Str := (firstRun s.reverse).reverse

/-- A test that every text which can begin a word of `ts` passes. -/
def startCompat (ts : List Tok) (σ : Str) : Bool :=
  (σ.isPrefixOf (firstLit ts) || (firstLit ts).isPrefixOf σ) &&
    (firstRun σ).isPrefixOf (blocks ts).1

/-- A test that every text which can end a word of `ts` passes. -/
def endCompat (ts : List Tok) (π : Str) : Bool := startCompat (revToks ts) π.reverse

theorem prefix_firstRun (s : Str) : firstRun s <+: s := List.takeWhile_prefix _

theorem spaceFree_firstRun (s : Str) : SpaceFree (firstRun s) := fun _ hx => by
  simpa using List.mem_takeWhile_imp hx

theorem lastRun_suffix (s : Str) : lastRun s <:+ s := by
  simpa only [List.reverse_reverse] using List.reverse_suffix.mpr (prefix_firstRun s.reverse)

theorem spaceFree_lastRun (s : Str) : SpaceFree (lastRun s) := fun x hx =>
  spaceFree_firstRun _ x (List.mem_reverse.mp hx)

namespace Spelled

theorem infix_text {ts : List Tok} {w : Str} (h : Spelled ts w) :
    ∀ tk ∈ ts, tk.text <:+: w := by
  induction h with
  | nil => exact fun _ h => nomatch h
  | lit _ ih =>
    refine List.forall_mem_cons.mpr ⟨(List.prefix_append _ _).isInfix, fun tk htk => ?_⟩
    exact (ih tk htk).trans (List.suffix_append _ _).isInfix
  | spaces _ _ ih =>
    refine List.forall_mem_cons.mpr ⟨ List.nil_infix, fun tk htk => ?_⟩
    exact (ih tk htk).trans (List.suffix_append _ _).isInfix
  | space1 _ _ ih =>
    refine List.forall_mem_cons.mpr ⟨ List.nil_infix, fun tk htk => ?_⟩
    exact (ih tk htk).trans (List.suffix_cons _ _).isInfix

theorem prefix_firstLit {ts : List Tok} {w : Str} (h : Spelled ts w) : firstLit ts <+: w := by
  cases h with
  | lit => exact List.prefix_append _ _
  | _ => exact List.nil_prefix

theorem reverse {ts : List Tok} {w : Str} (h : Spelled ts w) : Spelled (revToks ts) w.reverse := by
  induction h with
  | nil => exact .nil
  | @lit c _ _ _ ih =>
    simp only [revToks, List.map_cons, List.reverse_cons, List.reverse_append] at ih ⊢
    exact ih.append (lit_iff.mpr rfl)
  | @spaces _ ws _ hws _ ih =>
    simp only [revToks, List.map_cons, List.reverse_cons, List.reverse_append] at ih ⊢
    exact ih.append (spaces_iff.mpr fun x hx => hws x (List.mem_reverse.mp hx))
  | space1 hx _ ih =>
    simp only [revToks, List.map_cons, List.reverse_cons] at ih ⊢
    exact ih.append (.space1 hx .nil)

theorem lastLit_suffix {ts : List Tok} {w : Str} (h : Spelled ts w) : lastLit ts <:+ w := by
  simpa only [lastLit, List.reverse_reverse] using List.reverse_suffix.mpr h.reverse.prefix_firstLit

/-- A prefix of a word without whitespace is a prefix of the first block. -/
theorem prefix_firstBlock {ts : List Tok} {w : Str} (h : Spelled ts w) :
    ∀ {K : Str}, SpaceFree K → K <+: w → K <+: (blocks ts).1 := by
  induction h with
  | nil => exact fun _ h => h
  | lit _ ih =>
    intro K hK hKw
    rcases prefix_append_cases hKw with hK' | ⟨K', rfl, hK'⟩
    · exact hK'.trans (List.prefix_append _ _)
    · exact (List.prefix_append_right_inj _).mpr
        (ih (hK.mono (List.subset_append_right _ _)) hK')
  | spaces hws _ ih =>
    intro K hK hKw
    rcases prefix_append_cases hKw with hK' | ⟨K', rfl, hK'⟩
    · rw [eq_nil_of_spaces_of_spaceFree (fun x hx => hws x (hK'.subset hx)) hK]
      exact List.nil_prefix
    · obtain rfl := eq_nil_of_spaces_of_spaceFree hws (hK.mono (List.subset_append_left _ _))
      exact ih hK hK'
  | space1 hx _ _ =>
    intro K hK hKw
    rcases List.prefix_cons_iff.mp hKw with rfl | ⟨_, rfl, _⟩
    · exact List.nil_prefix
    · exact absurd hx (by simp [hK _ (List.mem_cons_self _ _)])

/-- An infix of a word without whitespace lies in one of the blocks. -/
theorem infix_block {ts : List Tok} {w : Str} (h : Spelled ts w) :
    ∀ {K : Str}, K ≠ [] → SpaceFree K → K <:+: w → ∃ b ∈ allBlocks ts, K <:+: b := by
  induction h with
  | nil => exact fun hK _ hKw => absurd (List.infix_nil.mp hKw) hK
  | lit hw ih =>
    intro K hK0 hK hKw
    rcases infix_append_cases hKw with hK' | hK' | ⟨σ, β, -, -, hσ, hβ, rfl⟩
    · exact ⟨_, List.mem_cons_self _ _, hK'.trans (List.prefix_append _ _).isInfix⟩
    · obtain ⟨b, hb, hKb⟩ := ih hK0 hK hK'
      rcases List.mem_cons.mp hb with rfl | hb
      · exact ⟨_, List.mem_cons_self _ _, hKb.trans (List.suffix_append _ _).isInfix⟩
      · exact ⟨b, List.mem_cons_of_mem _ hb, hKb⟩
    · obtain ⟨x, rfl⟩ := hσ
      obtain ⟨y, hy⟩ := hw.prefix_firstBlock (hK.mono (List.subset_append_right _ _)) hβ
      refine ⟨_, List.mem_cons_self _ _, ⟨x, y, ?_⟩⟩
      show _ = (x ++ σ) ++ (blocks _).1
      rw [← hy]
      simp
  | spaces hws _ ih =>
    intro K hK0 hK hKw
    rcases infix_append_cases hKw with hK' | hK' | ⟨σ, β, hσ0, -, hσ, -, rfl⟩
    · exact absurd (eq_nil_of_spaces_of_spaceFree (fun x hx => hws x (hK'.subset hx)) hK) hK0
    · exact ih hK0 hK hK'
    · exact absurd (eq_nil_of_spaces_of_spaceFree (fun x hx => hws x (hσ.subset hx))
        (hK.mono (List.subset_append_left _ _))) hσ0
  | space1 hx _ ih =>
    intro K hK0 hK hKw
    rcases List.infix_cons_iff.mp hKw with hK' | hK'
    · rcases List.prefix_cons_iff.mp hK' with rfl | ⟨_, rfl, _⟩
      · exact absurd rfl hK0
      · exact absurd hx (by simp [hK _ (List.mem_cons_self _ _)])
    · obtain ⟨b, hb, hKb⟩ := ih hK0 hK hK'
      exact ⟨b, List.mem_cons_of_mem _ hb, hKb⟩

theorem startCompat_true {ts : List Tok} {w σ : Str} (h : Spelled ts w) (hσ : σ <+: w) :
    startCompat ts σ = true := by
  simp only [startCompat, Bool.and_eq_true, Bool.or_eq_true, List.isPrefixOf_iff_prefix]
  exact ⟨ List.prefix_or_prefix_of_prefix hσ h.prefix_firstLit,
    h.prefix_firstBlock (spaceFree_firstRun σ) ((prefix_firstRun σ).trans hσ)⟩

theorem endCompat_true {ts : List Tok} {w π : Str} (h : Spelled ts w) (hπ : π <:+ w) :
    endCompat ts π = true :=
  h.reverse.startCompat_true (List.reverse_prefix.mpr hπ)

end Spelled

/-! ## The test on a replacement -/

/-- `Keeps tq tp R strict`: the test that replacing words of `tp` by `R` creates no word of
`tq`. `R` has a literal text of `tq` missing (so no word of `tq` lies inside `R`) and a
run without whitespace found in no block of `tq` (so `R` lies inside no word of `tq`); a
proper suffix of `R` that can begin a word of `tq` ends every word of `tp`, and a proper
prefix of `R` that can end a word of `tq` begins every word of `tp`. With `strict`, no
proper suffix of `R` can begin a word of `tq` at all. -/
def Keeps (tq tp : List Tok) (R : Str) (strict : Bool) : Bool :=
  !(firstLit tp).isEmpty &&
  tq.any (fun tk => !isIn tk.text R) &&
  ((allBlocks tq).all (fun b => !isIn (firstRun R) b) ||
    (allBlocks tq).all (fun b => !isIn (lastRun R) b)) &&
  R.tails.all (fun σ => σ.isEmpty || σ == R || !startCompat tq σ ||
    (!strict && σ.isSuffixOf (lastLit tp))) &&
  R.inits.all (fun π => π.isEmpty || π == R || !endCompat tq π || π.isPrefixOf (firstLit tp))

/-- What `Keeps` checks, as statements about words. -/
structure KeepsSpec (tq tp : List Tok) (R : Str) (strict : Bool) : Prop where
  firstLit_ne_nil : firstLit tp ≠ []
  lit_outside : ∃ tk ∈ tq, ¬ tk.text <:+: R
  run_outside : ∃ K, SpaceFree K ∧ K <:+: R ∧ ∀ b ∈ allBlocks tq, ¬ K <:+: b
  start : ∀ σ, σ <:+ R → σ ≠ [] → σ ≠ R → startCompat tq σ = true →
    strict = false ∧ σ <:+ lastLit tp
  finish : ∀ π, π <+: R → π ≠ [] → π ≠ R → endCompat tq π = true → π <+: firstLit tp

theorem keepsSpec_of_keeps {tq tp : List Tok} {R : Str} {strict : Bool}
    (hk : Keeps tq tp R strict = true) : KeepsSpec tq tp R strict := by
  simp only [Keeps, Bool.and_eq_true, Bool.or_eq_true, Bool.not_eq_true', List.any_eq_true,
    List.all_eq_true, Bool.not_eq_eq_eq_not, Bool.not_true, List.isEmpty_iff, beq_iff_eq,
    List.mem_tails, List.mem_inits, List.isPrefixOf_iff_prefix, List.isSuffixOf_iff_suffix,
    Bool.not_eq_false', Bool.and_eq_true] at hk
  obtain ⟨⟨⟨⟨hp, ha⟩, hb⟩, hc⟩, hd⟩ := hk
  refine ⟨fun h => by simp [h] at hp, ?_, ?_, ?_, ?_⟩
  · obtain ⟨tk, htk, hR⟩ := ha
    exact ⟨tk, htk, fun h => by simp [(isIn_iff_contiguous _ _).mpr h] at hR⟩
  · rcases hb with hb | hb
    · exact ⟨_, spaceFree_firstRun R, (prefix_firstRun R).isInfix, fun b hb' h => by
        simpa [(isIn_iff_contiguous _ _).mpr h] using hb b hb'⟩
    · exact ⟨_, spaceFree_lastRun R, (lastRun_suffix R).isInfix, fun b hb' h => by
        simpa [(isIn_iff_contiguous _ _).mpr h] using hb b hb'⟩
  · intro σ hσ h0 hR hs
    rcases hc σ hσ with ((h | h) | h) | h
    · exact absurd h h0
    · exact absurd h hR
    · simp [hs] at h
    · exact h
  · intro π hπ h0 hR he
    rcases hd π hπ with ((h | h) | h) | h
    · exact absurd h h0
    · exact absurd h hR
    · simp [he] at h
    · exact h

/-! ## What the rewrite can create -/

section Transfer

variable {tq tp : List Tok} {R : Str} {strict : Bool}

theorem KeepsSpec.word_ne_nil (hk : KeepsSpec tq tp R strict) {w : Str} (hw : Spelled tq w) :
    w ≠ [] := by
  rintro rfl
  obtain ⟨tk, htk, hR⟩ := hk.lit_outside
  exact hR ((List.infix_nil.mp (hw.infix_text tk htk)) ▸ List.nil_infix)

theorem KeepsSpec.not_infix_R (hk : KeepsSpec tq tp R strict) {w : Str} (hw : Spelled tq w) :
    ¬ w <:+: R := fun h => by
  obtain ⟨tk, htk, hR⟩ := hk.lit_outside
  exact hR ((hw.infix_text tk htk).trans h)

theorem KeepsSpec.R_not_in_word (hk : KeepsSpec tq tp R strict) {w : Str} (hw : Spelled tq w) :
    ¬ R <:+: w := fun h => by
  obtain ⟨K, hK, hKR, hb⟩ := hk.run_outside
  by_cases hK0 : K = []
  · exact hb _ (List.mem_cons_self _ _) (hK0 ▸ List.nil_infix)
  · obtain ⟨b, hb', hKb⟩ := hw.infix_block hK0 hK (hKR.trans h)
    exact hb b hb' hKb

theorem Spelled.ne_nil_of_firstLit {ts : List Tok} {w : Str} (hw : Spelled ts w)
    (h : firstLit ts ≠ []) : w ≠ [] := fun hw0 =>
  h (List.prefix_nil.mp (hw0 ▸ hw.prefix_firstLit))

/-- A suffix of a word of `tq` that starts at a kept character or at the start of a
replacement in the rewritten text was already there. -/
theorem prefix_of_rewritten (hk : KeepsSpec tq tp R strict) {o u : Str}
    (h : Rewritten tp R o u) : ∀ (a v : Str), Spelled tq (a ++ v) → v <+: u → v <+: o := by
  induction h with
  | nil => exact fun _ _ _ hv => hv
  | @keep c _ _ _ _ ih =>
    intro a v hw hv
    rcases List.prefix_cons_iff.mp hv with rfl | ⟨v', rfl, hv'⟩
    · exact List.nil_prefix
    · refine List.cons_prefix_cons.mpr ⟨rfl, ih (a ++ [c]) v' ?_ hv'⟩
      rwa [List.append_assoc, List.singleton_append]
  | repl hm _ _ =>
    intro a v hw hv
    have hR : ¬ R <:+: a ++ v := hk.R_not_in_word hw
    rcases List.prefix_or_prefix_of_prefix hv (List.prefix_append R _) with hvR | hRv
    · by_cases hv0 : v = []
      · exact hv0 ▸ List.nil_prefix
      by_cases hvR' : v = R
      · exact absurd (hvR' ▸ (List.suffix_append a v).isInfix) hR
      · refine ((hk.finish v hvR hv0 hvR' ?_).trans hm.prefix_firstLit).trans (List.prefix_append _ _)
        exact hw.endCompat_true (List.suffix_append a v)
    · exact absurd (hRv.isInfix.trans (List.suffix_append a v).isInfix) hR

/-- **A word of `tq` in the rewritten text was in the original.** -/
theorem infix_of_rewritten (hk : KeepsSpec tq tp R strict) {o u : Str}
    (h : Rewritten tp R o u) : ∀ {w : Str}, Spelled tq w → w <:+: u → w <:+: o := by
  induction h with
  | nil => exact fun _ hw => hw
  | keep hno hrest ih =>
    intro w hw hwu
    rcases List.infix_cons_iff.mp hwu with hp | hi
    · exact (prefix_of_rewritten hk (.keep hno hrest) [] w hw hp).isInfix
    · exact (ih hw hi).trans (List.suffix_cons _ _).isInfix
  | repl hm hrest ih =>
    intro w hw hwu
    rcases infix_append_cases hwu with hi | hi | ⟨σ, β, hσ0, -, hσR, hβu, rfl⟩
    · exact absurd hi (hk.not_infix_R hw)
    · exact (ih hw hi).trans (List.suffix_append _ _).isInfix
    · by_cases hσR' : σ = R
      · exact absurd (hσR' ▸ (List.prefix_append σ β).isInfix) (hk.R_not_in_word hw)
      obtain ⟨-, hσm⟩ := hk.start σ hσR hσ0 hσR' (hw.startCompat_true (List.prefix_append σ β))
      obtain ⟨x, hx⟩ := hσm.trans hm.lastLit_suffix
      obtain ⟨y, hy⟩ := prefix_of_rewritten hk hrest σ β hw hβu
      exact ⟨x, y, by rw [← hx, ← hy]; simp⟩

/-- Under the strict test, no word of the rewritten pattern is left. -/
theorem absent_of_rewritten (hk : KeepsSpec tq tq R true) {o u : Str}
    (h : Rewritten tq R o u) : Absent tq u := by
  induction h with
  | nil => exact fun w hw hwu => hk.word_ne_nil hw (List.infix_nil.mp hwu)
  | keep hno hrest ih =>
    intro w hw hwu
    rcases List.infix_cons_iff.mp hwu with hp | hi
    · exact hno w hw (prefix_of_rewritten hk (.keep hno hrest) [] w hw hp)
    · exact ih w hw hi
  | repl _ _ ih =>
    intro w hw hwu
    rcases infix_append_cases hwu with hi | hi | ⟨σ, β, hσ0, -, hσR, -, rfl⟩
    · exact hk.not_infix_R hw hi
    · exact ih w hw hi
    · by_cases hσR' : σ = R
      · exact hk.R_not_in_word hw (hσR' ▸ (List.prefix_append σ β).isInfix)
      · nomatch (hk.start σ hσR hσ0 hσR' (hw.startCompat_true (List.prefix_append σ β))).1

end Transfer

/-- **A rewrite keeps a pattern absent.** -/
theorem sub_absent {r : Regex} {tq tp : List Tok} {R : Str} {strict : Bool}
    (hr : r.toks = some tp) (hk : Keeps tq tp R strict = true) {s : Str} (hs : Absent tq s) :
    Absent tq (sub r R s) := fun w hw hwu =>
  have hk := keepsSpec_of_keeps hk
  hs w hw (infix_of_rewritten hk
    (sub_rewritten hr (fun _ hw => hw.ne_nil_of_firstLit hk.firstLit_ne_nil) R _ s le_rfl) hw hwu)

/-- **A rewrite clears its own pattern**, under the strict test. -/
theorem sub_clears {r : Regex} {tq : List Tok} {R : Str} (hr : r.toks = some tq)
    (hk : Keeps tq tq R true = true) (s : Str) : Absent tq (sub r R s) :=
  have hk := keepsSpec_of_keeps hk
  absent_of_rewritten hk
    (sub_rewritten hr (fun _ hw => hw.ne_nil_of_firstLit hk.firstLit_ne_nil) R _ s le_rfl)

end PyRe
