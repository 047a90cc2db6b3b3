import WaqitiAudit.Text.Str

/-!
# Python regular expressions: a backtracking matcher

Every extraction in the audit scripts is a call into Python's `re` module
(`re.search`, `re.match`, `re.finditer`, `re.findall`, `re.sub`). This file models
the part of `re` those calls need, as a backtracking matcher with Python's priority
order, so that each pattern of the source is written down here as a term that can be
compared with the source text token by token.

* `Atom` is one character class: `[...]`, `[^...]` or `.`; a literal character, `\w`
  and `\s` are bracketed classes with one item.
* `Regex` has sequencing, alternation (left branch first), greedy and lazy stars,
  numbered capture groups, and the one-character negative lookahead `(?!\w)`, which is
  what `\b` means right after a word character.
* `run` is the matcher in continuation-passing style: it tries the ways of matching a
  prefix of the input in Python's order and returns the first one the continuation
  accepts. A star carries a fuel equal to the length of the input, and an iteration
  must consume a character, so the matcher is structural and `decide` can run it.
* `search`, `matchPrefix`, `findAll` and `sub` are `re.search`, `re.match`,
  `re.finditer` and `re.sub`: matches are found left to right and do not overlap.

No pattern of the scripts can match the empty string; for such patterns an empty
match (which Python treats specially) never arises, and the model simply steps over
it.
-/

namespace PyRe

open PyStr

/-- One item of a bracketed character class. -/
inductive ClassItem where
  /-- A single character. -/
  | char (c : Char)
  /-- A range `a-z`. -/
  | range (lo hi : Char)
  /-- `\w`. -/
  | word
  /-- `\s`. -/
  | space
  deriving Repr, DecidableEq

/-- Does the item accept the character? -/
def ClassItem.test : ClassItem → Char → Bool
  | .char c, d => d == c
  | .range lo hi, d => lo ≤ d && d ≤ hi
  | .word, d => isWordChar d
  | .space, d => isSpaceChar d

/-- A pattern that matches exactly one character. -/
inductive Atom where
  /-- `[items]`. -/
  | oneOf (items : List ClassItem)
  /-- `[^items]`. -/
  | noneOf (items : List ClassItem)
  /-- `.` without `re.DOTALL`: anything but a newline. -/
  | dot
  deriving Repr, DecidableEq

/-- Does the atom accept the character? -/
def Atom.test : Atom → Char → Bool
  | .oneOf items, c => items.any (·.test c)
  | .noneOf items, c => !items.any (·.test c)
  | .dot, c => c != '\n'

/-- The captured groups of a match, newest assignment first. -/
abbrev Caps := List (Nat × Str)

/-- A regular expression of Python's `re`, as far as the scripts use it. -/
inductive Regex where
  /-- One character of a class. -/
  | atom (a : Atom)
  /-- The empty pattern. -/
  | eps
  /-- `r s`. -/
  | seq (r s : Regex)
  /-- `r|s`: the left branch has priority. -/
  | alt (r s : Regex)
  /-- `r*` when `greedy`, `r*?` otherwise. -/
  | star (r : Regex) (greedy : Bool)
  /-- The capture group number `i`. -/
  | group (i : Nat) (r : Regex)
  /-- `(?!a)`: the next character, if any, is not accepted by `a`. -/
  | notAhead (a : Atom)
  deriving Repr

/-! ## Derived patterns -/

/-- A literal character. -/
def chr (c : Char) : Regex := .atom (.oneOf [.char c])

/-- `\w`. -/
def word : Regex := .atom (.oneOf [.word])

/-- `\s`. -/
def space : Regex := .atom (.oneOf [.space])

/-- A literal string. -/
def lit : Str → Regex
  | [] => .eps
  | c :: cs => .seq (chr c) (lit cs)

/-- `r+`. -/
def plus (r : Regex) : Regex := .seq r (.star r true)

/-- `r?` (greedy). -/
def opt (r : Regex) : Regex := .alt r .eps

/-- `r*`. -/
def many (r : Regex) : Regex := .star r true

/-- `r*?`. -/
def lazyMany (r : Regex) : Regex := .star r false

/-- The sequence of a list of patterns. -/
def seqs : List Regex → Regex
  | [] => .eps
  | [r] => r
  | r :: rs => .seq r (seqs rs)

/-- The alternation of a list of patterns, earlier ones first. -/
def alts : List Regex → Regex
  | [] => .atom (.oneOf [])
  | [r] => r
  | r :: rs => .alt r (alts rs)

/-! ## The matcher -/

/-- The loop of a star: at most `n` more iterations of `body`, each of which must
consume input, tried before stopping when `greedy` and after it otherwise. -/
def starLoop {β : Type} (body : Str → Caps → (Caps → Str → Option β) → Option β)
    (greedy : Bool) : Nat → Str → Caps → (Caps → Str → Option β) → Option β
  | 0, s, caps, k => k caps s
  | n + 1, s, caps, k =>
    let more := body s caps fun caps' s' =>
      if s'.length < s.length then starLoop body greedy n s' caps' k else none
    if greedy then more.or (k caps s) else (k caps s).or more

/-- Match `r` against a prefix of `s` and pass the groups and the rest of the input to
`k`; backtrack into `r` while `k` fails. -/
def Regex.run {β : Type} : Regex → Str → Caps → (Caps → Str → Option β) → Option β
  | .atom a, s, caps, k =>
    match s with
    | c :: t => if a.test c then k caps t else none
    | [] => none
  | .eps, s, caps, k => k caps s
  | .seq r₁ r₂, s, caps, k => r₁.run s caps fun caps' s' => r₂.run s' caps' k
  | .alt r₁ r₂, s, caps, k => (r₁.run s caps k).or (r₂.run s caps k)
  | .star r g, s, caps, k => starLoop (fun s caps k => r.run s caps k) g s.length s caps k
  | .group i r, s, caps, k =>
    r.run s caps fun caps' s' => k ((i, s.take (s.length - s'.length)) :: caps') s'
  | .notAhead a, s, caps, k =>
    match s with
    | c :: _ => if a.test c then none else k caps s
    | [] => k caps s

/-- The first way `r` matches a prefix of `s`: its groups and the rest of `s`. -/
def matchHere (r : Regex) (s : Str) : Option (Caps × Str) :=
  r.run s [] fun caps rest => some (caps, rest)

/-- A match object: where it starts, the text it matched, its groups and what follows. -/
structure Match where
  start : Nat
  text : Str
  groups : Caps
  rest : Str
  deriving Repr, DecidableEq

/-- `m.group(i)`: `none` is Python's `None`. -/
def Match.group (m : Match) (i : Nat) : Option Str := m.groups.lookup i

/-- `m.group(i)` of a group that always takes part in the match. -/
def Match.grp (m : Match) (i : Nat) : Str := (m.group i).getD []

/-- The match object for a match at position `i` of a text whose suffix there is `s`. -/
def mkMatch (i : Nat) (s : Str) (caps : Caps) (rest : Str) : Match :=
  ⟨i, s.take (s.length - rest.length), caps, rest⟩

/-- `re.match(r, s)`: a match at the very start of `s`. -/
def matchPrefix (r : Regex) (s : Str) : Option Match :=
  (matchHere r s).map fun (caps, rest) => mkMatch 0 s caps rest

/-- Search from position `i`, whose suffix is `s`. -/
def searchAux (r : Regex) (i : Nat) : Str → Option Match
  | [] => (matchHere r []).map fun (caps, rest) => mkMatch i [] caps rest
  | c :: t =>
    match matchHere r (c :: t) with
    | some (caps, rest) => some (mkMatch i (c :: t) caps rest)
    | none => searchAux r (i + 1) t

/-- `re.search(r, s)`: the leftmost match. -/
def search (r : Regex) (s : Str) : Option Match := searchAux r 0 s

/-- The scan of `re.finditer` from position `i` (suffix `s`), with `skip` characters of
the previous match still to step over. -/
def findAllAux (r : Regex) : Nat → Nat → Str → List Match
  | 0, i, s =>
    match matchHere r s with
    | some (caps, rest) =>
      mkMatch i s caps rest ::
        match s with
        | [] => []
        | _ :: t => findAllAux r (s.length - rest.length - 1) (i + 1) t
    | none =>
      match s with
      | [] => []
      | _ :: t => findAllAux r 0 (i + 1) t
  | _ + 1, _, [] => []
  | n + 1, i, _ :: t => findAllAux r n (i + 1) t

/-- `re.finditer(r, s)`: the non-overlapping matches, left to right. -/
def findAll (r : Regex) (s : Str) : List Match := findAllAux r 0 0 s

/-- The scan of `re.sub`, with `skip` characters of the previous match still to drop. -/
def subAux (r : Regex) (repl : Str) : Nat → Str → Str
  | 0, [] => if (matchHere r []).isSome then repl else []
  | _ + 1, [] => []
  | n + 1, _ :: t => subAux r repl n t
  | 0, c :: t =>
    match matchHere r (c :: t) with
    | some (_, rest) =>
      if rest.length < t.length + 1 then repl ++ subAux r repl (t.length - rest.length) t
      else repl ++ c :: subAux r repl 0 t
    | none => c :: subAux r repl 0 t

/-- `re.sub(r, repl, s)` for a replacement without group references. -/
def sub (r : Regex) (repl s : Str) : Str := subAux r repl 0 s

/-- The scan of `re.sub` with a function `f` as replacement, from position `i`, with
`skip` characters of the previous match still to drop. -/
def subFnAux (r : Regex) (f : Match → Str) : Nat → Nat → Str → Str
  | 0, i, [] =>
    match matchHere r [] with
    | some (caps, rest) => f (mkMatch i [] caps rest)
    | none => []
  | _ + 1, _, [] => []
  | n + 1, i, _ :: t => subFnAux r f n (i + 1) t
  | 0, i, c :: t =>
    match matchHere r (c :: t) with
    | some (caps, rest) =>
      if rest.length < t.length + 1 then
        f (mkMatch i (c :: t) caps rest) ++ subFnAux r f (t.length - rest.length) (i + 1) t
      else f (mkMatch i (c :: t) caps rest) ++ c :: subFnAux r f 0 (i + 1) t
    | none => c :: subFnAux r f 0 (i + 1) t

/-- `re.sub(r, f, s)` for a function `f` from the match object to its replacement. -/
def subFn (r : Regex) (f : Match → Str) (s : Str) : Str := subFnAux r f 0 0 s

/-- `re.findall(r, s)` for a pattern with exactly one group. -/
def findAllGroup (r : Regex) (s : Str) : List Str := (findAll r s).map (·.grp 1)

/-! ## Facts -/

/-- Every character `re.sub` outputs comes from the text or from the replacement. -/
theorem mem_subAux {r : Regex} {repl : Str} {c : Char} :
    ∀ {n : Nat} {s : Str}, c ∈ subAux r repl n s → c ∈ s ∨ c ∈ repl
  | 0, [], h => by
    unfold subAux at h
    split at h
    · exact .inr h
    · cases h
  | _ + 1, [], h => by simp [subAux] at h
  | _ + 1, _ :: _, h => by
    rw [subAux] at h
    exact (mem_subAux h).imp_left (List.mem_cons_of_mem _)
  | 0, d :: t, h => by
    unfold subAux at h
    split at h
    · split at h
      · rcases List.mem_append.mp h with h | h
        · exact .inr h
        · exact (mem_subAux h).imp_left (List.mem_cons_of_mem _)
      · rcases List.mem_append.mp h with h | h
        · exact .inr h
        · rcases List.mem_cons.mp h with rfl | h
          · exact .inl (List.mem_cons_self _ _)
          · exact (mem_subAux h).imp_left (List.mem_cons_of_mem _)
    · rcases List.mem_cons.mp h with rfl | h
      · exact .inl (List.mem_cons_self _ _)
      · exact (mem_subAux h).imp_left (List.mem_cons_of_mem _)

theorem mem_sub {r : Regex} {repl s : Str} {c : Char} (h : c ∈ sub r repl s) : c ∈ s ∨ c ∈ repl :=
  mem_subAux h

end PyRe
