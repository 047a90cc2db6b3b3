import Mathlib

/-!
# Python strings: the operations the audit scripts use

The scripts under `src/services/` and `src/migration-tools/` treat source files as
Python `str` values. A string is modelled as `List Char`, the text Python has after
reading a file in text mode (decoded, with universal newlines already turned into
`'\n'`).

This file gives the handful of `str` operations the scripts call:

* `isSpaceChar` is `str.isspace` on one character, which is also the class `\s`
  matches in a `str` pattern;
* `isWordChar` is the class `\w`, restricted to ASCII (letters, digits and `_`);
* `strip`, `lower`, `endsWith`, `isIn` (the `in` operator), `countNewlines`
  (`s.count('\n')`), `readLines` (`f.readlines()`), `splitNewlines`
  (`s.split('\n')`), `splitOnSep` (`s.split(sep)`) and `replace`.

Both `isWordChar` and `lower` are ASCII-only, and the model differs from Python on other
text: in a `str` pattern `\w` also matches every Unicode letter and digit (`é`, `٣`), and
`str.lower` also maps the non-ASCII capitals (`É` to `é`), which `lower` keeps. What is
proved with them is proved of this ASCII reading.
-/

namespace PyStr

/-- A Python `str`. -/
abbrev Str := List Char

/-- `str.isspace` for one character (equivalently, the class `\s`): the ASCII
whitespace `\t \n \v \f \r`, the information separators `\x1c`–`\x1f`, the space and
the Unicode space separators. -/
def isSpaceChar (c : Char) : Bool :=
  let n := c.toNat
  (9 ≤ n && n ≤ 13) || (28 ≤ n && n ≤ 32) || n == 0x85 || n == 0xA0 || n == 0x1680 ||
    (0x2000 ≤ n && n ≤ 0x200A) || n == 0x2028 || n == 0x2029 || n == 0x202F ||
    n == 0x205F || n == 0x3000

/-- The class `\w` on ASCII: letters, digits and the underscore. Python's `\w` also
matches the non-ASCII letters and digits, which this does not. -/
def isWordChar (c : Char) : Bool := c.isAlphanum || c == '_'

/-- `s.strip()`. -/
def strip (s : Str) : Str :=
  ((s.dropWhile isSpaceChar).reverse.dropWhile isSpaceChar).reverse

/-- `s.lower()` on the ASCII capitals; Python also lowers the non-ASCII ones, which this
keeps. -/
def lower (s : Str) : Str := s.map Char.toLower

/-- `s.endswith(suffix)`. -/
def endsWith (s suffix : Str) : Bool := suffix.isSuffixOf s

/-- `sub in s`. -/
def isIn (sub : Str) : Str → Bool
  | [] => sub.isEmpty
  | c :: t => sub.isPrefixOf (c :: t) || isIn sub t

/-- `s.count('\n')`. -/
def countNewlines (s : Str) : Nat := s.count '\n'

/-- `f.readlines()` on a file whose text is `s`: the lines with their newlines kept. -/
def readLines : Str → List Str
  | [] => []
  | c :: t =>
    if c = '\n' then ['\n'] :: readLines t
    else
      match readLines t with
      | [] => [[c]]
      | l :: ls => (c :: l) :: ls

/-- `s.split('\n')`. -/
def splitNewlines (s : Str) : List Str := s.splitOn '\n'

/-- `s.split(sep)` for a non-empty separator: the pieces between the occurrences of
`sep`, found left to right. -/
def splitOnSep (sep s : Str) : List Str := go s.length s []
where
  /-- The scan, with the current piece reversed in `cur`; the fuel, the length of the
  text, lasts for one step per character. -/
  go : Nat → Str → Str → List Str
    | 0, s, cur => [cur.reverse ++ s]
    | _ + 1, [], cur => [cur.reverse]
    | n + 1, c :: t, cur =>
      if !sep.isEmpty && sep.isPrefixOf (c :: t) then cur.reverse :: go n ((c :: t).drop sep.length) []
      else go n t (c :: cur)

/-- `s.replace(old, new)` for a non-empty `old`: `new.join(s.split(old))`. -/
def replace (s old new : Str) : Str := new.intercalate (splitOnSep old s)

/-! ## Basic facts -/

@[simp] theorem isIn_nil_left (s : Str) : isIn [] s = true := by
  cases s <;> simp [isIn, List.isPrefixOf]

theorem isIn_iff_contiguous (sub s : Str) : isIn sub s = true ↔ sub <:+: s := by
  induction s with
  | nil => cases sub <;> simp [isIn]
  | cons c t ih =>
    simp only [isIn, Bool.or_eq_true, ih, List.isPrefixOf_iff_prefix]
    constructor
    · rintro (h | h)
      · exact h.isInfix
      · exact h.trans (List.suffix_cons c t).isInfix
    · intro h
      exact (List.infix_cons_iff.mp h).imp id id

theorem isIn_mono {sub s s' : Str} (h : isIn sub s = true) (hs : s <:+: s') :
    isIn sub s' = true := by
  rw [isIn_iff_contiguous] at *
  exact h.trans hs

theorem endsWith_iff (s suffix : Str) : endsWith s suffix = true ↔ suffix <:+ s := by
  simp [endsWith, List.isSuffixOf_iff_suffix]

/-- `Char.ofNat` of a valid code point is that code point. -/
theorem toNat_ofNat_of_isValidChar {n : Nat} (h : n.isValidChar) : (Char.ofNat n).toNat = n := by
  simp only [Char.ofNat, dif_pos h, Char.ofNatAux, Char.toNat]
  rfl

end PyStr
