import WaqitiAudit.Text.Str

/-!
# The PCI DSS tester: the Luhn check of card numbers

`PCIDSSComplianceTester._is_valid_card_number`
(`src/security-testing/compliance-validation/pci-dss-compliance-tester.py`), which
`_scan_directory_for_card_data` applies to the digit string it cleans out of every
card-number match. Test numbers of the configuration are rejected; otherwise the digits
are `[int(d) for d in card_number if d.isdigit()]`, and the Luhn check runs in place: the
loop `for i in range(len(digits) - 2, -1, -2)` doubles the digits at the indices
`len - 2, len - 4, …` counted from the *left*, takes 9 off a result above 9, and the
number is valid when the sum of the list is divisible by 10.

`isdigit` and `int` read Python's character database, not ASCII alone: a decimal digit
(category `Nd`, which is also what the caller's `\d` matches) is one of the blocks of ten
code points that run from a zero to a nine, such as `٠`–`٩`, and `int` gives its distance
from the zero. `isdigit` also accepts the other digits, such as `²`, on which `int`
raises `ValueError` and the bare `except` returns `False`. `DigitDatabase` holds the two
tables, with the spacing of the blocks as a field; `unicode14` is that of Python 3.11.

What is proved:

* **the digits** — `cardDigits_decimalString`: on a string of decimal digits of any
  blocks, the list comprehension returns the value of each digit;
  `decimalString_of_decimal` shows that every string of decimal digits is such a string;
* **the loop** — `foldl_doubleAt_append`: doublings at indices inside `a` leave what
  follows `a` alone, so the loop over `a ++ [x, y]` is the loop over `a` with `x`
  doubled (`sum_luhnDigits`);
* **the Luhn check** — `isValidCardNumber_iff_luhnSum`: for every string of decimal
  digits that is not a test number, of any length, the method accepts it exactly when
  the Luhn sum of the digits' values counted from the *right* end, doubling the digits
  at odd distance, is divisible by 10.
-/

namespace PCIDSSComplianceTester

open PyStr

/-! ## Python's digits -/

/-- What `str.isdigit` and `int` read of Python's character database: the code points of
the zeros of the decimal digits, each zero followed by the digits one to nine and the
next zero at least ten further on, and the code points of the other digits, which
`isdigit` accepts and `int` rejects. -/
structure DigitDatabase where
  decimalZeros : List Nat
  otherDigits : List Nat
  spaced : decimalZeros.Chain' fun z z' => z + 10 ≤ z'
  valid : ∀ z ∈ decimalZeros, z + 9 < 0xd800 ∨ 0xdfff < z ∧ z + 9 < 0x110000

/-- The value of the code point `n`, its distance from the zero of the first block of
`zeros` that holds it. -/
def blockValue (n : Nat) : List Nat → Option Nat
  | [] => none
  | z :: zs => if z ≤ n ∧ n < z + 10 then some (n - z) else blockValue n zs

namespace DigitDatabase

/-- `int(d)` of one character: its decimal value, or `none` where `int` raises. -/
def decimal? (db : DigitDatabase) (d : Char) : Option Nat := blockValue d.toNat db.decimalZeros

/-- `d.isdigit()`. -/
def isdigit (db : DigitDatabase) (d : Char) : Bool :=
  (db.decimal? d).isSome || db.otherDigits.contains d.toNat

end DigitDatabase

/-- The digit tables of Unicode 14.0, the character database of Python 3.11. -/
def unicode14 : DigitDatabase where
  decimalZeros :=
    [0x30, 0x660, 0x6f0, 0x7c0, 0x966, 0x9e6, 0xa66, 0xae6,
    0xb66, 0xbe6, 0xc66, 0xce6, 0xd66, 0xde6, 0xe50, 0xed0,
    0xf20, 0x1040, 0x1090, 0x17e0, 0x1810, 0x1946, 0x19d0, 0x1a80,
    0x1a90, 0x1b50, 0x1bb0, 0x1c40, 0x1c50, 0xa620, 0xa8d0, 0xa900,
    0xa9d0, 0xa9f0, 0xaa50, 0xabf0, 0xff10, 0x104a0, 0x10d30, 0x11066,
    0x110f0, 0x11136, 0x111d0, 0x112f0, 0x11450, 0x114d0, 0x11650, 0x116c0,
    0x11730, 0x118e0, 0x11950, 0x11c50, 0x11d50, 0x11da0, 0x16a60, 0x16ac0,
    0x16b50, 0x1d7ce, 0x1d7d8, 0x1d7e2, 0x1d7ec, 0x1d7f6, 0x1e140, 0x1e2f0,
    0x1e950, 0x1fbf0]
  otherDigits :=
    [0xb2, 0xb3, 0xb9, 0x1369, 0x136a, 0x136b, 0x136c, 0x136d, 0x136e,
    0x136f, 0x1370, 0x1371, 0x19da, 0x2070, 0x2074, 0x2075, 0x2076, 0x2077,
    0x2078, 0x2079, 0x2080, 0x2081, 0x2082, 0x2083, 0x2084, 0x2085, 0x2086,
    0x2087, 0x2088, 0x2089, 0x2460, 0x2461, 0x2462, 0x2463, 0x2464, 0x2465,
    0x2466, 0x2467, 0x2468, 0x2474, 0x2475, 0x2476, 0x2477, 0x2478, 0x2479,
    0x247a, 0x247b, 0x247c, 0x2488, 0x2489, 0x248a, 0x248b, 0x248c, 0x248d,
    0x248e, 0x248f, 0x2490, 0x24ea, 0x24f5, 0x24f6, 0x24f7, 0x24f8, 0x24f9,
    0x24fa, 0x24fb, 0x24fc, 0x24fd, 0x24ff, 0x2776, 0x2777, 0x2778, 0x2779,
    0x277a, 0x277b, 0x277c, 0x277d, 0x277e, 0x2780, 0x2781, 0x2782, 0x2783,
    0x2784, 0x2785, 0x2786, 0x2787, 0x2788, 0x278a, 0x278b, 0x278c, 0x278d,
    0x278e, 0x278f, 0x2790, 0x2791, 0x2792, 0x10a40, 0x10a41, 0x10a42, 0x10a43,
    0x10e60, 0x10e61, 0x10e62, 0x10e63, 0x10e64, 0x10e65, 0x10e66, 0x10e67, 0x10e68,
    0x11052, 0x11053, 0x11054, 0x11055, 0x11056, 0x11057, 0x11058, 0x11059, 0x1105a,
    0x1f100, 0x1f101, 0x1f102, 0x1f103, 0x1f104, 0x1f105, 0x1f106, 0x1f107, 0x1f108,
    0x1f109, 0x1f10a]
  spaced := by simp [List.chain'_cons]
  valid := by decide

/-! ## The method -/

/-- `range(n - 2, -1, -2)`: the indices `n - 2, n - 4, …`, down to 1 or 0. -/
def doubledIndices : Nat → List Nat
  | 0 | 1 => []
  | n + 2 => n :: doubledIndices n

/-- `digits[i] *= 2`, then `digits[i] -= 9` when the result exceeds 9. -/
def doubleAt (digits : List Nat) (i : Nat) : List Nat :=
  let d := digits.getD i 0 * 2
  digits.set i (if d > 9 then d - 9 else d)

/-- The list `digits` after the doubling loop. -/
def luhnDigits (digits : List Nat) : List Nat :=
  (doubledIndices digits.length).foldl doubleAt digits

/-- `[int(d) for d in card_number if d.isdigit()]`; `none` where `int` raises. -/
def cardDigits (db : DigitDatabase) (cardNumber : Str) : Option (List Nat) :=
  (cardNumber.filter db.isdigit).mapM db.decimal?

/-- `test_card_numbers` of the default configuration of `_load_config`. -/
def defaultTestCardNumbers : List Str :=
  ["4111111111111111".toList, "5555555555554444".toList, "378282246310005".toList]

/-- `_is_valid_card_number`, where `testCardNumbers` is
`self.config.get('test_card_numbers', [])`; the bare `except` turns the `ValueError` of
`int` into `False`. -/
def isValidCardNumber (db : DigitDatabase) (testCardNumbers : List Str) (cardNumber : Str) :
    Bool :=
  if cardNumber ∈ testCardNumbers then false
  else
    match cardDigits db cardNumber with
    | some digits => (luhnDigits digits).sum % 10 == 0
    | none => false

/-! ## The Luhn sum -/

/-- The Luhn weight of the digit `d` at distance `k` from the right end: `d` at even
distance, and `2d`, less 9 when it exceeds 9, at odd distance. -/
def luhnTerm (k d : Nat) : Nat := if k % 2 = 0 then d else if 2 * d > 9 then 2 * d - 9 else 2 * d

/-- `Σ_{k < n} f(k, d_k)`, where `d_k` is the `k`-th digit counted from the right. -/
def luhnSum (digits : List Nat) : Nat :=
  ∑ k in Finset.range digits.length, luhnTerm k (digits.reverse.getD k 0)

theorem luhnTerm_add_two (k d : Nat) : luhnTerm (k + 2) d = luhnTerm k d := by
  simp [luhnTerm, Nat.add_mod_right]

/-- Two more digits on the right shift the others by an even distance. -/
theorem luhnSum_append_pair (a : List Nat) (x y : Nat) :
    luhnSum (a ++ [x, y]) = luhnSum a + luhnTerm 1 x + luhnTerm 0 y := by
  have hrev : (a ++ [x, y]).reverse = y :: x :: a.reverse := by simp
  simp only [luhnSum, hrev, List.length_append, List.length_cons, List.length_nil,
    Finset.sum_range_succ', List.getD_cons_succ, List.getD_cons_zero, luhnTerm_add_two,
    List.length_reverse]

/-! ## The loop -/

theorem lt_of_mem_doubledIndices : ∀ {n i : Nat}, i ∈ doubledIndices n → i < n
  | 0, _, h | 1, _, h => by simp [doubledIndices] at h
  | n + 2, i, h => by
    rcases List.mem_cons.mp h with rfl | h
    · omega
    · exact Nat.lt_add_right 2 (lt_of_mem_doubledIndices h)

theorem length_doubleAt (digits : List Nat) (i : Nat) :
    (doubleAt digits i).length = digits.length :=
  List.length_set ..

theorem doubleAt_append {a : List Nat} {i : Nat} (h : i < a.length) (b : List Nat) :
    doubleAt (a ++ b) i = doubleAt a i ++ b := by
  simp only [doubleAt, List.getD_append _ _ _ _ h, List.set_append_left _ _ h]

/-- Doublings at indices inside `a` leave what follows `a` alone. -/
theorem foldl_doubleAt_append (b : List Nat) :
    ∀ (L : List Nat) (a : List Nat), (∀ i ∈ L, i < a.length) →
      L.foldl doubleAt (a ++ b) = L.foldl doubleAt a ++ b
  | [], _, _ => rfl
  | i :: L, a, h => by
    rw [List.foldl_cons, List.foldl_cons, doubleAt_append (h i (List.mem_cons_self _ _))]
    exact foldl_doubleAt_append b L _ fun j hj => (length_doubleAt a i).symm ▸
      h j (List.mem_cons_of_mem _ hj)

/-- The digit at index `a.length`, second from the right, is the one doubled first. -/
theorem doubleAt_pair (a : List Nat) (x y : Nat) :
    doubleAt (a ++ [x, y]) a.length = a ++ [luhnTerm 1 x, y] := by
  simp only [doubleAt, List.getD_append_right _ _ _ _ (Nat.le_refl _), Nat.sub_self,
    List.getD_cons_zero, List.set_append_right _ _ (Nat.le_refl _), List.set_cons_zero]
  simp [luhnTerm, Nat.mul_comm x 2]

/-- **The loop computes the Luhn sum.** By the recursion of `range(n - 2, -1, -2)`:
two digits are peeled off the right end at a time. -/
theorem sum_luhnDigits : ∀ rs : List Nat, (luhnDigits rs.reverse).sum = luhnSum rs.reverse
  | [] => rfl
  | [y] => by simp [luhnDigits, doubledIndices, luhnSum, luhnTerm]
  | y :: x :: rs => by
    have hrev : (y :: x :: rs).reverse = rs.reverse ++ [x, y] := by simp
    have hlen : (rs.reverse ++ [x, y]).length = rs.reverse.length + 2 := by simp
    rw [hrev, luhnDigits, hlen, doubledIndices, List.foldl_cons, doubleAt_pair,
      foldl_doubleAt_append _ _ _ fun i hi => lt_of_mem_doubledIndices hi, List.sum_append,
      luhnSum_append_pair, ← luhnDigits, sum_luhnDigits rs]
    simp [luhnTerm, Nat.add_assoc]

/-! ## The digits -/

/-- The string whose characters are, in order, the digits `d` of the blocks whose zeros
are `z`, for the pairs `(z, d)`. -/
def decimalString (digits : List (Nat × Nat)) : Str :=
  digits.map fun (z, d) => Char.ofNat (z + d)

theorem blockValue_add {zs : List Nat} (hp : zs.Pairwise fun z z' => z + 10 ≤ z') {z d : Nat}
    (hz : z ∈ zs) (hd : d < 10) : blockValue (z + d) zs = some d := by
  induction zs with
  | nil => nomatch hz
  | cons z₀ zs ih =>
    rw [blockValue]
    rcases List.mem_cons.mp hz with rfl | hz
    · rw [if_pos ⟨Nat.le_add_right _ _, by omega⟩, Nat.add_sub_cancel_left]
    · have h₀ := List.rel_of_pairwise_cons hp hz
      rw [if_neg (by omega)]
      exact ih hp.of_cons hz

theorem blockValue_eq_some {n d : Nat} :
    ∀ {zs : List Nat}, blockValue n zs = some d → ∃ z ∈ zs, z + d = n ∧ d < 10
  | [], h => nomatch h
  | z :: zs, h => by
    rw [blockValue] at h
    split at h
    · rename_i hz
      cases h
      exact ⟨z, List.mem_cons_self _ _, by omega, by omega⟩
    · obtain ⟨z', hz', h'⟩ := blockValue_eq_some h
      exact ⟨z', List.mem_cons_of_mem _ hz', h'⟩

namespace DigitDatabase

variable (db : DigitDatabase)

theorem pairwise_spaced : db.decimalZeros.Pairwise fun z z' => z + 10 ≤ z' :=
  (@List.chain'_iff_pairwise _ _ ⟨fun _ _ _ h₁ h₂ => by omega⟩ _).mp db.spaced

/-- **The value of a digit.** The digit `d` of the block from `z` reads as `d`. -/
theorem decimal?_ofNat {z d : Nat} (hz : z ∈ db.decimalZeros) (hd : d < 10) :
    db.decimal? (Char.ofNat (z + d)) = some d := by
  have hv : (z + d).isValidChar := (db.valid z hz).imp (fun _ => by omega) fun _ => by omega
  rw [decimal?, toNat_ofNat_of_isValidChar hv]
  exact blockValue_add db.pairwise_spaced hz hd

end DigitDatabase

/-- Every string of decimal digits is the string of its blocks and values. -/
theorem decimalString_of_decimal (db : DigitDatabase) :
    ∀ {s : Str}, (∀ c ∈ s, (db.decimal? c).isSome) →
      ∃ digits : List (Nat × Nat),
        (∀ zd ∈ digits, zd.1 ∈ db.decimalZeros ∧ zd.2 < 10) ∧ s = decimalString digits
  | [], _ => ⟨[], (fun _ h => nomatch h), rfl⟩
  | c :: s, h => by
    obtain ⟨d, hd⟩ := Option.isSome_iff_exists.mp (h c (List.mem_cons_self _ _))
    obtain ⟨z, hz, hzd, hd10⟩ := blockValue_eq_some hd
    obtain ⟨digits, hdigits, rfl⟩ := decimalString_of_decimal db fun c' h' =>
      h c' (List.mem_cons_of_mem _ h')
    refine ⟨(z, d) :: digits, ?_, ?_⟩
    · rintro zd (_ | ⟨_, hzd'⟩)
      · exact ⟨hz, hd10⟩
      · exact hdigits zd hzd'
    · simp only [decimalString, List.map_cons, hzd, Char.ofNat_toNat]

/-- **The digits.** On a string of decimal digits, the list comprehension keeps every
character and returns the value of each. -/
theorem cardDigits_decimalString (db : DigitDatabase) :
    ∀ {digits : List (Nat × Nat)}, (∀ zd ∈ digits, zd.1 ∈ db.decimalZeros ∧ zd.2 < 10) →
      cardDigits db (decimalString digits) = some (digits.map Prod.snd)
  | [], _ => rfl
  | (z, d) :: digits, h => by
    obtain ⟨hz, hd10⟩ := h _ (List.mem_cons_self _ _)
    have hd := db.decimal?_ofNat hz hd10
    have ih := cardDigits_decimalString db fun zd' h' => h zd' (List.mem_cons_of_mem _ h')
    have hdigit : db.isdigit (Char.ofNat (z + d)) = true := by
      simp only [DigitDatabase.isdigit, hd, Option.isSome_some, Bool.true_or]
    rw [cardDigits, decimalString] at ih ⊢
    rw [List.map_cons]
    dsimp only
    rw [List.filter_cons_of_pos hdigit, List.mapM_cons, hd, ih]
    rfl

/-! ## The Luhn check -/

/-- **The Luhn check.** For every string of decimal digits that is not a configured test
number, of any length and whatever the blocks of its digits, `_is_valid_card_number`
holds exactly when the Luhn sum of the digits' values, counted from the right, is
divisible by 10. -/
theorem isValidCardNumber_iff_luhnSum (db : DigitDatabase) (testCardNumbers : List Str)
    (digits : List (Nat × Nat)) (hdigits : ∀ zd ∈ digits, zd.1 ∈ db.decimalZeros ∧ zd.2 < 10)
    (htest : decimalString digits ∉ testCardNumbers) :
    isValidCardNumber db testCardNumbers (decimalString digits) = true ↔
      luhnSum (digits.map Prod.snd) % 10 = 0 := by
  have h := sum_luhnDigits (digits.map Prod.snd).reverse
  rw [List.reverse_reverse] at h
  simp [isValidCardNumber, htest, cardDigits_decimalString db hdigits, h]

/-- The digits of the American Express number `371449635398431`. -/
def amexDigits : List Nat := [3, 7, 1, 4, 4, 9, 6, 3, 5, 3, 9, 8, 4, 3, 1]

/-- The number is accepted in ASCII digits and in Arabic-Indic digits, and rejected with
its check digit one higher. -/
theorem isValidCardNumber_amex :
    isValidCardNumber unicode14 defaultTestCardNumbers "371449635398431".toList = true ∧
    isValidCardNumber unicode14 defaultTestCardNumbers "371449635398432".toList = false ∧
    isValidCardNumber unicode14 defaultTestCardNumbers
      (decimalString (amexDigits.map (0x660, ·))) = true := by
  have valid : "371449635398431".toList = decimalString (amexDigits.map (0x30, ·)) := by decide
  have invalid : "371449635398432".toList =
      decimalString ([3, 7, 1, 4, 4, 9, 6, 3, 5, 3, 9, 8, 4, 3, 2].map (0x30, ·)) := by decide
  refine ⟨?_, ?_, (isValidCardNumber_iff_luhnSum unicode14 defaultTestCardNumbers _
    (by decide) (by decide)).mpr (by decide)⟩
  · rw [valid]
    exact (isValidCardNumber_iff_luhnSum unicode14 defaultTestCardNumbers _
      (by decide) (by decide)).mpr (by decide)
  · rw [invalid, Bool.eq_false_iff]
    exact fun h => absurd ((isValidCardNumber_iff_luhnSum unicode14 defaultTestCardNumbers _
      (by decide) (by decide)).mp h) (by decide)

end PCIDSSComplianceTester
