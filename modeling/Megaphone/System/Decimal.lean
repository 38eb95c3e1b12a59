import Mathlib.Tactic
import Mathlib.Data.List.TakeWhile

/-!
Numbers in decimal: `strtol` of the C library, and the digits that `printf` writes.

* `isSpace`, `isDigit`, `digitsValue`, `strtol`: the function.
* `Writes`: a string is an integer in decimal, and `strtol_eq_nil_iff`: the strings that `strtol`
  reads to the end are those, with the integer in the bounds of a `long`.
* `decimal`: the digits of a number, and `strtol_decimal`: they are read back.
-/

namespace Megaphone

/-! ### The function -/

/-- The characters in front of a number, those of `isspace`. -/
def isSpace (c : UInt8) : Bool := c == 32 || (9 ≤ c && c ≤ 13)

/-- The digits of a number. -/
def isDigit (c : UInt8) : Bool := 48 ≤ c && c ≤ 57

/-- The value of digits. -/
def digitsValue (digits : List UInt8) : ℕ :=
  digits.foldl (fun n c => 10 * n + (c.toNat - 48)) 0

/-- `strtol` in base 10: the number, within the bounds of a `long`, and the string behind it, or
`none` when there is no number and `endptr` is the beginning of the string. -/
def strtol (str : List UInt8) : Option (ℤ × List UInt8) :=
  let str := str.dropWhile isSpace
  let negative := str.head? = some 45
  let str := if str.head? = some 45 ∨ str.head? = some 43 then str.tail else str
  let digits := str.takeWhile isDigit
  let value : ℤ := digitsValue digits
  if digits.isEmpty then none
  else some (max (-2 ^ 63) (min (2 ^ 63 - 1) (if negative then -value else value)),
    str.dropWhile isDigit)

/-! ### Integers in decimal -/

/-- The digits of an integer, with its sign. -/
inductive SignedDigits : List UInt8 → ℤ → Prop
  | minus {digits} : digits ≠ [] → (∀ c ∈ digits, isDigit c) →
      SignedDigits (45 :: digits) (-digitsValue digits)
  | plus {digits} : digits ≠ [] → (∀ c ∈ digits, isDigit c) →
      SignedDigits (43 :: digits) (digitsValue digits)
  | unsigned {digits} : digits ≠ [] → (∀ c ∈ digits, isDigit c) →
      SignedDigits digits (digitsValue digits)

/-- The string is the integer `n` in decimal, with spaces in front of it. -/
def Writes (str : List UInt8) (n : ℤ) : Prop :=
  ∃ spaces number, str = spaces ++ number ∧ (∀ c ∈ spaces, isSpace c) ∧ SignedDigits number n

/-- The integer at the beginning of a string, and the string behind it. -/
def readInteger (str : List UInt8) : Option (ℤ × List UInt8) :=
  let number := str.dropWhile isSpace
  let digits := if number.head? = some 45 ∨ number.head? = some 43 then number.tail else number
  let value : ℤ := digitsValue (digits.takeWhile isDigit)
  if (digits.takeWhile isDigit).isEmpty then none
  else some (if number.head? = some 45 then -value else value, digits.dropWhile isDigit)

/-- The `long` nearest to an integer. -/
def toLong (n : ℤ) : ℤ := max (-2 ^ 63) (min (2 ^ 63 - 1) n)

lemma strtol_eq (str : List UInt8) :
    strtol str = (readInteger str).map fun p => (toLong p.1, p.2) := by
  simp only [strtol, readInteger]
  generalize str.dropWhile isSpace = number
  split
  all_goals
    split
    · rfl
    · rfl

/-- What a digit is not. -/
lemma ne_of_isDigit {c : UInt8} (h : isDigit c = true) :
    isSpace c = false ∧ c ≠ 45 ∧ c ≠ 43 := by
  simp only [isDigit, isSpace, Bool.and_eq_true, decide_eq_true_eq, Bool.or_eq_false_iff,
    Bool.and_eq_false_iff, decide_eq_false_iff_not, beq_eq_false_iff_ne, ne_eq,
    UInt8.le_iff_toNat_le, ← UInt8.toNat_inj, UInt8.reduceToNat] at h ⊢
  omega

/-- Spaces in front of a number do not count. -/
lemma readInteger_spaces {spaces number : List UInt8} (hspaces : ∀ c ∈ spaces, isSpace c) :
    readInteger (spaces ++ number) = readInteger number := by
  rw [readInteger, List.dropWhile_append_of_pos hspaces]
  rfl

/-- The digits behind the sign, when nothing is behind them; `f` puts the sign in front. -/
lemma digits_of_read (f : ℤ → ℤ) {digits : List UInt8} {n : ℤ}
    (h : (if (digits.takeWhile isDigit).isEmpty then none
      else some (f (digitsValue (digits.takeWhile isDigit)), digits.dropWhile isDigit)) =
        some (n, [])) :
    digits ≠ [] ∧ (∀ c ∈ digits, isDigit c) ∧ f (digitsValue digits) = n := by
  split at h
  next => cases h
  next hne =>
    obtain ⟨hvalue, hdrop⟩ := Prod.mk.inj (Option.some.inj h)
    have hdigits := List.dropWhile_eq_nil_iff.mp hdrop
    rw [List.takeWhile_eq_self_iff.mpr hdigits] at hne hvalue
    exact ⟨fun hnil => hne (by rw [hnil]; rfl), hdigits, hvalue⟩

lemma readInteger_signedDigits {number : List UInt8} {n : ℤ} (h : SignedDigits number n) :
    readInteger number = some (n, []) := by
  have hread : ∀ {digits : List UInt8}, (∀ c ∈ digits, isDigit c) →
      digits.takeWhile isDigit = digits ∧ digits.dropWhile isDigit = [] :=
    fun hdigits => ⟨List.takeWhile_eq_self_iff.mpr hdigits, List.dropWhile_eq_nil_iff.mpr hdigits⟩
  cases h with
  | @minus digits hne hdigits =>
      have hskip : (45 :: digits).dropWhile isSpace = 45 :: digits := rfl
      obtain ⟨htake, hdrop⟩ := hread hdigits
      simp [readInteger, hskip, htake, hdrop, hne]
  | @plus digits hne hdigits =>
      have hskip : (43 :: digits).dropWhile isSpace = 43 :: digits := rfl
      obtain ⟨htake, hdrop⟩ := hread hdigits
      simp [readInteger, hskip, htake, hdrop, hne]
  | unsigned hne hdigits =>
      obtain ⟨htake, hdrop⟩ := hread hdigits
      obtain ⟨c, cs, rfl⟩ := List.exists_cons_of_ne_nil hne
      obtain ⟨hspace, hminus, hplus⟩ := ne_of_isDigit (hdigits c List.mem_cons_self)
      have hskip : (c :: cs).dropWhile isSpace = c :: cs :=
        List.dropWhile_cons_of_neg (by simp [hspace])
      simp only [readInteger, hskip, List.head?_cons, Option.some.injEq, hminus, hplus, or_self,
        if_false, htake, hdrop, List.isEmpty_cons, Bool.false_eq_true]

/-- **The strings that are read to the end** are the integers in decimal. -/
lemma readInteger_eq_nil_iff {str : List UInt8} {n : ℤ} :
    readInteger str = some (n, []) ↔ Writes str n := by
  constructor
  · intro h
    refine ⟨str.takeWhile isSpace, str.dropWhile isSpace, (List.takeWhile_append_dropWhile).symm,
      fun c hc => (List.mem_takeWhile_imp hc), ?_⟩
    rw [readInteger] at h
    generalize str.dropWhile isSpace = number at h
    by_cases hminus : number.head? = some 45
    · obtain ⟨digits, rfl⟩ := List.head?_eq_some_iff.mp hminus
      obtain ⟨hne, hdigits, rfl⟩ := digits_of_read (- ·) h
      exact .minus hne hdigits
    · simp only [hminus, if_false, false_or] at h
      by_cases hplus : number.head? = some 43
      · obtain ⟨digits, rfl⟩ := List.head?_eq_some_iff.mp hplus
        obtain ⟨hne, hdigits, rfl⟩ := digits_of_read (·) h
        exact .plus hne hdigits
      · rw [if_neg hplus] at h
        obtain ⟨hne, hdigits, rfl⟩ := digits_of_read (·) h
        exact .unsigned hne hdigits
  · rintro ⟨spaces, number, rfl, hspaces, hnumber⟩
    rw [readInteger_spaces hspaces, readInteger_signedDigits hnumber]

/-- A string is one integer at most. -/
lemma Writes.unique {str : List UInt8} {m n : ℤ} (hm : Writes str m) (hn : Writes str n) :
    m = n := by
  have h := (readInteger_eq_nil_iff.mpr hm).symm.trans (readInteger_eq_nil_iff.mpr hn)
  exact (Prod.mk.inj (Option.some.inj h)).1

lemma strtol_eq_nil_iff {str : List UInt8} {l : ℤ} :
    strtol str = some (l, []) ↔ ∃ n, Writes str n ∧ toLong n = l := by
  rw [strtol_eq, Option.map_eq_some_iff]
  constructor
  · rintro ⟨⟨n, rest⟩, hread, heq⟩
    obtain ⟨rfl, rfl⟩ := Prod.mk.inj heq
    exact ⟨n, readInteger_eq_nil_iff.mp hread, rfl⟩
  · rintro ⟨n, hn, rfl⟩
    exact ⟨(n, []), readInteger_eq_nil_iff.mpr hn, rfl⟩

/-! ### The digits of a number -/

/-- A number in decimal. -/
def decimal (n : ℕ) : List UInt8 := (Nat.toDigits 10 n).map fun c => UInt8.ofNat c.toNat

/-- The characters of a number, and their bytes. -/
lemma toNat_digit {n : ℕ} {c : Char} (hc : c ∈ Nat.toDigits 10 n) :
    (UInt8.ofNat c.toNat).toNat = c.toNat ∧ 48 ≤ c.toNat ∧ c.toNat ≤ 57 := by
  have hdigit := Nat.isDigit_of_mem_toDigits (by omega) le_rfl hc
  have hchar : 48 ≤ c.toNat ∧ c.toNat ≤ 57 := by
    simpa [Char.isDigit, Char.le_def, UInt32.le_iff_toNat_le] using hdigit
  rw [UInt8.toNat_ofNat']
  omega

lemma isDigit_of_mem_decimal {n : ℕ} {b : UInt8} (hb : b ∈ decimal n) :
    isDigit b = true ∧ isSpace b = false ∧ b ≠ 45 ∧ b ≠ 43 := by
  obtain ⟨c, hc, rfl⟩ := List.mem_map.mp hb
  obtain ⟨hval, hchar⟩ := toNat_digit hc
  generalize UInt8.ofNat c.toNat = b at *
  simp only [isDigit, isSpace, Bool.and_eq_true, decide_eq_true_eq, Bool.or_eq_false_iff,
    Bool.and_eq_false_iff, decide_eq_false_iff_not, beq_eq_false_iff_ne, ne_eq,
    UInt8.le_iff_toNat_le, ← UInt8.toNat_inj, UInt8.reduceToNat]
  omega

/-- A byte that is no digit is not in a number. -/
lemma notMem_decimal {b : UInt8} (h : isDigit b = false) (n : ℕ) : b ∉ decimal n :=
  fun hb => Bool.false_ne_true (h.symm.trans (isDigit_of_mem_decimal hb).1)

lemma digitsValue_decimal (n : ℕ) : digitsValue (decimal n) = n := by
  have hfold : ∀ (cs : List Char) (k : ℕ), (∀ c ∈ cs, (UInt8.ofNat c.toNat).toNat = c.toNat) →
      (cs.map fun c => UInt8.ofNat c.toNat).foldl (fun n b => 10 * n + (b.toNat - 48)) k =
        Nat.ofDigitChars 10 cs k := by
    intro cs
    induction cs with
    | nil => exact fun k _ => rfl
    | cons c cs ih =>
        intro k hcs
        rw [List.map_cons, List.foldl_cons, hcs c List.mem_cons_self,
          ih _ fun c' hc' => hcs c' (List.mem_cons_of_mem c hc')]
        rfl
  rw [digitsValue, decimal, hfold _ _ fun c hc => (toNat_digit hc).1,
    Nat.ofDigitChars_ten_toDigits]

lemma length_decimal_le {n k : ℕ} (hk : 0 < k) (h : n < 10 ^ k) : (decimal n).length ≤ k := by
  rw [decimal, List.length_map]
  exact (Nat.length_toDigits_le_iff (by omega) hk).mpr h

lemma decimal_ne_nil (n : ℕ) : decimal n ≠ [] := by
  rw [decimal, ne_eq, List.map_eq_nil_iff]
  exact Nat.toDigits_ne_nil

/-- The digits of a number are read back. -/
lemma strtol_decimal {n : ℕ} (h : n < 2 ^ 63) : strtol (decimal n) = some ((n : ℤ), []) := by
  have htake : (decimal n).takeWhile isDigit = decimal n :=
    List.takeWhile_eq_self_iff.mpr fun b hb => (isDigit_of_mem_decimal hb).1
  have hdrop : (decimal n).dropWhile isDigit = [] :=
    List.dropWhile_eq_nil_iff.mpr fun b hb => (isDigit_of_mem_decimal hb).1
  cases hbs : decimal n with
  | nil => exact absurd hbs (decimal_ne_nil n)
  | cons b bs =>
      obtain ⟨-, hspace, hminus, hplus⟩ := isDigit_of_mem_decimal (hbs ▸ List.mem_cons_self)
      have hvalue := digitsValue_decimal n
      rw [hbs] at htake hdrop hvalue
      have hskip : (b :: bs).dropWhile isSpace = b :: bs :=
        List.dropWhile_cons_of_neg (by simp [hspace])
      simp only [strtol, hskip, List.head?_cons, Option.some.injEq, hminus, hplus, or_self,
        if_false, htake, hdrop, hvalue, List.isEmpty_cons, Bool.false_eq_true]
      congr 2
      omega

end Megaphone
