import ConnectionPool.Text.Numeral
import Mathlib

/-!
# Spelling numbers and words

A numeral is a plus sign or none, any number of zeros, and the decimal digits of a number. Every
row of digits consists of zeros and the digits of its value (`exists_zeros`). So numerals are all
that `readNatural?` reads (`readNatural?_eq_some_iff`), and what it does not read is empty behind
the sign, or has another character there, or is too large (`readNatural?_eq_none_iff`).

A word is recognized in any letter case (`map_toLower_eq_iff`).
-/

set_option autoImplicit false

namespace ConnectionPool.Text

/-! ## Words -/

/-- **A word in any ASCII letter case**, where `word` is the word in small letters. -/
def InAnyCase (word text : List Char) : Prop :=
  List.Forall₂ (fun letter c => c = letter ∨ c = letter.toUpper) word text

/-- No character but a small letter and its capital is made into that letter. -/
theorem toLower_eq_iff {letter : Char} (h : letter.isLower = true) (c : Char) :
    c.toLower = letter ↔ c = letter ∨ c = letter.toUpper := by
  have hsmall : letter.toLower = letter :=
    Char.toLower_eq_of_not_isUpper (Char.not_isUpper_of_isLower h)
  constructor
  · intro hc
    by_cases hupper : c.isUpper = true
    · right
      calc c = c.toUpper :=
            (Char.toUpper_eq_of_not_isLower (Char.not_isLower_of_isUpper hupper)).symm
        _ = c.toLower.toUpper := (Char.toUpper_toLower_eq_toUpper c).symm
        _ = letter.toUpper := by rw [hc]
    · left
      rw [← hc, Char.toLower_eq_of_not_isUpper hupper]
  · rintro (rfl | rfl)
    · exact hsmall
    · rw [Char.toLower_toUpper_eq_toLower, hsmall]

theorem map_toLower_eq_iff {word : List Char} (h : ∀ letter ∈ word, letter.isLower = true) :
    ∀ text : List Char, text.map Char.toLower = word ↔ InAnyCase word text := by
  induction word with
  | nil =>
      intro text
      rw [InAnyCase, List.forall₂_nil_left_iff, List.map_eq_nil_iff]
  | cons letter word ih =>
      intro text
      have hword := ih fun letter hm => h letter (List.mem_cons_of_mem _ hm)
      cases text with
      | nil => simp [InAnyCase, List.forall₂_nil_right_iff]
      | cons c rest =>
          rw [InAnyCase, List.forall₂_cons, List.map_cons, List.cons.injEq, hword rest,
            toLower_eq_iff (h letter List.mem_cons_self) c]
          rfl

/-! ## Rows of digits -/

/-- **A numeral for `n`**: a plus sign or none, zeros, and the digits of `n`. -/
def Numeral (n : Nat) (text : List Char) : Prop :=
  ∃ (sign : List Char) (zeros : Nat), (sign = [] ∨ sign = ['+'])
    ∧ text = sign ++ (List.replicate zeros '0' ++ Nat.toDigits 10 n)

/-- Nothing but digits, and at least one. -/
def IsRow (digits : List Char) : Prop :=
  digits ≠ [] ∧ ∀ c ∈ digits, c.isDigit = true

/-- Zeros in front of a number do not count. -/
theorem valueOfDigits_zeros (zeros n : Nat) :
    valueOfDigits 0 (List.replicate zeros '0' ++ Nat.toDigits 10 n) = n := by
  calc valueOfDigits 0 (List.replicate zeros '0' ++ Nat.toDigits 10 n)
      = Nat.ofDigitChars 10 (List.replicate zeros '0' ++ Nat.toDigits 10 n) 0 := rfl
    _ = Nat.ofDigitChars 10 (Nat.toDigits 10 n)
          (Nat.ofDigitChars 10 (List.replicate zeros '0') 0) := Nat.ofDigitChars_append 0
    _ = Nat.ofDigitChars 10 (Nat.toDigits 10 n) 0 := by
        rw [Nat.ofDigitChars_replicate_zero, Nat.mul_zero]
    _ = n := Nat.ofDigitChars_ten_toDigits

theorem isRow_zeros (zeros n : Nat) :
    IsRow (List.replicate zeros '0' ++ Nat.toDigits 10 n) := by
  refine ⟨List.append_ne_nil_of_right_ne_nil _ Nat.toDigits_ne_nil, fun c hc => ?_⟩
  rcases List.mem_append.mp hc with hc | hc
  · rw [List.eq_of_mem_replicate hc]
    rfl
  · exact Nat.isDigit_of_mem_toDigits (by omega) (by omega) hc

theorem digit_lt_ten {c : Char} (h : c.isDigit = true) : c.toNat - '0'.toNat < 10 := by
  have hhigh : c.toNat ≤ 57 := (Char.isDigit_iff_toNat.mp h).2
  show c.toNat - 48 < 10
  omega

/-- A digit is the one digit of its value. -/
theorem toDigits_digit {c : Char} (h : c.isDigit = true) :
    Nat.toDigits 10 (c.toNat - '0'.toNat) = [c] := by
  have hlow : 48 ≤ c.toNat := (Char.isDigit_iff_toNat.mp h).1
  have hchar : (c.toNat - '0'.toNat).digitChar = c := by
    rw [← Char.toNat_inj, Nat.toNat_digitChar_of_lt_ten (digit_lt_ten h)]
    show 48 + (c.toNat - 48) = c.toNat
    omega
  rw [Nat.toDigits_of_lt_base (digit_lt_ten h), hchar]

/-- **A row of digits** consists of zeros and the digits of its value. The induction is on the last
digit, which is the last one of the value too; as long as the value is zero there are only zeros. -/
theorem exists_zeros {digits : List Char} (h : IsRow digits) :
    ∃ zeros, digits = List.replicate zeros '0' ++ Nat.toDigits 10 (valueOfDigits 0 digits) := by
  induction digits using List.reverseRecOn with
  | nil => exact absurd rfl h.1
  | append_singleton front last ih =>
      have hlast : last.isDigit = true := h.2 last (by simp)
      have hvalue : valueOfDigits 0 (front ++ [last])
          = 10 * valueOfDigits 0 front + (last.toNat - '0'.toNat) := by
        simp [valueOfDigits]
      rw [hvalue]
      by_cases hfront : front = []
      · subst hfront
        refine ⟨0, ?_⟩
        simpa [valueOfDigits] using (toDigits_digit hlast).symm
      · obtain ⟨zeros, hzeros⟩ := ih ⟨hfront, fun c hc => h.2 c (by simp [hc])⟩
        by_cases hzero : valueOfDigits 0 front = 0
        · refine ⟨zeros + 1, ?_⟩
          rw [hzero] at hzeros ⊢
          rw [Nat.mul_zero, Nat.zero_add, toDigits_digit hlast, hzeros, List.replicate_succ']
          rfl
        · refine ⟨zeros, ?_⟩
          rw [← Nat.toDigits_append_toDigits (by omega) (Nat.pos_of_ne_zero hzero)
            (digit_lt_ten hlast), toDigits_digit hlast, ← List.append_assoc, ← hzeros]

/-! ## Numerals -/

theorem unsigned_of_isRow {digits : List Char} (h : IsRow digits) : unsigned digits = digits := by
  unfold unsigned
  split
  · -- a plus sign is no digit
    exact absurd (h.2 '+' List.mem_cons_self) (by decide)
  · rfl

/-- There is one plus sign in front at most that does not count. -/
theorem exists_sign (text : List Char) :
    ∃ sign, (sign = [] ∨ sign = ['+']) ∧ text = sign ++ unsigned text := by
  unfold unsigned
  split
  · exact ⟨['+'], Or.inr rfl, rfl⟩
  · exact ⟨[], Or.inl rfl, rfl⟩

/-- **A numeral** is a row of digits behind the sign, and the number is its value. -/
theorem numeral_iff (n : Nat) (text : List Char) :
    Numeral n text ↔ IsRow (unsigned text) ∧ valueOfDigits 0 (unsigned text) = n := by
  constructor
  · rintro ⟨sign, zeros, hsign, rfl⟩
    have hrow := isRow_zeros zeros n
    have hunsigned : unsigned (sign ++ (List.replicate zeros '0' ++ Nat.toDigits 10 n))
        = List.replicate zeros '0' ++ Nat.toDigits 10 n := by
      rcases hsign with rfl | rfl
      · exact unsigned_of_isRow hrow
      · rfl
    rw [hunsigned]
    exact ⟨hrow, valueOfDigits_zeros zeros n⟩
  · rintro ⟨hrow, rfl⟩
    obtain ⟨sign, hsign, htext⟩ := exists_sign text
    obtain ⟨zeros, hzeros⟩ := exists_zeros hrow
    exact ⟨sign, zeros, hsign, by rw [← hzeros, ← htext]⟩

theorem readNatural?_of_isRow {text : List Char} (h : IsRow (unsigned text)) (bound : Nat) :
    readNatural? bound text = if valueOfDigits 0 (unsigned text) < bound
      then some (valueOfDigits 0 (unsigned text)) else none := by
  have hall : (unsigned text).all Char.isDigit = true := List.all_eq_true.mpr h.2
  have hne : (unsigned text).isEmpty = false := List.isEmpty_eq_false_iff.mpr h.1
  simp only [readNatural?, hall, hne, Bool.not_true, Bool.or_false, Bool.false_eq_true, if_false]

theorem readNatural?_of_not_isRow {text : List Char} (h : ¬ IsRow (unsigned text)) (bound : Nat) :
    readNatural? bound text = none := by
  have hfault : ((unsigned text).isEmpty || !(unsigned text).all Char.isDigit) = true := by
    by_contra hno
    rw [Bool.not_eq_true, Bool.or_eq_false_iff, List.isEmpty_eq_false_iff, Bool.not_eq_false',
      List.all_eq_true] at hno
    exact h hno
  rw [readNatural?, if_pos hfault]

/-- **What is read**: numerals below the bound. -/
theorem readNatural?_eq_some_iff (bound : Nat) (text : List Char) (n : Nat) :
    readNatural? bound text = some n ↔ Numeral n text ∧ n < bound := by
  rw [numeral_iff]
  by_cases hrow : IsRow (unsigned text)
  · rw [readNatural?_of_isRow hrow, Option.ite_none_right_eq_some, Option.some_inj]
    constructor
    · rintro ⟨hlt, rfl⟩
      exact ⟨⟨hrow, rfl⟩, hlt⟩
    · rintro ⟨⟨-, rfl⟩, hlt⟩
      exact ⟨hlt, rfl⟩
  · simp [readNatural?_of_not_isRow hrow, hrow]

theorem not_isRow_iff (digits : List Char) :
    ¬ IsRow digits ↔ digits = [] ∨ ∃ c ∈ digits, c.isDigit = false := by
  simp only [IsRow, not_and_or, not_not, not_forall, Bool.not_eq_true, exists_prop]

/-- **What is not read**: nothing behind the sign, or something else than digits, or too much. -/
theorem readNatural?_eq_none_iff (bound : Nat) (text : List Char) :
    readNatural? bound text = none
      ↔ unsigned text = [] ∨ (∃ c ∈ unsigned text, c.isDigit = false)
        ∨ ∃ n, Numeral n text ∧ bound ≤ n := by
  have hlarge : (∃ n, Numeral n text ∧ bound ≤ n)
      ↔ IsRow (unsigned text) ∧ bound ≤ valueOfDigits 0 (unsigned text) := by
    simp only [numeral_iff]
    constructor
    · rintro ⟨n, ⟨hrow, rfl⟩, hle⟩
      exact ⟨hrow, hle⟩
    · rintro ⟨hrow, hle⟩
      exact ⟨_, ⟨hrow, rfl⟩, hle⟩
  rw [← or_assoc, ← not_isRow_iff, hlarge]
  by_cases hrow : IsRow (unsigned text)
  · simp [readNatural?_of_isRow hrow, hrow]
  · simp [readNatural?_of_not_isRow hrow, hrow]

end ConnectionPool.Text
