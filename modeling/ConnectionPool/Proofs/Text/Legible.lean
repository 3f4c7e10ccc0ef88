import ConnectionPool.Text.Layout
import ConnectionPool.Text.Quoted
import Mathlib

/-!
# Printed forms that can be read back

In the printed forms of the library a value is followed by a comma or by a closing bracket. A way of
printing is `Legible` if from there on the text says which value was printed and where it ends. A
text in quotes is legible (`legible_quoteChars`), whatever characters are in it, because an escape
says what it stands for and where it ends (`escape_append_inj`); an integer is legible
(`legible_integer`), because no mark is a digit. Legible forms stay so when they are put together:
two of them that begin differently side by side (`Legible.sum`), and one of them in a row between
brackets (`Legible.listing`).
-/

set_option autoImplicit false

namespace ConnectionPool.Text

/-! ## Marks -/

/-- The characters that may follow a printed value: a comma and the closing brackets. -/
def isMark (c : Char) : Bool := c == ',' || c == ']' || c == ')'

/-- A text that goes on with a mark. -/
def AtMark (text : List Char) : Prop := ∃ c rest, text = c :: rest ∧ isMark c = true

theorem AtMark.cons {c : Char} (h : isMark c = true) (rest : List Char) : AtMark (c :: rest) :=
  ⟨c, rest, rfl, h⟩

/-- A text ends before the first character of another kind. -/
theorem append_inj_of_all {p : Char → Bool} {a b rest rest' : List Char} {c c' : Char}
    (ha : ∀ x ∈ a, p x = true) (hb : ∀ x ∈ b, p x = true) (hc : p c = false) (hc' : p c' = false)
    (h : a ++ c :: rest = b ++ c' :: rest') : a = b ∧ c :: rest = c' :: rest' := by
  have hcut : a = b := by
    have htake := congrArg (List.takeWhile p) h
    rwa [List.takeWhile_append_of_pos ha, List.takeWhile_append_of_pos hb,
      List.takeWhile_cons_of_neg (by simp [hc]), List.takeWhile_cons_of_neg (by simp [hc']),
      List.append_nil, List.append_nil] at htake
  exact ⟨hcut, List.append_cancel_left (hcut ▸ h)⟩

/-! ## Legible forms -/

/-- **A printed form that can be read back**, if a mark follows it. -/
structure Legible {α : Type} (print : α → List Char) : Prop where
  /-- A printed value does not begin with a mark. -/
  opens : ∀ a, ∃ c rest, print a = c :: rest ∧ isMark c = false
  /-- The text says which value was printed, and where its printed form ends. -/
  reads : ∀ a b rest rest', AtMark rest → AtMark rest' →
    print a ++ rest = print b ++ rest' → a = b ∧ rest = rest'

/-- A row of printed values, with commas between them. -/
def row {α : Type} (print : α → List Char) (items : List α) : List Char :=
  [',', ' '].intercalate (items.map print)

section Rows

variable {α β : Type} {print : α → List Char} {closing : Char}

/-- The rest of a row, with the comma before each value. -/
def rowRest (print : α → List Char) (items : List α) : List Char :=
  items.flatMap fun item => ',' :: ' ' :: print item

theorem row_cons (print : α → List Char) (item : α) (items : List α) :
    row print (item :: items) = print item ++ rowRest print items := by
  induction items generalizing item with
  | nil => simp [row, rowRest]
  | cons next items ih =>
      have hnext := ih next
      simp only [row, List.map_cons] at hnext
      rw [row, List.map_cons, List.map_cons, List.intercalate_cons_cons, hnext]
      simp [rowRest]

theorem rowRest_cons (print : α → List Char) (item : α) (items : List α) :
    rowRest print (item :: items) = ',' :: ' ' :: row print (item :: items) := by
  rw [row_cons]
  rfl

theorem atMark_rowRest (hmark : isMark closing = true) (items : List α) (rest : List Char) :
    AtMark (rowRest print items ++ closing :: rest) := by
  cases items with
  | nil => exact AtMark.cons hmark rest
  | cons item items => exact AtMark.cons rfl _

/-- The rest of a row is read value by value, up to the closing bracket. -/
theorem Legible.rowRest_inj (h : Legible print) (hmark : isMark closing = true)
    (hcomma : closing ≠ ',') {xs ys : List α} {rest rest' : List Char}
    (he : rowRest print xs ++ closing :: rest = rowRest print ys ++ closing :: rest') :
    xs = ys ∧ rest = rest' := by
  induction xs generalizing ys with
  | nil =>
      cases ys with
      | nil => exact ⟨rfl, (List.cons.inj he).2⟩
      | cons y ys => exact absurd (List.cons.inj he).1 hcomma
  | cons x xs ih =>
      cases ys with
      | nil => exact absurd (List.cons.inj he).1.symm hcomma
      | cons y ys =>
          simp only [rowRest, List.flatMap_cons, List.cons_append, List.append_assoc,
            List.cons.injEq, true_and] at he
          obtain ⟨rfl, hrest⟩ :=
            h.reads x y _ _ (atMark_rowRest hmark xs rest) (atMark_rowRest hmark ys rest') he
          obtain ⟨rfl, hend⟩ := ih hrest
          exact ⟨rfl, hend⟩

/-- **A row up to its closing bracket says what is in it.** -/
theorem Legible.row_inj (h : Legible print) (hmark : isMark closing = true)
    (hcomma : closing ≠ ',') {xs ys : List α} {rest rest' : List Char}
    (he : row print xs ++ closing :: rest = row print ys ++ closing :: rest') :
    xs = ys ∧ rest = rest' := by
  -- a row with something in it does not begin with a bracket
  have hopen : ∀ (z : α) (zs : List α) (tail tail' : List Char),
      row print (z :: zs) ++ tail ≠ closing :: tail' := by
    intro z zs tail tail' hz
    obtain ⟨c, more, hc, hfree⟩ := h.opens z
    rw [row_cons, hc] at hz
    rw [(List.cons.inj hz).1, hmark] at hfree
    cases hfree
  cases xs with
  | nil =>
      cases ys with
      | nil => exact ⟨rfl, (List.cons.inj he).2⟩
      | cons y ys => exact absurd he.symm (hopen y ys _ _)
  | cons x xs =>
      cases ys with
      | nil => exact absurd he (hopen x xs _ _)
      | cons y ys =>
          have hrest : rowRest print (x :: xs) ++ closing :: rest
              = rowRest print (y :: ys) ++ closing :: rest' := by
            rw [rowRest_cons, rowRest_cons, List.cons_append, List.cons_append, List.cons_append,
              List.cons_append, he]
          exact h.rowRest_inj hmark hcomma hrest

/-- **A legible form in a row between square brackets is legible.** -/
theorem Legible.listing (h : Legible print) :
    Legible fun items => '[' :: (row print items ++ [']']) where
  opens items := ⟨'[', _, rfl, rfl⟩
  reads xs ys rest rest' _ _ he := by
    simp only [List.cons_append, List.append_assoc, List.nil_append, List.cons.injEq,
      true_and] at he
    exact h.row_inj rfl (by decide) he

theorem toList_listing (print : α → String) (items : List α) :
    (listing (items.map print)).toList
      = '[' :: (row (fun item => (print item).toList) items ++ [']']) := by
  simp only [listing, row, String.toList_append, String.toList_intercalate, List.map_map,
    Function.comp_def]
  rfl

/-- **Two legible forms that begin differently are legible side by side.** -/
theorem Legible.sum {print' : β → List Char} (h : Legible print) (h' : Legible print')
    (hlead : ∀ a b, (print a).head? ≠ (print' b).head?) : Legible (Sum.elim print print') where
  opens value := by
    cases value with
    | inl a => exact h.opens a
    | inr b => exact h'.opens b
  reads value value' rest rest' hrest hrest' he := by
    -- the first character of what is printed is the first character of the whole
    have hcross : ∀ a b tail tail', print a ++ tail ≠ print' b ++ tail' := by
      intro a b tail tail' heq
      obtain ⟨c, more, hc, -⟩ := h.opens a
      obtain ⟨d, more', hd, -⟩ := h'.opens b
      have hfirst := hlead a b
      rw [hc, hd] at heq hfirst
      exact hfirst (congrArg some (List.cons.inj heq).1)
    cases value with
    | inl a =>
        cases value' with
        | inl a' =>
            obtain ⟨rfl, hend⟩ := h.reads a a' rest rest' hrest hrest' he
            exact ⟨rfl, hend⟩
        | inr b' => exact absurd he (hcross a b' rest rest')
    | inr b =>
        cases value' with
        | inl a' => exact absurd he.symm (hcross a' b rest' rest)
        | inr b' =>
            obtain ⟨rfl, hend⟩ := h'.reads b b' rest rest' hrest hrest' he
            exact ⟨rfl, hend⟩

end Rows

/-! ## Integers -/

/-- The characters of an integer are digits, and perhaps a sign. -/
theorem mem_toList_toString {value : Int} {c : Char} (h : c ∈ (toString value).toList) :
    c = '-' ∨ c.isDigit = true := by
  have hdigit : ∀ n : Nat, c ∈ n.repr.toList → c.isDigit = true := by
    intro n hn
    rw [Nat.repr_eq_ofList_toDigits, String.toList_ofList] at hn
    exact Nat.isDigit_of_mem_toDigits (by decide) (by decide) hn
  change c ∈ value.repr.toList at h
  rw [Int.repr_eq_if] at h
  split at h
  · exact Or.inr (hdigit _ h)
  · rcases List.mem_cons.mp (String.toList_append ▸ h : c ∈ "-".toList ++ _) with rfl | hc
    · exact Or.inl rfl
    · exact Or.inr (hdigit _ hc)

theorem toList_toString_ne_nil (value : Int) : (toString value).toList ≠ [] := by
  change value.repr.toList ≠ []
  rw [Int.repr_eq_if]
  split
  · rw [Nat.repr_eq_ofList_toDigits, String.toList_ofList]
    exact Nat.toDigits_ne_nil
  · rw [String.toList_append]
    exact List.append_ne_nil_of_left_ne_nil (by decide) _

/-- Neither a sign nor a digit is a mark. -/
theorem isMark_of_mem_toString {value : Int} {c : Char} (h : c ∈ (toString value).toList) :
    isMark c = false := by
  by_contra hmark
  rw [Bool.not_eq_false] at hmark
  rcases mem_toList_toString h with rfl | hdigit
  · cases hmark
  · simp only [isMark, Bool.or_eq_true, beq_iff_eq] at hmark
    rcases hmark with (rfl | rfl) | rfl <;> cases hdigit

/-- **A printed integer is legible.** -/
theorem legible_integer : Legible fun value : Int => (toString value).toList where
  opens value := by
    obtain ⟨c, rest, hc⟩ := List.exists_cons_of_ne_nil (toList_toString_ne_nil value)
    exact ⟨c, rest, hc, isMark_of_mem_toString (hc ▸ List.mem_cons_self)⟩
  reads a b rest rest' hrest hrest' he := by
    obtain ⟨c, more, rfl, hc⟩ := hrest
    obtain ⟨c', more', rfl, hc'⟩ := hrest'
    have hfree : ∀ value : Int, ∀ x ∈ (toString value).toList, (!isMark x) = true := by
      intro value x hx
      rw [isMark_of_mem_toString hx]
      rfl
    obtain ⟨hchars, hend⟩ := append_inj_of_all (p := fun x => !isMark x) (hfree a) (hfree b)
      (by rw [hc]; rfl) (by rw [hc']; rfl) he
    exact ⟨Int.repr_injective (String.toList_injective hchars), hend⟩

/-! ## Hexadecimal digits -/

theorem mem_toDigits_sixteen {n : Nat} {c : Char} (h : c ∈ Nat.toDigits 16 n) :
    ∃ d < 16, c = Nat.digitChar d := by
  induction n using Nat.strong_induction_on with
  | _ n ih =>
      by_cases hn : n < 16
      · rw [Nat.toDigits_of_lt_base hn, List.mem_singleton] at h
        exact ⟨n, hn, h⟩
      · rw [Nat.toDigits_of_base_le (by decide) (not_lt.mp hn), List.mem_append] at h
        rcases h with h | h
        · exact ih (n / 16) (Nat.div_lt_self (by omega) (by decide)) h
        · exact ⟨n % 16, Nat.mod_lt n (by decide), List.mem_singleton.mp h⟩

/-- No hexadecimal digit is a brace. -/
theorem ne_brace_of_mem_toDigits {n : Nat} {c : Char} (h : c ∈ Nat.toDigits 16 n) :
    c ≠ '\x7d' := by
  have hdigit : ∀ d < 16, Nat.digitChar d ≠ '\x7d' := by decide
  obtain ⟨d, hd, rfl⟩ := mem_toDigits_sixteen h
  exact hdigit d hd

/-- A number is determined by its hexadecimal digits. -/
theorem toDigits_sixteen_inj {m n : Nat} (h : Nat.toDigits 16 m = Nat.toDigits 16 n) : m = n := by
  have hdigit : ∀ a < 16, ∀ b < 16, Nat.digitChar a = Nat.digitChar b → a = b := by decide
  -- a number of one digit against one of several
  have hshort : ∀ a b, a < 16 → ¬ b < 16 → Nat.toDigits 16 a ≠ Nat.toDigits 16 b := by
    intro a b ha hb he
    rw [Nat.toDigits_of_lt_base ha, Nat.toDigits_of_base_le (by decide) (not_lt.mp hb)] at he
    have hlen := congrArg List.length he
    have hpos : 0 < (Nat.toDigits 16 (b / 16)).length := Nat.length_toDigits_pos
    simp only [List.length_append, List.length_singleton] at hlen
    omega
  induction m using Nat.strong_induction_on generalizing n with
  | _ m ih =>
      by_cases hm : m < 16 <;> by_cases hn : n < 16
      · rw [Nat.toDigits_of_lt_base hm, Nat.toDigits_of_lt_base hn] at h
        exact hdigit m hm n hn (List.cons.inj h).1
      · exact absurd h (hshort m n hm hn)
      · exact absurd h.symm (hshort n m hn hm)
      · rw [Nat.toDigits_of_base_le (by decide) (not_lt.mp hm),
          Nat.toDigits_of_base_le (by decide) (not_lt.mp hn)] at h
        obtain ⟨hfront, hlast⟩ := List.append_inj' h rfl
        have hdiv := ih (m / 16) (Nat.div_lt_self (by omega) (by decide)) hfront
        have hmod := hdigit _ (Nat.mod_lt m (by decide)) _ (Nat.mod_lt n (by decide))
          (List.cons.inj hlast).1
        omega

/-! ## Quoted texts -/

/-- The character that a letter behind a backslash stands for. -/
def named (letter : Char) : Char :=
  if letter = '0' then '\x00'
  else if letter = 't' then '\t'
  else if letter = 'r' then '\r'
  else if letter = 'n' then '\n'
  else letter

/-- The three forms of a character inside quotes. -/
inductive Escaped (c : Char) : List Char → Prop
  /-- The character itself. -/
  | plain (hquote : c ≠ '"') (hslash : c ≠ '\\') : Escaped c [c]
  /-- A letter behind a backslash. -/
  | letter (l : Char) (hl : l ≠ 'u') (hc : c = named l) : Escaped c ['\\', l]
  /-- The code point in braces. -/
  | point : Escaped c (codePointEscape c)

theorem escaped (c : Char) : Escaped c (escape c) := by
  unfold escape
  split
  · next h => exact .letter '0' (by decide) h
  split
  · next h => exact .letter 't' (by decide) h
  split
  · next h => exact .letter 'r' (by decide) h
  split
  · next h => exact .letter 'n' (by decide) h
  split
  · next h => exact .letter '"' (by decide) h
  split
  · next h => exact .letter '\\' (by decide) h
  split
  · exact .point
  · exact .plain (by assumption) (by assumption)

theorem codePointEscape_append_inj {c d : Char} {rest rest' : List Char}
    (h : codePointEscape c ++ rest = codePointEscape d ++ rest') : c = d ∧ rest = rest' := by
  simp only [codePointEscape, List.cons_append, List.append_assoc, List.nil_append,
    List.cons.injEq, true_and] at h
  have hfree : ∀ n, ∀ x ∈ Nat.toDigits 16 n, (x != '\x7d') = true := fun n x hx =>
    bne_iff_ne.mpr (ne_brace_of_mem_toDigits hx)
  obtain ⟨hdigits, hend⟩ :=
    append_inj_of_all (p := fun x => x != '\x7d') (hfree _) (hfree _) rfl rfl h
  exact ⟨Char.toNat_inj.mp (toDigits_sixteen_inj hdigits), (List.cons.inj hend).2⟩

/-- **An escape says which character it stands for, and where it ends.** -/
theorem escape_append_inj {c d : Char} {rest rest' : List Char}
    (h : escape c ++ rest = escape d ++ rest') : c = d ∧ rest = rest' := by
  have hc := escaped c
  have hd := escaped d
  generalize escape c = front at h hc
  generalize escape d = front' at h hd
  cases hc with
  | plain hquote hslash =>
      cases hd with
      | plain => exact List.cons.inj h
      | letter => exact absurd (List.cons.inj h).1 hslash
      | point => exact absurd (List.cons.inj h).1 hslash
  | letter l hl hcl =>
      cases hd with
      | plain _ hslash => exact absurd (List.cons.inj h).1.symm hslash
      | letter l' _ hdl =>
          obtain ⟨rfl, hend⟩ := List.cons.inj (List.cons.inj h).2
          exact ⟨hcl.trans hdl.symm, hend⟩
      | point => exact absurd (List.cons.inj (List.cons.inj h).2).1 hl
  | point =>
      cases hd with
      | plain _ hslash => exact absurd (List.cons.inj h).1.symm hslash
      | letter l' hl' => exact absurd (List.cons.inj (List.cons.inj h).2).1.symm hl'
      | point => exact codePointEscape_append_inj h

/-- No escape begins with a quote. -/
theorem escape_append_ne_quote (c : Char) (rest rest' : List Char) :
    escape c ++ rest ≠ '"' :: rest' := by
  intro h
  have hc := escaped c
  generalize escape c = front at h hc
  cases hc with
  | plain hquote => exact hquote (List.cons.inj h).1
  | letter => exact absurd (List.cons.inj h).1 (by decide)
  | point => exact absurd (List.cons.inj h).1 (by decide)

/-- **A text in quotes says what the text is**, whatever follows the closing quote. -/
theorem quoteChars_append_inj {s t rest rest' : List Char}
    (h : quoteChars s ++ rest = quoteChars t ++ rest') : s = t ∧ rest = rest' := by
  simp only [quoteChars, List.cons_append, List.append_assoc, List.nil_append, List.cons.injEq,
    true_and] at h
  induction s generalizing t with
  | nil =>
      cases t with
      | nil => exact ⟨rfl, (List.cons.inj h).2⟩
      | cons d t =>
          rw [List.flatMap_cons, List.append_assoc] at h
          exact absurd h.symm (escape_append_ne_quote d _ _)
  | cons c s ih =>
      rw [List.flatMap_cons, List.append_assoc] at h
      cases t with
      | nil => exact absurd h (escape_append_ne_quote c _ _)
      | cons d t =>
          rw [List.flatMap_cons, List.append_assoc] at h
          obtain ⟨rfl, htail⟩ := escape_append_inj h
          obtain ⟨rfl, hend⟩ := ih htail
          exact ⟨rfl, hend⟩

/-- **A text in quotes is legible.** -/
theorem legible_quote : Legible fun value : String => (quote value).toList where
  opens value := ⟨'"', _, String.toList_ofList, rfl⟩
  reads a b rest rest' _ _ he := by
    simp only [quote, String.toList_ofList] at he
    obtain ⟨hchars, hend⟩ := quoteChars_append_inj he
    exact ⟨String.toList_injective hchars, hend⟩

end ConnectionPool.Text
