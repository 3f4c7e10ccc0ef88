import ConnectionPool.Text.Blank
import Mathlib.Data.List.DropRight

/-!
# Texts without blanks at their ends

A text is trimmed if it neither begins nor ends with a blank. `trim` leaves such a text as it is and
takes away the blanks around it, and this says all there is to say of it (`trim_eq_iff`).
-/

set_option autoImplicit false

namespace ConnectionPool.Text

/-- Nothing but blanks. -/
def Blank (text : List Char) : Prop := ∀ c ∈ text, isBlank c = true

/-- **Trimmed**: with no blank at the beginning, and none at the end. -/
structure Trimmed (text : List Char) : Prop where
  front : ∀ c, text.head? = some c → isBlank c = false
  back : ∀ c, text.getLast? = some c → isBlank c = false

variable {text before after : List Char}

theorem Blank.nil : Blank [] := by
  intro c hc
  exact absurd hc List.not_mem_nil

theorem Blank.append (h : Blank before) (h' : Blank after) : Blank (before ++ after) := by
  intro c hc
  rcases List.mem_append.mp hc with hc | hc
  · exact h c hc
  · exact h' c hc

/-- Where no character is blank, none at the ends is. -/
theorem trimmed_of_no_blank (h : text.any isBlank = false) : Trimmed text where
  front c hc :=
    Bool.eq_false_iff.mpr (List.any_eq_false.mp h c (List.mem_of_mem_head? (Option.mem_def.mpr hc)))
  back c hc := Bool.eq_false_iff.mpr (List.any_eq_false.mp h c (List.mem_of_getLast? hc))

theorem dropWhile_of_front (h : ∀ c, text.head? = some c → isBlank c = false) :
    text.dropWhile isBlank = text := by
  cases text with
  | nil => rfl
  | cons c rest => rw [List.dropWhile_cons_of_neg (by simp [h c rfl])]

theorem trimRight_of_back (h : ∀ c, text.getLast? = some c → isBlank c = false) :
    trimRight text = text := by
  rw [trimRight, dropWhile_of_front, List.reverse_reverse]
  intro c hc
  rw [List.head?_reverse] at hc
  exact h c hc

/-- A trimmed text has nothing to lose. -/
theorem Trimmed.trim_eq (h : Trimmed text) : trim text = text := by
  rw [trim, dropWhile_of_front h.front, trimRight_of_back h.back]

/-! ## Blanks around a text -/

theorem dropWhile_blank (h : Blank before) (text : List Char) :
    (before ++ text).dropWhile isBlank = text.dropWhile isBlank :=
  List.dropWhile_append_of_pos h

theorem trimRight_blank (text : List Char) (h : Blank after) :
    trimRight (text ++ after) = trimRight text := by
  have hreverse : Blank after.reverse := fun c hc => h c (List.mem_reverse.mp hc)
  rw [trimRight, List.reverse_append, dropWhile_blank hreverse, trimRight]

/-- **The blanks around a text do not count.** -/
theorem trim_around (hb : Blank before) (text : List Char) (ha : Blank after) :
    trim (before ++ text ++ after) = trim text := by
  rw [List.append_assoc, trim, dropWhile_blank hb, trim]
  cases hdrop : text.dropWhile isBlank with
  | nil =>
      -- the text is blank itself, and nothing is left of what comes after it
      have htext : Blank text := List.dropWhile_eq_nil_iff.mp hdrop
      rw [dropWhile_blank htext, List.dropWhile_eq_nil_iff.mpr ha]
  | cons c rest =>
      rw [List.dropWhile_append, hdrop]
      exact trimRight_blank (c :: rest) ha

theorem trim_blank (h : Blank text) : trim text = [] := by
  have haround := trim_around h [] Blank.nil
  rwa [List.append_nil, List.append_nil] at haround

/-! ## Around a character that is no blank -/

theorem dropWhile_append_cons {c : Char} (hc : isBlank c = false) (front rest : List Char) :
    (front ++ c :: rest).dropWhile isBlank = front.dropWhile isBlank ++ c :: rest := by
  rw [List.dropWhile_append]
  split
  · next hnil =>
      rw [List.isEmpty_iff] at hnil
      rw [hnil, List.nil_append, List.dropWhile_cons_of_neg (by simp [hc])]
  · rfl

/-- A character that is no blank keeps what is trimmed before it from what is trimmed behind. -/
theorem trim_append_cons {c : Char} (hc : isBlank c = false) (front rest : List Char) :
    trim (front ++ c :: rest) = front.dropWhile isBlank ++ c :: trimRight rest := by
  have hreverse : ∀ l : List Char, (l ++ c :: rest).reverse = rest.reverse ++ c :: l.reverse := by
    intro l
    simp
  rw [trim, dropWhile_append_cons hc, trimRight, hreverse, dropWhile_append_cons hc]
  simp [trimRight]

/-! ## What is left -/

/-- What is dropped at the beginning is blank. -/
theorem exists_before (text : List Char) :
    ∃ before, Blank before ∧ text = before ++ text.dropWhile isBlank :=
  ⟨text.takeWhile isBlank, fun _ hc => List.mem_takeWhile_imp hc,
    List.takeWhile_append_dropWhile.symm⟩

/-- What is dropped at the end is blank. -/
theorem exists_after (text : List Char) :
    ∃ after, Blank after ∧ text = trimRight text ++ after := by
  obtain ⟨dropped, hblank, htext⟩ := exists_before text.reverse
  refine ⟨dropped.reverse, fun c hc => hblank c (List.mem_reverse.mp hc), ?_⟩
  rw [trimRight, ← List.reverse_append, ← htext, List.reverse_reverse]

/-- Trimming takes blanks away on both sides. -/
theorem exists_around (text : List Char) :
    ∃ before after, Blank before ∧ Blank after ∧ text = before ++ trim text ++ after := by
  obtain ⟨before, hb, hbefore⟩ := exists_before text
  obtain ⟨after, ha, hafter⟩ := exists_after (text.dropWhile isBlank)
  refine ⟨before, after, hb, ha, ?_⟩
  rw [List.append_assoc, trim, ← hafter, ← hbefore]

theorem trim_dropWhile (text : List Char) : trim (text.dropWhile isBlank) = trim text := by
  obtain ⟨before, hb, htext⟩ := exists_before text
  have haround := trim_around hb (text.dropWhile isBlank) Blank.nil
  rw [List.append_nil, ← htext] at haround
  exact haround.symm

theorem trim_trimRight (text : List Char) : trim (trimRight text) = trim text := by
  obtain ⟨after, ha, htext⟩ := exists_after text
  have haround := trim_around Blank.nil (trimRight text) ha
  rw [List.nil_append, ← htext] at haround
  exact haround.symm

theorem trimmed_trim (text : List Char) : Trimmed (trim text) := by
  have hfront : ∀ (l : List Char) (c : Char),
      (l.dropWhile isBlank).head? = some c → isBlank c = false := by
    intro l c hc
    have hhead := List.head?_dropWhile_not isBlank l
    rw [hc] at hhead
    exact hhead
  have hback : ∀ (l : List Char) (c : Char),
      (trimRight l).getLast? = some c → isBlank c = false := by
    intro l c hc
    rw [trimRight, List.getLast?_reverse] at hc
    exact hfront _ c hc
  refine ⟨fun c hc => ?_, hback _⟩
  -- what is cut off at the end is not the beginning
  refine hfront text c ?_
  have hprefix : trimRight (text.dropWhile isBlank) <+: text.dropWhile isBlank := by
    rw [← List.reverse_suffix, trimRight, List.reverse_reverse]
    exact List.dropWhile_suffix isBlank
  obtain ⟨rest, hrest⟩ := hprefix
  rw [← hrest, List.head?_append, show (trimRight (text.dropWhile isBlank)).head? = some c from hc]
  rfl

/-- **Trimming** leaves the trimmed text that has nothing but blanks around it. -/
theorem trim_eq_iff (text trimmed : List Char) :
    trim text = trimmed
      ↔ Trimmed trimmed ∧ ∃ before after, Blank before ∧ Blank after
        ∧ text = before ++ trimmed ++ after := by
  constructor
  · rintro rfl
    exact ⟨trimmed_trim text, exists_around text⟩
  · rintro ⟨htrimmed, before, after, hb, ha, rfl⟩
    rw [trim_around hb _ ha, htrimmed.trim_eq]

theorem trim_eq_nil_iff (text : List Char) : trim text = [] ↔ Blank text := by
  constructor
  · intro h
    obtain ⟨-, before, after, hb, ha, htext⟩ := (trim_eq_iff text []).mp h
    rw [htext, List.append_nil]
    exact hb.append ha
  · exact trim_blank

end ConnectionPool.Text
