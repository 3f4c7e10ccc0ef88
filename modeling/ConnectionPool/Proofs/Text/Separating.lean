import ConnectionPool.Text.Fields
import Mathlib.Data.List.Basic

/-!
# Cutting at separators

A separator ends a field, so the fields of two texts with a separator between them are those of the
one and those of the other (`fields_append`), and pieces without separators come back when they are
joined and cut again (`fields_join`). A text is cut in two at its first separator, and nowhere if it
has none (`cutAt?_eq_some_iff`, `cutAt?_eq_none_iff`).
-/

set_option autoImplicit false

namespace ConnectionPool.Text

variable {separator : Char}

/-! ## Fields -/

/-- A text without separators is one field. -/
theorem fields_of_notMem {text : List Char} (h : separator ∉ text) :
    fields separator text = [text] := by
  induction text with
  | nil => rfl
  | cons c rest ih =>
      obtain ⟨hc, hrest⟩ := not_or.mp (mt List.mem_cons.mpr h)
      rw [fields, if_neg (Ne.symm hc), ih hrest]
      rfl

/-- **A separator ends a field.** -/
theorem fields_append (separator : Char) (before after : List Char) :
    fields separator (before ++ separator :: after)
      = fields separator before ++ fields separator after := by
  induction before with
  | nil => simp only [List.nil_append, fields, if_true, List.singleton_append]
  | cons c rest ih =>
      rw [List.cons_append, fields, fields, ih]
      split
      · rfl
      · -- the character belongs to the first field, and there is one
        cases hrest : fields separator rest with
        | nil => exact absurd hrest (fields_ne_nil separator rest)
        | cons piece pieces => rfl

/-- **What is joined can be cut again**, if the pieces have no separators in them. -/
theorem fields_join {pieces : List (List Char)} (hne : pieces ≠ [])
    (h : ∀ piece ∈ pieces, separator ∉ piece) : fields separator (join separator pieces) = pieces := by
  induction pieces with
  | nil => exact absurd rfl hne
  | cons piece rest ih =>
      have hpiece : fields separator piece = [piece] :=
        fields_of_notMem (h piece List.mem_cons_self)
      cases rest with
      | nil => exact hpiece
      | cons next more =>
          have hrest : ∀ piece ∈ next :: more, separator ∉ piece := fun piece hm =>
            h piece (List.mem_cons_of_mem _ hm)
          calc fields separator (join separator (piece :: next :: more))
              = fields separator (piece ++ separator :: join separator (next :: more)) := rfl
            _ = fields separator piece ++ fields separator (join separator (next :: more)) :=
                fields_append separator piece _
            _ = piece :: next :: more := by
                rw [hpiece, ih (List.cons_ne_nil _ _) hrest, List.singleton_append]

/-! ## The first separator -/

theorem cutAt?_eq_none_iff (separator : Char) (text : List Char) :
    cutAt? separator text = none ↔ separator ∉ text := by
  induction text with
  | nil => simp [cutAt?]
  | cons c rest ih =>
      by_cases hc : c = separator
      · simp [cutAt?, hc]
      · simp [cutAt?, hc, ih, Ne.symm hc]

/-- A text is cut at the separator before which there is none. -/
theorem cutAt?_append {before : List Char} (h : separator ∉ before) (after : List Char) :
    cutAt? separator (before ++ separator :: after) = some (before, after) := by
  induction before with
  | nil => rw [List.nil_append, cutAt?, if_pos rfl]
  | cons c rest ih =>
      obtain ⟨hc, hrest⟩ := not_or.mp (mt List.mem_cons.mpr h)
      rw [List.cons_append, cutAt?, if_neg (Ne.symm hc), ih hrest]
      rfl

/-- **Where a text is cut in two.** -/
theorem cutAt?_eq_some_iff (separator : Char) (text before after : List Char) :
    cutAt? separator text = some (before, after)
      ↔ text = before ++ separator :: after ∧ separator ∉ before := by
  constructor
  · intro h
    induction text generalizing before with
    | nil => cases h
    | cons c rest ih =>
        rw [cutAt?] at h
        split at h
        · next hc =>
            cases h
            exact ⟨by rw [hc, List.nil_append], List.not_mem_nil⟩
        · next hc =>
            obtain ⟨⟨inner, outer⟩, hcut, he⟩ := Option.map_eq_some_iff.mp h
            cases he
            obtain ⟨hrest, hfree⟩ := ih inner hcut
            refine ⟨by rw [hrest, List.cons_append], fun hm => ?_⟩
            rcases List.mem_cons.mp hm with rfl | hm
            · exact hc rfl
            · exact hfree hm
  · rintro ⟨rfl, h⟩
    exact cutAt?_append h after

end ConnectionPool.Text
