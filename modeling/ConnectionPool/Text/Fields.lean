/-!
# Separated fields

A text cut at every occurrence of a separator (`fields`), and a text cut at the first one
(`cutAt?`). Joining the fields with the separator gives the text back.
-/

set_option autoImplicit false

namespace ConnectionPool.Text

/-- The pieces of a text between the occurrences of `separator`. There is always one more
piece than there are separators, so the empty text has one empty piece. -/
def fields (separator : Char) : List Char → List (List Char)
  | [] => [[]]
  | c :: rest =>
      if c = separator then [] :: fields separator rest
      else (fields separator rest).modifyHead (c :: ·)

/-- What stands before and after the first `separator`, if there is one. -/
def cutAt? (separator : Char) : List Char → Option (List Char × List Char)
  | [] => none
  | c :: rest =>
      if c = separator then some ([], rest)
      else (cutAt? separator rest).map fun (before, after) => (c :: before, after)

/-- The pieces joined again, with the separator between two neighbours. -/
def join (separator : Char) : List (List Char) → List Char
  | [] => []
  | [piece] => piece
  | piece :: next :: rest => piece ++ separator :: join separator (next :: rest)

/-- A text has at least one field. -/
theorem fields_ne_nil (separator : Char) (text : List Char) : fields separator text ≠ [] := by
  induction text with
  | nil => simp [fields]
  | cons c rest ih =>
      by_cases h : c = separator
      · simp [fields, h]
      · cases hrest : fields separator rest with
        | nil => exact absurd hrest ih
        | cons piece pieces => simp [fields, h, hrest]

/-- Cutting loses nothing. -/
theorem join_fields (separator : Char) (text : List Char) :
    join separator (fields separator text) = text := by
  induction text with
  | nil => rfl
  | cons c rest ih =>
      have hne := fields_ne_nil separator rest
      cases hrest : fields separator rest with
      | nil => exact absurd hrest hne
      | cons piece pieces =>
          rw [hrest] at ih
          by_cases h : c = separator
          · simp [fields, h, hrest, join, ih]
          · cases pieces with
            | nil => simpa [fields, h, hrest, join] using ih
            | cons next more => simpa [fields, h, hrest, join] using ih

end ConnectionPool.Text
