import ConnectionPool.Cache.Key
import ConnectionPool.Proofs.Text.Legible

/-!
# The printed form of a key

A printed argument is one element, or a row of elements in brackets (`Arg.form`); an element is an
integer or a text in quotes. Both are legible, so a printed argument says what its form is
(`Arg.legible_form`), and two arguments of one form are the same or two empty lists
(`Arg.form_eq_iff`). So a printed key says which key it is, up to the kind of its empty lists
(`CacheKey.render_identifies`).
-/

set_option autoImplicit false

namespace ConnectionPool

namespace Arg

/-- A list without values, of either kind. -/
def IsEmptyList (arg : Arg) : Prop := arg = ints [] ∨ arg = texts []

instance (arg : Arg) : Decidable arg.IsEmptyList :=
  inferInstanceAs (Decidable (arg = ints [] ∨ arg = texts []))

/-- **Arguments that print alike**: equal ones, and two empty lists. -/
def Alike (a b : Arg) : Prop := a = b ∨ a.IsEmptyList ∧ b.IsEmptyList

instance (a b : Arg) : Decidable (a.Alike b) :=
  inferInstanceAs (Decidable (a = b ∨ a.IsEmptyList ∧ b.IsEmptyList))

theorem Alike.eq_of_not_isEmptyList {a b : Arg} (h : a.Alike b) (ha : ¬ a.IsEmptyList) : a = b := by
  rcases h with he | ⟨hempty, -⟩
  · exact he
  · exact absurd hempty ha

/-! ## The form of an argument -/

/-- What an argument prints: one element, or a list of elements. -/
def form : Arg → (Int ⊕ String) ⊕ List (Int ⊕ String)
  | text value => .inl (.inr value)
  | int value => .inl (.inl value)
  | ints values => .inr (values.map .inl)
  | texts values => .inr (values.map .inr)

/-- An element in print. -/
def printElement : Int ⊕ String → List Char :=
  Sum.elim (fun value => (toString value).toList) fun value => (Text.quote value).toList

/-- A form in print. -/
def printForm : (Int ⊕ String) ⊕ List (Int ⊕ String) → List Char :=
  Sum.elim printElement fun values => '[' :: (Text.row printElement values ++ [']'])

/-- An argument prints its form. -/
theorem toList_render (arg : Arg) : arg.render.toList = printForm arg.form := by
  cases arg with
  | text value => rfl
  | int value => rfl
  | ints values =>
      simp only [render, Text.toList_listing, form, printForm, Sum.elim_inr, Text.row, List.map_map]
      rfl
  | texts values =>
      simp only [render, Text.toList_listing, form, printForm, Sum.elim_inr, Text.row, List.map_map]
      rfl

/-- **Two arguments of one form** are the same, or two empty lists. -/
theorem form_eq_iff (a b : Arg) : a.form = b.form ↔ a.Alike b := by
  constructor
  · intro h
    -- a row of integers is a row of texts only if there is nothing in it
    have hcross : ∀ (xs : List Int) (ys : List String),
        xs.map (Sum.inl : Int → Int ⊕ String) = ys.map .inr → xs = [] ∧ ys = [] := by
      intro xs ys he
      cases xs <;> cases ys <;> simp_all
    cases a <;> cases b
    case text.text s t => exact Or.inl (congrArg text (Sum.inr.inj (Sum.inl.inj h)))
    case int.int m n => exact Or.inl (congrArg int (Sum.inl.inj (Sum.inl.inj h)))
    case ints.ints xs ys =>
      exact Or.inl (congrArg ints (List.map_injective_iff.mpr Sum.inl_injective (Sum.inr.inj h)))
    case texts.texts xs ys =>
      exact Or.inl (congrArg texts (List.map_injective_iff.mpr Sum.inr_injective (Sum.inr.inj h)))
    case ints.texts xs ys =>
      obtain ⟨rfl, rfl⟩ := hcross xs ys (Sum.inr.inj h)
      exact Or.inr ⟨Or.inl rfl, Or.inr rfl⟩
    case texts.ints xs ys =>
      obtain ⟨rfl, rfl⟩ := hcross ys xs (Sum.inr.inj h).symm
      exact Or.inr ⟨Or.inr rfl, Or.inl rfl⟩
    all_goals simp [form] at h
  · rintro (rfl | ⟨rfl | rfl, rfl | rfl⟩) <;> rfl

/-! ## What is printed says what it was -/

/-- No integer begins with a quote or an opening bracket. -/
theorem head?_toString_ne {value : Int} {c : Char} (hsign : c ≠ '-') (hdigit : c.isDigit = false) :
    (toString value).toList.head? ≠ some c := by
  intro h
  rcases Text.mem_toList_toString (List.mem_of_mem_head? h) with rfl | hc
  · exact hsign rfl
  · rw [hdigit] at hc
    cases hc

theorem head?_quote (value : String) : (Text.quote value).toList.head? = some '"' := by
  rw [Text.quote, String.toList_ofList]
  rfl

theorem legible_element : Text.Legible printElement :=
  Text.legible_integer.sum Text.legible_quote fun value text => by
    rw [head?_quote text]
    exact head?_toString_ne (by decide) (by decide)

/-- **A printed form is legible.** -/
theorem legible_form : Text.Legible printForm :=
  legible_element.sum legible_element.listing fun element values => by
    cases element with
    | inl value => exact head?_toString_ne (by decide) (by decide)
    | inr value =>
        intro h
        have hlead : '"' = '[' := Option.some.inj ((head?_quote value).symm.trans h)
        exact absurd hlead (by decide)

end Arg

namespace CacheKey

/-- A printed key: the name of the operation, and a row of forms in brackets. -/
theorem toList_render (key : CacheKey) :
    key.render.toList
      = key.kind.method.word.toList
        ++ '(' :: (Text.row Arg.printForm (key.args.map Arg.form) ++ [')']) := by
  simp only [render, Text.row, String.toList_append, String.toList_intercalate, List.map_map,
    Function.comp_def, Arg.toList_render, List.append_assoc]
  rfl

/-- The names of the operations of two kinds cannot be taken for each other. -/
theorem word_append_inj {kind kind' : StatementKind} {rest rest' : List Char}
    (h : kind.method.word.toList ++ '(' :: rest = kind'.method.word.toList ++ '(' :: rest') :
    kind = kind' ∧ rest = rest' := by
  cases kind <;> cases kind' <;> simp_all [StatementKind.method, Method.word]

theorem render_eq_iff_form (key key' : CacheKey) :
    key.render = key'.render
      ↔ key.kind = key'.kind ∧ key.args.map Arg.form = key'.args.map Arg.form := by
  rw [← String.toList_inj, toList_render, toList_render]
  constructor
  · intro h
    obtain ⟨hkind, hrow⟩ := word_append_inj h
    exact ⟨hkind, (Arg.legible_form.row_inj rfl (by decide) hrow).1⟩
  · rintro ⟨hkind, hargs⟩
    rw [hkind, hargs]

/-- A key without empty lists among its arguments. -/
def Full (key : CacheKey) : Prop := ∀ arg ∈ key.args, ¬ arg.IsEmptyList

instance (key : CacheKey) : Decidable key.Full :=
  inferInstanceAs (Decidable (∀ arg ∈ key.args, ¬ arg.IsEmptyList))

/-- **The printed form of a key identifies it.** Two keys print alike if and only if they are of one
kind and have equally many arguments, which are pairwise equal or empty lists; keys without empty
lists print alike only if they are the same key. -/
theorem render_identifies (key key' : CacheKey) :
    (key.render = key'.render
      ↔ key.kind = key'.kind ∧ key.args.length = key'.args.length
        ∧ List.Forall₂ Arg.Alike key.args key'.args)
    ∧ (key.Full → key'.Full → (key.render = key'.render ↔ key = key')) := by
  have halike : key.args.map Arg.form = key'.args.map Arg.form
      ↔ List.Forall₂ Arg.Alike key.args key'.args := by
    rw [← List.forall₂_eq_eq_eq, List.forall₂_map_left_iff, List.forall₂_map_right_iff]
    simp only [Arg.form_eq_iff]
  have hiff := render_eq_iff_form key key'
  rw [halike] at hiff
  refine ⟨hiff.trans (and_congr_right fun _ => ?_), fun hfull _ => ⟨fun h => ?_, congrArg _⟩⟩
  · exact ⟨fun h => ⟨h.length_eq, h⟩, And.right⟩
  · obtain ⟨hkind, hargs⟩ := hiff.mp h
    have hsame : key.args = key'.args := by
      rw [← List.forall₂_eq_eq_eq, List.forall₂_iff_zip]
      refine ⟨hargs.length_eq, fun hmem => ?_⟩
      exact ((List.forall₂_iff_zip.mp hargs).2 hmem).eq_of_not_isEmptyList
        (hfull _ (List.of_mem_zip hmem).1)
    cases key
    cases key'
    cases hkind
    cases hsame
    rfl

/-- A text with quotes, commas and brackets in it, an accent behind a letter and a control character
is not printed like the texts it looks like; empty lists of integers and of texts are. -/
theorem render_identifies_quoting :
    (⟨.prepared, [.text "a\", \"e\u0301)\\", .ints [-1, 7]]⟩ : CacheKey).render
      ≠ (⟨.prepared, [.text "a", .text "e\u0301)\\", .ints [-1, 7]]⟩ : CacheKey).render
    ∧ (⟨.prepared, [.text "\x00]", .ints []]⟩ : CacheKey).render
      = (⟨.prepared, [.text "\x00]", .texts []]⟩ : CacheKey).render := by
  refine ⟨fun h => ?_, ?_⟩
  · have hsame := ((render_identifies _ _).2 (by decide) (by decide)).mp h
    exact absurd (congrArg (fun key : CacheKey => key.args.length) hsame) (by decide)
  · refine (render_identifies _ _).1.mpr ⟨rfl, rfl, ?_⟩
    exact .cons (Or.inl rfl) (.cons (Or.inr ⟨Or.inl rfl, Or.inr rfl⟩) .nil)

/-- A printed key, as a diagnostic shows it. -/
example :
    (⟨.callable, [.text "say \"hi\"", .int (-3), .texts ["x", "\\"]]⟩ : CacheKey).render
      = "prepareCall(\"say \\\"hi\\\"\", -3, [\"x\", \"\\\\\"])" := by
  decide +kernel

end CacheKey

end ConnectionPool
