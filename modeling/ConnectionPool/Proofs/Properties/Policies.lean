import ConnectionPool.Cache.Policy
import ConnectionPool.Proofs.Properties.Parsing
import ConnectionPool.Proofs.Text.Numerals

/-!
# Policies on a line

A property counts if it is spelled as its kind of value is, and its default counts if it is not
there or not spelled so (`Reads`). So a policy that is written on a line, in whatever way and among
whatever else, is read again, and each of its fields depends on one property alone
(`reads_what_is_written`).
-/

set_option autoImplicit false

namespace ConnectionPool

namespace Properties

variable {pairs : List (String × String)} {name text : String}

/-! ## One property -/

/-- **A truth value in words**, in any ASCII letter case. -/
def SpellsTruth (truth : Bool) (text : String) : Prop :=
  Text.InAnyCase (if truth then "true" else "false").toList text.toList

/-- **A number of at most 64 bits**, in decimal, with a plus sign or none and with any number of
zeros in front. -/
def SpellsNumber (n : Nat) (text : String) : Prop :=
  Text.Numeral n text.toList ∧ n < 2 ^ 64

/-- **What a property comes to**, where `Spells` says how values are written. -/
structure Reads {α : Type} (Spells : α → String → Prop) (written : Option String)
    (default value : α) : Prop where
  spelled : ∀ a text, written = some text → Spells a text → value = a
  missing : written = none → value = default
  strange : ∀ text, written = some text → (∀ a, ¬ Spells a text) → value = default

theorem isWord_iff {word : String} (h : word.toList.all Char.isLower = true) (text : String) :
    isWord word text = true ↔ Text.InAnyCase word.toList text.toList := by
  rw [isWord, beq_iff_eq, Text.map_toLower_eq_iff (List.all_eq_true.mp h)]

theorem isWord_true_iff (text : String) : isWord "true" text = true ↔ SpellsTruth true text :=
  isWord_iff (by decide) text

theorem isWord_false_iff (text : String) : isWord "false" text = true ↔ SpellsTruth false text :=
  isWord_iff (by decide) text

/-- A text is one word at most. -/
theorem not_both (h : isWord "true" text = true) : ¬ isWord "false" text = true := by
  rw [isWord, beq_iff_eq] at h ⊢
  rw [h]
  decide

theorem reads_truthOf (properties : Properties) (name : String) (default : Bool) :
    Reads SpellsTruth (properties.get? name) default (properties.truthOf name default) where
  spelled := by
    intro truth text htext hspells
    simp only [truthOf, htext]
    cases truth with
    | true => rw [if_pos ((isWord_true_iff text).mpr hspells)]
    | false =>
        have hfalse := (isWord_false_iff text).mpr hspells
        rw [if_neg fun htrue => not_both htrue hfalse, if_pos hfalse]
  missing := by
    intro hnone
    simp only [truthOf, hnone]
  strange := by
    intro text htext hno
    simp only [truthOf, htext]
    rw [if_neg (mt (isWord_true_iff text).mp (hno true)),
      if_neg (mt (isWord_false_iff text).mp (hno false))]

theorem readNatural?_iff (n : Nat) (text : String) :
    Text.readNatural? wordBound text.toList = some n ↔ SpellsNumber n text :=
  Text.readNatural?_eq_some_iff wordBound text.toList n

theorem readNatural?_none_iff (text : String) :
    Text.readNatural? wordBound text.toList = none ↔ ∀ n, ¬ SpellsNumber n text := by
  simp only [Option.eq_none_iff_forall_ne_some, ne_eq, readNatural?_iff]

theorem reads_numberOf (properties : Properties) (name : String) (default : Nat) :
    Reads SpellsNumber (properties.get? name) default (properties.numberOf name default) where
  spelled := by
    intro n text htext hspells
    rw [numberOf, htext, Option.bind_some, (readNatural?_iff n text).mpr hspells, Option.getD_some]
  missing := by
    intro hnone
    rw [numberOf, hnone, Option.bind_none, Option.getD_none]
  strange := by
    intro text htext hno
    rw [numberOf, htext, Option.bind_some, (readNatural?_none_iff text).mpr hno, Option.getD_none]

/-! ## The last pair of a name -/

/-- **The last pair of a name**, with whatever before it and other names behind it. -/
def Last (pairs : List (String × String)) (name text : String) : Prop :=
  ∃ before after, pairs = before ++ (name, text) :: after ∧ ∀ pair ∈ after, pair.1 ≠ name

theorem get?_foldl_of_ne (h : ∀ pair ∈ pairs, pair.1 ≠ name) :
    ∀ properties : Properties,
      Table.get? (pairs.foldl (fun set pair => set.insert pair.1 pair.2) properties) name
        = properties.get? name := by
  induction pairs with
  | nil =>
      intro properties
      rfl
  | cons pair rest ih =>
      intro properties
      rw [List.foldl_cons, ih (fun pair hm => h pair (List.mem_cons_of_mem _ hm)),
        Table.get?_insert_of_ne _ _ (h pair List.mem_cons_self)]

/-- **The last pair of a name counts.** -/
theorem Last.get? (h : Last pairs name text) : (ofPairs pairs).get? name = some text := by
  obtain ⟨before, after, rfl, hafter⟩ := h
  rw [ofPairs, List.foldl_append, List.foldl_cons, get?_foldl_of_ne hafter,
    Table.get?_insert_self]

end Properties

namespace CachePolicy

open Properties

/-- **Pairs that ask for a policy**: the last one of each of its names spells its field. -/
structure AskedBy (policy : CachePolicy) (pairs : List (String × String)) : Prop where
  prepared : ∃ text, Last pairs "prepared" text ∧ SpellsTruth policy.prepared text
  callable : ∃ text, Last pairs "callable" text ∧ SpellsTruth policy.callable text
  limit : ∃ text, Last pairs "max" text ∧ SpellsNumber policy.limit text

variable {policy : CachePolicy} {pairs : List (String × String)}

theorem AskedBy.ofProperties_ofPairs (h : policy.AskedBy pairs) :
    ofProperties (ofPairs pairs) = policy := by
  obtain ⟨_, hprepared, hspells⟩ := h.prepared
  obtain ⟨_, hcallable, hspells'⟩ := h.callable
  obtain ⟨_, hlimit, hnumber⟩ := h.limit
  have hfield := (reads_truthOf (ofPairs pairs) "prepared" true).spelled _ _ hprepared.get? hspells
  have hfield' :=
    (reads_truthOf (ofPairs pairs) "callable" false).spelled _ _ hcallable.get? hspells'
  have hbound := (reads_numberOf (ofPairs pairs) "max" 50).spelled _ _ hlimit.get? hnumber
  calc ofProperties (ofPairs pairs)
      = ⟨(ofPairs pairs).truthOf "prepared" true, (ofPairs pairs).truthOf "callable" false,
          (ofPairs pairs).numberOf "max" 50⟩ := rfl
    _ = policy := by rw [hfield, hfield', hbound]

/-- **A policy that is written on a line is read again**: whatever else is written there, in
whatever order, and with blanks wherever they may be. And whatever the properties are, each field is
what its own property spells, or else its default; a text spells no limit if it is empty behind
the sign, or has something else than a digit there, or is too large. -/
theorem reads_what_is_written :
    (∀ (policy : CachePolicy) (pairs : List (String × String)) (parts : List (List Char)),
      policy.AskedBy pairs → WritesAll pairs parts → (∀ pair ∈ pairs, Writable pair) →
      (Properties.parse (String.ofList (Text.join ',' parts))).map ofProperties = .ok policy)
    ∧ (∀ properties : Properties,
      Reads SpellsTruth (properties.get? "prepared") true (ofProperties properties).prepared
      ∧ Reads SpellsTruth (properties.get? "callable") false (ofProperties properties).callable
      ∧ Reads SpellsNumber (properties.get? "max") 50 (ofProperties properties).limit)
    ∧ (∀ text : String, (∀ n, ¬ SpellsNumber n text)
      ↔ Text.unsigned text.toList = [] ∨ (∃ c ∈ Text.unsigned text.toList, c.isDigit = false)
        ∨ ∃ n, Text.Numeral n text.toList ∧ 2 ^ 64 ≤ n) := by
  refine ⟨fun policy pairs parts hasked hwrites hpairs => ?_, fun properties => ?_, fun text => ?_⟩
  · rw [hwrites.parse hpairs]
    show Except.ok (ofProperties (ofPairs pairs)) = Except.ok policy
    rw [hasked.ofProperties_ofPairs]
  · exact ⟨reads_truthOf properties "prepared" true, reads_truthOf properties "callable" false,
      reads_numberOf properties "max" 50⟩
  · rw [← readNatural?_none_iff]
    exact Text.readNatural?_eq_none_iff wordBound text.toList

/-- The line `max=9,prepared=FALSE,x=y,callable=True,max = +007` asks for a limit of seven, and a
limit of minus one is the standard one. -/
theorem reads_what_is_written_mixed :
    (Properties.parse "max=9,prepared=FALSE,x=y,callable=True,max = +007").map ofProperties
      = .ok ⟨false, true, 7⟩
    ∧ (ofProperties (Table.empty.insert "max" "-1")).limit = 50 := by
  obtain ⟨hline, hfields, hstrange⟩ := reads_what_is_written
  have hblank : Text.Blank [' '] := by
    intro c hc
    rw [List.mem_singleton.mp hc]
    decide
  have hasked : (⟨false, true, 7⟩ : CachePolicy).AskedBy
      [("max", "9"), ("prepared", "FALSE"), ("x", "y"), ("callable", "True"), ("max", "+007")] := by
    refine ⟨⟨"FALSE", ⟨[("max", "9")], _, rfl, by decide⟩, ?_⟩,
      ⟨"True", ⟨[("max", "9"), ("prepared", "FALSE"), ("x", "y")], _, rfl, by decide⟩, ?_⟩,
      ⟨"+007", ⟨[("max", "9"), ("prepared", "FALSE"), ("x", "y"), ("callable", "True")], _, rfl,
        by decide⟩, ⟨['+'], 2, Or.inr rfl, by decide⟩, by decide⟩⟩
    · rw [← isWord_false_iff]
      decide
    · rw [← isWord_true_iff]
      decide
  constructor
  · have hread := hline _ _ _ hasked
      (.pair (.intro .nil .nil .nil .nil) (.pair (.intro .nil .nil .nil .nil)
        (.pair (.intro .nil .nil .nil .nil) (.pair (.intro .nil .nil .nil .nil)
          (.pair (.intro .nil hblank hblank .nil) .nil)))))
      (by
        intro pair hm
        simp only [List.mem_cons, List.not_mem_nil, or_false] at hm
        rcases hm with rfl | rfl | rfl | rfl | rfl
        all_goals
          exact ⟨by decide, Text.trimmed_of_no_blank (by decide),
            Text.trimmed_of_no_blank (by decide), by decide, by decide⟩)
    exact hread
  · refine (hfields _).2.2.strange "-1" (Table.get?_insert_self _ _ _) ?_
    rw [hstrange]
    exact Or.inr (Or.inl ⟨'-', by decide, by decide⟩)

end CachePolicy

end ConnectionPool
