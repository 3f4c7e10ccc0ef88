import ConnectionPool.Properties
import ConnectionPool.Proofs.Table.Overlaying
import ConnectionPool.Proofs.Text.Separating
import ConnectionPool.Proofs.Text.Trimming

/-!
# Properties on a line

A line is read part by part. What a part without commas comes to is given by a grammar
(`Properties.Grammar`), and a comma between two lines lays the properties of the second over those
of the first, unless one of them is faulty (`parse_append`). So a line on which pairs are written
one after the other, with blanks wherever they may be, is read as these pairs
(`line_grammar`).
-/

set_option autoImplicit false

namespace ConnectionPool

namespace Properties

open Text (Blank Trimmed)

variable {part text name value : List Char}

/-! ## One part -/

/-- **The grammar of a part**: what comes of it, where `text` is the part without the blanks around
it. -/
structure Grammar (text : List Char) (outcome : Except PoolError Properties) : Prop where
  nothing : text = [] → outcome = .ok Table.empty
  malformed : text ≠ [] → '=' ∉ text →
    outcome = .error (.configuration (.malformedProperty (String.ofList text)))
  nameless : ∀ name value, text = name ++ '=' :: value → Blank name →
    outcome = .error (.configuration (.namelessProperty (String.ofList text)))
  property : ∀ name value, text = name ++ '=' :: value → '=' ∉ name → ¬ Blank name →
    outcome = .ok (Table.empty.insert (String.ofList (Text.trim name))
      (String.ofList (Text.trim value)))

/-- Blanks are no equals signs. -/
theorem notMem_of_blank (h : Blank text) : '=' ∉ text := by
  intro hm
  exact absurd (h '=' hm) (by decide)

theorem isEmpty_trim_of_not_blank (h : ¬ Blank name) : (Text.trim name).isEmpty = false := by
  rw [List.isEmpty_eq_false_iff]
  intro hnil
  exact h ((Text.trim_eq_nil_iff name).mp hnil)

theorem readPart_blank (properties : Properties) (h : Text.trim part = []) :
    properties.readPart part = .ok properties := by
  simp only [readPart, h, List.isEmpty_nil, if_true]

theorem readPart_malformed (properties : Properties) (hne : Text.trim part ≠ [])
    (h : '=' ∉ Text.trim part) :
    properties.readPart part
      = .error (.configuration (.malformedProperty (String.ofList (Text.trim part)))) := by
  have hcut := (Text.cutAt?_eq_none_iff '=' (Text.trim part)).mpr h
  simp only [readPart, hcut, List.isEmpty_eq_false_iff.mpr hne, Bool.false_eq_true, if_false]

theorem readPart_nameless (properties : Properties)
    (htext : Text.trim part = name ++ '=' :: value) (h : Blank name) :
    properties.readPart part
      = .error (.configuration (.namelessProperty (String.ofList (Text.trim part)))) := by
  have hcut := Text.cutAt?_append (notMem_of_blank h) value
  have hne : (name ++ '=' :: value).isEmpty = false := by simp
  simp only [readPart, htext, hne, hcut, Text.trim_blank h, List.isEmpty_nil, Bool.false_eq_true,
    if_false, if_true]

theorem readPart_property (properties : Properties)
    (htext : Text.trim part = name ++ '=' :: value) (hfree : '=' ∉ name) (h : ¬ Blank name) :
    properties.readPart part = .ok (properties.insert (String.ofList (Text.trim name))
      (String.ofList (Text.trim value))) := by
  have hcut := Text.cutAt?_append hfree value
  have hne : (name ++ '=' :: value).isEmpty = false := by simp
  simp only [readPart, htext, hne, hcut, isEmpty_trim_of_not_blank h, Bool.false_eq_true, if_false]

/-- A part is read into whatever properties there are already. -/
theorem readPart_overlay (lower upper : Properties) (part : List Char) :
    readPart (lower.overlay upper) part = (readPart upper part).map lower.overlay := by
  unfold readPart
  simp only
  split
  · rfl
  · split
    · rfl
    · split
      · rfl
      · exact congrArg Except.ok (Table.overlay_insert lower upper _ _).symm

/-! ## All parts -/

theorem readParts_overlay (lower : Properties) (parts : List (List Char)) :
    ∀ upper : Properties, parts.foldlM readPart (lower.overlay upper)
      = (parts.foldlM readPart upper).map lower.overlay := by
  induction parts with
  | nil =>
      intro upper
      rfl
  | cons part rest ih =>
      intro upper
      rw [List.foldlM_cons, List.foldlM_cons, readPart_overlay]
      cases readPart upper part with
      | error error => rfl
      | ok upper' => exact ih upper'

/-- **A line without commas is one part.** -/
theorem parse_of_notMem {line : String} (h : ',' ∉ line.toList) :
    parse line = readPart Table.empty line.toList := by
  rw [parse, Text.fields_of_notMem h, List.foldlM_cons]
  cases readPart Table.empty line.toList <;> rfl

/-- **Two lines with a comma between them.** The first fault decides the error. -/
theorem parse_append (a b : String) :
    parse (a ++ "," ++ b) = (do
      let lower ← parse a
      let upper ← parse b
      .ok (lower.overlay upper)) := by
  have hline : (a ++ "," ++ b).toList = a.toList ++ ',' :: b.toList := by simp
  rw [parse, hline, Text.fields_append, List.foldlM_append]
  show (parse a >>= fun lower => (Text.fields ',' b.toList).foldlM readPart lower) = _
  cases parse a with
  | error error => rfl
  | ok lower =>
      have hupper := readParts_overlay lower (Text.fields ',' b.toList) Table.empty
      rw [Table.overlay_empty] at hupper
      show (Text.fields ',' b.toList).foldlM readPart lower = _
      rw [hupper]
      show (parse b).map lower.overlay = _
      cases parse b <;> rfl

theorem grammar_parse {line : String} (h : ',' ∉ line.toList) :
    Grammar (Text.trim line.toList) (parse line) := by
  rw [parse_of_notMem h]
  exact
    { nothing := readPart_blank Table.empty
      malformed := readPart_malformed Table.empty
      nameless := fun _ _ => readPart_nameless Table.empty
      property := fun _ _ => readPart_property Table.empty }

/-! ## Pairs written on a line -/

/-- **A pair that can be written on a line**: the name says something, neither text has blanks at
its ends, and neither would be cut. -/
structure Writable (pair : String × String) : Prop where
  named : pair.1 ≠ ""
  name : Trimmed pair.1.toList
  value : Trimmed pair.2.toList
  uncut : '=' ∉ pair.1.toList
  commaless : ',' ∉ pair.1.toList ∧ ',' ∉ pair.2.toList

/-- **A part on which a pair is written**, with blanks around the name and the value. -/
inductive Writes (pair : String × String) : List Char → Prop
  | intro {a b c d : List Char} (ha : Blank a) (hb : Blank b) (hc : Blank c) (hd : Blank d) :
      Writes pair (a ++ pair.1.toList ++ b ++ '=' :: (c ++ pair.2.toList ++ d))

/-- **Parts on which pairs are written**, in this order and with blank parts anywhere. -/
inductive WritesAll : List (String × String) → List (List Char) → Prop
  | nil : WritesAll [] []
  | blank {pairs : List (String × String)} {part : List Char} {parts : List (List Char)}
      (hb : Blank part) (h : WritesAll pairs parts) : WritesAll pairs (part :: parts)
  | pair {pair : String × String} {pairs : List (String × String)} {part : List Char}
      {parts : List (List Char)} (hp : Writes pair part) (h : WritesAll pairs parts) :
      WritesAll (pair :: pairs) (part :: parts)

/-- **The properties that pairs stand for**: the last one of a name counts. -/
def ofPairs (pairs : List (String × String)) : Properties :=
  pairs.foldl (fun set pair => set.insert pair.1 pair.2) Table.empty

variable {pair : String × String} {pairs : List (String × String)} {parts : List (List Char)}

/-! ## Reading what is written -/

/-- What stands before and behind the first equals sign is trimmed on its own. -/
theorem readPart_cut (properties : Properties) {front rest : List Char} (hfree : '=' ∉ front)
    (h : ¬ Blank front) :
    properties.readPart (front ++ '=' :: rest) = .ok (properties.insert
      (String.ofList (Text.trim front)) (String.ofList (Text.trim rest))) := by
  have htext := Text.trim_append_cons (c := '=') rfl front rest
  have hfront : '=' ∉ front.dropWhile Text.isBlank := fun hm =>
    hfree ((List.dropWhile_sublist _).subset hm)
  have hblank : ¬ Blank (front.dropWhile Text.isBlank) := by
    rw [← Text.trim_eq_nil_iff, Text.trim_dropWhile, Text.trim_eq_nil_iff]
    exact h
  rw [readPart_property properties htext hfront hblank, Text.trim_dropWhile, Text.trim_trimRight]

/-- A name that is trimmed and says something is not blank. -/
theorem Writable.not_blank (h : Writable pair) : ¬ Blank pair.1.toList := by
  intro hblank
  have hnil : pair.1.toList = [] := by
    rw [← h.name.trim_eq]
    exact Text.trim_blank hblank
  exact h.named (String.toList_eq_nil_iff.mp hnil)

theorem notMem_around {c : Char} (hc : Text.isBlank c = false) {a b : List Char} (ha : Blank a)
    (hb : Blank b) (h : c ∉ text) : c ∉ a ++ text ++ b := by
  have hblank : ∀ {l : List Char}, Blank l → c ∉ l := by
    intro l hl hm
    rw [hl c hm] at hc
    cases hc
  simp only [List.mem_append, not_or]
  exact ⟨⟨hblank ha, h⟩, hblank hb⟩

/-- **A part on which a pair is written is read as that pair.** -/
theorem Writes.readPart (h : Writes pair part) (hp : Writable pair) (properties : Properties) :
    properties.readPart part = .ok (properties.insert pair.1 pair.2) := by
  cases h with
  | @intro a b c d ha hb hc hd =>
      have hfree : '=' ∉ a ++ pair.1.toList ++ b := notMem_around rfl ha hb hp.uncut
      have hname : Text.trim (a ++ pair.1.toList ++ b) = pair.1.toList := by
        rw [Text.trim_around ha _ hb, hp.name.trim_eq]
      have hvalue : Text.trim (c ++ pair.2.toList ++ d) = pair.2.toList := by
        rw [Text.trim_around hc _ hd, hp.value.trim_eq]
      have hblank : ¬ Blank (a ++ pair.1.toList ++ b) := by
        rw [← Text.trim_eq_nil_iff, hname, ← hp.name.trim_eq, Text.trim_eq_nil_iff]
        exact hp.not_blank
      rw [readPart_cut properties hfree hblank, hname, hvalue, String.ofList_toList,
        String.ofList_toList]

theorem Writes.commaless (h : Writes pair part) (hp : Writable pair) : ',' ∉ part := by
  cases h with
  | @intro a b c d ha hb hc hd =>
      have hname := notMem_around (c := ',') rfl ha hb hp.commaless.1
      have hvalue := notMem_around (c := ',') rfl hc hd hp.commaless.2
      intro hm
      rcases List.mem_append.mp hm with hm | hm
      · exact hname hm
      · rcases List.mem_cons.mp hm with he | hm
        · exact absurd he (by decide)
        · exact hvalue hm

/-- The induction is on the parts; what was read of those before is whatever it may be. -/
theorem WritesAll.readParts (h : WritesAll pairs parts) (hp : ∀ pair ∈ pairs, Writable pair) :
    ∀ properties : Properties, parts.foldlM Properties.readPart properties
      = .ok (pairs.foldl (fun set pair => set.insert pair.1 pair.2) properties) := by
  induction h with
  | nil =>
      intro properties
      rfl
  | blank hb _ ih =>
      intro properties
      rw [List.foldlM_cons, readPart_blank properties (Text.trim_blank hb)]
      exact ih hp properties
  | pair hw _ ih =>
      intro properties
      rw [List.foldlM_cons, hw.readPart (hp _ List.mem_cons_self)]
      exact ih (fun pair hm => hp pair (List.mem_cons_of_mem _ hm)) _

theorem WritesAll.commaless (h : WritesAll pairs parts) (hp : ∀ pair ∈ pairs, Writable pair) :
    ∀ part ∈ parts, ',' ∉ part := by
  induction h with
  | nil =>
      intro part hm
      exact absurd hm List.not_mem_nil
  | blank hb _ ih =>
      intro part hm
      rcases List.mem_cons.mp hm with rfl | hm
      · intro hcomma
        exact absurd (hb ',' hcomma) (by decide)
      · exact ih hp part hm
  | pair hw _ ih =>
      intro part hm
      rcases List.mem_cons.mp hm with rfl | hm
      · exact hw.commaless (hp _ List.mem_cons_self)
      · exact ih (fun pair hm => hp pair (List.mem_cons_of_mem _ hm)) part hm

/-- **Pairs that are written on a line are read again.** -/
theorem WritesAll.parse (h : WritesAll pairs parts) (hp : ∀ pair ∈ pairs, Writable pair) :
    Properties.parse (String.ofList (Text.join ',' parts)) = .ok (ofPairs pairs) := by
  have hread := h.readParts hp Table.empty
  rw [Properties.parse, String.toList_ofList]
  by_cases hne : parts = []
  · -- the empty line has one part, which is blank
    subst hne
    cases h
    rfl
  · rw [Text.fields_join hne (h.commaless hp)]
    exact hread

/-- **How a line is read.** A comma lays the properties of what follows over those of what comes
before, and the first fault decides the error; a part without commas is read by the grammar; and
pairs that are written on a line, with blanks around names and values and with blank parts
anywhere, are read as these pairs, the last one of a name counting. -/
theorem line_grammar :
    (∀ a b : String, Properties.parse (a ++ "," ++ b) = (do
      let lower ← Properties.parse a
      let upper ← Properties.parse b
      .ok (lower.overlay upper)))
    ∧ (∀ (lower upper : Properties) (name : String),
      (lower.overlay upper).get? name = (upper.get? name).or (lower.get? name))
    ∧ (∀ part : String, ',' ∉ part.toList →
      Grammar (Text.trim part.toList) (Properties.parse part))
    ∧ (∀ (pairs : List (String × String)) (parts : List (List Char)), WritesAll pairs parts →
      (∀ pair ∈ pairs, Writable pair) →
      Properties.parse (String.ofList (Text.join ',' parts)) = .ok (ofPairs pairs)) := by
  refine ⟨parse_append, Table.get?_overlay, fun _ h => grammar_parse h, fun pairs parts h hp => ?_⟩
  exact h.parse hp

/-- The line `a = 1 , ,b=2=3,a=4 ` holds three pairs, of which the last one replaces the first; and a
part of it is read by the grammar. -/
theorem line_grammar_replaced :
    Properties.parse "a = 1 , ,b=2=3,a=4 " = .ok (ofPairs [("a", "1"), ("b", "2=3"), ("a", "4")])
    ∧ Properties.parse "b=2=3" = .ok (Table.empty.insert "b" "2=3") := by
  obtain ⟨-, -, hpart, hpairs⟩ := line_grammar
  constructor
  · have hspace : Blank [' '] := by
      intro c hc
      rw [List.mem_singleton.mp hc]
      decide
    have hwrites := hpairs [("a", "1"), ("b", "2=3"), ("a", "4")] _
      (.pair (.intro Blank.nil hspace hspace hspace)
        (.blank hspace
          (.pair (.intro Blank.nil Blank.nil Blank.nil Blank.nil)
            (.pair (.intro Blank.nil Blank.nil Blank.nil hspace) .nil))))
      (by
        intro pair hm
        simp only [List.mem_cons, List.not_mem_nil, or_false] at hm
        rcases hm with rfl | rfl | rfl
        all_goals
          exact ⟨by decide, Text.trimmed_of_no_blank (by decide),
            Text.trimmed_of_no_blank (by decide), by decide, by decide⟩)
    exact hwrites
  · exact (hpart "b=2=3" (by decide)).property ['b'] ['2', '=', '3'] (by decide) (by decide)
      (by
        intro hblank
        exact absurd (hblank 'b' (List.mem_singleton.mpr rfl)) (by decide))

end Properties

end ConnectionPool
