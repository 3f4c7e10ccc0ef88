import ConnectionPool.Pool.Config
import Mathlib

/-!
# What a pool is refused for

A configuration is refused for a limit of zero, or else for the name at the first place whose name
came before (`firstRepeated?_cases`); a configuration without such a place has distinct names
(`nodup_iff_not_repeatsAt`).

The definitions of a valid configuration are asked in order for an interceptor each, and a factory
may refuse at any call, whatever was asked before (`Factories`). Either each of them makes one, or
there is a first that refuses, and no definition behind it is asked (`Factories.askAll_cases`).
-/

set_option autoImplicit false

namespace ConnectionPool

/-! ## Going through a list -/

section Places

variable {α : Type} {P : Nat → Prop}

theorem getElem?_length_append (before : List α) (item : α) (rest : List α) :
    (before ++ item :: rest)[before.length]? = some item := by
  rw [List.getElem?_append_right le_rfl, Nat.sub_self]
  rfl

theorem isLeast_of_forall_lt {n : Nat} (h : P n) (hlt : ∀ j < n, ¬ P j) : IsLeast {j | P j} n :=
  ⟨h, fun j hj => not_lt.mp fun hjn => hlt j hjn hj⟩

/-- What holds of the places gone through, and of the next one. -/
theorem forall_lt_length_concat {before : List α} (h : ∀ j < before.length, P j)
    (hnext : P before.length) (item : α) : ∀ j < (before ++ [item]).length, P j := by
  rw [List.length_append, List.length_singleton]
  exact Nat.forall_lt_succ_right.mpr ⟨h, hnext⟩

end Places

/-! ## Repeated names -/

/-- The name at the place `i` came before. -/
def RepeatsAt (names : List String) (i : Nat) : Prop :=
  ∃ name, names[i]? = some name ∧ name ∈ names.take i

/-- Names are distinct when there is no place whose name came before. -/
theorem nodup_iff_not_repeatsAt (names : List String) :
    names.Nodup ↔ ∀ i, ¬ RepeatsAt names i := by
  rw [List.nodup_iff_getElem?_ne_getElem?]
  constructor
  · rintro h i ⟨name, hi, hm⟩
    obtain ⟨j, hj, he⟩ := List.mem_take_iff_getElem.mp hm
    have hlt : j < i ∧ j < names.length := lt_min_iff.mp hj
    refine h j i hlt.1 (List.getElem?_eq_some_iff.mp hi).1 ?_
    rw [hi, List.getElem?_eq_getElem hlt.2, he]
  · intro h i j hij hj he
    refine h j ⟨names[j], List.getElem?_eq_getElem hj, ?_⟩
    have hi : i < names.length := hij.trans hj
    rw [List.getElem?_eq_getElem hi, List.getElem?_eq_getElem hj] at he
    exact List.mem_take_iff_getElem.mpr ⟨i, lt_min hij hi, Option.some.inj he⟩

/-- **The first repeated name**, behind names `before` that are not repeated themselves. The
induction moves one name after the other from what is left to what came before. -/
theorem firstRepeated?_spec (names : List String) : ∀ (seen before : List String),
    (∀ name, name ∈ seen ↔ name ∈ before) →
    (∀ j < before.length, ¬ RepeatsAt (before ++ names) j) →
    (firstRepeated? seen names = none ∧ ∀ j, ¬ RepeatsAt (before ++ names) j)
    ∨ ∃ i name, IsLeast {j | RepeatsAt (before ++ names) j} i ∧ (before ++ names)[i]? = some name
      ∧ firstRepeated? seen names = some name := by
  induction names with
  | nil =>
      intro seen before _ hbefore
      refine Or.inl ⟨rfl, fun j hj => hbefore j ?_ hj⟩
      obtain ⟨name, hname, -⟩ := hj
      rw [List.append_nil] at hname
      exact (List.getElem?_eq_some_iff.mp hname).1
  | cons name rest ih =>
      intro seen before hseen hbefore
      have hplace := getElem?_length_append before name rest
      have htake : (before ++ name :: rest).take before.length = before := List.take_left
      by_cases hm : name ∈ before
      · have hrepeats : RepeatsAt (before ++ name :: rest) before.length :=
          ⟨name, hplace, htake.symm ▸ hm⟩
        refine Or.inr ⟨before.length, name, isLeast_of_forall_lt hrepeats hbefore, hplace, ?_⟩
        rw [firstRepeated?, if_pos (List.contains_iff_mem.mpr ((hseen name).mpr hm))]
      · have hfirst : ¬ RepeatsAt (before ++ name :: rest) before.length := by
          rintro ⟨name', hname', hm'⟩
          rw [hplace] at hname'
          rw [htake, ← Option.some.inj hname'] at hm'
          exact hm hm'
        have hnext := forall_lt_length_concat hbefore hfirst name
        have hmoved : before ++ name :: rest = (before ++ [name]) ++ rest := by
          rw [List.append_assoc, List.singleton_append]
        rw [hmoved] at hnext ⊢
        rw [firstRepeated?, if_neg fun h => hm ((hseen name).mp (List.contains_iff_mem.mp h))]
        refine ih (name :: seen) (before ++ [name]) (fun other => ?_) hnext
        rw [List.mem_cons, List.mem_append, List.mem_singleton, hseen, or_comm]

/-- **Either all names are distinct, or the name at the first repeated place is found.** -/
theorem firstRepeated?_cases (names : List String) :
    (firstRepeated? [] names = none ∧ names.Nodup)
    ∨ ∃ i name, IsLeast {j | RepeatsAt names j} i ∧ names[i]? = some name
      ∧ firstRepeated? [] names = some name := by
  have hspec := firstRepeated?_spec names [] [] (fun _ => Iff.rfl) fun j hj => absurd hj (by simp)
  rw [List.nil_append, ← nodup_iff_not_repeatsAt] at hspec
  exact hspec

/-- The first repeated name is not the repeated name that came first. -/
example : firstRepeated? [] ["trace", "cache", "cache", "trace"] = some "cache" := by
  decide

/-! ## Factories -/

/-- **A family of factories**: whether the next call for an interceptor makes one, after the calls
that were made so far, or which error it gives. -/
abbrev Factories := List Definition → Definition → Except PoolError Unit

namespace Factories

/-- Ask for an interceptor from each definition in order, up to the first that is refused; all
definitions that were asked, and the verdict. -/
def askAll (factories : Factories) (asked : List Definition) :
    List Definition → List Definition × Except PoolError Unit
  | [] => (asked, .ok ())
  | definition :: rest =>
      match factories asked definition with
      | .error error => (asked ++ [definition], .error error)
      | .ok () => askAll factories (asked ++ [definition]) rest

/-- The definition at the place `i` makes an interceptor, if those before it are asked first. -/
def MakesAt (factories : Factories) (definitions : List Definition) (i : Nat) : Prop :=
  ∀ definition, definitions[i]? = some definition →
    factories (definitions.take i) definition = .ok ()

variable {factories : Factories}

/-- **Asking the definitions** `rest`, behind those `asked`, which all made an interceptor. -/
theorem askAll_spec (rest : List Definition) : ∀ asked : List Definition,
    (∀ j < asked.length, factories.MakesAt (asked ++ rest) j) →
    (factories.askAll asked rest = (asked ++ rest, .ok ())
      ∧ ∀ j, factories.MakesAt (asked ++ rest) j)
    ∨ ∃ i definition error, IsLeast {j | ¬ factories.MakesAt (asked ++ rest) j} i
      ∧ (asked ++ rest)[i]? = some definition
      ∧ factories ((asked ++ rest).take i) definition = .error error
      ∧ factories.askAll asked rest = ((asked ++ rest).take (i + 1), .error error) := by
  induction rest with
  | nil =>
      intro asked hasked
      refine Or.inl ⟨by rw [List.append_nil, askAll], fun j definition hj => ?_⟩
      refine hasked j ?_ definition hj
      rw [List.append_nil] at hj
      exact (List.getElem?_eq_some_iff.mp hj).1
  | cons definition rest ih =>
      intro asked hasked
      have hplace := getElem?_length_append asked definition rest
      have htake : (asked ++ definition :: rest).take asked.length = asked := List.take_left
      have hmoved : asked ++ definition :: rest = (asked ++ [definition]) ++ rest := by
        rw [List.append_assoc, List.singleton_append]
      cases hasks : factories asked definition with
      | error error =>
          have hrefused : ¬ factories.MakesAt (asked ++ definition :: rest) asked.length := by
            intro hmakes
            have hok := hmakes definition hplace
            rw [htake, hasks] at hok
            cases hok
          have hleast := isLeast_of_forall_lt hrefused fun j hj => not_not_intro (hasked j hj)
          have htaken : (asked ++ definition :: rest).take (asked.length + 1)
              = asked ++ [definition] := by
            rw [hmoved]
            exact List.take_left' (by simp)
          refine Or.inr ⟨asked.length, definition, error, hleast, hplace, ?_, ?_⟩
          · rw [htake, hasks]
          · rw [askAll, hasks, htaken]
      | ok _ =>
          have hmakes : factories.MakesAt (asked ++ definition :: rest) asked.length := by
            intro definition' hd
            rw [hplace] at hd
            rw [htake, ← Option.some.inj hd, hasks]
          have hnext := forall_lt_length_concat hasked hmakes definition
          rw [askAll, hasks]
          rw [hmoved] at hnext ⊢
          exact ih (asked ++ [definition]) hnext

/-- **Either every definition makes an interceptor, or there is a first that is refused**, and none
behind it is asked. -/
theorem askAll_cases (factories : Factories) (definitions : List Definition) :
    (factories.askAll [] definitions = (definitions, .ok ())
      ∧ ∀ i, factories.MakesAt definitions i)
    ∨ ∃ i definition error, IsLeast {j | ¬ factories.MakesAt definitions j} i
      ∧ definitions[i]? = some definition
      ∧ factories (definitions.take i) definition = .error error
      ∧ factories.askAll [] definitions = (definitions.take (i + 1), .error error) :=
  askAll_spec definitions [] fun _ hj => absurd hj (by simp)

/-- The factories of definitions that say themselves at which attempts they refuse, when each is
asked for the first time. -/
def scheduled : Factories := fun _ definition =>
  if definition.refusals.contains 1 then
    .error (.configuration (.refusedInterceptor definition.name))
  else .ok ()

end Factories

end ConnectionPool
